import ClusterOperator.Controller.SpecFrame
import ClusterOperator.Interaction.Exchange

/-! The steps after the builder loop with the pointers that they work on. An object that could
not be read is a nil pointer, and a use of it is a panic. -/

namespace ClusterOperator.Controller.Pointer

open Api Kubernetes Interaction Resource

def deref {α β : Type} (pointer : Option α) (f : α → Operation (Except Err β)) : Operation (Except Err β) :=
  match pointer with
  | none => return .error nilPointer
  | some a => f a

def statefulSet : Operation (Option StatefulSet × Option Err) := do
  match ← Client.getStatefulSet with
  | .error e => return (none, some (.api e))
  | .ok sts => return (some sts, none)

def configMap (k : Kind) : Operation (Option DataObject × Option Err) := do
  match ← Client.getChild k with
  | .error e => return (none, some (.api e))
  | .ok configMap => return (some configMap, none)

def restartStatefulSetIfNeeded : Operation (Except Err (ℕ × Option Err)) := do
  let (serverConf, err) ← configMap .serverConf
  if err ≠ none then return .ok (10, ignoreNotFound err)
  else deref serverConf fun serverConf =>
    match serverConf.metadata.annotations.get? serverConfAnnotation with
    | none => return .ok (0, none)
    | some serverConfigUpdatedAt => do
      let (sts, err) ← statefulSet
      if err ≠ none then return .ok (10, ignoreNotFound err)
      else deref sts fun sts =>
        if (sts.template.annotations.get? stsRestartAnnotation).any (fun t => serverConfigUpdatedAt < t) then
          return .ok (0, none)
        else do
          let (err, _) ← retryOnConflict restart ()
          return .ok (0, err)

def reconcileRabbitmqVersionAnnotation (m : Memory) : Operation (Except Err (ℕ × Option Err × Memory)) := do
  let (sts, err) ← statefulSet
  if err ≠ none then return .ok (0, err, m)
  else deref sts fun sts =>
    if allReplicasReadyAndUpdated sts then do
      match ← Client.overview (m.cluster.childResourceName "server" ++ "-0") with
      | .error _ => return .ok (0, none, m)
      | .ok versions =>
        if versionsAnnotated m.cluster versions then return .ok (0, none, m)
        else
          match ← updateCluster (m.modify (setVersions versions)) with
          | (none, m) => return .ok (0, none, m)
          | (some err, m) =>
            return .ok (0, some (.wrap "failed to update RabbitmqCluster with version annotations" err), m)
    else return .ok (15, none, m)

/-- The inner error is that of a time that cannot be parsed. -/
def pluginsConfigUpdatedRecently (cfg : Option DataObject) : Operation (Except Err (Except Err Bool)) :=
  deref cfg fun cfg => do return .ok (← Controller.pluginsConfigUpdatedRecently cfg)

def runRabbitmqCLICommandsIfAnnotated (m : Memory) : Operation (Except Err (ℕ × Option Err × Memory)) := do
  let (sts, err) ← statefulSet
  if err ≠ none then return .ok (0, err, m)
  else deref sts fun sts =>
    if allReplicasReadyAndUpdated sts then do
      let (pluginsConfig, err) ← configMap .pluginsConf
      if ignoreNotFound err ≠ none then return .ok (0, err, m)
      else
        match ← pluginsConfigUpdatedRecently pluginsConfig with
        | .error panic => return .error panic
        | .ok (.error err) => return .ok (0, some err, m)
        | .ok (.ok true) => return .ok (2, none, m)
        | .ok (.ok false) => deref pluginsConfig fun pluginsConfig => do
          let (err, m) ← runCommands m sts pluginsConfig
          return .ok (0, err, m)
    else return .ok (15, none, m)

section Refinement

lemma restartStatefulSetIfNeeded_eq :
    restartStatefulSetIfNeeded = do return .ok (← Controller.restartStatefulSetIfNeeded) := by
  refine congrArg (Program.send _) (funext fun reply => ?_)
  cases reply with
  | error e => rfl
  | ok serverConf =>
    change (match serverConf.metadata.annotations.get? serverConfAnnotation with | none => _ | some _ => _) =
      (match serverConf.metadata.annotations.get? serverConfAnnotation with | none => _ | some _ => _) >>= _
    cases serverConf.metadata.annotations.get? serverConfAnnotation with
    | none => rfl
    | some serverConfigUpdatedAt =>
      refine congrArg (Program.send _) (funext fun reply => ?_)
      cases reply with
      | error e => rfl
      | ok sts =>
        change (if _ then _ else _) = (if _ then _ else _) >>= _
        split
        · rfl
        · rw [Program.bind_assoc]
          rfl

lemma reconcileRabbitmqVersionAnnotation_eq (m : Memory) :
     reconcileRabbitmqVersionAnnotation m = do return .ok (← Controller.reconcileRabbitmqVersionAnnotation m) := by
  refine congrArg (Program.send _) (funext fun reply => ?_)
  cases reply with
  | error e => rfl
  | ok sts =>
    change (if _ then _ else _) = (if _ then _ else _) >>= _
    split
    · refine congrArg (Program.send _) (funext fun reply => ?_)
      cases reply with
      | error e => rfl
      | ok versions =>
        change (if _ then _ else _) = (if _ then _ else _) >>= _
        split
        · rfl
        · refine congrArg (Program.send _) (funext fun reply => ?_)
          cases reply <;> rfl
    · rfl

lemma runRabbitmqCLICommandsIfAnnotated_eq (m : Memory) :
    runRabbitmqCLICommandsIfAnnotated m = Controller.runRabbitmqCLICommandsIfAnnotated m := by
  refine congrArg (Program.send _) (funext fun reply => ?_)
  cases reply with
  | error e => rfl
  | ok sts =>
    change (if _ then _ else _) = (if _ then _ else _)
    split
    · refine congrArg (Program.send _) (funext fun reply => ?_)
      rcases reply with (_ | _ | _ | message) | cfg
      · rfl
      · rfl
      · rfl
      · rfl
      · change (Controller.pluginsConfigUpdatedRecently cfg >>= fun recent => Program.done (Except.ok recent)) >>= _ =
          Controller.pluginsConfigUpdatedRecently cfg >>= _
        rw [Program.bind_assoc]
        refine congrArg (Controller.pluginsConfigUpdatedRecently cfg >>= ·) (funext fun recent => ?_)
        rcases recent with err | _ | _ <;> rfl
    · rfl

end Refinement

def MissesPlugins (xs : List (Exchange api)) : Prop :=
  ∃ sts, allReplicasReadyAndUpdated sts = true ∧
    xs = [⟨.getStatefulSet, .ok sts⟩, ⟨.getChild .pluginsConf, .error .notFound⟩]

lemma ensures_ok {α : Type} (p : Operation α) :
    Ensures (do return Except.ok (ε := Err) (← p)) fun _ x => ∃ result, x = .ok result := by
  induction p with
  | done a => exact ⟨a, rfl⟩
  | send r next ih => exact fun reply => ih reply

lemma runRabbitmqCLICommandsIfAnnotated_panics (m : Memory) :
    Ensures (Controller.runRabbitmqCLICommandsIfAnnotated m) fun xs x =>
      (∃ result, x = .ok result) ↔ ¬ MissesPlugins xs := by
  intro reply
  cases reply with
  | error e => exact iff_of_true ⟨_, rfl⟩ (by rintro ⟨sts, -, ⟨⟩⟩)
  | ok sts =>
    change Ensures (I := api) (if _ then _ else _) _
    split
    next hready =>
      intro reply
      rcases reply with (_ | _ | _ | message) | cfg
      · exact iff_of_false (by rintro ⟨_, ⟨⟩⟩) (not_not.mpr ⟨sts, hready, rfl⟩)
      · exact iff_of_true ⟨_, rfl⟩ (by rintro ⟨sts, -, ⟨⟩⟩)
      · exact iff_of_true ⟨_, rfl⟩ (by rintro ⟨sts, -, ⟨⟩⟩)
      · exact iff_of_true ⟨_, rfl⟩ (by rintro ⟨sts, -, ⟨⟩⟩)
      · refine (ensures_trivial (Controller.pluginsConfigUpdatedRecently cfg)).bind fun xs recent _ => ?_
        rcases recent with err | _ | _
        · exact iff_of_true ⟨_, rfl⟩ (by rintro ⟨sts, -, ⟨⟩⟩)
        · exact (ensures_trivial (runCommands m sts cfg)).bind fun ys x _ =>
            iff_of_true ⟨_, rfl⟩ (by rintro ⟨sts, -, ⟨⟩⟩)
        · exact iff_of_true ⟨_, rfl⟩ (by rintro ⟨sts, -, ⟨⟩⟩)
    next => exact iff_of_true ⟨_, rfl⟩ (by rintro ⟨sts, -, ⟨⟩⟩)

theorem missing_children_panic_iff (m : Memory) :
    (Ensures restartStatefulSetIfNeeded fun _ x => ∃ result, x = .ok result) ∧
      (Ensures (p := reconcileRabbitmqVersionAnnotation m) fun _ x => ∃ result, x = .ok result) ∧
      Ensures (runRabbitmqCLICommandsIfAnnotated m) fun xs x =>
        (∃ result, x = .ok result) ↔ ¬ MissesPlugins xs := by
  refine ⟨?_, ?_, ?_⟩
  · rw [restartStatefulSetIfNeeded_eq]
    exact ensures_ok _
  · rw [reconcileRabbitmqVersionAnnotation_eq]
    exact ensures_ok _
  · rw [runRabbitmqCLICommandsIfAnnotated_eq]
    exact runRabbitmqCLICommandsIfAnnotated_panics m

theorem missing_plugins_panic :
    (run server (runRabbitmqCLICommandsIfAnnotated { cluster := settledCluster { storage := 10 } }) [{}, {}]
      (Store.empty.putStatefulSet { replicas := 1, status.readyReplicas := 1 })).result =
      some (.error nilPointer) := rfl

end ClusterOperator.Controller.Pointer
