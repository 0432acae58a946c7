import ClusterOperator.Controller.Credentials
import ClusterOperator.Controller.OperatorDefaults

namespace ClusterOperator.Controller

open Api Kubernetes Interaction Resource

/-- Why the loop stops: an error of `Build`, of the `Update` before the guards, of `reconcilePVC`
or of `CreateOrUpdate`, or anything else. -/
inductive Stop
  | build (err : Err)
  | update (err : Err)
  | reconcilePVC (err : Err)
  | createOrUpdate (err : Err)
  | other (result : Result)

namespace Stop

def isFailure : Stop → Bool
  | other _ => false
  | _ => true

def report : Stop → Option (String × String)
  | reconcilePVC err => some ("FailedReconcilePVC", err.message)
  | createOrUpdate err =>
    if err = errInvalidEnvConfig then some ("InvalidConfiguration", err.message) else some ("Error", err.message)
  | _ => none

def result : Stop → Result
  | build err | update err | reconcilePVC err => { err := some err }
  | createOrUpdate err => if err = errInvalidEnvConfig then {} else { err := some err }
  | other result => result

end Stop

section Loop

variable {α β : Type} (r : Reconciler)

def conclude : Except (Stop × Memory) Memory → Operation (Except (Result × Memory) Memory)
  | .ok m => return .ok m
  | .error (stop, m) =>
    match stop.report with
    | none => return .error (stop.result, m)
    | some (reason, message) => do
      let m ← setReconcileSuccess m .false reason message
      return .error (stop.result, m)

def orStop (p : Operation (Except (Stop × Memory) α)) (f : α → Operation (Except (Stop × Memory) β)) :
    Operation (Except (Stop × Memory) β) := do
  match ← p with
  | .error x => return .error x
  | .ok a => f a

def attemptFinish (builder : Builder) (updateRequiresStsRestart : Bool) (m : Memory) :
    Except Err OperationResult → Operation (Except (Stop × Memory) Memory)
  | .error err => return .error (.createOrUpdate err, m)
  | .ok result => do
    match ← annotateIfNeeded builder updateRequiresStsRestart result with
    | some err => return .error (.other { err := some err }, m)
    | none => return .ok m

def attemptChild (k : Kind) (m : Memory) : Operation (Except (Stop × Memory) Memory) := do
  match ← buildChild r k m with
  | .error err => return .error (.build err, m)
  | .ok obj =>
    let (result, m, restart) ← createOrUpdateOnConflict (Client.children k) (updateChild r k) (m, true) obj
    attemptFinish (.child k) restart m result

def attemptWrite (m : Memory) (sts : StatefulSet) : Operation (Except (Stop × Memory) Memory) := do
  match ← reconcilePVC m sts with
  | .error err => return .error (.reconcilePVC err, m)
  | .ok _ =>
    let (result, m) ← createOrUpdateOnConflict Client.statefulSets (updateStatefulSet r) m sts
    attemptFinish .statefulSet false m result

def attemptGuards (m : Memory) (current sts : StatefulSet) : Operation (Except (Stop × Memory) Memory) := do
  return (← guardReplicas m current sts).mapError fun x => (.other x.1, x.2)

def attemptStatefulSet (m : Memory) : Operation (Except (Stop × Memory) Memory) := do
  let m := { m with sharesClaims := false }
  let obj := StatefulSetBuilder.build m.cluster
  match ← Client.getStatefulSet with
  | .error .notFound => attemptWrite r m obj
  | .error e => return .error (.other { err := some (.api e) }, m)
  | .ok current =>
    match updateStatefulSet r false m obj with
    | (m, .error err) => return .error (.update err, m)
    | (m, .ok sts) => orStop (attemptGuards m current sts) fun m => attemptWrite r m sts

def attemptTurn (m : Memory) : Builder → Operation (Except (Stop × Memory) Memory)
  | .child k => attemptChild r k m
  | .statefulSet => attemptStatefulSet r m

def attemptLoop (m : Memory) : List Builder → Operation (Except (Stop × Memory) Memory)
  | [] => return .ok m
  | builder :: builders => orStop (attemptTurn r m builder) fun m => attemptLoop m builders

variable {r}

lemma conclude_error_orReturn (x : Stop × Memory) (f : Memory → Operation (Except (Result × Memory) Memory)) :
    orReturn (conclude (.error x)) f = conclude (.error x) := by
  obtain ⟨stop, m⟩ := x
  unfold conclude
  dsimp only
  cases stop.report with
  | none => rfl
  | some report =>
    obtain ⟨reason, message⟩ := report
    dsimp only
    rw [orReturn, Program.bind_assoc]
    rfl

lemma orStop_bind (p : Operation (Except (Stop × Memory) Memory))
    (f : Memory → Operation (Except (Stop × Memory) Memory)) :
    orStop p f >>= conclude = orReturn (p >>= conclude) fun m => f m >>= conclude := by
  unfold orReturn
  rw [orStop, Program.bind_assoc, Program.bind_assoc]
  refine congrArg (p >>= ·) (funext fun x => ?_)
  cases x with
  | error x => exact (conclude_error_orReturn x _).symm
  | ok m => rfl

lemma attemptFinish_bind (builder : Builder) (restart : Bool) (m : Memory) (x : Except Err OperationResult) :
    attemptFinish builder restart m x >>= conclude = finishTurn builder restart m x := by
  cases x with
  | error err =>
    change conclude (.error (.createOrUpdate err, m)) = _
    by_cases h : err = errInvalidEnvConfig <;> simp [conclude, Stop.report, Stop.result, finishTurn, h]
  | ok result =>
    rw [attemptFinish, finishTurn, Program.bind_assoc]
    refine congrArg (_ >>= ·) (funext fun err => ?_)
    cases err <;> rfl

lemma attemptChild_bind (k : Kind) (m : Memory) : attemptChild r k m >>= conclude = childTurn r k m := by
  rw [attemptChild, childTurn, Program.bind_assoc]
  refine congrArg (_ >>= ·) (funext fun x => ?_)
  cases x with
  | error err => rfl
  | ok obj =>
    dsimp only
    rw [Program.bind_assoc]
    exact congrArg (_ >>= ·) (funext fun x => attemptFinish_bind _ _ _ _)

lemma attemptWrite_bind (m : Memory) (sts : StatefulSet) :
    attemptWrite r m sts >>= conclude = writeStatefulSet r m sts := by
  rw [attemptWrite, writeStatefulSet, Program.bind_assoc]
  refine congrArg (_ >>= ·) (funext fun x => ?_)
  cases x with
  | error err => rfl
  | ok _ =>
    dsimp only
    rw [Program.bind_assoc]
    exact congrArg (_ >>= ·) (funext fun x => attemptFinish_bind _ _ _ _)

lemma attemptGuards_bind (m : Memory) (current sts : StatefulSet) :
    attemptGuards m current sts >>= conclude = guardReplicas m current sts := by
  rw [attemptGuards, Program.bind_assoc]
  refine .trans (congrArg (_ >>= ·) (funext fun x => ?_)) (Program.bind_done _)
  cases x <;> rfl

lemma attemptStatefulSet_bind (m : Memory) : attemptStatefulSet r m >>= conclude = statefulSetTurn r m := by
  rw [attemptStatefulSet, statefulSetTurn, Program.bind_assoc]
  refine congrArg (_ >>= ·) (funext fun reply => ?_)
  rcases reply with (_ | _ | _ | message) | current
  · exact attemptWrite_bind _ _
  · rfl
  · rfl
  · rfl
  · dsimp only
    generalize updateStatefulSet r false _ _ = x
    obtain ⟨m, err | sts⟩ := x
    · rfl
    · dsimp only
      rw [orStop_bind, attemptGuards_bind]
      exact congrArg (orReturn _) (funext fun m => attemptWrite_bind m sts)

theorem builderLoop_eq (m : Memory) (builders : List Builder) :
    builderLoop r m builders = attemptLoop r m builders >>= conclude := by
  induction builders generalizing m with
  | nil => rfl
  | cons builder builders ih =>
    have hturn : attemptTurn r m builder >>= conclude = builderTurn r m builder := by
      cases builder with
      | child k => exact attemptChild_bind k m
      | statefulSet => exact attemptStatefulSet_bind m
    rw [attemptLoop, orStop_bind, hturn, builderLoop]
    exact congrArg (orReturn _) (funext ih)

end Loop

section Status

def successOf (s : RabbitmqClusterStatus) : Option ConditionStatus :=
  (s.conditions.find? fun c => c.type = .reconcileSuccess).map Condition.status

def storedSuccess (s : Store) : Option ConditionStatus := s.cluster.bind fun c => successOf c.status

lemma find?_update {type : ConditionType} {status : ConditionStatus} {reason message : String}
    {conditions : List Condition}
    (h : RabbitmqClusterStatus.setCondition.update type status reason message conditions ≠ conditions) :
    (RabbitmqClusterStatus.setCondition.update type status reason message conditions).find?
      (fun c => c.type = type) = some ⟨type, status, reason, message⟩ := by
  induction conditions with
  | nil => exact absurd rfl h
  | cons c cs ih =>
    unfold RabbitmqClusterStatus.setCondition.update at h ⊢
    split at h
    next hc => simp [hc]
    next hc =>
      rw [if_neg hc, List.find?_cons_of_neg (by simpa using hc)]
      exact ih fun heq => h (congrArg _ heq)

variable {s : RabbitmqClusterStatus} {status : ConditionStatus} {reason message : String}

lemma successOf_setCondition (h : (s.setCondition .reconcileSuccess status reason message).conditions ≠ s.conditions) :
    successOf (s.setCondition .reconcileSuccess status reason message) = some status :=
  congrArg (Option.map Condition.status) (find?_update h)

/-- The server takes the request, whether or not its reply arrives. -/
def takes (t : Turn) : Bool :=
  match t.fault with
  | none | some (.lost _) => true
  | _ => false

lemma serve_of_takes {t : Turn} (h : takes t = true) (q : Request) (s : Store) :
    (serve t q s).2 = (answer t q s).2 := by
  unfold takes at h
  unfold serve
  split at h
  next hf => rw [hf]
  next hf =>
    rw [hf]
    dsimp only
    split <;> rfl
  next => cases h

lemma serve_of_not_takes {t : Turn} {q : Request} (h : takes t = false) (hq : ∀ e, refuse e q ≠ none) (s : Store) :
    (serve t q s).2 = s := by
  unfold takes at h
  unfold serve
  split at h
  next => cases h
  next => cases h
  next hne hlost =>
    cases hf : t.fault with
    | none => exact absurd hf hne
    | some f =>
      dsimp only
      split
      next hnone => exact absurd hnone (hq _)
      next =>
        split
        next => exact absurd hf (hlost _)
        next => rfl

lemma storedSuccess_patchStatus {base modified : RabbitmqCluster} {s : Store} :
    storedSuccess (s.patchStatus base modified).2 =
      if s.cluster ≠ none ∧ base.status.conditions ≠ modified.status.conditions then successOf modified.status
      else storedSuccess s := by
  unfold Store.patchStatus storedSuccess
  cases hc : s.cluster with
  | none => simp [hc]
  | some c =>
    by_cases h : base.status.conditions = modified.status.conditions
    · simp [Store.putCluster, successOf, RabbitmqClusterStatus.patch, h]
    · simp [Store.putCluster, successOf, RabbitmqClusterStatus.patch, h]

end Status

section Reports

variable {r : Reconciler} {m m' : Memory} {stop : Stop}

def failedCluster (m : Memory) (reason message : String) : RabbitmqCluster :=
  { m.cluster with status := m.cluster.status.setCondition .reconcileSuccess .false reason message }

def Reaches (m : Memory) (reason message : String) (t : Turn) (s : Store) : Prop :=
  takes t = true ∧ (server.disturb t s).cluster ≠ none ∧
    m.cluster.status.conditions ≠ (failedCluster m reason message).status.conditions

/-- The stored status comes to say False, or says so already. `t` is the turn of the status patch. -/
def Stop.Noted (stop : Stop) (m : Memory) (t : Turn) (s : Store) : Prop :=
  match stop.report with
  | none => storedSuccess s = some .false
  | some (reason, message) => Reaches m reason message t s ∨ storedSuccess (server.disturb t s) = some .false

lemma storedSuccess_event (t : Turn) (s : Store) (reason message : String) :
    storedSuccess (server.event t (.patchStatus m.cluster (failedCluster m reason message)) s).after =
        some .false ↔
      Reaches m reason message t s ∨ storedSuccess (server.disturb t s) = some .false := by
  unfold Reaches
  change storedSuccess (serve t _ (server.disturb t s)).2 = _ ↔ _
  cases ht : takes t with
  | false =>
    rw [serve_of_not_takes ht (by rintro e ⟨⟩)]
    simp
  | true =>
    rw [serve_of_takes ht]
    change storedSuccess (Store.patchStatus _ _ _).2 = _ ↔ _
    rw [storedSuccess_patchStatus]
    split
    next h => exact iff_of_true (successOf_setCondition h.2.symm) (Or.inl ⟨rfl, h⟩)
    next h => simp only [true_and, h, false_or]

lemma conclude_reported {reason message : String} (h : stop.report = some (reason, message)) :
    ∃ next : api.Reply (.patchStatus m.cluster (failedCluster m reason message)) →
        Operation (Except (Result × Memory) Memory),
      conclude (.error (stop, m)) = .send (.patchStatus m.cluster (failedCluster m reason message)) next ∧
        ∀ reply, ∃ x, next reply = .done x := by
  have hconclude : conclude (.error (stop, m)) = do
      let m ← setReconcileSuccess m .false reason message
      return .error (stop.result, m) := by
    unfold conclude
    dsimp only
    rw [h]
  rw [hconclude]
  exact ⟨_, rfl, fun reply => by cases reply <;> exact ⟨_, rfl⟩⟩

lemma conclude_noted {ts : List Turn} {s : Store}
    (hend : (run server (conclude (.error (stop, m))) ts s).result ≠ none) :
    storedSuccess (run server (conclude (.error (stop, m))) ts s).final = some .false ↔
      stop.Noted m (ts.headD {}) s := by
  unfold Stop.Noted
  cases hreport : stop.report with
  | none =>
    have hdone : conclude (.error (stop, m)) = .done (.error (stop.result, m)) := by
      unfold conclude
      dsimp only
      rw [hreport]
      rfl
    rw [hdone, run_done]
  | some report =>
    obtain ⟨reason, message⟩ := report
    obtain ⟨next, hsend, hnext⟩ := conclude_reported (m := m) hreport
    rw [hsend] at hend ⊢
    cases ts with
    | nil => exact absurd rfl hend
    | cons t ts =>
      rw [run_send_cons]
      obtain ⟨x, hx⟩ := hnext (server.event t (.patchStatus m.cluster (failedCluster m reason message)) s).reply
      rw [hx, run_done]
      exact storedSuccess_event t s reason message

def attemptReconcile (r : Reconciler) (m : Memory) :
    Operation (Except (Result × Memory) (Except (Stop × Memory) Memory)) :=
  orReturn (prepare r m) fun m =>
  orReturn (startReconciling r m) fun m => do
    return .ok (← attemptLoop r m (resourceBuilders r m.cluster))

lemma orReturn_assoc {α β γ : Type} (p : Operation (Except (Result × Memory) α))
    (f : α → Operation (Except (Result × Memory) β)) (g : β → Operation (Except (Result × Memory) γ)) :
    orReturn (orReturn p f) g = orReturn p fun a => orReturn (f a) g := by
  rw [orReturn, orReturn, Program.bind_assoc]
  refine congrArg (p >>= ·) (funext fun x => ?_)
  cases x <;> rfl

lemma reconcileCluster_eq (r : Reconciler) (m : Memory) :
    reconcileCluster r m = orReturn (attemptReconcile r m) fun x => orReturn (conclude x) fun m =>
      orReturn (postDeploy m) fun m => do
        return .ok (← setReconcileSuccess m .true "Success" "Finish reconciling") := by
  rw [attemptReconcile, orReturn_assoc, reconcileCluster]
  refine congrArg (orReturn _) (funext fun m => ?_)
  rw [orReturn_assoc]
  refine congrArg (orReturn _) (funext fun m => ?_)
  rw [builderLoop_eq, orReturn, orReturn, Program.bind_assoc, Program.bind_assoc]
  rfl

lemma run_reconcileCluster {ts : List Turn} {s : Store} {x : Stop × Memory}
    (h : (run server (attemptReconcile r m) ts s).result = some (.ok (.error x))) :
    let o := run server (conclude (.error x)) (ts.drop (run server (attemptReconcile r m) ts s).trace.length)
      (run server (attemptReconcile r m) ts s).final
    (run server (reconcileCluster r m) ts s).final = o.final ∧
      (run server (reconcileCluster r m) ts s).result = o.result := by
  rw [reconcileCluster_eq, orReturn, run_bind h]
  dsimp only
  rw [conclude_error_orReturn]
  exact ⟨rfl, rfl⟩

theorem loop_failure_reported_iff (r : Reconciler) (m : Memory) (ts : List Turn) (s : Store) {stop : Stop}
    {m' : Memory} (hstop : (run server (attemptReconcile r m) ts s).result = some (.ok (.error (stop, m'))))
    (hend : (run server (reconcileCluster r m) ts s).result ≠ none) :
    (stop.isFailure = true →
      storedSuccess (run server (reconcileCluster r m) ts s).final = some .false) ↔
    (stop.isFailure = true →
      stop.Noted m' ((ts.drop (run server (attemptReconcile r m) ts s).trace.length).headD {})
        (run server (attemptReconcile r m) ts s).final) := by
  obtain ⟨hfinal, hresult⟩ := run_reconcileCluster hstop
  rw [hresult] at hend
  rw [hfinal]
  exact forall_congr' fun _ => conclude_noted hend

def delimitedIni : Ini :=
  { Ini.ascii with
    load := fun text =>
      match ((asciiChars text).splitOn '\n').find? fun line => line ≠ [] ∧ iniEntry line = none with
      | some line => .error (.text ("key-value delimiter not found: " ++ String.ofList line))
      | none => Ini.ascii.load text }

def delimitedReconciler : Reconciler := Reconciler.withSecrets { plainReconciler with ini := delimitedIni }

def successfulCluster (additionalConfig : String) : RabbitmqCluster :=
  let c := settledCluster { storage := 10, rabbitmq.additionalConfig := additionalConfig }
  let conditions := [⟨.reconcileSuccess, .true, "Success", "Finish reconciling"⟩]
  { c with status := Status.setConditions none none { c.status with conditions } }

def successfulMemory (additionalConfig : String) : Memory where
  cluster := successfulCluster additionalConfig

theorem malformed_configuration_unreported :
    ∃ err m', (run server (attemptReconcile delimitedReconciler (successfulMemory "consumer_timeout"))
        (List.replicate 20 {}) (Store.empty.putCluster (successfulCluster "consumer_timeout"))).result =
          some (.ok (.error (.build err, m'))) ∧
      (run server (reconcileCluster delimitedReconciler (successfulMemory "consumer_timeout"))
        (List.replicate 20 {}) (Store.empty.putCluster (successfulCluster "consumer_timeout"))).result ≠ none ∧
      storedSuccess (run server (reconcileCluster delimitedReconciler (successfulMemory "consumer_timeout"))
        (List.replicate 20 {}) (Store.empty.putCluster (successfulCluster "consumer_timeout"))).final =
          some .true := by
  refine ⟨_, _, rfl, ?_, ?_⟩
  · decide +kernel
  · decide +kernel

def refusedTurns : List Turn :=
  {} :: {} :: {} :: {} :: {} :: { fault := some (.failure "timeout") } :: List.replicate 20 {}

theorem refused_child_reported :
    ∃ err m', (run server (attemptReconcile delimitedReconciler (successfulMemory ""))
        refusedTurns (Store.empty.putCluster (successfulCluster ""))).result =
          some (.ok (.error (.createOrUpdate err, m'))) ∧
      storedSuccess (run server (reconcileCluster delimitedReconciler (successfulMemory ""))
        refusedTurns (Store.empty.putCluster (successfulCluster ""))).final = some .false := by
  refine ⟨_, _, rfl, ?_⟩
  refine (loop_failure_reported_iff delimitedReconciler (successfulMemory "") refusedTurns
    (Store.empty.putCluster (successfulCluster "")) rfl (by decide +kernel)).mpr (fun _ => Or.inl ?_) rfl
  unfold Reaches
  decide +kernel

end Reports

end ClusterOperator.Controller
