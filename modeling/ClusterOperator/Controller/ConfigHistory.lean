import ClusterOperator.Controller.ConfigHandling
import ClusterOperator.Controller.MarkedChanges
import ClusterOperator.Controller.Recreation

namespace ClusterOperator.Controller

open Api Kubernetes Interaction Resource

variable {r : Reconciler} {x : Store × Ledger} {g₀ : History} {m : Memory}

section Stages

variable {α β : Type}

def IfOk (Q : α → Store × Ledger → Prop) : Except (Result × Memory) α → Store × Ledger → Prop
  | .ok a, x => Q a x
  | .error _, _ => True

variable (h : Sound x)
include h

lemma careful_orReturn {p : Operation (Except (Result × Memory) α)}
    {f : α → Operation (Except (Result × Memory) β)} {Q : α → Store × Ledger → Prop}
    {R : β → Store × Ledger → Prop} (hp : Careful r p (IfOk Q) x)
    (hf : ∀ a x, Sound x → Q a x → Careful r (f a) (IfOk R) x) : Careful r (orReturn p f) (IfOk R) x := by
  refine careful_bind h hp fun y x hx hy => ?_
  cases y with
  | error z => exact trivial
  | ok a => exact hf a x hx hy

omit h in
lemma careful_stage {J : Store × Ledger → Prop} {p : Operation (Except (Result × Memory) Memory)}
    (hp : Careful r p (fun _ x' => J x') x)
    (hfollows : Follows (protocol r) p (Either (Knows r g₀) (Knows r g₀)) x.2.1) :
    Careful r p (IfOk fun m x' => J x' ∧ Knows r g₀ m x'.2.1) x := by
  refine (careful_follows hp hfollows).post fun y x' hy => ?_
  cases y with
  | error z => exact trivial
  | ok m => exact hy

end Stages

section Reconcile

variable (h : Sound x)
include h

lemma careful_reportFailure {reason : String} {z : ℕ × Option Err × Memory} {R : Store × Ledger → Prop}
    (hz : ∀ m', z = (0, none, m') → R x) :
    Careful r (reportFailure reason z) (IfOk fun _ x' => R x') x := by
  rcases z with ⟨requeueAfter, _ | err, m'⟩
  · change Careful r (if _ then _ else _) _ _
    split
    · exact trivial
    · have hzero : requeueAfter = 0 := by omega
      subst hzero
      exact hz m' rfl
  · exact (careful_of_sends h (sends_setReconcileSuccess (fun _ _ _ => trivial) _ _ _ _)).bind fun _ _ _ => trivial

lemma careful_postDeploy (hm : Knows r g₀ m x.2.1) :
    Careful r (postDeploy m) (IfOk fun _ x' => ∀ c, x'.2.2 c ≠ .noted) x := by
  have hcluster {q : Request} : OnCluster q → Unrelated ∅ q := OnCluster.unrelated
  have hpassive {q : Request} : Passive q → Unrelated ∅ q := Passive.unrelated
  have hkeep {x x' : Store × Ledger} (hserver : x.2.2 .server ≠ .noted) (honward : Onward ∅ x x') :
      x'.2.2 .server ≠ .noted := honward.eased.ne_noted (Set.notMem_empty _) hserver
  refine careful_orReturn h (Q := fun m x' => x'.2.2 .server ≠ .noted ∧ Knows r g₀ m x'.2.1) ?_
    fun m x hx hm => ?_
  · refine (careful_follows (careful_restartStatefulSetIfNeeded h) (neutral_follows
      (sends_restartStatefulSetIfNeeded (fun _ => Passive.neutral) (fun _ => OnStatefulSet.neutral)) hm)).bind
      fun z x' hz => ?_
    rcases z with ⟨_ | n, _ | err⟩
    · exact ⟨hz.1 rfl, hz.2⟩
    · exact trivial
    · exact trivial
    · exact trivial
  refine careful_orReturn hx (careful_stage (careful_of_sends hx
    ((sends_reconcileStatus (fun _ => hcluster) m).bind fun _ => trivial))
    ((reconcileStatus_follows hm.2).bind fun _ _ hy => orFail_either hy)) fun m y hy hm' => ?_
  refine careful_bind hy (careful_follows (careful_of_sends hy
    (sends_updateQuorumStatus (fun _ => hpassive) (fun _ => hcluster) m)) (updateQuorumStatus_follows hm'.2))
    fun m y' hy' hm'' => ?_
  have hserver := hkeep hm.1 (hm'.1.trans hm''.1)
  refine careful_orReturn hy' (careful_stage (careful_of_sends hy'
    ((reconcileRabbitmqVersionAnnotation_sends (fun _ => hpassive) (fun _ => hcluster) m).bind fun _ =>
      sends_reportFailure (fun _ _ _ => trivial) _ _))
    ((reconcileRabbitmqVersionAnnotation_follows hm''.2).bind fun _ _ hy => reportFailure_follows hy _))
    fun m z hz hm₁ => ?_
  refine careful_bind hz (careful_runRabbitmqCLICommandsIfAnnotated hz (hm₁.2.usable hz)
    (hkeep hserver hm₁.1)) fun w z hz hw => ?_
  cases w with
  | error panic => exact trivial
  | ok w => exact careful_reportFailure hz fun m' hm' => hw m' (congrArg Except.ok hm')

lemma careful_reconcileCluster (hm : Knows r g₀ m x.2.1) :
    Careful r (reconcileCluster r m) (IfOk fun _ x' => ∀ c, x'.2.2 c ≠ .noted) x := by
  refine careful_orReturn h (careful_stage (careful_of_sends h (sends_prepare (fun _ => Passive.unrelated)
    (fun _ => OnCluster.unrelated) r m)) (prepare_follows hm)) fun m x hx hm => ?_
  refine careful_orReturn hx (careful_stage (careful_of_sends hx (unrelated_startReconciling m))
    (startReconciling_follows hm.2)) fun m x hx hm => ?_
  refine careful_orReturn hx (careful_stage (J := fun _ => True)
    (careful_builderLoop hx (Or.inl (resourceBuilders_head _)) hm.2)
    (builderLoop_follows (Or.inl (resourceBuilders_head _)) hm.2)) fun m x hx hm => ?_
  refine careful_orReturn hx (careful_postDeploy hx hm.2) fun m x hx hnone => ?_
  refine (careful_of_sends hx (sends_setReconcileSuccess (fun _ _ _ => trivial) _ _ _ _)).bind fun m x' hx' => ?_
  exact fun c => hx'.eased.ne_noted (Set.notMem_empty _) (hnone c)

theorem careful_reconcile (hx : x.2.1 = {}) :
    Careful r (reconcile r) (fun y x' => ∀ m ∈ y.2, m.observed ≠ none → ∀ c, x'.2.2 c ≠ .noted) x := by
  refine careful_bind h (careful_follows (careful_of_sends h (p := Client.getCluster) ⟨trivial, fun _ => trivial⟩)
    (hx.symm ▸ getCluster_follows)) fun reply x hx hreply => ?_
  rcases reply with (_ | _ | _ | message) | c
  · exact fun m hm => by cases hm
  · exact fun m hm => by cases hm
  · exact fun m hm => by cases hm
  · exact fun m hm => by cases hm
  · have hm := hreply.2 c rfl
    dsimp only
    split
    · refine (careful_of_sends hx (sends_prepareForDeletion (fun _ => Passive.unrelated) (fun _ => trivial)
        (fun _ => OnCluster.unrelated) c)).bind fun err x' _ => ?_
      exact forall_unobserved rfl
    · split
      · refine (careful_follows (careful_of_sends hx (sends_patchStatus (fun _ _ _ => trivial) _ rfl))
          (patchStatus_follows hm _)).bind fun z x' hz => ?_
        exact forall_unobserved hz.2.observed
      · refine (careful_follows (careful_reconcileCluster hx hm) (reconcileCluster_follows hm)).bind
          fun z x' hz => ?_
        cases z with
        | error y => exact forall_unobserved (Knows.observed hz.2)
        | ok m => exact fun _ _ _ => hz.1

end Reconcile

section Rounds

instance : DecidablePred Fair := fun e =>
  decidable_of_iff ((∀ t ∈ reading e.request e.reply,
        t ≠ "" ∧ ∀ o ∈ e.before.statefulSet, ∀ x ∈ restartedAt o, x < t) ∧
      ∀ rmq ∈ replyCluster e.request e.reply, Usable rmq)
    ⟨fun h => ⟨h.1, h.2⟩, fun h => ⟨h.clock, h.cluster⟩⟩

lemma foldl_note (r : Reconciler) (es : List (Event api Store)) (g : Ledger) :
    (es.foldl (note r) g).2 = es.foldl (debts r.ini) g.2 := by
  induction es generalizing g with
  | nil => rfl
  | cons e es ih => exact ih _

theorem undisturbed_changes_applied (r : Reconciler) (tss : List (List Turn)) (s : Store)
    (hcalls : ∀ o ∈ rounds server (reconcile r) tss s, ∀ c : Config,
      Undisturbed (c.Changed r.ini) Failed 3 o.result.isSome o.trace)
    (hfair : ∀ o ∈ rounds server (reconcile r) tss s, ∀ e ∈ o.trace, Fair e)
    {earlier later : List (Outcome api Store (Result × Option Memory))}
    {o : Outcome api Store (Result × Option Memory)}
    (hrounds : rounds server (reconcile r) tss s = earlier ++ o :: later)
    {result : Result} {m : Memory} (ho : o.result = some (result, some m)) (hm : m.observed ≠ none) (c : Config) :
    Answered (c.Changed r.ini) c.Applied (earlier.flatMap Outcome.trace ++ o.trace) := by
  have hmarked : ∀ o ∈ rounds server (reconcile r) tss s, ∀ c : Config,
      Answered (c.Changed r.ini) c.Marked o.trace := by
    intro o ho c
    obtain ⟨ts, s', -, rfl⟩ := rounds_start (J := fun _ => True) (fun _ _ _ => trivial) trivial o ho
    exact answered_marked r c ts s' (hcalls _ ho c)
  refine answered_rounds (J := fun s d => ∀ c : Config, d c = .noted → c.Found s)
    (A := fun es => ∀ e ∈ es, Fair e) (D := fun y => ∃ m ∈ y.2, m.observed ≠ none) (fun ts s d hd _ hA => ?_)
    (fun _ h => by cases h) (fun o ho => ⟨hfair o ho, hmarked o ho⟩) hrounds ho ⟨m, rfl, hm⟩ c
  have hsound : Sound (s, ({}, d)) := ⟨hd, fun _ hv => absurd hv List.not_mem_nil⟩
  have hcareful := careful_reconcile (r := r) hsound rfl
  obtain ⟨htrace, hfinal, hresult⟩ := run_track server (note r) (reconcile r) ts s ({}, d)
  have hA' : ∀ e ∈ (run (server.track (note r)) (reconcile r) ts (s, ({}, d))).trace, Fair e.untrack :=
    fun e he => hA _ (htrace ▸ List.mem_map_of_mem he)
  have hend := hcareful.final (J := Sound) (fun _ h => h) hsound ts hA'
  have hdone := (hcareful.sound ts hA').2
  rw [hfinal, hresult] at hdone
  rw [hfinal] at hend
  have hdebts := foldl_note r (run server (reconcile r) ts s).trace ({}, d)
  refine ⟨hdebts ▸ hend.found, fun y hy ⟨m, hm, hobserved⟩ => ?_⟩
  exact hdebts ▸ hdone y hy m hm hobserved

def reconfiguredSpec : RabbitmqClusterSpec where
  storage := 10
  rabbitmq := { additionalPlugins := ["rabbitmq_mqtt"], additionalConfig := "consumer_timeout = 10000" }

def reconfiguredStore : Store :=
  let before := settledCluster { storage := 10 }
  let pluginsConf := RabbitmqPluginsConfigMapBuilder.update before (RabbitmqPluginsConfigMapBuilder.build before)
  let serverConf := ServerConfigMapBuilder.updated before Ini.ascii (ServerConfigMapBuilder.build before)
  ((settledStore reconfiguredSpec).putChild .pluginsConf (pluginsConf.toOption.getD {})).putChild .serverConf
    (serverConf.toOption.getD {})

def noon : Turn where
  now := "2024-05-01T12:00:00Z"
  overview := .ok ("4.2.0", "27.3")

def podReady : Turn := { noon with edits := [.setStatefulSetStatus { readyReplicas := 1 }] }

def oneReconcile : List Turn := List.replicate 38 noon ++ podReady :: List.replicate 18 noon

theorem reconfiguration_applied :
    let o := run server (reconcile asciiReconciler) oneReconcile reconfiguredStore
    (o.result.bind Prod.snd).bind Memory.observed = some 1 ∧
      ∀ c : Config, Answered (c.Changed Ini.ascii) c.Applied o.trace := by
  intro o
  have hrounds : rounds server (reconcile asciiReconciler) [oneReconcile] reconfiguredStore = [o] := rfl
  obtain ⟨hcalls, hfair, hobserved⟩ : (∀ c : Config,
        Undisturbed (c.Changed Ini.ascii) Failed 3 o.result.isSome o.trace) ∧
      (∀ e ∈ o.trace, Fair e) ∧ (o.result.bind Prod.snd).bind Memory.observed = some 1 := by
    decide +kernel
  refine ⟨hobserved, fun c => ?_⟩
  obtain ⟨m, hm, hgeneration⟩ := Option.bind_eq_some_iff.mp hobserved
  obtain ⟨⟨result, _⟩, hresult, rfl⟩ := Option.bind_eq_some_iff.mp hm
  refine @undisturbed_changes_applied asciiReconciler [oneReconcile] reconfiguredStore ?_ ?_ [] [] o hrounds result m
    hresult (hgeneration ▸ Option.some_ne_none 1) c
  · intro o' ho'
    rw [hrounds] at ho'
    exact List.mem_singleton.mp ho' ▸ hcalls
  · intro o' ho'
    rw [hrounds] at ho'
    exact List.mem_singleton.mp ho' ▸ hfair

/-- The operator stops after each of the two changes, and the Reconcile that follows finds nothing
to change and nothing that is marked. -/
def interruptedReconciles : List (List Turn) :=
  [List.replicate 18 noon, List.replicate 14 noon,
    List.replicate 27 noon ++ podReady :: List.replicate 12 noon]

theorem interrupted_changes_forgotten :
    ∃ earlier o, rounds server (reconcile asciiReconciler) interruptedReconciles reconfiguredStore = earlier ++ [o] ∧
      (o.result.bind Prod.snd).bind Memory.observed = some 1 ∧
      ∀ c : Config, ¬ Answered (c.Changed Ini.ascii) c.Applied (earlier.flatMap Outcome.trace ++ o.trace) := by
  refine ⟨[_, _], _, rfl, ?_⟩
  decide +kernel

end Rounds

end ClusterOperator.Controller
