import ClusterOperator.Controller.SpecFrame
import ClusterOperator.Interaction.Exchange

namespace ClusterOperator.Controller

open Api Kubernetes Interaction Resource

def updateError : Exchange api → Option ApiError
  | ⟨.updateCluster _, .error e⟩ => some e
  | _ => none

def Stops (x : ℕ × Option Err × Memory) : Prop := 0 < x.1 ∨ x.2.1 ≠ none

lemma updateRabbitmqCluster_ensures (m : Memory) :
    Ensures (updateRabbitmqCluster m) fun xs x =>
      ∃ c reply, xs = [⟨.updateCluster c, reply⟩] ∧
        (x.2.1 ≠ none ↔ ∃ e ∈ updateError ⟨.updateCluster c, reply⟩, e ≠ .conflict) := by
  intro reply
  rcases reply with (_ | _ | _ | message) | c <;>
    exact ⟨_, _, rfl, by simp [updateError]⟩

lemma reconcileOperatorDefaults_ensures (r : Reconciler) (m : Memory) :
    Ensures (reconcileOperatorDefaults r m) fun xs x =>
      (Stops x ↔ ∃ y ∈ xs, ∃ e ∈ updateError y, e ≠ .conflict) ∧ ∀ y ∈ xs, ∃ c, y.1 = .updateCluster c := by
  unfold reconcileOperatorDefaults
  split
  · refine (updateRabbitmqCluster_ensures _).bind fun xs x h => ?_
    obtain ⟨c, reply, rfl, hreply⟩ := h
    rcases x with ⟨requeue, _ | err, m⟩
    · dsimp only
      split
      · refine (updateRabbitmqCluster_ensures _).bind fun xs' x' h' => ?_
        obtain ⟨c', reply', rfl, hreply'⟩ := h'
        rcases x' with ⟨requeue', _ | err', m'⟩
        · simp_all [Stops]
        · simp_all [Stops]
      · simp_all [Stops]
    · simp_all [Stops]
  · simp [Stops]

variable {α β : Type}

lemma run_orReturn_error {p : Operation (Except (Result × Memory) α)}
    {f : α → Operation (Except (Result × Memory) β)} {ts : List Turn} {s : Store} {y : Result × Memory}
    (h : (run server p ts s).result = some (.error y)) :
    (run server (orReturn p f) ts s).trace = (run server p ts s).trace ∧
      (run server (orReturn p f) ts s).result = some (.error y) := by
  rw [orReturn, run_bind h]
  dsimp only
  rw [Program.pure_eq, run_done, List.append_nil]
  exact ⟨rfl, rfl⟩

lemma Stops.requeue {x : ℕ × Option Err × Memory} (h : Stops x) : ∃ y, requeueOrContinue x = .error y := by
  rcases x with ⟨_ | requeue, _ | err, m⟩
  · simp [Stops] at h
  · exact ⟨_, rfl⟩
  · exact ⟨_, rfl⟩
  · exact ⟨_, rfl⟩

lemma Stops.trace_eq {r : Reconciler} {m : Memory} {ts : List Turn} {s : Store} {x : ℕ × Option Err × Memory}
    (h : Stops x) (hx : (run server (reconcileOperatorDefaults r m) ts s).result = some x) :
    (run server (reconcileCluster r m) ts s).trace = (run server (reconcileOperatorDefaults r m) ts s).trace := by
  obtain ⟨y, hy⟩ := h.requeue
  have hdefaults := run_bind_done (f := fun x => (.done (requeueOrContinue x) : Operation _)) hx (congrArg _ hy)
  have hprepare : (run server (prepare r m) ts s).trace = _ ∧
      (run server (prepare r m) ts s).result = some (.error y) :=
    run_orReturn_error (congrArg Outcome.result hdefaults)
  have hreconcile : (run server (reconcileCluster r m) ts s).trace = _ ∧
      (run server (reconcileCluster r m) ts s).result = some (.error y) := run_orReturn_error hprepare.2
  exact hreconcile.1.trans (hprepare.1.trans (congrArg Outcome.trace hdefaults))

theorem operatorDefaults_stop_iff (r : Reconciler) (m : Memory) (ts : List Turn) (s : Store)
    {x : ℕ × Option Err × Memory} (hx : (run server (reconcileOperatorDefaults r m) ts s).result = some x) :
    ((∃ e ∈ (run server (reconcileOperatorDefaults r m) ts s).trace, updateError e.exchange ≠ none) →
      (0 < x.1 ∨ x.2.1 ≠ none) ∧
        ∀ e ∈ (run server (reconcileCluster r m) ts s).trace, ∃ c, e.request = .updateCluster c) ↔
    ((∃ e ∈ (run server (reconcileOperatorDefaults r m) ts s).trace, updateError e.exchange ≠ none) →
      ∃ e ∈ (run server (reconcileOperatorDefaults r m) ts s).trace,
        ∃ err ∈ updateError e.exchange, err ≠ .conflict) := by
  obtain ⟨hstops, honly⟩ := (reconcileOperatorDefaults_ensures r m).sound hx
  rw [List.forall_mem_map] at honly
  simp only [List.mem_map, exists_exists_and_eq_and] at hstops
  refine forall_congr' fun _ => ⟨fun h => hstops.mp h.1, fun h => ?_⟩
  have hx' := hstops.mpr h
  exact ⟨hx', hx'.trace_eq hx ▸ honly⟩

def enforcingReconciler : Reconciler :=
  { plainReconciler with controlRabbitmqImage := true, defaultRabbitmqImage := "rabbitmq:4.2.0-management" }

/-- The conditions in the status need no patch, which would bring the stored spec back into memory. -/
def imageCluster : RabbitmqCluster :=
  let c := settledCluster { storage := 10 }
  { c with status := Status.setConditions none none c.status }

def imageMemory : Memory where
  cluster := imageCluster

def conflictTurns : List Turn := { fault := some .conflict } :: List.replicate 40 {}

def createsFromUnstored (e : Event api Store) : Bool :=
  match e.request with
  | .createStatefulSet o =>
    (o.template.spec.containers.head?.map fun c => c.image) ≠ e.before.cluster.map fun c => c.spec.image
  | _ => false

theorem conflict_continues :
    (run server (reconcileOperatorDefaults enforcingReconciler imageMemory) conflictTurns
        (Store.empty.putCluster imageCluster)).result.map (fun x => (x.1, x.2.1)) = some (0, none) ∧
      (∃ e ∈ (run server (reconcileOperatorDefaults enforcingReconciler imageMemory) conflictTurns
        (Store.empty.putCluster imageCluster)).trace, updateError e.exchange = some .conflict) ∧
      ∃ e ∈ (run server (reconcileCluster enforcingReconciler imageMemory) conflictTurns
        (Store.empty.putCluster imageCluster)).trace, createsFromUnstored e = true := by
  refine ⟨?_, ?_, ?_⟩
  · decide +kernel
  · decide +kernel
  · decide +kernel

theorem failure_stops :
    ∃ x, (run server (reconcileOperatorDefaults enforcingReconciler imageMemory)
        ({ fault := some (.failure "timeout") } :: conflictTurns) (Store.empty.putCluster imageCluster)).result = some x ∧
      (0 < x.1 ∨ x.2.1 ≠ none) := by
  have hx : (run server (reconcileOperatorDefaults enforcingReconciler imageMemory)
      ({ fault := some (.failure "timeout") } :: conflictTurns) (Store.empty.putCluster imageCluster)).result =
      some (0, some (.api (.failure "timeout")), imageMemory.modify fun c =>
        { c with spec := setImage enforcingReconciler c.spec }) := rfl
  have hfailed : ∃ e ∈ (run server (reconcileOperatorDefaults enforcingReconciler imageMemory)
      ({ fault := some (.failure "timeout") } :: conflictTurns) (Store.empty.putCluster imageCluster)).trace,
      ∃ err ∈ updateError e.exchange, err ≠ .conflict :=
    ⟨_, List.mem_cons_self, _, rfl, by decide⟩
  obtain ⟨e, he, err, herr, hne⟩ := hfailed
  exact ⟨_, hx, ((operatorDefaults_stop_iff _ _ _ _ hx).mpr (fun _ => ⟨e, he, err, herr, hne⟩)
    ⟨e, he, by rw [Option.mem_def.mp herr]; simp⟩).1⟩

end ClusterOperator.Controller
