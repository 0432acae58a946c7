import ClusterOperator.Controller.Stages
import ClusterOperator.Interaction.Protocol

/-! Reconcile writes the objects of a cluster only after it saw the finalizer that keeps the cluster
from being deleted without it. -/

namespace ClusterOperator.Controller

open Api Kubernetes Interaction Resource

def Live (received : List RabbitmqCluster) : Prop :=
  ∃ c ∈ received.getLast?, c.deletionTimestamp = false ∧ c.labels.get? pauseReconciliationLabel ≠ some "true"

/-- What was received from the API server allows to write children and claims. Where Reconcile stores
the images it goes on without the finalizer if it finds there that the cluster is being deleted. -/
structure Licensed (r : Reconciler) (received : List RabbitmqCluster) : Prop where
  live : Live received
  guarded : ∃ c ∈ received, deletionFinalizer ∈ c.finalizers ∨
    r.controlRabbitmqImage = true ∧ c.deletionTimestamp = true

def licence (r : Reconciler) : Protocol api (List RabbitmqCluster) where
  allows received q := Aside q ∨ Licensed r received
  expects _
    | .updateCluster c, .ok c' => c'.finalizers = c.finalizers
    | _, _ => True
  next received q reply := (replyCluster q reply).toList ++ received

variable {r : Reconciler} {g : List RabbitmqCluster} {m : Memory} {α β : Type}

section Received

lemma Live.next (h : Live g) (cs : List RabbitmqCluster) : Live (cs ++ g) := by
  obtain ⟨c, hc, hlive⟩ := h
  refine ⟨c, ?_, hlive⟩
  rw [List.getLast?_append, Option.mem_def.mp hc]
  rfl

lemma Licensed.next (h : Licensed r g) (cs : List RabbitmqCluster) : Licensed r (cs ++ g) := by
  obtain ⟨c, hc, hguarded⟩ := h.guarded
  exact ⟨h.live.next cs, c, List.mem_append_right cs hc, hguarded⟩

structure Sighted (r : Reconciler) (m : Memory) (received : List RabbitmqCluster) : Prop where
  live : Live received
  version : ∃ c ∈ received, m.cluster.finalizers = c.finalizers ∧
    (m.cluster.deletionTimestamp = true → r.controlRabbitmqImage = true ∧ c.deletionTimestamp = true)

lemma Sighted.licensed (h : Sighted r m g)
    (hnot : ¬ (m.cluster.deletionTimestamp = false ∧ deletionFinalizer ∉ m.cluster.finalizers)) : Licensed r g := by
  obtain ⟨c, hc, hfinalizers, hdeleted⟩ := h.version
  refine ⟨h.live, c, hc, ?_⟩
  by_cases hd : m.cluster.deletionTimestamp = true
  · exact Or.inr (hdeleted hd)
  · have hmem : deletionFinalizer ∈ m.cluster.finalizers :=
      not_not.mp fun hmem => hnot ⟨Bool.eq_false_iff.mpr hd, hmem⟩
    exact Or.inl (hfinalizers ▸ hmem)

lemma Sighted.spec (h : Sighted r m g) (f : RabbitmqClusterSpec → RabbitmqClusterSpec) :
    Sighted r (m.modify fun c => { c with spec := f c.spec }) g := ⟨h.live, h.version⟩

end Received

section Programs

lemma licensed_follows (p : Operation α) (hg : Licensed r g) :
    Follows (licence r) p (fun _ g => Licensed r g) g := by
  induction p generalizing g with
  | done a => exact hg
  | send q next ih => exact ⟨Or.inr hg, fun reply _ => ih reply (hg.next _)⟩

lemma aside_follows {p : Operation α} (hp : p.Sends Aside) :
    Follows (licence r) p (fun _ _ => True) g :=
  Follows.of_sends (K := fun _ => True) hp (fun _ _ h => Or.inl h) (fun _ _ _ _ _ => trivial) trivial

lemma updateCluster_sighted (hcontrol : r.controlRabbitmqImage = true) (hm : Sighted r m g) :
    Follows (licence r) (updateCluster m) (fun x g => Sighted r x.2 g) g := by
  refine ⟨Or.inl trivial, fun reply _ => ?_⟩
  cases reply with
  | error e => exact hm
  | ok c => exact ⟨hm.live.next [c], c, List.mem_cons_self, rfl, fun hd => ⟨hcontrol, hd⟩⟩

lemma updateRabbitmqCluster_sighted (hcontrol : r.controlRabbitmqImage = true) (hm : Sighted r m g) :
    Follows (licence r) (updateRabbitmqCluster m) (fun x g => Sighted r x.2.2 g) g := by
  refine (updateCluster_sighted hcontrol hm).bind fun x g hx => ?_
  rcases x with ⟨_ | err, m⟩
  · exact hx
  · dsimp only
    split <;> exact hx

lemma reconcileOperatorDefaults_sighted (hm : Sighted r m g) :
    Follows (licence r) (reconcileOperatorDefaults r m) (fun x g => Sighted r x.2.2 g) g := by
  unfold reconcileOperatorDefaults
  split
  · rename_i hcontrol
    refine (updateRabbitmqCluster_sighted hcontrol (hm.spec _)).bind fun x g hx => ?_
    rcases x with ⟨requeue, _ | err, m⟩
    · dsimp only
      split
      · refine (updateRabbitmqCluster_sighted hcontrol (Sighted.spec hx _)).bind fun x g hx => ?_
        rcases x with ⟨requeue, _ | err, m⟩ <;> exact hx
      · exact hx
    · exact hx
  · exact hm

lemma storeFinalizer_licensed (hg : Live g) (m : Memory) :
    Follows (licence r) (updateCluster (m.modify fun c => if deletionFinalizer ∈ c.finalizers then c
      else { c with finalizers := c.finalizers ++ [deletionFinalizer] }))
      (fun x g => Live g ∧ (x.1 = none → Licensed r g)) g := by
  refine ⟨Or.inl trivial, fun reply hreply => ?_⟩
  cases reply with
  | error e => exact ⟨hg, nofun⟩
  | ok c =>
    refine ⟨hg.next [c], fun _ => ⟨hg.next [c], c, List.mem_cons_self, Or.inl ?_⟩⟩
    rw [show c.finalizers = _ from hreply]
    simp only [Memory.modify]
    split
    · assumption
    · exact List.mem_append_right _ List.mem_cons_self

lemma follows_retry {G σ : Type} {P : Protocol api G} {K L : G → Prop} {retriable : Err → Bool}
    {attempt : σ → Operation (Option Err × σ)}
    (h : ∀ x g, K g → Follows P (attempt x) (fun y g => K g ∧ (y.1 = none → L g)) g) (n : ℕ) {x : σ} {g : G}
    (hg : K g) : Follows P (onError retriable attempt n x) (fun y g => y.1 = none → L g) g := by
  induction n generalizing x g with
  | zero => exact (h x g hg).post fun _ _ hy => hy.2
  | succ n ih =>
    refine (h x g hg).bind fun y g hy => ?_
    rcases y with ⟨_ | err, y⟩
    · exact hy.2
    · dsimp only
      split
      · exact ih hy.1
      · exact nofun

lemma addFinalizerIfNeeded_licensed (hm : Sighted r m g) :
    Follows (licence r) (addFinalizerIfNeeded m) (fun x g => x.1 = none → Licensed r g) g := by
  unfold addFinalizerIfNeeded
  split
  · exact follows_retry (fun m _ hg => storeFinalizer_licensed hg m) _ hm.live
  · exact fun _ => hm.licensed ‹_›

def GoesOn {G : Type} (Q : α → G → Prop) : Except (Result × Memory) α → G → Prop
  | .ok a, g => Q a g
  | .error _, _ => True

lemma follows_stage {G : Type} {P : Protocol api G} {p : Operation (Except (Result × Memory) α)}
    {f : α → Operation (Except (Result × Memory) β)} {Q : α → G → Prop} {R : β → G → Prop} {g : G}
    (hp : Follows P p (GoesOn Q) g) (hf : ∀ a g, Q a g → Follows P (f a) (GoesOn R) g) :
    Follows P (orReturn p f) (GoesOn R) g := by
  refine hp.bind fun x g hx => ?_
  cases x with
  | error z => exact trivial
  | ok a => exact hf a g hx

lemma licensed_goesOn (p : Operation (Except (Result × Memory) α)) (hg : Licensed r g) :
    Follows (licence r) p (GoesOn fun _ => Licensed r) g := by
  refine (licensed_follows p hg).post fun x _ h => ?_
  cases x with
  | error z => exact trivial
  | ok a => exact h

lemma prepare_licensed (hm : Sighted r m g) : Follows (licence r) (prepare r m) (GoesOn fun _ => Licensed r) g := by
  refine follows_stage (Q := fun m => Sighted r m) ((reconcileOperatorDefaults_sighted hm).bind fun x g hx => ?_)
    fun m g hm => follows_stage (Q := fun _ => Licensed r) ((addFinalizerIfNeeded_licensed hm).bind
      fun x g hx => ?_) fun m g hg => licensed_goesOn _ hg
  · rcases x with ⟨_ | n, _ | err, m⟩ <;> first | exact hx | exact trivial
  · rcases x with ⟨_ | err, m⟩
    · exact hx rfl
    · exact trivial

theorem reconcile_licensed (r : Reconciler) : Follows (licence r) (reconcile r) (fun _ _ => True) [] := by
  refine ⟨Or.inl trivial, fun reply _ => ?_⟩
  rcases reply with (_ | _ | _ | message) | c
  · exact trivial
  · exact trivial
  · exact trivial
  · exact trivial
  · change Follows (licence r) (if _ then _ else _) _ [c]
    split
    · exact (aside_follows (aside_prepareForDeletion c)).bind fun _ _ _ => trivial
    · rename_i hlive
      split
      · exact (aside_follows (sends_patchStatus (fun _ _ _ => trivial) _ rfl)).bind fun _ _ _ => trivial
      · rename_i hpaused
        have hread : Live [c] := ⟨c, rfl, Bool.eq_false_iff.mpr hlive, hpaused⟩
        have hsighted : Sighted r { cluster := c } [c] :=
          ⟨hread, c, List.mem_cons_self, rfl, fun h => absurd h hlive⟩
        refine (follows_stage (prepare_licensed hsighted) fun _ _ hg => licensed_goesOn _ hg).bind fun x _ _ => ?_
        cases x <;> exact trivial

end Programs

section Runs

lemma expects_licence (t : Turn) (q : Request) (s : Store) :
    (licence r).expects g q (server.event t q s).reply := by
  cases q with
  | updateCluster c =>
    change (licence r).expects g (.updateCluster c) (serve t (.updateCluster c) (server.disturb t s)).1
    cases h : (serve t (.updateCluster c) (server.disturb t s)).1 with
    | error e => exact trivial
    | ok c' =>
      obtain ⟨stored, v, rfl⟩ := serve_updateCluster_ok h
      rfl
  | _ => exact trivial

theorem children_written_under_finalizer (r : Reconciler) (ts : List Turn) (s : Store) :
    (licence r).Along (fun received e => Aside e.request ∨ Licensed r received) []
      (run server (reconcile r) ts s).trace :=
  ((reconcile_licensed r).sound (J := fun _ _ => True) (A := fun _ _ => True)
    (fun t q s _ hq _ _ => ⟨hq, expects_licence t q s, trivial⟩) trivial ts
    (Protocol.along_const.mpr fun _ _ => trivial)).1

end Runs

end ClusterOperator.Controller
