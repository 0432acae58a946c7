import ClusterOperator.Controller.Footprint
import ClusterOperator.Controller.Protocol

namespace ClusterOperator.Controller

open Api Kubernetes Interaction Resource

variable {r : Reconciler} {g₀ g : History} {m : Memory}

def Neutral : Request → Prop
  | .getCluster | .createCluster _ | .updateCluster _ | .patchStatus _ _ | .createStatefulSet _ => False
  | _ => True

lemma Neutral.allowed {q : Request} (h : Neutral q) : (protocol r).allows g q := by
  cases q <;> first | exact trivial | exact h.elim

lemma Neutral.record {q : Request} (h : Neutral q) (reply : Reply q) (hm : Knows r g₀ m g) :
    Knows r g₀ m (g.record q reply) := by
  cases q with
  | getCluster => exact h.elim
  | createCluster c => exact h.elim
  | updateCluster c => exact h.elim
  | patchStatus base modified => exact h.elim
  | createStatefulSet o => exact h.elim
  | getChild k =>
    cases k with
    | headlessService => exact hm.build
    | _ => exact hm.tick
  | _ => exact hm.tick

lemma neutral_follows {α : Type} {p : Operation α} (h : p.Sends Neutral) (hm : Knows r g₀ m g) :
    Follows (protocol r) p (fun _ g => Knows r g₀ m g) g :=
  Follows.of_sends h (fun _ _ => Neutral.allowed) (fun _ _ reply hq hk => hq.record reply hk) hm

section Rules

variable {α β σ G : Type} {P : Protocol api G}

lemma follows_onError {retriable : Err → Bool} {attempt : σ → Operation (Option Err × σ)}
    {K L : σ → G → Prop} (hL : ∀ x g, L x g → K x g)
    (h : ∀ x g, K x g → Follows P (attempt x) (fun y g => L y.2 g) g) (n : ℕ) {x : σ} {g : G}
    (hx : K x g) : Follows P (onError retriable attempt n x) (fun y g => L y.2 g) g := by
  induction n generalizing x g with
  | zero => exact h x g hx
  | succ n ih =>
    refine (h x g hx).bind fun y g hy => ?_
    rcases y with ⟨_ | err, y⟩
    · exact hy
    · dsimp only
      split
      · exact ih (hL y g hy)
      · exact hy

def Either (K : Memory → G → Prop) (Q : α → G → Prop) : Except (Result × Memory) α → G → Prop
  | .ok a, g => Q a g
  | .error x, g => K x.2 g

lemma follows_orReturn {p : Operation (Except (Result × Memory) α)}
    {f : α → Operation (Except (Result × Memory) β)} {K : Memory → G → Prop}
    {Q : α → G → Prop} {R : β → G → Prop} {g : G}
    (hp : Follows P p (Either K Q) g) (hf : ∀ a g, Q a g → Follows P (f a) (Either K R) g) :
    Follows P (orReturn p f) (Either K R) g := by
  refine hp.bind fun x g hx => ?_
  cases x with
  | error y => exact hx
  | ok a => exact hf a g hx

end Rules

section Cluster

lemma updateCluster_follows (hm : Knows r g₀ m g) :
    Follows (protocol r) (updateCluster m) (fun x g => Knows r g₀ x.2 g) g := by
  refine ⟨hm.allows_update, fun reply _ => ?_⟩
  cases reply with
  | error e => exact hm.tick
  | ok c => exact hm.receive c

lemma patchStatus_follows (hm : Knows r g₀ m g) (f : RabbitmqClusterStatus → RabbitmqClusterStatus) :
    Follows (protocol r) (patchStatus m f) (fun x g => Knows r g₀ x.2 g) g := by
  refine ⟨trivial, fun reply _ => ?_⟩
  cases reply with
  | error e => exact hm.tick.congr rfl rfl rfl rfl rfl
  | ok c => exact hm.receive c

lemma setReconcileSuccess_follows (hm : Knows r g₀ m g) {condition : ConditionStatus} (hc : condition ≠ .true)
    (reason msg : String) :
    Follows (protocol r) (setReconcileSuccess m condition reason msg) (fun m g => Knows r g₀ m g) g := by
  unfold setReconcileSuccess
  simp only [if_neg hc]
  exact (patchStatus_follows hm _).bind fun x g hx => hx

lemma annotate_follows (hm : Knows r g₀ m g) (key value : String) :
    Follows (protocol r) (annotate Client.clusters key value m.cluster)
      (fun x g => Knows r g₀ { m with cluster := x.2 } g) g := by
  refine ⟨trivial, fun reply _ => ?_⟩
  cases reply with
  | error e => cases e <;> first | exact hm.miss | exact hm.tick
  | ok c =>
    have hset : Knows r g₀ { m with cluster := { c with annotations := c.annotations.set key value } }
        (g.tick.receive c) := (hm.receive c).congr rfl rfl rfl rfl rfl
    refine ⟨hset.allows_update, fun reply _ => ?_⟩
    cases reply with
    | error e => exact hset.tick
    | ok c' => exact (hset.receive c').congr rfl rfl rfl rfl rfl

lemma updateAnnotation_follows (hm : Knows r g₀ m g) (key value : String) :
    Follows (protocol r) (p := updateAnnotation Client.clusters key value m.cluster)
      (fun x g => Knows r g₀ { m with cluster := x.2 } g) g :=
  follows_onError (K := fun c g => Knows r g₀ { m with cluster := c } g) (fun _ _ h => h)
    (fun c _ hc => annotate_follows (m := { m with cluster := c }) hc key value) _ hm

lemma deleteAnnotation_follows (hm : Knows r g₀ m g) (key : String) :
    Follows (protocol r) (p := deleteAnnotation Client.clusters key m.cluster)
      (fun x g => Knows r g₀ { m with cluster := x.2 } g) g := by
  unfold deleteAnnotation
  split
  · exact hm
  · have herase : Knows r g₀ { m with cluster :=
        { m.cluster with annotations := m.cluster.annotations.erase key } } g :=
      hm.congr rfl rfl rfl rfl rfl
    refine ⟨herase.allows_update, fun reply _ => ?_⟩
    cases reply with
    | error e => exact herase.tick
    | ok c => exact (herase.receive c).congr rfl rfl rfl rfl rfl

lemma Knows.annotated {x : Option Err × RabbitmqCluster} (h : Knows r g₀ { m with cluster := x.2 } g) :
    Knows r g₀ (m.annotated x).2 g := by
  rcases x with ⟨_ | err, c⟩ <;> exact h.congr rfl rfl rfl rfl rfl

end Cluster

section Neutral

lemma Passive.neutral {q : Request} (h : Passive q) : Neutral q := by
  cases q <;> first | exact trivial | exact h.elim

lemma OnStatefulSet.neutral {q : Request} (h : OnStatefulSet q) : Neutral q := by
  cases q <;> first | exact trivial | exact h.elim

lemma OnChild.neutral {k : Kind} {q : Request} (h : OnChild k q) : Neutral q := by
  cases q <;> first | exact trivial | exact h.elim

lemma annotateIfNeeded_neutral (builder : Builder) (restart : Bool) (result : OperationResult) :
    (annotateIfNeeded builder restart result).Sends Neutral := by
  cases builder with
  | child k => exact sends_annotateChild (fun _ => Passive.neutral) (fun _ => OnChild.neutral) _ _
  | statefulSet =>
    exact sends_annotateStatefulSet (fun _ => Passive.neutral) (fun _ => OnStatefulSet.neutral) _ _

end Neutral

end ClusterOperator.Controller
