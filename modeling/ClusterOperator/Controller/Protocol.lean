import ClusterOperator.Controller.Reconcile
import ClusterOperator.Interaction.Protocol

/-! What Reconcile writes, seen from the versions of the RabbitmqCluster that it received. -/

namespace ClusterOperator.Controller

open Api Kubernetes Interaction Resource

variable (r : Reconciler)

/-- What Reconcile does to the spec in memory between two calls. -/
inductive InPlace : RabbitmqClusterSpec → RabbitmqClusterSpec → Prop
  | sanitize (spec : RabbitmqClusterSpec) : InPlace spec (sanitizeOverride spec)
  | raise (spec : RabbitmqClusterSpec) : InPlace spec (raiseClaims spec)
  | image (spec : RabbitmqClusterSpec) (h : r.controlRabbitmqImage = true) : InPlace spec (setImage r spec)
  | updaterImage (spec : RabbitmqClusterSpec) (h : r.controlRabbitmqImage = true) :
      InPlace spec (setUpdaterImage r spec)

structure Stems (v c : RabbitmqCluster) : Prop where
  resourceVersion : c.resourceVersion = v.resourceVersion
  generation : c.generation = v.generation
  spec : Relation.ReflTransGen (InPlace r) v.spec c.spec

inductive Draft (received : List RabbitmqCluster) : StatefulSet → Prop
  | build {v c : RabbitmqCluster} (hv : v ∈ received) (hc : Stems r v c) :
      Draft received (StatefulSetBuilder.build c)
  | update {v c : RabbitmqCluster} {obj sts : StatefulSet} (hobj : Draft received obj) (hv : v ∈ received)
      (hc : Stems r v c) (h : StatefulSetBuilder.update c r.merge obj = .ok sts) : Draft received sts

/-- The history of a Reconcile. The versions received come latest first. `building` is set when
the first child object is read. `steady` says that since then, up to the last request, no
version of another generation was received, and `last` says so of the last request. `gone`
is set if the object is missing that was being deleted when it was first read. -/
structure History where
  received : List RabbitmqCluster := []
  building : Bool := false
  steady : Bool := true
  last : Bool := true
  gone : Bool := false

namespace History

def receive (g : History) (c : RabbitmqCluster) : History :=
  { g with
    received := c :: g.received
    last := !g.building || g.received.head?.any (fun v => v.generation = c.generation) }

def miss (g : History) : History :=
  { g with gone := g.gone || g.received.getLast?.any (fun c => c.deletionTimestamp) }

def tick (g : History) : History := { g with steady := g.steady && g.last, last := true }

def record (g : History) : (r : Request) → Reply r → History
  | .getCluster, .ok c | .createCluster _, .ok c | .updateCluster _, .ok c | .patchStatus _ _, .ok c =>
    g.tick.receive c
  | .getCluster, .error .notFound => g.tick.miss
  | .getChild .headlessService, _ => { g.tick with building := true }
  | _, _ => g.tick

end History

def protocol : Protocol api History where
  allows g
    | .createCluster c => g.gone = true ∧ c.spec = {}
    | .updateCluster c => ∃ v, g.received.head? = some v ∧ Stems r v c
    | .createStatefulSet o => o.metadata.resourceVersion = 0 →
        ∃ v c obj, g.received.head? = some v ∧ Stems r v c ∧ Draft r g.received obj ∧
          StatefulSetBuilder.update c r.merge obj = .ok o
    | _ => True
  expects _
    | .getStatefulSet, .ok o | .createStatefulSet _, .ok o | .updateStatefulSet _, .ok o =>
      0 < o.metadata.resourceVersion
    | _, _ => True
  next g := g.record

structure Later (g₀ g : History) : Prop where
  received : g₀.received ⊆ g.received
  building : g₀.building = true → g.building = true

structure Knows (g₀ : History) (m : Memory) (g : History) : Prop where
  stems : ∃ v, g.received.head? = some v ∧ Stems r v m.cluster ∧
    (g.steady = true → g.last = true → ∀ n ∈ m.computed, n = v.generation)
  building : m.computed ≠ [] → g.building = true
  observed : m.observed = none
  later : Later g₀ g

variable {r} {m : Memory} {g : History} {v c d : RabbitmqCluster}

lemma Stems.refl : Stems r v v := ⟨rfl, rfl, .refl⟩

lemma Stems.inPlace (h : Stems r v c) {spec : RabbitmqClusterSpec} (hs : InPlace r c.spec spec) :
    Stems r v { c with spec } :=
  ⟨h.resourceVersion, h.generation, h.spec.tail hs⟩

lemma Stems.of_eq (h : Stems r v c) (hv : d.resourceVersion = c.resourceVersion)
    (hg : d.generation = c.generation) (hs : d.spec = c.spec) : Stems r v d :=
  ⟨hv.trans h.resourceVersion, hg.trans h.generation, hs ▸ h.spec⟩

lemma Stems.updateInMemory (h : Stems r v c) (merge : StrategicMergePatch) (shared : Bool) (sts : StatefulSet) :
    Stems r v (StatefulSetBuilder.updateInMemory c merge shared sts).1.1 := by
  cases shared with
  | false => exact h.inPlace (.sanitize c.spec)
  | true => exact (h.inPlace (.raise c.spec)).inPlace (.sanitize _)

lemma Draft.mono {received received' : List RabbitmqCluster} {obj : StatefulSet} (h : Draft r received obj)
    (hsub : received ⊆ received') : Draft r received' obj := by
  induction h with
  | build hv hc => exact .build (hsub hv) hc
  | update _ hv hc hu ih => exact .update ih (hsub hv) hc hu

lemma Later.refl : Later g g := ⟨List.Subset.refl _, id⟩

lemma Later.trans {g₀ g₁ g₂ : History} (h : Later g₀ g₁) (h' : Later g₁ g₂) : Later g₀ g₂ :=
  ⟨List.Subset.trans h.received h'.received, h'.building ∘ h.building⟩

namespace Knows

variable {g₀ : History}

lemma restart (h : Knows r g₀ m g) : Knows r g m g := ⟨h.stems, h.building, h.observed, Later.refl⟩

lemma since (h : Knows r g₀ m g) {g₁ : History} (hl : Later g₁ g₀) : Knows r g₁ m g :=
  ⟨h.stems, h.building, h.observed, hl.trans h.later⟩

lemma tick (h : Knows r g₀ m g) : Knows r g₀ m g.tick := by
  obtain ⟨⟨v, hv, hs, hc⟩, hb, ho, hl⟩ := h
  refine ⟨⟨v, hv, hs, fun hsteady _ => ?_⟩, hb, ho, ⟨hl.received, hl.building⟩⟩
  obtain ⟨h₁, h₂⟩ := Bool.and_eq_true_iff.mp hsteady
  exact hc h₁ h₂

lemma build (h : Knows r g₀ m g) : Knows r g₀ m { g.tick with building := true } := by
  have ht := h.tick
  exact ⟨ht.stems, fun _ => rfl, ht.observed, ⟨ht.later.received, fun _ => rfl⟩⟩

lemma miss (h : Knows r g₀ m g) : Knows r g₀ m g.tick.miss := by
  have ht := h.tick
  exact ⟨ht.stems, ht.building, ht.observed, ⟨ht.later.received, ht.later.building⟩⟩

lemma receive (h : Knows r g₀ m g) (c : RabbitmqCluster) : Knows r g₀ (m.refresh c) (g.tick.receive c) := by
  obtain ⟨⟨v, hv, hs, hc⟩, hb, ho, hl⟩ := h
  refine ⟨⟨c, rfl, Stems.refl, fun hsteady hlast n hn => ?_⟩, hb, ho,
    ⟨List.Subset.trans hl.received (List.subset_cons_self _ _), hl.building⟩⟩
  obtain ⟨h₁, h₂⟩ := Bool.and_eq_true_iff.mp hsteady
  have hbuilding : g.building = true := hb (List.ne_nil_of_mem hn)
  have hgen : v.generation = c.generation := by
    simpa [History.receive, History.tick, hbuilding, hv] using hlast
  rw [hc h₁ h₂ n hn, hgen]

lemma congr (h : Knows r g₀ m g) {m' : Memory} (hv : m'.cluster.resourceVersion = m.cluster.resourceVersion)
    (hg : m'.cluster.generation = m.cluster.generation) (hs : m'.cluster.spec = m.cluster.spec)
    (hc : m'.computed = m.computed) (ho : m'.observed = m.observed) : Knows r g₀ m' g := by
  obtain ⟨⟨v, hhead, hstems, hcomp⟩, hb, hobs, hl⟩ := h
  exact ⟨⟨v, hhead, hstems.of_eq hv hg hs, hc ▸ hcomp⟩, hc ▸ hb, ho.trans hobs, hl⟩

lemma inPlace (h : Knows r g₀ m g) {spec : RabbitmqClusterSpec} (hs : InPlace r m.cluster.spec spec) :
    Knows r g₀ (m.modify fun c => { c with spec }) g := by
  obtain ⟨⟨v, hhead, hstems, hcomp⟩, hb, hobs, hl⟩ := h
  exact ⟨⟨v, hhead, hstems.inPlace hs, hcomp⟩, hb, hobs, hl⟩

lemma compute (h : Knows r g₀ m g) (hbuilding : g.building = true) : Knows r g₀ m.compute g := by
  obtain ⟨⟨v, hv, hs, hc⟩, hb, ho, hl⟩ := h
  refine ⟨⟨v, hv, hs, fun h₁ h₂ n hn => ?_⟩, fun _ => hbuilding, ho, hl⟩
  rcases List.mem_append.mp hn with hn | hn
  · exact hc h₁ h₂ n hn
  · rw [List.mem_singleton.mp hn, hs.generation]

lemma allows_update (h : Knows r g₀ m g) : (protocol r).allows g (.updateCluster m.cluster) := by
  obtain ⟨⟨v, hv, hs, -⟩, -, -, -⟩ := h
  exact ⟨v, hv, hs⟩

end Knows

end ClusterOperator.Controller
