import ClusterOperator.Controller.SpecFrame

namespace ClusterOperator.Controller

open Api Kubernetes Interaction Resource Scaling

variable {r : Reconciler} {n : ℤ} {q : Quantity} {v c : RabbitmqCluster}

structure Asks (n : ℤ) (q : Quantity) (v : RabbitmqCluster) : Prop where
  replicas : desiredReplicas v = 0 ∨ n ≤ desiredReplicas v
  storage : q ≤ v.spec.storage
  claims : ∀ o ∈ statefulSetSpecOverride v, overridesClaims v o = true →
    q ≤ persistenceStorageCapacity o.volumeClaimTemplates

structure Retains (n : ℤ) (q : Quantity) (sts : StatefulSet) : Prop where
  replicas : sts.replicas = 0 ∨ n ≤ sts.replicas
  storage : q ≤ persistenceStorageCapacity sts.volumeClaimTemplates

lemma le_updatePersistenceStorageCapacity {ts : List ClaimTemplate} {capacity : Quantity}
    (hts : q ≤ persistenceStorageCapacity ts) (hq : q ≤ capacity) :
    q ≤ persistenceStorageCapacity (updatePersistenceStorageCapacity ts capacity) := by
  unfold persistenceStorageCapacity at hts ⊢
  rw [find?_updatePersistenceStorageCapacity]
  cases hfind : ts.find? (fun t => t.name = "persistence") with
  | none => simpa [hfind] using hts
  | some t => exact hq

lemma Asks.capacity_desiredClaims (h : Asks n q c) {ts : List ClaimTemplate}
    (hts : q ≤ persistenceStorageCapacity ts) : q ≤ persistenceStorageCapacity (desiredClaims c ts) := by
  unfold desiredClaims
  split
  · rename_i o ho
    obtain ⟨ho, hclaims⟩ := Option.filter_eq_some_iff.mp ho
    rw [persistenceStorageCapacity_controller]
    exact h.claims o ho hclaims
  · exact le_updatePersistenceStorageCapacity hts h.storage

lemma Asks.capacity_build (h : Asks n q c) :
    q ≤ persistenceStorageCapacity (StatefulSetBuilder.build c).volumeClaimTemplates := by
  change q ≤ persistenceStorageCapacity (persistentVolumeClaim c)
  unfold persistentVolumeClaim
  split
  · rename_i hzero
    exact h.storage.trans_eq hzero
  · exact h.storage

lemma asks_modifyOverride {f : StatefulSetSpecOverride → StatefulSetSpecOverride} (h : Asks n q c)
    (hreplicas : ∀ o, (f o).replicas = o.replicas)
    (hempty : ∀ o, (f o).volumeClaimTemplates.isEmpty = o.volumeClaimTemplates.isEmpty)
    (hclaims : ∀ o, q ≤ persistenceStorageCapacity o.volumeClaimTemplates →
      q ≤ persistenceStorageCapacity (f o).volumeClaimTemplates) :
    Asks n q { c with spec := modifyOverride f c.spec } := by
  have hspec : statefulSetSpecOverride { c with spec := modifyOverride f c.spec } =
      (statefulSetSpecOverride c).map f := by
    simp only [statefulSetSpecOverride, modifyOverride]
    cases c.spec.statefulSetOverride <;> rfl
  refine ⟨?_, h.storage, fun o ho hc => ?_⟩
  · have hdesired : desiredReplicas { c with spec := modifyOverride f c.spec } = desiredReplicas c := by
      rw [desiredReplicas, hspec, desiredReplicas]
      cases statefulSetSpecOverride c with
      | none => rfl
      | some o => simp [hreplicas, modifyOverride]
    rw [hdesired]
    exact h.replicas
  · rw [hspec] at ho
    obtain ⟨p, hp, rfl⟩ := Option.map_eq_some_iff.mp ho
    have hoverrides : overridesClaims { c with spec := modifyOverride f c.spec } (f p) = overridesClaims c p := by
      simp only [overridesClaims, hempty]
      rfl
    exact hclaims p (h.claims p hp (hoverrides ▸ hc))

lemma Asks.inPlace (h : Asks n q c) {spec : RabbitmqClusterSpec} (hs : InPlace r c.spec spec) :
    Asks n q { c with spec } := by
  cases hs with
  | sanitize => exact asks_modifyOverride h (fun _ => rfl) (fun _ => rfl) fun _ => id
  | raise =>
    refine asks_modifyOverride h (fun _ => rfl) (fun o => ?_) fun o ho =>
      le_updatePersistenceStorageCapacity ho h.storage
    cases o.volumeClaimTemplates <;> rfl
  | image => exact ⟨h.replicas, h.storage, h.claims⟩
  | updaterImage => exact ⟨h.replicas, h.storage, h.claims⟩

lemma Asks.stems (h : Asks n q v) (hc : Stems r v c) : Asks n q c := by
  have hspec (spec : RabbitmqClusterSpec) (hs : Relation.ReflTransGen (InPlace r) v.spec spec) :
      Asks n q { v with spec } := by
    induction hs with
    | refl => exact h
    | tail _ hs ih => exact ih.inPlace hs
  have hv := hspec c.spec hc.spec
  exact ⟨hv.replicas, hv.storage, hv.claims⟩

lemma Draft.capacity {received : List RabbitmqCluster} {obj : StatefulSet} (h : Draft r received obj)
    (hasks : ∀ v ∈ received, Asks n q v) : q ≤ persistenceStorageCapacity obj.volumeClaimTemplates := by
  induction h with
  | build hv hc => exact ((hasks _ hv).stems hc).capacity_build
  | update _ hv hc hu ih =>
    rw [(StatefulSetBuilder.update_updated hu).volumeClaimTemplates]
    exact ((hasks _ hv).stems hc).capacity_desiredClaims ih

lemma retains_of_allowed {g : History} {o : StatefulSet} (h : (protocol r).allows g (.createStatefulSet o))
    (hv : o.metadata.resourceVersion = 0) (hasks : ∀ v ∈ g.received, Asks n q v) : Retains n q o := by
  obtain ⟨v, c, obj, hhead, hc, hobj, hu⟩ := h hv
  have hask := (hasks v (List.mem_of_head? hhead)).stems hc
  have hupdated := StatefulSetBuilder.update_updated hu
  refine ⟨?_, ?_⟩
  · rw [hupdated.replicas]
    exact hask.replicas
  · rw [hupdated.volumeClaimTemplates]
    exact hask.capacity_desiredClaims (hobj.capacity hasks)

def Creates (e : Event api Store) (sts : StatefulSet) : Prop :=
  e.before.statefulSet = none ∧ e.after.statefulSet = some sts

lemma creation_retains {t : Turn} {req : Request} {s : Store} {g : History} {sts : StatefulSet}
    (h : (protocol r).allows g req) (hcreates : Creates (server.event t req s) sts)
    (hasks : ∀ v ∈ g.received, Asks n q v) : Retains n q sts := by
  obtain ⟨hbefore, hafter⟩ := hcreates
  change (serve t req (server.disturb t s)).2.statefulSet = some sts at hafter
  change (server.disturb t s).statefulSet = none at hbefore
  rcases serve_written t req (server.disturb t s) with hs | hs
  · rw [hs, hbefore] at hafter
    cases hafter
  · generalize (serve t req (server.disturb t s)).2 = s' at hs hafter
    cases hs with
    | statefulSetCreated _ hv =>
      cases hafter
      obtain ⟨hreplicas, hstorage⟩ := retains_of_allowed h hv hasks
      exact ⟨hreplicas, hstorage⟩
    | statefulSetUpdated h => cases hbefore.symm.trans h
    | statefulSetDeleted h => cases hbefore.symm.trans h
    | _ => cases hbefore.symm.trans hafter

/-- The size of the StatefulSet that was deleted last and not created again. -/
def window (w : Option (ℤ × Quantity)) (e : Event api Store) : Option (ℤ × Quantity) :=
  match e.request, e.before.statefulSet, e.after.statefulSet with
  | .deleteStatefulSet, some sts, some marked =>
    if marked.metadata.deletionTimestamp then
      some (sts.replicas, persistenceStorageCapacity sts.volumeClaimTemplates)
    else w
  | _, none, some _ => none
  | _, _, _ => w

/-- Any size that the clusters received ask for is kept, in particular that of a StatefulSet deleted before. -/
theorem recreation_retains (r : Reconciler) (tss : List (List Turn)) (s : Store)
    {earlier later : List (Outcome api Store (Result × Option Memory))}
    {o : Outcome api Store (Result × Option Memory)} {es rest : List (Event api Store)} {e : Event api Store}
    (hrounds : rounds server (reconcile r) tss s = earlier ++ o :: later) (htrace : o.trace = es ++ e :: rest)
    {n : ℤ} {q : Quantity} {sts : StatefulSet} (hcreates : Creates e sts)
    (hasks : ∀ v ∈ (es.foldl (protocol r).observe {}).received, Asks n q v) : Retains n q sts := by
  obtain ⟨ts, s', -, rfl⟩ := rounds_start (J := fun _ => True) (fun _ _ _ => trivial) trivial o
    (hrounds ▸ List.mem_append_right earlier List.mem_cons_self)
  have halong := (reconcile_follows (r := r)).sound (J := fun _ _ => True)
    (A := fun _ (_ : Event api Store) => True)
    (E := fun g e => ∀ sts, Creates e sts → (∀ v ∈ g.received, Asks n q v) → Retains n q sts)
    (fun t req s g hallows _ _ =>
      ⟨fun _ => creation_retains hallows, expects_event t req s g, trivial⟩) (s := s') trivial ts
    (Protocol.along_const.mpr fun _ _ => trivial)
  have hevent := halong.1
  rw [htrace, Protocol.along_append] at hevent
  exact hevent.2.1 sts hcreates hasks

def expandingStore : Store :=
  ((Store.empty.putCluster (settledCluster { storage := 20, replicas := 3 })).putStatefulSet
    { StatefulSetBuilder.build (settledCluster { storage := 10 }) with replicas := 3 }).putPvc
    { name := "persistence-rabbit-server-0", storage := 10 }

def asciiReconciler : Reconciler := { plainReconciler with ini := Ini.ascii }

def expansion : Outcome api Store (Result × Option Memory) :=
  run server (reconcile asciiReconciler) (List.replicate 33 {}) expandingStore

def recreation (spec : RabbitmqClusterSpec) : Outcome api Store (Result × Option Memory) :=
  run server (reconcile asciiReconciler)
    ({ edits := [.collect, .setSpec spec] } :: List.replicate 30 {}) expansion.final

def createsAt (es : List (Event api Store)) (k : ℕ) (size : ℤ × Quantity) : Bool :=
  es[k]?.any fun e => e.before.statefulSet.isNone && e.after.statefulSet.any fun sts =>
    decide ((sts.replicas, persistenceStorageCapacity sts.volumeClaimTemplates) = size)

lemma creates_of_createsAt {es : List (Event api Store)} {k : ℕ} {size : ℤ × Quantity}
    (h : createsAt es k size = true) :
    ∃ e sts, es = es.take k ++ e :: es.drop (k + 1) ∧ Creates e sts ∧
      (sts.replicas, persistenceStorageCapacity sts.volumeClaimTemplates) = size := by
  obtain ⟨e, he, hcreates⟩ := (Option.any_eq_true _ _).mp h
  obtain ⟨hbefore, hafter⟩ := Bool.and_eq_true_iff.mp hcreates
  obtain ⟨sts, hsts, hsize⟩ := (Option.any_eq_true _ _).mp hafter
  obtain ⟨hk, rfl⟩ := List.getElem?_eq_some_iff.mp he
  refine ⟨_, sts, ?_, ⟨Option.isNone_iff_eq_none.mp hbefore, hsts⟩, of_decide_eq_true hsize⟩
  rw [List.getElem_cons_drop, List.take_append_drop]

theorem size_lost :
    ∃ es e rest sts, (recreation { replicas := 1, storage := 0 }).trace = es ++ e :: rest ∧
      (expansion.trace ++ es).foldl window none = some (3, 10) ∧ Creates e sts ∧
      sts.replicas = 1 ∧ persistenceStorageCapacity sts.volumeClaimTemplates = 0 := by
  have h : createsAt (recreation { replicas := 1, storage := 0 }).trace 22 (1, 0) = true ∧
      (expansion.trace ++ (recreation { replicas := 1, storage := 0 }).trace.take 22).foldl window none =
        some (3, 10) := by
    decide +kernel
  obtain ⟨e, sts, htrace, hcreates, hsize⟩ := creates_of_createsAt h.1
  exact ⟨_, e, _, sts, htrace, h.2, hcreates, congrArg Prod.fst hsize, congrArg Prod.snd hsize⟩

lemma asks_of_none (h : v.spec.statefulSetOverride = none) (hn : n ≤ v.spec.replicas) (hq : q ≤ v.spec.storage) :
    Asks n q v := by
  have hspec : statefulSetSpecOverride v = none := by simp [statefulSetSpecOverride, h]
  exact ⟨Or.inr (by simpa [desiredReplicas, hspec] using hn), hq, by simp [hspec]⟩

theorem size_retained :
    ∃ es e rest sts, (recreation { replicas := 3, storage := 20 }).trace = es ++ e :: rest ∧
      (expansion.trace ++ es).foldl window none = some (3, 10) ∧ Creates e sts ∧ Retains 3 10 sts := by
  have h : createsAt (recreation { replicas := 3, storage := 20 }).trace 26 (3, 20) = true ∧
      (expansion.trace ++ (recreation { replicas := 3, storage := 20 }).trace.take 26).foldl window none =
        some (3, 10) ∧
      ∀ v ∈ (((recreation { replicas := 3, storage := 20 }).trace.take 26).foldl
        (protocol asciiReconciler).observe {}).received,
        v.spec.statefulSetOverride.isNone = true ∧ 3 ≤ v.spec.replicas.val ∧ 10 ≤ v.spec.storage := by
    decide +kernel
  obtain ⟨e, sts, htrace, hcreates, -⟩ := creates_of_createsAt h.1
  have hrounds : rounds server (reconcile asciiReconciler) [List.replicate 33 {},
      { edits := [.collect, .setSpec { replicas := 3, storage := 20 }] } :: List.replicate 30 {}]
      expandingStore = [expansion] ++ recreation { replicas := 3, storage := 20 } :: [] := rfl
  refine ⟨_, e, _, sts, htrace, h.2.1, hcreates, ?_⟩
  refine recreation_retains asciiReconciler _ _ hrounds htrace hcreates fun v hv => ?_
  obtain ⟨hnone, hn, hq⟩ := h.2.2 v hv
  exact asks_of_none (Option.isNone_iff_eq_none.mp hnone) (by exact_mod_cast hn) hq

end ClusterOperator.Controller
