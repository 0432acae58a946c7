import ClusterOperator.Resource.ContainerOverride
import ClusterOperator.Resource.PodUpdate
import ClusterOperator.Status.Conditions

/-! `NoWarningsCondition` of what `StatefulSetBuilder.Update` gives. It reads the first container,
which is `rabbitmq` only if the override leaves it in front. -/

namespace ClusterOperator.Status

open Api Kubernetes Keyed Resource

section Condition

def Unbalanced (m : MemoryResources) : Prop :=
  m.limit.getD 0 ≠ 0 ∧ m.request.getD 0 ≠ 0 ∧ m.limit.getD 0 ≠ m.request.getD 0

instance (m : MemoryResources) : Decidable (Unbalanced m) :=
  inferInstanceAs (Decidable (_ ∧ _ ∧ _))

def containerNames (sts : StatefulSet) : List String := sts.template.spec.containers.map Container.name

def AboutRabbitmq (sts : StatefulSet) : Prop :=
  (noWarningsCondition (some sts)).status = .false ↔
    ∃ c ∈ sts.template.spec.containers, c.name = "rabbitmq" ∧ Unbalanced c.memory

variable {sts sts' : StatefulSet}

lemma noWarningsCondition_status : (noWarningsCondition (some sts)).status =
    if Unbalanced ((sts.template.spec.containers.head?.map Container.memory).getD {}) then .false else .true :=
  apply_ite Condition.status _ _ _

lemma noWarningsCondition_false : (noWarningsCondition (some sts)).status = .false ↔
    Unbalanced ((sts.template.spec.containers.head?.map Container.memory).getD {}) := by
  rw [noWarningsCondition_status]
  split <;> simp [*]

lemma status_eq_iff : (noWarningsCondition (some sts)).status = (noWarningsCondition (some sts')).status ↔
    ((noWarningsCondition (some sts)).status = .false ↔ (noWarningsCondition (some sts')).status = .false) := by
  simp only [noWarningsCondition_status]
  split <;> split <;> simp

end Condition

section Merged

def mergeMemory (original patch : MemoryResources) : MemoryResources :=
  ⟨mergeField original.limit patch.limit, mergeField original.request patch.request⟩

variable (cluster : RabbitmqCluster)

def overrideContainers : List Container := (podSpecOverride cluster).elim [] PodSpec.containers

def containerMemory (name : String) : MemoryResources :=
  ((overrideContainers cluster).filter (·.name = name)).foldl (fun m o => mergeMemory m o.memory)
    (((operatorContainers cluster).find? (·.name = name)).elim {} Container.memory)

/-- The container that the order of apimachinery puts first: that of the first entry of the
override, unless `rabbitmq` is left in front of the other container of the operator. -/
def firstName : String :=
  match ((overrideContainers cluster).map Container.name).dedup with
  | [] => "rabbitmq"
  | name :: names =>
    if name = "default-user-credential-updater" ∧ credentialUpdaterNeeded cluster ∧ "rabbitmq" ∉ names then "rabbitmq"
    else name

def mergedContainers (merge : StrategicMergePatch) : List Container :=
  match podSpecOverride cluster with
  | none => operatorContainers cluster
  | some override =>
    (merge.podSpec (podTemplateSpec cluster {}).spec (sanitizePodSpecOverride override)).containers

def memories (cs : List Container) : List (String × MemoryResources) := cs.map fun c => (c.name, c.memory)

lemma mergedContainers_perm (merge : StrategicMergePatch) : (mergedContainers cluster merge).Perm
    (mergeBy Container.name mergeContainer (operatorContainers cluster)
      ((overrideContainers cluster).map sanitizeContainer)) := by
  unfold mergedContainers overrideContainers
  cases podSpecOverride cluster with
  | none => exact List.Perm.refl _
  | some override => exact merge.containers _ _

lemma memory_eq_containerMemory {merge : StrategicMergePatch} {c : Container}
    (hc : c ∈ mergedContainers cluster merge) : c.memory = containerMemory cluster c.name := by
  have hmem := (mergedContainers_perm cluster merge).mem_iff.mp hc
  have hnodup : ((mergeBy Container.name mergeContainer (operatorContainers cluster)
      ((overrideContainers cluster).map sanitizeContainer)).map Container.name).Nodup :=
    mergeBy_keys_nodup mergeContainer_name (operatorContainers_nodup cluster)
  have hfield := mergeBy_field mergeContainer_name (f := Container.memory) (g := mergeMemory) (e := {})
    (fun _ _ => rfl) (fun o => by simp [mergeMemory, mergeField]) (operatorContainers cluster)
    ((overrideContainers cluster).map sanitizeContainer) c.name
  rw [find?_key_of_mem hnodup hmem, List.filter_map, List.foldl_map] at hfield
  exact hfield

lemma exists_rabbitmq (merge : StrategicMergePatch) : ∃ c ∈ mergedContainers cluster merge, c.name = "rabbitmq" := by
  simp only [(mergedContainers_perm cluster merge).mem_iff]
  exact (mergeBy_key mergeContainer_name).mpr (Or.inl ⟨rabbitmqContainer cluster, List.mem_cons_self, rfl⟩)

end Merged

section Updated

variable {cluster : RabbitmqCluster} {merge : StrategicMergePatch} {sts updated : StatefulSet}

lemma memories_of_cleared {cs cs' : List Container} (h : cs.map cleared = cs'.map cleared) :
    memories cs = memories cs' := by
  have hmap := congrArg memories h
  unfold memories at hmap ⊢
  rw [List.map_map, List.map_map] at hmap
  exact hmap

lemma adjust_memory {rmq c c' : Container} (h : adjust rmq c = .ok c') : c'.name = c.name ∧ c'.memory = c.memory := by
  obtain ⟨env, -, h⟩ := bind_eq_ok.mp h
  obtain ⟨mounts, -, h⟩ := bind_eq_ok.mp h
  cases h
  exact ⟨rfl, rfl⟩

lemma overrideFirst_memories {rmq : Container} {cs out : List Container} (h : overrideFirst rmq cs = .ok out) :
    memories out = memories cs := by
  cases cs with
  | nil =>
    simp only [overrideFirst] at h
    split at h <;> cases h
    rfl
  | cons c cs =>
    obtain ⟨c', hc', rfl⟩ := overrideFirst_cons.mp h
    obtain ⟨hname, hmemory⟩ := adjust_memory hc'
    simp [memories, hname, hmemory]

lemma patchPodSpec_memories {podSpec override out : PodSpec} (h : patchPodSpec merge podSpec override = .ok out) :
    memories out.containers = memories (merge.podSpec podSpec override).containers := by
  obtain ⟨containers, hfirst, -, -, rfl⟩ := patchPodSpec_eq_ok.mp h
  exact (memories_of_cleared (cleared_clearFrom _ _)).trans (overrideFirst_memories hfirst)

lemma updatedPodSpec_memories {spec : PodSpec} (h : updatedPodSpec cluster merge = .ok spec) :
    memories spec.containers = memories (mergedContainers cluster merge) := by
  unfold mergedContainers
  rcases updatedPodSpec_cases h with ⟨hnone, rfl⟩ | ⟨override, patched, hsome, hpatched, rfl⟩
  · rw [hnone]
    rfl
  · have hmemories : memories patched.containers = _ := patchPodSpec_memories hpatched
    rw [hsome]
    exact hmemories

lemma update_memories (h : StatefulSetBuilder.update cluster merge sts = .ok updated) :
    memories updated.template.spec.containers = memories (mergedContainers cluster merge) := by
  exact updatedPodSpec_memories (StatefulSetBuilder.update_podSpec h)

lemma update_names (h : StatefulSetBuilder.update cluster merge sts = .ok updated) :
    containerNames updated = (mergedContainers cluster merge).map Container.name := by
  have hnames := congrArg (List.map Prod.fst) (update_memories h)
  unfold memories at hnames
  rw [List.map_map, List.map_map] at hnames
  exact hnames

lemma update_memory (h : StatefulSetBuilder.update cluster merge sts = .ok updated) {c : Container}
    (hc : c ∈ updated.template.spec.containers) : c.memory = containerMemory cluster c.name := by
  have hmem : (c.name, c.memory) ∈ memories (mergedContainers cluster merge) :=
    update_memories h ▸ List.mem_map.mpr ⟨c, hc, rfl⟩
  obtain ⟨d, hd, heq⟩ := List.mem_map.mp hmem
  obtain ⟨hname, hmemory⟩ := Prod.mk.inj heq
  rw [← hname, ← hmemory]
  exact memory_eq_containerMemory cluster hd

lemma rabbitmq_unbalanced_iff (h : StatefulSetBuilder.update cluster merge sts = .ok updated) :
    (∃ c ∈ updated.template.spec.containers, c.name = "rabbitmq" ∧ Unbalanced c.memory) ↔
      Unbalanced (containerMemory cluster "rabbitmq") := by
  constructor
  · rintro ⟨c, hc, hname, hunbalanced⟩
    rwa [update_memory h hc, hname] at hunbalanced
  · intro hunbalanced
    obtain ⟨d, hd, hdname⟩ := exists_rabbitmq cluster merge
    have hmem : "rabbitmq" ∈ containerNames updated := update_names h ▸ List.mem_map.mpr ⟨d, hd, hdname⟩
    obtain ⟨c, hc, hname⟩ := List.mem_map.mp hmem
    refine ⟨c, hc, hname, ?_⟩
    rwa [update_memory h hc, hname]

lemma aboutRabbitmq_iff (h : StatefulSetBuilder.update cluster merge sts = .ok updated) {first : String}
    (hfirst : (containerNames updated).head? = some first) : AboutRabbitmq updated ↔
      (Unbalanced (containerMemory cluster first) ↔ Unbalanced (containerMemory cluster "rabbitmq")) := by
  unfold containerNames at hfirst
  rw [List.head?_map] at hfirst
  obtain ⟨c, hc, rfl⟩ := Option.map_eq_some_iff.mp hfirst
  rw [AboutRabbitmq, rabbitmq_unbalanced_iff h, noWarningsCondition_false, hc, Option.map_some, Option.getD_some,
    update_memory h (List.mem_of_mem_head? hc)]

lemma containerMemory_rabbitmq (cluster : RabbitmqCluster) : containerMemory cluster "rabbitmq" =
    ((overrideContainers cluster).filter (·.name = "rabbitmq")).foldl (fun m o => mergeMemory m o.memory)
      cluster.spec.memory := rfl

end Updated

section First

variable {cluster : RabbitmqCluster}

def AddedFirst (operator override merged : List String) : Prop :=
  ∀ x ∈ override, x ∉ operator → ∀ y ∈ operator, y ∉ override → merged.idxOf x < merged.idxOf y

lemma AddedFirst.head?_ne {operator override merged : List String} (h : AddedFirst operator override merged)
    {x y : String} (hx : x ∈ override) (hadded : x ∉ operator) (hy : y ∈ operator) (hleft : y ∉ override) :
    merged.head? ≠ some y := by
  intro hhead
  have hlt := h x hx hadded y hy hleft
  obtain ⟨rest, rfl⟩ := List.head?_eq_some_iff.mp hhead
  rw [List.idxOf_cons_self] at hlt
  exact absurd hlt (Nat.not_lt_zero _)

lemma firstKey_eq_firstName (cluster : RabbitmqCluster) :
    firstKey ((operatorContainers cluster).map Container.name) ((overrideContainers cluster).map Container.name) =
      some (firstName cluster) := by
  unfold firstName firstKey
  generalize (overrideContainers cluster).map Container.name = names
  have hmem (x : String) : x ∈ names ↔ x ∈ names.dedup := List.mem_dedup.symm
  simp only [hmem]
  cases names.dedup with
  | nil =>
    rw [operatorContainers_names]
    simp
  | cons name names =>
    by_cases hrabbitmq : "rabbitmq" ∈ name :: names
    · have hfirst : ¬ (name = "default-user-credential-updater" ∧ credentialUpdaterNeeded cluster ∧
          "rabbitmq" ∉ names) := by
        rintro ⟨rfl, -, hnot⟩
        exact hnot (by simpa using hrabbitmq)
      simp only [if_neg hfirst, List.head?_cons]
      cases hfind : ((operatorContainers cluster).map Container.name).find? (fun x => x ∉ name :: names) with
      | none => rfl
      | some x =>
        refine congrArg some (if_neg ?_)
        rintro ⟨hname, hlt⟩
        obtain rfl := eq_rabbitmq_of_idxOf_lt cluster hname hlt
        exact absurd hrabbitmq (by simpa using List.find?_some hfind)
    · obtain ⟨hne, hnot⟩ : "rabbitmq" ≠ name ∧ "rabbitmq" ∉ names := by simpa using hrabbitmq
      rw [operatorContainers_names, List.find?_cons_of_pos (by simpa using hrabbitmq)]
      simp only [List.head?_cons, List.idxOf_cons_self, List.idxOf_cons_ne _ hne, Nat.succ_pos, List.mem_cons,
        Ne.symm hne, false_or, and_true, hnot, not_false_eq_true]
      cases credentialUpdaterNeeded cluster <;> simp

lemma head?_mergedContainers (cluster : RabbitmqCluster) :
    ((mergedContainers cluster strategicMergePatch).map Container.name).head? = some (firstName cluster) := by
  rw [← firstKey_eq_firstName]
  unfold mergedContainers overrideContainers
  cases podSpecOverride cluster with
  | none =>
    rw [Option.elim_none, List.map_nil, firstKey, operatorContainers_names]
    simp
  | some override =>
    have hsanitized : (sanitizePodSpecOverride override).containers.map Container.name =
        override.containers.map Container.name := by
      simp [sanitizePodSpecOverride, sanitizeContainer, Function.comp_def]
    rw [Option.elim_some, ← hsanitized]
    exact mergeInOrder_head? mergeContainer_name (operatorContainers_nodup cluster)

end First

def FirstDecides (cluster : RabbitmqCluster) : Prop :=
  Unbalanced (containerMemory cluster (firstName cluster)) ↔ Unbalanced (containerMemory cluster "rabbitmq")

theorem memory_warning_about_rabbitmq_iff {cluster cluster' : RabbitmqCluster}
    {sts sts' updated updated' : StatefulSet} (hmemory : cluster'.spec.memory = cluster.spec.memory)
    (hentries : (overrideContainers cluster').filter (·.name = "rabbitmq") =
      (overrideContainers cluster).filter (·.name = "rabbitmq"))
    (h : StatefulSetBuilder.update cluster strategicMergePatch sts = .ok updated)
    (h' : StatefulSetBuilder.update cluster' strategicMergePatch sts' = .ok updated') :
    ((AboutRabbitmq updated ∧ AboutRabbitmq updated' ∧
        (noWarningsCondition (some updated)).status = (noWarningsCondition (some updated')).status) ↔
      FirstDecides cluster ∧ FirstDecides cluster') ∧
    ∀ (merge : StrategicMergePatch) (sts updated : StatefulSet),
      let operator := (operatorContainers cluster).map Container.name
      let override := (overrideContainers cluster).map Container.name
      StatefulSetBuilder.update cluster merge sts = .ok updated →
      AddedFirst operator override (containerNames updated) →
      (∃ x ∈ override, x ∉ operator) → "rabbitmq" ∉ override →
      (containerNames updated).head? ≠ some "rabbitmq" := by
  constructor
  · have hfirst {cluster : RabbitmqCluster} {sts updated : StatefulSet}
        (h : StatefulSetBuilder.update cluster strategicMergePatch sts = .ok updated) :
        (containerNames updated).head? = some (firstName cluster) := by
      rw [update_names h, head?_mergedContainers]
    have habout := aboutRabbitmq_iff h (hfirst h)
    have habout' := aboutRabbitmq_iff h' (hfirst h')
    rw [FirstDecides, FirstDecides, ← habout, ← habout', ← and_assoc, and_iff_left_iff_imp]
    rintro ⟨hr, hr'⟩
    rw [AboutRabbitmq, rabbitmq_unbalanced_iff h, containerMemory_rabbitmq] at hr
    rw [AboutRabbitmq, rabbitmq_unbalanced_iff h', containerMemory_rabbitmq, hmemory, hentries] at hr'
    rw [status_eq_iff, hr, hr']
  · rintro merge sts updated operator override - hadded ⟨x, hx, hnew⟩ hnot
    exact hadded.head?_ne hx hnew List.mem_cons_self hnot

def overridingContainers (memory : MemoryResources) (containers : List Container) : RabbitmqCluster where
  name := "rabbit"
  ns := "default"
  spec.memory := memory
  spec.statefulSetOverride := some { spec := some { template := some { spec := some { containers } } } }

def balanced : MemoryResources := ⟨some 2147483648, some 2147483648⟩

def sidecar : Container where
  name := "sidecar"
  memory := ⟨some 134217728, some 67108864⟩

def observe (cluster : RabbitmqCluster) : Except Err (List (String × MemoryResources) × ConditionStatus) :=
  (StatefulSetBuilder.update cluster strategicMergePatch {}).map fun sts =>
    (memories sts.template.spec.containers, (noWarningsCondition (some sts)).status)

theorem sidecar_decides_warning :
    observe (overridingContainers balanced []) = .ok ([("rabbitmq", balanced)], .true) ∧
    observe (overridingContainers balanced [sidecar]) =
      .ok ([("sidecar", sidecar.memory), ("rabbitmq", balanced)], .false) ∧
    observe (overridingContainers ⟨some 2147483648, some 1073741824⟩ [{ name := "sidecar" }]) =
      .ok ([("sidecar", {}), ("rabbitmq", ⟨some 2147483648, some 1073741824⟩)], .true) := by
  decide +kernel

theorem sidecar_behind_rabbitmq : ∃ updated updated',
    StatefulSetBuilder.update (overridingContainers balanced [{ name := "rabbitmq" }, sidecar])
      strategicMergePatch {} = .ok updated ∧
    StatefulSetBuilder.update (overridingContainers balanced [{ name := "rabbitmq" }])
      strategicMergePatch {} = .ok updated' ∧
    AboutRabbitmq updated ∧ AboutRabbitmq updated' ∧
      (noWarningsCondition (some updated)).status = (noWarningsCondition (some updated')).status := by
  have hok : (StatefulSetBuilder.update (overridingContainers balanced [{ name := "rabbitmq" }, sidecar])
      strategicMergePatch {}).map (fun _ => ()) = .ok () := by decide +kernel
  have hok' : (StatefulSetBuilder.update (overridingContainers balanced [{ name := "rabbitmq" }])
      strategicMergePatch {}).map (fun _ => ()) = .ok () := by decide +kernel
  obtain ⟨updated, hupdated, -⟩ := map_eq_ok.mp hok
  obtain ⟨updated', hupdated', -⟩ := map_eq_ok.mp hok'
  have hdecides (cluster : RabbitmqCluster) (hname : firstName cluster = "rabbitmq") : FirstDecides cluster := by
    rw [FirstDecides, hname]
  have hmemory (cs : List Container) : (overridingContainers balanced cs).spec.memory = balanced := rfl
  obtain ⟨hiff, -⟩ := memory_warning_about_rabbitmq_iff ((hmemory _).trans (hmemory _).symm)
    (by decide +kernel) hupdated hupdated'
  exact ⟨updated, updated', hupdated, hupdated', hiff.mpr
    ⟨hdecides _ (by decide +kernel), hdecides _ (by decide +kernel)⟩⟩

end ClusterOperator.Status
