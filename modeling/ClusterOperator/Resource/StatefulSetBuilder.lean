import ClusterOperator.Resource.PodSpecOverride

/-! `StatefulSetBuilder`. Besides the StatefulSet, `Update` changes the RabbitmqCluster in
memory: it sanitizes the override of the pod spec in place, and the claim templates it
takes from the override share their requests with the StatefulSet. -/

namespace ClusterOperator.Resource

open Api Kubernetes

variable (cluster : RabbitmqCluster)

def statefulSetSpecOverride : Option StatefulSetSpecOverride :=
  cluster.spec.statefulSetOverride.bind StatefulSetOverride.spec

def persistentVolumeClaim : List ClaimTemplate :=
  if cluster.spec.storage = 0 then []
  else
    [{ name := "persistence"
       labels := label cluster.name
       annotations := reconcileAndFilterAnnotations {} cluster.annotations
       storage := some cluster.spec.storage
       storageClassName := cluster.spec.storageClassName }]

namespace StatefulSetBuilder

def build : StatefulSet where
  serviceName :=
    match statefulSetSpecOverride cluster with
    | some o => if o.serviceName ≠ "" then o.serviceName else cluster.childResourceName "nodes"
    | none => cluster.childResourceName "nodes"
  selector :=
    ((statefulSetSpecOverride cluster).bind StatefulSetSpecOverride.selector).getD (labelSelector cluster.name)
  volumeClaimTemplates := persistentVolumeClaim cluster
  podManagementPolicy := "Parallel"
  persistentVolumeClaimRetentionPolicy := "WhenDeleted: Delete, WhenScaled: Retain"

end StatefulSetBuilder

def updatePersistenceStorageCapacity (templates : List ClaimTemplate) (capacity : Quantity) :
    List ClaimTemplate :=
  -- Go panics on a template of that name whose map of requests is nil.
  templates.map (fun t => if t.name = "persistence" then { t with storage := some capacity } else t)

lemma find?_updatePersistenceStorageCapacity (ts : List ClaimTemplate) (q : Quantity) :
    (updatePersistenceStorageCapacity ts q).find? (fun t => t.name = "persistence") =
      (ts.find? fun t => t.name = "persistence").map fun t => { t with storage := some q } := by
  induction ts with
  | nil => rfl
  | cons t ts ih =>
    by_cases ht : t.name = "persistence"
    · simp [updatePersistenceStorageCapacity, ht]
    · simpa [updatePersistenceStorageCapacity, ht] using ih

def overridesClaims (o : StatefulSetSpecOverride) : Bool :=
  !o.volumeClaimTemplates.isEmpty && cluster.spec.storage ≠ 0

def applyTemplateOverride (merge : StrategicMergePatch) (template : PodTemplateSpec)
    (override : PodTemplateOverride) : Except Err PodTemplateSpec := do
  let template :=
    match override.metadata with
    | none => template
    | some m =>
      { template with
        labels := template.labels.merge m.labels
        annotations := template.annotations.merge m.annotations }
  let spec ← (match override.spec with
    | none => .ok template.spec
    | some podSpecOverride => patchPodSpec merge template.spec (sanitizePodSpecOverride podSpecOverride))
  return { template with
    spec := { spec with
      serviceAccountName := cluster.childResourceName "server"
      automountServiceAccountToken := some true } }

def overriddenFields (sts : StatefulSet) (override : StatefulSetSpecOverride) : StatefulSet :=
  { sts with
    replicas := override.replicas.getD sts.replicas
    updateStrategy := override.updateStrategy.getD sts.updateStrategy
    podManagementPolicy :=
      if override.podManagementPolicy ≠ "" then override.podManagementPolicy else sts.podManagementPolicy
    minReadySeconds :=
      if override.minReadySeconds ≠ 0 then override.minReadySeconds else sts.minReadySeconds
    volumeClaimTemplates :=
      if overridesClaims cluster override then
        override.volumeClaimTemplates.map (fun t => { t with controller := some cluster.name })
      else sts.volumeClaimTemplates
    persistentVolumeClaimRetentionPolicy :=
      override.persistentVolumeClaimRetentionPolicy.getD sts.persistentVolumeClaimRetentionPolicy }

def applyStsSpecOverride (merge : StrategicMergePatch) (sts : StatefulSet)
    (override : StatefulSetSpecOverride) : Except Err StatefulSet :=
  let sts := overriddenFields cluster sts override
  match override.template with
  | none => .ok sts
  | some template => do
    let template ← applyTemplateOverride cluster merge sts.template template
    return { sts with template }

def applyStsOverride (merge : StrategicMergePatch) (sts : StatefulSet) (stsOverride : StatefulSetOverride) :
    Except Err StatefulSet :=
  let sts :=
    match stsOverride.metadata with
    | none => sts
    | some m => { sts with metadata := copyLabelsAnnotations sts.metadata m }
  match stsOverride.spec with
  | none => .ok sts
  | some override => applyStsSpecOverride cluster merge sts override

namespace StatefulSetBuilder

def defaults (sts : StatefulSet) : StatefulSet :=
  { sts with
    replicas := cluster.spec.replicas
    updateStrategy := "RollingUpdate, Partition: 0"
    metadata :=
      { sts.metadata with
        annotations := reconcileAndFilterAnnotations sts.metadata.annotations cluster.annotations
        labels := getLabels cluster.name cluster.labels }
    volumeClaimTemplates := updatePersistenceStorageCapacity sts.volumeClaimTemplates cluster.spec.storage
    template := podTemplateSpec cluster sts.template.annotations }

def update (merge : StrategicMergePatch) (sts : StatefulSet) : Except Err StatefulSet := do
  let sts ← (match cluster.spec.statefulSetOverride with
    | none => .ok (defaults cluster sts)
    | some override =>
      (applyStsOverride cluster merge (defaults cluster sts) override).mapError
        (.wrap "failed applying StatefulSet override"))
  let metadata ← setControllerReference cluster sts.metadata
  return { sts with metadata }

end StatefulSetBuilder

section Updated

def desiredReplicas : ℤ :=
  ((statefulSetSpecOverride cluster).bind StatefulSetSpecOverride.replicas).getD cluster.spec.replicas

def desiredClaims (templates : List ClaimTemplate) : List ClaimTemplate :=
  match (statefulSetSpecOverride cluster).filter (overridesClaims cluster) with
  | some o => o.volumeClaimTemplates.map (fun t => { t with controller := some cluster.name })
  | none => updatePersistenceStorageCapacity templates cluster.spec.storage

structure Updated (sts updated : StatefulSet) : Prop where
  replicas : updated.replicas = desiredReplicas cluster
  resourceVersion : updated.metadata.resourceVersion = sts.metadata.resourceVersion
  volumeClaimTemplates : updated.volumeClaimTemplates = desiredClaims cluster sts.volumeClaimTemplates

variable {cluster} {merge : StrategicMergePatch} {sts updated : StatefulSet}

lemma applyStsSpecOverride_updated {override : StatefulSetSpecOverride}
    (h : applyStsSpecOverride cluster merge sts override = .ok updated) :
    updated.replicas = override.replicas.getD sts.replicas ∧ updated.metadata = sts.metadata ∧
      updated.volumeClaimTemplates =
        if overridesClaims cluster override then
          override.volumeClaimTemplates.map (fun t => { t with controller := some cluster.name })
        else sts.volumeClaimTemplates := by
  unfold applyStsSpecOverride at h
  dsimp only at h
  split at h
  · cases h
    exact ⟨rfl, rfl, rfl⟩
  · obtain ⟨template, -, h⟩ := bind_eq_ok.mp h
    cases h
    exact ⟨rfl, rfl, rfl⟩

lemma applyStsOverride_updated {override : StatefulSetOverride}
    (ho : cluster.spec.statefulSetOverride = some override)
    (h : applyStsOverride cluster merge (StatefulSetBuilder.defaults cluster sts) override = .ok updated) :
    Updated cluster sts updated := by
  have hspec : statefulSetSpecOverride cluster = override.spec := by simp [statefulSetSpecOverride, ho]
  rcases override with ⟨metadata, _ | spec⟩
  · cases metadata <;> cases h <;>
      exact ⟨by simp [desiredReplicas, hspec, StatefulSetBuilder.defaults], rfl,
        by simp [desiredClaims, hspec, StatefulSetBuilder.defaults]⟩
  · have hclaims (templates : List ClaimTemplate) : desiredClaims cluster templates =
        if overridesClaims cluster spec then
          spec.volumeClaimTemplates.map (fun t => { t with controller := some cluster.name })
        else updatePersistenceStorageCapacity templates cluster.spec.storage := by
      cases hc : overridesClaims cluster spec <;> simp [desiredClaims, hspec, Option.filter, hc]
    cases metadata <;>
    · obtain ⟨hr, hm, hv⟩ := applyStsSpecOverride_updated h
      refine ⟨?_, by rw [hm]; rfl, by rw [hv, hclaims]; rfl⟩
      rw [hr, desiredReplicas, hspec]
      rfl

lemma StatefulSetBuilder.update_eq_defaults (ho : cluster.spec.statefulSetOverride = none)
    (h : update cluster merge sts = .ok updated) :
    ∃ metadata, updated = { defaults cluster sts with metadata } := by
  obtain ⟨out, hout, h⟩ := bind_eq_ok.mp h
  obtain ⟨metadata, -, h⟩ := bind_eq_ok.mp h
  rw [ho] at hout
  cases hout
  cases h
  exact ⟨metadata, rfl⟩

theorem StatefulSetBuilder.update_updated (h : update cluster merge sts = .ok updated) :
    Updated cluster sts updated := by
  obtain ⟨out, hout, h⟩ := bind_eq_ok.mp h
  obtain ⟨metadata, hmeta, h⟩ := bind_eq_ok.mp h
  cases h
  have hfields : Updated cluster sts out := by
    cases ho : cluster.spec.statefulSetOverride with
    | none =>
      rw [ho] at hout
      cases hout
      have hspec : statefulSetSpecOverride cluster = none := by simp [statefulSetSpecOverride, ho]
      exact ⟨by simp [desiredReplicas, hspec, defaults], rfl, by simp [desiredClaims, hspec, defaults]⟩
    | some override =>
      simp only [ho] at hout
      exact applyStsOverride_updated ho (mapError_eq_ok.mp hout)
  have hversion := congrArg ObjectMeta.resourceVersion (setControllerReference_eq hmeta)
  exact ⟨hfields.replicas, hversion.trans hfields.resourceVersion, hfields.volumeClaimTemplates⟩

end Updated

def modifyOverride (f : StatefulSetSpecOverride → StatefulSetSpecOverride) (spec : RabbitmqClusterSpec) :
    RabbitmqClusterSpec :=
  { spec with
    statefulSetOverride := spec.statefulSetOverride.map (fun o => { o with spec := o.spec.map f }) }

def sanitizeTemplate (o : StatefulSetSpecOverride) : StatefulSetSpecOverride :=
  { o with template := o.template.map (fun t => { t with spec := t.spec.map sanitizePodSpecOverride }) }

def sanitizeOverride (spec : RabbitmqClusterSpec) : RabbitmqClusterSpec := modifyOverride sanitizeTemplate spec

/-- The capacity that `Update` writes into claim templates is seen in the override if the
templates share their requests with it. -/
def raiseClaims (spec : RabbitmqClusterSpec) : RabbitmqClusterSpec :=
  modifyOverride (fun o => { o with
    volumeClaimTemplates := updatePersistenceStorageCapacity o.volumeClaimTemplates spec.storage }) spec

/-- `Update` together with what it does to the cluster in memory, and whether the StatefulSet
shares its claims with the override afterwards. -/
def StatefulSetBuilder.updateInMemory (merge : StrategicMergePatch) (shared : Bool) (sts : StatefulSet) :
    (RabbitmqCluster × Bool) × Except Err StatefulSet :=
  let cluster := if shared then { cluster with spec := raiseClaims cluster.spec } else cluster
  (({ cluster with spec := sanitizeOverride cluster.spec },
      shared || (statefulSetSpecOverride cluster).any (overridesClaims cluster)),
    update cluster merge sts)

end ClusterOperator.Resource
