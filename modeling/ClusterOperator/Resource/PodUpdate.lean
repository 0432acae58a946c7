import ClusterOperator.Resource.StatefulSetBuilder

namespace ClusterOperator.Resource

open Api Kubernetes

variable {cluster : RabbitmqCluster} {merge : StrategicMergePatch} {sts : StatefulSet}

lemma setControllerReference_eq_self {m : ObjectMeta} (h : m.controller = some cluster.name) :
    setControllerReference cluster m = .ok m := by
  unfold setControllerReference
  simp only [h, if_true]

def templateOverride (cluster : RabbitmqCluster) : Option PodTemplateOverride :=
  (statefulSetSpecOverride cluster).bind StatefulSetSpecOverride.template

def podSpecOverride (cluster : RabbitmqCluster) : Option PodSpec :=
  (templateOverride cluster).bind PodTemplateOverride.spec

def metadataOverride (cluster : RabbitmqCluster) : EmbeddedMeta :=
  ((templateOverride cluster).bind PodTemplateOverride.metadata).getD {}

def updatedPodSpec (cluster : RabbitmqCluster) (merge : StrategicMergePatch) : Except Err PodSpec :=
  match templateOverride cluster with
  | none => .ok (podTemplateSpec cluster {}).spec
  | some override => do
    let spec ← (match override.spec with
      | none => .ok (podTemplateSpec cluster {}).spec
      | some podSpecOverride =>
        patchPodSpec merge (podTemplateSpec cluster {}).spec (sanitizePodSpecOverride podSpecOverride))
    return { spec with
      serviceAccountName := cluster.childResourceName "server"
      automountServiceAccountToken := some true }

def updatedTemplate (cluster : RabbitmqCluster) (annotations : StringMap) (spec : PodSpec) : PodTemplateSpec where
  labels := (label cluster.name).merge (metadataOverride cluster).labels
  annotations := (annotations.merge (defaultPodAnnotations cluster)).merge (metadataOverride cluster).annotations
  spec := spec

lemma applyTemplateOverride_eq (merge : StrategicMergePatch) (o : PodTemplateOverride)
    (ho : templateOverride cluster = some o)
    (annotations : StringMap) :
    applyTemplateOverride cluster merge (podTemplateSpec cluster annotations) o =
      (updatedPodSpec cluster merge).map (updatedTemplate cluster annotations) := by
  have hpatch {α : Type} (f : PodSpec → PodSpec) (g : PodSpec → α) {x : Except Err PodSpec} :
      (do let spec ← x; return g (f spec)) = (do let spec ← x; return f spec : Except Err PodSpec).map g := by
    cases x <;> rfl
  unfold applyTemplateOverride updatedPodSpec updatedTemplate metadataOverride
  rw [ho]
  rcases o with ⟨_ | metadata, _ | spec⟩
  · rfl
  · exact hpatch _ _
  · rfl
  · exact hpatch _ _

lemma updatedPodSpec_of_none (ho : templateOverride cluster = none) :
    updatedPodSpec cluster merge = .ok (podTemplateSpec cluster {}).spec := by
  unfold updatedPodSpec
  rw [ho]

lemma updatedPodSpec_cases {spec : PodSpec} (h : updatedPodSpec cluster merge = .ok spec) :
    podSpecOverride cluster = none ∧ spec = (podTemplateSpec cluster {}).spec ∨
      ∃ override patched, podSpecOverride cluster = some override ∧
        patchPodSpec merge (podTemplateSpec cluster {}).spec (sanitizePodSpecOverride override) = .ok patched ∧
        spec = { patched with
          serviceAccountName := cluster.childResourceName "server"
          automountServiceAccountToken := some true } := by
  unfold updatedPodSpec at h
  unfold podSpecOverride
  cases ht : templateOverride cluster with
  | none =>
    rw [ht] at h
    exact Or.inl ⟨rfl, (Except.ok.inj h).symm⟩
  | some template =>
    rw [ht] at h
    obtain ⟨patched, hpatched, h⟩ := bind_eq_ok.mp h
    rw [Option.bind_some]
    cases hs : template.spec with
    | none =>
      rw [hs] at hpatched
      cases hpatched
      exact Or.inl ⟨rfl, (Except.ok.inj h).symm⟩
    | some override =>
      rw [hs] at hpatched
      exact Or.inr ⟨override, patched, rfl, hpatched, (Except.ok.inj h).symm⟩

lemma updatedTemplate_of_none (ho : templateOverride cluster = none) (annotations : StringMap) :
    updatedTemplate cluster annotations (podTemplateSpec cluster {}).spec = podTemplateSpec cluster annotations := by
  unfold updatedTemplate metadataOverride
  rw [ho]
  rfl

section Fields

variable (cluster)

def updatedMetadata (metadata : ObjectMeta) : ObjectMeta :=
  copyLabelsAnnotations
    { metadata with
      annotations := reconcileAndFilterAnnotations metadata.annotations cluster.annotations
      labels := getLabels cluster.name cluster.labels }
    ((cluster.spec.statefulSetOverride.bind StatefulSetOverride.metadata).getD {})

def updatedFields (sts : StatefulSet) : StatefulSet :=
  let override := (statefulSetSpecOverride cluster).getD {}
  { sts with
    metadata := updatedMetadata cluster sts.metadata
    replicas := desiredReplicas cluster
    updateStrategy := override.updateStrategy.getD "RollingUpdate, Partition: 0"
    podManagementPolicy :=
      if override.podManagementPolicy ≠ "" then override.podManagementPolicy else sts.podManagementPolicy
    minReadySeconds :=
      if override.minReadySeconds ≠ 0 then override.minReadySeconds else sts.minReadySeconds
    volumeClaimTemplates := desiredClaims cluster sts.volumeClaimTemplates
    persistentVolumeClaimRetentionPolicy :=
      override.persistentVolumeClaimRetentionPolicy.getD sts.persistentVolumeClaimRetentionPolicy }

variable {cluster}

lemma desiredClaims_of_some {override : StatefulSetSpecOverride}
    (ho : statefulSetSpecOverride cluster = some override) (templates : List ClaimTemplate) :
    desiredClaims cluster templates =
      if overridesClaims cluster override then
        override.volumeClaimTemplates.map (fun t => { t with controller := some cluster.name })
      else updatePersistenceStorageCapacity templates cluster.spec.storage := by
  cases hc : overridesClaims cluster override <;> simp [desiredClaims, ho, Option.filter, hc]

lemma applyStsSpecOverride_of_none {override : StatefulSetSpecOverride} (h : override.template = none) :
    applyStsSpecOverride cluster merge sts override = .ok (overriddenFields cluster sts override) := by
  unfold applyStsSpecOverride
  rw [h]

lemma applyStsSpecOverride_of_some {override : StatefulSetSpecOverride} {template : PodTemplateOverride}
    (h : override.template = some template) :
    applyStsSpecOverride cluster merge sts override =
      applyTemplateOverride cluster merge sts.template template >>= fun template =>
        .ok { overriddenFields cluster sts override with template } := by
  unfold applyStsSpecOverride
  rw [h]
  rfl

def overriddenMetadata (sts : StatefulSet) (metadata : Option EmbeddedMeta) : StatefulSet :=
  { sts with metadata := copyLabelsAnnotations sts.metadata (metadata.getD {}) }

lemma applyStsOverride_of_some {metadata : Option EmbeddedMeta} {override : StatefulSetSpecOverride} :
    applyStsOverride cluster merge sts ⟨metadata, some override⟩ =
      applyStsSpecOverride cluster merge (overriddenMetadata sts metadata) override := by
  cases metadata <;> rfl

lemma updatedFields_of_some {metadata : Option EmbeddedMeta} {override : StatefulSetSpecOverride}
    (hm : cluster.spec.statefulSetOverride.bind StatefulSetOverride.metadata = metadata)
    (hs : statefulSetSpecOverride cluster = some override) (sts : StatefulSet) :
    updatedFields cluster sts =
      { overriddenFields cluster (overriddenMetadata (StatefulSetBuilder.defaults cluster sts) metadata) override
        with template := sts.template } := by
  unfold updatedFields updatedMetadata desiredReplicas
  rw [desiredClaims_of_some hs, hs, hm]
  rfl

lemma defaults_eq_updatedFields (hs : statefulSetSpecOverride cluster = none)
    (hm : cluster.spec.statefulSetOverride.bind StatefulSetOverride.metadata = none) (sts : StatefulSet) :
    StatefulSetBuilder.defaults cluster sts =
      { updatedFields cluster sts with template := podTemplateSpec cluster sts.template.annotations } := by
  unfold updatedFields updatedMetadata desiredReplicas desiredClaims
  rw [hs, hm]
  rfl

lemma applyStsOverride_eq {o : StatefulSetOverride} (ho : cluster.spec.statefulSetOverride = some o)
    (sts : StatefulSet) :
    applyStsOverride cluster merge (StatefulSetBuilder.defaults cluster sts) o =
      (updatedPodSpec cluster merge).map fun spec =>
        { updatedFields cluster sts with template := updatedTemplate cluster sts.template.annotations spec } := by
  have hmeta : cluster.spec.statefulSetOverride.bind StatefulSetOverride.metadata = o.metadata := by simp [ho]
  have hspec : statefulSetSpecOverride cluster = o.spec := by simp [statefulSetSpecOverride, ho]
  have htemplate : templateOverride cluster = o.spec.bind StatefulSetSpecOverride.template := by
    simp [templateOverride, hspec]
  rcases o with ⟨metadata, _ | override⟩
  · rw [updatedPodSpec_of_none htemplate, Except.map, updatedTemplate_of_none htemplate]
    unfold applyStsOverride updatedFields updatedMetadata desiredReplicas desiredClaims
    rw [hspec, hmeta]
    cases metadata <;> rfl
  · have hfields := updatedFields_of_some hmeta hspec sts
    cases htemp : override.template with
    | none =>
      have hnone : templateOverride cluster = none := htemplate.trans htemp
      rw [updatedPodSpec_of_none hnone, Except.map, updatedTemplate_of_none hnone, hfields,
        applyStsOverride_of_some, applyStsSpecOverride_of_none htemp]
      rfl
    | some template =>
      have hsome : templateOverride cluster = some template := htemplate.trans htemp
      have hmerge := applyTemplateOverride_eq merge template hsome sts.template.annotations
      rw [applyStsOverride_of_some, applyStsSpecOverride_of_some htemp, hfields]
      refine (congrArg (fun x => x >>= _) hmerge).trans ?_
      cases updatedPodSpec cluster merge <;> rfl

end Fields

lemma StatefulSetBuilder.update_iff {out : StatefulSet} :
    update cluster merge sts = .ok out ↔
      ∃ spec metadata, updatedPodSpec cluster merge = .ok spec ∧
        setControllerReference cluster (updatedMetadata cluster sts.metadata) = .ok metadata ∧
        out = { updatedFields cluster sts with
          metadata, template := updatedTemplate cluster sts.template.annotations spec } := by
  have hfields (x : Except Err PodSpec) :
      (x.map fun spec => { updatedFields cluster sts with
          template := updatedTemplate cluster sts.template.annotations spec }) >>= (fun sts =>
        setControllerReference cluster sts.metadata >>= fun metadata => .ok { sts with metadata }) = .ok out ↔
      ∃ spec metadata, x = .ok spec ∧
        setControllerReference cluster (updatedMetadata cluster sts.metadata) = .ok metadata ∧
        out = { updatedFields cluster sts with
          metadata, template := updatedTemplate cluster sts.template.annotations spec } := by
    rw [bind_eq_ok]
    constructor
    · rintro ⟨y, hy, hout⟩
      obtain ⟨spec, hspec, rfl⟩ := map_eq_ok.mp hy
      obtain ⟨metadata, hmetadata, hout⟩ := bind_eq_ok.mp hout
      exact ⟨spec, metadata, hspec, hmetadata, (Except.ok.inj hout).symm⟩
    · rintro ⟨spec, metadata, hspec, hmetadata, rfl⟩
      exact ⟨_, map_eq_ok.mpr ⟨spec, hspec, rfl⟩, bind_eq_ok.mpr ⟨metadata, hmetadata, rfl⟩⟩
  rw [← hfields]
  cases ho : cluster.spec.statefulSetOverride with
  | none =>
    have hs : statefulSetSpecOverride cluster = none := by simp [statefulSetSpecOverride, ho]
    have ht : templateOverride cluster = none := by simp [templateOverride, hs]
    rw [update, ho, updatedPodSpec_of_none ht, Except.map, updatedTemplate_of_none ht,
      ← defaults_eq_updatedFields hs (by simp [ho])]
    rfl
  | some o =>
    rw [update, ho]
    dsimp only
    rw [applyStsOverride_eq ho, bind_eq_ok, bind_eq_ok]
    simp only [mapError_eq_ok]
    rfl

lemma StatefulSetBuilder.update_podSpec {updated : StatefulSet}
    (h : StatefulSetBuilder.update cluster merge sts = .ok updated) :
    updatedPodSpec cluster merge = .ok updated.template.spec := by
  obtain ⟨spec, metadata, hspec, -, rfl⟩ := update_iff.mp h
  exact hspec

lemma StatefulSetBuilder.update_eq_ok (cluster : RabbitmqCluster) (merge : StrategicMergePatch)
    (sts : StatefulSet) :
    ∃ rest : StatefulSet, rest.metadata.controller = sts.metadata.controller ∧
      ∀ out, StatefulSetBuilder.update cluster merge sts = .ok out ↔
        ∃ spec metadata, updatedPodSpec cluster merge = .ok spec ∧
          setControllerReference cluster rest.metadata = .ok metadata ∧
          out = { rest with
            metadata, template := updatedTemplate cluster sts.template.annotations spec } :=
  ⟨updatedFields cluster sts, rfl, fun _ => update_iff⟩

end ClusterOperator.Resource
