import ClusterOperator.Controller.Deletion
import ClusterOperator.Controller.Restoration
import ClusterOperator.Controller.SpecFrame
import ClusterOperator.Interaction.Exchange
import ClusterOperator.Resource.ScaleOut

/-! `Update` of the StatefulSet twice on the same object. After the first time the claims of the
StatefulSet and those of the override are the same in memory. -/

namespace ClusterOperator.Controller

open Api Kubernetes Interaction Resource

variable {cluster : RabbitmqCluster} {merge : StrategicMergePatch} {sts out : StatefulSet}

section Repeated

lemma updatePersistenceStorageCapacity_idem (templates : List ClaimTemplate) (storage : Quantity) :
    updatePersistenceStorageCapacity (updatePersistenceStorageCapacity templates storage) storage =
      updatePersistenceStorageCapacity templates storage := by
  simp only [updatePersistenceStorageCapacity, List.map_map]
  refine List.map_congr_left fun t _ => ?_
  by_cases h : t.name = "persistence" <;> simp [h]

lemma updatePersistenceStorageCapacity_eq_self_iff {templates : List ClaimTemplate} {storage : Quantity} :
    updatePersistenceStorageCapacity templates storage = templates ↔
      ∀ t ∈ templates, t.name = "persistence" → t.storage = some storage := by
  have hmap : updatePersistenceStorageCapacity templates storage = templates ↔
      ∀ t ∈ templates, (if t.name = "persistence" then { t with storage := some storage } else t) = t := by
    conv_lhs => rhs; rw [← List.map_id templates]
    exact List.map_inj_left
  rw [hmap]
  refine forall_congr' fun t => forall_congr' fun _ => ?_
  by_cases h : t.name = "persistence"
  · rw [if_pos h]
    constructor
    · exact fun heq _ => (congrArg ClaimTemplate.storage heq).symm
    · intro hs
      rw [← hs h]
  · simp [h]

lemma desiredClaims_idem (templates : List ClaimTemplate) :
    desiredClaims cluster (desiredClaims cluster templates) = desiredClaims cluster templates := by
  unfold desiredClaims
  cases (statefulSetSpecOverride cluster).filter (overridesClaims cluster) with
  | some o => rfl
  | none => exact updatePersistenceStorageCapacity_idem _ _

lemma merge_merge_idem (p d o : StringMap) :
    (((p.merge d).merge o).merge d).merge o = (p.merge d).merge o := by
  refine merge_merge_eq_self_iff.mpr fun k v _ hv => ?_
  rw [hv, Option.some_or]

lemma updatedMetadata_idem (metadata : ObjectMeta) (controller : Option String) :
    updatedMetadata cluster { updatedMetadata cluster metadata with controller } =
      { updatedMetadata cluster metadata with controller } := by
  have hannotations := merge_merge_idem metadata.annotations
    (cluster.annotations.filterKeys fun k => ! isKubernetesAnnotation k)
    ((cluster.spec.statefulSetOverride.bind StatefulSetOverride.metadata).getD {}).annotations
  exact congrArg (fun annotations => { updatedMetadata cluster metadata with controller, annotations }) hannotations

lemma updatedFields_idem (sts : StatefulSet) {metadata : ObjectMeta} {template : PodTemplateSpec}
    (hm : updatedMetadata cluster metadata = metadata) :
    updatedFields cluster { updatedFields cluster sts with metadata, template } =
      { updatedFields cluster sts with metadata, template } := by
  unfold updatedFields
  dsimp only
  rw [hm, desiredClaims_idem]
  congr 1
  · split <;> rfl
  · split <;> rfl
  · cases ((statefulSetSpecOverride cluster).getD {}).persistentVolumeClaimRetentionPolicy <;> rfl

lemma update_idem (h : StatefulSetBuilder.update cluster merge sts = .ok out) :
    StatefulSetBuilder.update cluster merge out = .ok out := by
  obtain ⟨spec, metadata, hspec, hmetadata, rfl⟩ := StatefulSetBuilder.update_iff.mp h
  have hcontroller := congrArg ObjectMeta.controller (setControllerReference_eq hmetadata)
  have hm : updatedMetadata cluster metadata = metadata := by
    rw [setControllerReference_eq hmetadata]
    exact updatedMetadata_idem sts.metadata (some cluster.name)
  refine StatefulSetBuilder.update_iff.mpr ⟨spec, metadata, hspec, ?_, ?_⟩
  · change setControllerReference cluster (updatedMetadata cluster metadata) = .ok metadata
    rw [hm]
    exact setControllerReference_eq_self hcontroller
  · have htemplate : updatedTemplate cluster
        (updatedTemplate cluster sts.template.annotations spec).annotations spec =
          updatedTemplate cluster sts.template.annotations spec :=
      congrArg (fun annotations => PodTemplateSpec.mk _ annotations spec)
        (merge_merge_idem sts.template.annotations (defaultPodAnnotations cluster)
          (metadataOverride cluster).annotations)
    rw [updatedFields_idem sts hm]
    dsimp only
    rw [htemplate]

end Repeated

section InMemory

def sanitizedCluster (cluster : RabbitmqCluster) : RabbitmqCluster :=
  { cluster with spec := sanitizeOverride cluster.spec }

lemma sanitizedCluster_sanitized (cluster : RabbitmqCluster) : Sanitized cluster (sanitizedCluster cluster) :=
  ⟨rfl, rfl, rfl, rfl⟩

lemma statefulSetSpecOverride_modifyOverride (f : StatefulSetSpecOverride → StatefulSetSpecOverride) :
    statefulSetSpecOverride { cluster with spec := modifyOverride f cluster.spec } =
      (statefulSetSpecOverride cluster).map f := by
  rcases ho : cluster.spec.statefulSetOverride with _ | ⟨metadata, _ | o⟩ <;>
    simp [statefulSetSpecOverride, modifyOverride, ho]

lemma metadata_modifyOverride (f : StatefulSetSpecOverride → StatefulSetSpecOverride) :
    (modifyOverride f cluster.spec).statefulSetOverride.bind StatefulSetOverride.metadata =
      cluster.spec.statefulSetOverride.bind StatefulSetOverride.metadata := by
  rcases ho : cluster.spec.statefulSetOverride with _ | ⟨metadata, _ | o⟩ <;> simp [modifyOverride, ho]

lemma updatedFields_sanitizedCluster (sts : StatefulSet) :
    updatedFields (sanitizedCluster cluster) sts = updatedFields cluster sts := by
  have hoverride : statefulSetSpecOverride (sanitizedCluster cluster) =
      (statefulSetSpecOverride cluster).map sanitizeTemplate := statefulSetSpecOverride_modifyOverride _
  have hmeta : (sanitizedCluster cluster).spec.statefulSetOverride.bind StatefulSetOverride.metadata =
      cluster.spec.statefulSetOverride.bind StatefulSetOverride.metadata := metadata_modifyOverride _
  unfold updatedFields updatedMetadata desiredReplicas desiredClaims
  rw [hoverride, hmeta]
  rcases statefulSetSpecOverride cluster with _ | o
  · rfl
  · have hclaims : overridesClaims (sanitizedCluster cluster) (sanitizeTemplate o) = overridesClaims cluster o := rfl
    cases hc : overridesClaims cluster o <;> simp only [Option.map_some, Option.filter, hclaims, hc] <;> rfl

lemma metadataOverride_sanitizedCluster :
    metadataOverride (sanitizedCluster cluster) = metadataOverride cluster := by
  unfold metadataOverride
  rw [(sanitizedCluster_sanitized cluster).templateOverride]
  cases templateOverride cluster <;> rfl

lemma update_sanitizedCluster :
    StatefulSetBuilder.update (sanitizedCluster cluster) merge sts = .ok out ↔
      StatefulSetBuilder.update cluster merge sts = .ok out := by
  have hmetadata : updatedMetadata (sanitizedCluster cluster) sts.metadata = updatedMetadata cluster sts.metadata :=
    congrArg StatefulSet.metadata (updatedFields_sanitizedCluster sts)
  have htemplate : updatedTemplate (sanitizedCluster cluster) = updatedTemplate cluster := by
    funext annotations spec
    unfold updatedTemplate
    rw [metadataOverride_sanitizedCluster]
    rfl
  rw [StatefulSetBuilder.update_iff, StatefulSetBuilder.update_iff,
    (sanitizedCluster_sanitized cluster).updatedPodSpec, updatedFields_sanitizedCluster, hmetadata, htemplate]
  rfl

def raisedCluster (cluster : RabbitmqCluster) : RabbitmqCluster :=
  { cluster with spec := raiseClaims cluster.spec }

def overrideClaims (cluster : RabbitmqCluster) : Option (List ClaimTemplate) :=
  (statefulSetSpecOverride cluster).map StatefulSetSpecOverride.volumeClaimTemplates

lemma overrideClaims_sanitizedCluster : overrideClaims (sanitizedCluster cluster) = overrideClaims cluster := by
  rw [overrideClaims, overrideClaims]
  have hoverride : statefulSetSpecOverride (sanitizedCluster cluster) =
      (statefulSetSpecOverride cluster).map sanitizeTemplate := statefulSetSpecOverride_modifyOverride _
  rw [hoverride, Option.map_map]
  rfl

lemma overrideClaims_raisedCluster :
    overrideClaims (raisedCluster cluster) =
      (overrideClaims cluster).map fun templates =>
        updatePersistenceStorageCapacity templates cluster.spec.storage := by
  have hoverride : statefulSetSpecOverride (raisedCluster cluster) = (statefulSetSpecOverride cluster).map fun o =>
      { o with volumeClaimTemplates :=
          updatePersistenceStorageCapacity o.volumeClaimTemplates cluster.spec.storage } :=
    statefulSetSpecOverride_modifyOverride _
  rw [overrideClaims, overrideClaims, hoverride, Option.map_map, Option.map_map]
  rfl

def SharesClaims (cluster : RabbitmqCluster) : Prop :=
  ∃ o, statefulSetSpecOverride cluster = some o ∧ overridesClaims cluster o = true

def ClaimsAgree (cluster : RabbitmqCluster) : Prop :=
  ∀ templates ∈ overrideClaims cluster, ∀ t ∈ templates, t.name = "persistence" →
    t.storage = some cluster.spec.storage

lemma claimsAgree_iff : overrideClaims (raisedCluster cluster) = overrideClaims cluster ↔ ClaimsAgree cluster := by
  rw [overrideClaims_raisedCluster, ClaimsAgree]
  cases overrideClaims cluster with
  | none => simp
  | some templates => simp [updatePersistenceStorageCapacity_eq_self_iff]

lemma raisedCluster_eq_self (h : ClaimsAgree cluster) : raisedCluster cluster = cluster := by
  have hoverride : (raiseClaims cluster.spec).statefulSetOverride = cluster.spec.statefulSetOverride := by
    unfold raiseClaims modifyOverride
    rcases ho : cluster.spec.statefulSetOverride with _ | ⟨metadata, _ | o⟩
    · simp
    · simp
    · have hclaims : updatePersistenceStorageCapacity o.volumeClaimTemplates cluster.spec.storage =
          o.volumeClaimTemplates :=
        updatePersistenceStorageCapacity_eq_self_iff.mpr
          (h _ (by simp [overrideClaims, statefulSetSpecOverride, ho]))
      simp [hclaims]
  exact congrArg (fun statefulSetOverride =>
    { cluster with spec := { cluster.spec with statefulSetOverride } }) hoverride

lemma claimsAgree_sanitizedCluster : ClaimsAgree (sanitizedCluster cluster) ↔ ClaimsAgree cluster := by
  unfold ClaimsAgree
  rw [overrideClaims_sanitizedCluster]
  rfl

end InMemory

section Twice

variable {r : Reconciler} {m m₁ : Memory} {sts₁ : StatefulSet} {fetched : Bool}

lemma updateStatefulSet_first (hfresh : (m.sharesClaims && !fetched) = false)
    (h : updateStatefulSet r fetched m sts = (m₁, .ok sts₁)) :
    m₁.cluster = sanitizedCluster m.cluster ∧ (m₁.sharesClaims = true ↔ SharesClaims m.cluster) ∧
      StatefulSetBuilder.update m.cluster r.merge sts = .ok sts₁ := by
  simp only [updateStatefulSet, StatefulSetBuilder.updateInMemory, hfresh, Bool.false_eq_true, if_false,
    Prod.mk.injEq] at h
  obtain ⟨rfl, h⟩ := h
  refine ⟨rfl, ?_, h⟩
  simp only [Bool.false_or, Option.any_eq_true]
  rfl

lemma updateStatefulSet_again (r : Reconciler) (m : Memory) (sts : StatefulSet) :
    (updateStatefulSet r false m sts).2 =
        StatefulSetBuilder.update (if m.sharesClaims then raisedCluster m.cluster else m.cluster) r.merge sts ∧
      overrideClaims (updateStatefulSet r false m sts).1.cluster =
        overrideClaims (if m.sharesClaims then raisedCluster m.cluster else m.cluster) := by
  unfold updateStatefulSet StatefulSetBuilder.updateInMemory
  rw [Bool.not_false, Bool.and_true]
  exact ⟨rfl, overrideClaims_sanitizedCluster⟩

lemma createOrUpdate_creates (hagain : (updateStatefulSet r false m sts).2 = .ok out) :
    Ensures (createOrUpdate Client.statefulSets (updateStatefulSet r) m sts) fun xs _ =>
      ∀ x ∈ xs, ∀ o, x.1 = .createStatefulSet o → o = out := by
  have hsends : (createOrUpdate Client.statefulSets (updateStatefulSet r) m sts).Sends
      fun q : Request => ∀ o, q = .createStatefulSet o → o = out := ?_
  · exact Ensures.of_sends hsends
  refine ⟨by rintro _ ⟨⟩, fun reply => ?_⟩
  rcases reply with (_ | _ | _ | message) | existing
  · change (createMutated Client.statefulSets sts (updateStatefulSet r false m sts)).Sends _
    generalize updateStatefulSet r false m sts = x at hagain
    obtain ⟨m', x⟩ := x
    obtain rfl : x = .ok out := hagain
    exact ⟨by rintro o ⟨⟩; rfl, fun reply => by cases reply <;> trivial⟩
  · trivial
  · trivial
  · trivial
  · change (updateMutated Client.statefulSets existing (updateStatefulSet r true m existing)).Sends _
    generalize updateStatefulSet r true m existing = x
    obtain ⟨m', err | o⟩ := x
    · trivial
    · change Program.Sends (I := api) _ (if _ then _ else _)
      split
      · trivial
      · exact ⟨by rintro _ ⟨⟩, fun reply => by cases reply <;> trivial⟩

theorem update_twice_iff (r : Reconciler) (m m₁ : Memory) (sts sts₁ : StatefulSet) (fetched : Bool)
    (hfresh : (m.sharesClaims && !fetched) = false) (h : updateStatefulSet r fetched m sts = (m₁, .ok sts₁)) :
    ((updateStatefulSet r false m₁ sts₁).2 = .ok sts₁ ∧
      overrideClaims m₁.cluster = overrideClaims m.cluster ∧
      overrideClaims (updateStatefulSet r false m₁ sts₁).1.cluster = overrideClaims m.cluster ∧
      Ensures (createOrUpdate Client.statefulSets (updateStatefulSet r) m₁ sts₁) fun xs _ =>
        ∀ x ∈ xs, ∀ o, x.1 = .createStatefulSet o → o.volumeClaimTemplates = sts₁.volumeClaimTemplates) ↔
    (SharesClaims m.cluster → ClaimsAgree m.cluster) := by
  obtain ⟨hcluster, hshares, hupdate⟩ := updateStatefulSet_first hfresh h
  obtain ⟨hresult, hclaims⟩ := updateStatefulSet_again r m₁ sts₁
  rw [hcluster] at hresult hclaims
  have hkept : overrideClaims m₁.cluster = overrideClaims m.cluster := by
    rw [hcluster, overrideClaims_sanitizedCluster]
  have hagain := update_sanitizedCluster.mpr (update_idem hupdate)
  constructor
  · rintro ⟨-, -, hsame, -⟩ hshared
    rw [hclaims, if_pos (hshares.mpr hshared)] at hsame
    exact claimsAgree_sanitizedCluster.mp (claimsAgree_iff.mp (hsame.trans overrideClaims_sanitizedCluster.symm))
  · intro hcond
    have hraised : (if m₁.sharesClaims then raisedCluster (sanitizedCluster m.cluster)
        else sanitizedCluster m.cluster) = sanitizedCluster m.cluster := by
      split
      next hs => exact raisedCluster_eq_self (claimsAgree_sanitizedCluster.mpr (hcond (hshares.mp hs)))
      next => rfl
    rw [hraised] at hresult hclaims
    have hsecond := hresult.trans hagain
    refine ⟨hsecond, hkept, hclaims.trans overrideClaims_sanitizedCluster, ?_⟩
    exact (createOrUpdate_creates hsecond).mono fun xs _ hxs x hx o ho =>
      congrArg StatefulSet.volumeClaimTemplates (hxs x hx o ho)

def sharingSpec (requested : Quantity) : RabbitmqClusterSpec where
  storage := 10
  statefulSetOverride := some ⟨none, some
    { volumeClaimTemplates := [{ name := "persistence", storage := some requested }] }⟩

def sharingMemory (requested : Quantity) : Memory where
  cluster := settledCluster (sharingSpec requested)

def firstUpdate (requested : Quantity) : Memory × Except Err StatefulSet :=
  updateStatefulSet plainReconciler false (sharingMemory requested)
    (StatefulSetBuilder.build (sharingMemory requested).cluster)

def sharingTurn : Outcome api Store (Except (Result × Memory) Memory) :=
  run server (statefulSetTurn plainReconciler (sharingMemory 20))
    ({} :: {} :: {} :: {} :: {} :: {} :: {} :: { edits := [.collect] } :: List.replicate 7 {})
    (((Store.empty.putCluster (sharingMemory 20).cluster).putStatefulSet
      (StatefulSetBuilder.build (settledCluster { storage := 5 }))).putPvc
        { name := "persistence-rabbit-server-0", storage := 5 })

theorem second_update_differs :
    (∃ m₁ sts₁, firstUpdate 20 = (m₁, .ok sts₁) ∧
      (updateStatefulSet plainReconciler false m₁ sts₁).2 ≠ .ok sts₁ ∧
      overrideClaims (updateStatefulSet plainReconciler false m₁ sts₁).1.cluster ≠
        overrideClaims (sharingMemory 20).cluster ∧
      Scaling.persistenceStorageCapacity sts₁.volumeClaimTemplates = 20) ∧
    (sharingTurn.final.pvc "persistence-rabbit-server-0").map PersistentVolumeClaim.storage = some 20 ∧
    sharingTurn.final.statefulSet.map (Scaling.persistenceStorageCapacity ·.volumeClaimTemplates) = some 10 := by
  refine ⟨⟨_, _, rfl, ?_, ?_, ?_⟩, ?_⟩ <;> decide +kernel

theorem second_update_agrees :
    ∃ m₁ sts₁, firstUpdate 10 = (m₁, .ok sts₁) ∧ SharesClaims (sharingMemory 10).cluster ∧
      (updateStatefulSet plainReconciler false m₁ sts₁).2 = .ok sts₁ := by
  have hshares : SharesClaims (sharingMemory 10).cluster := ⟨_, rfl, rfl⟩
  have hagree : ClaimsAgree (sharingMemory 10).cluster := by
    unfold ClaimsAgree
    decide +kernel
  refine ⟨_, _, rfl, hshares, ?_⟩
  exact ((update_twice_iff plainReconciler (sharingMemory 10) _ _ _ false rfl rfl).mpr fun _ => hagree).1

end Twice

end ClusterOperator.Controller
