import ClusterOperator.Resource.SpecHistory

namespace ClusterOperator.Resource

open Api Kubernetes

def isVaultAnnotation (key : String) : Bool := hasPrefix "vault.hashicorp.com/" key

def NoMetadataOverride (spec : RabbitmqClusterSpec) : Prop :=
  (((spec.statefulSetOverride.bind StatefulSetOverride.spec).bind StatefulSetSpecOverride.template).bind
    PodTemplateOverride.metadata) = none

variable {cluster : RabbitmqCluster} {merge : StrategicMergePatch} {sts out : StatefulSet}

def lastDerived (cluster : RabbitmqCluster) (key : String) (specs : List RabbitmqClusterSpec) : Option String :=
  (specs.filterMap fun spec => (defaultPodAnnotations (withSpec cluster spec)).get? key).getLast?

lemma update_templateAnnotations {spec : RabbitmqClusterSpec} (hno : NoMetadataOverride spec)
    (h : StatefulSetBuilder.update (withSpec cluster spec) merge sts = .ok out) (key : String) :
    out.template.annotations.get? key =
      ((defaultPodAnnotations (withSpec cluster spec)).get? key).or (sts.template.annotations.get? key) := by
  obtain ⟨podSpec, metadata, -, -, rfl⟩ := StatefulSetBuilder.update_iff.mp h
  have hmetadata : metadataOverride (withSpec cluster spec) = {} :=
    congrArg (fun m : Option EmbeddedMeta => m.getD {}) hno
  change ((sts.template.annotations.merge (defaultPodAnnotations (withSpec cluster spec))).merge
    (metadataOverride (withSpec cluster spec)).annotations).get? key = _
  rw [hmetadata, ← keysNodup_defaultPodAnnotations.lastEntry_eq]
  exact StringMap.get?_merge sts.template.annotations (defaultPodAnnotations (withSpec cluster spec)) key

lemma foldl_or {β γ : Type} (f : γ → Option β) (xs : List γ) (b : Option β) :
    xs.foldl (fun b x => (f x).or b) b = (xs.filterMap f).getLast?.or b := by
  have hor : ∀ o b : Option β, o.or b = (o.map some).getD b := fun o b => by cases o <;> rfl
  have hmap : xs.filterMap (fun x => (f x).map some) = (xs.filterMap f).map some := List.map_filterMap.symm
  simp only [hor, foldl_getD, hmap, List.getLast?_map]

lemma applySpecs_templateAnnotations {specs : List RabbitmqClusterSpec} (hno : ∀ spec ∈ specs, NoMetadataOverride spec)
    (h : applySpecs cluster merge sts specs = .ok out) (key : String) :
    out.template.annotations.get? key =
      (lastDerived cluster key specs).or (sts.template.annotations.get? key) := by
  rw [lastDerived, ← foldl_or]
  exact applySpecs_foldl (f := fun sts => sts.template.annotations.get? key)
    (fun spec hspec _ _ hu => update_templateAnnotations (hno spec hspec) hu key) h

lemma lastDerived_eq_none {key : String} {specs : List RabbitmqClusterSpec} :
    lastDerived cluster key specs = none ↔
      ∀ spec ∈ specs, (defaultPodAnnotations (withSpec cluster spec)).get? key = none := by
  simp [lastDerived]

lemma vault_annotation_iff {earlier : List RabbitmqClusterSpec} {last : RabbitmqClusterSpec}
    (hno : ∀ spec ∈ earlier ++ [last], NoMetadataOverride spec)
    (h : applySpecs cluster merge sts (earlier ++ [last]) = .ok out) {key : String}
    (hkey : sts.template.annotations.get? key = none) :
    out.template.annotations.get? key = (defaultPodAnnotations (withSpec cluster last)).get? key ↔
      ((∃ spec ∈ earlier, (defaultPodAnnotations (withSpec cluster spec)).get? key ≠ none) →
        (defaultPodAnnotations (withSpec cluster last)).get? key ≠ none) := by
  obtain ⟨stored, hstored, hlast⟩ := applySpecs_append.mp h
  obtain ⟨out', hout', hout⟩ := bind_eq_ok.mp hlast
  cases hout
  rw [update_templateAnnotations (hno last (by simp)) hout',
    applySpecs_templateAnnotations (fun s hs => hno s (by simp [hs])) hstored, hkey, Option.or_none]
  cases (defaultPodAnnotations (withSpec cluster last)).get? key with
  | some value => simp
  | none =>
    rw [Option.none_or, lastDerived_eq_none]
    simp

theorem vault_annotations_follow_iff (cluster : RabbitmqCluster) (merge : StrategicMergePatch)
    (earlier : List RabbitmqClusterSpec) (last : RabbitmqClusterSpec)
    (hno : ∀ spec ∈ earlier ++ [last], NoMetadataOverride spec) {sts out : StatefulSet}
    (hclean : ∀ key, isVaultAnnotation key = true → sts.template.annotations.get? key = none)
    (h : applySpecs cluster merge sts (earlier ++ [last]) = .ok out) :
    ((∀ key, isVaultAnnotation key = true →
        out.template.annotations.get? key = (defaultPodAnnotations (withSpec cluster last)).get? key) ∧
      ∀ before after stored, earlier ++ [last] = before ++ after →
        applySpecs cluster merge sts before = .ok stored →
        ∀ key value, isVaultAnnotation key = false → stored.template.annotations.get? key = some value →
          out.template.annotations.get? key = some value) ↔
    ((∀ key, isVaultAnnotation key = true →
        (∃ spec ∈ earlier, (defaultPodAnnotations (withSpec cluster spec)).get? key ≠ none) →
          (defaultPodAnnotations (withSpec cluster last)).get? key ≠ none) ∧
      ∀ before after stored, earlier ++ [last] = before ++ after →
        applySpecs cluster merge sts before = .ok stored →
        ∀ key value, isVaultAnnotation key = false → stored.template.annotations.get? key = some value →
          ∀ derived ∈ lastDerived cluster key after, derived = value) := by
  refine and_congr (forall_congr' fun key => forall_congr' fun hkey => ?_) ?_
  · exact vault_annotation_iff hno h (hclean key hkey)
  · refine forall_congr' fun before => forall_congr' fun after => forall_congr' fun stored =>
      forall_congr' fun hsplit => forall_congr' fun hstored => forall_congr' fun key =>
        forall_congr' fun value => forall_congr' fun _ => forall_congr' fun hvalue => ?_
    have hafter : applySpecs cluster merge stored after = .ok out := by
      rw [hsplit] at h
      obtain ⟨stored', hstored', hout⟩ := applySpecs_append.mp h
      cases hstored.symm.trans hstored'
      exact hout
    rw [applySpecs_templateAnnotations (fun s hs => hno s (by simp [hsplit, hs])) hafter, hvalue]
    cases lastDerived cluster key after with
    | none => simp
    | some derived => simp

def vaultSpec : RabbitmqClusterSpec where
  storage := 10
  secretBackend.vault := some { role := "rabbitmq", defaultUserPath := "secret/data/rabbitmq/config" }

def annotationAfter (earlier : List RabbitmqClusterSpec) (last : RabbitmqClusterSpec) (key : String) :
    Option (Option String) :=
  match history historyCluster strategicMergePatch earlier last with
  | .error _ => none
  | .ok sts => some (sts.template.annotations.get? key)

lemma annotationAfter_eq_some (earlier : List RabbitmqClusterSpec) (last : RabbitmqClusterSpec) (key : String)
    {value : Option String} (h : annotationAfter earlier last key = some value) :
    ∃ sts, history historyCluster strategicMergePatch earlier last = .ok sts ∧
      sts.template.annotations.get? key = value := by
  unfold annotationAfter at h
  split at h
  · cases h
  · exact ⟨_, ‹_›, Option.some.inj h⟩

theorem disabled_vault_injected :
    ∃ sts, history historyCluster strategicMergePatch [vaultSpec] plainSpec = .ok sts ∧
      sts.template.annotations.get? "vault.hashicorp.com/agent-inject" = some "true" ∧
      (defaultPodAnnotations (withSpec historyCluster plainSpec)).get? "vault.hashicorp.com/agent-inject" = none := by
  have hafter : annotationAfter [vaultSpec] plainSpec "vault.hashicorp.com/agent-inject" = some (some "true") := by
    decide +kernel
  obtain ⟨sts, h, hvalue⟩ := annotationAfter_eq_some _ _ _ hafter
  exact ⟨sts, h, hvalue, rfl⟩

lemma lastDerived_other {key : String} (hkey : isVaultAnnotation key = false) {specs : List RabbitmqClusterSpec}
    (hspecs : ∀ spec ∈ specs, spec ∈ [plainSpec, vaultSpec]) : lastDerived historyCluster key specs = none := by
  have hkeys : ∀ spec ∈ [plainSpec, vaultSpec],
      ∀ k ∈ (defaultPodAnnotations (withSpec historyCluster spec)).entries.map Prod.fst,
        isVaultAnnotation k = true := by
    decide +kernel
  refine lastDerived_eq_none.mpr fun spec hspec => StringMap.getEntry_eq_none fun hmem => ?_
  rw [hkeys spec (hspecs spec hspec) key hmem] at hkey
  cases hkey

theorem enabled_vault_injected :
    ∃ sts, history historyCluster strategicMergePatch [plainSpec] vaultSpec = .ok sts ∧
      ∀ key, isVaultAnnotation key = true → sts.template.annotations.get? key =
        (defaultPodAnnotations (withSpec historyCluster vaultSpec)).get? key := by
  have hafter : annotationAfter [plainSpec] vaultSpec "vault.hashicorp.com/agent-inject" = some (some "true") := by
    decide +kernel
  obtain ⟨sts, h, -⟩ := annotationAfter_eq_some _ _ _ hafter
  refine ⟨sts, h, ((vault_annotations_follow_iff historyCluster strategicMergePatch [plainSpec] vaultSpec ?_
    (fun _ _ => rfl) h).mpr ⟨?_, ?_⟩).1⟩
  · intro spec hspec
    fin_cases hspec <;> rfl
  · rintro key - ⟨spec, hspec, hne⟩
    cases List.mem_singleton.mp hspec
    exact absurd rfl hne
  · intro before after stored hsplit _ key value hkey _ derived hderived
    have hmem : ∀ spec ∈ after, spec ∈ [plainSpec, vaultSpec] := fun spec hspec => by
      change spec ∈ [plainSpec] ++ [vaultSpec]
      rw [hsplit]
      exact List.mem_append_right _ hspec
    rw [lastDerived_other hkey hmem] at hderived
    cases hderived

end ClusterOperator.Resource
