import ClusterOperator.Resource.ContainerOverride
import ClusterOperator.Webhook.PodSpecOverride

namespace ClusterOperator.Webhook

open Api Kubernetes Resource Keyed

section Effective

variable (pod : PodSpec) (c : Container)

def effectiveRunAsUser : Option ℤ :=
  (c.securityContext.bind SecurityContext.runAsUser).or (pod.securityContext.bind PodSecurityContext.runAsUser)

def effectiveRunAsNonRoot : Option Bool :=
  (c.securityContext.bind SecurityContext.runAsNonRoot).or
    (pod.securityContext.bind PodSecurityContext.runAsNonRoot)

def RunsAsRoot : Prop := effectiveRunAsUser pod c = some 0 ∧ effectiveRunAsNonRoot pod c ≠ some true

instance : Decidable (RunsAsRoot pod c) := inferInstanceAs (Decidable (_ ∧ _))

end Effective

def RootFree (pod : PodSpec) : Prop := ∀ c ∈ pod.containers ++ pod.initContainers, ¬ RunsAsRoot pod c

instance (pod : PodSpec) : Decidable (RootFree pod) := List.decidableBAll _ _

def LeftToPod (sc : Option SecurityContext) : Prop :=
  sc.bind SecurityContext.runAsUser = none ∧ sc.bind SecurityContext.runAsNonRoot = none

def PodIsRoot (sc : Option PodSecurityContext) : Prop :=
  sc.bind PodSecurityContext.runAsUser = some 0 ∧ sc.bind PodSecurityContext.runAsNonRoot ≠ some true

def AllPermitted (containers : List Container) : Prop :=
  ∀ c ∈ containers, ∀ sc ∈ c.securityContext, Permitted sc

lemma runsAsRoot_iff {pod : PodSpec} {c : Container} (h : ∀ sc ∈ c.securityContext, Permitted sc) :
    RunsAsRoot pod c ↔ PodIsRoot pod.securityContext ∧ LeftToPod c.securityContext := by
  unfold RunsAsRoot PodIsRoot LeftToPod effectiveRunAsUser effectiveRunAsNonRoot
  cases hsc : c.securityContext with
  | none => simp
  | some sc =>
    have huser := (h sc hsc).runAsUser
    have hroot := (h sc hsc).runAsNonRoot
    cases hu : sc.runAsUser <;> cases hn : sc.runAsNonRoot <;> simp_all

lemma rootFree_iff {pod : PodSpec} (h : AllPermitted (pod.containers ++ pod.initContainers)) :
    RootFree pod ↔ ¬ (PodIsRoot pod.securityContext ∧
      ((∃ c ∈ pod.containers, LeftToPod c.securityContext) ∨
        ∃ c ∈ pod.initContainers, LeftToPod c.securityContext)) := by
  unfold RootFree
  constructor
  · rintro hfree ⟨hpod, ⟨c, hc, hleft⟩ | ⟨c, hc, hleft⟩⟩
    · have hmem := List.mem_append_left pod.initContainers hc
      exact hfree c hmem ((runsAsRoot_iff (h c hmem)).mpr ⟨hpod, hleft⟩)
    · have hmem := List.mem_append_right pod.containers hc
      exact hfree c hmem ((runsAsRoot_iff (h c hmem)).mpr ⟨hpod, hleft⟩)
  · intro hnot c hc hroot
    obtain ⟨hpod, hleft⟩ := (runsAsRoot_iff (h c hc)).mp hroot
    rcases List.mem_append.mp hc with hc | hc
    · exact hnot ⟨hpod, Or.inl ⟨c, hc, hleft⟩⟩
    · exact hnot ⟨hpod, Or.inr ⟨c, hc, hleft⟩⟩

section Merge

lemma mergeField_ne {α : Type} {x : α} {original patch : Option α} (ho : original ≠ some x)
    (hp : patch ≠ some x) : mergeField original patch ≠ some x := by
  cases patch with
  | none => simpa [mergeField] using ho
  | some y => simpa [mergeField] using hp

lemma mergeSecurityContext_permitted {original patch : SecurityContext} (ho : Permitted original)
    (hp : Permitted patch) : Permitted (mergeSecurityContext original patch) where
  privileged := mergeField_ne ho.privileged hp.privileged
  allowPrivilegeEscalation := mergeField_ne ho.allowPrivilegeEscalation hp.allowPrivilegeEscalation
  runAsUser := mergeField_ne ho.runAsUser hp.runAsUser
  runAsNonRoot := mergeField_ne ho.runAsNonRoot hp.runAsNonRoot
  readOnlyRootFilesystem := mergeField_ne ho.readOnlyRootFilesystem hp.readOnlyRootFilesystem
  capabilities c hc := by
    have hocap := ho.capabilities
    have hpcap := hp.capabilities
    simp only [mergeSecurityContext] at hc
    cases h₁ : original.capabilities <;> cases h₂ : patch.capabilities <;>
      simp_all [mergeOption, mergeCapabilities, mergeField]
    simp [← hc]

lemma mergeContainer_permitted {original patch : Container}
    (ho : ∀ sc ∈ original.securityContext, Permitted sc) (hp : ∀ sc ∈ patch.securityContext, Permitted sc) :
    ∀ sc ∈ (mergeContainer original patch).securityContext, Permitted sc := by
  intro sc hsc
  simp only [mergeContainer] at hsc
  cases h₁ : original.securityContext with
  | none => exact hp sc (by cases h₂ : patch.securityContext <;> simp_all [mergeOption])
  | some a =>
    cases h₂ : patch.securityContext with
    | none => exact ho sc (by simp_all [mergeOption])
    | some b =>
      obtain rfl : mergeSecurityContext a b = sc := by simpa [h₁, h₂, mergeOption] using hsc
      exact mergeSecurityContext_permitted (ho a h₁) (hp b h₂)

lemma mergeContainer_leftToPod (original patch : Container) :
    LeftToPod (mergeContainer original patch).securityContext ↔
      LeftToPod original.securityContext ∧ LeftToPod patch.securityContext := by
  unfold LeftToPod
  simp only [mergeContainer]
  cases h₁ : original.securityContext <;> cases h₂ : patch.securityContext <;>
    simp [mergeOption, mergeSecurityContext, mergeField]
  tauto

lemma mergePodSecurityContext_root {original : PodSecurityContext} {patch : Option PodSecurityContext}
    (hu : original.runAsUser ≠ some 0) (hn : original.runAsNonRoot = some true) :
    PodIsRoot (mergeOption mergePodSecurityContext (some original) patch) ↔
      patch.bind PodSecurityContext.runAsUser = some 0 ∧
        patch.bind PodSecurityContext.runAsNonRoot = some false := by
  unfold PodIsRoot
  cases patch with
  | none => simp [mergeOption, hu]
  | some p =>
    cases hpu : p.runAsUser <;> cases hpn : p.runAsNonRoot <;>
      simp [mergeOption, mergePodSecurityContext, mergeField, hpu, hpn, hu, hn]

end Merge

section Reset

variable {os merged patched : List Container} (hcontexts : contexts patched = contexts merged)
include hcontexts

lemma securityContext_clearFrom {k : ℕ} {c : Container} (hc : (clearFrom 0 os patched)[k]? = some c) :
    ∃ m, merged[k]? = some m ∧ c.securityContext = if resetAt os k = true then none else m.securityContext := by
  have hget : (contexts (clearFrom 0 os patched))[k]? = merged[k]?.map fun c =>
      (c.name, if resetAt os k = true then none else c.securityContext) := contexts_clearFrom hcontexts k
  rw [contexts_getElem?, hc, Option.map_some] at hget
  obtain ⟨m, hm, hpair⟩ := Option.map_eq_some_iff.mp hget.symm
  exact ⟨m, hm, (Prod.mk.inj hpair).2.symm⟩

lemma clearFrom_permitted (hmerged : AllPermitted merged) : AllPermitted (clearFrom 0 os patched) := by
  intro c hc sc hsc
  obtain ⟨k, hk⟩ := List.mem_iff_getElem?.mp hc
  obtain ⟨m, hm, hcontext⟩ := securityContext_clearFrom hcontexts hk
  rw [hsc] at hcontext
  split at hcontext
  · cases hcontext
  · exact hmerged m (List.mem_of_getElem? hm) sc hcontext.symm

lemma clearFrom_leftToPod (hrange : InRange os patched) :
    (∃ c ∈ clearFrom 0 os patched, LeftToPod c.securityContext) ↔
      (∃ o ∈ os, o.securityContext = some {}) ∨ ∃ c ∈ merged, LeftToPod c.securityContext := by
  have hlength : merged.length = patched.length := (length_eq_of_contexts hcontexts).symm
  have hcleared {k : ℕ} (hk : k < patched.length) : ∃ c ∈ clearFrom 0 os patched, ∃ m, merged[k]? = some m ∧
      c.securityContext = if resetAt os k = true then none else m.securityContext := by
    have hk' : k < (clearFrom 0 os patched).length := by simpa [clearFrom] using hk
    exact ⟨_, List.getElem_mem hk', securityContext_clearFrom hcontexts (List.getElem?_eq_getElem hk')⟩
  constructor
  · rintro ⟨c, hc, hleft⟩
    obtain ⟨k, hk⟩ := List.mem_iff_getElem?.mp hc
    obtain ⟨m, hm, hcontext⟩ := securityContext_clearFrom hcontexts hk
    split at hcontext
    · rename_i hreset
      obtain ⟨o, ho, hempty⟩ := resetAt_iff.mp hreset
      exact Or.inl ⟨o, List.mem_of_getElem? ho, hempty⟩
    · exact Or.inr ⟨m, List.mem_of_getElem? hm, hcontext ▸ hleft⟩
  · rintro (⟨o, ho, hempty⟩ | ⟨m, hm, hleft⟩)
    · obtain ⟨k, hk⟩ := List.mem_iff_getElem?.mp ho
      have hreset : resetAt os k = true := resetAt_iff.mpr ⟨o, hk, hempty⟩
      obtain ⟨c, hc, m, -, hcontext⟩ := hcleared (hrange k hreset)
      rw [if_pos hreset] at hcontext
      exact ⟨c, hc, hcontext ▸ ⟨rfl, rfl⟩⟩
    · obtain ⟨k, hk, rfl⟩ := List.mem_iff_getElem.mp hm
      obtain ⟨c, hc, m, hm, hcontext⟩ := hcleared (hlength ▸ hk)
      rw [List.getElem?_eq_getElem hk, Option.some.injEq] at hm
      subst hm
      refine ⟨c, hc, hcontext ▸ ?_⟩
      split
      · exact ⟨rfl, rfl⟩
      · exact hleft

end Reset

section Merged

variable {generated override merged : List Container}
  (hperm : merged.Perm (mergeBy Container.name mergeContainer generated override))
include hperm

lemma merged_permitted (hgenerated : AllPermitted generated) (hoverride : AllPermitted override) :
    AllPermitted merged := by
  have hall : AllPermitted (mergeBy Container.name mergeContainer generated override) :=
    mergeBy_all (P := fun c : Container => ∀ sc ∈ c.securityContext, Permitted sc)
      (fun _ _ hb ho => mergeContainer_permitted hb ho) hgenerated hoverride
  exact fun c hc => hall c (hperm.mem_iff.mp hc)

lemma merged_leftToPod (hkeys : (generated.map Container.name).Nodup) :
    (∃ c ∈ merged, LeftToPod c.securityContext) ↔
      ∃ name, ((∃ c ∈ generated, c.name = name) ∨ ∃ o ∈ override, o.name = name) ∧
        (∀ c ∈ generated, c.name = name → LeftToPod c.securityContext) ∧
        ∀ o ∈ override, o.name = name → LeftToPod o.securityContext := by
  simp only [hperm.mem_iff]
  exact mergeBy_exists (P := fun c : Container => LeftToPod c.securityContext) mergeContainer_name
    mergeContainer_leftToPod hkeys

end Merged

section Generated

variable (cluster : RabbitmqCluster)

/-- Some container of the pods is left with the user that the override gives to the pod. -/
def LeavesUserToPod (override : PodSpec) : Prop :=
  (∃ c ∈ override.containers ++ override.initContainers, c.securityContext = some {}) ∨
  (∃ c ∈ override.containers, c.name ≠ "rabbitmq" ∧
    ∀ d ∈ override.containers, d.name = c.name → LeftToPod d.securityContext) ∨
  (∃ c ∈ override.initContainers, c.name ≠ "setup-container" ∧
    ∀ d ∈ override.initContainers, d.name = c.name → LeftToPod d.securityContext) ∨
  (credentialUpdaterNeeded cluster = true ∧ ∀ d ∈ override.containers,
    d.name = "default-user-credential-updater" → LeftToPod d.securityContext)

def OverridesUserWithRoot (override : PodSpec) : Prop :=
  override.securityContext.bind PodSecurityContext.runAsUser = some 0 ∧
    override.securityContext.bind PodSecurityContext.runAsNonRoot = some false ∧
    LeavesUserToPod cluster override

lemma restricted_permitted : Permitted restricted := by
  constructor <;> simp [restricted]

lemma operatorContainers_permitted : AllPermitted (operatorContainers cluster) := by
  intro c hc sc hsc
  rcases List.mem_cons.mp hc with rfl | hc
  · cases hsc
    exact restricted_permitted
  · split at hc
    · obtain rfl := List.mem_singleton.mp hc
      cases hsc
    · cases hc

lemma setupContainer_permitted : AllPermitted [setupContainer cluster] := by
  intro c hc sc hsc
  obtain rfl := List.mem_singleton.mp hc
  cases hsc
  exact restricted_permitted

lemma restricted_not_leftToPod : ¬ LeftToPod (some restricted) := by
  rintro ⟨-, h⟩
  cases h

lemma operatorContainers_left {name : String} :
    (∀ c ∈ operatorContainers cluster, c.name = name → LeftToPod c.securityContext) ↔
      name ≠ "rabbitmq" := by
  constructor
  · rintro h rfl
    exact restricted_not_leftToPod (h (rabbitmqContainer cluster) List.mem_cons_self rfl)
  · intro hname c hc hcn
    rcases List.mem_cons.mp hc with rfl | hc
    · exact absurd hcn.symm hname
    · split at hc
      · obtain rfl := List.mem_singleton.mp hc
        exact ⟨rfl, rfl⟩
      · cases hc

lemma operatorContainers_name {name : String} :
    (∃ c ∈ operatorContainers cluster, c.name = name) ↔
      name = "rabbitmq" ∨ (credentialUpdaterNeeded cluster = true ∧ name = "default-user-credential-updater") := by
  rw [← List.mem_map, operatorContainers_names]
  split <;> simp [*]

lemma setupContainer_left {name : String} :
    (∀ c ∈ [setupContainer cluster], c.name = name → LeftToPod c.securityContext) ↔
      name ≠ "setup-container" := by
  constructor
  · rintro h rfl
    exact restricted_not_leftToPod (h (setupContainer cluster) List.mem_cons_self rfl)
  · intro hname c hc hcn
    obtain rfl := List.mem_singleton.mp hc
    exact absurd hcn.symm hname

lemma leavesUserToPod_iff {override : PodSpec} {containers initContainers : List Container}
    (hcontainers : containers.Perm (mergeBy Container.name mergeContainer (operatorContainers cluster)
      override.containers))
    (hinit : initContainers.Perm (mergeBy Container.name mergeContainer [setupContainer cluster]
      override.initContainers)) :
    (((∃ o ∈ override.containers, o.securityContext = some {}) ∨ ∃ c ∈ containers, LeftToPod c.securityContext) ∨
      (∃ o ∈ override.initContainers, o.securityContext = some {}) ∨
        ∃ c ∈ initContainers, LeftToPod c.securityContext) ↔ LeavesUserToPod cluster override := by
  rw [merged_leftToPod hcontainers (operatorContainers_nodup cluster),
    merged_leftToPod hinit (List.nodup_singleton _)]
  simp only [operatorContainers_left, operatorContainers_name, setupContainer_left]
  unfold LeavesUserToPod
  constructor
  · rintro ((⟨o, ho, hempty⟩ | ⟨name, hname, hne, hall⟩) | (⟨o, ho, hempty⟩ | ⟨name, hname, hne, hall⟩))
    · exact Or.inl ⟨o, List.mem_append_left _ ho, hempty⟩
    · rcases hname with (rfl | ⟨hneeded, rfl⟩) | ⟨o, ho, rfl⟩
      · exact absurd rfl hne
      · exact Or.inr (Or.inr (Or.inr ⟨hneeded, hall⟩))
      · exact Or.inr (Or.inl ⟨o, ho, hne, hall⟩)
    · exact Or.inl ⟨o, List.mem_append_right _ ho, hempty⟩
    · rcases hname with ⟨c, hc, rfl⟩ | ⟨o, ho, rfl⟩
      · obtain rfl := List.mem_singleton.mp hc
        exact absurd rfl hne
      · exact Or.inr (Or.inr (Or.inl ⟨o, ho, hne, hall⟩))
  · rintro (⟨o, ho, hempty⟩ | ⟨o, ho, hne, hall⟩ | ⟨o, ho, hne, hall⟩ | ⟨hneeded, hall⟩)
    · rcases List.mem_append.mp ho with ho | ho
      · exact Or.inl (Or.inl ⟨o, ho, hempty⟩)
      · exact Or.inr (Or.inl ⟨o, ho, hempty⟩)
    · exact Or.inl (Or.inr ⟨o.name, Or.inr ⟨o, ho, rfl⟩, hne, hall⟩)
    · exact Or.inr (Or.inr ⟨o.name, Or.inr ⟨o, ho, rfl⟩, hne, hall⟩)
    · exact Or.inl (Or.inr ⟨_, Or.inl (Or.inr ⟨hneeded, rfl⟩), by decide, hall⟩)

end Generated

theorem update_rootFree_iff (merge : StrategicMergePatch) {cluster : RabbitmqCluster} {sts updated : StatefulSet}
    (hvalid : validatePodSpecOverride cluster = none)
    (hupdate : StatefulSetBuilder.update cluster merge sts = .ok updated) :
    RootFree updated.template.spec ↔ ∀ o ∈ podSpecOverride cluster, ¬ OverridesUserWithRoot cluster o := by
  rw [validatePodSpecOverride_eq_none] at hvalid
  have hspec := StatefulSetBuilder.update_podSpec hupdate
  generalize updated.template.spec = pod at hspec
  have hallowed {cs init : List Container} (hcs : AllPermitted cs) (hinit : AllPermitted init) :
      AllPermitted (cs ++ init) := fun c hc => (List.mem_append.mp hc).elim (hcs c) (hinit c)
  rcases updatedPodSpec_cases hspec with ⟨hnone, rfl⟩ | ⟨o, patched, ho, hpatched, rfl⟩
  · rw [rootFree_iff (hallowed (operatorContainers_permitted cluster) (setupContainer_permitted cluster)), hnone]
    simp [PodIsRoot, podTemplateSpec]
  · have haccepted := hvalid o ho
    rw [sanitizePodSpecOverride_of_accepted haccepted] at hpatched
    obtain ⟨containers, hfirst, hinit, hcontainers, rfl⟩ := patchPodSpec_eq_ok.mp hpatched
    have hcontexts := overrideFirst_contexts hfirst
    have hperm := merge.containers (podTemplateSpec cluster {}).spec o
    have hpermInit := merge.initContainers (podTemplateSpec cluster {}).spec o
    have hpermitted : AllPermitted (clearFrom 0 o.containers containers) := clearFrom_permitted hcontexts
      (merged_permitted hperm (operatorContainers_permitted cluster) haccepted.containers)
    have hpermittedInit : AllPermitted (clearFrom 0 o.initContainers
        (merge.podSpec (podTemplateSpec cluster {}).spec o).initContainers) :=
      clearFrom_permitted rfl (merged_permitted hpermInit (setupContainer_permitted cluster) haccepted.initContainers)
    have hroot : PodIsRoot (if o.securityContext = some {} then none
          else (merge.podSpec (podTemplateSpec cluster {}).spec o).securityContext) ↔
        o.securityContext.bind PodSecurityContext.runAsUser = some 0 ∧
          o.securityContext.bind PodSecurityContext.runAsNonRoot = some false := by
      split_ifs with hempty
      · simp [PodIsRoot, hempty]
      · rw [merge.securityContext]
        exact mergePodSecurityContext_root (by simp) rfl
    rw [rootFree_iff (hallowed hpermitted hpermittedInit), hroot, clearFrom_leftToPod hcontexts hcontainers,
      clearFrom_leftToPod rfl hinit, leavesUserToPod_iff cluster hperm hpermInit, ho]
    simp [OverridesUserWithRoot, and_assoc]

def sidecar (user : ℤ) : RabbitmqCluster where
  name := "rabbit"
  ns := "default"
  spec.storage := 10
  spec.statefulSetOverride := some
    { spec := some
        { template := some
            { spec := some
                { containers := [{ name := "sidecar", image := "busybox" }]
                  securityContext := some { runAsUser := some user, runAsNonRoot := some (user ≠ 0) } } } } }

theorem sidecar_runs_as_root :
    validatePodSpecOverride (sidecar 0) = none ∧
      ∃ updated, StatefulSetBuilder.update (sidecar 0) strategicMergePatch
          (StatefulSetBuilder.build (sidecar 0)) = .ok updated ∧
        ¬ RootFree updated.template.spec :=
  ⟨by decide, _, rfl, by decide⟩

theorem sidecar_runs_as_user :
    validatePodSpecOverride (sidecar 1000) = none ∧
      ∃ updated, StatefulSetBuilder.update (sidecar 1000) strategicMergePatch
          (StatefulSetBuilder.build (sidecar 1000)) = .ok updated ∧
        RootFree updated.template.spec := by
  refine ⟨by decide, _, rfl, ?_⟩
  refine (@update_rootFree_iff strategicMergePatch (sidecar 1000) (StatefulSetBuilder.build (sidecar 1000)) _
    (by decide) rfl).mpr ?_
  rintro o ⟨⟩ ⟨huser, -⟩
  exact absurd huser (by decide)

end ClusterOperator.Webhook
