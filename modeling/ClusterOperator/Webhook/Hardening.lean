import ClusterOperator.Resource.ContainerOverride
import ClusterOperator.Resource.PodUpdate
import ClusterOperator.Webhook.RunAsRoot

namespace ClusterOperator.Webhook

open Api Kubernetes Resource Keyed

variable {merge : StrategicMergePatch} {cluster : RabbitmqCluster} {sts updated : StatefulSet} {override : PodSpec}

section Unprivileged

structure Unprivileged (cluster : RabbitmqCluster) (pod : PodSpec) : Prop where
  hostPID : pod.hostPID = false
  hostNetwork : pod.hostNetwork = false
  hostIPC : pod.hostIPC = false
  serviceAccountName : pod.serviceAccountName = cluster.childResourceName "server"
  volumes : ∀ v ∈ pod.volumes, isHostPath v = false
  containers : AllPermitted pod.containers
  initContainers : AllPermitted pod.initContainers

lemma volumes_not_hostPath (cluster : RabbitmqCluster) : ∀ v ∈ volumes cluster, isHostPath v = false := by
  intro v hv
  simp only [volumes, List.mem_append, List.mem_cons, List.not_mem_nil, or_false] at hv
  rcases hv with ((((rfl | rfl | rfl | rfl | rfl | rfl) | hv) | hv) | hv)
  all_goals first | rfl | skip
  all_goals
    split at hv
    · obtain rfl := List.mem_singleton.mp hv
      rfl
    · cases hv

lemma podTemplateSpec_unprivileged (cluster : RabbitmqCluster) (annotations : StringMap) :
    Unprivileged cluster (podTemplateSpec cluster annotations).spec where
  hostPID := rfl
  hostNetwork := rfl
  hostIPC := rfl
  serviceAccountName := rfl
  volumes := volumes_not_hostPath cluster
  containers := operatorContainers_permitted cluster
  initContainers := setupContainer_permitted cluster

lemma updatedPodSpec_unprivileged {pod : PodSpec} (h : updatedPodSpec cluster merge = .ok pod) :
    Unprivileged cluster pod := by
  have hgenerated := podTemplateSpec_unprivileged cluster {}
  rcases updatedPodSpec_cases h with ⟨-, rfl⟩ | ⟨o, patched, -, hpatched, rfl⟩
  · exact hgenerated
  · obtain ⟨containers, hfirst, -, -, rfl⟩ := patchPodSpec_eq_ok.mp hpatched
    have hsanitized := sanitizePodSpecOverride_accepted o
    constructor
    · exact (merge.hostPID _ _).trans (by simp [hgenerated.hostPID, hsanitized.hostPID])
    · exact (merge.hostNetwork _ _).trans (by simp [hgenerated.hostNetwork, hsanitized.hostNetwork])
    · exact (merge.hostIPC _ _).trans (by simp [hgenerated.hostIPC, hsanitized.hostIPC])
    · rfl
    · intro v hv
      have hmem := (merge.volumes (podTemplateSpec cluster {}).spec (sanitizePodSpecOverride o)).mem_iff.mp hv
      exact mergeBy_all (P := fun v => isHostPath v = false) (fun _ _ _ ho => ho) hgenerated.volumes
        hsanitized.volumes v hmem
    · exact clearFrom_permitted (overrideFirst_contexts hfirst)
        (merged_permitted (merge.containers _ _) hgenerated.containers hsanitized.containers)
    · exact clearFrom_permitted rfl
        (merged_permitted (merge.initContainers _ _) hgenerated.initContainers hsanitized.initContainers)

theorem update_unprivileged (hupdate : StatefulSetBuilder.update cluster merge sts = .ok updated) :
    let pod := updated.template.spec
    (pod.hostPID = false ∧ pod.hostNetwork = false ∧ pod.hostIPC = false) ∧
      pod.serviceAccountName = cluster.childResourceName "server" ∧ (∀ v ∈ pod.volumes, isHostPath v = false) ∧
      ∀ c ∈ pod.containers ++ pod.initContainers, ∀ sc ∈ c.securityContext, Permitted sc := by
  obtain ⟨hpid, hnetwork, hipc, haccount, hvolumes, hcontainers, hinit⟩ :=
    updatedPodSpec_unprivileged (StatefulSetBuilder.update_podSpec hupdate)
  refine ⟨⟨hpid, hnetwork, hipc⟩, haccount, hvolumes, fun c hc => ?_⟩
  rcases List.mem_append.mp hc with hc | hc
  · exact hcontainers c hc
  · exact hinit c hc

def privileged : PodSpec where
  hostPID := true
  hostNetwork := true
  hostIPC := true
  serviceAccountName := "admin"
  volumes := [⟨"root", .hostPath "/"⟩]
  containers :=
    [{ name := "rabbitmq"
       securityContext := some
        { privileged := some true, allowPrivilegeEscalation := some true, runAsUser := some 0
          runAsNonRoot := some false, readOnlyRootFilesystem := some false
          capabilities := some { add := some ["SYS_ADMIN"] } } }]

theorem privileged_override_unprivileged : ∃ updated,
    StatefulSetBuilder.update (overriding privileged) strategicMergePatch
        (StatefulSetBuilder.build (overriding privileged)) = .ok updated ∧
      updated.template.spec.hostPID = false ∧ updated.template.spec.serviceAccountName = "rabbit-server" := by
  obtain ⟨updated, hupdated⟩ : ∃ updated, StatefulSetBuilder.update (overriding privileged) strategicMergePatch
      (StatefulSetBuilder.build (overriding privileged)) = .ok updated := ⟨_, rfl⟩
  obtain ⟨⟨hpid, -⟩, haccount, -⟩ := update_unprivileged hupdated
  exact ⟨updated, hupdated, hpid, haccount⟩

end Unprivileged

section Hardened

/-- A field that the operator sets has its value, or one that an entry of the override has and
the sanitizer leaves alone. -/
def FieldKept {α : Type} (field : SecurityContext → Option α) (operator : SecurityContext)
    (entries : List SecurityContext) (final : SecurityContext) : Prop :=
  field operator ≠ none → field final = field operator ∨
    ∃ sc ∈ entries, field final = field sc ∧ field sc ≠ none ∧ field (sanitizeSecurityContext sc) = field sc

def droppedCapabilities (sc : SecurityContext) : Option (List String) := sc.capabilities.bind Capabilities.drop

structure Hardened (operator : SecurityContext) (entries : List SecurityContext) (final : SecurityContext) : Prop where
  allowPrivilegeEscalation : FieldKept SecurityContext.allowPrivilegeEscalation operator entries final
  privileged : FieldKept SecurityContext.privileged operator entries final
  readOnlyRootFilesystem : FieldKept SecurityContext.readOnlyRootFilesystem operator entries final
  runAsNonRoot : FieldKept SecurityContext.runAsNonRoot operator entries final
  droppedCapabilities : FieldKept droppedCapabilities operator entries final
  seccompProfile : FieldKept SecurityContext.seccompProfile operator entries final

section Field

variable {α : Type} {field : SecurityContext → Option α} {entries : List SecurityContext} {final sc : SecurityContext}

lemma FieldKept.refl (operator : SecurityContext) : FieldKept field operator entries operator :=
  fun _ => Or.inl rfl

lemma FieldKept.merged (hmerge : ∀ a b, field (mergeSecurityContext a b) = (field b).or (field a))
    (hsanitize : field (sanitizeSecurityContext sc) = field sc ∨
      field (sanitizeSecurityContext sc) = field restricted)
    (hsc : sc ∈ entries) (h : FieldKept field restricted entries final) :
    FieldKept field restricted entries (mergeSecurityContext final (sanitizeSecurityContext sc)) := by
  intro hset
  rw [hmerge]
  cases hfield : field (sanitizeSecurityContext sc) with
  | none => exact h hset
  | some v =>
    rw [Option.some_or, ← hfield]
    rcases hsanitize with heq | heq
    · exact Or.inr ⟨sc, hsc, heq, by rw [← heq, hfield]; exact Option.some_ne_none v, heq⟩
    · exact Or.inl heq

lemma ite_eq_or {x y : Option α} (P : Prop) [Decidable P] : (if P then y else x) = x ∨ (if P then y else x) = y := by
  split
  · exact Or.inr rfl
  · exact Or.inl rfl

end Field

lemma droppedCapabilities_merge (a b : SecurityContext) :
    droppedCapabilities (mergeSecurityContext a b) = (droppedCapabilities b).or (droppedCapabilities a) := by
  cases ha : a.capabilities <;> cases hb : b.capabilities <;>
    simp [droppedCapabilities, mergeSecurityContext, mergeOption, mergeCapabilities, mergeField, ha, hb]

lemma droppedCapabilities_sanitize (sc : SecurityContext) :
    droppedCapabilities (sanitizeSecurityContext sc) = droppedCapabilities sc := by
  cases h : sc.capabilities <;> simp [droppedCapabilities, sanitizeSecurityContext, h]

lemma readOnlyRootFilesystem_sanitize (sc : SecurityContext) :
    (sanitizeSecurityContext sc).readOnlyRootFilesystem = sc.readOnlyRootFilesystem ∨
      (sanitizeSecurityContext sc).readOnlyRootFilesystem = restricted.readOnlyRootFilesystem := by
  cases h : sc.readOnlyRootFilesystem <;> simp [sanitizeSecurityContext, restricted, h]

lemma hardened_refl (operator : SecurityContext) (entries : List SecurityContext) :
    Hardened operator entries operator := by
  constructor <;> exact FieldKept.refl operator

lemma Hardened.merged {entries : List SecurityContext} {final sc : SecurityContext} (hsc : sc ∈ entries)
    (h : Hardened restricted entries final) :
    Hardened restricted entries (mergeSecurityContext final (sanitizeSecurityContext sc)) where
  allowPrivilegeEscalation := h.allowPrivilegeEscalation.merged (fun _ _ => rfl) (ite_eq_or _) hsc
  privileged := h.privileged.merged (fun _ _ => rfl) (ite_eq_or _) hsc
  readOnlyRootFilesystem :=
    h.readOnlyRootFilesystem.merged (fun _ _ => rfl) (readOnlyRootFilesystem_sanitize sc) hsc
  runAsNonRoot := h.runAsNonRoot.merged (fun _ _ => rfl) (ite_eq_or _) hsc
  droppedCapabilities :=
    h.droppedCapabilities.merged droppedCapabilities_merge (Or.inl (droppedCapabilities_sanitize sc)) hsc
  seccompProfile := h.seccompProfile.merged (fun _ _ => rfl) (Or.inl rfl) hsc

lemma sanitizeSecurityContext_eq_empty {sc : SecurityContext} :
    sanitizeSecurityContext sc = {} ↔ sc = {} ∨ sc = { runAsUser := some 0 } := by
  constructor
  · intro h
    rcases sc with ⟨privileged, escalation, user, group, nonRoot, readOnly, capabilities, seccomp, others⟩
    simp only [sanitizeSecurityContext, SecurityContext.mk.injEq, Option.map_eq_none_iff] at h
    obtain ⟨h₁, h₂, h₃, rfl, h₄, rfl, rfl, rfl, rfl⟩ := h
    split_ifs at h₁ h₂ h₃ h₄
    · subst h₁ h₂ h₄
      exact Or.inr (by simp [*])
    · subst h₁ h₂ h₃ h₄
      exact Or.inl rfl
  · rintro (rfl | rfl) <;> decide

def entriesFor (cs : List Container) (name : String) : List SecurityContext :=
  (cs.filter fun c => c.name = name).filterMap Container.securityContext

lemma mem_entriesFor {cs : List Container} {name : String} {sc : SecurityContext} :
    sc ∈ entriesFor cs name ↔ ∃ c ∈ cs, c.name = name ∧ c.securityContext = some sc := by
  simp [entriesFor, and_assoc]

lemma resetAt_sanitized {cs : List Container} {j : ℕ} : resetAt (cs.map sanitizeContainer) j = true ↔
    ∃ e, cs[j]? = some e ∧ (e.securityContext = some {} ∨ e.securityContext = some { runAsUser := some 0 }) := by
  rw [resetAt_iff]
  simp only [List.getElem?_map, Option.map_eq_some_iff, exists_exists_and_eq_and, sanitizeContainer,
    sanitizeSecurityContext_eq_empty]
  refine exists_congr fun e => and_congr_right fun _ => ?_
  constructor
  · rintro ⟨sc, hsc, rfl | rfl⟩
    · exact Or.inl hsc
    · exact Or.inr hsc
  · rintro (hsc | hsc)
    · exact ⟨_, hsc, Or.inl rfl⟩
    · exact ⟨_, hsc, Or.inr rfl⟩

section Lists

variable {lists : PodSpec → List Container}
  (hlists : lists = PodSpec.containers ∨ lists = PodSpec.initContainers)
include hlists

lemma lists_sanitize (override : PodSpec) :
    lists (sanitizePodSpecOverride override) = (lists override).map sanitizeContainer := by
  rcases hlists with rfl | rfl <;> rfl

lemma lists_perm (merge : StrategicMergePatch) (original patch : PodSpec) : (lists (merge.podSpec original patch)).Perm
    (mergeBy Container.name mergeContainer (lists original) (lists patch)) := by
  rcases hlists with rfl | rfl
  · exact merge.containers original patch
  · exact merge.initContainers original patch

lemma lists_nodup (cluster : RabbitmqCluster) (annotations : StringMap) :
    ((lists (podTemplateSpec cluster annotations).spec).map Container.name).Nodup := by
  rcases hlists with rfl | rfl
  · exact operatorContainers_nodup cluster
  · exact List.nodup_singleton _

lemma lists_restricted {b : Container} (hb : b ∈ lists (podTemplateSpec cluster {}).spec) :
    ∀ op ∈ b.securityContext, op = restricted := by
  rintro op hop
  rcases hlists with rfl | rfl
  · rcases List.mem_cons.mp hb with rfl | hb
    · exact (Option.some.inj hop).symm
    · split at hb
      · obtain rfl := List.mem_singleton.mp hb
        cases hop
      · cases hb
  · obtain rfl := List.mem_singleton.mp hb
    exact (Option.some.inj hop).symm

lemma update_contexts (hoverride : podSpecOverride cluster = some override)
    (hupdate : StatefulSetBuilder.update cluster merge sts = .ok updated) (k : ℕ) :
    (contexts (lists updated.template.spec))[k]? =
      (lists (merge.podSpec (podTemplateSpec cluster {}).spec (sanitizePodSpecOverride override)))[k]?.map fun c =>
        (c.name, if resetAt ((lists override).map sanitizeContainer) k = true then none else c.securityContext) := by
  obtain ⟨patched, hpatched, hupdated⟩ : ∃ patched, patchPodSpec merge (podTemplateSpec cluster {}).spec
      (sanitizePodSpecOverride override) = .ok patched ∧ updated.template.spec = { patched with
        serviceAccountName := cluster.childResourceName "server", automountServiceAccountToken := some true } := by
    rcases updatedPodSpec_cases (StatefulSetBuilder.update_podSpec hupdate) with ⟨hnone, -⟩ | ⟨o, p, ho, hp, hspec⟩
    · cases hnone.symm.trans hoverride
    · cases ho.symm.trans hoverride
      exact ⟨p, hp, hspec⟩
  obtain ⟨containers, hfirst, -, -, rfl⟩ := patchPodSpec_eq_ok.mp hpatched
  rw [← lists_sanitize hlists]
  rcases hlists with rfl | rfl <;> rw [hupdated]
  · exact contexts_clearFrom (overrideFirst_contexts hfirst) k
  · exact contexts_clearFrom rfl k

variable {b o : Container}

lemma merged_hardened (hb : b ∈ lists (podTemplateSpec cluster {}).spec) (ho : o ∈ lists override)
    (hname : o.name = b.name) (hsc : o.securityContext ≠ none) {m : Container}
    (hm : m ∈ lists (merge.podSpec (podTemplateSpec cluster {}).spec (sanitizePodSpecOverride override)))
    (hmname : m.name = b.name) : ∃ sc, m.securityContext = some sc ∧
      ∀ op ∈ b.securityContext, Hardened op (entriesFor (lists override) b.name) sc := by
  have hnodup := lists_nodup hlists cluster {}
  have hmem := (lists_perm hlists merge _ _).mem_iff.mp hm
  rw [lists_sanitize hlists] at hmem
  have hkept : ∀ m ∈ mergeBy Container.name mergeContainer (lists (podTemplateSpec cluster {}).spec)
      ((lists override).map sanitizeContainer), m.name = b.name → ∀ op ∈ b.securityContext,
        ∃ sc, m.securityContext = some sc ∧ Hardened op (entriesFor (lists override) b.name) sc := by
    refine mergeBy_of_base mergeContainer_name (fun c e he hename hc op hop => ?_) ⟨b, hb, rfl⟩
      fun c hc hcname op hop => ?_
    · obtain rfl := lists_restricted hlists hb op hop
      obtain ⟨sc, hcsc, hhardened⟩ := hc restricted hop
      obtain ⟨e, hmem, rfl⟩ := List.mem_map.mp he
      cases hesc : e.securityContext with
      | none => exact ⟨sc, by simp [mergeContainer, sanitizeContainer, hesc, hcsc, mergeOption], hhardened⟩
      | some esc =>
        exact ⟨_, by simp [mergeContainer, sanitizeContainer, hesc, hcsc, mergeOption],
          hhardened.merged (mem_entriesFor.mpr ⟨e, hmem, hename, hesc⟩)⟩
    · obtain rfl := List.inj_on_of_nodup_map hnodup hc hb hcname
      exact ⟨op, hop, hardened_refl op _⟩
  have hsome : m.securityContext ≠ none := by
    intro hnone
    have hall : ∀ c ∈ mergeBy Container.name mergeContainer (lists (podTemplateSpec cluster {}).spec)
        ((lists override).map sanitizeContainer), c.name = b.name → c.securityContext = none := by
      intro c hc hcname
      rwa [List.inj_on_of_nodup_map (mergeBy_keys_nodup mergeContainer_name hnodup) hc hmem
        (hcname.trans hmname.symm)]
    have hnone' (a e : Container) : (mergeContainer a e).securityContext = none ↔
        a.securityContext = none ∧ e.securityContext = none := by
      cases ha : a.securityContext <;> cases he : e.securityContext <;> simp [mergeContainer, mergeOption, ha, he]
    have hentries := ((mergeBy_forall mergeContainer_name hnone').mp hall).2 (sanitizeContainer o)
      (List.mem_map_of_mem ho) hname
    exact hsc (Option.map_eq_none_iff.mp hentries)
  obtain ⟨sc, hmsc⟩ := Option.ne_none_iff_exists'.mp hsome
  refine ⟨sc, hmsc, fun op hop => ?_⟩
  obtain ⟨sc', hmsc', hhardened⟩ := hkept m hmem hmname op hop
  rw [hmsc] at hmsc'
  cases hmsc'
  exact hhardened

theorem hardening_kept_iff (hoverride : podSpecOverride cluster = some override)
    (hupdate : StatefulSetBuilder.update cluster merge sts = .ok updated)
    (hb : b ∈ lists (podTemplateSpec cluster {}).spec) (ho : o ∈ lists override) (hname : o.name = b.name)
    (hsc : ∃ sc, o.securityContext = some sc ∧ sc ≠ {}) :
    (∃ c ∈ lists updated.template.spec, c.name = b.name ∧ ∃ sc, c.securityContext = some sc ∧
      ∀ op ∈ b.securityContext, Hardened op (entriesFor (lists override) b.name) sc) ↔
    ∀ (j : ℕ) (e : Container), (lists (merge.podSpec (podTemplateSpec cluster {}).spec
        (sanitizePodSpecOverride override)))[j]?.map Container.name = some b.name →
      (lists override)[j]? = some e →
        e.securityContext ≠ some {} ∧ e.securityContext ≠ some { runAsUser := some 0 } := by
  set merged := lists (merge.podSpec (podTemplateSpec cluster {}).spec (sanitizePodSpecOverride override))
    with hmergedDef
  have hcontexts (k : ℕ) := update_contexts hlists hoverride hupdate k
  rw [← hmergedDef] at hcontexts
  have hsome : o.securityContext ≠ none := by
    obtain ⟨sc, hsc, -⟩ := hsc
    simp [hsc]
  have hnodup : (merged.map Container.name).Nodup := by
    rw [((lists_perm hlists merge _ _).map Container.name).nodup_iff]
    exact mergeBy_keys_nodup mergeContainer_name (lists_nodup hlists cluster {})
  have hreset (j : ℕ) : (∀ e, (lists override)[j]? = some e →
      e.securityContext ≠ some {} ∧ e.securityContext ≠ some { runAsUser := some 0 }) ↔
      ¬ resetAt ((lists override).map sanitizeContainer) j = true := by
    rw [resetAt_sanitized]
    push Not
    rfl
  constructor
  · rintro ⟨c, hc, hcname, sc, hcsc, -⟩ j e hj he
    refine (hreset j).mpr (fun hr => ?_) e he
    obtain ⟨k, hk⟩ := List.mem_iff_getElem?.mp hc
    have hck := hcontexts k
    rw [contexts_getElem?, hk] at hck
    obtain ⟨m, hm, hpair⟩ := Option.map_eq_some_iff.mp hck.symm
    obtain ⟨hmname, hmsc⟩ := Prod.mk.inj hpair
    have hjk : j = k := by
      have hnames (i : ℕ) : (merged.map Container.name)[i]? = merged[i]?.map Container.name := List.getElem?_map
      refine (List.getElem?_inj (List.getElem?_eq_some_iff.mp ((hnames j).trans hj)).1 hnodup).mp ?_
      rw [hnames, hnames, hj, hm, Option.map_some, hmname, hcname]
    rw [if_pos (hjk ▸ hr), hcsc] at hmsc
    cases hmsc
  · intro h
    obtain ⟨m, hm, hmname⟩ : ∃ m ∈ merged, m.name = b.name := by
      obtain ⟨m, hm, hmname⟩ := (mergeBy_key mergeContainer_name).mpr (Or.inl ⟨b, hb, rfl⟩)
      exact ⟨m, (lists_perm hlists merge _ _).mem_iff.mpr hm, hmname⟩
    obtain ⟨sc, hmsc, hhardened⟩ := merged_hardened hlists hb ho hname hsome hm hmname
    obtain ⟨k, hk⟩ := List.mem_iff_getElem?.mp hm
    have hck := hcontexts k
    have hnot := (hreset k).mp fun e he => h k e (by rw [hk, Option.map_some, hmname]) he
    rw [contexts_getElem?, hk, Option.map_some, if_neg hnot] at hck
    obtain ⟨c, hc, hpair⟩ := Option.map_eq_some_iff.mp hck
    obtain ⟨hcname, hcsc⟩ := Prod.mk.inj hpair
    exact ⟨c, List.mem_of_getElem? hc, hcname.trans hmname, sc, hcsc.trans hmsc, hhardened⟩

end Lists

def userOverride (user : ℤ) : PodSpec where
  containers := [{ name := "rabbitmq", securityContext := some { runAsUser := some user } }]

theorem root_user_drops_hardening :
    (StatefulSetBuilder.update (overriding (userOverride 0)) strategicMergePatch
        (StatefulSetBuilder.build (overriding (userOverride 0)))).map
      (fun updated => contexts updated.template.spec.containers) = .ok [("rabbitmq", none)] := by
  decide +kernel

theorem other_user_keeps_hardening : ∃ updated,
    StatefulSetBuilder.update (overriding (userOverride 1000)) strategicMergePatch
        (StatefulSetBuilder.build (overriding (userOverride 1000))) = .ok updated ∧
      ∃ c ∈ updated.template.spec.containers, c.name = "rabbitmq" ∧ ∃ sc, c.securityContext = some sc ∧
        Hardened restricted [{ runAsUser := some 1000 }] sc := by
  obtain ⟨updated, hupdated⟩ : ∃ updated,
    StatefulSetBuilder.update (overriding (userOverride 1000)) strategicMergePatch
      (StatefulSetBuilder.build (overriding (userOverride 1000))) = .ok updated := ⟨_, rfl⟩
  have hkept := (hardening_kept_iff (b := rabbitmqContainer (overriding (userOverride 1000)))
    (o := { name := "rabbitmq", securityContext := some { runAsUser := some 1000 } }) (Or.inl rfl) rfl hupdated
    List.mem_cons_self List.mem_cons_self rfl ⟨_, rfl, by decide⟩).mpr fun j e _ he => ?_
  · obtain ⟨c, hc, hname, sc, hsc, hhardened⟩ := hkept
    exact ⟨updated, hupdated, c, hc, hname, sc, hsc, hhardened restricted rfl⟩
  · obtain rfl := List.mem_singleton.mp (List.mem_of_getElem? he)
    decide

end Hardened

end ClusterOperator.Webhook
