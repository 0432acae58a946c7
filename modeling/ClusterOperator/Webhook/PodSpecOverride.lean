import ClusterOperator.Resource.PodUpdate

namespace ClusterOperator.Webhook

open Api Kubernetes Resource

structure FieldError where
  field : String
  detail : String
deriving DecidableEq

def forbid (bad : Bool) (field detail : String) : List FieldError := if bad then [⟨field, detail⟩] else []

def validateSecurityContext (path : String) (sc : SecurityContext) : List FieldError :=
  forbid (sc.privileged = some true) (path ++ ".privileged")
    "privileged containers are not permitted in override" ++
  forbid (sc.allowPrivilegeEscalation = some true) (path ++ ".allowPrivilegeEscalation")
    "allowPrivilegeEscalation is not permitted in override" ++
  forbid (sc.runAsUser = some 0) (path ++ ".runAsUser") "runAsUser 0 is not permitted in override" ++
  forbid (sc.runAsNonRoot = some false) (path ++ ".runAsNonRoot")
    "runAsNonRoot false is not permitted in override" ++
  forbid (sc.readOnlyRootFilesystem = some false) (path ++ ".readOnlyRootFilesystem")
    "readOnlyRootFilesystem false is not permitted in override" ++
  forbid (sc.capabilities.any (fun c => c.add.isSome)) (path ++ ".capabilities")
    "adding capabilities is not permitted in override"

def index (path : String) (i : ℕ) : String := path ++ "[" ++ toString i ++ "]"

def validateContainers (path : String) (containers : List Container) : List FieldError :=
  (containers.mapIdx fun i c =>
    match c.securityContext with
    | none => []
    | some sc => validateSecurityContext (index path i ++ ".securityContext") sc).flatten

def validateVolumes (path : String) (volumes : List Volume) : List FieldError :=
  (volumes.mapIdx fun i v =>
    forbid (isHostPath v) (index path i ++ ".hostPath") "hostPath volumes are not permitted in override").flatten

def specPath : String := "spec.override.statefulSet.spec.template.spec"

def validatePodSpec (podSpec : PodSpec) : List FieldError :=
  forbid podSpec.hostPID (specPath ++ ".hostPID") "hostPID is not permitted in override" ++
  forbid podSpec.hostNetwork (specPath ++ ".hostNetwork") "hostNetwork is not permitted in override" ++
  forbid podSpec.hostIPC (specPath ++ ".hostIPC") "hostIPC is not permitted in override" ++
  forbid (podSpec.serviceAccountName ≠ "") (specPath ++ ".serviceAccountName")
    "serviceAccountName is managed by the operator and cannot be overridden" ++
  validateVolumes (specPath ++ ".volumes") podSpec.volumes ++
  validateContainers (specPath ++ ".containers") podSpec.containers ++
  validateContainers (specPath ++ ".initContainers") podSpec.initContainers

structure Invalid where
  name : String
  errs : List FieldError
deriving DecidableEq

def validatePodSpecOverride (cluster : RabbitmqCluster) : Option Invalid :=
  match podSpecOverride cluster with
  | none => none
  | some podSpec =>
    if validatePodSpec podSpec = [] then none else some ⟨cluster.name, validatePodSpec podSpec⟩

structure Permitted (sc : SecurityContext) : Prop where
  privileged : sc.privileged ≠ some true
  allowPrivilegeEscalation : sc.allowPrivilegeEscalation ≠ some true
  runAsUser : sc.runAsUser ≠ some 0
  runAsNonRoot : sc.runAsNonRoot ≠ some false
  readOnlyRootFilesystem : sc.readOnlyRootFilesystem ≠ some false
  capabilities : ∀ c ∈ sc.capabilities, c.add = none

structure Accepted (podSpec : PodSpec) : Prop where
  hostPID : podSpec.hostPID = false
  hostNetwork : podSpec.hostNetwork = false
  hostIPC : podSpec.hostIPC = false
  serviceAccountName : podSpec.serviceAccountName = ""
  volumes : ∀ v ∈ podSpec.volumes, isHostPath v = false
  containers : ∀ c ∈ podSpec.containers, ∀ sc ∈ c.securityContext, Permitted sc
  initContainers : ∀ c ∈ podSpec.initContainers, ∀ sc ∈ c.securityContext, Permitted sc

@[simp] lemma forbid_eq_nil {bad : Bool} {field detail : String} :
    forbid bad field detail = [] ↔ bad = false := by
  cases bad <;> simp [forbid]

lemma validateSecurityContext_eq_nil {path : String} {sc : SecurityContext} :
    validateSecurityContext path sc = [] ↔ Permitted sc := by
  simp only [validateSecurityContext, List.append_eq_nil_iff, forbid_eq_nil, decide_eq_false_iff_not,
    Option.any_eq_false, Option.isSome_eq_false_iff, Option.isNone_iff_eq_none]
  constructor
  · rintro ⟨⟨⟨⟨⟨h₁, h₂⟩, h₃⟩, h₄⟩, h₅⟩, h₆⟩
    exact ⟨h₁, h₂, h₃, h₄, h₅, h₆⟩
  · rintro ⟨h₁, h₂, h₃, h₄, h₅, h₆⟩
    exact ⟨⟨⟨⟨⟨h₁, h₂⟩, h₃⟩, h₄⟩, h₅⟩, h₆⟩

lemma flatten_mapIdx_eq_nil {α β : Type} {f : ℕ → α → List β} {P : α → Prop} {l : List α}
    (hf : ∀ i a, f i a = [] ↔ P a) : (l.mapIdx f).flatten = [] ↔ ∀ a ∈ l, P a := by
  simp only [List.flatten_eq_nil_iff, List.mem_mapIdx]
  constructor
  · intro h a ha
    obtain ⟨i, hi, rfl⟩ := List.mem_iff_getElem.mp ha
    exact (hf i _).mp (h _ ⟨i, hi, rfl⟩)
  · rintro h _ ⟨i, hi, rfl⟩
    exact (hf i _).mpr (h _ (List.getElem_mem hi))

lemma validateContainers_eq_nil {path : String} {containers : List Container} :
    validateContainers path containers = [] ↔
      ∀ c ∈ containers, ∀ sc ∈ c.securityContext, Permitted sc := by
  refine flatten_mapIdx_eq_nil fun i c => ?_
  cases hsc : c.securityContext with
  | none => simp
  | some sc => simp [validateSecurityContext_eq_nil]

lemma validateVolumes_eq_nil {path : String} {volumes : List Volume} :
    validateVolumes path volumes = [] ↔ ∀ v ∈ volumes, isHostPath v = false :=
  flatten_mapIdx_eq_nil fun _ _ => forbid_eq_nil

theorem validatePodSpec_eq_nil {podSpec : PodSpec} : validatePodSpec podSpec = [] ↔ Accepted podSpec := by
  simp only [validatePodSpec, List.append_eq_nil_iff, forbid_eq_nil, decide_eq_false_iff_not, not_not,
    validateVolumes_eq_nil, validateContainers_eq_nil]
  constructor
  · rintro ⟨⟨⟨⟨⟨⟨h₁, h₂⟩, h₃⟩, h₄⟩, h₅⟩, h₆⟩, h₇⟩
    exact ⟨h₁, h₂, h₃, h₄, h₅, h₆, h₇⟩
  · rintro ⟨h₁, h₂, h₃, h₄, h₅, h₆, h₇⟩
    exact ⟨⟨⟨⟨⟨⟨h₁, h₂⟩, h₃⟩, h₄⟩, h₅⟩, h₆⟩, h₇⟩

theorem validatePodSpecOverride_eq_none {cluster : RabbitmqCluster} :
    validatePodSpecOverride cluster = none ↔ ∀ podSpec ∈ podSpecOverride cluster, Accepted podSpec := by
  unfold validatePodSpecOverride
  cases h : podSpecOverride cluster with
  | none => simp
  | some podSpec => simp [validatePodSpec_eq_nil]

lemma sanitizeSecurityContext_of_permitted {sc : SecurityContext} (h : Permitted sc) :
    sanitizeSecurityContext sc = sc := by
  obtain ⟨h₁, h₂, h₃, h₄, h₅, h₆⟩ := h
  have hcap : sc.capabilities.map (fun c => { c with add := none }) = sc.capabilities := by
    cases hc : sc.capabilities with
    | none => rfl
    | some c => simp [← h₆ c hc]
  have hro : sc.readOnlyRootFilesystem.map (fun _ => true) = sc.readOnlyRootFilesystem := by
    cases hr : sc.readOnlyRootFilesystem with
    | none => rfl
    | some b =>
      cases b with
      | false => exact absurd hr h₅
      | true => rfl
  simp only [sanitizeSecurityContext, if_neg h₁, if_neg h₂, if_neg h₃, if_neg h₄, hcap, hro]

lemma map_sanitizeContainer {cs : List Container} (h : ∀ c ∈ cs, ∀ sc ∈ c.securityContext, Permitted sc) :
    cs.map sanitizeContainer = cs := by
  refine (List.map_congr_left fun c hc => ?_).trans (List.map_id cs)
  have hmap : c.securityContext.map sanitizeSecurityContext = c.securityContext := by
    cases hsc : c.securityContext with
    | none => rfl
    | some sc => simp [sanitizeSecurityContext_of_permitted (h c hc sc hsc)]
  simp only [sanitizeContainer, hmap, id]

theorem sanitizePodSpecOverride_of_accepted {podSpec : PodSpec} (h : Accepted podSpec) :
    sanitizePodSpecOverride podSpec = podSpec := by
  have hvolumes : podSpec.volumes.filter (fun v => !isHostPath v) = podSpec.volumes :=
    List.filter_eq_self.mpr fun v hv => by simp [h.volumes v hv]
  simp only [sanitizePodSpecOverride, hvolumes, map_sanitizeContainer h.containers,
    map_sanitizeContainer h.initContainers]
  rcases podSpec with ⟨_, _, _, hostPID, hostNetwork, hostIPC, account, _, _⟩
  obtain ⟨rfl, rfl, rfl, rfl, -, -, -⟩ := h
  rfl

lemma ite_ne_some {α : Type} [DecidableEq α] {x : Option α} {a : α} {y : Option α} (hy : y ≠ some a) :
    (if x = some a then y else x) ≠ some a := by
  split
  · exact hy
  · assumption

lemma sanitizeSecurityContext_permitted (sc : SecurityContext) : Permitted (sanitizeSecurityContext sc) where
  privileged := ite_ne_some (by simp)
  allowPrivilegeEscalation := ite_ne_some (by simp)
  runAsUser := ite_ne_some (by simp)
  runAsNonRoot := ite_ne_some (by simp)
  readOnlyRootFilesystem := by cases h : sc.readOnlyRootFilesystem <;> simp [sanitizeSecurityContext, h]
  capabilities c hc := by
    obtain ⟨c, -, rfl⟩ := Option.map_eq_some_iff.mp hc
    rfl

lemma map_sanitizeContainer_permitted {cs : List Container} :
    ∀ c ∈ cs.map sanitizeContainer, ∀ sc ∈ c.securityContext, Permitted sc := by
  intro c hc sc hsc
  obtain ⟨c, -, rfl⟩ := List.mem_map.mp hc
  obtain ⟨sc, -, rfl⟩ := Option.map_eq_some_iff.mp hsc
  exact sanitizeSecurityContext_permitted sc

lemma sanitizePodSpecOverride_accepted (podSpec : PodSpec) : Accepted (sanitizePodSpecOverride podSpec) where
  hostPID := rfl
  hostNetwork := rfl
  hostIPC := rfl
  serviceAccountName := rfl
  volumes v hv := by simpa using (List.mem_filter.mp hv).2
  containers := map_sanitizeContainer_permitted
  initContainers := map_sanitizeContainer_permitted

lemma accepted_iff_sanitizePodSpecOverride_eq {podSpec : PodSpec} :
    Accepted podSpec ↔ sanitizePodSpecOverride podSpec = podSpec :=
  ⟨sanitizePodSpecOverride_of_accepted, fun h => h ▸ sanitizePodSpecOverride_accepted podSpec⟩

lemma podSpecOverride_sanitizeOverride (cluster : RabbitmqCluster) :
    podSpecOverride { cluster with spec := sanitizeOverride cluster.spec } =
      (podSpecOverride cluster).map sanitizePodSpecOverride := by
  rcases ho : cluster.spec.statefulSetOverride with _ | ⟨_, _ | ⟨_, _, _ | ⟨_, _ | _⟩, _, _, _, _, _, _⟩⟩ <;>
    simp [podSpecOverride, templateOverride, statefulSetSpecOverride, sanitizeOverride, modifyOverride, sanitizeTemplate, ho]

theorem validation_agrees_with_sanitizer {cluster : RabbitmqCluster} {podSpec : PodSpec}
    (h : podSpecOverride cluster = some podSpec) :
    (validatePodSpecOverride cluster = none ↔ sanitizePodSpecOverride podSpec = podSpec) ∧
      sanitizePodSpecOverride (sanitizePodSpecOverride podSpec) = sanitizePodSpecOverride podSpec ∧
      validatePodSpecOverride { cluster with spec := sanitizeOverride cluster.spec } = none := by
  have haccepted := sanitizePodSpecOverride_accepted podSpec
  refine ⟨?_, sanitizePodSpecOverride_of_accepted haccepted, ?_⟩
  · rw [validatePodSpecOverride_eq_none, h, ← accepted_iff_sanitizePodSpecOverride_eq]
    simp
  · rw [validatePodSpecOverride_eq_none, podSpecOverride_sanitizeOverride, h]
    simpa using haccepted

def overriding (podSpec : PodSpec) : RabbitmqCluster where
  name := "rabbit"
  ns := "default"
  spec.storage := 10
  spec.statefulSetOverride := some { spec := some { template := some { spec := some podSpec } } }

theorem privileged_rejected_and_sanitized :
    let privileged : PodSpec :=
      { containers := [{ name := "rabbitmq", securityContext := some { privileged := some true } }] }
    validatePodSpecOverride (overriding privileged) ≠ none ∧
      sanitizePodSpecOverride privileged ≠ privileged ∧
      validatePodSpecOverride
        { overriding privileged with spec := sanitizeOverride (overriding privileged).spec } = none := by
  intro privileged
  have hagree := @validation_agrees_with_sanitizer (overriding privileged) privileged rfl
  have hchanged : sanitizePodSpecOverride privileged ≠ privileged := by decide
  exact ⟨hagree.1.not.mpr hchanged, hchanged, hagree.2.2⟩

end ClusterOperator.Webhook
