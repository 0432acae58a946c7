import ClusterOperator.Keyed.Order
import ClusterOperator.Resource.PodSpecOverride

/-! Which containers the special cases of `patchPodSpec` change. They select the entries of the
override by name or one after the other, and the patched containers by their index. -/

namespace ClusterOperator.Resource

open Api Kubernetes Keyed

section Reset

variable {os patched out : List Container} {i : ℕ}

def cleared (c : Container) : Container := { c with securityContext := none }

def resetAt (os : List Container) (i : ℕ) : Bool := os[i]?.any fun o => o.securityContext = some {}

lemma resetAt_iff : resetAt os i = true ↔ ∃ o, os[i]? = some o ∧ o.securityContext = some {} := by
  simp [resetAt, Option.any_eq_true]

lemma resetAt_cons_succ (o : Container) (os : List Container) (j : ℕ) : resetAt (o :: os) (j + 1) = resetAt os j := by
  simp [resetAt]

def clearFrom (i : ℕ) (os patched : List Container) : List Container :=
  patched.mapIdx fun k c => if i ≤ k ∧ resetAt os (k - i) = true then cleared c else c

lemma getElem?_clearFrom (i : ℕ) (os patched : List Container) (k : ℕ) : (clearFrom i os patched)[k]? =
    if i ≤ k ∧ resetAt os (k - i) = true then patched[k]?.map cleared else patched[k]? := by
  rw [clearFrom, List.getElem?_mapIdx]
  split <;> simp [*]

lemma clearFrom_nil : clearFrom i [] patched = patched := by
  refine List.ext_getElem? fun k => ?_
  simp [getElem?_clearFrom, resetAt]

lemma clearFrom_cons (o : Container) : clearFrom i (o :: os) patched =
    clearFrom (i + 1) os (if o.securityContext = some {} then patched.modify i cleared else patched) := by
  refine List.ext_getElem? fun k => ?_
  rw [getElem?_clearFrom, getElem?_clearFrom]
  rcases lt_trichotomy k i with hk | rfl | hk
  · have h₁ : ¬ i ≤ k := hk.not_ge
    have h₂ : ¬ i + 1 ≤ k := by omega
    simp only [h₁, h₂, false_and, if_false]
    split <;> simp [hk.ne']
  · have h₀ : resetAt (o :: os) 0 = decide (o.securityContext = some {}) := by simp [resetAt]
    simp only [le_refl, Nat.sub_self, h₀, decide_eq_true_eq, true_and, Nat.not_succ_le_self, false_and, if_false]
    split <;> simp
  · obtain ⟨j, rfl⟩ : ∃ j, k = i + 1 + j := ⟨k - (i + 1), by omega⟩
    have h₁ : i + 1 + j - i = j + 1 := by omega
    have h₂ : i + 1 + j - (i + 1) = j := by omega
    have hget : (if o.securityContext = some {} then patched.modify i cleared else patched)[i + 1 + j]? =
        patched[i + 1 + j]? := by
      split <;> simp [hk.ne]
    simp only [h₁, h₂, hget, resetAt_cons_succ, hk.le, Nat.le_add_right, true_and]

lemma resetSecurityContexts_eq_ok : resetSecurityContexts i os patched = .ok out ↔
    (∀ j, resetAt os j = true → i + j < patched.length) ∧ out = clearFrom i os patched := by
  induction os generalizing i patched with
  | nil => simp [resetSecurityContexts, clearFrom_nil, resetAt, eq_comm]
  | cons o os ih =>
    have hrange : (∀ j, resetAt (o :: os) j = true → i + j < patched.length) ↔
        (o.securityContext = some {} → i < patched.length) ∧
          ∀ j, resetAt os j = true → i + 1 + j < patched.length := by
      constructor
      · intro h
        refine ⟨fun ho => by simpa using h 0 (by simp [resetAt, ho]), fun j hj => ?_⟩
        have hlt := h (j + 1) (by rwa [resetAt_cons_succ])
        omega
      · rintro ⟨h₀, h⟩ (_ | j) hj
        · exact h₀ (by simpa [resetAt] using hj)
        · have hlt := h j (by rwa [resetAt_cons_succ] at hj)
          omega
    rw [hrange, clearFrom_cons, resetSecurityContexts]
    split_ifs with ho hi
    · rw [ih, List.length_modify]
      exact ⟨fun ⟨h, hout⟩ => ⟨⟨fun _ => hi, h⟩, hout⟩, fun ⟨⟨_, h⟩, hout⟩ => ⟨h, hout⟩⟩
    · exact ⟨nofun, fun ⟨⟨h, _⟩, _⟩ => absurd (h ho) hi⟩
    · rw [ih]
      exact ⟨fun ⟨h, hout⟩ => ⟨⟨fun ho' => absurd ho' ho, h⟩, hout⟩, fun ⟨⟨_, h⟩, hout⟩ => ⟨h, hout⟩⟩

def InRange (os patched : List Container) : Prop := ∀ j, resetAt os j = true → j < patched.length

lemma resetSecurityContexts_zero : resetSecurityContexts 0 os patched = .ok out ↔
    InRange os patched ∧ out = clearFrom 0 os patched := by
  simp only [resetSecurityContexts_eq_ok, Nat.zero_add, InRange]

lemma getElem?_clearFrom_zero (os patched : List Container) (k : ℕ) : (clearFrom 0 os patched)[k]? =
    if resetAt os k = true then patched[k]?.map cleared else patched[k]? := by
  simp [getElem?_clearFrom]

end Reset

section ByName

def Asks (os : List Container) (name : String) : Prop := ∃ o ∈ os, o.name = name ∧ o.securityContext = some {}

instance (os : List Container) (name : String) : Decidable (Asks os name) :=
  inferInstanceAs (Decidable (∃ o ∈ os, o.name = name ∧ o.securityContext = some {}))

def contexts (cs : List Container) : List (String × Option SecurityContext) :=
  cs.map fun c => (c.name, c.securityContext)

def ResetByName (os merged out : List Container) : Prop :=
  contexts out = merged.map fun c => (c.name, if Asks os c.name then none else c.securityContext)

/-- The entry with the index of a merged container asks for a reset if and only if one with its
name does, unless there is nothing to reset. -/
def Aligned (os merged : List Container) : Prop :=
  InRange os merged ∧ ∀ j c, merged[j]? = some c → c.securityContext ≠ none →
    (resetAt os j = true ↔ Asks os c.name)

lemma aligned_iff {os merged : List Container} : Aligned os merged ↔
    (∀ j < os.length, resetAt os j = true → j < merged.length) ∧
      ∀ j, ∀ h : j < merged.length, merged[j].securityContext ≠ none →
        (resetAt os j = true ↔ Asks os merged[j].name) := by
  refine and_congr ⟨fun h j _ => h j, fun h j hj => ?_⟩ ⟨fun h j hj => ?_, fun h j c hc => ?_⟩
  · obtain ⟨o, ho, -⟩ := resetAt_iff.mp hj
    exact h j (List.getElem?_eq_some_iff.mp ho).1 hj
  · exact h j _ (List.getElem?_eq_getElem hj)
  · obtain ⟨hj, rfl⟩ := List.getElem?_eq_some_iff.mp hc
    exact h j hj

instance (os merged : List Container) : Decidable (Aligned os merged) := decidable_of_iff _ aligned_iff.symm

lemma contexts_getElem? (cs : List Container) (k : ℕ) :
    (contexts cs)[k]? = cs[k]?.map fun c => (c.name, c.securityContext) := by
  simp [contexts]

variable {os merged patched out : List Container}

lemma contexts_clearFrom (hcontexts : contexts patched = contexts merged) (k : ℕ) :
    (contexts (clearFrom 0 os patched))[k]? = merged[k]?.map fun c =>
      (c.name, if resetAt os k = true then none else c.securityContext) := by
  have hk := congrArg (·[k]?) hcontexts
  simp only [contexts_getElem?] at hk
  rw [contexts_getElem?, getElem?_clearFrom_zero]
  cases hp : patched[k]? <;> cases hm : merged[k]? <;> rw [hp, hm] at hk
  · simp
  · cases hk
  · cases hk
  · obtain ⟨hname, hsc⟩ := Prod.mk.inj (Option.some.inj hk)
    split <;> simp [cleared, hname, hsc]

lemma resetByName_iff (hcontexts : contexts patched = contexts merged) :
    ResetByName os merged (clearFrom 0 os patched) ↔ ∀ j c, merged[j]? = some c → c.securityContext ≠ none →
      (resetAt os j = true ↔ Asks os c.name) := by
  rw [ResetByName, List.ext_getElem?_iff]
  simp only [contexts_clearFrom hcontexts, List.getElem?_map]
  refine forall_congr' fun k => ?_
  cases hm : merged[k]? with
  | none => simp
  | some c =>
    by_cases hsc : c.securityContext = none
    · simp [hsc]
    · by_cases hr : resetAt os k = true <;> by_cases ha : Asks os c.name <;>
        simp [hsc, hr, ha, @eq_comm _ none]

end ByName

section First

variable {rmq c c' : Container} {cs out : List Container}

lemma overrideFirst_cons : overrideFirst rmq (c :: cs) = .ok out ↔ ∃ c', adjust rmq c = .ok c' ∧ out = c' :: cs := by
  have h : overrideFirst rmq (c :: cs) = adjust rmq c >>= fun c' => .ok (c' :: cs) := rfl
  rw [h, bind_eq_ok]
  simp only [Except.ok.injEq, eq_comm]

lemma adjust_context (h : adjust rmq c = .ok c') : c'.name = c.name ∧ c'.securityContext = c.securityContext := by
  obtain ⟨env, -, h⟩ := bind_eq_ok.mp h
  obtain ⟨mounts, -, h⟩ := bind_eq_ok.mp h
  cases h
  exact ⟨rfl, rfl⟩

lemma overrideFirst_contexts (h : overrideFirst rmq cs = .ok out) : contexts out = contexts cs := by
  cases cs with
  | nil =>
    simp only [overrideFirst] at h
    split at h <;> cases h
    rfl
  | cons c cs =>
    obtain ⟨c', hc', rfl⟩ := overrideFirst_cons.mp h
    obtain ⟨hname, hsc⟩ := adjust_context hc'
    simp [contexts, hname, hsc]

/-- The special cases find nothing to do: the lists that the override sets are in order, and the
probes that it sets are those of the container. -/
structure Unaffected (rmq c : Container) : Prop where
  env : rmq.env ≠ none → ∀ env ∈ c.env, sortEnvVar env = .ok env
  volumeMounts : rmq.volumeMounts ≠ none → ∀ mounts ∈ c.volumeMounts, sortVolumeMounts mounts = .ok mounts
  livenessProbe : ∀ p ∈ rmq.livenessProbe, c.livenessProbe = some p
  readinessProbe : ∀ p ∈ rmq.readinessProbe, c.readinessProbe = some p
  startupProbe : ∀ p ∈ rmq.startupProbe, c.startupProbe = some p

lemma sortIfSet_eq_self {α : Type} {sort : List α → Except Err (List α)} {override l : Option (List α)} :
    sortIfSet sort override l = .ok l ↔ (override ≠ none → ∀ a ∈ l, sort a = .ok a) := by
  rcases override with _ | o
  · simp [sortIfSet]
  rcases l with _ | a
  · simp [sortIfSet]
  cases h : sort a <;> simp [sortIfSet, h, Functor.map, Except.map]

lemma or_eq_right_iff {α : Type} {x y : Option α} : x.or y = y ↔ ∀ p ∈ x, y = some p := by
  cases x <;> simp [eq_comm]

lemma adjust_eq_self : adjust rmq c = .ok c ↔ Unaffected rmq c := by
  constructor
  · intro h
    obtain ⟨env, henv, h⟩ := bind_eq_ok.mp h
    obtain ⟨mounts, hmounts, h⟩ := bind_eq_ok.mp h
    have hc := Except.ok.inj h
    have henv' : env = c.env := congrArg Container.env hc
    have hmounts' : mounts = c.volumeMounts := congrArg Container.volumeMounts hc
    exact ⟨sortIfSet_eq_self.mp (henv' ▸ henv), sortIfSet_eq_self.mp (hmounts' ▸ hmounts),
      or_eq_right_iff.mp (congrArg Container.livenessProbe hc),
      or_eq_right_iff.mp (congrArg Container.readinessProbe hc),
      or_eq_right_iff.mp (congrArg Container.startupProbe hc)⟩
  · intro h
    unfold adjust
    rw [sortIfSet_eq_self.mpr h.env, sortIfSet_eq_self.mpr h.volumeMounts, or_eq_right_iff.mpr h.livenessProbe,
      or_eq_right_iff.mpr h.readinessProbe, or_eq_right_iff.mpr h.startupProbe]
    rfl

lemma cleared_eq_cleared (h : adjust rmq c = .ok c') : cleared c' = cleared c ↔ c' = c := by
  refine ⟨fun heq => ?_, fun heq => heq ▸ rfl⟩
  have hsc := (adjust_context h).2
  rcases c with ⟨_, _, _, _, _, _, _, _, _, _, _, _⟩
  rcases c' with ⟨_, _, _, _, _, _, _, _, _, _, _, _⟩
  simp_all [cleared]

section MoveToFront

variable {α : Type} {place : α → Option ℕ}

lemma swap_ok {l : List α} {i j : ℕ} (hi : i < l.length) (hj : j < l.length) :
    ∃ l', swap l i j = .ok l' ∧ l'.length = l.length := by
  refine ⟨(l.set i l[j]).set j l[i], ?_, by simp⟩
  unfold swap
  rw [List.getElem?_eq_getElem hi, List.getElem?_eq_getElem hj]

lemma moveToFront_ok {is : List ℕ} {l : List α} (his : ∀ i ∈ is, i < l.length)
    (hplace : ∀ a j, place a = some j → j < l.length) : ∃ l', moveToFront place is l = .ok l' := by
  induction is generalizing l with
  | nil => exact ⟨l, rfl⟩
  | cons i is ih =>
    have hi := his i List.mem_cons_self
    have hrest (i : ℕ) (h : i ∈ is) := his i (List.mem_cons_of_mem _ h)
    unfold moveToFront
    rw [List.getElem?_eq_getElem hi, Option.bind_some]
    cases hp : place l[i] with
    | none => exact ih hrest hplace
    | some j =>
      obtain ⟨l', hl', hlen⟩ := swap_ok (hplace _ j hp) hi
      obtain ⟨out, hout⟩ := ih (l := l') (fun i h => hlen ▸ hrest i h) fun a j h => hlen ▸ hplace a j h
      exact ⟨out, by simp only [hl']; exact hout⟩

end MoveToFront

lemma sortEnvVar_ok {env : List EnvVar} (h : 3 ≤ env.length) : ∃ env', sortEnvVar env = .ok env' := by
  refine moveToFront_ok (fun i hi => List.mem_range.mp hi) fun e j hj => ?_
  split_ifs at hj <;> cases hj <;> omega

lemma sortVolumeMounts_ok {mounts : List VolumeMount} (h : 2 ≤ mounts.length) :
    ∃ mounts', sortVolumeMounts mounts = .ok mounts' := by
  refine moveToFront_ok (fun i hi => List.mem_range.mp hi) fun m j hj => ?_
  split_ifs at hj <;> cases hj <;> omega

lemma sortIfSet_ok {α : Type} {sort : List α → Except Err (List α)} (override : Option (List α))
    {l : Option (List α)} (h : ∀ a ∈ l, ∃ b, sort a = .ok b) : ∃ l', sortIfSet sort override l = .ok l' := by
  rcases override with _ | o
  · exact ⟨l, rfl⟩
  rcases l with _ | a
  · exact ⟨none, rfl⟩
  obtain ⟨b, hb⟩ := h a rfl
  exact ⟨some b, map_eq_ok.mpr ⟨b, hb, rfl⟩⟩

lemma adjust_ok (henv : ∀ env ∈ c.env, 3 ≤ env.length) (hmounts : ∀ mounts ∈ c.volumeMounts, 2 ≤ mounts.length) :
    ∃ c', adjust rmq c = .ok c' := by
  obtain ⟨env, henv⟩ := sortIfSet_ok rmq.env fun env h => sortEnvVar_ok (henv env h)
  obtain ⟨mounts, hmounts⟩ := sortIfSet_ok rmq.volumeMounts fun mounts h => sortVolumeMounts_ok (hmounts mounts h)
  exact ⟨_, bind_eq_ok.mpr ⟨env, henv, bind_eq_ok.mpr ⟨mounts, hmounts, rfl⟩⟩⟩

section AtLeast

variable {α κ : Type} [DecidableEq κ] {key : α → κ} {update : α → α → α} {n : ℕ} {l o : Option (List α)}

def AtLeast (n : ℕ) (l : Option (List α)) : Prop := ∃ a, l = some a ∧ n ≤ a.length

omit [DecidableEq κ] in
lemma AtLeast.le (h : AtLeast n l) : ∀ a ∈ l, n ≤ a.length := by
  obtain ⟨a, rfl, ha⟩ := h
  rintro _ ⟨⟩
  exact ha

lemma AtLeast.mergeInOrder (h : AtLeast n l) : AtLeast n (mergeOption (mergeInOrder key update) l o) := by
  obtain ⟨a, rfl, ha⟩ := h
  cases o with
  | none => exact ⟨a, rfl, ha⟩
  | some b =>
    refine ⟨_, rfl, ha.trans ?_⟩
    rw [(mergeInOrder_perm _ _ _ _).length_eq]
    exact length_mergeBy _ _

end AtLeast

end First

section Patched

variable {merge : StrategicMergePatch} {podSpec override out : PodSpec}

lemma patchPodSpec_eq_ok : patchPodSpec merge podSpec override = .ok out ↔
    ∃ containers, overrideFirst (containerRabbitmq override.containers)
        (merge.podSpec podSpec override).containers = .ok containers ∧
      InRange override.initContainers (merge.podSpec podSpec override).initContainers ∧
      InRange override.containers containers ∧
      out = { merge.podSpec podSpec override with
        containers := clearFrom 0 override.containers containers
        initContainers := clearFrom 0 override.initContainers (merge.podSpec podSpec override).initContainers
        securityContext := if override.securityContext = some {} then none
          else (merge.podSpec podSpec override).securityContext } := by
  simp only [patchPodSpec, bind_eq_ok, resetSecurityContexts_zero]
  constructor
  · rintro ⟨containers, hfirst, initContainers, ⟨hinit, rfl⟩, reset, ⟨hrange, rfl⟩, h⟩
    cases h
    exact ⟨containers, hfirst, hinit, hrange, rfl⟩
  · rintro ⟨containers, hfirst, hinit, hrange, rfl⟩
    exact ⟨containers, hfirst, _, ⟨hinit, rfl⟩, _, ⟨hrange, rfl⟩, rfl⟩

lemma length_eq_of_contexts {cs cs' : List Container} (h : contexts cs = contexts cs') : cs.length = cs'.length := by
  simpa [contexts] using congrArg List.length h

theorem resets_by_name_iff (cluster : RabbitmqCluster) (annotations : StringMap) {containers : List Container}
    (hfirst : overrideFirst (containerRabbitmq override.containers)
      (merge.podSpec (podTemplateSpec cluster annotations).spec override).containers = .ok containers) :
    let merged := merge.podSpec (podTemplateSpec cluster annotations).spec override
    (∃ out, patchPodSpec merge (podTemplateSpec cluster annotations).spec override = .ok out ∧
      ResetByName override.containers merged.containers out.containers ∧
      ResetByName override.initContainers merged.initContainers out.initContainers) ↔
    Aligned override.containers merged.containers ∧ Aligned override.initContainers merged.initContainers := by
  intro merged
  have hcontexts : contexts containers = contexts merged.containers := overrideFirst_contexts hfirst
  have hrange : InRange override.containers containers ↔ InRange override.containers merged.containers := by
    rw [InRange, InRange, length_eq_of_contexts hcontexts]
  constructor
  · rintro ⟨out, hout, hreset, hinitReset⟩
    obtain ⟨containers', hfirst', hinit, hcs, rfl⟩ := patchPodSpec_eq_ok.mp hout
    obtain rfl := Except.ok.inj (hfirst.symm.trans hfirst')
    exact ⟨⟨hrange.mp hcs, (resetByName_iff hcontexts).mp hreset⟩, hinit, (resetByName_iff rfl).mp hinitReset⟩
  · rintro ⟨⟨hcs, hreset⟩, hinit, hinitReset⟩
    exact ⟨_, patchPodSpec_eq_ok.mpr ⟨containers, hfirst, hinit, hrange.mpr hcs, rfl⟩,
      (resetByName_iff hcontexts).mpr hreset, (resetByName_iff rfl).mpr hinitReset⟩

def withUpdater : RabbitmqCluster where
  name := "rabbit"
  ns := "default"
  spec.secretBackend.vault := some { defaultUserPath := "secret/rabbit", defaultUserUpdaterImage := some "updater" }

def resettingUpdater : PodSpec where
  containers := [{ name := "default-user-credential-updater", securityContext := some {} }]

theorem reset_hits_rabbitmq :
    (patchPodSpec strategicMergePatch (podTemplateSpec withUpdater {}).spec resettingUpdater).map
        (fun out => contexts out.containers) =
      .ok [("rabbitmq", none), ("default-user-credential-updater", some {})] := by
  decide +kernel

def resettingRabbitmq : PodSpec where
  containers := [{ name := "rabbitmq", securityContext := some {} }]

theorem reset_of_rabbitmq : ∃ out,
    patchPodSpec strategicMergePatch (podTemplateSpec withUpdater {}).spec resettingRabbitmq = .ok out ∧
      contexts out.containers = [("rabbitmq", none), ("default-user-credential-updater", none)] := by
  obtain ⟨containers, hfirst⟩ : ∃ containers, overrideFirst (containerRabbitmq resettingRabbitmq.containers)
      (strategicMergePatch.podSpec (podTemplateSpec withUpdater {}).spec resettingRabbitmq).containers =
        .ok containers := ⟨_, rfl⟩
  have haligned : Aligned resettingRabbitmq.containers
        (strategicMergePatch.podSpec (podTemplateSpec withUpdater {}).spec resettingRabbitmq).containers ∧
      Aligned resettingRabbitmq.initContainers
        (strategicMergePatch.podSpec (podTemplateSpec withUpdater {}).spec resettingRabbitmq).initContainers := by
    decide +kernel
  obtain ⟨out, hout, hreset, -⟩ := (resets_by_name_iff withUpdater {} hfirst).mpr haligned
  exact ⟨out, hout, hreset.trans (by decide +kernel)⟩

end Patched

section Rabbitmq

variable (cluster : RabbitmqCluster)

lemma operatorContainers_names : (operatorContainers cluster).map Container.name =
    "rabbitmq" :: if credentialUpdaterNeeded cluster then ["default-user-credential-updater"] else [] := by
  unfold operatorContainers
  split <;> rfl

lemma operatorContainers_nodup : ((operatorContainers cluster).map Container.name).Nodup := by
  rw [operatorContainers_names]
  split <;> decide

lemma eq_rabbitmq_of_idxOf_lt {x y : String} (hy : y ∈ (operatorContainers cluster).map Container.name)
    (hlt : ((operatorContainers cluster).map Container.name).idxOf x <
      ((operatorContainers cluster).map Container.name).idxOf y) : x = "rabbitmq" := by
  rw [operatorContainers_names] at hy hlt
  by_contra hne
  have hbound := List.idxOf_lt_length_of_mem hy
  have hlen : (if credentialUpdaterNeeded cluster then ["default-user-credential-updater"] else []).length ≤ 1 := by
    split <;> simp
  rw [List.idxOf_cons_ne _ (Ne.symm hne)] at hlt
  rw [List.length_cons] at hbound
  omega

variable (annotations : StringMap) {merge : StrategicMergePatch} {override : PodSpec} {rmq : Container}
  {merged out : List Container}

lemma merged_containers_nodup :
    ((merge.podSpec (podTemplateSpec cluster annotations).spec override).containers.map Container.name).Nodup := by
  rw [((merge.containers _ _).map Container.name).nodup_iff]
  exact mergeBy_keys_nodup mergeContainer_name (operatorContainers_nodup cluster)

lemma exists_merged_rabbitmq : ∃ c ∈ (merge.podSpec (podTemplateSpec cluster annotations).spec override).containers,
    c.name = "rabbitmq" := by
  simp only [(merge.containers _ _).mem_iff]
  exact (mergeBy_key mergeContainer_name).mpr (Or.inl ⟨rabbitmqContainer cluster, List.mem_cons_self, rfl⟩)

lemma adjust_merged_rabbitmq {c : Container}
    (hc : c ∈ (merge.podSpec (podTemplateSpec cluster annotations).spec override).containers)
    (hname : c.name = "rabbitmq") : ∃ c', adjust rmq c = .ok c' := by
  have hlong : ∀ c ∈ mergeBy Container.name mergeContainer (podTemplateSpec cluster annotations).spec.containers
      override.containers, c.name = "rabbitmq" → AtLeast 3 c.env ∧ AtLeast 2 c.volumeMounts := by
    refine mergeBy_of_base mergeContainer_name (fun b o _ _ hb => ?_)
      ⟨rabbitmqContainer cluster, List.mem_cons_self, rfl⟩ fun b hb hname => ?_
    · exact ⟨hb.1.mergeInOrder, hb.2.mergeInOrder⟩
    · rcases List.mem_cons.mp hb with rfl | hb
      · exact ⟨⟨_, rfl, by simp [envVarsK8sObjects]⟩, ⟨_, rfl, by simp [rabbitmqContainerVolumeMounts]⟩⟩
      · split at hb
        · obtain rfl := List.mem_singleton.mp hb
          change "default-user-credential-updater" = "rabbitmq" at hname
          exact absurd hname (by decide)
        · cases hb
  obtain ⟨henv, hmounts⟩ := hlong c ((merge.containers _ _).mem_iff.mp hc) hname
  exact adjust_ok henv.le hmounts.le

def ReachesRabbitmq (rmq : Container) (merged out : List Container) : Prop :=
  List.Forall₂ (fun c c' => if c.name = "rabbitmq" then (adjust rmq c).map cleared = .ok (cleared c')
    else cleared c' = cleared c) merged out

lemma cleared_clearFrom (os cs : List Container) : (clearFrom 0 os cs).map cleared = cs.map cleared := by
  refine List.ext_getElem? fun k => ?_
  rw [List.getElem?_map, List.getElem?_map, getElem?_clearFrom_zero]
  split
  · rw [Option.map_map]
    rfl
  · rfl

lemma reachesRabbitmq_congr {out' : List Container} (h : out.map cleared = out'.map cleared) :
    ReachesRabbitmq rmq merged out ↔ ReachesRabbitmq rmq merged out' := by
  have hmap (out : List Container) : ReachesRabbitmq rmq merged out ↔ List.Forall₂ (fun c d =>
      if c.name = "rabbitmq" then (adjust rmq c).map cleared = .ok d else d = cleared c) merged (out.map cleared) := by
    rw [List.forall₂_map_right_iff]
    rfl
  rw [hmap, hmap, h]

lemma map_cleared_adjust {c : Container} : (adjust rmq c).map cleared = .ok (cleared c) ↔ adjust rmq c = .ok c := by
  cases h : adjust rmq c with
  | error err => exact ⟨nofun, nofun⟩
  | ok c' =>
    simp only [Except.map, Except.ok.injEq]
    exact cleared_eq_cleared h

lemma forall₂_self {cs : List Container} : ReachesRabbitmq rmq cs cs ↔
    ∀ c ∈ cs, c.name = "rabbitmq" → adjust rmq c = .ok c := by
  rw [ReachesRabbitmq, List.forall₂_same]
  refine forall₂_congr fun c _ => ?_
  by_cases hname : c.name = "rabbitmq" <;> simp [hname, map_cleared_adjust]

lemma reachesRabbitmq_cons {c c' : Container} {cs : List Container} (hnodup : ((c :: cs).map Container.name).Nodup)
    (h : adjust rmq c = .ok c') : ReachesRabbitmq rmq (c :: cs) (c' :: cs) ↔
      c.name = "rabbitmq" ∨ c' = c ∧ ∀ d ∈ c :: cs, d.name = "rabbitmq" → adjust rmq d = .ok d := by
  have hcons : ReachesRabbitmq rmq (c :: cs) (c' :: cs) ↔
      (if c.name = "rabbitmq" then (adjust rmq c).map cleared = .ok (cleared c') else cleared c' = cleared c) ∧
        ReachesRabbitmq rmq cs cs := List.forall₂_cons
  rw [hcons, forall₂_self, cleared_eq_cleared h]
  by_cases hname : c.name = "rabbitmq"
  · have hrest : ∀ d ∈ cs, d.name = "rabbitmq" → adjust rmq d = .ok d := by
      intro d hd hdname
      have hnot := (List.nodup_cons.mp hnodup).1
      exact absurd (List.mem_map.mpr ⟨d, hd, hdname.trans hname.symm⟩) hnot
    simpa [hname, h, Except.map] using hrest
  · simp [hname]

theorem rabbitmq_override_reaches_iff
    (hcontainers : InRange override.containers
      (merge.podSpec (podTemplateSpec cluster annotations).spec override).containers)
    (hinit : InRange override.initContainers
      (merge.podSpec (podTemplateSpec cluster annotations).spec override).initContainers) :
    let rmq := containerRabbitmq override.containers
    let operator := (podTemplateSpec cluster annotations).spec
    let merged := (merge.podSpec operator override).containers
    ((∃ out, patchPodSpec merge operator override = .ok out ∧ ReachesRabbitmq rmq merged out.containers) ↔
      merged.head?.map Container.name = some "rabbitmq" ∨
        (∀ c ∈ merged.head?, Unaffected rmq c) ∧ ∀ c ∈ merged, c.name = "rabbitmq" → Unaffected rmq c) ∧
    (KeepsOrder (operator.containers.map Container.name) (override.containers.map Container.name)
        (merged.map Container.name) →
      (override.containers.map Container.name).Nodup → "rabbitmq" ∈ override.containers.map Container.name →
      (merged.head?.map Container.name = some "rabbitmq" ↔
        override.containers.head?.map Container.name = some "rabbitmq")) := by
  intro rmq operator merged
  have hnodup : (merged.map Container.name).Nodup := merged_containers_nodup cluster annotations
  have hadjust : ∀ c ∈ merged, c.name = "rabbitmq" → ∃ c', adjust rmq c = .ok c' :=
    fun c hc hname => adjust_merged_rabbitmq cluster annotations hc hname
  refine ⟨?_, fun horder hentries hrabbitmq => ?_⟩
  · have hpatch : (∃ out, patchPodSpec merge operator override = .ok out ∧
        ReachesRabbitmq rmq merged out.containers) ↔
        ∃ containers, overrideFirst rmq merged = .ok containers ∧ ReachesRabbitmq rmq merged containers := by
      constructor
      · rintro ⟨out, hout, hreaches⟩
        obtain ⟨containers, hfirst, -, -, rfl⟩ := patchPodSpec_eq_ok.mp hout
        exact ⟨containers, hfirst, (reachesRabbitmq_congr (cleared_clearFrom _ _)).mp hreaches⟩
      · rintro ⟨containers, hfirst, hreaches⟩
        have hrange : InRange override.containers containers := by
          rw [InRange, length_eq_of_contexts (overrideFirst_contexts hfirst)]
          exact hcontainers
        exact ⟨_, patchPodSpec_eq_ok.mpr ⟨containers, hfirst, hinit, hrange, rfl⟩,
          (reachesRabbitmq_congr (cleared_clearFrom _ _)).mpr hreaches⟩
    obtain ⟨c, cs, hmerged⟩ : ∃ c cs, merged = c :: cs := by
      obtain ⟨c, hc, -⟩ : ∃ c ∈ merged, c.name = "rabbitmq" := exists_merged_rabbitmq cluster annotations
      exact List.exists_cons_of_ne_nil (List.ne_nil_of_mem hc)
    rw [hpatch]
    rw [hmerged] at hnodup hadjust ⊢
    simp only [← adjust_eq_self, List.head?_cons, Option.map_some, Option.some.injEq, Option.mem_some_iff, forall_eq']
    constructor
    · rintro ⟨containers, hfirst, hreaches⟩
      obtain ⟨c', hc', rfl⟩ := overrideFirst_cons.mp hfirst
      refine ((reachesRabbitmq_cons hnodup hc').mp hreaches).imp_right ?_
      rintro ⟨rfl, hall⟩
      exact ⟨hc', hall⟩
    · intro h
      obtain ⟨c', hc'⟩ : ∃ c', adjust rmq c = .ok c' := by
        rcases h with hname | ⟨hc, -⟩
        · exact hadjust c List.mem_cons_self hname
        · exact ⟨c, hc⟩
      refine ⟨c' :: cs, overrideFirst_cons.mpr ⟨c', hc', rfl⟩, (reachesRabbitmq_cons hnodup hc').mpr ?_⟩
      refine h.imp_right ?_
      rintro ⟨hc, hall⟩
      exact ⟨Except.ok.inj (hc'.symm.trans hc), hall⟩
  · have hsub : ∀ k ∈ override.containers.map Container.name, k ∈ merged.map Container.name := by
      intro k hk
      obtain ⟨o, ho, hok⟩ := List.mem_map.mp hk
      obtain ⟨c, hc, hck⟩ := (mergeBy_key mergeContainer_name).mpr (Or.inr ⟨o, ho, hok⟩)
      exact List.mem_map.mpr ⟨c, (merge.containers _ _).mem_iff.mpr hc, hck⟩
    have hhead := horder.head?_eq hentries hsub hrabbitmq fun x y hy hlt =>
      (eq_rabbitmq_of_idxOf_lt cluster hy hlt).symm ▸ hrabbitmq
    rw [← List.head?_map, ← List.head?_map, hhead]

def probe : Probe where
  httpGet := some { path := "/health", port := "management" }
  periodSeconds := 60

def probing (before after : List Container) : PodSpec where
  containers := before ++ { name := "rabbitmq", readinessProbe := some probe } :: after

theorem probe_of_sidecar_overridden :
    (patchPodSpec strategicMergePatch (podTemplateSpec withUpdater {}).spec
        (probing [{ name := "sidecar" }] [])).map
      (fun out => out.containers.map fun c => (c.name, decide (c.readinessProbe = some probe))) =
      .ok [("sidecar", true), ("rabbitmq", false), ("default-user-credential-updater", false)] := by
  decide +kernel

theorem probe_of_rabbitmq_overridden : ∃ out,
    patchPodSpec strategicMergePatch (podTemplateSpec withUpdater {}).spec
        (probing [] [{ name := "sidecar" }]) = .ok out ∧
      ReachesRabbitmq (containerRabbitmq (probing [] [{ name := "sidecar" }]).containers)
        (strategicMergePatch.podSpec (podTemplateSpec withUpdater {}).spec
          (probing [] [{ name := "sidecar" }])).containers out.containers := by
  have hnone (cs : List Container) (hcs : ∀ c ∈ cs, c.securityContext = none) (merged : List Container) :
      InRange cs merged := by
    intro j hj
    obtain ⟨o, ho, hsc⟩ := resetAt_iff.mp hj
    rw [hcs o (List.mem_of_getElem? ho)] at hsc
    cases hsc
  obtain ⟨hreaches, hhead⟩ := @rabbitmq_override_reaches_iff withUpdater {} strategicMergePatch
    (probing [] [{ name := "sidecar" }]) (hnone _ (by decide) _) (hnone _ (by decide) _)
  refine hreaches.mpr (Or.inl ((hhead ?_ (by decide) (by decide)).mpr rfl))
  exact mergeInOrder_keepsOrder mergeContainer_name (operatorContainers_nodup withUpdater)

end Rabbitmq

end ClusterOperator.Resource
