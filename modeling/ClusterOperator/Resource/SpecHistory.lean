import ClusterOperator.Resource.PodUpdate
import ClusterOperator.Resource.VaultAnnotations

/-! One StatefulSet under a history of specs. `Update` starts from what the earlier specs have
left in the stored object. -/

namespace ClusterOperator.Resource

open Api Kubernetes

variable (cluster : RabbitmqCluster) (merge : StrategicMergePatch)

def withSpec (spec : RabbitmqClusterSpec) : RabbitmqCluster := { cluster with spec }

def applySpecs : StatefulSet → List RabbitmqClusterSpec → Except Err StatefulSet
  | sts, [] => .ok sts
  | sts, spec :: specs => do
    let sts ← StatefulSetBuilder.update (withSpec cluster spec) merge sts
    applySpecs sts specs

def history (earlier : List RabbitmqClusterSpec) (last : RabbitmqClusterSpec) : Except Err StatefulSet :=
  applySpecs cluster merge (StatefulSetBuilder.build (withSpec cluster (earlier.headD last))) (earlier ++ [last])

variable {cluster merge} {sts out : StatefulSet}

lemma applySpecs_append {specs specs' : List RabbitmqClusterSpec} :
    applySpecs cluster merge sts (specs ++ specs') = .ok out ↔
      ∃ mid, applySpecs cluster merge sts specs = .ok mid ∧ applySpecs cluster merge mid specs' = .ok out := by
  induction specs generalizing sts with
  | nil => simp [applySpecs]
  | cons spec specs ih =>
    simp only [List.cons_append, applySpecs, bind_eq_ok, ih]
    constructor
    · rintro ⟨a, ha, mid, hmid, hout⟩
      exact ⟨mid, ⟨a, ha, hmid⟩, hout⟩
    · rintro ⟨mid, ⟨a, ha, hmid⟩, hout⟩
      exact ⟨a, ha, mid, hmid, hout⟩

lemma applySpecs_foldl {β : Type} {f : StatefulSet → β} {g : β → RabbitmqClusterSpec → β}
    {specs : List RabbitmqClusterSpec}
    (hstep : ∀ spec ∈ specs, ∀ sts out,
      StatefulSetBuilder.update (withSpec cluster spec) merge sts = .ok out → f out = g (f sts) spec)
    (h : applySpecs cluster merge sts specs = .ok out) : f out = specs.foldl g (f sts) := by
  induction specs generalizing sts with
  | nil =>
    cases h
    rfl
  | cons spec specs ih =>
    obtain ⟨mid, hmid, hout⟩ := bind_eq_ok.mp h
    rw [List.foldl_cons, ← hstep spec List.mem_cons_self sts mid hmid]
    exact ih (fun s hs => hstep s (List.mem_cons_of_mem _ hs)) hout

section Override

def specOverride (spec : RabbitmqClusterSpec) : StatefulSetSpecOverride :=
  (spec.statefulSetOverride.bind StatefulSetOverride.spec).getD {}

def defaultRetentionPolicy : String := "WhenDeleted: Delete, WhenScaled: Retain"

lemma foldl_minReadySeconds (specs : List RabbitmqClusterSpec) (seconds : ℤ) :
    specs.foldl (fun seconds spec =>
        if (specOverride spec).minReadySeconds ≠ 0 then (specOverride spec).minReadySeconds else seconds) seconds = 0 ↔
      seconds = 0 ∧ ∀ spec ∈ specs, (specOverride spec).minReadySeconds = 0 := by
  induction specs generalizing seconds with
  | nil => simp
  | cons spec specs ih =>
    rw [List.foldl_cons, ih, List.forall_mem_cons, ← and_assoc]
    refine and_congr_left fun _ => ?_
    split
    next h => simp [h]
    next h => simp [not_not.mp h]

lemma foldl_getD {β γ : Type} (f : γ → Option β) (xs : List γ) (b : β) :
    xs.foldl (fun b x => (f x).getD b) b = (xs.filterMap f).getLast?.getD b := by
  induction xs generalizing b with
  | nil => rfl
  | cons x xs ih =>
    rw [List.foldl_cons, ih]
    cases hx : f x with
    | none => rw [List.filterMap_cons_none hx, Option.getD_none]
    | some v => simp [List.filterMap_cons_some hx, List.getLast?_cons]

lemma update_spec_fields {spec : RabbitmqClusterSpec}
    (h : StatefulSetBuilder.update (withSpec cluster spec) merge sts = .ok out) :
    out.replicas = desiredReplicas (withSpec cluster spec) ∧
      out.updateStrategy = (specOverride spec).updateStrategy.getD "RollingUpdate, Partition: 0" ∧
      out.minReadySeconds = (if (specOverride spec).minReadySeconds ≠ 0 then (specOverride spec).minReadySeconds
        else sts.minReadySeconds) ∧
      out.persistentVolumeClaimRetentionPolicy =
        (specOverride spec).persistentVolumeClaimRetentionPolicy.getD sts.persistentVolumeClaimRetentionPolicy := by
  obtain ⟨podSpec, metadata, -, -, rfl⟩ := StatefulSetBuilder.update_iff.mp h
  exact ⟨rfl, rfl, rfl, rfl⟩

lemma applySpecs_minReadySeconds {specs : List RabbitmqClusterSpec}
    (h : applySpecs cluster merge sts specs = .ok out) (hsts : sts.minReadySeconds = 0) :
    out.minReadySeconds = 0 ↔ ∀ spec ∈ specs, (specOverride spec).minReadySeconds = 0 := by
  have hfold := applySpecs_foldl (f := StatefulSet.minReadySeconds) (g := fun seconds spec =>
      if (specOverride spec).minReadySeconds ≠ 0 then (specOverride spec).minReadySeconds else seconds)
    (fun _ _ _ _ hu => (update_spec_fields hu).2.2.1) h
  rw [hfold, foldl_minReadySeconds, hsts, eq_self, true_and]

lemma applySpecs_retentionPolicy {specs : List RabbitmqClusterSpec}
    (h : applySpecs cluster merge sts specs = .ok out) :
    out.persistentVolumeClaimRetentionPolicy =
      (specs.filterMap fun spec => (specOverride spec).persistentVolumeClaimRetentionPolicy).getLast?.getD
        sts.persistentVolumeClaimRetentionPolicy := by
  rw [← foldl_getD]
  exact applySpecs_foldl (f := StatefulSet.persistentVolumeClaimRetentionPolicy)
    (fun _ _ _ _ hu => (update_spec_fields hu).2.2.2) h

theorem stale_override_iff (cluster : RabbitmqCluster) (merge : StrategicMergePatch)
    (earlier : List RabbitmqClusterSpec) (last : RabbitmqClusterSpec) {sts fresh : StatefulSet}
    (h : history cluster merge earlier last = .ok sts) (hfresh : history cluster merge [] last = .ok fresh) :
    (sts.replicas = fresh.replicas ∧ sts.updateStrategy = fresh.updateStrategy ∧
      sts.minReadySeconds = fresh.minReadySeconds ∧
      sts.persistentVolumeClaimRetentionPolicy = fresh.persistentVolumeClaimRetentionPolicy) ↔
    ((specOverride last).minReadySeconds ≠ 0 ∨ ∀ spec ∈ earlier, (specOverride spec).minReadySeconds = 0) ∧
      ((specOverride last).persistentVolumeClaimRetentionPolicy ≠ none ∨
        ∀ policy ∈ (earlier.filterMap fun spec =>
          (specOverride spec).persistentVolumeClaimRetentionPolicy).getLast?, policy = defaultRetentionPolicy) := by
  obtain ⟨stored, hstored, hlast⟩ := applySpecs_append.mp h
  obtain ⟨sts', hsts', hsts⟩ := bind_eq_ok.mp hlast
  obtain ⟨fresh', hfresh', hbuilt⟩ := bind_eq_ok.mp hfresh
  cases hsts
  cases hbuilt
  obtain ⟨hreplicas, hstrategy, hseconds, hpolicy⟩ := update_spec_fields hsts'
  obtain ⟨hreplicas', hstrategy', hseconds', hpolicy'⟩ := update_spec_fields hfresh'
  have hbefore := applySpecs_minReadySeconds hstored rfl
  have hretention := applySpecs_retentionPolicy hstored
  rw [hreplicas, hreplicas', hstrategy, hstrategy', hseconds, hseconds', hpolicy, hpolicy', ← hbefore, hretention]
  simp only [true_and]
  refine and_congr ?_ ?_
  · by_cases hzero : (specOverride last).minReadySeconds = 0
    · rw [if_neg (not_not.mpr hzero), if_neg (not_not.mpr hzero)]
      simp only [hzero, ne_eq, not_true_eq_false, false_or]
      rfl
    · simp [hzero]
  · cases (specOverride last).persistentVolumeClaimRetentionPolicy with
    | some policy => simp
    | none =>
      simp only [Option.getD_none, ne_eq, not_true_eq_false, false_or]
      cases (earlier.filterMap fun spec => (specOverride spec).persistentVolumeClaimRetentionPolicy).getLast? with
      | none => exact iff_of_true rfl (by simp)
      | some policy =>
        simp only [Option.getD_some, Option.mem_def, Option.some.injEq, forall_eq']
        rfl

def retainingSpec : RabbitmqClusterSpec where
  storage := 10
  statefulSetOverride := some { spec := some {
    minReadySeconds := 30, persistentVolumeClaimRetentionPolicy := some "WhenDeleted: Retain, WhenScaled: Retain" } }

def plainSpec : RabbitmqClusterSpec where
  storage := 10

def historyCluster : RabbitmqCluster where
  name := "rabbit"
  ns := "default"

def historyFields (earlier : List RabbitmqClusterSpec) (last : RabbitmqClusterSpec) : Option (ℤ × String) :=
  match history historyCluster strategicMergePatch earlier last with
  | .error _ => none
  | .ok sts => some (sts.minReadySeconds, sts.persistentVolumeClaimRetentionPolicy)

lemma historyFields_eq_some (earlier : List RabbitmqClusterSpec) (last : RabbitmqClusterSpec) {x : ℤ × String}
    (h : historyFields earlier last = some x) :
    ∃ sts, history historyCluster strategicMergePatch earlier last = .ok sts := by
  unfold historyFields at h
  split at h
  · cases h
  · exact ⟨_, ‹_›⟩

theorem removed_override_remembered :
    historyFields [retainingSpec] plainSpec = some (30, "WhenDeleted: Retain, WhenScaled: Retain") ∧
      historyFields [] plainSpec = some (0, "WhenDeleted: Delete, WhenScaled: Retain") := by
  decide +kernel

theorem changed_override_followed :
    ∃ sts fresh, history historyCluster strategicMergePatch [plainSpec] retainingSpec = .ok sts ∧
      history historyCluster strategicMergePatch [] retainingSpec = .ok fresh ∧
      sts.minReadySeconds = fresh.minReadySeconds := by
  have hfields : ∀ earlier ∈ [[plainSpec], []], historyFields earlier retainingSpec =
      some (30, "WhenDeleted: Retain, WhenScaled: Retain") := by
    decide +kernel
  obtain ⟨sts, h⟩ := historyFields_eq_some _ _ (hfields [plainSpec] (by simp))
  obtain ⟨fresh, hfresh⟩ := historyFields_eq_some _ _ (hfields [] (by simp))
  exact ⟨sts, fresh, h, hfresh, ((stale_override_iff _ _ _ _ h hfresh).mpr
    ⟨.inl (by decide), .inl (by decide)⟩).2.2.1⟩

end Override

end ClusterOperator.Resource
