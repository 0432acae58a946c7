import ClusterOperator.Controller.Deletion
import ClusterOperator.Scaling.Resumption

/-! Whether `Update` changes the claim templates of a StatefulSet that exists. The expansion of
the claims decides from the claims themselves whether it deletes the StatefulSet first. -/

namespace ClusterOperator.Controller

open Api Kubernetes Interaction Resource Scaling

section Kept

variable {rmq : RabbitmqCluster} {desiredCapacity : Quantity} {s : Store}

lemma quiet_disturb_statefulSet (t : {t // Quiet t}) (s : Store) :
    (quiet.disturb t s).statefulSet = none ∨ (quiet.disturb t s).statefulSet = s.statefulSet := by
  rcases quiet_disturb t s with h | ⟨h, -⟩
  · exact Or.inr (by rw [h])
  · exact Or.inl (by rw [h]; rfl)

lemma getPVCs_kept (is : List ℕ) (acc : List PersistentVolumeClaim) :
    Safe rmq desiredCapacity (getPVCs rmq is acc)
      (fun _ s' => s'.statefulSet = none ∨ s'.statefulSet = s.statefulSet) s := by
  induction is generalizing acc s with
  | nil => exact Or.inr rfl
  | cons i is ih =>
    have hnext (t : {t // Quiet t}) (acc : List PersistentVolumeClaim) :
        Safe rmq desiredCapacity (getPVCs rmq is acc)
          (fun _ s' => s'.statefulSet = none ∨ s'.statefulSet = s.statefulSet) (quiet.disturb t s) := by
      refine (ih acc).post fun _ s' h => ?_
      rcases h with h | h
      · exact Or.inl h
      · rw [h]
        exact quiet_disturb_statefulSet t s
    refine safe_getPvc fun t => ⟨?_, fun e he => ?_⟩
    · cases s.pvc (rmq.pvcName i) with
      | none => exact hnext t acc
      | some p => exact hnext t (acc ++ [p])
    · cases e with
      | notFound => exact absurd rfl he
      | _ => exact quiet_disturb_statefulSet t s

lemma expand_kept : Safe rmq desiredCapacity (expand rmq desiredCapacity) (fun r s' => r = .ok () →
    s'.statefulSet = none ∨ s'.statefulSet = s.statefulSet ∧ ¬NeedsScaling rmq desiredCapacity s) s := by
  have hlist : Safe rmq desiredCapacity (getClusterPVCs rmq) _ s := getPVCs_safe _ []
  have hlist' : Safe rmq desiredCapacity (getClusterPVCs rmq) _ s := getPVCs_kept _ []
  refine ((hlist.both hlist').mono (fun _ h => h) (fun _ _ h => h.1) (fun _ _ h => h)).bind
    fun r s₁ h₁ => ?_
  obtain ⟨⟨hpvc, hl, -⟩, hkept⟩ := h₁
  cases r with
  | error err => exact fun h => by cases h
  | ok l =>
    obtain rfl := hl l rfl
    change Safe _ _ (if toBeScaled rmq desiredCapacity s = [] then _ else _) _ s₁
    split_ifs with hnil
    · exact fun _ => hkept.imp_right fun h => ⟨h, fun hneeds => needsScaling_iff.mp hneeds hnil⟩
    · have hneeds : NeedsScaling rmq desiredCapacity s₁ := by
        rw [NeedsScaling, hpvc]
        exact needsScaling_iff.mpr hnil
      refine (deleteSts_safe hneeds).bind fun r s₂ h₂ => ?_
      cases r with
      | error err => exact fun h => by cases h
      | ok _ =>
        refine (scaleUpPVCs_safe _ (h₂.2 rfl) toBeScaled_names_nodup ?_).post ?_
        · intro p hp
          obtain ⟨hd, i, hi, hs⟩ := mem_toBeScaled.mp hp
          exact ⟨hd, i, hi, s.pvc_name _ p hs, (h₂.1.trans hpvc) ▸ hs⟩
        · exact fun r s' hpost hr => Or.inl (hpost.1 hr).1

lemma scale_kept : Safe rmq desiredCapacity (scale rmq desiredCapacity) (fun r s' => r = .ok () →
    ∀ sts ∈ s'.statefulSet, s.statefulSet = some sts ∧ ¬NeedsScaling rmq desiredCapacity s ∧
      unsupported (persistenceStorageCapacity sts.volumeClaimTemplates) desiredCapacity = none) s := by
  have hexpand (t : {t // Quiet t}) : Safe rmq desiredCapacity (expand rmq desiredCapacity)
      (fun r s' => r = .ok () → ∀ sts ∈ s'.statefulSet, (quiet.disturb t s).statefulSet = some sts ∧
        s.statefulSet = some sts ∧ ¬NeedsScaling rmq desiredCapacity s) (quiet.disturb t s) := by
    refine expand_kept.post fun r s' h hr sts hsts => ?_
    rcases h hr with h | ⟨h, hneeds⟩
    · rw [h] at hsts
      cases hsts
    · rw [h] at hsts
      rcases quiet_disturb_statefulSet t s with hs | hs
      · rw [hs] at hsts
        cases hsts
      · exact ⟨hsts, hs ▸ hsts, by simpa [NeedsScaling] using hneeds⟩
  refine safe_getStatefulSet fun t => ⟨?_, fun e he => ?_⟩
  · cases ho : (quiet.disturb t s).statefulSet with
    | none =>
      refine (hexpand t).post fun r s' h hr sts hsts => ?_
      rw [(h hr sts hsts).1] at ho
      cases ho
    | some o =>
      change Safe _ _ (scaleFrom rmq desiredCapacity (.ok _)) _ _
      simp only [scaleFrom]
      split
      · exact fun h => by cases h
      · rename_i hguards
        refine (hexpand t).post fun r s' h hr sts hsts => ?_
        obtain ⟨hsts', hs, hneeds⟩ := h hr sts hsts
        rw [ho] at hsts'
        cases hsts'
        exact ⟨hs, hneeds, hguards⟩
  · change Safe _ _ (scaleFrom rmq desiredCapacity (.error e)) _ _
    cases e with
    | notFound => exact absurd rfl he
    | _ => exact fun h => by cases h

def still : {t // Quiet t} := ⟨{}, by simp [Quiet]⟩

lemma getPVCs_still (is : List ℕ) (acc : List PersistentVolumeClaim) (s : Store) :
    complete quiet still (getPVCs rmq is acc) s =
      (.ok (acc ++ is.filterMap fun i => s.pvc (rmq.pvcName i)), s) := by
  induction is generalizing acc with
  | nil => simp [getPVCs, complete]
  | cons i is ih =>
    have hget : complete quiet still (Client.getPvc (rmq.pvcName i)) s =
      (found (s.pvc (rmq.pvcName i)), s) := rfl
    rw [getPVCs, complete_bind, hget]
    cases hp : s.pvc (rmq.pvcName i) with
    | none => simpa [found, hp] using ih acc
    | some p => simpa [found, hp] using ih (acc ++ [p])

lemma scale_still {sts : StatefulSet} (hs : s.statefulSet = some sts)
    (hguards : unsupported (persistenceStorageCapacity sts.volumeClaimTemplates) desiredCapacity = none)
    (hneeds : ¬NeedsScaling rmq desiredCapacity s) :
    complete quiet still (scale rmq desiredCapacity) s = (.ok (), s) := by
  have hget : complete quiet still Client.getStatefulSet s = (found s.statefulSet, s) := rfl
  have hnil : toBeScaled rmq desiredCapacity s = [] := by
    by_contra h
    exact hneeds (needsScaling_iff.mpr h)
  rw [scale, existingCapacity, complete_bind, complete_bind, hget, hs]
  change complete quiet still (scaleFrom rmq desiredCapacity (.ok _)) s = _
  simp only [scaleFrom, hguards]
  rw [expand, complete_bind, getClusterPVCs, getPVCs_still]
  change complete quiet still (if toBeScaled rmq desiredCapacity s = [] then _ else _) s = _
  rw [if_pos hnil]
  rfl

end Kept

section Capacity

variable {cluster : RabbitmqCluster}

lemma persistenceStorageCapacity_update (templates : List ClaimTemplate) (capacity : Quantity) :
    persistenceStorageCapacity (updatePersistenceStorageCapacity templates capacity) = capacity ∨
      persistenceStorageCapacity (updatePersistenceStorageCapacity templates capacity) = 0 ∧
        persistenceStorageCapacity templates = 0 := by
  simp only [persistenceStorageCapacity, find?_updatePersistenceStorageCapacity]
  cases templates.find? (fun t => t.name = "persistence") with
  | none => exact Or.inr ⟨rfl, rfl⟩
  | some t => exact Or.inl rfl

def capacity (sts : StatefulSet) : Quantity := persistenceStorageCapacity sts.volumeClaimTemplates

def builtCapacity (cluster : RabbitmqCluster) : Quantity :=
  persistenceStorageCapacity (desiredClaims cluster (persistentVolumeClaim cluster))

lemma builtCapacity_of_default (h : (statefulSetSpecOverride cluster).filter (overridesClaims cluster) = none) :
    builtCapacity cluster = cluster.spec.storage := by
  simp only [builtCapacity, desiredClaims, h]
  by_cases hz : cluster.spec.storage = 0
  · simp [persistentVolumeClaim, hz, updatePersistenceStorageCapacity, persistenceStorageCapacity]
  · simp [persistentVolumeClaim, hz, updatePersistenceStorageCapacity, persistenceStorageCapacity]

lemma builtCapacity_of_override {o : StatefulSetSpecOverride}
    (h : (statefulSetSpecOverride cluster).filter (overridesClaims cluster) = some o) :
    builtCapacity cluster = persistenceStorageCapacity o.volumeClaimTemplates := by
  simp only [builtCapacity, desiredClaims, h]
  exact persistenceStorageCapacity_controller _ _

lemma persistenceStorageCapacity_desiredClaims (templates : List ClaimTemplate) :
    persistenceStorageCapacity (desiredClaims cluster templates) = builtCapacity cluster ∨
      persistenceStorageCapacity (desiredClaims cluster templates) = 0 ∧
        persistenceStorageCapacity templates = 0 := by
  cases h : (statefulSetSpecOverride cluster).filter (overridesClaims cluster) with
  | some o => exact Or.inl (by simp only [builtCapacity, desiredClaims, h])
  | none =>
    rw [builtCapacity_of_default h]
    simp only [desiredClaims, h]
    exact persistenceStorageCapacity_update templates _

lemma builtCapacity_congr {c c' : RabbitmqCluster} (h : c'.spec = c.spec) :
    builtCapacity c' = builtCapacity c := by
  have hclaims : overridesClaims c' = overridesClaims c := by
    funext o
    rw [overridesClaims, overridesClaims, h]
  have hoverride : (statefulSetSpecOverride c').filter (overridesClaims c') =
      (statefulSetSpecOverride c).filter (overridesClaims c) := by
    rw [hclaims, statefulSetSpecOverride, statefulSetSpecOverride, h]
  cases ho : (statefulSetSpecOverride c).filter (overridesClaims c) with
  | none => rw [builtCapacity_of_default ho, builtCapacity_of_default (hoverride.trans ho), h]
  | some o => rw [builtCapacity_of_override ho, builtCapacity_of_override (hoverride.trans ho)]

lemma builtCapacity_sanitizeOverride (c : RabbitmqCluster) :
    builtCapacity { c with spec := sanitizeOverride c.spec } = builtCapacity c := by
  have hspec : statefulSetSpecOverride { c with spec := sanitizeOverride c.spec } =
      (statefulSetSpecOverride c).map sanitizeTemplate := by
    rcases ho : c.spec.statefulSetOverride with _ | ⟨metadata, _ | o⟩ <;>
      simp [statefulSetSpecOverride, sanitizeOverride, modifyOverride, ho]
  have hoverride : (statefulSetSpecOverride { c with spec := sanitizeOverride c.spec }).filter
        (overridesClaims { c with spec := sanitizeOverride c.spec }) =
      ((statefulSetSpecOverride c).filter (overridesClaims c)).map sanitizeTemplate := by
    rw [hspec, Option.filter_map]
    rfl
  cases ho : (statefulSetSpecOverride c).filter (overridesClaims c) with
  | none =>
    rw [ho] at hoverride
    rw [builtCapacity_of_default ho, builtCapacity_of_default hoverride]
    rfl
  | some o =>
    rw [ho] at hoverride
    rw [builtCapacity_of_override ho, builtCapacity_of_override hoverride]
    rfl

end Capacity

section Update

variable {r : Reconciler} {before after m : Memory} {sts stored updated : StatefulSet}

lemma capacity_built (hshares : before.sharesClaims = false)
    (h : updateStatefulSet r false before (StatefulSetBuilder.build before.cluster) = (after, .ok sts)) :
    capacity sts = builtCapacity before.cluster ∧
      after.cluster.spec = sanitizeOverride before.cluster.spec := by
  simp only [updateStatefulSet, StatefulSetBuilder.updateInMemory, hshares, Bool.false_and, Bool.false_eq_true,
    if_false, Prod.mk.injEq] at h
  obtain ⟨rfl, h⟩ := h
  refine ⟨?_, rfl⟩
  rw [capacity, (StatefulSetBuilder.update_updated h).volumeClaimTemplates]
  rfl

lemma capacity_updated (h : (updateStatefulSet r true m stored).2 = .ok updated) :
    capacity updated = builtCapacity m.cluster ∨ capacity updated = 0 ∧ capacity stored = 0 := by
  simp only [updateStatefulSet, StatefulSetBuilder.updateInMemory, Bool.not_true, Bool.and_false,
    Bool.false_eq_true, if_false] at h
  rw [capacity, (StatefulSetBuilder.update_updated h).volumeClaimTemplates]
  exact persistenceStorageCapacity_desiredClaims _

/-- The StatefulSet is built and updated once for the guards (`sts`). They leave in memory the
spec that this `Update` left there, or the one that was read again from the server. -/
theorem claimTemplate_kept_iff {s : Store} (hshares : before.sharesClaims = false)
    (hbuilt : updateStatefulSet r false before (StatefulSetBuilder.build before.cluster) = (after, .ok sts))
    (hm : m.cluster.spec = before.cluster.spec ∨ m.cluster.spec = after.cluster.spec)
    (hs : s.statefulSet = some stored) (hupdated : (updateStatefulSet r true m stored).2 = .ok updated) :
    (∀ ts, (run quiet (reconcilePVC m sts) ts s).result = some (.ok ()) →
      ∀ stored ∈ (run quiet (reconcilePVC m sts) ts s).final.statefulSet,
        ∀ updated, (updateStatefulSet r true m stored).2 = .ok updated → capacity updated = capacity stored) ↔
    capacity sts = capacity stored ∨ (unsupported (capacity stored) (capacity sts)).isSome ∨
      NeedsScaling m.cluster (capacity sts) s := by
  obtain ⟨hcapacity, hafter⟩ := capacity_built hshares hbuilt
  have hbuilt : builtCapacity m.cluster = builtCapacity before.cluster := by
    rcases hm with h | h
    · exact builtCapacity_congr h
    · rw [← builtCapacity_sanitizeOverride before.cluster]
      exact builtCapacity_congr (h.trans hafter)
  rw [← hbuilt] at hcapacity
  constructor
  · intro h
    by_contra hcond
    obtain ⟨hne, hguards, hneeds⟩ : capacity sts ≠ capacity stored ∧
        unsupported (capacity stored) (capacity sts) = none ∧ ¬NeedsScaling m.cluster (capacity sts) s := by
      simpa using hcond
    obtain ⟨n, hresult, hfinal⟩ := complete_eq_run quiet still (reconcilePVC m sts) s
    have hstill : complete quiet still (reconcilePVC m sts) s = (.ok (), s) := scale_still hs hguards hneeds
    rw [hstill] at hresult hfinal
    have heq := h _ hresult stored (by rw [hfinal, hs]; rfl) updated hupdated
    rcases capacity_updated hupdated with hu | ⟨-, hzero⟩
    · exact hne (by rw [hcapacity, ← hu, heq])
    · have hpassed : ¬(capacity stored = 0 ∧ capacity sts ≠ 0) := fun h => by simp [unsupported, h] at hguards
      exact hpassed ⟨hzero, fun h => hne (h.trans hzero.symm)⟩
  · intro hcond ts hresult kept hkept updated hupdated
    obtain ⟨hs', hneeds, hguards⟩ := (scale_kept.sound ts fun _ _ => trivial).2 _ hresult rfl kept hkept
    rw [hs] at hs'
    cases hs'
    have heq : capacity sts = capacity stored := by
      rcases hcond with h | h | h
      · exact h
      · rw [show unsupported (capacity stored) (capacity sts) = none from hguards] at h
        cases h
      · exact absurd h hneeds
    rcases capacity_updated hupdated with hu | ⟨hu, hzero⟩
    · rw [hu, ← hcapacity, heq]
    · rw [hu, hzero]

def storageMemory (storage : Quantity) : Memory where
  cluster := { name := "rabbit", spec := { replicas := 1, storage } }

def tenStatefulSet : StatefulSet where
  metadata.resourceVersion := 1
  replicas := 1
  volumeClaimTemplates := [{ name := "persistence", storage := some 10 }]

def unclaimedStore : Store := Store.empty.putStatefulSet tenStatefulSet

def rewrites (e : Event api Store) : Bool :=
  match e.request with
  | .updateStatefulSet o => e.before.statefulSet.any fun stored => capacity stored = 10 ∧ capacity o = 20
  | _ => false

theorem claimTemplate_rewritten :
    ∃ e ∈ (run quiet (statefulSetTurn plainReconciler (storageMemory 20)) (List.replicate 6 still)
      unclaimedStore).trace, rewrites e = true := by
  decide +kernel

theorem claimTemplate_unchanged :
    let update := updateStatefulSet plainReconciler true (storageMemory 10)
    let sts := (updateStatefulSet plainReconciler false (storageMemory 10)
      (StatefulSetBuilder.build (storageMemory 10).cluster)).2.toOption.getD {}
    let o := run quiet (reconcilePVC (storageMemory 10) sts) (List.replicate 2 still) unclaimedStore
    o.final.statefulSet = some tenStatefulSet ∧
      ∀ updated, (update tenStatefulSet).2 = .ok updated → capacity updated = capacity tenStatefulSet := by
  intro update sts o
  obtain ⟨updated, hupdated⟩ : ∃ updated, (update tenStatefulSet).2 = .ok updated := ⟨_, rfl⟩
  have hbuilt : updateStatefulSet plainReconciler false (storageMemory 10)
      (StatefulSetBuilder.build (storageMemory 10).cluster) = (_, .ok sts) := rfl
  have hkept := (claimTemplate_kept_iff (s := unclaimedStore) rfl hbuilt (Or.inl rfl) rfl hupdated).mpr
    (Or.inl rfl)
  exact ⟨rfl, hkept (List.replicate 2 still) rfl tenStatefulSet rfl⟩

end Update

end ClusterOperator.Controller
