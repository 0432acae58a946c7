import ClusterOperator.Controller.SpecFrame
import ClusterOperator.Interaction.Exchange

namespace ClusterOperator.Controller

open Api Kubernetes Interaction Resource

def execTarget : Exchange api → Option String
  | ⟨.exec pod _, _⟩ => some pod
  | _ => none

def execTargets (xs : List (Exchange api)) : List String := xs.filterMap execTarget

@[simp] lemma execTargets_nil : execTargets [] = [] := rfl

@[simp] lemma execTargets_append (xs ys : List (Exchange api)) :
    execTargets (xs ++ ys) = execTargets xs ++ execTargets ys :=
  List.filterMap_append

lemma append_subset_append {as as' bs bs' : List String} (ha : as ⊆ as') (hb : bs ⊆ bs') :
    as ++ bs ⊆ as' ++ bs' :=
  List.append_subset.mpr ⟨List.subset_append_of_subset_left _ ha, List.subset_append_of_subset_right _ hb⟩

def pluginsPods (rmq : RabbitmqCluster) (pluginsConfig : DataObject) : List String :=
  if (pluginsConfig.metadata.annotations.get? pluginsUpdateAnnotation).getD "" ≠ "" then serverPods rmq else []

def flagsPods (rmq : RabbitmqCluster) (sts : StatefulSet) : List String :=
  if (sts.metadata.annotations.get? stsCreateAnnotation).getD "" ≠ "" ||
      rmq.spec.autoEnableAllFeatureFlags then [rmq.childResourceName "server" ++ "-0"]
  else []

def rebalancePods (rmq : RabbitmqCluster) : List String :=
  if (rmq.annotations.get? queueRebalanceAnnotation).getD "" ≠ "" then [rmq.childResourceName "server" ++ "-0"]
  else []

def targets (rmq : RabbitmqCluster) (sts : StatefulSet) (pluginsConfig : DataObject) : List String :=
  pluginsPods rmq pluginsConfig ++ (flagsPods rmq sts ++ rebalancePods rmq)

def Reads (sts : StatefulSet) (pluginsConfig : DataObject) (xs : List (Exchange api)) : Prop :=
  ∃ ys, xs = ⟨.getStatefulSet, .ok sts⟩ :: ⟨.getChild .pluginsConf, .ok pluginsConfig⟩ :: ys

section Ensured

variable {α : Type} (client : Kubernetes.Resource α)

lemma deleteAnnotation_targets (hupdate : ∀ o, Ensures (client.update o) fun xs _ => execTargets xs = [])
    (key : String) (obj : α) :
    Ensures (p := deleteAnnotation client key obj) fun xs _ => execTargets xs = [] := by
  unfold deleteAnnotation
  split
  · rfl
  · refine (hupdate _).bind fun xs reply hxs => ?_
    cases reply with
    | error e => simpa [Ensures] using hxs
    | ok o => simpa [Ensures] using hxs

lemma setPlugins_targets (pods : List String) (command : String) :
    Ensures (setPlugins pods command) fun xs _ => execTargets xs ⊆ pods := by
  induction pods with
  | nil => exact List.Subset.refl _
  | cons pod pods ih =>
    intro reply
    cases reply with
    | error e => exact List.cons_subset_cons pod (List.nil_subset pods)
    | ok _ => exact ih.mono fun xs _ h => List.cons_subset_cons pod h

lemma setPluginsIfAnnotated_targets (m : Memory) (cfg : DataObject) :
    Ensures (setPluginsIfAnnotated m cfg) fun xs _ => execTargets xs ⊆ pluginsPods m.cluster cfg := by
  unfold setPluginsIfAnnotated pluginsPods
  split
  · refine (setPlugins_targets _ _).bind fun xs err hxs => ?_
    cases err with
    | some err => simpa using hxs
    | none =>
      refine (deleteAnnotation_targets (Client.children .pluginsConf) (fun _ _ => rfl) _ _).bind
        fun ys x hys => ?_
      simpa [hys] using hxs
  · exact List.Subset.refl _

lemma enableFeatureFlagsIfNeeded_targets (m : Memory) (sts : StatefulSet) :
    Ensures (enableFeatureFlagsIfNeeded m sts) fun xs _ => execTargets xs ⊆ flagsPods m.cluster sts := by
  unfold enableFeatureFlagsIfNeeded flagsPods
  split
  · intro reply
    cases reply with
    | error e => exact List.Subset.refl _
    | ok _ =>
      refine (deleteAnnotation_targets Client.statefulSets (fun _ _ => rfl) _ _).bind
        fun ys x hys => ?_
      exact List.cons_subset_cons _ (show execTargets (ys ++ []) ⊆ [] by simp [hys])
  · exact List.Subset.refl _

lemma rebalanceQueuesIfAnnotated_targets (m : Memory) :
    Ensures (rebalanceQueuesIfAnnotated m) fun xs _ => execTargets xs ⊆ rebalancePods m.cluster := by
  unfold rebalanceQueuesIfAnnotated rebalancePods
  split
  · intro reply
    cases reply with
    | error e => exact List.Subset.refl _
    | ok _ =>
      refine (deleteAnnotation_targets Client.clusters (fun _ _ => rfl) _ _).bind
        fun ys x hys => ?_
      exact List.cons_subset_cons _ (show execTargets (ys ++ []) ⊆ [] by simp [hys])
  · exact List.Subset.refl _

lemma runCommands_targets (m : Memory) (sts : StatefulSet) (cfg : DataObject) :
    Ensures (runCommands m sts cfg) fun xs _ => execTargets xs ⊆ targets m.cluster sts cfg := by
  refine (setPluginsIfAnnotated_targets m cfg).bind fun xs err hxs => ?_
  cases err with
  | some err =>
    change execTargets (xs ++ []) ⊆ _
    rw [List.append_nil]
    exact List.subset_append_of_subset_left _ hxs
  | none =>
    refine (enableFeatureFlagsIfNeeded_targets m sts).bind fun ys err hys => ?_
    cases err with
    | some err =>
      change execTargets (xs ++ (ys ++ [])) ⊆ _
      rw [List.append_nil, execTargets_append]
      exact append_subset_append hxs (List.subset_append_of_subset_left _ hys)
    | none =>
      refine (rebalanceQueuesIfAnnotated_targets m).mono fun zs _ hzs => ?_
      rw [execTargets_append, execTargets_append]
      exact append_subset_append hxs (append_subset_append hys hzs)

lemma pluginsConfigUpdatedRecently_targets (cfg : DataObject) :
    Ensures (pluginsConfigUpdatedRecently cfg) fun xs _ => execTargets xs = [] := by
  unfold pluginsConfigUpdatedRecently
  split
  · rfl
  · exact fun reply => by cases reply <;> rfl

lemma runRabbitmqCLICommandsIfAnnotated_targets (m : Memory) :
    Ensures (runRabbitmqCLICommandsIfAnnotated m) fun xs _ => execTargets xs ≠ [] →
      ∃ sts cfg, Reads sts cfg xs ∧ allReplicasReadyAndUpdated sts = true ∧
        execTargets xs ⊆ targets m.cluster sts cfg := by
  intro reply
  cases reply with
  | error e => exact fun h => absurd rfl h
  | ok sts =>
    change Ensures (I := api) (if _ then _ else _) _
    split
    next hready =>
      intro reply
      rcases reply with (_ | _ | _ | message) | cfg
      · exact fun h => absurd rfl h
      · exact fun h => absurd rfl h
      · exact fun h => absurd rfl h
      · exact fun h => absurd rfl h
      · refine (pluginsConfigUpdatedRecently_targets cfg).bind fun xs recent hxs => ?_
        rcases recent with err | _ | _
        · exact fun h => absurd (show execTargets (xs ++ []) = [] by simpa using hxs) h
        · refine (runCommands_targets m sts cfg).bind fun ys x hys _ => ?_
          refine ⟨sts, cfg, ⟨_, rfl⟩, hready, ?_⟩
          change execTargets (xs ++ (ys ++ [])) ⊆ _
          rwa [List.append_nil, execTargets_append, hxs]
        · exact fun h => absurd (show execTargets (xs ++ []) = [] by simpa using hxs) h
    next => exact fun h => absurd rfl h

end Ensured

section Admitted

variable {α : Type} (client : Kubernetes.Resource α)

lemma deleteAnnotation_admits (hupdate : ∀ o, Admits (client.update o) fun _ reply => ∃ o', reply = .ok o')
    (key : String) (obj : α) :
    Admits (p := deleteAnnotation client key obj) fun _ x => x.1 = none := by
  unfold deleteAnnotation
  split
  · rfl
  · refine (hupdate _).bind fun xs reply h => ?_
    obtain ⟨o, rfl⟩ := h
    rfl

lemma setPlugins_admits (pods : List String) (command : String) :
    Admits (setPlugins pods command) fun xs err => err = none ∧ pods ⊆ execTargets xs := by
  induction pods with
  | nil => exact ⟨rfl, List.Subset.refl _⟩
  | cons pod pods ih => exact ⟨.ok "", ih.mono fun xs err h => ⟨h.1, List.cons_subset_cons pod h.2⟩⟩

lemma setPluginsIfAnnotated_admits (m : Memory) (cfg : DataObject) :
    Admits (setPluginsIfAnnotated m cfg) fun xs err => err = none ∧ pluginsPods m.cluster cfg ⊆ execTargets xs := by
  unfold setPluginsIfAnnotated pluginsPods
  split
  · refine (setPlugins_admits _ _).bind fun xs err h => ?_
    obtain ⟨rfl, hxs⟩ := h
    refine (deleteAnnotation_admits (Client.children .pluginsConf) (fun o => ⟨.ok o, o, rfl⟩) _ _).bind
      fun ys x hx => ?_
    exact ⟨hx, by simpa using List.subset_append_of_subset_left _ hxs⟩
  · exact ⟨rfl, List.Subset.refl _⟩

lemma enableFeatureFlagsIfNeeded_admits (m : Memory) (sts : StatefulSet) :
    Admits (enableFeatureFlagsIfNeeded m sts) fun xs err =>
      err = none ∧ flagsPods m.cluster sts ⊆ execTargets xs := by
  unfold enableFeatureFlagsIfNeeded flagsPods
  split
  · refine ⟨.ok "", ?_⟩
    refine (deleteAnnotation_admits Client.statefulSets (fun o => ⟨.ok o, o, rfl⟩) _ _).bind
      fun ys x hx => ?_
    exact ⟨hx, List.cons_subset_cons _ (List.nil_subset _)⟩
  · exact ⟨rfl, List.Subset.refl _⟩

lemma rebalanceQueuesIfAnnotated_admits (m : Memory) :
    Admits (rebalanceQueuesIfAnnotated m) fun xs _ => rebalancePods m.cluster ⊆ execTargets xs := by
  unfold rebalanceQueuesIfAnnotated rebalancePods
  split
  · refine ⟨.ok "", ?_⟩
    refine (deleteAnnotation_admits Client.clusters (fun o => ⟨.ok o, o, rfl⟩) _ _).bind
      fun ys x hx => ?_
    exact List.cons_subset_cons _ (List.nil_subset _)
  · exact List.Subset.refl _

lemma runCommands_admits (m : Memory) (sts : StatefulSet) (cfg : DataObject) :
    Admits (runCommands m sts cfg) fun xs _ => targets m.cluster sts cfg ⊆ execTargets xs := by
  refine (setPluginsIfAnnotated_admits m cfg).bind fun xs err h => ?_
  obtain ⟨rfl, hxs⟩ := h
  refine (enableFeatureFlagsIfNeeded_admits m sts).bind fun ys err h => ?_
  obtain ⟨rfl, hys⟩ := h
  refine (rebalanceQueuesIfAnnotated_admits m).mono fun zs _ hzs => ?_
  rw [execTargets_append, execTargets_append]
  exact append_subset_append hxs (append_subset_append hys hzs)

lemma pluginsConfigUpdatedRecently_admits (cfg : DataObject) :
    Admits (pluginsConfigUpdatedRecently cfg) fun _ recent => recent = .ok false := by
  unfold pluginsConfigUpdatedRecently
  split
  · rfl
  · exact ⟨some 60, rfl⟩

lemma runRabbitmqCLICommandsIfAnnotated_admits (m : Memory) {sts : StatefulSet} (cfg : DataObject)
    (hready : allReplicasReadyAndUpdated sts = true) :
    Admits (runRabbitmqCLICommandsIfAnnotated m) fun xs _ =>
      Reads sts cfg xs ∧ targets m.cluster sts cfg ⊆ execTargets xs := by
  refine ⟨.ok sts, ?_⟩
  change Admits (I := api) (if _ then _ else _) _
  rw [if_pos hready]
  refine ⟨.ok cfg, (pluginsConfigUpdatedRecently_admits cfg).bind fun xs recent h => ?_⟩
  subst h
  refine (runCommands_admits m sts cfg).bind fun ys x hys => ?_
  refine ⟨⟨_, rfl⟩, ?_⟩
  change _ ⊆ execTargets (xs ++ (ys ++ []))
  rw [List.append_nil, execTargets_append]
  exact List.subset_append_of_subset_right _ hys

end Admitted

lemma serverPod_injective (rmq : RabbitmqCluster) :
    Function.Injective fun i : ℕ => rmq.childResourceName "server" ++ "-" ++ toString i := fun _ _ h =>
  Text.toString_nat_injective ((String.append_right_inj _).mp h)

lemma serverPod_zero (rmq : RabbitmqCluster) :
    rmq.childResourceName "server" ++ "-0" = rmq.childResourceName "server" ++ "-" ++ toString 0 := by
  rw [String.append_assoc]
  rfl

def PodOf (rmq : RabbitmqCluster) (sts : StatefulSet) (pod : String) : Prop :=
  ∃ i : ℕ, (i : ℤ) < sts.replicas ∧ pod = rmq.childResourceName "server" ++ "-" ++ toString i

lemma podOf_iff {rmq : RabbitmqCluster} {sts : StatefulSet} {i : ℕ} :
    PodOf rmq sts (rmq.childResourceName "server" ++ "-" ++ toString i) ↔ (i : ℤ) < sts.replicas := by
  refine ⟨?_, fun h => ⟨i, h, rfl⟩⟩
  rintro ⟨j, hj, h⟩
  rwa [serverPod_injective rmq h]

lemma podOf_zero_iff {rmq : RabbitmqCluster} {sts : StatefulSet} :
    PodOf rmq sts (rmq.childResourceName "server" ++ "-0") ↔ 0 < sts.replicas := by
  rw [serverPod_zero, podOf_iff, Nat.cast_zero]

lemma podOf_targets_iff {rmq : RabbitmqCluster} {sts : StatefulSet} {cfg : DataObject} :
    (∀ pod ∈ targets rmq sts cfg, PodOf rmq sts pod) ↔
      ((cfg.metadata.annotations.get? pluginsUpdateAnnotation).getD "" ≠ "" →
        ∀ i < rmq.spec.replicas.val, (i : ℤ) < sts.replicas) ∧
      ((sts.metadata.annotations.get? stsCreateAnnotation).getD "" ≠ "" ∨
        rmq.spec.autoEnableAllFeatureFlags = true → 0 < sts.replicas) ∧
      ((rmq.annotations.get? queueRebalanceAnnotation).getD "" ≠ "" → 0 < sts.replicas) := by
  have hplugins : (∀ pod ∈ pluginsPods rmq cfg, PodOf rmq sts pod) ↔
      ((cfg.metadata.annotations.get? pluginsUpdateAnnotation).getD "" ≠ "" →
        ∀ i < rmq.spec.replicas.val, (i : ℤ) < sts.replicas) := by
    unfold pluginsPods
    split
    next h =>
      simp only [serverPods, List.forall_mem_map, List.mem_range, podOf_iff]
      exact ⟨fun hall _ => hall, fun hall => hall h⟩
    next h => simp [h]
  have hflags : (∀ pod ∈ flagsPods rmq sts, PodOf rmq sts pod) ↔
      ((sts.metadata.annotations.get? stsCreateAnnotation).getD "" ≠ "" ∨
        rmq.spec.autoEnableAllFeatureFlags = true → 0 < sts.replicas) := by
    unfold flagsPods
    split
    next h =>
      rw [List.forall_mem_singleton, podOf_zero_iff]
      exact ⟨fun hall _ => hall, fun hall => hall (by simpa using h)⟩
    next h => exact ⟨fun _ hneeded => absurd (by simpa using hneeded) h, by simp⟩
  have hrebalance : (∀ pod ∈ rebalancePods rmq, PodOf rmq sts pod) ↔
      ((rmq.annotations.get? queueRebalanceAnnotation).getD "" ≠ "" → 0 < sts.replicas) := by
    unfold rebalancePods
    split
    next h =>
      rw [List.forall_mem_singleton, podOf_zero_iff]
      exact ⟨fun hall _ => hall, fun hall => hall h⟩
    next h => simp [h]
  rw [targets, List.forall_mem_append, List.forall_mem_append, hplugins, hflags, hrebalance]

theorem commands_in_existing_pods_iff (m : Memory) :
    (Ensures (runRabbitmqCLICommandsIfAnnotated m) fun xs _ => execTargets xs ≠ [] →
      ∃ sts cfg, Reads sts cfg xs ∧ sts.status.readyReplicas = sts.replicas ∧
        sts.status.currentRevision = sts.status.updateRevision) ∧
    ∀ sts cfg, (Ensures (runRabbitmqCLICommandsIfAnnotated m) fun xs _ => Reads sts cfg xs →
        ∀ pod ∈ execTargets xs, PodOf m.cluster sts pod) ↔
      (allReplicasReadyAndUpdated sts = true →
        ((cfg.metadata.annotations.get? pluginsUpdateAnnotation).getD "" ≠ "" →
          ∀ i < m.cluster.spec.replicas.val, (i : ℤ) < sts.replicas) ∧
        ((sts.metadata.annotations.get? stsCreateAnnotation).getD "" ≠ "" ∨
          m.cluster.spec.autoEnableAllFeatureFlags = true → 0 < sts.replicas) ∧
        ((m.cluster.annotations.get? queueRebalanceAnnotation).getD "" ≠ "" → 0 < sts.replicas)) := by
  refine ⟨(runRabbitmqCLICommandsIfAnnotated_targets m).mono fun xs _ h hne => ?_, fun sts cfg => ?_⟩
  · obtain ⟨sts, cfg, hreads, hready, -⟩ := h hne
    refine ⟨sts, cfg, hreads, ?_⟩
    simpa [allReplicasReadyAndUpdated, statefulSetBeingUpdated] using hready
  · simp only [← podOf_targets_iff]
    refine ⟨fun h hready pod hpod => ?_, fun h => ?_⟩
    · obtain ⟨xs, _, ⟨hreads, htargets⟩, hxs⟩ :=
        (runRabbitmqCLICommandsIfAnnotated_admits m cfg hready).meet h
      exact hxs hreads pod (htargets hpod)
    · refine (runRabbitmqCLICommandsIfAnnotated_targets m).mono fun xs _ hxs hreads pod hpod => ?_
      obtain ⟨sts', cfg', hreads', hready, htargets⟩ := hxs (List.ne_nil_of_mem hpod)
      obtain ⟨ys, rfl⟩ := hreads
      obtain ⟨ys', heq⟩ := hreads'
      cases heq
      exact h hready pod (htargets hpod)

def execWithoutPods (e : Event api Store) : Bool :=
  (execTarget e.exchange).isSome && e.before.statefulSet.any fun sts => sts.replicas = 0

theorem command_in_missing_pod :
    ∃ e ∈ (run server (reconcile plainReconciler) (List.replicate 45 { now := "2026-01-05T10:00:00Z" })
      (settledStore { storage := 10, replicas := 0 })).trace, execWithoutPods e = true := by
  decide +kernel

end ClusterOperator.Controller
