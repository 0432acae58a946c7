import ClusterOperator.Controller.Faultless
import ClusterOperator.Resource.PodUpdate
import ClusterOperator.Webhook.PodSpecOverride

/-! The write that restores the replicas of a StatefulSet: the cluster in memory has gone through
one `Update` for the guards, and one of its annotations has been deleted. -/

namespace ClusterOperator.Controller

open Api Kubernetes Interaction Resource Scaling Webhook

section Update

/-- A cluster as `Update` of the StatefulSet left it, but for annotations that the pods do not depend on. -/
structure Sanitized (c c' : RabbitmqCluster) : Prop where
  name : c'.name = c.name
  ns : c'.ns = c.ns
  spec : c'.spec = sanitizeOverride c.spec
  probe : c'.annotations.get? legacyStartupProbeAnnotation = c.annotations.get? legacyStartupProbeAnnotation

variable {c c' : RabbitmqCluster} {merge : StrategicMergePatch}

lemma Sanitized.podSpec (h : Sanitized c c') (annotations : StringMap) :
    (podTemplateSpec c' annotations).spec = (podTemplateSpec c annotations).spec := by
  obtain ⟨name, ns, version, generation, labels, ann, finalizers, deletion, spec, status⟩ := c'
  obtain ⟨hname, hns, hspec, hprobe⟩ := h
  dsimp only at hname hns hspec hprobe
  subst hname hns hspec
  have hstartup : startupProbe ⟨c.name, c.ns, version, generation, labels, ann, finalizers, deletion,
      sanitizeOverride c.spec, status⟩ = startupProbe c := by
    unfold startupProbe
    dsimp only
    rw [hprobe]
    rfl
  unfold podTemplateSpec operatorContainers rabbitmqContainer
  rw [hstartup]
  rfl

lemma Sanitized.templateOverride (h : Sanitized c c') :
    templateOverride c' = (templateOverride c).map fun t => { t with spec := t.spec.map sanitizePodSpecOverride } := by
  rcases ho : c.spec.statefulSetOverride with _ | ⟨metadata, _ | o⟩ <;>
    simp [Resource.templateOverride, statefulSetSpecOverride, h.spec, sanitizeOverride, modifyOverride,
      sanitizeTemplate, ho]

lemma Sanitized.updatedPodSpec (h : Sanitized c c') : updatedPodSpec c' merge = updatedPodSpec c merge := by
  have hname : c'.childResourceName "server" = c.childResourceName "server" := by
    rw [RabbitmqCluster.childResourceName, RabbitmqCluster.childResourceName, h.name]
  unfold Resource.updatedPodSpec
  rw [h.templateOverride, h.podSpec, hname]
  rcases Resource.templateOverride c with _ | ⟨metadata, _ | podSpec⟩
  · rfl
  · rfl
  · have hsanitized := sanitizePodSpecOverride_of_accepted (sanitizePodSpecOverride_accepted podSpec)
    simp only [Option.map_some, hsanitized]

lemma Sanitized.update (h : Sanitized c c') {sts : StatefulSet}
    (hsts : StatefulSetBuilder.update c merge (StatefulSetBuilder.build c) = .ok sts) {o : StatefulSet}
    (ho : o.metadata.controller = none ∨ o.metadata.controller = some c.name) :
    ∃ out, StatefulSetBuilder.update c' merge o = .ok out := by
  obtain ⟨_, -, hbuilt⟩ := StatefulSetBuilder.update_eq_ok c merge (StatefulSetBuilder.build c)
  obtain ⟨spec, -, hspec, -, -⟩ := (hbuilt sts).mp hsts
  obtain ⟨rest, hcontroller, hupdate⟩ := StatefulSetBuilder.update_eq_ok c' merge o
  obtain ⟨metadata, hmeta⟩ : ∃ metadata, setControllerReference c' rest.metadata = .ok metadata := by
    unfold setControllerReference
    rw [hcontroller]
    rcases ho with ho | ho
    · rw [ho]
      exact ⟨_, rfl⟩
    · rw [ho]
      exact ⟨_, if_pos h.name.symm⟩
  exact ⟨_, (hupdate _).mpr ⟨spec, metadata, h.updatedPodSpec.trans hspec, hmeta, rfl⟩⟩

end Update

section Write

variable {r : Reconciler} {m : Memory} {s : Store} {o : StatefulSet}

def Reached (n : ℤ) (s : Store) : Prop := ∀ o ∈ s.statefulSet, o.replicas = n

lemma Reached.event {n : ℤ} {q : Request} (hq : WritesReplicas n q) (t : Turn) (hs : Reached n s) :
    Reached n (server.event t q s).after := by
  have hsame {s' s'' : Store} (h : SameReplicas s' s'') (hs : Reached n s') : Reached n s'' := by
    intro o' ho'
    obtain ⟨o, ho, hr⟩ := h o' ho'
    exact hr.trans (hs o ho)
  rcases serve_writesReplicas hq t (server.disturb t s) with h | h
  · exact hsame h (hsame (sameReplicas_disturb t s) hs)
  · exact h

lemma createOrUpdate_ends (hs : Settled s) (ho : s.statefulSet = some o)
    (hupdate : ∃ out, (updateStatefulSet r true m o).2 = .ok out) (hne : o.replicas ≠ desiredReplicas m.cluster)
    (obj : StatefulSet) :
    Ends (createOrUpdate Client.statefulSets (updateStatefulSet r) m obj)
      (fun x s' => (∃ result, x.1 = .ok result) ∧ Reached (desiredReplicas m.cluster) s') s := by
  refine ends_getStatefulSet hs ?_
  rw [ho]
  change Ends (updateMutated Client.statefulSets o (updateStatefulSet r true m o)) _ s
  obtain ⟨out, hout⟩ := hupdate
  have hreplicas := (updateStatefulSet_replicas r true m o).2 out hout
  have hversion : out.metadata.resourceVersion = o.metadata.resourceVersion := by
    simp only [updateStatefulSet, StatefulSetBuilder.updateInMemory, Bool.not_true, Bool.and_false,
      Bool.false_eq_true, if_false] at hout
    exact (StatefulSetBuilder.update_updated hout).resourceVersion
  generalize updateStatefulSet r true m o = y at hout
  obtain ⟨m', y⟩ := y
  obtain rfl : y = .ok out := hout
  have hchanged : out ≠ o := by
    rintro rfl
    exact hne hreplicas
  have hstored : s.updateStatefulSet out = (.ok { out with
      metadata.deletionTimestamp := o.metadata.deletionTimestamp
      status := o.status
      metadata.resourceVersion := s.revision + 1 }, s.putStatefulSet { out with
      metadata.deletionTimestamp := o.metadata.deletionTimestamp
      status := o.status }) := by
    rw [Store.updateStatefulSet, ho]
    dsimp only
    rw [if_pos hversion]
    rfl
  simp only [updateMutated, if_neg hchanged]
  refine ends_send hs fun t => ?_
  change Ends (Program.bind (.done (s.updateStatefulSet out).1) _) _ (s.updateStatefulSet out).2
  rw [hstored]
  refine ⟨⟨_, rfl⟩, fun o' ho' => ?_⟩
  cases ho'
  exact hreplicas

lemma createOrUpdateOnConflict_ends (hs : Settled s) (ho : s.statefulSet = some o)
    (hupdate : ∃ out, (updateStatefulSet r true m o).2 = .ok out) (hne : o.replicas ≠ desiredReplicas m.cluster)
    (obj : StatefulSet) :
    Ends (createOrUpdateOnConflict Client.statefulSets (updateStatefulSet r) m obj)
      (fun _ s' => Reached (desiredReplicas m.cluster) s') s := by
  -- the first attempt succeeds
  refine Meets.bind (Q := fun x s' => x.1 = none ∧ Reached (desiredReplicas m.cluster) s') ?_ fun x s' h => ?_
  · refine Meets.bind (Q := fun x s' => x.1 = none ∧ Reached (desiredReplicas m.cluster) s') ?_ fun x s' h => ?_
    · refine (createOrUpdate_ends hs ho hupdate hne obj).bind fun x s' h => ?_
      obtain ⟨x, obj', m'⟩ := x
      obtain ⟨⟨result, rfl⟩, hreached⟩ := h
      exact ⟨rfl, hreached⟩
    · obtain ⟨err, x⟩ := x
      obtain ⟨rfl, hreached⟩ := h
      exact ⟨rfl, hreached⟩
  · obtain ⟨err, result, obj', m'⟩ := x
    obtain ⟨rfl, hreached⟩ := h
    exact hreached

lemma writeStatefulSet_ends {sts : StatefulSet} (hs : Settled s) (ho : s.statefulSet = some o)
    (hguards : unsupported (capacity o) (capacity sts) = none)
    (hupdate : ∃ out, (updateStatefulSet r true m o).2 = .ok out) (hne : o.replicas ≠ desiredReplicas m.cluster) :
    Ends (writeStatefulSet r m sts) (fun _ s' => Terminating s' ∨ Reached (desiredReplicas m.cluster) s') s := by
  have hscale : Ends (reconcilePVC m sts) _ s := scale_ends hs ho hguards
  refine hscale.bind fun x s' h => ?_
  cases x with
  | error err =>
    have hreport := sends_setReconcileSuccess (patch_of_onCluster onCluster_keepsReplicas) m .false
      "FailedReconcilePVC" err.message
    refine (ends_of_sends hreport (fun t _ q s hq hs => hs.event hq t) (h.1 err rfl)).bind fun _ _ hs => ?_
    exact Or.inl hs
  | ok _ =>
    have hwrite : Ends (createOrUpdateOnConflict Client.statefulSets (updateStatefulSet r) m sts)
        (fun _ s' => Reached (desiredReplicas m.cluster) s') s' := by
      rcases h.2 rfl with hnone | ho'
      · refine ends_of_sends (sends_createOrUpdateStatefulSet rfl sts) (fun t _ q s hq hs => hs.event hq t) ?_
        simp [Reached, hnone]
      · refine createOrUpdateOnConflict_ends ?_ ho' hupdate hne sts
        simpa [Settled, ho', ho] using hs
    refine hwrite.bind fun x s'' hs'' => ?_
    have hfinish : Meets server (fun _ => True) Rewrites (finishTurn .statefulSet false x.2 x.1) _ s'' :=
      finishTurn_rewrites x.1
    refine ((hfinish.keeps (fun t q s hs _ he o' ho' => ?_) hs'').restrict).mono (fun _ h => h)
      (fun _ _ _ => trivial) fun _ _ h => Or.inr h.2
    obtain ⟨o, ho, hr⟩ := ((sameReplicas_disturb t s).trans he.1) o' ho'
    exact hr.trans (hs o ho)

end Write

end ClusterOperator.Controller
