import ClusterOperator.Controller.ReplicaGuards
import ClusterOperator.Controller.Restoration
import ClusterOperator.Interaction.Restored

namespace ClusterOperator.Controller

open Api Kubernetes Interaction Resource Scaling

section Guards

variable {m : Memory} {c : RabbitmqCluster} {o sts : StatefulSet} {s : Store}

lemma recordEvents_ends (hs : Settled s) (hc : s.cluster = some c) (status : ConditionStatus)
    (reason msg : String) :
    Ends (recordEventsAndSetCondition m status reason msg) (fun _ s' => s'.statefulSet = s.statefulSet ∧
      ∀ c' ∈ s'.cluster, c'.annotations = c.annotations) s := by
  refine ends_send hs fun t => ?_
  generalize hpatch : answer t (.patchStatus _ _) s = x
  change s.patchStatus _ _ = x at hpatch
  rw [Store.patchStatus, hc] at hpatch
  subst hpatch
  refine ⟨rfl, fun c' hc' => ?_⟩
  cases hc'
  rfl

lemma saveReplicasBeforeZero_ends (hs : Settled s) (hc : s.cluster = some c) :
    Ends (saveReplicasBeforeZero m o) (fun x s' => s'.statefulSet = s.statefulSet ∧
      (∀ c' ∈ s'.cluster, c'.annotations.get? beforeZeroReplicasConfigured = some (toString o.replicas)) ∧
      x.1 = none ∧ desiredReplicas x.2.cluster = desiredReplicas c) s := by
  refine Meets.bind (Q := fun x s' => s'.statefulSet = s.statefulSet ∧
    (∀ c' ∈ s'.cluster, c'.annotations.get? beforeZeroReplicasConfigured = some (toString o.replicas)) ∧
    x.1 = none ∧ desiredReplicas x.2 = desiredReplicas c) ?_ fun x s' h => ?_
  · refine Meets.bind (Q := fun x s' => s'.statefulSet = s.statefulSet ∧
      (∀ c' ∈ s'.cluster, c'.annotations.get? beforeZeroReplicasConfigured = some (toString o.replicas)) ∧
      x.1 = none ∧ desiredReplicas x.2 = desiredReplicas c) ?_ fun x s' h => ?_
    · refine ends_getCluster hs ?_
      rw [hc]
      refine ends_updateCluster hs hc rfl fun s' hsts hann => ?_
      refine ⟨hsts, fun c' hc' => ?_, rfl, desiredReplicas_congr rfl⟩
      rw [hann c' hc']
      simp [Client.clusters]
    · obtain ⟨err, d⟩ := x
      obtain ⟨hsts, hann, rfl, hd⟩ := h
      exact ⟨hsts, hann, rfl, hd⟩
  · obtain ⟨err, d⟩ := x
    obtain ⟨hsts, hann, rfl, hd⟩ := h
    exact ⟨hsts, hann, rfl, hd⟩

lemma removeAnnotation_ends (hs : Settled s) (hc : s.cluster = some c)
    (hm : m.cluster = { c with spec := sanitizeOverride c.spec }) :
    Ends (removeReplicasBeforeZeroAnnotationIfExists m)
      (fun m' s' => s'.statefulSet = s.statefulSet ∧ Sanitized c m'.cluster) s := by
  have hsanitized : Sanitized c m.cluster := by
    rw [hm]
    exact ⟨rfl, rfl, rfl, rfl⟩
  unfold removeReplicasBeforeZeroAnnotationIfExists
  split
  · exact ⟨rfl, hsanitized⟩
  · unfold deleteAnnotation
    split
    · exact ⟨rfl, hsanitized⟩
    · refine ends_updateCluster hs hc (by rw [hm]; rfl) fun s' hsts _ => ⟨hsts, ?_⟩
      refine ⟨hsanitized.name, hsanitized.ns, hsanitized.spec, ?_⟩
      rw [← hsanitized.probe]
      change (m.cluster.annotations.erase beforeZeroReplicasConfigured).get? _ = _
      rw [StringMap.get?_erase, if_neg (by decide)]

structure Admitted (c : RabbitmqCluster) (n : ℤ) (m : Memory) (s : Store) : Prop where
  replicas : desiredReplicas m.cluster = desiredReplicas c
  fits : Fits c.annotations n (desiredReplicas c)
  sanitized : n = 0 → Sanitized c m.cluster
  marked : 0 < n → desiredReplicas c = 0 → ∀ c' ∈ s.cluster,
    c'.annotations.get? beforeZeroReplicasConfigured = some (toString n)

structure Judged (c : RabbitmqCluster) (o : StatefulSet) (x : Except (Result × Memory) Memory) (s : Store) :
    Prop where
  statefulSet : s.statefulSet = some o
  admitted : ∀ m, x = .ok m → Admitted c o.replicas m s
  rejected : ∀ y, x = .error y → ¬Fits c.annotations o.replicas (desiredReplicas c)
  annotations : o.replicas = 0 → (Fits c.annotations o.replicas (desiredReplicas c) → desiredReplicas c = 0) →
    ∀ c' ∈ s.cluster, c'.annotations = c.annotations

lemma judged_error {s' : Store} {x : Result × Memory} (hsts : s'.statefulSet = some o)
    (hfits : ¬Fits c.annotations o.replicas (desiredReplicas c))
    (hann : ∀ c' ∈ s'.cluster, c'.annotations = c.annotations) : Judged c o (.error x) s' :=
  ⟨hsts, fun _ h => (by cases h), fun _ _ => hfits, fun _ _ => hann⟩

lemma judged_ok {s' : Store} (hsts : s'.statefulSet = some o) (hm : Admitted c o.replicas m s')
    (hann : o.replicas = 0 → desiredReplicas c = 0 → ∀ c' ∈ s'.cluster, c'.annotations = c.annotations) :
    Judged c o (.ok m) s' := by
  refine ⟨hsts, fun m' h => ?_, fun _ h => (by cases h), fun hz hd => hann hz (hd hm.fits)⟩
  cases h
  exact hm

lemma guardFromZero_ends (hs : Settled s) (hc : s.cluster = some c) (ho : s.statefulSet = some o)
    (hm : m.cluster = { c with spec := sanitizeOverride c.spec }) (hsts : sts.replicas = desiredReplicas c)
    (hle : o.replicas ≤ sts.replicas) (hpos : ¬(sts.replicas = 0 ∧ 0 < o.replicas)) :
    Ends (guardFromZero m o sts) (Judged c o) s := by
  rw [hsts] at hle hpos
  have hsanitize : desiredReplicas { c with spec := sanitizeOverride c.spec } = desiredReplicas c :=
    desiredReplicas_modifyOverride fun _ => rfl
  unfold guardFromZero
  split
  · rename_i hzero
    obtain ⟨hz, hp⟩ : o.replicas = 0 ∧ 0 < desiredReplicas c := by simpa [scaleFromZero, hsts] using hzero
    have hannotations : m.cluster.annotations = c.annotations := by rw [hm]
    unfold scaleFromZeroToBeforeReplicasConfigured
    rw [hannotations, hsts]
    cases hrestore : restoreError c.annotations (desiredReplicas c) with
    | none =>
      refine (removeAnnotation_ends hs hc hm).bind fun m' s' h => ?_
      refine judged_ok (h.1.trans ho) ⟨(desiredReplicas_congr h.2.spec).trans hsanitize,
        ⟨Or.inr hle, fun _ => Or.inr hrestore⟩, fun _ => h.2, fun hn => absurd hz hn.ne'⟩ fun _ hd => ?_
      exact absurd hd hp.ne'
    | some error =>
      obtain ⟨reason, msg⟩ := error
      refine ((recordEvents_ends hs hc .false reason msg).bind fun _ s' h => ?_).bind fun x s' h => h
      refine judged_error (h.1.trans ho) (fun hfits => ?_) h.2
      rcases hfits.2 hz with hd | hd
      · exact hp.ne' hd
      · cases hrestore.symm.trans hd
  · rename_i hzero
    have hnot : o.replicas = 0 → ¬ 0 < desiredReplicas c := by
      intro hz hp
      exact hzero (by simp [scaleFromZero, hz, hsts, hp])
    refine judged_ok ho ⟨?_, ⟨Or.inr hle, fun hz => Or.inl ?_⟩, fun _ => ?_, fun hn hd => ?_⟩ fun _ _ => ?_
    · rw [hm]
      exact hsanitize
    · have := hnot hz
      omega
    · rw [hm]
      exact ⟨rfl, rfl, rfl, rfl⟩
    · exact absurd ⟨hd, hn⟩ hpos
    · simp [hc]

lemma guardReplicas_ends (hs : Settled s) (hc : s.cluster = some c) (ho : s.statefulSet = some o)
    (hm : m.cluster = { c with spec := sanitizeOverride c.spec }) (hsts : sts.replicas = desiredReplicas c) :
    Ends (guardReplicas m o sts) (Judged c o) s := by
  unfold guardReplicas
  split
  · rename_i hzero
    obtain ⟨hz, hpos⟩ : sts.replicas = 0 ∧ 0 < o.replicas := by simpa [scaleToZero] using hzero
    refine (saveReplicasBeforeZero_ends hs hc).bind fun x s' h => ?_
    obtain ⟨err, m'⟩ := x
    obtain ⟨hsts', hmarked, rfl, hd⟩ := h
    have hnot : ¬ scaleFromZero o sts = true := by simp [scaleFromZero, hz]
    simp only [guardFromZero, if_neg hnot]
    have hfits : Fits c.annotations o.replicas (desiredReplicas c) := by
      rw [← hsts, hz]
      exact ⟨Or.inl rfl, fun _ => Or.inl rfl⟩
    exact judged_ok (hsts'.trans ho) ⟨hd, hfits, fun h => absurd h hpos.ne', fun _ _ => hmarked⟩
      fun h => absurd h hpos.ne'
  · rename_i hzero
    have hpos : ¬(sts.replicas = 0 ∧ 0 < o.replicas) := by simpa [scaleToZero] using hzero
    unfold scaleDown
    split
    · rename_i hlt
      refine Meets.bind (Q := fun x s' => x.1 = true ∧ s'.statefulSet = s.statefulSet ∧
        ∀ c' ∈ s'.cluster, c'.annotations = c.annotations)
        ((recordEvents_ends hs hc _ _ _).bind fun _ s' h => ⟨rfl, h⟩) fun x s' h => ?_
      obtain ⟨b, m'⟩ := x
      obtain ⟨rfl, hsts', hann⟩ := h
      refine judged_error (hsts'.trans ho) (fun hfits => ?_) hann
      rw [hsts] at hlt hpos
      rcases hfits.1 with hd | hd
      · exact hpos ⟨hd, hd ▸ hlt⟩
      · exact hd.not_gt hlt
    · exact guardFromZero_ends hs hc ho hm hsts (not_lt.mp ‹_›) hpos

end Guards

section Turn

variable {r : Reconciler} {m : Memory} {c : RabbitmqCluster} {o sts : StatefulSet} {s : Store}

def KeepsAnnotations : Request → Prop
  | .createCluster _ | .updateCluster _ => False
  | _ => True

lemma writeStatefulSet_annotations {P : StringMap → Prop} (hs : ∀ c ∈ s.cluster, P c.annotations) :
    Ends (writeStatefulSet r m sts) (fun _ s' => ∀ c ∈ s'.cluster, P c.annotations) s := by
  have hpassive : ∀ q, Passive q → KeepsAnnotations q := by
    intro q h
    cases q <;> first | exact trivial | exact h.elim
  have hsts : ∀ q, OnStatefulSet q → KeepsAnnotations q := by
    intro q h
    cases q <;> first | exact trivial | exact h.elim
  have hsends := sends_writeStatefulSet hpassive hsts (fun _ _ _ => trivial) (fun _ => trivial) r m sts
  refine ends_of_sends (J := fun s => ∀ c ∈ s.cluster, P c.annotations) hsends (fun t ht q s hq hs => ?_) hs
  have hbefore : ∀ c ∈ (server.disturb t s).cluster, P c.annotations := by
    rw [ht.disturb_cluster]
    exact hs
  change ∀ c ∈ (serve t q (server.disturb t s)).2.cluster, P c.annotations
  generalize server.disturb t s = s' at hbefore
  rcases serve_written t q s' with h | hw
  · rw [h]
    exact hbefore
  · generalize (serve t q s').2 = s'' at hw
    cases hw with
    | clusterCreated => exact hq.elim
    | clusterUpdated => exact hq.elim
    | clusterReleased => exact hq.elim
    | @statusPatched _ base modified stored hc =>
      intro c' hc'
      cases hc'
      exact hbefore stored hc
    | _ => exact hbefore

def Buildable (r : Reconciler) (c : RabbitmqCluster) : Prop :=
  ∃ sts, StatefulSetBuilder.update c r.merge (StatefulSetBuilder.build c) = .ok sts

lemma statefulSetTurn_meets {E : Event api Store → Prop} {Q : Store → Prop}
    (hE : ∀ t q s, KeepsReplicas q → E (server.event t q s)) (hs : Settled s) (hc : s.cluster = some c)
    (ho : s.statefulSet = some o) (hstart : ¬Buildable r c → Q s)
    (herror : ∀ x s', Judged c o (.error x) s' → Q s')
    (hwrite : ∀ m sts s', Judged c o (.ok m) s' → Settled s' →
      StatefulSetBuilder.update c r.merge (StatefulSetBuilder.build c) = .ok sts →
      Meets faultless (fun _ => True) E (writeStatefulSet r m sts) (fun _ => Q) s') :
    Meets faultless (fun _ => True) E (statefulSetTurn r { cluster := c }) (fun _ => Q) s := by
  obtain ⟨m, hm, hupdate⟩ : ∃ m, m.cluster = { c with spec := sanitizeOverride c.spec } ∧
      updateStatefulSet r false { cluster := c } (StatefulSetBuilder.build c) =
        (m, StatefulSetBuilder.update c r.merge (StatefulSetBuilder.build c)) := ⟨_, rfl, rfl⟩
  refine meets_send_settled hs (fun t => hE t .getStatefulSet s trivial) fun t => ?_
  generalize hreply : (answer t .getStatefulSet s).1 = reply
  obtain rfl : Except.ok o = reply := by
    rw [← hreply]
    change _ = found s.statefulSet
    rw [ho]
    rfl
  dsimp only [Program.bind]
  rw [hupdate]
  cases hsts : StatefulSetBuilder.update c r.merge (StatefulSetBuilder.build c) with
  | error err => exact hstart fun ⟨sts, h⟩ => by cases hsts.symm.trans h
  | ok sts =>
    have hreplicas : sts.replicas = desiredReplicas c := (StatefulSetBuilder.update_updated hsts).replicas
    have hguards : Meets faultless (fun _ => True) E (guardReplicas m o sts) (fun _ _ => True) s :=
      Meets.of_sends (J := fun _ => True) (sends_guardReplicas onCluster_keepsReplicas m o sts)
        (fun t q s hq _ _ => ⟨hE t.1 q s hq, trivial⟩) trivial
    refine Meets.bind ((hguards.both (guardReplicas_ends hs hc ho hm hreplicas)).mono (fun _ h => h)
      (fun _ _ h => h.1) fun _ _ h => h.2) fun x s' h => ?_
    cases x with
    | error y => exact herror y s' h
    | ok m' =>
      refine hwrite m' sts s' h ?_ hsts
      simpa [Settled, h.statefulSet, ho] using hs

def storedReplicas (s : Store) : Option ℤ := s.statefulSet.map StatefulSet.replicas

lemma mem_storedReplicas {n : ℤ} : n ∈ storedReplicas s ↔ ∃ o ∈ s.statefulSet, o.replicas = n := Option.map_eq_some_iff

lemma SameReplicas.moves {e : Event api Store} {n : ℤ} {may : Prop} (h : SameReplicas e.before e.after) :
    Moves storedReplicas n may e := by
  intro k hk
  obtain ⟨o', ho', rfl⟩ := mem_storedReplicas.mp hk
  obtain ⟨o, ho, hr⟩ := h o' ho'
  exact Or.inl (mem_storedReplicas.mpr ⟨o, ho, hr.symm⟩)

lemma writeStatefulSet_moves {n : ℤ} {may : Prop} (hn : desiredReplicas m.cluster = n) (hmay : may) :
    Meets faultless (fun _ => True) (Moves storedReplicas n may) (writeStatefulSet r m sts) (fun _ _ => True) s := by
  refine (writeStatefulSet_meets (J := fun _ => True) hn (fun t q s hq _ _ => ⟨?_, trivial⟩)
    (fun e he => he.1.moves) sts trivial).restrict
  rcases serve_writesReplicas hq t (server.disturb t s) with h | h
  · exact SameReplicas.moves h
  · intro k hk
    obtain ⟨o, ho, rfl⟩ := mem_storedReplicas.mp hk
    exact Or.inr ⟨hmay, h o ho⟩

lemma writeStatefulSet_nonzero {n : ℤ} (hn : desiredReplicas m.cluster = n) (hne : n ≠ 0)
    (hs : ∀ o ∈ s.statefulSet, o.replicas ≠ 0) :
    Ends (writeStatefulSet r m sts) (fun _ s' => ∀ o ∈ s'.statefulSet, o.replicas ≠ 0) s := by
  have hmoves : Meets faultless (fun _ => True) (Moves storedReplicas n True) (writeStatefulSet r m sts) _ s :=
    writeStatefulSet_moves hn trivial
  refine (hmoves.keeps (J := fun s => ∀ o ∈ s.statefulSet, o.replicas ≠ 0)
    (fun t q s hs _ he o ho => ?_) hs).mono (fun _ h => h) (fun _ _ _ => trivial) fun _ _ h => h.2
  rcases he o.replicas (mem_storedReplicas.mpr ⟨o, ho, rfl⟩) with h | ⟨-, h⟩
  · obtain ⟨o₁, ho₁, hr₁⟩ := mem_storedReplicas.mp h
    obtain ⟨o₀, ho₀, hr₀⟩ := sameReplicas_disturb t.1 s o₁ ho₁
    rw [← hr₁, hr₀]
    exact hs o₀ ho₀
  · rw [h]
    exact hne

/-- A StatefulSet of no replicas that is there after the turn: the turn had no other number to
write, and the number to restore is noted. -/
def Remembered (r : Reconciler) (c : RabbitmqCluster) (o : StatefulSet) (s : Store) : Prop :=
  ∀ o' ∈ s.statefulSet, o'.metadata.deletionTimestamp = false → o'.replicas = 0 →
    (Fits c.annotations o.replicas (desiredReplicas c) ∧ Buildable r c → desiredReplicas c = 0) ∧
      ∀ c' ∈ s.cluster, c'.annotations.get? beforeZeroReplicasConfigured =
        if o.replicas = 0 then c.annotations.get? beforeZeroReplicasConfigured else some (toString o.replicas)

/-- What a turn needs in order to restore the replicas once it has deleted the annotation. -/
def Restorable (c : RabbitmqCluster) (o : StatefulSet) : Prop :=
  unsupported (capacity o) (builtCapacity c) = none ∧
    (o.metadata.controller = none ∨ o.metadata.controller = some c.name)

instance (c : RabbitmqCluster) (o : StatefulSet) : Decidable (Restorable c o) :=
  inferInstanceAs (Decidable (_ ∧ _))

lemma remembered_write (hs : Settled s) (hj : Judged c o (.ok m) s) (hnonneg : 0 ≤ o.replicas)
    (hsts : StatefulSetBuilder.update c r.merge (StatefulSetBuilder.build c) = .ok sts)
    (hrestorable : o.replicas = 0 → desiredReplicas c ≠ 0 → Restorable c o) :
    Ends (writeStatefulSet r m sts) (fun _ => Remembered r c o) s := by
  have hm := hj.admitted m rfl
  by_cases hd : desiredReplicas c = 0
  · -- the annotation stays as the guards left it
    have hann : ∀ c' ∈ s.cluster, c'.annotations.get? beforeZeroReplicasConfigured =
        if o.replicas = 0 then c.annotations.get? beforeZeroReplicasConfigured
        else some (toString o.replicas) := by
      intro c' hc'
      split
      · rw [hj.annotations ‹_› (fun _ => hd) c' hc']
      · exact hm.marked (lt_of_le_of_ne hnonneg (Ne.symm ‹_›)) hd c' hc'
    have hkept : Ends (writeStatefulSet r m sts) _ s := writeStatefulSet_annotations
      (P := fun a => a.get? beforeZeroReplicasConfigured = if o.replicas = 0 then _ else _) hann
    exact hkept.post fun _ s' h o' _ _ _ => ⟨fun _ => hd, h⟩
  · by_cases hz : o.replicas = 0
    · -- the number is restored
      obtain ⟨hguards, hcontroller⟩ := hrestorable hz hd
      have hcapacity : capacity sts = builtCapacity c :=
        (@capacity_built r { cluster := c } _ _ rfl (Prod.ext rfl hsts)).1
      have hupdate : ∃ out, (updateStatefulSet r true m o).2 = .ok out := by
        simp only [updateStatefulSet, StatefulSetBuilder.updateInMemory, Bool.not_true, Bool.and_false,
          Bool.false_eq_true, if_false]
        exact (hm.sanitized hz).update hsts hcontroller
      have hne : o.replicas ≠ desiredReplicas m.cluster := by
        rw [hm.replicas, hz]
        exact Ne.symm hd
      refine (writeStatefulSet_ends hs hj.statefulSet (hcapacity ▸ hguards) hupdate hne).post
        fun _ s' h o' ho' hlive hzero => ?_
      rcases h with h | h
      · rw [h o' ho'] at hlive
        cases hlive
      · rw [h o' ho', hm.replicas] at hzero
        exact absurd hzero hd
    · refine (writeStatefulSet_nonzero hm.replicas hd ?_).post fun _ s' h o' ho' _ hzero => absurd hzero (h o' ho')
      simpa [hj.statefulSet] using hz

lemma statefulSetTurn_remembered (hs : Settled s) (hc : s.cluster = some c) (ho : s.statefulSet = some o)
    (hnonneg : 0 ≤ o.replicas)
    (hrestorable : o.replicas = 0 → Fits c.annotations o.replicas (desiredReplicas c) →
      desiredReplicas c ≠ 0 → Restorable c o) :
    Meets faultless (fun _ => True)
      (Moves storedReplicas (desiredReplicas c) (Fits c.annotations o.replicas (desiredReplicas c) ∧ Buildable r c))
      (statefulSetTurn r { cluster := c }) (fun _ => Remembered r c o) s := by
  refine statefulSetTurn_meets (fun t q s hq => (sameReplicas_serve hq t _).moves) hs hc ho
    (fun hbuildable o' ho' _ hz => ?_) (fun x s' hj o' ho' _ hz => ?_) fun m sts s' hj hs' hsts => ?_
  · refine ⟨fun h => absurd h.2 hbuildable, fun c' hc' => ?_⟩
    rw [ho] at ho'
    cases ho'
    rw [hc] at hc'
    cases hc'
    rw [if_pos hz]
  · rw [hj.statefulSet] at ho'
    cases ho'
    have hrejected := hj.rejected x rfl
    refine ⟨fun h => absurd h.1 hrejected, fun c' hc' => ?_⟩
    rw [if_pos hz, hj.annotations hz (fun h => absurd h hrejected) c' hc']
  · have hm := hj.admitted m rfl
    have hmoves : Meets faultless (fun _ => True) (Moves storedReplicas (desiredReplicas c)
        (Fits c.annotations o.replicas (desiredReplicas c) ∧ Buildable r c)) (writeStatefulSet r m sts) _ s' :=
      writeStatefulSet_moves hm.replicas ⟨hm.fits, sts, hsts⟩
    exact (hmoves.both (remembered_write hs' hj hnonneg hsts fun hz => hrestorable hz hm.fits)).mono
      (fun _ h => h) (fun _ _ h => h.1) fun _ _ h => h.2

end Turn

end ClusterOperator.Controller
