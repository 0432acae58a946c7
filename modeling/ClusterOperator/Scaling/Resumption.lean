import ClusterOperator.Scaling.Safety

/-! An expansion that is cut short can be taken up again: attempts that fail or stop at any
request leave the store on the way to the one that a single attempt reaches. -/

namespace ClusterOperator.Scaling

open Api Kubernetes Interaction

structure Progress (rmq : RabbitmqCluster) (desiredCapacity : Quantity) (s₀ s : Store) : Prop where
  claims : ∀ n, s.pvc n = s₀.pvc n ∨ ∃ i < rmq.spec.replicas.val, n = rmq.pvcName i ∧
    ∃ p q, s₀.pvc n = some p ∧ p.storage < desiredCapacity ∧ s.pvc n = some q ∧ q.storage = desiredCapacity
  order : s.pvc = s₀.pvc ∨ s.statefulSet = none
  statefulSet : s.statefulSet = s₀.statefulSet ∨ NeedsScaling rmq desiredCapacity s₀ ∧
    ∀ o ∈ s.statefulSet, s₀.statefulSet ≠ none ∧ o.metadata.deletionTimestamp = true
  cluster : s.cluster = s₀.cluster
  child : s.child = s₀.child
  pods : s.pods = s₀.pods
  secrets : s.secrets = s₀.secrets

namespace Progress

variable {rmq : RabbitmqCluster} {desiredCapacity : Quantity} {s₀ s : Store}

lemma refl (rmq : RabbitmqCluster) (desiredCapacity : Quantity) (s : Store) :
    Progress rmq desiredCapacity s s :=
  ⟨fun _ => Or.inl rfl, Or.inl rfl, Or.inl rfl, rfl, rfl, rfl, rfl⟩

lemma untouched (h : Progress rmq desiredCapacity s₀ s) {n : String} {p : PersistentVolumeClaim}
    (hp : s.pvc n = some p) (hd : p.storage < desiredCapacity) : s₀.pvc n = some p := by
  rcases h.claims n with hn | ⟨_, _, _, _, q, _, _, hq, hqd⟩
  · rw [← hn, hp]
  · rw [hp] at hq
    cases hq
    exact absurd hqd hd.ne

lemma needs (h : Progress rmq desiredCapacity s₀ s) (hs : NeedsScaling rmq desiredCapacity s) :
    NeedsScaling rmq desiredCapacity s₀ := by
  obtain ⟨i, hi, p, hp, hd⟩ := hs
  exact ⟨i, hi, p, h.untouched hp hd, hd⟩

lemma disturb (h : Progress rmq desiredCapacity s₀ s)
    (h₀ : ∀ o ∈ s₀.statefulSet, o.metadata.deletionTimestamp = false) (t : {t // Quiet t}) :
    Progress rmq desiredCapacity s₀ (quiet.disturb t s) := by
  rcases quiet_disturb t s with hs | ⟨hs, o, ho, hd⟩
  · rwa [hs]
  · rw [hs]
    refine ⟨h.claims, Or.inr rfl, Or.inr ⟨?_, fun o ho => by cases ho⟩, h.cluster, h.child, h.pods, h.secrets⟩
    rcases h.statefulSet with heq | hneeds
    · rw [h₀ o (heq ▸ ho)] at hd
      cases hd
    · exact hneeds.1

lemma written (h : Progress rmq desiredCapacity s₀ s) {r : Request} {reply : Reply r} {s' : Store}
    (hs : Scales rmq desiredCapacity ⟨s, r, reply, s'⟩) (hw : Written r s s') :
    Progress rmq desiredCapacity s₀ s' := by
  cases hw with
  | statefulSetDeleted hsts =>
    refine ⟨h.claims, ?_, Or.inr ⟨h.needs hs, ?_⟩, h.cluster, h.child, h.pods, h.secrets⟩
    · exact Or.inl (h.order.resolve_right (by simp [hsts]))
    · intro o ho
      cases ho
      refine ⟨fun h₀ => ?_, rfl⟩
      rcases h.statefulSet with heq | hneeds
      · rw [hsts, h₀] at heq
        cases heq
      · exact (hneeds.2 _ hsts).1 h₀
  | @pvcUpdated _ p stored hp hv =>
    obtain ⟨hnone, i, hi, q, hq, hd, rfl⟩ := hs
    refine ⟨?_, Or.inr hnone, h.statefulSet, h.cluster, h.child, h.pods, h.secrets⟩
    intro n
    by_cases hn : n = q.name
    · have hname := s.pvc_name _ q hq
      subst hn
      exact Or.inr ⟨i, hi, hname, q, _, h.untouched (hname ▸ hq) hd, hd, s.putPvc_pvc_self _, rfl⟩
    · rw [s.putPvc_pvc_of_ne (by exact hn)]
      exact h.claims n
  | _ => exact hs.elim

lemma event (h : Progress rmq desiredCapacity s₀ s)
    (h₀ : ∀ o ∈ s₀.statefulSet, o.metadata.deletionTimestamp = false) (t : {t // Quiet t}) (r : Request)
    (hs : Scales rmq desiredCapacity (quiet.event t r s)) :
    Progress rmq desiredCapacity s₀ (quiet.event t r s).after := by
  have hb := h.disturb h₀ t
  rcases serve_written t.1 r (quiet.disturb t s) with heq | hw
  · change Progress _ _ _ (serve t.1 r (quiet.disturb t s)).2
    rwa [heq]
  · exact hb.written hs hw

lemma attempt (h₀ : ∀ o ∈ s₀.statefulSet, o.metadata.deletionTimestamp = false) (ts : List {t // Quiet t})
    (s : Store) (h : Progress rmq desiredCapacity s₀ s) :
    Progress rmq desiredCapacity s₀ (run quiet (scale rmq desiredCapacity) ts s).final :=
  scale_safe.invariant (fun t r _ h hs => h.event h₀ t r hs) h ts

lemma raised (h : Progress rmq desiredCapacity s₀ s) (hn : ¬NeedsScaling rmq desiredCapacity s) {i : ℕ}
    (hi : i < rmq.spec.replicas.val) : (s.pvc (rmq.pvcName i)).map PersistentVolumeClaim.storage =
      (s₀.pvc (rmq.pvcName i)).map (fun p => max p.storage desiredCapacity) := by
  rcases h.claims (rmq.pvcName i) with heq | ⟨_, _, _, p, q, hp, hd, hq, hqd⟩
  · rw [heq]
    refine Option.map_congr fun p hp => (max_eq_left (not_lt.mp fun hd => hn ?_)).symm
    exact ⟨i, hi, p, heq ▸ hp, hd⟩
  · simp [hp, hq, hqd, max_eq_right hd.le]

lemma others (h : Progress rmq desiredCapacity s₀ s) {n : String}
    (hn : ∀ i < rmq.spec.replicas.val, n ≠ rmq.pvcName i) : s.pvc n = s₀.pvc n :=
  (h.claims n).resolve_right fun ⟨i, hi, hni, _⟩ => hn i hi hni

lemma deleted (h : Progress rmq desiredCapacity s₀ s) (hn : ¬NeedsScaling rmq desiredCapacity s)
    (h₀ : NeedsScaling rmq desiredCapacity s₀) : s.statefulSet = none := by
  refine h.order.resolve_left fun heq => hn ?_
  rwa [NeedsScaling, heq]

lemma kept (h : Progress rmq desiredCapacity s₀ s) (h₀ : ¬NeedsScaling rmq desiredCapacity s₀) :
    s.statefulSet = s₀.statefulSet :=
  h.statefulSet.resolve_right fun h' => h₀ h'.1

end Progress

structure SameContents (s s' : Store) : Prop where
  claims : ∀ n, (s.pvc n).map PersistentVolumeClaim.storage = (s'.pvc n).map PersistentVolumeClaim.storage
  statefulSet : s.statefulSet = s'.statefulSet
  cluster : s.cluster = s'.cluster
  child : s.child = s'.child
  pods : s.pods = s'.pods
  secrets : s.secrets = s'.secrets

lemma Progress.sameContents {rmq : RabbitmqCluster} {desiredCapacity : Quantity} {s₀ s s' : Store}
    (h : Progress rmq desiredCapacity s₀ s) (hn : ¬NeedsScaling rmq desiredCapacity s)
    (h' : Progress rmq desiredCapacity s₀ s') (hn' : ¬NeedsScaling rmq desiredCapacity s') :
    SameContents s s' where
  claims n := by
    by_cases hi : ∃ i < rmq.spec.replicas.val, n = rmq.pvcName i
    · obtain ⟨i, hi, rfl⟩ := hi
      rw [h.raised hn hi, h'.raised hn' hi]
    · have hi : ∀ i < rmq.spec.replicas.val, n ≠ rmq.pvcName i := fun i hlt heq => hi ⟨i, hlt, heq⟩
      rw [h.others hi, h'.others hi]
  statefulSet := by
    by_cases h₀ : NeedsScaling rmq desiredCapacity s₀
    · rw [h.deleted hn h₀, h'.deleted hn' h₀]
    · rw [h.kept h₀, h'.kept h₀]
  cluster := h.cluster.trans h'.cluster.symm
  child := h.child.trans h'.child.symm
  pods := h.pods.trans h'.pods.symm
  secrets := h.secrets.trans h'.secrets.symm

section Uninterrupted

variable {rmq : RabbitmqCluster} {desiredCapacity : Quantity} {s : Store}

def calm : {t // Quiet t} := ⟨{ edits := [.collect] }, by simp [Quiet]⟩

lemma calm_getPvc (n : String) (s : Store) :
    complete quiet calm (Client.getPvc n) s = (found (s.pvc n), quiet.disturb calm s) := by
  rw [← quiet_disturb_pvc calm s]
  rfl

lemma calm_getStatefulSet (s : Store) : complete quiet calm Client.getStatefulSet s =
    (found (quiet.disturb calm s).statefulSet, quiet.disturb calm s) := rfl

lemma calm_disturb (s : Store) :
    ∀ o ∈ (quiet.disturb calm s).statefulSet, o.metadata.deletionTimestamp = false := by
  intro o ho
  change o ∈ (Edit.apply s .collect).statefulSet at ho
  simp only [Edit.apply] at ho
  split at ho
  · rename_i hs
    rw [hs] at ho
    cases ho
  · rename_i o' hs
    split at ho
    · cases ho
    · rename_i hd
      rw [hs] at ho
      cases ho
      simpa using hd

lemma calm_collect {o : StatefulSet} (h : s.statefulSet = some o) (hd : o.metadata.deletionTimestamp = true) :
    (quiet.disturb calm s).statefulSet = none := by
  change (Edit.apply s .collect).statefulSet = none
  simp [Edit.apply, h, hd, Store.dropStatefulSet]

lemma calm_deleteStatefulSet {o : StatefulSet} (h : s.statefulSet = some o)
    (hd : o.metadata.deletionTimestamp = false) : complete quiet calm Client.deleteStatefulSet s =
      (.ok (), s.putStatefulSet { o with metadata.deletionTimestamp := true }) := by
  change Store.deleteStatefulSet (quiet.disturb calm s) = _
  rw [quiet_disturb_settled calm (by simp [h, hd])]
  simp [Store.deleteStatefulSet, h]

lemma calm_updatePvc {p q : PersistentVolumeClaim} (h : s.pvc p.name = some q)
    (hv : p.resourceVersion = q.resourceVersion) : complete quiet calm (Client.updatePvc p) s =
      (found (((quiet.disturb calm s).putPvc p).pvc p.name), (quiet.disturb calm s).putPvc p) := by
  change Store.updatePvc (quiet.disturb calm s) p = _
  simp [Store.updatePvc, h, hv]

lemma getPVCs_calm (is : List ℕ) (acc : List PersistentVolumeClaim) (s : Store) :
    ∃ l, (complete quiet calm (getPVCs rmq is acc) s).1 = .ok l := by
  induction is generalizing acc s with
  | nil => exact ⟨acc, rfl⟩
  | cons i is ih =>
    rw [getPVCs, complete_bind, calm_getPvc]
    cases s.pvc (rmq.pvcName i) with
    | none => exact ih acc _
    | some p => exact ih (acc ++ [p]) _

lemma deleteSts_calm (s : Store) : (complete quiet calm (deleteSts rmq) s).1 = .ok () := by
  rw [deleteSts, complete_bind, calm_getStatefulSet]
  have hd := calm_disturb s
  generalize quiet.disturb calm s = s at hd
  cases hs : s.statefulSet with
  | none => rfl
  | some o =>
    simp only [found]
    rw [complete_bind, calm_deleteStatefulSet hs (hd o hs)]
    simp only
    rw [complete_bind, retryUntilDeleted, complete_bind, calm_getStatefulSet, calm_collect rfl rfl]
    rfl

lemma scaleUpPVCs_calm (l : List PersistentVolumeClaim) (h : ∀ p ∈ l, s.pvc p.name ≠ none) :
    (complete quiet calm (scaleUpPVCs desiredCapacity l) s).1 = .ok () := by
  induction l generalizing s with
  | nil => rfl
  | cons p l ih =>
    rw [scaleUpPVCs, complete_bind, calm_getPvc]
    obtain ⟨q, hq⟩ := Option.ne_none_iff_exists'.mp (h p List.mem_cons_self)
    have hname : q.name = p.name := s.pvc_name _ q hq
    simp only [hq, found]
    rw [complete_bind, calm_updatePvc (p := { q with storage := desiredCapacity }) (q := q)
      (by simpa [hname] using hq) rfl, Store.putPvc_pvc_self]
    refine ih fun p' hp' => ?_
    by_cases heq : p'.name = q.name
    · simp [Store.putPvc, heq]
    · rw [Store.putPvc_pvc_of_ne _ (by exact heq)]
      simpa using h p' (List.mem_cons_of_mem _ hp')

lemma expand_calm (s : Store) : (complete quiet calm (expand rmq desiredCapacity) s).1 = .ok () := by
  obtain ⟨l, hl⟩ : ∃ l, (complete quiet calm (getClusterPVCs rmq) s).1 = .ok l := getPVCs_calm _ _ s
  have hsafe : Safe rmq desiredCapacity (getClusterPVCs rmq) _ s := getPVCs_safe _ []
  obtain ⟨hpvc, hlist, -⟩ := hsafe.complete calm
  obtain rfl := hlist l hl
  rw [expand, complete_bind, hl]
  generalize (complete quiet calm (getClusterPVCs rmq) s).2 = s₁ at hpvc
  change (complete quiet calm (if toBeScaled rmq desiredCapacity s = [] then _ else _) s₁).1 = _
  split_ifs with hnil
  · rfl
  · have hneeds : NeedsScaling rmq desiredCapacity s₁ := by
      rw [NeedsScaling, hpvc]
      exact needsScaling_iff.mpr hnil
    have hdel := (deleteSts_safe hneeds).complete calm
    rw [complete_bind, deleteSts_calm]
    refine scaleUpPVCs_calm _ fun p hp => ?_
    obtain ⟨-, i, -, hs⟩ := mem_toBeScaled.mp hp
    rw [hdel.1, hpvc, s.pvc_name _ p hs, hs]
    simp

lemma scale_calm (h : ∀ o ∈ s.statefulSet, o.metadata.deletionTimestamp = false ∧
      unsupported (persistenceStorageCapacity o.volumeClaimTemplates) desiredCapacity = none) :
    (complete quiet calm (scale rmq desiredCapacity) s).1 = .ok () := by
  have hs : quiet.disturb calm s = s := quiet_disturb_settled calm fun o ho => (h o ho).1
  rw [scale, existingCapacity, complete_bind, complete_bind, calm_getStatefulSet, hs]
  cases ho : s.statefulSet with
  | none => exact expand_calm s
  | some o =>
    change (complete quiet calm (scaleFrom rmq desiredCapacity (.ok _)) s).1 = _
    simp only [scaleFrom, (h o ho).2]
    exact expand_calm s

lemma scale_guarded {o : StatefulSet} {err : Err} (hs : s.statefulSet = some o)
    (hd : o.metadata.deletionTimestamp = false)
    (hg : unsupported (persistenceStorageCapacity o.volumeClaimTemplates) desiredCapacity = some err)
    (ts : List {t // Quiet t}) : (run quiet (scale rmq desiredCapacity) ts s).final = s ∧
      (run quiet (scale rmq desiredCapacity) ts s).result ≠ some (.ok ()) := by
  cases ts with
  | nil => exact ⟨rfl, nofun⟩
  | cons t ts =>
    rw [run_scale_cons, quiet_disturb_settled t (by simp [hs, hd])]
    rcases serve_getStatefulSet t.1 s with hread | ⟨e, he, hread⟩
    · simp [hread, hs, found, Except.map, scaleFrom, hg]
    · cases e with
      | notFound => exact absurd rfl he
      | _ => simp [hread, Except.map, scaleFrom]

end Uninterrupted

/-- Attempts may fail or stop anywhere. The first one that returns nil, and every later
one, leaves the contents that a single attempt without interruption leaves: the claims of the
cluster raised to the desired capacity, all others as they were, and the StatefulSet gone
if and only if some claim had to be raised or there was none. -/
theorem scale_resumes (rmq : RabbitmqCluster) (desiredCapacity : Quantity) (s : Store)
    (hs : ∀ sts ∈ s.statefulSet, sts.metadata.deletionTimestamp = false)
    (tss : List (List {t // Quiet t})) :
    ∀ o ∈ rounds quiet (scale rmq desiredCapacity) tss s, o.result = some (.ok ()) →
      (complete quiet calm (scale rmq desiredCapacity) s).1 = .ok () ∧
      SameContents o.final (complete quiet calm (scale rmq desiredCapacity) s).2 ∧
      (∀ i < rmq.spec.replicas.val, (o.final.pvc (rmq.pvcName i)).map PersistentVolumeClaim.storage =
        (s.pvc (rmq.pvcName i)).map (fun p => max p.storage desiredCapacity)) ∧
      (∀ n, (∀ i < rmq.spec.replicas.val, n ≠ rmq.pvcName i) → o.final.pvc n = s.pvc n) ∧
      (o.final.statefulSet = none ↔ (∃ i < rmq.spec.replicas.val, ∃ p,
        s.pvc (rmq.pvcName i) = some p ∧ p.storage < desiredCapacity) ∨ s.statefulSet = none) := by
  intro o ho hresult
  have hguards : ∀ sts ∈ s.statefulSet,
      unsupported (persistenceStorageCapacity sts.volumeClaimTemplates) desiredCapacity = none := by
    intro sts hsts
    by_contra hg
    obtain ⟨err, hg⟩ := Option.ne_none_iff_exists'.mp hg
    have hguarded := @scale_guarded rmq desiredCapacity s sts err hsts (hs sts hsts) hg
    obtain ⟨ts, s', rfl, rfl⟩ := rounds_start (J := (· = s)) (fun ts s' h => h ▸ (hguarded ts).1) rfl o ho
    exact (hguarded ts).2 hresult
  obtain ⟨ts, s', hprogress, rfl⟩ :=
    rounds_start (fun ts s' h => Progress.attempt hs ts s' h) (Progress.refl rmq desiredCapacity s) o ho
  have hfinal := Progress.attempt hs ts s' hprogress
  have hn : ¬NeedsScaling rmq desiredCapacity _ :=
    (scale_safe.sound ts fun _ _ => trivial).2 _ hresult rfl
  have hcalm : (complete quiet calm (scale rmq desiredCapacity) s).1 = .ok () :=
    scale_calm fun sts hsts => ⟨hs sts hsts, hguards sts hsts⟩
  have hn' := scale_safe.complete calm hcalm
  obtain ⟨n, -, hrun⟩ := complete_eq_run quiet calm (scale rmq desiredCapacity) s
  have hfinal' := hrun ▸ Progress.attempt hs (List.replicate n calm) s (Progress.refl rmq desiredCapacity s)
  refine ⟨hcalm, hfinal.sameContents hn hfinal' hn', fun i hi => hfinal.raised hn hi,
    fun n hn => hfinal.others hn, ?_⟩
  by_cases h₀ : NeedsScaling rmq desiredCapacity s
  · exact iff_of_true (hfinal.deleted hn h₀) (Or.inl h₀)
  · rw [hfinal.kept h₀]
    exact ⟨Or.inr, fun h => h.resolve_left h₀⟩

def oneNode : RabbitmqCluster := { name := "rabbit", spec := { replicas := 1, storage := 20 } }

def oneNodeStore : Store where
  revision := 1
  statefulSet := some
    { metadata.resourceVersion := 1
      replicas := 1
      volumeClaimTemplates := [{ name := "persistence", storage := some 10 }] }
  statefulSet_issued := by simp [issued_succ]
  pvc n := if n = oneNode.pvcName 0 then some { name := n, storage := 10 } else none
  pvc_name n p h := by
    split at h
    · cases h
      rfl
    · cases h

theorem scale_resumes_after_deletion :
    let attempts := rounds quiet (scale oneNode 20) [List.replicate 4 calm, List.replicate 9 calm] oneNodeStore
    (∃ o ∈ attempts, o.result = none) ∧ (∃ o ∈ attempts, o.result = some (.ok ())) ∧
      ∀ o ∈ attempts, o.result = some (.ok ()) →
        SameContents o.final (complete quiet calm (scale oneNode 20) oneNodeStore).2 := by
  refine ⟨⟨_, List.mem_cons_self, rfl⟩, ⟨_, List.mem_cons_of_mem _ List.mem_cons_self, rfl⟩, ?_⟩
  intro o ho hresult
  exact (scale_resumes oneNode 20 oneNodeStore (by simp [oneNodeStore]) _ o ho hresult).2.1

end ClusterOperator.Scaling
