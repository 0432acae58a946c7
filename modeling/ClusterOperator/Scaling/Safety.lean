import ClusterOperator.Kubernetes.Serving
import ClusterOperator.Scaling.PersistenceScaler

namespace ClusterOperator.Scaling

open Api Kubernetes Interaction

/-- No other client writes; only the garbage collector finishes the deletion of the StatefulSet. -/
def Quiet (t : Turn) : Prop := ∀ e ∈ t.edits, e = .collect

def quiet : Server api Store {t // Quiet t} := server.restrict Quiet

lemma collect_cases (s : Store) : Edit.apply s .collect = s ∨
    Edit.apply s .collect = s.dropStatefulSet ∧
      ∃ o ∈ s.statefulSet, o.metadata.deletionTimestamp = true := by
  simp only [Edit.apply]
  split
  · exact Or.inl rfl
  · rename_i o ho
    split
    · exact Or.inr ⟨rfl, o, ho, ‹_›⟩
    · exact Or.inl rfl

lemma quiet_disturb (t : {t // Quiet t}) (s : Store) : quiet.disturb t s = s ∨
    quiet.disturb t s = s.dropStatefulSet ∧ ∃ o ∈ s.statefulSet, o.metadata.deletionTimestamp = true := by
  obtain ⟨t, ht⟩ := t
  change t.edits.foldl Edit.apply s = s ∨ t.edits.foldl Edit.apply s = s.dropStatefulSet ∧ _
  unfold Quiet at ht
  generalize t.edits = es at ht
  induction es generalizing s with
  | nil => exact Or.inl rfl
  | cons e es ih =>
    obtain rfl := ht e List.mem_cons_self
    have ih := fun s => ih s (fun e he => ht e (List.mem_cons_of_mem _ he))
    rw [List.foldl_cons]
    rcases collect_cases s with h | ⟨h, hd⟩
    · rw [h]
      exact ih s
    · rw [h]
      rcases ih s.dropStatefulSet with h' | ⟨_, o, ho, _⟩
      · exact Or.inr ⟨h', hd⟩
      · cases ho

@[simp] lemma quiet_disturb_pvc (t : {t // Quiet t}) (s : Store) : (quiet.disturb t s).pvc = s.pvc := by
  rcases quiet_disturb t s with h | ⟨h, _⟩
  · rw [h]
  · rw [h]
    rfl

lemma quiet_disturb_settled (t : {t // Quiet t}) {s : Store}
    (h : ∀ o ∈ s.statefulSet, o.metadata.deletionTimestamp = false) : quiet.disturb t s = s := by
  rcases quiet_disturb t s with h' | ⟨_, o, ho, hd⟩
  · exact h'
  · rw [h o ho] at hd
    cases hd

lemma quiet_disturb_absent (t : {t // Quiet t}) {s : Store} (h : s.statefulSet = none) :
    quiet.disturb t s = s :=
  quiet_disturb_settled t (by simp [h])

def NeedsScaling (rmq : RabbitmqCluster) (desiredCapacity : Quantity) (s : Store) : Prop :=
  ∃ i < rmq.spec.replicas.val, ∃ p, s.pvc (rmq.pvcName i) = some p ∧ p.storage < desiredCapacity

def Scales (rmq : RabbitmqCluster) (desiredCapacity : Quantity) (e : Event api Store) : Prop :=
  match e.request with
  | .getStatefulSet => True
  | .getPvc _ => True
  | .deleteStatefulSet => NeedsScaling rmq desiredCapacity e.before
  | .updatePvc p => e.before.statefulSet = none ∧ ∃ i < rmq.spec.replicas.val, ∃ q,
      e.before.pvc (rmq.pvcName i) = some q ∧ q.storage < desiredCapacity ∧
        p = { q with storage := desiredCapacity }
  | _ => False

def Rejects (err : Err) : Prop := err = shrinking ∨ err = ephemeralToPersistent

lemma not_rejects_wrap (message : String) (cause : Err) : ¬Rejects (.wrap message cause) := by
  simp [Rejects, shrinking, ephemeralToPersistent]

section Contracts

variable {rmq : RabbitmqCluster} {desiredCapacity : Quantity} {s : Store}

abbrev Safe (rmq : RabbitmqCluster) (desiredCapacity : Quantity) {α : Type} (p : Operation α)
    (Q : α → Store → Prop) (s : Store) : Prop :=
  Meets quiet (fun _ => True) (Scales rmq desiredCapacity) p Q s

lemma safe_getPvc {α : Type} {n : String} {f : Except ApiError PersistentVolumeClaim → Operation α}
    {Q : α → Store → Prop}
    (hf : ∀ t, Safe rmq desiredCapacity (f (found (s.pvc n))) Q (quiet.disturb t s) ∧
      ∀ e, e ≠ .notFound → Safe rmq desiredCapacity (f (.error e)) Q (quiet.disturb t s)) :
    Safe rmq desiredCapacity (Client.getPvc n >>= f) Q s := by
  intro t _
  refine ⟨trivial, ?_⟩
  change Meets _ _ _ (f (serve t.1 (.getPvc n) (quiet.disturb t s)).1) Q
    (serve t.1 (.getPvc n) (quiet.disturb t s)).2
  rcases serve_getPvc t.1 n (quiet.disturb t s) with h | ⟨e, he, h⟩
  · rw [h, quiet_disturb_pvc]
    exact (hf t).1
  · rw [h]
    exact (hf t).2 e he

lemma safe_getStatefulSet {α : Type} {f : Except ApiError StatefulSet → Operation α}
    {Q : α → Store → Prop}
    (hf : ∀ t, Safe rmq desiredCapacity (f (found (quiet.disturb t s).statefulSet)) Q (quiet.disturb t s) ∧
      ∀ e, e ≠ .notFound → Safe rmq desiredCapacity (f (.error e)) Q (quiet.disturb t s)) :
    Safe rmq desiredCapacity (Client.getStatefulSet >>= f) Q s := by
  intro t _
  refine ⟨trivial, ?_⟩
  change Meets _ _ _ (f (serve t.1 .getStatefulSet (quiet.disturb t s)).1) Q
    (serve t.1 .getStatefulSet (quiet.disturb t s)).2
  rcases serve_getStatefulSet t.1 (quiet.disturb t s) with h | ⟨e, he, h⟩
  · rw [h]
    exact (hf t).1
  · rw [h]
    exact (hf t).2 e he

lemma safe_deleteStatefulSet {α : Type} {f : Except ApiError Unit → Operation α} {Q : α → Store → Prop}
    (h : NeedsScaling rmq desiredCapacity s)
    (hf : ∀ r s', s'.pvc = s.pvc → Safe rmq desiredCapacity (f r) Q s') :
    Safe rmq desiredCapacity (Client.deleteStatefulSet >>= f) Q s := by
  intro t _
  refine ⟨?_, hf _ _ ?_⟩
  · simpa [Scales, NeedsScaling, Server.event] using h
  · change (serve t.1 .deleteStatefulSet (quiet.disturb t s)).2.pvc = s.pvc
    rw [serve_pvc (by simp), quiet_disturb_pvc]

lemma safe_updatePvc {α : Type} {f : Except ApiError PersistentVolumeClaim → Operation α}
    {Q : α → Store → Prop} {p : PersistentVolumeClaim} {i : ℕ} (hs : s.statefulSet = none)
    (hi : i < rmq.spec.replicas.val) (hp : s.pvc (rmq.pvcName i) = some p) (hd : p.storage < desiredCapacity)
    (hok : ∀ q, Safe rmq desiredCapacity (f (.ok q)) Q (s.putPvc { p with storage := desiredCapacity }))
    (herr : ∀ e s', Safe rmq desiredCapacity (f (.error e)) Q s') :
    Safe rmq desiredCapacity (Client.updatePvc { p with storage := desiredCapacity } >>= f) Q s := by
  intro t _
  have ht := quiet_disturb_absent t hs
  refine ⟨⟨?_, i, hi, p, ?_, hd, rfl⟩, ?_⟩
  · exact (congrArg Store.statefulSet ht).trans hs
  · exact (congrFun (quiet_disturb_pvc t s) _).trans hp
  · change Meets _ _ _ (f (serve t.1 (.updatePvc _) (quiet.disturb t s)).1) Q
      (serve t.1 (.updatePvc _) (quiet.disturb t s)).2
    rw [ht]
    cases hr : (serve t.1 (.updatePvc { p with storage := desiredCapacity }) s).1 with
    | ok q =>
      rw [serve_updatePvc_ok hr]
      exact hok q
    | error e => exact herr e _

lemma getPVCs_safe (is : List ℕ) (acc : List PersistentVolumeClaim) :
    Safe rmq desiredCapacity (getPVCs rmq is acc) (fun r s' => s'.pvc = s.pvc ∧
      (∀ l, r = .ok l → l = acc ++ is.filterMap (fun i => s.pvc (rmq.pvcName i))) ∧
        ∀ err, r = .error err → ¬Rejects err) s := by
  induction is generalizing acc s with
  | nil => simp [getPVCs]
  | cons i is ih =>
    refine safe_getPvc fun t => ⟨?_, ?_⟩
    · cases hp : s.pvc (rmq.pvcName i) with
      | none => simpa [found, hp] using ih (s := quiet.disturb t s) acc
      | some p => simpa [found, hp] using ih (s := quiet.disturb t s) (acc ++ [p])
    · intro e he
      cases e with
      | notFound => exact absurd rfl he
      | _ => simp [not_rejects_wrap]

lemma retryUntilDeleted_safe (retry : ℕ) :
    Safe rmq desiredCapacity (retryUntilDeleted retry)
      (fun r s' => s'.pvc = s.pvc ∧ (r = true → s'.statefulSet = none)) s := by
  induction retry generalizing s with
  | zero => simp [retryUntilDeleted]
  | succ retry ih =>
    refine safe_getStatefulSet fun t => ⟨?_, ?_⟩
    · cases ho : (quiet.disturb t s).statefulSet with
      | none => simp [found, ho]
      | some o => simpa [found] using ih (s := quiet.disturb t s)
    · intro e he
      cases e with
      | notFound => exact absurd rfl he
      | _ => simpa using ih (s := quiet.disturb t s)

lemma deleteSts_safe (h : NeedsScaling rmq desiredCapacity s) :
    Safe rmq desiredCapacity (deleteSts rmq)
      (fun r s' => s'.pvc = s.pvc ∧ (r = .ok () → s'.statefulSet = none)) s := by
  refine safe_getStatefulSet fun t => ⟨?_, ?_⟩
  · cases ho : (quiet.disturb t s).statefulSet with
    | none => simp [found, ho]
    | some o =>
      refine safe_deleteStatefulSet (by simpa [NeedsScaling] using h) fun r s' hs' => ?_
      rw [quiet_disturb_pvc] at hs'
      cases r with
      | error e => simpa using hs'
      | ok _ =>
        refine (retryUntilDeleted_safe 10).bind fun r s'' h'' => ?_
        cases r with
        | false => simpa [hs'] using h''.1
        | true => exact ⟨h''.1.trans hs', fun _ => h''.2 rfl⟩
  · intro e he
    cases e with
    | notFound => exact absurd rfl he
    | _ => simp

lemma scaleUpPVCs_safe (l : List PersistentVolumeClaim) (hs : s.statefulSet = none)
    (hn : (l.map PersistentVolumeClaim.name).Nodup)
    (hl : ∀ p ∈ l, p.storage < desiredCapacity ∧
      ∃ i < rmq.spec.replicas.val, p.name = rmq.pvcName i ∧ s.pvc (rmq.pvcName i) = some p) :
    Safe rmq desiredCapacity (scaleUpPVCs desiredCapacity l) (fun r s' => (r = .ok () →
      s'.statefulSet = none ∧ (∀ p ∈ l, ∃ q, s'.pvc p.name = some q ∧ q.storage = desiredCapacity) ∧
        ∀ n ∉ l.map PersistentVolumeClaim.name, s'.pvc n = s.pvc n) ∧
          ∀ err, r = .error err → ¬Rejects err) s := by
  induction l generalizing s with
  | nil => simp [scaleUpPVCs, hs]
  | cons p l ih =>
    obtain ⟨hd, i, hi, hname, hp⟩ := hl p List.mem_cons_self
    obtain ⟨hpl, hn⟩ := List.nodup_cons.mp hn
    refine safe_getPvc fun t => ⟨?_, ?_⟩
    · rw [hname, hp, quiet_disturb_absent t hs]
      refine safe_updatePvc hs hi hp hd (fun _ => ?_) (fun _ _ => by simp [not_rejects_wrap])
      refine (ih (by exact hs) hn ?_).post ?_
      · intro q hq
        obtain ⟨hqd, j, hj, hqname, hqs⟩ := hl q (List.mem_cons_of_mem _ hq)
        have hne : rmq.pvcName j ≠ p.name := by
          rw [← hqname]
          exact fun h => hpl (h ▸ List.mem_map_of_mem hq)
        exact ⟨hqd, j, hj, hqname, (s.putPvc_pvc_of_ne (by exact hne)).trans hqs⟩
      · intro r s' hpost
        refine ⟨fun hr => ?_, hpost.2⟩
        obtain ⟨hs', hl', hframe⟩ := hpost.1 hr
        refine ⟨hs', ?_, ?_⟩
        · intro q hq
          rcases List.mem_cons.mp hq with rfl | hq
          · exact ⟨_, (hframe q.name hpl).trans (s.putPvc_pvc_self _), rfl⟩
          · exact hl' q hq
        · intro n hn'
          obtain ⟨hnp, hnl⟩ := not_or.mp (fun h => hn' (List.mem_cons.mpr h))
          exact (hframe n hnl).trans (s.putPvc_pvc_of_ne hnp)
    · intro e _
      simp [not_rejects_wrap]

def toBeScaled (rmq : RabbitmqCluster) (desiredCapacity : Quantity) (s : Store) :
    List PersistentVolumeClaim :=
  pvcsNeedingScaling ((List.range rmq.spec.replicas).filterMap (fun i => s.pvc (rmq.pvcName i)))
    desiredCapacity

lemma mem_toBeScaled {p : PersistentVolumeClaim} : p ∈ toBeScaled rmq desiredCapacity s ↔
    p.storage < desiredCapacity ∧ ∃ i < rmq.spec.replicas.val, s.pvc (rmq.pvcName i) = some p := by
  simp [toBeScaled, pvcsNeedingScaling, and_comm]

lemma toBeScaled_names_nodup :
    ((toBeScaled rmq desiredCapacity s).map PersistentVolumeClaim.name).Nodup := by
  refine List.Nodup.sublist (List.filter_sublist.map _) ?_
  rw [List.map_filterMap]
  refine List.nodup_range.filterMap fun i j n hi hj => rmq.pvcName_injective ?_
  obtain ⟨p, hp, rfl⟩ := Option.map_eq_some_iff.mp hi
  obtain ⟨q, hq, hpq⟩ := Option.map_eq_some_iff.mp hj
  rw [← s.pvc_name _ p hp, ← s.pvc_name _ q hq, hpq]

lemma needsScaling_iff : NeedsScaling rmq desiredCapacity s ↔ toBeScaled rmq desiredCapacity s ≠ [] := by
  rw [ne_eq, List.eq_nil_iff_forall_not_mem, not_forall_not]
  simp only [mem_toBeScaled]
  exact ⟨fun ⟨i, hi, p, hp, hd⟩ => ⟨p, hd, i, hi, hp⟩, fun ⟨p, hd, i, hi, hp⟩ => ⟨i, hi, p, hp, hd⟩⟩

lemma expand_safe : Safe rmq desiredCapacity (expand rmq desiredCapacity) (fun r s' =>
    (r = .ok () → ¬NeedsScaling rmq desiredCapacity s') ∧ ∀ err, r = .error err → ¬Rejects err) s := by
  refine (getPVCs_safe _ []).bind fun r s₁ h₁ => ?_
  obtain ⟨hpvc, hl, herr⟩ := h₁
  cases r with
  | error err => simpa using herr
  | ok l =>
    obtain rfl := hl l rfl
    have hneeds : NeedsScaling rmq desiredCapacity s₁ ↔ NeedsScaling rmq desiredCapacity s := by
      simp only [NeedsScaling, hpvc]
    change Safe _ _ (if toBeScaled rmq desiredCapacity s = [] then _ else _) _ s₁
    split_ifs with hnil
    · have hn : ¬NeedsScaling rmq desiredCapacity s := fun h => needsScaling_iff.mp h hnil
      exact ⟨fun _ => hneeds.not.mpr hn, by simp⟩
    · refine (deleteSts_safe (hneeds.mpr (needsScaling_iff.mpr hnil))).bind fun r s₂ h₂ => ?_
      cases r with
      | error err => simp [not_rejects_wrap]
      | ok _ =>
        have hpvc₂ : s₂.pvc = s.pvc := h₂.1.trans hpvc
        refine (scaleUpPVCs_safe _ (h₂.2 rfl) toBeScaled_names_nodup ?_).post ?_
        · intro p hp
          obtain ⟨hd, i, hi, hs⟩ := mem_toBeScaled.mp hp
          exact ⟨hd, i, hi, s.pvc_name _ p hs, hpvc₂ ▸ hs⟩
        · intro r s' hpost
          refine ⟨fun hr => ?_, hpost.2⟩
          obtain ⟨-, hscaled, hframe⟩ := hpost.1 hr
          rintro ⟨i, hi, q, hq, hlt⟩
          by_cases hmem : rmq.pvcName i ∈ (toBeScaled rmq desiredCapacity s).map PersistentVolumeClaim.name
          · obtain ⟨p, hp, hname⟩ := List.mem_map.mp hmem
            obtain ⟨q', hq', hd⟩ := hscaled p hp
            rw [hname, hq] at hq'
            cases hq'
            exact absurd hd hlt.ne
          · rw [hframe _ hmem, hpvc₂] at hq
            exact hmem (List.mem_map.mpr ⟨q, mem_toBeScaled.mpr ⟨hlt, i, hi, hq⟩, s.pvc_name _ q hq⟩)

lemma scale_safe : Safe rmq desiredCapacity (scale rmq desiredCapacity)
    (fun r s' => r = .ok () → ¬NeedsScaling rmq desiredCapacity s') s := by
  have hexpand (s : Store) : Safe rmq desiredCapacity (expand rmq desiredCapacity)
      (fun r s' => r = .ok () → ¬NeedsScaling rmq desiredCapacity s') s :=
    expand_safe.post fun _ _ h => h.1
  refine safe_getStatefulSet fun t => ⟨?_, fun e he => ?_⟩
  · cases (quiet.disturb t s).statefulSet with
    | none => exact hexpand _
    | some o =>
      change Safe _ _ (scaleFrom rmq desiredCapacity (.ok _)) _ _
      simp only [scaleFrom]
      split
      · simp
      · exact hexpand _
  · change Safe _ _ (scaleFrom rmq desiredCapacity (.error e)) _ _
    cases e with
    | notFound => exact absurd rfl he
    | _ => simp [scaleFrom]

end Contracts

lemma run_scale_cons (rmq : RabbitmqCluster) (desiredCapacity : Quantity) (t : {t // Quiet t})
    (ts : List {t // Quiet t}) (s : Store) :
    let read := serve t.1 .getStatefulSet (quiet.disturb t s)
    let rest := run quiet (scaleFrom rmq desiredCapacity
      (Except.map (fun sts => persistenceStorageCapacity sts.volumeClaimTemplates) read.1)) ts read.2
    run quiet (scale rmq desiredCapacity) (t :: ts) s =
      ⟨⟨quiet.disturb t s, .getStatefulSet, read.1, read.2⟩ :: rest.trace, rest.final, rest.result⟩ := rfl

lemma scale_rejected {rmq : RabbitmqCluster} {desiredCapacity : Quantity} {ts : List {t // Quiet t}}
    {s : Store} {err : Err} (h : (run quiet (scale rmq desiredCapacity) ts s).result = some (.error err))
    (hr : Rejects err) : ∃ t, (run quiet (scale rmq desiredCapacity) ts s).trace =
      [⟨quiet.disturb t s, .getStatefulSet, found (quiet.disturb t s).statefulSet, quiet.disturb t s⟩] ∧
        (run quiet (scale rmq desiredCapacity) ts s).final = quiet.disturb t s := by
  have hexpand (ts : List {t // Quiet t}) (s : Store) :
      (run quiet (expand rmq desiredCapacity) ts s).result ≠ some (.error err) := fun he =>
    ((expand_safe.sound ts fun _ _ => trivial).2 _ he).2 err rfl hr
  cases ts with
  | nil => cases h
  | cons t ts =>
    refine ⟨t, ?_⟩
    rw [run_scale_cons] at h ⊢
    rcases serve_getStatefulSet t.1 (quiet.disturb t s) with hread | ⟨e, he, hread⟩
    · rw [hread] at h ⊢
      cases ho : (quiet.disturb t s).statefulSet with
      | none =>
        rw [ho] at h
        exact absurd h (hexpand ts _)
      | some o =>
        simp only [ho, found, Except.map, scaleFrom] at h ⊢
        split at h
        · simp
        · exact absurd h (hexpand ts _)
    · rw [hread] at h
      cases e with
      | notFound => exact absurd rfl he
      | _ =>
        simp only [Except.map, scaleFrom, Program.pure_eq, run_done, Option.some.injEq, Except.error.injEq] at h
        exact absurd (h ▸ hr) (not_rejects_wrap _ _)

lemma pvc_change {rmq : RabbitmqCluster} {desiredCapacity : Quantity} {e : Event api Store} {n : String}
    (hs : Scales rmq desiredCapacity e) (hw : e.after = e.before ∨ Written e.request e.before e.after)
    (hn : e.after.pvc n ≠ e.before.pvc n) : ∃ i < rmq.spec.replicas.val, n = rmq.pvcName i ∧
      ∃ p q, e.before.pvc n = some p ∧ p.storage < desiredCapacity ∧
        e.after.pvc n = some q ∧ q.storage = desiredCapacity := by
  obtain ⟨before, request, reply, after⟩ := e
  rcases hw with h | h
  · exact absurd (congrFun (congrArg Store.pvc h) n) hn
  · by_cases hr : ∃ p, request = .updatePvc p
    · obtain ⟨p, rfl⟩ := hr
      obtain ⟨-, i, hi, q, hq, hlt, rfl⟩ := hs
      have hname := before.pvc_name _ q hq
      obtain rfl : after = before.putPvc _ := h.of_updatePvc
      by_cases hnq : n = q.name
      · subst hnq
        exact ⟨i, hi, hname, q, _, hname ▸ hq, hlt, before.putPvc_pvc_self _, rfl⟩
      · exact absurd (before.putPvc_pvc_of_ne (by exact hnq)) hn
    · exact absurd (congrFun (h.pvc_eq (fun p hp => hr ⟨p, hp⟩)) n) hn

/-- Whatever fails, and wherever the scaler stops: a claim of the cluster is only raised
from below the desired capacity to it, no claim is written while the StatefulSet exists,
the StatefulSet is deleted only if some claim is to be raised, and a call that is rejected
has changed nothing. -/
theorem scale_writes_safely (rmq : RabbitmqCluster) (desiredCapacity : Quantity)
    (ts : List {t // Quiet t}) (s : Store) :
    let o := run quiet (scale rmq desiredCapacity) ts s
    (∀ e ∈ o.trace, ∀ n, e.after.pvc n ≠ e.before.pvc n → ∃ i < rmq.spec.replicas.val, n = rmq.pvcName i ∧
      ∃ p q, e.before.pvc n = some p ∧ p.storage < desiredCapacity ∧
        e.after.pvc n = some q ∧ q.storage = desiredCapacity) ∧
    (∀ e ∈ o.trace, ∀ p, e.request = .updatePvc p → e.before.statefulSet = none ∧
      ∃ i < rmq.spec.replicas.val, ∃ q, e.before.pvc (rmq.pvcName i) = some q ∧
        q.storage < desiredCapacity ∧ p = { q with storage := desiredCapacity }) ∧
    (∀ e ∈ o.trace, e.request = .deleteStatefulSet → ∃ i < rmq.spec.replicas.val, ∃ p,
      e.before.pvc (rmq.pvcName i) = some p ∧ p.storage < desiredCapacity) ∧
    ∀ err, o.result = some (.error err) → err = shrinking ∨ err = ephemeralToPersistent →
      (∀ e ∈ o.trace, e.after = e.before) ∧
        ((∀ sts ∈ s.statefulSet, sts.metadata.deletionTimestamp = false) → o.final = s) := by
  intro o
  have hscales : ∀ e ∈ o.trace, Scales rmq desiredCapacity e :=
    (scale_safe.sound ts fun _ _ => trivial).1
  have hwritten : ∀ e ∈ o.trace, e.after = e.before ∨ Written e.request e.before e.after :=
    run_events (fun t r s => serve_written t.1 r (quiet.disturb t s)) _ ts s
  refine ⟨?_, ?_, ?_, ?_⟩
  · intro e he n hn
    exact pvc_change (hscales e he) (hwritten e he) hn
  · intro e he p hp
    have h := hscales e he
    simpa only [Scales, hp] using h
  · intro e he hd
    have h := hscales e he
    simpa only [Scales, hd, NeedsScaling] using h
  · intro err herr hr
    obtain ⟨t, htrace, hfinal⟩ := scale_rejected herr hr
    refine ⟨?_, fun hs => ?_⟩
    · intro e he
      rw [show o.trace = _ from htrace, List.mem_singleton] at he
      rw [he]
    · exact hfinal.trans (quiet_disturb_settled t hs)

end ClusterOperator.Scaling
