import ClusterOperator.Kubernetes.Serving

namespace ClusterOperator.Kubernetes

open Api Interaction

structure Advances (s s' : Store) : Prop where
  revision : s.revision ≤ s'.revision
  cluster : ∀ c ∈ s'.cluster, c ∈ s.cluster ∨ s.revision < c.resourceVersion

namespace Advances

variable {s s' s'' : Store}

lemma refl : Advances s s := ⟨le_rfl, fun _ => Or.inl⟩

lemma trans (h : Advances s s') (h' : Advances s' s'') : Advances s s'' := by
  refine ⟨h.revision.trans h'.revision, fun c hc => ?_⟩
  rcases h'.cluster c hc with hc | hc
  · exact h.cluster c hc
  · exact Or.inr (h.revision.trans_lt hc)

lemma of_cluster_eq (hr : s.revision ≤ s'.revision) (hc : s'.cluster = s.cluster) : Advances s s' :=
  ⟨hr, fun _ h => Or.inl (hc ▸ h)⟩

lemma of_cluster_eq_none (hr : s.revision ≤ s'.revision) (hc : s'.cluster = none) : Advances s s' :=
  ⟨hr, fun c h => by simp [hc] at h⟩

lemma putCluster (c : RabbitmqCluster) : Advances s (s.putCluster c) := by
  refine ⟨Nat.le_succ _, fun d hd => Or.inr ?_⟩
  cases hd
  exact Nat.lt_succ_self _

end Advances

lemma Written.advances {r : Request} {s s' : Store} (h : Written r s s') : Advances s s' := by
  cases h with
  | clusterCreated => exact .putCluster _
  | clusterUpdated => exact .putCluster _
  | clusterReleased => exact .of_cluster_eq_none (Nat.le_succ _) rfl
  | statusPatched => exact .putCluster _
  | childDeleted => exact .of_cluster_eq le_rfl rfl
  | podUpdated => exact .of_cluster_eq le_rfl rfl
  | _ => exact .of_cluster_eq (Nat.le_succ _) rfl

lemma Edit.apply_advances (s : Store) (e : Edit) : Advances s (e.apply s) := by
  have hon (f : RabbitmqCluster → RabbitmqCluster) : Advances s (onCluster s f) := by
    unfold onCluster
    split
    · exact .refl
    · exact .putCluster _
  have hsettle (s : Store) : Advances s (settleDeletion s) := by
    unfold settleDeletion
    split
    · exact .refl
    · split
      · exact .of_cluster_eq_none le_rfl rfl
      · exact .refl
  cases e with
  | createCluster c =>
    simp only [apply, Store.createCluster]
    split
    · exact .refl
    · exact .putCluster _
  | setSpec spec => exact hon _
  | setMetadata labels annotations => exact hon _
  | setStatus status => exact hon _
  | deleteCluster => exact (hon _).trans (hsettle _)
  | removeFinalizer f => exact (hon _).trans (hsettle _)
  | setStatefulSetStatus status =>
    simp only [apply]
    split
    · exact .refl
    · exact .of_cluster_eq (Nat.le_succ _) rfl
  | collect =>
    simp only [apply]
    split
    · exact .refl
    · split
      · exact .of_cluster_eq le_rfl rfl
      · exact .refl
  | setPvc name storage =>
    cases storage
    · exact .of_cluster_eq le_rfl rfl
    · exact .of_cluster_eq (Nat.le_succ _) rfl
  | setPods pods => exact .of_cluster_eq le_rfl rfl
  | setSecret name secret => exact .of_cluster_eq le_rfl rfl

lemma disturb_advances (t : Turn) (s : Store) : Advances s (server.disturb t s) := by
  change Advances s (t.edits.foldl (fun s e => e.apply s) s)
  induction t.edits generalizing s with
  | nil => exact .refl
  | cons e es ih => exact (e.apply_advances s).trans (ih _)

lemma serve_advances (t : Turn) (r : Request) (s : Store) : Advances s (serve t r s).2 := by
  rcases serve_written t r s with h | h
  · rw [h]
    exact .refl
  · exact h.advances

lemma event_advances (t : Turn) (r : Request) (s : Store) : Advances s (server.event t r s).after :=
  (disturb_advances t s).trans (serve_advances t r _)

def replyCluster : (q : Request) → Reply q → Option RabbitmqCluster
  | .getCluster, .ok c | .createCluster _, .ok c | .updateCluster _, .ok c | .patchStatus _ _, .ok c => some c
  | _, _ => none

def replyStatefulSet : (q : Request) → Reply q → Option StatefulSet
  | .getStatefulSet, .ok o | .createStatefulSet _, .ok o | .updateStatefulSet _, .ok o => some o
  | _, _ => none

lemma refuse_replyCluster {e : ApiError} {q : Request} {reply : Reply q} (h : refuse e q = some reply) :
    replyCluster q reply = none := by
  cases q <;> cases h <;> rfl

lemma refuse_replyStatefulSet {e : ApiError} {q : Request} {reply : Reply q} (h : refuse e q = some reply) :
    replyStatefulSet q reply = none := by
  cases q <;> cases h <;> rfl

structure Current (c : RabbitmqCluster) (s : Store) : Prop where
  issued : Issued s.revision c.resourceVersion
  stored : ∀ d ∈ s.cluster, d = c

lemma current_of_stored {s : Store} {c : RabbitmqCluster} (h : s.cluster = some c) : Current c s :=
  ⟨s.cluster_issued c h, fun d hd => by rw [h] at hd; exact (Option.some.inj hd).symm⟩

lemma answer_current {t : Turn} {q : Request} {s : Store} {c : RabbitmqCluster}
    (h : replyCluster q (answer t q s).1 = some c) : Current c (answer t q s).2 := by
  cases q with
  | getCluster =>
    cases hs : s.cluster with
    | none => simp [answer, hs, found, replyCluster] at h
    | some d =>
      simp only [answer, hs, found, replyCluster, Option.some.injEq] at h
      exact current_of_stored (h ▸ hs)
  | createCluster d =>
    simp only [answer, Store.createCluster] at h ⊢
    split at h
    · cases h
    · split at h
      · rename_i hv
        cases h
        simp only [hv, if_true]
        exact current_of_stored rfl
      · cases h
  | updateCluster d =>
    simp only [answer, Store.updateCluster] at h ⊢
    split at h
    · cases h
    · rename_i stored _
      split at h
      · rename_i hv
        simp only [hv, if_true]
        split at h
        · rename_i hd
          cases h
          simp only [hd, and_self, if_true]
          exact ⟨(current_of_stored (s := s.putCluster (d.onto stored)) rfl).issued, by simp [Store.dropCluster]⟩
        · rename_i hd
          cases h
          simp only [hd, if_false]
          exact current_of_stored rfl
      · cases h
  | patchStatus base modified =>
    simp only [answer, Store.patchStatus] at h ⊢
    split at h
    · cases h
    · cases h
      exact current_of_stored rfl
  | _ => cases h

lemma serve_current {t : Turn} {q : Request} {s : Store} {c : RabbitmqCluster}
    (h : replyCluster q (serve t q s).1 = some c) : Current c (serve t q s).2 := by
  have ha : serve t q s = answer t q s := serve_eq_answer fun e he => by
    rw [refuse_replyCluster he] at h
    cases h
  rw [ha] at h ⊢
  exact answer_current h

lemma serve_spec {t : Turn} {q : Request} {s : Store} {c : RabbitmqCluster}
    (h : replyCluster q (serve t q s).1 = some c) :
    (∃ d, (q = .createCluster d ∨ q = .updateCluster d) ∧ c.spec = d.spec) ∨
      ∃ a ∈ s.cluster, c.spec = a.spec := by
  have ha : serve t q s = answer t q s := serve_eq_answer fun e he => by
    rw [refuse_replyCluster he] at h
    cases h
  rw [ha] at h
  cases q with
  | getCluster =>
    cases hs : s.cluster with
    | none => simp [answer, hs, found, replyCluster] at h
    | some d =>
      simp only [answer, hs, found, replyCluster, Option.some.injEq] at h
      exact Or.inr ⟨d, rfl, h ▸ rfl⟩
  | createCluster d =>
    simp only [answer, Store.createCluster] at h
    split at h
    · cases h
    · split at h
      · cases h
        exact Or.inl ⟨d, Or.inl rfl, rfl⟩
      · cases h
  | updateCluster d =>
    simp only [answer, Store.updateCluster] at h
    split at h
    · cases h
    · split at h
      · split at h <;> cases h <;> exact Or.inl ⟨d, Or.inr rfl, rfl⟩
      · cases h
  | patchStatus base modified =>
    simp only [answer, Store.patchStatus] at h
    split at h
    · cases h
    · rename_i stored hs
      cases h
      exact Or.inr ⟨stored, hs, rfl⟩
  | _ => cases h

lemma serve_updateCluster_ok {t : Turn} {c c' : RabbitmqCluster} {s : Store}
    (h : (serve t (.updateCluster c) s).1 = .ok c') :
    ∃ stored resourceVersion, c' = { c.onto stored with resourceVersion } := by
  have ha : serve t (.updateCluster c) s = answer t (.updateCluster c) s := serve_eq_answer fun e he => by
    rw [h] at he
    cases he
  rw [ha] at h
  simp only [answer, Store.updateCluster] at h
  split at h
  · cases h
  · split at h
    · split at h <;> cases h <;> exact ⟨_, _, rfl⟩
    · cases h

lemma serve_updateCluster_spec {t : Turn} {c c' : RabbitmqCluster} {s : Store}
    (h : (serve t (.updateCluster c) s).1 = .ok c') : c'.spec = c.spec := by
  obtain ⟨stored, v, rfl⟩ := serve_updateCluster_ok h
  rfl

lemma serve_statefulSet_pos {t : Turn} {q : Request} {s : Store} {o : StatefulSet}
    (h : replyStatefulSet q (serve t q s).1 = some o) : 0 < o.metadata.resourceVersion := by
  have ha : serve t q s = answer t q s := serve_eq_answer fun e he => by
    rw [refuse_replyStatefulSet he] at h
    cases h
  rw [ha] at h
  cases q with
  | getStatefulSet =>
    cases hs : s.statefulSet with
    | none => simp [answer, hs, found, replyStatefulSet] at h
    | some d =>
      simp only [answer, hs, found, replyStatefulSet, Option.some.injEq] at h
      exact (s.statefulSet_issued o (h ▸ hs)).pos
  | createStatefulSet d =>
    simp only [answer, Store.createStatefulSet] at h
    split at h
    · cases h
    · split at h
      · cases h
        exact Nat.succ_pos _
      · cases h
  | updateStatefulSet d =>
    simp only [answer, Store.updateStatefulSet] at h
    split at h
    · cases h
    · split at h
      · cases h
        exact Nat.succ_pos _
      · cases h
  | _ => cases h

section StatefulSet

def Restated (o o' : StatefulSet) : Prop :=
  ∃ status version, o' = { o with status, metadata.resourceVersion := version }

lemma Restated.refl (o : StatefulSet) : Restated o o := ⟨o.status, o.metadata.resourceVersion, rfl⟩

lemma Restated.trans {o o' o'' : StatefulSet} (h : Restated o o') (h' : Restated o' o'') : Restated o o'' := by
  obtain ⟨status, version, rfl⟩ := h
  obtain ⟨status', version', rfl⟩ := h'
  exact ⟨status', version', rfl⟩

lemma Edit.apply_statefulSet {s : Store} {e : Edit} {o' : StatefulSet} (h : o' ∈ (e.apply s).statefulSet) :
    ∃ o ∈ s.statefulSet, Restated o o' := by
  have hsame (h : o' ∈ s.statefulSet) : ∃ o ∈ s.statefulSet, Restated o o' := ⟨o', h, .refl o'⟩
  have hon (s : Store) (f : RabbitmqCluster → RabbitmqCluster) : (onCluster s f).statefulSet = s.statefulSet := by
    unfold onCluster
    split <;> rfl
  have hsettle (s : Store) : (settleDeletion s).statefulSet = s.statefulSet := by
    unfold settleDeletion
    split
    · rfl
    · split <;> rfl
  cases e with
  | createCluster c =>
    simp only [apply, Store.createCluster] at h
    split at h <;> exact hsame h
  | setSpec spec => exact hsame (hon _ _ ▸ h)
  | setMetadata labels annotations => exact hsame (hon _ _ ▸ h)
  | setStatus status => exact hsame (hon _ _ ▸ h)
  | deleteCluster => exact hsame ((hsettle _).trans (hon _ _) ▸ h)
  | removeFinalizer f => exact hsame ((hsettle _).trans (hon _ _) ▸ h)
  | setStatefulSetStatus status =>
    simp only [apply] at h
    split at h
    · exact hsame h
    · rename_i o ho
      cases h
      exact ⟨o, ho, status, _, rfl⟩
  | collect =>
    simp only [apply] at h
    split at h
    · exact hsame h
    · split at h
      · cases h
      · exact hsame h
  | setPvc name storage => cases storage <;> exact hsame h
  | setPods pods => exact hsame h
  | setSecret name secret => exact hsame h

lemma disturb_statefulSet {t : Turn} {s : Store} {o' : StatefulSet} (h : o' ∈ (server.disturb t s).statefulSet) :
    ∃ o ∈ s.statefulSet, Restated o o' := by
  change o' ∈ (t.edits.foldl (fun s e => e.apply s) s).statefulSet at h
  generalize t.edits = es at h
  induction es generalizing s with
  | nil => exact ⟨o', h, .refl o'⟩
  | cons e es ih =>
    obtain ⟨o, ho, hrestated⟩ := ih h
    obtain ⟨o₀, ho₀, hrestated₀⟩ := Edit.apply_statefulSet ho
    exact ⟨o₀, ho₀, hrestated₀.trans hrestated⟩

def WritesStatefulSet (q : Request) (o : StatefulSet) : Prop := q = .createStatefulSet o ∨ q = .updateStatefulSet o

lemma Written.statefulSet_cases {q : Request} {s s' : Store} (h : Written q s s') :
    s'.statefulSet = s.statefulSet ∨
      (∃ o ∈ s.statefulSet, s'.statefulSet = some
        { o with metadata.deletionTimestamp := true, metadata.resourceVersion := s.revision + 1 }) ∨
      ∃ o, WritesStatefulSet q o ∧ ∃ status deletionTimestamp, s'.statefulSet = some
        { o with
          metadata.deletionTimestamp := deletionTimestamp
          status
          metadata.resourceVersion := s.revision + 1 } := by
  cases h with
  | statefulSetCreated => exact Or.inr (Or.inr ⟨_, Or.inl rfl, _, _, rfl⟩)
  | statefulSetUpdated => exact Or.inr (Or.inr ⟨_, Or.inr rfl, _, _, rfl⟩)
  | statefulSetDeleted h => exact Or.inr (Or.inl ⟨_, h, rfl⟩)
  | _ => exact Or.inl rfl

end StatefulSet

section Children

@[simp] lemma Edit.apply_child (s : Store) (e : Edit) : (e.apply s).child = s.child := by
  have hon (s : Store) (f : RabbitmqCluster → RabbitmqCluster) : (onCluster s f).child = s.child := by
    unfold onCluster
    split <;> rfl
  have hsettle (s : Store) : (settleDeletion s).child = s.child := by
    unfold settleDeletion
    split
    · rfl
    · split <;> rfl
  cases e with
  | createCluster c =>
    simp only [apply, Store.createCluster]
    split <;> rfl
  | setSpec spec => exact hon _ _
  | setMetadata labels annotations => exact hon _ _
  | setStatus status => exact hon _ _
  | deleteCluster => exact (hsettle _).trans (hon _ _)
  | removeFinalizer f => exact (hsettle _).trans (hon _ _)
  | setStatefulSetStatus status =>
    simp only [apply]
    split <;> rfl
  | collect =>
    simp only [apply]
    split
    · rfl
    · split <;> rfl
  | setPvc name storage => cases storage <;> rfl
  | setPods pods => rfl
  | setSecret name secret => rfl

@[simp] lemma disturb_child (t : Turn) (s : Store) : (server.disturb t s).child = s.child := by
  change (t.edits.foldl (fun s e => e.apply s) s).child = s.child
  induction t.edits generalizing s with
  | nil => rfl
  | cons e es ih => rw [List.foldl_cons, ih, Edit.apply_child]

lemma Written.child_cases {q : Request} {s s' : Store} (h : Written q s s') (k : Kind) :
    s'.child k = s.child k ∨ (q = .deleteChild k ∧ s'.child k = none) ∨
      ∃ o, (q = .createChild k o ∧ s.child k = none ∨
          q = .updateChild k o ∧ ∃ stored ∈ s.child k, o.metadata.resourceVersion = stored.metadata.resourceVersion) ∧
        s'.child k = some { o with metadata.resourceVersion := s.revision + 1 } := by
  cases h with
  | @childCreated _ j o h =>
    by_cases hk : k = j
    · subst hk
      exact Or.inr (Or.inr ⟨o, Or.inl ⟨rfl, h⟩, Function.update_self ..⟩)
    · exact Or.inl (Function.update_of_ne hk ..)
  | @childUpdated _ j o stored h hv =>
    by_cases hk : k = j
    · subst hk
      exact Or.inr (Or.inr ⟨o, Or.inr ⟨rfl, stored, h, hv⟩, Function.update_self ..⟩)
    · exact Or.inl (Function.update_of_ne hk ..)
  | @childDeleted _ j stored h =>
    by_cases hk : k = j
    · subst hk
      exact Or.inr (Or.inl ⟨rfl, Function.update_self ..⟩)
    · exact Or.inl (Function.update_of_ne hk ..)
  | _ => exact Or.inl rfl

lemma event_child {t : Turn} {q : Request} {s : Store} {k : Kind} {o : DataObject}
    (h : o ∈ (server.event t q s).after.child k) : o ∈ s.child k ∨ s.revision < o.metadata.resourceVersion := by
  rcases serve_written t q (server.disturb t s) with hs | hw
  · change o ∈ (serve t q (server.disturb t s)).2.child k at h
    rw [hs, disturb_child] at h
    exact Or.inl h
  · rcases hw.child_cases k with hs | ⟨-, hs⟩ | ⟨o', -, hs⟩ <;>
      change (server.event t q s).after.child k = _ at hs <;> rw [hs] at h
    · exact Or.inl (by rwa [disturb_child] at h)
    · cases h
    · cases h
      exact Or.inr (Nat.lt_succ_of_le (disturb_advances t s).revision)

def replyChild : (q : Request) → Reply q → Option (Kind × DataObject)
  | .getChild k, .ok o | .createChild k _, .ok o | .updateChild k _, .ok o => some (k, o)
  | _, _ => none

lemma refuse_replyChild {e : ApiError} {q : Request} {reply : Reply q} (h : refuse e q = some reply) :
    replyChild q reply = none := by
  cases q <;> cases h <;> rfl

lemma serve_replyChild {t : Turn} {q : Request} {s : Store} {k : Kind} {o : DataObject}
    (h : replyChild q (serve t q s).1 = some (k, o)) : (serve t q s).2.child k = some o ∧
      ∀ sent, q = .createChild k sent ∨ q = .updateChild k sent → o.data = sent.data := by
  have ha : serve t q s = answer t q s := serve_eq_answer fun e he => by
    rw [refuse_replyChild he] at h
    cases h
  rw [ha] at h ⊢
  cases q with
  | getChild j =>
    cases hs : s.child j with
    | none => simp [answer, hs, found, replyChild] at h
    | some d =>
      simp only [answer, hs, found, replyChild, Option.some.injEq, Prod.mk.injEq] at h
      obtain ⟨rfl, rfl⟩ := h
      exact ⟨hs, by simp⟩
  | createChild j d =>
    simp only [answer, Store.createChild] at h ⊢
    split at h
    · cases h
    · split at h
      · simp only [*, if_true]
        simp only [Store.putChild, Function.update_self, found, replyChild, Option.some.injEq, Prod.mk.injEq] at h
        obtain ⟨rfl, rfl⟩ := h
        exact ⟨Function.update_self .., by simp⟩
      · cases h
  | updateChild j d =>
    simp only [answer, Store.updateChild] at h ⊢
    split at h
    · cases h
    · split at h
      · simp only [*, if_true]
        simp only [Store.putChild, Function.update_self, found, replyChild, Option.some.injEq, Prod.mk.injEq] at h
        obtain ⟨rfl, rfl⟩ := h
        exact ⟨Function.update_self .., by simp⟩
      · cases h
  | _ => cases h

end Children

end ClusterOperator.Kubernetes
