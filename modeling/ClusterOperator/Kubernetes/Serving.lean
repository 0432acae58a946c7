import ClusterOperator.Kubernetes.Client

namespace ClusterOperator.Kubernetes

open Api Interaction

/-- A request is answered, or refused without effect, or answered but the reply is lost. -/
inductive Served (t : Turn) (r : Request) (s : Store) : Reply r × Store → Prop
  | answered : Served t r s (answer t r s)
  | refused {e : ApiError} {reply : Reply r} (he : e ≠ .notFound) (h : refuse e r = some reply) :
      Served t r s (reply, s)
  | lost {e : ApiError} {reply : Reply r} (he : e ≠ .notFound) (hc : e ≠ .conflict)
      (h : refuse e r = some reply) : Served t r s (reply, (answer t r s).2)

theorem serve_served (t : Turn) (r : Request) (s : Store) : Served t r s (serve t r s) := by
  unfold serve
  cases hf : t.fault with
  | none => exact .answered
  | some f =>
    simp only
    cases hr : refuse f.error r with
    | none => exact .answered
    | some reply =>
      cases f with
      | conflict => exact .refused (by simp [Fault.error]) hr
      | failure message => exact .refused (by simp [Fault.error]) hr
      | lost message => exact .lost (by simp [Fault.error]) (by simp [Fault.error]) hr

inductive Written : Request → Store → Store → Prop
  | clusterCreated {s : Store} {c : RabbitmqCluster} (h : s.cluster = none)
      (hv : c.resourceVersion = 0) :
      Written (.createCluster c) s
        (s.putCluster { c with generation := 1, deletionTimestamp := false, status := {} })
  | clusterUpdated {s : Store} {c stored : RabbitmqCluster} (h : s.cluster = some stored)
      (hv : c.resourceVersion = stored.resourceVersion) :
      Written (.updateCluster c) s (s.putCluster (c.onto stored))
  | clusterReleased {s : Store} {c stored : RabbitmqCluster} (h : s.cluster = some stored)
      (hv : c.resourceVersion = stored.resourceVersion)
      (hd : stored.deletionTimestamp = true) (hf : c.finalizers = []) :
      Written (.updateCluster c) s (s.putCluster (c.onto stored)).dropCluster
  | statusPatched {s : Store} {base modified stored : RabbitmqCluster} (h : s.cluster = some stored) :
      Written (.patchStatus base modified) s
        (s.putCluster { stored with status := .patch base.status modified.status stored.status })
  | statefulSetCreated {s : Store} {o : StatefulSet} (h : s.statefulSet = none)
      (hv : o.metadata.resourceVersion = 0) :
      Written (.createStatefulSet o) s
        (s.putStatefulSet { o with metadata.deletionTimestamp := false, status := {} })
  | statefulSetUpdated {s : Store} {o stored : StatefulSet} (h : s.statefulSet = some stored)
      (hv : o.metadata.resourceVersion = stored.metadata.resourceVersion) :
      Written (.updateStatefulSet o) s (s.putStatefulSet
        { o with metadata.deletionTimestamp := stored.metadata.deletionTimestamp, status := stored.status })
  | statefulSetDeleted {s : Store} {stored : StatefulSet} (h : s.statefulSet = some stored) :
      Written .deleteStatefulSet s (s.putStatefulSet { stored with metadata.deletionTimestamp := true })
  | childCreated {s : Store} {k : Kind} {o : DataObject} (h : s.child k = none)
      (hv : o.metadata.resourceVersion = 0) :
      Written (.createChild k o) s (s.putChild k o)
  | childUpdated {s : Store} {k : Kind} {o stored : DataObject} (h : s.child k = some stored)
      (hv : o.metadata.resourceVersion = stored.metadata.resourceVersion) :
      Written (.updateChild k o) s (s.putChild k o)
  | childDeleted {s : Store} {k : Kind} {stored : DataObject} (h : s.child k = some stored) :
      Written (.deleteChild k) s (s.dropChild k)
  | pvcUpdated {s : Store} {p stored : PersistentVolumeClaim} (h : s.pvc p.name = some stored)
      (hv : p.resourceVersion = stored.resourceVersion) : Written (.updatePvc p) s (s.putPvc p)
  | podUpdated {s : Store} {p : Pod} :
      Written (.updatePod p) s { s with pods := s.pods.map (fun q => if q.name = p.name then p else q) }

theorem answer_written (t : Turn) (r : Request) (s : Store) :
    (answer t r s).2 = s ∨ Written r s (answer t r s).2 := by
  cases r with
  | createCluster c =>
    simp only [answer, Store.createCluster]
    split
    · exact Or.inl rfl
    · split
      · exact Or.inr (.clusterCreated ‹_› ‹_›)
      · exact Or.inl rfl
  | updateCluster c =>
    simp only [answer, Store.updateCluster]
    split
    · exact Or.inl rfl
    · split
      · split
        · rename_i h hv hd
          exact Or.inr (.clusterReleased h hv hd.1 hd.2)
        · exact Or.inr (.clusterUpdated ‹_› ‹_›)
      · exact Or.inl rfl
  | patchStatus base modified =>
    simp only [answer, Store.patchStatus]
    split
    · exact Or.inl rfl
    · exact Or.inr (.statusPatched ‹_›)
  | createStatefulSet o =>
    simp only [answer, Store.createStatefulSet]
    split
    · exact Or.inl rfl
    · split
      · exact Or.inr (.statefulSetCreated ‹_› ‹_›)
      · exact Or.inl rfl
  | updateStatefulSet o =>
    simp only [answer, Store.updateStatefulSet]
    split
    · exact Or.inl rfl
    · split
      · exact Or.inr (.statefulSetUpdated ‹_› ‹_›)
      · exact Or.inl rfl
  | deleteStatefulSet =>
    simp only [answer, Store.deleteStatefulSet]
    split
    · exact Or.inl rfl
    · exact Or.inr (.statefulSetDeleted ‹_›)
  | createChild k o =>
    simp only [answer, Store.createChild]
    split
    · exact Or.inl rfl
    · split
      · exact Or.inr (.childCreated ‹_› ‹_›)
      · exact Or.inl rfl
  | updateChild k o =>
    simp only [answer, Store.updateChild]
    split
    · exact Or.inl rfl
    · split
      · exact Or.inr (.childUpdated ‹_› ‹_›)
      · exact Or.inl rfl
  | deleteChild k =>
    simp only [answer, Store.deleteChild]
    split
    · exact Or.inl rfl
    · exact Or.inr (.childDeleted ‹_›)
  | updatePvc p =>
    simp only [answer, Store.updatePvc]
    split
    · exact Or.inl rfl
    · split
      · exact Or.inr (.pvcUpdated ‹_› ‹_›)
      · exact Or.inl rfl
  | updatePod p =>
    simp only [answer, Store.updatePod]
    split
    · exact Or.inr .podUpdated
    · exact Or.inl rfl
  | _ => exact Or.inl rfl

theorem serve_written (t : Turn) (r : Request) (s : Store) :
    (serve t r s).2 = s ∨ Written r s (serve t r s).2 := by
  have h := serve_served t r s
  generalize serve t r s = out at h
  cases h with
  | answered => exact answer_written t r s
  | refused => exact Or.inl rfl
  | lost => exact answer_written t r s

lemma Written.pvc_eq {r : Request} {s s' : Store} (h : Written r s s') (hr : ∀ p, r ≠ .updatePvc p) :
    s'.pvc = s.pvc := by
  cases h with
  | pvcUpdated => exact absurd rfl (hr _)
  | _ => rfl

lemma Written.cluster_eq_none {r : Request} {s s' : Store} (h : Written r s s')
    (hr : ∀ c, r ≠ .createCluster c) (hs : s.cluster = none) : s'.cluster = none := by
  cases h with
  | clusterCreated => exact absurd rfl (hr _)
  | clusterUpdated h => cases hs.symm.trans h
  | clusterReleased => rfl
  | statusPatched h => cases hs.symm.trans h
  | _ => exact hs

lemma Written.of_updatePvc {p : PersistentVolumeClaim} {s s' : Store} (h : Written (.updatePvc p) s s') :
    s' = s.putPvc p := by
  cases h
  rfl

lemma serve_pvc {r : Request} (hr : ∀ p, r ≠ .updatePvc p) (t : Turn) (s : Store) :
    (serve t r s).2.pvc = s.pvc := by
  rcases serve_written t r s with h | h
  · rw [h]
  · exact h.pvc_eq hr

lemma serve_read {t : Turn} {r : Request} {s : Store} (h : (answer t r s).2 = s) :
    serve t r s = answer t r s ∨
      ∃ e reply, e ≠ .notFound ∧ refuse e r = some reply ∧ serve t r s = (reply, s) := by
  have hs := serve_served t r s
  generalize serve t r s = out at hs
  cases hs with
  | answered => exact Or.inl rfl
  | refused he hr => exact Or.inr ⟨_, _, he, hr, rfl⟩
  | lost he _ hr => exact Or.inr ⟨_, _, he, hr, by rw [h]⟩

lemma serve_eq_answer {t : Turn} {r : Request} {s : Store} (h : ∀ e, refuse e r ≠ some (serve t r s).1) :
    serve t r s = answer t r s := by
  have hs := serve_served t r s
  generalize serve t r s = out at h hs
  cases hs with
  | answered => rfl
  | refused _ hr => exact absurd hr (h _)
  | lost _ _ hr => exact absurd hr (h _)

lemma found_eq_ok {α : Type} {x : Option α} {a : α} : found x = .ok a ↔ x = some a := by
  cases x <;> simp [found]

lemma serve_getPvc (t : Turn) (n : String) (s : Store) :
    serve t (.getPvc n) s = (found (s.pvc n), s) ∨
      ∃ e, e ≠ .notFound ∧ serve t (.getPvc n) s = (.error e, s) := by
  rcases serve_read (t := t) (r := .getPvc n) (s := s) rfl with h | ⟨e, reply, he, hr, h⟩
  · exact Or.inl h
  · cases hr
    exact Or.inr ⟨e, he, h⟩

lemma serve_getCluster (t : Turn) (s : Store) :
    serve t .getCluster s = (found s.cluster, s) ∨
      ∃ e, e ≠ .notFound ∧ serve t .getCluster s = (.error e, s) := by
  rcases serve_read (t := t) (r := .getCluster) (s := s) rfl with h | ⟨e, reply, he, hr, h⟩
  · exact Or.inl h
  · cases hr
    exact Or.inr ⟨e, he, h⟩

lemma serve_getStatefulSet (t : Turn) (s : Store) :
    serve t .getStatefulSet s = (found s.statefulSet, s) ∨
      ∃ e, e ≠ .notFound ∧ serve t .getStatefulSet s = (.error e, s) := by
  rcases serve_read (t := t) (r := .getStatefulSet) (s := s) rfl with h | ⟨e, reply, he, hr, h⟩
  · exact Or.inl h
  · cases hr
    exact Or.inr ⟨e, he, h⟩

lemma serve_getChild (t : Turn) (k : Kind) (s : Store) :
    serve t (.getChild k) s = (found (s.child k), s) ∨
      ∃ e, e ≠ .notFound ∧ serve t (.getChild k) s = (.error e, s) := by
  rcases serve_read (t := t) (r := .getChild k) (s := s) rfl with h | ⟨e, reply, he, hr, h⟩
  · exact Or.inl h
  · cases hr
    exact Or.inr ⟨e, he, h⟩

lemma serve_updatePvc_ok {t : Turn} {p q : PersistentVolumeClaim} {s : Store}
    (h : (serve t (.updatePvc p) s).1 = .ok q) : (serve t (.updatePvc p) s).2 = s.putPvc p := by
  have ha : serve t (.updatePvc p) s = answer t (.updatePvc p) s :=
    serve_eq_answer fun e he => by
      rw [h] at he
      cases he
  rw [ha] at h ⊢
  simp only [answer, Store.updatePvc] at h ⊢
  split at h
  · cases h
  · split at h
    · simp [*]
    · cases h

lemma serve_updateChild_ok {t : Turn} {k : Kind} {o o' : DataObject} {s : Store}
    (h : (serve t (.updateChild k o) s).1 = .ok o') :
    (∃ stored, s.child k = some stored ∧ o.metadata.resourceVersion = stored.metadata.resourceVersion) ∧
      (serve t (.updateChild k o) s).2 = s.putChild k o := by
  have ha : serve t (.updateChild k o) s = answer t (.updateChild k o) s :=
    serve_eq_answer fun e he => by
      rw [h] at he
      cases he
  rw [ha] at h ⊢
  simp only [answer, Store.updateChild] at h ⊢
  split at h
  · cases h
  · rename_i stored hs
    split at h
    · rename_i hv
      exact ⟨⟨stored, hs, hv⟩, by simp [hv]⟩
    · cases h

lemma serve_updateStatefulSet_ok {t : Turn} {o o' : StatefulSet} {s : Store}
    (h : (serve t (.updateStatefulSet o) s).1 = .ok o') :
    ∃ stored, s.statefulSet = some stored ∧
      o.metadata.resourceVersion = stored.metadata.resourceVersion ∧
      (serve t (.updateStatefulSet o) s).2 = s.putStatefulSet
        { o with metadata.deletionTimestamp := stored.metadata.deletionTimestamp, status := stored.status } := by
  have ha : serve t (.updateStatefulSet o) s = answer t (.updateStatefulSet o) s :=
    serve_eq_answer fun e he => by
      rw [h] at he
      cases he
  rw [ha] at h ⊢
  simp only [answer, Store.updateStatefulSet] at h ⊢
  split at h
  · cases h
  · rename_i stored hs
    split at h
    · rename_i hv
      exact ⟨stored, hs, hv, by simp [hv]⟩
    · cases h

lemma found_putChild (s : Store) (k : Kind) (o : DataObject) : found ((s.putChild k o).child k) =
    .ok { o with metadata.resourceVersion := s.revision + 1 } := by
  simp [found, Store.putChild]

lemma answer_error {t : Turn} {q : Request} {e : ApiError} {s : Store}
    (h : refuse e q = some (answer t q s).1) : (answer t q s).2 = s := by
  revert h
  cases q <;> simp only [answer, Store.createCluster, Store.updateCluster, Store.patchStatus,
    Store.createStatefulSet, Store.updateStatefulSet, Store.deleteStatefulSet, Store.createChild, Store.updateChild,
    Store.deleteChild, Store.updatePvc, Store.updatePod, found_putChild, Store.putPvc_pvc_self, implies_true]
  all_goals repeat' split
  all_goals intro h
  all_goals first | rfl | cases h

lemma serve_conflict {t : Turn} {q : Request} {s : Store} (h : refuse .conflict q = some (serve t q s).1) :
    (serve t q s).2 = s := by
  have hserved := serve_served t q s
  generalize serve t q s = x at h hserved
  cases hserved with
  | answered => exact answer_error h
  | refused he hr => rfl
  | lost he hc hr => cases q <;> cases hr <;> cases h <;> exact absurd rfl hc

lemma event_getStatefulSet {t : Turn} {sts : StatefulSet} {s : Store}
    (h : (server.event t .getStatefulSet s).reply = .ok sts) :
    (server.event t .getStatefulSet s).after.statefulSet = some sts := by
  change (serve t .getStatefulSet (server.disturb t s)).1 = _ at h
  change (serve t .getStatefulSet (server.disturb t s)).2.statefulSet = _
  rcases serve_getStatefulSet t (server.disturb t s) with hs | ⟨e, -, hs⟩ <;> rw [hs] at h ⊢
  · exact found_eq_ok.mp h
  · cases h

lemma event_getChild_cases (t : Turn) (k : Kind) (s : Store) :
    (∃ o, (server.event t (.getChild k) s).reply = .ok o ∧
        (server.event t (.getChild k) s).after.child k = some o) ∨
      ∃ e, (server.event t (.getChild k) s).reply = .error e ∧
        (e = .notFound → (server.event t (.getChild k) s).after.child k = none) := by
  change (∃ o, (serve t (.getChild k) (server.disturb t s)).1 = .ok o ∧
      (serve t (.getChild k) (server.disturb t s)).2.child k = some o) ∨
    ∃ e, (serve t (.getChild k) (server.disturb t s)).1 = .error e ∧
      (e = .notFound → (serve t (.getChild k) (server.disturb t s)).2.child k = none)
  rcases serve_getChild t k (server.disturb t s) with hs | ⟨e, he, hs⟩ <;> rw [hs]
  · cases (server.disturb t s).child k with
    | none => exact Or.inr ⟨.notFound, rfl, fun _ => rfl⟩
    | some o => exact Or.inl ⟨o, rfl, rfl⟩
  · exact Or.inr ⟨e, rfl, fun h => absurd h he⟩

lemma event_getChild {t : Turn} {k : Kind} {o : DataObject} {s : Store}
    (h : (server.event t (.getChild k) s).reply = .ok o) :
    (server.event t (.getChild k) s).after.child k = some o := by
  change (serve t (.getChild k) (server.disturb t s)).1 = _ at h
  change (serve t (.getChild k) (server.disturb t s)).2.child k = _
  rcases serve_getChild t k (server.disturb t s) with hs | ⟨e, -, hs⟩ <;> rw [hs] at h ⊢
  · exact found_eq_ok.mp h
  · cases h

end ClusterOperator.Kubernetes
