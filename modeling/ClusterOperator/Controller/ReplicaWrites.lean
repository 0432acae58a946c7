import ClusterOperator.Controller.Footprint
import ClusterOperator.Kubernetes.Replies

namespace ClusterOperator.Controller

open Api Kubernetes Interaction Resource

section Frame

variable {s s' : Store}

def SameReplicas (s s' : Store) : Prop := ∀ o' ∈ s'.statefulSet, ∃ o ∈ s.statefulSet, o'.replicas = o.replicas

lemma SameReplicas.trans {s'' : Store} (h : SameReplicas s s') (h' : SameReplicas s' s'') : SameReplicas s s'' := by
  intro o'' ho''
  obtain ⟨o', ho', hr'⟩ := h' o'' ho''
  obtain ⟨o, ho, hr⟩ := h o' ho'
  exact ⟨o, ho, hr'.trans hr⟩

lemma sameReplicas_of_eq (h : s'.statefulSet = s.statefulSet) : SameReplicas s s' :=
  fun o ho => ⟨o, h ▸ ho, rfl⟩

lemma sameReplicas_disturb (t : Turn) (s : Store) : SameReplicas s (server.disturb t s) := by
  intro o' ho'
  obtain ⟨o, ho, _, _, rfl⟩ := disturb_statefulSet ho'
  exact ⟨o, ho, rfl⟩

def KeepsReplicas : Request → Prop
  | .createStatefulSet _ | .updateStatefulSet _ => False
  | _ => True

def WritesReplicas (n : ℤ) : Request → Prop
  | .createStatefulSet o | .updateStatefulSet o => o.replicas = n
  | _ => True

lemma KeepsReplicas.writes {q : Request} (h : KeepsReplicas q) (n : ℤ) : WritesReplicas n q := by
  cases q <;> first | exact trivial | exact h.elim

lemma serve_replicas (q : Request) (t : Turn) (s : Store) : SameReplicas s (serve t q s).2 ∨
    ∃ o, WritesStatefulSet q o ∧ ∀ o' ∈ (serve t q s).2.statefulSet, o'.replicas = o.replicas := by
  rcases serve_written t q s with h | hw
  · exact Or.inl (sameReplicas_of_eq (congrArg Store.statefulSet h))
  · rcases hw.statefulSet_cases with h | ⟨o, ho, h⟩ | ⟨o, hq, status, deletionTimestamp, h⟩
    · exact Or.inl (sameReplicas_of_eq h)
    · refine Or.inl fun o' ho' => ?_
      rw [h] at ho'
      cases ho'
      exact ⟨o, ho, rfl⟩
    · refine Or.inr ⟨o, hq, fun o' ho' => ?_⟩
      rw [h] at ho'
      cases ho'
      rfl

lemma sameReplicas_serve {q : Request} (hq : KeepsReplicas q) (t : Turn) (s : Store) :
    SameReplicas s (serve t q s).2 := by
  rcases serve_replicas q t s with h | ⟨o, rfl | rfl, -⟩
  · exact h
  · exact hq.elim
  · exact hq.elim

lemma serve_writesReplicas {n : ℤ} {q : Request} (hq : WritesReplicas n q) (t : Turn) (s : Store) :
    SameReplicas s (serve t q s).2 ∨ ∀ o' ∈ (serve t q s).2.statefulSet, o'.replicas = n := by
  rcases serve_replicas q t s with h | ⟨o, rfl | rfl, h⟩
  · exact Or.inl h
  · exact Or.inr fun o' ho' => (h o' ho').trans hq
  · exact Or.inr fun o' ho' => (h o' ho').trans hq

lemma sameReplicas_event {q : Request} (hq : KeepsReplicas q) (t : Turn) (s : Store) :
    SameReplicas s (server.event t q s).after :=
  (sameReplicas_disturb t s).trans (sameReplicas_serve hq t _)

lemma passive_keepsReplicas : ∀ q, Passive q → KeepsReplicas q := by
  intro q h
  cases q <;> first | exact trivial | exact h.elim

lemma onCluster_keepsReplicas : ∀ q, OnCluster q → KeepsReplicas q := by
  intro q h
  cases q <;> first | exact trivial | exact h.elim

end Frame

section Desired

variable {c c' : RabbitmqCluster}

lemma desiredReplicas_congr (h : c'.spec = c.spec) : desiredReplicas c' = desiredReplicas c := by
  rw [desiredReplicas, desiredReplicas, statefulSetSpecOverride, statefulSetSpecOverride, h]

lemma desiredReplicas_modifyOverride {f : StatefulSetSpecOverride → StatefulSetSpecOverride}
    (hf : ∀ o, (f o).replicas = o.replicas) :
    desiredReplicas { c with spec := modifyOverride f c.spec } = desiredReplicas c := by
  rcases ho : c.spec.statefulSetOverride with _ | ⟨metadata, _ | o⟩ <;>
    simp [desiredReplicas, statefulSetSpecOverride, modifyOverride, ho, hf]

lemma updateStatefulSet_replicas (r : Reconciler) (fetched : Bool) (m : Memory) (obj : StatefulSet) :
    desiredReplicas (updateStatefulSet r fetched m obj).1.cluster = desiredReplicas m.cluster ∧
      ∀ o, (updateStatefulSet r fetched m obj).2 = .ok o → o.replicas = desiredReplicas m.cluster := by
  have hsanitize (c : RabbitmqCluster) :
      desiredReplicas { c with spec := sanitizeOverride c.spec } = desiredReplicas c :=
    desiredReplicas_modifyOverride fun _ => rfl
  have hraise (c : RabbitmqCluster) : desiredReplicas { c with spec := raiseClaims c.spec } = desiredReplicas c :=
    desiredReplicas_modifyOverride fun _ => rfl
  unfold updateStatefulSet StatefulSetBuilder.updateInMemory
  cases m.sharesClaims && !fetched with
  | false => exact ⟨hsanitize _, fun o h => (StatefulSetBuilder.update_updated h).replicas⟩
  | true =>
    refine ⟨(hsanitize _).trans (hraise _), fun o h => ?_⟩
    exact (StatefulSetBuilder.update_updated h).replicas.trans (hraise _)

end Desired

section Writes

variable {r : Reconciler} {m : Memory} {n : ℤ} {s : Store}

lemma sends_createOrUpdateStatefulSet (hn : desiredReplicas m.cluster = n) (obj : StatefulSet) :
    (createOrUpdateOnConflict Client.statefulSets (updateStatefulSet r) m obj).Sends (WritesReplicas n) := by
  have hget : Client.statefulSets.get.Sends (WritesReplicas n) := ⟨trivial, fun _ => trivial⟩
  refine (yields_createOrUpdateOnConflict (K := fun m => desiredReplicas m.cluster = n) hget
    (fun fetched m obj hm => ?_) hn obj).sends
  obtain ⟨hmemory, hobj⟩ := updateStatefulSet_replicas r fetched m obj
  refine ⟨hmemory.trans hm, fun o ho => ?_⟩
  have hreplicas : o.replicas = n := (hobj o ho).trans hm
  exact ⟨⟨hreplicas, fun _ => trivial⟩, ⟨hreplicas, fun _ => trivial⟩⟩

def Rewrites (e : Event api Store) : Prop :=
  SameReplicas e.before e.after ∧
    ∀ o, e.request = .updateStatefulSet o → ∀ sts ∈ e.before.statefulSet, o.replicas = sts.replicas

lemma KeepsReplicas.rewrites {q : Request} (hq : KeepsReplicas q) (t : Turn) (s : Store) :
    Rewrites (server.event t q s) := by
  refine ⟨sameReplicas_serve hq t _, fun o ho => ?_⟩
  change q = _ at ho
  subst ho
  exact hq.elim

lemma updateStatefulSet_rewrites {t : Turn} {o : StatefulSet}
    (h : ∀ sts ∈ (server.disturb t s).statefulSet, o.replicas = sts.replicas) :
    Rewrites (server.event t (.updateStatefulSet o) s) := by
  refine ⟨?_, fun o' ho' => by cases ho'; exact h⟩
  change SameReplicas (server.disturb t s) (serve t (.updateStatefulSet o) (server.disturb t s)).2
  rcases serve_written t (.updateStatefulSet o) (server.disturb t s) with hs | hw
  · exact sameReplicas_of_eq (congrArg Store.statefulSet hs)
  · generalize (serve t (.updateStatefulSet o) (server.disturb t s)).2 = s' at hw
    cases hw with
    | statefulSetUpdated hstored _ =>
      intro o' ho'
      cases ho'
      exact ⟨_, hstored, h _ hstored⟩

lemma getStatefulSet_notFound {t : Turn} (h : (serve t .getStatefulSet s).1 = .error .notFound) :
    (serve t .getStatefulSet s).2.statefulSet = none := by
  rcases serve_getStatefulSet t s with hs | ⟨e, he, hs⟩ <;> rw [hs] at h ⊢
  · cases ho : s.statefulSet with
    | none => rfl
    | some o =>
      rw [ho] at h
      cases h
  · exact absurd (Except.error.inj h) he

lemma getStatefulSet_ok {t : Turn} {o : StatefulSet} (h : (serve t .getStatefulSet s).1 = .ok o) :
    (serve t .getStatefulSet s).2.statefulSet = some o := by
  rcases serve_getStatefulSet t s with hs | ⟨e, he, hs⟩ <;> rw [hs] at h ⊢
  · exact found_eq_ok.mp h
  · cases h

variable {A E : Event api Store → Prop}

lemma annotateStatefulSet_rewrites (key value : String) (obj : StatefulSet) :
    Meets server A Rewrites (annotate Client.statefulSets key value obj) (fun _ _ => True) s := by
  refine fun t _ => ⟨KeepsReplicas.rewrites (q := .getStatefulSet) trivial t s, ?_⟩
  have hok (o : StatefulSet) (h : (server.event t .getStatefulSet s).reply = .ok o) :
    (server.event t .getStatefulSet s).after.statefulSet = some o := getStatefulSet_ok h
  generalize (server.event t .getStatefulSet s).reply = reply at hok
  generalize (server.event t .getStatefulSet s).after = s' at hok
  cases reply with
  | error e => trivial
  | ok o =>
    refine fun t _ => ⟨updateStatefulSet_rewrites fun sts hsts => ?_, ?_⟩
    · obtain ⟨o', ho', hr⟩ := sameReplicas_disturb t s' sts hsts
      rw [hok o rfl] at ho'
      cases ho'
      exact hr.symm
    · generalize (server.event t (.updateStatefulSet _) s').reply = reply
      cases reply <;> trivial

lemma stamp_rewrites (key : String) (obj : StatefulSet) :
    Meets server A Rewrites (stamp Client.statefulSets key obj) (fun _ _ => True) s := by
  refine fun t _ => ⟨KeepsReplicas.rewrites (q := .now) trivial t s, ?_⟩
  change Meets _ _ _ (p := updateAnnotation Client.statefulSets key _ obj >>= fun x => .done x.1) _ _
  refine Meets.bind (Q := fun _ _ => True) ?_ fun _ _ _ => trivial
  refine (meets_onError (K := fun _ _ => True) (L := fun _ _ => True) (fun x s _ => ?_) _ trivial).post
    fun _ _ _ => trivial
  refine (annotateStatefulSet_rewrites key _ x).post fun y _ _ => ?_
  rcases y with ⟨_ | _, _⟩
  · trivial
  · exact fun _ => trivial

lemma rewrites_of_sends {α : Type} {p : Operation α} (h : p.Sends KeepsReplicas) (s : Store) :
    Meets server A Rewrites p (fun _ _ => True) s :=
  Meets.of_sends (J := fun _ => True) h (fun t _ _ hq _ _ => ⟨hq.rewrites t _, trivial⟩) trivial

lemma finishTurn_rewrites (result : Except Err OperationResult) :
    Meets server A Rewrites (finishTurn .statefulSet false m result) (fun _ _ => True) s := by
  have hreport (reason msg : String) : Meets server A Rewrites (setReconcileSuccess m .false reason msg) _ s :=
    rewrites_of_sends (sends_setReconcileSuccess (patch_of_onCluster onCluster_keepsReplicas) _ _ _ _) s
  cases result with
  | error err =>
    change Meets _ _ _ (if _ then _ else _) _ _
    split <;> exact (hreport _ _).bind fun _ _ _ => trivial
  | ok result =>
    refine Meets.bind (Q := fun _ _ => True) ?_ fun err _ _ => by cases err <;> trivial
    change Meets _ _ _ (if _ then _ else _) _ _
    split
    · exact stamp_rewrites _ _
    · trivial

lemma writeStatefulSet_meets {J : Store → Prop} (hn : desiredReplicas m.cluster = n)
    (hwrite : ∀ t q s, WritesReplicas n q → J s → A (server.event t q s) →
      E (server.event t q s) ∧ J (server.event t q s).after)
    (hrewrite : ∀ e, Rewrites e → E e) (sts : StatefulSet) (hs : J s) :
    Meets server A E (writeStatefulSet r m sts) (fun _ _ => True) s := by
  have hkeep {α : Type} {p : Operation α} (hp : p.Sends KeepsReplicas) (s : Store) (hs : J s) :
      Meets server A E p (fun _ s => J s) s :=
    Meets.of_sends hp (fun t q s hq => hwrite t q s (hq.writes n)) hs
  have hpvc : Meets server A E (reconcilePVC m sts) _ s :=
    hkeep (sends_scale passive_keepsReplicas trivial (fun _ => trivial) _ _) s hs
  refine hpvc.bind fun x s hs => ?_
  cases x with
  | error err =>
    have hreport := sends_setReconcileSuccess (patch_of_onCluster onCluster_keepsReplicas) m .false
      "FailedReconcilePVC" err.message
    exact (hkeep hreport s hs).bind fun _ _ _ => trivial
  | ok _ =>
    refine (Meets.of_sends (sends_createOrUpdateStatefulSet hn sts) hwrite hs).bind fun x s _ => ?_
    exact (finishTurn_rewrites x.1).mono (fun _ h => h) (fun e _ => hrewrite e) fun _ _ h => h

end Writes

end ClusterOperator.Controller
