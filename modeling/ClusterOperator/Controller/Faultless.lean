import ClusterOperator.Controller.ClaimTemplates
import ClusterOperator.Controller.ReplicaWrites

namespace ClusterOperator.Controller

open Api Kubernetes Interaction Resource Scaling

/-- No call fails, and only the garbage collector acts in between. -/
def Calm (t : Turn) : Prop := t.fault = none ∧ Quiet t

def faultless : Server api Store {t // Calm t} := server.restrict Calm

abbrev Ends {α : Type} (p : Operation α) (Q : α → Store → Prop) (s : Store) : Prop :=
  Meets faultless (fun _ => True) (fun _ => True) p Q s

section Faultless

variable {α : Type} {p : Operation α} {Q : α → Store → Prop} {s : Store}

def Settled (s : Store) : Prop := ∀ o ∈ s.statefulSet, o.metadata.deletionTimestamp = false

instance (s : Store) : Decidable (Settled s) := inferInstanceAs (Decidable (∀ o ∈ s.statefulSet, _))

def Terminating (s : Store) : Prop := ∀ o ∈ s.statefulSet, o.metadata.deletionTimestamp = true

lemma meets_send_settled {E : Event api Store → Prop} {q : Request} {next : Reply q → Operation α}
    (hs : Settled s) (hE : ∀ t, E (server.event t q s))
    (h : ∀ t, Meets faultless (fun _ => True) E (next (answer t q s).1) Q (answer t q s).2) :
    Meets faultless (fun _ => True) E (.send q next) Q s := by
  refine fun t _ => ⟨hE t.1, ?_⟩
  have hdisturb : faultless.disturb t s = s := quiet_disturb_settled ⟨t.1, t.2.2⟩ hs
  have hserve : faultless.serve t q s = answer t.1 q s := by
    change serve t.1 q s = _
    rw [serve, t.2.1]
  change Meets _ _ _ (next (faultless.serve t q (faultless.disturb t s)).1) Q
    (faultless.serve t q (faultless.disturb t s)).2
  rw [hdisturb, hserve]
  exact h t.1

lemma ends_send {q : Request} {next : Reply q → Operation α} (hs : Settled s)
    (h : ∀ t, Ends (next (answer t q s).1) Q (answer t q s).2) : Ends (.send q next) Q s :=
  meets_send_settled hs (fun _ => trivial) h

lemma ends_getStatefulSet {f : Except ApiError StatefulSet → Operation α} (hs : Settled s)
    (h : Ends (f (found s.statefulSet)) Q s) : Ends (Client.getStatefulSet >>= f) Q s :=
  ends_send hs fun _ => h

lemma ends_getCluster {f : Except ApiError RabbitmqCluster → Operation α} (hs : Settled s)
    (h : Ends (f (found s.cluster)) Q s) : Ends (Client.getCluster >>= f) Q s :=
  ends_send hs fun _ => h

lemma ends_updateCluster {c d : RabbitmqCluster} {f : Except ApiError RabbitmqCluster → Operation α}
    (hs : Settled s) (hc : s.cluster = some c) (hv : d.resourceVersion = c.resourceVersion)
    (h : ∀ s', s'.statefulSet = s.statefulSet → (∀ c' ∈ s'.cluster, c'.annotations = d.annotations) →
      Ends (f (.ok { d.onto c with resourceVersion := s.revision + 1 })) Q s') :
    Ends (Client.updateCluster d >>= f) Q s := by
  refine ends_send hs fun t => ?_
  change Ends (f (s.updateCluster d).1) Q (s.updateCluster d).2
  unfold Store.updateCluster
  rw [hc]
  dsimp only
  rw [if_pos hv]
  split
  · exact h _ rfl (by simp [Store.dropCluster])
  · refine h _ rfl fun c' hc' => ?_
    cases hc'
    rfl

lemma ends_getPvc {n : String} {f : Except ApiError PersistentVolumeClaim → Operation α} (hs : Settled s)
    (h : Ends (f (found (s.pvc n))) Q s) : Ends (Client.getPvc n >>= f) Q s :=
  ends_send hs fun _ => h

lemma Calm.disturb_cluster {t : Turn} (ht : Calm t) (s : Store) : (server.disturb t s).cluster = s.cluster := by
  have hcluster : (quiet.disturb ⟨t, ht.2⟩ s).cluster = s.cluster := by
    rcases quiet_disturb ⟨t, ht.2⟩ s with h | ⟨h, -⟩
    · rw [h]
    · rw [h]
      rfl
  exact hcluster

lemma ends_of_sends {P : Request → Prop} {J : Store → Prop} (hp : p.Sends P)
    (hJ : ∀ t, Calm t → ∀ q s, P q → J s → J (server.event t q s).after) (hs : J s) :
    Ends p (fun _ s => J s) s :=
  Meets.of_sends hp (fun t q s hq hs _ => ⟨trivial, hJ t.1 t.2 q s hq hs⟩) hs

lemma Terminating.event {q : Request} (hq : KeepsReplicas q) (t : Turn) (hs : Terminating s) :
    Terminating (server.event t q s).after := by
  have hbefore : Terminating (server.disturb t s) := by
    intro o' ho'
    obtain ⟨o, ho, _, _, rfl⟩ := disturb_statefulSet ho'
    exact hs o ho
  change Terminating (serve t q (server.disturb t s)).2
  rcases serve_written t q (server.disturb t s) with h | hw
  · rw [h]
    exact hbefore
  · intro o' ho'
    rcases hw.statefulSet_cases with h | ⟨o, ho, h⟩ | ⟨o, rfl | rfl, -⟩
    · exact hbefore o' (h ▸ ho')
    · rw [h] at ho'
      cases ho'
      rfl
    · exact hq.elim
    · exact hq.elim

end Faultless

section Scale

variable {rmq : RabbitmqCluster} {desiredCapacity : Quantity} {s : Store} {o : StatefulSet}

lemma getPVCs_ends (hs : Settled s) (is : List ℕ) (acc : List PersistentVolumeClaim) :
    Ends (getPVCs rmq is acc) (fun x s' => (∃ l, x = .ok l) ∧ s' = s) s := by
  induction is generalizing acc with
  | nil => exact ⟨⟨acc, rfl⟩, rfl⟩
  | cons i is ih =>
    refine ends_getPvc hs ?_
    cases s.pvc (rmq.pvcName i) with
    | none => exact ih acc
    | some p => exact ih (acc ++ [p])

lemma deleteSts_ends (hs : Settled s) : Ends (deleteSts rmq) (fun _ s' => Terminating s') s := by
  refine ends_getStatefulSet hs ?_
  cases ho : s.statefulSet with
  | none => simp [Terminating, found, ho]
  | some o =>
    have hdelete : s.deleteStatefulSet =
        (.ok (), s.putStatefulSet { o with metadata.deletionTimestamp := true }) := by
      rw [Store.deleteStatefulSet, ho]
    refine ends_send hs fun t => ?_
    change Ends (Program.bind (.done s.deleteStatefulSet.1) _) _ s.deleteStatefulSet.2
    rw [hdelete]
    have hterminating : Terminating (s.putStatefulSet { o with metadata.deletionTimestamp := true }) := by
      intro o' ho'
      cases ho'
      rfl
    refine ends_of_sends (P := KeepsReplicas) ?_ (fun t _ q s hq hs => hs.event hq t) hterminating
    refine (sends_retryUntilDeleted passive_keepsReplicas 10).bind fun deleted => ?_
    cases deleted <;> exact trivial

lemma scale_ends (hs : Settled s) (ho : s.statefulSet = some o)
    (hguards : unsupported (capacity o) desiredCapacity = none) :
    Ends (scale rmq desiredCapacity) (fun x s' => (∀ err, x = .error err → Terminating s') ∧
      (x = .ok () → s'.statefulSet = none ∨ s'.statefulSet = some o)) s := by
  have hfails : Ends (scale rmq desiredCapacity) (fun x s' => ∀ err, x = .error err → Terminating s') s := by
    refine ends_getStatefulSet hs ?_
    rw [ho]
    change Ends (scaleFrom rmq desiredCapacity (.ok (capacity o))) _ s
    simp only [scaleFrom, hguards]
    refine (getPVCs_ends hs _ []).bind fun x s' h => ?_
    obtain ⟨⟨l, rfl⟩, rfl⟩ := h
    change Ends (if pvcsNeedingScaling l desiredCapacity = [] then _ else _) _ s'
    split
    · exact fun err h => by cases h
    · refine (deleteSts_ends hs).bind fun x s'' hs'' => ?_
      cases x with
      | error err => exact fun _ _ => hs''
      | ok _ =>
        have hsends := sends_scaleUpPVCs passive_keepsReplicas (fun _ => trivial) desiredCapacity
          (pvcsNeedingScaling l desiredCapacity)
        exact (ends_of_sends hsends (fun t _ q s hq hs => hs.event hq t) hs'').post fun _ _ h _ _ => h
  have hkept : Meets quiet (fun _ => True) _ (scale rmq desiredCapacity) _ s := scale_kept
  have hkept : Ends (scale rmq desiredCapacity) _ s :=
    (hkept.restrict_mono fun t h => h.2).mono (fun _ h => h) (fun _ _ _ => trivial) fun _ _ h => h
  refine (hfails.both hkept).mono (fun _ h => h) (fun _ _ _ => trivial) fun x s' h => ⟨h.1, fun hx => ?_⟩
  cases hs' : s'.statefulSet with
  | none => exact Or.inl rfl
  | some o' =>
    have ho' := (h.2 hx o' hs').1
    rw [ho] at ho'
    cases ho'
    exact Or.inr rfl

end Scale

end ClusterOperator.Controller
