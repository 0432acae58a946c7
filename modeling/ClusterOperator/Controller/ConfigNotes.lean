import ClusterOperator.Controller.ConfigChanges

namespace ClusterOperator.Controller

open Api Kubernetes Interaction Resource

section Frame

variable {C : Set Config} {c : Config} {s s' s'' : Store} {q : Request}

def SameRestart (s s' : Store) : Prop := ∀ o' ∈ s'.statefulSet, ∃ o ∈ s.statefulSet, restartedAt o' = restartedAt o

structure Frame (C : Set Config) (s s' : Store) : Prop where
  child : ∀ c ∉ C, s'.child c.kind = s.child c.kind
  restart : SameRestart s s'

lemma SameRestart.refl (s : Store) : SameRestart s s := fun o ho => ⟨o, ho, rfl⟩

lemma SameRestart.trans (h : SameRestart s s') (h' : SameRestart s' s'') : SameRestart s s'' := by
  intro o'' ho''
  obtain ⟨o', ho', hr'⟩ := h' o'' ho''
  obtain ⟨o, ho, hr⟩ := h o' ho'
  exact ⟨o, ho, hr'.trans hr⟩

lemma Frame.refl (s : Store) : Frame C s s := ⟨fun _ _ => rfl, .refl s⟩

lemma Frame.trans (h : Frame C s s') (h' : Frame C s' s'') : Frame C s s'' :=
  ⟨fun c hc => (h'.child c hc).trans (h.child c hc), h.restart.trans h'.restart⟩

lemma frame_disturb (t : Turn) (s : Store) : Frame C s (server.disturb t s) := by
  refine ⟨fun c _ => congrFun (disturb_child t s) _, fun o' ho' => ?_⟩
  obtain ⟨o, ho, _, _, rfl⟩ := disturb_statefulSet ho'
  exact ⟨o, ho, rfl⟩

def Unrelated (C : Set Config) : Request → Prop
  | .createChild k _ | .updateChild k _ | .deleteChild k => ∀ c ∉ C, c.kind ≠ k
  | .createStatefulSet _ | .updateStatefulSet _ => False
  | _ => True

lemma Unrelated.frame (hq : Unrelated C q) (t : Turn) (s : Store) : Frame C s (serve t q s).2 := by
  rcases serve_written t q s with h | hw
  · rw [h]
    exact .refl s
  · refine ⟨fun c hc => ?_, fun o' ho' => ?_⟩
    · rcases hw.child_cases c.kind with h | ⟨rfl, -⟩ | ⟨o, ⟨rfl, -⟩ | ⟨rfl, -⟩, -⟩
      · exact h
      · exact absurd rfl (hq c hc)
      · exact absurd rfl (hq c hc)
      · exact absurd rfl (hq c hc)
    · rcases hw.statefulSet_cases with h | ⟨o, ho, h⟩ | ⟨o, rfl | rfl, -⟩
      · exact ⟨o', h ▸ ho', rfl⟩
      · rw [h] at ho'
        cases ho'
        exact ⟨o, ho, rfl⟩
      · exact hq.elim
      · exact hq.elim

lemma serve_child_written {k : Kind} {o : DataObject} (hq : q = .createChild k o ∨ q = .updateChild k o) (t : Turn)
    (s : Store) : (serve t q s).2.child k = s.child k ∨
      ∃ version, (serve t q s).2.child k = some { o with metadata.resourceVersion := version } := by
  rcases serve_written t q s with hs | hw
  · exact Or.inl (congrArg (fun s => s.child k) hs)
  · rcases hw.child_cases k with hs | ⟨hd, -⟩ | ⟨o', ho', hs⟩
    · exact Or.inl hs
    · rcases hq with rfl | rfl <;> cases hd
    · have ho : o' = o := by
        rcases hq with rfl | rfl <;> rcases ho' with ⟨hq, -⟩ | ⟨hq, -⟩ <;> cases hq <;> rfl
      exact Or.inr ⟨_, ho ▸ hs⟩

lemma Passive.unrelated (h : Passive q) : Unrelated C q := by
  cases q <;> first | exact trivial | exact h.elim

lemma OnCluster.unrelated (h : OnCluster q) : Unrelated C q := by
  cases q <;> first | exact trivial | exact h.elim

lemma OnChild.unrelated {k : Kind} (hk : ∀ c ∉ C, c.kind ≠ k) (h : OnChild k q) : Unrelated C q := by
  cases q with
  | createChild j o =>
    cases h
    exact hk
  | updateChild j o =>
    cases h
    exact hk
  | _ => exact h.elim

lemma unrelated_startReconciling {r : Reconciler} (m : Memory) : (startReconciling r m).Sends (Unrelated C) := by
  have hsecret : ∀ c ∉ C, c.kind ≠ .defaultUserSecret := fun c _ => by cases c <;> exact nofun
  refine (sends_labelDefaultUserSecret (fun _ => Passive.unrelated) (fun _ => OnChild.unrelated hsecret) m).bind
    fun _ => sends_orReturn ((sends_rebalanceIfNeeded (fun _ => Passive.unrelated) (fun _ => OnCluster.unrelated)
      m).bind fun _ => trivial) fun m => ?_
  split
  · exact trivial
  · refine (sends_deleteChildren _ fun k hk c _ => ?_).bind fun _ => trivial
    rintro rfl
    cases c <;> simp [Config.kind] at hk

lemma Config.kind_ne {c' : Config} (h : c' ∉ ({c} : Set Config)) : c'.kind ≠ c.kind := by
  cases c <;> cases c' <;> first | exact absurd rfl h | exact nofun

def Holds (sts : StatefulSet) (s : Store) : Prop := ∀ o ∈ s.statefulSet, restartedAt o = restartedAt sts

lemma Holds.same {sts : StatefulSet} (h : Holds sts s) (hs : SameRestart s s') : Holds sts s' := by
  intro o' ho'
  obtain ⟨o, ho, hr⟩ := hs o' ho'
  exact hr.trans (h o ho)

lemma holds_of_stored {sts : StatefulSet} (h : s.statefulSet = some sts) : Holds sts s := by
  intro o ho
  cases h.symm.trans ho
  rfl

lemma Holds.frame {sts o : StatefulSet} (h : Holds sts s) (ho : restartedAt o = restartedAt sts) (t : Turn) :
    Frame C s (serve t (.updateStatefulSet o) s).2 := by
  rcases serve_written t (.updateStatefulSet o) s with hs | hw
  · rw [hs]
    exact .refl s
  · generalize (serve t (.updateStatefulSet o) s).2 = s' at hw
    cases hw with
    | statefulSetUpdated hstored _ =>
      refine ⟨fun _ _ => rfl, fun o' ho' => ?_⟩
      cases ho'
      exact ⟨_, hstored, ho.trans (h _ hstored).symm⟩

end Frame

section Found

variable {C : Set Config} {s s' : Store} {d d' : Config → Debt} {c : Config} {t : String}

def Config.Valid (c : Config) (t : String) (s : Store) : Prop :=
  match c with
  | plugins => t ≠ ""
  | server => ∀ o ∈ s.statefulSet, ∀ x ∈ restartedAt o, ¬ t < x

def Config.Found (c : Config) (s : Store) : Prop :=
  ∃ o ∈ s.child c.kind, ∃ t ∈ o.metadata.annotations.get? c.key, c.Valid t s

lemma Config.Valid.same (h : c.Valid t s) (hs : SameRestart s s') : c.Valid t s' := by
  cases c with
  | plugins => exact h
  | server =>
    intro o' ho' x hx
    obtain ⟨o, ho, hr⟩ := hs o' ho'
    exact h o ho x (hr ▸ hx)

lemma Config.Found.of_eq (h : c.Found s) (hchild : s'.child c.kind = s.child c.kind)
    (hvalid : ∀ t, c.Valid t s → c.Valid t s') : c.Found s' := by
  obtain ⟨o, ho, t, ht, hv⟩ := h
  exact ⟨o, hchild.symm ▸ ho, t, ht, hvalid t hv⟩

lemma Config.Found.frame (h : c.Found s) (hs : Frame C s s') (hc : c ∉ C) : c.Found s' :=
  h.of_eq (hs.child c hc) fun _ hv => hv.same hs.restart

lemma Config.Found.of_stored (h : c.Found s) {o : DataObject} (ho : s.child c.kind = some o) :
    ∃ t ∈ o.metadata.annotations.get? c.key, c.Valid t s := by
  obtain ⟨o', ho', h⟩ := h
  cases ho'.symm.trans ho
  exact h

def Eased (C : Set Config) (d d' : Config → Debt) : Prop := ∀ c ∉ C, d' c = .settled ∨ d' c = d c

lemma Eased.trans {d'' : Config → Debt} (h : Eased C d d') (h' : Eased C d' d'') : Eased C d d'' := by
  intro c hc
  rcases h' c hc with h' | h'
  · exact Or.inl h'
  · rw [h']
    exact h c hc

lemma Eased.ne_noted (h : Eased C d d') (hc : c ∉ C) (hd : d c ≠ .noted) : d' c ≠ .noted := by
  rcases h c hc with h | h <;> rw [h]
  · exact nofun
  · exact hd

lemma Eased.settled (h : Eased C d d') (hc : c ∉ C) (hd : d c = .settled) : d' c = .settled := by
  rcases h c hc with h | h
  · exact h
  · exact h.trans hd

end Found

section Events

variable {ini : Ini} {c : Config} {e : Event api Store} {d : Config → Debt}

noncomputable abbrev debts (ini : Ini) : (Config → Debt) → Event api Store → Config → Debt :=
  owe (Config.Changed ini) Config.Marked Config.Applied

lemma not_changed_of_eq (h : e.after.child c.kind = e.before.child c.kind) : ¬ c.Changed ini e := by
  rintro ⟨o, ho, o', ho', hdiffers⟩
  cases (ho'.symm.trans h).trans ho
  cases c <;> exact hdiffers rfl

lemma not_marked_of_eq (h : e.after.child c.kind = e.before.child c.kind) : ¬ c.Marked e := by
  rintro ⟨o, ho, o', ho', hversion, -⟩
  cases (ho'.symm.trans h).trans ho
  exact hversion rfl

lemma debts_of_eq (h : e.after.child c.kind = e.before.child c.kind) :
    debts ini d e c = .settled ∨ debts ini d e c = d c :=
  Debt.after_eq _ (not_changed_of_eq h) (not_marked_of_eq h)

lemma debts_settled (h : e.after.child c.kind = e.before.child c.kind) (happlied : c.Applied e) :
    debts ini d e c = .settled :=
  Debt.after_settles (not_changed_of_eq h) happlied

end Events

section Sound

abbrev Ledger := History × (Config → Debt)

variable (r : Reconciler)

noncomputable def note (g : Ledger) (e : Event api Store) : Ledger :=
  ((protocol r).observe g.1 e, debts r.ini g.2 e)

/-- What has been noted down is found in the store. -/
structure Sound (x : Store × Ledger) : Prop where
  found : ∀ c, x.2.2 c = .noted → c.Found x.1
  usable : ∀ v ∈ x.2.1.received, Usable v

noncomputable abbrev advance (t : Turn) (q : Request) (x : Store × Ledger) : Store × Ledger :=
  ((server.event t q x.1).after, note r x.2 (server.event t q x.1))

/-- Under fair conditions, the store remembers at every point what is owed. -/
abbrev Careful {α : Type} (p : Operation α) (Q : α → Store × Ledger → Prop) (x : Store × Ledger) : Prop :=
  Meets (server.track (note r)) (fun e => Fair e.untrack) (fun e => Sound e.after) p Q x

structure Onward (C : Set Config) (x x' : Store × Ledger) : Prop where
  sound : Sound x'
  frame : Frame C x.1 x'.1
  eased : Eased C x.2.2 x'.2.2

variable {r} {C : Set Config} {c : Config} {x x' x'' : Store × Ledger} {t : Turn} {q : Request} {α β : Type}

lemma Sound.onward (h : Sound x) : Onward C x x := ⟨h, .refl _, fun _ _ => Or.inr rfl⟩

lemma Onward.trans (h : Onward C x x') (h' : Onward C x' x'') : Onward C x x'' :=
  ⟨h'.sound, h.frame.trans h'.frame, h.eased.trans h'.eased⟩

lemma Sound.of_found (h : Sound x) (hfair : Fair (server.event t q x.1))
    (hfound : ∀ c, debts r.ini x.2.2 (server.event t q x.1) c = .noted → c.Found (server.event t q x.1).after) :
    Sound (advance r t q x) := by
  refine ⟨hfound, fun v hv => ?_⟩
  change v ∈ ((protocol r).observe x.2.1 (server.event t q x.1)).received at hv
  rw [Protocol.observe, protocol, record_received, List.mem_append, Option.mem_toList] at hv
  rcases hv with hv | hv
  · exact hfair.cluster v hv
  · exact h.usable v hv

lemma Sound.framed (h : Sound x) (hfair : Fair (server.event t q x.1))
    (hframe : Frame C (server.disturb t x.1) (serve t q (server.disturb t x.1)).2)
    (hfound : ∀ c ∈ C, debts r.ini x.2.2 (server.event t q x.1) c = .noted → c.Found (server.event t q x.1).after) :
    Onward C x (advance r t q x) := by
  have hframe' : Frame C x.1 (server.event t q x.1).after := (frame_disturb t x.1).trans hframe
  have heased : Eased C x.2.2 (debts r.ini x.2.2 (server.event t q x.1)) :=
    fun c hc => debts_of_eq (hframe.child c hc)
  refine ⟨h.of_found hfair fun c hnoted => ?_, hframe', heased⟩
  by_cases hc : c ∈ C
  · exact hfound c hc hnoted
  · rcases heased c hc with hd | hd
    · cases hnoted.symm.trans hd
    · exact (h.found c (hd.symm.trans hnoted)).frame hframe' hc

lemma Sound.written {o : DataObject} (h : Sound x) (hfair : Fair (server.event t q x.1))
    (hq : q = .createChild c.kind o ∨ q = .updateChild c.kind o)
    (hsent : ∀ version, (server.event t q x.1).after.child c.kind =
        some { o with metadata.resourceVersion := version } →
      x.2.2 c = .noted ∨ x.2.2 c = .raised ∧ c.Marked (server.event t q x.1) →
      ∃ u ∈ o.metadata.annotations.get? c.key, c.Valid u x.1) :
    Onward {c} x (advance r t q x) := by
  have hrelated : Unrelated {c} q := by
    rcases hq with rfl | rfl <;> exact fun _ => Config.kind_ne
  have hframe := hrelated.frame t (server.disturb t x.1)
  have hsame : SameRestart x.1 (server.event t q x.1).after := ((frame_disturb t x.1).trans hframe).restart
  refine h.framed hfair hframe fun c' hc' hnoted => ?_
  cases hc'
  rcases serve_child_written hq t (server.disturb t x.1) with hs | ⟨version, hs⟩
  · rcases debts_of_eq (e := server.event t q x.1) hs with hd | hd
    · cases hnoted.symm.trans hd
    · refine (h.found c (hd.symm.trans hnoted)).of_eq (hs.trans ?_) fun _ hv => hv.same hsame
      exact congrFun (disturb_child t x.1) _
  · obtain ⟨u, hu, hvalid⟩ := hsent version hs (Debt.eq_of_after_noted hnoted)
    exact ⟨_, hs, u, hu, hvalid.same hsame⟩

end Sound

end ClusterOperator.Controller
