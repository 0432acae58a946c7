import ClusterOperator.Interaction.Protocol

namespace ClusterOperator.Interaction

variable {I : Interface} {S T G α : Type} {srv : Server I S T} {p : Program I α} {Q : α → S × G → Prop}
  {note : G → Event I S → G} {g : G} {A E : Event I S → Prop} {J : S → Prop}

lemma Follows.assuming {P : Protocol I Unit} {Q : α → Prop} (hp : Follows P p (fun a _ => Q a) ())
    (hexpects : ∀ t q s, A (srv.event t q s) → P.expects () q (srv.event t q s).reply) (s : S) :
    Meets srv A (fun _ => True) p (fun a _ => Q a) s := by
  induction p generalizing s with
  | done a => exact hp
  | send q next ih => exact fun t ht => ⟨trivial, ih _ (hp.2 _ (hexpects t q s ht)) _⟩

lemma Meets.run_track {s : S} (hs : J s)
    (hp : Meets (srv.track note) (fun e => A e.untrack) (fun e => J e.after.1 ∧ E e.untrack) p Q (s, g))
    (ts : List T) (hA : ∀ e ∈ (run srv p ts s).trace, A e) :
    (∀ e ∈ (run srv p ts s).trace, J e.after ∧ E e) ∧ J (run srv p ts s).final := by
  obtain ⟨htrace, hfinal, -⟩ := Interaction.run_track srv note p ts s g
  have hassumed : ∀ e ∈ (run (srv.track note) p ts (s, g)).trace, A e.untrack := fun e he =>
    hA _ (htrace ▸ List.mem_map_of_mem he)
  refine ⟨fun e he => ?_, ?_⟩
  · rw [← htrace] at he
    obtain ⟨d, hd, rfl⟩ := List.mem_map.mp he
    exact (hp.sound ts hassumed).1 d hd
  · have hend := hp.final (J := fun x => J x.1) (fun e he => he.1) hs ts hassumed
    rwa [hfinal] at hend

lemma rounds_invariant
    (hp : ∀ s, J s → ∀ ts, (∀ e ∈ (run srv p ts s).trace, A e) →
      (∀ e ∈ (run srv p ts s).trace, J e.after ∧ E e) ∧ J (run srv p ts s).final)
    {s : S} (hs : J s) (tss : List (List T)) (hA : ∀ e ∈ (rounds srv p tss s).flatMap Outcome.trace, A e) :
    ∀ e ∈ (rounds srv p tss s).flatMap Outcome.trace, J e.after ∧ E e := by
  induction tss generalizing s with
  | nil => exact fun e he => absurd he List.not_mem_nil
  | cons ts tss ih =>
    rw [rounds, List.flatMap_cons] at hA ⊢
    obtain ⟨hevents, hend⟩ := hp s hs ts fun e he => hA e (List.mem_append_left _ he)
    intro e he
    rcases List.mem_append.mp he with he | he
    · exact hevents e he
    · exact ih hend (fun e he => hA e (List.mem_append_right _ he)) e he

theorem Meets.rounds {Q : α → S → Prop} (hp : ∀ s, J s → Meets srv A (fun e => J e.after ∧ E e) p Q s) {s : S}
    (hs : J s) (tss : List (List T)) (hA : ∀ e ∈ (rounds srv p tss s).flatMap Outcome.trace, A e) :
    ∀ e ∈ (Interaction.rounds srv p tss s).flatMap Outcome.trace, J e.after ∧ E e :=
  rounds_invariant (fun s hs ts hA => ⟨((hp s hs).sound ts hA).1, (hp s hs).final (fun _ he => he.1) hs ts hA⟩)
    hs tss hA

lemma rounds_of_sends {R : I.Request → Prop} (hp : p.Sends R) (hE : ∀ t q s, R q → E (srv.event t q s))
    (tss : List (List T)) (s : S) : ∀ e ∈ (Interaction.rounds srv p tss s).flatMap Outcome.trace, E e := by
  have hmeets (s : S) (_ : True) :
      Meets srv (fun _ => True) (fun e => True ∧ E e) p (fun _ _ => True) s :=
    Meets.of_sends hp (fun t q s hq _ _ => ⟨⟨trivial, hE t q s hq⟩, trivial⟩) trivial
  exact fun e he => (Meets.rounds (J := fun _ => True) hmeets trivial tss (fun _ _ => trivial) e he).2

section Along

variable {H : Type} {P : Protocol I H}

instance Protocol.decidableAlong (E : H → Event I S → Prop) [∀ h e, Decidable (E h e)] :
    (h : H) → (es : List (Event I S)) → Decidable (P.Along E h es)
  | _, [] => inferInstanceAs (Decidable True)
  | _, _ :: es => @instDecidableAnd _ _ _ (Protocol.decidableAlong E _ es)

lemma Protocol.Along.combine {E E' F : H → Event I S → Prop} (hF : ∀ h e, E h e → E' h e → F h e) {h : H}
    {es : List (Event I S)} (hE : P.Along E h es) (hE' : P.Along E' h es) : P.Along F h es := by
  induction es generalizing h with
  | nil => trivial
  | cons e es ih => exact ⟨hF h e hE.1 hE'.1, ih hE.2 hE'.2⟩

lemma Meets.along_track {E : H → Event I S → Prop} {f : G → H} (hnote : ∀ g e, f (note g e) = P.observe (f g) e)
    {s : S} (hp : Meets (srv.track note) (fun e => A e.untrack) (fun e => E (f e.before.2) e.untrack) p Q (s, g))
    (ts : List T) (hA : ∀ e ∈ (run srv p ts s).trace, A e) : P.Along E (f g) (run srv p ts s).trace := by
  induction p generalizing ts s g with
  | done a =>
    rw [run_done]
    trivial
  | send q next ih =>
    cases ts with
    | nil => trivial
    | cons t ts =>
      rw [run_send_cons] at hA ⊢
      obtain ⟨hE, hrest⟩ := hp t (hA _ List.mem_cons_self)
      refine ⟨hE, ?_⟩
      rw [← hnote]
      exact ih _ hrest ts fun e he => hA e (List.mem_cons_of_mem _ he)

lemma along_rounds {E : H → Event I S → Prop}
    (hp : ∀ ts s h, (∀ e ∈ (run srv p ts s).trace, A e) → P.Along E h (run srv p ts s).trace)
    (tss : List (List T)) (s : S) (h : H) (hA : ∀ e ∈ (rounds srv p tss s).flatMap Outcome.trace, A e) :
    P.Along E h ((rounds srv p tss s).flatMap Outcome.trace) := by
  induction tss generalizing s h with
  | nil => trivial
  | cons ts tss ih =>
    rw [rounds, List.flatMap_cons] at hA ⊢
    rw [Protocol.along_append]
    exact ⟨hp ts s h fun e he => hA e (List.mem_append_left _ he),
      ih _ _ fun e he => hA e (List.mem_append_right _ he)⟩

end Along

end ClusterOperator.Interaction
