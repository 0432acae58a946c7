import ClusterOperator.Interaction.Contract
import ClusterOperator.Interaction.Protocol

/-! Obligations that one event raises and a later one settles. A client that may stop at any
request notes down what it owes; the notes, not its memory, last from one execution to the next. -/

namespace ClusterOperator.Interaction

section Events

variable {ε : Type}

def Answered (raises settles : ε → Prop) : List ε → Prop
  | [] => True
  | e :: es => (raises e → ∃ d ∈ es, settles d) ∧ Answered raises settles es

instance Answered.decidable (raises settles : ε → Prop) [DecidablePred raises] [DecidablePred settles] :
    (es : List ε) → Decidable (Answered raises settles es)
  | [] => inferInstanceAs (Decidable True)
  | _ :: es => @instDecidableAnd _ _ _ (Answered.decidable raises settles es)

inductive Debt
  | settled
  | raised
  | noted

open Classical in
noncomputable def Debt.after (raises notes settles : ε → Prop) (d : Debt) (e : ε) : Debt :=
  if raises e then .raised
  else if settles e then .settled
  else if notes e ∧ d = .raised then .noted
  else d

variable {raises notes settles : ε → Prop} {d : Debt} {e : ε} {es : List ε}

lemma Debt.after_settles (hr : ¬ raises e) (hs : settles e) : d.after raises notes settles e = .settled := by
  rw [Debt.after, if_neg hr, if_pos hs]

lemma Debt.after_eq (d : Debt) (hr : ¬ raises e) (hn : ¬ notes e) :
    d.after raises notes settles e = .settled ∨ d.after raises notes settles e = d := by
  rw [Debt.after, if_neg hr]
  split
  · exact Or.inl rfl
  · rw [if_neg fun h => hn h.1]
    exact Or.inr rfl

lemma Debt.after_notes (hr : ¬ raises e) (hn : notes e) : d.after raises notes settles e ≠ .raised := by
  rw [Debt.after, if_neg hr]
  split
  · exact nofun
  · split
    · exact nofun
    · rename_i hd
      exact fun h => hd ⟨hn, h⟩

lemma Debt.eq_of_after_noted (h : d.after raises notes settles e = .noted) :
    d = .noted ∨ d = .raised ∧ notes e := by
  unfold Debt.after at h
  split at h
  · cases h
  · split at h
    · cases h
    · split at h
      next hn => exact Or.inr ⟨hn.2, hn.1⟩
      next => exact Or.inl h

lemma settles_of_settled (es : List ε) {d : Debt} (h : es.foldl (Debt.after raises notes settles) d = .settled) :
    d = .settled ∨ ∃ e ∈ es, settles e := by
  induction es generalizing d with
  | nil => exact Or.inl h
  | cons e es ih =>
    rcases ih h with he | ⟨e', he', hs⟩
    · by_cases hs : settles e
      · exact Or.inr ⟨e, List.mem_cons_self, hs⟩
      · unfold Debt.after at he
        rw [if_neg hs] at he
        split at he
        · cases he
        · split at he
          · cases he
          · exact Or.inl he
    · exact Or.inr ⟨e', List.mem_cons_of_mem _ he', hs⟩

lemma answered_of_settled (es : List ε) (d : Debt) (h : es.foldl (Debt.after raises notes settles) d = .settled) :
    Answered raises settles es := by
  induction es generalizing d with
  | nil => trivial
  | cons e es ih =>
    refine ⟨fun hr => ?_, ih _ h⟩
    rcases settles_of_settled es h with he | hs
    · rw [Debt.after, if_pos hr] at he
      cases he
    · exact hs

lemma ne_raised_of_answered (h : Answered raises notes es) (hd : d = .raised → ∃ e ∈ es, notes e) :
    es.foldl (Debt.after raises notes settles) d ≠ .raised := by
  induction es generalizing d with
  | nil =>
    intro he
    obtain ⟨e, he, -⟩ := hd he
    cases he
  | cons e es ih =>
    refine ih h.2 fun he => ?_
    by_cases hr : raises e
    · exact h.1 hr
    · by_cases hn : notes e
      · exact absurd he (Debt.after_notes hr hn)
      · have hd' := (Debt.after_eq d hr hn).resolve_left fun h => nomatch he.symm.trans h
        · obtain ⟨e', he', hn'⟩ := hd (hd'.symm.trans he)
          rcases List.mem_cons.mp he' with rfl | he'
          · exact absurd hn' hn
          · exact ⟨e', he', hn'⟩

end Events

section Deadlines

variable {I : Interface} {S T α ε : Type} {srv : Server I S T} {p : Program I α}

/-- Nothing comes between an event with `raises` and the `n` events after it: none of them fails,
and an execution that ends before they are over has returned. -/
def Undisturbed (raises fails : ε → Prop) (n : ℕ) (returned : Bool) : List ε → Prop
  | [] => True
  | e :: es =>
    (raises e → ¬ fails e ∧ (returned = true ∨ n ≤ es.length) ∧ ∀ d ∈ es.take n, ¬ fails d) ∧
      Undisturbed raises fails n returned es

instance Undisturbed.decidable (raises fails : ε → Prop) [DecidablePred raises] [DecidablePred fails] (n : ℕ)
    (returned : Bool) : (es : List ε) → Decidable (Undisturbed raises fails n returned es)
  | [] => inferInstanceAs (Decidable True)
  | _ :: es => @instDecidableAnd _ _ _ (Undisturbed.decidable raises fails n returned es)

open Classical in
noncomputable def countdown (raises : ε → Prop) (n w : ℕ) (e : ε) : ℕ := if raises e then n else w - 1

variable {raises fails notes : Event I S → Prop} {n w : ℕ} {s : S} {Q : α → S × ℕ → Prop}

variable (srv raises fails notes n) in
/-- The last event of a countdown notes down what has been raised, if none of its events fails. -/
abbrev Timely (p : Program I α) (Q : α → S × ℕ → Prop) (x : S × ℕ) : Prop :=
  Meets (srv.track (countdown raises n)) (fun e => 0 < e.before.2 ∨ raises e.untrack → ¬ fails e.untrack)
    (fun e => e.before.2 = 1 → notes e.untrack) p Q x

lemma timely_send {r : I.Request} {next : I.Reply r → Program I α} :
    Timely srv raises fails notes n (.send r next) Q (s, w) ↔
      ∀ t, (0 < w ∨ raises (srv.event t r s) → ¬ fails (srv.event t r s)) →
        (w = 1 → notes (srv.event t r s)) ∧ Timely srv raises fails notes n (next (srv.event t r s).reply) Q
          ((srv.event t r s).after, countdown raises n w (srv.event t r s)) := Iff.rfl

lemma Timely.answered (hn : 0 < n) (hQ : ∀ a x, Q a x → x.2 = 0)
    (hp : Timely srv raises fails notes n p Q (s, w)) (ts : List T)
    (hw : (run srv p ts s).result.isSome = true ∨ w ≤ (run srv p ts s).trace.length)
    (hcalls : ∀ d ∈ (run srv p ts s).trace.take w, ¬ fails d)
    (h : Undisturbed raises fails n (run srv p ts s).result.isSome (run srv p ts s).trace) :
    Answered raises notes (run srv p ts s).trace ∧ (0 < w → ∃ d ∈ (run srv p ts s).trace, notes d) := by
  induction p generalizing ts s w with
  | done a =>
    have hzero : w = 0 := hQ a _ hp
    rw [run_done]
    exact ⟨trivial, fun hpos => by omega⟩
  | send r next ih =>
    cases ts with
    | nil =>
      have hzero : w = 0 := Nat.le_zero.mp (hw.resolve_left nofun)
      exact ⟨trivial, fun hpos => by omega⟩
    | cons t ts =>
      rw [run_send_cons] at hw hcalls h ⊢
      dsimp only at hw hcalls h ⊢
      -- The countdown goes on, and what it still has to cover is as undisturbed as before.
      have hcover : (0 < w → ¬ fails (srv.event t r s)) ∧
          ((run srv (next (srv.event t r s).reply) ts (srv.event t r s).after).result.isSome = true ∨
            w - 1 ≤ (run srv (next (srv.event t r s).reply) ts (srv.event t r s).after).trace.length) ∧
          ∀ d ∈ (run srv (next (srv.event t r s).reply) ts (srv.event t r s).after).trace.take (w - 1),
            ¬ fails d := by
        cases w with
        | zero => simp
        | succ w =>
          refine ⟨fun _ => hcalls _ List.mem_cons_self, hw.imp_right ?_,
            fun d hd => hcalls d (List.mem_cons_of_mem _ hd)⟩
          exact Nat.le_of_succ_le_succ
      obtain ⟨hnotes, hrest⟩ := timely_send.mp hp t fun hevent => hevent.elim hcover.1 fun hr => (h.1 hr).1
      unfold countdown at hrest
      by_cases hr : raises (srv.event t r s)
      · rw [if_pos hr] at hrest
        obtain ⟨hanswered, hmem⟩ := ih _ hrest ts (h.1 hr).2.1 (h.1 hr).2.2 h.2
        obtain ⟨d, hd, hnoted⟩ := hmem hn
        exact ⟨⟨fun _ => ⟨d, hd, hnoted⟩, hanswered⟩, fun _ => ⟨d, List.mem_cons_of_mem _ hd, hnoted⟩⟩
      · rw [if_neg hr] at hrest
        obtain ⟨hanswered, hmem⟩ := ih _ hrest ts hcover.2.1 hcover.2.2 h.2
        refine ⟨⟨fun h => absurd h hr, hanswered⟩, fun hpos => ?_⟩
        by_cases hone : w = 1
        · exact ⟨_, List.mem_cons_self, hnotes hone⟩
        · obtain ⟨d, hd, hnoted⟩ := hmem (by omega)
          exact ⟨d, List.mem_cons_of_mem _ hd, hnoted⟩

lemma answered_of_undisturbed (hn : 0 < n) (hQ : ∀ a x, Q a x → x.2 = 0)
    (hp : Timely srv raises fails notes n p Q (s, 0)) (ts : List T)
    (h : Undisturbed raises fails n (run srv p ts s).result.isSome (run srv p ts s).trace) :
    Answered raises notes (run srv p ts s).trace :=
  (hp.answered hn hQ ts (Or.inr (Nat.zero_le _)) (by simp) h).1

end Deadlines

section Rounds

variable {I : Interface} {S T α ι : Type} {srv : Server I S T} {p : Program I α}
  (raises notes settles : ι → Event I S → Prop)

noncomputable def owe (d : ι → Debt) (e : Event I S) (i : ι) : Debt :=
  (d i).after (raises i) (notes i) (settles i) e

lemma foldl_owe (d : ι → Debt) (es : List (Event I S)) (i : ι) :
    es.foldl (owe raises notes settles) d i = es.foldl (Debt.after (raises i) (notes i) (settles i)) (d i) := by
  induction es generalizing d with
  | nil => rfl
  | cons e es ih => exact ih _

variable {raises notes settles}

/-- The rule for one execution after another. Each notes down what it raises before it ends, and
`J` says that what is noted down is found again; then an execution with a result in `D` has settled
whatever was raised before. -/
theorem answered_rounds {J : S → (ι → Debt) → Prop} {A : List (Event I S) → Prop} {D : α → Prop}
    (hround : ∀ ts s d, J s d → (∀ i, d i ≠ .raised) → A (run srv p ts s).trace →
      J (run srv p ts s).final ((run srv p ts s).trace.foldl (owe raises notes settles) d) ∧
        ∀ a, (run srv p ts s).result = some a → D a →
          ∀ i, (run srv p ts s).trace.foldl (owe raises notes settles) d i ≠ .noted)
    {s : S} (hs : J s fun _ => .settled) {tss : List (List T)}
    (hA : ∀ o ∈ rounds srv p tss s, A o.trace ∧ ∀ i, Answered (raises i) (notes i) o.trace)
    {earlier later : List (Outcome I S α)} {o : Outcome I S α} {a : α}
    (hrounds : rounds srv p tss s = earlier ++ o :: later) (ha : o.result = some a) (hdone : D a) (i : ι) :
    Answered (raises i) (settles i) (earlier.flatMap Outcome.trace ++ o.trace) := by
  have hnot (d : ι → Debt) (hd : ∀ i, d i ≠ .raised) {o : Outcome I S α} (ho : o ∈ rounds srv p tss s) (i : ι) :
      o.trace.foldl (owe raises notes settles) d i ≠ .raised := by
    rw [foldl_owe]
    exact ne_raised_of_answered ((hA o ho).2 i) fun h => absurd h (hd i)
  suffices h : ∀ (d : ι → Debt), J s d → (∀ i, d i ≠ .raised) →
      (earlier.flatMap Outcome.trace ++ o.trace).foldl (owe raises notes settles) d i = .settled by
    have hsettled := h _ hs fun _ => nofun
    rw [foldl_owe] at hsettled
    exact answered_of_settled _ _ hsettled
  clear hs
  induction earlier generalizing tss s with
  | nil =>
    intro d hJ hd
    cases tss with
    | nil => cases hrounds
    | cons ts tss =>
      obtain ⟨rfl, -⟩ := List.cons.inj hrounds
      have hraised := hnot d hd List.mem_cons_self i
      have hnoted := (hround ts s d hJ hd (hA _ List.mem_cons_self).1).2 a ha hdone i
      rw [List.flatMap_nil, List.nil_append]
      generalize (run srv p ts s).trace.foldl (owe raises notes settles) d i = d' at hraised hnoted
      cases d' with
      | settled => rfl
      | raised => exact absurd rfl hraised
      | noted => exact absurd rfl hnoted
  | cons o' earlier ih =>
    intro d hJ hd
    cases tss with
    | nil => cases hrounds
    | cons ts tss =>
      obtain ⟨rfl, hrest⟩ := List.cons.inj hrounds
      rw [List.flatMap_cons, List.append_assoc, List.foldl_append]
      exact ih (fun o ho => hA o (List.mem_cons_of_mem _ ho)) hrest
        (fun d hd o ho => hnot d hd (List.mem_cons_of_mem _ ho)) _
        (hround ts s d hJ hd (hA _ List.mem_cons_self).1).1 (hnot d hd List.mem_cons_self)

end Rounds

end ClusterOperator.Interaction
