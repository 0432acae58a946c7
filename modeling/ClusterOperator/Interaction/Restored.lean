import ClusterOperator.Interaction.Contract

/-! Sequences in which the values other than zero never go down and come back after zeros as
they were before them, and the programs whose executions keep a state to such a sequence. -/

namespace ClusterOperator.Interaction

section Sequences

/-- The last value other than zero, and whether a zero came after it. -/
structure Seen (V : Type) where
  last : Option V := none
  zero : Bool := false

variable {V : Type} [Zero V]

namespace Seen

variable {g : Seen V} {v : V}

section Order

variable [Preorder V]

def Allows (g : Seen V) (v : V) : Prop :=
  v = 0 ∨ ∀ k ∈ g.last, if g.zero then v = k else k ≤ v

lemma allows_of_none (h : g.last = none) : g.Allows v := Or.inr fun k hk => by simp [h] at hk

lemma Allows.le {k : V} (h : g.Allows v) (hk : k ∈ g.last) (hv : v ≠ 0) : k ≤ v := by
  have hall := h.resolve_left hv k hk
  split at hall
  · exact hall.ge
  · exact hall

end Order

variable [DecidableEq V]

def note (g : Seen V) (v : V) : Seen V :=
  if v = 0 then { g with zero := true } else { last := some v }

def after (l : List V) : Seen V := l.foldl note {}

lemma after_append (l l' : List V) : after (l ++ l') = l'.foldl note (after l) := List.foldl_append

lemma note_zero : g.note 0 = { g with zero := true } := if_pos rfl

lemma note_of_ne (h : v ≠ 0) : g.note v = { last := some v } := if_neg h

lemma last_note_zero : (g.note 0).last = g.last := by rw [note_zero]

lemma note_note : (g.note v).note v = g.note v := by
  by_cases h : v = 0
  · rw [h, note_zero, note_zero]
  · rw [note_of_ne h, note_of_ne h]

lemma foldl_note_zeros {zeros : List V} (hz : ∀ z ∈ zeros, z = 0) (hne : zeros ≠ []) :
    zeros.foldl note g = { g with zero := true } := by
  induction zeros generalizing g with
  | nil => exact absurd rfl hne
  | cons z zeros ih =>
    obtain rfl := hz z List.mem_cons_self
    rw [List.foldl_cons, note_zero]
    by_cases hnil : zeros = []
    · rw [hnil, List.foldl_nil]
    · rw [ih (fun z h => hz z (List.mem_cons_of_mem _ h)) hnil]

lemma allows_of_noted [Preorder V] (h : g.note v = g) : g.Allows v := by
  by_cases hv : v = 0
  · exact Or.inl hv
  · rw [note_of_ne hv] at h
    subst h
    refine Or.inr fun k hk => ?_
    cases hk
    exact le_rfl

end Seen

variable [Preorder V] [DecidableEq V]

def Restored : Seen V → List V → Prop
  | _, [] => True
  | g, v :: l => g.Allows v ∧ Restored (g.note v) l

variable {g : Seen V} {l l' : List V}

lemma restored_append : Restored g (l ++ l') ↔ Restored g l ∧ Restored (l.foldl Seen.note g) l' := by
  induction l generalizing g with
  | nil => simp [Restored]
  | cons v l ih => rw [List.cons_append, Restored, Restored, List.foldl_cons, ih, and_assoc]

lemma Restored.le (h : Restored g l) {k : V} (hk : k ∈ g.last) : ∀ v ∈ l, v ≠ 0 → k ≤ v := by
  induction l generalizing g k with
  | nil => simp
  | cons v l ih =>
    intro w hw hne
    rcases List.mem_cons.mp hw with rfl | hw
    · exact h.1.le hk hne
    · by_cases hv : v = 0
      · refine ih h.2 ?_ w hw hne
        rw [hv, Seen.last_note_zero]
        exact hk
      · refine (h.1.le hk hv).trans (ih h.2 ?_ w hw hne)
        rw [Seen.note_of_ne hv]
        rfl

theorem Restored.pairwise (h : Restored g l) : (l.filter (· ≠ 0)).Pairwise (· ≤ ·) := by
  induction l generalizing g with
  | nil => simp
  | cons v l ih =>
    by_cases hv : v = 0
    · simpa [hv] using ih h.2
    · rw [List.filter_cons_of_pos (by simpa using hv), List.pairwise_cons]
      refine ⟨fun w hw => ?_, ih h.2⟩
      obtain ⟨hw, hne⟩ := List.mem_filter.mp hw
      refine h.2.le ?_ w hw (of_decide_eq_true hne)
      rw [Seen.note_of_ne hv]
      rfl

theorem Restored.restores {before zeros after : List V} {a b : V}
    (h : Restored g (before ++ a :: (zeros ++ b :: after))) (ha : a ≠ 0) (hb : b ≠ 0) (hne : zeros ≠ [])
    (hz : ∀ z ∈ zeros, z = 0) : b = a := by
  obtain ⟨-, -, h⟩ := restored_append.mp h
  obtain ⟨-, hallows, -⟩ := restored_append.mp h
  rw [Seen.foldl_note_zeros hz hne, Seen.note_of_ne ha] at hallows
  exact hallows.resolve_left hb a rfl

end Sequences

section Runs

variable {I : Interface} {S T V α : Type} [Preorder V] [Zero V] [DecidableEq V]

def values (view : S → Option V) (es : List (Event I S)) : List V := es.filterMap fun e => view e.after

def Moves (view : S → Option V) (v : V) (may : Prop) (e : Event I S) : Prop :=
  ∀ w ∈ view e.after, w ∈ view e.before ∨ may ∧ w = v

variable {srv : Server I S T} {view : S → Option V} {v : V} {may : Prop} {p : Program I α}
  {Q : α → S → Prop} {s : S} {g : Seen V}

theorem Meets.traced (hp : Meets srv (fun _ => True) (Moves view v may) p Q s)
    (hdisturb : ∀ t s, ∀ w ∈ view (srv.disturb t s), w ∈ view s) (hs : ∀ w ∈ view s, g.note w = g)
    (hmay : may → g.Allows v) (ts : List T) :
    Restored g (values view (run srv p ts s).trace) ∧
      (∀ w ∈ view (run srv p ts s).final,
        ((values view (run srv p ts s).trace).foldl Seen.note g).note w =
          (values view (run srv p ts s).trace).foldl Seen.note g) ∧
      ((may → v = 0) → ((values view (run srv p ts s).trace).foldl Seen.note g).last = g.last) := by
  induction p generalizing ts s g with
  | done a => exact ⟨trivial, by simpa [values] using hs, fun _ => by simp [values]⟩
  | send r next ih =>
    cases ts with
    | nil => exact ⟨trivial, hs, fun _ => rfl⟩
    | cons t ts =>
      obtain ⟨hmoves, hp⟩ := hp t trivial
      rw [run_send_cons]
      cases hv : view (srv.event t r s).after with
      | none =>
        have hvalues (es : List (Event I S)) : values view (srv.event t r s :: es) = values view es :=
          List.filterMap_cons_none hv
        rw [hvalues]
        exact ih _ hp (by simp [hv]) hmay ts
      | some w =>
        have hvalues (es : List (Event I S)) : values view (srv.event t r s :: es) = w :: values view es :=
          List.filterMap_cons_some hv
        -- the value is the one of before, which has been noted, or the new one
        have hw : g.note w = g ∨ may ∧ w = v :=
          (hmoves w hv).imp_left fun hw => hs w (hdisturb t s w hw)
        have hallows : g.Allows w := by
          rcases hw with hw | ⟨hm, rfl⟩
          · exact Seen.allows_of_noted hw
          · exact hmay hm
        have hlast : (may → v = 0) → (g.note w).last = g.last := by
          intro hzero
          rcases hw with hw | ⟨hm, rfl⟩
          · rw [hw]
          · rw [hzero hm, Seen.last_note_zero]
        have hnext : may → (g.note w).Allows v := by
          intro hm
          rcases hw with hw | ⟨-, rfl⟩
          · rw [hw]
            exact hmay hm
          · exact Seen.allows_of_noted Seen.note_note
        obtain ⟨hrest, hnoted, hsame⟩ := ih _ hp (g := g.note w)
          (fun w' hw' => by rw [hv] at hw'; cases hw'; exact Seen.note_note) hnext ts
        rw [hvalues, List.foldl_cons]
        exact ⟨⟨hallows, hrest⟩, hnoted, fun hz => (hsame hz).trans (hlast hz)⟩

end Runs

end ClusterOperator.Interaction
