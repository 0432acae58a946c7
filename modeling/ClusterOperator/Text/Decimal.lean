import Mathlib.Tactic

namespace ClusterOperator.Text

lemma toString_nat_injective : Function.Injective (toString : ℕ → String) := by
  intro i j h
  have hl : i.repr.toList = j.repr.toList := congrArg String.toList h
  rw [Nat.toList_repr, Nat.toList_repr] at hl
  simpa only [Nat.ofDigitChars_ten_toDigits] using congrArg (fun l => Nat.ofDigitChars 10 l 0) hl

lemma head_toString_nat {n : ℕ} {c : Char} (h : (toString n).toList.head? = some c) : c.isDigit = true := by
  rw [Nat.toString_eq_repr, Nat.toList_repr] at h
  exact Nat.isDigit_of_mem_toDigits (by decide) le_rfl (List.mem_of_head? h)

lemma head_toString_negSucc (n : ℕ) : (toString (Int.negSucc n)).toList.head? = some '-' := by
  have hl : "-".toList.head? = some '-' := by decide
  have hn : toString (Int.negSucc n) = "-" ++ toString (n + 1) := rfl
  rw [hn, String.toList_append, List.head?_append, hl, Option.some_or]

lemma head_toString_int {z : ℤ} {c : Char} (h : (toString z).toList.head? = some c) :
    c = '-' ∨ c.isDigit = true := by
  cases z with
  | ofNat n => exact Or.inr (head_toString_nat h)
  | negSucc n =>
    rw [head_toString_negSucc, Option.some.injEq] at h
    exact Or.inl h.symm

lemma toString_int_eq_nat {z : ℤ} {n : ℕ} (h : toString z = toString n) : z = n := by
  cases z with
  | ofNat k => exact congrArg Int.ofNat (toString_nat_injective h)
  | negSucc k =>
    have hd := head_toString_nat (h ▸ head_toString_negSucc k)
    exact absurd hd (by decide)

lemma dropWhile_toString_nat (s : String) (n : ℕ) :
    (s ++ "-" ++ toString n).toList.reverse.dropWhile Char.isDigit = '-' :: s.toList.reverse := by
  have hdigits : ∀ c ∈ (toString n).toList.reverse, c.isDigit = true := by
    intro c hc
    rw [List.mem_reverse, Nat.toString_eq_repr, Nat.toList_repr] at hc
    exact Nat.isDigit_of_mem_toDigits (by decide) le_rfl hc
  have hdash : "-".toList.reverse = ['-'] := by decide
  rw [String.toList_append, String.toList_append, List.reverse_append, List.reverse_append,
    List.dropWhile_append_of_pos hdigits, hdash, List.singleton_append, List.dropWhile_cons_of_neg (by decide)]

lemma append_toString_nat_inj {s t : String} {i j : ℕ}
    (h : s ++ "-" ++ toString i = t ++ "-" ++ toString j) : s = t := by
  have hl := congrArg (fun u : String => u.toList.reverse.dropWhile Char.isDigit) h
  rw [dropWhile_toString_nat, dropWhile_toString_nat, List.cons.injEq, List.reverse_inj] at hl
  exact String.toList_inj.mp hl.2

lemma append_ne_append {x y : String} (hx : ¬ x.toList <:+ y.toList) (hy : ¬ y.toList <:+ x.toList)
    (s t : String) : s ++ x ≠ t ++ y := by
  intro h
  have hl : s.toList ++ x.toList = t.toList ++ y.toList := by
    rw [← String.toList_append, ← String.toList_append, h]
  rcases List.suffix_or_suffix_of_suffix (List.suffix_append s.toList x.toList)
    (hl ▸ List.suffix_append t.toList y.toList) with hs | hs
  · exact hx hs
  · exact hy hs

section Intercalate

variable {sep x : String}

lemma length_intercalate_concat (hx : x ≠ "") (l : List String) :
    (sep.intercalate l).length < (sep.intercalate (l ++ [x])).length := by
  have hpos : 0 < x.length := by
    rw [Nat.pos_iff_ne_zero, ne_eq, String.length_eq_zero_iff]
    exact hx
  induction l with
  | nil => simpa using hpos
  | cons a l ih =>
    cases l with
    | nil =>
      rw [List.singleton_append, String.intercalate_cons_cons, String.intercalate_singleton,
        String.intercalate_singleton, String.length_append, String.length_append]
      omega
    | cons b l =>
      rw [List.cons_append] at ih
      rw [List.cons_append, List.cons_append, String.intercalate_cons_cons, String.intercalate_cons_cons,
        String.length_append (a ++ sep), String.length_append (a ++ sep)]
      exact Nat.add_lt_add_left ih _

lemma intercalate_range_injective {f : ℕ → String} (hf : ∀ i, f i ≠ "") :
    Function.Injective fun n => sep.intercalate ((List.range n).map f) := by
  have hmono : StrictMono fun n => (sep.intercalate ((List.range n).map f)).length := by
    refine strictMono_nat_of_lt_succ fun n => ?_
    rw [List.range_succ, List.map_append]
    exact length_intercalate_concat (hf n) _
  exact fun a b h => hmono.injective (congrArg String.length h)

end Intercalate

end ClusterOperator.Text
