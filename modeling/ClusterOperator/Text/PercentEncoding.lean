import Mathlib.Tactic

namespace ClusterOperator.Text

section Cut

variable {c : Char} {l u rest : List Char}

def cutAt (c : Char) (l : List Char) : List Char × Option (List Char) :=
  (l.takeWhile (· ≠ c), (l.dropWhile (· ≠ c)).tail?)

lemma cutAt_append (h : c ∉ u) (rest : List Char) : cutAt c (u ++ c :: rest) = (u, some rest) := by
  have hu : ∀ x ∈ u, decide (x ≠ c) = true := fun x hx => decide_eq_true fun heq => h (heq ▸ hx)
  rw [cutAt, List.takeWhile_append_of_pos hu, List.dropWhile_append_of_pos hu, List.takeWhile_cons_of_neg (by simp),
    List.dropWhile_cons_of_neg (by simp), List.append_nil]
  rfl

lemma eq_of_cutAt (h : cutAt c l = (u, some rest)) : l = u ++ c :: rest ∧ c ∉ u := by
  induction l generalizing u with
  | nil => cases h
  | cons x xs ih =>
    by_cases hx : x = c
    · subst hx
      rw [cutAt, List.takeWhile_cons_of_neg (by simp), List.dropWhile_cons_of_neg (by simp)] at h
      cases h
      exact ⟨rfl, List.not_mem_nil⟩
    · rw [cutAt, List.takeWhile_cons_of_pos (by simpa using hx), List.dropWhile_cons_of_pos (by simpa using hx)] at h
      obtain ⟨rfl, hrest⟩ := Prod.mk.inj h
      obtain ⟨heq, hnot⟩ := ih (Prod.ext rfl hrest)
      refine ⟨congrArg (x :: ·) heq, ?_⟩
      rw [List.mem_cons, not_or]
      exact ⟨Ne.symm hx, hnot⟩

lemma eq_of_prefix (h : u <+: l ++ c :: rest) (hc : c ∉ u) (hlen : l.length ≤ u.length) : u = l := by
  obtain ⟨t, ht⟩ := h
  obtain ⟨v, rfl⟩ : l <+: u :=
    List.prefix_of_prefix_length_le (List.prefix_append l (c :: rest)) ⟨t, ht⟩ hlen
  rw [List.append_assoc, List.append_cancel_left_eq] at ht
  cases v with
  | nil => rw [List.append_nil]
  | cons x v =>
    rw [List.cons_append, List.cons.injEq] at ht
    exact absurd (by simp [ht.1]) hc

end Cut

section Decode

def hexValue (c : Char) : Option ℕ :=
  if c.isDigit then some (c.toNat - 48)
  else if 'a' ≤ c ∧ c ≤ 'f' then some (c.toNat - 87)
  else if 'A' ≤ c ∧ c ≤ 'F' then some (c.toNat - 55)
  else none

def decode (allowed : Char → Bool) : List Char → Option (List UInt8)
  | [] => some []
  | '%' :: hi :: lo :: rest =>
    (hexValue hi).bind fun h => (hexValue lo).bind fun l =>
      (decode allowed rest).map (UInt8.ofNat (16 * h + l) :: ·)
  | c :: rest => if allowed c then (decode allowed rest).map (String.utf8EncodeChar c ++ ·) else none

def bytes (s : String) : List UInt8 := s.toList.flatMap String.utf8EncodeChar

variable {allowed : Char → Bool} {l : List Char} {bs : List UInt8}

lemma decode_of_allowed (hpercent : allowed '%' = false) (h : ∀ c ∈ l, allowed c = true) :
    decode allowed l = some (l.flatMap String.utf8EncodeChar) := by
  induction l with
  | nil => rfl
  | cons c l ih =>
    have hc := h c List.mem_cons_self
    rw [decode, if_pos hc, ih fun x hx => h x (List.mem_cons_of_mem _ hx), Option.map_some, List.flatMap_cons]
    rintro hi lo rest rfl
    rw [hpercent] at hc
    cases hc

lemma length_le_flatMap_utf8EncodeChar (l : List Char) : l.length ≤ (l.flatMap String.utf8EncodeChar).length := by
  induction l with
  | nil => exact le_rfl
  | cons c l ih =>
    have hpos : 0 < (String.utf8EncodeChar c).length := by
      rw [String.length_utf8EncodeChar]
      exact Char.utf8Size_pos c
    rw [List.flatMap_cons, List.length_append, List.length_cons]
    omega

lemma length_utf8EncodeChar_of_lt {c : Char} (h : c.toNat < 128) : (String.utf8EncodeChar c).length = 1 := by
  rw [String.length_utf8EncodeChar, Char.utf8Size_eq_one_iff, UInt32.le_iff_toNat_le]
  exact Nat.le_of_lt_succ h

lemma length_decode (hascii : ∀ c, allowed c = true → c.toNat < 128) (h : decode allowed l = some bs) :
    bs.length ≤ l.length ∧ (bs.length = l.length → ∀ c ∈ l, allowed c = true) := by
  fun_induction decode allowed l generalizing bs with
  | case1 =>
    cases h
    exact ⟨le_rfl, fun _ => nofun⟩
  | case2 hi lo rest ih =>
    obtain ⟨_, -, h⟩ := Option.bind_eq_some_iff.mp h
    obtain ⟨_, -, h⟩ := Option.bind_eq_some_iff.mp h
    obtain ⟨bs', hbs', rfl⟩ := Option.map_eq_some_iff.mp h
    have hle := (ih hbs').1
    simp only [List.length_cons]
    exact ⟨by omega, fun heq => by omega⟩
  | case3 c rest hpercent hc ih =>
    obtain ⟨bs', hbs', rfl⟩ := Option.map_eq_some_iff.mp h
    obtain ⟨hle, hall⟩ := ih hbs'
    rw [List.length_append, length_utf8EncodeChar_of_lt (hascii c hc), List.length_cons]
    refine ⟨by omega, fun heq => ?_⟩
    rw [List.forall_mem_cons]
    exact ⟨hc, hall (by omega)⟩
  | case4 c rest hpercent hc => cases h

end Decode

end ClusterOperator.Text
