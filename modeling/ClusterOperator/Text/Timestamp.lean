import ClusterOperator.Text.Decimal
import Mathlib.Data.String.Basic

namespace ClusterOperator.Text

section Padded

def padded (width n : ℕ) : List Char := (Nat.toDigits 10 n).leftpad width '0'

lemma padded_one {n : ℕ} (h : n < 10) : padded 1 n = [n.digitChar] := by
  rw [padded, Nat.toDigits_of_lt_base h]
  rfl

lemma padded_succ {width : ℕ} (hw : 0 < width) (n : ℕ) :
    padded (width + 1) n = padded width (n / 10) ++ [(n % 10).digitChar] := by
  unfold padded List.leftpad
  by_cases h : n < 10
  · have hdiv : n / 10 = 0 := Nat.div_eq_of_lt h
    have hpos : width - 1 + 1 = width := Nat.sub_add_cancel hw
    rw [hdiv, Nat.mod_eq_of_lt h, Nat.toDigits_of_lt_base h, Nat.toDigits_zero]
    simp only [List.length_singleton, Nat.add_sub_cancel]
    conv_lhs => rw [← hpos, List.replicate_succ']
  · rw [Nat.toDigits_of_base_le (by decide) (not_lt.mp h), List.length_append, List.length_singleton,
      Nat.add_sub_add_right, List.append_assoc]

lemma length_padded {width n : ℕ} (hw : 0 < width) (h : n < 10 ^ width) : (padded width n).length = width := by
  have hle := (Nat.length_toDigits_le_iff (by decide) hw).mpr h
  rw [padded, List.length_leftpad, Nat.max_eq_left hle]

lemma append_lt_append {x y u v : List Char} (hlen : x.length = y.length) :
    x ++ u < y ++ v ↔ x < y ∨ x = y ∧ u < v := by
  induction x generalizing y with
  | nil =>
    obtain rfl := List.length_eq_zero_iff.mp hlen.symm
    simp
  | cons a x ih =>
    cases y with
    | nil => cases hlen
    | cons b y =>
      rw [List.cons_append, List.cons_append, List.cons_lt_cons_iff, List.cons_lt_cons_iff,
        ih (Nat.succ.inj hlen), List.cons.injEq]
      tauto

lemma padded_lt {width m n : ℕ} (hw : 0 < width) (hmn : m < n) (hn : n < 10 ^ width) :
    padded width m < padded width n := by
  have hdigits : ∀ i < 10, ∀ j < i, [j.digitChar] < [i.digitChar] := by decide
  induction width, hw using Nat.le_induction generalizing m n with
  | base =>
    rw [padded_one hn, padded_one (hmn.trans hn)]
    exact hdigits n hn m hmn
  | succ width hw ih =>
    have hdiv : n / 10 < 10 ^ width := Nat.div_lt_of_lt_mul (by rwa [← pow_succ'])
    have hlen : (padded width (m / 10)).length = (padded width (n / 10)).length := by
      rw [length_padded hw hdiv, length_padded hw ((Nat.div_le_div_right hmn.le).trans_lt hdiv)]
    rw [padded_succ hw, padded_succ hw, append_lt_append hlen]
    rcases (Nat.div_le_div_right hmn.le : m / 10 ≤ n / 10).lt_or_eq with hlt | heq
    · exact Or.inl (ih hlt hdiv)
    · have hmod : m % 10 < n % 10 := by omega
      exact Or.inr ⟨congrArg _ heq, hdigits _ (Nat.mod_lt n (by decide)) _ hmod⟩

lemma padded_append_lt {width m n : ℕ} {u v : List Char} (hw : 0 < width) (hn : n < 10 ^ width)
    (h : m < n ∨ m = n ∧ u < v) : padded width m ++ u < padded width n ++ v := by
  rcases h with hmn | ⟨rfl, huv⟩
  · refine (append_lt_append ?_).mpr (Or.inl (padded_lt hw hmn hn))
    rw [length_padded hw hn, length_padded hw (hmn.trans hn)]
  · exact (append_lt_append rfl).mpr (Or.inr ⟨rfl, huv⟩)

end Padded

section Calendar

def isLeap (year : ℕ) : Bool := year % 4 = 0 ∧ (year % 100 ≠ 0 ∨ year % 400 = 0)

def daysBefore (year : ℕ) : ℕ := 365 * year + (year + 3) / 4 - (year + 99) / 100 + (year + 399) / 400

lemma daysBefore_succ (year : ℕ) :
    daysBefore (year + 1) = daysBefore year + if isLeap year then 366 else 365 := by
  have hfour : (year + 1 + 3) / 4 = (year + 3) / 4 + if year % 4 = 0 then 1 else 0 := by
    split <;> omega
  have hhundred : (year + 1 + 99) / 100 = (year + 99) / 100 + if year % 100 = 0 then 1 else 0 := by
    split <;> omega
  have hcycle : (year + 1 + 399) / 400 = (year + 399) / 400 + if year % 400 = 0 then 1 else 0 := by
    split <;> omega
  have hle : (year + 99) / 100 ≤ (year + 3) / 4 := by omega
  have h100 : year % 100 = 0 → year % 4 = 0 := by omega
  have h400 : year % 400 = 0 → year % 100 = 0 := by omega
  unfold daysBefore isLeap
  rw [hfour, hhundred, hcycle]
  generalize (year + 3) / 4 = a, (year + 99) / 100 = b, (year + 399) / 400 = c at hle ⊢
  by_cases h₁ : year % 4 = 0 <;> by_cases h₂ : year % 100 = 0 <;> by_cases h₃ : year % 400 = 0 <;>
    simp_all <;> omega

def monthLengths (leap : Bool) : List ℕ := [31, if leap then 29 else 28, 31, 30, 31, 30, 31, 31, 30, 31, 30, 31]

def daysBeforeMonth (leap : Bool) (month : ℕ) : ℕ := ((monthLengths leap).take month).sum

def yearOf (day : ℕ) : ℕ := Nat.findGreatest (fun year => daysBefore year ≤ day) (day / 365)

def dayOfYear (day : ℕ) : ℕ := day - daysBefore (yearOf day)

def monthOf (day : ℕ) : ℕ :=
  Nat.findGreatest (fun month => daysBeforeMonth (isLeap (yearOf day)) month ≤ dayOfYear day) 11

def dayOfMonth (day : ℕ) : ℕ := dayOfYear day - daysBeforeMonth (isLeap (yearOf day)) (monthOf day)

lemma daysBefore_yearOf_le (day : ℕ) : daysBefore (yearOf day) ≤ day :=
  Nat.findGreatest_spec (P := fun year => daysBefore year ≤ day) (Nat.zero_le _) (Nat.zero_le _)

lemma lt_daysBefore_succ (day : ℕ) : day < daysBefore (yearOf day + 1) := by
  by_contra h
  have hle := not_lt.mp h
  have hyear : yearOf day + 1 ≤ day / 365 := by
    rw [Nat.le_div_iff_mul_le (by decide)]
    refine le_trans ?_ hle
    unfold daysBefore
    omega
  exact Nat.findGreatest_is_greatest (Nat.lt_succ_self _) hyear hle

lemma dayOfYear_lt (day : ℕ) : dayOfYear day < 366 := by
  have hlt := lt_daysBefore_succ day
  rw [daysBefore_succ] at hlt
  unfold dayOfYear
  split at hlt <;> omega

lemma daysBeforeMonth_monthOf_le (day : ℕ) :
    daysBeforeMonth (isLeap (yearOf day)) (monthOf day) ≤ dayOfYear day :=
  Nat.findGreatest_spec (P := fun month => daysBeforeMonth (isLeap (yearOf day)) month ≤ dayOfYear day)
    (Nat.zero_le _) (Nat.zero_le _)

lemma monthOf_le (day : ℕ) : monthOf day ≤ 11 := Nat.findGreatest_le _

lemma dayOfMonth_lt (day : ℕ) : dayOfMonth day < 32 := by
  have hnext : ∀ leap, ∀ month < 11, daysBeforeMonth leap (month + 1) ≤ daysBeforeMonth leap month + 31 := by
    decide
  have hlast : ∀ leap, 334 ≤ daysBeforeMonth leap 11 := by decide
  unfold dayOfMonth
  rcases (monthOf_le day).lt_or_eq with hlt | heq
  · have hafter : ¬ daysBeforeMonth (isLeap (yearOf day)) (monthOf day + 1) ≤ dayOfYear day :=
      Nat.findGreatest_is_greatest (P := fun month => daysBeforeMonth (isLeap (yearOf day)) month ≤ dayOfYear day)
        (Nat.lt_succ_self _) hlt
    have := hnext (isLeap (yearOf day)) _ hlt
    omega
  · have := dayOfYear_lt day
    have := hlast (isLeap (yearOf day))
    rw [heq]
    omega

lemma yearOf_mono {d d' : ℕ} (h : d ≤ d') : yearOf d ≤ yearOf d' :=
  Nat.findGreatest_mono (fun _ hy => le_trans hy h) (Nat.div_le_div_right h)

lemma dayOfYear_lt_dayOfYear {d d' : ℕ} (h : d < d') (hyear : yearOf d = yearOf d') :
    dayOfYear d < dayOfYear d' := by
  have hle := daysBefore_yearOf_le d
  unfold dayOfYear
  rw [← hyear]
  omega

lemma monthOf_mono {d d' : ℕ} (h : d ≤ d') (hyear : yearOf d = yearOf d') : monthOf d ≤ monthOf d' := by
  refine Nat.findGreatest_mono (fun month hm => ?_) le_rfl
  rw [← hyear]
  refine le_trans hm ?_
  unfold dayOfYear
  rw [← hyear]
  exact Nat.sub_le_sub_right h _

lemma date_lt {d d' : ℕ} (h : d < d') :
    yearOf d < yearOf d' ∨ yearOf d = yearOf d' ∧
      (monthOf d < monthOf d' ∨ monthOf d = monthOf d' ∧ dayOfMonth d < dayOfMonth d') := by
  rcases (yearOf_mono h.le).lt_or_eq with hlt | hyear
  · exact Or.inl hlt
  · refine Or.inr ⟨hyear, ?_⟩
    rcases (monthOf_mono h.le hyear).lt_or_eq with hlt | hmonth
    · exact Or.inl hlt
    · refine Or.inr ⟨hmonth, ?_⟩
      have hday := dayOfYear_lt_dayOfYear h hyear
      have hle := daysBeforeMonth_monthOf_le d
      unfold dayOfMonth
      rw [← hyear, ← hmonth]
      omega

end Calendar

section Format

def dateText (day : ℕ) : List Char :=
  padded 4 (yearOf day) ++ '-' :: (padded 2 (monthOf day + 1) ++ '-' :: padded 2 (dayOfMonth day + 1))

def clockText (second : ℕ) : List Char :=
  padded 2 (second / 3600) ++ ':' :: (padded 2 (second / 60 % 60) ++ ':' :: padded 2 (second % 60))

def localText (seconds : ℕ) : List Char := dateText (seconds / 86400) ++ 'T' :: clockText (seconds % 86400)

def zoneText (offset : ℤ) : List Char :=
  let minutes := offset.tdiv 60
  if offset = 0 then ['Z']
  else (if minutes < 0 then '-' else '+') ::
    (padded 2 (minutes.natAbs / 60) ++ ':' :: padded 2 (minutes.natAbs % 60))

def rfc3339 (seconds offset : ℤ) : String := String.ofList (localText (seconds + offset).toNat ++ zoneText offset)

lemma cons_lt_cons {c : Char} {u v : List Char} (h : u < v) : c :: u < c :: v :=
  List.cons_lt_cons_iff.mpr (Or.inr ⟨rfl, h⟩)

lemma dateText_lt {d d' : ℕ} (h : d < d') (hyear : yearOf d' < 10000) : dateText d < dateText d' := by
  have hmonth := monthOf_le d'
  have hday := dayOfMonth_lt d'
  refine padded_append_lt (by decide) hyear ((date_lt h).imp_right fun ⟨heq, hrest⟩ => ⟨heq, cons_lt_cons ?_⟩)
  refine padded_append_lt (by decide) (by omega) (hrest.imp Nat.succ_lt_succ fun ⟨heq, hlt⟩ =>
    ⟨congrArg (· + 1) heq, cons_lt_cons ?_⟩)
  exact padded_lt (by decide) (Nat.succ_lt_succ hlt) (by omega)

lemma clockText_lt {t t' : ℕ} (h : t < t') (ht : t' < 86400) : clockText t < clockText t' := by
  have hminute : t / 60 < t' / 60 ∨ t / 60 = t' / 60 ∧ t % 60 < t' % 60 := by omega
  have hhour : t / 3600 < t' / 3600 ∨ t / 3600 = t' / 3600 ∧
      (t / 60 % 60 < t' / 60 % 60 ∨ t / 60 % 60 = t' / 60 % 60 ∧ t % 60 < t' % 60) := by
    rw [show 3600 = 60 * 60 from rfl, ← Nat.div_div_eq_div_mul, ← Nat.div_div_eq_div_mul]
    omega
  refine padded_append_lt (by decide) (by omega) (hhour.imp_right fun ⟨heq, hrest⟩ => ⟨heq, cons_lt_cons ?_⟩)
  refine padded_append_lt (by decide) (by omega) (hrest.imp_right fun ⟨heq, hlt⟩ => ⟨heq, cons_lt_cons ?_⟩)
  exact padded_lt (by decide) hlt (by omega)

lemma length_dateText {d : ℕ} (hyear : yearOf d < 10000) : (dateText d).length = 10 := by
  have hmonth := monthOf_le d
  have hday := dayOfMonth_lt d
  simp only [dateText, List.length_append, List.length_cons, length_padded (show 0 < 4 by decide) hyear,
    length_padded (show 0 < 2 by decide) (show monthOf d + 1 < 10 ^ 2 by omega),
    length_padded (show 0 < 2 by decide) (show dayOfMonth d + 1 < 10 ^ 2 by omega)]

lemma length_clockText {t : ℕ} (ht : t < 86400) : (clockText t).length = 8 := by
  simp only [clockText, List.length_append, List.length_cons,
    length_padded (show 0 < 2 by decide) (show t / 3600 < 10 ^ 2 by omega),
    length_padded (show 0 < 2 by decide) (show t / 60 % 60 < 10 ^ 2 by omega),
    length_padded (show 0 < 2 by decide) (show t % 60 < 10 ^ 2 by omega)]

variable {l l' : ℕ}

lemma length_localText (h : yearOf (l / 86400) < 10000) : (localText l).length = 19 := by
  rw [localText, List.length_append, List.length_cons, length_dateText h,
    length_clockText (Nat.mod_lt l (by decide))]

lemma localText_lt (h : l < l') (hyear : yearOf (l' / 86400) < 10000) : localText l < localText l' := by
  have hle : l / 86400 ≤ l' / 86400 := Nat.div_le_div_right h.le
  rw [localText, localText, append_lt_append
    (by rw [length_dateText ((yearOf_mono hle).trans_lt hyear), length_dateText hyear])]
  rcases hle.lt_or_eq with hlt | heq
  · exact Or.inl (dateText_lt hlt hyear)
  · refine Or.inr ⟨congrArg _ heq, cons_lt_cons (clockText_lt ?_ (Nat.mod_lt _ (by decide)))⟩
    omega

def FourDigits (seconds offset : ℤ) : Prop :=
  0 ≤ seconds + offset ∧ yearOf ((seconds + offset).toNat / 86400) < 10000

theorem rfc3339_lt_iff {t t' o o' : ℤ} (h : FourDigits t o) (h' : FourDigits t' o') :
    rfc3339 t o < rfc3339 t' o' ↔ t + o < t' + o' ∨ t + o = t' + o' ∧ zoneText o < zoneText o' := by
  obtain ⟨hpos, hyear⟩ := h
  obtain ⟨hpos', hyear'⟩ := h'
  rw [rfc3339, rfc3339, String.lt_iff_toList_lt, String.toList_ofList, String.toList_ofList,
    append_lt_append (by rw [length_localText hyear, length_localText hyear'])]
  rcases lt_trichotomy (t + o) (t' + o') with hlt | heq | hgt
  · have hnat : (t + o).toNat < (t' + o').toNat := by omega
    exact iff_of_true (Or.inl (localText_lt hnat hyear')) (Or.inl hlt)
  · simp [heq]
  · have hnat : (t' + o').toNat < (t + o).toNat := by omega
    have hlt := localText_lt hnat hyear
    refine iff_of_false ?_ ?_
    · rintro (hlt' | ⟨heq, -⟩)
      · exact lt_asymm hlt hlt'
      · exact hlt.ne' heq
    · omega

end Format

end ClusterOperator.Text
