import Mathlib.Tactic

/-! JSON merge patches. A patch is computed from two copies of a value and applied to a third.
Texts, numbers and arrays are replaced as a whole; objects are merged key by key, and a key
that is gone is sent as null. A value that is absent is `none`. -/

namespace ClusterOperator.Json

def omitEmpty {α : Type} [DecidableEq α] (zero x : α) : Option α := if x = zero then none else some x

lemma omitEmpty_injective {α : Type} [DecidableEq α] (zero : α) : Function.Injective (omitEmpty zero) := by
  intro x y h
  unfold omitEmpty at h
  by_cases hx : x = zero <;> by_cases hy : y = zero <;> simp_all

/-- How values of one type are patched. A patch of a key that is not sent is `none`. -/
structure MergePatch (α : Type) where
  Patch : Type
  diff : Option α → Option α → Option Patch
  apply : Patch → Option α → Option α
  diff_self : ∀ x, diff x x = none
  eq_of_diff : ∀ x y, diff x y = none → x = y
  apply_diff : ∀ x y p, diff x y = some p → apply p x = y

namespace MergePatch

variable {α : Type} (M : MergePatch α)

def merge (p : Option M.Patch) (x : Option α) : Option α :=
  match p with
  | none => x
  | some p => M.apply p x

@[simp] lemma merge_diff_self (x y : Option α) : M.merge (M.diff x x) y = y := by
  rw [M.diff_self, merge]

lemma merge_diff (x y : Option α) : M.merge (M.diff x y) x = y := by
  cases h : M.diff x y with
  | none => exact M.eq_of_diff x y h
  | some p => exact M.apply_diff x y p h

def Overwrites (y : Option α) : Prop := ∀ z, M.merge (M.diff none y) z = y

/-- Values that are replaced as a whole; the patch `none` is null. -/
def atom (α : Type) [DecidableEq α] : MergePatch α where
  Patch := Option α
  diff x y := if x = y then none else some y
  apply p _ := p
  diff_self x := if_pos rfl
  eq_of_diff x y h := by
    by_contra hne
    simp [hne] at h
  apply_diff x y p h := by
    split at h
    · cases h
    · exact (Option.some.inj h).symm

lemma merge_atom [DecidableEq α] {x y : Option α} (hne : x ≠ y) (z : Option α) :
    (atom α).merge ((atom α).diff x y) z = y := by
  have h : (atom α).diff x y = some y := if_neg hne
  rw [h]
  rfl

lemma overwrites_atom [DecidableEq α] (y : α) : (atom α).Overwrites (some y) :=
  merge_atom (Option.some_ne_none y).symm

lemma merge_atom_encode [DecidableEq α] {β : Type} [DecidableEq β] {encode : β → Option α}
    (hencode : Function.Injective encode) (base modified stored : β) :
    (atom α).merge ((atom α).diff (encode base) (encode modified)) (encode stored) =
      encode (if base = modified then stored else modified) := by
  by_cases h : base = modified
  · rw [h, if_pos rfl, merge_diff_self]
  · rw [if_neg h, merge_atom fun he => h (hencode he)]

def single (M : MergePatch α) : MergePatch α where
  Patch := Option M.Patch
  diff x y := (M.diff x y).map fun p => if y.isNone then none else some p
  apply p x := p.bind fun p => M.apply p x
  diff_self x := by rw [M.diff_self, Option.map_none]
  eq_of_diff x y h := M.eq_of_diff x y (Option.map_eq_none_iff.mp h)
  apply_diff x y p h := by
    obtain ⟨q, hq, rfl⟩ := Option.map_eq_some_iff.mp h
    cases y with
    | none => rfl
    | some y => exact M.apply_diff x (some y) q hq

lemma merge_single_atom [DecidableEq α] {x y : Option α} (hne : x ≠ y) (z : Option α) :
    (single (atom α)).merge ((single (atom α)).diff x y) z = y := by
  have h : (single (atom α)).diff x y = some (if y.isNone then none else some y) :=
    congrArg (Option.map _) (if_neg hne)
  rw [h]
  cases y <;> rfl

def Kept (x y z : Option α) : Prop := x = y → z = y

lemma merge_atom_eq_iff [DecidableEq α] {x y z : Option α} :
    (atom α).merge ((atom α).diff x y) z = y ↔ Kept x y z := by
  by_cases h : x = y
  · simp [h, Kept]
  · simp [merge_atom h, h, Kept]

section Object

variable {K : Type} [Fintype K] {F : K → Type} [∀ k, DecidableEq (F k)] (fields : ∀ k, MergePatch (F k))

def object : MergePatch (∀ k, Option (F k)) where
  Patch := Option (∀ k, Option (fields k).Patch)
  diff x y := if x = y then none else some (y.map fun y k => (fields k).diff (x.bind fun x => x k) (y k))
  apply p x := p.map fun p k => (fields k).merge (p k) (x.bind fun x => x k)
  diff_self x := if_pos rfl
  eq_of_diff x y h := by
    by_contra hne
    simp [hne] at h
  apply_diff x y p h := by
    split at h
    · cases h
    · cases Option.some.inj h
      cases y with
      | none => rfl
      | some y => exact congrArg some (funext fun k => (fields k).merge_diff _ _)

variable {fields}

lemma merge_object_none {x : Option (∀ k, Option (F k))} (hne : x ≠ none) (z : Option (∀ k, Option (F k))) :
    (object fields).merge ((object fields).diff x none) z = none := by
  have h : (object fields).diff x none = some none := if_neg hne
  rw [h]
  rfl

lemma merge_object_some {x : Option (∀ k, Option (F k))} {y : ∀ k, Option (F k)} (hne : x ≠ some y)
    (z : Option (∀ k, Option (F k))) :
    (object fields).merge ((object fields).diff x (some y)) z =
      some fun k => (fields k).merge ((fields k).diff (x.bind fun x => x k) (y k)) (z.bind fun z => z k) := by
  have h : (object fields).diff x (some y) =
      some (some fun k => (fields k).diff (x.bind fun x => x k) (y k)) := if_neg hne
  rw [h]
  rfl

lemma overwrites_object {y : ∀ k, Option (F k)} (h : ∀ k, (fields k).Overwrites (y k)) :
    (object fields).Overwrites (some y) := fun z =>
  (merge_object_some (Option.some_ne_none y).symm z).trans (congrArg some (funext fun k => h k _))

def KeptBelow (kept : ∀ k, Option (F k) → Option (F k) → Option (F k) → Prop)
    (x y z : Option (∀ k, Option (F k))) : Prop :=
  Kept x y z ∧ (x ≠ y → ∀ d ∈ y, ∀ k, kept k (x.bind fun x => x k) (d k) (z.bind fun z => z k))

lemma merge_object_eq_iff {kept : ∀ k, Option (F k) → Option (F k) → Option (F k) → Prop}
    (hkept : ∀ k x y z, (fields k).merge ((fields k).diff x y) z = y ↔ kept k x y z)
    {x y z : Option (∀ k, Option (F k))} :
    (object fields).merge ((object fields).diff x y) z = y ↔ KeptBelow kept x y z := by
  by_cases h : x = y
  · simp [h, KeptBelow, Kept]
  have hleft : Kept x y z := fun hxy => absurd hxy h
  cases y with
  | none => simp [merge_object_none h, KeptBelow, hleft]
  | some d =>
    rw [merge_object_some h, Option.some.injEq, funext_iff]
    simp [hkept, KeptBelow, hleft, h]

end Object

end MergePatch

end ClusterOperator.Json
