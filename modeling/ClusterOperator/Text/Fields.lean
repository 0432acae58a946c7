import Mathlib.Tactic

namespace ClusterOperator.Text

section Fields

variable {sep : Char} {w s : String} {words : List String}

def fields (sep : Char) (s : String) : List String :=
  (s.toList.splitOn sep).map String.ofList

lemma map_ofList_map_toList (words : List String) : (words.map String.toList).map String.ofList = words := by
  rw [List.map_map]
  exact List.map_id'' (fun w => String.ofList_toList) words

lemma fields_intercalate (hsep : ∀ w ∈ words, sep ∉ w.toList) (hne : words ≠ []) :
    fields sep ((String.singleton sep).intercalate words) = words := by
  have hwords : ∀ l ∈ words.map String.toList, sep ∉ l := by
    intro l hl
    obtain ⟨w, hw, rfl⟩ := List.mem_map.mp hl
    exact hsep w hw
  rw [fields, String.toList_intercalate, String.toList_singleton,
    List.splitOn_intercalate sep hwords (by simpa using hne), map_ofList_map_toList]

lemma fields_append (hw : sep ∉ w.toList) :
    fields sep (w ++ String.singleton sep ++ s) = w :: fields sep s := by
  rw [fields, String.toList_append, String.toList_append, String.toList_singleton, List.append_assoc,
    List.singleton_append, List.splitOn_append_cons_self_of_not_mem hw, List.map_cons, String.ofList_toList]
  rfl

lemma notMem_of_mem_splitOn {α : Type} [DecidableEq α] {a : α} {l part : List α} (h : part ∈ l.splitOn a) :
    a ∉ part := by
  induction l generalizing part with
  | nil =>
    rw [List.splitOn_nil, List.mem_singleton] at h
    simp [h]
  | cons b l ih =>
    rw [List.splitOn_cons_eq_if_modifyHead] at h
    split at h
    · rcases List.mem_cons.mp h with rfl | h
      · exact List.not_mem_nil
      · exact ih h
    · rename_i hb
      obtain ⟨first, rest, hsplit⟩ := List.exists_cons_of_ne_nil (List.splitOn_ne_nil a l)
      rw [hsplit] at h ih
      rcases List.mem_cons.mp h with rfl | h
      · exact fun ha => (List.mem_cons.mp ha).elim (fun he => hb (by simp [he])) (ih List.mem_cons_self)
      · exact ih (List.mem_cons_of_mem _ h)

lemma notMem_of_mem_fields (h : w ∈ fields sep s) : sep ∉ w.toList := by
  obtain ⟨part, hpart, rfl⟩ := List.mem_map.mp h
  rw [String.toList_ofList]
  exact notMem_of_mem_splitOn hpart

end Fields

section Orders

variable {sep : String} {x y : String} {l p : List String}

lemma intercalate_swap : sep.intercalate (x :: y :: l) = sep.intercalate (y :: x :: l) ↔
    x ++ sep ++ y = y ++ sep ++ x := by
  cases l with
  | nil => simp [String.intercalate_cons_cons]
  | cons z l =>
    simp only [String.intercalate_cons_cons, ← String.append_assoc, String.append_left_inj]

lemma intercalate_perm (h : p.Perm l) (hcomm : ∀ x ∈ p, ∀ y ∈ p, x ++ sep ++ y = y ++ sep ++ x) :
    sep.intercalate p = sep.intercalate l := by
  induction h with
  | nil => rfl
  | @cons x p l hp ih =>
    have hrest := ih fun y hy z hz => hcomm y (List.mem_cons_of_mem _ hy) z (List.mem_cons_of_mem _ hz)
    rcases p with _ | ⟨y, p⟩
    · rw [List.nil_perm.mp hp]
    · rcases l with _ | ⟨z, l⟩
      · cases List.perm_nil.mp hp
      · rw [String.intercalate_cons_cons, String.intercalate_cons_cons, hrest]
  | swap x y l => exact intercalate_swap.mpr (hcomm y List.mem_cons_self x (by simp))
  | trans hp _ ihp ihl =>
    exact (ihp hcomm).trans (ihl fun y hy z hz => hcomm y (hp.mem_iff.mpr hy) z (hp.mem_iff.mpr hz))

lemma intercalate_perm_iff {α : Type} [DecidableEq α] {f : α → String} {l : List α} :
    (∀ p : List α, p.Perm l → sep.intercalate (p.map f) = sep.intercalate (l.map f)) ↔
      ∀ x ∈ l, ∀ y ∈ l, f x ++ sep ++ f y = f y ++ sep ++ f x := by
  constructor
  · intro h x hx y hy
    by_cases hxy : y = x
    · rw [hxy]
    · have hperm : l.Perm (x :: y :: (l.erase x).erase y) :=
        (List.perm_cons_erase hx).trans (.cons x (List.perm_cons_erase ((List.mem_erase_of_ne hxy).mpr hy)))
      exact intercalate_swap.mp ((h _ hperm.symm).trans (h _ ((hperm.trans (.swap ..)).symm)).symm)
  · intro hcomm p hp
    refine intercalate_perm (hp.map f) (List.forall_mem_map.mpr fun x hx => List.forall_mem_map.mpr fun y hy => ?_)
    exact hcomm x (hp.mem_iff.mp hx) y (hp.mem_iff.mp hy)

end Orders

section Enclosed

def enclosed (opening closing s : String) : Option String :=
  (s.toList.dropPrefix? opening.toList).bind fun l => (l.dropSuffix? closing.toList).map String.ofList

lemma enclosed_append (opening closing s : String) : enclosed opening closing (opening ++ s ++ closing) = some s := by
  have hfront : (opening ++ s ++ closing).toList.dropPrefix? opening.toList = some (s ++ closing).toList := by
    rw [String.append_assoc, String.toList_append]
    exact List.dropPrefix?_append_of_beq _ (beq_self_eq_true _)
  have hback : (s ++ closing).toList.dropSuffix? closing.toList = some s.toList :=
    List.dropSuffix?_eq_some_iff.mpr ⟨_, String.toList_append, beq_self_eq_true _⟩
  rw [enclosed, hfront, Option.bind_some, hback, Option.map_some, String.ofList_toList]

end Enclosed

end ClusterOperator.Text
