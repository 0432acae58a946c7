import ClusterOperator.Keyed.Merge

namespace ClusterOperator.Keyed

section Interleave

variable {α : Type} {less : α → α → Bool} {p : α → Bool}

lemma filter_place {l : α} {rest : List α → List α} (hl : p l = false)
    (hrest : ∀ rs, (∀ r ∈ rs, p r = true) → (rest rs).filter p = rs) (rs : List α) (hrs : ∀ r ∈ rs, p r = true) :
    (place less l rest rs).filter p = rs := by
  induction rs with
  | nil => simpa [place, hl] using hrest [] hrs
  | cons r rs ih =>
    unfold place
    split
    · rw [List.filter_cons_of_neg (by simp [hl])]
      exact hrest _ hrs
    · rw [List.filter_cons_of_pos (hrs r List.mem_cons_self), ih fun r hr => hrs r (List.mem_cons_of_mem _ hr)]

lemma filter_interleave {left : List α} (hleft : ∀ l ∈ left, p l = false) (right : List α)
    (hright : ∀ r ∈ right, p r = true) : (interleave less left right).filter p = right := by
  unfold interleave
  induction left generalizing right with
  | nil => exact List.filter_eq_self.mpr hright
  | cons l ls ih =>
    exact filter_place (hleft l List.mem_cons_self)
      (fun rs hrs => ih (fun l hl => hleft l (List.mem_cons_of_mem _ hl)) rs hrs) right hright

def LessThanNext (less : α → α → Bool) (p : α → Bool) (xs : List α) : Prop :=
  ∀ before x rest y, xs = before ++ x :: rest → p x = false → rest.find? p = some y → less x y = true

lemma lessThanNext_cons {x : α} {xs : List α} (h : LessThanNext less p xs)
    (hx : p x = false → ∀ y, xs.find? p = some y → less x y = true) : LessThanNext less p (x :: xs) := by
  rintro (_ | ⟨b, before⟩) z rest y hsplit hz hy
  · obtain ⟨rfl, rfl⟩ := List.cons.inj hsplit
    exact hx hz y hy
  · exact h before z rest y (List.cons.inj hsplit).2 hz hy

lemma place_lessThanNext {l : α} {rest : List α → List α}
    (hfilter : ∀ rs, (∀ r ∈ rs, p r = true) → (rest rs).filter p = rs)
    (hrest : ∀ rs, (∀ r ∈ rs, p r = true) → LessThanNext less p (rest rs)) (rs : List α)
    (hrs : ∀ r ∈ rs, p r = true) : LessThanNext less p (place less l rest rs) := by
  have hfind (rs : List α) (hrs : ∀ r ∈ rs, p r = true) : (rest rs).find? p = rs.head? := by
    rw [← List.head?_filter, hfilter rs hrs]
  induction rs with
  | nil =>
    refine lessThanNext_cons (hrest [] hrs) fun _ y hy => ?_
    rw [hfind [] hrs] at hy
    cases hy
  | cons r rs ih =>
    unfold place
    split
    · rename_i hless
      refine lessThanNext_cons (hrest _ hrs) fun _ y hy => ?_
      rw [hfind _ hrs] at hy
      cases hy
      exact hless
    · refine lessThanNext_cons (ih fun r hr => hrs r (List.mem_cons_of_mem _ hr)) fun hr => ?_
      rw [hrs r List.mem_cons_self] at hr
      cases hr

lemma interleave_lessThanNext {left : List α} (hleft : ∀ l ∈ left, p l = false) (right : List α)
    (hright : ∀ r ∈ right, p r = true) : LessThanNext less p (interleave less left right) := by
  induction left generalizing right with
  | nil =>
    rintro before x rest y rfl hx -
    rw [hright x (by simp)] at hx
    cases hx
  | cons l ls ih =>
    have hls (l : α) (hl : l ∈ ls) := hleft l (List.mem_cons_of_mem _ hl)
    exact place_lessThanNext (fun rs hrs => filter_interleave hls rs hrs) (fun rs hrs => ih hls rs hrs) right hright

end Interleave

variable {α κ : Type} [DecidableEq κ]

/-- The elements of the patch come in its order, and one that only the original has comes
before such an element only if it does in the original. -/
structure KeepsOrder (original patch merged : List κ) : Prop where
  entries : (merged.filter (· ∈ patch)).Sublist patch
  others : ∀ before x rest y, merged = before ++ x :: rest → x ∉ patch → rest.find? (· ∈ patch) = some y →
    y ∈ original ∧ original.idxOf x < original.idxOf y

lemma KeepsOrder.head?_eq {original patch merged : List κ} (h : KeepsOrder original patch merged)
    (hpatch : patch.Nodup) (hsub : ∀ k ∈ patch, k ∈ merged) {k : κ} (hk : k ∈ patch)
    (hfirst : ∀ x y, y ∈ original → original.idxOf x < original.idxOf y → x ∈ patch) :
    merged.head? = patch.head? := by
  have hentries : merged.filter (· ∈ patch) = patch := by
    refine h.entries.eq_of_length_le ?_
    exact (List.subperm_of_subset hpatch fun x hx => by simp [hsub x hx, hx]).length_le
  cases merged with
  | nil => exact absurd (hsub k hk) (by simp)
  | cons x rest =>
    have hx : x ∈ patch := by
      by_contra hx
      obtain ⟨y, hy⟩ : ∃ y, rest.find? (· ∈ patch) = some y := by
        rw [← Option.isSome_iff_exists, List.find?_isSome]
        refine ⟨k, ?_, by simpa using hk⟩
        rcases List.mem_cons.mp (hsub k hk) with rfl | hmem
        · exact absurd hk hx
        · exact hmem
      obtain ⟨hyo, hlt⟩ := h.others [] x rest y rfl hx hy
      exact hx (hfirst x y hyo hlt)
    rw [← hentries, List.filter_cons_of_pos (by simpa using hx)]
    rfl

section Arrange

variable {key : α → κ} {merge : α → α → α} {original patch : List α}

lemma dedup_flatMap_filter {ks : List κ} (hks : ks.Nodup) {l : List α} (hl : (l.map key).Nodup)
    (hsub : ∀ k ∈ ks, k ∈ l.map key) : (ks.flatMap fun k => l.filter fun x => key x = k).map key = ks := by
  induction ks with
  | nil => rfl
  | cons k ks ih =>
    obtain ⟨x, hx, rfl⟩ := List.mem_map.mp (hsub k List.mem_cons_self)
    have hone : (l.filter fun y => key y = key x).map key = [key x] := by
      have hperm : (l.filter fun y => key y = key x).Perm [x] := by
        refine (List.perm_ext_iff_of_nodup (hl.of_map.filter _) (List.nodup_singleton x)).mpr fun y => ?_
        simp only [List.mem_filter, decide_eq_true_eq, List.mem_singleton]
        exact ⟨fun h => List.inj_on_of_nodup_map hl h.1 hx h.2, by rintro rfl; exact ⟨hx, rfl⟩⟩
      rw [hperm.eq_singleton]
      rfl
    rw [List.flatMap_cons, List.map_append, hone,
      ih (List.nodup_cons.mp hks).2 fun k hk => hsub k (List.mem_cons_of_mem _ hk)]
    rfl

lemma findIdx_eq_idxOf (k : κ) : original.findIdx (fun x => key x = k) = (original.map key).idxOf k := by
  rw [List.idxOf, List.findIdx_map]
  congr

lemma map_key_patched (hkey : ∀ b o, key (merge b o) = key b) (horiginal : (original.map key).Nodup) :
    ((patch.map key).dedup.flatMap fun k => (mergeBy key merge original patch).filter fun x => key x = k).map key =
      (patch.map key).dedup := by
  refine dedup_flatMap_filter (List.nodup_dedup _) (mergeBy_keys_nodup hkey horiginal) fun k hk => ?_
  obtain ⟨o, ho, hok⟩ := List.mem_map.mp (List.mem_dedup.mp hk)
  obtain ⟨c, hc, hck⟩ := (mergeBy_key hkey).mpr (Or.inr ⟨o, ho, hok⟩)
  exact List.mem_map.mpr ⟨c, hc, hck⟩

theorem mergeInOrder_keepsOrder (hkey : ∀ b o, key (merge b o) = key b) (horiginal : (original.map key).Nodup) :
    KeepsOrder (original.map key) (patch.map key) ((mergeInOrder key merge original patch).map key) := by
  set merged := mergeBy key merge original patch
  have hleft : ∀ l ∈ merged.filter (fun x => key x ∉ patch.map key), decide (key l ∈ patch.map key) = false := by
    intro l hl
    simpa using (List.mem_filter.mp hl).2
  have hright : ∀ r ∈ (patch.map key).dedup.flatMap (fun k => merged.filter (fun x => key x = k)),
      decide (key r ∈ patch.map key) = true := by
    intro r hr
    obtain ⟨k, hk, hr⟩ := List.mem_flatMap.mp hr
    have hrk : key r = k := by simpa using (List.mem_filter.mp hr).2
    exact decide_eq_true (hrk ▸ List.mem_dedup.mp hk)
  constructor
  · rw [List.filter_map]
    have hfilter : (mergeInOrder key merge original patch).filter ((fun k => decide (k ∈ patch.map key)) ∘ key) =
        (patch.map key).dedup.flatMap (fun k => merged.filter (fun x => key x = k)) :=
      filter_interleave hleft _ hright
    rw [hfilter, map_key_patched hkey horiginal]
    exact List.dedup_sublist _
  · intro before x rest y hsplit hx hy
    obtain ⟨before', xs, hsplit', rfl, hxs⟩ := List.map_eq_append_iff.mp hsplit
    obtain ⟨x', rest', rfl, rfl, rfl⟩ := List.map_eq_cons_iff.mp hxs
    rw [List.find?_map] at hy
    obtain ⟨y', hy', rfl⟩ := Option.map_eq_some_iff.mp hy
    have hless := interleave_lessThanNext (p := fun x => decide (key x ∈ patch.map key)) hleft _ hright
      before' x' rest' y' hsplit' (decide_eq_false hx) hy'
    simp only [Bool.and_eq_true, List.any_eq_true, decide_eq_true_eq, findIdx_eq_idxOf] at hless
    obtain ⟨⟨-, z, hz, hzk⟩, hlt⟩ := hless
    exact ⟨List.mem_map.mpr ⟨z, hz, hzk⟩, hlt⟩

def firstKey (original patch : List κ) : Option κ :=
  match original.find? (· ∉ patch), patch.dedup.head? with
  | some x, some k => some (if k ∈ original ∧ original.idxOf x < original.idxOf k then x else k)
  | x, k => x.or k

lemma head?_interleave (less : α → α → Bool) (left right : List α) : (interleave less left right).head? =
    match left.head?, right.head? with
    | some l, some r => some (if less l r then l else r)
    | l, r => l.or r := by
  cases left with
  | nil => cases right <;> rfl
  | cons l ls =>
    cases right with
    | nil => rfl
    | cons r rs =>
      change (place less l (interleave less ls) (r :: rs)).head? = some (if less l r then l else r)
      unfold place
      split <;> rfl

theorem mergeInOrder_head? (hkey : ∀ b o, key (merge b o) = key b) (horiginal : (original.map key).Nodup) :
    ((mergeInOrder key merge original patch).map key).head? = firstKey (original.map key) (patch.map key) := by
  set merged := mergeBy key merge original patch
  have hleft : ((merged.filter (fun x => key x ∉ patch.map key)).map key).head? =
      (original.map key).find? (· ∉ patch.map key) := by
    obtain ⟨added, hadded, hsub⟩ := mergeBy_keys hkey original patch
    have hnone : added.find? (· ∉ patch.map key) = none := by
      rw [List.find?_eq_none]
      intro k hk
      simpa using hsub k hk
    have hfilter : (merged.filter (fun x => key x ∉ patch.map key)).map key =
        (merged.map key).filter (· ∉ patch.map key) := by
      rw [List.filter_map]
      rfl
    rw [hfilter, List.head?_filter, hadded, List.find?_append, hnone, Option.or_none]
  have hright : (((patch.map key).dedup.flatMap fun k => merged.filter fun x => key x = k).map key) =
      (patch.map key).dedup := map_key_patched hkey horiginal
  unfold firstKey
  rw [← hleft, ← hright, List.head?_map, List.head?_map, List.head?_map]
  unfold mergeInOrder arrange
  rw [head?_interleave]
  generalize hl : (merged.filter fun x => key x ∉ patch.map key).head? = l
  generalize hr : ((patch.map key).dedup.flatMap fun k => merged.filter fun x => key x = k).head? = r
  cases l with
  | none => cases r <;> rfl
  | some l =>
    cases r with
    | none => rfl
    | some r =>
      have hmem : key l ∈ original.map key := by
        refine List.mem_of_find?_eq_some (hleft.symm.trans ?_)
        rw [List.head?_map, hl]
        rfl
      have hany (k : κ) : (original.any fun x => decide (key x = k)) = true ↔ k ∈ original.map key := by simp
      simp only [Option.map_some, apply_ite key, Bool.and_eq_true, decide_eq_true_eq, hany, findIdx_eq_idxOf, hmem,
        true_and]

end Arrange

end ClusterOperator.Keyed
