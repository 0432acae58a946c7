import Mathlib.Tactic

/-! Lists of elements with keys, merged key by key. Elements of the second list are merged
into those of the first with the same key, or added. -/

namespace ClusterOperator.Keyed

variable {α κ : Type} [DecidableEq κ] (key : α → κ) (merge : α → α → α)

def mergeOne (l : List α) (o : α) : List α :=
  if ∃ b ∈ l, key b = key o then l.map (fun b => if key b = key o then merge b o else b) else l ++ [o]

def mergeBy (base patch : List α) : List α := patch.foldl (mergeOne key merge) base

/-- Where the elements with a key of the second list are put: each as early as possible, but
after the elements of the first list that are less. -/
def place (less : α → α → Bool) (l : α) (rest : List α → List α) : List α → List α
  | [] => l :: rest []
  | r :: rs => if less l r then l :: rest (r :: rs) else r :: place less l rest rs

def interleave (less : α → α → Bool) (left right : List α) : List α :=
  left.foldr (place less) id right

/-- The elements that only the original has keep their places among those of the patch. An
element that is new in the patch comes before those that follow. -/
def arrange (original patch merged : List α) : List α :=
  let isOf (l : List α) (k : κ) : Bool := l.any (fun x => key x = k)
  let pos (k : κ) : ℕ := original.findIdx (fun x => key x = k)
  interleave
    (fun l r => isOf original (key l) && isOf original (key r) && decide (pos (key l) < pos (key r)))
    (merged.filter (fun x => key x ∉ patch.map key))
    ((patch.map key).dedup.flatMap (fun k => merged.filter (fun x => key x = k)))

def mergeInOrder (original patch : List α) : List α :=
  arrange key original patch (mergeBy key merge original patch)

section Interleave

variable {less : α → α → Bool}

lemma place_perm {l : α} {rest : List α → List α} {ls : List α} (h : ∀ rs, (rest rs).Perm (ls ++ rs))
    (rs : List α) : (place less l rest rs).Perm (l :: ls ++ rs) := by
  induction rs with
  | nil => exact (h []).cons l
  | cons r rs ih =>
    unfold place
    split
    · exact (h (r :: rs)).cons l
    · exact (ih.cons r).trans (List.perm_middle.symm)

lemma interleave_perm (left right : List α) : (interleave less left right).Perm (left ++ right) := by
  unfold interleave
  induction left generalizing right with
  | nil => exact List.Perm.refl _
  | cons l ls ih => exact place_perm ih right

lemma filter_keys_perm (ks : List κ) (hks : ks.Nodup) (l : List α) :
    (ks.flatMap (fun k => l.filter (fun x => key x = k))).Perm (l.filter (fun x => key x ∈ ks)) := by
  induction ks with
  | nil => simp
  | cons k ks ih =>
    obtain ⟨hk, hks⟩ := List.nodup_cons.mp hks
    rw [List.flatMap_cons]
    refine ((ih hks).append_left _).trans ?_
    have hsplit := List.filter_append_perm (fun x => decide (key x = k)) (l.filter (fun x => key x ∈ k :: ks))
    simp only [List.filter_filter] at hsplit
    refine List.Perm.trans (List.Perm.of_eq ?_) hsplit
    congr 1 <;> refine List.filter_congr fun x _ => ?_
    · by_cases hx : key x = k <;> simp [hx]
    · by_cases hx : key x = k
      · simp [hx, hk]
      · simp [hx]

lemma mergeInOrder_perm (original patch : List α) :
    (mergeInOrder key merge original patch).Perm (mergeBy key merge original patch) := by
  refine (interleave_perm _ _).trans ?_
  refine ((filter_keys_perm key _ (List.nodup_dedup _) _).append_left _).trans ?_
  refine List.perm_append_comm.trans ?_
  refine List.Perm.trans (List.Perm.of_eq ?_)
    (List.filter_append_perm (fun x => decide (key x ∈ patch.map key)) (mergeBy key merge original patch))
  simp only [List.mem_dedup, decide_not]

end Interleave

section Merge

variable {key merge}

lemma mem_mergeOne {l : List α} {o c : α} : c ∈ mergeOne key merge l o ↔
    (c ∈ l ∧ key c ≠ key o) ∨ (∃ b ∈ l, key b = key o ∧ c = merge b o) ∨
      (c = o ∧ ∀ b ∈ l, key b ≠ key o) := by
  unfold mergeOne
  split_ifs with h
  · obtain ⟨b₀, hb₀, hk₀⟩ := h
    simp only [List.mem_map]
    constructor
    · rintro ⟨b, hb, rfl⟩
      split_ifs with hk
      · exact Or.inr (Or.inl ⟨b, hb, hk, rfl⟩)
      · exact Or.inl ⟨hb, hk⟩
    · rintro (⟨hc, hk⟩ | ⟨b, hb, hk, rfl⟩ | ⟨-, hn⟩)
      · exact ⟨c, hc, if_neg hk⟩
      · exact ⟨b, hb, if_pos hk⟩
      · exact absurd hk₀ (hn b₀ hb₀)
  · push Not at h
    rw [List.mem_append, List.mem_singleton]
    constructor
    · rintro (hc | rfl)
      · exact Or.inl ⟨hc, h c hc⟩
      · exact Or.inr (Or.inr ⟨rfl, h⟩)
    · rintro (⟨hc, -⟩ | ⟨b, hb, hk, -⟩ | ⟨rfl, -⟩)
      · exact Or.inl hc
      · exact absurd hk (h b hb)
      · exact Or.inr rfl

lemma mergeBy_all {P : α → Prop} (hmerge : ∀ b o, P b → P o → P (merge b o)) {base patch : List α}
    (hbase : ∀ b ∈ base, P b) (hpatch : ∀ o ∈ patch, P o) : ∀ c ∈ mergeBy key merge base patch, P c := by
  unfold mergeBy
  induction patch generalizing base with
  | nil => exact hbase
  | cons o patch ih =>
    have ho := hpatch o List.mem_cons_self
    refine ih (fun c hc => ?_) (fun o' ho' => hpatch o' (List.mem_cons_of_mem _ ho'))
    rcases mem_mergeOne.mp hc with ⟨hc, -⟩ | ⟨b, hb, -, rfl⟩ | ⟨rfl, -⟩
    · exact hbase c hc
    · exact hmerge b o (hbase b hb) ho
    · exact ho

lemma length_mergeBy (base patch : List α) : base.length ≤ (mergeBy key merge base patch).length := by
  unfold mergeBy
  induction patch generalizing base with
  | nil => exact le_rfl
  | cons o patch ih =>
    refine le_trans ?_ (ih (mergeOne key merge base o))
    unfold mergeOne
    split <;> simp

lemma mergeOne_perm {l l' : List α} (h : l.Perm l') (o : α) :
    (mergeOne key merge l o).Perm (mergeOne key merge l' o) := by
  unfold mergeOne
  simp only [h.mem_iff]
  split
  · exact h.map _
  · exact h.append_right _

lemma mergeBy_perm {base base' : List α} (h : base.Perm base') (patch : List α) :
    (mergeBy key merge base patch).Perm (mergeBy key merge base' patch) := by
  unfold mergeBy
  induction patch generalizing base base' with
  | nil => exact h
  | cons o patch ih => exact ih (mergeOne_perm h o)

variable (hkey : ∀ b o, key (merge b o) = key b)

include hkey

lemma mergeOne_key {l : List α} {o : α} {k : κ} :
    (∃ c ∈ mergeOne key merge l o, key c = k) ↔ (∃ c ∈ l, key c = k) ∨ key o = k := by
  simp only [mem_mergeOne]
  constructor
  · rintro ⟨c, ⟨hc, -⟩ | ⟨b, hb, hbo, rfl⟩ | ⟨rfl, -⟩, hk⟩
    · exact Or.inl ⟨c, hc, hk⟩
    · exact Or.inl ⟨b, hb, hkey b o ▸ hk⟩
    · exact Or.inr hk
  · rintro (⟨c, hc, rfl⟩ | rfl)
    · by_cases h : key c = key o
      · exact ⟨merge c o, Or.inr (Or.inl ⟨c, hc, h, rfl⟩), hkey c o⟩
      · exact ⟨c, Or.inl ⟨hc, h⟩, rfl⟩
    · by_cases h : ∃ b ∈ l, key b = key o
      · obtain ⟨b, hb, hk⟩ := h
        exact ⟨merge b o, Or.inr (Or.inl ⟨b, hb, hk, rfl⟩), (hkey b o).trans hk⟩
      · push Not at h
        exact ⟨o, Or.inr (Or.inr ⟨rfl, h⟩), rfl⟩

lemma mergeBy_key {base patch : List α} {k : κ} :
    (∃ c ∈ mergeBy key merge base patch, key c = k) ↔
      (∃ c ∈ base, key c = k) ∨ ∃ o ∈ patch, key o = k := by
  unfold mergeBy
  induction patch generalizing base with
  | nil => simp
  | cons o patch ih =>
    rw [List.foldl_cons, ih, mergeOne_key hkey]
    simp [or_assoc]

lemma mergeBy_of_base {P : α → Prop} {base patch : List α} {k : κ}
    (hmerge : ∀ b, ∀ o ∈ patch, key o = k → P b → P (merge b o))
    (hbase : ∃ b ∈ base, key b = k) (hP : ∀ b ∈ base, key b = k → P b) :
    ∀ c ∈ mergeBy key merge base patch, key c = k → P c := by
  unfold mergeBy
  induction patch generalizing base with
  | nil => exact hP
  | cons o patch ih =>
    have hrest (b o : α) (ho : o ∈ patch) := hmerge b o (List.mem_cons_of_mem _ ho)
    refine ih hrest ((mergeOne_key hkey).mpr (Or.inl hbase)) fun c hc hk => ?_
    rcases mem_mergeOne.mp hc with ⟨hc, -⟩ | ⟨b, hb, hbo, rfl⟩ | ⟨rfl, hnot⟩
    · exact hP c hc hk
    · have hbk : key b = k := (hkey b o).symm.trans hk
      exact hmerge b o List.mem_cons_self (hbo.symm.trans hbk) (hP b hb hbk)
    · obtain ⟨b, hb, hbk⟩ := hbase
      exact absurd (hbk.trans hk.symm) (hnot b hb)

lemma mergeOne_keys_nodup {l : List α} {o : α} (h : (l.map key).Nodup) :
    ((mergeOne key merge l o).map key).Nodup := by
  unfold mergeOne
  split_ifs with ho
  · have hmap : key ∘ (fun b => if key b = key o then merge b o else b) = key := by
      funext b
      simp only [Function.comp_apply]
      split_ifs
      · exact hkey b o
      · rfl
    rwa [List.map_map, hmap]
  · push Not at ho
    rw [List.map_append, List.nodup_append]
    refine ⟨h, by simp, ?_⟩
    intro k hk k' hk'
    obtain ⟨b, hb, rfl⟩ := List.mem_map.mp hk
    obtain rfl : k' = key o := by simpa using hk'
    exact ho b hb

lemma mergeBy_keys_nodup {base patch : List α} (h : (base.map key).Nodup) :
    ((mergeBy key merge base patch).map key).Nodup := by
  unfold mergeBy
  induction patch generalizing base with
  | nil => exact h
  | cons o patch ih => exact ih (mergeOne_keys_nodup hkey h)

lemma mergeBy_keys (base patch : List α) : ∃ added, (mergeBy key merge base patch).map key = base.map key ++ added ∧
    ∀ k ∈ added, k ∈ patch.map key := by
  unfold mergeBy
  induction patch generalizing base with
  | nil => exact ⟨[], by simp, nofun⟩
  | cons o patch ih =>
    obtain ⟨added, hadded, hsub⟩ := ih (mergeOne key merge base o)
    have hmem (k : κ) (hk : k ∈ added) : k ∈ (o :: patch).map key := List.mem_cons_of_mem _ (hsub k hk)
    rw [List.foldl_cons, hadded]
    unfold mergeOne
    split_ifs with h
    · refine ⟨added, ?_, hmem⟩
      simp [Function.comp_def, apply_ite key, hkey]
    · refine ⟨key o :: added, by simp, ?_⟩
      rw [List.forall_mem_cons]
      exact ⟨by simp, hmem⟩

variable {P : α → Prop} (hP : ∀ b o, P (merge b o) ↔ P b ∧ P o)

include hP

lemma mergeOne_forall {l : List α} {o : α} {k : κ} :
    (∀ c ∈ mergeOne key merge l o, key c = k → P c) ↔
      (∀ c ∈ l, key c = k → P c) ∧ (key o = k → P o) := by
  constructor
  · intro h
    refine ⟨fun c hc hk => ?_, fun hk => ?_⟩
    · by_cases hco : key c = key o
      · have hm := h (merge c o) (mem_mergeOne.mpr (Or.inr (Or.inl ⟨c, hc, hco, rfl⟩))) ((hkey c o).trans hk)
        exact ((hP c o).mp hm).1
      · exact h c (mem_mergeOne.mpr (Or.inl ⟨hc, hco⟩)) hk
    · by_cases ho : ∃ b ∈ l, key b = key o
      · obtain ⟨b, hb, hbo⟩ := ho
        have hm := h (merge b o) (mem_mergeOne.mpr (Or.inr (Or.inl ⟨b, hb, hbo, rfl⟩)))
          ((hkey b o).trans (hbo.trans hk))
        exact ((hP b o).mp hm).2
      · push Not at ho
        exact h o (mem_mergeOne.mpr (Or.inr (Or.inr ⟨rfl, ho⟩))) hk
  · rintro ⟨hl, ho⟩ c hc hk
    rcases mem_mergeOne.mp hc with ⟨hc, -⟩ | ⟨b, hb, hbo, rfl⟩ | ⟨rfl, -⟩
    · exact hl c hc hk
    · rw [hkey] at hk
      exact (hP b o).mpr ⟨hl b hb hk, ho (hbo ▸ hk)⟩
    · exact ho hk

lemma mergeBy_forall {base patch : List α} {k : κ} :
    (∀ c ∈ mergeBy key merge base patch, key c = k → P c) ↔
      (∀ c ∈ base, key c = k → P c) ∧ ∀ o ∈ patch, key o = k → P o := by
  unfold mergeBy
  induction patch generalizing base with
  | nil => simp
  | cons o patch ih =>
    rw [List.foldl_cons, ih, mergeOne_forall hkey hP]
    simp [and_assoc]

lemma mergeBy_exists {base patch : List α} (h : (base.map key).Nodup) :
    (∃ c ∈ mergeBy key merge base patch, P c) ↔
      ∃ k, ((∃ c ∈ base, key c = k) ∨ ∃ o ∈ patch, key o = k) ∧
        (∀ c ∈ base, key c = k → P c) ∧ ∀ o ∈ patch, key o = k → P o := by
  simp only [← mergeBy_key hkey, ← mergeBy_forall hkey hP]
  constructor
  · rintro ⟨c, hc, hPc⟩
    refine ⟨key c, ⟨c, hc, rfl⟩, fun c' hc' hk => ?_⟩
    rwa [List.inj_on_of_nodup_map (mergeBy_keys_nodup hkey h) hc' hc hk]
  · rintro ⟨k, ⟨c, hc, hk⟩, hall⟩
    exact ⟨c, hc, hall c hc hk⟩

end Merge

section Map

variable {key merge} {f : α → α} (hf : ∀ b, key (f b) = key b)

include hf

lemma mergeOne_map {l : List α} {o : α} (hmerge : ∀ b, merge (f b) o = f (merge b o))
    (hnew : (∀ b ∈ l, key b ≠ key o) → f o = o) :
    mergeOne key merge (l.map f) o = (mergeOne key merge l o).map f := by
  have hkeys : (∃ b ∈ l.map f, key b = key o) ↔ ∃ b ∈ l, key b = key o := by simp [hf]
  unfold mergeOne
  simp only [hkeys]
  split
  · rw [List.map_map, List.map_map]
    refine List.map_congr_left fun b _ => ?_
    simp only [Function.comp_apply, hf]
    split
    · exact hmerge b
    · rfl
  · rename_i h
    push Not at h
    rw [List.map_append, List.map_singleton, hnew h]

lemma mergeBy_map {base patch : List α} (hmerge : ∀ o ∈ patch, ∀ b, merge (f b) o = f (merge b o))
    (hnew : ∀ o ∈ patch, (∀ b ∈ base, key b ≠ key o) → f o = o) (hkey : ∀ b o, key (merge b o) = key b) :
    mergeBy key merge (base.map f) patch = (mergeBy key merge base patch).map f := by
  unfold mergeBy
  induction patch generalizing base with
  | nil => rfl
  | cons o patch ih =>
    rw [List.foldl_cons, mergeOne_map hf (hmerge o List.mem_cons_self) (hnew o List.mem_cons_self)]
    refine ih (fun o ho => hmerge o (List.mem_cons_of_mem _ ho)) fun o' ho' h => ?_
    refine hnew o' (List.mem_cons_of_mem _ ho') fun b hb hbo => ?_
    obtain ⟨c, hc, hco⟩ := (mergeOne_key hkey).mpr (.inl ⟨b, hb, hbo⟩)
    exact h c hc hco

end Map

section Field

variable {key merge}

lemma find?_key_of_mem {l : List α} (hl : (l.map key).Nodup) {x : α} (hx : x ∈ l) :
    l.find? (fun y => key y = key x) = some x := by
  cases hfind : l.find? (fun y => key y = key x) with
  | none => exact absurd (List.find?_eq_none.mp hfind x hx) (by simp)
  | some y =>
    have hkey : key y = key x := by simpa using List.find?_some hfind
    rw [List.inj_on_of_nodup_map hl (List.mem_of_find?_eq_some hfind) hx hkey]

variable (hkey : ∀ b o, key (merge b o) = key b)

include hkey

lemma find?_mergeOne (l : List α) (o : α) (k : κ) : (mergeOne key merge l o).find? (fun x => key x = k) =
    if key o = k then some ((l.find? (fun x => key x = k)).elim o (fun b => merge b o))
    else l.find? (fun x => key x = k) := by
  have hcomp : (fun x => decide (key x = k)) ∘ (fun b => if key b = key o then merge b o else b) =
      fun x => decide (key x = k) := by
    funext x
    simp only [Function.comp_apply, apply_ite key, hkey, ite_self]
  unfold mergeOne
  split_ifs with h hk hk
  · obtain ⟨b, hb, hbo⟩ := h
    obtain ⟨c, hc⟩ : ∃ c, l.find? (fun x => key x = k) = some c := by
      rw [← Option.isSome_iff_exists, List.find?_isSome]
      exact ⟨b, hb, by simpa using hbo.trans hk⟩
    have hck : key c = key o := by simpa [hk] using List.find?_some hc
    rw [List.find?_map, hcomp, hc, Option.map_some, if_pos hck, Option.elim_some]
  · rw [List.find?_map, hcomp]
    cases hc : l.find? (fun x => key x = k) with
    | none => rfl
    | some c =>
      have hck : key c ≠ key o := by
        have hck : key c = k := by simpa using List.find?_some hc
        exact fun h => hk (h.symm.trans hck)
      rw [Option.map_some, if_neg hck]
  · push Not at h
    have hnone : l.find? (fun x => key x = k) = none := by
      rw [List.find?_eq_none]
      intro b hb
      simpa [hk] using h b hb
    simp [List.find?_append, hnone, hk]
  · simp [List.find?_append, hk]

lemma mergeBy_field {β : Type} {f : α → β} {g : β → β → β} {e : β} (hf : ∀ b o, f (merge b o) = g (f b) (f o))
    (he : ∀ o, g e (f o) = f o) (base patch : List α) (k : κ) :
    ((mergeBy key merge base patch).find? (fun x => key x = k)).elim e f =
      (patch.filter (fun o => key o = k)).foldl (fun m o => g m (f o))
        ((base.find? (fun x => key x = k)).elim e f) := by
  unfold mergeBy
  induction patch generalizing base with
  | nil => rfl
  | cons o patch ih =>
    rw [List.foldl_cons, ih, find?_mergeOne hkey]
    by_cases hk : key o = k
    · rw [if_pos hk, List.filter_cons_of_pos (by simpa using hk), List.foldl_cons]
      cases base.find? (fun x => key x = k) with
      | none => rw [Option.elim_some, Option.elim_none, Option.elim_none, he]
      | some b => rw [Option.elim_some, Option.elim_some, Option.elim_some, hf]
    · rw [if_neg hk, List.filter_cons_of_neg (by simpa using hk)]

end Field

end ClusterOperator.Keyed
