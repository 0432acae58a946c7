import ClusterOperator.Resource.ContainerOverride

/-! The loop of `sortEnvVar` and `sortVolumeMounts`. While it reads one of the first places it
only exchanges these among themselves; afterwards each named element it meets is put at its
place, and what stood there is left where the element was. -/

namespace ClusterOperator.Resource

open Kubernetes

variable {α β : Type} {place : α → Option ℕ} {is js : List ℕ} {l l' front passed rest : List α} {i j : ℕ}

lemma swap_perm (h : swap l i j = .ok l') : l'.Perm l := by
  unfold swap at h
  split at h
  · rename_i x y hx hy
    obtain ⟨hi, rfl⟩ := List.getElem?_eq_some_iff.mp hx
    obtain ⟨hj, rfl⟩ := List.getElem?_eq_some_iff.mp hy
    cases h
    exact List.set_set_perm hi hj
  · cases h

lemma moveToFront_perm (h : moveToFront place is l = .ok l') : l'.Perm l := by
  induction is generalizing l with
  | nil =>
    cases h
    exact .refl _
  | cons i is ih =>
    unfold moveToFront at h
    split at h
    · exact ih h
    · obtain ⟨m, hm, h⟩ := bind_eq_ok.mp h
      exact (ih h).trans (swap_perm hm)

lemma moveToFront_append :
    moveToFront place (is ++ js) l = (moveToFront place is l).bind (moveToFront place js) := by
  induction is generalizing l with
  | nil => rfl
  | cons i is ih =>
    rw [List.cons_append]
    unfold moveToFront
    split
    · exact ih
    · cases swap l _ i with
      | error e => rfl
      | ok m => exact ih

lemma swap_map (f : α → β) : swap (l.map f) i j = (swap l i j).map (List.map f) := by
  unfold swap
  rw [List.getElem?_map, List.getElem?_map]
  cases l[i]? with
  | none => rfl
  | some x =>
    cases l[j]? with
    | none => rfl
    | some y => simp [Except.map, List.map_set]

lemma moveToFront_map (f : α → β) (place : β → Option ℕ) :
    moveToFront place is (l.map f) = (moveToFront (fun a => place (f a)) is l).map (List.map f) := by
  induction is generalizing l with
  | nil => rfl
  | cons i is ih =>
    have hread : (l.map f)[i]?.bind place = l[i]?.bind fun a => place (f a) := by
      rw [List.getElem?_map, Option.bind_map]
      rfl
    unfold moveToFront
    rw [hread]
    cases l[i]?.bind fun a => place (f a) with
    | none => exact ih
    | some j =>
      simp only [swap_map]
      cases swap l j i with
      | error e => rfl
      | ok m => exact ih

lemma swap_append (hi : i < front.length) (hj : j < front.length) :
    swap (front ++ rest) i j = (swap front i j).map (· ++ rest) := by
  unfold swap
  rw [List.getElem?_append_left hi, List.getElem?_append_left hj, List.getElem?_eq_getElem hi,
    List.getElem?_eq_getElem hj]
  simp [Except.map, hi, hj]

lemma moveToFront_within (rest : List α) (his : ∀ i ∈ is, i < front.length)
    (hplace : ∀ a j, place a = some j → j < front.length) :
    moveToFront place is (front ++ rest) = (moveToFront place is front).map (· ++ rest) := by
  induction is generalizing front with
  | nil => rfl
  | cons i is ih =>
    have hi := his i List.mem_cons_self
    have hrest (k : ℕ) (h : k ∈ is) := his k (List.mem_cons_of_mem _ h)
    unfold moveToFront
    rw [List.getElem?_append_left hi]
    cases hp : front[i]?.bind place with
    | none => exact ih hrest hplace
    | some j =>
      obtain ⟨a, -, ha⟩ := Option.bind_eq_some_iff.mp hp
      obtain ⟨m, hm, hlen⟩ := swap_ok (hplace a j ha) hi
      simp only [swap_append (hplace a j ha) hi, hm]
      exact ih (hlen ▸ hrest) (hlen ▸ hplace)

def settle (place : α → Option ℕ) (front rest : List α) : List α :=
  rest.foldl (fun front a => (place a).elim front (front.set · a)) front

lemma settle_cons {x : α} :
    settle place front (x :: rest) = settle place ((place x).elim front (front.set · x)) rest :=
  rfl

lemma length_elim_set {x : α} : ((place x).elim front (front.set · x)).length = front.length := by
  cases place x <;> simp

lemma settle_length : (settle place front rest).length = front.length := by
  induction rest generalizing front with
  | nil => rfl
  | cons x rest ih =>
    rw [settle_cons, ih, length_elim_set]

lemma settle_place (hj : j < front.length) : (settle place front rest)[j]?.bind place = some j ↔
    (∃ a ∈ rest, place a = some j) ∨ front[j]?.bind place = some j := by
  induction rest generalizing front with
  | nil => simp [settle]
  | cons x rest ih =>
    rw [settle_cons]
    cases hp : place x with
    | none => simpa [hp] using ih hj
    | some k =>
      rw [Option.elim_some, ih (by simpa using hj)]
      by_cases hk : k = j
      · subst hk
        simp [hj, hp]
      · simp [hk, hp, List.getElem?_set_ne hk]

lemma map_findIdx?_cons {p : α → Bool} {x : α} (hx : p x = false) (n : ℕ) :
    ((x :: rest).findIdx? p).map (n + ·) = (rest.findIdx? p).map (n + 1 + ·) := by
  rw [List.findIdx?_cons, hx, if_neg Bool.false_ne_true, Option.map_map]
  congr 1
  funext i
  exact (Nat.add_assoc n i 1).symm.trans (Nat.add_right_comm n i 1)

/-- The slice after its rest was read: a named element takes its place among the first, and what
stood there is left where the element was. -/
def exchange (place : α → Option ℕ) : List α → List α → List α → List α
  | front, passed, [] => front ++ passed
  | front, passed, x :: rest =>
    exchange place ((place x).elim front (front.set · x)) (passed ++ [((place x).bind (front[·]?)).getD x]) rest

lemma moveToFront_step {x : α} (hplace : ∀ a j, place a = some j → j < front.length) :
    moveToFront place (List.range' (front.length + passed.length) (x :: rest).length)
        (front ++ passed ++ x :: rest) =
      moveToFront place (List.range' (front.length + passed.length + 1) rest.length)
        ((place x).elim front (front.set · x) ++ (passed ++ [((place x).bind (front[·]?)).getD x]) ++ rest) := by
  have hread : (front ++ passed ++ x :: rest)[front.length + passed.length]? = some x := by
    rw [← List.length_append, List.getElem?_append_right le_rfl]
    simp
  rw [List.length_cons, List.range'_succ, moveToFront, hread, Option.bind_some]
  cases hp : place x with
  | none => simp
  | some j =>
    have hj := hplace x j hp
    have hswap : swap (front ++ passed ++ x :: rest) j (front.length + passed.length) =
        .ok (front.set j x ++ (passed ++ [front[j]]) ++ rest) := by
      unfold swap
      rw [hread, List.append_assoc, List.getElem?_append_left hj, List.getElem?_eq_getElem hj]
      simp [hj]
    simp only [hswap]
    simp [Except.bind, hj]

lemma moveToFront_beyond (front passed rest : List α) (hplace : ∀ a j, place a = some j → j < front.length) :
    moveToFront place (List.range' (front.length + passed.length) rest.length) (front ++ passed ++ rest) =
      .ok (exchange place front passed rest) := by
  induction rest generalizing front passed with
  | nil => simp [moveToFront, exchange]
  | cons x rest ih =>
    rw [moveToFront_step hplace, exchange, ← ih _ _ (length_elim_set.symm ▸ hplace), length_elim_set,
      List.length_append, List.length_singleton, Nat.add_assoc]

lemma moveToFront_range (front rest : List α) {front' : List α}
    (hplace : ∀ a j, place a = some j → j < front.length)
    (hfront : moveToFront place (List.range front.length) front = .ok front') :
    moveToFront place (List.range (front ++ rest).length) (front ++ rest) =
      .ok (exchange place front' [] rest) := by
  have hlength := (moveToFront_perm hfront).length_eq
  have hbegin := moveToFront_within rest (fun i hi => List.mem_range.mp hi) hplace
  have hend := moveToFront_beyond front' [] rest (hlength.symm ▸ hplace)
  rw [List.append_nil, List.length_nil, Nat.add_zero, hlength] at hend
  rw [List.length_append, List.range_add, ← List.range'_eq_map_range, moveToFront_append, hbegin, hfront]
  exact hend

lemma moveToFront_pair (hplace : ∀ a j, place a = some j → j < 2) (a b : α) :
    moveToFront place (List.range 2) [a, b] =
      .ok (if place a = some 1 ∨ place b = some 0 then [b, a] else [a, b]) := by
  have hcases (x : α) : place x = none ∨ place x = some 0 ∨ place x = some 1 := by
    cases hx : place x with
    | none => exact Or.inl rfl
    | some j =>
      have := hplace x j hx
      interval_cases j <;> simp
  rcases hcases a with ha | ha | ha <;> rcases hcases b with hb | hb | hb <;>
    simp [moveToFront, swap, List.range_succ, Except.bind, ha, hb]

variable (place front passed rest)

lemma exchange_eq_settle :
    ∃ left, exchange place front passed rest = settle place front rest ++ (passed ++ left) := by
  induction rest generalizing front passed with
  | nil => exact ⟨[], by simp [exchange, settle]⟩
  | cons x rest ih =>
    obtain ⟨left, hleft⟩ := ih ((place x).elim front (front.set · x))
      (passed ++ [((place x).bind (front[·]?)).getD x])
    exact ⟨_ :: left, by rw [exchange, hleft, settle_cons, List.append_assoc, List.singleton_append]⟩

variable {passed} in
lemma exchange_passed {y : α} {k : ℕ} (hy : passed[k]? = some y) :
    (exchange place front passed rest)[front.length + k]? = some y := by
  obtain ⟨hk, -⟩ := List.getElem?_eq_some_iff.mp hy
  obtain ⟨left, hleft⟩ := exchange_eq_settle place front passed rest
  have hlength : (settle place front rest).length = front.length := settle_length
  rw [hleft, ← hlength, List.getElem?_append_right (Nat.le_add_right _ _), Nat.add_sub_cancel_left,
    List.getElem?_append_left hk]
  exact hy

lemma exchange_front {y : α} (hy : front[j]? = some y) :
    (exchange place front passed rest)[((rest.findIdx? (place · = some j)).map
      (front.length + passed.length + ·)).getD j]? = some y := by
  obtain ⟨hj, -⟩ := List.getElem?_eq_some_iff.mp hy
  induction rest generalizing front passed with
  | nil =>
    rw [exchange, List.findIdx?_nil, Option.map_none, Option.getD_none, List.getElem?_append_left hj]
    exact hy
  | cons x rest ih =>
    rw [exchange]
    by_cases hx : place x = some j
    · have hleft : (passed ++ [((place x).bind (front[·]?)).getD x])[passed.length]? = some y := by
        simp [hx, hy]
      have hstay := exchange_passed place ((place x).elim front (front.set · x)) rest hleft
      simpa [List.findIdx?_cons, hx] using hstay
    · have hfront : ((place x).elim front (front.set · x))[j]? = some y := by
        cases hp : place x with
        | none => exact hy
        | some i =>
          rw [Option.elim_some, List.getElem?_set_ne (fun h => hx (hp.trans (congrArg some h)))]
          exact hy
      have hlater := ih _ (passed ++ [((place x).bind (front[·]?)).getD x]) hfront (length_elim_set.symm ▸ hj)
      rw [length_elim_set, List.length_append, List.length_singleton, ← Nat.add_assoc] at hlater
      rwa [map_findIdx?_cons (by simpa using hx)]

lemma exchange_rest {y : α} {k : ℕ} (hy : rest[k]? = some y) (hp : place y = some j) (hj : j < front.length) :
    (exchange place front passed rest)[(((rest.drop (k + 1)).findIdx? (place · = some j)).map
      (front.length + passed.length + (k + 1) + ·)).getD j]? = some y := by
  induction rest generalizing front passed k with
  | nil => cases hy
  | cons x rest ih =>
    rw [exchange, List.drop_succ_cons]
    cases k with
    | zero =>
      cases hy
      have hfront : ((place y).elim front (front.set · y))[j]? = some y := by
        simp [hp, hj]
      have hlater := exchange_front place _ (passed ++ [((place y).bind (front[·]?)).getD y]) rest hfront
      rwa [length_elim_set, List.length_append, List.length_singleton, ← Nat.add_assoc] at hlater
    | succ k =>
      have hj' : j < ((place x).elim front (front.set · x)).length := length_elim_set.symm ▸ hj
      have hlater := ih _ (passed ++ [((place x).bind (front[·]?)).getD x]) hy hj'
      rw [length_elim_set, List.length_append, List.length_singleton, ← Nat.add_assoc] at hlater
      rwa [Nat.add_comm (k + 1) 1, ← Nat.add_assoc]

end ClusterOperator.Resource
