import Mathlib.Tactic

namespace ClusterOperator.Kubernetes

/-- Go's `map[string]string`, as the list of its entries. -/
structure StringMap where
  entries : List (String × String) := []
deriving DecidableEq

namespace StringMap

def getEntry (k : String) : List (String × String) → Option String
  | [] => none
  | e :: es => if e.1 = k then some e.2 else getEntry k es

def get? (m : StringMap) (k : String) : Option String := getEntry k m.entries

def setEntry (k v : String) : List (String × String) → List (String × String)
  | [] => [(k, v)]
  | e :: es => if e.1 = k then (k, v) :: es else e :: setEntry k v es

def set (m : StringMap) (k v : String) : StringMap := ⟨setEntry k v m.entries⟩

def erase (m : StringMap) (k : String) : StringMap := ⟨m.entries.filter (fun e => e.1 ≠ k)⟩

def merge (m o : StringMap) : StringMap := o.entries.foldl (fun m e => m.set e.1 e.2) m

def filterKeys (p : String → Bool) (m : StringMap) : StringMap := ⟨m.entries.filter (fun e => p e.1)⟩

lemma getEntry_setEntry (k v j : String) (es : List (String × String)) :
    getEntry j (setEntry k v es) = if j = k then some v else getEntry j es := by
  induction es with
  | nil => by_cases h : j = k <;> simp [setEntry, getEntry, h, Ne.symm]
  | cons e es ih =>
    by_cases he : e.1 = k
    · by_cases h : j = k
      · simp [setEntry, getEntry, he, h]
      · simp [setEntry, getEntry, he, h, Ne.symm h]
    · by_cases h : j = k
      · subst h
        simpa [setEntry, getEntry, he] using ih
      · simp [setEntry, getEntry, he, ih, h]

@[simp] lemma get?_set (m : StringMap) (k v j : String) :
    (m.set k v).get? j = if j = k then some v else m.get? j :=
  getEntry_setEntry k v j m.entries

lemma getEntry_filter (k j : String) (es : List (String × String)) :
    getEntry j (es.filter (fun e => e.1 ≠ k)) = if j = k then none else getEntry j es := by
  induction es with
  | nil => simp [getEntry]
  | cons e es ih =>
    by_cases he : e.1 = k
    · by_cases h : j = k
      · simpa [he, h] using ih
      · simpa [he, getEntry, h, Ne.symm h] using ih
    · by_cases h : j = k
      · subst h
        simpa [he, getEntry] using ih
      · simp only [ne_eq, decide_not, h, if_false] at ih
        simp [he, getEntry, h, ih]

@[simp] lemma get?_erase (m : StringMap) (k j : String) :
    (m.erase k).get? j = if j = k then none else m.get? j :=
  getEntry_filter k j m.entries

lemma get?_filterKeys (p : String → Bool) (m : StringMap) (k : String) :
    (m.filterKeys p).get? k = if p k then m.get? k else none := by
  rcases m with ⟨es⟩
  change getEntry k (es.filter fun e => p e.1) = if p k then getEntry k es else none
  induction es with
  | nil => simp [getEntry]
  | cons e es ih =>
    by_cases he : e.1 = k
    · subst he
      cases hp : p e.1
      · simpa [hp] using ih
      · simp [hp, getEntry]
    · cases hp : p e.1
      · simpa [hp, getEntry, he] using ih
      · simpa [hp, getEntry, he] using ih

lemma get?_merge_of_absent {o : StringMap} {k : String} (m : StringMap)
    (h : ∀ e ∈ o.entries, e.1 ≠ k) : (m.merge o).get? k = m.get? k := by
  rcases o with ⟨es⟩
  unfold merge
  induction es generalizing m with
  | nil => rfl
  | cons e es ih =>
    have he : k ≠ e.1 := Ne.symm (h e List.mem_cons_self)
    exact (ih (m.set e.1 e.2) (fun f hf => h f (List.mem_cons_of_mem _ hf))).trans (by simp [he])

def lastEntry (k : String) : List (String × String) → Option String
  | [] => none
  | e :: es => (lastEntry k es).or (if e.1 = k then some e.2 else none)

lemma lastEntry_append (k : String) (es es' : List (String × String)) :
    lastEntry k (es ++ es') = (lastEntry k es').or (lastEntry k es) := by
  induction es with
  | nil => simp [lastEntry]
  | cons e es ih => simp [lastEntry, ih, Option.or_assoc]

lemma get?_merge (m o : StringMap) (k : String) :
    (m.merge o).get? k = (lastEntry k o.entries).or (m.get? k) := by
  rcases o with ⟨es⟩
  unfold merge
  induction es generalizing m with
  | nil => simp [lastEntry]
  | cons e es ih =>
    refine (ih (m.set e.1 e.2)).trans ?_
    rw [get?_set, lastEntry, Option.or_assoc]
    by_cases h : k = e.1
    · simp [h]
    · simp [h, Ne.symm h]

lemma mem_setEntry {k v : String} {es : List (String × String)} {e : String × String}
    (h : e ∈ setEntry k v es) : e = (k, v) ∨ e ∈ es := by
  induction es with
  | nil => exact Or.inl (List.mem_singleton.mp h)
  | cons f es ih =>
    rw [setEntry] at h
    split at h
    · exact (List.mem_cons.mp h).imp_right (List.mem_cons_of_mem _)
    · rcases List.mem_cons.mp h with rfl | h
      · exact Or.inr List.mem_cons_self
      · exact (ih h).imp_right (List.mem_cons_of_mem _)

lemma mem_merge {m o : StringMap} {e : String × String} (h : e ∈ (m.merge o).entries) :
    e ∈ m.entries ∨ e ∈ o.entries := by
  rcases o with ⟨es⟩
  unfold merge at h
  induction es generalizing m with
  | nil => exact Or.inl h
  | cons f es ih =>
    rcases ih h with h | h
    · rcases mem_setEntry h with rfl | h
      · exact Or.inr List.mem_cons_self
      · exact Or.inl h
    · exact Or.inr (List.mem_cons_of_mem _ h)

def KeysNodup (m : StringMap) : Prop := (m.entries.map Prod.fst).Nodup

lemma keysNodup_empty : KeysNodup {} := List.nodup_nil

lemma mem_keys_setEntry {k v j : String} {es : List (String × String)} :
    j ∈ (setEntry k v es).map Prod.fst ↔ j = k ∨ j ∈ es.map Prod.fst := by
  induction es with
  | nil => simp [setEntry]
  | cons e es ih =>
    by_cases he : e.1 = k
    · simp [setEntry, he]
    · simp only [setEntry, he, if_false, List.map_cons, List.mem_cons, ih]
      tauto

lemma KeysNodup.set {m : StringMap} (h : m.KeysNodup) (k v : String) : (m.set k v).KeysNodup := by
  rcases m with ⟨es⟩
  change (es.map Prod.fst).Nodup at h
  change ((setEntry k v es).map Prod.fst).Nodup
  induction es with
  | nil => simp [setEntry]
  | cons e es ih =>
    rw [List.map_cons, List.nodup_cons] at h
    by_cases he : e.1 = k
    · rw [setEntry, if_pos he, List.map_cons, List.nodup_cons]
      exact he ▸ h
    · rw [setEntry, if_neg he, List.map_cons, List.nodup_cons]
      refine ⟨fun hm => ?_, ih h.2⟩
      rcases mem_keys_setEntry.mp hm with hk | hm
      · exact he hk
      · exact h.1 hm

lemma KeysNodup.merge {m : StringMap} (h : m.KeysNodup) (o : StringMap) : (m.merge o).KeysNodup := by
  rcases o with ⟨es⟩
  unfold StringMap.merge
  induction es generalizing m with
  | nil => exact h
  | cons e es ih => exact ih (h.set e.1 e.2)

lemma getEntry_eq_none {k : String} {es : List (String × String)} (h : k ∉ es.map Prod.fst) :
    getEntry k es = none := by
  induction es with
  | nil => rfl
  | cons e es ih =>
    rw [List.map_cons, List.mem_cons, not_or] at h
    simp [getEntry, Ne.symm h.1, ih h.2]

lemma KeysNodup.lastEntry_eq {m : StringMap} (h : m.KeysNodup) (k : String) :
    lastEntry k m.entries = m.get? k := by
  rcases m with ⟨es⟩
  change (es.map Prod.fst).Nodup at h
  change lastEntry k es = getEntry k es
  induction es with
  | nil => rfl
  | cons e es ih =>
    rw [List.map_cons, List.nodup_cons] at h
    rw [lastEntry, getEntry, ih h.2]
    by_cases he : e.1 = k
    · simp [he, getEntry_eq_none (he ▸ h.1)]
    · simp [he]

lemma setEntry_setEntry (k v w : String) (es : List (String × String)) :
    setEntry k w (setEntry k v es) = setEntry k w es := by
  induction es with
  | nil => simp [setEntry]
  | cons e es ih => by_cases he : e.1 = k <;> simp [setEntry, he, ih]

lemma set_set (m : StringMap) (k v w : String) : (m.set k v).set k w = m.set k w :=
  congrArg StringMap.mk (setEntry_setEntry k v w m.entries)

lemma erase_eq_self {m : StringMap} {k : String} (h : m.get? k = none) : m.erase k = m := by
  rcases m with ⟨es⟩
  change getEntry k es = none at h
  refine congrArg StringMap.mk (List.filter_eq_self.mpr fun e he => ?_)
  induction es with
  | nil => cases he
  | cons f es ih =>
    rw [getEntry] at h
    split at h
    · cases h
    · rename_i hf
      rcases List.mem_cons.mp he with rfl | he
      · simpa using hf
      · exact ih h he

lemma lastEntry_filter {k : String} {p : String × String → Bool} (es : List (String × String))
    (hk : ∀ e ∈ es, e.1 = k → p e = true) : lastEntry k (es.filter p) = lastEntry k es := by
  induction es with
  | nil => rfl
  | cons e es ih =>
    have ih' := ih fun f hf => hk f (List.mem_cons_of_mem _ hf)
    by_cases hp : p e = true
    · rw [List.filter_cons_of_pos hp, lastEntry, lastEntry, ih']
    · have he : e.1 ≠ k := fun h => hp (hk e List.mem_cons_self h)
      rw [List.filter_cons_of_neg hp, lastEntry, ih', if_neg he, Option.or_none]

lemma lastEntry_eq_none {k : String} {es : List (String × String)} (h : ∀ e ∈ es, e.1 ≠ k) :
    lastEntry k es = none := by
  induction es with
  | nil => rfl
  | cons e es ih =>
    rw [lastEntry, ih fun f hf => h f (List.mem_cons_of_mem _ hf), if_neg (h e List.mem_cons_self)]
    rfl

lemma lastEntry_eq_none_iff {m : StringMap} {k : String} : lastEntry k m.entries = none ↔ m.get? k = none := by
  rcases m with ⟨es⟩
  change lastEntry k es = none ↔ getEntry k es = none
  induction es with
  | nil => rfl
  | cons e es ih =>
    by_cases he : e.1 = k
    · simp [lastEntry, getEntry, he]
    · simpa [lastEntry, getEntry, he] using ih

lemma foldl_setEntry_cons (f : String × String) (fs es : List (String × String)) :
    es.foldl (fun m e => setEntry e.1 e.2 m) (f :: fs) =
      (f.1, (lastEntry f.1 es).getD f.2) ::
        (es.filter fun e => e.1 ≠ f.1).foldl (fun m e => setEntry e.1 e.2 m) fs := by
  induction es generalizing f fs with
  | nil => rfl
  | cons e es ih =>
    rw [List.foldl_cons, setEntry]
    by_cases he : f.1 = e.1
    · rw [if_pos he, ih]
      cases hl : lastEntry e.1 es <;> simp [he, lastEntry, hl]
    · rw [if_neg he, ih]
      simp [lastEntry, Ne.symm he]

lemma foldl_setEntry_eq_self {m es : List (String × String)}
    (h : ∀ k v, lastEntry k es = some v → getEntry k m = some v) :
    es.foldl (fun m e => setEntry e.1 e.2 m) m = m := by
  induction m generalizing es with
  | nil =>
    cases es with
    | nil => rfl
    | cons e es =>
      cases hl : lastEntry e.1 es with
      | none => exact nomatch h e.1 e.2 (by simp [lastEntry, hl])
      | some v => exact nomatch h e.1 v (by simp [lastEntry, hl])
  | cons f fs ih =>
    rw [foldl_setEntry_cons]
    congr 1
    · cases hl : lastEntry f.1 es with
      | none => rfl
      | some v =>
        have hv := h f.1 v hl
        simp only [getEntry, if_true, Option.some.injEq] at hv
        simp [← hv]
    · refine ih fun k v hk => ?_
      have hne : k ≠ f.1 := by
        rintro rfl
        rw [lastEntry_eq_none fun e he => by simpa using (List.mem_filter.mp he).2] at hk
        cases hk
      rw [lastEntry_filter es fun e _ he => by simpa [he] using hne] at hk
      have hv := h k v hk
      rwa [getEntry, if_neg (Ne.symm hne)] at hv

lemma merge_entries (m o : StringMap) :
    (m.merge o).entries = o.entries.foldl (fun m e => setEntry e.1 e.2 m) m.entries := by
  rcases o with ⟨es⟩
  unfold merge
  induction es generalizing m with
  | nil => rfl
  | cons e es ih => exact ih (m.set e.1 e.2)

lemma merge_append (m : StringMap) (es es' : List (String × String)) :
    (m.merge ⟨es⟩).merge ⟨es'⟩ = m.merge ⟨es ++ es'⟩ := List.foldl_append.symm

lemma merge_eq_self_iff {m o : StringMap} :
    m.merge o = m ↔ ∀ k v, lastEntry k o.entries = some v → m.get? k = some v := by
  constructor
  · intro h k v hk
    have hget := get?_merge m o k
    rwa [h, hk, Option.some_or] at hget
  · intro h
    have he : (m.merge o).entries = m.entries := by
      rw [merge_entries]
      exact foldl_setEntry_eq_self h
    rcases m with ⟨es⟩
    exact congrArg StringMap.mk he

lemma set_eq_self {m : StringMap} {k v : String} (h : m.get? k = some v) : m.set k v = m := by
  refine (merge_eq_self_iff (o := ⟨[(k, v)]⟩)).mpr fun j w hj => ?_
  simp only [lastEntry, Option.none_or] at hj
  split at hj
  · rename_i hkj
    rw [← hkj, h]
    exact hj
  · cases hj

lemma setEntry_comm {k j : String} (v w : String) {es : List (String × String)} (hjk : j ≠ k)
    (h : k ∈ es.map Prod.fst) : setEntry k v (setEntry j w es) = setEntry j w (setEntry k v es) := by
  induction es with
  | nil => cases h
  | cons e es ih =>
    by_cases hk : e.1 = k
    · simp [setEntry, hk, hjk.symm]
    · have hes : k ∈ es.map Prod.fst := (List.mem_cons.mp h).resolve_left (Ne.symm hk)
      by_cases hj : e.1 = j
      · simp [setEntry, hj, hjk]
      · simp [setEntry, hj, hk, ih hes]

lemma merge_set_comm {m o : StringMap} {k v : String} (hm : k ∈ m.entries.map Prod.fst)
    (ho : k ∉ o.entries.map Prod.fst) : (m.merge o).set k v = (m.set k v).merge o := by
  rcases o with ⟨es⟩
  unfold merge
  induction es generalizing m with
  | nil => rfl
  | cons e es ih =>
    rw [List.map_cons, List.mem_cons, not_or] at ho
    have hcomm : (m.set e.1 e.2).set k v = (m.set k v).set e.1 e.2 :=
      congrArg StringMap.mk (setEntry_comm v e.2 (Ne.symm ho.1) hm)
    refine (ih (m := m.set e.1 e.2) (mem_keys_setEntry.mpr (.inr hm)) ho.2).trans ?_
    rw [hcomm]
    rfl

lemma merge_set (m : StringMap) {o : StringMap} (h : o.KeysNodup) (k v : String) :
    m.merge (o.set k v) = (m.merge o).set k v := by
  rcases o with ⟨es⟩
  change (es.map Prod.fst).Nodup at h
  induction es generalizing m with
  | nil => rfl
  | cons e es ih =>
    rw [List.map_cons, List.nodup_cons] at h
    by_cases he : e.1 = k
    · subst he
      have hset : StringMap.set ⟨e :: es⟩ e.1 v = ⟨(e.1, v) :: es⟩ :=
        congrArg StringMap.mk (by rw [setEntry, if_pos rfl])
      rw [hset]
      change (m.set e.1 v).merge ⟨es⟩ = ((m.set e.1 e.2).merge ⟨es⟩).set e.1 v
      rw [merge_set_comm (m := m.set e.1 e.2) (mem_keys_setEntry.mpr (.inl rfl)) h.1, set_set]
    · have hset : StringMap.set ⟨e :: es⟩ k v = ⟨e :: setEntry k v es⟩ :=
        congrArg StringMap.mk (by rw [setEntry, if_neg he])
      rw [hset]
      exact ih (m.set e.1 e.2) h.2

lemma merge_assoc (m : StringMap) {o : StringMap} (h : o.KeysNodup) (o' : StringMap) :
    m.merge (o.merge o') = (m.merge o).merge o' := by
  rcases o' with ⟨es⟩
  unfold merge
  induction es generalizing o with
  | nil => rfl
  | cons e es ih =>
    refine (ih (h.set e.1 e.2)).trans ?_
    exact congrArg (fun m => List.foldl (fun m e => StringMap.set m e.1 e.2) m es) (merge_set m h e.1 e.2)

lemma setEntry_of_absent {k v : String} {es : List (String × String)} (h : k ∉ es.map Prod.fst) :
    setEntry k v es = es ++ [(k, v)] := by
  induction es with
  | nil => rfl
  | cons e es ih =>
    rw [List.map_cons, List.mem_cons, not_or] at h
    rw [setEntry, if_neg (Ne.symm h.1), ih h.2, List.cons_append]

lemma empty_merge {o : StringMap} (h : o.KeysNodup) : StringMap.merge {} o = o := by
  have happend (fs es : List (String × String)) (hnodup : ((es ++ fs).map Prod.fst).Nodup) :
      StringMap.merge ⟨es⟩ ⟨fs⟩ = ⟨es ++ fs⟩ := by
    induction fs generalizing es with
    | nil => exact congrArg StringMap.mk (List.append_nil es).symm
    | cons f fs ih =>
      have hf : f.1 ∉ es.map Prod.fst := by
        rw [List.map_append, List.map_cons, List.nodup_append] at hnodup
        exact fun hmem => hnodup.2.2 f.1 hmem f.1 List.mem_cons_self rfl
      have hset : StringMap.set ⟨es⟩ f.1 f.2 = ⟨es ++ [f]⟩ := congrArg StringMap.mk (setEntry_of_absent hf)
      change StringMap.merge (StringMap.set ⟨es⟩ f.1 f.2) ⟨fs⟩ = _
      rw [hset, ih (es ++ [f]) (by simpa using hnodup), List.append_assoc, List.singleton_append]
  exact happend o.entries [] h

lemma filterKeys_set (p : String → Bool) (m : StringMap) (k v : String) :
    (m.set k v).filterKeys p = if p k then (m.filterKeys p).set k v else m.filterKeys p := by
  rcases m with ⟨es⟩
  have hes : (setEntry k v es).filter (fun e => p e.1) =
      if p k then setEntry k v (es.filter fun e => p e.1) else es.filter fun e => p e.1 := by
    induction es with
    | nil => cases hp : p k <;> simp [setEntry, hp]
    | cons e es ih =>
      by_cases he : e.1 = k
      · subst he
        cases hp : p e.1 <;> simp [setEntry, hp]
      · rw [setEntry, if_neg he]
        cases hpe : p e.1 <;> cases hp : p k <;> simp [hpe, hp, ih, setEntry, he]
  refine (congrArg StringMap.mk hes).trans ?_
  split <;> rfl

end StringMap

end ClusterOperator.Kubernetes
