import Mathlib.Tactic

/-! Objects with versions. The state counts revisions, every write of an object gets a
version that was never used before, and so a version stands for one content. -/

namespace ClusterOperator.Interaction

structure Versioned (S α : Type) where
  revision : S → ℕ
  object : S → Option α
  version : α → ℕ
  withVersion : α → ℕ → α
  issued : ∀ s, ∀ o ∈ object s, version o ≤ revision s
  withVersion_version : ∀ o, withVersion o (version o) = o

namespace Versioned

variable {S α : Type} (V : Versioned S α)

/-- In `s'` the object is the one of `s`, or it has a new version, or it is gone. -/
structure Fresh (s s' : S) : Prop where
  revision : V.revision s ≤ V.revision s'
  object : ∀ o ∈ V.object s', o ∈ V.object s ∨ V.revision s < V.version o

/-- `v` was stored at some time: only `v` itself can be stored with its version. -/
structure Read (v : α) (s : S) : Prop where
  version : V.version v ≤ V.revision s
  object : ∀ o ∈ V.object s, V.version o = V.version v → o = v

variable {V} {s s' s'' : S} {v : α}

lemma Fresh.refl : V.Fresh s s := ⟨le_rfl, fun _ => Or.inl⟩

lemma Fresh.trans (h : V.Fresh s s') (h' : V.Fresh s' s'') : V.Fresh s s'' := by
  refine ⟨h.revision.trans h'.revision, fun o ho => ?_⟩
  rcases h'.object o ho with ho | ho
  · exact h.object o ho
  · exact Or.inr (h.revision.trans_lt ho)

lemma Fresh.of_eq (hr : V.revision s ≤ V.revision s') (ho : V.object s' = V.object s) : V.Fresh s s' :=
  ⟨hr, fun _ h => Or.inl (ho ▸ h)⟩

lemma Fresh.of_eq_none (hr : V.revision s ≤ V.revision s') (ho : V.object s' = none) : V.Fresh s s' :=
  ⟨hr, fun _ h => nomatch ho ▸ h⟩

lemma Fresh.of_eq_some (hr : V.revision s ≤ V.revision s') (ho : V.object s' = some v)
    (hv : V.revision s < V.version v) : V.Fresh s s' := by
  refine ⟨hr, fun o' ho' => Or.inr ?_⟩
  obtain rfl := Option.some.inj (ho.symm.trans ho')
  exact hv

lemma read_of_stored (h : v ∈ V.object s) : V.Read v s :=
  ⟨V.issued s v h, fun _ ho _ => Option.mem_unique ho h⟩

lemma Read.fresh (h : V.Read v s) (hf : V.Fresh s s') : V.Read v s' := by
  refine ⟨h.version.trans hf.revision, fun o ho hv => ?_⟩
  rcases hf.object o ho with ho | ho
  · exact h.object o ho hv
  · exact absurd (hv ▸ h.version) (not_le.mpr ho)

end Versioned

end ClusterOperator.Interaction
