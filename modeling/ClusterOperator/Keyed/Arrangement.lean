import Mathlib.Tactic

namespace ClusterOperator.Keyed

structure Arrangement (α : Type) where
  order : List α → List α
  perm : ∀ l, (order l).Perm l

namespace Arrangement

variable {α : Type} {l : List α}

def unchanged : Arrangement α where
  order l := l
  perm l := .refl l

def reversed : Arrangement α where
  order := List.reverse
  perm := List.reverse_perm

@[simp] lemma mem_order (a : Arrangement α) {x : α} : x ∈ a.order l ↔ x ∈ l :=
  (a.perm l).mem_iff

lemma forall_order [DecidableEq α] {P : List α → Prop} :
    (∀ a : Arrangement α, P (a.order l)) ↔ ∀ p, p.Perm l → P p := by
  constructor
  · intro h p hp
    have hchosen (l' : List α) : (if l' = l then p else l').Perm l' := by
      split
      · rename_i hl
        exact hl ▸ hp
      · exact .refl _
    simpa using h ⟨fun l' => if l' = l then p else l', hchosen⟩
  · exact fun h a => h _ (a.perm l)

end Arrangement

end ClusterOperator.Keyed
