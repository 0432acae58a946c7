import ClusterOperator.Json.MergePatch

/-! A document that several writers patch. Every field has an owner; a writer reads a version
of the document that may be an old one, changes fields of its own in its copy, and sends the
merge patch between the two copies. -/

namespace ClusterOperator.Json

variable {K W : Type} {F : K → Type}

abbrev Document (F : K → Type) := ∀ k, Option (F k)

structure Versions (F : K → Type) where
  current : Document F
  older : List (Document F) := []

/-- A read of the `read`-th last version, and a patch after it. -/
structure Write (F : K → Type) (owner : K → W) where
  writer : W
  read : ℕ
  modify : Document F → Document F
  own : ∀ copy k, owner k ≠ writer → modify copy k = copy k

namespace Write

variable {owner : K → W} (w : Write F owner) (h : Versions F)

def copy : Document F := (h.current :: h.older).getD w.read h.current

def modified : Document F := w.modify (w.copy h)

variable (M : ∀ k, MergePatch (F k))

def patch (k : K) : Option (M k).Patch := (M k).diff (w.copy h k) (w.modified h k)

def store : Versions F where
  current k := (M k).merge (w.patch h M k) (h.current k)
  older := h.current :: h.older

variable {w h M} {k : K}

lemma store_unchanged (hk : w.copy h k = w.modified h k) : (w.store h M).current k = h.current k := by
  change (M k).merge ((M k).diff (w.copy h k) (w.modified h k)) (h.current k) = h.current k
  rw [hk, MergePatch.merge_diff_self]

lemma store_of_ne_owner (hk : owner k ≠ w.writer) : (w.store h M).current k = h.current k :=
  store_unchanged (w.own _ k hk).symm

end Write

section Runs

variable {owner : K → W} (M : ∀ k, MergePatch (F k))

def runWrites (ws : List (Write F owner)) (h : Versions F) : Versions F := ws.foldl (fun h w => w.store h M) h

lemma runWrites_append (ws ws' : List (Write F owner)) (h : Versions F) :
    runWrites M (ws ++ ws') h = runWrites M ws' (runWrites M ws h) := List.foldl_append

def Silent (k : K) : List (Write F owner) → Versions F → Prop
  | [], _ => True
  | w :: ws, h => w.copy h k = w.modified h k ∧ Silent k ws (w.store h M)

variable {M}

lemma runWrites_silent {k : K} {ws : List (Write F owner)} {h : Versions F} (hs : Silent M k ws h) :
    (runWrites M ws h).current k = h.current k := by
  induction ws generalizing h with
  | nil => rfl
  | cons w ws ih => exact (ih hs.2).trans (Write.store_unchanged hs.1)

end Runs

end ClusterOperator.Json
