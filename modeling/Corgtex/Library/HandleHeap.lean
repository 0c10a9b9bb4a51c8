import Mathlib.Data.List.Basic

/-!
# Heaps of immutable cells

A heap that only grows, with cells that never change: the newest cell is first, and the handle of a
cell is the number of older ones. Where cells refer to older cells only (`Backward`) a heap has no
cycles, and what its handles mean is computed by recursion on the heap (`interpret`):
`interpret_lookup` says that a cell means what `meaning` makes of the meanings of its references.
-/

namespace HandleHeap

variable {κ μ : Type*}

def lookup : List κ → Nat → Option κ
  | [], _ => none
  | cell :: older, handle => if handle = older.length then some cell else lookup older handle

/-- What a handle means, where `meaning` says what a cell means in the meanings of the handles it
refers to. A handle without a cell means `unknown`. -/
def interpret (meaning : (Nat → μ) → κ → μ) (unknown : μ) : List κ → Nat → μ
  | [], _ => unknown
  | cell :: older, handle =>
    if handle = older.length then meaning (interpret meaning unknown older) cell
    else interpret meaning unknown older handle

/-- Every cell refers to older cells. -/
def Backward (refs : κ → List Nat) (heap : List κ) : Prop :=
  ∀ handle cell, lookup heap handle = some cell → ∀ r ∈ refs cell, r < handle

variable {heap older : List κ} {cell cell' : κ} {handle : Nat} {refs : κ → List Nat}
  {meaning : (Nat → μ) → κ → μ} {unknown : μ}

/-! ## Cells -/

@[simp] theorem lookup_cons_length : lookup (cell :: older) older.length = some cell := by
  simp [lookup]

theorem lookup_cons_of_lt (h : handle < older.length) :
    lookup (cell :: older) handle = lookup older handle := by
  rw [lookup, if_neg (by omega)]

theorem lookup_lt (h : lookup heap handle = some cell) : handle < heap.length := by
  induction heap with
  | nil => simp [lookup] at h
  | cons newest older ih =>
    rw [lookup] at h
    split at h
    · simp
      omega
    · have := ih h
      simp
      omega

/-- A cell is found as before after another is allocated. -/
theorem lookup_cons (h : lookup older handle = some cell') :
    lookup (cell :: older) handle = some cell' := by
  rw [lookup_cons_of_lt (lookup_lt h), h]

/-- The cells of a heap are its newest one and the older ones. -/
theorem forall_lookup_cons {P : Nat → κ → Prop} :
    (∀ handle c, lookup (cell :: older) handle = some c → P handle c) ↔
      P older.length cell ∧ ∀ handle c, lookup older handle = some c → P handle c := by
  constructor
  · intro h
    exact ⟨h _ _ lookup_cons_length, fun handle c hlookup => h _ _ (lookup_cons hlookup)⟩
  · rintro ⟨hnewest, holder⟩ handle c hlookup
    rw [lookup] at hlookup
    split at hlookup
    · next hlast =>
      cases hlookup
      rwa [hlast]
    · exact holder _ _ hlookup

theorem backward_cons :
    Backward refs (cell :: older) ↔ (∀ r ∈ refs cell, r < older.length) ∧ Backward refs older :=
  forall_lookup_cons

/-! ## Meanings -/

theorem interpret_cons_of_lt (h : handle < older.length) :
    interpret meaning unknown (cell :: older) handle = interpret meaning unknown older handle := by
  rw [interpret, if_neg (by omega)]

/-- **A cell means what `meaning` makes of the meanings of its references**, in the whole heap as in
the cells that were there before it. -/
theorem interpret_lookup
    (hmeaning : ∀ cell f g, (∀ r ∈ refs cell, f r = g r) → meaning f cell = meaning g cell)
    (hheap : Backward refs heap) (h : lookup heap handle = some cell) :
    interpret meaning unknown heap handle = meaning (interpret meaning unknown heap) cell := by
  induction heap generalizing handle cell with
  | nil => simp [lookup] at h
  | cons newest older ih =>
    obtain ⟨hnewest, holder⟩ := backward_cons.1 hheap
    rw [lookup] at h
    split at h
    · next hlast =>
      cases h
      rw [interpret, if_pos hlast]
      refine hmeaning _ _ _ fun r hr => ?_
      rw [interpret_cons_of_lt (hnewest r hr)]
    · next hlast =>
      have hlt := lookup_lt h
      rw [interpret_cons_of_lt hlt, ih holder h]
      refine hmeaning _ _ _ fun r hr => ?_
      have := holder handle cell h r hr
      rw [interpret_cons_of_lt (by omega)]

end HandleHeap
