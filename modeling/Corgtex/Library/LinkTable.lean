import Corgtex.Library.KeyedTable
import Mathlib.Data.Prod.Basic

/-!
# Tables of links

A row of a link table links a thing to an owner, and no two rows link the same thing to the same
owner. What one owner has is moved to another in two steps: its duplicates are deleted, and the
rest is pointed at the new owner. `find?_moved` says what the new owner has then: its own link to a
thing where it had one, and else the link of the old owner.
-/

/-- How the rows of a table link things to owners. -/
structure Link (α κ ω : Type*) where
  thing : α → κ
  owner : α → ω
  setOwner : ω → α → α
  thing_setOwner : ∀ o row, thing (setOwner o row) = thing row
  owner_setOwner : ∀ o row, owner (setOwner o row) = o

namespace Link

variable {α κ ω : Type*}

/-- What is unique to a row. -/
def key (link : Link α κ ω) (row : α) : κ × ω := (link.thing row, link.owner row)

variable [DecidableEq ω] (link : Link α κ ω) (source target : ω)

/-- The row, pointed at `target` if `source` owns it. -/
def repoint (row : α) : α := if link.owner row = source then link.setOwner target row else row

variable {link source target} {row : α}

theorem repoint_of_ne (h : link.owner row ≠ source) : link.repoint source target row = row :=
  if_neg h

theorem repoint_of_eq (h : link.owner row = source) :
    link.repoint source target row = link.setOwner target row := if_pos h

@[simp] theorem thing_repoint : link.thing (link.repoint source target row) = link.thing row := by
  unfold repoint
  split
  · exact link.thing_setOwner target row
  · rfl

theorem owner_repoint_ne (hne : source ≠ target) :
    link.owner (link.repoint source target row) ≠ source := by
  unfold repoint
  split
  · rw [link.owner_setOwner]
    exact hne.symm
  · next h => exact h

end Link

/-- A table with at most one row for a thing and an owner. -/
abbrev LinkTable {α κ ω : Type*} (link : Link α κ ω) := KeyedTable α link.key

namespace LinkTable

variable {α κ ω : Type*} [DecidableEq ω] {link : Link α κ ω} {table table' : LinkTable link}
  {source target : ω} {keeps : α → Bool} {k : κ} {row : α}

def rowsOf (table : LinkTable link) (owner : ω) : List α :=
  table.rows.filter fun row => link.owner row = owner

theorem mem_rowsOf {owner : ω} :
    row ∈ table.rowsOf owner ↔ row ∈ table.rows ∧ link.owner row = owner := by
  simp [rowsOf]

variable [DecidableEq κ]

/-- **What the new owner has.** The deleted rows are links of `source` to things that `target` has
as well, and all the others are pointed at `target`. -/
theorem find?_moved (hne : source ≠ target)
    (hkeeps : ∀ row ∈ table.rows, keeps row = false →
      link.owner row = source ∧ (table.find? (link.thing row, target)).isSome)
    (hrows : table'.rows = (table.filter keeps).rows.map (link.repoint source target)) :
    table'.find? (k, target) =
      (table.find? (k, target)).or ((table.find? (k, source)).map (link.setOwner target)) := by
  have hkept : ∀ row ∈ table.rows, keeps row = true →
      link.repoint source target row ∈ table'.rows := by
    intro row hrow hk
    rw [hrows]
    exact List.mem_map_of_mem (KeyedTable.mem_filter.2 ⟨hrow, hk⟩)
  cases htarget : table.find? (k, target) with
  | some own =>
    obtain ⟨hown, hkey⟩ := KeyedTable.find?_eq_some.1 htarget
    have howner : link.owner own ≠ source := (congrArg Prod.snd hkey).trans_ne hne.symm
    have hmem := hkept own hown (by
      by_contra hdrop
      exact howner (hkeeps own hown (Bool.not_eq_true _ ▸ hdrop)).1)
    rw [Link.repoint_of_ne howner] at hmem
    exact KeyedTable.find?_eq_some.2 ⟨hmem, hkey⟩
  | none =>
    cases hsource : table.find? (k, source) with
    | some other =>
      obtain ⟨hother, hkey⟩ := KeyedTable.find?_eq_some.1 hsource
      have hthing : link.thing other = k := congrArg Prod.fst hkey
      have hmem := hkept other hother (by
        by_contra hdrop
        have hhas := (hkeeps other hother (Bool.not_eq_true _ ▸ hdrop)).2
        rw [hthing, htarget] at hhas
        cases hhas)
      rw [Link.repoint_of_eq (congrArg Prod.snd hkey)] at hmem
      refine KeyedTable.find?_eq_some.2 ⟨hmem, ?_⟩
      rw [Link.key, link.thing_setOwner, link.owner_setOwner, hthing]
    | none =>
      refine KeyedTable.find?_eq_none.2 fun hmem => ?_
      obtain ⟨moved, hmoved, hkey⟩ := List.mem_map.1 hmem
      rw [hrows] at hmoved
      obtain ⟨row, hrow, rfl⟩ := List.mem_map.1 hmoved
      have hold := (KeyedTable.mem_filter.1 hrow).1
      have hthing : link.thing row = k := Link.thing_repoint.symm.trans (congrArg Prod.fst hkey)
      by_cases howner : link.owner row = source
      · refine KeyedTable.find?_eq_none.1 hsource (List.mem_map.2 ⟨row, hold, ?_⟩)
        rw [Link.key, hthing, howner]
      · rw [Link.repoint_of_ne howner] at hkey
        exact KeyedTable.find?_eq_none.1 htarget (List.mem_map.2 ⟨row, hold, hkey⟩)

theorem length_links_le_one (table : LinkTable link) (k : κ) (owner : ω) :
    (table.rows.filter fun row => link.thing row = k ∧ link.owner row = owner).length ≤ 1 := by
  have hkey := table.length_filter_key_le_one (k, owner)
  simpa only [Link.key, Prod.mk.injEq] using hkey

end LinkTable
