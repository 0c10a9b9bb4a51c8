import Mathlib.Data.List.Nodup

/-!
# Tables with a primary key

A list of rows no two of which have the same key, with the statements that a program runs against
it. The lemmas say what a statement does to the row under one key (`find?_updateMany`,
`find?_insert`, `mem_filter`), so that nothing above them looks at the list. `Hands` is what several
owners have taken from a table.
-/

/-- The rows of a table with primary key `key`. -/
structure KeyedTable (α : Type*) {κ : Type*} (key : α → κ) where
  rows : List α
  nodup : (rows.map key).Nodup

/-- Rows that change but never pass a test are not missed by a filter with that test. -/
theorem List.filter_map_eq {α : Type*} {rows : List α} {f : α → α} {p : α → Bool}
    (h : ∀ row ∈ rows, f row = row ∨ (p (f row) = false ∧ p row = false)) :
    (rows.map f).filter p = rows.filter p := by
  induction rows with
  | nil => rfl
  | cons row rows ih =>
    obtain ⟨hrow, hrows⟩ := forall_mem_cons.1 h
    rw [map_cons, filter_cons, filter_cons, ih hrows]
    rcases hrow with hsame | ⟨hnew, hold⟩
    · rw [hsame]
    · simp [hnew, hold]

/-- Rows that change neither a test nor, where they pass it, a projection. -/
theorem List.map_filter_map_eq {α β : Type*} {rows : List α} {f : α → α} {p : α → Bool} {g : α → β}
    (h : ∀ row ∈ rows, p (f row) = p row ∧ (p row = true → g (f row) = g row)) :
    ((rows.map f).filter p).map g = (rows.filter p).map g := by
  induction rows with
  | nil => rfl
  | cons row rows ih =>
    obtain ⟨⟨htest, hsame⟩, hrows⟩ := forall_mem_cons.1 h
    rw [map_cons, filter_cons, filter_cons, htest]
    split
    · next hpass => rw [map_cons, map_cons, ih hrows, hsame hpass]
    · exact ih hrows

namespace KeyedTable

open List

variable {α κ : Type*} {key : α → κ}

/-- The table without rows. -/
def empty : KeyedTable α key := ⟨[], .nil⟩

section
variable (table : KeyedTable α key)

/-- `update … where`: `data` replaces the rows that match and keeps their keys. -/
def updateMany (test : α → Bool) (data : α → α)
    (hkey : ∀ row, key (data row) = key row) : KeyedTable α key where
  rows := table.rows.map fun row => if test row then data row else row
  nodup := by
    rw [List.map_map]
    refine (List.map_congr_left fun row _ => ?_) ▸ table.nodup
    show _ = key (if test row then data row else row)
    split
    · exact (hkey row).symm
    · rfl

/-- `delete … where`, which keeps the rows that pass. -/
def filter (keeps : α → Bool) : KeyedTable α key :=
  ⟨table.rows.filter keeps, table.nodup.sublist (List.filter_sublist.map key)⟩

/-- `insert`, of a row whose key is new. -/
def insert (row : α) (hnew : key row ∉ table.rows.map key) : KeyedTable α key where
  rows := table.rows ++ [row]
  nodup := by
    rw [List.map_append, List.nodup_append]
    refine ⟨table.nodup, List.nodup_singleton _, fun a ha b hb he => hnew ?_⟩
    exact List.mem_singleton.1 hb ▸ he ▸ ha

end

section
variable {table : KeyedTable α key} {row : α}

theorem mem_filter {keeps : α → Bool} :
    row ∈ (table.filter keeps).rows ↔ row ∈ table.rows ∧ keeps row := List.mem_filter

end

section
variable [DecidableEq κ]

def find? (table : KeyedTable α key) (k : κ) : Option α :=
  table.rows.find? fun row => key row = k

variable {table : KeyedTable α key} {k : κ} {row : α}

theorem find?_eq_some : table.find? k = some row ↔ row ∈ table.rows ∧ key row = k := by
  constructor
  · intro h
    exact ⟨mem_of_find?_eq_some h, of_decide_eq_true (List.find?_some h :)⟩
  · rintro ⟨hrow, rfl⟩
    cases hfound : table.find? (key row) with
    | none => exact absurd (List.find?_eq_none.1 hfound row hrow) (by simp)
    | some other =>
      have hother := mem_of_find?_eq_some hfound
      have hkey : key other = key row := of_decide_eq_true (List.find?_some hfound :)
      rw [inj_on_of_nodup_map table.nodup hother hrow hkey]

theorem find?_key (hrow : row ∈ table.rows) : table.find? (key row) = some row :=
  find?_eq_some.2 ⟨hrow, rfl⟩

theorem find?_eq_none : table.find? k = none ↔ k ∉ table.rows.map key := by
  rw [Option.eq_none_iff_forall_not_mem, List.mem_map]
  exact ⟨fun h ⟨row, hrow⟩ => h row (find?_eq_some.2 hrow),
    fun h row hrow => h ⟨row, find?_eq_some.1 hrow⟩⟩

/-- The row under a key passes, or there is none. -/
theorem find?_filter {keeps : α → Bool} :
    (table.filter keeps).find? k = (table.find? k).filter keeps := by
  ext row
  rw [find?_eq_some, Option.filter_eq_some_iff, find?_eq_some, mem_filter]
  exact and_right_comm

variable {table' : KeyedTable α key}

theorem rows_perm (h : ∀ k, table.find? k = table'.find? k) : table.rows.Perm table'.rows := by
  refine (perm_ext_iff_of_nodup table.nodup.of_map table'.nodup.of_map).2 fun row => ?_
  have hrow := h (key row)
  constructor
  · intro hmem
    exact (find?_eq_some.1 (hrow ▸ find?_key hmem)).1
  · intro hmem
    exact (find?_eq_some.1 (hrow ▸ find?_key hmem)).1

theorem length_filter_key_le_one (table : KeyedTable α key) (k : κ) :
    (table.rows.filter fun row => key row = k).length ≤ 1 := by
  have hsublist : (table.rows.filter fun row => key row = k).Sublist table.rows :=
    filter_sublist
  have hnodup := table.nodup.sublist (hsublist.map key)
  have hreplicate : (table.rows.filter fun row => key row = k).map key =
      replicate (table.rows.filter fun row => key row = k).length k := by
    refine eq_replicate_iff.2 ⟨length_map .., fun a ha => ?_⟩
    obtain ⟨row, hrow, rfl⟩ := List.mem_map.1 ha
    exact of_decide_eq_true (List.mem_filter.1 hrow).2
  exact nodup_replicate.1 (hreplicate ▸ hnodup)

@[simp] theorem find?_empty : (empty : KeyedTable α key).find? k = none := rfl

variable {data : α → α}

@[simp] theorem find?_updateMany {test : α → Bool} (hkey : ∀ row, key (data row) = key row) :
    (table.updateMany test data hkey).find? k =
      (table.find? k).map fun row => if test row then data row else row := by
  have hsame : ∀ row, key (if test row then data row else row) = key row := by
    intro row
    split
    · exact hkey row
    · rfl
  show List.find? _ (List.map _ _) = _
  rw [List.find?_map]
  refine congrArg (Option.map _) (congrArg (List.find? · table.rows) (funext fun row => ?_))
  show decide (key _ = k) = decide (key row = k)
  rw [hsame row]

/-- `update … where key = k`. -/
def update (table : KeyedTable α key) (k : κ) (data : α → α)
    (hkey : ∀ row, key (data row) = key row) : KeyedTable α key :=
  table.updateMany (fun row => key row = k) data hkey

section
variable (hkey : ∀ row, key (data row) = key row)
include hkey

theorem find?_update_self : (table.update k data hkey).find? k = (table.find? k).map data := by
  rw [update, find?_updateMany]
  cases h : table.find? k with
  | none => rfl
  | some row => exact congrArg some (if_pos (decide_eq_true (find?_eq_some.1 h).2))

theorem find?_update_of_ne {k' : κ} (h : k' ≠ k) :
    (table.update k data hkey).find? k' = table.find? k' := by
  rw [update, find?_updateMany]
  cases hrow : table.find? k' with
  | none => rfl
  | some row =>
    have hne : key row ≠ k := (find?_eq_some.1 hrow).2 ▸ h
    exact congrArg some (if_neg (by simpa using hne))

theorem find?_update {k' : κ} : (table.update k data hkey).find? k' =
      if k' = k then (table.find? k).map data else table.find? k' := by
  split
  · next h => rw [h, find?_update_self]
  · next h => exact find?_update_of_ne hkey h

end

theorem find?_insert (hnew : key row ∉ table.rows.map key) {k : κ} :
    (table.insert row hnew).find? k =
      (table.find? k).or (if key row = k then some row else none) := by
  show List.find? _ (_ ++ [_]) = _
  rw [List.find?_append]
  congr 1
  by_cases h : key row = k <;> simp [h]

theorem find?_of_rows_append (hrows : table'.rows = table.rows ++ [row])
    (hnew : table.find? (key row) = none) {k : κ} :
    table'.find? k = if k = key row then some row else table.find? k := by
  have hfind : table'.find? k = (table.find? k).or (if key row = k then some row else none) := by
    show List.find? _ table'.rows = _
    rw [hrows, List.find?_append]
    congr 1
    by_cases h : key row = k <;> simp [h]
  rw [hfind]
  by_cases h : k = key row
  · subst h
    simp [hnew]
  · simp [h, Ne.symm h]

/-- `update …` of columns that may be part of the key: none if two rows had the same key then. -/
def rekey (table : KeyedTable α key) (data : α → α) : Option (KeyedTable α key) :=
  if h : ((table.rows.map data).map key).Nodup then some ⟨table.rows.map data, h⟩ else none

theorem rows_of_rekey (h : table.rekey data = some table') : table'.rows = table.rows.map data := by
  unfold rekey at h
  split at h
  · cases h
    rfl
  · cases h

/-- `upsert`: `data` changes the row under the key of `row`, which is inserted where there is
none. -/
def upsert (table : KeyedTable α key) (row : α) (data : α → α)
    (hkey : ∀ row, key (data row) = key row) : KeyedTable α key :=
  if h : key row ∈ table.rows.map key then table.update (key row) data hkey
  else table.insert row h

theorem find?_upsert (hkey : ∀ row, key (data row) = key row) :
    (table.upsert row data hkey).find? k =
      if k = key row then some (((table.find? k).map data).getD row) else table.find? k := by
  unfold upsert
  split
  · next hmem =>
    split
    · next hk =>
      subst hk
      rw [find?_update_self]
      cases hold : table.find? (key row) with
      | none => exact absurd hmem (find?_eq_none.1 hold)
      | some old => rfl
    · next hk => exact find?_update_of_ne hkey hk
  · next hnew =>
    rw [find?_insert]
    split
    · next hk =>
      subst hk
      rw [find?_eq_none.2 hnew, if_pos rfl]
      rfl
    · next hk => simp [Ne.symm hk]

/-- `map.set(key row, row)`, which keeps the place of a key that is there. -/
def set (table : KeyedTable α key) (row : α) : KeyedTable α key :=
  table.upsert row (fun old => if key old = key row then row else old) fun old => by
    split
    · next h => exact h.symm
    · rfl

theorem find?_set : (table.set row).find? k = if k = key row then some row else table.find? k := by
  rw [set, find?_upsert]
  split
  · next hk =>
    cases hold : table.find? k with
    | none => rfl
    | some old =>
      have hkey : key old = key row := (find?_eq_some.1 hold).2.trans hk
      simp [hkey]
  · rfl

/-- `table'` differs from `table` under `k` only, where it has `row`. -/
structure ChangedAt (table table' : KeyedTable α key) (k : κ) (row : Option α) : Prop where
  find_self : table'.find? k = row
  find_of_ne : ∀ k', k' ≠ k → table'.find? k' = table.find? k'

theorem ChangedAt.refl (table : KeyedTable α key) (k : κ) :
    ChangedAt table table k (table.find? k) := ⟨rfl, fun _ _ => rfl⟩

theorem changedAt_set (h : key row = k) : ChangedAt table (table.set row) k (some row) := by
  subst h
  exact ⟨find?_set.trans (if_pos rfl), fun _ hne => find?_set.trans (if_neg hne)⟩

theorem changedAt_update (hkey : ∀ row, key (data row) = key row) :
    ChangedAt table (table.update k data hkey) k ((table.find? k).map data) :=
  ⟨find?_update_self hkey, fun _ hne => find?_update_of_ne hkey hne⟩

theorem changedAt_update_of_find? (h : table.find? k = some row)
    (hkey : ∀ row, key (data row) = key row) :
    ChangedAt table (table.update k data hkey) k (some (data row)) := by
  have hchanged : ChangedAt table (table.update k data hkey) k _ := changedAt_update hkey
  rwa [h] at hchanged

theorem changedAt_upsert (hkey : ∀ row, key (data row) = key row) (h : key row = k) :
    ChangedAt table (table.upsert row data hkey) k
      (some (((table.find? k).map data).getD row)) := by
  subst h
  exact ⟨(find?_upsert hkey).trans (if_pos rfl),
    fun _ hne => (find?_upsert hkey).trans (if_neg hne)⟩

theorem changedAt_delete : ChangedAt table (table.filter fun row => key row ≠ k) k none := by
  refine ⟨?_, fun k' hne => ?_⟩
  · rw [find?_filter, Option.filter_eq_none_iff]
    intro row hrow
    simp [(find?_eq_some.1 hrow).2]
  · rw [find?_filter]
    cases hfound : table.find? k' with
    | none => rfl
    | some row => simp [(find?_eq_some.1 hfound).2, hne]

theorem find?_insert_of_eq_some {new : α} (hnew : key new ∉ table.rows.map key)
    (h : table.find? k = some row) : (table.insert new hnew).find? k = some row := by
  rw [find?_insert, h]
  rfl

end

end KeyedTable

/-! ## Hands -/

/-- For each owner a table of what it has in hand. -/
abbrev Hands (ω : Type*) {α κ : Type*} (key : α → κ) := ω → KeyedTable α key

namespace Hands

variable {ω α κ : Type*} [DecidableEq ω] {key : α → κ} (hands : Hands ω key) (owner : ω)

/-- The owner takes up `table`, in place of what it has. -/
def take (table : KeyedTable α key) : Hands ω key := Function.update hands owner table

variable [DecidableEq κ] (k : κ)

/-- The owner puts down the entry under a key. -/
def drop : Hands ω key :=
  Function.update hands owner ((hands owner).filter fun entry => key entry ≠ k)

def modify (data : α → α) (hkey : ∀ entry, key (data entry) = key entry) : Hands ω key :=
  Function.update hands owner ((hands owner).updateMany (fun entry => key entry = k) data hkey)

end Hands

namespace Hands

variable {ω α κ : Type*} [DecidableEq ω] {key : α → κ} {hands : Hands ω key} {owner other : ω}
  {entry : α}

theorem mem_take {table : KeyedTable α key} (h : entry ∈ (hands.take owner table other).rows) :
    other ≠ owner ∧ entry ∈ (hands other).rows ∨ other = owner ∧ entry ∈ table.rows := by
  rw [take, Function.update_apply] at h
  split at h
  · next hother => exact .inr ⟨hother, h⟩
  · next hother => exact .inl ⟨hother, h⟩

theorem take_of_ne {table : KeyedTable α key} (h : other ≠ owner) :
    hands.take owner table other = hands other := Function.update_of_ne h _ _

variable [DecidableEq κ] {k : κ}

theorem mem_drop (h : entry ∈ (hands.drop owner k other).rows) :
    entry ∈ (hands other).rows ∧ (other = owner → key entry ≠ k) := by
  rw [drop, Function.update_apply] at h
  split at h
  · next hother =>
    obtain ⟨hentry, hk⟩ := KeyedTable.mem_filter.1 h
    exact ⟨hother ▸ hentry, fun _ => of_decide_eq_true hk⟩
  · next hother => exact ⟨h, fun hcontra => absurd hcontra hother⟩

theorem mem_modify {hkey : ∀ entry, key (data entry) = key entry}
    (h : entry ∈ (hands.modify owner k data hkey other).rows) :
    (entry ∈ (hands other).rows ∧ (other = owner → key entry ≠ k)) ∨
      other = owner ∧ ∃ before ∈ (hands owner).rows, key before = k ∧ entry = data before := by
  rw [modify, Function.update_apply] at h
  split at h
  · next hother =>
    obtain ⟨before, hbefore, rfl⟩ := List.mem_map.1 h
    split
    · next hk => exact .inr ⟨hother, before, hbefore, of_decide_eq_true hk, rfl⟩
    · next hk => exact .inl ⟨hother ▸ hbefore, fun _ hk' => hk (decide_eq_true hk')⟩
  · next hother => exact .inl ⟨h, fun hcontra => absurd hcontra hother⟩

end Hands
