import Corgtex.Library.KeyedTable
import Corgtex.Library.StringOrder

/-!
# Unions of keyed entries

Entries under string keys are `Consistent` when no key has two of them. A list of entries has a
canonical form, sorted by key and without repetition (`canonical`): two lists with the same elements
have the same one, and it is strictly increasing when the entries are consistent. Adding consistent
entries to a map one by one leaves it with their union (`mem_setAll`).
-/

namespace KeyedUnion

open JsArray JsString

variable {α κ : Type*}

/-! ## Consistency -/

section
variable (key : α → κ)

/-- No key has two entries. -/
def Consistent (entries : List α) : Prop :=
  ∀ a ∈ entries, ∀ b ∈ entries, key a = key b → a = b

instance [DecidableEq α] [DecidableEq κ] (entries : List α) : Decidable (Consistent key entries) :=
  inferInstanceAs (Decidable (∀ a ∈ entries, ∀ b ∈ entries, key a = key b → a = b))

variable {key} {entries entries' : List α} {entry : α}

theorem Consistent.subset (h : Consistent key entries') (hsub : ∀ a ∈ entries, a ∈ entries') :
    Consistent key entries :=
  fun a ha b hb => h a (hsub a ha) b (hsub b hb)

theorem consistent_congr (h : ∀ a, a ∈ entries ↔ a ∈ entries') :
    Consistent key entries ↔ Consistent key entries' :=
  ⟨fun hc => hc.subset fun a => (h a).2, fun hc => hc.subset fun a => (h a).1⟩

theorem consistent_rows (table : KeyedTable α key) : Consistent key table.rows :=
  fun _ ha _ hb hkey => List.inj_on_of_nodup_map table.nodup ha hb hkey

end

/-! ## A map of entries -/

section
variable [DecidableEq κ] {key : α → κ} {table : KeyedTable α key} {entries : List α} {entry : α}

/-- A map keeps its entries when one that is consistent with them is added. -/
theorem mem_set (h : Consistent key (entry :: table.rows)) {a : α} :
    a ∈ (table.set entry).rows ↔ a = entry ∨ a ∈ table.rows := by
  have hfind : a ∈ (table.set entry).rows ↔ (table.set entry).find? (key a) = some a := by
    rw [KeyedTable.find?_eq_some]
    exact (and_iff_left rfl).symm
  rw [hfind, KeyedTable.find?_set]
  split
  · next hkey =>
    rw [Option.some_inj]
    constructor
    · exact fun he => .inl he.symm
    · rintro (rfl | ha)
      · rfl
      · exact h entry (.head _) a (.tail _ ha) hkey.symm
  · next hkey =>
    rw [KeyedTable.find?_eq_some]
    constructor
    · exact fun ha => .inr ha.1
    · rintro (rfl | ha)
      · exact absurd rfl hkey
      · exact ⟨ha, rfl⟩

/-- The map after all the entries have been added. -/
def setAll (table : KeyedTable α key) (entries : List α) : KeyedTable α key :=
  entries.foldl KeyedTable.set table

/-- Consistent entries that are added to a map are there with those it had. -/
theorem mem_setAll (h : Consistent key (table.rows ++ entries)) {a : α} :
    a ∈ (setAll table entries).rows ↔ a ∈ table.rows ∨ a ∈ entries := by
  induction entries generalizing table with
  | nil => simp [setAll]
  | cons entry entries ih =>
    have hset : ∀ b, b ∈ (table.set entry).rows ↔ b = entry ∨ b ∈ table.rows := by
      intro b
      refine mem_set (h.subset fun c hc => ?_)
      rcases List.mem_cons.1 hc with rfl | hc
      · simp
      · simp [hc]
    have hrest : Consistent key ((table.set entry).rows ++ entries) := by
      refine h.subset fun b hb => ?_
      rcases List.mem_append.1 hb with hb | hb
      · rcases (hset b).1 hb with rfl | hb
        · simp
        · simp [hb]
      · simp [hb]
    have hfold := ih hrest
    rw [setAll, List.foldl_cons]
    rw [setAll] at hfold
    rw [hfold, hset]
    simp only [List.mem_cons]
    tauto

end

/-! ## The canonical list -/

section
variable {key : α → JsString} {entries entries' : List α}

/-- The comparison of two entries by their keys. -/
def byKey (key : α → JsString) (left right : α) : Int := threeWay (key left) (key right)

theorem comparator_byKey (key : α → JsString) : Comparator (byKey key) := comparator_threeWay.on key

theorem byKey_eq_zero {a b : α} : byKey key a b = 0 ↔ key a = key b := threeWay_eq_zero

variable [DecidableEq α]

/-- The entries in the order of their keys, each once. -/
def canonical (key : α → JsString) (entries : List α) : List α :=
  sortBy (byKey key) (distinct entries)

@[simp] theorem mem_canonical {a : α} : a ∈ canonical key entries ↔ a ∈ entries := by
  simp [canonical]

section
variable (h : Consistent key entries)
include h

theorem pairwise_distinct : (distinct entries).Pairwise fun a b => byKey key a b ≠ 0 := by
  refine (nodup_distinct entries).imp_of_mem fun {a b} ha hb hne hzero => hne ?_
  exact h a (mem_distinct.1 ha) b (mem_distinct.1 hb) (byKey_eq_zero.1 hzero)

/-- Consistent entries have strictly increasing keys in the canonical list. -/
theorem pairwise_canonical : (canonical key entries).Pairwise fun a b => byKey key a b < 0 :=
  pairwise_lt_sortBy (comparator_byKey key) (pairwise_distinct h)

/-- A strictly increasing list is the canonical list of its elements. -/
theorem canonical_eq (hsorted : entries'.Pairwise fun a b => byKey key a b < 0)
    (hmem : ∀ a, a ∈ entries' ↔ a ∈ entries) : canonical key entries = entries' := by
  have hnodup : entries'.Nodup := hsorted.imp fun {a b} hlt he => by
    rw [he, (comparator_byKey key).self] at hlt
    exact absurd hlt (by decide)
  refine sortBy_unique (comparator_byKey key) (pairwise_distinct h) hsorted ?_
  refine (List.perm_ext_iff_of_nodup (nodup_distinct entries) hnodup).2 fun a => ?_
  rw [mem_distinct, hmem]

end

/-- The rows of a map, sorted by key, are the canonical list of what the map holds. -/
theorem sortBy_rows (table : KeyedTable α key) (hmem : ∀ a, a ∈ table.rows ↔ a ∈ entries) :
    sortBy (byKey key) table.rows = canonical key entries := by
  have hrows : table.rows.Pairwise fun a b => byKey key a b ≠ 0 :=
    (List.pairwise_map.1 table.nodup).imp fun hne hzero => hne (byKey_eq_zero.1 hzero)
  have hconsistent : Consistent key entries :=
    (consistent_congr hmem).1 (consistent_rows table)
  refine (canonical_eq hconsistent (pairwise_lt_sortBy (comparator_byKey key) hrows) ?_).symm
  intro a
  rw [mem_sortBy, hmem]

theorem canonical_congr (h : Consistent key entries) (hmem : ∀ a, a ∈ entries ↔ a ∈ entries') :
    canonical key entries = canonical key entries' := by
  have h' := (consistent_congr hmem).1 h
  refine canonical_eq h (pairwise_canonical h') fun a => ?_
  rw [mem_canonical, hmem]

end

end KeyedUnion
