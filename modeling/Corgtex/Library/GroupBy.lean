import Mathlib.Data.List.Induction
import Mathlib.Data.List.Nodup
import Mathlib.Data.List.Perm.Basic

/-!
# Grouping into a `Map`

`for (const item of items) groups.set(key, [...(groups.get(key) ?? []), value])` gathers the values
of each key, in the order in which the keys first occur. `groupBy_eq` describes the result without
the loop, and `flatMap_groupBy_perm` says how far the order of the items matters.
-/

namespace JsMap

open List

variable {κ α β : Type*} [DecidableEq κ]

/-- `groups.set(key, [...(groups.get(key) ?? []), value])`. -/
def append (key : κ) (value : α) : List (κ × List α) → List (κ × List α)
  | [] => [(key, [value])]
  | (k, group) :: rest =>
    if k = key then (k, group ++ [value]) :: rest else (k, group) :: append key value rest

def groupBy (items : List (κ × α)) : List (κ × List α) :=
  items.foldl (fun groups item => append item.1 item.2 groups) []

def valuesOf (items : List (κ × α)) (key : κ) : List α :=
  (items.filter fun item => item.1 = key).map Prod.snd

variable {items items' : List (κ × α)} {keys : List κ} {key : κ} {value : α}

theorem valuesOf_eq_nil : valuesOf items key = [] ↔ key ∉ items.map Prod.fst := by
  simp only [valuesOf, map_eq_nil_iff, filter_eq_nil_iff, decide_eq_true_eq,
    mem_map, not_exists, not_and]

theorem valuesOf_concat_of_ne {k : κ} (h : k ≠ key) :
    valuesOf (items ++ [(key, value)]) k = valuesOf items k := by
  simp [valuesOf, h.symm]

theorem valuesOf_concat_self :
    valuesOf (items ++ [(key, value)]) key = valuesOf items key ++ [value] := by
  simp [valuesOf]

/-- One item: its value goes to the end of its group, which is a new last one for a new key. -/
theorem append_map_valuesOf (hnodup : keys.Nodup) (hnew : key ∉ keys → valuesOf items key = []) :
    append key value (keys.map fun k => (k, valuesOf items k)) =
      (if key ∈ keys then keys else keys ++ [key]).map
        fun k => (k, valuesOf (items ++ [(key, value)]) k) := by
  induction keys with
  | nil => simp [append, valuesOf_concat_self, hnew]
  | cons k keys ih =>
    obtain ⟨hfresh, hnodup⟩ := nodup_cons.1 hnodup
    rw [map_cons, append]
    by_cases h : k = key
    · subst h
      have hrest : keys.map (fun k' => (k', valuesOf (items ++ [(k, value)]) k')) =
          keys.map fun k' => (k', valuesOf items k') := by
        refine map_congr_left fun k' hk' => ?_
        rw [valuesOf_concat_of_ne (ne_of_mem_of_not_mem hk' hfresh)]
      rw [if_pos rfl, if_pos (.head _), map_cons, hrest, valuesOf_concat_self]
    · have hmem : key ∈ k :: keys ↔ key ∈ keys :=
        mem_cons.trans (or_iff_right fun he => h he.symm)
      rw [if_neg h, ih hnodup fun hkey => hnew (mt hmem.1 hkey)]
      simp only [hmem]
      split <;> simp [valuesOf_concat_of_ne h]

/-- **Grouping.** The groups are those of the keys that occur, each key once and each group with
the values of its key in their order. -/
theorem groupBy_eq (items : List (κ × α)) : ∃ keys : List κ, keys.Nodup ∧
    (∀ k, k ∈ keys ↔ k ∈ items.map Prod.fst) ∧
      groupBy items = keys.map fun k => (k, valuesOf items k) := by
  induction items using reverseRecOn with
  | nil => exact ⟨[], .nil, fun k => .rfl, rfl⟩
  | append_singleton items item ih =>
    obtain ⟨keys, hnodup, hkeys, hgroups⟩ := ih
    obtain ⟨key, value⟩ := item
    refine ⟨if key ∈ keys then keys else keys ++ [key], ?_, fun k => ?_, ?_⟩
    · split
      · exact hnodup
      · next hkey => simpa using hnodup.concat hkey
    · rw [map_append, mem_append, ← hkeys k]
      split
      · next hkey =>
        have : k = key → k ∈ keys := fun he => he.symm ▸ hkey
        simpa using this
      · simp
    · have hnew : key ∉ keys → valuesOf items key = [] := fun hkey =>
        valuesOf_eq_nil.2 (mt (hkeys key).2 hkey)
      rw [groupBy, foldl_append, ← groupBy, hgroups]
      exact append_map_valuesOf hnodup hnew

/-! ## What is read off the groups -/

variable {f g : κ → List α → List β}

/-- No item is lost and none is counted twice. -/
theorem flatMap_valuesOf_perm (hnodup : keys.Nodup) (hkeys : ∀ item ∈ items, item.1 ∈ keys) :
    (keys.flatMap (valuesOf items)).Perm (items.map Prod.snd) := by
  induction keys generalizing items with
  | nil =>
    obtain rfl : items = [] := eq_nil_iff_forall_not_mem.2 fun item h =>
      not_mem_nil (hkeys item h)
    rfl
  | cons key keys ih =>
    obtain ⟨hfresh, hnodup⟩ := nodup_cons.1 hnodup
    let others := items.filter fun item => ¬ item.1 = key
    have hothers : ∀ k ∈ keys, valuesOf others k = valuesOf items k := by
      intro k hk
      have hne : k ≠ key := fun he => hfresh (he ▸ hk)
      rw [valuesOf, valuesOf, filter_filter]
      congr 1
      refine filter_congr fun item _ => ?_
      by_cases h : item.1 = k <;> simp [h, hne]
    have hrest : (keys.flatMap (valuesOf others)).Perm (others.map Prod.snd) := by
      refine ih hnodup fun item h => ?_
      obtain ⟨h, hne⟩ := mem_filter.1 h
      exact (mem_cons.1 (hkeys item h)).resolve_left (by simpa using hne)
    rw [flatMap_cons, ← flatMap_congr hothers]
    refine (hrest.append_left _).trans ?_
    rw [valuesOf, ← map_append]
    have hsplit := (filter_append_perm (fun item => decide (item.1 = key)) items).map Prod.snd
    simpa [others] using hsplit

theorem flatMap_ite_eq (hnodup : keys.Nodup) (h : key ∈ keys) (l : List β) :
    (keys.flatMap fun k => if k = key then l else []) = l := by
  induction keys with
  | nil => cases h
  | cons k keys ih =>
    obtain ⟨hfresh, hnodup⟩ := nodup_cons.1 hnodup
    rw [flatMap_cons]
    by_cases hk : k = key
    · subst hk
      have hrest : ∀ k' ∈ keys, (if k' = k then l else []) = [] := fun k' hk' =>
        if_neg (ne_of_mem_of_not_mem hk' hfresh)
      simp [flatMap_eq_nil_iff.2 hrest]
    · rw [if_neg hk, nil_append]
      exact ih hnodup ((mem_cons.1 h).resolve_left fun he => hk he.symm)

/-- **Reading off the groups.** The results of two lists of items are permutations of each other
when they are so within each group. -/
theorem flatMap_groupBy_perm (h : items.Perm items')
    (hfg : ∀ k, (f k (valuesOf items k)).Perm (g k (valuesOf items' k))) :
    ((groupBy items).flatMap fun group => f group.1 group.2).Perm
      ((groupBy items').flatMap fun group => g group.1 group.2) := by
  obtain ⟨keys, hnodup, hkeys, hgroups⟩ := groupBy_eq items
  obtain ⟨keys', hnodup', hkeys', hgroups'⟩ := groupBy_eq items'
  have hperm : keys.Perm keys' := by
    refine (perm_ext_iff_of_nodup hnodup hnodup').2 fun k => ?_
    rw [hkeys, hkeys', (h.map Prod.fst).mem_iff]
  rw [hgroups, hgroups', flatMap_map, flatMap_map]
  exact (List.Perm.flatMap_left keys fun k _ => hfg k).trans (hperm.flatMap_right _)

end JsMap
