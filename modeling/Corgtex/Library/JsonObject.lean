import Corgtex.Library.JsNumber
import Corgtex.Library.JsonTree
import Corgtex.Library.StringOrder

/-!
# Objects that `JSON.parse` makes

The language keeps the properties of an object in an order of its own: array indices by their
number, then the other keys as they were made. `properties` brings the members of a JSON value into
this order; of repeated keys the last value counts. A value whose members are `InOrder` is left as
it is, also when they were sorted by their keys before (`ownProperties_sortBy`).
-/

namespace Json

open JsArray JsString List

variable {ν α β : Type}

/-! ## The order of properties -/

/-- An array index: the decimal digits of a number below 2^32 - 1. -/
def isArrayIndex (key : JsString) : Bool :=
  key = JsNumber.decimal (JsNumber.ofDecimal key) && JsNumber.ofDecimal key < 4294967295

/-- `object[key] = value`. -/
def assign (members : List (JsString × α)) (member : JsString × α) : List (JsString × α) :=
  if member.1 ∈ members.map Prod.fst then
    members.map fun other => if other.1 = member.1 then member else other
  else members ++ [member]

/-- Array indices by their number. -/
def byIndex (a b : JsString × α) : Int := JsNumber.ofDecimal a.1 - JsNumber.ofDecimal b.1

/-- The properties of an object whose members were assigned one after the other. -/
def ownProperties (members : List (JsString × α)) : List (JsString × α) :=
  let assigned := members.foldl assign []
  sortBy byIndex (assigned.filter fun member => isArrayIndex member.1) ++
    assigned.filter fun member => !isArrayIndex member.1

mutual

/-- The value that `JSON.parse` makes: every object has its properties in order. -/
def properties : Json ν → Json ν
  | .array items => .array (itemProperties items)
  | .object members => .object (ownProperties (memberProperties members))
  | .null => .null
  | .bool value => .bool value
  | .number value => .number value
  | .string value => .string value

/-- The elements of an array. -/
def itemProperties : List (Json ν) → List (Json ν)
  | [] => []
  | item :: items => properties item :: itemProperties items

/-- The members of an object. -/
def memberProperties : List (JsString × Json ν) → List (JsString × Json ν)
  | [] => []
  | (key, value) :: members => (key, properties value) :: memberProperties members

end

/-- The order of properties that were made in the order of their keys. -/
def KeyBefore (a b : JsString) : Prop :=
  if isArrayIndex a then isArrayIndex b = true → JsNumber.ofDecimal a < JsNumber.ofDecimal b
  else isArrayIndex b = false ∧ threeWay a b < 0

/-! ## Properties in order -/

/-- Entries by their keys. -/
def byKey (a b : JsString × α) : Int := threeWay a.1 b.1

theorem comparator_byKey : Comparator (byKey (α := α)) := comparator_threeWay.on Prod.fst

theorem comparator_byIndex : Comparator (byIndex (α := α)) :=
  (Comparator.descending fun member : JsString × α => (JsNumber.ofDecimal member.1 : Int)).flip

theorem keyBefore_ne {a b : JsString} (h : KeyBefore a b) : a ≠ b := by
  rintro rfl
  unfold KeyBefore at h
  split at h
  · next ha => exact lt_irrefl _ (h ha)
  · have := threeWay_eq_zero.2 (rfl : a = a)
    omega

theorem foldl_assign {members : List (JsString × α)} (h : (members.map Prod.fst).Nodup)
    (before : List (JsString × α)) (hbefore : ∀ member ∈ members, member.1 ∉ before.map Prod.fst) :
    members.foldl assign before = before ++ members := by
  induction members generalizing before with
  | nil => simp
  | cons member members ih =>
    obtain ⟨hmember, hmembers⟩ := forall_mem_cons.1 hbefore
    rw [map_cons, nodup_cons] at h
    have hstep : assign before member = before ++ [member] := if_neg hmember
    rw [foldl_cons, hstep, ih h.2, append_assoc, singleton_append]
    intro other hother hmem
    rw [map_append, mem_append] at hmem
    rcases hmem with hmem | hmem
    · exact hmembers other hother hmem
    · have he : other.1 = member.1 := by simpa using hmem
      exact h.1 (he ▸ mem_map_of_mem hother)

/-- A list whose elements with a property come first. -/
theorem filter_append_filter_not {members : List α} {p : α → Bool}
    (h : members.Pairwise fun a b => p b = true → p a = true) :
    members.filter p ++ (members.filter fun a => !p a) = members := by
  induction h with
  | nil => rfl
  | @cons a members ha _ ih =>
    by_cases hp : p a = true
    · simp [hp, ih]
    · have hnone : members.filter p = [] :=
        filter_eq_nil_iff.2 fun b hb hpb => hp (ha b hb hpb)
      rw [hnone, nil_append] at ih
      simp [hp, hnone, ih]

/-- **Sorting by keys is undone** by the order of properties. -/
theorem ownProperties_sortBy {members : List (JsString × α)}
    (h : (members.map Prod.fst).Pairwise KeyBefore) :
    ownProperties (sortBy byKey members) = members := by
  have hpairs := pairwise_map.1 h
  have hnodup : (members.map Prod.fst).Nodup := h.imp fun hab => keyBefore_ne hab
  have hsorted : ((sortBy byKey members).map Prod.fst).Nodup :=
    (((sortBy_perm byKey members).map _).nodup_iff).2 hnodup
  have hassigned : (sortBy byKey members).foldl assign [] = sortBy byKey members :=
    foldl_assign hsorted [] (by simp)
  have hindices : sortBy byIndex ((sortBy byKey members).filter fun member =>
      isArrayIndex member.1) = members.filter fun member => isArrayIndex member.1 := by
    have hbefore : (members.filter fun member => isArrayIndex member.1).Pairwise
        fun a b => byIndex a b < 0 := by
      refine (pairwise_filter.2 (hpairs.imp fun hab ha hb => ?_))
      rw [KeyBefore, if_pos ha] at hab
      have := hab hb
      unfold byIndex
      omega
    have hperm := (sortBy_perm byKey members).filter fun member => isArrayIndex member.1
    refine sortBy_unique comparator_byIndex ?_ hbefore hperm
    refine (hperm.pairwise_iff fun {a b} hab hba => hab ?_).2 (hbefore.imp fun hab => hab.ne)
    unfold byIndex at *
    omega
  have hothers : ((sortBy byKey members).filter fun member => !isArrayIndex member.1) =
      members.filter fun member => !isArrayIndex member.1 := by
    have hbefore : (members.filter fun member => !isArrayIndex member.1).Pairwise
        fun a b => byKey a b < 0 := by
      refine (pairwise_filter.2 (hpairs.imp fun hab ha hb => ?_))
      rw [KeyBefore, if_neg (by simpa using ha)] at hab
      exact hab.2
    have hne : members.Pairwise fun a b => byKey a b ≠ 0 :=
      (pairwise_map.1 hnodup).imp fun hab he => hab (threeWay_eq_zero.1 he)
    have hkeys := (pairwise_lt_sortBy comparator_byKey hne).filter
      fun member => !isArrayIndex member.1
    exact eq_of_perm comparator_byKey hkeys hbefore ((sortBy_perm byKey members).filter _)
  have hsplit : members.filter (fun member => isArrayIndex member.1) ++
      members.filter (fun member => !isArrayIndex member.1) = members := by
    refine filter_append_filter_not (hpairs.imp fun {a b} hab hb => ?_)
    by_contra ha
    rw [KeyBefore, if_neg ha] at hab
    exact absurd hb (by simp [hab.1])
  rw [ownProperties, hassigned, hindices, hothers, hsplit]

mutual

/-- The members of every object are in the order of properties. -/
def InOrder : Json ν → Prop
  | .array items => ItemsInOrder items
  | .object members => (members.map Prod.fst).Pairwise KeyBefore ∧ MembersInOrder members
  | .null | .bool _ | .number _ | .string _ => True

/-- The elements of an array. -/
def ItemsInOrder : List (Json ν) → Prop
  | [] => True
  | item :: items => InOrder item ∧ ItemsInOrder items

/-- The values of the members of an object. -/
def MembersInOrder : List (JsString × Json ν) → Prop
  | [] => True
  | (_, value) :: members => InOrder value ∧ MembersInOrder members

end

theorem memberProperties_eq (members : List (JsString × Json ν)) :
    memberProperties members = members.map fun member => (member.1, properties member.2) := by
  induction members with
  | nil => rfl
  | cons member members ih => rw [memberProperties, ih, map_cons]

theorem mapMembers_eq {μ : Type} (f : ν → μ) (members : List (JsString × Json ν)) :
    mapMembers f members = members.map fun member => (member.1, mapNumber f member.2) := by
  induction members with
  | nil => rfl
  | cons member members ih => rw [mapMembers, ih, map_cons]

theorem mapItems_eq {μ : Type} (f : ν → μ) (items : List (Json ν)) :
    mapItems f items = items.map (mapNumber f) := by
  induction items with
  | nil => rfl
  | cons item items ih => rw [mapItems, ih, map_cons]

/-- A change of values leaves the order of keys as it is. -/
theorem sortBy_byKey_map (f : α → β) (members : List (JsString × α)) :
    sortBy byKey (members.map fun member => (member.1, f member.2)) =
      (sortBy byKey members).map fun member => (member.1, f member.2) :=
  (map_insertionSort (fun a b : JsString × α => byKey a b ≤ 0)
    (fun a b : JsString × β => byKey a b ≤ 0) (fun member => (member.1, f member.2)) members
    fun _ _ _ _ => Iff.rfl).symm

/-! ## Texts of arrays and objects -/

theorem stringifyItems_eq_join (print : ν → JsString) (items : List (Json ν)) :
    stringifyItems print items = join [comma] (items.map (stringify print)) ++ [closeBracket] := by
  induction items with
  | nil => rw [stringifyItems, map_nil, join, nil_append]
  | cons item items ih =>
    cases items with
    | nil => rw [stringifyItems, map_cons, map_nil, join]
    | cons item' items =>
      rw [stringifyItems, ih]
      simp [join]

theorem stringifyMembers_eq_join (print : ν → JsString) (members : List (JsString × Json ν)) :
    stringifyMembers print members =
      join [comma] (members.map fun member =>
        quote member.1 ++ colon :: stringify print member.2) ++ [closeBrace] := by
  induction members with
  | nil => rw [stringifyMembers, map_nil, join, nil_append]
  | cons member members ih =>
    cases members with
    | nil => simp [stringifyMembers, join]
    | cons member' members =>
      rw [stringifyMembers, ih]
      simp [join]

mutual

/-- Numbers may be turned into their digits first. -/
theorem stringify_mapNumber (print : ν → JsString) : ∀ tree : Json ν,
    stringify id (tree.mapNumber print) = stringify print tree
  | .null => by rw [mapNumber, stringify, stringify]
  | .bool _ => by rw [mapNumber, stringify, stringify]
  | .number _ => by rw [mapNumber, stringify, stringify, id]
  | .string _ => by rw [mapNumber, stringify, stringify]
  | .array items => by rw [mapNumber, stringify, stringify, stringifyItems_mapItems print items]
  | .object members => by
    rw [mapNumber, stringify, stringify, stringifyMembers_mapMembers print members]

theorem stringifyItems_mapItems (print : ν → JsString) : ∀ items : List (Json ν),
    stringifyItems id (mapItems print items) = stringifyItems print items
  | [] => by rw [mapItems, stringifyItems, stringifyItems]
  | [item] => by
    rw [mapItems, mapItems, stringifyItems, stringifyItems, stringify_mapNumber print item]
  | item :: item' :: items => by
    have hrest := stringifyItems_mapItems print (item' :: items)
    rw [mapItems] at hrest
    rw [mapItems, mapItems, stringifyItems, stringifyItems, stringify_mapNumber print item, hrest]

theorem stringifyMembers_mapMembers (print : ν → JsString) :
    ∀ members : List (JsString × Json ν),
      stringifyMembers id (mapMembers print members) = stringifyMembers print members
  | [] => by rw [mapMembers, stringifyMembers, stringifyMembers]
  | [(key, value)] => by
    rw [mapMembers, mapMembers, stringifyMembers, stringifyMembers, stringify_mapNumber print value]
  | (key, value) :: (key', value') :: members => by
    have hrest := stringifyMembers_mapMembers print ((key', value') :: members)
    rw [mapMembers] at hrest
    rw [mapMembers, mapMembers, stringifyMembers, stringifyMembers,
      stringify_mapNumber print value, hrest]

end

end Json
