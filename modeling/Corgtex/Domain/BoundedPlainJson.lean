import Corgtex.Library.JsNumber
import Corgtex.Library.Json
import Mathlib.Tactic.Cases

/-!
# Bounded plain JSON

`finance-import-interpretation.ts`: `isBoundedPlainJson` walks an object graph
and estimates the length of its JSON text on the way. `isBoundedPlainJson_sound` says that the
estimate is never too small, and what else holds of a value that passes. The walk goes down one
level for each level of objects and at most 101 of them, on every graph.
-/

namespace Corgtex.Domain.BoundedPlainJson

open JsString Json List Utf8

/-! ## Object graphs -/

/-- A value; a number is finite, and `String` of it is `print` of it. -/
inductive Value (ν : Type)
  | null
  | bool (value : Bool)
  | number (value : ν)
  | string (value : JsString)
  | object (reference : Nat)
  /-- `undefined`, a function, a symbol, a bigint, `NaN` or an infinity. -/
  | other

/-- A property descriptor. The key of a symbol and the value of an accessor are missing. -/
structure Property (ν : Type) where
  key : Option JsString
  enumerable : Bool
  value : Option (Value ν)

/-- An object. The properties of an array are those besides `length`. -/
inductive Object (ν : Type)
  | array (length : Nat) (properties : List (Property ν))
  | plain (properties : List (Property ν))
  /-- A proxy, or an object with another prototype. -/
  | exotic

abbrev Heap (ν : Type) := Nat → Object ν

/-! ## The check -/

def MAX_INTERPRETATION_JSON_CHARS : Nat := 4500000

/-- The `state` of the walk. -/
structure State where
  nodes : Nat
  chars : Nat
  seen : List Nat

/-- `(state.chars += chars) <= MAX_INTERPRETATION_JSON_CHARS`. -/
def State.charge (state : State) (chars : Nat) : Option State :=
  if state.chars + chars ≤ MAX_INTERPRETATION_JSON_CHARS then
    some { state with chars := state.chars + chars }
  else none

/-- What a unit adds to the length of a string literal. -/
def unitChars (u : UInt16) : Nat := if u = 0x22 ∨ u = 0x5C then 2 else if u < 0x20 then 6 else 1

/-- The loop of `jsonStringChars` after the unit `previous`. -/
def jsonStringCharsFrom : Option UInt16 → JsString → Option Nat
  | _, [] => some 2
  | previous, u :: rest =>
    if u = 0 ∨ (isHigh u ∧ ¬ rest.head?.any isLow) ∨ (isLow u ∧ ¬ previous.any isHigh) then none
    else (jsonStringCharsFrom (some u) rest).map (· + unitChars u)

/-- `jsonStringChars` (line 20); `none` is `Infinity`. -/
def jsonStringChars (value : JsString) : Option Nat := jsonStringCharsFrom none value

section
variable {ν : Type} (heap : Heap ν) (print : ν → JsString)

/-- `isBoundedPlainJson` (line 29) with the state that it leaves where it is true. `levels` is `101
- depth`. -/
def walk : Nat → Value ν → State → Option State
  | 0, _, _ => none
  | levels + 1, value, state =>
    let state := { state with nodes := state.nodes + 1 }
    if 50000 < state.nodes ∨ MAX_INTERPRETATION_JSON_CHARS < state.chars then none
    else
      match value with
      | .null => state.charge 4
      | .string value => (jsonStringChars value).bind state.charge
      | .bool value => state.charge (if value then 4 else 5)
      | .number value => state.charge (print value).length
      | .other => none
      | .object reference =>
        if reference ∈ state.seen then none
        else
          let state := { state with seen := reference :: state.seen }
          match heap reference with
          | .array length properties =>
            if 50000 < length ∨ properties.length ≠ length then none
            else (state.charge (length + 2)).bind <| properties.zipIdx.foldlM fun state entry =>
              if entry.1.key = some (JsNumber.decimal entry.2) ∧ entry.1.enumerable then
                entry.1.value.bind fun value => walk levels value state
              else none
          | .plain properties =>
            if 50000 < properties.length then none
            else (state.charge 2).bind <| properties.foldlM fun state p =>
              if p.enumerable then do
                let key ← p.key
                let value ← p.value
                let state ← state.charge ((← jsonStringChars key) + 2)
                walk levels value state
              else none
          | .exotic => none

def isBoundedPlainJson (value : Value ν) : Bool := (walk heap print 101 value ⟨0, 0, []⟩).isSome

end

/-! ## Plain values -/

section
variable {ν : Type} (heap : Heap ν)

mutual

/-- The object graph of a plain value. -/
def Represents (value : Value ν) : Json ν → Prop
  | .null => value = .null
  | .bool b => value = .bool b
  | .number n => value = .number n
  | .string text => value = .string text
  | .array items => ∃ reference length properties, value = .object reference ∧
      heap reference = .array length properties ∧ RepresentsItems properties items
  | .object members => ∃ reference properties, value = .object reference ∧
      heap reference = .plain properties ∧ RepresentsMembers properties members

def RepresentsItems (properties : List (Property ν)) : List (Json ν) → Prop
  | [] => properties = []
  | item :: items => ∃ p rest value, properties = p :: rest ∧ p.value = some value ∧
      Represents value item ∧ RepresentsItems rest items

def RepresentsMembers (properties : List (Property ν)) : List (JsString × Json ν) → Prop
  | [] => properties = []
  | (key, member) :: members => ∃ p rest value, properties = p :: rest ∧ p.key = some key ∧
      p.value = some value ∧ Represents value member ∧ RepresentsMembers rest members

end

mutual

def nodesFrom (depth : Nat) : Json ν → List (Nat × Json ν)
  | .array items => (depth, .array items) :: nodesFromItems (depth + 1) items
  | .object members => (depth, .object members) :: nodesFromMembers (depth + 1) members
  | value => [(depth, value)]

def nodesFromItems (depth : Nat) : List (Json ν) → List (Nat × Json ν)
  | [] => []
  | item :: items => nodesFrom depth item ++ nodesFromItems depth items

def nodesFromMembers (depth : Nat) : List (JsString × Json ν) → List (Nat × Json ν)
  | [] => []
  | (_, member) :: members => nodesFrom depth member ++ nodesFromMembers depth members

end

/-- The strings and the keys of a node. -/
def texts : Json ν → List JsString
  | .string text => [text]
  | .object members => members.map Prod.fst
  | _ => []

end

/-! ## Strings -/

/-- A string without `NUL` and without a surrogate that stands alone. -/
def Clean (text : JsString) : Prop := 0 ∉ text ∧ isWellFormed text

variable {u : UInt16}

theorem length_escape_le (h : isHigh u = false ∧ isLow u = false) :
    (escape u).length ≤ unitChars u := by
  unfold escape
  split
  · next he => exact he ▸ by decide
  split
  · next he => exact he ▸ by decide
  split
  · next he => exact he ▸ by decide
  split
  · next he => exact he ▸ by decide
  split
  · next he => exact he ▸ by decide
  split
  · next he => rw [unitChars, if_pos he]; rfl
  · next he =>
    rw [unitChars, if_neg he, h.1, h.2]
    by_cases hu : u < 0x20 <;> simp [hu, unicodeEscape]

theorem not_isHigh_of_isLow (h : isLow u = true) : isHigh u = false := by
  simp [isHigh, isLow, UInt16.le_iff_toNat_le] at h ⊢
  omega

theorem unitChars_pos (u : UInt16) : 1 ≤ unitChars u := by
  unfold unitChars
  split
  · decide
  split <;> decide

variable {previous : Option UInt16} {chars : Nat}

theorem jsonStringCharsFrom_cons {rest : JsString}
    (h : jsonStringCharsFrom previous (u :: rest) = some chars) :
    u ≠ 0 ∧ (isHigh u = true → rest.head?.any isLow = true) ∧
      (isLow u = true → previous.any isHigh = true) ∧
      ∃ more, jsonStringCharsFrom (some u) rest = some more ∧ chars = more + unitChars u := by
  rw [jsonStringCharsFrom] at h
  split at h
  · cases h
  · next hok =>
    obtain ⟨more, hmore, rfl⟩ := Option.map_eq_some_iff.mp h
    simp only [not_or, not_and, not_not] at hok
    exact ⟨hok.1, hok.2.1, hok.2.2, more, hmore, rfl⟩

theorem jsonStringCharsFrom_sound {text : JsString}
    (h : jsonStringCharsFrom previous text = some chars) (hprevious : previous.any isHigh = false) :
    Clean text ∧ (escapes text).length + 2 ≤ chars := by
  induction text using escapes.induct generalizing previous chars with
  | case1 =>
    cases h
    exact ⟨⟨not_mem_nil, rfl⟩, le_rfl⟩
  | case2 u =>
    obtain ⟨hu, hhigh, hlow, _, hmore, rfl⟩ := jsonStringCharsFrom_cons h
    cases hmore
    have halone : isHigh u = false ∧ isLow u = false := by
      simpa [hprevious] using And.intro hhigh hlow
    have hlength := length_escape_le halone
    refine ⟨⟨by simpa using hu.symm, by simp [isWellFormed, halone]⟩, ?_⟩
    rw [escapes]
    omega
  | case3 u v rest hpair ih =>
    obtain ⟨hu, -, -, _, hnext, rfl⟩ := jsonStringCharsFrom_cons h
    obtain ⟨hv, -, -, more, hmore, rfl⟩ := jsonStringCharsFrom_cons hnext
    have hboth : isHigh u = true ∧ isLow v = true := by simpa using hpair
    obtain ⟨⟨hzero, hwell⟩, hlength⟩ := ih hmore (not_isHigh_of_isLow hboth.2)
    have hwell' : isWellFormed (u :: v :: rest) = true := by rw [isWellFormed, if_pos hpair, hwell]
    refine ⟨⟨by simpa using ⟨hu.symm, hv.symm, hzero⟩, hwell'⟩, ?_⟩
    have hu := unitChars_pos u
    have hv := unitChars_pos v
    rw [escapes, if_pos hpair, length_cons, length_cons]
    omega
  | case4 u v rest hpair ih =>
    obtain ⟨hu, hhigh, hlow, more, hmore, rfl⟩ := jsonStringCharsFrom_cons h
    have hnot : isHigh u = false := by
      by_contra hcon
      have hh : isHigh u = true := by simpa using hcon
      exact hpair (by simpa [hh] using hhigh hh)
    have halone : isHigh u = false ∧ isLow u = false := ⟨hnot, by simpa [hprevious] using hlow⟩
    obtain ⟨⟨hzero, hwell⟩, hlength⟩ := ih hmore hnot
    have hescape := length_escape_le halone
    refine ⟨⟨by simpa using ⟨hu.symm, by simpa using hzero⟩, ?_⟩, ?_⟩
    · rw [isWellFormed, if_neg hpair, hwell, halone.1, halone.2]
      rfl
    · rw [escapes, if_neg hpair, length_append]
      omega

theorem jsonStringChars_sound {text : JsString}
    (h : jsonStringChars text = some chars) : Clean text ∧ (quote text).length ≤ chars := by
  obtain ⟨hclean, hle⟩ := jsonStringCharsFrom_sound h rfl
  refine ⟨hclean, ?_⟩
  rw [quote, length_append, length_cons]
  exact hle

/-! ## The walk -/

section
variable {ν : Type} {heap : Heap ν} {print : ν → JsString} {levels depth : Nat}
  {state state' : State}

theorem length_stringifyItems_le (print : ν → JsString) (item : Json ν) (items : List (Json ν)) :
    (stringifyItems print (item :: items)).length ≤
      (stringify print item).length + 1 + (stringifyItems print items).length := by
  cases items with
  | nil => simp [stringifyItems]
  | cons => simp [stringifyItems]; omega

theorem length_stringifyMembers_le (print : ν → JsString) (key : JsString) (member : Json ν)
    (members : List (JsString × Json ν)) :
    (stringifyMembers print ((key, member) :: members)).length ≤ (quote key).length + 2 +
      (stringify print member).length + (stringifyMembers print members).length := by
  rcases members with _ | ⟨_, _⟩ <;> simp [stringifyMembers] <;> omega

/-- The bounds that a walk keeps. -/
structure State.Fits (state : State) : Prop where
  nodes : state.nodes ≤ 50000
  chars : state.chars ≤ MAX_INTERPRETATION_JSON_CHARS

/-- What a walk over `nodes` from one state to another shows, where the text has `length` units. -/
structure Walked (nodes : List (Nat × Json ν)) (length : Nat) (state state' : State) : Prop where
  nodes_eq : state'.nodes = state.nodes + nodes.length
  chars_le : state.chars + length ≤ state'.chars
  depth_le : ∀ node ∈ nodes, node.1 ≤ 100
  clean : ∀ node ∈ nodes, ∀ text ∈ texts node.2, Clean text

theorem State.charge_eq_some {chars : Nat} (h : state.charge chars = some state') :
    state'.nodes = state.nodes ∧ state'.chars = state.chars + chars ∧
      state'.chars ≤ MAX_INTERPRETATION_JSON_CHARS := by
  rw [State.charge] at h
  split at h
  · next hle =>
    cases h
    exact ⟨rfl, rfl, hle⟩
  · cases h

theorem walked_primitive {tree : Json ν} {chars length : Nat} (hdepth : depth ≤ 100)
    (hnode : state.nodes + 1 ≤ 50000) (hlength : length ≤ chars)
    (hclean : ∀ text ∈ texts tree, Clean text)
    (h : State.charge { state with nodes := state.nodes + 1 } chars = some state') :
    Walked [(depth, tree)] length state state' ∧ state'.Fits := by
  obtain ⟨hnodes, hchars, hle⟩ := State.charge_eq_some h
  simp only at hnodes hchars
  refine ⟨⟨by simpa using hnodes, by omega, ?_, ?_⟩, ⟨by omega, hle⟩⟩
  · simpa using hdepth
  · simpa using hclean

/-- What a walk at `depth` shows of every value. -/
def WalkSound (heap : Heap ν) (print : ν → JsString) (levels depth : Nat) : Prop :=
  ∀ value tree state state', Represents heap value tree →
    walk heap print levels value state = some state' →
      Walked (nodesFrom depth tree) (stringify print tree).length state state' ∧ state'.Fits

variable {properties : List (Property ν)}

/-- The loop over the elements; the commas and the closing bracket are charged before it. -/
theorem walk_items (ih : WalkSound heap print levels depth) {items : List (Json ν)} {start : Nat}
    (hrep : RepresentsItems heap properties items)
    (hfits : state.Fits)
    (h : (properties.zipIdx start).foldlM (fun state entry =>
      if entry.1.key = some (JsNumber.decimal entry.2) ∧ entry.1.enumerable then
        entry.1.value.bind fun value => walk heap print levels value state
      else none) state = some state') :
    Walked (nodesFromItems depth items)
      ((stringifyItems print items).length - (properties.length + 1)) state state' ∧
        state'.Fits := by
  induction items generalizing properties start state with
  | nil =>
    cases hrep
    cases h
    refine ⟨⟨rfl, ?_, ?_, ?_⟩, hfits⟩
    · simp [stringifyItems]
    · simp [nodesFromItems]
    · simp [nodesFromItems]
  | cons item items ihitems =>
    obtain ⟨p, rest, value, rfl, hvalue, hitem, hitems⟩ := hrep
    rw [zipIdx_cons, foldlM_cons] at h
    obtain ⟨middle, hhead, htail⟩ := Option.bind_eq_some_iff.mp h
    split at hhead
    · rw [hvalue] at hhead
      obtain ⟨⟨hn, hc, hd, ht⟩, hmiddle⟩ := ih value item state middle hitem hhead
      obtain ⟨⟨hn', hc', hd', ht'⟩, hend⟩ := ihitems hitems hmiddle htail
      have hlength := length_stringifyItems_le print item items
      refine ⟨⟨?_, ?_, ?_, ?_⟩, hend⟩
      · rw [nodesFromItems, length_append]
        omega
      · rw [length_cons]
        omega
      · rw [nodesFromItems]
        exact forall_mem_append.mpr ⟨hd, hd'⟩
      · rw [nodesFromItems]
        exact forall_mem_append.mpr ⟨ht, ht'⟩
    · cases hhead

/-- The loop over the members; the closing brace is charged before it. -/
theorem walk_members (ih : WalkSound heap print levels depth) {members : List (JsString × Json ν)}
    (hrep : RepresentsMembers heap properties members)
    (hfits : state.Fits)
    (h : properties.foldlM (fun state p =>
      if p.enumerable then do
        let key ← p.key
        let value ← p.value
        let state ← state.charge ((← jsonStringChars key) + 2)
        walk heap print levels value state
      else none) state = some state') :
    Walked (nodesFromMembers depth members) ((stringifyMembers print members).length - 1)
      state state' ∧ state'.Fits ∧ ∀ key ∈ members.map Prod.fst, Clean key := by
  induction members generalizing properties state with
  | nil =>
    cases hrep
    cases h
    refine ⟨⟨rfl, ?_, ?_, ?_⟩, hfits, by simp⟩
    · simp [stringifyMembers]
    · simp [nodesFromMembers]
    · simp [nodesFromMembers]
  | cons pair members ihmembers =>
    obtain ⟨key, member⟩ := pair
    obtain ⟨p, rest, value, rfl, hkey, hvalue, hmember, hmembers⟩ := hrep
    rw [foldlM_cons] at h
    obtain ⟨middle, hhead, htail⟩ := Option.bind_eq_some_iff.mp h
    split at hhead
    · simp only [hkey, hvalue, Option.bind_eq_bind, Option.bind_some] at hhead
      obtain ⟨chars, hchars, hhead⟩ := Option.bind_eq_some_iff.mp hhead
      obtain ⟨charged, hcharged, hhead⟩ := Option.bind_eq_some_iff.mp hhead
      obtain ⟨hclean, hquote⟩ := jsonStringChars_sound hchars
      obtain ⟨hnodes, hstate, -⟩ := State.charge_eq_some hcharged
      obtain ⟨⟨hn, hc, hd, ht⟩, hmiddle⟩ := ih value member charged middle hmember hhead
      obtain ⟨⟨hn', hc', hd', ht'⟩, hend, hkeys⟩ := ihmembers hmembers hmiddle htail
      have hlength := length_stringifyMembers_le print key member members
      refine ⟨⟨?_, ?_, ?_, ?_⟩, hend, ?_⟩
      · rw [nodesFromMembers, length_append]
        omega
      · omega
      · rw [nodesFromMembers]
        exact forall_mem_append.mpr ⟨hd, hd'⟩
      · rw [nodesFromMembers]
        exact forall_mem_append.mpr ⟨ht, ht'⟩
      · rw [map_cons]
        exact forall_mem_cons.mpr ⟨hclean, hkeys⟩
    · cases hhead

/-- **What a walk that succeeds has seen.** Each of its levels is one level of the value. -/
theorem walk_sound (levels : Nat) : ∀ depth, depth + levels = 101 →
    WalkSound heap print levels depth := by
  induction levels with
  | zero =>
    intro _ _ _ _ _ _ _ h
    cases h
  | succ levels ih =>
    intro depth hdepth value tree state state' hrep h
    have hbelow := ih (depth + 1) (by omega)
    have hle : depth ≤ 100 := by omega
    unfold walk at h
    dsimp only at h
    split at h
    · cases h
    next hin =>
    simp only [not_or, not_lt] at hin
    cases tree with
    | null =>
      cases hrep
      exact walked_primitive hle hin.1 (by rw [stringify]; decide) (by simp [texts]) h
    | bool b =>
      cases hrep
      exact walked_primitive hle hin.1 (by rw [stringify]; cases b <;> decide) (by simp [texts]) h
    | number n =>
      cases hrep
      exact walked_primitive hle hin.1 le_rfl (by simp [texts]) h
    | string text =>
      cases hrep
      obtain ⟨chars, hchars, h⟩ := Option.bind_eq_some_iff.mp h
      obtain ⟨hclean, hquote⟩ := jsonStringChars_sound hchars
      exact walked_primitive hle hin.1 hquote (by simpa [texts] using hclean) h
    | array items =>
      obtain ⟨reference, length, properties, rfl, hheap, hitems⟩ := hrep
      dsimp only at h
      split at h
      · cases h
      rw [hheap] at h
      dsimp only at h
      split at h
      · cases h
      next hlengths =>
      obtain ⟨charged, hcharged, h⟩ := Option.bind_eq_some_iff.mp h
      obtain ⟨hnodes, hchars, hmax⟩ := State.charge_eq_some hcharged
      obtain ⟨⟨hn, hc, hd, ht⟩, hfits⟩ :=
        walk_items hbelow hitems ⟨by rw [hnodes]; exact hin.1, hmax⟩ h
      dsimp only at hnodes hchars hlengths
      refine ⟨⟨?_, ?_, ?_, ?_⟩, hfits⟩
      · rw [nodesFrom, length_cons]
        omega
      · rw [stringify, length_cons]
        omega
      · rw [nodesFrom]
        exact forall_mem_cons.mpr ⟨hle, hd⟩
      · rw [nodesFrom]
        exact forall_mem_cons.mpr ⟨by simp [texts], ht⟩
    | object members =>
      obtain ⟨reference, properties, rfl, hheap, hmembers⟩ := hrep
      dsimp only at h
      split at h
      · cases h
      rw [hheap] at h
      dsimp only at h
      split at h
      · cases h
      obtain ⟨charged, hcharged, h⟩ := Option.bind_eq_some_iff.mp h
      obtain ⟨hnodes, hchars, hmax⟩ := State.charge_eq_some hcharged
      obtain ⟨⟨hn, hc, hd, ht⟩, hfits, hkeys⟩ :=
        walk_members hbelow hmembers ⟨by rw [hnodes]; exact hin.1, hmax⟩ h
      dsimp only at hnodes hchars
      refine ⟨⟨?_, ?_, ?_, ?_⟩, hfits⟩
      · rw [nodesFrom, length_cons]
        omega
      · rw [stringify, length_cons]
        omega
      · rw [nodesFrom]
        exact forall_mem_cons.mpr ⟨hle, hd⟩
      · rw [nodesFrom]
        exact forall_mem_cons.mpr ⟨hkeys, ht⟩

/-- **A value that passes the check.** Its JSON text fits, its nodes are few and not deep, and no
text in it has a `NUL` or a lone surrogate. -/
theorem isBoundedPlainJson_sound {value : Value ν} {tree : Json ν}
    (hrep : Represents heap value tree) (h : isBoundedPlainJson heap print value = true) :
    (stringify print tree).length ≤ 4500000 ∧ (nodesFrom 0 tree).length ≤ 50000 ∧
      ∀ node ∈ nodesFrom 0 tree, node.1 ≤ 100 ∧
        ∀ text ∈ texts node.2, 0 ∉ text ∧ isWellFormed text := by
  obtain ⟨state', hwalk⟩ := Option.isSome_iff_exists.mp h
  obtain ⟨⟨hnodes, hchars, hdepth, hclean⟩, hfits⟩ :=
    walk_sound 101 0 rfl value tree ⟨0, 0, []⟩ state' hrep hwalk
  refine ⟨?_, ?_, fun node hnode => ⟨hdepth node hnode, hclean node hnode⟩⟩
  · exact (Nat.le_add_left _ _).trans (hchars.trans hfits.chars)
  · rw [Nat.zero_add] at hnodes
    exact hnodes ▸ hfits.nodes

end

/-- The array `["a"]`. -/
def letters : Heap Nat := fun _ =>
  .array 1 [⟨some (JsNumber.decimal 0), true, some (.string (lit "a"))⟩]

theorem represents_letters : Represents letters (.object 0) (.array [.string (lit "a")]) :=
  ⟨0, 1, _, rfl, rfl, _, _, _, rfl, rfl, rfl, rfl⟩

theorem isBoundedPlainJson_sound_letters :
    (stringify JsNumber.decimal (.array [.string (lit "a")])).length ≤ 4500000 :=
  (isBoundedPlainJson_sound represents_letters (by decide)).1

end Corgtex.Domain.BoundedPlainJson
