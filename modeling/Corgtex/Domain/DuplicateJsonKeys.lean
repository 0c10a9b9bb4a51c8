import Corgtex.Library.JsonTree

/-!
# Repeated keys of an inventory

`detectDuplicateJsonKeys` (`exact-target-inventory-evaluator.ts:214`) looks for
repeated keys in the text of an inventory before it is parsed, since of two members with one key
`JSON.parse` drops the first. It is a scanner and no parser: a stack holds the keys of the objects
that are open, and one flag says whether the next string may be a key.
`detectDuplicateJsonKeys_iff` says that on JSON texts this is enough.
-/

namespace Corgtex.Domain.ExactTargetInventory

open JsString Json List
open JsonGrammar (isWhitespace Ws Number)

/-! ## The scanner -/

/-- The inside of the string that has been opened, and the text after its closing quotation mark
(line 220). -/
def closeString : Bool → JsString → Option (JsString × JsString)
  | _, [] => none
  | true, u :: rest => (closeString false rest).map fun (inside, tail) => (u :: inside, tail)
  | false, u :: rest =>
    if u = quotationMark then some ([], rest)
    else (closeString (u = backslash) rest).map fun (inside, tail) => (u :: inside, tail)

theorem length_of_closeString {escaped : Bool} {text inside tail : JsString}
    (h : closeString escaped text = some (inside, tail)) : tail.length < text.length := by
  induction text generalizing escaped inside with
  | nil => cases escaped <;> cases h
  | cons u rest ih =>
    have hlonger : ∀ {escaped inside}, closeString escaped rest = some (inside, tail) →
        tail.length < (u :: rest).length := fun h => (ih h).trans (Nat.lt_succ_self _)
    cases escaped with
    | true =>
      obtain ⟨result, hresult, he⟩ := Option.map_eq_some_iff.1 h
      cases he
      exact hlonger hresult
    | false =>
      rw [closeString] at h
      split at h
      · cases h
        exact Nat.lt_succ_self _
      · obtain ⟨result, hresult, he⟩ := Option.map_eq_some_iff.1 h
        cases he
        exact hlonger hresult

/-- `JSON.parse(text.slice(index, end + 1))`, on the inside of a string. -/
def parseString (inside : JsString) : Option JsString :=
  match readQuoted (inside ++ [quotationMark]) with
  | some (key, []) => some key
  | _ => none

/-- `text.slice(end + 1).match(/^\s*:/)` -/
def isFollowedByColon (tail : JsString) : Bool := (tail.dropWhile isSpace).head? = some colon

/-- The loop over the text; the innermost object or array is the first of the stack, and an array
has no keys. -/
def scan (stack : List (Option (List JsString))) (currentKey : Bool) : JsString → Bool
  | [] => false
  | u :: rest =>
    if u = quotationMark then
      match _hclose : closeString false rest with
      | none => false
      | some (inside, tail) =>
        match stack with
        | some keys :: stack' =>
          if isFollowedByColon tail && currentKey then
            match parseString inside with
            | none => false
            | some key =>
              if key ∈ keys then true else scan (some (key :: keys) :: stack') currentKey tail
          else scan stack currentKey tail
        | _ => scan stack currentKey tail
    else if u = openBrace then scan (some [] :: stack) true rest
    else if u = openBracket then scan (none :: stack) false rest
    else if u = closeBrace then scan stack.tail false rest
    else if u = closeBracket then scan stack.tail false rest
    else if u = comma then scan stack (stack.head?.any Option.isSome) rest
    else scan stack currentKey rest
termination_by text => text.length
decreasing_by
  all_goals first
    | exact Nat.lt_succ_self _
    | exact (length_of_closeString _hclose).trans (Nat.lt_succ_self _)

/-- `detectDuplicateJsonKeys` (line 214). -/
def detectDuplicateJsonKeys (text : JsString) : Bool := scan [] true text

/-! ## Repeated keys of a value -/

section
variable {ν : Type}

mutual

/-- The objects of a value: itself and those inside it. -/
def objects : Json ν → List (List (JsString × Json ν))
  | .array items => objectsOfItems items
  | .object members => members :: objectsOfMembers members
  | .null | .bool _ | .number _ | .string _ => []

/-- The objects of the elements of an array. -/
def objectsOfItems : List (Json ν) → List (List (JsString × Json ν))
  | [] => []
  | item :: items => objects item ++ objectsOfItems items

def objectsOfMembers : List (JsString × Json ν) → List (List (JsString × Json ν))
  | [] => []
  | (_, value) :: members => objects value ++ objectsOfMembers members

end

/-- Some object of a value has two members with one key. -/
def HasRepeatedKey (value : Json ν) : Prop :=
  ∃ members ∈ objects value, ¬ (members.map Prod.fst).Nodup

mutual

/-- What the scanner finds in a value. -/
def repeats : Json ν → Bool
  | .array items => repeatsItems items
  | .object members => repeatsMembers [] members
  | .null | .bool _ | .number _ | .string _ => false

/-- What it finds in the elements of an array. -/
def repeatsItems : List (Json ν) → Bool
  | [] => false
  | item :: items => repeats item || repeatsItems items

/-- What it finds in members that come after others with some keys. -/
def repeatsMembers (keys : List JsString) : List (JsString × Json ν) → Bool
  | [] => false
  | (key, value) :: members =>
    key ∈ keys || repeats value || repeatsMembers (key :: keys) members

end

mutual

theorem repeats_iff : ∀ value : Json ν, repeats value = true ↔ HasRepeatedKey value
  | .null | .bool _ | .number _ | .string _ => by simp [repeats, HasRepeatedKey, objects]
  | .array items => by
    rw [repeats, repeatsItems_iff items, HasRepeatedKey, objects]
  | .object members => by
    rw [repeats, repeatsMembers_iff members [], HasRepeatedKey, objects, exists_mem_cons_iff]
    simp

theorem repeatsItems_iff : ∀ items : List (Json ν), repeatsItems items = true ↔
    ∃ members ∈ objectsOfItems items, ¬ (members.map Prod.fst).Nodup
  | [] => by simp [repeatsItems, objectsOfItems]
  | item :: items => by
    rw [repeatsItems, objectsOfItems, Bool.or_eq_true, repeats_iff item, repeatsItems_iff items,
      HasRepeatedKey]
    simp only [mem_append, or_and_right, exists_or]

theorem repeatsMembers_iff : ∀ (members : List (JsString × Json ν)) (keys : List JsString),
    repeatsMembers keys members = true ↔
      (∃ key ∈ members.map Prod.fst, key ∈ keys) ∨ ¬ (members.map Prod.fst).Nodup ∨
        ∃ inner ∈ objectsOfMembers members, ¬ (inner.map Prod.fst).Nodup
  | [], keys => by simp [repeatsMembers, objectsOfMembers]
  | (key, value) :: members, keys => by
    rw [repeatsMembers, objectsOfMembers, Bool.or_eq_true, Bool.or_eq_true, repeats_iff value,
      repeatsMembers_iff members (key :: keys), HasRepeatedKey]
    simp only [mem_append, or_and_right, exists_or, map_cons, nodup_cons,
      not_and_or, not_not, mem_cons, decide_eq_true_eq, and_or_left, exists_eq_left,
      exists_eq_right]
    exact iff_of_eq (by ac_rfl)

end

end

/-! ## Steps of the scanner -/

section
variable {stack : List (Option (List JsString))} {currentKey : Bool} {text rest w : JsString}

/-- What the scanner passes over. -/
def isPlain (u : UInt16) : Bool :=
  u != quotationMark && u != openBrace && u != openBracket && u != closeBrace &&
    u != closeBracket && u != comma

theorem scan_plain (hw : ∀ u ∈ w, isPlain u) :
    scan stack currentKey (w ++ rest) = scan stack currentKey rest := by
  induction w with
  | nil => rfl
  | cons u w ih =>
    obtain ⟨hu, hw⟩ := forall_mem_cons.1 hw
    simp only [isPlain, Bool.and_eq_true, bne_iff_ne] at hu
    obtain ⟨⟨⟨⟨⟨hquote, hbrace⟩, hbracket⟩, hbrace'⟩, hbracket'⟩, hcomma⟩ := hu
    rw [cons_append, scan, if_neg hquote, if_neg hbrace, if_neg hbracket, if_neg hbrace',
      if_neg hbracket', if_neg hcomma, ih hw]

variable {u : UInt16}

theorem isPlain_of_isWhitespace (h : isWhitespace u) : isPlain u := by
  simp only [isWhitespace, Bool.or_eq_true, decide_eq_true_eq] at h
  rcases h with ((rfl | rfl) | rfl) | rfl <;> decide

theorem scan_ws (hw : Ws w) : scan stack currentKey (w ++ rest) = scan stack currentKey rest :=
  scan_plain fun u hu => isPlain_of_isWhitespace (hw u hu)

theorem isPlain_of_isNumberUnit (h : isNumberUnit u) : isPlain u := by
  simp only [isPlain, Bool.and_eq_true, bne_iff_ne]
  refine ⟨⟨⟨⟨⟨?_, ?_⟩, ?_⟩, ?_⟩, ?_⟩, ?_⟩
  all_goals
    rintro rfl
    exact absurd h (by decide)

theorem scan_openBrace :
    scan stack currentKey (openBrace :: rest) = scan (some [] :: stack) true rest := by
  rw [scan, if_neg (by decide), if_pos rfl]

theorem scan_openBracket :
    scan stack currentKey (openBracket :: rest) = scan (none :: stack) false rest := by
  rw [scan, if_neg (by decide), if_neg (by decide), if_pos rfl]

variable {top : Option (List JsString)}

theorem scan_closeBrace :
    scan (top :: stack) currentKey (closeBrace :: rest) = scan stack false rest := by
  rw [scan, if_neg (by decide), if_neg (by decide), if_neg (by decide), if_pos rfl]
  rfl

theorem scan_closeBracket :
    scan (top :: stack) currentKey (closeBracket :: rest) = scan stack false rest := by
  rw [scan, if_neg (by decide), if_neg (by decide), if_neg (by decide), if_neg (by decide),
    if_pos rfl]
  rfl

theorem scan_comma :
    scan (top :: stack) currentKey (comma :: rest) = scan (top :: stack) top.isSome rest := by
  rw [scan, if_neg (by decide), if_neg (by decide), if_neg (by decide), if_neg (by decide),
    if_neg (by decide), if_pos rfl]
  rfl

theorem scan_colon : scan stack currentKey (colon :: rest) = scan stack currentKey rest :=
  scan_plain (w := [colon]) (forall_mem_singleton.2 (by decide))

/-! ## Strings -/

theorem closeString_plain (hquote : u ≠ quotationMark) (hslash : u ≠ backslash) :
    closeString false (u :: rest) =
      (closeString false rest).map fun (inside, tail) => (u :: inside, tail) := by
  rw [closeString, if_neg hquote, decide_eq_false hslash]

theorem closeString_backslash :
    closeString false (backslash :: u :: rest) =
      (closeString false rest).map fun (inside, tail) => (backslash :: u :: inside, tail) := by
  rw [closeString, if_neg (by decide), decide_eq_true rfl, closeString, Option.map_map]
  rfl

theorem isHexDigit_ne (h : isHexDigit u) : u ≠ quotationMark ∧ u ≠ backslash := by
  constructor
  · rintro rfl
    exact absurd h (by decide)
  · rintro rfl
    exact absurd h (by decide)

/-- The scanner and the grammar agree on where a string ends. -/
theorem closeString_of_characters {value : JsString} (h : Characters value text) :
    ∃ inside, text = inside ++ [quotationMark] ∧
      ∀ rest, closeString false (text ++ rest) = some (inside, rest) := by
  induction h with
  | close =>
    refine ⟨[], rfl, fun rest => ?_⟩
    rw [singleton_append, closeString, if_pos rfl]
  | @unescaped u value text hu _ ih =>
    obtain ⟨inside, rfl, hread⟩ := ih
    simp only [JsonGrammar.isUnescaped, Bool.and_eq_true, bne_iff_ne] at hu
    refine ⟨u :: inside, rfl, fun rest => ?_⟩
    rw [cons_append, closeString_plain hu.1.2 hu.2, hread]
    rfl
  | @escape u v value text _ _ ih =>
    obtain ⟨inside, rfl, hread⟩ := ih
    refine ⟨backslash :: v :: inside, rfl, fun rest => ?_⟩
    rw [cons_append, cons_append, closeString_backslash, hread]
    rfl
  | @unicode a b c d value text hdigits _ ih =>
    obtain ⟨inside, rfl, hread⟩ := ih
    simp only [all_cons, all_nil, Bool.and_true, Bool.and_eq_true] at hdigits
    obtain ⟨ha, hb, hc, hd⟩ := hdigits
    refine ⟨backslash :: letterU :: a :: b :: c :: d :: inside, rfl, fun rest => ?_⟩
    simp only [cons_append]
    rw [closeString_backslash, closeString_plain (isHexDigit_ne ha).1 (isHexDigit_ne ha).2,
      closeString_plain (isHexDigit_ne hb).1 (isHexDigit_ne hb).2,
      closeString_plain (isHexDigit_ne hc).1 (isHexDigit_ne hc).2,
      closeString_plain (isHexDigit_ne hd).1 (isHexDigit_ne hd).2, hread]
    rfl

theorem parseString_of_characters {value inside : JsString}
    (h : Characters value (inside ++ [quotationMark])) : parseString inside = some value := by
  have hread := readQuoted_of_characters h []
  rw [append_nil] at hread
  rw [parseString, hread]

theorem scan_string {value : JsString} (h : Literal value text)
    (hrest : isFollowedByColon rest = false) :
    scan stack currentKey (text ++ rest) = scan stack currentKey rest := by
  obtain ⟨chars, rfl, hchars⟩ := h
  obtain ⟨inside, rfl, hclose⟩ := closeString_of_characters hchars
  rw [cons_append, scan, if_pos rfl]
  split
  · next hnone =>
    rw [hclose] at hnone
    cases hnone
  · next hsome =>
    rw [hclose] at hsome
    cases hsome
    split
    · rw [hrest, Bool.false_and, if_neg (by decide)]
    · rfl

theorem scan_key {keys : List JsString} {key : JsString} (h : Literal key text)
    (hrest : isFollowedByColon rest = true) :
    scan (some keys :: stack) true (text ++ rest) =
      (decide (key ∈ keys) || scan (some (key :: keys) :: stack) true rest) := by
  obtain ⟨chars, rfl, hchars⟩ := h
  obtain ⟨inside, rfl, hclose⟩ := closeString_of_characters hchars
  rw [cons_append, scan, if_pos rfl]
  split
  · next hnone =>
    rw [hclose] at hnone
    cases hnone
  · next hsome =>
    rw [hclose] at hsome
    cases hsome
    dsimp only
    rw [hrest, Bool.true_and, if_pos rfl, parseString_of_characters hchars]
    dsimp only
    split
    · next hmem => rw [decide_eq_true hmem, Bool.true_or]
    · next hmem => rw [decide_eq_false hmem, Bool.false_or]

theorem isSpace_of_isWhitespace (h : isWhitespace u) : isSpace u := by
  simp only [isWhitespace, Bool.or_eq_true, decide_eq_true_eq] at h
  rcases h with ((rfl | rfl) | rfl) | rfl <;> decide

theorem isFollowedByColon_ws (hw : Ws w) (hu : isSpace u = false) :
    isFollowedByColon (w ++ u :: rest) = (u = colon : Bool) := by
  have hspace : ∀ v ∈ w, isSpace v := fun v hv => isSpace_of_isWhitespace (hw v hv)
  rw [isFollowedByColon, (dropWhile_append_cons hspace (by simp [hu])).2]
  simp

/-! ## Texts -/

mutual

/-- **A value** is passed over unless a key is repeated in it; afterwards the flag has some value,
which a comma or a closing bracket overwrites. -/
theorem scan_denotes : ∀ {tree : Json JsString} {text : JsString}, Denotes tree text →
    ∀ (stack : List (Option (List JsString))) (currentKey : Bool) (rest : JsString),
      isFollowedByColon rest = false → ∃ currentKey',
        scan stack currentKey (text ++ rest) = (repeats tree || scan stack currentKey' rest)
  | _, _, .false, stack, currentKey, rest, _ =>
    ⟨currentKey, by rw [scan_plain (all_eq_true.1 (by decide)), repeats, Bool.false_or]⟩
  | _, _, .null, stack, currentKey, rest, _ =>
    ⟨currentKey, by rw [scan_plain (all_eq_true.1 (by decide)), repeats, Bool.false_or]⟩
  | _, _, .true, stack, currentKey, rest, _ =>
    ⟨currentKey, by rw [scan_plain (all_eq_true.1 (by decide)), repeats, Bool.false_or]⟩
  | _, _, .number h, stack, currentKey, rest, _ => by
    refine ⟨currentKey, ?_⟩
    rw [scan_plain fun u hu => isPlain_of_isNumberUnit (isNumberUnit_of_number h u hu), repeats,
      Bool.false_or]
  | _, _, .string h, stack, currentKey, rest, hrest => by
    refine ⟨currentKey, ?_⟩
    rw [scan_string h hrest, repeats, Bool.false_or]
  | _, _, .emptyArray hw, stack, currentKey, rest, _ => by
    refine ⟨false, ?_⟩
    rw [cons_append, append_assoc, scan_openBracket, scan_ws hw, singleton_append,
      scan_closeBracket, repeats, repeatsItems, Bool.false_or]
  | _, _, .array hw hitems, stack, currentKey, rest, _ => by
    refine ⟨false, ?_⟩
    rw [cons_append, append_assoc, scan_openBracket, scan_ws hw, scan_items hitems, repeats]
  | _, _, .emptyObject hw, stack, currentKey, rest, _ => by
    refine ⟨false, ?_⟩
    rw [cons_append, append_assoc, scan_openBrace, scan_ws hw, singleton_append,
      scan_closeBrace, repeats, repeatsMembers, Bool.false_or]
  | _, _, .object hw hmembers, stack, currentKey, rest, _ => by
    refine ⟨false, ?_⟩
    rw [cons_append, append_assoc, scan_openBrace, scan_ws hw, scan_members hmembers, repeats]

/-- The elements of an array, whose strings are no keys. -/
theorem scan_items : ∀ {items : List (Json JsString)} {text : JsString}, DenotesItems items text →
    ∀ (stack : List (Option (List JsString))) (currentKey : Bool) (rest : JsString),
      scan (none :: stack) currentKey (text ++ rest) = (repeatsItems items || scan stack false rest)
  | _, _, @DenotesItems.last item text w hitem hw, stack, currentKey, rest => by
    obtain ⟨currentKey', hscan⟩ := scan_denotes hitem (none :: stack) currentKey
      (w ++ closeBracket :: rest) (isFollowedByColon_ws hw (by decide))
    rw [append_assoc, append_assoc, singleton_append, hscan, scan_ws hw,
      scan_closeBracket, repeatsItems, repeatsItems, Bool.or_false]
  | _, _, @DenotesItems.more item items text w y more hitem hw hy hitems, stack, currentKey,
      rest => by
    obtain ⟨currentKey', hscan⟩ := scan_denotes hitem (none :: stack) currentKey
      (w ++ comma :: (y ++ (more ++ rest))) (isFollowedByColon_ws hw (by decide))
    simp only [append_assoc, cons_append]
    rw [hscan, scan_ws hw, scan_comma, scan_ws hy, scan_items hitems, repeatsItems, Bool.or_assoc]

theorem scan_members : ∀ {members : List (JsString × Json JsString)} {text : JsString},
    DenotesMembers members text → ∀ (stack : List (Option (List JsString)))
      (keys : List JsString) (rest : JsString),
      scan (some keys :: stack) true (text ++ rest) =
        (repeatsMembers keys members || scan stack false rest)
  | _, _, @DenotesMembers.last key keyText v x text w value hkey hv hx hvalue hw, stack, keys,
      rest => by
    obtain ⟨currentKey, hscan⟩ := scan_denotes hvalue (some (key :: keys) :: stack) true
      (w ++ closeBrace :: rest) (isFollowedByColon_ws hw (by decide))
    simp only [append_assoc, cons_append, nil_append]
    rw [scan_key hkey (isFollowedByColon_ws hv (by decide)), scan_ws hv, scan_colon, scan_ws hx,
      hscan, scan_ws hw, scan_closeBrace, repeatsMembers, repeatsMembers, Bool.or_false,
      Bool.or_assoc]
  | _, _, @DenotesMembers.more key keyText v x text w y more value members hkey hv hx hvalue hw hy
      hmembers, stack, keys, rest => by
    obtain ⟨currentKey, hscan⟩ := scan_denotes hvalue (some (key :: keys) :: stack) true
      (w ++ comma :: (y ++ (more ++ rest))) (isFollowedByColon_ws hw (by decide))
    simp only [append_assoc, cons_append]
    rw [scan_key hkey (isFollowedByColon_ws hv (by decide)), scan_ws hv, scan_colon, scan_ws hx,
      hscan, scan_ws hw, scan_comma, scan_ws hy, Option.isSome_some,
      scan_members hmembers, repeatsMembers, Bool.or_assoc, Bool.or_assoc]

end

/-- **`detectDuplicateJsonKeys` on a JSON text** finds out whether some object of its value has two
members with one key. -/
theorem detectDuplicateJsonKeys_iff {tree : Json JsString} (h : DenotesText tree text) :
    detectDuplicateJsonKeys text = true ↔ HasRepeatedKey tree := by
  cases h with
  | @value w text y hw htext hy =>
    have hend : isFollowedByColon y = false := by
      have hspace := dropWhile_eq_nil_iff.2 fun u hu => isSpace_of_isWhitespace (hy u hu)
      rw [isFollowedByColon, hspace]
      rfl
    obtain ⟨currentKey, hscan⟩ := scan_denotes htext [] true y hend
    have hrest := @scan_ws [] currentKey [] y hy
    rw [append_nil, scan] at hrest
    rw [detectDuplicateJsonKeys, scan_ws hw, hscan, hrest, Bool.or_false, repeats_iff]

/-- `{"a": 1, "\u0061": []}` -/
def sampleText : JsString :=
  [openBrace, quotationMark, 0x61, quotationMark, colon, 0x20, 0x31, comma, 0x20, quotationMark,
    backslash, letterU, 0x30, 0x30, 0x36, 0x31, quotationMark, colon, 0x20, openBracket,
    closeBracket, closeBrace]

/-- The value of `sampleText`. -/
def sampleTree : Json JsString := .object [([0x61], .number [0x31]), ([0x61], .array [])]

theorem detectDuplicateJsonKeys_iff_sample :
    detectDuplicateJsonKeys sampleText = true ↔ HasRepeatedKey sampleTree := by
  have hspace : Ws [0x20] := forall_mem_singleton.2 (by decide)
  have hnone : Ws [] := forall_mem_nil _
  have hplain : Literal [0x61] [quotationMark, 0x61, quotationMark] :=
    ⟨_, rfl, .unescaped (by decide) .close⟩
  have hunit : unitOfHex 0x30 0x30 0x36 0x31 = 0x61 := by decide
  have hchars : Characters [unitOfHex 0x30 0x30 0x36 0x31]
      [backslash, letterU, 0x30, 0x30, 0x36, 0x31, quotationMark] := .unicode (by decide) .close
  have hescaped : Literal [0x61]
      [quotationMark, backslash, letterU, 0x30, 0x30, 0x36, 0x31, quotationMark] :=
    ⟨_, rfl, hunit ▸ hchars⟩
  have hdigit : Number ([] ++ ([0x31] ++ ([] ++ []))) :=
    .parts .none (.digits (by decide) (forall_mem_nil _)) .none .none
  have hmembers := DenotesMembers.more hplain hnone hspace (.number hdigit) hnone hspace
    (.last hescaped hnone hspace (.emptyArray hnone) hnone)
  exact detectDuplicateJsonKeys_iff (.value hnone (.object hnone hmembers) hnone)

end

end Corgtex.Domain.ExactTargetInventory
