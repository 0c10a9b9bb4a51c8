import Corgtex.Library.JsDate
import Corgtex.Library.JsonObject

/-!
# The fingerprint of an artifact

`lineageContentFingerprint` (`source-lineage.ts:256`) hashes the JSON text of an artifact's kind and
fields. The header of an SQL run may be very long, so that its text is fed to the digest in pieces:
a string field in slices, each with its own escapes, and any other field in canonical form, with the
members of objects sorted and bigints as strings. The pieces are the text of the kind and the
canonical fields (`streamedUpdates_bytes`), which are the fields themselves where nothing is out of
order (`canonicalValue_of_inOrder`).
-/

namespace Corgtex.Domain.SourceLineage

open List hiding getElem?_eq_some_iff

open JsString JsArray Json

/-! ## Rows -/

/-- A finite number, by the digits that `JSON.stringify` has for it. -/
structure NumberText where
  text : JsString
  number : JsonGrammar.Number text

/-- A value in a row: of a column, or inside a JSON column. A date is a valid one. -/
inductive FieldValue
  | undefined
  | null
  | bool (value : Bool)
  | number (value : NumberText)
  /-- `NaN` or an infinity. -/
  | nonFinite
  | bigint (value : Int)
  | string (value : JsString)
  | date (time : TimeValue)
  | array (items : List FieldValue)
  | object (members : List (JsString × FieldValue))

/-- A row, by its columns. -/
abbrev Row := List (JsString × FieldValue)

namespace FieldValue

/-- `value === undefined` -/
def isUndefined : FieldValue → Bool
  | undefined => true
  | _ => false

/-- `value ?? null` -/
def orNull : FieldValue → FieldValue
  | undefined => null
  | value => value

end FieldValue

/-- `row[field] ?? null` -/
def column (row : Row) (field : JsString) : FieldValue :=
  ((row.lookup field).getD .undefined).orNull

/-! ## The canonical form -/

/-- A member of an object, as a text. -/
def memberText (member : JsString × JsString) : JsString := quote member.1 ++ colon :: member.2

mutual

/-- `sourceCommitCanonical` (`source-commit-lock-plan.ts:60`). -/
def sourceCommitCanonical : FieldValue → JsString
  | .date time => quote (JsDate.toISOString time)
  | .bigint value => quote (JsNumber.decimalInt value)
  | .array items => openBracket :: (join [comma] (canonicalItems items) ++ [closeBracket])
  | .object members =>
    openBrace ::
      (join [comma] ((sortBy byKey (canonicalEntries members)).map memberText) ++ [closeBrace])
  | .undefined | .null | .nonFinite => lit "null"
  | .bool value => lit (if value then "true" else "false")
  | .number value => value.text
  | .string value => quote value

/-- The elements of an array. -/
def canonicalItems : List FieldValue → List JsString
  | [] => []
  | item :: items => sourceCommitCanonical item :: canonicalItems items

/-- The members of an object that are not `undefined`. -/
def canonicalEntries : List (JsString × FieldValue) → List (JsString × JsString)
  | [] => []
  | (key, value) :: members =>
    if value.isUndefined then canonicalEntries members
    else (key, sourceCommitCanonical value) :: canonicalEntries members

end

/-- `JSON.parse(sourceCommitCanonical(value))`, with the digits of its numbers. -/
def canonicalValue (value : FieldValue) : Option (Json JsString) :=
  (parse (sourceCommitCanonical value)).map properties

/-! ## The two paths -/

/-- The end of the slice of a string from an offset on (line 278). -/
def sliceEnd (value : JsString) (offset : Nat) : Nat :=
  let stop := min value.length (offset + 65536)
  if stop < value.length ∧ value[stop - 1]?.any Utf8.isHigh ∧ value[stop]?.any Utf8.isLow then
    stop + 1
  else stop

theorem lt_sliceEnd {value : JsString} {offset : Nat} (h : offset < value.length) :
    offset < sliceEnd value offset := by
  unfold sliceEnd
  dsimp only
  split <;> omega

/-- The slices of a string from an offset on, each as the inside of its own literal. -/
def sliceUpdates (value : JsString) (offset : Nat) : List JsString :=
  if _h : offset < value.length then
    escapes (value.slice offset (sliceEnd value offset)) ::
      sliceUpdates value (sliceEnd value offset)
  else []
termination_by value.length - offset
decreasing_by
  have := lt_sliceEnd _h
  omega

/-- What the digest is updated with for a field (line 268). -/
def fieldUpdates (value : FieldValue) : Option (List JsString) :=
  match value with
  | .string value =>
    some ([comma] :: [quotationMark] :: (sliceUpdates value 0 ++ [[quotationMark]]))
  | value => (canonicalValue value).map fun json => [[comma], stringify id json]

/-- What the digest is updated with (line 264). -/
def streamedUpdates (kind : JsString) (fields : List JsString) (row : Row) :
    Option (List JsString) :=
  (fields.mapM fun field => fieldUpdates (column row field)).map fun updates =>
    (openBracket :: quote kind) :: (updates.flatten ++ [[closeBracket]])

mutual

/-- What `JSON.stringify` makes of a value; `none` where it throws, at a bigint. -/
def plainValue : FieldValue → Option (Json NumberText)
  | .date time => some (.string (JsDate.toISOString time))
  | .bigint _ => none
  | .array items => (plainItems items).map .array
  | .object members => (plainMembers members).map .object
  | .undefined | .null | .nonFinite => some .null
  | .bool value => some (.bool value)
  | .number value => some (.number value)
  | .string value => some (.string value)

/-- The elements of an array. -/
def plainItems : List FieldValue → Option (List (Json NumberText))
  | [] => some []
  | item :: items =>
    (plainValue item).bind fun value => (plainItems items).map (value :: ·)

/-- The members of an object that are not `undefined`. -/
def plainMembers : List (JsString × FieldValue) → Option (List (JsString × Json NumberText))
  | [] => some []
  | (key, value) :: members =>
    if value.isUndefined then plainMembers members
    else (plainValue value).bind fun json =>
      (plainMembers members).map ((key, json) :: ·)

end

/-- The text that other kinds of artifacts have hashed (line 289). -/
def plainText (kind : JsString) (fields : List JsString) (row : Row) : Option JsString :=
  (fields.mapM fun field => plainValue (column row field)).map fun values =>
    stringify NumberText.text (.array (.string kind :: values))

/-- `fingerprintFields` (line 251) of an SQL run. -/
def fingerprintFields : List JsString :=
  [lit "workspaceId", lit "sourceId", lit "attemptId", lit "generation",
    lit "configurationFingerprint", lit "sourcePermissionEpoch", lit "permissionEpochsJson",
    lit "encryptedPayload", lit "payloadHash", lit "rowsProcessed", lit "nextCursor",
    lit "createdAt", lit "updatedAt"]

/-- The bytes of updates of a digest, each of which is encoded on its own. -/
def bytes (updates : List JsString) : List UInt8 := updates.flatMap Utf8.encode

/-! ## Canonical values -/

mutual

def canonicalTree : FieldValue → Json NumberText
  | .date time => .string (JsDate.toISOString time)
  | .bigint value => .string (JsNumber.decimalInt value)
  | .array items => .array (canonicalItemTrees items)
  | .object members => .object (sortBy byKey (canonicalMemberTrees members))
  | .undefined | .null | .nonFinite => .null
  | .bool value => .bool value
  | .number value => .number value
  | .string value => .string value

/-- The elements of an array. -/
def canonicalItemTrees : List FieldValue → List (Json NumberText)
  | [] => []
  | item :: items => canonicalTree item :: canonicalItemTrees items

/-- The members of an object that are not `undefined`. -/
def canonicalMemberTrees : List (JsString × FieldValue) → List (JsString × Json NumberText)
  | [] => []
  | (key, value) :: members =>
    if value.isUndefined then canonicalMemberTrees members
    else (key, canonicalTree value) :: canonicalMemberTrees members

end

mutual

theorem sourceCommitCanonical_eq : ∀ value : FieldValue,
    sourceCommitCanonical value = stringify NumberText.text (canonicalTree value)
  | .array items => by
    rw [sourceCommitCanonical, canonicalTree, stringify, stringifyItems_eq_join,
      canonicalItems_eq items]
  | .object members => by
    rw [sourceCommitCanonical, canonicalTree, stringify, stringifyMembers_eq_join,
      canonicalEntries_eq members, sortBy_byKey_map, map_map]
    rfl
  | .date _ | .bigint _ | .undefined | .null | .nonFinite | .bool _ | .number _ | .string _ => by
    rw [sourceCommitCanonical, canonicalTree, stringify]

theorem canonicalItems_eq : ∀ items : List FieldValue,
    canonicalItems items = (canonicalItemTrees items).map (stringify NumberText.text)
  | [] => by rw [canonicalItems, canonicalItemTrees, map_nil]
  | item :: items => by
    rw [canonicalItems, canonicalItemTrees, map_cons, sourceCommitCanonical_eq item,
      canonicalItems_eq items]

theorem canonicalEntries_eq : ∀ members : List (JsString × FieldValue),
    canonicalEntries members = (canonicalMemberTrees members).map fun member =>
      (member.1, stringify NumberText.text member.2)
  | [] => by rw [canonicalEntries, canonicalMemberTrees, map_nil]
  | (key, value) :: members => by
    rw [canonicalEntries, canonicalMemberTrees, canonicalEntries_eq members,
      sourceCommitCanonical_eq value]
    split
    · rfl
    · rw [map_cons]

end

theorem canonicalValue_eq (value : FieldValue) : canonicalValue value =
    some (properties ((canonicalTree value).mapNumber NumberText.text)) := by
  rw [canonicalValue, sourceCommitCanonical_eq, parse_stringify NumberText.number, Option.map_some]

theorem canonicalValue_string (value : JsString) :
    canonicalValue (.string value) = some (.string value) := by
  rw [canonicalValue_eq, canonicalTree, mapNumber, properties]

/-! ## Slices -/

section
variable {value rest : JsString} {offset : Nat}

/-- A slice does not end inside a surrogate pair. -/
theorem sliceEnd_between : ∀ u ∈ value[sliceEnd value offset - 1]?,
    ∀ v ∈ value[sliceEnd value offset]?, (Utf8.isHigh u && Utf8.isLow v) = false := by
  intro u hu v hv
  rw [Option.mem_def] at hu hv
  unfold sliceEnd at hu hv
  generalize min value.length (offset + 65536) = stop at hu hv
  dsimp only at hu hv
  split at hu
  · next hcut =>
    rw [if_pos hcut] at hv
    rw [Nat.add_sub_cancel] at hu
    have hlow : Utf8.isLow u = true := by
      have := hcut.2.2
      rwa [hu, Option.any_some] at this
    have hhigh : Utf8.isHigh u = false := by
      rw [Bool.eq_false_iff]
      intro hhigh
      have h := Utf8.isHigh_iff.1 hhigh
      have h' := Utf8.isLow_iff.1 hlow
      omega
    rw [hhigh, Bool.false_and]
  · next hcut =>
    rw [if_neg hcut] at hv
    rw [Bool.eq_false_iff]
    intro hpair
    rw [Bool.and_eq_true] at hpair
    have hstop : stop < value.length := (List.getElem?_eq_some_iff.1 hv).1
    exact hcut ⟨hstop, by rw [hu, Option.any_some, hpair.1], by rw [hv, Option.any_some, hpair.2]⟩

theorem slice_append_drop {stop : Nat} (h : offset ≤ stop) :
    value.slice offset stop ++ value.drop stop = value.drop offset := by
  have hdrop : value.drop stop = (value.drop offset).drop (stop - offset) := by
    rw [drop_drop, Nat.add_sub_cancel' h]
  rw [slice, drop_take, hdrop, take_append_drop]

theorem sliceEnd_le : sliceEnd value offset ≤ value.length := by
  unfold sliceEnd
  dsimp only
  split <;> omega

theorem getLast?_slice {stop : Nat} (h : offset < stop) (hstop : stop ≤ value.length) :
    (value.slice offset stop).getLast? = value[stop - 1]? := by
  have hlast : value[stop - 1]? = some value[stop - 1] := List.getElem?_eq_getElem (by omega)
  rw [slice, getLast?_drop, length_take, if_neg (by omega), getLast?_take,
    if_neg (by omega), hlast, Option.some_or]

/-- **The slices of a string** together have the bytes of its literal. -/
theorem bytes_sliceUpdates (value : JsString) (offset : Nat) (rest : JsString) :
    bytes (sliceUpdates value offset) ++ Utf8.encode rest =
      Utf8.encode (escapes (value.drop offset) ++ rest) := by
  induction hlength : value.length - offset using Nat.strong_induction_on generalizing offset with
  | _ length ih =>
    rw [sliceUpdates]
    split
    · next hlt =>
      have hend := lt_sliceEnd hlt
      have hrest := ih (value.length - sliceEnd value offset) (by omega) (sliceEnd value offset) rfl
      have hpieces : escapes (value.drop offset) =
          escapes (value.slice offset (sliceEnd value offset)) ++
            escapes (value.drop (sliceEnd value offset)) := by
        rw [← slice_append_drop hend.le]
        refine escapes_append fun u hu v hv => ?_
        rw [head?_drop] at hv
        refine sliceEnd_between u ?_ v hv
        rwa [getLast?_slice hend sliceEnd_le] at hu
      rw [bytes, flatMap_cons, append_assoc, ← bytes, hrest, hpieces, append_assoc,
        Utf8.encode_append_of_isWellFormed (isWellFormed_escapes (value.slice offset _))]
    · next hge =>
      rw [drop_eq_nil_of_le (by omega)]
      rfl

/-! ## The streamed text -/

/-- A text that goes on behind a field. -/
def Continues (rest : JsString) : Prop := rest.head? = some comma ∨ rest.head? = some closeBracket

theorem Continues.not_isLow (h : Continues rest) : ∀ u ∈ rest.head?, Utf8.isLow u = false := by
  intro u hu
  rcases h with h | h
  · rw [h] at hu
    cases hu
    decide
  · rw [h] at hu
    cases hu
    decide

/-- **The updates for a field** are the bytes of its canonical value. -/
theorem fieldUpdates_bytes (value : FieldValue) : ∃ json updates,
    canonicalValue value = some json ∧ fieldUpdates value = some updates ∧
      ∀ rest, Continues rest →
        bytes updates ++ Utf8.encode rest = Utf8.encode (comma :: (stringify id json ++ rest)) := by
  have hcomma (rest : JsString) : Utf8.encode [comma] ++ Utf8.encode rest =
      Utf8.encode (comma :: rest) := (Utf8.encode_append_of_isWellFormed (by decide)).symm
  have hmark (rest : JsString) : Utf8.encode [quotationMark] ++ Utf8.encode rest =
      Utf8.encode (quotationMark :: rest) := (Utf8.encode_append_of_isWellFormed (by decide)).symm
  by_cases hstring : ∃ text, value = .string text
  · obtain ⟨text, rfl⟩ := hstring
    refine ⟨_, _, canonicalValue_string text, rfl, fun rest _ => ?_⟩
    have hslices := bytes_sliceUpdates text 0 (quotationMark :: rest)
    rw [drop_zero] at hslices
    rw [stringify, quote, bytes, flatMap_cons, flatMap_cons, flatMap_append,
      flatMap_singleton, ← bytes, append_assoc, append_assoc, append_assoc,
      hmark rest, hslices, hmark, hcomma]
    simp only [cons_append, append_assoc, nil_append]
  · obtain ⟨json, hjson⟩ : ∃ json, canonicalValue value = some json := ⟨_, canonicalValue_eq value⟩
    refine ⟨json, [[comma], stringify id json], hjson, ?_, fun rest hrest => ?_⟩
    · unfold fieldUpdates
      split
      · next text => exact absurd ⟨text, rfl⟩ hstring
      · rw [hjson, Option.map_some]
    · rw [bytes, flatMap_cons, flatMap_singleton, append_assoc,
        ← Utf8.encode_append_of_head hrest.not_isLow, hcomma]

/-- The elements of an array after the first one, each behind a comma, and its closing bracket. -/
def tailText : List (Json JsString) → JsString
  | [] => [closeBracket]
  | item :: items => comma :: (stringify id item ++ tailText items)

theorem continues_tailText (items : List (Json JsString)) : Continues (tailText items) := by
  cases items with
  | nil => exact .inr rfl
  | cons => exact .inl rfl

theorem stringifyItems_cons (item : Json JsString) (items : List (Json JsString)) :
    stringifyItems id (item :: items) = stringify id item ++ tailText items := by
  induction items generalizing item with
  | nil => rw [stringifyItems, tailText]
  | cons item' items ih => rw [stringifyItems, tailText, ih item']

end

/-- **The pieces are the text**: what the digest is fed are the bytes of the JSON text of the kind
and the canonical fields. -/
theorem streamedUpdates_bytes (kind : JsString) (fields : List JsString) (row : Row) :
    ∃ values updates,
      (fields.mapM fun field => canonicalValue (column row field)) = some values ∧
      streamedUpdates kind fields row = some updates ∧
      bytes updates = Utf8.encode (stringify id (.array (.string kind :: values))) := by
  suffices hfields : ∃ values updates,
      (fields.mapM fun field => canonicalValue (column row field)) = some values ∧
      (fields.mapM fun field => fieldUpdates (column row field)) = some updates ∧
      bytes updates.flatten ++ Utf8.encode [closeBracket] = Utf8.encode (tailText values) by
    obtain ⟨values, updates, hvalues, hupdates, hbytes⟩ := hfields
    refine ⟨values, _, hvalues, by rw [streamedUpdates, hupdates, Option.map_some], ?_⟩
    have hkind := @Utf8.encode_append_of_head (openBracket :: quote kind) _
      (continues_tailText values).not_isLow
    rw [bytes, flatMap_cons, flatMap_append, flatMap_singleton, ← bytes, hbytes,
      ← hkind, stringify, stringifyItems_cons, stringify]
    rfl
  induction fields with
  | nil => exact ⟨[], [], rfl, rfl, rfl⟩
  | cons field fields ih =>
    obtain ⟨values, updates, hvalues, hupdates, hbytes⟩ := ih
    obtain ⟨json, update, hjson, hupdate, hfield⟩ := fieldUpdates_bytes (column row field)
    refine ⟨json :: values, update :: updates, ?_, ?_, ?_⟩
    · rw [mapM_cons, hjson, hvalues]
      rfl
    · rw [mapM_cons, hupdate, hupdates]
      rfl
    · rw [flatten_cons, bytes, flatMap_append, ← bytes, ← bytes, append_assoc,
        hbytes, hfield _ (continues_tailText values), tailText]

/-! ## Fields in canonical order -/

mutual

theorem properties_canonicalTree : ∀ (value : FieldValue) {json : Json NumberText},
    plainValue value = some json → InOrder json →
      properties ((canonicalTree value).mapNumber NumberText.text) = json.mapNumber NumberText.text
  | .bigint _, _, h, _ => by cases h
  | .array items, _, h, hjson => by
    obtain ⟨values, hvalues, rfl⟩ := Option.map_eq_some_iff.1 h
    rw [canonicalTree, mapNumber, properties, mapNumber,
      itemProperties_canonicalItemTrees items hvalues hjson]
  | .object members, _, h, hjson => by
    obtain ⟨values, hvalues, rfl⟩ := Option.map_eq_some_iff.1 h
    rw [InOrder] at hjson
    have hmembers := memberProperties_canonicalMemberTrees members hvalues hjson.2
    have hkeys : ((mapMembers NumberText.text values).map Prod.fst).Pairwise KeyBefore := by
      rw [mapMembers_eq, map_map]
      exact hjson.1
    rw [canonicalTree, mapNumber, properties, mapNumber, mapMembers_eq, ← sortBy_byKey_map,
      ← mapMembers_eq, memberProperties_eq, ← sortBy_byKey_map, ← memberProperties_eq, hmembers,
      ownProperties_sortBy hkeys]
  | .date _, _, h, _ | .undefined, _, h, _ | .null, _, h, _ | .nonFinite, _, h, _
  | .bool _, _, h, _ | .number _, _, h, _ | .string _, _, h, _ => by
    cases h
    rw [canonicalTree, mapNumber, properties]

theorem itemProperties_canonicalItemTrees : ∀ (items : List FieldValue)
    {values : List (Json NumberText)}, plainItems items = some values → ItemsInOrder values →
      itemProperties (mapItems NumberText.text (canonicalItemTrees items)) =
        mapItems NumberText.text values
  | [], _, h, _ => by
    cases h
    rw [canonicalItemTrees, mapItems, itemProperties]
  | item :: items, _, h, hvalues => by
    obtain ⟨value, hvalue, h⟩ := Option.bind_eq_some_iff.1 h
    obtain ⟨rest, hrest, rfl⟩ := Option.map_eq_some_iff.1 h
    rw [ItemsInOrder] at hvalues
    rw [canonicalItemTrees, mapItems, itemProperties, mapItems,
      properties_canonicalTree item hvalue hvalues.1,
      itemProperties_canonicalItemTrees items hrest hvalues.2]

theorem memberProperties_canonicalMemberTrees : ∀ (members : List (JsString × FieldValue))
    {values : List (JsString × Json NumberText)}, plainMembers members = some values →
      MembersInOrder values →
      memberProperties (mapMembers NumberText.text (canonicalMemberTrees members)) =
        mapMembers NumberText.text values
  | [], _, h, _ => by
    cases h
    rw [canonicalMemberTrees, mapMembers, memberProperties]
  | (key, value) :: members, _, h, hvalues => by
    rw [plainMembers] at h
    rw [canonicalMemberTrees]
    split at h
    · next hundefined =>
      rw [if_pos hundefined]
      exact memberProperties_canonicalMemberTrees members h hvalues
    · next hdefined =>
      obtain ⟨json, hjson, h⟩ := Option.bind_eq_some_iff.1 h
      obtain ⟨rest, hrest, rfl⟩ := Option.map_eq_some_iff.1 h
      rw [MembersInOrder] at hvalues
      rw [if_neg hdefined, mapMembers, memberProperties, mapMembers,
        properties_canonicalTree value hjson hvalues.1,
        memberProperties_canonicalMemberTrees members hrest hvalues.2]

end

/-- A field without bigints whose objects are in order is its own canonical value. -/
theorem canonicalValue_of_inOrder {value : FieldValue} {json : Json NumberText}
    (hjson : plainValue value = some json) (horder : InOrder json) :
    canonicalValue value = some (json.mapNumber NumberText.text) := by
  rw [canonicalValue_eq, properties_canonicalTree value hjson horder]

theorem mapM_canonicalValue {fields : List JsString} {row : Row} {values : List (Json NumberText)}
    (hvalues : (fields.mapM fun field => plainValue (column row field)) = some values)
    (horder : ∀ field ∈ fields, ∀ json, plainValue (column row field) = some json → InOrder json) :
    (fields.mapM fun field => canonicalValue (column row field)) =
      some (values.map (mapNumber NumberText.text)) := by
  induction fields generalizing values with
  | nil =>
    cases hvalues
    rfl
  | cons field fields ih =>
    obtain ⟨hfield, hfields⟩ := forall_mem_cons.1 horder
    rw [mapM_cons] at hvalues
    obtain ⟨json, hjson, hvalues⟩ := Option.bind_eq_some_iff.1 hvalues
    obtain ⟨rest, hrest, he⟩ := Option.bind_eq_some_iff.1 hvalues
    cases he
    rw [mapM_cons, canonicalValue_of_inOrder hjson (hfield json hjson), ih hrest hfields]
    rfl

/-- **The streamed fingerprint**: the digest is fed the bytes of the JSON text of the kind and the
canonical fields, and those of the plain text where no object has its members out of order. -/
theorem streamedUpdates_fingerprint (kind : JsString) (fields : List JsString) (row : Row) :
    (∃ values updates,
      (fields.mapM fun field => canonicalValue (column row field)) = some values ∧
      streamedUpdates kind fields row = some updates ∧
      bytes updates = Utf8.encode (stringify id (.array (.string kind :: values)))) ∧
    ∀ text, plainText kind fields row = some text →
      (∀ field ∈ fields, ∀ json, plainValue (column row field) = some json → InOrder json) →
      ∃ updates, streamedUpdates kind fields row = some updates ∧
        bytes updates = Utf8.encode text := by
  refine ⟨streamedUpdates_bytes kind fields row, fun text htext horder => ?_⟩
  obtain ⟨plain, hplain, rfl⟩ := Option.map_eq_some_iff.1 htext
  obtain ⟨values, updates, hvalues, hupdates, hbytes⟩ := streamedUpdates_bytes kind fields row
  rw [mapM_canonicalValue hplain horder, Option.some.injEq] at hvalues
  refine ⟨updates, hupdates, ?_⟩
  rw [hbytes, ← hvalues, ← stringify_mapNumber NumberText.text, mapNumber, mapItems, mapNumber,
    mapItems_eq]

/-- The header of a run whose permission epochs are not listed by their keys. -/
def unsortedRow : Row :=
  [(lit "permissionEpochsJson", .object [(lit "b", .null), (lit "a", .null)])]

/-- The digest is not fed the plain text there. -/
theorem not_streamed_plainText : ¬ ∀ (kind : JsString) (fields : List JsString) (row : Row) text,
    plainText kind fields row = some text → ∃ updates,
      streamedUpdates kind fields row = some updates ∧ bytes updates = Utf8.encode text := by
  intro h
  have hdiffer :
      (streamedUpdates (lit "SqlNativeRunInput") fingerprintFields unsortedRow).map bytes ≠
        (plainText (lit "SqlNativeRunInput") fingerprintFields unsortedRow).map Utf8.encode := by
    decide +kernel
  obtain ⟨text, htext⟩ : ∃ text, plainText (lit "SqlNativeRunInput") fingerprintFields unsortedRow =
      some text := ⟨_, rfl⟩
  obtain ⟨updates, hupdates, hbytes⟩ := h _ _ _ text htext
  rw [hupdates, htext, Option.map_some, Option.map_some, hbytes] at hdiffer
  exact hdiffer rfl

end Corgtex.Domain.SourceLineage
