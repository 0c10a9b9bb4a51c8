import Corgtex.Library.Json
import Mathlib.Data.List.Nodup
import Mathlib.Data.Rat.Defs

/-!
# Values of unknown type

A value that the source declares `unknown`. A number is finite or one of the values that are not;
`-0` is the number `0`. An array has no holes: the source skips a hole where it skips `undefined`.
-/

/-- An ECMAScript value. -/
inductive JsValue
  | undefined
  | null
  | bool (value : Bool)
  | number (value : ℚ)
  /-- `NaN` or an infinity. -/
  | nonFinite
  | string (value : JsString)
  | array (items : List JsValue)
  | object (members : List (JsString × JsValue))
  /-- A function, a symbol or a bigint. -/
  | other

namespace JsValue

/-- `record[key]`, on the members of an object. -/
def get (members : List (JsString × JsValue)) (key : JsString) : JsValue :=
  (members.find? fun member => member.1 = key).elim .undefined Prod.snd

/-- `value ?? fallback`. -/
def orElse (value fallback : JsValue) : JsValue :=
  match value with
  | undefined => fallback
  | null => fallback
  | value => value

mutual

/-- A JSON value whose numbers are natural. -/
def ofJson : Json Nat → JsValue
  | .null => .null
  | .bool value => .bool value
  | .number value => .number value
  | .string value => .string value
  | .array items => .array (ofItems items)
  | .object members => .object (ofMembers members)

/-- The elements of an array. -/
def ofItems : List (Json Nat) → List JsValue
  | [] => []
  | item :: items => ofJson item :: ofItems items

/-- The members of an object. -/
def ofMembers : List (JsString × Json Nat) → List (JsString × JsValue)
  | [] => []
  | (key, value) :: members => (key, ofJson value) :: ofMembers members

end

variable {members members' : List (JsString × JsValue)} {key : JsString} {value : JsValue}

end JsValue
