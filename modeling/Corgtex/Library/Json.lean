import Corgtex.Library.Utf8

/-!
# JSON values and `JSON.stringify`

`Json ν` is a JSON value whose numbers are of a type `ν`: the numbers of a program, or their digits
as a text has them. The members of an object are listed in order. `stringify` writes a value
without any white space, and `quote` escapes what a string literal may not contain.
-/

/-- A JSON value. -/
inductive Json (ν : Type) where
  | null
  | bool (value : Bool)
  | number (value : ν)
  | string (value : JsString)
  | array (items : List (Json ν))
  | object (members : List (JsString × Json ν))

namespace Json

open JsString Utf8

variable {ν μ : Type}

/-! ## Punctuation -/

/-- `"` -/
abbrev quotationMark : UInt16 := 0x22

/-- `\` -/
abbrev backslash : UInt16 := 0x5C

/-- `,` -/
abbrev comma : UInt16 := 0x2C

/-- `:` -/
abbrev colon : UInt16 := 0x3A

/-- `[` -/
abbrev openBracket : UInt16 := 0x5B

/-- `]` -/
abbrev closeBracket : UInt16 := 0x5D

/-- `{` -/
abbrev openBrace : UInt16 := 0x7B

/-- `}` -/
abbrev closeBrace : UInt16 := 0x7D

/-- `u`, the escape of a code unit. -/
abbrev letterU : UInt16 := 0x75

/-! ## Escapes -/

/-- The digit of a value below 16, in lower case. -/
def hexDigit (n : Nat) : UInt16 := (if n < 10 then 0x30 + n else 0x57 + n).toUInt16

/-- The value of a hexadecimal digit. -/
def hexValue (u : UInt16) : Nat :=
  if u ≤ 0x39 then u.toNat - 0x30 else if u ≤ 0x46 then u.toNat - 0x37 else u.toNat - 0x57

/-- The code unit of four hexadecimal digits. -/
def unitOfHex (a b c d : UInt16) : UInt16 :=
  (((hexValue a * 16 + hexValue b) * 16 + hexValue c) * 16 + hexValue d).toUInt16

/-- The code unit that a single-character escape stands for. -/
def unescape (u : UInt16) : Option UInt16 :=
  if u = 0x22 ∨ u = 0x5C ∨ u = 0x2F then some u
  else if u = 0x62 then some 0x08
  else if u = 0x66 then some 0x0C
  else if u = 0x6E then some 0x0A
  else if u = 0x72 then some 0x0D
  else if u = 0x74 then some 0x09
  else none

def unicodeEscape (u : UInt16) : JsString :=
  [backslash, letterU, hexDigit (u.toNat / 0x1000), hexDigit (u.toNat / 0x100 % 16),
    hexDigit (u.toNat / 0x10 % 16), hexDigit (u.toNat % 16)]

/-- A code unit inside a string literal. -/
def escape (u : UInt16) : JsString :=
  if u = 0x08 then [backslash, 0x62]
  else if u = 0x09 then [backslash, 0x74]
  else if u = 0x0A then [backslash, 0x6E]
  else if u = 0x0C then [backslash, 0x66]
  else if u = 0x0D then [backslash, 0x72]
  else if u = quotationMark ∨ u = backslash then [backslash, u]
  else if u < 0x20 ∨ isHigh u ∨ isLow u then unicodeEscape u
  else [u]

/-- The inside of a string literal; a surrogate pair is written as it is. -/
def escapes : JsString → JsString
  | [] => []
  | [u] => escape u
  | u :: v :: rest =>
    if isHigh u && isLow v then u :: v :: escapes rest else escape u ++ escapes (v :: rest)

/-- `QuoteJSONString`. -/
def quote (value : JsString) : JsString := quotationMark :: escapes value ++ [quotationMark]

/-! ## Writing -/

mutual

/-- `JSON.stringify(value)`. -/
def stringify (print : ν → JsString) : Json ν → JsString
  | null => lit "null"
  | bool value => lit (if value then "true" else "false")
  | number value => print value
  | string value => quote value
  | array items => openBracket :: stringifyItems print items
  | object members => openBrace :: stringifyMembers print members

/-- The elements of an array and its closing bracket. -/
def stringifyItems (print : ν → JsString) : List (Json ν) → JsString
  | [] => [closeBracket]
  | [item] => stringify print item ++ [closeBracket]
  | item :: item' :: items => stringify print item ++ comma :: stringifyItems print (item' :: items)

/-- The members of an object and its closing brace. -/
def stringifyMembers (print : ν → JsString) : List (JsString × Json ν) → JsString
  | [] => [closeBrace]
  | [(key, value)] => quote key ++ colon :: stringify print value ++ [closeBrace]
  | (key, value) :: member :: members =>
    quote key ++ colon :: stringify print value ++
      comma :: stringifyMembers print (member :: members)

end

mutual

def mapNumber (f : ν → μ) : Json ν → Json μ
  | null => null
  | bool value => bool value
  | number value => number (f value)
  | string value => string value
  | array items => array (mapItems f items)
  | object members => object (mapMembers f members)

def mapItems (f : ν → μ) : List (Json ν) → List (Json μ)
  | [] => []
  | item :: items => mapNumber f item :: mapItems f items

def mapMembers (f : ν → μ) : List (JsString × Json ν) → List (JsString × Json μ)
  | [] => []
  | (key, value) :: members => (key, mapNumber f value) :: mapMembers f members

end

end Json
