import Corgtex.Library.JsString

/-!
# The grammar of JSON

The texts of RFC 8259 over UTF-16 code units, one predicate for each of its rules. A structural
character has its white space around it in the rule that uses it, so no value begins or ends with
white space.
-/

namespace JsonGrammar

open JsString

abbrev quotationMark : UInt16 := 0x22
abbrev reverseSolidus : UInt16 := 0x5C
abbrev comma : UInt16 := 0x2C
abbrev colon : UInt16 := 0x3A
abbrev leftBracket : UInt16 := 0x5B
abbrev rightBracket : UInt16 := 0x5D
abbrev leftBrace : UInt16 := 0x7B
abbrev rightBrace : UInt16 := 0x7D
abbrev minus : UInt16 := 0x2D
abbrev plus : UInt16 := 0x2B
abbrev decimalPoint : UInt16 := 0x2E

/-- Space, tab, line feed and carriage return. -/
def isWhitespace (u : UInt16) : Bool := u = 0x20 || u = 0x09 || u = 0x0A || u = 0x0D

def Ws (s : JsString) : Prop := ∀ u ∈ s, isWhitespace u

/-! ## Numbers -/

/-- `DIGIT` -/
def isDigit (u : UInt16) : Bool := 0x30 ≤ u && u ≤ 0x39

/-- `digit1-9` -/
def isDigitOneToNine (u : UInt16) : Bool := 0x31 ≤ u && u ≤ 0x39

/-- `e` -/
def isExponentMark (u : UInt16) : Bool := u = 0x65 || u = 0x45

/-- `1*DIGIT` -/
structure Digits (s : JsString) : Prop where
  ne_nil : s ≠ []
  all : ∀ u ∈ s, isDigit u

/-- `[ minus ]` -/
inductive Sign : JsString → Prop
  | none : Sign []
  | minus : Sign [minus]

/-- `int` -/
inductive IntPart : JsString → Prop
  | zero : IntPart [0x30]
  | digits {u : UInt16} {s : JsString} : isDigitOneToNine u → (∀ v ∈ s, isDigit v) →
      IntPart (u :: s)

/-- `[ frac ]` -/
inductive Frac : JsString → Prop
  | none : Frac []
  | digits {s : JsString} : Digits s → Frac (decimalPoint :: s)

/-- `[ minus / plus ]` -/
inductive ExpSign : JsString → Prop
  | none : ExpSign []
  | minus : ExpSign [minus]
  | plus : ExpSign [plus]

/-- `[ exp ]` -/
inductive Exp : JsString → Prop
  | none : Exp []
  | digits {u : UInt16} {sign s : JsString} : isExponentMark u → ExpSign sign → Digits s →
      Exp (u :: (sign ++ s))

inductive Number : JsString → Prop
  | parts {sign int frac exp : JsString} : Sign sign → IntPart int → Frac frac → Exp exp →
      Number (sign ++ (int ++ (frac ++ exp)))

/-! ## Strings -/

/-- The characters behind `escape` that stand for one character. -/
def isEscape (u : UInt16) : Bool :=
  u = quotationMark || u = reverseSolidus || u = 0x2F || u = 0x62 || u = 0x66 || u = 0x6E ||
    u = 0x72 || u = 0x74

/-- `unescaped` -/
def isUnescaped (u : UInt16) : Bool := 0x20 ≤ u && u != quotationMark && u != reverseSolidus

/-- `4HEXDIG`, for any number of digits. -/
structure HexDigits (count : ℕ) (s : JsString) : Prop where
  length_eq : s.length = count
  all : ∀ u ∈ s, isHexDigit u

/-- `*char quotation-mark` -/
inductive Characters : JsString → Prop
  | close : Characters [quotationMark]
  | unescaped {u : UInt16} {s : JsString} : isUnescaped u → Characters s → Characters (u :: s)
  | escape {u : UInt16} {s : JsString} : isEscape u → Characters s →
      Characters (reverseSolidus :: u :: s)
  | unicode {digits s : JsString} : HexDigits 4 digits → Characters s →
      Characters (reverseSolidus :: 0x75 :: (digits ++ s))

/-- `string` -/
inductive Str : JsString → Prop
  | quote {s : JsString} : Characters s → Str (quotationMark :: s)

/-! ## Values -/

/-- The items of an array or an object, up to what closes it. -/
inductive Items (Item : JsString → Prop) (close : UInt16) : JsString → Prop
  | last {item w : JsString} : Item item → Ws w → Items Item close (item ++ (w ++ [close]))
  | more {item w w' rest : JsString} : Item item → Ws w → Ws w' → Items Item close rest →
      Items Item close (item ++ (w ++ comma :: (w' ++ rest)))

/-- What stands behind the bracket that opens an array or an object. -/
inductive Enclosed (Item : JsString → Prop) (close : UInt16) : JsString → Prop
  | empty {w : JsString} : Ws w → Enclosed Item close (w ++ [close])
  | items {w rest : JsString} : Ws w → Items Item close rest → Enclosed Item close (w ++ rest)

inductive Member (Value : JsString → Prop) : JsString → Prop
  | pair {key w w' value : JsString} : Str key → Ws w → Ws w' → Value value →
      Member Value (key ++ (w ++ colon :: (w' ++ value)))

inductive Value : JsString → Prop
  | false : Value (lit "false")
  | null : Value (lit "null")
  | true : Value (lit "true")
  | object {rest : JsString} : Enclosed (Member Value) rightBrace rest → Value (leftBrace :: rest)
  | array {rest : JsString} : Enclosed Value rightBracket rest → Value (leftBracket :: rest)
  | number {s : JsString} : Number s → Value s
  | string {s : JsString} : Str s → Value s

/-- `JSON-text` -/
inductive Text : JsString → Prop
  | value {w value w' : JsString} : Ws w → Value value → Ws w' → Text (w ++ (value ++ w'))

end JsonGrammar
