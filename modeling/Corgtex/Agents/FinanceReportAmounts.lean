import Corgtex.Domain.Errors
import Corgtex.Library.DecimalText
import Corgtex.Library.JsSplit
import Corgtex.Library.Trimming

/-!
# Amounts in finance reports

`agents/src/finance-report-value-evidence.ts`: an amount is read from the text of a report, as an
integer of cents. `parseAmount` takes signs, parentheses and currency symbols off the text, takes
the separators of the format out of it, and computes with integers; a canonical cell of a
spreadsheet may have an exponent. The grammar of such texts is stated on its own (`PlainAmount`,
`ExponentAmount`), with the number that a text stands for. Within the limits of the parser it is
read as that number (`parsesExactly`).
-/

namespace Corgtex.Agents.FinanceReport

open JsString JsNumber DecimalText Trimming

/-! ## Formats and errors -/

/-- The codes that an amount fails with. -/
inductive BlockerCode
  | limitExceeded
  | invalidAmount
  | unsupportedPresentation
  | fractionalCents
  | amountOutOfRange
deriving DecidableEq, Repr

/-- `ValueError` (line 44). -/
structure ValueError where
  code : BlockerCode
  claimId : JsString
deriving DecidableEq, Repr

/-- `fail` (line 50). -/
def fail {α : Type} (code : BlockerCode) (claimId : JsString) : Except ValueError α :=
  .error ⟨code, claimId⟩

/-- `SCALES` (line 37). -/
def SCALES : List Nat := [1, 100, 1000, 1000000, 1000000000]

/-- The values of `DECIMALS`: `.`, `,` and none. -/
def DECIMALS : List (Option UInt16) := [some 0x2E, some 0x2C, none]

/-- The values of `GROUPS`: `,`, `.`, `'`, three kinds of space, and none. -/
def GROUPS : List (Option UInt16) :=
  [some 0x2C, some 0x2E, some 0x27, some 0x20, some 0xA0, some 0x202F, none]

/-- `$`, `€`, `£`, `¥`, `₹`. -/
def SYMBOLS : List UInt16 := [0x24, 0x20AC, 0xA3, 0xA5, 0x20B9]

def INT_MIN : Int := -2147483648
def INT_MAX : Int := 2147483647

/-- What `parseFormat` returns (line 71). -/
structure ParsedFormat where
  amountScale : Nat
  decimal : Option UInt16
  grouping : Option UInt16
  amountScale_mem : amountScale ∈ SCALES
  decimal_mem : decimal ∈ DECIMALS
  grouping_mem : grouping ∈ GROUPS
  distinct : decimal ≠ none → decimal ≠ grouping

/-! ## The parser -/

/-- `[ \t\u00a0\u202f]` -/
def isBoundarySpace (u : UInt16) : Bool := u = 0x20 || u = 0x09 || u = 0xA0 || u = 0x202F

/-- `trimBoundary` (line 89). -/
def trimBoundary (value : JsString) : JsString := trimBy isBoundarySpace value

/-- `[A-Za-z%‰‱¢]` -/
def isUnsupported (u : UInt16) : Bool :=
  (0x41 ≤ u && u ≤ 0x5A) || (0x61 ≤ u && u ≤ 0x7A) || u = 0x25 || u = 0x2030 || u = 0x2031 ||
    u = 0xA2

/-- `-` or `−`. -/
def isMinus (u : UInt16) : Bool := u = 0x2D || u = 0x2212

/-- `[-−+]` -/
def isSign (u : UInt16) : Bool := isMinus u || u = 0x2B

/-- `SYMBOLS.has` -/
def isSymbol (u : UInt16) : Bool := SYMBOLS.contains u

/-- The end of both parsers: a number of cents that is an integer of 32 bits. -/
def toCents (claimId : JsString) (negative : Bool) (numerator denominator : Nat) :
    Except ValueError Int :=
  if numerator % denominator ≠ 0 then fail .fractionalCents claimId
  else
    let signed := (if negative then -1 else 1) * ((numerator / denominator : Nat) : Int)
    if signed < INT_MIN ∨ INT_MAX < signed then fail .amountOutOfRange claimId
    else .ok signed

/-- `/^(-?)(\d)(?:\.(\d+))?e([+-]\d+)$/`, with no `fraction` for the empty one. -/
structure ExponentAmount where
  negative : Bool
  lead : UInt16
  fraction : JsString
  exponentNegative : Bool
  exponent : JsString
deriving DecidableEq, Repr

/-- `e([+-]\d+)$` -/
def matchPower (negative : Bool) (lead : UInt16) (fraction : JsString) :
    JsString → Option ExponentAmount
  | e :: sign :: exponent =>
    if e = 0x65 ∧ (sign = 0x2B ∨ sign = 0x2D) ∧ isDigits exponent then
      some ⟨negative, lead, fraction, sign = 0x2D, exponent⟩
    else none
  | _ => none

/-- `(\d)(?:\.(\d+))?`, and the rest. -/
def matchUnsigned (negative : Bool) : JsString → Option ExponentAmount
  | [] => none
  | lead :: rest =>
    if ¬ isDigit lead then none
    else if rest.head? = some 0x2E then
      let fraction := rest.tail.takeWhile isDigit
      if fraction = [] then none
      else matchPower negative lead fraction (rest.tail.dropWhile isDigit)
    else matchPower negative lead [] rest

/-- The match of the regular expression. -/
def matchExponent (text : JsString) : Option ExponentAmount :=
  if text.head? = some 0x2D then matchUnsigned true text.tail else matchUnsigned false text

/-- `Number(match[4])`. -/
def ExponentAmount.exponentValue (amount : ExponentAmount) : Int :=
  (if amount.exponentNegative then -1 else 1) * (ofDecimal amount.exponent : Int)

/-- `parseCanonicalExponent` (line 93). -/
def parseCanonicalExponent (selectedText : JsString) (parsed : ParsedFormat) (claimId : JsString) :
    Except ValueError Int :=
  match matchExponent selectedText with
  | none => fail .invalidAmount claimId
  | some amount =>
    let exponent := amount.exponentValue
    if 400 < exponent.natAbs then fail .invalidAmount claimId
    else
      let power := exponent - amount.fraction.length
      let numerator := ofDecimal (amount.lead :: amount.fraction) * parsed.amountScale * 100
      toCents claimId amount.negative (numerator * 10 ^ power.toNat) (10 ^ (-power).toNat)

/-- Parentheses around an amount, which mean that it is negative. -/
def stripParentheses (claimId token : JsString) : Except ValueError (Bool × JsString) :=
  if token.head? = some 0x28 ∧ token.getLast? = some 0x29 then
    .ok (true, trimBoundary token.tail.dropLast)
  else if 0x28 ∈ token ∨ 0x29 ∈ token then fail .invalidAmount claimId
  else .ok (false, token)

def stripMinus (claimId : JsString) (negative : Bool) (token : JsString) :
    Except ValueError (Bool × JsString) :=
  if token.head?.any isMinus then
    if negative then fail .invalidAmount claimId else .ok (true, trimBoundary token.tail)
  else if token.getLast? = some 0x2D then
    if negative then fail .invalidAmount claimId else .ok (true, trimBoundary token.dropLast)
  else .ok (negative, token)

/-- A currency symbol before or after an amount. -/
def stripSymbol (claimId token : JsString) : Except ValueError JsString :=
  if token.any isSign then fail .invalidAmount claimId
  else if token.head?.any isSymbol then
    if token.getLast?.any isSymbol then fail .invalidAmount claimId
    else .ok (trimBoundary token.tail)
  else if token.getLast?.any isSymbol then .ok (trimBoundary token.dropLast)
  else .ok token

/-- `separator ? text.split(separator) : [text]` -/
def splitBy (separator : Option UInt16) (text : JsString) : List JsString :=
  separator.elim [text] fun unit => split unit text

/-- The digits before and after the decimal separator. -/
def parseDigits (parsed : ParsedFormat) (claimId token : JsString) :
    Except ValueError (JsString × JsString) :=
  let decimalParts := splitBy parsed.decimal token
  let integerPart := decimalParts[0]?.getD []
  let fraction := decimalParts[1]?.getD []
  let groups := splitBy parsed.grouping integerPart
  let digits := groups.flatten
  if 2 < decimalParts.length then fail .invalidAmount claimId
  else if integerPart = [] ∨ decimalParts.length = 2 ∧ fraction = [] then
    fail .invalidAmount claimId
  else if ¬ groups.all isDigits ∨ 1 < groups.length ∧
      (3 < (groups[0]?.getD []).length ∨ groups.tail.any fun group => group.length ≠ 3) then
    fail .invalidAmount claimId
  else if digits = [] ∨ fraction ≠ [] ∧ ¬ isDigits fraction ∨
      100 < digits.length + fraction.length then
    fail .invalidAmount claimId
  else .ok (digits, fraction)

section
variable (selectedText : JsString) (parsed : ParsedFormat) (claimId : JsString)

/-- `parseAmount` from the check of the letters on (line 112). -/
def parsePlain : Except ValueError Int :=
  if selectedText.any isUnsupported then fail .unsupportedPresentation claimId
  else do
    let unwrapped ← stripParentheses claimId (trimBoundary selectedText)
    let unsigned ← stripMinus claimId unwrapped.1 unwrapped.2
    let token ← stripSymbol claimId unsigned.2
    let digits ← parseDigits parsed claimId token
    toCents claimId unsigned.1 (ofDecimal (digits.1 ++ digits.2) * parsed.amountScale * 100)
      (10 ^ digits.2.length)

/-- `parseAmount` (line 109). -/
def parseAmount (xlsxCanonical : Bool) : Except ValueError Int :=
  if 128 < selectedText.length then fail .limitExceeded claimId
  else if xlsxCanonical ∧ 0x65 ∈ selectedText then
    parseCanonicalExponent selectedText parsed claimId
  else parsePlain selectedText parsed claimId

end

/-! ## The grammar -/

/-- How an amount shows that it is negative. -/
inductive SignForm
  | none
  | leading (minus : UInt16) (gap : JsString)
  | trailing (gap : JsString)
  | parentheses (before after : JsString)
deriving DecidableEq, Repr

/-- Where the symbol of the currency stands. -/
inductive SymbolForm
  | none
  | before (symbol : UInt16) (gap : JsString)
  | after (gap : JsString) (symbol : UInt16)
deriving DecidableEq, Repr

def IsGap (text : JsString) : Prop := ∀ u ∈ text, isBoundarySpace u

def SignForm.wrap (text : JsString) : SignForm → JsString
  | .none => text
  | .leading minus gap => minus :: (gap ++ text)
  | .trailing gap => text ++ gap ++ [0x2D]
  | .parentheses before after => 0x28 :: (before ++ text ++ after ++ [0x29])

def SignForm.IsProper : SignForm → Prop
  | .none => True
  | .leading minus gap => isMinus minus ∧ IsGap gap
  | .trailing gap => IsGap gap
  | .parentheses before after => IsGap before ∧ IsGap after

def SymbolForm.wrap (text : JsString) : SymbolForm → JsString
  | .none => text
  | .before symbol gap => symbol :: (gap ++ text)
  | .after gap symbol => text ++ gap ++ [symbol]

def SymbolForm.IsProper : SymbolForm → Prop
  | .none => True
  | .before symbol gap => isSymbol symbol ∧ IsGap gap
  | .after gap symbol => isSymbol symbol ∧ IsGap gap

/-- An amount without exponent: its digits in groups, and how they are presented. -/
structure PlainAmount where
  before : JsString
  sign : SignForm
  symbol : SymbolForm
  groups : List JsString
  fraction : Option JsString
  after : JsString
deriving DecidableEq, Repr

namespace PlainAmount

variable (parsed : ParsedFormat) (amount : PlainAmount)

def integerText : JsString := join parsed.grouping.toList amount.groups

def number : JsString :=
  amount.integerText parsed ++ amount.fraction.elim [] fun digits => parsed.decimal.toList ++ digits

def text : JsString :=
  amount.before ++ amount.sign.wrap (amount.symbol.wrap (amount.number parsed)) ++ amount.after

/-- What the text stands for. -/
def value : ℚ :=
  (if amount.sign = .none then 1 else -1) *
    decimalValue amount.groups.flatten (amount.fraction.getD [])

/-- The amount is written in a format. Groups have three digits each, but the first one. -/
structure IsProper : Prop where
  before : IsGap amount.before
  after : IsGap amount.after
  sign : amount.sign.IsProper
  symbol : amount.symbol.IsProper
  groups_ne_nil : amount.groups ≠ []
  groups : ∀ group ∈ amount.groups, isDigits group
  ungrouped : parsed.grouping = none → amount.groups.length = 1
  first : 1 < amount.groups.length → ∀ group ∈ amount.groups.head?, group.length ≤ 3
  rest : ∀ group ∈ amount.groups.tail, group.length = 3
  fraction : ∀ digits ∈ amount.fraction, isDigits digits ∧ parsed.decimal ≠ none

/-- The digits that are shown. -/
def size : Nat := amount.groups.flatten.length + (amount.fraction.getD []).length

end PlainAmount

namespace ExponentAmount

variable (amount : ExponentAmount)

def text : JsString :=
  (if amount.negative then [0x2D] else []) ++ amount.lead ::
    ((if amount.fraction = [] then [] else 0x2E :: amount.fraction) ++
      0x65 :: (if amount.exponentNegative then 0x2D else 0x2B) :: amount.exponent)

/-- What the text stands for. -/
def value : ℚ :=
  (if amount.negative then -1 else 1) * decimalValue [amount.lead] amount.fraction *
    10 ^ amount.exponentValue

structure IsProper : Prop where
  lead : isDigit amount.lead
  fraction : ∀ u ∈ amount.fraction, isDigit u
  exponent : isDigits amount.exponent

end ExponentAmount

/-- A text of the grammar. -/
inductive Amount
  | plain (amount : PlainAmount)
  | exponent (amount : ExponentAmount)

namespace Amount

def text (parsed : ParsedFormat) : Amount → JsString
  | .plain amount => amount.text parsed
  | .exponent amount => amount.text

def value : Amount → ℚ
  | .plain amount => amount.value
  | .exponent amount => amount.value

/-- The amount is written in a format; exponents are for canonical cells of a spreadsheet. -/
def IsProper (parsed : ParsedFormat) (xlsxCanonical : Bool) : Amount → Prop
  | .plain amount => amount.IsProper parsed
  | .exponent amount => xlsxCanonical ∧ amount.IsProper

/-- The limits of the parser: a hundred digits, an exponent up to 400, and 128 code units. -/
def IsWithinLimits (parsed : ParsedFormat) (amount : Amount) : Prop :=
  (amount.text parsed).length ≤ 128 ∧
    match amount with
    | .plain amount => amount.size ≤ 100
    | .exponent amount => amount.exponentValue.natAbs ≤ 400

end Amount

/-- The text stands for a number of cents in the range. -/
def StandsFor (parsed : ParsedFormat) (amount : Amount) (cents : Int) : Prop :=
  (cents : ℚ) = amount.value * parsed.amountScale * 100 ∧ INT_MIN ≤ cents ∧ cents ≤ INT_MAX

/-! ## Renderings -/

/-- The number of decimal places that a cent has in the unit of a scale. -/
def centPlaces (amountScale : Nat) : Nat :=
  if amountScale = 1 then 2 else if amountScale = 100 then 4 else if amountScale = 1000 then 5
  else if amountScale = 1000000 then 8 else 11

/-- How cents are rendered: the form of a negative sign, the symbol, groups of three or none, and a
number of decimal places. -/
structure PlainStyle where
  before : JsString
  negative : SignForm
  symbol : SymbolForm
  grouped : Bool
  places : Nat
  after : JsString

/-- The cents in units of the last place that is shown. -/
def shownUnits (parsed : ParsedFormat) (places : Nat) (cents : Int) : Nat :=
  cents.natAbs * 10 ^ places / 10 ^ centPlaces parsed.amountScale

/-- Cents in a plain notation. -/
def renderPlain (parsed : ParsedFormat) (style : PlainStyle) (cents : Int) : PlainAmount where
  before := style.before
  sign := if cents < 0 then style.negative else .none
  symbol := style.symbol
  groups :=
    let integer := decimal (shownUnits parsed style.places cents / 10 ^ style.places)
    if style.grouped then thousands integer else [integer]
  fraction :=
    if style.places = 0 then none
    else some (fixedDigits style.places (shownUnits parsed style.places cents))
  after := style.after

/-- A style that the format has, and that shows the cents exactly. -/
structure PlainStyle.Accepts (parsed : ParsedFormat) (style : PlainStyle) (cents : Int) : Prop where
  before : IsGap style.before
  after : IsGap style.after
  negative : style.negative.IsProper ∧ style.negative ≠ .none
  symbol : style.symbol.IsProper
  grouped : style.grouped → parsed.grouping ≠ none
  fraction : style.places ≠ 0 → parsed.decimal ≠ none
  exact : 10 ^ centPlaces parsed.amountScale ∣ cents.natAbs * 10 ^ style.places
  places : style.places ≤ 80
  length : ((renderPlain parsed style cents).text parsed).length ≤ 128

/-- Cents in the notation with an exponent. -/
def renderExponent (parsed : ParsedFormat) (cents : Int) : ExponentAmount :=
  let digits := decimal cents.natAbs
  let exponent := (digits.tail.length : Int) - centPlaces parsed.amountScale
  ⟨decide (cents < 0), digits.headD 0x30, digits.tail, decide (exponent < 0),
    decimal exponent.natAbs⟩

/-! ## The purpose of the parser -/

/-- What the parser guarantees for a format. -/
structure ParsesExactly (parsed : ParsedFormat) : Prop where
  /-- What is accepted are the texts of the grammar within the limits that stand for whole cents in
  the range. -/
  exact : ∀ text claimId xlsxCanonical cents,
    parseAmount text parsed claimId xlsxCanonical = .ok cents ↔
      ∃ amount : Amount, amount.IsProper parsed xlsxCanonical ∧ amount.text parsed = text ∧
        amount.IsWithinLimits parsed ∧ StandsFor parsed amount cents
  /-- The two notations of a number are read alike, in any two formats of one scale. -/
  agree : ∀ (plain : PlainAmount) (exponent : ExponentAmount) (parsed' : ParsedFormat) claimId
    xlsxCanonical, plain.IsProper parsed → exponent.IsProper →
    parsed'.amountScale = parsed.amountScale → (Amount.plain plain).IsWithinLimits parsed →
    (Amount.exponent exponent).IsWithinLimits parsed' → plain.value = exponent.value →
    parseAmount (plain.text parsed) parsed claimId xlsxCanonical =
      parseAmount exponent.text parsed' claimId true
  /-- Rendered cents are read back. -/
  render : ∀ (cents : Int) (style : PlainStyle) claimId xlsxCanonical,
    INT_MIN ≤ cents → cents ≤ INT_MAX → style.Accepts parsed cents →
    parseAmount ((renderPlain parsed style cents).text parsed) parsed claimId xlsxCanonical =
      .ok cents
  /-- Cents rendered with an exponent are read back. -/
  renderExponent : ∀ (cents : Int) claimId, INT_MIN ≤ cents → cents ≤ INT_MAX →
    parseAmount (renderExponent parsed cents).text parsed claimId true = .ok cents

end Corgtex.Agents.FinanceReport
