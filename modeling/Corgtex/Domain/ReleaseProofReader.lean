import Corgtex.Domain.ReleaseLease
import Corgtex.Library.JsNumber
import Corgtex.Library.JsValue
import Mathlib.Data.List.Infix

/-!
# The reader of release proofs

`managed-release-proof-support.ts`: `createManagedReleaseProofReader` reads
values of unknown type. Each of its functions gives back the value that it was given, or fails with
the error that the reader's maker gave.

A record is an object without accessors, symbols or a prototype of its own; what is none of the
values of `JsValue`, such as a proxy, is `other` here. A reader takes no record twice, and in this
development each reader reads one record.
-/

namespace Corgtex.Domain.ReleaseProofReader

open JsString ReleaseLease

/-! ## Texts -/

/-- `safeText` (line 31): no control characters and no surrogate that stands alone. -/
def safeText (value : JsString) : Bool :=
  (value.all fun u => 0x20 ≤ u && !(0x7F ≤ u && u ≤ 0x9F)) && Utf8.isWellFormed value

/-- `safeAsciiScalar` (line 43). -/
def safeAsciiScalar (value : JsString) : Bool :=
  safeText value && value = value.trim && value.all fun u => 0x20 ≤ u && u ≤ 0x7E

def isLowerLetter (u : UInt16) : Bool := 0x61 ≤ u && u ≤ 0x7A

/-- `[a-z0-9]` -/
def isLowerAlphanumeric (u : UInt16) : Bool := isLowerLetter u || (0x30 ≤ u && u ≤ 0x39)

section
variable (value : JsString)

/-- `[a-z0-9-]*`, with no dash at the end. -/
def isDashed : Bool :=
  (value.all fun u => isLowerAlphanumeric u || u = 0x2D) && value.getLast?.any isLowerAlphanumeric

def hasDoubleDash : Bool := decide ([0x2D, 0x2D] <:+: value)

/-- `/^[0-9a-f]{8}-[0-9a-f]{4}-[0-9a-f]{4}-[0-9a-f]{4}-[0-9a-f]{12}$/` -/
def isUuidText : Bool :=
  let parts := value.split 0x2D
  parts.map List.length = [8, 4, 4, 4, 12] && parts.all (·.all isLowerHex)

/-- `/^sha256:[0-9a-f]{64}$/` -/
def isDigest : Bool :=
  value.take 7 = lit "sha256:" && (value.drop 7).length = 64 && (value.drop 7).all isLowerHex

end

section
variable {ε : Type} (invalid : ε)

/-- `fail` (line 30), where the condition does not hold. -/
def demand (condition : Bool) : Except ε Unit := if condition then .ok () else .error invalid

/-! ## Records -/

/-- The members of an object under some keys. -/
def snapshot (keys : List JsString) (members : List (JsString × JsValue)) (key : JsString) :
    JsValue :=
  if key ∈ keys then JsValue.get members key else .undefined

/-- `exactRecord` (line 74): a record with the keys and no others. -/
def exactRecord (value : JsValue) (keys : List JsString) : Except ε (JsString → JsValue) :=
  match value with
  | .object members => do
    demand invalid (members.length = keys.length &&
      keys.all fun key => (members.map Prod.fst).contains key)
    .ok (snapshot keys members)
  | _ => .error invalid

/-! ## Scalars -/

/-- `literal` (line 82), for a number. -/
def literalNumber (value : JsValue) (expected : Nat) : Except ε Unit :=
  match value with
  | .number n => demand invalid (JsNumber.isSafeInteger expected && n = expected)
  | _ => .error invalid

/-- `literal` (line 82), for a string. -/
def literalString (value : JsValue) (expected : JsString) : Except ε Unit :=
  match value with
  | .string s => demand invalid (s = expected && safeAsciiScalar s)
  | _ => .error invalid

/-- `enumString` (line 86): the one that has the string for a name. -/
def enumString {α : Type} (value : JsValue) (allowed : List α) (name : α → JsString) : Except ε α :=
  match value with
  | .string s =>
    match allowed.find? fun a => name a = s with
    | some a => do
      demand invalid (safeAsciiScalar s)
      .ok a
    | none => .error invalid
  | _ => .error invalid

section
variable (value : JsValue)

/-- `integer` (line 91). -/
def integer (min max : Nat) : Except ε Nat := do
  demand invalid (JsNumber.isSafeInteger min && JsNumber.isSafeInteger max && min ≤ max)
  match value with
  | .number n => do
    demand invalid (n.den = 1 && JsNumber.isSafeInteger n.num && (min : Int) ≤ n.num &&
      n.num ≤ (max : Int))
    .ok n.num.toNat
  | _ => .error invalid

/-- A string of some form: `pattern` (line 61) with the form. -/
def pattern (form : JsString → Bool) : Except ε JsString :=
  match value with
  | .string s => do
    demand invalid (form s)
    .ok s
  | _ => .error invalid

/-- `uuid` (line 155). -/
def uuid : Except ε JsString := pattern invalid value isUuidText

/-- `parseGitSha` (line 66). -/
def gitSha : Except ε JsString :=
  pattern invalid value fun s => s.length = 40 && s.all isLowerHex

/-- `digest` (line 161). -/
def digest : Except ε JsString := pattern invalid value isDigest

/-- `parseAppName` (line 68). -/
def azureAppName : Except ε JsString :=
  pattern invalid value fun s => 2 ≤ s.length && s.length ≤ 32 && s.head?.any isLowerLetter &&
    isDashed s && !hasDoubleDash s

end

/-- `parseContainerName` (line 73). -/
def isContainerName (max : Nat) (value : JsString) : Bool :=
  1 ≤ value.length && value.length ≤ max && value.head?.any isLowerAlphanumeric && isDashed value

/-- `azureRevision` (line 179), for an app name that was read. -/
def azureRevision (value : JsValue) (appName : JsString) : Except ε JsString :=
  let start := appName ++ [0x2D, 0x2D]
  pattern invalid value fun s => start.length < s.length && s.length ≤ start.length + 64 &&
    start.isPrefixOf s && isContainerName 64 (s.drop start.length) &&
    !hasDoubleDash (s.drop start.length)

end

/-! ## What was read -/

section
variable {ε : Type} {invalid : ε} {value : JsValue}

theorem demand_bind_ok {α : Type} {condition : Bool} {next : Unit → Except ε α}
    {result : α} : (demand invalid condition >>= next) = .ok result ↔
      condition = true ∧ next () = .ok result := by
  cases condition with
  | true => simp [demand, bind, Except.bind]
  | false => simp [demand, bind, Except.bind]

theorem demand_ok {condition : Bool} {u : Unit} (h : demand invalid condition = .ok u) :
    condition = true := by
  cases condition with
  | true => rfl
  | false => cases h

theorem exactRecord_ok {keys : List JsString} {raw : JsString → JsValue}
    (h : exactRecord invalid value keys = .ok raw) : ∃ members, raw = snapshot keys members := by
  unfold exactRecord at h
  split at h
  · next members =>
    obtain ⟨_, h⟩ := demand_bind_ok.1 h
    cases h
    exact ⟨members, rfl⟩
  · cases h

/-- A record whose members have the keys in their order. -/
theorem exactRecord_object {members : List (JsString × JsValue)} :
    exactRecord invalid (.object members) (members.map Prod.fst) =
      .ok (snapshot (members.map Prod.fst) members) := by
  refine demand_bind_ok.2 ⟨?_, rfl⟩
  rw [List.length_map, decide_eq_true rfl, Bool.true_and]
  exact List.all_eq_true.2 fun key hkey => List.contains_iff_mem.2 hkey

theorem snapshot_congr {keys : List JsString} {members members' : List (JsString × JsValue)}
    (h : ∀ key ∈ keys, snapshot keys members key = JsValue.get members' key) :
    snapshot keys members = snapshot keys members' := by
  funext key
  by_cases hkey : key ∈ keys
  · rw [h key hkey, snapshot, if_pos hkey]
  · rw [snapshot, snapshot, if_neg hkey, if_neg hkey]

theorem literalNumber_ok {expected : Nat} {u : Unit}
    (h : literalNumber invalid value expected = .ok u) : value = .number expected := by
  unfold literalNumber at h
  split at h
  · have hn := demand_ok h
    rw [Bool.and_eq_true, decide_eq_true_eq] at hn
    rw [hn.2]
  · cases h

theorem literalString_ok {expected : JsString} {u : Unit}
    (h : literalString invalid value expected = .ok u) : value = .string expected := by
  unfold literalString at h
  split at h
  · have hs := demand_ok h
    rw [Bool.and_eq_true, decide_eq_true_eq] at hs
    rw [hs.1]
  · cases h

theorem enumString_ok {α : Type} {allowed : List α} {name : α → JsString} {a : α}
    (h : enumString invalid value allowed name = .ok a) : value = .string (name a) := by
  unfold enumString at h
  split at h
  · split at h
    · next a' hfind =>
      obtain ⟨_, h⟩ := demand_bind_ok.1 h
      cases h
      have hname := List.find?_some hfind
      rw [decide_eq_true_eq] at hname
      rw [hname]
    · cases h
  · cases h

theorem integer_ok {min max n : Nat} (h : integer invalid value min max = .ok n) :
    value = .number n := by
  unfold integer at h
  obtain ⟨_, h⟩ := demand_bind_ok.1 h
  cases value with
  | number q =>
    obtain ⟨hread, h⟩ := demand_bind_ok.1 h
    cases h
    simp only [Bool.and_eq_true, decide_eq_true_eq] at hread
    obtain ⟨⟨⟨hden, _⟩, hmin⟩, _⟩ := hread
    have hnum : ((q.num.toNat : Nat) : Int) = q.num := Int.toNat_of_nonneg (by omega)
    have hq : q = (q.num.toNat : ℚ) := by
      rw [← Int.cast_natCast, hnum]
      exact ((Rat.den_eq_one_iff q).1 hden).symm
    exact congrArg JsValue.number hq
  | _ => cases h

variable {form : JsString → Bool} {s : JsString} (h : pattern invalid value form = .ok s)
include h

theorem pattern_ok : value = .string s := by
  unfold pattern at h
  split at h
  · obtain ⟨_, h⟩ := demand_bind_ok.1 h
    cases h
    rfl
  · cases h

theorem pattern_form : form s = true := by
  unfold pattern at h
  split at h
  · obtain ⟨hform, h⟩ := demand_bind_ok.1 h
    cases h
    exact hform
  · cases h

end

end Corgtex.Domain.ReleaseProofReader
