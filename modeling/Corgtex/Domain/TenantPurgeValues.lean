import Corgtex.Domain.Errors
import Corgtex.Library.JsDate
import Corgtex.Library.JsNumber

/-!
# Owned values of a tenant purge

`tenant-purge-value-scalar-kernel.ts`, `-owned-vector-kernel.ts`,
`-owned-schema-kernel.ts` and `-owned-collection-kernel.ts`: what a purge has read from the database
is passed on as values that nothing else can reach, and copied under a schema. The source guards
every access to an object (`observeTenantPurgeValue`, property descriptors, handles in weak maps);
the values here are immutable, so what is left of these guards is that a vector is not a record.

A copy that succeeds has the value itself, but for the dates, which it writes as text
(`copyValue_eq`).
-/

namespace Corgtex.Domain.TenantPurge

open JsString JsNumber

/-! ## Values -/

/-- A scalar, an owned vector, or an owned vector of named entries. -/
inductive OwnedValue
  | null
  | boolean (b : Bool)
  | number (n : Int)
  | string (s : JsString)
  | vector (items : List OwnedValue)
  | record (entries : List (String × OwnedValue))

/-- `invalidTenantPurgeValue` (`-observation-kernel.ts:45`). -/
def invalidError : AppError :=
  ⟨400, "TENANT_PURGE_CONTRACT_INVALID", "Invalid tenant purge contract input."⟩

/-- A check that throws `invalidTenantPurgeValue()`. -/
def valid (condition : Bool) : Except AppError Unit :=
  if condition then .ok () else .error invalidError

theorem valid_bind_ok {α : Type} {condition : Bool} {next : Unit → Except AppError α} {result : α} :
    (valid condition >>= next) = .ok result ↔ condition = true ∧ next () = .ok result := by
  cases condition with
  | true => exact ⟨fun h => ⟨rfl, h⟩, And.right⟩
  | false =>
    constructor
    · intro h
      cases h
    · intro h
      cases h.1

/-- `a === b` on values, of which two vectors or records are different objects. -/
def OwnedValue.strictEq : OwnedValue → OwnedValue → Bool
  | .null, .null => true
  | .boolean a, .boolean b => a = b
  | .number a, .number b => a = b
  | .string a, .string b => a = b
  | _, _ => false

/-- The longest owned vector (`-owned-vector-kernel.ts:25`). -/
def maximumLength : Nat := 100000

/-- `captureTenantPurgeOwnedVector` (`-owned-vector-kernel.ts:79`). -/
def captureTenantPurgeOwnedVector (value : OwnedValue) (maximum : Nat) :
    Except AppError (List OwnedValue) :=
  match value with
  | .vector items => do
    valid (maximum ≤ maximumLength && items.length ≤ maximum)
    .ok items
  | _ => .error invalidError

/-! ## Scalars -/

/-- `[0-9a-f]`. -/
def isLowerHex (u : UInt16) : Bool := (0x30 ≤ u && u ≤ 0x39) || (0x61 ≤ u && u ≤ 0x66)

/-- `UUID_PATTERN` (`-value-scalar-kernel.ts:45`), unit by unit. -/
def uuidPattern : List (UInt16 → Bool) :=
  let hyphen (u : UInt16) : Bool := u = 0x2D
  let version (u : UInt16) : Bool := 0x31 ≤ u && u ≤ 0x35
  let variant (u : UInt16) : Bool := u = 0x38 || u = 0x39 || u = 0x61 || u = 0x62
  List.replicate 8 isLowerHex ++ hyphen :: List.replicate 4 isLowerHex ++
    hyphen :: version :: List.replicate 3 isLowerHex ++
    hyphen :: variant :: List.replicate 3 isLowerHex ++ hyphen :: List.replicate 12 isLowerHex

def isUuid (s : JsString) : Bool :=
  s.length = 36 && (uuidPattern.zipWith (fun test u => test u) s).all id

/-- `SHA_PATTERN` (`-value-scalar-kernel.ts:46`). -/
def isSha (s : JsString) : Bool := s.length = 40 && s.all isLowerHex

/-- `TenantPurgeScalarSpec`. -/
inductive ScalarSpec
  | null | boolean | uuid | sha | dateIso | redactionKey
  | integer (minimum maximum : Int)
  | string (maximumLength : Nat)
deriving DecidableEq

/-- The values of primitive type that `copyTenantPurgeScalar` accepts
(`-value-scalar-kernel.ts:157`). -/
def ScalarSpec.accepts : ScalarSpec → OwnedValue → Bool
  | .null, .null => true
  | .boolean, .boolean _ => true
  | .integer minimum maximum, .number n => isSafeInteger n && minimum ≤ n && n ≤ maximum
  | .string maximumLength, .string s => s.length ≤ maximumLength
  | .uuid, .string s => isUuid s
  | .sha, .string s => isSha s
  | _, _ => false

/-- `copyTenantPurgeScalar` on them. -/
def copyTenantPurgeScalar (value : OwnedValue) (spec : ScalarSpec) : Except AppError OwnedValue :=
  if spec.accepts value then .ok value else .error invalidError

/-! ## Schemas -/

mutual
/-- `TenantPurgeOwnedSchema`. -/
inductive Schema
  | scalar (spec : ScalarSpec)
  | nullable (value : Schema)
  | array (value : Schema) (maximumLength : Nat) (unique : Bool)
  | record (fields : SchemaFields)

/-- The fields of a record, in order. -/
inductive SchemaFields
  | nil
  | cons (name : String) (value : Schema) (rest : SchemaFields)
end

def SchemaFields.ofList : List (String × Schema) → SchemaFields
  | [] => .nil
  | (name, value) :: fields => .cons name value (ofList fields)

def SchemaFields.names : SchemaFields → List String
  | .nil => []
  | .cons name _ rest => name :: rest.names

/-! ## Copies -/

/-- The slots of one copy (`-owned-collection-kernel.ts:33`). -/
def maximumSlots : Nat := 100000

def remaining (usedSlots : Nat) : Nat := maximumSlots - usedSlots

def reserve (usedSlots count : Nat) : Except AppError Nat :=
  if count ≤ remaining usedSlots then .ok (usedSlots + count) else .error invalidError

/-- `copyScalar` (`-owned-collection-kernel.ts:82`): a date is a number of milliseconds
and becomes its ISO text. -/
def copyScalar (value : OwnedValue) (spec : ScalarSpec) : Except AppError OwnedValue :=
  match spec, value with
  | .dateIso, .number n =>
    if h : n.natAbs ≤ 8640000000000000 then .ok (.string (JsDate.toISOString ⟨n, h⟩))
    else .error invalidError
  | spec, value => copyTenantPurgeScalar value spec

/-- `copyRedaction` (`-owned-collection-kernel.ts:91`). -/
def copyRedaction (value : OwnedValue) (usedSlots : Nat) : Except AppError (OwnedValue × Nat) := do
  let input ← captureTenantPurgeOwnedVector value (min (remaining usedSlots) 64)
  valid (32 ≤ input.length && input.length ≤ 64)
  let usedSlots ← reserve usedSlots input.length
  valid (input.all (ScalarSpec.integer 0 255).accepts)
  .ok (.vector input, usedSlots)

/-- The items of an array, one after the other, none twice where they are `unique`. -/
def copyItems (copy : OwnedValue → Nat → Except AppError (OwnedValue × Nat)) (unique : Bool) :
    List OwnedValue → List OwnedValue → Nat → Except AppError (List OwnedValue × Nat)
  | [], _, usedSlots => .ok ([], usedSlots)
  | item :: items, seen, usedSlots => do
    let (copied, usedSlots) ← copy item usedSlots
    valid !(unique && seen.any copied.strictEq)
    let (rest, usedSlots) ← copyItems copy unique items (copied :: seen) usedSlots
    .ok (copied :: rest, usedSlots)

mutual
/-- `copyValue` (`-owned-collection-kernel.ts:107`). -/
def copyValue : Schema → (depth : Nat) → OwnedValue → (usedSlots : Nat) →
    Except AppError (OwnedValue × Nat)
  | .scalar spec, depth, value, usedSlots => do
    valid (depth ≤ 32)
    if spec = .redactionKey then copyRedaction value usedSlots
    else (copyScalar value spec).map (·, usedSlots)
  | .nullable child, depth, value, usedSlots => do
    valid (depth ≤ 32)
    match value with
    | .null => .ok (.null, usedSlots)
    | value => copyValue child (depth + 1) value usedSlots
  | .array child maximumLength unique, depth, value, usedSlots => do
    valid (depth ≤ 32)
    let input ← captureTenantPurgeOwnedVector value (min maximumLength (remaining usedSlots))
    let usedSlots ← reserve usedSlots input.length
    let (output, usedSlots) ← copyItems (copyValue child (depth + 1)) unique input [] usedSlots
    .ok (.vector output, usedSlots)
  | .record fields, depth, value, usedSlots => do
    valid (depth ≤ 32)
    let usedSlots ← reserve usedSlots (fields.names.length * 3)
    match value with
    | .record input => do
      valid (input.map Prod.fst = fields.names)
      let (output, usedSlots) ← copyFields fields depth input usedSlots
      .ok (.record output, usedSlots)
    | _ => .error invalidError

/-- The fields of a record, one after the other. -/
def copyFields : SchemaFields → (depth : Nat) → List (String × OwnedValue) → (usedSlots : Nat) →
    Except AppError (List (String × OwnedValue) × Nat)
  | .cons name child rest, depth, (_, value) :: entries, usedSlots => do
    let (copied, usedSlots) ← copyValue child (depth + 1) value usedSlots
    let (output, usedSlots) ← copyFields rest depth entries usedSlots
    .ok ((name, copied) :: output, usedSlots)
  | _, _, _, usedSlots => .ok ([], usedSlots)
end

/-- `copyTenantPurgeOwnedCollection` (`-owned-collection-kernel.ts:161`). -/
def copyTenantPurgeOwnedCollection (value : OwnedValue) (schema : Schema) :
    Except AppError OwnedValue := do
  let (copied, _) ← copyValue schema 1 value 0
  .ok copied

/-! ## What a copy has -/

mutual
def Schema.dateFree : Schema → Bool
  | .scalar spec => spec ≠ .dateIso
  | .nullable child | .array child _ _ => child.dateFree
  | .record fields => fields.dateFree

def SchemaFields.dateFree : SchemaFields → Bool
  | .nil => true
  | .cons _ child rest => child.dateFree && rest.dateFree
end

theorem captureTenantPurgeOwnedVector_ok {value : OwnedValue} {maximum : Nat}
    {items : List OwnedValue} (h : captureTenantPurgeOwnedVector value maximum = .ok items) :
    value = .vector items := by
  cases value with
  | vector items' =>
    obtain ⟨_, h⟩ := valid_bind_ok.1 h
    cases h
    rfl
  | null | boolean | number | string | record => cases h

theorem copyScalar_ok {value copied : OwnedValue} {spec : ScalarSpec} (hspec : spec ≠ .dateIso)
    (h : copyScalar value spec = .ok copied) : copied = value := by
  unfold copyScalar at h
  split at h
  · exact absurd rfl hspec
  · unfold copyTenantPurgeScalar at h
    split at h
    · cases h
      rfl
    · cases h

theorem copyRedaction_ok {value copied : OwnedValue} {usedSlots usedSlots' : Nat}
    (h : copyRedaction value usedSlots = .ok (copied, usedSlots')) : copied = value := by
  obtain ⟨input, hinput, h⟩ := bind_ok.1 h
  obtain ⟨_, h⟩ := valid_bind_ok.1 h
  obtain ⟨_, _, h⟩ := bind_ok.1 h
  obtain ⟨_, h⟩ := valid_bind_ok.1 h
  cases h
  exact (captureTenantPurgeOwnedVector_ok hinput).symm

theorem copyItems_ok {copy : OwnedValue → Nat → Except AppError (OwnedValue × Nat)} {unique : Bool}
    (hcopy : ∀ value usedSlots copied usedSlots', copy value usedSlots = .ok (copied, usedSlots') →
      copied = value) {items seen output : List OwnedValue} {usedSlots usedSlots' : Nat}
    (h : copyItems copy unique items seen usedSlots = .ok (output, usedSlots')) :
    output = items := by
  induction items generalizing seen usedSlots output with
  | nil =>
    cases h
    rfl
  | cons item items ih =>
    obtain ⟨⟨copied, usedSlots₁⟩, hitem, h⟩ := bind_ok.1 h
    obtain ⟨_, h⟩ := valid_bind_ok.1 h
    obtain ⟨⟨rest, usedSlots₂⟩, hrest, h⟩ := bind_ok.1 h
    cases h
    rw [hcopy _ _ _ _ hitem, ih hrest]

mutual
/-- **A copy without dates is the value itself.** -/
theorem copyValue_eq : (schema : Schema) → schema.dateFree →
    ∀ {depth usedSlots usedSlots' : Nat} {value copied : OwnedValue},
      copyValue schema depth value usedSlots = .ok (copied, usedSlots') → copied = value
  | .scalar spec, hfree, depth, usedSlots, usedSlots', value, copied, h => by
    rw [copyValue] at h
    obtain ⟨_, h⟩ := valid_bind_ok.1 h
    split at h
    · exact copyRedaction_ok h
    · cases hcopy : copyScalar value spec with
      | error e =>
        rw [hcopy] at h
        cases h
      | ok result =>
        rw [hcopy] at h
        cases h
        exact copyScalar_ok (of_decide_eq_true hfree) hcopy
  | .nullable child, hfree, depth, usedSlots, usedSlots', value, copied, h => by
    unfold copyValue at h
    obtain ⟨_, h⟩ := valid_bind_ok.1 h
    split at h
    · cases h
      rfl
    · exact copyValue_eq child hfree h
  | .array child maximumLength unique, hfree, depth, usedSlots, usedSlots', value, copied, h => by
    rw [copyValue] at h
    obtain ⟨_, h⟩ := valid_bind_ok.1 h
    obtain ⟨input, hinput, h⟩ := bind_ok.1 h
    obtain ⟨_, _, h⟩ := bind_ok.1 h
    obtain ⟨⟨output, _⟩, hitems, h⟩ := bind_ok.1 h
    cases h
    rw [captureTenantPurgeOwnedVector_ok hinput,
      copyItems_ok (fun _ _ _ _ h => copyValue_eq child hfree h) hitems]
  | .record fields, hfree, depth, usedSlots, usedSlots', value, copied, h => by
    rw [copyValue] at h
    obtain ⟨_, h⟩ := valid_bind_ok.1 h
    obtain ⟨_, _, h⟩ := bind_ok.1 h
    split at h
    · next input =>
      obtain ⟨hnames, h⟩ := valid_bind_ok.1 h
      obtain ⟨⟨output, _⟩, hfields, h⟩ := bind_ok.1 h
      cases h
      rw [copyFields_eq fields hfree (of_decide_eq_true hnames) hfields]
    · cases h

theorem copyFields_eq : (fields : SchemaFields) → fields.dateFree →
    ∀ {depth usedSlots usedSlots' : Nat} {input output : List (String × OwnedValue)},
      input.map Prod.fst = fields.names →
      copyFields fields depth input usedSlots = .ok (output, usedSlots') → output = input
  | .nil, _, depth, usedSlots, usedSlots', input, output, hnames, h => by
    cases input with
    | nil =>
      cases h
      rfl
    | cons entry input => cases hnames
  | .cons name child rest, hfree, depth, usedSlots, usedSlots', input, output, hnames, h => by
    cases input with
    | nil => cases hnames
    | cons entry input =>
      obtain ⟨hchild, hrest⟩ := (Bool.and_eq_true _ _).mp hfree
      obtain ⟨hname, hnames⟩ := List.cons.inj hnames
      rw [copyFields] at h
      obtain ⟨⟨copied, _⟩, hcopy, h⟩ := bind_ok.1 h
      obtain ⟨⟨output', _⟩, houtput, h⟩ := bind_ok.1 h
      cases h
      rw [copyValue_eq child hchild hcopy, copyFields_eq rest hrest hnames houtput, ← hname]
end

end Corgtex.Domain.TenantPurge
