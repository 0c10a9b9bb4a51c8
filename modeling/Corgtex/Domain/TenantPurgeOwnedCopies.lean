import Corgtex.Domain.TenantPurgeOwned
import Corgtex.Library.Decides
import Mathlib.Data.List.Forall2

/-!
# Exact copies of owned values

`copyTenantPurgeOwnedCollection` (`tenant-purge-owned-collection-kernel.ts`) copies a value under a
schema, within a budget of slots, a limit on the depth and a set of the vectors it is in. What it
shall do is said without handles: a value has a `Content`, a tree, and a schema a `Contract`, which
contents conform to it, what they cost and what their copies are.
`copyTenantPurgeOwnedCollection_exact` says that the copies are exact.
-/

namespace Corgtex.Domain.TenantPurgeOwned

open HandleHeap JsNumber JsString
open TenantPurge (ScalarSpec)

/-! ## The copier -/

/-- `TenantPurgeOwnedCopy`: an array, of which an entry of a record, with its name and its value, is
one of two items. -/
inductive OwnedCopy
  | primitive (p : Primitive)
  | array (items : List OwnedCopy)

structure CopyContext where
  usedSlots : Nat
  active : List Value

/-- `MAXIMUM_SLOTS` (line 36). -/
def MAXIMUM_SLOTS : Nat := 100000

def remaining (context : CopyContext) : Nat := MAXIMUM_SLOTS - context.usedSlots

def reserve (context : CopyContext) (count : Nat) : Except Rejection CopyContext :=
  if count ≤ remaining context then
    .ok { context with usedSlots := context.usedSlots + count }
  else .error .invalid

def withVector (heap : Heap) (value : Value) (maximum : Nat) (context : CopyContext) :
    Except Rejection (List Value × CopyContext) :=
  if value ∈ context.active then .error .activeVector
  else do
    let input ← captureTenantPurgeOwnedVector heap value maximum
    .ok (input, { context with active := value :: context.active })

def releaseVector (value : Value) (context : CopyContext) : CopyContext :=
  { context with active := context.active.erase value }

/-- `copyScalar` (line 82): a date is a number of milliseconds and becomes its ISO text. -/
def copyScalar (value : Value) (spec : ScalarSpec) : Except Rejection OwnedCopy :=
  match value with
  | .primitive p =>
    match spec, p with
    | .dateIso, .number n =>
      if h : n.natAbs ≤ 8640000000000000 then
        .ok (.primitive (.string (JsDate.toISOString ⟨n, h⟩)))
      else .error .invalid
    | spec, p => if spec.accepts p.owned then .ok (.primitive p) else .error .invalid
  | _ => .error .invalid

/-- The bytes of a redaction key. -/
def copyBytes : List Value → Except Rejection (List OwnedCopy)
  | [] => .ok []
  | item :: input => do
    let copied ← copyScalar item (.integer 0 255)
    let output ← copyBytes input
    .ok (copied :: output)

/-- `copyRedaction` (line 91). -/
def copyRedaction (heap : Heap) (value : Value) (context : CopyContext) :
    Except Rejection (OwnedCopy × CopyContext) := do
  let limit := if remaining context < 64 then remaining context else 64
  let (input, context) ← withVector heap value limit context
  valid (32 ≤ input.length && input.length ≤ 64)
  let context ← reserve context input.length
  let bytes ← copyBytes input
  .ok (.array bytes, releaseVector value context)

/-- Whether a set has the value: two arrays are different objects. -/
def OwnedCopy.same : OwnedCopy → OwnedCopy → Bool
  | .primitive p, .primitive q => p = q
  | _, _ => false

/-- The items of an array, one after the other. -/
def copyItems (copy : Value → CopyContext → Except Rejection (OwnedCopy × CopyContext))
    (unique : Bool) : List Value → (seen : List OwnedCopy) → CopyContext →
    Except Rejection (List OwnedCopy × CopyContext)
  | [], _, context => .ok ([], context)
  | item :: input, seen, context => do
    let (copied, context) ← copy item context
    valid !(unique && seen.any copied.same)
    let (output, context) ← copyItems copy unique input (copied :: seen) context
    .ok (copied :: output, context)

/-- The names of a record's entries. -/
def checkNames (heap : Heap) : List CompiledField → List Value → Except Rejection Unit
  | field :: fields, item :: input => do
    let state ← entryState heap item
    valid (state.name = field.name)
    checkNames heap fields input
  | _, _ => .ok ()

/-- The fields of a record, one after the other. -/
def copyFields (heap : Heap)
    (copy : Value → CompiledSchema → CopyContext → Except Rejection (OwnedCopy × CopyContext)) :
    List CompiledField → List Value → CopyContext → Except Rejection (List OwnedCopy × CopyContext)
  | field :: fields, item :: input, context => do
    let state ← entryState heap item
    let child ← schemaState heap field.value
    let (copied, context) ← copy state.value child context
    let (output, context) ← copyFields heap copy fields input context
    .ok (.array [.primitive (.string field.name), copied] :: output, context)
  | _, _, context => .ok ([], context)

/-- `copyValue` (line 107), with `levels` for `33 - depth`. -/
def copyValue (heap : Heap) : (levels : Nat) → Value → CompiledSchema → CopyContext →
    Except Rejection (OwnedCopy × CopyContext)
  | 0, _, _, _ => .error .depthLimit
  | levels + 1, value, schema, context =>
    match schema.shape with
    | .scalar spec =>
      if spec = .redactionKey then copyRedaction heap value context
      else (copyScalar value spec).map (·, context)
    | .nullable child =>
      if value = .null then .ok (.primitive .null, context)
      else do
        let child ← schemaState heap child
        copyValue heap levels value child context
    | .array child maximumLength unique => do
      let child ← schemaState heap child
      let bound := if maximumLength < remaining context then maximumLength else remaining context
      let (input, context) ← withVector heap value bound context
      let context ← reserve context input.length
      let (output, context) ←
        copyItems (fun item => copyValue heap levels item child) unique input [] context
      .ok (.array output, releaseVector value context)
    | .record fields => do
      let context ← reserve context (fields.length * 3)
      let (input, context) ← withVector heap value fields.length context
      valid (input.length = fields.length)
      checkNames heap fields input
      let (output, context) ← copyFields heap (copyValue heap levels) fields input context
      .ok (.array output, releaseVector value context)

/-- `copyTenantPurgeOwnedCollection` (line 161). -/
def copyTenantPurgeOwnedCollection (heap : Heap) (value schema : Value) :
    Except Rejection OwnedCopy := do
  let compiled ← schemaState heap schema
  let (copied, _) ← copyValue heap 32 value compiled { usedSlots := 0, active := [] }
  .ok copied

/-! ## What a value holds -/

/-- What a value holds: its items and entries instead of its handles. -/
inductive Content
  | primitive (p : Primitive)
  | foreign
  | vector (items : List Content)
  | entry (name : JsString) (value : Content)

abbrev Content.null : Content := .primitive .null

def Content.items : Content → List Content
  | .vector items => items
  | _ => []

def Content.value : Content → Content
  | .entry _ value => value
  | content => content

/-- A vector with one more item. -/
def Content.push (content item : Content) : Content := .vector (content.items ++ [item])

def Value.content (f : Nat → Content) : Value → Content
  | .primitive p => .primitive p
  | .handle n => f n
  | _ => .foreign

def Cell.content (f : Nat → Content) : Cell → Content
  | .vector state =>
    if state.previous = .null then .vector []
    else (state.previous.content f).push (state.value.content f)
  | .entry state => .entry state.name (state.value.content f)
  | _ => .foreign

/-- What a value holds in a heap. -/
def content (heap : Heap) (value : Value) : Content :=
  value.content (interpret Cell.content .foreign heap)

/-! ## What a schema asks for -/

/-- Which contents conform to a schema, how many slots they cost, and their copies. -/
structure Contract where
  Conforms : Content → Prop
  cost : Content → Nat
  copy : Content → OwnedCopy

namespace Contract

/-- What conforms to no schema. -/
def none : Contract where
  Conforms _ := False
  cost _ := 0
  copy _ := .array []

/-- The primitive values within a scalar's bounds. -/
def admits : ScalarSpec → Primitive → Bool
  | .dateIso, .number n => n.natAbs ≤ 8640000000000000
  | spec, p => spec.accepts p.owned

def written : ScalarSpec → Primitive → Primitive
  | .dateIso, .number n =>
    if h : n.natAbs ≤ 8640000000000000 then .string (JsDate.toISOString ⟨n, h⟩) else .number n
  | _, p => p

/-- A scalar, but for redaction keys. -/
def scalar (spec : ScalarSpec) : Contract where
  Conforms content := ∃ p, content = .primitive p ∧ admits spec p
  cost _ := 0
  copy
    | .primitive p => .primitive (written spec p)
    | _ => .array []

/-- A redaction key: 32 to 64 bytes. -/
def redactionKey : Contract where
  Conforms content := ∃ items, content = .vector items ∧ 32 ≤ items.length ∧ items.length ≤ 64 ∧
    ∀ item ∈ items, (scalar (.integer 0 255)).Conforms item
  cost content := content.items.length
  copy content := .array (content.items.map (scalar (.integer 0 255)).copy)

/-- `null`, or what the schema asks for. -/
def nullable (child : Contract) : Contract where
  Conforms content := content = .null ∨ child.Conforms content
  cost
    | .primitive .null => 0
    | content => child.cost content
  copy
    | .primitive .null => .primitive .null
    | content => child.copy content

/-- An array within its maximum, without equal elements where it is `unique`. -/
def array (child : Contract) (maximumLength : Nat) (unique : Bool) : Contract where
  Conforms content := ∃ items, content = .vector items ∧ items.length ≤ maximumLength ∧
    (∀ item ∈ items, child.Conforms item) ∧ (unique → items.Nodup)
  cost content := content.items.length + (content.items.map child.cost).sum
  copy content := .array (content.items.map child.copy)

/-- A record: entries with exactly the declared names, in the declared order. -/
def record (fields : List (JsString × Contract)) : Contract where
  Conforms content := ∃ items, content = .vector items ∧
    List.Forall₂ (fun field item => ∃ value, item = .entry field.1 value ∧ field.2.Conforms value)
      fields items
  cost content := 3 * fields.length +
    (List.zipWith (fun field item => field.2.cost item.value) fields content.items).sum
  copy content := .array (List.zipWith
    (fun field item => .array [.primitive (.string field.1), field.2.copy item.value])
    fields content.items)

/-- A content that conforms, at a cost of at most all slots. -/
def Accepts (contract : Contract) (content : Content) : Prop :=
  contract.Conforms content ∧ contract.cost content ≤ MAXIMUM_SLOTS

end Contract

def Value.contract (f : Nat → Contract) : Value → Contract
  | .handle n => f n
  | _ => .none

def SchemaShape.contract (f : Nat → Contract) : SchemaShape → Contract
  | .scalar spec => if spec = .redactionKey then .redactionKey else .scalar spec
  | .nullable child => .nullable (child.contract f)
  | .array child maximumLength unique => .array (child.contract f) maximumLength unique
  | .record fields => .record (fields.map fun field => (field.name, field.value.contract f))

def Cell.contract (f : Nat → Contract) : Cell → Contract
  | .schema state => state.shape.contract f
  | _ => .none

/-- What a schema asks for in a heap. -/
def contract (heap : Heap) (schema : Value) : Contract :=
  schema.contract (interpret Cell.contract .none heap)

/-! ## Contents -/

section
variable {heap : Heap} {value : Value} {context : CopyContext}

theorem content_refs (cell : Cell) (f g : Nat → Content) (h : ∀ r ∈ cell.refs, f r = g r) :
    cell.content f = cell.content g := by
  have hvalue : ∀ value : Value, (∀ r ∈ value.refs, f r = g r) →
      value.content f = value.content g := by
    intro value hvalue
    cases value with
    | handle n => exact hvalue n (by simp [Value.refs])
    | undefined | foreign | primitive => rfl
  cases cell with
  | vector state =>
    simp only [Cell.refs, List.mem_append] at h
    simp only [Cell.content, hvalue _ fun r hr => h r (.inl hr), hvalue _ fun r hr => h r (.inr hr)]
  | entry state => simp only [Cell.content, hvalue _ h]
  | schema | field => rfl

theorem contract_refs (cell : Cell) (f g : Nat → Contract) (h : ∀ r ∈ cell.refs, f r = g r) :
    cell.contract f = cell.contract g := by
  have hvalue : ∀ value : Value, (∀ r ∈ value.refs, f r = g r) →
      value.contract f = value.contract g := by
    intro value hvalue
    cases value with
    | handle n => exact hvalue n (by simp [Value.refs])
    | undefined | foreign | primitive => rfl
  cases cell with
  | schema state =>
    obtain ⟨shape, depth, units, primitiveResult⟩ := state
    cases shape with
    | scalar spec => rfl
    | nullable child => simp only [Cell.contract, SchemaShape.contract, hvalue child h]
    | array child maximumLength unique =>
      simp only [Cell.contract, SchemaShape.contract, hvalue child h]
    | record fields =>
      have hfields : ∀ field ∈ fields, field.value.contract f = field.value.contract g :=
        fun field hfield => hvalue _ fun r hr => h r (List.mem_flatMap.2 ⟨field, hfield, hr⟩)
      simp only [Cell.contract, SchemaShape.contract]
      congr 1
      exact List.map_congr_left fun field hfield => by rw [hfields field hfield]
  | vector | entry | field => rfl

theorem content_handle (hheap : WellFormed heap) {n : Nat} {cell : Cell}
    (h : lookup heap n = some cell) :
    content heap (.handle n) = cell.content (interpret Cell.content .foreign heap) :=
  interpret_lookup content_refs hheap.backward h

/-- What a registered schema asks for. -/
theorem contract_eq (hheap : WellFormed heap) {state : CompiledSchema}
    (h : schemaState heap value = .ok state) :
    contract heap value = state.shape.contract (interpret Cell.contract .none heap) := by
  obtain ⟨n, rfl, hlookup⟩ := schemaState_ok.1 h
  exact interpret_lookup contract_refs hheap.backward hlookup

theorem content_unknown {n : Nat} (h : lookup heap n = none) :
    content heap (.handle n) = .foreign := by
  show interpret Cell.content .foreign heap n = .foreign
  induction heap with
  | nil => rfl
  | cons newest older ih =>
    rw [lookup] at h
    rw [interpret]
    split at h
    · cases h
    · next hlast => rw [if_neg hlast, ih h]

/-- **A vector's items**, oldest first: its content is theirs, and they were made before it. -/
structure Items (heap : Heap) (value : Value) (items : List Value) : Prop where
  content_eq : content heap value = .vector (items.map (content heap))
  older : ∀ item ∈ items, ∀ r ∈ item.refs, ∀ n ∈ value.refs, r < n

variable (hheap : WellFormed heap)
include hheap

/-- What is captured of a vector: the chain of its predecessors, read backwards. -/
theorem captureFrom_items {state : VectorState} (h : stateOf heap value = .ok state) :
    ∃ items, Items heap value items ∧ items.length = state.length ∧
      ∀ output, captureFrom heap state.maximumLength state.length state output =
        .ok (items ++ output) := by
  induction hlength : state.length generalizing value state with
  | zero =>
    obtain ⟨n, rfl, hlookup⟩ := stateOf_ok.1 h
    rcases hheap.sound _ _ hlookup with ⟨-, hprevious⟩ | ⟨previous, -, hsucc, -⟩
    · refine ⟨[], ⟨?_, by simp⟩, rfl, fun output => ?_⟩
      · rw [content_handle hheap hlookup, Cell.content, if_pos hprevious]
        rfl
      · simp [captureFrom, valid, hlength, hprevious, bind, Except.bind]
    · omega
  | succ length ih =>
    obtain ⟨n, rfl, hlookup⟩ := stateOf_ok.1 h
    rcases hheap.sound _ _ hlookup with ⟨hempty, -⟩ | ⟨previous, hprevious, hsucc, hmaximum⟩
    · omega
    · obtain ⟨items, hitems, hcount, hcapture⟩ := ih hprevious (by omega)
      obtain ⟨m, hm, -⟩ := stateOf_ok.1 hprevious
      have hne : state.previous ≠ .null := by simp [hm]
      have hlt : m < n := hheap.backward n _ hlookup m (by simp [Cell.refs, hm, Value.refs])
      refine ⟨items ++ [state.value], ⟨?_, ?_⟩, by simp [hcount], fun output => ?_⟩
      · have hpush : content heap (.handle n) =
            (content heap state.previous).push (content heap state.value) := by
          rw [content_handle hheap hlookup, Cell.content, if_neg hne]
          rfl
        rw [hpush, hitems.content_eq]
        simp [Content.push, Content.items]
      · intro item hitem r hr k hk
        simp only [Value.refs, List.mem_singleton] at hk
        rcases List.mem_append.1 hitem with hitem | hitem
        · have := hitems.older item hitem r hr m (by simp [hm, Value.refs])
          omega
        · simp only [List.mem_singleton] at hitem
          have := hheap.backward n _ hlookup r (by simp [Cell.refs, ← hitem, hr])
          omega
      · have hstep := hcapture (state.value :: output)
        rw [← hmaximum] at hstep
        simp [captureFrom, valid, hlength, hne, hprevious, hstep, bind, Except.bind]

/-- **A value is a vector with its items, or its content is none.** -/
theorem vector_or_not (value : Value) :
    (∃ items, Items heap value items ∧ ∀ maximum ≤ MAXIMUM_LENGTH,
      Decides (items.length ≤ maximum) .invalid items
        (captureTenantPurgeOwnedVector heap value maximum)) ∨
    ((∀ items, content heap value ≠ .vector items) ∧ ∀ maximum ≤ MAXIMUM_LENGTH,
      captureTenantPurgeOwnedVector heap value maximum = .error .invalid) := by
  have hmaximum : ∀ maximum ≤ MAXIMUM_LENGTH, validMaximum (maximum : Nat) = true := by
    intro maximum h
    unfold MAXIMUM_LENGTH at h
    simp [validMaximum, isSafeInteger, MAXIMUM_LENGTH]
    omega
  cases hstate : stateOf heap value with
  | ok state =>
    obtain ⟨items, hitems, hcount, hcapture⟩ := captureFrom_items hheap hstate
    refine .inl ⟨items, hitems, fun maximum hle => ?_⟩
    have hrun : captureTenantPurgeOwnedVector heap value maximum =
        if items.length ≤ maximum then .ok items else .error .invalid := by
      rw [captureTenantPurgeOwnedVector, hmaximum maximum hle, hstate, hcount]
      by_cases h : state.length ≤ maximum
      · simp [valid, h, hcapture, bind, Except.bind]
      · simp [valid, h, bind, Except.bind]
    rw [hrun]
    exact .ite items
  | error e =>
    cases stateIn_error hstate
    refine .inr ⟨fun items hitems => ?_, fun maximum hle => ?_⟩
    · cases value with
      | handle n =>
        cases hlookup : lookup heap n with
        | none => simp [content_unknown hlookup] at hitems
        | some cell =>
          rw [content_handle hheap hlookup] at hitems
          cases cell with
          | vector state =>
            have := stateOf_ok.2 ⟨n, rfl, hlookup⟩
            simp [hstate] at this
          | entry | schema | field => simp [Cell.content] at hitems
      | undefined | foreign | primitive => simp [content, Value.content] at hitems
    · rw [captureTenantPurgeOwnedVector, hmaximum maximum hle, hstate]
      rfl

theorem entry_iff {name : JsString} {held : Content} :
    content heap value = .entry name held ↔ ∃ state, entryState heap value = .ok state ∧
      state.name = name ∧ content heap state.value = held := by
  constructor
  · intro h
    cases value with
    | handle n =>
      cases hlookup : lookup heap n with
      | none => simp [content_unknown hlookup] at h
      | some cell =>
        rw [content_handle hheap hlookup] at h
        cases cell with
        | entry state =>
          simp only [Cell.content, Content.entry.injEq] at h
          exact ⟨state, entryState_ok.2 ⟨n, rfl, hlookup⟩, h⟩
        | vector state =>
          simp only [Cell.content, Content.push] at h
          split at h <;> cases h
        | schema | field => simp [Cell.content] at h
    | undefined | foreign | primitive => simp [content, Value.content] at h
  · rintro ⟨state, hstate, rfl, rfl⟩
    obtain ⟨n, rfl, hlookup⟩ := entryState_ok.1 hstate
    exact content_handle hheap hlookup

theorem primitive_iff {p : Primitive} :
    content heap value = .primitive p ↔ value = .primitive p := by
  constructor
  · intro h
    cases value with
    | handle n =>
      cases hlookup : lookup heap n with
      | none => simp [content_unknown hlookup] at h
      | some cell =>
        rw [content_handle hheap hlookup] at h
        cases cell with
        | vector state =>
          simp only [Cell.content, Content.push] at h
          split at h <;> cases h
        | entry | schema | field => simp [Cell.content] at h
    | primitive q =>
      cases h
      rfl
    | undefined | foreign => simp [content, Value.content] at h
  · rintro rfl
    rfl

end

/-! ## The budget and the active vectors -/

def CopyContext.spend (context : CopyContext) (count : Nat) : CopyContext :=
  { context with usedSlots := context.usedSlots + count }

/-- The context within a vector. -/
def CopyContext.enter (context : CopyContext) (value : Value) : CopyContext :=
  { context with active := value :: context.active }

/-- The budget is kept, and every vector that is being copied was made after what the value refers
to. -/
structure Ready (context : CopyContext) (value : Value) : Prop where
  usedSlots : context.usedSlots ≤ MAXIMUM_SLOTS
  newer : ∀ a ∈ context.active, ∃ n, a = .handle n ∧ ∀ r ∈ value.refs, r < n

/-- What a copy shall be: it succeeds exactly if the content conforms and the budget lasts. -/
def Exact (contract : Contract) (held : Content) (context : CopyContext)
    (copied : Except Rejection (OwnedCopy × CopyContext)) : Prop :=
  Decides (contract.Conforms held ∧ context.usedSlots + contract.cost held ≤ MAXIMUM_SLOTS) .invalid
    (contract.copy held, context.spend (contract.cost held)) copied

section
variable {heap : Heap} {value item : Value} {context : CopyContext} {items : List Value}

@[simp] theorem CopyContext.spend_usedSlots (count : Nat) :
    (context.spend count).usedSlots = context.usedSlots + count := rfl

@[simp] theorem CopyContext.enter_usedSlots (value : Value) :
    (context.enter value).usedSlots = context.usedSlots := rfl

@[simp] theorem CopyContext.spend_spend (count more : Nat) :
    (context.spend count).spend more = context.spend (count + more) := by
  simp [spend, Nat.add_assoc]

theorem CopyContext.release_enter (context : CopyContext) (value : Value) (count : Nat) :
    releaseVector value ((context.enter value).spend count) = context.spend count := by
  simp [releaseVector, enter, spend]

theorem valid_decides (condition : Bool) :
    Decides (condition = true) .invalid () (valid condition) :=
  .ite ()

theorem reserve_decides (context : CopyContext) (h : context.usedSlots ≤ MAXIMUM_SLOTS)
    (count : Nat) :
    Decides (context.usedSlots + count ≤ MAXIMUM_SLOTS) .invalid (context.spend count)
      (reserve context count) := by
  have hrun : Decides (count ≤ remaining context) .invalid (context.spend count)
      (reserve context count) := .ite _
  refine hrun.congr ?_
  unfold remaining
  omega

/-- **A value that is copied is not being copied already.** -/
theorem Ready.not_active (h : Ready context value) : value ∉ context.active := by
  intro hmem
  obtain ⟨n, rfl, hlt⟩ := h.newer value hmem
  have := hlt n (by simp [Value.refs])
  omega

theorem withVector_decides (h : Ready context value) {maximum : Nat}
    (hcapture : Decides (items.length ≤ maximum) .invalid items
      (captureTenantPurgeOwnedVector heap value maximum)) :
    Decides (items.length ≤ maximum) .invalid (items, context.enter value)
      (withVector heap value maximum context) := by
  rw [withVector, if_neg h.not_active]
  refine (hcapture.bind fun _ => Decides.pure (items, context.enter value)).congr ?_
  simp

theorem withVector_error (h : Ready context value) {maximum : Nat}
    (hcapture : captureTenantPurgeOwnedVector heap value maximum = .error .invalid) :
    withVector heap value maximum context = .error .invalid := by
  rw [withVector, if_neg h.not_active, hcapture]
  rfl

/-! ## Scalars -/

variable (hheap : WellFormed heap)
include hheap

theorem copyScalar_decides (value : Value) (spec : ScalarSpec) :
    Decides ((Contract.scalar spec).Conforms (content heap value)) .invalid
      ((Contract.scalar spec).copy (content heap value)) (copyScalar value spec) := by
  cases value with
  | primitive p =>
    have hconforms : (Contract.scalar spec).Conforms (content heap (.primitive p)) ↔
        Contract.admits spec p = true := by
      simp [Contract.scalar, content, Value.content]
    rw [hconforms]
    show Decides _ _ (OwnedCopy.primitive (Contract.written spec p)) _
    cases spec with
    | dateIso =>
      cases p with
      | number n =>
        by_cases h : n.natAbs ≤ 8640000000000000
        · simp [copyScalar, Contract.admits, Contract.written, h, Decides.pure]
        · simp [copyScalar, Contract.admits, h, Decides.throw]
      | null => exact Decides.ite (P := ScalarSpec.accepts .dateIso .null = true) _
      | boolean b => exact Decides.ite (P := ScalarSpec.accepts .dateIso (.boolean b) = true) _
      | string s => exact Decides.ite (P := ScalarSpec.accepts .dateIso (.string s) = true) _
    | null => exact Decides.ite (P := ScalarSpec.accepts .null p.owned = true) _
    | boolean => exact Decides.ite (P := ScalarSpec.accepts .boolean p.owned = true) _
    | uuid => exact Decides.ite (P := ScalarSpec.accepts .uuid p.owned = true) _
    | sha => exact Decides.ite (P := ScalarSpec.accepts .sha p.owned = true) _
    | redactionKey => exact Decides.ite (P := ScalarSpec.accepts .redactionKey p.owned = true) _
    | integer minimum maximum =>
      exact Decides.ite (P := ScalarSpec.accepts (.integer minimum maximum) p.owned = true) _
    | string maximumLength =>
      exact Decides.ite (P := ScalarSpec.accepts (.string maximumLength) p.owned = true) _
  | handle n =>
    refine Decides.throw ?_ _
    rintro ⟨p, hp, -⟩
    cases (primitive_iff hheap).1 hp
  | undefined | foreign =>
    refine Decides.throw ?_ _
    rintro ⟨p, hp, -⟩
    cases hp

theorem copyBytes_decides (items : List Value) :
    Decides (∀ held ∈ items.map (content heap), (Contract.scalar (.integer 0 255)).Conforms held)
      .invalid ((items.map (content heap)).map (Contract.scalar (.integer 0 255)).copy)
      (copyBytes items) := by
  induction items with
  | nil => exact (Decides.pure []).congr (by simp)
  | cons item items ih =>
    rw [List.map_cons, List.map_cons]
    refine ((copyScalar_decides hheap item (.integer 0 255)).bind fun _ => ih.last ?_).congr ?_
    · rfl
    · simp

theorem copyRedaction_exact (h : Ready context value) :
    Exact .redactionKey (content heap value) context (copyRedaction heap value context) := by
  have hlimit : (if remaining context < 64 then remaining context else 64) ≤ MAXIMUM_LENGTH := by
    unfold MAXIMUM_LENGTH
    split <;> omega
  rcases vector_or_not hheap value with ⟨items, hitems, hcapture⟩ | ⟨hnot, hcapture⟩
  · rw [Exact, hitems.content_eq]
    have hrelease := context.release_enter value items.length
    refine Decides.congr ((withVector_decides h (hcapture _ hlimit)).bind fun _ =>
      (valid_decides _).bind fun _ =>
        (reserve_decides (context.enter value) h.usedSlots items.length).bind fun _ =>
          (copyBytes_decides hheap items).last ?_) ?_
    · simp [hrelease, Contract.redactionKey, Content.items]
    · simp only [Contract.redactionKey, Content.vector.injEq, exists_eq_left', List.length_map,
        Content.items, Bool.and_eq_true, decide_eq_true_eq, CopyContext.enter_usedSlots]
      constructor
      · rintro ⟨-, hlength, hslots, hbytes⟩
        exact ⟨⟨hlength.1, hlength.2, hbytes⟩, hslots⟩
      · rintro ⟨⟨hmin, hmax, hbytes⟩, hslots⟩
        refine ⟨?_, ⟨hmin, hmax⟩, hslots, hbytes⟩
        unfold remaining
        split <;> omega
  · rw [Exact, copyRedaction, withVector_error h (hcapture _ hlimit)]
    refine Decides.throw ?_ _
    rintro ⟨⟨items, hitems, -⟩, -⟩
    exact hnot items hitems

end

/-! ## Schemas of primitive results -/

/-- Copies are primitive values, and differ where the contents do. -/
structure Contract.HasPrimitiveCopies (contract : Contract) : Prop where
  primitive : ∀ held, contract.Conforms held →
    ∃ p q, held = .primitive p ∧ contract.copy held = .primitive q ∧ (q = .null → p = .null)
  injective : ∀ held held', contract.Conforms held → contract.Conforms held' →
    contract.copy held = contract.copy held' → held = held'

namespace Contract

theorem written_injective {spec : ScalarSpec} {p q : Primitive} (hp : admits spec p)
    (hq : admits spec q) (h : written spec p = written spec q) : p = q := by
  cases spec with
  | dateIso =>
    cases p with
    | number n =>
      cases q with
      | number m =>
        have hn : n.natAbs ≤ 8640000000000000 := by simpa [admits] using hp
        have hm : m.natAbs ≤ 8640000000000000 := by simpa [admits] using hq
        simp only [written, dif_pos hn, dif_pos hm, Primitive.string.injEq] at h
        have hparse := congrArg JsDate.parseIso h
        simpa [JsDate.parseIso_toISOString] using hparse
      | null | boolean | string => simp [admits, ScalarSpec.accepts] at hq
    | null | boolean | string => simp [admits, ScalarSpec.accepts] at hp
  | null | boolean | uuid | sha | redactionKey | integer | string => exact h

theorem scalar_hasPrimitiveCopies (spec : ScalarSpec) : (scalar spec).HasPrimitiveCopies where
  primitive := by
    rintro held ⟨p, rfl, -⟩
    refine ⟨p, written spec p, rfl, rfl, fun h => ?_⟩
    unfold written at h
    split at h
    · split at h <;> cases h
    · exact h
  injective := by
    rintro held held' ⟨p, rfl, hp⟩ ⟨q, rfl, hq⟩ h
    rw [written_injective hp hq (by simpa [scalar] using h)]

variable {child : Contract} {held : Content}

theorem nullable_conforms (hne : held ≠ .null) :
    (nullable child).Conforms held ↔ child.Conforms held := by simp [nullable, hne]

theorem nullable_cost (hne : held ≠ .null) : (nullable child).cost held = child.cost held := by
  simp only [nullable]

theorem nullable_copy (hne : held ≠ .null) : (nullable child).copy held = child.copy held := by
  simp only [nullable]

theorem HasPrimitiveCopies.nullable (h : child.HasPrimitiveCopies) :
    (nullable child).HasPrimitiveCopies where
  primitive held hheld := by
    by_cases hnull : held = .null
    · exact ⟨.null, .null, hnull, by rw [hnull]; rfl, id⟩
    · rw [nullable_copy hnull]
      exact h.primitive held ((nullable_conforms hnull).1 hheld)
  injective held held' hheld hheld' hsame := by
    -- a copy is `null` for `null` only
    have hnull : ∀ other, other ≠ .null → (Contract.nullable child).Conforms other →
        (Contract.nullable child).copy other ≠ .primitive .null := by
      intro other hne hother hcopy
      obtain ⟨p, q, rfl, hq, himp⟩ := h.primitive other ((nullable_conforms hne).1 hother)
      rw [nullable_copy hne, hq] at hcopy
      cases hcopy
      exact hne (by rw [himp rfl])
    by_cases hne : held = .null
    · by_cases hne' : held' = .null
      · rw [hne, hne']
      · rw [hne] at hsame
        exact absurd hsame.symm (hnull held' hne' hheld')
    · by_cases hne' : held' = .null
      · rw [hne'] at hsame
        exact absurd hsame (hnull held hne hheld)
      · rw [nullable_copy hne, nullable_copy hne'] at hsame
        exact h.injective held held' ((nullable_conforms hne).1 hheld)
          ((nullable_conforms hne').1 hheld') hsame

/-- Whether a set of copies has one more. -/
theorem HasPrimitiveCopies.any_same (h : child.HasPrimitiveCopies) {seen : List Content}
    (hheld : child.Conforms held) (hseen : ∀ other ∈ seen, child.Conforms other) :
    (seen.map child.copy).any (child.copy held).same = true ↔ held ∈ seen := by
  rw [List.any_map, List.any_eq_true]
  obtain ⟨-, q, -, hq, -⟩ := h.primitive held hheld
  constructor
  · rintro ⟨other, hother, hsame⟩
    obtain ⟨-, q', -, hq', -⟩ := h.primitive other (hseen other hother)
    have heq : q = q' := by simpa [hq, hq', OwnedCopy.same] using hsame
    rwa [h.injective held other hheld (hseen other hother) (by rw [hq, hq', heq])]
  · intro hmem
    exact ⟨held, hmem, by simp [hq, OwnedCopy.same]⟩

end Contract

theorem contract_hasPrimitiveCopies {heap : Heap} (hheap : WellFormed heap) {schema : Value}
    {compiled : CompiledSchema} (h : schemaState heap schema = .ok compiled)
    (hprimitive : compiled.primitiveResult) : (contract heap schema).HasPrimitiveCopies := by
  obtain ⟨n, rfl, hlookup⟩ := schemaState_ok.1 h
  induction n using Nat.strongRecOn generalizing compiled with
  | ind n ih =>
    rw [contract_eq hheap h]
    obtain ⟨shape, depth, units, primitiveResult⟩ := compiled
    obtain ⟨-, -, hsound⟩ := hheap.sound n _ hlookup
    cases shape with
    | scalar spec =>
      rw [SchemaShape.contract, if_neg (hsound hprimitive)]
      exact Contract.scalar_hasPrimitiveCopies spec
    | nullable value =>
      obtain ⟨child, hchild, -, himp⟩ := hsound
      obtain ⟨m, rfl, hm⟩ := schemaState_ok.1 hchild
      have hlt : m < n :=
        hheap.backward n _ hlookup m (by simp [Cell.refs, SchemaShape.refs, Value.refs])
      exact (ih m hlt (himp hprimitive) hm hchild).nullable
    | array | record => exact absurd hprimitive hsound.1

/-! ## Arrays and records -/

section
variable {heap : Heap} {context : CopyContext} {active : List Value}

/-- **The items of an array are copied exactly**, with the contents `seen` before them. -/
theorem copyItems_decides {child : Contract} {unique : Bool}
    {copy : Value → CopyContext → Except Rejection (OwnedCopy × CopyContext)}
    (hunique : unique → child.HasPrimitiveCopies) {items : List Value} (seen : List Content)
    (hcopy : ∀ item ∈ items, ∀ context : CopyContext, context.active = active →
      context.usedSlots ≤ MAXIMUM_SLOTS →
      Exact child (content heap item) context (copy item context))
    (hseen : ∀ held ∈ seen, child.Conforms held) (hactive : context.active = active)
    (hslots : context.usedSlots ≤ MAXIMUM_SLOTS) :
    Decides ((∀ held ∈ items.map (content heap), child.Conforms held) ∧
        (unique → (items.map (content heap)).Nodup ∧
          ∀ held ∈ items.map (content heap), held ∉ seen) ∧
        context.usedSlots + ((items.map (content heap)).map child.cost).sum ≤ MAXIMUM_SLOTS)
      .invalid
      ((items.map (content heap)).map child.copy,
        context.spend ((items.map (content heap)).map child.cost).sum)
      (copyItems copy unique items (seen.map child.copy) context) := by
  induction items generalizing seen context with
  | nil => exact (Decides.pure _).congr (by simpa using hslots)
  | cons item items ih =>
    obtain ⟨hitem, hitems⟩ := List.forall_mem_cons.1 hcopy
    simp only [List.map_cons, List.sum_cons, ← Nat.add_assoc]
    rw [← CopyContext.spend_spend]
    have hnew : child.Conforms (content heap item) →
        Decides (unique → content heap item ∉ seen) .invalid ()
          (valid !(unique && (seen.map child.copy).any (child.copy (content heap item)).same)) := by
      intro hheld
      refine (valid_decides _).congr ?_
      cases unique with
      | false => simp
      | true =>
        have hany := (hunique rfl).any_same hheld hseen
        simpa using not_congr hany
    refine ((hitem context hactive hslots).bind fun hheld => (hnew hheld.1).bind fun _ =>
        (@ih (context.spend (child.cost (content heap item)))
          (content heap item :: seen) hitems ?_ hactive hheld.2).last ?_).congr ?_
    · exact List.forall_mem_cons.2 ⟨hheld.1, hseen⟩
    · rfl
    · simp only [List.nodup_cons, List.mem_cons, not_or, CopyContext.spend_usedSlots]
      grind

theorem content_value {item : Value} {name : JsString} {held : Content}
    (h : content heap item = .entry name held) : (content heap item).value = held := by
  rw [h]
  rfl

theorem checkNames_decides {fields : List CompiledField} {input : List Value}
    (hlength : input.length = fields.length) :
    Decides (List.Forall₂ (fun field item => ∃ state, entryState heap item = .ok state ∧
      state.name = field.name) fields input) .invalid () (checkNames heap fields input) := by
  induction fields generalizing input with
  | nil =>
    cases input with
    | nil => exact (Decides.pure ()).congr (by simp)
    | cons item input => simp at hlength
  | cons field fields ih =>
    cases input with
    | nil => simp at hlength
    | cons item input =>
      rw [checkNames, List.forall₂_cons]
      cases hstate : entryState heap item with
      | error e =>
        cases stateIn_error hstate
        exact Decides.throw (by simp) ()
      | ok state =>
        refine ((valid_decides (state.name = field.name)).bind fun _ =>
          ih (by simpa using hlength)).congr ?_
        simp

/-- **The fields of a record are copied exactly**, once their names are checked. -/
theorem copyFields_decides (hheap : WellFormed heap) {fields : List CompiledField}
    {copy : Value → CompiledSchema → CopyContext → Except Rejection (OwnedCopy × CopyContext)}
    {input : List Value}
    (hchild : ∀ field ∈ fields, ∃ child, schemaState heap field.value = .ok child)
    (hcopy : ∀ field ∈ fields, ∀ item ∈ input, ∀ state child, ∀ context : CopyContext,
      entryState heap item = .ok state → schemaState heap field.value = .ok child →
      context.active = active → context.usedSlots ≤ MAXIMUM_SLOTS →
      Exact (contract heap field.value) (content heap state.value) context
        (copy state.value child context))
    (hnames : List.Forall₂ (fun field item => ∃ state, entryState heap item = .ok state ∧
      state.name = field.name) fields input)
    (hactive : context.active = active) (hslots : context.usedSlots ≤ MAXIMUM_SLOTS) :
    Decides (List.Forall₂ (fun field item =>
          (contract heap field.value).Conforms (content heap item).value) fields input ∧
        context.usedSlots + (List.zipWith (fun field item =>
          (contract heap field.value).cost (content heap item).value) fields input).sum ≤
            MAXIMUM_SLOTS) .invalid
      (List.zipWith (fun field item => .array [.primitive (.string field.name),
          (contract heap field.value).copy (content heap item).value]) fields input,
        context.spend (List.zipWith (fun field item =>
          (contract heap field.value).cost (content heap item).value) fields input).sum)
      (copyFields heap copy fields input context) := by
  induction hnames generalizing context with
  | nil => exact (Decides.pure _).congr (by simpa using hslots)
  | @cons field item fields input hname _ ih =>
    obtain ⟨state, hstate, hname⟩ := hname
    obtain ⟨⟨child, hfield⟩, hfields⟩ := List.forall_mem_cons.1 hchild
    have hentry : content heap item = .entry state.name (content heap state.value) :=
      (entry_iff hheap).2 ⟨state, hstate, rfl, rfl⟩
    have hitem := hcopy field (.head _) item (.head _) state child context hstate hfield hactive
      hslots
    rw [copyFields, hstate, hfield, List.forall₂_cons, List.zipWith_cons_cons,
      List.zipWith_cons_cons, List.sum_cons, ← Nat.add_assoc, ← CopyContext.spend_spend,
      content_value hentry]
    refine (hitem.bind fun hheld => (@ih (context.spend _) hfields
      (fun field hmem item hmem' => hcopy field (.tail _ hmem) item (.tail _ hmem'))
      hactive hheld.2).last ?_).congr ?_
    · rfl
    · simp only [CopyContext.spend_usedSlots]
      grind

end

/-! ## Exact copies -/

section
variable {heap : Heap} {schema value : Value} {context : CopyContext} {items : List Value}

theorem Items.exists_handle (h : Items heap value items) : ∃ n, value = .handle n := by
  have hcontent := h.content_eq
  cases value with
  | handle n => exact ⟨n, rfl⟩
  | undefined | foreign | primitive => simp [content, Value.content] at hcontent

theorem Items.older_entry (hheap : WellFormed heap) (h : Items heap value items) {item : Value}
    (hitem : item ∈ items) {state : EntryState} (hstate : entryState heap item = .ok state) :
    ∀ r ∈ state.value.refs, ∀ n ∈ value.refs, r < n := by
  obtain ⟨m, rfl, hlookup⟩ := entryState_ok.1 hstate
  intro r hr n hn
  have hrm := hheap.backward m _ hlookup r hr
  have hmn := h.older _ hitem m (by simp [Value.refs]) n hn
  omega

/-- What was made before a vector can be copied within it. -/
theorem Ready.within (h : Ready context value) (hitems : Items heap value items)
    {context' : CopyContext} (hactive : context'.active = value :: context.active)
    (hslots : context'.usedSlots ≤ MAXIMUM_SLOTS) {other : Value}
    (hother : ∀ r ∈ other.refs, ∀ n ∈ value.refs, r < n) : Ready context' other where
  usedSlots := hslots
  newer a ha := by
    obtain ⟨n, rfl⟩ := hitems.exists_handle
    have hbelow : ∀ r ∈ other.refs, r < n := fun r hr => hother r hr n (by simp [Value.refs])
    rw [hactive] at ha
    rcases List.mem_cons.1 ha with rfl | ha
    · exact ⟨n, rfl, hbelow⟩
    · obtain ⟨m, rfl, hm⟩ := h.newer a ha
      have hlt := hm n (by simp [Value.refs])
      exact ⟨m, rfl, fun r hr => (hbelow r hr).trans hlt⟩

theorem Ready.spend (h : Ready context value) {count : Nat}
    (hcount : context.usedSlots + count ≤ MAXIMUM_SLOTS) : Ready (context.spend count) value :=
  ⟨hcount, h.newer⟩

theorem record_conforms_iff (hheap : WellFormed heap) (fields : List CompiledField) :
    (Contract.record (fields.map fun field => (field.name, contract heap field.value))).Conforms
        (.vector (items.map (content heap))) ↔
      List.Forall₂ (fun field item => ∃ state, entryState heap item = .ok state ∧
        state.name = field.name) fields items ∧
      List.Forall₂ (fun field item =>
        (contract heap field.value).Conforms (content heap item).value) fields items := by
  simp only [Contract.record, Content.vector.injEq, exists_eq_left', List.forall₂_map_left_iff,
    List.forall₂_map_right_iff]
  constructor
  · intro h
    refine ⟨h.imp ?_, h.imp ?_⟩
    · rintro field item ⟨held, hitem, -⟩
      obtain ⟨state, hstate, hname, -⟩ := (entry_iff hheap).1 hitem
      exact ⟨state, hstate, hname⟩
    · rintro field item ⟨held, hitem, hheld⟩
      rwa [content_value hitem]
  · rintro ⟨hnames, hvalues⟩
    refine hnames.mp ?_ hvalues
    rintro field item ⟨state, hstate, hname⟩ hheld
    have hitem := (entry_iff hheap).2 ⟨state, hstate, hname, rfl⟩
    rw [content_value hitem] at hheld
    exact ⟨_, hitem, hheld⟩

theorem copyArray_exact (hheap : WellFormed heap) (hready : Ready context value)
    {child : Value} {inner : CompiledSchema} (hinner : schemaState heap child = .ok inner)
    {maximumLength : Nat} {unique : Bool} (hunique : unique → inner.primitiveResult) {levels : Nat}
    (hcopy : ∀ {item : Value} {context : CopyContext}, Ready context item →
      Exact (contract heap child) (content heap item) context
        (copyValue heap levels item inner context))
    {depth units : Nat} {primitiveResult : Bool} :
    Exact (.array (contract heap child) maximumLength unique) (content heap value) context
      (copyValue heap (levels + 1) value
        ⟨.array child maximumLength unique, depth, units, primitiveResult⟩ context) := by
  have hbound : (if maximumLength < remaining context then maximumLength
      else remaining context) ≤ MAXIMUM_LENGTH := by
    unfold remaining MAXIMUM_SLOTS MAXIMUM_LENGTH
    split <;> omega
  simp only [copyValue, hinner]
  rcases vector_or_not hheap value with ⟨items, hitems, hcapture⟩ | ⟨hnot, hcapture⟩
  · rw [Exact, hitems.content_eq]
    refine Decides.congr ((withVector_decides hready (hcapture _ hbound)).bind fun _ =>
      (reserve_decides (context.enter value) hready.usedSlots items.length).bind
        fun hslots => (copyItems_decides
          (fun hset => contract_hasPrimitiveCopies hheap hinner (hunique hset)) []
          (fun item hitem context' hactive hslots =>
            hcopy (hready.within hitems hactive hslots (hitems.older item hitem)))
          (by simp) rfl hslots).last ?_) ?_
    · simp only [CopyContext.spend_spend, CopyContext.release_enter, Contract.array, Content.items,
        List.length_map]
    · simp only [Contract.array, Content.vector.injEq, exists_eq_left', List.length_map,
        Content.items, List.not_mem_nil, not_false_eq_true, implies_true, and_true,
        CopyContext.spend_usedSlots, CopyContext.enter_usedSlots, Nat.add_assoc]
      constructor
      · rintro ⟨hlength, -, hheld, hnodup, hslots⟩
        refine ⟨⟨?_, hheld, hnodup⟩, hslots⟩
        split at hlength <;> omega
      · rintro ⟨⟨hlength, hheld, hnodup⟩, hslots⟩
        refine ⟨?_, by omega, hheld, hnodup, hslots⟩
        unfold remaining
        split <;> omega
  · rw [withVector_error hready (hcapture _ hbound)]
    refine Decides.throw ?_ _
    rintro ⟨⟨items, hitems, -⟩, -⟩
    exact hnot items hitems

theorem maximum_of_slots {length : Nat} (h : context.usedSlots + length * 3 ≤ MAXIMUM_SLOTS) :
    length ≤ MAXIMUM_LENGTH := by
  unfold MAXIMUM_SLOTS at h
  unfold MAXIMUM_LENGTH
  omega

theorem copyRecord_exact (hheap : WellFormed heap) (hready : Ready context value)
    {fields : List CompiledField} {levels : Nat}
    (hchild : ∀ field ∈ fields, ∃ child, schemaState heap field.value = .ok child)
    (hcopy : ∀ field ∈ fields, ∀ {child : CompiledSchema} {item : Value} {context : CopyContext},
      schemaState heap field.value = .ok child → Ready context item →
      Exact (contract heap field.value) (content heap item) context
        (copyValue heap levels item child context))
    {depth units : Nat} {primitiveResult : Bool} :
    Exact (.record (fields.map fun field => (field.name, contract heap field.value)))
      (content heap value) context
      (copyValue heap (levels + 1) value ⟨.record fields, depth, units, primitiveResult⟩
        context) := by
  simp only [copyValue]
  rcases vector_or_not hheap value with ⟨items, hitems, hcapture⟩ | ⟨hnot, hcapture⟩
  · rw [Exact, hitems.content_eq]
    have hfields := reserve_decides context hready.usedSlots (fields.length * 3)
    refine Decides.congr (hfields.bind fun hslots =>
      (withVector_decides (hready.spend hslots) (hcapture _ ?_)).bind fun _ =>
        (valid_decides (items.length = fields.length)).bind fun hlength =>
          (checkNames_decides (of_decide_eq_true hlength)).bind fun hnames =>
            (copyFields_decides hheap hchild
              (fun field hfield item hitem state child context' hstate hschema hactive hslots' =>
                hcopy field hfield hschema ((hready.spend hslots).within hitems hactive hslots'
                  (hitems.older_entry hheap hitem hstate)))
              hnames rfl hslots).last ?_) ?_
    · exact maximum_of_slots hslots
    · rw [CopyContext.release_enter, CopyContext.spend_spend, Nat.mul_comm]
      simp only [Contract.record, Content.items, List.length_map, List.zipWith_map]
    · rw [record_conforms_iff hheap]
      simp only [Contract.record, Content.items, List.length_map, List.zipWith_map,
        CopyContext.spend_usedSlots, CopyContext.enter_usedSlots, decide_eq_true_eq]
      constructor
      · rintro ⟨-, -, -, hnames, hvalues, hslots⟩
        exact ⟨⟨hnames, hvalues⟩, by omega⟩
      · rintro ⟨⟨hnames, hvalues⟩, hslots⟩
        have hlength := hnames.length_eq
        exact ⟨by omega, by omega, hlength.symm, hnames, hvalues, by omega⟩
  · refine ((reserve_decides context hready.usedSlots (fields.length * 3)).bind fun hslots =>
      (?_ : Decides False _ _ _)).congr ?_
    · rw [withVector_error (hready.spend hslots) (hcapture _ ?_)]
      · exact Decides.throw id _
      · exact maximum_of_slots hslots
    · simp only [and_false, false_iff]
      rintro ⟨⟨items, hitems, -⟩, -⟩
      exact hnot items hitems

/-- **Copies are exact at every depth**: by induction on the levels that are left, of which a part
of a schema needs fewer. -/
theorem copyValue_exact (hheap : WellFormed heap) (levels : Nat) {compiled : CompiledSchema}
    (hschema : schemaState heap schema = .ok compiled) (hdepth : compiled.depth ≤ levels)
    (hready : Ready context value) :
    Exact (contract heap schema) (content heap value) context
      (copyValue heap levels value compiled context) := by
  induction levels generalizing schema value compiled context with
  | zero =>
    obtain ⟨n, rfl, hlookup⟩ := schemaState_ok.1 hschema
    have hpos := (hheap.sound n _ hlookup).1
    omega
  | succ levels ih =>
    obtain ⟨n, rfl, hlookup⟩ := schemaState_ok.1 hschema
    rw [contract_eq hheap hschema]
    obtain ⟨shape, depth, units, primitiveResult⟩ := compiled
    obtain ⟨-, -, hsound⟩ := hheap.sound n _ hlookup
    simp only at hdepth
    cases shape with
    | scalar spec =>
      by_cases hspec : spec = .redactionKey
      · simp only [copyValue, SchemaShape.contract, if_pos hspec]
        exact copyRedaction_exact hheap hready
      · simp only [copyValue, SchemaShape.contract, if_neg hspec]
        refine ((copyScalar_decides hheap value spec).map (·, context)).congr ?_
        have hslots := hready.usedSlots
        simp [Contract.scalar, hslots]
    | nullable child =>
      obtain ⟨inner, hinner, hlt, -⟩ := hsound
      by_cases hnull : value = .null
      · simp only [copyValue, hnull, if_true]
        refine (Decides.pure _).congr ?_
        have hslots := hready.usedSlots
        simp [SchemaShape.contract, Contract.nullable, content, Value.content, hslots]
      · have hne : content heap value ≠ .null := fun h => hnull ((primitive_iff hheap).1 h)
        simp only [copyValue, if_neg hnull, hinner, SchemaShape.contract]
        rw [Exact, Contract.nullable_cost hne, Contract.nullable_copy hne,
          Contract.nullable_conforms hne]
        exact ih hinner (by simp only at hlt; omega) hready
    | array child maximumLength unique =>
      obtain ⟨-, inner, hinner, hlt, hprimitive⟩ := hsound
      exact copyArray_exact hheap hready hinner hprimitive fun hitem =>
        ih hinner (by simp only at hlt; omega) hitem
    | record fields =>
      refine copyRecord_exact hheap hready (fun field hfield => ?_) fun field hfield => ?_
      · obtain ⟨child, hchild, -⟩ := hsound.2 field hfield
        exact ⟨child, hchild⟩
      · intro child item context hchild hitem
        obtain ⟨child', hchild', hlt, -⟩ := hsound.2 field hfield
        rw [hchild] at hchild'
        cases hchild'
        exact ih hchild (by simp only at hlt; omega) hitem

/-- **Owned copies are exact.** Of every value and every schema that exist in a reachable heap, the
copy succeeds exactly if what the value holds conforms to the schema and costs at most all slots;
then the copy has what the value holds. Where it fails, neither the limit on the depth nor the set
of active vectors has rejected the value. -/
theorem copyTenantPurgeOwnedCollection_exact (hheap : Reachable heap) {compiled : CompiledSchema}
    (hschema : schemaState heap schema = .ok compiled) (value : Value) :
    (∀ copied, copyTenantPurgeOwnedCollection heap value schema = .ok copied ↔
      (contract heap schema).Accepts (content heap value) ∧
        copied = (contract heap schema).copy (content heap value)) ∧
    ∀ e, copyTenantPurgeOwnedCollection heap value schema = .error e → e = .invalid := by
  obtain ⟨n, rfl, hlookup⟩ := schemaState_ok.1 hschema
  have hdepth := (hheap.wellFormed.sound n _ hlookup).2.1
  have hready : Ready { usedSlots := 0, active := [] } value := ⟨Nat.zero_le _, by simp⟩
  have hvalue := copyValue_exact hheap.wellFormed 32 hschema hdepth hready
  have hcopy : Decides ((contract heap (.handle n)).Accepts (content heap value)) .invalid
      ((contract heap (.handle n)).copy (content heap value))
      (copyTenantPurgeOwnedCollection heap value (.handle n)) := by
    rw [copyTenantPurgeOwnedCollection, hschema]
    refine (hvalue.last ?_).congr ?_
    · rfl
    · simp [Contract.Accepts]
  refine ⟨fun copied => ?_, fun e => hcopy.eq_error⟩
  rw [hcopy.eq_ok_iff, eq_comm (a := copied)]

/-- A heap with the schema of at most three different texts, and two vectors pushed on one. -/
def sampleHeap : Heap :=
  [.vector ⟨3, 2, .handle 3, .primitive (.string [0x63])⟩,
    .vector ⟨3, 2, .handle 3, .primitive (.string [0x62])⟩,
    .vector ⟨3, 1, .handle 2, .primitive (.string [0x61])⟩, .vector ⟨3, 0, .null, .undefined⟩,
    .schema ⟨.array (.handle 0) 3 true, 2, 2, false⟩, .schema ⟨.scalar (.string 9), 1, 1, true⟩]

theorem sampleHeap_reachable : Reachable sampleHeap := by
  have h₀ : Reachable _ := .call .empty (.schema .string (.primitive (.number 9)) .undefined
    .undefined) (by simp [Call.arguments, Value.Exists, Value.refs]) rfl
  have h₁ : Reachable _ := .call h₀ (.schema .array (.handle 0) (.primitive (.number 3))
    (.primitive (.boolean true))) (by simp [Call.arguments, Value.Exists, Value.refs]) rfl
  have h₂ : Reachable _ := .call h₁ (.vector (.primitive (.number 3)))
    (by simp [Call.arguments, Value.Exists, Value.refs]) rfl
  have h₃ : Reachable _ := .call h₂ (.push (.handle 2) (.primitive (.string [0x61])))
    (by simp [Call.arguments, Value.Exists, Value.refs]) rfl
  have h₄ : Reachable _ := .call h₃ (.push (.handle 3) (.primitive (.string [0x62])))
    (by simp [Call.arguments, Value.Exists, Value.refs]) rfl
  exact .call h₄ (.push (.handle 3) (.primitive (.string [0x63])))
    (by simp [Call.arguments, Value.Exists, Value.refs]) rfl

/-- Of the two vectors that share their beginning, each is copied with its own items. -/
theorem copyTenantPurgeOwnedCollection_exact_sample :
    (copyTenantPurgeOwnedCollection sampleHeap (.handle 5) (.handle 1) =
        .ok (.array [.primitive (.string [0x61]), .primitive (.string [0x63])]) ↔
      (contract sampleHeap (.handle 1)).Accepts (content sampleHeap (.handle 5)) ∧
        .array [.primitive (.string [0x61]), .primitive (.string [0x63])] =
          (contract sampleHeap (.handle 1)).copy (content sampleHeap (.handle 5))) ∧
    copyTenantPurgeOwnedCollection sampleHeap (.handle 5) (.handle 1) =
      .ok (.array [.primitive (.string [0x61]), .primitive (.string [0x63])]) :=
  ⟨(copyTenantPurgeOwnedCollection_exact sampleHeap_reachable rfl (.handle 5)).1 _, rfl⟩

end

end Corgtex.Domain.TenantPurgeOwned
