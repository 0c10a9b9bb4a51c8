import Corgtex.Domain.TenantPurgeValues
import Corgtex.Library.HandleHeap

/-!
# Owned vectors, entries, schemas and fields

`tenant-purge-owned-vector-kernel.ts`, `-owned-schema-kernel.ts` and the entries of
`-owned-collection-kernel.ts`: a vector, an entry, a schema or a field is a frozen object without
properties, whose state is in a weak map. Such a handle is a number here and the weak maps are one
heap (`HandleHeap`). A state never changes: pushing makes a new handle that remembers the vector it
was pushed on, so that several vectors may share a beginning.

`Reachable.wellFormed` is what every heap has that calls of these functions make.
-/

namespace Corgtex.Domain.TenantPurgeOwned

open HandleHeap JsNumber JsString
open TenantPurge (OwnedValue ScalarSpec)

/-! ## Values -/

/-- A value of primitive type that some scalar accepts. `-0` is `0`, as for `===` and for sets. -/
inductive Primitive
  | null
  | boolean (b : Bool)
  | number (n : Int)
  | string (s : JsString)
deriving DecidableEq

/-- What the scalars' checks see of it. -/
def Primitive.owned : Primitive → OwnedValue
  | .null => .null
  | .boolean b => .boolean b
  | .number n => .number n
  | .string s => .string s

/-- A value that a caller may hold. `foreign` is any object without a state and any primitive value
that nothing accepts, such as a fraction. -/
inductive Value
  | undefined
  | foreign
  | primitive (p : Primitive)
  | handle (n : Nat)
deriving DecidableEq

abbrev Value.null : Value := .primitive .null

def Value.refs : Value → List Nat
  | .handle n => [n]
  | _ => []

/-- Why a call fails. All three are thrown as the same error, `invalidTenantPurgeValue()`; they are
told apart to see which of the checks fails. -/
inductive Rejection
  | invalid | depthLimit | activeVector
deriving DecidableEq

/-- A check that throws `invalid()`. -/
def valid (condition : Bool) : Except Rejection Unit :=
  if condition then .ok () else .error .invalid

/-! ## States -/

/-- `VectorState` (`-owned-vector-kernel.ts:8`). -/
structure VectorState where
  maximumLength : Nat
  length : Nat
  previous : Value
  value : Value

/-- `EntryState` (`-owned-collection-kernel.ts:13`). -/
structure EntryState where
  name : JsString
  value : Value

/-- `TenantPurgeOwnedCompiledField`. -/
structure CompiledField where
  name : JsString
  value : Value

/-- What a `TenantPurgeOwnedCompiledSchema` has besides its bounds. -/
inductive SchemaShape
  | scalar (value : ScalarSpec)
  | nullable (value : Value)
  | array (value : Value) (maximumLength : Nat) (unique : Bool)
  | record (fields : List CompiledField)

/-- `TenantPurgeOwnedCompiledSchema` (`-owned-schema-kernel.ts:10`). -/
structure CompiledSchema where
  shape : SchemaShape
  depth : Nat
  units : Nat
  primitiveResult : Bool

/-- A state in one of the weak maps `STATES`, `ENTRIES`, `SCHEMAS` and `FIELDS`. -/
inductive Cell
  | vector (state : VectorState)
  | entry (state : EntryState)
  | schema (state : CompiledSchema)
  | field (state : CompiledField)

abbrev Heap := List Cell

def SchemaShape.refs : SchemaShape → List Nat
  | .scalar _ => []
  | .nullable value | .array value _ _ => value.refs
  | .record fields => fields.flatMap fun field => field.value.refs

/-- The handles in a state. -/
def Cell.refs : Cell → List Nat
  | .vector state => state.previous.refs ++ state.value.refs
  | .entry state => state.value.refs
  | .schema state => state.shape.refs
  | .field state => state.value.refs

def Cell.vector? : Cell → Option VectorState
  | .vector state => some state
  | _ => none

def Cell.entry? : Cell → Option EntryState
  | .entry state => some state
  | _ => none

def Cell.schema? : Cell → Option CompiledSchema
  | .schema state => some state
  | _ => none

def Cell.field? : Cell → Option CompiledField
  | .field state => some state
  | _ => none

/-- The state of a value in one of the weak maps, `?? invalid()`. -/
def stateIn {σ : Type} (map : Cell → Option σ) (heap : Heap) : Value → Except Rejection σ
  | .handle n =>
    match (lookup heap n).bind map with
    | some state => .ok state
    | none => .error .invalid
  | _ => .error .invalid

/-- `stateOf` (`-owned-vector-kernel.ts:38`). -/
def stateOf (heap : Heap) (vector : Value) : Except Rejection VectorState :=
  stateIn Cell.vector? heap vector

/-- `entryState` (`-owned-collection-kernel.ts:53`). -/
def entryState (heap : Heap) (value : Value) : Except Rejection EntryState :=
  stateIn Cell.entry? heap value

/-- `schemaState` (`-owned-schema-kernel.ts:39`). -/
def schemaState (heap : Heap) (value : Value) : Except Rejection CompiledSchema :=
  stateIn Cell.schema? heap value

/-- `fieldState` (`-owned-schema-kernel.ts:43`). -/
def fieldState (heap : Heap) (value : Value) : Except Rejection CompiledField :=
  stateIn Cell.field? heap value

/-- `register` and `registerSchema`: a new handle, and its state. -/
def register (heap : Heap) (cell : Cell) : Value × Heap := (.handle heap.length, cell :: heap)

/-! ## Vectors and entries -/

/-- `MAXIMUM_LENGTH` (`-owned-vector-kernel.ts:25`). -/
def MAXIMUM_LENGTH : Nat := 100000

/-- `validMaximum` (`-owned-vector-kernel.ts:32`). -/
def validMaximum (maximumLength : Int) : Bool :=
  isSafeInteger maximumLength && 0 ≤ maximumLength && maximumLength ≤ MAXIMUM_LENGTH

/-- `createTenantPurgeOwnedVector` (`-owned-vector-kernel.ts:58`). -/
def createTenantPurgeOwnedVector (heap : Heap) (maximumLength : Value) :
    Except Rejection (Value × Heap) :=
  match maximumLength with
  | .primitive (.number n) => do
    valid (validMaximum n)
    .ok (register heap (.vector
      { maximumLength := n.toNat, length := 0, previous := .null, value := .undefined }))
  | _ => .error .invalid

/-- `pushTenantPurgeOwnedVector` (`-owned-vector-kernel.ts:65`). -/
def pushTenantPurgeOwnedVector (heap : Heap) (vector value : Value) :
    Except Rejection (Value × Heap) := do
  let state ← stateOf heap vector
  valid (state.length < state.maximumLength)
  .ok (register heap (.vector
    { maximumLength := state.maximumLength, length := state.length + 1, previous := vector,
      value }))

/-- The loop of `captureTenantPurgeOwnedVector`, from the last item to the first. -/
def captureFrom (heap : Heap) (maximumLength : Nat) :
    (length : Nat) → VectorState → List Value → Except Rejection (List Value)
  | 0, current, output => do
    valid (current.length = 0 && current.previous = .null && current.maximumLength = maximumLength)
    .ok output
  | index + 1, current, output => do
    valid (current.length = index + 1 && current.previous ≠ .null &&
      current.maximumLength = maximumLength)
    let previous ← stateOf heap current.previous
    captureFrom heap maximumLength index previous (current.value :: output)

/-- `captureTenantPurgeOwnedVector` (`-owned-vector-kernel.ts:79`). -/
def captureTenantPurgeOwnedVector (heap : Heap) (vector : Value) (maximumLength : Nat) :
    Except Rejection (List Value) := do
  valid (validMaximum maximumLength)
  let head ← stateOf heap vector
  valid (head.length ≤ maximumLength)
  captureFrom heap head.maximumLength head.length head []

/-- `typeof name === "string" && name.length >= 1 && name.length <= 128`. -/
def nameOf : Value → Except Rejection JsString
  | .primitive (.string name) => do
    valid (1 ≤ name.length && name.length ≤ 128)
    .ok name
  | _ => .error .invalid

/-- `createTenantPurgeOwnedEntry` (`-owned-collection-kernel.ts:153`). -/
def createTenantPurgeOwnedEntry (heap : Heap) (name value : Value) :
    Except Rejection (Value × Heap) := do
  let name ← nameOf name
  .ok (register heap (.entry { name, value }))

/-! ## Schemas and fields -/

/-- `bounded` (`-owned-schema-kernel.ts:53`). -/
def bounded (depth units : Nat) : Except Rejection Unit := valid (depth ≤ 32 && units ≤ 256)

/-- What `createTenantPurgeOwnedSchema` makes of the fields of a record. `output`, a vector of at
most as many fields that nothing else refers to, is a list here. -/
def collectFields (heap : Heap) : List Value → (names : List JsString) → (depth units : Nat) →
    Except Rejection (List CompiledField × Nat × Nat)
  | [], _, depth, units => .ok ([], depth, units)
  | item :: input, names, depth, units => do
    let field ← fieldState heap item
    let child ← schemaState heap field.value
    let nextDepth := child.depth + 1
    let nextUnits := units + child.units + 1
    bounded nextDepth nextUnits
    valid (field.name ∉ names)
    let (fields, depth, units) ←
      collectFields heap input (field.name :: names) (max nextDepth depth) nextUnits
    .ok (field :: fields, depth, units)

/-- `TenantPurgeOwnedSchemaKind` (`-owned-schema-kernel.ts:8`). -/
inductive SchemaKind
  | null | boolean | integer | string | uuid | sha | dateIso | redactionKey
  | nullable | array | record
deriving DecidableEq

/-- `compileTenantPurgeScalarSpec` (`-value-scalar-kernel.ts:102`) on the record that
`scalar` makes. -/
def compileTenantPurgeScalarSpec (kind : SchemaKind) (primary secondary : Value) :
    Except Rejection ScalarSpec :=
  match kind, primary, secondary with
  | .null, _, _ => .ok .null
  | .boolean, _, _ => .ok .boolean
  | .uuid, _, _ => .ok .uuid
  | .sha, _, _ => .ok .sha
  | .dateIso, _, _ => .ok .dateIso
  | .redactionKey, _, _ => .ok .redactionKey
  | .integer, .primitive (.number minimum), .primitive (.number maximum) => do
    valid (isSafeInteger minimum && isSafeInteger maximum && minimum ≤ maximum)
    .ok (.integer minimum maximum)
  | .string, .primitive (.number maximumLength), _ => do
    valid (isSafeInteger maximumLength && 1 ≤ maximumLength && maximumLength ≤ 4096)
    .ok (.string maximumLength.toNat)
  | _, _, _ => .error .invalid

/-- `scalar` (`-owned-schema-kernel.ts:57`). -/
def scalar (heap : Heap) (kind : SchemaKind) (primary secondary : Value) :
    Except Rejection (Value × Heap) := do
  let value ← compileTenantPurgeScalarSpec kind primary secondary
  .ok (register heap (.schema
    { shape := .scalar value, depth := 1, units := 1, primitiveResult := kind ≠ .redactionKey }))

/-- `createTenantPurgeOwnedSchema` (`-owned-schema-kernel.ts:64`). -/
def createTenantPurgeOwnedSchema (heap : Heap) (kind : SchemaKind)
    (primary secondary tertiary : Value) : Except Rejection (Value × Heap) :=
  match kind with
  | .null | .boolean | .uuid | .sha | .dateIso | .redactionKey => do
    valid (primary = .undefined && secondary = .undefined && tertiary = .undefined)
    scalar heap kind .undefined .undefined
  | .integer => do
    valid (secondary ≠ .undefined && tertiary = .undefined)
    scalar heap kind primary secondary
  | .string => do
    valid (secondary = .undefined && tertiary = .undefined)
    scalar heap kind primary secondary
  | .nullable => do
    valid (secondary = .undefined && tertiary = .undefined)
    let child ← schemaState heap primary
    bounded (child.depth + 1) (child.units + 1)
    .ok (register heap (.schema
      { shape := .nullable primary, depth := child.depth + 1, units := child.units + 1,
        primitiveResult := child.primitiveResult }))
  | .array =>
    match secondary, tertiary with
    | .primitive (.number maximumLength), .primitive (.boolean unique) => do
      valid (isSafeInteger maximumLength && 0 ≤ maximumLength && maximumLength ≤ 100000)
      let child ← schemaState heap primary
      valid (!unique || child.primitiveResult)
      bounded (child.depth + 1) (child.units + 1)
      .ok (register heap (.schema
        { shape := .array primary maximumLength.toNat unique, depth := child.depth + 1,
          units := child.units + 1, primitiveResult := false }))
    | _, _ => .error .invalid
  | .record => do
    valid (secondary = .undefined && tertiary = .undefined)
    let input ← captureTenantPurgeOwnedVector heap primary 64
    let (fields, depth, units) ← collectFields heap input [] 1 1
    .ok (register heap (.schema
      { shape := .record fields, depth, units, primitiveResult := false }))

/-- `createTenantPurgeOwnedField` (`-owned-schema-kernel.ts:98`). -/
def createTenantPurgeOwnedField (heap : Heap) (name schema : Value) :
    Except Rejection (Value × Heap) := do
  let name ← nameOf name
  let _ ← schemaState heap schema
  .ok (register heap (.field { name, value := schema }))

/-! ## Reachable heaps -/

/-- A call that makes a handle. -/
inductive Call
  | vector (maximumLength : Value)
  | push (vector value : Value)
  | entry (name value : Value)
  | schema (kind : SchemaKind) (primary secondary tertiary : Value)
  | field (name schema : Value)

def Call.arguments : Call → List Value
  | .vector maximumLength => [maximumLength]
  | .push target value => [target, value]
  | .entry name value => [name, value]
  | .schema _ primary secondary tertiary => [primary, secondary, tertiary]
  | .field name value => [name, value]

def Call.run (heap : Heap) : Call → Except Rejection (Value × Heap)
  | .vector maximumLength => createTenantPurgeOwnedVector heap maximumLength
  | .push target value => pushTenantPurgeOwnedVector heap target value
  | .entry name value => createTenantPurgeOwnedEntry heap name value
  | .schema kind primary secondary tertiary =>
    createTenantPurgeOwnedSchema heap kind primary secondary tertiary
  | .field name value => createTenantPurgeOwnedField heap name value

/-- A value that exists: its handle was made before. -/
def Value.Exists (heap : Heap) (value : Value) : Prop := ∀ r ∈ value.refs, r < heap.length

/-- A heap that calls with existing arguments make out of the empty one. A call that fails changes
nothing. -/
inductive Reachable : Heap → Prop
  | empty : Reachable []
  | call {heap heap' : Heap} {result : Value} (hheap : Reachable heap) (call : Call)
      (harguments : ∀ argument ∈ call.arguments, argument.Exists heap)
      (hcall : call.run heap = .ok (result, heap')) : Reachable heap'

/-! ## What reachable heaps have -/

/-- A vector is empty, or one longer than the vector it was pushed on. -/
def VectorState.Sound (heap : Heap) (state : VectorState) : Prop :=
  (state.length = 0 ∧ state.previous = .null) ∨
    ∃ previous, stateOf heap state.previous = .ok previous ∧
      state.length = previous.length + 1 ∧ state.maximumLength = previous.maximumLength

/-- The schema of a value is registered, and less deep than what it is a part of. -/
def ChildOf (heap : Heap) (depth : Nat) (value : Value) (P : CompiledSchema → Prop) : Prop :=
  ∃ child, schemaState heap value = .ok child ∧ child.depth < depth ∧ P child

/-- A schema is deeper than its parts, by no more than the copier can go. Results are primitive
where the schema says so, and where items shall be unique. -/
def CompiledSchema.Sound (heap : Heap) (state : CompiledSchema) : Prop :=
  0 < state.depth ∧ state.depth ≤ 32 ∧
    match state.shape with
    | .scalar spec => state.primitiveResult → spec ≠ .redactionKey
    | .nullable value =>
      ChildOf heap state.depth value fun child => state.primitiveResult → child.primitiveResult
    | .array value _ unique => ¬ state.primitiveResult ∧
      ChildOf heap state.depth value fun child => unique → child.primitiveResult
    | .record fields => ¬ state.primitiveResult ∧
      ∀ field ∈ fields, ChildOf heap state.depth field.value fun _ => True

def Cell.Sound (heap : Heap) : Cell → Prop
  | .vector state => state.Sound heap
  | .entry _ => True
  | .schema state => state.Sound heap
  | .field state => ∃ child, schemaState heap state.value = .ok child

structure WellFormed (heap : Heap) : Prop where
  backward : Backward Cell.refs heap
  sound : ∀ n cell, lookup heap n = some cell → cell.Sound heap

section
variable {heap : Heap} {cell : Cell} {value : Value}

theorem valid_bind_ok {α : Type} {condition : Bool} {next : Unit → Except Rejection α}
    {result : α} :
    (valid condition >>= next) = .ok result ↔ condition = true ∧ next () = .ok result := by
  cases condition <;> simp [valid, bind, Except.bind]

/-! ### States -/

variable {σ : Type}

section
variable {map : Cell → Option σ}

theorem stateIn_ok {state : σ} : stateIn map heap value = .ok state ↔
      ∃ n cell, value = .handle n ∧ lookup heap n = some cell ∧ map cell = some state := by
  cases value with
  | handle n =>
    rw [stateIn]
    cases hlookup : lookup heap n with
    | none => simp [hlookup]
    | some cell => cases hmap : map cell <;> simp [hlookup, hmap]
  | undefined | foreign | primitive => simp [stateIn]

theorem stateIn_error {e : Rejection} (h : stateIn map heap value = .error e) : e = .invalid := by
  unfold stateIn at h
  split at h
  · split at h <;> cases h
    rfl
  · cases h
    rfl

variable {state : σ} (h : stateIn map heap value = .ok state)
include h

theorem stateIn_cons : stateIn map (cell :: heap) value = .ok state := by
  obtain ⟨n, cell', rfl, hlookup, hmap⟩ := stateIn_ok.1 h
  exact stateIn_ok.2 ⟨n, cell', rfl, lookup_cons hlookup, hmap⟩

theorem exists_of_stateIn : value.Exists heap := by
  obtain ⟨n, cell', rfl, hlookup, -⟩ := stateIn_ok.1 h
  have hlt := lookup_lt hlookup
  intro r hr
  simp [Value.refs] at hr
  omega

end

theorem stateOf_ok {state : VectorState} :
    stateOf heap value = .ok state ↔
      ∃ n, value = .handle n ∧ lookup heap n = some (.vector state) := by
  rw [stateOf, stateIn_ok]
  constructor
  · rintro ⟨n, cell, hvalue, hlookup, hmap⟩
    cases cell <;> cases hmap
    exact ⟨n, hvalue, hlookup⟩
  · rintro ⟨n, hvalue, hlookup⟩
    exact ⟨n, _, hvalue, hlookup, rfl⟩

theorem entryState_ok {state : EntryState} :
    entryState heap value = .ok state ↔
      ∃ n, value = .handle n ∧ lookup heap n = some (.entry state) := by
  rw [entryState, stateIn_ok]
  constructor
  · rintro ⟨n, cell, hvalue, hlookup, hmap⟩
    cases cell <;> cases hmap
    exact ⟨n, hvalue, hlookup⟩
  · rintro ⟨n, hvalue, hlookup⟩
    exact ⟨n, _, hvalue, hlookup, rfl⟩

theorem schemaState_ok {state : CompiledSchema} :
    schemaState heap value = .ok state ↔
      ∃ n, value = .handle n ∧ lookup heap n = some (.schema state) := by
  rw [schemaState, stateIn_ok]
  constructor
  · rintro ⟨n, cell, hvalue, hlookup, hmap⟩
    cases cell <;> cases hmap
    exact ⟨n, hvalue, hlookup⟩
  · rintro ⟨n, hvalue, hlookup⟩
    exact ⟨n, _, hvalue, hlookup, rfl⟩

/-! ### One call -/

variable {P : CompiledSchema → Prop}

theorem ChildOf.cons {depth : Nat} (h : ChildOf heap depth value P) :
    ChildOf (cell :: heap) depth value P := by
  obtain ⟨child, hchild, hdepth, hP⟩ := h
  exact ⟨child, stateIn_cons hchild, hdepth, hP⟩

theorem ChildOf.exists {depth : Nat} (h : ChildOf heap depth value P) : value.Exists heap := by
  obtain ⟨child, hchild, -⟩ := h
  exact exists_of_stateIn hchild

/-- A state stays sound when others are added. -/
theorem Cell.Sound.cons {cell' : Cell} (h : cell'.Sound heap) : cell'.Sound (cell :: heap) := by
  cases cell' with
  | vector state =>
    rcases h with hempty | ⟨previous, hprevious, hlength⟩
    · exact .inl hempty
    · exact .inr ⟨previous, stateIn_cons hprevious, hlength⟩
  | entry state => trivial
  | schema state =>
    obtain ⟨shape, depth, units, primitiveResult⟩ := state
    obtain ⟨hpos, hdepth, h⟩ := h
    refine ⟨hpos, hdepth, ?_⟩
    cases shape with
    | scalar spec => exact h
    | nullable child => exact h.cons
    | array child maximumLength unique => exact ⟨h.1, h.2.cons⟩
    | record fields => exact ⟨h.1, fun field hfield => (h.2 field hfield).cons⟩
  | field state =>
    obtain ⟨child, hchild⟩ := h
    exact ⟨child, stateIn_cons hchild⟩

theorem WellFormed.register (hheap : WellFormed heap) (hrefs : ∀ r ∈ cell.refs, r < heap.length)
    (hsound : cell.Sound heap) : WellFormed (cell :: heap) where
  backward := backward_cons.2 ⟨hrefs, hheap.backward⟩
  sound := forall_lookup_cons.2
    ⟨hsound.cons, fun n cell hlookup => (hheap.sound n cell hlookup).cons⟩

theorem collectFields_ok {input : List Value} {names : List JsString}
    {depth units depth' units' : Nat} {fields : List CompiledField}
    (hdepth : 0 < depth ∧ depth ≤ 32)
    (h : collectFields heap input names depth units = .ok (fields, depth', units')) :
    depth ≤ depth' ∧ depth' ≤ 32 ∧
      ∀ field ∈ fields, ChildOf heap depth' field.value fun _ => True := by
  induction input generalizing names depth units fields with
  | nil =>
    cases h
    simp [hdepth.2]
  | cons item input ih =>
    obtain ⟨field, hfield, h⟩ := bind_ok.1 h
    obtain ⟨child, hchild, h⟩ := bind_ok.1 h
    obtain ⟨hbounded, h⟩ := valid_bind_ok.1 h
    obtain ⟨-, h⟩ := valid_bind_ok.1 h
    obtain ⟨⟨fields', depth'', units''⟩, hrest, h⟩ := bind_ok.1 h
    cases h
    simp only [Bool.and_eq_true, decide_eq_true_eq] at hbounded
    obtain ⟨hle, hmax, hfields⟩ := ih (by omega) hrest
    refine ⟨by omega, hmax, List.forall_mem_cons.2 ⟨⟨child, hchild, ?_, trivial⟩, hfields⟩⟩
    omega

variable {heap' : Heap}

theorem scalar_ok {kind : SchemaKind} {primary secondary result : Value}
    (h : scalar heap kind primary secondary = .ok (result, heap')) :
    ∃ state, heap' = .schema state :: heap ∧ state.Sound heap ∧
      ∀ r ∈ state.shape.refs, r < heap.length := by
  obtain ⟨spec, hspec, h⟩ := bind_ok.1 h
  cases h
  refine ⟨_, rfl, ⟨by simp, by simp, ?_⟩, by simp [SchemaShape.refs]⟩
  rintro hkind rfl
  rw [decide_eq_true_eq] at hkind
  unfold compileTenantPurgeScalarSpec at hspec
  split at hspec
  any_goals cases hspec
  · exact hkind rfl
  · obtain ⟨-, hspec⟩ := valid_bind_ok.1 hspec
    cases hspec
  · obtain ⟨-, hspec⟩ := valid_bind_ok.1 hspec
    cases hspec

theorem createTenantPurgeOwnedSchema_ok {kind : SchemaKind}
    {primary secondary tertiary result : Value}
    (h : createTenantPurgeOwnedSchema heap kind primary secondary tertiary = .ok (result, heap')) :
    ∃ state, heap' = .schema state :: heap ∧ state.Sound heap ∧
      ∀ r ∈ state.shape.refs, r < heap.length := by
  unfold createTenantPurgeOwnedSchema at h
  split at h
  · exact scalar_ok (valid_bind_ok.1 h).2
  · exact scalar_ok (valid_bind_ok.1 h).2
  · exact scalar_ok (valid_bind_ok.1 h).2
  · exact scalar_ok (valid_bind_ok.1 h).2
  · exact scalar_ok (valid_bind_ok.1 h).2
  · exact scalar_ok (valid_bind_ok.1 h).2
  · exact scalar_ok (valid_bind_ok.1 h).2
  · exact scalar_ok (valid_bind_ok.1 h).2
  · obtain ⟨-, h⟩ := valid_bind_ok.1 h
    obtain ⟨child, hchild, h⟩ := bind_ok.1 h
    obtain ⟨hbounded, h⟩ := valid_bind_ok.1 h
    cases h
    simp only [Bool.and_eq_true, decide_eq_true_eq] at hbounded
    exact ⟨_, rfl, ⟨by simp, hbounded.1, child, hchild, by simp, id⟩, exists_of_stateIn hchild⟩
  · split at h
    · obtain ⟨-, h⟩ := valid_bind_ok.1 h
      obtain ⟨child, hchild, h⟩ := bind_ok.1 h
      obtain ⟨hunique, h⟩ := valid_bind_ok.1 h
      obtain ⟨hbounded, h⟩ := valid_bind_ok.1 h
      cases h
      simp only [Bool.and_eq_true, decide_eq_true_eq] at hbounded
      refine ⟨_, rfl, ⟨by simp, hbounded.1, by simp, child, hchild, by simp, ?_⟩,
        exists_of_stateIn hchild⟩
      rintro rfl
      simpa using hunique
    · cases h
  · obtain ⟨-, h⟩ := valid_bind_ok.1 h
    obtain ⟨input, -, h⟩ := bind_ok.1 h
    obtain ⟨⟨fields, depth, units⟩, hfields, h⟩ := bind_ok.1 h
    cases h
    obtain ⟨hpos, hdepth, hfields⟩ := collectFields_ok (by omega) hfields
    refine ⟨_, rfl, ⟨hpos, hdepth, by simp, hfields⟩, fun r hr => ?_⟩
    obtain ⟨field, hfield, hr⟩ := List.mem_flatMap.1 hr
    exact (hfields field hfield).exists r hr

/-- **Every call registers one sound state**, which refers to older handles. -/
theorem Call.run_ok {call : Call} {result : Value}
    (harguments : ∀ argument ∈ call.arguments, argument.Exists heap)
    (h : call.run heap = .ok (result, heap')) :
    ∃ cell, heap' = cell :: heap ∧ cell.Sound heap ∧ ∀ r ∈ cell.refs, r < heap.length := by
  cases call with
  | vector maximumLength =>
    simp only [run, createTenantPurgeOwnedVector] at h
    split at h
    · obtain ⟨-, h⟩ := valid_bind_ok.1 h
      cases h
      exact ⟨_, rfl, .inl ⟨rfl, rfl⟩, by simp [Cell.refs, Value.refs]⟩
    · cases h
  | push target value =>
    simp only [run, pushTenantPurgeOwnedVector] at h
    obtain ⟨state, hstate, h⟩ := bind_ok.1 h
    obtain ⟨-, h⟩ := valid_bind_ok.1 h
    cases h
    refine ⟨_, rfl, .inr ⟨state, hstate, rfl, rfl⟩, fun r hr => ?_⟩
    rcases List.mem_append.1 hr with hr | hr
    · exact exists_of_stateIn hstate r hr
    · exact harguments value (by simp [arguments]) r hr
  | entry name value =>
    simp only [run, createTenantPurgeOwnedEntry] at h
    obtain ⟨_, -, h⟩ := bind_ok.1 h
    cases h
    exact ⟨_, rfl, trivial, harguments value (by simp [arguments])⟩
  | schema kind primary secondary tertiary =>
    rw [run] at h
    obtain ⟨state, hheap', hsound, hrefs⟩ := createTenantPurgeOwnedSchema_ok h
    exact ⟨_, hheap', hsound, hrefs⟩
  | field name value =>
    simp only [run, createTenantPurgeOwnedField] at h
    obtain ⟨_, -, h⟩ := bind_ok.1 h
    obtain ⟨child, hchild, h⟩ := bind_ok.1 h
    cases h
    exact ⟨_, rfl, ⟨child, hchild⟩, exists_of_stateIn hchild⟩

/-- **Reachable heaps are well formed.** -/
theorem Reachable.wellFormed (hheap : Reachable heap) : WellFormed heap := by
  induction hheap with
  | empty => exact ⟨by simp [Backward, lookup], by simp [lookup]⟩
  | call _ _ harguments hcall ih =>
    obtain ⟨cell, rfl, hsound, hrefs⟩ := Call.run_ok harguments hcall
    exact ih.register hrefs hsound

end

end Corgtex.Domain.TenantPurgeOwned
