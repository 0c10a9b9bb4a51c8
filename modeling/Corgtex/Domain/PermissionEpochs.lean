import Corgtex.Domain.Errors
import Corgtex.Library.JsonText
import Corgtex.Library.KeyedUnion
import Mathlib.Algebra.Group.Nat.Defs
import Mathlib.Data.Finset.Card
import Mathlib.Order.Bounds.Basic

/-!
# Permission epochs and their receipts

`source-permission-epochs.ts`: every identity whose permissions a source depends
on has an epoch, which a change of the permissions increases. A proof lists identities with the
epochs that were read, in the order of their keys. `mergePermissionEpochProofs` combines the proofs
of several inputs.

A proof that `parsePermissionEpochProof` accepts is a canonical list (`Library.KeyedUnion`), so it
is determined by its entries, and a merge is determined by the entries of its inputs
(`mergePermissionEpochProofs_ok`). Every law of the merge follows from that.
-/

namespace Corgtex.Domain

open Option hiding mem_map

open JsArray JsString KeyedTable KeyedUnion List

/-! ## Proofs -/

/-- `SOURCE_PERMISSION_POLICY_VERSION` (line 13). -/
def SOURCE_PERMISSION_POLICY_VERSION : JsString := lit "pun68-permissions-v3"

/-- `MAX_EPOCH_IDENTITIES` (line 18). -/
def MAX_EPOCH_IDENTITIES : Nat := 10000

structure PermissionEpochIdentity where
  kind : JsString
  id : JsString
deriving DecidableEq

/-- An entry of a proof: an identity and its epoch. -/
structure PermissionEpochEntry extends PermissionEpochIdentity where
  epoch : JsString
deriving DecidableEq

structure PermissionEpochProof where
  version : Nat
  policyVersion : JsString
  entries : List PermissionEpochEntry
deriving DecidableEq

/-- `epochKey` (line 68), `JSON.stringify([identity.kind, identity.id])`. -/
def epochKey (identity : PermissionEpochIdentity) : JsString :=
  Json.stringify (fun _ : Nat => []) (.array [.string identity.kind, .string identity.id])

abbrev PermissionEpochEntry.key (entry : PermissionEpochEntry) : JsString :=
  epochKey entry.toPermissionEpochIdentity

/-- `/^(0|[1-9][0-9]*)$/`. -/
def isEpoch : JsString → Bool
  | [] => false
  | u :: rest => (u = 0x30 && rest.isEmpty) ||
    (0x31 ≤ u && u ≤ 0x39 && rest.all fun v => 0x30 ≤ v && v ≤ 0x39)

/-! ## Parsing -/

section
variable {ν : Type} [DecidableEq ν] [One ν]

/-- The entry that a value of `entries` is, if its fields pass (line 197). -/
def PermissionEpochEntry.ofJson : Json ν → Option PermissionEpochEntry
  | .object members =>
    match members.lookup (lit "kind"), members.lookup (lit "id"), members.lookup (lit "epoch") with
    | some (.string kind), some (.string id), some (.string epoch) =>
      if kind ≠ [] ∧ id ≠ [] ∧ isEpoch epoch then some ⟨⟨kind, id⟩, epoch⟩ else none
    | _, _, _ => none
  | _ => none

/-- The loop over `entries` (line 195), with the key before. -/
def parseEntries (previous : JsString) : List (Json ν) → Option (List PermissionEpochEntry)
  | [] => some []
  | value :: values => do
    let entry ← PermissionEpochEntry.ofJson value
    if JsString.lt previous entry.key then
      let rest ← parseEntries entry.key values
      some (entry :: rest)
    else none

/-- `parsePermissionEpochProof` (line 190). -/
def parsePermissionEpochProof : Json ν → Option PermissionEpochProof
  | .object members =>
    match members.lookup (lit "version"), members.lookup (lit "policyVersion"),
      members.lookup (lit "entries") with
    | some (.number version), some (.string policyVersion), some (.array entries) =>
      if version = 1 ∧ policyVersion = SOURCE_PERMISSION_POLICY_VERSION ∧ entries ≠ [] ∧
          entries.length ≤ MAX_EPOCH_IDENTITIES then
        (parseEntries [] entries).map fun entries => ⟨1, policyVersion, entries⟩
      else none
    | _, _, _ => none
  | _ => none

end

def PermissionEpochEntry.toJson (entry : PermissionEpochEntry) : Json Nat :=
  .object [(lit "kind", .string entry.kind), (lit "id", .string entry.id),
    (lit "epoch", .string entry.epoch)]

def PermissionEpochProof.toJson (proof : PermissionEpochProof) : Json Nat :=
  .object [(lit "version", .number proof.version),
    (lit "policyVersion", .string proof.policyVersion),
    (lit "entries", .array (proof.entries.map PermissionEpochEntry.toJson))]

/-- A proof that `parsePermissionEpochProof` accepts. -/
def PermissionEpochProof.Accepted (proof : PermissionEpochProof) : Prop :=
  parsePermissionEpochProof proof.toJson = some proof

/-! ## Merging -/

/-- The entries collected so far, under their keys. -/
abbrev EpochMap := KeyedTable PermissionEpochEntry PermissionEpochEntry.key

/-- An entry is collected unless its identity has another epoch already (line 384). -/
def addEntry (entries : EpochMap) (entry : PermissionEpochEntry) : Except AppError EpochMap := do
  invariant ((entries.find? entry.key).all fun earlier => earlier.epoch = entry.epoch) 409
    "SOURCE_CHANGED" "Input permissions changed during collection."
  .ok (entries.set entry)

/-- One value of the loop (line 379). -/
def addProof (entries : EpochMap) : Option PermissionEpochProof → Except AppError EpochMap
  | none => .ok entries
  | some value =>
    match parsePermissionEpochProof value.toJson with
    | none => .error ⟨409, "UNKNOWN_LINEAGE", "A source permission receipt is malformed."⟩
    | some proof => proof.entries.foldlM addEntry entries

/-- `mergePermissionEpochProofs` (line 377). -/
def mergePermissionEpochProofs (values : List (Option PermissionEpochProof)) :
    Except AppError (Option PermissionEpochProof) := do
  let entries ← values.foldlM addProof .empty
  if entries.rows = [] then .ok none
  else do
    invariant (entries.rows.length ≤ MAX_EPOCH_IDENTITIES) 409 "PERMISSION_PROOF_LIMIT"
      "Source permission proof requires a bounded rebuild."
    .ok (some ⟨1, SOURCE_PERMISSION_POLICY_VERSION,
      sortBy (byKey PermissionEpochEntry.key) entries.rows⟩)

/-! ## What is accepted -/

theorem epochKey_inj {a b : PermissionEpochIdentity} : epochKey a = epochKey b ↔ a = b := by
  constructor
  · intro h
    obtain ⟨hkind, hid⟩ := Json.stringify_pair_inj.1 h
    cases a
    cases b
    cases hkind
    cases hid
    rfl
  · exact fun h => h ▸ rfl

/-- The fields of an entry pass. -/
structure PermissionEpochEntry.WellFormed (entry : PermissionEpochEntry) : Prop where
  kind : entry.kind ≠ []
  id : entry.id ≠ []
  epoch : isEpoch entry.epoch

theorem PermissionEpochEntry.ofJson_toJson (entry : PermissionEpochEntry)
    [Decidable entry.WellFormed] :
    ofJson entry.toJson = if entry.WellFormed then some entry else none := by
  have hkind : (lit "id" == lit "kind") = false := by decide
  have hid : (lit "epoch" == lit "kind") = false := by decide
  have hepoch : (lit "epoch" == lit "id") = false := by decide
  simp only [ofJson, toJson, lookup_cons, beq_self_eq_true, hkind, hid, hepoch]
  by_cases h : entry.WellFormed
  · rw [if_pos h, if_pos ⟨h.kind, h.id, h.epoch⟩]
  · rw [if_neg h, if_neg fun hfields => h ⟨hfields.1, hfields.2.1, hfields.2.2⟩]

section
variable {entries entries' : List PermissionEpochEntry} {previous : JsString}

theorem lt_trans_key {a b c : JsString} (hab : JsString.lt a b = true)
    (hbc : JsString.lt b c = true) : JsString.lt a c = true := by
  simp only [JsString.lt, decide_eq_true_eq] at hab hbc ⊢
  exact comparator_compare.lt_trans hab hbc

/-- The loop accepts entries whose fields pass and whose keys increase from the one before. -/
theorem parseEntries_toJson :
    parseEntries previous (entries.map PermissionEpochEntry.toJson) = some entries' ↔
      entries' = entries ∧ (∀ entry ∈ entries, entry.WellFormed) ∧
        (∀ entry ∈ entries, JsString.lt previous entry.key = true) ∧
        entries.Pairwise fun a b => JsString.lt a.key b.key = true := by
  induction entries generalizing previous entries' with
  | nil =>
    rw [map_nil, parseEntries, some_inj, eq_comm]
    simp
  | cons entry entries ih =>
    classical
    rw [map_cons, parseEntries, PermissionEpochEntry.ofJson_toJson]
    simp only [mem_cons, forall_eq_or_imp, pairwise_cons]
    by_cases hwell : entry.WellFormed
    · by_cases hlt : JsString.lt previous entry.key = true
      · simp only [hlt, bind_eq_bind, bind_some, if_true,
          bind_eq_some_iff, ih, some_inj, hwell, true_and]
        constructor
        · rintro ⟨_, ⟨rfl, hfields, hall, hpairwise⟩, rfl⟩
          exact ⟨rfl, hfields, fun e he => lt_trans_key hlt (hall e he), hall, hpairwise⟩
        · rintro ⟨rfl, hfields, -, hall, hpairwise⟩
          exact ⟨entries, ⟨rfl, hfields, hall, hpairwise⟩, rfl⟩
      · simp [hlt, hwell]
    · simp [hwell]

end

variable {proof : PermissionEpochProof}

/-- A proof is accepted if its entries are a canonical list of at least one and at most 10000. -/
theorem parse_toJson {proof' : PermissionEpochProof} :
    parsePermissionEpochProof proof.toJson = some proof' ↔
      proof' = proof ∧ proof.version = 1 ∧ proof.policyVersion = SOURCE_PERMISSION_POLICY_VERSION ∧
        proof.entries ≠ [] ∧ proof.entries.length ≤ MAX_EPOCH_IDENTITIES ∧
        (∀ entry ∈ proof.entries, entry.WellFormed) ∧
        proof.entries.Pairwise fun a b => byKey PermissionEpochEntry.key a b < 0 := by
  have hpolicy : (lit "policyVersion" == lit "version") = false := by decide
  have hentries : (lit "entries" == lit "version") = false := by decide
  have hentries' : (lit "entries" == lit "policyVersion") = false := by decide
  have hfirst (entry : PermissionEpochEntry) : JsString.lt [] entry.key = true := by
    simp [JsString.lt, JsString.compare, epochKey, Json.stringify]
  have hsorted : (proof.entries.Pairwise fun a b => JsString.lt a.key b.key = true) ↔
      proof.entries.Pairwise fun a b => byKey PermissionEpochEntry.key a b < 0 := by
    simp [JsString.lt, byKey, threeWay_neg]
  obtain ⟨version, policyVersion, entries⟩ := proof
  simp only [parsePermissionEpochProof, PermissionEpochProof.toJson, lookup_cons,
    beq_self_eq_true, hpolicy, hentries, hentries', ne_eq, map_eq_nil_iff, length_map]
  split
  · next h =>
    obtain ⟨rfl, rfl, hne, hlength⟩ := h
    simp only [map_eq_some_iff, parseEntries_toJson, hsorted, hfirst, implies_true, true_and]
    constructor
    · rintro ⟨_, ⟨rfl, hwell, hpairwise⟩, rfl⟩
      exact ⟨rfl, hne, hlength, hwell, hpairwise⟩
    · rintro ⟨rfl, -, -, hwell, hpairwise⟩
      exact ⟨entries, ⟨rfl, hwell, hpairwise⟩, rfl⟩
  · next h =>
    constructor
    · exact fun hnone => absurd hnone (by simp)
    · exact fun hfields => absurd ⟨hfields.2.1, hfields.2.2.1, hfields.2.2.2.1, hfields.2.2.2.2.1⟩ h

theorem PermissionEpochProof.accepted_iff : proof.Accepted ↔
    proof.version = 1 ∧ proof.policyVersion = SOURCE_PERMISSION_POLICY_VERSION ∧
      proof.entries ≠ [] ∧ proof.entries.length ≤ MAX_EPOCH_IDENTITIES ∧
      (∀ entry ∈ proof.entries, entry.WellFormed) ∧
      proof.entries.Pairwise fun a b => byKey PermissionEpochEntry.key a b < 0 :=
  parse_toJson.trans (and_iff_right rfl)

example : PermissionEpochProof.Accepted ⟨1, SOURCE_PERMISSION_POLICY_VERSION,
    [⟨⟨lit "Circle", lit "c1"⟩, lit "12"⟩, ⟨⟨lit "Role", lit "r1"⟩, lit "0"⟩]⟩ := by
  show parsePermissionEpochProof _ = some _
  decide +kernel

theorem accepted_of_parse {proof' : PermissionEpochProof}
    (h : parsePermissionEpochProof proof.toJson = some proof') :
    proof' = proof ∧ proof.Accepted := by
  obtain ⟨rfl, hfields⟩ := parse_toJson.1 h
  exact ⟨rfl, PermissionEpochProof.accepted_iff.2 hfields⟩

theorem PermissionEpochProof.Accepted.agree (h : proof.Accepted) :
    KeyedUnion.Consistent PermissionEpochEntry.key proof.entries := by
  obtain ⟨-, -, -, -, -, hsorted⟩ := accepted_iff.1 h
  have hne : proof.entries.Pairwise fun a b => a.key ≠ b.key :=
    hsorted.imp fun hlt hkey => absurd (byKey_eq_zero.2 hkey) (Int.ne_of_lt hlt)
  exact consistent_rows ⟨proof.entries, pairwise_map.2 hne⟩

/-! ## What a merge does -/

/-- The entries of the values, in order. -/
def entriesOf (values : List (Option PermissionEpochProof)) : List PermissionEpochEntry :=
  values.flatMap fun value => (value.map PermissionEpochProof.entries).getD []

/-- The proof of the given entries. -/
def proofOf (entries : List PermissionEpochEntry) : PermissionEpochProof :=
  ⟨1, SOURCE_PERMISSION_POLICY_VERSION, canonical PermissionEpochEntry.key entries⟩

/-- No identity has two epochs. -/
abbrev Agree (entries : List PermissionEpochEntry) : Prop :=
  KeyedUnion.Consistent PermissionEpochEntry.key entries

section
variable {entries : List PermissionEpochEntry} {collected : EpochMap}

variable {values : List (Option PermissionEpochProof)}

theorem mem_entriesOf {entry : PermissionEpochEntry} :
    entry ∈ entriesOf values ↔ ∃ proof, some proof ∈ values ∧ entry ∈ proof.entries := by
  simp only [entriesOf, mem_flatMap]
  constructor
  · rintro ⟨value, hvalue, hentry⟩
    cases value with
    | none => simp at hentry
    | some proof => exact ⟨proof, hvalue, hentry⟩
  · rintro ⟨proof, hproof, hentry⟩
    exact ⟨some proof, hproof, hentry⟩

theorem agree_iff : Agree entries ↔
    ∀ a ∈ entries, ∀ b ∈ entries,
      a.toPermissionEpochIdentity = b.toPermissionEpochIdentity → a.epoch = b.epoch := by
  constructor
  · intro h a ha b hb hidentity
    rw [h a ha b hb (epochKey_inj.2 hidentity)]
  · intro h a ha b hb hkey
    have hidentity := epochKey_inj.1 hkey
    have hepoch := h a ha b hb hidentity
    cases a
    cases b
    cases hidentity
    cases hepoch
    rfl

/-- An entry that disagrees with what was collected stops the loop, any other is added. -/
theorem addEntry_eq (entry : PermissionEpochEntry) :
    addEntry collected entry =
      if Agree (entry :: collected.rows) then .ok (collected.set entry)
      else .error ⟨409, "SOURCE_CHANGED", "Input permissions changed during collection."⟩ := by
  have hagree : Agree (entry :: collected.rows) ↔
      ((collected.find? entry.key).all fun earlier => earlier.epoch = entry.epoch) = true := by
    constructor
    · intro h
      cases hfound : collected.find? entry.key with
      | none => rfl
      | some earlier =>
        obtain ⟨hmem, hkey⟩ := find?_eq_some.1 hfound
        simp [h earlier (.tail _ hmem) entry (.head _) hkey]
    · intro h
      have hsame : ∀ a ∈ collected.rows, a.key = entry.key → a = entry := by
        intro a ha hkey
        rw [find?_eq_some.2 ⟨ha, hkey⟩] at h
        have hidentity := epochKey_inj.1 hkey
        have hepoch : a.epoch = entry.epoch := by simpa using h
        cases a
        cases entry
        cases hidentity
        cases hepoch
        rfl
      intro a ha b hb hkey
      rw [mem_cons] at ha hb
      rcases ha with rfl | ha <;> rcases hb with rfl | hb
      · rfl
      · exact (hsame b hb hkey.symm).symm
      · exact hsame a ha hkey
      · exact consistent_rows collected a ha b hb hkey
  by_cases h : Agree (entry :: collected.rows)
  · rw [addEntry, hagree.1 h, if_pos h]
    rfl
  · rw [addEntry, Bool.eq_false_iff.2 (mt hagree.2 h), if_neg h]
    rfl

/-- The loop over entries adds all of them, or stops because two of them disagree. -/
theorem foldlM_addEntry_eq :
    entries.foldlM addEntry collected =
      if Agree (collected.rows ++ entries) then .ok (setAll collected entries)
      else .error ⟨409, "SOURCE_CHANGED", "Input permissions changed during collection."⟩ := by
  induction entries generalizing collected with
  | nil =>
    rw [if_pos (by simpa using consistent_rows collected)]
    rfl
  | cons entry entries ih =>
    rw [foldlM_cons, addEntry_eq]
    by_cases h : Agree (entry :: collected.rows)
    · have hmem : ∀ a, a ∈ (collected.set entry).rows ++ entries ↔
          a ∈ collected.rows ++ entry :: entries := by
        intro a
        rw [mem_append, mem_set h]
        simp only [mem_append, mem_cons]
        tauto
      rw [if_pos h]
      show entries.foldlM addEntry (collected.set entry) = _
      rw [ih]
      simp only [Agree, consistent_congr hmem]
      rfl
    · have hmore : ¬Agree (collected.rows ++ entry :: entries) := by
        refine fun hall => h (hall.subset fun a ha => ?_)
        rcases mem_cons.1 ha with rfl | ha
        · simp
        · simp [ha]
      rw [if_neg h, if_neg hmore]
      rfl

theorem foldlM_addProof_eq (h : ∀ proof, some proof ∈ values → proof.Accepted) :
    values.foldlM addProof collected = (entriesOf values).foldlM addEntry collected := by
  induction values generalizing collected with
  | nil => rfl
  | cons value values ih =>
    have hrest : ∀ proof, some proof ∈ values → proof.Accepted := fun proof hproof =>
      h proof (.tail _ hproof)
    have hvalue : addProof collected value =
        ((value.map PermissionEpochProof.entries).getD []).foldlM addEntry collected := by
      cases value with
      | none => rfl
      | some proof =>
        have haccepted : parsePermissionEpochProof proof.toJson = some proof := h proof (.head _)
        simp [addProof, haccepted]
    rw [foldlM_cons, hvalue, entriesOf, flatMap_cons, foldlM_append]
    exact bind_congr fun collected => ih hrest

theorem accepted_of_foldlM_addProof {collected' : EpochMap}
    (h : values.foldlM addProof collected = .ok collected') :
    ∀ proof, some proof ∈ values → proof.Accepted := by
  induction values generalizing collected with
  | nil => simp
  | cons value values ih =>
    rw [foldlM_cons] at h
    obtain ⟨next, hnext, hrest⟩ := bind_ok.1 h
    intro proof hproof
    rcases mem_cons.1 hproof with rfl | hproof
    · simp only [addProof] at hnext
      split at hnext
      · cases hnext
      · next hparsed => exact (accepted_of_parse hparsed).2
    · exact ih hrest proof hproof

end

section
variable {values values' : List (Option PermissionEpochProof)}

section
variable (h : ∀ proof, some proof ∈ values → proof.Accepted)
include h

theorem mergePermissionEpochProofs_eq : mergePermissionEpochProofs values =
      if Agree (entriesOf values) then
        if entriesOf values = [] then .ok none
        else if (distinct (entriesOf values)).length ≤ MAX_EPOCH_IDENTITIES then
          .ok (some (proofOf (entriesOf values)))
        else .error ⟨409, "PERMISSION_PROOF_LIMIT",
          "Source permission proof requires a bounded rebuild."⟩
      else .error ⟨409, "SOURCE_CHANGED", "Input permissions changed during collection."⟩ := by
  rw [mergePermissionEpochProofs, foldlM_addProof_eq h, foldlM_addEntry_eq]
  have hempty : (empty : EpochMap).rows ++ entriesOf values = entriesOf values := rfl
  rw [hempty]
  by_cases hagree : Agree (entriesOf values)
  · rw [if_pos hagree, if_pos hagree]
    have hmem : ∀ a, a ∈ (setAll (empty : EpochMap) (entriesOf values)).rows ↔
        a ∈ entriesOf values := fun a => (mem_setAll hagree).trans (by simp [empty])
    have hnil : (setAll (empty : EpochMap) (entriesOf values)).rows = [] ↔
        entriesOf values = [] := by
      simp only [eq_nil_iff_forall_not_mem, hmem]
    have hlength : (setAll (empty : EpochMap) (entriesOf values)).rows.length =
        (distinct (entriesOf values)).length := by
      have hnodup := (setAll (empty : EpochMap) (entriesOf values)).nodup.of_map
      refine ((perm_ext_iff_of_nodup hnodup (nodup_distinct _)).2 fun a => ?_).length_eq
      rw [hmem, mem_distinct]
    show (if (setAll (empty : EpochMap) (entriesOf values)).rows = [] then _ else _) = _
    simp only [hnil]
    split
    · rfl
    · rw [hlength, sortBy_rows _ hmem]
      by_cases hlimit : (distinct (entriesOf values)).length ≤ MAX_EPOCH_IDENTITIES
      · rw [if_pos hlimit, decide_eq_true hlimit]
        rfl
      · rw [if_neg hlimit, decide_eq_false hlimit]
        rfl
  · rw [if_neg hagree, if_neg hagree]
    rfl

/-- Accepted proofs with the same entries are merged alike, also where the merge throws. -/
theorem mergePermissionEpochProofs_eq_of_mem (h' : ∀ proof, some proof ∈ values' → proof.Accepted)
    (hmem : ∀ a, a ∈ entriesOf values ↔ a ∈ entriesOf values') :
    mergePermissionEpochProofs values = mergePermissionEpochProofs values' := by
  have hnil : entriesOf values = [] ↔ entriesOf values' = [] := by
    simp only [eq_nil_iff_forall_not_mem, hmem]
  rw [mergePermissionEpochProofs_eq h, mergePermissionEpochProofs_eq h']
  by_cases hagree : Agree (entriesOf values)
  · rw [if_pos hagree, if_pos ((consistent_congr hmem).1 hagree), (distinct_perm hmem).length_eq,
      proofOf, proofOf, canonical_congr hagree hmem]
    simp only [hnil]
  · rw [if_neg hagree, if_neg (mt (consistent_congr hmem).2 hagree)]

end

/-- **When a merge is defined, and what it is.** -/
theorem mergePermissionEpochProofs_ok {result : Option PermissionEpochProof} :
    mergePermissionEpochProofs values = .ok result ↔
      (∀ proof, some proof ∈ values → proof.Accepted) ∧ Agree (entriesOf values) ∧
        (distinct (entriesOf values)).length ≤ MAX_EPOCH_IDENTITIES ∧
        result = if entriesOf values = [] then none else some (proofOf (entriesOf values)) := by
  by_cases haccepted : ∀ proof, some proof ∈ values → proof.Accepted
  · rw [mergePermissionEpochProofs_eq haccepted, and_iff_right haccepted]
    by_cases hagree : Agree (entriesOf values)
    · rw [if_pos hagree, and_iff_right hagree]
      by_cases hnil : entriesOf values = []
      · have hlimit : (distinct (entriesOf values)).length ≤ MAX_EPOCH_IDENTITIES := by
          rw [hnil]
          exact Nat.zero_le _
        rw [if_pos hnil, if_pos hnil, and_iff_right hlimit, Except.ok.injEq, eq_comm]
      · rw [if_neg hnil, if_neg hnil]
        by_cases hlimit : (distinct (entriesOf values)).length ≤ MAX_EPOCH_IDENTITIES
        · rw [if_pos hlimit, and_iff_right hlimit, Except.ok.injEq, eq_comm]
        · simp [hlimit]
    · simp [hagree]
  · constructor
    · intro h
      obtain ⟨_, hcollected, -⟩ := bind_ok.1 h
      exact absurd (accepted_of_foldlM_addProof hcollected) haccepted
    · exact fun h => absurd h.1 haccepted

theorem mergePermissionEpochProofs_congr
    (haccepted : (∀ proof, some proof ∈ values → proof.Accepted) ↔
      ∀ proof, some proof ∈ values' → proof.Accepted)
    (hmem : ∀ a, a ∈ entriesOf values ↔ a ∈ entriesOf values')
    {result : Option PermissionEpochProof} :
    mergePermissionEpochProofs values = .ok result ↔
      mergePermissionEpochProofs values' = .ok result := by
  have hnil : entriesOf values = [] ↔ entriesOf values' = [] := by
    simp only [eq_nil_iff_forall_not_mem, hmem]
  rw [mergePermissionEpochProofs_ok, mergePermissionEpochProofs_ok, haccepted,
    (distinct_perm hmem).length_eq, Agree, Agree, consistent_congr hmem]
  refine and_congr_right fun _ => and_congr_right fun hagree => and_congr_right fun _ => ?_
  simp only [hnil, proofOf, canonical_congr ((consistent_congr hmem).2 hagree) hmem]

theorem accepted_of_mergePermissionEpochProofs
    (h : mergePermissionEpochProofs values = .ok (some proof)) :
    proof.Accepted ∧ ∀ entry, entry ∈ proof.entries ↔ entry ∈ entriesOf values := by
  obtain ⟨haccepted, hagree, hlimit, hresult⟩ := mergePermissionEpochProofs_ok.1 h
  split at hresult
  · cases hresult
  · next hnil =>
    obtain rfl := some.inj hresult
    have hmem : ∀ entry, entry ∈ (proofOf (entriesOf values)).entries ↔ entry ∈ entriesOf values :=
      fun entry => mem_canonical
    have hlength : (proofOf (entriesOf values)).entries.length =
        (distinct (entriesOf values)).length := length_sortBy
    have hne : (proofOf (entriesOf values)).entries ≠ [] := by
      refine mt (fun hempty => ?_) hnil
      rw [eq_nil_iff_forall_not_mem] at hempty ⊢
      exact fun a ha => hempty a ((hmem a).2 ha)
    have hwell : ∀ entry ∈ (proofOf (entriesOf values)).entries, entry.WellFormed := by
      intro entry hentry
      obtain ⟨value, hvalue, hin⟩ := mem_entriesOf.1 ((hmem entry).1 hentry)
      obtain ⟨-, -, -, -, hfields, -⟩ :=
        PermissionEpochProof.accepted_iff.1 (haccepted value hvalue)
      exact hfields entry hin
    exact ⟨PermissionEpochProof.accepted_iff.2
      ⟨rfl, rfl, hne, hlength ▸ hlimit, hwell, pairwise_canonical hagree⟩, hmem⟩

end

theorem PermissionEpochProof.Accepted.proofOf_eq (h : proof.Accepted)
    {entries : List PermissionEpochEntry} (hmem : ∀ a, a ∈ proof.entries ↔ a ∈ entries) :
    proofOf entries = proof := by
  obtain ⟨hversion, hpolicy, -, -, -, hsorted⟩ := accepted_iff.1 h
  have hagree : Agree entries := (consistent_congr hmem).1 h.agree
  obtain ⟨version, policyVersion, proofEntries⟩ := proof
  simp only at hversion hpolicy hsorted hmem
  rw [proofOf, canonical_eq hagree hsorted hmem, hversion, hpolicy]

/-! ## Merging in steps -/

section
variable {values : List (Option PermissionEpochProof)} {value : Option PermissionEpochProof}
  {result : Option PermissionEpochProof}

theorem forall_none_of_merge (h : mergePermissionEpochProofs values = .ok none) :
    ∀ value ∈ values, value = none := by
  obtain ⟨haccepted, -, -, hresult⟩ := mergePermissionEpochProofs_ok.1 h
  have hnil : entriesOf values = [] := by
    by_contra hne
    rw [if_neg hne] at hresult
    cases hresult
  intro value hvalue
  cases value with
  | none => rfl
  | some proof =>
    obtain ⟨-, -, hne, -⟩ := PermissionEpochProof.accepted_iff.1 (haccepted proof hvalue)
    obtain ⟨entry, hentry⟩ := exists_mem_of_ne_nil _ hne
    exact absurd (mem_entriesOf.2 ⟨proof, hvalue, hentry⟩) (by simp [hnil])

theorem merge_result_iff {merged : Option PermissionEpochProof}
    (h : mergePermissionEpochProofs values = .ok merged) :
    mergePermissionEpochProofs [merged, value] = .ok result ↔
      mergePermissionEpochProofs (values ++ [value]) = .ok result := by
  have hvalues := (mergePermissionEpochProofs_ok.1 h).1
  cases merged with
  | none =>
    have hnone := forall_none_of_merge h
    refine mergePermissionEpochProofs_congr ?_ fun entry => ?_
    · refine ⟨fun ha proof hproof => ?_, fun ha proof hproof => ha proof ?_⟩
      · rcases mem_append.1 hproof with hproof | hproof
        · exact hvalues proof hproof
        · exact ha proof (.tail _ hproof)
      · have hlast : some proof = value := by simpa using hproof
        simp [hlast]
    · simp only [mem_entriesOf]
      refine exists_congr fun proof => and_congr_left fun _ => ?_
      have hnot : some proof ∉ values := fun hproof => some_ne_none proof (hnone _ hproof)
      simp [hnot]
  | some merged =>
    obtain ⟨haccepted, hmem⟩ := accepted_of_mergePermissionEpochProofs h
    refine mergePermissionEpochProofs_congr ?_ fun entry => ?_
    · refine ⟨fun ha proof hproof => ?_, fun ha proof hproof => ?_⟩
      · rcases mem_append.1 hproof with hproof | hproof
        · exact hvalues proof hproof
        · exact ha proof (.tail _ hproof)
      · rcases mem_cons.1 hproof with he | hproof
        · exact some.inj he ▸ haccepted
        · exact ha proof (mem_append_right _ hproof)
    · have happend : entriesOf (values ++ [value]) = entriesOf values ++ entriesOf [value] :=
        flatMap_append
      have hcons : entriesOf [some merged, value] = merged.entries ++ entriesOf [value] :=
        flatMap_cons
      rw [happend, hcons, mem_append, mem_append, hmem]

theorem merge_of_merge_concat (h : mergePermissionEpochProofs (values ++ [value]) = .ok result) :
    ∃ merged, mergePermissionEpochProofs values = .ok merged := by
  obtain ⟨haccepted, hagree, hlimit, -⟩ := mergePermissionEpochProofs_ok.1 h
  have hsub : ∀ entry ∈ entriesOf values, entry ∈ entriesOf (values ++ [value]) := by
    intro entry hentry
    obtain ⟨proof, hproof, hin⟩ := mem_entriesOf.1 hentry
    exact mem_entriesOf.2 ⟨proof, mem_append_left _ hproof, hin⟩
  have hlength : (distinct (entriesOf values)).length ≤
      (distinct (entriesOf (values ++ [value]))).length := by
    refine ((nodup_distinct _).subperm fun entry hentry => ?_).length_le
    exact mem_distinct.2 (hsub entry (mem_distinct.1 hentry))
  exact ⟨_, mergePermissionEpochProofs_ok.2
    ⟨fun proof hproof => haccepted proof (mem_append_left _ hproof), hagree.subset hsub,
      Nat.le_trans hlength hlimit, rfl⟩⟩

/-- Merging in two steps, the new value last. -/
theorem merge_concat : (∃ merged, mergePermissionEpochProofs values = .ok merged ∧
    mergePermissionEpochProofs [merged, value] = .ok result) ↔
      mergePermissionEpochProofs (values ++ [value]) = .ok result := by
  constructor
  · rintro ⟨merged, hmerged, h⟩
    exact (merge_result_iff hmerged).1 h
  · intro h
    obtain ⟨merged, hmerged⟩ := merge_of_merge_concat h
    exact ⟨merged, hmerged, (merge_result_iff hmerged).2 h⟩

/-- The order of the values does not matter. -/
theorem merge_perm {values' : List (Option PermissionEpochProof)} (h : values.Perm values') :
    mergePermissionEpochProofs values = .ok result ↔
      mergePermissionEpochProofs values' = .ok result := by
  refine mergePermissionEpochProofs_congr (by simp [h.mem_iff]) fun entry => ?_
  simp [mem_entriesOf, h.mem_iff]

/-- Merging in two steps, the new value first. -/
theorem merge_cons : (∃ merged, mergePermissionEpochProofs values = .ok merged ∧
    mergePermissionEpochProofs [value, merged] = .ok result) ↔
      mergePermissionEpochProofs (value :: values) = .ok result := by
  have hswap (merged : Option PermissionEpochProof) : [value, merged].Perm [merged, value] :=
    .swap ..
  rw [merge_perm (perm_append_singleton value values).symm, ← merge_concat]
  simp only [fun merged => @merge_perm _ result _ (hswap merged)]

end

/-! ## Receipts

An accepted proof is a receipt. Receipts are ordered by their entries, and a merge is a least upper
bound in that order. -/

/-- A proof that is accepted. -/
abbrev PermissionReceipt := { proof : PermissionEpochProof // proof.Accepted }

def PermissionEpochProof.identities (proof : PermissionEpochProof) :
    Finset PermissionEpochIdentity :=
  (proof.entries.map PermissionEpochEntry.toPermissionEpochIdentity).toFinset

namespace PermissionReceipt

instance : PartialOrder PermissionReceipt where
  le p q := ∀ entry ∈ p.1.entries, entry ∈ q.1.entries
  le_refl _ _ h := h
  le_trans _ _ _ hpq hqr entry h := hqr entry (hpq entry h)
  le_antisymm p q hpq hqp := by
    have hmem : ∀ entry, entry ∈ q.1.entries ↔ entry ∈ p.1.entries :=
      fun entry => ⟨hqp entry, hpq entry⟩
    have hp : proofOf p.1.entries = p.1 := p.2.proofOf_eq fun _ => Iff.rfl
    exact Subtype.ext (hp.symm.trans (q.2.proofOf_eq hmem))

variable {p q : PermissionReceipt}

theorem accepted_pair (p q : PermissionReceipt) :
    ∀ proof, some proof ∈ [some p.1, some q.1] → proof.Accepted := by
  intro proof hproof
  rcases mem_cons.1 hproof with he | hproof
  · exact some.inj he ▸ p.2
  · exact some.inj (mem_singleton.1 hproof) ▸ q.2

theorem mem_entriesOf_pair {entry : PermissionEpochEntry} :
    entry ∈ entriesOf [some p.1, some q.1] ↔ entry ∈ p.1.entries ∨ entry ∈ q.1.entries := by
  simp [entriesOf]

/-- The entries of two receipts agree when no identity of both has two epochs. -/
theorem agree_pair : Agree (entriesOf [some p.1, some q.1]) ↔
    ∀ a ∈ p.1.entries, ∀ b ∈ q.1.entries,
      a.toPermissionEpochIdentity = b.toPermissionEpochIdentity → a.epoch = b.epoch := by
  rw [agree_iff]
  simp only [mem_entriesOf_pair]
  constructor
  · exact fun h a ha b hb => h a (.inl ha) b (.inr hb)
  · rintro h a (ha | ha) b (hb | hb) hidentity
    · exact agree_iff.1 p.2.agree a ha b hb hidentity
    · exact h a ha b hb hidentity
    · exact (h b hb a ha hidentity.symm).symm
    · exact agree_iff.1 q.2.agree a ha b hb hidentity

theorem card_identities (h : Agree (entriesOf [some p.1, some q.1])) :
    (p.1.identities ∪ q.1.identities).card =
      (distinct (entriesOf [some p.1, some q.1])).length := by
  have hunion : p.1.identities ∪ q.1.identities =
      ((distinct (entriesOf [some p.1, some q.1])).map
        PermissionEpochEntry.toPermissionEpochIdentity).toFinset := by
    ext identity
    simp only [PermissionEpochProof.identities, Finset.mem_union, List.mem_toFinset, mem_map,
      mem_distinct, mem_entriesOf_pair]
    constructor
    · rintro (⟨entry, hentry, rfl⟩ | ⟨entry, hentry, rfl⟩)
      · exact ⟨entry, .inl hentry, rfl⟩
      · exact ⟨entry, .inr hentry, rfl⟩
    · rintro ⟨entry, hentry | hentry, rfl⟩
      · exact .inl ⟨entry, hentry, rfl⟩
      · exact .inr ⟨entry, hentry, rfl⟩
  have hinjective : ∀ a ∈ distinct (entriesOf [some p.1, some q.1]),
      ∀ b ∈ distinct (entriesOf [some p.1, some q.1]),
      a.toPermissionEpochIdentity = b.toPermissionEpochIdentity → a = b :=
    fun a ha b hb hidentity =>
      h a (mem_distinct.1 ha) b (mem_distinct.1 hb) (congrArg epochKey hidentity)
  rw [hunion, toFinset_card_of_nodup, length_map]
  exact (nodup_distinct _).map_on hinjective

/-- Two receipts have a merge when no identity has two epochs and the identities are not too
many. -/
theorem merge_defined_iff :
    (∃ merged, mergePermissionEpochProofs [some p.1, some q.1] = .ok merged) ↔
      (∀ a ∈ p.1.entries, ∀ b ∈ q.1.entries,
        a.toPermissionEpochIdentity = b.toPermissionEpochIdentity → a.epoch = b.epoch) ∧
      (p.1.identities ∪ q.1.identities).card ≤ MAX_EPOCH_IDENTITIES := by
  rw [← agree_pair]
  constructor
  · rintro ⟨merged, h⟩
    obtain ⟨-, hagree, hlimit, -⟩ := mergePermissionEpochProofs_ok.1 h
    exact ⟨hagree, (card_identities hagree).trans_le hlimit⟩
  · rintro ⟨hagree, hlimit⟩
    exact ⟨_, mergePermissionEpochProofs_ok.2
      ⟨accepted_pair p q, hagree, (card_identities hagree).symm.trans_le hlimit, rfl⟩⟩

theorem merge_entries {merged : Option PermissionEpochProof}
    (h : mergePermissionEpochProofs [some p.1, some q.1] = .ok merged) :
    ∃ r : PermissionReceipt, merged = some r.1 ∧
      ∀ entry, entry ∈ r.1.entries ↔ entry ∈ p.1.entries ∨ entry ∈ q.1.entries := by
  cases merged with
  | none => exact absurd (forall_none_of_merge h _ (.head _)) (by simp)
  | some merged =>
    obtain ⟨haccepted, hmem⟩ := accepted_of_mergePermissionEpochProofs h
    exact ⟨⟨merged, haccepted⟩, rfl, fun entry => (hmem entry).trans mem_entriesOf_pair⟩

/-- The receipt with the entries of two receipts is their least upper bound. -/
theorem isLUB_of_entries {r : PermissionReceipt}
    (h : ∀ entry, entry ∈ r.1.entries ↔ entry ∈ p.1.entries ∨ entry ∈ q.1.entries) :
    IsLUB {p, q} r := by
  constructor
  · rintro s (rfl | rfl) entry hentry
    · exact (h entry).2 (.inl hentry)
    · exact (h entry).2 (.inr hentry)
  · intro s hs entry hentry
    rcases (h entry).1 hentry with hp | hq
    · exact hs (.inl rfl) entry hp
    · exact hs (.inr rfl) entry hq

theorem merge_defined_of_le {s : PermissionReceipt} (hp : p ≤ s) (hq : q ≤ s) :
    ∃ merged, mergePermissionEpochProofs [some p.1, some q.1] = .ok merged := by
  refine merge_defined_iff.2 ⟨fun a ha b hb => ?_, ?_⟩
  · exact agree_iff.1 s.2.agree a (hp a ha) b (hq b hb)
  · obtain ⟨-, -, -, hlimit, -⟩ := PermissionEpochProof.accepted_iff.1 s.2
    have hsub : p.1.identities ∪ q.1.identities ⊆ s.1.identities := by
      intro identity hidentity
      simp only [PermissionEpochProof.identities, Finset.mem_union, List.mem_toFinset,
        mem_map] at hidentity ⊢
      rcases hidentity with ⟨entry, hentry, rfl⟩ | ⟨entry, hentry, rfl⟩
      · exact ⟨entry, hp entry hentry, rfl⟩
      · exact ⟨entry, hq entry hentry, rfl⟩
    calc (p.1.identities ∪ q.1.identities).card
      _ ≤ s.1.identities.card := Finset.card_le_card hsub
      _ ≤ (s.1.entries.map PermissionEpochEntry.toPermissionEpochIdentity).length :=
        toFinset_card_le _
      _ ≤ MAX_EPOCH_IDENTITIES := by rwa [length_map]

/-- A merge is a least upper bound, and there is one whenever the receipts are bounded. -/
theorem merge_iff_isLUB {r : PermissionReceipt} :
    mergePermissionEpochProofs [some p.1, some q.1] = .ok (some r.1) ↔ IsLUB {p, q} r := by
  constructor
  · intro h
    obtain ⟨r', hr', hmem⟩ := merge_entries h
    obtain rfl : r = r' := Subtype.ext (some.inj hr')
    exact isLUB_of_entries hmem
  · intro h
    obtain ⟨merged, hmerged⟩ := merge_defined_of_le (h.1 (.inl rfl)) (h.1 (.inr rfl))
    obtain ⟨r', rfl, hmem⟩ := merge_entries hmerged
    rw [hmerged, h.unique (isLUB_of_entries hmem)]

end PermissionReceipt

end Corgtex.Domain
