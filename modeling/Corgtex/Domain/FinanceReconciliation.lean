import Corgtex.Domain.Errors
import Corgtex.Library.GroupBy
import Corgtex.Library.JsDate
import Corgtex.Library.Json
import Corgtex.Library.StringOrder
import Mathlib.Data.List.Dedup

/-!
# Reconciliation of imported finance facts

`finance-import-reconciliation.ts` compares the rows of an imported report with the current facts of
the workspace. A row gets a semantic key, rows of one key are grouped, and each row is decided:
added, an update, unchanged, a duplicate, a conflict or skipped. The order of the rows does not
matter (`reconcileFinanceImportCandidates_sound`).

Unicode tables, the hash and the printing of numbers belong to the platform and are parameters.
Amounts are integral cents.
-/

namespace Corgtex.Domain

open JsArray JsString List

/-! ## The identity of a fact -/

/-- What the platform supplies: `normalize("NFKC")`, `toLocaleLowerCase("en-US")`, the printing of
a JSON number and the hexadecimal SHA-256 digest of a text. -/
structure Platform (ν : Type) where
  normalizeNfkc : JsString → JsString
  toLocaleLowerCase : JsString → JsString
  numberToString : ν → JsString
  sha256Hex : JsString → JsString

/-- A `Date`; an invalid one has no time value. -/
abbrev Date := Option TimeValue

/-- `FinanceReportType` (`schema.prisma`). -/
inductive FinanceReportType where
  | PROFIT_AND_LOSS | BALANCE_SHEET | CASH_FLOW | TRIAL_BALANCE | OTHER
deriving DecidableEq, Repr

def FinanceReportType.text : FinanceReportType → JsString
  | PROFIT_AND_LOSS => lit "PROFIT_AND_LOSS"
  | BALANCE_SHEET => lit "BALANCE_SHEET"
  | CASH_FLOW => lit "CASH_FLOW"
  | TRIAL_BALANCE => lit "TRIAL_BALANCE"
  | OTHER => lit "OTHER"

/-- `FinanceAccountingBasis` (`schema.prisma`). -/
inductive FinanceAccountingBasis where
  | CASH | ACCRUAL | UNSPECIFIED
deriving DecidableEq, Repr

def FinanceAccountingBasis.text : FinanceAccountingBasis → JsString
  | CASH => lit "CASH"
  | ACCRUAL => lit "ACCRUAL"
  | UNSPECIFIED => lit "UNSPECIFIED"

/-- `FINANCE_REPORT_ISO_4217_CODES` (`finance-imports.ts:9`). -/
def financeReportIso4217Codes : List JsString :=
  (lit <|
    "AED AFN ALL AMD AOA ARS AUD AWG AZN BAM BBD BDT BHD BIF BMD BND BOB BOV BRL BSD BTN BWP " ++
    "BYN BZD CAD CDF CHE CHF CHW CLF CLP CNY COP COU CRC CUP CVE CZK DJF DKK DOP DZD EGP ERN " ++
    "ETB EUR FJD FKP GBP GEL GHS GIP GMD GNF GTQ GYD HKD HNL HTG HUF IDR ILS INR IQD IRR ISK " ++
    "JMD JOD JPY KES KGS KHR KMF KPW KRW KWD KYD KZT LAK LBP LKR LRD LSL LYD MAD MDL MGA MKD " ++
    "MMK MNT MOP MRU MUR MVR MWK MXN MXV MYR MZN NAD NGN NIO NOK NPR NZD OMR PAB PEN PGK PHP " ++
    "PKR PLN PYG QAR RON RSD RUB RWF SAR SBD SCR SDG SEK SGD SHP SLE SOS SRD SSP STN SVC SYP " ++
    "SZL THB TJS TMT TND TOP TRY TTD TWD TZS UAH UGX USD USN UYI UYU UYW UZS VED VES VND VUV " ++
    "WST XAD XAF XAG XAU XBA XBB XBC XBD XCD XCG XDR XOF XPD XPF XPT XSU XTS XUA XXX YER ZAR " ++
    "ZMW ZWG").split 0x20

/-- `[A-Za-z]`. -/
def isLetter (u : UInt16) : Bool := (0x41 ≤ u && u ≤ 0x5A) || (0x61 ≤ u && u ≤ 0x7A)

/-- `toUpperCase`, on `[A-Za-z]`. -/
def toUpperLetter (u : UInt16) : UInt16 := if 0x61 ≤ u then u - 0x20 else u

/-- `normalizeFinanceImportCurrency` (`finance-imports.ts:31`). -/
def normalizeFinanceImportCurrency (value : JsString) (label : String) :
    Except AppError JsString := do
  let currency := value.trim
  invariant (currency.length = 3 && currency.all isLetter) 400 "INVALID_INPUT"
    (label ++ " must be a three-letter code.")
  return currency.map toUpperLetter

/-- `normalizeFinanceImportIsoCurrency` (`finance-imports.ts:37`). -/
def normalizeFinanceImportIsoCurrency (value : JsString) (label : String) :
    Except AppError JsString := do
  let currency ← normalizeFinanceImportCurrency value label
  invariant (financeReportIso4217Codes.contains currency) 400 "INVALID_INPUT"
    (label ++ " must be an ISO 4217 code.")
  return currency

/-- `.replace(/\s+/gu, " ")`. -/
def collapseSpaces : JsString → JsString
  | [] => []
  | [u] => [if isSpace u then 0x20 else u]
  | u :: v :: rest =>
    if isSpace u && isSpace v then collapseSpaces (v :: rest)
    else (if isSpace u then 0x20 else u) :: collapseSpaces (v :: rest)

variable {ν : Type} (platform : Platform ν)

mutual

/-- `canonicalJson` (line 18). The keys of an object are distinct, so sorting its members is sorting
its keys. -/
def canonicalJson : Json ν → JsString
  | .array items => lit "[" ++ join (lit ",") (canonicalItems items) ++ lit "]"
  | .object members =>
    let sorted := sortBy (fun a b => compare a.1 b.1) (canonicalMembers members)
    lit "\x7b" ++ join (lit ",") (sorted.map fun m => Json.quote m.1 ++ lit ":" ++ m.2) ++ lit "\x7d"
  | value => Json.stringify platform.numberToString value

/-- `value.map(canonicalJson)`. -/
def canonicalItems : List (Json ν) → List JsString
  | [] => []
  | item :: items => canonicalJson item :: canonicalItems items

/-- The canonical text of each member. -/
def canonicalMembers : List (JsString × Json ν) → List (JsString × JsString)
  | [] => []
  | (key, value) :: members => (key, canonicalJson value) :: canonicalMembers members

end

/-- `normalizedPath` (line 24). -/
def normalizedPath (path : List JsString) : Except AppError (List JsString) := do
  let result := path.map fun part =>
    platform.toLocaleLowerCase (collapseSpaces (platform.normalizeNfkc part).trim)
  invariant (result.length > 0 && result.all (· ≠ [])) 400 "INVALID_FINANCE_IMPORT_IDENTITY"
    "Finance report account path is ambiguous."
  return result

/-- `dateOnly` (line 30). -/
def dateOnly : Date → Except AppError JsString
  | none => .error ⟨400, "INVALID_FINANCE_IMPORT_IDENTITY", "Finance report period is invalid."⟩
  | some value => return (JsDate.toISOString value).take 10

/-- `from <= to`: no comparison holds of an invalid date. -/
def dateLe : Date → Date → Bool
  | some start, some stop => start.ms ≤ stop.ms
  | _, _ => false

/-- The arguments of `buildFinanceReportFactSemanticKey`. -/
structure FactIdentity (ν : Type) where
  workspaceId : JsString
  reportType : FinanceReportType
  basis : FinanceAccountingBasis
  currency : JsString
  accountPath : List JsString
  periodStart : Date
  periodEnd : Date
  dimensions : Option (Json ν)

/-- `JSON.stringify(identity)`, on the elements of `identity` as JSON values. -/
def identityText (workspaceId reportType basis currency : JsString) (path : List JsString)
    (periodStart periodEnd dimensions : JsString) : JsString :=
  Json.stringify platform.numberToString <| .array [.string (lit "finance-report-fact/v1"),
    .string workspaceId, .string reportType, .string basis, .string currency,
    .array (path.map .string), .string periodStart, .string periodEnd, .string dimensions]

/-- `buildFinanceReportFactSemanticKey` (line 35). -/
def buildFinanceReportFactSemanticKey (params : FactIdentity ν) : Except AppError JsString := do
  invariant (dateLe params.periodStart params.periodEnd) 400 "INVALID_FINANCE_IMPORT_IDENTITY"
    "Finance report period is reversed."
  let workspaceId := params.workspaceId.trim
  let currency ← normalizeFinanceImportIsoCurrency params.currency "Currency"
  let path ← normalizedPath platform params.accountPath
  let periodStart ← dateOnly params.periodStart
  let periodEnd ← dateOnly params.periodEnd
  let dimensions := canonicalJson platform (params.dimensions.getD .null)
  invariant (workspaceId ≠ []) 400 "INVALID_FINANCE_IMPORT_IDENTITY"
    "Finance report workspace is required."
  return platform.sha256Hex <| identityText platform workspaceId params.reportType.text
    params.basis.text currency path periodStart periodEnd dimensions

/-! ## Decisions -/

/-- The kind of a fact or a candidate. -/
inductive FactKind where
  | LEAF | DERIVED
deriving DecidableEq, Repr

/-- `Candidate` (line 12). -/
structure Candidate (ν : Type) where
  id : Option JsString
  sourceKey : JsString
  version : Option Int
  proposedAccountPath : List JsString
  factKind : FactKind
  periodStart : Date
  periodEnd : Date
  amountCents : Int
  dimensions : Option (Json ν)
  proposalJson : Option (Json ν)

/-- `CurrentFact` (line 14). -/
structure CurrentFact where
  id : JsString
  semanticKey : JsString
  kind : FactKind
  amountCents : Int
  currentFactRevisionId : Option JsString
deriving DecidableEq, Repr

/-- `FinanceImportCandidateAction` (`schema.prisma`). -/
inductive CandidateAction where
  | ADD | UPDATE | UNCHANGED | DUPLICATE | CONFLICT | SKIP
deriving DecidableEq, Repr

/-- The `FinanceImportCandidateReviewState`s that a decision begins with. -/
inductive CandidateReviewState where
  | PROPOSED | VERIFIED | BLOCKED
deriving DecidableEq, Repr

/-- `FinanceImportReconciliationDecision` (line 15). -/
structure Decision (ν : Type) where
  candidate : Candidate ν
  semanticKey : Option JsString
  action : CandidateAction
  reviewState : CandidateReviewState
  currentFactId : Option JsString
  currentFactRevisionId : Option JsString
  currentAmountCents : Option Int
  explanationMd : Option String

/-- `outcome` (line 45). -/
def outcome (candidate : Candidate ν) (semanticKey : Option JsString) (action : CandidateAction)
    (current : Option CurrentFact) (explanationMd : Option String) : Decision ν where
  candidate
  semanticKey
  action
  reviewState := match action with
    | .CONFLICT => .BLOCKED
    | .UNCHANGED | .DUPLICATE | .SKIP => .VERIFIED
    | .ADD | .UPDATE => .PROPOSED
  currentFactId := current.map CurrentFact.id
  currentFactRevisionId := current.bind CurrentFact.currentFactRevisionId
  currentAmountCents := current.map CurrentFact.amountCents
  explanationMd

/-- The arguments of `reconcileFinanceImportCandidates`, apart from the two lists. -/
structure ReportIdentity where
  workspaceId : JsString
  reportType : FinanceReportType
  basis : FinanceAccountingBasis
  currency : JsString
deriving DecidableEq, Repr

section
variable (identity : ReportIdentity) (candidate : Candidate ν)

def candidateKey : Except AppError JsString :=
  buildFinanceReportFactSemanticKey platform
    { workspaceId := identity.workspaceId, reportType := identity.reportType,
      basis := identity.basis, currency := identity.currency,
      accountPath := candidate.proposedAccountPath, periodStart := candidate.periodStart,
      periodEnd := candidate.periodEnd, dimensions := candidate.dimensions }

/-- An element of `keyed`: decided at once, or a candidate with its key (line 56). -/
def keyCandidate : Decision ν ⊕ JsString × Candidate ν :=
  match candidate.factKind with
  | .DERIVED => .inl <| outcome candidate none .SKIP none <| some
      "Derived rows are validation-only and are not canonical Reported Actuals."
  | .LEAF =>
    match candidateKey platform identity candidate with
    | .ok semanticKey => .inr (semanticKey, candidate)
    | .error _ => .inl <| outcome candidate none .CONFLICT none <| some
        "The proposed fact identity is ambiguous."

end

/-- `facts.get(semanticKey) ?? null`: of two facts with one key the later one is in the map. -/
def currentFact (facts : List CurrentFact) (semanticKey : JsString) : Option CurrentFact :=
  facts.reverse.find? fun fact => fact.semanticKey = semanticKey

section
variable (current : Option CurrentFact) (amountCents : Int)

/-- The action of the first candidate of a group. -/
def firstAction : CandidateAction :=
  match current with
  | none => .ADD
  | some current => if current.amountCents = amountCents then .UNCHANGED else .UPDATE

/-- The explanation of the first candidate of a group. -/
def firstExplanation : Option String :=
  match current with
  | none => none
  | some current =>
    if current.amountCents ≠ amountCents then
      some s!"Restatement from {current.amountCents} to {amountCents} cents."
    else none

end

/-- The decisions of a group (line 68). -/
def decideGroup (facts : List CurrentFact) (semanticKey : JsString)
    (unsorted : List (Candidate ν)) : List (Decision ν) :=
  let candidates := sortBy (fun left right => threeWay left.sourceKey right.sourceKey) unsorted
  let current := currentFact facts semanticKey
  if (candidates.map Candidate.amountCents).dedup.length > 1 ||
      current.any fun current => current.kind ≠ .LEAF then
    candidates.map fun candidate => outcome candidate semanticKey .CONFLICT current <| some
      "Multiple facts claim this identity with incompatible values or kinds."
  else
    match candidates with
    | [] => []
    | first :: rest =>
      outcome first semanticKey (firstAction current first.amountCents) current
          (firstExplanation current first.amountCents) ::
        rest.map fun candidate => outcome candidate semanticKey .DUPLICATE current <| some
          "Equivalent source lines resolve to the same semantic fact."

/-- `counts` (line 81). -/
structure ReconciliationCounts where
  addCount : Nat
  updateCount : Nat
  unchangedCount : Nat
  duplicateCount : Nat
  conflictCount : Nat
  skippedCount : Nat
deriving DecidableEq, Repr

namespace ReconciliationCounts

section
variable (counts : ReconciliationCounts)

/-- `counts[countKey[action]]`. -/
def get : CandidateAction → Nat
  | .ADD => counts.addCount
  | .UPDATE => counts.updateCount
  | .UNCHANGED => counts.unchangedCount
  | .DUPLICATE => counts.duplicateCount
  | .CONFLICT => counts.conflictCount
  | .SKIP => counts.skippedCount

/-- `counts[countKey[action]] += 1`. -/
def increment : CandidateAction → ReconciliationCounts
  | .ADD => { counts with addCount := counts.addCount + 1 }
  | .UPDATE => { counts with updateCount := counts.updateCount + 1 }
  | .UNCHANGED => { counts with unchangedCount := counts.unchangedCount + 1 }
  | .DUPLICATE => { counts with duplicateCount := counts.duplicateCount + 1 }
  | .CONFLICT => { counts with conflictCount := counts.conflictCount + 1 }
  | .SKIP => { counts with skippedCount := counts.skippedCount + 1 }

/-- The six counts together. -/
def total : Nat :=
  counts.addCount + counts.updateCount + counts.unchangedCount + counts.duplicateCount +
    counts.conflictCount + counts.skippedCount

end

end ReconciliationCounts

section
variable (identity : ReportIdentity) (candidates : List (Candidate ν))
  (currentFacts : List CurrentFact)

/-- `reconcileFinanceImportCandidates` (line 50), the decisions. -/
def reconciliationDecisions : List (Decision ν) :=
  let keyed := candidates.map (keyCandidate platform identity)
  let groups := JsMap.groupBy (keyed.filterMap Sum.getRight?)
  keyed.filterMap Sum.getLeft? ++
    groups.flatMap fun group => decideGroup currentFacts group.1 group.2

/-- `reconcileFinanceImportCandidates` (line 50). -/
def reconcileFinanceImportCandidates : List (Decision ν) × ReconciliationCounts :=
  let decisions := reconciliationDecisions platform identity candidates currentFacts
  (decisions, decisions.foldl (fun counts decision => counts.increment decision.action)
    ⟨0, 0, 0, 0, 0, 0⟩)

end

/-! ## One group -/

variable {platform} {identity : ReportIdentity} {candidates candidates' : List (Candidate ν)}
  {currentFacts currentFacts' : List CurrentFact} {key : JsString}

/-- The winner and the duplicates of a key, or its conflicts. -/
def Settled (mine : List (Decision ν)) : Prop :=
  (∀ decision ∈ mine, decision.action = .CONFLICT) ∨
    ∃ winner rest, mine.Perm (winner :: rest) ∧
      (winner.action = .ADD ∨ winner.action = .UPDATE ∨ winner.action = .UNCHANGED) ∧
      ∀ decision ∈ rest, decision.action = .DUPLICATE ∧
        decision.candidate.amountCents = winner.candidate.amountCents

theorem comparator_sourceKey : Comparator fun left right : Candidate ν =>
    threeWay left.sourceKey right.sourceKey :=
  comparator_threeWay.on Candidate.sourceKey

/-- A list whose elements make a set of at most one is constant. -/
theorem eq_of_length_dedup_le_one {α : Type} [DecidableEq α] {l : List α} {a b : α}
    (h : ¬ l.dedup.length > 1) (ha : a ∈ l) (hb : b ∈ l) : a = b := by
  have ha := mem_dedup.2 ha
  have hb := mem_dedup.2 hb
  match hl : l.dedup with
  | [] => rw [hl] at ha; cases ha
  | [c] =>
    rw [hl, mem_singleton] at ha hb
    exact ha.trans hb.symm
  | _ :: _ :: _ =>
    rw [hl] at h
    exact absurd (Nat.succ_lt_succ (Nat.succ_pos _)) h

theorem firstAction_mem (current : Option CurrentFact) (amountCents : Int) :
    firstAction current amountCents = .ADD ∨ firstAction current amountCents = .UPDATE ∨
      firstAction current amountCents = .UNCHANGED := by
  cases current with
  | none => exact .inl rfl
  | some current =>
    simp only [firstAction]
    split <;> simp

section
variable (facts : List CurrentFact) (semanticKey : JsString)

/-- **A group.** It decides each of its candidates once, under its key, and settles the key. -/
theorem decideGroup_spec (unsorted : List (Candidate ν)) :
    ((decideGroup facts semanticKey unsorted).map Decision.candidate).Perm unsorted ∧
      (∀ decision ∈ decideGroup facts semanticKey unsorted,
        decision.semanticKey = some semanticKey) ∧
      Settled (decideGroup facts semanticKey unsorted) := by
  have hperm := sortBy_perm
    (fun left right : Candidate ν => threeWay left.sourceKey right.sourceKey) unsorted
  unfold decideGroup
  dsimp only
  generalize sortBy (fun left right : Candidate ν => threeWay left.sourceKey right.sourceKey)
    unsorted = sorted at hperm
  split
  · refine ⟨?_, ?_, .inl ?_⟩
    · simpa [Function.comp_def, outcome] using hperm
    · simp [outcome]
    · simp [outcome]
  · next hamounts =>
    simp only [Bool.or_eq_true, decide_eq_true_eq, not_or] at hamounts
    cases sorted with
    | nil =>
      dsimp only
      exact ⟨hperm, by simp, .inl (by simp)⟩
    | cons first rest =>
      dsimp only
      refine ⟨?_, ?_, .inr ⟨_, _, .refl _, ?_, ?_⟩⟩
      · simpa [Function.comp_def, outcome] using hperm
      · simp [outcome]
      · exact firstAction_mem _ _
      · intro decision h
        obtain ⟨candidate, hcandidate, rfl⟩ := mem_map.1 h
        exact ⟨rfl, eq_of_length_dedup_le_one hamounts.1
          (mem_map_of_mem (.tail _ hcandidate)) (mem_map_of_mem (.head _))⟩

@[simp] theorem decideGroup_nil : decideGroup facts semanticKey ([] : List (Candidate ν)) = [] := by
  simp [decideGroup, sortBy]

end

theorem decideGroup_perm {unsorted unsorted' : List (Candidate ν)}
    (hfact : currentFact currentFacts key = currentFact currentFacts' key)
    (hdistinct : (unsorted.map Candidate.sourceKey).Nodup) (hperm : unsorted.Perm unsorted') :
    decideGroup currentFacts key unsorted = decideGroup currentFacts' key unsorted' := by
  have hne : unsorted'.Pairwise fun left right =>
      threeWay left.sourceKey right.sourceKey ≠ 0 := by
    refine (pairwise_map.1 ((hperm.map Candidate.sourceKey).nodup hdistinct)).imp ?_
    intro left right h
    rwa [Ne, threeWay_eq_zero]
  have hne' : unsorted.Pairwise fun left right =>
      threeWay left.sourceKey right.sourceKey ≠ 0 := by
    refine (pairwise_map.1 hdistinct).imp ?_
    intro left right h
    rwa [Ne, threeWay_eq_zero]
  have hsorted := sortBy_unique comparator_sourceKey hne'
    (pairwise_lt_sortBy comparator_sourceKey hne) (hperm.trans (sortBy_perm _ unsorted').symm)
  unfold decideGroup
  rw [hsorted, hfact]

/-! ## All decisions -/

/-- The elements of both sides are the elements. -/
theorem filterMap_sides_perm {α β γ : Type} (f : α → γ) (g : β → γ) (l : List (α ⊕ β)) :
    ((l.filterMap Sum.getLeft?).map f ++ (l.filterMap Sum.getRight?).map g).Perm
      (l.map (Sum.elim f g)) := by
  induction l with
  | nil => exact .refl _
  | cons side l ih =>
    cases side with
    | inl a => exact ih.cons (f a)
    | inr b => exact perm_middle.trans (ih.cons (g b))

theorem elim_keyCandidate (platform : Platform ν) (identity : ReportIdentity)
    (candidate : Candidate ν) :
    Sum.elim Decision.candidate Prod.snd (keyCandidate platform identity candidate) =
      candidate := by
  unfold keyCandidate
  split
  · rfl
  · split <;> rfl

theorem semanticKey_of_keyCandidate {candidate : Candidate ν} {decision : Decision ν}
    (h : keyCandidate platform identity candidate = .inl decision) :
    decision.semanticKey = none := by
  unfold keyCandidate at h
  split at h
  · cases h
    rfl
  · split at h
    · cases h
    · cases h
      rfl

section
variable (platform : Platform ν) (identity : ReportIdentity) (candidates : List (Candidate ν))

theorem valuesOf_keyed (key : JsString) :
    JsMap.valuesOf ((candidates.map (keyCandidate platform identity)).filterMap Sum.getRight?) key =
      candidates.filter fun candidate =>
        candidate.factKind = .LEAF ∧ candidateKey platform identity candidate = .ok key := by
  induction candidates with
  | nil => rfl
  | cons candidate candidates ih =>
    rw [map_cons, filterMap_cons, filter_cons, ← ih]
    cases hkind : candidate.factKind with
    | DERIVED => simp [keyCandidate, hkind]
    | LEAF =>
      cases hkey : candidateKey platform identity candidate with
      | error e => simp [keyCandidate, hkind, hkey]
      | ok semanticKey =>
        by_cases h : semanticKey = key <;> simp [keyCandidate, hkind, hkey, h, JsMap.valuesOf]

theorem candidate_reconciliationDecisions (currentFacts : List CurrentFact) :
    ((reconciliationDecisions platform identity candidates currentFacts).map
      Decision.candidate).Perm candidates := by
  obtain ⟨keys, hnodup, hkeys, hgroups⟩ := JsMap.groupBy_eq
    ((candidates.map (keyCandidate platform identity)).filterMap Sum.getRight?)
  unfold reconciliationDecisions
  dsimp only
  rw [hgroups, map_append, flatMap_map, map_flatMap]
  generalize hkeyed : candidates.map (keyCandidate platform identity) = keyed at hkeys ⊢
  have hvalues : (keys.flatMap fun key => (decideGroup currentFacts key
      (JsMap.valuesOf (keyed.filterMap Sum.getRight?) key)).map Decision.candidate).Perm
      ((keyed.filterMap Sum.getRight?).map Prod.snd) :=
    (List.Perm.flatMap_left keys fun key _ => (decideGroup_spec currentFacts key _).1).trans
      (JsMap.flatMap_valuesOf_perm hnodup fun item h =>
        (hkeys item.1).2 (mem_map_of_mem h))
  refine (hvalues.append_left _).trans ((filterMap_sides_perm _ _ keyed).trans ?_)
  rw [← hkeyed, map_map]
  exact .of_eq (map_id'' (elim_keyCandidate platform identity) candidates)

theorem filter_semanticKey_reconciliationDecisions (currentFacts : List CurrentFact)
    (key : JsString) : (reconciliationDecisions platform identity candidates currentFacts).filter
        (fun decision => decision.semanticKey = some key) =
      decideGroup currentFacts key (candidates.filter fun candidate =>
        candidate.factKind = .LEAF ∧ candidateKey platform identity candidate = .ok key) := by
  obtain ⟨keys, hnodup, hkeys, hgroups⟩ := JsMap.groupBy_eq
    ((candidates.map (keyCandidate platform identity)).filterMap Sum.getRight?)
  have hdecided : ((candidates.map (keyCandidate platform identity)).filterMap
      Sum.getLeft?).filter (fun decision => decision.semanticKey = some key) = [] := by
    refine filter_eq_nil_iff.2 fun decision h => ?_
    obtain ⟨side, hside, hdecision⟩ := mem_filterMap.1 h
    obtain ⟨candidate, -, rfl⟩ := mem_map.1 hside
    have hnone := semanticKey_of_keyCandidate (Sum.getLeft?_eq_some_iff.1 hdecision)
    simp [hnone]
  unfold reconciliationDecisions
  dsimp only
  rw [filter_append, hdecided, nil_append, hgroups, flatMap_map, ← valuesOf_keyed]
  generalize (candidates.map (keyCandidate platform identity)).filterMap Sum.getRight? = items
    at hkeys ⊢
  have hgroup : ∀ k, (decideGroup currentFacts k (JsMap.valuesOf items k)).filter
      (fun decision => decision.semanticKey = some key) =
        if k = key then decideGroup currentFacts key (JsMap.valuesOf items key) else [] := by
    intro k
    have hkey := (decideGroup_spec currentFacts k (JsMap.valuesOf items k)).2.1
    split
    · next h =>
      subst h
      exact filter_eq_self.2 fun decision hmem => by simp [hkey decision hmem]
    · next h => exact filter_eq_nil_iff.2 fun decision hmem => by simp [hkey decision hmem, h]
  rw [filter_flatMap]
  simp only [hgroup]
  by_cases h : key ∈ keys
  · exact JsMap.flatMap_ite_eq hnodup h _
  · have hempty : JsMap.valuesOf items key = [] := JsMap.valuesOf_eq_nil.2 (mt (hkeys key).2 h)
    rw [hempty, decideGroup_nil]
    simp

end

/-! ## The counts -/

section
variable (decisions : List (Decision ν)) (counts : ReconciliationCounts)

theorem foldl_increment (action : CandidateAction) :
    (decisions.foldl (fun counts decision => counts.increment decision.action) counts).get action =
      counts.get action + decisions.countP fun decision => decision.action = action := by
  induction decisions generalizing counts with
  | nil => rfl
  | cons decision decisions ih =>
    rw [foldl_cons, ih, countP_cons, Nat.add_comm (countP ..), ← Nat.add_assoc]
    congr 1
    cases decision.action <;> cases action <;> rfl

theorem total_foldl_increment :
    (decisions.foldl (fun counts decision => counts.increment decision.action) counts).total =
      counts.total + decisions.length := by
  induction decisions generalizing counts with
  | nil => rfl
  | cons decision decisions ih =>
    rw [foldl_cons, ih, length_cons]
    cases decision.action <;>
      simp only [ReconciliationCounts.increment, ReconciliationCounts.total] <;> omega

end

/-! ## Order independence -/

theorem currentFact_eq_some (hfacts : (currentFacts.map CurrentFact.semanticKey).Nodup)
    {fact : CurrentFact} :
    currentFact currentFacts key = some fact ↔ fact ∈ currentFacts ∧ fact.semanticKey = key := by
  constructor
  · intro h
    exact ⟨mem_reverse.1 (mem_of_find?_eq_some h), by simpa using find?_some h⟩
  · rintro ⟨hmem, hkey⟩
    obtain ⟨other, hother⟩ : ∃ other, currentFact currentFacts key = some other :=
      Option.isSome_iff_exists.1 <| find?_isSome.2 ⟨fact, mem_reverse.2 hmem, decide_eq_true hkey⟩
    have hkey' : other.semanticKey = key := by simpa using find?_some hother
    have hmem' := mem_reverse.1 (mem_of_find?_eq_some hother)
    rw [hother, inj_on_of_nodup_map hfacts hmem' hmem (hkey'.trans hkey.symm)]

/-- Two lists of facts with distinct keys that are permutations of each other make one map. -/
theorem currentFact_perm (hfacts : (currentFacts.map CurrentFact.semanticKey).Nodup)
    (hperm : currentFacts.Perm currentFacts') (key : JsString) :
    currentFact currentFacts key = currentFact currentFacts' key := by
  refine Option.ext fun fact => ?_
  rw [currentFact_eq_some hfacts, currentFact_eq_some ((hperm.map _).nodup hfacts), hperm.mem_iff]

theorem reconciliationDecisions_perm (platform : Platform ν) (identity : ReportIdentity)
    (hdistinct : (candidates.map Candidate.sourceKey).Nodup)
    (hfacts : (currentFacts.map CurrentFact.semanticKey).Nodup)
    (hcandidates : candidates.Perm candidates') (hperm : currentFacts.Perm currentFacts') :
    (reconciliationDecisions platform identity candidates currentFacts).Perm
      (reconciliationDecisions platform identity candidates' currentFacts') := by
  have hkeyed := hcandidates.map (keyCandidate platform identity)
  refine (hkeyed.filterMap _).append
    (JsMap.flatMap_groupBy_perm (hkeyed.filterMap _) fun key => .of_eq ?_)
  rw [valuesOf_keyed, valuesOf_keyed]
  exact decideGroup_perm (currentFact_perm hfacts hperm key)
    (hdistinct.sublist (filter_sublist.map _)) (hcandidates.filter _)

/-- **Reconciliation.** Every candidate gets one decision, the counts are those of the decisions,
every key is settled among its `LEAF` candidates, and neither the order of the candidates nor that
of the facts matters when the source keys are distinct. -/
theorem reconcileFinanceImportCandidates_sound (platform : Platform ν) (identity : ReportIdentity)
    (candidates : List (Candidate ν)) (currentFacts : List CurrentFact)
    (hfacts : (currentFacts.map CurrentFact.semanticKey).Nodup) :
    let (decisions, counts) :=
      reconcileFinanceImportCandidates platform identity candidates currentFacts
    (decisions.map Decision.candidate).Perm candidates ∧
      counts.total = candidates.length ∧
      (∀ action, counts.get action = decisions.countP fun decision => decision.action = action) ∧
      (∀ key,
        let mine := decisions.filter fun decision => decision.semanticKey = some key
        (mine.map Decision.candidate).Perm (candidates.filter fun candidate =>
          candidate.factKind = .LEAF ∧ candidateKey platform identity candidate = .ok key) ∧
        Settled mine) ∧
      ∀ candidates' currentFacts', candidates.Perm candidates' → currentFacts.Perm currentFacts' →
        (candidates.map Candidate.sourceKey).Nodup →
        decisions.Perm
          (reconcileFinanceImportCandidates platform identity candidates' currentFacts').1 := by
  have hcandidate := candidate_reconciliationDecisions platform identity candidates currentFacts
  refine ⟨hcandidate, ?_, ?_, ?_, ?_⟩
  · rw [total_foldl_increment, ← hcandidate.length_eq, length_map]
    exact Nat.zero_add _
  · intro action
    rw [foldl_increment]
    cases action <;> exact Nat.zero_add _
  · intro key
    dsimp only
    rw [filter_semanticKey_reconciliationDecisions]
    exact ⟨(decideGroup_spec ..).1, (decideGroup_spec ..).2.2⟩
  · intro candidates' currentFacts' hperm hperm' hdistinct
    exact reconciliationDecisions_perm platform identity hdistinct hfacts hperm hperm'

/-- A platform for a single report line. -/
def revenuePlatform : Platform Unit where
  normalizeNfkc := id
  toLocaleLowerCase := List.map fun u => if 0x41 ≤ u && u ≤ 0x5A then u + 0x20 else u
  numberToString _ := lit "0"
  sha256Hex text :=
    if text = lit ("[\"finance-report-fact/v1\",\"w\",\"PROFIT_AND_LOSS\",\"CASH\",\"EUR\"," ++
        "[\"revenue\"],\"2024-01-01\",\"2024-01-31\",\"null\"]") then
      lit "314fedc7588f7ed0fcffb39400dfe36fe7d4acee638dc5025712f534832f8cbe"
    else []

/-- Revenue of January 2024. -/
def revenueLine (sourceKey : String) : Candidate Unit where
  id := none
  sourceKey := lit sourceKey
  version := none
  proposedAccountPath := [lit " Revenue "]
  factKind := .LEAF
  periodStart := some ⟨1704067200000, by decide⟩
  periodEnd := some ⟨1706659200000, by decide⟩
  amountCents := 500
  dimensions := none
  proposalJson := none

def revenueFact : CurrentFact where
  id := lit "fact"
  semanticKey := lit "314fedc7588f7ed0fcffb39400dfe36fe7d4acee638dc5025712f534832f8cbe"
  kind := .LEAF
  amountCents := 400
  currentFactRevisionId := none

/-- Two lines with the revenue of one month restate the fact at most once. -/
theorem revenue_reconciled :
    let (decisions, counts) := reconcileFinanceImportCandidates revenuePlatform
      ⟨lit "w", .PROFIT_AND_LOSS, .CASH, lit "eur"⟩ [revenueLine "b", revenueLine "a"] [revenueFact]
    counts.total = 2 ∧
      Settled (decisions.filter fun decision =>
        decision.semanticKey = some revenueFact.semanticKey) :=
  have h := reconcileFinanceImportCandidates_sound revenuePlatform
    ⟨lit "w", .PROFIT_AND_LOSS, .CASH, lit "eur"⟩ [revenueLine "b", revenueLine "a"] [revenueFact]
    (nodup_singleton _)
  ⟨h.2.1, (h.2.2.2.1 revenueFact.semanticKey).2⟩

end Corgtex.Domain
