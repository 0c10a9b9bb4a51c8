import Corgtex.Domain.DuplicateGuardMerge

/-!
# Exact verdicts of the duplicate guard

`exactMatchReasons` (`duplicate-guard.ts:636`) calls a candidate an exact match
of what is to be created: they share an external key, the hash of their content, or their titles are
identical. Hashes and titles are those of the normal forms, which drop all letters but `a` to `z`.
`verdictSound_iff` says which verdicts are about equal texts.
-/

namespace Corgtex.Domain.DuplicateGuard

open JsString List Words

/-- Unicode and `createHash("sha256")…digest("hex")`, which has no collisions. -/
structure Hashing extends Unicode where
  sha256Hex : JsString → JsString
  sha256Hex_injective : ∀ first second, sha256Hex first = sha256Hex second → first = second

/-- The keys of `inputExactKeys` (line 639). -/
inductive ExactKey
  | externalId
  | sourceUrl
  | contentHash
  | calendarExternalId
  | meetingUrlHash
  | slug
deriving DecidableEq, Repr

/-- What `exactMatchReasons` reports. -/
inductive ExactReason
  | key (key : ExactKey)
  | identicalTitleAndContent
  | identicalTitle
deriving DecidableEq, Repr

/-- The fields of `DuplicateGuardInput` that an exact match is about. -/
structure DuplicateGuardInput where
  title : Option JsString
  body : Option JsString
  content : Option JsString
  externalId : Option JsString
  sourceUrl : Option JsString
  contentHash : Option JsString
  calendarExternalId : Option JsString
  meetingUrlHash : Option JsString
  slug : Option JsString

/-- What `toLoadedCandidate` is given of a row, as far as an exact match is about it. -/
structure CandidateParams where
  title : Option JsString
  body : Option JsString
  content : Option JsString
  contentHash : Option JsString
  exactKeys : ExactKey → Option JsString

/-- A `LoadedCandidate`. -/
structure LoadedCandidate where
  normalizedTitle : JsString
  normalizedBody : JsString
  contentHash : Option JsString
  exactKeys : ExactKey → Option JsString

variable (hashing : Hashing)

/-- `normalizeDuplicateGuardText`, of a value that may be null. -/
def normalizeValue (value : Option JsString) : JsString :=
  normalizeDuplicateGuardText hashing.toUnicode (value.getD [])

/-- `duplicateGuardContentHash` (line 172). -/
def duplicateGuardContentHash (value : Option JsString) : Option JsString :=
  let normalized := normalizeValue hashing value
  if normalized = [] then none else some (hashing.sha256Hex normalized)

/-- `textBody` of `toLoadedCandidate`. -/
def CandidateParams.textBody (params : CandidateParams) : Option JsString :=
  params.body.orElse fun _ => params.content

/-- `toLoadedCandidate` (line 273). -/
def toLoadedCandidate (params : CandidateParams) : LoadedCandidate where
  normalizedTitle := normalizeValue hashing params.title
  normalizedBody := normalizeValue hashing params.textBody
  contentHash := params.contentHash.orElse fun _ =>
    duplicateGuardContentHash hashing params.textBody
  exactKeys := params.exactKeys

section
variable (input : DuplicateGuardInput)

/-- `input.content ?? input.body`, the text of the hash. -/
def DuplicateGuardInput.hashedText : Option JsString :=
  input.content.orElse fun _ => input.body

/-- `input.body ?? input.content`. -/
def DuplicateGuardInput.textBody : Option JsString :=
  input.body.orElse fun _ => input.content

/-- `inputContentHash` (line 638). -/
def inputContentHash : Option JsString :=
  input.contentHash.orElse fun _ => duplicateGuardContentHash hashing input.hashedText

/-- `inputExactKeys[key]` (line 639). -/
def inputExactKey : ExactKey → Option JsString
  | .externalId => input.externalId
  | .sourceUrl => input.sourceUrl
  | .contentHash => inputContentHash hashing input
  | .calendarExternalId => input.calendarExternalId
  | .meetingUrlHash => input.meetingUrlHash
  | .slug => input.slug

end

/-- `candidateValue` (line 649). -/
def candidateExactKey (candidate : LoadedCandidate) (key : ExactKey) : Option JsString :=
  if key = .contentHash then candidate.contentHash else candidate.exactKeys key

/-- `inputValue && candidateValue && inputValue === candidateValue`. -/
def sameValue (inputValue candidateValue : Option JsString) : Bool :=
  inputValue.any (fun value => value ≠ []) && decide (inputValue = candidateValue)

/-- `exactMatchReasons` (line 636). -/
def exactMatchReasons (input : DuplicateGuardInput) (candidate : LoadedCandidate) :
    List ExactReason :=
  let keys := [.externalId, .sourceUrl, .contentHash, .calendarExternalId, .meetingUrlHash, .slug]
  let shared := keys.filter fun key =>
    sameValue (inputExactKey hashing input key) (candidateExactKey candidate key)
  let normalizedTitle := normalizeValue hashing input.title
  let normalizedBody := normalizeValue hashing input.textBody
  shared.map .key ++
    if normalizedTitle ≠ [] ∧ normalizedTitle = candidate.normalizedTitle ∧
        normalizedBody ≠ [] ∧ normalizedBody = candidate.normalizedBody then
      [.identicalTitleAndContent]
    else if normalizedTitle ≠ [] ∧ normalizedTitle = candidate.normalizedTitle ∧
        normalizedBody = [] ∧ candidate.normalizedBody = [] then
      [.identicalTitle]
    else []

/-! ## Sound verdicts -/

/-- Two values have the same letters and digits. -/
def SameLetters (first second : Option JsString) : Prop :=
  readLetters hashing.toUnicode (first.getD []) = readLetters hashing.toUnicode (second.getD [])

/-- The reasons for which a candidate is an exact match. -/
def verdict (input : DuplicateGuardInput) (params : CandidateParams) : List ExactReason :=
  exactMatchReasons hashing input (toLoadedCandidate hashing params)

/-- No external key is among the reasons. -/
def IsTextual (reasons : List ExactReason) : Prop :=
  ∀ key, .key key ∈ reasons → key = .contentHash

/-- A verdict without an external key is about equal texts. -/
structure VerdictSound (input : DuplicateGuardInput) (params : CandidateParams) : Prop where
  contentHash : IsTextual (verdict hashing input params) →
    .key .contentHash ∈ verdict hashing input params →
      SameLetters hashing input.hashedText params.textBody
  title : IsTextual (verdict hashing input params) →
    .identicalTitle ∈ verdict hashing input params ∨
        .identicalTitleAndContent ∈ verdict hashing input params →
      SameLetters hashing input.title params.title
  content : IsTextual (verdict hashing input params) →
    .identicalTitleAndContent ∈ verdict hashing input params →
      SameLetters hashing input.textBody params.textBody

/-! ## When verdicts are sound -/

/-- The units that a predicate does not hold of, each with the number of those before it that it
holds of, counted from `n`. -/
def othersFrom {α : Type} (p : α → Bool) (n : Nat) : List α → List (Nat × α)
  | [] => []
  | a :: rest => if p a then othersFrom p (n + 1) rest else (n, a) :: othersFrom p n rest

/-- The letters of a text that the normal form drops, each with the number of letters before it that
the normal form keeps. -/
def droppedLetters (value : Option JsString) : List (Nat × Nat) :=
  othersFrom isPlain 0 (readLetters hashing.toUnicode (value.getD []))

/-- The letters of a text that the normal form keeps. -/
def keptLetters (value : Option JsString) : JsString :=
  (plainWords hashing.toUnicode (value.getD [])).flatten

/-- The same letters are dropped from two values, at the same places. -/
def SameDropped (first second : Option JsString) : Prop :=
  droppedLetters hashing first = droppedLetters hashing second

/-- Two values have the same normal form, which is not empty. -/
def SameNormal (first second : Option JsString) : Prop :=
  normalizeValue hashing first ≠ [] ∧ normalizeValue hashing first = normalizeValue hashing second

section
variable (input : DuplicateGuardInput) (params : CandidateParams)

def SharesKey : Prop :=
  ∃ key, key ≠ .contentHash ∧ sameValue (inputExactKey hashing input key) (params.exactKeys key)

/-- The hash of a content is given, not computed from it. -/
def IsGiven : Prop :=
  input.contentHash ≠ none ∨ params.contentHash ≠ none

/-- The content hashes are equal. -/
def SameHash : Prop :=
  sameValue (inputContentHash hashing input) (toLoadedCandidate hashing params).contentHash

end

/-- What the normal forms drop is the same wherever they are equal, and what they keep is the same
where only given hashes are. -/
structure Comparable (input : DuplicateGuardInput) (params : CandidateParams) : Prop where
  hash : SameHash hashing input params →
    SameDropped hashing input.hashedText params.textBody ∧
      (IsGiven input params →
        keptLetters hashing input.hashedText = keptLetters hashing params.textBody)
  title : SameNormal hashing input.title params.title →
    SameNormal hashing input.textBody params.textBody ∨
        (normalizeValue hashing input.textBody = [] ∧ normalizeValue hashing params.textBody = []) →
      SameDropped hashing input.title params.title
  content : SameNormal hashing input.title params.title →
    SameNormal hashing input.textBody params.textBody →
      SameDropped hashing input.textBody params.textBody

variable {hashing}

section
variable {first second : Option JsString} {input : DuplicateGuardInput} {params : CandidateParams}

theorem fst_le_of_mem_othersFrom {α : Type} {p : α → Bool} {n : Nat} {list : List α}
    {other : Nat × α} (h : other ∈ othersFrom p n list) : n ≤ other.1 := by
  induction list generalizing n with
  | nil => cases h
  | cons a list ih =>
    rw [othersFrom] at h
    split at h
    · exact Nat.le_of_succ_le (ih h)
    · rcases mem_cons.1 h with rfl | h
      · exact Nat.le_refl n
      · exact ih h

/-- **A list is what a predicate holds of, and the others at their places.** -/
theorem eq_of_othersFrom_eq {α : Type} {p : α → Bool} {n : Nat} {list list' : List α}
    (hfilter : list.filter p = list'.filter p)
    (hothers : othersFrom p n list = othersFrom p n list') : list = list' := by
  induction list generalizing n list' with
  | nil =>
    cases list' with
    | nil => rfl
    | cons b list' =>
      by_cases hb : p b
      · simp [hb] at hfilter
      · simp [othersFrom, hb] at hothers
  | cons a list ih =>
    cases list' with
    | nil =>
      by_cases ha : p a
      · simp [ha] at hfilter
      · simp [othersFrom, ha] at hothers
    | cons b list' =>
      have hlater : ∀ {a b : α} {list list' : List α}, p a → ¬ p b →
          othersFrom p n (a :: list) ≠ othersFrom p n (b :: list') := by
        intro a b list list' ha hb heq
        rw [othersFrom, if_pos ha, othersFrom, if_neg hb] at heq
        have hmem : (n, b) ∈ othersFrom p (n + 1) list := heq ▸ mem_cons_self
        have := fst_le_of_mem_othersFrom hmem
        omega
      by_cases ha : p a <;> by_cases hb : p b
      · rw [filter_cons_of_pos ha, filter_cons_of_pos hb] at hfilter
        rw [othersFrom, if_pos ha, othersFrom, if_pos hb] at hothers
        obtain ⟨rfl, hrest⟩ := cons.inj hfilter
        rw [ih hrest hothers]
      · exact absurd hothers (hlater ha hb)
      · exact absurd hothers.symm (hlater hb ha)
      · rw [filter_cons_of_neg ha, filter_cons_of_neg hb] at hfilter
        rw [othersFrom, if_neg ha, othersFrom, if_neg hb] at hothers
        obtain ⟨heq, hrest⟩ := cons.inj hothers
        obtain ⟨_, rfl⟩ := Prod.mk.inj heq
        rw [ih hfilter hrest]

theorem filter_readLetters (unicode : Unicode) (text : JsString) :
    (readLetters unicode text).filter isPlain =
      (plainWords unicode text).flatten.map UInt16.toNat := by
  have hplain : ∀ n, (isPlain n && unicode.isLetterOrDigit n) = isPlain n := by
    intro n
    cases h : isPlain n with
    | false => rw [Bool.false_and]
    | true => rw [isLetterOrDigit_of_isPlain unicode h, Bool.and_true]
  simp only [readLetters, filter_filter, hplain]
  rw [← flatten_words, words_scalars, plainWords, map_flatten]

/-- **Texts have the same letters if those that the normal form keeps and those that it drops are
the same.** -/
theorem sameLetters_iff : SameLetters hashing first second ↔
    keptLetters hashing first = keptLetters hashing second ∧ SameDropped hashing first second := by
  constructor
  · intro h
    refine ⟨?_, congrArg (othersFrom isPlain 0) h⟩
    have hfilter := congrArg (filter isPlain) h
    rw [filter_readLetters, filter_readLetters] at hfilter
    exact map_injective_iff.2 (fun _ _ => UInt16.toNat_inj.1) hfilter
  · rintro ⟨hkept, hdropped⟩
    refine eq_of_othersFrom_eq ?_ hdropped
    rw [filter_readLetters, filter_readLetters]
    exact congrArg (map UInt16.toNat) hkept

theorem keptLetters_eq (h : normalizeValue hashing first = normalizeValue hashing second) :
    keptLetters hashing first = keptLetters hashing second := by
  have hwords := congrArg (words isPlainUnit) h
  rw [normalizeValue, normalizeValue, words_normalize, words_normalize] at hwords
  exact congrArg flatten hwords

/-! ## The reasons of a verdict -/

theorem sameValue_iff {inputValue candidateValue : Option JsString} :
    sameValue inputValue candidateValue ↔
      ∃ value, value ≠ [] ∧ inputValue = some value ∧ candidateValue = some value := by
  cases inputValue with
  | none => simp [sameValue]
  | some value => simp [sameValue, @eq_comm _ (some value)]

theorem key_mem_verdict {key : ExactKey} : .key key ∈ verdict hashing input params ↔
    sameValue (inputExactKey hashing input key)
      (candidateExactKey (toLoadedCandidate hashing params) key) := by
  rw [verdict, exactMatchReasons, mem_append, mem_map]
  constructor
  · rintro (⟨key', hkey', heq⟩ | hrest)
    · obtain rfl := ExactReason.key.inj heq
      exact (mem_filter.1 hkey').2
    · split at hrest
      · simp at hrest
      · split at hrest <;> simp at hrest
  · exact fun h => .inl ⟨key, mem_filter.2 ⟨by cases key <;> simp, h⟩, rfl⟩

theorem isTextual_verdict : IsTextual (verdict hashing input params) ↔
    ¬ SharesKey hashing input params := by
  have hother : ∀ key, key ≠ .contentHash →
      candidateExactKey (toLoadedCandidate hashing params) key = params.exactKeys key :=
    fun key hne => if_neg hne
  constructor
  · rintro h ⟨key, hne, hsame⟩
    refine hne (h key (key_mem_verdict.2 ?_))
    rwa [hother key hne]
  · intro h key hkey
    by_contra hne
    rw [key_mem_verdict, hother key hne] at hkey
    exact h ⟨key, hne, hkey⟩

theorem titleAndContent_mem_verdict :
    .identicalTitleAndContent ∈ verdict hashing input params ↔
      SameNormal hashing input.title params.title ∧
        SameNormal hashing input.textBody params.textBody := by
  rw [verdict, exactMatchReasons, mem_append]
  constructor
  · rintro (hkey | hrest)
    · simp at hkey
    · split at hrest
      · next h => exact ⟨⟨h.1, h.2.1⟩, h.2.2⟩
      · split at hrest <;> simp at hrest
  · rintro ⟨⟨hne, htitle⟩, hbody⟩
    right
    rw [if_pos ⟨hne, htitle, hbody⟩]
    exact .head _

theorem title_mem_verdict : .identicalTitle ∈ verdict hashing input params ↔
    SameNormal hashing input.title params.title ∧
      normalizeValue hashing input.textBody = [] ∧ normalizeValue hashing params.textBody = [] := by
  rw [verdict, exactMatchReasons, mem_append]
  constructor
  · rintro (hkey | hrest)
    · simp at hkey
    · split at hrest
      · simp at hrest
      · split at hrest
        · next h => exact ⟨⟨h.1, h.2.1⟩, h.2.2⟩
        · simp at hrest
  · rintro ⟨⟨hne, htitle⟩, hbody, hbody'⟩
    right
    rw [if_neg fun h => h.2.2.1 hbody, if_pos ⟨hne, htitle, hbody, hbody'⟩]
    exact .head _

/-- Computed hashes that are equal are those of equal normal forms. -/
theorem normalizeValue_eq_of_sameHash (h : SameHash hashing input params)
    (hcomputed : ¬ IsGiven input params) :
    normalizeValue hashing input.hashedText = normalizeValue hashing params.textBody := by
  obtain ⟨hinput, hparams⟩ : input.contentHash = none ∧ params.contentHash = none := by
    simpa [IsGiven] using hcomputed
  obtain ⟨value, _, hvalue, hvalue'⟩ := sameValue_iff.1 h
  rw [inputContentHash, hinput] at hvalue
  rw [toLoadedCandidate, hparams] at hvalue'
  simp only [Option.orElse_none, duplicateGuardContentHash] at hvalue hvalue'
  split at hvalue
  · cases hvalue
  · split at hvalue'
    · cases hvalue'
    · exact hashing.sha256Hex_injective _ _ (Option.some.inj (hvalue.trans hvalue'.symm))

end

/-- **An exact verdict without an external key is about equal texts if and only if the letters that
the normal form drops are the same**, and those it keeps where a content hash is given. -/
theorem verdictSound_iff (hashing : Hashing) (input : DuplicateGuardInput)
    (params : CandidateParams) : VerdictSound hashing input params ↔
      SharesKey hashing input params ∨ Comparable hashing input params := by
  constructor
  · intro h
    by_cases hshares : SharesKey hashing input params
    · exact .inl hshares
    · have htextual := isTextual_verdict.2 hshares
      refine .inr ⟨fun hhash => ?_, fun htitle hbody => ?_, fun htitle hbody => ?_⟩
      · have hletters := sameLetters_iff.1 (h.contentHash htextual (key_mem_verdict.2 hhash))
        exact ⟨hletters.2, fun _ => hletters.1⟩
      · refine (sameLetters_iff.1 (h.title htextual ?_)).2
        rcases hbody with hbody | hbody
        · exact .inr (titleAndContent_mem_verdict.2 ⟨htitle, hbody⟩)
        · exact .inl (title_mem_verdict.2 ⟨htitle, hbody⟩)
      · have hmem := titleAndContent_mem_verdict.2 ⟨htitle, hbody⟩
        exact (sameLetters_iff.1 (h.content htextual hmem)).2
  · rintro (hshares | h)
    · have htextual : ¬ IsTextual (verdict hashing input params) := fun htextual =>
        isTextual_verdict.1 htextual hshares
      exact ⟨fun h => absurd h htextual, fun h => absurd h htextual, fun h => absurd h htextual⟩
    · refine ⟨fun _ hmem => ?_, fun _ hmem => ?_, fun _ hmem => ?_⟩
      · have hhash : SameHash hashing input params := key_mem_verdict.1 hmem
        obtain ⟨hdropped, hkept⟩ := h.hash hhash
        refine sameLetters_iff.2 ⟨?_, hdropped⟩
        by_cases hgiven : IsGiven input params
        · exact hkept hgiven
        · exact keptLetters_eq (normalizeValue_eq_of_sameHash hhash hgiven)
      · rcases hmem with hmem | hmem
        · obtain ⟨htitle, hbody⟩ := title_mem_verdict.1 hmem
          exact sameLetters_iff.2 ⟨keptLetters_eq htitle.2, h.title htitle (.inr hbody)⟩
        · obtain ⟨htitle, hbody⟩ := titleAndContent_mem_verdict.1 hmem
          exact sameLetters_iff.2 ⟨keptLetters_eq htitle.2, h.title htitle (.inl hbody)⟩
      · obtain ⟨htitle, hbody⟩ := titleAndContent_mem_verdict.1 hmem
        exact sameLetters_iff.2 ⟨keptLetters_eq hbody.2, h.content htitle hbody⟩

/-! ## A verdict about different texts -/

/-- Russian texts in lower case, with themselves for their hashes. -/
def russianHashing : Hashing where
  toUnicode := russian
  sha256Hex text := text
  sha256Hex_injective _ _ h := h

/-- What is to be created with a title only. -/
def titleInput (title : JsString) : DuplicateGuardInput :=
  ⟨some title, none, none, none, none, none, none, none, none⟩

def titleRow (title : JsString) : CandidateParams := ⟨some title, none, none, none, fun _ => none⟩

/-- `задача 5` and `отчет 5` have the normal form `5`. -/
theorem not_verdictSound :
    ¬ VerdictSound russianHashing (titleInput (lit "задача 5")) (titleRow (lit "отчет 5")) := by
  intro h
  have hverdict : verdict russianHashing (titleInput (lit "задача 5")) (titleRow (lit "отчет 5")) =
      [.identicalTitle] := by decide +kernel
  have hletters : readLetters russian (lit "задача 5") ≠ readLetters russian (lit "отчет 5") := by
    decide +kernel
  have htextual : IsTextual [.identicalTitle] := fun key hkey => by simp at hkey
  have htitle := h.title
  rw [hverdict] at htitle
  exact hletters (htitle htextual (.inl (.head _)))

end Corgtex.Domain.DuplicateGuard
