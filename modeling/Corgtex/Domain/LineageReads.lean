import Corgtex.Domain.LineageRoots
import Corgtex.Library.Reachability

/-!
# Reading a lineage

`source-lineage.ts`: an artifact may be read when every artifact it was made from may be.
`rootIsReadable` evaluates a root, and with it the roots its row, its manifest and its typed parents
name, and keeps a set of the roots that are being evaluated and a memo of those that are done.
Before the full pass over a root comes a local one, with a memo of its own.

What `evaluateRoot` does at a root is a list of checks and recursions (`EvaluationStep`); a lineage
gives such a list for every key (`Lineage`). An answer that is kept while other roots are open is
the answer of a fresh evaluation: a root that meets an open root lies on a cycle or reaches one, and
is unreadable from everywhere (`rootIsReadable_exact`).
-/

namespace Corgtex.Domain

open JsString List

open JsString (lit)
open Relation (TransGen ReflTransGen)
open Reachability (Admits)

/-! ## Roots and their keys -/

/-- `InternalReadPurpose` (line 1048) as a key shows it, or an ordinary read. The private inputs an
export has consent for are those of its receipt. -/
inductive ReadPurpose
  | ordinary
  | credentialParent (toolLinkId : JsString)
  | brainExport (receiptId : JsString)
deriving DecidableEq

/-- The purpose in a key (line 1073). -/
def ReadPurpose.text : ReadPurpose → JsString
  | ordinary => lit "ordinary"
  | credentialParent toolLinkId => lit "credential-parent:" ++ toolLinkId
  | brainExport receiptId => lit "brain-export:" ++ receiptId

/-- The key of a root (line 1073). -/
def readKey (root : LineageRoot) (purpose : ReadPurpose) : JsString :=
  root.kind ++ lit ":" ++ root.id ++ lit ":" ++ root.fingerprint ++ lit ":" ++ purpose.text

/-- A root and the purpose it is read for. Kinds are names, fingerprints are SHA-256 in hexadecimal
(`parseRoots`, line 298), and a purpose names a row by its generated id. -/
structure LineageReading where
  root : LineageRoot
  purpose : ReadPurpose
  kind_colon : (0x3A : UInt16) ∉ root.kind
  fingerprint_hex : root.fingerprint.all JsString.isHexDigit = true
  purpose_colon : ∀ id, purpose = .credentialParent id ∨ purpose = .brainExport id →
    (0x3A : UInt16) ∉ id

def LineageReading.key (reading : LineageReading) : JsString := readKey reading.root reading.purpose

/-- What a root is evaluated by: everything but the receipt it came with. -/
structure EvaluatedRoot where
  kind : JsString
  id : JsString
  fingerprint : JsString
  purpose : ReadPurpose
deriving DecidableEq

def LineageReading.evaluated (reading : LineageReading) : EvaluatedRoot :=
  ⟨reading.root.kind, reading.root.id, reading.root.fingerprint, reading.purpose⟩

/-! ## The evaluation -/

/-- What `evaluateRoot` (line 1142) does next: a check, whose answer may be another one in the local
pass than in the full one, or a call of `rootIsReadable`. -/
inductive EvaluationStep
  | check (locally fully : Bool)
  | read (reading : LineageReading)

/-- A stored lineage, as an actor reads it: what evaluating a root does, in its order, and which
receipts are current. The evaluations lead to finitely many roots. -/
structure Lineage where
  evaluation : EvaluatedRoot → List EvaluationStep
  epochsCurrent : PermissionEpochProof → Bool
  keys : List JsString
  key_mem : ∀ root reading, .read reading ∈ evaluation root → reading.key ∈ keys

/-- The memo of a read and the one of its local pass (`localReadAdmissionMemos`,
line 1089). -/
structure ReadMemos where
  memo : JsString → Option Bool
  localMemo : JsString → Option Bool

namespace ReadMemos

/-- `new Map<string, boolean>()`, twice. -/
def empty : ReadMemos := ⟨fun _ => none, fun _ => none⟩

section
variable (memos : ReadMemos) (locally : Bool) (key : JsString)

/-- `memo.get(key)`. -/
def get : Option Bool :=
  if locally then memos.localMemo key else memos.memo key

/-- `memo.set(key, result)`. -/
def set (result : Bool) : ReadMemos :=
  if locally then { memos with localMemo := Function.update memos.localMemo key (some result) }
  else { memos with memo := Function.update memos.memo key (some result) }

@[simp] theorem get_set_self (result : Bool) :
    (memos.set locally key result).get locally key = some result := by
  cases locally <;> simp [get, set]

end

variable {memos : ReadMemos}

theorem get_set_of_ne {locally locally' : Bool} {key key' : JsString} {result : Bool}
    (h : locally = locally' → key' ≠ key) :
    (memos.set locally key result).get locally' key' = memos.get locally' key' := by
  cases locally <;> cases locally' <;> simp_all [get, set]

end ReadMemos

/-- The lines of an evaluation, up to the first that fails. -/
def evaluateSteps (locally : Bool)
    (read : ReadMemos → LineageReading → Option (Bool × ReadMemos)) :
    ReadMemos → List EvaluationStep → Option (Bool × ReadMemos)
  | memos, [] => some (true, memos)
  | memos, .check passesLocally passesFully :: steps =>
    if (if locally then passesLocally else passesFully) then evaluateSteps locally read memos steps
    else some (false, memos)
  | memos, .read reading :: steps => do
    let (readable, memos) ← read memos reading
    if readable then evaluateSteps locally read memos steps else some (false, memos)

/-- `rootIsReadable` (line 1056). The first number bounds the depth of the calls, `locally` is
whether `localCommitAdmission` has a store. -/
def rootIsReadable (lineage : Lineage) :
    ℕ → Bool → List JsString → ReadMemos → LineageReading → Option (Bool × ReadMemos)
  | 0, _, _, _, _ => none
  | depth + 1, locally, visited, memos, reading => do
    -- the local pass joins the open evaluation: it gets the roots that are being evaluated
    let (admitted, memos) ← (if locally then some (true, memos)
      else rootIsReadable lineage depth true visited memos reading)
    if !admitted then some (false, memos)
    else if !reading.root.permissionEpochs.all lineage.epochsCurrent then some (false, memos)
    else if visited.contains reading.key then some (false, memos)
    else match memos.get locally reading.key with
      | some cached => some (cached, memos)
      | none => do
        let (result, memos) ← evaluateSteps locally
          (fun memos reading' =>
            rootIsReadable lineage depth locally (reading.key :: visited) memos reading')
          memos (lineage.evaluation reading.evaluated)
        some (result, memos.set locally reading.key result)

/-- `for (const root of roots) if (!await rootIsReadable(…, new Set(), memo)) return false`. -/
def everyRootIsReadable (lineage : Lineage) (depth : ℕ) (locally : Bool) :
    ReadMemos → List LineageReading → Option (Bool × ReadMemos)
  | memos, [] => some (true, memos)
  | memos, reading :: readings => do
    let (readable, memos) ← rootIsReadable lineage depth locally [] memos reading
    if readable then everyRootIsReadable lineage depth locally memos readings
    else some (false, memos)

/-- `isArtifactInputProofReadable` (line 2032) inside a local pass. -/
def isArtifactInputProofLocallyReadable (lineage : Lineage) (depth : ℕ)
    (roots : List LineageReading) : Option Bool := do
  let (readable, _) ← everyRootIsReadable lineage depth true .empty roots
  some (readable && !roots.isEmpty)

/-- `isArtifactInputProofReadable` (line 2032). `nativeReplay` is whether a provider was awaited
meanwhile, in which case the local pass is made once more from the beginning. -/
def isArtifactInputProofReadable (lineage : Lineage) (depth : ℕ) (nativeReplay : Bool)
    (roots : List LineageReading) : Option Bool := do
  let (locallyAdmitted, memos) ← everyRootIsReadable lineage depth true .empty roots
  if !(locallyAdmitted && !roots.isEmpty) then some false
  else do
    let (readable, _) ← everyRootIsReadable lineage depth false memos roots
    if !(readable && !roots.isEmpty) then some false
    else if nativeReplay then isArtifactInputProofLocallyReadable lineage depth roots
    else some true

/-- What an input gives that is unreadable when it is captured. -/
def unverifiedInput : AppError :=
  ⟨409, "UNKNOWN_LINEAGE", "A prompt input's permissions cannot be verified."⟩

/-- What a captured proof gives that is unreadable under its receipts. -/
def changedInput : AppError :=
  ⟨409, "SOURCE_CHANGED", "Input permissions changed before generation."⟩

/-- The end of `captureArtifactInputProof` (line 1998): `roots` are the inputs and what their
manifests name, `bindEpochs` gives them the receipts that are current. -/
def captureArtifactInputProof (lineage : Lineage) (depth : ℕ) (nativeReplay : Bool)
    (capturedInputs roots : List LineageReading)
    (bindEpochs : List LineageReading → Except AppError (List LineageReading)) :
    Option (Except AppError (List LineageReading)) := do
  if capturedInputs.isEmpty then some (.ok [])
  else do
    let (admitted, memos) ← everyRootIsReadable lineage depth true .empty roots
    if !admitted then some (.error unverifiedInput)
    else do
      let (verified, _) ← everyRootIsReadable lineage depth false memos capturedInputs
      if !verified then some (.error unverifiedInput)
      else match bindEpochs roots with
        | .error e => some (.error e)
        | .ok proof => do
          let readable ← isArtifactInputProofReadable lineage depth nativeReplay proof
          some (if readable then .ok proof else .error changedInput)

/-! ## What is readable -/

/-- The parts of a purpose, from the end of a key. -/
def ReadPurpose.parts : ReadPurpose → List JsString
  | ordinary => [lit "ordinary"]
  | credentialParent toolLinkId => [toolLinkId, lit "credential-parent"]
  | brainExport receiptId => [receiptId, lit "brain-export"]

/-- A digest has no colon and is not the name of a purpose. -/
theorem hex_colon {s : JsString} (h : s.all JsString.isHexDigit = true) : (0x3A : UInt16) ∉ s := by
  intro hmem
  have hdigit := all_eq_true.1 h _ hmem
  exact absurd hdigit (by decide)

theorem LineageReading.split_key (a : LineageReading) :
    JsString.split 0x3A a.key.reverse = a.purpose.parts.map List.reverse ++
      a.root.fingerprint.reverse ::
        JsString.split 0x3A (a.root.kind ++ 0x3A :: a.root.id).reverse := by
  have hfingerprint : (0x3A : UInt16) ∉ a.root.fingerprint.reverse := by
    simpa using hex_colon a.fingerprint_hex
  have hkey : a.key = a.root.kind ++ 0x3A :: a.root.id ++ 0x3A :: a.root.fingerprint ++
      0x3A :: a.purpose.text := by
    have hcolon : lit ":" = [0x3A] := by decide
    simp [LineageReading.key, readKey, hcolon]
  rw [hkey, reverse_append, reverse_cons, append_assoc, singleton_append,
    reverse_append, reverse_cons, append_assoc, singleton_append]
  have htail := split_append hfingerprint (a.root.kind ++ 0x3A :: a.root.id).reverse
  cases hp : a.purpose with
  | ordinary =>
    have hword : (0x3A : UInt16) ∉ (ReadPurpose.ordinary.text).reverse := by decide
    rw [split_append hword, htail]
    rfl
  | credentialParent toolLinkId =>
    have hid : (0x3A : UInt16) ∉ toolLinkId.reverse := by
      simpa using a.purpose_colon toolLinkId (.inl hp)
    have hword : (0x3A : UInt16) ∉ (lit "credential-parent").reverse := by decide
    have htext : (ReadPurpose.credentialParent toolLinkId).text.reverse =
        toolLinkId.reverse ++ 0x3A :: (lit "credential-parent").reverse := by
      rw [ReadPurpose.text, reverse_append]
      rfl
    rw [htext, append_assoc, cons_append, split_append hid, split_append hword, htail]
    rfl
  | brainExport receiptId =>
    have hid : (0x3A : UInt16) ∉ receiptId.reverse := by
      simpa using a.purpose_colon receiptId (.inr hp)
    have hword : (0x3A : UInt16) ∉ (lit "brain-export").reverse := by decide
    have htext : (ReadPurpose.brainExport receiptId).text.reverse =
        receiptId.reverse ++ 0x3A :: (lit "brain-export").reverse := by
      rw [ReadPurpose.text, reverse_append]
      rfl
    rw [htext, append_assoc, cons_append, split_append hid, split_append hword, htail]
    rfl

/-- **A key tells what is evaluated under it.** Neither a kind nor a fingerprint nor the id in a
purpose has a colon, so the key comes apart from both ends. -/
theorem LineageReading.evaluated_eq_of_key {a b : LineageReading} (h : a.key = b.key) :
    a.evaluated = b.evaluated := by
  have hsplit := congrArg (fun key => split 0x3A key.reverse) h
  simp only [split_key] at hsplit
  have hne : ∀ c : LineageReading, c.root.fingerprint ≠ lit "credential-parent" ∧
      c.root.fingerprint ≠ lit "brain-export" := by
    intro c
    constructor <;>
    · intro hname
      exact absurd (hname ▸ c.fingerprint_hex) (by decide)
  have hpurpose : a.purpose = b.purpose ∧ a.root.fingerprint = b.root.fingerprint := by
    cases ha : a.purpose <;> cases hb : b.purpose <;>
      simp only [ha, hb, ReadPurpose.parts, map_cons, map_nil, cons_append,
        nil_append, cons.injEq, reverse_inj] at hsplit
    · exact ⟨rfl, hsplit.2.1⟩
    · exact absurd hsplit.2.1 (hne a).1
    · exact absurd hsplit.2.1 (hne a).2
    · exact absurd hsplit.2.1.symm (hne b).1
    · exact ⟨hsplit.1 ▸ rfl, hsplit.2.2.1⟩
    · exact absurd hsplit.2.1 (by decide)
    · exact absurd hsplit.2.1.symm (hne b).2
    · exact absurd hsplit.2.1 (by decide)
    · exact ⟨hsplit.1 ▸ rfl, hsplit.2.2.1⟩
  have hfront : a.root.kind ++ 0x3A :: a.root.id = b.root.kind ++ 0x3A :: b.root.id := by
    have hkey := h
    simp only [LineageReading.key, readKey, hpurpose.1, hpurpose.2, append_left_inj] at hkey
    have hcolon : lit ":" = [0x3A] := by decide
    simpa [hcolon] using hkey
  have hparts := congrArg (split 0x3A) hfront
  rw [split_append a.kind_colon, split_append b.kind_colon] at hparts
  have hkind : a.root.kind = b.root.kind := (cons.inj hparts).1
  have hid : a.root.id = b.root.id := by
    rw [hkind] at hfront
    exact (cons.inj (append_cancel_left hfront)).2
  simp [LineageReading.evaluated, hkind, hid, hpurpose.1, hpurpose.2]

namespace Lineage

variable (lineage : Lineage) (locally : Bool)

/-- Evaluating `a` calls for `b`. -/
def Reads (a b : LineageReading) : Prop := .read b ∈ lineage.evaluation a.evaluated

section
variable (a : LineageReading)

/-- The receipt the root came with, if any, is current. -/
def Current : Prop :=
  a.root.permissionEpochs.all lineage.epochsCurrent = true

/-- The checks of a root pass: those of the local pass, and in the full pass both. -/
def ChecksPass : Prop :=
  ∀ passesLocally passesFully, .check passesLocally passesFully ∈ lineage.evaluation a.evaluated →
    passesLocally = true ∧ (locally = false → passesFully = true)

/-- **What a reader may read**: every root that is reached passes and none lies on a cycle. -/
def Readable : Prop :=
  Admits lineage.Reads (fun a => lineage.Current a ∧ lineage.ChecksPass locally a) a

/-- A root would be readable with a current receipt. -/
def Opens : Prop :=
  lineage.ChecksPass locally a ∧ ∀ b, lineage.Reads a b → lineage.Readable locally b

end

variable {lineage locally} {a b : LineageReading}

theorem readable_iff :
    lineage.Readable locally a ↔ lineage.Current a ∧ lineage.Opens locally a := by
  rw [Readable, Reachability.admits_iff, and_assoc]
  rfl

theorem opens_congr (h : a.evaluated = b.evaluated) :
    lineage.Opens locally a ↔ lineage.Opens locally b := by
  simp only [Opens, ChecksPass, Reads, h]

/-- What the full pass admits, the local pass admits. -/
theorem Readable.admitted (h : lineage.Readable false a) : lineage.Readable true a :=
  h.mono fun _ hpass => ⟨hpass.1, fun l f hmem => ⟨(hpass.2 l f hmem).1, by simp⟩⟩

variable (lineage) in
/-- Roots that are being evaluated: the one at hand was reached from each. -/
def Open (visited : List JsString) (a : LineageReading) : Prop :=
  ∀ key ∈ visited, ∃ b : LineageReading, b.key = key ∧ TransGen lineage.Reads b a

variable {visited : List JsString}

theorem Open.cons (h : lineage.Open visited a) (hab : lineage.Reads a b) :
    lineage.Open (a.key :: visited) b := by
  intro key hkey
  rcases mem_cons.1 hkey with rfl | hkey
  · exact ⟨a, rfl, .single hab⟩
  · obtain ⟨c, hc, hca⟩ := h key hkey
    exact ⟨c, hc, hca.tail hab⟩

/-- **A root that meets itself lies on a cycle**: what is open under its key calls for the same
roots as it does. -/
theorem Open.not_readable (h : lineage.Open visited a) (hmem : a.key ∈ visited) :
    ¬ lineage.Readable locally a := by
  obtain ⟨b, hkey, hba⟩ := h _ hmem
  obtain ⟨c, hbc, hca⟩ := TransGen.head'_iff.1 hba
  have hac : lineage.Reads a c := by
    rw [Reads, ← LineageReading.evaluated_eq_of_key hkey]
    exact hbc
  exact Reachability.not_admits_of_cycle (TransGen.head' hac hca)

variable (lineage) in
/-- The memos hold answers of fresh evaluations. -/
def Sound (memos : ReadMemos) : Prop :=
  ∀ locally (a : LineageReading) answer, memos.get locally a.key = some answer →
    (answer = true ↔ lineage.Opens locally a)

theorem sound_empty : lineage.Sound .empty := by
  intro locally a answer h
  cases locally <;> simp [ReadMemos.get, ReadMemos.empty] at h

theorem Sound.set {answer : Bool} (h : lineage.Sound memos)
    (ha : answer = true ↔ lineage.Opens locally a) :
    lineage.Sound (memos.set locally a.key answer) := by
  intro locally' b answer' hget
  by_cases hsame : locally = locally' ∧ b.key = a.key
  · obtain ⟨rfl, hkey⟩ := hsame
    rw [hkey, ReadMemos.get_set_self] at hget
    cases hget
    rw [ha]
    exact opens_congr (LineageReading.evaluated_eq_of_key hkey.symm)
  · rw [ReadMemos.get_set_of_ne fun hl hk => hsame ⟨hl, hk⟩] at hget
    exact h _ _ _ hget

/-- A read that ends with the answer of a fresh one, and leaves such answers in the memos. -/
def Exact (lineage : Lineage) (locally : Bool) (a : LineageReading)
    (read : Option (Bool × ReadMemos)) : Prop :=
  ∃ answer memos, read = some (answer, memos) ∧ lineage.Sound memos ∧
    (answer = true ↔ lineage.Readable locally a)

/-- **The lines of an evaluation**, if each of its reads is exact. -/
theorem evaluateSteps_exact {read : ReadMemos → LineageReading → Option (Bool × ReadMemos)}
    {steps : List EvaluationStep}
    (hread : ∀ b, .read b ∈ steps → ∀ memos, lineage.Sound memos →
      Exact lineage locally b (read memos b))
    {memos : ReadMemos} (hmemos : lineage.Sound memos) :
    ∃ answer memos', evaluateSteps locally read memos steps = some (answer, memos') ∧
      lineage.Sound memos' ∧ (answer = true ↔
        (∀ l f, .check l f ∈ steps → (if locally then l else f) = true) ∧
          ∀ b, .read b ∈ steps → lineage.Readable locally b) := by
  induction steps generalizing memos with
  | nil => exact ⟨true, memos, rfl, hmemos, by simp⟩
  | cons step steps ih =>
    have ih := fun memos => @ih (fun b hb => hread b (.tail _ hb)) memos
    cases step with
    | check l f =>
      rw [evaluateSteps]
      by_cases hpass : (if locally then l else f) = true
      · obtain ⟨answer, memos', hrun, hsound, hanswer⟩ := ih memos hmemos
        rw [if_pos hpass]
        refine ⟨answer, memos', hrun, hsound, hanswer.trans (and_congr ?_ ?_)⟩
        · constructor
          · intro hchecks l' f' hmem
            rcases mem_cons.1 hmem with hhead | htail
            · cases hhead
              exact hpass
            · exact hchecks l' f' htail
          · exact fun hchecks l' f' hmem => hchecks l' f' (.tail _ hmem)
        · simp
      · rw [if_neg hpass]
        refine ⟨false, memos, rfl, hmemos, ?_⟩
        simp only [Bool.false_eq_true, false_iff, not_and]
        intro hchecks
        exact absurd (hchecks l f (.head _)) hpass
    | read b =>
      obtain ⟨readable, memos₁, hrun, hsound, hb⟩ := hread b (.head _) memos hmemos
      rw [evaluateSteps, hrun]
      cases readable with
      | true =>
        obtain ⟨answer, memos', hrest, hsound', hanswer⟩ := ih memos₁ hsound
        refine ⟨answer, memos', hrest, hsound', hanswer.trans (and_congr ?_ ?_)⟩
        · simp only [mem_cons, reduceCtorEq, false_or]
        · simp [hb.1 rfl]
      | false =>
        refine ⟨false, memos₁, rfl, hsound, ?_⟩
        simp only [Bool.false_eq_true, false_iff, not_and]
        intro _ hreads
        exact absurd (hb.2 (hreads b (.head _))) (by simp)

variable (lineage) in
/-- The keys that are left to be opened below a root. -/
def left (visited : List JsString) (a : LineageReading) : ℕ :=
  (insert a.key lineage.keys.toFinset \ visited.toFinset).card

theorem left_lt (h : a.key ∉ visited) (hab : lineage.Reads a b) :
    lineage.left (a.key :: visited) b < lineage.left visited a := by
  have hb : b.key ∈ lineage.keys := lineage.key_mem _ _ hab
  refine Finset.card_lt_card (Finset.ssubset_iff_of_subset ?_ |>.2 ⟨a.key, ?_, ?_⟩)
  · intro key hkey
    simp only [toFinset_cons, Finset.mem_sdiff, Finset.mem_insert, mem_toFinset, not_or] at hkey ⊢
    rcases hkey with ⟨rfl | hkey, hfresh⟩
    · exact ⟨.inr hb, hfresh.2⟩
    · exact ⟨.inr hkey, hfresh.2⟩
  · simp [h]
  · simp

/-- **One read is exact**, whatever is open and whatever the memos hold. By induction on the depth:
the local pass has the same roots left and is one call deeper, and a root below has fewer left. -/
theorem rootIsReadable_exact {depth : ℕ} {visited : List JsString} {memos : ReadMemos}
    (hdepth : lineage.left visited a + (if locally then 1 else 2) ≤ depth)
    (hopen : lineage.Open visited a) (hmemos : lineage.Sound memos) :
    Exact lineage locally a (rootIsReadable lineage depth locally visited memos a) := by
  induction depth generalizing locally visited memos a with
  | zero => cases locally <;> simp at hdepth
  | succ depth ih =>
    -- the local pass
    obtain ⟨admitted, memos₁, hadmission, hsound, hadmitted, hlocal⟩ : ∃ admitted memos₁,
        (if locally then some (true, memos)
          else rootIsReadable lineage depth true visited memos a) = some (admitted, memos₁) ∧
        lineage.Sound memos₁ ∧ (admitted = false → ¬ lineage.Readable locally a) ∧
        (locally = false → admitted = true → lineage.Readable true a) := by
      cases locally with
      | true => exact ⟨true, memos, rfl, hmemos, by simp, by simp⟩
      | false =>
        obtain ⟨admitted, memos₁, hrun, hsound, hiff⟩ :=
          @ih true a visited memos (by simp at hdepth ⊢; omega) hopen hmemos
        refine ⟨admitted, memos₁, by simpa using hrun, hsound, fun hno hreadable => ?_,
          fun _ => hiff.1⟩
        rw [hiff.2 hreadable.admitted] at hno
        cases hno
    rw [rootIsReadable, hadmission]
    simp only [Option.bind_eq_bind, Option.bind_some, Bool.not_eq_true']
    split
    · next hno => exact ⟨false, memos₁, rfl, hsound, by simpa using hadmitted hno⟩
    next hyes =>
    split
    · next hstale =>
      refine ⟨false, memos₁, rfl, hsound, ?_⟩
      simp [readable_iff, Current, hstale]
    next hcurrent =>
    have hcurrent : lineage.Current a := by simpa [Current] using hcurrent
    split
    · next hmet =>
      have hmet : a.key ∈ visited := by simpa using hmet
      exact ⟨false, memos₁, rfl, hsound, by simpa using hopen.not_readable hmet⟩
    next hfresh =>
    have hfresh : a.key ∉ visited := by simpa using hfresh
    split
    · next cached hcached =>
      refine ⟨cached, memos₁, rfl, hsound, ?_⟩
      rw [readable_iff, hsound _ _ _ hcached]
      simp [hcurrent]
    · obtain ⟨answer, memos₂, hrun, hsound₂, hanswer⟩ := @evaluateSteps_exact lineage locally
        (fun memos b => rootIsReadable lineage depth locally (a.key :: visited) memos b)
        (lineage.evaluation a.evaluated)
        (fun b hb memos hmemos => ih
          (by have := left_lt hfresh hb; omega) (hopen.cons hb) hmemos) memos₁ hsound
      rw [hrun]
      have hopens : answer = true ↔ lineage.Opens locally a := by
        rw [hanswer, Opens]
        refine and_congr_left fun _ => forall₂_congr fun l f => imp_congr_right fun hmem => ?_
        cases locally with
        | true => simp
        | false =>
          have hl : l = true := by
            have hadmits := hlocal rfl (by simpa using hyes)
            exact (hadmits.self.2 l f hmem).1
          simp [hl]
      refine ⟨answer, _, rfl, hsound₂.set hopens, ?_⟩
      rw [readable_iff, hopens]
      simp [hcurrent]

/-! ## Reads from outside -/

theorem left_le (visited : List JsString) (a : LineageReading) :
    lineage.left visited a ≤ lineage.keys.length + 1 := by
  refine (Finset.card_le_card Finset.sdiff_subset).trans ?_
  refine (Finset.card_insert_le _ _).trans ?_
  have := lineage.keys.toFinset_card_le
  omega

variable (lineage locally) in
/-- Nothing is open at the beginning. -/
theorem read_exact (hmemos : lineage.Sound memos) (extra : ℕ) :
    Exact lineage locally a
      (rootIsReadable lineage (lineage.keys.length + 3 + extra) locally [] memos a) := by
  refine rootIsReadable_exact ?_ (by simp [Open]) hmemos
  have hleft := lineage.left_le [] a
  split <;> omega

variable (lineage locally) in
theorem everyRootIsReadable_exact (hmemos : lineage.Sound memos) (extra : ℕ)
    (roots : List LineageReading) :
    ∃ answer memos',
      everyRootIsReadable lineage (lineage.keys.length + 3 + extra) locally memos roots =
        some (answer, memos') ∧
      lineage.Sound memos' ∧ (answer = true ↔ ∀ root ∈ roots, lineage.Readable locally root) := by
  induction roots generalizing memos with
  | nil => exact ⟨true, memos, rfl, hmemos, by simp⟩
  | cons root roots ih =>
    obtain ⟨readable, memos₁, hrun, hsound, hroot⟩ :=
      read_exact lineage locally hmemos extra
    rw [everyRootIsReadable, hrun]
    cases readable with
    | true =>
      obtain ⟨answer, memos', hrest, hsound', hanswer⟩ := ih hsound
      exact ⟨answer, memos', hrest, hsound', by simp [hanswer, hroot.1 rfl]⟩
    | false =>
      have hunreadable : ¬ lineage.Readable locally root := fun h => absurd (hroot.2 h) (by simp)
      exact ⟨false, memos₁, rfl, hsound, by simp [hunreadable]⟩

theorem isArtifactInputProofLocallyReadable_exact (extra : ℕ) (roots : List LineageReading) :
    ∃ answer,
      isArtifactInputProofLocallyReadable lineage (lineage.keys.length + 3 + extra) roots =
        some answer ∧
      (answer = true ↔ roots ≠ [] ∧ ∀ root ∈ roots, lineage.Readable true root) := by
  obtain ⟨readable, _, hrun, _, hall⟩ :=
    everyRootIsReadable_exact lineage true lineage.sound_empty extra roots
  refine ⟨readable && !roots.isEmpty, by simp [isArtifactInputProofLocallyReadable, hrun], ?_⟩
  simp [hall, and_comm]

/-- **A proof is readable** when there are roots and all are. -/
theorem isArtifactInputProofReadable_exact (extra : ℕ) (nativeReplay : Bool)
    (roots : List LineageReading) :
    ∃ answer,
      isArtifactInputProofReadable lineage (lineage.keys.length + 3 + extra) nativeReplay roots =
        some answer ∧
      (answer = true ↔ roots ≠ [] ∧ ∀ root ∈ roots, lineage.Readable false root) := by
  obtain ⟨admitted, memos, hlocal, hsound, hadmitted⟩ :=
    everyRootIsReadable_exact lineage true lineage.sound_empty extra roots
  rw [isArtifactInputProofReadable, hlocal]
  by_cases hpass : (admitted && !roots.isEmpty) = true
  · simp only [Option.bind_eq_bind, Option.bind_some, hpass]
    obtain ⟨readable, _, hrun, _, hreadable⟩ :=
      everyRootIsReadable_exact lineage false hsound extra roots
    have hne : roots ≠ [] := by
      rintro rfl
      simp at hpass
    rw [hrun]
    by_cases hread : readable = true
    · obtain ⟨again, hagain, hiff⟩ := lineage.isArtifactInputProofLocallyReadable_exact extra roots
      have hall := hreadable.1 hread
      have hsecond : again = true := hiff.2 ⟨hne, fun root hmem => (hall root hmem).admitted⟩
      exact ⟨true, by simp [hread, hne, hagain, hsecond], by simpa [hne] using hall⟩
    · exact ⟨false, by simp [hread], by simpa [hne, ← hreadable] using hread⟩
  · have hfail : (admitted && !roots.isEmpty) = false := by simpa using hpass
    refine ⟨false, by simp only [Option.bind_eq_bind, Option.bind_some, hfail]; rfl, ?_⟩
    simp only [Bool.false_eq_true, false_iff, not_and]
    intro hne hall
    have hyes : admitted = true := hadmitted.2 fun root hmem => (hall root hmem).admitted
    simp [hyes, hne] at hpass

/-- One of several reads with one memo. -/
structure ReadCall where
  locally : Bool
  reading : LineageReading

/-- Reads one after another, with one memo. -/
def readSequence (lineage : Lineage) (depth : ℕ) : ReadMemos → List ReadCall → Option (List Bool)
  | _, [] => some []
  | memos, call :: calls => do
    let (answer, memos) ← rootIsReadable lineage depth call.locally [] memos call.reading
    let answers ← readSequence lineage depth memos calls
    some (answer :: answers)

theorem readSequence_exact (hmemos : lineage.Sound memos) (extra : ℕ) (calls : List ReadCall) :
    ∃ answers,
      readSequence lineage (lineage.keys.length + 3 + extra) memos calls = some answers ∧
      List.Forall₂ (fun call answer =>
        answer = true ↔ lineage.Readable call.locally call.reading) calls answers := by
  induction calls generalizing memos with
  | nil => exact ⟨[], rfl, .nil⟩
  | cons call calls ih =>
    obtain ⟨answer, memos₁, hrun, hsound, hanswer⟩ :=
      read_exact lineage call.locally hmemos extra
    obtain ⟨answers, hrest, hanswers⟩ := ih hsound
    exact ⟨answer :: answers, by simp [readSequence, hrun, hrest], .cons hanswer hanswers⟩

/-- **A captured proof** is one whose roots are readable, captured from readable inputs. -/
theorem captureArtifactInputProof_exact (extra : ℕ) (nativeReplay : Bool)
    (capturedInputs roots : List LineageReading)
    (bindEpochs : List LineageReading → Except AppError (List LineageReading))
    (hne : capturedInputs ≠ []) :
    ∃ result,
      captureArtifactInputProof lineage (lineage.keys.length + 3 + extra) nativeReplay
        capturedInputs roots bindEpochs = some result ∧
      ∀ proof, result = .ok proof ↔
        (∀ root ∈ roots, lineage.Readable true root) ∧
          (∀ root ∈ capturedInputs, lineage.Readable false root) ∧
            bindEpochs roots = .ok proof ∧ proof ≠ [] ∧
              ∀ root ∈ proof, lineage.Readable false root := by
  obtain ⟨admitted, memos, hlocal, hsound, hadmitted⟩ :=
    everyRootIsReadable_exact lineage true lineage.sound_empty extra roots
  obtain ⟨verified, _, hrun, _, hverified⟩ :=
    everyRootIsReadable_exact lineage false hsound extra capturedInputs
  have hsome : capturedInputs.isEmpty = false := by simpa using hne
  rw [captureArtifactInputProof, hsome, hlocal]
  by_cases hyes : admitted = true
  · by_cases hread : verified = true
    · cases hbind : bindEpochs roots with
      | error e =>
        refine ⟨.error e, by simp [hyes, hrun, hread], fun proof => ?_⟩
        simp
      | ok bound =>
        obtain ⟨readable, hproof, hreadable⟩ :=
          lineage.isArtifactInputProofReadable_exact extra nativeReplay bound
        refine ⟨if readable then .ok bound else .error changedInput,
          by simp [hyes, hrun, hread, hproof], fun proof => ?_⟩
        by_cases hr : readable = true
        · rw [if_pos hr]
          constructor
          · intro h
            cases h
            exact ⟨hadmitted.1 hyes, hverified.1 hread, rfl, hreadable.1 hr⟩
          · exact fun h => h.2.2.1
        · rw [if_neg hr]
          constructor
          · intro h
            cases h
          · rintro ⟨_, _, hok, hshare⟩
            cases hok
            exact absurd (hreadable.2 hshare) hr
    · refine ⟨.error unverifiedInput, by simp [hyes, hrun, hread], fun proof => ?_⟩
      simp [← hverified, hread]
  · refine ⟨.error unverifiedInput, by simp [hyes], fun proof => ?_⟩
    simp [← hadmitted, hyes]

end Lineage

/-- **Readability is reachability.** Reads that share a memo, in any order and in either pass, all
end, each with the answer it would have alone: a root is readable exactly if every root reachable
from it passes and none lies on a cycle. The checks of proofs and the capture of a proof are such
reads. -/
theorem lineage_reads_exact (lineage : Lineage) (extra : ℕ) :
    (∀ calls : List Lineage.ReadCall, ∃ answers,
      Lineage.readSequence lineage (lineage.keys.length + 3 + extra) .empty calls = some answers ∧
      List.Forall₂ (fun call answer =>
        (answer = true ↔ lineage.Readable call.locally call.reading) ∧
        ∃ memos, rootIsReadable lineage (lineage.keys.length + 3 + extra) call.locally [] .empty
          call.reading = some (answer, memos)) calls answers) ∧
    (∀ nativeReplay roots, ∃ answer,
      isArtifactInputProofReadable lineage (lineage.keys.length + 3 + extra) nativeReplay roots =
        some answer ∧
      (answer = true ↔ roots ≠ [] ∧ ∀ root ∈ roots, lineage.Readable false root)) ∧
    ∀ nativeReplay capturedInputs roots bindEpochs, ∃ result,
      captureArtifactInputProof lineage (lineage.keys.length + 3 + extra) nativeReplay
        capturedInputs roots bindEpochs = some result ∧
      (capturedInputs ≠ [] → ∀ proof, result = .ok proof ↔
        (∀ root ∈ roots, lineage.Readable true root) ∧
          (∀ root ∈ capturedInputs, lineage.Readable false root) ∧
            bindEpochs roots = .ok proof ∧ proof ≠ [] ∧
              ∀ root ∈ proof, lineage.Readable false root) := by
  refine ⟨fun calls => ?_, fun nativeReplay roots =>
    lineage.isArtifactInputProofReadable_exact extra nativeReplay roots,
    fun nativeReplay capturedInputs roots bindEpochs => ?_⟩
  · obtain ⟨answers, hrun, hanswers⟩ :=
      Lineage.readSequence_exact lineage.sound_empty extra calls
    refine ⟨answers, hrun, hanswers.imp fun call answer hanswer => ⟨hanswer, ?_⟩⟩
    obtain ⟨fresh, memos, hfresh, _, hiff⟩ :=
      @Lineage.read_exact lineage call.locally call.reading .empty lineage.sound_empty extra
    have hsame : fresh = answer := Bool.eq_iff_iff.2 (hiff.trans hanswer.symm)
    exact ⟨memos, hsame ▸ hfresh⟩
  · by_cases hne : capturedInputs = []
    · exact ⟨.ok [], by simp [captureArtifactInputProof, hne], fun h => absurd hne h⟩
    · obtain ⟨result, hrun, hiff⟩ := lineage.captureArtifactInputProof_exact extra nativeReplay
        capturedInputs roots bindEpochs hne
      exact ⟨result, hrun, fun _ => hiff⟩

end Corgtex.Domain
