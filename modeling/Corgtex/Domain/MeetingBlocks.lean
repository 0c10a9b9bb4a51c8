import Corgtex.Library.JsValue
import Corgtex.Library.Words
import Mathlib.Data.List.Chain
import Mathlib.Data.List.Sort
import Mathlib.Tactic.Linarith
import Mathlib.Data.Bool.AllAny

/-!
# Blocks of a meeting

`meeting-blocks.ts`: the blocks that a model has written for a meeting are
normalized before they are stored, and again whenever a reference to one of them is resolved.
`normalizeMeetingBlocks_stored_iff` says when the second pass changes nothing: the first one cuts a
text before it corrects the name in it, which makes the text longer, and sorts the blocks before it
numbers those without a positive number.
-/

namespace Corgtex.Domain.MeetingBlocks

open JsString List Words

/-! ## Texts -/

/-- `\w` -/
def isWordUnit (u : UInt16) : Bool :=
  (0x30 ≤ u && u ≤ 0x39) || (0x41 ≤ u && u ≤ 0x5A) || u = 0x5F || (0x61 ≤ u && u ≤ 0x7A)

/-- A letter of ASCII in lower case. -/
def lowerUnit (u : UInt16) : UInt16 := if 0x41 ≤ u && u ≤ 0x5A then u + 0x20 else u

/-- A word that is matched by `/\bCortex\b/gi`. -/
def isCortex (word : JsString) : Bool := word.map lowerUnit = lit "cortex"

/-- The name of the product in place of what a transcription makes of it. -/
def productName (word : JsString) : JsString := if isCortex word then lit "Corgtex" else word

/-- `normalizeMeetingProductTerminology` (line 39), word by word. -/
def normalizeMeetingProductTerminology (value : JsString) : JsString :=
  mapWords isWordUnit productName value

/-- `text` (line 47). -/
def text (value : JsValue) (max : Option ℕ) : JsString :=
  match value with
  | .string s =>
    match max with
    | none => s.trim
    | some max => if max < s.trim.length then trim (s.trim.take max) else s.trim
  | _ => []

/-- `numberValue` (line 53). -/
def numberValue : JsValue → Option ℚ
  | .number value => some value
  | _ => none

/-! ## Kinds -/

/-- `[a-z0-9]` -/
def isKindUnit (u : UInt16) : Bool := (0x61 ≤ u && u ≤ 0x7A) || (0x30 ≤ u && u ≤ 0x39)

/-- `_` -/
abbrev underscore : UInt16 := 0x5F

/-- What `toLowerCase` makes of a code unit, as far as a kind keeps it: besides the letters of
ASCII only U+0130 and U+212A have a letter of ASCII in their lower case, and every unit outside of
ASCII is replaced after it. -/
def lowerCase (u : UInt16) : JsString :=
  if u = 0x0130 then [0x69, 0x0307] else if u = 0x212A then [0x6B] else [lowerUnit u]

/-- `.replace(/[^a-z0-9]+/g, "_")`, behind a unit that was replaced or not. -/
def joinKind (replaced : Bool) : JsString → JsString
  | [] => []
  | u :: rest =>
    if isKindUnit u then u :: joinKind false rest
    else if replaced then joinKind true rest
    else underscore :: joinKind true rest

/-- `.replace(/^_+|_+$/g, "")` -/
def stripUnderscores (s : JsString) : JsString :=
  (s.rdropWhile (· = underscore)).dropWhile (· = underscore)

/-- `normalizeKind` (line 57). -/
def normalizeKind (value : JsValue) : JsString :=
  let normalized := stripUnderscores (joinKind false ((text value none).flatMap lowerCase))
  if normalized = [] then lit "custom" else normalized

/-! ## Blocks -/

/-- The `entityType` of a related record. -/
inductive RelatedEntityType
  | Action | Tension | Proposal
deriving DecidableEq

def RelatedEntityType.name : RelatedEntityType → JsString
  | .Action => lit "Action"
  | .Tension => lit "Tension"
  | .Proposal => lit "Proposal"

structure MeetingBlockRelatedRecord where
  entityType : RelatedEntityType
  entityId : JsString
  title : Option JsString
deriving DecidableEq

structure MeetingBlock where
  sequence : ℚ
  title : JsString
  kind : JsString
  summaryMd : JsString
  sourceQuote : Option JsString
  relatedRecords : List MeetingBlockRelatedRecord
deriving DecidableEq

/-- `MeetingBlocksJson`, of version 1. -/
@[ext] structure MeetingBlocksJson where
  blocks : List MeetingBlock
deriving DecidableEq

def relatedEntityType : JsValue → Option RelatedEntityType
  | .string s => [RelatedEntityType.Action, .Tension, .Proposal].find? (·.name = s)
  | _ => none

/-- One item of `normalizeRelatedRecords`. -/
def normalizeRelatedRecord : JsValue → List MeetingBlockRelatedRecord
  | .object item =>
    let entityId := text (.get item (lit "entityId")) none
    match relatedEntityType (.get item (lit "entityType")) with
    | none => []
    | some entityType =>
      if entityId = [] then []
      else
        let title := normalizeMeetingProductTerminology (text (.get item (lit "title")) none)
        [⟨entityType, entityId, title.orNull⟩]
  | _ => []

/-- `normalizeRelatedRecords` (line 65). -/
def normalizeRelatedRecords : JsValue → List MeetingBlockRelatedRecord
  | .array items => items.flatMap normalizeRelatedRecord
  | _ => []

section
variable (item : List (JsString × JsValue))

/-- `item.summaryMd ?? item.summary`. -/
def itemSummary : JsValue :=
  (JsValue.get item (lit "summaryMd")).orElse (.get item (lit "summary"))

/-- `numberValue(item.sequence) ?? index + 1`. -/
def itemSequence (index : ℕ) : ℚ :=
  (numberValue (.get item (lit "sequence"))).getD (index + 1)

/-- The block of an item, before its number is final. -/
def itemBlock (index : ℕ) : MeetingBlock where
  sequence := itemSequence item index
  title := normalizeMeetingProductTerminology (text (.get item (lit "title")) (some 120))
  kind := normalizeKind (.get item (lit "kind"))
  summaryMd := normalizeMeetingProductTerminology (text (itemSummary item) (some 1200))
  sourceQuote := orNull (normalizeMeetingProductTerminology
    (text (.get item (lit "sourceQuote")) (some 240)))
  relatedRecords := normalizeRelatedRecords (.get item (lit "relatedRecords"))

end

/-- One item of `normalizeMeetingBlocks`: no block without a title and a summary. -/
def normalizeItem (item : JsValue) (index : ℕ) : List MeetingBlock :=
  match item with
  | .object item =>
    if (itemBlock item index).title = [] ∨ (itemBlock item index).summaryMd = [] then []
    else [itemBlock item index]
  | _ => []

/-- `rawBlocks` (line 84). -/
def rawItems (value : JsValue) : List JsValue :=
  match value with
  | .object root =>
    match JsValue.get root (lit "blocks") with
    | .array items => items
    | _ => []
  | .array items => items
  | _ => []

/-- `.sort((left, right) => left.sequence - right.sequence)`, which is stable. -/
def sortBlocks (blocks : List MeetingBlock) : List MeetingBlock :=
  blocks.insertionSort fun left right => left.sequence - right.sequence ≤ 0

/-- The numbers of the blocks that have no positive one. -/
def renumber (blocks : List MeetingBlock) : List MeetingBlock :=
  blocks.mapIdx fun index block =>
    { block with sequence := if 0 < block.sequence then block.sequence else index + 1 }

/-- The blocks of a value before they are sorted. -/
def rawBlocks (value : JsValue) : List MeetingBlock :=
  (rawItems value).zipIdx.flatMap fun item => normalizeItem item.1 item.2

/-- `normalizeMeetingBlocks` (line 82). -/
def normalizeMeetingBlocks (value : JsValue) : MeetingBlocksJson where
  blocks := renumber (sortBlocks (rawBlocks value))

/-! ## Stored blocks -/

def nullable : Option JsString → JsValue
  | none => .null
  | some s => .string s

def MeetingBlockRelatedRecord.members (record : MeetingBlockRelatedRecord) :
    List (JsString × JsValue) :=
  [(lit "entityType", .string record.entityType.name),
    (lit "entityId", .string record.entityId), (lit "title", nullable record.title)]

def MeetingBlock.members (block : MeetingBlock) : List (JsString × JsValue) :=
  [(lit "sequence", .number block.sequence), (lit "title", .string block.title),
    (lit "kind", .string block.kind), (lit "summaryMd", .string block.summaryMd),
    (lit "sourceQuote", nullable block.sourceQuote),
    (lit "relatedRecords", .array (block.relatedRecords.map fun record => .object record.members))]

/-- The blocks as the column `blocksJson` has them. -/
def MeetingBlocksJson.toValue (json : MeetingBlocksJson) : JsValue :=
  .object [(lit "version", .number 1),
    (lit "blocks", .array (json.blocks.map fun block => .object block.members))]

/-! ## References -/

/-- `MeetingBlockReference`; an absent field is `null`. -/
structure MeetingBlockReference where
  sequence : Option ℚ
  title : Option JsString
  kind : Option JsString

/-- `resolveMeetingBlockReference` (line 110). The lower case of titles and kinds is only compared,
so `toLowerCase` may be any function. -/
def resolveMeetingBlockReference (toLowerCase : JsString → JsString) (blocksJson : JsValue)
    (reference : MeetingBlockReference) : Option MeetingBlock :=
  let blocks := (normalizeMeetingBlocks blocksJson).blocks
  let bySequence := reference.sequence.bind fun sequence =>
    if sequence = 0 then none else blocks.find? fun block => block.sequence = sequence
  let title := reference.title.bind fun title => orNull (toLowerCase title.trim)
  let byTitle := title.bind fun title => blocks.find? fun block => toLowerCase block.title = title
  let kind := reference.kind.bind fun kind => orNull (toLowerCase kind.trim)
  let byKind := kind.bind fun kind =>
    blocks.find? fun block => toLowerCase block.kind = normalizeKind (.string kind)
  bySequence.or (byTitle.or byKind)

/-! ## The name of the product -/

theorem length_of_isCortex {word : JsString} (h : isCortex word) : word.length = 6 := by
  have hmap : word.map lowerUnit = lit "cortex" := of_decide_eq_true h
  rw [← length_map (f := lowerUnit), hmap]
  rfl

theorem productName_of_isCortex {word : JsString} (h : isCortex word) :
    productName word = lit "Corgtex" := if_pos h

theorem productName_of_not {word : JsString} (h : ¬ isCortex word) : productName word = word :=
  if_neg h

theorem replaces_productName : Replaces isWordUnit productName where
  isWord word hword := by
    by_cases h : isCortex word
    · rw [productName_of_isCortex h]
      exact all_eq_true.1 (by decide)
    · rwa [productName_of_not h]
  eq_nil word := by
    by_cases h : isCortex word
    · rw [productName_of_isCortex h]
      refine ⟨fun hnil => absurd hnil (by decide), ?_⟩
      rintro rfl
      exact absurd h (by decide)
    · rw [productName_of_not h]
  idem word := by
    by_cases h : isCortex word
    · rw [productName_of_isCortex h]
      decide
    · rw [productName_of_not h, productName_of_not h]
  not_prefix word rest rest' hne hpre := by
    have hcortex : isCortex word := by
      by_contra h
      exact hne (productName_of_not h)
    have hmap : word.map lowerUnit = lit "cortex" := of_decide_eq_true hcortex
    rw [productName_of_isCortex hcortex] at hpre
    -- the first six units of the new name are not the old one
    have htake := (prefix_append word rest).trans hpre
    have hsame : word = (lit "Corgtex").take 6 := by
      rw [prefix_iff_eq_take, length_of_isCortex hcortex] at htake
      exact htake
    rw [hsame] at hmap
    exact absurd hmap (by decide)

/-- The words of a text that are replaced. -/
def cortexCount (s : JsString) : ℕ := (wordsFrom isWordUnit [] s).countP isCortex

theorem length_normalizeMeetingProductTerminology (s : JsString) :
    (normalizeMeetingProductTerminology s).length = s.length + cortexCount s := by
  have hlength : ∀ word : JsString,
      (productName word).length = word.length + if isCortex word then 1 else 0 := by
    intro word
    by_cases h : isCortex word
    · rw [productName_of_isCortex h, length_of_isCortex h, if_pos h]
      rfl
    · rw [productName_of_not h, if_neg h, Nat.add_zero]
  have h := @Replaces.length_mapWordsFrom _ isWordUnit _ _ _ hlength [] s
  simpa [normalizeMeetingProductTerminology, mapWords, cortexCount] using h

/-! ## Normal texts -/

theorem not_isSpace_of_isWordUnit {u : UInt16} (h : isWordUnit u) : ¬ isSpace u := by
  simp only [isWordUnit, isSpace, Bool.or_eq_true, Bool.and_eq_true, decide_eq_true_eq,
    UInt16.le_iff_toNat_le, ← UInt16.toNat_inj] at h ⊢
  simp only [UInt16.reduceToNat] at h ⊢
  omega

/-- A text that is trimmed, and has the right name of the product. -/
structure IsNormalText (s : JsString) : Prop where
  trim_eq : s.trim = s
  name_eq : normalizeMeetingProductTerminology s = s

@[simp] theorem trim_text (value : JsValue) (max : Option ℕ) :
    (text value max).trim = text value max := by
  unfold text
  split
  · split
    · exact trim_trim _
    · split <;> exact trim_trim _
  · rfl

/-- What the source makes of any text. -/
theorem isNormalText (value : JsValue) (max : Option ℕ) :
    IsNormalText (normalizeMeetingProductTerminology (text value max)) := by
  have hsame := trim_text value max
  refine ⟨trim_eq_self (fun u hu => ?_) fun u hu => ?_, replaces_productName.mapWords_idem _⟩
  · rcases replaces_productName.head?_mapWords hu with hword | hold
    · exact not_isSpace_of_isWordUnit hword
    · rw [← hsame] at hold
      exact head?_trim u hold
  · rcases replaces_productName.getLast?_mapWords hu with hword | hold
    · exact not_isSpace_of_isWordUnit hword
    · rw [← hsame] at hold
      exact getLast?_trim u hold

@[simp] theorem normalizeMeetingProductTerminology_eq_nil {s : JsString} :
    normalizeMeetingProductTerminology s = [] ↔ s = [] :=
  replaces_productName.mapWords_eq_nil

namespace IsNormalText

variable {s : JsString} {max : ℕ}

section
variable (h : IsNormalText s)
include h

theorem text_none : text (.string s) none = s := h.trim_eq

theorem text_eq (hle : s.length ≤ max) : text (.string s) (some max) = s := by
  simp only [text, h.trim_eq]
  exact if_neg (not_lt.2 hle)

theorem head?_not_isSpace : ∀ u ∈ s.head?, ¬ isSpace u := by
  rw [← h.trim_eq]
  exact head?_trim

/-- A second pass keeps a beginning of the text. -/
theorem text_prefix (max : ℕ) :
    text (.string s) (some max) <+: s ∧ (text (.string s) (some max)).length ≤ max := by
  rcases le_or_gt s.length max with hle | hlt
  · rw [h.text_eq hle]
    exact ⟨prefix_rfl, hle⟩
  · have htake : trim (s.take max) <+: s.take max := by
      refine trim_prefix fun u hu => h.head?_not_isSpace u ?_
      cases s with
      | nil => simp at hu
      | cons v rest =>
        cases max with
        | zero => simp at hu
        | succ max => exact hu
    simp only [text, h.trim_eq, if_pos hlt]
    exact ⟨htake.trans ( take_prefix _ _), htake.length_le.trans (length_take_le _ _)⟩

theorem text_ne_nil (hne : s ≠ []) (hmax : 0 < max) : text (.string s) (some max) ≠ [] := by
  rcases le_or_gt s.length max with hle | hlt
  · rwa [h.text_eq hle]
  · obtain ⟨u, rest, rfl⟩ := exists_cons_of_ne_nil hne
    simp only [text, h.trim_eq, if_pos hlt]
    intro hnil
    refine h.head?_not_isSpace u rfl (trim_eq_nil.1 hnil u ?_)
    obtain ⟨max, rfl⟩ := Nat.exists_eq_succ_of_ne_zero hmax.ne'
    exact .head _

/-- **A second pass changes a text exactly if it is too long.** -/
theorem text_name_eq_iff :
    normalizeMeetingProductTerminology (text (.string s) (some max)) = s ↔ s.length ≤ max := by
  constructor
  · intro hsame
    obtain ⟨hstart, hle⟩ := h.text_prefix max
    have hname : normalizeMeetingProductTerminology (text (.string s) (some max)) =
        text (.string s) (some max) :=
      replaces_productName.mapWords_eq_of_prefix (by
        show _ <+: normalizeMeetingProductTerminology _
        rwa [hsame])
    rwa [← hname, hsame] at hle
  · intro hle
    rw [h.text_eq hle, h.name_eq]

end

end IsNormalText

/-! ## Normal kinds -/

/-- Two underscores do not follow each other. -/
def NotDoubled (u v : UInt16) : Prop := ¬ (u = underscore ∧ v = underscore)

instance : DecidableRel NotDoubled := fun u v =>
  inferInstanceAs (Decidable (¬ (u = underscore ∧ v = underscore)))

/-- A text of kind units and single underscores. -/
structure IsKindText (s : JsString) : Prop where
  units : ∀ u ∈ s, isKindUnit u ∨ u = underscore
  single : s.IsChain NotDoubled

theorem joinKind_isKindText (replaced : Bool) (s : JsString) :
    IsKindText (joinKind replaced s) ∧
      (replaced → ∀ u ∈ (joinKind replaced s).head?, u ≠ underscore) := by
  have hunderscore : ∀ u, isKindUnit u → u ≠ underscore := by
    rintro u hu rfl
    exact absurd hu (by decide)
  induction s generalizing replaced with
  | nil => exact ⟨⟨by simp [joinKind], .nil⟩, by simp [joinKind]⟩
  | cons u s ih =>
    rw [joinKind]
    split
    · next hu =>
      obtain ⟨⟨hunits, hsingle⟩, _⟩ := ih false
      refine ⟨⟨forall_mem_cons.2 ⟨.inl hu, hunits⟩, isChain_cons.2 ⟨?_, hsingle⟩⟩, ?_⟩
      · exact fun v _ hboth => hunderscore u hu hboth.1
      · rintro _ v ⟨⟩
        exact hunderscore u hu
    · split
      · next hreplaced => exact ⟨(ih true).1, fun _ => (ih true).2 rfl⟩
      · next hreplaced =>
        obtain ⟨⟨hunits, hsingle⟩, hhead⟩ := ih true
        refine ⟨⟨forall_mem_cons.2 ⟨.inr rfl, hunits⟩, isChain_cons.2 ⟨?_, hsingle⟩⟩, ?_⟩
        · exact fun v hv hboth => hhead rfl v hv hboth.2
        · exact fun h => absurd h hreplaced

namespace IsKindText

variable {s : JsString}

section
variable (h : IsKindText s)
include h

theorem of_isInfix {t : JsString} (ht : t <:+: s) : IsKindText t := by
  refine ⟨fun u hu => h.units u (ht.subset hu), ?_⟩
  obtain ⟨before, after, rfl⟩ := ht
  exact h.single.left_of_append.right_of_append

theorem joinKind_eq (replaced : Bool)
    (hhead : replaced → ∀ u ∈ s.head?, u ≠ underscore) : joinKind replaced s = s := by
  induction s generalizing replaced with
  | nil => rfl
  | cons u s ih =>
    obtain ⟨hu, hunits⟩ := forall_mem_cons.1 h.units
    obtain ⟨hnext, hsingle⟩ := isChain_cons.1 h.single
    have hrest : IsKindText s := ⟨hunits, hsingle⟩
    rw [joinKind]
    split
    · rw [ih hrest false (by simp)]
    · next hkind =>
      obtain rfl : u = underscore := hu.resolve_left hkind
      have hreplaced : ¬ replaced := fun h => hhead h _ rfl rfl
      rw [if_neg hreplaced, ih hrest true fun _ v hv he => hnext v hv ⟨rfl, he⟩]

theorem flatMap_lowerCase : s.flatMap lowerCase = s := by
  have hsame : ∀ u ∈ s, lowerCase u = [u] := by
    intro u hu
    rcases h.units u hu with hkind | rfl
    · simp only [isKindUnit, Bool.or_eq_true, Bool.and_eq_true, decide_eq_true_eq,
        UInt16.le_iff_toNat_le, UInt16.reduceToNat] at hkind
      have h₁ : u ≠ 0x0130 := by
        rintro rfl
        simp at hkind
      have h₂ : u ≠ 0x212A := by
        rintro rfl
        simp at hkind
      have h₃ : ¬ (0x41 ≤ u ∧ u ≤ 0x5A) := by
        simp only [UInt16.le_iff_toNat_le, UInt16.reduceToNat]
        omega
      simp [lowerCase, lowerUnit, h₁, h₂, h₃]
    · decide
  rw [flatMap_congr hsame, flatMap_singleton']

theorem isWordUnit_of_mem {u : UInt16} (hu : u ∈ s) : isWordUnit u := by
  rcases h.units u hu with hkind | rfl
  · simp only [isKindUnit, isWordUnit, Bool.or_eq_true, Bool.and_eq_true,
      decide_eq_true_eq] at hkind ⊢
    tauto
  · decide

theorem trim_eq : s.trim = s :=
  trim_eq_self
    (fun _ hu => not_isSpace_of_isWordUnit (h.isWordUnit_of_mem (mem_of_mem_head? hu)))
    fun _ hu => not_isSpace_of_isWordUnit (h.isWordUnit_of_mem (mem_of_getLast? hu))

end

end IsKindText

/-- The kind of a block: a text of kind units and single underscores, with none at its ends. -/
structure IsNormalKind (s : JsString) : Prop extends IsKindText s where
  stripped : stripUnderscores s = s
  ne_nil : s ≠ []

theorem stripUnderscores_isInfix (s : JsString) : stripUnderscores s <:+: s :=
  (dropWhile_suffix _).isInfix.trans ( rdropWhile_prefix _ _).isInfix

theorem isNormalKind (value : JsValue) : IsNormalKind (normalizeKind value) := by
  rw [normalizeKind]
  split
  · exact ⟨⟨all_iff_forall_prop.1 (by decide), by decide⟩, by decide, by decide⟩
  · next hne =>
    exact ⟨(joinKind_isKindText false _).1.of_isInfix (stripUnderscores_isInfix _),
      dropWhile_rdropWhile_idem _ _, hne⟩

/-- **Kinds are normalized once.** -/
theorem IsNormalKind.normalizeKind_eq {s : JsString} (h : IsNormalKind s) :
    normalizeKind (.string s) = s := by
  have htext : text (.string s) none = s := h.trim_eq
  simp only [normalizeKind, htext, h.flatMap_lowerCase, h.joinKind_eq false (by simp),
    h.stripped, if_neg h.ne_nil]

/-! ## Normal blocks -/

/-- What the source makes of any related record. -/
structure MeetingBlockRelatedRecord.IsNormal (record : MeetingBlockRelatedRecord) : Prop where
  entityId_trim : record.entityId.trim = record.entityId
  entityId_ne_nil : record.entityId ≠ []
  title : ∀ title ∈ record.title, title ≠ [] ∧ IsNormalText title

/-- What the source makes of any block, but for the lengths and the number. -/
structure MeetingBlock.IsNormal (block : MeetingBlock) : Prop where
  title_ne_nil : block.title ≠ []
  title : IsNormalText block.title
  kind : IsNormalKind block.kind
  summary_ne_nil : block.summaryMd ≠ []
  summary : IsNormalText block.summaryMd
  sourceQuote : ∀ quote ∈ block.sourceQuote, quote ≠ [] ∧ IsNormalText quote
  relatedRecords : ∀ record ∈ block.relatedRecords, record.IsNormal

variable {record : MeetingBlockRelatedRecord} {value : JsValue}

theorem normalizeRelatedRecord_isNormal (h : record ∈ normalizeRelatedRecord value) :
    record.IsNormal := by
  unfold normalizeRelatedRecord at h
  split at h
  · simp only at h
    split at h
    · cases h
    · split at h
      · cases h
      · next hne =>
        obtain rfl := mem_singleton.1 h
        refine ⟨?_, hne, fun title htitle => ?_⟩
        · simp only [trim_text]
        · obtain ⟨rfl, hne⟩ := orNull_eq_some.1 htitle
          exact ⟨hne, isNormalText _ _⟩
  · cases h

theorem normalizeRelatedRecords_isNormal (h : record ∈ normalizeRelatedRecords value) :
    record.IsNormal := by
  unfold normalizeRelatedRecords at h
  split at h
  · obtain ⟨item, _, hrecord⟩ := mem_flatMap.1 h
    exact normalizeRelatedRecord_isNormal hrecord
  · cases h

variable {block : MeetingBlock}

theorem normalizeItem_isNormal {index : ℕ} (h : block ∈ normalizeItem value index) :
    block.IsNormal := by
  unfold normalizeItem at h
  split at h
  · split at h
    · cases h
    · next hne =>
      rw [not_or] at hne
      obtain rfl := mem_singleton.1 h
      refine ⟨hne.1, isNormalText _ _, isNormalKind _, hne.2, isNormalText _ _, ?_, ?_⟩
      · intro quote hquote
        obtain ⟨rfl, hne⟩ := orNull_eq_some.1 hquote
        exact ⟨hne, isNormalText _ _⟩
      · intro record hrecord
        exact normalizeRelatedRecords_isNormal hrecord
  · cases h

theorem MeetingBlockRelatedRecord.IsNormal.normalize_eq (h : record.IsNormal) :
    normalizeRelatedRecord (.object record.members) = [record] := by
  have hget : JsValue.get record.members (lit "entityType") = .string record.entityType.name ∧
      JsValue.get record.members (lit "entityId") = .string record.entityId ∧
      JsValue.get record.members (lit "title") = nullable record.title := ⟨rfl, rfl, rfl⟩
  have htype : relatedEntityType (.string record.entityType.name) = some record.entityType := by
    cases record.entityType <;> decide
  have hid : text (.string record.entityId) none = record.entityId := h.entityId_trim
  have htitle : orNull (normalizeMeetingProductTerminology (text (nullable record.title) none)) =
      record.title := by
    cases htitle : record.title with
    | none => rfl
    | some title =>
      obtain ⟨hne, hnormal⟩ := h.title title htitle
      have htext : text (nullable (some title)) none = title := hnormal.text_none
      rw [htext, hnormal.name_eq]
      exact orNull_eq_some.2 ⟨rfl, hne⟩
  simp only [normalizeRelatedRecord, hget, htype, hid, htitle, if_neg h.entityId_ne_nil]

theorem normalizeRelatedRecords_eq {records : List MeetingBlockRelatedRecord}
    (h : ∀ record ∈ records, record.IsNormal) :
    normalizeRelatedRecords (.array (records.map fun record => .object record.members)) =
      records := by
  have hsame : ∀ record ∈ records,
      normalizeRelatedRecord (.object record.members) = [record] := fun record hrecord =>
    (h record hrecord).normalize_eq
  rw [normalizeRelatedRecords, flatMap_map, flatMap_congr hsame, flatMap_singleton']

/-- A stored block after another pass, which keeps its number. -/
def MeetingBlock.again (block : MeetingBlock) : MeetingBlock :=
  { block with
    title := normalizeMeetingProductTerminology (text (.string block.title) (some 120))
    summaryMd := normalizeMeetingProductTerminology (text (.string block.summaryMd) (some 1200))
    sourceQuote := orNull (normalizeMeetingProductTerminology
      (text (nullable block.sourceQuote) (some 240))) }

/-- **The second pass over a block**, whatever its position. -/
theorem MeetingBlock.IsNormal.normalizeItem_eq (h : block.IsNormal) (index : ℕ) :
    normalizeItem (.object block.members) index = [block.again] := by
  have hget : JsValue.get block.members (lit "sequence") = .number block.sequence ∧
      JsValue.get block.members (lit "title") = .string block.title ∧
      JsValue.get block.members (lit "kind") = .string block.kind ∧
      itemSummary block.members = .string block.summaryMd ∧
      JsValue.get block.members (lit "sourceQuote") = nullable block.sourceQuote ∧
      JsValue.get block.members (lit "relatedRecords") =
        .array (block.relatedRecords.map fun record => .object record.members) :=
    ⟨rfl, rfl, rfl, rfl, rfl, rfl⟩
  have hsequence : itemSequence block.members index = block.sequence := rfl
  have htitle := h.title.text_ne_nil h.title_ne_nil (by decide : 0 < 120)
  have hsummary := h.summary.text_ne_nil h.summary_ne_nil (by decide : 0 < 1200)
  have hblock : itemBlock block.members index = block.again := by
    simp only [itemBlock, hget, hsequence, h.kind.normalizeKind_eq,
      normalizeRelatedRecords_eq h.relatedRecords, MeetingBlock.again]
  simp only [normalizeItem, hblock]
  simp only [MeetingBlock.again, normalizeMeetingProductTerminology_eq_nil,
    if_neg (not_or.2 ⟨htitle, hsummary⟩)]

/-- The texts of a block are as short as they may be. -/
def MeetingBlock.IsShort (block : MeetingBlock) : Prop :=
  block.title.length ≤ 120 ∧ block.summaryMd.length ≤ 1200 ∧
    ∀ quote ∈ block.sourceQuote, quote.length ≤ 240

/-- **The second pass changes a block exactly if one of its texts has become too long.** -/
theorem MeetingBlock.IsNormal.again_eq_iff (h : block.IsNormal) :
    block.again = block ↔ block.IsShort := by
  have hquote : orNull (normalizeMeetingProductTerminology
      (text (nullable block.sourceQuote) (some 240))) = block.sourceQuote ↔
        ∀ quote ∈ block.sourceQuote, quote.length ≤ 240 := by
    cases hquote : block.sourceQuote with
    | none => simp [nullable, text, normalizeMeetingProductTerminology_eq_nil]
    | some quote =>
      obtain ⟨hne, hnormal⟩ := h.sourceQuote quote hquote
      rw [orNull_eq_some, nullable, hnormal.text_name_eq_iff]
      simp [hne]
  rw [IsShort, ← h.title.text_name_eq_iff, ← h.summary.text_name_eq_iff, ← hquote]
  obtain ⟨sequence, title, kind, summaryMd, sourceQuote, relatedRecords⟩ := block
  simp [again]

/-! ## The second pass -/

theorem rawBlocks_isNormal : ∀ block ∈ rawBlocks value, block.IsNormal := by
  intro block hblock
  obtain ⟨item, _, hblock⟩ := mem_flatMap.1 hblock
  exact normalizeItem_isNormal hblock

/-- A number does not make a block less normal. -/
theorem MeetingBlock.IsNormal.with_sequence (h : block.IsNormal) (sequence : ℚ) :
    MeetingBlock.IsNormal { block with sequence := sequence } :=
  ⟨h.title_ne_nil, h.title, h.kind, h.summary_ne_nil, h.summary, h.sourceQuote, h.relatedRecords⟩

variable {blocks : List MeetingBlock}

theorem mem_renumber (h : block ∈ renumber blocks) :
    ∃ old ∈ blocks, block = { old with sequence := block.sequence } ∧ 0 < block.sequence := by
  obtain ⟨index, hindex, rfl⟩ := mem_mapIdx.1 h
  refine ⟨blocks[index], getElem_mem hindex, rfl, ?_⟩
  simp only
  split
  · assumption
  · exact Nat.cast_add_one_pos index

theorem normalizeMeetingBlocks_isNormal :
    ∀ block ∈ (normalizeMeetingBlocks value).blocks, block.IsNormal := by
  intro block hblock
  obtain ⟨old, hold, hsame, _⟩ := mem_renumber hblock
  rw [hsame]
  exact (rawBlocks_isNormal old ((perm_insertionSort _ _).mem_iff.1 hold)).with_sequence _

theorem rawBlocks_toValue {json : MeetingBlocksJson} (h : ∀ block ∈ json.blocks, block.IsNormal) :
    rawBlocks json.toValue = json.blocks.map MeetingBlock.again := by
  have hzip : ∀ (blocks : List MeetingBlock) (n : ℕ), (∀ block ∈ blocks, block.IsNormal) →
      ((blocks.map fun block => JsValue.object block.members).zipIdx n).flatMap
        (fun item => normalizeItem item.1 item.2) = blocks.map MeetingBlock.again := by
    intro blocks
    induction blocks with
    | nil => intro n _; rfl
    | cons block blocks ih =>
      intro n hblocks
      obtain ⟨hblock, hrest⟩ := forall_mem_cons.1 hblocks
      rw [map_cons, zipIdx_cons, flatMap_cons, hblock.normalizeItem_eq, ih _ hrest]
      rfl
  exact hzip json.blocks 0 h

/-! ## Numbers -/

/-- Blocks in the order of their numbers. -/
def IsSorted (blocks : List MeetingBlock) : Prop :=
  blocks.Pairwise fun left right => left.sequence ≤ right.sequence

theorem sortBlocks_isSorted (blocks : List MeetingBlock) : IsSorted (sortBlocks blocks) := by
  have : Std.Total fun left right : MeetingBlock => left.sequence - right.sequence ≤ 0 :=
    ⟨fun a b => by simpa using le_total a.sequence b.sequence⟩
  have : IsTrans MeetingBlock fun left right => left.sequence - right.sequence ≤ 0 :=
    ⟨fun a b c hab hbc => by
      rw [sub_nonpos] at hab hbc ⊢
      exact hab.trans hbc⟩
  refine (pairwise_insertionSort
    (fun left right : MeetingBlock => left.sequence - right.sequence ≤ 0) blocks).imp ?_
  exact fun h => sub_nonpos.1 h

theorem sortBlocks_eq (h : IsSorted blocks) : sortBlocks blocks = blocks :=
  (h.imp fun h => sub_nonpos.2 h).insertionSort_eq

theorem renumber_eq (h : ∀ block ∈ blocks, 0 < block.sequence) : renumber blocks = blocks := by
  refine ext_getElem (by simp [renumber]) fun i hi hi' => ?_
  have hpos := h blocks[i] (getElem_mem hi')
  simp [renumber, hpos]

/-- Sorted blocks: those that are renumbered, and the others behind them. -/
theorem exists_split (h : IsSorted blocks) :
    ∃ front back, blocks = front ++ back ∧ (∀ block ∈ front, ¬ 0 < block.sequence) ∧
      (∀ block ∈ back, 0 < block.sequence) := by
  induction blocks with
  | nil => exact ⟨[], [], rfl, by simp, by simp⟩
  | cons block blocks ih =>
    obtain ⟨hfirst, hrest⟩ := pairwise_cons.1 h
    by_cases hpos : 0 < block.sequence
    · refine ⟨[], block :: blocks, rfl, by simp, forall_mem_cons.2 ⟨hpos, ?_⟩⟩
      exact fun later hlater => hpos.trans_le (hfirst later hlater)
    · obtain ⟨front, back, rfl, hfront, hback⟩ := ih hrest
      exact ⟨block :: front, back, rfl, forall_mem_cons.2 ⟨hpos, hfront⟩, hback⟩

/-- **The order survives the new numbers** exactly if none of them is greater than an old one. -/
theorem renumber_isSorted_iff (h : IsSorted blocks) :
    IsSorted (renumber blocks) ↔ ∀ block ∈ blocks, 0 < block.sequence →
      (blocks.countP (fun block => ¬ 0 < block.sequence) : ℚ) ≤ block.sequence := by
  obtain ⟨front, back, rfl, hfront, hback⟩ := exists_split h
  have hcount : (front ++ back).countP (fun block => ¬ 0 < block.sequence) = front.length := by
    rw [countP_append, countP_eq_length.2 (by simpa using hfront),
      countP_eq_zero.2 (by simpa using hback), Nat.add_zero]
  have hnew : renumber (front ++ back) =
      (front.mapIdx fun index block => { block with sequence := (index : ℚ) + 1 }) ++ back := by
    rw [renumber, mapIdx_append]
    congr 1
    · refine ext_getElem (by simp) fun i hi hi' => ?_
      have hlt : i < front.length := by simpa using hi
      have hnot := hfront front[i] (getElem_mem hlt)
      simp [hnot]
    · refine ext_getElem (by simp) fun i hi hi' => ?_
      have hpos := hback back[i] (getElem_mem hi')
      simp [hpos]
  have hsorted := pairwise_append.1 h
  rw [hcount, hnew, IsSorted, pairwise_append]
  constructor
  · rintro ⟨_, _, hcross⟩ block hblock hpos
    have hmem : block ∈ back := by
      rcases mem_append.1 hblock with hblock | hblock
      · exact absurd hpos (hfront block hblock)
      · exact hblock
    rcases eq_nil_or_concat front with rfl | ⟨rest, last, rfl⟩
    · simpa using hpos.le
    · -- the last of the new numbers
      have hlast := hcross { last with sequence := (rest.length : ℚ) + 1 } (by
        simp [concat_eq_append, mapIdx_append]) block hmem
      simpa [concat_eq_append] using hlast
  · intro hle
    refine ⟨?_, hsorted.2.1, ?_⟩
    · refine pairwise_iff_getElem.2 fun i j hi hj hij => ?_
      simp only [getElem_mapIdx]
      have hcast : (i : ℚ) ≤ j := by exact_mod_cast hij.le
      linarith
    · intro left hleft right hright
      obtain ⟨index, hindex, rfl⟩ := mem_mapIdx.1 hleft
      have hbound := hle right (mem_append_right _ hright) (hback right hright)
      have hcast : (index : ℚ) + 1 ≤ front.length := by exact_mod_cast hindex
      exact hcast.trans hbound

/-! ## Stored blocks are normalized again -/

/-- **What a second pass makes of stored blocks.** -/
theorem normalizeMeetingBlocks_toValue (value : JsValue) :
    (normalizeMeetingBlocks (normalizeMeetingBlocks value).toValue).blocks =
      sortBlocks ((normalizeMeetingBlocks value).blocks.map MeetingBlock.again) := by
  have hpos : ∀ block ∈ sortBlocks ((normalizeMeetingBlocks value).blocks.map MeetingBlock.again),
      0 < block.sequence := by
    intro block hblock
    obtain ⟨old, hold, rfl⟩ := mem_map.1 ((perm_insertionSort _ _).mem_iff.1 hblock)
    obtain ⟨_, _, _, hpos⟩ := mem_renumber hold
    exact hpos
  have hraw := rawBlocks_toValue (normalizeMeetingBlocks_isNormal : ∀ block ∈
    (normalizeMeetingBlocks value).blocks, block.IsNormal)
  show renumber (sortBlocks (rawBlocks (normalizeMeetingBlocks value).toValue)) = _
  rw [hraw, renumber_eq hpos]

/-- Stored blocks stay as they are if they are in order and none is too long. -/
theorem stored_iff_isSorted (value : JsValue) :
    normalizeMeetingBlocks (normalizeMeetingBlocks value).toValue = normalizeMeetingBlocks value ↔
      IsSorted (normalizeMeetingBlocks value).blocks ∧
        ∀ block ∈ (normalizeMeetingBlocks value).blocks, block.IsShort := by
  have hagain : ∀ blocks : List MeetingBlock,
      IsSorted (blocks.map MeetingBlock.again) ↔ IsSorted blocks := fun blocks => pairwise_map
  have hsame : (∀ block ∈ (normalizeMeetingBlocks value).blocks, block.again = id block) ↔
      ∀ block ∈ (normalizeMeetingBlocks value).blocks, block.IsShort :=
    forall₂_congr fun block hblock => (normalizeMeetingBlocks_isNormal block hblock).again_eq_iff
  rw [← hsame, ← map_inj_left, map_id]
  constructor
  · intro h
    have hblocks := congrArg MeetingBlocksJson.blocks h
    rw [normalizeMeetingBlocks_toValue] at hblocks
    have hsorted : IsSorted (normalizeMeetingBlocks value).blocks := by
      rw [← hblocks]
      exact sortBlocks_isSorted _
    rw [sortBlocks_eq ((hagain _).2 hsorted)] at hblocks
    exact ⟨hsorted, hblocks⟩
  · rintro ⟨hsorted, hblocks⟩
    have hsecond := normalizeMeetingBlocks_toValue value
    rw [hblocks, sortBlocks_eq hsorted] at hsecond
    exact MeetingBlocksJson.ext hsecond

theorem exists_mem_renumber (h : block ∈ blocks) :
    ∃ sequence, { block with sequence := sequence } ∈ renumber blocks := by
  obtain ⟨index, hindex, rfl⟩ := mem_iff_getElem.1 h
  exact ⟨_, mem_mapIdx.2 ⟨index, hindex, rfl⟩⟩

/-- Idempotency in terms of the blocks before they are sorted and numbered. -/
theorem stored_iff_rawBlocks (value : JsValue) :
    normalizeMeetingBlocks (normalizeMeetingBlocks value).toValue = normalizeMeetingBlocks value ↔
      (∀ block ∈ rawBlocks value, block.IsShort) ∧
        ∀ block ∈ rawBlocks value, 0 < block.sequence →
          ((rawBlocks value).countP (fun block => ¬ 0 < block.sequence) : ℚ) ≤ block.sequence := by
  have hperm : (sortBlocks (rawBlocks value)).Perm (rawBlocks value) := perm_insertionSort _ _
  have hshort : (∀ block ∈ (normalizeMeetingBlocks value).blocks, block.IsShort) ↔
      ∀ block ∈ rawBlocks value, block.IsShort := by
    constructor
    · intro h block hblock
      obtain ⟨sequence, hnew⟩ := exists_mem_renumber (hperm.mem_iff.2 hblock)
      have hstored := h _ hnew
      exact hstored
    · intro h block hblock
      obtain ⟨old, hold, hsame, _⟩ := mem_renumber hblock
      rw [hsame]
      exact h old (hperm.mem_iff.1 hold)
  have hsorted := renumber_isSorted_iff (sortBlocks_isSorted (rawBlocks value))
  simp only [hperm.mem_iff, hperm.countP_eq] at hsorted
  rw [stored_iff_isSorted, hshort, and_comm]
  exact and_congr_right fun _ => hsorted

/-! ## The condition on the value -/

section
variable (value : JsValue)

/-- The items that make a block, each with its index. -/
def keptItems : List (List (JsString × JsValue) × ℕ) :=
  (rawItems value).zipIdx.flatMap fun item =>
    match item.1 with
    | .object members =>
      if text (.get members (lit "title")) (some 120) = [] ∨
          text (itemSummary members) (some 1200) = [] then []
      else [(members, item.2)]
    | _ => []

/-- A text leaves room for the letter that every corrected name adds. -/
def LeavesRoom (max : ℕ) : Prop :=
  (text value (some max)).length + cortexCount (text value (some max)) ≤ max

/-- The three texts of an item leave room for corrections, and no positive number is less than the
count of the items without one. -/
def IsSettled : Prop :=
  (∀ item ∈ keptItems value, LeavesRoom (.get item.1 (lit "title")) 120 ∧
    LeavesRoom (itemSummary item.1) 1200 ∧ LeavesRoom (.get item.1 (lit "sourceQuote")) 240) ∧
  ∀ item ∈ keptItems value, 0 < itemSequence item.1 item.2 →
    ((keptItems value).countP (fun item => ¬ 0 < itemSequence item.1 item.2) : ℚ) ≤
      itemSequence item.1 item.2

theorem rawBlocks_eq :
    rawBlocks value = (keptItems value).map fun item => itemBlock item.1 item.2 := by
  rw [rawBlocks, keptItems, map_flatMap]
  refine flatMap_congr fun item _ => ?_
  obtain ⟨item, index⟩ := item
  cases item with
  | object members =>
    simp only [normalizeItem, itemBlock, normalizeMeetingProductTerminology_eq_nil]
    split <;> rfl
  | undefined | null | bool | number | nonFinite | string | array | other => rfl

end

theorem itemBlock_isShort (item : List (JsString × JsValue)) (index : ℕ) :
    (itemBlock item index).IsShort ↔ LeavesRoom (.get item (lit "title")) 120 ∧
      LeavesRoom (itemSummary item) 1200 ∧ LeavesRoom (.get item (lit "sourceQuote")) 240 := by
  have hquote : ∀ value : JsValue, (∀ quote ∈ orNull (normalizeMeetingProductTerminology
      (text value (some 240))), quote.length ≤ 240) ↔ LeavesRoom value 240 := by
    intro value
    rw [LeavesRoom, ← length_normalizeMeetingProductTerminology]
    constructor
    · intro h
      by_cases hnil : normalizeMeetingProductTerminology (text value (some 240)) = []
      · simp [hnil]
      · exact h _ (orNull_eq_some.2 ⟨rfl, hnil⟩)
    · rintro h quote hquote
      obtain ⟨rfl, _⟩ := orNull_eq_some.1 hquote
      exact h
  rw [MeetingBlock.IsShort, ← hquote]
  simp only [itemBlock, LeavesRoom, length_normalizeMeetingProductTerminology]

/-- **The exact condition for a second pass that changes nothing.** -/
theorem normalizeMeetingBlocks_stored_iff (value : JsValue) :
    normalizeMeetingBlocks (normalizeMeetingBlocks value).toValue = normalizeMeetingBlocks value ↔
      IsSettled value := by
  rw [stored_iff_rawBlocks, rawBlocks_eq, IsSettled]
  simp only [forall_mem_map, countP_map, itemBlock_isShort]
  exact Iff.rfl

/-- An item with a number, a title and a summary. -/
def numberedItem (sequence : ℚ) (title : String) : JsValue :=
  .object [(lit "sequence", .number sequence), (lit "title", .string (lit title)),
    (lit "summaryMd", .string (lit "The team talked."))]

def numberedItems : JsValue :=
  .array [numberedItem 0 "Check-in", numberedItem 0 "Roadmap", numberedItem 1 "Budget"]

/-- Two items without a positive number take the numbers 1 and 2, and the block that already has
the number 1 stays behind them until the next pass. -/
theorem normalizeMeetingBlocks_stored_counterexample : ¬ ∀ value : JsValue,
    normalizeMeetingBlocks (normalizeMeetingBlocks value).toValue =
      normalizeMeetingBlocks value := by
  intro h
  have hvalue := h numberedItems
  have htitles : (normalizeMeetingBlocks (normalizeMeetingBlocks numberedItems).toValue).blocks.map
        MeetingBlock.title ≠
      (normalizeMeetingBlocks numberedItems).blocks.map MeetingBlock.title := by
    decide +kernel
  exact htitles (congrArg (fun json => json.blocks.map MeetingBlock.title) hvalue)

end Corgtex.Domain.MeetingBlocks
