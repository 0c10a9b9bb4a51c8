import Corgtex.Library.Double
import Corgtex.Library.Excerpts
import Corgtex.Library.JsString

/-!
# Chunks of a text

`chunkText` (`knowledge/src/chunks.ts:20`) cuts a text into the chunks that are indexed. It splits
at the strongest separator, merges the pieces up to the maximal length, starts each chunk with the
end of the one before, and splits what is still too long at the next separator, down to windows of
characters. Nothing but white space is lost (`chunkText_complete`).
-/

namespace Corgtex.Knowledge

open Excerpts JsString List

/-! ## Pieces -/

/-- `text.split(separator)`, after `skip` units of a separator that was found. -/
def splitFrom (separator : JsString) : Nat → JsString → List JsString
  | _, [] => [[]]
  | skip + 1, _ :: text => splitFrom separator skip text
  | 0, u :: text =>
    if separator <+: u :: text then [] :: splitFrom separator (separator.length - 1) text
    else (splitFrom separator 0 text).modifyHead (u :: ·)

/-- Each split with the separator after it, if there was one (line 47). -/
def withSeparators (separator : JsString) : List JsString → List JsString
  | [] => []
  | [last] => [last]
  | split :: next :: splits => (split ++ separator) :: withSeparators separator (next :: splits)

/-! ## Merging -/

section
variable (maxLength actualOverlap : Nat)

/-- `text.slice(-length)`, which is the whole text for 0. -/
def sliceLast (length : Nat) (text : JsString) : JsString :=
  if length = 0 then text else text.drop (text.length - length)

/-- The end of a chunk that the next one starts with, from a space on (line 55). -/
def overlapOf (currentChunk : JsString) : JsString :=
  let overlap := sliceLast actualOverlap currentChunk
  match overlap.findIdx? (· = 0x20) with
  | some spaceIdx =>
    if spaceIdx + 1 < overlap.length then overlap.drop (spaceIdx + 1) else overlap
  | none => overlap

/-- `chunks` and `currentChunk`. -/
structure Merge where
  chunks : List JsString
  currentChunk : JsString

/-- The body of the loop over the pieces (line 46). -/
def mergePart (state : Merge) (part : JsString) : Merge :=
  if state.currentChunk = [] then { state with currentChunk := part }
  else if state.currentChunk.length + part.length ≤ maxLength then
    { state with currentChunk := state.currentChunk ++ part }
  else
    { chunks := state.chunks ++ [state.currentChunk.trim]
      currentChunk := overlapOf actualOverlap state.currentChunk ++ part }

/-- The chunks of a list of pieces (line 43). -/
def mergeParts (parts : List JsString) : List JsString :=
  let state := parts.foldl (mergePart maxLength actualOverlap) ⟨[], []⟩
  if state.currentChunk.trim = [] then state.chunks else state.chunks ++ [state.currentChunk.trim]

/-- `doSplit` (line 27). -/
def doSplit : List JsString → JsString → List JsString
  | [], text =>
    if text.length ≤ maxLength then [text]
    else windows maxLength (max 1 (maxLength - actualOverlap)) text
  | separator :: separators, text =>
    if text.length ≤ maxLength then [text]
    else
      let splits := splitFrom separator 0 text
      if splits.length = 1 then doSplit separators text
      else
        (mergeParts maxLength actualOverlap (withSeparators separator splits)).flatMap fun chunk =>
          if maxLength < chunk.length then doSplit separators chunk
          else if chunk.trim = [] then [] else [chunk.trim]

end

/-- `Math.floor(maxLength * 0.2)`, with the double next to 0.2. -/
def oneFifth (maxLength : Nat) : Nat :=
  ⌊Double.round (maxLength * (3602879701896397 / 18014398509481984))⌋.toNat

/-- `separators` (line 25). -/
def separators : List JsString :=
  [lit "\n\n", lit "\n", lit ". ", lit "? ", lit "! ", lit " "]

/-- `chunkText` (line 20). -/
def chunkText (input : JsString) (maxLength overlapSize : Nat) : List JsString :=
  if input.trim = [] then []
  else doSplit maxLength (min overlapSize (oneFifth maxLength)) separators input.trim

/-! ## The pieces of a text -/

theorem splitFrom_ne_nil (separator : JsString) (skip : Nat) (text : JsString) :
    splitFrom separator skip text ≠ [] := by
  induction text generalizing skip with
  | nil => simp [splitFrom]
  | cons u text ih =>
    cases skip with
    | succ skip => exact ih skip
    | zero =>
      rw [splitFrom]
      split
      · simp
      · simpa using ih 0

/-- **The pieces are the text**, without what is skipped of it. -/
theorem flatten_splitFrom {separator : JsString} (hne : separator ≠ []) (skip : Nat)
    (text : JsString) :
    (withSeparators separator (splitFrom separator skip text)).flatten = text.drop skip := by
  induction text generalizing skip with
  | nil => simp [splitFrom, withSeparators]
  | cons u text ih =>
    cases skip with
    | succ skip => exact ih skip
    | zero =>
      rw [splitFrom]
      split
      · next hstarts =>
        obtain ⟨first, rest, hrest⟩ := exists_cons_of_ne_nil
          (splitFrom_ne_nil separator (separator.length - 1) text)
        obtain ⟨after, hafter⟩ := hstarts
        have hlength : separator.length = separator.length - 1 + 1 := by
          have := length_pos_iff.2 hne
          omega
        have hdrop : text.drop (separator.length - 1) = after := by
          have htail := congrArg (drop separator.length) hafter
          rw [drop_left, hlength, drop_succ_cons] at htail
          exact htail.symm
        rw [hrest, withSeparators, flatten_cons, ← hrest, ih, hdrop, nil_append, hafter]
        rfl
      · obtain ⟨first, rest, hrest⟩ := exists_cons_of_ne_nil (splitFrom_ne_nil separator 0 text)
        have htext := ih 0
        rw [hrest] at htext ⊢
        rw [modifyHead_cons]
        cases rest with
        | nil =>
          simp only [withSeparators, flatten_cons, flatten_nil, append_nil, drop_zero] at htext ⊢
          rw [htext]
        | cons next rest =>
          simp only [withSeparators, flatten_cons, cons_append, drop_zero] at htext ⊢
          rw [htext]

/-! ## The merged chunks -/

section
variable {maxLength actualOverlap : Nat}

theorem sliceLast_suffix (length : Nat) (text : JsString) : sliceLast length text <:+ text := by
  unfold sliceLast
  split
  · exact suffix_rfl
  · exact drop_suffix _ _

theorem overlapOf_suffix (currentChunk : JsString) :
    overlapOf actualOverlap currentChunk <:+ currentChunk := by
  have hslice := sliceLast_suffix actualOverlap currentChunk
  unfold overlapOf
  simp only
  split
  · split
    · exact (drop_suffix _ _).trans hslice
    · exact hslice
  · exact hslice

theorem trim_eq_trimBy (text : JsString) : text.trim = Trimming.trimBy isSpace text := rfl

/-- After some pieces: the current chunk ends where they do, and the chunks before it show what is
not in it. -/
structure Merged (done : JsString) (state : Merge) : Prop where
  current : state.currentChunk <:+ done
  infix_of : ∀ chunk ∈ state.chunks, chunk <:+: done
  shows : ∀ i, IsContent isSpace done i → i + state.currentChunk.length < done.length →
    ∃ chunk ∈ state.chunks, Shows done chunk i

variable {done : JsString} {state : Merge}

/-- What the trimmed chunks show, when the current one is among them. -/
theorem Merged.covers (h : Merged done state) :
    Covers isSpace done (state.chunks ++ [state.currentChunk.trim]) := by
  obtain ⟨before, hbefore⟩ := h.current
  have hdone : done = before ++ state.currentChunk ++ [] := by
    rw [append_nil, hbefore]
  have hlength : done.length = before.length + state.currentChunk.length := by
    rw [← hbefore, length_append]
  have htrim := covers_trimBy isSpace state.currentChunk
  constructor
  · rw [forall_mem_append, forall_mem_singleton]
    exact ⟨h.infix_of, (htrim.infix_of _ (.head _)).trans h.current.isInfix⟩
  · intro i hi
    have hlt := hi.lt
    by_cases hearly : i < before.length
    · obtain ⟨chunk, hmem, hshows⟩ := h.shows i hi (by omega)
      exact ⟨chunk, mem_append_left _ hmem, hshows⟩
    · obtain ⟨chunk, hmem, hshows⟩ :=
        htrim.shows _ (hi.of_middle hdone (by omega) (by omega))
      exact ⟨chunk, mem_append_right _ hmem, hshows.of_infix hdone (by omega)⟩

/-- One piece more. -/
theorem Merged.part (h : Merged done state) (part : JsString) :
    Merged (done ++ part) (mergePart maxLength actualOverlap state part) := by
  have hinfix : ∀ chunk ∈ state.chunks, chunk <:+: done ++ part := fun chunk hmem =>
    (h.infix_of chunk hmem).trans (prefix_append _ _).isInfix
  unfold mergePart
  split
  · next hempty =>
    refine ⟨suffix_append _ _, hinfix, fun i hi hlt => ?_⟩
    simp only [length_append] at hlt
    obtain ⟨chunk, hmem, hshows⟩ := h.shows i (hi.of_append (by omega))
      (by rw [hempty, length_nil]; omega)
    exact ⟨chunk, hmem, hshows.append part⟩
  · split
    · refine ⟨suffix_append_self_iff.2 h.current, hinfix, fun i hi hlt => ?_⟩
      simp only [length_append] at hlt
      obtain ⟨chunk, hmem, hshows⟩ := h.shows i (hi.of_append (by omega)) (by omega)
      exact ⟨chunk, hmem, hshows.append part⟩
    · refine ⟨suffix_append_self_iff.2 ((overlapOf_suffix _).trans h.current), ?_,
        fun i hi hlt => ?_⟩
      · intro chunk hmem
        exact (h.covers.infix_of chunk hmem).trans (prefix_append _ _).isInfix
      · simp only [length_append] at hlt
        obtain ⟨chunk, hmem, hshows⟩ := h.covers.shows i (hi.of_append (by omega))
        exact ⟨chunk, hmem, hshows.append part⟩

theorem Merged.parts (h : Merged done state) (parts : List JsString) :
    Merged (done ++ parts.flatten) (parts.foldl (mergePart maxLength actualOverlap) state) := by
  induction parts generalizing done state with
  | nil => rwa [flatten_nil, append_nil]
  | cons part parts ih =>
    rw [flatten_cons, ← append_assoc, foldl_cons]
    exact ih (h.part part)

/-- **The merged chunks cover the pieces.** -/
theorem covers_mergeParts (parts : List JsString) :
    Covers isSpace parts.flatten (mergeParts maxLength actualOverlap parts) := by
  have hstart : Merged [] ⟨[], []⟩ :=
    ⟨suffix_rfl, fun _ h => absurd h not_mem_nil, fun i _ hlt => by
      rw [length_nil] at hlt
      omega⟩
  have hmerged := @Merged.parts maxLength actualOverlap _ _ hstart parts
  rw [nil_append] at hmerged
  unfold mergeParts
  simp only
  split
  · next hempty =>
    have hall := hmerged.covers
    refine ⟨hmerged.infix_of, fun i hi => ?_⟩
    obtain ⟨chunk, hmem, hshows⟩ := hall.shows i hi
    rcases mem_append.1 hmem with hmem | hmem
    · exact ⟨chunk, hmem, hshows⟩
    · obtain ⟨before, after, _, _, hlast⟩ := hshows
      rw [mem_singleton.1 hmem, hempty, length_nil] at hlast
      omega
  · exact hmerged.covers

/-! ## The split -/

/-- **What `doSplit` returns covers its text**, in chunks that are neither empty nor too long. -/
theorem doSplit_spec (hmax : 1 ≤ maxLength) {separators : List JsString}
    (hseparators : ∀ separator ∈ separators, separator ≠ []) {text : JsString} (htext : text ≠ []) :
    Covers isSpace text (doSplit maxLength actualOverlap separators text) ∧
      ∀ chunk ∈ doSplit maxLength actualOverlap separators text,
        chunk ≠ [] ∧ chunk.length ≤ maxLength := by
  induction separators generalizing text with
  | nil =>
    rw [doSplit]
    split
    · next hshort =>
      exact ⟨covers_self _ _, forall_mem_singleton.2 ⟨htext, hshort⟩⟩
    · exact ⟨covers_windows (by omega) (by omega) _ _, fun chunk hmem =>
        windows_ne_nil_le (by omega) hmem⟩
  | cons separator separators ih =>
    obtain ⟨hseparator, hrest⟩ := forall_mem_cons.1 hseparators
    have hpieces := flatten_splitFrom hseparator 0 text
    rw [doSplit]
    split
    · next hshort =>
      exact ⟨covers_self _ _, forall_mem_singleton.2 ⟨htext, hshort⟩⟩
    · simp only
      split
      · exact ih hrest htext
      · have hmerged := @covers_mergeParts maxLength actualOverlap
          (withSeparators separator (splitFrom separator 0 text))
        rw [hpieces, drop_zero] at hmerged
        have hlong : ∀ chunk : JsString, maxLength < chunk.length → chunk ≠ [] := by
          rintro chunk hlt rfl
          rw [length_nil] at hlt
          omega
        constructor
        · refine hmerged.flatMap fun chunk _ => ?_
          split
          · next hlt => exact (ih hrest (hlong chunk hlt)).1
          · split
            · next hempty => exact covers_nil hempty
            · exact covers_trimBy _ _
        · intro chunk hmem
          obtain ⟨merged, _, hchunk⟩ := mem_flatMap.1 hmem
          split at hchunk
          · next hlt => exact (ih hrest (hlong merged hlt)).2 chunk hchunk
          · next hshort =>
            split at hchunk
            · cases hchunk
            · next hne =>
              rw [mem_singleton.1 hchunk]
              have hlength := ((covers_trimBy isSpace merged).infix_of _ (.head _)).length_le
              rw [← trim_eq_trimBy] at hlength
              exact ⟨hne, by omega⟩

end

/-- **No content is lost from the index.** Every chunk is a part of the trimmed text, not empty and
not too long, and every position of it that is not white space is in a chunk. -/
theorem chunkText_complete (input : JsString) {maxLength : Nat} (overlapSize : Nat)
    (hmax : 1 ≤ maxLength) :
    (∀ chunk ∈ chunkText input maxLength overlapSize,
        chunk ≠ [] ∧ chunk.length ≤ maxLength ∧ chunk <:+: input.trim) ∧
      ∀ i, IsContent isSpace input.trim i →
        ∃ chunk ∈ chunkText input maxLength overlapSize, Shows input.trim chunk i := by
  unfold chunkText
  split
  · next hempty =>
    refine ⟨fun _ h => absurd h not_mem_nil, fun i hi => ?_⟩
    have := hi.lt
    rw [hempty, length_nil] at this
    omega
  · next hne =>
    have hseparators : ∀ separator ∈ separators, separator ≠ [] := by decide
    obtain ⟨hcovers, hall⟩ := @doSplit_spec maxLength (min overlapSize (oneFifth maxLength)) hmax
      separators hseparators input.trim hne
    exact ⟨fun chunk hmem => ⟨(hall chunk hmem).1, (hall chunk hmem).2,
      hcovers.infix_of chunk hmem⟩, hcovers.shows⟩

theorem chunkText_complete_sample :
    (∀ chunk ∈ chunkText (lit "Nothing is lost. Not a word.") 10 2,
        chunk ≠ [] ∧ chunk.length ≤ 10 ∧ chunk <:+: (lit "Nothing is lost. Not a word.").trim) ∧
      ∀ i, IsContent isSpace (lit "Nothing is lost. Not a word.").trim i →
        ∃ chunk ∈ chunkText (lit "Nothing is lost. Not a word.") 10 2,
          Shows (lit "Nothing is lost. Not a word.").trim chunk i :=
  chunkText_complete _ _ (by decide)

end Corgtex.Knowledge
