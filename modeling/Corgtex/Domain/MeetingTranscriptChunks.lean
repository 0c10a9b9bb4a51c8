import Corgtex.Library.Double
import Corgtex.Library.JsString
import Corgtex.Library.WindowCover

/-!
# Chunks of a meeting transcript

`meeting-transcript-chunks.ts` cuts a transcript into overlapping chunks, if it
can at the turn of a speaker or else at the end of a line. The chunks cover the transcript
(`buildMeetingTranscriptChunks_covers`). A chunk that ends behind a newline may be one code unit
longer than `targetChars`, since `lastIndexOf` also finds a newline at the hard end itself
(`text_length_le_iff`).
-/

namespace Corgtex.Domain.MeetingTranscripts

open JsString Option WindowCover

/-! ## Sizes -/

structure BuildMeetingTranscriptChunksOptions where
  targetChars : Option ℤ
  overlapChars : Option ℤ

/-- `MEETING_TRANSCRIPT_CHUNK_TARGET_CHARS`. -/
def defaultTargetChars : ℤ := 16000

/-- `MEETING_TRANSCRIPT_CHUNK_OVERLAP_CHARS`. -/
def defaultOverlapChars : ℤ := 750

/-- The two sizes that the loop uses. -/
structure ChunkSizes where
  targetChars : ℕ
  overlapChars : ℕ
  overlap_lt : overlapChars < targetChars

/-- `targetChars` and `overlapChars` as numbers of code units (line 43). -/
def BuildMeetingTranscriptChunksOptions.sizes (options : BuildMeetingTranscriptChunksOptions) :
    ChunkSizes where
  targetChars := (max 1 (options.targetChars.getD defaultTargetChars)).toNat
  overlapChars := (max 0 (min (options.overlapChars.getD defaultOverlapChars)
    (max 1 (options.targetChars.getD defaultTargetChars) - 1))).toNat
  overlap_lt := by omega

/-! ## The end of a chunk -/

/-- `\n` -/
abbrev newline : UInt16 := 0x0A

/-- `[^\n]{1,80}:\s` at the start of a text. -/
def isTurn (text : JsString) : Bool :=
  (List.range 80).any fun i => (text.take (i + 1)).all (· ≠ newline) && text[i + 1]? = some 0x3A &&
    text[i + 2]?.any isSpace

/-- `lastTurnBoundaryInWindow` (line 17); `-1` is `none`. The lookahead sees the window only. -/
def lastTurnBoundaryInWindow (transcript : JsString) (start stop : ℕ) : Option ℕ :=
  let window := transcript.slice start stop
  (lastIndexBelow (fun i => window[i]? = some newline && isTurn (window.drop (i + 1)))
    window.length).map fun index => start + index + 1

/-- The double `0.65`. -/
def chunkShare : ℚ := 5854679515581645 / 2 ^ 53

/-- `minimumEnd` of a window. -/
def minimumEnd (start hardEnd targetChars : ℕ) : ℕ :=
  min hardEnd (start + ⌊Double.round (targetChars * chunkShare)⌋.toNat)

/-- `preferredChunkEnd` (line 24). -/
def preferredChunkEnd (transcript : JsString) (start hardEnd targetChars : ℕ) : ℕ :=
  if transcript.length ≤ hardEnd then transcript.length
  else
    let minimumEnd := minimumEnd start hardEnd targetChars
    match (lastTurnBoundaryInWindow transcript minimumEnd hardEnd).filter (minimumEnd < ·) with
    | some turnBoundary => turnBoundary
    | none =>
      match (transcript.lastIndexOf newline hardEnd).filter (minimumEnd < ·) with
      | some newline => newline + 1
      | none => hardEnd

/-! ## The loop -/

/-- An entry of `ranges`. -/
structure ChunkRange where
  startChar : ℕ
  endChar : ℕ
deriving DecidableEq

section
variable (transcript : JsString) (sizes : ChunkSizes) (start : ℕ)

/-- `hardEnd` of the window at `start`. -/
def hardEnd : ℕ :=
  min transcript.length (start + sizes.targetChars)

/-- The range that one pass of the loop pushes. -/
def rangeAt : ChunkRange :=
  let hardEnd := hardEnd transcript sizes start
  let endChar := preferredChunkEnd transcript start hardEnd sizes.targetChars
  ⟨start, if start < endChar then endChar else hardEnd⟩

end

/-- `startChar` of the next pass. -/
def nextStart (sizes : ChunkSizes) (range : ChunkRange) : ℕ :=
  let nextStart := range.endChar - sizes.overlapChars
  if range.startChar < nextStart then nextStart else range.endChar

section
variable {transcript : JsString} {start : ℕ} (h : start < transcript.length) (sizes : ChunkSizes)
include h

/-- A pass makes progress, whatever the preferred end is. -/
theorem lt_rangeAt_endChar : start < (rangeAt transcript sizes start).endChar := by
  have htarget : 0 < sizes.targetChars := Nat.zero_lt_of_lt sizes.overlap_lt
  simp only [rangeAt]
  split
  · assumption
  · simp only [hardEnd]
    omega

theorem lt_nextStart : start < nextStart sizes (rangeAt transcript sizes start) := by
  have hend := lt_rangeAt_endChar h sizes
  simp only [nextStart]
  split
  · assumption
  · exact hend

end

theorem nextStart_le (sizes : ChunkSizes) (range : ChunkRange) :
    nextStart sizes range ≤ range.endChar := by
  simp only [nextStart]
  split <;> omega

/-- The loop of `buildMeetingTranscriptChunks` (line 59). -/
def rangesFrom (transcript : JsString) (sizes : ChunkSizes) (start : ℕ) : List ChunkRange :=
  if _ : start < transcript.length then
    let range := rangeAt transcript sizes start
    if transcript.length ≤ range.endChar then [range]
    else range :: rangesFrom transcript sizes (nextStart sizes range)
  else []
termination_by transcript.length - start
decreasing_by
  have hprogress := lt_nextStart ‹start < transcript.length› sizes
  omega

structure MeetingTranscriptChunk where
  chunkIndex : ℕ
  chunkCount : ℕ
  startChar : ℕ
  endChar : ℕ
  text : JsString
deriving DecidableEq

/-- `buildMeetingTranscriptChunks` (line 37). -/
def buildMeetingTranscriptChunks (transcript : JsString)
    (options : BuildMeetingTranscriptChunksOptions) : List MeetingTranscriptChunk :=
  if transcript = [] then []
  else if transcript.length ≤ options.sizes.targetChars then
    [⟨1, 1, 0, transcript.length, transcript⟩]
  else
    let ranges := rangesFrom transcript options.sizes 0
    ranges.mapIdx fun index range =>
      ⟨index + 1, ranges.length, range.startChar, range.endChar,
        transcript.slice range.startChar range.endChar⟩

/-! ## The end of a range -/

section
variable {transcript : JsString} {sizes : ChunkSizes} {start stop boundary : ℕ}

section
variable (h : lastTurnBoundaryInWindow transcript start stop = some boundary)
include h

theorem lt_lastTurnBoundaryInWindow : start < boundary := by
  obtain ⟨index, _, rfl⟩ := map_eq_some_iff.1 h
  omega

theorem lastTurnBoundaryInWindow_le : boundary ≤ stop := by
  obtain ⟨index, hindex, rfl⟩ := map_eq_some_iff.1 h
  obtain ⟨hlt, _, _⟩ := lastIndexBelow_eq_some.1 hindex
  rw [length_slice] at hlt
  omega

end

/-- The share of a window in which no chunk ends is less than the window. -/
theorem floor_chunkShare_lt {targetChars : ℕ} (h : 0 < targetChars) :
    ⌊Double.round (targetChars * chunkShare)⌋.toNat < targetChars := by
  have htarget : (1 : ℚ) ≤ targetChars := by exact_mod_cast h
  have hnonneg : (0 : ℚ) ≤ targetChars * chunkShare :=
    mul_nonneg (by linarith) (by norm_num [chunkShare])
  have herror := (abs_le.1 (Double.abs_round_sub_le hnonneg)).2
  have hround : Double.round (targetChars * chunkShare) < targetChars := by
    have hshare : chunkShare + chunkShare / 2 ^ 53 < 1 := by norm_num [chunkShare]
    calc Double.round (targetChars * chunkShare)
        ≤ targetChars * (chunkShare + chunkShare / 2 ^ 53) := by linarith
      _ < targetChars := mul_lt_of_lt_one_right (by linarith) hshare
  have hfloor : ⌊Double.round (targetChars * chunkShare)⌋ < (targetChars : ℤ) :=
    Int.floor_lt.2 (by exact_mod_cast hround)
  omega

/-- The window at `start` ends in front of a newline, and has no turn of a speaker to end at. -/
def newlineAtHardEnd (transcript : JsString) (sizes : ChunkSizes) (start : ℕ) : Bool :=
  let hardEnd := hardEnd transcript sizes start
  (lastTurnBoundaryInWindow transcript (minimumEnd start hardEnd sizes.targetChars) hardEnd).isNone
    && transcript[hardEnd]? = some newline

theorem hardEnd_of_newline (h : newlineAtHardEnd transcript sizes start) :
    start + sizes.targetChars < transcript.length := by
  simp only [newlineAtHardEnd, Bool.and_eq_true, decide_eq_true_eq] at h
  obtain ⟨hlt, _⟩ := List.getElem?_eq_some_iff.1 h.2
  simp only [hardEnd] at hlt
  omega

theorem preferredChunkEnd_of_newline (h : newlineAtHardEnd transcript sizes start) :
    preferredChunkEnd transcript start (hardEnd transcript sizes start) sizes.targetChars =
      start + sizes.targetChars + 1 := by
  have hlt := hardEnd_of_newline h
  have hhard : hardEnd transcript sizes start = start + sizes.targetChars := by
    simp only [hardEnd]
    omega
  have htarget : 0 < sizes.targetChars := Nat.zero_lt_of_lt sizes.overlap_lt
  have hminimum : minimumEnd start (start + sizes.targetChars) sizes.targetChars <
      start + sizes.targetChars := by
    have := floor_chunkShare_lt htarget
    simp only [minimumEnd]
    omega
  simp only [newlineAtHardEnd, Bool.and_eq_true, decide_eq_true_eq, Option.isNone_iff_eq_none,
    hhard] at h
  have hlast : transcript.lastIndexOf newline (start + sizes.targetChars) =
      some (start + sizes.targetChars) :=
    lastIndexBelow_eq_some.2 ⟨by omega, by simpa using h.2, fun j hj hj' => by omega⟩
  rw [hhard, preferredChunkEnd, if_neg (by omega)]
  simp [h.1, hlast, Option.filter, hminimum]

/-- Every other chunk ends within its window. -/
theorem preferredChunkEnd_le (h : ¬ newlineAtHardEnd transcript sizes start) :
    preferredChunkEnd transcript start (hardEnd transcript sizes start) sizes.targetChars ≤
      hardEnd transcript sizes start := by
  rw [preferredChunkEnd]
  split
  · assumption
  · next hhard =>
    simp only
    split
    · next turnBoundary hturn =>
      obtain ⟨hturn, _⟩ := filter_eq_some_iff.1 hturn
      exact lastTurnBoundaryInWindow_le hturn
    · next hturn =>
      split
      · next index hindex =>
        obtain ⟨hindex, _⟩ := filter_eq_some_iff.1 hindex
        obtain ⟨hle, hat, _⟩ := lastIndexBelow_eq_some.1 hindex
        -- the newline is in front of the hard end, for the one there is excluded
        have hne : index ≠ hardEnd transcript sizes start := by
          rintro rfl
          refine h ?_
          simp only [newlineAtHardEnd, hat, Bool.and_true, Option.isNone_iff_eq_none]
          rw [filter_eq_none_iff] at hturn
          rw [eq_none_iff_forall_not_mem]
          intro boundary hboundary
          exact hturn boundary hboundary (decide_eq_true (lt_lastTurnBoundaryInWindow hboundary))
        omega
      · exact le_rfl

/-! ## One pass of the loop -/

theorem rangeAt_endChar_le : (rangeAt transcript sizes start).endChar ≤ transcript.length := by
  have hhard : hardEnd transcript sizes start ≤ transcript.length := min_le_left _ _
  simp only [rangeAt]
  split
  · by_cases hnewline : newlineAtHardEnd transcript sizes start
    · rw [preferredChunkEnd_of_newline hnewline]
      exact hardEnd_of_newline hnewline
    · exact (preferredChunkEnd_le hnewline).trans hhard
  · exact hhard

/-- **The length of a range**: more than `targetChars` behind a newline at the hard end only. -/
theorem rangeAt_length_le_iff :
    (rangeAt transcript sizes start).endChar - start ≤ sizes.targetChars ↔
      ¬ newlineAtHardEnd transcript sizes start := by
  have hhard : hardEnd transcript sizes start ≤ start + sizes.targetChars := min_le_right _ _
  constructor
  · intro hle hnewline
    simp only [rangeAt, preferredChunkEnd_of_newline hnewline] at hle
    split at hle <;> omega
  · intro hnewline
    have hend := preferredChunkEnd_le hnewline
    simp only [rangeAt]
    split <;> omega

/-! ## The loop -/

/-- The loop from `start` on comes to a window at `s`. -/
inductive WindowFrom (transcript : JsString) (sizes : ChunkSizes) : ℕ → ℕ → Prop
  | here {start : ℕ} : start < transcript.length → WindowFrom transcript sizes start start
  | later {start s : ℕ} : start < transcript.length →
      (rangeAt transcript sizes start).endChar < transcript.length →
      WindowFrom transcript sizes (nextStart sizes (rangeAt transcript sizes start)) s →
      WindowFrom transcript sizes start s

theorem mem_rangesFrom {range : ChunkRange} : range ∈ rangesFrom transcript sizes start ↔
    ∃ s, WindowFrom transcript sizes start s ∧ range = rangeAt transcript sizes s := by
  constructor
  · fun_induction rangesFrom transcript sizes start with
    | case1 start hstart _ hlast =>
      intro hmem
      exact ⟨start, .here hstart, List.mem_singleton.1 hmem⟩
    | case2 start hstart _ hnot ih =>
      intro hmem
      rcases List.mem_cons.1 hmem with rfl | hmem
      · exact ⟨start, .here hstart, rfl⟩
      · obtain ⟨s, hs, rfl⟩ := ih hmem
        exact ⟨s, .later hstart (not_le.1 hnot) hs, rfl⟩
    | case3 => simp
  · rintro ⟨s, hs, rfl⟩
    induction hs with
    | here hstart =>
      rw [rangesFrom, dif_pos hstart]
      simp only
      split <;> simp
    | later hstart hend _ ih =>
      rw [rangesFrom, dif_pos hstart]
      simp only
      rw [if_neg (not_le.2 hend)]
      exact List.mem_cons_of_mem _ ih

/-- **The loop covers the transcript from where it starts.** -/
theorem rangesFrom_covers (h : start < transcript.length) (sizes : ChunkSizes) :
    Covers ChunkRange.startChar ChunkRange.endChar transcript.length start
      (rangesFrom transcript sizes start) := by
  fun_induction rangesFrom transcript sizes start with
  | case1 start hstart range hlast =>
    exact .last (b := range) (lt_rangeAt_endChar hstart sizes)
      (le_antisymm rangeAt_endChar_le hlast)
  | case2 start hstart range hnot ih =>
    have hnext := nextStart_le sizes range
    exact .cons (b := range) (lt_nextStart hstart sizes) hnext (not_le.1 hnot)
      (ih (hnext.trans_lt (not_le.1 hnot)))
  | case3 start hstart => exact absurd h hstart

end

/-! ## The chunks of a transcript -/

/-- What of each chunk is not emitted yet, one after the other. -/
def reassemble (chunks : List MeetingTranscriptChunk) : JsString :=
  chunks.foldl (fun emitted chunk => emitted ++ chunk.text.drop (emitted.length - chunk.startChar))
    []

structure ChunksCover (transcript : JsString) (chunks : List MeetingTranscriptChunk) : Prop where
  starts : chunks.head?.map (·.startChar) = some 0
  ends : chunks.getLast?.map (·.endChar) = some transcript.length
  advances : chunks.Pairwise fun chunk later => chunk.startChar < later.startChar
  touches : chunks.IsChain fun chunk next => next.startChar ≤ chunk.endChar
  text_eq : ∀ chunk ∈ chunks, chunk.text ≠ [] ∧
    chunk.text = transcript.slice chunk.startChar chunk.endChar
  reassembles : reassemble chunks = transcript

section
variable {transcript : JsString} {options : BuildMeetingTranscriptChunksOptions}

theorem chunk_text {chunk : MeetingTranscriptChunk}
    (h : chunk ∈ buildMeetingTranscriptChunks transcript options) :
    chunk.text = transcript.slice chunk.startChar chunk.endChar := by
  rw [buildMeetingTranscriptChunks] at h
  split at h
  · cases h
  · split at h
    · obtain rfl := List.mem_singleton.1 h
      exact List.take_length.symm
    · obtain ⟨index, hindex, rfl⟩ := List.mem_mapIdx.1 h
      rfl

/-- A transcript of one chunk too is cut as the loop would cut it. -/
theorem map_span (h : transcript ≠ []) :
    (buildMeetingTranscriptChunks transcript options).map (fun c => (c.startChar, c.endChar)) =
      (rangesFrom transcript options.sizes 0).map (fun range => (range.startChar, range.endChar))
    := by
  have hlength : 0 < transcript.length := List.length_pos_iff.2 h
  rw [buildMeetingTranscriptChunks, if_neg h]
  split
  · next hshort =>
    have hhard : hardEnd transcript options.sizes 0 = transcript.length := by
      simp only [hardEnd]
      omega
    have hrange : rangeAt transcript options.sizes 0 = ⟨0, transcript.length⟩ := by
      simp [rangeAt, hhard, preferredChunkEnd]
    rw [rangesFrom, dif_pos hlength]
    simp [hrange]
  · refine List.ext_getElem ?_ fun i _ _ => ?_
    · simp
    · simp

theorem chunks_covers (h : transcript ≠ []) :
    Covers MeetingTranscriptChunk.startChar MeetingTranscriptChunk.endChar transcript.length 0
      (buildMeetingTranscriptChunks transcript options) :=
  (rangesFrom_covers (List.length_pos_iff.2 h) options.sizes).congr (map_span h)

theorem chunk_text_length (h : transcript ≠ []) {chunk : MeetingTranscriptChunk}
    (hchunk : chunk ∈ buildMeetingTranscriptChunks transcript options) :
    chunk.text.length = chunk.endChar - chunk.startChar := by
  have hle := ((chunks_covers h).lt_stop hchunk).2
  rw [chunk_text hchunk, length_slice, min_eq_left hle]

/-- **Chunks cover their transcript**: they begin at its start and end at its end, each begins
behind the beginning of the last one and not behind its end, each is the part of the transcript that
it says it is, and without their overlaps they make up the transcript. -/
theorem buildMeetingTranscriptChunks_covers (h : transcript ≠ []) :
    ChunksCover transcript (buildMeetingTranscriptChunks transcript options) := by
  have hcovers := @chunks_covers _ options h
  refine ⟨hcovers.head?, hcovers.getLast?, ?_, hcovers.isChain.imp fun _ _ h => h.2, ?_, ?_⟩
  · exact (hcovers.isChain.imp fun _ _ h => h.1).pairwise
  · intro chunk hchunk
    obtain ⟨hlt, _⟩ := hcovers.lt_stop hchunk
    refine ⟨fun hempty => ?_, chunk_text hchunk⟩
    have hlength := chunk_text_length h hchunk
    rw [hempty, List.length_nil] at hlength
    omega
  · have hwhole := hcovers.foldl_append_drop (fun _ hchunk => chunk_text hchunk) (m := 0)
      (le_refl 0) (Nat.zero_le _)
    simpa [reassemble] using hwhole

end

/-- A transcript of two lines, cut after at most ten code units. -/
theorem buildMeetingTranscriptChunks_covers_twoLines :
    lit "We agreed.\nThe end." ≠ [] ∧ ChunksCover (lit "We agreed.\nThe end.")
      (buildMeetingTranscriptChunks (lit "We agreed.\nThe end.") ⟨some 10, some 2⟩) :=
  ⟨by decide, buildMeetingTranscriptChunks_covers (by decide)⟩

/-! ## The length of a chunk -/

/-- **The exact condition for chunks of at most `targetChars` code units**: no window that the loop
comes to, and that has no turn of a speaker to end at, ends in front of a newline. -/
theorem text_length_le_iff {transcript : JsString} {targetChars : ℤ} (overlapChars : Option ℤ)
    (h : transcript ≠ []) (htarget : 1 ≤ targetChars) :
    (∀ chunk ∈ buildMeetingTranscriptChunks transcript ⟨some targetChars, overlapChars⟩,
      (chunk.text.length : ℤ) ≤ targetChars) ↔
    ∀ start, WindowFrom transcript
      (BuildMeetingTranscriptChunksOptions.sizes ⟨some targetChars, overlapChars⟩) 0 start →
      ¬ newlineAtHardEnd transcript
        (BuildMeetingTranscriptChunksOptions.sizes ⟨some targetChars, overlapChars⟩) start := by
  obtain ⟨sizes, hsizes⟩ : ∃ sizes, BuildMeetingTranscriptChunksOptions.sizes
      ⟨some targetChars, overlapChars⟩ = sizes := ⟨_, rfl⟩
  have hcast : (sizes.targetChars : ℤ) = targetChars := by
    rw [← hsizes]
    simp only [BuildMeetingTranscriptChunksOptions.sizes, getD_some]
    omega
  have hspan := @map_span _ ⟨some targetChars, overlapChars⟩ h
  rw [hsizes] at hspan ⊢
  constructor
  · intro hall start hwindow
    -- the chunk of this window
    have hmem : (start, (rangeAt transcript sizes start).endChar) ∈
        (rangesFrom transcript sizes 0).map fun range => (range.startChar, range.endChar) :=
      List.mem_map.2 ⟨_, mem_rangesFrom.2 ⟨start, hwindow, rfl⟩, rfl⟩
    rw [← hspan] at hmem
    obtain ⟨chunk, hchunk, hsame⟩ := List.mem_map.1 hmem
    obtain ⟨hstart, hend⟩ := Prod.mk.inj hsame
    have hle := hall chunk hchunk
    rw [chunk_text_length h hchunk, hstart, hend] at hle
    refine rangeAt_length_le_iff.1 ?_
    omega
  · intro hall chunk hchunk
    have hmem := List.mem_map_of_mem (f := fun c : MeetingTranscriptChunk =>
      (c.startChar, c.endChar)) hchunk
    rw [hspan] at hmem
    obtain ⟨range, hrange, hsame⟩ := List.mem_map.1 hmem
    obtain ⟨start, hwindow, rfl⟩ := mem_rangesFrom.1 hrange
    obtain ⟨hstart, hend⟩ := Prod.mk.inj hsame
    have hle := rangeAt_length_le_iff.2 (hall start hwindow)
    rw [chunk_text_length h hchunk, ← hstart, ← hend]
    have hsame : (rangeAt transcript sizes start).startChar = start := rfl
    omega

/-- With two code units more the first window ends in the second line. -/
theorem text_length_le_iff_twoLines :
    (∀ chunk ∈ buildMeetingTranscriptChunks (lit "We agreed.\nThe end.") ⟨some 12, some 2⟩,
      (chunk.text.length : ℤ) ≤ 12) ∧
    ∀ start, WindowFrom (lit "We agreed.\nThe end.")
      (BuildMeetingTranscriptChunksOptions.sizes ⟨some 12, some 2⟩) 0 start →
      ¬ newlineAtHardEnd (lit "We agreed.\nThe end.")
        (BuildMeetingTranscriptChunksOptions.sizes ⟨some 12, some 2⟩) start :=
  have hshort : ∀ chunk ∈ buildMeetingTranscriptChunks (lit "We agreed.\nThe end.")
      ⟨some 12, some 2⟩, (chunk.text.length : ℤ) ≤ 12 := by decide +kernel
  ⟨hshort, (text_length_le_iff (some 2) (by decide) (by decide)).1 hshort⟩

/-- A newline right behind the ten code units that a chunk may have. -/
theorem text_length_counterexample : ¬ ∀ (transcript : JsString) (targetChars overlapChars : ℤ),
    transcript ≠ [] → 1 ≤ targetChars → 0 ≤ overlapChars →
    ∀ chunk ∈ buildMeetingTranscriptChunks transcript ⟨some targetChars, some overlapChars⟩,
      (chunk.text.length : ℤ) ≤ targetChars := by
  intro h
  have hchunk : (⟨1, 2, 0, 11, lit "We agreed.\n"⟩ : MeetingTranscriptChunk) ∈
      buildMeetingTranscriptChunks (lit "We agreed.\nThe end.") ⟨some 10, some 2⟩ := by
    decide +kernel
  have hle := h _ 10 2 (by decide) (by decide) (by decide) _ hchunk
  exact absurd hle (by decide)

end Corgtex.Domain.MeetingTranscripts
