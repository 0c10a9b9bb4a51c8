import Corgtex.Library.JsString
import Corgtex.Library.Trimming
import Corgtex.Library.Words
import Mathlib.Data.List.Infix

/-!
# Merged transcripts

`meetings.ts`: `mergeMeetingTranscript` keeps the longer of two transcripts when
one contains the other up to white space, and else puts the new one behind the old.
`mergeAll_contains` says that nothing is lost in any sequence of uploads. It rests on one fact about
the normalization: a part of a text is normalized to a part of the normalized text
(`isInfix_normalize`).
-/

namespace Corgtex.Domain.TranscriptMerge

open JsString List Trimming Words

/-- `normalizeTranscriptForCompare` (line 91). -/
def normalizeTranscriptForCompare (value : Option JsString) : JsString :=
  replaceRuns isSpace 0x20 false (value.getD []).trim

/-- `mergeMeetingTranscript` (line 95). -/
def mergeMeetingTranscript (existing : Option JsString) (incoming : JsString) : JsString :=
  let current := (existing.map JsString.trim).getD []
  let next := incoming.trim
  if current = [] then next
  else if next = [] then current
  else
    let normalizedCurrent := normalizeTranscriptForCompare (some current)
    let normalizedNext := normalizeTranscriptForCompare (some next)
    if normalizedCurrent = normalizedNext ∨ normalizedNext <:+: normalizedCurrent then current
    else if normalizedCurrent <:+: normalizedNext then next
    else current ++ lit "\n\n---\nAdditional transcript upload:\n" ++ next

/-- The transcript after the uploads, merged one after another. -/
def mergeAll (uploads : List JsString) : Option JsString :=
  uploads.foldl (fun existing upload => some (mergeMeetingTranscript existing upload)) none

/-! ## Normalization -/

section
variable {p : UInt16 → Bool} {u : UInt16} {text part : JsString}

theorem replaceRuns_append' (inRun : Bool) (text rest : JsString) : ∃ inRun',
    replaceRuns p u inRun (text ++ rest) =
      replaceRuns p u inRun text ++ replaceRuns p u inRun' rest := by
  induction text generalizing inRun with
  | nil => exact ⟨inRun, rfl⟩
  | cons v text ih =>
    simp only [cons_append, replaceRuns]
    split
    · obtain ⟨inRun', h⟩ := ih true
      exact ⟨inRun', by split <;> simp [h]⟩
    · obtain ⟨inRun', h⟩ := ih false
      exact ⟨inRun', by simp [h]⟩

theorem replaceRuns_true_suffix (inRun : Bool) (text : JsString) :
    replaceRuns p u true text <:+ replaceRuns p u inRun text := by
  cases text with
  | nil => exact suffix_rfl
  | cons v text =>
    rw [replaceRuns, replaceRuns]
    cases p v <;> cases inRun <;> simp

theorem replaceRuns_all (h : ∀ v ∈ text, p v) (rest : JsString) :
    replaceRuns p u true (text ++ rest) = replaceRuns p u true rest := by
  induction text with
  | nil => rfl
  | cons v text ih =>
    rw [cons_append, replaceRuns, if_pos (h v (.head _)), if_pos rfl,
      ih fun w hw => h w (.tail _ hw)]

/-- The runs of a text, where the text follows a run: its normalized text, and at most one unit. -/
theorem replaceRuns_true (text : JsString) : ∃ rest, (rest = [] ∨ rest = [0x20]) ∧
    replaceRuns isSpace 0x20 true text = normalizeTranscriptForCompare (some text) ++ rest := by
  obtain ⟨before, after, hbefore, hafter, htext⟩ := exists_trimBy isSpace text
  obtain ⟨inRun, happend⟩ := replaceRuns_append' (p := isSpace) (u := 0x20) true text.trim after
  have hfirst : replaceRuns isSpace 0x20 true text.trim =
      replaceRuns isSpace 0x20 false text.trim := by
    cases htrim : text.trim with
    | nil => rfl
    | cons v rest =>
      have hv : ¬ isSpace v := head?_trim v (by rw [htrim]; rfl)
      rw [replaceRuns, replaceRuns, if_neg hv, if_neg hv]
  have hlast : replaceRuns isSpace 0x20 inRun after = [] ∨
      replaceRuns isSpace 0x20 inRun after = [0x20] := by
    cases after with
    | nil => exact .inl rfl
    | cons v after =>
      have hall := replaceRuns_all (u := 0x20) (forall_mem_cons.1 hafter).2 []
      rw [append_nil] at hall
      rw [replaceRuns, if_pos (hafter v (.head _)), hall]
      cases inRun
      · exact .inr rfl
      · exact .inl rfl
  refine ⟨_, hlast, ?_⟩
  have hwhole : replaceRuns isSpace 0x20 true text =
      replaceRuns isSpace 0x20 true (before ++ (text.trim ++ after)) :=
    congrArg _ (htext.trans (append_assoc ..))
  rw [hwhole, replaceRuns_all hbefore, happend, hfirst]
  rfl

theorem getLast?_normalize (text : JsString) :
    (normalizeTranscriptForCompare (some text)).getLast? ≠ some 0x20 := by
  rw [normalizeTranscriptForCompare, Option.getD_some]
  rcases eq_nil_or_concat' text.trim with hnil | ⟨front, v, hlast⟩
  · rw [hnil]
    nofun
  · have hv : ¬ isSpace v := getLast?_trim v (by rw [hlast, getLast?_concat]; rfl)
    obtain ⟨inRun, happend⟩ := replaceRuns_append' (p := isSpace) (u := 0x20) false front [v]
    rw [hlast, happend, replaceRuns, if_neg hv, replaceRuns, getLast?_concat]
    rintro ⟨⟩
    exact hv rfl

/-- **A part of a text** is normalized to a part of the normalized text. -/
theorem isInfix_normalize (h : part <:+: text) :
    normalizeTranscriptForCompare (some part) <:+: normalizeTranscriptForCompare (some text) := by
  obtain ⟨before, after, rfl⟩ := h
  obtain ⟨inRun, hbefore⟩ :=
    replaceRuns_append' (p := isSpace) (u := 0x20) true before (part ++ after)
  obtain ⟨inRun', hpart⟩ := replaceRuns_append' (p := isSpace) (u := 0x20) inRun part after
  obtain ⟨rest, _, hown⟩ := replaceRuns_true part
  obtain ⟨rest', hrest', hall⟩ := replaceRuns_true (before ++ part ++ after)
  have hin : normalizeTranscriptForCompare (some part) <:+:
      normalizeTranscriptForCompare (some (before ++ part ++ after)) ++ rest' := by
    rw [← hall, append_assoc, hbefore, hpart]
    have hpre : normalizeTranscriptForCompare (some part) <+:
        replaceRuns isSpace 0x20 true part := hown ▸ prefix_append ..
    rw [← append_assoc]
    exact (hpre.isInfix.trans (replaceRuns_true_suffix inRun part).isInfix).trans
      (infix_append ..)
  rcases hrest' with rfl | rfl
  · rwa [append_nil] at hin
  · rcases infix_concat_iff.1 hin with ⟨front, hfront⟩ | hin
    · by_cases hnil : normalizeTranscriptForCompare (some part) = []
      · exact hnil ▸ nil_infix
      · refine absurd ?_ (getLast?_normalize part)
        rw [← getLast?_append_of_ne_nil front hnil, hfront, getLast?_concat]
    · exact hin

theorem normalize_eq_nil : normalizeTranscriptForCompare (some text) = [] ↔ text.trim = [] := by
  rw [normalizeTranscriptForCompare, Option.getD_some]
  cases text.trim with
  | nil => exact iff_of_true rfl rfl
  | cons v rest =>
    simp only [replaceRuns]
    split <;> simp

@[simp] theorem normalize_trim :
    normalizeTranscriptForCompare (some text.trim) = normalizeTranscriptForCompare (some text) := by
  rw [normalizeTranscriptForCompare, normalizeTranscriptForCompare, Option.getD_some,
    Option.getD_some, trim_trim]

end

/-! ## Merging -/

section
variable {current next : JsString}

theorem merge_contains (hcurrent : current.trim = current) (next : JsString) :
    let merged := mergeMeetingTranscript (some current) next
    merged.trim = merged ∧
      normalizeTranscriptForCompare (some current) <:+:
        normalizeTranscriptForCompare (some merged) ∧
      normalizeTranscriptForCompare (some next) <:+:
        normalizeTranscriptForCompare (some merged) := by
  simp only [mergeMeetingTranscript, Option.map_some, Option.getD_some, hcurrent]
  rw [← @normalize_trim next]
  split
  · next h => exact ⟨trim_trim next, by rw [h]; exact nil_infix, infix_rfl⟩
  split
  · next h => exact ⟨hcurrent, infix_rfl, by rw [h]; exact nil_infix⟩
  split
  · next h => exact ⟨hcurrent, infix_rfl, h.elim (fun he => he ▸ infix_rfl) id⟩
  split
  · next h => exact ⟨trim_trim next, h, infix_rfl⟩
  · next hne hne' _ _ =>
    refine ⟨trim_eq_self (fun u hu => ?_) (fun u hu => ?_), isInfix_normalize ?_,
      isInfix_normalize ?_⟩
    · rw [append_assoc, head?_append_of_ne_nil _ hne] at hu
      exact head?_trim u (hcurrent.symm ▸ hu)
    · rw [getLast?_append_of_ne_nil _ hne'] at hu
      exact getLast?_trim u hu
    · rw [append_assoc]
      exact (prefix_append ..).isInfix
    · exact (suffix_append ..).isInfix

/-- What is contained changes nothing. -/
theorem merge_eq_self (hcurrent : current.trim = current)
    (h : normalizeTranscriptForCompare (some next) <:+:
      normalizeTranscriptForCompare (some current)) :
    mergeMeetingTranscript (some current) next = current := by
  simp only [mergeMeetingTranscript, Option.map_some, Option.getD_some, hcurrent, normalize_trim]
  split
  · next hnil =>
    rw [hnil] at h ⊢
    exact normalize_eq_nil.1 (infix_nil.1 h)
  split
  · rfl
  · exact if_pos (.inr h)

end

/-- **Merging loses nothing.** After any uploads, the normalized transcript has the normalized text
of each as a part, merging a part of one again leaves the transcript as it is, and the transcript is
empty only if all uploads are blank. -/
theorem mergeAll_contains (uploads : List JsString) :
    let transcript := (mergeAll uploads).getD []
    (∀ upload ∈ uploads, normalizeTranscriptForCompare (some upload) <:+:
      normalizeTranscriptForCompare (some transcript)) ∧
    (∀ upload ∈ uploads, ∀ part, (∃ text, text <:+: upload ∧
        normalizeTranscriptForCompare (some part) = normalizeTranscriptForCompare (some text)) →
      mergeMeetingTranscript (mergeAll uploads) part = transcript) ∧
    (transcript = [] → ∀ upload ∈ uploads, upload.trim = []) := by
  have hall : ((mergeAll uploads).getD []).trim = (mergeAll uploads).getD [] ∧
      ∀ upload ∈ uploads, normalizeTranscriptForCompare (some upload) <:+:
        normalizeTranscriptForCompare (some ((mergeAll uploads).getD [])) := by
    induction uploads using reverseRecOn with
    | nil => exact ⟨rfl, nofun⟩
    | append_singleton uploads upload ih =>
      have hstep : mergeAll (uploads ++ [upload]) =
          some (mergeMeetingTranscript (some ((mergeAll uploads).getD [])) upload) := by
        rw [mergeAll, foldl_concat, ← mergeAll]
        cases mergeAll uploads <;> rfl
      obtain ⟨htrim, hcurrent, hnext⟩ := merge_contains ih.1 upload
      rw [hstep]
      refine ⟨htrim, forall_mem_append.2 ⟨fun earlier h => ?_, ?_⟩⟩
      · exact (ih.2 earlier h).trans hcurrent
      · exact forall_mem_singleton.2 hnext
  obtain ⟨htrim, hcontains⟩ := hall
  refine ⟨hcontains, fun upload hmem part h => ?_, fun hnil upload hmem => ?_⟩
  · obtain ⟨text, htext, hpart⟩ := h
    have hsame : mergeMeetingTranscript (mergeAll uploads) part =
        mergeMeetingTranscript (some ((mergeAll uploads).getD [])) part := by
      cases mergeAll uploads <;> rfl
    rw [hsame]
    exact merge_eq_self htrim (hpart ▸ (isInfix_normalize htext).trans (hcontains upload hmem))
  · have hempty := hcontains upload hmem
    rw [hnil] at hempty
    exact normalize_eq_nil.1 (infix_nil.1 hempty)

end Corgtex.Domain.TranscriptMerge
