import Corgtex.Domain.DuplicateGuard
import Corgtex.Domain.DuplicateGuardText
import Corgtex.Library.JsSplit
import Mathlib.Data.List.Infix

/-!
# Merged texts

`duplicateGuardMergeText` (`duplicate-guard.ts:177`) keeps one of two texts if
its normal form has that of the other in it, and writes one below the other else. Merging again
changes nothing (`mergeText_idem`). The normal form knows the letters `a` to `z` and the digits
only, and it is searched as a string: a text may be dropped of which the other has no word.
`mergesSafely_iff` says for which texts this does not happen.
-/

namespace Corgtex.Domain.DuplicateGuard

open JsString List Words

variable (unicode : Unicode)

/-- `duplicateGuardMergeText` with the normal form of the guard. -/
def mergeText (existing incoming : Option JsString) : Option JsString :=
  duplicateGuardMergeText (normalizeDuplicateGuardText unicode) existing incoming

/-- A value that may be null, as the trimmed text that is merged. -/
def trimmed (value : Option JsString) : JsString := (value.map trim).getD []

/-- A text contains another one, or all its words. -/
def Covers (result text : JsString) : Prop :=
  includes result text ∨ ∀ word ∈ readWords unicode text, word ∈ readWords unicode result

/-- Nothing is lost, and merging again changes nothing. -/
structure MergesSafely (existing incoming : Option JsString) : Prop where
  coversExisting : Covers unicode ((mergeText unicode existing incoming).getD []) (trimmed existing)
  coversIncoming : Covers unicode ((mergeText unicode existing incoming).getD []) (trimmed incoming)
  idempotent : mergeText unicode (mergeText unicode existing incoming) incoming =
    mergeText unicode existing incoming

/-! ## When nothing is lost -/

/-- A word in which letters `a` to `z` or digits stand next to other letters. -/
def HasMixedWord (text : JsString) : Prop :=
  ∃ word ∈ readWords unicode text, (∃ n ∈ word, isPlain n) ∧ ∃ n ∈ word, ¬ isPlain n

/-- The first or the last plain word of a text. -/
def IsOuterWord (text : JsString) (word : List Nat) : Prop :=
  ∃ part, (part ∈ (plainWords unicode text).head? ∨ part ∈ (plainWords unicode text).getLast?) ∧
    part.map UInt16.toNat = word

/-- A word that the normal form of `kept` may not have although that of `dropped` is in it: one with
a letter that no normal form has, one at an end, and any if `kept` has mixed words. -/
def IsExposed (kept dropped : JsString) (word : List Nat) : Prop :=
  (∃ n ∈ word, ¬ isPlain n) ∨ IsOuterWord unicode dropped word ∨ HasMixedWord unicode kept

/-- `kept` contains `dropped`, or its exposed words. -/
def Spares (kept dropped : JsString) : Prop :=
  includes kept dropped ∨ ∀ word ∈ readWords unicode dropped, IsExposed unicode kept dropped word →
    word ∈ readWords unicode kept

/-- The normal form of a text has that of another in it. -/
def Absorbs (text other : JsString) : Prop :=
  includes (normalizeDuplicateGuardText unicode text) (normalizeDuplicateGuardText unicode other)

/-- One text is blank, or the text that is dropped, if one is, is spared. -/
def MergesCleanly (current next : JsString) : Prop :=
  current = [] ∨ next = [] ∨
    (Absorbs unicode current next → Spares unicode current next) ∧
      (¬ Absorbs unicode current next → Absorbs unicode next current → Spares unicode next current)

variable {unicode}

/-! ## Parts of a text -/

section
variable {haystack needle before after : JsString}

theorem includes_iff : includes haystack needle ↔ needle <:+: haystack := by
  simp only [includes, any_eq_true, mem_tails, isPrefixOf_iff_prefix]
  exact ⟨fun ⟨rest, hsuffix, hpre⟩ => hpre.isInfix.trans hsuffix.isInfix,
    fun ⟨before, after, h⟩ => ⟨needle ++ after, ⟨before, by simpa using h⟩, prefix_append _ _⟩⟩

theorem includes_self (text : JsString) : includes text text :=
  includes_iff.2 (infix_refl text)

theorem words_join {parts : List JsString}
    (hparts : ∀ part ∈ parts, part ≠ [] ∧ ∀ u ∈ part, isPlainUnit u) :
    words isPlainUnit (join [0x20] parts) = parts := by
  induction parts with
  | nil => rfl
  | cons part parts ih =>
    obtain ⟨⟨hne, hpart⟩, hrest⟩ := forall_mem_cons.1 hparts
    cases parts with
    | nil => exact words_of_forall hne hpart
    | cons next parts =>
      have hjoin : join [0x20] (part :: next :: parts) =
          part ++ 0x20 :: join [0x20] (next :: parts) := by simp [join]
      rw [hjoin, words_append_cons_of_forall hne hpart (by decide), ih hrest]

theorem words_normalize (text : JsString) :
    words isPlainUnit (normalizeDuplicateGuardText unicode text) = plainWords unicode text := by
  rw [normalize_eq_join]
  exact words_join fun part hpart => of_mem_words hpart

/-- A list in which an element is neither first nor last has elements around it. -/
theorem exists_around {α : Type*} {parts : List α} {part : α} (hmem : part ∈ parts)
    (hhead : part ∉ parts.head?) (hlast : part ∉ parts.getLast?) :
    ∃ before after, before ≠ [] ∧ after ≠ [] ∧ parts = before ++ part :: after := by
  obtain ⟨before, after, rfl⟩ := append_of_mem hmem
  refine ⟨before, after, ?_, ?_, rfl⟩
  · rintro rfl
    exact hhead rfl
  · rintro rfl
    exact hlast (by simp)

end

/-! ## Words in normal forms -/

section
variable {kept dropped text : JsString} {word : List Nat}

/-- A plain word between others is a plain word of a text with them in its normal form. -/
theorem mem_plainWords_of_absorbs (h : Absorbs unicode kept dropped) {part : JsString}
    (hmem : part ∈ plainWords unicode dropped) (hhead : part ∉ (plainWords unicode dropped).head?)
    (hlast : part ∉ (plainWords unicode dropped).getLast?) : part ∈ plainWords unicode kept := by
  obtain ⟨before, after, hbefore, hafter, hparts⟩ := exists_around hmem hhead hlast
  obtain ⟨front, back, hkept⟩ := includes_iff.1 h
  obtain ⟨hne, hpart⟩ := of_mem_words hmem
  have hspace : ¬ isPlainUnit 0x20 := by decide
  have hjoin : normalizeDuplicateGuardText unicode dropped =
      join [0x20] before ++ 0x20 :: (part ++ 0x20 :: join [0x20] after) := by
    rw [normalize_eq_join, hparts, join_append hbefore (cons_ne_nil part after),
      ← singleton_append (x := part), join_append (cons_ne_nil part []) hafter]
    simp [join]
  have hsplit : normalizeDuplicateGuardText unicode kept =
      (front ++ join [0x20] before) ++ 0x20 :: (part ++ 0x20 :: (join [0x20] after ++ back)) := by
    rw [← hkept, hjoin]
    simp
  rw [← words_normalize, hsplit, words_append_cons hspace,
    words_append_cons_of_forall hne hpart hspace]
  simp

theorem mem_plainWords_of_readWords (hmem : word ∈ readWords unicode text)
    (hplain : ∀ n ∈ word, isPlain n) :
    ∃ part ∈ plainWords unicode text, part.map UInt16.toNat = word := by
  have hword : words isPlain word = [word] := words_of_forall (of_mem_words hmem).1 hplain
  have hin : word ∈ (readWords unicode text).flatMap (words isPlain) :=
    mem_flatMap.2 ⟨word, hmem, by simp [hword]⟩
  rw [← plainWords_flatMap] at hin
  exact mem_map.1 hin

theorem mem_readWords_of_plainWords (hmixed : ¬ HasMixedWord unicode text) {part : JsString}
    (hmem : part ∈ plainWords unicode text) : part.map UInt16.toNat ∈ readWords unicode text := by
  have hin : part.map UInt16.toNat ∈ (readWords unicode text).flatMap (words isPlain) := by
    rw [← plainWords_flatMap]
    exact mem_map_of_mem hmem
  obtain ⟨word, hword, hpart⟩ := mem_flatMap.1 hin
  have hplain : ∀ n ∈ word, isPlain n := by
    obtain ⟨hne, hall⟩ := of_mem_words hpart
    obtain ⟨n, hn⟩ := exists_mem_of_ne_nil _ hne
    have hfilter : n ∈ word.filter isPlain := by
      rw [← flatten_words]
      exact mem_flatten.2 ⟨_, hpart, hn⟩
    by_contra hnot
    refine hmixed ⟨word, hword, ⟨n, (mem_filter.1 hfilter).1, hall n hn⟩, ?_⟩
    simpa using hnot
  rw [words_of_forall (of_mem_words hword).1 hplain, mem_singleton] at hpart
  rwa [hpart]

/-- **A text that is absorbed loses exposed words only.** -/
theorem covers_of_spares (h : Absorbs unicode kept dropped)
    (hspares : Spares unicode kept dropped) : Covers unicode kept dropped := by
  refine hspares.imp_right fun hexposed word hword => ?_
  by_cases hexp : IsExposed unicode kept dropped word
  · exact hexposed word hword hexp
  · obtain ⟨hplain, houter, hmixed⟩ : (¬ ∃ n ∈ word, ¬ isPlain n) ∧
        ¬ IsOuterWord unicode dropped word ∧ ¬ HasMixedWord unicode kept := by
      simpa only [IsExposed, not_or] using hexp
    obtain ⟨part, hpart, rfl⟩ := mem_plainWords_of_readWords hword fun n hn => by
      by_contra hnot
      exact hplain ⟨n, hn, hnot⟩
    refine mem_readWords_of_plainWords hmixed (mem_plainWords_of_absorbs h hpart ?_ ?_)
    · exact fun hhead => houter ⟨part, .inl hhead, rfl⟩
    · exact fun hlast => houter ⟨part, .inr hlast, rfl⟩

theorem spares_of_covers (h : Covers unicode kept dropped) : Spares unicode kept dropped :=
  h.imp_right fun hwords word hword _ => hwords word hword

end

/-! ## What is merged -/

/-- What stands between two texts that are both kept. -/
def SEPARATOR : JsString := lit "\n\n---\nAdditional duplicate upload context:\n"

section
variable {existing incoming : Option JsString} {text : JsString}

theorem mergeText_blank (hnext : trimmed incoming = []) :
    mergeText unicode existing incoming = (trimmed existing).orNull :=
  if_pos hnext

section
variable (hnext : trimmed incoming ≠ [])
include hnext

theorem mergeText_first (hcurrent : trimmed existing = []) :
    mergeText unicode existing incoming = some (trimmed incoming) :=
  (if_neg hnext).trans (if_pos hcurrent)

theorem mergeText_of_ne_nil (hcurrent : trimmed existing ≠ []) :
    mergeText unicode existing incoming =
      if normalizeDuplicateGuardText unicode (trimmed existing) =
            normalizeDuplicateGuardText unicode (trimmed incoming) ||
          includes (normalizeDuplicateGuardText unicode (trimmed existing))
            (normalizeDuplicateGuardText unicode (trimmed incoming)) then
        some (trimmed existing)
      else if includes (normalizeDuplicateGuardText unicode (trimmed incoming))
          (normalizeDuplicateGuardText unicode (trimmed existing)) then
        some (trimmed incoming)
      else some (trimmed existing ++ SEPARATOR ++ trimmed incoming) :=
  (if_neg hnext).trans (if_neg hcurrent)

theorem mergeText_absorbs (hcurrent : trimmed existing ≠ [])
    (h : Absorbs unicode (trimmed existing) (trimmed incoming)) :
    mergeText unicode existing incoming = some (trimmed existing) := by
  rw [mergeText_of_ne_nil hnext hcurrent, if_pos (Bool.or_eq_true_iff.2 (.inr h))]

end

/-- Equal normal forms are in each other. -/
theorem not_equal_or_includes {current next : JsString} (h : ¬ Absorbs unicode current next) :
    ¬ (normalizeDuplicateGuardText unicode current = normalizeDuplicateGuardText unicode next ||
      includes (normalizeDuplicateGuardText unicode current)
        (normalizeDuplicateGuardText unicode next)) := by
  rw [Bool.or_eq_true, decide_eq_true_eq, not_or]
  refine ⟨fun heq => h ?_, h⟩
  rw [Absorbs, heq]
  exact includes_self _

section
variable (hnext : trimmed incoming ≠ []) (hcurrent : trimmed existing ≠ [])
  (h : ¬ Absorbs unicode (trimmed existing) (trimmed incoming))
include hnext hcurrent h

theorem mergeText_absorbed (h' : Absorbs unicode (trimmed incoming) (trimmed existing)) :
    mergeText unicode existing incoming = some (trimmed incoming) := by
  rw [mergeText_of_ne_nil hnext hcurrent, if_neg (not_equal_or_includes h)]
  exact if_pos h'

theorem mergeText_apart (h' : ¬ Absorbs unicode (trimmed incoming) (trimmed existing)) :
    mergeText unicode existing incoming =
      some (trimmed existing ++ SEPARATOR ++ trimmed incoming) := by
  rw [mergeText_of_ne_nil hnext hcurrent, if_neg (not_equal_or_includes h)]
  exact if_neg h'

end

theorem trim_trimmed (value : Option JsString) : (trimmed value).trim = trimmed value := by
  cases value with
  | none => rfl
  | some text => exact trim_trim text

/-! ## Merging again -/

theorem plainWords_lines (first rest : JsString) :
    plainWords unicode (first ++ 0x0A :: rest) =
      plainWords unicode first ++ plainWords unicode rest := by
  have hfold : foldText unicode (first ++ 0x0A :: rest) =
      foldText unicode first ++ 0x0A :: foldText unicode rest := by
    simp only [foldText, unicode.toLowerCase_lines, unicode.nfkd_lines, filter_append,
      flatMap_append]
    rfl
  rw [plainWords, foldedText, hfold, mapWords_append_cons (by decide),
    words_append_cons (by decide)]
  rfl

theorem absorbs_of_plainWords {other : JsString} (before : List JsString)
    (h : plainWords unicode text = before ++ plainWords unicode other) :
    Absorbs unicode text other := by
  rw [Absorbs, includes_iff, normalize_eq_join, normalize_eq_join, h]
  by_cases hbefore : before = []
  · simp [hbefore]
  · by_cases hother : plainWords unicode other = []
    · simp [hother, join]
    · rw [join_append hbefore hother]
      exact (suffix_append _ _).isInfix

theorem absorbs_self (text : JsString) : Absorbs unicode text text := includes_self _

/-- What is written below a text is in its normal form. -/
theorem absorbs_apart (current next : JsString) :
    Absorbs unicode (current ++ SEPARATOR ++ next) next := by
  have hseparator : SEPARATOR = 0x0A :: (SEPARATOR.tail.dropLast ++ [0x0A]) := by decide +kernel
  have happend : current ++ SEPARATOR ++ next =
      current ++ 0x0A :: (SEPARATOR.tail.dropLast ++ 0x0A :: next) := by
    rw [hseparator]
    simp
  refine absorbs_of_plainWords
    (plainWords unicode current ++ plainWords unicode SEPARATOR.tail.dropLast) ?_
  rw [happend, plainWords_lines, plainWords_lines, append_assoc]

theorem mergeText_some (hne : text ≠ []) (htrim : text.trim = text)
    (h : Absorbs unicode text (trimmed incoming)) :
    mergeText unicode (some text) incoming = some text := by
  have htext : trimmed (some text) = text := htrim
  by_cases hnext : trimmed incoming = []
  · rw [mergeText_blank hnext, htext, orNull_eq_some]
    exact ⟨rfl, hne⟩
  · rw [mergeText_absorbs hnext (htext.symm ▸ hne) (htext.symm ▸ h), htext]

/-- Two trimmed texts with the separator between them have no white space at their ends. -/
theorem trim_apart {current next : JsString} (hcurrent : current.trim = current)
    (hnext : next.trim = next) (hne : current ≠ []) (hne' : next ≠ []) :
    (current ++ SEPARATOR ++ next).trim = current ++ SEPARATOR ++ next := by
  refine trim_eq_self (fun u hu => ?_) fun u hu => ?_
  · rw [append_assoc, head?_append_of_ne_nil _ hne, ← hcurrent] at hu
    exact head?_trim u hu
  · rw [getLast?_append_of_ne_nil _ hne', ← hnext] at hu
    exact getLast?_trim u hu

/-- **Merging a text again changes nothing.** -/
theorem mergeText_idem (existing incoming : Option JsString) :
    mergeText unicode (mergeText unicode existing incoming) incoming =
      mergeText unicode existing incoming := by
  by_cases hnext : trimmed incoming = []
  · have hblank : trimmed (mergeText unicode existing incoming) = trimmed existing := by
      rw [mergeText_blank hnext, orNull]
      split
      · next hnil => exact hnil.symm
      · exact trim_trimmed existing
    rw [mergeText_blank hnext, hblank, mergeText_blank hnext]
  by_cases hcurrent : trimmed existing = []
  · rw [mergeText_first hnext hcurrent]
    exact mergeText_some hnext (trim_trimmed _) (absorbs_self _)
  by_cases h : Absorbs unicode (trimmed existing) (trimmed incoming)
  · rw [mergeText_absorbs hnext hcurrent h]
    exact mergeText_some hcurrent (trim_trimmed _) h
  by_cases h' : Absorbs unicode (trimmed incoming) (trimmed existing)
  · rw [mergeText_absorbed hnext hcurrent h h']
    exact mergeText_some hnext (trim_trimmed _) (absorbs_self _)
  · rw [mergeText_apart hnext hcurrent h h']
    exact mergeText_some (by simp [hnext])
      (trim_apart (trim_trimmed _) (trim_trimmed _) hcurrent hnext) (absorbs_apart _ _)

end

/-! ## What is kept -/

/-- **A merge loses nothing if and only if the text that it drops is spared**, and merging again
always changes nothing. -/
theorem mergesSafely_iff (unicode : Unicode) (existing incoming : Option JsString) :
    MergesSafely unicode existing incoming ↔
      MergesCleanly unicode (trimmed existing) (trimmed incoming) := by
  have hsafely : MergesSafely unicode existing incoming ↔
      Covers unicode ((mergeText unicode existing incoming).getD []) (trimmed existing) ∧
        Covers unicode ((mergeText unicode existing incoming).getD []) (trimmed incoming) :=
    ⟨fun h => ⟨h.coversExisting, h.coversIncoming⟩,
      fun h => ⟨h.1, h.2, mergeText_idem existing incoming⟩⟩
  have hself : ∀ text, Covers unicode text text := fun text => .inl (includes_self text)
  have hnil : ∀ text, Covers unicode text [] := fun text =>
    .inl (includes_iff.2 nil_infix)
  rw [hsafely]
  by_cases hnext : trimmed incoming = []
  · have hkept : ((trimmed existing).orNull).getD [] = trimmed existing := by
      rw [orNull]
      split
      · next h => exact h.symm
      · rfl
    rw [mergeText_blank hnext, hkept, hnext]
    exact iff_of_true ⟨hself _, hnil _⟩ (.inr (.inl rfl))
  by_cases hcurrent : trimmed existing = []
  · rw [mergeText_first hnext hcurrent, hcurrent]
    exact iff_of_true ⟨hnil _, hself _⟩ (.inl rfl)
  by_cases h : Absorbs unicode (trimmed existing) (trimmed incoming)
  · rw [mergeText_absorbs hnext hcurrent h]
    constructor
    · exact fun hcovers => .inr (.inr ⟨fun _ => spares_of_covers hcovers.2, fun hnot =>
        absurd h hnot⟩)
    · rintro (hblank | hblank | hspares)
      · exact absurd hblank hcurrent
      · exact absurd hblank hnext
      · exact ⟨hself _, covers_of_spares h (hspares.1 h)⟩
  by_cases h' : Absorbs unicode (trimmed incoming) (trimmed existing)
  · rw [mergeText_absorbed hnext hcurrent h h']
    constructor
    · exact fun hcovers => .inr (.inr ⟨fun habs => absurd habs h, fun _ _ =>
        spares_of_covers hcovers.1⟩)
    · rintro (hblank | hblank | hspares)
      · exact absurd hblank hcurrent
      · exact absurd hblank hnext
      · exact ⟨covers_of_spares h' (hspares.2 h h'), hself _⟩
  · rw [mergeText_apart hnext hcurrent h h']
    refine iff_of_true ⟨.inl (includes_iff.2 ?_), .inl (includes_iff.2 ?_)⟩
      (.inr (.inr ⟨fun habs => absurd habs h, fun _ habs => absurd habs h'⟩))
    · rw [Option.getD_some, append_assoc]
      exact (prefix_append _ _).isInfix
    · exact (suffix_append _ _).isInfix

/-! ## A text that is lost -/

/-- The Unicode tables on ASCII and on Russian texts in lower case without `ё` and `й`, which do not
change in folding. -/
def russian : Unicode where
  toLowerCase text := text.map fun u => if 0x41 ≤ u && u ≤ 0x5A then u + 0x20 else u
  nfkd text := text
  isLetterOrDigit n := isPlain n || (0x41 ≤ n && n ≤ 0x5A) || (0x410 ≤ n && n ≤ 0x44F)
  toLowerCase_lines first rest := by simp
  nfkd_lines _ _ := rfl
  isLetterOrDigit_ascii n h := by
    have hplain : isPlain n := by simpa [isPlain] using h
    simp [hplain]

example : normalizeDuplicateGuardText russian (lit "  Sent: R&D updates!!  ") =
    lit "send r and d update" := by decide +kernel

/-- Two Russian words have the same empty normal form: the second one is lost. -/
theorem not_mergesSafely : ¬ MergesSafely russian (some (lit "отчет")) (some (lit "задача")) := by
  intro h
  have hresult : mergeText russian (some (lit "отчет")) (some (lit "задача")) =
      some (lit "отчет") := by decide +kernel
  have hincludes : includes (lit "отчет") (lit "задача") = false := by decide +kernel
  have hwords : ¬ ∀ word ∈ readWords russian (lit "задача"),
      word ∈ readWords russian (lit "отчет") := by decide +kernel
  have htrimmed : trimmed (some (lit "задача")) = lit "задача" := by decide +kernel
  have hcovers := h.coversIncoming
  rw [hresult, htrimmed, Option.getD_some] at hcovers
  rcases hcovers with hin | hin
  · rw [hincludes] at hin
    cases hin
  · exact hwords hin

end Corgtex.Domain.DuplicateGuard
