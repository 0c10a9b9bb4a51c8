import Corgtex.Library.Trimming
import Corgtex.Library.Utf8
import Corgtex.Library.Words

/-!
# The texts of the duplicate guard

`normalizeDuplicateGuardText` (`duplicate-guard.ts:156`) is the form in which
the guard compares texts: case, diacritics and forms of some verbs are folded, and all but the
letters `a` to `z` and the digits is taken for white space. It is the join of the words of the
folded text in these letters (`normalize_eq_join`). The words and letters that a reader sees are
those of the same folded text in every script (`readWords`, `readLetters`).
-/

namespace Corgtex.Domain.DuplicateGuard

open JsString List Words

/-- The Unicode tables: `toLowerCase`, `normalize("NFKD")` and the letters and digits of every
script. A line feed has no case, is no part of a letter and combines with nothing. -/
structure Unicode where
  toLowerCase : JsString → JsString
  nfkd : JsString → JsString
  isLetterOrDigit : Nat → Bool
  toLowerCase_lines : ∀ first rest,
    toLowerCase (first ++ 0x0A :: rest) = toLowerCase first ++ 0x0A :: toLowerCase rest
  nfkd_lines : ∀ first rest, nfkd (first ++ 0x0A :: rest) = nfkd first ++ 0x0A :: nfkd rest
  isLetterOrDigit_ascii : ∀ n, (0x61 ≤ n ∧ n ≤ 0x7A) ∨ (0x30 ≤ n ∧ n ≤ 0x39) →
    isLetterOrDigit n = true

/-! ## The normal form -/

/-- `[a-z0-9]`, on a code point. -/
def isPlain (n : Nat) : Bool := (0x61 ≤ n && n ≤ 0x7A) || (0x30 ≤ n && n ≤ 0x39)

/-- `[a-z0-9]`. -/
def isPlainUnit (u : UInt16) : Bool := isPlain u.toNat

/-- `[\u0300-\u036f]`. -/
def isMark (u : UInt16) : Bool := 0x300 ≤ u && u ≤ 0x36F

/-- An apostrophe or a backtick. -/
def isQuote (u : UInt16) : Bool := u = 0x27 || u = 0x60

/-- `\w`, whose runs `\b` bounds. -/
def isRegexWord (u : UInt16) : Bool :=
  (0x30 ≤ u && u ≤ 0x39) || (0x41 ≤ u && u ≤ 0x5A) || u = 0x5F || (0x61 ≤ u && u ≤ 0x7A)

/-- Forms of a verb, and what stands for them. -/
structure VerbForms where
  forms : List JsString
  verb : JsString

/-- The forms that `normalizeDuplicateGuardText` folds (line 164). -/
def VERB_FORMS : List VerbForms :=
  [⟨[lit "revised", lit "revision", lit "updated", lit "updates", lit "updating"], lit "update"⟩,
    ⟨[lit "sent", lit "sending", lit "sends"], lit "send"⟩,
    ⟨[lit "created", lit "creates", lit "creating"], lit "create"⟩,
    ⟨[lit "uploaded", lit "uploads", lit "uploading"], lit "upload"⟩]

/-- One of the replacements `.replace(/\b(…)\b/g, " … ")`. -/
def replaceForms (text : JsString) (verb : VerbForms) : JsString :=
  mapWords isRegexWord
    (fun word => if word ∈ verb.forms then 0x20 :: (verb.verb ++ [0x20]) else word) text

/-- The replacements before `.replace(/[^a-z0-9]+/g, " ")`. -/
def foldText (unicode : Unicode) (value : JsString) : JsString :=
  let folded := unicode.nfkd (unicode.toLowerCase value)
  let unmarked := folded.filter fun u => !isMark u
  let spelled := unmarked.flatMap fun u => if u = 0x26 then lit " and " else [u]
  spelled.filter fun u => !isQuote u

/-- `normalizeDuplicateGuardText` (line 156). -/
def normalizeDuplicateGuardText (unicode : Unicode) (value : JsString) : JsString :=
  let spaced := replaceRuns (fun u => !isPlainUnit u) 0x20 false (foldText unicode value)
  let verbs := VERB_FORMS.foldl replaceForms spaced
  trim (replaceRuns isSpace 0x20 false verbs)

/-! ## What a reader sees -/

/-- A word with the forms of a verb folded. -/
def foldForms (word : JsString) (verb : VerbForms) : JsString :=
  if word ∈ verb.forms then verb.verb else word

/-- A word with the listed verb forms folded. -/
def foldVerb (word : JsString) : JsString := VERB_FORMS.foldl foldForms word

section
variable (unicode : Unicode) (text : JsString)

/-- The folded text with the verb forms folded in it. -/
def foldedText : JsString :=
  mapWords isPlainUnit foldVerb (foldText unicode text)

/-- The words of a text: the runs of letters and digits of every script, after case, diacritics and
verb forms are folded. `&` is read as the word it stands for, and an apostrophe is no letter. -/
def readWords : List (List Nat) :=
  words unicode.isLetterOrDigit (Utf8.scalars (foldedText unicode text))

/-- The letters and digits of every script in a text, in their order. -/
def readLetters : List Nat :=
  (Utf8.scalars (foldedText unicode text)).filter unicode.isLetterOrDigit

/-- The words in `a` to `z` and the digits only. -/
def plainWords : List JsString :=
  words isPlainUnit (foldedText unicode text)

end

/-! ## The normal form is the join of the plain words -/

section
variable {u : UInt16} {text : JsString} {verb : VerbForms}

theorem not_isSpace_of_isPlainUnit (h : isPlainUnit u) : ¬ isSpace u := by
  simp only [isPlainUnit, isPlain, isSpace, Bool.or_eq_true, Bool.and_eq_true, decide_eq_true_eq,
    UInt16.le_iff_toNat_le, ← UInt16.toNat_inj] at h ⊢
  simp only [UInt16.reduceToNat] at h ⊢
  omega

theorem isRegexWord_of_isPlainUnit (h : isPlainUnit u) : isRegexWord u := by
  simp only [isPlainUnit, isPlain, isRegexWord, Bool.or_eq_true, Bool.and_eq_true,
    decide_eq_true_eq, UInt16.le_iff_toNat_le, ← UInt16.toNat_inj] at h ⊢
  simp only [UInt16.reduceToNat] at h ⊢
  omega

/-- A text of the plain units and spaces only. -/
def IsSpaced (text : JsString) : Prop := ∀ u ∈ text, isPlainUnit u ∨ u = 0x20

theorem IsSpaced.isRegexWord_eq (h : IsSpaced text) :
    ∀ u ∈ text, isRegexWord u = isPlainUnit u := by
  intro u hu
  rcases h u hu with hplain | rfl
  · rw [hplain, isRegexWord_of_isPlainUnit hplain]
  · decide

theorem IsSpaced.isSpace_eq (h : IsSpaced text) : ∀ u ∈ text, (!isSpace u) = isPlainUnit u := by
  intro u hu
  rcases h u hu with hplain | rfl
  · simpa [hplain] using not_isSpace_of_isPlainUnit hplain
  · decide

theorem isSpaced_replaceRuns (inRun : Bool) (text : JsString) :
    IsSpaced (replaceRuns (fun u => !isPlainUnit u) 0x20 inRun text) := by
  induction text generalizing inRun with
  | nil => exact fun u hu => absurd hu (by simp [replaceRuns])
  | cons v text ih =>
    rw [replaceRuns]
    split
    · split
      · exact ih true
      · exact forall_mem_cons.2 ⟨.inr rfl, ih true⟩
    · next hv => exact forall_mem_cons.2 ⟨.inl (by simpa using hv), ih false⟩

/-- The forms of a verb are not empty, and a word stands for them. -/
structure VerbForms.IsProper (verb : VerbForms) : Prop where
  nil_notMem : [] ∉ verb.forms
  ne_nil : verb.verb ≠ []
  isPlainUnit : ∀ u ∈ verb.verb, isPlainUnit u

theorem isProper_of_mem : ∀ verb ∈ VERB_FORMS, verb.IsProper := by
  have hall : VERB_FORMS.all fun verb =>
      [] ∉ verb.forms ∧ verb.verb ≠ [] ∧ verb.verb.all isPlainUnit := by
    decide +kernel
  intro verb hverb
  have h := of_decide_eq_true (all_eq_true.1 hall verb hverb)
  exact ⟨h.1, h.2.1, all_eq_true.1 h.2.2⟩

theorem isSpaced_replaceForms (hverb : verb.IsProper) (h : IsSpaced text) :
    IsSpaced (replaceForms text verb) := by
  intro u hu
  refine forall_mem_mapWords (P := fun v => isPlainUnit v ∨ v = 0x20)
    (fun word hword v hv => ?_) h hu
  split at hv
  · rw [mem_cons, mem_append, mem_singleton] at hv
    rcases hv with rfl | hv | rfl
    · exact .inr rfl
    · exact .inl (hverb.isPlainUnit v hv)
    · exact .inr rfl
  · exact hword v hv

theorem words_replaceForms (hverb : verb.IsProper) (h : IsSpaced text) :
    words isPlainUnit (replaceForms text verb) =
      (words isPlainUnit text).map fun word => foldForms word verb := by
  have hspace : ¬ isPlainUnit 0x20 := by decide
  rw [replaceForms, mapWords_congr h.isRegexWord_eq]
  refine words_mapWords_of_eq ?_ (fun word hne hword => ?_) text
  · exact if_neg hverb.nil_notMem
  rw [foldForms]
  split
  · rw [words_cons_of_not hspace,
      words_append_cons_of_forall hverb.ne_nil hverb.isPlainUnit hspace, words_nil]
  · exact words_of_forall hne hword

section
variable {verbs : List VerbForms} (hverbs : ∀ verb ∈ verbs, verb.IsProper)
include hverbs

theorem foldl_replaceForms (h : IsSpaced text) : IsSpaced (verbs.foldl replaceForms text) ∧
      words isPlainUnit (verbs.foldl replaceForms text) =
        (words isPlainUnit text).map (verbs.foldl foldForms) := by
  induction verbs generalizing text with
  | nil => simpa using h
  | cons verb verbs ih =>
    obtain ⟨hverb, hverbs⟩ := forall_mem_cons.1 hverbs
    obtain ⟨hspaced, hwords⟩ := ih hverbs (isSpaced_replaceForms hverb h)
    refine ⟨hspaced, ?_⟩
    rw [foldl_cons, hwords, words_replaceForms hverb h, map_map]
    rfl

theorem foldForms_word {word : JsString} (hne : word ≠ []) (hword : ∀ u ∈ word, isPlainUnit u) :
    verbs.foldl foldForms word ≠ [] ∧ ∀ u ∈ verbs.foldl foldForms word, isPlainUnit u := by
  induction verbs generalizing word with
  | nil => exact ⟨hne, hword⟩
  | cons verb verbs ih =>
    obtain ⟨hverb, hverbs⟩ := forall_mem_cons.1 hverbs
    rw [foldl_cons, foldForms]
    split
    · exact ih hverbs hverb.ne_nil hverb.isPlainUnit
    · exact ih hverbs hne hword

end

theorem foldVerb_nil : foldVerb [] = [] := by decide

theorem plainWords_eq (unicode : Unicode) (text : JsString) :
    plainWords unicode text = (words isPlainUnit (foldText unicode text)).map foldVerb := by
  refine words_mapWords_of_eq foldVerb_nil (fun word hne hword => ?_) _
  obtain ⟨hne', hword'⟩ := foldForms_word isProper_of_mem hne hword
  exact words_of_forall hne' hword'

/-! ## White space between words -/

theorem join_cons (word : JsString) (parts : List JsString) :
    ∃ after, (∀ u ∈ after, isSpace u) ∧
      word ++ 0x20 :: join [0x20] parts = join [0x20] (word :: parts) ++ after := by
  cases parts with
  | nil =>
    have hspace : isSpace 0x20 := by decide
    exact ⟨[0x20], forall_mem_singleton.2 hspace, rfl⟩
  | cons part parts => exact ⟨[], forall_mem_nil _, by simp [join]⟩

/-- The units that are no white space. -/
def isVisible (u : UInt16) : Bool := !isSpace u

/-- White space in one place of a run of it: the words are one space apart. -/
theorem replaceRuns_true (text : JsString) : ∃ after, (∀ u ∈ after, isSpace u) ∧
    replaceRuns isSpace 0x20 true text = join [0x20] (words isVisible text) ++ after := by
  induction text using induction_words isVisible with
  | last word hword =>
    refine ⟨[], forall_mem_nil _, ?_⟩
    rw [replaceRuns_of_forall fun v hv => by simpa [isVisible] using hword v hv, append_nil]
    by_cases hne : word = []
    · rw [hne, words_nil, join]
    · rw [words_of_forall hne hword, join]
  | separated word u rest hword hu ih =>
    have hspace : isSpace u := by simpa [isVisible] using hu
    obtain ⟨after, hafter, hrest⟩ := ih
    by_cases hne : word = []
    · rw [hne, nil_append, replaceRuns, if_pos hspace, if_pos rfl, words_cons_of_not hu]
      exact ⟨after, hafter, hrest⟩
    · obtain ⟨after', hafter', hjoin⟩ := join_cons word (words isVisible rest)
      refine ⟨after' ++ after, forall_mem_append.2 ⟨hafter', hafter⟩, ?_⟩
      rw [replaceRuns_append (fun v hv => by simpa [isVisible] using hword v hv) hne, replaceRuns,
        if_pos hspace, if_neg Bool.false_ne_true, hrest, words_append_cons_of_forall hne hword hu,
        ← append_assoc, ← hjoin]
      simp

/-- A join of words has no white space at its ends. -/
theorem isTrimmed_join {parts : List JsString}
    (hparts : ∀ part ∈ parts, part ≠ [] ∧ ∀ u ∈ part, ¬ isSpace u) :
    Trimming.IsTrimmed isSpace (join [0x20] parts) := by
  refine ⟨fun u hu => ?_, fun u hu => ?_⟩
  · cases parts with
    | nil => exact absurd hu (by simp [join])
    | cons part parts =>
      obtain ⟨hne, hpart⟩ := hparts part (.head _)
      obtain ⟨v, rest, rfl⟩ := exists_cons_of_ne_nil hne
      have hv : v ∈ v :: rest := .head _
      cases parts with
      | nil =>
        obtain rfl : v = u := by simpa [join] using hu
        exact hpart v hv
      | cons =>
        obtain rfl : v = u := by simpa [join] using hu
        exact hpart v hv
  · induction parts with
    | nil => exact absurd hu (by simp [join])
    | cons part parts ih =>
      obtain ⟨⟨hne, hpart⟩, hrest⟩ := forall_mem_cons.1 hparts
      cases parts with
      | nil => exact hpart u (mem_of_getLast? hu)
      | cons next parts =>
        refine ih hrest ?_
        have hjoin : join [0x20] (part :: next :: parts) =
            part ++ [0x20] ++ join [0x20] (next :: parts) := rfl
        have hnext : join [0x20] (next :: parts) ≠ [] := by
          have := (hrest next (.head _)).1
          cases parts <;> simp [join, this]
        rw [hjoin, append_assoc, getLast?_append_of_ne_nil _ (by simp)] at hu
        rwa [singleton_append, getLast?_cons_of_ne_nil hnext] at hu

theorem trim_replaceRuns (text : JsString) :
    trim (replaceRuns isSpace 0x20 false text) = join [0x20] (words isVisible text) := by
  have hwords : ∀ word ∈ words isVisible text, word ≠ [] ∧ ∀ u ∈ word, ¬ isSpace u := by
    intro word hword
    obtain ⟨hne, hall⟩ := of_mem_words hword
    exact ⟨hne, fun u hu => by simpa [isVisible] using hall u hu⟩
  obtain ⟨after, hafter, htrue⟩ := replaceRuns_true text
  have hfalse : ∃ before, (∀ u ∈ before, isSpace u) ∧
      replaceRuns isSpace 0x20 false text = before ++ replaceRuns isSpace 0x20 true text := by
    cases text with
    | nil => exact ⟨[], forall_mem_nil _, rfl⟩
    | cons v text =>
      have hspace : isSpace 0x20 := by decide
      by_cases hv : isSpace v
      · exact ⟨[0x20], forall_mem_singleton.2 hspace, by simp [replaceRuns, hv]⟩
      · exact ⟨[], forall_mem_nil _, by simp [replaceRuns, hv]⟩
  obtain ⟨before, hbefore, hfalse⟩ := hfalse
  rw [hfalse, htrue, ← append_assoc]
  exact Trimming.trimBy_append hbefore hafter (isTrimmed_join hwords)

/-- **The normal form of a text is the join of its plain words.** -/
theorem normalize_eq_join (unicode : Unicode) (text : JsString) :
    normalizeDuplicateGuardText unicode text = join [0x20] (plainWords unicode text) := by
  obtain ⟨hspaced, hwords⟩ := foldl_replaceForms isProper_of_mem
    (isSpaced_replaceRuns false (foldText unicode text))
  have hplain := words_congr (p := isVisible) hspaced.isSpace_eq
  rw [normalizeDuplicateGuardText, trim_replaceRuns, hplain, hwords,
    words_replaceRuns (fun _ => rfl) (by decide), plainWords_eq]
  rfl

/-! ## Plain words and words -/

theorem lt_of_isPlain {n : Nat} (h : isPlain n) : n < 0x80 := by
  simp only [isPlain, Bool.or_eq_true, Bool.and_eq_true, decide_eq_true_eq] at h
  omega

theorem isLetterOrDigit_of_isPlain (unicode : Unicode) {n : Nat} (h : isPlain n) :
    unicode.isLetterOrDigit n := by
  refine unicode.isLetterOrDigit_ascii n ?_
  simpa [isPlain] using h

/-- A low surrogate after no high one stands alone. -/
theorem scalars_low (hu : Utf8.isLow u) (rest : JsString) :
    Utf8.scalars (u :: rest) = Utf8.replacement :: Utf8.scalars rest := by
  have hlow := Utf8.isLow_iff.1 hu
  have hhigh : Utf8.isHigh u = false := by
    refine Bool.eq_false_iff.2 fun h => ?_
    have := Utf8.isHigh_iff.1 h
    omega
  cases rest with
  | nil => simp [Utf8.scalars, hu]
  | cons v rest => simp [Utf8.scalars, hu, hhigh]

theorem scalars_cons (hu : ¬ isPlainUnit u) (rest : JsString) : ∃ n points,
    Utf8.scalars (u :: rest) = n :: points ∧ ¬ isPlain n ∧
      words isPlain points = words isPlain (Utf8.scalars rest) := by
  have hreplacement : ¬ isPlain Utf8.replacement := by simp [isPlain, Utf8.replacement]
  have halone :
      ¬ isPlain (if Utf8.isHigh u || Utf8.isLow u then Utf8.replacement else u.toNat) := by
    split
    · exact hreplacement
    · exact hu
  cases rest with
  | nil => exact ⟨_, [], rfl, halone, rfl⟩
  | cons v rest =>
    by_cases hpair : Utf8.isHigh u && Utf8.isLow v
    · have hlow := Utf8.isLow_iff.1 (Bool.and_eq_true_iff.1 hpair).2
      have hv : ¬ isPlainUnit v := by
        intro hplain
        have := lt_of_isPlain hplain
        omega
      have hle : 0x10000 ≤ Utf8.pairValue u v := by
        unfold Utf8.pairValue
        omega
      have hpairValue : ¬ isPlain (Utf8.pairValue u v) := fun hplain =>
        absurd (lt_of_isPlain hplain) (by omega)
      refine ⟨_, _, by rw [Utf8.scalars, if_pos hpair], hpairValue, ?_⟩
      rw [scalars_low (Bool.and_eq_true_iff.1 hpair).2, words_cons_of_not hreplacement]
    · exact ⟨_, _, by rw [Utf8.scalars, if_neg hpair], halone, rfl⟩

theorem words_scalars (text : JsString) :
    words isPlain (Utf8.scalars text) = (words isPlainUnit text).map (List.map UInt16.toNat) := by
  have hascii : ∀ word : JsString, (∀ u ∈ word, isPlainUnit u) → ∀ u ∈ word, u.toNat < 0x80 :=
    fun word hword u hu => lt_of_isPlain (hword u hu)
  have hplain : ∀ word : JsString, (∀ u ∈ word, isPlainUnit u) →
      words isPlain (word.map UInt16.toNat) = (words isPlainUnit word).map (map UInt16.toNat) := by
    intro word hword
    by_cases hne : word = []
    · rw [hne]
      rfl
    · rw [words_of_forall hne hword, words_of_forall (by simpa using hne)]
      · rfl
      · exact forall_mem_map.2 hword
  induction text using induction_words isPlainUnit with
  | last word hword => rw [Utf8.scalars_ascii (hascii word hword), hplain word hword]
  | separated word u rest hword hu ih =>
    obtain ⟨n, points, hpoints, hn, hrest⟩ := scalars_cons hu rest
    rw [Utf8.scalars_append_of_isWellFormed (Utf8.isWellFormed_ascii (hascii word hword)),
      Utf8.scalars_ascii (hascii word hword), hpoints, words_append_cons hn, hplain word hword,
      hrest, ih, words_append_cons hu, map_append]

/-- **The plain words are those of the words that are read.** -/
theorem plainWords_flatMap (unicode : Unicode) (text : JsString) :
    (plainWords unicode text).map (List.map UInt16.toNat) =
      (readWords unicode text).flatMap (words isPlain) := by
  rw [plainWords, ← words_scalars, readWords]
  exact words_flatMap (fun n hn => isLetterOrDigit_of_isPlain unicode hn) _

end

end Corgtex.Domain.DuplicateGuard
