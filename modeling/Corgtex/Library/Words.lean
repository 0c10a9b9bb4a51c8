import Mathlib.Data.List.Basic

/-!
# The words of a text

A word is a maximal run of word units, what `\b` bounds on both sides. `wordsFrom` lists the words
of a text and `mapWords` replaces each of them, the units in between stay. Replacing words keeps the
ends of a text (`head?_mapWords`, `getLast?_mapWords`), is idempotent where it is so on each word
(`mapWords_idem`), and a text is no beginning of what replaces it (`mapWords_eq_of_prefix`).

`words` lists the words that are not empty. A unit that is in no word separates
(`words_append_cons`), and the words for a smaller set of units are those of the words for a larger
one (`words_flatMap`).
-/

namespace Words

open List

variable {α : Type*} (isWord : α → Bool) (f : List α → List α)

/-- The words of a text that follows the word units `word`; some may be empty. -/
def wordsFrom (word : List α) : List α → List (List α)
  | [] => [word]
  | u :: rest => if isWord u then wordsFrom (word ++ [u]) rest else word :: wordsFrom [] rest

/-- The text with other words, after the word units `word`. -/
def mapWordsFrom (word : List α) : List α → List α
  | [] => f word
  | u :: rest =>
    if isWord u then mapWordsFrom (word ++ [u]) rest else f word ++ u :: mapWordsFrom [] rest

def mapWords (text : List α) : List α := mapWordsFrom isWord f [] text

variable {isWord f}

theorem mapWordsFrom_append {word : List α} (hword : ∀ u ∈ word, isWord u) (before rest : List α) :
    mapWordsFrom isWord f before (word ++ rest) = mapWordsFrom isWord f (before ++ word) rest := by
  induction word generalizing before with
  | nil => simp
  | cons u word ih =>
    have hu : isWord u := hword u (.head _)
    rw [cons_append, mapWordsFrom, if_pos hu, ih fun v hv => hword v (.tail _ hv)]
    simp

theorem forall_append_singleton {word : List α} (hword : ∀ u ∈ word, isWord u) {u : α}
    (hu : isWord u) : ∀ v ∈ word ++ [u], isWord v := by
  intro v hv
  rcases mem_append.1 hv with hv | hv
  · exact hword v hv
  · obtain rfl := mem_singleton.1 hv
    exact hu

/-- A replacement of words: a word becomes a word, an empty one only if it is empty, and one that
changes begins otherwise than what replaces it. -/
structure Replaces (isWord : α → Bool) (f : List α → List α) : Prop where
  isWord : ∀ word, (∀ u ∈ word, isWord u) → ∀ u ∈ f word, isWord u
  eq_nil : ∀ word, f word = [] ↔ word = []
  idem : ∀ word, f (f word) = f word
  not_prefix : ∀ word rest rest', f word ≠ word → ¬ word ++ rest <+: f word ++ rest'

namespace Replaces

variable {word text : List α}

section
variable (h : Replaces isWord f)
include h

theorem mapWordsFrom_idem (hword : ∀ u ∈ word, isWord u) (text : List α) :
    mapWords isWord f (mapWordsFrom isWord f word text) = mapWordsFrom isWord f word text := by
  induction text generalizing word with
  | nil =>
    have happend := mapWordsFrom_append (f := f) (h.isWord word hword) [] []
    simp only [append_nil, nil_append] at happend
    rw [mapWordsFrom, mapWords, happend, mapWordsFrom, h.idem]
  | cons u text ih =>
    rw [mapWordsFrom]
    split
    · next hu => exact ih (forall_append_singleton hword hu)
    · next hu =>
      have hrest := ih (forall_mem_nil _)
      rw [mapWords] at hrest ⊢
      rw [mapWordsFrom_append (h.isWord word hword), nil_append, mapWordsFrom, if_neg hu,
        h.idem, hrest]

/-- **Replacing words is idempotent.** -/
theorem mapWords_idem (text : List α) :
    mapWords isWord f (mapWords isWord f text) = mapWords isWord f text :=
  h.mapWordsFrom_idem (forall_mem_nil _) text

theorem mapWordsFrom_eq_nil : mapWordsFrom isWord f word text = [] ↔ word = [] ∧ text = [] := by
  induction text generalizing word with
  | nil => simp [mapWordsFrom, h.eq_nil]
  | cons u text ih =>
    rw [mapWordsFrom]
    split
    · simp [ih]
    · simp

@[simp] theorem mapWords_eq_nil : mapWords isWord f text = [] ↔ text = [] := by
  simp [mapWords, h.mapWordsFrom_eq_nil]

/-- The first unit of a text with other words is a unit of a word, or what it was. -/
theorem head?_mapWordsFrom (hword : ∀ u ∈ word, isWord u) {u : α}
    (hu : u ∈ (mapWordsFrom isWord f word text).head?) : isWord u ∨ word = [] ∧ u ∈ text.head? := by
  induction text generalizing word with
  | nil =>
    rw [mapWordsFrom] at hu
    exact .inl (h.isWord word hword u (mem_of_mem_head? hu))
  | cons v text ih =>
    rw [mapWordsFrom] at hu
    split at hu
    · next hv =>
      rcases ih (forall_append_singleton hword hv) hu with hu | ⟨hnil, _⟩
      · exact .inl hu
      · simp at hnil
    · cases hf : f word with
      | nil =>
        rw [hf] at hu
        exact .inr ⟨(h.eq_nil word).1 hf, hu⟩
      | cons w rest =>
        have hw : u ∈ (f word).head? := by
          rw [hf] at hu ⊢
          exact hu
        exact .inl (h.isWord word hword u (mem_of_mem_head? hw))

theorem head?_mapWords {u : α}
    (hu : u ∈ (mapWords isWord f text).head?) : isWord u ∨ u ∈ text.head? :=
  (h.head?_mapWordsFrom (forall_mem_nil _) hu).imp_right And.right

theorem getLast?_mapWordsFrom (hword : ∀ u ∈ word, isWord u) {u : α}
    (hu : u ∈ (mapWordsFrom isWord f word text).getLast?) : isWord u ∨ u ∈ text.getLast? := by
  induction text generalizing word with
  | nil =>
    rw [mapWordsFrom] at hu
    exact .inl (h.isWord word hword u (mem_of_getLast? hu))
  | cons v text ih =>
    rw [mapWordsFrom] at hu
    split at hu
    · next hv =>
      rcases ih (forall_append_singleton hword hv) hu with hw | hlast
      · exact .inl hw
      · exact .inr (mem_getLast?_cons hlast)
    · rw [getLast?_append_cons] at hu
      cases hrest : mapWordsFrom isWord f [] text with
      | nil =>
        obtain ⟨_, rfl⟩ := h.mapWordsFrom_eq_nil.1 hrest
        rw [hrest] at hu
        exact .inr hu
      | cons w rest =>
        have hlast : u ∈ (mapWordsFrom isWord f [] text).getLast? := by
          rw [hrest] at hu ⊢
          rwa [getLast?_cons_cons] at hu
        exact (ih (forall_mem_nil _) hlast).imp_right mem_getLast?_cons

theorem getLast?_mapWords {u : α}
    (hu : u ∈ (mapWords isWord f text).getLast?) : isWord u ∨ u ∈ text.getLast? :=
  h.getLast?_mapWordsFrom (forall_mem_nil _) hu

theorem mapWordsFrom_eq_of_prefix (hpre : word ++ text <+: mapWordsFrom isWord f word text) :
    mapWordsFrom isWord f word text = word ++ text := by
  induction text generalizing word with
  | nil =>
    rw [mapWordsFrom] at hpre ⊢
    by_contra hne
    rw [append_nil] at hne
    refine h.not_prefix word [] [] hne ?_
    rwa [append_nil (f word)]
  | cons u text ih =>
    rw [mapWordsFrom] at hpre ⊢
    split at hpre
    · next hu =>
      rw [append_cons word u text] at hpre ⊢
      rw [if_pos hu]
      exact ih hpre
    · next hu =>
      have hsame : f word = word := by
        by_contra hne
        exact h.not_prefix word _ _ hne hpre
      rw [hsame, prefix_append_right_inj, cons_prefix_cons] at hpre
      have hrest := @ih [] hpre.2
      rw [nil_append] at hrest
      rw [if_neg hu, hsame, hrest]

/-- **A text that its replacement begins with has nothing to replace.** -/
theorem mapWords_eq_of_prefix (hpre : text <+: mapWords isWord f text) :
    mapWords isWord f text = text :=
  h.mapWordsFrom_eq_of_prefix hpre

end

/-- The length of a text whose words of a kind are replaced by longer ones. -/
theorem length_mapWordsFrom {p : List α → Bool} {extra : ℕ}
    (hlength : ∀ word, (f word).length = word.length + if p word then extra else 0)
    (word text : List α) : (mapWordsFrom isWord f word text).length =
      word.length + text.length + extra * (wordsFrom isWord word text).countP p := by
  induction text generalizing word with
  | nil =>
    rw [mapWordsFrom, wordsFrom, hlength]
    split <;> simp [*]
  | cons u text ih =>
    rw [mapWordsFrom, wordsFrom]
    split
    · rw [ih, length_append, length_cons, length_cons, length_nil]
      omega
    · rw [length_append, length_cons, ih, hlength, countP_cons, length_cons,
        length_nil, Nat.mul_add]
      split <;> simp <;> omega

end Replaces

/-! ## The words that are not empty -/

/-- The words of a text that are not empty. -/
def words (isWord : α → Bool) (text : List α) : List (List α) :=
  (wordsFrom isWord [] text).filter fun word => !word.isEmpty

/-- A text with `u` in place of each run of the units `p`, after such a unit if `inRun`. -/
def replaceRuns (p : α → Bool) (u : α) : Bool → List α → List α
  | _, [] => []
  | inRun, v :: text =>
    if p v then
      if inRun then replaceRuns p u true text else u :: replaceRuns p u true text
    else v :: replaceRuns p u false text

section
variable {p q : α → Bool} {word text : List α} {u : α}

theorem induction_words (isWord : α → Bool) {motive : List α → Prop}
    (last : ∀ word, (∀ u ∈ word, isWord u) → motive word)
    (separated : ∀ word u rest, (∀ u ∈ word, isWord u) → ¬ isWord u → motive rest →
      motive (word ++ u :: rest)) (text : List α) : motive text := by
  have hwords : ∀ word text, (∀ u ∈ word, isWord u) → motive (word ++ text) := by
    intro word text hword
    induction text generalizing word with
    | nil => simpa using last word hword
    | cons u text ih =>
      by_cases hu : isWord u
      · rw [append_cons]
        exact ih _ (forall_append_singleton hword hu)
      · exact separated word u text hword hu (ih [] (forall_mem_nil _))
  exact hwords [] text (forall_mem_nil _)

theorem wordsFrom_append_cons (hu : ¬ isWord u) (word left right : List α) :
    wordsFrom isWord word (left ++ u :: right) =
      wordsFrom isWord word left ++ wordsFrom isWord [] right := by
  induction left generalizing word with
  | nil => simp [wordsFrom, hu]
  | cons v left ih =>
    rw [cons_append, wordsFrom, wordsFrom]
    split
    · exact ih _
    · rw [ih, cons_append]

/-- **A unit that is in no word separates.** -/
theorem words_append_cons (hu : ¬ isWord u) (left right : List α) :
    words isWord (left ++ u :: right) = words isWord left ++ words isWord right := by
  rw [words, wordsFrom_append_cons hu, filter_append, words, words]

theorem wordsFrom_of_forall (hword : ∀ u ∈ word, isWord u) (before : List α) :
    wordsFrom isWord before word = [before ++ word] := by
  induction word generalizing before with
  | nil => simp [wordsFrom]
  | cons u word ih =>
    rw [wordsFrom, if_pos (hword u (.head _)), ih fun v hv => hword v (.tail _ hv)]
    simp

@[simp] theorem words_nil : words isWord [] = [] := rfl

theorem words_cons_of_not (hu : ¬ isWord u) (text : List α) :
    words isWord (u :: text) = words isWord text :=
  words_append_cons hu [] text

theorem words_of_forall (hne : word ≠ []) (hword : ∀ u ∈ word, isWord u) :
    words isWord word = [word] := by
  simp [words, wordsFrom_of_forall hword, hne]

theorem words_append_cons_of_forall (hne : word ≠ []) (hword : ∀ u ∈ word, isWord u)
    (hu : ¬ isWord u) (rest : List α) :
    words isWord (word ++ u :: rest) = word :: words isWord rest := by
  rw [words_append_cons hu, words_of_forall hne hword, singleton_append]

theorem of_mem_words (hword : word ∈ words isWord text) : word ≠ [] ∧ ∀ u ∈ word, isWord u := by
  induction text using induction_words isWord with
  | last whole hwhole =>
    by_cases hne : whole = []
    · simp [hne] at hword
    · rw [words_of_forall hne hwhole, mem_singleton] at hword
      exact hword ▸ ⟨hne, hwhole⟩
  | separated first u rest hfirst hu ih =>
    rw [words_append_cons hu, mem_append] at hword
    rcases hword with hword | hword
    · by_cases hne : first = []
      · simp [hne] at hword
      · rw [words_of_forall hne hfirst, mem_singleton] at hword
        exact hword ▸ ⟨hne, hfirst⟩
    · exact ih hword

/-- **The words for a smaller set of units are those of the words for a larger one.** -/
theorem words_flatMap (hsub : ∀ u, p u → q u) (text : List α) :
    words p text = (words q text).flatMap (words p) := by
  induction text using induction_words q with
  | last word hword =>
    by_cases hne : word = []
    · simp [hne]
    · simp [words_of_forall hne hword]
  | separated word u rest hword hu ih =>
    rw [words_append_cons (mt (hsub u) hu), words_append_cons hu, flatMap_append, ← ih]
    by_cases hne : word = []
    · simp [hne]
    · simp [words_of_forall hne hword]

theorem flatten_words (text : List α) : (words isWord text).flatten = text.filter isWord := by
  induction text using induction_words isWord with
  | last word hword =>
    rw [filter_eq_self.2 hword]
    by_cases hne : word = []
    · simp [hne]
    · simp [words_of_forall hne hword]
  | separated word u rest hword hu ih =>
    rw [words_append_cons hu, flatten_append, ih, filter_append,
      filter_cons_of_neg hu, filter_eq_self.2 hword]
    by_cases hne : word = []
    · simp [hne]
    · simp [words_of_forall hne hword]

theorem words_congr (h : ∀ u ∈ text, p u = q u) : words p text = words q text := by
  have hfrom : ∀ word, wordsFrom p word text = wordsFrom q word text := by
    induction text with
    | nil => intro word; rfl
    | cons u text ih =>
      intro word
      have ih := ih fun v hv => h v (.tail _ hv)
      rw [wordsFrom, wordsFrom, h u (.head _), ih, ih]
  rw [words, hfrom, words]

theorem mapWords_congr (h : ∀ u ∈ text, p u = q u) : mapWords p f text = mapWords q f text := by
  have hfrom : ∀ word, mapWordsFrom p f word text = mapWordsFrom q f word text := by
    induction text with
    | nil => intro word; rfl
    | cons u text ih =>
      intro word
      have ih := ih fun v hv => h v (.tail _ hv)
      rw [mapWordsFrom, mapWordsFrom, h u (.head _), ih, ih]
  rw [mapWords, hfrom, mapWords]

theorem mapWordsFrom_append_cons (hu : ¬ isWord u) (word left right : List α) :
    mapWordsFrom isWord f word (left ++ u :: right) =
      mapWordsFrom isWord f word left ++ u :: mapWords isWord f right := by
  induction left generalizing word with
  | nil => simp [mapWordsFrom, mapWords, hu]
  | cons v left ih =>
    rw [cons_append, mapWordsFrom, mapWordsFrom]
    split
    · exact ih _
    · rw [ih, append_assoc, cons_append]

theorem mapWords_append_cons (hu : ¬ isWord u) (left right : List α) :
    mapWords isWord f (left ++ u :: right) =
      mapWords isWord f left ++ u :: mapWords isWord f right :=
  mapWordsFrom_append_cons hu [] left right

theorem mapWords_of_forall (hword : ∀ u ∈ word, isWord u) : mapWords isWord f word = f word := by
  have happend := mapWordsFrom_append (f := f) hword [] []
  simpa [mapWords, mapWordsFrom] using happend

theorem words_mapWords (hnil : f [] = []) (text : List α) :
    words isWord (mapWords isWord f text) =
      (words isWord text).flatMap fun word => words isWord (f word) := by
  induction text using induction_words isWord with
  | last word hword =>
    rw [mapWords_of_forall hword]
    by_cases hne : word = []
    · simp [hne, hnil]
    · simp [words_of_forall hne hword]
  | separated word u rest hword hu ih =>
    rw [mapWords_append_cons hu, words_append_cons hu, words_append_cons hu, flatMap_append,
      ih, mapWords_of_forall hword]
    by_cases hne : word = []
    · simp [hne, hnil]
    · simp [words_of_forall hne hword]

theorem words_mapWords_of_eq {g : List α → List α} (hnil : f [] = [])
    (h : ∀ word, word ≠ [] → (∀ u ∈ word, isWord u) → words isWord (f word) = [g word])
    (text : List α) : words isWord (mapWords isWord f text) = (words isWord text).map g := by
  rw [words_mapWords hnil, map_eq_flatMap]
  refine flatMap_congr fun word hword => ?_
  obtain ⟨hne, hall⟩ := of_mem_words hword
  exact h word hne hall

/-- A property of the units that the replacement of a word has if the word has it. -/
theorem forall_mem_mapWords {P : α → Prop} (h : ∀ word, (∀ v ∈ word, P v) → ∀ v ∈ f word, P v)
    (htext : ∀ v ∈ text, P v) (hu : u ∈ mapWords isWord f text) : P u := by
  induction text using induction_words isWord with
  | last word hword =>
    rw [mapWords_of_forall hword] at hu
    exact h word htext u hu
  | separated word v rest hword hv ih =>
    obtain ⟨hfirst, hrest⟩ := forall_mem_append.1 htext
    obtain ⟨hsep, hrest⟩ := forall_mem_cons.1 hrest
    rw [mapWords_append_cons hv, mapWords_of_forall hword, mem_append, mem_cons] at hu
    rcases hu with hu | rfl | hu
    · exact h word hfirst u hu
    · exact hsep
    · exact ih hrest hu

theorem replaceRuns_append (hp : ∀ v ∈ word, ¬ p v) (hne : word ≠ []) (inRun : Bool)
    (rest : List α) :
    replaceRuns p u inRun (word ++ rest) = word ++ replaceRuns p u false rest := by
  induction word generalizing inRun with
  | nil => exact absurd rfl hne
  | cons v word ih =>
    rw [cons_append, replaceRuns, if_neg (hp v (.head _)), cons_append]
    by_cases hword : word = []
    · rw [hword, nil_append, nil_append]
    · rw [ih (fun w hw => hp w (.tail _ hw)) hword]

theorem replaceRuns_of_forall (hp : ∀ v ∈ word, ¬ p v) (inRun : Bool) :
    replaceRuns p u inRun word = word := by
  by_cases hne : word = []
  · rw [hne, replaceRuns]
  · simpa [replaceRuns] using replaceRuns_append (u := u) hp hne inRun []

theorem words_replaceRuns (hp : ∀ v, p v = !isWord v) (hu : ¬ isWord u) (inRun : Bool)
    (text : List α) : words isWord (replaceRuns p u inRun text) = words isWord text := by
  have hnot : ∀ word : List α, (∀ v ∈ word, isWord v) → ∀ v ∈ word, ¬ p v := by
    intro word hword v hv
    simp [hp, hword v hv]
  induction text using induction_words isWord generalizing inRun with
  | last word hword => rw [replaceRuns_of_forall (hnot word hword)]
  | separated word v rest hword hv ih =>
    have hpv : p v := by simp [hp, hv]
    by_cases hne : word = []
    · rw [hne, nil_append, replaceRuns, if_pos hpv, words_cons_of_not hv]
      split
      · exact ih true
      · rw [words_cons_of_not hu, ih]
    · rw [replaceRuns_append (hnot word hword) hne, replaceRuns, if_pos hpv,
        if_neg Bool.false_ne_true, words_append_cons hu, words_append_cons hv, ih]

end

end Words
