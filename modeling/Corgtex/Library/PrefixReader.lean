import Mathlib.Data.List.TakeWhile
import Mathlib.Tactic.Cases

/-!
# Readers of texts that may not have ended

A reader takes a word of a language from the front of a text. When it fails it says whether the text
can still become one that begins with a word: it has *ended too early*, or it is *malformed*.
`Reads` is what a reader has to say about one text, and the rules below compose it along the
reader's own steps: one symbol is taken, white space is skipped, one reader runs behind another.

A word may be cut out of a text only where it ends: `follow` are the symbols that may stand behind
it. What a reader has left over does not depend on how the text goes on (`stable`).
-/

namespace PrefixReader

open List

variable {α : Type*}

/-- Why a text is not read. -/
inductive Abort
  | incomplete | malformed
deriving DecidableEq

/-- The first symbol of a text, and the rest. -/
def take : List α → Except Abort (α × List α)
  | [] => .error .incomplete
  | a :: rest => .ok (a, rest)

/-- What may be left behind a word. -/
def Behind (follow : α → Prop) (rest : List α) : Prop := ∀ a ∈ rest.head?, follow a

/-- A word of one language behind a word of another. -/
def Concat (first second : List α → Prop) (s : List α) : Prop :=
  ∃ v w, first v ∧ second w ∧ s = v ++ w

/-- What a reader of a language says about a text. -/
structure Reads (word : List α → Prop) (follow : α → Prop) (s : List α)
    (outcome : Except Abort (List α)) : Prop where
  complete : ∀ v r, s = v ++ r → word v → Behind follow r → outcome = .ok r
  ok : ∀ r, outcome = .ok r → ∃ v, word v ∧ s = v ++ r
  incomplete : outcome = .error .incomplete → ∃ t, word (s ++ t)
  stable : ∀ r t v r', outcome = .ok r → r ≠ [] → s ++ t = v ++ r' → word v →
    Behind follow r' → r' = r ++ t
  malformed : ∀ t v r, outcome = .error .malformed → s ++ t = v ++ r → word v → ¬ Behind follow r

variable {word word' first second : List α → Prop} {follow follow' : α → Prop}
  {s : List α} {a : α} {outcome : Except Abort (List α)}

theorem behind_nil : Behind follow [] := by simp [Behind]

theorem Behind.append {r : List α} (h : Behind follow r) (hne : r ≠ []) (t : List α) :
    Behind follow (r ++ t) := by
  obtain ⟨a, r, rfl⟩ := exists_cons_of_ne_nil hne
  exact h

theorem Reads.congr (h : Reads word' follow s outcome) (hword : ∀ v, word v ↔ word' v) :
    Reads word follow s outcome := by
  have hsame : word = word' := funext fun v => propext (hword v)
  rwa [hsame]

theorem Reads.strengthen (h : Reads word follow' s outcome)
    (hfollow : ∀ a, follow a → follow' a) : Reads word follow s outcome where
  complete v r hs hv hr := h.complete v r hs hv fun a ha => hfollow a (hr a ha)
  ok := h.ok
  incomplete := h.incomplete
  stable r t v r' hok hne hs hv hr :=
    h.stable r t v r' hok hne hs hv fun a ha => hfollow a (hr a ha)
  malformed t v r hbad hs hv hr :=
    h.malformed t v r hbad hs hv fun a ha => hfollow a (hr a ha)

/-! ## One symbol -/

/-- Nothing has come yet. -/
theorem Reads.nil (hword : ∃ w, word w) (hnil : ¬ word []) :
    Reads word follow [] (.error .incomplete) where
  complete v r hs hv _ := by
    obtain ⟨rfl, _⟩ := append_eq_nil_iff.1 hs.symm
    exact absurd hv hnil
  ok r hok := by cases hok
  incomplete _ := hword
  stable r t v r' hok := by cases hok
  malformed t v r hbad := by cases hbad

/-- Every text can become a word as long as nothing has come. -/
theorem Reads.nil_ne_malformed (h : Reads word follow [] outcome) (hword : ∃ w, word w) :
    outcome ≠ .error .malformed := by
  obtain ⟨w, hw⟩ := hword
  exact fun hbad => h.malformed w w [] hbad (append_nil w).symm hw behind_nil

/-- **One symbol is taken,** and the rest is read in the language that it leaves. -/
theorem Reads.cons (h : Reads word' follow s outcome)
    (hword : ∀ v, word (a :: v) ↔ word' v) (hnil : ¬ word []) :
    Reads word follow (a :: s) outcome := by
  -- a word at the front of the text begins with its first symbol
  have hfront : ∀ {t v r}, a :: s ++ t = v ++ r → word v →
      ∃ v', v = a :: v' ∧ word' v' ∧ s ++ t = v' ++ r := by
    intro t v r hs hv
    cases v with
    | nil => exact absurd hv hnil
    | cons b v =>
      obtain ⟨rfl, htail⟩ := cons.inj hs
      exact ⟨v, rfl, (hword v).1 hv, htail⟩
  refine ⟨fun v r hs hv hr => ?_, fun r hok => ?_, fun hshort => ?_,
    fun r t v r' hok hne hs hv hr => ?_, fun t v r hbad hs hv => ?_⟩
  · obtain ⟨v, rfl, hv, hs⟩ := hfront (t := []) (by rwa [append_nil]) hv
    exact h.complete v r (by rwa [append_nil] at hs) hv hr
  · obtain ⟨v, hv, rfl⟩ := h.ok r hok
    exact ⟨a :: v, (hword v).2 hv, rfl⟩
  · obtain ⟨t, ht⟩ := h.incomplete hshort
    exact ⟨t, (hword _).2 ht⟩
  · obtain ⟨v, rfl, hv, hs⟩ := hfront hs hv
    exact h.stable r t v r' hok hne hs hv hr
  · obtain ⟨v, rfl, hv, hs⟩ := hfront hs hv
    exact h.malformed t v r hbad hs hv

theorem Reads.done (hword : ∀ v, word v ↔ v = []) : Reads word follow s (.ok s) where
  complete v r hs hv _ := by
    obtain rfl := (hword v).1 hv
    rw [hs, nil_append]
  ok r hok := by
    cases hok
    exact ⟨[], (hword []).2 rfl, rfl⟩
  incomplete hshort := by cases hshort
  stable r t v r' hok _ hs hv _ := by
    cases hok
    obtain rfl := (hword v).1 hv
    exact hs.symm
  malformed t v r hbad := by cases hbad

/-- No word begins like this. -/
theorem Reads.dead (hword : ∀ v, ¬ word v) : Reads word follow s (.error .malformed) where
  complete v r _ hv := absurd hv (hword v)
  ok r hok := by cases hok
  incomplete hshort := by cases hshort
  stable r t v r' hok := by cases hok
  malformed t v r _ _ hv := absurd hv (hword v)

/-- No word begins with the first symbol. -/
theorem Reads.cons_dead (hword : ∀ v, ¬ word (a :: v)) (hnil : ¬ word []) :
    Reads word follow (a :: s) (.error .malformed) :=
  Reads.cons (Reads.dead fun _ => id) (fun v => iff_false_intro (hword v)) hnil

/-- Only the words that begin with the first symbol matter. -/
theorem Reads.of_head (h : Reads word' follow (a :: s) outcome)
    (hword : ∀ v, word (a :: v) ↔ word' (a :: v)) (hnil : ¬ word []) (hnil' : ¬ word' []) :
    Reads word follow (a :: s) outcome where
  complete v r hs hv hr := by
    cases v with
    | nil => exact absurd hv hnil
    | cons b v =>
      obtain ⟨rfl, _⟩ := cons.inj hs
      exact h.complete _ r hs ((hword v).1 hv) hr
  ok r hok := by
    obtain ⟨v, hv, hs⟩ := h.ok r hok
    cases v with
    | nil => exact absurd hv hnil'
    | cons b v =>
      obtain ⟨rfl, _⟩ := cons.inj hs
      exact ⟨_, (hword v).2 hv, hs⟩
  incomplete hshort := by
    obtain ⟨t, ht⟩ := h.incomplete hshort
    exact ⟨t, (hword _).2 ht⟩
  stable r t v r' hok hne hs hv hr := by
    cases v with
    | nil => exact absurd hv hnil
    | cons b v =>
      obtain ⟨rfl, _⟩ := cons.inj hs
      exact h.stable r t _ r' hok hne hs ((hword v).1 hv) hr
  malformed t v r hbad hs hv := by
    cases v with
    | nil => exact absurd hv hnil
    | cons b v =>
      obtain ⟨rfl, _⟩ := cons.inj hs
      exact h.malformed t _ r hbad hs ((hword v).1 hv)

/-- The text has to have ended. -/
theorem reads_end [DecidableEq α] (s : List α) : Reads (fun v => v = []) (fun _ => False) s
    (if s = [] then .ok s else .error .malformed) := by
  have hend : ∀ {r : List α}, Behind (fun _ => False) r → r = [] := by
    intro r hr
    cases r with
    | nil => rfl
    | cons a r => exact absurd (hr a rfl) id
  split
  · exact Reads.done fun v => Iff.rfl
  · next hne =>
    refine ⟨?_, ?_, ?_, ?_, ?_⟩
    · rintro v r rfl rfl hr
      exact absurd (hend hr) hne
    · rintro r hok
      cases hok
    · rintro hshort
      cases hshort
    · rintro r t v r' hok
      cases hok
    · rintro t v r _ hs rfl hr
      rw [nil_append, hend hr] at hs
      exact hne (append_eq_nil_iff.1 hs).1

/-! ## One reader behind another -/

/-- **One reader runs behind another.** A word of the second language, or what is left behind it,
has to be able to follow one of the first, and the second reader needs more than the empty text to
call it malformed. -/
theorem Reads.bind (next : List α → Except Abort (List α))
    (h : Reads first follow s outcome)
    (hnext : ∀ v r, first v → s = v ++ r → outcome = .ok r → Reads second follow' r (next r))
    (hjoin : ∀ w r, second w → Behind follow' r → Behind follow (w ++ r))
    (hsecond : ∃ w, second w) (hnil : next [] ≠ .error .malformed) :
    Reads (Concat first second) follow' s (outcome >>= next) := by
  refine ⟨?_, ?_, ?_, ?_, ?_⟩
  · rintro _ r rfl ⟨v, w, hv, hw, rfl⟩ hr
    rw [append_assoc] at *
    have hok := h.complete v (w ++ r) rfl hv (hjoin w r hw hr)
    rw [hok]
    exact (hnext v _ hv rfl hok).complete w r rfl hw hr
  · intro r hok
    cases houtcome : outcome with
    | error abort => rw [houtcome] at hok; cases hok
    | ok rest =>
      obtain ⟨v, hv, rfl⟩ := h.ok rest houtcome
      rw [houtcome] at hok
      obtain ⟨w, hw, rfl⟩ := (hnext v rest hv rfl houtcome).ok r hok
      exact ⟨v ++ w, ⟨v, w, hv, hw, rfl⟩, (append_assoc v w r).symm⟩
  · intro hshort
    cases houtcome : outcome with
    | error abort =>
      rw [houtcome] at hshort
      cases hshort
      obtain ⟨t, ht⟩ := h.incomplete houtcome
      obtain ⟨w, hw⟩ := hsecond
      exact ⟨t ++ w, s ++ t, w, ht, hw, (append_assoc s t w).symm⟩
    | ok rest =>
      obtain ⟨v, hv, rfl⟩ := h.ok rest houtcome
      rw [houtcome] at hshort
      obtain ⟨t, ht⟩ := (hnext v rest hv rfl houtcome).incomplete hshort
      exact ⟨t, v, rest ++ t, hv, ht, append_assoc v rest t⟩
  · rintro r t _ r' hok hne hs ⟨v, w, hv, hw, rfl⟩ hr
    cases houtcome : outcome with
    | error abort => rw [houtcome] at hok; cases hok
    | ok rest =>
      obtain ⟨v', hv', rfl⟩ := h.ok rest houtcome
      rw [houtcome] at hok
      have hreads := hnext v' rest hv' rfl houtcome
      have hrest : rest ≠ [] := by
        obtain ⟨w', _, rfl⟩ := hreads.ok r hok
        simp [hne]
      rw [append_assoc v w r'] at hs
      have hsame := h.stable rest t v (w ++ r') houtcome hrest hs hv (hjoin w r' hw hr)
      exact hreads.stable r t w r' hok hne hsame.symm hw hr
  · rintro t _ r hbad hs ⟨v, w, hv, hw, rfl⟩ hr
    rw [append_assoc v w r] at hs
    have hbehind := hjoin w r hw hr
    cases houtcome : outcome with
    | error abort =>
      rw [houtcome] at hbad
      cases hbad
      exact h.malformed t v (w ++ r) houtcome hs hv hbehind
    | ok rest =>
      obtain ⟨v', hv', rfl⟩ := h.ok rest houtcome
      rw [houtcome] at hbad
      have hreads := hnext v' rest hv' rfl houtcome
      have hrest : rest ≠ [] := by
        rintro rfl
        exact hnil hbad
      have hsame := h.stable rest t v (w ++ r) houtcome hrest hs hv hbehind
      exact hreads.malformed t w r hbad hsame.symm hw hr

/-! ## White space -/

theorem behind_dropWhile (space : α → Bool) (s : List α) :
    Behind (fun a => ¬ space a) (s.dropWhile space) := by
  intro a ha
  have hnot := head?_dropWhile_not space s
  rw [Option.mem_def.1 ha] at hnot
  simpa using hnot

variable {space : α → Bool}

section
variable {w r : List α} (hw : ∀ a ∈ w, space a) (hr : Behind (fun a => ¬ space a) r)
include hw hr

/-- A run ends where a symbol that is not one of its own stands behind it. -/
theorem dropWhile_append_behind : (w ++ r).dropWhile space = r := by
  rw [dropWhile_append_of_pos hw]
  cases r with
  | nil => rfl
  | cons a r => exact dropWhile_cons_of_neg (hr a rfl)

theorem takeWhile_append_behind : (w ++ r).takeWhile space = w := by
  have hsplit := takeWhile_append_dropWhile (p := space) (l := w ++ r)
  rw [dropWhile_append_behind hw hr] at hsplit
  exact append_cancel_right hsplit

end

section
variable {s : List α} (hne : s.dropWhile space ≠ []) (t : List α)
include hne

/-- A run that has ended does not go on. -/
theorem dropWhile_append_of_ne_nil : (s ++ t).dropWhile space = s.dropWhile space ++ t := by
  have hsplit : s ++ t = s.takeWhile space ++ (s.dropWhile space ++ t) := by
    rw [← append_assoc, takeWhile_append_dropWhile]
  rw [hsplit, dropWhile_append_behind (fun a ha => mem_takeWhile_imp ha)
    ((behind_dropWhile space s).append hne t)]

theorem takeWhile_append_of_ne_nil : (s ++ t).takeWhile space = s.takeWhile space := by
  have hsplit : s ++ t = s.takeWhile space ++ (s.dropWhile space ++ t) := by
    rw [← append_assoc, takeWhile_append_dropWhile]
  rw [hsplit, takeWhile_append_behind (fun a ha => mem_takeWhile_imp ha)
    ((behind_dropWhile space s).append hne t)]

end

/-- **White space is skipped** as far as it goes. -/
theorem reads_dropWhile (space : α → Bool) (s : List α) :
    Reads (fun w => ∀ a ∈ w, space a) (fun a => ¬ space a) s (.ok (s.dropWhile space)) := by
  refine ⟨?_, ?_, ?_, ?_, ?_⟩
  · rintro w r rfl hw hr
    rw [dropWhile_append_behind hw hr]
  · rintro r hok
    cases hok
    exact ⟨s.takeWhile space, fun a ha => mem_takeWhile_imp ha, (takeWhile_append_dropWhile).symm⟩
  · intro hshort
    cases hshort
  · rintro r t w r' hok hne hs hw hr
    cases hok
    rw [← dropWhile_append_behind hw hr, ← hs, dropWhile_append_of_ne_nil hne]
  · intro t v r hbad
    cases hbad

end PrefixReader
