import Corgtex.Library.Trimming

/-!
# Excerpts of a text

A list of excerpts covers a text if every position whose unit is not blank is shown by one of them
(`Covers`). Coverage is kept when an excerpt is trimmed, when it is replaced by excerpts that cover
it, and when the text goes on. Windows of a fixed length cover a text when they begin no farther
apart than they are long (`covers_windows`).
-/

namespace Excerpts

open List hiding getElem?_eq_some_iff

variable {α : Type*}

/-- An excerpt of the text has its position `i`. -/
def Shows (text excerpt : List α) (i : Nat) : Prop :=
  ∃ before after, text = before ++ excerpt ++ after ∧ before.length ≤ i ∧
    i < before.length + excerpt.length

/-- A position whose unit is not blank. -/
def IsContent (blank : α → Bool) (text : List α) (i : Nat) : Prop :=
  ∃ u, text[i]? = some u ∧ blank u = false

/-- Every excerpt is a part of the text, and every position that is not blank is in one of them. -/
structure Covers (blank : α → Bool) (text : List α) (excerpts : List (List α)) : Prop where
  infix_of : ∀ excerpt ∈ excerpts, excerpt <:+: text
  shows : ∀ i, IsContent blank text i → ∃ excerpt ∈ excerpts, Shows text excerpt i

section
variable {blank : α → Bool} {text excerpt inner before after : List α} {i : Nat}

theorem IsContent.lt (h : IsContent blank text i) : i < text.length := by
  obtain ⟨u, hu, _⟩ := h
  exact (List.getElem?_eq_some_iff.1 hu).1

theorem Shows.self (h : i < text.length) : Shows text text i :=
  ⟨[], [], by simp, Nat.zero_le _, by simpa using h⟩

theorem Shows.of_infix (h : Shows excerpt inner (i - before.length))
    (htext : text = before ++ excerpt ++ after) (hle : before.length ≤ i) : Shows text inner i := by
  obtain ⟨before', after', hexcerpt, hfirst, hlast⟩ := h
  refine ⟨before ++ before', after' ++ after, ?_, ?_, ?_⟩
  · rw [htext, hexcerpt]
    simp only [append_assoc]
  · rw [length_append]
    omega
  · rw [length_append]
    omega

theorem Shows.append (h : Shows text excerpt i) (after : List α) :
    Shows (text ++ after) excerpt i := by
  obtain ⟨before, rest, htext, hfirst, hlast⟩ := h
  exact ⟨before, rest ++ after, by rw [htext, append_assoc], hfirst, hlast⟩

theorem IsContent.of_append (h : IsContent blank (text ++ after) i) (hlt : i < text.length) :
    IsContent blank text i := by
  obtain ⟨u, hu, hblank⟩ := h
  rw [List.getElem?_append_left hlt] at hu
  exact ⟨u, hu, hblank⟩

theorem IsContent.of_middle (h : IsContent blank text i)
    (htext : text = before ++ excerpt ++ after) (hle : before.length ≤ i)
    (hlt : i < before.length + excerpt.length) :
    IsContent blank excerpt (i - before.length) := by
  obtain ⟨u, hu, hblank⟩ := h
  rw [htext, append_assoc, List.getElem?_append_right hle,
    List.getElem?_append_left (by omega)] at hu
  exact ⟨u, hu, hblank⟩

/-! ## Trimming -/

/-- **A trimmed excerpt covers it.** -/
theorem covers_trimBy (blank : α → Bool) (text : List α) :
    Covers blank text [Trimming.trimBy blank text] := by
  obtain ⟨before, after, hbefore, hafter, htext⟩ := Trimming.exists_trimBy blank text
  refine ⟨?_, fun i hi => ⟨_, .head _, before, after, htext, ?_, ?_⟩⟩
  · rw [forall_mem_singleton]
    exact ⟨before, after, htext.symm⟩
  · obtain ⟨u, hu, hblank⟩ := hi
    by_contra hlt
    rw [htext, append_assoc, List.getElem?_append_left (by omega)] at hu
    rw [hbefore u (mem_of_getElem? hu)] at hblank
    cases hblank
  · obtain ⟨u, hu, hblank⟩ := hi
    by_contra hge
    rw [htext, List.getElem?_append_right (by rw [length_append]; omega)] at hu
    rw [hafter u (mem_of_getElem? hu)] at hblank
    cases hblank

/-- A trimmed excerpt that is empty can be left out. -/
theorem covers_nil (h : Trimming.trimBy blank text = []) : Covers blank text [] := by
  refine ⟨fun _ h => absurd h not_mem_nil, fun i hi => ?_⟩
  obtain ⟨excerpt, hmem, before, after, _, _, hlast⟩ := (covers_trimBy blank text).shows i hi
  rw [mem_singleton.1 hmem, h, length_nil] at hlast
  omega

theorem covers_self (blank : α → Bool) (text : List α) : Covers blank text [text] :=
  ⟨fun _ hmem => mem_singleton.1 hmem ▸ infix_rfl, fun _ hi => ⟨text, .head _, .self hi.lt⟩⟩

/-- **Each excerpt may be replaced by excerpts that cover it.** -/
theorem Covers.flatMap {excerpts : List (List α)} {refine : List α → List (List α)}
    (h : Covers blank text excerpts)
    (hrefine : ∀ excerpt ∈ excerpts, Covers blank excerpt (refine excerpt)) :
    Covers blank text (excerpts.flatMap refine) := by
  constructor
  · intro inner hinner
    obtain ⟨excerpt, hmem, hin⟩ := mem_flatMap.1 hinner
    exact ((hrefine excerpt hmem).infix_of inner hin).trans (h.infix_of excerpt hmem)
  · intro i hi
    obtain ⟨excerpt, hmem, before, after, htext, hfirst, hlast⟩ := h.shows i hi
    obtain ⟨inner, hin, hshows⟩ :=
      (hrefine excerpt hmem).shows _ (hi.of_middle htext hfirst hlast)
    exact ⟨inner, mem_flatMap.2 ⟨excerpt, hmem, hin⟩, hshows.of_infix htext hfirst⟩

end

/-! ## Windows -/

/-- Windows of `length` units, each `step` units after the one before it. -/
def windows (length step : Nat) (text : List α) : List (List α) :=
  if _hend : text = [] ∨ step = 0 then []
  else text.take length :: windows length step (text.drop step)
termination_by text.length
decreasing_by
  rw [List.length_drop]
  have := List.length_pos_iff.2 (not_or.1 _hend).1
  have := (not_or.1 _hend).2
  omega

theorem windows_ne_nil_le {length step : Nat} (hlength : 0 < length) {text window : List α}
    (h : window ∈ windows length step text) : window ≠ [] ∧ window.length ≤ length := by
  induction text using windows.induct step with
  | case1 text hend =>
    rw [windows, dif_pos hend] at h
    cases h
  | case2 text hend ih =>
    rw [windows, dif_neg hend] at h
    rcases mem_cons.1 h with rfl | h
    · refine ⟨?_, length_take_le _ _⟩
      rw [Ne, take_eq_nil_iff, not_or]
      exact ⟨by omega, (not_or.1 hend).1⟩
    · exact ih h

/-- **Windows cover a text** if they begin no farther apart than they are long. -/
theorem covers_windows {length step : Nat} (hpos : 0 < step) (hstep : step ≤ length)
    (blank : α → Bool) (text : List α) : Covers blank text (windows length step text) := by
  induction text using windows.induct step with
  | case1 text hend =>
    rw [windows, dif_pos hend]
    refine ⟨fun _ h => absurd h not_mem_nil, fun i hi => ?_⟩
    have := hi.lt
    rw [hend.resolve_right (by omega)] at this
    cases this
  | case2 text hend ih =>
    rw [windows, dif_neg hend]
    have htext := take_append_drop step text
    constructor
    · rw [forall_mem_cons]
      exact ⟨( take_prefix _ _).isInfix, fun window hmem =>
        (ih.infix_of window hmem).trans (drop_suffix _ _).isInfix⟩
    · intro i hi
      have hlt := hi.lt
      by_cases hfirst : i < length
      · refine ⟨_, .head _, [], text.drop length, by simp, Nat.zero_le _, ?_⟩
        rw [length_nil, length_take]
        omega
      · have hlength : (text.take step).length = step := by
          rw [length_take]
          omega
        have hrest : text = text.take step ++ text.drop step ++ [] := by simp
        have hdrop : (text.drop step).length = text.length - step := length_drop
        obtain ⟨window, hmem, hshows⟩ := ih.shows (i - (text.take step).length)
          (hi.of_middle hrest (by omega) (by omega))
        exact ⟨window, .tail _ hmem, hshows.of_infix hrest (by omega)⟩

end Excerpts
