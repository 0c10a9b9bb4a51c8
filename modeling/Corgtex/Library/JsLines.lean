import Corgtex.Library.JsString
import Mathlib.Algebra.Ring.Nat

/-!
# Lines of a text

`splitLines` is `s.split(/\r?\n/)`. A text without a carriage return in front of a line feed is the
join of its lines, and the units of a text that are not white space are those of its lines.
-/

namespace JsString

open List

/-- `\n` -/
abbrev lineFeed : UInt16 := 0x0A

/-- `\r` -/
abbrev carriageReturn : UInt16 := 0x0D

/-- `s.split(/\r?\n/)`. -/
def splitLines : JsString → List JsString
  | [] => [[]]
  | u :: rest =>
    if u = lineFeed then [] :: splitLines rest
    else if u = carriageReturn ∧ rest.head? = some lineFeed then splitLines rest
    else (splitLines rest).modifyHead (u :: ·)

/-- `lines.join("\n")`. -/
def joinLines (lines : List JsString) : JsString := join [lineFeed] lines

/-- Lines end with a line feed alone. -/
def UsesLineFeeds (s : JsString) : Prop := ¬ [carriageReturn, lineFeed] <:+: s

instance (s : JsString) : Decidable (UsesLineFeeds s) :=
  inferInstanceAs (Decidable (¬ [carriageReturn, lineFeed] <:+: s))

variable {s t line : JsString} {lines : List JsString}

@[simp] theorem splitLines_nil : splitLines [] = [[]] := rfl

@[simp] theorem splitLines_lineFeed (s : JsString) :
    splitLines (lineFeed :: s) = [] :: splitLines s := by
  rw [splitLines, if_pos rfl]

theorem splitLines_ne_nil (s : JsString) : splitLines s ≠ [] := by
  induction s with
  | nil => simp
  | cons u rest ih =>
    rw [splitLines]
    split
    · simp
    · split
      · exact ih
      · obtain ⟨line, lines, hlines⟩ := exists_cons_of_ne_nil ih
        simp [hlines]

/-- **A line feed cuts the text,** unless a carriage return goes with it. -/
theorem splitLines_append (h : ∀ u ∈ s.getLast?, u ≠ carriageReturn) (t : JsString) :
    splitLines (s ++ lineFeed :: t) = splitLines s ++ splitLines t := by
  induction s with
  | nil => simp
  | cons u rest ih =>
    have hrest : ∀ v ∈ rest.getLast?, v ≠ carriageReturn := by
      intro v hv
      refine h v ?_
      rw [getLast?_cons, Option.mem_def.1 hv]
      rfl
    rw [cons_append, splitLines, splitLines, ih hrest]
    split
    · rfl
    · obtain ⟨line, lines, hlines⟩ := exists_cons_of_ne_nil (splitLines_ne_nil rest)
      cases rest with
      | nil =>
        have hne : u ≠ carriageReturn := h u rfl
        simp [hne]
      | cons v rest =>
        have hhead : (v :: rest ++ lineFeed :: t).head? = some v := rfl
        by_cases hcut : u = carriageReturn ∧ v = lineFeed
        · rw [if_pos ⟨hcut.1, hhead.trans (congrArg some hcut.2)⟩,
            if_pos ⟨hcut.1, congrArg some hcut.2⟩]
        · rw [if_neg fun h => hcut ⟨h.1, Option.some.inj (hhead.symm.trans h.2)⟩,
            if_neg fun h => hcut ⟨h.1, Option.some.inj h.2⟩, hlines]
          rfl

theorem splitLines_self (h : lineFeed ∉ s) : splitLines s = [s] := by
  induction s with
  | nil => rfl
  | cons u rest ih =>
    have hne : u ≠ lineFeed := fun he => h (he ▸ .head _)
    have hrest : rest.head? ≠ some lineFeed := fun hhead =>
      h (.tail _ (mem_of_mem_head? hhead))
    rw [splitLines, if_neg hne, if_neg fun hcut => hrest hcut.2, ih fun hmem => h (.tail _ hmem)]
    rfl

theorem splitLines_cons (h : lineFeed ∉ line) (hlast : ∀ u ∈ line.getLast?, u ≠ carriageReturn)
    (s : JsString) : splitLines (line ++ lineFeed :: s) = line :: splitLines s := by
  rw [splitLines_append hlast, splitLines_self h]
  rfl

theorem one_lt_length_splitLines (h : lineFeed ∈ s) : 1 < (splitLines s).length := by
  induction s with
  | nil => simp at h
  | cons u rest ih =>
    rw [splitLines]
    split
    · simpa using length_pos_iff.2 (splitLines_ne_nil rest)
    · next hne =>
      have hrest : lineFeed ∈ rest := (mem_cons.1 h).resolve_left fun he => hne he.symm
      split
      · exact ih hrest
      · simpa using ih hrest

/-- What a text begins with is what its first line begins with. -/
theorem head?_splitLines (h : ∀ u ∈ s, u ≠ lineFeed ∧ u ≠ carriageReturn) (t : JsString) :
    ∃ line lines, splitLines (s ++ t) = (s ++ line) :: lines := by
  induction s with
  | nil =>
    obtain ⟨line, lines, hlines⟩ := exists_cons_of_ne_nil (splitLines_ne_nil t)
    exact ⟨line, lines, hlines⟩
  | cons u rest ih =>
    obtain ⟨hu, hrest⟩ := forall_mem_cons.1 h
    obtain ⟨line, lines, hlines⟩ := ih hrest
    refine ⟨line, lines, ?_⟩
    rw [cons_append, splitLines, if_neg hu.1, if_neg fun hcut => hu.2 hcut.1, hlines]
    rfl

theorem joinLines_modifyHead (u : UInt16) (h : lines ≠ []) :
    joinLines (lines.modifyHead (u :: ·)) = u :: joinLines lines := by
  rcases lines with _ | ⟨line, _ | ⟨next, lines⟩⟩
  · exact absurd rfl h
  · rfl
  · rfl

theorem joinLines_cons (line : JsString) (h : lines ≠ []) :
    joinLines (line :: lines) = line ++ lineFeed :: joinLines lines := by
  obtain ⟨next, lines, rfl⟩ := exists_cons_of_ne_nil h
  simp [joinLines, join]

/-- **A text is the join of its lines.** -/
theorem joinLines_splitLines (h : UsesLineFeeds s) : joinLines (splitLines s) = s := by
  induction s with
  | nil => rfl
  | cons u rest ih =>
    have hrest : UsesLineFeeds rest := fun hin => h (hin.trans (suffix_cons u rest).isInfix)
    rw [splitLines]
    split
    · next hu =>
      rw [joinLines_cons _ (splitLines_ne_nil rest), ih hrest, hu]
      rfl
    · split
      · next hcut =>
        obtain ⟨rfl, hhead⟩ := hcut
        obtain ⟨tail, rfl⟩ := head?_eq_some_iff.1 hhead
        exact absurd ⟨[], tail, rfl⟩ h
      · rw [joinLines_modifyHead u (splitLines_ne_nil rest), ih hrest]

/-- White space behind a text goes with what is trimmed. -/
theorem trim_append_spaces (s : JsString) (h : ∀ u ∈ t, isSpace u) : trim (s ++ t) = trim s := by
  induction t using reverseRecOn with
  | nil => rw [append_nil]
  | append_singleton t u ih =>
    obtain ⟨ht, hu⟩ := forall_mem_append.1 h
    rw [← append_assoc, trim, rdropWhile_concat_pos _ _ _ (hu u (.head _))]
    exact ih ht

theorem trim_isInfix (s : JsString) : s.trim <:+: s :=
  (dropWhile_suffix _).isInfix.trans ( rdropWhile_prefix _ _).isInfix

theorem UsesLineFeeds.trim (h : UsesLineFeeds s) : UsesLineFeeds s.trim :=
  fun hin => h (hin.trans (trim_isInfix s))

/-! ## Visible units -/

/-- The units that are not white space. -/
def visible (s : JsString) : Nat := s.countP fun u => !isSpace u

@[simp] theorem visible_append (s t : JsString) : visible (s ++ t) = visible s + visible t :=
  countP_append

theorem visible_cons (u : UInt16) (s : JsString) :
    visible (u :: s) = visible s + if isSpace u then 0 else 1 := by
  cases hu : isSpace u <;> simp [visible, hu]

@[simp] theorem visible_lineFeed_cons (s : JsString) : visible (lineFeed :: s) = visible s := by
  rw [visible_cons]
  rfl

@[simp] theorem visible_carriageReturn_cons (s : JsString) :
    visible (carriageReturn :: s) = visible s := by
  rw [visible_cons]
  rfl

theorem visible_pos {u : UInt16} (hmem : u ∈ s) (hu : ¬ isSpace u) : 0 < visible s :=
  countP_pos_iff.2 ⟨u, hmem, by simpa using hu⟩

theorem visible_eq_zero (h : ∀ u ∈ s, isSpace u) : visible s = 0 :=
  countP_eq_zero.2 fun u hu => by simp [h u hu]

@[simp] theorem visible_trim (s : JsString) : visible s.trim = visible s := by
  have hfront : visible (s.rdropWhile isSpace) + visible (s.rtakeWhile isSpace) = visible s := by
    rw [← visible_append, rdropWhile_append_rtakeWhile]
  have hback : visible ((s.rdropWhile isSpace).takeWhile isSpace) + visible s.trim =
      visible (s.rdropWhile isSpace) := by
    rw [trim, ← visible_append, takeWhile_append_dropWhile]
  rw [visible_eq_zero fun u hu => mem_rtakeWhile_imp hu] at hfront
  rw [visible_eq_zero fun u hu => mem_takeWhile_imp hu] at hback
  omega

@[simp] theorem visible_joinLines (lines : List JsString) :
    visible (joinLines lines) = (lines.map visible).sum := by
  induction lines with
  | nil => rfl
  | cons line lines ih =>
    cases lines with
    | nil => simp [joinLines, join]
    | cons next lines =>
      rw [joinLines_cons _ (by simp), visible_append, visible_lineFeed_cons, ih]
      rfl

@[simp] theorem visible_splitLines (s : JsString) :
    ((splitLines s).map visible).sum = visible s := by
  induction s with
  | nil => rfl
  | cons u rest ih =>
    rw [splitLines]
    split
    · next hu =>
      rw [hu, visible_lineFeed_cons, map_cons, sum_cons, ih]
      exact Nat.zero_add _
    · split
      · next hcut => rw [hcut.1, visible_carriageReturn_cons, ih]
      · obtain ⟨line, lines, hlines⟩ := exists_cons_of_ne_nil (splitLines_ne_nil rest)
        rw [hlines, map_cons, sum_cons] at ih
        rw [hlines, modifyHead_cons, map_cons, sum_cons, visible_cons, visible_cons]
        omega

end JsString
