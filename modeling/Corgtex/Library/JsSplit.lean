import Corgtex.Library.JsString

/-!
# Splitting and joining

`text.split(separator)` and `parts.join(separator)`, for a separator of one code unit: parts without
the separator are found again (`split_join`), and every text is the join of its parts
(`join_split`).
-/

namespace JsString

open List

theorem join_cons_cons (separator part part' : JsString) (parts : List JsString) :
    join separator (part :: part' :: parts) =
      part ++ separator ++ join separator (part' :: parts) := by
  rw [join]
  simp

/-- Parts without the separator are found again. -/
theorem split_join {separator : UInt16} {parts : List JsString} (hne : parts ≠ [])
    (h : ∀ part ∈ parts, separator ∉ part) : split separator (join [separator] parts) = parts := by
  induction parts with
  | nil => exact absurd rfl hne
  | cons part parts ih =>
    obtain ⟨hpart, hparts⟩ := forall_mem_cons.1 h
    cases parts with
    | nil => exact split_self hpart
    | cons part' parts =>
      rw [join_cons_cons, append_assoc, singleton_append, split_append hpart, ih (by simp) hparts]

theorem split_ne_nil (separator : UInt16) (text : JsString) : split separator text ≠ [] := by
  induction text with
  | nil => simp [split]
  | cons u text ih =>
    rw [split]
    split
    · simp
    · simpa using ih

theorem split_append_separator (separator : UInt16) (text rest : JsString) :
    split separator (text ++ separator :: rest) = split separator text ++ split separator rest := by
  induction text with
  | nil => simp [split]
  | cons u text ih =>
    rw [cons_append, split, split]
    split
    · rw [ih, cons_append]
    · obtain ⟨part, parts, hparts⟩ := exists_cons_of_ne_nil (split_ne_nil separator text)
      rw [ih, hparts]
      rfl

theorem mem_split {separator u : UInt16} {text : JsString} (h : u ∈ text) :
    u = separator ∨ ∃ part ∈ split separator text, u ∈ part := by
  induction text with
  | nil => cases h
  | cons v text ih =>
    obtain ⟨part, parts, hparts⟩ := exists_cons_of_ne_nil (split_ne_nil separator text)
    rw [split, hparts]
    rw [hparts] at ih
    by_cases hv : v = separator
    · rcases mem_cons.1 h with rfl | h
      · exact .inl hv
      · rw [if_pos hv]
        rcases ih h with heq | ⟨p, hp, hu⟩
        · exact .inl heq
        · exact .inr ⟨p, .tail _ hp, hu⟩
    · rw [if_neg hv, modifyHead_cons]
      rcases mem_cons.1 h with rfl | h
      · exact .inr ⟨_, .head _, .head _⟩
      · rcases ih h with heq | ⟨p, hp, hu⟩
        · exact .inl heq
        · rcases mem_cons.1 hp with rfl | hp
          · exact .inr ⟨_, .head _, .tail _ hu⟩
          · exact .inr ⟨p, .tail _ hp, hu⟩

theorem join_split (separator : UInt16) (text : JsString) :
    join [separator] (split separator text) = text := by
  induction text with
  | nil => rfl
  | cons u text ih =>
    obtain ⟨part, parts, hparts⟩ := exists_cons_of_ne_nil (split_ne_nil separator text)
    rw [hparts] at ih
    rw [split, hparts]
    split
    · next hu => rw [join_cons_cons, ih, hu, nil_append, singleton_append]
    · rw [modifyHead_cons]
      cases parts with
      | nil => exact congrArg (u :: ·) ih
      | cons next parts =>
        rw [join_cons_cons] at ih ⊢
        exact congrArg (u :: ·) ih

theorem mem_join {separator : JsString} {parts : List JsString} {u : UInt16}
    (h : u ∈ join separator parts) : u ∈ separator ∨ ∃ part ∈ parts, u ∈ part := by
  induction parts with
  | nil => cases h
  | cons part parts ih =>
    cases parts with
    | nil => exact .inr ⟨part, .head _, h⟩
    | cons next parts =>
      rw [join_cons_cons, append_assoc, mem_append, mem_append] at h
      rcases h with h | h | h
      · exact .inr ⟨part, .head _, h⟩
      · exact .inl h
      · exact (ih h).imp_right fun ⟨other, hother, hu⟩ => ⟨other, .tail _ hother, hu⟩

theorem join_append {separator : JsString} {parts parts' : List JsString} (hne : parts ≠ [])
    (hne' : parts' ≠ []) :
    join separator (parts ++ parts') =
      join separator parts ++ separator ++ join separator parts' := by
  obtain ⟨part', rest', rfl⟩ := exists_cons_of_ne_nil hne'
  induction parts with
  | nil => exact absurd rfl hne
  | cons part parts ih =>
    cases parts with
    | nil => rfl
    | cons next parts =>
      have ih := ih (by simp)
      have hleft : join separator (part :: next :: parts ++ part' :: rest') =
          part ++ separator ++ join separator (next :: parts ++ part' :: rest') := rfl
      rw [hleft, ih]
      simp [join]

theorem map_join (f : UInt16 → UInt16) (separator : JsString) (parts : List JsString) :
    (join separator parts).map f = join (separator.map f) (parts.map (List.map f)) := by
  induction parts with
  | nil => rfl
  | cons part parts ih =>
    cases parts with
    | nil => rfl
    | cons part' parts =>
      rw [join_cons_cons, map_append, map_append, ih]
      rfl

end JsString
