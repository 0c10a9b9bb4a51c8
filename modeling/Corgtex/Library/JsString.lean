import Mathlib.Data.List.DropRight

/-!
# ECMAScript strings

A string of the source is a sequence of UTF-16 code units. `trim` and the truthiness test
`s || null` are the two operations that nearly every request handler applies to its inputs.
-/

/-- An ECMAScript string: its UTF-16 code units. -/
abbrev JsString := List UInt16

/-- Found once here, for the modules that ask whether a string is in a list. -/
instance : LawfulBEq JsString := inferInstance

namespace JsString

open List

def ofCodePoint (n : Nat) : JsString :=
  if n < 0x10000 then [n.toUInt16]
  else [(0xD800 + (n - 0x10000) / 0x400).toUInt16, (0xDC00 + (n - 0x10000) % 0x400).toUInt16]

/-- The string value of a source literal. -/
def lit (s : String) : JsString := s.toList.flatMap fun c => ofCodePoint c.toNat

/-- `WhiteSpace` and `LineTerminator`, what `String.prototype.trim` removes. -/
def isSpace (u : UInt16) : Bool :=
  (0x09 ≤ u && u ≤ 0x0D) || u = 0x20 || u = 0xA0 || u = 0x1680 || (0x2000 ≤ u && u ≤ 0x200A)
    || u = 0x2028 || u = 0x2029 || u = 0x202F || u = 0x205F || u = 0x3000 || u = 0xFEFF

/-- `String.prototype.trim`. -/
def trim (s : JsString) : JsString := s.rdropWhile isSpace |>.dropWhile isSpace

/-- `s || null`. -/
def orNull (s : JsString) : Option JsString := if s = [] then none else some s

/-- `text?.trim() || null`. -/
def trimOrNull (text : Option JsString) : Option JsString := text.bind fun s => s.trim.orNull

/-- `s.split(separator)`, for a separator of one code unit. -/
def split (separator : UInt16) : JsString → List JsString
  | [] => [[]]
  | u :: rest =>
    if u = separator then [] :: split separator rest
    else (split separator rest).modifyHead (u :: ·)

/-- `parts.join(separator)`. -/
def join (separator : JsString) : List JsString → JsString
  | [] => []
  | [part] => part
  | part :: parts => part ++ separator ++ join separator parts

/-- `s.slice(start, stop)`, for indices that are not negative. -/
def slice (s : JsString) (start stop : Nat) : JsString := (s.take stop).drop start

/-- The last index below `n` with a property. -/
def lastIndexBelow (p : Nat → Bool) : Nat → Option Nat
  | 0 => none
  | n + 1 => if p n then some n else lastIndexBelow p n

/-- `s.lastIndexOf(u, position)`, for a string `u` of one code unit; `-1` is `none`. -/
def lastIndexOf (s : JsString) (u : UInt16) (position : Nat) : Option Nat :=
  lastIndexBelow (fun i => s[i]? = some u) (position + 1)

/-- `[a-fA-F0-9]`. -/
def isHexDigit (u : UInt16) : Bool :=
  (0x30 ≤ u && u ≤ 0x39) || (0x41 ≤ u && u ≤ 0x46) || (0x61 ≤ u && u ≤ 0x66)

/-- What is dropped from both ends is not dropped again. -/
theorem dropWhile_rdropWhile_idem {α : Type*} (p : α → Bool) (s : List α) :
    (((s.rdropWhile p).dropWhile p).rdropWhile p).dropWhile p = (s.rdropWhile p).dropWhile p := by
  have hright : ((s.rdropWhile p).dropWhile p).rdropWhile p = (s.rdropWhile p).dropWhile p := by
    refine rdropWhile_eq_self_iff.2 fun hne => ?_
    have hsuffix : (s.rdropWhile p).dropWhile p <:+ s.rdropWhile p := dropWhile_suffix p
    rw [hsuffix.getLast hne]
    exact rdropWhile_last_not p s _
  rw [hright]
  exact dropWhile_idempotent p _

theorem getLast?_dropWhile_rdropWhile {α : Type*} (p : α → Bool) (s : List α) :
    ∀ u ∈ ((s.rdropWhile p).dropWhile p).getLast?, ¬ p u := by
  intro u hu
  obtain ⟨hne, rfl⟩ := mem_getLast?_eq_getLast hu
  have hsuffix : (s.rdropWhile p).dropWhile p <:+ s.rdropWhile p := dropWhile_suffix p
  rw [hsuffix.getLast hne]
  exact rdropWhile_last_not p s _

@[simp] theorem trim_trim (s : JsString) : s.trim.trim = s.trim :=
  dropWhile_rdropWhile_idem isSpace s

variable {s : JsString}

/-- A text without white space at its ends has nothing to trim. -/
theorem trim_eq_self (hhead : ∀ u ∈ s.head?, ¬ isSpace u) (hlast : ∀ u ∈ s.getLast?, ¬ isSpace u) :
    s.trim = s := by
  have hright : s.rdropWhile isSpace = s :=
    rdropWhile_eq_self_iff.2 fun hne => hlast _ (getLast?_eq_some_getLast hne)
  rw [trim, hright]
  cases s with
  | nil => rfl
  | cons u rest => exact dropWhile_cons_of_neg (hhead u rfl)

theorem head?_trim : ∀ u ∈ s.trim.head?, ¬ isSpace u := by
  intro u hu
  obtain ⟨rest, hrest⟩ := head?_eq_some_iff.1 hu
  have hne : s.trim ≠ [] := by simp [hrest]
  have hfirst : isSpace (s.trim.head hne) = false := head_dropWhile_not isSpace hne
  simpa [hrest] using hfirst

theorem getLast?_trim : ∀ u ∈ s.trim.getLast?, ¬ isSpace u :=
  getLast?_dropWhile_rdropWhile isSpace s

theorem trim_eq_nil : s.trim = [] ↔ ∀ u ∈ s, isSpace u := by
  rw [trim, dropWhile_eq_nil_iff]
  constructor
  · intro h
    rcases eq_nil_or_concat (s.rdropWhile isSpace) with hnil | ⟨front, last, hlast⟩
    · exact rdropWhile_eq_nil_iff.1 hnil
    · have hne : s.rdropWhile isSpace ≠ [] := by simp [hlast]
      exact absurd (h _ (getLast_mem hne)) (rdropWhile_last_not isSpace s hne)
  · exact fun h u hu => h u (( rdropWhile_prefix isSpace s).subset hu)

/-- A text that begins with what is not white space is trimmed at its end only. -/
theorem trim_prefix (hhead : ∀ u ∈ s.head?, ¬ isSpace u) : s.trim <+: s := by
  have hprefix : s.rdropWhile isSpace <+: s := rdropWhile_prefix isSpace s
  refine List.IsPrefix.trans ?_ hprefix
  cases hrest : s.rdropWhile isSpace with
  | nil => simp [trim, hrest]
  | cons u rest =>
    obtain ⟨tail, htail⟩ := hprefix
    rw [hrest] at htail
    have hu : ¬ isSpace u := hhead u (by rw [← htail]; rfl)
    have hlead : (u :: rest).dropWhile isSpace = u :: rest := dropWhile_cons_of_neg hu
    simpa only [trim, hrest, hlead] using prefix_refl (u :: rest)

@[simp] theorem orNull_eq_some {t : JsString} : s.orNull = some t ↔ s = t ∧ t ≠ [] := by
  unfold orNull
  split
  · next h => exact ⟨nofun, fun ⟨he, ht⟩ => absurd (he ▸ h) ht⟩
  · next h =>
    exact ⟨fun he => ⟨Option.some.inj he, Option.some.inj he ▸ h⟩, fun ⟨he, _⟩ => he ▸ rfl⟩

@[simp] theorem orNull_eq_none : s.orNull = none ↔ s = [] := by
  unfold orNull
  split
  · next h => exact ⟨fun _ => h, fun _ => rfl⟩
  · next h => exact ⟨nofun, fun he => absurd he h⟩

@[simp] theorem length_slice (s : JsString) (start stop : Nat) :
    (s.slice start stop).length = min stop s.length - start := by
  simp [slice]

theorem lastIndexBelow_eq_some {p : Nat → Bool} {n i : Nat} :
    lastIndexBelow p n = some i ↔ i < n ∧ p i ∧ ∀ j, i < j → j < n → ¬ p j := by
  induction n with
  | zero => simp [lastIndexBelow]
  | succ n ih =>
    rw [lastIndexBelow]
    split
    · next hn =>
      constructor
      · rintro ⟨⟩
        exact ⟨Nat.lt_succ_self _, hn, fun j hlt hle => by omega⟩
      · rintro ⟨hi, _, hlast⟩
        rcases Nat.lt_succ_iff_lt_or_eq.1 hi with hlt | rfl
        · exact absurd hn (hlast n hlt (Nat.lt_succ_self n))
        · rfl
    · next hn =>
      rw [ih]
      constructor
      · rintro ⟨hi, hp, hlast⟩
        refine ⟨Nat.lt_succ_of_lt hi, hp, fun j hij hj => ?_⟩
        rcases Nat.lt_succ_iff_lt_or_eq.1 hj with hlt | rfl
        · exact hlast j hij hlt
        · exact hn
      · rintro ⟨hi, hp, hlast⟩
        have hne : i ≠ n := fun he => hn (he ▸ hp)
        exact ⟨by omega, hp, fun j hij hj => hlast j hij (Nat.lt_succ_of_lt hj)⟩

section
variable {separator : UInt16} {part : JsString} (h : separator ∉ part)
include h

/-- A part without the separator ends where the next one begins. -/
theorem split_append (rest : JsString) : split separator
    (part ++ separator :: rest) = part :: split separator rest := by
  induction part with
  | nil => simp [split]
  | cons u part ih =>
    have hne : u ≠ separator := fun he => h (he ▸ .head _)
    rw [cons_append, split, if_neg hne, ih fun hmem => h (.tail _ hmem)]
    rfl

theorem split_self : split separator part = [part] := by
  induction part with
  | nil => rfl
  | cons u part ih =>
    have hne : u ≠ separator := fun he => h (he ▸ .head _)
    rw [split, if_neg hne, ih fun hmem => h (.tail _ hmem)]
    rfl

end

end JsString
