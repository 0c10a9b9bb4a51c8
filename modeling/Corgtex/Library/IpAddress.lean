import Corgtex.Library.Json
import Corgtex.Library.JsNumber
import Corgtex.Library.JsSplit
import Mathlib.Data.List.Forall2

/-!
# Texts of IP addresses

An IPv6 address is eight groups of sixteen bits. `SpelledBy` are the texts that stand for one: each
group in up to four hexadecimal digits of either case, the last two groups as a dotted quad if one
likes, and one run of zero groups left out for `::`. Zone indices are not part of an address.
`isIP` is the test for such texts, and it recognises every one of them (`isIP_of_spelledBy`).
-/

namespace IpAddress

open JsString List

abbrev dot : UInt16 := 0x2E
abbrev colon : UInt16 := 0x3A

/-! ## Texts of an address -/

/-- An IPv6 address. -/
structure Ipv6 where
  groups : List UInt16
  length_eq : groups.length = 8

/-- The value of hexadecimal digits. -/
def hexNumber (text : JsString) : Nat := text.foldl (fun n u => n * 16 + Json.hexValue u) 0

/-- `h16`: a group in hexadecimal digits. -/
structure IsGroup (group : UInt16) (text : JsString) : Prop where
  ne_nil : text ≠ []
  length_le : text.length ≤ 4
  digits : ∀ u ∈ text, isHexDigit u
  value : hexNumber text = group.toNat

/-- The dotted quad of two groups. -/
def dotted (high low : UInt16) : JsString :=
  join [dot] [JsNumber.decimal (high.toNat / 256), JsNumber.decimal (high.toNat % 256),
    JsNumber.decimal (low.toNat / 256), JsNumber.decimal (low.toNat % 256)]

/-- Groups in hexadecimal digits, of which the last two may be a dotted quad. -/
inductive Spells : List UInt16 → List JsString → Prop
  | nil : Spells [] []
  | group {group : UInt16} {groups : List UInt16} {text : JsString} {texts : List JsString} :
      IsGroup group text → Spells groups texts → Spells (group :: groups) (text :: texts)
  | dotted (high low : UInt16) : Spells [high, low] [dotted high low]

inductive SpelledBy (address : Ipv6) : JsString → Prop
  | full {texts : List JsString} : Spells address.groups texts →
      SpelledBy address (join [colon] texts)
  | compressed {before after : List UInt16} {beforeTexts afterTexts : List JsString} {n : Nat} :
      List.Forall₂ IsGroup before beforeTexts → Spells after afterTexts → 0 < n →
      address.groups = before ++ (List.replicate n 0 ++ after) →
      SpelledBy address (join [colon] beforeTexts ++ colon :: colon :: join [colon] afterTexts)

/-! ## The test -/

/-- A decimal number up to 255, without leading zeros. -/
def isOctet (text : JsString) : Bool :=
  text = JsNumber.decimal (JsNumber.ofDecimal text) && JsNumber.ofDecimal text ≤ 255

/-- A dotted quad. -/
def isIPv4 (text : JsString) : Bool :=
  (split dot text).length = 4 && (split dot text).all isOctet

/-- One to four hexadecimal digits. -/
def isGroupText (text : JsString) : Bool :=
  text ≠ [] && text.length ≤ 4 && text.all isHexDigit

/-- The number of groups of parts of which the last may be a dotted quad. -/
def countGroups : List JsString → Option Nat
  | [] => none
  | [text] => if isGroupText text then some 1 else if isIPv4 text then some 2 else none
  | text :: text' :: texts =>
    if isGroupText text then (countGroups (text' :: texts)).map (· + 1) else none

/-- The number of groups after `::`. -/
def countAfter (parts : List JsString) : Option Nat :=
  if parts = [[]] then some 0 else countGroups parts

/-- Eight groups, or fewer and one `::`. -/
def isIPv6 (text : JsString) : Bool :=
  let parts := split colon text
  let before := parts.takeWhile (· ≠ [])
  match parts.dropWhile (· ≠ []) with
  | [] => countGroups parts = some 8
  | _ :: rest =>
    -- a leading `::` has an empty part before it
    let rest := if before = [] then (if rest.head? = some [] then rest.tail else []) else rest
    before.all isGroupText && (countAfter rest).any fun count => before.length + count ≤ 7

/-- `isIP(text)` -/
def isIP (text : JsString) : Nat := if isIPv4 text then 4 else if isIPv6 text then 6 else 0

/-! ## Every text is recognised -/

section
variable {group high low : UInt16} {groups : List UInt16} {text : JsString} {texts : List JsString}

theorem IsGroup.isGroupText (h : IsGroup group text) : isGroupText text = true := by
  simp only [IpAddress.isGroupText, Bool.and_eq_true, decide_eq_true_eq, all_eq_true]
  exact ⟨⟨h.ne_nil, h.length_le⟩, h.digits⟩

theorem IsGroup.not_mem_colon (h : IsGroup group text) : colon ∉ text := fun hmem =>
  absurd (h.digits colon hmem) (by decide)

theorem IsGroup.not_mem_dot (h : IsGroup group text) : dot ∉ text := fun hmem =>
  absurd (h.digits dot hmem) (by decide)

/-- The decimal digits of a byte. -/
theorem decimal_octet {n : Nat} (h : n < 256) :
    isOctet (JsNumber.decimal n) = true ∧ dot ∉ JsNumber.decimal n ∧
      colon ∉ JsNumber.decimal n := by
  have hall : ∀ m : Fin 256, isOctet (JsNumber.decimal m) = true ∧ dot ∉ JsNumber.decimal m ∧
      colon ∉ JsNumber.decimal m := by decide +kernel
  exact hall ⟨n, h⟩

section
variable (high low : UInt16)

theorem split_dotted : split dot (dotted high low) =
    [JsNumber.decimal (high.toNat / 256), JsNumber.decimal (high.toNat % 256),
      JsNumber.decimal (low.toNat / 256), JsNumber.decimal (low.toNat % 256)] := by
  have hhigh : high.toNat < 65536 := high.toNat_lt
  have hlow : low.toNat < 65536 := low.toNat_lt
  refine split_join (by simp) ?_
  simp only [forall_mem_cons]
  exact ⟨(decimal_octet (by omega)).2.1, (decimal_octet (by omega)).2.1,
    (decimal_octet (by omega)).2.1, (decimal_octet (by omega)).2.1, by simp⟩

theorem isIPv4_dotted : isIPv4 (dotted high low) = true := by
  have hhigh : high.toNat < 65536 := high.toNat_lt
  have hlow : low.toNat < 65536 := low.toNat_lt
  rw [isIPv4, split_dotted, Bool.and_eq_true, all_eq_true]
  refine ⟨rfl, ?_⟩
  simp only [forall_mem_cons]
  exact ⟨(decimal_octet (by omega)).1, (decimal_octet (by omega)).1,
    (decimal_octet (by omega)).1, (decimal_octet (by omega)).1, by simp⟩

theorem not_mem_colon_dotted : colon ∉ dotted high low := by
  have hhigh : high.toNat < 65536 := high.toNat_lt
  have hlow : low.toNat < 65536 := low.toNat_lt
  have hne : colon ≠ dot := by decide
  simp only [dotted, join, mem_append, mem_singleton, not_or]
  exact ⟨⟨(decimal_octet (by omega)).2.2, hne⟩, ⟨(decimal_octet (by omega)).2.2, hne⟩,
    ⟨(decimal_octet (by omega)).2.2, hne⟩, (decimal_octet (by omega)).2.2⟩

theorem mem_dot_dotted : dot ∈ dotted high low := by
  simp [dotted, join]

theorem not_isGroupText_dotted : isGroupText (dotted high low) = false := by
  rw [Bool.eq_false_iff]
  intro h
  simp only [isGroupText, Bool.and_eq_true, all_eq_true] at h
  exact absurd (h.2 dot (mem_dot_dotted high low)) (by decide)

end

theorem spells_of_forall₂ (h : List.Forall₂ IsGroup groups texts) : Spells groups texts := by
  induction h with
  | nil => exact .nil
  | cons hgroup _ ih => exact .group hgroup ih

theorem Spells.parts (h : Spells groups texts) : ∀ text ∈ texts, colon ∉ text ∧ text ≠ [] := by
  induction h with
  | nil => simp
  | group hgroup _ ih => exact forall_mem_cons.2 ⟨⟨hgroup.not_mem_colon, hgroup.ne_nil⟩, ih⟩
  | dotted high low =>
    refine forall_mem_singleton.2 ⟨not_mem_colon_dotted high low, ?_⟩
    exact ne_nil_of_mem (mem_dot_dotted high low)

theorem Spells.nil_iff (h : Spells groups texts) : groups = [] ↔ texts = [] := by
  cases h <;> simp

theorem Spells.singleton (h : Spells groups [text]) :
    (∃ group, groups = [group] ∧ IsGroup group text) ∨
      ∃ high low, groups = [high, low] ∧ text = IpAddress.dotted high low := by
  generalize htexts : [text] = texts at h
  cases h with
  | nil => cases htexts
  | @group group groups first texts hgroup hrest =>
    obtain ⟨rfl, rfl⟩ := cons.inj htexts
    exact .inl ⟨group, by rw [hrest.nil_iff.2 rfl], hgroup⟩
  | dotted high low => exact .inr ⟨high, low, rfl, (cons.inj htexts).1⟩

theorem Spells.two {second : JsString} (h : Spells groups [text, second]) :
    ∃ group rest, groups = group :: rest ∧ IsGroup group text ∧ Spells rest [second] := by
  generalize htexts : [text, second] = texts at h
  cases h with
  | nil => cases htexts
  | @group group groups first texts hgroup hrest =>
    obtain ⟨rfl, rfl⟩ := cons.inj htexts
    exact ⟨group, groups, rfl, hgroup, hrest⟩
  | dotted => cases (cons.inj htexts).2

theorem Spells.countGroups_eq (h : Spells groups texts) (hne : texts ≠ []) :
    countGroups texts = some groups.length := by
  induction h with
  | nil => exact absurd rfl hne
  | @group group groups text texts hgroup hrest ih =>
    cases texts with
    | nil =>
      rw [hrest.nil_iff.2 rfl, countGroups, if_pos hgroup.isGroupText]
      rfl
    | cons text' texts =>
      rw [countGroups, if_pos hgroup.isGroupText, ih (by simp)]
      rfl
  | dotted high low =>
    rw [countGroups, if_neg (by simp [not_isGroupText_dotted]), if_pos (isIPv4_dotted high low)]
    rfl

theorem split_join_spells (h : Spells groups texts) :
    split colon (join [colon] texts) = if texts = [] then [[]] else texts := by
  split
  · next hnil => simp [hnil, join, split]
  · next hne => exact split_join hne fun text htext => (h.parts text htext).1

theorem split_compressed {before after : List UInt16} {beforeTexts afterTexts : List JsString}
    (hbefore : List.Forall₂ IsGroup before beforeTexts) (hafter : Spells after afterTexts) :
    split colon (join [colon] beforeTexts ++ colon :: colon :: join [colon] afterTexts) =
      (if beforeTexts = [] then [[]] else beforeTexts) ++
        [] :: (if afterTexts = [] then [[]] else afterTexts) := by
  have hempty := split_append_separator colon [] (join [colon] afterTexts)
  rw [nil_append] at hempty
  rw [split_append_separator, hempty, split_join_spells (spells_of_forall₂ hbefore),
    split_join_spells hafter]
  rfl

theorem countAfter_eq (h : Spells groups texts) :
    countAfter (if texts = [] then [[]] else texts) = some groups.length := by
  split
  · next hnil => simp [countAfter, h.nil_iff.2 hnil]
  · next hne =>
    have hnil : texts ≠ [[]] := by
      rintro rfl
      exact (h.parts [] (by simp)).2 rfl
    rw [countAfter, if_neg hnil, h.countGroups_eq hne]

theorem takeWhile_parts {parts rest : List JsString} (h : ∀ text ∈ parts, text ≠ []) :
    (parts ++ [] :: rest).takeWhile (· ≠ []) = parts ∧
      (parts ++ [] :: rest).dropWhile (· ≠ []) = [] :: rest := by
  have hparts : ∀ text ∈ parts, decide (text ≠ []) = true := fun text htext =>
    decide_eq_true (h text htext)
  rw [takeWhile_append_of_pos hparts, dropWhile_append_of_pos hparts]
  simp

/-- A text of an address is no dotted quad, since it has a colon. -/
theorem not_isIPv4 (h : colon ∈ text) : isIPv4 text = false := by
  rw [Bool.eq_false_iff]
  intro hquad
  simp only [isIPv4, Bool.and_eq_true, all_eq_true] at hquad
  rcases @mem_split dot _ _ h with hdot | ⟨part, hpart, hcolon⟩
  · exact absurd hdot (by decide)
  · have hoctet := hquad.2 part hpart
    simp only [isOctet, Bool.and_eq_true, decide_eq_true_eq] at hoctet
    rw [hoctet.1] at hcolon
    exact (decimal_octet (by omega)).2.2 hcolon

variable {address : Ipv6}

theorem SpelledBy.mem_colon (h : SpelledBy address text) : colon ∈ text := by
  cases h with
  | @full texts h =>
    obtain ⟨groups, hlength⟩ := address
    obtain ⟨a, b, rest, rfl⟩ : ∃ a b rest, groups = a :: b :: rest := by
      rcases groups with _ | ⟨a, _ | ⟨b, rest⟩⟩
      · cases hlength
      · cases hlength
      · exact ⟨a, b, rest, rfl⟩
    cases h with
    | group hgroup hrest =>
      cases hrest with
      | group => simp [join]
      | dotted => simp [join]
    | dotted => cases hlength
  | compressed => simp

/-- **Every text of an IPv6 address** is recognised. -/
theorem isIP_of_spelledBy (h : SpelledBy address text) : isIP text = 6 := by
  rw [isIP, not_isIPv4 h.mem_colon, if_neg (by decide)]
  refine if_pos ?_
  cases h with
  | @full texts h =>
    have hne : texts ≠ [] := fun hnil => by
      have := h.nil_iff.2 hnil
      have := address.length_eq
      simp_all
    have hparts : ∀ text ∈ texts, decide (text ≠ []) = true := fun text htext =>
      decide_eq_true (h.parts text htext).2
    rw [isIPv6, split_join_spells h, if_neg hne]
    dsimp only
    rw [dropWhile_eq_nil_iff.2 hparts]
    dsimp only
    rw [h.countGroups_eq hne, address.length_eq]
    rfl
  | @compressed before after beforeTexts afterTexts n hbefore hafter hn hgroups =>
    have hlength : before.length + (n + after.length) = 8 := by
      have := address.length_eq
      rw [hgroups] at this
      simpa using this
    have hspells := spells_of_forall₂ hbefore
    have htexts : beforeTexts.all isGroupText = true := by
      clear hspells hgroups hlength
      induction hbefore with
      | nil => rfl
      | cons hgroup _ ih => simp [hgroup.isGroupText, ih]
    have hcount : ((countAfter (if afterTexts = [] then [[]] else afterTexts)).any fun count =>
        beforeTexts.length + count ≤ 7) = true := by
      have hsame := hbefore.length_eq
      rw [countAfter_eq hafter, Option.any_some, decide_eq_true_eq]
      omega
    rw [isIPv6, split_compressed hbefore hafter]
    dsimp only
    by_cases hnil : beforeTexts = []
    · subst hnil
      simpa using hcount
    · obtain ⟨htake, hdrop⟩ := @takeWhile_parts beforeTexts
        (if afterTexts = [] then [[]] else afterTexts)
        (fun text htext => (hspells.parts text htext).2)
      rw [if_neg hnil, htake, hdrop]
      dsimp only
      rw [if_neg hnil, htexts, hcount]
      rfl

end

end IpAddress
