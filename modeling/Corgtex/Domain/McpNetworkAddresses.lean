import Corgtex.Library.IpAddress

/-!
# Network addresses of MCP clients

`isBlockedNetworkAddress` (`mcp-connector.ts:525`) keeps the fetch of a client's
metadata away from loopback and private networks. It looks at the text of an address: an IPv6
address is blocked for how it begins, and an IPv4-mapped one for its dotted quad. An address has
many texts, so the filter may answer differently for two of them. `classified_iff` says for which
addresses it does not, and gives the right answer.
-/

namespace Corgtex.Domain.McpConnector

open IpAddress JsString List

/-! ## The filter -/

/-- `toLowerCase` on a code unit; hostnames are ASCII. -/
def lowerUnit (u : UInt16) : UInt16 := if 0x41 ≤ u && u ≤ 0x5A then u + 0x20 else u

/-- `normalizedHostname` (line 453). -/
def normalizedHostname (hostname : JsString) : JsString :=
  let lower := hostname.map lowerUnit
  let opened := if lower.head? = some 0x5B then lower.tail else lower
  if opened.getLast? = some 0x5D then opened.dropLast else opened

/-- `0` to `9` -/
def isDigit (u : UInt16) : Bool := 0x30 ≤ u && u ≤ 0x39

/-- `Number(part)`, on a part that is an integer from 0 to 255; the parts are digits here. -/
def octet (part : JsString) : Option Nat :=
  if part ≠ [] ∧ part.all isDigit ∧ JsNumber.ofDecimal part ≤ 255 then
    some (JsNumber.ofDecimal part)
  else none

/-- `isBlockedIpv4Address` (line 487). -/
def isBlockedIpv4Address (address : JsString) : Bool :=
  match (split dot address).mapM octet with
  | some [a, b, _, _] =>
    a = 0 || a = 10 || a = 127 || 224 ≤ a || (a = 100 && 64 ≤ b && b ≤ 127) ||
      (a = 169 && b = 254) || (a = 172 && 16 ≤ b && b ≤ 31) || (a = 192 && b = 0) ||
      (a = 192 && b = 168) || (a = 198 && (b = 18 || b = 19))
  | _ => true

/-- `normalized.match(/^::ffff:(\d+\.\d+\.\d+\.\d+)$/i)?.[1]` -/
def mappedIpv4 (normalized : JsString) : Option JsString :=
  let quad := normalized.drop 7
  if lit "::ffff:" <+: normalized ∧ (split dot quad).length = 4 ∧
      (split dot quad).all (fun part => part ≠ [] && part.all isDigit) then some quad
  else none

/-- What a blocked IPv6 address begins with (line 511). -/
def BLOCKED_BEGINNINGS : List JsString :=
  [lit "fe8", lit "fe9", lit "fea", lit "feb", lit "fc", lit "fd"]

/-- `isBlockedIpv6Address` (line 506). -/
def isBlockedIpv6Address (address : JsString) : Bool :=
  let normalized := normalizedHostname address
  if normalized = lit "::" ∨ normalized = lit "::1" ∨
      BLOCKED_BEGINNINGS.any (fun beginning => beginning.isPrefixOf normalized) then true
  else (mappedIpv4 normalized).elim false isBlockedIpv4Address

/-- `isBlockedNetworkAddress` (line 525). -/
def isBlockedNetworkAddress (address : JsString) : Bool :=
  let normalized := normalizedHostname address
  if isIP normalized = 4 then isBlockedIpv4Address normalized
  else if isIP normalized = 6 then isBlockedIpv6Address normalized
  else normalized = lit "localhost" || (lit ".localhost").isSuffixOf normalized

/-! ## What it is for -/

section
variable (address : Ipv6)

/-- A text of an address, which a URL has in brackets. -/
def IsForm (text : JsString) : Prop :=
  ∃ inner, SpelledBy address inner ∧ (text = inner ∨ text = 0x5B :: (inner ++ [0x5D]))

/-- `fe80::/10` -/
def IsLinkLocal : Prop :=
  ∃ group ∈ address.groups.head?, 0xFE80 ≤ group.toNat ∧ group.toNat ≤ 0xFEBF

/-- `fc00::/7` -/
def IsUniqueLocal : Prop :=
  ∃ group ∈ address.groups.head?, 0xFC00 ≤ group.toNat ∧ group.toNat ≤ 0xFDFF

/-- `::` -/
def IsUnspecified : Prop := address.groups = List.replicate 8 0

/-- `::1` -/
def IsLoopback : Prop := address.groups = List.replicate 7 0 ++ [1]

/-- `::ffff:0:0/96`: an embedded IPv4 address. -/
def IsMapped (high low : UInt16) : Prop :=
  address.groups = List.replicate 5 0 ++ [0xFFFF, high, low]

end

/-- The filter gives one answer for all texts of an address, blocks the local addresses, and blocks
an IPv4-mapped address if it blocks the embedded one. -/
structure Classified (address : Ipv6) : Prop where
  same : ∀ text text', IsForm address text → IsForm address text' →
    isBlockedNetworkAddress text = isBlockedNetworkAddress text'
  special : IsLoopback address ∨ IsUnspecified address ∨ IsLinkLocal address ∨
    IsUniqueLocal address → ∀ text, IsForm address text → isBlockedNetworkAddress text = true
  mapped : ∀ high low, IsMapped address high low → ∀ text, IsForm address text →
    isBlockedNetworkAddress text = isBlockedNetworkAddress (dotted high low)

/-- A first group with fewer than four digits that begins like a blocked one. -/
def IsShortBeginning (group : UInt16) : Prop :=
  group.toNat = 0xFC ∨ group.toNat = 0xFD ∨ (0xFC0 ≤ group.toNat ∧ group.toNat ≤ 0xFDF) ∨
    (0xFE8 ≤ group.toNat ∧ group.toNat ≤ 0xFEB)

/-- The addresses that the filter classifies. -/
structure IsCovered (address : Ipv6) : Prop where
  notUnspecified : ¬ IsUnspecified address
  notLoopback : ¬ IsLoopback address
  notShort : ∀ group ∈ address.groups.head?, ¬ IsShortBeginning group
  mapped : ∀ high low, IsMapped address high low → isBlockedIpv4Address (dotted high low) = false

/-! ## Lower case -/

section
variable {address : Ipv6} {group : UInt16} {groups : List UInt16} {text : JsString}
  {texts : List JsString} {u : UInt16}

theorem isHexDigit_cases (h : isHexDigit u) :
    (0x30 ≤ u.toNat ∧ u.toNat ≤ 0x39) ∨ (0x41 ≤ u.toNat ∧ u.toNat ≤ 0x46) ∨
      (0x61 ≤ u.toNat ∧ u.toNat ≤ 0x66) := by
  simpa [isHexDigit, UInt16.le_iff_toNat_le, or_assoc] using h

theorem toNat_lowerUnit (h : isHexDigit u) :
    (lowerUnit u).toNat = if 0x41 ≤ u.toNat ∧ u.toNat ≤ 0x46 then u.toNat + 0x20 else u.toNat := by
  have hcases := isHexDigit_cases h
  simp only [lowerUnit, Bool.and_eq_true, decide_eq_true_eq, UInt16.le_iff_toNat_le,
    UInt16.reduceToNat]
  split
  · rw [if_pos (by omega), UInt16.toNat_add]
    simp only [UInt16.reduceToNat]
    omega
  · rw [if_neg (by omega)]

theorem isHexDigit_lowerUnit (h : isHexDigit u) : isHexDigit (lowerUnit u) := by
  have hcases := isHexDigit_cases h
  have hlower := toNat_lowerUnit h
  simp only [isHexDigit, Bool.or_eq_true, Bool.and_eq_true, decide_eq_true_eq,
    UInt16.le_iff_toNat_le, UInt16.reduceToNat]
  split at hlower <;> omega

/-- The value of a hexadecimal digit. -/
theorem hexValue_eq (u : UInt16) : Json.hexValue u =
    if u.toNat ≤ 0x39 then u.toNat - 0x30 else if u.toNat ≤ 0x46 then u.toNat - 0x37
      else u.toNat - 0x57 := by
  simp only [Json.hexValue, UInt16.le_iff_toNat_le, UInt16.reduceToNat]

theorem hexValue_lowerUnit (h : isHexDigit u) : Json.hexValue (lowerUnit u) = Json.hexValue u := by
  have hlower := toNat_lowerUnit h
  rw [hexValue_eq, hexValue_eq, hlower]
  rcases isHexDigit_cases h with hu | hu | hu
  · rw [if_neg (by omega : ¬ (0x41 ≤ u.toNat ∧ u.toNat ≤ 0x46))]
  · rw [if_pos hu, if_neg (by omega), if_neg (by omega), if_neg (by omega), if_pos hu.2]
    omega
  · rw [if_neg (by omega : ¬ (0x41 ≤ u.toNat ∧ u.toNat ≤ 0x46))]

theorem IsGroup.lower (h : IsGroup group text) : IsGroup group (text.map lowerUnit) := by
  have hvalue : hexNumber (text.map lowerUnit) = hexNumber text := by
    have hdigits := h.digits
    unfold hexNumber
    generalize 0 = n
    clear h
    induction text generalizing n with
    | nil => rfl
    | cons u text ih =>
      obtain ⟨hu, htext⟩ := forall_mem_cons.1 hdigits
      rw [map_cons, foldl_cons, foldl_cons, hexValue_lowerUnit hu, ih htext]
  refine ⟨by simpa using h.ne_nil, by simpa using h.length_le, ?_, hvalue.trans h.value⟩
  intro u hu
  obtain ⟨v, hv, rfl⟩ := mem_map.1 hu
  exact isHexDigit_lowerUnit (h.digits v hv)

theorem map_dotted (high low : UInt16) : (dotted high low).map lowerUnit = dotted high low := by
  have hoctet : ∀ n < 256, (JsNumber.decimal n).map lowerUnit = JsNumber.decimal n := by
    have hall : ∀ n : Fin 256, (JsNumber.decimal n).map lowerUnit = JsNumber.decimal n := by
      decide +kernel
    exact fun n hn => hall ⟨n, hn⟩
  have hhigh : high.toNat < 65536 := high.toNat_lt
  have hlow : low.toNat < 65536 := low.toNat_lt
  rw [dotted, map_join]
  simp only [map_cons, map_nil]
  rw [hoctet _ (by omega), hoctet _ (by omega), hoctet _ (by omega), hoctet _ (by omega)]
  rfl

theorem Spells.lower (h : Spells groups texts) :
    Spells groups (texts.map (List.map lowerUnit)) := by
  induction h with
  | nil => exact .nil
  | group hgroup _ ih => exact .group (IsGroup.lower hgroup) ih
  | dotted high low =>
    rw [map_singleton, map_dotted]
    exact .dotted high low

theorem SpelledBy.lower (h : SpelledBy address text) : SpelledBy address (text.map lowerUnit) := by
  cases h with
  | full h =>
    rw [map_join]
    exact .full (Spells.lower h)
  | @compressed before after beforeTexts afterTexts n hbefore hafter hn hgroups =>
    have hlower : List.Forall₂ IsGroup before (beforeTexts.map (map lowerUnit)) := by
      rw [forall₂_map_right_iff]
      exact hbefore.imp fun _ _ => IsGroup.lower
    rw [map_append, map_cons, map_cons, map_join, map_join]
    exact .compressed hlower (Spells.lower hafter) hn hgroups

/-! ## The characters of an address -/

/-- What may stand in the text of an address. -/
def isAddressUnit (u : UInt16) : Bool := isHexDigit u || u = colon || u = dot

theorem isAddressUnit_join {separator : UInt16} (hseparator : isAddressUnit separator)
    (h : ∀ text ∈ texts, ∀ u ∈ text, isAddressUnit u) :
    ∀ u ∈ join [separator] texts, isAddressUnit u := by
  induction texts with
  | nil => simp [join]
  | cons text texts ih =>
    obtain ⟨htext, htexts⟩ := forall_mem_cons.1 h
    cases texts with
    | nil => exact htext
    | cons text' texts =>
      rw [join_cons_cons, forall_mem_append, forall_mem_append]
      exact ⟨⟨htext, forall_mem_singleton.2 hseparator⟩, ih htexts⟩

theorem isAddressUnit_dotted (high low : UInt16) : ∀ u ∈ dotted high low, isAddressUnit u := by
  have hoctet : ∀ n < 256, (JsNumber.decimal n).all isAddressUnit := by
    have hall : ∀ n : Fin 256, (JsNumber.decimal n).all isAddressUnit := by decide +kernel
    exact fun n hn => hall ⟨n, hn⟩
  have hhigh : high.toNat < 65536 := high.toNat_lt
  have hlow : low.toNat < 65536 := low.toNat_lt
  refine isAddressUnit_join (by decide) ?_
  simp only [forall_mem_cons]
  exact ⟨all_eq_true.1 (hoctet _ (by omega)), all_eq_true.1 (hoctet _ (by omega)),
    all_eq_true.1 (hoctet _ (by omega)), all_eq_true.1 (hoctet _ (by omega)), by simp⟩

theorem isAddressUnit_spells (h : Spells groups texts) :
    ∀ text ∈ texts, ∀ u ∈ text, isAddressUnit u := by
  induction h with
  | nil => simp
  | group hgroup _ ih =>
    refine forall_mem_cons.2 ⟨fun u hu => ?_, ih⟩
    simp [isAddressUnit, hgroup.digits u hu]
  | dotted high low => exact forall_mem_singleton.2 (isAddressUnit_dotted high low)

theorem isAddressUnit_spelledBy (h : SpelledBy address text) : ∀ u ∈ text, isAddressUnit u := by
  cases h with
  | full h => exact isAddressUnit_join (by decide) (isAddressUnit_spells h)
  | compressed hbefore hafter =>
    simp only [forall_mem_append, forall_mem_cons]
    exact ⟨isAddressUnit_join (by decide) (isAddressUnit_spells (spells_of_forall₂ hbefore)),
      by decide, by decide, isAddressUnit_join (by decide) (isAddressUnit_spells hafter)⟩

/-- Brackets are taken off, and nothing else. -/
theorem normalizedHostname_plain (h : ∀ u ∈ text, isAddressUnit u)
    (hlower : text.map lowerUnit = text) : normalizedHostname text = text ∧
      normalizedHostname (0x5B :: (text ++ [0x5D])) = text := by
  have hopen : text.head? ≠ some 0x5B := fun hu =>
    absurd (h _ (mem_of_mem_head? hu)) (by decide)
  have hclose : text.getLast? ≠ some 0x5D := fun hu =>
    absurd (h _ (mem_of_mem_getLast? hu)) (by decide)
  constructor
  · rw [normalizedHostname, hlower, if_neg hopen, if_neg hclose]
  · have hbrackets : (0x5B :: (text ++ [0x5D])).map lowerUnit = 0x5B :: (text ++ [0x5D]) := by
      rw [map_cons, map_append, hlower]
      rfl
    rw [normalizedHostname, hbrackets, head?_cons, if_pos rfl, tail_cons,
      getLast?_concat, if_pos rfl, dropLast_concat]

/-! ## Normalized texts -/

/-- `isBlockedIpv6Address` after normalization. -/
def isBlockedText (normalized : JsString) : Bool :=
  if normalized = lit "::" ∨ normalized = lit "::1" ∨
      BLOCKED_BEGINNINGS.any (fun beginning => beginning.isPrefixOf normalized) then true
  else (mappedIpv4 normalized).elim false isBlockedIpv4Address

/-- A text of an address in lower case. -/
structure IsNormalized (address : Ipv6) (text : JsString) : Prop where
  spelled : SpelledBy address text
  lower : text.map lowerUnit = text

theorem IsNormalized.isBlocked (h : IsNormalized address text) :
    isBlockedNetworkAddress text = isBlockedText text ∧
      isBlockedNetworkAddress (0x5B :: (text ++ [0x5D])) = isBlockedText text := by
  obtain ⟨hplain, hbrackets⟩ := normalizedHostname_plain (isAddressUnit_spelledBy h.spelled) h.lower
  have hsix := isIP_of_spelledBy h.spelled
  constructor
  · rw [isBlockedNetworkAddress, hplain, hsix, if_neg (by decide), if_pos rfl,
      isBlockedIpv6Address, hplain, isBlockedText]
  · rw [isBlockedNetworkAddress, hbrackets, hsix, if_neg (by decide), if_pos rfl,
      isBlockedIpv6Address, hplain, isBlockedText]

theorem map_lowerUnit_idem (h : ∀ u ∈ text, isAddressUnit u) :
    (text.map lowerUnit).map lowerUnit = text.map lowerUnit := by
  rw [map_map]
  refine map_congr_left fun u hu => ?_
  have hu' := h u hu
  simp only [isAddressUnit, Bool.or_eq_true, decide_eq_true_eq] at hu'
  rcases hu' with (hdigit | rfl) | rfl
  · have hlower := toNat_lowerUnit hdigit
    refine UInt16.toNat_inj.1 ?_
    rw [Function.comp_apply, toNat_lowerUnit (isHexDigit_lowerUnit hdigit), hlower]
    have := isHexDigit_cases hdigit
    split_ifs <;> omega
  · decide
  · decide

theorem normalizedHostname_map (text : JsString)
    (h : ∀ u ∈ text, isAddressUnit u) :
    isBlockedNetworkAddress text = isBlockedNetworkAddress (text.map lowerUnit) ∧
      isBlockedNetworkAddress (0x5B :: (text ++ [0x5D])) =
        isBlockedNetworkAddress (0x5B :: (text.map lowerUnit ++ [0x5D])) := by
  have hidem := map_lowerUnit_idem h
  have hplain : normalizedHostname (text.map lowerUnit) = normalizedHostname text := by
    rw [normalizedHostname, hidem, normalizedHostname]
  have hbrackets : normalizedHostname (0x5B :: (text.map lowerUnit ++ [0x5D])) =
      normalizedHostname (0x5B :: (text ++ [0x5D])) := by
    have hsame : (0x5B :: (text.map lowerUnit ++ [0x5D])).map lowerUnit =
        (0x5B :: (text ++ [0x5D])).map lowerUnit := by
      simp only [map_cons, map_append, hidem]
    rw [normalizedHostname, hsame, normalizedHostname]
  constructor
  · rw [isBlockedNetworkAddress, isBlockedNetworkAddress, hplain]
  · rw [isBlockedNetworkAddress, isBlockedNetworkAddress, hbrackets]

/-- **A text of an address** is blocked as its normalized text is. -/
theorem IsForm.isBlocked (h : IsForm address text) : ∃ normalized,
    IsNormalized address normalized ∧ isBlockedNetworkAddress text = isBlockedText normalized := by
  obtain ⟨inner, hinner, htext⟩ := h
  have hunits := isAddressUnit_spelledBy hinner
  have hnormalized : IsNormalized address (inner.map lowerUnit) :=
    ⟨SpelledBy.lower hinner, map_lowerUnit_idem hunits⟩
  refine ⟨_, hnormalized, ?_⟩
  obtain ⟨hplain, hbrackets⟩ := normalizedHostname_map inner hunits
  rcases htext with rfl | rfl
  · rw [hplain, hnormalized.isBlocked.1]
  · rw [hbrackets, hnormalized.isBlocked.2]

theorem isBlocked_dotted (high low : UInt16) :
    isBlockedNetworkAddress (dotted high low) = isBlockedIpv4Address (dotted high low) := by
  have hplain := (normalizedHostname_plain (isAddressUnit_dotted high low) (map_dotted high low)).1
  rw [isBlockedNetworkAddress, hplain, isIP, isIPv4_dotted, if_pos rfl, if_pos rfl]

/-! ## How a text begins -/

theorem SpelledBy.beginning (h : SpelledBy address text) :
    (∃ group first rest, address.groups.head? = some group ∧ IsGroup group first ∧
      text = first ++ rest ∧ ∀ u ∈ rest.head?, u = colon) ∨
    (address.groups.head? = some 0 ∧ text.head? = some colon) := by
  obtain ⟨groups, hlength⟩ := address
  cases h with
  | full h =>
    cases h with
    | nil => cases hlength
    | dotted => cases hlength
    | @group group groups first texts hgroup hrest =>
      cases texts with
      | nil => exact .inl ⟨group, first, [], rfl, hgroup, by simp [join], by simp⟩
      | cons second texts =>
        refine .inl ⟨group, first, colon :: join [colon] (second :: texts), rfl, hgroup, ?_, ?_⟩
        · rw [join_cons_cons, append_assoc, singleton_append]
        · intro u hu
          cases hu
          rfl
  | @compressed before after beforeTexts afterTexts n hbefore hafter hn hgroups =>
    cases hbefore with
    | nil =>
      refine .inr ⟨?_, rfl⟩
      obtain ⟨m, rfl⟩ : ∃ m, n = m + 1 := ⟨n - 1, by omega⟩
      subst hgroups
      rfl
    | @cons group first before beforeTexts hgroup hrest =>
      subst hgroups
      cases beforeTexts with
      | nil =>
        refine .inl ⟨group, first, colon :: colon :: join [colon] afterTexts, rfl, hgroup, rfl, ?_⟩
        intro u hu
        cases hu
        rfl
      | cons second beforeTexts =>
        refine .inl ⟨group, first, colon :: (join [colon] (second :: beforeTexts) ++
          colon :: colon :: join [colon] afterTexts), rfl, hgroup, ?_, ?_⟩
        · rw [join_cons_cons]
          simp only [append_assoc, cons_append, nil_append]
        · intro u hu
          cases hu
          rfl

theorem prefix_first {beginning first rest : JsString} (hcolon : colon ∉ beginning)
    (hrest : ∀ u ∈ rest.head?, u = colon) : beginning <+: first ++ rest ↔ beginning <+: first := by
  refine ⟨fun h => ?_, fun h => h.trans (prefix_append first rest)⟩
  rcases prefix_or_prefix_of_prefix h (prefix_append first rest) with h | h
  · exact h
  · obtain ⟨more, rfl⟩ := h
    cases more with
    | nil => simp
    | cons u more =>
      rw [prefix_append_right_inj] at h
      obtain ⟨tail, htail⟩ := h
      cases rest with
      | nil => cases htail
      | cons v rest =>
        cases htail
        exact absurd (hrest u rfl ▸ (by simp : u ∈ first ++ u :: more)) hcolon

/-! ## First groups -/

theorem hexValue_lt (h : isHexDigit u) : Json.hexValue u < 16 := by
  have hcases := isHexDigit_cases h
  rw [hexValue_eq]
  split_ifs <;> omega

theorem hexNumber_append (front back : JsString) :
    hexNumber (front ++ back) = hexNumber front * 16 ^ back.length + hexNumber back := by
  have hfold : ∀ (n : Nat), back.foldl (fun n u => n * 16 + Json.hexValue u) n =
      n * 16 ^ back.length + hexNumber back := by
    unfold hexNumber
    induction back with
    | nil => simp
    | cons u back ih =>
      intro n
      rw [foldl_cons, foldl_cons, ih, ih (0 * 16 + Json.hexValue u), length_cons, Nat.pow_succ]
      ring
  rw [← hfold, hexNumber, foldl_append]
  rfl

theorem hexNumber_lt (h : ∀ u ∈ text, isHexDigit u) : hexNumber text < 16 ^ text.length := by
  induction text using reverseRecOn with
  | nil => decide
  | append_singleton text u ih =>
    rw [forall_mem_append, forall_mem_singleton] at h
    have hu := hexValue_lt h.2
    have htext := ih h.1
    rw [hexNumber_append, length_append, length_singleton, Nat.pow_add, Nat.pow_one]
    have hone : hexNumber [u] = Json.hexValue u := by simp [hexNumber]
    omega

theorem blocked_beginnings : BLOCKED_BEGINNINGS =
    [[0x66, 0x65, 0x38], [0x66, 0x65, 0x39], [0x66, 0x65, 0x61], [0x66, 0x65, 0x62],
      [0x66, 0x63], [0x66, 0x64]] := by decide

/-- A group that is link-local or unique-local. -/
def IsLocalGroup (group : UInt16) : Prop :=
  (0xFE80 ≤ group.toNat ∧ group.toNat ≤ 0xFEBF) ∨ (0xFC00 ≤ group.toNat ∧ group.toNat ≤ 0xFDFF)

theorem isLocalGroup_or_short {beginning : JsString} (h : IsGroup group text)
    (hmem : beginning ∈ BLOCKED_BEGINNINGS) (hbegins : beginning <+: text) :
    IsLocalGroup group ∨ IsShortBeginning group := by
  obtain ⟨more, rfl⟩ := hbegins
  have hlength := h.length_le
  have hvalue := h.value
  have hmore := hexNumber_lt fun u hu => h.digits u (mem_append_right beginning hu)
  rw [hexNumber_append] at hvalue
  rw [length_append] at hlength
  generalize hexNumber more = rest at hvalue hmore
  generalize more.length = k at hvalue hmore hlength
  have hk : k ≤ 2 := by
    rw [blocked_beginnings] at hmem
    simp only [mem_cons, not_mem_nil, or_false] at hmem
    rcases hmem with rfl | rfl | rfl | rfl | rfl | rfl <;>
      simp only [length_cons, length_nil] at hlength <;> omega
  unfold IsLocalGroup IsShortBeginning
  rw [← hvalue]
  have hnumbers : ∀ b ∈ BLOCKED_BEGINNINGS, (b.length = 3 ∧ 0xFE8 ≤ hexNumber b ∧
      hexNumber b ≤ 0xFEB) ∨ (b.length = 2 ∧ 0xFC ≤ hexNumber b ∧ hexNumber b ≤ 0xFD) := by
    rw [blocked_beginnings]
    simp only [forall_mem_cons]
    exact ⟨by decide, by decide, by decide, by decide, by decide, by decide, by simp⟩
  rcases hnumbers beginning hmem with ⟨hthree, hlow, hhigh⟩ | ⟨htwo, hlow, hhigh⟩
  · have hcases : k = 0 ∨ k = 1 := by omega
    rcases hcases with rfl | rfl <;> omega
  · have hcases : k = 0 ∨ k = 1 ∨ k = 2 := by omega
    rcases hcases with rfl | rfl | rfl <;> omega

theorem toNat_of_lower (h : isHexDigit u) (hlower : lowerUnit u = u) :
    u.toNat = if Json.hexValue u < 10 then 0x30 + Json.hexValue u else 0x57 + Json.hexValue u := by
  have hcases := isHexDigit_cases h
  have hsame := toNat_lowerUnit h
  rw [hlower] at hsame
  rw [hexValue_eq]
  split_ifs at hsame ⊢ <;> omega

theorem begins_of_isLocalGroup (h : IsGroup group text) (hlower : text.map lowerUnit = text)
    (hlocal : IsLocalGroup group) : ∃ beginning ∈ BLOCKED_BEGINNINGS, beginning <+: text := by
  have hvalue := h.value
  have hlt := hexNumber_lt h.digits
  have hlength : text.length = 4 := by
    have hle := h.length_le
    unfold IsLocalGroup at hlocal
    by_contra hne
    have hpow : 16 ^ text.length ≤ 16 ^ 3 := Nat.pow_le_pow_right (by decide) (by omega)
    omega
  obtain ⟨a, b, c, d, rfl⟩ : ∃ a b c d, text = [a, b, c, d] := by
    rcases text with _ | ⟨a, _ | ⟨b, _ | ⟨c, _ | ⟨d, _ | ⟨e, rest⟩⟩⟩⟩⟩
    all_goals first
      | exact ⟨a, b, c, d, rfl⟩
      | simp at hlength
  have hdigits := h.digits
  simp only [forall_mem_cons] at hdigits
  obtain ⟨ha, hb, hc, hd, -⟩ := hdigits
  simp only [map_cons, map_nil, cons.injEq, and_true] at hlower
  obtain ⟨hla, hlb, hlc, -⟩ := hlower
  have hva := toNat_of_lower ha hla
  have hvb := toNat_of_lower hb hlb
  have hvc := toNat_of_lower hc hlc
  have hnumber : hexNumber [a, b, c, d] = ((Json.hexValue a * 16 + Json.hexValue b) * 16 +
      Json.hexValue c) * 16 + Json.hexValue d := by
    simp [hexNumber]
  rw [hnumber] at hvalue
  have hxa := hexValue_lt ha
  have hxb := hexValue_lt hb
  have hxc := hexValue_lt hc
  have hxd := hexValue_lt hd
  generalize Json.hexValue a = xa at *
  generalize Json.hexValue b = xb at *
  generalize Json.hexValue c = xc at *
  generalize Json.hexValue d = xd at *
  unfold IsLocalGroup at hlocal
  have hfirst : a = 0x66 := by
    have : xa = 15 := by omega
    rw [this] at hva
    exact UInt16.toNat_inj.1 hva
  subst hfirst
  have hsecond : xb = 12 ∨ xb = 13 ∨ (xb = 14 ∧ 8 ≤ xc ∧ xc ≤ 11) := by omega
  rw [blocked_beginnings]
  rcases hsecond with rfl | rfl | ⟨rfl, hlow, hhigh⟩
  · obtain rfl : b = 0x63 := UInt16.toNat_inj.1 hvb
    exact ⟨[0x66, 0x63], by simp, [c, d], rfl⟩
  · obtain rfl : b = 0x64 := UInt16.toNat_inj.1 hvb
    exact ⟨[0x66, 0x64], by simp, [c, d], rfl⟩
  · obtain rfl : b = 0x65 := UInt16.toNat_inj.1 hvb
    have hthird : c = 0x38 ∨ c = 0x39 ∨ c = 0x61 ∨ c = 0x62 := by
      simp only [← UInt16.toNat_inj, UInt16.reduceToNat]
      split_ifs at hvc <;> omega
    rcases hthird with rfl | rfl | rfl | rfl
    · exact ⟨[0x66, 0x65, 0x38], by simp, [d], rfl⟩
    · exact ⟨[0x66, 0x65, 0x39], by simp, [d], rfl⟩
    · exact ⟨[0x66, 0x65, 0x61], by simp, [d], rfl⟩
    · exact ⟨[0x66, 0x65, 0x62], by simp, [d], rfl⟩

/-! ## Short texts and dotted quads -/

theorem groups_of_split {parts : List JsString} (h : SpelledBy address text)
    (hsplit : split colon text = [] :: [] :: parts) :
    ∃ after afterTexts n, Spells after afterTexts ∧
      parts = (if afterTexts = [] then [[]] else afterTexts) ∧
      address.groups = List.replicate n 0 ++ after := by
  cases h with
  | @full texts h =>
    rw [split_join_spells h] at hsplit
    split at hsplit
    · cases hsplit
    · exact absurd rfl (h.parts [] (by simp [hsplit])).2
  | @compressed before after beforeTexts afterTexts n hbefore hafter hn hgroups =>
    rw [split_compressed hbefore hafter] at hsplit
    cases hbefore with
    | nil =>
      simp only [if_pos, singleton_append, cons.injEq, true_and] at hsplit
      exact ⟨after, afterTexts, n, hafter, hsplit.symm, hgroups⟩
    | cons hgroup =>
      simp only [cons_append, if_neg (cons_ne_nil _ _), cons.injEq] at hsplit
      exact absurd hsplit.1 hgroup.ne_nil

/-- Eight groups that begin with zeros. -/
theorem replicate_eq {n m : Nat} {after : List UInt16}
    (h : address.groups = List.replicate n 0 ++ after) (hm : m + after.length = 8) :
    address.groups = List.replicate m 0 ++ after := by
  have hlength := address.length_eq
  rw [h, length_append, length_replicate] at hlength
  obtain rfl : n = m := by omega
  exact h

theorem isUnspecified_of_text (h : SpelledBy address (lit "::")) : IsUnspecified address := by
  obtain ⟨after, afterTexts, n, hafter, hparts, hgroups⟩ :=
    groups_of_split h (by decide : split colon (lit "::") = [[], [], []])
  have hnil : afterTexts = [] := by
    by_contra hne
    rw [if_neg hne] at hparts
    exact (hafter.parts [] (by simp [← hparts])).2 rfl
  obtain rfl := hafter.nil_iff.2 hnil
  have := replicate_eq (m := 8) hgroups rfl
  rwa [append_nil] at this

theorem isLoopback_of_text (h : SpelledBy address (lit "::1")) : IsLoopback address := by
  obtain ⟨after, afterTexts, n, hafter, hparts, hgroups⟩ :=
    groups_of_split h (by decide : split colon (lit "::1") = [[], [], [0x31]])
  have htexts : afterTexts = [[0x31]] := by
    split at hparts
    · cases hparts
    · exact hparts.symm
  subst htexts
  rcases hafter.singleton with ⟨group, rfl, hgroup⟩ | ⟨high, low, -, hdotted⟩
  · have hone : (1 : UInt16) = group := UInt16.toNat_inj.1 hgroup.value
    rw [IsLoopback, hone]
    exact replicate_eq hgroups rfl
  · have hdot := mem_dot_dotted high low
    rw [← hdotted] at hdot
    exact absurd hdot (by decide)

theorem isMapped_of_mappedIpv4 {quad : JsString} (h : SpelledBy address text)
    (hquad : mappedIpv4 text = some quad) :
    ∃ high low, IsMapped address high low ∧ quad = dotted high low := by
  unfold mappedIpv4 at hquad
  dsimp only at hquad
  split at hquad
  · next hmatch =>
    cases hquad
    obtain ⟨⟨rest, rfl⟩, hfour, hdigits⟩ := hmatch
    have hdrop : (lit "::ffff:" ++ rest).drop 7 = rest := drop_left' (by decide)
    rw [hdrop] at hfour hdigits ⊢
    have hcolon : colon ∉ rest := by
      intro hmem
      rcases @mem_split dot _ _ hmem with he | ⟨part, hpart, hmem⟩
      · exact absurd he (by decide)
      · have hpart := all_eq_true.1 hdigits part hpart
        simp only [Bool.and_eq_true, all_eq_true] at hpart
        exact absurd (hpart.2 colon hmem) (by decide)
    have hdot : dot ∈ rest := by
      by_contra hmem
      rw [split_self hmem] at hfour
      cases hfour
    have hsplit : split colon (lit "::ffff:" ++ rest) =
        [] :: [] :: [[0x66, 0x66, 0x66, 0x66], rest] := by
      have hbeginning : lit "::ffff:" = [colon, colon, 0x66, 0x66, 0x66, 0x66, colon] := by decide
      have htext : lit "::ffff:" ++ rest = [] ++ colon :: ([] ++ colon ::
          ([0x66, 0x66, 0x66, 0x66] ++ colon :: rest)) := by
        rw [hbeginning]
        rfl
      rw [htext, split_append (by simp), split_append (by simp), split_append (by decide),
        split_self hcolon]
    obtain ⟨after, afterTexts, n, hafter, hparts, hgroups⟩ := groups_of_split h hsplit
    have htexts : afterTexts = [[0x66, 0x66, 0x66, 0x66], rest] := by
      split at hparts
      · cases hparts
      · exact hparts.symm
    subst htexts
    obtain ⟨group, groups, rfl, hgroup, hrest⟩ := hafter.two
    have hffff : (0xFFFF : UInt16) = group := UInt16.toNat_inj.1 hgroup.value
    rcases hrest.singleton with ⟨last, rfl, hlast⟩ | ⟨high, low, rfl, rfl⟩
    · exact absurd hdot hlast.not_mem_dot
    · refine ⟨high, low, ?_, rfl⟩
      rw [IsMapped, hffff]
      exact replicate_eq hgroups rfl
  · cases hquad

/-! ## Addresses that are covered -/

theorem isBlockedText_of_begins {beginning : JsString} (hmem : beginning ∈ BLOCKED_BEGINNINGS)
    (hbegins : beginning <+: text) : isBlockedText text = true := by
  refine if_pos (.inr (.inr (any_eq_true.2 ⟨beginning, hmem, ?_⟩)))
  exact isPrefixOf_iff_prefix.2 hbegins

theorem colon_not_mem_beginnings : ∀ beginning ∈ BLOCKED_BEGINNINGS, colon ∉ beginning := by
  rw [blocked_beginnings]
  simp only [forall_mem_cons]
  exact ⟨by decide, by decide, by decide, by decide, by decide, by decide, by simp⟩

theorem isBlockedText_of_isLocalGroup (h : IsNormalized address text)
    (hgroup : group ∈ address.groups.head?) (hlocal : IsLocalGroup group) :
    isBlockedText text = true := by
  rcases SpelledBy.beginning h.spelled with ⟨group', first, rest, hhead, hfirst, rfl, -⟩ |
    ⟨hhead, -⟩
  · obtain rfl : group = group' := Option.some.inj (hgroup.symm.trans hhead)
    have hlower := h.lower
    rw [map_append] at hlower
    have hfirstLower := (append_inj hlower (by simp)).1
    obtain ⟨beginning, hmem, hbegins⟩ := begins_of_isLocalGroup hfirst hfirstLower hlocal
    exact isBlockedText_of_begins hmem (hbegins.trans (prefix_append first rest))
  · obtain rfl : group = 0 := Option.some.inj (hgroup.symm.trans hhead)
    unfold IsLocalGroup at hlocal
    simp only [UInt16.reduceToNat] at hlocal
    omega

theorem isBlockedText_eq_false (h : IsNormalized address text) (hcovered : IsCovered address)
    (hlocal : ∀ group ∈ address.groups.head?, ¬ IsLocalGroup group) :
    isBlockedText text = false := by
  have hzero : text ≠ lit "::" := by
    rintro rfl
    exact hcovered.notUnspecified (isUnspecified_of_text h.spelled)
  have hone : text ≠ lit "::1" := by
    rintro rfl
    exact hcovered.notLoopback (isLoopback_of_text h.spelled)
  have hbegins : ∀ beginning ∈ BLOCKED_BEGINNINGS, ¬ beginning <+: text := by
    intro beginning hmem hbegins
    have hcolon := colon_not_mem_beginnings beginning hmem
    rcases SpelledBy.beginning h.spelled with ⟨group, first, rest, hhead, hfirst, rfl, hrest⟩ |
      ⟨-, hhead⟩
    · have hfirstBegins := (prefix_first hcolon hrest).1 hbegins
      rcases isLocalGroup_or_short hfirst hmem hfirstBegins with hgroup | hgroup
      · exact hlocal group hhead hgroup
      · exact hcovered.notShort group hhead hgroup
    · obtain ⟨rest, rfl⟩ := hbegins
      cases beginning with
      | nil => exact absurd hmem (by decide)
      | cons u beginning =>
        cases hhead
        exact hcolon (by simp)
  have hany : ¬ (BLOCKED_BEGINNINGS.any fun beginning => beginning.isPrefixOf text) = true := by
    intro hany
    obtain ⟨beginning, hmem, hprefixes⟩ := any_eq_true.1 hany
    exact hbegins beginning hmem ( isPrefixOf_iff_prefix.1 hprefixes)
  rw [isBlockedText, if_neg (not_or.2 ⟨hzero, not_or.2 ⟨hone, hany⟩⟩)]
  cases hquad : mappedIpv4 text with
  | none => rfl
  | some quad =>
    obtain ⟨high, low, hmapped, rfl⟩ := isMapped_of_mappedIpv4 h.spelled hquad
    exact hcovered.mapped high low hmapped

/-! ## Addresses that are not -/

/-- A group in four digits. -/
def hex4 (group : UInt16) : JsString :=
  [Json.hexDigit (group.toNat / 0x1000), Json.hexDigit (group.toNat / 0x100 % 16),
    Json.hexDigit (group.toNat / 0x10 % 16), Json.hexDigit (group.toNat % 16)]

theorem hexDigit_spec {n : Nat} (h : n < 16) : isHexDigit (Json.hexDigit n) = true ∧
    Json.hexValue (Json.hexDigit n) = n ∧ lowerUnit (Json.hexDigit n) = Json.hexDigit n := by
  have hall : ∀ m : Fin 16, isHexDigit (Json.hexDigit m) = true ∧
      Json.hexValue (Json.hexDigit m) = m ∧ lowerUnit (Json.hexDigit m) = Json.hexDigit m := by
    decide
  exact hall ⟨n, h⟩

theorem isGroup_hex4 (group : UInt16) : IsGroup group (hex4 group) := by
  have hgroup : group.toNat < 65536 := group.toNat_lt
  have ha := hexDigit_spec (by omega : group.toNat / 0x1000 < 16)
  have hb := hexDigit_spec (by omega : group.toNat / 0x100 % 16 < 16)
  have hc := hexDigit_spec (by omega : group.toNat / 0x10 % 16 < 16)
  have hd := hexDigit_spec (by omega : group.toNat % 16 < 16)
  refine ⟨by simp [hex4], by simp [hex4], ?_, ?_⟩
  · simp only [hex4, forall_mem_cons]
    exact ⟨ha.1, hb.1, hc.1, hd.1, by simp⟩
  · simp only [hexNumber, hex4, foldl_cons, foldl_nil, ha.2.1, hb.2.1, hc.2.1, hd.2.1]
    omega

theorem map_hex4 (group : UInt16) : (hex4 group).map lowerUnit = hex4 group := by
  have hgroup : group.toNat < 65536 := group.toNat_lt
  simp only [hex4, map_cons, map_nil, (hexDigit_spec (by omega :
    group.toNat / 0x1000 < 16)).2.2, (hexDigit_spec (by omega : group.toNat / 0x100 % 16 < 16)).2.2,
    (hexDigit_spec (by omega : group.toNat / 0x10 % 16 < 16)).2.2,
    (hexDigit_spec (by omega : group.toNat % 16 < 16)).2.2]

theorem isNormalized_full {first : JsString} (hgroups : address.groups = group :: groups)
    (hfirst : IsGroup group first) (hlower : first.map lowerUnit = first) :
    IsNormalized address (join [colon] (first :: groups.map hex4)) := by
  have hrest : Spells groups (groups.map hex4) := by
    clear hgroups
    induction groups with
    | nil => exact .nil
    | cons group groups ih => exact .group (isGroup_hex4 group) ih
  refine ⟨.full (hgroups ▸ .group hfirst hrest), ?_⟩
  have hmap : (groups.map hex4).map (map lowerUnit) = groups.map hex4 := by
    rw [map_map]
    exact map_congr_left fun group _ => map_hex4 group
  rw [map_join, map_cons (l := groups.map hex4), hlower, hmap]
  rfl

theorem isBlockedText_zero (h : text.head? = some 0x30) : isBlockedText text = false := by
  obtain ⟨rest, rfl⟩ := head?_eq_some_iff.1 h
  have hzero : (0x30 :: rest) ≠ lit "::" := fun he => by
    have := (cons.inj (he.trans (by decide : lit "::" = [colon, colon]))).1
    exact absurd this (by decide)
  have hone : (0x30 :: rest) ≠ lit "::1" := fun he => by
    have := (cons.inj (he.trans (by decide : lit "::1" = [colon, colon, 0x31]))).1
    exact absurd this (by decide)
  have hany : ¬ (BLOCKED_BEGINNINGS.any fun beginning => beginning.isPrefixOf (0x30 :: rest)) =
      true := by
    rw [blocked_beginnings]
    exact Bool.false_ne_true
  have hmapped : mappedIpv4 (0x30 :: rest) = none := by
    unfold mappedIpv4
    refine if_neg fun hmatch => ?_
    obtain ⟨tail, htail⟩ := hmatch.1
    have hhead := congrArg head? htail
    rw [(by decide : lit "::ffff:" = [colon, colon, 0x66, 0x66, 0x66, 0x66, colon])] at hhead
    cases hhead
  rw [isBlockedText, if_neg (not_or.2 ⟨hzero, not_or.2 ⟨hone, hany⟩⟩), hmapped]
  rfl

/-- An address whose first group has a leading zero is not blocked in its longest text. -/
theorem exists_unblocked (hgroups : address.groups = group :: groups)
    (hgroup : group.toNat < 0x1000) :
    ∃ text, IsForm address text ∧ isBlockedNetworkAddress text = false := by
  have hnormalized := isNormalized_full hgroups (isGroup_hex4 group) (map_hex4 group)
  refine ⟨_, ⟨_, hnormalized.spelled, .inl rfl⟩, ?_⟩
  rw [hnormalized.isBlocked.1]
  refine isBlockedText_zero ?_
  have hzero : Json.hexDigit (group.toNat / 0x1000) = 0x30 := by
    rw [Nat.div_eq_of_lt hgroup]
    rfl
  cases groups with
  | nil => simp [join, hex4, hzero]
  | cons second groups => simp [join, hex4, hzero]

theorem exists_short (h : IsShortBeginning group) : ∃ first, IsGroup group first ∧
    first.map lowerUnit = first ∧ ∃ beginning ∈ BLOCKED_BEGINNINGS, beginning <+: first := by
  have hgroups : (0xFC :: 0xFD :: (range' 0xFC0 32 ++ range' 0xFE8 4)).all (fun n =>
      let first := (hex4 n.toUInt16).dropWhile (· = 0x30)
      first ≠ [] && first.length ≤ 4 && first.all isHexDigit && hexNumber first = n &&
        first.map lowerUnit = first &&
        BLOCKED_BEGINNINGS.any fun beginning => beginning.isPrefixOf first) = true := by
    decide +kernel
  have hmem : group.toNat ∈ 0xFC :: 0xFD :: (range' 0xFC0 32 ++ range' 0xFE8 4) := by
    unfold IsShortBeginning at h
    simp only [mem_cons, mem_append, mem_range'_1]
    omega
  have hgroup := all_eq_true.1 hgroups _ hmem
  simp only [Bool.and_eq_true, decide_eq_true_eq, all_eq_true, any_eq_true,
    isPrefixOf_iff_prefix] at hgroup
  obtain ⟨⟨⟨⟨⟨hne, hlength⟩, hdigits⟩, hvalue⟩, hlower⟩, hbegins⟩ := hgroup
  exact ⟨_, ⟨hne, hlength, hdigits, hvalue⟩, hlower, hbegins⟩

/-! ## Exactly the covered addresses -/

theorem exists_cons (address : Ipv6) : ∃ group groups, address.groups = group :: groups := by
  refine exists_cons_of_ne_nil fun hnil => ?_
  have := address.length_eq
  rw [hnil] at this
  cases this

theorem isCovered_of_classified (h : Classified address) : IsCovered address := by
  -- a special address with a short first group is not blocked in its longest text
  have hspecial (hlocal : IsLoopback address ∨ IsUnspecified address)
      (hhead : address.groups.head? = some 0) : False := by
    obtain ⟨groups, hgroups⟩ := head?_eq_some_iff.1 hhead
    obtain ⟨text, hform, hunblocked⟩ := exists_unblocked hgroups (by decide)
    have hblocked := h.special (hlocal.imp_right .inl) text hform
    rw [hunblocked] at hblocked
    cases hblocked
  refine ⟨fun hzero => ?_, fun hone => ?_, fun group hhead hshort => ?_, fun high low hmapped => ?_⟩
  · exact hspecial (.inr hzero) (by rw [hzero]; rfl)
  · exact hspecial (.inl hone) (by rw [hone]; rfl)
  · obtain ⟨groups, hgroups⟩ := head?_eq_some_iff.1 hhead
    have hlt : group.toNat < 0x1000 := by
      unfold IsShortBeginning at hshort
      omega
    obtain ⟨text, hform, hunblocked⟩ := exists_unblocked hgroups hlt
    obtain ⟨first, hfirst, hlower, beginning, hmem, hbegins⟩ := exists_short hshort
    have hnormalized := isNormalized_full hgroups hfirst hlower
    have hsame := h.same _ text ⟨_, hnormalized.spelled, .inl rfl⟩ hform
    have hfront : first <+: join [colon] (first :: groups.map hex4) := by
      cases groups with
      | nil => exact prefix_refl first
      | cons second groups =>
        rw [map_cons, join_cons_cons, append_assoc]
        exact prefix_append _ _
    rw [hnormalized.isBlocked.1, isBlockedText_of_begins hmem (hbegins.trans hfront),
      hunblocked] at hsame
    cases hsame
  · have hhead : address.groups.head? = some 0 := by
      rw [hmapped]
      rfl
    obtain ⟨groups, hgroups⟩ := head?_eq_some_iff.1 hhead
    obtain ⟨text, hform, hunblocked⟩ := exists_unblocked hgroups (by decide)
    rw [← isBlocked_dotted, ← h.mapped high low hmapped text hform, hunblocked]

theorem classified_of_isCovered (hcovered : IsCovered address) : Classified address := by
  obtain ⟨group, groups, hgroups⟩ := exists_cons address
  have hhead : address.groups.head? = some group := by
    rw [hgroups]
    rfl
  have hanswer : ∃ answer, (answer = true ↔ IsLocalGroup group) ∧
      ∀ text, IsForm address text → isBlockedNetworkAddress text = answer := by
    by_cases hlocal : IsLocalGroup group
    · refine ⟨true, by simp [hlocal], fun text hform => ?_⟩
      obtain ⟨normalized, hnormalized, hblocked⟩ := hform.isBlocked
      rw [hblocked, isBlockedText_of_isLocalGroup hnormalized hhead hlocal]
    · refine ⟨false, by simp [hlocal], fun text hform => ?_⟩
      obtain ⟨normalized, hnormalized, hblocked⟩ := hform.isBlocked
      rw [hblocked, isBlockedText_eq_false hnormalized hcovered]
      intro group' hgroup'
      rwa [← Option.some.inj (hhead.symm.trans hgroup')]
  obtain ⟨answer, hanswer, hforms⟩ := hanswer
  refine ⟨fun text text' hform hform' => ?_, fun hspecial text hform => ?_,
    fun high low hmapped text hform => ?_⟩
  · rw [hforms text hform, hforms text' hform']
  · rw [hforms text hform, hanswer]
    rcases hspecial with hone | hzero | ⟨group', hgroup', hlow, hhigh⟩ |
      ⟨group', hgroup', hlow, hhigh⟩
    · exact absurd hone hcovered.notLoopback
    · exact absurd hzero hcovered.notUnspecified
    · obtain rfl := Option.some.inj (hhead.symm.trans hgroup')
      exact .inl ⟨hlow, hhigh⟩
    · obtain rfl := Option.some.inj (hhead.symm.trans hgroup')
      exact .inr ⟨hlow, hhigh⟩
  · have hzero : group = 0 := by
      have := hhead.symm.trans (congrArg head? hmapped)
      exact Option.some.inj this
    have hfalse : answer = false := by
      rw [Bool.eq_false_iff]
      intro htrue
      have hlocal := hanswer.1 htrue
      unfold IsLocalGroup at hlocal
      rw [hzero] at hlocal
      simp only [UInt16.reduceToNat] at hlocal
      omega
    rw [hforms text hform, hfalse, isBlocked_dotted, hcovered.mapped high low hmapped]

/-- **The filter classifies an address** exactly if it is neither `::` nor `::1`, its first group
does not begin like a blocked one with fewer than four digits, and it embeds no blocked IPv4
address. -/
theorem classified_iff (address : Ipv6) : Classified address ↔ IsCovered address :=
  ⟨isCovered_of_classified, classified_of_isCovered⟩

/-- `::ffff:127.0.0.1` -/
def mappedLoopback : Ipv6 := ⟨[0, 0, 0, 0, 0, 0xFFFF, 0x7F00, 1], rfl⟩

/-- The text `[::ffff:7f00:1]`, which URLs have, is not blocked. -/
theorem not_classified : ¬ ∀ address, Classified address := by
  intro h
  have hafter : Spells [0xFFFF, 0x7F00, 1] [lit "ffff", lit "7f00", lit "1"] :=
    .group ⟨by decide, by decide, all_eq_true.1 (by decide), by decide⟩
      (.group ⟨by decide, by decide, all_eq_true.1 (by decide), by decide⟩
        (.group ⟨by decide, by decide, all_eq_true.1 (by decide), by decide⟩ .nil))
  have hspelled := @SpelledBy.compressed mappedLoopback [] _ [] _ 5 .nil hafter (by decide) rfl
  have hsame := (h mappedLoopback).mapped 0x7F00 1 rfl _ ⟨_, hspelled, .inr rfl⟩
  have hunblocked : isBlockedNetworkAddress (lit "[::ffff:7f00:1]") = false := by decide +kernel
  have hblocked : isBlockedNetworkAddress (dotted 0x7F00 1) = true := by decide +kernel
  have htext : 0x5B :: (join [colon] [] ++ colon :: colon ::
      join [colon] [lit "ffff", lit "7f00", lit "1"] ++ [0x5D]) = lit "[::ffff:7f00:1]" := by
    decide
  rw [htext, hunblocked, hblocked] at hsame
  cases hsame

end

end Corgtex.Domain.McpConnector
