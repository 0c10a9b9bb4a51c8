import Corgtex.Library.JsString

/-!
# Base64

`buffer.toString("base64")`, `buffer.toString("base64url")` and the decoder `Buffer.from` that reads
either of them: it stops at the first `=`, skips what is in neither alphabet and drops the bits that
fill no byte. `decode_encode` is the round trip, `decode_append` cuts a text at a multiple of four.
-/

namespace Base64

open List

/-- Which of the two alphabets is written. The url alphabet is written without padding. -/
inductive Alphabet
  | standard
  | url
deriving DecidableEq, Repr

/-- The character of a sextet. -/
def digit (alphabet : Alphabet) (n : Nat) : UInt16 :=
  if n < 26 then (65 + n).toUInt16
  else if n < 52 then (71 + n).toUInt16
  else if n < 62 then (n - 4).toUInt16
  else match alphabet with
    | .standard => if n = 62 then 43 else 47
    | .url => if n = 62 then 45 else 95

/-- `=`. -/
def pad : UInt16 := 61

/-- The sextet of a character of either alphabet. -/
def value (u : UInt16) : Option Nat :=
  if 65 ≤ u ∧ u ≤ 90 then some (u.toNat - 65)
  else if 97 ≤ u ∧ u ≤ 122 then some (u.toNat - 71)
  else if 48 ≤ u ∧ u ≤ 57 then some (u.toNat + 4)
  else if u = 43 ∨ u = 45 then some 62
  else if u = 47 ∨ u = 95 then some 63
  else none

/-- The padding that completes a group of four characters. -/
def padding (alphabet : Alphabet) (n : Nat) : JsString :=
  match alphabet with
  | .standard => List.replicate n pad
  | .url => []

/-- `buffer.toString("base64")` and `buffer.toString("base64url")`. -/
def encode (alphabet : Alphabet) : List UInt8 → JsString
  | a :: b :: c :: rest =>
    digit alphabet (a.toNat / 4) :: digit alphabet (a.toNat % 4 * 16 + b.toNat / 16) ::
      digit alphabet (b.toNat % 16 * 4 + c.toNat / 64) :: digit alphabet (c.toNat % 64) ::
      encode alphabet rest
  | [a, b] =>
    digit alphabet (a.toNat / 4) :: digit alphabet (a.toNat % 4 * 16 + b.toNat / 16) ::
      digit alphabet (b.toNat % 16 * 4) :: padding alphabet 1
  | [a] =>
    digit alphabet (a.toNat / 4) :: digit alphabet (a.toNat % 4 * 16) :: padding alphabet 2
  | [] => []

/-- Sextets to bytes. -/
def bytes : List Nat → List UInt8
  | a :: b :: c :: d :: rest =>
    (a * 4 + b / 16).toUInt8 :: (b % 16 * 16 + c / 4).toUInt8 :: (c % 4 * 64 + d).toUInt8 ::
      bytes rest
  | [a, b, c] => [(a * 4 + b / 16).toUInt8, (b % 16 * 16 + c / 4).toUInt8]
  | [a, b] => [(a * 4 + b / 16).toUInt8]
  | [_] => []
  | [] => []

/-- The sextets that the decoder reads. -/
def sextets (text : JsString) : List Nat := (text.takeWhile (· ≠ pad)).filterMap value

/-- `Buffer.from(text, "base64")` and `Buffer.from(text, "base64url")`. -/
def decode (text : JsString) : List UInt8 := bytes (sextets text)

/-! ## The round trip -/

section
variable {alphabet : Alphabet} {n : Nat}

theorem value_digit (h : n < 64) : value (digit alphabet n) = some n := by
  have hall : ∀ alphabet, ∀ n < 64, value (digit alphabet n) = some n := by
    rintro (_ | _)
    all_goals decide
  exact hall alphabet n h

theorem value_pad : value pad = none := by decide

variable {u : UInt16}

theorem ne_pad_of_value (h : value u = some n) : u ≠ pad := by
  rintro rfl
  cases value_pad.symm.trans h

theorem sextets_cons {text : JsString} (h : value u = some n) :
    sextets (u :: text) = n :: sextets text := by
  rw [sextets, takeWhile_cons_of_pos (by simpa using ne_pad_of_value h), filterMap_cons_some h]
  rfl

theorem sextets_padding (alphabet : Alphabet) (n : Nat) : sextets (padding alphabet n) = [] := by
  cases alphabet with
  | url => rfl
  | standard => cases n <;> rfl

theorem toUInt8_eq {a : UInt8} (h : n = a.toNat) : n.toUInt8 = a := by
  rw [h]
  exact UInt8.ofNat_toNat

/-- **The round trip.** -/
theorem decode_encode (alphabet : Alphabet) (data : List UInt8) :
    decode (encode alphabet data) = data := by
  unfold decode
  fun_induction encode alphabet data with
  | case1 a b c rest ih =>
    have ha := a.toNat_lt
    have hb := b.toNat_lt
    have hc := c.toNat_lt
    rw [sextets_cons (value_digit (by omega)), sextets_cons (value_digit (by omega)),
      sextets_cons (value_digit (by omega)), sextets_cons (value_digit (by omega)), bytes, ih,
      toUInt8_eq (a := a) (by omega), toUInt8_eq (a := b) (by omega),
      toUInt8_eq (a := c) (by omega)]
  | case2 a b =>
    have ha := a.toNat_lt
    have hb := b.toNat_lt
    rw [sextets_cons (value_digit (by omega)), sextets_cons (value_digit (by omega)),
      sextets_cons (value_digit (by omega)), sextets_padding, bytes,
      toUInt8_eq (a := a) (by omega), toUInt8_eq (a := b) (by omega)]
  | case3 a =>
    have ha := a.toNat_lt
    rw [sextets_cons (value_digit (by omega)), sextets_cons (value_digit (by omega)),
      sextets_padding, bytes, toUInt8_eq (a := a) (by omega)]
  | case4 => rfl

/-! ## Cutting a text -/

/-- Whether a character is in one of the alphabets. -/
def isDigit (u : UInt16) : Bool := (value u).isSome

theorem sextets_append {front : JsString} (hfront : ∀ u ∈ front, isDigit u) (text : JsString) :
    sextets (front ++ text) = sextets front ++ sextets text ∧
      (sextets front).length = front.length := by
  induction front with
  | nil => exact ⟨rfl, rfl⟩
  | cons u front ih =>
    obtain ⟨n, hn⟩ := Option.isSome_iff_exists.1 (hfront u (.head _))
    obtain ⟨happend, hlength⟩ := ih fun v hv => hfront v (.tail _ hv)
    rw [cons_append, sextets_cons hn, sextets_cons hn, happend, length_cons, hlength]
    exact ⟨rfl, rfl⟩

theorem bytes_append (front back : List Nat) (h : front.length % 4 = 0) :
    bytes (front ++ back) = bytes front ++ bytes back := by
  fun_induction bytes front with
  | case1 a b c d rest ih =>
    rw [length_cons, length_cons, length_cons, length_cons] at h
    show bytes (a :: b :: c :: d :: (rest ++ back)) = _
    rw [bytes, ih (by omega)]
    rfl
  | case2 => cases h
  | case3 => cases h
  | case4 => cases h
  | case5 => rfl

/-- **Cutting at a multiple of four loses no bits.** -/
theorem decode_append {front : JsString} (hfront : ∀ u ∈ front, isDigit u)
    (hlength : front.length % 4 = 0) (text : JsString) :
    decode (front ++ text) = decode front ++ decode text := by
  obtain ⟨happend, hlen⟩ := sextets_append hfront text
  rw [decode, happend, bytes_append _ _ (hlen ▸ hlength)]
  rfl

/-! ## The shape of an encoded text -/

/-- The characters of one alphabet, without the padding. -/
def isDigitOf (alphabet : Alphabet) (u : UInt16) : Bool :=
  (65 ≤ u && u ≤ 90) || (97 ≤ u && u ≤ 122) || (48 ≤ u && u ≤ 57) || match alphabet with
    | .standard => u = 43 || u = 47
    | .url => u = 45 || u = 95

theorem isDigitOf_digit (h : n < 64) : isDigitOf alphabet (digit alphabet n) := by
  have hall : ∀ alphabet, ∀ n < 64, isDigitOf alphabet (digit alphabet n) := by
    rintro (_ | _)
    all_goals decide
  exact hall alphabet n h

theorem digit_lt (h : n < 64) : (digit alphabet n).toNat < 0x80 := by
  have hall : ∀ alphabet, ∀ n < 64, (digit alphabet n).toNat < 0x80 := by
    rintro (_ | _)
    all_goals decide
  exact hall alphabet n h

theorem isDigit_digit (h : n < 64) : isDigit (digit alphabet n) := by
  rw [isDigit, value_digit h]
  rfl

/-- An encoded text consists of digits and at most two characters of padding. -/
theorem encode_shape (alphabet : Alphabet) (data : List UInt8) :
    ∃ (sextets : List Nat) (k : Nat), (∀ n ∈ sextets, n < 64) ∧ k ≤ 2 ∧
      encode alphabet data = sextets.map (digit alphabet) ++ padding alphabet k ∧
      (data.length % 3 = 0 → k = 0) := by
  fun_induction encode alphabet data with
  | case1 a b c rest ih =>
    have ha := a.toNat_lt
    have hb := b.toNat_lt
    have hc := c.toNat_lt
    obtain ⟨l, k, hl, hk, he, hfull⟩ := ih
    refine ⟨a.toNat / 4 :: (a.toNat % 4 * 16 + b.toNat / 16) :: (b.toNat % 16 * 4 + c.toNat / 64) ::
      c.toNat % 64 :: l, k, ?_, hk, by rw [he]; rfl, fun h => hfull ?_⟩
    · simp only [mem_cons, forall_eq_or_imp]
      exact ⟨by omega, by omega, by omega, by omega, hl⟩
    · simp only [length_cons] at h
      omega
  | case2 a b =>
    have ha := a.toNat_lt
    have hb := b.toNat_lt
    refine ⟨[a.toNat / 4, a.toNat % 4 * 16 + b.toNat / 16, b.toNat % 16 * 4], 1, ?_, by decide, rfl,
      nofun⟩
    simp only [mem_cons, not_mem_nil, or_false, forall_eq_or_imp, forall_eq]
    exact ⟨by omega, by omega, by omega⟩
  | case3 a =>
    have ha := a.toNat_lt
    refine ⟨[a.toNat / 4, a.toNat % 4 * 16], 2, ?_, by decide, rfl, nofun⟩
    simp only [mem_cons, not_mem_nil, or_false, forall_eq_or_imp, forall_eq]
    exact ⟨by omega, by omega⟩
  | case4 => exact ⟨[], 0, nofun, by decide, by cases alphabet <;> rfl, fun _ => rfl⟩

theorem length_encode_standard (data : List UInt8) :
    (encode .standard data).length = (data.length + 2) / 3 * 4 := by
  fun_induction encode Alphabet.standard data with
  | case1 a b c rest ih =>
    simp only [length_cons, ih]
    omega
  | case2 a b => simp [padding]
  | case3 a => simp [padding]
  | case4 => rfl

theorem length_encode_url (data : List UInt8) :
    (encode .url data).length = (data.length * 4 + 2) / 3 := by
  fun_induction encode Alphabet.url data with
  | case1 a b c rest ih =>
    simp only [length_cons, ih]
    omega
  | case2 a b => simp [padding]
  | case3 a => simp [padding]
  | case4 => rfl

/-- Whole groups are encoded on their own. -/
theorem encode_append (front back : List UInt8) (h : front.length % 3 = 0) :
    encode alphabet (front ++ back) = encode alphabet front ++ encode alphabet back := by
  fun_induction encode alphabet front with
  | case1 a b c rest ih =>
    rw [length_cons, length_cons, length_cons] at h
    show encode alphabet (a :: b :: c :: (rest ++ back)) = _
    rw [encode, ih (by omega)]
    rfl
  | case2 => cases h
  | case3 => cases h
  | case4 => rfl

variable {data : List UInt8}

theorem isDigitOf_of_mem_url (h : u ∈ encode .url data) : isDigitOf .url u ∧ isDigit u := by
  obtain ⟨l, k, hl, _, he, _⟩ := encode_shape .url data
  rw [he, padding, append_nil] at h
  obtain ⟨n, hn, rfl⟩ := mem_map.1 h
  exact ⟨isDigitOf_digit (hl n hn), isDigit_digit (hl n hn)⟩

theorem ascii_of_mem_encode (h : u ∈ encode alphabet data) : u.toNat < 0x80 := by
  obtain ⟨l, k, hl, _, he, _⟩ := encode_shape alphabet data
  rw [he] at h
  rcases mem_append.1 h with h | h
  · obtain ⟨n, hn, rfl⟩ := mem_map.1 h
    exact digit_lt (hl n hn)
  · cases alphabet with
    | url => cases h
    | standard => exact (eq_of_mem_replicate h) ▸ by decide

theorem length_bytes (l : List Nat) : (bytes l).length = l.length * 3 / 4 := by
  fun_induction bytes l with
  | case1 a b c d rest ih =>
    simp only [length_cons, ih]
    omega
  | case2 a b c => simp
  | case3 a b => simp
  | case4 a => simp
  | case5 => rfl

theorem length_decode {text : JsString} (h : ∀ u ∈ text, isDigit u) :
    (decode text).length = text.length * 3 / 4 := by
  have hlength := (sextets_append h []).2
  rw [decode, length_bytes, hlength]

/-- A standard text without a remainder ends without padding. -/
theorem pad_notMem_encode (h : data.length % 3 = 0) : pad ∉ encode .standard data := by
  obtain ⟨l, k, hl, _, he, hfull⟩ := encode_shape .standard data
  rw [he, hfull h]
  intro hmem
  rcases mem_append.1 hmem with hmem | hmem
  · obtain ⟨n, hn, hdigit⟩ := mem_map.1 hmem
    exact ne_pad_of_value (value_digit (hl n hn)) hdigit
  · cases hmem

/-- What follows the digits of an encoded text is its padding. -/
theorem dropWhile_encode (data : List UInt8) :
    ∃ k ≤ 2, (encode .standard data).dropWhile (isDigitOf .standard) = List.replicate k pad := by
  obtain ⟨l, k, hl, hk, he, _⟩ := encode_shape .standard data
  refine ⟨k, hk, ?_⟩
  have hdigits : ∀ u ∈ l.map (digit .standard), isDigitOf .standard u := by
    intro u hu
    obtain ⟨n, hn, rfl⟩ := mem_map.1 hu
    exact isDigitOf_digit (hl n hn)
  rw [he, dropWhile_append_of_pos hdigits, padding]
  cases k with
  | zero => rfl
  | succ k => exact dropWhile_cons_of_neg (by decide)

end

end Base64
