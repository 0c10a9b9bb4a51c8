import Corgtex.Library.JsString

/-!
# UTF-8

`Buffer.from(text, "utf8")` and `buffer.toString("utf8")`: UTF-16 code units to bytes and back. A
surrogate that stands alone is encoded as U+FFFD, and the decoder replaces what is not UTF-8 the way
the encoding standard prescribes. `decode_encode` is the round trip of well-formed strings.
-/

namespace Utf8

open JsString List

/-- U+FFFD, the replacement character. -/
def replacement : Nat := 0xFFFD

/-! ## Code points of a string -/

def isHigh (u : UInt16) : Bool := 0xD800 ≤ u && u ≤ 0xDBFF

def isLow (u : UInt16) : Bool := 0xDC00 ≤ u && u ≤ 0xDFFF

/-- The code point of a surrogate pair. -/
def pairValue (high low : UInt16) : Nat :=
  0x10000 + (high.toNat - 0xD800) * 0x400 + (low.toNat - 0xDC00)

/-- The scalar values of a string, with U+FFFD for a surrogate that stands alone. -/
def scalars : JsString → List Nat
  | [] => []
  | [u] => [if isHigh u || isLow u then replacement else u.toNat]
  | u :: v :: rest =>
    if isHigh u && isLow v then pairValue u v :: scalars rest
    else (if isHigh u || isLow u then replacement else u.toNat) :: scalars (v :: rest)

/-- `String.prototype.isWellFormed`: no surrogate stands alone. -/
def isWellFormed : JsString → Bool
  | [] => true
  | [u] => !isHigh u && !isLow u
  | u :: v :: rest =>
    if isHigh u && isLow v then isWellFormed rest
    else !isHigh u && !isLow u && isWellFormed (v :: rest)

/-- A Unicode scalar value: a code point that is no surrogate. -/
def IsScalar (n : Nat) : Prop := n < 0xD800 ∨ 0xE000 ≤ n ∧ n < 0x110000

/-! ## The encoder -/

/-- The bytes of a scalar value. -/
def encodeScalar (n : Nat) : List UInt8 :=
  if n < 0x80 then [n.toUInt8]
  else if n < 0x800 then [(0xC0 + n / 0x40).toUInt8, (0x80 + n % 0x40).toUInt8]
  else if n < 0x10000 then
    [(0xE0 + n / 0x1000).toUInt8, (0x80 + n / 0x40 % 0x40).toUInt8, (0x80 + n % 0x40).toUInt8]
  else
    [(0xF0 + n / 0x40000).toUInt8, (0x80 + n / 0x1000 % 0x40).toUInt8,
      (0x80 + n / 0x40 % 0x40).toUInt8, (0x80 + n % 0x40).toUInt8]

/-- `Buffer.from(text, "utf8")`. -/
def encode (text : JsString) : List UInt8 := (scalars text).flatMap encodeScalar

/-! ## The decoder -/

/-- The decoder between two bytes: how many continuation bytes a started character still needs, the
bounds of the next one, and the bits gathered. -/
inductive State
  | idle
  | pending (needed lower upper point : Nat)
deriving DecidableEq, Repr

/-- The first byte of a character: what it completes, and the next state. -/
def start (byte : Nat) : List Nat × State :=
  if byte < 0x80 then ([byte], .idle)
  else if 0xC2 ≤ byte ∧ byte ≤ 0xDF then ([], .pending 1 0x80 0xBF (byte - 0xC0))
  else if 0xE0 ≤ byte ∧ byte ≤ 0xEF then
    ([], .pending 2 (if byte = 0xE0 then 0xA0 else 0x80) (if byte = 0xED then 0x9F else 0xBF)
      (byte - 0xE0))
  else if 0xF0 ≤ byte ∧ byte ≤ 0xF4 then
    ([], .pending 3 (if byte = 0xF0 then 0x90 else 0x80) (if byte = 0xF4 then 0x8F else 0xBF)
      (byte - 0xF0))
  else ([replacement], .idle)

/-- One byte. A byte that cannot continue the character replaces what was started and is read
again. -/
def step : State → Nat → List Nat × State
  | .idle, byte => start byte
  | .pending needed lower upper point, byte =>
    if byte < lower ∨ upper < byte then (replacement :: (start byte).1, (start byte).2)
    else if needed = 1 then ([point * 0x40 + (byte - 0x80)], .idle)
    else ([], .pending (needed - 1) 0x80 0xBF (point * 0x40 + (byte - 0x80)))

/-- The scalar values that the rest of the bytes decode to. -/
def decodeFrom : State → List UInt8 → List Nat
  | .idle, [] => []
  | .pending .., [] => [replacement]
  | state, byte :: bytes =>
    (step state byte.toNat).1 ++ decodeFrom (step state byte.toNat).2 bytes

/-- `buffer.toString("utf8")`. -/
def decode (bytes : List UInt8) : JsString := (decodeFrom .idle bytes).flatMap ofCodePoint

/-! ## The round trip -/

section
variable {n : Nat} {bytes : List UInt8}

theorem decodeFrom_cons {state : State} {byte : UInt8} :
    decodeFrom state (byte :: bytes) =
      (step state byte.toNat).1 ++ decodeFrom (step state byte.toNat).2 bytes := by
  cases state <;> rfl

theorem toNat_toUInt8 {m : Nat} (h : m < 256) : m.toUInt8.toNat = m :=
  Nat.mod_eq_of_lt h

theorem step_last {lower upper point k : Nat} (hlower : lower ≤ 0x80 + k)
    (hupper : 0x80 + k ≤ upper) :
    step (.pending 1 lower upper point) (0x80 + k) = ([point * 0x40 + k], .idle) := by
  rw [step, if_neg (by omega), if_pos rfl, Nat.add_sub_cancel_left]

theorem step_more {needed lower upper point k : Nat} (hneeded : needed ≠ 1)
    (hlower : lower ≤ 0x80 + k) (hupper : 0x80 + k ≤ upper) :
    step (.pending needed lower upper point) (0x80 + k) =
      ([], .pending (needed - 1) 0x80 0xBF (point * 0x40 + k)) := by
  rw [step, if_neg (by omega), if_neg hneeded, Nat.add_sub_cancel_left]

theorem start_two {k : Nat} (hlow : 2 ≤ k) (hhigh : k < 0x20) :
    start (0xC0 + k) = ([], .pending 1 0x80 0xBF k) := by
  rw [start, if_neg (by omega), if_pos (by omega), Nat.add_sub_cancel_left]

theorem start_three {k : Nat} (hhigh : k < 0x10) :
    start (0xE0 + k) = ([], .pending 2 (if k = 0 then 0xA0 else 0x80)
      (if k = 0xD then 0x9F else 0xBF) k) := by
  have hfirst : 0xE0 + k = 0xE0 ↔ k = 0 := by omega
  have hlast : 0xE0 + k = 0xED ↔ k = 0xD := by omega
  rw [start, if_neg (by omega), if_neg (by omega), if_pos (by omega), Nat.add_sub_cancel_left]
  simp only [hfirst, hlast]

theorem start_four {k : Nat} (hhigh : k < 5) :
    start (0xF0 + k) = ([], .pending 3 (if k = 0 then 0x90 else 0x80)
      (if k = 4 then 0x8F else 0xBF) k) := by
  have hfirst : 0xF0 + k = 0xF0 ↔ k = 0 := by omega
  have hlast : 0xF0 + k = 0xF4 ↔ k = 4 := by omega
  rw [start, if_neg (by omega), if_neg (by omega), if_neg (by omega), if_pos (by omega),
    Nat.add_sub_cancel_left]
  simp only [hfirst, hlast]

/-- The decoder reads a character to its last byte. -/
theorem decodeFrom_encodeScalar (h : IsScalar n) :
    decodeFrom .idle (encodeScalar n ++ bytes) = n :: decodeFrom .idle bytes := by
  unfold IsScalar at h
  unfold encodeScalar
  split
  · next hone =>
    rw [singleton_append, decodeFrom_cons, toNat_toUInt8 (by omega), step, start, if_pos hone]
    rfl
  split
  · next hone htwo =>
    rw [cons_append, decodeFrom_cons, toNat_toUInt8 (by omega), step,
      start_two (by omega) (by omega), nil_append, singleton_append, decodeFrom_cons,
      toNat_toUInt8 (by omega), step_last (by omega) (by omega), Nat.div_add_mod']
    rfl
  split
  · next hone htwo hthree =>
    -- the bounds of the second byte leave out overlong forms and surrogates
    have hlower : (if n / 0x1000 = 0 then 0xA0 else 0x80) ≤ 0x80 + n / 0x40 % 0x40 := by
      split <;> omega
    have hupper : 0x80 + n / 0x40 % 0x40 ≤ if n / 0x1000 = 0xD then 0x9F else 0xBF := by
      split <;> omega
    have hvalue : (n / 0x1000 * 0x40 + n / 0x40 % 0x40) * 0x40 + n % 0x40 = n := by omega
    rw [cons_append, decodeFrom_cons, toNat_toUInt8 (by omega), step, start_three (by omega),
      nil_append, cons_append, decodeFrom_cons, toNat_toUInt8 (by omega),
      step_more (by decide) hlower hupper, nil_append, singleton_append, decodeFrom_cons,
      toNat_toUInt8 (by omega), step_last (by omega) (by omega), hvalue]
    rfl
  · next hone htwo hthree =>
    have hlower : (if n / 0x40000 = 0 then 0x90 else 0x80) ≤ 0x80 + n / 0x1000 % 0x40 := by
      split <;> omega
    have hupper : 0x80 + n / 0x1000 % 0x40 ≤ if n / 0x40000 = 4 then 0x8F else 0xBF := by
      split <;> omega
    have hvalue : ((n / 0x40000 * 0x40 + n / 0x1000 % 0x40) * 0x40 + n / 0x40 % 0x40) * 0x40 +
        n % 0x40 = n := by omega
    rw [cons_append, decodeFrom_cons, toNat_toUInt8 (by omega), step, start_four (by omega),
      nil_append, cons_append, decodeFrom_cons, toNat_toUInt8 (by omega),
      step_more (by decide) hlower hupper, nil_append, cons_append, decodeFrom_cons,
      toNat_toUInt8 (by omega), step_more (by decide) (by omega) (by omega), nil_append,
      singleton_append, decodeFrom_cons, toNat_toUInt8 (by omega),
      step_last (by omega) (by omega), hvalue]
    rfl

/-! ## Well-formed strings -/

theorem isHigh_iff {u : UInt16} : isHigh u ↔ 0xD800 ≤ u.toNat ∧ u.toNat ≤ 0xDBFF := by
  simp [isHigh, UInt16.le_iff_toNat_le]

theorem isLow_iff {u : UInt16} : isLow u ↔ 0xDC00 ≤ u.toNat ∧ u.toNat ≤ 0xDFFF := by
  simp [isLow, UInt16.le_iff_toNat_le]

theorem ofCodePoint_toNat (u : UInt16) : ofCodePoint u.toNat = [u] := by
  have hlt := u.toNat_lt
  rw [ofCodePoint, if_pos hlt]
  exact congrArg (fun v => [v]) (UInt16.ofNat_toNat)

theorem ofCodePoint_pairValue {high low : UInt16} (hhigh : isHigh high) (hlow : isLow low) :
    ofCodePoint (pairValue high low) = [high, low] := by
  rw [isHigh_iff] at hhigh
  rw [isLow_iff] at hlow
  unfold ofCodePoint pairValue
  rw [if_neg (by omega)]
  have hfirst : 0xD800 + (0x10000 + (high.toNat - 0xD800) * 0x400 + (low.toNat - 0xDC00)
      - 0x10000) / 0x400 = high.toNat := by omega
  have hsecond : 0xDC00 + (0x10000 + (high.toNat - 0xD800) * 0x400 + (low.toNat - 0xDC00)
      - 0x10000) % 0x400 = low.toNat := by omega
  rw [hfirst, hsecond]
  exact congrArg₂ (fun u v => [u, v]) UInt16.ofNat_toNat UInt16.ofNat_toNat

variable {text : JsString}

theorem ofCodePoint_scalars (h : isWellFormed text) :
    (scalars text).flatMap ofCodePoint = text := by
  fun_induction scalars text with
  | case1 => rfl
  | case2 u =>
    have halone : (isHigh u || isLow u) = false := by simpa [isWellFormed] using h
    rw [halone]
    simpa using ofCodePoint_toNat u
  | case3 u v rest hpair ih =>
    rw [isWellFormed, if_pos hpair] at h
    rw [Bool.and_eq_true] at hpair
    rw [flatMap_cons, ofCodePoint_pairValue hpair.1 hpair.2, ih h]
    rfl
  | case4 u v rest hpair ih =>
    rw [isWellFormed, if_neg hpair, Bool.and_eq_true] at h
    have halone : (isHigh u || isLow u) = false := by simpa using h.1
    rw [halone, flatMap_cons, ih h.2]
    simpa using congrArg (· ++ v :: rest) (ofCodePoint_toNat u)

theorem isScalar_alone (u : UInt16) :
    IsScalar (if isHigh u || isLow u then replacement else u.toNat) := by
  unfold IsScalar
  split
  · exact .inr (by unfold replacement; omega)
  · next h =>
    rw [Bool.or_eq_true, isHigh_iff, isLow_iff] at h
    have := u.toNat_lt
    omega

theorem isScalar_pairValue {high low : UInt16} (hhigh : isHigh high) (hlow : isLow low) :
    IsScalar (pairValue high low) := by
  rw [isHigh_iff] at hhigh
  rw [isLow_iff] at hlow
  unfold IsScalar pairValue
  omega

theorem isScalar_of_mem_scalars (h : n ∈ scalars text) : IsScalar n := by
  fun_induction scalars text with
  | case1 => cases h
  | case2 u => exact mem_singleton.1 h ▸ isScalar_alone u
  | case3 u v rest hpair ih =>
    rw [Bool.and_eq_true] at hpair
    exact (mem_cons.1 h).elim (fun he => he ▸ isScalar_pairValue hpair.1 hpair.2) ih
  | case4 u v rest hpair ih =>
    rcases mem_cons.1 h with rfl | h
    · exact isScalar_alone u
    · exact ih h

/-- **The round trip.** A well-formed string is decoded from its own bytes. -/
theorem decode_encode (h : isWellFormed text) : decode (encode text) = text := by
  have hscalars : ∀ l : List Nat, (∀ n ∈ l, IsScalar n) →
      decodeFrom .idle (l.flatMap encodeScalar) = l := by
    intro l
    induction l with
    | nil => exact fun _ => rfl
    | cons n l ih =>
      intro hl
      rw [flatMap_cons, decodeFrom_encodeScalar (hl n (.head _)), ih fun m hm => hl m (.tail _ hm)]
  rw [decode, encode, hscalars _ fun n => isScalar_of_mem_scalars, ofCodePoint_scalars h]

theorem encodeScalar_ne_nil (n : Nat) : encodeScalar n ≠ [] := by
  unfold encodeScalar
  split
  · nofun
  split
  · nofun
  split
  · nofun
  · nofun

theorem encode_eq_nil {text : JsString} : encode text = [] ↔ text = [] := by
  refine ⟨fun h => ?_, fun h => h ▸ rfl⟩
  unfold encode at h
  fun_cases scalars text with
  | case1 => rfl
  | case2 u => exact absurd (append_eq_nil_iff.1 h).1 (encodeScalar_ne_nil _)
  | case3 u v rest hpair =>
    rw [scalars, if_pos hpair] at h
    exact absurd (append_eq_nil_iff.1 h).1 (encodeScalar_ne_nil _)
  | case4 u v rest hpair =>
    rw [scalars, if_neg hpair] at h
    exact absurd (append_eq_nil_iff.1 h).1 (encodeScalar_ne_nil _)

/-! ## Consecutive texts -/

variable {rest : JsString}

theorem encode_append_of_head (h : ∀ u ∈ rest.head?, isLow u = false) :
    encode (text ++ rest) = encode text ++ encode rest := by
  suffices hscalars : scalars (text ++ rest) = scalars text ++ scalars rest by
    rw [encode, hscalars, flatMap_append, encode, encode]
  fun_induction scalars text with
  | case1 => rfl
  | case2 u =>
    cases rest with
    | nil => simp [scalars]
    | cons v rest =>
      have hv : isLow v = false := h v rfl
      simp [scalars, hv]
  | case3 u v text hpair ih =>
    rw [cons_append, cons_append, scalars, if_pos hpair, ih, cons_append]
  | case4 u v text hpair ih =>
    rw [cons_append] at ih
    rw [cons_append, cons_append, scalars, if_neg hpair, ih, cons_append]

theorem scalars_append_of_isWellFormed (h : isWellFormed text) :
    scalars (text ++ rest) = scalars text ++ scalars rest := by
  fun_induction isWellFormed text with
  | case1 => rfl
  | case2 u =>
    have hu : isHigh u = false ∧ isLow u = false := by simpa using h
    cases rest with
    | nil => simp [scalars]
    | cons v rest => simp [scalars, hu]
  | case3 u v text hpair ih =>
    rw [cons_append, cons_append, scalars, if_pos hpair, ih h, scalars, if_pos hpair, cons_append]
  | case4 u v text hpair ih =>
    have hrest : isWellFormed (v :: text) := by simp_all
    have htext := ih hrest
    rw [cons_append] at htext
    rw [cons_append, cons_append, scalars, if_neg hpair, htext, scalars, if_neg hpair, cons_append]

theorem encode_append_of_isWellFormed (h : isWellFormed text) :
    encode (text ++ rest) = encode text ++ encode rest := by
  rw [encode, scalars_append_of_isWellFormed h, flatMap_append, encode, encode]

theorem isWellFormed_append {a : JsString} (ha : isWellFormed a) (hrest : isWellFormed rest) :
    isWellFormed (a ++ rest) := by
  fun_induction isWellFormed a with
  | case1 => exact hrest
  | case2 u =>
    have hu : isHigh u = false ∧ isLow u = false := by simpa using ha
    cases rest with
    | nil => simp [isWellFormed, hu]
    | cons v rest => simp [isWellFormed, hu, hrest]
  | case3 u v text hpair ih =>
    rw [cons_append, cons_append, isWellFormed, if_pos hpair]
    exact ih ha
  | case4 u v text hpair ih =>
    rw [cons_append, cons_append, isWellFormed, if_neg hpair]
    simp_all

/-! ## ASCII -/

theorem not_surrogate {u : UInt16} (h : u.toNat < 0x80) : isHigh u = false ∧ isLow u = false := by
  refine ⟨Bool.eq_false_iff.2 fun he => ?_, Bool.eq_false_iff.2 fun he => ?_⟩
  · have := isHigh_iff.1 he
    omega
  · have := isLow_iff.1 he
    omega

variable (h : ∀ u ∈ text, u.toNat < 0x80)
include h

theorem scalars_ascii : scalars text = text.map UInt16.toNat := by
  have halone : ∀ u ∈ text, isHigh u = false ∧ isLow u = false := fun u hu =>
    not_surrogate (h u hu)
  fun_induction scalars text with
  | case1 => rfl
  | case2 u => simp [halone u (.head _)]
  | case3 u v rest hpair ih => simp [halone u (.head _)] at hpair
  | case4 u v rest hpair ih =>
    rw [ih (fun w hw => h w (.tail _ hw)) fun w hw => halone w (.tail _ hw)]
    simp [halone u (.head _)]

theorem encode_ascii : encode text = text.map UInt16.toUInt8 := by
  rw [encode, scalars_ascii h]
  induction text with
  | nil => rfl
  | cons u text ih =>
    rw [map_cons, flatMap_cons, ih fun w hw => h w (.tail _ hw), encodeScalar,
      if_pos (h u (.head _))]
    exact congrArg (· :: text.map UInt16.toUInt8) (UInt8.toNat_inj.1 (by simp))

theorem isWellFormed_ascii : isWellFormed text := by
  have halone : ∀ u ∈ text, isHigh u = false ∧ isLow u = false := fun u hu =>
    not_surrogate (h u hu)
  fun_induction isWellFormed text with
  | case1 => rfl
  | case2 u => simp [halone u (.head _)]
  | case3 u v rest hpair ih => simp [halone u (.head _)] at hpair
  | case4 u v rest hpair ih =>
    rw [ih (fun w hw => h w (.tail _ hw)) fun w hw => halone w (.tail _ hw)]
    simp [halone u (.head _)]

end

end Utf8
