import Corgtex.Library.Base64
import Corgtex.Library.JsNumber
import Corgtex.Library.Utf8

/-!
# Encrypted secrets

`shared/src/crypto.ts`: `encryptSecret` joins the base64url of an IV, a tag and a ciphertext with
colons, and two decoders take the envelope apart again. `decryptSecretBase64` also decodes the
base64 plaintext, page by page, into a buffer whose size it has bounded beforehand. They undo the
encoder for every secret but the empty one (`secrets_round_trip_iff`).

The cipher is a parameter. `IdealGcm` states what the source relies on: a stream of parts of the
ciphertext is decrypted to parts of the same lengths, and authenticated at its end.
-/

namespace Corgtex.Shared

open JsNumber JsString List

abbrev Bytes := List UInt8

/-- `node:crypto` for `"aes-256-gcm"`: encryption in one piece, and a decipher with its tag set. -/
structure Gcm where
  Decipher : Type
  encrypt : (key iv plaintext : Bytes) → Bytes × Bytes
  createDecipheriv : (key iv tag : Bytes) → Except String Decipher
  update : Decipher → Bytes → Bytes × Decipher
  final : Decipher → Except String Bytes

namespace Gcm

variable (gcm : Gcm)

/-- The outputs of consecutive `update` calls, and the decipher after them. -/
def updates (decipher : gcm.Decipher) : List Bytes → List Bytes × gcm.Decipher
  | [] => ([], decipher)
  | part :: parts =>
    let (plaintext, decipher) := gcm.update decipher part
    let (rest, decipher) := updates decipher parts
    (plaintext :: rest, decipher)

/-- AES-256-GCM as an ideal primitive: however the ciphertext is cut into parts, under the same key,
IV and tag they are decrypted to parts of the plaintext of the same lengths, and the tag is
accepted. -/
structure Ideal : Prop where
  length_ciphertext : ∀ key iv plaintext, (gcm.encrypt key iv plaintext).1.length = plaintext.length
  length_tag : ∀ key iv plaintext, (gcm.encrypt key iv plaintext).2.length = 16
  decrypt : ∀ key iv plaintext parts, parts.flatten = (gcm.encrypt key iv plaintext).1 →
    ∃ decipher, gcm.createDecipheriv key iv (gcm.encrypt key iv plaintext).2 = .ok decipher ∧
      (gcm.updates decipher parts).1.flatten = plaintext ∧
      (gcm.updates decipher parts).1.map List.length = parts.map List.length ∧
      gcm.final (gcm.updates decipher parts).2 = .ok []

end Gcm

/-- `SECRET_ENCRYPTION_VERSION` (line 4). -/
def secretEncryptionVersion : JsString := lit "aes-256-gcm"

/-- `Buffer.from(text, "hex")` on hexadecimal digits. -/
def ofHex : JsString → Bytes
  | high :: low :: rest => (hexValue high * 16 + hexValue low).toUInt8 :: ofHex rest
  | _ => []
where
  /-- The value of a hexadecimal digit. -/
  hexValue (u : UInt16) : Nat :=
    if u ≤ 0x39 then u.toNat - 0x30 else if u ≤ 0x46 then u.toNat - 0x37 else u.toNat - 0x57

/-- `encryptionKey` (line 6) with the value of `env.ENCRYPTION_KEY`. -/
def encryptionKey (envKey : Option JsString) : Except String Bytes :=
  match envKey.bind orNull with
  | none => .error "Missing ENCRYPTION_KEY required for AES-256-GCM"
  | some key =>
    if key.length = 64 ∧ key.all isHexDigit then .ok (ofHex key)
    else .error "ENCRYPTION_KEY must be a 32-byte hex string."

/-- What `randomBytes(12)` returns. -/
abbrev Iv := { iv : Bytes // iv.length = 12 }

/-- `encryptSecret` (line 26) with the random `iv`. -/
def encryptSecret (gcm : Gcm) (envKey : Option JsString) (iv : Iv) (value : JsString) :
    Except String JsString := do
  let key ← encryptionKey envKey
  let (ciphertext, tag) := gcm.encrypt key iv (Utf8.encode value)
  return join (lit ":") [secretEncryptionVersion, Base64.encode .url iv, Base64.encode .url tag,
    Base64.encode .url ciphertext]

/-- The parts of an envelope that pass the check of the decoders for present parts (line 42). -/
def envelopeParts (parts : List JsString) : Option (JsString × JsString × JsString) :=
  match parts[0]?, parts[1]?.bind orNull, parts[2]?.bind orNull, parts[3]?.bind orNull with
  | some version, some ivRaw, some tagRaw, some ciphertextRaw =>
    if version = secretEncryptionVersion then some (ivRaw, tagRaw, ciphertextRaw) else none
  | _, _, _, _ => none

/-- `decryptSecret` (line 39). -/
def decryptSecret (gcm : Gcm) (envKey : Option JsString) (value : JsString) :
    Except String JsString :=
  match envelopeParts (value.split 0x3A) with
  | none => .error "Unsupported encrypted secret format."
  | some (ivRaw, tagRaw, ciphertextRaw) => do
    let key ← encryptionKey envKey
    let decipher ← gcm.createDecipheriv key (Base64.decode ivRaw) (Base64.decode tagRaw)
    let (plaintext, decipher) := gcm.update decipher (Base64.decode ciphertextRaw)
    let last ← gcm.final decipher
    return Utf8.decode (plaintext ++ last)

/-- The size of a transport page: `512 * 1024`. -/
def pageSize : Nat := 524288

/-- The slices of a text at the offsets `0`, `size`, `2 * size`, ... -/
def slices (size : Nat) (text : JsString) : List JsString :=
  (List.range ((text.length + size - 1) / size)).map fun i => (text.drop (i * size)).take size

/-- The parts that both loops of `decryptSecretBase64` run over. -/
def pages (text : JsString) : List JsString := slices pageSize text

/-- `/^[A-Za-z0-9_-]+$/.test(part)`. -/
def isTransport (part : JsString) : Bool := part ≠ [] && part.all (Base64.isDigitOf .url)

/-- `/^[A-Za-z0-9+/]*={0,2}$/.test(segment)`. -/
def isSegment (segment : JsString) : Bool :=
  let rest := segment.dropWhile (Base64.isDigitOf .standard)
  rest = [] || rest = [Base64.pad] || rest = [Base64.pad, Base64.pad]

/-- What `append` has gathered: the bytes written, the characters carried over, and whether padding
was met. -/
structure Decoded where
  written : Bytes
  carry : JsString
  padded : Bool

/-- `append` (line 75), which may write `limit` bytes. -/
def append (limit : Nat) (state : Decoded) (plaintext : Bytes) : Except String Decoded :=
  if plaintext = [] then .ok state
  else if state.padded then .error "Invalid encrypted base64 payload."
  else
    let text := state.carry ++ Utf8.decode plaintext
    let complete := text.length - text.length % 4
    let segment := text.take complete
    let carry := text.drop complete
    if !isSegment segment || !carry.all (Base64.isDigitOf .standard) then
      .error "Invalid encrypted base64 payload."
    else
      let padded := segment.contains Base64.pad
      if padded && carry ≠ [] then .error "Invalid encrypted base64 payload."
      else
        let bytes := Base64.decode segment
        if state.written.length + bytes.length > limit then
          .error "Encrypted base64 payload exceeds its byte bound."
        else .ok { written := state.written ++ bytes, carry, padded }

/-- The first loop of `decryptSecretBase64` (line 54). -/
def authenticate (gcm : Gcm) : gcm.Decipher → List JsString → Except String gcm.Decipher
  | decipher, [] => .ok decipher
  | decipher, part :: parts =>
    if isTransport part then
      authenticate gcm (gcm.update decipher (Base64.decode part)).2 parts
    else .error "Invalid encrypted secret ciphertext."

/-- The second loop of `decryptSecretBase64` (line 96). -/
def decodePages (gcm : Gcm) (limit : Nat) :
    gcm.Decipher → Decoded → List JsString → Except String (gcm.Decipher × Decoded)
  | decipher, state, [] => .ok (decipher, state)
  | decipher, state, part :: parts => do
    if isTransport part then
      let (plaintext, decipher) := gcm.update decipher (Base64.decode part)
      let state ← append limit state plaintext
      decodePages gcm limit decipher state parts
    else .error "Invalid encrypted secret ciphertext."

/-- The end of `decryptSecretBase64` (line 101). -/
def finishDecoding (gcm : Gcm) (limit : Nat) (decoded : gcm.Decipher × Decoded) :
    Except String Bytes := do
  let state ← append limit decoded.2 (← gcm.final decoded.1)
  if state.carry ≠ [] then throw "Invalid encrypted base64 payload." else return state.written

/-- `upperBytes` (line 59). -/
def upperBytes (ciphertextRaw : JsString) : Nat := ciphertextRaw.length * 3 / 4 / 4 * 3

/-- `decryptSecretBase64` (line 54). The output buffer holds `Math.min(upperBytes, maxBytes)` bytes,
so of the two bounds that `append` checks this one is the smaller. -/
def decryptSecretBase64 (gcm : Gcm) (envKey : Option JsString) (value : JsString) (maxBytes : Int) :
    Except String Bytes :=
  match envelopeParts (value.split 0x3A) with
  | none => .error "Unsupported encrypted secret format."
  | some (ivRaw, tagRaw, ciphertextRaw) => do
    if (value.split 0x3A)[4]?.isSome || !isSafeInteger maxBytes || maxBytes < 0 then
      throw "Unsupported encrypted secret format."
    if upperBytes ciphertextRaw > maxBytes + 2 then
      throw "Encrypted base64 payload exceeds its byte bound."
    let key ← encryptionKey envKey
    let authenticator ← gcm.createDecipheriv key (Base64.decode ivRaw) (Base64.decode tagRaw)
    let authenticator ← authenticate gcm authenticator (pages ciphertextRaw)
    let _ ← gcm.final authenticator
    let decipher ← gcm.createDecipheriv key (Base64.decode ivRaw) (Base64.decode tagRaw)
    let limit := min (upperBytes ciphertextRaw) maxBytes.toNat
    finishDecoding gcm limit
      (← decodePages gcm limit decipher ⟨[], [], false⟩ (pages ciphertextRaw))

/-! ## The envelope -/

section
variable {gcm : Gcm} {envKey : Option JsString} {iv : Iv} {value envelope : JsString}
  {data : List UInt8}

theorem colon_notMem_url (data : Bytes) : (0x3A : UInt16) ∉ Base64.encode .url data := by
  intro h
  exact absurd (Base64.isDigitOf_of_mem_url h).1 (by decide)

theorem encode_url_ne_nil (h : data ≠ []) : Base64.encode .url data ≠ [] := by
  intro he
  have hlength := Base64.length_encode_url data
  rw [he, length_nil] at hlength
  have hpos := length_pos_iff.2 h
  omega

theorem split_envelope (iv tag ciphertext : Bytes) :
    split 0x3A (join (lit ":") [secretEncryptionVersion, Base64.encode .url iv,
        Base64.encode .url tag, Base64.encode .url ciphertext]) =
      [secretEncryptionVersion, Base64.encode .url iv, Base64.encode .url tag,
        Base64.encode .url ciphertext] := by
  have hversion : (0x3A : UInt16) ∉ secretEncryptionVersion := by decide
  have hjoin : join (lit ":") [secretEncryptionVersion, Base64.encode .url iv,
      Base64.encode .url tag, Base64.encode .url ciphertext] =
      secretEncryptionVersion ++ 0x3A :: (Base64.encode .url iv ++ 0x3A ::
        (Base64.encode .url tag ++ 0x3A :: Base64.encode .url ciphertext)) := by
    have hcolon : lit ":" = [0x3A] := by decide
    simp only [join, hcolon, append_assoc, cons_append, nil_append]
  rw [hjoin, split_append hversion, split_append (colon_notMem_url iv),
    split_append (colon_notMem_url tag), split_self (colon_notMem_url ciphertext)]

/-- What the decoders find in an envelope: they miss an empty ciphertext. -/
theorem envelopeParts_eq {iv tag : Bytes} (hiv : iv ≠ []) (htag : tag ≠ []) (ciphertext : Bytes) :
    envelopeParts [secretEncryptionVersion, Base64.encode .url iv, Base64.encode .url tag,
        Base64.encode .url ciphertext] =
      if ciphertext = [] then none
      else some (Base64.encode .url iv, Base64.encode .url tag, Base64.encode .url ciphertext) := by
  have hpresent : ∀ {data : Bytes}, data ≠ [] →
      (Base64.encode .url data).orNull = some (Base64.encode .url data) :=
    fun h => orNull_eq_some.2 ⟨rfl, encode_url_ne_nil h⟩
  unfold envelopeParts
  simp only [getElem?_cons_zero, getElem?_cons_succ, Option.bind_some, hpresent hiv, hpresent htag]
  rcases eq_or_ne ciphertext [] with rfl | hne
  · rfl
  · simp [hpresent hne, hne]

theorem encryptSecret_ok (h : encryptSecret gcm envKey iv value = .ok envelope) :
    ∃ key, encryptionKey envKey = .ok key ∧
      envelope.split 0x3A = [secretEncryptionVersion, Base64.encode .url iv,
        Base64.encode .url (gcm.encrypt key iv (Utf8.encode value)).2,
        Base64.encode .url (gcm.encrypt key iv (Utf8.encode value)).1] := by
  unfold encryptSecret at h
  cases hkey : encryptionKey envKey with
  | error e => cases hkey ▸ h
  | ok key =>
    rw [hkey] at h
    exact ⟨key, rfl, Except.ok.inj h ▸ split_envelope iv _ _⟩

theorem encryptSecret_of_key (gcm : Gcm) {key : Bytes} (hkey : encryptionKey envKey = .ok key)
    (iv : Iv) (value : JsString) :
    ∃ envelope, encryptSecret gcm envKey iv value = .ok envelope := by
  unfold encryptSecret
  rw [hkey]
  exact ⟨_, rfl⟩

theorem iv_ne_nil (iv : Iv) : iv.1 ≠ [] := by
  intro h
  cases h ▸ iv.2

section
variable (hideal : gcm.Ideal)
include hideal

theorem Gcm.Ideal.tag_ne_nil (key iv plaintext : Bytes) :
    (gcm.encrypt key iv plaintext).2 ≠ [] := by
  intro h
  cases h ▸ hideal.length_tag key iv plaintext

theorem Gcm.Ideal.ciphertext_eq_nil {key iv plaintext : Bytes} :
    (gcm.encrypt key iv plaintext).1 = [] ↔ plaintext = [] := by
  rw [← length_eq_zero_iff, hideal.length_ciphertext, length_eq_zero_iff]

theorem encryptSecret_parts (h : encryptSecret gcm envKey iv value = .ok envelope) :
    ∃ key, encryptionKey envKey = .ok key ∧ (envelope.split 0x3A)[4]? = none ∧
      envelopeParts (envelope.split 0x3A) = if value = [] then none
        else some (Base64.encode .url iv,
          Base64.encode .url (gcm.encrypt key iv (Utf8.encode value)).2,
          Base64.encode .url (gcm.encrypt key iv (Utf8.encode value)).1) := by
  obtain ⟨key, hkey, hsplit⟩ := encryptSecret_ok h
  refine ⟨key, hkey, hsplit ▸ rfl, ?_⟩
  rw [hsplit, envelopeParts_eq (iv_ne_nil iv) (hideal.tag_ne_nil _ _ _)]
  simp only [hideal.ciphertext_eq_nil, Utf8.encode_eq_nil]

theorem decryptSecret_empty (h : encryptSecret gcm envKey iv [] = .ok envelope) :
    decryptSecret gcm envKey envelope = .error "Unsupported encrypted secret format." := by
  obtain ⟨_, _, _, hparts⟩ := encryptSecret_parts hideal h
  unfold decryptSecret
  rw [hparts]
  rfl

/-- **`decryptSecret` undoes `encryptSecret` on every well-formed string but the empty one.** -/
theorem decryptSecret_iff (hvalue : Utf8.isWellFormed value)
    (h : encryptSecret gcm envKey iv value = .ok envelope) :
    decryptSecret gcm envKey envelope = .ok value ↔ value ≠ [] := by
  rcases eq_or_ne value [] with rfl | hne
  · rw [decryptSecret_empty hideal h]
    exact ⟨nofun, fun hne => absurd rfl hne⟩
  · obtain ⟨key, hkey, _, hparts⟩ := encryptSecret_parts hideal h
    unfold decryptSecret
    rw [hparts, if_neg hne]
    refine ⟨fun _ => hne, fun _ => ?_⟩
    obtain ⟨decipher, hdecipher, hplaintext, _, hfinal⟩ :=
      hideal.decrypt key iv (Utf8.encode value) [_] (append_nil _)
    simp only [Gcm.updates, flatten_cons, flatten_nil, append_nil] at hplaintext hfinal
    simp only [Base64.decode_encode]
    rw [hkey]
    show (gcm.createDecipheriv key iv _ >>= _) = _
    rw [hdecipher]
    show (gcm.final _ >>= _) = _
    rw [hfinal]
    show Except.ok (Utf8.decode (_ ++ [])) = _
    rw [append_nil, hplaintext, Utf8.decode_encode hvalue]

end

/-! ## The pages -/

variable {text : JsString}

theorem slices_cons {size : Nat} (hsize : 0 < size) (h : text ≠ []) :
    slices size text = text.take size :: slices size (text.drop size) := by
  have hpos := length_pos_iff.2 h
  have hcount : (text.length + size - 1) / size =
      ((text.drop size).length + size - 1) / size + 1 := by
    have hfirst : text.length + size - 1 = (text.length - 1) + size := by omega
    rw [length_drop, hfirst, Nat.add_div_right _ hsize]
    rcases le_or_gt size text.length with hle | hlt
    · rw [Nat.sub_add_cancel hle]
    · rw [Nat.sub_eq_zero_of_le hlt.le, Nat.div_eq_of_lt (by omega), Nat.div_eq_of_lt (by omega)]
  unfold slices
  rw [hcount, range_succ_eq_map, map_cons, map_map, Nat.zero_mul, drop_zero]
  refine congrArg _ (map_congr_left fun i _ => ?_)
  show (text.drop ((i + 1) * size)).take size = _
  rw [drop_drop, Nat.succ_mul, Nat.add_comm]

theorem pages_cons (h : text ≠ []) :
    pages text = text.take pageSize :: pages (text.drop pageSize) :=
  slices_cons (Nat.zero_lt_succ _) h

/-- The pages of a transport text of whole groups: each is a transport text, together they are
decoded to what the whole is decoded to, and each to whole groups. -/
theorem pages_decode (hurl : ∀ u ∈ text, Base64.isDigitOf .url u)
    (hdigit : ∀ u ∈ text, Base64.isDigit u) (hgroups : (Base64.decode text).length % 4 = 0) :
    (∀ part ∈ pages text, isTransport part) ∧
      ((pages text).map Base64.decode).flatten = Base64.decode text ∧
      ∀ part ∈ pages text, (Base64.decode part).length % 4 = 0 := by
  induction hlength : text.length using Nat.strong_induction_on generalizing text with
  | _ n ih =>
  rcases eq_or_ne text [] with rfl | hne
  · exact ⟨nofun, rfl, nofun⟩
  have hpos := length_pos_iff.2 hne
  have hpage : pageSize = 524288 := rfl
  have htake : (text.take pageSize).length = min pageSize text.length := length_take
  have hdrop : (text.drop pageSize).length = text.length - pageSize := length_drop
  have hfront : isTransport (text.take pageSize) := by
    have hpart : text.take pageSize ≠ [] := by
      intro he
      rw [he, length_nil] at htake
      omega
    simpa [isTransport, hpart] using fun u hu => hurl u (mem_of_mem_take hu)
  have hgroup : Base64.decode text =
        Base64.decode (text.take pageSize) ++ Base64.decode (text.drop pageSize) ∧
      (Base64.decode (text.take pageSize)).length % 4 = 0 := by
    rcases le_total text.length pageSize with hle | hge
    · rw [take_of_length_le hle, drop_eq_nil_of_le hle]
      exact ⟨(append_nil _).symm, hgroups⟩
    · have hfrontdigit : ∀ u ∈ text.take pageSize, Base64.isDigit u :=
        fun u hu => hdigit u (mem_of_mem_take hu)
      have hdecode := Base64.decode_append hfrontdigit (by rw [htake]; omega) (text.drop pageSize)
      rw [take_append_drop] at hdecode
      refine ⟨hdecode, ?_⟩
      rw [Base64.length_decode hfrontdigit, htake]
      omega
  have hback : (Base64.decode (text.drop pageSize)).length % 4 = 0 := by
    rw [hgroup.1, length_append] at hgroups
    omega
  obtain ⟨htransport, hflatten, hparts⟩ := ih _ (by omega)
    (fun u hu => hurl u (mem_of_mem_drop hu)) (fun u hu => hdigit u (mem_of_mem_drop hu)) hback rfl
  rw [pages_cons hne]
  refine ⟨?_, ?_, ?_⟩
  · exact forall_mem_cons.2 ⟨hfront, htransport⟩
  · rw [map_cons, flatten_cons, hflatten, ← hgroup.1]
  · exact forall_mem_cons.2 ⟨hgroup.2, hparts⟩

variable {parts : List JsString}

theorem authenticate_eq (decipher : gcm.Decipher)
    (h : ∀ part ∈ parts, isTransport part) :
    authenticate gcm decipher parts = .ok (gcm.updates decipher (parts.map Base64.decode)).2 := by
  induction parts generalizing decipher with
  | nil => rfl
  | cons part parts ih =>
    rw [authenticate, if_pos (h part (.head _)), ih _ fun p hp => h p (.tail _ hp)]
    rfl

variable {limit : Nat}

theorem decodePages_eq (decipher : gcm.Decipher) {state state' : Decoded}
    (h : ∀ part ∈ parts, isTransport part)
    (happend : (gcm.updates decipher (parts.map Base64.decode)).1.foldlM (append limit) state
      = .ok state') :
    decodePages gcm limit decipher state parts =
      .ok ((gcm.updates decipher (parts.map Base64.decode)).2, state') := by
  induction parts generalizing decipher state with
  | nil => exact congrArg (fun s => Except.ok (decipher, s)) (Except.ok.inj happend)
  | cons part parts ih =>
    rw [decodePages, if_pos (h part (.head _))]
    rw [map_cons, Gcm.updates, foldlM_cons] at happend
    cases hfirst : append limit state (gcm.update decipher (Base64.decode part)).1 with
    | error e => cases hfirst ▸ happend
    | ok state₁ =>
      rw [hfirst] at happend
      show (append limit state _ >>= _) = _
      rw [hfirst]
      exact ih _ (fun p hp => h p (.tail _ hp)) happend

/-! ## The base64 plaintext -/

theorem ok_bind {ε α β : Type} (value : α) (next : α → Except ε β) :
    (Except.ok value >>= next) = next value := rfl

variable {written bytes : Bytes}

/-- **One page.** Whole groups that encode `bytes` are written as `bytes`, and padding is met only
when the groups are not full. -/
theorem append_encoded (hne : bytes ≠ [])
    (hlimit : written.length + bytes.length ≤ limit) :
    ∃ padded, append limit ⟨written, [], false⟩ (Utf8.encode (Base64.encode .standard bytes)) =
        .ok ⟨written ++ bytes, [], padded⟩ ∧ (padded = true → bytes.length % 3 ≠ 0) := by
  have hlength := Base64.length_encode_standard bytes
  have hpos := length_pos_iff.2 hne
  have hnonempty : Base64.encode .standard bytes ≠ [] := by
    intro he
    rw [he, length_nil] at hlength
    omega
  have hwhole : (Base64.encode .standard bytes).length -
      (Base64.encode .standard bytes).length % 4 = (Base64.encode .standard bytes).length := by
    omega
  have hsegment : isSegment (Base64.encode .standard bytes) := by
    obtain ⟨k, hk, hdrop⟩ := Base64.dropWhile_encode bytes
    unfold isSegment
    rw [hdrop]
    obtain rfl | rfl | rfl : k = 0 ∨ k = 1 ∨ k = 2 := by omega
    all_goals decide
  have hascii : ∀ u ∈ Base64.encode .standard bytes, u.toNat < 0x80 :=
    fun u hu => Base64.ascii_of_mem_encode hu
  have hbound : ¬ written.length + bytes.length > limit := not_lt.2 hlimit
  refine ⟨(Base64.encode .standard bytes).contains Base64.pad, ?_, fun hpad hfull => ?_⟩
  · rw [append, if_neg (fun he => hnonempty (Utf8.encode_eq_nil.1 he)), if_neg Bool.false_ne_true]
    simp only [nil_append, Utf8.decode_encode (Utf8.isWellFormed_ascii hascii), hwhole,
      take_length, drop_length, hsegment, Base64.decode_encode, if_neg hbound]
    simp
  · exact Base64.pad_notMem_encode hfull (contains_iff_mem.1 hpad)

/-- Whole groups at the front of an encoded text encode the bytes at the front. -/
theorem encode_split {out rest : Bytes} {bytes : Bytes} (hgroups : out.length % 4 = 0)
    (htext : out ++ rest = Utf8.encode (Base64.encode .standard bytes)) :
    out = Utf8.encode (Base64.encode .standard (bytes.take (out.length / 4 * 3))) ∧
      rest = Utf8.encode (Base64.encode .standard (bytes.drop (out.length / 4 * 3))) := by
  have hascii : ∀ data : Bytes, Utf8.encode (Base64.encode .standard data) =
      (Base64.encode .standard data).map UInt16.toUInt8 :=
    fun data => Utf8.encode_ascii fun u hu => Base64.ascii_of_mem_encode hu
  have hlength : ∀ data : Bytes, (Utf8.encode (Base64.encode .standard data)).length =
      (data.length + 2) / 3 * 4 := by
    intro data
    rw [hascii, length_map, Base64.length_encode_standard]
  have hsplit : Base64.encode .standard bytes =
      Base64.encode .standard (bytes.take (out.length / 4 * 3)) ++
        Base64.encode .standard (bytes.drop (out.length / 4 * 3)) := by
    rcases le_total (out.length / 4 * 3) bytes.length with hle | hge
    · rw [← Base64.encode_append _ _ (by rw [length_take]; omega), take_append_drop]
    · rw [take_of_length_le hge, drop_eq_nil_of_le hge]
      exact (append_nil _).symm
  have htotal := congrArg length htext
  rw [length_append, hlength] at htotal
  rw [hascii, hsplit, map_append, ← hascii, ← hascii] at htext
  refine append_inj htext ?_
  rw [hlength, length_take]
  omega

/-- **All pages.** -/
theorem foldlM_append {outs : List Bytes} {padded : Bool}
    (hgroups : ∀ out ∈ outs, out.length % 4 = 0)
    (htext : outs.flatten = Utf8.encode (Base64.encode .standard bytes))
    (hlimit : written.length + bytes.length ≤ limit) (hpadded : padded = true → bytes = []) :
    ∃ padded', outs.foldlM (append limit) ⟨written, [], padded⟩ =
      .ok ⟨written ++ bytes, [], padded'⟩ := by
  induction outs generalizing written bytes padded with
  | nil =>
    have hempty : bytes = [] := by
      rw [flatten_nil, eq_comm, Utf8.encode_eq_nil] at htext
      rw [← Base64.decode_encode .standard bytes, htext]
      rfl
    exact ⟨padded, by rw [hempty, append_nil]; rfl⟩
  | cons out outs ih =>
    have hgroups' : ∀ o ∈ outs, o.length % 4 = 0 := fun o ho => hgroups o (.tail _ ho)
    rw [flatten_cons] at htext
    rw [foldlM_cons]
    rcases eq_or_ne out [] with rfl | hne
    · exact ih hgroups' htext hlimit hpadded
    obtain ⟨hout, hrest⟩ := encode_split (hgroups out (.head _)) htext
    have hbytes : bytes.take (out.length / 4 * 3) ≠ [] := by
      intro he
      rw [he] at hout
      exact hne hout
    have hclear : padded = false := by
      refine Bool.eq_false_iff.2 fun hpad => hbytes ?_
      rw [hpadded hpad, take_nil]
    have htake : written.length + (bytes.take (out.length / 4 * 3)).length ≤ limit := by
      rw [length_take]
      omega
    obtain ⟨padded₁, happend, hfull⟩ := append_encoded hbytes htake
    have hdrop : padded₁ = true → bytes.drop (out.length / 4 * 3) = [] := by
      intro hpad
      have hnotfull := hfull hpad
      rw [length_take] at hnotfull
      exact drop_eq_nil_of_le (by omega)
    have hlimit' : (written ++ bytes.take (out.length / 4 * 3)).length +
        (bytes.drop (out.length / 4 * 3)).length ≤ limit := by
      rw [length_append, length_take, length_drop]
      omega
    obtain ⟨padded', hfold⟩ := ih hgroups' hrest hlimit' hdrop
    refine ⟨padded', ?_⟩
    rw [hclear, hout, happend]
    rw [append_assoc, take_append_drop] at hfold
    exact hfold

theorem finishDecoding_eq {decipher : gcm.Decipher} {written : Bytes} {padded : Bool}
    (hfinal : gcm.final decipher = .ok []) :
    finishDecoding gcm limit (decipher, ⟨written, [], padded⟩) = .ok written := by
  unfold finishDecoding
  rw [hfinal]
  rfl

theorem groups_of_lengths {outs parts : List Bytes}
    (hlengths : outs.map List.length = parts.map List.length)
    (h : ∀ part ∈ parts, part.length % 4 = 0) : ∀ out ∈ outs, out.length % 4 = 0 := by
  intro out hout
  have hmem : out.length ∈ parts.map length := hlengths ▸ mem_map.2 ⟨out, hout, rfl⟩
  obtain ⟨part, hpart, hlength⟩ := mem_map.1 hmem
  exact hlength ▸ h part hpart

/-- The bound that is computed from the length of the ciphertext holds the payload and at most two
bytes more. -/
theorem upperBytes_eq (ciphertext : Bytes) (bytes : Bytes)
    (h : ciphertext.length = (bytes.length + 2) / 3 * 4) :
    upperBytes (Base64.encode .url ciphertext) = (bytes.length + 2) / 3 * 3 := by
  rw [upperBytes, Base64.length_encode_url, h]
  omega

/-- **`decryptSecretBase64` undoes the encryption of base64 for every payload but the empty one.**
The bound on the payload must be a safe integer, as the decoder demands. -/
theorem decryptSecretBase64_iff {bytes : Bytes} {maxBytes : Int} (hideal : gcm.Ideal)
    (hmax : bytes.length ≤ maxBytes)
    (h : encryptSecret gcm envKey iv (Base64.encode .standard bytes) = .ok envelope) :
    decryptSecretBase64 gcm envKey envelope maxBytes = .ok bytes ↔
      bytes ≠ [] ∧ isSafeInteger maxBytes := by
  obtain ⟨key, hkey, hextra, hparts⟩ := encryptSecret_parts hideal h
  have hempty : Base64.encode .standard bytes = [] ↔ bytes = [] :=
    ⟨fun he => by rw [← Base64.decode_encode .standard bytes, he]; rfl, fun he => he ▸ rfl⟩
  unfold decryptSecretBase64
  rw [hparts, hextra]
  rcases eq_or_ne bytes [] with hnil | hne
  · rw [if_pos (hempty.2 hnil)]
    exact ⟨nofun, fun hne => absurd hnil hne.1⟩
  rw [if_neg fun he => hne (hempty.1 he)]
  cases hsafe : isSafeInteger maxBytes with
  | false => exact ⟨nofun, fun hboth => nomatch hboth.2⟩
  | true =>
  refine ⟨fun _ => ⟨hne, rfl⟩, fun _ => ?_⟩
  have hlength : (gcm.encrypt key iv (Utf8.encode (Base64.encode .standard bytes))).1.length =
      (bytes.length + 2) / 3 * 4 := by
    rw [hideal.length_ciphertext, Utf8.encode_ascii fun u hu => Base64.ascii_of_mem_encode hu,
      length_map, Base64.length_encode_standard]
  have hupper := upperBytes_eq _ bytes hlength
  obtain ⟨htransport, hflatten, hgroups⟩ := pages_decode
    (fun u hu => (Base64.isDigitOf_of_mem_url hu).1)
    (fun u hu => (Base64.isDigitOf_of_mem_url hu).2)
    (by rw [Base64.decode_encode, hlength]; omega)
  rw [Base64.decode_encode] at hflatten
  -- the loops run over these parts, whatever the slices are
  dsimp only
  generalize pages _ = parts at htransport hflatten hgroups ⊢
  obtain ⟨decipher, hdecipher, hplaintext, hlengths, hfinal⟩ :=
    hideal.decrypt key iv (Utf8.encode (Base64.encode .standard bytes)) _ hflatten
  have hwhole := groups_of_lengths hlengths (forall_mem_map.2 hgroups)
  have hfits :
      ([] : Bytes).length + bytes.length ≤ min ((bytes.length + 2) / 3 * 3) maxBytes.toNat := by
    rw [length_nil]
    omega
  have hclear : false = true → bytes = [] := nofun
  obtain ⟨padded, hfold⟩ := foldlM_append hwhole hplaintext hfits hclear
  rw [if_neg (by simp; omega), if_neg (by rw [hupper]; omega), hkey, hupper]
  simp only [Base64.decode_encode]
  rw [ok_bind, hdecipher, ok_bind, authenticate_eq decipher htransport, ok_bind, hfinal, ok_bind,
    ok_bind, decodePages_eq decipher htransport hfold, ok_bind]
  exact finishDecoding_eq hfinal

/-- **When the decoders undo the encoder.** With the key configured, a well-formed string comes back
from `decryptSecret` if and only if it is not empty, and a byte sequence within the bound comes back
from `decryptSecretBase64` if and only if it is not empty and the bound is a safe integer. -/
theorem secrets_round_trip_iff {key : Bytes} (hideal : gcm.Ideal)
    (hkey : encryptionKey envKey = .ok key) (iv : Iv) :
    (∀ value, Utf8.isWellFormed value →
      ((encryptSecret gcm envKey iv value >>= decryptSecret gcm envKey) = .ok value ↔ value ≠ [])) ∧
    ∀ (bytes : Bytes) (maxBytes : Int), bytes.length ≤ maxBytes →
      ((do decryptSecretBase64 gcm envKey
            (← encryptSecret gcm envKey iv (Base64.encode .standard bytes)) maxBytes) = .ok bytes ↔
        bytes ≠ [] ∧ isSafeInteger maxBytes) := by
  constructor
  · intro value hvalue
    obtain ⟨envelope, henvelope⟩ := encryptSecret_of_key gcm hkey iv value
    rw [henvelope]
    exact decryptSecret_iff hideal hvalue henvelope
  · intro bytes maxBytes hmax
    obtain ⟨envelope, henvelope⟩ := encryptSecret_of_key gcm hkey iv (Base64.encode .standard bytes)
    rw [henvelope]
    exact decryptSecretBase64_iff hideal hmax henvelope

end

/-! ## A run of the cipher -/

/-- The `ENCRYPTION_KEY` of the tests: 64 times `a`. -/
def testKey : JsString := List.replicate 64 0x61

/-- The first block of the AES-256-GCM keystream for `testKey` and an IV of zeros. -/
def testKeystream : Bytes :=
  [177, 173, 5, 52, 172, 189, 47, 35, 19, 130, 69, 254, 227, 103, 70, 184]

/-- The tag of the text `Zg==`, and the tag of the empty text. -/
def testTag (plaintext : Bytes) : Bytes :=
  if plaintext = [] then [169, 13, 7, 46, 125, 174, 228, 216, 2, 153, 165, 73, 83, 197, 208, 60]
  else [82, 85, 23, 199, 8, 59, 239, 107, 174, 252, 208, 96, 80, 163, 88, 109]

/-- The bytes of a stream, from an offset on, combined with the keystream. -/
def streamXor (offset : Nat) : Bytes → Bytes
  | [] => []
  | byte :: bytes => (byte ^^^ testKeystream.getD offset 0) :: streamXor (offset + 1) bytes

/-- A stream cipher that does what AES-256-GCM does with `testKey`, an IV of zeros and a text of
one block. -/
def testGcm : Gcm where
  Decipher := Nat
  encrypt _ _ plaintext := (streamXor 0 plaintext, testTag plaintext)
  createDecipheriv _ _ _ := .ok 0
  update offset part := (streamXor offset part, offset + part.length)
  final _ := .ok []

theorem length_streamXor (offset : Nat) (bytes : Bytes) :
    (streamXor offset bytes).length = bytes.length := by
  induction bytes generalizing offset with
  | nil => rfl
  | cons byte bytes ih => exact congrArg Nat.succ (ih _)

theorem streamXor_append (offset : Nat) (front back : Bytes) :
    streamXor offset (front ++ back) =
      streamXor offset front ++ streamXor (offset + front.length) back := by
  induction front generalizing offset with
  | nil => rfl
  | cons byte front ih =>
    rw [cons_append, streamXor, ih, streamXor, length_cons, Nat.add_right_comm]
    rfl

theorem streamXor_self (offset : Nat) (bytes : Bytes) :
    streamXor offset (streamXor offset bytes) = bytes := by
  induction bytes generalizing offset with
  | nil => rfl
  | cons byte bytes ih =>
    rw [streamXor, streamXor, ih, UInt8.xor_assoc, UInt8.xor_self, UInt8.xor_zero]

theorem testGcm_updates (offset : Nat) (parts : List Bytes) :
    (testGcm.updates offset parts).1.flatten = streamXor offset parts.flatten ∧
      (testGcm.updates offset parts).1.map List.length = parts.map List.length := by
  induction parts generalizing offset with
  | nil => exact ⟨rfl, rfl⟩
  | cons part parts ih =>
    obtain ⟨hflatten, hlengths⟩ := ih (offset + part.length)
    rw [flatten_cons, streamXor_append, ← hflatten, map_cons, ← hlengths]
    exact ⟨rfl, congrArg (· :: _) (length_streamXor offset part)⟩

theorem testGcm_ideal : testGcm.Ideal := by
  refine ⟨fun _ _ plaintext => length_streamXor 0 plaintext, fun _ _ plaintext => ?_, ?_⟩
  · show (testTag plaintext).length = 16
    unfold testTag
    split <;> rfl
  · intro key iv plaintext parts hparts
    obtain ⟨hflatten, hlengths⟩ := testGcm_updates 0 parts
    refine ⟨(0 : Nat), rfl, ?_, hlengths, rfl⟩
    rw [hflatten, hparts]
    exact streamXor_self 0 plaintext

/-- Twelve zero bytes. -/
def zeroIv : Iv := ⟨List.replicate 12 0, rfl⟩

theorem encryptionKey_testKey : ∃ key, encryptionKey (some testKey) = .ok key := by
  have htestKey : testKey.length = 64 ∧ testKey.all isHexDigit := by
    refine ⟨length_replicate, all_eq_true.2 fun u hu => ?_⟩
    exact eq_of_mem_replicate hu ▸ (by decide)
  refine ⟨ofHex testKey, ?_⟩
  have hpresent : (some testKey).bind orNull = some testKey :=
    orNull_eq_some.2 ⟨rfl, nofun⟩
  unfold encryptionKey
  rw [hpresent]
  exact if_pos htestKey

/-- `Zg==` and the byte that it encodes come back. -/
theorem round_trip_Zg :
    (encryptSecret testGcm (some testKey) zeroIv (lit "Zg==") >>=
        decryptSecret testGcm (some testKey)) = .ok (lit "Zg==") ∧
      (do decryptSecretBase64 testGcm (some testKey)
            (← encryptSecret testGcm (some testKey) zeroIv (Base64.encode .standard [0x66])) 1)
        = .ok [0x66] := by
  obtain ⟨key, hkey⟩ := encryptionKey_testKey
  obtain ⟨htext, hbytes⟩ := secrets_round_trip_iff testGcm_ideal hkey zeroIv
  exact ⟨(htext _ (by decide)).2 (by decide), (hbytes _ 1 (by decide)).2 (by decide)⟩

/-- The empty string comes back from neither decoder. -/
theorem round_trip_empty :
    ¬ ((∀ value, Utf8.isWellFormed value →
        (encryptSecret testGcm (some testKey) zeroIv value >>=
          decryptSecret testGcm (some testKey)) = .ok value) ∧
      ∀ (bytes : Bytes) (maxBytes : Int), bytes.length ≤ maxBytes →
        (do decryptSecretBase64 testGcm (some testKey)
              (← encryptSecret testGcm (some testKey) zeroIv (Base64.encode .standard bytes))
              maxBytes) = .ok bytes) ∧
      (encryptSecret testGcm (some testKey) zeroIv [] >>= decryptSecret testGcm (some testKey)) =
        .error "Unsupported encrypted secret format." := by
  obtain ⟨key, hkey⟩ := encryptionKey_testKey
  obtain ⟨envelope, henvelope⟩ := encryptSecret_of_key testGcm hkey zeroIv []
  have hempty : (encryptSecret testGcm (some testKey) zeroIv [] >>=
      decryptSecret testGcm (some testKey)) = .error "Unsupported encrypted secret format." := by
    rw [henvelope]
    exact decryptSecret_empty testGcm_ideal henvelope
  exact ⟨fun h => (nomatch hempty.symm.trans (h.1 [] rfl)), hempty⟩

end Corgtex.Shared
