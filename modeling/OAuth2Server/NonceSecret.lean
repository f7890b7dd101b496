import OAuth2Server.Base64Url

/-!
# Reading the nonce secret

`decode_dpop_nonce_secret` of `services/dpop_nonce.py` tries base64url, standard
base64 and hex in turn. The alphabets overlap, the lengths do not.
-/

namespace OAuth2Server.NonceSecret

open OAuth2Server Text Base64Url

set_option autoImplicit false

/-! ### The decoders -/

/-- The characters of `_B64URL_RE`. -/
def isBase64UrlChar (char : Char) : Bool :=
  ('A' ≤ char && char ≤ 'Z') || ('a' ≤ char && char ≤ 'z') || ('0' ≤ char && char ≤ '9') ||
    char == '_' || char == '-'

/-- `_decode_b64url_nopad`. -/
def decodeB64UrlNopad (raw : String) : Option (List Nat) :=
  if raw.toList ≠ [] ∧ raw.toList.all isBase64UrlChar then b64urlDecode raw else none

/-- The loop of `binascii.a2b_base64` in its strict mode: no character outside the
alphabet, nothing after the padding, no data between padding. `started` says that
padding was seen. -/
def a2bStrict : Nat → Nat → Nat → Bool → List Char → Option (List Nat)
  | phase, _, _, _, [] => if phase = 0 then some [] else none
  | phase, held, pads, started, char :: rest =>
      if char = '=' then
        if 2 ≤ phase ∧ 4 ≤ phase + (pads + 1) then if rest = [] then some [] else none
        else a2bStrict phase held (if 2 ≤ phase then pads + 1 else pads) true rest
      else
        match base64Value char with
        | none => none
        | some bits =>
            if started then none
            else
              match phase with
              | 0 => a2bStrict 1 bits 0 false rest
              | 1 => (a2bStrict 2 (bits % 16) 0 false rest).map ((held * 4 + bits / 16) :: ·)
              | 2 => (a2bStrict 3 (bits % 4) 0 false rest).map ((held * 16 + bits / 4) :: ·)
              | _ => (a2bStrict 0 0 0 false rest).map ((held * 64 + bits) :: ·)

/-- `base64.b64decode(text, validate=True)`: ASCII only, and no leading padding. -/
def b64decodeStrict (text : List Char) : Option (List Nat) :=
  if (text.all fun char => char.toNat < 128) ∧ text.head? ≠ some '=' then
    a2bStrict 0 0 0 false text
  else none

/-- `_decode_b64_std`. -/
def decodeB64Std (raw : String) : Option (List Nat) :=
  b64decodeStrict (raw.toList ++ padding raw.toList.length)

/-- ASCII whitespace, which `bytes.fromhex` skips between bytes. -/
def isHexSpace (char : Char) : Bool :=
  (9 ≤ char.toNat && char.toNat ≤ 13) || char == ' '

/-- `bytes.fromhex`. -/
def fromHex : List Char → Option (List Nat)
  | [] => some []
  | [char] => if isHexSpace char then some [] else none
  | high :: low :: rest =>
      if isHexSpace high then fromHex (low :: rest)
      else do
        let h ← hexDigit high
        let l ← hexDigit low
        let bytes ← fromHex rest
        some ((h * 16 + l) :: bytes)

/-- `_decode_hex64`, where `None` and `ValueError` come to the same. -/
def decodeHex64 (raw : String) : Option (List Nat) :=
  if raw.toList.length = 64 then fromHex raw.toList else none

/-- `decode_dpop_nonce_secret`, handed the bytes that `secrets.token_bytes(32)`
would give. -/
def decodeDpopNonceSecret (raw : Option String) (tokenBytes : List Nat) : List Nat :=
  match raw.filter (· != "") with
  | none => tokenBytes
  | some raw =>
      ([decodeB64UrlNopad, decodeB64Std, decodeHex64].findSome? fun decode =>
        (decode raw).filter fun candidate => candidate.length == 32).getD tokenBytes

/-! ### The encodings -/

/-- `base64.b64encode(data)` without its padding. -/
def b64encodeNopad (bytes : List Nat) : List Char := (b64urlEncode bytes).map standard

/-- `base64.b64encode(data)`. -/
def b64encode (bytes : List Nat) : List Char :=
  b64encodeNopad bytes ++ padding (b64encodeNopad bytes).length

/-- Two hex digits for each byte, each in either case. -/
inductive HexOf : List Nat → List Char → Prop
  | nil : HexOf [] []
  | cons {high low : Char} {h l : Nat} {bytes : List Nat} {text : List Char}
      (first : hexDigit high = some h) (second : hexDigit low = some l) (rest : HexOf bytes text) :
      HexOf ((h * 16 + l) :: bytes) (high :: low :: text)

/-! ### Characters -/

theorem encoded_small (bytes : List Nat) :
    ∀ char ∈ b64urlEncode bytes, ∃ bits < 64, char = base64UrlChar bits := by
  intro char member
  obtain ⟨bits, same⟩ := encoded_char bytes char member
  by_cases small : bits < 64
  · exact ⟨bits, small, same⟩
  · have last : base64UrlChar bits = base64UrlChar 63 := by
      unfold base64UrlChar
      rw [if_neg (by omega), if_neg (by omega), if_neg (by omega), if_neg (by omega)]
      rfl
    exact ⟨63, by omega, same.trans last⟩

/-- What the decoders make of a character of either alphabet. -/
theorem char_facts : ∀ bits : Fin 64,
    isBase64UrlChar (base64UrlChar bits) = true ∧
      (isBase64UrlChar (standard (base64UrlChar bits)) = true →
        standard (base64UrlChar bits) = base64UrlChar bits) := by
  decide +kernel

/-- Data that both loops take in the same way. -/
def Data (char : Char) : Prop := char ≠ '=' ∧ ∃ bits, base64Value char = some bits

theorem data_of_standard (bytes : List Nat) : ∀ char ∈ b64encodeNopad bytes, Data char := by
  intro char member
  obtain ⟨source, listed, rfl⟩ := List.mem_map.1 member
  obtain ⟨bits, small, rfl⟩ := encoded_small bytes source listed
  obtain ⟨value, nonpad, -⟩ := standard_value ⟨bits, small⟩
  exact ⟨nonpad, bits, value⟩

theorem data_of_hex {char : Char} {value : Nat} (digit : hexDigit char = some value) :
    Data char ∧ standard char = char ∧ isHexSpace char = false ∧ char.toNat < 128 := by
  have ranges : ('0' ≤ char ∧ char ≤ '9') ∨ ('a' ≤ char ∧ char ≤ 'f') ∨
      ('A' ≤ char ∧ char ≤ 'F') := by
    unfold hexDigit at digit
    split at digit
    · next range => exact Or.inl range
    · split at digit
      · next range => exact Or.inr (Or.inl range)
      · split at digit
        · next range => exact Or.inr (Or.inr range)
        · cases digit
  have bounds : (48 ≤ char.toNat ∧ char.toNat ≤ 57) ∨ (97 ≤ char.toNat ∧ char.toNat ≤ 102) ∨
      (65 ≤ char.toNat ∧ char.toNat ≤ 70) := ranges
  have all : ∀ code : Fin 128, (48 ≤ code.val ∧ code.val ≤ 57) ∨
      (97 ≤ code.val ∧ code.val ≤ 102) ∨ (65 ≤ code.val ∧ code.val ≤ 70) →
      (Char.ofNat code ≠ '=' ∧ (base64Value (Char.ofNat code)).isSome = true) ∧
        standard (Char.ofNat code) = Char.ofNat code ∧ isHexSpace (Char.ofNat code) = false := by
    decide +kernel
  have small : char.toNat < 128 := by omega
  have facts := all ⟨char.toNat, small⟩ bounds
  rw [Char.ofNat_toNat] at facts
  exact ⟨⟨facts.1.1, Option.isSome_iff_exists.1 facts.1.2⟩, facts.2.1, facts.2.2, small⟩

/-! ### The loops -/

/-- Complete data with its padding is read alike by both loops, by induction on the data. -/
theorem strict_eq_lenient (data : List Char) (pads : Nat) (few : pads ≤ 2) :
    ∀ phase held, phase < 4 → (∀ char ∈ data, Data char) →
      (phase + data.length + pads) % 4 = 0 →
      a2bStrict phase held 0 false (data ++ List.replicate pads '=') =
        a2bBase64 phase held 0 (data ++ List.replicate pads '=') := by
  induction data with
  | nil =>
      intro phase held small _ complete
      simp only [List.length_nil, Nat.add_zero] at complete
      have cases3 : (phase = 0 ∧ pads = 0) ∨ (phase = 3 ∧ pads = 1) ∨ (phase = 2 ∧ pads = 2) := by
        omega
      rcases cases3 with ⟨rfl, rfl⟩ | ⟨rfl, rfl⟩ | ⟨rfl, rfl⟩
      · rfl
      · rfl
      · rfl
  | cons char rest induction =>
      intro phase held small data complete
      obtain ⟨nonpad, bits, value⟩ := data char List.mem_cons_self
      have later : ∀ next held, next < 4 → (next + rest.length + pads) % 4 = 0 →
          a2bStrict next held 0 false (rest ++ List.replicate pads '=') =
            a2bBase64 next held 0 (rest ++ List.replicate pads '=') :=
        fun next held bound whole =>
          induction next held bound (fun other member => data other (List.mem_cons_of_mem _ member))
            whole
      simp only [List.length_cons] at complete
      rw [List.cons_append, a2bStrict, a2bBase64, if_neg nonpad, if_neg nonpad, value]
      have phases : phase = 0 ∨ phase = 1 ∨ phase = 2 ∨ phase = 3 := by omega
      rcases phases with rfl | rfl | rfl | rfl
      · exact later 1 bits (by omega) (by omega)
      · simp only [Bool.false_eq_true, if_false]
        rw [later 2 (bits % 16) (by omega) (by omega)]
      · simp only [Bool.false_eq_true, if_false]
        rw [later 3 (bits % 4) (by omega) (by omega)]
      · simp only [Bool.false_eq_true, if_false]
        rw [later 0 0 (by omega) (by omega)]

/-- Three bytes come of four characters. -/
theorem lenient_length (data : List Char) :
    ∀ phase held out, phase < 4 → (∀ char ∈ data, Data char) →
      a2bBase64 phase held 0 data = some out →
      4 * out.length + 4 * (phase - 1) = 3 * (data.length + phase) := by
  induction data with
  | nil =>
      intro phase held out small _ read
      unfold a2bBase64 at read
      split at read
      · next complete =>
          cases read
          subst complete
          rfl
      · cases read
  | cons char rest induction =>
      intro phase held out small data read
      obtain ⟨nonpad, bits, value⟩ := data char List.mem_cons_self
      have later : ∀ next held out, next < 4 → a2bBase64 next held 0 rest = some out →
          4 * out.length + 4 * (next - 1) = 3 * (rest.length + next) :=
        fun next held out bound =>
          induction next held out bound fun other member => data other (List.mem_cons_of_mem _ member)
      rw [a2bBase64, if_neg nonpad, value] at read
      rw [List.length_cons]
      have phases : phase = 0 ∨ phase = 1 ∨ phase = 2 ∨ phase = 3 := by omega
      rcases phases with rfl | rfl | rfl | rfl
      · have counted := later 1 bits out (by omega) read
        omega
      · obtain ⟨bytes, reads, rfl⟩ := Option.map_eq_some_iff.1 read
        have counted := later 2 _ bytes (by omega) reads
        simp only [List.length_cons]
        omega
      · obtain ⟨bytes, reads, rfl⟩ := Option.map_eq_some_iff.1 read
        have counted := later 3 _ bytes (by omega) reads
        simp only [List.length_cons]
        omega
      · obtain ⟨bytes, reads, rfl⟩ := Option.map_eq_some_iff.1 read
        have counted := later 0 _ bytes (by omega) reads
        simp only [List.length_cons]
        omega

theorem encoded_length (bytes : List Nat) :
    (b64urlEncode bytes).length = (4 * bytes.length + 2) / 3 := by
  induction bytes using b64urlEncode.induct with
  | case1 a b c rest induction =>
      rw [b64urlEncode]
      simp only [List.length_cons, induction]
      omega
  | case2 a b => simp [b64urlEncode]
  | case3 a => simp [b64urlEncode]
  | case4 => rfl

/-- What `urlsafe_b64decode` hands to the loop. -/
theorem url_decode_reads {text : List Char} {bytes : List Nat}
    (read : b64urlDecode (String.ofList text) = some bytes) :
    a2bBase64 0 0 0 ((text ++ padding text.length).map standard) = some bytes := by
  unfold b64urlDecode b64decode at read
  dsimp only at read
  rw [String.toList_ofList, String.toList_ofList] at read
  split at read
  · exact read
  · cases read

/-! ### Hex -/

theorem hex_length {bytes : List Nat} {text : List Char} (hex : HexOf bytes text) :
    text.length = 2 * bytes.length := by
  induction hex with
  | nil => rfl
  | cons _ _ _ induction =>
      simp only [List.length_cons, induction]
      omega

theorem hex_digits {bytes : List Nat} {text : List Char} (hex : HexOf bytes text) :
    ∀ char ∈ text, ∃ value, hexDigit char = some value := by
  induction hex with
  | nil => simp
  | cons first second _ induction =>
      intro char member
      rcases List.mem_cons.1 member with rfl | member
      · exact ⟨_, first⟩
      · rcases List.mem_cons.1 member with rfl | member
        · exact ⟨_, second⟩
        · exact induction char member

theorem from_hex {bytes : List Nat} {text : List Char} (hex : HexOf bytes text) :
    fromHex text = some bytes := by
  induction hex with
  | nil => rfl
  | cons first second _ induction =>
      have solid := (data_of_hex first).2.2.1
      unfold fromHex
      rw [solid, first, second, induction]
      rfl

/-- Sixty-four digits are forty-eight bytes to either base64 decoder. -/
theorem hex_unclaimed {key : List Nat} {text : List Char} (hex : HexOf key text)
    (length : key.length = 32) {bytes : List Nat} :
    (decodeB64UrlNopad (String.ofList text) = some bytes → bytes.length = 48) ∧
    (decodeB64Std (String.ofList text) = some bytes → bytes.length = 48) := by
  have counted : text.length = 64 := by
    rw [hex_length hex, length]
  have data : ∀ char ∈ text, Data char := by
    intro char member
    obtain ⟨value, digit⟩ := hex_digits hex char member
    exact (data_of_hex digit).1
  have unpadded : padding text.length = [] := by
    rw [counted]
    rfl
  constructor
  · intro claimed
    unfold decodeB64UrlNopad at claimed
    split at claimed
    · have translated : text.map standard = text := by
        have same : ∀ char ∈ text, standard char = id char := by
          intro char member
          obtain ⟨value, digit⟩ := hex_digits hex char member
          exact (data_of_hex digit).2.1
        rw [List.map_congr_left same, List.map_id]
      have lenient := url_decode_reads claimed
      rw [unpadded, List.append_nil, translated] at lenient
      have sized := lenient_length text 0 0 bytes (by omega) data lenient
      omega
    · cases claimed
  · intro claimed
    unfold decodeB64Std b64decodeStrict at claimed
    rw [String.toList_ofList, unpadded, List.append_nil] at claimed
    split at claimed
    · have lenient := strict_eq_lenient text 0 (by omega) 0 0 (by omega) data (by omega)
      rw [List.replicate_zero, List.append_nil] at lenient
      rw [lenient] at claimed
      have sized := lenient_length text 0 0 bytes (by omega) data claimed
      omega
    · cases claimed

/-! ### Standard base64 -/

theorem standard_length (bytes : List Nat) :
    (b64encodeNopad bytes).length = (b64urlEncode bytes).length := List.length_map standard

theorem standard_padding (length : Nat) : (padding length).map standard = padding length := by
  unfold padding
  rw [List.map_replicate]
  rfl

/-- The strict decoder reads what the standard encoder writes. -/
theorem strict_reads (bytes : List Nat) (inRange : Bytes bytes) :
    b64decodeStrict (b64encode bytes) = some bytes := by
  have data := data_of_standard bytes
  have ascii : ((b64encode bytes).all fun char => char.toNat < 128) = true := by
    rw [List.all_eq_true]
    intro char member
    rcases List.mem_append.1 member with encoded | padded
    · obtain ⟨source, listed, rfl⟩ := List.mem_map.1 encoded
      obtain ⟨bits, rfl⟩ := encoded_char bytes source listed
      exact decide_eq_true (standard_ascii bits)
    · rw [List.eq_of_mem_replicate padded]
      decide
  have starts : (b64encode bytes).head? ≠ some '=' := by
    unfold b64encode
    cases encoded : b64encodeNopad bytes with
    | nil => simp [padding]
    | cons first rest =>
        have solid := data first (by simp [encoded])
        simpa using solid.1
  have complete := encoded_length bytes
  have read : a2bStrict 0 0 0 false (b64encode bytes) = a2bBase64 0 0 0 (b64encode bytes) := by
    unfold b64encode padding
    rw [standard_length]
    apply strict_eq_lenient
    · omega
    · omega
    · exact data
    · rw [standard_length]
      omega
  have translated : b64encode bytes =
      (b64urlEncode bytes ++ padding (b64urlEncode bytes).length).map standard := by
    unfold b64encode b64encodeNopad
    rw [List.length_map, List.map_append, standard_padding]
  unfold b64decodeStrict
  rw [if_pos ⟨ascii, starts⟩, read, translated]
  exact decode_quanta bytes inRange

/-- Where the first decoder takes standard base64, no character tells the alphabets apart. -/
theorem url_alphabet_shared (bytes : List Nat)
    (matching : (b64encodeNopad bytes).all isBase64UrlChar = true) :
    b64encodeNopad bytes = b64urlEncode bytes := by
  have same : ∀ char ∈ b64urlEncode bytes, standard char = id char := by
    intro char member
    obtain ⟨bits, small, rfl⟩ := encoded_small bytes char member
    have listed := List.all_eq_true.1 matching _ (List.mem_map_of_mem member)
    exact (char_facts ⟨bits, small⟩).2 listed
  unfold b64encodeNopad
  rw [List.map_congr_left same, List.map_id]

section Key

variable {key : List Nat} (inRange : Bytes key) (length : key.length = 32)

include length

theorem key_encoded_length : (b64urlEncode key).length = 43 := by
  rw [encoded_length, length]

theorem key_padded : b64encode key = b64encodeNopad key ++ ['='] := by
  unfold b64encode
  rw [standard_length, key_encoded_length length]
  rfl

include inRange

theorem url_reads_url :
    decodeB64UrlNopad (String.ofList (b64urlEncode key)) = some key := by
  have counted := key_encoded_length length
  have nonempty : b64urlEncode key ≠ [] := by
    intro empty
    rw [empty] at counted
    cases counted
  have matching : (b64urlEncode key).all isBase64UrlChar = true := by
    rw [List.all_eq_true]
    intro char member
    obtain ⟨bits, small, rfl⟩ := encoded_small key char member
    exact (char_facts ⟨bits, small⟩).1
  unfold decodeB64UrlNopad
  rw [String.toList_ofList, if_pos ⟨nonempty, matching⟩]
  exact decode_encode key inRange

theorem url_on_unpadded :
    decodeB64UrlNopad (String.ofList (b64encodeNopad key)) = none ∨
      decodeB64UrlNopad (String.ofList (b64encodeNopad key)) = some key := by
  by_cases matching : (b64encodeNopad key).all isBase64UrlChar = true
  · right
    rw [url_alphabet_shared key matching]
    exact url_reads_url inRange length
  · left
    unfold decodeB64UrlNopad
    rw [String.toList_ofList]
    exact if_neg fun accepted => matching accepted.2

omit inRange in
theorem url_on_padded : decodeB64UrlNopad (String.ofList (b64encode key)) = none := by
  unfold decodeB64UrlNopad
  rw [String.toList_ofList, key_padded length]
  apply if_neg
  rintro ⟨_, matching⟩
  have last := List.all_eq_true.1 matching '=' (by simp)
  revert last
  decide

omit length in
theorem std_reads_unpadded :
    decodeB64Std (String.ofList (b64encodeNopad key)) = some key := by
  unfold decodeB64Std
  rw [String.toList_ofList]
  exact strict_reads key inRange

theorem std_reads_padded : decodeB64Std (String.ofList (b64encode key)) = some key := by
  have whole : padding (b64encode key).length = [] := by
    rw [key_padded length, List.length_append, standard_length, key_encoded_length length]
    rfl
  unfold decodeB64Std
  rw [String.toList_ofList, whole, List.append_nil]
  exact strict_reads key inRange

end Key

/-! ### The secret -/

theorem secret_of_trials {raw : String} (given : raw ≠ "") (tokenBytes : List Nat) :
    decodeDpopNonceSecret (some raw) tokenBytes =
      (((decodeB64UrlNopad raw).filter fun candidate => candidate.length == 32).or
        (((decodeB64Std raw).filter fun candidate => candidate.length == 32).or
          ((decodeHex64 raw).filter fun candidate => candidate.length == 32))).getD tokenBytes := by
  have present : (some raw).filter (· != "") = some raw := by
    simp [Option.filter, given]
  unfold decodeDpopNonceSecret
  rw [present]
  dsimp only [List.findSome?]
  cases (decodeB64UrlNopad raw).filter fun candidate => candidate.length == 32 with
  | some candidate => rfl
  | none =>
      cases (decodeB64Std raw).filter fun candidate => candidate.length == 32 with
      | some candidate => rfl
      | none =>
          cases (decodeHex64 raw).filter fun candidate => candidate.length == 32 <;> rfl

theorem text_given {text : List Char} (nonempty : 0 < text.length) : String.ofList text ≠ "" := by
  intro empty
  have same := congrArg String.toList empty
  rw [String.toList_ofList] at same
  rw [same] at nonempty
  exact absurd nonempty (by decide)

/-- Every encoding of a key is read back as the key, and no decoder takes an encoding
that is meant for a later one for another key. -/
theorem nonce_secret_reads_back (key : List Nat) (inRange : Bytes key) (length : key.length = 32)
    (tokenBytes : List Nat) :
    (decodeDpopNonceSecret (some (String.ofList (b64urlEncode key))) tokenBytes = key ∧
      decodeDpopNonceSecret (some (String.ofList (b64encode key))) tokenBytes = key ∧
      decodeDpopNonceSecret (some (String.ofList (b64encodeNopad key))) tokenBytes = key ∧
      ∀ text, HexOf key text →
        decodeDpopNonceSecret (some (String.ofList text)) tokenBytes = key) ∧
    decodeB64UrlNopad (String.ofList (b64encode key)) = none ∧
    (∀ bytes, decodeB64UrlNopad (String.ofList (b64encodeNopad key)) = some bytes →
      bytes = key) ∧
    ∀ text bytes, HexOf key text →
      decodeB64UrlNopad (String.ofList text) = some bytes ∨
        decodeB64Std (String.ofList text) = some bytes → bytes.length ≠ 32 := by
  have accepted : (some key).filter (fun candidate => candidate.length == 32) = some key := by
    rw [Option.filter_some, length]
    rfl
  have counted := key_encoded_length length
  have standardCounted : (b64encodeNopad key).length = 43 := (standard_length key).trans counted
  refine ⟨⟨?_, ?_, ?_, ?_⟩, url_on_padded length, ?_, ?_⟩
  · rw [secret_of_trials (text_given (by omega)), url_reads_url inRange length, accepted]
    rfl
  · have given : String.ofList (b64encode key) ≠ "" := by
      apply text_given
      rw [key_padded length, List.length_append]
      omega
    rw [secret_of_trials given, url_on_padded length, std_reads_padded inRange length, accepted]
    rfl
  · rw [secret_of_trials (text_given (by omega)), std_reads_unpadded inRange, accepted]
    rcases url_on_unpadded inRange length with refused | taken
    · rw [refused]
      rfl
    · rw [taken, accepted]
      rfl
  · intro text hex
    have sized : text.length = 64 := by
      rw [hex_length hex, length]
    have unclaimed : ∀ outcome : Option (List Nat),
        (∀ bytes, outcome = some bytes → bytes.length = 48) →
        outcome.filter (fun candidate => candidate.length == 32) = none := by
      intro outcome long
      cases outcome with
      | none => rfl
      | some bytes =>
          rw [Option.filter_some, long bytes rfl]
          rfl
    have read : decodeHex64 (String.ofList text) = some key := by
      unfold decodeHex64
      rw [String.toList_ofList, if_pos sized]
      exact from_hex hex
    rw [secret_of_trials (text_given (by omega)),
      unclaimed _ fun bytes => (hex_unclaimed hex length).1,
      unclaimed _ fun bytes => (hex_unclaimed hex length).2, read, accepted]
    rfl
  · intro bytes taken
    rcases url_on_unpadded inRange length with refused | same
    · cases refused.symm.trans taken
    · exact (Option.some.inj (same.symm.trans taken)).symm
  · intro text bytes hex claimed
    have long : bytes.length = 48 := by
      rcases claimed with url | std
      · exact (hex_unclaimed hex length).1 url
      · exact (hex_unclaimed hex length).2 std
    omega

theorem zero_secret_reads_back :
    let key := List.replicate 32 0
    decodeDpopNonceSecret (some (String.ofList (b64urlEncode key))) [] = key ∧
      decodeDpopNonceSecret (some (String.ofList (b64encode key))) [] = key := by
  have inRange : Bytes (List.replicate 32 0) := by
    intro byte member
    rw [List.eq_of_mem_replicate member]
    decide
  have read := nonce_secret_reads_back (List.replicate 32 0) inRange (List.length_replicate ..) []
  exact ⟨read.1.1, read.1.2.1⟩

end OAuth2Server.NonceSecret
