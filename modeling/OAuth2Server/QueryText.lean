import OAuth2Server.Url
import Mathlib.Data.List.Basic

/-!
# Query strings

`quote`, `quote_plus`, `urlencode` and `parse_qsl` of `urllib.parse`. What
`urlencode` writes, `parse_qsl` with `keep_blank_values` reads back: every
character outside the unreserved ones is escaped as its UTF-8 bytes, so neither
`&` nor `=` nor `+` survives inside a name or a value.
-/

namespace OAuth2Server.QueryText

open OAuth2Server Text Url

set_option autoImplicit false

/-- `_ALWAYS_SAFE`. -/
def isUnreserved (char : Char) : Bool :=
  isAsciiLetter char || isAsciiDigit char || char == '_' || char == '.' || char == '-' ||
    char == '~'

def hexUpper (digit : Nat) : Char :=
  if digit < 10 then Char.ofNat (48 + digit) else Char.ofNat (55 + digit)

def percentByte (byte : Nat) : List Char := ['%', hexUpper (byte / 16), hexUpper (byte % 16)]

def quoteChar (safe : Char → Bool) (char : Char) : List Char :=
  if isUnreserved char || safe char then [char] else (utf8Encode [char]).flatMap percentByte

/-- `quote(text, safe)`. -/
def quote (safe : Char → Bool) (text : String) : String :=
  String.ofList (text.toList.flatMap (quoteChar safe))

def quotePlusChar (char : Char) : List Char :=
  if char = ' ' then ['+'] else quoteChar (fun _ => false) char

/-- `quote_plus(text)`. -/
def quotePlus (text : String) : List Char := text.toList.flatMap quotePlusChar

def encodedPair (pair : String × String) : List Char :=
  quotePlus pair.1 ++ '=' :: quotePlus pair.2

/-- `urlencode(pairs)`. -/
def urlencode (pairs : List (String × String)) : String :=
  String.ofList (List.intercalate ['&'] (pairs.map encodedPair))

def parsePair (part : List Char) : String × String :=
  (unquotePlus (String.ofList (before '=' part)), unquotePlus (String.ofList (after '=' part)))

/-- `parse_qsl(query, keep_blank_values=True)`. -/
def parseQsl (query : String) : List (String × String) :=
  ((splitOn '&' query.toList).filter fun part => !part.isEmpty).map parsePair

/-- A parameter that may be absent. -/
def givenPair (name : String) (value : Option String) : List (String × String) :=
  value.toList.map fun text => (name, text)

/-! ### UTF-8 -/

/-- The bytes of a character are read back as that character. -/
theorem utf8_head_encode (char : Char) (rest : List Nat) :
    ∃ first tail, utf8Encode [char] = first :: tail ∧
      utf8Head first (tail ++ rest) = .ok (char, rest) := by
  have valid : char.toNat < 0xd800 ∨ (0xdfff < char.toNat ∧ char.toNat < 0x110000) := char.valid
  have same : Char.ofNat char.toNat = char := Char.ofNat_toNat char
  simp only [utf8Encode, List.flatMap_cons, List.flatMap_nil, List.append_nil]
  generalize char.toNat = code at valid same
  by_cases one : code < 0x80
  · rw [if_pos one]
    refine ⟨code, [], rfl, ?_⟩
    simp [utf8Head, one, same]
  by_cases two : code < 0x800
  · rw [if_neg one, if_pos two]
    refine ⟨0xc0 + code / 64, [0x80 + code % 64], rfl, ?_⟩
    have value : (0xc0 + code / 64 - 0xc0) * 64 + (0x80 + code % 64 - 0x80) = code := by omega
    unfold utf8Head
    rw [if_neg (by omega), if_pos (by omega)]
    simp only [List.cons_append, List.nil_append]
    rw [if_pos (by simp; omega), value, same]
  by_cases three : code < 0x10000
  · rw [if_neg one, if_neg two, if_pos three]
    refine ⟨0xe0 + code / 4096, [0x80 + code / 64 % 64, 0x80 + code % 64], rfl, ?_⟩
    have value : (0xe0 + code / 4096 - 0xe0) * 4096 + (0x80 + code / 64 % 64 - 0x80) * 64 +
        (0x80 + code % 64 - 0x80) = code := by omega
    unfold utf8Head
    rw [if_neg (by omega), if_neg (by omega), if_pos (by omega)]
    simp only [List.cons_append, List.nil_append]
    rw [if_pos (by simp; split <;> split <;> omega), if_pos (by simp; omega), value, same]
  · rw [if_neg one, if_neg two, if_neg three]
    refine ⟨0xf0 + code / 262144,
      [0x80 + code / 4096 % 64, 0x80 + code / 64 % 64, 0x80 + code % 64], rfl, ?_⟩
    have value : (0xf0 + code / 262144 - 0xf0) * 262144 + (0x80 + code / 4096 % 64 - 0x80) * 4096 +
        (0x80 + code / 64 % 64 - 0x80) * 64 + (0x80 + code % 64 - 0x80) = code := by omega
    unfold utf8Head
    rw [if_neg (by omega), if_neg (by omega), if_neg (by omega), if_pos (by omega)]
    simp only [List.cons_append, List.nil_append]
    rw [if_pos (by simp; split <;> split <;> omega), if_pos (by simp; omega),
      if_pos (by simp; omega), value, same]

theorem utf8_encode_cons (char : Char) (text : List Char) :
    utf8Encode (char :: text) = utf8Encode [char] ++ utf8Encode text := by
  simp [utf8Encode]

theorem utf8_decode_go_encode (text : List Char) (fuel : Nat)
    (enough : (utf8Encode text).length ≤ fuel) :
    utf8DecodeReplace.go fuel (utf8Encode text) = text := by
  induction text generalizing fuel with
  | nil => cases fuel <;> rfl
  | cons char rest induction =>
      obtain ⟨first, tail, encoded, headed⟩ := utf8_head_encode char (utf8Encode rest)
      rw [utf8_encode_cons, encoded, List.cons_append] at enough ⊢
      simp only [List.length_cons, List.length_append] at enough
      cases fuel with
      | zero => omega
      | succ fuel =>
          simp only [utf8DecodeReplace.go, headed]
          rw [induction fuel (by omega)]

theorem utf8_decode_encode (text : List Char) : utf8DecodeReplace (utf8Encode text) = text :=
  utf8_decode_go_encode text _ (Nat.le_refl _)

/-- Every byte of an encoding is a byte. -/
theorem utf8_encode_lt (char : Char) : ∀ byte ∈ utf8Encode [char], byte < 256 := by
  have valid : char.toNat < 0xd800 ∨ (0xdfff < char.toNat ∧ char.toNat < 0x110000) := char.valid
  simp only [utf8Encode, List.flatMap_cons, List.flatMap_nil, List.append_nil]
  generalize char.toNat = code at valid
  intro byte member
  split at member
  · simp only [List.mem_singleton] at member
    omega
  · split at member
    · simp only [List.mem_cons, List.not_mem_nil, or_false] at member
      omega
    · split at member
      all_goals
        simp only [List.mem_cons, List.not_mem_nil, or_false] at member
        omega

/-! ### Escapes -/

/-- A character of the escaped text: no delimiter, no blank. -/
def isPlain (char : Char) : Bool := isUnreserved char || char == '%' || char == '+'

theorem hex_digit_upper (digit : Nat) (small : digit < 16) :
    hexDigit (hexUpper digit) = some digit ∧ isUnreserved (hexUpper digit) = true := by
  have each : ∀ digit : Fin 16, hexDigit (hexUpper digit) = some digit.val ∧
      isUnreserved (hexUpper digit) = true := by decide
  exact each ⟨digit, small⟩

/-- `unquote_plus` turns `+` into a blank before it decodes. -/
def plusToSpace (char : Char) : Char := if char = '+' then ' ' else char

theorem plus_to_space_of_unreserved {char : Char} (unreserved : isUnreserved char = true) :
    plusToSpace char = char := by
  unfold plusToSpace
  rw [if_neg]
  rintro rfl
  revert unreserved
  decide

theorem unquote_cons {char : Char} (ordinary : char ≠ '%') (rest : List Char) :
    unquoteToBytes (char :: rest) = utf8Encode [char] ++ unquoteToBytes rest := by
  rw [unquoteToBytes.eq_def]
  split
  · contradiction
  · rename_i same
    cases same
    contradiction
  · rename_i same
    cases same
    rfl

theorem unquote_percent_byte {byte : Nat} (small : byte < 256) (rest : List Char) :
    unquoteToBytes ((percentByte byte).map plusToSpace ++ rest) = byte :: unquoteToBytes rest := by
  obtain ⟨high, highPlain⟩ := hex_digit_upper (byte / 16) (by omega)
  obtain ⟨low, lowPlain⟩ := hex_digit_upper (byte % 16) (by omega)
  have percent : plusToSpace '%' = '%' := by decide
  simp only [percentByte, List.map_cons, List.map_nil, List.cons_append, List.nil_append, percent,
    plus_to_space_of_unreserved highPlain, plus_to_space_of_unreserved lowPlain]
  simp only [unquoteToBytes, high, low]
  congr 1
  omega

theorem unquote_percent_bytes (bytes : List Nat) (small : ∀ byte ∈ bytes, byte < 256)
    (rest : List Char) :
    unquoteToBytes ((bytes.flatMap percentByte).map plusToSpace ++ rest) =
      bytes ++ unquoteToBytes rest := by
  induction bytes with
  | nil => rfl
  | cons byte later induction =>
      rw [List.flatMap_cons, List.map_append, List.append_assoc,
        unquote_percent_byte (small byte List.mem_cons_self),
        induction fun other member => small other (List.mem_cons_of_mem _ member)]
      rfl

/-- One escaped character is read back as its bytes. -/
theorem unquote_quote_plus_char (char : Char) (rest : List Char) :
    unquoteToBytes ((quotePlusChar char).map plusToSpace ++ rest) =
      utf8Encode [char] ++ unquoteToBytes rest := by
  unfold quotePlusChar
  by_cases blank : char = ' '
  · subst blank
    rw [if_pos rfl]
    exact unquote_cons (by decide) rest
  · rw [if_neg blank]
    unfold quoteChar
    by_cases kept : isUnreserved char = true
    · rw [if_pos (by simp [kept])]
      have ordinary : char ≠ '%' := by
        rintro rfl
        revert kept
        decide
      rw [List.map_singleton, plus_to_space_of_unreserved kept]
      exact unquote_cons ordinary rest
    · rw [if_neg (by simpa using kept)]
      exact unquote_percent_bytes _ (utf8_encode_lt char) rest

theorem unquote_flat_map (text rest : List Char) :
    unquoteToBytes ((text.flatMap quotePlusChar).map plusToSpace ++ rest) =
      utf8Encode text ++ unquoteToBytes rest := by
  induction text with
  | nil => rfl
  | cons char later induction =>
      rw [List.flatMap_cons, List.map_append, List.append_assoc, unquote_quote_plus_char,
        induction, utf8_encode_cons char later, List.append_assoc]

/-- `unquote_plus(quote_plus(text)) == text`. -/
theorem unquote_quote_plus (text : String) :
    unquotePlus (String.ofList (quotePlus text)) = text := by
  unfold unquotePlus quotePlus
  have decoded := unquote_flat_map text.toList []
  simp only [unquoteToBytes, List.append_nil] at decoded
  rw [String.toList_ofList]
  show String.ofList (utf8DecodeReplace (unquoteToBytes
    ((text.toList.flatMap quotePlusChar).map plusToSpace))) = text
  rw [decoded, utf8_decode_encode, String.ofList_toList]

/-! ### Delimiters -/

theorem plain_percent_byte {byte : Nat} (small : byte < 256) :
    ∀ char ∈ percentByte byte, isPlain char = true := by
  have high := (hex_digit_upper (byte / 16) (by omega)).2
  have low := (hex_digit_upper (byte % 16) (by omega)).2
  intro char member
  simp only [percentByte, List.mem_cons, List.not_mem_nil, or_false] at member
  rcases member with rfl | rfl | rfl
  · decide
  · simp [isPlain, high]
  · simp [isPlain, low]

theorem plain_quote_plus (text : String) : ∀ char ∈ quotePlus text, isPlain char = true := by
  intro char member
  obtain ⟨source, _, escaped⟩ := List.mem_flatMap.1 member
  unfold quotePlusChar quoteChar at escaped
  split at escaped
  · simp only [List.mem_singleton] at escaped
    subst escaped
    decide
  · split at escaped
    · rename_i kept
      simp only [List.mem_singleton] at escaped
      subst escaped
      simp only [Bool.or_false] at kept
      simp [isPlain, kept]
    · obtain ⟨byte, listed, digit⟩ := List.mem_flatMap.1 escaped
      exact plain_percent_byte (utf8_encode_lt source byte listed) char digit

theorem plain_ne {char delimiter : Char} (plain : isPlain char = true)
    (other : isPlain delimiter = false) : char ≠ delimiter := by
  rintro rfl
  rw [plain] at other
  cases other

theorem split_on_append {delimiter : Char} {part rest head : List Char} {tail : List (List Char)}
    (clean : ∀ char ∈ part, char ≠ delimiter) (found : splitOn delimiter rest = head :: tail) :
    splitOn delimiter (part ++ rest) = (part ++ head) :: tail := by
  induction part with
  | nil => exact found
  | cons char later induction =>
      have differs : ¬(char == delimiter) = true := by
        simpa using clean char List.mem_cons_self
      have tailed := induction fun other member => clean other (List.mem_cons_of_mem _ member)
      unfold splitOn at tailed ⊢
      rw [List.cons_append, List.foldr_cons, tailed, if_neg differs]
      rfl

theorem split_on_delimiter (delimiter : Char) (rest : List Char) :
    splitOn delimiter (delimiter :: rest) = [] :: splitOn delimiter rest := by
  simp [splitOn]

theorem split_on_ne_nil (delimiter : Char) (text : List Char) : splitOn delimiter text ≠ [] := by
  cases text with
  | nil => exact List.cons_ne_nil _ _
  | cons char later =>
      unfold splitOn
      rw [List.foldr_cons]
      split
      · exact List.cons_ne_nil _ _
      · split <;> exact List.cons_ne_nil _ _

theorem split_on_cons (delimiter char : Char) (text : List Char) :
    splitOn delimiter (char :: text) =
      if char == delimiter then [] :: splitOn delimiter text
      else match splitOn delimiter text with
        | [] => [[char]]
        | part :: rest => (char :: part) :: rest := rfl

/-- A text that is joined of two splits into the parts of both. -/
theorem split_on_join (delimiter : Char) (first second : List Char) :
    splitOn delimiter (first ++ delimiter :: second) =
      splitOn delimiter first ++ splitOn delimiter second := by
  induction first with
  | nil => exact split_on_delimiter delimiter second
  | cons char later induction =>
      by_cases same : char = delimiter
      · rw [same, List.cons_append, split_on_delimiter, split_on_delimiter, induction]
        rfl
      · have different : ¬(char == delimiter) = true := by simpa using same
        rw [List.cons_append, split_on_cons, split_on_cons, if_neg different, if_neg different,
          induction]
        cases found : splitOn delimiter later with
        | nil => exact absurd found (split_on_ne_nil delimiter later)
        | cons part rest => rfl

/-- Splitting undoes joining. -/
theorem split_on_intercalate (delimiter : Char) (part : List Char) (parts : List (List Char))
    (clean : ∀ each ∈ part :: parts, ∀ char ∈ each, char ≠ delimiter) :
    splitOn delimiter (List.intercalate [delimiter] (part :: parts)) = part :: parts := by
  induction parts generalizing part with
  | nil =>
      have single : splitOn delimiter (part ++ []) = [part ++ []] :=
        split_on_append (clean part List.mem_cons_self) rfl
      simpa [List.intercalate] using single
  | cons next later induction =>
      have joined : List.intercalate [delimiter] (part :: next :: later) =
          part ++ delimiter :: List.intercalate [delimiter] (next :: later) := by
        simp [List.intercalate, List.intersperse]
      have rejoined := induction next fun each member => clean each (List.mem_cons_of_mem _ member)
      have delimited : splitOn delimiter
          (delimiter :: List.intercalate [delimiter] (next :: later)) = [] :: next :: later := by
        rw [split_on_delimiter, rejoined]
      rw [joined, split_on_append (clean part List.mem_cons_self) delimited, List.append_nil]

/-! ### Joined pairs -/

theorem before_append (delimiter : Char) (name value : List Char)
    (clean : ∀ char ∈ name, char ≠ delimiter) :
    before delimiter (name ++ delimiter :: value) = name ∧
      after delimiter (name ++ delimiter :: value) = value := by
  induction name with
  | nil => simp [before, after]
  | cons char later induction =>
      have differs : (char != delimiter) = true := by
        simpa using clean char List.mem_cons_self
      have tailed := induction fun other member => clean other (List.mem_cons_of_mem _ member)
      unfold before after at tailed ⊢
      simp only [List.cons_append, List.takeWhile_cons, List.dropWhile_cons, differs, if_true]
      exact ⟨congrArg _ tailed.1, tailed.2⟩

def joinPair (encode : String → List Char) (pair : String × String) : List Char :=
  encode pair.1 ++ '=' :: encode pair.2

/-- Names and values between `&` and `=`, each escaped. -/
def joinPairs (encode : String → List Char) (pairs : List (String × String)) : List Char :=
  List.intercalate ['&'] (pairs.map (joinPair encode))

/-- The pairs of a text; an empty part is none. -/
def readPairs (decode : String → String) (text : List Char) : List (String × String) :=
  ((splitOn '&' text).filter fun part => !part.isEmpty).map fun part =>
    (decode (String.ofList (before '=' part)), decode (String.ofList (after '=' part)))

theorem read_pairs_join (decode : String → String) (first second : List Char) :
    readPairs decode (first ++ '&' :: second) = readPairs decode first ++ readPairs decode second := by
  unfold readPairs
  rw [split_on_join, List.filter_append, List.map_append]

/-- A text without `&` is one pair, or none. -/
theorem read_pairs_single (decode : String → String) {part : List Char} (alone : '&' ∉ part) :
    readPairs decode part = if part.isEmpty then [] else
      [(decode (String.ofList (before '=' part)), decode (String.ofList (after '=' part)))] := by
  have clean : ∀ each ∈ [part], ∀ char ∈ each, char ≠ '&' := by
    intro each member char present
    rw [List.mem_singleton.1 member] at present
    rintro rfl
    exact alone present
  have whole : splitOn '&' part = [part] := by
    simpa [List.intercalate] using split_on_intercalate '&' part [] clean
  unfold readPairs
  rw [whole]
  cases part <;> rfl

theorem mem_intercalate {separator : List Char} {parts : List (List Char)} {char : Char}
    (member : char ∈ List.intercalate separator parts) :
    char ∈ separator ∨ ∃ part ∈ parts, char ∈ part := by
  induction parts with
  | nil => simp [List.intercalate] at member
  | cons part rest induction =>
      cases rest with
      | nil =>
          simp only [List.intercalate, List.intersperse, List.flatten_cons, List.flatten_nil,
            List.append_nil] at member
          exact .inr ⟨part, List.mem_cons_self, member⟩
      | cons next others =>
          have split : char ∈ part ++ (separator ++ List.intercalate separator (next :: others)) := by
            simpa [List.intercalate, List.intersperse] using member
          simp only [List.mem_append] at split
          rcases split with inPart | inSeparator | inRest
          · exact .inr ⟨part, List.mem_cons_self, inPart⟩
          · exact .inl inSeparator
          · cases induction inRest with
            | inl inSeparator => exact .inl inSeparator
            | inr found =>
                obtain ⟨other, listed, inOther⟩ := found
                exact .inr ⟨other, List.mem_cons_of_mem _ listed, inOther⟩

theorem mem_join_pairs {encode : String → List Char} {pairs : List (String × String)} {char : Char}
    (member : char ∈ joinPairs encode pairs) :
    char = '&' ∨ char = '=' ∨ ∃ text, char ∈ encode text := by
  rcases mem_intercalate member with delimiter | ⟨part, listed, inPart⟩
  · exact .inl (List.mem_singleton.1 delimiter)
  · obtain ⟨pair, _, rfl⟩ := List.mem_map.1 listed
    simp only [joinPair, List.mem_append, List.mem_cons] at inPart
    rcases inPart with inName | rfl | inValue
    · exact .inr (.inr ⟨pair.1, inName⟩)
    · exact .inr (.inl rfl)
    · exact .inr (.inr ⟨pair.2, inValue⟩)

/-- Reading undoes joining when the escapes are undone and hide both delimiters. -/
theorem read_join_pairs {encode : String → List Char} {decode : String → String}
    (hidden : ∀ text, ∀ char ∈ encode text, char ≠ '&' ∧ char ≠ '=')
    (undone : ∀ text, decode (String.ofList (encode text)) = text)
    (pairs : List (String × String)) : readPairs decode (joinPairs encode pairs) = pairs := by
  unfold readPairs joinPairs
  cases pairs with
  | nil => rfl
  | cons pair later =>
      have clean : ∀ each ∈ (pair :: later).map (joinPair encode), ∀ char ∈ each,
          char ≠ '&' := by
        intro each member char present
        obtain ⟨source, _, rfl⟩ := List.mem_map.1 member
        simp only [joinPair, List.mem_append, List.mem_cons] at present
        rcases present with inName | rfl | inValue
        · exact (hidden _ char inName).1
        · decide
        · exact (hidden _ char inValue).1
      have kept : ((pair :: later).map (joinPair encode)).filter (fun part => !part.isEmpty) =
          (pair :: later).map (joinPair encode) := by
        rw [List.filter_eq_self]
        intro each member
        obtain ⟨source, _, rfl⟩ := List.mem_map.1 member
        simp [joinPair]
      rw [List.map_cons] at clean kept ⊢
      rw [split_on_intercalate '&' _ _ clean, kept, ← List.map_cons, List.map_map]
      apply List.map_id''
      intro source
      have cut := before_append '=' (encode source.1) (encode source.2)
        fun char member => (hidden _ char member).2
      simp only [Function.comp_apply, joinPair, cut.1, cut.2, undone]

/-! ### The round trip -/

/-- `parse_qsl(urlencode(pairs), keep_blank_values=True) == pairs`. -/
theorem parse_qsl_urlencode (pairs : List (String × String)) :
    parseQsl (urlencode pairs) = pairs := by
  have hidden : ∀ text, ∀ char ∈ quotePlus text, char ≠ '&' ∧ char ≠ '=' := by
    intro text char member
    have plain := plain_quote_plus text char member
    exact ⟨plain_ne plain (by decide), plain_ne plain (by decide)⟩
  have read := read_join_pairs hidden unquote_quote_plus pairs
  unfold parseQsl urlencode
  rw [String.toList_ofList]
  exact read

theorem mem_urlencode {pairs : List (String × String)} {char : Char}
    (member : char ∈ (urlencode pairs).toList) : isPlain char = true ∨ char = '&' ∨ char = '=' := by
  unfold urlencode at member
  rw [String.toList_ofList] at member
  rcases mem_join_pairs member with delimiter | equals | ⟨text, inText⟩
  · exact .inr (.inl delimiter)
  · exact .inr (.inr equals)
  · exact .inl (plain_quote_plus text char inText)

/-! ### `quote` and `unquote` -/

/-- `urllib.parse.unquote`. -/
def unquote (text : String) : String :=
  String.ofList (utf8DecodeReplace (unquoteToBytes text.toList))

theorem percent_byte_unchanged {byte : Nat} (small : byte < 256) :
    (percentByte byte).map plusToSpace = percentByte byte := by
  have high := (hex_digit_upper (byte / 16) (by omega)).2
  have low := (hex_digit_upper (byte % 16) (by omega)).2
  have percent : plusToSpace '%' = '%' := by decide
  simp only [percentByte, List.map_cons, List.map_nil, percent,
    plus_to_space_of_unreserved high, plus_to_space_of_unreserved low]

theorem unquote_percent_encoded (bytes : List Nat) (small : ∀ byte ∈ bytes, byte < 256)
    (rest : List Char) :
    unquoteToBytes (bytes.flatMap percentByte ++ rest) = bytes ++ unquoteToBytes rest := by
  induction bytes with
  | nil => rfl
  | cons byte later induction =>
      have decoded := unquote_percent_byte (small byte List.mem_cons_self)
        (later.flatMap percentByte ++ rest)
      rw [percent_byte_unchanged (small byte List.mem_cons_self)] at decoded
      rw [List.flatMap_cons, List.append_assoc, decoded,
        induction fun other member => small other (List.mem_cons_of_mem _ member)]
      rfl

section Quote

variable {safe : Char → Bool}

theorem unquote_quote_char (percent : safe '%' = false) (char : Char) (rest : List Char) :
    unquoteToBytes (quoteChar safe char ++ rest) = utf8Encode [char] ++ unquoteToBytes rest := by
  unfold quoteChar
  by_cases kept : (isUnreserved char || safe char) = true
  · rw [if_pos kept]
    apply unquote_cons
    rintro rfl
    rw [percent] at kept
    revert kept
    decide
  · rw [if_neg kept]
    exact unquote_percent_encoded _ (utf8_encode_lt char) rest

/-- `unquote(quote(text, safe)) == text` unless `%` is left as it is. -/
theorem unquote_quote (percent : safe '%' = false) (text : String) :
    unquote (quote safe text) = text := by
  have decoded : ∀ chars : List Char,
      unquoteToBytes (chars.flatMap (quoteChar safe)) = utf8Encode chars := by
    intro chars
    induction chars with
    | nil => rfl
    | cons char later induction =>
        rw [List.flatMap_cons, unquote_quote_char percent, induction, ← utf8_encode_cons]
  unfold unquote quote
  rw [String.toList_ofList, decoded, utf8_decode_encode, String.ofList_toList]

/-- What `quote` writes: kept characters, `%` and digits. -/
theorem mem_quote {text : String} {char : Char} (member : char ∈ (quote safe text).toList) :
    isUnreserved char = true ∨ char = '%' ∨ (safe char = true ∧ char ∈ text.toList) := by
  unfold quote at member
  rw [String.toList_ofList] at member
  obtain ⟨source, listed, escaped⟩ := List.mem_flatMap.1 member
  unfold quoteChar at escaped
  split at escaped
  · rename_i kept
    rw [List.mem_singleton] at escaped
    subst escaped
    rw [Bool.or_eq_true] at kept
    rcases kept with unreserved | reserved
    · exact .inl unreserved
    · exact .inr (.inr ⟨reserved, listed⟩)
  · obtain ⟨byte, encoded, digit⟩ := List.mem_flatMap.1 escaped
    have small := utf8_encode_lt source byte encoded
    simp only [percentByte, List.mem_cons, List.not_mem_nil, or_false] at digit
    rcases digit with rfl | rfl | rfl
    · exact .inr (.inl rfl)
    · exact .inl (hex_digit_upper (byte / 16) (by omega)).2
    · exact .inl (hex_digit_upper (byte % 16) (by omega)).2

theorem quote_append (first second : String) :
    quote safe (first ++ second) = quote safe first ++ quote safe second := by
  unfold quote
  rw [String.toList_append, List.flatMap_append, String.ofList_append]

theorem quote_unchanged {text : String}
    (kept : ∀ char ∈ text.toList, isUnreserved char = true ∨ safe char = true) :
    quote safe text = text := by
  have same : text.toList.flatMap (quoteChar safe) = text.toList := by
    generalize text.toList = chars at kept
    induction chars with
    | nil => rfl
    | cons char later induction =>
        have alone : quoteChar safe char = [char] := by
          unfold quoteChar
          rw [if_pos (by simpa using kept char List.mem_cons_self)]
        rw [List.flatMap_cons, alone,
          induction fun other member => kept other (List.mem_cons_of_mem _ member)]
        rfl
  unfold quote
  rw [same, String.ofList_toList]

end Quote

/-- A text without `+` is read the same by both decoders. -/
theorem unquote_plus_eq {text : String} (absent : '+' ∉ text.toList) :
    unquotePlus text = unquote text := by
  have fixed : ∀ char ∈ text.toList, plusToSpace char = id char := by
    intro char member
    apply if_neg
    rintro rfl
    exact absent member
  have same := List.map_congr_left fixed
  rw [List.map_id] at same
  unfold unquote
  rw [← same]
  rfl

/-- `quote(text, safe)` is read back from a query too, unless it keeps `%` or `+`. -/
theorem unquote_plus_quote {safe : Char → Bool} (percent : safe '%' = false)
    (plus : safe '+' = false) (text : String) : unquotePlus (quote safe text) = text := by
  rw [unquote_plus_eq, unquote_quote percent]
  intro member
  rcases mem_quote member with unreserved | same | kept
  · revert unreserved
    decide
  · cases same
  · rw [plus] at kept
    cases kept.1

/-- A text without escapes and blanks stands for itself. -/
theorem unquote_plus_plain {text : String}
    (plain : ∀ char ∈ text.toList, (char != '%' && char != '+') = true) :
    unquotePlus text = text := by
  have same : quote (fun char => char != '%' && char != '+') text = text :=
    quote_unchanged fun char member => .inr (plain char member)
  have read := @unquote_plus_quote (fun char => char != '%' && char != '+') rfl rfl text
  rw [same] at read
  exact read

end OAuth2Server.QueryText
