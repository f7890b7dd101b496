import OAuth2Server.Effects
import OAuth2Server.QueryText

/-!
# What is assumed of the JWT library, and a library that satisfies it

The theorems about signed tokens assume documented behaviour of the JWT
library. Each assumption is a structure here. The reference library meets all
of them: its tokens are the prefix-coded texts of the headers, the payload and
the key, so that a token can be read back and a signature compared.
-/

namespace OAuth2Server.ReferenceJwt

open OAuth2Server Models JsonText Effects

set_option autoImplicit false

/-! ### Characters -/

/-- `text.toList`, decoded byte by byte, which is cheaper to evaluate. -/
@[irreducible] def characters (text : String) : List Char :=
  Text.utf8DecodeReplace (text.toByteArray.data.toList.map UInt8.toNat)

theorem utf8_encode_char (char : Char) :
    (String.utf8EncodeChar char).map UInt8.toNat = Text.utf8Encode [char] := by
  have bound : char.val.toNat < 0x110000 := by
    have valid := char.valid
    unfold UInt32.isValidChar Nat.isValidChar at valid
    omega
  have code : char.toNat = char.val.toNat := rfl
  unfold String.utf8EncodeChar Text.utf8Encode
  simp only [List.flatMap_cons, List.flatMap_nil, List.append_nil, code, Nat.lt_succ_iff]
  generalize char.val.toNat = value at bound ⊢
  split_ifs
  all_goals
    simp
    omega

theorem characters_eq (text : String) : characters text = text.toList := by
  have bytes : (String.ofList text.toList).toByteArray.data.toList.map UInt8.toNat =
      Text.utf8Encode text.toList := by
    rw [String.toByteArray_ofList, List.utf8Encode, List.toList_data_toByteArray, List.map_flatMap]
    unfold Text.utf8Encode
    apply List.flatMap_congr
    intro char _
    simpa [Text.utf8Encode] using utf8_encode_char char
  rw [String.ofList_toList] at bytes
  unfold characters
  rw [bytes, QueryText.utf8_decode_encode]

/-! ### A prefix-coded text of JSON values -/

def writeNat (number : Nat) : List Char := Nat.toDigits 10 number ++ [':']

def readNat (text : List Char) : Option (Nat × List Char) :=
  match text.span Char.isDigit with
  | (digits, ':' :: rest) => some (Nat.ofDigitChars 10 digits 0, rest)
  | _ => none

theorem span_append {α : Type} (keep : α → Bool) (front : List α) (stop : α) (rest : List α)
    (kept : ∀ item ∈ front, keep item = true) (stops : keep stop = false) :
    (front ++ stop :: rest).span keep = (front, stop :: rest) := by
  induction front with
  | nil => simp [List.span_eq_takeWhile_dropWhile, stops]
  | cons head tail induction =>
      have later := induction fun item member => kept item (List.mem_cons_of_mem _ member)
      rw [List.span_eq_takeWhile_dropWhile] at later ⊢
      simp only [List.cons_append, List.takeWhile_cons, List.dropWhile_cons,
        kept head List.mem_cons_self, if_true, Prod.mk.injEq] at later ⊢
      exact ⟨congrArg _ later.1, later.2⟩

theorem read_nat_write (number : Nat) (rest : List Char) :
    readNat (writeNat number ++ rest) = some (number, rest) := by
  have digits : ∀ char ∈ Nat.toDigits 10 number, char.isDigit = true := by
    intro char member
    exact Nat.isDigit_of_mem_toDigits (by omega) (by omega) member
  unfold readNat writeNat
  rw [List.append_assoc, List.singleton_append, span_append _ _ _ _ digits (by decide)]
  simp [Nat.ofDigitChars_ten_toDigits]

/-- A text is written after its length. -/
def writeText (text : String) : List Char :=
  writeNat (characters text).length ++ characters text

def readText (text : List Char) : Option (String × List Char) :=
  (readNat text).map fun (length, rest) => (String.ofList (rest.take length), rest.drop length)

theorem read_text_write (text : String) (rest : List Char) :
    readText (writeText text ++ rest) = some (text, rest) := by
  unfold readText writeText
  rw [characters_eq, List.append_assoc, read_nat_write]
  simp

def writeInt : Int → List Char
  | .ofNat number => '+' :: writeNat number
  | .negSucc number => '-' :: writeNat number

def readInt : List Char → Option (Int × List Char)
  | '+' :: text => (readNat text).map fun (number, rest) => (Int.ofNat number, rest)
  | '-' :: text => (readNat text).map fun (number, rest) => (Int.negSucc number, rest)
  | _ => none

theorem read_int_write (number : Int) (rest : List Char) :
    readInt (writeInt number ++ rest) = some (number, rest) := by
  cases number <;> simp [writeInt, readInt, read_nat_write]

mutual

def writeJson : Json → List Char
  | .null => ['n']
  | .bool value => ['b', if value then '1' else '0']
  | .int value => 'i' :: writeInt value
  | .float value => 'f' :: (writeInt value.num ++ writeNat value.den)
  | .nonFinite literal => 'x' :: writeText literal
  | .str value => 's' :: writeText value
  | .arr items => 'a' :: writeItems items
  | .obj members => 'o' :: writeMembers members

def writeItems : List Json → List Char
  | [] => [';']
  | item :: items => ',' :: (writeJson item ++ writeItems items)

def writeMembers : List (String × Json) → List Char
  | [] => [';']
  | (key, value) :: members => ',' :: (writeText key ++ writeJson value ++ writeMembers members)

end

/-! Reading is bounded by the length of what is left to read. -/

mutual

def readJson : Nat → List Char → Option (Json × List Char)
  | _ + 1, 'n' :: text => some (.null, text)
  | _ + 1, 'b' :: value :: text => some (.bool (value == '1'), text)
  | _ + 1, 'i' :: text => (readInt text).map fun (value, rest) => (.int value, rest)
  | _ + 1, 'f' :: text => do
      let (num, rest) ← readInt text
      let (den, rest) ← readNat rest
      pure (.float (mkRat num den), rest)
  | _ + 1, 'x' :: text => (readText text).map fun (value, rest) => (.nonFinite value, rest)
  | _ + 1, 's' :: text => (readText text).map fun (value, rest) => (.str value, rest)
  | fuel + 1, 'a' :: text =>
      (readItems fuel text).map fun (items, rest) => (.arr items, rest)
  | fuel + 1, 'o' :: text =>
      (readMembers fuel text).map fun (members, rest) => (.obj members, rest)
  | _, _ => none

def readItems : Nat → List Char → Option (List Json × List Char)
  | _ + 1, ';' :: text => some ([], text)
  | fuel + 1, ',' :: text => do
      let (item, rest) ← readJson fuel text
      let (items, rest) ← readItems fuel rest
      pure (item :: items, rest)
  | _, _ => none

def readMembers : Nat → List Char → Option (List (String × Json) × List Char)
  | _ + 1, ';' :: text => some ([], text)
  | fuel + 1, ',' :: text => do
      let (key, rest) ← readText text
      let (value, rest) ← readJson fuel rest
      let (members, rest) ← readMembers fuel rest
      pure ((key, value) :: members, rest)
  | _, _ => none

end

mutual

theorem read_json_write : ∀ (value : Json) (fuel : Nat) (rest : List Char),
    (writeJson value).length ≤ fuel →
      readJson fuel (writeJson value ++ rest) = some (value, rest)
  | value, 0, rest, enough => by
      cases value <;> simp [writeJson] at enough
  | .null, fuel + 1, rest, enough => by simp [writeJson, readJson]
  | .bool value, fuel + 1, rest, enough => by cases value <;> simp [writeJson, readJson]
  | .int value, fuel + 1, rest, enough => by simp [writeJson, readJson, read_int_write]
  | .float value, fuel + 1, rest, enough => by
      simp [writeJson, readJson, read_int_write, read_nat_write, Rat.mkRat_self]
  | .nonFinite literal, fuel + 1, rest, enough => by simp [writeJson, readJson, read_text_write]
  | .str value, fuel + 1, rest, enough => by simp [writeJson, readJson, read_text_write]
  | .arr items, fuel + 1, rest, enough => by
      have short : (writeItems items).length ≤ fuel := by simpa [writeJson] using enough
      simp [writeJson, readJson, read_items_write items fuel rest short]
  | .obj members, fuel + 1, rest, enough => by
      have short : (writeMembers members).length ≤ fuel := by simpa [writeJson] using enough
      simp [writeJson, readJson, read_members_write members fuel rest short]

theorem read_items_write : ∀ (items : List Json) (fuel : Nat) (rest : List Char),
    (writeItems items).length ≤ fuel →
      readItems fuel (writeItems items ++ rest) = some (items, rest)
  | items, 0, rest, enough => by
      cases items <;> simp [writeItems] at enough
  | [], fuel + 1, rest, enough => by simp [writeItems, readItems]
  | item :: items, fuel + 1, rest, enough => by
      have lengths : (writeJson item).length + (writeItems items).length ≤ fuel := by
        simpa [writeItems] using enough
      have first := read_json_write item fuel (writeItems items ++ rest) (by omega)
      have others := read_items_write items fuel rest (by omega)
      simp [writeItems, readItems, first, others]

theorem read_members_write : ∀ (members : List (String × Json)) (fuel : Nat) (rest : List Char),
    (writeMembers members).length ≤ fuel →
      readMembers fuel (writeMembers members ++ rest) = some (members, rest)
  | members, 0, rest, enough => by
      cases members <;> simp [writeMembers] at enough
  | [], fuel + 1, rest, enough => by simp [writeMembers, readMembers]
  | (key, value) :: members, fuel + 1, rest, enough => by
      have lengths : (writeText key).length + ((writeJson value).length +
          (writeMembers members).length) ≤ fuel := by
        simpa [writeMembers] using enough
      have name := read_text_write key (writeJson value ++ (writeMembers members ++ rest))
      have first := read_json_write value fuel (writeMembers members ++ rest) (by omega)
      have others := read_members_write members fuel rest (by omega)
      simp [writeMembers, readMembers, name, first, others]

end

/-! ### Assumptions -/

/-- What is encoded is read back. -/
structure RoundTrip (jwt : JwtLibrary) : Prop where
  claims : ∀ members key alg headers,
    jwt.unverifiedClaims (jwt.encode (.obj members) key alg headers) = some members

/-- `int(value)`. -/
def truncated (value : ℚ) : Int := value.num.tdiv value.den

theorem lt_of_lt_truncated {time value : ℚ} (positive : 0 ≤ time) (early : time < truncated value) :
    time < value := by
  have whole : 0 < truncated value := by
    have above : (0 : ℚ) < truncated value := lt_of_le_of_lt positive early
    exact_mod_cast above
  have signed : 0 ≤ value.num := by
    by_contra negative
    have quotient : 0 ≤ (-value.num).tdiv value.den :=
      Int.tdiv_nonneg (by omega) (Int.natCast_nonneg _)
    rw [Int.neg_tdiv] at quotient
    unfold truncated at whole
    omega
  have floored : truncated value = ⌊value⌋ := by
    unfold truncated
    rw [Int.tdiv_eq_ediv_of_nonneg signed, Rat.floor_def']
  rw [floored] at early
  exact lt_of_lt_of_le early (Int.floor_le value)

/-- What a verification returns is what the token carries. -/
structure ReturnsPayload (jwt : JwtLibrary) : Prop where
  payload : ∀ token key alg options now claims,
    jwt.verify token key alg options now = .ok claims → jwt.unverifiedClaims token = some claims

/-- With `require`, no claims come back that lack one of the names. -/
structure RequiresClaims (jwt : JwtLibrary) : Prop where
  present : ∀ token key alg options now claims,
    jwt.verify token key alg options now = .ok claims →
      ∀ name ∈ options.require, (claims.lookup name).isSome

/-- An expired token is refused: `exp` is compared as an integer. -/
structure ChecksExpiry (jwt : JwtLibrary) : Prop extends ReturnsPayload jwt where
  expiry : ∀ token key alg options now claims expiry,
    jwt.verify token key alg options now = .ok claims → options.verifyExp = true →
      (claims.lookup "exp").bind Json.number? = some expiry →
        epochSeconds now < (truncated expiry : ℚ)

/-- What the library checks of an access token's claims. -/
structure Current (members : List (String × Json)) (issuer : String) (now : Instant) : Prop where
  issuer : (members.lookup "iss").bind Json.str? = some issuer
  subject : ∃ text, members.lookup "sub" = some (.str text)
  identifier : ∃ text, members.lookup "jti" = some (.str text)
  expiry : ∃ exp : Int, members.lookup "exp" = some (.int exp) ∧ epochSeconds now < exp
  issuedAt : ∃ iat : Int, members.lookup "iat" = some (.int iat) ∧ (iat : ℚ) ≤ epochSeconds now
  notBefore : members.lookup "nbf" = none

/-- What is signed with a key verifies with it, or with its public half. -/
structure SignsAndVerifies (jwt : JwtLibrary) : Prop where
  header : ∀ members material alg headers, ∃ header,
    jwt.unverifiedHeader (jwt.encode (.obj members) material alg headers) = .ok header ∧
      ∀ name value, name ≠ "alg" → headers.lookup name = some value →
        header.lookup name = some (.str value)
  secret : ∀ members material headers issuer now, jwt.usable material "HS256" = true →
    Current members issuer now →
      jwt.verify (jwt.encode (.obj members) material "HS256" headers) (.secret material) "HS256"
        { issuer := some issuer } now = .ok members
  rsa : ∀ material, jwt.usable material "RS256" = true → ∃ document,
    jwt.rsaPublicKey material = .ok document ∧
      ∀ members headers issuer now, Current members issuer now →
        jwt.verify (jwt.encode (.obj members) material "RS256" headers) (.jwk "RSA" document)
          "RS256" { issuer := some issuer } now = .ok members

/-- A token verifies under an RSA key only if it was signed with it. -/
structure UnforgeableRsa (jwt : JwtLibrary) (signed : String → String → List Nat → Prop) :
    Prop where
  rsa : ∀ token material document options now claims, jwt.rsaPublicKey material = .ok document →
    jwt.verify token (.jwk "RSA" document) "RS256" options now = .ok claims →
      signed token "RS256" material

/-- A token verifies under a key only if it was signed with it, a token has one
signature, and a token that one secret accepts is refused under another by an
exception of the library's own. Secrets are told apart up to `alike`: HMAC pads
a short key with zeros and hashes a long one, and takes what becomes the same
for the same. -/
structure Unforgeable (jwt : JwtLibrary) (alike : List Nat → List Nat → Prop)
    (signed : String → String → List Nat → Prop) : Prop extends UnforgeableRsa jwt signed where
  secret : ∀ token material alg options now claims, alg ≠ "RS256" →
    jwt.verify token (.secret material) alg options now = .ok claims → signed token alg material
  once : ∀ token alg alg' material material', signed token alg material →
    signed token alg' material' → alg = alg' ∧ (alg = "HS256" → alike material material')
  same : ∀ token material other alg options now, alike material other →
    jwt.verify token (.secret material) alg options now =
      jwt.verify token (.secret other) alg options now
  mismatch : ∀ token material other alg options now claims,
    jwt.verify token (.secret material) alg options now = .ok claims → ¬alike other material →
      ∃ message, jwt.verify token (.secret other) alg options now = .error (.pyjwt message)

/-! ### The reference library -/

/-- The JOSE header: `alg` and `typ` first, which the caller's `typ` replaces. -/
def joseHeader (alg : String) (headers : List (String × String)) : List (String × Json) :=
  let own := headers.map fun entry => (entry.1, Json.str entry.2)
  ("alg", .str alg) ::
    (if (headers.lookup "typ").isSome then own else ("typ", .str "JWT") :: own)

structure Parts where
  header : List (String × Json)
  claims : List (String × Json)
  key : Json

def keyJson (bytes : List Nat) : Json := .arr (bytes.map fun byte : Nat => .int (byte : Int))

/-- Header, payload and key, with a dot after each of the first two. -/
def sign (header payload key : Json) : String :=
  String.ofList (writeJson header ++ '.' :: (writeJson payload ++ '.' :: writeJson key))

/-- The public half of an RSA key. -/
def publicJwk (material : List Nat) : Json := .obj [("kty", .str "RSA"), ("n", keyJson material)]

/-- The text a signature is compared by: the secret, or the public key. -/
def signatureKey (material : List Nat) (alg : String) : Json :=
  if alg == "RS256" then .obj [("RSA", publicJwk material)] else keyJson material

def encode (payload : Json) (key : List Nat) (alg : String) (headers : List (String × String)) :
    String :=
  sign (.obj (joseHeader alg headers)) payload (signatureKey key alg)

def parse (token : String) : Option Parts :=
  let text := characters token
  let fuel := text.length
  match readJson fuel text with
  | some (.obj header, '.' :: rest) =>
      match readJson fuel rest with
      | some (.obj claims, '.' :: rest) =>
          match readJson fuel rest with
          | some (key, []) => some { header := header, claims := claims, key := key }
          | _ => none
      | _ => none
  | _ => none

theorem parse_sign (header claims : List (String × Json)) (key : Json) :
    parse (sign (.obj header) (.obj claims) key) =
      some { header := header, claims := claims, key := key } := by
  unfold parse sign
  dsimp only
  rw [characters_eq, String.toList_ofList]
  generalize enough : (writeJson (.obj header) ++
    '.' :: (writeJson (.obj claims) ++ '.' :: writeJson key)).length = fuel
  simp only [List.length_append, List.length_cons] at enough
  have first := read_json_write (.obj header) fuel
    ('.' :: (writeJson (.obj claims) ++ '.' :: writeJson key)) (by omega)
  have second := read_json_write (.obj claims) fuel ('.' :: writeJson key) (by omega)
  have third := read_json_write key fuel [] (by omega)
  rw [List.append_nil] at third
  simp only [first, second, third]

theorem sign_inj {header otherHeader claims otherClaims : List (String × Json)} {key other : Json}
    (same : sign (.obj header) (.obj claims) key = sign (.obj otherHeader) (.obj otherClaims) other) :
    header = otherHeader ∧ claims = otherClaims ∧ key = other := by
  have parsed := parse_sign header claims key
  rw [same, parse_sign] at parsed
  cases parsed
  exact ⟨rfl, rfl, rfl⟩

theorem sign_ne_empty (header claims : List (String × Json)) (key : Json) :
    sign (.obj header) (.obj claims) key ≠ "" := by
  intro empty
  have parsed := parse_sign header claims key
  have blank : parse "" = none := by
    unfold parse
    rw [characters_eq]
    rfl
  rw [empty, blank] at parsed
  cases parsed

theorem parse_encode (members : List (String × Json)) (key : List Nat) (alg : String)
    (headers : List (String × String)) :
    parse (encode (.obj members) key alg headers) =
      some { header := joseHeader alg headers, claims := members, key := signatureKey key alg } :=
  parse_sign _ _ _

/-- The text a verification key is compared by. -/
def verifyKeyJson : VerifyKey → Json
  | .secret bytes => keyJson bytes
  | .jwk family document => .obj [(family, document)]

def sameJson (left right : Json) : Bool := writeJson left == writeJson right

theorem same_json_iff {left right : Json} : sameJson left right = true ↔ left = right := by
  constructor
  · intro same
    have texts : writeJson left = writeJson right := by simpa [sameJson] using same
    have first := read_json_write left _ [] (le_refl _)
    have second := read_json_write right _ [] (le_refl _)
    rw [texts, second] at first
    simpa using first.symm
  · rintro rfl
    simp [sameJson]

def checkRequired (claims : List (String × Json)) (names : List String) :
    Except VerifyError Unit :=
  match names.find? fun name => (claims.lookup name).isNone with
  | some name => .error (.pyjwt ("Token is missing the \"" ++ name ++ "\" claim"))
  | none => .ok ()

def checkIssuedAt (claims : List (String × Json)) (now : Instant) : Except VerifyError Unit :=
  match (claims.lookup "iat").bind Json.number? with
  | some issued =>
      if epochSeconds now < issued then .error (.pyjwt "The token is not yet valid (iat)")
      else .ok ()
  | none => .ok ()

def checkExpiry (claims : List (String × Json)) (now : Instant) : Except VerifyError Unit :=
  match claims.lookup "exp" with
  | none => .ok ()
  | some value =>
      match value.number? with
      | none => .error (.pyjwt "Expiration Time claim (exp) must be an integer.")
      | some expiry =>
          if (truncated expiry : ℚ) ≤ epochSeconds now then .error (.pyjwt "Signature has expired")
          else .ok ()

def checkIssuer (claims : List (String × Json)) (issuer : String) : Except VerifyError Unit :=
  if (claims.lookup "iss").bind Json.str? == some issuer then .ok ()
  else .error (.pyjwt "Invalid issuer")

def checkAudience (claims : List (String × Json)) (audience : List String) :
    Except VerifyError Unit :=
  let named := match claims.lookup "aud" with
    | some (.str own) => audience.contains own
    | some (.arr items) => items.any fun item => item.str?.any audience.contains
    | _ => false
  if named then .ok () else .error (.pyjwt "Audience doesn't match")

/-- The first failure of a sequence of checks. -/
def inOrder : List (Except VerifyError Unit) → Except VerifyError Unit
  | [] => .ok ()
  | .error refused :: _ => .error refused
  | .ok () :: rest => inOrder rest

theorem in_order_ok {checks : List (Except VerifyError Unit)} :
    inOrder checks = .ok () ↔ ∀ check ∈ checks, check = .ok () := by
  induction checks with
  | nil => simp [inOrder]
  | cons check rest induction => cases check <;> simp [inOrder, induction]

/-- The checks on the claims of a signed token, in the library's order. -/
def checkClaims (claims : List (String × Json)) (options : VerifyOptions) (now : Instant) :
    Except VerifyError Unit :=
  inOrder
    [checkRequired claims options.require,
      if options.verifyIat then checkIssuedAt claims now else .ok (),
      if options.verifyExp then checkExpiry claims now else .ok (),
      match options.issuer with
      | some issuer => checkIssuer claims issuer
      | none => .ok (),
      match options.audience with
      | some audience => checkAudience claims audience
      | none => .ok ()]

def verify (token : String) (key : VerifyKey) (alg : String) (options : VerifyOptions)
    (now : Instant) : Except VerifyError (List (String × Json)) :=
  match parse token with
  | none => .error (.pyjwt "Not enough segments")
  | some parts =>
      if (parts.header.lookup "alg").bind Json.str? != some alg then
        .error (.pyjwt "The specified alg value is not allowed")
      else if !sameJson parts.key (verifyKeyJson key) then
        .error (.pyjwt "Signature verification failed")
      else (checkClaims parts.claims options now).map fun _ => parts.claims

def readHeader (token : String) : Except HeaderError (List (String × Json)) :=
  match parse token with
  | some parts => .ok parts.header
  | none => .error .decode

def library : JwtLibrary where
  usable _ alg := alg == "HS256" || alg == "RS256"
  encode := encode
  unverifiedHeader := readHeader
  unverifiedClaims token := (parse token).map Parts.claims
  jwkKind _ document := .ok (if (document.get? "d").isSome then .privateKey else .publicKey)
  verify := verify
  rsaPublicKey material := .ok (publicJwk material)

theorem round_trip : RoundTrip library where
  claims := by
    intro members key alg headers
    change (parse (encode (.obj members) key alg headers)).map Parts.claims = some members
    rw [parse_encode]
    rfl

/-- A verified token, taken apart. -/
theorem verify_parts {token : String} {key : VerifyKey} {alg : String} {options : VerifyOptions}
    {now : Instant} {claims : List (String × Json)}
    (accepted : verify token key alg options now = .ok claims) :
    ∃ header, parse token = some { header := header, claims := claims, key := verifyKeyJson key } ∧
      (header.lookup "alg").bind Json.str? = some alg ∧ checkClaims claims options now = .ok () := by
  unfold verify at accepted
  split at accepted
  · cases accepted
  · rename_i parts parsed
    split at accepted
    · cases accepted
    · rename_i pinned
      split at accepted
      · cases accepted
      · rename_i matched
        generalize checked : checkClaims parts.claims options now = outcome at accepted
        cases outcome with
        | error refused => cases accepted
        | ok value =>
            cases accepted
            have sameKey : parts.key = verifyKeyJson key := by
              rw [← same_json_iff]
              simpa using matched
            refine ⟨parts.header, ?_, by simpa using pinned, checked⟩
            rw [parsed, ← sameKey]

theorem expiry_checked {claims : List (String × Json)} {options : VerifyOptions} {now : Instant}
    (checked : checkClaims claims options now = .ok ()) (enabled : options.verifyExp = true) :
    checkExpiry claims now = .ok () := by
  have passed := in_order_ok.1 checked (if options.verifyExp then checkExpiry claims now else .ok ())
    (by simp)
  rw [enabled] at passed
  exact passed

theorem checks_expiry : ChecksExpiry library where
  payload := by
    intro token key alg options now claims accepted
    obtain ⟨header, parsed, _⟩ := verify_parts accepted
    change (parse token).map Parts.claims = some claims
    rw [parsed]
    rfl
  expiry := by
    intro token key alg options now claims expiry accepted enabled dated
    obtain ⟨header, parsed, _, checked⟩ := verify_parts accepted
    have unexpired := expiry_checked checked enabled
    obtain ⟨value, present, number⟩ := Option.bind_eq_some_iff.1 dated
    simp only [checkExpiry, present, number] at unexpired
    split at unexpired
    · cases unexpired
    · rename_i early
      exact not_le.1 early

theorem requires_claims : RequiresClaims library where
  present := by
    intro token key alg options now claims accepted name required
    obtain ⟨header, _, _, checked⟩ := verify_parts accepted
    have passed := in_order_ok.1 checked (checkRequired claims options.require) (by simp)
    unfold checkRequired at passed
    split at passed
    · cases passed
    · rename_i complete
      have found := List.find?_eq_none.1 complete name required
      simpa using found

theorem truncated_int (value : Int) : truncated value = value := by
  unfold truncated
  simp

theorem check_current {members : List (String × Json)} {issuer : String} {now : Instant}
    (current : Current members issuer now) :
    checkClaims members { issuer := some issuer } now = .ok () := by
  obtain ⟨exp, dated, early⟩ := current.expiry
  obtain ⟨iat, issued, past⟩ := current.issuedAt
  have expiry : checkExpiry members now = .ok () := by
    unfold checkExpiry
    rw [dated]
    simp only [Json.number?, truncated_int, if_neg (not_le.2 early)]
  have issuedAt : checkIssuedAt members now = .ok () := by
    unfold checkIssuedAt
    rw [issued]
    simp only [Option.bind_some, Json.number?, if_neg (not_lt.2 past)]
  have named : checkIssuer members issuer = .ok () := by
    unfold checkIssuer
    rw [current.issuer]
    simp
  unfold checkClaims
  rw [in_order_ok]
  simp [checkRequired, issuedAt, expiry, named]

theorem verify_encoded {members : List (String × Json)} {material : List Nat} {alg issuer : String}
    {headers : List (String × String)} {key : VerifyKey} {now : Instant}
    (matching : verifyKeyJson key = signatureKey material alg)
    (current : Current members issuer now) :
    verify (encode (.obj members) material alg headers) key alg { issuer := some issuer } now =
      .ok members := by
  have same : sameJson (signatureKey material alg) (verifyKeyJson key) = true := by
    rw [matching]
    exact same_json_iff.2 rfl
  unfold verify
  rw [parse_encode]
  simp [joseHeader, Json.str?, same, check_current current, Except.map]

theorem read_header_encode (members : List (String × Json)) (material : List Nat) (alg : String)
    (headers : List (String × String)) :
    library.unverifiedHeader (encode (.obj members) material alg headers) =
      .ok (joseHeader alg headers) := by
  change readHeader _ = _
  unfold readHeader
  rw [parse_encode]

theorem lookup_own {headers : List (String × String)} {name value : String}
    (given : headers.lookup name = some value) :
    (headers.map fun entry => (entry.1, Json.str entry.2)).lookup name = some (.str value) := by
  induction headers with
  | nil => cases given
  | cons entry rest induction =>
      by_cases here : name = entry.1
      · subst here
        rw [List.lookup_cons_self] at given
        cases given
        exact List.lookup_cons_self
      · have missed : (name == entry.1) = false := by simpa using here
        rw [List.lookup_cons, missed] at given
        rw [List.map_cons, List.lookup_cons, missed]
        exact induction given

theorem lookup_jose_header {alg name value : String} {headers : List (String × String)}
    (other : name ≠ "alg") (given : headers.lookup name = some value) :
    (joseHeader alg headers).lookup name = some (.str value) := by
  have own := lookup_own given
  have notAlg : (name == "alg") = false := by simpa using other
  unfold joseHeader
  simp only [List.lookup_cons, notAlg]
  split
  · exact own
  · rename_i untyped
    have notTyp : name ≠ "typ" := by
      rintro rfl
      rw [given] at untyped
      exact untyped rfl
    have missed : (name == "typ") = false := by simpa using notTyp
    simp only [List.lookup_cons, missed]
    exact own

theorem signature_key_secret (material : List Nat) :
    signatureKey material "HS256" = keyJson material := by
  simp [signatureKey]

theorem signature_key_rsa (material : List Nat) :
    signatureKey material "RS256" = .obj [("RSA", publicJwk material)] := by
  simp [signatureKey]

theorem signs_and_verifies : SignsAndVerifies library where
  header := by
    intro members material alg headers
    refine ⟨joseHeader alg headers, ?_, fun _ _ => lookup_jose_header⟩
    exact read_header_encode members material alg headers
  secret := by
    intro members material headers issuer now _ current
    have matching : verifyKeyJson (.secret material) = signatureKey material "HS256" :=
      (signature_key_secret material).symm
    have verified : verify (encode (.obj members) material "HS256" headers) (.secret material)
        "HS256" { issuer := some issuer } now = .ok members := verify_encoded matching current
    exact verified
  rsa := by
    intro material _
    refine ⟨publicJwk material, rfl, ?_⟩
    intro members headers issuer now current
    have matching : verifyKeyJson (.jwk "RSA" (publicJwk material)) =
        signatureKey material "RS256" := (signature_key_rsa material).symm
    have verified : verify (encode (.obj members) material "RS256" headers)
        (.jwk "RSA" (publicJwk material)) "RS256" { issuer := some issuer } now = .ok members :=
      verify_encoded matching current
    exact verified

/-- The key a token of the reference library was signed with. -/
def SignedWith (token alg : String) (material : List Nat) : Prop :=
  ∃ parts, parse token = some parts ∧ (parts.header.lookup "alg").bind Json.str? = some alg ∧
    parts.key = signatureKey material alg

theorem key_json_injective {left right : List Nat} (same : keyJson left = keyJson right) :
    left = right := by
  unfold keyJson at same
  have bytes := Json.arr.inj same
  have injective : Function.Injective fun byte : Nat => Json.int byte := by
    intro one other equal
    exact Int.ofNat.inj (Json.int.inj equal)
  exact (List.map_injective_iff.2 injective) bytes

theorem unforgeable : Unforgeable library Eq SignedWith where
  secret := by
    intro token material alg options now claims shared accepted
    obtain ⟨header, parsed, named, _⟩ := verify_parts accepted
    refine ⟨_, parsed, named, ?_⟩
    simp [signatureKey, shared, verifyKeyJson]
  rsa := by
    intro token material document options now claims derived accepted
    obtain ⟨header, parsed, alg, _⟩ := verify_parts accepted
    cases derived
    exact ⟨_, parsed, alg, (signature_key_rsa material).symm⟩
  once := by
    rintro token alg alg' material material' ⟨parts, parsed, named, keyed⟩
      ⟨parts', parsed', named', keyed'⟩
    cases parsed.symm.trans parsed'
    cases named.symm.trans named'
    refine ⟨rfl, ?_⟩
    rintro rfl
    rw [signature_key_secret] at keyed keyed'
    exact key_json_injective (keyed.symm.trans keyed')
  same := by
    rintro token material _ alg options now rfl
    rfl
  mismatch := by
    intro token material other alg options now claims accepted different
    obtain ⟨header, parsed, named, _⟩ := verify_parts accepted
    have unequal : sameJson (keyJson material) (keyJson other) = false := by
      rw [← Bool.not_eq_true, same_json_iff]
      intro same
      exact different (key_json_injective same).symm
    refine ⟨"Signature verification failed", ?_⟩
    change verify token (.secret other) alg options now = _
    unfold verify
    rw [parsed]
    simp [named, verifyKeyJson, unequal]

end OAuth2Server.ReferenceJwt
