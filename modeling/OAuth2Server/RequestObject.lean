import OAuth2Server.ClientAuth
import OAuth2Server.AuthorizeResponse

/-!
# Request objects

`services/jar.py`. The registered authentication method of the client decides
how its request object is verified, never the header of the object: a public
client must send an unsigned one, and every other method pins one algorithm.
-/

namespace OAuth2Server.RequestObject

open OAuth2Server Models JsonText Storage Effects Interaction
open ClientAuth Validation AuthorizeResponse

set_option autoImplicit false

/-- `JAR_OVERLAY_KEYS`. -/
def jarOverlayKeys : List String :=
  ["redirect_uri", "response_type", "response_mode", "scope", "code_challenge",
    "code_challenge_method", "nonce", "resource", "state", "authorization_details", "claims",
    "acr_values", "dpop_jkt"]

/-- `_ALG_FOR_METHOD`. -/
def jarAlgForMethod (method : String) : Option String :=
  if method == "client_secret_basic" || method == "client_secret_post" ||
      method == "client_secret_jwt" then some "HS256"
  else if method == "private_key_jwt" then some "RS256"
  else none

/-! ### Segments -/

/-- `binascii.a2b_base64` in its strict mode. Nothing follows the padding that
completes a quantum, and no data follows any padding. -/
def a2bStrict : Nat → Nat → Nat → Bool → List Char → Option (List Nat)
  | phase, _, _, _, [] => if phase = 0 then some [] else none
  | phase, held, pads, padded, char :: rest =>
      if char = '=' then
        if 2 ≤ phase ∧ 4 ≤ phase + (pads + 1) then if rest.isEmpty then some [] else none
        else a2bStrict phase held (pads + 1) true rest
      else
        match Text.base64Value char with
        | none => none
        | some bits =>
            if padded then none
            else match phase with
              | 0 => a2bStrict 1 bits 0 padded rest
              | 1 => (a2bStrict 2 (bits % 16) 0 padded rest).map ((held * 4 + bits / 16) :: ·)
              | 2 => (a2bStrict 3 (bits % 4) 0 padded rest).map ((held * 16 + bits / 4) :: ·)
              | _ => (a2bStrict 0 0 0 padded rest).map ((held * 64 + bits) :: ·)

/-- `_b64url_decode`; `none` is the `binascii.Error`. -/
def b64urlSegment (segment : List Char) : Option (List Nat) :=
  let padding := List.replicate ((4 - segment.length % 4) % 4) '='
  let padded := segment.map (fun char =>
    if char = '-' then '+' else if char = '_' then '/' else char) ++ padding
  if padded.head? == some '=' then none else a2bStrict 0 0 0 false padded

/-- `bytes.decode("utf-8", "surrogatepass")`; a lone surrogate reads as U+FFFD. -/
def utf8DecodePass (bytes : List Nat) : Option (List Char) :=
  go bytes.length bytes
where
  go : Nat → List Nat → Option (List Char)
    | _, [] => some []
    | 0, _ :: _ => none
    | fuel + 1, first :: rest =>
        match Text.utf8Head first rest, rest with
        | .ok (char, after), _ => (go fuel after).map (char :: ·)
        | .error _, second :: third :: after =>
            if first = 0xed ∧ 0xa0 ≤ second ∧ second ≤ 0xbf ∧ 0x80 ≤ third ∧ third ≤ 0xbf then
              (go fuel after).map (Char.ofNat 0xfffd :: ·)
            else none
        | .error _, _ => none

/-- The 16-bit units of a byte string. -/
def units16 (bigEndian : Bool) : List Nat → Option (List Nat)
  | [] => some []
  | [_] => none
  | a :: b :: rest =>
      (units16 bigEndian rest).map ((if bigEndian then a * 256 + b else b * 256 + a) :: ·)

def joinSurrogates : List Nat → List Char
  | [] => []
  | [unit] => [if 0xd800 ≤ unit ∧ unit < 0xe000 then Char.ofNat 0xfffd else Char.ofNat unit]
  | high :: low :: rest =>
      if 0xd800 ≤ high ∧ high < 0xdc00 ∧ 0xdc00 ≤ low ∧ low < 0xe000 then
        Char.ofNat (0x10000 + (high - 0xd800) * 1024 + (low - 0xdc00)) :: joinSurrogates rest
      else
        (if 0xd800 ≤ high ∧ high < 0xe000 then Char.ofNat 0xfffd else Char.ofNat high) ::
          joinSurrogates (low :: rest)

def utf16Decode (bigEndian : Bool) (bytes : List Nat) : Option (List Char) :=
  (units16 bigEndian bytes).map joinSurrogates

def utf32Decode (bigEndian : Bool) : List Nat → Option (List Char)
  | [] => some []
  | a :: b :: c :: d :: rest =>
      let code := if bigEndian then ((a * 256 + b) * 256 + c) * 256 + d
        else ((d * 256 + c) * 256 + b) * 256 + a
      if 0x10ffff < code then none
      else if 0xd800 ≤ code ∧ code < 0xe000 then
        (utf32Decode bigEndian rest).map (Char.ofNat 0xfffd :: ·)
      else (utf32Decode bigEndian rest).map (Char.ofNat code :: ·)
  | _ => none

/-- `json.loads` of bytes decodes by `detect_encoding`. -/
def decodeJsonBytes (bytes : List Nat) : Option (List Char) :=
  match bytes with
  | 0x00 :: 0x00 :: 0xfe :: 0xff :: rest => utf32Decode true rest
  | 0xff :: 0xfe :: 0x00 :: 0x00 :: rest => utf32Decode false rest
  | 0xfe :: 0xff :: rest => utf16Decode true rest
  | 0xff :: 0xfe :: rest => utf16Decode false rest
  | 0xef :: 0xbb :: 0xbf :: rest => utf8DecodePass rest
  | a :: b :: c :: d :: _ =>
      if a = 0 then (if b = 0 then utf32Decode true bytes else utf16Decode true bytes)
      else if b = 0 then
        (if c = 0 ∧ d = 0 then utf32Decode false bytes else utf16Decode false bytes)
      else utf8DecodePass bytes
  | [a, b] =>
      if a = 0 then utf16Decode true bytes
      else if b = 0 then utf16Decode false bytes
      else utf8DecodePass bytes
  | _ => utf8DecodePass bytes

/-- `json.loads(segment)`; every failure is answered alike. -/
def loadsBytes (env : Env) (bytes : List Nat) : Option Json :=
  (decodeJsonBytes bytes).bind fun text =>
    (loads env.platform.recursionLimit (String.ofList text)).toOption

/-! ### Verification -/

/-- `request_jwt.split(".", 2)`, when it has three parts. -/
def jarSegments (requestJwt : String) : Option (List Char × List Char × List Char) := do
  let (header, rest) ← Text.cut '.' requestJwt.toList
  let (payload, signature) ← Text.cut '.' rest
  some (header, payload, signature)

def maxUnsignedJarDepth : Nat := 10

/-- `_decode_unsigned_jar`. -/
def decodeUnsignedJar (env : Env) (header payload signature : List Char) :
    Except Raised (List (String × Json)) := do
  let some headerBytes := b64urlSegment header
    | throw (invalidRequest "JAR JWT header is not valid base64url")
  let some document := loadsBytes env headerBytes
    | throw (invalidRequest "JAR JWT header is not valid JSON")
  if !(document.get? "alg").any (·.equalsText "none") then
    throw (invalidRequest ("JAR from public client must use alg=none; signed JARs require a " ++
      "confidential client authentication method"))
  if !signature.isEmpty then
    throw (invalidRequest "JAR with alg=none must have an empty signature")
  let some payloadBytes := b64urlSegment payload
    | throw (invalidRequest "JAR JWT payload is not valid base64url")
  let some (.obj claims) := loadsBytes env payloadBytes
    | throw (invalidRequest "JAR JWT payload is not valid JSON")
  match checkDepth (.obj claims) "request" maxUnsignedJarDepth with
  | .error _ => throw (invalidRequest "JAR JWT payload is not valid JSON")
  | .ok () => pure claims

/-- The key of a signed request object. -/
def jarKey (env : Env) (client : Client) (requestJwt expectedAlg : String) : Service VerifyKey :=
  if expectedAlg == "HS256" then do
    raiseIf (client.clientSecret == "") "invalid_request"
      ("Client has no client_secret registered for " ++ client.tokenEndpointAuthMethod ++ " JAR")
    pure (.secret (Text.utf8Encode client.clientSecret.toList))
  else do
    let jwks ← resolveClientJwks env client ["private_key_jwt"]
    match env.platform.jwt.unverifiedHeader requestJwt with
    | .error _ => throw (invalidRequest "JAR JWT header is malformed")
    | .ok header =>
        let kid := textMember header "kid"
        Program.ofExcept (rsaKeyFromJwks env jwks kid "invalid_request" " for JAR")

/-- `_decode_signed_jar`. -/
def decodeSignedJar (env : Env) (client : Client) (requestJwt expectedAlg authorizeUrl : String) :
    Service (List (String × Json)) := do
  let key ← jarKey env client requestJwt expectedAlg
  let now ← ambient .now
  let options : VerifyOptions := { audience := some [authorizeUrl], require := ["exp", "iss"] }
  match env.platform.jwt.verify requestJwt key expectedAlg options now with
  | .error (.pyjwt message) => throw (.oauth "invalid_request_object"
      (some ("JAR " ++ expectedAlg ++ " verification failed: " ++ message)))
  | .error (.other _) => throw .other
  | .ok claims =>
      raiseIf (textMember claims "iss" != some client.clientId) "invalid_request_object"
        "JAR 'iss' claim must equal client_id"
      pure claims

/-- The claims of a request object, verified as the client's method says. -/
def decodeJar (env : Env) (client : Client) (requestJwt authorizeUrl : String) :
    Service (List (String × Json)) :=
  let method := client.tokenEndpointAuthMethod
  match jarSegments requestJwt with
  | none => throw (invalidRequest
      "JAR request is not a valid JWT (expected header.payload.signature)")
  | some (header, payload, signature) =>
      if method == "none" then Program.ofExcept (decodeUnsignedJar env header payload signature)
      else match jarAlgForMethod method with
        | some expectedAlg => decodeSignedJar env client requestJwt expectedAlg authorizeUrl
        | none => throw (invalidRequest
            ("Unsupported token_endpoint_auth_method '" ++ method ++ "' for JAR signing"))

/-- `{key: claims[key] for key in JAR_OVERLAY_KEYS if isinstance(claims.get(key), str)}`. -/
def overlayClaims (claims : List (String × Json)) : Form :=
  jarOverlayKeys.filterMap fun key => (textMember claims key).map fun value => (key, value)

/-- `process_jar`. -/
def processJar (env : Env) (client : Client) (requestJwt authorizeUrl : String) :
    Service Form := do
  let claims ← decodeJar env client requestJwt authorizeUrl
  let otherClient := match claims.lookup "client_id" with
    | none | some .null => false
    | some named => !named.equalsText client.clientId
  raiseIf otherClient "invalid_request_object" "JAR client_id does not match"
  pure (overlayClaims claims)

/-- An object `alg=none` with a claim of a public client. -/
example : (jarSegments "eyJhbGciOiJub25lIn0.eyJzdGF0ZSI6IngifQ.").bind
    (fun segments => b64urlSegment segments.2.1) =
      some (Text.utf8Encode "\x7b\"state\":\"x\"\x7d".toList) := by decide +kernel

end OAuth2Server.RequestObject
