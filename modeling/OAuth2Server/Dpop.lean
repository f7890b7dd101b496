import OAuth2Server.ClientAuth

/-!
# DPoP proofs, their nonces, and client certificates

`services/dpop.py`, `services/dpop_nonce.py` and `services/mtls.py`: what binds
a request to a key.
-/

namespace OAuth2Server.Dpop

open OAuth2Server Models JsonText Effects Interaction ClientAuth

set_option autoImplicit false

/-- The parts of an HTTP request the modelled routes read. The `DPoP` header is
its raw bytes. -/
structure Request where
  form : Form
  authorization : Option String := none
  dpop : Option (List Nat) := none
  certThumbprint : Option String := none
  certSubjectDn : Option String := none

/-- `mtls_headers`: both headers are ignored unless the proxy is trusted. -/
def mtlsHeaders (env : Env) (request : Request) : Option String × Option String :=
  if env.config.trustProxyHeaders then
    ((request.certThumbprint.map Text.strip).filter (· != ""),
      request.certSubjectDn.filter (· != ""))
  else (none, none)

def Request.credentials (env : Env) (request : Request) : Credentials where
  authorization := request.authorization
  thumbprint := (mtlsHeaders env request).1
  subjectDn := (mtlsHeaders env request).2

/-! ### Proofs -/

structure Validated where
  jkt : String
  nonce : Option String
  ath : Option String

def invalidProof (description : String) : Raised := .dpop "invalid_dpop_proof" description

/-- `read_dpop_header`. -/
def readDpopHeader (request : Request) : Except Raised (Option String) :=
  match request.dpop with
  | none => .ok none
  | some bytes =>
      match Text.utf8Decode bytes with
      | some text => .ok (some (String.ofList text))
      | none => .error (.dpop "invalid_request" "DPoP header is not valid UTF-8")

/-- `str(value)`. -/
def pyStr (env : Env) (value : Json) : String := value.str?.getD (env.platform.strOf value)

/-- `str(value or "")`. -/
def strOr (env : Env) (value : Option Json) : String :=
  match value with
  | none => ""
  | some value => if value.truthy then pyStr env value else ""

/-- `strip_query`; `none` is the `ValueError` of `urlsplit`. -/
def stripQuery (url : String) : Option String :=
  (Url.urlsplit url).map fun parts =>
    parts.scheme ++ "://" ++ parts.netloc ++ Text.rstripSlash parts.path

/-- The members RFC 7638 digests, in key order. -/
def thumbprintMembers (jwk : Json) : Option (List (String × Json)) :=
  match jwk.get? "kty" with
  | some (.str "EC") => do
      pure [("crv", ← jwk.get? "crv"), ("kty", .str "EC"), ("x", ← jwk.get? "x"),
        ("y", ← jwk.get? "y")]
  | some (.str "RSA") => do
      pure [("e", ← jwk.get? "e"), ("kty", .str "RSA"), ("n", ← jwk.get? "n")]
  | some (.str "OKP") => do
      pure [("crv", ← jwk.get? "crv"), ("kty", .str "OKP"), ("x", ← jwk.get? "x")]
  | _ => none

/-- `jwk_thumbprint`. -/
def jwkThumbprint (env : Env) (jwk : Json) : Except Raised String :=
  match thumbprintMembers jwk with
  | none => .error (invalidProof "Unsupported JWK key type")
  | some members =>
      let style : DumpStyle :=
        { itemSeparator := ","
          keySeparator := ":"
          sortKeys := true
          floatRepr := env.platform.floatRepr }
      .ok (env.platform.sha256Url (dumps style (.obj members)))

def allowedAlgs : List String :=
  ["RS256", "RS384", "RS512", "PS256", "PS384", "PS512", "ES256", "ES384"]

def unsupportedAlgorithm : Raised :=
  invalidProof ("DPoP proof uses unsupported algorithm (only RS256/RS384/RS512/" ++
    "PS256/PS384/PS512/ES256/ES384 allowed)")

/-- The algorithm of a proof header; looking an unhashable value up in the set
of algorithms is a `TypeError`. -/
def proofAlgorithm (header : List (String × Json)) : Except Raised String :=
  match header.lookup "alg" with
  | some (.str alg) => if allowedAlgs.contains alg then .ok alg else .error unsupportedAlgorithm
  | some (.arr _) => .error .other
  | some (.obj _) => .error .other
  | _ => .error unsupportedAlgorithm

/-- The family whose `from_jwk` builds the verification key. -/
def keyFamily (alg : String) : String :=
  if Text.startsWith alg "RS" || Text.startsWith alg "PS" then "RSA" else "EC"

def signatureInvalid (message : String) : Raised :=
  invalidProof ("DPoP proof signature invalid: " ++ message)

def iatSkewSecs : ℚ := 300

/-- The window check on `claims["iat"]`: a boolean counts as a number, an infinite
or undefined date is in no window, and an integer no double holds escapes. -/
def iatInWindow (iat : Json) (time : ℚ) : Except Raised Unit :=
  let within (value : ℚ) : Except Raised Unit :=
    if -iatSkewSecs ≤ time - value ∧ time - value ≤ iatSkewSecs then .ok ()
    else .error (invalidProof "DPoP proof iat is outside the acceptance window")
  match iat with
  | .bool value => within (if value then 1 else 0)
  | .int value => if floatOverflow ≤ |(value : ℚ)| then .error .other else within value
  | .float value => within value
  | .nonFinite _ =>
      .error (invalidProof "DPoP proof iat is outside the acceptance window")
  | _ => .error (invalidProof "DPoP proof iat must be a number")

/-- The `nonce` claim: absent, a string, or refused. -/
def proofNonce (claims : List (String × Json)) : Except Raised (Option String) :=
  match claims.lookup "nonce" with
  | none => .ok none
  | some .null => .ok none
  | some (.str nonce) => .ok (some nonce)
  | some _ => .error (invalidProof "DPoP proof nonce must be a string")

/-- The checks on the claims of a verified proof up to its replay check. A text
with a lone surrogate, one of `lone`, equals no text of a request, and `encode`
raises on it. The token and introspection endpoints have no access token to
compare `ath` with. -/
def checkProofClaims (env : Env) (lone : List String) (claims : List (String × Json))
    (method url : String) (accessToken : Option String) : Except Raised Unit := do
  if lone.contains "htm" ||
      Text.lower (strOr env (claims.lookup "htm")) != Text.lower method then
    throw (invalidProof "DPoP proof htm does not match request method")
  let some htu := stripQuery (strOr env (claims.lookup "htu")) | throw .other
  let some expected := stripQuery url | throw .other
  if lone.contains "htu" || htu != expected then
    throw (invalidProof "DPoP proof htu does not match request URI")
  match accessToken with
  | none => pure ()
  | some token =>
      let ath := textMember claims "ath"
      if ath.isSome && lone.contains "ath" then throw .other
      if ath != some (env.platform.sha256Url token) then
        throw (invalidProof "DPoP proof ath does not match the presented access token")

/-- `validate_dpop_proof`. -/
def validateDpopProof (env : Env) (proof method url : String) (accessToken : Option String) :
    Service Validated := do
  let header ← match env.platform.jwt.unverifiedHeader proof with
    | .ok header => pure header
    | .error .decode => throw (invalidProof "DPoP proof header is malformed")
    | .error .invalid => throw .other
  if Text.lower (strOr env (header.lookup "typ")) != "dpop+jwt" then
    throw (invalidProof "DPoP proof typ must be \"dpop+jwt\"")
  let some (.obj (member :: members)) := header.lookup "jwk"
    | throw (invalidProof "DPoP proof missing 'jwk' header claim")
  let jwk := Json.obj (member :: members)
  let jkt ← Program.ofExcept (jwkThumbprint env jwk)
  let alg ← Program.ofExcept (proofAlgorithm header)
  match env.platform.jwt.jwkKind (keyFamily alg) jwk with
  | .error message => throw (signatureInvalid message)
  | .ok _ => pure ()
  let now ← ambient .now
  let options : VerifyOptions :=
    { require := ["htm", "htu", "iat", "jti"], verifyExp := false, verifyIat := false }
  let claims ← match env.platform.jwt.verify proof (.jwk (keyFamily alg) jwk) alg options now with
    | .ok claims => pure claims
    | .error (.pyjwt message) => throw (signatureInvalid message)
    | .error (.other message) => throw (signatureInvalid message)
  Program.ofExcept
    (checkProofClaims env (env.platform.jwt.loneTexts proof) claims method url accessToken)
  -- `iat` and `jti` are required claims; indexing an absent one is a `KeyError`.
  let some iat := claims.lookup "iat" | throw .other
  let time ← ambient .time
  Program.ofExcept (iatInWindow iat time)
  let nonce ← Program.ofExcept (proofNonce claims)
  let some jti := claims.lookup "jti" | throw .other
  let fresh ← ambient (.checkAndInsert (pyStr env jti))
  if !fresh then
    throw (invalidProof "DPoP proof jti has already been used (replay)")
  pure { jkt := jkt, nonce := nonce, ath := textMember claims "ath" }

/-! ### Nonces -/

def bigEndian : Nat → Nat → List Nat
  | 0, _ => []
  | width + 1, value => bigEndian width (value / 256) ++ [value % 256]

def bigEndianValue (bytes : List Nat) : Nat := bytes.foldl (fun total byte => total * 256 + byte) 0

/-- `int(time.time()) // lifetime`. -/
def bucketAt (env : Env) (time : ℚ) : Nat :=
  (⌊time⌋ / max 1 env.config.dpopNonceLifetimeSecs).toNat

/-- `_encode_bucket`; bucket numbers of datetimes fit eight bytes. -/
def encodeBucket (env : Env) (bucket : Nat) : String :=
  let bytes := bigEndian 8 bucket
  String.ofList (Text.b64urlEncode (bytes ++ env.platform.hmacTag env.config.dpopNonceSecret bytes))

/-- `DpopNonceIssuer.issue`. -/
def issueNonce {ε : Type} (env : Env) : Program Server ε String := do
  let time ← ambient .time
  pure (encodeBucket env (bucketAt env time))

inductive NonceError where
  | stale
  | invalid (description : String)

/-- `DpopNonceIssuer.verify`, at a time. -/
def verifyNonce (env : Env) (nonce : String) (time : ℚ) : Except NonceError Unit := do
  let some raw := Text.b64urlDecode nonce
    | throw (.invalid "DPoP nonce is not valid base64url")
  if raw.length != 24 then
    throw (.invalid "DPoP nonce has incorrect length")
  if raw.drop 8 != env.platform.hmacTag env.config.dpopNonceSecret (raw.take 8) then
    throw (.invalid "DPoP nonce signature mismatch")
  let bucket := bigEndianValue (raw.take 8)
  let current := bucketAt env time
  if bucket != current && bucket + 1 != current then
    throw .stale

/-- `use_dpop_nonce_response`. -/
def useDpopNonceResponse {ε : Type} (env : Env) (description : String) :
    Program Server ε Response := do
  let nonce ← issueNonce env
  pure
    { status := 400
      headers := [("DPoP-Nonce", nonce)]
      body := .obj [("error", .str "use_dpop_nonce"), ("error_description", .str description)] }

/-- `enforce_dpop_nonce`: a response is the challenge to return. -/
def enforceDpopNonce (env : Env) (validated : Validated) : Service (Option Response) := do
  match validated.nonce with
  | none => some <$> useDpopNonceResponse env "DPoP proof must include a server-issued nonce"
  | some nonce =>
      let time ← ambient .time
      match verifyNonce env nonce time with
      | .ok () => pure none
      | .error .stale =>
          some <$> useDpopNonceResponse env "DPoP nonce is expired; retry with a fresh nonce"
      | .error (.invalid description) => throw (invalidProof description)

end OAuth2Server.Dpop
