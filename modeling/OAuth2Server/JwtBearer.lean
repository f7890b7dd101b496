import OAuth2Server.ClientAuth

/-!
# The jwt-bearer authorization grant

`services/jwt_bearer_grant.py`: a trusted issuer's assertion is verified, its
`jti` recorded, and its subject resolved to a local user, who may be created on
first use.
-/

namespace OAuth2Server.JwtBearer

open OAuth2Server Models JsonText Storage Effects Interaction ClientAuth

set_option autoImplicit false

def jwtBearerGrant : String := "urn:ietf:params:oauth:grant-type:jwt-bearer"

/-- `_grant_error`. -/
def grantError (description : String) : Raised := .oauth "invalid_grant" (some description)

/-- `_is_id_jag_typ`. -/
def isIdJagTyp (typ : Option Json) : Bool :=
  match typ with
  | some (.str text) =>
      let folded := Text.lower (Text.strip text)
      let bare := if Text.startsWith folded "application/" then Text.drop folded 12 else folded
      bare == "oauth-id-jag+jwt"
  | _ => false

/-- `_unverified_header_and_iss`. -/
def unverifiedHeaderAndIss (env : Env) (assertion : String) :
    Except Raised (List (String × Json) × String) := do
  if assertion.toList.count '.' != 2 then
    throw (grantError "assertion is not a well-formed JWS Compact Serialization")
  let .ok header := env.platform.jwt.unverifiedHeader assertion
    | throw (grantError "Malformed assertion JWT header")
  let some claims := env.platform.jwt.unverifiedClaims assertion
    | throw (grantError "assertion payload is not valid")
  let some iss := (textMember claims "iss").filter (· != "")
    | throw (grantError "assertion is missing the iss claim")
  pure (header, iss)

/-- `json.loads(raw or "[]")` of a stored list. -/
def storedJson (env : Env) (raw : String) : Except LoadError Json :=
  if raw == "" then .ok (.arr []) else loads env.platform.recursionLimit raw

/-- `TrustedIssuer.allows_client`; `none` is an escaping `RecursionError`. -/
def allowsClient (env : Env) (trusted : TrustedIssuer) (clientId : String) : Option Bool :=
  match storedJson env trusted.allowedClientIds with
  | .error .recursion => none
  | .error _ => some false
  | .ok document =>
      match document.strings? with
      | none => some false
      | some allowed => some (allowed.isEmpty || allowed.contains clientId)

/-- `TrustedIssuer.allowed_audiences_list`. -/
def allowedAudiencesList (env : Env) (trusted : TrustedIssuer) : Option (List String) :=
  match storedJson env trusted.allowedAudiences with
  | .error .recursion => none
  | .error _ => some []
  | .ok (.arr items) => some (items.filterMap Json.str?)
  | .ok _ => some []

/-- A member that is present and not `None`. -/
def presentMember (value : Json) (key : String) : Option Json :=
  match value.get? key with
  | some .null => none
  | other => other

/-- `_may_verify`. -/
def mayVerify (jwk : Json) : Bool :=
  ((presentMember jwk "use").all fun use => use.equalsText "sig") &&
    (presentMember jwk "key_ops").all fun ops =>
      match ops with
      | .arr items => items.any (·.equalsText "verify")
      | _ => false

/-- `_alg_compatible`. -/
def algCompatible (jwk : Json) (alg : String) : Bool :=
  (presentMember jwk "alg").all fun declared => declared.equalsText alg

/-- `_select_key`. -/
def selectKey (env : Env) (jwks : Json) (header : List (String × Json)) (alg : String) :
    Except Raised VerifyKey := do
  let some (.arr keys) := jwks.get? "keys"
    | throw (grantError "trusted issuer JWKS has no 'keys' array")
  let family := if alg == "ES256" then "EC" else "RSA"
  let kid := textMember header "kid"
  let usable (key : Json) : Bool :=
    key.isObj && (kid.all fun kid => (key.get? "kid").any (·.equalsText kid)) &&
      (key.get? "kty").any (·.equalsText family) && mayVerify key && algCompatible key alg
  let some found := keys.find? usable
    | throw (grantError "no usable key for the assertion in the trusted issuer's JWKS")
  match env.platform.jwt.jwkKind family found with
  | .error _ => throw (grantError "issuer JWKS key is malformed")
  | .ok .privateKey => throw (grantError "issuer JWKS key is not a public key")
  | .ok .publicKey => pure (.jwk family found)

/-- `verify_assertion`. -/
def verifyAssertion (env : Env) (assertion : String) (trusted : TrustedIssuer)
    (header : List (String × Json)) : Service (List (String × Json)) := do
  let some alg := (textMember header "alg").filter fun alg =>
      ["RS256", "ES256", "PS256"].contains alg
    | throw (grantError "assertion uses an unsupported signature algorithm")
  let jwks ← match ← ambient (.fetchJwks (Text.strip trusted.jwksUri)) with
    | .ok document => pure document
    | .error (some description) =>
        throw (grantError ("could not fetch the trusted issuer's JWKS: " ++ description))
    | .error none => throw .other
  let key ← Program.ofExcept (selectKey env jwks header alg)
  let some audiences := allowedAudiencesList env trusted | throw .other
  let ourIssuer := Text.rstripSlash env.config.issuer
  let options : VerifyOptions :=
    { audience := some (ourIssuer :: (ourIssuer ++ "/oauth/token") :: audiences)
      issuer := some trusted.issuer
      require := ["iss", "sub", "aud", "exp", "iat", "jti"]
      verifyIat := false }
  let now ← ambient .now
  match env.platform.jwt.verify assertion key alg options now with
  | .ok claims => pure claims
  | .error (.pyjwt message) => throw (grantError ("assertion validation failed: " ++ message))
  | .error (.other _) => throw .other

/-- `_numeric_date`. -/
def numericDate (claims : List (String × Json)) (name : String) : Except Raised ℚ :=
  match claims.lookup name with
  | some (.int value) =>
      if floatOverflow ≤ |(value : ℚ)| then
        .error (grantError ("assertion " ++ name ++ " claim is out of range"))
      else .ok value
  | some (.float value) => .ok value
  | some (.nonFinite _) =>
      .error (grantError ("assertion " ++ name ++ " claim is not a finite number"))
  | _ => .error (grantError ("assertion " ++ name ++ " claim is not a number"))

/-- The name space of assertion identifiers in the shared guard. -/
def guardName (iss : String) : String := "jwt-bearer:" ++ iss

/-- `_enforce_replay`. -/
def enforceReplay (iss : String) (claims : List (String × Json)) : Service Unit := do
  let some jti := (textMember claims "jti").filter (· != "")
    | throw (grantError "assertion missing required jti claim (RFC 7523 §3)")
  let exp ← Program.ofExcept (numericDate claims "exp")
  let time ← ambient .time
  let ttl := max (exp - time) 0
  raiseIf (decide (Process.maxJtiTtlSecs < ttl)) "invalid_grant"
    "assertion lifetime exceeds the maximum of 300 seconds"
  match ← ambient (.observeJti (guardName iss) jti ttl) with
  | .full => throw (grantError "assertion replay guard unavailable")
  | .replayed => throw (grantError "assertion jti has already been used")
  | .fresh => pure ()

/-- `_reject_if_denylisted`. -/
def rejectIfDenylisted (username email : String) : Service Unit := do
  let byName ← checkSubjectDenylisted "username" username
  raiseIf byName.isSome "invalid_grant" "subject is blocked"
  let byEmail ← checkSubjectDenylisted "email" email
  raiseIf byEmail.isSome "invalid_grant" "subject is blocked"

/-- The verified email of an assertion, empty otherwise. -/
def verifiedEmail (claims : List (String × Json)) : String :=
  match claims.lookup "email_verified" with
  | some (.bool true) => Text.strip ((textMember claims "email").getD "")
  | _ => ""

/-- The local account an email-mapped assertion names. -/
def accountByEmail (env : Env) (claims : List (String × Json)) : Service (Option User) := do
  let email := Text.strip ((textMember claims "email").getD "")
  raiseIf (email == "") "invalid_grant"
    "trusted issuer maps subjects by email but the assertion has no email claim"
  raiseIf (verifiedEmail claims == "") "invalid_grant"
    "assertion email is not verified (email_verified must be true)"
  let candidates ← query (.getUsersByEmail (env.platform.lower email))
  let folded := env.platform.casefold email
  let same := candidates.filter fun user =>
    env.platform.casefold (Text.strip user.email) == folded
  raiseIf (decide (1 < same.length)) "invalid_grant"
    "assertion email matches more than one local account"
  pure same.head?

/-- First use of a subject: its user row is created, or found after a race. -/
def provision (sub : String) (claims : List (String × Json)) : Service String := do
  rejectIfDenylisted sub (verifiedEmail claims)
  let now ← ambient .now
  let secret ← ambient (.tokenUrlsafe 32)
  let passwordHash ← ambient (.hashPassword secret)
  let user : User :=
    { id := sub
      username := sub
      passwordHash := passwordHash
      email := verifiedEmail claims
      enabled := true
      role := "user"
      createdAt := now
      updatedAt := now }
  match ← command (.saveUser user) with
  | .ok () => pure user.id
  | .error _ =>
      match ← query (.getUserById sub) with
      | none =>
          throw (grantError "could not provision a local user for the assertion subject")
      | some raced =>
          raiseIf (!raced.enabled) "invalid_grant" "subject user is disabled"
          rejectIfDenylisted raced.username raced.email
          pure raced.id

/-- `_resolve_subject`. -/
def resolveSubject (env : Env) (trusted : TrustedIssuer) (claims : List (String × Json)) :
    Service String := do
  let some sub := (textMember claims "sub").filter (· != "")
    | throw (grantError "assertion sub claim is not a string")
  let byEmail := trusted.subjectMapping == "email"
  let existing ← if byEmail then accountByEmail env claims else query (.getUserById sub)
  match existing with
  | some user =>
      raiseIf (!user.enabled) "invalid_grant" "subject user is disabled"
      rejectIfDenylisted user.username user.email
      pure user.id
  | none =>
      raiseIf byEmail "invalid_grant" "unknown subject"
      raiseIf (!trusted.jitProvision) "invalid_grant"
        "assertion subject has no local user and the issuer does not allow provisioning"
      provision sub claims

/-- The checks of `redeem_jwt_bearer_assertion` up to the replay check. -/
def checkAssertion (env : Env) (assertion : String) (client : Client) :
    Service (TrustedIssuer × String × List (String × Json)) := do
  let (header, iss) ← Program.ofExcept (unverifiedHeaderAndIss env assertion)
  let some trusted ← query (.getTrustedIssuer iss)
    | throw (grantError "assertion iss is not a trusted issuer")
  raiseIf (!trusted.enabled) "invalid_grant" "assertion iss is not a trusted issuer"
  let some allowed := allowsClient env trusted client.clientId | throw .other
  raiseIf (!allowed) "invalid_grant" "client is not allowed to use this trusted issuer"
  raiseIf (isIdJagTyp (header.lookup "typ")) "invalid_grant"
    "ID-JAG assertions are not accepted by this authorization server"
  let claims ← verifyAssertion env assertion trusted header
  let iat ← Program.ofExcept (numericDate claims "iat")
  let time ← ambient .time
  raiseIf (decide (time + 60 < iat)) "invalid_grant" "assertion iat is in the future"
  pure (trusted, iss, claims)

/-- `redeem_jwt_bearer_assertion`: the local user the token is issued for. -/
def redeemJwtBearerAssertion (env : Env) (assertion : String) (client : Client) :
    Service String := do
  let (trusted, iss, claims) ← checkAssertion env assertion client
  enforceReplay iss claims
  resolveSubject env trusted claims

end OAuth2Server.JwtBearer
