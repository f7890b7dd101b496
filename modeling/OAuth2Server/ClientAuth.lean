import OAuth2Server.Validation

/-!
# Client authentication

`services/clients.py`, `services/client_assertion.py` and the part of
`services/jwks_cache.py` they call. Every function follows the source's checks
in the source's order; emitted events and log lines are left out.
-/

namespace OAuth2Server.ClientAuth

open OAuth2Server Models JsonText Storage Effects Interaction

set_option autoImplicit false

/-- `dict(await request.form())`. -/
abbrev Form := List (String × String)

/-- `form.get(key)`. -/
def Form.get (form : Form) (key : String) : Option String := form.lookup key

/-- `OAuthError("invalid_client", description)`. -/
def invalidClient (description : String) : Raised := .oauth "invalid_client" (some description)

/-! ### JSON arrays in text columns -/

/-- `Client.grant_type_list`; `none` is an escaping exception. -/
def grantTypeList (env : Env) (client : Client) : Option Json :=
  if client.grantTypes == "" then some (.arr [])
  else (loads env.platform.recursionLimit client.grantTypes).toOption

/-- `grant_type in client.grant_type_list()`. -/
def grantAllowed (env : Env) (client : Client) (grantType : String) : Option Bool :=
  (grantTypeList env client).bind fun list => list.containsText grantType

/-! ### The denylist -/

/-- `find_denylist_entry`: an expired entry is invisible. -/
def findDenylistEntry {ε : Type} (kind value : String) :
    Program Server ε (Option DenylistEntry) := do
  match ← query (.findDenylistEntry kind value) with
  | none => pure none
  | some entry =>
      match entry.expiresAt with
      | none => pure (some entry)
      | some expiresAt =>
          let now ← ambient .now
          pure (if now < expiresAt then some entry else none)

/-- `check_subject_denylisted`: the reason of an active entry. -/
def checkSubjectDenylisted {ε : Type} (kind value : String) :
    Program Server ε (Option String) :=
  if value == "" then pure none
  else do
    let entry ← findDenylistEntry kind value
    pure (entry.map (·.reason))

/-! ### Client assertions -/

def jwtBearerAssertionType : String := "urn:ietf:params:oauth:client-assertion-type:jwt-bearer"

/-- `_ALG_FOR_METHOD`. -/
def algForMethod (method : String) : Option String :=
  if method == "client_secret_jwt" then some "HS256"
  else if method == "private_key_jwt" then some "RS256"
  else none

/-- A member that is a string. -/
def textMember (members : List (String × Json)) (key : String) : Option String :=
  (members.lookup key).bind Json.str?

/-- `unverified_assertion_subject`. -/
def unverifiedAssertionSubject (env : Env) (assertion : String) : Option String :=
  if assertion == "" then none
  else
    ((env.platform.jwt.unverifiedClaims assertion).bind fun claims => textMember claims "sub").filter
      (· != "")

/-- `resolve_client_jwks`. -/
def resolveClientJwks (env : Env) (client : Client) (methods : List String) :
    Service (Option Json) :=
  if !methods.contains client.tokenEndpointAuthMethod then pure none
  else if Text.strip client.jwks != "" then
    match loads env.platform.recursionLimit (Text.strip client.jwks) with
    | .ok document => pure (some document)
    | .error .recursion => throw .other
    | .error _ => throw (invalidClient "Client inline JWKS is not valid JSON")
  else if Text.strip client.jwksUri != "" then do
    match ← ambient (.fetchJwks (Text.strip client.jwksUri)) with
    | .ok document => pure (some document)
    | .error (some description) => throw (invalidClient description)
    | .error none => throw .other
  else
    throw (invalidClient
      ("Client must register jwks or jwks_uri for " ++ client.tokenEndpointAuthMethod))

/-- `rsa_key_from_jwks`; the defaults are those of a client assertion. -/
def rsaKeyFromJwks (env : Env) (jwks : Option Json) (kid : Option String)
    (error : String := "invalid_client") (context : String := "") : Except Raised VerifyKey := do
  let some document := jwks
    | throw (.oauth error (some "Client must register jwks or jwks_uri for private_key_jwt"))
  let some (.arr keys) := document.get? "keys"
    | throw (.oauth error (some "Client JWKS missing 'keys' array"))
  let found ← match kid with
    | some kid =>
        match keys.find? fun key => (key.get? "kid").any (·.equalsText kid) with
        | some key => pure key
        | none => throw (.oauth error (some ("No matching kid in client JWKS" ++ context)))
    | none =>
        match keys.find? fun key => (key.get? "kty").any (·.equalsText "RSA") with
        | some key => pure key
        | none => throw (.oauth error (some ("No RSA key found in client JWKS" ++ context)))
  match env.platform.jwt.jwkKind "RSA" found with
  | .error _ => throw (.oauth error (some "Failed to construct RSA key from client JWKS"))
  | .ok .privateKey => throw (.oauth error (some "Client JWKS key is not an RSA public key"))
  | .ok .publicKey => pure (.jwk "RSA" found)

/-- `float(value)` of a JSON number: `none` for `OverflowError`. The library
has refused a non-finite date before. -/
def finiteFloat (value : Json) : Option ℚ :=
  value.number?.filter fun number => decide (|number| < floatOverflow)

/-- `_enforce_jti_replay`. -/
def enforceJtiReplay (clientId : String) (claims : List (String × Json)) : Service Unit := do
  let some jti := (textMember claims "jti").filter (· != "")
    | throw (invalidClient "client_assertion missing required jti claim (RFC 7523 §3)")
  let some exp := (claims.lookup "exp").filter fun exp => exp.number?.isSome
    | throw (invalidClient "client_assertion missing exp claim")
  let time ← ambient .time
  let some exp := finiteFloat exp | throw .other
  match ← ambient (.observeJti clientId jti (max (exp - time) 0)) with
  | .full => throw (invalidClient "client_assertion replay guard unavailable")
  | .replayed => throw (invalidClient "client_assertion jti has already been used")
  | .fresh => pure ()

/-- `validate_client_assertion`. -/
def validateClientAssertion (env : Env) (client : Client) (assertion tokenEndpointUrl : String)
    (jwks : Option Json) : Service Unit := do
  let method := client.tokenEndpointAuthMethod
  let some expectedAlg := algForMethod method
    | throw (invalidClient "Client is not configured for JWT authentication")
  let .ok header := env.platform.jwt.unverifiedHeader assertion
    | throw (invalidClient "Malformed client_assertion JWT")
  raiseIf (textMember header "alg" != some expectedAlg) "invalid_client"
    (method ++ " requires " ++ expectedAlg ++ " algorithm")
  let key ← if method == "client_secret_jwt" then
      pure (VerifyKey.secret (Text.utf8Encode client.clientSecret.toList))
    else Program.ofExcept (rsaKeyFromJwks env jwks (textMember header "kid"))
  let now ← ambient .now
  let options : VerifyOptions :=
    { audience := some [tokenEndpointUrl], require := ["exp", "sub", "iss", "aud"] }
  match env.platform.jwt.verify assertion key expectedAlg options now with
  | .error (.pyjwt message) => throw (invalidClient (method ++ " validation failed: " ++ message))
  | .error (.other _) => throw .other
  | .ok claims =>
      raiseIf (textMember claims "iss" != some client.clientId ||
        textMember claims "sub" != some client.clientId) "invalid_client"
        "JWT iss/sub must equal client_id"
      enforceJtiReplay client.clientId claims

/-! ### `ClientService.authenticate` -/

/-- `_parse_basic_auth`. The `ValueError` of a text that is not ASCII is not caught. -/
def parseBasicAuth (authorization : Option String) : Except Raised (Option (String × String)) :=
  match authorization with
  | none => .ok none
  | some header =>
      if !Text.startsWith (Text.lower header) "basic " then .ok none
      else
        let encoded := Text.strip (Text.drop header 6)
        if encoded.toList.any fun char => 128 ≤ char.toNat then .error .other
        else match (Text.b64decode encoded).bind Text.utf8Decode with
        | none => .error (invalidClient "malformed Basic auth header")
        | some decoded =>
            match Text.cut ':' decoded with
            | none => .error (invalidClient "malformed Basic auth header")
            | some (rawId, rawSecret) =>
                .ok (some (Text.unquotePlus (String.ofList rawId),
                  Text.unquotePlus (String.ofList rawSecret)))

/-- The `(client_id, client_secret)` pair of a request, before the assertion
fallback. -/
def presentedCredentials (form : Form) (authorization : Option String) :
    Except Raised (Option String × Option String) := do
  match ← parseBasicAuth authorization with
  | some (clientId, clientSecret) =>
      if Text.truthy (form.get "client_id") && form.get "client_id" != some clientId then
        throw (.oauth "invalid_request" (some "client_id mismatch"))
      if Text.truthy (form.get "client_secret") && form.get "client_secret" != some clientSecret then
        throw (invalidClient "client_secret mismatch")
      pure (some clientId, some clientSecret)
  | none => pure (form.get "client_id", form.get "client_secret")

/-- `ClientService._authenticate_jwt`. -/
def authenticateJwt (env : Env) (client : Client) (form : Form) : Service Unit := do
  raiseIf (!Text.truthy (form.get "client_assertion_type")) "invalid_client"
    "Missing client_assertion_type"
  raiseIf (form.get "client_assertion_type" != some jwtBearerAssertionType) "invalid_client"
    "Unsupported client_assertion_type"
  raiseIf (!Text.truthy (form.get "client_assertion")) "invalid_client" "Missing client_assertion"
  let jwks ← resolveClientJwks env client ["private_key_jwt"]
  validateClientAssertion env client ((form.get "client_assertion").getD "")
    (Text.rstripSlash env.config.issuer ++ "/oauth/token") jwks

/-- `_authenticate_tls_client_auth`. -/
def authenticateTlsClientAuth (client : Client) (thumbprint subjectDn : Option String) :
    Except Raised Unit :=
  if thumbprint.isNone then
    .error (invalidClient ("tls_client_auth requires a TLS client certificate " ++
      "(X-Client-Cert-Thumbprint header missing)"))
  else if client.tlsClientCertificateSubjectDn == "" then .ok ()
  else if subjectDn.isNone then
    .error (invalidClient
      "tls_client_auth requires X-SSL-Client-S-DN header when Subject DN is configured")
  else if subjectDn != some client.tlsClientCertificateSubjectDn then
    .error (invalidClient "tls_client_auth: client certificate Subject DN does not match")
  else .ok ()

/-- The `keys` a self-signed client is matched against; `none` when the column
holds JSON that is neither empty nor an object with iterable keys. -/
def registeredKeys (jwks : Option Json) : Option (List Json) :=
  match jwks with
  | none => some []
  | some document =>
      if !document.truthy then some []
      else if !document.isObj then none
      else
        match document.get? "keys" with
        | none => some []
        | some (.arr keys) => some keys
        -- Iterating a dictionary or a string yields strings, never a key.
        | some (.obj _) => some []
        | some (.str _) => some []
        | some other => if other.truthy then none else some []

/-- `ClientService._authenticate_self_signed_tls`. -/
def authenticateSelfSignedTls (env : Env) (client : Client) (thumbprint : Option String) :
    Service Unit := do
  let some thumbprint := thumbprint
    | throw (invalidClient ("self_signed_tls_client_auth requires a TLS client certificate " ++
        "(X-Client-Cert-Thumbprint header missing)"))
  let noMatch := "self_signed_tls_client_auth: certificate does not match a registered JWK"
  raiseIf (Text.strip client.jwks == "" && Text.strip client.jwksUri == "") "invalid_client" noMatch
  let jwks ← resolveClientJwks env client ["self_signed_tls_client_auth"]
  let some keys := registeredKeys jwks | throw .other
  raiseIf (!keys.any fun key => (key.get? "x5t#S256").any (·.equalsText thumbprint))
    "invalid_client" noMatch

/-- How a request identifies its client beside the form. -/
structure Credentials where
  authorization : Option String
  thumbprint : Option String
  subjectDn : Option String

/-- The credential check of `authenticate`, by the registered method. -/
def checkCredential (env : Env) (client : Client) (form : Form) (clientSecret : Option String)
    (credentials : Credentials) : Service Unit :=
  let method := client.tokenEndpointAuthMethod
  if client.isPublic then
    raiseIf (Text.truthy clientSecret) "invalid_client" "public client must not present a secret"
  else if method == "client_secret_jwt" || method == "private_key_jwt" then
    authenticateJwt env client form
  else if method == "tls_client_auth" then
    Program.ofExcept (authenticateTlsClientAuth client credentials.thumbprint credentials.subjectDn)
  else if method == "self_signed_tls_client_auth" then
    authenticateSelfSignedTls env client credentials.thumbprint
  else
    raiseIf (!Text.truthy clientSecret || clientSecret != some client.clientSecret) "invalid_client"
      "invalid client secret"

/-- `ClientService.authenticate`. -/
def authenticate (env : Env) (form : Form) (credentials : Credentials) : Service Client := do
  let (presentedId, clientSecret) ← Program.ofExcept
    (presentedCredentials form credentials.authorization)
  let clientId := if Text.truthy presentedId then presentedId
    else unverifiedAssertionSubject env ((form.get "client_assertion").getD "")
  let some clientId := clientId.filter (· != "") | throw (invalidClient "missing client_id")
  let some client ← query (.getClient clientId)
    | throw (invalidClient "unknown or disabled client")
  raiseIf (!client.enabled) "invalid_client" "unknown or disabled client"
  let denylisted ← checkSubjectDenylisted "client_id" client.clientId
  raiseIf denylisted.isSome "invalid_client" "unknown or disabled client"
  checkCredential env client form clientSecret credentials
  pure client

end OAuth2Server.ClientAuth
