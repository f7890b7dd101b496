import OAuth2Server.Endpoints
import OAuth2Server.KeySet

/-!
# Where access tokens are shown

`/oauth/userinfo` (`routes/wellknown.py`) and `POST /oauth/introspect`
(`routes/introspect.py`). Both take the stored row for the token's validity and
read its confirmation from the unverified payload.
-/

namespace OAuth2Server.Resources

open OAuth2Server Models JsonText Storage Effects Interaction
open ClientAuth Dpop TokenEndpoint Issuance KeySet Endpoints

set_option autoImplicit false

/-- A member of the confirmation claim, of the token as presented. -/
def confirmation (env : Env) (token member : String) : Option Json :=
  match (decodeUnverifiedClaims env token).lookup "cnf" with
  | some (.obj members) => members.lookup member
  | _ => none

/-- `isinstance(value, str) and value`. -/
def nonemptyText (value : Option Json) : Option String :=
  (value.bind Json.str?).filter (· != "")

/-! ### `/oauth/userinfo` -/

inductive Method where
  | get
  | post
  deriving DecidableEq, Repr

def Method.name : Method → String
  | .get => "GET"
  | .post => "POST"

structure UserinfoRequest extends Request where
  method : Method

/-- `authorization.partition(" ")`. -/
def authScheme (request : Request) : String × String :=
  let header := request.authorization.getD ""
  match Text.cut ' ' header.toList with
  | some (scheme, rest) => (String.ofList scheme, String.ofList rest)
  | none => (header, "")

/-- A 401 that names the scheme to try again with. -/
def invalidTokenResponse (scheme description : String) : Response where
  status := 401
  headers := [("WWW-Authenticate", scheme ++ " error=\"invalid_token\"")]
  body := .obj [("error", .str "invalid_token"), ("error_description", .str description)]

def missingTokenResponse : Response where
  status := 401
  headers := [("WWW-Authenticate", "Bearer")]
  body := .obj [("error", .str "invalid_token"), ("error_description", .str "Missing access token")]

/-- `_resource_nonce_challenge`. -/
def resourceNonceChallenge (challenge : Response) : Response where
  status := 401
  headers := [("WWW-Authenticate", "DPoP error=\"use_dpop_nonce\""),
    ("DPoP-Nonce", (challenge.headers.lookup "DPoP-Nonce").getD "")]
  body := .obj [("error", .str "use_dpop_nonce"),
    ("error_description", .str "DPoP proof nonce required or stale")]

/-- The proof a resource endpoint was shown; a header that is no text is none. -/
def presentedProof (request : Request) : Option String :=
  match readDpopHeader request with
  | .ok proof => proof
  | .error _ => none

/-- A `DpopError` is answered with `refusal`, anything else is a 500. -/
def orRefuse {α : Type} (service : Service α) (refusal : Response) : Handler α :=
  service.mapError fun raised =>
    match raised with
    | .dpop _ _ => refusal
    | _ => internalServerError

/-- The key binding of `_enforce_token_binding`. -/
def enforceJkt (env : Env) (request : UserinfoRequest) (token : String) :
    Handler (Option Validated) :=
  match nonemptyText (confirmation env token "jkt") with
  | none => pure none
  | some jkt => do
      if env.platform.lower (authScheme request.toRequest).1 != "dpop" then
        throw (invalidTokenResponse "DPoP"
          "DPoP-bound access token must be presented with the DPoP scheme")
      let some proof := presentedProof request.toRequest
        | throw (invalidTokenResponse "DPoP" "DPoP proof required for this access token")
      let validated ← orRefuse
        (validateDpopProof env proof request.method.name
          (Text.rstripSlash env.config.issuer ++ "/oauth/userinfo") (some token))
        (invalidTokenResponse "DPoP" "DPoP proof validation failed")
      if validated.jkt != jkt then
        throw (invalidTokenResponse "DPoP"
          "DPoP proof key does not match the access token binding")
      pure (some validated)

/-- The certificate binding of `_enforce_token_binding`. -/
def enforceThumbprint (env : Env) (request : UserinfoRequest) (token : String) : Handler Unit :=
  match nonemptyText (confirmation env token "x5t#S256") with
  | none => pure ()
  | some thumb =>
      if (mtlsHeaders env request.toRequest).1 != some thumb then
        throw (invalidTokenResponse "Bearer"
          "Certificate-bound access token requires a matching client certificate")
      else pure ()

/-- `_enforce_token_binding`. -/
def enforceTokenBinding (env : Env) (request : UserinfoRequest) (token : String) :
    Handler (Option Validated) := do
  let validated ← enforceJkt env request token
  enforceThumbprint env request token
  pure validated

/-- The bearer or DPoP token of the request. -/
def presentedToken (env : Env) (request : Request) : Option String :=
  let (scheme, rest) := authScheme request
  if ["bearer", "dpop"].contains (env.platform.lower scheme) then
    (some (Text.strip rest)).filter (· != "")
  else none

/-- The client's nonce policy, looked up only for a proof. -/
def requireNonce (env : Env) (clientId : String) (validated : Option Validated) :
    Handler Bool :=
  match validated with
  | none => pure false
  | some validated => do
      match ← query (.getClient clientId) with
      | none => pure false
      | some client =>
          if client.dpopNonceRequired then do
            match ← orRefuse (enforceDpopNonce env validated)
                (invalidTokenResponse "DPoP" "DPoP proof validation failed") with
            | some challenge => throw (resourceNonceChallenge challenge)
            | none => pure true
          else pure false

/-- The stored `claims` request of the grant the token descends from. -/
def userinfoSelection (env : Env) (row : Token) : Handler ClaimsSelection :=
  match row.tokenFamily.filter (· != "") with
  | none => pure {}
  | some family => do
      match ← query (.getAuthorizationCodeByTokenFamily family) with
      | none => pure {}
      | some code => pure (selectUserinfoClaims env code.claimsRequest row.scope)

/-- The claims about the user that the scope and the selection let through. -/
def userClaims (row : Token) (selection : ClaimsSelection) (user : User) :
    List (String × Json) :=
  let scopes := Text.split row.scope
  (if scopes.contains "email" && selection.allows "email" user.email then
      [("email", .str user.email)] else []) ++
    if scopes.contains "profile" && selection.allows "preferred_username" user.username then
      [("preferred_username", .str user.username)] else []

/-- The exceptions of `decode_access_token` that userinfo lets pass. -/
def tryDecode (env : Env) (token : String) : Handler Unit :=
  (discard (decodeAccessToken env token env.config.jwtSecret env.config.issuer)).rescue fun raised =>
    match raised with
    | .other => throw internalServerError
    | _ => pure ()

/-- The stored row of the presented token, if it is valid. -/
def userinfoRow (token : String) : Handler Token := do
  let refusal := invalidTokenResponse "Bearer" "Invalid or expired access token"
  match ← query (.getTokenByAccessToken token) with
  | none => throw refusal
  | some row =>
      if row.revoked then throw refusal
      else do
        let now ← ambient .now
        if row.expiresAt ≤ now then throw refusal
        else pure row

/-- `GET` and `POST /oauth/userinfo`. -/
def userinfo (env : Env) (request : UserinfoRequest) : Handler Response := do
  let some token := presentedToken env request.toRequest | throw missingTokenResponse
  tryDecode env token
  let row ← userinfoRow token
  let validated ← enforceTokenBinding env request token
  let some subject := row.userId
    | throw (invalidTokenResponse "Bearer" "Access token does not represent an authenticated user")
  let renewed ← requireNonce env row.clientId validated
  let selection ← userinfoSelection env row
  let user ← query (.getUserById subject)
  let members := [("sub", Json.str subject), ("iss", .str env.config.issuer),
    ("aud", .str row.clientId)] ++ (user.map (userClaims row selection)).getD []
  if renewed then do
    let nonce ← issueNonce env
    pure { status := 200, headers := [("DPoP-Nonce", nonce)], body := .obj members }
  else pure (json 200 members)

/-! ### `POST /oauth/introspect` -/

structure IntrospectRequest extends Request where
  accept : Option String := none

def introspectionJwtTyp : String := "token-introspection+jwt"

def introspectionJwtMediaType : String := "application/" ++ introspectionJwtTyp

def signedOrRaise (token : Option String) : Service String :=
  match token with
  | some token => pure token
  | none => throw .other

/-- `encode_introspection_jwt`. -/
def encodeIntrospectionJwt (env : Env) (payload : Json) (client : Client) : Service String := do
  let keys ← ambient .keys
  match ← currentForAlg "RS256" keys with
  | some key =>
      signedOrRaise (jwtEncode env payload key.keyMaterial "RS256"
        [("typ", introspectionJwtTyp), ("kid", key.kid)])
  | none =>
      if !client.isPublic && client.clientSecret != "" then
        signedOrRaise (jwtEncode env payload (Text.utf8Encode client.clientSecret.toList) "HS256"
          [("typ", introspectionJwtTyp)])
      else
        throw (.oauth "invalid_request"
          (some "JWT introspection responses require an RS256 signing key or a client secret"))

/-- `_introspection_response`: JSON, or a JWT when the caller accepts one. -/
def introspectionResponse (env : Env) (request : IntrospectRequest) (body : Json)
    (client : Client) : Handler Response :=
  if Text.contains (request.accept.getD "") introspectionJwtMediaType then do
    let now ← ambient .now
    let signed ← call (encodeIntrospectionJwt env
      (.obj [("iss", .str env.config.issuer), ("aud", .str client.clientId),
        ("iat", .int (timestamp now)), ("token_introspection", body)]) client)
    pure
      { status := 200
        headers := [("Content-Type", introspectionJwtMediaType), ("Cache-Control", "no-store")]
        body := .str signed }
  else pure { status := 200, headers := [("Cache-Control", "no-store")], body := body }

/-- `return _inactive_response(request, client)`. -/
def answerInactive {α : Type} (env : Env) (request : IntrospectRequest) (client : Client) :
    Handler α := do
  let response ← introspectionResponse env request (.obj [("active", .bool false)]) client
  throw response

/-- `_lookup_token`, with the column that matched. -/
def lookupTokenBy (value : String) : Handler (Option (Token × Bool)) := do
  match ← query (.getTokenByAccessToken value) with
  | some row => pure (some (row, false))
  | none =>
      match ← query (.getTokenByRefreshToken value) with
      | some row => pure (some (row, true))
      | none => pure none

/-- `_expiry_deadline`. -/
def expiryDeadline (env : Env) (row : Token) (matchedViaRefresh : Bool) : Instant :=
  if matchedViaRefresh then row.createdAt + seconds env.config.refreshTokenTtlSecs
  else row.expiresAt

/-- The row to report on, with its deadline; everything else is inactive. -/
def introspectedRow (env : Env) (request : IntrospectRequest) (client : Client)
    (value : Option String) : Handler (String × Token × Instant) := do
  let some value := value | answerInactive env request client
  match ← lookupTokenBy value with
  | none => answerInactive env request client
  | some (row, matchedViaRefresh) =>
      if row.revoked then answerInactive env request client
      else do
        let deadline := expiryDeadline env row matchedViaRefresh
        let now ← ambient .now
        if deadline ≤ now then answerInactive env request client
        else if row.clientId != client.clientId then answerInactive env request client
        else pure (value, row, deadline)

/-- The DPoP proof of an introspection request; a failed one reads as inactive. -/
def introspectionProof (env : Env) (request : IntrospectRequest) (client : Client)
    (proof : String) : Handler Validated :=
  (validateDpopProof env proof "POST" (Text.rstripSlash env.config.issuer ++ "/oauth/introspect")
    none).rescue fun raised =>
      match raised with
      | .dpop _ _ => answerInactive env request client
      | _ => throw internalServerError

/-- The key binding of a reported token. -/
def introspectJkt (env : Env) (request : IntrospectRequest) (client : Client) (value : String) :
    Handler Bool :=
  match (confirmation env value "jkt").filter Json.truthy with
  | none => pure false
  | some jkt => do
      match ← check (readDpopHeader request.toRequest) with
      | none => answerInactive env request client
      | some proof => do
          let validated ← introspectionProof env request client proof
          if !jkt.equalsText validated.jkt then answerInactive env request client
          else pure true

/-- The certificate binding of a reported token. -/
def introspectThumbprint (env : Env) (request : IntrospectRequest) (client : Client)
    (value : String) : Handler Bool :=
  match nonemptyText (confirmation env value "x5t#S256") with
  | none => pure false
  | some thumb =>
      if (mtlsHeaders env request.toRequest).1 != some thumb then
        answerInactive env request client
      else pure true

/-- The username of the token's user, if there still is one. -/
def introspectedUsername (row : Token) : Handler (Option String) :=
  match row.userId.filter (· != "") with
  | none => pure none
  | some userId => do
      let user ← query (.getUserById userId)
      pure (user.map User.username)

/-- The id and the audience of a token that verifies. Only the library's own
exceptions are caught. -/
def introspectedClaims (env : Env) (value : String) : Handler (Option Claims) :=
  (some <$> decodeAccessToken env value env.config.jwtSecret env.config.issuer).rescue fun raised =>
    match raised with
    | .pyjwt => pure none
    | _ => throw internalServerError

def audienceJson : List String → Json
  | [audience] => .str audience
  | audiences => .arr (audiences.map .str)

def introspect (env : Env) (request : IntrospectRequest) : Handler Response := do
  let client ← authenticateOrRefuse env request.toRequest
  let (value, row, deadline) ← introspectedRow env request client
    ((request.form.get "token").filter (· != ""))
  let keyBound ← introspectJkt env request client value
  let certBound ← introspectThumbprint env request client value
  let username ← introspectedUsername row
  let claims ← introspectedClaims env value
  let unverified := decodeUnverifiedClaims env value
  let some details := optionalField unverified "authorization_details" asDictList
    | throw internalServerError
  let created := timestamp row.createdAt
  introspectionResponse env request
    (.obj ([("active", .bool true), ("scope", .str row.scope), ("client_id", .str row.clientId)] ++
      optionalMember "username" (username.map .str) ++
      [("token_type", .str "Bearer"), ("exp", .int (timestamp deadline)), ("iat", .int created),
        ("nbf", .int created),
        ("sub", .str ((row.userId.filter (· != "")).getD row.clientId)),
        ("aud", (claims.map fun claims => audienceJson claims.aud).getD (.str row.clientId)),
        ("jti", .str ((claims.map Claims.jti).getD row.id)), ("iss", .str env.config.issuer)] ++
      optionalMember "cnf" (if keyBound || certBound then unverified.lookup "cnf" else none) ++
      optionalMember "authorization_details" (details.map .arr)))
    client

end OAuth2Server.Resources
