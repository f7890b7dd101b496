import OAuth2Server.Dpop
import OAuth2Server.JwtBearer
import OAuth2Server.Issuance

/-!
# `POST /oauth/token`

The handler of `routes/token.py`, grant by grant. Each grant is written as its
checks, the step that consumes the grant, and what is left to do after it, in
the order of the source. Emitted events and metrics are left out.
-/

namespace OAuth2Server.TokenEndpoint

open OAuth2Server Models JsonText Storage Effects Interaction
open ClientAuth Dpop JwtBearer Issuance Validation

set_option autoImplicit false

def deviceCodeGrant : String := "urn:ietf:params:oauth:grant-type:device_code"

def tokenExchangeGrant : String := "urn:ietf:params:oauth:grant-type:token-exchange"

def accessTokenTypeUrn : String := "urn:ietf:params:oauth:token-type:access_token"

/-- `_KNOWN_GRANT_TYPES`, one constructor a grant. -/
inductive Grant where
  | authorizationCode
  | clientCredentials
  | refreshToken
  | deviceCode
  | tokenExchange
  | jwtBearer
  deriving DecidableEq, Repr

def Grant.name : Grant → String
  | .authorizationCode => "authorization_code"
  | .clientCredentials => "client_credentials"
  | .refreshToken => "refresh_token"
  | .deviceCode => deviceCodeGrant
  | .tokenExchange => tokenExchangeGrant
  | .jwtBearer => jwtBearerGrant

def Grant.parse (text : String) : Option Grant :=
  [Grant.authorizationCode, .clientCredentials, .refreshToken, .deviceCode, .tokenExchange,
    .jwtBearer].find? fun grant => grant.name == text

/-! ### Answering exceptions -/

/-- How the token endpoint answers what its services raise. -/
def answerRaised : Raised → Response
  | .oauth error description => oauthError error description
  | .dpop error description => oauthError error (some description)
  | .other => internalServerError

/-- A service call inside the handler. -/
def call {α : Type} (service : Service α) : Handler α := service.mapError answerRaised

/-- A pure check inside the handler. -/
def check {α : Type} (outcome : Except Raised α) : Handler α :=
  Program.ofExcept (outcome.mapError answerRaised)

/-- `return oauth_error(error, description)`. -/
def refuse {α : Type} (error description : String) : Handler α :=
  throw (oauthError error (some description))

/-- `_extract_client_id_for_penalty`, called when `authenticate` has raised an
`OAuthError` over the same header. -/
def extractClientIdForPenalty (env : Env) (request : Request) : Option String :=
  let basic := match parseBasicAuth request.authorization with
    | .ok (some (clientId, _)) => some (if clientId == "" then none else some clientId)
    | _ => none
  match basic with
  | some clientId => clientId
  | none =>
      match (request.form.get "client_id").filter (· != "") with
      | some clientId => some clientId
      | none =>
          (request.form.get "client_assertion").bind fun assertion =>
            unverifiedAssertionSubject env assertion

/-- `_invalid_client_response`: the 401, or a 429 once the penalty bucket of the
client is empty. -/
def invalidClientResponse {ε : Type} (clientId description : Option String) :
    Program Server ε Response :=
  match clientId.filter (· != "") with
  | none => pure (oauthError "invalid_client" description)
  | some clientId => do
      match ← ambient (.checkInvalidClient clientId) with
      | none => pure (oauthError "invalid_client" description)
      | some retryAfter =>
          pure
            { status := 429
              headers := [("Cache-Control", "no-store")]
              body := .obj [("error", .str "too_many_requests"),
                ("error_description", .str ("Too many failed authentication attempts. Retry after " ++
                  toString retryAfter ++ "s.")),
                ("error_uri", .null)] }

/-! ### The block before the grants -/

/-- What the grants get from the block they share. -/
structure Context where
  client : Client
  dpop : Option Validated
  cnf : Option Json

/-- Client authentication, with its failures answered. -/
def authenticatedClient (env : Env) (request : Request) : Handler Client :=
  (authenticate env request.form (request.credentials env)).rescue fun raised =>
    match raised with
    | .oauth error description =>
        if error == "invalid_client" then do
          let response ← invalidClientResponse (extractClientIdForPenalty env request) description
          throw response
        else throw (oauthError error description)
    | raised => throw (answerRaised raised)

/-- The proof of a request, validated and, where the client requires it,
carrying a fresh nonce. -/
def validatedProof (env : Env) (client : Client) (request : Request) :
    Handler (Option Validated) := do
  match ← check (readDpopHeader request) with
  | none => pure none
  | some proof =>
      let validated ← call (validateDpopProof env proof "POST"
        (Text.rstripSlash env.config.issuer ++ "/oauth/token") none)
      if client.dpopNonceRequired then
        match ← call (enforceDpopNonce env validated) with
        | some challenge => throw challenge
        | none => pure (some validated)
      else pure (some validated)

/-- The confirmation of a new binding: a proof wins over a certificate. -/
def confirmation (env : Env) (request : Request) (dpop : Option Validated) : Option Json :=
  match dpop with
  | some validated => some (.obj [("jkt", .str validated.jkt)])
  | none => (mtlsHeaders env request).1.map fun thumbprint => .obj [("x5t#S256", .str thumbprint)]

def requestedGrant (request : Request) : Handler Grant :=
  match (request.form.get "grant_type").filter (· != "") with
  | none => refuse "invalid_request" "grant_type is required"
  | some text =>
      match Grant.parse text with
      | none => refuse "unsupported_grant_type" ("grant_type '" ++ text ++ "' is not supported")
      | some grant => pure grant

/-- Everything up to the dispatch on the grant type. -/
def preGrant (env : Env) (request : Request) : Handler Context := do
  let client ← authenticatedClient env request
  let dpop ← validatedProof env client request
  pure { client := client, dpop := dpop, cnf := confirmation env request dpop }

/-- `if grant_type not in client.grant_type_list()`. -/
def requireGrant (env : Env) (client : Client) (grant : Grant) : Handler Unit :=
  match grantAllowed env client grant.name with
  | none => throw internalServerError
  | some allowed =>
      returnIf (!allowed) "unauthorized_client" "client is not authorized for this grant type"

/-- Public clients are turned away from the grants that need a credential. -/
def requireConfidential (client : Client) (description : String) : Handler Unit :=
  if client.isPublic then do
    let response ← invalidClientResponse (some client.clientId) (some description)
    throw response
  else pure ()

/-- A successful response; `_with_dpop_nonce` adds a fresh nonce where the client
needs one. -/
def success (env : Env) (context : Context) (body : Json) : Handler Response :=
  if context.client.dpopNonceRequired && context.dpop.isSome then do
    let nonce ← issueNonce env
    pure
      { status := 200
        headers := [("Cache-Control", "no-store"), ("DPoP-Nonce", nonce)]
        body := body }
  else
    pure
      { status := 200
        headers := [("Cache-Control", "no-store")]
        body := body }

/-- The scope of a grant that is limited to the client's registered scope. -/
def clientScope (client : Client) (form : Form) : Handler String :=
  match (form.get "scope").filter (· != "") with
  | none => pure client.scope
  | some requested => do
      returnIf (!scopeIsSubset requested client.scope) "invalid_scope"
        "requested scope exceeds client scope"
      pure requested

/-- The scope of a grant that is limited to a token's scope. -/
def narrowedScope (form : Form) (granted description : String) : Handler String :=
  match (form.get "scope").filter (· != "") with
  | none => pure granted
  | some requested => do
      returnIf (!scopeIsSubset requested granted) "invalid_scope" description
      pure requested

/-- The id_token of a response, where the scope asks for one. -/
def withIdToken (env : Env) (client : Client) (userId : Option String) (scope : String)
    (nonce code : Option String) (selection : Option ClaimsSelection) (response : TokenResponse) :
    Handler TokenResponse :=
  match userId with
  | none => pure response
  | some userId =>
      if (Text.split scope).contains "openid" then do
        let user ← query (.getUserById userId)
        match ← call (mintIdToken env client userId user scope response.accessToken nonce code
          selection) with
        | .ok idToken => pure { response with idToken := some idToken }
        | .error message => throw (oauthError "server_error" (some message) 500)
      else pure response

/-! ### client_credentials -/

/-- `authorization_details` of a request, validated when present. -/
def checkedDetails (env : Env) (raw : Option String) : Handler (Option (List Json)) :=
  match raw with
  | none => pure none
  | some raw => some <$> check (validateAuthorizationDetails env raw)

def clientCredentials (env : Env) (context : Context) (request : Request) : Handler Response := do
  requireConfidential context.client "Public clients cannot use the client_credentials grant"
  requireGrant env context.client .clientCredentials
  let scope ← clientScope context.client request.form
  let details ← checkedDetails env (request.form.get "authorization_details")
  let resource ← check (validateResource (request.form.get "resource"))
  let response ← call (issue env
    { client := context.client
      userId := none
      scope := scope
      withRefresh := false
      cnf := context.cnf
      authorizationDetails := details
      resource := resource })
  success env context response.body

/-! ### authorization_code -/

/-- `_pkce_challenge`. -/
def pkceChallenge (env : Env) (verifier : String) : String := env.platform.sha256Url verifier

/-- The PKCE checks of a redemption. -/
def checkPkce (env : Env) (challenge verifier : Option String) : Except Raised Unit :=
  match challenge.filter (· != "") with
  | none => .error (grantError "PKCE is required")
  | some challenge =>
      match verifier.filter (· != "") with
      | none => .error (grantError "code_verifier is missing")
      | some verifier =>
          let length := verifier.toList.length
          if length < 43 || 128 < length then
            .error (.oauth "invalid_request"
              (some "code_verifier must be between 43 and 128 characters"))
          else if pkceChallenge env verifier != challenge then
            .error (grantError "code_verifier does not match code_challenge")
          else .ok ()

/-- The details of a redemption: what was consented to wins, and must not be
altered. -/
def redeemedDetails (env : Env) (stored presented : Option String) :
    Handler (Option (List Json)) := do
  returnIf (stored.isSome && presented.isSome && presented != stored)
    "invalid_authorization_details" "authorization_details must not be altered at redemption"
  checkedDetails env (stored.or presented)

/-- A replayed code revokes the family of its tokens. -/
def refuseReplayedCode {α : Type} (row : AuthorizationCode) : Handler α := do
  match row.tokenFamily.filter (· != "") with
  | some family => discard (command (.revokeTokenFamily family))
  | none => pure ()
  refuse "invalid_grant" "authorization code has already been used"

/-- The checks on a presented code up to its claim. -/
def checkCode (env : Env) (context : Context) (request : Request) :
    Handler (AuthorizationCode × Option (List Json)) := do
  requireGrant env context.client .authorizationCode
  let found ← match (request.form.get "code").filter (· != "") with
    | some code => query (.getAuthorizationCode code)
    | none => pure none
  match found with
  | none => refuse "invalid_grant" "authorization code not found"
  | some row =>
      returnIf (row.clientId != context.client.clientId) "invalid_grant"
        "authorization code was not issued to this client"
      let now ← ambient .now
      returnIf (decide (row.expiresAt < now)) "invalid_grant" "authorization code has expired"
      if row.used then refuseReplayedCode row
      else
        returnIf (request.form.get "redirect_uri" != some row.redirectUri) "invalid_grant"
          "redirect_uri does not match the authorization request"
        check (checkPkce env row.codeChallenge (request.form.get "code_verifier"))
        let details ← redeemedDetails env row.authorizationDetails
          (request.form.get "authorization_details")
        pure (row, details)

/-- Whether the code is bound to a key other than the proof's. -/
def boundElsewhere (row : AuthorizationCode) (dpop : Option Validated) : Bool :=
  row.dpopJkt.any fun expected => !(dpop.any fun validated => validated.jkt == expected)

/-- What follows the claim of a code. -/
def redeemCode (env : Env) (context : Context) (row : AuthorizationCode)
    (details : Option (List Json)) : Handler Response := do
  returnIf (boundElsewhere row context.dpop) "invalid_grant"
    "authorization code is bound to a different DPoP key"
  let response ← call (issue env
    { client := context.client
      userId := some row.userId
      scope := row.scope
      withRefresh := true
      tokenFamily := row.tokenFamily
      cnf := context.cnf
      authorizationDetails := details
      resource := row.resource })
  let response ← withIdToken env context.client (some row.userId) row.scope row.nonce
    (some row.code) (some (selectIdTokenClaims env row.claimsRequest row.scope)) response
  success env context response.body

def authorizationCode (env : Env) (context : Context) (request : Request) : Handler Response := do
  let (row, details) ← checkCode env context request
  let claimed ← command (.markAuthorizationCodeUsed row.code)
  if claimed = 0 then refuseReplayedCode row
  else redeemCode env context row details

/-! ### refresh_token -/

/-- `decode_unverified_claims`. -/
def decodeUnverifiedClaims (env : Env) (token : String) : List (String × Json) :=
  (env.platform.jwt.unverifiedClaims token).getD []

/-- `_salvage_old_cnf`. -/
def salvageOldCnf (env : Env) (accessToken : String) : Option Json :=
  ((decodeUnverifiedClaims env accessToken).lookup "cnf").filter Json.isObj

/-- `_salvage_old_aud`. -/
def salvageOldAud (env : Env) (accessToken : String) : Option (List String) :=
  match (decodeUnverifiedClaims env accessToken).lookup "aud" with
  | some (.str audience) => some [audience]
  | some value => value.strings?.filter (!·.isEmpty)
  | none => none

/-- The audience a refresh carries forward; a `resource` must be in the old one. -/
def carriedAudience (old : Option (List String)) (resource : Option String) :
    Handler (Option (List String)) :=
  match old with
  | none => pure none
  | some audience =>
      match resource with
      | none => pure (some audience)
      | some resource => do
          returnIf (!audience.contains resource) "invalid_target"
            "resource is not among the audiences originally granted"
          pure none

/-- The key a refresh token is bound to. -/
def boundJkt (cnf : Option Json) : Option String :=
  (cnf.bind fun cnf => (cnf.get? "jkt").bind Json.str?).filter (· != "")

/-- What a refresh has settled when it reaches the rotation. -/
structure Rotation where
  row : Token
  scope : String
  resource : Option String
  audience : Option (List String)
  cnf : Option Json

/-- Reuse of a revoked refresh token revokes its family. -/
def refuseRevoked {α : Type} (row : Token) : Handler α := do
  match row.tokenFamily.filter (· != "") with
  | some family => discard (command (.revokeTokenFamily family))
  | none => pure ()
  refuse "invalid_grant" "refresh token has been revoked"

/-- The checks on a live refresh token up to its rotation. -/
def checkLiveRefresh (env : Env) (context : Context) (request : Request) (row : Token) :
    Handler Rotation := do
  let now ← ambient .now
  returnIf (decide (row.createdAt + seconds env.config.refreshTokenTtlSecs ≤ now)) "invalid_grant"
    "refresh token has expired"
  let scope ← narrowedScope request.form row.scope "requested scope exceeds the original grant"
  let resource ← check (validateResource (request.form.get "resource"))
  let audience ← carriedAudience (salvageOldAud env row.accessToken) resource
  let cnf := salvageOldCnf env row.accessToken
  returnIf (context.client.isPublic && (boundJkt cnf).any fun jkt =>
      !(context.dpop.any fun validated => validated.jkt == jkt)) "invalid_grant"
    "refresh token is bound to a DPoP key; present a proof with the same key"
  pure
    { row := row
      scope := scope
      resource := resource
      audience := audience
      cnf := cnf }

/-- The checks on a presented refresh token up to its rotation. -/
def checkRefresh (env : Env) (context : Context) (request : Request) : Handler Rotation := do
  requireGrant env context.client .refreshToken
  let found ← match (request.form.get "refresh_token").filter (· != "") with
    | some refreshToken => query (.getTokenByRefreshToken refreshToken)
    | none => pure none
  match found with
  | none => refuse "invalid_grant" "refresh token not found"
  | some row =>
      returnIf (row.clientId != context.client.clientId) "invalid_grant"
        "refresh token does not belong to this client"
      if row.revoked then refuseRevoked row
      else checkLiveRefresh env context request row

/-- `old_token.token_family or uuid.uuid4().hex`. -/
def familyOf {ε : Type} (row : Token) : Program Server ε String :=
  match row.tokenFamily.filter (· != "") with
  | some family => pure family
  | none => ambient .uuid4Hex

/-- What follows the revocation of the old token. -/
def redeemRefresh (env : Env) (context : Context) (rotation : Rotation) (family : String) :
    Handler Response := do
  let response ← call (issue env
    { client := context.client
      userId := rotation.row.userId
      scope := rotation.scope
      withRefresh := true
      tokenFamily := some family
      cnf := rotation.cnf
      resource := rotation.resource
      audience := rotation.audience })
  let response ← withIdToken env context.client (rotation.row.userId.filter (· != ""))
    rotation.scope none none none response
  success env context response.body

def refreshToken (env : Env) (context : Context) (request : Request) : Handler Response := do
  let rotation ← checkRefresh env context request
  let family ← familyOf rotation.row
  command (.revokeToken rotation.row.accessToken)
  redeemRefresh env context rotation family

/-! ### device_code -/

/-- `slow_down` with the interval the poller has to keep from now on. -/
def slowDown (interval : Int) : Response where
  status := 400
  headers := [("Cache-Control", "no-store")]
  body := .obj [("error", .str "slow_down"),
    ("error_description", .str "polling too frequently; increase interval"),
    ("interval", .int interval)]

/-- The checks on a polled device code up to its claim. -/
def checkDevice (env : Env) (context : Context) (request : Request) :
    Handler (DeviceAuthorization × Option String) := do
  requireGrant env context.client .deviceCode
  match (request.form.get "device_code").filter (· != "") with
  | none => refuse "invalid_request" "device_code is required"
  | some deviceCode =>
      match ← query (.getDeviceAuthorizationByDeviceCode deviceCode) with
      | none => refuse "invalid_grant" "device_code not found for this client"
      | some row =>
          returnIf (row.clientId != context.client.clientId) "invalid_grant"
            "device_code not found for this client"
          match ← ambient (.observePoll row.deviceCode row.intervalSeconds) with
          | some interval => throw (slowDown interval)
          | none =>
              let now ← ambient .now
              returnIf (decide (row.expiresAt ≤ now)) "expired_token" "device_code has expired"
              returnIf row.denied "access_denied" "user denied the device authorization request"
              returnIf row.used "invalid_grant" "device_code has already been redeemed"
              returnIf (!row.approved) "authorization_pending"
                "authorization request is still pending"
              let resource ← check (validateResource (request.form.get "resource"))
              pure (row, resource)

/-- What follows the claim of a device code. -/
def redeemDevice (env : Env) (context : Context) (row : DeviceAuthorization)
    (resource : Option String) : Handler Response := do
  ambient (.forgetPoll row.deviceCode)
  let family ← ambient .uuid4Hex
  let response ← call (issue env
    { client := context.client
      userId := row.userId
      scope := row.scope
      withRefresh := true
      tokenFamily := some family
      resource := resource })
  let response ← withIdToken env context.client (row.userId.filter (· != "")) row.scope none none
    none response
  success env context response.body

def deviceCode (env : Env) (context : Context) (request : Request) : Handler Response := do
  let (row, resource) ← checkDevice env context request
  let claimed ← command (.markDeviceAuthorizationUsed row.deviceCode)
  if claimed = 0 then refuse "invalid_grant" "device_code has already been redeemed"
  else redeemDevice env context row resource

/-! ### token-exchange -/

/-- The actor claim of an exchange: an earlier hop by another client nests. -/
def actorClaim (env : Env) (client : Client) (subjectToken : String) : Json :=
  let hop := [("sub", Json.str client.clientId)]
  match (decodeUnverifiedClaims env subjectToken).lookup "act" with
  | some (.obj prior) =>
      if textMember prior "sub" == some client.clientId then .obj hop
      else .obj (hop ++ [("act", .obj prior)])
  | _ => .obj hop

/-- The checks on the request before the subject token is looked up. -/
def checkExchangeForm (request : Request) : Handler String := do
  match (request.form.get "subject_token").filter (· != "") with
  | none => refuse "invalid_request" "Missing subject_token"
  | some subjectToken =>
      returnIf (request.form.get "subject_token_type" != some accessTokenTypeUrn) "invalid_request"
        ("unsupported subject_token_type: only '" ++ accessTokenTypeUrn ++ "' is supported")
      returnIf ((request.form.get "requested_token_type").any (· != accessTokenTypeUrn))
        "invalid_request"
        ("unsupported requested_token_type: only '" ++ accessTokenTypeUrn ++ "' is supported")
      pure subjectToken

def exchangeBody (response : TokenResponse) (act : Option Json) : Json :=
  .obj ([("access_token", .str response.accessToken), ("issued_token_type", .str accessTokenTypeUrn),
      ("token_type", .str response.tokenType), ("expires_in", .int response.expiresIn),
      ("scope", match response.scope with
        | some scope => .str scope
        | none => .null)] ++ optionalMember "act" act)

/-- The exchange of a stored subject token. -/
def exchangeRow (env : Env) (context : Context) (request : Request) (subjectToken : String)
    (row : Token) : Handler Response := do
  returnIf row.revoked "invalid_grant" "subject_token is expired or revoked"
  let now ← ambient .now
  returnIf (decide (row.expiresAt ≤ now)) "invalid_grant" "subject_token is expired or revoked"
  let scope ← narrowedScope request.form row.scope "requested scope exceeds client permissions"
  let act := actorClaim env context.client subjectToken
  match checkDepth act "act" 10 with
  | .error (.limit description) => refuse "invalid_request" description
  | .error _ => throw internalServerError
  | .ok () =>
      let resource ← check (validateResource (request.form.get "resource"))
      let response ← call (issue env
        { client := context.client
          userId := row.userId
          scope := scope
          withRefresh := false
          cnf := context.cnf
          act := some act
          resource := resource })
      success env context (exchangeBody response
        (if (request.form.get "actor_token").isSome then some act else none))

def tokenExchange (env : Env) (context : Context) (request : Request) : Handler Response := do
  requireGrant env context.client .tokenExchange
  requireConfidential context.client "Public clients cannot use token-exchange"
  let subjectToken ← checkExchangeForm request
  match ← query (.getTokenByAccessToken subjectToken) with
  | none => refuse "invalid_grant" "subject_token not found or expired"
  | some row => exchangeRow env context request subjectToken row

/-! ### jwt-bearer -/

/-- What follows the resolution of the assertion's subject. -/
def redeemAssertion (env : Env) (context : Context) (request : Request) (userId : String) :
    Handler Response := do
  let scope ← clientScope context.client request.form
  let resource ← check (validateResource (request.form.get "resource"))
  let response ← call (issue env
    { client := context.client
      userId := some userId
      scope := scope
      withRefresh := false
      cnf := context.cnf
      resource := resource })
  success env context response.body

/-- The checks before the assertion is looked at. -/
def presentedAssertion (env : Env) (context : Context) (request : Request) : Handler String := do
  requireGrant env context.client .jwtBearer
  requireConfidential context.client "Public clients cannot use the jwt-bearer grant"
  match (request.form.get "assertion").filter (· != "") with
  | none => refuse "invalid_request" "assertion is required"
  | some assertion => pure assertion

def jwtBearer (env : Env) (context : Context) (request : Request) : Handler Response := do
  let assertion ← presentedAssertion env context request
  let userId ← call (redeemJwtBearerAssertion env assertion context.client)
  redeemAssertion env context request userId

/-! ### The handler -/

def grantHandler (env : Env) (context : Context) (request : Request) : Grant → Handler Response
  | .clientCredentials => clientCredentials env context request
  | .authorizationCode => authorizationCode env context request
  | .refreshToken => refreshToken env context request
  | .deviceCode => deviceCode env context request
  | .tokenExchange => tokenExchange env context request
  | .jwtBearer => jwtBearer env context request

/-- `POST /oauth/token`. -/
def token (env : Env) (request : Request) : Handler Response := do
  let grant ← requestedGrant request
  let context ← preGrant env request
  grantHandler env context request grant

end OAuth2Server.TokenEndpoint
