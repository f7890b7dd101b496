import OAuth2Server.ClientAuth

/-!
# Token issuance

`TokenService.issue`, `Claims.new`, the signing of access tokens and id_tokens,
and the `claims` request that may drop id_token claims.
-/

namespace OAuth2Server.Issuance

open OAuth2Server Models JsonText Storage Effects Interaction ClientAuth

set_option autoImplicit false

/-! ### Signing keys -/

/-- `SigningKey.is_active`. -/
def isActive {ε : Type} (key : SigningKey) : Program Server ε Bool :=
  match key.expiresAt with
  | none => pure true
  | some expiresAt => do
      let now ← ambient .now
      pure (decide (now < expiresAt))

/-- `KeySet.current_for_alg`, over the keys in insertion order. -/
def currentForAlg {ε : Type} (alg : String) :
    List SigningKey → Program Server ε (Option SigningKey)
  | [] => pure none
  | key :: rest =>
      if key.algorithm == alg && key.isCurrent then do
        let active ← isActive key
        if active then pure (some key) else currentForAlg alg rest
      else currentForAlg alg rest

/-- RS256 when there is a current key for it, else HS256. -/
def accessSigningKey {ε : Type} : Program Server ε (Option SigningKey) := do
  let keys ← ambient .keys
  match ← currentForAlg "RS256" keys with
  | some key => pure (some key)
  | none => currentForAlg "HS256" keys

/-- `jwt.encode`; key material the library refuses is an exception. -/
def jwtEncode (env : Env) (payload : Json) (keyMaterial : List Nat) (alg : String)
    (headers : List (String × String)) : Option String :=
  if env.platform.jwt.usable keyMaterial alg then
    some (env.platform.jwt.encode payload keyMaterial alg headers)
  else none

/-- `encode_access_token`. -/
def encodeAccessToken (env : Env) (claims : Claims) (key : Option SigningKey) : Option String :=
  match key with
  | some key =>
      jwtEncode env claims.toPayload key.keyMaterial key.algorithm
        [("typ", "at+JWT"), ("kid", key.kid)]
  | none =>
      jwtEncode env claims.toPayload (Text.utf8Encode env.config.jwtSecret.toList) "HS256"
        [("typ", "at+JWT")]

/-! ### `TokenService.issue` -/

/-- `int(now.timestamp())`. -/
def timestamp (now : Instant) : Int := now / 1000000

/-- The audience of a new access token. -/
def audienceOf (request : IssueRequest) : List String :=
  match request.audience with
  | some (first :: rest) => first :: rest
  | _ =>
      match request.resource with
      | some resource => if resource == "" then [request.client.clientId] else [resource]
      | none => [request.client.clientId]

/-- The subject of a new access token. -/
def subjectOf (request : IssueRequest) : String :=
  match request.userId with
  | some userId => if userId == "" then request.client.clientId else userId
  | none => request.client.clientId

/-- `Claims.new`. -/
def newClaims {ε : Type} (env : Env) (request : IssueRequest) : Program Server ε Claims := do
  let now ← ambient .now
  let iat := timestamp now
  let jti ← ambient .uuid4Hex
  pure
    { sub := subjectOf request
      iss := env.config.issuer
      aud := audienceOf request
      exp := iat + env.config.accessTokenTtlSecs
      iat := iat
      scope := request.scope
      jti := jti
      clientId := some request.client.clientId
      cnf := request.cnf
      authorizationDetails := request.authorizationDetails
      act := request.act }

/-- The access token itself: a random string, or a signed JWT. -/
def mintAccessToken (env : Env) (request : IssueRequest) : Service String :=
  if env.config.accessTokensOpaque then ambient (.tokenUrlsafe 32)
  else do
    let claims ← newClaims env request
    let key ← accessSigningKey
    match encodeAccessToken env claims key with
    | some accessToken => pure accessToken
    | none => throw .other

/-- Only a DPoP binding changes the type of the token; opaque tokens carry none. -/
def responseTokenType (env : Env) (request : IssueRequest) : String :=
  if env.config.accessTokensOpaque then "Bearer"
  else
    match request.cnf.bind fun cnf => cnf.get? "jkt" with
    | some jkt => if jkt.truthy then "DPoP" else "Bearer"
    | none => "Bearer"

/-- `TokenService.issue`. -/
def issue (env : Env) (request : IssueRequest) : Service TokenResponse := do
  ambient (.enterIssue request)
  let accessToken ← mintAccessToken env request
  let refreshToken ← if request.withRefresh then some <$> ambient (.tokenUrlsafe 32) else pure none
  let now ← ambient .now
  let id ← ambient .uuid4Hex
  let createdAt ← ambient .now
  let token : Token :=
    { id := id
      accessToken := accessToken
      refreshToken := refreshToken
      expiresIn := env.config.accessTokenTtlSecs
      scope := request.scope
      clientId := request.client.clientId
      userId := request.userId
      createdAt := createdAt
      expiresAt := now + seconds env.config.accessTokenTtlSecs
      tokenFamily := request.tokenFamily }
  let saved ← command (.saveToken token)
  insertOrRaise saved
  pure
    { accessToken := accessToken
      refreshToken := refreshToken
      tokenType := responseTokenType env request
      expiresIn := env.config.accessTokenTtlSecs
      scope := some request.scope
      authorizationDetails :=
        if env.config.accessTokensOpaque then none else request.authorizationDetails }

/-! ### The `claims` request -/

structure ClaimsSelection where
  requested : List String := []
  constraints : List (String × List Json) := []

/-- `_SUPPORTED`: the id_token claims and the scope each needs. -/
def supportedClaims : List (String × Option String) :=
  [("acr", none), ("auth_time", none), ("email", some "email"),
    ("preferred_username", some "profile")]

/-- The acceptable values of one requested claim, if it is constrained. -/
def constraintOf (spec : Json) : Option (List Json) :=
  match spec.get? "value" with
  | some value => some [value]
  | none =>
      match spec.get? "values" with
      | some (.arr values) => some values
      | _ => none

/-- `_select` for one member of the request and the claims it may name. -/
def selectClaims (env : Env) (claimsRequest : Option String) (scope member : String)
    (supported : List (String × Option String)) : ClaimsSelection :=
  let document := (claimsRequest.filter (· != "")).bind fun text =>
    (loads env.platform.recursionLimit text).toOption
  match document.bind fun document => document.get? member with
  | some (.obj members) =>
      let granted := supported.filter fun entry =>
        (members.lookup entry.1).isSome &&
          entry.2.all fun needed => (Text.split scope).contains needed
      { requested := granted.map (·.1)
        constraints := granted.filterMap fun entry =>
          ((members.lookup entry.1).bind constraintOf).map fun values => (entry.1, values) }
  | _ => {}

def selectIdTokenClaims (env : Env) (claimsRequest : Option String) (scope : String) :
    ClaimsSelection :=
  selectClaims env claimsRequest scope "id_token" supportedClaims

/-- `_SUPPORTED_USERINFO`. -/
def supportedUserinfoClaims : List (String × Option String) :=
  [("email", some "email"), ("preferred_username", some "profile")]

def selectUserinfoClaims (env : Env) (claimsRequest : Option String) (scope : String) :
    ClaimsSelection :=
  selectClaims env claimsRequest scope "userinfo" supportedUserinfoClaims

/-- `ClaimsSelection.allows`, for a claim whose value is a string. -/
def ClaimsSelection.allows (selection : ClaimsSelection) (name value : String) : Bool :=
  match selection.constraints.lookup name with
  | none => true
  | some allowed => allowed.any (·.equalsText value)

/-! ### id_tokens -/

/-- `encode_id_token`; an error is the `ValueError` the routes answer, or any
other exception. -/
def encodeIdToken (env : Env) (claims : IdTokenClaims) : Service (Except String String) :=
  let signed (token : Option String) : Service (Except String String) :=
    match token with
    | some token => pure (.ok token)
    | none => throw .other
  if env.config.idTokenAlg == "RS256" then do
    let keys ← ambient .keys
    match ← currentForAlg "RS256" keys with
    | some key =>
        signed (jwtEncode env claims.toPayload key.keyMaterial "RS256" [("kid", key.kid)])
    | none =>
        match env.config.idTokenPrivateKeyPem.filter (· != "") with
        | none => pure (.error "RS256 configured but private key is missing")
        | some pem =>
            let headers := match env.config.idTokenKid.filter (· != "") with
              | some kid => [("kid", kid)]
              | none => []
            signed (jwtEncode env claims.toPayload (Text.utf8Encode pem.toList) "RS256" headers)
  else
    signed (jwtEncode env claims.toPayload (Text.utf8Encode env.config.jwtSecret.toList) "HS256" [])

/-- A claim the selection drops. -/
def kept (selection : Option ClaimsSelection) (name : String) (value : Option String) :
    Option String :=
  value.filter fun text => selection.all fun selection => selection.allows name text

/-- `mint_id_token`, as the token endpoint calls it: no `acr`, `amr` or
`auth_time`. -/
def mintIdToken (env : Env) (client : Client) (userId : String) (user : Option User)
    (scope accessToken : String) (nonce code : Option String)
    (selection : Option ClaimsSelection) : Service (Except String String) := do
  let scopes := Text.split scope
  let now ← ambient .now
  let iat := timestamp now
  let email := if scopes.contains "email" then user.map (·.email) else none
  let username := if scopes.contains "profile" then user.map (·.username) else none
  encodeIdToken env
    { iss := env.config.issuer
      sub := userId
      aud := client.clientId
      exp := iat + env.config.accessTokenTtlSecs
      iat := iat
      nonce := nonce
      atHash := some (env.platform.halfHash accessToken)
      cHash := code.map env.platform.halfHash
      email := kept selection "email" email
      preferredUsername := kept selection "preferred_username" username }

end OAuth2Server.Issuance
