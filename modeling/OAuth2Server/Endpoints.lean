import OAuth2Server.TokenEndpoint

/-!
# The other routes that touch grants

Device authorization and its verification page (`routes/device.py`), token
revocation (`routes/introspect.py`), the code issued at the end of an accepted
authorization request (`services/auth.py`), and the account a social login ends
at (`routes/social.py`).
-/

namespace OAuth2Server.Endpoints

open OAuth2Server Models JsonText Storage Effects Interaction
open ClientAuth Dpop Validation TokenEndpoint

set_option autoImplicit false

def json (status : Nat) (members : List (String × Json)) : Response where
  status := status
  headers := []
  body := .obj members

def noStore (response : Response) : Response :=
  { response with headers := response.headers ++ [("Cache-Control", "no-store")] }

/-- Client authentication at the routes without a penalty bucket. -/
def authenticateOrRefuse (env : Env) (request : Request) : Handler Client :=
  call (authenticate env request.form (request.credentials env))

/-! ### `POST /oauth/device_authorization` -/

/-- `_generate_user_code`. -/
def generateUserCode {ε : Type} : Program Server ε String := do
  let first ← ambient .randomPart
  let second ← ambient .randomPart
  pure (first ++ "-" ++ second)

def expiresIn : Int := 600

def pollInterval : Int := 5

def deviceAuthorization (env : Env) (request : Request) : Handler Response := do
  let client ← authenticateOrRefuse env request
  requireGrant env client .deviceCode
  let scope ← clientScope client request.form
  let now ← ambient .now
  let id ← ambient .uuid4Hex
  let deviceCode ← ambient (.tokenUrlsafe 32)
  let userCode ← generateUserCode
  let createdAt ← ambient .now
  let saved ← command (.saveDeviceAuthorization
    { id := id
      deviceCode := deviceCode
      userCode := userCode
      clientId := client.clientId
      scope := scope
      createdAt := createdAt
      expiresAt := now + seconds expiresIn
      intervalSeconds := pollInterval })
  call (insertOrRaise saved)
  let verificationUri := Text.rstripSlash env.config.issuer ++ "/oauth/device/verify"
  pure (noStore (json 200
    [("device_code", .str deviceCode), ("user_code", .str userCode),
      ("verification_uri", .str verificationUri),
      ("verification_uri_complete", .str (verificationUri ++ "?user_code=" ++ userCode)),
      ("expires_in", .int expiresIn), ("interval", .int pollInterval)]))

/-! ### `POST /oauth/device/verify` -/

/-- `_normalize_user_code`. -/
def normalizeUserCode (env : Env) (raw : String) : String :=
  let value := (env.platform.upper (Text.strip raw)).toList
  if !value.contains '-' && value.length == 8 then
    String.ofList (value.take 4 ++ '-' :: value.drop 4)
  else String.ofList value

/-- A verification request: the session's user, and the form. -/
structure VerifyRequest where
  userId : Option String
  form : Form

def invalidUserCode : Response := json 400 [("error", .str "invalid_user_code")]

/-- The decision itself. The row was checked, but the `UPDATE` does not repeat
the check. -/
def decideDevice (userCode userId : String) (action : Option String) : Handler Response :=
  if action == some "approve" then do
    command (.approveDeviceAuthorization userCode userId)
    pure (json 200 [("status", .str "approved")])
  else if action == some "deny" then do
    command (.denyDeviceAuthorization userCode)
    pure (json 200 [("status", .str "denied")])
  else pure (json 400 [("error", .str "invalid_request")])

def deviceVerify (env : Env) (request : VerifyRequest) : Handler Response :=
  match request.userId with
  | none => pure (json 401 [("error", .str "login_required")])
  | some userId =>
      match (request.form.get "user_code").filter (· != "") with
      | none => pure invalidUserCode
      | some raw => do
          let userCode := normalizeUserCode env raw
          match ← query (.getDeviceAuthorizationByUserCode userCode) with
          | none => pure invalidUserCode
          | some row =>
              if row.used || row.approved || row.denied then pure invalidUserCode
              else do
                let now ← ambient .now
                if row.expiresAt ≤ now then pure invalidUserCode
                else decideDevice userCode userId (request.form.get "action")

/-! ### `POST /oauth/revoke` -/

/-- `_lookup_token`. -/
def lookupToken (value : String) : Handler (Option Token) := do
  match ← query (.getTokenByAccessToken value) with
  | some row => pure (some row)
  | none => query (.getTokenByRefreshToken value)

/-- The revocation of a row: its whole family, or the token alone. -/
def revokeRow (value : String) (row : Token) : Handler Unit :=
  match row.tokenFamily.filter (· != "") with
  | some family => discard (command (.revokeTokenFamily family))
  | none => command (.revokeToken value)

def revoke (env : Env) (request : Request) : Handler Response := do
  let client ← authenticateOrRefuse env request
  match (request.form.get "token").filter (· != "") with
  | none => pure ()
  | some value =>
      match ← lookupToken value with
      | none => pure ()
      | some row => if row.clientId == client.clientId then revokeRow value row else pure ()
  pure (noStore (json 200 []))

/-! ### The end of an authorization request -/

/-- The arguments of `AuthorizeService.issue_code`. -/
structure CodeRequest where
  client : Client
  userId : String
  redirectUri : String
  scope : String
  codeChallenge : Option String
  codeChallengeMethod : Option String
  nonce : Option String
  authorizationDetails : Option String
  resource : Option String
  claimsRequest : Option String
  dpopJkt : Option String

/-- `AuthorizeService.issue_code`. -/
def issueCode (env : Env) (request : CodeRequest) : Service AuthorizationCode := do
  let now ← ambient .now
  let id ← ambient .uuid4Hex
  let code ← ambient (.tokenUrlsafe 32)
  let family ← ambient .uuid4Hex
  let createdAt ← ambient .now
  let row : AuthorizationCode :=
    { id := id
      code := code
      clientId := request.client.clientId
      userId := request.userId
      redirectUri := request.redirectUri
      scope := request.scope
      createdAt := createdAt
      expiresAt := now + seconds env.config.authorizationCodeTtlSecs
      codeChallenge := request.codeChallenge
      codeChallengeMethod := request.codeChallengeMethod
      nonce := request.nonce
      resource := request.resource
      authorizationDetails := request.authorizationDetails
      claimsRequest := request.claimsRequest
      tokenFamily := some family
      dpopJkt := request.dpopJkt }
  let saved ← command (.saveAuthorizationCode row)
  insertOrRaise saved
  pure row

/-! ### The account of a social login -/

structure SocialUserInfo where
  provider : String
  providerUserId : String
  email : String
  emailVerified : Bool := false

/-- `_fold_email`. -/
def foldEmail (env : Env) (email : String) : String := env.platform.casefold (Text.strip email)

/-- `_link_by_verified_email`: one enabled, unprivileged account with the address. -/
def linkByVerifiedEmail (env : Env) (userinfo : SocialUserInfo) : Service (Option User) :=
  let folded := foldEmail env userinfo.email
  if !env.config.socialLinkByVerifiedEmail || !userinfo.emailVerified || folded == "" then pure none
  else do
    let found ← query (.getUsersByEmail (env.platform.lower (Text.strip folded)))
    match found.filter fun user => foldEmail env user.email == folded with
    | [candidate] =>
        let lowered := env.platform.lower (Text.strip candidate.email)
        if candidate.role == "admin" || env.config.adminEmails.contains folded ||
            env.config.adminEmails.contains lowered || !candidate.enabled then pure none
        else pure (some candidate)
    | _ => pure none

/-- The end of `social_callback`: the user who is logged in. -/
def socialAccount (env : Env) (userinfo : SocialUserInfo) : Service User := do
  let username := userinfo.provider ++ ":" ++ userinfo.providerUserId
  match ← query (.getUserByUsername username) with
  | some user => pure user
  | none =>
      match ← linkByVerifiedEmail env userinfo with
      | some user => pure user
      | none =>
          let secret ← ambient .uuid4Hex
          let passwordHash ← ambient (.hashPassword secret)
          let id ← ambient .uuid4Hex
          let now ← ambient .now
          let user : User :=
            { id := id
              username := username
              passwordHash := passwordHash
              email := userinfo.email
              role := "user"
              createdAt := now
              updatedAt := now }
          let saved ← command (.saveUser user)
          insertOrRaise saved
          pure user

end OAuth2Server.Endpoints
