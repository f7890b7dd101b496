import OAuth2Server.FrontChannel
import OAuth2Server.ResponseRoundTrip

/-!
# Social-login providers

`services/social.py` and `GET /auth/login/{provider}`: the providers as they are
configured, where a browser is sent to log in, and what is read off their
answers. The HTTP client is a parameter.
-/

namespace OAuth2Server.SocialProviders

open OAuth2Server Models JsonText Storage Effects Interaction
open ClientAuth Dpop Endpoints TokenEndpoint FrontChannel QueryText

set_option autoImplicit false

/-! ### The registry -/

/-- The settings of one provider in the configuration. -/
structure ProviderSettings where
  clientId : Option String := none
  clientSecret : Option String := none
  redirectUri : Option String := none

structure SocialConfig where
  issuer : String
  google : ProviderSettings := {}
  microsoft : ProviderSettings := {}
  microsoftTenantId : String := "common"
  github : ProviderSettings := {}
  azure : ProviderSettings := {}
  azureTenantId : String := "common"

structure ProviderRuntimeConfig where
  provider : String
  clientId : String
  clientSecret : String
  redirectUri : String
  authorizeUrl : String
  tokenUrl : String
  userinfoUrl : String
  scope : String
  pkce : Bool
  deriving DecidableEq

/-- `OAUTH_PROVIDERS` with a real implementation, and the stubs. -/
def stubProviders : List String := ["okta", "auth0"]

def allProviders : List String := oauthProviders ++ stubProviders

/-- A provider counts as configured with both of its credentials. -/
def ProviderSettings.configured (settings : ProviderSettings) : Bool :=
  Text.truthy settings.clientId && Text.truthy settings.clientSecret

/-- `_redirect_uri`. -/
def redirectUriOf (config : SocialConfig) (provider : String) (configured : Option String) :
    String :=
  (configured.filter (· != "")).getD (config.issuer ++ "/auth/callback/" ++ provider)

/-- The runtime configuration of a provider whose credentials are `settings`. -/
def runtimeConfig (config : SocialConfig) (provider : String) (settings : ProviderSettings)
    (authorizeUrl tokenUrl userinfoUrl scope : String) (pkce : Bool) :
    Option ProviderRuntimeConfig :=
  if settings.configured then
    some
      { provider := provider
        clientId := settings.clientId.getD ""
        clientSecret := settings.clientSecret.getD ""
        redirectUri := redirectUriOf config provider settings.redirectUri
        authorizeUrl := authorizeUrl
        tokenUrl := tokenUrl
        userinfoUrl := userinfoUrl
        scope := scope
        pkce := pkce }
  else none

/-- The endpoints that Microsoft and Azure share, under a tenant. -/
def tenantConfig (config : SocialConfig) (provider : String) (settings : ProviderSettings)
    (tenantId : String) : Option ProviderRuntimeConfig :=
  let tenant := if tenantId != "" then tenantId else "common"
  let endpoints := "https://login.microsoftonline.com/" ++ tenant ++ "/oauth2/v2.0/"
  runtimeConfig config provider settings (endpoints ++ "authorize") (endpoints ++ "token")
    "https://graph.microsoft.com/v1.0/me" "openid email profile" false

/-- `resolve_provider_config`. -/
def resolveProviderConfig (config : SocialConfig) (provider : String) :
    Option ProviderRuntimeConfig :=
  if provider == "google" then
    runtimeConfig config "google" config.google "https://accounts.google.com/o/oauth2/v2/auth"
      "https://oauth2.googleapis.com/token" "https://www.googleapis.com/oauth2/v2/userinfo"
      "openid email profile" true
  else if provider == "microsoft" then
    tenantConfig config "microsoft" config.microsoft config.microsoftTenantId
  else if provider == "github" then
    runtimeConfig config "github" config.github "https://github.com/login/oauth/authorize"
      "https://github.com/login/oauth/access_token" "https://api.github.com/user" "user:email" false
  else if provider == "azure" then
    -- Azure falls back to the Microsoft credentials, never to its tenant.
    tenantConfig config "azure"
      (if config.azure.configured then config.azure else config.microsoft) config.azureTenantId
  else none

/-! ### Answers of the providers -/

/-- A response; its body is JSON or `response.json()` raises. -/
structure HttpResponse where
  status : Nat
  text : String
  json : Option Json

/-- The client at its n-th request: a response, or the text of an `httpx.HTTPError`. -/
structure HttpClient where
  post : Nat → String → Form → Except String HttpResponse
  get : Nat → String → List (String × String) → Except String HttpResponse

def exchangeData (rc : ProviderRuntimeConfig) (code : String) (pkceVerifier : Option String) :
    Form :=
  [("grant_type", "authorization_code"), ("code", code), ("redirect_uri", rc.redirectUri),
    ("client_id", rc.clientId), ("client_secret", rc.clientSecret)] ++
    (pkceVerifier.map fun verifier => ("code_verifier", verifier)).toList

/-- `exchange_code`, with the text of its `ProviderError`. -/
def exchangeCode (env : Env) (http : HttpClient) (turn : Nat) (rc : ProviderRuntimeConfig)
    (code : String) (pkceVerifier : Option String) : Except String String := do
  match http.post turn rc.tokenUrl (exchangeData rc code pkceVerifier) with
  | .error failure => throw ("token exchange request failed: " ++ failure)
  | .ok response =>
      if response.status != 200 then
        throw ("token endpoint returned " ++ toString response.status ++ ": " ++ response.text)
      else
        match response.json with
        | none => throw "token endpoint returned malformed JSON"
        | some payload =>
            match (payload.get? "access_token").filter Json.truthy with
            | none => throw "token endpoint response missing access_token"
            | some accessToken => pure (pyStr env accessToken)

/-- `_get_json`. -/
def getJson (http : HttpClient) (turn : Nat) (url : String) (headers : List (String × String)) :
    Except String Json :=
  match http.get turn url headers with
  | .error failure => throw ("userinfo request failed: " ++ failure)
  | .ok response =>
      if response.status != 200 then
        throw ("userinfo endpoint returned " ++ toString response.status ++ ": " ++ response.text)
      else
        match response.json with
        | none => throw "userinfo endpoint returned malformed JSON"
        | some value => pure value

def bearerHeader (accessToken : String) : List (String × String) :=
  [("Authorization", "Bearer " ++ accessToken)]

/-- A member that counts as present. -/
def member (data : Json) (key : String) : Option Json := (data.get? key).filter Json.truthy

/-- `value is True`. -/
def isTrue : Option Json → Bool
  | some (.bool value) => value
  | _ => false

/-- `value is None`. -/
def isNull : Json → Bool
  | .null => true
  | _ => false

/-- `_fetch_google_userinfo` past the request. -/
def googleUserinfo (env : Env) (data : Json) : Except String SocialUserInfo :=
  match member data "id", member data "email" with
  | some userId, some email =>
      if !isTrue (data.get? "verified_email") then throw "Google email not verified"
      else pure
        { provider := "google"
          providerUserId := pyStr env userId
          email := pyStr env email
          emailVerified := true }
  | _, _ => throw "Google userinfo response missing id or email"

/-- `_fetch_microsoft_userinfo` past the request. -/
def microsoftUserinfo (env : Env) (provider : String) (data : Json) :
    Except String SocialUserInfo :=
  match member data "id", member data "userPrincipalName" with
  | some userId, some email =>
      pure
        { provider := provider
          providerUserId := pyStr env userId
          email := pyStr env email
          emailVerified := false }
  | _, _ => throw (displayName provider ++ " userinfo response missing id or userPrincipalName")

/-- The entry of `/user/emails` that is taken: the first that is primary and verified. -/
def primaryEmail : Json → Option Json
  | .arr entries =>
      ((entries.find? fun entry => (member entry "primary").isSome &&
        (member entry "verified").isSome).bind fun entry => entry.get? "email").filter Json.truthy
  | _ => none

def githubEmailsUrl : String := "https://api.github.com/user/emails"

/-- `_fetch_github_userinfo`. -/
def githubUserinfo (env : Env) (http : HttpClient) (turn : Nat) (rc : ProviderRuntimeConfig)
    (accessToken : String) : Except String SocialUserInfo := do
  let headers := bearerHeader accessToken ++ [("User-Agent", "python_oauth2_server")]
  let data ← getJson http turn rc.userinfoUrl headers
  -- An id of zero is an id here.
  match (data.get? "id").filter (!isNull ·) with
  | none => throw "GitHub userinfo response missing id"
  | some userId =>
      let emails ← getJson http turn githubEmailsUrl headers
      match primaryEmail emails with
      | none => throw "No email found"
      | some email =>
          pure
            { provider := "github"
              providerUserId := pyStr env userId
              email := pyStr env email
              emailVerified := true }

/-- `fetch_userinfo`. -/
def fetchUserinfo (env : Env) (http : HttpClient) (turn : Nat) (rc : ProviderRuntimeConfig)
    (accessToken : String) : Except String SocialUserInfo := do
  if rc.provider == "google" then
    googleUserinfo env (← getJson http turn rc.userinfoUrl (bearerHeader accessToken))
  else if rc.provider == "microsoft" || rc.provider == "azure" then
    microsoftUserinfo env rc.provider
      (← getJson http turn rc.userinfoUrl (bearerHeader accessToken))
  else if rc.provider == "github" then githubUserinfo env http turn rc accessToken
  else throw ("no userinfo mapping for provider '" ++ rc.provider ++ "'")

/-! ### The routes over the providers -/

/-- The environment of the browser-facing routes, with these providers behind it. -/
def SocialConfig.front (config : SocialConfig) (http : HttpClient) (front : FrontEnv) :
    FrontEnv :=
  { front with
    providerPkce := fun provider => (resolveProviderConfig config provider).map (·.pkce)
    exchange := fun turn provider code pkceVerifier =>
      match resolveProviderConfig config provider with
      | some rc => exchangeCode front.env http turn rc code pkceVerifier
      | none => throw ""
    userinfo := fun turn provider accessToken =>
      match resolveProviderConfig config provider with
      | some rc => fetchUserinfo front.env http turn rc accessToken
      | none => throw "" }

/-- A login at a provider that has been started: the state and the PKCE verifier
drawn for it. -/
structure Attempt where
  rc : ProviderRuntimeConfig
  state : String
  verifier : Option String

def notFound : Response := json 404 [("detail", .str "Not Found")]

def notImplemented (provider : String) : Response where
  status := 503
  headers := []
  body := .str (displayName provider ++ " login not yet implemented")

/-- `social_login` up to the session: `generate_pkce_pair` draws the verifier. -/
def startAttempt (config : SocialConfig) (provider : String) : Handler Attempt := do
  Program.rejectIf (!allProviders.contains provider) notFound
  Program.rejectIf (stubProviders.contains provider) (notImplemented provider)
  match resolveProviderConfig config provider with
  | none => throw (socialError "provider_not_configured"
      (displayName provider ++ " login not configured") 400)
  | some rc =>
      let state ← ambient (.tokenUrlsafe 32)
      let verifier ← if rc.pkce then some <$> ambient (.tokenUrlsafe 64) else pure none
      pure { rc := rc, state := state, verifier := verifier }

/-- The parameters of `build_authorize_url`. -/
def Attempt.params (env : Env) (attempt : Attempt) : List (String × String) :=
  [("response_type", "code"), ("client_id", attempt.rc.clientId),
    ("redirect_uri", attempt.rc.redirectUri), ("scope", attempt.rc.scope),
    ("state", attempt.state)] ++
    (attempt.verifier.map fun verifier =>
      [("code_challenge", env.platform.sha256Url verifier),
        ("code_challenge_method", "S256")]).getD []

/-- `build_authorize_url`. -/
def Attempt.authorizeUrl (env : Env) (attempt : Attempt) : String :=
  attempt.rc.authorizeUrl ++ "?" ++ urlencode (attempt.params env)

/-- The session once an attempt is entered; a stale verifier goes. -/
def enter (session : Session) (attempt : Attempt) : Session :=
  { session with
    csrfToken := some attempt.state
    provider := some attempt.rc.provider
    pkceVerifier := attempt.verifier }

/-- `GET /auth/login/{provider}`. -/
def socialLogin (config : SocialConfig) (front : FrontEnv) (provider : String)
    (state : FrontWorld) : Response × FrontWorld :=
  match (startAttempt config provider).run front.env.interp state.world with
  | (.error response, world) => (response, { state with world := world })
  | (.ok attempt, world) =>
      (redirect 302 (attempt.authorizeUrl front.env),
        { state with world := world, session := enter state.session attempt })

end OAuth2Server.SocialProviders
