import OAuth2Server.Endpoints
import OAuth2Server.Resilience
import OAuth2Server.QueryText

/-!
# The browser-facing routes

`sessions.py`, `routes/login.py`, `routes/social.py` and the stores they share:
the login limiter, the pushed authorization requests and the breakers of the
social providers. Their programs issue the operations of the token server and
a few of their own, on the session of the request among them. What a provider
answers is a parameter.
-/

namespace OAuth2Server.FrontChannel

open OAuth2Server Models JsonText Storage Effects Interaction
open Process ClientAuth Endpoints Resilience

set_option autoImplicit false

/-! ### The session -/

/-- `request.session`: the keys the server writes to its signed cookie. -/
structure Session where
  userId : Option String := none
  authTime : Option Int := none
  role : Option String := none
  email : Option String := none
  username : Option String := none
  acr : Option String := none
  amr : Option (List String) := none
  returnTo : Option String := none
  returnToTs : Option Int := none
  csrfToken : Option String := none
  provider : Option String := none
  pkceVerifier : Option String := none
  deriving DecidableEq

/-- `set_login(request, user, acr=acr, amr=amr)` at a time in seconds: the session
before it is discarded. -/
def Session.setLogin (user : User) (acr : Option String) (amr : List String) (now : ℚ) :
    Session where
  userId := some user.id
  authTime := some ⌊now⌋
  role := some user.role
  email := some user.email
  username := some user.username
  acr := acr
  amr := some amr

/-! ### `FixedWindowLimiter` -/

structure Window where
  start : ℚ
  count : Nat
  deriving DecidableEq

structure FixedWindowLimiter where
  maxAttempts : Int
  windowSecs : Int
  windows : Dict Window
  deriving DecidableEq

/-- `check(key)`: `none` records an attempt, a number is the seconds to wait. -/
def FixedWindowLimiter.check (limiter : FixedWindowLimiter) (key : String) (now : ℚ) :
    Option Int × FixedWindowLimiter :=
  let live := limiter.windows.filter fun entry =>
    !decide ((limiter.windowSecs : ℚ) ≤ now - entry.2.start)
  let window := (live.lookup key).getD { start := now, count := 0 }
  if limiter.maxAttempts ≤ window.count then
    (some (max 1 ⌈(limiter.windowSecs : ℚ) - (now - window.start)⌉),
      { limiter with windows := Dict.set key window live })
  else
    (none, { limiter with
      windows := Dict.set key { window with count := window.count + 1 } live })

/-- `reset(key)`. -/
def FixedWindowLimiter.reset (limiter : FixedWindowLimiter) (key : String) : FixedWindowLimiter :=
  { limiter with windows := limiter.windows.filter (·.1 != key) }

/-! ### `ParStore` -/

def parTtlSecs : ℚ := 60

structure ParEntry where
  clientId : String
  params : Form
  createdAt : ℚ
  deriving DecidableEq

def sweepPar (now : ℚ) (entries : Dict ParEntry) : Dict ParEntry :=
  entries.filter fun entry => !decide (parTtlSecs ≤ now - entry.2.createdAt)

/-- `take(request_uri)`. -/
def takePar (requestUri : String) (now : ℚ) (entries : Dict ParEntry) :
    Option ParEntry × Dict ParEntry :=
  let live := sweepPar now entries
  (live.lookup requestUri, live.filter (·.1 != requestUri))

/-- `store(client_id, params)` under the request URI drawn for it; the entry is
stamped after the sweep. -/
def storePar (requestUri clientId : String) (params : Form) (now created : ℚ)
    (entries : Dict ParEntry) : Dict ParEntry :=
  Dict.set requestUri { clientId := clientId, params := params, createdAt := created }
    (sweepPar now entries)

/-! ### Operations -/

inductive FrontOp where
  | server (op : Op)
  | session
  | setLogin (user : User) (acr : Option String) (amr : List String)
  /-- `session["return_to"] = target`, stamped with the time. -/
  | setReturnTo (target : String)
  | checkLogin (key : String)
  | resetLogin (key : String)
  | takePar (requestUri : String)
  | storePar (clientId : String) (params : Form)
  | breakerAllow (provider : String)
  | breakerSuccess (provider : String)
  | breakerFailure (provider : String)
  | exchangeCode (provider code : String) (pkceVerifier : Option String)
  | fetchUserinfo (provider accessToken : String)

@[reducible] def FrontOp.Ans : FrontOp → Type
  | .server op => op.Ans
  | .session => Session
  | .setLogin _ _ _ => Unit
  | .setReturnTo _ => Unit
  | .checkLogin _ => Option Int
  | .resetLogin _ => Unit
  | .takePar _ => Option ParEntry
  | .storePar _ _ => String
  | .breakerAllow _ => Bool
  | .breakerSuccess _ => Unit
  | .breakerFailure _ => Unit
  | .exchangeCode _ _ _ => Except String String
  | .fetchUserinfo _ _ => Except String SocialUserInfo

@[reducible] def Front : Signature where
  Op := FrontOp
  Ans := FrontOp.Ans

abbrev FrontHandler := Program Front Response

/-- The state of the process and of the request's session. -/
structure FrontWorld where
  world : World
  session : Session
  loginLimiter : FixedWindowLimiter
  parStore : Dict ParEntry
  breakers : String → SocialCircuitBreaker

/-- What the routes use beside the token server's environment: the `acr` of a
login, the password hasher, which providers are configured and whether they
use PKCE, and what the providers answer at the n-th request to one. -/
structure FrontEnv where
  env : Env
  defaultAcr : Option String
  verifyPassword : String → String → Bool
  providerPkce : String → Option Bool
  exchange : Nat → String → String → Option String → Except String String
  userinfo : Nat → String → String → Except String SocialUserInfo

/-- A reading of the wall clock or of the monotonic one. -/
def FrontWorld.read (state : FrontWorld) : FrontWorld :=
  { state with world := { state.world with process := { state.world.process with
    readings := state.world.process.readings + 1 } } }

def FrontWorld.asked (state : FrontWorld) : FrontWorld :=
  { state with world := { state.world with process := { state.world.process with
    requests := state.world.process.requests + 1 } } }

def FrontEnv.monotonic (front : FrontEnv) (state : FrontWorld) : ℚ :=
  front.env.platform.monotonic state.world.process.readings

def FrontEnv.time (front : FrontEnv) (state : FrontWorld) : ℚ :=
  epochSeconds (front.env.platform.clock state.world.process.readings)

def setBreaker (state : FrontWorld) (provider : String) (breaker : SocialCircuitBreaker) :
    FrontWorld :=
  { state with breakers := fun name => if name = provider then breaker else state.breakers name }

def FrontEnv.interp (front : FrontEnv) : Program.Interpretation Front FrontWorld
  | .server op, state =>
      ((front.env.interp op state.world).1,
        { state with world := (front.env.interp op state.world).2 })
  | .session, state => (state.session, state)
  | .setLogin user acr amr, state =>
      ((), { state.read with session := Session.setLogin user acr amr (front.time state) })
  | .setReturnTo target, state =>
      ((), { state.read with
        session := { state.session with
          returnTo := some target
          returnToTs := some ⌊front.time state⌋ } })
  | .checkLogin key, state =>
      let checked := state.loginLimiter.check key (front.monotonic state)
      (checked.1, { state.read with loginLimiter := checked.2 })
  | .resetLogin key, state =>
      ((), { state with loginLimiter := state.loginLimiter.reset key })
  | .takePar requestUri, state =>
      let taken := takePar requestUri (front.monotonic state) state.parStore
      (taken.1, { state.read with parStore := taken.2 })
  | .storePar clientId params, state =>
      let draws := state.world.process.draws
      let requestUri := "urn:ietf:params:oauth:request-uri:" ++ front.env.platform.random draws
      let stored := storePar requestUri clientId params (front.monotonic state)
        (front.monotonic state.read) state.parStore
      (requestUri, { state.read.read with
        world := { state.world with process := { state.world.process with
          readings := state.world.process.readings + 2
          draws := draws + 1 } }
        parStore := stored })
  | .breakerAllow provider, state =>
      let allowed := (state.breakers provider).allow (front.monotonic state)
      (allowed.1, setBreaker state.read provider allowed.2)
  | .breakerSuccess provider, state =>
      ((), setBreaker state provider (state.breakers provider).recordSuccess)
  | .breakerFailure provider, state =>
      ((), setBreaker state.read provider
        ((state.breakers provider).recordFailure (front.monotonic state)))
  | .exchangeCode provider code pkceVerifier, state =>
      (front.exchange state.world.process.requests provider code pkceVerifier, state.asked)
  | .fetchUserinfo provider accessToken, state =>
      (front.userinfo state.world.process.requests provider accessToken, state.asked)

def perform {ε : Type} (op : FrontOp) : Program Front ε op.Ans := Program.perform (S := Front) op

@[simp] theorem run_perform_bind {ε α : Type} (front : FrontEnv) (op : FrontOp)
    (rest : op.Ans → Program Front ε α) (state : FrontWorld) :
    (perform op >>= rest).run front.interp state =
      (rest (front.interp op state).1).run front.interp (front.interp op state).2 := rfl

/-- A program of the token server inside a browser-facing route. -/
def onServer {ε α : Type} (program : Program Server ε α) : Program Front ε α :=
  program.embed fun op => perform (.server op)

theorem run_on_server {ε α : Type} (front : FrontEnv) (program : Program Server ε α)
    (state : FrontWorld) :
    (onServer program).run front.interp state =
      ((program.run front.env.interp state.world).1,
        { state with world := (program.run front.env.interp state.world).2 }) :=
  Program.run_embed FrontWorld.world (fun world state => { state with world := world })
    (fun _ _ => rfl) (fun _ => rfl) (fun _ _ _ => rfl) (fun _ _ => rfl) program state

theorem run_on_server_query {ε : Type} (front : FrontEnv) (read : Query) (state : FrontWorld) :
    (onServer (query read) : Program Front ε read.Ans).run front.interp state =
      (.ok (read.eval front.env.backend state.world.store), state) := rfl

/-! ### Redirects -/

/-- `is_safe_redirect(url)`. -/
def isSafeRedirect (url : Option String) : Bool :=
  match url with
  | none => false
  | some url =>
      let text := (Text.strip url).toList
      url != "" && text.head? == some '/' && !(text.take 2 == ['/', '/']) && !text.contains '\\'

/-- The characters `RedirectResponse` leaves as they are. -/
def safeInLocation (char : Char) : Bool := ":/%#?=@[]!$&'()*+,;".toList.contains char

/-- `RedirectResponse(target, status_code=status)`. -/
def redirect (status : Nat) (target : String) (headers : List (String × String) := []) :
    Response where
  status := status
  headers := headers ++ [("location", QueryText.quote safeInLocation target)]
  body := .str ""

/-! ### `POST /auth/login` -/

def returnToMaxAgeSecs : ℚ := 600

structure LoginRequest where
  form : Form
  clientHost : Option String

def invalidCredentials : Response := redirect 303 "/auth/login?error=invalid_credentials"

/-- The limiter is asked by address first, then by username. -/
def loginAttempt (ipKey userKey : String) : FrontHandler Unit := do
  let retryAfter ← match ← perform (.checkLogin ipKey) with
    | some seconds => pure (some seconds)
    | none => perform (.checkLogin userKey)
  match retryAfter with
  | some seconds => throw (redirect 303 "/auth/login?error=too_many_attempts"
      [("Retry-After", toString seconds)])
  | none => pure ()

/-- The reason a user may not log in, by the submitted name or by the address. -/
def loginDenylisted (username : String) (user : User) : FrontHandler (Option String) := do
  match ← onServer (checkSubjectDenylisted "username" username) with
  | some reason => pure (some reason)
  | none => onServer (checkSubjectDenylisted "email" user.email)

/-- Where a login leads: the stored request, when it was stamped recently. -/
def loginTarget (session : Session) : FrontHandler String := do
  let fresh ← match session.returnToTs with
    | none => pure false
    | some stamped => do
        let now ← onServer (ambient .time)
        pure (decide (now - stamped ≤ returnToMaxAgeSecs))
  pure (if fresh && isSafeRedirect session.returnTo then session.returnTo.getD "/" else "/")

def login (front : FrontEnv) (request : LoginRequest) : FrontHandler Response := do
  let username := (request.form.get "username").getD ""
  let password := (request.form.get "password").getD ""
  let userKey := "login:user:" ++ username
  loginAttempt ("login:ip:" ++ request.clientHost.getD "unknown") userKey
  match ← onServer (query (.getUserByUsername username)) with
  | none => pure invalidCredentials
  | some user => do
      let denylisted ← loginDenylisted username user
      Program.rejectIf (!user.enabled || !front.verifyPassword password user.passwordHash ||
        denylisted.isSome) invalidCredentials
      perform (.resetLogin userKey)
      -- The stored target is read before the session is cleared.
      let session ← perform .session
      perform (.setLogin user front.defaultAcr ["pwd"])
      let target ← loginTarget session
      pure (redirect 303 target)

/-! ### `GET /auth/callback/{provider}` -/

structure CallbackRequest where
  provider : String
  params : Form

def socialError (error description : String) (status : Nat) : Response :=
  json status [("error", .str error), ("error_description", .str description)]

def oauthProviders : List String := ["google", "microsoft", "github", "azure"]

def displayName (provider : String) : String :=
  [("google", "Google"), ("microsoft", "Microsoft"), ("github", "GitHub"), ("azure", "Azure"),
    ("okta", "Okta"), ("auth0", "Auth0")].lookup provider |>.getD ""

/-- The checks of the callback: the code of a login this session started. -/
def callbackCode (front : FrontEnv) (request : CallbackRequest) :
    FrontHandler (String × Option String) := do
  let state := (request.params.get "state").getD ""
  Program.rejectIf (state == "")
    (socialError "access_denied" "CSRF state parameter is required" 403)
  let session ← perform .session
  Program.rejectIf (session.csrfToken != some state)
    (socialError "access_denied" "CSRF token mismatch" 403)
  Program.rejectIf (session.provider != some request.provider)
    (socialError "invalid_request" "Provider mismatch" 400)
  Program.rejectIf (!oauthProviders.contains request.provider)
    (socialError "invalid_request" "Unsupported provider" 400)
  match front.providerPkce request.provider with
  | none => throw (socialError "provider_not_configured"
      (displayName request.provider ++ " login not configured") 400)
  | some pkce =>
      let code := (request.params.get "code").getD ""
      Program.rejectIf (code == "")
        (socialError "invalid_request" "Authorization code is required" 400)
      Program.rejectIf (pkce && session.pkceVerifier.getD "" == "")
        (socialError "session_error" "PKCE verifier missing from session" 400)
      pure (code, if pkce then session.pkceVerifier else none)

/-- The user the provider vouches for; its breaker guards the userinfo fetch only. -/
def vouchedFor (front : FrontEnv) (request : CallbackRequest) : FrontHandler SocialUserInfo := do
  let (code, pkceVerifier) ← callbackCode front request
  match ← perform (.exchangeCode request.provider code pkceVerifier) with
  | .error failure => throw (socialError "token_exchange_failed" failure 400)
  | .ok accessToken =>
      let allowed ← perform (.breakerAllow request.provider)
      Program.rejectIf (!allowed) (socialError "provider_unavailable"
        (displayName request.provider ++ " circuit breaker open") 400)
      match ← perform (.fetchUserinfo request.provider accessToken) with
      | .error failure =>
          perform (.breakerFailure request.provider)
          throw (socialError "provider_error" failure 400)
      | .ok userinfo =>
          perform (.breakerSuccess request.provider)
          pure userinfo

def socialCallback (front : FrontEnv) (request : CallbackRequest) : FrontHandler Response := do
  let userinfo ← vouchedFor front request
  let user ← onServer (TokenEndpoint.call
    (socialAccount front.env { userinfo with provider := request.provider }))
  let session ← perform .session
  perform (.setLogin user front.defaultAcr ["fed"])
  pure (redirect 302
    (if isSafeRedirect session.returnTo then session.returnTo.getD "/profile" else "/profile"))

end OAuth2Server.FrontChannel
