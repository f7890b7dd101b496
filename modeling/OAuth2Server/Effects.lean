import OAuth2Server.Interaction
import OAuth2Server.Process
import OAuth2Server.Storage

/-!
# What a request handler can do

A handler reads the store, writes it, or touches what lives outside it: the
clocks, the random source, the network and the process's memory. Each of these
is one operation of a single signature, so that a handler is one program,
whether it runs alone or among others.

`Platform` collects what is not under `src/`: the JWT library, the hash
functions, Unicode case mapping, the clocks, the random source, the network.
-/

namespace OAuth2Server.Effects

open OAuth2Server Models JsonText Storage Interaction

set_option autoImplicit false

/-! ### Outside the repository -/

/-- A key handed to `jwt.decode`: a shared secret, or what `from_jwk` of an
algorithm family built from a JWK. -/
inductive VerifyKey where
  | secret (bytes : List Nat)
  | jwk (family : String) (document : Json)

inductive KeyKind where
  | publicKey
  | privateKey
  deriving DecidableEq, Repr

/-- What `get_unverified_header` raises: `DecodeError`, or another of the
library's exceptions. -/
inductive HeaderError where
  | decode
  | invalid
  deriving DecidableEq, Repr

/-- What `jwt.decode` raises: one of the library's own exceptions with its
text, or anything else. -/
inductive VerifyError where
  | pyjwt (message : String)
  | other (message : String)

structure VerifyOptions where
  audience : Option (List String) := none
  issuer : Option String := none
  require : List String := []
  verifyExp : Bool := true
  verifyIat : Bool := true

/-- The JWT library. `usable` says whether key material can sign under an
algorithm; `jwkKind` is what `from_jwk` of an algorithm family builds; `verify`
is `jwt.decode` at a wall-clock time; `rsaPublicKey` is the public half of a
private key in PEM, as a JWK. Decoded objects are their members; `loneTexts`
names the claims of a token whose text holds a lone surrogate, which stands for
no character and reads as U+FFFD in the decoded object. -/
structure JwtLibrary where
  usable : List Nat → String → Bool
  encode : Json → List Nat → String → List (String × String) → String
  unverifiedHeader : String → Except HeaderError (List (String × Json))
  unverifiedClaims : String → Option (List (String × Json))
  jwkKind : String → Json → Except String KeyKind
  verify : String → VerifyKey → String → VerifyOptions → Instant →
    Except VerifyError (List (String × Json))
  rsaPublicKey : List Nat → Except String Json := fun _ => .error "Could not deserialize key data"
  loneTexts : String → List String := fun _ => []

structure Platform where
  jwt : JwtLibrary
  /-- base64url without padding of SHA-256 of the UTF-8 bytes. -/
  sha256Url : String → String
  /-- The same over the first half of the digest. -/
  halfHash : String → String
  /-- HMAC-SHA256, truncated to 16 bytes. -/
  hmacTag : List Nat → List Nat → List Nat
  casefold : String → String
  upper : String → String
  lower : String → String
  floatRepr : ℚ → String
  /-- `str()` of a decoded JSON value that is not a string. -/
  strOf : Json → String
  recursionLimit : Nat
  /-- The wall clock at its n-th reading. -/
  clock : Nat → Instant
  monotonic : Nat → ℚ
  /-- `secrets.token_urlsafe` and `uuid4().hex`, in the order they are drawn. -/
  random : Nat → String
  letters : Nat → String
  hashPassword : Nat → String → String
  /-- `_fetch_from_url`: the document with its lifetime, the text of its
  `OAuthError`, or `none` for an exception it does not catch. -/
  fetchFromUrl : Nat → String → Except (Option String) (Json × Int)
  /-- How pydantic reads an integer field: an integer, or what it takes for one. -/
  coerceInt : Json → Option Int := fun value =>
    match value with
    | .int number => some number
    | _ => none

/-! ### Operations -/

/-- The arguments of `TokenService.issue`. -/
structure IssueRequest where
  client : Client
  userId : Option String
  scope : String
  withRefresh : Bool
  tokenFamily : Option String := none
  cnf : Option Json := none
  authorizationDetails : Option (List Json) := none
  act : Option Json := none
  resource : Option String := none
  audience : Option (List String) := none

inductive Ambient where
  | now
  | time
  | tokenUrlsafe (bytes : Nat)
  | uuid4Hex
  | randomPart
  | hashPassword (password : String)
  | keys
  | observeJti (clientId jti : String) (ttlSecs : ℚ)
  | checkAndInsert (jti : String)
  | observePoll (deviceCode : String) (baseInterval : Int)
  | forgetPoll (deviceCode : String)
  | checkInvalidClient (clientId : String)
  | fetchJwks (url : String)
  /-- `TokenService.issue` is entered. The source has no such operation: it
  leaves a mark in the history and changes nothing. -/
  | enterIssue (request : IssueRequest)

@[reducible] def Ambient.Ans : Ambient → Type
  | .now => Instant
  | .time => ℚ
  | .tokenUrlsafe _ => String
  | .uuid4Hex => String
  | .randomPart => String
  | .hashPassword _ => String
  | .keys => List SigningKey
  | .observeJti _ _ _ => Process.Observation
  | .checkAndInsert _ => Bool
  | .observePoll _ _ => Option Int
  | .forgetPoll _ => Unit
  | .checkInvalidClient _ => Option Int
  | .fetchJwks _ => Except (Option String) Json
  | .enterIssue _ => Unit

/-- Seconds since the epoch, as `time.time()` reports them. -/
def epochSeconds (instant : Instant) : ℚ := instant / 1000000

def Ambient.exec (platform : Platform) (process : Process.State) :
    (ambient : Ambient) → ambient.Ans × Process.State
  | .now =>
      (platform.clock process.readings, { process with readings := process.readings + 1 })
  | .time =>
      (epochSeconds (platform.clock process.readings),
        { process with readings := process.readings + 1 })
  | .tokenUrlsafe _ =>
      (platform.random process.draws, { process with draws := process.draws + 1 })
  | .uuid4Hex => (platform.random process.draws, { process with draws := process.draws + 1 })
  | .randomPart => (platform.letters process.draws, { process with draws := process.draws + 1 })
  | .hashPassword password =>
      (platform.hashPassword process.draws password, { process with draws := process.draws + 1 })
  | .keys => (process.keys, process)
  | .observeJti clientId jti ttlSecs =>
      let outcome := Process.observeJti clientId jti ttlSecs (platform.monotonic process.readings)
        process.jtiGuard
      (outcome.1, { process with readings := process.readings + 1, jtiGuard := outcome.2 })
  | .checkAndInsert jti =>
      let outcome := Process.checkAndInsert jti (platform.monotonic process.readings)
        process.dpopReplay
      (outcome.1, { process with readings := process.readings + 1, dpopReplay := outcome.2 })
  | .observePoll deviceCode baseInterval =>
      let outcome := Process.observePoll deviceCode baseInterval
        (platform.monotonic process.readings) process.devicePoll
      (outcome.1, { process with readings := process.readings + 1, devicePoll := outcome.2 })
  | .forgetPoll deviceCode =>
      ((), { process with devicePoll := process.devicePoll.filter (·.1 != deviceCode) })
  | .checkInvalidClient clientId =>
      match process.invalidClientLimiter with
      | none => (none, process)
      | some limiter =>
          let outcome := limiter.check clientId (platform.monotonic process.readings)
          (outcome.1, { process with
            readings := process.readings + 1
            invalidClientLimiter := some outcome.2 })
  | .fetchJwks url =>
      let now := platform.monotonic process.readings
      let cached := (process.jwksCache.lookup url).filter fun entry => decide (now < entry.2)
      match cached with
      | some entry => (.ok entry.1, { process with readings := process.readings + 1 })
      | none =>
          let asked := { process with
            readings := process.readings + 2
            requests := process.requests + 1 }
          match platform.fetchFromUrl process.requests url with
          | .error description => (.error description, asked)
          | .ok (document, ttl) =>
              let expiry := platform.monotonic (process.readings + 1) + ttl
              (.ok document, { asked with
                jwksCache := Process.Dict.set url (document, expiry) process.jwksCache })
  | .enterIssue _ => ((), process)

inductive Op where
  | query (read : Query)
  | command (write : Command)
  | ambient (act : Ambient)

@[reducible] def Op.Ans : Op → Type
  | .query read => read.Ans
  | .command write => write.Ans
  | .ambient act => act.Ans

/-- The signature of every handler. -/
@[reducible] def Server : Signature where
  Op := Op
  Ans := Op.Ans

structure World where
  store : Store
  process : Process.State

/-- The meaning of the operations: reads leave the world alone, writes change
the store only, everything else the process only. -/
def interp (backend : Backend) (platform : Platform) : Program.Interpretation Server World
  | .query read, world => (read.eval backend world.store, world)
  | .command write, world =>
      ((write.exec backend world.store).1,
        { world with store := (write.exec backend world.store).2 })
  | .ambient act, world =>
      ((act.exec platform world.process).1,
        { world with process := (act.exec platform world.process).2 })

/-! ### Responses and exceptions -/

/-- The body of an unhandled exception is its plain text. -/
structure Response where
  status : Nat
  headers : List (String × String)
  body : Json

/-- An exception on its way to the route: one the route knows how to answer, or
any other, which becomes a 500. Every `OAuthError` of the modelled services has
the default status 400. -/
inductive Raised where
  | oauth (error : String) (description : Option String)
  | dpop (error description : String)
  | other

def internalServerError : Response where
  status := 500
  headers := []
  body := .str "Internal Server Error"

/-- `oauth_error(error, description, status)`. -/
def oauthError (error : String) (description : Option String) (status : Nat := 400) : Response where
  status := if error == "invalid_client" then 401 else status
  headers := [("Cache-Control", "no-store")] ++
    if error == "invalid_client" then [("WWW-Authenticate", "Basic")] else []
  body := .obj ([("error", .str error)] ++ optionalMember "error_description" (description.map .str))

/-- A service call: it returns a value or raises. -/
abbrev Service := Program Server Raised

/-- A route: its early exits are responses too. -/
abbrev Handler := Program Server Response

def query (read : Query) {ε : Type} : Program Server ε read.Ans :=
  Program.perform (S := Server) (Op.query read)

def command (write : Command) {ε : Type} : Program Server ε write.Ans :=
  Program.perform (S := Server) (Op.command write)

def ambient (act : Ambient) {ε : Type} : Program Server ε act.Ans :=
  Program.perform (S := Server) (Op.ambient act)

/-- `if condition: raise OAuthError(error, description)`. -/
def raiseIf (condition : Bool) (error description : String) : Service Unit :=
  Program.rejectIf condition (.oauth error (some description))

/-- `if condition: return oauth_error(error, description)`. -/
def returnIf (condition : Bool) (error description : String) : Handler Unit :=
  Program.rejectIf condition (oauthError error (some description))

/-- An insertion whose failure nobody handles. -/
def insertOrRaise {α : Type} (outcome : Except StorageError α) : Service α :=
  match outcome with
  | .ok value => pure value
  | .error _ => throw .other

/-- The configuration, the backend and the platform a process runs with. -/
structure Env where
  config : Config
  backend : Backend
  platform : Platform

def Env.interp (env : Env) : Program.Interpretation Server World :=
  Effects.interp env.backend env.platform

section Interpretation

variable {env : Env} {world : World}

@[simp] theorem interp_query (read : Query) :
    env.interp (.query read) world = (read.eval env.backend world.store, world) := rfl

@[simp] theorem interp_command (write : Command) :
    env.interp (.command write) world =
      ((write.exec env.backend world.store).1,
        { world with store := (write.exec env.backend world.store).2 }) := rfl

@[simp] theorem interp_ambient (act : Ambient) :
    env.interp (.ambient act) world =
      ((act.exec env.platform world.process).1,
        { world with process := (act.exec env.platform world.process).2 }) := rfl

variable {ε α : Type}

@[simp] theorem run_query_bind (read : Query) (rest : read.Ans → Program Server ε α) :
    ((query read : Program Server ε read.Ans) >>= rest).run env.interp world =
      (rest (read.eval env.backend world.store)).run env.interp world := rfl

@[simp] theorem run_command_bind (write : Command) (rest : write.Ans → Program Server ε α) :
    ((command write : Program Server ε write.Ans) >>= rest).run env.interp world =
      (rest (write.exec env.backend world.store).1).run env.interp
        { world with store := (write.exec env.backend world.store).2 } := rfl

@[simp] theorem run_ambient_bind (act : Ambient) (rest : act.Ans → Program Server ε α) :
    ((ambient act : Program Server ε act.Ans) >>= rest).run env.interp world =
      (rest (act.exec env.platform world.process).1).run env.interp
        { world with process := (act.exec env.platform world.process).2 } := rfl

end Interpretation

/-- The environment during a call at `time`, in microseconds since the epoch. -/
def atTime (env : Env) (offset : ℚ) (time : Nat) : Env :=
  { env with
    platform := { env.platform with
      clock := fun _ => time
      monotonic := fun _ => epochSeconds time + offset } }

end OAuth2Server.Effects
