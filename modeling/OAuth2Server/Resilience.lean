import Mathlib.Algebra.Order.Field.Rat
import OAuth2Server.Interaction

/-!
# The circuit breakers and the requests that pass them

`services/resilience.py` and `ResilienceMiddleware`, and the smaller breaker of
`services/social.py`. Coroutines change places
only where one of them waits. Neither lock is ever held across a wait, so that
taking one never waits either, and a request has one place to wait after it was
admitted: the application it wraps. What it does before that, and what it does
after, are one step each; every reading of the monotonic clock within a step
may return another time.
-/

namespace OAuth2Server.Resilience

set_option autoImplicit false

/-! ### `CircuitBreaker` -/

inductive CircuitState where
  | closed
  | opened
  | halfOpen
  deriving DecidableEq, Repr

structure CircuitBreaker where
  failureThreshold : Nat
  successThreshold : Nat
  openSecs : Nat
  halfOpenMaxProbes : Nat
  current : CircuitState := .closed
  consecutiveFailures : Nat := 0
  consecutiveSuccesses : Nat := 0
  openedAt : Option ℚ := none
  probesInUse : Nat := 0
  totalTrips : Nat := 0
  /-- How often the breaker has become half-open. The source keeps no such
  count; nothing below decides by it. -/
  halfOpenings : Nat := 0
  deriving DecidableEq

/-- Every knob is at least one. -/
def atLeastOne (knob : Int) : Nat := (max 1 knob).toNat

def CircuitBreaker.new (failureThreshold successThreshold openSecs halfOpenMaxProbes : Int) :
    CircuitBreaker where
  failureThreshold := atLeastOne failureThreshold
  successThreshold := atLeastOne successThreshold
  openSecs := atLeastOne openSecs
  halfOpenMaxProbes := atLeastOne halfOpenMaxProbes

namespace CircuitBreaker

/-- `CircuitBreaker.state`: what it returns is the `current` it leaves. -/
def state (now : ℚ) (breaker : CircuitBreaker) : CircuitBreaker :=
  let elapsed := breaker.openedAt.any fun openedAt => decide (breaker.openSecs ≤ now - openedAt)
  if breaker.current == .opened && elapsed then
    { breaker with
      current := .halfOpen
      probesInUse := 0
      consecutiveSuccesses := 0
      halfOpenings := breaker.halfOpenings + 1 }
  else breaker

/-- `CircuitBreaker._open`. -/
def trip (now : ℚ) (breaker : CircuitBreaker) : CircuitBreaker :=
  { breaker with
    current := .opened
    openedAt := some now
    consecutiveFailures := 0
    consecutiveSuccesses := 0
    probesInUse := 0
    totalTrips := breaker.totalTrips + 1 }

/-- `CircuitBreaker._close`. -/
def close (breaker : CircuitBreaker) : CircuitBreaker :=
  { breaker with
    current := .closed
    openedAt := none
    consecutiveFailures := 0
    consecutiveSuccesses := 0
    probesInUse := 0 }

/-- `CircuitBreaker.allow_request`. -/
def allowRequest (now : ℚ) (breaker : CircuitBreaker) : Bool × CircuitBreaker :=
  let breaker := breaker.state now
  match breaker.current with
  | .closed => (true, breaker)
  | .opened => (false, breaker)
  | .halfOpen =>
      if breaker.halfOpenMaxProbes ≤ breaker.probesInUse then (false, breaker)
      else (true, { breaker with probesInUse := breaker.probesInUse + 1 })

/-- `CircuitBreaker.record_success`. -/
def recordSuccess (now : ℚ) (breaker : CircuitBreaker) : CircuitBreaker :=
  let breaker := breaker.state now
  match breaker.current with
  | .halfOpen =>
      let released :=
        { breaker with
          probesInUse := breaker.probesInUse - 1
          consecutiveSuccesses := breaker.consecutiveSuccesses + 1 }
      if released.successThreshold ≤ released.consecutiveSuccesses then released.close
      else released
  | .closed => { breaker with consecutiveFailures := 0 }
  | .opened => breaker

/-- `CircuitBreaker.record_failure`; `opened` is the time `_open` reads. -/
def recordFailure (now opened : ℚ) (breaker : CircuitBreaker) : CircuitBreaker :=
  let breaker := breaker.state now
  match breaker.current with
  | .halfOpen => { breaker with probesInUse := breaker.probesInUse - 1 }.trip opened
  | .closed =>
      let counted := { breaker with consecutiveFailures := breaker.consecutiveFailures + 1 }
      if counted.failureThreshold ≤ counted.consecutiveFailures then counted.trip opened
      else counted
  | .opened => breaker

end CircuitBreaker

/-! ### `ConcurrencyLimiter` -/

structure ConcurrencyLimiter where
  maxConcurrent : Nat
  inFlight : Nat := 0
  rejectedTotal : Nat := 0
  deriving DecidableEq

def ConcurrencyLimiter.new (maxConcurrent : Int) : ConcurrencyLimiter where
  maxConcurrent := atLeastOne maxConcurrent

def ConcurrencyLimiter.tryAcquire (limiter : ConcurrencyLimiter) : Bool × ConcurrencyLimiter :=
  if limiter.maxConcurrent ≤ limiter.inFlight then
    (false, { limiter with rejectedTotal := limiter.rejectedTotal + 1 })
  else (true, { limiter with inFlight := limiter.inFlight + 1 })

def ConcurrencyLimiter.release (limiter : ConcurrencyLimiter) : ConcurrencyLimiter :=
  { limiter with inFlight := limiter.inFlight - 1 }

/-! ### `ResilienceMiddleware` -/

def exemptPrefixes : List String := ["/health", "/ready", "/metrics"]

def isExempt (path : String) : Bool := exemptPrefixes.any fun start => path.startsWith start

/-- A request inside the application. `round` is the number of half-openings
when it was admitted. -/
structure Running (ι : Type) where
  id : ι
  isProbe : Bool
  round : Nat
  deriving DecidableEq

structure Gateway (ι : Type) where
  breaker : CircuitBreaker
  limiter : ConcurrencyLimiter
  running : List (Running ι) := []
  deriving DecidableEq

section Middleware

variable {ι : Type} [DecidableEq ι]

/-- Up to `await self.app(...)`; a refused request is only answered. -/
def Gateway.admitRequest (id : ι) (clock : Nat → ℚ) (gateway : Gateway ι) : Gateway ι :=
  let breaker := gateway.breaker.state (clock 0)
  if breaker.current == .opened then
    { gateway with breaker := breaker.state (clock 1) }
  else
    let (acquired, limiter) := gateway.limiter.tryAcquire
    if !acquired then { gateway with breaker := breaker, limiter := limiter }
    else
      let breaker := breaker.state (clock 1)
      if breaker.current == .halfOpen then
        let (allowed, breaker) := breaker.allowRequest (clock 2)
        if !allowed then
          { gateway with breaker := breaker.state (clock 3), limiter := limiter.release }
        else
          { breaker := breaker
            limiter := limiter
            running := gateway.running ++
              [{ id := id, isProbe := true, round := breaker.halfOpenings }] }
      else
        { breaker := breaker
          limiter := limiter
          running := gateway.running ++
            [{ id := id, isProbe := false, round := breaker.halfOpenings }] }

/-- What the breaker records of an outcome. -/
def record (isProbe failed : Bool) (clock : Nat → ℚ) (breaker : CircuitBreaker) : CircuitBreaker :=
  let breaker := breaker.state (clock 0)
  let recorded :=
    if breaker.current == .closed || isProbe then
      if failed then breaker.recordFailure (clock 1) (clock 2)
      else breaker.recordSuccess (clock 1)
    else breaker
  recorded.state (clock 3)

/-- The request leaves the application. -/
def Gateway.leave (id : ι) (gateway : Gateway ι) : Gateway ι :=
  { gateway with
    limiter := gateway.limiter.release
    running := gateway.running.filter fun request => request.id != id }

/-- How a request ends: the application returned, having sent this status if
any; it raised; or the task was cancelled, which `except Exception` does not
see. -/
inductive Outcome where
  | returned (status : Option Nat)
  | raised
  | cancelled
  deriving DecidableEq, Repr

/-- `status_box["code"] >= 500`, or an exception. -/
def Outcome.failed : Outcome → Bool
  | .returned status => decide (500 ≤ status.getD 500)
  | _ => true

def Gateway.finish (id : ι) (outcome : Outcome) (clock : Nat → ℚ) (gateway : Gateway ι) :
    Gateway ι :=
  match gateway.running.find? fun request => request.id == id with
  | none => gateway
  | some request =>
      match outcome with
      | .cancelled => gateway.leave id
      | _ =>
          { gateway.leave id with
            breaker := record request.isProbe outcome.failed clock gateway.breaker }

/-- One step of the event loop. -/
inductive Event (ι : Type) where
  | arrive (id : ι) (path : String) (clock : Nat → ℚ)
  | finish (id : ι) (outcome : Outcome) (clock : Nat → ℚ)

/-- A request on an exempt path is passed on unseen. -/
def Gateway.step (gateway : Gateway ι) : Event ι → Gateway ι
  | .arrive id path clock =>
      if isExempt path || gateway.running.any (·.id == id) then gateway
      else gateway.admitRequest id clock
  | .finish id outcome clock => gateway.finish id outcome clock

end Middleware

/-! ### `ResilienceMiddleware.__call__`, call by call

The same request as a program: it may be interrupted before each of its calls,
which is finer than its waits. -/

open Interaction Interaction.Program

inductive MiddlewareOp where
  | circuitState
  | tryAcquire
  | allowRequest
  | release
  | app
  | recordFailure
  | recordSuccess
  deriving DecidableEq, Repr

def Middleware : Signature where
  Op := MiddlewareOp
  Ans
    | .circuitState => CircuitState
    | .tryAcquire => Bool
    | .allowRequest => Bool
    | .app => Outcome
    | _ => Unit

/-- `app.state`, the readings of the monotonic clock, and what the application
will do each time it is called. -/
structure AppState where
  breaker : CircuitBreaker
  limiter : ConcurrencyLimiter
  clock : Nat → ℚ
  readings : Nat := 0
  outcomes : Nat → Outcome
  calls : Nat := 0

def middleware : Interpretation Middleware AppState
  | .circuitState, state =>
      let breaker := state.breaker.state (state.clock state.readings)
      (breaker.current, { state with breaker := breaker, readings := state.readings + 1 })
  | .tryAcquire, state =>
      (state.limiter.tryAcquire.1, { state with limiter := state.limiter.tryAcquire.2 })
  | .allowRequest, state =>
      let answer := state.breaker.allowRequest (state.clock state.readings)
      (answer.1, { state with breaker := answer.2, readings := state.readings + 1 })
  | .release, state => ((), { state with limiter := state.limiter.release })
  | .app, state => (state.outcomes state.calls, { state with calls := state.calls + 1 })
  | .recordFailure, state =>
      let breaker := state.breaker.recordFailure (state.clock state.readings)
        (state.clock (state.readings + 1))
      ((), { state with breaker := breaker, readings := state.readings + 2 })
  | .recordSuccess, state =>
      let breaker := state.breaker.recordSuccess (state.clock state.readings)
      ((), { state with breaker := breaker, readings := state.readings + 1 })

namespace Middleware

section Calls

variable {ε : Type}

def circuitState : Program Middleware ε CircuitState :=
  perform (S := Middleware) MiddlewareOp.circuitState

def tryAcquire : Program Middleware ε Bool := perform (S := Middleware) MiddlewareOp.tryAcquire

def allowRequest : Program Middleware ε Bool := perform (S := Middleware) MiddlewareOp.allowRequest

def release : Program Middleware ε Unit := perform (S := Middleware) MiddlewareOp.release

def app : Program Middleware ε Outcome := perform (S := Middleware) MiddlewareOp.app

def recordFailure : Program Middleware ε Unit :=
  perform (S := Middleware) MiddlewareOp.recordFailure

def recordSuccess : Program Middleware ε Unit :=
  perform (S := Middleware) MiddlewareOp.recordSuccess

end Calls

/-- What the middleware answers itself, or leaves to the application. -/
inductive Handled where
  | passedOn
  | circuitOpen
  | atCapacity
  | answered
  deriving DecidableEq, Repr

/-- What propagates out of the call. -/
inductive Escaped where
  | exception
  | cancellation
  deriving DecidableEq, Repr

/-- Up to the application: the answer of a refused request, or whether the
request is a probe. -/
def enter : Program Middleware Escaped (Except Handled Bool) := do
  let current ← circuitState
  if current == .opened then
    let _ ← circuitState
    pure (.error .circuitOpen)
  else
    let acquired ← tryAcquire
    if !acquired then pure (.error .atCapacity)
    else
      let current ← circuitState
      if current == .halfOpen then
        let allowed ← allowRequest
        if !allowed then
          let _ ← release
          let _ ← circuitState
          pure (.error .circuitOpen)
        else pure (.ok true)
      else pure (.ok false)

def recordOutcome (counts failed : Bool) : Program Middleware Escaped Unit :=
  if counts then (if failed then recordFailure else recordSuccess) else pure ()

/-- The circuit's share of an outcome, metrics included. -/
def account (isProbe failed : Bool) : Program Middleware Escaped Unit := do
  let current ← circuitState
  recordOutcome (current == .closed || isProbe) failed
  let _ ← circuitState

/-- `except`, `finally` and what follows them. -/
def conclude (isProbe : Bool) (outcome : Outcome) : Program Middleware Escaped Handled := do
  match outcome with
  | .cancelled =>
      release
      throw .cancellation
  | .raised =>
      account isProbe true
      release
      throw .exception
  | .returned _ =>
      release
      account isProbe outcome.failed
      pure .answered

/-- `ResilienceMiddleware.__call__`. -/
def handle (path : String) : Program Middleware Escaped Handled := do
  if isExempt path then
    match ← app with
    | .returned _ => pure .passedOn
    | .raised => throw .exception
    | .cancelled => throw .cancellation
  else
    match ← enter with
    | .error answer => pure answer
    | .ok isProbe =>
        let outcome ← app
        conclude isProbe outcome

end Middleware

/-! ### `SocialCircuitBreaker` -/

/-- The breaker of one social provider's userinfo fetch. -/
structure SocialCircuitBreaker where
  isOpen : Bool := false
  failures : Nat := 0
  openedAt : Option ℚ := none
  probeInFlight : Bool := false
  deriving DecidableEq

namespace SocialCircuitBreaker

def failureThreshold : Nat := 5

def cooldownSecs : ℚ := 30

def cooldownElapsed (now : ℚ) (breaker : SocialCircuitBreaker) : Bool :=
  breaker.openedAt.any fun openedAt => decide (cooldownSecs ≤ now - openedAt)

def allow (now : ℚ) (breaker : SocialCircuitBreaker) : Bool × SocialCircuitBreaker :=
  if !breaker.isOpen then (true, breaker)
  else if !breaker.cooldownElapsed now then (false, breaker)
  else if breaker.probeInFlight then (false, breaker)
  else (true, { breaker with probeInFlight := true })

def recordSuccess (_ : SocialCircuitBreaker) : SocialCircuitBreaker where
  isOpen := false
  failures := 0
  openedAt := none
  probeInFlight := false

def recordFailure (now : ℚ) (breaker : SocialCircuitBreaker) : SocialCircuitBreaker :=
  if breaker.isOpen then { breaker with openedAt := some now, probeInFlight := false }
  else
    let counted := { breaker with failures := breaker.failures + 1 }
    if failureThreshold ≤ counted.failures then
      { counted with isOpen := true, openedAt := some now, failures := 0 }
    else counted

end SocialCircuitBreaker

/-- A callback between `allow` and its report: when it was admitted, and
whether the breaker was open then. -/
structure Caller (ι : Type) where
  id : ι
  probing : Bool
  admittedAt : ℚ
  deriving DecidableEq

/-- The breaker of a provider and its callers. `streak` is the number of
failures reported since the last success; nothing below decides by it. -/
structure Provider (ι : Type) where
  breaker : SocialCircuitBreaker := {}
  callers : List (Caller ι) := []
  streak : Nat := 0
  deriving DecidableEq

/-- What a caller does: each of the three holds the breaker's lock throughout. -/
inductive Call (ι : Type) where
  | allow (id : ι) (now : ℚ)
  | succeed (id : ι)
  | fail (id : ι) (now : ℚ)
  deriving DecidableEq

section Social

variable {ι : Type} [DecidableEq ι]

def Provider.running (provider : Provider ι) (id : ι) : Bool :=
  provider.callers.any fun caller => caller.id == id

/-- The caller reports and is done. -/
def Provider.done (provider : Provider ι) (id : ι) : List (Caller ι) :=
  provider.callers.filter fun caller => caller.id != id

/-- A caller that is not running has nothing to report, and one that is does
not ask again. -/
def Provider.step (provider : Provider ι) : Call ι → Provider ι
  | .allow id now =>
      if provider.running id then provider
      else
        let (allowed, breaker) := provider.breaker.allow now
        if allowed then
          { provider with
            breaker := breaker
            callers := provider.callers ++
              [{ id := id, probing := provider.breaker.isOpen, admittedAt := now }] }
        else { provider with breaker := breaker }
  | .succeed id =>
      if provider.running id then
        { breaker := provider.breaker.recordSuccess, callers := provider.done id, streak := 0 }
      else provider
  | .fail id now =>
      if provider.running id then
        { breaker := provider.breaker.recordFailure now
          callers := provider.done id
          streak := provider.streak + 1 }
      else provider

end Social

end OAuth2Server.Resilience
