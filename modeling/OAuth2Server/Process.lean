import OAuth2Server.Models
import Mathlib.Algebra.Order.Field.Rat
import Mathlib.Data.Rat.Floor

/-!
# State a server process keeps in memory

The replay guards, the poll tracker, the invalid-client limiter, the JWKS cache
and the signing keys. Dictionaries are insertion-ordered; times are rational
seconds of the monotonic clock, handed in by the caller.
-/

namespace OAuth2Server.Process

open OAuth2Server Models JsonText

set_option autoImplicit false

/-- A Python dictionary keyed by strings. -/
abbrev Dict (α : Type) := List (String × α)

/-- `d[key] = value`. -/
def Dict.set {α : Type} (key : String) (value : α) : Dict α → Dict α
  | [] => [(key, value)]
  | entry :: rest =>
      if entry.1 == key then (key, value) :: rest else entry :: Dict.set key value rest

def Dict.contains {α : Type} (dict : Dict α) (key : String) : Bool := dict.any (·.1 == key)

/-! ### `JtiReplayGuard` -/

def maxJtiTtlSecs : ℚ := 300

def defaultMaxEntries : Nat := 100000

inductive Observation where
  | fresh
  | replayed
  | full
  deriving DecidableEq, Repr

/-- The entry of a `(client_id, jti)` pair. -/
def jtiKey (clientId jti : String) : String := clientId ++ "\x00" ++ jti

/-- `JtiReplayGuard.observe`: expired entries are swept, a live pair is a
replay, and a full guard refuses rather than evicting. -/
def observeJti (clientId jti : String) (ttlSecs now : ℚ) (entries : Dict ℚ) :
    Observation × Dict ℚ :=
  let ttl := min (max ttlSecs 0) maxJtiTtlSecs
  let live := entries.filter fun entry => now < entry.2
  let key := jtiKey clientId jti
  if Dict.contains live key then (.replayed, live)
  else if defaultMaxEntries ≤ live.length then (.full, live)
  else (.fresh, live ++ [(key, now + ttl)])

/-! ### `DpopReplayStore` -/

def replayTtlSecs : ℚ := 660

/-- `DpopReplayStore.check_and_insert`; `false` is the replay error. -/
def checkAndInsert (jti : String) (now : ℚ) (entries : Dict ℚ) : Bool × Dict ℚ :=
  let live := entries.filter fun entry => now < entry.2
  if Dict.contains live jti then (false, live) else (true, live ++ [(jti, now + replayTtlSecs)])

/-! ### `DevicePollTracker` -/

structure PollState where
  lastPoll : ℚ
  interval : Int
  expiry : ℚ

def entryTtlSecs : ℚ := 24 * 60 * 60

def slowDownStepSecs : Int := 5

/-- `DevicePollTracker.observe`; an answer is the new interval of `slow_down`. -/
def observePoll (deviceCode : String) (baseInterval : Int) (now : ℚ) (entries : Dict PollState) :
    Option Int × Dict PollState :=
  let live := entries.filter fun entry => now < entry.2.expiry
  let expiry := now + entryTtlSecs
  match live.lookup deviceCode with
  | none =>
      (none, Dict.set deviceCode { lastPoll := now, interval := baseInterval, expiry := expiry } live)
  | some state =>
      if now - state.lastPoll < state.interval then
        let interval := state.interval + slowDownStepSecs
        (some interval,
          Dict.set deviceCode { lastPoll := now, interval := interval, expiry := expiry } live)
      else (none, Dict.set deviceCode { state with lastPoll := now, expiry := expiry } live)

/-! ### `TokenBucketLimiter` -/

structure Bucket where
  tokens : ℚ
  lastSeen : ℚ

structure Limiter where
  maxTokens : Int
  windowSecs : Int
  buckets : Dict Bucket

/-- `TokenBucketLimiter.check`: `none` when a token was taken, else the whole
seconds until the next one. -/
def Limiter.check (limiter : Limiter) (key : String) (now : ℚ) : Option Int × Limiter :=
  let refillRate : ℚ := limiter.maxTokens / limiter.windowSecs
  let live := limiter.buckets.filter fun entry =>
    now - entry.2.lastSeen < limiter.windowSecs * 2
  let tokens : ℚ := match live.lookup key with
    | none => limiter.maxTokens
    | some bucket =>
        if 0 < now - bucket.lastSeen then
          min limiter.maxTokens (bucket.tokens + (now - bucket.lastSeen) * refillRate)
        else bucket.tokens
  if 1 ≤ tokens then
    (none, { limiter with
      buckets := Dict.set key { tokens := tokens - 1, lastSeen := now } live })
  else
    (some (max 1 ⌈(1 - tokens) / refillRate⌉), { limiter with
      buckets := Dict.set key { tokens := tokens, lastSeen := now } live })

/-- The limiter of the invalid_client penalty bucket, off when configured to 0. -/
def invalidClientLimiter (config : Config) : Option Limiter :=
  if 0 < config.rateLimitInvalidClientMaxRequests then
    some
      { maxTokens := max 1 config.rateLimitInvalidClientMaxRequests
        windowSecs := max 1 config.rateLimitWindowSecs
        buckets := [] }
  else none

/-! ### The process -/

/-- `readings`, `draws` and `requests` count what was asked of the clocks, of
the random source and of the network. -/
structure State where
  readings : Nat
  draws : Nat
  requests : Nat
  keys : List SigningKey
  jtiGuard : Dict ℚ
  dpopReplay : Dict ℚ
  devicePoll : Dict PollState
  jwksCache : Dict (Json × ℚ)
  invalidClientLimiter : Option Limiter

end OAuth2Server.Process
