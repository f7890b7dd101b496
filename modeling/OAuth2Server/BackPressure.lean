import OAuth2Server.Resilience
import OAuth2Server.Interleaving
import Mathlib.Data.Finset.Card

/-!
# The slots of the concurrency limiter

Every request asks for a slot at most once and gives back what it got exactly
once, whichever way it ends. That is a contract of one request, followed
through its program; that the counter is the number of requests between the
two is an invariant of all of them, however their calls interleave.
-/

namespace OAuth2Server.BackPressure

open Interaction Interaction.Program Interleaving Interleaving.Pool
open Resilience Resilience.Middleware

set_option autoImplicit false

/-! ### One request -/

/-- Where a request stands with the limiter. -/
inductive Slot where
  | unasked
  | refused
  | holding
  | released
  deriving DecidableEq, Repr

/-- A slot is asked for once, and released by the request that holds it. -/
def slots : Contract Middleware Slot where
  allowed
    | slot, .tryAcquire => slot = .unasked
    | slot, .release => slot = .holding
    | _, _ => True
  possible _ _ := True
  after
    | _, .tryAcquire, (acquired : Bool) => if acquired then .holding else .refused
    | _, .release, _ => .released
    | slot, _, _ => slot

/-- A request that is over holds nothing, and is answered for capacity exactly
if it was refused a slot. -/
def Settled (slot : Slot) (outcome : Except Escaped Handled) : Prop :=
  slot ≠ .holding ∧ (outcome = .ok .atCapacity ↔ slot = .refused)

theorem slots_sound : slots.Sound middleware := fun _ _ => trivial

section Calls

variable {α : Type} {post : Slot → Except Escaped α → Prop} {slot : Slot}

theorem obeys_state {rest : CircuitState → Program Middleware Escaped α}
    (next : ∀ current, Obeys slots post slot (rest current)) :
    Obeys slots post slot (circuitState >>= rest) := ⟨trivial, fun current _ => next current⟩

theorem obeys_acquire {rest : Bool → Program Middleware Escaped α}
    (refused : Obeys slots post .refused (rest false))
    (holding : Obeys slots post .holding (rest true)) :
    Obeys slots post .unasked (tryAcquire >>= rest) := by
  refine ⟨rfl, fun (acquired : Bool) _ => ?_⟩
  cases acquired with
  | false => exact refused
  | true => exact holding

theorem obeys_allow {rest : Bool → Program Middleware Escaped α}
    (next : ∀ allowed, Obeys slots post slot (rest allowed)) :
    Obeys slots post slot (allowRequest >>= rest) := ⟨trivial, fun allowed _ => next allowed⟩

theorem obeys_release {rest : Unit → Program Middleware Escaped α}
    (next : Obeys slots post .released (rest ())) :
    Obeys slots post .holding (release >>= rest) := ⟨rfl, fun _ _ => next⟩

theorem obeys_app {rest : Outcome → Program Middleware Escaped α}
    (next : ∀ outcome, Obeys slots post slot (rest outcome)) :
    Obeys slots post slot (app >>= rest) := ⟨trivial, fun outcome _ => next outcome⟩

theorem obeys_record {rest : Unit → Program Middleware Escaped α} (counts failed : Bool)
    (next : Obeys slots post slot (rest ())) :
    Obeys slots post slot (recordOutcome counts failed >>= rest) := by
  unfold recordOutcome
  cases counts with
  | false => exact next
  | true =>
      cases failed with
      | false => exact ⟨trivial, fun _ _ => next⟩
      | true => exact ⟨trivial, fun _ _ => next⟩

/-- The circuit's accounting has nothing to do with the limiter. -/
theorem obeys_account {rest : Unit → Program Middleware Escaped α} {isProbe failed : Bool}
    (next : Obeys slots post slot (rest ())) :
    Obeys slots post slot (account isProbe failed >>= rest) := by
  apply obeys_state
  intro current
  change Obeys slots post slot
    ((recordOutcome _ failed >>= fun _ => circuitState >>= fun _ => pure ()) >>= rest)
  rw [bind_assoc]
  apply obeys_record
  rw [bind_assoc]
  apply obeys_state
  intro _
  exact next

end Calls

theorem obeys_conclude (isProbe : Bool) (outcome : Outcome) :
    Obeys slots Settled .holding (conclude isProbe outcome) := by
  have ended : ∀ answer : Except Escaped Handled, answer ≠ .ok .atCapacity →
      Settled .released answer := by
    intro answer other
    simp [Settled, other]
  cases outcome with
  | cancelled => exact obeys_release (ended _ (by simp))
  | raised => exact obeys_account (obeys_release (ended _ (by simp)))
  | returned status => exact obeys_release (obeys_account (ended _ (by simp)))

/-- How a request gets to the application: with a slot, or not at all. -/
def Entered (slot : Slot) : Except Escaped (Except Handled Bool) → Prop
  | .ok (.ok _) => slot = .holding
  | .ok (.error answer) => Settled slot (.ok answer)
  | .error escaped => Settled slot (.error escaped)

theorem obeys_enter : Obeys slots Entered .unasked enter := by
  apply obeys_state
  intro current
  split
  · apply obeys_state
    intro _
    simp [Entered, Settled]
  · apply obeys_acquire
    · simp [Entered, Settled]
    · apply obeys_state
      intro current
      split
      · apply obeys_allow
        intro allowed
        cases allowed with
        | false =>
            apply obeys_release
            apply obeys_state
            intro _
            simp [Entered, Settled]
        | true => simp [Entered]
      · simp [Entered]

theorem obeys_handle (path : String) : Obeys slots Settled .unasked (handle path) := by
  unfold handle
  split
  · apply obeys_app
    intro outcome
    cases outcome <;> simp [Settled]
  · refine obeys_bind.2 (obeys_enter.mono ?_)
    intro slot outcome entered
    match outcome with
    | .error escaped => exact entered
    | .ok (.error answer) => exact entered
    | .ok (.ok isProbe) =>
        rw [show slot = .holding from entered]
        exact obeys_app fun outcome => obeys_conclude isProbe outcome

/-! ### Its history -/

/-- `try_acquire` returned true. -/
def isAcquisition : Event Middleware → Bool
  | ⟨.tryAcquire, acquired⟩ => acquired
  | _ => false

def isRelease : Event Middleware → Bool
  | ⟨.release, _⟩ => true
  | _ => false

/-- Slots a request got, and slots it gave back. -/
def acquisitions (history : List (Event Middleware)) : Nat := history.countP isAcquisition

def releases (history : List (Event Middleware)) : Nat := history.countP isRelease

/-- `try_acquire` returned false. -/
def refusal : Event Middleware := ⟨MiddlewareOp.tryAcquire, false⟩

/-- The state of the contract is what the history says. -/
def Recorded (history : List (Event Middleware)) : Slot → Prop
  | .unasked => acquisitions history = 0 ∧ releases history = 0
  | .refused => acquisitions history = 0 ∧ releases history = 0 ∧ refusal ∈ history
  | .holding => acquisitions history = 1 ∧ releases history = 0
  | .released => acquisitions history = 1 ∧ releases history = 1

theorem recorded_step (history : List (Event Middleware)) (slot : Slot) (op : Middleware.Op)
    (answer : Middleware.Ans op) (allowed : slots.allowed slot op)
    (recorded : Recorded history slot) :
    Recorded (history ++ [⟨op, answer⟩]) (slots.after slot op answer) := by
  have counts : acquisitions (history ++ [⟨op, answer⟩]) =
        acquisitions history + (if isAcquisition ⟨op, answer⟩ then 1 else 0) ∧
      releases (history ++ [⟨op, answer⟩]) =
        releases history + (if isRelease ⟨op, answer⟩ then 1 else 0) := by
    unfold acquisitions releases
    rw [List.countP_append, List.countP_append, List.countP_singleton, List.countP_singleton]
    exact ⟨rfl, rfl⟩
  obtain ⟨got, gave⟩ := counts
  cases op with
  | tryAcquire =>
      have start : slot = .unasked := allowed
      subst start
      cases answer with
      | false =>
          exact ⟨got.trans recorded.1, gave.trans recorded.2,
            List.mem_append_right history (List.mem_singleton.2 rfl)⟩
      | true => exact ⟨got.trans (congrArg Nat.succ recorded.1), gave.trans recorded.2⟩
  | release =>
      have held : slot = .holding := allowed
      subst held
      exact ⟨got.trans recorded.1, gave.trans (congrArg Nat.succ recorded.2)⟩
  | _ =>
      cases slot with
      | refused =>
          exact ⟨got.trans recorded.1, gave.trans recorded.2.1,
            List.mem_append_left _ recorded.2.2⟩
      | _ => exact ⟨got.trans recorded.1, gave.trans recorded.2⟩

/-! ### All requests -/

section Pool

variable {ι : Type} [DecidableEq ι]

/-- The counter is the number of requests that hold a slot. -/
structure Exact (maxConcurrent : Nat) (limiter : ConcurrencyLimiter) (holders : Finset ι) :
    Prop where
  limit : limiter.maxConcurrent = maxConcurrent
  counted : limiter.inFlight = holders.card
  bounded : limiter.inFlight ≤ maxConcurrent

def Balanced (maxConcurrent : Nat) (state : AppState) (states : ι → Slot) : Prop :=
  ∃ holders : Finset ι, (∀ id, id ∈ holders ↔ states id = .holding) ∧
    Exact maxConcurrent state.limiter holders

theorem balanced_same {maxConcurrent : Nat} {state later : AppState} {states : ι → Slot} {id : ι}
    {slot : Slot} (balanced : Balanced maxConcurrent state states)
    (limiter : later.limiter = state.limiter) (same : slot = .holding ↔ states id = .holding) :
    Balanced maxConcurrent later (Function.update states id slot) := by
  obtain ⟨holders, listed, exact'⟩ := balanced
  refine ⟨holders, ?_, ?_⟩
  · intro other
    by_cases self : other = id
    · subst self
      rw [Function.update_self, same]
      exact listed other
    · rw [Function.update_of_ne self]
      exact listed other
  · rw [limiter]
    exact exact'

theorem balanced_acquire {maxConcurrent : Nat} {state : AppState} {states : ι → Slot} {id : ι}
    (balanced : Balanced maxConcurrent state states) (unasked : states id = .unasked) :
    Balanced maxConcurrent (middleware .tryAcquire state).2 (Function.update states id
      (slots.after (states id) MiddlewareOp.tryAcquire (middleware .tryAcquire state).1)) := by
  by_cases full : state.limiter.maxConcurrent ≤ state.limiter.inFlight
  · have refused : state.limiter.tryAcquire =
        (false, { state.limiter with rejectedTotal := state.limiter.rejectedTotal + 1 }) := by
      unfold ConcurrencyLimiter.tryAcquire
      rw [if_pos full]
    obtain ⟨holders, listed, limit, counted, bounded⟩ := balanced
    have outside : id ∉ holders := by
      rw [listed, unasked]
      decide
    refine ⟨holders, ?_, ?_⟩
    · intro other
      by_cases self : other = id
      · subst self
        simp [middleware, refused, slots, outside]
      · rw [Function.update_of_ne self]
        exact listed other
    · simp only [middleware, refused]
      exact ⟨limit, counted, bounded⟩
  · have acquired : state.limiter.tryAcquire =
        (true, { state.limiter with inFlight := state.limiter.inFlight + 1 }) := by
      unfold ConcurrencyLimiter.tryAcquire
      rw [if_neg full]
    obtain ⟨holders, listed, limit, counted, bounded⟩ := balanced
    have outside : id ∉ holders := by
      rw [listed, unasked]
      decide
    refine ⟨insert id holders, ?_, ?_⟩
    · intro other
      by_cases self : other = id
      · subst self
        simp [middleware, acquired, slots]
      · rw [Function.update_of_ne self, Finset.mem_insert, ← listed other]
        simp [self]
    · have grown := Finset.card_insert_of_notMem outside
      simp only [middleware, acquired]
      exact ⟨limit, by simp only [grown, counted], by simp only; omega⟩

theorem balanced_release {maxConcurrent : Nat} {state : AppState} {states : ι → Slot} {id : ι}
    (balanced : Balanced maxConcurrent state states) (holding : states id = .holding) :
    Balanced maxConcurrent (middleware .release state).2
      (Function.update states id .released) := by
  obtain ⟨holders, listed, limit, counted, bounded⟩ := balanced
  have inside : id ∈ holders := (listed id).2 holding
  refine ⟨holders.erase id, ?_, ?_⟩
  · intro other
    by_cases self : other = id
    · subst self
      simp
    · rw [Function.update_of_ne self, Finset.mem_erase, ← listed other]
      simp [self]
  · have shrunk := Finset.card_erase_of_mem inside
    simp only [middleware, ConcurrencyLimiter.release]
    exact ⟨limit, by simp only [shrunk, counted], by simp only; omega⟩

theorem balanced_step {maxConcurrent : Nat} {state : AppState} {states : ι → Slot} {id : ι}
    {op : Middleware.Op} (balanced : Balanced maxConcurrent state states)
    (allowed : slots.allowed (states id) op) :
    Balanced maxConcurrent (middleware op state).2 (Function.update states id
      (slots.after (states id) op (middleware op state).1)) := by
  cases op with
  | tryAcquire => exact balanced_acquire balanced allowed
  | release => exact balanced_release balanced allowed
  | _ => exact balanced_same balanced rfl Iff.rfl

/-- A server as it starts. -/
def startup (breaker : CircuitBreaker) (maxConcurrent : Int) (clock : Nat → ℚ)
    (outcomes : Nat → Outcome) : AppState where
  breaker := breaker
  limiter := ConcurrencyLimiter.new maxConcurrent
  clock := clock
  outcomes := outcomes

/-- The requests of a server after some of their calls, in the order given. -/
def served (state : AppState) (paths : ι → String) (schedule : List ι) :
    Pool Middleware AppState Escaped Handled ι :=
  exec middleware (start state fun id => handle (paths id)) schedule

/-- A request between its acquisition and its release. -/
def Holds (history : List (Event Middleware)) : Prop :=
  acquisitions history = 1 ∧ releases history = 0

theorem holds_iff {history : List (Event Middleware)} {slot : Slot}
    (recorded : Recorded history slot) : Holds history ↔ slot = .holding := by
  unfold Holds
  constructor
  · rintro ⟨got, kept⟩
    cases slot with
    | holding => rfl
    | unasked => exact absurd (got.symm.trans recorded.1) (by decide)
    | refused => exact absurd (got.symm.trans recorded.1) (by decide)
    | released => exact absurd (kept.symm.trans recorded.2) (by decide)
  · rintro rfl
    exact recorded

/-- The answer of a request that is over. -/
def handled? : Program Middleware Escaped Handled → Option Handled
  | .done answer => some answer
  | _ => none

/-- A request at its `try_acquire`, and `max_concurrent` others between theirs
and their release. -/
structure Full (maxConcurrent : Nat) (pool : Pool Middleware AppState Escaped Handled ι) (id : ι) :
    Prop where
  asking : pool.NextOp id MiddlewareOp.tryAcquire
  taken : ∃ others : Finset ι, id ∉ others ∧ others.card = maxConcurrent ∧
    ∀ other ∈ others, Holds (pool.history other)

/-- The limiter and its requests after a schedule: `in_flight` is the number of
requests between acquisition and release, within its limit, and its clamp is
not about to be used; each request got one slot at most and has given it back
if it is over; one that would find no slot is up against `max_concurrent`
others that hold one; and one that has been answered for capacity was at the
time of its own `try_acquire`. -/
structure Accounted (maxConcurrent : Nat) (state : AppState) (paths : ι → String)
    (schedule : List ι) : Prop where
  exact : ∃ holders : Finset ι,
    (∀ id, id ∈ holders ↔ Holds ((served state paths schedule).history id)) ∧
    (served state paths schedule).world.limiter.inFlight = holders.card
  limited : (served state paths schedule).world.limiter.inFlight ≤ maxConcurrent
  unclamped : ∀ id, (served state paths schedule).NextOp id MiddlewareOp.release →
    0 < (served state paths schedule).world.limiter.inFlight
  once : ∀ id, releases ((served state paths schedule).history id) ≤
      acquisitions ((served state paths schedule).history id) ∧
    acquisitions ((served state paths schedule).history id) ≤ 1
  returned : ∀ id, (served state paths schedule).upcoming? id = none →
    releases ((served state paths schedule).history id) =
      acquisitions ((served state paths schedule).history id)
  full : ∀ id, (served state paths schedule).NextOp id MiddlewareOp.tryAcquire →
    (served state paths schedule).world.limiter.tryAcquire.1 = false →
      Full maxConcurrent (served state paths schedule) id
  rejected : ∀ id, handled? ((served state paths schedule).rest id) = some .atCapacity →
    ∃ earlier later, schedule = earlier ++ id :: later ∧
      Full maxConcurrent (served state paths earlier) id

/-- What the contracts say of the requests after any schedule. -/
structure Ledger (maxConcurrent : Nat) (pool : Pool Middleware AppState Escaped Handled ι) :
    Prop where
  following : Following slots Settled (fun _ => .unasked) pool
  recorded : ∀ id, Recorded (pool.history id) (phase slots (fun _ => .unasked) pool id)
  balanced : Balanced maxConcurrent pool.world (phase slots (fun _ => .unasked) pool)

theorem ledger (breaker : CircuitBreaker) (maxConcurrent : Int) (clock : Nat → ℚ)
    (outcomes : Nat → Outcome) (paths : ι → String) (schedule : List ι) :
    Ledger (atLeastOne maxConcurrent)
      (served (startup breaker maxConcurrent clock outcomes) paths schedule) := by
  have begins : Following slots Settled (fun _ => .unasked)
      (start (startup breaker maxConcurrent clock outcomes) fun id => handle (paths id)) :=
    following_start fun id => obeys_handle (paths id)
  constructor
  · exact begins.exec slots_sound schedule
  · exact history_invariant slots_sound Recorded
      (fun history slot op answer allowed _ => recorded_step history slot op answer allowed)
      begins (fun _ => ⟨rfl, rfl⟩) schedule
  · refine exec_invariant slots_sound (Balanced (atLeastOne maxConcurrent)) (fun _ _ => True)
      (fun pool id op _ _ allowed holds => balanced_step holds allowed) begins ?_ schedule
      (along_of_forall middleware (fun _ _ => trivial) _ _)
    exact ⟨∅, by simp, rfl, rfl, Nat.zero_le _⟩

section Moment

omit [DecidableEq ι]

variable {maxConcurrent : Nat} {pool : Pool Middleware AppState Escaped Handled ι}

theorem Ledger.holders (ledger : Ledger maxConcurrent pool) :
    ∃ holders : Finset ι, (∀ id, id ∈ holders ↔ Holds (pool.history id)) ∧
      (∀ id, id ∈ holders ↔ phase slots (fun _ => .unasked) pool id = .holding) ∧
      Exact maxConcurrent pool.world.limiter holders := by
  obtain ⟨holders, listed, exact'⟩ := ledger.balanced
  refine ⟨holders, ?_, listed, exact'⟩
  intro id
  rw [listed id, holds_iff (ledger.recorded id)]

/-- `try_acquire` answers false to nobody else. -/
theorem Ledger.full (ledger : Ledger maxConcurrent pool) {id : ι}
    (next : pool.NextOp id MiddlewareOp.tryAcquire)
    (refused : pool.world.limiter.tryAcquire.1 = false) : Full maxConcurrent pool id := by
  obtain ⟨holders, holding, listed, limit, counted, bounded⟩ := ledger.holders
  have asks : phase slots (fun _ => .unasked) pool id = .unasked := ledger.following.allowed next
  have full : pool.world.limiter.maxConcurrent ≤ pool.world.limiter.inFlight := by
    unfold ConcurrencyLimiter.tryAcquire at refused
    by_contra room
    rw [if_neg room] at refused
    cases refused
  refine ⟨next, holders, ?_, ?_, fun other member => (holding other).1 member⟩
  · rw [listed id, asks]
    decide
  · omega

theorem Ledger.balance (ledger : Ledger maxConcurrent pool) (id : ι) :
    releases (pool.history id) ≤ acquisitions (pool.history id) ∧
      acquisitions (pool.history id) ≤ 1 := by
  have known := ledger.recorded id
  cases slot : phase slots (fun _ => .unasked) pool id with
  | refused =>
      rw [slot] at known
      have got := known.1
      have gave := known.2.1
      omega
  | _ =>
      rw [slot] at known
      have got := known.1
      have gave := known.2
      omega

theorem Ledger.ended (ledger : Ledger maxConcurrent pool) {id : ι}
    (ended : pool.upcoming? id = none) :
    releases (pool.history id) = acquisitions (pool.history id) := by
  have known := ledger.recorded id
  have settled := ledger.following id
  have nothing : phase slots (fun _ => .unasked) pool id ≠ .holding := by
    unfold upcoming? at ended
    cases rest : pool.rest id with
    | call op next =>
        rw [rest] at ended
        cases ended
    | done value =>
        rw [rest] at settled
        exact settled.1
    | fail error =>
        rw [rest] at settled
        exact settled.1
  cases slot : phase slots (fun _ => .unasked) pool id with
  | holding => exact absurd slot nothing
  | refused =>
      rw [slot] at known
      exact known.2.1.trans known.1.symm
  | _ =>
      rw [slot] at known
      exact known.2.trans known.1.symm

/-- The answer for capacity is that of a refused `try_acquire`. -/
theorem Ledger.refused (ledger : Ledger maxConcurrent pool) {id : ι}
    (answered : handled? (pool.rest id) = some .atCapacity) : refusal ∈ pool.history id := by
  have settled := ledger.following id
  have known := ledger.recorded id
  cases rest : pool.rest id with
  | call op next =>
      rw [rest] at answered
      cases answered
  | fail error =>
      rw [rest] at answered
      cases answered
  | done value =>
      rw [rest] at answered settled
      have capacity : value = .atCapacity := Option.some.inj answered
      subst capacity
      rw [settled.2.1 rfl] at known
      exact known.2.2

end Moment

/-- Back-pressure is accounted for at every moment, whatever the outcomes and
the order of the calls. -/
theorem back_pressure_exact (breaker : CircuitBreaker) (maxConcurrent : Int) (clock : Nat → ℚ)
    (outcomes : Nat → Outcome) (paths : ι → String) (schedule : List ι) :
    Accounted (atLeastOne maxConcurrent) (startup breaker maxConcurrent clock outcomes) paths
      schedule := by
  have now := ledger breaker maxConcurrent clock outcomes paths schedule
  obtain ⟨holders, holding, listed, limit, counted, bounded⟩ := now.holders
  refine ⟨⟨holders, holding, counted⟩, bounded, ?_, now.balance, fun _ => now.ended,
    fun _ => now.full, ?_⟩
  · intro id next
    have held : phase slots (fun _ => .unasked) _ id = .holding := now.following.allowed next
    have inside : id ∈ holders := (listed id).2 held
    rw [counted]
    exact Finset.card_pos.2 ⟨id, inside⟩
  · intro id answered
    have performed := now.refused answered
    obtain ⟨earlier, later, split, next, refused⟩ :=
      performed_at middleware List.not_mem_nil performed
    refine ⟨earlier, later, split, ?_⟩
    exact (ledger breaker maxConcurrent clock outcomes paths earlier).full next refused.symm

/-- With one slot, a second request is turned away while the first holds it. -/
theorem second_request_turned_away :
    Accounted 1 (startup (.new 5 2 30 1) 1 (fun _ => 0) fun _ => .returned (some 200))
        (fun _ : Bool => "/oauth/token") [true, true, true, false, false] ∧
      Holds ((served (startup (.new 5 2 30 1) 1 (fun _ => 0) fun _ => .returned (some 200))
        (fun _ : Bool => "/oauth/token") [true, true, true, false, false]).history true) ∧
      handled? ((served (startup (.new 5 2 30 1) 1 (fun _ => 0) fun _ => .returned (some 200))
        (fun _ : Bool => "/oauth/token") [true, true, true, false, false]).rest false) =
          some .atCapacity := by
  constructor
  · exact back_pressure_exact (.new 5 2 30 1) 1 (fun _ => 0) _ _ _
  · constructor
    · exact ⟨by decide +kernel, by decide +kernel⟩
    · decide +kernel

/-! ### Without interruption

`Gateway.admitRequest` and `Gateway.finish` are the two halves of the program,
each run without a break. -/

abbrev appStateOf (gateway : Gateway ι) (clock : Nat → ℚ) (outcomes : Nat → Outcome) :
    AppState where
  breaker := gateway.breaker
  limiter := gateway.limiter
  clock := clock
  outcomes := outcomes

section Alone

variable {α : Type} (state : AppState)

theorem run_state (rest : CircuitState → Program Middleware Escaped α) :
    (circuitState >>= rest).run middleware state =
      (rest (state.breaker.state (state.clock state.readings)).current).run middleware
        { state with
          breaker := state.breaker.state (state.clock state.readings)
          readings := state.readings + 1 } := rfl

theorem run_acquire (rest : Bool → Program Middleware Escaped α) :
    (tryAcquire >>= rest).run middleware state =
      (rest state.limiter.tryAcquire.1).run middleware
        { state with limiter := state.limiter.tryAcquire.2 } := rfl

theorem run_allow (rest : Bool → Program Middleware Escaped α) :
    (allowRequest >>= rest).run middleware state =
      (rest (state.breaker.allowRequest (state.clock state.readings)).1).run middleware
        { state with
          breaker := (state.breaker.allowRequest (state.clock state.readings)).2
          readings := state.readings + 1 } := rfl

theorem run_release (rest : Unit → Program Middleware Escaped α) :
    (release >>= rest).run middleware state =
      (rest ()).run middleware { state with limiter := state.limiter.release } := rfl

end Alone

omit [DecidableEq ι] in
theorem admit_eq_enter (gateway : Gateway ι) (id : ι) (clock : Nat → ℚ)
    (outcomes : Nat → Outcome) :
    ∃ entered later, enter.run middleware (appStateOf gateway clock outcomes) =
        (.ok entered, later) ∧
      gateway.admitRequest id clock =
        { breaker := later.breaker
          limiter := later.limiter
          running := gateway.running ++ match entered with
            | .ok isProbe => [⟨id, isProbe, later.breaker.halfOpenings⟩]
            | .error _ => [] } := by
  have unchanged : gateway.running ++ [] = gateway.running := List.append_nil _
  unfold enter Gateway.admitRequest
  rw [run_state]
  dsimp only [appStateOf]
  by_cases opened : ((gateway.breaker.state (clock 0)).current == .opened) = true
  · rw [if_pos opened, if_pos opened, run_state]
    refine ⟨_, _, rfl, ?_⟩
    rw [unchanged]
  · rw [if_neg opened, if_neg opened, run_acquire]
    dsimp only
    by_cases full : (!gateway.limiter.tryAcquire.1) = true
    · rw [if_pos full, if_pos full]
      refine ⟨_, _, rfl, ?_⟩
      rw [unchanged]
    · rw [if_neg full, if_neg full, run_state]
      dsimp only
      by_cases half : (((gateway.breaker.state (clock 0)).state (clock 1)).current ==
          .halfOpen) = true
      · rw [if_pos half, if_pos half, run_allow]
        dsimp only
        by_cases refused : (!(((gateway.breaker.state (clock 0)).state (clock 1)).allowRequest
            (clock 2)).1) = true
        · rw [if_pos refused, if_pos refused, run_release, run_state]
          refine ⟨_, _, rfl, ?_⟩
          rw [unchanged]
        · rw [if_neg refused, if_neg refused]
          exact ⟨_, _, rfl, rfl⟩
      · rw [if_neg half, if_neg half]
        exact ⟨_, _, rfl, rfl⟩

theorem run_record (counts failed : Bool) (state : AppState) :
    (recordOutcome counts failed).run middleware state = (.ok (),
      { state with
        breaker :=
          if counts then
            if failed then
              state.breaker.recordFailure (state.clock state.readings)
                (state.clock (state.readings + 1))
            else state.breaker.recordSuccess (state.clock state.readings)
          else state.breaker
        readings := state.readings + if counts then if failed then 2 else 1 else 0 }) := by
  cases counts <;> cases failed <;> rfl

/-- The readings are numbered differently, which is all the same to a clock
that may show any time at any reading. -/
theorem run_account (isProbe failed : Bool) (state : AppState) :
    ∃ clock later, (account isProbe failed).run middleware state = (.ok (), later) ∧
      later.limiter = state.limiter ∧
      later.breaker = record isProbe failed clock state.breaker := by
  let current := (state.breaker.state (state.clock state.readings)).current
  let last := state.readings + 1 +
    if current == .closed || isProbe then if failed then 2 else 1 else 0
  refine ⟨fun reading => if reading = 3 then state.clock last
    else state.clock (state.readings + reading), ?_⟩
  unfold account
  rw [run_state, run_bind, run_record]
  exact ⟨_, rfl, rfl, rfl⟩

theorem finish_eq_conclude (gateway : Gateway ι) (request : Running ι) (outcome : Outcome)
    (clock : Nat → ℚ) (outcomes : Nat → Outcome)
    (found : (gateway.running.find? fun other => other.id == request.id) = some request) :
    ∃ readings ended later, (conclude request.isProbe outcome).run middleware
        (appStateOf gateway clock outcomes) = (ended, later) ∧
      gateway.finish request.id outcome readings =
        { breaker := later.breaker
          limiter := later.limiter
          running := gateway.running.filter fun other => other.id != request.id } := by
  unfold Gateway.finish
  rw [found]
  cases outcome with
  | cancelled => exact ⟨clock, _, _, rfl, rfl⟩
  | raised =>
      obtain ⟨readings, later, ran, limiter, breaker⟩ := run_account request.isProbe true
        (appStateOf gateway clock outcomes)
      have whole : (conclude request.isProbe .raised).run middleware
          (appStateOf gateway clock outcomes) =
          (.error .exception, { later with limiter := later.limiter.release }) := by
        change (account request.isProbe true >>= _).run _ _ = _
        rw [run_bind, ran]
        rfl
      refine ⟨readings, _, _, whole, ?_⟩
      dsimp only
      rw [limiter, breaker]
      rfl
  | returned status =>
      obtain ⟨readings, later, ran, limiter, breaker⟩ := run_account request.isProbe
        (Outcome.returned status).failed
        { appStateOf gateway clock outcomes with limiter := gateway.limiter.release }
      have whole : (conclude request.isProbe (.returned status)).run middleware
          (appStateOf gateway clock outcomes) = (.ok .answered, later) := by
        change (account request.isProbe _ >>= _).run middleware
          { appStateOf gateway clock outcomes with limiter := gateway.limiter.release } = _
        rw [run_bind, ran]
        rfl
      refine ⟨readings, _, _, whole, ?_⟩
      rw [limiter, breaker]
      rfl

end Pool

end OAuth2Server.BackPressure
