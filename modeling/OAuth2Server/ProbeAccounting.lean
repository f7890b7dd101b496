import OAuth2Server.Resilience
import Mathlib.Data.List.Nodup

/-!
# The probe slots of a half-open breaker

A slot is taken when a probe is admitted and given back when its outcome is
recorded. Two things break the count: a cancelled probe records no outcome, and
a probe that outlives its round gives back a slot of the next one. The count is
right in every state of a run exactly when neither happens.
-/

namespace OAuth2Server.ProbeAccounting

open OAuth2Server Resilience CircuitBreaker

set_option autoImplicit false

section Breaker

variable {breaker : CircuitBreaker} {now opened : ℚ} {bound : Nat}

/-- Reading the state changes nothing, or opens a round. -/
theorem state_cases (now : ℚ) (breaker : CircuitBreaker) :
    breaker.state now = breaker ∨
      breaker.current = .opened ∧ breaker.state now =
        { breaker with
          current := .halfOpen
          probesInUse := 0
          consecutiveSuccesses := 0
          halfOpenings := breaker.halfOpenings + 1 } := by
  unfold CircuitBreaker.state
  extract_lets elapsed
  split
  · rename_i due
    simp only [Bool.and_eq_true, beq_iff_eq] at due
    exact .inr ⟨due.1, rfl⟩
  · exact .inl rfl

theorem state_unopened (unopened : breaker.current ≠ .opened) : breaker.state now = breaker := by
  rcases state_cases now breaker with same | ⟨opened, _⟩
  · exact same
  · exact absurd opened unopened

/-- The breaker has had at least `bound` rounds, and if it is half-open, it is
in a later one in which no slot is taken. -/
structure Unprobed (bound : Nat) (breaker : CircuitBreaker) : Prop where
  rounds : bound ≤ breaker.halfOpenings
  fresh : breaker.current = .halfOpen → breaker.probesInUse = 0 ∧ bound < breaker.halfOpenings

theorem unprobed_outside (outside : breaker.current ≠ .halfOpen)
    (rounds : bound ≤ breaker.halfOpenings) : Unprobed bound breaker :=
  ⟨rounds, fun inside => absurd inside outside⟩

theorem Unprobed.state (unprobed : Unprobed bound breaker) (now : ℚ) :
    Unprobed bound (breaker.state now) := by
  rcases state_cases now breaker with same | ⟨_, changed⟩
  · rw [same]
    exact unprobed
  · rw [changed]
    have rounds := unprobed.rounds
    exact ⟨Nat.le_succ_of_le rounds, fun _ => ⟨rfl, Nat.lt_succ_of_le rounds⟩⟩

/-- Recording a failure ends the round. -/
theorem failure_unprobed (rounds : bound ≤ breaker.halfOpenings) :
    Unprobed bound (breaker.recordFailure now opened) := by
  have later : bound ≤ (breaker.state now).halfOpenings := by
    rcases state_cases now breaker with same | ⟨_, changed⟩
    · rw [same]
      exact rounds
    · rw [changed]
      exact Nat.le_succ_of_le rounds
  unfold recordFailure
  extract_lets read counted
  cases current : read.current with
  | closed =>
      dsimp only
      split
      · exact unprobed_outside (by simp [trip]) later
      · exact unprobed_outside (by simp [counted, current]) later
  | opened => exact unprobed_outside (by simp [current]) later
  | halfOpen => exact unprobed_outside (by simp [trip]) later

theorem Unprobed.success (unprobed : Unprobed bound breaker) :
    Unprobed bound (breaker.recordSuccess now) := by
  have read := unprobed.state now
  unfold recordSuccess
  extract_lets later released
  cases current : later.current with
  | closed => exact unprobed_outside (by simp) read.rounds
  | opened => exact unprobed_outside (by simp [current]) read.rounds
  | halfOpen =>
      obtain ⟨idle, after⟩ := read.fresh current
      dsimp only
      split
      · exact unprobed_outside (by simp [CircuitBreaker.close]) read.rounds
      · exact ⟨read.rounds, fun _ => ⟨by simp [released, later, idle], after⟩⟩

/-- Outside a round an outcome leaves no slot taken. -/
theorem Unprobed.record {isProbe failed : Bool} {clock : Nat → ℚ}
    (unprobed : Unprobed bound breaker) : Unprobed bound (record isProbe failed clock breaker) := by
  have read := unprobed.state (clock 0)
  unfold Resilience.record
  extract_lets later recorded
  have outcome : Unprobed bound recorded := by
    unfold recorded
    split
    · split
      · exact failure_unprobed read.rounds
      · exact read.success
    · exact read
  exact outcome.state _

/-- No operation changes a knob or takes back a round. -/
structure Continues (breaker later : CircuitBreaker) : Prop where
  knob : later.halfOpenMaxProbes = breaker.halfOpenMaxProbes
  rounds : breaker.halfOpenings ≤ later.halfOpenings

theorem Continues.trans {first second third : CircuitBreaker} (earlier : Continues first second)
    (later : Continues second third) : Continues first third :=
  ⟨later.knob.trans earlier.knob, earlier.rounds.trans later.rounds⟩

theorem state_continues (now : ℚ) (breaker : CircuitBreaker) :
    Continues breaker (breaker.state now) := by
  rcases state_cases now breaker with same | ⟨_, changed⟩
  · rw [same]
    exact ⟨rfl, le_refl _⟩
  · rw [changed]
    exact ⟨rfl, Nat.le_succ _⟩

theorem success_continues (now : ℚ) (breaker : CircuitBreaker) :
    Continues breaker (breaker.recordSuccess now) := by
  refine (state_continues now breaker).trans ?_
  unfold recordSuccess
  extract_lets later released
  cases later.current with
  | closed => exact ⟨rfl, le_refl _⟩
  | opened => exact ⟨rfl, le_refl _⟩
  | halfOpen =>
      dsimp only
      split <;> exact ⟨rfl, le_refl _⟩

theorem failure_continues (now opened : ℚ) (breaker : CircuitBreaker) :
    Continues breaker (breaker.recordFailure now opened) := by
  refine (state_continues now breaker).trans ?_
  unfold recordFailure
  extract_lets later counted
  cases later.current with
  | opened => exact ⟨rfl, le_refl _⟩
  | halfOpen => exact ⟨rfl, le_refl _⟩
  | closed =>
      dsimp only
      split <;> exact ⟨rfl, le_refl _⟩

theorem record_continues (isProbe failed : Bool) (clock : Nat → ℚ) (breaker : CircuitBreaker) :
    Continues breaker (record isProbe failed clock breaker) := by
  unfold Resilience.record
  extract_lets later recorded
  have outcome : Continues later recorded := by
    unfold recorded
    split
    · split
      · exact failure_continues _ _ _
      · exact success_continues _ _
    · exact ⟨rfl, le_refl _⟩
  exact ((state_continues _ _).trans outcome).trans (state_continues _ _)

end Breaker

/-! ### Probes on duty -/

section Gateway

variable {ι : Type}

/-- The request is a probe of the round. -/
def onDuty (round : Nat) (request : Running ι) : Bool := request.isProbe && request.round == round

/-- Probes admitted since the breaker last became half-open and not finished. -/
def probesOnDuty (gateway : Gateway ι) : Nat :=
  gateway.running.countP (onDuty gateway.breaker.halfOpenings)

/-- In a half-open round the slots taken are those of the probes on duty, at
most the permitted number; all taken means that a probe is running. -/
structure Accounted (gateway : Gateway ι) : Prop where
  counted : gateway.breaker.current = .halfOpen →
    gateway.breaker.probesInUse = probesOnDuty gateway
  bounded : gateway.breaker.current = .halfOpen →
    probesOnDuty gateway ≤ gateway.breaker.halfOpenMaxProbes
  unstuck : gateway.breaker.current = .halfOpen →
    gateway.breaker.halfOpenMaxProbes ≤ gateway.breaker.probesInUse →
      ∃ request ∈ gateway.running, onDuty gateway.breaker.halfOpenings request = true

/-- What holds of every gateway, whatever happens to it. -/
structure WellFormed (gateway : Gateway ι) : Prop where
  ids : (gateway.running.map Running.id).Nodup
  rounds : ∀ request ∈ gateway.running, request.round ≤ gateway.breaker.halfOpenings
  knob : 0 < gateway.breaker.halfOpenMaxProbes

theorem none_on_duty {gateway : Gateway ι} {bound : Nat}
    (rounds : ∀ request ∈ gateway.running, request.round ≤ bound)
    (later : bound < gateway.breaker.halfOpenings) : probesOnDuty gateway = 0 := by
  unfold probesOnDuty
  rw [List.countP_eq_zero]
  intro request member duty
  have earlier := rounds request member
  simp only [onDuty, Bool.and_eq_true, beq_iff_eq] at duty
  omega

theorem accounted_outside {gateway : Gateway ι} (outside : gateway.breaker.current ≠ .halfOpen) :
    Accounted gateway :=
  ⟨fun inside => absurd inside outside, fun inside => absurd inside outside,
    fun inside => absurd inside outside⟩

/-- The third part follows from the first. -/
theorem accounted_inside {gateway : Gateway ι} (knob : 0 < gateway.breaker.halfOpenMaxProbes)
    (counted : gateway.breaker.probesInUse = probesOnDuty gateway)
    (bounded : gateway.breaker.probesInUse ≤ gateway.breaker.halfOpenMaxProbes) :
    Accounted gateway := by
  refine ⟨fun _ => counted, fun _ => by omega, ?_⟩
  intro _ full
  have some : 0 < probesOnDuty gateway := by omega
  exact List.countP_pos_iff.1 some

theorem accounted_unprobed {gateway : Gateway ι} {bound : Nat}
    (knob : 0 < gateway.breaker.halfOpenMaxProbes)
    (rounds : ∀ request ∈ gateway.running, request.round ≤ bound)
    (unprobed : Unprobed bound gateway.breaker) : Accounted gateway := by
  by_cases inside : gateway.breaker.current = .halfOpen
  · obtain ⟨idle, later⟩ := unprobed.fresh inside
    refine accounted_inside knob ?_ (by omega)
    rw [idle, none_on_duty rounds later]
  · exact accounted_outside inside

/-! ### Admission -/

/-- Reading the state keeps the count right. -/
theorem Accounted.state {gateway : Gateway ι} (accounted : Accounted gateway)
    (formed : WellFormed gateway) (now : ℚ) :
    Accounted { gateway with breaker := gateway.breaker.state now } := by
  rcases state_cases now gateway.breaker with same | ⟨outside, changed⟩
  · rw [same]
    exact accounted
  · rw [changed]
    have later := Nat.lt_succ_self gateway.breaker.halfOpenings
    refine accounted_inside formed.knob ?_ (Nat.zero_le _)
    symm
    refine none_on_duty ?_ later
    exact formed.rounds

theorem WellFormed.state {gateway : Gateway ι} (formed : WellFormed gateway) (now : ℚ) :
    WellFormed { gateway with breaker := gateway.breaker.state now } := by
  rcases state_cases now gateway.breaker with same | ⟨_, changed⟩
  · rw [same]
    exact formed
  · rw [changed]
    exact ⟨formed.ids, fun request member => Nat.le_succ_of_le (formed.rounds request member),
      formed.knob⟩

theorem allow_half_open {breaker : CircuitBreaker} (inside : breaker.current = .halfOpen) (now : ℚ) :
    breaker.allowRequest now =
      if breaker.halfOpenMaxProbes ≤ breaker.probesInUse then (false, breaker)
      else (true, { breaker with probesInUse := breaker.probesInUse + 1 }) := by
  unfold allowRequest
  rw [state_unopened (by simp [inside])]
  simp only [inside]

/-- After a reading of the state, a request is refused, admitted under a closed
breaker, or admitted as a probe. -/
theorem admit_cases (gateway : Gateway ι) (id : ι) (clock : Nat → ℚ) :
    (∃ later limiter, gateway.admitRequest id clock =
      { gateway with
        breaker := (gateway.breaker.state (clock 0)).state later
        limiter := limiter }) ∨
    (∃ limiter, (gateway.breaker.state (clock 0)).current = .closed ∧ gateway.admitRequest id clock =
      { breaker := gateway.breaker.state (clock 0)
        limiter := limiter
        running := gateway.running ++
          [⟨id, false, (gateway.breaker.state (clock 0)).halfOpenings⟩] }) ∨
    (∃ limiter, (gateway.breaker.state (clock 0)).current = .halfOpen ∧
      (gateway.breaker.state (clock 0)).probesInUse <
        (gateway.breaker.state (clock 0)).halfOpenMaxProbes ∧
      gateway.admitRequest id clock =
        { breaker := { gateway.breaker.state (clock 0) with
            probesInUse := (gateway.breaker.state (clock 0)).probesInUse + 1 }
          limiter := limiter
          running := gateway.running ++
            [⟨id, true, (gateway.breaker.state (clock 0)).halfOpenings⟩] }) := by
  unfold Gateway.admitRequest
  generalize gateway.breaker.state (clock 0) = breaker
  generalize gateway.limiter.tryAcquire = acquisition
  obtain ⟨acquired, limiter⟩ := acquisition
  by_cases open_ : breaker.current = .opened
  · left
    exact ⟨clock 1, gateway.limiter, by simp [open_]⟩
  · have still : ∀ now, breaker.state now = breaker := fun now => state_unopened open_
    cases acquired with
    | false =>
        left
        exact ⟨0, limiter, by simp [open_, still]⟩
    | true =>
        cases current : breaker.current with
        | opened => exact absurd current open_
        | closed =>
            right; left
            exact ⟨limiter, rfl, by simp [current, still]⟩
        | halfOpen =>
            by_cases full : breaker.halfOpenMaxProbes ≤ breaker.probesInUse
            · left
              exact ⟨clock 3, limiter.release, by simp [current, still, allow_half_open, full]⟩
            · right; right
              exact ⟨limiter, rfl, by omega, by simp [current, still, allow_half_open, full]⟩

/-- The ids of the requests inside the application stay distinct. -/
theorem ids_extend {running : List (Running ι)} (ids : (running.map Running.id).Nodup)
    {request : Running ι} (new : ∀ other ∈ running, other.id ≠ request.id) :
    ((running ++ [request]).map Running.id).Nodup := by
  rw [List.map_append, List.map_singleton, List.nodup_append]
  refine ⟨ids, by simp, ?_⟩
  intro id member other added
  obtain ⟨held, present, rfl⟩ := List.mem_map.1 member
  rw [List.mem_singleton.1 added]
  exact new held present

theorem admit_accounted {gateway : Gateway ι} {id : ι} (clock : Nat → ℚ)
    (formed : WellFormed gateway) (new : ∀ other ∈ gateway.running, other.id ≠ id) :
    WellFormed (gateway.admitRequest id clock) ∧
      (Accounted gateway → Accounted (gateway.admitRequest id clock)) := by
  have read := formed.state (clock 0)
  rcases admit_cases gateway id clock with ⟨later, limiter, admitted⟩ | ⟨limiter, closed, admitted⟩ |
    ⟨limiter, inside, free, admitted⟩
  · rw [admitted]
    refine ⟨?_, fun accounted => ?_⟩
    · have again := read.state later
      exact ⟨again.ids, again.rounds, again.knob⟩
    · have again := (accounted.state formed (clock 0)).state read later
      exact ⟨again.counted, again.bounded, again.unstuck⟩
  · rw [admitted]
    refine ⟨⟨ids_extend formed.ids new, ?_, read.knob⟩, fun _ => ?_⟩
    · intro request member
      rcases List.mem_append.1 member with old | added
      · exact read.rounds request old
      · rw [List.mem_singleton.1 added]
    · exact accounted_outside (by simp [closed])
  · rw [admitted]
    refine ⟨⟨ids_extend formed.ids new, ?_, read.knob⟩, fun accounted => ?_⟩
    · intro request member
      rcases List.mem_append.1 member with old | added
      · exact read.rounds request old
      · rw [List.mem_singleton.1 added]
    · have counted := (accounted.state formed (clock 0)).counted inside
      refine accounted_inside read.knob ?_ free
      unfold probesOnDuty at counted ⊢
      dsimp only at counted ⊢
      rw [List.countP_append, counted]
      simp [onDuty]

/-! ### The end of a request -/

variable [DecidableEq ι]

theorem WellFormed.leave {gateway : Gateway ι} (formed : WellFormed gateway) (id : ι) :
    WellFormed (gateway.leave id) := by
  have fewer : ((gateway.leave id).running.map Running.id).Sublist
      (gateway.running.map Running.id) := List.filter_sublist.map Running.id
  refine ⟨formed.ids.sublist fewer, ?_, formed.knob⟩
  intro request member
  exact formed.rounds request (List.mem_filter.1 member).1

/-- One request leaves: the probes on duty are fewer by one if it was one. -/
theorem leave_on_duty {gateway : Gateway ι} (formed : WellFormed gateway) {request : Running ι}
    (member : request ∈ gateway.running) :
    probesOnDuty gateway = probesOnDuty (gateway.leave request.id) +
      if onDuty gateway.breaker.halfOpenings request then 1 else 0 := by
  have ids := formed.ids
  unfold probesOnDuty Gateway.leave
  dsimp only
  generalize gateway.running = running at ids member
  generalize gateway.breaker.halfOpenings = round
  induction running with
  | nil => cases member
  | cons head rest induction =>
      rw [List.map_cons, List.nodup_cons] at ids
      rw [List.countP_cons]
      by_cases here : head.id = request.id
      · have absent : ∀ other ∈ rest, (other.id != request.id) = true := by
          intro other present
          simp only [bne_iff_ne]
          rintro same
          refine ids.1 ?_
          rw [here, ← same]
          exact List.mem_map_of_mem present
        have same : head = request := by
          rcases List.mem_cons.1 member with equal | later
          · exact equal.symm
          · have distinct := absent request later
            simp at distinct
        have dropped : ((head :: rest).filter fun other => other.id != request.id) = rest := by
          rw [List.filter_cons]
          simp only [here, bne_self_eq_false, Bool.false_eq_true, if_false]
          exact List.filter_eq_self.2 absent
        rw [dropped, same]
      · have later : request ∈ rest := by
          rcases List.mem_cons.1 member with equal | later
          · exact absurd (by rw [equal]) here
          · exact later
        have kept : (head.id != request.id) = true := by simpa using here
        rw [List.filter_cons, if_pos kept, List.countP_cons, induction ids.2 later]
        omega

/-- A probe of the round the breaker is in is cancelled. -/
def Abandons (gateway : Gateway ι) (request : Running ι) (outcome : Outcome) : Prop :=
  outcome = .cancelled ∧ gateway.breaker.current = .halfOpen ∧
    onDuty gateway.breaker.halfOpenings request = true

/-- A probe of an earlier round succeeds while slots of this one are taken, and
its success does not close the breaker. -/
def Overstays (gateway : Gateway ι) (request : Running ι) (outcome : Outcome) : Prop :=
  outcome.failed = false ∧ gateway.breaker.current = .halfOpen ∧ request.isProbe = true ∧
    request.round ≠ gateway.breaker.halfOpenings ∧ 0 < gateway.breaker.probesInUse ∧
      gateway.breaker.consecutiveSuccesses + 1 < gateway.breaker.successThreshold

def Clean (gateway : Gateway ι) : Event ι → Prop
  | .arrive _ _ _ => True
  | .finish id outcome _ => ∀ request ∈ gateway.running, request.id = id →
      ¬Abandons gateway request outcome ∧ ¬Overstays gateway request outcome

theorem cancel_accounted_iff {gateway : Gateway ι} {request : Running ι}
    (formed : WellFormed gateway) (accounted : Accounted gateway)
    (member : request ∈ gateway.running) :
    Accounted (gateway.leave request.id) ↔ ¬Abandons gateway request .cancelled := by
  have fewer := leave_on_duty formed member
  by_cases inside : gateway.breaker.current = .halfOpen
  · have counted := accounted.counted inside
    have bounded := accounted.bounded inside
    cases duty : onDuty gateway.breaker.halfOpenings request with
    | true =>
        rw [duty, if_pos rfl] at fewer
        refine iff_of_false ?_ (not_not_intro ⟨rfl, inside, duty⟩)
        intro after
        have recounted : gateway.breaker.probesInUse = probesOnDuty (gateway.leave request.id) :=
          after.counted inside
        omega
    | false =>
        rw [duty, if_neg (by simp)] at fewer
        have present : Accounted (gateway.leave request.id) := by
          have recounted : gateway.breaker.probesInUse = probesOnDuty (gateway.leave request.id) := by
            omega
          have within : gateway.breaker.probesInUse ≤ gateway.breaker.halfOpenMaxProbes := by omega
          exact accounted_inside formed.knob recounted within
        refine iff_of_true present ?_
        rintro ⟨_, _, probing⟩
        rw [duty] at probing
        cases probing
  · refine iff_of_true (accounted_outside inside) ?_
    exact fun abandons => inside abandons.2.1

theorem success_half_open {breaker : CircuitBreaker} (inside : breaker.current = .halfOpen)
    (now : ℚ) :
    (breaker.recordSuccess now).current ≠ .halfOpen ∧
        breaker.successThreshold ≤ breaker.consecutiveSuccesses + 1 ∧
        (breaker.recordSuccess now).halfOpenings = breaker.halfOpenings ∨
      breaker.consecutiveSuccesses + 1 < breaker.successThreshold ∧ breaker.recordSuccess now =
        { breaker with
          probesInUse := breaker.probesInUse - 1
          consecutiveSuccesses := breaker.consecutiveSuccesses + 1 } := by
  unfold recordSuccess
  rw [state_unopened (by simp [inside])]
  simp only [inside]
  by_cases enough : breaker.successThreshold ≤ breaker.consecutiveSuccesses + 1
  · left
    rw [if_pos enough]
    exact ⟨by simp [CircuitBreaker.close], enough, rfl⟩
  · right
    rw [if_neg enough]
    exact ⟨by omega, rfl⟩

/-- An outcome recorded outside a round, or one that ends the round. -/
theorem recorded_unprobed {gateway : Gateway ι} (formed : WellFormed gateway) {id : ι}
    {breaker : CircuitBreaker} (knob : 0 < breaker.halfOpenMaxProbes)
    (unprobed : Unprobed gateway.breaker.halfOpenings breaker) :
    Accounted { gateway.leave id with breaker := breaker } := by
  refine accounted_unprobed knob ?_ unprobed
  intro request member
  exact formed.rounds request (List.mem_filter.1 member).1

/-- A probe that succeeds gives back one slot. -/
theorem success_accounted_iff {gateway : Gateway ι} {request : Running ι}
    (formed : WellFormed gateway) (accounted : Accounted gateway)
    (member : request ∈ gateway.running) (inside : gateway.breaker.current = .halfOpen)
    (probe : request.isProbe = true) {outcome : Outcome} (succeeded : outcome.failed = false)
    (now later : ℚ) :
    Accounted { gateway.leave request.id with
        breaker := (gateway.breaker.recordSuccess now).state later } ↔
      ¬Overstays gateway request outcome := by
  rcases success_half_open inside now with ⟨closes, enough, rounds⟩ | ⟨more, released⟩
  · have unprobed : Unprobed gateway.breaker.halfOpenings
        ((gateway.breaker.recordSuccess now).state later) :=
      (unprobed_outside closes (le_of_eq rounds.symm)).state later
    have knob : 0 < ((gateway.breaker.recordSuccess now).state later).halfOpenMaxProbes := by
      rw [((success_continues now _).trans (state_continues later _)).knob]
      exact formed.knob
    refine iff_of_true (recorded_unprobed formed knob unprobed) ?_
    rintro ⟨_, _, _, _, _, short⟩
    omega
  · have counted := accounted.counted inside
    have bounded := accounted.bounded inside
    have fewer := leave_on_duty formed member
    rw [released, state_unopened (by simp [inside])]
    cases duty : onDuty gateway.breaker.halfOpenings request with
    | true =>
        rw [duty, if_pos rfl] at fewer
        have present : Accounted { gateway.leave request.id with
            breaker := { gateway.breaker with
              probesInUse := gateway.breaker.probesInUse - 1
              consecutiveSuccesses := gateway.breaker.consecutiveSuccesses + 1 } } := by
          refine accounted_inside formed.knob ?_ ?_
          · change gateway.breaker.probesInUse - 1 = probesOnDuty (gateway.leave request.id)
            omega
          · change gateway.breaker.probesInUse - 1 ≤ gateway.breaker.halfOpenMaxProbes
            omega
        refine iff_of_true present ?_
        rintro ⟨_, _, _, earlier, _⟩
        simp only [onDuty, Bool.and_eq_true, beq_iff_eq] at duty
        exact earlier duty.2
    | false =>
        rw [duty, if_neg (by simp)] at fewer
        have earlier : request.round ≠ gateway.breaker.halfOpenings := by
          simpa [onDuty, probe] using duty
        constructor
        · rintro after ⟨_, _, _, _, taken, _⟩
          have recounted : gateway.breaker.probesInUse - 1 =
            probesOnDuty (gateway.leave request.id) := after.counted inside
          omega
        · intro kept
          have idle : gateway.breaker.probesInUse = 0 := by
            by_contra taken
            exact kept ⟨succeeded, inside, probe, earlier, by omega, more⟩
          refine accounted_inside formed.knob ?_ ?_
          · change gateway.breaker.probesInUse - 1 = probesOnDuty (gateway.leave request.id)
            omega
          · change gateway.breaker.probesInUse - 1 ≤ gateway.breaker.halfOpenMaxProbes
            omega

theorem record_accounted_iff {gateway : Gateway ι} {request : Running ι}
    (formed : WellFormed gateway) (accounted : Accounted gateway)
    (member : request ∈ gateway.running) {outcome : Outcome} (clock : Nat → ℚ) :
    Accounted { gateway.leave request.id with
        breaker := record request.isProbe outcome.failed clock gateway.breaker } ↔
      ¬Overstays gateway request outcome := by
  have knob : 0 < (record request.isProbe outcome.failed clock
      gateway.breaker).halfOpenMaxProbes := by
    rw [(record_continues _ _ _ _).knob]
    exact formed.knob
  by_cases inside : gateway.breaker.current = .halfOpen
  case neg =>
    have unprobed : Unprobed gateway.breaker.halfOpenings gateway.breaker :=
      unprobed_outside inside (le_refl _)
    refine iff_of_true (recorded_unprobed formed knob unprobed.record) ?_
    exact fun overstays => inside overstays.2.1
  case pos =>
    have still : ∀ now, gateway.breaker.state now = gateway.breaker :=
      fun now => state_unopened (by simp [inside])
    cases probe : request.isProbe with
    | false =>
        -- an outcome of a request admitted under a closed breaker is dropped
        have dropped : record false outcome.failed clock gateway.breaker = gateway.breaker := by
          simp [Resilience.record, still, inside]
        have offDuty : ¬Abandons gateway request .cancelled := by
          rintro ⟨_, _, probing⟩
          simp [onDuty, probe] at probing
        have left := (cancel_accounted_iff formed accounted member).2 offDuty
        rw [dropped]
        refine iff_of_true left ?_
        rintro ⟨_, _, probing, _⟩
        rw [probe] at probing
        cases probing
    | true =>
        rw [probe] at knob
        cases failed : outcome.failed with
        | true =>
            have ended : record true true clock gateway.breaker =
                (gateway.breaker.recordFailure (clock 1) (clock 2)).state (clock 3) := by
              simp [Resilience.record, still]
            have unprobed : Unprobed gateway.breaker.halfOpenings
                (record true true clock gateway.breaker) := by
              rw [ended]
              exact (failure_unprobed (le_refl _)).state _
            rw [failed] at knob
            refine iff_of_true (recorded_unprobed formed knob unprobed) ?_
            rintro ⟨succeeded, _⟩
            rw [failed] at succeeded
            cases succeeded
        | false =>
            have ended : record true false clock gateway.breaker =
                (gateway.breaker.recordSuccess (clock 1)).state (clock 3) := by
              simp [Resilience.record, still]
            rw [ended]
            exact success_accounted_iff formed accounted member inside probe failed _ _

/-! ### Runs -/

theorem finish_accounted {gateway : Gateway ι} (formed : WellFormed gateway)
    (accounted : Accounted gateway) (id : ι) (outcome : Outcome) (clock : Nat → ℚ) :
    WellFormed (gateway.finish id outcome clock) ∧
      (Accounted (gateway.finish id outcome clock) ↔
        Clean gateway (.finish id outcome clock)) := by
  unfold Gateway.finish
  cases found : gateway.running.find? fun request => request.id == id with
  | none =>
      have absent : ∀ request ∈ gateway.running, request.id ≠ id := by
        intro request member
        simpa using List.find?_eq_none.1 found request member
      refine ⟨formed, iff_of_true accounted ?_⟩
      intro request member same
      exact absurd same (absent request member)
  | some request =>
      have member := List.mem_of_find?_eq_some found
      have named : request.id = id := by simpa using List.find?_some found
      subst named
      have alone : Clean gateway (.finish request.id outcome clock) ↔
          ¬Abandons gateway request outcome ∧ ¬Overstays gateway request outcome := by
        constructor
        · intro clean
          exact clean request member rfl
        · intro holds other present same
          rwa [List.inj_on_of_nodup_map formed.ids present member same]
      rw [alone]
      have left := formed.leave request.id
      have recorded : WellFormed { gateway.leave request.id with
          breaker := record request.isProbe outcome.failed clock gateway.breaker } := by
        have continues := record_continues request.isProbe outcome.failed clock gateway.breaker
        refine ⟨left.ids, ?_, ?_⟩
        · intro other present
          exact le_trans (left.rounds other present) continues.rounds
        · change 0 < (record request.isProbe outcome.failed clock gateway.breaker).halfOpenMaxProbes
          rw [continues.knob]
          exact formed.knob
      cases outcome with
      | cancelled =>
          refine ⟨left, ?_⟩
          rw [cancel_accounted_iff formed accounted member]
          simp [Overstays, Outcome.failed]
      | returned status =>
          refine ⟨recorded, ?_⟩
          rw [record_accounted_iff formed accounted member]
          simp [Abandons]
      | raised =>
          refine ⟨recorded, ?_⟩
          rw [record_accounted_iff formed accounted member]
          simp [Abandons]

/-- One step keeps the count right exactly when it is clean. -/
theorem step_accounted {gateway : Gateway ι} (formed : WellFormed gateway)
    (accounted : Accounted gateway) (event : Event ι) :
    WellFormed (gateway.step event) ∧ (Accounted (gateway.step event) ↔ Clean gateway event) := by
  cases event with
  | finish id outcome clock => exact finish_accounted formed accounted id outcome clock
  | arrive id path clock =>
      have seen : gateway.step (.arrive id path clock) =
        if isExempt path || gateway.running.any (·.id == id) then gateway
        else gateway.admitRequest id clock := rfl
      rw [seen]
      by_cases skipped : (isExempt path || gateway.running.any (·.id == id)) = true
      · rw [if_pos skipped]
        exact ⟨formed, iff_of_true accounted trivial⟩
      · rw [if_neg skipped]
        have new : ∀ other ∈ gateway.running, other.id ≠ id := by
          simp only [Bool.or_eq_true, not_or, List.any_eq_true, not_exists, not_and,
            beq_iff_eq] at skipped
          exact skipped.2
        obtain ⟨kept, counts⟩ := admit_accounted clock formed new
        exact ⟨kept, iff_of_true (counts accounted) trivial⟩

/-- The gateways a run passes through. -/
def visited (gateway : Gateway ι) : List (Event ι) → List (Gateway ι)
  | [] => [gateway]
  | event :: rest => gateway :: visited (gateway.step event) rest

def CleanAlong (gateway : Gateway ι) : List (Event ι) → Prop
  | [] => True
  | event :: rest => Clean gateway event ∧ CleanAlong (gateway.step event) rest

theorem run_accounted {gateway : Gateway ι} (formed : WellFormed gateway)
    (accounted : Accounted gateway) (events : List (Event ι)) :
    (∀ reached ∈ visited gateway events, Accounted reached) ↔ CleanAlong gateway events := by
  induction events generalizing gateway with
  | nil => simpa [visited, CleanAlong] using accounted
  | cons event rest induction =>
      obtain ⟨kept, step⟩ := step_accounted formed accounted event
      have first : gateway.step event ∈ visited (gateway.step event) rest := by
        cases rest <;> simp [visited]
      simp only [visited, CleanAlong, List.forall_mem_cons]
      constructor
      · rintro ⟨_, later⟩
        have next := later _ first
        exact ⟨step.1 next, (induction kept next).1 later⟩
      · rintro ⟨clean, along⟩
        have next := step.2 clean
        exact ⟨accounted, (induction kept next).2 along⟩

/-- A server that has just started. -/
def startup (failureThreshold successThreshold openSecs halfOpenMaxProbes maxConcurrent : Int) :
    Gateway ι where
  breaker := CircuitBreaker.new failureThreshold successThreshold openSecs halfOpenMaxProbes
  limiter := ConcurrencyLimiter.new maxConcurrent

/-- In every run, the slots are accounted for in every state exactly when no
probe of the current round is cancelled and no probe overstays its round. -/
theorem probe_slots_accounted_iff
    (failureThreshold successThreshold openSecs halfOpenMaxProbes maxConcurrent : Int)
    (events : List (Event ι)) :
    (∀ reached ∈ visited (startup failureThreshold successThreshold openSecs halfOpenMaxProbes
        maxConcurrent) events, Accounted reached) ↔
      CleanAlong (startup failureThreshold successThreshold openSecs halfOpenMaxProbes
        maxConcurrent) events := by
  have knob : 0 < atLeastOne halfOpenMaxProbes := by
    unfold atLeastOne
    omega
  refine run_accounted ⟨by simp [startup], by simp [startup], knob⟩ ?_ events
  exact accounted_outside (by simp [startup, CircuitBreaker.new])

end Gateway

/-! One failure trips the breaker, one probe at a time, two successes close it. -/

/-- A failing request at time 0, and a probe two seconds later. -/
def probing : List (Event Nat) :=
  [.arrive 0 "/oauth/token" fun _ => 0, .finish 0 .raised fun _ => 0,
    .arrive 1 "/oauth/token" fun _ => 2]

/-- The probe is cancelled and its slot stays taken. -/
theorem cancelled_probe_keeps_slot :
    ¬∀ (failureThreshold successThreshold openSecs halfOpenMaxProbes maxConcurrent : Int)
      (events : List (Event Nat)), ∀ reached ∈ visited (startup failureThreshold successThreshold
        openSecs halfOpenMaxProbes maxConcurrent) events, Accounted reached := by
  intro always
  have accounted := always 1 2 1 1 100 (probing ++ [.finish 1 .cancelled fun _ => 2])
  have stuck := (accounted _ (List.mem_of_getLast? rfl)).counted (by decide +kernel)
  exact absurd stuck (by decide +kernel)

end OAuth2Server.ProbeAccounting
