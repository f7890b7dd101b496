import OAuth2Server.Dictionaries
import Mathlib.Data.List.Chain
import Mathlib.Data.List.Induction
import Mathlib.Tactic.Linarith

/-!
# How fast a device code may be polled

`DevicePollTracker`: a poll that comes too soon makes the interval of its code
longer for good. What a poll is answered follows from the gap to the one before
and the number of violations so far, whatever happens to other codes.
-/

namespace OAuth2Server.DevicePolls

open OAuth2Server Process KeyedCells Dictionaries

set_option autoImplicit false

inductive TrackerCall where
  | observe (deviceCode : String) (baseInterval : Int)
  | forget (deviceCode : String)
  deriving DecidableEq

def TrackerCall.deviceCode : TrackerCall → String
  | .observe deviceCode _ => deviceCode
  | .forget deviceCode => deviceCode

structure Timed where
  now : ℚ
  call : TrackerCall

/-- A call on the tracker; `forget` answers nothing. -/
def track (entries : Dict PollState) (timed : Timed) : Option Int × Dict PollState :=
  match timed.call with
  | .observe deviceCode baseInterval =>
      observePoll deviceCode baseInterval timed.now entries
  | .forget deviceCode => (none, entries.filter (·.1 != deviceCode))

/-! ### One state a code -/

/-- A poll, on the state found for its code. -/
def poll (baseInterval : Int) (now : ℚ) : Option PollState → Option Int × PollState
  | none => (none, { lastPoll := now, interval := baseInterval, expiry := now + entryTtlSecs })
  | some state =>
      if now - state.lastPoll < state.interval then
        (some (state.interval + slowDownStepSecs),
          { lastPoll := now
            interval := state.interval + slowDownStepSecs
            expiry := now + entryTtlSecs })
      else (none, { state with lastPoll := now, expiry := now + entryTtlSecs })

def tracker : Service String PollState ℚ Timed (Option Int) where
  key := fun timed => timed.call.deviceCode
  now := Timed.now
  live := fun now state => decide (now < state.expiry)
  access := fun timed found =>
    match timed.call with
    | .observe _ baseInterval =>
        ((poll baseInterval timed.now found).1, some (poll baseInterval timed.now found).2)
    | .forget _ => (none, none)
  lapses := by
    intro now later state order live
    simp only [decide_eq_true_eq] at live ⊢
    exact lt_of_le_of_lt order live

theorem observe_swept (deviceCode : String) (baseInterval : Int) (now : ℚ)
    (entries : Dict PollState) :
    observePoll deviceCode baseInterval now entries =
      sweptStep tracker entries ⟨now, .observe deviceCode baseInterval⟩ := by
  unfold observePoll sweptStep
  simp only [tracker, TrackerCall.deviceCode]
  cases (entries.filter fun entry => now < entry.2.expiry).lookup deviceCode with
  | none => rfl
  | some state =>
      simp only [poll]
      split <;> rfl

theorem track_realizes :
    Realizes tracker Distinct (fun entries code => entries.lookup code) track := by
  constructor
  · intro entries timed distinct
    obtain ⟨now, call⟩ := timed
    cases call with
    | observe deviceCode baseInterval =>
        simp only [track, observe_swept]
        exact swept_distinct tracker distinct _
    | forget deviceCode => exact distinct.filter _
  · intro entries timed distinct
    obtain ⟨now, call⟩ := timed
    cases call with
    | observe deviceCode baseInterval =>
        simp only [track, observe_swept]
        exact swept_steps tracker distinct _
    | forget deviceCode => exact popped_steps tracker entries _ none fun _ => rfl

/-! ### The closed form -/

/-- The first poll is allowed. Any later one is too fast if the gap to the one
before is shorter than the base interval and five seconds for each violation so
far, and then it is told the interval that has grown once more. -/
def ClosedForm (baseInterval : Int) (polls : List (Timed × Option Int)) : Prop :=
  (∀ first rest, polls = first :: rest → first.2 = none) ∧
    ∀ earlier previous poll later, polls = earlier ++ previous :: poll :: later →
      let violations : Int := ((earlier ++ [previous]).countP fun entry => entry.2.isSome : Nat)
      poll.2 =
        if poll.1.now - previous.1.now < ((baseInterval + 5 * violations : Int) : ℚ) then
          some (baseInterval + 5 * (violations + 1))
        else none

def violations (events : List Timed) : Nat :=
  (log tracker.cellStep none events).countP fun entry => entry.2.isSome

theorem poll_step (baseInterval : Int) (deviceCode : String) (now : ℚ) (cell : Option PollState)
    (live : ∀ state ∈ cell, now < state.expiry) :
    tracker.cellStep cell ⟨now, .observe deviceCode baseInterval⟩ =
      ((poll baseInterval now cell).1, some (poll baseInterval now cell).2) := by
  have kept : cell.filter (fun state => decide (now < state.expiry)) = cell := by
    cases cell with
    | none => rfl
    | some state => simp [live state rfl]
  simp only [Service.cellStep, tracker, kept]

variable {deviceCode : String} {baseInterval : Int}

/-- Polls of one code, with gaps its state survives. -/
structure Paced (deviceCode : String) (baseInterval : Int) (events : List Timed) : Prop where
  polls : ∀ timed ∈ events, timed.call = .observe deviceCode baseInterval
  gaps : events.IsChain fun previous next => next.now - previous.now < entryTtlSecs

theorem Paced.init {events later : List Timed}
    (paced : Paced deviceCode baseInterval (events ++ later)) :
    Paced deviceCode baseInterval events where
  polls := fun timed member => paced.polls timed (List.mem_append_left later member)
  gaps := paced.gaps.left_of_append

/-- The state of a code is its last poll and the interval its violations made. -/
def stateAfter (baseInterval : Int) (earlier : List Timed) (previous : Timed) : PollState where
  lastPoll := previous.now
  interval := baseInterval + 5 * (violations (earlier ++ [previous]) : Int)
  expiry := previous.now + entryTtlSecs

theorem violations_snoc (events : List Timed) (timed : Timed) :
    violations (events ++ [timed]) = violations events +
      (tracker.cellStep (after tracker.cellStep none events) timed).1.isSome.toNat := by
  unfold violations
  rw [log_append, List.countP_append]
  cases stepped : (tracker.cellStep (after tracker.cellStep none events) timed).1 <;>
    simp [stepped]

/-- A poll whose state has not lapsed is answered off the gap and the interval. -/
theorem next_poll (earlier : List Timed) (previous next : Timed)
    (polled : next.call = .observe deviceCode baseInterval)
    (gap : next.now - previous.now < entryTtlSecs) :
    tracker.cellStep (some (stateAfter baseInterval earlier previous)) next =
      ((poll baseInterval next.now (some (stateAfter baseInterval earlier previous))).1,
        some (poll baseInterval next.now (some (stateAfter baseInterval earlier previous))).2) := by
  obtain ⟨now, call⟩ := next
  dsimp only at polled
  subst polled
  apply poll_step
  intro state stored
  cases stored
  simp only [stateAfter] at gap ⊢
  linarith

theorem after_polls (earlier : List Timed) (previous : Timed)
    (paced : Paced deviceCode baseInterval (earlier ++ [previous])) :
    after tracker.cellStep none (earlier ++ [previous]) =
      some (stateAfter baseInterval earlier previous) := by
  induction earlier using List.reverseRecOn generalizing previous with
  | nil =>
      obtain ⟨now, call⟩ := previous
      have same := paced.polls ⟨now, call⟩ (by simp)
      dsimp only at same
      subst same
      have step := poll_step baseInterval deviceCode now none (by simp)
      simp [after, stateAfter, violations, step, poll]
  | append_singleton earlier last induction =>
      have before := induction last paced.init
      have polled := paced.polls previous (by simp)
      have gap : previous.now - last.now < entryTtlSecs := by
        have chain := paced.gaps
        rw [List.append_assoc] at chain
        exact (List.isChain_append_cons_cons.1 chain).2.1
      have step := next_poll earlier last previous polled gap
      have counted := violations_snoc (earlier ++ [last]) previous
      rw [before, step] at counted
      rw [after_append, before, after_cons, step]
      simp only [poll] at counted ⊢
      by_cases early : previous.now - (stateAfter baseInterval earlier last).lastPoll <
          ((stateAfter baseInterval earlier last).interval : ℚ)
      · simp only [if_pos early, Option.isSome_some, Bool.toNat_true] at counted ⊢
        simp only [after, List.foldl_nil, stateAfter, counted, slowDownStepSecs]
        push_cast
        congr 2
        ring
      · simp only [if_neg early, Option.isSome_none, Bool.toNat_false] at counted ⊢
        simp only [after, List.foldl_nil, stateAfter, counted, Nat.add_zero]

/-- The answers to the polls of one code. -/
theorem cell_closed_form {events : List Timed} (paced : Paced deviceCode baseInterval events) :
    ClosedForm baseInterval (log tracker.cellStep none events) := by
  constructor
  · intro first rest logged
    cases events with
    | nil => cases logged
    | cons timed later =>
        obtain ⟨now, call⟩ := timed
        have same := paced.polls ⟨now, call⟩ List.mem_cons_self
        dsimp only at same
        subst same
        have step := poll_step baseInterval deviceCode now none (by simp)
        rw [log_cons, step] at logged
        rw [← (List.cons.inj logged).1]
        rfl
  · intro earlier previous next later logged
    have whole := log_events tracker.cellStep none events
    rw [logged] at whole
    simp only [List.map_append, List.map_cons] at whole
    rw [← whole] at paced
    have split : earlier ++ previous :: next :: later =
        (earlier ++ [previous]) ++ next :: later := by simp
    rw [split] at logged
    have answered := (log_entry logged).1
    have polled := paced.polls next.1 (by simp)
    have gap := (List.isChain_append_cons_cons.1 paced.gaps).2.1
    have paced : Paced deviceCode baseInterval (earlier.map Prod.fst ++ [previous.1]) := by
      rw [List.append_cons] at paced
      exact paced.init
    have counted : violations (earlier.map Prod.fst ++ [previous.1]) =
        (earlier ++ [previous]).countP fun entry => entry.2.isSome := by
      have prior := (log_split logged).1
      rw [List.map_append, List.map_singleton] at prior
      unfold violations
      rw [prior]
    rw [List.map_append, List.map_singleton, after_polls _ _ paced,
      next_poll _ _ _ polled gap] at answered
    intro violations
    have interval : baseInterval + 5 * violations + slowDownStepSecs =
        baseInterval + 5 * (violations + 1) := by
      simp only [slowDownStepSecs]
      ring
    rw [answered, ← interval]
    simp only [poll, stateAfter, counted]
    split <;> rfl

/-- Calls at times that do not run backwards, where one code is polled at a constant
base interval, in gaps shorter than the life of an entry, and not forgotten: its
polls are answered by the closed form, and as if no other code existed. -/
theorem slow_down_closed_form (calls : List Timed) (deviceCode : String) (baseInterval : Int)
    (ordered : calls.Pairwise fun call later => call.now ≤ later.now)
    (paced : Paced deviceCode baseInterval
      (calls.filter fun timed => timed.call.deviceCode = deviceCode)) :
    let polls := (log track [] calls).filter fun entry => entry.1.call.deviceCode = deviceCode
    ClosedForm baseInterval polls ∧
      polls = log track [] (calls.filter fun timed => timed.call.deviceCode = deviceCode) := by
  intro polls
  have cells : polls = log tracker.cellStep none
      (calls.filter fun timed => timed.call.deviceCode = deviceCode) :=
    track_realizes.log_about deviceCode ordered distinct_nil fun _ _ => Alike.refl _
  constructor
  · rw [cells]
    exact cell_closed_form paced
  · rw [cells]
    symm
    apply track_realizes.log_only deviceCode (ordered.filter _) distinct_nil
    · intro _ _
      exact Alike.refl _
    · intro timed member
      exact of_decide_eq_true (List.mem_filter.1 member).2

/-- Two codes polled by turns: the one polled every two seconds is slowed down for
good, whatever the other does. -/
def byTurns : List Timed :=
  [⟨0, .observe "fast" 5⟩, ⟨1, .observe "other" 5⟩, ⟨2, .observe "fast" 5⟩, ⟨3, .forget "other"⟩,
    ⟨16, .observe "fast" 5⟩, ⟨18, .observe "fast" 5⟩]

theorem by_turns_slowed :
    (((log track [] byTurns).filter fun entry => entry.1.call.deviceCode = "fast").map Prod.snd) =
        [none, some 10, none, some 15] ∧
      ClosedForm 5 ((log track [] byTurns).filter fun entry =>
        entry.1.call.deviceCode = "fast") := by
  refine ⟨by decide +kernel, (slow_down_closed_form byTurns "fast" 5 (by decide +kernel) ?_).1⟩
  exact ⟨by decide +kernel, by decide +kernel⟩

end OAuth2Server.DevicePolls
