import OAuth2Server.Resilience
import Mathlib.Tactic.NormNum

/-!
# Overlapping calls of a social provider's breaker

Outcomes carry no identity. A caller that was admitted while the breaker was
closed can report when it is open, and the breaker takes the report for the
probe's: a success closes it, a failure frees the slot of a probe that is still
running. As long as neither happens, an open breaker has one probe at most and
is closed by that probe alone.
-/

namespace OAuth2Server.SocialProbes

open Resilience

set_option autoImplicit false

section Provider

variable {ι : Type} [DecidableEq ι] {provider : Provider ι}

def IsProbe (provider : Provider ι) (id : ι) : Prop :=
  ∃ caller ∈ provider.callers, caller.id = id ∧ caller.probing = true

/-- A caller that is not the probe reports to an open breaker, and the report
is not one that only restarts the cooldown. -/
def Stale (provider : Provider ι) : Call ι → Prop
  | .allow _ _ => False
  | .succeed id =>
      provider.running id = true ∧ provider.breaker.isOpen = true ∧ ¬IsProbe provider id
  | .fail id _ =>
      provider.running id = true ∧ provider.breaker.isOpen = true ∧
        provider.breaker.probeInFlight = true ∧ ¬IsProbe provider id

instance (provider : Provider ι) (id : ι) : Decidable (IsProbe provider id) :=
  inferInstanceAs (Decidable (∃ caller ∈ provider.callers, _))

instance (provider : Provider ι) : ∀ call, Decidable (Stale provider call)
  | .allow _ _ => isFalse id
  | .succeed _ => inferInstanceAs (Decidable (_ ∧ _))
  | .fail _ _ => inferInstanceAs (Decidable (_ ∧ _))

/-- Five failures in a row open the breaker: while it is closed the two counts
are the same. -/
def Counted (provider : Provider ι) : Prop :=
  provider.breaker.isOpen = false → provider.streak = provider.breaker.failures ∧
    provider.breaker.failures < SocialCircuitBreaker.failureThreshold

/-- A probe that is still running has the slot of an open breaker, whose
cooldown had elapsed when it was admitted. -/
structure Tended (provider : Provider ι) : Prop where
  distinct : (provider.callers.map Caller.id).Nodup
  one : (provider.callers.filter Caller.probing).length ≤ 1
  slot : ∀ caller ∈ provider.callers, caller.probing = true →
    provider.breaker.isOpen = true ∧ provider.breaker.probeInFlight = true ∧
      ∃ openedAt, provider.breaker.openedAt = some openedAt ∧
        SocialCircuitBreaker.cooldownSecs ≤ caller.admittedAt - openedAt

/-- The breaker closes by the success of a caller admitted after the cooldown
of the opening it ends. -/
def ClosedByProbe (provider : Provider ι) (call : Call ι) : Prop :=
  provider.breaker.isOpen = true → (provider.step call).breaker.isOpen = false →
    ∃ caller ∈ provider.callers, call = .succeed caller.id ∧
      ∃ openedAt, provider.breaker.openedAt = some openedAt ∧
        SocialCircuitBreaker.cooldownSecs ≤ caller.admittedAt - openedAt

/-! ### `allow` -/

/-- A caller is let through a closed breaker, or takes the slot of an open one
after the cooldown, or is refused. -/
theorem allow_cases (now : ℚ) (breaker : SocialCircuitBreaker) :
    breaker.isOpen = false ∧ breaker.allow now = (true, breaker) ∨
    breaker.isOpen = true ∧ breaker.cooldownElapsed now = true ∧
        breaker.probeInFlight = false ∧
        breaker.allow now = (true, { breaker with probeInFlight := true }) ∨
    breaker.isOpen = true ∧ breaker.allow now = (false, breaker) := by
  unfold SocialCircuitBreaker.allow
  cases opened : breaker.isOpen with
  | false =>
      left
      exact ⟨rfl, rfl⟩
  | true =>
      right
      cases elapsed : breaker.cooldownElapsed now with
      | false =>
          right
          exact ⟨rfl, rfl⟩
      | true =>
          cases taken : breaker.probeInFlight with
          | true =>
              right
              exact ⟨rfl, rfl⟩
          | false =>
              left
              exact ⟨rfl, rfl, rfl, rfl⟩

theorem elapsed_since {now : ℚ} {breaker : SocialCircuitBreaker}
    (elapsed : breaker.cooldownElapsed now = true) :
    ∃ openedAt, breaker.openedAt = some openedAt ∧
      SocialCircuitBreaker.cooldownSecs ≤ now - openedAt := by
  unfold SocialCircuitBreaker.cooldownElapsed at elapsed
  cases opening : breaker.openedAt with
  | none =>
      rw [opening] at elapsed
      cases elapsed
  | some openedAt =>
      rw [opening] at elapsed
      exact ⟨openedAt, rfl, of_decide_eq_true elapsed⟩

/-- What a call to `allow` leaves behind. -/
theorem step_allow (provider : Provider ι) (id : ι) (now : ℚ) :
    provider.step (.allow id now) = provider ∨
    provider.running id = false ∧
      ((provider.breaker.isOpen = false ∧ provider.step (.allow id now) =
          { provider with
            callers := provider.callers ++ [⟨id, false, now⟩] }) ∨
        provider.breaker.isOpen = true ∧ provider.breaker.cooldownElapsed now = true ∧
          provider.breaker.probeInFlight = false ∧ provider.step (.allow id now) =
            { provider with
              breaker := { provider.breaker with probeInFlight := true }
              callers := provider.callers ++ [⟨id, true, now⟩] }) := by
  unfold Provider.step
  cases present : provider.running id with
  | true =>
      left
      simp [present]
  | false =>
      rcases allow_cases now provider.breaker with
        ⟨closed, allowed⟩ | ⟨opened, elapsed, free, allowed⟩ | ⟨opened, refused⟩
      · right
        refine ⟨rfl, .inl ⟨closed, ?_⟩⟩
        simp [present, allowed, closed]
      · right
        refine ⟨rfl, .inr ⟨opened, elapsed, free, ?_⟩⟩
        simp [present, allowed, opened]
      · left
        simp [present, refused]

theorem step_succeed (provider : Provider ι) (id : ι) : provider.step (.succeed id) =
    if provider.running id then
      { breaker := provider.breaker.recordSuccess, callers := provider.done id, streak := 0 }
    else provider := rfl

theorem step_fail (provider : Provider ι) (id : ι) (now : ℚ) : provider.step (.fail id now) =
    if provider.running id then
      { breaker := provider.breaker.recordFailure now
        callers := provider.done id
        streak := provider.streak + 1 }
    else provider := rfl

theorem new_caller {id : ι} (absent : provider.running id = false) :
    id ∉ provider.callers.map Caller.id := by
  intro member
  obtain ⟨caller, held, same⟩ := List.mem_map.1 member
  have present : provider.running id = true := by
    unfold Provider.running
    rw [List.any_eq_true]
    exact ⟨caller, held, by simp [same]⟩
  rw [present] at absent
  cases absent

theorem Tended.allow (tended : Tended provider) (id : ι) (now : ℚ) :
    Tended (provider.step (.allow id now)) := by
  rcases step_allow provider id now with same | ⟨absent, passed | probed⟩
  · rw [same]
    exact tended
  · obtain ⟨closed, stepped⟩ := passed
    have new := new_caller absent
    rw [stepped]
    constructor
    · simpa [List.nodup_append] using ⟨tended.distinct, by simpa using new⟩
    · simpa [List.filter_append] using tended.one
    · intro caller member probing
      rcases List.mem_append.1 member with old | added
      · exact tended.slot caller old probing
      · rw [List.mem_singleton.1 added] at probing
        cases probing
  · obtain ⟨opened, elapsed, free, stepped⟩ := probed
    have new := new_caller absent
    have noProbe : provider.callers.filter Caller.probing = [] := by
      rw [List.filter_eq_nil_iff]
      intro caller member probing
      have taken := (tended.slot caller member probing).2.1
      rw [free] at taken
      cases taken
    rw [stepped]
    constructor
    · simpa [List.nodup_append] using ⟨tended.distinct, by simpa using new⟩
    · simp [List.filter_append, noProbe]
    · intro caller member probing
      rcases List.mem_append.1 member with old | added
      · have none : caller ∈ provider.callers.filter Caller.probing :=
          List.mem_filter.2 ⟨old, probing⟩
        rw [noProbe] at none
        cases none
      · rw [List.mem_singleton.1 added]
        exact ⟨opened, rfl, elapsed_since elapsed⟩

/-! ### Reports -/

/-- Once the probe has reported, no other is left. -/
theorem no_probe_left (tended : Tended provider) {id : ι} (probe : IsProbe provider id) :
    (provider.done id).filter Caller.probing = [] := by
  obtain ⟨caller, held, same, probing⟩ := probe
  rw [List.filter_eq_nil_iff]
  intro other member alsoProbing
  obtain ⟨held', different⟩ := List.mem_filter.1 member
  have both : caller ∈ provider.callers.filter Caller.probing ∧
      other ∈ provider.callers.filter Caller.probing :=
    ⟨List.mem_filter.2 ⟨held, probing⟩, List.mem_filter.2 ⟨held', alsoProbing⟩⟩
  have equal : caller = other := by
    have few := tended.one
    match listed : provider.callers.filter Caller.probing, few with
    | [], _ =>
        rw [listed] at both
        cases both.1
    | [only], _ =>
        rw [listed] at both
        rw [List.mem_singleton.1 both.1, List.mem_singleton.1 both.2]
  rw [← equal, same] at different
  simp at different

omit [DecidableEq ι] in
/-- Without a probe, the state of the breaker does not matter. -/
theorem tended_of_no_probe {breaker : SocialCircuitBreaker} {callers : List (Caller ι)}
    {streak : Nat} (distinct : (callers.map Caller.id).Nodup)
    (none : callers.filter Caller.probing = []) :
    Tended { breaker := breaker, callers := callers, streak := streak } where
  distinct := distinct
  one := by
    rw [none]
    exact Nat.zero_le 1
  slot := by
    intro caller member probing
    have listed : caller ∈ callers.filter Caller.probing := List.mem_filter.2 ⟨member, probing⟩
    rw [none] at listed
    cases listed

theorem done_distinct (tended : Tended provider) (id : ι) :
    ((provider.done id).map Caller.id).Nodup :=
  tended.distinct.sublist (List.filter_sublist.map _)

/-- A closed breaker has no probe. -/
theorem closed_no_probe (tended : Tended provider) (closed : provider.breaker.isOpen = false)
    (id : ι) : (provider.done id).filter Caller.probing = [] := by
  rw [List.filter_eq_nil_iff]
  intro caller member probing
  have opened := (tended.slot caller (List.mem_filter.1 member).1 probing).1
  rw [closed] at opened
  cases opened

theorem Tended.succeed (tended : Tended provider) {id : ι}
    (fresh : ¬Stale provider (.succeed id)) : Tended (provider.step (.succeed id)) := by
  rw [step_succeed]
  by_cases present : provider.running id = true
  · rw [if_pos present]
    apply tended_of_no_probe (done_distinct tended id)
    by_cases opened : provider.breaker.isOpen = true
    · have probe : IsProbe provider id := by
        by_contra other
        exact fresh ⟨present, opened, other⟩
      exact no_probe_left tended probe
    · exact closed_no_probe tended (by simpa using opened) id
  · rw [if_neg present]
    exact tended

theorem Tended.fail (tended : Tended provider) {id : ι} {now : ℚ}
    (fresh : ¬Stale provider (.fail id now)) : Tended (provider.step (.fail id now)) := by
  rw [step_fail]
  by_cases present : provider.running id = true
  · rw [if_pos present]
    apply tended_of_no_probe (done_distinct tended id)
    by_cases opened : provider.breaker.isOpen = true
    · by_cases taken : provider.breaker.probeInFlight = true
      · have probe : IsProbe provider id := by
          by_contra other
          exact fresh ⟨present, opened, taken, other⟩
        exact no_probe_left tended probe
      · rw [List.filter_eq_nil_iff]
        intro caller member probing
        exact taken (tended.slot caller (List.mem_filter.1 member).1 probing).2.1
    · exact closed_no_probe tended (by simpa using opened) id
  · rw [if_neg present]
    exact tended

theorem Tended.step (tended : Tended provider) {call : Call ι} (fresh : ¬Stale provider call) :
    Tended (provider.step call) := by
  cases call with
  | allow id now => exact tended.allow id now
  | succeed id => exact tended.succeed fresh
  | fail id now => exact tended.fail fresh

/-! ### Counting failures -/

theorem Counted.step (counted : Counted provider) (call : Call ι) :
    Counted (provider.step call) := by
  cases call with
  | allow id now =>
      rcases step_allow provider id now with same | ⟨_, ⟨_, stepped⟩ | ⟨opened, _, _, stepped⟩⟩
      · rw [same]
        exact counted
      · rw [stepped]
        exact counted
      · rw [stepped]
        intro closed
        change provider.breaker.isOpen = false at closed
        rw [opened] at closed
        cases closed
  | succeed id =>
      rw [step_succeed]
      split
      · intro _
        exact ⟨rfl, Nat.zero_lt_succ 4⟩
      · exact counted
  | fail id now =>
      rw [step_fail]
      split
      · intro closed
        change (provider.breaker.recordFailure now).isOpen = false at closed
        change provider.streak + 1 = (provider.breaker.recordFailure now).failures ∧
          (provider.breaker.recordFailure now).failures < _
        unfold SocialCircuitBreaker.recordFailure at closed ⊢
        cases opened : provider.breaker.isOpen with
        | true => simp [opened] at closed
        | false =>
            obtain ⟨same, _⟩ := counted opened
            simp only [opened, Bool.false_eq_true, if_false] at closed ⊢
            split at closed
            · cases closed
            · rename_i few
              rw [if_neg few]
              refine ⟨?_, by simpa using few⟩
              change provider.streak + 1 = provider.breaker.failures + 1
              rw [same]
      · exact counted

/-- Only a success closes the breaker. -/
theorem fail_stays_open {id : ι} {now : ℚ} (opened : provider.breaker.isOpen = true) :
    (provider.step (.fail id now)).breaker.isOpen = true := by
  rw [step_fail]
  split
  · unfold SocialCircuitBreaker.recordFailure
    simp [opened]
  · exact opened

theorem closed_by_probe (tended : Tended provider) {call : Call ι}
    (fresh : ¬Stale provider call) : ClosedByProbe provider call := by
  intro opened closed
  cases call with
  | allow id now =>
      rcases step_allow provider id now with same | ⟨_, ⟨_, stepped⟩ | ⟨_, _, _, stepped⟩⟩
      · rw [same, opened] at closed
        cases closed
      · rw [stepped] at closed
        change provider.breaker.isOpen = false at closed
        rw [opened] at closed
        cases closed
      · rw [stepped] at closed
        change provider.breaker.isOpen = false at closed
        rw [opened] at closed
        cases closed
  | fail id now =>
      rw [fail_stays_open opened] at closed
      cases closed
  | succeed id =>
      by_cases present : provider.running id = true
      · have probe : IsProbe provider id := by
          by_contra other
          exact fresh ⟨present, opened, other⟩
        obtain ⟨caller, held, same, probing⟩ := probe
        refine ⟨caller, held, by rw [same], ?_⟩
        exact (tended.slot caller held probing).2.2
      · rw [step_succeed, if_neg present, opened] at closed
        cases closed

/-! ### Runs -/

/-- A provider's breaker as the server starts, after these calls. -/
def after (calls : List (Call ι)) : Provider ι := calls.foldl Provider.step {}

/-- No call is stale in the state it is made in. -/
def NeverStale (provider : Provider ι) : List (Call ι) → Prop
  | [] => True
  | call :: later => ¬Stale provider call ∧ NeverStale (provider.step call) later

instance decidableNeverStale : ∀ (provider : Provider ι) (calls : List (Call ι)),
    Decidable (NeverStale provider calls)
  | _, [] => isTrue trivial
  | provider, call :: later =>
      have := decidableNeverStale (provider.step call) later
      inferInstanceAs (Decidable (_ ∧ _))

/-- What the breaker promises of every state and every call of a run. -/
structure Safe (calls : List (Call ι)) : Prop where
  oneProbe : ∀ before later, calls = before ++ later →
    ((after before).callers.filter Caller.probing).length ≤ 1
  closedByProbe : ∀ before call later, calls = before ++ call :: later →
    ClosedByProbe (after before) call
  opensAfterFive : ∀ before later, calls = before ++ later → 5 ≤ (after before).streak →
    (after before).breaker.isOpen = true

theorem Counted.through (counted : Counted provider) (calls : List (Call ι)) :
    Counted (calls.foldl Provider.step provider) := by
  induction calls generalizing provider with
  | nil => exact counted
  | cons call rest induction => exact induction (counted.step call)

omit [DecidableEq ι] in
theorem counted_start : Counted ({} : Provider ι) := by
  intro _
  exact ⟨rfl, Nat.zero_lt_succ 4⟩

theorem tended_through {calls : List (Call ι)} (tended : Tended provider)
    (never : NeverStale provider calls) : ∀ before later, calls = before ++ later →
      Tended (before.foldl Provider.step provider) ∧
        NeverStale (before.foldl Provider.step provider) later := by
  induction calls generalizing provider with
  | nil =>
      intro before later split
      obtain ⟨rfl, rfl⟩ := List.append_eq_nil_iff.1 split.symm
      exact ⟨tended, trivial⟩
  | cons call rest induction =>
      intro before later split
      cases before with
      | nil =>
          cases split
          exact ⟨tended, never⟩
      | cons first earlier =>
          obtain ⟨rfl, remaining⟩ := List.cons.inj split
          exact induction (tended.step never.1) never.2 earlier later remaining

omit [DecidableEq ι] in
theorem tended_start : Tended ({} : Provider ι) :=
  tended_of_no_probe List.nodup_nil rfl

/-- A run in which no stale report reaches the open breaker keeps one probe at
most, closes by its probes only, and is open after five failures in a row. -/
theorem social_breaker_safe (calls : List (Call ι)) (never : NeverStale {} calls) :
    Safe calls where
  oneProbe before later split := (tended_through tended_start never before later split).1.one
  closedByProbe before call later split := by
    obtain ⟨tended, rest⟩ := tended_through tended_start never before (call :: later) split
    exact closed_by_probe tended rest.1
  opensAfterFive before later _ five := by
    by_contra shut
    have counted : Counted (after before) := counted_start.through before
    obtain ⟨same, few⟩ := counted (by simpa using shut)
    have bound : (after before).breaker.failures < 5 := few
    omega

end Provider

/-! Six callers at time 0, five of which fail: the breaker opens. -/

def sixCallers : List (Call Nat) := (List.range 6).map fun id => .allow id 0

def fiveFailures : List (Call Nat) := (List.range 5).map fun id => .fail id 1

/-- The sixth caller's success closes a breaker that has had no probe. -/
theorem stale_success_closes : ¬∀ calls : List (Call Nat), Safe calls := by
  intro always
  have closes := (always (sixCallers ++ fiveFailures ++ [.succeed 5])).closedByProbe
    (sixCallers ++ fiveFailures) (.succeed 5) [] rfl (by decide +kernel) (by decide +kernel)
  obtain ⟨caller, member, _, openedAt, opened, cooled⟩ := closes
  have early : ∀ caller ∈ (after (sixCallers ++ fiveFailures)).callers, caller.admittedAt = 0 := by
    decide +kernel
  have opening : (after (sixCallers ++ fiveFailures)).breaker.openedAt = some 1 := by
    decide +kernel
  rw [opening] at opened
  rw [early caller member, ← Option.some.inj opened] at cooled
  exact absurd cooled (by decide +kernel)

/-- The sixth caller reports first, and a probe follows after the cooldown. -/
theorem probe_after_cooldown_closes : Safe (sixCallers ++ [.succeed 5] ++ fiveFailures ++
    [.allow 6 31, .succeed 6]) :=
  social_breaker_safe _ (by decide +kernel)

end OAuth2Server.SocialProbes
