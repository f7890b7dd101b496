import OAuth2Server.Runs

/-!
# Decisions on device authorizations

`device_verify` checks the row and then writes it without repeating the check,
and a poll claims the row on `used` alone. As long as every decision is written
on a row that is still undecided, decisions are final and polls respect them.
-/

namespace OAuth2Server.DeviceDecision

open OAuth2Server Models Tables Storage Effects Interaction Interaction.Program Interleaving
open Dpop TokenEndpoint Endpoints Protocol Runs Backends

set_option autoImplicit false

variable {ι : Type} [DecidableEq ι] {env : Env} {world : World} {origins : ι → Origin}

def Decided (row : DeviceAuthorization) : Prop := row.approved = true ∨ row.denied = true

/-- The decision on a row, and whose it is. -/
def decision (row : DeviceAuthorization) : Bool × Bool × Option String :=
  (row.approved, row.denied, row.userId)

/-- The same authorization later on: a decision that was made stands. -/
structure Stands (before later : DeviceAuthorization) : Prop where
  deviceCode : later.deviceCode = before.deviceCode
  decision : Decided before → decision later = decision before

theorem decided_of_decision {before later : DeviceAuthorization}
    (same : decision later = decision before) (decided : Decided before) : Decided later := by
  simp only [decision, Prod.mk.injEq] at same
  unfold Decided
  rw [same.1, same.2.1]
  exact decided

theorem Stands.refl (row : DeviceAuthorization) : Stands row row := ⟨rfl, fun _ => rfl⟩

theorem Stands.trans {first second third : DeviceAuthorization} (earlier : Stands first second)
    (later : Stands second third) : Stands first third where
  deviceCode := later.deviceCode.trans earlier.deviceCode
  decision := fun decided =>
    (later.decision (decided_of_decision (earlier.decision decided) decided)).trans
      (earlier.decision decided)

/-- The condition under which decisions are final: when a verification is about
to write its decision, the row is still undecided. -/
def DecidesOnce (pool : Requests ι) (thread : ι) : Prop :=
  ∀ userCode, (∃ userId, pool.NextOp thread (.command (.approveDeviceAuthorization userCode userId))) ∨
      pool.NextOp thread (.command (.denyDeviceAuthorization userCode)) →
    ∀ row ∈ pool.world.store.devices.rows, row.userCode = userCode → ¬Decided row

/-- A move leaves every decision standing. -/
theorem stands_step (env : Env) {session : Session} {op : Op} (move : Move session op)
    (once : ∀ userCode, (∃ userId, op = .command (.approveDeviceAuthorization userCode userId)) ∨
        op = .command (.denyDeviceAuthorization userCode) →
      ∀ row ∈ world.store.devices.rows, row.userCode = userCode → ¬Decided row)
    {row : DeviceAuthorization} (member : row ∈ world.store.devices.rows) :
    ∃ later ∈ (env.interp op world).2.store.devices.rows, Stands row later := by
  have same : (env.interp op world).2.store.devices = world.store.devices →
      ∃ later ∈ (env.interp op world).2.store.devices.rows, Stands row later :=
    fun kept => ⟨row, by rw [kept]; exact member, Stands.refl row⟩
  cases move with
  | aside settled => exact same (by rw [settled_frame settled])
  | approve userCode userId =>
      refine ⟨_, by
        rw [interp_command, devices_after_approve]; exact List.mem_map_of_mem member, ?_⟩
      split
      · rename_i hit
        have undecided := once userCode (Or.inl ⟨userId, rfl⟩) row member (by simpa using hit)
        exact ⟨rfl, fun decided => absurd decided undecided⟩
      · exact Stands.refl row
  | deny userCode =>
      refine ⟨_, by rw [interp_command, devices_after_deny]; exact List.mem_map_of_mem member, ?_⟩
      split
      · rename_i hit
        have undecided := once userCode (Or.inr rfl) row member (by simpa using hit)
        exact ⟨rfl, fun decided => absurd decided undecided⟩
      · exact Stands.refl row
  | claimDevice own =>
      refine ⟨_, by rw [interp_command, devices_after_mark]; exact List.mem_map_of_mem member, ?_⟩
      split
      · exact ⟨rfl, fun _ => rfl⟩
      · exact Stands.refl row
  | _ => exact same (by first | rfl | exact devices_kept rfl)

omit [DecidableEq ι] in
theorem decides_once_move {pool : Requests ι} {thread : ι} {op : Op}
    (once : DecidesOnce pool thread) (upcoming : pool.NextOp thread op) (userCode : String)
    (decides : (∃ userId, op = .command (.approveDeviceAuthorization userCode userId)) ∨
      op = .command (.denyDeviceAuthorization userCode)) :
    ∀ row ∈ pool.world.store.devices.rows, row.userCode = userCode → ¬Decided row := by
  refine once userCode ?_
  rcases decides with ⟨userId, rfl⟩ | rfl
  · exact Or.inl ⟨userId, upcoming⟩
  · exact Or.inr upcoming

/-- What a poll has read of the row still stands. -/
def SnapshotStands (world : World) (session : Session) : Prop :=
  ∀ row, session.grounds = some (.device row) →
    ∃ stored ∈ world.store.devices.rows, Stands row stored

theorem snapshots_stand (schedule : List ι)
    (along : Pool.Along env.interp DecidesOnce (opening env world origins) schedule) (thread : ι) :
    SnapshotStands (reached env world origins schedule).world
      (sessions origins (reached env world origins schedule) thread) := by
  refine run_invariant
    (fun world states => ∀ thread : ι, SnapshotStands world (states thread)) DecidesOnce
    ?_ (fun thread row grounds => by cases grounds) schedule along thread
  intro pool mover op upcoming once move before other row grounds
  have carried : (sessions origins pool other).grounds = some (.device row) →
      ∃ stored ∈ (env.interp op pool.world).2.store.devices.rows, Stands row stored := by
    intro known
    obtain ⟨stored, member, stands⟩ := before other row known
    obtain ⟨later, stillThere, still⟩ :=
      stands_step env move (decides_once_move once upcoming) member
    exact ⟨later, stillThere, stands.trans still⟩
  rcases moved_cases env origins pool mover op other with ⟨rfl, now⟩ | ⟨_, kept⟩
  · rw [now] at grounds
    rcases grounds_after move grounds with known | ⟨_, _, reads⟩
    · exact carried known
    · generalize given : (env.interp op pool.world).1 = answer at reads
      cases reads with
      | device looked row => exact ⟨row, (Table.mem_of_first given).1, Stands.refl row⟩
  · exact carried (kept ▸ grounds)

/-- Decided rows are the same in every later state. -/
theorem decisions_stand (pool : Requests ι)
    (following : Pool.Following protocol Ended (blank origins) pool) (schedule : List ι)
    (along : Pool.Along env.interp DecidesOnce pool schedule) {row : DeviceAuthorization}
    (member : row ∈ pool.world.store.devices.rows) :
    ∃ later ∈ (Pool.exec env.interp pool schedule).world.store.devices.rows, Stands row later := by
  refine Pool.exec_pool_invariant (protocol_sound env)
    (fun pool => ∃ later ∈ pool.world.store.devices.rows, Stands row later) DecidesOnce
    ?_ following ⟨row, member, Stands.refl row⟩ schedule along
  rintro pool thread op next upcoming once permitted ⟨stored, storedIn, stands⟩
  obtain ⟨later, stillThere, still⟩ := stands_step env (move_of_allowed permitted)
    (decides_once_move once ⟨next, upcoming⟩) storedIn
  exact ⟨later, by rw [world_step upcoming]; exact stillThere, stands.trans still⟩

/-- The grounds of a request are the same in every later state. -/
theorem grounds_stay (env : Env) (pool : Requests ι)
    (following : Pool.Following protocol Ended (blank origins) pool) (schedule : List ι)
    {thread : ι} {grounds : Grounds} (known : (sessions origins pool thread).grounds = some grounds) :
    (sessions origins (Pool.exec env.interp pool schedule) thread).grounds = some grounds := by
  refine Pool.exec_pool_invariant (protocol_sound env)
    (fun pool => (sessions origins pool thread).grounds = some grounds) (fun _ _ => True)
    ?_ following known schedule (Pool.along_of_forall _ (fun _ _ => trivial) _ _)
  intro pool mover op next upcoming _ permitted before
  rw [sessions_step upcoming]
  rcases moved_cases env origins pool mover op thread with ⟨rfl, now⟩ | ⟨_, kept⟩
  · rw [now]
    exact grounds_kept (move_of_allowed permitted) before
  · rw [kept]
    exact before

/-- In every run whose decisions are written on undecided rows: the poll that
claims a device code finds the row approved and not denied, its tokens are
issued for the row's user at that moment, and a decision never changes. -/
theorem device_decisions_final (env : Env) (world : World) (origins : ι → Origin)
    (schedule : List ι)
    (along : Pool.Along env.interp DecidesOnce (opening env world origins) schedule) :
    (∀ earlier thread later deviceCode, schedule = earlier ++ thread :: later →
      (reached env world origins earlier).NextOp thread
        (.command (.markDeviceAuthorizationUsed deviceCode)) →
      (Command.exec env.backend (reached env world origins earlier).world.store
        (.markDeviceAuthorizationUsed deviceCode)).1 ≠ 0 →
      ∃ row ∈ (reached env world origins earlier).world.store.devices.rows,
        row.deviceCode = deviceCode ∧ row.approved = true ∧ row.denied = false ∧
          ∀ token, Saves (reached env world origins schedule) thread token →
            token.userId = row.userId) ∧
    (∀ earlier later, schedule = earlier ++ later →
      ∀ row ∈ (reached env world origins earlier).world.store.devices.rows, Decided row →
        ∃ final ∈ (reached env world origins schedule).world.store.devices.rows,
          final.deviceCode = row.deviceCode ∧ decision final = decision row) := by
  constructor
  · rintro earlier thread later deviceCode rfl upcoming _
    have start := ((Pool.along_append _ _ _ _ _).1 along).1
    have permitted := (following_reached env world origins earlier).allowed upcoming
    cases move_of_allowed permitted with
    | aside settled => cases settled
    | claimDevice row pending grounds found approved undenied unused owns presents =>
        obtain ⟨stored, member, stands⟩ := snapshots_stand earlier start thread row grounds
        have same := stands.decision (Or.inl approved)
        simp only [decision, Prod.mk.injEq] at same
        refine ⟨stored, member, stands.deviceCode, same.1.trans approved,
          same.2.1.trans undenied, fun token saves => ?_⟩
        obtain ⟨request, _, records, entitled⟩ := saved_of_saves saves
        have final := grounds_stay env _ (following_reached env world origins earlier) (thread :: later)
          grounds
        rw [← reached_append] at final
        obtain ⟨_, _, byDevice⟩ := entitled
        rw [final] at byDevice
        obtain ⟨_, _, _, _, sameUser, _⟩ := byDevice
        rw [records.userId, sameUser, same.2.2]
  · rintro earlier later rfl row member decided
    have rest := ((Pool.along_append _ _ _ _ _).1 along).2
    obtain ⟨final, still, stands⟩ :=
      decisions_stand _ (following_reached env world origins earlier) later rest member
    refine ⟨final, ?_, stands.deviceCode, stands.decision decided⟩
    rw [reached_append]
    exact still

/-! ### Two users and a polling device -/

def sampleDevice : DeviceAuthorization where
  id := "device-row"
  deviceCode := "device"
  userCode := "BCDF-GHJK"
  clientId := "app"
  scope := "read"
  createdAt := 0
  expiresAt := 600000000

def sampleDeviceWorld : World where
  store := { sampleStore with devices := ⟨[sampleDevice], by simp⟩ }
  process := sampleProcess

def sampleVerification (userId action : String) : VerifyRequest where
  userId := some userId
  form := [("user_code", "BCDF-GHJK"), ("action", action)]

def samplePoll : Request where
  form := [("grant_type", deviceCodeGrant), ("client_id", "app"), ("device_code", "device")]

/-- Alice approves, Bob denies, the device polls. -/
def sampleParties : Fin 3 → Origin
  | 0 => .verify (sampleVerification "alice" "approve")
  | 1 => .verify (sampleVerification "bob" "deny")
  | 2 => .token samplePoll

def sampleDecisions (schedule : List (Fin 3)) : Requests (Fin 3) :=
  reached sampleEnv sampleDeviceWorld sampleParties schedule

/-- `DecidesOnce`, as it is evaluated. -/
def decidesOnce (pool : Requests (Fin 3)) (thread : Fin 3) : Bool :=
  let undecided (userCode : String) : Bool := pool.world.store.devices.rows.all fun row =>
    row.userCode != userCode || !row.approved && !row.denied
  match pool.upcoming? thread with
  | some (.command (.approveDeviceAuthorization userCode _)) => undecided userCode
  | some (.command (.denyDeviceAuthorization userCode)) => undecided userCode
  | _ => true

theorem decides_once_of_eval {pool : Requests (Fin 3)} {thread : Fin 3}
    (evaluated : decidesOnce pool thread = true) : DecidesOnce pool thread := by
  intro userCode decides row member sameCode
  have undecided : (pool.world.store.devices.rows.all fun row =>
      row.userCode != userCode || !row.approved && !row.denied) = true := by
    unfold decidesOnce at evaluated
    rcases decides with ⟨userId, next⟩ | next
    · simpa only [next.upcoming] using evaluated
    · simpa only [next.upcoming] using evaluated
  have here := List.all_eq_true.1 undecided row member
  simp only [sameCode, bne_self_eq_false, Bool.false_or, Bool.and_eq_true,
    Bool.not_eq_true'] at here
  rintro (approved | denied)
  · rw [here.1] at approved
    cases approved
  · rw [here.2] at denied
    cases denied

/-- Alice decides before Bob looks: her approval stands. -/
theorem device_decisions_final_in_turn :
    ∃ final ∈ (sampleDecisions ([0, 0, 0] ++ [1, 1, 1])).world.store.devices.rows,
      final.deviceCode = "device" ∧ decision final = (true, false, some "alice") := by
  have evaluated : Pool.Along sampleEnv.interp (fun pool thread => decidesOnce pool thread = true)
      (opening sampleEnv sampleDeviceWorld sampleParties) ([0, 0, 0] ++ [1, 1, 1]) := by
    decide +kernel
  have approved : { sampleDevice with approved := true, userId := some "alice" } ∈
      (sampleDecisions [0, 0, 0]).world.store.devices.rows := by
    decide +kernel
  exact (device_decisions_final sampleEnv sampleDeviceWorld sampleParties ([0, 0, 0] ++ [1, 1, 1])
    (evaluated.mono fun _ _ => decides_once_of_eval)).2 [0, 0, 0] [1, 1, 1] rfl _ approved
    (Or.inl rfl)

/-- Bob has looked at the row before Alice approved it, and writes his denial
after the device has seen the approval and before it claims the code: the code
of a denied authorization is claimed, and tokens are issued on it. -/
theorem denied_device_redeemed :
    (sampleDecisions [0, 0, 1, 1, 0]).world.store.devices.rows.map decision =
        [(true, false, some "alice")] ∧
      (sampleDecisions [0, 0, 1, 1, 0, 2, 2, 2, 2, 2, 1]).world.store.devices.rows.map
        (fun row => (decision row, row.used)) = [((false, true, some "alice"), false)] ∧
      (sampleDecisions ([0, 0, 1, 1, 0, 2, 2, 2, 2, 2, 1] ++ [2])).world.store.devices.rows.map
        (fun row => (decision row, row.used)) = [((false, true, some "alice"), true)] ∧
      ((sampleDecisions ([0, 0, 1, 1, 0, 2, 2, 2, 2, 2, 1] ++ List.replicate 10 2)).answer? 2).map
        Response.status = some 200 := by
  decide +kernel

end OAuth2Server.DeviceDecision
