import OAuth2Server.Runs

/-!
# Grants are redeemed once

Authorization codes and device codes are claimed by a guarded update, so at
most one of any number of interleaved requests gets past the claim. Rotation
of a refresh token has no such guard: it is single-use exactly as long as no
two requests are between their lookup and their revocation at the same time.
-/

namespace OAuth2Server.SingleUse

open OAuth2Server Models Tables Storage Effects Interaction Interaction.Program Interleaving
open Dpop TokenEndpoint Protocol Runs Backends

set_option autoImplicit false

/-! ### Sessions that have entered `issue` -/

/-- The request has entered `TokenService.issue`, and was entitled to. -/
def Issuing (session : Session) : Prop :=
  session.issuance ≠ .pending ∧ ∃ request, session.Entitles request

/-- Once `issue` is entered, only its outcome is still learned. -/
theorem after_begun {session : Session} (begun : session.issuance ≠ .pending) (op : Op)
    (answer : op.Ans) :
    ∃ issuance, issuance ≠ .pending ∧
      after session op answer = { session with issuance := issuance } := by
  have unmoved : ∃ issuance, issuance ≠ .pending ∧
      session = { session with issuance := issuance } := ⟨session.issuance, begun, rfl⟩
  unfold after
  split
  · rename_i pending
    exact absurd pending begun
  · split
    · exact ⟨_, Issuance.noConfusion, rfl⟩
    · exact ⟨_, Issuance.noConfusion, rfl⟩
    · exact unmoved
  · exact unmoved
  · exact unmoved

theorem issuing_after {session : Session} (issuing : Issuing session) (op : Op)
    (answer : op.Ans) : Issuing (after session op answer) := by
  obtain ⟨begun, request, entitled⟩ := issuing
  obtain ⟨issuance, still, same⟩ := after_begun begun op answer
  rw [same]
  exact ⟨still, request, entitled⟩

theorem entering {session : Session} {request : IssueRequest}
    (permitted : allowed session (.ambient (.enterIssue request))) :
    session.issuance = .pending ∧ session.Entitles request := by
  cases issuance : session.issuance with
  | pending =>
      simp only [allowed, issuance] at permitted
      exact ⟨rfl, permitted⟩
  | entered _ => simp [allowed, issuance, Footprints.Settled, Footprints.Calm] at permitted
  | saved _ _ => simp [allowed, issuance, Footprints.Settled, Footprints.Calm] at permitted
  | refused _ => simp [allowed, issuance, Footprints.Settled, Footprints.Calm] at permitted

/-- The request reached `TokenService.issue` at some point of the run. -/
def ReachesIssue {ι : Type} (pool : Requests ι) (thread : ι) : Prop :=
  ∃ event ∈ pool.history thread, ∃ request, event.op = .ambient (.enterIssue request)

section Runs

variable {ι : Type} [DecidableEq ι] {env : Env} {world : World} {origins : ι → Origin}

theorem issuing_of_reaches {schedule : List ι} {thread : ι}
    (reaches : ReachesIssue (reached env world origins schedule) thread) :
    Issuing (sessions origins (reached env world origins schedule) thread) := by
  have tracked := Pool.history_invariant (protocol_sound env)
    (fun history session =>
      (∃ event ∈ history, ∃ request, event.op = .ambient (.enterIssue request)) → Issuing session)
    ?_ (following_reached env world origins [])
    ?_ schedule thread
  · exact tracked reaches
  · rintro history session op answer permitted _ before ⟨event, member, request, entered⟩
    rcases List.mem_append.1 member with old | new
    · exact issuing_after (before ⟨event, old, request, entered⟩) op answer
    · rw [List.mem_singleton] at new
      subst new
      change op = .ambient (.enterIssue request) at entered
      subst entered
      obtain ⟨pending, entitled⟩ := entering permitted
      refine ⟨?_, request, ?_⟩ <;> simp only [after, pending, Session.learn]
      · exact Issuance.noConfusion
      · exact entitled
  · rintro other ⟨event, member, _⟩
    cases member

/-! ### Authorization codes -/

/-- The request has won the claim of the code. -/
def HoldsCode (code : String) (session : Session) : Prop :=
  ∃ row, session.grounds = some (.code row) ∧ row.code = code ∧ session.stage = .claimed

def CodeUsed (code : String) (world : World) : Prop :=
  ∃ row ∈ world.store.codes.rows, row.code = code ∧ row.used = true

/-- `used` never returns to false. -/
theorem code_used_step {code : String} (op : Op) (used : CodeUsed code world) :
    CodeUsed code (env.interp op world).2 := by
  rcases op with read | write | act
  · exact used
  · obtain ⟨row, member, sameCode, spent⟩ := used
    obtain ⟨later, stored, rfl | rfl⟩ :=
      (codes_step env.backend world.store write).persists Spends.refl member
    · exact ⟨_, stored, sameCode, spent⟩
    · exact ⟨_, stored, sameCode, rfl⟩
  · exact used

/-- A claim is won only while the code is unused, and uses it. -/
theorem code_claim_won {code : String}
    (won : (Command.exec env.backend world.store (.markAuthorizationCodeUsed code)).1 ≠ 0) :
    ¬CodeUsed code world ∧
      CodeUsed code (env.interp (.command (.markAuthorizationCodeUsed code)) world).2 := by
  rw [Ne, mark_code_eq_zero_iff] at won
  simp only [not_forall, Bool.not_eq_true] at won
  obtain ⟨row, member, rfl, unused⟩ := won
  constructor
  · rintro ⟨other, stored, sameCode, used⟩
    have same := world.store.codes.eq_of_index (List.mem_singleton.2 rfl) stored member sameCode
    rw [same, unused] at used
    cases used
  · refine ⟨{ row with used := true }, ?_, rfl, rfl⟩
    change _ ∈ (Command.exec env.backend world.store (.markAuthorizationCodeUsed row.code)).2.codes.rows
    rw [codes_after_mark]
    exact List.mem_map.2 ⟨row, member, by simp [unused]⟩

theorem holds_code_gained {code : String} {session : Session} {op : Op} (move : Move session op)
    (held : HoldsCode code (after session op (env.interp op world).1)) :
    HoldsCode code session ∨ ¬CodeUsed code world ∧ CodeUsed code (env.interp op world).2 := by
  obtain ⟨row, grounds, rfl, claimed⟩ := held
  obtain ⟨known, already | ⟨_, claims⟩⟩ := claimed_after move grounds claimed
  · exact Or.inl ⟨row, known, rfl, already⟩
  · right
    rcases op with read | write | act
    · cases claims
    · generalize answer : (env.interp (.command write) world).1 = count at claims
      cases claims with
      | code row unused presents count won => exact code_claim_won (answer ▸ won)
    · cases claims

theorem holds_code_of_reaches {code : String} {schedule : List ι} {thread : ι}
    (presents : (origins thread).Presents .authorizationCode "code" code)
    (reaches : ReachesIssue (reached env world origins schedule) thread) :
    HoldsCode code (sessions origins (reached env world origins schedule) thread) := by
  obtain ⟨_, issued, entitled⟩ := issuing_of_reaches reaches
  obtain ⟨row, grounds, sameCode, byCode⟩ := entitled_by_code entitled (session_presents origins _ presents)
  exact ⟨row, grounds, sameCode, byCode.2.1⟩

/-- One winner a code. -/
theorem codes_exclusive (code : String) (schedule : List ι) :
    Pool.Exclusive (HoldsCode code) (CodeUsed code) (reached env world origins schedule).world
      (sessions origins (reached env world origins schedule)) := by
  refine run_always (Pool.Exclusive (HoldsCode code) (CodeUsed code))
    (fun pool thread op move exclusive => ?_) ?_ schedule
  · exact exclusive.update (code_used_step op) (holds_code_gained move)
  · refine ⟨fun thread held => ?_, fun left right held => ?_⟩ <;>
    · obtain ⟨row, grounds, _⟩ := held
      cases grounds

/-! ### Device codes -/

def HoldsDevice (deviceCode : String) (session : Session) : Prop :=
  ∃ row, session.grounds = some (.device row) ∧ row.deviceCode = deviceCode ∧
    session.stage = .claimed

def DeviceUsed (deviceCode : String) (world : World) : Prop :=
  ∃ row ∈ world.store.devices.rows, row.deviceCode = deviceCode ∧ row.used = true

theorem device_used_step {deviceCode : String} (op : Op) (used : DeviceUsed deviceCode world) :
    DeviceUsed deviceCode (env.interp op world).2 := by
  rcases op with read | write | act
  · exact used
  · obtain ⟨row, member, sameCode, spent⟩ := used
    obtain ⟨later, stored, advances⟩ :=
      (devices_step env.backend world.store write).persists Advances.refl member
    exact ⟨later, stored, advances.deviceCode.trans sameCode, advances.used spent⟩
  · exact used

theorem device_claim_won {deviceCode : String}
    (won : (Command.exec env.backend world.store (.markDeviceAuthorizationUsed deviceCode)).1 ≠ 0) :
    ¬DeviceUsed deviceCode world ∧
      DeviceUsed deviceCode
        (env.interp (.command (.markDeviceAuthorizationUsed deviceCode)) world).2 := by
  rw [Ne, mark_device_eq_zero_iff] at won
  simp only [not_forall, Bool.not_eq_true] at won
  obtain ⟨row, member, rfl, unused⟩ := won
  constructor
  · rintro ⟨other, stored, sameCode, used⟩
    have same := world.store.devices.eq_of_index List.mem_cons_self stored member sameCode
    rw [same, unused] at used
    cases used
  · refine ⟨{ row with used := true }, ?_, rfl, rfl⟩
    change _ ∈ (Command.exec env.backend world.store
      (.markDeviceAuthorizationUsed row.deviceCode)).2.devices.rows
    rw [devices_after_mark]
    exact List.mem_map.2 ⟨row, member, by simp [unused]⟩

theorem holds_device_gained {deviceCode : String} {session : Session} {op : Op}
    (move : Move session op)
    (held : HoldsDevice deviceCode (after session op (env.interp op world).1)) :
    HoldsDevice deviceCode session ∨
      ¬DeviceUsed deviceCode world ∧ DeviceUsed deviceCode (env.interp op world).2 := by
  obtain ⟨row, grounds, rfl, claimed⟩ := held
  obtain ⟨known, already | ⟨_, claims⟩⟩ := claimed_after move grounds claimed
  · exact Or.inl ⟨row, known, rfl, already⟩
  · right
    rcases op with read | write | act
    · cases claims
    · generalize answer : (env.interp (.command write) world).1 = count at claims
      cases claims with
      | device row approved undenied unused presents count won =>
          exact device_claim_won (answer ▸ won)
    · cases claims

theorem holds_device_of_reaches {deviceCode : String} {schedule : List ι} {thread : ι}
    (presents : (origins thread).Presents .deviceCode "device_code" deviceCode)
    (reaches : ReachesIssue (reached env world origins schedule) thread) :
    HoldsDevice deviceCode (sessions origins (reached env world origins schedule) thread) := by
  obtain ⟨_, issued, entitled⟩ := issuing_of_reaches reaches
  obtain ⟨row, grounds, sameCode, byDevice⟩ :=
    entitled_by_device entitled (session_presents origins _ presents)
  exact ⟨row, grounds, sameCode, byDevice.2.1⟩

theorem devices_exclusive (deviceCode : String) (schedule : List ι) :
    Pool.Exclusive (HoldsDevice deviceCode) (DeviceUsed deviceCode)
      (reached env world origins schedule).world
      (sessions origins (reached env world origins schedule)) := by
  refine run_always (Pool.Exclusive (HoldsDevice deviceCode) (DeviceUsed deviceCode))
    (fun pool thread op move exclusive => ?_) ?_ schedule
  · exact exclusive.update (device_used_step op) (holds_device_gained move)
  · refine ⟨fun thread held => ?_, fun left right held => ?_⟩ <;>
    · obtain ⟨row, grounds, _⟩ := held
      cases grounds

/-- What every operation keeps, a run keeps. -/
theorem kept_along {fact : World → Prop}
    (step : ∀ op world, fact world → fact (env.interp op world).2) (pool : Requests ι)
    (schedule : List ι) (holds : fact pool.world) :
    fact (Pool.exec env.interp pool schedule).world := by
  induction schedule generalizing pool with
  | nil => exact holds
  | cons thread later induction =>
      refine induction _ ?_
      rcases Pool.step_cases env.interp pool thread with ⟨op, next, upcoming⟩ | unmoved
      · rw [Pool.step_of_call env.interp upcoming]
        exact step op _ holds
      · rw [unmoved]
        exact holds

/-- At most one of any number of interleaved requests for a code, or for a
device code, ever reaches `TokenService.issue`, and a used code stays used. -/
theorem grants_redeemed_once (env : Env) (world : World) (requests : ι → Request) :
    (∀ schedule code left right,
      (Origin.token (requests left)).Presents .authorizationCode "code" code →
      (Origin.token (requests right)).Presents .authorizationCode "code" code →
      ReachesIssue (tokenRun env world requests schedule) left →
      ReachesIssue (tokenRun env world requests schedule) right → left = right) ∧
    (∀ schedule deviceCode left right,
      (Origin.token (requests left)).Presents .deviceCode "device_code" deviceCode →
      (Origin.token (requests right)).Presents .deviceCode "device_code" deviceCode →
      ReachesIssue (tokenRun env world requests schedule) left →
      ReachesIssue (tokenRun env world requests schedule) right → left = right) ∧
    (∀ earlier later code, CodeUsed code (tokenRun env world requests earlier).world →
      CodeUsed code (tokenRun env world requests (earlier ++ later)).world) ∧
    (∀ earlier later deviceCode, DeviceUsed deviceCode (tokenRun env world requests earlier).world →
      DeviceUsed deviceCode (tokenRun env world requests (earlier ++ later)).world) := by
  refine ⟨?_, ?_, ?_, ?_⟩
  · intro schedule code left right presentsLeft presentsRight leftReaches rightReaches
    exact (codes_exclusive code schedule).once left right
      (holds_code_of_reaches presentsLeft leftReaches)
      (holds_code_of_reaches presentsRight rightReaches)
  · intro schedule deviceCode left right presentsLeft presentsRight leftReaches rightReaches
    exact (devices_exclusive deviceCode schedule).once left right
      (holds_device_of_reaches presentsLeft leftReaches)
      (holds_device_of_reaches presentsRight rightReaches)
  · intro earlier later code used
    unfold tokenRun
    rw [reached_append]
    exact kept_along (fun op _ => code_used_step op) _ later used
  · intro earlier later deviceCode used
    unfold tokenRun
    rw [reached_append]
    exact kept_along (fun op _ => device_used_step op) _ later used

/-! ### Refresh tokens -/

/-- The request has revoked the row it is rotating. -/
def HoldsRefresh (refreshToken : String) (session : Session) : Prop :=
  ∃ row, session.grounds = some (.refresh row) ∧ row.refreshToken = some refreshToken ∧
    session.stage = .claimed

/-- The row `get_token_by_refresh_token` answers with. -/
def refreshRow (refreshToken : String) (world : World) : Option Token :=
  world.store.tokens.first (·.refreshToken == some refreshToken)

def RefreshRevoked (refreshToken : String) (world : World) : Prop :=
  ∃ row, refreshRow refreshToken world = some row ∧ row.revoked = true

/-- The refresh token can still be rotated. -/
def RefreshLive (refreshToken : String) (world : World) : Prop :=
  ∃ row, refreshRow refreshToken world = some row ∧ row.revoked = false

/-- The row a request has read under the refresh token is still the one that is
looked up under it. -/
def KnowsRefresh (refreshToken : String) (world : World) (session : Session) : Prop :=
  ∀ row, session.grounds = some (.refresh row) → row.refreshToken = some refreshToken →
    ∃ stored, refreshRow refreshToken world = some stored ∧ stored.accessToken = row.accessToken

theorem refresh_row_step (env : Env) {refreshToken : String} {row : Token} (op : Op)
    (found : refreshRow refreshToken world = some row) :
    ∃ later, refreshRow refreshToken (env.interp op world).2 = some later ∧ Evolves row later := by
  rcases op with read | write | act
  · exact ⟨row, found, Evolves.refl row⟩
  · exact (tokens_step env.backend world.store write).find Evolves.refl
      (fun before later evolves => by rw [evolves.refreshToken]) found
  · exact ⟨row, found, Evolves.refl row⟩

theorem refresh_revoked_step {refreshToken : String} (op : Op)
    (revoked : RefreshRevoked refreshToken world) :
    RefreshRevoked refreshToken (env.interp op world).2 := by
  obtain ⟨row, found, revoked⟩ := revoked
  obtain ⟨later, still, evolves⟩ := refresh_row_step env op found
  exact ⟨later, still, evolves.revoked revoked⟩

theorem knows_refresh_step {refreshToken : String} {session : Session} (op : Op)
    (knows : KnowsRefresh refreshToken world session) :
    KnowsRefresh refreshToken (env.interp op world).2 session := by
  intro row grounds carries
  obtain ⟨stored, found, sameToken⟩ := knows row grounds carries
  obtain ⟨later, still, evolves⟩ := refresh_row_step env op found
  exact ⟨later, still, evolves.accessToken.trans sameToken⟩

theorem knows_refresh_after {refreshToken : String} {session : Session} {op : Op}
    (move : Move session op) (knows : KnowsRefresh refreshToken world session) :
    KnowsRefresh refreshToken (env.interp op world).2
      (after session op (env.interp op world).1) := by
  intro row grounds carries
  rcases grounds_after move grounds with known | ⟨_, _, reads⟩
  · exact knows_refresh_step op knows row known carries
  · rcases op with read | write | act
    · generalize answer : (env.interp (.query read) world).1 = found at reads
      cases reads with
      | refresh presented row =>
          have carried := List.find?_some answer
          have same : presented = refreshToken := by
            rw [beq_iff_eq, carries] at carried
            exact (Option.some.inj carried).symm
          exact ⟨row, same ▸ answer, rfl⟩
    · cases reads
    · cases reads

/-- A rotation is won only while the token is live, and revokes it. -/
theorem refresh_rotated {refreshToken : String} {row : Token}
    (carries : row.refreshToken = some refreshToken) {session : Session}
    (grounds : session.grounds = some (.refresh row))
    (knows : KnowsRefresh refreshToken world session) (live : RefreshLive refreshToken world) :
    ¬RefreshRevoked refreshToken world ∧
      RefreshRevoked refreshToken
        (env.interp (.command (.revokeToken row.accessToken)) world).2 := by
  obtain ⟨stored, found, sameToken⟩ := knows row grounds carries
  constructor
  · rintro ⟨revokedRow, foundRevoked, revoked⟩
    obtain ⟨liveRow, foundLive, unrevoked⟩ := live
    rw [foundLive] at foundRevoked
    cases foundRevoked
    rw [unrevoked] at revoked
    cases revoked
  · obtain ⟨later, still, evolves⟩ :=
      refresh_row_step env (.command (.revokeToken row.accessToken)) found
    refine ⟨later, still, ?_⟩
    have covers : ∀ other : Token, (other.accessToken == row.accessToken) = true →
        other.revoked = false →
          (other.accessToken == row.accessToken || other.refreshToken == some row.accessToken) =
            true := by
      intro other hit _
      rw [hit, Bool.true_or]
    refine revoked_of_matching (fun other => other.accessToken == row.accessToken) covers
      (Table.mem_of_first still).1 ?_
    simp [evolves.accessToken, sameToken]

/-- The condition under which rotation is single-use: whenever a request that
presents the refresh token is about to revoke the row it has read, the token is
still live. -/
def RotatesLive (requests : ι → Request) (refreshToken : String) (pool : Requests ι)
    (thread : ι) : Prop :=
  (Origin.token (requests thread)).Presents .refreshToken "refresh_token" refreshToken →
    (∃ accessToken, pool.NextOp thread (.command (.revokeToken accessToken))) →
      RefreshLive refreshToken pool.world

theorem refresh_exclusive (requests : ι → Request) (refreshToken : String) (schedule : List ι)
    (along : Pool.Along env.interp (RotatesLive requests refreshToken)
      (opening env world (tokenOrigins requests)) schedule) :
    Pool.Exclusive (HoldsRefresh refreshToken) (RefreshRevoked refreshToken)
      (tokenRun env world requests schedule).world
      (sessions (tokenOrigins requests) (tokenRun env world requests schedule)) := by
  refine (run_invariant (fun world states =>
    Pool.Exclusive (HoldsRefresh refreshToken) (RefreshRevoked refreshToken) world states ∧
      ∀ thread, KnowsRefresh refreshToken world (states thread))
    (RotatesLive requests refreshToken) ?_ ?_ schedule along).1
  · rintro pool thread op upcoming condition move ⟨exclusive, knows⟩
    refine ⟨exclusive.update (refresh_revoked_step op) ?_, ?_⟩
    · rintro ⟨row, grounds, carries, claimed⟩
      obtain ⟨known, already | ⟨_, claims⟩⟩ := claimed_after move grounds claimed
      · exact Or.inl ⟨row, known, carries, already⟩
      · right
        rcases op with read | write | act
        · cases claims
        · generalize (env.interp (.command write) pool.world).1 = answer at claims
          cases claims with
          | refresh row live presented rowCarries presents =>
              rw [session_origin] at presents
              cases carries.symm.trans rowCarries
              exact refresh_rotated carries known (knows thread) (condition presents ⟨_, upcoming⟩)
        · cases claims
    · intro other
      unfold moved
      by_cases same : other = thread
      · subst same
        rw [Function.update_self]
        exact knows_refresh_after move (knows other)
      · rw [Function.update_of_ne same]
        exact knows_refresh_step op (knows other)
  · refine ⟨⟨fun thread held => ?_, fun left right held => ?_⟩, fun thread row grounds => ?_⟩
    · obtain ⟨row, grounds, _⟩ := held
      cases grounds
    · obtain ⟨row, grounds, _⟩ := held
      cases grounds
    · cases grounds

/-- In every run in which each request that presents `refreshToken` revokes a row
that is still live, at most one of them is answered with a token pair. -/
theorem refresh_rotated_once (env : Env) (world : World) (requests : ι → Request)
    (refreshToken : String) (schedule : List ι)
    (along : Pool.Along env.interp (RotatesLive requests refreshToken)
      (opening env world (tokenOrigins requests)) schedule)
    (left right : ι)
    (leftPresents : (Origin.token (requests left)).Presents .refreshToken "refresh_token"
      refreshToken)
    (rightPresents : (Origin.token (requests right)).Presents .refreshToken "refresh_token"
      refreshToken)
    (leftResponse rightResponse : Response)
    (leftAnswered : (tokenRun env world requests schedule).answer? left = some leftResponse)
    (rightAnswered : (tokenRun env world requests schedule).answer? right = some rightResponse)
    (leftOk : leftResponse.status = 200) (rightOk : rightResponse.status = 200) :
    left = right := by
  have holds : ∀ thread response,
      (Origin.token (requests thread)).Presents .refreshToken "refresh_token" refreshToken →
      (tokenRun env world requests schedule).answer? thread = some response →
      response.status = 200 →
      HoldsRefresh refreshToken
        (sessions (tokenOrigins requests) (tokenRun env world requests schedule) thread) := by
    intro thread response presents answered ok
    have asked : tokenOrigins requests thread = .token (requests thread) := rfl
    obtain ⟨issued, row, _, _, entitled⟩ := granted_of_ok asked answered ok
    obtain ⟨found, grounds, carries, byRefresh⟩ := entitled_by_refresh entitled
      (session_presents (tokenOrigins requests) _ presents)
    exact ⟨found, grounds, carries, byRefresh.2.1⟩
  exact (refresh_exclusive requests refreshToken schedule along).once left right
    (holds left leftResponse leftPresents leftAnswered leftOk)
    (holds right rightResponse rightPresents rightAnswered rightOk)

end Runs

/-- `RotatesLive`, as it is evaluated. -/
def rotatesLive (refreshToken : String) (pool : Requests Bool) (thread : Bool) : Bool :=
  match pool.upcoming? thread with
  | some (.command (.revokeToken _)) =>
      (refreshRow refreshToken pool.world).any fun row => !row.revoked
  | _ => true

theorem rotates_live_of_eval {requests : Bool → Request} {refreshToken : String}
    {pool : Requests Bool} {thread : Bool} (evaluated : rotatesLive refreshToken pool thread = true) :
    RotatesLive requests refreshToken pool thread := by
  rintro _ ⟨accessToken, next⟩
  unfold rotatesLive at evaluated
  rw [next.upcoming] at evaluated
  obtain ⟨row, found, live⟩ := (Option.any_eq_true _ _).1 evaluated
  exact ⟨row, found, by simpa using live⟩

/-- The sample refresh token presented twice, in any order of steps. -/
def sampleRotations (schedule : List Bool) : Requests Bool :=
  tokenRun sampleEnv sampleTokenWorld (fun _ => sampleRefresh) schedule

def inTurn : List Bool := List.replicate 14 false ++ List.replicate 14 true

def lockstep : List Bool := (List.replicate 14 [false, true]).flatten

/-- Two requests one after the other: the first is answered with a new pair, and
no other is. -/
theorem refresh_rotated_once_in_turn :
    (∃ response, (sampleRotations inTurn).answer? false = some response ∧ response.status = 200) ∧
    ∀ thread response, (sampleRotations inTurn).answer? thread = some response →
      response.status = 200 → thread = false := by
  have granted : ((sampleRotations inTurn).answer? false).map Response.status = some 200 := by
    decide +kernel
  obtain ⟨first, answered, ok⟩ := Option.map_eq_some_iff.1 granted
  have evaluated : Pool.Along sampleEnv.interp
      (fun pool thread => rotatesLive "refresh" pool thread = true)
      (opening sampleEnv sampleTokenWorld (tokenOrigins fun _ => sampleRefresh)) inTurn := by
    decide +kernel
  have presents : (Origin.token sampleRefresh).Presents .refreshToken "refresh_token" "refresh" :=
    ⟨sampleRefresh, rfl, rfl, rfl⟩
  refine ⟨⟨first, answered, ok⟩, fun thread response other otherOk => ?_⟩
  exact refresh_rotated_once sampleEnv sampleTokenWorld (fun _ => sampleRefresh) "refresh" inTurn
    (evaluated.mono fun _ _ => rotates_live_of_eval) thread false presents presents response first
    other answered otherOk ok

/-- Two requests in lockstep are both answered with a new pair: both read the
row before either revokes it. -/
theorem refresh_rotated_twice_in_lockstep :
    ((sampleRotations lockstep).answer? false).map Response.status = some 200 ∧
      ((sampleRotations lockstep).answer? true).map Response.status = some 200 := by
  decide +kernel

end OAuth2Server.SingleUse
