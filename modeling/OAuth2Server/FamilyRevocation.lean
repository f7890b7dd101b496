import OAuth2Server.Runs

/-!
# The replay of a code and its family

A replayed code is answered by one sweep over the rows of its family. The sweep
reaches the rows that exist at that moment; a request that has won the claim,
or is rotating a row of the family, inserts its own row later.
-/

namespace OAuth2Server.FamilyRevocation

open OAuth2Server Models Tables Storage Effects Interaction Interaction.Program Interleaving
open Dpop TokenEndpoint Footprints Protocol Runs Backends

set_option autoImplicit false

variable {ι : Type} [DecidableEq ι] {env : Env} {world : World} {origins : ι → Origin}
  {code family : String}

/-! ### A code and the family it stands for -/

/-- The code is the one that carries the family. -/
def Carries (code family : String) (row : AuthorizationCode) : Prop :=
  row.code = code ↔ row.tokenFamily = some family

/-- No row under the code can be claimed any more. -/
def CodeSpent (code : String) (world : World) : Prop :=
  ∀ row ∈ world.store.codes.rows, row.code = code → row.used = true

theorem carries_spends {before later : AuthorizationCode} (spends : Spends before later)
    (carries : Carries code family before) : Carries code family later := by
  rcases spends with rfl | rfl
  · exact carries
  · exact carries

theorem code_spent_step {session : Session} {op : Op} (move : Move session op)
    (spent : CodeSpent code world) : CodeSpent code (env.interp op world).2 := by
  intro row member sameCode
  rcases (codes_moved env world move).origin Spends.refl member with
    ⟨before, old, rfl | rfl⟩ | impossible
  · exact spent _ old sameCode
  · rfl
  · exact impossible.elim

/-- What is known of the code in every state of a run. -/
structure Known (env : Env) (code family : String) (world : World) (states : ι → Session) :
    Prop where
  stored : ∀ row ∈ world.store.codes.rows, Carries code family row
  undrawn : Undrawn env family world
  read : ∀ thread row, (states thread).grounds = some (.code row) → Carries code family row
  unpicked : ∀ thread, (states thread).drawn ≠ some family
  consistent : ∀ thread, Consistent (states thread)
  spent : ∀ thread row, (states thread).grounds = some (.code row) → row.code = code →
    row.used = true ∨ (states thread).stage = .lost → CodeSpent code world

theorem spent_after {session : Session} {op : Op} (move : Move session op)
    {row : AuthorizationCode} (sameCode : row.code = code)
    (before : session.grounds = some (.code row) → row.used = true ∨ session.stage = .lost →
      CodeSpent code world)
    (known : (after session op (env.interp op world).1).grounds = some (.code row))
    (ended : row.used = true ∨ (after session op (env.interp op world).1).stage = .lost) :
    CodeSpent code (env.interp op world).2 := by
  have step := code_step move known
  generalize reachedStage : (after session op (env.interp op world).1).stage = stage at step ended
  generalize given : (env.interp op world).1 = answer at step
  cases step with
  | kept _ _ grounds => exact code_spent_step move (before grounds ended)
  | read looked =>
      rcases ended with used | lost
      · have found := Table.mem_of_first given
        have spent : CodeSpent code world := by
          intro other member otherCode
          have same := world.store.codes.eq_of_index (List.mem_singleton.2 rfl) member found.1
            (otherCode.trans sameCode.symm)
          exact same ▸ used
        exact code_spent_step move spent
      · cases lost
  | marked count grounds found =>
      rcases ended with used | lost
      · exact code_spent_step move (before grounds (Or.inl used))
      · split at lost
        · rename_i none
          refine code_spent_step move ?_
          exact sameCode ▸ (mark_code_eq_zero_iff row.code).1 (given.trans none)
        · cases lost
  | swept looked count replays carries =>
      rcases ended with used | lost
      · exact code_spent_step move (before replays.1 (Or.inl used))
      · cases lost

theorem known_step {pool : Requests ι} {thread : ι} {op : Op}
    (move : Move (sessions origins pool thread) op)
    (known : Known env code family pool.world (sessions origins pool)) :
    Known env code family (env.interp op pool.world).2 (moved env origins pool thread op) where
  stored := by
    intro row member
    rcases (codes_moved env pool.world move).origin Spends.refl member with
      ⟨before, old, spends⟩ | impossible
    · exact carries_spends spends (known.stored before old)
    · exact impossible.elim
  undrawn := undrawn_step op known.undrawn
  read := by
    intro other row grounds
    rcases moved_cases env origins pool thread op other with ⟨rfl, now⟩ | ⟨_, kept⟩
    · rw [now] at grounds
      rcases grounds_after move grounds with before | ⟨_, _, reads⟩
      · exact known.read other row before
      · generalize given : (env.interp op pool.world).1 = answer at reads
        cases reads with
        | code looked row => exact known.stored row (Table.mem_of_first given).1
    · exact known.read other row (kept ▸ grounds)
  unpicked := by
    intro other
    rcases moved_cases env origins pool thread op other with ⟨rfl, now⟩ | ⟨_, kept⟩
    · rw [now]
      exact drawn_step op known.undrawn (known.unpicked other)
    · rw [kept]
      exact known.unpicked other
  consistent := by
    intro other
    rcases moved_cases env origins pool thread op other with ⟨rfl, now⟩ | ⟨_, kept⟩
    · rw [now]
      exact consistent_after move (known.consistent other)
    · rw [kept]
      exact known.consistent other
  spent := by
    intro other row grounds sameCode ended
    rcases moved_cases env origins pool thread op other with ⟨rfl, now⟩ | ⟨_, kept⟩
    · rw [now] at grounds ended
      exact spent_after move sameCode
        (fun before => known.spent other row before sameCode) grounds ended
    · rw [kept] at grounds ended
      exact code_spent_step move (known.spent other row grounds sameCode ended)

/-! ### Requests that will still insert a row -/

/-- The request has consumed what entitles it to a row of the family, or has
read a live row of the family, and its own row is not inserted yet. -/
def Threatens (code family : String) (session : Session) : Prop :=
  (session.issuance = .pending ∨ ∃ request, session.issuance = .entered request) ∧
    ((∃ row, session.grounds = some (.code row) ∧ row.code = code ∧ session.stage = .claimed) ∨
      ∃ row, session.grounds = some (.refresh row) ∧ row.tokenFamily = some family ∧
        row.revoked = false)

/-- A request that has been answered threatens nobody. -/
def InFlight (code family : String) (origins : ι → Origin) (pool : Requests ι) (thread : ι) :
    Prop :=
  pool.answer? thread = none ∧ Threatens code family (sessions origins pool thread)

def FamilyRevoked (family : String) (world : World) : Prop :=
  ∀ row ∈ world.store.tokens.rows, row.tokenFamily = some family → row.revoked = true

/-- The family is dead: no row of it is live, and nobody is about to add one. -/
structure Dead (code family : String) (origins : ι → Origin) (pool : Requests ι) : Prop where
  spent : CodeSpent code pool.world
  revoked : FamilyRevoked family pool.world
  quiet : ∀ thread, ¬InFlight code family origins pool thread

/-- The request has answered a replay of the code with a sweep. -/
def Swept (code : String) (session : Session) : Prop :=
  ∃ row, session.grounds = some (.code row) ∧ row.code = code ∧ session.stage = .swept

/-- Only a request in flight saves a row of the family. -/
theorem family_of_saved {session : Session} {request : IssueRequest} {row : Token}
    (read : ∀ found, session.grounds = some (.code found) → Carries code family found)
    (unpicked : session.drawn ≠ some family)
    (entered : session.issuance = .entered request) (entitled : session.Entitles request)
    (records : Records request row) (member : row.tokenFamily = some family) :
    Threatens code family session := by
  rw [records.tokenFamily] at member
  refine ⟨Or.inr ⟨request, entered⟩, ?_⟩
  obtain ⟨_, _, grounds⟩ := entitled
  split at grounds
  · rename_i found known
    obtain ⟨_, claimed, _, _, _, _, _, sameFamily⟩ := grounds
    exact Or.inl ⟨found, known, (read found known).2 (sameFamily ▸ member), claimed⟩
  · rename_i found known
    obtain ⟨_, _, _, live, _, _, _, _, sameFamily⟩ := grounds
    rw [member] at sameFamily
    rcases Option.or_eq_some_iff.1 sameFamily.symm with own | ⟨_, drawn⟩
    · exact Or.inr ⟨found, known, (Option.filter_eq_some_iff.1 own).1, live⟩
    · exact absurd drawn unpicked
  · obtain ⟨_, _, _, _, _, _, _, _, drawn⟩ := grounds
    exact absurd (drawn.symm.trans member) unpicked
  · obtain ⟨_, _, _, _, _, _, none⟩ := grounds
    rw [member] at none
    cases none
  · exact grounds.elim
  · obtain ⟨_, _, _, none, _⟩ := grounds
    rw [member] at none
    cases none

theorem unsettled_before {session : Session} {op : Op} {answer : op.Ans}
    (unsettled : (after session op answer).issuance = .pending ∨
      ∃ request, (after session op answer).issuance = .entered request) :
    session.issuance = .pending ∨ ∃ request, session.issuance = .entered request := by
  cases issuance : session.issuance with
  | pending => exact Or.inl rfl
  | entered request => exact Or.inr ⟨request, rfl⟩
  | saved request row => simp [after, issuance] at unsettled
  | refused request => simp [after, issuance] at unsettled

/-- In a dead family nobody becomes a threat. -/
theorem threatens_before {session : Session} {op : Op} (move : Move session op)
    (spent : CodeSpent code world) (revoked : FamilyRevoked family world)
    (threatens : Threatens code family (after session op (env.interp op world).1)) :
    Threatens code family session := by
  obtain ⟨unsettled, ⟨row, grounds, sameCode, claimed⟩ | ⟨row, grounds, sameFamily, live⟩⟩ := threatens
  · obtain ⟨known, already | ⟨_, claims⟩⟩ := claimed_after move grounds claimed
    · exact ⟨unsettled_before unsettled, Or.inl ⟨row, known, sameCode, already⟩⟩
    · generalize given : (env.interp op world).1 = answer at claims
      cases claims with
      | code row unused presents count won =>
          have none : (Command.exec env.backend world.store
              (.markAuthorizationCodeUsed row.code)).1 = 0 :=
            (mark_code_eq_zero_iff row.code).2 (sameCode ▸ spent)
          exact absurd (given.symm.trans none) won
  · rcases grounds_after move grounds with known | ⟨_, _, reads⟩
    · exact ⟨unsettled_before unsettled, Or.inr ⟨row, known, sameFamily, live⟩⟩
    · generalize given : (env.interp op world).1 = answer at reads
      cases reads with
      | refresh looked row =>
          have dead := revoked row (Table.mem_of_first given).1 sameFamily
          rw [dead] at live
          cases live

theorem in_flight_other {pool : Requests ι} {thread other : ι} {op : Op}
    {next : op.Ans → Handler Response} (upcoming : pool.rest thread = .call op next)
    (different : other ≠ thread)
    (inFlight : InFlight code family origins (Pool.step env.interp pool thread) other) :
    InFlight code family origins pool other := by
  obtain ⟨unfinished, threatens⟩ := inFlight
  rw [sessions_step upcoming] at threatens
  rcases moved_cases env origins pool thread op other with ⟨same, _⟩ | ⟨_, kept⟩
  · exact absurd same different
  · rw [kept] at threatens
    rw [Pool.step_of_call env.interp upcoming] at unfinished
    unfold Pool.answer? at unfinished
    dsimp only at unfinished
    rw [Function.update_of_ne different] at unfinished
    exact ⟨unfinished, threatens⟩

omit [DecidableEq ι] in
theorem unanswered {pool : Requests ι} {thread : ι} {op : Op} {next : op.Ans → Handler Response}
    (upcoming : pool.rest thread = .call op next) : pool.answer? thread = none := by
  unfold Pool.answer?
  rw [upcoming]
  rfl

theorem dead_step {pool : Requests ι} {thread : ι} {op : Op} {next : op.Ans → Handler Response}
    (upcoming : pool.rest thread = .call op next) (move : Move (sessions origins pool thread) op)
    (known : Known env code family pool.world (sessions origins pool))
    (dead : Dead code family origins pool) :
    Dead code family origins (Pool.step env.interp pool thread) where
  spent := by
    rw [world_step upcoming]
    exact code_spent_step move dead.spent
  revoked := by
    rw [world_step upcoming]
    intro row member sameFamily
    rcases (tokens_moved env pool.world op).origin Evolves.refl member with ⟨before, old, evolves⟩ | inserted
    · exact evolves.revoked (dead.revoked before old (evolves.tokenFamily ▸ sameFamily))
    · subst inserted
      cases move with
      | aside settled => cases settled
      | save request row entered records =>
          have entitled := known.consistent thread
          simp only [Consistent, entered] at entitled
          have threatens := family_of_saved (known.read thread) (known.unpicked thread) entered
            entitled records sameFamily
          exact absurd ⟨unanswered upcoming, threatens⟩ (dead.quiet thread)
  quiet := by
    intro other inFlight
    by_cases same : other = thread
    · subst same
      obtain ⟨_, threatens⟩ := inFlight
      rw [sessions_step upcoming] at threatens
      rcases moved_cases env origins pool other op other with ⟨_, now⟩ | ⟨different, _⟩
      · rw [now] at threatens
        exact dead.quiet other ⟨unanswered upcoming,
          threatens_before move dead.spent dead.revoked threatens⟩
      · exact different rfl
    · exact dead.quiet other (in_flight_other upcoming same inFlight)

/-! ### Runs -/

/-- The condition under which a replay kills the grant: when a request on the
code is about to sweep the family, no other request is in flight. -/
def SweepsAlone (requests : ι → Request) (code family : String) (pool : Requests ι) (thread : ι) :
    Prop :=
  (Origin.token (requests thread)).Presents .authorizationCode "code" code →
    pool.NextOp thread (.command (.revokeTokenFamily family)) →
      ∀ other, other ≠ thread → ¬InFlight code family (tokenOrigins requests) pool other

/-- The sweep itself kills the family. -/
theorem dead_of_sweep {requests : ι → Request} {pool : Requests ι} {thread : ι}
    {next : Nat → Handler Response} {row : AuthorizationCode} (sameCode : row.code = code)
    (upcoming : pool.rest thread = .call (.command (.revokeTokenFamily family)) next)
    (move : Move (sessions (tokenOrigins requests) pool thread)
      (.command (.revokeTokenFamily family)))
    (condition : SweepsAlone requests code family pool thread)
    (known : Known env code family pool.world (sessions (tokenOrigins requests) pool))
    (replays : (sessions (tokenOrigins requests) pool thread).ReplaysCode row)
    (swept : Swept code (sessions (tokenOrigins requests)
      (Pool.step env.interp pool thread) thread)) :
    Dead code family (tokenOrigins requests) (Pool.step env.interp pool thread) where
  spent := by
    rw [world_step upcoming]
    refine code_spent_step move (known.spent thread row replays.1 sameCode ?_)
    exact replays.2.2.2.imp_left fun found => found.2
  revoked := by
    rw [world_step upcoming]
    intro later member sameFamily
    exact revoked_of_matching (fun row => row.tokenFamily == some family)
      (fun _ hit _ => hit) member (by simp [sameFamily])
  quiet := by
    intro other inFlight
    by_cases same : other = thread
    · subst same
      obtain ⟨_, _, ⟨_, _, _, claimed⟩ | ⟨_, refresh, _⟩⟩ := inFlight
      · obtain ⟨_, _, _, stage⟩ := swept
        cases stage.symm.trans claimed
      · obtain ⟨_, grounds, _⟩ := swept
        cases grounds.symm.trans refresh
    · have presents := replays.2.2.1
      rw [session_origin, sameCode] at presents
      exact condition presents ⟨next, upcoming⟩ other same (in_flight_other upcoming same inFlight)

theorem swept_step {requests : ι → Request} {pool : Requests ι} {thread : ι} {op : Op}
    {next : op.Ans → Handler Response} (upcoming : pool.rest thread = .call op next)
    (condition : SweepsAlone requests code family pool thread)
    (move : Move (sessions (tokenOrigins requests) pool thread) op)
    (known : Known env code family pool.world (sessions (tokenOrigins requests) pool))
    (before : (∃ other, Swept code (sessions (tokenOrigins requests) pool other)) →
      Dead code family (tokenOrigins requests) pool)
    (swept : ∃ other, Swept code
      (sessions (tokenOrigins requests) (Pool.step env.interp pool thread) other)) :
    Dead code family (tokenOrigins requests) (Pool.step env.interp pool thread) := by
  obtain ⟨other, swept⟩ := swept
  have sweptNow := swept
  obtain ⟨row, grounds, sameCode, stage⟩ := swept
  rw [sessions_step upcoming] at grounds stage
  rcases moved_cases env (tokenOrigins requests) pool thread op other with ⟨rfl, now⟩ | ⟨_, kept⟩
  · rw [now] at grounds stage
    have step := code_step move grounds
    rw [stage] at step
    generalize (env.interp op pool.world).1 = answer at step
    generalize reachedStage : Stage.swept = reached at step
    cases step with
    | kept _ _ earlier =>
        exact dead_step upcoming move known (before ⟨other, row, earlier, sameCode, reachedStage.symm⟩)
    | read looked => cases reachedStage
    | marked count _ _ => split at reachedStage <;> cases reachedStage
    | swept named count replays carries =>
        have sameFamily := (known.read other row replays.1).1 sameCode
        cases carries.symm.trans sameFamily
        exact dead_of_sweep sameCode upcoming move condition known replays sweptNow
  · rw [kept] at grounds stage
    exact dead_step upcoming move known (before ⟨other, row, grounds, sameCode, stage⟩)

/-- What holds of the code in the states of a run that meets the condition. -/
theorem dead_of_swept {requests : ι → Request}
    (stored : ∀ row ∈ world.store.codes.rows, Carries code family row)
    (undrawn : Undrawn env family world) (schedule : List ι)
    (along : Pool.Along env.interp (SweepsAlone requests code family)
      (opening env world (tokenOrigins requests)) schedule) :
    Known env code family (tokenRun env world requests schedule).world
        (sessions (tokenOrigins requests) (tokenRun env world requests schedule)) ∧
      ((∃ thread, Swept code (sessions (tokenOrigins requests)
          (tokenRun env world requests schedule) thread)) →
        Dead code family (tokenOrigins requests) (tokenRun env world requests schedule)) := by
  refine run_pool_invariant (fun pool =>
    Known env code family pool.world (sessions (tokenOrigins requests) pool) ∧
      ((∃ thread, Swept code (sessions (tokenOrigins requests) pool thread)) →
        Dead code family (tokenOrigins requests) pool)) (SweepsAlone requests code family)
    ?_ ?_ schedule along
  · rintro pool thread op next upcoming condition move ⟨known, before⟩
    refine ⟨?_, swept_step upcoming condition move known before⟩
    rw [world_step upcoming, sessions_step upcoming]
    exact known_step move known
  · refine ⟨⟨stored, undrawn, ?_, ?_, ?_, ?_⟩, ?_⟩
    · intro thread row grounds
      cases grounds
    · intro thread drawn
      cases drawn
    · intro thread
      trivial
    · intro thread row grounds
      cases grounds
    · rintro ⟨thread, row, grounds, _⟩
      cases grounds

/-- In every run whose sweeps run alone, once a request is told that the code was
used already, every row of the code's family is revoked. -/
theorem replay_revokes_family (env : Env) (world : World) (requests : ι → Request)
    (code family : String) (nonempty : family ≠ "")
    (stored : ∀ row ∈ world.store.codes.rows, Carries code family row)
    (undrawn : Undrawn env family world) (schedule : List ι)
    (along : Pool.Along env.interp (SweepsAlone requests code family)
      (opening env world (tokenOrigins requests)) schedule)
    (thread : ι)
    (presents : (Origin.token (requests thread)).Presents .authorizationCode "code" code)
    (answered : (tokenRun env world requests schedule).answer? thread = some codeReplayAnswer) :
    FamilyRevoked family (tokenRun env world requests schedule).world := by
  obtain ⟨known, dead⟩ := dead_of_swept stored undrawn schedule along
  have origin := session_origin (tokenOrigins requests)
    (tokenRun env world requests schedule) thread
  have presented := session_presents (tokenOrigins requests)
    (tokenRun env world requests schedule) presents
  rcases (following_reached env world (tokenOrigins requests) schedule).post_of_answer answered with
    granted | refused
  · exact absurd (granted ⟨requests thread, origin⟩).1 (oauth_error_status _ _)
  · obtain ⟨row, grounds, own, stage | absent⟩ :=
      (refused ⟨requests thread, origin⟩).2 (asks_of_presents presented) rfl
    · exact (dead ⟨thread, row, grounds, presents_unique own presented, stage⟩).revoked
    · have sameFamily := (known.read thread row grounds).1 (presents_unique own presented)
      rw [sameFamily] at absent
      simp [nonempty] at absent

/-! ### Two redemptions of one code -/

/-- The sample code presented twice, in any order of steps. -/
def sampleRedemptions (schedule : List Bool) : Requests Bool :=
  tokenRun sampleEnv sampleCodeWorld (fun _ => sampleRedemption) schedule

/-- The second redemption starts when the first has been answered. -/
def oneAfterTheOther : List Bool := List.replicate 12 false ++ List.replicate 5 true

/-- The second redemption runs between the claim of the first and its insertion. -/
def withinTheOther : List Bool :=
  List.replicate 5 false ++ List.replicate 5 true ++ List.replicate 7 false

/-- `SweepsAlone`, as it is evaluated: the other request has not claimed the code,
or has been answered. -/
def sweepsAlone (pool : Requests Bool) (thread : Bool) : Bool :=
  match pool.upcoming? thread with
  | some (.command (.revokeTokenFamily _)) => (pool.answer? (!thread)).isSome
  | _ => true

theorem sweeps_alone_of_eval {requests : Bool → Request} {pool : Requests Bool} {thread : Bool}
    (evaluated : sweepsAlone pool thread = true) :
    SweepsAlone requests code family pool thread := by
  rintro _ next other different ⟨unanswered, _⟩
  unfold sweepsAlone at evaluated
  rw [next.upcoming] at evaluated
  have same : other = !thread := by
    cases other <;> cases thread <;> simp_all
  rw [same] at unanswered
  simp [unanswered] at evaluated

theorem sample_code_carries : ∀ row ∈ sampleCodeWorld.store.codes.rows, Carries "code" "family" row := by
  intro row member
  rw [show sampleCodeWorld.store.codes.rows = [sampleCode] from rfl, List.mem_singleton] at member
  subst member
  exact ⟨fun _ => rfl, fun _ => rfl⟩

theorem sample_family_undrawn : Undrawn sampleEnv "family" sampleCodeWorld := by
  intro draw _ same
  have letters := congrArg String.toList same
  simp [sampleEnv, samplePlatform, String.toList_append] at letters

/-- The replay of a redeemed code: the pair issued for it is revoked. -/
theorem replay_revokes_family_one_after_the_other :
    (sampleRedemptions oneAfterTheOther).answer? true = some codeReplayAnswer ∧
      (sampleRedemptions oneAfterTheOther).world.store.tokens.rows.map Token.tokenFamily =
        [some "family"] ∧
      FamilyRevoked "family" (sampleRedemptions oneAfterTheOther).world := by
  have text : ((sampleRedemptions oneAfterTheOther).answer? true).bind refusalText =
      some ("invalid_grant", "authorization code has already been used") := by
    decide +kernel
  obtain ⟨response, answered, refused⟩ := Option.bind_eq_some_iff.1 text
  rw [eq_of_refusal_text refused (by decide)] at answered
  have evaluated : Pool.Along sampleEnv.interp (fun pool thread => sweepsAlone pool thread = true)
      (opening sampleEnv sampleCodeWorld (tokenOrigins fun _ => sampleRedemption))
      oneAfterTheOther := by
    decide +kernel
  refine ⟨answered, by decide +kernel, ?_⟩
  exact replay_revokes_family sampleEnv sampleCodeWorld (fun _ => sampleRedemption) "code" "family"
    (by decide) sample_code_carries sample_family_undrawn oneAfterTheOther
    (evaluated.mono fun _ _ => sweeps_alone_of_eval) true ⟨sampleRedemption, rfl, rfl, rfl⟩ answered

/-- The replay of a code whose redemption is under way: the sweep finds no row,
and the pair that is inserted afterwards stays live. -/
theorem replay_misses_later_insertion :
    ((sampleRedemptions withinTheOther).answer? true).bind refusalText =
        some ("invalid_grant", "authorization code has already been used") ∧
      ((sampleRedemptions withinTheOther).answer? false).map Response.status = some 200 ∧
      (sampleRedemptions withinTheOther).world.store.tokens.rows.map
          (fun row => (row.tokenFamily, row.revoked)) = [(some "family", false)] := by
  decide +kernel

end OAuth2Server.FamilyRevocation
