import OAuth2Server.AuthorizeExits
import OAuth2Server.LoginGate

/-!
# What a saved code says about its request

An authorization request reads the store until it issues a code, and it issues
one only at its very end. A new row of the code table is therefore evidence of
every check on the way: of the client, of the merged parameters, of the session
and of its age.
-/

namespace OAuth2Server.AuthorizeCodes

open OAuth2Server Models JsonText Storage Effects Interaction Interaction.Program
open ClientAuth Endpoints Validation FrontChannel AuthorizeResponse RequestObject
open Authorize AuthorizeExits ClientIdentity LoginGate Footprints

set_option autoImplicit false

variable {front : FrontEnv} {query : String} {state : FrontWorld}

/-! ### The part that only reads -/

theorem uses_process_jar (env : Env) (client : Client) (requestJwt authorizeUrl : String) :
    Uses (S := Server) ReadOnly (fun _ => True)
      (processJar env client requestJwt authorizeUrl) := by
  have reads : ∀ op, Identifying op → ReadOnly op := by
    intro op identifying
    exact read_only_of_unproved op (unproved_of_identifying op identifying)
  have key : ∀ expectedAlg, Uses (S := Server) ReadOnly (fun _ => True)
      (jarKey env client requestJwt expectedAlg) := by
    intro expectedAlg
    unfold jarKey
    split
    · exact Uses.bind ((uses_reject_if _ _).2 fun _ => trivial) fun _ => trivial
    · apply Uses.bind ((uses_resolve_client_jwks env client _).mono reads fun _ _ => trivial)
      intro jwks
      split
      · trivial
      · exact (uses_of_except _).2 fun _ _ => trivial
  have signed : ∀ expectedAlg, Uses (S := Server) ReadOnly (fun _ => True)
      (decodeSignedJar env client requestJwt expectedAlg authorizeUrl) := by
    intro expectedAlg
    unfold decodeSignedJar
    apply Uses.bind (key expectedAlg)
    intro verifyKey
    apply Uses.bind (uses_ambient _ trivial)
    intro now
    dsimp only
    split
    · trivial
    · trivial
    · exact Uses.bind ((uses_reject_if _ _).2 fun _ => trivial) fun _ => trivial
  unfold processJar decodeJar
  dsimp only
  refine Uses.bind ?_ fun claims => ?_
  · split
    · trivial
    · split
      · exact (uses_of_except _).2 fun _ _ => trivial
      · split
        · exact signed _
        · trivial
  · exact Uses.bind ((uses_reject_if _ _).2 fun _ => trivial) fun _ => trivial

/-- Operations that leave the store and the session alone. -/
def Reading : FrontOp → Prop
  | .server op => ReadOnly op
  | .takePar _ => True
  | _ => False

/-- The store and the session are as they were. -/
structure Unwritten (state later : FrontWorld) : Prop where
  store : later.world.store = state.world.store
  session : later.session = state.session

theorem Unwritten.trans {first second third : FrontWorld} (earlier : Unwritten first second)
    (later : Unwritten second third) : Unwritten first third :=
  ⟨later.store.trans earlier.store, later.session.trans earlier.session⟩

theorem reading_unwritten {α : Type} {raises : Response → Prop} {program : FrontHandler α}
    {outcome : Except Response α} {later : FrontWorld}
    (uses : Uses (S := Front) Reading raises program)
    (ran : program.run front.interp state = (outcome, later)) : Unwritten state later := by
  have kept : Unwritten state (program.run front.interp state).2 := by
    apply Uses.run_keeps (Unwritten state) _ uses ⟨rfl, rfl⟩
    intro op reached reads kept
    cases op with
    | server op =>
        rcases op with read | write | act
        · exact kept
        · exact reads.elim
        · exact ⟨kept.store, kept.session⟩
    | takePar requestUri => exact ⟨kept.store, kept.session⟩
    | _ => exact reads.elim
  rw [ran] at kept
  exact kept

theorem uses_reading {ε α : Type} {raises : ε → Prop} {program : Program Server ε α}
    (uses : Uses (S := Server) ReadOnly raises program) :
    Uses (S := Front) Reading raises (onServer program) :=
  uses_on_server (fun _ reads => reads) uses

theorem uses_resolve_pushed_reads (params : Form) :
    Uses (S := Front) Reading (fun _ => True) (resolvePushed params) := by
  unfold resolvePushed
  cases params.get "request_uri" with
  | none => trivial
  | some requestUri =>
      dsimp only
      apply Uses.bind (uses_front _ (by trivial))
      intro taken
      cases taken with
      | none => trivial
      | some entry => exact Uses.bind ((uses_reject_if _ _).2 fun _ => trivial) fun _ => trivial

theorem uses_known_client_reads (clientId : Option String) :
    Uses (S := Front) Reading (fun _ => True) (knownClient clientId) := by
  have decided : ∀ found denylisted, Uses (S := Front) Reading (fun _ => True) _ :=
    fun found denylisted =>
      (uses_decided_client clientId found denylisted).mono (fun _ within => within)
        fun _ _ => trivial
  unfold knownClient
  cases clientId.filter (· != "") with
  | none => exact decided none none
  | some id =>
      dsimp only
      apply Uses.bind (uses_reading (uses_query _ trivial))
      intro found
      apply Uses.bind (uses_reading
        ((uses_check_subject_denylisted (fun _ => True) "client_id" id).mono
          (fun op identifying => read_only_of_unproved op (unproved_of_identifying op identifying))
          fun _ raised => raised))
      intro denylisted
      exact decided found denylisted

theorem uses_overlay_jar_reads (env : Env) (client : Client) (params merged : Form) :
    Uses (S := Front) Reading (fun _ => True) (overlayJar env client params merged) := by
  unfold overlayJar
  cases params.get "request" with
  | none => trivial
  | some requestJwt =>
      dsimp only
      apply Uses.bind (uses_reading
        ((uses_process_jar env client requestJwt _).mapError fun _ _ => trivial))
      intro claims
      exact Uses.bind ((uses_reject_if _ _).2 fun _ => trivial) fun _ => trivial

theorem uses_resolve_reads (env : Env) (params : Form) :
    Uses (S := Front) Reading (fun _ => True) (resolve env params) := by
  unfold resolve
  apply Uses.bind ((uses_reject_if _ _).2 fun _ => trivial)
  intro _
  apply Uses.bind (uses_resolve_pushed_reads _)
  intro merged
  apply Uses.bind (uses_known_client_reads _)
  intro client
  apply Uses.bind ((uses_reject_if _ _).2 fun _ => trivial)
  intro _
  exact uses_overlay_jar_reads env client _ merged

/-! ### The client -/

/-- The client of a request is a stored one, in service and off the denylist. -/
structure InService (front : FrontEnv) (state later : FrontWorld) (client : Client) : Prop where
  stored : client ∈ state.world.store.clients.rows
  enabled : client.enabled = true
  unlisted : NotDenylisted front.env state.world later.world "client_id" client.clientId

theorem InService.mono {reached later : FrontWorld} {client : Client}
    (service : InService front state reached client)
    (order : reached.world.process.readings ≤ later.world.process.readings) :
    InService front state later client :=
  ⟨service.stored, service.enabled, service.unlisted.mono order⟩

/-- The denylist and the clients are the same from any world with the same
store that was reached later. -/
theorem InService.from {earlier later : FrontWorld} {client : Client}
    (service : InService front state later client)
    (store : state.world.store = earlier.world.store)
    (order : earlier.world.process.readings ≤ state.world.process.readings) :
    InService front earlier later client := by
  refine ⟨store ▸ service.stored, service.enabled, ?_⟩
  intro entry found
  rw [← store] at found
  obtain ⟨expiresAt, reading, expires, ⟨after, before⟩, expired⟩ := service.unlisted entry found
  exact ⟨expiresAt, reading, expires, ⟨order.trans after, before⟩, expired⟩

theorem known_client_ok {clientId : Option String} {later : FrontWorld} {client : Client}
    (ran : (knownClient clientId).run front.interp state = (.ok client, later)) :
    clientId = some client.clientId ∧ InService front state later client := by
  unfold knownClient at ran
  cases presented : clientId.filter (· != "") with
  | none =>
      rw [presented] at ran
      dsimp only at ran
      obtain ⟨_, ran⟩ := run_reject_bind_eq_ok ran
      cases ran
  | some id =>
      obtain ⟨named, nonempty⟩ := Option.filter_eq_some_iff.1 presented
      rw [presented] at ran
      dsimp only at ran
      rw [run_bind, run_on_server_query] at ran
      dsimp only at ran
      obtain ⟨denylisted, reached, looked, ran⟩ := run_bind_eq_ok ran
      obtain ⟨_, ran⟩ := run_reject_bind_eq_ok ran
      cases found : (Query.getClient id).eval front.env.backend state.world.store with
      | none =>
          rw [found] at ran
          cases ran
      | some row =>
          rw [found] at ran
          dsimp only at ran
          obtain ⟨cleared, ran⟩ := run_reject_bind_eq_ok ran
          cases ran
          have stored := Tables.Table.mem_of_first found
          have same : client.clientId = id := by simpa using stored.2
          simp only [Bool.or_eq_false_iff, Bool.not_eq_false'] at cleared
          rw [run_on_server] at looked
          obtain ⟨answer, world⟩ := Prod.mk.inj looked
          have unlisted : denylisted = none := by simpa using cleared.2
          have checked : (checkSubjectDenylisted "client_id" id : Handler (Option String)).run
              front.env.interp state.world = (.ok none, later.world) := by
            rw [← world, ← unlisted]
            exact Prod.ext answer rfl
          refine ⟨by rw [same, named], stored.1, cleared.1, ?_⟩
          rw [same]
          exact not_denylisted (by simpa using nonempty) checked

/-- The client of a resolved request is the one its query names. -/
theorem resolved_client {later : FrontWorld} {resolved : Resolved}
    (ran : (resolve front.env (QueryText.parseQsl query)).run front.interp state =
      (.ok resolved, later)) :
    resolved.params = QueryText.parseQsl query ∧
      Form.get (QueryText.parseQsl query) "client_id" = some resolved.client.clientId ∧
      InService front state later resolved.client := by
  obtain ⟨merged, client, pushed, known, _, taken, found, _, overlaid⟩ := resolve_ok ran
  obtain ⟨params, sameClient⟩ := overlay_jar_params overlaid
  obtain ⟨named, service⟩ := known_client_ok found
  have reads := reading_unwritten (uses_resolve_pushed_reads _) taken
  rw [sameClient]
  exact ⟨params, named, (service.mono (front_readings_grow overlaid)).from reads.store
    (front_readings_grow taken)⟩

/-! ### The row -/

/-- The arguments a checked request issues its code with. -/
def codeRequest (request : CheckedRequest) (userId : String) : CodeRequest where
  client := request.client
  userId := userId
  redirectUri := request.channel.redirectUri
  scope := request.scope
  codeChallenge := some request.codeChallenge
  codeChallengeMethod := request.codeChallengeMethod
  nonce := request.nonce
  authorizationDetails := request.authorizationDetails
  resource := request.resource
  claimsRequest := request.claimsRequest
  dpopJkt := request.dpopJkt

/-- The row of a code has the values it was issued with. -/
structure Recorded (asked : CodeRequest) (row : AuthorizationCode) : Prop where
  clientId : row.clientId = asked.client.clientId
  userId : row.userId = asked.userId
  redirectUri : row.redirectUri = asked.redirectUri
  scope : row.scope = asked.scope
  codeChallenge : row.codeChallenge = asked.codeChallenge
  codeChallengeMethod : row.codeChallengeMethod = asked.codeChallengeMethod
  nonce : row.nonce = asked.nonce
  authorizationDetails : row.authorizationDetails = asked.authorizationDetails
  resource : row.resource = asked.resource
  claimsRequest : row.claimsRequest = asked.claimsRequest
  dpopJkt : row.dpopJkt = asked.dpopJkt
  unused : row.used = false

/-- Operations that read, and the insertion of a code's row. -/
def Recording (asked : CodeRequest) : Op → Prop
  | .command (.saveAuthorizationCode row) => Recorded asked row
  | op => ReadOnly op

theorem recording_of_reading {asked : CodeRequest} (op : Op) (reads : ReadOnly op) :
    Recording asked op := by
  rcases op with read | write | act
  · trivial
  · exact reads.elim
  · trivial

theorem uses_insert {footprint : Op → Prop} {α : Type} (outcome : Except StorageError α) :
    Uses (S := Server) footprint (fun _ => True) (insertOrRaise outcome) := by
  cases outcome <;> trivial

theorem uses_issue_code_row (env : Env) (asked : CodeRequest) :
    Uses (S := Server) (Recording asked) (fun _ => True) (issueCode env asked) := by
  unfold issueCode
  apply Uses.bind (uses_ambient _ trivial)
  intro now
  apply Uses.bind (uses_ambient _ trivial)
  intro id
  apply Uses.bind (uses_ambient _ trivial)
  intro code
  apply Uses.bind (uses_ambient _ trivial)
  intro family
  apply Uses.bind (uses_ambient _ trivial)
  intro createdAt
  dsimp only
  apply Uses.bind (uses_command _ ⟨rfl, rfl, rfl, rfl, rfl, rfl, rfl, rfl, rfl, rfl, rfl, rfl⟩)
  intro saved
  apply Uses.bind (uses_insert saved)
  intro _
  trivial

/-- The last steps of a request. -/
def Finishing (asked : CodeRequest) : FrontOp → Prop
  | .server op => Recording asked op
  | .session => True
  | _ => False

theorem uses_finish (env : Env) (request : CheckedRequest) (userId : String) :
    Uses (S := Front) (Finishing (codeRequest request userId)) (fun _ => True)
      (finish env request userId) := by
  have served : ∀ {ε α : Type} {program : Program Server ε α} {raises : ε → Prop},
      Uses (S := Server) (Recording (codeRequest request userId)) raises program →
        Uses (S := Front) (Finishing (codeRequest request userId)) raises (onServer program) :=
    fun uses => uses_on_server (fun _ within => within) uses
  have idToken : ∀ session code, Uses (S := Front) (Finishing (codeRequest request userId))
      (fun _ => True) (hybridIdToken env request session userId code) := by
    intro session code
    unfold hybridIdToken
    split
    · apply Uses.bind (served (uses_query _ trivial))
      intro user
      have minted : Uses (S := Server) ReadOnly (fun _ => True)
          (TokenEndpoint.call (mintHybridIdToken env request session userId user code)) := by
        unfold mintHybridIdToken
        apply Uses.mapError
        · apply Uses.bind (uses_ambient _ trivial)
          intro now
          exact read_only (uses_encode_id_token env _)
        · exact fun _ _ => trivial
      apply Uses.bind (served (minted.mono recording_of_reading fun _ raised => raised))
      intro outcome
      cases outcome <;> trivial
    · trivial
  unfold finish
  apply Uses.bind (uses_front _ (by trivial))
  intro session
  dsimp only
  apply Uses.bind ((uses_reject_if _ _).2 fun _ => trivial)
  intro _
  apply Uses.bind (served ((uses_issue_code_row env (codeRequest request userId)).mapError
    fun _ _ => trivial))
  intro row
  apply Uses.bind (idToken session row.code)
  intro token
  exact (uses_of_except _).2 fun _ _ => trivial

/-- A code is inserted at the end of the table, or not at all. -/
theorem codes_after_save (backend : Backend) (store : Store) (row : AuthorizationCode) :
    (Command.exec backend store (.saveAuthorizationCode row)).2.codes.rows = store.codes.rows ∨
      (Command.exec backend store (.saveAuthorizationCode row)).2.codes.rows =
        store.codes.rows ++ [row] := by
  rcases Backends.inserted_cases backend store.codes AuthorizationCode.id row
    (fun table => { store with codes := table }) store with refused | ⟨grown, accepted, appended⟩
  · left
    show (inserted backend store.codes AuthorizationCode.id row _ store).2.codes.rows = _
    rw [refused]
  · right
    show (inserted backend store.codes AuthorizationCode.id row _ store).2.codes.rows = _
    rw [accepted]
    exact appended

/-- The rows a finished request leaves are the old ones and its own. -/
theorem finish_rows {request : CheckedRequest} {userId : String} {outcome : Except Response Response}
    {later : FrontWorld}
    (ran : (finish front.env request userId).run front.interp state = (outcome, later))
    (row : AuthorizationCode) (member : row ∈ later.world.store.codes.rows) :
    row ∈ state.world.store.codes.rows ∨ Recorded (codeRequest request userId) row := by
  have kept : ∀ row ∈ ((finish front.env request userId).run front.interp
      state).2.world.store.codes.rows,
      row ∈ state.world.store.codes.rows ∨ Recorded (codeRequest request userId) row := by
    refine Uses.run_keeps (fun reached : FrontWorld => ∀ row ∈ reached.world.store.codes.rows,
      row ∈ state.world.store.codes.rows ∨ Recorded (codeRequest request userId) row) ?_
      (uses_finish front.env request userId) fun _ old => .inl old
    intro op reached within old
    cases op with
    | session => exact old
    | server op =>
        rcases op with read | write | act
        · exact old
        · cases write with
          | saveAuthorizationCode added =>
              intro row inside
              rcases codes_after_save front.env.backend reached.world.store added with same | grown
              · exact old row (same ▸ inside)
              · have split : row ∈ reached.world.store.codes.rows ++ [added] := grown ▸ inside
                rcases List.mem_append.1 split with before | added
                · exact old row before
                · rw [List.mem_singleton.1 added]
                  exact .inr within
          | _ => exact within.elim
        · exact old
    | _ => exact within.elim
  rw [ran] at kept
  exact kept row member

/-- The session satisfies the requested context classes. -/
def AcrSatisfied (acrValues : Option String) (session : FrontChannel.Session) : Prop :=
  ∀ wanted, acrValues = some wanted → ∃ acr, session.acr = some acr ∧ acr ∈ Text.split wanted

/-- A request whose session does not satisfy them changes nothing. -/
theorem finish_acr {request : CheckedRequest} {userId : String} {outcome : Except Response Response}
    {later : FrontWorld}
    (ran : (finish front.env request userId).run front.interp state = (outcome, later)) :
    later = state ∨ AcrSatisfied request.acrValues state.session := by
  by_cases refused : (request.acrValues.any fun wanted =>
      !state.session.acr.any (Text.split wanted).contains) = true
  · left
    unfold finish at ran
    rw [run_perform_bind] at ran
    have session : (front.interp .session state) = (state.session, state) := rfl
    rw [session] at ran
    dsimp only at ran
    rw [refused] at ran
    cases ran
    rfl
  · right
    intro wanted asked
    rw [asked] at refused
    simpa [Option.any_eq_true] using refused

/-! ### The whole request -/

/-- The request of a saved code, as it was resolved, and what was checked. -/
structure Cleared (front : FrontEnv) (query : String) (state later : FrontWorld)
    (row : AuthorizationCode) (resolved : Resolved) (request : CheckedRequest) : Prop where
  resolution : ∃ middle, (resolve front.env (QueryText.parseQsl query)).run front.interp state =
    (.ok resolved, middle)
  params : resolved.params = QueryText.parseQsl query
  client : InService front state later resolved.client
  checked : Checked front.env resolved request
  recorded : Recorded (codeRequest request row.userId) row
  user : state.session.userId = some row.userId
  age : ∀ age, (Form.get (QueryText.parseQsl query) "max_age").bind pyInt = some age →
    ∃ stamped reading, state.session.authTime = some stamped ∧
      During state.world later.world reading ∧
      epochSeconds (front.env.platform.clock reading) - stamped < age
  unforced : forceLogin (QueryText.parseQsl query) = false
  acr : AcrSatisfied request.acrValues state.session

theorem admitted {front : FrontEnv} {params : Form} {state : FrontWorld} {userId : String}
    (passes : admittedUser front params state = some userId) :
    state.session.userId = some userId ∧ forceLogin params = false ∧
      expiredNow front (params.get "max_age") state.session.authTime state = false := by
  obtain ⟨owned, passed⟩ := Option.filter_eq_some_iff.1 passes
  simp only [Bool.not_or, Bool.and_eq_true, Bool.not_eq_true'] at passed
  exact ⟨owned, passed⟩

/-- The gate writes no table, and lets through the user of the session only. -/
theorem gate_passed {params : Form} {channel : Channel} {middle reached : FrontWorld}
    {outcome : Except Response String}
    (ran : (loginGate front.env query params channel).run front.interp middle =
      (outcome, reached)) :
    reached.world.store = middle.world.store ∧
      ∀ userId, outcome = .ok userId → admittedUser front params middle = some userId ∧
        reached = afterExpiry (params.get "max_age") middle.session.authTime middle := by
  have expiry := after_expiry_session (params.get "max_age") middle.session.authTime middle
  rw [login_gate_run] at ran
  dsimp only at ran
  split at ran
  · cases ran
    exact ⟨rfl, fun _ refused => by cases refused⟩
  · split at ran
    · rename_i userId passes
      cases ran
      refine ⟨expiry.2.2, ?_⟩
      intro other same
      cases same
      exact ⟨passes, rfl⟩
    · split at ran
      · cases ran
        exact ⟨expiry.2.2, fun _ refused => by cases refused⟩
      · cases ran
        exact ⟨expiry.2.2, fun _ refused => by cases refused⟩

/-- A row that a request leaves in the code table was there before, or is that
of a code it has issued on every check. -/
theorem saved_code {response : Response} {later : FrontWorld}
    (ran : (authorize front.env query).respond front.interp state = (response, later))
    {row : AuthorizationCode} (member : row ∈ later.world.store.codes.rows)
    (new : row ∉ state.world.store.codes.rows) :
    ∃ resolved request, Cleared front query state later row resolved request := by
  have answered : ∃ outcome, (authorize front.env query).run front.interp state =
      (outcome, later) := by
    unfold respond at ran
    split at ran
    all_goals
      rename_i reached
      cases ran
      exact ⟨_, reached⟩
  obtain ⟨outcome, ran⟩ := answered
  rw [authorize_run] at ran
  cases resolution : (resolve front.env (QueryText.parseQsl query)).run front.interp state with
  | mk resolving middle =>
  have unwritten := reading_unwritten (uses_resolve_reads front.env _) resolution
  rw [resolution] at ran
  cases resolving with
  | error page =>
      cases ran
      exact absurd (unwritten.store ▸ member) new
  | ok resolved =>
      dsimp only at ran
      cases checking : checkRequest front.env resolved with
      | error refusal =>
          rw [checking] at ran
          cases ran
          exact absurd (unwritten.store ▸ member) new
      | ok request =>
          rw [checking] at ran
          dsimp only at ran
          have checked := check_request_ok checking
          obtain ⟨params, _, service⟩ := resolved_client resolution
          cases gating : (loginGate front.env query resolved.params request.channel).run
              front.interp middle with
          | mk gated reached =>
          obtain ⟨store, passed⟩ := gate_passed gating
          rw [gating] at ran
          cases gated with
          | error refusal =>
              cases ran
              rw [store, unwritten.store] at member
              exact absurd member new
          | ok userId =>
              obtain ⟨admits, reachedAt⟩ := passed userId rfl
              dsimp only at ran
              obtain ⟨owned, unforced, unexpired⟩ := admitted admits
              rcases finish_rows ran row member with old | recorded
              · rw [store, unwritten.store] at old
                exact absurd old new
              have session : reached.session = state.session := by
                rw [reachedAt, (after_expiry_session _ _ middle).1, unwritten.session]
              have sameUser : row.userId = userId := recorded.userId
              have satisfied : AcrSatisfied request.acrValues state.session := by
                rcases finish_acr ran with idle | satisfied
                · rw [idle, store, unwritten.store] at member
                  exact absurd member new
                · rw [← session]
                  exact satisfied
              have onward : middle.world.process.readings ≤ later.world.process.readings :=
                (front_readings_grow gating).trans (front_readings_grow ran)
              refine ⟨resolved, request, ⟨middle, resolution⟩, params, service.mono onward,
                checked, ?_, ?_, ?_, ?_, satisfied⟩
              · rw [sameUser]
                exact recorded
              · rw [sameUser, ← unwritten.session]
                exact owned
              · intro age asked
                rw [← params] at asked
                unfold expiredNow at unexpired
                rw [asked] at unexpired
                cases stamped : middle.session.authTime with
                | none => simp [stamped] at unexpired
                | some stamp =>
                    rw [stamped] at unexpired
                    dsimp only at unexpired
                    have read : reached = middle.read := by
                      rw [reachedAt, stamped]
                      unfold afterExpiry
                      rw [asked]
                    refine ⟨stamp, middle.world.process.readings, ?_, ⟨?_, ?_⟩, ?_⟩
                    · rw [← unwritten.session, stamped]
                    · exact front_readings_grow resolution
                    · have grown := front_readings_grow ran
                      rw [read] at grown
                      exact Nat.lt_of_succ_le grown
                    · exact not_le.1 (of_decide_eq_false unexpired)
              · rw [← params]
                exact unforced

end OAuth2Server.AuthorizeCodes
