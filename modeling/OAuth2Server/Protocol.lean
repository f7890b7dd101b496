import OAuth2Server.Footprints
import OAuth2Server.Interleaving

/-!
# The protocol of a request on a grant

What a token request and a device verification do to the store, step by step,
whatever the answers they get: which row they are decided on, what they may
claim or revoke then, and with which arguments `TokenService.issue` is entered.
Every invariant over interleaved requests is derived from this contract.
-/

namespace OAuth2Server.Protocol

open OAuth2Server Models JsonText Storage Effects Interaction Interaction.Program Validation
open ClientAuth Dpop JwtBearer Issuance TokenEndpoint Endpoints Footprints

set_option autoImplicit false

/-- The row a request is decided on, as it was read. -/
inductive Grounds where
  | code (row : AuthorizationCode)
  | refresh (row : Token)
  | device (row : DeviceAuthorization)
  | subject (row : Token)
  | verifying (row : DeviceAuthorization)

/-- What a request has done about its row: nothing, consumed it, come too late
for it, or revoked its family. -/
inductive Stage where
  | found
  | claimed
  | lost
  | swept

/-- Where a request stands with `TokenService.issue`. -/
inductive Issuance where
  | pending
  | entered (request : IssueRequest)
  | saved (request : IssueRequest) (token : Token)
  | refused (request : IssueRequest)

inductive Origin where
  | token (request : Request)
  | verify (request : VerifyRequest)

/-- `grant_type` names the grant. -/
def Origin.Asks (origin : Origin) (grant : Grant) : Prop :=
  ∃ request, origin = .token request ∧ request.form.get "grant_type" = some grant.name

/-- The request asks for the grant and carries `value` under `field`. -/
def Origin.Presents (origin : Origin) (grant : Grant) (field value : String) : Prop :=
  ∃ request, origin = .token request ∧ request.form.get "grant_type" = some grant.name ∧
    request.form.get field = some value

/-- The program of a request. -/
def Origin.program (env : Env) : Origin → Handler Response
  | .token request => TokenEndpoint.token env request
  | .verify request => deviceVerify env request

/-- What is known of a request from its operations and their answers. `drawn`
is the last identifier drawn before `issue`. -/
structure Session where
  origin : Origin
  client : Option Client := none
  accounts : List User := []
  drawn : Option String := none
  grounds : Option Grounds := none
  stage : Stage := .found
  issuance : Issuance := .pending

namespace Session

/-- The request was made by the enabled client `clientId`. -/
def Owns (session : Session) (clientId : String) : Prop :=
  ∃ client, session.client = some client ∧ client.enabled = true ∧ client.clientId = clientId

/-- Nothing has been looked up for the grant. -/
def Open (session : Session) : Prop :=
  session.grounds = none ∧ session.stage = .found ∧ session.issuance = .pending

/-- The grounds of a redeemed code. -/
def EntitlesByCode (session : Session) (request : IssueRequest) (row : AuthorizationCode) : Prop :=
  session.origin.Presents .authorizationCode "code" row.code ∧ session.stage = .claimed ∧
    row.clientId = request.client.clientId ∧ row.used = false ∧
    request.userId = some row.userId ∧ request.scope = row.scope ∧
    request.withRefresh = true ∧ request.tokenFamily = row.tokenFamily

/-- The grounds of a rotated refresh token. A row without a family starts one. -/
def EntitlesByRefresh (session : Session) (request : IssueRequest) (row : Token) : Prop :=
  (∃ refreshToken, session.origin.Presents .refreshToken "refresh_token" refreshToken ∧
      row.refreshToken = some refreshToken) ∧ session.stage = .claimed ∧
    row.clientId = request.client.clientId ∧ row.revoked = false ∧
    request.userId = row.userId ∧ scopeIsSubset request.scope row.scope = true ∧
    request.withRefresh = true ∧ request.tokenFamily.isSome = true ∧
    request.tokenFamily = (row.tokenFamily.filter (· != "")).or session.drawn

/-- The grounds of a redeemed device code. -/
def EntitlesByDevice (session : Session) (request : IssueRequest) (row : DeviceAuthorization) :
    Prop :=
  session.origin.Presents .deviceCode "device_code" row.deviceCode ∧ session.stage = .claimed ∧
    row.clientId = request.client.clientId ∧
    (row.approved = true ∧ row.denied = false ∧ row.used = false) ∧
    request.userId = row.userId ∧ request.scope = row.scope ∧
    request.withRefresh = true ∧ request.tokenFamily.isSome = true ∧
    request.tokenFamily = session.drawn

/-- The grounds of an exchanged token. -/
def EntitlesBySubject (session : Session) (request : IssueRequest) (row : Token) : Prop :=
  session.origin.Presents .tokenExchange "subject_token" row.accessToken ∧
    session.stage = .found ∧ row.revoked = false ∧
    request.userId = row.userId ∧ scopeIsSubset request.scope row.scope = true ∧
    request.withRefresh = false ∧ request.tokenFamily = none

/-- A grant without a row: the client's own, or an assertion about a user whom
the request has seen enabled. -/
def EntitlesByClient (session : Session) (request : IssueRequest) : Prop :=
  session.stage = .found ∧ scopeIsSubset request.scope request.client.scope = true ∧
    request.withRefresh = false ∧ request.tokenFamily = none ∧
    ((session.origin.Asks .clientCredentials ∧ request.userId = none) ∨
      (session.origin.Asks .jwtBearer ∧
        ∃ user ∈ session.accounts, user.enabled = true ∧ request.userId = some user.id))

/-- What `TokenService.issue` may be entered with. -/
def Entitles (session : Session) (request : IssueRequest) : Prop :=
  session.client = some request.client ∧ request.client.enabled = true ∧
    match session.grounds with
    | some (.code row) => session.EntitlesByCode request row
    | some (.refresh row) => session.EntitlesByRefresh request row
    | some (.device row) => session.EntitlesByDevice request row
    | some (.subject row) => session.EntitlesBySubject request row
    | some (.verifying _) => False
    | none => session.EntitlesByClient request

/-- The row was found replayed: used already, or claimed by someone else. -/
def ReplaysCode (session : Session) (row : AuthorizationCode) : Prop :=
  session.grounds = some (.code row) ∧ session.Owns row.clientId ∧
    session.origin.Presents .authorizationCode "code" row.code ∧
    ((session.stage = .found ∧ row.used = true) ∨ session.stage = .lost)

/-- The refresh token was found revoked. -/
def ReplaysRefresh (session : Session) (row : Token) : Prop :=
  session.grounds = some (.refresh row) ∧ session.Owns row.clientId ∧ session.stage = .found ∧
    row.revoked = true

/-- The row a verification may decide. -/
def Undecided (session : Session) (userCode : String) : Prop :=
  ∃ row, session.grounds = some (.verifying row) ∧ session.stage = .found ∧
    row.userCode = userCode ∧ row.used = false ∧ row.approved = false ∧ row.denied = false

/-- The operations permitted before `issue` is entered. -/
def Permits (session : Session) : Op → Prop
  | .query (.getClient _) => session.client = none ∧ session.Open
  | .query (.getUserById _) => True
  | .query (.getUsersByEmail _) => True
  | .query (.getAuthorizationCode code) =>
      session.Open ∧ session.origin.Presents .authorizationCode "code" code
  | .query (.getTokenByRefreshToken refreshToken) =>
      session.Open ∧ session.origin.Presents .refreshToken "refresh_token" refreshToken
  | .query (.getDeviceAuthorizationByDeviceCode deviceCode) =>
      session.Open ∧ session.origin.Presents .deviceCode "device_code" deviceCode
  | .query (.getTokenByAccessToken accessToken) =>
      session.Open ∧ session.origin.Presents .tokenExchange "subject_token" accessToken
  | .query (.getDeviceAuthorizationByUserCode _) =>
      session.Open ∧ ∃ request, session.origin = .verify request
  | .command (.markAuthorizationCodeUsed code) =>
      ∃ row, session.grounds = some (.code row) ∧ session.stage = .found ∧ row.code = code ∧
        row.used = false ∧ session.Owns row.clientId ∧
        session.origin.Presents .authorizationCode "code" code
  | .command (.revokeToken accessToken) =>
      ∃ row, session.grounds = some (.refresh row) ∧ session.stage = .found ∧
        row.accessToken = accessToken ∧ row.revoked = false ∧ session.Owns row.clientId ∧
        ∃ refreshToken, row.refreshToken = some refreshToken ∧
          session.origin.Presents .refreshToken "refresh_token" refreshToken
  | .command (.revokeTokenFamily family) =>
      family ≠ "" ∧
        ((∃ row, session.ReplaysCode row ∧ row.tokenFamily = some family) ∨
          ∃ row, session.ReplaysRefresh row ∧ row.tokenFamily = some family)
  | .command (.markDeviceAuthorizationUsed deviceCode) =>
      ∃ row, session.grounds = some (.device row) ∧ session.stage = .found ∧
        row.deviceCode = deviceCode ∧ row.approved = true ∧ row.denied = false ∧
        row.used = false ∧ session.Owns row.clientId ∧
        session.origin.Presents .deviceCode "device_code" deviceCode
  | .command (.approveDeviceAuthorization userCode _) => session.Undecided userCode
  | .command (.denyDeviceAuthorization userCode) => session.Undecided userCode
  | .command (.saveUser user) => session.Open ∧ user.enabled = true
  | .ambient .uuid4Hex => True
  | .ambient (.enterIssue request) => session.Entitles request
  | op => Calm op

/-- What the answers tell before `issue` is entered. -/
def learn (session : Session) : (op : Op) → op.Ans → Session
  | .query (.getClient _), client => { session with client := client }
  | .query (.getUserById _), some user => { session with accounts := user :: session.accounts }
  | .query (.getUsersByEmail _), users => { session with accounts := users ++ session.accounts }
  | .query (.getAuthorizationCode _), row => { session with grounds := row.map .code }
  | .query (.getTokenByRefreshToken _), row => { session with grounds := row.map .refresh }
  | .query (.getDeviceAuthorizationByDeviceCode _), row =>
      { session with grounds := row.map .device }
  | .query (.getTokenByAccessToken _), row => { session with grounds := row.map .subject }
  | .query (.getDeviceAuthorizationByUserCode _), row =>
      { session with grounds := row.map .verifying }
  | .command (.markAuthorizationCodeUsed _), count =>
      { session with stage := if count = 0 then .lost else .claimed }
  | .command (.revokeToken _), _ => { session with stage := .claimed }
  | .command (.revokeTokenFamily _), _ => { session with stage := .swept }
  | .command (.markDeviceAuthorizationUsed _), count =>
      { session with stage := if count = 0 then .lost else .claimed }
  | .command (.approveDeviceAuthorization _ _), _ => { session with stage := .claimed }
  | .command (.denyDeviceAuthorization _), _ => { session with stage := .claimed }
  | .command (.saveUser user), .ok _ => { session with accounts := user :: session.accounts }
  | .ambient .uuid4Hex, identifier => { session with drawn := some identifier }
  | .ambient (.enterIssue request), _ => { session with issuance := .entered request }
  | _, _ => session

end Session

/-- The row `issue` inserts for a request. -/
structure Records (request : IssueRequest) (row : Token) : Prop where
  clientId : row.clientId = request.client.clientId
  userId : row.userId = request.userId
  scope : row.scope = request.scope
  tokenFamily : row.tokenFamily = request.tokenFamily
  live : row.revoked = false
  refresh : row.refreshToken.isSome = request.withRefresh

def allowed (session : Session) (op : Op) : Prop :=
  match session.issuance with
  | .pending => session.Permits op
  | .entered request =>
      match op with
      | .command (.saveToken row) => Records request row
      | op => Settled op
  | .saved _ _ => Settled op
  | .refused _ => Settled op

/-- What a lookup answers carries the key it was looked up by. -/
def possible : (op : Op) → op.Ans → Prop
  | .query (.getClient clientId), answer =>
      ∀ client, answer = some client → client.clientId = clientId
  | .query (.getUserById userId), answer => ∀ user, answer = some user → user.id = userId
  | .query (.getAuthorizationCode code), answer => ∀ row, answer = some row → row.code = code
  | .query (.getTokenByRefreshToken refreshToken), answer =>
      ∀ row, answer = some row → row.refreshToken = some refreshToken
  | .query (.getTokenByAccessToken accessToken), answer =>
      ∀ row, answer = some row → row.accessToken = accessToken
  | .query (.getDeviceAuthorizationByDeviceCode deviceCode), answer =>
      ∀ row, answer = some row → row.deviceCode = deviceCode
  | .query (.getDeviceAuthorizationByUserCode userCode), answer =>
      ∀ row, answer = some row → row.userCode = userCode
  | _, _ => True

def after (session : Session) (op : Op) (answer : op.Ans) : Session :=
  match session.issuance with
  | .pending => session.learn op answer
  | .entered request =>
      match op, answer with
      | .command (.saveToken row), .ok _ => { session with issuance := .saved request row }
      | .command (.saveToken _), .error _ => { session with issuance := .refused request }
      | _, _ => session
  | .saved _ _ => session
  | .refused _ => session

/-- The protocol as a contract on operations and answers. -/
@[reducible] def protocol : Contract Server Session where
  allowed := allowed
  possible := possible
  after := after

/-- How a replayed code leaves its request. -/
def Replayed (session : Session) : Prop :=
  ∃ row, session.grounds = some (.code row) ∧
    session.origin.Presents .authorizationCode "code" row.code ∧
    (session.stage = .swept ∨ row.tokenFamily.filter (· != "") = none)

/-- How a request may end. -/
def Ended (session : Session) : Except Response Response → Prop
  | .ok response =>
      (∃ request, session.origin = .token request) → response.status = 200 ∧
        ∃ request row, session.issuance = .saved request row ∧ Records request row ∧
          session.Entitles request
  | .error response =>
      (∃ request, session.origin = .token request) → response.status ≠ 200 ∧
        (session.origin.Asks .authorizationCode → response = codeReplayAnswer →
          Replayed session)

/-! ### Invisible operations -/

theorem calm_invisible (session : Session) (op : Op) (calm : Calm op) :
    protocol.allowed session op ∧ ∀ answer, protocol.after session op answer = session := by
  have settled := settled_of_calm op calm
  cases stage : session.issuance with
  | pending =>
      rcases op with read | write | act
      · cases read <;> simp_all [allowed, after, Calm, Session.Permits, Session.learn]
      · cases calm
      · cases act <;> simp_all [allowed, after, Calm, Session.Permits, Session.learn]
  | entered request =>
      rcases op with read | write | act
      · simp [allowed, after, stage, settled]
      · cases calm
      · simp [allowed, after, stage, settled]
  | saved request row => simp [allowed, after, stage, settled]
  | refused request => simp [allowed, after, stage, settled]

theorem settled_invisible {session : Session} (begun : session.issuance ≠ .pending) (op : Op)
    (settled : Settled op) :
    protocol.allowed session op ∧ ∀ answer, protocol.after session op answer = session := by
  cases stage : session.issuance with
  | pending => exact absurd stage begun
  | entered request =>
      rcases op with read | write | act
      · simp [allowed, after, stage, settled]
      · cases settled
      · simp [allowed, after, stage, settled]
  | saved request row => simp [allowed, after, stage, settled]
  | refused request => simp [allowed, after, stage, settled]

/-- Both backends answer a lookup with a row that has the key. -/
theorem protocol_sound (env : Env) : protocol.Sound env.interp := by
  intro op world
  rcases op with read | write | act
  · cases read with
    | getClient clientId => exact fun client found => by simpa using List.find?_some found
    | getUserById userId => exact fun user found => by simpa using List.find?_some found
    | getTokenByAccessToken accessToken =>
        exact fun row found => by simpa using List.find?_some found
    | getTokenByRefreshToken refreshToken =>
        exact fun row found => by simpa using List.find?_some found
    | getAuthorizationCode code => exact fun row found => by simpa using List.find?_some found
    | getDeviceAuthorizationByDeviceCode deviceCode =>
        exact fun row found => by simpa using List.find?_some found
    | getDeviceAuthorizationByUserCode userCode =>
        exact fun row found => by simpa using List.find?_some found
    | _ => trivial
  · cases write <;> trivial
  · cases act <;> trivial

/-! ### Moves -/

/-- Everything an operation of a request can be. An operation set `aside`
neither changes what is known of the request nor writes the store. -/
inductive Move (session : Session) : Op → Prop
  | aside {op : Op} (settled : Settled op) (same : ∀ answer, after session op answer = session) :
      Move session op
  | readClient (clientId : String) (unknown : session.client = none) (opened : session.Open) :
      Move session (.query (.getClient clientId))
  | readUser (userId : String) (pending : session.issuance = .pending) :
      Move session (.query (.getUserById userId))
  | readUsers (folded : String) (pending : session.issuance = .pending) :
      Move session (.query (.getUsersByEmail folded))
  | saveUser (user : User) (opened : session.Open) (enabled : user.enabled = true) :
      Move session (.command (.saveUser user))
  | draw (pending : session.issuance = .pending) : Move session (.ambient .uuid4Hex)
  | readCode (code : String) (opened : session.Open)
      (presents : session.origin.Presents .authorizationCode "code" code) :
      Move session (.query (.getAuthorizationCode code))
  | readRefresh (refreshToken : String) (opened : session.Open)
      (presents : session.origin.Presents .refreshToken "refresh_token" refreshToken) :
      Move session (.query (.getTokenByRefreshToken refreshToken))
  | readDevice (deviceCode : String) (opened : session.Open)
      (presents : session.origin.Presents .deviceCode "device_code" deviceCode) :
      Move session (.query (.getDeviceAuthorizationByDeviceCode deviceCode))
  | readSubject (accessToken : String) (opened : session.Open)
      (presents : session.origin.Presents .tokenExchange "subject_token" accessToken) :
      Move session (.query (.getTokenByAccessToken accessToken))
  | readVerifying (userCode : String) (opened : session.Open)
      (verifies : ∃ request, session.origin = .verify request) :
      Move session (.query (.getDeviceAuthorizationByUserCode userCode))
  | claimCode (row : AuthorizationCode) (pending : session.issuance = .pending)
      (grounds : session.grounds = some (.code row)) (found : session.stage = .found)
      (unused : row.used = false) (owns : session.Owns row.clientId)
      (presents : session.origin.Presents .authorizationCode "code" row.code) :
      Move session (.command (.markAuthorizationCodeUsed row.code))
  | rotate (row : Token) (refreshToken : String) (pending : session.issuance = .pending)
      (grounds : session.grounds = some (.refresh row)) (found : session.stage = .found)
      (live : row.revoked = false) (owns : session.Owns row.clientId)
      (carries : row.refreshToken = some refreshToken)
      (presents : session.origin.Presents .refreshToken "refresh_token" refreshToken) :
      Move session (.command (.revokeToken row.accessToken))
  | sweepCode (row : AuthorizationCode) (family : String) (pending : session.issuance = .pending)
      (replays : session.ReplaysCode row) (carries : row.tokenFamily = some family)
      (nonempty : family ≠ "") : Move session (.command (.revokeTokenFamily family))
  | sweepRefresh (row : Token) (family : String) (pending : session.issuance = .pending)
      (replays : session.ReplaysRefresh row) (carries : row.tokenFamily = some family)
      (nonempty : family ≠ "") : Move session (.command (.revokeTokenFamily family))
  | claimDevice (row : DeviceAuthorization) (pending : session.issuance = .pending)
      (grounds : session.grounds = some (.device row)) (found : session.stage = .found)
      (approved : row.approved = true) (undenied : row.denied = false) (unused : row.used = false)
      (owns : session.Owns row.clientId)
      (presents : session.origin.Presents .deviceCode "device_code" row.deviceCode) :
      Move session (.command (.markDeviceAuthorizationUsed row.deviceCode))
  | approve (userCode userId : String) (pending : session.issuance = .pending)
      (undecided : session.Undecided userCode) :
      Move session (.command (.approveDeviceAuthorization userCode userId))
  | deny (userCode : String) (pending : session.issuance = .pending)
      (undecided : session.Undecided userCode) :
      Move session (.command (.denyDeviceAuthorization userCode))
  | enter (request : IssueRequest) (pending : session.issuance = .pending)
      (entitled : session.Entitles request) : Move session (.ambient (.enterIssue request))
  | save (request : IssueRequest) (row : Token) (entered : session.issuance = .entered request)
      (records : Records request row) : Move session (.command (.saveToken row))

theorem Move.of_settled {session : Session} {op : Op} (settled : Settled op)
    (begun : session.issuance ≠ .pending) : Move session op :=
  .aside settled (settled_invisible begun op settled).2

theorem Move.of_calm {session : Session} {op : Op} (calm : Calm op) : Move session op :=
  .aside (settled_of_calm op calm) (calm_invisible session op calm).2

/-- What is set aside writes no table. -/
theorem settled_frame {op : Op} (settled : Settled op) (env : Env) (world : World) :
    (env.interp op world).2.store = world.store := by
  rcases op with read | write | act
  · rfl
  · cases settled
  · rfl

/-- The inversion of the contract: a permitted operation is one of the moves. -/
theorem move_of_allowed {session : Session} {op : Op} (permitted : allowed session op) :
    Move session op := by
  cases issuance : session.issuance with
  | pending =>
      simp only [allowed, issuance] at permitted
      unfold Session.Permits at permitted
      split at permitted
      · exact .readClient _ permitted.1 permitted.2
      · exact .readUser _ issuance
      · exact .readUsers _ issuance
      · exact .readCode _ permitted.1 permitted.2
      · exact .readRefresh _ permitted.1 permitted.2
      · exact .readDevice _ permitted.1 permitted.2
      · exact .readSubject _ permitted.1 permitted.2
      · exact .readVerifying _ permitted.1 permitted.2
      · obtain ⟨row, grounds, found, rfl, unused, owns, presents⟩ := permitted
        exact .claimCode row issuance grounds found unused owns presents
      · obtain ⟨row, grounds, found, rfl, live, owns, refreshToken, carries, presents⟩ := permitted
        exact .rotate row refreshToken issuance grounds found live owns carries presents
      · obtain ⟨nonempty, ⟨row, replays, carries⟩ | ⟨row, replays, carries⟩⟩ := permitted
        · exact .sweepCode row _ issuance replays carries nonempty
        · exact .sweepRefresh row _ issuance replays carries nonempty
      · obtain ⟨row, grounds, found, rfl, approved, undenied, unused, owns, presents⟩ := permitted
        exact .claimDevice row issuance grounds found approved undenied unused owns presents
      · exact .approve _ _ issuance permitted
      · exact .deny _ issuance permitted
      · exact .saveUser _ permitted.1 permitted.2
      · exact .draw issuance
      · exact .enter _ issuance permitted
      · exact .of_calm permitted
  | entered request =>
      simp only [allowed, issuance] at permitted
      split at permitted
      · exact .save request _ issuance permitted
      · exact .of_settled permitted (by simp [issuance])
  | saved request row =>
      simp only [allowed, issuance] at permitted
      exact .of_settled permitted (by simp [issuance])
  | refused request =>
      simp only [allowed, issuance] at permitted
      exact .of_settled permitted (by simp [issuance])

/-! ### What a move changes -/

/-- The lookups that give a request its grounds. -/
inductive Reads : (op : Op) → op.Ans → Grounds → Prop
  | code (code : String) (row : AuthorizationCode) :
      Reads (.query (.getAuthorizationCode code)) (some row) (.code row)
  | refresh (refreshToken : String) (row : Token) :
      Reads (.query (.getTokenByRefreshToken refreshToken)) (some row) (.refresh row)
  | device (deviceCode : String) (row : DeviceAuthorization) :
      Reads (.query (.getDeviceAuthorizationByDeviceCode deviceCode)) (some row) (.device row)
  | subject (accessToken : String) (row : Token) :
      Reads (.query (.getTokenByAccessToken accessToken)) (some row) (.subject row)
  | verifying (userCode : String) (row : DeviceAuthorization) :
      Reads (.query (.getDeviceAuthorizationByUserCode userCode)) (some row) (.verifying row)

/-- The writes that consume the grounds of a request. -/
inductive Claims (session : Session) : (op : Op) → op.Ans → Grounds → Prop
  | code (row : AuthorizationCode) (unused : row.used = false)
      (presents : session.origin.Presents .authorizationCode "code" row.code)
      (count : Nat) (won : count ≠ 0) :
      Claims session (.command (.markAuthorizationCodeUsed row.code)) count (.code row)
  | refresh (row : Token) (live : row.revoked = false) (refreshToken : String)
      (carries : row.refreshToken = some refreshToken)
      (presents : session.origin.Presents .refreshToken "refresh_token" refreshToken) :
      Claims session (.command (.revokeToken row.accessToken)) () (.refresh row)
  | device (row : DeviceAuthorization) (approved : row.approved = true)
      (undenied : row.denied = false) (unused : row.used = false)
      (presents : session.origin.Presents .deviceCode "device_code" row.deviceCode)
      (count : Nat) (won : count ≠ 0) :
      Claims session (.command (.markDeviceAuthorizationUsed row.deviceCode)) count (.device row)
  | approve (row : DeviceAuthorization) (userId : String) :
      Claims session (.command (.approveDeviceAuthorization row.userCode userId)) ()
        (.verifying row)
  | deny (row : DeviceAuthorization) :
      Claims session (.command (.denyDeviceAuthorization row.userCode)) () (.verifying row)

section Changes

variable {session : Session} {op : Op} {answer : op.Ans} {grounds : Grounds}

theorem after_pending (pending : session.issuance = .pending) :
    after session op answer = session.learn op answer := by
  simp only [after, pending]

theorem after_entered {request : IssueRequest} (entered : session.issuance = .entered request)
    (row : Token) (outcome : Except StorageError Unit) :
    after session (.command (.saveToken row)) outcome =
      { session with
        issuance := match outcome with
          | .ok _ => .saved request row
          | .error _ => .refused request } := by
  cases outcome <;> simp only [after, entered]

/-- A request keeps its grounds, or has just read them. -/
theorem grounds_after (move : Move session op)
    (known : (after session op answer).grounds = some grounds) :
    session.grounds = some grounds ∨
      session.Open ∧ (after session op answer).stage = .found ∧ Reads op answer grounds := by
  cases move with
  | aside settled same => exact Or.inl (same answer ▸ known)
  | readClient clientId unknown opened =>
      rw [after_pending opened.2.2] at known
      exact Or.inl known
  | readUser userId pending =>
      rw [after_pending pending] at known
      cases answer <;> exact Or.inl known
  | saveUser user opened enabled =>
      rw [after_pending opened.2.2] at known
      cases answer <;> exact Or.inl known
  | readCode code opened presents =>
      rw [after_pending opened.2.2] at known ⊢
      obtain ⟨row, rfl, rfl⟩ := Option.map_eq_some_iff.1 known
      exact Or.inr ⟨opened, opened.2.1, .code code row⟩
  | readRefresh refreshToken opened presents =>
      rw [after_pending opened.2.2] at known ⊢
      obtain ⟨row, rfl, rfl⟩ := Option.map_eq_some_iff.1 known
      exact Or.inr ⟨opened, opened.2.1, .refresh refreshToken row⟩
  | readDevice deviceCode opened presents =>
      rw [after_pending opened.2.2] at known ⊢
      obtain ⟨row, rfl, rfl⟩ := Option.map_eq_some_iff.1 known
      exact Or.inr ⟨opened, opened.2.1, .device deviceCode row⟩
  | readSubject accessToken opened presents =>
      rw [after_pending opened.2.2] at known ⊢
      obtain ⟨row, rfl, rfl⟩ := Option.map_eq_some_iff.1 known
      exact Or.inr ⟨opened, opened.2.1, .subject accessToken row⟩
  | readVerifying userCode opened verifies =>
      rw [after_pending opened.2.2] at known ⊢
      obtain ⟨row, rfl, rfl⟩ := Option.map_eq_some_iff.1 known
      exact Or.inr ⟨opened, opened.2.1, .verifying userCode row⟩
  | readUsers _ pending | draw pending | claimCode _ pending | rotate _ _ pending
  | sweepCode _ _ pending | sweepRefresh _ _ pending | claimDevice _ pending | approve _ _ pending
  | deny _ pending | enter _ pending =>
      rw [after_pending pending] at known
      exact Or.inl known
  | save request row entered records =>
      rw [after_entered entered] at known
      exact Or.inl known

/-- Grounds are read once. -/
theorem grounds_kept (move : Move session op) (known : session.grounds = some grounds) :
    (after session op answer).grounds = some grounds := by
  cases move with
  | aside settled same => rw [same answer, known]
  | readClient _ _ opened | readCode _ opened | readRefresh _ opened | readDevice _ opened
  | readSubject _ opened | readVerifying _ opened | saveUser _ opened =>
      cases opened.1.symm.trans known
  | readUser userId pending =>
      rw [after_pending pending]
      cases answer <;> exact known
  | readUsers _ pending | draw pending | claimCode _ pending | rotate _ _ pending
  | sweepCode _ _ pending | sweepRefresh _ _ pending | claimDevice _ pending | approve _ _ pending
  | deny _ pending | enter _ pending =>
      rw [after_pending pending]
      exact known
  | save request row entered records =>
      rw [after_entered entered]
      exact known

/-- A request that has consumed its grounds had done so before, or has just
done so. -/
theorem claimed_after (move : Move session op)
    (known : (after session op answer).grounds = some grounds)
    (claimed : (after session op answer).stage = .claimed) :
    session.grounds = some grounds ∧
      (session.stage = .claimed ∨ session.stage = .found ∧ Claims session op answer grounds) := by
  rcases grounds_after move known with kept | ⟨_, found, _⟩
  · refine ⟨kept, ?_⟩
    cases move with
    | aside settled same => exact Or.inl (same answer ▸ claimed)
    | claimCode row pending own found unused owns presents =>
        cases own.symm.trans kept
        rw [after_pending pending] at claimed
        simp only [Session.learn] at claimed
        split at claimed
        · cases claimed
        · rename_i won
          exact Or.inr ⟨found, .code row unused presents answer won⟩
    | rotate row refreshToken pending own found live owns carries presents =>
        cases own.symm.trans kept
        exact Or.inr ⟨found, .refresh row live refreshToken carries presents⟩
    | claimDevice row pending own found approved undenied unused owns presents =>
        cases own.symm.trans kept
        rw [after_pending pending] at claimed
        simp only [Session.learn] at claimed
        split at claimed
        · cases claimed
        · rename_i won
          exact Or.inr ⟨found, .device row approved undenied unused presents answer won⟩
    | approve userCode userId pending undecided =>
        obtain ⟨row, own, found, rfl, _⟩ := undecided
        cases own.symm.trans kept
        exact Or.inr ⟨found, .approve row userId⟩
    | deny userCode pending undecided =>
        obtain ⟨row, own, found, rfl, _⟩ := undecided
        cases own.symm.trans kept
        exact Or.inr ⟨found, .deny row⟩
    | sweepCode _ _ pending | sweepRefresh _ _ pending =>
        rw [after_pending pending] at claimed
        cases claimed
    | readUser userId pending =>
        rw [after_pending pending] at claimed
        cases answer <;> exact Or.inl claimed
    | saveUser user opened enabled =>
        rw [after_pending opened.2.2] at claimed
        cases answer <;> exact Or.inl claimed
    | readUsers _ pending | draw pending | enter _ pending =>
        rw [after_pending pending] at claimed
        exact Or.inl claimed
    | readClient _ _ opened | readCode _ opened | readRefresh _ opened | readDevice _ opened
    | readSubject _ opened | readVerifying _ opened =>
        rw [after_pending opened.2.2] at claimed
        exact Or.inl claimed
    | save request row entered =>
        rw [after_entered entered] at claimed
        exact Or.inl claimed
  · rw [found] at claimed
    cases claimed

/-- A request that has done nothing about its row had done nothing before. -/
theorem found_before (found : (after session op answer).stage = .found) :
    session.stage = .found := by
  unfold after at found
  split at found
  · unfold Session.learn at found
    split at found
    all_goals first
      | exact found
      | cases found
      | (split at found <;> cases found)
  · split at found <;> exact found
  · exact found
  · exact found

/-- How a request on a code comes to the stage it is at. -/
inductive CodeStep (session : Session) (row : AuthorizationCode) : (op : Op) → op.Ans → Stage → Prop
  | kept (op : Op) (answer : op.Ans) (grounds : session.grounds = some (.code row)) :
      CodeStep session row op answer session.stage
  | read (code : String) :
      CodeStep session row (.query (.getAuthorizationCode code)) (some row) .found
  | marked (count : Nat) (grounds : session.grounds = some (.code row))
      (found : session.stage = .found) :
      CodeStep session row (.command (.markAuthorizationCodeUsed row.code)) count
        (if count = 0 then .lost else .claimed)
  | swept (family : String) (count : Nat) (replays : session.ReplaysCode row)
      (carries : row.tokenFamily = some family) :
      CodeStep session row (.command (.revokeTokenFamily family)) count .swept

theorem code_step (move : Move session op) {row : AuthorizationCode}
    (known : (after session op answer).grounds = some (.code row)) :
    CodeStep session row op answer (after session op answer).stage := by
  rcases grounds_after move known with kept | ⟨_, found, reads⟩
  · cases move with
    | aside settled same => 
        rw [same answer]
        exact .kept _ _ kept
    | claimCode own pending grounds found =>
        cases grounds.symm.trans kept
        rw [after_pending pending]
        exact .marked answer kept found
    | sweepCode own family pending replays carries =>
        cases replays.1.symm.trans kept
        rw [after_pending pending]
        exact .swept family answer replays carries
    | sweepRefresh own family pending replays => cases replays.1.symm.trans kept
    | rotate _ _ _ grounds | claimDevice _ _ grounds => cases grounds.symm.trans kept
    | approve _ _ _ undecided | deny _ _ undecided =>
        obtain ⟨_, grounds, _⟩ := undecided
        cases grounds.symm.trans kept
    | readUser userId pending =>
        rw [after_pending pending]
        cases answer <;> exact .kept _ _ kept
    | saveUser user opened enabled =>
        rw [after_pending opened.2.2]
        cases answer <;> exact .kept _ _ kept
    | readUsers _ pending | draw pending | enter _ pending =>
        rw [after_pending pending]
        exact .kept _ _ kept
    | readClient _ _ opened | readCode _ opened | readRefresh _ opened | readDevice _ opened
    | readSubject _ opened | readVerifying _ opened =>
        rw [after_pending opened.2.2]
        exact .kept _ _ kept
    | save request row entered =>
        rw [after_entered entered]
        exact .kept _ _ kept
  · rw [found]
    cases reads with
    | code code row => exact .read code

/-- The client is the one that was looked up. -/
theorem client_after {client : Client}
    (known : (after session op answer).client = some client) :
    session.client = some client ∨ ∃ clientId,
      (⟨op, answer⟩ : (op : Op) × op.Ans) = ⟨.query (.getClient clientId), some client⟩ := by
  unfold after at known
  split at known
  · unfold Session.learn at known
    split at known
    all_goals first
      | exact Or.inl known
      | cases known
        exact Or.inr ⟨_, rfl⟩
  · split at known <;> exact Or.inl known
  · exact Or.inl known
  · exact Or.inl known

/-- The identifier drawn last changes with a draw only. -/
theorem drawn_after {identifier : String}
    (drawn : (after session op answer).drawn = some identifier) :
    session.drawn = some identifier ∨
      (⟨op, answer⟩ : (op : Op) × op.Ans) = ⟨.ambient .uuid4Hex, identifier⟩ := by
  unfold after at drawn
  split at drawn
  · unfold Session.learn at drawn
    split at drawn
    all_goals first
      | exact Or.inl drawn
      | cases drawn
        exact Or.inr rfl
  · split at drawn <;> exact Or.inl drawn
  · exact Or.inl drawn
  · exact Or.inl drawn

/-- A token is saved by the insertion of its row. -/
theorem saved_after {request : IssueRequest} {row : Token}
    (saved : (after session op answer).issuance = .saved request row) :
    session.issuance = .saved request row ∨
      (⟨op, answer⟩ : (op : Op) × op.Ans) = ⟨.command (.saveToken row), .ok ()⟩ := by
  unfold after at saved
  split at saved
  · rename_i pending
    unfold Session.learn at saved
    split at saved
    all_goals first
      | cases pending.symm.trans saved
      | cases saved
  · rename_i entered
    split at saved
    · cases saved
      exact Or.inr rfl
    · cases saved
    · cases entered.symm.trans saved
  · exact Or.inl saved
  · exact Or.inl saved

/-- What a request was entitled to when it entered `issue`, it stays entitled to. -/
def Consistent (session : Session) : Prop :=
  match session.issuance with
  | .pending => True
  | .entered request => session.Entitles request
  | .saved request row => session.Entitles request ∧ Records request row
  | .refused request => session.Entitles request

theorem consistent_after (move : Move session op) (consistent : Consistent session) :
    Consistent (after session op answer) := by
  cases issuance : session.issuance with
  | pending =>
      rw [after_pending issuance]
      cases move with
      | aside settled same =>
          rw [← after_pending issuance, same answer]
          exact consistent
      | enter request pending entitled => exact entitled
      | save request row entered => cases issuance.symm.trans entered
      | readUser | saveUser => cases answer <;> simp [Consistent, Session.learn, issuance]
      | _ => simp [Consistent, Session.learn, issuance]
  | entered request =>
      simp only [Consistent, issuance] at consistent
      cases move with
      | aside settled same => simpa only [same answer, Consistent, issuance] using consistent
      | save other row entered records =>
          cases issuance.symm.trans entered
          rw [after_entered entered]
          cases answer with
          | ok _ => exact ⟨consistent, records⟩
          | error _ => exact consistent
      | readClient _ _ opened | readCode _ opened | readRefresh _ opened | readDevice _ opened
      | readSubject _ opened | readVerifying _ opened | saveUser _ opened =>
          cases issuance.symm.trans opened.2.2
      | readUser _ pending | readUsers _ pending | draw pending | enter _ pending
      | claimCode _ pending | rotate _ _ pending | sweepCode _ _ pending | sweepRefresh _ _ pending
      | claimDevice _ pending | approve _ _ pending | deny _ pending =>
          cases issuance.symm.trans pending
  | saved request row => simpa [after, issuance] using consistent
  | refused request => simpa [after, issuance] using consistent

end Changes

end OAuth2Server.Protocol
