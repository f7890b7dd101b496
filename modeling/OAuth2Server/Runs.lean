import OAuth2Server.Conformance
import OAuth2Server.Backends

/-!
# Interleaved requests

Any number of token requests and device verifications over one store, each
storage call one step, in any order of steps. What a state of such a run is
known to satisfy is read off the session of each request.
-/

namespace OAuth2Server.Runs

open OAuth2Server Models Storage Effects Interaction Interaction.Program Interleaving
open Dpop TokenEndpoint Endpoints Protocol Conformance

set_option autoImplicit false

variable {ι : Type} [DecidableEq ι] {env : Env} {world : World} {origins : ι → Origin}

/-- The state of a server on which several requests are running. -/
abbrev Requests (ι : Type) := Pool Server World Response Response ι

/-- The requests at their beginning. -/
def opening (env : Env) (world : World) (origins : ι → Origin) : Requests ι :=
  Pool.start world fun thread => (origins thread).program env

/-- The state after the moves of a schedule. -/
def reached (env : Env) (world : World) (origins : ι → Origin) (schedule : List ι) : Requests ι :=
  Pool.exec env.interp (opening env world origins) schedule

@[reducible] def tokenOrigins (requests : ι → Request) (thread : ι) : Origin :=
  .token (requests thread)

/-- A run of token requests only. -/
def tokenRun (env : Env) (world : World) (requests : ι → Request) (schedule : List ι) :
    Requests ι :=
  reached env world (tokenOrigins requests) schedule

def blank (origins : ι → Origin) (thread : ι) : Session := { origin := origins thread }

/-- What is known of each request. -/
def sessions (origins : ι → Origin) (pool : Requests ι) : ι → Session :=
  Pool.phase protocol (blank origins) pool

theorem reached_append (earlier later : List ι) :
    reached env world origins (earlier ++ later) =
      Pool.exec env.interp (reached env world origins earlier) later :=
  Pool.exec_append _ _ _ _

theorem following_reached (env : Env) (world : World) (origins : ι → Origin) (schedule : List ι) :
    Pool.Following protocol Ended (blank origins) (reached env world origins schedule) :=
  (Pool.following_start fun thread => obeys_program env (origins thread)).exec
    (protocol_sound env) schedule

theorem after_origin (session : Session) (op : Op) (answer : op.Ans) :
    (after session op answer).origin = session.origin := by
  unfold after
  split
  · unfold Session.learn
    split <;> rfl
  · split <;> rfl
  · rfl
  · rfl

omit [DecidableEq ι] in
theorem session_origin (origins : ι → Origin) (pool : Requests ι) (thread : ι) :
    (sessions origins pool thread).origin = origins thread := by
  have kept : ∀ (history : List (Event Server)) (session : Session),
      (Pool.track protocol session history).origin = session.origin := by
    intro history
    induction history with
    | nil => exact fun _ => rfl
    | cons event rest induction =>
        intro session
        exact (induction _).trans (after_origin session event.op event.answer)
  exact kept _ _

omit [DecidableEq ι] in
theorem session_presents (origins : ι → Origin) (pool : Requests ι) {thread : ι} {grant : Grant}
    {field value : String}
    (presents : (origins thread).Presents grant field value) :
    (sessions origins pool thread).origin.Presents grant field value :=
  (session_origin origins pool thread).symm ▸ presents

/-- The sessions after a move. -/
def moved (env : Env) (origins : ι → Origin) (pool : Requests ι) (thread : ι) (op : Op) :
    ι → Session :=
  Function.update (sessions origins pool) thread
    (after (sessions origins pool thread) op (env.interp op pool.world).1)

theorem moved_cases (env : Env) (origins : ι → Origin) (pool : Requests ι) (thread : ι) (op : Op)
    (other : ι) :
    other = thread ∧ moved env origins pool thread op other =
        after (sessions origins pool thread) op (env.interp op pool.world).1 ∨
      other ≠ thread ∧ moved env origins pool thread op other = sessions origins pool other := by
  unfold moved
  by_cases same : other = thread
  · subst same
    exact Or.inl ⟨rfl, Function.update_self ..⟩
  · exact Or.inr ⟨same, Function.update_of_ne same ..⟩

/-- An invariant of the store and the sessions that every move keeps holds in
every state of every run. -/
theorem run_invariant (inv : World → (ι → Session) → Prop)
    (condition : Requests ι → ι → Prop)
    (preserved : ∀ (pool : Requests ι) (thread : ι) (op : Op), pool.NextOp thread op →
      condition pool thread → Move (sessions origins pool thread) op →
      inv pool.world (sessions origins pool) →
      inv (env.interp op pool.world).2 (moved env origins pool thread op))
    (base : inv world (blank origins)) (schedule : List ι)
    (along : Pool.Along env.interp condition (opening env world origins) schedule) :
    inv (reached env world origins schedule).world
      (sessions origins (reached env world origins schedule)) :=
  Pool.exec_invariant (protocol_sound env) inv condition
    (fun pool thread op upcoming here permitted holds =>
      preserved pool thread op upcoming here (move_of_allowed permitted) holds)
    (Pool.following_start fun thread => obeys_program env (origins thread)) base schedule along

/-- The same for an invariant that also sees which requests have finished. -/
theorem run_pool_invariant (inv : Requests ι → Prop) (condition : Requests ι → ι → Prop)
    (preserved : ∀ (pool : Requests ι) (thread : ι) (op : Op) (next : op.Ans → Handler Response),
      pool.rest thread = .call op next → condition pool thread →
      Move (sessions origins pool thread) op → inv pool →
      inv (Pool.step env.interp pool thread))
    (base : inv (opening env world origins)) (schedule : List ι)
    (along : Pool.Along env.interp condition (opening env world origins) schedule) :
    inv (reached env world origins schedule) :=
  Pool.exec_pool_invariant (protocol_sound env) inv condition
    (fun pool thread op next upcoming here permitted holds =>
      preserved pool thread op next upcoming here (move_of_allowed permitted) holds)
    (Pool.following_start fun thread => obeys_program env (origins thread)) base schedule along

theorem sessions_step {pool : Requests ι} {thread : ι} {op : Op} {next : op.Ans → Handler Response}
    (upcoming : pool.rest thread = .call op next) :
    sessions origins (Pool.step env.interp pool thread) = moved env origins pool thread op :=
  Pool.phase_step_of_call env.interp protocol (blank origins) upcoming

theorem world_step {pool : Requests ι} {thread : ι} {op : Op} {next : op.Ans → Handler Response}
    (upcoming : pool.rest thread = .call op next) :
    (Pool.step env.interp pool thread).world = (env.interp op pool.world).2 := by
  rw [Pool.step_of_call env.interp upcoming]

/-- The unconditional form. -/
theorem run_always (inv : World → (ι → Session) → Prop)
    (preserved : ∀ (pool : Requests ι) (thread : ι) (op : Op),
      Move (sessions origins pool thread) op → inv pool.world (sessions origins pool) →
      inv (env.interp op pool.world).2 (moved env origins pool thread op))
    (base : inv world (blank origins)) (schedule : List ι) :
    inv (reached env world origins schedule).world
      (sessions origins (reached env world origins schedule)) :=
  run_invariant inv (fun _ _ => True)
    (fun pool thread op _ _ move holds => preserved pool thread op move holds) base schedule
    (Pool.along_of_forall _ (fun _ _ => trivial) _ _)

/-! ### The tables under a move -/

section Tables

variable {session : Session} {op : Op}

/-- Token rows are revoked in place, and inserted by `issue` only. -/
theorem tokens_moved (env : Env) (world : World) (op : Op) :
    Tables.Step Backends.Evolves (fun row => op = .command (.saveToken row))
      world.store.tokens.rows (env.interp op world).2.store.tokens.rows := by
  rcases op with read | write | act
  · exact .unchanged Backends.Evolves.refl rfl
  · exact (Backends.tokens_step env.backend world.store write).mono
      fun row inserted => congrArg Op.command inserted
  · exact .unchanged Backends.Evolves.refl rfl

/-- No request on a grant inserts a code. -/
theorem codes_moved (env : Env) (world : World) (move : Move session op) :
    Tables.Step Backends.Spends (fun _ => False) world.store.codes.rows
      (env.interp op world).2.store.codes.rows := by
  rcases op with read | write | act
  · exact .unchanged Backends.Spends.refl rfl
  · refine (Backends.codes_step env.backend world.store write).mono fun row inserted => ?_
    subst inserted
    cases move with
    | aside settled => cases settled
  · exact .unchanged Backends.Spends.refl rfl

/-- Nor a device authorization. -/
theorem devices_moved (env : Env) (world : World) (move : Move session op) :
    Tables.Step Backends.Advances (fun _ => False) world.store.devices.rows
      (env.interp op world).2.store.devices.rows := by
  rcases op with read | write | act
  · exact .unchanged Backends.Advances.refl rfl
  · refine (Backends.devices_step env.backend world.store write).mono fun row inserted => ?_
    subst inserted
    cases move with
    | aside settled => cases settled
  · exact .unchanged Backends.Advances.refl rfl

/-- The codes change with a claim only. -/
theorem codes_same_or_claimed (env : Env) (world : World) (move : Move session op) :
    (env.interp op world).2.store.codes = world.store.codes ∨
      ∃ row, session.grounds = some (.code row) ∧ session.issuance = .pending ∧
        op = .command (.markAuthorizationCodeUsed row.code) := by
  rcases op with read | write | act
  · exact Or.inl rfl
  · by_cases apart : Backends.writesCodes write = false
    · exact Or.inl (Backends.codes_kept apart)
    · cases move with
      | aside settled => cases settled
      | claimCode row pending grounds => exact Or.inr ⟨row, grounds, pending, rfl⟩
      | _ => exact absurd rfl apart
  · exact Or.inl rfl

/-- The code a request has done nothing about is stored as it was read. -/
theorem code_stored {row : AuthorizationCode} (move : Move session op)
    (before : ∀ row, session.grounds = some (.code row) → session.stage = .found →
      row ∈ world.store.codes.rows)
    (known : (after session op (env.interp op world).1).grounds = some (.code row))
    (found : (after session op (env.interp op world).1).stage = .found) :
    row ∈ (env.interp op world).2.store.codes.rows := by
  rcases grounds_after move known with kept | ⟨_, _, reads⟩
  · have stored := before row kept (found_before found)
    rcases codes_same_or_claimed env world move with same | ⟨_, _, pending, rfl⟩
    · rw [same]
      exact stored
    · rw [after_pending pending] at found
      simp only [Session.learn] at found
      split at found <;> cases found
  · generalize given : (env.interp op world).1 = answer at reads
    cases reads with
    | code looked row => exact (Tables.Table.mem_of_first given).1

/-- For a request on a device code, so do the device authorizations. -/
theorem devices_same_or_claimed (env : Env) (world : World) (move : Move session op)
    {found : DeviceAuthorization} (known : session.grounds = some (.device found)) :
    (env.interp op world).2.store.devices = world.store.devices ∨
      session.issuance = .pending ∧
        op = .command (.markDeviceAuthorizationUsed found.deviceCode) := by
  rcases op with read | write | act
  · exact Or.inl rfl
  · by_cases apart : Backends.writesDevices write = false
    · exact Or.inl (Backends.devices_kept apart)
    · cases move with
      | aside settled => cases settled
      | claimDevice row pending grounds =>
          cases grounds.symm.trans known
          exact Or.inr ⟨pending, rfl⟩
      | approve _ _ _ undecided | deny _ _ undecided =>
          obtain ⟨_, grounds, _⟩ := undecided
          cases grounds.symm.trans known
      | _ => exact absurd rfl apart
  · exact Or.inl rfl

/-- Nor does it touch the clients. -/
theorem clients_moved (env : Env) (world : World) (move : Move session op) :
    (env.interp op world).2.store.clients = world.store.clients := by
  rcases op with read | write | act
  · rfl
  · refine Backends.clients_kept ?_
    cases move with
    | aside settled => cases settled
    | _ => rfl
  · rfl

end Tables

/-! ### The random source -/

/-- No identifier still to be drawn is `family`. -/
def Undrawn (env : Env) (family : String) (world : World) : Prop :=
  ∀ draw, world.process.draws ≤ draw → env.platform.random draw ≠ family

theorem draws_step (op : Op) (world : World) :
    world.process.draws ≤ (env.interp op world).2.process.draws := by
  rcases op with read | write | act
  · exact le_refl _
  · exact le_refl _
  · cases act with
    | checkInvalidClient clientId =>
        simp only [interp_ambient, Ambient.exec]
        split <;> exact le_refl _
    | fetchJwks url =>
        simp only [interp_ambient, Ambient.exec]
        split
        · exact le_refl _
        · split <;> exact le_refl _
    | tokenUrlsafe _ | uuid4Hex | randomPart | hashPassword _ => exact Nat.le_succ _
    | _ => exact le_refl _

theorem undrawn_step {family : String} (op : Op) (undrawn : Undrawn env family world) :
    Undrawn env family (env.interp op world).2 :=
  fun draw later => undrawn draw ((draws_step op world).trans later)

/-- An identifier that is drawn is none of the ones ruled out. -/
theorem drawn_step {session : Session} {family : String} (op : Op) (undrawn : Undrawn env family world)
    (other : session.drawn ≠ some family) :
    (after session op (env.interp op world).1).drawn ≠ some family := by
  intro drawn
  rcases drawn_after drawn with before | now
  · exact other before
  · obtain ⟨rfl, answer⟩ := Sigma.mk.inj_iff.1 now
    exact undrawn world.process.draws (le_refl _) (eq_of_heq answer)

/-! ### What an answer tells -/

theorem asks_unique {origin : Origin} {left right : Grant} (asksLeft : origin.Asks left)
    (asksRight : origin.Asks right) : left = right := by
  obtain ⟨request, rfl, named⟩ := asksLeft
  obtain ⟨_, same, namedRight⟩ := asksRight
  cases same
  rw [named] at namedRight
  cases left <;> cases right <;> first | rfl | exact absurd (Option.some.inj namedRight) (by decide)

theorem asks_of_presents {origin : Origin} {grant : Grant} {field value : String}
    (presents : origin.Presents grant field value) : origin.Asks grant := by
  obtain ⟨request, same, named, _⟩ := presents
  exact ⟨request, same, named⟩

theorem presents_unique {origin : Origin} {grant : Grant} {field left right : String}
    (presentsLeft : origin.Presents grant field left)
    (presentsRight : origin.Presents grant field right) : left = right := by
  obtain ⟨request, rfl, _, carried⟩ := presentsLeft
  obtain ⟨_, same, _, carriedRight⟩ := presentsRight
  cases same
  exact Option.some.inj (carried.symm.trans carriedRight)

section Entitlement

variable {session : Session} {request : IssueRequest}

/-- The grant a request asks for decides the grounds it is issued a token on. -/
theorem entitled_by_code {code : String} (entitled : session.Entitles request)
    (presents : session.origin.Presents .authorizationCode "code" code) :
    ∃ row, session.grounds = some (.code row) ∧ row.code = code ∧
      session.EntitlesByCode request row := by
  have asks := asks_of_presents presents
  obtain ⟨_, _, grounds⟩ := entitled
  split at grounds
  · rename_i row found
    exact ⟨row, found, presents_unique grounds.1 presents, grounds⟩
  · obtain ⟨⟨_, other, _⟩, _⟩ := grounds
    exact absurd (asks_unique asks (asks_of_presents other)) (by decide)
  · exact absurd (asks_unique asks (asks_of_presents grounds.1)) (by decide)
  · exact absurd (asks_unique asks (asks_of_presents grounds.1)) (by decide)
  · exact grounds.elim
  · obtain ⟨_, _, _, _, ⟨other, _⟩ | ⟨other, _⟩⟩ := grounds
    · exact absurd (asks_unique asks other) (by decide)
    · exact absurd (asks_unique asks other) (by decide)

theorem entitled_by_refresh {refreshToken : String} (entitled : session.Entitles request)
    (presents : session.origin.Presents .refreshToken "refresh_token" refreshToken) :
    ∃ row, session.grounds = some (.refresh row) ∧ row.refreshToken = some refreshToken ∧
      session.EntitlesByRefresh request row := by
  have asks := asks_of_presents presents
  obtain ⟨_, _, grounds⟩ := entitled
  split at grounds
  · exact absurd (asks_unique asks (asks_of_presents grounds.1)) (by decide)
  · rename_i row found
    obtain ⟨carried, other, carries⟩ := grounds.1
    exact ⟨row, found, presents_unique presents other ▸ carries, grounds⟩
  · exact absurd (asks_unique asks (asks_of_presents grounds.1)) (by decide)
  · exact absurd (asks_unique asks (asks_of_presents grounds.1)) (by decide)
  · exact grounds.elim
  · obtain ⟨_, _, _, _, ⟨other, _⟩ | ⟨other, _⟩⟩ := grounds
    · exact absurd (asks_unique asks other) (by decide)
    · exact absurd (asks_unique asks other) (by decide)

theorem entitled_by_device {deviceCode : String} (entitled : session.Entitles request)
    (presents : session.origin.Presents .deviceCode "device_code" deviceCode) :
    ∃ row, session.grounds = some (.device row) ∧ row.deviceCode = deviceCode ∧
      session.EntitlesByDevice request row := by
  have asks := asks_of_presents presents
  obtain ⟨_, _, grounds⟩ := entitled
  split at grounds
  · exact absurd (asks_unique asks (asks_of_presents grounds.1)) (by decide)
  · obtain ⟨⟨_, other, _⟩, _⟩ := grounds
    exact absurd (asks_unique asks (asks_of_presents other)) (by decide)
  · rename_i row found
    exact ⟨row, found, presents_unique grounds.1 presents, grounds⟩
  · exact absurd (asks_unique asks (asks_of_presents grounds.1)) (by decide)
  · exact grounds.elim
  · obtain ⟨_, _, _, _, ⟨other, _⟩ | ⟨other, _⟩⟩ := grounds
    · exact absurd (asks_unique asks other) (by decide)
    · exact absurd (asks_unique asks other) (by decide)

end Entitlement

/-- The request inserted the token row. -/
def Saves {ι : Type} (pool : Requests ι) (thread : ι) (row : Token) : Prop :=
  ⟨.command (.saveToken row), .ok ()⟩ ∈ pool.history thread

/-- What a request saved is what its session records, on the grounds it read. -/
theorem saved_of_saves {schedule : List ι} {thread : ι} {row : Token}
    (saves : Saves (reached env world origins schedule) thread row) :
    ∃ request, (sessions origins (reached env world origins schedule) thread).issuance =
        .saved request row ∧ Records request row ∧
      (sessions origins (reached env world origins schedule) thread).Entitles request := by
  have tracked := Pool.history_invariant (protocol_sound env)
    (fun history session => Consistent session ∧
      (⟨.command (.saveToken row), .ok ()⟩ ∈ history →
        ∃ request, session.issuance = .saved request row))
    ?_ (following_reached env world origins [])
    ?_ schedule thread
  · obtain ⟨consistent, saved⟩ := tracked
    obtain ⟨request, issuance⟩ := saved saves
    simp only [Consistent, issuance] at consistent
    exact ⟨request, issuance, consistent.2, consistent.1⟩
  · rintro history session op answer permitted _ ⟨consistent, before⟩
    refine ⟨consistent_after (move_of_allowed permitted) consistent, fun member => ?_⟩
    rcases List.mem_append.1 member with old | new
    · obtain ⟨request, issuance⟩ := before old
      exact ⟨request, by simp only [after, issuance]⟩
    · cases List.mem_singleton.1 new
      cases move_of_allowed permitted with
      | aside settled => cases settled
      | save request row entered records =>
          exact ⟨request, congrArg Session.issuance (after_entered entered row (.ok ()))⟩
  · exact fun other => ⟨trivial, fun member => by cases member⟩

/-- A token request that answered 200 has saved a token it was entitled to. -/
theorem granted_of_ok {schedule : List ι} {thread : ι} {request : Request} {response : Response}
    (token : origins thread = .token request)
    (answered : (reached env world origins schedule).answer? thread = some response)
    (ok : response.status = 200) :
    ∃ issued row, (sessions origins (reached env world origins schedule) thread).issuance =
        .saved issued row ∧ Records issued row ∧
      (sessions origins (reached env world origins schedule) thread).Entitles issued := by
  have origin := session_origin origins (reached env world origins schedule) thread
  rcases (following_reached env world origins schedule).post_of_answer answered with granted | refused
  · exact (granted ⟨request, origin.trans token⟩).2
  · exact absurd ok (refused ⟨request, origin.trans token⟩).1

/-- The error and the description of a refusal, as a client reads them. -/
def refusalText (response : Response) : Option (String × String) :=
  match response with
  | ⟨400, [("Cache-Control", "no-store")],
      .obj [("error", .str error), ("error_description", .str description)]⟩ =>
      some (error, description)
  | _ => none

theorem eq_of_refusal_text {response : Response} {error description : String}
    (text : refusalText response = some (error, description)) (other : error ≠ "invalid_client") :
    response = oauthError error (some description) := by
  unfold refusalText at text
  split at text
  · cases text
    simp [oauthError, other, optionalMember]
  · cases text

/-! ### A small deployment

Opaque access tokens, two public clients, clocks that advance by one with every
reading, and a random source that never repeats itself. -/

def sampleJwt : JwtLibrary where
  usable _ _ := true
  encode _ _ _ _ := ""
  unverifiedHeader _ := .error .decode
  unverifiedClaims _ := none
  jwkKind _ _ := .error "Invalid key"
  verify _ _ _ _ _ := .error (.pyjwt "Not enough segments")

/-- The code verifier of the sample authorization codes and its S256 challenge. -/
def sampleVerifier : String := "dBjftJeZ4CVP-mB92K27uhbUJU1p1r_wW1gFWFOEjXk"

def sampleChallenge : String := "E9Melhoa2OwvFrEMTJguCHaoeK1t8URWbuGJSstw-cM"

def samplePlatform : Platform where
  jwt := sampleJwt
  sha256Url text := if text == sampleVerifier then sampleChallenge else ""
  halfHash text := text
  hmacTag _ _ := []
  casefold := Text.lower
  upper text := text
  lower := Text.lower
  floatRepr _ := ""
  strOf _ := ""
  recursionLimit := 1000
  clock reading := reading
  monotonic reading := reading
  random draw := "random-" ++ toString draw
  letters _ := "BCDF"
  hashPassword _ password := password
  fetchFromUrl _ _ := .error (some "Failed to fetch jwks_uri")

def sampleEnv : Env where
  config := { jwtSecret := "secret", issuer := "https://as.example", accessTokensOpaque := true }
  backend := .sql
  platform := samplePlatform

def sampleClient : Client where
  id := "client-row"
  clientId := "app"
  clientSecret := ""
  redirectUris := "[\"https://app.example/cb\"]"
  grantTypes := "[\"authorization_code\", \"refresh_token\", \"" ++ deviceCodeGrant ++ "\"]"
  scope := "read write"
  name := "App"
  createdAt := 0
  updatedAt := 0
  tokenEndpointAuthMethod := "none"

def sampleProcess : Process.State where
  readings := 0
  draws := 0
  requests := 0
  keys := []
  jtiGuard := []
  dpopReplay := []
  devicePoll := []
  jwksCache := []
  invalidClientLimiter := none

/-- A store that knows the client and nothing else. -/
def sampleStore : Store := { Store.empty with clients := ⟨[sampleClient], by simp⟩ }

def sampleToken : Token where
  id := "token-row"
  accessToken := "access"
  refreshToken := some "refresh"
  scope := "read"
  clientId := "app"
  userId := some "alice"
  createdAt := 0
  expiresAt := 3600000000
  tokenFamily := some "family"

/-- A store with one live refresh token. -/
def sampleTokenWorld : World where
  store := { sampleStore with tokens := ⟨[sampleToken], by simp⟩ }
  process := sampleProcess

def sampleRefresh : Request where
  form := [("grant_type", "refresh_token"), ("client_id", "app"), ("refresh_token", "refresh")]

def sampleCode : AuthorizationCode where
  id := "code-row"
  code := "code"
  clientId := "app"
  userId := "alice"
  redirectUri := "https://app.example/cb"
  scope := "read"
  createdAt := 0
  expiresAt := 600000000
  codeChallenge := some sampleChallenge
  codeChallengeMethod := some "S256"
  tokenFamily := some "family"

/-- A store with one unused code. -/
def sampleCodeWorld : World where
  store := { sampleStore with codes := ⟨[sampleCode], by simp⟩ }
  process := sampleProcess

def sampleRedemption : Request where
  form := [("grant_type", "authorization_code"), ("client_id", "app"), ("code", "code"),
    ("redirect_uri", "https://app.example/cb"), ("code_verifier", sampleVerifier)]

end OAuth2Server.Runs
