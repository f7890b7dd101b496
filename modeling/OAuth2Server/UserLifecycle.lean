import OAuth2Server.Runs
import OAuth2Server.Server

/-!
# A disabled user and the grants still open

Disabling a user revokes the tokens there are. The jwt-bearer grant looks at
the user before it issues another; the code and device grants do not. Unless
one of these redeems a code or a device authorization of the user, the user has
no live token until enabled again.
-/

namespace OAuth2Server.UserLifecycle

open OAuth2Server Models Tables Storage Effects Interaction Interaction.Program
open Dpop TokenEndpoint Administration Protocol Runs Backends Server

set_option autoImplicit false

variable {env : Env} {world : World} {userId : String}

def Enabled (userId : String) (store : Store) : Prop :=
  ∃ user ∈ store.users, user.id = userId ∧ user.enabled = true

/-- Every token of the user is revoked. -/
def CutOff (userId : String) (store : Store) : Prop :=
  ∀ row ∈ store.tokens.rows, row.userId = some userId → row.revoked = true

/-- The operation claims no code and no device authorization of the user. -/
def ClaimsNone (userId : String) (world : World) : Op → Prop
  | .command (.markAuthorizationCodeUsed code) =>
      ∀ row ∈ world.store.codes.rows, row.code = code → row.userId = userId → row.used = true
  | .command (.markDeviceAuthorizationUsed deviceCode) =>
      ∀ row ∈ world.store.devices.rows, row.deviceCode = deviceCode →
        row.userId = some userId → row.used = true
  | _ => True

/-! ### Single operations -/

theorem cut_off_of_evolves {before later : Token} (evolves : Evolves before later)
    (revoked : before.userId = some userId → before.revoked = true)
    (owned : later.userId = some userId) : later.revoked = true := by
  rcases evolves.userId with same | ⟨_, unlinked⟩
  · exact evolves.revoked (revoked (same.symm.trans owned))
  · exact unlinked

theorem cut_off_tokenless (op : Op) (world : World)
    (tokenless : ∀ row, op ≠ .command (.saveToken row))
    (cutOff : CutOff userId world.store) : CutOff userId (env.interp op world).2.store := by
  intro row member owned
  rcases (tokens_moved env world op).origin Evolves.refl member with
    ⟨before, old, evolves⟩ | inserted
  · exact cut_off_of_evolves evolves (cutOff before old) owned
  · exact absurd inserted (tokenless row)

/-- A token request adds users and changes none. -/
theorem users_moved (env : Env) (world : World) {session : Session} {op : Op} (move : Move session op) :
    (env.interp op world).2.store.users = world.store.users ∨
      ∃ user, (⟨op, (env.interp op world).1⟩ : (op : Op) × op.Ans) =
          ⟨.command (.saveUser user), .ok ()⟩ ∧
        (env.interp op world).2.store.users = world.store.users ++ [user] := by
  rcases op with read | write | act
  · exact Or.inl rfl
  · by_cases apart : writesUsers write = false
    · exact Or.inl (users_kept apart)
    · cases move with
      | aside settled => cases settled
      | saveUser user opened enabled =>
          simp only [interp_command, Command.exec]
          split
          · exact Or.inl rfl
          · exact Or.inr ⟨user, rfl, rfl⟩
      | _ => exact absurd rfl apart
  · exact Or.inl rfl

theorem enabled_moved {session : Session} {op : Op} (move : Move session op)
    (enabled : Enabled userId world.store) : Enabled userId (env.interp op world).2.store := by
  obtain ⟨user, member, sameId, on⟩ := enabled
  refine ⟨user, ?_, sameId, on⟩
  rcases users_moved env world move with same | ⟨added, _, grown⟩
  · rw [same]
    exact member
  · rw [grown]
    exact List.mem_append_left _ member

/-! ### What a request knows about the user -/

/-- Nothing a token request has read or claimed so far leads to a token of the
disabled user. -/
structure Sparing (userId : String) (session : Session) (world : World) : Prop where
  cutOff : CutOff userId world.store
  presented : ∀ row, session.grounds = some (.refresh row) ∨ session.grounds = some (.subject row) →
    row.userId = some userId → row.revoked = true
  code : ∀ row, session.grounds = some (.code row) →
    (session.stage = .found → row ∈ world.store.codes.rows) ∧
      (session.stage = .claimed → row.userId ≠ userId)
  device : ∀ row, session.grounds = some (.device row) →
    (session.stage = .found → row ∈ world.store.devices.rows) ∧
      (session.stage = .claimed → row.userId ≠ some userId)
  accounts : ∀ user ∈ session.accounts, user.id = userId → user.enabled = false
  consistent : Consistent session

section Step

variable {session : Session} {op : Op}

theorem code_spared (move : Move session op) (condition : ClaimsNone userId world op)
    (before : ∀ row, session.grounds = some (.code row) →
      (session.stage = .found → row ∈ world.store.codes.rows) ∧
        (session.stage = .claimed → row.userId ≠ userId))
    (row : AuthorizationCode)
    (known : (after session op (env.interp op world).1).grounds = some (.code row)) :
    ((after session op (env.interp op world).1).stage = .found →
        row ∈ (env.interp op world).2.store.codes.rows) ∧
      ((after session op (env.interp op world).1).stage = .claimed → row.userId ≠ userId) := by
  constructor
  · intro found
    exact code_stored move (fun row kept => (before row kept).1) known found
  · intro claimed owned
    obtain ⟨kept, already | ⟨found, claims⟩⟩ := claimed_after move known claimed
    · exact (before row kept).2 already owned
    · generalize (env.interp op world).1 = answer at claims
      cases claims with
      | code row unused =>
          have used := condition row ((before row kept).1 found) rfl owned
          rw [unused] at used
          cases used

theorem device_spared (move : Move session op) (condition : ClaimsNone userId world op)
    (before : ∀ row, session.grounds = some (.device row) →
      (session.stage = .found → row ∈ world.store.devices.rows) ∧
        (session.stage = .claimed → row.userId ≠ some userId))
    (row : DeviceAuthorization)
    (known : (after session op (env.interp op world).1).grounds = some (.device row)) :
    ((after session op (env.interp op world).1).stage = .found →
        row ∈ (env.interp op world).2.store.devices.rows) ∧
      ((after session op (env.interp op world).1).stage = .claimed →
        row.userId ≠ some userId) := by
  constructor
  · intro found
    rcases grounds_after move known with kept | ⟨_, _, reads⟩
    · have stored := (before row kept).1 (found_before found)
      rcases devices_same_or_claimed env world move kept with same | ⟨pending, rfl⟩
      · rw [same]
        exact stored
      · rw [after_pending pending] at found
        simp only [Session.learn] at found
        split at found <;> cases found
    · generalize given : (env.interp op world).1 = answer at reads
      cases reads with
      | device looked row => exact (Table.mem_of_first given).1
  · intro claimed owned
    obtain ⟨kept, already | ⟨found, claims⟩⟩ := claimed_after move known claimed
    · exact (before row kept).2 already owned
    · generalize (env.interp op world).1 = answer at claims
      cases claims with
      | device row approved undenied unused =>
          have used := condition row ((before row kept).1 found) rfl owned
          rw [unused] at used
          cases used

/-- What a request knows of a user is in the store, or it was known before. -/
theorem accounts_after (move : Move session op) {user : User}
    (member : user ∈ (after session op (env.interp op world).1).accounts) :
    user ∈ session.accounts ∨ user ∈ (env.interp op world).2.store.users := by
  cases move with
  | aside settled same => exact Or.inl (same _ ▸ member)
  | readUser looked pending =>
      rw [after_pending pending] at member
      cases found : Query.eval env.backend world.store (.getUserById looked) with
      | none =>
          simp only [interp_query, found, Session.learn] at member
          exact Or.inl member
      | some other =>
          simp only [interp_query, found, Session.learn] at member
          rcases List.mem_cons.1 member with rfl | known
          · exact Or.inr (List.mem_of_find?_eq_some found)
          · exact Or.inl known
  | readUsers folded pending =>
      rw [after_pending pending] at member
      rcases List.mem_append.1 member with found | known
      · exact Or.inr (List.mem_filter.1 found).1
      · exact Or.inl known
  | saveUser added opened enabled =>
      rw [after_pending opened.2.2] at member
      simp only [interp_command, Command.exec] at member ⊢
      split at member
      · exact Or.inl member
      · rename_i free
        rw [if_neg free]
        rcases List.mem_cons.1 member with rfl | known
        · exact Or.inr (List.mem_append_right _ (List.mem_singleton_self _))
        · exact Or.inl known
  | draw pending | claimCode _ pending | rotate _ _ pending | sweepCode _ _ pending
  | sweepRefresh _ _ pending | claimDevice _ pending | approve _ _ pending | deny _ pending
  | enter _ pending =>
      rw [after_pending pending] at member
      exact Or.inl member
  | readClient _ _ opened | readCode _ opened | readRefresh _ opened | readDevice _ opened
  | readSubject _ opened | readVerifying _ opened =>
      rw [after_pending opened.2.2] at member
      exact Or.inl member
  | save request row entered =>
      rw [after_entered entered] at member
      exact Or.inl member

/-- No request that spares the user is entitled to a token of the user. -/
theorem not_entitled (sparing : Sparing userId session world) {request : IssueRequest}
    (entitled : session.Entitles request) : request.userId ≠ some userId := by
  intro owned
  obtain ⟨_, _, grounds⟩ := entitled
  split at grounds
  · rename_i row known
    obtain ⟨_, claimed, _, _, sameUser, _⟩ := grounds
    exact (sparing.code row known).2 claimed (Option.some.inj (sameUser.symm.trans owned))
  · rename_i row known
    obtain ⟨_, _, _, live, sameUser, _⟩ := grounds
    have revoked := sparing.presented row (Or.inl known) (sameUser.symm.trans owned)
    rw [live] at revoked
    cases revoked
  · rename_i row known
    obtain ⟨_, claimed, _, _, sameUser, _⟩ := grounds
    exact (sparing.device row known).2 claimed (sameUser.symm.trans owned)
  · rename_i row known
    obtain ⟨_, _, live, sameUser, _⟩ := grounds
    have revoked := sparing.presented row (Or.inr known) (sameUser.symm.trans owned)
    rw [live] at revoked
    cases revoked
  · exact grounds.elim
  · obtain ⟨_, _, _, _, ⟨_, none⟩ | ⟨_, user, known, enabled, sameUser⟩⟩ := grounds
    · rw [none] at owned
      cases owned
    · have disabled := sparing.accounts user known
        (Option.some.inj (sameUser.symm.trans owned))
      rw [enabled] at disabled
      cases disabled

theorem presented_spared (move : Move session op) (sparing : Sparing userId session world)
    (row : Token)
    (known : (after session op (env.interp op world).1).grounds = some (.refresh row) ∨
      (after session op (env.interp op world).1).grounds = some (.subject row))
    (owned : row.userId = some userId) : row.revoked = true := by
  rcases known with refresh | subject
  · rcases grounds_after move refresh with kept | ⟨_, _, reads⟩
    · exact sparing.presented row (Or.inl kept) owned
    · generalize given : (env.interp op world).1 = answer at reads
      cases reads with
      | refresh looked row => exact sparing.cutOff row (Table.mem_of_first given).1 owned
  · rcases grounds_after move subject with kept | ⟨_, _, reads⟩
    · exact sparing.presented row (Or.inr kept) owned
    · generalize given : (env.interp op world).1 = answer at reads
      cases reads with
      | subject looked row => exact sparing.cutOff row (Table.mem_of_first given).1 owned

theorem sparing_move (move : Move session op) (condition : ClaimsNone userId world op)
    (holds : Enabled userId world.store ∨ Sparing userId session world) :
    Enabled userId (env.interp op world).2.store ∨
      Sparing userId (after session op (env.interp op world).1) (env.interp op world).2 := by
  rcases holds with enabled | sparing
  · exact Or.inl (enabled_moved move enabled)
  · by_cases enabled : Enabled userId (env.interp op world).2.store
    · exact Or.inl enabled
    · right
      constructor
      · intro row member owned
        rcases (tokens_moved env world op).origin Evolves.refl member with
          ⟨before, old, evolves⟩ | inserted
        · exact cut_off_of_evolves evolves (sparing.cutOff before old) owned
        · subst inserted
          cases move with
          | aside settled => cases settled
          | save request row entered records =>
              have entitled := sparing.consistent
              simp only [Consistent, entered] at entitled
              exact absurd (records.userId.symm.trans owned) (not_entitled sparing entitled)
      · exact presented_spared move sparing
      · exact code_spared move condition sparing.code
      · exact device_spared move condition sparing.device
      · intro user member sameId
        rcases accounts_after move member with known | stored
        · exact sparing.accounts user known sameId
        · by_contra on
          exact enabled ⟨user, stored, sameId, by simpa using on⟩
      · exact consistent_after move sparing.consistent

end Step

/-! ### Runs -/

/-- The request leaves the user disabled, and redeems no code and no device
authorization of the user. -/
structure Spares (env : Env) (userId : String) (world : World) (request : ServerRequest) : Prop where
  disabled : ¬Enabled userId (serve env world request).store
  claimsNone : (request.program env).Along env.interp (ClaimsNone userId) world

theorem cut_off_token (request : Request) (spares : Spares env userId world (.token request))
    (cutOff : CutOff userId world.store) :
    CutOff userId (serve env world (.token request)).store := by
  have state : serve env world (.token request) =
      ((TokenEndpoint.token env request).run env.interp world).2 := state_discard _
  have along : (TokenEndpoint.token env request).Along env.interp (ClaimsNone userId) world :=
    (along_map env.interp (ClaimsNone userId) _ _ world).1 spares.claimsNone
  have base : Sparing userId { origin := .token request } world := by
    refine ⟨cutOff, ?_, ?_, ?_, ?_, trivial⟩
    · rintro row (known | known) <;> cases known
    · intro row known
      cases known
    · intro row known
      cases known
    · intro user known
      cases known
  obtain ⟨session, _, enabled | sparing⟩ := token_run_invariant env world request
    (fun session world => Enabled userId world.store ∨ Sparing userId session world)
    (ClaimsNone userId) (fun session world op => sparing_move) along (Or.inr base)
  · rw [← state] at enabled
    exact absurd enabled spares.disabled
  · rw [state]
    exact sparing.cutOff

theorem cut_off_serve (request : ServerRequest) (spares : Spares env userId world request)
    (cutOff : CutOff userId world.store) : CutOff userId (serve env world request).store := by
  by_cases asks : ∃ asked, request = .token asked
  · obtain ⟨asked, rfl⟩ := asks
    exact cut_off_token asked spares cutOff
  · have other : ∀ asked, request ≠ .token asked := fun asked same => asks ⟨asked, same⟩
    exact serve_tokenless other (fun world => CutOff userId world.store) cut_off_tokenless cutOff

theorem cut_off_by_disabling (env : Env) (world : World) (userId : String) :
    CutOff userId (serve env world (.setUserEnabled userId (some false))).store := by
  have state : serve env world (.setUserEnabled userId (some false)) =
      ((setUserEnabled env userId (some false)).run env.interp world).2 := state_discard _
  have swept : ∃ store, (serve env world (.setUserEnabled userId (some false))).store =
      (Command.exec env.backend store (.revokeTokensByUserId userId)).2 := by
    rw [state]
    unfold setUserEnabled touchTime
    dsimp only
    split
    · exact ⟨_, rfl⟩
    · exact ⟨_, rfl⟩
  obtain ⟨store, swept⟩ := swept
  rw [swept]
  intro row member owned
  have covers : ∀ other : Token, (other.userId == some userId) = true → other.revoked = false →
      (other.userId == some userId && !other.revoked) = true := by
    intro other hit live
    rw [hit, live]
    rfl
  exact revoked_of_matching (fun other => other.userId == some userId) covers member
    (by simp [owned])

/-- From the moment a user is disabled, in every run of the server in which the
user is not enabled again and none of the user's codes and device
authorizations is redeemed, every token of the user is revoked. -/
theorem disabled_user_cut_off (env : Env) (world : World) (userId : String)
    (requests : List ServerRequest)
    (spared : Throughout env (Spares env userId)
      (serve env world (.setUserEnabled userId (some false))) requests) :
    CutOff userId
      (serveAll env world (.setUserEnabled userId (some false) :: requests)).store := by
  have served : serveAll env world (.setUserEnabled userId (some false) :: requests) =
      serveAll env (serve env world (.setUserEnabled userId (some false))) requests := rfl
  rw [served]
  exact serve_all_invariant (fun world => CutOff userId world.store) (Spares env userId)
    (fun world request => cut_off_serve request) (cut_off_by_disabling env world userId) requests
    spared

/-! ### The pending code of a disabled user -/

def sampleUser : User where
  id := "alice"
  username := "alice"
  passwordHash := ""
  email := "alice@example.org"
  createdAt := 0
  updatedAt := 0

/-- Alice has a live token, and a code that is still to be redeemed. -/
def sampleAccount : World where
  store := { sampleStore with
    users := [sampleUser]
    tokens := sampleTokenWorld.store.tokens
    codes := sampleCodeWorld.store.codes }
  process := sampleProcess

instance (userId : String) (store : Store) : Decidable (Enabled userId store) :=
  inferInstanceAs (Decidable (∃ user ∈ store.users, _))

instance (userId : String) (store : Store) : Decidable (CutOff userId store) :=
  inferInstanceAs (Decidable (∀ row ∈ store.tokens.rows, _))

/-- `ClaimsNone`, as it is evaluated. -/
def claimsNone (userId : String) (world : World) : Op → Bool
  | .command (.markAuthorizationCodeUsed code) => world.store.codes.rows.all fun row =>
      row.code != code || row.userId != userId || row.used
  | .command (.markDeviceAuthorizationUsed deviceCode) => world.store.devices.rows.all fun row =>
      row.deviceCode != deviceCode || row.userId != some userId || row.used
  | _ => true

theorem claims_none_of_eval {op : Op} (evaluated : claimsNone userId world op = true) :
    ClaimsNone userId world op := by
  unfold ClaimsNone
  split
  · intro row member sameCode owned
    have here := List.all_eq_true.1 evaluated row member
    simpa [sameCode, owned] using here
  · intro row member sameCode owned
    have here := List.all_eq_true.1 evaluated row member
    simpa [sameCode, owned] using here
  · trivial

/-- What is served after the disabling, computed: a refresh, and the redemption of
the code that was pending. -/
theorem sample_disabled_computed :
    (¬Enabled "alice" (serve sampleEnv
        (serve sampleEnv sampleAccount (.setUserEnabled "alice" (some false)))
        (.token sampleRefresh)).store ∧
      ((ServerRequest.token sampleRefresh).program sampleEnv).Along sampleEnv.interp
        (fun world op => claimsNone "alice" world op = true)
        (serve sampleEnv sampleAccount (.setUserEnabled "alice" (some false)))) ∧
    (serveAll sampleEnv sampleAccount
        [.setUserEnabled "alice" (some false), .token sampleRedemption]).store.users.map
          User.enabled = [false] ∧
      ¬CutOff "alice" (serveAll sampleEnv sampleAccount
        [.setUserEnabled "alice" (some false), .token sampleRedemption]).store := by
  decide +kernel

/-- A refresh after the disabling is refused, and nothing of Alice's is live. -/
theorem disabled_user_cut_off_on_refresh :
    CutOff "alice" (serveAll sampleEnv sampleAccount
      [.setUserEnabled "alice" (some false), .token sampleRefresh]).store := by
  obtain ⟨disabled, evaluated⟩ := sample_disabled_computed.1
  exact disabled_user_cut_off sampleEnv sampleAccount "alice" [.token sampleRefresh]
    ⟨⟨disabled, evaluated.mono fun _ _ => claims_none_of_eval⟩, trivial⟩

/-- The code that was pending when Alice was disabled is redeemed: she is still
disabled, and has a live token. -/
theorem disabled_user_redeems_code :
    (serveAll sampleEnv sampleAccount
        [.setUserEnabled "alice" (some false), .token sampleRedemption]).store.users.map
          User.enabled = [false] ∧
      ¬CutOff "alice" (serveAll sampleEnv sampleAccount
        [.setUserEnabled "alice" (some false), .token sampleRedemption]).store :=
  sample_disabled_computed.2

end OAuth2Server.UserLifecycle
