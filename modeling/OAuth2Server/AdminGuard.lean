import OAuth2Server.FrontChannel
import OAuth2Server.SenderConstraint

/-!
# Who gets past the admin guard

`routes/admin/guard.py`. A bearer token is admitted for what its row says; what
the token itself is bound to plays no part.
-/

namespace OAuth2Server.AdminGuard

open OAuth2Server Models JsonText Storage Effects Interaction Interaction.Program Tables
open Dpop TokenEndpoint Endpoints FrontChannel Resources SenderConstraint ReferenceJwt Runs

set_option autoImplicit false

structure AdminActor where
  actorId : String
  actorEmail : String
  deriving DecidableEq

structure AdminRequest extends Request where
  method : String
  path : String
  session : Session := {}

def clientIdInAllowlist (clientId : String) (allowlist : List String) : Bool :=
  let trimmed := Text.strip clientId
  if trimmed == "" then false
  else ((allowlist.map Text.strip).filter (· != "")).contains trimmed

/-! ### The refusals -/

def invalidTokenError : Response :=
  json 401 [("error", .str "invalid_token"),
    ("error_description", .str "Bearer token is invalid or expired")]

def insufficientScopeError : Response :=
  json 403 [("error", .str "insufficient_scope"),
    ("error_description", .str "Token requires 'admin' scope")]

def loginRequiredError : Response := redirect 302 "/auth/login?error=login_required"

def insufficientPermissionsError : Response :=
  json 403 [("error", .str "insufficient_permissions"),
    ("error_description", .str "Admin access required")]

/-! ### The guard -/

/-- `_authenticate_bearer`. -/
def authenticateBearer (env : Env) (tokenValue : String) : Handler AdminActor := do
  match ← query (.getTokenByAccessToken tokenValue) with
  | none => throw invalidTokenError
  | some token =>
      if token.revoked then throw invalidTokenError
      else do
        let now ← ambient .now
        if token.expiresAt ≤ now then throw invalidTokenError
        else
          let hasAdminScope := (Text.split token.scope).contains "admin"
          let allowlisted := clientIdInAllowlist token.clientId env.config.adminClientIds
          if !hasAdminScope || !allowlisted then throw insufficientScopeError
          else pure { actorId := "", actorEmail := "" }

/-- `_authenticate_session`. -/
def authenticateSession (env : Env) (session : Session) : Handler AdminActor :=
  match session.userId.filter (· != "") with
  | none => throw loginRequiredError
  | some userId =>
      let role := session.role.getD ""
      let email := session.email.getD ""
      if role == "admin" || env.config.adminEmails.contains (env.platform.lower email) then
        pure { actorId := userId, actorEmail := email }
      else throw insufficientPermissionsError

/-- The token of a request that takes the Bearer path. -/
def bearerToken (env : Env) (request : Request) : Option String :=
  let header := request.authorization.getD ""
  if env.platform.lower (String.ofList (header.toList.take 7)) == "bearer " then
    some (Text.strip (Text.drop header 7))
  else none

/-- `require_admin`. -/
def requireAdmin (env : Env) (request : AdminRequest) : Handler AdminActor :=
  match bearerToken env request.toRequest with
  | some tokenValue => authenticateBearer env tokenValue
  | none => authenticateSession env request.session

/-! ### What the Bearer path looks at -/

section Bearer

variable {env : Env} {world : World}

/-- A live token with the scope and a client of the allowlist. -/
structure Admissible (env : Env) (world : World) (row : Token) : Prop where
  unrevoked : row.revoked = false
  unexpired : env.platform.clock world.process.readings < row.expiresAt
  scope : "admin" ∈ Text.split row.scope
  allowlisted : clientIdInAllowlist row.clientId env.config.adminClientIds = true

theorem authenticate_bearer_iff (value : String) (actor : AdminActor) :
    (∃ later, (authenticateBearer env value).run env.interp world = (.ok actor, later)) ↔
      actor = { actorId := "", actorEmail := "" } ∧
      ∃ row, (Query.getTokenByAccessToken value).eval env.backend world.store = some row ∧
        Admissible env world row := by
  have clocked : ∀ rest : Instant → Handler AdminActor,
      ((ambient .now : Handler Instant) >>= rest).run env.interp world =
        (rest (env.platform.clock world.process.readings)).run env.interp
          { world with process :=
              { world.process with readings := world.process.readings + 1 } } := fun _ => rfl
  unfold authenticateBearer
  rw [run_query_bind]
  cases (Query.getTokenByAccessToken value).eval env.backend world.store with
  | none =>
      constructor
      · rintro ⟨later, admitted⟩
        cases admitted
      · rintro ⟨_, row, found, _⟩
        cases found
  | some token =>
      dsimp only
      constructor
      · rintro ⟨later, admitted⟩
        split at admitted
        · cases admitted
        · rename_i unrevoked
          rw [clocked] at admitted
          split at admitted
          · cases admitted
          · rename_i early
            split at admitted
            · cases admitted
            · rename_i accepted
              cases admitted
              simp only [Bool.or_eq_true, Bool.not_eq_true', not_or, Bool.not_eq_false,
                List.contains_iff_mem] at accepted
              refine ⟨rfl, token, rfl, ?_⟩
              exact ⟨by simpa using unrevoked, not_le.1 early, accepted.1, accepted.2⟩
      · rintro ⟨same, row, found, admissible⟩
        cases found
        have accepted : ¬(!(Text.split token.scope).contains "admin" ||
            !clientIdInAllowlist token.clientId env.config.adminClientIds) = true := by
          rw [List.contains_iff_mem.2 admissible.scope, admissible.allowlisted]
          decide
        rw [if_neg (by simp [admissible.unrevoked]), clocked,
          if_neg (not_le.2 admissible.unexpired), if_neg accepted, same]
        exact ⟨_, rfl⟩

end Bearer

/-! ### What a bound token would call for -/

/-- The address that a proof for the route names. -/
def adminUrl (env : Env) (request : AdminRequest) : String :=
  Text.rstripSlash env.config.issuer ++ request.path

/-- The request shows every key and certificate that the token is bound to. -/
def ProvesPossession (env : Env) (world : World) (request : AdminRequest) (token : String) : Prop :=
  (∀ jkt, confirmation env token "jkt" = some (.str jkt) → jkt ≠ "" →
    ProvesKey env world request.toRequest request.method (adminUrl env request) (some token) jkt) ∧
  ∀ thumbprint, confirmation env token "x5t#S256" = some (.str thumbprint) → thumbprint ≠ "" →
    ShowsCertificate env request.toRequest thumbprint

/-- Who is admitted by a token has one that is admissible, and what it is bound to. -/
def HonoursBinding (env : Env) (request : AdminRequest) (world : World) : Prop :=
  ∀ token actor later, bearerToken env request.toRequest = some token →
    (requireAdmin env request).run env.interp world = (.ok actor, later) →
    (∃ row, (Query.getTokenByAccessToken token).eval env.backend world.store = some row ∧
      Admissible env world row) ∧
    ProvesPossession env world request token

/-- The Bearer path honours the binding exactly where the request happens to prove
whatever an admissible token is bound to. -/
theorem honours_binding_iff (env : Env) (request : AdminRequest) (world : World) :
    HonoursBinding env request world ↔
      ∀ token row, bearerToken env request.toRequest = some token →
        (Query.getTokenByAccessToken token).eval env.backend world.store = some row →
        Admissible env world row → ProvesPossession env world request token := by
  have guarded : ∀ token, bearerToken env request.toRequest = some token →
      requireAdmin env request = authenticateBearer env token := by
    intro token presented
    unfold requireAdmin
    rw [presented]
  constructor
  · intro honours token row presented found admissible
    obtain ⟨later, admitted⟩ := (authenticate_bearer_iff token _).2 ⟨rfl, row, found, admissible⟩
    rw [← guarded token presented] at admitted
    exact (honours token _ later presented admitted).2
  · intro proves token actor later presented admitted
    rw [guarded token presented] at admitted
    obtain ⟨_, row, found, admissible⟩ := (authenticate_bearer_iff token actor).1 ⟨later, admitted⟩
    exact ⟨⟨row, found, admissible⟩, proves token row presented found admissible⟩

/-! A bound token on its own. -/

def adminEnv : Env :=
  { holderEnv with config := { holderEnv.config with adminClientIds := ["app"] } }

def adminWorld : World where
  store := { holderWorld.store with
    tokens := ⟨[{ sampleToken with accessToken := boundToken, scope := "admin" }], by simp⟩ }
  process := sampleProcess

/-- The token of someone else, and nothing that proves a key. -/
def stolenToken : AdminRequest where
  form := []
  authorization := some ("Bearer " ++ boundToken)
  method := "GET"
  path := "/admin/api/clients"

theorem stolen_token_presented : bearerToken adminEnv stolenToken.toRequest = some boundToken := by
  decide +kernel

theorem stolen_token_admissible : ∃ row,
    (Query.getTokenByAccessToken boundToken).eval adminEnv.backend adminWorld.store = some row ∧
      Admissible adminEnv adminWorld row := by
  refine ⟨{ sampleToken with accessToken := boundToken, scope := "admin" },
    Table.first_of_mem adminWorld.store.tokens (by simp) (List.mem_singleton.2 rfl), ?_⟩
  constructor
  · rfl
  · decide +kernel
  · decide +kernel
  · decide +kernel

theorem stolen_token_unproved : ¬ProvesPossession adminEnv adminWorld stolenToken boundToken := by
  rintro ⟨keys, _⟩
  have bound := confirmation_sign adminEnv rfl [("alg", .str "HS256")]
    [("jkt", .str "h"), ("x5t#S256", .str "t")] .null "jkt"
  obtain ⟨proof, _, _, _, carried, _⟩ := keys "h" bound (by decide)
  cases carried

/-- The guard admits who has a bound token and nothing else; userinfo does not. -/
theorem admits_without_proof :
    (¬HonoursBinding adminEnv stolenToken adminWorld) ∧
    (respond adminEnv.interp (userinfo adminEnv { stolenToken.toRequest with method := .get })
      adminWorld).1.status = 401 := by
  constructor
  · intro honours
    obtain ⟨row, found, admissible⟩ := stolen_token_admissible
    exact stolen_token_unproved ((honours_binding_iff _ _ _).1 honours boundToken row
      stolen_token_presented found admissible)
  · decide +kernel

end OAuth2Server.AdminGuard
