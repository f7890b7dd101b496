import OAuth2Server.SeedAcceptance
import OAuth2Server.NamedInserts
import OAuth2Server.Backends
import OAuth2Server.ClientIntake
import OAuth2Server.Authorize
import OAuth2Server.CurrentSigners
import OAuth2Server.Words
import OAuth2Server.Runs

/-!
# Applying the seed

`apply_seed`: the clients and users of a validated seed become rows of the
store, its signing keys the current keys. Nothing that is stored already is
changed, a name that is taken ends the start, and what was seeded is served the
way the seed says.
-/

namespace OAuth2Server.SeedApplication

open OAuth2Server Models JsonText JsonRoundTrip Storage Effects Interaction Interaction.Program
open ClientAuth KeySet CurrentSigners Seeds SeedAcceptance NamedInserts

set_option autoImplicit false

def defaultClientScope : String := "openid read"

def defaultGrantTypes : List String := ["authorization_code"]

abbrev Startup := Program Server Failure

/-- A row that the store refuses is no `ConformanceError`. -/
def insertedOrEscaped (outcome : Except StorageError Unit) : Startup Unit :=
  match outcome with
  | .ok _ => pure ()
  | .error _ => throw .escaped

/-- `values or default`. -/
def listOrElse (values : Option (List String)) (default : List String) : List String :=
  match values with
  | none => default
  | some values => if values.isEmpty then default else values

/-- The row of a seeded client. -/
def clientRow (env : Env) (id : String) (now : Instant) (seeded : SeedClient) : Client where
  id := id
  clientId := seeded.clientId
  clientSecret := seeded.clientSecret.getD ""
  redirectUris := ClientIntake.dumpedStrs env seeded.redirectUris
  grantTypes := ClientIntake.dumpedStrs env (listOrElse seeded.grantTypes defaultGrantTypes)
  scope :=
    if (seeded.scopes.getD []).isEmpty then defaultClientScope
    else String.intercalate " " (seeded.scopes.getD [])
  name := orElse seeded.name seeded.clientId
  createdAt := now
  updatedAt := now
  tokenEndpointAuthMethod :=
    if seeded.isPublic then "none"
    else orElse seeded.tokenEndpointAuthMethod "client_secret_basic"

/-- The row of a seeded user. -/
def userRow (id passwordHash : String) (created updated : Instant) (seeded : SeedUser) : User where
  id := id
  username := seeded.username
  passwordHash := passwordHash
  email := orElse seeded.email (seeded.username ++ "@conformance.invalid")
  createdAt := created
  updatedAt := updated

section Applying

variable (env : Env) (within : Surroundings)

/-- The generated keys, their material handed in. -/
def generateKeys (material : SeedSigningKey → List Nat) :
    List SeedSigningKey → Startup (List SigningKey)
  | [] => pure []
  | spec :: rest => do
      Program.rejectIf (!supportedSeedAlgs.contains spec.alg) .escaped
      let now ← ambient .now
      let others ← generateKeys material rest
      pure (generateSigningKey spec.alg spec.kid (material spec) now :: others)

def seedClient (now : Instant) (seeded : SeedClient) : Startup Unit := do
  let existing ← query (.getClient seeded.clientId)
  Program.rejectIf existing.isSome (.conformance
    ("seeding client " ++ within.repr seeded.clientId ++ " failed: already exists"))
  let id ← ambient .uuid4Hex
  let saved ← command (.saveClient (clientRow env id now seeded))
  insertedOrEscaped saved

def seedUser (seeded : SeedUser) : Startup Unit := do
  let existing ← query (.getUserByUsername seeded.username)
  Program.rejectIf existing.isSome (.conformance
    ("seeding user " ++ within.repr seeded.username ++ " failed: already exists"))
  let id ← ambient .uuid4Hex
  let passwordHash ← ambient (.hashPassword seeded.password)
  let created ← ambient .now
  let updated ← ambient .now
  let saved ← command (.saveUser (userRow id passwordHash created updated seeded))
  insertedOrEscaped saved

/-- `apply_seed` up to the rotations. -/
def storeSeed (material : SeedSigningKey → List Nat) (seed : Seed) :
    Startup (List SigningKey) := do
  let now ← ambient .now
  let signingKeys ← generateKeys material seed.signingKeys
  forEach (seedClient env within now) seed.clients
  forEach (seedUser within) seed.users
  pure signingKeys

/-- `for key in signing_keys: keyset.rotate(key, grace_secs=0)`. -/
def rotateAll (platform : Platform) : List SigningKey → Process.State → Process.State
  | [], process => process
  | key :: rest, process =>
      rotateAll platform rest
        { process with
          readings := process.readings + 1
          keys := rotate key 0 (platform.clock process.readings) process.keys }

structure Applied where
  clients : Nat
  users : Nat
  signingKeys : List SigningKey

/-- `Applied.readiness`. -/
def Applied.readiness (applied : Applied) : Json :=
  .obj [("seed_applied", .bool true), ("clients", .int applied.clients),
    ("users", .int applied.users),
    ("signing_key_ids", .arr (applied.signingKeys.map fun key => .str key.kid))]

/-- `apply_seed`. -/
def applySeed (material : SeedSigningKey → List Nat) (seed : Seed) (world : World) :
    Checked Applied × World :=
  match (storeSeed env within material seed).run env.interp world with
  | (.error failure, after) => (.error failure, after)
  | (.ok signingKeys, after) =>
      (.ok
        { clients := seed.clients.length
          users := seed.users.length
          signingKeys := signingKeys },
        { after with process := rotateAll env.platform signingKeys after.process })

end Applying


/-! ### Rows are only added -/

section Rows

variable {env : Env} {within : Surroundings} {world later : World} {now : Instant}

/-- The clients are stored behind those there were, and nothing else of the
store or of the keys is touched. -/
structure ClientsAdded (env : Env) (now : Instant) (rows : List Client)
    (seeded : List SeedClient) (world later : World) : Prop where
  stored : later.store.clients.rows = world.store.clients.rows ++ rows
  others : later.store = { world.store with clients := later.store.clients }
  keys : later.process.keys = world.process.keys
  each : List.Forall₂ (fun client row => ∃ id, row = clientRow env id now client) seeded rows

structure UsersAdded (env : Env) (rows : List User) (seeded : List SeedUser)
    (world later : World) : Prop where
  others : later.store = { world.store with users := world.store.users ++ rows }
  keys : later.process.keys = world.process.keys
  each : List.Forall₂ (fun user row => ∃ id draw created updated,
    row = userRow id (env.platform.hashPassword draw user.password) created updated user)
    seeded rows

theorem ClientsAdded.nothing (env : Env) (now : Instant) {world later : World}
    (store : later.store = world.store) (keys : later.process.keys = world.process.keys) :
    ClientsAdded env now [] [] world later where
  stored := by rw [store, List.append_nil]
  others := by rw [store]
  keys := keys
  each := .nil

theorem ClientsAdded.append {first second : List SeedClient} {middle : World}
    {front back : List Client} (start : ClientsAdded env now front first world middle)
    (finish : ClientsAdded env now back second middle later) :
    ClientsAdded env now (front ++ back) (first ++ second) world later where
  stored := by rw [finish.stored, start.stored, List.append_assoc]
  others := by
    have both := finish.others
    rw [start.others] at both
    exact both
  keys := finish.keys.trans start.keys
  each := List.rel_append start.each finish.each

theorem UsersAdded.nothing (env : Env) {world later : World} (store : later.store = world.store)
    (keys : later.process.keys = world.process.keys) : UsersAdded env [] [] world later where
  others := by rw [store, List.append_nil]
  keys := keys
  each := .nil

theorem UsersAdded.append {first second : List SeedUser} {middle : World}
    {front back : List User} (start : UsersAdded env front first world middle)
    (finish : UsersAdded env back second middle later) :
    UsersAdded env (front ++ back) (first ++ second) world later where
  others := by
    have both := finish.others
    rw [start.others, List.append_assoc] at both
    exact both
  keys := finish.keys.trans start.keys
  each := List.rel_append start.each finish.each

/-- No stored client has the id. -/
def FreeClient (world : World) (clientId : String) : Prop :=
  ∀ row ∈ world.store.clients.rows, row.clientId ≠ clientId

def FreeUser (world : World) (username : String) : Prop :=
  ∀ row ∈ world.store.users, row.username ≠ username

/-- The ids still to be drawn are those of no row, and differ. -/
structure FreshIds (env : Env) (world : World) : Prop where
  clients : ∀ row ∈ world.store.clients.rows, ∀ draw, world.process.draws ≤ draw →
    row.id ≠ env.platform.random draw
  users : ∀ row ∈ world.store.users, ∀ draw, world.process.draws ≤ draw →
    row.id ≠ env.platform.random draw
  apart : ∀ first second, world.process.draws ≤ first → first < second →
    env.platform.random first ≠ env.platform.random second

def clientInventory (env : Env) (now : Instant) : Inventory World SeedClient where
  name := SeedClient.clientId
  Added := fun seeded world later => ∃ rows, ClientsAdded env now rows seeded world later
  Free := FreeClient
  Fresh := FreshIds env
  nothing := fun _ => ⟨[], ClientsAdded.nothing env now rfl rfl⟩
  append := fun ⟨_, start⟩ ⟨_, finish⟩ => ⟨_, start.append finish⟩

def userInventory (env : Env) : Inventory World SeedUser where
  name := SeedUser.username
  Added := fun seeded world later => ∃ rows, UsersAdded env rows seeded world later
  Free := FreeUser
  Fresh := FreshIds env
  nothing := fun _ => ⟨[], UsersAdded.nothing env rfl rfl⟩
  append := fun ⟨_, start⟩ ⟨_, finish⟩ => ⟨_, start.append finish⟩

/-- The refusals of a taken name. -/
def Clash (failure : Failure) : Prop := ∃ message, failure = .conformance message

theorem client_found_iff {clientId : String} :
    ((Query.getClient clientId).eval env.backend world.store).isSome = false ↔
      FreeClient world clientId := by
  simp only [Query.eval, Tables.Table.first, Option.isSome_eq_false_iff, Option.isNone_iff_eq_none,
    List.find?_eq_none, beq_iff_eq, FreeClient, ne_eq]

theorem user_found_iff {username : String} :
    ((Query.getUserByUsername username).eval env.backend world.store).isSome = false ↔
      FreeUser world username := by
  simp only [Query.eval, Option.isSome_eq_false_iff, Option.isNone_iff_eq_none,
    List.find?_eq_none, beq_iff_eq, FreeUser, ne_eq]

/-- A row is refused for its id or for its name. -/
theorem save_client_cases (backend : Backend) (store : Store) (row : Client) :
    (Command.exec backend store (.saveClient row) = (.error .duplicateKey, store) ∧
      ∃ other ∈ store.clients.rows, other.id = row.id ∨ other.clientId = row.clientId) ∨
    ∃ grown : Tables.Table Client [Client.clientId],
      Command.exec backend store (.saveClient row) = (.ok (), { store with clients := grown }) ∧
        grown.rows = store.clients.rows ++ [row] := by
  have refused : ∀ clash : Tables.Table.insert store.clients row = none,
      ∃ other ∈ store.clients.rows, other.clientId = row.clientId := by
    intro clash
    unfold Tables.Table.insert at clash
    split at clash
    · cases clash
    · rename_i conflict
      simpa [Tables.Table.conflicts] using conflict
  simp only [Command.exec, inserted]
  cases taken : idTaken backend store.clients.rows Client.id row with
  | true =>
      cases backend with
      | mongo => cases taken
      | sql =>
          simp only [idTaken, List.contains_iff_mem, List.mem_map] at taken
          obtain ⟨other, member, same⟩ := taken
          exact .inl ⟨rfl, other, member, .inl same⟩
  | false =>
      rw [if_neg (by decide)]
      rcases Tables.Table.insert_cases store.clients row with clash | ⟨grown, stored, rows⟩
      · obtain ⟨other, member, same⟩ := refused clash
        rw [clash]
        exact .inl ⟨rfl, other, member, .inr same⟩
      · rw [stored]
        exact .inr ⟨grown, rfl, rows⟩

theorem save_user_cases (backend : Backend) (store : Store) (row : User) :
    (Command.exec backend store (.saveUser row) = (.error .duplicateKey, store) ∧
      ∃ other ∈ store.users, other.id = row.id ∨ other.username = row.username) ∨
    Command.exec backend store (.saveUser row) =
      (.ok (), { store with users := store.users ++ [row] }) := by
  simp only [Command.exec]
  cases taken : idTaken backend store.users User.id row with
  | true =>
      cases backend with
      | mongo => cases taken
      | sql =>
          simp only [idTaken, List.contains_iff_mem, List.mem_map] at taken
          obtain ⟨other, member, same⟩ := taken
          exact .inl ⟨rfl, other, member, .inl same⟩
  | false =>
      rw [Bool.false_or]
      cases named : store.users.any (·.username == row.username) with
      | true =>
          obtain ⟨other, member, same⟩ := List.any_eq_true.1 named
          exact .inl ⟨rfl, other, member, .inr (beq_iff_eq.1 same)⟩
      | false => exact .inr rfl

/-- What one client may come to: the name is taken, the row is refused for its
id, or it is stored. -/
theorem client_step (seeded : SeedClient) (world : World) :
    Step (clientInventory env now) Clash seeded world
      ((seedClient env within now seeded).run env.interp world).1
      ((seedClient env within now seeded).run env.interp world).2 := by
  have found := @client_found_iff env world seeded.clientId
  unfold seedClient
  rw [run_query_bind]
  cases taken : ((Query.getClient seeded.clientId).eval env.backend world.store).isSome with
  | true =>
      apply Step.taken _ ⟨_, rfl⟩
      intro free
      rw [found.2 free] at taken
      cases taken
  | false =>
      have free := found.1 taken
      rw [Program.rejectIf, if_neg (by decide), done_bind, run_ambient_bind, run_command_bind]
      simp only [Ambient.exec]
      generalize made : clientRow env (env.platform.random world.process.draws) now seeded = row
      have names : row.clientId = seeded.clientId ∧
          row.id = env.platform.random world.process.draws := by
        rw [← made]
        exact ⟨rfl, rfl⟩
      rcases save_client_cases env.backend world.store row with
        ⟨refused, other, member, clash⟩ | ⟨grown, stored, rows⟩
      · rw [refused]
        let drawn : World := { world with process :=
          { world.process with draws := world.process.draws + 1 } }
        have kept : (clientInventory env now).Added [] world drawn :=
          ⟨[], ClientsAdded.nothing env now rfl rfl⟩
        apply Step.refused _ drawn kept
        intro fresh
        rcases clash with same | same
        · exact fresh.clients other member _ (Nat.le_refl _) (same.trans names.2)
        · exact free other member (same.trans names.1)
      · rw [stored]
        let added : World := {
          store := { world.store with clients := grown }
          process := { world.process with draws := world.process.draws + 1 } }
        have listed : (clientInventory env now).Added [seeded] world added :=
          ⟨[row], rows, rfl, rfl, .cons ⟨_, made.symm⟩ .nil⟩
        apply Step.stored added listed _ free
        · intro fresh
          constructor
          · intro old member draw later
            change old ∈ grown.rows at member
            rw [rows, List.mem_append, List.mem_singleton] at member
            rcases member with member | rfl
            · exact fresh.clients old member draw (Nat.le_of_succ_le later)
            · rw [names.2]
              exact fresh.apart _ _ (Nat.le_refl _) later
          · exact fun old member draw later =>
              fresh.users old member draw (Nat.le_of_succ_le later)
          · exact fun first second later => fresh.apart first second (Nat.le_of_succ_le later)
        · intro name
          change (∀ other ∈ grown.rows, other.clientId ≠ name) ↔ _
          rw [rows, List.forall_mem_append, List.forall_mem_singleton, names.1]
          rfl

theorem user_step (seeded : SeedUser) (world : World) :
    Step (userInventory env) Clash seeded world
      ((seedUser within seeded).run env.interp world).1
      ((seedUser within seeded).run env.interp world).2 := by
  have found := @user_found_iff env world seeded.username
  unfold seedUser
  rw [run_query_bind]
  cases taken : ((Query.getUserByUsername seeded.username).eval env.backend world.store).isSome with
  | true =>
      apply Step.taken _ ⟨_, rfl⟩
      intro free
      rw [found.2 free] at taken
      cases taken
  | false =>
      have free := found.1 taken
      rw [Program.rejectIf, if_neg (by decide), done_bind, run_ambient_bind, run_ambient_bind,
        run_ambient_bind, run_ambient_bind, run_command_bind]
      simp only [Ambient.exec]
      generalize made : userRow (env.platform.random world.process.draws)
        (env.platform.hashPassword (world.process.draws + 1) seeded.password) _ _ seeded = row
      have names : row.username = seeded.username ∧
          row.id = env.platform.random world.process.draws := by
        rw [← made]
        exact ⟨rfl, rfl⟩
      rcases save_user_cases env.backend world.store row with
        ⟨refused, other, member, clash⟩ | stored
      · rw [refused]
        let drawn : World := { world with process :=
          { world.process with
            draws := world.process.draws + 1 + 1
            readings := world.process.readings + 1 + 1 } }
        have kept : (userInventory env).Added [] world drawn := ⟨[], UsersAdded.nothing env rfl rfl⟩
        apply Step.refused _ drawn kept
        intro fresh
        rcases clash with same | same
        · exact fresh.users other member _ (Nat.le_refl _) (same.trans names.2)
        · exact free other member (same.trans names.1)
      · rw [stored]
        let added : World := {
          store := { world.store with users := world.store.users ++ [row] }
          process := { world.process with
            draws := world.process.draws + 1 + 1
            readings := world.process.readings + 1 + 1 } }
        have listed : (userInventory env).Added [seeded] world added :=
          ⟨[row], rfl, rfl, .cons ⟨_, _, _, _, made.symm⟩ .nil⟩
        apply Step.stored added listed _ free
        · intro fresh
          constructor
          · exact fun old member draw later =>
              fresh.clients old member draw (Nat.le_of_succ_le (Nat.le_of_succ_le later))
          · intro old member draw later
            rcases List.mem_append.1 member with member | member
            · exact fresh.users old member draw (Nat.le_of_succ_le (Nat.le_of_succ_le later))
            · rw [List.mem_singleton.1 member, names.2]
              exact fresh.apart _ _ (Nat.le_refl _) (Nat.le_of_succ_le later)
          · exact fun first second later =>
              fresh.apart first second (Nat.le_of_succ_le (Nat.le_of_succ_le later))
        · intro name
          change (∀ other ∈ world.store.users ++ [row], other.username ≠ name) ↔ _
          rw [List.forall_mem_append, List.forall_mem_singleton, names.1]
          rfl

theorem clients_ran (seeded : List SeedClient) (world : World) :
    Ran (clientInventory env now) Clash seeded world
      ((forEach (seedClient env within now) seeded).run env.interp world).1
      ((forEach (seedClient env within now) seeded).run env.interp world).2 :=
  each_ran client_step seeded world

theorem users_ran (seeded : List SeedUser) (world : World) :
    Ran (userInventory env) Clash seeded world
      ((forEach (seedUser within) seeded).run env.interp world).1
      ((forEach (seedUser within) seeded).run env.interp world).2 :=
  each_ran user_step seeded world

end Rows

/-! ### The whole application -/

section Outcome

variable {env : Env} {within : Surroundings} {material : SeedSigningKey → List Nat}

/-- A generated key of a specification. -/
def Generated (material : SeedSigningKey → List Nat) (spec : SeedSigningKey)
    (key : SigningKey) : Prop :=
  ∃ now, key = generateSigningKey spec.alg spec.kid (material spec) now

/-- Only clock readings pass while the keys are generated. -/
theorem generate_keys_run (specs : List SeedSigningKey)
    (supported : ∀ spec ∈ specs, spec.alg = "HS256" ∨ spec.alg = "RS256") (world : World) :
    ∃ keys readings, (generateKeys material specs).run env.interp world =
        (.ok keys, { world with process := { world.process with readings := readings } }) ∧
      List.Forall₂ (Generated material) specs keys := by
  induction specs generalizing world with
  | nil => exact ⟨[], world.process.readings, rfl, .nil⟩
  | cons spec rest induction =>
      rw [List.forall_mem_cons] at supported
      obtain ⟨keys, readings, ran, each⟩ := induction supported.2
        { world with process := { world.process with readings := world.process.readings + 1 } }
      exists generateSigningKey spec.alg spec.kid (material spec)
        (env.platform.clock world.process.readings) :: keys, readings
      constructor
      · rw [generateKeys, supported_iff.2 supported.1, Program.rejectIf, if_neg (by decide),
          done_bind, run_ambient_bind, run_bind]
        simp only [Ambient.exec, ran]
        rfl
      · exact .cons ⟨_, rfl⟩ each

theorem FreshIds.read {world : World} (fresh : FreshIds env world) (readings : Nat) :
    FreshIds env { world with process := { world.process with readings := readings } } where
  clients := fresh.clients
  users := fresh.users
  apart := fresh.apart

/-- These clients and users were stored, one row each, behind what was there;
the rest of the store and the keys are untouched. -/
structure Stored (env : Env) (clients : List SeedClient) (users : List SeedUser)
    (world later : World) : Prop where
  clients : ∃ now rows, later.store.clients.rows = world.store.clients.rows ++ rows ∧
    List.Forall₂ (fun client row => ∃ id, row = clientRow env id now client) clients rows
  users : ∃ rows, later.store.users = world.store.users ++ rows ∧
    List.Forall₂ (fun user row => ∃ id draw created updated,
      row = userRow id (env.platform.hashPassword draw user.password) created updated user)
      users rows
  others : later.store = { world.store with
    clients := later.store.clients
    users := later.store.users }
  keys : later.process.keys = world.process.keys

/-- Every name of the seed is free. -/
def Free (seed : Seed) (world : World) : Prop :=
  (∀ client ∈ seed.clients, FreeClient world client.clientId) ∧
    ∀ user ∈ seed.users, FreeUser world user.username

theorem Stored.both {clients : List SeedClient} {users : List SeedUser}
    {world middle later : World} {now : Instant} {clientRows : List Client} {userRows : List User}
    (first : ClientsAdded env now clientRows clients world middle)
    (second : UsersAdded env userRows users middle later) : Stored env clients users world later where
  clients := by
    refine ⟨now, clientRows, ?_, first.each⟩
    rw [second.others]
    exact first.stored
  users := by
    refine ⟨userRows, ?_, second.each⟩
    rw [second.others, first.others]
  others := by
    rw [second.others]
    have same := first.others
    rw [same]
  keys := second.keys.trans first.keys

theorem store_seed_run {seed : Seed} (accepted : Accepted seed) (world : World) :
    ∃ outcome later clients users,
      (storeSeed env within material seed).run env.interp world = (outcome, later) ∧
      clients <+: seed.clients ∧ users <+: seed.users ∧ Stored env clients users world later ∧
      (∀ keys, outcome = .ok keys → clients = seed.clients ∧ users = seed.users ∧
        List.Forall₂ (Generated material) seed.signingKeys keys ∧ Free seed world) ∧
      (FreshIds env world → (Free seed world → ∃ keys, outcome = .ok keys) ∧
        ((∃ keys, outcome = .ok keys) ∨ ∃ message, outcome = .error (.conformance message))) := by
  obtain ⟨keys, readings, generated, each⟩ := @generate_keys_run env material seed.signingKeys
    (fun spec member => (accepted.keys spec member).alg)
    { world with process := { world.process with readings := world.process.readings + 1 } }
  let now := env.platform.clock world.process.readings
  let ready : World := { world with process := { world.process with readings := readings } }
  have begun : (storeSeed env within material seed).run env.interp world = (do
      forEach (seedClient env within now) seed.clients
      forEach (seedUser within) seed.users
      pure keys : Startup (List SigningKey)).run env.interp ready := by
    unfold storeSeed
    rw [run_ambient_bind, run_bind]
    simp only [Ambient.exec, generated]
    rfl
  have clients := @clients_ran env within now seed.clients ready
  rw [begun, run_bind]
  generalize (forEach (seedClient env within now) seed.clients).run env.interp ready = clientsRan
    at clients ⊢
  obtain ⟨clientsOutcome, middle⟩ := clientsRan
  obtain ⟨stored, front, ⟨clientRows, listed⟩, all⟩ := clients.added
  have added : ClientsAdded env now clientRows stored world middle :=
    ⟨listed.stored, listed.others, listed.keys, listed.each⟩
  have unread : FreshIds env world → FreshIds env ready := fun fresh => fresh.read readings
  cases clientsOutcome with
  | error error =>
      refine ⟨_, middle, stored, [], rfl, front, List.nil_prefix,
        Stored.both added (UsersAdded.nothing env rfl rfl),
        fun _ passed => absurd passed (by rintro ⟨⟩), ?_⟩
      intro fresh
      constructor
      · intro free
        have passed := clients.succeeds (unread fresh) free.1 accepted.clientIds
        cases passed
      · rcases clients.clashes (unread fresh) with passed | ⟨clash, same, message, rfl⟩
        · cases passed
        · cases same
          exact .inr ⟨message, rfl⟩
  | ok value =>
      have users := @users_ran env within seed.users middle
      dsimp only
      rw [run_bind]
      generalize (forEach (seedUser within) seed.users).run env.interp middle = usersRan
        at users ⊢
      obtain ⟨usersOutcome, later⟩ := usersRan
      obtain ⟨storedUsers, usersFront, ⟨userRows, usersListed⟩, allUsers⟩ := users.added
      have same : middle.store.users = world.store.users := by rw [added.others]
      have freeUser : ∀ username, FreeUser middle username ↔ FreeUser world username := by
        intro username
        unfold FreeUser
        rw [same]
      cases usersOutcome with
      | error error =>
          refine ⟨_, later, stored, storedUsers, rfl, front, usersFront, Stored.both added usersListed,
            fun _ passed => absurd passed (by rintro ⟨⟩), ?_⟩
          intro fresh
          have grown := clients.fresh rfl (unread fresh)
          constructor
          · intro free
            have names : ∀ user ∈ seed.users, FreeUser middle user.username :=
              fun user member => (freeUser _).2 (free.2 user member)
            have passed := users.succeeds grown names accepted.usernames
            cases passed
          · rcases users.clashes grown with passed | ⟨clash, same, message, rfl⟩
            · cases passed
            · cases same
              exact .inr ⟨message, rfl⟩
      | ok value =>
          refine ⟨_, later, stored, storedUsers, rfl, front, usersFront, Stored.both added usersListed,
            ?_, fun _ => ⟨fun _ => ⟨keys, rfl⟩, .inl ⟨keys, rfl⟩⟩⟩
          intro found passed
          cases passed
          have names : ∀ user ∈ seed.users, FreeUser world user.username :=
            fun user member => (freeUser _).1 (users.free rfl user member)
          exact ⟨all rfl, allUsers rfl, each, clients.free rfl, names⟩

end Outcome

/-! ### The seeded keys sign -/

section Signers

variable {env : Env} {now : Instant}

/-- The keys of an algorithm that are active. -/
def activeFor (alg : String) (now : Instant) (keys : List SigningKey) : List SigningKey :=
  keys.filter fun key => key.algorithm == alg && activeAt now key

/-- Keys that are no longer current have expired. -/
def Settled (now : Instant) (keys : List SigningKey) : Prop :=
  ∀ key ∈ keys, key.isCurrent = false → activeAt now key = false

/-- The last seeded key of an algorithm, or the keys it had. -/
def signersFor (alg : String) (initial seeded : List SigningKey) : List SigningKey :=
  match (seeded.filter fun key => key.algorithm == alg).getLast? with
  | some key => [key]
  | none => initial

theorem active_for_current {alg : String} {keys : List SigningKey} (settled : Settled now keys)
    (lasting : Lasting keys) : activeFor alg now keys = currentKeys alg keys := by
  unfold activeFor currentKeys
  apply List.filter_congr
  intro key member
  cases current : key.isCurrent with
  | true => rw [active_of_lasting (lasting key member current)]
  | false => rw [settled key member current]

theorem settled_rotate {newKey : SigningKey} {keys : List SigningKey} {time : Instant}
    (settled : Settled now keys) (current : newKey.isCurrent = true) (past : time ≤ now) :
    Settled now (rotate newKey 0 time keys) := by
  intro key member retired
  rw [rotate_eq_retire] at member
  rcases List.mem_append.1 member with changed | added
  · obtain ⟨old, held, rfl⟩ := List.mem_map.1 changed
    rcases retire_cases newKey 0 time old with ⟨-, replaced⟩ | ⟨-, same⟩
    · rw [replaced]
      have none : seconds 0 = 0 := rfl
      have ended : ¬now < time + seconds 0 := by
        rw [none, Int.add_zero]
        exact Int.not_lt.2 past
      exact decide_eq_false ended
    · rw [same] at retired ⊢
      exact settled old held retired
  · rw [List.mem_singleton.1 added, current] at retired
    cases retired

theorem signers_for_cons (alg : String) (initial : List SigningKey) (key : SigningKey)
    (rest : List SigningKey) : signersFor alg initial (key :: rest) =
      signersFor alg (if key.algorithm = alg then [key] else initial) rest := by
  unfold signersFor
  rw [List.filter_cons]
  by_cases same : key.algorithm = alg
  · rw [if_pos (by simpa using same), if_pos same, List.getLast?_cons]
    cases (rest.filter fun key => key.algorithm == alg).getLast? <;> rfl
  · rw [if_neg (by simpa using same), if_neg same]

theorem rotate_all_readings (seeded : List SigningKey) (process : Process.State) :
    (rotateAll env.platform seeded process).readings = process.readings + seeded.length := by
  induction seeded generalizing process with
  | nil => rfl
  | cons key rest induction =>
      rw [rotateAll, induction, List.length_cons]
      dsimp only
      omega

/-- Once the seeded keys are rotated in, the last one of its algorithm is the
only active key of it, from the last rotation on. -/
theorem rotate_all_active (seeded : List SigningKey) (fresh : ∀ key ∈ seeded,
      key.isCurrent = true ∧ key.expiresAt = none) (process : Process.State)
    (settled : Settled now process.keys) (lasting : Lasting process.keys)
    (past : ∀ reading, reading < (rotateAll env.platform seeded process).readings →
      env.platform.clock reading ≤ now) (alg : String) :
    activeFor alg now (rotateAll env.platform seeded process).keys =
      signersFor alg (currentKeys alg process.keys) seeded := by
  induction seeded generalizing process with
  | nil => exact active_for_current settled lasting
  | cons key rest induction =>
      rw [List.forall_mem_cons] at fresh
      have first : env.platform.clock process.readings ≤ now := by
        apply past
        rw [rotate_all_readings, List.length_cons]
        omega
      rw [rotateAll, signers_for_cons,
        induction fresh.2 _ (settled_rotate settled fresh.1.1 first)
          (lasting_rotate lasting fresh.1.2) past, current_rotate fresh.1.1]

end Signers

/-! ### What was seeded is served -/

/-- `json.dumps` with its default separators. -/
theorem plain_dumped (env : Env) : Plain { floatRepr := env.platform.floatRepr } where
  items := by
    have comma : ", ".toList = [',', ' '] := by decide
    exact ⟨[' '], comma, by decide⟩
  keys := by
    have colon : ": ".toList = [':', ' '] := by decide
    exact ⟨[' '], colon, by decide⟩
  unsorted := rfl

/-- A column of strings is read back. -/
theorem loads_dumped_strs {env : Env} (deep : 0 < env.platform.recursionLimit)
    (values : List String) : loads env.platform.recursionLimit (ClientIntake.dumpedStrs env values) =
      .ok (texts values) := by
  obtain ⟨depth, deep⟩ := Nat.exists_eq_add_of_le' (Nat.succ_le_of_lt deep)
  rw [deep]
  exact loads_dumps (plain_dumped env) (texts_legible values)

theorem dumped_strs_written (env : Env) (values : List String) :
    (ClientIntake.dumpedStrs env values == "") = false := by
  have whole := written_array { floatRepr := env.platform.floatRepr } (values.map .str)
  rw [beq_eq_false_iff_ne]
  intro empty
  have letters := congrArg String.toList empty
  change written _ _ = _ at letters
  rw [whole] at letters
  cases letters

/-- The row of a seeded client means what the seed says. -/
structure Serves (env : Env) (seeded : SeedClient) (row : Client) : Prop where
  clientId : row.clientId = seeded.clientId
  secret : row.clientSecret = seeded.clientSecret.getD ""
  publicity : row.isPublic = seeded.isPublic
  redirects : Authorize.redirectUriList env row = some (seeded.redirectUris.map .str)
  grants : ∀ grant, grantAllowed env row grant =
    some (decide (grant ∈ listOrElse seeded.grantTypes defaultGrantTypes))
  scopes : Text.split row.scope = listOrElse seeded.scopes ["openid", "read"]
  enabled : row.enabled = true

theorem row_serves {env : Env} (deep : 0 < env.platform.recursionLimit) {seeded : SeedClient}
    (accepted : AcceptedClient seeded) (id : String) (now : Instant) :
    Serves env seeded (clientRow env id now seeded) where
  clientId := rfl
  secret := rfl
  publicity := by
    unfold Client.isPublic clientRow
    cases publicly : seeded.isPublic with
    | true => rfl
    | false =>
        have other : seeded.tokenEndpointAuthMethod ≠ some "none" := by
          intro none
          simp [SeedClient.isPublic, none] at publicly
        rw [if_neg Bool.false_ne_true, beq_eq_false_iff_ne]
        intro same
        cases method : seeded.tokenEndpointAuthMethod with
        | none =>
            rw [method] at same
            simp [orElse] at same
        | some value =>
            rw [method] at same other
            by_cases empty : value = ""
            · simp [orElse, Option.filter_some, empty] at same
            · rw [or_else_named empty] at same
              exact other (congrArg some same)
  redirects := by
    unfold Authorize.redirectUriList clientRow
    simp only [dumped_strs_written, Bool.false_eq_true, if_false, loads_dumped_strs deep, texts]
  grants := by
    intro grant
    unfold grantAllowed grantTypeList clientRow
    simp only [dumped_strs_written, Bool.false_eq_true, if_false, loads_dumped_strs deep, texts,
      Except.toOption, Option.bind_some, Json.containsText]
    congr 1
    rw [Bool.eq_iff_iff]
    simp [Json.str?]
  scopes := by
    have split : Text.split defaultClientScope = ["openid", "read"] := by decide
    have words : ∀ word ∈ seeded.scopes.getD [], Words.IsWord word := by
      intro word member
      obtain ⟨written, visible⟩ := accepted.scopes word member
      exact ⟨fun empty => written (String.toList_eq_nil_iff.1 empty), visible⟩
    unfold clientRow listOrElse
    dsimp only
    cases scopes : seeded.scopes with
    | none => exact split
    | some values =>
        rw [scopes] at words
        simp only [Option.getD_some] at words ⊢
        cases empty : values.isEmpty with
        | true => exact split
        | false => exact Words.split_join values words
  enabled := rfl

theorem related_right {α β : Type} {related : α → β → Prop} {items : List α} {rows : List β}
    (each : List.Forall₂ related items rows) {item : α} (member : item ∈ items) :
    ∃ row ∈ rows, related item row := by
  induction each with
  | nil => cases member
  | cons first rest induction =>
      rcases List.mem_cons.1 member with rfl | later
      · exact ⟨_, List.mem_cons_self, first⟩
      · obtain ⟨row, listed, holds⟩ := induction later
        exact ⟨row, List.mem_cons_of_mem _ listed, holds⟩

theorem related_left {α β : Type} {related : α → β → Prop} {items : List α} {rows : List β}
    (each : List.Forall₂ related items rows) {row : β} (member : row ∈ rows) :
    ∃ item ∈ items, related item row := by
  induction each with
  | nil => cases member
  | cons first rest induction =>
      rcases List.mem_cons.1 member with rfl | later
      · exact ⟨_, List.mem_cons_self, first⟩
      · obtain ⟨item, listed, holds⟩ := induction later
        exact ⟨item, List.mem_cons_of_mem _ listed, holds⟩

section Application

variable {env : Env} {within : Surroundings} {material : SeedSigningKey → List Nat} {seed : Seed}
  {world later : World}

theorem served_client {clients : List SeedClient} {users : List SeedUser}
    (stored : Stored env clients users world later) (deep : 0 < env.platform.recursionLimit)
    {client : SeedClient} (member : client ∈ clients) (accepted : AcceptedClient client) :
    ∃ row, (Query.getClient client.clientId).eval env.backend later.store = some row ∧
      Serves env client row := by
  obtain ⟨now, rows, whole, each⟩ := stored.clients
  obtain ⟨row, listed, id, rfl⟩ := related_right each member
  have held : clientRow env id now client ∈ later.store.clients.rows := by
    rw [whole]
    exact List.mem_append_right _ listed
  exact ⟨_, later.store.clients.first_of_mem List.mem_cons_self held,
    row_serves deep accepted id now⟩

/-- A stored user has the seeded password, and no special role. -/
structure Account (env : Env) (user : SeedUser) (row : User) : Prop where
  username : row.username = user.username
  password : ∃ draw, row.passwordHash = env.platform.hashPassword draw user.password
  enabled : row.enabled = true
  role : row.role = "user"

theorem served_user {clients : List SeedClient} {users : List SeedUser}
    (stored : Stored env clients users world later) (distinct : (users.map SeedUser.username).Nodup)
    {user : SeedUser} (member : user ∈ users) (free : FreeUser world user.username) :
    ∃ row, (Query.getUserByUsername user.username).eval env.backend later.store = some row ∧
      Account env user row := by
  obtain ⟨rows, whole, each⟩ := stored.users
  obtain ⟨row, listed, id, draw, created, updated, rfl⟩ := related_right each member
  simp only [Query.eval]
  cases found : later.store.users.find? (·.username == user.username) with
  | none =>
      have absent := List.find?_eq_none.1 found _
        (by rw [whole]; exact List.mem_append_right _ listed)
      exact absurd (beq_self_eq_true user.username) absent
  | some other =>
      have named : other.username = user.username := by simpa using List.find?_some found
      have kept := List.mem_of_find?_eq_some found
      rw [whole] at kept
      rcases List.mem_append.1 kept with old | new
      · exact absurd named (free other old)
      · obtain ⟨origin, seeded, id', draw', created', updated', rfl⟩ := related_left each new
        have same : origin = user := List.inj_on_of_nodup_map distinct seeded member named
        subst same
        exact ⟨_, rfl, rfl, ⟨draw', rfl⟩, rfl, rfl⟩

theorem generated_fresh {specs : List SeedSigningKey} {keys : List SigningKey}
    (each : List.Forall₂ (Generated material) specs keys) :
    ∀ key ∈ keys, key.isCurrent = true ∧ key.expiresAt = none := by
  intro key member
  obtain ⟨spec, -, now, rfl⟩ := related_left each member
  exact ⟨rfl, rfl⟩

theorem seed_keyset_current (config : Config) (start now : Instant) :
    Settled now (seedKeyset config start) ∧ Lasting (seedKeyset config start) := by
  have each : ∀ key ∈ seedKeyset config start, key.isCurrent = true ∧ key.expiresAt = none := by
    unfold seedKeyset
    intro key member
    rcases List.mem_append.1 member with first | second
    · rw [List.mem_singleton.1 first]
      exact ⟨rfl, rfl⟩
    · split at second
      · cases second
      · rw [List.mem_singleton.1 second]
        exact ⟨rfl, rfl⟩
  constructor
  · intro key member retired
    rw [(each key member).1] at retired
    cases retired
  · exact fun key member _ => (each key member).2

/-- Where ids are drawn that no row has, a seed is applied exactly if all its names are
free. Otherwise the start is
refused, and the signing keys stay as they were. What was stored before stays
stored as it was, whatever comes of it. -/
theorem seed_conflicts (accepted : Accepted seed) (fresh : FreshIds env world) :
    ((∃ applied, (applySeed env within material seed world).1 = .ok applied) ↔
      Free seed world) ∧
    (¬Free seed world →
      (∃ message, (applySeed env within material seed world).1 = .error (.conformance message)) ∧
        (applySeed env within material seed world).2.process.keys = world.process.keys) ∧
    ∃ clients users, clients <+: seed.clients ∧ users <+: seed.users ∧
      Stored env clients users world { (applySeed env within material seed world).2 with
        process := world.process } := by
  obtain ⟨outcome, later, clients, users, ran, clientsFront, usersFront, stored, complete, open_⟩ :=
    @store_seed_run env within material seed accepted world
  obtain ⟨succeeds, ends⟩ := open_ fresh
  unfold applySeed
  rw [ran]
  cases outcome with
  | error failure =>
      have clash : ¬Free seed world := by
        intro free
        obtain ⟨keys, passed⟩ := succeeds free
        cases passed
      rcases ends with ⟨keys, passed⟩ | ⟨message, same⟩
      · cases passed
      cases same
      refine ⟨⟨?_, fun free => absurd free clash⟩, fun _ => ⟨⟨message, rfl⟩, stored.keys⟩, clients,
        users, clientsFront, usersFront, stored.clients, stored.users, stored.others, rfl⟩
      rintro ⟨applied, passed⟩
      cases passed
  | ok keys =>
      have free := (complete keys rfl).2.2.2
      exact ⟨⟨fun _ => free, fun _ => ⟨_, rfl⟩⟩, fun clash => absurd free clash, clients, users,
        clientsFront, usersFront, stored.clients, stored.users, stored.others, rfl⟩

/-- A process over a store with a client and a user of the given name. -/
def sampleStart (username : String) : World where
  store := { Runs.sampleStore with
    users := [{
      id := "user-row"
      username := username
      passwordHash := ""
      email := ""
      createdAt := 0
      updatedAt := 0 }] }
  process := { Runs.sampleProcess with keys := seedKeyset Runs.sampleEnv.config 0 }

theorem sample_draw_letters (draw : Nat) : (Runs.samplePlatform.random draw).toList =
    "random-".toList ++ Nat.toDigits 10 draw := by
  have written : toString draw = String.ofList (Nat.toDigits 10 draw) := rfl
  change ("random-" ++ toString draw).toList = _
  rw [String.toList_append, written, String.toList_ofList, String.toList_ofList]

theorem sample_draw_apart {id : String} (apart : id.toList.head? ≠ some 'r') (draw : Nat) :
    id ≠ Runs.samplePlatform.random draw := by
  have first : "random-".toList.head? = some 'r' := by decide
  intro same
  rw [same, sample_draw_letters, List.head?_append, first] at apart
  exact apart rfl

theorem sample_ids_fresh (username : String) : FreshIds Runs.sampleEnv (sampleStart username) where
  clients := by
    intro row member draw _
    rw [List.mem_singleton.1 member]
    have letter : "client-row".toList.head? ≠ some 'r' := by decide
    exact sample_draw_apart letter draw
  users := by
    intro row member draw _
    rw [List.mem_singleton.1 member]
    have letter : "user-row".toList.head? ≠ some 'r' := by decide
    exact sample_draw_apart letter draw
  apart := by
    intro first second _ before same
    have letters := congrArg String.toList same
    change (Runs.samplePlatform.random first).toList =
      (Runs.samplePlatform.random second).toList at letters
    rw [sample_draw_letters, sample_draw_letters, List.append_cancel_left_eq] at letters
    have numbers := congrArg digitsValue letters
    rw [digits_value, digits_value] at numbers
    omega

theorem sample_seed_free : Free sampleSeed (sampleStart "bob") := by
  constructor
  · intro client member row stored
    rw [List.mem_singleton.1 stored]
    have apart : ∀ client ∈ sampleSeed.clients, Runs.sampleClient.clientId ≠ client.clientId := by
      decide
    exact apart client member
  · intro user member row stored
    rw [List.mem_singleton.1 stored]
    have apart : ∀ user ∈ sampleSeed.users, "bob" ≠ user.username := by decide
    exact apart user member

theorem sample_seed_taken : ¬Free sampleSeed (sampleStart "alice") :=
  fun free => free.2 _ (List.mem_singleton_self _) _ (List.mem_singleton_self _) rfl

theorem sample_seed_applied :
    (∃ applied, (applySeed Runs.sampleEnv sampleSurroundings (fun _ => []) sampleSeed
      (sampleStart "bob")).1 = .ok applied) ∧
    ∃ message, (applySeed Runs.sampleEnv sampleSurroundings (fun _ => []) sampleSeed
      (sampleStart "alice")).1 = .error (.conformance message) :=
  ⟨(seed_conflicts sample_seed_accepted (sample_ids_fresh "bob")).1.2 sample_seed_free,
    ((seed_conflicts sample_seed_accepted (sample_ids_fresh "alice")).2.1 sample_seed_taken).1⟩

/-- After the seed is applied, every client and every user of it is found and
means what the seed says, and the last seeded key of an algorithm is the only
one that is active for it. -/
theorem seed_served (accepted : Accepted seed) (deep : 0 < env.platform.recursionLimit)
    (start : Instant) (initial : world.process.keys = seedKeyset env.config start)
    {applied : Applied} (ended : applySeed env within material seed world = (.ok applied, later)) :
    (∀ client ∈ seed.clients, ∃ row,
      (Query.getClient client.clientId).eval env.backend later.store = some row ∧
        Serves env client row) ∧
    (∀ user ∈ seed.users, ∃ row,
      (Query.getUserByUsername user.username).eval env.backend later.store = some row ∧
        Account env user row) ∧
    List.Forall₂ (Generated material) seed.signingKeys applied.signingKeys ∧
    ∀ alg now, (∀ reading, reading < later.process.readings →
        env.platform.clock reading ≤ now) →
      activeFor alg now later.process.keys =
        signersFor alg (currentKeys alg (seedKeyset env.config start)) applied.signingKeys := by
  obtain ⟨outcome, middle, clients, users, ran, -, -, stored, complete, -⟩ :=
    @store_seed_run env within material seed accepted world
  unfold applySeed at ended
  rw [ran] at ended
  cases outcome with
  | error failure => cases ended
  | ok keys =>
      obtain ⟨sameClients, sameUsers, generated, free⟩ := complete keys rfl
      subst sameClients sameUsers
      cases ended
      refine ⟨?clients, ?users, generated, ?signers⟩
      case clients =>
        intro client member
        exact served_client stored deep member (accepted.clients client member)
      case users =>
        intro user member
        exact served_user stored accepted.usernames member (free.2 user member)
      case signers =>
        intro alg now past
        have settled := seed_keyset_current env.config start now
        have same : middle.process.keys = seedKeyset env.config start := stored.keys.trans initial
        rw [← same] at settled ⊢
        exact rotate_all_active keys (generated_fresh generated) middle.process settled.1 settled.2
          past alg

end Application

theorem sample_seed_served : ∃ applied later,
    applySeed Runs.sampleEnv sampleSurroundings (fun _ => []) sampleSeed (sampleStart "bob") =
      (.ok applied, later) ∧ ∀ client ∈ sampleSeed.clients, ∃ row,
        (Query.getClient client.clientId).eval .sql later.store = some row ∧
          Serves Runs.sampleEnv client row := by
  have succeeds : (applySeed Runs.sampleEnv sampleSurroundings (fun _ => []) sampleSeed
      (sampleStart "bob")).1.toOption.isSome = true := by decide +kernel
  cases ended : applySeed Runs.sampleEnv sampleSurroundings (fun _ => []) sampleSeed
    (sampleStart "bob") with
  | mk outcome later =>
      rw [ended] at succeeds
      cases outcome with
      | error failure => cases succeeds
      | ok applied =>
          exact ⟨applied, later, rfl,
            (seed_served sample_seed_accepted (by decide) 0 rfl ended).1⟩

/-- The second of two seeded RS256 keys is the one that signs. -/
example : (activeFor "RS256" 100 (applySeed Runs.sampleEnv sampleSurroundings (fun _ => [])
    sampleSeed (sampleStart "bob")).2.process.keys).map SigningKey.kid = ["second"] := by decide +kernel

end OAuth2Server.SeedApplication
