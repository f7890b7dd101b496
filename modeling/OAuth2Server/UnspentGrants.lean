import OAuth2Server.Backends
import OAuth2Server.ClientIdentity
import OAuth2Server.ReplayGuards
import OAuth2Server.SingleUse

/-!
# What a request makes of its grant

A request is refused before or after the step that consumes its grant. Up to
that step nothing is written but the sweep of a replay, and the only assertion
that is recorded is the one a client authenticates with, under its own name.
-/

namespace OAuth2Server.UnspentGrants

open OAuth2Server Models JsonText Storage Effects Interaction Interaction.Program Process
open ClientAuth Dpop JwtBearer Issuance Validation TokenEndpoint Footprints Backends
open ReplayGuards Runs SingleUse
open OAuth2Server.ClientIdentity (During readings_grow)

set_option autoImplicit false

/-! ### What a request may leave behind -/

/-- The keys of the replay guard. -/
def recorded (world : World) : List String := world.process.jtiGuard.map Prod.fst

/-- Nothing is written, and no identifier is recorded but under a client's name. -/
structure Kept (world later : World) : Prop where
  store : later.store = world.store
  guard : ∀ key ∈ recorded later, key ∈ recorded world ∨
    ∃ client ∈ world.store.clients.rows, ∃ jti, key = jtiKey client.clientId jti

theorem Kept.refl (world : World) : Kept world world := ⟨rfl, fun _ listed => .inl listed⟩

theorem Kept.trans {first second third : World} (earlier : Kept first second)
    (later : Kept second third) : Kept first third := by
  refine ⟨later.store.trans earlier.store, ?_⟩
  intro key listed
  rcases later.guard key listed with old | own
  · exact earlier.guard key old
  · rw [earlier.store] at own
    exact .inr own

/-! ### Footprints -/

/-- Operations that write nothing and record identifiers under the given names. -/
def Recording (names : String → Prop) : Op → Prop
  | .command _ => False
  | .ambient (.observeJti name _ _) => names name
  | _ => True

/-- Operations that write and record nothing. -/
@[reducible] def Quiet : Op → Prop := Recording fun _ => False

theorem recording_of_quiet {names : String → Prop} (op : Op) (quiet : Quiet op) :
    Recording names op := by
  rcases op with read | write | act
  · trivial
  · exact quiet
  · cases act with
    | observeJti name jti ttlSecs => exact quiet.elim
    | _ => trivial

section Observed

variable {env : Env} {ε α : Type} {raises : ε → Prop} {program : Program Server ε α}
  {outcome : Except ε α} {world later : World}

/-- The keys after an observation are old ones and its own. -/
theorem observed_keys {name jti : String} {ttlSecs now : ℚ} {guard : Dict ℚ} {key : String}
    (listed : key ∈ (observeJti name jti ttlSecs now guard).2.map Prod.fst) :
    key ∈ guard.map Prod.fst ∨ key = jtiKey name jti := by
  have swept : ∀ entries : Dict ℚ, List.Sublist entries guard → key ∈ entries.map Prod.fst →
      key ∈ guard.map Prod.fst := fun entries sublist inside =>
    (sublist.map Prod.fst).subset inside
  unfold observeJti at listed
  dsimp only at listed
  split at listed
  · exact .inl (swept _ List.filter_sublist listed)
  · split at listed
    · exact .inl (swept _ List.filter_sublist listed)
    · rw [List.map_append, List.mem_append] at listed
      rcases listed with old | new
      · exact .inl (swept _ List.filter_sublist old)
      · exact .inr (by simpa using new)

theorem recording_step {names : String → Prop} {op : Op} (within : Recording names op)
    (world : World) : (env.interp op world).2.store = world.store ∧
      ∀ key ∈ recorded (env.interp op world).2,
        key ∈ recorded world ∨ ∃ name jti, names name ∧ key = jtiKey name jti := by
  rcases op with read | write | act
  · exact ⟨rfl, fun _ listed => .inl listed⟩
  · exact within.elim
  · refine ⟨rfl, ?_⟩
    intro key listed
    cases act with
    | observeJti name jti ttlSecs =>
        rcases observed_keys listed with old | own
        · exact .inl old
        · exact .inr ⟨name, jti, within, own⟩
    | checkInvalidClient clientId =>
        unfold recorded at listed
        simp only [interp_ambient, Ambient.exec] at listed
        left
        split at listed <;> exact listed
    | fetchJwks url =>
        unfold recorded at listed
        simp only [interp_ambient, Ambient.exec] at listed
        left
        split at listed
        · exact listed
        · split at listed <;> exact listed
    | _ => exact .inl listed

theorem recording_run {names : String → Prop}
    (uses : Uses (S := Server) (Recording names) raises program)
    (ran : program.run env.interp world = (outcome, later)) :
    later.store = world.store ∧ ∀ key ∈ recorded later,
      key ∈ recorded world ∨ ∃ name jti, names name ∧ key = jtiKey name jti := by
  have kept : (program.run env.interp world).2.store = world.store ∧
      ∀ key ∈ recorded (program.run env.interp world).2,
        key ∈ recorded world ∨ ∃ name jti, names name ∧ key = jtiKey name jti := by
    apply Uses.run_keeps (fun reached : World => reached.store = world.store ∧
      ∀ key ∈ recorded reached,
        key ∈ recorded world ∨ ∃ name jti, names name ∧ key = jtiKey name jti) _ uses
    · exact ⟨rfl, fun _ listed => .inl listed⟩
    · intro op reached within invariant
      obtain ⟨store, keys⟩ := @recording_step env names op within reached
      refine ⟨store.trans invariant.1, ?_⟩
      intro key listed
      rcases keys key listed with old | own
      · exact invariant.2 key old
      · exact .inr own
  rw [ran] at kept
  exact kept

/-- A program that records under the name of a client. -/
theorem recording_kept {client : Client}
    (uses : Uses (S := Server) (Recording (· = client.clientId)) raises program)
    (member : client ∈ world.store.clients.rows)
    (ran : program.run env.interp world = (outcome, later)) : Kept world later := by
  obtain ⟨store, keys⟩ := recording_run uses ran
  refine ⟨store, ?_⟩
  intro key listed
  rcases keys key listed with old | ⟨name, jti, rfl, own⟩
  · exact .inl old
  · exact .inr ⟨client, member, jti, own⟩

theorem quiet_kept (uses : Uses (S := Server) Quiet raises program)
    (ran : program.run env.interp world = (outcome, later)) : Kept world later := by
  obtain ⟨store, keys⟩ := recording_run uses ran
  refine ⟨store, ?_⟩
  intro key listed
  rcases keys key listed with old | ⟨_, _, none, _⟩
  · exact .inl old
  · exact none.elim

end Observed

/-! ### Entries of the guard -/

/-- The entry had expired when the clock was read during the request. -/
def Expired (env : Env) (world later : World) (expiry : ℚ) : Prop :=
  ∃ reading, During world later reading ∧ expiry ≤ env.platform.monotonic reading

/-- The guard has no entry under the key, or one that had expired. -/
def Unrecorded (env : Env) (world later : World) (key : String) : Prop :=
  ∀ expiry, (key, expiry) ∈ world.process.jtiGuard → Expired env world later expiry

section Entries

variable {env : Env} {world middle later : World} {key : String} {expiry : ℚ}

theorem Expired.widen (expired : Expired env middle later expiry) {first last : World}
    (opens : first.process.readings ≤ middle.process.readings)
    (closes : later.process.readings ≤ last.process.readings) : Expired env first last expiry := by
  obtain ⟨reading, ⟨started, ended⟩, due⟩ := expired
  exact ⟨reading, ⟨opens.trans started, ended.trans_le closes⟩, due⟩

/-- An observation drops only what has expired. -/
theorem observed_entries {name jti : String} {ttlSecs now : ℚ} {guard : Dict ℚ}
    {entry : String × ℚ} (listed : entry ∈ guard) :
    entry ∈ (observeJti name jti ttlSecs now guard).2 ∨ entry.2 ≤ now := by
  rcases le_or_gt entry.2 now with due | live
  · exact .inr due
  · have kept : entry ∈ guard.filter fun entry => now < entry.2 :=
      List.mem_filter.2 ⟨listed, by simpa using live⟩
    left
    unfold observeJti
    dsimp only
    split
    · exact kept
    · split
      · exact kept
      · exact List.mem_append_left _ kept

theorem entries_step (env : Env) (op : Op) (world : World) {entry : String × ℚ}
    (listed : entry ∈ world.process.jtiGuard) :
    entry ∈ (env.interp op world).2.process.jtiGuard ∨
      Expired env world (env.interp op world).2 entry.2 := by
  rcases op with read | write | act
  · exact .inl listed
  · exact .inl listed
  · cases act with
    | observeJti name jti ttlSecs =>
        rcases observed_entries listed with kept | due
        · exact .inl kept
        · exact .inr ⟨world.process.readings, ⟨le_refl _, Nat.lt_succ_self _⟩, due⟩
    | checkInvalidClient clientId =>
        left
        simp only [interp_ambient, Ambient.exec]
        split <;> exact listed
    | fetchJwks url =>
        left
        simp only [interp_ambient, Ambient.exec]
        repeat' split
        all_goals exact listed
    | _ => exact .inl listed

/-- Whatever a program does, an entry is dropped only once it has expired. -/
theorem entries_kept {ε α : Type} {program : Program Server ε α} {outcome : Except ε α}
    (ran : program.run env.interp world = (outcome, later)) {entry : String × ℚ}
    (listed : entry ∈ world.process.jtiGuard) :
    entry ∈ later.process.jtiGuard ∨ Expired env world later entry.2 := by
  have kept := run_keeps env.interp (fun reached : World =>
    world.process.readings ≤ reached.process.readings ∧
      (entry ∈ reached.process.jtiGuard ∨ Expired env world reached entry.2)) ?_ program
    ⟨le_refl world.process.readings, .inl listed⟩
  · rw [ran] at kept
    exact kept.2
  · rintro op reached ⟨order, held⟩
    have onward : reached.process.readings ≤ (env.interp op reached).2.process.readings :=
      @readings_grow Empty op.Ans env (Program.perform op) reached _ _ rfl
    refine ⟨order.trans onward, ?_⟩
    rcases held with held | expired
    · rcases entries_step env op reached held with kept | expired
      · exact .inl kept
      · exact .inr (expired.widen order (le_refl _))
    · exact .inr (expired.widen (le_refl _) onward)

/-- What is not recorded when a program has run was not recorded before it. -/
theorem Unrecorded.before {ε α : Type} {program : Program Server ε α} {outcome : Except ε α}
    (unrecorded : Unrecorded env middle later key)
    (ran : program.run env.interp world = (outcome, middle))
    (onward : middle.process.readings ≤ later.process.readings) :
    Unrecorded env world later key := by
  intro expiry listed
  rcases entries_kept ran listed with kept | expired
  · exact (unrecorded expiry kept).widen (readings_grow ran) (le_refl _)
  · exact expired.widen (le_refl _) onward

theorem Unrecorded.after (unrecorded : Unrecorded env world middle key)
    (onward : middle.process.readings ≤ later.process.readings) :
    Unrecorded env world later key :=
  fun expiry listed => (unrecorded expiry listed).widen (le_refl _) onward

end Entries

/-! ### The block before the grants -/

section Identification

variable {env : Env}

theorem quiet_denylist {ε : Type} {raises : ε → Prop} (kind value : String) :
    Uses (S := Server) Quiet raises (checkSubjectDenylisted kind value) := by
  unfold checkSubjectDenylisted findDenylistEntry
  split
  · trivial
  · refine ⟨trivial, fun found => ?_⟩
    cases found with
    | none => trivial
    | some entry =>
        obtain ⟨id, kind, value, reason, createdBy, createdAt, expiresAt⟩ := entry
        cases expiresAt with
        | none => trivial
        | some expiresAt => exact ⟨trivial, fun _ => trivial⟩

theorem quiet_raise_if (condition : Bool) (error description : String) :
    Uses (S := Server) Quiet Any (raiseIf condition error description) :=
  uses_raise_if _ _ _ trivial

theorem quiet_of_except {ε α : Type} (outcome : Except ε α) {footprint : Op → Prop} :
    Uses (S := Server) footprint (fun _ => True) (Program.ofExcept outcome) :=
  (uses_of_except _).2 fun _ _ => trivial

theorem quiet_client_jwks (client : Client) (methods : List String) :
    Uses (S := Server) Quiet Any (resolveClientJwks env client methods) := by
  unfold resolveClientJwks
  split
  · exact uses_pure _
  · split
    · split <;> trivial
    · split
      · apply Uses.bind (uses_ambient _ trivial)
        intro answer
        split <;> trivial
      · trivial

theorem recording_enforce_jti (clientId : String) (claims : List (String × Json)) :
    Uses (S := Server) (Recording (· = clientId)) Any (enforceJtiReplay clientId claims) := by
  unfold enforceJtiReplay
  split
  · split
    · apply Uses.bind (uses_ambient _ trivial)
      intro time
      split
      · have own : ∀ jti ttlSecs,
            Recording (· = clientId) (.ambient (.observeJti clientId jti ttlSecs)) :=
          fun _ _ => rfl
        apply Uses.bind (uses_ambient _ (own _ _))
        intro observation
        split <;> trivial
      · trivial
    · trivial
  · trivial

theorem recording_client_assertion (client : Client) (assertion tokenEndpointUrl : String)
    (jwks : Option Json) :
    Uses (S := Server) (Recording (· = client.clientId)) Any
      (validateClientAssertion env client assertion tokenEndpointUrl jwks) := by
  unfold validateClientAssertion
  extract_lets method
  split
  · split
    · apply Uses.bind (uses_raise_if _ _ _ trivial)
      intro _
      extract_lets verify
      have verified : ∀ key, Uses (S := Server) (Recording (· = client.clientId)) Any
          (verify key) := by
        intro key
        simp only [verify]
        apply Uses.bind (uses_ambient _ trivial)
        intro now
        split
        · trivial
        · trivial
        · apply Uses.bind (uses_raise_if _ _ _ trivial)
          intro _
          exact recording_enforce_jti _ _
      split
      · exact verified _
      · exact Uses.bind (quiet_of_except _) verified
    · trivial
  · trivial

theorem recording_check_credential (client : Client) (form : Form) (secret : Option String)
    (credentials : Credentials) :
    Uses (S := Server) (Recording (· = client.clientId)) Any
      (checkCredential env client form secret credentials) := by
  have jwks : ∀ methods, Uses (S := Server) (Recording (· = client.clientId)) Any
      (resolveClientJwks env client methods) := fun methods =>
    (quiet_client_jwks client methods).mono recording_of_quiet fun _ raised => raised
  unfold checkCredential
  extract_lets method
  split
  · exact uses_raise_if _ _ _ trivial
  split
  · unfold authenticateJwt
    apply Uses.bind (uses_raise_if _ _ _ trivial)
    intro _
    apply Uses.bind (uses_raise_if _ _ _ trivial)
    intro _
    apply Uses.bind (uses_raise_if _ _ _ trivial)
    intro _
    apply Uses.bind (jwks _)
    intro document
    exact recording_client_assertion client _ _ document
  split
  · exact quiet_of_except _
  split
  · unfold authenticateSelfSignedTls
    split
    · extract_lets noMatch
      apply Uses.bind (uses_raise_if _ _ _ trivial)
      intro _
      apply Uses.bind (jwks _)
      intro document
      split
      · exact uses_raise_if _ _ _ trivial
      · trivial
    · trivial
  · exact uses_raise_if _ _ _ trivial

/-- A client is looked up before it is authenticated. -/
theorem authenticate_kept {form : Form} {credentials : Credentials} {world later : World}
    {outcome : Except Raised Client}
    (ran : (authenticate env form credentials).run env.interp world = (outcome, later)) :
    Kept world later := by
  unfold authenticate at ran
  rw [run_bind, run_of_except] at ran
  split at ran
  · rename_i presented _ same
    obtain ⟨presentedId, secret⟩ := presented
    cases (Prod.mk.inj same).2
    dsimp only at ran
    split at ran
    · rw [run_query_bind] at ran
      split at ran
      · rename_i client found
        have member := (Tables.Table.mem_of_first found).1
        refine @recording_kept _ _ _ Any _ _ _ _ client ?_ member ran
        apply Uses.bind (uses_raise_if _ _ _ trivial)
        intro _
        apply Uses.bind ((quiet_denylist _ _).mono recording_of_quiet fun _ raised => raised)
        intro denylisted
        apply Uses.bind (uses_raise_if _ _ _ trivial)
        intro _
        apply Uses.bind (recording_check_credential client _ _ _)
        intro _
        trivial
      · cases ran
        exact Kept.refl world
    · cases ran
      exact Kept.refl world
  · rename_i raised _ same
    cases ran
    cases (Prod.mk.inj same).2
    exact Kept.refl world

theorem quiet_invalid_client {α : Type} (clientId description : Option String) :
    Uses (S := Server) (α := α) Quiet (fun _ => True)
      (do
        let response ← invalidClientResponse clientId description
        throw response) := by
  unfold invalidClientResponse
  split
  · trivial
  · refine ⟨trivial, fun answer => ?_⟩
    cases answer <;> trivial

theorem quiet_proof (proof method url : String) (accessToken : Option String) :
    Uses (S := Server) Quiet (fun _ => True) (validateDpopProof env proof method url accessToken) := by
  unfold validateDpopProof
  dsimp only
  split
  case h_2 => trivial
  case h_3 => trivial
  apply Uses.bind (uses_pure _)
  intro header
  split
  · trivial
  split
  case h_2 => trivial
  apply Uses.bind (quiet_of_except _)
  intro jkt
  apply Uses.bind (quiet_of_except _)
  intro alg
  split
  · trivial
  apply Uses.bind (uses_ambient _ trivial)
  intro now
  split
  case h_2 => trivial
  case h_3 => trivial
  apply Uses.bind (uses_pure _)
  intro claims
  apply Uses.bind (quiet_of_except _)
  intro _
  split
  case h_2 => trivial
  apply Uses.bind (uses_ambient _ trivial)
  intro time
  apply Uses.bind (quiet_of_except _)
  intro _
  apply Uses.bind (quiet_of_except _)
  intro nonce
  split
  case h_2 => trivial
  apply Uses.bind (uses_ambient _ trivial)
  intro fresh
  split <;> trivial

theorem quiet_validated_proof (client : Client) (request : Request) :
    Uses (S := Server) Quiet (fun _ => True) (validatedProof env client request) := by
  have called : ∀ {α : Type} {service : Service α},
      Uses (S := Server) Quiet (fun _ => True) service →
        Uses (S := Server) Quiet (fun _ => True) (TokenEndpoint.call service) :=
    fun uses => Uses.mapError uses fun _ _ => trivial
  have nonce : ∀ validated, Uses (S := Server) Quiet (fun _ => True)
      (enforceDpopNonce env validated) := by
    intro validated
    unfold enforceDpopNonce useDpopNonceResponse issueNonce
    split
    · exact ⟨trivial, fun _ => trivial⟩
    · apply Uses.bind (uses_ambient _ trivial)
      intro time
      split
      · trivial
      · exact ⟨trivial, fun _ => trivial⟩
      · trivial
  unfold validatedProof
  apply Uses.bind (quiet_of_except _)
  intro found
  split
  · trivial
  · apply Uses.bind (called (quiet_proof _ _ _ _))
    intro validated
    split
    · apply Uses.bind (called (nonce validated))
      intro challenge
      split <;> trivial
    · trivial

theorem pre_grant_kept {request : Request} {world later : World}
    {outcome : Except Response Context}
    (ran : (preGrant env request).run env.interp world = (outcome, later)) : Kept world later := by
  have identified : ∀ {outcome : Except Response Client} {reached : World},
      (authenticatedClient env request).run env.interp world = (outcome, reached) →
        Kept world reached := by
    intro outcome reached ran
    unfold authenticatedClient at ran
    rw [run_rescue] at ran
    cases authenticating : (authenticate env request.form (request.credentials env)).run env.interp
        world with
    | mk answer middle =>
    have kept := authenticate_kept authenticating
    rw [authenticating] at ran
    cases answer with
    | ok client =>
        cases ran
        exact kept
    | error raised =>
        apply kept.trans
        dsimp only at ran
        refine @quiet_kept _ _ _ (fun _ => True) _ _ _ _ ?_ ran
        split
        · split
          · exact quiet_invalid_client _ _
          · trivial
        · trivial
  unfold preGrant at ran
  rw [run_bind] at ran
  cases authenticating : (authenticatedClient env request).run env.interp world with
  | mk answer middle =>
  have kept := identified authenticating
  rw [authenticating] at ran
  cases answer with
  | error response =>
      cases ran
      exact kept
  | ok client =>
      apply kept.trans
      dsimp only at ran
      refine @quiet_kept _ _ _ (fun _ => True) _ _ _ _ ?_ ran
      exact (quiet_validated_proof client request).bind fun _ => trivial

end Identification

/-! ### Checks up to a grant's consuming step -/

/-- A program that keeps everything and returns what `post` says, or answers a
replay: on the given store. -/
def Spares (env : Env) (store : Store) (replay : Response → World → Prop) {α : Type}
    (post : α → Prop) (program : Handler α) : Prop :=
  ∀ world, world.store = store → ∀ outcome later,
    program.run env.interp world = (outcome, later) →
      Kept world later ∧ (∀ value, outcome = .ok value → post value) ∨
        ∃ response, outcome = .error response ∧ replay response later

section Checks

variable {env : Env} {store : Store} {replay : Response → World → Prop} {α β : Type}
  {post : α → Prop} {next : β → Prop} {request : Request}

theorem spares_of_quiet {program : Handler α}
    (uses : Uses (S := Server) Quiet (fun _ => True) program) :
    Spares env store replay (fun _ => True) program :=
  fun _ _ _ _ ran => .inl ⟨quiet_kept uses ran, fun _ _ => trivial⟩

theorem spares_pure {value : α} (holds : post value) :
    Spares env store replay post (pure value) := by
  intro world _ outcome later ran
  cases ran
  left
  refine ⟨Kept.refl world, ?_⟩
  intro _ same
  cases same
  exact holds

theorem spares_throw (response : Response) :
    Spares env store replay post (throw response : Handler α) := by
  intro world _ outcome later ran
  cases ran
  exact .inl ⟨Kept.refl world, fun _ same => by cases same⟩

theorem Spares.bind {program : Handler α} {rest : α → Handler β}
    (spares : Spares env store replay post program)
    (later : ∀ value, post value → Spares env store replay next (rest value)) :
    Spares env store replay next (program >>= rest) := by
  intro world same outcome reached ran
  rw [run_bind] at ran
  cases running : program.run env.interp world with
  | mk answer middle =>
  rw [running] at ran
  cases answer with
  | error response =>
      cases ran
      rcases spares world same _ _ running with ⟨kept, _⟩ | ⟨_, failed, replayed⟩
      · exact .inl ⟨kept, fun _ failed => by cases failed⟩
      · cases failed
        exact .inr ⟨response, rfl, replayed⟩
  | ok value =>
      rcases spares world same _ _ running with ⟨kept, holds⟩ | ⟨_, failed, _⟩
      · rcases later value (holds value rfl) middle (kept.store.trans same) _ _ ran with
          ⟨onward, returned⟩ | replayed
        · exact .inl ⟨kept.trans onward, returned⟩
        · exact .inr replayed
      · cases failed

theorem Spares.mono {program : Handler α} {weaker : α → Prop}
    (spares : Spares env store replay post program) (weaken : ∀ value, post value → weaker value) :
    Spares env store replay weaker program := by
  intro world same outcome later ran
  rcases spares world same outcome later ran with ⟨kept, holds⟩ | replayed
  · exact .inl ⟨kept, fun value same => weaken value (holds value same)⟩
  · exact .inr replayed

/-- A quiet check that is followed by others. -/
theorem spares_after {program : Handler α} {rest : α → Handler β}
    (uses : Uses (S := Server) Quiet (fun _ => True) program)
    (later : ∀ value, Spares env store replay next (rest value)) :
    Spares env store replay next (program >>= rest) :=
  (spares_of_quiet uses).bind fun value _ => later value

theorem spares_query {read : Query} {rest : read.Ans → Handler α}
    (later : Spares env store replay post (rest (read.eval env.backend store))) :
    Spares env store replay post (query read >>= rest) := by
  intro world same outcome reached ran
  rw [run_query_bind, same] at ran
  exact later world same outcome reached ran

theorem spares_reject {condition : Bool} {error description : String} {rest : Unit → Handler α}
    (later : condition = false → Spares env store replay post (rest ())) :
    Spares env store replay post (returnIf condition error description >>= rest) := by
  cases condition with
  | true => exact spares_throw _
  | false => exact later rfl

theorem quiet_require_grant (client : Client) (grant : Grant) :
    Uses (S := Server) Quiet (fun _ => True) (requireGrant env client grant) := by
  unfold requireGrant
  split
  · trivial
  · exact (uses_reject_if _ _).2 fun _ => trivial

theorem quiet_return_if (condition : Bool) (error description : String) :
    Uses (S := Server) Quiet (fun _ => True) (returnIf condition error description) :=
  (uses_reject_if _ _).2 fun _ => trivial

theorem quiet_checked_details (raw : Option String) :
    Uses (S := Server) Quiet (fun _ => True) (checkedDetails env raw) := by
  unfold checkedDetails
  split
  · trivial
  · exact Uses.map (quiet_of_except _)

theorem quiet_redeemed_details (stored presented : Option String) :
    Uses (S := Server) Quiet (fun _ => True) (redeemedDetails env stored presented) := by
  unfold redeemedDetails
  exact (quiet_return_if _ _ _).bind fun _ => quiet_checked_details _

/-- The store once the family of a replayed grant is revoked, where it has one. -/
def swept (env : Env) (store : Store) (family : Option String) : Store :=
  ((family.filter (· != "")).map fun family =>
    (Command.exec env.backend store (.revokeTokenFamily family)).2).getD store

/-- The row of a presented code. -/
def CodeRow (env : Env) (store : Store) (request : Request) (row : AuthorizationCode) : Prop :=
  request.form.get "code" = some row.code ∧
    Query.eval env.backend store (.getAuthorizationCode row.code) = some row

/-- A used code was presented: it is refused, and its family revoked. -/
def ReplayedCode (env : Env) (store : Store) (request : Request) (response : Response)
    (later : World) : Prop :=
  ∃ row, CodeRow env store request row ∧ row.used = true ∧
    response = oauthError "invalid_grant" (some "authorization code has already been used") ∧
      later.store = swept env store row.tokenFamily

theorem spares_refuse_replayed {row : AuthorizationCode} (found : CodeRow env store request row)
    (used : row.used = true) :
    Spares env store (ReplayedCode env store request) post (refuseReplayedCode row : Handler α) := by
  intro world same outcome later ran
  right
  have replayed : ∀ reached : World, reached.store = swept env store row.tokenFamily →
      ReplayedCode env store request (oauthError "invalid_grant"
        (some "authorization code has already been used")) reached :=
    fun _ left => ⟨row, found, used, rfl, left⟩
  unfold refuseReplayedCode at ran
  cases named : row.tokenFamily.filter (· != "") with
  | some family =>
      rw [named] at ran
      cases ran
      refine ⟨_, rfl, replayed _ ?_⟩
      rw [swept, named, ← same]
      rfl
  | none =>
      rw [named] at ran
      cases ran
      refine ⟨_, rfl, replayed _ ?_⟩
      rw [swept, named, ← same]
      rfl

/-- The row of a presented refresh token. -/
def RefreshRow (env : Env) (store : Store) (request : Request) (row : Token) : Prop :=
  ∃ text, request.form.get "refresh_token" = some text ∧
    Query.eval env.backend store (.getTokenByRefreshToken text) = some row

/-- A revoked refresh token was presented: it is refused, and its family revoked. -/
def ReplayedRefresh (env : Env) (store : Store) (request : Request) (response : Response)
    (later : World) : Prop :=
  ∃ row, RefreshRow env store request row ∧ row.revoked = true ∧
    response = oauthError "invalid_grant" (some "refresh token has been revoked") ∧
      later.store = swept env store row.tokenFamily

theorem spares_refuse_revoked {row : Token} (found : RefreshRow env store request row)
    (revoked : row.revoked = true) :
    Spares env store (ReplayedRefresh env store request) post (refuseRevoked row : Handler α) := by
  intro world same outcome later ran
  right
  have replayed : ∀ reached : World, reached.store = swept env store row.tokenFamily →
      ReplayedRefresh env store request (oauthError "invalid_grant"
        (some "refresh token has been revoked")) reached :=
    fun _ left => ⟨row, found, revoked, rfl, left⟩
  unfold refuseRevoked at ran
  cases named : row.tokenFamily.filter (· != "") with
  | some family =>
      rw [named] at ran
      cases ran
      refine ⟨_, rfl, replayed _ ?_⟩
      rw [swept, named, ← same]
      rfl
  | none =>
      rw [named] at ran
      cases ran
      refine ⟨_, rfl, replayed _ ?_⟩
      rw [swept, named, ← same]
      rfl

theorem spares_check_code (context : Context) (request : Request) :
    Spares env store (ReplayedCode env store request)
      (fun checked => CodeRow env store request checked.1 ∧ checked.1.used = false)
      (checkCode env context request) := by
  unfold checkCode
  apply spares_after (quiet_require_grant _ _)
  intro _
  extract_lets judge
  have judged : ∀ found, (∀ row, found = some row → CodeRow env store request row) →
      Spares env store (ReplayedCode env store request)
        (fun checked => CodeRow env store request checked.1 ∧ checked.1.used = false)
        (judge found) := by
    intro found named
    cases found with
    | none => exact spares_throw _
    | some row =>
        apply spares_after (quiet_return_if _ _ _)
        intro _
        apply spares_after (uses_ambient .now trivial)
        intro now
        apply spares_after (quiet_return_if _ _ _)
        intro _
        split
        · rename_i used
          exact spares_refuse_replayed (named row rfl) used
        · rename_i unused
          apply spares_after (quiet_return_if _ _ _)
          intro _
          apply spares_after (quiet_of_except _)
          intro _
          apply spares_after (quiet_redeemed_details _ _)
          intro details
          exact spares_pure ⟨named row rfl, by simpa using unused⟩
  split
  · rename_i code presented
    apply spares_query
    apply judged
    intro row found
    have same : row.code = code := by simpa using (Tables.Table.mem_of_first found).2
    rw [← same] at found presented
    exact ⟨(Option.filter_eq_some_iff.1 presented).1, found⟩
  · rw [pure_bind]
    exact judged none fun row found => by cases found

theorem quiet_narrowed_scope (form : Form) (granted description : String) :
    Uses (S := Server) Quiet (fun _ => True) (narrowedScope form granted description) := by
  unfold narrowedScope
  split
  · trivial
  · exact (quiet_return_if _ _ _).bind fun _ => trivial

theorem spares_check_live_refresh (context : Context) (request : Request) (row : Token) :
    Spares env store replay (fun rotation => rotation.row = row)
      (checkLiveRefresh env context request row) := by
  unfold checkLiveRefresh
  apply spares_after (uses_ambient .now trivial)
  intro now
  apply spares_after (quiet_return_if _ _ _)
  intro _
  apply spares_after (quiet_narrowed_scope _ _ _)
  intro scope
  apply spares_after (quiet_of_except _)
  intro resource
  have carried : Uses (S := Server) Quiet (fun _ => True)
      (carriedAudience (salvageOldAud env row.accessToken) resource) := by
    unfold carriedAudience
    split
    · trivial
    · split
      · trivial
      · exact (quiet_return_if _ _ _).bind fun _ => trivial
  apply spares_after carried
  intro audience
  apply spares_after (quiet_return_if _ _ _)
  intro _
  exact spares_pure rfl

theorem spares_check_refresh (context : Context) (request : Request) :
    Spares env store (ReplayedRefresh env store request)
      (fun rotation => RefreshRow env store request rotation.row ∧ rotation.row.revoked = false)
      (checkRefresh env context request) := by
  unfold checkRefresh
  apply spares_after (quiet_require_grant _ _)
  intro _
  extract_lets judge
  have judged : ∀ found, (∀ row, found = some row → RefreshRow env store request row) →
      Spares env store (ReplayedRefresh env store request)
        (fun rotation => RefreshRow env store request rotation.row ∧ rotation.row.revoked = false)
        (judge found) := by
    intro found named
    cases found with
    | none => exact spares_throw _
    | some row =>
        apply spares_after (quiet_return_if _ _ _)
        intro _
        split
        · rename_i revoked
          exact spares_refuse_revoked (named row rfl) revoked
        · rename_i live
          apply (spares_check_live_refresh context request row).mono
          rintro rotation rfl
          exact ⟨named _ rfl, by simpa using live⟩
  split
  · rename_i text presented
    apply spares_query
    apply judged
    intro row found
    exact ⟨text, (Option.filter_eq_some_iff.1 presented).1, found⟩
  · rw [pure_bind]
    exact judged none fun row found => by cases found

/-- The row of a presented device code. -/
def DeviceRow (env : Env) (store : Store) (request : Request) (row : DeviceAuthorization) : Prop :=
  request.form.get "device_code" = some row.deviceCode ∧
    Query.eval env.backend store (.getDeviceAuthorizationByDeviceCode row.deviceCode) = some row

theorem spares_check_device (context : Context) (request : Request) :
    Spares env store replay
      (fun checked => DeviceRow env store request checked.1 ∧ checked.1.used = false)
      (checkDevice env context request) := by
  unfold checkDevice
  apply spares_after (quiet_require_grant _ _)
  intro _
  split
  · exact spares_throw _
  · rename_i deviceCode presented
    apply spares_query
    cases found : Query.eval env.backend store
      (.getDeviceAuthorizationByDeviceCode deviceCode) with
    | none => exact spares_throw _
    | some row =>
        have same : row.deviceCode = deviceCode := by
          simpa using (Tables.Table.mem_of_first found).2
        rw [← same] at found presented
        apply spares_after (quiet_return_if _ _ _)
        intro _
        apply spares_after (uses_ambient (.observePoll row.deviceCode row.intervalSeconds) trivial)
        intro paced
        cases paced with
        | some interval => exact spares_throw _
        | none =>
            apply spares_after (uses_ambient .now trivial)
            intro now
            apply spares_after (quiet_return_if _ _ _)
            intro _
            apply spares_after (quiet_return_if _ _ _)
            intro _
            apply spares_reject
            intro unused
            apply spares_after (quiet_return_if _ _ _)
            intro _
            apply spares_after (quiet_of_except _)
            intro resource
            exact spares_pure ⟨⟨(Option.filter_eq_some_iff.1 presented).1, found⟩, unused⟩

end Checks

/-! ### The checks of an assertion -/

section Assertions

variable {env : Env}

theorem spares_presented_assertion {store : Store} {replay : Response → World → Prop}
    (context : Context) (request : Request) :
    Spares env store replay (fun assertion => request.form.get "assertion" = some assertion)
      (presentedAssertion env context request) := by
  unfold presentedAssertion requireConfidential
  apply spares_after (quiet_require_grant _ _)
  intro _
  have confidential : Uses (S := Server) Quiet (fun _ => True)
      (if context.client.isPublic then do
          let response ← invalidClientResponse (some context.client.clientId)
            (some "Public clients cannot use the jwt-bearer grant")
          throw response
        else pure () : Handler Unit) := by
    split
    · exact quiet_invalid_client _ _
    · trivial
  apply spares_after confidential
  intro _
  split
  · exact spares_throw _
  · rename_i assertion presented
    exact spares_pure (Option.filter_eq_some_iff.1 presented).1

theorem quiet_verify_assertion (assertion : String) (trusted : TrustedIssuer)
    (header : List (String × Json)) :
    Uses (S := Server) Quiet Any (verifyAssertion env assertion trusted header) := by
  unfold verifyAssertion
  dsimp only
  split
  · apply Uses.bind (uses_ambient _ trivial)
    intro fetched
    split
    case h_2 => trivial
    case h_3 => trivial
    apply Uses.bind (uses_pure _)
    intro jwks
    apply Uses.bind (quiet_of_except _)
    intro key
    split
    · apply Uses.bind (uses_ambient _ trivial)
      intro now
      split <;> trivial
    · trivial
  · trivial

theorem quiet_check_assertion (assertion : String) (client : Client) :
    Uses (S := Server) Quiet Any (checkAssertion env assertion client) := by
  unfold checkAssertion
  apply Uses.bind (quiet_of_except _)
  intro unverified
  apply Uses.bind (uses_query _ trivial)
  intro found
  split
  · apply Uses.bind (quiet_raise_if _ _ _)
    intro _
    split
    · apply Uses.bind (quiet_raise_if _ _ _)
      intro _
      apply Uses.bind (quiet_raise_if _ _ _)
      intro _
      apply Uses.bind (quiet_verify_assertion _ _ _)
      intro claims
      apply Uses.bind (quiet_of_except _)
      intro iat
      apply Uses.bind (uses_ambient _ trivial)
      intro time
      exact (quiet_raise_if _ _ _).bind fun _ => uses_pure _
    · trivial
  · trivial

/-- The issuer and the identifier of a presented assertion, as the server reads them. -/
def Presents (env : Env) (assertion iss jti : String) : Prop :=
  (∃ header, unverifiedHeaderAndIss env assertion = .ok (header, iss)) ∧
    ∃ key alg options now claims, env.platform.jwt.verify assertion key alg options now = .ok claims ∧
      textMember claims "jti" = some jti

theorem verified_claims {assertion : String} {trusted : TrustedIssuer}
    {header claims : List (String × Json)} {world later : World}
    (ran : (verifyAssertion env assertion trusted header).run env.interp world =
      (.ok claims, later)) :
    ∃ key alg options now, env.platform.jwt.verify assertion key alg options now = .ok claims := by
  unfold verifyAssertion at ran
  dsimp only at ran
  split at ran
  · obtain ⟨fetched, _, _, ran⟩ := run_bind_eq_ok ran
    split at ran
    case h_2 => cases ran
    case h_3 => cases ran
    obtain ⟨jwks, _, _, ran⟩ := run_bind_eq_ok ran
    obtain ⟨key, _, ran⟩ := run_of_except_bind_eq_ok ran
    split at ran
    · rw [run_ambient_bind] at ran
      split at ran
      · rename_i accepted
        cases ran
        exact ⟨_, _, _, _, accepted⟩
      · cases ran
      · cases ran
    · cases ran
  · cases ran

theorem checked_assertion {assertion iss : String} {client : Client} {trusted : TrustedIssuer}
    {claims : List (String × Json)} {world later : World}
    (ran : (checkAssertion env assertion client).run env.interp world =
      (.ok (trusted, iss, claims), later)) :
    (∃ header, unverifiedHeaderAndIss env assertion = .ok (header, iss)) ∧
      ∃ key alg options now, env.platform.jwt.verify assertion key alg options now = .ok claims := by
  unfold checkAssertion at ran
  obtain ⟨⟨header, named⟩, unverified, ran⟩ := run_of_except_bind_eq_ok ran
  dsimp only at ran
  rw [run_query_bind] at ran
  split at ran
  · obtain ⟨_, ran⟩ := run_reject_bind_eq_ok ran
    split at ran
    · obtain ⟨_, ran⟩ := run_reject_bind_eq_ok ran
      obtain ⟨_, ran⟩ := run_reject_bind_eq_ok ran
      obtain ⟨verified, reached, verifying, ran⟩ := run_bind_eq_ok ran
      obtain ⟨iat, _, ran⟩ := run_of_except_bind_eq_ok ran
      rw [run_ambient_bind] at ran
      obtain ⟨_, ran⟩ := run_reject_bind_eq_ok ran
      cases ran
      exact ⟨⟨header, unverified⟩, verified_claims verifying⟩
    · cases ran
  · cases ran

theorem run_raise_cases {α : Type} {condition : Bool} {error description : String}
    {rest : Unit → Service α} {world later : World} {outcome : Except Raised α}
    (ran : (raiseIf condition error description >>= rest).run env.interp world =
      (outcome, later)) :
    condition = true ∧
        (Except.error (.oauth error (some description)), world) = (outcome, later) ∨
      condition = false ∧ (rest ()).run env.interp world = (outcome, later) := by
  cases condition with
  | true => exact .inl ⟨rfl, ran⟩
  | false => exact .inr ⟨rfl, ran⟩

/-- An observation that is not fresh only sweeps the guard. -/
theorem observed_again {name jti : String} {ttlSecs now : ℚ} {guard : Dict ℚ} {key : String}
    (known : (observeJti name jti ttlSecs now guard).1 ≠ .fresh)
    (listed : key ∈ (observeJti name jti ttlSecs now guard).2.map Prod.fst) :
    key ∈ guard.map Prod.fst := by
  unfold observeJti at known listed
  dsimp only at known listed
  split at listed
  · exact (List.filter_sublist.map Prod.fst).subset listed
  · rename_i absent
    rw [if_neg absent] at known
    split at listed
    · exact (List.filter_sublist.map Prod.fst).subset listed
    · rename_i room
      rw [if_neg room] at known
      exact absurd rfl known

theorem observed_fresh {name jti : String} {ttlSecs now : ℚ} {guard : Dict ℚ}
    (fresh : (observeJti name jti ttlSecs now guard).1 = .fresh) :
    jtiKey name jti ∈ (observeJti name jti ttlSecs now guard).2.map Prod.fst ∧
      ∀ expiry, (jtiKey name jti, expiry) ∈ guard → expiry ≤ now := by
  unfold observeJti at fresh ⊢
  dsimp only at fresh ⊢
  split
  · rename_i present
    rw [if_pos present] at fresh
    cases fresh
  · rename_i absent
    rw [if_neg absent] at fresh
    split
    · rename_i full
      rw [if_pos full] at fresh
      cases fresh
    · refine ⟨by simp, ?_⟩
      intro expiry listed
      by_contra live
      apply absent
      exact List.any_eq_true.2 ⟨(jtiKey name jti, expiry),
        List.mem_filter.2 ⟨listed, by simpa using live⟩, by simp⟩

/-- An assertion that was not recorded is, or its refusal leaves the guard no larger. -/
theorem enforce_replay_cases {iss : String} {claims : List (String × Json)} {world later : World}
    {outcome : Except Raised Unit}
    (ran : (enforceReplay iss claims).run env.interp world = (outcome, later)) :
    later.store = world.store ∧
      ((∃ raised, outcome = .error raised ∧ Kept world later) ∨
        outcome = .ok () ∧ ∃ jti, textMember claims "jti" = some jti ∧
          Unrecorded env world later (jtiKey (guardName iss) jti) ∧
          jtiKey (guardName iss) jti ∈ recorded later) := by
  have idle : ∀ {reached : World}, reached.store = world.store →
      reached.process.jtiGuard = world.process.jtiGuard → Kept world reached := by
    intro reached store guard
    refine ⟨store, ?_⟩
    intro key listed
    left
    unfold recorded at listed ⊢
    exact guard ▸ listed
  unfold enforceReplay at ran
  split at ran
  · rename_i jti named
    cases dated : numericDate claims "exp" with
    | error raised =>
        rw [dated] at ran
        cases ran
        exact ⟨rfl, .inl ⟨raised, rfl, Kept.refl world⟩⟩
    | ok exp =>
        rw [dated] at ran
        have entered : ∀ rest : ℚ → Service Unit,
            (Program.ofExcept (.ok exp : Except Raised ℚ) >>= rest).run env.interp world =
              (rest exp).run env.interp world := fun _ => rfl
        rw [entered, run_ambient_bind] at ran
        rcases run_raise_cases ran with ⟨_, same⟩ | ⟨_, ran⟩
        · obtain ⟨rfl, rfl⟩ := Prod.mk.inj same
          exact ⟨rfl, .inl ⟨_, rfl, idle rfl rfl⟩⟩
        · rw [run_ambient_bind] at ran
          have sweeping : ∀ {answer : Observation}, answer ≠ .fresh →
              ∀ {ttlSecs now : ℚ} {guard : Dict ℚ}, guard = world.process.jtiGuard →
                (observeJti (guardName iss) jti ttlSecs now guard).1 = answer →
                ∀ key ∈ (observeJti (guardName iss) jti ttlSecs now guard).2.map Prod.fst,
                  key ∈ recorded world := by
            intro answer known ttlSecs now guard same observed key listed
            unfold recorded
            exact same ▸ observed_again (observed ▸ known) listed
          split at ran
          · rename_i observed
            cases ran
            exact ⟨rfl, .inl ⟨_, rfl, rfl, fun key listed =>
              .inl (sweeping (by simp) rfl observed key listed)⟩⟩
          · rename_i observed
            cases ran
            exact ⟨rfl, .inl ⟨_, rfl, rfl, fun key listed =>
              .inl (sweeping (by simp) rfl observed key listed)⟩⟩
          · rename_i observed
            cases ran
            obtain ⟨listed, lapsed⟩ := observed_fresh observed
            refine ⟨rfl, .inr ⟨rfl, jti, (Option.filter_eq_some_iff.1 named).1, ?_, listed⟩⟩
            -- The lifetime is computed first: the guard is asked at the second reading.
            intro expiry before
            exact ⟨world.process.readings + 1, ⟨Nat.le_succ _, Nat.lt_succ_self _⟩,
              lapsed expiry before⟩
  · cases ran
    exact ⟨rfl, .inl ⟨_, rfl, Kept.refl world⟩⟩

end Assertions

/-! ### What follows the recording of an assertion -/

section Issuing

variable {env : Env}

theorem apart_recorded {ε α : Type} {raises : ε → Prop} {program : Program Server ε α}
    {outcome : Except ε α} {world later : World} (uses : Uses (S := Server) Apart raises program)
    (ran : program.run env.interp world = (outcome, later)) : recorded later = recorded world := by
  have kept : recorded (program.run env.interp world).2 = recorded world := by
    apply Uses.run_keeps (fun reached : World => recorded reached = recorded world) _ uses rfl
    intro op reached apart same
    rw [← same]
    rcases op with read | write | act
    · rfl
    · rfl
    · cases act with
      | observeJti name jti ttlSecs => exact apart.elim
      | checkAndInsert jti => exact apart.elim
      | checkInvalidClient clientId =>
          unfold recorded
          simp only [interp_ambient, Ambient.exec]
          split <;> rfl
      | fetchJwks url =>
          unfold recorded
          simp only [interp_ambient, Ambient.exec]
          repeat' split
          all_goals rfl
      | _ => rfl
  rw [ran] at kept
  exact kept

theorem apart_is_active {ε : Type} {raises : ε → Prop} (key : SigningKey) :
    Uses (S := Server) Apart raises (isActive key) := by
  unfold isActive
  split
  · exact uses_pure_raising _ _
  · exact Uses.bind (uses_ambient_raising _ _ trivial) fun _ => trivial

theorem apart_current_for_alg {ε : Type} {raises : ε → Prop} (alg : String)
    (keys : List SigningKey) : Uses (S := Server) Apart raises (currentForAlg alg keys) := by
  induction keys with
  | nil => exact uses_pure_raising _ _
  | cons key rest induction =>
      unfold currentForAlg
      split
      · apply Uses.bind (apart_is_active key)
        intro active
        split
        · exact uses_pure_raising _ _
        · exact induction
      · exact induction

theorem apart_mint_access_token (request : IssueRequest) :
    Uses (S := Server) Apart Any (mintAccessToken env request) := by
  unfold mintAccessToken newClaims accessSigningKey
  split
  · exact uses_ambient _ trivial
  · dsimp only
    apply Uses.bind
    · apply Uses.bind (uses_ambient .now trivial)
      intro now
      exact Uses.bind (uses_ambient .uuid4Hex trivial) fun jti => trivial
    · intro claims
      apply Uses.bind
      · apply Uses.bind (uses_ambient .keys trivial)
        intro keys
        apply Uses.bind (apart_current_for_alg _ keys)
        intro found
        split
        · exact uses_pure _
        · exact apart_current_for_alg _ keys
      · intro key
        split <;> trivial

theorem apart_issue (request : IssueRequest) :
    Uses (S := Server) Apart Any (issue env request) := by
  unfold issue
  apply Uses.bind (uses_ambient (.enterIssue request) trivial)
  intro _
  apply Uses.bind (apart_mint_access_token request)
  intro accessToken
  extract_lets insertion
  have inserts : ∀ refreshToken, Uses (S := Server) Apart Any (insertion refreshToken) := by
    intro refreshToken
    apply Uses.bind (uses_ambient .now trivial)
    intro now
    apply Uses.bind (uses_ambient .uuid4Hex trivial)
    intro id
    apply Uses.bind (uses_ambient .now trivial)
    intro createdAt
    extract_lets row
    apply Uses.bind (uses_command (.saveToken row) trivial)
    intro saved
    cases saved <;> trivial
  split
  · rw [bind_map_left]
    exact Uses.bind (uses_ambient (.tokenUrlsafe 32) trivial) fun _ => inserts _
  · exact inserts none

theorem apart_redeem_assertion (context : Context) (request : Request) (userId : String) :
    Uses (S := Server) Apart (fun _ => True) (redeemAssertion env context request userId) := by
  have narrowed : Uses (S := Server) Apart (fun _ => True)
      (clientScope context.client request.form) := by
    unfold clientScope
    split
    · trivial
    · exact Uses.bind ((uses_reject_if _ _).2 fun _ => trivial) fun _ => trivial
  have answered : ∀ body, Uses (S := Server) Apart (fun _ => True) (success env context body) := by
    intro body
    unfold success issueNonce
    split
    · apply Uses.bind
      · exact Uses.bind (uses_ambient .time trivial) fun _ => trivial
      · intro _
        trivial
    · trivial
  unfold redeemAssertion
  apply Uses.bind narrowed
  intro scope
  apply Uses.bind (quiet_of_except _)
  intro resource
  apply Uses.bind (Uses.mapError (apart_issue _) fun _ _ => trivial)
  intro response
  exact answered _

end Issuing

/-! ### The redemption of an assertion -/

/-- A redemption fails and keeps everything, or its assertion, not recorded before,
is recorded. -/
theorem redemption_cases {env : Env} {assertion : String} {client : Client}
    {world later : World} {outcome : Except Raised String}
    (ran : (redeemJwtBearerAssertion env assertion client).run env.interp world =
      (outcome, later)) :
    (Kept world later ∧ ∃ raised, outcome = .error raised) ∨
      ∃ iss jti, Presents env assertion iss jti ∧
        Unrecorded env world later (jtiKey (guardName iss) jti) ∧
        jtiKey (guardName iss) jti ∈ recorded later := by
  unfold redeemJwtBearerAssertion at ran
  rw [run_bind] at ran
  cases checking : (checkAssertion env assertion client).run env.interp world with
  | mk answer checked =>
  have kept := quiet_kept (quiet_check_assertion assertion client) checking
  rw [checking] at ran
  cases answer with
  | error raised =>
      cases ran
      exact .inl ⟨kept, raised, rfl⟩
  | ok value =>
      obtain ⟨trusted, iss, claims⟩ := value
      obtain ⟨unverified, verified⟩ := checked_assertion checking
      dsimp only at ran
      rw [run_bind] at ran
      cases observing : (enforceReplay iss claims).run env.interp checked with
      | mk answer observed =>
      rw [observing] at ran
      obtain ⟨_, ⟨raised, rfl, swept⟩ | ⟨rfl, jti, named, unrecorded, listed⟩⟩ :=
        enforce_replay_cases observing
      · cases ran
        exact .inl ⟨kept.trans swept, raised, rfl⟩
      · right
        obtain ⟨key, alg, options, now, accepted⟩ := verified
        refine ⟨iss, jti, ⟨unverified, key, alg, options, now, claims, accepted, named⟩, ?_, ?_⟩
        · exact (unrecorded.before checking (readings_grow observing)).after (readings_grow ran)
        · rw [apart_recorded (uses_apart_resolve_subject env trusted claims) ran]
          exact listed

/-! ### What a request makes of its grant -/

/-- The grant a request presents is spent by it. -/
def Spent (env : Env) (request : Request) (world later : World) : Grant → Prop
  | .authorizationCode => ∃ code, request.form.get "code" = some code ∧
      ¬CodeUsed code world ∧ CodeUsed code later
  | .refreshToken => ∃ text, request.form.get "refresh_token" = some text ∧
      RefreshLive text world ∧ RefreshRevoked text later
  | .deviceCode => ∃ deviceCode, request.form.get "device_code" = some deviceCode ∧
      ¬DeviceUsed deviceCode world ∧ DeviceUsed deviceCode later
  | .jwtBearer => ∃ assertion iss jti, request.form.get "assertion" = some assertion ∧
      Presents env assertion iss jti ∧
      Unrecorded env world later (jtiKey (guardName iss) jti) ∧
      jtiKey (guardName iss) jti ∈ recorded later
  | _ => False

/-- The grant a request presents had been spent before. -/
def Replayed (env : Env) (store : Store) (request : Request) (response : Response)
    (later : World) : Grant → Prop
  | .authorizationCode => ReplayedCode env store request response later
  | .refreshToken => ReplayedRefresh env store request response later
  | _ => False

/-- The request is answered with an error. -/
def Refused (outcome : Except Response Response) : Prop :=
  ∃ response, outcome = .error response ∧ response.status ≠ 200

/-- A request is refused and keeps everything, is answered as a replay, or spends
its grant. -/
def Settles (env : Env) (request : Request) (grant : Grant) (world : World)
    (outcome : Except Response Response) (later : World) : Prop :=
  (Kept world later ∧ Refused outcome) ∨
    (∃ response, outcome = .error response ∧
      Replayed env world.store request response later grant) ∨
    Spent env request world later grant

section Settling

variable {env : Env} {request : Request} {context : Context} {world later : World}
  {outcome : Except Response Response}

/-- What the token endpoint raises is never a success. -/
theorem token_refuses {response : Response}
    (ran : (TokenEndpoint.token env request).run env.interp world = (.error response, later)) :
    response.status ≠ 200 := by
  obtain ⟨session, ended, asked⟩ := (Conformance.obeys_token env request).run_along
    (Protocol.protocol_sound env) (fun session _ => session.origin = .token request) (fun _ _ => True)
    (fun session world op _ _ asked => (after_origin _ _ _).trans asked)
    (Program.along_of_forall env.interp (fun _ _ => trivial) _ world) rfl
  rw [ran] at ended
  exact (ended ⟨request, asked⟩).1

/-- What every operation keeps still holds where a program ends. -/
theorem holds_after {program : Handler Response} {holds : World → Prop}
    (keeps : ∀ op reached, holds reached → holds (env.interp op reached).2) (base : holds world)
    (ran : program.run env.interp world = (outcome, later)) : holds later := by
  have kept := run_keeps env.interp holds keeps program base
  rw [ran] at kept
  exact kept

section Refusing

variable (refuses : ∀ response, outcome = .error response → response.status ≠ 200)

include refuses

/-- Checks that spare the grant, and what follows them. -/
theorem settles_after {α : Type} {grant : Grant} {checks : Handler α}
    {rest : α → Handler Response} {post : α → Prop}
    (spares : Spares env world.store
      (fun response later => Replayed env world.store request response later grant) post checks)
    (consumes : ∀ value middle, checks.run env.interp world = (.ok value, middle) →
      Kept world middle → post value →
      (rest value).run env.interp middle = (outcome, later) →
        Settles env request grant world outcome later)
    (ran : (checks >>= rest).run env.interp world = (outcome, later)) :
    Settles env request grant world outcome later := by
  rw [run_bind] at ran
  cases checking : checks.run env.interp world with
  | mk answer middle =>
  have checked := spares world rfl _ _ checking
  rw [checking] at ran
  cases answer with
  | error response =>
      cases ran
      rcases checked with ⟨kept, _⟩ | ⟨_, failed, replayed⟩
      · exact .inl ⟨kept, response, rfl, refuses response rfl⟩
      · cases failed
        exact .inr (.inl ⟨response, rfl, replayed⟩)
  | ok value =>
      rcases checked with ⟨kept, returned⟩ | ⟨_, failed, _⟩
      · exact consumes value middle checking kept (returned value rfl) ran
      · cases failed

theorem authorization_code_settles
    (ran : (authorizationCode env context request).run env.interp world = (outcome, later)) :
    Settles env request .authorizationCode world outcome later := by
  apply settles_after refuses (spares_check_code context request) _ ran
  rintro ⟨row, details⟩ middle - kept ⟨⟨presented, stored⟩, unused⟩ ran
  have member := (Tables.Table.mem_of_first stored).1
  dsimp only at ran presented unused member
  rw [run_command_bind, kept.store] at ran
  split at ran
  · rename_i unclaimed
    have used := (mark_code_eq_zero_iff row.code).1 unclaimed row member rfl
    rw [unused] at used
    cases used
  · rename_i won
    obtain ⟨before, claimed⟩ := @code_claim_won env world row.code won
    refine .inr (.inr ⟨row.code, presented, before, ?_⟩)
    apply holds_after (fun op _ used => code_used_step op used) _ ran
    exact claimed

theorem refresh_token_settles
    (ran : (TokenEndpoint.refreshToken env context request).run env.interp world =
      (outcome, later)) :
    Settles env request .refreshToken world outcome later := by
  apply settles_after refuses (spares_check_refresh context request) _ ran
  rintro rotation middle - kept ⟨⟨text, presented, stored⟩, live⟩ ran
  have alive : RefreshLive text world := ⟨rotation.row, stored, live⟩
  have carries : rotation.row.refreshToken = some text := by
    simpa using (Tables.Table.mem_of_first stored).2
  -- The rotation of a session that has read the row.
  let session : Protocol.Session :=
    { origin := .token request, grounds := some (.refresh rotation.row) }
  have knows : KnowsRefresh text world session := by
    intro row grounds _
    cases grounds
    exact ⟨rotation.row, stored, rfl⟩
  obtain ⟨_, rotated⟩ := @refresh_rotated env world text rotation.row carries session rfl knows
    alive
  have family : ∀ {answer : Except Response String} {reached : World},
      (familyOf rotation.row).run env.interp middle = (answer, reached) →
        reached.store = world.store ∧ ∃ family, answer = .ok family := by
    intro answer reached running
    unfold familyOf at running
    split at running
    · cases running
      exact ⟨kept.store, _, rfl⟩
    · cases running
      exact ⟨kept.store, _, rfl⟩
  rw [run_bind] at ran
  cases naming : (familyOf rotation.row : Handler String).run env.interp middle with
  | mk answer reached =>
  obtain ⟨same, name, rfl⟩ := family naming
  rw [naming] at ran
  dsimp only at ran
  rw [run_command_bind, same] at ran
  refine .inr (.inr ⟨text, presented, alive, ?_⟩)
  apply holds_after (fun op _ revoked => refresh_revoked_step op revoked) _ ran
  exact rotated

theorem device_code_settles
    (ran : (TokenEndpoint.deviceCode env context request).run env.interp world =
      (outcome, later)) :
    Settles env request .deviceCode world outcome later := by
  apply settles_after refuses (spares_check_device context request) _ ran
  rintro ⟨row, resource⟩ middle - kept ⟨⟨presented, stored⟩, unused⟩ ran
  have member := (Tables.Table.mem_of_first stored).1
  dsimp only at ran presented unused member
  rw [run_command_bind, kept.store] at ran
  split at ran
  · rename_i unclaimed
    have used := (mark_device_eq_zero_iff row.deviceCode).1 unclaimed row member rfl
    rw [unused] at used
    cases used
  · rename_i won
    obtain ⟨before, claimed⟩ := @device_claim_won env world row.deviceCode won
    refine .inr (.inr ⟨row.deviceCode, presented, before, ?_⟩)
    apply holds_after (fun op _ used => device_used_step op used) _ ran
    exact claimed

theorem jwt_bearer_settles
    (ran : (jwtBearer env context request).run env.interp world = (outcome, later)) :
    Settles env request .jwtBearer world outcome later := by
  apply settles_after refuses (spares_presented_assertion context request) _ ran
  intro assertion middle checking kept presented ran
  rw [run_bind, TokenEndpoint.call, run_map_error] at ran
  cases redeeming : (redeemJwtBearerAssertion env assertion context.client).run env.interp
      middle with
  | mk answer redeemed =>
  rw [redeeming] at ran
  rcases redemption_cases redeeming with ⟨spared, raised, rfl⟩ |
    ⟨iss, jti, presents, unrecorded, listed⟩
  · cases ran
    exact .inl ⟨kept.trans spared, _, rfl, refuses _ rfl⟩
  · have earlier := unrecorded.before checking (readings_grow redeeming)
    refine .inr (.inr ⟨assertion, iss, jti, presented, presents, ?_⟩)
    cases answer with
    | error raised =>
        cases ran
        exact ⟨earlier, listed⟩
    | ok userId =>
        refine ⟨earlier.after (readings_grow ran), ?_⟩
        rw [apart_recorded (apart_redeem_assertion context request userId) ran]
        exact listed

end Refusing

/-- What precedes the grant in a request keeps everything, so it does not matter. -/
theorem settles_of_kept {grant : Grant} {middle : World} (kept : Kept world middle)
    {answer : Except Response Context}
    (entering : (preGrant env request).run env.interp world = (answer, middle))
    (onward : middle.process.readings ≤ later.process.readings)
    (settles : Settles env request grant middle outcome later) :
    Settles env request grant world outcome later := by
  rcases settles with ⟨spared, refused⟩ | ⟨response, failed, replayed⟩ | spent
  · exact .inl ⟨kept.trans spared, refused⟩
  · rw [kept.store] at replayed
    exact .inr (.inl ⟨response, failed, replayed⟩)
  · right
    right
    cases grant with
    | authorizationCode =>
        obtain ⟨code, presented, unused, used⟩ := spent
        refine ⟨code, presented, ?_, used⟩
        unfold CodeUsed at unused ⊢
        rwa [kept.store] at unused
    | refreshToken =>
        obtain ⟨text, presented, live, revoked⟩ := spent
        refine ⟨text, presented, ?_, revoked⟩
        unfold RefreshLive refreshRow at live ⊢
        rwa [kept.store] at live
    | deviceCode =>
        obtain ⟨deviceCode, presented, unused, used⟩ := spent
        refine ⟨deviceCode, presented, ?_, used⟩
        unfold DeviceUsed at unused ⊢
        rwa [kept.store] at unused
    | jwtBearer =>
        obtain ⟨assertion, iss, jti, presented, presents, unrecorded, listed⟩ := spent
        exact ⟨assertion, iss, jti, presented, presents, unrecorded.before entering onward, listed⟩
    | clientCredentials => exact spent.elim
    | tokenExchange => exact spent.elim

/-- For every request of the four grants that are spent, whatever its answer: it is
refused, leaves the store as it was and records no assertion but a client's own; or
it is refused for a grant that had been spent before, and revokes that grant's
family; or it has spent its grant, which nobody had spent before. Nothing is issued to
a grant that can still be presented. -/
theorem grant_settled (env : Env) (request : Request) (grant : Grant) (world later : World)
    (outcome : Except Response Response)
    (named : (request.form.get "grant_type").bind Grant.parse = some grant)
    (spendable : grant ∈ [.authorizationCode, .refreshToken, .deviceCode, .jwtBearer])
    (ran : (TokenEndpoint.token env request).run env.interp world = (outcome, later)) :
    Settles env request grant world outcome later := by
  obtain ⟨text, presented, parsed⟩ := Option.bind_eq_some_iff.1 named
  have asked : ∀ answer : Except Response Grant, ∀ middle,
      (requestedGrant request).run env.interp world = (answer, middle) →
        middle = world ∧ ∀ asked, answer = .ok asked → asked = grant := by
    intro answer middle running
    unfold requestedGrant at running
    split at running
    · cases running
      exact ⟨rfl, fun _ same => by cases same⟩
    · rename_i name nonempty
      have same : name = text := by
        have found := (Option.filter_eq_some_iff.1 nonempty).1
        rw [presented] at found
        exact (Option.some.inj found).symm
      rw [same, parsed] at running
      cases running
      exact ⟨rfl, fun _ same => (Except.ok.inj same).symm⟩
  have refuses : ∀ response, outcome = .error response → response.status ≠ 200 := by
    intro response failed
    rw [failed] at ran
    exact token_refuses ran
  unfold TokenEndpoint.token at ran
  rw [run_bind] at ran
  cases asking : (requestedGrant request).run env.interp world with
  | mk answer middle =>
  obtain ⟨rfl, chosen⟩ := asked _ _ asking
  rw [asking] at ran
  cases answer with
  | error response =>
      cases ran
      exact .inl ⟨Kept.refl _, response, rfl, refuses response rfl⟩
  | ok value =>
      cases chosen value rfl
      dsimp only at ran
      rw [run_bind] at ran
      cases entering : (preGrant env request).run env.interp middle with
      | mk answer entered =>
      have kept := pre_grant_kept entering
      rw [entering] at ran
      cases answer with
      | error response =>
          cases ran
          exact .inl ⟨kept, response, rfl, refuses response rfl⟩
      | ok context =>
          apply settles_of_kept kept entering (readings_grow ran)
          cases grant with
          | authorizationCode => exact authorization_code_settles refuses ran
          | refreshToken => exact refresh_token_settles refuses ran
          | deviceCode => exact device_code_settles refuses ran
          | jwtBearer => exact jwt_bearer_settles refuses ran
          | clientCredentials => simp at spendable
          | tokenExchange => simp at spendable

end Settling

/-- The sample refresh asking for more than its token was granted. -/
def sampleOverreach : Request where
  form := [("grant_type", "refresh_token"), ("client_id", "app"), ("refresh_token", "refresh"),
    ("scope", "read admin")]

theorem overreach_settled :
    let ran := (TokenEndpoint.token sampleEnv sampleOverreach).run sampleEnv.interp sampleTokenWorld
    ran.1.isOk = false ∧
      Settles sampleEnv sampleOverreach .refreshToken sampleTokenWorld ran.1 ran.2 := by
  intro ran
  refine ⟨by decide +kernel, ?_⟩
  exact grant_settled sampleEnv sampleOverreach .refreshToken sampleTokenWorld ran.2 ran.1
    rfl (by decide) Prod.mk.eta.symm

end OAuth2Server.UnspentGrants
