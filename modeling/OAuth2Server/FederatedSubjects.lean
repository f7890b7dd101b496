import OAuth2Server.Interleaving
import OAuth2Server.ReplayGuards

/-!
# The local user behind a federated subject

A redeemed assertion of an issuer that does not map by email stands for the local
user whose id is its `sub`: one who was there before, or one who was provisioned
on first use. The issuer is not part of the identity.
-/

namespace OAuth2Server.FederatedSubjects

open OAuth2Server Models JsonText Storage Effects Interaction Interaction.Program
open Interleaving ClientAuth JwtBearer Footprints Runs ReferenceJwt ReplayGuards

set_option autoImplicit false

variable {env : Env}

/-- A row as `_resolve_subject` creates it. -/
structure Provisioned (user : User) : Prop where
  named : user.username = user.id
  enabled : user.enabled = true
  role : user.role = "user"

/-- What a redemption has read: its issuer's row, and the id of a stored user. -/
structure Redemption where
  assertion : String
  issuer : Option TrustedIssuer := none
  seen : Option String := none

/-- A redemption reads, provisions, and does nothing else to the store. -/
def federation : Contract Server Redemption where
  allowed
    | _, .query _ => True
    | _, .ambient _ => True
    | _, .command (.saveUser user) => Provisioned user
    | _, .command _ => False
  possible
    | .query (.getUserById userId), answer => ∀ user, answer = some user → user.id = userId
    | _, _ => True
  after
    | state, .query (.getTrustedIssuer _), answer =>
        { state with issuer := state.issuer <|> answer }
    | state, .query (.getUserById _), some user => { state with seen := some user.id }
    | state, .command (.saveUser user), .ok () => { state with seen := some user.id }
    | state, _, _ => state

theorem federation_sound (env : Env) : federation.Sound env.interp := by
  intro op world
  rcases op with read | write | act
  · cases read with
    | getUserById userId =>
        intro user found
        simpa using List.find?_some found
    | _ => trivial
  · trivial
  · trivial

theorem calm_aside {state : Redemption} (known : state.issuer.isSome = true) (op : Op)
    (calm : Calm op) :
    federation.allowed state op ∧ ∀ answer, federation.after state op answer = state := by
  obtain ⟨trusted, found⟩ := Option.isSome_iff_exists.1 known
  rcases op with read | write | act
  · cases read with
    | getTrustedIssuer issuer =>
        refine ⟨trivial, fun answer => ?_⟩
        obtain ⟨assertion, issuer, seen⟩ := state
        cases found
        rfl
    | findDenylistEntry kind value => exact ⟨trivial, fun _ => rfl⟩
    | _ => exact absurd calm id
  · exact absurd calm id
  · exact ⟨trivial, fun _ => rfl⟩

/-- A value is returned with `good`; an exception promises nothing. -/
def Ends {α : Type} (good : Redemption → α → Prop) : Redemption → Except Raised α → Prop
  | state, .ok value => good state value
  | _, .error _ => True

section Rules

variable {α β : Type} {good : Redemption → α → Prop} {state : Redemption}

theorem ends_raise_if {condition : Bool} {error description : String} {rest : Unit → Service α}
    (later : condition = false → Obeys federation (Ends good) state (rest ())) :
    Obeys federation (Ends good) state (raiseIf condition error description >>= rest) := by
  cases condition with
  | true => trivial
  | false => exact later rfl

theorem ends_of_except (outcome : Except Raised β) {rest : β → Service α}
    (later : ∀ value, outcome = .ok value → Obeys federation (Ends good) state (rest value)) :
    Obeys federation (Ends good) state (Program.ofExcept outcome >>= rest) := by
  cases outcome with
  | error raised => trivial
  | ok value => exact later value rfl

theorem ends_calm {middle : β → Prop} {program : Service β} {rest : β → Service α}
    (known : state.issuer.isSome = true) (uses : Uses (S := Server) Calm Any program)
    (yields : Yields middle program)
    (later : ∀ value, middle value → Obeys federation (Ends good) state (rest value)) :
    Obeys federation (Ends good) state (program >>= rest) :=
  uses.obeys_bind_yields (calm_aside known) yields (fun _ _ => trivial) later

theorem ends_after_calm {program : Service β} {rest : β → Service α}
    (known : state.issuer.isSome = true) (uses : Uses (S := Server) Calm Any program)
    (later : ∀ value, Obeys federation (Ends good) state (rest value)) :
    Obeys federation (Ends good) state (program >>= rest) :=
  ends_calm known uses (yields_any program) fun value _ => later value

end Rules

/-! ### One redemption -/

theorem verified_claims (payload : ReturnsPayload env.platform.jwt) (assertion : String)
    (trusted : TrustedIssuer) (header : List (String × Json)) :
    Yields (fun claims => env.platform.jwt.unverifiedClaims assertion = some claims)
      (verifyAssertion env assertion trusted header) := by
  unfold verifyAssertion
  split
  · apply yields_bind
    intro fetched
    cases fetched with
    | error description => cases description <;> trivial
    | ok document =>
        apply yields_bind
        intro jwks
        apply yields_bind
        intro key
        split
        · apply yields_bind
          intro now
          split
          · rename_i claims accepted
            exact payload.payload _ _ _ _ _ _ accepted
          · trivial
          · trivial
        · trivial
  · trivial

/-- A checked assertion comes with its issuer's row and its own claims. -/
def Checked (env : Env) (state : Redemption)
    (checked : TrustedIssuer × String × List (String × Json)) : Prop :=
  state.issuer = some checked.1 ∧
    env.platform.jwt.unverifiedClaims state.assertion = some checked.2.2

theorem ends_check_assertion (payload : ReturnsPayload env.platform.jwt) (assertion : String)
    (client : Client) :
    Obeys federation (Ends (Checked env)) { assertion := assertion }
      (checkAssertion env assertion client) := by
  unfold checkAssertion
  apply ends_of_except
  intro unverified _
  refine ⟨trivial, fun found _ => ?_⟩
  cases found with
  | none => trivial
  | some trusted =>
      apply ends_raise_if
      intro _
      split
      · apply ends_raise_if
        intro _
        apply ends_raise_if
        intro _
        apply ends_calm rfl (uses_verify_assertion env assertion _ _)
          (verified_claims payload assertion _ _)
        intro claims same
        apply ends_of_except
        intro iat _
        refine ⟨trivial, fun time _ => ?_⟩
        apply ends_raise_if
        intro _
        exact ⟨rfl, same⟩
      · trivial

/-- The user a redemption resolves to is a stored one, under the `sub` of the
assertion, unless the issuer maps by email. -/
def Resolved (env : Env) (trusted : TrustedIssuer) (state : Redemption) (userId : String) : Prop :=
  state.issuer = some trusted ∧
    (trusted.subjectMapping ≠ "email" →
      state.seen = some userId ∧ claimed env state.assertion "sub" = some userId)

theorem ends_account {trusted : TrustedIssuer} {state : Redemption} {user : User}
    (issuer : state.issuer = some trusted)
    (resolved : trusted.subjectMapping ≠ "email" →
      state.seen = some user.id ∧ claimed env state.assertion "sub" = some user.id) :
    Obeys federation (Ends (Resolved env trusted)) state
      (do
        raiseIf (!user.enabled) "invalid_grant" "subject user is disabled"
        rejectIfDenylisted user.username user.email
        pure user.id) := by
  apply ends_raise_if
  intro _
  apply ends_after_calm (by rw [issuer]; rfl) (uses_reject_if_denylisted _ _)
  intro _
  exact ⟨issuer, resolved⟩

theorem ends_provision {trusted : TrustedIssuer} {claims : List (String × Json)} {sub : String}
    {state : Redemption} (issuer : state.issuer = some trusted)
    (subject : claimed env state.assertion "sub" = some sub) :
    Obeys federation (Ends (Resolved env trusted)) state (provision sub claims) := by
  unfold provision
  apply ends_after_calm (by rw [issuer]; rfl) (uses_reject_if_denylisted _ _)
  intro _
  refine ⟨trivial, fun now _ => ⟨trivial, fun secret _ => ⟨trivial, fun passwordHash _ => ?_⟩⟩⟩
  refine ⟨⟨rfl, rfl, rfl⟩, fun answer _ => ?_⟩
  cases answer with
  | ok saved => exact ⟨issuer, fun _ => ⟨rfl, subject⟩⟩
  | error failure =>
      refine ⟨trivial, fun answer possible => ?_⟩
      cases answer with
      | none => trivial
      | some raced =>
          apply ends_account
          · exact issuer
          · intro _
            refine ⟨rfl, ?_⟩
            rw [possible raced rfl]
            exact subject

theorem ends_resolve_subject {trusted : TrustedIssuer} {state : Redemption}
    (issuer : state.issuer = some trusted) {claims : List (String × Json)}
    (own : env.platform.jwt.unverifiedClaims state.assertion = some claims) :
    Obeys federation (Ends (Resolved env trusted)) state
      (resolveSubject env trusted claims) := by
  unfold resolveSubject
  split
  case h_2 => trivial
  rename_i sub named
  have subject : claimed env state.assertion "sub" = some sub := by
    unfold claimed
    rw [own]
    exact (Option.filter_eq_some_iff.1 named).1
  extract_lets byEmail decision
  have decides : ∀ (reached : Redemption) (existing : Option User), reached.issuer = some trusted →
      reached.assertion = state.assertion →
      (∀ user, existing = some user → trusted.subjectMapping ≠ "email" →
        reached.seen = some user.id ∧ user.id = sub) →
      Obeys federation (Ends (Resolved env trusted)) reached (decision existing) := by
    intro reached existing issuer same resolved
    rw [← same] at subject
    cases existing with
    | some user =>
        apply ends_account issuer
        intro mapping
        obtain ⟨seen, named⟩ := resolved user rfl mapping
        rw [named] at seen ⊢
        exact ⟨seen, subject⟩
    | none =>
        apply ends_raise_if
        intro _
        apply ends_raise_if
        intro _
        exact ends_provision issuer subject
  split
  · rename_i mapped
    have same : trusted.subjectMapping = "email" := by simpa [byEmail] using mapped
    unfold accountByEmail
    extract_lets email
    simp only [bind_assoc]
    apply ends_raise_if
    intro _
    apply ends_raise_if
    intro _
    refine ⟨trivial, fun candidates _ => ?_⟩
    apply ends_raise_if
    intro _
    exact decides _ _ issuer rfl fun user _ other => absurd same other
  · refine ⟨trivial, fun answer possible => ?_⟩
    apply decides _ answer
    · cases answer <;> exact issuer
    · cases answer <;> rfl
    · intro user found _
      subst found
      exact ⟨rfl, possible user rfl⟩

/-- What a redemption returns. -/
def Redeems (env : Env) (state : Redemption) (userId : String) : Prop :=
  ∃ trusted, state.issuer = some trusted ∧ (trusted.subjectMapping ≠ "email" →
    state.seen = some userId ∧ claimed env state.assertion "sub" = some userId)

theorem ends_redeem (payload : ReturnsPayload env.platform.jwt) (assertion : String)
    (client : Client) :
    Obeys federation (Ends (Redeems env)) { assertion := assertion }
      (redeemJwtBearerAssertion env assertion client) := by
  unfold redeemJwtBearerAssertion
  rw [obeys_bind]
  apply (ends_check_assertion payload assertion client).mono
  intro state outcome ends
  cases outcome with
  | error raised => trivial
  | ok checked =>
      obtain ⟨trusted, iss, claims⟩ := checked
      obtain ⟨issuer, same⟩ := ends
      apply ends_after_calm (by rw [issuer]; rfl) (uses_enforce_replay iss claims)
      intro _
      apply (ends_resolve_subject issuer same).mono
      intro reached outcome resolved
      cases outcome with
      | error raised => trivial
      | ok userId => exact ⟨trusted, resolved⟩

/-! ### Concurrent redemptions -/

section Runs

variable {ι : Type} [DecidableEq ι]

/-- Redemptions at work on one store; `schedule` says who moves when. -/
def redeeming (env : Env) (world : World) (redemptions : ι → String × Client)
    (schedule : List ι) : Pool Server World Raised String ι :=
  Pool.exec env.interp
    (Pool.start world fun thread =>
      redeemJwtBearerAssertion env (redemptions thread).1 (redemptions thread).2) schedule

/-- What redemptions leave in the store, and what they know of it. -/
structure Federated (start : World) (world : World) (states : ι → Redemption) : Prop where
  issuers : world.store.trustedIssuers = start.store.trustedIssuers
  kept : ∀ user ∈ start.store.users, user ∈ world.store.users
  users : ∀ user ∈ world.store.users, user ∈ start.store.users ∨ Provisioned user
  read : ∀ thread trusted, (states thread).issuer = some trusted →
    trusted ∈ start.store.trustedIssuers
  seen : ∀ thread userId, (states thread).seen = some userId →
    ∃ user ∈ world.store.users, user.id = userId

variable {start world : World} {states : ι → Redemption} {thread : ι}

/-- A move of one redemption that leaves the store alone. -/
theorem Federated.observe (federated : Federated start world states) {later : World}
    (store : later.store = world.store) {state : Redemption}
    (read : ∀ trusted, state.issuer = some trusted → (states thread).issuer = some trusted ∨
      trusted ∈ world.store.trustedIssuers)
    (seen : ∀ userId, state.seen = some userId → (states thread).seen = some userId ∨
      ∃ user ∈ world.store.users, user.id = userId) :
    Federated start later (Function.update states thread state) := by
  obtain ⟨issuers, kept, users, known, stored⟩ := federated
  constructor
  · rw [store]
    exact issuers
  · rw [store]
    exact kept
  · rw [store]
    exact users
  · intro other trusted reads
    by_cases same : other = thread
    · subst same
      rw [Function.update_self] at reads
      rcases read trusted reads with before | present
      · exact known other trusted before
      · rw [← issuers]
        exact present
    · rw [Function.update_of_ne same] at reads
      exact known other trusted reads
  · rw [store]
    intro other userId sees
    by_cases same : other = thread
    · subst same
      rw [Function.update_self] at sees
      rcases seen userId sees with before | present
      · exact stored other userId before
      · exact present
    · rw [Function.update_of_ne same] at sees
      exact stored other userId sees

/-- A provisioned row joins the users. -/
theorem Federated.provision (federated : Federated start world states) {later : World}
    {user : User} (provisioned : Provisioned user)
    (issuers : later.store.trustedIssuers = world.store.trustedIssuers)
    (users : later.store.users = world.store.users ++ [user]) :
    Federated start later
      (Function.update states thread { states thread with seen := some user.id }) := by
  obtain ⟨same, kept, before, known, stored⟩ := federated
  constructor
  · exact issuers.trans same
  · intro row member
    simp [users, kept row member]
  · intro row member
    rw [users, List.mem_append, List.mem_singleton] at member
    rcases member with present | rfl
    · exact before row present
    · exact Or.inr provisioned
  · intro other trusted reads
    by_cases mine : other = thread
    · subst mine
      rw [Function.update_self] at reads
      exact known other trusted reads
    · rw [Function.update_of_ne mine] at reads
      exact known other trusted reads
  · intro other userId sees
    by_cases mine : other = thread
    · subst mine
      rw [Function.update_self] at sees
      cases sees
      exact ⟨user, by simp [users], rfl⟩
    · rw [Function.update_of_ne mine] at sees
      obtain ⟨row, present, named⟩ := stored other userId sees
      exact ⟨row, by simp [users, present], named⟩

theorem federated_step (op : Op) (permitted : federation.allowed (states thread) op)
    (federated : Federated start world states) :
    Federated start (env.interp op world).2 (Function.update states thread
      (federation.after (states thread) op (env.interp op world).1)) := by
  have unseen : Federated start world (Function.update states thread (states thread)) :=
    federated.observe rfl (fun _ => Or.inl) (fun _ => Or.inl)
  rcases op with read | write | act
  · cases read with
    | getTrustedIssuer issuer =>
        apply federated.observe rfl
        · intro trusted reads
          cases before : (states thread).issuer with
          | none =>
              have found : Query.eval env.backend world.store (.getTrustedIssuer issuer) =
                  some trusted := by
                simpa [federation, before] using reads
              exact Or.inr (List.mem_of_find?_eq_some found)
          | some earlier =>
              have same : earlier = trusted := by simpa [federation, before] using reads
              exact Or.inl (by rw [same])
        · exact fun userId sees => Or.inl sees
    | getUserById userId =>
        cases found : Query.eval env.backend world.store (.getUserById userId) with
        | none =>
            simp only [interp_query, found]
            exact unseen
        | some user =>
            simp only [interp_query, found]
            apply federated.observe rfl
            · exact fun trusted reads => Or.inl reads
            · intro seenId sees
              cases sees
              exact Or.inr ⟨user, List.mem_of_find?_eq_some found, rfl⟩
    | _ => exact unseen
  · cases write with
    | saveUser user =>
        simp only [interp_command, Command.exec]
        split
        · exact unseen
        · exact federated.provision permitted rfl rfl
    | _ => exact absurd permitted id
  · apply federated.observe
    · rfl
    · exact fun _ => Or.inl
    · exact fun _ => Or.inl

/-- The assertion of a redemption, before it has read anything. -/
def presentedBy (redemptions : ι → String × Client) (thread : ι) : Redemption where
  assertion := (redemptions thread).1

omit [DecidableEq ι] in
theorem track_assertion (state : Redemption) (history : List (Event Server)) :
    (Pool.track federation state history).assertion = state.assertion := by
  have kept : ∀ (state : Redemption) (op : Op) (answer : op.Ans),
      (federation.after state op answer).assertion = state.assertion := by
    intro state op answer
    simp only [federation]
    split <;> rfl
  unfold Pool.track
  induction history generalizing state with
  | nil => rfl
  | cons event history induction =>
      rw [List.foldl_cons, induction]
      exact kept state event.op event.answer

/-- What a finished redemption knows, and what it has left. -/
theorem redeemed (payload : ReturnsPayload env.platform.jwt) (redemptions : ι → String × Client)
    (schedule : List ι)
    (mapping : ∀ issuer ∈ world.store.trustedIssuers, issuer.subjectMapping ≠ "email")
    {user : String}
    (done : (redeeming env world redemptions schedule).rest thread = .done user) :
    claimed env (redemptions thread).1 "sub" = some user ∧
      ∃ row ∈ (redeeming env world redemptions schedule).world.store.users,
        row.id = user ∧ (row ∈ world.store.users ∨ Provisioned row) := by
  have start : Pool.Following federation (Ends (Redeems env)) (presentedBy redemptions)
      (Pool.start world fun thread =>
        redeemJwtBearerAssertion env (redemptions thread).1 (redemptions thread).2) :=
    Pool.following_start fun thread =>
      ends_redeem payload (redemptions thread).1 (redemptions thread).2
  have first : Federated world world (presentedBy redemptions) :=
    ⟨rfl, fun _ => id, fun _ => Or.inl, fun _ _ => nofun, fun _ _ => nofun⟩
  have federated := Pool.exec_invariant (federation_sound env)
    (fun later states => Federated world later states) (fun _ _ => True)
    (fun pool thread op _ _ permitted federated => federated_step op permitted federated)
    start first schedule (Pool.along_of_forall _ (fun _ _ => trivial) _ _)
  have ended := start.exec (federation_sound env) schedule thread
  unfold redeeming at done ⊢
  rw [done] at ended
  obtain ⟨trusted, reads, resolved⟩ := ended
  obtain ⟨seen, subject⟩ := resolved (mapping trusted (federated.read thread trusted reads))
  obtain ⟨row, present, named⟩ := federated.seen thread user seen
  unfold Pool.phase at subject
  rw [track_assertion] at subject
  exact ⟨subject, row, present, named, federated.users row present⟩

/-- Concurrent redemptions of assertions whose issuers do not map by email: each
resolves to the local user whose id is its `sub`, so two resolve to the same user
if and only if their `sub` claims are equal, whatever their issuers; the user was
there before or has been provisioned. -/
theorem subjects_resolve_by_sub (env : Env) (payload : ReturnsPayload env.platform.jwt)
    (world : World) (redemptions : ι → String × Client) (schedule : List ι)
    (mapping : ∀ issuer ∈ world.store.trustedIssuers, issuer.subjectMapping ≠ "email")
    (left right : ι) (user other : String)
    (leftDone : (redeeming env world redemptions schedule).rest left = .done user)
    (rightDone : (redeeming env world redemptions schedule).rest right = .done other) :
    claimed env (redemptions left).1 "sub" = some user ∧
      (user = other ↔
        claimed env (redemptions left).1 "sub" = claimed env (redemptions right).1 "sub") ∧
      ∃ row ∈ (redeeming env world redemptions schedule).world.store.users,
        row.id = user ∧ (row ∈ world.store.users ∨ Provisioned row) := by
  obtain ⟨leftSub, row⟩ := redeemed payload redemptions schedule mapping leftDone
  obtain ⟨rightSub, _⟩ := redeemed payload redemptions schedule mapping rightDone
  refine ⟨leftSub, ?_, row⟩
  rw [leftSub, rightSub, Option.some.injEq]

end Runs

/-! ### Two issuers, one subject -/

def issuerNamed (name : String) : TrustedIssuer :=
  { trustedIssuer with id := name, issuer := name, jitProvision := true }

def subjectAssertion (issuer jti : String) : String :=
  sign (.obj (joseHeader "RS256" []))
    (.obj [("iss", .str issuer), ("sub", .str "alice"), ("aud", .str "s"), ("iat", .int 0),
      ("exp", .int 300), ("jti", .str jti)])
    (verifyKeyJson (.jwk "RSA" issuerKey))

def twoIssuers : World where
  store := { sampleStore with trustedIssuers := [issuerNamed "i", issuerNamed "j"] }
  process := sampleProcess

/-- Each issuer asserts the same subject. -/
def bothRedeem (second : Bool) : String × Client :=
  (if second then subjectAssertion "j" "n" else subjectAssertion "i" "m", sampleClient)

/-- The first redemption runs to its end, then the second. -/
def oneAfterTheOther : List Bool := List.replicate 20 false ++ List.replicate 20 true

/-- The user a finished redemption resolved to. -/
def resolvedUser (program : Service String) : Option String :=
  match program with
  | .done user => some user
  | _ => none

theorem done_of_resolved {program : Service String} {user : String}
    (resolved : resolvedUser program = some user) : program = .done user := by
  cases program <;> cases resolved
  rfl

theorem both_resolve (second : Bool) :
    (redeeming issuerEnv twoIssuers bothRedeem oneAfterTheOther).rest second = .done "alice" := by
  apply done_of_resolved
  revert second
  decide +kernel

theorem neither_maps_by_email :
    ∀ issuer ∈ twoIssuers.store.trustedIssuers, issuer.subjectMapping ≠ "email" := by
  decide

/-- Two assertions of one subject, each by an issuer of its own, stand for the user
that the first of them provisioned. -/
theorem one_subject_one_user :
    ∃ row ∈ (redeeming issuerEnv twoIssuers bothRedeem oneAfterTheOther).world.store.users,
      row.id = "alice" ∧ Provisioned row := by
  obtain ⟨_, _, row, present, named, known⟩ := subjects_resolve_by_sub issuerEnv
    checks_expiry.toReturnsPayload twoIssuers bothRedeem oneAfterTheOther neither_maps_by_email
    false true "alice" "alice" (both_resolve false) (both_resolve true)
  rcases known with before | provisioned
  · cases before
  · exact ⟨row, present, named, provisioned⟩

/-- The issuers differ, and the provisioned user is the same. -/
theorem issuers_share_a_user :
    ¬∀ (env : Env) (world : World) (redemptions : Bool → String × Client) (schedule : List Bool)
      (left right : Bool) (user : String), ReturnsPayload env.platform.jwt →
        (∀ issuer ∈ world.store.trustedIssuers,
          issuer.subjectMapping ≠ "email" ∧ issuer.jitProvision = true) →
        (∀ row ∈ world.store.users, row.id ≠ user) →
        (redeeming env world redemptions schedule).rest left = .done user →
        (redeeming env world redemptions schedule).rest right = .done user →
          claimed env (redemptions left).1 "iss" = claimed env (redemptions right).1 "iss" ∧
            claimed env (redemptions left).1 "sub" = claimed env (redemptions right).1 "sub" := by
  intro apart
  have same := (apart issuerEnv twoIssuers bothRedeem oneAfterTheOther false true "alice"
    checks_expiry.toReturnsPayload (by decide) (by decide) (both_resolve false)
    (both_resolve true)).1
  have differs : claimed issuerEnv (bothRedeem false).1 "iss" ≠
      claimed issuerEnv (bothRedeem true).1 "iss" := by
    decide +kernel
  exact differs same

end OAuth2Server.FederatedSubjects
