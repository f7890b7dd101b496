import OAuth2Server.FrontChannel
import OAuth2Server.ClientIdentity
import Mathlib.Data.Int.ConditionallyCompleteOrder
import Mathlib.Order.Monotone.Basic

/-!
# Who gets a login session

A password login looks at the account's flag and at the denylist before it
writes the session. A social callback looks at the flag where it links by
address and nowhere else: an account that has a row under the provider's name
is logged in as it is, and a linked or new account is never looked up in the
denylist. The callback is safe exactly when the account it ends at is not
blocked by then.
-/

namespace OAuth2Server.LoginGate

open OAuth2Server Models Tables JsonText Storage Effects Interaction Interaction.Program
open ClientAuth Endpoints FrontChannel ClientIdentity Runs

set_option autoImplicit false

/-! ### Blocked accounts -/

/-- `find_denylist_entry` sees the entry at this time. -/
def activeAt (now : Instant) (entry : DenylistEntry) : Bool :=
  match entry.expiresAt with
  | none => true
  | some expiresAt => decide (now < expiresAt)

def denylisted (env : Env) (store : Store) (now : Instant) (kind value : String) : Bool :=
  value != "" && ((Query.findDenylistEntry kind value).eval env.backend store).any (activeAt now)

/-- An entry names the account, by username or by email. -/
def listed (env : Env) (store : Store) (now : Instant) (username email : String) : Bool :=
  denylisted env store now "username" username || denylisted env store now "email" email

def blocked (env : Env) (store : Store) (now : Instant) (user : User) : Bool :=
  !user.enabled || listed env store now user.username user.email

/-- The time a reading of the wall clock would give. -/
def instant (front : FrontEnv) (state : FrontWorld) : Instant :=
  front.env.platform.clock state.world.process.readings

/-- A session is written for a stored account that is not blocked at that time. -/
def Admissible (front : FrontEnv) (state : FrontWorld) : FrontOp → Prop
  | .setLogin user _ _ => user ∈ state.world.store.users ∧
      blocked front.env state.world.store (instant front state) user = false
  | _ => True

instance (front : FrontEnv) (state : FrontWorld) : ∀ op, Decidable (Admissible front state op)
  | .setLogin _ _ _ => inferInstanceAs (Decidable (_ ∧ _))
  | .server _ | .session | .setReturnTo _ | .checkLogin _ | .resetLogin _ | .takePar _
  | .storePar _ _ | .breakerAllow _ | .breakerSuccess _ | .breakerFailure _
  | .exchangeCode _ _ _ | .fetchUserinfo _ _ => isTrue trivial

inductive SignIn where
  | password (request : LoginRequest)
  | callback (request : CallbackRequest)

def SignIn.program (front : FrontEnv) : SignIn → FrontHandler Response
  | .password request => login front request
  | .callback request => socialCallback front request

/-- Whether the store refuses the id drawn for a new account. -/
def idRefused (env : Env) (world : World) : Bool :=
  env.backend == .sql &&
    world.store.users.any (·.id == env.platform.random (world.process.draws + 2))

/-- The account the provider's user has, or would get, is not blocked: the row
under the provider's name, else the row linked by its verified address, else a
new one. A new account is stamped by the clock before the session is. -/
def unblockedAccount (front : FrontEnv) (reached : FrontWorld) (userinfo : SocialUserInfo) : Bool :=
  let env := front.env
  let world := reached.world
  let name := userinfo.provider ++ ":" ++ userinfo.providerUserId
  match (Query.getUserByUsername name).eval env.backend world.store with
  | some row => !blocked env world.store (instant front reached) row
  | none =>
      match ((linkByVerifiedEmail env userinfo).run env.interp world).1 with
      | .ok (some row) => !listed env world.store (instant front reached) row.username row.email
      | _ => idRefused env world ||
          !listed env world.store (instant front reached.read) name userinfo.email

/-- Every password login; and every callback whose provider vouches for nobody,
or for a user whose account is not blocked. -/
def spared (front : FrontEnv) (state : FrontWorld) : SignIn → Bool
  | .password _ => true
  | .callback request =>
      match (vouchedFor front request).run front.interp state with
      | (.ok userinfo, reached) =>
          unblockedAccount front reached { userinfo with provider := request.provider }
      | (.error _, _) => true

variable {front : FrontEnv} {state : FrontWorld}

/-! ### Programs that write no session -/

/-- Operations that log nobody in. -/
def Quiet : FrontOp → Prop
  | .setLogin _ _ _ => False
  | _ => True

theorem admissible_of_quiet (state : FrontWorld) (op : FrontOp) (quiet : Quiet op) :
    Admissible front state op := by
  cases op with
  | setLogin user acr amr => exact quiet.elim
  | _ => trivial

theorem quiet_perform {ε : Type} (op : FrontOp) (quiet : Quiet op) :
    Uses (S := Front) Quiet (fun _ => True) (perform op : Program Front ε op.Ans) :=
  ⟨quiet, fun _ => trivial⟩

theorem quiet_on_server {ε α : Type} (program : Program Server ε α) :
    Uses (S := Front) Quiet (fun _ => True) (onServer program) := by
  induction program with
  | done value => trivial
  | fail error => trivial
  | call op next induction => exact ⟨trivial, induction⟩

theorem quiet_reject {ε : Type} (condition : Bool) (error : ε) :
    Uses (S := Front) Quiet (fun _ => True)
      (rejectIf condition error : Program Front ε Unit) :=
  (uses_reject_if condition error).2 fun _ => trivial

theorem quiet_login_attempt (ipKey userKey : String) :
    Uses (S := Front) Quiet (fun _ => True) (loginAttempt ipKey userKey) := by
  unfold loginAttempt
  apply Uses.bind (quiet_perform _ (by trivial))
  intro byAddress
  cases byAddress with
  | some seconds => trivial
  | none =>
      apply Uses.bind (quiet_perform _ (by trivial))
      intro byName
      cases byName <;> trivial

theorem quiet_login_denylisted (username : String) (user : User) :
    Uses (S := Front) Quiet (fun _ => True) (loginDenylisted username user) := by
  unfold loginDenylisted
  apply Uses.bind (quiet_on_server _)
  intro reason
  cases reason with
  | some reason => trivial
  | none => exact quiet_on_server _

theorem quiet_login_target (session : Session) :
    Uses (S := Front) Quiet (fun _ => True) (loginTarget session) := by
  unfold loginTarget
  cases session.returnToTs with
  | none => trivial
  | some stamped => exact (quiet_on_server _).bind fun _ => trivial

theorem quiet_callback_code (front : FrontEnv) (request : CallbackRequest) :
    Uses (S := Front) Quiet (fun _ => True) (callbackCode front request) := by
  unfold callbackCode
  apply Uses.bind (quiet_reject _ _)
  intro _
  apply Uses.bind (quiet_perform _ (by trivial))
  intro session
  apply Uses.bind (quiet_reject _ _)
  intro _
  apply Uses.bind (quiet_reject _ _)
  intro _
  apply Uses.bind (quiet_reject _ _)
  intro _
  cases front.providerPkce request.provider with
  | none => trivial
  | some pkce =>
      apply Uses.bind (quiet_reject _ _)
      intro _
      exact (quiet_reject _ _).bind fun _ => trivial

theorem quiet_vouched_for (front : FrontEnv) (request : CallbackRequest) :
    Uses (S := Front) Quiet (fun _ => True) (vouchedFor front request) := by
  unfold vouchedFor
  apply Uses.bind (quiet_callback_code front request)
  intro checked
  apply Uses.bind (quiet_perform _ (by trivial))
  intro exchanged
  cases exchanged with
  | error failure => trivial
  | ok accessToken =>
      apply Uses.bind (quiet_perform _ (by trivial))
      intro allowed
      apply Uses.bind (quiet_reject _ _)
      intro _
      apply Uses.bind (quiet_perform _ (by trivial))
      intro fetched
      cases fetched with
      | error failure => exact (quiet_perform _ (by trivial)).bind fun _ => trivial
      | ok userinfo => exact (quiet_perform _ (by trivial)).bind fun _ => trivial

theorem quiet_along {ε α : Type} {program : Program Front ε α}
    (quiet : Uses (S := Front) Quiet (fun _ => True) program) (state : FrontWorld) :
    program.Along front.interp (Admissible front) state :=
  quiet.along admissible_of_quiet state

/-- The clocks are only ever read on, by any operation of the routes. -/
theorem front_readings_grow {α : Type} {program : FrontHandler α} {later : FrontWorld}
    {outcome : Except Response α} (ran : program.run front.interp state = (outcome, later)) :
    state.world.process.readings ≤ later.world.process.readings := by
  have kept := run_keeps front.interp
    (fun reached : FrontWorld => state.world.process.readings ≤ reached.world.process.readings)
    ?_ program (le_refl state.world.process.readings)
  · rw [ran] at kept
    exact kept
  · intro op reached order
    cases op with
    | server op =>
        have served : (Program.perform op : Program Server Response _).run front.env.interp
            reached.world = (.ok (front.env.interp op reached.world).1,
              (front.env.interp op reached.world).2) := rfl
        exact order.trans (readings_grow served)
    | session => exact order
    | setLogin user acr amr => exact Nat.le_succ_of_le order
    | setReturnTo target => exact Nat.le_succ_of_le order
    | checkLogin key => exact Nat.le_succ_of_le order
    | resetLogin key => exact order
    | takePar requestUri => exact Nat.le_succ_of_le order
    | storePar clientId params => exact Nat.le_add_right_of_le order
    | breakerAllow provider => exact Nat.le_succ_of_le order
    | breakerSuccess provider => exact order
    | breakerFailure provider => exact Nat.le_succ_of_le order
    | exchangeCode provider code pkceVerifier => exact order
    | fetchUserinfo provider accessToken => exact order

/-! ### Password logins -/

/-- A later state of the request, with the same store and the same session. -/
structure Kept (state later : FrontWorld) : Prop where
  store : later.world.store = state.world.store
  session : later.session = state.session
  clock : state.world.process.readings ≤ later.world.process.readings

theorem Kept.trans {first second third : FrontWorld} (earlier : Kept first second)
    (later : Kept second third) : Kept first third :=
  ⟨later.store.trans earlier.store, later.session.trans earlier.session,
    earlier.clock.trans later.clock⟩

theorem login_attempt_kept {ipKey userKey : String} {later : FrontWorld}
    (ran : (loginAttempt ipKey userKey).run front.interp state = (.ok (), later)) :
    Kept state later := by
  have byAddress : Kept state (front.interp (.checkLogin ipKey) state).2 :=
    ⟨rfl, rfl, Nat.le_succ _⟩
  have byName : Kept (front.interp (.checkLogin ipKey) state).2
      (front.interp (.checkLogin userKey) (front.interp (.checkLogin ipKey) state).2).2 :=
    ⟨rfl, rfl, Nat.le_succ _⟩
  unfold loginAttempt at ran
  rw [run_perform_bind] at ran
  cases first : (front.interp (.checkLogin ipKey) state).1 with
  | some seconds =>
      rw [first] at ran
      cases ran
  | none =>
      rw [first] at ran
      dsimp only at ran
      rw [run_perform_bind] at ran
      cases second : (front.interp (.checkLogin userKey)
          (front.interp (.checkLogin ipKey) state).2).1 with
      | some seconds =>
          rw [second] at ran
          cases ran
      | none =>
          rw [second] at ran
          cases ran
          exact byAddress.trans byName

theorem denylist_kept {ε : Type} {kind value : String} {reason : Option String}
    {later : FrontWorld}
    (ran : (onServer (checkSubjectDenylisted kind value) : Program Front ε _).run front.interp
      state = (.ok reason, later)) :
    Kept state later ∧
      (reason = none → value ≠ "" →
        NotDenylisted front.env state.world later.world kind value) := by
  rw [run_on_server] at ran
  obtain ⟨answered, rfl⟩ := Prod.mk.inj ran
  have split : (checkSubjectDenylisted kind value : Program Server ε _).run front.env.interp
      state.world = (.ok reason, ((checkSubjectDenylisted kind value : Program Server ε _).run
        front.env.interp state.world).2) := Prod.ext answered rfl
  have waited := denylist_waited split
  constructor
  · exact ⟨waited.looked.store, rfl, waited.clock⟩
  · intro unlisted nonempty
    rw [unlisted] at split
    exact not_denylisted nonempty split

theorem login_denylisted_spec {username : String} {user : User} {later : FrontWorld}
    (ran : (loginDenylisted username user).run front.interp state = (.ok none, later)) :
    Kept state later ∧
      (username ≠ "" → NotDenylisted front.env state.world later.world "username" username) ∧
      (user.email ≠ "" → NotDenylisted front.env state.world later.world "email" user.email) := by
  unfold loginDenylisted at ran
  obtain ⟨byName, middle, first, rest⟩ := run_bind_eq_ok ran
  obtain ⟨keptFirst, unlistedFirst⟩ := denylist_kept first
  cases byName with
  | some reason => cases rest
  | none =>
      obtain ⟨keptRest, unlistedRest⟩ := denylist_kept rest
      refine ⟨keptFirst.trans keptRest, ?_, ?_⟩
      · intro nonempty
        exact (unlistedFirst rfl nonempty).mono keptRest.clock
      · intro nonempty entry found
        rw [← keptFirst.store] at found
        obtain ⟨expiresAt, reading, expires, during, expired⟩ := unlistedRest rfl nonempty entry found
        exact ⟨expiresAt, reading, expires, ⟨keptFirst.clock.trans during.1, during.2⟩, expired⟩

/-- An entry that had expired stays expired. -/
theorem not_denylisted_later {front : FrontEnv} {state : FrontWorld}
    (steady : Monotone front.env.platform.clock) {kind value : String}
    {later reached : FrontWorld}
    (unlisted : value ≠ "" → NotDenylisted front.env state.world later.world kind value)
    (order : later.world.process.readings ≤ reached.world.process.readings) :
    denylisted front.env state.world.store (instant front reached) kind value = false := by
  by_cases empty : value = ""
  · simp [denylisted, empty]
  · unfold denylisted
    cases found : (Query.findDenylistEntry kind value).eval front.env.backend
        state.world.store with
    | none => simp
    | some entry =>
        obtain ⟨expiresAt, reading, expires, during, expired⟩ := unlisted empty entry found
        have reached : expiresAt ≤ instant front reached := by
          apply expired.trans
          apply steady
          exact (during.2.trans_le order).le
        simp [activeAt, expires, reached]

/-- The account a password login writes to the session is enabled and unlisted. -/
theorem login_admissible (steady : Monotone front.env.platform.clock) (request : LoginRequest) :
    (login front request).Along front.interp (Admissible front) state := by
  unfold login
  apply (along_bind _ _ _ _ _).2
  refine ⟨quiet_along (quiet_login_attempt _ _) state, ?_⟩
  intro _ attempted attempt
  have keptAttempt := login_attempt_kept attempt
  apply (along_bind _ _ _ _ _).2
  refine ⟨quiet_along (quiet_on_server _) attempted, ?_⟩
  intro found reached lookup
  rw [run_on_server_query] at lookup
  obtain ⟨answered, rfl⟩ := Prod.mk.inj lookup
  cases found with
  | none => trivial
  | some user =>
      have row := Except.ok.inj answered
      have member : user ∈ attempted.world.store.users := List.mem_of_find?_eq_some row
      have named : user.username = (request.form.get "username").getD "" := by
        simpa using List.find?_some row
      apply (along_bind _ _ _ _ _).2
      refine ⟨quiet_along (quiet_login_denylisted _ _) _, ?_⟩
      intro reason checked denylist
      apply (along_bind _ _ _ _ _).2
      refine ⟨quiet_along (quiet_reject _ _) _, ?_⟩
      intro _ accepted passed
      obtain ⟨admitted, rfl⟩ := run_reject_if_eq_ok passed
      simp only [Bool.or_eq_false_iff, Bool.not_eq_false'] at admitted
      obtain ⟨⟨enabled, _⟩, unlisted⟩ := admitted
      have none : reason = none := by simpa using unlisted
      rw [none] at denylist
      obtain ⟨kept, byName, byEmail⟩ := login_denylisted_spec denylist
      refine ⟨trivial, trivial, ?_, ?_⟩
      · constructor
        · show user ∈ accepted.world.store.users
          rw [kept.store]
          exact member
        · have sameName : denylisted front.env attempted.world.store (instant front accepted)
              "username" user.username = false := by
            rw [named]
            exact not_denylisted_later steady byName (Nat.le_refl _)
          have sameEmail : denylisted front.env attempted.world.store (instant front accepted)
              "email" user.email = false :=
            not_denylisted_later steady byEmail (Nat.le_refl _)
          show blocked front.env accepted.world.store (instant front accepted) user = false
          rw [kept.store]
          simp [blocked, listed, enabled, sameName, sameEmail]
      · apply quiet_along
        apply Uses.bind (quiet_login_target _)
        intro target
        trivial

/-! ### Social callbacks -/

section Accounts

variable {env : Env} {world : World} {userinfo : SocialUserInfo}

/-- Linking only reads, and finds an enabled account of the store. -/
theorem link_run (env : Env) (world : World) (userinfo : SocialUserInfo) : ∃ candidate,
    (linkByVerifiedEmail env userinfo).run env.interp world = (.ok candidate, world) ∧
      ∀ row, candidate = some row → row ∈ world.store.users ∧ row.enabled = true := by
  unfold linkByVerifiedEmail
  dsimp only
  split
  · exact ⟨none, rfl, fun row absent => by cases absent⟩
  · rw [run_query_bind]
    split
    · rename_i candidate single
      split
      · exact ⟨none, rfl, fun row absent => by cases absent⟩
      · rename_i admitted
        refine ⟨some candidate, rfl, ?_⟩
        intro row same
        cases same
        have listed : candidate ∈ List.filter _ _ := single ▸ List.mem_singleton.2 rfl
        have matched := List.mem_of_mem_filter listed
        constructor
        · exact List.mem_of_mem_filter matched
        · simp only [Bool.or_eq_true, Bool.not_eq_true', not_or, Bool.not_eq_false] at admitted
          exact admitted.2
    · exact ⟨none, rfl, fun row absent => by cases absent⟩

/-- The row a new account gets. -/
def provisioned (env : Env) (world : World) (userinfo : SocialUserInfo) : User where
  id := env.platform.random (world.process.draws + 2)
  username := userinfo.provider ++ ":" ++ userinfo.providerUserId
  passwordHash := env.platform.hashPassword (world.process.draws + 1)
    (env.platform.random world.process.draws)
  email := userinfo.email
  role := "user"
  createdAt := env.platform.clock world.process.readings
  updatedAt := env.platform.clock world.process.readings

/-- The process after a new account has drawn what it needs. -/
def afterProvisioning (world : World) : World :=
  { world with process := { world.process with
    draws := world.process.draws + 3
    readings := world.process.readings + 1 } }

/-- No row has the name, so only the id can be refused. -/
theorem save_provisioned (userinfo : SocialUserInfo)
    (free : (Query.getUserByUsername
      (userinfo.provider ++ ":" ++ userinfo.providerUserId)).eval env.backend world.store = none) :
    Command.exec env.backend world.store (.saveUser (provisioned env world userinfo)) =
      if idRefused env world then (.error .duplicateKey, world.store)
      else (.ok (), { world.store with
        users := world.store.users ++ [provisioned env world userinfo] }) := by
  have unnamed : (world.store.users.any fun row =>
      row.username == (provisioned env world userinfo).username) = false := by
    rw [List.any_eq_false]
    exact List.find?_eq_none.1 free
  have refused : idTaken env.backend world.store.users User.id (provisioned env world userinfo) =
      idRefused env world := by
    unfold idTaken idRefused
    cases env.backend with
    | mongo => rfl
    | sql =>
        rw [Bool.eq_iff_iff]
        simp [provisioned]
  simp only [Command.exec, unnamed, refused, Bool.or_false]

/-- The account is the row under the provider's name, else the linked one, else
a new one, unless the store refuses its id. -/
theorem social_account_run :
    (socialAccount env userinfo).run env.interp world =
      match (Query.getUserByUsername (userinfo.provider ++ ":" ++ userinfo.providerUserId)).eval
          env.backend world.store with
      | some row => (.ok row, world)
      | none =>
          match ((linkByVerifiedEmail env userinfo).run env.interp world).1 with
          | .ok (some row) => (.ok row, world)
          | _ =>
              if idRefused env world then (.error .other, afterProvisioning world)
              else (.ok (provisioned env world userinfo),
                { afterProvisioning world with store := { world.store with
                  users := world.store.users ++ [provisioned env world userinfo] } }) := by
  unfold socialAccount
  dsimp only
  rw [run_query_bind]
  cases found : (Query.getUserByUsername
      (userinfo.provider ++ ":" ++ userinfo.providerUserId)).eval env.backend world.store with
  | some row => rfl
  | none =>
      dsimp only
      obtain ⟨candidate, linked, _⟩ := link_run env world userinfo
      rw [run_bind, linked]
      cases candidate with
      | some row => rfl
      | none =>
          dsimp only
          rw [run_ambient_bind, run_ambient_bind, run_ambient_bind, run_ambient_bind,
            run_command_bind]
          have saved := save_provisioned userinfo found
          show (insertOrRaise (Command.exec env.backend world.store
            (.saveUser (provisioned env world userinfo))).1 >>= fun _ =>
              pure (provisioned env world userinfo) : Service User).run env.interp
            { afterProvisioning world with
              store := (Command.exec env.backend world.store
                (.saveUser (provisioned env world userinfo))).2 } = _
          rw [saved]
          cases refused : idRefused env world with
          | true => rfl
          | false => rfl

end Accounts

theorem forall_ok_iff {ε α σ : Type} {value : α} {reached : σ} {holds : α → σ → Prop} :
    (∀ other later, ((.ok value : Except ε α), reached) = (.ok other, later) →
      holds other later) ↔ holds value reached := by
  constructor
  · intro each
    exact each value reached rfl
  · intro here other later same
    cases same
    exact here

/-- Once a provider vouches for a user, the session that is written is
admissible exactly when the user's account is not blocked. -/
theorem account_admissible_iff (front : FrontEnv) (state : FrontWorld) (userinfo : SocialUserInfo)
    (response : Session → Response) :
    (do
      let user ← onServer (TokenEndpoint.call (socialAccount front.env userinfo))
      let session ← perform .session
      perform (.setLogin user front.defaultAcr ["fed"])
      pure (response session) : FrontHandler Response).Along front.interp (Admissible front) state ↔
      unblockedAccount front state userinfo = true := by
  have follows : ∀ user later,
      (do
        let session ← perform .session
        perform (.setLogin user front.defaultAcr ["fed"])
        pure (response session) : FrontHandler Response).Along front.interp (Admissible front) later ↔
        Admissible front later (.setLogin user front.defaultAcr ["fed"]) := by
    intro user later
    constructor
    · intro along
      exact along.2.1
    · intro admissible
      exact ⟨trivial, admissible, trivial⟩
  rw [along_bind]
  simp only [follows, run_on_server, TokenEndpoint.call, run_map_error, social_account_run,
    quiet_along (quiet_on_server _), true_and]
  unfold unblockedAccount
  dsimp only
  cases found : (Query.getUserByUsername
      (userinfo.provider ++ ":" ++ userinfo.providerUserId)).eval front.env.backend
      state.world.store with
  | some row =>
      have member : row ∈ state.world.store.users := List.mem_of_find?_eq_some found
      apply forall_ok_iff.trans
      simp only [Admissible, member, true_and, Bool.not_eq_true']
  | none =>
      obtain ⟨candidate, linked, known⟩ := link_run front.env state.world userinfo
      rw [linked]
      cases candidate with
      | some row =>
          obtain ⟨member, enabled⟩ := known row rfl
          apply forall_ok_iff.trans
          simp only [Admissible, member, true_and, blocked, enabled, Bool.not_true, Bool.false_or,
            Bool.not_eq_true']
      | none =>
          cases refused : idRefused front.env state.world with
          | true =>
              simp only [if_true, Except.mapError, Prod.mk.injEq, reduceCtorEq, false_and,
                false_implies, implies_true, Bool.true_or]
          | false =>
              simp only [Bool.false_eq_true, if_false]
              apply forall_ok_iff.trans
              have stored : provisioned front.env state.world userinfo ∈
                  state.world.store.users ++ [provisioned front.env state.world userinfo] :=
                List.mem_append_right _ (List.mem_singleton.2 rfl)
              simp only [Admissible, stored, true_and, blocked, Bool.false_or, Bool.not_eq_true']
              rfl

theorem callback_admissible_iff (request : CallbackRequest) :
    (socialCallback front request).Along front.interp (Admissible front) state ↔
      spared front state (.callback request) = true := by
  have quiet : (vouchedFor front request).Along front.interp (Admissible front) state :=
    quiet_along (quiet_vouched_for front request) state
  unfold socialCallback
  rw [along_bind]
  simp only [spared]
  cases vouched : (vouchedFor front request).run front.interp state with
  | mk outcome reached =>
      cases outcome with
      | error refusal =>
          apply iff_of_true _ rfl
          refine ⟨quiet, ?_⟩
          intro userinfo later ran
          cases ran
      | ok userinfo =>
          have follows := account_admissible_iff front reached
            { userinfo with provider := request.provider }
            (fun session => redirect 302
              (if isSafeRedirect session.returnTo then session.returnTo.getD "/profile"
                else "/profile"))
          constructor
          · intro along
            exact follows.1 (along.2 userinfo reached rfl)
          · intro unblocked
            refine ⟨quiet, ?_⟩
            intro other later ran
            cases ran
            exact follows.2 unblocked

/-! ### Both routes -/

/-- With a clock that does not run backwards, every session that a login route
writes is for an account that is not blocked, exactly when the request is a
password login, or a callback whose account is not blocked. -/
theorem sign_in_admissible_iff (front : FrontEnv) (steady : Monotone front.env.platform.clock)
    (state : FrontWorld) (request : SignIn) :
    (request.program front).Along front.interp (Admissible front) state ↔
      spared front state request = true := by
  cases request with
  | password request => exact iff_of_true (login_admissible steady request) rfl
  | callback request => exact callback_admissible_iff request

def frontEnv : FrontEnv where
  env := sampleEnv
  defaultAcr := some "urn:mace:incommon:iap:silver"
  verifyPassword := fun password hash => password == hash
  providerPkce := fun provider => if provider == "google" then some true else none
  exchange := fun _ _ _ _ => .ok "provider-token"
  userinfo := fun _ provider _ => .ok
    { provider := provider
      providerUserId := "42"
      email := "alice@example.com"
      emailVerified := true }

def googleUser (enabled : Bool) : User where
  id := "alice"
  username := "google:42"
  passwordHash := "hash"
  email := "alice@example.com"
  enabled := enabled
  createdAt := 0
  updatedAt := 0

/-- A browser that a provider has sent back, and the account it belongs to. -/
def frontWorld (enabled : Bool) : FrontWorld where
  world :=
    { store := { sampleStore with users := [googleUser enabled] }
      process := sampleProcess }
  session :=
    { csrfToken := some "state"
      provider := some "google"
      pkceVerifier := some "verifier" }
  loginLimiter := { maxAttempts := 10, windowSecs := 900, windows := [] }
  parStore := []
  breakers := fun _ => {}

def googleCallback : CallbackRequest where
  provider := "google"
  params := [("state", "state"), ("code", "code")]

theorem front_steady : Monotone frontEnv.env.platform.clock := by
  intro earlier later order
  exact Int.ofNat_le.2 order

/-- An enabled account without an entry in the denylist is logged in. -/
theorem enabled_account_logged_in :
    ((socialCallback frontEnv googleCallback).run frontEnv.interp
        (frontWorld true)).2.session.userId = some "alice" ∧
      ((SignIn.callback googleCallback).program frontEnv).Along frontEnv.interp
        (Admissible frontEnv) (frontWorld true) :=
  ⟨by decide +kernel,
    (sign_in_admissible_iff frontEnv front_steady (frontWorld true)
      (.callback googleCallback)).2 (by decide +kernel)⟩

/-- A disabled account is logged in as well, through its provider. -/
theorem disabled_account_logged_in :
    ¬((SignIn.callback googleCallback).program frontEnv).Along frontEnv.interp
      (Admissible frontEnv) (frontWorld false) := by
  decide +kernel

end OAuth2Server.LoginGate
