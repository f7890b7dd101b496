import OAuth2Server.FixedWindows
import OAuth2Server.LoginGate

/-!
# How many logins reach the password check

A login asks the limiter by address and then by name, and resets the name when
it succeeds. The windows of an address are its own: no success reopens one. The
windows of a name end with a success.
-/

namespace OAuth2Server.LoginThrottle

open OAuth2Server Models JsonText Storage Effects Interaction Interaction.Program
open Process ClientAuth FrontChannel KeyedCells FixedWindows LoginGate

set_option autoImplicit false

/-! ### Calls on the limiter -/

/-- The calls an operation makes, at the time the monotonic clock shows then. -/
def opCalls (front : FrontEnv) (op : FrontOp) (state : FrontWorld) : List Timed :=
  match op with
  | .checkLogin key => [⟨front.monotonic state, .check key⟩]
  | .resetLogin key => [⟨front.monotonic state, .reset key⟩]
  | _ => []

def limiterCalls {ε α : Type} (front : FrontEnv) : Program Front ε α → FrontWorld → List Timed
  | .done _, _ => []
  | .fail _, _ => []
  | .call op next, state =>
      opCalls front op state ++
        limiterCalls front (next (front.interp op state).1) (front.interp op state).2

section Calls

variable {ε α β : Type} {front : FrontEnv}

variable (front) in
/-- A run does to the limiter what its calls do. -/
theorem limiter_after (program : Program Front ε α) (state : FrontWorld) :
    (program.run front.interp state).2.loginLimiter =
      after limiterStep state.loginLimiter (limiterCalls front program state) := by
  induction program generalizing state with
  | done value => rfl
  | fail error => rfl
  | call op next induction =>
      have later := induction (front.interp op state).1 (front.interp op state).2
      have step : (front.interp op state).2.loginLimiter =
          after limiterStep state.loginLimiter (opCalls front op state) := by
        cases op <;> rfl
      show ((next (front.interp op state).1).run front.interp
        (front.interp op state).2).2.loginLimiter = _
      rw [later, step, limiterCalls, after_append]

theorem calls_perform_bind (op : FrontOp) (rest : op.Ans → Program Front ε α)
    (state : FrontWorld) :
    limiterCalls front (FrontChannel.perform op >>= rest) state =
      opCalls front op state ++
        limiterCalls front (rest (front.interp op state).1) (front.interp op state).2 := rfl

variable (front) in
theorem calls_bind (program : Program Front ε α) (rest : α → Program Front ε β)
    (state : FrontWorld) :
    limiterCalls front (program >>= rest) state =
      limiterCalls front program state ++
        match program.run front.interp state with
        | (.ok value, later) => limiterCalls front (rest value) later
        | (.error _, _) => [] := by
  induction program generalizing state with
  | done value => rfl
  | fail error => rfl
  | call op next induction =>
      rw [call_bind, limiterCalls, induction, limiterCalls, List.append_assoc]
      rfl

theorem calls_on_server (program : Program Server ε α) (state : FrontWorld) :
    limiterCalls front (onServer program : Program Front ε α) state = [] := by
  induction program generalizing state with
  | done value => rfl
  | fail error => rfl
  | call op next induction => exact induction _ _

theorem calls_ordered (steady : Monotone front.env.platform.monotonic) (program : FrontHandler α)
    (state : FrontWorld) :
    (∀ timed ∈ limiterCalls front program state, front.monotonic state ≤ timed.now ∧
      timed.now ≤ front.monotonic (program.run front.interp state).2) ∧
      (limiterCalls front program state).Pairwise fun one two => one.now ≤ two.now := by
  induction program generalizing state with
  | done value => exact ⟨by simp [limiterCalls], List.Pairwise.nil⟩
  | fail error => exact ⟨by simp [limiterCalls], List.Pairwise.nil⟩
  | call op next induction =>
      obtain ⟨between, ordered⟩ := induction (front.interp op state).1 (front.interp op state).2
      have first : front.monotonic state ≤ front.monotonic (front.interp op state).2 :=
        steady (@front_readings_grow _ _ _ (FrontChannel.perform op : FrontHandler _) _ _ rfl)
      have whole : front.monotonic state ≤
          front.monotonic ((Program.call op next).run front.interp state).2 :=
        steady (@front_readings_grow _ _ _ (Program.call op next : FrontHandler α) _ _ rfl)
      have here : ∀ timed ∈ opCalls front op state, timed.now = front.monotonic state := by
        intro timed member
        cases op <;> simp [opCalls] at member <;> rw [member]
      constructor
      · intro timed member
        rcases List.mem_append.1 member with own | later
        · rw [here timed own]
          exact ⟨le_rfl, whole⟩
        · exact ⟨first.trans (between timed later).1, (between timed later).2⟩
      · apply List.pairwise_append.2
        refine ⟨?_, ordered, ?_⟩
        · cases op <;> simp [opCalls]
        · intro one own two later
          rw [here one own]
          exact first.trans (between two later).1

end Calls

/-! ### One request -/

def addressKey (clientHost : Option String) : String := "login:ip:" ++ clientHost.getD "unknown"

def nameKey (username : String) : String := "login:user:" ++ username

def submittedName (request : LoginRequest) : String := (request.form.get "username").getD ""

def tooManyAttempts (seconds : Int) : Response :=
  redirect 303 "/auth/login?error=too_many_attempts" [("Retry-After", toString seconds)]

theorem keys_apart (clientHost : Option String) (username : String) :
    addressKey clientHost ≠ nameKey username := by
  intro same
  have texts := congrArg String.toList same
  simp [addressKey, nameKey, String.toList_append] at texts

/-- The gate a login has to pass before the account is looked up. -/
def gate (request : LoginRequest) : FrontHandler Unit :=
  loginAttempt (addressKey request.clientHost) (nameKey (submittedName request))

/-- What a login does past the gate: the lookup and the password check. -/
def credentials (front : FrontEnv) (request : LoginRequest) : FrontHandler Response := do
  match ← onServer (query (.getUserByUsername (submittedName request))) with
  | none => pure invalidCredentials
  | some user => do
      let denylisted ← loginDenylisted (submittedName request) user
      Program.rejectIf (!user.enabled || !front.verifyPassword
        ((request.form.get "password").getD "") user.passwordHash ||
        denylisted.isSome) invalidCredentials
      perform (.resetLogin (nameKey (submittedName request)))
      let session ← perform .session
      perform (.setLogin user front.defaultAcr ["pwd"])
      let target ← loginTarget session
      pure (redirect 303 target)

theorem login_gated (front : FrontEnv) (request : LoginRequest) :
    login front request = gate request >>= fun _ => credentials front request := by
  unfold login gate credentials submittedName
  dsimp only
  congr 1
  funext _
  congr 1
  funext found
  cases found <;> rfl

section Request

variable (front : FrontEnv) (request : LoginRequest) (state : FrontWorld)

/-- The gate asks for the address first and for the name only if that passes. -/
theorem gate_cases :
    (∃ now seconds opened later,
      (gate request).run front.interp state = (.error (tooManyAttempts seconds), later) ∧
      log limiterStep state.loginLimiter (limiterCalls front (gate request) state) =
        [(⟨now, .check (addressKey request.clientHost)⟩, ⟨some seconds, opened⟩)]) ∨
    (∃ now asked seconds opened openedName later,
      (gate request).run front.interp state = (.error (tooManyAttempts seconds), later) ∧
      log limiterStep state.loginLimiter (limiterCalls front (gate request) state) =
        [(⟨now, .check (addressKey request.clientHost)⟩, ⟨none, opened⟩),
          (⟨asked, .check (nameKey (submittedName request))⟩, ⟨some seconds, openedName⟩)]) ∨
    (∃ now asked opened openedName later,
      (gate request).run front.interp state = (.ok (), later) ∧
      log limiterStep state.loginLimiter (limiterCalls front (gate request) state) =
        [(⟨now, .check (addressKey request.clientHost)⟩, ⟨none, opened⟩),
          (⟨asked, .check (nameKey (submittedName request))⟩, ⟨none, openedName⟩)]) := by
  let address := addressKey request.clientHost
  let name := nameKey (submittedName request)
  let asked := (front.interp (.checkLogin address) state).2
  unfold gate loginAttempt
  rw [run_perform_bind, calls_perform_bind]
  let opened := (windowAt state.loginLimiter address (front.monotonic state)).isNone
  let openedName := (windowAt asked.loginLimiter name (front.monotonic asked)).isNone
  have first : limiterStep state.loginLimiter ⟨front.monotonic state, .check address⟩ =
      (⟨(front.interp (.checkLogin address) state).1, opened⟩, asked.loginLimiter) := rfl
  have second : limiterStep asked.loginLimiter ⟨front.monotonic asked, .check name⟩ =
      (⟨(front.interp (.checkLogin name) asked).1, openedName⟩,
        (front.interp (.checkLogin name) asked).2.loginLimiter) := rfl
  cases byAddress : (front.interp (.checkLogin address) state).1 with
  | some seconds =>
      rw [byAddress] at first
      left
      refine ⟨front.monotonic state, seconds, opened, asked, rfl, ?_⟩
      show log limiterStep state.loginLimiter [⟨front.monotonic state, .check address⟩] = _
      rw [log_cons, first]
      rfl
  | none =>
      rw [byAddress] at first
      right
      dsimp only
      rw [run_perform_bind, calls_perform_bind]
      cases byName : (front.interp (.checkLogin name) asked).1 with
      | some seconds =>
          rw [byName] at second
          left
          refine ⟨front.monotonic state, front.monotonic asked, seconds, opened, openedName,
            (front.interp (.checkLogin name) asked).2, rfl, ?_⟩
          show log limiterStep state.loginLimiter [⟨front.monotonic state, .check address⟩,
            ⟨front.monotonic asked, .check name⟩] = _
          rw [log_cons, log_cons, first, second]
          rfl
      | none =>
          rw [byName] at second
          right
          refine ⟨front.monotonic state, front.monotonic asked, opened, openedName,
            (front.interp (.checkLogin name) asked).2, rfl, ?_⟩
          show log limiterStep state.loginLimiter [⟨front.monotonic state, .check address⟩,
            ⟨front.monotonic asked, .check name⟩] = _
          rw [log_cons, log_cons, first, second]
          rfl

variable {front request state}

variable (front) in
theorem on_server_session {α : Type} (program : Program Server Response α) (state : FrontWorld) :
    ((onServer program).run front.interp state).2.session = state.session := by
  rw [run_on_server]

variable (front) in
theorem denylisted_quiet (username : String) (user : User) (state : FrontWorld) :
    limiterCalls front (loginDenylisted username user) state = [] ∧
      ((loginDenylisted username user).run front.interp state).2.session = state.session := by
  unfold loginDenylisted
  have kept := on_server_session front (checkSubjectDenylisted "username" username) state
  rw [calls_bind front, calls_on_server, run_bind]
  cases outcome : (onServer (checkSubjectDenylisted "username" username)).run front.interp
      state with
  | mk answer reached =>
      rw [outcome] at kept
      cases answer with
      | error error => exact ⟨rfl, kept⟩
      | ok reason =>
          cases reason with
          | some reason => exact ⟨rfl, kept⟩
          | none =>
              constructor
              · exact calls_on_server _ reached
              · exact (on_server_session front _ reached).trans kept

variable (front) in
theorem target_quiet (session : Session) (state : FrontWorld) :
    limiterCalls front (loginTarget session) state = [] ∧
      ((loginTarget session).run front.interp state).2.session = state.session := by
  unfold loginTarget
  cases session.returnToTs with
  | none => exact ⟨rfl, rfl⟩
  | some stamped => exact ⟨rfl, rfl⟩

/-- Past the gate the limiter is only told of a success, which is when the
session is written. -/
theorem credentials_cases (front : FrontEnv) (request : LoginRequest) (state : FrontWorld) :
    (limiterCalls front (credentials front request) state = [] ∧
      ((credentials front request).run front.interp state).2.session = state.session) ∨
    (∃ now user amr, limiterCalls front (credentials front request) state =
        [⟨now, .reset (nameKey (submittedName request))⟩] ∧
      ∃ time, ((credentials front request).run front.interp state).2.session =
        Session.setLogin user front.defaultAcr amr time) := by
  unfold credentials
  rw [calls_bind front, calls_on_server, run_bind, run_on_server_query]
  cases (Query.getUserByUsername (submittedName request)).eval front.env.backend
      state.world.store with
  | none => exact .inl ⟨rfl, rfl⟩
  | some user =>
      dsimp only
      obtain ⟨quiet, kept⟩ := denylisted_quiet front (submittedName request) user state
      rw [calls_bind front, quiet, run_bind]
      cases outcome : (loginDenylisted (submittedName request) user).run front.interp state with
      | mk answer reached =>
          rw [outcome] at kept
          cases answer with
          | error error => exact .inl ⟨rfl, kept⟩
          | ok denylisted =>
              dsimp only at kept ⊢
              cases rejected : (!user.enabled || !front.verifyPassword
                  ((request.form.get "password").getD "") user.passwordHash ||
                  denylisted.isSome) with
              | true => exact .inl ⟨rfl, kept⟩
              | false =>
                  right
                  let session := reached.session
                  let cleared := (front.interp (.resetLogin
                    (nameKey (submittedName request))) reached).2
                  let written := (front.interp (.setLogin user front.defaultAcr ["pwd"]) cleared).2
                  obtain ⟨silent, stays⟩ := target_quiet front session written
                  refine ⟨front.monotonic reached, user, ["pwd"], ?_, front.time cleared, ?_⟩
                  · have follows : limiterCalls front (loginTarget session >>= fun target =>
                        (pure (redirect 303 target) : FrontHandler Response)) written = [] := by
                      rw [calls_bind front, silent]
                      cases (loginTarget session).run front.interp written with
                      | mk answer later => cases answer <;> rfl
                    show ⟨front.monotonic reached, .reset (nameKey (submittedName request))⟩ ::
                      limiterCalls front (loginTarget session >>= fun target =>
                        (pure (redirect 303 target) : FrontHandler Response)) written = _
                    rw [follows]
                  · show ((loginTarget session >>= fun target =>
                      (pure (redirect 303 target) : FrontHandler Response)).run front.interp
                        written).2.session = _
                    rw [run_bind]
                    cases target : (loginTarget session).run front.interp written with
                    | mk answer later =>
                        rw [target] at stays
                        cases answer <;> exact stays

end Request

/-! ### Sequences of requests -/

/-- A request, and the world it finds but for the login limiter: everything else
may have changed in any way since the last one. -/
structure Visit where
  request : LoginRequest
  state : FrontWorld

def Visit.address (visit : Visit) : String := addressKey visit.request.clientHost

def Visit.name (visit : Visit) : String := nameKey (submittedName visit.request)

/-- What a login did: its response, whether it got past the gate, its calls on
the limiter, and the readings of the clocks by its end. -/
structure Report where
  response : Except Response Response
  reached : Bool
  calls : List (Timed × Verdict)
  finished : Nat

def attempt (front : FrontEnv) (limiter : FixedWindowLimiter) (visit : Visit) :
    Report × FixedWindowLimiter :=
  let state := { visit.state with loginLimiter := limiter }
  let ran := (login front visit.request).run front.interp state
  ({ response := ran.1
     reached := ((gate visit.request).run front.interp state).1.isOk
     calls := log limiterStep limiter (limiterCalls front (login front visit.request) state)
     finished := ran.2.world.process.readings },
    ran.2.loginLimiter)

/-- The three ways of a login: refused by its address, refused by its name, or
past the gate, where a success resets the name. -/
inductive Course (visit : Visit) (report : Report) : Prop
  | byAddress (now : ℚ) (seconds : Int) (opened : Bool)
      (calls : report.calls = [(⟨now, .check visit.address⟩, ⟨some seconds, opened⟩)])
      (reached : report.reached = false)
      (response : report.response = .error (tooManyAttempts seconds))
  | byName (now asked : ℚ) (seconds : Int) (opened openedName : Bool)
      (calls : report.calls = [(⟨now, .check visit.address⟩, ⟨none, opened⟩),
        (⟨asked, .check visit.name⟩, ⟨some seconds, openedName⟩)])
      (reached : report.reached = false)
      (response : report.response = .error (tooManyAttempts seconds))
  | past (now asked : ℚ) (opened openedName : Bool) (resets : List (Timed × Verdict))
      (calls : report.calls = (⟨now, .check visit.address⟩, ⟨none, opened⟩) ::
        (⟨asked, .check visit.name⟩, ⟨none, openedName⟩) :: resets)
      (reached : report.reached = true)
      (succeeded : resets = [] ∨ ∃ time, resets = [(⟨time, .reset visit.name⟩, ⟨none, false⟩)])

section Attempts

variable {front : FrontEnv} {limiter : FixedWindowLimiter} {visit : Visit}

theorem attempt_limiter (front : FrontEnv) (limiter : FixedWindowLimiter) (visit : Visit) :
    (attempt front limiter visit).2 =
      after limiterStep limiter ((attempt front limiter visit).1.calls.map Prod.fst) := by
  have ran := limiter_after front (login front visit.request)
    { visit.state with loginLimiter := limiter }
  simp only [attempt, log_events]
  exact ran

theorem attempt_course (front : FrontEnv) (limiter : FixedWindowLimiter) (visit : Visit) :
    Course visit (attempt front limiter visit).1 := by
  let state := { visit.state with loginLimiter := limiter }
  have bound := calls_bind front (gate visit.request)
    (fun _ => credentials front visit.request) state
  have ran := run_bind front.interp (gate visit.request)
    (fun _ => credentials front visit.request) state
  rw [← login_gated] at bound ran
  have calls : (attempt front limiter visit).1.calls =
      log limiterStep limiter (limiterCalls front (login front visit.request) state) := rfl
  have response : (attempt front limiter visit).1.response =
      ((login front visit.request).run front.interp state).1 := rfl
  have reached : (attempt front limiter visit).1.reached =
      ((gate visit.request).run front.interp state).1.isOk := rfl
  rw [bound, log_append] at calls
  rw [ran] at response
  rcases gate_cases front visit.request state with
    ⟨now, seconds, opened, later, gated, logged⟩ |
    ⟨now, asked, seconds, opened, openedName, later, gated, logged⟩ |
    ⟨now, asked, opened, openedName, later, gated, logged⟩
  · rw [gated] at calls response reached
    refine .byAddress now seconds opened ?_ reached response
    exact calls.trans (by rw [show log limiterStep limiter _ = _ from logged]; rfl)
  · rw [gated] at calls response reached
    refine .byName now asked seconds opened openedName ?_ reached response
    exact calls.trans (by rw [show log limiterStep limiter _ = _ from logged]; rfl)
  · rw [gated] at calls reached
    have resets := credentials_cases front visit.request later
    refine .past now asked opened openedName
      (log limiterStep (after limiterStep limiter (limiterCalls front (gate visit.request) state))
        (limiterCalls front (credentials front visit.request) later)) (calls.trans ?_) reached ?_
    · rw [show log limiterStep limiter _ = _ from logged]
      rfl
    · rcases resets with ⟨none_, _⟩ | ⟨time, user, amr, one, _⟩
      · left
        rw [none_]
        rfl
      · right
        rw [one]
        exact ⟨time, rfl⟩

theorem address_ne_name (visit : Visit) : visit.address ≠ visit.name := keys_apart _ _

def isAbout (key : String) (call : Timed × Verdict) : Bool := call.1.call.key = key

/-- The calls of a login about one key: none, a check, or a check that passed and a reset. -/
theorem course_about {report : Report} (course : Course visit report) (key : String) :
    report.calls.filter (isAbout key) = [] ∨
      (∃ now verdict, report.calls.filter (isAbout key) = [(⟨now, .check key⟩, verdict)]) ∨
      (∃ now opened time, report.calls.filter (isAbout key) =
        [(⟨now, .check key⟩, ⟨none, opened⟩), (⟨time, .reset key⟩, ⟨none, false⟩)]) := by
  have apart := address_ne_name visit
  by_cases byAddress : visit.address = key
  · subst byAddress
    have other : ¬ visit.name = visit.address := fun same => apart same.symm
    right; left
    cases course with
    | byAddress now seconds opened calls =>
        exact ⟨now, ⟨some seconds, opened⟩, by simp [calls, isAbout, LimiterCall.key]⟩
    | byName now asked seconds opened openedName calls =>
        exact ⟨now, ⟨none, opened⟩, by simp [calls, isAbout, LimiterCall.key, other]⟩
    | past now asked opened openedName resets calls reached succeeded =>
        refine ⟨now, ⟨none, opened⟩, ?_⟩
        rcases succeeded with rfl | ⟨time, rfl⟩ <;>
          simp [calls, isAbout, LimiterCall.key, other]
  · by_cases byName : visit.name = key
    · subst byName
      cases course with
      | byAddress now seconds opened calls =>
          left
          simp [calls, isAbout, LimiterCall.key, byAddress]
      | byName now asked seconds opened openedName calls =>
          right; left
          exact ⟨asked, ⟨some seconds, openedName⟩, by
            simp [calls, isAbout, LimiterCall.key, byAddress]⟩
      | past now asked opened openedName resets calls reached succeeded =>
          right
          rcases succeeded with rfl | ⟨time, rfl⟩
          · left
            exact ⟨asked, ⟨none, openedName⟩, by
              simp [calls, isAbout, LimiterCall.key, byAddress]⟩
          · right
            exact ⟨asked, openedName, time, by
              simp [calls, isAbout, LimiterCall.key, byAddress]⟩
    · left
      cases course with
      | byAddress now seconds opened calls =>
          simp [calls, isAbout, LimiterCall.key, byAddress]
      | byName now asked seconds opened openedName calls =>
          simp [calls, isAbout, LimiterCall.key, byAddress, byName]
      | past now asked opened openedName resets calls reached succeeded =>
          rcases succeeded with rfl | ⟨time, rfl⟩ <;>
            simp [calls, isAbout, LimiterCall.key, byAddress, byName]

/-- Past the gate every check has passed. -/
theorem course_passed {report : Report} (course : Course visit report)
    (reached : report.reached = true) {call : Timed × Verdict} (member : call ∈ report.calls)
    {key : String} (checks : call.1.call = .check key) : call.2.retryAfter = none := by
  cases course with
  | byAddress now seconds opened calls refused =>
      rw [refused] at reached
      cases reached
  | byName now asked seconds opened openedName calls refused =>
      rw [refused] at reached
      cases reached
  | past now asked opened openedName resets calls _ succeeded =>
      rw [calls] at member
      rcases succeeded with rfl | ⟨time, rfl⟩
      · simp only [List.mem_cons, List.not_mem_nil, or_false] at member
        rcases member with rfl | rfl <;> rfl
      · simp only [List.mem_cons, List.not_mem_nil, or_false] at member
        rcases member with rfl | rfl | rfl <;> rfl

end Attempts

/-! ### Transcripts -/

abbrev Entry := Visit × Report

def callsOf (entries : List Entry) : List (Timed × Verdict) :=
  entries.flatMap fun entry => entry.2.calls

theorem transcript_calls (front : FrontEnv) (limiter : FixedWindowLimiter) (visits : List Visit) :
    log limiterStep limiter ((callsOf (log (attempt front) limiter visits)).map Prod.fst) =
      callsOf (log (attempt front) limiter visits) := by
  induction visits generalizing limiter with
  | nil => rfl
  | cons visit rest induction =>
      have own : log limiterStep limiter ((attempt front limiter visit).1.calls.map Prod.fst) =
          (attempt front limiter visit).1.calls := by
        simp only [attempt, log_events]
      have later := induction (attempt front limiter visit).2
      simp only [callsOf, log_cons, List.flatMap_cons, List.map_append, log_append, own] at later ⊢
      rw [← attempt_limiter, later]

/-- The requests do not overlap. -/
def Sequential (entries : List Entry) : Prop :=
  entries.Pairwise fun one two => one.2.finished ≤ two.1.state.world.process.readings

theorem transcript_courses (front : FrontEnv) (limiter : FixedWindowLimiter)
    (visits : List Visit) :
    ∀ entry ∈ log (attempt front) limiter visits, Course entry.1 entry.2 :=
  log_forall (fun _ => True) (fun _ _ _ => trivial)
    (fun limiter visit _ => attempt_course front limiter visit) visits trivial

/-- The calls of an entry come in order, within the readings of its request. -/
structure Clocked (front : FrontEnv) (entry : Entry) : Prop where
  between : ∀ call ∈ entry.2.calls,
    front.env.platform.monotonic entry.1.state.world.process.readings ≤ call.1.now ∧
      call.1.now ≤ front.env.platform.monotonic entry.2.finished
  ordered : (entry.2.calls.map Prod.fst).Pairwise fun one two => one.now ≤ two.now

theorem attempt_clocked {front : FrontEnv} (steady : Monotone front.env.platform.monotonic)
    (limiter : FixedWindowLimiter) (visit : Visit) :
    Clocked front (visit, (attempt front limiter visit).1) := by
  obtain ⟨between, ordered⟩ := calls_ordered steady (login front visit.request)
    { visit.state with loginLimiter := limiter }
  constructor
  · intro call member
    have listed := List.mem_map_of_mem (f := Prod.fst) member
    simp only [attempt, log_events] at listed
    exact between call.1 listed
  · simp only [attempt, log_events]
    exact ordered

theorem transcript_ordered {front : FrontEnv} (steady : Monotone front.env.platform.monotonic)
    {limiter : FixedWindowLimiter} {visits : List Visit}
    (sequential : Sequential (log (attempt front) limiter visits)) :
    ((callsOf (log (attempt front) limiter visits)).map Prod.fst).Pairwise
      fun one two => one.now ≤ two.now := by
  have each : ∀ entry ∈ log (attempt front) limiter visits, Clocked front entry :=
    log_forall (fun _ => True) (fun _ _ _ => trivial)
      (fun limiter visit _ => attempt_clocked steady limiter visit) visits trivial
  rw [List.pairwise_map, callsOf, List.pairwise_flatMap]
  constructor
  · intro entry member
    have ordered := (each entry member).ordered
    rw [List.pairwise_map] at ordered
    exact ordered
  · apply List.Pairwise.imp_of_mem _ sequential
    intro one two member later finished first fromOne second fromTwo
    have before := ((each one member).between first fromOne).2
    have after := ((each two later).between second fromTwo).1
    exact before.trans ((steady finished).trans after)

section Segments

variable {front : FrontEnv} {maxAttempts windowSecs : Int} {visits : List Visit}

/-- The app's limiter before the first login. -/
def freshLimiter (maxAttempts windowSecs : Int) : FixedWindowLimiter where
  maxAttempts := maxAttempts
  windowSecs := windowSecs
  windows := []

theorem fresh_valid (maxAttempts windowSecs : Int) :
    FixedWindows.Valid maxAttempts windowSecs (freshLimiter maxAttempts windowSecs) :=
  ⟨rfl, rfl, Dictionaries.distinct_nil⟩

/-- The calls about one key in a stretch of the transcript are those of its cell. -/
theorem segment_cell (steady : Monotone front.env.platform.monotonic)
    (positive : 1 ≤ maxAttempts) {earlier during later : List Entry}
    (split : log (attempt front) (freshLimiter maxAttempts windowSecs) visits =
      earlier ++ during ++ later)
    (sequential : Sequential
      (log (attempt front) (freshLimiter maxAttempts windowSecs) visits)) (key : String) :
    ∃ cell, Sound maxAttempts cell ∧
      (windows maxAttempts windowSecs).InOrder
        (((callsOf during).filter (isAbout key)).map Prod.fst) ∧
      log (windows maxAttempts windowSecs).cellStep cell
          (((callsOf during).filter (isAbout key)).map Prod.fst) =
        (callsOf during).filter (isAbout key) := by
  have ordered := transcript_ordered steady sequential
  have cells := limiter_realizes.log_about key ordered (fresh_valid maxAttempts windowSecs)
    fun _ _ => Alike.refl none
  rw [transcript_calls] at cells
  have whole : (callsOf (log (attempt front) (freshLimiter maxAttempts windowSecs) visits)).filter
      (isAbout key) = (callsOf earlier).filter (isAbout key) ++
        ((callsOf during).filter (isAbout key) ++ (callsOf later).filter (isAbout key)) := by
    rw [split]
    simp [callsOf]
  have first := (log_split (cells.symm.trans whole)).2
  refine ⟨_, ?_, ?_, (log_split first).1⟩
  · apply after_keeps fun cell timed sound => sound_step windowSecs positive timed sound
    intro window stored
    cases stored
  · rw [split] at ordered
    have part : (callsOf during).Sublist (callsOf (earlier ++ during ++ later)) := by
      simp only [callsOf, List.flatMap_append]
      exact (List.sublist_append_right _ _).trans (List.sublist_append_left _ _)
    exact List.Pairwise.sublist ((List.filter_sublist.trans part).map Prod.fst) ordered

end Segments

/-! ### Bounds -/

/-- A request about the key got past the gate, at a time of its check that counts. -/
def reachesAt (key : String) (within : ℚ → Bool) (entry : Entry) : Bool :=
  entry.2.reached && entry.2.calls.any fun call =>
    decide (call.1.call = .check key) && within call.1.now

def opens (key : String) (call : Timed × Verdict) : Bool :=
  decide (call.1.call = .check key) && call.2.opened

/-- The limits of one key on a stretch of requests: a window lets no more than its
number through, windows open a window's length apart, and a period of that
length lets through what two windows do. -/
structure Throttled (maxAttempts windowSecs : Int) (key : String) (entries : List Entry) :
    Prop where
  window : ∀ earlier during later, entries = earlier ++ during ++ later →
    (∀ entry ∈ during.tail, ∀ call ∈ entry.2.calls, opens key call = false) →
    ((during.countP (reachesAt key fun _ => true) : Nat) : Int) ≤ maxAttempts
  apart : ∀ earlier first between second later,
    entries = earlier ++ first :: (between ++ second :: later) →
    ∀ one ∈ first.2.calls, ∀ two ∈ second.2.calls, opens key one = true → opens key two = true →
      one.1.now + windowSecs ≤ two.1.now
  period : ∀ start : ℚ, ((entries.countP
    (reachesAt key fun now => start ≤ now && now < start + windowSecs) : Nat) : Int) ≤
      2 * maxAttempts
  closedPeriod : 0 < windowSecs → ∀ start : ℚ, ((entries.countP
    (reachesAt key fun now => start ≤ now && now ≤ start + windowSecs) : Nat) : Int) ≤
      2 * maxAttempts

/-- Nobody logs in under the key, but perhaps in the last of the requests. -/
def NoReset (key : String) (entries : List Entry) : Prop :=
  ∀ entry ∈ entries.dropLast, ∀ call ∈ entry.2.calls, call.1.call ≠ .reset key

theorem mem_calls_about {key : String} {entry : Entry} {call : Timed × Verdict}
    (member : call ∈ entry.2.calls) (checks : call.1.call = .check key) :
    call ∈ entry.2.calls.filter (isAbout key) := by
  apply List.mem_filter.2
  refine ⟨member, ?_⟩
  simp [isAbout, checks, LimiterCall.key]

/-- Requests are counted by calls that they made. -/
theorem countP_calls_le {key : String} {counts : Entry → Bool} {passed : Timed × Verdict → Bool}
    (entries : List Entry)
    (each : ∀ entry ∈ entries, counts entry = true →
      ∃ call ∈ entry.2.calls.filter (isAbout key), passed call = true) :
    entries.countP counts ≤ ((callsOf entries).filter (isAbout key)).countP passed := by
  induction entries with
  | nil => exact le_rfl
  | cons entry rest induction =>
      have later := induction fun other member => each other (List.mem_cons_of_mem _ member)
      have own : (if counts entry then 1 else 0) ≤
          (entry.2.calls.filter (isAbout key)).countP passed := by
        split
        · rename_i counted
          obtain ⟨call, member, passes⟩ := each entry List.mem_cons_self counted
          exact List.countP_pos_iff.2 ⟨call, member, passes⟩
        · exact Nat.zero_le _
      simp only [callsOf, List.flatMap_cons, List.filter_append, List.countP_append,
        List.countP_cons] at later ⊢
      omega

theorem reached_call {key : String} {within : ℚ → Bool} {entry : Entry}
    (course : Course entry.1 entry.2) (reaches : reachesAt key within entry = true) :
    ∃ call ∈ entry.2.calls.filter (isAbout key), passes call = true ∧ within call.1.now = true := by
  simp only [reachesAt, Bool.and_eq_true, List.any_eq_true, decide_eq_true_eq] at reaches
  obtain ⟨reached, call, member, checks, inside⟩ := reaches
  have passed := course_passed course reached member checks
  refine ⟨call, mem_calls_about member checks, ?_, inside⟩
  simp [passes, checks, passed]

/-- The requests that reach the password check are counted by checks that pass. -/
theorem reaching_le (key : String) (within : ℚ → Bool) {entries : List Entry}
    (courses : ∀ entry ∈ entries, Course entry.1 entry.2) :
    entries.countP (reachesAt key within) ≤
      ((callsOf entries).filter (isAbout key)).countP fun call =>
        passes call && within call.1.now := by
  apply countP_calls_le
  intro entry member reaches
  obtain ⟨call, made, passed, inside⟩ := reached_call (courses entry member) reaches
  exact ⟨call, made, by rw [passed, inside]; rfl⟩

section Entries

variable {key : String} {entry : Entry}

variable (key) in
/-- Only the first call of a login about a key may open a window. -/
theorem about_tail (course : Course entry.1 entry.2) :
    ∀ call ∈ (entry.2.calls.filter (isAbout key)).tail, call.2.opened = false := by
  intro call member
  rcases course_about course key with none_ | ⟨now, verdict, one⟩ | ⟨now, opened, time, two⟩
  · rw [none_] at member
    cases member
  · rw [one] at member
    cases member
  · rw [two] at member
    rw [List.mem_singleton.1 member]

/-- Only the last one may be a reset. -/
theorem about_drop_last (course : Course entry.1 entry.2) :
    ∀ call ∈ (entry.2.calls.filter (isAbout key)).dropLast, isReset call.1 = false := by
  intro call member
  rcases course_about course key with none_ | ⟨now, verdict, one⟩ | ⟨now, opened, time, two⟩
  · rw [none_] at member
    cases member
  · rw [one] at member
    cases member
  · rw [two] at member
    rw [List.mem_singleton.1 member]
    rfl

theorem about_opened (course : Course entry.1 entry.2) {call : Timed × Verdict}
    (member : call ∈ entry.2.calls) (opened : opens key call = true) :
    entry.2.calls.filter (isAbout key) =
      call :: (entry.2.calls.filter (isAbout key)).tail := by
  simp only [opens, Bool.and_eq_true, decide_eq_true_eq] at opened
  have listed := mem_calls_about member opened.1
  cases about : entry.2.calls.filter (isAbout key) with
  | nil =>
      rw [about] at listed
      cases listed
  | cons head tail =>
      rw [about] at listed
      cases listed with
      | head => rfl
      | tail _ later =>
          have never := about_tail key course call (by rw [about]; exact later)
          rw [opened.2] at never
          cases never

theorem about_reset {call : Timed × Verdict}
    (unreset : ∀ call ∈ entry.2.calls, call.1.call ≠ .reset key)
    (member : call ∈ entry.2.calls.filter (isAbout key)) : isReset call.1 = false := by
  obtain ⟨listed, about⟩ := List.mem_filter.1 member
  simp only [isAbout, decide_eq_true_eq] at about
  have never := unreset call listed
  unfold isReset
  cases called : call.1.call with
  | check other => rfl
  | reset other =>
      rw [called] at about never
      exact absurd (congrArg LimiterCall.reset about) never

theorem about_unopened (course : Course entry.1 entry.2)
    (unopened : ∀ call ∈ entry.2.calls, opens key call = false) :
    ∀ call ∈ entry.2.calls.filter (isAbout key), call.2.opened = false := by
  intro call member
  obtain ⟨listed, about⟩ := List.mem_filter.1 member
  cases opened : call.2.opened with
  | false => rfl
  | true =>
      have never := unopened call listed
      have first : call.1.call = .check key := by
        rcases course_about course key with none_ | ⟨now, verdict, one⟩ | ⟨now, flag, time, two⟩
        · rw [none_] at member
          cases member
        · rw [one] at member
          rw [List.mem_singleton.1 member]
        · rw [two] at member
          simp only [List.mem_cons, List.not_mem_nil, or_false] at member
          rcases member with rfl | rfl
          · rfl
          · cases opened
      simp [opens, first, opened] at never

end Entries

theorem mem_calls_of {entries : List Entry} {key : String} {call : Timed × Verdict}
    (member : call ∈ (callsOf entries).filter (isAbout key)) :
    ∃ entry ∈ entries, call ∈ entry.2.calls.filter (isAbout key) := by
  obtain ⟨listed, about⟩ := List.mem_filter.1 member
  obtain ⟨entry, inside, made⟩ := List.mem_flatMap.1 listed
  exact ⟨entry, inside, List.mem_filter.2 ⟨made, about⟩⟩

theorem calls_append (first second : List Entry) (key : String) :
    (callsOf (first ++ second)).filter (isAbout key) =
      (callsOf first).filter (isAbout key) ++ (callsOf second).filter (isAbout key) := by
  simp [callsOf]

theorem calls_cons (entry : Entry) (rest : List Entry) (key : String) :
    (callsOf (entry :: rest)).filter (isAbout key) =
      entry.2.calls.filter (isAbout key) ++ (callsOf rest).filter (isAbout key) := by
  simp [callsOf]

theorem about_tail_unopened {first : Entry} {rest : List Entry} {key : String}
    (courses : ∀ entry ∈ first :: rest, Course entry.1 entry.2)
    (unopened : ∀ entry ∈ rest, ∀ call ∈ entry.2.calls, opens key call = false) :
    ∀ call ∈ ((callsOf (first :: rest)).filter (isAbout key)).tail, call.2.opened = false := by
  have follow : ∀ call ∈ (callsOf rest).filter (isAbout key), call.2.opened = false := by
    intro call member
    obtain ⟨entry, inside, made⟩ := mem_calls_of member
    exact about_unopened (courses entry (List.mem_cons_of_mem _ inside)) (unopened entry inside)
      call made
  intro call member
  rw [calls_cons] at member
  cases own : first.2.calls.filter (isAbout key) with
  | nil =>
      rw [own] at member
      exact follow call (List.mem_of_mem_tail member)
  | cons head tail =>
      rw [own] at member
      rcases List.mem_append.1 member with mine | later
      · exact about_tail key (courses first List.mem_cons_self) call (by rw [own]; exact mine)
      · exact follow call later

theorem about_drop_unreset {entries : List Entry} {key : String}
    (courses : ∀ entry ∈ entries, Course entry.1 entry.2) (unreset : NoReset key entries) :
    ∀ timed ∈ (((callsOf entries).filter (isAbout key)).map Prod.fst).dropLast,
      isReset timed = false := by
  intro timed member
  rw [← List.map_dropLast] at member
  obtain ⟨call, inside, rfl⟩ := List.mem_map.1 member
  cases entries using List.reverseRecOn with
  | nil => cases inside
  | append_singleton init last _ =>
      rw [NoReset, List.dropLast_concat] at unreset
      have before : ∀ call ∈ (callsOf init).filter (isAbout key), isReset call.1 = false := by
        intro call member
        obtain ⟨entry, inside, made⟩ := mem_calls_of member
        exact about_reset (unreset entry inside) made
      have final : (callsOf [last]).filter (isAbout key) = last.2.calls.filter (isAbout key) := by
        simp [callsOf]
      rw [calls_append, final] at inside
      by_cases empty : last.2.calls.filter (isAbout key) = []
      · rw [empty, List.append_nil] at inside
        exact before call ((List.dropLast_sublist _).mem inside)
      · rw [List.dropLast_append_of_ne_nil empty] at inside
        rcases List.mem_append.1 inside with early | own
        · exact before call early
        · exact about_drop_last (courses last (by simp)) call own

section Bounds

variable {front : FrontEnv} {maxAttempts windowSecs : Int} {visits : List Visit}

theorem segment_throttled (steady : Monotone front.env.platform.monotonic)
    (positive : 1 ≤ maxAttempts)
    (sequential : Sequential (log (attempt front) (freshLimiter maxAttempts windowSecs) visits))
    {earlier entries later : List Entry}
    (split : log (attempt front) (freshLimiter maxAttempts windowSecs) visits =
      earlier ++ entries ++ later)
    {key : String} (unreset : NoReset key entries) :
    Throttled maxAttempts windowSecs key entries := by
  have courses : ∀ entry ∈ entries, Course entry.1 entry.2 := by
    intro entry member
    apply transcript_courses front (freshLimiter maxAttempts windowSecs) visits entry
    rw [split]
    exact List.mem_append_left _ (List.mem_append_right _ member)
  obtain ⟨cell, sound, ordered, logged⟩ := segment_cell steady positive split sequential key
  have closed : 0 < windowSecs → ∀ start : ℚ, ((entries.countP
      (reachesAt key fun now => start ≤ now && now ≤ start + windowSecs) : Nat) : Int) ≤
        2 * maxAttempts := by
    intro window start
    have bound := counted_segment start (start + windowSecs) positive window
      le_rfl (((callsOf entries).filter (isAbout key)).map Prod.fst)
      (about_drop_unreset courses unreset) ordered sound
    rw [logged] at bound
    have counts := reaching_le key (fun now => start ≤ now && now ≤ start + windowSecs) courses
    have same : (fun call : Timed × Verdict => passes call &&
        (decide (start ≤ call.1.now) && decide (call.1.now ≤ start + windowSecs))) =
          counted start (start + windowSecs) := by
      funext call
      exact (Bool.and_assoc _ _ _).symm
    rw [same] at counts
    omega
  constructor
  · intro before during behind within unopened
    have inner : log (attempt front) (freshLimiter maxAttempts windowSecs) visits =
        (earlier ++ before) ++ during ++ (behind ++ later) := by
      rw [split, within]
      simp
    obtain ⟨cell, sound, ordered, logged⟩ := segment_cell steady positive inner sequential key
    have inside : ∀ entry ∈ during, Course entry.1 entry.2 := by
      intro entry member
      apply courses
      rw [within]
      exact List.mem_append_left _ (List.mem_append_right _ member)
    have bound := window_passes windowSecs positive
      (((callsOf during).filter (isAbout key)).map Prod.fst) sound (by
        rw [logged]
        cases during with
        | nil =>
            intro call member
            cases member
        | cons first rest => exact about_tail_unopened inside unopened)
    rw [logged] at bound
    have counts : during.countP (reachesAt key fun _ => true) ≤
        ((callsOf during).filter (isAbout key)).countP passes := by
      simpa using reaching_le key (fun _ => true) inside
    omega
  · intro before first between second behind within one fromFirst two fromSecond opensOne opensTwo
    have earlierOnes : ∀ entry ∈ first :: between, entry ∈ entries.dropLast := by
      intro entry member
      have parted : entries = (before ++ first :: between) ++ second :: behind := by
        rw [within]
        simp
      rw [parted, List.dropLast_append_cons]
      exact List.mem_append_left _ (List.mem_append_right _ member)
    have firstIn := earlierOnes first List.mem_cons_self
    have whole := calls_append before (first :: (between ++ second :: behind)) key
    rw [← within, calls_cons, calls_append, calls_cons,
      about_opened (courses first (List.dropLast_sublist _ |>.mem firstIn)) fromFirst opensOne,
      about_opened (courses second (by rw [within]; simp)) fromSecond opensTwo] at whole
    have arranged : (callsOf entries).filter (isAbout key) =
        (callsOf before).filter (isAbout key) ++ one ::
          (((first.2.calls.filter (isAbout key)).tail ++ (callsOf between).filter (isAbout key)) ++
            two :: ((second.2.calls.filter (isAbout key)).tail ++
              (callsOf behind).filter (isAbout key))) := by
      rw [whole]
      simp
    rw [arranged] at logged
    apply openings_apart positive _ logged
    · simp only [opens, Bool.and_eq_true] at opensOne
      exact opensOne.2
    · simp only [opens, Bool.and_eq_true] at opensTwo
      exact opensTwo.2
    · intro call member
      rcases List.mem_append.1 member with own | betweens
      · exact about_reset (unreset first firstIn) (List.mem_of_mem_tail own)
      · obtain ⟨entry, inside, made⟩ := mem_calls_of betweens
        exact about_reset (unreset entry (earlierOnes entry (List.mem_cons_of_mem _ inside))) made
    · rw [← arranged]
      exact ordered
  · intro start
    by_cases window : 0 < windowSecs
    · have shorter : entries.countP (reachesAt key fun now =>
          start ≤ now && now < start + windowSecs) ≤
            entries.countP (reachesAt key fun now => start ≤ now && now ≤ start + windowSecs) := by
        apply List.countP_mono_left
        intro entry _ reaches
        simp only [reachesAt, Bool.and_eq_true, List.any_eq_true, decide_eq_true_eq] at reaches ⊢
        obtain ⟨reached, call, made, checks, after, before⟩ := reaches
        exact ⟨reached, call, made, checks, after, before.le⟩
      have bound := closed window start
      omega
    · have empty : entries.countP (reachesAt key fun now =>
          start ≤ now && now < start + windowSecs) = 0 := by
        rw [List.countP_eq_zero]
        intro entry _ reaches
        simp only [reachesAt, Bool.and_eq_true, List.any_eq_true, decide_eq_true_eq] at reaches
        obtain ⟨_, call, _, _, after, before⟩ := reaches
        have secs : (windowSecs : ℚ) ≤ 0 := by exact_mod_cast not_lt.1 window
        linarith
      rw [empty]
      push_cast
      omega
  · exact closed

/-- No login resets an address. -/
theorem address_unreset {entries : List Entry}
    (courses : ∀ entry ∈ entries, Course entry.1 entry.2) (clientHost : Option String) :
    NoReset (addressKey clientHost) entries := by
  intro entry member call made resets
  have course := courses entry ((List.dropLast_sublist _).mem member)
  cases course with
  | byAddress now seconds opened calls =>
      rw [calls, List.mem_singleton] at made
      rw [made] at resets
      cases resets
  | byName now asked seconds opened openedName calls =>
      rw [calls] at made
      simp only [List.mem_cons, List.not_mem_nil, or_false] at made
      rcases made with rfl | rfl <;> cases resets
  | past now asked opened openedName others calls reached succeeded =>
      rw [calls] at made
      rcases succeeded with rfl | ⟨time, rfl⟩
      · simp only [List.mem_cons, List.not_mem_nil, or_false] at made
        rcases made with rfl | rfl <;> cases resets
      · simp only [List.mem_cons, List.not_mem_nil, or_false] at made
        rcases made with rfl | rfl | rfl
        · cases resets
        · cases resets
        · exact keys_apart clientHost (submittedName entry.1.request)
            (LimiterCall.reset.inj resets).symm

/-! ### Refusals -/

/-- A request refused with a time to wait is let through by that key after it. -/
def Retried (entries : List Entry) : Prop :=
  ∀ (earlier later : List Entry) (first second : Entry),
    entries = earlier ++ first :: second :: later →
    ∀ one ∈ first.2.calls, ∀ two ∈ second.2.calls, ∀ seconds : Int,
      one.2.retryAfter = some seconds → two.1.call = one.1.call →
      one.1.now + seconds ≤ two.1.now → two.2.retryAfter = none

/-- What a refusal leaves as it was, to every later check: the key that refused,
and the name of a request whose address is exhausted. -/
structure Unrecorded (visit : Visit) (report : Report) (before next : FixedWindowLimiter) :
    Prop where
  refused : ∀ call ∈ report.calls, call.2.retryAfter ≠ none → ∀ time, call.1.now ≤ time →
    windowAt next call.1.call.key time = windowAt before call.1.call.key time
  exhausted : ∀ call ∈ report.calls, call.1.call = .check visit.address →
    call.2.retryAfter ≠ none → ∀ time, call.1.now ≤ time →
    windowAt next visit.name time = windowAt before visit.name time

/-- A refusal is the last call of its request, and its only one about the key. -/
theorem about_refused {entry : Entry} (course : Course entry.1 entry.2)
    {call : Timed × Verdict} (made : call ∈ entry.2.calls) {seconds : Int}
    (refused : call.2.retryAfter = some seconds) :
    ∃ key, call.1.call = .check key ∧ entry.2.calls.filter (isAbout key) = [call] ∧
      entry.2.response = .error (tooManyAttempts seconds) := by
  have apart := address_ne_name entry.1
  cases course with
  | byAddress now waits opened calls reached response =>
      rw [calls] at made ⊢
      rw [List.mem_singleton] at made
      subst made
      cases refused
      exact ⟨_, rfl, by simp [isAbout, LimiterCall.key], response⟩
  | byName now asked waits opened openedName calls reached response =>
      rw [calls] at made ⊢
      simp only [List.mem_cons, List.not_mem_nil, or_false] at made
      rcases made with rfl | rfl
      · cases refused
      · cases refused
        exact ⟨_, rfl, by simp [isAbout, LimiterCall.key, apart], response⟩
  | past now asked opened openedName resets calls reached succeeded =>
      rw [calls] at made
      rcases succeeded with rfl | ⟨time, rfl⟩
      · simp only [List.mem_cons, List.not_mem_nil, or_false] at made
        rcases made with rfl | rfl <;> cases refused
      · simp only [List.mem_cons, List.not_mem_nil, or_false] at made
        rcases made with rfl | rfl | rfl <;> cases refused

/-- A check is the first call of its request about the key. -/
theorem about_check {entry : Entry} (course : Course entry.1 entry.2)
    {call : Timed × Verdict} (made : call ∈ entry.2.calls) {key : String}
    (checks : call.1.call = .check key) :
    ∃ rest, entry.2.calls.filter (isAbout key) = call :: rest := by
  have listed := mem_calls_about made checks
  rcases course_about course key with none_ | ⟨now, verdict, one⟩ | ⟨now, opened, time, two⟩
  · rw [none_] at listed
    cases listed
  · rw [one] at listed ⊢
    rw [List.mem_singleton.1 listed]
    exact ⟨[], rfl⟩
  · rw [two] at listed ⊢
    simp only [List.mem_cons, List.not_mem_nil, or_false] at listed
    rcases listed with rfl | rfl
    · exact ⟨_, rfl⟩
    · cases checks

theorem transcript_retried (steady : Monotone front.env.platform.monotonic)
    (positive : 1 ≤ maxAttempts)
    (sequential : Sequential (log (attempt front) (freshLimiter maxAttempts windowSecs) visits)) :
    Retried (log (attempt front) (freshLimiter maxAttempts windowSecs) visits) := by
  intro earlier later first second parted one fromFirst two fromSecond seconds refused same waited
  have courses := transcript_courses front (freshLimiter maxAttempts windowSecs) visits
  have courseFirst := courses first (by rw [parted]; simp)
  have courseSecond := courses second (by rw [parted]; simp)
  obtain ⟨key, checks, only, _⟩ := about_refused courseFirst fromFirst refused
  obtain ⟨rest, again⟩ := about_check courseSecond fromSecond (same.trans checks)
  have whole : log (attempt front) (freshLimiter maxAttempts windowSecs) visits =
      [] ++ (earlier ++ first :: second :: later) ++ [] := by
    rw [parted]
    simp
  obtain ⟨cell, _, _, logged⟩ := segment_cell steady positive whole sequential key
  have arranged : (callsOf (earlier ++ first :: second :: later)).filter (isAbout key) =
      (callsOf earlier).filter (isAbout key) ++ one :: two ::
        (rest ++ (callsOf later).filter (isAbout key)) := by
    rw [calls_append, calls_cons, calls_cons, only, again]
    simp
  exact retry_passes positive (logged.trans arranged) refused waited

theorem attempt_unrecorded (steady : Monotone front.env.platform.monotonic)
    (positive : 1 ≤ maxAttempts) {before : FixedWindowLimiter}
    (valid : FixedWindows.Valid maxAttempts windowSecs before) (visit : Visit) :
    Unrecorded visit (attempt front before visit).1 before (attempt front before visit).2 := by
  have course := attempt_course front before visit
  have clocked := attempt_clocked steady before visit
  have limiter := attempt_limiter front before visit
  have own : log limiterStep before ((attempt front before visit).1.calls.map Prod.fst) =
      (attempt front before visit).1.calls := by
    simp only [attempt, log_events]
  have apart := address_ne_name visit
  cases course with
  | byAddress now seconds opened calls =>
      rw [calls] at own limiter
      simp only [List.map_cons, List.map_nil, log_cons, log_nil, List.cons.injEq, and_true,
        Prod.mk.injEq, true_and] at own
      have stays : ∀ key time, now ≤ time →
          windowAt (attempt front before visit).2 key time = windowAt before key time := by
        intro key time order
        rw [limiter]
        exact refused_records_nothing positive valid (by rw [own]; simp) key order
      constructor
      · intro call made _ time order
        rw [calls, List.mem_singleton] at made
        rw [made] at order ⊢
        exact stays _ time order
      · intro call made _ _ time order
        rw [calls, List.mem_singleton] at made
        rw [made] at order
        exact stays _ time order
  | byName now asked seconds opened openedName calls =>
      rw [calls] at own limiter
      simp only [List.map_cons, List.map_nil, log_cons, log_nil, List.cons.injEq, and_true,
        Prod.mk.injEq, true_and] at own
      have inOrder : now ≤ asked := by
        have ordered := clocked.ordered
        rw [calls] at ordered
        simpa using ordered
      have between := limiter_realizes.keeps before ⟨now, .check visit.address⟩ valid
      constructor
      · intro call made refused time order
        rw [calls] at made
        simp only [List.mem_cons, List.not_mem_nil, or_false] at made
        rcases made with rfl | rfl
        · exact absurd rfl refused
        · have other : visit.name ≠ (LimiterCall.check visit.address).key := fun same =>
            apart same.symm
          rw [limiter]
          exact (refused_records_nothing positive between (by rw [own.2]; simp) visit.name order).trans
            (other_window valid ⟨now, .check visit.address⟩ other (inOrder.trans order))
      · intro call made checks refused
        rw [calls] at made
        simp only [List.mem_cons, List.not_mem_nil, or_false] at made
        rcases made with rfl | rfl
        · exact absurd rfl refused
        · exact absurd (LimiterCall.check.inj checks).symm apart
  | past now asked opened openedName resets calls reached =>
      have passed : ∀ call ∈ (attempt front before visit).1.calls, call.2.retryAfter = none := by
        intro call made
        cases waits : call.2.retryAfter with
        | none => rfl
        | some seconds =>
            obtain ⟨key, checks, _, _⟩ :=
              @about_refused (visit, (attempt front before visit).1)
                (attempt_course front before visit) _ made _ waits
            exact (course_passed (attempt_course front before visit) reached made checks).symm.trans
              waits |>.symm
      constructor
      · intro call made refused
        exact absurd (passed call made) refused
      · intro call made _ refused
        exact absurd (passed call made) refused

theorem attempts_valid (earlier : List Visit) :
    FixedWindows.Valid maxAttempts windowSecs
      (after (attempt front) (freshLimiter maxAttempts windowSecs) earlier) := by
  apply after_keeps _ earlier (fresh_valid maxAttempts windowSecs)
  intro limiter visit valid
  rw [attempt_limiter]
  exact after_keeps limiter_realizes.keeps _ valid

end Bounds

/-- For every limiter that allows an attempt, every clock that does not run backwards
and every sequence of logins that do not overlap: an address keeps to its limits
whoever logs in, a name keeps to them until somebody logs in under it, a refusal
is told to the client, records nothing, and ends when it says. -/
theorem logins_throttled (front : FrontEnv) (steady : Monotone front.env.platform.monotonic)
    (maxAttempts windowSecs : Int) (positive : 1 ≤ maxAttempts) (visits : List Visit)
    (sequential : Sequential (log (attempt front) (freshLimiter maxAttempts windowSecs) visits)) :
    let transcript := log (attempt front) (freshLimiter maxAttempts windowSecs) visits
    (∀ clientHost, Throttled maxAttempts windowSecs (addressKey clientHost) transcript) ∧
      (∀ username earlier during later, transcript = earlier ++ during ++ later →
        NoReset (nameKey username) during →
        Throttled maxAttempts windowSecs (nameKey username) during) ∧
      (∀ entry ∈ transcript, ∀ call ∈ entry.2.calls, ∀ seconds,
        call.2.retryAfter = some seconds →
        entry.2.response = .error (tooManyAttempts seconds)) ∧
      (∀ earlier visit later, visits = earlier ++ visit :: later →
        let before := after (attempt front) (freshLimiter maxAttempts windowSecs) earlier
        Unrecorded visit (attempt front before visit).1 before (attempt front before visit).2) ∧
      Retried transcript := by
  intro transcript
  have courses := transcript_courses front (freshLimiter maxAttempts windowSecs) visits
  refine ⟨?_, ?_, ?_, ?_, transcript_retried steady positive sequential⟩
  · intro clientHost
    have split : transcript = [] ++ transcript ++ [] := by simp
    exact segment_throttled steady positive sequential split (address_unreset courses clientHost)
  · intro username earlier during later split unreset
    exact segment_throttled steady positive sequential split unreset
  · intro entry member call made seconds refused
    obtain ⟨_, _, _, response⟩ := about_refused (courses entry member) made refused
    exact response
  · intro earlier visit later _
    exact attempt_unrecorded steady positive (attempts_valid earlier) visit

/-- A guess at a password, from one address, once the clocks have been read so often. -/
def guess (readings : Nat) : Visit where
  request :=
    { form := [("username", "alice"), ("password", "guess")]
      clientHost := some "203.0.113.7" }
  state :=
    { frontWorld true with world := { (frontWorld true).world with
        process := { (frontWorld true).world.process with readings := readings } } }

theorem monotonic_steady : Monotone frontEnv.env.platform.monotonic := by
  intro earlier later order
  exact Nat.cast_le.2 order

/-- One attempt in 900 seconds: the second guess does not reach the password check,
the one after the window does. -/
theorem guesses_throttled :
    ((log (attempt frontEnv) (freshLimiter 1 900) [guess 0, guess 100, guess 1000]).map
        fun entry => entry.2.reached) = [true, false, true] ∧
      Throttled 1 900 (addressKey (some "203.0.113.7"))
        (log (attempt frontEnv) (freshLimiter 1 900) [guess 0, guess 100, guess 1000]) := by
  refine ⟨by decide +kernel, ?_⟩
  exact (logins_throttled frontEnv monotonic_steady 1 900 (by decide)
    [guess 0, guess 100, guess 1000] (by unfold Sequential; decide +kernel)).1 _

end OAuth2Server.LoginThrottle
