import OAuth2Server.AuthorizeExits
import OAuth2Server.LoginGate
import OAuth2Server.Words

/-!
# Through the login and back

An authorization request that needs a login is stored in the session without
what forced the login, and replayed after it. The replay has the parameters of
the first request, but two of them do not survive the way: a pushed request is
spent by the first pass, and `select_account` forces the login again.
-/

namespace OAuth2Server.LoginRoundTrip

open OAuth2Server Models JsonText Effects Interaction Interaction.Program
open Process ClientAuth Endpoints FrontChannel AuthorizeResponse Authorize AuthorizeExits LoginGate
open QueryText Words ClientIdentity Runs

set_option autoImplicit false

/-! ### The replayed query -/

/-- The parameters that are not replayed as they are. -/
def isReauth (key : String) : Bool := key == "max_age" || key == "prompt"

def replayed (params : Form) : Form := params.filterMap stripPair

/-- The replayed query is read back as it was written. -/
theorem parse_strip_reauth (query : String) :
    parseQsl (stripReauthParams query) = replayed (parseQsl query) :=
  parse_qsl_urlencode _

theorem strip_pair_other {pair : String × String} (other : isReauth pair.1 = false) :
    stripPair pair = some pair := by
  simp only [isReauth, Bool.or_eq_false_iff] at other
  unfold stripPair
  rw [other.1, other.2]
  rfl

theorem strip_pair_key {pair kept : String × String} (stripped : stripPair pair = some kept) :
    kept.1 = pair.1 ∧ pair.1 ≠ "max_age" := by
  unfold stripPair at stripped
  split at stripped
  · cases stripped
  · rename_i notAge
    have differs : pair.1 ≠ "max_age" := by simpa using notAge
    split at stripped
    · dsimp only at stripped
      split at stripped
      · cases stripped
        exact ⟨rfl, differs⟩
      · cases stripped
    · cases stripped
      exact ⟨rfl, differs⟩

theorem replayed_other (params : Form) {key : String} (other : isReauth key = false) :
    (replayed params).get key = params.get key := by
  unfold replayed Form.get
  induction params with
  | nil => rfl
  | cons pair rest induction =>
      by_cases same : key = pair.1
      · have kept := strip_pair_other (same ▸ other : isReauth pair.1 = false)
        have hit : (key == pair.1) = true := by simpa using same
        rw [List.filterMap_cons_some kept, List.lookup_cons, List.lookup_cons, hit]
      · have absent : (key == pair.1) = false := by simpa using same
        rw [List.lookup_cons, absent, ← induction]
        cases stripped : stripPair pair with
        | none => rw [List.filterMap_cons_none stripped]
        | some kept =>
            have renamed : (key == kept.1) = false := by
              rw [(strip_pair_key stripped).1]
              exact absent
            rw [List.filterMap_cons_some stripped, List.lookup_cons, renamed]

theorem replayed_max_age (params : Form) : (replayed params).get "max_age" = none := by
  unfold replayed Form.get
  induction params with
  | nil => rfl
  | cons pair rest induction =>
      cases stripped : stripPair pair with
      | none =>
          rw [List.filterMap_cons_none stripped]
          exact induction
      | some kept =>
          obtain ⟨sameKey, differs⟩ := strip_pair_key stripped
          have renamed : ("max_age" == kept.1) = false := by
            rw [sameKey]
            simpa using differs.symm
          rw [List.filterMap_cons_some stripped, List.lookup_cons, renamed]
          exact induction

/-- What is left of a prompt. -/
def remainingPrompt (prompt : String) : String :=
  " ".intercalate ((Text.split prompt).filter (· != "login"))

theorem replayed_prompt (params : Form) (distinct : (params.map Prod.fst).Nodup) :
    (replayed params).get "prompt" =
      (params.get "prompt").bind fun prompt =>
        if remainingPrompt prompt != "" then some (remainingPrompt prompt) else none := by
  unfold replayed Form.get
  induction params with
  | nil => rfl
  | cons pair rest induction =>
      obtain ⟨fresh, later⟩ := List.nodup_cons.1 distinct
      by_cases same : pair.1 = "prompt"
      · have absent : rest.lookup "prompt" = none := by
          rw [List.lookup_eq_none_iff]
          intro other member
          have differs : pair.1 ≠ other.1 := by
            intro equal
            apply fresh
            rw [equal]
            exact List.mem_map_of_mem member
          rw [same] at differs
          simpa using differs
        have nothing := induction later
        rw [absent] at nothing
        have hit : ("prompt" == pair.1) = true := by simp [same]
        have found : (pair :: rest).lookup "prompt" = some pair.2 := by
          rw [List.lookup_cons, hit]
        have stripped : stripPair pair =
            if remainingPrompt pair.2 != "" then some (pair.1, remainingPrompt pair.2)
            else none := by
          unfold stripPair
          rw [same]
          rfl
        rw [found]
        dsimp only [Option.bind_some]
        by_cases remains : (remainingPrompt pair.2 != "") = true
        · rw [if_pos remains] at stripped ⊢
          rw [List.filterMap_cons_some stripped, List.lookup_cons, hit]
        · rw [if_neg remains] at stripped ⊢
          rw [List.filterMap_cons_none stripped]
          exact nothing
      · have differs : ("prompt" == pair.1) = false := by
          simpa using fun equal : "prompt" = pair.1 => same equal.symm
        rw [List.lookup_cons, differs, ← induction later]
        cases stripped : stripPair pair with
        | none => rw [List.filterMap_cons_none stripped]
        | some kept =>
            have renamed : ("prompt" == kept.1) = false := by
              rw [(strip_pair_key stripped).1]
              exact differs
            rw [List.filterMap_cons_some stripped, List.lookup_cons, renamed]

/-- The prompts of the replay are those of the request, `login` left out. -/
theorem replayed_prompt_values (params : Form) (distinct : (params.map Prod.fst).Nodup) :
    promptValues (replayed params) = (promptValues params).filter (· != "login") := by
  unfold promptValues
  rw [replayed_prompt params distinct]
  cases params.get "prompt" with
  | none => rfl
  | some prompt =>
      have words := split_join_filter prompt (· != "login")
      dsimp only [Option.bind_some, Option.getD_some]
      by_cases remains : (remainingPrompt prompt != "") = true
      · rw [if_pos remains, Option.getD_some]
        exact words
      · have empty : remainingPrompt prompt = "" := by simpa using remains
        unfold remainingPrompt at empty
        rw [empty] at words
        rw [if_neg remains, Option.getD_none]
        exact words

/-- Only `select_account` can force a second login. -/
theorem force_login_replayed (params : Form) (distinct : (params.map Prod.fst).Nodup) :
    forceLogin (replayed params) = (promptValues params).contains "select_account" := by
  unfold forceLogin
  rw [replayed_prompt_values params distinct, Bool.eq_iff_iff]
  simp

/-! ### The return target -/

/-- The query string of a stored target. -/
def targetQuery (target : String) : String := String.ofList (Url.after '?' target.toList)

/-- A character of a stored target. -/
def isTargetChar (char : Char) : Bool :=
  isPlain char || char == '&' || char == '=' || char == '?' || char == '/'

theorem target_char_urlencode (pairs : List (String × String)) :
    ∀ char ∈ (urlencode pairs).toList, isTargetChar char = true := by
  intro char member
  rcases mem_urlencode member with plain | rfl | rfl
  · simp [isTargetChar, plain]
  · decide
  · decide

theorem target_char_return (query : String) :
    ∀ char ∈ (returnTarget query).toList, isTargetChar char = true := by
  have path : ∀ char ∈ authorizePath.toList, isTargetChar char = true := by decide
  unfold returnTarget
  split
  · exact path
  · intro char member
    simp only [String.toList_append, List.mem_append] at member
    rcases member with (inPath | mark) | inQuery
    · exact path char inPath
    · rw [List.mem_singleton.1 mark]
      decide
    · exact target_char_urlencode _ char inQuery

/-- The characters of a target are ASCII ones. -/
theorem target_char_ascii {char : Char} (target : isTargetChar char = true) : char.toNat < 128 := by
  simp only [isTargetChar, isPlain, isUnreserved, Url.isAsciiLetter, Url.isAsciiDigit,
    Bool.or_eq_true, Bool.and_eq_true, beq_iff_eq, decide_eq_true_eq] at target
  have bound : ∀ {last : Char}, last.toNat < 128 → char ≤ last → char.toNat < 128 := by
    intro last small within
    exact lt_of_le_of_lt (Char.le_def.1 within) small
  rcases target with ((((((((((((lower | upper) | digit) | rfl) | rfl) | rfl) | rfl) | rfl) | rfl) |
    rfl) | rfl) | rfl) | rfl)
  · exact bound (by decide) lower.2
  · exact bound (by decide) upper.2
  · exact bound (by decide) digit.2
  all_goals decide

/-- None of them is a blank, and a redirect leaves each as it is. -/
theorem target_char_kept {char : Char} (target : isTargetChar char = true) :
    Text.isSpace char = false ∧ (isUnreserved char || safeInLocation char) = true ∧
      char ≠ '\\' := by
  have each : ∀ code : Fin 128, isTargetChar (Char.ofNat code) = true →
      Text.isSpace (Char.ofNat code) = false ∧
        (isUnreserved (Char.ofNat code) || safeInLocation (Char.ofNat code)) = true ∧
        Char.ofNat code ≠ '\\' := by decide
  have here := each ⟨char.toNat, target_char_ascii target⟩
  rw [Char.ofNat_toNat] at here
  exact here target

/-- The `Location` of a redirect to the target is the target. -/
theorem quote_return_target (query : String) :
    quote safeInLocation (returnTarget query) = returnTarget query := by
  apply quote_unchanged
  intro char member
  have kept := (target_char_kept (target_char_return query char member)).2.1
  simpa using kept

theorem strip_return_target (query : String) :
    Text.strip (returnTarget query) = returnTarget query := by
  have clean : ∀ char ∈ (returnTarget query).toList, Text.isSpace char = false := by
    intro char member
    exact (target_char_kept (target_char_return query char member)).1
  have dropped : ∀ text : List Char, (∀ char ∈ text, Text.isSpace char = false) →
      text.dropWhile Text.isSpace = text := by
    intro text blank
    cases text with
    | nil => rfl
    | cons char rest =>
        rw [List.dropWhile_cons, if_neg (by simp [blank char List.mem_cons_self])]
  unfold Text.strip
  rw [dropped _ clean, dropped _ fun char member => clean char (List.mem_reverse.1 member),
    List.reverse_reverse, String.ofList_toList]

/-- A stored target passes the check of the login. -/
theorem safe_return_target (query : String) : isSafeRedirect (some (returnTarget query)) = true := by
  have start : ∃ rest, (returnTarget query).toList = '/' :: 'o' :: rest := by
    unfold returnTarget
    split
    · exact ⟨_, rfl⟩
    · rw [String.toList_append, String.toList_append]
      exact ⟨_, rfl⟩
  have forward : (returnTarget query).toList.contains '\\' = false := by
    by_contra backslash
    have member : '\\' ∈ (returnTarget query).toList := by simpa using backslash
    exact (target_char_kept (target_char_return query _ member)).2.2 rfl
  obtain ⟨rest, spelled⟩ := start
  have present : returnTarget query ≠ "" := by
    intro empty
    rw [empty] at spelled
    cases spelled
  unfold isSafeRedirect
  dsimp only
  rw [strip_return_target, forward, spelled]
  simp [present]

/-- A non-empty query is replayed as it was stripped. -/
theorem target_query_return {query : String} (present : query ≠ "") :
    targetQuery (returnTarget query) = stripReauthParams query := by
  have spelled : (returnTarget query).toList =
      authorizePath.toList ++ '?' :: (stripReauthParams query).toList := by
    unfold returnTarget
    rw [if_neg (by simpa using present), String.toList_append, String.toList_append]
    simp
  have path : ∀ char ∈ authorizePath.toList, char ≠ '?' := by decide
  unfold targetQuery
  rw [spelled, (before_append '?' _ _ path).2, String.ofList_toList]

/-! ### Who is sent to the login -/

/-- The response is the redirect to the login page. -/
def sentToLogin (response : Response) : Bool :=
  response.status == 302 && response.headers == [("location", "/auth/login")]

theorem delivered_elsewhere {mode : ResponseMode} {redirectUri : String}
    {params : List (String × String)} {response : Response}
    (delivered : deliver mode redirectUri params = .ok response) : sentToLogin response = false := by
  have marked : ∀ target, sentToLogin (redirect 302 target authResponseHeaders) = false := by
    intro target
    unfold sentToLogin redirect
    rw [Bool.and_eq_false_iff]
    exact .inr (by simp [authResponseHeaders])
  unfold deliver at delivered
  split at delivered
  · cases delivered
  · split at delivered
    · cases delivered
    · split at delivered <;> cases delivered
      · rfl
      · exact marked _
      · exact marked _

theorem page_elsewhere {response : Response} (page : Page response) :
    sentToLogin response = false := by
  have status : (response.status == 302) = false := by
    unfold Page at page
    rw [beq_eq_false_iff_ne]
    omega
  simp [sentToLogin, status]

/-- Every other exit leads elsewhere. -/
theorem answered_elsewhere {env : Env} {resolved : Resolved} {response : Response}
    (answered : Answered env resolved response) : sentToLogin response = false := by
  cases answered with
  | inl page => exact page_elsewhere page
  | inr delivered =>
      obtain ⟨channel, params, _, built, _⟩ := delivered
      exact delivered_elsewhere built

variable {front : FrontEnv} {state : FrontWorld} {query : String}

/-- The gate that sends a request to the login: nothing before it does, nor what follows it. -/
theorem sent_by_gate {response : Response} {waiting : FrontWorld}
    (answer : (authorize front.env query).respond front.interp state = (response, waiting))
    (sent : sentToLogin response = true) :
    ∃ resolved request middle,
      (resolve front.env (parseQsl query)).run front.interp state = (.ok resolved, middle) ∧
      checkRequest front.env resolved = .ok request ∧
      (loginGate front.env query resolved.params request.channel).run front.interp middle =
        (.error response, waiting) := by
  unfold respond at answer
  rw [authorize_run] at answer
  cases resolution : (resolve front.env (parseQsl query)).run front.interp state with
  | mk outcome middle =>
      rw [resolution] at answer
      cases outcome with
      | error page =>
          have shown := Uses.run_raises (uses_resolve front.env _) resolution
          cases answer
          rw [page_elsewhere shown] at sent
          cases sent
      | ok resolved =>
          dsimp only at answer
          cases checked : checkRequest front.env resolved with
          | error refusal =>
              rw [checked] at answer
              have answered := raising_check_request front.env resolved refusal checked
              cases answer
              rw [answered_elsewhere answered] at sent
              cases sent
          | ok request =>
              rw [checked] at answer
              dsimp only at answer
              cases gated : (loginGate front.env query resolved.params request.channel).run
                  front.interp middle with
              | mk passed later =>
                  rw [gated] at answer
                  cases passed with
                  | error refusal =>
                      cases answer
                      exact ⟨resolved, request, middle, rfl, checked, gated⟩
                  | ok userId =>
                      have answered := finish_answered userId front.interp later
                        (check_request_ok checked)
                      have same : (finish front.env request userId).respond front.interp later =
                          (response, waiting) := answer
                      rw [same] at answered
                      rw [answered_elsewhere answered] at sent
                      cases sent

/-! ### The first pass -/

/-- Operations that leave the pushed requests and the session alone. -/
def Aside : FrontOp → Prop
  | .server _ => True
  | _ => False

/-- The pushed requests and the session are as they were. -/
structure Untouched (state later : FrontWorld) : Prop where
  parStore : later.parStore = state.parStore
  session : later.session = state.session

theorem Untouched.trans {first second third : FrontWorld} (earlier : Untouched first second)
    (later : Untouched second third) : Untouched first third :=
  ⟨later.parStore.trans earlier.parStore, later.session.trans earlier.session⟩

theorem aside_untouched {α : Type} {raises : Response → Prop} {program : FrontHandler α}
    {outcome : Except Response α} {later : FrontWorld}
    (uses : Uses (S := Front) Aside raises program)
    (ran : program.run front.interp state = (outcome, later)) : Untouched state later := by
  have kept : Untouched state (program.run front.interp state).2 := by
    apply Uses.run_keeps (Untouched state) _ uses ⟨rfl, rfl⟩
    intro op world aside kept
    cases op with
    | server op => exact ⟨kept.parStore, kept.session⟩
    | _ => exact aside.elim
  rw [ran] at kept
  exact kept

theorem known_client_named {clientId : Option String} {later : FrontWorld} {client : Client}
    (ran : (knownClient clientId).run front.interp state = (.ok client, later)) :
    clientId ≠ none := by
  rintro rfl
  cases ran

/-- A pushed request is taken out of the store. -/
theorem resolve_pushed_spends {params merged : Form} {later : FrontWorld} {requestUri : String}
    (named : params.get "request_uri" = some requestUri)
    (ran : (resolvePushed params).run front.interp state = (.ok merged, later)) :
    later.parStore.lookup requestUri = none := by
  have missing : ∀ entries : Dict ParEntry,
      (entries.filter (·.1 != requestUri)).lookup requestUri = none := by
    intro entries
    rw [List.lookup_eq_none_iff]
    intro entry member
    have differs := (List.mem_filter.1 member).2
    simp only [bne_iff_ne] at differs
    simpa using differs.symm
  unfold resolvePushed at ran
  rw [named] at ran
  dsimp only at ran
  rw [run_perform_bind] at ran
  cases taken : (front.interp (.takePar requestUri) state).1 with
  | none =>
      rw [taken] at ran
      cases ran
  | some entry =>
      rw [taken] at ran
      dsimp only at ran
      obtain ⟨_, built⟩ := run_reject_bind_eq_ok ran
      cases built
      exact missing _

/-- What the first pass leaves behind. -/
structure Sent (front : FrontEnv) (query : String) (state waiting : FrontWorld) : Prop where
  present : query ≠ ""
  distinct : ((parseQsl query).map Prod.fst).Nodup
  silent : (promptValues (parseQsl query)).contains "none" = false
  target : waiting.session.returnTo = some (returnTarget query)
  stamped : ∃ stamp, waiting.session.returnToTs = some stamp
  pushed : ∃ merged middle,
    (resolvePushed (parseQsl query)).run front.interp state = (.ok merged, middle)
  spent : ∀ requestUri, Form.get (parseQsl query) "request_uri" = some requestUri →
    waiting.parStore.lookup requestUri = none

theorem first_pass {response : Response} {waiting : FrontWorld}
    (answer : (authorize front.env query).respond front.interp state = (response, waiting))
    (sent : sentToLogin response = true) : Sent front query state waiting := by
  obtain ⟨resolved, request, middle, resolution, checked, gated⟩ := sent_by_gate answer sent
  obtain ⟨merged, client, pushed, known, distinct, taken, found, _, overlaid⟩ :=
    resolve_ok resolution
  have lookedUp : Untouched pushed known :=
    aside_untouched (uses_known_client (fun _ => trivial) _) found
  have verified : Untouched known middle :=
    aside_untouched (uses_overlay_jar (fun _ => trivial) front.env client _ merged) overlaid
  have present : query ≠ "" := by
    rintro rfl
    exact known_client_named found rfl
  have params := (overlay_jar_params overlaid).1
  have trusted := (check_request_ok checked).trusted
  have elsewhere := fun error description => answered_elsewhere
    (answered_deliver_error request.channel trusted error description)
  rw [login_gate_run, params] at gated
  dsimp only at gated
  -- Only the last branch of the gate is the redirect to the login.
  split at gated
  · cases gated
    rw [elsewhere] at sent
    cases sent
  · split at gated
    · cases gated
    · split at gated
      · cases gated
        rw [elsewhere] at sent
        cases sent
      · rename_i silent
        cases gated
        refine ⟨present, distinct, by simpa using silent, rfl, ⟨_, rfl⟩, ⟨merged, pushed, taken⟩, ?_⟩
        intro requestUri named
        have kept := (after_expiry_session (Form.get (parseQsl query) "max_age")
          middle.session.authTime middle).2.1
        show (afterExpiry _ _ middle).parStore.lookup requestUri = none
        rw [kept, (lookedUp.trans verified).parStore]
        exact resolve_pushed_spends named taken

/-! ### The login -/

theorem uses_on_server_any {α : Type} {allowed : FrontOp → Prop}
    (within : ∀ op, allowed (.server op)) (program : Handler α) :
    Uses (S := Front) allowed (fun _ => True) (onServer program) := by
  induction program with
  | done value => trivial
  | fail error => trivial
  | call op next induction => exact ⟨within op, induction⟩

/-- Operations that leave the pushed requests alone. -/
def KeepsPushed : FrontOp → Prop
  | .takePar _ | .storePar _ _ => False
  | _ => True

theorem login_keeps_pushed (request : LoginRequest) :
    Uses (S := Front) KeepsPushed (fun _ => True) (login front request) := by
  have served : ∀ {α : Type} (program : Handler α),
      Uses (S := Front) KeepsPushed (fun _ => True) (onServer program) :=
    fun program => uses_on_server_any (fun _ => trivial) program
  have attempt : ∀ ipKey userKey,
      Uses (S := Front) KeepsPushed (fun _ => True) (loginAttempt ipKey userKey) := by
    intro ipKey userKey
    unfold loginAttempt
    apply Uses.bind (uses_front _ (by trivial))
    intro byAddress
    cases byAddress with
    | some seconds => trivial
    | none =>
        apply Uses.bind (uses_front _ (by trivial))
        intro byName
        cases byName <;> trivial
  have target : ∀ session,
      Uses (S := Front) KeepsPushed (fun _ => True) (loginTarget session) := by
    intro session
    unfold loginTarget
    cases session.returnToTs with
    | none => trivial
    | some stamped => exact (served _).bind fun _ => trivial
  unfold login
  apply Uses.bind (attempt _ _)
  intro _
  apply Uses.bind (served _)
  intro found
  cases found with
  | none => trivial
  | some user =>
      have unlisted : ∀ username, Uses (S := Front) KeepsPushed (fun _ => True)
          (loginDenylisted username user) := by
        intro username
        unfold loginDenylisted
        apply Uses.bind (served _)
        intro reason
        cases reason with
        | some reason => trivial
        | none => exact served _
      apply Uses.bind (unlisted _)
      intro reason
      apply Uses.bind ((uses_reject_if _ _).2 fun _ => trivial)
      intro _
      apply Uses.bind (uses_front _ (by trivial))
      intro _
      apply Uses.bind (uses_front _ (by trivial))
      intro session
      apply Uses.bind (uses_front _ (by trivial))
      intro _
      exact (target session).bind fun _ => trivial

theorem login_pushed {request : LoginRequest} {outcome : Except Response Response}
    {later : FrontWorld} (ran : (login front request).run front.interp state = (outcome, later)) :
    later.parStore = state.parStore := by
  have kept : ((login front request).run front.interp state).2.parStore = state.parStore := by
    apply Uses.run_keeps (fun reached : FrontWorld => reached.parStore = state.parStore) _
      (login_keeps_pushed request) rfl
    intro op reached keeps same
    cases op with
    | takePar requestUri => exact keeps.elim
    | storePar clientId params => exact keeps.elim
    | _ => exact same
  rw [ran] at kept
  exact kept

/-- The end of a login. The stored target is followed when it is safe and was
stamped recently by the clock that is read last. -/
theorem login_end {session : Session} {response : Response} {loggedIn : FrontWorld}
    (ran : (do
      let target ← loginTarget session
      pure (redirect 303 target) : FrontHandler Response).run front.interp state =
        (.ok response, loggedIn)) :
    loggedIn.session = state.session ∧
      ∀ stamp, session.returnToTs = some stamp → loggedIn = state.read ∧
        ∀ target, session.returnTo = some target → isSafeRedirect (some target) = true →
          front.time state - stamp ≤ returnToMaxAgeSecs → response = redirect 303 target := by
  unfold loginTarget at ran
  cases stamped : session.returnToTs with
  | none =>
      rw [stamped] at ran
      cases ran
      exact ⟨rfl, fun stamp absent => by cases absent⟩
  | some stamp =>
      rw [stamped] at ran
      have outcome : (Except.ok (redirect 303
          (if decide (front.time state - stamp ≤ returnToMaxAgeSecs) &&
            isSafeRedirect session.returnTo then session.returnTo.getD "/" else "/")), state.read) =
          ((.ok response, loggedIn) : Except Response Response × FrontWorld) := ran
      cases outcome
      refine ⟨rfl, ?_⟩
      intro other same
      cases same
      refine ⟨rfl, ?_⟩
      intro target stored safe timely
      rw [stored, safe]
      simp [timely]

/-- A successful login: a new session, and the way back to the stored target. -/
theorem login_ok {request : LoginRequest} {response : Response} {loggedIn : FrontWorld}
    (ran : (login front request).run front.interp state = (.ok response, loggedIn))
    (waited : state.session.returnTo ≠ none) (replaced : loggedIn.session.returnTo = none) :
    loggedIn.session.userId ≠ none ∧
      ∀ target stamp, state.session.returnTo = some target →
        isSafeRedirect (some target) = true → state.session.returnToTs = some stamp →
        (∀ reading, During state.world loggedIn.world reading →
          epochSeconds (front.env.platform.clock reading) - stamp ≤ returnToMaxAgeSecs) →
        response = redirect 303 target := by
  unfold login at ran
  dsimp only at ran
  obtain ⟨_, attempted, attempt, ran⟩ := run_bind_eq_ok ran
  have keptAttempt := login_attempt_kept attempt
  obtain ⟨found, reached, lookup, ran⟩ := run_bind_eq_ok ran
  rw [run_on_server_query] at lookup
  obtain ⟨_, rfl⟩ := Prod.mk.inj lookup
  cases found with
  | none =>
      cases ran
      rw [keptAttempt.session] at replaced
      exact absurd replaced waited
  | some user =>
      dsimp only at ran
      obtain ⟨reason, checked, denylist, ran⟩ := run_bind_eq_ok ran
      have uses : Uses (S := Front) Aside (fun _ => True)
          (loginDenylisted ((request.form.get "username").getD "") user) := by
        unfold loginDenylisted
        apply Uses.bind (uses_on_server_any (fun _ => trivial) _)
        intro byName
        cases byName with
        | some reason => trivial
        | none => exact uses_on_server_any (fun _ => trivial) _
      have session : checked.session = state.session :=
        (aside_untouched uses denylist).session.trans keptAttempt.session
      have clock := keptAttempt.clock.trans (front_readings_grow denylist)
      obtain ⟨_, ran⟩ := run_reject_bind_eq_ok ran
      rw [run_perform_bind, run_perform_bind, run_perform_bind] at ran
      obtain ⟨kept, followed⟩ := login_end ran
      constructor
      · rw [kept]
        exact Option.some_ne_none user.id
      · intro target stamp stored safe stamped timely
        rw [← session] at stored stamped
        obtain ⟨after, aimed⟩ := followed stamp stamped
        apply aimed target stored safe
        apply timely
        rw [after]
        exact ⟨Nat.le_succ_of_le clock, Nat.lt_succ_self _⟩

/-! ### The second pass -/

theorem resolve_session {params : Form} {resolved : Resolved} {later : FrontWorld}
    (ran : (resolve front.env params).run front.interp state = (.ok resolved, later)) :
    later.session = state.session := by
  have kept : ((resolve front.env params).run front.interp state).2.session = state.session := by
    apply Uses.run_keeps (fun reached : FrontWorld => reached.session = state.session) _
      (uses_resolve front.env params) rfl
    intro op reached resolving same
    cases op with
    | server op => exact same
    | takePar requestUri => exact same
    | _ => exact resolving.elim
  rw [ran] at kept
  exact kept

theorem resolve_params {params : Form} {resolved : Resolved} {later : FrontWorld}
    (ran : (resolve front.env params).run front.interp state = (.ok resolved, later)) :
    resolved.params = params := by
  obtain ⟨merged, client, pushed, known, _, _, _, _, overlaid⟩ := resolve_ok ran
  exact (overlay_jar_params overlaid).1

/-- With a user in the session, the replay passes the gate unless the prompt
asked for an account to be selected. -/
theorem admitted_replay {params : Form} (distinct : (params.map Prod.fst).Nodup) :
    admittedUser front (replayed params) state =
      state.session.userId.filter fun _ => !(promptValues params).contains "select_account" := by
  have unexpired : expiredNow front ((replayed params).get "max_age") state.session.authTime state =
      false := by
    rw [replayed_max_age]
    rfl
  unfold admittedUser
  rw [unexpired, force_login_replayed params distinct, Bool.or_false]

theorem replay_not_sent {response : Response} {later : FrontWorld}
    (distinct : ((parseQsl query).map Prod.fst).Nodup)
    (signedIn : state.session.userId ≠ none)
    (unselected : (promptValues (parseQsl query)).contains "select_account" = false)
    (answer : (authorize front.env (stripReauthParams query)).respond front.interp state =
      (response, later)) : sentToLogin response = false := by
  by_contra sent
  rw [Bool.not_eq_false] at sent
  obtain ⟨resolved, request, middle, resolution, checked, gated⟩ := sent_by_gate answer sent
  have trusted := (check_request_ok checked).trusted
  have refused := fun error description => answered_elsewhere
    (answered_deliver_error request.channel trusted error description)
  obtain ⟨userId, user⟩ := Option.ne_none_iff_exists'.1 signedIn
  have through : admittedUser front (replayed (parseQsl query)) middle = some userId := by
    rw [admitted_replay distinct, resolve_session resolution, user, unselected]
    rfl
  rw [login_gate_run, resolve_params resolution, parse_strip_reauth] at gated
  dsimp only at gated
  rw [through] at gated
  split at gated
  · cases gated
    rw [refused] at sent
    cases sent
  · cases gated

/-- The replay of a request that selects an account is sent to the login again. -/
theorem replay_sent (distinct : ((parseQsl query).map Prod.fst).Nodup)
    (silent : (promptValues (parseQsl query)).contains "none" = false)
    (selected : (promptValues (parseQsl query)).contains "select_account" = true)
    {resolved : Resolved} {request : CheckedRequest} {middle : FrontWorld}
    (resolution : (resolve front.env (replayed (parseQsl query))).run front.interp state =
      (.ok resolved, middle))
    (checked : checkRequest front.env resolved = .ok request) :
    sentToLogin ((authorize front.env (stripReauthParams query)).respond front.interp state).1 =
      true := by
  have quiet : (promptValues (replayed (parseQsl query))).contains "none" = false := by
    rw [replayed_prompt_values _ distinct]
    rw [List.contains_eq_mem, decide_eq_false_iff_not] at silent ⊢
    intro member
    exact silent (List.mem_of_mem_filter member)
  have stopped : admittedUser front (replayed (parseQsl query)) middle = none := by
    rw [admitted_replay distinct, selected]
    cases middle.session.userId <;> rfl
  unfold respond
  rw [authorize_run, parse_strip_reauth, resolution]
  dsimp only
  rw [checked]
  dsimp only
  rw [login_gate_run, resolve_params resolution]
  dsimp only
  rw [quiet, stopped]
  rfl

/-- A request URI that is spent is not resolved again. -/
theorem spent_not_resolved {params : Form} {requestUri : String}
    (named : params.get "request_uri" = some requestUri)
    (spent : state.parStore.lookup requestUri = none) (merged : Form) (later : FrontWorld) :
    (resolvePushed params).run front.interp state ≠ (.ok merged, later) := by
  intro ran
  have missing : (sweepPar (front.monotonic state) state.parStore).lookup requestUri = none := by
    rw [List.lookup_eq_none_iff] at spent ⊢
    intro entry member
    exact spent entry (List.mem_of_mem_filter member)
  have nothing : (front.interp (.takePar requestUri) state).1 = none := missing
  unfold resolvePushed at ran
  rw [named] at ran
  dsimp only at ran
  rw [run_perform_bind, nothing] at ran
  cases ran

/-! ### The round trip -/

/-- Other requests are served meanwhile. They do not reach the session of this
browser, and no push draws a request URI that was drawn before. -/
structure Meanwhile (requestUri : Option String) (earlier later : FrontWorld) : Prop where
  session : later.session = earlier.session
  spent : ∀ uri, requestUri = some uri → earlier.parStore.lookup uri = none →
    later.parStore.lookup uri = none

/-- A request, the login it leads to, and the states in which the browser sends
the request, the login and the replay. -/
structure Trip where
  query : String
  login : LoginRequest
  start : FrontWorld
  atLogin : FrontWorld
  atReturn : FrontWorld

namespace Trip

variable (front : FrontEnv) (trip : Trip)

def params : Form := parseQsl trip.query

def waiting : FrontWorld := ((authorize front.env trip.query).respond front.interp trip.start).2

def loginOutcome : Except Response Response × FrontWorld :=
  (FrontChannel.login front trip.login).run front.interp trip.atLogin

/-- The query of the `GET` that replays the stored target. -/
def replay : String := targetQuery ((trip.waiting front).session.returnTo.getD "")

/-- The login did not fail: the session that held the target is replaced. -/
def signedIn : Bool :=
  match (trip.loginOutcome front).1 with
  | .ok _ => (trip.loginOutcome front).2.session.returnTo.isNone
  | .error _ => false

/-- The request is sent to the login, which succeeds in time. -/
structure Taken : Prop where
  sent : sentToLogin ((authorize front.env trip.query).respond front.interp trip.start).1 = true
  beforeLogin : Meanwhile (trip.params.get "request_uri") (trip.waiting front) trip.atLogin
  succeeded : trip.signedIn front = true
  timely : ∀ stamp, (trip.waiting front).session.returnToTs = some stamp →
    ∀ reading, During trip.atLogin.world (trip.loginOutcome front).2.world reading →
      epochSeconds (front.env.platform.clock reading) - stamp ≤ returnToMaxAgeSecs
  afterLogin : Meanwhile (trip.params.get "request_uri") (trip.loginOutcome front).2 trip.atReturn

/-- The login leads to the stored target, the replay is not sent to the login
again, and its parameters are those of the first request, pushed ones included. -/
structure Completes : Prop where
  leads : ∃ target response, (trip.waiting front).session.returnTo = some target ∧
    (trip.loginOutcome front).1 = .ok response ∧ response.status = 303 ∧
    response.headers = [("location", target)]
  passes : sentToLogin ((authorize front.env (trip.replay front)).respond front.interp
    trip.atReturn).1 = false
  sameQuery : ∀ key, isReauth key = false →
    Form.get (parseQsl (trip.replay front)) key = trip.params.get key
  samePushed : ∃ merged first again second,
    (resolvePushed trip.params).run front.interp trip.start = (.ok merged, first) ∧
    (resolvePushed (parseQsl (trip.replay front))).run front.interp trip.atReturn =
      (.ok again, second) ∧
    ∀ key, isReauth key = false → again.get key = merged.get key

/-- The checks before the gate let the replay through. -/
def Rechecked : Prop :=
  ∃ resolved request middle,
    (resolve front.env (parseQsl (trip.replay front))).run front.interp trip.atReturn =
      (.ok resolved, middle) ∧
    checkRequest front.env resolved = .ok request

variable {front trip}

theorem Taken.first (taken : trip.Taken front) :
    Sent front trip.query trip.start (trip.waiting front) :=
  first_pass rfl taken.sent

theorem Taken.replay_eq (taken : trip.Taken front) :
    trip.replay front = stripReauthParams trip.query := by
  unfold replay
  rw [taken.first.target, Option.getD_some, target_query_return taken.first.present]

theorem Taken.login (taken : trip.Taken front) :
    trip.atReturn.session.userId ≠ none ∧
      (trip.loginOutcome front).1 = .ok (redirect 303 (returnTarget trip.query)) := by
  have succeeded := taken.succeeded
  unfold signedIn at succeeded
  cases outcome : (trip.loginOutcome front).1 with
  | error refusal =>
      rw [outcome] at succeeded
      cases succeeded
  | ok response =>
      rw [outcome] at succeeded
      have replaced : (trip.loginOutcome front).2.session.returnTo = none := by
        simpa using succeeded
      have waited : trip.atLogin.session.returnTo ≠ none := by
        rw [taken.beforeLogin.session, taken.first.target]
        exact Option.some_ne_none _
      have ran : (FrontChannel.login front trip.login).run front.interp trip.atLogin =
          (.ok response, (trip.loginOutcome front).2) := Prod.ext outcome rfl
      obtain ⟨user, followed⟩ := login_ok ran waited replaced
      obtain ⟨stamp, stamped⟩ : ∃ stamp, (trip.waiting front).session.returnToTs = some stamp :=
        taken.first.stamped
      constructor
      · rw [taken.afterLogin.session]
        exact user
      · rw [followed (returnTarget trip.query) stamp]
        · rw [taken.beforeLogin.session]
          exact taken.first.target
        · exact safe_return_target trip.query
        · rw [taken.beforeLogin.session]
          exact stamped
        · exact taken.timely stamp stamped

theorem Taken.completes (taken : trip.Taken front)
    (unpushed : trip.params.get "request_uri" = none)
    (unselected : (promptValues trip.params).contains "select_account" = false) :
    trip.Completes front := by
  have first := taken.first
  obtain ⟨user, outcome⟩ := taken.login
  have same : ∀ key, isReauth key = false →
      Form.get (parseQsl (trip.replay front)) key = trip.params.get key := by
    intro key other
    rw [taken.replay_eq, parse_strip_reauth]
    exact replayed_other _ other
  have plain : ∀ (params : Form) (state : FrontWorld), params.get "request_uri" = none →
      (resolvePushed params).run front.interp state = (.ok params, state) := by
    intro params state absent
    unfold resolvePushed
    rw [absent]
    rfl
  constructor
  · refine ⟨returnTarget trip.query, _, first.target, outcome, rfl, ?_⟩
    show [("location", quote safeInLocation (returnTarget trip.query))] = _
    rw [quote_return_target]
  · rw [taken.replay_eq]
    exact replay_not_sent first.distinct user unselected (Prod.eta _).symm
  · exact same
  · refine ⟨trip.params, trip.start, _, trip.atReturn, plain _ _ unpushed, plain _ _ ?_, same⟩
    rw [same "request_uri" (by decide)]
    exact unpushed

theorem Taken.pushed_breaks (taken : trip.Taken front) {requestUri : String}
    (pushed : trip.params.get "request_uri" = some requestUri) : ¬trip.Completes front := by
  intro completes
  obtain ⟨merged, _, again, later, _, resolved, _⟩ := completes.samePushed
  have named : Form.get (parseQsl (trip.replay front)) "request_uri" = some requestUri := by
    rw [completes.sameQuery "request_uri" (by decide)]
    exact pushed
  have waiting := taken.beforeLogin.spent requestUri pushed (taken.first.spent requestUri pushed)
  have loggedIn : (trip.loginOutcome front).2.parStore.lookup requestUri = none := by
    have kept : (trip.loginOutcome front).2.parStore = trip.atLogin.parStore := login_pushed rfl
    rw [kept]
    exact waiting
  have spent := taken.afterLogin.spent requestUri pushed loggedIn
  exact spent_not_resolved named spent again later resolved

theorem Taken.selection_breaks (taken : trip.Taken front) (rechecked : trip.Rechecked front)
    (selected : (promptValues trip.params).contains "select_account" = true) :
    ¬trip.Completes front := by
  intro completes
  obtain ⟨resolved, request, middle, resolution, checked⟩ := rechecked
  rw [taken.replay_eq, parse_strip_reauth] at resolution
  have passes := completes.passes
  rw [taken.replay_eq, replay_sent taken.first.distinct taken.first.silent selected resolution
    checked] at passes
  cases passes

end Trip

/-- A request without a pushed part that selects no account comes back from the
login as it was. One with a pushed part does not: the first pass has spent it.
Nor does one that selects an account, if its other checks still pass: it is
sent to the login again. -/
theorem login_round_trip (front : FrontEnv) (trip : Trip) (taken : trip.Taken front) :
    (trip.params.get "request_uri" = none →
      (promptValues trip.params).contains "select_account" = false → trip.Completes front) ∧
    ((∃ requestUri, trip.params.get "request_uri" = some requestUri) → ¬trip.Completes front) ∧
    ((promptValues trip.params).contains "select_account" = true → trip.Rechecked front →
      ¬trip.Completes front) := by
  refine ⟨taken.completes, ?_, ?_⟩
  · rintro ⟨requestUri, pushed⟩
    exact taken.pushed_breaks pushed
  · intro selected rechecked
    exact taken.selection_breaks rechecked selected

/-! ### Trips -/

def pushedUri : String := "urn:1"

def tripClient : Client :=
  { sampleClient with
    clientId := "a"
    redirectUris := "[\"https://a/\"]"
    grantTypes := "[\"authorization_code\"]" }

def tripUser : User :=
  { googleUser true with
    username := "u"
    passwordHash := "p" }

/-- A browser without a session, and a pushed request of the client. -/
def browser : FrontWorld :=
  { frontWorld true with
    world :=
      { store := { sampleStore with clients := ⟨[tripClient], by simp⟩, users := [tripUser] }
        process := sampleProcess }
    session := {}
    parStore := [(pushedUri, { clientId := "a", params := [("state", "s")], createdAt := 0 })] }

/-- A request with the given parameters beside those every request has. -/
def paramsWith (extra : Form) : Form :=
  [("client_id", "a"), ("response_type", "code"), ("redirect_uri", "https://a/"),
    ("code_challenge_method", "S256"), ("code_challenge", sampleChallenge)] ++ extra

/-- The first pass, on the parameters its query is read as. -/
def firstPass (params : Form) : Response × FrontWorld :=
  (do
    let resolved ← resolve frontEnv.env params
    let request ← Program.ofExcept (checkRequest frontEnv.env resolved)
    let userId ← loginGate frontEnv.env (urlencode params) resolved.params request.channel
    finish frontEnv.env request userId : FrontHandler Response).respond frontEnv.interp browser

theorem authorize_encoded (params : Form) :
    (authorize frontEnv.env (urlencode params)).respond frontEnv.interp browser =
      firstPass params := by
  unfold authorize firstPass
  rw [parse_qsl_urlencode]

/-- The user logs in at once and follows the redirect at once. -/
def directTrip (params : Form) : Trip :=
  let login : LoginRequest :=
    { form := [("username", "u"), ("password", "p")], clientHost := none }
  { query := urlencode params
    login := login
    start := browser
    atLogin := (firstPass params).2
    atReturn := ((FrontChannel.login frontEnv login).run frontEnv.interp (firstPass params).2).2 }

/-- The steps of the trip, computed. -/
def taken (params : Form) : Bool :=
  sentToLogin (firstPass params).1 && (firstPass params).2.session.returnToTs == some 0 &&
    (directTrip params).signedIn frontEnv &&
    decide (((directTrip params).loginOutcome frontEnv).2.world.process.readings ≤ 100)

theorem direct_trip_taken (params : Form) (computed : taken params = true) :
    (directTrip params).Taken frontEnv := by
  unfold taken at computed
  simp only [Bool.and_eq_true, beq_iff_eq, decide_eq_true_eq] at computed
  obtain ⟨⟨⟨sent, stamped⟩, signedIn⟩, early⟩ := computed
  have passed : (authorize frontEnv.env (directTrip params).query).respond frontEnv.interp
      (directTrip params).start = firstPass params := authorize_encoded params
  have waiting : (directTrip params).waiting frontEnv = (directTrip params).atLogin := by
    unfold Trip.waiting
    rw [passed]
    rfl
  refine ⟨?_, ?_, signedIn, ?_, ⟨rfl, fun _ _ spent => spent⟩⟩
  · rw [passed]
    exact sent
  · rw [waiting]
    exact ⟨rfl, fun _ _ spent => spent⟩
  · intro stamp found reading during
    rw [waiting] at found
    cases stamped.symm.trans found
    have small : reading < 100 := during.2.trans_le early
    show ((reading : Int) : ℚ) / 1000000 - ((0 : Int) : ℚ) ≤ 600
    have bound : (((reading : Int) : ℚ)) ≤ 100 := by exact_mod_cast small.le
    linarith

def plainParams : Form := paramsWith [("prompt", "login consent"), ("max_age", "0")]

def selectParams : Form := paramsWith [("prompt", "select_account")]

def pushedParams : Form := paramsWith [("request_uri", pushedUri)]

theorem direct_trip_params (params : Form) : (directTrip params).params = params :=
  parse_qsl_urlencode params

/-- The replay is checked again and passes, computed. -/
def recheckedAt (params : Form) (state : FrontWorld) : Bool :=
  match ((resolve frontEnv.env (replayed params)).run frontEnv.interp state).1 with
  | .ok resolved => (checkRequest frontEnv.env resolved).toOption.isSome
  | .error _ => false

theorem direct_trip_rechecked {params : Form} (taken : (directTrip params).Taken frontEnv)
    (computed : recheckedAt params (directTrip params).atReturn = true) :
    (directTrip params).Rechecked frontEnv := by
  have encoded : parseQsl ((directTrip params).replay frontEnv) = replayed params := by
    rw [taken.replay_eq, parse_strip_reauth]
    exact congrArg replayed (parse_qsl_urlencode params)
  unfold Trip.Rechecked
  rw [encoded]
  unfold recheckedAt at computed
  cases resolution : (resolve frontEnv.env (replayed params)).run frontEnv.interp
      (directTrip params).atReturn with
  | mk outcome middle =>
      rw [resolution] at computed
      cases outcome with
      | error page => cases computed
      | ok resolved =>
          dsimp only at computed
          cases checked : checkRequest frontEnv.env resolved with
          | error refusal =>
              rw [checked] at computed
              cases computed
          | ok request => exact ⟨resolved, request, middle, rfl, checked⟩

theorem trips_computed :
    taken plainParams = true ∧
      (taken selectParams = true ∧
        recheckedAt selectParams (directTrip selectParams).atReturn = true) ∧
      taken pushedParams = true := by
  decide +kernel

theorem plain_trip_taken : (directTrip plainParams).Taken frontEnv :=
  direct_trip_taken plainParams trips_computed.1

/-- A forced login with an age limit comes back once. -/
theorem plain_trip_completes :
    (directTrip plainParams).Taken frontEnv ∧ (directTrip plainParams).Completes frontEnv :=
  ⟨plain_trip_taken, (login_round_trip frontEnv (directTrip plainParams) plain_trip_taken).1
    (by rw [direct_trip_params]; rfl) (by rw [direct_trip_params]; decide)⟩

/-- Selecting an account leads to the login a second time, and a pushed request
is unknown when it comes back. -/
theorem trips_interrupted :
    ((directTrip selectParams).Taken frontEnv ∧ ¬(directTrip selectParams).Completes frontEnv) ∧
      (directTrip pushedParams).Taken frontEnv ∧ ¬(directTrip pushedParams).Completes frontEnv := by
  have selected : (directTrip selectParams).Taken frontEnv :=
    direct_trip_taken selectParams trips_computed.2.1.1
  have rechecked : (directTrip selectParams).Rechecked frontEnv :=
    direct_trip_rechecked selected trips_computed.2.1.2
  have pushed : (directTrip pushedParams).Taken frontEnv :=
    direct_trip_taken pushedParams trips_computed.2.2
  have named : (directTrip pushedParams).params.get "request_uri" = some pushedUri := by
    rw [direct_trip_params]
    rfl
  refine ⟨⟨selected, selected.selection_breaks rechecked ?_⟩, pushed, pushed.pushed_breaks named⟩
  rw [direct_trip_params]
  decide

end OAuth2Server.LoginRoundTrip
