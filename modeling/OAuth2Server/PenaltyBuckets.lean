import OAuth2Server.Runs
import OAuth2Server.ReferenceJwt

/-!
# Whom a failed authentication is charged to

The token endpoint reads the client of a failed attempt once more, apart from
`authenticate`, to pick the bucket the attempt is charged to. The two readings
agree but for one request: a Basic header whose client id is empty. There
`authenticate` goes on to the subject of the assertion, and the penalty does not.
-/

namespace OAuth2Server.PenaltyBuckets

open OAuth2Server Models JsonText Storage Effects Interaction Interaction.Program Interleaving
open ClientAuth Dpop TokenEndpoint Footprints

set_option autoImplicit false

/-- A client was looked up in the storage. -/
def LookedUp (events : List (Event Server)) (clientId : String) : Prop :=
  ∃ answer, (⟨.query (.getClient clientId), answer⟩ : Event Server) ∈ events

/-- Every attempt that looks a client up and ends in `invalid_client` takes a
token of that client's bucket. -/
def ChargesLookups (env : Env) (request : Request) : Prop :=
  ∀ events description clientId,
    Ends (authenticate env request.form (request.credentials env)) events
      (.error (.oauth "invalid_client" description)) →
    LookedUp events clientId →
    extractClientIdForPenalty env request = some clientId ∧
      ∀ charged outcome,
        Ends (invalidClientResponse (extractClientIdForPenalty env request) description :
          Handler Response) charged outcome →
        ∃ answer, charged = [⟨.ambient (.checkInvalidClient clientId), answer⟩]

/-- A Basic header that names no client, over a form that names none either and
whose secret is not at odds with the header's. -/
def NamelessBasic (request : Request) : Prop :=
  ∃ secret, parseBasicAuth request.authorization = .ok (some ("", secret)) ∧
    ¬ Text.truthy (request.form.get "client_id") ∧
    (Text.truthy (request.form.get "client_secret") →
      request.form.get "client_secret" = some secret)

/-- The subject the form's assertion claims. -/
def assertionSubject (env : Env) (form : Form) : Option String :=
  unverifiedAssertionSubject env ((form.get "client_assertion").getD "")

/-- The id `authenticate` looks up when the credentials are these. -/
def resolvedId (env : Env) (form : Form) (presentedId : Option String) : Option String :=
  (if Text.truthy presentedId then presentedId else assertionSubject env form).filter (· != "")

theorem unverified_subject_nonempty (env : Env) (assertion : String) (subject : String)
    (found : unverifiedAssertionSubject env assertion = some subject) :
    assertion ≠ "" ∧ subject ≠ "" := by
  unfold unverifiedAssertionSubject at found
  split at found
  · cases found
  · rename_i nonempty
    have kept := (Option.filter_eq_some_iff.1 found).2
    simp only [bne_iff_ne] at kept
    simp only [beq_iff_eq] at nonempty
    exact ⟨nonempty, kept⟩

/-- Past the resolution nothing looks a client up but the one query. -/
theorem uses_authenticate_lookup (permitted : String → Prop) (env : Env) (form : Form)
    (credentials : Credentials)
    (resolved : ∀ presented clientId,
      presentedCredentials form credentials.authorization = .ok presented →
      resolvedId env form presented.1 = some clientId → permitted clientId) :
    Uses (S := Server) (fun op => ∀ clientId, op = .query (.getClient clientId) → permitted clientId)
      (fun _ => True) (authenticate env form credentials) := by
  have quiet : ∀ {α : Type} {raises : Raised → Prop} {program : Service α},
      Uses (S := Server) Identifying raises program →
        Uses (S := Server) (fun op => ∀ clientId, op = .query (.getClient clientId) →
          permitted clientId) (fun _ => True) program := by
    intro α raises program uses
    apply uses.mono
    · intro op identifying clientId same
      rw [same] at identifying
      exact identifying.elim
    · intro _ _
      trivial
  unfold authenticate
  have reads : Yields (S := Server)
      (fun presented => presentedCredentials form credentials.authorization = .ok presented)
      (Program.ofExcept (presentedCredentials form credentials.authorization)) :=
    (yields_of_except _).2 fun _ same => same
  apply Uses.bind_yields ((uses_of_except _).2 fun _ _ => trivial) reads
  intro presented read
  dsimp only
  split
  · rename_i clientId found
    apply Uses.bind
    · apply uses_query
      intro other same
      cases same
      exact resolved presented clientId read found
    intro client
    split
    · apply Uses.bind ((uses_reject_if _ _).2 fun _ => trivial)
      intro _
      apply Uses.bind (quiet (uses_check_subject_denylisted Any _ _))
      intro denylisted
      apply Uses.bind ((uses_reject_if _ _).2 fun _ => trivial)
      intro _
      apply Uses.bind (quiet (uses_check_credential env _ _ _ _))
      intro _
      trivial
    · trivial
  · trivial

theorem truthy_filter (text : Option String) :
    Text.truthy text = (text.filter (· != "")).isSome := by
  cases text with
  | none => rfl
  | some text => by_cases empty : text = "" <;> simp [Text.truthy, Option.filter, empty]

theorem assertion_subject_bind (env : Env) (form : Form) :
    ((form.get "client_assertion").bind fun assertion => unverifiedAssertionSubject env assertion) =
      assertionSubject env form := by
  unfold assertionSubject
  cases form.get "client_assertion" with
  | none => simp [unverifiedAssertionSubject]
  | some assertion => rfl

/-- Without a readable Basic header both readings take the form, then the assertion. -/
theorem penalty_of_form (env : Env) (request : Request)
    (headerless : parseBasicAuth request.authorization = .ok none) :
    extractClientIdForPenalty env request =
      resolvedId env request.form (request.form.get "client_id") := by
  unfold extractClientIdForPenalty resolvedId
  rw [headerless, truthy_filter, assertion_subject_bind]
  cases named : (request.form.get "client_id").filter (· != "") with
  | some clientId => simpa using named.symm
  | none =>
    simp only [Option.isSome_none, Bool.false_eq_true, if_false]
    cases subject : assertionSubject env request.form with
    | none => rfl
    | some clientId =>
      have nonempty := (unverified_subject_nonempty env _ clientId subject).2
      simp [Option.filter, nonempty]

theorem penalty_of_basic (env : Env) (request : Request) (clientId secret : String)
    (header : parseBasicAuth request.authorization = .ok (some (clientId, secret))) :
    extractClientIdForPenalty env request = if clientId = "" then none else some clientId := by
  simp [extractClientIdForPenalty, header]

theorem presented_headerless (form : Form) (authorization : Option String)
    (header : parseBasicAuth authorization = .ok none) :
    presentedCredentials form authorization =
      .ok (form.get "client_id", form.get "client_secret") := by
  unfold presentedCredentials
  rw [header]
  rfl

/-- The header and the form may not contradict each other. -/
theorem presented_basic (form : Form) (authorization : Option String) (clientId secret : String)
    (header : parseBasicAuth authorization = .ok (some (clientId, secret)))
    (presented : Option String × Option String) :
    presentedCredentials form authorization = .ok presented ↔
      (Text.truthy (form.get "client_id") → form.get "client_id" = some clientId) ∧
        (Text.truthy (form.get "client_secret") → form.get "client_secret" = some secret) ∧
        presented = (some clientId, some secret) := by
  unfold presentedCredentials
  rw [header]
  simp only [Bind.bind, Except.bind, Bool.and_eq_true, bne_iff_ne]
  split
  · rename_i otherId
    constructor
    · intro raised
      cases raised
    · intro agree
      exact absurd (agree.1 otherId.1) otherId.2
  · rename_i sameId
    split
    · rename_i otherSecret
      constructor
      · intro raised
        cases raised
      · intro agree
        exact absurd (agree.2.1 otherSecret.1) otherSecret.2
    · rename_i sameSecret
      simp only [not_and, not_not] at sameId sameSecret
      constructor
      · intro returned
        exact ⟨sameId, sameSecret, (Except.ok.inj returned).symm⟩
      · intro agree
        rw [agree.2.2]
        rfl

/-- What was presented is the form's or the header's. -/
theorem presented_credentials_ok (form : Form) (authorization : Option String)
    (presented : Option String × Option String)
    (read : presentedCredentials form authorization = .ok presented) :
    (parseBasicAuth authorization = .ok none ∧
        presented = (form.get "client_id", form.get "client_secret")) ∨
      ∃ clientId secret, parseBasicAuth authorization = .ok (some (clientId, secret)) ∧
        (Text.truthy (form.get "client_id") → form.get "client_id" = some clientId) ∧
        (Text.truthy (form.get "client_secret") → form.get "client_secret" = some secret) ∧
        presented = (some clientId, some secret) := by
  cases header : parseBasicAuth authorization with
  | error error =>
    simp [presentedCredentials, header, Bind.bind, Except.bind] at read
  | ok basic =>
    cases basic with
    | none =>
      rw [presented_headerless form authorization header] at read
      exact .inl ⟨rfl, (Except.ok.inj read).symm⟩
    | some pair =>
      have agree := (presented_basic form authorization pair.1 pair.2 header presented).1 read
      exact .inr ⟨pair.1, pair.2, rfl, agree⟩

/-- The penalty reads the id that `authenticate` looks up. -/
theorem penalty_reads_resolved (env : Env) (request : Request)
    (named : ¬ (NamelessBasic request ∧ (assertionSubject env request.form).isSome))
    (presented : Option String × Option String) (clientId : String)
    (read : presentedCredentials request.form request.authorization = .ok presented)
    (resolved : resolvedId env request.form presented.1 = some clientId) :
    extractClientIdForPenalty env request = some clientId := by
  rcases presented_credentials_ok _ _ _ read with
    ⟨headerless, same⟩ | ⟨basicId, secret, header, sameId, sameSecret, same⟩
  · rw [penalty_of_form env request headerless]
    rw [same] at resolved
    exact resolved
  · rw [penalty_of_basic env request basicId secret header]
    rw [same] at resolved
    by_cases empty : basicId = ""
    · subst empty
      exfalso
      have nameless : ¬ Text.truthy (request.form.get "client_id") := by
        intro present
        rw [sameId present] at present
        simp [Text.truthy] at present
      have subject : (assertionSubject env request.form).isSome := by
        simp only [resolvedId, Text.truthy, bne_self_eq_false, Bool.false_eq_true, if_false]
          at resolved
        rw [(Option.filter_eq_some_iff.1 resolved).1]
        rfl
      exact named ⟨⟨secret, header, nameless, sameSecret⟩, subject⟩
    · rw [if_neg empty]
      simpa [resolvedId, Text.truthy, empty, Option.filter] using resolved

theorem resolved_nonempty (env : Env) (form : Form) (presentedId : Option String)
    (clientId : String) (resolved : resolvedId env form presentedId = some clientId) :
    clientId ≠ "" := by
  have kept := (Option.filter_eq_some_iff.1 resolved).2
  simpa using kept

/-- The answer to a failure takes a token of the bucket it is given. -/
theorem charge_performed (clientId : String) (nonempty : clientId ≠ "")
    (description : Option String) (charged : List (Event Server))
    (outcome : Except Response Response)
    (answered : Ends (invalidClientResponse (some clientId) description : Handler Response)
      charged outcome) :
    ∃ answer, charged = [⟨.ambient (.checkInvalidClient clientId), answer⟩] := by
  simp only [invalidClientResponse, Option.filter, bne_iff_ne, ne_eq, nonempty, not_false_eq_true,
    if_true] at answered
  obtain ⟨answer, rest, same, later⟩ := answered
  refine ⟨answer, ?_⟩
  have finished : rest = [] := by
    cases (answer : Option Int) with
    | none => exact later.1
    | some retryAfter => exact later.1
  rw [same, finished]

/-- The attempt that is charged to nobody: the assertion names a client the
storage does not know. -/
theorem nameless_attempt (env : Env) (request : Request) (clientId : String)
    (nameless : NamelessBasic request)
    (subject : assertionSubject env request.form = some clientId) :
    Ends (authenticate env request.form (request.credentials env))
        [⟨.query (.getClient clientId), (none : Option Client)⟩]
        (.error (invalidClient "unknown or disabled client")) ∧
      extractClientIdForPenalty env request = none := by
  obtain ⟨secret, header, unnamed, sameSecret⟩ := nameless
  have read : presentedCredentials request.form request.authorization =
      .ok (some "", some secret) :=
    (presented_basic _ _ "" secret header _).2 ⟨fun named => absurd named unnamed, sameSecret, rfl⟩
  have nonempty := (unverified_subject_nonempty env _ clientId subject).2
  constructor
  · unfold authenticate
    rw [show (request.credentials env).authorization = request.authorization from rfl, read]
    have resolved : (if Text.truthy (some "") then some ""
        else unverifiedAssertionSubject env ((request.form.get "client_assertion").getD "")).filter
          (· != "") = some clientId := by
      rw [show unverifiedAssertionSubject env ((request.form.get "client_assertion").getD "") =
        some clientId from subject]
      simp [Text.truthy, Option.filter, nonempty]
    simp only [Program.ofExcept, done_bind, resolved]
    exact ⟨none, [], rfl, rfl, rfl⟩
  · rw [penalty_of_basic env request "" secret header]
    rfl

/-- Every failed attempt is charged to the client it looked up, exactly when the
request is not a nameless Basic header over an assertion with a subject. -/
theorem failures_charged_iff (env : Env) (request : Request) :
    ChargesLookups env request ↔
      ¬ (NamelessBasic request ∧ (assertionSubject env request.form).isSome) := by
  constructor
  · intro charges ⟨nameless, subject⟩
    obtain ⟨clientId, subject⟩ := Option.isSome_iff_exists.1 subject
    have ⟨attempt, uncharged⟩ := nameless_attempt env request clientId nameless subject
    have charged := (charges _ _ clientId attempt ⟨none, List.mem_singleton_self _⟩).1
    rw [uncharged] at charged
    cases charged
  · intro named events description clientId ends ⟨answer, lookedUp⟩
    have uses := uses_authenticate_lookup
      (fun looked => extractClientIdForPenalty env request = some looked ∧ looked ≠ "")
      env request.form (request.credentials env) (by
        intro presented looked read resolved
        exact ⟨penalty_reads_resolved env request named presented looked read resolved,
          resolved_nonempty env request.form presented.1 looked resolved⟩)
    have ⟨extracted, nonempty⟩ := ends.within uses _ lookedUp clientId rfl
    refine ⟨extracted, ?_⟩
    intro charged outcome answered
    rw [extracted] at answered
    exact charge_performed clientId nonempty description charged outcome answered

/-- A process that reads assertions. -/
def assertionEnv : Env :=
  { Runs.sampleEnv with platform := { Runs.samplePlatform with jwt := ReferenceJwt.library } }

/-- `Basic` of a colon, over an assertion. -/
def namelessRequest (assertion : String) : Request where
  form := [("grant_type", "client_credentials"), ("client_assertion", assertion)]
  authorization := some "Basic Og=="

theorem parse_nameless (assertion : String) :
    parseBasicAuth (namelessRequest assertion).authorization = .ok (some ("", "")) := by
  have basic : Text.startsWith (Text.lower "Basic Og==") "basic " = true := by decide +kernel
  have encoded : Text.strip (Text.drop "Basic Og==" 6) = "Og==" := by decide +kernel
  have ascii : ("Og==".toList.any fun char => 128 ≤ char.toNat) = false := by decide +kernel
  have decoded : (Text.b64decode "Og==").bind Text.utf8Decode = some [':'] := by decide +kernel
  have halves : Text.cut ':' [':'] = some ([], []) := by decide +kernel
  have empty : Text.unquotePlus (String.ofList []) = "" := by decide +kernel
  simp only [namelessRequest, parseBasicAuth, basic, encoded, ascii, decoded, halves, empty,
    Bool.not_true, Bool.false_eq_true, if_false]

theorem nameless_request (assertion : String) : NamelessBasic (namelessRequest assertion) := by
  have unnamed : (namelessRequest assertion).form.get "client_id" = none := by
    simp [Form.get, namelessRequest, List.lookup_cons]
  have secretless : (namelessRequest assertion).form.get "client_secret" = none := by
    simp [Form.get, namelessRequest, List.lookup_cons]
  refine ⟨"", parse_nameless assertion, ?_, ?_⟩
  · rw [unnamed]
    simp [Text.truthy]
  · rw [secretless]
    simp [Text.truthy]

/-- A guess at the secret of `app` that its bucket never sees. -/
theorem nameless_guess_uncharged :
    ¬ ∀ (env : Env) (request : Request), ChargesLookups env request := by
  intro charges
  let assertion := ReferenceJwt.library.encode (.obj [("sub", .str "app")]) [] "HS256" []
  have payload : ReferenceJwt.library.unverifiedClaims assertion = some [("sub", .str "app")] :=
    ReferenceJwt.round_trip.claims _ _ _ _
  have nonempty : assertion ≠ "" := by
    intro empty
    have unread : (ReferenceJwt.library.unverifiedClaims "").isNone = true := by decide +kernel
    rw [← empty, payload] at unread
    cases unread
  have presented : (namelessRequest assertion).form.get "client_assertion" = some assertion := by
    simp [Form.get, namelessRequest, List.lookup_cons]
  have read : assertionEnv.platform.jwt.unverifiedClaims assertion =
      some [("sub", .str "app")] := payload
  have subject : assertionSubject assertionEnv (namelessRequest assertion).form = some "app" := by
    simp [assertionSubject, presented, unverifiedAssertionSubject, nonempty, read, textMember,
      Json.str?]
  obtain ⟨attempt, uncharged⟩ := nameless_attempt assertionEnv (namelessRequest assertion) "app"
    (nameless_request assertion) subject
  have charged := (charges assertionEnv (namelessRequest assertion) _ _ "app" attempt
    ⟨none, List.mem_singleton_self _⟩).1
  rw [uncharged] at charged
  cases charged

end OAuth2Server.PenaltyBuckets
