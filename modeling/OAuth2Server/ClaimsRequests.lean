import OAuth2Server.Authorize
import OAuth2Server.SenderConstraint

/-!
# The `claims` request

A stored `claims` request (`services/claims_request.py`) is JSON of any shape.
Whatever it says, an id_token (`services/id_token.py`) and the userinfo response
carry the claims they would carry without it, less those whose value is not among
the values that the request lists for them.
-/

namespace OAuth2Server.ClaimsRequests

open OAuth2Server Models JsonText Storage Effects Interaction Interaction.Program
open Dpop KeySet Issuance Endpoints Resources Footprints FrontChannel Authorize

set_option autoImplicit false

/-! ### Values -/

/-- Python equality of a JSON value with an integer. `double` is the float of a
literal, none beyond the largest. -/
def equalsInt (double : ℚ → Option ℚ) (listed : Json) (value : Int) : Bool :=
  match listed with
  | .int other => other == value
  | .float other => double other == some (value : ℚ)
  | .bool flag => (if flag then 1 else 0) == value
  | _ => false

/-- `ClaimsSelection.allows`, for a claim whose value is an integer. -/
def allowsInt (double : ℚ → Option ℚ) (selection : ClaimsSelection) (name : String)
    (value : Int) : Bool :=
  match selection.constraints.lookup name with
  | none => true
  | some allowed => allowed.any (equalsInt double · value)

/-- Python equality of a JSON value with the value of a claim. -/
def equalsClaim (double : ℚ → Option ℚ) (listed value : Json) : Bool :=
  match value with
  | .str text => listed.equalsText text
  | .int number => equalsInt double listed number
  | _ => false

/-! ### Minting -/

/-- The arguments of `mint_id_token`, apart from the selection. -/
structure MintRequest where
  client : Client
  userId : String
  user : Option User
  scope : String
  nonce : Option String := none
  accessToken : Option String := none
  code : Option String := none
  acr : Option String := none
  amr : Option (List String) := none
  authTime : Option Int := none

/-- The claims of `mint_id_token` before the selection. -/
def scopedClaims (env : Env) (request : MintRequest) (now : Int) : IdTokenClaims :=
  let scopes := Text.split request.scope
  { iss := env.config.issuer
    sub := request.userId
    aud := request.client.clientId
    exp := now + env.config.accessTokenTtlSecs
    iat := now
    nonce := request.nonce
    atHash := request.accessToken.map env.platform.halfHash
    cHash := request.code.map env.platform.halfHash
    email := if scopes.contains "email" then request.user.map (·.email) else none
    preferredUsername :=
      if scopes.contains "profile" then request.user.map (·.username) else none
    acr := request.acr
    amr := request.amr
    authTime := request.authTime }

/-- The claims that `mint_id_token` signs at `now`. -/
def mintClaims (double : ℚ → Option ℚ) (env : Env) (request : MintRequest) (now : Int)
    (selection : Option ClaimsSelection) : IdTokenClaims :=
  let claims := scopedClaims env request now
  match selection with
  | none => claims
  | some selection =>
      { claims with
        acr := claims.acr.filter (selection.allows "acr")
        authTime := claims.authTime.filter (allowsInt double selection "auth_time")
        email := claims.email.filter (selection.allows "email")
        preferredUsername :=
          claims.preferredUsername.filter (selection.allows "preferred_username") }

/-- The token endpoint signs these claims. -/
theorem mint_id_token_claims (double : ℚ → Option ℚ) (env : Env) (client : Client)
    (userId : String) (user : Option User) (scope accessToken : String)
    (nonce code : Option String) (selection : Option ClaimsSelection) :
    mintIdToken env client userId user scope accessToken nonce code selection = (do
      let now ← ambient .now
      encodeIdToken env (mintClaims double env
        { client := client, userId := userId, user := user, scope := scope, nonce := nonce
          accessToken := some accessToken, code := code } (timestamp now) selection)) := by
  have unselected : ∀ value : Option String, value.filter (fun _ => true) = value := by
    intro value
    cases value <;> rfl
  unfold mintIdToken kept
  cases selection with
  | none => simp only [Option.all_none, unselected, mintClaims, scopedClaims, Option.map_some]
  | some selection =>
      simp only [Option.all_some, mintClaims, scopedClaims, Option.map_some, Option.filter_none]

/-- So does the hybrid flow, which has no selection. -/
theorem mint_hybrid_claims (double : ℚ → Option ℚ) (env : Env) (request : CheckedRequest)
    (session : Session) (userId : String) (user : Option User) (code : String) :
    mintHybridIdToken env request session userId user code = (do
      let now ← ambient .now
      encodeIdToken env (mintClaims double env
        { client := request.client, userId := userId, user := user, scope := request.scope
          nonce := request.nonce, code := some code, acr := session.acr, amr := session.amr
          authTime := session.authTime } (timestamp now) none)) := rfl

/-! ### What a request removes -/

/-- The values a constrained entry lists: its `value` alone, else its `values`. -/
inductive Lists (spec : List (String × Json)) : List Json → Prop
  | value {listed : Json} (given : spec.lookup "value" = some listed) : Lists spec [listed]
  | values {listed : List Json} (alone : spec.lookup "value" = none)
      (given : spec.lookup "values" = some (.arr listed)) : Lists spec listed

/-- The stored request is JSON, and its member's entry for the claim is an object
that lists values. -/
def Constrains (env : Env) (claimsRequest : Option String) (member name : String)
    (values : List Json) : Prop :=
  ∃ text document members spec, claimsRequest = some text ∧
    loads env.platform.recursionLimit text = .ok (.obj document) ∧
    document.lookup member = some (.obj members) ∧
    members.lookup name = some (.obj spec) ∧ Lists spec values

/-- The claims a request may constrain, and the scopes they need. -/
inductive Granted (scope : String) : String → Prop
  | acr : Granted scope "acr"
  | authTime : Granted scope "auth_time"
  | email (granted : "email" ∈ Text.split scope) : Granted scope "email"
  | username (granted : "profile" ∈ Text.split scope) : Granted scope "preferred_username"

theorem Granted.named {scope name : String} (granted : Granted scope name) :
    name ∈ ["acr", "auth_time", "email", "preferred_username"] := by
  cases granted <;> decide

/-- A claim whose value is not among the values listed for it. -/
def Removed (double : ℚ → Option ℚ) (env : Env) (claimsRequest : Option String)
    (scope member : String) (claim : String × Json) : Prop :=
  Granted scope claim.1 ∧ ∃ values, Constrains env claimsRequest member claim.1 values ∧
    ∀ listed ∈ values, equalsClaim double listed claim.2 = false

/-- One set of claims is another one less what is removed. -/
def Subtracted (removed : String × Json → Prop) (whole left : List (String × Json)) : Prop :=
  left.Sublist whole ∧ ∀ claim, claim ∈ left ↔ claim ∈ whole ∧ ¬removed claim

section Subtraction

variable {removed : String × Json → Prop} {whole left whole' left' : List (String × Json)}

theorem Subtracted.append (first : Subtracted removed whole left)
    (second : Subtracted removed whole' left') :
    Subtracted removed (whole ++ whole') (left ++ left') := by
  constructor
  · exact first.1.append second.1
  · intro claim
    rw [List.mem_append, List.mem_append, first.2, second.2]
    exact or_and_right.symm

theorem subtracted_none (stay : ∀ claim ∈ whole, ¬removed claim) :
    Subtracted removed whole whole := by
  constructor
  · exact List.Sublist.refl whole
  · intro claim
    exact ⟨fun member => ⟨member, stay claim member⟩, fun both => both.1⟩

/-- One claim that is dropped or kept. -/
theorem subtracted_one {claim : String × Json} {dropped : Bool}
    (decides : dropped = true ↔ removed claim) :
    Subtracted removed [claim] (if dropped then [] else [claim]) := by
  cases dropped with
  | true =>
      constructor
      · exact List.nil_sublist _
      · intro other
        constructor
        · intro member
          cases member
        · rintro ⟨member, stays⟩
          rw [List.mem_singleton.1 member] at stays
          exact absurd (decides.1 rfl) stays
  | false =>
      apply subtracted_none
      intro other member gone
      rw [List.mem_singleton.1 member] at gone
      cases decides.2 gone

/-- An optional claim under a check of its value. -/
theorem subtracted_optional {α : Type} {name : String} (write : α → Json) (keeps : α → Bool)
    (decides : ∀ value, keeps value = false ↔ removed (name, write value)) (value : Option α) :
    Subtracted removed (optionalMember name (value.map write))
      (optionalMember name ((value.filter keeps).map write)) := by
  cases value with
  | none => exact subtracted_none (by simp [optionalMember])
  | some value =>
      have one := @subtracted_one removed (name, write value) (!keeps value)
        (by rw [Bool.not_eq_true', decides])
      cases kept : keeps value <;> simpa [optionalMember, Option.filter, kept] using one

end Subtraction

/-! ### The selection -/

section Selection

variable {double : ℚ → Option ℚ} {env : Env} {claimsRequest : Option String}
variable {scope member name : String}

theorem lookup_member {α : Type} {entries : List (String × α)} {key : String} {value : α}
    (found : entries.lookup key = some value) : (key, value) ∈ entries := by
  obtain ⟨earlier, later, rfl, _⟩ := List.lookup_eq_some_iff.1 found
  exact List.mem_append_right _ List.mem_cons_self

/-- A table of supported claims filtered and mapped still finds by name. -/
theorem lookup_constraints (keep : String × Option String → Bool)
    (values : String → Option (List Json)) {supported : List (String × Option String)}
    (distinct : (supported.map Prod.fst).Nodup) (name : String) :
    ((supported.filter keep).filterMap fun entry =>
        (values entry.1).map fun listed => (entry.1, listed)).lookup name =
      (supported.lookup name).bind fun needed =>
        if keep (name, needed) then values name else none := by
  induction supported with
  | nil => rfl
  | cons entry rest induction =>
      obtain ⟨key, needed⟩ := entry
      rw [List.map_cons, List.nodup_cons] at distinct
      have later := induction distinct.2
      by_cases same : name = key
      · subst same
        have absent : rest.lookup name = none := by
          rw [List.lookup_eq_none_iff]
          intro entry member
          have other : entry.1 ≠ name := fun equal =>
            distinct.1 (equal ▸ List.mem_map.2 ⟨entry, member, rfl⟩)
          simpa using other.symm
        rw [absent] at later
        rw [List.lookup_cons_self, Option.bind_some]
        by_cases kept : keep (name, needed) = true
        · rw [List.filter_cons_of_pos kept, if_pos kept]
          cases given : values name with
          | none => simpa [given] using later
          | some listed => simp [given]
        · rw [List.filter_cons_of_neg kept, if_neg kept]
          exact later
      · have apart : (name == key) = false := by simpa using same
        rw [List.lookup_cons, apart, ← later]
        by_cases kept : keep (key, needed) = true
        · rw [List.filter_cons_of_pos kept]
          cases given : values key with
          | none => simp [given]
          | some listed => simp [given, List.lookup_cons, apart]
        · rw [List.filter_cons_of_neg kept]

theorem constraint_of_iff {spec : Json} {values : List Json} :
    constraintOf spec = some values ↔ ∃ members, spec = .obj members ∧ Lists members values := by
  cases spec with
  | obj members =>
      simp only [constraintOf, Json.get?, Json.obj.injEq]
      constructor
      · intro listed
        refine ⟨members, rfl, ?_⟩
        cases alone : members.lookup "value" with
        | some value =>
            rw [alone] at listed
            cases listed
            exact .value alone
        | none =>
            rw [alone] at listed
            dsimp only at listed
            split at listed
            · rename_i given
              cases listed
              exact .values alone given
            · cases listed
      · rintro ⟨_, rfl, lists⟩
        cases lists with
        | value given => rw [given]
        | values alone given => rw [alone, given]
  | _ =>
      constructor
      · intro listed
        cases listed
      · rintro ⟨_, same, _⟩
        cases same

theorem empty_text_unread (env : Env) (value : Json) :
    loads env.platform.recursionLimit "" ≠ .ok value := by
  intro read
  cases read

/-- The member of the stored request, when it can be read. -/
theorem stored_member_iff {value : Json} :
    (((claimsRequest.filter (· != "")).bind fun text =>
        (loads env.platform.recursionLimit text).toOption).bind fun document =>
          document.get? member) = some value ↔
      ∃ text document, claimsRequest = some text ∧
        loads env.platform.recursionLimit text = .ok (.obj document) ∧
        document.lookup member = some value := by
  constructor
  · intro found
    obtain ⟨document, read, held⟩ := Option.bind_eq_some_iff.1 found
    obtain ⟨text, given, parsed⟩ := Option.bind_eq_some_iff.1 read
    have present := (Option.filter_eq_some_iff.1 given).1
    cases loaded : loads env.platform.recursionLimit text with
    | error error =>
        rw [loaded] at parsed
        cases parsed
    | ok value =>
        rw [loaded] at parsed
        cases parsed
        cases document with
        | obj members => exact ⟨text, members, present, loaded, held⟩
        | _ => cases held
  · rintro ⟨text, document, rfl, loaded, held⟩
    have nonempty : text ≠ "" := by
      intro empty
      rw [empty] at loaded
      exact empty_text_unread env _ loaded
    have kept : (some text).filter (· != "") = some text := by
      simp [Option.filter, nonempty]
    rw [kept, Option.bind_some, loaded]
    exact held

/-- The values a selection allows for a claim are those the request lists, where
the claim is supported and its scope granted. -/
theorem selected_iff {supported : List (String × Option String)}
    (distinct : (supported.map Prod.fst).Nodup) {values : List Json} :
    (selectClaims env claimsRequest scope member supported).constraints.lookup name =
        some values ↔
      (∃ needed, supported.lookup name = some needed ∧
        ∀ permission ∈ needed, permission ∈ Text.split scope) ∧
      Constrains env claimsRequest member name values := by
  unfold selectClaims
  dsimp only
  split
  · rename_i members stored
    have read := stored_member_iff.1 stored
    rw [lookup_constraints _ (fun key => (members.lookup key).bind constraintOf) distinct]
    constructor
    · intro found
      obtain ⟨needed, supports, passes⟩ := Option.bind_eq_some_iff.1 found
      split at passes
      · rename_i keeps
        simp only [Bool.and_eq_true] at keeps
        obtain ⟨entry, named, constrained⟩ := Option.bind_eq_some_iff.1 passes
        obtain ⟨spec, rfl, lists⟩ := constraint_of_iff.1 constrained
        obtain ⟨text, document, given, loaded, held⟩ := read
        constructor
        · refine ⟨needed, supports, ?_⟩
          intro permission required
          cases required
          simpa using keeps.2
        · exact ⟨text, document, members, spec, given, loaded, held, named, lists⟩
      · cases passes
    · rintro ⟨⟨needed, supports, permitted⟩, text, document, others, spec, given, loaded, held,
        named, lists⟩
      have same := stored.symm.trans (stored_member_iff.2 ⟨text, document, given, loaded, held⟩)
      cases same
      have keeps : ((members.lookup name).isSome &&
          needed.all fun permission => (Text.split scope).contains permission) = true := by
        rw [named]
        cases needed with
        | none => rfl
        | some permission => simpa using permitted permission rfl
      rw [supports, Option.bind_some, if_pos keeps, named, Option.bind_some]
      exact constraint_of_iff.2 ⟨spec, rfl, lists⟩
  · rename_i unread
    constructor
    · intro found
      cases found
    · rintro ⟨_, text, document, members, spec, given, loaded, held, _⟩
      exact absurd (stored_member_iff.2 ⟨text, document, given, loaded, held⟩) (unread members)

/-- `value in allowed`, where anything goes that is not constrained. -/
def passes (double : ℚ → Option ℚ) (selection : ClaimsSelection) (name : String)
    (value : Json) : Bool :=
  match selection.constraints.lookup name with
  | none => true
  | some allowed => allowed.any (equalsClaim double · value)

theorem dropped_iff {supported : List (String × Option String)}
    (distinct : (supported.map Prod.fst).Nodup)
    (gate : (∃ needed, supported.lookup name = some needed ∧
      ∀ permission ∈ needed, permission ∈ Text.split scope) ↔ Granted scope name) (value : Json) :
    passes double (selectClaims env claimsRequest scope member supported) name value = false ↔
      Removed double env claimsRequest scope member (name, value) := by
  unfold passes
  cases listed : (selectClaims env claimsRequest scope member supported).constraints.lookup
      name with
  | none =>
      constructor
      · intro dropped
        cases dropped
      · rintro ⟨granted, values, constrains, _⟩
        rw [(selected_iff distinct).2 ⟨gate.2 granted, constrains⟩] at listed
        cases listed
  | some allowed =>
      obtain ⟨permitted, constrains⟩ := (selected_iff distinct).1 listed
      dsimp only
      rw [List.any_eq_false]
      constructor
      · intro unequal
        refine ⟨gate.1 permitted, allowed, constrains, ?_⟩
        intro other member
        simpa using unequal other member
      · rintro ⟨_, values, others, unequal⟩ other member
        have same := (selected_iff distinct).2 ⟨permitted, others⟩
        rw [listed] at same
        cases same
        simpa using unequal other member

theorem id_token_gate : (∃ needed, supportedClaims.lookup name = some needed ∧
    ∀ permission ∈ needed, permission ∈ Text.split scope) ↔ Granted scope name := by
  constructor
  · rintro ⟨needed, supports, permitted⟩
    have listed : (name, needed) ∈ supportedClaims := lookup_member supports
    simp only [supportedClaims, List.mem_cons, Prod.mk.injEq, List.not_mem_nil, or_false] at listed
    rcases listed with ⟨rfl, -⟩ | ⟨rfl, -⟩ | ⟨rfl, rfl⟩ | ⟨rfl, rfl⟩
    · exact .acr
    · exact .authTime
    · exact .email (permitted _ rfl)
    · exact .username (permitted _ rfl)
  · intro granted
    cases granted with
    | acr => exact ⟨none, rfl, by simp⟩
    | authTime => exact ⟨none, rfl, by simp⟩
    | email granted => exact ⟨some "email", rfl, by simpa using granted⟩
    | username granted => exact ⟨some "profile", rfl, by simpa using granted⟩

/-- Userinfo reports neither `acr` nor `auth_time`. -/
theorem userinfo_gate (acr : name ≠ "acr") (authTime : name ≠ "auth_time") :
    (∃ needed, supportedUserinfoClaims.lookup name = some needed ∧
      ∀ permission ∈ needed, permission ∈ Text.split scope) ↔ Granted scope name := by
  constructor
  · rintro ⟨needed, supports, permitted⟩
    have listed : (name, needed) ∈ supportedUserinfoClaims := lookup_member supports
    simp only [supportedUserinfoClaims, List.mem_cons, Prod.mk.injEq, List.not_mem_nil,
      or_false] at listed
    rcases listed with ⟨rfl, rfl⟩ | ⟨rfl, rfl⟩
    · exact .email (permitted _ rfl)
    · exact .username (permitted _ rfl)
  · intro granted
    cases granted with
    | acr => exact absurd rfl acr
    | authTime => exact absurd rfl authTime
    | email granted => exact ⟨some "email", rfl, by simpa using granted⟩
    | username granted => exact ⟨some "profile", rfl, by simpa using granted⟩

end Selection

/-! ### The id_token -/

/-- The claims of a payload. -/
def claimSet (claims : IdTokenClaims) : List (String × Json) :=
  match claims.toPayload with
  | .obj members => members
  | _ => []

theorem id_token_subtracted (double : ℚ → Option ℚ) (env : Env) (request : MintRequest) (now : Int)
    (claimsRequest : Option String) :
    Subtracted (Removed double env claimsRequest request.scope "id_token")
      (claimSet (mintClaims double env request now none))
      (claimSet (mintClaims double env request now
        (some (selectIdTokenClaims env claimsRequest request.scope)))) := by
  have decides : ∀ name (value : Json),
      passes double (selectIdTokenClaims env claimsRequest request.scope) name value = false ↔
        Removed double env claimsRequest request.scope "id_token" (name, value) :=
    fun name value => dropped_iff (by decide) id_token_gate value
  have stays : ∀ name value, ¬Granted request.scope name →
      ¬Removed double env claimsRequest request.scope "id_token" (name, value) :=
    fun name value ungranted removed => ungranted removed.1
  have others : ∀ name (value : Option Json), ¬Granted request.scope name →
      Subtracted (Removed double env claimsRequest request.scope "id_token")
        (optionalMember name value) (optionalMember name value) := by
    intro name value ungranted
    apply subtracted_none
    intro claim member
    cases value with
    | none => cases member
    | some value =>
        rw [List.mem_singleton.1 member]
        exact stays name value ungranted
  unfold claimSet IdTokenClaims.toPayload mintClaims
  dsimp only
  apply Subtracted.append
  · apply Subtracted.append
    · apply Subtracted.append
      · apply Subtracted.append
        · apply Subtracted.append
          · apply Subtracted.append
            · apply Subtracted.append
              · apply Subtracted.append
                · apply subtracted_none
                  intro claim member
                  simp only [List.mem_cons, List.not_mem_nil, or_false] at member
                  rcases member with rfl | rfl | rfl | rfl | rfl <;>
                    exact stays _ _ fun granted => absurd granted.named (by decide)
                · exact others "nonce" _ fun granted => absurd granted.named (by decide)
              · exact others "at_hash" _ fun granted => absurd granted.named (by decide)
            · exact others "c_hash" _ fun granted => absurd granted.named (by decide)
          · exact subtracted_optional Json.str _ (fun value => decides "email" (.str value)) _
        · exact subtracted_optional Json.str _
            (fun value => decides "preferred_username" (.str value)) _
      · exact subtracted_optional Json.str _ (fun value => decides "acr" (.str value)) _
    · exact others "amr" _ fun granted => absurd granted.named (by decide)
  · exact subtracted_optional Json.int _ (fun value => decides "auth_time" (.int value)) _

/-! ### Userinfo -/

/-- The same codes with no `claims` request. -/
def withoutRequests (store : Store) : Store :=
  { store with
    codes := store.codes.updateAll (fun _ => true) (fun row => { row with claimsRequest := none })
      (by
        intro index member row _
        rw [List.mem_singleton.1 member]) }

/-- The request stored with the grant that a token descends from. -/
def storedRequest (env : Env) (store : Store) (row : Token) : Option String :=
  ((row.tokenFamily.filter (· != "")).bind fun family =>
    (Query.getAuthorizationCodeByTokenFamily family).eval env.backend store).bind
      (·.claimsRequest)

/-- Operations that neither write nor read a code. -/
def Codeless : Op → Prop
  | .query (.getAuthorizationCode _) => False
  | .query (.getAuthorizationCodeByTokenFamily _) => False
  | .command _ => False
  | _ => True

/-- Two worlds that differ in the `claims` requests only. -/
def Apart (store : Store) (world bare : World) : Prop :=
  world.store = store ∧ bare = { world with store := withoutRequests store }

section Userinfo

variable {env : Env} {store : Store}

theorem codeless_of_calm (op : Op) (calm : Calm op) : Codeless op := by
  rcases op with read | write | act
  · cases read <;> trivial
  · exact calm.elim
  · trivial

theorem codeless_of_identifying (op : Op) (identifying : Identifying op) : Codeless op :=
  codeless_of_calm op (calm_of_identifying op identifying)

theorem apart_step (op : Op) (world bare : World) (codeless : Codeless op)
    (apart : Apart store world bare) :
    (env.interp op bare).1 = (env.interp op world).1 ∧
      Apart store (env.interp op world).2 (env.interp op bare).2 := by
  obtain ⟨stored, rfl⟩ := apart
  subst stored
  rcases op with read | write | act
  · have same : read.eval env.backend (withoutRequests world.store) =
        read.eval env.backend world.store := by
      cases read <;> first | rfl | exact codeless.elim
    exact ⟨same, rfl, rfl⟩
  · exact codeless.elim
  · exact ⟨rfl, rfl, rfl⟩

/-- What holds of two runs that start alike and read no code until they part. -/
theorem apart_bind {α β : Type} {related : Except Response β → Except Response β → Prop}
    (refused : ∀ response, related (.error response) (.error response))
    {program : Handler α} {rest : α → Handler β}
    (uses : Uses (S := Server) Codeless (fun _ => True) program)
    {world bare : World} (apart : Apart store world bare)
    (later : ∀ value reached reachedBare, program.run env.interp world = (.ok value, reached) →
      Apart store reached reachedBare →
      related ((rest value).run env.interp reached).1 ((rest value).run env.interp reachedBare).1) :
    related ((program >>= rest).run env.interp world).1
      ((program >>= rest).run env.interp bare).1 := by
  obtain ⟨outcomes, reached⟩ := uses.run_alike (Apart store) apart_step apart
  rw [run_bind, run_bind]
  cases ran : program.run env.interp world with
  | mk outcome after =>
      cases ranBare : program.run env.interp bare with
      | mk outcomeBare afterBare =>
          rw [ran, ranBare] at outcomes reached
          dsimp only at outcomes reached
          rw [outcomes]
          cases outcome with
          | error response => exact refused response
          | ok value => exact later value after afterBare ran reached

theorem codeless_decode (env : Env) (token : String) :
    Uses (S := Server) Codeless (fun _ => True) (tryDecode env token) := by
  have decoding : Uses (S := Server) Codeless (fun _ : DecodeError => True)
      (discard (decodeAccessToken env token env.config.jwtSecret env.config.issuer)) :=
    Uses.bind ((SenderConstraint.uses_decode env token _ _).mono codeless_of_identifying
      fun _ _ => trivial) fun _ => trivial
  apply decoding.rescue
  intro raised _
  cases raised <;> trivial

theorem codeless_row (token : String) :
    Uses (S := Server) Codeless (fun _ => True) (userinfoRow token) := by
  apply Uses.bind (uses_query _ trivial)
  intro row
  cases row with
  | none => trivial
  | some row =>
      dsimp only
      split
      · trivial
      · apply Uses.bind (uses_ambient _ trivial)
        intro now
        split <;> trivial

theorem codeless_refuse {α : Type} {service : Service α} (refusal : Response)
    (uses : Uses (S := Server) Calm Unrelated service) :
    Uses (S := Server) Codeless (fun _ => True) (orRefuse service refusal) :=
  (uses.mono codeless_of_calm fun _ unrelated => unrelated).mapError fun _ _ => trivial

theorem codeless_binding (env : Env) (request : UserinfoRequest) (token : String) :
    Uses (S := Server) Codeless (fun _ => True) (enforceTokenBinding env request token) := by
  have jkt : Uses (S := Server) Codeless (fun _ => True) (enforceJkt env request token) := by
    unfold enforceJkt
    split
    · trivial
    · extract_lets checked
      have checks : Uses (S := Server) Codeless (fun _ => True) (checked ()) := by
        unfold checked
        split
        · apply Uses.bind (codeless_refuse _ (uses_validate_dpop_proof env _ _ _ _))
          intro validated
          split <;> trivial
        · trivial
      split
      · trivial
      · exact checks
  have thumbprint : Uses (S := Server) Codeless (fun _ => True)
      (enforceThumbprint env request token) := by
    unfold enforceThumbprint
    split
    · trivial
    · split <;> trivial
  exact Uses.bind jkt fun validated => Uses.bind thumbprint fun _ => trivial

theorem codeless_nonce (env : Env) (clientId : String) (validated : Option Validated) :
    Uses (S := Server) Codeless (fun _ => True) (requireNonce env clientId validated) := by
  cases validated with
  | none => trivial
  | some validated =>
      have enforcing : Uses (S := Server) Codeless (fun _ : Response => True)
          (orRefuse (enforceDpopNonce env validated)
            (invalidTokenResponse "DPoP" "DPoP proof validation failed")) := by
        apply codeless_refuse
        unfold enforceDpopNonce
        split
        · exact (uses_use_dpop_nonce_response _ env _).map
        · apply Uses.bind (uses_ambient _ trivial)
          intro time
          split
          · trivial
          · exact (uses_use_dpop_nonce_response _ env _).map
          · exact uses_throw (by simp)
      apply Uses.bind (uses_query _ trivial)
      intro client
      cases client with
      | none => trivial
      | some client =>
          dsimp only
          split
          · apply Uses.bind enforcing
            intro challenge
            cases challenge <;> trivial
          · trivial

/-- The selection is read off the stored request. -/
theorem userinfo_selection (row : Token) (world : World) :
    (userinfoSelection env row).run env.interp world =
      (.ok (selectUserinfoClaims env (storedRequest env world.store row) row.scope), world) := by
  unfold userinfoSelection storedRequest
  cases row.tokenFamily.filter (· != "") with
  | none => rfl
  | some family =>
      rw [Option.bind_some]
      apply (run_query_bind _ _).trans
      cases (Query.getAuthorizationCodeByTokenFamily family).eval env.backend world.store with
      | none => rfl
      | some code => rfl

theorem stored_request_without (store : Store) (row : Token) :
    storedRequest env (withoutRequests store) row = none := by
  unfold storedRequest
  cases row.tokenFamily.filter (· != "") with
  | none => rfl
  | some family =>
      rw [Option.bind_some]
      cases found : (Query.getAuthorizationCodeByTokenFamily family).eval env.backend
          (withoutRequests store) with
      | none => rfl
      | some code =>
          have listed := List.mem_of_find?_eq_some found
          obtain ⟨row, _, rfl⟩ := List.mem_map.1 listed
          rfl

theorem unconstrained_userinfo (scope : String) : selectUserinfoClaims env none scope = {} := rfl

theorem user_claims_subtracted (double : ℚ → Option ℚ) (env : Env) (row : Token) (user : User)
    (claimsRequest : Option String) :
    Subtracted (Removed double env claimsRequest row.scope "userinfo") (userClaims row {} user)
      (userClaims row (selectUserinfoClaims env claimsRequest row.scope) user) := by
  have decides : ∀ name (value : Json), name ≠ "acr" → name ≠ "auth_time" →
      (passes double (selectUserinfoClaims env claimsRequest row.scope) name value = false ↔
        Removed double env claimsRequest row.scope "userinfo" (name, value)) :=
    fun name value acr authTime => dropped_iff (by decide) (userinfo_gate acr authTime) value
  have one : ∀ (permission name value : String), name ≠ "acr" → name ≠ "auth_time" →
      Subtracted (Removed double env claimsRequest row.scope "userinfo")
        (if (Text.split row.scope).contains permission &&
          ClaimsSelection.allows {} name value then [(name, .str value)] else [])
        (if (Text.split row.scope).contains permission &&
          (selectUserinfoClaims env claimsRequest row.scope).allows name value
            then [(name, .str value)] else []) := by
    intro permission name value acr authTime
    have decided := decides name (.str value) acr authTime
    have free : ClaimsSelection.allows {} name value = true := rfl
    rw [free, Bool.and_true]
    cases (Text.split row.scope).contains permission with
    | false => exact subtracted_none (by simp)
    | true =>
        have single := @subtracted_one _ (name, Json.str value)
          (!(selectUserinfoClaims env claimsRequest row.scope).allows name value)
          (by rw [Bool.not_eq_true']; exact decided)
        cases kept : (selectUserinfoClaims env claimsRequest row.scope).allows name value <;>
          simpa [kept] using single
  exact (one "email" "email" user.email (by decide) (by decide)).append
    (one "profile" "preferred_username" user.username (by decide) (by decide))

/-- How userinfo answers with the stored requests and without. -/
inductive Compared (double : ℚ → Option ℚ) (env : Env) (request : UserinfoRequest) (store : Store) :
    Except Response Response → Except Response Response → Prop
  | refused (response : Response) :
      Compared double env request store (.error response) (.error response)
  | answered {token : String} {row : Token} {headers : List (String × String)}
      {members bare : List (String × Json)}
      (presented : presentedToken env request.toRequest = some token)
      (found : (Query.getTokenByAccessToken token).eval env.backend store = some row)
      (subtracted : Subtracted
        (Removed double env (storedRequest env store row) row.scope "userinfo") bare members) :
      Compared double env request store
        (.ok { status := 200, headers := headers, body := .obj members })
        (.ok { status := 200, headers := headers, body := .obj bare })

theorem row_found {token : String} {row : Token} {world later : World}
    (ran : (userinfoRow token).run env.interp world = (.ok row, later)) :
    (Query.getTokenByAccessToken token).eval env.backend world.store = some row := by
  unfold userinfoRow at ran
  replace ran := (run_query_bind _ _).symm.trans ran
  cases found : (Query.getTokenByAccessToken token).eval env.backend world.store with
  | none =>
      rw [found] at ran
      cases ran
  | some stored =>
      rw [found] at ran
      dsimp only at ran
      split at ran
      · cases ran
      · replace ran := (run_ambient_bind _ _).symm.trans ran
        split at ran
        · cases ran
        · cases ran
          rfl

/-- Userinfo answers as without the stored requests, less the claims they remove. -/
theorem userinfo_compared (double : ℚ → Option ℚ) (env : Env) (request : UserinfoRequest)
    (world : World) :
    Compared double env request world.store ((userinfo env request).run env.interp world).1
      ((userinfo env request).run env.interp
        { world with store := withoutRequests world.store }).1 := by
  have start : Apart world.store world { world with store := withoutRequests world.store } :=
    ⟨rfl, rfl⟩
  have refused : ∀ response,
      Compared double env request world.store (.error response) (.error response) :=
    fun response => .refused response
  unfold userinfo
  cases presented : presentedToken env request.toRequest with
  | none => exact refused _
  | some token =>
      dsimp only
      apply apart_bind refused (codeless_decode env token) start
      intro _ decoded decodedBare _ apart
      apply apart_bind refused (codeless_row token) apart
      intro row located locatedBare finds apartLater
      have found := row_found finds
      rw [apart.1] at found
      apply apart_bind refused (codeless_binding env request token) apartLater
      intro validated bound boundBare _ apart
      cases row.userId with
      | none => exact refused _
      | some subject =>
          dsimp only
          apply apart_bind refused (codeless_nonce env row.clientId validated) apart
          intro renewed before bare _ apart
          obtain ⟨store, process⟩ := before
          obtain ⟨stored, rfl⟩ := apart
          dsimp only at stored
          subst stored
          rw [run_bind, run_bind, userinfo_selection, userinfo_selection]
          dsimp only
          rw [stored_request_without, unconstrained_userinfo]
          let account := (Query.getUserById subject).eval env.backend world.store
          have constant : Subtracted
              (Removed double env (storedRequest env world.store row) row.scope "userinfo")
              [("sub", Json.str subject), ("iss", .str env.config.issuer),
                ("aud", .str row.clientId)]
              [("sub", Json.str subject), ("iss", .str env.config.issuer),
                ("aud", .str row.clientId)] := by
            apply subtracted_none
            intro claim member removed
            simp only [List.mem_cons, List.not_mem_nil, or_false] at member
            rcases member with rfl | rfl | rfl <;> exact absurd removed.1.named (by simp)
          have subtracted := constant.append (show Subtracted _
              ((account.map (userClaims row {})).getD [])
              ((account.map (userClaims row (selectUserinfoClaims env
                (storedRequest env world.store row) row.scope))).getD []) by
            cases account with
            | none => exact subtracted_none (by simp)
            | some user => exact user_claims_subtracted double env row user _)
          cases renewed with
          | false => exact .answered presented found subtracted
          | true => exact .answered presented found subtracted

end Userinfo

/-- A stored request only removes claims, from an id_token and from what userinfo
answers: those whose value is not among the ones it lists. -/
theorem claims_request_removes (double : ℚ → Option ℚ) (env : Env) :
    (∀ (request : MintRequest) (now : Int) (claimsRequest : Option String),
      Subtracted (Removed double env claimsRequest request.scope "id_token")
        (claimSet (mintClaims double env request now none))
        (claimSet (mintClaims double env request now
          (some (selectIdTokenClaims env claimsRequest request.scope))))) ∧
    ∀ (request : UserinfoRequest) (world : World),
      Compared double env request world.store
        ((userinfo env request).run env.interp world).1
        ((userinfo env request).run env.interp
          { world with store := withoutRequests world.store }).1 :=
  ⟨id_token_subtracted double env, userinfo_compared double env⟩

/-! The address is the one that is asked for and stays; the session's `acr` is not. -/

def askedClaims : String :=
  "\x7b\"id_token\": \x7b\"acr\": \x7b\"value\": \"gold\"\x7d, " ++
    "\"email\": \x7b\"values\": [\"a@example.com\", \"b@example.com\"]\x7d\x7d\x7d"

def askedUser : User where
  id := "alice"
  username := "alice"
  passwordHash := ""
  email := "b@example.com"
  createdAt := 0
  updatedAt := 0

example :
    let claims := mintClaims some Runs.sampleEnv
      { client := Runs.sampleClient, userId := "alice", user := some askedUser
        scope := "openid email", acr := some "silver" } 0
      (some (selectIdTokenClaims Runs.sampleEnv (some askedClaims) "openid email"))
    claims.email = some "b@example.com" ∧ claims.acr = none := by
  decide +kernel

end OAuth2Server.ClaimsRequests
