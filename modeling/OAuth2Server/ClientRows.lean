import OAuth2Server.ClientIntake
import OAuth2Server.Runs

/-!
# Client rows across both intake paths

A client row is usable when its columns agree: one source of keys at most, a
source of keys where the method needs one, and a secret exactly when the method
is not `none`. The validators restore this on every path but two. A
registration whose key set is the empty object passes as one with keys, and a
partial update may move a client between `none` and another method while the
stored secret stays. In every run without these two, every row is sound.
-/

namespace OAuth2Server.ClientRows

open OAuth2Server Models Tables JsonText Storage Effects Interaction Interaction.Program
open Administration Backends Runs ClientIntake

set_option autoImplicit false

/-- The methods that verify a client against its own keys. -/
def NeedsKeys (method : String) : Prop :=
  method = "private_key_jwt" ∨ method = "self_signed_tls_client_auth"

instance (method : String) : Decidable (NeedsKeys method) :=
  inferInstanceAs (Decidable (_ ∨ _))

structure Sound (row : Client) : Prop where
  exclusive : ¬(row.jwks ≠ "" ∧ row.jwksUri ≠ "")
  keyed : NeedsKeys row.tokenEndpointAuthMethod → row.jwks ≠ "" ∨ row.jwksUri ≠ ""
  secret : row.tokenEndpointAuthMethod ≠ "none" → row.clientSecret ≠ ""
  secretless : row.tokenEndpointAuthMethod = "none" → row.clientSecret = ""

def SoundRows (world : World) : Prop := ∀ row ∈ world.store.clients.rows, Sound row

/-- What the code draws or prints is never empty: `uuid4().hex`,
`secrets.token_urlsafe` and `str()` of a truthy value. -/
structure Printable (platform : Platform) : Prop where
  drawn : ∀ draw, platform.random draw ≠ ""
  printed : ∀ value : Json, value.str? = none → value.truthy = true → platform.strOf value ≠ ""

/-- The client the path of an admin request names. -/
def named (env : Env) (world : World) (clientUuid : String) : Option Client :=
  (Query.listAllClients.eval env.backend world.store).find? (·.id == clientUuid)

/-- An accepted registration whose method needs keys and whose key set is the
empty object. -/
def emptyKeysAccepted (env : Env) (body : Option Json) : Bool :=
  match body.map modelValidate with
  | some (.ok reg) => decide (NeedsKeys reg.tokenEndpointAuthMethod) &&
      reg.jwks.map List.isEmpty == some true && (checkRegistration env reg).isOk
  | _ => false

/-- An accepted update that moves its client between `none` and another method. -/
def crossesNone (env : Env) (world : World) (clientUuid : String) (body : Option Json) : Bool :=
  match named env world clientUuid with
  | some client =>
      match acceptUpdate env client body with
      | .ok updates =>
          (updates.tokenEndpointAuthMethod.getD client.tokenEndpointAuthMethod == "none") !=
            client.isPublic
      | .error _ => false
  | none => false

def meets (env : Env) (world : World) : ClientRequest → Bool
  | .register body => !emptyKeysAccepted env body
  | .update clientUuid body => !crossesNone env world clientUuid body
  | _ => true

def meetsAll (env : Env) : World → List ClientRequest → Bool
  | _, [] => true
  | world, request :: later =>
      meets env world request && meetsAll env (handle env world request) later

variable {env : Env} {world : World}

/-! ### The validators -/

/-- A validator that accepts has passed its first check. -/
theorem passed_first {α β : Type} {check : Except Response α} {rest : α → Except Response β}
    {accepted : β} (passed : check >>= rest = .ok accepted) :
    ∃ value, check = .ok value ∧ rest value = .ok accepted := by
  cases check with
  | error refusal => cases passed
  | ok value => exact ⟨value, rfl, passed⟩

theorem passed_refuse_if {condition : Bool} {refusal : Response} {rest : Except Response Unit}
    (passed : (refuseIf condition refusal >>= fun _ => rest) = .ok ()) :
    condition = false ∧ rest = .ok () := by
  cases condition with
  | true => cases passed
  | false => exact ⟨rfl, passed⟩

theorem passed_later {check rest : Except Response Unit}
    (passed : (check >>= fun _ => rest) = .ok ()) : rest = .ok () := by
  obtain ⟨_, _, accepted⟩ := passed_first passed
  exact accepted

theorem refuse_if_eq_ok {condition : Bool} {refusal : Response}
    (passed : refuseIf condition refusal = .ok ()) : condition = false := by
  cases condition with
  | true => cases passed
  | false => rfl

/-- A validated row has one source of keys at most, and one where it needs one. -/
theorem validate_key_material_spec {method jwks jwksUri : String}
    (valid : validateKeyMaterial env method jwks jwksUri = .ok ()) :
    ¬(jwks ≠ "" ∧ jwksUri ≠ "") ∧ (NeedsKeys method → jwks ≠ "" ∨ jwksUri ≠ "") := by
  unfold validateKeyMaterial at valid
  have afterMethod := (passed_refuse_if valid).2
  have exclusive := (passed_refuse_if afterMethod).1
  have afterUri := passed_later (passed_refuse_if afterMethod).2
  have privateKey := (passed_refuse_if afterUri).1
  have selfSigned := refuse_if_eq_ok (passed_refuse_if afterUri).2
  constructor
  · simpa using exclusive
  · intro needs
    by_contra keyless
    push Not at keyless
    rcases needs with rfl | rfl
    · simp [keyless] at privateKey
    · simp [keyless] at selfSigned

/-- An accepted registration gives one source of keys at most, and names one
where it needs one. -/
theorem check_registration_spec {reg : ClientRegistration}
    (valid : checkRegistration env reg = .ok ()) :
    (reg.jwks.isSome = true → reg.jwksUri.getD "" = "") ∧
      (NeedsKeys reg.tokenEndpointAuthMethod →
        reg.jwks.isSome = true ∨ reg.jwksUri.getD "" ≠ "") := by
  unfold checkRegistration at valid
  have afterUris := passed_later (passed_later (passed_later (passed_later
    (passed_refuse_if valid).2)))
  have afterMethod := (passed_refuse_if afterUris).2
  have privateKey := (passed_refuse_if afterMethod).1
  have afterPrivateKey := (passed_refuse_if afterMethod).2
  have selfSigned := (passed_refuse_if afterPrivateKey).1
  have exclusive := (passed_refuse_if (passed_refuse_if afterPrivateKey).2).1
  constructor
  · intro inline
    simpa [inline] using exclusive
  · intro needs
    by_contra keyless
    push Not at keyless
    have inline : reg.jwks = none := by simpa using keyless.1
    rcases needs with method | method
    · simp [method, keyless.2, inline] at privateKey
    · simp [method, keyless.2, inline] at selfSigned

theorem dumped_jwks_eq_empty_iff (members : List (String × Json)) :
    dumpedJwks env members = "" ↔ members = [] := by
  unfold dumpedJwks
  cases members with
  | nil => simp
  | cons member rest =>
      simp only [List.isEmpty_cons, Bool.false_eq_true, if_false, reduceCtorEq, iff_false]
      intro same
      have texts := congrArg String.toList same
      simp [dumped, dumps] at texts

theorem registered_keys {reg : ClientRegistration} (valid : checkRegistration env reg = .ok ())
    (given : NeedsKeys reg.tokenEndpointAuthMethod → reg.jwks.map List.isEmpty ≠ some true) :
    ¬((registered env reg).jwks ≠ "" ∧ (registered env reg).jwksUri ≠ "") ∧
      (NeedsKeys reg.tokenEndpointAuthMethod →
        (registered env reg).jwks ≠ "" ∨ (registered env reg).jwksUri ≠ "") := by
  obtain ⟨exclusive, named⟩ := check_registration_spec valid
  simp only [registered, ne_eq, dumped_jwks_eq_empty_iff]
  cases inline : reg.jwks with
  | none =>
      constructor
      · simp
      · intro needs
        have uri := named needs
        simp only [inline, Option.isSome_none, Bool.false_eq_true, false_or] at uri
        exact Or.inr uri
  | some members =>
      rw [inline] at exclusive given
      constructor
      · simp [exclusive rfl]
      · intro needs
        left
        simpa using given needs

/-! ### Rows of the store -/

theorem sound_of_clients {later : World} (same : later.store.clients = world.store.clients)
    (sound : SoundRows world) : SoundRows later := by
  unfold SoundRows
  rw [same]
  exact sound

theorem sound_saved {row : Client} (sound : SoundRows world) (fresh : Sound row) :
    SoundRows (env.interp (.command (.saveClient row)) world).2 := by
  have stored := inserted_cases env.backend world.store.clients Client.id row
    (fun table => { world.store with clients := table }) world.store
  intro other member
  simp only [interp_command, Command.exec] at member
  rcases stored with refused | ⟨grown, accepted, appended⟩
  · rw [refused] at member
    exact sound other member
  · rw [accepted] at member
    simp only [appended, List.mem_append, List.mem_singleton] at member
    rcases member with old | rfl
    · exact sound other old
    · exact fresh

/-- The end of both intake paths. -/
theorem sound_store_client {row : Client} {response : Response} (sound : SoundRows world)
    (fresh : Sound row) :
    SoundRows ((do
      let saved ← command (.saveClient row)
      TokenEndpoint.call (insertOrRaise saved)
      pure response : Handler Response).run env.interp world).2 := by
  have saved : SoundRows (env.interp (.command (.saveClient row)) world).2 :=
    sound_saved sound fresh
  rw [interp_command] at saved
  rw [run_command_bind]
  unfold insertOrRaise
  split
  · exact saved
  · exact saved

theorem sound_changed (world : World) {matching : Client → Bool} {change : Client → Client}
    {later : World} (rows : later.store.clients.rows =
      world.store.clients.rows.map fun row => if matching row then change row else row)
    (sound : SoundRows world)
    (changed : ∀ row ∈ world.store.clients.rows, matching row = true → Sound (change row)) :
    SoundRows later := by
  intro row member
  rw [rows, List.mem_map] at member
  obtain ⟨before, old, rfl⟩ := member
  by_cases hit : matching before = true
  · rw [if_pos hit]
    exact changed before old hit
  · rw [if_neg hit]
    exact sound before old

/-- A row that agrees with a sound one in the four columns and the method. -/
theorem Sound.of_columns {row other : Client} (sound : Sound row)
    (method : other.tokenEndpointAuthMethod = row.tokenEndpointAuthMethod)
    (secret : other.clientSecret = row.clientSecret) (jwks : other.jwks = row.jwks)
    (jwksUri : other.jwksUri = row.jwksUri) : Sound other := by
  obtain ⟨exclusive, keyed, hasSecret, noSecret⟩ := sound
  constructor
  · rwa [jwks, jwksUri]
  · rwa [method, jwks, jwksUri]
  · rwa [method, secret]
  · rwa [method, secret]

/-! ### The routes -/

/-- A secret is stored exactly when the method is not `none`. -/
theorem row_sound {metadata : ClientMetadata} {id clientId clientSecret : String}
    {registrationAccessToken : String} {now : Instant}
    (exclusive : ¬(metadata.jwks ≠ "" ∧ metadata.jwksUri ≠ ""))
    (keyed : NeedsKeys metadata.tokenEndpointAuthMethod →
      metadata.jwks ≠ "" ∨ metadata.jwksUri ≠ "")
    (secret : metadata.tokenEndpointAuthMethod = "none" ↔ clientSecret = "") :
    Sound (metadata.row id clientId clientSecret registrationAccessToken now) := by
  constructor
  · exact exclusive
  · exact keyed
  · intro confidential empty
    exact confidential (secret.2 empty)
  · exact secret.1

/-- Reading a clock or drawing a value leaves the rows alone. -/
theorem sound_ambient {α : Type} {act : Ambient} {rest : act.Ans → Handler α}
    (later : ∀ answer process, answer = (act.exec env.platform world.process).1 →
      SoundRows ((rest answer).run env.interp { world with process := process }).2) :
    SoundRows ((ambient act >>= rest).run env.interp world).2 :=
  later _ _ rfl

theorem accept_registration_spec {body : Option Json} {metadata : ClientMetadata}
    (accepted : acceptRegistration env body = .ok metadata) :
    ∃ reg, body.map modelValidate = some (.ok reg) ∧ checkRegistration env reg = .ok () ∧
      metadata = registered env reg := by
  unfold acceptRegistration at accepted
  cases parsed : body.map modelValidate with
  | none => simp [parsed] at accepted
  | some outcome =>
      cases outcome with
      | error error => simp [parsed] at accepted
      | ok reg =>
          rw [parsed] at accepted
          cases valid : checkRegistration env reg with
          | error refusal =>
              simp only [valid] at accepted
              cases accepted
          | ok _ =>
              simp only [valid] at accepted
              cases accepted
              exact ⟨reg, rfl, valid, rfl⟩

theorem register_keeps_sound (printable : Printable env.platform) (body : Option Json)
    (sound : SoundRows world) (given : emptyKeysAccepted env body = false) :
    SoundRows (handle env world (.register body)) := by
  show SoundRows ((Administration.registerClient env (acceptRegistration env body)).run
    env.interp world).2
  unfold Administration.registerClient
  apply keeps_reject_bind sound
  intro _
  apply keeps_of_except_bind sound
  intro metadata accepted
  obtain ⟨reg, parsed, valid, rfl⟩ := accept_registration_spec accepted
  have nonempty : NeedsKeys reg.tokenEndpointAuthMethod →
      reg.jwks.map List.isEmpty ≠ some true := by
    intro needs
    simpa [emptyKeysAccepted, parsed, valid, needs, Except.isOk, Except.toBool] using given
  have keys := registered_keys valid nonempty
  apply sound_ambient
  intro now _ _
  apply sound_ambient
  intro clientId _ _
  -- Only the secret differs between a public and a confidential client.
  by_cases isPublic : (registered env reg).tokenEndpointAuthMethod = "none"
  · simp only [isPublic, beq_self_eq_true, if_true, pure_eq_done, done_bind]
    apply sound_ambient
    intro registrationAccessToken _ _
    apply sound_ambient
    intro id _ _
    apply sound_store_client
    · exact sound
    · exact row_sound keys.1 keys.2 (iff_of_true isPublic rfl)
  · have confidential : ((registered env reg).tokenEndpointAuthMethod == "none") = false := by
      simpa using isPublic
    simp only [confidential, Bool.false_eq_true, if_false]
    apply sound_ambient
    intro clientSecret _ drawn
    apply sound_ambient
    intro registrationAccessToken _ _
    apply sound_ambient
    intro id _ _
    apply sound_store_client
    · exact sound
    · apply row_sound keys.1 keys.2
      apply iff_of_false isPublic
      rw [drawn]
      exact printable.drawn _

/-! #### Admin creation -/

theorem str_nonempty (printable : Printable env.platform) {value : Json}
    (truthy : value.truthy = true) : str env value ≠ "" := by
  cases value with
  | str text => simpa [Json.truthy, str] using truthy
  | _ => exact printable.printed _ rfl truthy

/-- From the accepted key material on, `create` stores a sound row. -/
theorem create_keeps_sound (printable : Printable env.platform) (body : Option Json)
    (sound : SoundRows world) : SoundRows (handle env world (.create body)) := by
  show SoundRows ((ClientIntake.create env body).run env.interp world).2
  unfold ClientIntake.create
  extract_lets members get name requested redirectUris grantTypes scope postUris finish drawn
  have finishes : ∀ clientId process,
      SoundRows ((finish clientId).run env.interp { world with process := process }).2 := by
    intro clientId process
    dsimp -zeta only [finish]
    apply keeps_of_except_bind
    · exact sound
    intro authMethod _
    apply keeps_of_except_bind
    · exact sound
    intro jwks _
    apply keeps_of_except_bind
    · exact sound
    intro jwksUri _
    apply keeps_of_except_bind
    · exact sound
    intro subjectDn _
    apply keeps_reject_bind
    · exact sound
    intro _
    apply keeps_of_except_bind
    · exact sound
    intro _ valid
    have keys := validate_key_material_spec valid
    extract_lets isPublic store
    have stores : ∀ clientSecret process, (authMethod = "none" ↔ clientSecret = "") →
        SoundRows ((store clientSecret).run env.interp { world with process := process }).2 := by
      intro clientSecret process secret
      simp only [store]
      apply keeps_of_except_bind
      · exact sound
      intro backchannelLogoutUri _
      apply keeps_of_except_bind
      · exact sound
      intro frontchannelLogoutUri _
      apply keeps_of_except_bind
      · exact sound
      intro _ _
      apply sound_ambient
      intro now _ _
      apply sound_ambient
      intro id _ _
      apply keeps_of_except_bind
      · exact sound
      intro clientIdText _
      apply keeps_of_except_bind
      · exact sound
      intro scopeText _
      apply sound_store_client
      · exact sound
      · exact row_sound keys.1 keys.2 secret
    by_cases isOpen : authMethod = "none"
    · have published : isPublic = true := by simpa [isPublic] using isOpen
      rw [if_pos published]
      exact stores "" process (iff_of_true isOpen rfl)
    · have confidential : ¬isPublic = true := by simpa [isPublic] using isOpen
      rw [if_neg confidential]
      by_cases given : (get "client_secret").truthy = true
      · rw [if_pos given]
        exact stores _ process (iff_of_false isOpen (str_nonempty printable given))
      · rw [if_neg given]
        apply sound_ambient
        intro clientSecret later chosen
        apply stores _ later (iff_of_false isOpen _)
        rw [chosen]
        exact printable.drawn _
  have draws : ∀ checked, SoundRows ((drawn checked).run env.interp world).2 := by
    intro checked
    simp only [drawn]
    split
    · exact finishes requested world.process
    · apply sound_ambient
      intro hex process _
      exact finishes _ process
  apply keeps_reject_bind sound
  intro _
  split
  · rw [run_query_bind]
    apply keeps_reject_bind sound
    intro _
    exact draws ()
  · exact draws ()

/-! #### Changes to a stored row -/

theorem named_member {clientUuid : String} {client : Client}
    (found : named env world clientUuid = some client) : client ∈ world.store.clients.rows := by
  have listed := List.mem_of_find?_eq_some found
  simpa [Query.eval] using listed

/-- Resolving the path ends the request, or goes on with a stored row. -/
theorem sound_resolve {α : Type} {clientUuid : String} {rest : Client → Handler α}
    (sound : SoundRows world)
    (later : ∀ client, named env world clientUuid = some client →
      SoundRows ((rest client).run env.interp world).2) :
    SoundRows ((resolveClient clientUuid >>= rest).run env.interp world).2 := by
  unfold resolveClient
  rw [bind_assoc, run_query_bind]
  cases found : named env world clientUuid with
  | none =>
      unfold named at found
      rw [found]
      exact sound
  | some client =>
      have listed := found
      unfold named at listed
      rw [listed]
      exact later client found

/-- Alone, an update acts as the admin route does on the body its row accepts. -/
theorem update_eq_accepted {clientUuid : String} {client : Client} {body : Option Json}
    (found : named env world clientUuid = some client) :
    (ClientIntake.update env clientUuid body).run env.interp world =
      (Administration.updateClient clientUuid (acceptUpdate env client body)).run
        env.interp world := by
  unfold named at found
  unfold ClientIntake.update Administration.updateClient resolveClient
  rw [bind_assoc, bind_assoc, run_query_bind, run_query_bind, found]
  rfl

theorem sound_touch {α : Type} {rest : Instant → Handler α}
    (later : ∀ now process,
      SoundRows ((rest now).run env.interp { world with process := process }).2) :
    SoundRows ((touchTime env >>= rest).run env.interp world).2 := by
  unfold touchTime
  split
  · exact later 0 world.process
  · exact later _ _

theorem accept_update_spec {client : Client} {body : Option Json} {updates : ClientUpdate}
    (accepted : acceptUpdate env client body = .ok updates) :
    validateKeyMaterial env (updates.tokenEndpointAuthMethod.getD client.tokenEndpointAuthMethod)
      (updates.jwks.getD client.jwks) (updates.jwksUri.getD client.jwksUri) = .ok () := by
  unfold acceptUpdate at accepted
  obtain ⟨update, parsed, accepted⟩ := passed_first accepted
  obtain ⟨_, _, accepted⟩ := passed_first accepted
  obtain ⟨_, _, accepted⟩ := passed_first accepted
  obtain ⟨_, valid, accepted⟩ := passed_first accepted
  cases accepted
  exact valid

/-- The merged row is checked; its secret and whether it needs one stay. -/
theorem updated_sound {client : Client} {body : Option Json} {updates : ClientUpdate}
    {now : Instant} (sound : Sound client) (accepted : acceptUpdate env client body = .ok updates)
    (stays : updates.tokenEndpointAuthMethod.getD client.tokenEndpointAuthMethod = "none" ↔
      client.tokenEndpointAuthMethod = "none") :
    Sound (updates.apply client now) := by
  have keys := validate_key_material_spec (accept_update_spec accepted)
  constructor
  · exact keys.1
  · exact keys.2
  · intro confidential
    exact sound.secret fun isPublic => confidential (stays.2 isPublic)
  · intro isPublic
    exact sound.secretless (stays.1 isPublic)

theorem update_keeps_sound (clientUuid : String) (body : Option Json) (sound : SoundRows world)
    (stays : crossesNone env world clientUuid body = false) :
    SoundRows (handle env world (.update clientUuid body)) := by
  show SoundRows ((ClientIntake.update env clientUuid body).run env.interp world).2
  unfold ClientIntake.update
  apply sound_resolve sound
  intro client found
  apply keeps_of_except_bind sound
  intro updates accepted
  apply sound_ambient
  intro now process _
  have method : updates.tokenEndpointAuthMethod.getD client.tokenEndpointAuthMethod = "none" ↔
      client.tokenEndpointAuthMethod = "none" := by
    have same : (updates.tokenEndpointAuthMethod.getD client.tokenEndpointAuthMethod == "none") =
        client.isPublic := by
      unfold crossesNone at stays
      rw [found] at stays
      dsimp only at stays
      rw [accepted] at stays
      exact bne_eq_false_iff_eq.1 stays
    rw [Bool.eq_iff_iff, beq_iff_eq] at same
    exact same.trans beq_iff_eq
  have merged : Sound (updates.apply client now) :=
    updated_sound (sound client (named_member found)) accepted method
  have stored : SoundRows
      (env.interp (.command (.updateClient (updates.apply client now)))
        { world with process := process }).2 := by
    apply sound_changed world (clients_after_update _) sound
    intro row _ _
    apply merged.of_columns
    all_goals
      unfold updatedClient
      cases env.backend <;> rfl
  dsimp only
  rw [run_command_bind]
  split
  · exact sound_of_clients (clients_kept rfl) stored
  · exact stored

theorem set_enabled_keeps_sound (clientUuid : String) (body : Option Json)
    (sound : SoundRows world) : SoundRows (handle env world (.setEnabled clientUuid body)) := by
  show SoundRows ((setClientEnabled env clientUuid (enabledFlag body)).run env.interp world).2
  unfold setClientEnabled
  apply sound_resolve sound
  intro client _
  split
  · exact sound
  · rename_i enabled _
    apply sound_touch
    intro now process
    have stored : SoundRows
        (env.interp (.command (.setClientEnabled client.clientId enabled now))
          { world with process := process }).2 := by
      apply sound_changed world (clients_after_enabled _ _ _) sound
      intro row member _
      exact (sound row member).of_columns rfl rfl rfl rfl
    rw [run_command_bind]
    split
    · exact sound_of_clients (clients_kept rfl) stored
    · exact stored

theorem regenerate_secret_keeps_sound (printable : Printable env.platform) (clientUuid : String)
    (sound : SoundRows world) :
    SoundRows (handle env world (.regenerateSecret clientUuid)) := by
  show SoundRows ((regenerateClientSecret env clientUuid).run env.interp world).2
  unfold regenerateClientSecret
  apply sound_resolve sound
  intro client found
  apply keeps_reject_bind sound
  intro confidential
  apply sound_ambient
  intro secret _ drawn
  apply sound_touch
  intro now process
  have nonempty : secret ≠ "" := by
    rw [drawn]
    exact printable.drawn _
  rw [run_command_bind]
  apply sound_changed world (clients_after_secret _ _ _) sound
  intro row member hit
  have same : row = client :=
    world.store.clients.eq_of_index (List.mem_singleton.2 rfl) member (named_member found)
      (by simpa using hit)
  have before := sound row member
  constructor
  · exact before.exclusive
  · exact before.keyed
  · intro _
    exact nonempty
  · intro isPublic
    have method : client.tokenEndpointAuthMethod = "none" := by
      rw [← same]
      exact isPublic
    simp [Client.isPublic, method] at confidential

theorem delete_keeps_sound (clientUuid : String) (sound : SoundRows world) :
    SoundRows (handle env world (.delete clientUuid)) := by
  show SoundRows ((deleteClient clientUuid).run env.interp world).2
  unfold deleteClient
  apply sound_resolve sound
  intro client _
  rw [run_command_bind, pure_eq_done, run_done]
  intro row member
  rw [clients_after_delete] at member
  exact sound row (List.mem_of_mem_filter member)

/-! ### Runs -/

theorem handle_keeps_sound (printable : Printable env.platform) (world : World)
    (request : ClientRequest) (met : meets env world request = true) (sound : SoundRows world) :
    SoundRows (handle env world request) := by
  cases request with
  | register body => exact register_keeps_sound printable body sound (by simpa [meets] using met)
  | create body => exact create_keeps_sound printable body sound
  | update clientUuid body =>
      exact update_keeps_sound clientUuid body sound (by simpa [meets] using met)
  | setEnabled clientUuid body => exact set_enabled_keeps_sound clientUuid body sound
  | regenerateSecret clientUuid => exact regenerate_secret_keeps_sound printable clientUuid sound
  | delete clientUuid => exact delete_keeps_sound clientUuid sound

theorem handle_all_keeps_sound (printable : Printable env.platform) (world : World)
    (requests : List ClientRequest) (along : meetsAll env world requests = true)
    (sound : SoundRows world) : SoundRows (handleAll env world requests) := by
  induction requests generalizing world with
  | nil => exact sound
  | cons request later induction =>
      simp only [meetsAll, Bool.and_eq_true] at along
      have kept := handle_keeps_sound printable world request along.1 sound
      exact induction (handle env world request) along.2 kept

/-- From an empty client table, whatever is registered, created, updated,
enabled, disabled, given a new secret or deleted: as long as no registration
passes off an empty key set as keys and no update crosses between `none` and
another method, every row is sound. -/
theorem client_rows_sound (env : Env) (printable : Printable env.platform) (world : World)
    (empty : world.store.clients.rows = []) (requests : List ClientRequest)
    (along : meetsAll env world requests = true) :
    ∀ row ∈ (handleAll env world requests).store.clients.rows, Sound row := by
  apply handle_all_keeps_sound printable world requests along
  intro row member
  rw [empty] at member
  cases member

def intakeEnv : Env :=
  { sampleEnv with
    config := { sampleEnv.config with dynamicRegistrationEnabled := true }
    platform := { samplePlatform with
      strOf := fun value => if value.truthy then "True" else "None"
      random := fun draw => "random-" ++ String.ofList (List.replicate draw 'i') } }

theorem intake_printable : Printable intakeEnv.platform := by
  constructor
  · intro draw empty
    have texts := congrArg String.toList empty
    simp [intakeEnv] at texts
  · intro value _ truthy
    simp [intakeEnv, truthy]

def emptyWorld : World where
  store := Store.empty
  process := sampleProcess

def keySet : Json := .obj [("keys", .arr [])]

/-- A registration under `private_key_jwt` with the given key set. -/
def keyedRegistration (jwks : Json) : ClientRequest :=
  .register (some (.obj
    [("redirect_uris", .arr [.str "https://app.example/cb"]),
      ("token_endpoint_auth_method", .str "private_key_jwt"), ("jwks", jwks)]))

def publicCreation : ClientRequest :=
  .create (some (.obj [("name", .str "App"), ("token_endpoint_auth_method", .str "none")]))

def securingPublic : List ClientRequest :=
  [publicCreation, .update "random-i"
    (some (.obj [("token_endpoint_auth_method", .str "client_secret_basic")]))]

/-- A registered client takes its keys from a URI instead and gets a new secret. -/
def intakeRun : List ClientRequest :=
  [publicCreation, .delete "random-i", keyedRegistration keySet,
    .update "random-iiiii"
      (some (.obj [("jwks", .obj []), ("jwks_uri", .str "https://keys.example/jwks")])),
    .regenerateSecret "random-iiiii",
    .setEnabled "random-iiiii" (some (.obj [("enabled", .bool false)]))]

theorem intake_run_sound :
    meetsAll intakeEnv emptyWorld intakeRun = true ∧
      ((handleAll intakeEnv emptyWorld intakeRun).store.clients.rows.map fun row =>
        (row.clientSecret, row.jwks, row.jwksUri, row.enabled)) =
        [("random-iiiiii", "", "https://keys.example/jwks", false)] ∧
      ∀ row ∈ (handleAll intakeEnv emptyWorld intakeRun).store.clients.rows, Sound row :=
  ⟨by decide +kernel, by decide +kernel,
    client_rows_sound intakeEnv intake_printable emptyWorld rfl intakeRun (by decide +kernel)⟩

/-- Both exceptions occur: a registration under `private_key_jwt` with the empty
object for keys, and a public client updated to `client_secret_basic`. -/
theorem unsound_rows_reached :
    (∃ row ∈ (handleAll intakeEnv emptyWorld [keyedRegistration (.obj [])]).store.clients.rows,
        ¬Sound row) ∧
      ∃ row ∈ (handleAll intakeEnv emptyWorld securingPublic).store.clients.rows,
        ¬Sound row := by
  constructor
  · have keyless : ∃ row ∈ (handleAll intakeEnv emptyWorld
        [keyedRegistration (.obj [])]).store.clients.rows,
        row.tokenEndpointAuthMethod = "private_key_jwt" ∧ row.jwks = "" ∧ row.jwksUri = "" := by
      decide +kernel
    obtain ⟨row, member, method, inline, remote⟩ := keyless
    use row, member
    intro sound
    have keys := sound.keyed (Or.inl method)
    rw [inline, remote] at keys
    simp at keys
  · have secretless : ∃ row ∈ (handleAll intakeEnv emptyWorld securingPublic).store.clients.rows,
        row.tokenEndpointAuthMethod = "client_secret_basic" ∧ row.clientSecret = "" := by
      decide +kernel
    obtain ⟨row, member, method, secret⟩ := secretless
    use row, member
    intro sound
    apply sound.secret _ secret
    rw [method]
    decide

end OAuth2Server.ClientRows
