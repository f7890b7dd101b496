import OAuth2Server.Seeds
import OAuth2Server.JsonRoundTrip
import OAuth2Server.Interaction
import OAuth2Server.Models

/-!
# The seeds that are accepted

The loops of `_validate_seed` decide a condition on the whole seed. Exactly the
seeds that meet it can be loaded, each of them from a document of its own.
-/

namespace OAuth2Server.SeedAcceptance

open OAuth2Server JsonText StrictJson JsonRoundTrip Seeds

set_option autoImplicit false

/-! ### Checks in a row -/

theorem refuse_if_ok {condition : Bool} {message : String} :
    refuseIf condition message = .ok () ↔ condition = false := by
  cases condition with
  | true => simp [refuseIf, refuse]
  | false => simp [refuseIf]

theorem check_then {α : Type} {check : Checked Unit} {rest : Checked α} {value : α} :
    (check >>= fun _ => rest) = .ok value ↔ check = .ok () ∧ rest = .ok value := by
  rw [Interaction.except_bind_eq_ok]
  constructor
  · rintro ⟨⟨⟩, passed, later⟩
    exact ⟨passed, later⟩
  · rintro ⟨passed, later⟩
    exact ⟨(), passed, later⟩

theorem check_each_ok {α : Type} {check : α → Checked Unit} {items : List α} :
    checkEach check items = .ok () ↔ ∀ item ∈ items, check item = .ok () := by
  induction items with
  | nil => simp [checkEach]
  | cons item rest induction => rw [checkEach, check_then, induction, List.forall_mem_cons]

/-- The loop passes when every item does and no name comes twice. -/
theorem each_distinct_ok {α : Type} {name : α → String} {duplicate : String → String}
    {before after : α → Checked Unit} {items : List α} {seen found : List String} :
    eachDistinct name duplicate before after seen items = .ok found ↔
      (∀ item ∈ items, before item = .ok () ∧ after item = .ok ()) ∧ (items.map name).Nodup ∧
        (∀ item ∈ items, name item ∉ seen) ∧ found = (items.map name).reverse ++ seen := by
  induction items generalizing seen with
  | nil => simp [eachDistinct, eq_comm]
  | cons item rest induction =>
      rw [eachDistinct, check_then, check_then, check_then, refuse_if_ok, induction,
        List.contains_eq_mem, decide_eq_false_iff_not, List.forall_mem_cons, List.forall_mem_cons]
      simp only [List.map_cons, List.nodup_cons, List.reverse_cons,
        List.append_assoc, List.singleton_append, List.mem_cons, not_or, List.mem_map, not_exists,
        not_and]
      constructor
      · rintro ⟨first, fresh, second, each, distinct, apart, whole⟩
        exact ⟨⟨⟨first, second⟩, each⟩, ⟨fun other member => (apart other member).1, distinct⟩,
          ⟨fresh, fun other member => (apart other member).2⟩, whole⟩
      · rintro ⟨⟨⟨first, second⟩, each⟩, ⟨other, distinct⟩, ⟨fresh, apart⟩, whole⟩
        exact ⟨first, fresh, second, each, distinct,
          fun item member => ⟨other item member, apart item member⟩, whole⟩

/-! ### Accepted seeds -/

/-- A web URL with a host and no slash at its end. -/
structure AcceptedIssuer (issuer : String) : Prop where
  web : ∃ parts, Url.urlsplit issuer = some parts ∧
    (parts.scheme = "http" ∨ parts.scheme = "https") ∧ parts.netloc ≠ ""
  unslashed : issuer.toList.getLast? ≠ some '/'

structure AcceptedKey (key : SeedSigningKey) : Prop where
  kid : key.kid ≠ ""
  use : key.use = "sig"
  alg : key.alg = "HS256" ∨ key.alg = "RS256"

/-- A web URL, or one of a private-use scheme with a dot in it; no fragment. -/
def AcceptedUri (uri : String) : Prop :=
  ∃ parts, Url.urlsplit uri = some parts ∧ parts.fragment = "" ∧
    (isHttp parts.scheme = true ∧ parts.netloc ≠ "" ∨
      isHttp parts.scheme = false ∧ '.' ∈ parts.scheme.toList ∧ parts.path ≠ "")

/-- Either a public client, without a secret and without any other method, or
one with a secret that is not empty. -/
def AcceptedSecret (client : SeedClient) : Prop :=
  if client.isPublic then client.clientSecret = none ∧
    (client.tokenEndpointAuthMethod = none ∨ client.tokenEndpointAuthMethod = some "none")
  else ∃ secret, client.clientSecret = some secret ∧ secret ≠ ""

structure AcceptedClient (client : SeedClient) : Prop where
  clientId : client.clientId ≠ ""
  name : client.name ≠ some ""
  method : ∀ method, client.tokenEndpointAuthMethod = some method → method ∈ authMethods
  secret : AcceptedSecret client
  redirectUris : client.redirectUris ≠ []
  uris : ∀ uri ∈ client.redirectUris, AcceptedUri uri
  scopes : ∀ scope ∈ client.scopes.getD [], scope ≠ "" ∧
    ∀ char ∈ scope.toList, Text.isSpace char = false
  grants : ∀ grant ∈ client.grantTypes.getD [], grant ∈ grantTypes

structure AcceptedUser (clientIds : List String) (user : SeedUser) : Prop where
  username : user.username ≠ ""
  password : user.password ≠ ""
  email : ∀ email, user.email = some email → 3 ≤ email.length
  approved : ∀ approved ∈ user.autoApproveClients.getD [], approved ∈ clientIds

structure Accepted (seed : Seed) : Prop where
  issuer : AcceptedIssuer seed.issuer
  someClient : seed.clients ≠ []
  someUser : seed.users ≠ []
  keys : ∀ key ∈ seed.signingKeys, AcceptedKey key
  kids : (seed.signingKeys.map SeedSigningKey.kid).Nodup
  clients : ∀ client ∈ seed.clients, AcceptedClient client
  clientIds : (seed.clients.map SeedClient.clientId).Nodup
  users : ∀ user ∈ seed.users, AcceptedUser (seed.clients.map SeedClient.clientId) user
  usernames : (seed.users.map SeedUser.username).Nodup

section Deciding

variable {within : Surroundings}

theorem split_then {α : Type} {url : String} {rest : Url.SplitResult → Checked α} {value : α} :
    (split url >>= rest) = .ok value ↔
      ∃ parts, Url.urlsplit url = some parts ∧ rest parts = .ok value := by
  unfold split
  rw [Interaction.except_bind_eq_ok]
  cases Url.urlsplit url <;> simp

theorem http_iff {scheme : String} :
    (!isHttp scheme) = false ↔ scheme = "http" ∨ scheme = "https" := by
  simp only [isHttp, Bool.not_eq_false', Bool.or_eq_true, beq_iff_eq]

theorem issuer_ok {issuer : String} :
    validateIssuer within issuer = .ok () ↔ AcceptedIssuer issuer := by
  unfold validateIssuer
  simp only [split_then, check_then, refuse_if_ok, http_iff]
  constructor
  · rintro ⟨parts, whole, web, host, unslashed⟩
    exact ⟨⟨parts, whole, web, by simpa using host⟩, by simpa using unslashed⟩
  · rintro ⟨⟨parts, whole, web, host⟩, unslashed⟩
    exact ⟨parts, whole, web, by simpa using host, by simpa using unslashed⟩

theorem supported_well_formed {alg : String} (supported : alg = "HS256" ∨ alg = "RS256") :
    wellFormedAlg alg = true := by
  rcases supported with rfl | rfl <;> decide

theorem supported_iff {alg : String} :
    (!supportedSeedAlgs.contains alg) = false ↔ alg = "HS256" ∨ alg = "RS256" := by
  rw [Bool.not_eq_false', List.contains_iff_mem, supportedSeedAlgs, List.mem_cons,
    List.mem_singleton]

theorem key_ok {key : SeedSigningKey} :
    (nonempty "signingKeys[].kid" key.kid = .ok () ∧ checkSigningKey within key = .ok ()) ↔
      AcceptedKey key := by
  unfold nonempty checkSigningKey
  simp only [check_then, refuse_if_ok, supported_iff]
  constructor
  · rintro ⟨kid, use, -, alg⟩
    exact ⟨by simpa using kid, by simpa using use, alg⟩
  · rintro ⟨kid, use, alg⟩
    exact ⟨by simpa using kid, by simpa using use, by rw [supported_well_formed alg]; rfl, alg⟩

theorem uri_ok {cid uri : String} :
    validateRedirectUri within cid uri = .ok () ↔ AcceptedUri uri := by
  unfold validateRedirectUri AcceptedUri
  simp only [split_then, check_then, refuse_if_ok]
  apply exists_congr
  intro parts
  apply and_congr_right
  intro _
  cases isHttp parts.scheme <;> simp [and_comm]

theorem method_ok {client : SeedClient} : checkMethod within client = .ok () ↔
    ∀ method, client.tokenEndpointAuthMethod = some method → method ∈ authMethods := by
  unfold checkMethod
  cases client.tokenEndpointAuthMethod with
  | none => simp
  | some method => simp [refuse_if_ok]

theorem secret_ok {client : SeedClient} :
    (client.clientSecret == some "") = false ∧ checkSecret within client = .ok () ↔
      AcceptedSecret client := by
  unfold checkSecret AcceptedSecret
  cases client.isPublic with
  | true =>
      simp only [if_true, check_then, refuse_if_ok]
      cases client.clientSecret <;> cases client.tokenEndpointAuthMethod <;> simp
  | false =>
      simp only [Bool.false_eq_true, if_false, refuse_if_ok]
      cases client.clientSecret <;> simp

theorem client_ok {client : SeedClient} :
    (nonempty "clients[].client_id" client.clientId = .ok () ∧
      validateClient within client = .ok ()) ↔ AcceptedClient client := by
  unfold nonempty validateClient
  simp only [check_then, refuse_if_ok, method_ok, check_each_ok, uri_ok]
  constructor
  · rintro ⟨clientId, name, method, emptySecret, secret, redirectUris, uris, scopes, grants⟩
    exact
      { clientId := by simpa using clientId
        name := by simpa using name
        method := method
        secret := secret_ok.1 ⟨emptySecret, secret⟩
        redirectUris := by simpa using redirectUris
        uris := uris
        scopes := by simpa using scopes
        grants := by simpa using grants }
  · rintro ⟨clientId, name, method, secret, redirectUris, uris, scopes, grants⟩
    have both := (@secret_ok within client).2 secret
    exact ⟨by simpa using clientId, by simpa using name, method, both.1, both.2,
      by simpa using redirectUris, uris, by simpa using scopes, by simpa using grants⟩

theorem user_ok {clientIds : List String} {user : SeedUser} :
    ((do
      nonempty "users[].username" user.username
      nonempty ("user " ++ within.repr user.username ++ " password") user.password : Checked Unit) =
        .ok () ∧ checkUser within clientIds user = .ok ()) ↔ AcceptedUser clientIds user := by
  unfold nonempty checkUser
  simp only [check_then, refuse_if_ok, check_each_ok]
  have long : ((user.email.map fun email => decide (email.length < 3)).getD false) = false ↔
      ∀ email, user.email = some email → 3 ≤ email.length := by
    cases user.email <;> simp
  rw [long]
  constructor
  · rintro ⟨⟨username, password⟩, email, approved⟩
    exact ⟨by simpa using username, by simpa using password, email, by simpa using approved⟩
  · rintro ⟨username, password, email, approved⟩
    exact ⟨⟨by simpa using username, by simpa using password⟩, email, by simpa using approved⟩

theorem each_then {α β : Type} {name : α → String} {duplicate : String → String}
    {before after : α → Checked Unit} {items : List α} {rest : List String → Checked β}
    {value : β} : (eachDistinct name duplicate before after [] items >>= rest) = .ok value ↔
      (∀ item ∈ items, before item = .ok () ∧ after item = .ok ()) ∧ (items.map name).Nodup ∧
        rest (items.map name).reverse = .ok value := by
  rw [Interaction.except_bind_eq_ok]
  constructor
  · rintro ⟨found, passed, later⟩
    obtain ⟨each, distinct, -, whole⟩ := each_distinct_ok.1 passed
    rw [List.append_nil] at whole
    exact ⟨each, distinct, whole ▸ later⟩
  · rintro ⟨each, distinct, later⟩
    exact ⟨_, each_distinct_ok.2 ⟨each, distinct, fun _ _ => List.not_mem_nil,
      (List.append_nil _).symm⟩, later⟩

theorem accepted_user_reverse {clientIds : List String} {user : SeedUser} :
    AcceptedUser clientIds.reverse user ↔ AcceptedUser clientIds user := by
  constructor
  · rintro ⟨username, password, email, approved⟩
    exact ⟨username, password, email, by simpa using approved⟩
  · rintro ⟨username, password, email, approved⟩
    exact ⟨username, password, email, by simpa using approved⟩

/-- The loops and their sets decide the condition. -/
theorem validate_seed_ok {seed : Seed} : validateSeed within seed = .ok () ↔ Accepted seed := by
  unfold validateSeed
  rw [check_then, check_then, check_then, each_then, each_then, each_then, issuer_ok,
    refuse_if_ok, refuse_if_ok]
  simp only [key_ok, client_ok, user_ok, accepted_user_reverse, List.isEmpty_eq_false_iff]
  constructor
  · rintro ⟨issuer, someClient, someUser, keys, kids, clients, clientIds, users, usernames, -⟩
    exact ⟨issuer, someClient, someUser, keys, kids, clients, clientIds, users, usernames⟩
  · rintro ⟨issuer, someClient, someUser, keys, kids, clients, clientIds, users, usernames⟩
    exact ⟨issuer, someClient, someUser, keys, kids, clients, clientIds, users, usernames, rfl⟩

end Deciding


/-! ### The document of a seed -/

def texts (values : List String) : Json := .arr (values.map .str)

def keyDocument (key : SeedSigningKey) : List (String × Json) :=
  [("kid", .str key.kid), ("alg", .str key.alg), ("use", .str key.use)]

def clientDocument (client : SeedClient) : List (String × Json) :=
  [("client_id", .str client.clientId), ("redirect_uris", texts client.redirectUris)] ++
    Models.optionalMember "name" (client.name.map .str) ++
    Models.optionalMember "client_secret" (client.clientSecret.map .str) ++
    Models.optionalMember "token_endpoint_auth_method"
      (client.tokenEndpointAuthMethod.map .str) ++
    Models.optionalMember "public" (client.isPublicField.map .bool) ++
    Models.optionalMember "scopes" (client.scopes.map texts) ++
    Models.optionalMember "grant_types" (client.grantTypes.map texts)

def userDocument (user : SeedUser) : List (String × Json) :=
  [("username", .str user.username), ("password", .str user.password)] ++
    Models.optionalMember "email" (user.email.map .str) ++
    Models.optionalMember "scopes" (user.scopes.map texts) ++
    Models.optionalMember "auto_approve_clients" (user.autoApproveClients.map texts)

/-- A seed as a JSON object with the schema's members. -/
def seedDocument (seed : Seed) : List (String × Json) :=
  [("issuer", .str seed.issuer),
    ("signingKeys", .arr (seed.signingKeys.map fun key => .obj (keyDocument key))),
    ("clients", .arr (seed.clients.map fun client => .obj (clientDocument client))),
    ("users", .arr (seed.users.map fun user => .obj (userDocument user)))]

/-- The seed file that `json.dumps` writes. -/
def seedText (style : DumpStyle) (seed : Seed) : String := dumps style (.obj (seedDocument seed))

/-! ### Reading its members -/

theorem doc_items_map (items : List Json) : docItems items = items.map Doc.ofJson := by
  induction items with
  | nil => rfl
  | cons item rest induction => rw [docItems, induction, List.map_cons]

theorem lookup_doc (members : List (String × Json)) (key : String) :
    (docMembers members).lookup (.text key) = (members.lookup key).map Doc.ofJson := by
  induction members with
  | nil => rfl
  | cons member rest induction =>
      obtain ⟨name, value⟩ := member
      have same : (Key.text key == Key.text name) = (key == name) := by
        rw [Bool.eq_iff_iff]
        simp
      rw [docMembers, List.lookup_cons, List.lookup_cons, same, induction]
      cases key == name <;> rfl

theorem field_doc (members : List (String × Json)) (key : String) :
    field (docMembers members) key = ((members.lookup key).map Doc.ofJson).getD .null := by
  rw [field, lookup_doc]

theorem lookup_optional (key name : String) (value : Option Json) :
    (Models.optionalMember name value).lookup key = if key == name then value else none := by
  cases value with
  | none => simp [Models.optionalMember]
  | some value =>
      rw [Models.optionalMember, List.lookup_cons]
      cases key == name <;> rfl

theorem keys_optional (name : String) (value : Option Json) :
    (keys (Models.optionalMember name value)).Sublist [name] := by
  cases value with
  | none => exact List.nil_sublist _
  | some value => exact List.Sublist.refl _

section Reading

variable {members : List (String × Json)} {key place : String}

theorem string_read {value : Option String} (found : members.lookup key = value.map .str) :
    string (docMembers members) key place = .ok value := by
  rw [string, field_doc, found]
  cases value <;> rfl

theorem texts_doc (values : List String) : Doc.ofJson (texts values) = .list (values.map .text) := by
  rw [texts, Doc.ofJson, doc_items_map, List.map_map]
  rfl

theorem map_m_text (values : List String) :
    (values.map Doc.text).mapM Doc.text? = some values := by
  induction values with
  | nil => rfl
  | cons value rest induction => simp [Doc.text?, induction]

theorem string_list_read {values : Option (List String)}
    (found : members.lookup key = values.map texts) :
    stringList (docMembers members) key place = .ok values := by
  rw [stringList, field_doc, found]
  cases values with
  | none => rfl
  | some values =>
      simp only [Option.map_some, Option.getD_some, texts_doc, map_m_text]

theorem boolean_read {value : Option Bool} (found : members.lookup key = value.map .bool) :
    boolean (docMembers members) key place = .ok value := by
  rw [boolean, field_doc, found]
  cases value <;> rfl

theorem require_keys_ok {within : Surroundings} {names : List String}
    (present : ∀ name ∈ names, (members.lookup name).isSome = true) :
    requireKeys within (docMembers members) place names = .ok () := by
  induction names with
  | nil => rfl
  | cons name rest induction =>
      rw [List.forall_mem_cons] at present
      rw [requireKeys, check_then, refuse_if_ok, lookup_doc, Option.isNone_map]
      exact ⟨by simpa using present.1, induction present.2⟩

theorem allowed_doc {allowed : List String} (known : ∀ name ∈ keys members, name ∈ allowed) :
    (docMembers members).filter (fun member => !member.1.allowed allowed) = [] := by
  induction members with
  | nil => rfl
  | cons member rest induction =>
      obtain ⟨name, value⟩ := member
      have fold : keys ((name, value) :: rest) = name :: keys rest := rfl
      rw [fold, List.forall_mem_cons] at known
      have first : (Key.text name).allowed allowed = true := by simpa [Key.allowed] using known.1
      rw [docMembers, List.filter_cons, first, induction known.2]
      rfl

theorem check_keys_ok {within : Surroundings} {allowed required : List String}
    (known : ∀ name ∈ keys members, name ∈ allowed)
    (present : ∀ name ∈ required, (members.lookup name).isSome = true) :
    checkKeys within (docMembers members) allowed required place = .ok () := by
  unfold checkKeys
  rw [check_then, allowed_doc known]
  refine ⟨rfl, require_keys_ok ?_⟩
  intro name member
  exact present name (List.mem_mergeSort.1 member)

end Reading

theorem map_m_each {α β γ : Type} {build : β → Checked γ} {document : α → β} {result : α → γ}
    {items : List α} (each : ∀ item ∈ items, build (document item) = .ok (result item)) :
    (items.map document).mapM build = .ok (items.map result) := by
  induction items with
  | nil => rfl
  | cons item rest induction =>
      rw [List.forall_mem_cons] at each
      rw [List.map_cons, List.mapM_cons, each.1, induction each.2]
      rfl

section Building

variable {within : Surroundings}

theorem or_else_empty (value : String) : orElse (some value) "" = value := by
  by_cases empty : value = "" <;> simp [orElse, Option.filter_some, empty]

theorem or_else_named {value : String} (named : value ≠ "") (default : String) :
    orElse (some value) default = value := by
  simp [orElse, Option.filter_some, named]

theorem key_built {key : SeedSigningKey} (named : key.use ≠ "") :
    buildSigningKey within (docMembers (keyDocument key)) = .ok key := by
  have known : ∀ name ∈ keys (keyDocument key), name ∈ ["kid", "alg", "use"] := by
    simp [keys, keyDocument]
  have present : ∀ name ∈ ["kid", "alg"], ((keyDocument key).lookup name).isSome = true := by
    simp [keyDocument, List.lookup_cons]
  have kid : (keyDocument key).lookup "kid" = (some key.kid).map .str := rfl
  have alg : (keyDocument key).lookup "alg" = (some key.alg).map .str := rfl
  have use : (keyDocument key).lookup "use" = (some key.use).map .str := rfl
  unfold buildSigningKey
  dsimp only
  rw [check_keys_ok known present, string_read kid, string_read alg, string_read use]
  simp only [Interaction.except_ok_bind, or_else_empty, or_else_named named]
  rfl

/-- The keys of a client, all those of the schema or fewer. -/
theorem client_keys (client : SeedClient) : (keys (clientDocument client)).Sublist
    ["client_id", "redirect_uris", "name", "client_secret", "token_endpoint_auth_method",
      "public", "scopes", "grant_types"] := by
  have append : ∀ first second : List (String × Json),
      keys (first ++ second) = keys first ++ keys second := fun _ _ => List.map_append
  unfold clientDocument
  simp only [append]
  have fixed : (keys [("client_id", Json.str client.clientId),
      ("redirect_uris", texts client.redirectUris)]).Sublist ["client_id", "redirect_uris"] :=
    List.Sublist.refl _
  exact (((((fixed.append (keys_optional _ _)).append (keys_optional _ _)).append
    (keys_optional _ _)).append (keys_optional _ _)).append (keys_optional _ _)).append
    (keys_optional _ _)

theorem client_built (client : SeedClient) :
    buildClient within (docMembers (clientDocument client)) = .ok client := by
  obtain ⟨clientId, redirectUris, name, secret, method, publicly, scopes, grants⟩ :
      (clientDocument client).lookup "client_id" = (some client.clientId).map .str ∧
      (clientDocument client).lookup "redirect_uris" = (some client.redirectUris).map texts ∧
      (clientDocument client).lookup "name" = client.name.map .str ∧
      (clientDocument client).lookup "client_secret" = client.clientSecret.map .str ∧
      (clientDocument client).lookup "token_endpoint_auth_method" =
        client.tokenEndpointAuthMethod.map .str ∧
      (clientDocument client).lookup "public" = client.isPublicField.map .bool ∧
      (clientDocument client).lookup "scopes" = client.scopes.map texts ∧
      (clientDocument client).lookup "grant_types" = client.grantTypes.map texts := by
    unfold clientDocument
    simp [List.lookup_cons, List.lookup_append, lookup_optional]
  have present : ∀ required ∈ ["client_id", "redirect_uris"],
      ((clientDocument client).lookup required).isSome = true := by
    rw [List.forall_mem_cons, List.forall_mem_singleton, clientId, redirectUris]
    exact ⟨rfl, rfl⟩
  have known : ∀ key ∈ keys (clientDocument client), key ∈ ["client_id", "name", "client_secret",
      "token_endpoint_auth_method", "public", "redirect_uris", "scopes", "grant_types"] := by
    intro key member
    have listed := (client_keys client).mem member
    simp only [List.mem_cons, List.not_mem_nil, or_false] at listed ⊢
    tauto
  unfold buildClient
  dsimp only
  rw [check_keys_ok known present, boolean_read publicly, string_read clientId,
    string_list_read redirectUris, string_read name, string_read secret, string_read method,
    string_list_read scopes, string_list_read grants]
  simp only [Interaction.except_ok_bind, or_else_empty]
  rfl

theorem user_keys (user : SeedUser) : (keys (userDocument user)).Sublist
    ["username", "password", "email", "scopes", "auto_approve_clients"] := by
  have append : ∀ first second : List (String × Json),
      keys (first ++ second) = keys first ++ keys second := fun _ _ => List.map_append
  unfold userDocument
  simp only [append]
  have fixed : (keys [("username", Json.str user.username),
      ("password", Json.str user.password)]).Sublist ["username", "password"] :=
    List.Sublist.refl _
  exact ((fixed.append (keys_optional _ _)).append (keys_optional _ _)).append (keys_optional _ _)

theorem user_built (user : SeedUser) :
    buildUser within (docMembers (userDocument user)) = .ok user := by
  obtain ⟨username, password, email, scopes, approved⟩ :
      (userDocument user).lookup "username" = (some user.username).map .str ∧
      (userDocument user).lookup "password" = (some user.password).map .str ∧
      (userDocument user).lookup "email" = user.email.map .str ∧
      (userDocument user).lookup "scopes" = user.scopes.map texts ∧
      (userDocument user).lookup "auto_approve_clients" = user.autoApproveClients.map texts := by
    unfold userDocument
    simp [List.lookup_cons, List.lookup_append, lookup_optional]
  have present : ∀ required ∈ ["username", "password"],
      ((userDocument user).lookup required).isSome = true := by
    rw [List.forall_mem_cons, List.forall_mem_singleton, username, password]
    exact ⟨rfl, rfl⟩
  unfold buildUser
  dsimp only
  rw [check_keys_ok (fun _ member => (user_keys user).mem member) present, string_read username,
    string_read password, string_read email, string_list_read scopes, string_list_read approved]
  simp only [Interaction.except_ok_bind, or_else_empty]
  rfl

/-- A list of objects is read item by item. -/
theorem mappings_read {α : Type} {members : List (String × Json)} {key : String}
    {document : α → List (String × Json)} {items : List α}
    (found : members.lookup key = some (.arr (items.map fun item => .obj (document item)))) :
    listOfMappings (docMembers members) key =
      .ok (items.map fun item => docMembers (document item)) := by
  rw [listOfMappings, field_doc, found]
  simp only [Option.map_some, Option.getD_some, Doc.ofJson, doc_items_map, List.map_map]
  exact map_m_each fun item _ => rfl

theorem seed_built {seed : Seed} (named : ∀ key ∈ seed.signingKeys, key.use ≠ "") :
    buildSeed within (docMembers (seedDocument seed)) = .ok seed := by
  have issuer : (seedDocument seed).lookup "issuer" = (some seed.issuer).map .str := rfl
  have signingKeys := @mappings_read _ (seedDocument seed) "signingKeys" keyDocument
    seed.signingKeys rfl
  have clients := @mappings_read _ (seedDocument seed) "clients" clientDocument seed.clients rfl
  have users := @mappings_read _ (seedDocument seed) "users" userDocument seed.users rfl
  have known : ∀ name ∈ keys (seedDocument seed),
      name ∈ ["issuer", "signingKeys", "clients", "users"] := by
    simp [keys, seedDocument]
  have present : ∀ name ∈ ["issuer", "clients", "users"],
      ((seedDocument seed).lookup name).isSome = true := by
    simp [seedDocument, List.lookup_cons]
  have listed : (field (docMembers (seedDocument seed)) "signingKeys").isNull = false := by
    rw [field_doc]
    rfl
  have keysBuilt := @map_m_each _ _ _ (buildSigningKey within)
    (fun key => docMembers (keyDocument key)) id seed.signingKeys
    fun key member => key_built (named key member)
  have clientsBuilt := @map_m_each _ _ _ (buildClient within)
    (fun client => docMembers (clientDocument client)) id seed.clients
    fun client _ => client_built client
  have usersBuilt := @map_m_each _ _ _ (buildUser within)
    (fun user => docMembers (userDocument user)) id seed.users fun user _ => user_built user
  unfold buildSeed
  rw [check_keys_ok known present, string_read issuer, listed, signingKeys, clients, users]
  simp only [Interaction.except_ok_bind, assertSome, Bool.false_eq_true, if_false, keysBuilt,
    clientsBuilt, usersBuilt, List.map_id]
  rfl

end Building

/-! ### The document is legible -/

section Legibility

variable {style : DumpStyle} {depth : Nat}

theorem members_legible_append (first second : List (String × Json)) :
    MembersLegible style depth (first ++ second) ↔
      MembersLegible style depth first ∧ MembersLegible style depth second := by
  induction first with
  | nil => simp [MembersLegible]
  | cons member rest induction => simp [MembersLegible, induction, and_assoc]

theorem optional_legible {name : String} {value : Option Json}
    (legible : ∀ found, value = some found → Legible style depth found) :
    MembersLegible style depth (Models.optionalMember name value) := by
  cases value with
  | none => simp [Models.optionalMember, MembersLegible]
  | some found => simpa [Models.optionalMember, MembersLegible] using legible found rfl

theorem str_legible (value : String) : Legible style depth (.str value) := by
  rw [Legible]
  trivial

theorem all_legible {items : List Json} (each : ∀ item ∈ items, Legible style depth item) :
    AllLegible style depth items := by
  induction items with
  | nil => trivial
  | cons item rest induction =>
      rw [List.forall_mem_cons] at each
      exact ⟨each.1, induction each.2⟩

theorem texts_legible (values : List String) : Legible style (depth + 1) (texts values) := by
  rw [texts, Legible]
  apply all_legible
  intro item member
  obtain ⟨value, -, rfl⟩ := List.mem_map.1 member
  exact str_legible value

/-- An optional member written by `write`. -/
theorem written_legible {α : Type} {name : String} {value : Option α} {write : α → Json}
    (legible : ∀ value, Legible style depth (write value)) :
    MembersLegible style depth (Models.optionalMember name (value.map write)) := by
  apply optional_legible
  intro found same
  obtain ⟨value, -, rfl⟩ := Option.map_eq_some_iff.1 same
  exact legible value

theorem key_legible (key : SeedSigningKey) : Legible style (depth + 1) (.obj (keyDocument key)) := by
  have distinct : (keys (keyDocument key)).Nodup := by
    have same : keys (keyDocument key) = ["kid", "alg", "use"] := rfl
    rw [same]
    decide
  rw [Legible]
  exact ⟨distinct, str_legible _, str_legible _, str_legible _, trivial⟩

theorem client_legible (client : SeedClient) :
    Legible style (depth + 2) (.obj (clientDocument client)) := by
  rw [Legible]
  constructor
  · exact List.Nodup.sublist (client_keys client) (by decide)
  · simp only [clientDocument, members_legible_append]
    have bool : ∀ value, Legible style (depth + 1) (.bool value) := fun value => by
      rw [Legible]
      trivial
    exact ⟨⟨⟨⟨⟨⟨⟨str_legible _, texts_legible _, trivial⟩, written_legible str_legible⟩,
      written_legible str_legible⟩, written_legible str_legible⟩, written_legible bool⟩,
      written_legible texts_legible⟩, written_legible texts_legible⟩

theorem user_legible (user : SeedUser) :
    Legible style (depth + 2) (.obj (userDocument user)) := by
  rw [Legible]
  constructor
  · exact List.Nodup.sublist (user_keys user) (by decide)
  · simp only [userDocument, members_legible_append]
    exact ⟨⟨⟨⟨str_legible _, str_legible _, trivial⟩, written_legible str_legible⟩,
      written_legible texts_legible⟩, written_legible texts_legible⟩

theorem seed_legible (seed : Seed) : Legible style (depth + 4) (.obj (seedDocument seed)) := by
  have list : ∀ {α : Type} (items : List α) (document : α → List (String × Json)),
      (∀ item, Legible style (depth + 2) (.obj (document item))) →
      Legible style (depth + 3) (.arr (items.map fun item => .obj (document item))) := by
    intro α items document each
    rw [Legible]
    apply all_legible
    intro item member
    obtain ⟨origin, -, rfl⟩ := List.mem_map.1 member
    exact each origin
  have distinct : (keys (seedDocument seed)).Nodup := by
    have same : keys (seedDocument seed) = ["issuer", "signingKeys", "clients", "users"] := rfl
    rw [same]
    decide
  rw [Legible]
  exact ⟨distinct, str_legible _, list _ _ key_legible, list _ _ client_legible,
    list _ _ user_legible, trivial⟩

theorem strip_braces (inner : List Char) :
    Text.strip (String.ofList ('\x7b' :: (inner ++ ['\x7d']))) ≠ "" := by
  have front : ('\x7b' :: (inner ++ ['\x7d'])).dropWhile Text.isSpace =
      '\x7b' :: (inner ++ ['\x7d']) := List.dropWhile_cons_of_neg (by decide)
  have turned : ('\x7b' :: (inner ++ ['\x7d'])).reverse = '\x7d' :: (inner.reverse ++ ['\x7b']) := by
    simp
  have back : ('\x7d' :: (inner.reverse ++ ['\x7b'])).dropWhile Text.isSpace =
      '\x7d' :: (inner.reverse ++ ['\x7b']) := List.dropWhile_cons_of_neg (by decide)
  intro empty
  have letters := congrArg String.toList empty
  rw [Text.strip, String.toList_ofList, String.toList_ofList, front, turned, back] at letters
  simp at letters

/-- A written seed is not blank. -/
theorem seed_text_strip (unsorted : style.sortKeys = false) (seed : Seed) :
    Text.strip (seedText style seed) ≠ "" := by
  have whole := written_object unsorted (seedDocument seed)
  have same : seedText style seed = String.ofList (written style (.obj (seedDocument seed))) := by
    rw [written, String.ofList_toList]
    rfl
  rw [same, whole]
  exact strip_braces _

end Legibility

/-! ### Loading -/

section Loading

variable {within : Surroundings} {text : String} {seed : Seed}

/-- Whatever the document, what it is parsed into is accepted. -/
theorem parse_accepted (parsed : parse within text = .ok seed) : Accepted seed := by
  unfold parse at parsed
  obtain ⟨document, -, parsed⟩ := Interaction.except_bind_eq_ok.1 parsed
  obtain ⟨members, -, parsed⟩ := Interaction.except_bind_eq_ok.1 parsed
  obtain ⟨built, -, parsed⟩ := Interaction.except_bind_eq_ok.1 parsed
  obtain ⟨valid, same⟩ := check_then.1 parsed
  cases same
  exact validate_seed_ok.1 valid

/-- An accepted seed is what its own document is parsed into. -/
theorem parse_seed_text {style : DumpStyle} (plain : Plain style)
    (deep : 4 ≤ within.recursionLimit) (accepted : Accepted seed) :
    parse within (seedText style seed) = .ok seed := by
  obtain ⟨depth, deep⟩ := Nat.exists_eq_add_of_le' deep
  have named : ∀ key ∈ seed.signingKeys, key.use ≠ "" := by
    intro key member
    rw [(accepted.keys key member).use]
    decide
  have read : strictLoads within.recursionLimit (seedText style seed) =
      .ok (.obj (seedDocument seed)) := by
    rw [deep]
    exact strict_loads_dumps plain (seed_legible seed)
  have loaded : loadDocument within (seedText style seed) =
      .ok (.mapping (docMembers (seedDocument seed))) := by
    have written : (Text.strip (seedText style seed) == "") = false := by
      simpa using seed_text_strip plain.unsorted seed
    unfold loadDocument
    rw [written, read]
    rfl
  unfold parse
  rw [loaded]
  simp only [Interaction.except_ok_bind, topLevel, seed_built named,
    validate_seed_ok.2 accepted]
  rfl

/-- A JSON document that repeats a key is not parsed, nor tried as YAML. -/
theorem parse_repeated {document : Json}
    (kept : keptLoads within.recursionLimit text = .ok document) (repeats : ¬Distinct document) :
    parse within text ≠ .ok seed := by
  obtain ⟨key, named⟩ := strict_loads_repeated kept repeats
  intro parsed
  unfold parse at parsed
  obtain ⟨found, loaded, -⟩ := Interaction.except_bind_eq_ok.1 parsed
  unfold loadDocument at loaded
  split at loaded
  · cases loaded
  · rw [named] at loaded
    cases loaded

/-- A seed can be loaded exactly if it is accepted, and then its own document
is parsed into it. No JSON document that has a key twice in any of its objects is
parsed. -/
theorem seed_documents {style : DumpStyle} (plain : Plain style)
    (deep : 4 ≤ within.recursionLimit) (seed : Seed) :
    ((∃ text, parse within text = .ok seed) ↔ Accepted seed) ∧
      (Accepted seed → parse within (seedText style seed) = .ok seed) ∧
      ∀ text document, keptLoads within.recursionLimit text = .ok document →
        ¬Distinct document → parse within text ≠ .ok seed := by
  refine ⟨⟨?_, ?_⟩, parse_seed_text plain deep, fun _ _ => parse_repeated⟩
  · rintro ⟨text, parsed⟩
    exact parse_accepted parsed
  · exact fun accepted => ⟨_, parse_seed_text plain deep accepted⟩

/-- An interpreter without YAML, for seeds in JSON. -/
def sampleSurroundings : Surroundings where
  repr text := "'" ++ text ++ "'"
  lower := Text.lower
  recursionLimit := 1000
  yamlLoad _ := .error (.yaml "not a mapping")
  makeUrl url := if url == "sqlite+aiosqlite://" then some ("sqlite", none) else none
  readText _ := .error (.os "no such file")

def sampleSeed : Seed where
  issuer := "http://localhost:8080"
  clients :=
    [{ clientId := "spa", redirectUris := ["com.example.app:/cb"], isPublicField := some true },
      { clientId := "web"
        redirectUris := ["https://web.example/cb", "http://127.0.0.1/cb"]
        clientSecret := some "secret"
        scopes := some ["openid", "profile"]
        grantTypes := some ["authorization_code", "refresh_token"] }]
  users := [{ username := "alice", password := "pass", autoApproveClients := some ["web"] }]
  signingKeys := [{ kid := "first", alg := "RS256" }, { kid := "second", alg := "RS256" }]

def sampleStyle : DumpStyle where
  itemSeparator := ","
  keySeparator := ":"
  floatRepr _ := ""

theorem sample_style_plain : Plain sampleStyle where
  items := ⟨[], by decide, by decide⟩
  keys := ⟨[], by decide, by decide⟩
  unsorted := rfl

theorem sample_seed_accepted : Accepted sampleSeed := by
  have valid : validateSeed sampleSurroundings sampleSeed = .ok () := by decide +kernel
  exact validate_seed_ok.1 valid

/-- A document whose one client has its id twice. -/
def repeatedText : String :=
  "\x7b\"clients\": [\x7b\"client_id\": \"a\", \"client_id\": \"b\"\x7d]\x7d"

theorem sample_seed_documents : Accepted sampleSeed ∧
    parse sampleSurroundings (seedText sampleStyle sampleSeed) = .ok sampleSeed ∧
    parse sampleSurroundings repeatedText ≠ .ok sampleSeed := by
  have deep : 4 ≤ sampleSurroundings.recursionLimit := by decide
  obtain ⟨-, own, others⟩ := seed_documents sample_style_plain deep sampleSeed
  have read : ((keptLoads sampleSurroundings.recursionLimit repeatedText).toOption.map fun
      document => decide (Distinct document)) = some false := by
    decide +kernel
  cases kept : keptLoads sampleSurroundings.recursionLimit repeatedText with
  | error error =>
      rw [kept] at read
      cases read
  | ok document =>
      rw [kept] at read
      have repeats : ¬Distinct document := of_decide_eq_false (Option.some.inj read)
      exact ⟨sample_seed_accepted, own sample_seed_accepted,
        others repeatedText document kept repeats⟩

/-! ### Startup -/

/-- The mode switch is set, and it points at a file. -/
structure SwitchedOn (within : Surroundings) (env : Environment) (path : String) : Prop where
  mode : within.lower (Text.strip ((env modeEnv).getD "")) = "1" ∨
    within.lower (Text.strip ((env modeEnv).getD "")) = "true"
  seed : Text.strip ((env seedEnv).getD "") = path
  pointed : path ≠ ""

def SwitchedOff (within : Surroundings) (env : Environment) : Prop :=
  within.lower (Text.strip ((env modeEnv).getD "")) ∈ ["", "0", "false"]

/-- No profile variable names an environment outside the list, the database is
in memory, and there is no signing key of one's own. -/
structure NotProduction (within : Surroundings) (env : Environment) (config : Profile) : Prop where
  profile : ∀ var ∈ profileEnvVars, ∀ value, env var = some value →
    within.lower (Text.strip value) = "" ∨
      within.lower (Text.strip value) ∈ nonProductionEnvNames
  memory : ∃ database, within.makeUrl config.databaseUrl = some ("sqlite", database) ∧
    (database = none ∨ database = some "" ∨ database = some ":memory:")
  keyless : config.idTokenPrivateKeyPem = none ∨ config.idTokenPrivateKeyPem = some ""

theorem mode_on {env : Environment} {path : String} :
    modeFromEnv within env = .ok (some path) ↔ SwitchedOn within env path := by
  unfold modeFromEnv
  dsimp only
  generalize chosen : within.lower (Text.strip ((env modeEnv).getD "")) = mode
  generalize located : Text.strip ((env seedEnv).getD "") = place
  constructor
  · intro passed
    split at passed
    · cases passed
    · split at passed
      · cases passed
      · split at passed
        · cases passed
        · rename_i known pointed
          cases passed
          rw [Bool.not_eq_true, Bool.not_eq_false', List.contains_iff_mem, List.mem_cons,
            List.mem_singleton, ← chosen] at known
          exact ⟨known, located, by simpa using pointed⟩
  · rintro ⟨known, found, pointed⟩
    rw [chosen] at known
    rw [located] at found
    subst found
    rcases known with rfl | rfl
    all_goals simp [pointed]

theorem mode_off {env : Environment} :
    modeFromEnv within env = .ok none ↔ SwitchedOff within env := by
  unfold modeFromEnv SwitchedOff
  dsimp only
  rw [List.contains_eq_mem]
  constructor
  · intro passed
    split at passed
    · rename_i off
      simpa using off
    · split at passed
      · cases passed
      · split at passed <;> cases passed
  · intro off
    rw [if_pos (by simpa using off)]

theorem profile_var_ok {env : Environment} {var : String} :
    checkProfileVar within env var = .ok () ↔ ∀ value, env var = some value →
      within.lower (Text.strip value) = "" ∨
        within.lower (Text.strip value) ∈ nonProductionEnvNames := by
  unfold checkProfileVar
  cases env var with
  | none => simp
  | some value =>
      simp only [refuse_if_ok, Option.some.injEq, forall_eq']
      rw [Bool.and_eq_false_iff, bne_eq_false_iff_eq, Bool.not_eq_false', List.contains_iff_mem]

theorem not_production_ok {env : Environment} {config : Profile} :
    checkNotProduction within env config = .ok () ↔ NotProduction within env config := by
  have memory : (!isInMemorySqlite within config.databaseUrl) = false ↔
      ∃ database, within.makeUrl config.databaseUrl = some ("sqlite", database) ∧
        (database = none ∨ database = some "" ∨ database = some ":memory:") := by
    unfold isInMemorySqlite
    cases within.makeUrl config.databaseUrl with
    | none => simp
    | some parsed =>
        obtain ⟨backend, database⟩ := parsed
        rw [Bool.not_eq_false', Bool.and_eq_true, beq_iff_eq, List.contains_iff_mem]
        simp only [List.mem_cons, List.not_mem_nil, or_false, Option.some.injEq, Prod.mk.injEq]
        constructor
        · rintro ⟨rfl, listed⟩
          exact ⟨database, ⟨rfl, rfl⟩, listed⟩
        · rintro ⟨_, ⟨rfl, rfl⟩, listed⟩
          exact ⟨rfl, listed⟩
  have keyless : Text.truthy config.idTokenPrivateKeyPem = false ↔
      config.idTokenPrivateKeyPem = none ∨ config.idTokenPrivateKeyPem = some "" := by
    cases config.idTokenPrivateKeyPem <;> simp [Text.truthy]
  unfold checkNotProduction
  simp only [check_then, check_each_ok, profile_var_ok, refuse_if_ok, memory, keyless]
  constructor
  · rintro ⟨profile, memory, keyless⟩
    exact ⟨profile, memory, keyless⟩
  · rintro ⟨profile, memory, keyless⟩
    exact ⟨profile, memory, keyless⟩

theorem load_ok {path : String} : load within path = .ok seed ↔
    ∃ text, within.readText path = .ok text ∧ parse within text = .ok seed := by
  unfold load
  cases within.readText path with
  | error error => cases error <;> simp [refuse]
  | ok text =>
      cases outcome : parse within text with
      | error failure => cases failure <;> simp [refuse, outcome]
      | ok found => simp [outcome]

/-- Startup goes on without a seed exactly when the switch is off, and with one
exactly when the switch is on, nothing looks like production and the file is
parsed. In every other case it is aborted. -/
theorem seed_from_env_ok (env : Environment) (config : Profile) (outcome : Option Seed) :
    seedFromEnv within env config = .ok outcome ↔
      (outcome = none ∧ SwitchedOff within env) ∨
      ∃ seed path text, outcome = some seed ∧ SwitchedOn within env path ∧
        NotProduction within env config ∧ within.readText path = .ok text ∧
        parse within text = .ok seed := by
  unfold seedFromEnv
  rw [Interaction.except_bind_eq_ok]
  constructor
  · rintro ⟨mode, chosen, passed⟩
    cases mode with
    | none =>
        cases passed
        exact .inl ⟨rfl, mode_off.1 chosen⟩
    | some path =>
        obtain ⟨guarded, passed⟩ := check_then.1 passed
        obtain ⟨seed, loaded, passed⟩ := Interaction.except_bind_eq_ok.1 passed
        cases passed
        obtain ⟨text, read, parsed⟩ := load_ok.1 loaded
        exact .inr ⟨seed, path, text, rfl, mode_on.1 chosen, not_production_ok.1 guarded, read,
          parsed⟩
  · rintro (⟨rfl, off⟩ | ⟨seed, path, text, rfl, switched, guarded, read, parsed⟩)
    · exact ⟨none, mode_off.2 off, rfl⟩
    · exists some path, mode_on.2 switched
      apply check_then.2
      exact ⟨not_production_ok.2 guarded,
        Interaction.except_bind_eq_ok.2 ⟨seed, load_ok.2 ⟨text, read, parsed⟩, rfl⟩⟩

end Loading

end OAuth2Server.SeedAcceptance
