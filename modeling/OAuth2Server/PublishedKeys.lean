import Mathlib.Data.Nat.Digits.Lemmas
import Mathlib.Data.Nat.Size
import OAuth2Server.Base64Url
import OAuth2Server.CurrentSigners
import OAuth2Server.Endpoints

/-!
# The published keys

`/.well-known/jwks.json`. Whoever reads the document gets the public numbers of
the active RS256 keys, in order, and nothing else; so a token signed with RS256
can be checked against the document for as long as its key is active.
-/

namespace OAuth2Server.PublishedKeys

open OAuth2Server Models JsonText Effects Interaction Interaction.Program
open ClientAuth Issuance KeySet Endpoints KeyRotation CurrentSigners Base64Url

set_option autoImplicit false

/-! ### Numbers as bytes -/

/-- `value.to_bytes(length, "big")`; `none` is an `OverflowError`. -/
def toBytes (value length : Nat) : Option (List Nat) :=
  let digits := (Nat.digits 256 value).reverse
  if digits.length ≤ length then some (List.replicate (length - digits.length) 0 ++ digits) else none

/-- `int.from_bytes(bytes, "big")`. -/
def fromBytes (bytes : List Nat) : Nat := Nat.ofDigits 256 bytes.reverse

/-- The bytes that the bits of a number need; zero takes one. -/
def byteLength (value : Nat) : Nat := max ((value.size + 7) / 8) 1

theorem to_bytes_some {value length : Nat} (fits : value < 256 ^ length) :
    ∃ bytes, toBytes value length = some bytes ∧ Bytes bytes ∧ fromBytes bytes = value := by
  have short : (Nat.digits 256 value).length ≤ length :=
    (Nat.digits_length_le_iff (by decide) value).2 fits
  unfold toBytes
  dsimp only
  rw [if_pos (by rwa [List.length_reverse])]
  refine ⟨_, rfl, ?_, ?_⟩
  · intro byte member
    rcases List.mem_append.1 member with padded | digit
    · rw [List.eq_of_mem_replicate padded]
      decide
    · exact Nat.digits_lt_base (by decide) (List.mem_reverse.1 digit)
  · unfold fromBytes
    rw [List.reverse_append, List.reverse_reverse, List.reverse_replicate,
      Nat.ofDigits_append_replicate_zero, Nat.ofDigits_digits]

theorem byte_length_fits (value : Nat) : value < 256 ^ byteLength value := by
  have bits : value < 2 ^ value.size := Nat.lt_size_self value
  have enough : value.size ≤ 8 * byteLength value := by
    unfold byteLength
    omega
  calc value < 2 ^ value.size := bits
    _ ≤ 2 ^ (8 * byteLength value) := Nat.pow_le_pow_right (by decide) enough
    _ = 256 ^ byteLength value := by norm_num [pow_mul]

/-- `_uint_to_b64url`. -/
def uintToB64url (value : Nat) : Option String :=
  (toBytes value (byteLength value)).map fun bytes => String.ofList (Text.b64urlEncode bytes)

/-- A Base64urlUInt value, as its reader takes it. -/
def readUint (text : String) : Option Nat := (Text.b64urlDecode text).map fromBytes

theorem read_uint_written (value : Nat) :
    ∃ text, uintToB64url value = some text ∧ readUint text = some value := by
  obtain ⟨bytes, written, inRange, back⟩ := to_bytes_some (byte_length_fits value)
  refine ⟨String.ofList (Text.b64urlEncode bytes), ?_, ?_⟩
  · unfold uintToB64url
    rw [written]
    rfl
  · unfold readUint
    rw [decode_encode bytes inRange, Option.map_some, back]

/-! ### The document -/

/-- The numbers of an RSA public key. -/
structure PublicNumbers where
  n : Nat
  e : Nat
  deriving DecidableEq

/-- `rsa_public_key(material).public_numbers()`; `none` is an exception. -/
abbrev PublicKeys := List Nat → Option PublicNumbers

def rsaJwk (kid n e : String) : List (String × Json) :=
  [("kid", .str kid), ("kty", .str "RSA"), ("use", .str "sig"), ("alg", .str "RS256"),
    ("n", .str n), ("e", .str e)]

/-- `jwk_from_rs256_key`. -/
def jwkFromRs256Key (library : PublicKeys) (key : SigningKey) : Option (List (String × Json)) := do
  let numbers ← library key.keyMaterial
  let n ← uintToB64url numbers.n
  let e ← uintToB64url numbers.e
  pure (rsaJwk key.kid n e)

/-- The key published when the key set has none: that of the configuration. -/
def fallbackKey (config : Config) (pem : String) (now : Instant) : SigningKey where
  kid := (config.idTokenKid.filter (· != "")).getD ""
  algorithm := "RS256"
  keyMaterial := Text.utf8Encode pem.toList
  isCurrent := true
  createdAt := now
  expiresAt := none

/-- The JWK of the fallback; it has a `kid` only where one is configured. -/
def fallbackJwk (library : PublicKeys) (config : Config) (pem : String) (now : Instant) :
    Option (List (String × Json)) :=
  (jwkFromRs256Key library (fallbackKey config pem now)).map fun jwk =>
    if (config.idTokenKid.filter (· != "")).isSome then jwk
    else jwk.filter fun member => member.1 != "kid"

/-- The JWKs of the key set, or the fallback where it has none. -/
def withFallback (env : Env) (library : PublicKeys) (published : List (List (String × Json))) :
    Handler (List (List (String × Json))) :=
  match env.config.idTokenPrivateKeyPem.filter fun pem =>
      published.isEmpty && env.config.idTokenAlg == "RS256" && pem != "" with
  | none => pure published
  | some pem => do
      let now ← ambient .now
      match fallbackJwk library env.config pem now with
      | some jwk => pure [jwk]
      | none => throw internalServerError

def keysResponse (published : List (List (String × Json))) : Response :=
  { json 200 [("keys", .arr (published.map Json.obj))] with
    headers := [("Cache-Control", "public, max-age=3600")] }

/-- The answer that publishes these keys. -/
def publish (env : Env) (library : PublicKeys) (keys : List SigningKey) : Handler Response :=
  match keys.mapM (jwkFromRs256Key library) with
  | none => throw internalServerError
  | some published => do
      let document ← withFallback env library published
      pure (keysResponse document)

/-- `jwks`. -/
def jwks (env : Env) (library : PublicKeys) : Handler Response := do
  let keys ← ambient .keys
  let active ← activeKeys keys
  publish env library (active.filter (·.algorithm == "RS256"))

/-! ### Reading the document -/

/-- What a relying party takes from an entry. -/
def readJwk (jwk : List (String × Json)) : Option (String × PublicNumbers) := do
  let kid ← textMember jwk "kid"
  let n ← (textMember jwk "n").bind readUint
  let e ← (textMember jwk "e").bind readUint
  pure (kid, { n := n, e := e })

/-- An RSA signature key without any private member. -/
def Public (jwk : List (String × Json)) : Prop :=
  jwk.map Prod.fst = ["kid", "kty", "use", "alg", "n", "e"] ∧
    textMember jwk "kty" = some "RSA" ∧ textMember jwk "alg" = some "RS256"

theorem read_rsa_jwk {kid textN textE : String} {numbers : PublicNumbers}
    (readN : readUint textN = some numbers.n) (readE : readUint textE = some numbers.e) :
    readJwk (rsaJwk kid textN textE) = some (kid, numbers) := by
  have named : textMember (rsaJwk kid textN textE) "kid" = some kid := rfl
  have modulus : textMember (rsaJwk kid textN textE) "n" = some textN := rfl
  have exponent : textMember (rsaJwk kid textN textE) "e" = some textE := rfl
  unfold readJwk
  rw [named, modulus, exponent, Option.bind_some, Option.bind_some, readN, readE]
  rfl

theorem jwk_from_key {library : PublicKeys} {key : SigningKey} {numbers : PublicNumbers}
    (loaded : library key.keyMaterial = some numbers) :
    ∃ jwk, jwkFromRs256Key library key = some jwk ∧ Public jwk ∧
      readJwk jwk = some (key.kid, numbers) := by
  obtain ⟨n, writtenN, readN⟩ := read_uint_written numbers.n
  obtain ⟨e, writtenE, readE⟩ := read_uint_written numbers.e
  unfold jwkFromRs256Key
  rw [loaded, Option.bind_eq_bind, Option.bind_some, writtenN, Option.bind_eq_bind,
    Option.bind_some, writtenE]
  exact ⟨rsaJwk key.kid n e, rfl, ⟨rfl, rfl, rfl⟩, read_rsa_jwk readN readE⟩

/-- What the document of these keys is read as. -/
def readings (library : PublicKeys) (keys : List SigningKey) : List (Option (String × PublicNumbers)) :=
  keys.map fun key => (library key.keyMaterial).map fun numbers => (key.kid, numbers)

theorem published_keys_read (library : PublicKeys) (keys : List SigningKey) :
    ((∃ key ∈ keys, library key.keyMaterial = none) ∧
        keys.mapM (jwkFromRs256Key library) = none) ∨
      ∃ published, keys.mapM (jwkFromRs256Key library) = some published ∧
        (∀ jwk ∈ published, Public jwk) ∧ published.map readJwk = readings library keys ∧
        ∀ key ∈ keys, (library key.keyMaterial).isSome = true := by
  induction keys with
  | nil => exact Or.inr ⟨[], rfl, fun _ none => (nomatch none), rfl, fun _ none => (nomatch none)⟩
  | cons key rest induction =>
      rw [List.mapM_cons]
      cases loaded : library key.keyMaterial with
      | none =>
          left
          refine ⟨⟨key, List.mem_cons_self, loaded⟩, ?_⟩
          unfold jwkFromRs256Key
          rw [loaded]
          rfl
      | some numbers =>
          obtain ⟨jwk, built, isPublic, read⟩ := jwk_from_key loaded
          rw [built]
          rcases induction with ⟨⟨other, member, unloaded⟩, failed⟩ |
            ⟨published, all, others, same, loads⟩
          · left
            refine ⟨⟨other, List.mem_cons_of_mem _ member, unloaded⟩, ?_⟩
            rw [failed]
            rfl
          · right
            refine ⟨jwk :: published, ?_, ?_, ?_, ?_⟩
            · rw [all]
              rfl
            · intro each member
              rcases List.mem_cons.1 member with rfl | member
              · exact isPublic
              · exact others each member
            · unfold readings at same ⊢
              rw [List.map_cons, List.map_cons, read, same, loaded]
              rfl
            · intro other member
              rcases List.mem_cons.1 member with rfl | member
              · rw [loaded]
                rfl
              · exact loads other member

/-! ### The keys after a history -/

section Histories

variable {config : Config} {start : Instant} {history : List KeyChange}

/-- The RS256 signer after a history, if RS256 is in use. -/
theorem rsa_signer (config : Config) (start : Instant)
    (regular : ∀ change ∈ history, Regular change) :
    ∃ found, currentKeys "RS256" (keySetAfter config start history) = Option.toList found ∧
      (found.isSome = true ↔ UsesRsa config history) ∧
      Lasting (keySetAfter config start history) := by
  obtain ⟨rsa, seeded, configured⟩ := seeded_rsa config start
  obtain ⟨lasting, current⟩ := history_current regular (seeded_lasting config start) seeded
  refine ⟨_, current, ?_, lasting⟩
  rw [last_signer_some, configured]
  exact Iff.rfl

theorem mem_current {alg : String} {keys : List SigningKey} {key : SigningKey} :
    key ∈ currentKeys alg keys ↔ key ∈ keys ∧ key.algorithm = alg ∧ key.isCurrent = true := by
  simp [currentKeys]

theorem mem_active_for {alg : String} {time : Nat} {keys : List SigningKey} {key : SigningKey} :
    key ∈ activeFor alg time keys ↔
      key ∈ keys ∧ key.algorithm = alg ∧ activeAt time key = true := by
  simp [activeFor]

/-- A configured key is seeded, and a successor is active ever after. -/
theorem active_rsa_key (start : Instant) (time : Nat)
    (regular : ∀ change ∈ history, Regular change) (uses : UsesRsa config history) :
    ∃ key ∈ currentKeys "RS256" (keySetAfter config start history),
      currentAt "RS256" time (keySetAfter config start history) = some key ∧
      key ∈ activeFor "RS256" time (keySetAfter config start history) := by
  obtain ⟨found, current, used, lasting⟩ := rsa_signer config start regular
  have signs := used.2 uses
  cases which : currentAt "RS256" time (keySetAfter config start history) with
  | none =>
      obtain ⟨key, rfl⟩ := Option.isSome_iff_exists.1 signs
      have member : key ∈ currentKeys "RS256" (keySetAfter config start history) := by
        rw [current]
        exact List.mem_singleton_self key
      obtain ⟨held, algorithm, marked⟩ := mem_current.1 member
      have active := active_of_lasting (lasting key held marked) time
      have absent := List.find?_eq_none.1 which key held
      simp [algorithm, marked, active] at absent
  | some key =>
      have facts := List.find?_some which
      have held := List.mem_of_find?_eq_some which
      simp only [Bool.and_eq_true, beq_iff_eq] at facts
      obtain ⟨⟨algorithm, marked⟩, active⟩ := facts
      exact ⟨key, mem_current.2 ⟨held, algorithm, marked⟩, rfl,
        mem_active_for.2 ⟨held, algorithm, active⟩⟩

/-- The key is not rotated out, or its grace has not ended when the later
changes and the time are past. -/
def Trusted (time : Nat) : List KeyChange → Prop
  | [] => True
  | .rotate newKey graceSecs now :: rest =>
      if newKey.algorithm = "RS256" then
        time < now + seconds graceSecs ∧ ∀ change ∈ rest, changeTime change ≤ time
      else Trusted time rest
  | .prune _ :: rest => Trusted time rest

/-- Through any later changes a trusted key stays active under its name. -/
theorem trusted_active {time : Nat} {later : List KeyChange} {keys : List SigningKey}
    {key : SigningKey} (regular : ∀ change ∈ later, Regular change) (lasting : Lasting keys)
    (current : key ∈ currentKeys "RS256" keys) (trusted : Trusted time later) :
    ∃ kept ∈ activeFor "RS256" time (later.foldl KeyChange.apply keys),
      kept.kid = key.kid ∧ kept.keyMaterial = key.keyMaterial := by
  induction later generalizing keys with
  | nil =>
      obtain ⟨held, algorithm, marked⟩ := mem_current.1 current
      refine ⟨key, mem_active_for.2 ⟨held, algorithm, ?_⟩, rfl, rfl⟩
      exact active_of_lasting (lasting key held marked) time
  | cons change rest induction =>
      have others : ∀ change ∈ rest, Regular change :=
        fun change member => regular change (List.mem_cons_of_mem _ member)
      obtain ⟨held, algorithm, marked⟩ := mem_current.1 current
      rw [List.foldl_cons]
      cases change with
      | prune now =>
          apply induction others (lasting_prune lasting) _ trusted
          rw [current_prune lasting]
          exact current
      | rotate newKey graceSecs now =>
          obtain ⟨marking, fresh, _⟩ := regular _ List.mem_cons_self
          unfold Trusted at trusted
          split at trusted
          · rename_i replaced
            obtain ⟨early, order⟩ := trusted
            have early' : ∀ change ∈ rest, changeTime change < now + seconds graceSecs :=
              fun change member => lt_of_le_of_lt (order change member) early
            have retired : retire newKey graceSecs now key =
                { key with isCurrent := false, expiresAt := some (now + seconds graceSecs) } :=
              retire_replaced (algorithm.trans replaced.symm) marked
            have changed : { key with
                isCurrent := false, expiresAt := some (now + seconds graceSecs) } ∈
                rotate newKey graceSecs now keys := by
              rw [rotate_eq_retire, ← retired]
              exact List.mem_append_left _ (List.mem_map.2 ⟨key, held, rfl⟩)
            have kept := retired_through changed rfl rfl early'
            refine ⟨_, mem_active_for.2 ⟨kept, algorithm, ?_⟩, rfl, rfl⟩
            exact decide_eq_true early
          · rename_i other
            apply induction others (lasting_rotate lasting fresh) _ trusted
            rw [current_rotate marking, if_neg other]
            exact current

/-! ### What is published -/

theorem active_rs256 (time : Nat) (keys : List SigningKey) :
    (activeKeysAt time keys).filter (·.algorithm == "RS256") = activeFor "RS256" time keys := by
  unfold activeKeysAt activeFor
  exact List.filter_filter

/-- The fallback is for a key set that has no RS256 key, where none is configured. -/
theorem with_fallback_idle (library : PublicKeys) (env : Env)
    {published : List (List (String × Json))}
    (seeded : env.config.idTokenPrivateKeyPem.filter (· != "") = none ∨ published ≠ []) :
    withFallback env library published = pure published := by
  have idle : (env.config.idTokenPrivateKeyPem.filter fun pem =>
      published.isEmpty && env.config.idTokenAlg == "RS256" && pem != "") = none := by
    rcases seeded with none | some
    · cases configured : env.config.idTokenPrivateKeyPem with
      | none => rfl
      | some pem =>
          rw [configured] at none
          have empty : (pem != "") = false := by simpa [Option.filter] using none
          simp [Option.filter, empty]
    · cases env.config.idTokenPrivateKeyPem <;> simp [Option.filter, some]
  unfold withFallback
  rw [idle]

/-- What becomes of a request for the keys, given the active ones. -/
inductive Publishes (library : PublicKeys) (keys : List SigningKey) :
    Except Response Response → Prop where
  | unloaded (key : SigningKey) (active : key ∈ keys) (broken : library key.keyMaterial = none) :
      Publishes library keys (.error internalServerError)
  | document (published : List (List (String × Json))) (free : ∀ jwk ∈ published, Public jwk)
      (reads : published.map readJwk = readings library keys)
      (loads : ∀ key ∈ keys, (library key.keyMaterial).isSome = true) :
      Publishes library keys (.ok (keysResponse published))

/-- After any rotations and prunes, the document is read as the public numbers of the
active RS256 keys under their names; there is none where one of them cannot be
loaded, and the fallback is never needed. -/
theorem published_exactly (library : PublicKeys) (env : Env) (offset : ℚ) (time : Nat)
    (start : Instant) (world : World) (regular : ∀ change ∈ history, Regular change) :
    ∃ outcome, Ends (atTime env offset time) (jwks (atTime env offset time) library)
        (holding (keySetAfter env.config start history) world) outcome ∧
      Publishes library (activeFor "RS256" time (keySetAfter env.config start history)) outcome := by
  have publishing : ∃ outcome, (∀ reached, Ends (atTime env offset time)
      (publish (atTime env offset time) library
        (activeFor "RS256" time (keySetAfter env.config start history))) reached outcome) ∧
      Publishes library (activeFor "RS256" time (keySetAfter env.config start history))
        outcome := by
    unfold publish
    rcases published_keys_read library
      (activeFor "RS256" time (keySetAfter env.config start history)) with
      ⟨⟨key, active, broken⟩, failed⟩ | ⟨published, built, free, reads, loads⟩
    · rw [failed]
      exact ⟨_, fun reached => ⟨reached, rfl, Elapsed.refl reached⟩, .unloaded key active broken⟩
    · have seeded : env.config.idTokenPrivateKeyPem.filter (· != "") = none ∨ published ≠ [] := by
        cases configured : env.config.idTokenPrivateKeyPem.filter (· != "") with
        | none => exact Or.inl rfl
        | some pem =>
            right
            rintro rfl
            have uses : UsesRsa env.config history := Or.inl (by rw [configured]; rfl)
            obtain ⟨key, _, _, active⟩ := active_rsa_key start time regular uses
            have read : (library key.keyMaterial).map (fun numbers => (key.kid, numbers)) ∈
                readings library
                  (activeFor "RS256" time (keySetAfter env.config start history)) :=
              List.mem_map_of_mem active
            rw [← reads] at read
            cases read
      rw [built]
      dsimp only
      rw [with_fallback_idle library (atTime env offset time) seeded]
      exact ⟨_, fun reached => ends_pure _ _ reached, .document published free reads loads⟩
  obtain ⟨outcome, ends, publishes⟩ := publishing
  refine ⟨outcome, ?_, publishes⟩
  unfold jwks
  have held : Ends (atTime env offset time) (ambient .keys : Handler (List SigningKey))
      (holding (keySetAfter env.config start history) world)
      (.ok (keySetAfter env.config start history)) := ⟨_, rfl, rfl, rfl⟩
  apply held.bind
  intro reached _
  apply (returns_all_active env offset time _ reached).bind
  intro later _
  rw [active_rs256]
  exact ends later

/-- Who signs an ID token: the key that is current when it is minted. -/
theorem id_token_signer {env : Env} {offset : ℚ} {time : Nat} {claims : IdTokenClaims}
    {world later : World} {token : String} (start : Instant)
    (regular : ∀ change ∈ history, Regular change) (rsa : env.config.idTokenAlg = "RS256")
    (minted : (encodeIdToken (atTime env offset time) claims).run (atTime env offset time).interp
      (holding (keySetAfter env.config start history) world) = (.ok (.ok token), later)) :
    ∃ key ∈ currentKeys "RS256" (keySetAfter env.config start history),
      token = env.platform.jwt.encode claims.toPayload key.keyMaterial "RS256"
        [("kid", key.kid)] := by
  have asks : Ends (atTime env offset time)
      (currentForAlg "RS256" (keySetAfter env.config start history) :
        Service (Option SigningKey)) (holding (keySetAfter env.config start history) world)
      (.ok (currentAt "RS256" time (keySetAfter env.config start history))) :=
    returns_current env offset time "RS256" _ _
  obtain ⟨reached, ran, _⟩ := asks
  have chosen : (atTime env offset time).config.idTokenAlg == "RS256" := beq_iff_eq.2 rsa
  unfold encodeIdToken at minted
  dsimp only at minted
  rw [if_pos chosen, run_ambient_bind] at minted
  change ((currentForAlg "RS256" (keySetAfter env.config start history) :
    Service (Option SigningKey)) >>= _).run (atTime env offset time).interp
      (holding (keySetAfter env.config start history) world) = _ at minted
  rw [run_bind, ran] at minted
  dsimp only at minted
  cases which : currentAt "RS256" time (keySetAfter env.config start history) with
  | some key =>
      have facts := List.find?_some which
      simp only [Bool.and_eq_true, beq_iff_eq] at facts
      obtain ⟨⟨algorithm, marked⟩, _⟩ := facts
      refine ⟨key, mem_current.2 ⟨List.mem_of_find?_eq_some which, algorithm, marked⟩, ?_⟩
      rw [which] at minted
      dsimp only at minted
      unfold jwtEncode at minted
      split at minted
      · rename_i encoded
        split at encoded
        · cases encoded
          cases minted
          rfl
        · cases encoded
      · cases minted
  | none =>
      -- Where a PEM is configured, it was seeded, and RS256 has had a signer since.
      rw [which] at minted
      dsimp only at minted
      split at minted
      · cases minted
      · rename_i pem configured
        have uses : UsesRsa env.config history := Or.inl (Option.isSome_iff_exists.2 ⟨pem, configured⟩)
        obtain ⟨key, _, signs, _⟩ := active_rsa_key start time regular uses
        rw [which] at signs
        cases signs

/-- An ID token that was signed with RS256 can be checked with every document
published while its key is trusted: the signer's public numbers are there under
the `kid` of the token's header, whatever was rotated in between. -/
theorem signed_token_published (library : PublicKeys) {env : Env} (start : Instant)
    {earlier later : List KeyChange} (regular : ∀ change ∈ earlier ++ later, Regular change)
    (rsa : env.config.idTokenAlg = "RS256") {offset : ℚ} {minting time : Nat}
    {claims : IdTokenClaims} {world after : World} {token : String}
    (minted : (encodeIdToken (atTime env offset minting) claims).run
      (atTime env offset minting).interp
      (holding (keySetAfter env.config start earlier) world) = (.ok (.ok token), after))
    (trusted : Trusted time later) :
    ∃ kid material, token = env.platform.jwt.encode claims.toPayload material "RS256"
        [("kid", kid)] ∧
      ∀ other response reached, (jwks (atTime env offset time) library).run
          (atTime env offset time).interp
          (holding (keySetAfter env.config start (earlier ++ later)) other) =
            (.ok response, reached) →
        ∃ published numbers, response = keysResponse published ∧
          library material = some numbers ∧
          some (kid, numbers) ∈ published.map readJwk := by
  have before : ∀ change ∈ earlier, Regular change :=
    fun change member => regular change (List.mem_append_left _ member)
  have others : ∀ change ∈ later, Regular change :=
    fun change member => regular change (List.mem_append_right _ member)
  obtain ⟨key, current, signed⟩ := id_token_signer start before rsa minted
  obtain ⟨_, _, _, lasting⟩ := rsa_signer env.config start before
  obtain ⟨kept, active, sameKid, sameMaterial⟩ :=
    trusted_active others lasting current trusted
  have whole : later.foldl KeyChange.apply (keySetAfter env.config start earlier) =
      keySetAfter env.config start (earlier ++ later) := by
    unfold keySetAfter
    rw [List.foldl_append]
  rw [whole] at active
  refine ⟨key.kid, key.keyMaterial, signed, ?_⟩
  intro other response reached asked
  obtain ⟨outcome, ⟨ended, ran, _⟩, publishes⟩ :=
    published_exactly library env offset time start other regular
  rw [asked] at ran
  have answered := congrArg Prod.fst ran
  cases publishes with
  | unloaded broken _ _ => cases answered
  | document published _ reads loads =>
      cases answered
      have read : (library kept.keyMaterial).map (fun numbers => (kept.kid, numbers)) ∈
          published.map readJwk := by
        rw [reads]
        exact List.mem_map_of_mem active
      obtain ⟨numbers, loaded⟩ := Option.isSome_iff_exists.1 (loads kept active)
      rw [loaded] at read
      refine ⟨published, numbers, rfl, ?_, ?_⟩
      · rw [← sameMaterial, loaded]
      · rw [← sameKid]
        exact read

end Histories

/-! A key signs, is rotated out and is published for its grace. -/

def jwksEnv : Env where
  config :=
    { jwtSecret := "k", issuer := "s", idTokenAlg := "RS256", idTokenPrivateKeyPem := some "p" }
  backend := .sql
  platform := { Runs.samplePlatform with jwt := ReferenceJwt.library }

/-- A private key stands for its own numbers. -/
def openKeys : PublicKeys := fun material => some { n := fromBytes material, e := 65537 }

def firstRotation : List KeyChange := [.rotate (generateSigningKey "RS256" "r" [1] 10) 5 10]

def secondRotation : List KeyChange :=
  [.prune 12, .rotate (generateSigningKey "RS256" "s" [2, 0] 13) 5 13]

theorem rotations_regular : ∀ change ∈ firstRotation ++ secondRotation, Regular change := by
  simp [firstRotation, secondRotation, Regular, generateSigningKey]

theorem two_keys_published :
    ∃ outcome, Ends (atTime jwksEnv 0 15) (jwks (atTime jwksEnv 0 15) openKeys)
        (holding (keySetAfter jwksEnv.config 0 (firstRotation ++ secondRotation))
          Runs.sampleTokenWorld) outcome ∧
      Publishes openKeys (activeFor "RS256" 15
        (keySetAfter jwksEnv.config 0 (firstRotation ++ secondRotation))) outcome :=
  published_exactly openKeys jwksEnv 0 15 0 Runs.sampleTokenWorld rotations_regular

def sampleClaims : IdTokenClaims where
  iss := "s"
  sub := "alice"
  aud := "app"
  exp := 3600
  iat := 0

def mintingRun : Except Raised (Except String String) × World :=
  (encodeIdToken (atTime jwksEnv 0 11) sampleClaims).run (atTime jwksEnv 0 11).interp
    (holding (keySetAfter jwksEnv.config 0 firstRotation) Runs.sampleTokenWorld)

theorem token_minted : ∃ token, mintingRun = (.ok (.ok token), mintingRun.2) := ⟨_, rfl⟩

/-- Two microseconds after the rotation the token can still be checked. -/
theorem retired_key_published :
    ∃ token kid material, mintingRun = (.ok (.ok token), mintingRun.2) ∧
      token = ReferenceJwt.library.encode sampleClaims.toPayload material "RS256" [("kid", kid)] ∧
      ∀ other response reached, (jwks (atTime jwksEnv 0 15) openKeys).run
          (atTime jwksEnv 0 15).interp
          (holding (keySetAfter jwksEnv.config 0 (firstRotation ++ secondRotation)) other) =
            (.ok response, reached) →
        ∃ published numbers, response = keysResponse published ∧
          openKeys material = some numbers ∧ some (kid, numbers) ∈ published.map readJwk := by
  obtain ⟨token, minted⟩ := token_minted
  have trusted : Trusted 15 secondRotation := by
    simp [secondRotation, Trusted, generateSigningKey, seconds]
  obtain ⟨kid, material, signed, published⟩ :=
    signed_token_published openKeys 0 rotations_regular rfl minted trusted
  exact ⟨token, kid, material, minted, signed, published⟩

end OAuth2Server.PublishedKeys
