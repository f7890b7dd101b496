import OAuth2Server.Logout
import OAuth2Server.KeyRotation

/-!
# Which hints a logout accepts

An RS256 hint is verified with the key its `kid` names, else with every active
RS256 key, else with the configured private key. The last of these is the
material of the first key, which a rotation retires. It is never reached: once
a private key is configured, some RS256 key of the process is current, and a
current key does not expire.
-/

namespace OAuth2Server.LogoutHints

open OAuth2Server Models JsonText Storage Effects Interaction Interaction.Program
open ClientAuth Issuance KeySet KeyRotation ReferenceJwt Logout Runs

set_option autoImplicit false

/-! ### `_decode_hint` at a time -/

section AtTime

variable {ε α : Type}

/-- The private key of the configuration. -/
def configuredPem (config : Config) : Option String := config.idTokenPrivateKeyPem.filter (· != "")

/-- The materials of active RS256 keys that a hint is tried with. -/
def keyMaterialsAt (header : List (String × Json)) (time : Nat) (keys : List SigningKey) :
    List (List Nat) :=
  match (namedAt header time keys).filter (·.algorithm == "RS256") with
  | some key => [key.keyMaterial]
  | none => (activeFor "RS256" time keys).map (·.keyMaterial)

def materialsAt (config : Config) (header : List (String × Json)) (time : Nat)
    (keys : List SigningKey) : List (List Nat) :=
  match keyMaterialsAt header time keys, configuredPem config with
  | [], some pem => [Text.utf8Encode pem.toList]
  | materials, _ => materials

theorem returns_keyset_materials (env : Env) (offset : ℚ) (time : Nat)
    (header : List (String × Json)) (keys : List SigningKey) (world : World) :
    Ends (atTime env offset time) (keysetMaterials header keys) world
      (.ok (keyMaterialsAt header time keys)) := by
  unfold keysetMaterials keyMaterialsAt
  apply (returns_named env offset time header keys world).bind
  intro reached _
  cases (namedAt header time keys).filter (·.algorithm == "RS256") with
  | some key => exact ends_pure _ _ _
  | none =>
      apply (returns_active_keys env offset time "RS256" keys reached).bind
      intro later _
      exact ends_pure _ _ _

theorem returns_materials (env : Env) (offset : ℚ) (time : Nat) (header : List (String × Json))
    (keys : List SigningKey) (world : World) :
    Ends (atTime env offset time)
      (rs256HintVerifyMaterials (atTime env offset time) header keys) world
      (.ok (materialsAt env.config header time keys)) := by
  unfold rs256HintVerifyMaterials materialsAt configuredPem
  apply (returns_keyset_materials env offset time header keys world).bind
  intro reached _
  have config : (atTime env offset time).config = env.config := rfl
  rw [config]
  cases keyMaterialsAt header time keys with
  | cons material rest => exact ends_pure _ _ _
  | nil =>
      cases env.config.idTokenPrivateKeyPem.filter (· != "") with
      | none => exact ends_pure _ _ _
      | some pem => exact ends_pure _ _ _

/-- The outcome of one key, its own exceptions kept. -/
def keyOutcome (env : Env) (hint : String) (key : VerifyKey) (alg : String) (time : Nat) :
    Except HintError (Option (List (String × Json))) :=
  match decodeWith env hint env.config.issuer key alg time with
  | .ok payload => .ok (some payload)
  | .error (.pyjwt _) => .ok none
  | .error (.other _) => .error .other

theorem ends_key (env : Env) (offset : ℚ) (time : Nat) (hint : String) (key : VerifyKey)
    (alg : String) (world : World) :
    Ends (atTime env offset time) (decodeHintWith (atTime env offset time) hint key alg) world
      (keyOutcome env hint key alg time) := by
  have config : (atTime env offset time).config = env.config := rfl
  unfold decodeHintWith keyOutcome
  rw [decode_with_at_time, config]
  apply (returns_now env offset time world).bind
  intro reached _
  cases decodeWith env hint env.config.issuer key alg time with
  | ok payload => exact ends_pure _ _ _
  | error raised =>
      cases raised with
      | pyjwt message => exact ends_pure _ _ _
      | other message => exact ⟨reached, rfl, Elapsed.refl reached⟩

/-- The first of the materials that verifies the hint. -/
def triedAt (env : Env) (hint : String) (time : Nat) :
    List (List Nat) → Except HintError (List (String × Json))
  | [] => .error .invalidHint
  | material :: rest =>
      match env.platform.jwt.rsaPublicKey material with
      | .error _ => triedAt env hint time rest
      | .ok document => do
          match ← keyOutcome env hint (.jwk "RSA" document) "RS256" time with
          | some payload => pure payload
          | none => triedAt env hint time rest

theorem ends_tried (env : Env) (offset : ℚ) (time : Nat) (hint : String)
    (materials : List (List Nat)) (world : World) :
    Ends (atTime env offset time) (tryMaterials (atTime env offset time) hint materials) world
      (triedAt env hint time materials) := by
  induction materials generalizing world with
  | nil => exact ⟨world, rfl, Elapsed.refl world⟩
  | cons material rest induction =>
      have platform : (atTime env offset time).platform.jwt = env.platform.jwt := rfl
      unfold tryMaterials triedAt
      rw [platform]
      cases env.platform.jwt.rsaPublicKey material with
      | error message => exact induction world
      | ok document =>
          apply (ends_key env offset time hint _ "RS256" world).bind_except
          intro outcome reached _
          cases outcome with
          | some payload => exact ends_pure _ _ _
          | none => exact induction reached

/-- `_decode_hint` with these keys. -/
def hintAt (env : Env) (hint : String) (time : Nat) (keys : List SigningKey) :
    Except HintError (List (String × Json)) :=
  match env.platform.jwt.unverifiedHeader hint with
  | .error _ => .error .invalidHint
  | .ok header =>
      if textMember header "alg" == some "HS256" then do
        match ← keyOutcome env hint (.secret (configuredSecret env.config)) "HS256" time with
        | some payload => pure payload
        | none => .error .invalidHint
      else if textMember header "alg" != some "RS256" then .error .invalidHint
      else triedAt env hint time (materialsAt env.config header time keys)

theorem ends_decode_hint (env : Env) (offset : ℚ) (time : Nat) (hint : String) (world : World) :
    Ends (atTime env offset time) (decodeHint (atTime env offset time) hint) world
      (hintAt env hint time world.process.keys) := by
  have keys : Ends (atTime env offset time)
      (ambient .keys : Program Server HintError (List SigningKey)) world
      (.ok world.process.keys) := ⟨world, rfl, Elapsed.refl world⟩
  unfold decodeHint hintAt
  have same : (atTime env offset time).platform.jwt.unverifiedHeader hint =
      env.platform.jwt.unverifiedHeader hint := rfl
  rw [same]
  cases env.platform.jwt.unverifiedHeader hint with
  | error raised => exact ⟨world, rfl, Elapsed.refl world⟩
  | ok header =>
      dsimp only
      split
      · apply (ends_key env offset time hint _ "HS256" world).bind_except
        intro outcome reached _
        cases outcome with
        | some payload => exact ends_pure _ _ _
        | none => exact ⟨reached, rfl, Elapsed.refl reached⟩
      split
      · exact ⟨world, rfl, Elapsed.refl world⟩
      · apply keys.bind
        intro listed _
        apply (returns_materials env offset time header _ listed).bind
        intro chosen _
        exact ends_tried env offset time hint _ chosen

end AtTime

/-! ### The key sets of a process -/

/-- The key sets a process comes to hold: seeded, rotated with generated keys, pruned. -/
inductive Reachable (config : Config) : List SigningKey → Prop
  | seed (now : Instant) : Reachable config (seedKeyset config now)
  | rotate {keys : List SigningKey} (algorithm kid : String) (keyMaterial : List Nat)
      (created now : Instant) (graceSecs : Int) (known : algorithm ∈ ["HS256", "RS256"])
      (lasting : 0 ≤ graceSecs) (reached : Reachable config keys) :
      Reachable config
        (KeySet.rotate (generateSigningKey algorithm kid keyMaterial created) graceSecs now keys)
  | prune {keys : List SigningKey} (now : Instant) (reached : Reachable config keys) :
      Reachable config (pruneExpired now keys)

/-- The admin route leads from one of them to another. -/
theorem reachable_rotate_key {config : Config} {request : RotateRequest}
    {keyMaterial : List Nat} {now : Instant} {keys later : List SigningKey} {newKey : SigningKey}
    (reached : Reachable config keys)
    (rotated : rotateKey config request keyMaterial now keys = .ok (newKey, later)) :
    Reachable config later := by
  unfold rotateKey at rotated
  dsimp only at rotated
  split at rotated
  · cases rotated
  rename_i known
  split at rotated
  · cases rotated
  rename_i lasting
  split at rotated
  · cases rotated
  cases rotated
  apply Reachable.prune
  apply Reachable.rotate _ _ _ _ _ _ _ _ reached
  · rw [Bool.not_eq_true, Bool.not_eq_false'] at known
    exact List.contains_iff_mem.1 known
  · omega

/-- Some RS256 key is current, and does not expire. -/
def Lasts (keys : List SigningKey) : Prop :=
  ∃ key ∈ keys, key.algorithm = "RS256" ∧ key.expiresAt = none

theorem lasts_rotate {keys : List SigningKey} (lasts : Lasts keys) (algorithm kid : String)
    (keyMaterial : List Nat) (created now : Instant) (graceSecs : Int) :
    Lasts (KeySet.rotate (generateSigningKey algorithm kid keyMaterial created) graceSecs now
      keys) := by
  unfold KeySet.rotate
  by_cases replaced : algorithm = "RS256"
  · -- The new key takes over.
    refine ⟨generateSigningKey algorithm kid keyMaterial created, ?_, replaced, rfl⟩
    exact List.mem_append_right _ List.mem_cons_self
  · obtain ⟨key, listed, rs256, unexpired⟩ := lasts
    refine ⟨key, ?_, rs256, unexpired⟩
    apply List.mem_append_left
    rw [List.mem_map]
    refine ⟨key, listed, ?_⟩
    have other : (key.algorithm == algorithm) = false := by
      rw [rs256, beq_eq_false_iff_ne]
      exact fun same => replaced same.symm
    simp [generateSigningKey, other]

theorem lasts_prune {keys : List SigningKey} (lasts : Lasts keys) (now : Instant) :
    Lasts (pruneExpired now keys) := by
  obtain ⟨key, listed, rs256, unexpired⟩ := lasts
  refine ⟨key, List.mem_filter.2 ⟨listed, ?_⟩, rs256, unexpired⟩
  simp [activeAt, unexpired]

/-- With a private key configured, the key set always has an RS256 key that lasts. -/
theorem reachable_lasts {config : Config} {keys : List SigningKey} (reached : Reachable config keys)
    {pem : String} (configured : configuredPem config = some pem) : Lasts keys := by
  induction reached with
  | seed now =>
      unfold configuredPem at configured
      unfold seedKeyset
      rw [configured]
      exact ⟨_, List.mem_append_right _ List.mem_cons_self, rfl, rfl⟩
  | rotate algorithm kid keyMaterial created now graceSecs _ _ _ lasts =>
      exact lasts_rotate lasts algorithm kid keyMaterial created now graceSecs
  | prune now _ lasts => exact lasts_prune lasts now

/-! ### The keys of an accepted hint -/

/-- The material of an active RS256 key. -/
def Active (keys : List SigningKey) (time : Nat) (material : List Nat) : Prop :=
  ∃ key ∈ keys, key.algorithm = "RS256" ∧ activeAt time key = true ∧ key.keyMaterial = material

theorem key_materials_active {header : List (String × Json)} {time : Nat} {keys : List SigningKey}
    {material : List Nat} (tried : material ∈ keyMaterialsAt header time keys) :
    Active keys time material := by
  unfold keyMaterialsAt at tried
  split at tried
  · rename_i key chosen
    obtain ⟨named, rs256⟩ := Option.filter_eq_some_iff.1 chosen
    obtain ⟨kid, _, found⟩ := Option.bind_eq_some_iff.1 named
    have facts := List.find?_some found
    simp only [Bool.and_eq_true] at facts
    rw [List.mem_singleton] at tried
    exact ⟨key, List.mem_of_find?_eq_some found, by simpa using rs256, facts.2, tried.symm⟩
  · obtain ⟨key, listed, same⟩ := List.mem_map.1 tried
    obtain ⟨member, facts⟩ := List.mem_filter.1 listed
    simp only [Bool.and_eq_true, beq_iff_eq] at facts
    exact ⟨key, member, facts.1, facts.2, same⟩

/-- A key set with an RS256 key that lasts has a material for every hint. -/
theorem key_materials_present {keys : List SigningKey} (lasts : Lasts keys)
    (header : List (String × Json)) (time : Nat) : keyMaterialsAt header time keys ≠ [] := by
  unfold keyMaterialsAt
  split
  · exact List.cons_ne_nil _ _
  · obtain ⟨key, listed, rs256, unexpired⟩ := lasts
    have active : key ∈ activeFor "RS256" time keys := by
      apply List.mem_filter.2
      refine ⟨listed, ?_⟩
      simp [rs256, activeAt, unexpired]
    exact List.ne_nil_of_mem (List.mem_map_of_mem active)

/-- Neither fallback tries anything but active keys. -/
theorem materials_active {config : Config} {keys : List SigningKey}
    (reached : Reachable config keys) {header : List (String × Json)} {time : Nat}
    {material : List Nat} (tried : material ∈ materialsAt config header time keys) :
    Active keys time material := by
  unfold materialsAt at tried
  split at tried
  · rename_i pem none configured
    exact absurd none (key_materials_present (reachable_lasts reached configured) header time)
  · exact key_materials_active tried

theorem key_outcome_accepts {env : Env} {hint alg : String} {key : VerifyKey} {time : Nat}
    {payload : List (String × Json)}
    (accepted : keyOutcome env hint key alg time = .ok (some payload)) :
    decodeWith env hint env.config.issuer key alg time = .ok payload := by
  unfold keyOutcome at accepted
  split at accepted
  · cases accepted
    assumption
  · cases accepted
  · cases accepted

/-- An accepted hint verifies with one of the materials. -/
theorem tried_accepts {env : Env} {hint : String} {time : Nat} {materials : List (List Nat)}
    {payload : List (String × Json)} (accepted : triedAt env hint time materials = .ok payload) :
    ∃ material ∈ materials, ∃ document,
      env.platform.jwt.rsaPublicKey material = .ok document ∧
      decodeWith env hint env.config.issuer (.jwk "RSA" document) "RS256" time = .ok payload := by
  induction materials with
  | nil => cases accepted
  | cons material rest induction =>
      have later : triedAt env hint time rest = .ok payload → ∃ material' ∈ material :: rest,
          ∃ document, env.platform.jwt.rsaPublicKey material' = .ok document ∧
            decodeWith env hint env.config.issuer (.jwk "RSA" document) "RS256" time =
              .ok payload := by
        intro further
        obtain ⟨material', listed, found⟩ := induction further
        exact ⟨material', List.mem_cons_of_mem _ listed, found⟩
      unfold triedAt at accepted
      cases loaded : env.platform.jwt.rsaPublicKey material with
      | error message =>
          rw [loaded] at accepted
          exact later accepted
      | ok document =>
          rw [loaded] at accepted
          dsimp only at accepted
          cases outcome : keyOutcome env hint (.jwk "RSA" document) "RS256" time with
          | error raised =>
              rw [outcome] at accepted
              cases accepted
          | ok found =>
              rw [outcome] at accepted
              cases found with
              | none => exact later accepted
              | some claims =>
                  cases accepted
                  exact ⟨material, List.mem_cons_self, document, loaded,
                    key_outcome_accepts outcome⟩

/-- Whatever was rotated and pruned, an RS256 hint that a logout accepts was
signed with an active RS256 key of the process, and no retired key is even tried. -/
theorem accepted_hint_signed_by_active_key (env : Env) (offset : ℚ)
    (signed : String → String → List Nat → Prop)
    (unforgeable : UnforgeableRsa env.platform.jwt signed) (keys : List SigningKey)
    (reached : Reachable env.config keys) (world : World) (hint : String) (time : Nat)
    (header : List (String × Json))
    (read : env.platform.jwt.unverifiedHeader hint = .ok header)
    (rs256 : textMember header "alg" = some "RS256") :
    (∀ material ∈ materialsAt env.config header time keys, Active keys time material) ∧
      ∀ claims later,
        (decodeHint (atTime env offset time) hint).run (atTime env offset time).interp
            (holding keys world) = (.ok claims, later) →
          ∃ key ∈ keys, key.algorithm = "RS256" ∧ activeAt time key = true ∧
            signed hint "RS256" key.keyMaterial := by
  have active : ∀ material ∈ materialsAt env.config header time keys,
      Active keys time material := fun material tried => materials_active reached tried
  refine ⟨active, ?_⟩
  intro claims later accepted
  obtain ⟨ended, ran, _⟩ := ends_decode_hint env offset time hint (holding keys world)
  have outcome := congrArg Prod.fst (ran.symm.trans accepted)
  have decoded : hintAt env hint time keys = .ok claims := outcome
  unfold hintAt at decoded
  rw [read] at decoded
  dsimp only at decoded
  rw [rs256, if_neg (by decide), if_neg (by decide)] at decoded
  obtain ⟨material, tried, document, loaded, verified⟩ := tried_accepts decoded
  obtain ⟨key, member, algorithm, activeKey, same⟩ := active material tried
  have signer := unforgeable.rsa _ _ _ _ _ _ loaded verified
  exact ⟨key, member, algorithm, activeKey, same ▸ signer⟩

/-- A hint that verifies with the first material is accepted. -/
theorem hint_accepted {env : Env} {hint : String} {time : Nat} {keys : List SigningKey}
    {header payload : List (String × Json)} {material : List Nat} {rest : List (List Nat)}
    {document : Json} (read : env.platform.jwt.unverifiedHeader hint = .ok header)
    (rs256 : textMember header "alg" = some "RS256")
    (materials : materialsAt env.config header time keys = material :: rest)
    (loaded : env.platform.jwt.rsaPublicKey material = .ok document)
    (verified : decodeWith env hint env.config.issuer (.jwk "RSA" document) "RS256" time =
      .ok payload) : hintAt env hint time keys = .ok payload := by
  have outcome : keyOutcome env hint (.jwk "RSA" document) "RS256" time = .ok (some payload) := by
    unfold keyOutcome
    rw [verified]
  unfold hintAt
  rw [read]
  dsimp only
  rw [rs256, if_neg (by decide), if_neg (by decide), materials]
  unfold triedAt
  rw [loaded]
  dsimp only
  rw [outcome]
  rfl

/-! A hint of the first RS256 key, rotated out a second ago and in its grace. -/

theorem decode_with_library {env : Env} (reference : env.platform.jwt = ReferenceJwt.library)
    (token issuer : String) (key : VerifyKey) (alg : String) (now : Instant) :
    decodeWith env token issuer key alg now =
      ReferenceJwt.library.verify token key alg { issuer := some issuer } now := by
  unfold decodeWith
  rw [reference]

def hintEnv : Env where
  config := { jwtSecret := "k", issuer := "s", idTokenPrivateKeyPem := some "p" }
  backend := .sql
  platform := { samplePlatform with jwt := ReferenceJwt.library }

def hintPem : List Nat := Text.utf8Encode "p".toList

def firstHint : String :=
  ReferenceJwt.library.encode (.obj rotationPayload) hintPem "RS256" [("kid", "rs256-initial")]

def hintHeader : List (String × Json) := joseHeader "RS256" [("kid", "rs256-initial")]

def inGrace : List SigningKey :=
  KeySet.rotate (generateSigningKey "RS256" "rs256-1" [2] 1000000) 3600 1000000
    (seedKeyset hintEnv.config 0)

theorem in_grace_reachable : Reachable hintEnv.config inGrace :=
  .rotate "RS256" "rs256-1" [2] 1000000 1000000 3600 (by decide) (by decide) (.seed 0)

theorem first_hint_header :
    hintEnv.platform.jwt.unverifiedHeader firstHint = .ok hintHeader :=
  read_header_encode rotationPayload hintPem "RS256" _

theorem first_hint_accepted : hintAt hintEnv firstHint 2000000 inGrace = .ok rotationPayload := by
  have current := rotation_payload_current 2000000 (by norm_num [epochSeconds])
  obtain ⟨document, loaded, verifies⟩ := signs_and_verifies.rsa hintPem rfl
  have materials : materialsAt hintEnv.config hintHeader 2000000 inGrace = [hintPem] := by
    decide +kernel
  have alg : textMember hintHeader "alg" = some "RS256" := by decide +kernel
  apply hint_accepted first_hint_header alg materials loaded
  rw [decode_with_library rfl]
  unfold firstHint
  exact verifies rotationPayload _ hintEnv.config.issuer _ current

/-- The hint is accepted, and the key that signed it is still active. -/
theorem first_hint_signed_by_active_key :
    (∃ claims later, (decodeHint (atTime hintEnv 0 2000000) firstHint).run
      (atTime hintEnv 0 2000000).interp (holding inGrace sampleTokenWorld) = (.ok claims, later)) ∧
    ∃ key ∈ inGrace, key.algorithm = "RS256" ∧ activeAt (2000000 : Nat) key = true ∧
      SignedWith firstHint "RS256" key.keyMaterial := by
  have sound := accepted_hint_signed_by_active_key hintEnv 0 SignedWith
    unforgeable.toUnforgeableRsa inGrace in_grace_reachable sampleTokenWorld firstHint 2000000
    hintHeader first_hint_header (by decide +kernel)
  obtain ⟨later, ran, _⟩ := ends_decode_hint hintEnv 0 2000000 firstHint
    (holding inGrace sampleTokenWorld)
  have keys : (holding inGrace sampleTokenWorld).process.keys = inGrace := rfl
  rw [keys, first_hint_accepted] at ran
  exact ⟨⟨rotationPayload, later, ran⟩, sound.2 rotationPayload later ran⟩

end OAuth2Server.LogoutHints
