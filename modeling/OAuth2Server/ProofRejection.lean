import OAuth2Server.Runs
import OAuth2Server.ReferenceJwt

/-!
# How a proof is rejected

`validate_dpop_proof` reads JSON an attacker wrote. It answers with a
`DpopError` and records nothing, but for five kinds of proof whose exception is
another one: a header the library refuses with anything but `DecodeError`, an
algorithm that cannot be looked up in a set, an authority `urlsplit` refuses, an
`ath` that cannot be encoded, and a date no double holds.
-/

namespace OAuth2Server.ProofRejection

open OAuth2Server Models JsonText Storage Effects Interaction Interaction.Program
open ClientAuth Dpop Footprints

set_option autoImplicit false

/-! ### The checks as one pure function -/

/-- What the header of a proof announces. -/
structure Announced where
  jkt : String
  jwk : Json
  alg : String

/-- The checks on the header, up to the key it carries. -/
def announced (env : Env) (proof : String) : Except Raised Announced := do
  let header ← match env.platform.jwt.unverifiedHeader proof with
    | .ok header => pure header
    | .error .decode => throw (invalidProof "DPoP proof header is malformed")
    | .error .invalid => throw .other
  if Text.lower (strOr env (header.lookup "typ")) != "dpop+jwt" then
    throw (invalidProof "DPoP proof typ must be \"dpop+jwt\"")
  let some (.obj (member :: members)) := header.lookup "jwk"
    | throw (invalidProof "DPoP proof missing 'jwk' header claim")
  let jwk := Json.obj (member :: members)
  let jkt ← jwkThumbprint env jwk
  let alg ← proofAlgorithm header
  match env.platform.jwt.jwkKind (keyFamily alg) jwk with
  | .error message => throw (signatureInvalid message)
  | .ok _ => pure { jkt := jkt, jwk := jwk, alg := alg }

/-- The options a proof is verified under. -/
def proofOptions : VerifyOptions :=
  { require := ["htm", "htu", "iat", "jti"], verifyExp := false, verifyIat := false }

/-- The claims of a proof whose signature holds at a time. -/
def proven (env : Env) (proof : String) (key : Announced) (now : Instant) :
    Except Raised (List (String × Json)) :=
  match env.platform.jwt.verify proof (.jwk (keyFamily key.alg) key.jwk) key.alg proofOptions now with
  | .ok claims => .ok claims
  | .error (.pyjwt message) => .error (signatureInvalid message)
  | .error (.other message) => .error (signatureInvalid message)

/-- The checks on dated claims, up to the identifier that is recorded. -/
def dated (env : Env) (key : Announced) (claims : List (String × Json)) (iat : Json) (time : ℚ) :
    Except Raised (Validated × String) := do
  iatInWindow iat time
  let nonce ← proofNonce claims
  let some jti := claims.lookup "jti" | throw .other
  pure ({ jkt := key.jkt, nonce := nonce, ath := textMember claims "ath" }, pyStr env jti)

/-- The last step: the identifier is recorded, unless it is there already. -/
def recorded (accepted : Validated × String) : Service Validated := do
  let fresh ← ambient (.checkAndInsert accepted.2)
  if !fresh then
    throw (invalidProof "DPoP proof jti has already been used (replay)")
  pure accepted.1

/-- The claims of a proof that are checked before the date. -/
def claimed (env : Env) (proof : String) (claims : List (String × Json)) (method url : String)
    (accessToken : Option String) : Except Raised Json := do
  checkProofClaims env (env.platform.jwt.loneTexts proof) claims method url accessToken
  let some iat := claims.lookup "iat" | throw .other
  pure iat

/-- Every check of a proof, with the two readings of the clock it makes. -/
def checkedProof (env : Env) (proof method url : String) (accessToken : Option String) :
    Service (Validated × String) := do
  let key ← Program.ofExcept (announced env proof)
  let now ← ambient .now
  let claims ← Program.ofExcept (proven env proof key now)
  let iat ← Program.ofExcept (claimed env proof claims method url accessToken)
  let time ← ambient .time
  Program.ofExcept (dated env key claims iat time)

theorem dated_tail (env : Env) (key : Announced) (claims : List (String × Json)) (iat : Json)
    (time : ℚ) :
    Program.ofExcept (dated env key claims iat time) >>= recorded =
    (do
      Program.ofExcept (iatInWindow iat time)
      let nonce ← Program.ofExcept (proofNonce claims)
      let some jti := claims.lookup "jti" | throw .other
      let fresh ← ambient (.checkAndInsert (pyStr env jti))
      if !fresh then
        throw (invalidProof "DPoP proof jti has already been used (replay)")
      pure { jkt := key.jkt, nonce := nonce, ath := textMember claims "ath" } :
        Service Validated) := by
  unfold dated
  cases iatInWindow iat time with
  | error raised => rfl
  | ok _ =>
    cases proofNonce claims with
    | error raised => rfl
    | ok nonce =>
      cases claims.lookup "jti" with
      | none => rfl
      | some jti => rfl

/-- What follows the header checks, as the source runs it. -/
theorem validate_tail (env : Env) (proof method url : String) (accessToken : Option String)
    (key : Announced) (now : Instant) :
    (do
      let claims ← Program.ofExcept (proven env proof key now)
      let iat ← Program.ofExcept (claimed env proof claims method url accessToken)
      let time ← ambient .time
      let accepted ← Program.ofExcept (dated env key claims iat time)
      recorded accepted) =
    (do
      let claims ← match env.platform.jwt.verify proof (.jwk (keyFamily key.alg) key.jwk) key.alg
          proofOptions now with
        | .ok claims => pure claims
        | .error (.pyjwt message) => throw (signatureInvalid message)
        | .error (.other message) => throw (signatureInvalid message)
      Program.ofExcept
        (checkProofClaims env (env.platform.jwt.loneTexts proof) claims method url accessToken)
      let some iat := claims.lookup "iat" | throw .other
      let time ← ambient .time
      Program.ofExcept (iatInWindow iat time)
      let nonce ← Program.ofExcept (proofNonce claims)
      let some jti := claims.lookup "jti" | throw .other
      let fresh ← ambient (.checkAndInsert (pyStr env jti))
      if !fresh then
        throw (invalidProof "DPoP proof jti has already been used (replay)")
      pure { jkt := key.jkt, nonce := nonce, ath := textMember claims "ath" } :
        Service Validated) := by
  unfold proven claimed
  cases env.platform.jwt.verify proof (.jwk (keyFamily key.alg) key.jwk) key.alg proofOptions
      now with
  | error refused => cases refused <;> rfl
  | ok claims =>
    simp only [Program.ofExcept, done_bind, pure_eq_done]
    cases checkProofClaims env (env.platform.jwt.loneTexts proof) claims method url
        accessToken with
    | error raised => rfl
    | ok _ =>
      cases claims.lookup "iat" with
      | none => rfl
      | some iat =>
        apply congrArg (Program.call (S := Server) (Op.ambient .time))
        funext time
        exact dated_tail env key claims iat time

theorem validate_eq (env : Env) (proof method url : String) (accessToken : Option String) :
    validateDpopProof env proof method url accessToken =
      checkedProof env proof method url accessToken >>= recorded := by
  unfold validateDpopProof checkedProof announced
  cases env.platform.jwt.unverifiedHeader proof with
  | error refused => cases refused <;> rfl
  | ok header =>
    simp only [pure_bind, bind_assoc]
    split
    · rfl
    generalize header.lookup "jwk" = embedded
    cases embedded with
    | none => rfl
    | some document =>
      cases document with
      | obj listed =>
        cases listed with
        | nil => rfl
        | cons member members =>
          simp only [of_except_bind, bind_assoc]
          congr 1
          funext jkt
          congr 1
          funext alg
          cases env.platform.jwt.jwkKind (keyFamily alg) (.obj (member :: members)) with
          | error message => rfl
          | ok kind =>
            have tail := validate_tail env proof method url accessToken
              { jkt := jkt, jwk := .obj (member :: members), alg := alg }
            simp only [Program.ofExcept, pure_eq_done]
            congr 1
            funext now
            exact (tail now).symm
      | _ => rfl

/-- The verdict on a proof whose signature is checked at one time and whose date
is compared with another. -/
def verdict (env : Env) (proof method url : String) (accessToken : Option String) (now : Instant)
    (time : ℚ) : Except Raised (Validated × String) := do
  let key ← announced env proof
  let claims ← proven env proof key now
  let iat ← claimed env proof claims method url accessToken
  dated env key claims iat time

/-- The checks after the header, from the first reading of the clock on. -/
theorem claims_run (env : Env) (proof method url : String) (accessToken : Option String)
    (key : Announced) (world : World) :
    ∃ later, (do
          let now ← ambient .now
          let claims ← Program.ofExcept (proven env proof key now)
          let iat ← Program.ofExcept (claimed env proof claims method url accessToken)
          let time ← ambient .time
          Program.ofExcept (dated env key claims iat time) : Service (Validated × String)).run
          env.interp world =
        ((do
          let claims ← proven env proof key (env.platform.clock world.process.readings)
          let iat ← claimed env proof claims method url accessToken
          dated env key claims iat
            (epochSeconds (env.platform.clock (world.process.readings + 1)))), later) ∧
      later.process.dpopReplay = world.process.dpopReplay := by
  let reached := (env.interp (.ambient .now) world).2
  change ∃ later, (do
      let claims ← Program.ofExcept
        (proven env proof key (env.platform.clock world.process.readings))
      let iat ← Program.ofExcept (claimed env proof claims method url accessToken)
      let time ← ambient .time
      Program.ofExcept (dated env key claims iat time) : Service (Validated × String)).run
      env.interp reached = _ ∧ _
  cases proven env proof key (env.platform.clock world.process.readings) with
  | error raised => exact ⟨reached, rfl, rfl⟩
  | ok claims =>
    simp only [Program.ofExcept, done_bind, except_ok_bind]
    cases claimed env proof claims method url accessToken with
    | error raised => exact ⟨reached, rfl, rfl⟩
    | ok iat => exact ⟨_, run_of_except env.interp _ _, rfl⟩

/-- The checks read the clock twice at most and leave the replay store alone. -/
theorem checked_run (env : Env) (proof method url : String) (accessToken : Option String)
    (world : World) :
    ∃ later, (checkedProof env proof method url accessToken).run env.interp world =
        (verdict env proof method url accessToken (env.platform.clock world.process.readings)
          (epochSeconds (env.platform.clock (world.process.readings + 1))), later) ∧
      later.process.dpopReplay = world.process.dpopReplay := by
  unfold checkedProof verdict
  cases announced env proof with
  | error raised => exact ⟨world, rfl, rfl⟩
  | ok key => exact claims_run env proof method url accessToken key world

/-! ### Which exceptions escape -/

/-- The header is read, has the type of a proof and carries a key with a thumbprint. -/
structure Announces (env : Env) (proof : String) (header : List (String × Json)) (jwk : Json) :
    Prop where
  read : env.platform.jwt.unverifiedHeader proof = .ok header
  typed : Text.lower (strOr env (header.lookup "typ")) = "dpop+jwt"
  carried : header.lookup "jwk" = some jwk
  nonempty : ∃ member members, jwk = .obj (member :: members)
  supported : (thumbprintMembers jwk).isSome

/-- The proof was made for the method. -/
def MadeFor (env : Env) (proof : String) (claims : List (String × Json)) (method : String) :
    Prop :=
  "htm" ∉ env.platform.jwt.loneTexts proof ∧
    Text.lower (strOr env (claims.lookup "htm")) = Text.lower method

/-- The key is one of the algorithm, the signature holds under it, and the proof
was made for the method. -/
structure Proves (env : Env) (proof method : String) (now : Instant)
    (claims : List (String × Json)) : Prop where
  signed : ∃ header jwk alg kind, Announces env proof header jwk ∧
    header.lookup "alg" = some (.str alg) ∧ alg ∈ allowedAlgs ∧
    env.platform.jwt.jwkKind (keyFamily alg) jwk = .ok kind ∧
    env.platform.jwt.verify proof (.jwk (keyFamily alg) jwk) alg proofOptions now = .ok claims
  method : MadeFor env proof claims method

section Stages

variable {env : Env} {proof method url : String} {accessToken : Option String}
  {header claims : List (String × Json)} {jwk : Json}

/-- A `DpopError`, or an exception that escapes. -/
def Known (raised : Raised) : Prop :=
  raised = .other ∨ ∃ error description, raised = .dpop error description

theorem thumbprint_supported (env : Env) (supported : (thumbprintMembers jwk).isSome) :
    ∃ jkt, jwkThumbprint env jwk = .ok jkt := by
  obtain ⟨members, present⟩ := Option.isSome_iff_exists.1 supported
  unfold jwkThumbprint
  rw [present]
  exact ⟨_, rfl⟩

/-- Past the thumbprint the algorithm decides. -/
theorem announced_eq (announces : Announces env proof header jwk) :
    ∃ jkt, announced env proof = (do
      let alg ← proofAlgorithm header
      match env.platform.jwt.jwkKind (keyFamily alg) jwk with
      | .error message => throw (signatureInvalid message)
      | .ok _ => pure { jkt := jkt, jwk := jwk, alg := alg }) := by
  obtain ⟨jkt, digested⟩ := thumbprint_supported env announces.supported
  obtain ⟨member, members, rfl⟩ := announces.nonempty
  refine ⟨jkt, ?_⟩
  simp only [announced, announces.read, announces.typed, announces.carried, digested, bne_self_eq_false,
    Bool.false_eq_true, if_false, pure_bind, except_ok_bind]

/-- A header that is read and announces no key is refused. -/
theorem announced_refused (read : env.platform.jwt.unverifiedHeader proof ≠ .error .invalid)
    (silent : ∀ header jwk, ¬ Announces env proof header jwk) :
    ∃ description, announced env proof = .error (invalidProof description) := by
  unfold announced
  cases parsed : env.platform.jwt.unverifiedHeader proof with
  | error refused =>
    cases refused with
    | decode => exact ⟨_, rfl⟩
    | invalid => exact absurd parsed read
  | ok header =>
    simp only [pure_bind]
    split
    · exact ⟨_, rfl⟩
    rename_i typed
    simp only [bne_iff_ne, ne_eq, not_not] at typed
    split
    · rename_i member members carried
      cases supported : thumbprintMembers (.obj (member :: members)) with
      | none =>
        refine ⟨"Unsupported JWK key type", ?_⟩
        simp [jwkThumbprint, supported, Bind.bind, Except.bind]
      | some digest =>
        have announces : Announces env proof header (.obj (member :: members)) :=
          ⟨parsed, typed, carried, ⟨member, members, rfl⟩, by rw [supported]; rfl⟩
        exact absurd announces (silent header _)
    · exact ⟨_, rfl⟩

theorem proof_algorithm_ok {alg : String} :
    proofAlgorithm header = .ok alg ↔
      header.lookup "alg" = some (.str alg) ∧ alg ∈ allowedAlgs := by
  constructor
  · intro accepted
    unfold proofAlgorithm at accepted
    split at accepted
    · rename_i own announcedAlg
      split at accepted
      · rename_i allowed
        cases accepted
        exact ⟨announcedAlg, List.contains_iff_mem.1 allowed⟩
      · cases accepted
    · cases accepted
    · cases accepted
    · cases accepted
  · intro ⟨own, allowed⟩
    unfold proofAlgorithm
    rw [own]
    exact if_pos (List.contains_iff_mem.2 allowed)

/-- What the header announces when its checks are passed. -/
theorem announced_ok {key : Announced} (passed : announced env proof = .ok key) :
    ∃ header kind, Announces env proof header key.jwk ∧
      header.lookup "alg" = some (.str key.alg) ∧ key.alg ∈ allowedAlgs ∧
      env.platform.jwt.jwkKind (keyFamily key.alg) key.jwk = .ok kind := by
  by_cases refused : env.platform.jwt.unverifiedHeader proof = .error .invalid
  · simp [announced, refused, throw, throwThe, MonadExceptOf.throw, Bind.bind, Except.bind] at passed
  by_cases announces : ∃ header jwk, Announces env proof header jwk
  · obtain ⟨header, jwk, announces⟩ := announces
    obtain ⟨jkt, same⟩ := announced_eq announces
    rw [same] at passed
    cases algorithm : proofAlgorithm header with
    | error raised => simp [algorithm, Bind.bind, Except.bind] at passed
    | ok alg =>
      rw [algorithm, except_ok_bind] at passed
      cases built : env.platform.jwt.jwkKind (keyFamily alg) jwk with
      | error message => simp [built, throw, throwThe, MonadExceptOf.throw] at passed
      | ok kind =>
        rw [built] at passed
        cases passed
        have own := proof_algorithm_ok.1 algorithm
        exact ⟨header, kind, announces, own.1, own.2, built⟩
  · have silent : ∀ header jwk, ¬ Announces env proof header jwk := by
      intro header jwk found
      exact announces ⟨header, jwk, found⟩
    obtain ⟨description, raised⟩ := announced_refused refused silent
    rw [raised] at passed
    cases passed

end Stages

/-! ### A whole call -/

/-- The last step inserts, or sweeps and raises. -/
theorem recorded_run (env : Env) (accepted : Validated × String) (world : World) :
    (recorded accepted).run env.interp world =
        (.ok accepted.1, (env.interp (.ambient (.checkAndInsert accepted.2)) world).2) ∨
      ∃ later, (recorded accepted).run env.interp world =
          (.error (invalidProof "DPoP proof jti has already been used (replay)"), later) ∧
        ∀ entry ∈ later.process.dpopReplay, entry ∈ world.process.dpopReplay := by
  let outcome := Process.checkAndInsert accepted.2
    (env.platform.monotonic world.process.readings) world.process.dpopReplay
  have decided : (recorded accepted).run env.interp world =
      (if !outcome.1 then do
          throw (invalidProof "DPoP proof jti has already been used (replay)")
        else pure accepted.1 : Service Validated).run env.interp
        (env.interp (.ambient (.checkAndInsert accepted.2)) world).2 := by
    change (if !outcome.1 then _ else _ : Service Validated).run env.interp _ = _
    cases outcome.1 <;> rfl
  cases fresh : outcome.1 with
  | true =>
    left
    rw [decided, fresh]
    rfl
  | false =>
    right
    refine ⟨(env.interp (.ambient (.checkAndInsert accepted.2)) world).2, ?_, ?_⟩
    · rw [decided, fresh]
      rfl
    · intro entry stored
      change entry ∈ outcome.2 at stored
      simp only [outcome, Process.checkAndInsert] at fresh stored
      split at stored
      · exact (List.mem_filter.1 stored).1
      · rename_i absent
        rw [if_neg absent] at fresh
        cases fresh

/-- What a call ends with, from the verdict of its checks. -/
theorem validate_run (env : Env) (proof method url : String) (accessToken : Option String)
    (world : World) :
    (∃ raised later, verdict env proof method url accessToken
          (env.platform.clock world.process.readings)
          (epochSeconds (env.platform.clock (world.process.readings + 1))) = .error raised ∧
        (validateDpopProof env proof method url accessToken).run env.interp world =
          (.error raised, later) ∧
        later.process.dpopReplay = world.process.dpopReplay) ∨
    ∃ accepted reached, verdict env proof method url accessToken
          (env.platform.clock world.process.readings)
          (epochSeconds (env.platform.clock (world.process.readings + 1))) = .ok accepted ∧
        (validateDpopProof env proof method url accessToken).run env.interp world =
          (recorded accepted).run env.interp reached ∧
        reached.process.dpopReplay = world.process.dpopReplay := by
  obtain ⟨later, ran, same⟩ := checked_run env proof method url accessToken world
  rw [validate_eq, run_bind, ran]
  cases decided : verdict env proof method url accessToken
      (env.platform.clock world.process.readings)
      (epochSeconds (env.platform.clock (world.process.readings + 1))) with
  | error raised => exact .inl ⟨raised, later, rfl, rfl, same⟩
  | ok accepted => exact .inr ⟨accepted, later, rfl, rfl, same⟩

end OAuth2Server.ProofRejection
