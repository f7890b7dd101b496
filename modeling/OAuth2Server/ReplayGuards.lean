import OAuth2Server.ExpiringEntries
import OAuth2Server.ReferenceJwt
import OAuth2Server.Runs

/-!
# Assertions and proofs are accepted once

A client assertion, a jwt-bearer assertion and a DPoP proof are valid for a
while, and an entry in the process's memory stands for each one that was
accepted. Whether nothing is accepted twice depends on the entry outliving the
validity, which is judged by another clock. A call happens at one time here;
the monotonic clock is the wall clock up to a constant.
-/

namespace OAuth2Server.ReplayGuards

open OAuth2Server Models JsonText Storage Effects Interaction Interaction.Program Process
open ClientAuth Dpop JwtBearer Validation ExpiringEntries Footprints ReferenceJwt Runs

set_option autoImplicit false

/-- What the memory has been asked during a call. -/
inductive Sighting where
  | nothing
  | assertion (clientId jti : String) (ttlSecs : ℚ) (observed : Observation)
  | proof (jti : String) (fresh : Bool)

/-- A call at `time` asks the memory once at most. -/
@[reducible] def clockwork (time : Nat) : Contract Server Sighting where
  allowed sighting op := match op with
    | .ambient (.observeJti _ _ _) => sighting = .nothing
    | .ambient (.checkAndInsert _) => sighting = .nothing
    | _ => True
  possible op answer := match op, answer with
    | .ambient .now, now => now = (time : Instant)
    | .ambient .time, now => now = epochSeconds time
    | _, _ => True
  after sighting op answer := match op, answer with
    | .ambient (.observeJti clientId jti ttlSecs), observed =>
        .assertion clientId jti ttlSecs observed
    | .ambient (.checkAndInsert jti), fresh => .proof jti fresh
    | _, _ => sighting

/-- What a sighting says about the memory. -/
def Shows (now : ℚ) (before : Process.State) : Sighting → World → Prop
  | .nothing, world =>
      world.process.jtiGuard = before.jtiGuard ∧ world.process.dpopReplay = before.dpopReplay
  | .assertion clientId jti ttlSecs observed, world =>
      observeJti clientId jti ttlSecs now before.jtiGuard = (observed, world.process.jtiGuard) ∧
        world.process.dpopReplay = before.dpopReplay
  | .proof jti fresh, world =>
      checkAndInsert jti now before.dpopReplay = (fresh, world.process.dpopReplay) ∧
        world.process.jtiGuard = before.jtiGuard

section Clockwork

variable {env : Env} {offset : ℚ} {time : Nat} {before : Process.State} {sighting : Sighting}
variable {world : World}

theorem clockwork_sound (env : Env) (offset : ℚ) (time : Nat) :
    (clockwork time).Sound (atTime env offset time).interp := by
  intro op world
  rcases op with read | write | act
  · trivial
  · trivial
  · cases act <;> trivial

/-- Operations that leave both memories alone. -/
def Apart : Op → Prop
  | .ambient (.observeJti _ _ _) => False
  | .ambient (.checkAndInsert _) => False
  | _ => True

theorem apart_keeps (env : Env) (offset : ℚ) (time : Nat) {op : Op} (apart : Apart op)
    (world : World) :
    ((atTime env offset time).interp op world).2.process.jtiGuard = world.process.jtiGuard ∧
      ((atTime env offset time).interp op world).2.process.dpopReplay =
        world.process.dpopReplay := by
  rcases op with read | write | act
  · exact ⟨rfl, rfl⟩
  · exact ⟨rfl, rfl⟩
  · cases act with
    | observeJti clientId jti ttlSecs => exact apart.elim
    | checkAndInsert jti => exact apart.elim
    | checkInvalidClient clientId =>
        simp only [interp_ambient, Ambient.exec]
        split <;> exact ⟨rfl, rfl⟩
    | fetchJwks url =>
        simp only [interp_ambient, Ambient.exec]
        repeat' split
        all_goals exact ⟨rfl, rfl⟩
    | _ => exact ⟨rfl, rfl⟩

theorem shows_apart {op : Op} (apart : Apart op)
    (shows : Shows (epochSeconds time + offset) before sighting world) :
    Shows (epochSeconds time + offset) before sighting
      ((atTime env offset time).interp op world).2 := by
  have ⟨guard, replay⟩ := apart_keeps env offset time apart world
  cases sighting <;> simpa only [Shows, guard, replay] using shows

theorem shows_step (op : Op) (permitted : (clockwork time).allowed sighting op)
    (shows : Shows (epochSeconds time + offset) before sighting world) :
    Shows (epochSeconds time + offset) before
      ((clockwork time).after sighting op ((atTime env offset time).interp op world).1)
      ((atTime env offset time).interp op world).2 := by
  rcases op with read | write | act
  · exact shows_apart trivial shows
  · exact shows_apart trivial shows
  · cases act with
    | observeJti clientId jti ttlSecs =>
        cases permitted
        obtain ⟨guard, replay⟩ := shows
        simp only [interp_ambient, Ambient.exec, Shows, guard]
        exact ⟨rfl, replay⟩
    | checkAndInsert jti =>
        cases permitted
        obtain ⟨guard, replay⟩ := shows
        simp only [interp_ambient, Ambient.exec, Shows, replay]
        exact ⟨rfl, guard⟩
    | _ => exact shows_apart trivial shows

/-- What a call returns and what it leaves in memory. -/
theorem clockwork_run {ε α : Type} {program : Program Server ε α}
    {post : Sighting → Except ε α → Prop} (obeys : Obeys (clockwork time) post .nothing program)
    (env : Env) (offset : ℚ) (world : World) :
    ∃ sighting, post sighting (program.run (atTime env offset time).interp world).1 ∧
      Shows (epochSeconds time + offset) world.process sighting
        (program.run (atTime env offset time).interp world).2 :=
  obeys.run_along (clockwork_sound env offset time) (Shows (epochSeconds time + offset) world.process)
    (fun _ _ => True) (fun _ _ op permitted _ shows => shows_step op permitted shows)
    (along_of_forall _ (fun _ _ => trivial) _ _) ⟨rfl, rfl⟩

end Clockwork

/-! ### What a call has seen when it ends -/

/-- Nothing new was recorded. -/
def Refused : Sighting → Prop
  | .assertion _ _ _ .fresh => False
  | .proof _ true => False
  | _ => True

/-- A value is returned with `good`, an exception with nothing recorded. -/
def Decides {ε α : Type} (good : Sighting → α → Prop) : Sighting → Except ε α → Prop
  | sighting, .ok value => good sighting value
  | sighting, .error _ => Refused sighting

/-- The library has accepted the token at `time`, its expiry included. -/
def Verified (env : Env) (time : Nat) (token : String) (claims : List (String × Json)) : Prop :=
  ∃ key alg options, options.verifyExp = true ∧
    env.platform.jwt.verify token key alg options time = .ok claims

def expiryOf (claims : List (String × Json)) : Option ℚ :=
  (claims.lookup "exp").bind Json.number?

/-- The claims' identifier was recorded for what is left of their lifetime. -/
def Recorded (time : Nat) (clientId : String) (claims : List (String × Json))
    (sighting : Sighting) : Prop :=
  ∃ jti exp, textMember claims "jti" = some jti ∧ expiryOf claims = some exp ∧
    sighting = .assertion clientId jti (max (exp - epochSeconds time) 0) .fresh

section Calls

variable {env : Env} {time : Nat}

theorem obeys_raise_if {α : Type} {good : Sighting → α → Prop} {sighting : Sighting}
    (refused : Refused sighting) {condition : Bool} {error description : String}
    {rest : Unit → Service α}
    (later : condition = false → Obeys (clockwork time) (Decides good) sighting (rest ())) :
    Obeys (clockwork time) (Decides good) sighting
      (raiseIf condition error description >>= rest) := by
  cases condition with
  | true => exact refused
  | false => exact later rfl

theorem obeys_of_except {α β : Type} {good : Sighting → α → Prop} {sighting : Sighting}
    (refused : Refused sighting) (outcome : Except Raised β) {rest : β → Service α}
    (later : ∀ value, outcome = .ok value →
      Obeys (clockwork time) (Decides good) sighting (rest value)) :
    Obeys (clockwork time) (Decides good) sighting (Program.ofExcept outcome >>= rest) := by
  cases outcome with
  | error raised => exact refused
  | ok value => exact later value rfl

theorem obeys_act {ε α : Type} {post : Sighting → Except ε α → Prop} {sighting : Sighting}
    (act : Ambient) {rest : act.Ans → Program Server ε α}
    (permitted : (clockwork time).allowed sighting (.ambient act))
    (later : ∀ answer, (clockwork time).possible (.ambient act) answer →
      Obeys (clockwork time) post ((clockwork time).after sighting (.ambient act) answer)
        (rest answer)) :
    Obeys (clockwork time) post sighting (ambient act >>= rest) :=
  ⟨permitted, later⟩

theorem obeys_enforce_jti_replay (clientId : String) (claims : List (String × Json)) :
    Obeys (clockwork time) (Decides fun sighting _ => Recorded time clientId claims sighting)
      .nothing (enforceJtiReplay clientId claims) := by
  unfold enforceJtiReplay
  split
  · rename_i jti named
    split
    · rename_i exp given
      refine obeys_act _ trivial fun now reads => ?_
      split
      · rename_i number finite
        refine obeys_act _ rfl fun observed _ => ?_
        cases observed with
        | full => trivial
        | replayed => trivial
        | fresh =>
            refine ⟨jti, number, (Option.filter_eq_some_iff.1 named).1, ?_, ?_⟩
            · unfold expiryOf
              rw [(Option.filter_eq_some_iff.1 given).1]
              exact (Option.filter_eq_some_iff.1 finite).1
            · cases reads
              rfl
      · trivial
    · trivial
  · trivial

/-- An accepted client assertion: verified, in the name of the client, and
recorded. -/
structure Authenticates (env : Env) (time : Nat) (assertion clientId : String)
    (claims : List (String × Json)) (sighting : Sighting) : Prop where
  verified : Verified env time assertion claims
  issuer : textMember claims "iss" = some clientId
  recorded : Recorded time clientId claims sighting

theorem obeys_validate_client_assertion (client : Client) (assertion url : String)
    (jwks : Option Json) :
    Obeys (clockwork time)
      (Decides fun sighting _ => ∃ claims,
        Authenticates env time assertion client.clientId claims sighting)
      .nothing (validateClientAssertion env client assertion url jwks) := by
  unfold validateClientAssertion
  extract_lets method
  split
  · rename_i alg pinned
    split
    · rename_i header shaped
      refine obeys_raise_if (by trivial) fun _ => ?_
      extract_lets verifies
      have decided : ∀ key, Obeys (clockwork time)
          (Decides fun sighting _ => ∃ claims,
            Authenticates env time assertion client.clientId claims sighting)
          .nothing (verifies key) := by
        intro key
        refine obeys_act _ trivial fun now reads => ?_
        cases reads
        dsimp only
        split
        · trivial
        · trivial
        · rename_i claims accepted
          refine obeys_raise_if (by trivial) fun named => ?_
          have issuer : textMember claims "iss" = some client.clientId := by
            simp only [Bool.or_eq_false_iff, bne_eq_false_iff_eq] at named
            exact named.1
          refine (obeys_enforce_jti_replay client.clientId claims).mono ?_
          intro sighting outcome decides
          cases outcome with
          | error raised => exact decides
          | ok value => exact ⟨claims, ⟨_, _, _, rfl, accepted⟩, issuer, decides⟩
      split
      · exact decided _
      · exact obeys_of_except (by trivial) _ fun key _ => decided key
    · trivial
  · trivial

/-! ### jwt-bearer assertions -/

/-- `redeem_jwt_bearer_assertion` up to and including its replay check. -/
def admitAssertion (env : Env) (assertion : String) (client : Client) :
    Service (TrustedIssuer × List (String × Json)) := do
  let (trusted, iss, claims) ← checkAssertion env assertion client
  enforceReplay iss claims
  pure (trusted, claims)

theorem redeem_eq_admission (assertion : String) (client : Client) :
    redeemJwtBearerAssertion env assertion client =
      admitAssertion env assertion client >>= fun admitted =>
        resolveSubject env admitted.1 admitted.2 := by
  unfold redeemJwtBearerAssertion admitAssertion
  simp only [bind_assoc, pure_bind]

/-- An admitted assertion: verified, short-lived, and recorded under its issuer. -/
structure Admits (env : Env) (time : Nat) (assertion : String) (claims : List (String × Json))
    (sighting : Sighting) : Prop where
  verified : Verified env time assertion claims
  named : ∃ unverified iss, env.platform.jwt.unverifiedClaims assertion = some unverified ∧
    textMember unverified "iss" = some iss ∧ Recorded time (guardName iss) claims sighting
  short : ∀ exp, expiryOf claims = some exp → exp - epochSeconds time ≤ maxJtiTtlSecs

theorem numeric_date_number {claims : List (String × Json)} {name : String} {value : ℚ}
    (numeric : numericDate claims name = .ok value) :
    (claims.lookup name).bind Json.number? = some value := by
  unfold numericDate at numeric
  split at numeric
  · rename_i number found
    split at numeric
    · cases numeric
    · cases numeric
      rw [found]
      rfl
  · rename_i number found
    cases numeric
    rw [found]
    rfl
  · cases numeric
  · cases numeric

theorem obeys_enforce_replay (iss : String) (claims : List (String × Json)) :
    Obeys (clockwork time)
      (Decides fun sighting _ => Recorded time (guardName iss) claims sighting ∧
        ∀ exp, expiryOf claims = some exp → exp - epochSeconds time ≤ maxJtiTtlSecs)
      .nothing (enforceReplay iss claims) := by
  unfold enforceReplay
  split
  · rename_i jti named
    refine obeys_of_except (by trivial) _ fun exp numeric => ?_
    refine obeys_act _ trivial fun now reads => ?_
    cases reads
    refine obeys_raise_if (by trivial) fun bounded => ?_
    refine obeys_act _ rfl fun observed _ => ?_
    cases observed with
    | full => trivial
    | replayed => trivial
    | fresh =>
        have date := numeric_date_number numeric
        refine ⟨⟨jti, exp, (Option.filter_eq_some_iff.1 named).1, date, rfl⟩, ?_⟩
        intro other given
        cases date.symm.trans given
        have within : max (exp - epochSeconds time) 0 ≤ maxJtiTtlSecs := by simpa using bounded
        exact (le_max_left _ _).trans within
  · trivial

theorem obeys_verify_assertion (assertion : String) (trusted : TrustedIssuer)
    (header : List (String × Json)) :
    Obeys (clockwork time)
      (Decides fun sighting claims => sighting = .nothing ∧ Verified env time assertion claims)
      .nothing (verifyAssertion env assertion trusted header) := by
  unfold verifyAssertion
  split
  · rename_i alg allowed
    refine obeys_act _ trivial fun fetched _ => ?_
    cases fetched with
    | error description => cases description <;> trivial
    | ok document =>
        refine obeys_of_except (by trivial) _ fun key _ => ?_
        split
        · refine obeys_act _ trivial fun now reads => ?_
          cases reads
          dsimp only
          split
          · rename_i claims accepted
            exact ⟨rfl, _, _, _, rfl, accepted⟩
          · trivial
          · trivial
        · trivial
  · trivial

theorem unverified_issuer {assertion : String} {header : List (String × Json)} {iss : String}
    (read : unverifiedHeaderAndIss env assertion = .ok (header, iss)) :
    ∃ unverified, env.platform.jwt.unverifiedClaims assertion = some unverified ∧
      textMember unverified "iss" = some iss := by
  unfold unverifiedHeaderAndIss at read
  simp only [Bind.bind, Except.bind, Pure.pure, Except.pure, throw, throwThe,
    MonadExceptOf.throw] at read
  repeat' split at read
  all_goals cases read
  rename_i found _ _ named
  exact ⟨_, found, (Option.filter_eq_some_iff.1 named).1⟩

theorem obeys_check_assertion (assertion : String) (client : Client) :
    Obeys (clockwork time)
      (Decides fun sighting checked => sighting = .nothing ∧
        Verified env time assertion checked.2.2 ∧
        ∃ unverified, env.platform.jwt.unverifiedClaims assertion = some unverified ∧
          textMember unverified "iss" = some checked.2.1)
      .nothing (checkAssertion env assertion client) := by
  unfold checkAssertion
  refine obeys_of_except (by trivial) _ fun unverified read => ?_
  have issuer := unverified_issuer read
  refine ⟨trivial, fun found _ => ?_⟩
  cases found with
  | none => trivial
  | some trusted =>
      refine obeys_raise_if (by trivial) fun _ => ?_
      split
      · refine obeys_raise_if (by trivial) fun _ => ?_
        refine obeys_raise_if (by trivial) fun _ => ?_
        rw [obeys_bind]
        refine (obeys_verify_assertion assertion trusted unverified.1).mono ?_
        intro sighting outcome decides
        cases outcome with
        | error raised => exact decides
        | ok claims =>
            obtain ⟨rfl, verified⟩ := decides
            refine obeys_of_except (by trivial) _ fun iat _ => ?_
            refine obeys_act _ trivial fun now _ => ?_
            refine obeys_raise_if (by trivial) fun _ => ?_
            exact ⟨rfl, verified, issuer⟩
      · trivial

theorem obeys_admit_assertion (assertion : String) (client : Client) :
    Obeys (clockwork time)
      (Decides fun sighting admitted => Admits env time assertion admitted.2 sighting)
      .nothing (admitAssertion env assertion client) := by
  unfold admitAssertion
  rw [obeys_bind]
  refine (obeys_check_assertion assertion client).mono ?_
  intro sighting outcome decides
  cases outcome with
  | error raised => exact decides
  | ok checked =>
      obtain ⟨trusted, iss, claims⟩ := checked
      obtain ⟨rfl, verified, unverified, read, issuer⟩ := decides
      refine obeys_bind.2 ((obeys_enforce_replay iss claims).mono ?_)
      intro sighting outcome decides
      cases outcome with
      | error raised => exact decides
      | ok value =>
          exact ⟨verified, ⟨unverified, iss, read, issuer, decides.1⟩, decides.2⟩

/-! ### DPoP proofs -/

/-- An accepted proof: verified, with `iat` in the window, and recorded. -/
def Accepts (env : Env) (time : Nat) (proof : String) (sighting : Sighting) : Prop :=
  ∃ claims key alg options iat jti,
    env.platform.jwt.verify proof key alg options time = .ok claims ∧
    claims.lookup "iat" = some iat ∧ iatInWindow iat (epochSeconds time) = .ok () ∧
    claims.lookup "jti" = some jti ∧ sighting = .proof (pyStr env jti) true

theorem obeys_validate_dpop_proof (env : Env) (proof method url : String)
    (accessToken : Option String) :
    Obeys (clockwork time) (Decides fun sighting _ => Accepts env time proof sighting)
      .nothing (validateDpopProof env proof method url accessToken) := by
  unfold validateDpopProof
  split
  case h_2 => trivial
  case h_3 => trivial
  rename_i header shaped
  simp only [pure_eq_done, done_bind]
  split
  · trivial
  · split
    · rename_i member members embedded
      refine obeys_of_except (by trivial) _ fun jkt _ => ?_
      refine obeys_of_except (by trivial) _ fun alg _ => ?_
      split
      · trivial
      · refine obeys_act _ trivial fun now reads => ?_
        cases reads
        dsimp only
        split
        · rename_i claims accepted
          refine obeys_of_except (by trivial) _ fun _ _ => ?_
          split
          · rename_i iat dated
            refine obeys_act _ trivial fun now reads => ?_
            cases reads
            refine obeys_of_except (by trivial) _ fun _ window => ?_
            refine obeys_of_except (by trivial) _ fun nonce _ => ?_
            split
            · rename_i jti named
              refine obeys_act _ rfl fun fresh _ => ?_
              cases fresh with
              | false => trivial
              | true => exact ⟨claims, _, _, _, iat, jti, accepted, dated, window, named, rfl⟩
            · trivial
          · trivial
        · trivial
        · trivial
    · trivial

end Calls

/-! ### The memories, call by call -/

section Memory

variable {guard later : Dict ℚ} {now limit ttlSecs : ℚ} {clientId jti key : String}

/-- What one call can do to a memory. -/
def Moves (now : ℚ) (guard later : Dict ℚ) : Prop :=
  later = guard ∨ ∃ more, later = sweep now guard ++ more

theorem Moves.covers (moves : Moves now guard later) (early : now < limit)
    (covers : Covers guard key limit) : Covers later key limit := by
  rcases moves with rfl | ⟨more, rfl⟩
  · exact covers
  · exact (covers.sweep early).append more

/-- An entry is dropped only once it has expired. -/
theorem Moves.keeps (moves : Moves now guard later) {entry : String × ℚ} (member : entry ∈ guard)
    (unexpired : now < entry.2) : entry ∈ later := by
  rcases moves with rfl | ⟨more, rfl⟩
  · exact member
  · exact List.mem_append_left _ (mem_sweep.2 ⟨member, unexpired⟩)

theorem observe_moves {observed : Observation}
    (sees : observeJti clientId jti ttlSecs now guard = (observed, later)) :
    Moves now guard later := by
  unfold observeJti at sees
  dsimp only at sees
  split at sees
  · cases sees
    exact Or.inr ⟨[], (List.append_nil _).symm⟩
  · split at sees
    · cases sees
      exact Or.inr ⟨[], (List.append_nil _).symm⟩
    · cases sees
      exact Or.inr ⟨_, rfl⟩

/-- A recorded identifier is new, there is room for it, and it is kept. -/
theorem observe_fresh (sees : observeJti clientId jti ttlSecs now guard = (.fresh, later)) :
    Dict.contains (sweep now guard) (jtiKey clientId jti) = false ∧
      (sweep now guard).length < defaultMaxEntries ∧
      later = sweep now guard ++ [(jtiKey clientId jti, now + min (max ttlSecs 0) maxJtiTtlSecs)] := by
  unfold observeJti at sees
  dsimp only at sees
  split at sees
  · cases sees
  · rename_i absent
    split at sees
    · cases sees
    · rename_i room
      cases sees
      exact ⟨Bool.eq_false_iff.2 absent, not_le.1 room, rfl⟩

theorem check_and_insert_moves {fresh : Bool} (sees : checkAndInsert jti now guard = (fresh, later)) :
    Moves now guard later := by
  unfold checkAndInsert at sees
  dsimp only at sees
  split at sees
  · cases sees
    exact Or.inr ⟨[], (List.append_nil _).symm⟩
  · cases sees
    exact Or.inr ⟨_, rfl⟩

theorem check_and_insert_fresh (sees : checkAndInsert jti now guard = (true, later)) :
    Dict.contains (sweep now guard) jti = false ∧
      later = sweep now guard ++ [(jti, now + replayTtlSecs)] := by
  unfold checkAndInsert at sees
  dsimp only at sees
  split at sees
  · cases sees
  · rename_i absent
    cases sees
    exact ⟨Bool.eq_false_iff.2 absent, rfl⟩

theorem not_covered (absent : Dict.contains (sweep now guard) key = false) (early : now < limit) :
    ¬Covers guard key limit := by
  intro covers
  have present := (covers.sweep early).any
  unfold Dict.contains at absent
  rw [absent] at present
  cases present

end Memory

/-! ### Runs of calls -/

/-- A call at a time, in a world that may have changed in any way since the
last call but for the shared memory. -/
structure Timed (Call : Type) where
  time : Nat
  world : World
  call : Call

/-- The calls come in the order of their times. -/
def InOrder {Call : Type} (calls : List (Timed Call)) : Prop :=
  calls.Pairwise fun earlier later => earlier.time ≤ later.time

instance {Call : Type} (calls : List (Timed Call)) : Decidable (InOrder calls) :=
  inferInstanceAs (Decidable (calls.Pairwise fun earlier later => earlier.time ≤ later.time))

section Runs

variable {Call : Type} {step : Dict ℚ → Timed Call → Dict ℚ} {offset : ℚ}

/-- The memory that the call at `index` finds. -/
def memoryBefore (step : Dict ℚ → Timed Call → Dict ℚ) (memory : Dict ℚ)
    (calls : List (Timed Call)) (index : Nat) : Dict ℚ :=
  (calls.take index).foldl step memory

/-- What each call, made before `limit`, does to the memory keeps a key covered. -/
theorem covers_along {key : String} {limit : ℚ}
    (moves : ∀ memory call, Moves (epochSeconds call.time + offset) memory (step memory call))
    (calls : List (Timed Call)) (early : ∀ call ∈ calls, epochSeconds call.time < limit)
    (memory : Dict ℚ) (covers : Covers memory key (limit + offset)) :
    Covers (calls.foldl step memory) key (limit + offset) := by
  induction calls generalizing memory with
  | nil => exact covers
  | cons call rest induction =>
      have before : epochSeconds call.time + offset < limit + offset := by
        have now := early call List.mem_cons_self
        linarith
      have next := (moves memory call).covers before covers
      exact induction (fun other member => early other (List.mem_cons_of_mem _ member)) _ next

theorem epoch_mono {earlier later : Nat} (order : earlier ≤ later) :
    epochSeconds earlier ≤ epochSeconds later := by
  have cast : (earlier : ℚ) ≤ later := by exact_mod_cast order
  unfold epochSeconds
  push_cast
  linarith

/-- A key covered by one call of a run is still covered when a later call,
made before `limit`, looks for it. -/
theorem covers_until {calls : List (Timed Call)} {memory : Dict ℚ} {index other : Nat}
    {first second : Timed Call} {key : String} {limit : ℚ}
    (moves : ∀ memory call, Moves (epochSeconds call.time + offset) memory (step memory call))
    (ordered : InOrder calls) (order : index < other) (atIndex : calls[index]? = some first)
    (atOther : calls[other]? = some second) (early : epochSeconds second.time < limit)
    (covers : Covers (step (memoryBefore step memory calls index) first) key (limit + offset)) :
    Covers (memoryBefore step memory calls other) key (limit + offset) := by
  obtain ⟨inside, rfl⟩ := List.getElem?_eq_some_iff.1 atIndex
  obtain ⟨bound, rfl⟩ := List.getElem?_eq_some_iff.1 atOther
  have split : calls.take other =
      calls.take index ++ calls[index] :: (calls.take other).drop (index + 1) := by
    have length : index < (calls.take other).length := by simp; omega
    have parts := List.take_append_drop index (calls.take other)
    rw [List.drop_eq_getElem_cons length, List.take_take, min_eq_left order.le,
      List.getElem_take] at parts
    exact parts.symm
  unfold memoryBefore
  rw [split, List.foldl_append, List.foldl_cons]
  refine covers_along moves _ ?_ _ covers
  intro call member
  obtain ⟨place, within, rfl⟩ := List.mem_iff_getElem.1 (List.mem_of_mem_drop member)
  have below : place < other := by
    rw [List.length_take] at within
    omega
  rw [List.getElem_take]
  have later := List.pairwise_iff_getElem.1 ordered place other (by omega) bound below
  exact lt_of_le_of_lt (epoch_mono later) early

end Runs

/-! ### Assertions -/

/-- The calls that share the `JtiReplayGuard`. -/
inductive AssertionCall where
  | authenticate (client : Client) (assertion tokenEndpointUrl : String) (jwks : Option Json)
  | redeem (assertion : String) (client : Client)

def AssertionCall.program (env : Env) : AssertionCall → Service Unit
  | .authenticate client assertion url jwks => validateClientAssertion env client assertion url jwks
  | .redeem assertion client => discard (redeemJwtBearerAssertion env assertion client)

/-- A call up to and including its replay check. -/
def AssertionCall.gate (env : Env) : AssertionCall → Service Unit
  | .authenticate client assertion url jwks => validateClientAssertion env client assertion url jwks
  | .redeem assertion client => discard (admitAssertion env assertion client)

/-- The world a call is made in, with the memory as it is. -/
def withGuard (guard : Dict ℚ) (world : World) : World :=
  { world with process := { world.process with jtiGuard := guard } }

/-- The guard after a call. -/
def guardAfter (env : Env) (offset : ℚ) (guard : Dict ℚ) (call : Timed AssertionCall) : Dict ℚ :=
  ((call.call.program (atTime env offset call.time)).run (atTime env offset call.time).interp
    (withGuard guard call.world)).2.process.jtiGuard

/-- The call gets past its replay check. -/
def Passes (env : Env) (offset : ℚ) (guard : Dict ℚ) (call : Timed AssertionCall) : Prop :=
  ∃ later, (call.call.gate (atTime env offset call.time)).run (atTime env offset call.time).interp
    (withGuard guard call.world) = (.ok (), later)

section Subjects

theorem uses_apart_denylist {ε : Type} (raises : ε → Prop) (kind value : String) :
    Uses (S := Server) Apart raises (checkSubjectDenylisted kind value) := by
  unfold checkSubjectDenylisted findDenylistEntry
  split
  · trivial
  · refine ⟨trivial, fun found => ?_⟩
    cases found with
    | none => trivial
    | some entry =>
        obtain ⟨id, kind, value, reason, createdBy, createdAt, expiresAt⟩ := entry
        cases expiresAt with
        | none => trivial
        | some expiresAt => exact ⟨trivial, fun _ => trivial⟩

theorem uses_apart_reject (username email : String) :
    Uses (S := Server) Apart Any (rejectIfDenylisted username email) := by
  unfold rejectIfDenylisted
  refine (uses_apart_denylist Any _ _).bind fun byName => ?_
  refine Uses.bind (uses_raise_if _ _ _ trivial) fun _ => ?_
  refine (uses_apart_denylist Any _ _).bind fun byEmail => ?_
  exact uses_raise_if _ _ _ trivial

theorem uses_apart_provision (sub : String) (claims : List (String × Json)) :
    Uses (S := Server) Apart Any (provision sub claims) := by
  unfold provision
  generalize verifiedEmail claims = verified
  refine (uses_apart_reject _ _).bind fun _ => ?_
  refine Uses.bind (uses_ambient _ trivial) fun now => ?_
  refine Uses.bind (uses_ambient _ trivial) fun secret => ?_
  refine Uses.bind (uses_ambient _ trivial) fun passwordHash => ?_
  refine Uses.bind (uses_command _ trivial) fun saved => ?_
  cases saved with
  | ok value => trivial
  | error failure =>
      refine Uses.bind (uses_query _ trivial) fun found => ?_
      cases found with
      | none => trivial
      | some raced =>
          refine Uses.bind (uses_raise_if _ _ _ trivial) fun _ => ?_
          exact (uses_apart_reject _ _).bind fun _ => trivial

theorem uses_apart_account_by_email (env : Env) (claims : List (String × Json)) :
    Uses (S := Server) Apart Any (accountByEmail env claims) := by
  unfold accountByEmail
  generalize Text.strip _ = email
  generalize verifiedEmail claims = verified
  refine Uses.bind (uses_raise_if _ _ _ trivial) fun _ => ?_
  refine Uses.bind (uses_raise_if _ _ _ trivial) fun _ => ?_
  refine Uses.bind (uses_query _ trivial) fun candidates => ?_
  exact Uses.bind (uses_raise_if _ _ _ trivial) fun _ => trivial

theorem uses_apart_resolve_subject (env : Env) (trusted : TrustedIssuer)
    (claims : List (String × Json)) :
    Uses (S := Server) Apart Any (resolveSubject env trusted claims) := by
  unfold resolveSubject
  split
  · rename_i sub named
    extract_lets byEmail decide
    clear_value byEmail
    have decided : ∀ existing, Uses (S := Server) Apart Any (decide existing) := by
      intro existing
      cases existing with
      | some user =>
          refine Uses.bind (uses_raise_if _ _ _ trivial) fun _ => ?_
          exact (uses_apart_reject _ _).bind fun _ => trivial
      | none =>
          refine Uses.bind (uses_raise_if _ _ _ trivial) fun _ => ?_
          refine Uses.bind (uses_raise_if _ _ _ trivial) fun _ => ?_
          exact uses_apart_provision sub claims
    split
    · have looked := uses_apart_account_by_email env claims
      generalize accountByEmail env claims = lookup at looked ⊢
      exact looked.bind decided
    · refine Uses.bind (uses_query _ trivial) ?_
      exact decided
  · trivial

end Subjects

def AssertionCall.assertion : AssertionCall → String
  | .authenticate _ assertion _ _ => assertion
  | .redeem assertion _ => assertion

/-- The name an assertion with these claims is recorded under. -/
def AssertionCall.owner (claims : List (String × Json)) : AssertionCall → Option String
  | .authenticate .. => textMember claims "iss"
  | .redeem .. => (textMember claims "iss").map guardName

section Gate

variable {env : Env} {offset : ℚ} {guard : Dict ℚ} {time : Nat}

theorem obeys_discard {ε α : Type} {program : Program Server ε α}
    {post : Sighting → Except ε Unit → Prop} {sighting : Sighting}
    (obeys : Obeys (clockwork time) (fun sighting outcome => post sighting (outcome.map fun _ => ()))
      sighting program) :
    Obeys (clockwork time) post sighting (discard program) := by
  refine obeys_bind.2 (obeys.mono ?_)
  intro sighting outcome holds
  cases outcome <;> exact holds

/-- A call that gets past its replay check has had its assertion verified and
recorded. -/
theorem obeys_gate (env : Env) (checks : ChecksExpiry env.platform.jwt) (call : AssertionCall) :
    Obeys (clockwork time)
      (Decides fun sighting _ => ∃ claims owner, Verified env time call.assertion claims ∧
        call.owner claims = some owner ∧ Recorded time owner claims sighting ∧
        ∀ assertion client, call = .redeem assertion client →
          ∀ exp, expiryOf claims = some exp → exp - epochSeconds time ≤ maxJtiTtlSecs)
      .nothing (call.gate env) := by
  cases call with
  | authenticate client assertion url jwks =>
      refine (obeys_validate_client_assertion client assertion url jwks).mono ?_
      intro sighting outcome decides
      cases outcome with
      | error raised => exact decides
      | ok value =>
          obtain ⟨claims, verified, issuer, recorded⟩ := decides
          refine ⟨claims, client.clientId, verified, issuer, recorded, ?_⟩
          intro _ _ other
          cases other
  | redeem assertion client =>
      apply obeys_discard
      refine (obeys_admit_assertion assertion client).mono ?_
      intro sighting outcome decides
      cases outcome with
      | error raised => exact decides
      | ok admitted =>
          obtain ⟨verified, ⟨unverified, iss, read, issuer, recorded⟩, short⟩ := decides
          have ⟨_, _, _, _, accepted⟩ := verified
          have same := checks.payload _ _ _ _ _ _ accepted
          rw [read] at same
          cases same
          refine ⟨admitted.2, guardName iss, verified, ?_, recorded, fun _ _ _ => short⟩
          simp only [AssertionCall.owner, issuer, Option.map_some]

/-- What follows the replay check leaves the guard alone. -/
theorem guard_after_gate (env : Env) (offset : ℚ) (guard : Dict ℚ) (call : Timed AssertionCall) :
    guardAfter env offset guard call =
      ((call.call.gate (atTime env offset call.time)).run (atTime env offset call.time).interp
        (withGuard guard call.world)).2.process.jtiGuard := by
  obtain ⟨time, world, call⟩ := call
  cases call with
  | authenticate client assertion url jwks => rfl
  | redeem assertion client =>
      unfold guardAfter AssertionCall.program AssertionCall.gate
      dsimp only
      rw [redeem_eq_admission]
      have dropped {α : Type} (program : Service α) (world : World) :
          ((discard program).run (atTime env offset time).interp world).2 =
            (program.run (atTime env offset time).interp world).2 :=
        congrArg Prod.snd (run_map _ _ program world)
      rw [dropped, dropped, run_bind]
      generalize (admitAssertion (atTime env offset time) assertion client).run
        (atTime env offset time).interp (withGuard guard world) = outcome
      rcases outcome with ⟨error | ⟨trusted, claims⟩, reached⟩
      · rfl
      · have uses := uses_apart_resolve_subject (atTime env offset time) trusted claims
        refine uses.run_keeps (fun later : World =>
          later.process.jtiGuard = reached.process.jtiGuard) ?_ rfl
        intro op world apart same
        exact (apart_keeps env offset time apart world).1.trans same

/-- What a passing call has found and left. -/
structure Pass (env : Env) (offset : ℚ) (guard : Dict ℚ) (call : Timed AssertionCall)
    (claims : List (String × Json)) (owner jti : String) (exp : ℚ) : Prop where
  payload : env.platform.jwt.unverifiedClaims call.call.assertion = some claims
  owned : call.call.owner claims = some owner
  named : textMember claims "jti" = some jti
  expiry : expiryOf claims = some exp
  unexpired : epochSeconds call.time < exp
  recorded : observeJti owner jti (exp - epochSeconds call.time) (epochSeconds call.time + offset)
    guard = (.fresh, guardAfter env offset guard call)
  short : ∀ assertion client, call.call = .redeem assertion client →
    exp - epochSeconds call.time ≤ maxJtiTtlSecs

theorem pass_of_passes (checks : ChecksExpiry env.platform.jwt) {call : Timed AssertionCall}
    (passes : Passes env offset guard call) :
    ∃ claims owner jti exp, Pass env offset guard call claims owner jti exp := by
  have after := guard_after_gate env offset guard call
  obtain ⟨later, passes⟩ := passes
  obtain ⟨sighting, decides, shows⟩ := clockwork_run
    (obeys_gate (atTime env offset call.time) checks call.call) env offset
    (withGuard guard call.world)
  rw [passes] at decides shows after
  obtain ⟨claims, owner, ⟨key, alg, options, checked, verified⟩, owned, recorded, short⟩ := decides
  obtain ⟨jti, exp, named, expiry, rfl⟩ := recorded
  have early := checks.expiry _ _ _ _ _ _ _ verified checked expiry
  have positive : 0 ≤ epochSeconds call.time := by
    unfold epochSeconds
    positivity
  have unexpired := lt_of_lt_truncated positive early
  have left : max (exp - epochSeconds call.time) 0 = exp - epochSeconds call.time :=
    max_eq_left (by linarith)
  refine ⟨claims, owner, jti, exp, checks.payload _ _ _ _ _ _ verified, owned, named, expiry,
    unexpired, ?_, fun assertion client redeems => short assertion client redeems exp expiry⟩
  rw [after, ← left]
  exact shows.1

/-- Any call sweeps the guard or leaves it. -/
theorem guard_moves (checks : ChecksExpiry env.platform.jwt) (guard : Dict ℚ)
    (call : Timed AssertionCall) :
    Moves (epochSeconds call.time + offset) guard (guardAfter env offset guard call) := by
  have after := guard_after_gate env offset guard call
  obtain ⟨sighting, -, shows⟩ := clockwork_run
    (obeys_gate (atTime env offset call.time) checks call.call) env offset
    (withGuard guard call.world)
  rw [after]
  cases sighting with
  | nothing => exact Or.inl shows.1
  | assertion clientId jti ttlSecs observed => exact observe_moves shows.1
  | proof jti fresh => exact Or.inl shows.2

section Pass

variable {claims : List (String × Json)} {owner jti : String} {exp : ℚ}
variable {call : Timed AssertionCall}

theorem Pass.absent (pass : Pass env offset guard call claims owner jti exp) :
    Dict.contains (sweep (epochSeconds call.time + offset) guard) (jtiKey owner jti) = false :=
  (observe_fresh pass.recorded).1

theorem Pass.room (pass : Pass env offset guard call claims owner jti exp) :
    (sweep (epochSeconds call.time + offset) guard).length < defaultMaxEntries :=
  (observe_fresh pass.recorded).2.1

/-- An assertion presented at most 300 seconds before it expires is kept until
then. -/
theorem Pass.covers (pass : Pass env offset guard call claims owner jti exp)
    (soon : exp - epochSeconds call.time ≤ maxJtiTtlSecs) :
    Covers (guardAfter env offset guard call) (jtiKey owner jti) (exp + offset) := by
  rw [(observe_fresh pass.recorded).2.2]
  apply covers_appended
  have positive : 0 ≤ exp - epochSeconds call.time := by linarith [pass.unexpired]
  have whole : min (max (exp - epochSeconds call.time) 0) maxJtiTtlSecs =
      exp - epochSeconds call.time := by
    rw [max_eq_left positive, min_eq_left soon]
  rw [whole]
  linarith

/-- A key that is covered is not admitted again before the time it is covered to. -/
theorem Pass.not_early (pass : Pass env offset guard call claims owner jti exp) {limit : ℚ}
    (covers : Covers guard (jtiKey owner jti) (limit + offset)) :
    limit ≤ epochSeconds call.time := by
  by_contra early
  have before : epochSeconds call.time + offset < limit + offset := by linarith
  exact not_covered pass.absent before covers

end Pass

end Gate

/-! ### Runs of assertions -/

/-- The call at `index` of a run gets past its replay check. -/
def PassesAt (env : Env) (offset : ℚ) (guard : Dict ℚ) (calls : List (Timed AssertionCall))
    (index : Nat) (call : Timed AssertionCall) : Prop :=
  calls[index]? = some call ∧
    Passes env offset (memoryBefore (guardAfter env offset) guard calls index) call

/-- The call raises an error. -/
def Fails (env : Env) (offset : ℚ) (guard : Dict ℚ) (call : Timed AssertionCall) : Prop :=
  ∃ raised, ((call.call.program (atTime env offset call.time)).run
    (atTime env offset call.time).interp (withGuard guard call.world)).1 = .error raised

section Assertions

variable {env : Env} {offset : ℚ} {guard : Dict ℚ} {calls : List (Timed AssertionCall)}
variable {index other : Nat} {first second : Timed AssertionCall}

theorem fails_of_not_passes {call : Timed AssertionCall} (stopped : ¬Passes env offset guard call) :
    Fails env offset guard call := by
  obtain ⟨time, world, call⟩ := call
  unfold Fails
  generalize ran : (call.program (atTime env offset time)).run (atTime env offset time).interp
    (withGuard guard world) = outcome
  rcases outcome with ⟨raised | value, later⟩
  · exact ⟨raised, rfl⟩
  · refine absurd ?_ stopped
    cases call with
    | authenticate client assertion url jwks => exact ⟨later, ran⟩
    | redeem assertion client =>
        have redeemed : ∃ user, (redeemJwtBearerAssertion (atTime env offset time) assertion
            client).run (atTime env offset time).interp (withGuard guard world) =
              (.ok user, later) := by
          have mapped := (run_map (atTime env offset time).interp (fun _ => ())
            (redeemJwtBearerAssertion (atTime env offset time) assertion client)
            (withGuard guard world)).symm.trans ran
          generalize (redeemJwtBearerAssertion (atTime env offset time) assertion client).run
            (atTime env offset time).interp (withGuard guard world) = outcome at mapped ⊢
          rcases outcome with ⟨raised | user, reached⟩
          · cases mapped
          · cases mapped
            exact ⟨user, rfl⟩
        obtain ⟨user, ok⟩ := redeemed
        rw [redeem_eq_admission] at ok
        obtain ⟨admitted, reached, passed, -⟩ := run_bind_eq_ok ok
        refine ⟨reached, ?_⟩
        exact (run_map _ _ _ _).trans (by rw [passed]; rfl)

/-- Of two calls that pass under one key, the second comes after the first
one's assertion has expired, if that one was kept until then. -/
theorem later_pass_expired (checks : ChecksExpiry env.platform.jwt) (ordered : InOrder calls)
    (order : index < other) {claims claims' : List (String × Json)} {owner jti : String}
    {exp exp' : ℚ} (atIndex : calls[index]? = some first) (atOther : calls[other]? = some second)
    (pass : Pass env offset (memoryBefore (guardAfter env offset) guard calls index) first
      claims owner jti exp)
    (again : Pass env offset (memoryBefore (guardAfter env offset) guard calls other) second
      claims' owner jti exp')
    (soon : exp - epochSeconds first.time ≤ maxJtiTtlSecs) :
    exp ≤ epochSeconds second.time := by
  by_contra early
  have covers := covers_until (guard_moves checks) ordered order atIndex atOther (not_le.1 early)
    (pass.covers soon)
  exact early (again.not_early covers)

/-- A claim of the assertion, as anyone can read it. -/
def claimed (env : Env) (assertion name : String) : Option String :=
  (env.platform.jwt.unverifiedClaims assertion).bind fun claims => textMember claims name

def expiresAt (env : Env) (assertion : String) : Option ℚ :=
  (env.platform.jwt.unverifiedClaims assertion).bind expiryOf

/-- The call at `index` redeems the assertion at `time`. -/
def RedeemsAt (env : Env) (offset : ℚ) (guard : Dict ℚ) (calls : List (Timed AssertionCall))
    (index : Nat) (assertion : String) (time : Nat) : Prop :=
  ∃ world client, PassesAt env offset guard calls index ⟨time, world, .redeem assertion client⟩

/-- The call at `index` authenticates a client by the assertion at `time`. -/
def AuthenticatesAt (env : Env) (offset : ℚ) (guard : Dict ℚ) (calls : List (Timed AssertionCall))
    (index : Nat) (assertion : String) (time : Nat) : Prop :=
  ∃ world client url jwks,
    PassesAt env offset guard calls index ⟨time, world, .authenticate client assertion url jwks⟩

theorem redeemed_again_expired (checks : ChecksExpiry env.platform.jwt) (ordered : InOrder calls)
    (order : index < other) {assertion assertion' : String} {time time' : Nat} {exp : ℚ}
    (redeems : RedeemsAt env offset guard calls index assertion time)
    (again : RedeemsAt env offset guard calls other assertion' time')
    (issuer : claimed env assertion "iss" = claimed env assertion' "iss")
    (identifier : claimed env assertion "jti" = claimed env assertion' "jti")
    (expiry : expiresAt env assertion = some exp) : exp ≤ epochSeconds time' := by
  obtain ⟨world, client, atIndex, passes⟩ := redeems
  obtain ⟨world', client', atOther, passes'⟩ := again
  obtain ⟨claims, owner, jti, limit, pass⟩ := pass_of_passes checks passes
  obtain ⟨claims', owner', jti', limit', pass'⟩ := pass_of_passes checks passes'
  have payload := pass.payload
  have payload' := pass'.payload
  dsimp only [AssertionCall.assertion] at payload payload'
  unfold claimed at issuer identifier
  unfold expiresAt at expiry
  rw [payload, payload', Option.bind_some, Option.bind_some] at issuer identifier
  rw [payload, Option.bind_some, pass.expiry] at expiry
  cases expiry
  have sameOwner : owner = owner' := by
    have mapped := congrArg (Option.map guardName) issuer
    exact Option.some.inj (pass.owned.symm.trans (mapped.trans pass'.owned))
  have sameJti : jti = jti' :=
    Option.some.inj (pass.named.symm.trans (identifier.trans pass'.named))
  subst sameOwner sameJti
  have soon := pass.short assertion client rfl
  have expired := later_pass_expired checks ordered order atIndex atOther pass pass' soon
  exact expired

/-- A redeemed assertion is refused from then on; under one issuer and one
identifier nothing else is redeemed before it expires; and a full guard admits
nothing and forgets nothing. -/
theorem assertions_redeemed_once (env : Env) (offset : ℚ)
    (checks : ChecksExpiry env.platform.jwt) (guard : Dict ℚ) (calls : List (Timed AssertionCall))
    (ordered : InOrder calls) :
    (∀ index other assertion time, index < other →
      RedeemsAt env offset guard calls index assertion time →
      ∀ call client, calls[other]? = some call → call.call = .redeem assertion client →
        ¬RedeemsAt env offset guard calls other assertion call.time ∧
          Fails env offset (memoryBefore (guardAfter env offset) guard calls other) call) ∧
    (∀ index other assertion assertion' time time' exp, index < other →
      RedeemsAt env offset guard calls index assertion time →
      RedeemsAt env offset guard calls other assertion' time' →
      claimed env assertion "iss" = claimed env assertion' "iss" →
      claimed env assertion "jti" = claimed env assertion' "jti" →
      expiresAt env assertion = some exp → exp ≤ epochSeconds time') ∧
    (∀ index call, calls[index]? = some call →
      defaultMaxEntries ≤ (sweep (epochSeconds call.time + offset)
        (memoryBefore (guardAfter env offset) guard calls index)).length →
      Fails env offset (memoryBefore (guardAfter env offset) guard calls index) call ∧
        ∀ entry ∈ memoryBefore (guardAfter env offset) guard calls index,
          epochSeconds call.time + offset < entry.2 →
            entry ∈ memoryBefore (guardAfter env offset) guard calls (index + 1)) := by
  refine ⟨?_, ?_, ?_⟩
  · intro index other assertion time order redeems call client atOther redeem
    have stopped : ¬RedeemsAt env offset guard calls other assertion call.time := by
      intro again
      have ⟨world, client', _, passes⟩ := again
      obtain ⟨claims, owner, jti, exp, pass⟩ := pass_of_passes checks passes
      have expiry : expiresAt env assertion = some exp := by
        have payload := pass.payload
        dsimp only [AssertionCall.assertion] at payload
        unfold expiresAt
        rw [payload, Option.bind_some, pass.expiry]
      have expired := redeemed_again_expired checks ordered order redeems again rfl rfl expiry
      exact absurd pass.unexpired (not_lt.2 expired)
    refine ⟨stopped, fails_of_not_passes fun passes => stopped ⟨call.world, client, ?_⟩⟩
    rw [← redeem]
    exact ⟨atOther, passes⟩
  · intro index other assertion assertion' time time' exp order redeems again
    exact redeemed_again_expired checks ordered order redeems again
  · intro index call atIndex full
    have step : memoryBefore (guardAfter env offset) guard calls (index + 1) =
        guardAfter env offset (memoryBefore (guardAfter env offset) guard calls index) call := by
      unfold memoryBefore
      rw [List.take_add_one, atIndex, List.foldl_append]
      rfl
    constructor
    · apply fails_of_not_passes
      intro passes
      obtain ⟨claims, owner, jti, exp, pass⟩ := pass_of_passes checks passes
      exact absurd pass.room (not_lt.2 full)
    · intro entry member unexpired
      rw [step]
      exact (guard_moves checks _ call).keeps member unexpired

/-- A client authenticates by the assertion once in a run. -/
def AuthenticatesOnce (env : Env) (offset : ℚ) (guard : Dict ℚ)
    (calls : List (Timed AssertionCall)) (assertion : String) : Prop :=
  ∀ index other time time', AuthenticatesAt env offset guard calls index assertion time →
    AuthenticatesAt env offset guard calls other assertion time' → index = other

/-- No client presents the assertion more than 300 seconds before it expires. -/
def PresentedLate (env : Env) (calls : List (Timed AssertionCall)) (assertion : String) : Prop :=
  ∀ (time : Nat) world client url jwks exp,
    ⟨time, world, .authenticate client assertion url jwks⟩ ∈ calls →
    expiresAt env assertion = some exp → exp - epochSeconds time ≤ maxJtiTtlSecs

theorem authenticated_again_order (checks : ChecksExpiry env.platform.jwt)
    (ordered : InOrder calls) {assertion : String} (late : PresentedLate env calls assertion)
    {time time' : Nat} (authenticates : AuthenticatesAt env offset guard calls index assertion time)
    (again : AuthenticatesAt env offset guard calls other assertion time') : other ≤ index := by
  by_contra order
  obtain ⟨world, client, url, jwks, atIndex, passes⟩ := authenticates
  obtain ⟨world', client', url', jwks', atOther, passes'⟩ := again
  obtain ⟨claims, owner, jti, exp, pass⟩ := pass_of_passes checks passes
  obtain ⟨claims', owner', jti', exp', pass'⟩ := pass_of_passes checks passes'
  have payload := pass.payload
  have payload' := pass'.payload
  dsimp only [AssertionCall.assertion] at payload payload'
  have sameClaims : claims = claims' := Option.some.inj (payload.symm.trans payload')
  subst sameClaims
  have sameOwner : owner = owner' := Option.some.inj (pass.owned.symm.trans pass'.owned)
  have sameJti : jti = jti' := Option.some.inj (pass.named.symm.trans pass'.named)
  have sameExp : exp = exp' := Option.some.inj (pass.expiry.symm.trans pass'.expiry)
  subst sameOwner sameJti sameExp
  have expiry : expiresAt env assertion = some exp := by
    unfold expiresAt
    rw [payload, Option.bind_some, pass.expiry]
  have soon := late _ _ _ _ _ _ (List.mem_of_getElem? atIndex) expiry
  have expired := later_pass_expired checks ordered (not_le.1 order) atIndex atOther pass pass' soon
  exact absurd pass'.unexpired (not_lt.2 expired)

/-- The entry of a client assertion lasts 300 seconds at most, so an assertion
authenticates once if it is presented in its last 300 seconds only. -/
theorem client_assertion_used_once (env : Env) (offset : ℚ)
    (checks : ChecksExpiry env.platform.jwt) (guard : Dict ℚ) (calls : List (Timed AssertionCall))
    (ordered : InOrder calls) (assertion : String) (late : PresentedLate env calls assertion) :
    AuthenticatesOnce env offset guard calls assertion := by
  intro index other time time' authenticates again
  have before := authenticated_again_order checks ordered late authenticates again
  have after := authenticated_again_order checks ordered late again authenticates
  omega

end Assertions

/-! ### Proofs of possession -/

/-- The arguments of `validate_dpop_proof` at any endpoint. -/
structure ProofCall where
  proof : String
  method : String
  url : String
  accessToken : Option String

def ProofCall.program (env : Env) (call : ProofCall) : Service Validated :=
  validateDpopProof env call.proof call.method call.url call.accessToken

def withReplay (replay : Dict ℚ) (world : World) : World :=
  { world with process := { world.process with dpopReplay := replay } }

/-- The replay store after a call. -/
def replayAfter (env : Env) (offset : ℚ) (replay : Dict ℚ) (call : Timed ProofCall) : Dict ℚ :=
  ((call.call.program (atTime env offset call.time)).run (atTime env offset call.time).interp
    (withReplay replay call.world)).2.process.dpopReplay

/-- The call at `index` of a run accepts its proof. -/
def AcceptsAt (env : Env) (offset : ℚ) (replay : Dict ℚ) (calls : List (Timed ProofCall))
    (index : Nat) (call : Timed ProofCall) : Prop :=
  calls[index]? = some call ∧
    ∃ validated later, (call.call.program (atTime env offset call.time)).run
      (atTime env offset call.time).interp
      (withReplay (memoryBefore (replayAfter env offset) replay calls index) call.world) =
        (.ok validated, later)

section Proofs

variable {env : Env} {offset : ℚ} {replay : Dict ℚ} {calls : List (Timed ProofCall)}
variable {index other : Nat} {first second : Timed ProofCall}

/-- The number `float(iat)`. -/
def iatValue : Json → Option ℚ
  | .bool value => some (if value then 1 else 0)
  | .int value => some value
  | .float value => some value
  | _ => none

theorem window_value {iat : Json} {time : ℚ} (within : iatInWindow iat time = .ok ()) :
    ∃ value, iatValue iat = some value ∧ -iatSkewSecs ≤ time - value ∧
      time - value ≤ iatSkewSecs := by
  have bounds : ∀ value : ℚ,
      (if -iatSkewSecs ≤ time - value ∧ time - value ≤ iatSkewSecs then .ok ()
        else .error (invalidProof "DPoP proof iat is outside the acceptance window") :
          Except Raised Unit) = .ok () →
      -iatSkewSecs ≤ time - value ∧ time - value ≤ iatSkewSecs := by
    intro value checked
    by_contra outside
    rw [if_neg outside] at checked
    cases checked
  cases iat with
  | bool value => exact ⟨_, rfl, bounds _ within⟩
  | int value =>
      unfold iatInWindow at within
      dsimp only at within
      by_cases large : floatOverflow ≤ |(value : ℚ)|
      · rw [if_pos large] at within
        cases within
      · rw [if_neg large] at within
        exact ⟨_, rfl, bounds _ within⟩
  | float value => exact ⟨_, rfl, bounds _ within⟩
  | null => cases within
  | str text => cases within
  | nonFinite literal => cases within
  | arr items => cases within
  | obj members => cases within

/-- A date in the window at two times: they are at most two skews apart. -/
theorem window_bound {iat : Json} {time time' : ℚ} (before : iatInWindow iat time = .ok ())
    (after : iatInWindow iat time' = .ok ()) : time' ≤ time + 2 * iatSkewSecs := by
  obtain ⟨value, dated, low, _⟩ := window_value before
  obtain ⟨value', dated', _, high⟩ := window_value after
  cases dated.symm.trans dated'
  linarith

/-- What an accepted proof has shown and left in the replay store. -/
structure Acceptance (env : Env) (offset : ℚ) (replay : Dict ℚ) (call : Timed ProofCall)
    (claims : List (String × Json)) (iat jti : Json) : Prop where
  payload : env.platform.jwt.unverifiedClaims call.call.proof = some claims
  dated : claims.lookup "iat" = some iat
  within : iatInWindow iat (epochSeconds call.time) = .ok ()
  named : claims.lookup "jti" = some jti
  recorded : checkAndInsert (pyStr env jti) (epochSeconds call.time + offset) replay =
    (true, replayAfter env offset replay call)

theorem acceptance (returns : ReturnsPayload env.platform.jwt) {call : Timed ProofCall}
    {validated : Validated} {later : World}
    (accepts : (call.call.program (atTime env offset call.time)).run
      (atTime env offset call.time).interp (withReplay replay call.world) = (.ok validated, later)) :
    ∃ claims iat jti, Acceptance env offset replay call claims iat jti := by
  have ran : replayAfter env offset replay call = later.process.dpopReplay := by
    unfold replayAfter
    rw [accepts]
  obtain ⟨sighting, decides, shows⟩ := clockwork_run
    (obeys_validate_dpop_proof (atTime env offset call.time) call.call.proof call.call.method
      call.call.url call.call.accessToken) env offset (withReplay replay call.world)
  unfold ProofCall.program at accepts
  rw [accepts] at decides shows
  obtain ⟨claims, key, alg, options, iat, jti, verified, dated, within, named, rfl⟩ := decides
  refine ⟨claims, iat, jti, returns.payload _ _ _ _ _ _ verified, dated, within, named, ?_⟩
  rw [ran]
  exact shows.1

theorem replay_moves (env : Env) (offset : ℚ) (replay : Dict ℚ) (call : Timed ProofCall) :
    Moves (epochSeconds call.time + offset) replay (replayAfter env offset replay call) := by
  obtain ⟨sighting, -, shows⟩ := clockwork_run
    (obeys_validate_dpop_proof (atTime env offset call.time) call.call.proof call.call.method
      call.call.url call.call.accessToken) env offset (withReplay replay call.world)
  unfold replayAfter ProofCall.program
  cases sighting with
  | nothing => exact Or.inl shows.2
  | assertion clientId jti ttlSecs observed => exact Or.inl shows.2
  | proof jti fresh => exact check_and_insert_moves shows.1

/-- While the date of an accepted proof is in its window, the proof's entry is
in the store. -/
theorem entry_outlives_window (ordered : InOrder calls) (order : index < other)
    {claims : List (String × Json)} {iat jti : Json} (atIndex : calls[index]? = some first)
    (atOther : calls[other]? = some second)
    (accepted : Acceptance env offset (memoryBefore (replayAfter env offset) replay calls index)
      first claims iat jti)
    (within : iatInWindow iat (epochSeconds second.time) = .ok ()) :
    Dict.contains (sweep (epochSeconds second.time + offset)
      (memoryBefore (replayAfter env offset) replay calls other)) (pyStr env jti) = true := by
  have apart := window_bound accepted.within within
  have early : epochSeconds second.time < epochSeconds first.time + replayTtlSecs := by
    unfold iatSkewSecs at apart
    unfold replayTtlSecs
    linarith
  have inserted : Covers (replayAfter env offset
      (memoryBefore (replayAfter env offset) replay calls index) first) (pyStr env jti)
      (epochSeconds first.time + replayTtlSecs + offset) := by
    rw [(check_and_insert_fresh accepted.recorded).2]
    apply covers_appended
    linarith
  have covers := covers_until (replay_moves env offset) ordered order atIndex atOther early inserted
  have before : epochSeconds second.time + offset <
      epochSeconds first.time + replayTtlSecs + offset := by linarith
  exact (covers.sweep before).any

theorem accepted_again_order (returns : ReturnsPayload env.platform.jwt) (ordered : InOrder calls)
    (accepts : AcceptsAt env offset replay calls index first)
    (again : AcceptsAt env offset replay calls other second)
    (same : first.call.proof = second.call.proof) : other ≤ index := by
  by_contra order
  obtain ⟨atIndex, validated, later, ran⟩ := accepts
  obtain ⟨atOther, validated', later', ran'⟩ := again
  obtain ⟨claims, iat, jti, accepted⟩ := acceptance returns ran
  obtain ⟨claims', iat', jti', accepted'⟩ := acceptance returns ran'
  have sameClaims : claims = claims' := by
    have payload := accepted.payload
    rw [same] at payload
    exact Option.some.inj (payload.symm.trans accepted'.payload)
  subst sameClaims
  have sameIat : iat = iat' := Option.some.inj (accepted.dated.symm.trans accepted'.dated)
  have sameJti : jti = jti' := Option.some.inj (accepted.named.symm.trans accepted'.named)
  subst sameIat sameJti
  have present := entry_outlives_window ordered (not_le.1 order) atIndex atOther accepted
    accepted'.within
  rw [(check_and_insert_fresh accepted'.recorded).1] at present
  cases present

/-- A proof is accepted once, and its entry is in the store for as long as its
date stays in the window. -/
theorem proof_accepted_once (env : Env) (offset : ℚ) (returns : ReturnsPayload env.platform.jwt)
    (replay : Dict ℚ) (calls : List (Timed ProofCall)) (ordered : InOrder calls) :
    (∀ index other first second, AcceptsAt env offset replay calls index first →
      AcceptsAt env offset replay calls other second →
      first.call.proof = second.call.proof → index = other) ∧
    (∀ index other first second claims iat jti, index < other →
      AcceptsAt env offset replay calls index first → calls[other]? = some second →
      env.platform.jwt.unverifiedClaims first.call.proof = some claims →
      claims.lookup "iat" = some iat → claims.lookup "jti" = some jti →
      iatInWindow iat (epochSeconds second.time) = .ok () →
        Dict.contains (sweep (epochSeconds second.time + offset)
          (memoryBefore (replayAfter env offset) replay calls other)) (pyStr env jti) = true) := by
  constructor
  · intro index other first second accepts again same
    have before := accepted_again_order returns ordered accepts again same
    have after := accepted_again_order returns ordered again accepts same.symm
    omega
  · intro index other first second claims iat jti order accepts atOther payload dated named within
    obtain ⟨atIndex, validated, later, ran⟩ := accepts
    obtain ⟨claims', iat', jti', accepted⟩ := acceptance returns ran
    cases payload.symm.trans accepted.payload
    cases dated.symm.trans accepted.dated
    cases named.symm.trans accepted.named
    exact entry_outlives_window ordered order atIndex atOther accepted within

end Proofs

/-! ### One assertion, presented twice -/

theorem passes_iff (env : Env) (offset : ℚ) (guard : Dict ℚ) (call : Timed AssertionCall) :
    Passes env offset guard call ↔
      ((call.call.gate (atTime env offset call.time)).run (atTime env offset call.time).interp
        (withGuard guard call.world)).1.toBool = true := by
  unfold Passes
  generalize (call.call.gate (atTime env offset call.time)).run
    (atTime env offset call.time).interp (withGuard guard call.world) = outcome
  rcases outcome with ⟨raised | value, later⟩
  · simp [Except.toBool]
  · simp [Except.toBool]

def signingEnv : Env :=
  { sampleEnv with platform := { samplePlatform with jwt := ReferenceJwt.library } }

def secretClient : Client :=
  { sampleClient with clientSecret := "k", tokenEndpointAuthMethod := "client_secret_jwt" }

/-- An assertion of the client that expires at `exp`. -/
def ownAssertion (exp : Int) : String :=
  ReferenceJwt.library.encode
    (.obj [("iss", .str "app"), ("sub", .str "app"), ("aud", .str "u"), ("exp", .int exp),
      ("jti", .str "j")]) (Text.utf8Encode ['k']) "HS256" []

/-- The client authenticates by the assertion at a second. -/
def presented (assertion : String) (second : Nat) : Timed AssertionCall where
  time := second * 1000000
  world := sampleTokenWorld
  call := .authenticate secretClient assertion "u" none

theorem own_assertion_expires (exp : Int) :
    expiresAt signingEnv (ownAssertion exp) = some (exp : ℚ) := by
  unfold expiresAt ownAssertion
  have claims := round_trip.claims [("iss", .str "app"), ("sub", .str "app"), ("aud", .str "u"),
    ("exp", .int exp), ("jti", .str "j")] (Text.utf8Encode ['k']) "HS256" []
  change (ReferenceJwt.library.unverifiedClaims _).bind expiryOf = _
  rw [claims]
  rfl

/-- An assertion of 300 seconds, presented twice, authenticates once. -/
theorem short_assertion_used_once :
    AuthenticatesAt signingEnv 0 [] [presented (ownAssertion 300) 0,
      presented (ownAssertion 300) 299] 0 (ownAssertion 300) 0 ∧
    AuthenticatesOnce signingEnv 0 [] [presented (ownAssertion 300) 0,
      presented (ownAssertion 300) 299] (ownAssertion 300) := by
  constructor
  · refine ⟨_, _, _, _, rfl, (passes_iff _ _ _ _).2 ?_⟩
    decide +kernel
  · refine client_assertion_used_once signingEnv 0 checks_expiry [] _ (by decide) _ ?_
    intro time world client url jwks exp _ expiry
    cases (own_assertion_expires 300).symm.trans expiry
    have positive : 0 ≤ epochSeconds time := by
      unfold epochSeconds
      positivity
    unfold maxJtiTtlSecs
    push_cast
    linarith

/-- An assertion of an hour is accepted again after 301 seconds. -/
theorem hour_long_assertion_replayed :
    ¬∀ (env : Env) (offset : ℚ) (guard : Dict ℚ) (calls : List (Timed AssertionCall))
      (assertion : String), ChecksExpiry env.platform.jwt → InOrder calls →
        AuthenticatesOnce env offset guard calls assertion := by
  intro always
  have once := always signingEnv 0 [] [presented (ownAssertion 3600) 0,
    presented (ownAssertion 3600) 301] (ownAssertion 3600) checks_expiry (by decide)
  have first : AuthenticatesAt signingEnv 0 [] [presented (ownAssertion 3600) 0,
      presented (ownAssertion 3600) 301] 0 (ownAssertion 3600) 0 := by
    refine ⟨_, _, _, _, rfl, (passes_iff _ _ _ _).2 ?_⟩
    decide +kernel
  have second : AuthenticatesAt signingEnv 0 [] [presented (ownAssertion 3600) 0,
      presented (ownAssertion 3600) 301] 1 (ownAssertion 3600) 301000000 := by
    refine ⟨_, _, _, _, rfl, (passes_iff _ _ _ _).2 ?_⟩
    decide +kernel
  cases once 0 1 _ _ first second

/-- The trusted issuer's one key. -/
def issuerKey : Json := .obj [("kty", .str "RSA")]

def issuerEnv : Env :=
  { signingEnv with
    config := { jwtSecret := "k", issuer := "s" }
    platform := { signingEnv.platform with
      fetchFromUrl := fun _ _ => .ok (.obj [("keys", .arr [issuerKey])], 300) } }

def trustedIssuer : TrustedIssuer where
  id := "issuer-row"
  issuer := "i"
  jwksUri := "u"
  createdAt := 0
  updatedAt := 0

def issuedAssertion : String :=
  sign (.obj (joseHeader "RS256" []))
    (.obj [("iss", .str "i"), ("sub", .str "alice"), ("aud", .str "s"), ("iat", .int 0),
      ("exp", .int 300), ("jti", .str "j")])
    (verifyKeyJson (.jwk "RSA" issuerKey))

def redemption (second : Nat) : Timed AssertionCall where
  time := second * 1000000
  world :=
    { sampleTokenWorld with
      store := { sampleStore with trustedIssuers := [trustedIssuer] } }
  call := .redeem issuedAssertion sampleClient

/-- The issuer's assertion is redeemed once and refused at its last second. -/
theorem issued_assertion_redeemed_once :
    RedeemsAt issuerEnv 0 [] [redemption 0, redemption 299] 0 issuedAssertion 0 ∧
      ¬RedeemsAt issuerEnv 0 [] [redemption 0, redemption 299] 1 issuedAssertion 299000000 := by
  have first : RedeemsAt issuerEnv 0 [] [redemption 0, redemption 299] 0 issuedAssertion 0 := by
    refine ⟨_, _, rfl, (passes_iff _ _ _ _).2 ?_⟩
    decide +kernel
  have once := (assertions_redeemed_once issuerEnv 0 checks_expiry [] [redemption 0, redemption 299]
    (by decide)).1 0 1 issuedAssertion 0 (by decide) first (redemption 299) sampleClient rfl rfl
  exact ⟨first, once.1⟩

def holderKey : Json := .obj [("kty", .str "RSA"), ("e", .str "e"), ("n", .str "n")]

/-- A proof dated at the far edge of the window. -/
def datedProof : String :=
  sign (.obj [("alg", .str "RS256"), ("typ", .str "dpop+jwt"), ("jwk", holderKey)])
    (.obj [("htm", .str "POST"), ("htu", .str "u"), ("iat", .int 300), ("jti", .str "j")])
    (verifyKeyJson (.jwk "RSA" holderKey))

def proofAt (second : Nat) : Timed ProofCall where
  time := second * 1000000
  world := sampleTokenWorld
  call := { proof := datedProof, method := "POST", url := "u", accessToken := none }

/-- A proof accepted 300 seconds early is refused when its window closes. -/
theorem dated_proof_accepted_once :
    AcceptsAt signingEnv 0 [] [proofAt 0, proofAt 600] 0 (proofAt 0) ∧
      ¬AcceptsAt signingEnv 0 [] [proofAt 0, proofAt 600] 1 (proofAt 600) := by
  have first : AcceptsAt signingEnv 0 [] [proofAt 0, proofAt 600] 0 (proofAt 0) := by
    have evaluated : (((proofAt 0).call.program (atTime signingEnv 0 0)).run
        (atTime signingEnv 0 0).interp (withReplay [] sampleTokenWorld)).1.toBool = true := by
      decide +kernel
    refine ⟨rfl, ?_⟩
    change ∃ validated later, ((proofAt 0).call.program (atTime signingEnv 0 0)).run
      (atTime signingEnv 0 0).interp (withReplay [] sampleTokenWorld) = (.ok validated, later)
    generalize ((proofAt 0).call.program (atTime signingEnv 0 0)).run
      (atTime signingEnv 0 0).interp (withReplay [] sampleTokenWorld) = outcome at evaluated ⊢
    rcases outcome with ⟨raised | validated, later⟩
    · cases evaluated
    · exact ⟨validated, later, rfl⟩
  refine ⟨first, fun again => ?_⟩
  have returns : ReturnsPayload signingEnv.platform.jwt := checks_expiry.toReturnsPayload
  have once := (proof_accepted_once signingEnv 0 returns [] [proofAt 0, proofAt 600] (by decide)).1
  cases once 0 1 _ _ first again rfl

end OAuth2Server.ReplayGuards
