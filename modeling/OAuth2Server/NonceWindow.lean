import OAuth2Server.Base64Url
import OAuth2Server.Dpop
import OAuth2Server.Interleaving
import OAuth2Server.Runs
import Mathlib.Tactic.Linarith

/-!
# The window of a DPoP nonce

A nonce carries the number of its time bucket and a tag over it. It is accepted
in its bucket and in the next one, and refused as stale in any other; a text
that does not carry the tag of its bucket is never answered with a fresh nonce.
-/

namespace OAuth2Server.NonceWindow

open OAuth2Server Models JsonText Effects Interaction Interaction.Program Interleaving
open ClientAuth Dpop Base64Url

set_option autoImplicit false

/-! ### Bucket numbers -/

theorem big_endian_length (width value : Nat) : (bigEndian width value).length = width := by
  induction width generalizing value with
  | zero => rfl
  | succ width induction => simp [bigEndian, induction]

theorem big_endian_bytes (width value : Nat) : Bytes (bigEndian width value) := by
  induction width generalizing value with
  | zero =>
      intro byte member
      cases member
  | succ width induction =>
      intro byte member
      rcases List.mem_append.1 member with earlier | last
      · exact induction _ byte earlier
      · rw [List.mem_singleton.1 last]
        exact Nat.mod_lt _ (by decide)

theorem big_endian_value (width value : Nat) :
    bigEndianValue (bigEndian width value) = value % 256 ^ width := by
  induction width generalizing value with
  | zero => simp [bigEndian, bigEndianValue, Nat.mod_one]
  | succ width induction =>
      have earlier := induction (value / 256)
      simp only [bigEndianValue] at earlier ⊢
      rw [bigEndian, List.foldl_append, earlier]
      simp only [List.foldl_cons, List.foldl_nil]
      rw [Nat.pow_succ, Nat.mul_comm (256 ^ width) 256, Nat.mod_mul]
      omega

/-! ### What is accepted -/

/-- The tag of an eight-byte bucket number under the server's secret. -/
def tag (env : Env) (bucket : List Nat) : List Nat :=
  env.platform.hmacTag env.config.dpopNonceSecret bucket

/-- A text that decodes to a bucket number and its tag. -/
def Authentic (env : Env) (nonce : String) : Prop :=
  ∃ raw, Text.b64urlDecode nonce = some raw ∧ raw.length = 24 ∧
    raw.drop 8 = tag env (raw.take 8)

/-- `verify` looks at the clock only for a text that carries its tag. -/
theorem verify_cases (env : Env) (nonce : String) (time : ℚ) :
    (∃ raw, Text.b64urlDecode nonce = some raw ∧ raw.length = 24 ∧
      raw.drop 8 = tag env (raw.take 8) ∧
      verifyNonce env nonce time =
        if bigEndianValue (raw.take 8) = bucketAt env time ∨
            bigEndianValue (raw.take 8) + 1 = bucketAt env time then .ok ()
        else .error .stale) ∨
    (¬ Authentic env nonce ∧ ∃ description, verifyNonce env nonce time =
      .error (.invalid description)) := by
  cases decoded : Text.b64urlDecode nonce with
  | none =>
      right
      constructor
      · rintro ⟨raw, other, _⟩
        rw [decoded] at other
        cases other
      · exact ⟨"DPoP nonce is not valid base64url", by simp [verifyNonce, decoded]; rfl⟩
  | some raw =>
      have authentic : Authentic env nonce ↔ raw.length = 24 ∧ raw.drop 8 = tag env (raw.take 8) := by
        constructor
        · rintro ⟨other, same, right⟩
          rw [decoded] at same
          cases same
          exact right
        · intro right
          exact ⟨raw, decoded, right⟩
      by_cases length : raw.length = 24
      · by_cases tagged : raw.drop 8 = tag env (raw.take 8)
        · left
          refine ⟨raw, rfl, length, tagged, ?_⟩
          have signed : raw.drop 8 =
              env.platform.hmacTag env.config.dpopNonceSecret (raw.take 8) := tagged
          by_cases current : bigEndianValue (raw.take 8) = bucketAt env time
          · simp [verifyNonce, decoded, length, signed, current, Pure.pure, Except.pure]
          · by_cases previous : bigEndianValue (raw.take 8) + 1 = bucketAt env time
            · simp [verifyNonce, decoded, length, signed, current, previous, Pure.pure, Except.pure]
            · simp [verifyNonce, decoded, length, signed, current, previous]
              rfl
        · right
          have unsigned : ¬ raw.drop 8 =
              env.platform.hmacTag env.config.dpopNonceSecret (raw.take 8) := tagged
          refine ⟨fun right => tagged (authentic.1 right).2, "DPoP nonce signature mismatch", ?_⟩
          simp [verifyNonce, decoded, length, unsigned, Bind.bind, Except.bind, Pure.pure,
            Except.pure]
          rfl
      · right
        refine ⟨fun right => length (authentic.1 right).1, "DPoP nonce has incorrect length", ?_⟩
        simp [verifyNonce, decoded, length, Bind.bind, Except.bind]
        rfl

/-- An issued nonce decodes to the number of its bucket and its tag. -/
theorem issued_decodes (env : Env)
    (digests : ∀ bucket, (tag env bucket).length = 16 ∧ Bytes (tag env bucket)) (bucket : Nat) :
    Text.b64urlDecode (encodeBucket env bucket) =
      some (bigEndian 8 bucket ++ tag env (bigEndian 8 bucket)) := by
  apply decode_encode
  intro byte member
  rcases List.mem_append.1 member with number | signature
  · exact big_endian_bytes 8 bucket byte number
  · exact (digests _).2 byte signature

theorem verify_issued (env : Env)
    (digests : ∀ bucket, (tag env bucket).length = 16 ∧ Bytes (tag env bucket)) (bucket : Nat)
    (fits : bucket < 2 ^ 64) (time : ℚ) :
    verifyNonce env (encodeBucket env bucket) time =
      if bucket = bucketAt env time ∨ bucket + 1 = bucketAt env time then .ok ()
      else .error .stale := by
  have decoded := issued_decodes env digests bucket
  have width := big_endian_length 8 bucket
  have number : (bigEndian 8 bucket ++ tag env (bigEndian 8 bucket)).take 8 =
      bigEndian 8 bucket := by
    rw [List.take_append_of_le_length (by omega), List.take_of_length_le (by omega)]
  have signature : (bigEndian 8 bucket ++ tag env (bigEndian 8 bucket)).drop 8 =
      tag env (bigEndian 8 bucket) := by
    rw [List.drop_append_of_le_length (by omega), List.drop_of_length_le (by omega)]
    rfl
  have value : bigEndianValue (bigEndian 8 bucket) = bucket := by
    rw [big_endian_value]
    exact Nat.mod_eq_of_lt fits
  rcases verify_cases env (encodeBucket env bucket) time with
    ⟨raw, read, _, _, verdict⟩ | ⟨forged, _⟩
  · rw [decoded] at read
    cases read
    rw [verdict, number, value]
  · refine absurd ?_ forged
    refine ⟨_, decoded, ?_, ?_⟩
    · rw [List.length_append, width, (digests _).1]
    · rw [number, signature]

/-- `max(1, lifetime_secs)`. -/
def lifetime (env : Env) : Int := max 1 env.config.dpopNonceLifetimeSecs

theorem lifetime_pos (env : Env) : 0 < lifetime env := by
  unfold lifetime
  omega

theorem bucket_at_cast (env : Env) {time : ℚ} (nonneg : 0 ≤ time) :
    ((bucketAt env time : Nat) : Int) = ⌊time⌋ / lifetime env := by
  unfold bucketAt
  apply Int.toNat_of_nonneg
  apply Int.ediv_nonneg (Int.floor_nonneg.2 nonneg)
  exact (lifetime_pos env).le

theorem issue_ends (env : Env) {issued : ℚ} {nonce : String}
    (ends : Ends (issueNonce env : Service String) [⟨.ambient .time, issued⟩] (.ok nonce)) :
    nonce = encodeBucket env (bucketAt env issued) := by
  obtain ⟨answer, rest, same, later⟩ := ends
  cases same
  exact Except.ok.inj later.2

/-- A text that is not authentic is refused without a challenge: the clock is read,
and no nonce is issued. -/
theorem forged_refused (env : Env) {validated : Validated} {nonce : String}
    (carried : validated.nonce = some nonce) (forged : ¬ Authentic env nonce)
    {events : List (Event Server)} {outcome : Except Raised (Option Response)}
    (ends : Ends (enforceDpopNonce env validated) events outcome) :
    (∃ description, outcome = .error (invalidProof description)) ∧
      ∃ now : ℚ, events = [⟨.ambient .time, now⟩] := by
  unfold enforceDpopNonce at ends
  rw [carried] at ends
  obtain ⟨now, rest, same, later⟩ := ends
  rcases verify_cases env nonce now with ⟨raw, read, length, tagged, _⟩ | ⟨_, description, refused⟩
  · exact absurd ⟨raw, read, length, tagged⟩ forged
  · dsimp only [Program.bind] at later
    rw [refused] at later
    refine ⟨⟨description, later.2⟩, now, ?_⟩
    rw [same, later.1]

/-- The verdicts on a nonce issued in one second and shown in another. -/
structure Windowed (lifetime : Int) (issued now : ℚ) (verdict : Except NonceError Unit) :
    Prop where
  accepted : verdict = .ok () ↔
    ⌊now⌋ / lifetime - ⌊issued⌋ / lifetime = 0 ∨ ⌊now⌋ / lifetime - ⌊issued⌋ / lifetime = 1
  stale : verdict ≠ .ok () → verdict = .error .stale
  fresh : issued ≤ now → now < issued + lifetime → verdict = .ok ()
  ended : issued + 2 * lifetime ≤ now → verdict ≠ .ok ()

theorem issued_windowed (env : Env)
    (digests : ∀ bucket, (tag env bucket).length = 16 ∧ Bytes (tag env bucket))
    {issued now : ℚ} (issuedNonneg : 0 ≤ issued) (nowNonneg : 0 ≤ now)
    (fits : ⌊issued⌋ / lifetime env < 2 ^ 64) :
    Windowed (lifetime env) issued now
      (verifyNonce env (encodeBucket env (bucketAt env issued)) now) := by
  have positive := lifetime_pos env
  have issuedAt := bucket_at_cast env issuedNonneg
  have nowAt := bucket_at_cast env nowNonneg
  rw [← issuedAt] at fits
  have verdict := verify_issued env digests (bucketAt env issued)
    (by exact_mod_cast fits) now
  have accepted : verifyNonce env (encodeBucket env (bucketAt env issued)) now = .ok () ↔
      ⌊now⌋ / lifetime env - ⌊issued⌋ / lifetime env = 0 ∨
        ⌊now⌋ / lifetime env - ⌊issued⌋ / lifetime env = 1 := by
    rw [verdict, ← issuedAt, ← nowAt]
    split
    · rename_i window
      exact iff_of_true rfl (by omega)
    · rename_i window
      apply iff_of_false
      · intro same
        cases same
      · omega
  constructor
  · exact accepted
  · intro refused
    rw [verdict] at refused ⊢
    split
    · rename_i window
      rw [if_pos window] at refused
      exact absurd rfl refused
    · rfl
  · intro after before
    have floors : ⌊issued⌋ ≤ ⌊now⌋ := Int.floor_le_floor after
    have ceiling : ⌊now⌋ ≤ ⌊issued⌋ + lifetime env := by
      rw [← Int.floor_add_intCast]
      exact Int.floor_le_floor before.le
    have lower := Int.ediv_le_ediv positive floors
    have upper := Int.ediv_le_ediv positive ceiling
    rw [Int.add_ediv_of_dvd_right (dvd_refl _), Int.ediv_self positive.ne'] at upper
    apply accepted.2
    omega
  · intro late
    have floors : ⌊issued⌋ + 2 * lifetime env ≤ ⌊now⌋ := by
      have shifted : ⌊issued + ((2 * lifetime env : Int) : ℚ)⌋ ≤ ⌊now⌋ := by
        apply Int.floor_le_floor
        push_cast
        exact late
      rwa [Int.floor_add_intCast] at shifted
    have lower := Int.ediv_le_ediv positive floors
    rw [Int.add_mul_ediv_right _ _ positive.ne'] at lower
    intro same
    have window := accepted.1 same
    omega

/-- For every secret and lifetime, with the tag any function to sixteen bytes: a
nonce is accepted in its bucket and in the next one and refused as stale in any
other; and only texts that carry the tag of their bucket are accepted or called
stale, so that no other is answered with a fresh nonce. -/
theorem nonce_window (env : Env)
    (digests : ∀ bucket, (tag env bucket).length = 16 ∧ Bytes (tag env bucket)) :
    (∀ (issued now : ℚ) (nonce : String), 0 ≤ issued → 0 ≤ now →
      ⌊issued⌋ / lifetime env < 2 ^ 64 →
      Ends (issueNonce env : Service String) [⟨.ambient .time, issued⟩] (.ok nonce) →
      Windowed (lifetime env) issued now (verifyNonce env nonce now)) ∧
    (∀ (nonce : String) (now : ℚ), verifyNonce env nonce now = .ok () ∨
      verifyNonce env nonce now = .error .stale → Authentic env nonce) ∧
    (∀ (nonce : String), ¬ Authentic env nonce →
      (∀ now : ℚ, ∃ description, verifyNonce env nonce now = .error (.invalid description)) ∧
      ∀ (validated : Validated) events outcome, validated.nonce = some nonce →
        Ends (enforceDpopNonce env validated) events outcome →
        (∃ description, outcome = .error (invalidProof description)) ∧
          ∃ now : ℚ, events = [⟨.ambient .time, now⟩]) := by
  refine ⟨?_, ?_, ?_⟩
  · intro issued now nonce issuedNonneg nowNonneg fits ends
    rw [issue_ends env ends]
    exact issued_windowed env digests issuedNonneg nowNonneg fits
  · intro nonce now verdict
    rcases verify_cases env nonce now with ⟨raw, read, length, tagged, _⟩ | ⟨_, _, refused⟩
    · exact ⟨raw, read, length, tagged⟩
    · rw [refused] at verdict
      rcases verdict with passed | stale
      · cases passed
      · cases stale
  · intro nonce forged
    constructor
    · intro now
      rcases verify_cases env nonce now with ⟨raw, read, length, tagged, _⟩ | ⟨_, refused⟩
      · exact absurd ⟨raw, read, length, tagged⟩ forged
      · exact refused
    · intro validated events outcome carried ends
      exact forged_refused env carried forged ends

/-- A server that tags a bucket with the sum of its bytes. -/
def taggingEnv : Env :=
  { Runs.sampleEnv with platform := { Runs.samplePlatform with
      hmacTag := fun _ bucket => List.replicate 16 (bucket.sum % 256) } }

theorem tagging_digests (bucket : List Nat) :
    (tag taggingEnv bucket).length = 16 ∧ Bytes (tag taggingEnv bucket) := by
  constructor
  · exact List.length_replicate
  · intro byte member
    rw [List.eq_of_mem_replicate member]
    exact Nat.mod_lt _ (by decide)

/-- A nonce issued at its server's first second is still accepted when its lifetime
ends, and a forged one is not. -/
theorem first_nonce_window :
    Windowed (lifetime taggingEnv) 0 (lifetime taggingEnv : Int)
      (verifyNonce taggingEnv (encodeBucket taggingEnv (bucketAt taggingEnv 0))
        (lifetime taggingEnv : Int)) := by
  apply (nonce_window taggingEnv tagging_digests).1 0 (lifetime taggingEnv : Int)
  · exact le_rfl
  · exact_mod_cast (lifetime_pos taggingEnv).le
  · decide +kernel
  · exact ⟨(0 : ℚ), [], rfl, rfl, rfl⟩

end OAuth2Server.NonceWindow
