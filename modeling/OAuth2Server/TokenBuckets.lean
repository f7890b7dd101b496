import OAuth2Server.Dictionaries
import Mathlib.Tactic.Linarith
import Mathlib.Tactic.FieldSimp
import Mathlib.Tactic.Ring

/-!
# The token-bucket limiter

`services/limiter.py` with all that a check returns. A bucket refills
continuously and never above its capacity, so what an interval admits is bounded
by a full bucket and the refill of its length. A bucket idle for two windows is
full again: deleting it changes no result. The arithmetic is that of the rationals,
not of the doubles the limiter holds.
-/

namespace OAuth2Server.TokenBuckets

open OAuth2Server Process KeyedCells Dictionaries

set_option autoImplicit false

/-! ### `TokenBucketLimiter` -/

structure RateLimitResult where
  allowed : Bool
  remaining : Int
  limit : Int
  resetAt : Int
  retryAfter : Option Int
  deriving DecidableEq, Repr

/-- `TokenBucketLimiter(max_requests, window_secs)`. -/
def tokenBucketLimiter (maxRequests windowSecs : Int) : Limiter where
  maxTokens := max 1 maxRequests
  windowSecs := max 1 windowSecs
  buckets := []

/-- A call of `check(key)`, with the readings of the monotonic and the wall clock. -/
structure Check where
  key : String
  now : ℚ
  time : ℚ

section Bucket

variable (maxTokens windowSecs : Int)

def refillRate : ℚ := maxTokens / windowSecs

/-- The tokens of a bucket once it has been refilled. -/
def refilled (now : ℚ) : Option Bucket → ℚ
  | none => maxTokens
  | some bucket =>
      if 0 < now - bucket.lastSeen then
        min (maxTokens : ℚ)
          (bucket.tokens + (now - bucket.lastSeen) * refillRate maxTokens windowSecs)
      else bucket.tokens

/-- `check` past the sweep, on the bucket found under the key. -/
def consume (call : Check) (found : Option Bucket) : RateLimitResult × Bucket :=
  let tokens := refilled maxTokens windowSecs call.now found
  let resetAt := ⌊call.time⌋ + windowSecs
  if 1 ≤ tokens then
    -- At least one token is left to truncate, so `int` rounds down.
    ({ allowed := true, remaining := ⌊tokens - 1⌋, limit := maxTokens, resetAt := resetAt,
       retryAfter := none },
      { tokens := tokens - 1, lastSeen := call.now })
  else
    ({ allowed := false, remaining := 0, limit := maxTokens, resetAt := resetAt,
       retryAfter := some (max 1 ⌈(1 - tokens) / refillRate maxTokens windowSecs⌉) },
      { tokens := tokens, lastSeen := call.now })

variable {maxTokens windowSecs : Int} {call : Check} {found : Option Bucket}

theorem consume_available (available : 1 ≤ refilled maxTokens windowSecs call.now found) :
    consume maxTokens windowSecs call found =
      ({ allowed := true
         remaining := ⌊refilled maxTokens windowSecs call.now found - 1⌋
         limit := maxTokens
         resetAt := ⌊call.time⌋ + windowSecs
         retryAfter := none },
        { tokens := refilled maxTokens windowSecs call.now found - 1, lastSeen := call.now }) :=
  if_pos available

theorem consume_empty (empty : ¬ 1 ≤ refilled maxTokens windowSecs call.now found) :
    consume maxTokens windowSecs call found =
      ({ allowed := false
         remaining := 0
         limit := maxTokens
         resetAt := ⌊call.time⌋ + windowSecs
         retryAfter := some (max 1 ⌈(1 - refilled maxTokens windowSecs call.now found) /
           refillRate maxTokens windowSecs⌉) },
        { tokens := refilled maxTokens windowSecs call.now found, lastSeen := call.now }) :=
  if_neg empty

end Bucket

def sweepExpired (limiter : Limiter) (now : ℚ) : Limiter :=
  { limiter with buckets := limiter.buckets.filter fun entry =>
      now - entry.2.lastSeen < limiter.windowSecs * 2 }

/-- `check` without its `_sweep_expired`. -/
def checkUnswept (limiter : Limiter) (call : Check) : RateLimitResult × Limiter :=
  let found := consume limiter.maxTokens limiter.windowSecs call (limiter.buckets.lookup call.key)
  (found.1, { limiter with buckets := Dict.set call.key found.2 limiter.buckets })

def check (limiter : Limiter) (call : Check) : RateLimitResult × Limiter :=
  checkUnswept (sweepExpired limiter call.now) call

/-- The penalty of the token endpoint reads when to retry off the same check. -/
theorem penalty_check (limiter : Limiter) (call : Check) :
    limiter.check call.key call.now =
      ((check limiter call).1.retryAfter, (check limiter call).2) := by
  let swept := sweepExpired limiter call.now
  let tokens := refilled swept.maxTokens swept.windowSecs call.now (swept.buckets.lookup call.key)
  have taken : limiter.check call.key call.now =
      if 1 ≤ tokens then
        (none, { swept with
          buckets := Dict.set call.key { tokens := tokens - 1, lastSeen := call.now } swept.buckets })
      else
        (some (max 1 ⌈(1 - tokens) / refillRate swept.maxTokens swept.windowSecs⌉),
          { swept with
            buckets := Dict.set call.key { tokens := tokens, lastSeen := call.now }
              swept.buckets }) := rfl
  rw [taken]
  unfold check checkUnswept
  dsimp only
  by_cases available : 1 ≤ tokens
  · rw [if_pos available, consume_available available]
  · rw [if_neg available, consume_empty available]

/-! ### The level of a bucket -/

section Level

variable {maxTokens windowSecs : Int}

/-- What the checks keep true of a bucket. -/
def Sound (maxTokens : Int) (now : ℚ) (found : Option Bucket) : Prop :=
  ∀ bucket ∈ found, 0 ≤ bucket.tokens ∧ bucket.tokens ≤ maxTokens ∧ bucket.lastSeen ≤ now

theorem Sound.mono {now later : ℚ} {found : Option Bucket} (sound : Sound maxTokens now found)
    (order : now ≤ later) : Sound maxTokens later found := by
  intro bucket stored
  obtain ⟨nonneg, capped, seen⟩ := sound bucket stored
  exact ⟨nonneg, capped, seen.trans order⟩

theorem Sound.nonneg {now : ℚ} {found : Option Bucket} (sound : Sound maxTokens now found) :
    ∀ bucket ∈ found, 0 ≤ bucket.tokens :=
  fun bucket stored => (sound bucket stored).1

theorem refill_rate_pos (tokens : 0 < maxTokens) (window : 0 < windowSecs) :
    0 < refillRate maxTokens windowSecs :=
  div_pos (Int.cast_pos.2 tokens) (Int.cast_pos.2 window)

theorem refilled_some (now : ℚ) (bucket : Bucket) :
    refilled maxTokens windowSecs now (some bucket) =
      if 0 < now - bucket.lastSeen then
        min (maxTokens : ℚ)
          (bucket.tokens + (now - bucket.lastSeen) * refillRate maxTokens windowSecs)
      else bucket.tokens := rfl

/-- A window refills a whole bucket. -/
theorem window_refills (window : 0 < windowSecs) :
    (windowSecs : ℚ) * refillRate maxTokens windowSecs = maxTokens := by
  have nonzero : (windowSecs : ℚ) ≠ 0 := Int.cast_ne_zero.2 window.ne'
  unfold refillRate
  field_simp

theorem refilled_le {now : ℚ} {found : Option Bucket} (sound : Sound maxTokens now found) :
    refilled maxTokens windowSecs now found ≤ maxTokens := by
  cases found with
  | none => exact le_rfl
  | some bucket =>
      simp only [refilled]
      split
      · exact min_le_left _ _
      · exact (sound bucket rfl).2.1

theorem refilled_nonneg (tokens : 0 < maxTokens) (window : 0 < windowSecs) (now : ℚ)
    {found : Option Bucket} (nonneg : ∀ bucket ∈ found, 0 ≤ bucket.tokens) :
    0 ≤ refilled maxTokens windowSecs now found := by
  have capacity : (0 : ℚ) < maxTokens := Int.cast_pos.2 tokens
  cases found with
  | none => exact capacity.le
  | some bucket =>
      have stored := nonneg bucket rfl
      simp only [refilled]
      split
      · rename_i elapsed
        have refill := mul_pos elapsed (refill_rate_pos tokens window)
        exact le_min capacity.le (by linarith)
      · exact stored

/-- Time fills a bucket no faster than the refill rate. -/
theorem refilled_later (tokens : 0 < maxTokens) (window : 0 < windowSecs) {now later : ℚ}
    (order : now ≤ later) {found : Option Bucket} (sound : Sound maxTokens now found) :
    refilled maxTokens windowSecs later found ≤
      refilled maxTokens windowSecs now found +
        (later - now) * refillRate maxTokens windowSecs := by
  have rate := refill_rate_pos tokens window
  have waited : 0 ≤ (later - now) * refillRate maxTokens windowSecs :=
    mul_nonneg (sub_nonneg.2 order) rate.le
  cases found with
  | none =>
      simp only [refilled]
      linarith
  | some bucket =>
      obtain ⟨nonneg, capped, seen⟩ := sound bucket rfl
      have whole : (later - bucket.lastSeen) * refillRate maxTokens windowSecs =
          (now - bucket.lastSeen) * refillRate maxTokens windowSecs +
            (later - now) * refillRate maxTokens windowSecs := by ring
      simp only [refilled]
      by_cases touched : 0 < now - bucket.lastSeen
      · rw [if_pos touched, if_pos (by linarith)]
        rcases min_choice (maxTokens : ℚ) (bucket.tokens +
          (now - bucket.lastSeen) * refillRate maxTokens windowSecs) with same | same
        · rw [same]
          exact (min_le_left _ _).trans (by linarith)
        · rw [same]
          exact (min_le_right _ _).trans (by linarith)
      · have same : now - bucket.lastSeen = 0 := by linarith
        rw [if_neg touched]
        split
        · exact (min_le_right _ _).trans (by rw [whole, same]; linarith)
        · linarith

/-- A bucket idle for two windows is as good as none. -/
theorem refilled_idle (tokens : 0 < maxTokens) (window : 0 < windowSecs) {now : ℚ}
    {bucket : Bucket} (nonneg : 0 ≤ bucket.tokens)
    (idle : ¬ now - bucket.lastSeen < windowSecs * 2) :
    refilled maxTokens windowSecs now (some bucket) = maxTokens := by
  have rate := refill_rate_pos tokens window
  have secs : (0 : ℚ) < windowSecs := Int.cast_pos.2 window
  have elapsed : (windowSecs : ℚ) * 2 ≤ now - bucket.lastSeen := not_lt.1 idle
  have refill : (windowSecs : ℚ) * refillRate maxTokens windowSecs ≤
      (now - bucket.lastSeen) * refillRate maxTokens windowSecs :=
    mul_le_mul_of_nonneg_right (by linarith) rate.le
  rw [window_refills window] at refill
  simp only [refilled]
  rw [if_pos (by linarith)]
  exact min_eq_left (by linarith)

/-- Sweeping an idle bucket changes nothing a check returns or stores. -/
theorem consume_filter (tokens : 0 < maxTokens) (window : 0 < windowSecs) (call : Check)
    {found : Option Bucket} (nonneg : ∀ bucket ∈ found, 0 ≤ bucket.tokens) :
    consume maxTokens windowSecs call (found.filter fun bucket =>
        decide (call.now - bucket.lastSeen < windowSecs * 2)) =
      consume maxTokens windowSecs call found := by
  cases found with
  | none => rfl
  | some bucket =>
      rw [Option.filter_some]
      split
      · rfl
      · rename_i idle
        have full := refilled_idle tokens window (nonneg bucket rfl) (by simpa using idle)
        unfold consume
        rw [full]
        rfl

theorem consumed_nonneg (tokens : 0 < maxTokens) (window : 0 < windowSecs) (call : Check)
    {found : Option Bucket} (nonneg : ∀ bucket ∈ found, 0 ≤ bucket.tokens) :
    0 ≤ (consume maxTokens windowSecs call found).2.tokens := by
  by_cases available : 1 ≤ refilled maxTokens windowSecs call.now found
  · rw [consume_available available]
    exact sub_nonneg.2 available
  · rw [consume_empty available]
    exact refilled_nonneg tokens window call.now nonneg

theorem consumed_sound (tokens : 0 < maxTokens) (window : 0 < windowSecs) (call : Check)
    {found : Option Bucket} (sound : Sound maxTokens call.now found) :
    Sound maxTokens call.now (some (consume maxTokens windowSecs call found).2) := by
  have below : refilled maxTokens windowSecs call.now found ≤ maxTokens := refilled_le sound
  have above := consumed_nonneg tokens window call sound.nonneg
  intro bucket stored
  cases stored
  by_cases available : 1 ≤ refilled maxTokens windowSecs call.now found
  · rw [consume_available available] at above ⊢
    exact ⟨above, by dsimp only; linarith, le_rfl⟩
  · rw [consume_empty available] at above ⊢
    exact ⟨above, below, le_rfl⟩

variable (maxTokens windowSecs) in
/-- A check takes a token exactly when it is allowed. -/
theorem consumed_level (call : Check) (found : Option Bucket) :
    refilled maxTokens windowSecs call.now (some (consume maxTokens windowSecs call found).2) +
        ((consume maxTokens windowSecs call found).1.allowed.toNat : ℚ) =
      refilled maxTokens windowSecs call.now found := by
  by_cases available : 1 ≤ refilled maxTokens windowSecs call.now found
  · simp [consume_available available, refilled_some]
  · simp [consume_empty available, refilled_some]

/-- A bucket that refuses has a token again after the time it names. -/
theorem refused_refills (tokens : 0 < maxTokens) (window : 0 < windowSecs) {call next : Check}
    {found : Option Bucket} {seconds : Int}
    (refused : (consume maxTokens windowSecs call found).1.retryAfter = some seconds)
    (waited : call.now + seconds ≤ next.now) :
    (consume maxTokens windowSecs next
      (some (consume maxTokens windowSecs call found).2)).1.allowed = true := by
  have rate := refill_rate_pos tokens window
  have capacity : (1 : ℚ) ≤ maxTokens := by exact_mod_cast tokens
  unfold consume at refused
  dsimp only at refused
  split at refused
  · cases refused
  · rename_i empty
    have needed : (1 - refilled maxTokens windowSecs call.now found) /
        refillRate maxTokens windowSecs ≤ seconds := by
      rw [← Option.some.inj refused]
      apply (Int.le_ceil _).trans
      exact_mod_cast le_max_right _ _
    have positive : (1 : ℚ) ≤ seconds := by
      rw [← Option.some.inj refused]
      exact_mod_cast le_max_left _ _
    have long : (seconds : ℚ) ≤ next.now - call.now := by linarith
    have enough : 1 - refilled maxTokens windowSecs call.now found ≤
        (next.now - call.now) * refillRate maxTokens windowSecs :=
      ((div_le_iff₀ rate).1 needed).trans (mul_le_mul_of_nonneg_right long rate.le)
    have level : 1 ≤ refilled maxTokens windowSecs next.now
        (some { tokens := refilled maxTokens windowSecs call.now found, lastSeen := call.now }) := by
      rw [refilled_some, if_pos (by dsimp only; linarith)]
      exact le_min capacity (by dsimp only; linarith)
    unfold consume
    dsimp only
    rw [if_neg empty]
    dsimp only
    rw [if_pos level]

end Level

/-! ### Runs -/

section Runs

variable (maxTokens windowSecs : Int)

/-- One bucket a key, which counts as full again after two windows. -/
def buckets : Service String Bucket ℚ Check RateLimitResult where
  key := Check.key
  now := Check.now
  live := fun now bucket => decide (now - bucket.lastSeen < windowSecs * 2)
  access := fun call found =>
    ((consume maxTokens windowSecs call found).1, some (consume maxTokens windowSecs call found).2)
  lapses := by
    intro now later bucket order live
    simp only [decide_eq_true_eq] at live ⊢
    linarith

/-- A limiter of these settings, with sound buckets. -/
structure Valid (limiter : Limiter) : Prop where
  maxTokens : limiter.maxTokens = maxTokens
  windowSecs : limiter.windowSecs = windowSecs
  distinct : Distinct limiter.buckets
  nonneg : ∀ key bucket, limiter.buckets.lookup key = some bucket → 0 ≤ bucket.tokens

variable {maxTokens windowSecs : Int}

theorem check_swept {limiter : Limiter} (valid : Valid maxTokens windowSecs limiter)
    (call : Check) :
    check limiter call =
      ((sweptStep (buckets maxTokens windowSecs) limiter.buckets call).1,
        { limiter with
          buckets := (sweptStep (buckets maxTokens windowSecs) limiter.buckets call).2 }) := by
  obtain ⟨rfl, rfl, _, _⟩ := valid
  rfl

theorem check_realizes (tokens : 0 < maxTokens) (window : 0 < windowSecs) :
    Realizes (buckets maxTokens windowSecs) (Valid maxTokens windowSecs)
      (fun limiter key => limiter.buckets.lookup key) check := by
  constructor
  · intro limiter call valid
    rw [check_swept valid]
    refine ⟨valid.maxTokens, valid.windowSecs,
      swept_distinct (buckets maxTokens windowSecs) valid.distinct call, ?_⟩
    intro key bucket stored
    have live := valid.distinct.lookup_filter fun bucket : Bucket =>
      decide (call.now - bucket.lastSeen < windowSecs * 2)
    have kept : ∀ key bucket, (limiter.buckets.lookup key).filter (fun bucket : Bucket =>
        decide (call.now - bucket.lastSeen < windowSecs * 2)) = some bucket →
          0 ≤ bucket.tokens := fun key bucket found =>
      valid.nonneg key bucket (Option.filter_eq_some_iff.1 found).1
    simp only [sweptStep, buckets, lookup_set, live] at stored
    split at stored
    · cases stored
      exact consumed_nonneg tokens window call (kept call.key)
    · exact kept key bucket stored
  · intro limiter call valid
    rw [check_swept valid]
    exact swept_steps _ valid.distinct call

theorem unswept_realizes (tokens : 0 < maxTokens) (window : 0 < windowSecs) :
    Realizes (buckets maxTokens windowSecs) (Valid maxTokens windowSecs)
      (fun limiter key => limiter.buckets.lookup key) checkUnswept := by
  constructor
  · intro limiter call valid
    refine ⟨valid.maxTokens, valid.windowSecs, valid.distinct.set _ _, ?_⟩
    intro key bucket stored
    simp only [checkUnswept, lookup_set, valid.maxTokens, valid.windowSecs] at stored
    split at stored
    · cases stored
      exact consumed_nonneg tokens window call (valid.nonneg call.key)
    · exact valid.nonneg key bucket stored
  · intro limiter call valid
    have same := consume_filter tokens window call (valid.nonneg call.key)
    constructor
    · simp only [checkUnswept, Service.cellStep, buckets, valid.maxTokens, valid.windowSecs, same]
    · simp only [checkUnswept, Service.cellStep, buckets, valid.maxTokens, valid.windowSecs, same,
        lookup_set, if_true]
      exact Alike.refl _
    · intro key different
      have other : key ≠ call.key := different
      simp only [checkUnswept, lookup_set, if_neg other]
      exact Alike.refl _

/-! ### The cell of a key -/

theorem cell_step (tokens : 0 < maxTokens) (window : 0 < windowSecs) {cell : Option Bucket}
    (nonneg : ∀ bucket ∈ cell, 0 ≤ bucket.tokens) (call : Check) :
    (buckets maxTokens windowSecs).cellStep cell call =
      ((consume maxTokens windowSecs call cell).1,
        some (consume maxTokens windowSecs call cell).2) := by
  have same := consume_filter tokens window call nonneg
  simp only [Service.cellStep, buckets, same]

def taken (start finish : ℚ) (entry : Check × RateLimitResult) : Bool :=
  decide (start ≤ entry.1.now) && decide (entry.1.now ≤ finish) && entry.2.allowed

/-- Tokens and their refill up to a time pay for the checks allowed by then: a
check that is allowed leaves a token less, and any other leaves the level. -/
theorem taken_by_level (tokens : 0 < maxTokens) (window : 0 < windowSecs) (start finish : ℚ)
    (calls : List Check) {now : ℚ} (order : now ≤ finish) {cell : Option Bucket}
    (sound : Sound maxTokens now cell) (reached : ∀ call ∈ calls, now ≤ call.now)
    (ordered : (buckets maxTokens windowSecs).InOrder calls) :
    (((log (buckets maxTokens windowSecs).cellStep cell calls).countP (taken start finish) : Nat) : ℚ) ≤
      refilled maxTokens windowSecs now cell +
        (finish - now) * refillRate maxTokens windowSecs := by
  have rate := refill_rate_pos tokens window
  have level := refilled_nonneg tokens window now sound.nonneg
  have refill := mul_nonneg (sub_nonneg.2 order) rate.le
  induction calls generalizing now cell with
  | nil =>
      simp only [log_nil, List.countP_nil, Nat.cast_zero]
      linarith
  | cons call rest induction =>
      obtain ⟨first, ordered⟩ := List.pairwise_cons.1 ordered
      have here := reached call List.mem_cons_self
      have soundHere := sound.mono here
      have grown := refilled_later tokens window here sound
      have stepped := cell_step tokens window soundHere.nonneg call
      rw [log_cons, List.countP_cons, stepped]
      by_cases within : call.now ≤ finish
      · have soundLater := consumed_sound tokens window call soundHere
        have levelLater := refilled_nonneg tokens window call.now soundLater.nonneg
        have rest := induction within soundLater first ordered levelLater
          (mul_nonneg (sub_nonneg.2 within) rate.le)
        have spent := consumed_level maxTokens windowSecs call cell
        have split : (finish - now) * refillRate maxTokens windowSecs =
            (call.now - now) * refillRate maxTokens windowSecs +
              (finish - call.now) * refillRate maxTokens windowSecs := by ring
        have counted : (if taken start finish (call, (consume maxTokens windowSecs call cell).1)
            then 1 else 0) ≤ (consume maxTokens windowSecs call cell).1.allowed.toNat := by
          split
          · rename_i counts
            simp only [taken, Bool.and_eq_true] at counts
            rw [counts.2]
            exact le_rfl
          · exact Nat.zero_le _
        have paid : (((if taken start finish (call, (consume maxTokens windowSecs call cell).1)
            then 1 else 0) : Nat) : ℚ) ≤
              ((consume maxTokens windowSecs call cell).1.allowed.toNat : ℚ) :=
          Nat.cast_le.2 counted
        rw [Nat.cast_add]
        linarith
      · have none_after : (log (buckets maxTokens windowSecs).cellStep
            (some (consume maxTokens windowSecs call cell).2) rest).countP (taken start finish) = 0 := by
          apply log_countP_zero
          intro next member answer
          have past : ¬ next.now ≤ finish := fun early => within (le_trans (first next member) early)
          simp [taken, past]
        have uncounted : taken start finish (call, (consume maxTokens windowSecs call cell).1) =
            false := by
          simp [taken, within]
        simp only [none_after, uncounted, Bool.false_eq_true, if_false, Nat.add_zero, Nat.cast_zero]
        linarith

/-- A full bucket and the refill of an interval bound what it admits. -/
theorem taken_within (tokens : 0 < maxTokens) (window : 0 < windowSecs) {start finish : ℚ}
    (length : start ≤ finish) (calls : List Check) (cell : Option Bucket)
    (sound : ∀ call ∈ calls, Sound maxTokens call.now cell)
    (ordered : (buckets maxTokens windowSecs).InOrder calls) :
    (((log (buckets maxTokens windowSecs).cellStep cell calls).countP (taken start finish) : Nat) : ℚ) ≤
      maxTokens + (finish - start) * refillRate maxTokens windowSecs := by
  have rate := refill_rate_pos tokens window
  induction calls generalizing cell with
  | nil =>
      have capacity : (0 : ℚ) ≤ maxTokens := (Int.cast_pos.2 tokens).le
      have refill := mul_nonneg (sub_nonneg.2 length) rate.le
      simp only [log_nil, List.countP_nil, Nat.cast_zero]
      linarith
  | cons call rest induction =>
      obtain ⟨first, later⟩ := List.pairwise_cons.1 ordered
      have soundHere := sound call List.mem_cons_self
      have soundLater : ∀ next ∈ rest, Sound maxTokens next.now
          (some (consume maxTokens windowSecs call cell).2) := fun next member =>
        (consumed_sound tokens window call soundHere).mono (first next member)
      by_cases before : call.now < start
      · -- A check before the interval is not counted, and leaves a sound bucket.
        have outside : ¬ start ≤ call.now := not_le.2 before
        rw [log_cons, cell_step tokens window soundHere.nonneg call, List.countP_cons_of_neg
          (by simp [taken, outside])]
        exact induction _ soundLater later
      · have inside : start ≤ call.now := not_lt.1 before
        by_cases within : call.now ≤ finish
        · have all : ∀ entry ∈ call :: rest, call.now ≤ entry.now := by
            intro entry member
            cases member with
            | head => exact le_rfl
            | tail _ member => exact first entry member
          have bound := taken_by_level tokens window start finish (call :: rest) within soundHere
            all ordered
          have capped : refilled maxTokens windowSecs call.now cell ≤ maxTokens :=
            refilled_le soundHere
          have shorter : (finish - call.now) * refillRate maxTokens windowSecs ≤
              (finish - start) * refillRate maxTokens windowSecs :=
            mul_le_mul_of_nonneg_right (by linarith) rate.le
          linarith
        · rw [log_cons, cell_step tokens window soundHere.nonneg call, List.countP_cons_of_neg
            (by simp [taken, within])]
          exact induction _ soundLater later

/-- Two checks in a row on one cell: the second is allowed once the seconds named
by the first are over. -/
theorem adjacent_allowed (tokens : 0 < maxTokens) (window : 0 < windowSecs) {calls : List Check}
    {earlier later : List (Check × RateLimitResult)} {call next : Check}
    {result answer : RateLimitResult} {seconds : Int}
    (logged : log (buckets maxTokens windowSecs).cellStep none calls =
      earlier ++ (call, result) :: (next, answer) :: later)
    (refused : result.retryAfter = some seconds) (waited : call.now + seconds ≤ next.now) :
    answer.allowed = true := by
  obtain ⟨gave, rest⟩ := log_entry logged
  dsimp only at gave rest
  have nonneg : ∀ bucket ∈ after (buckets maxTokens windowSecs).cellStep none
      (earlier.map Prod.fst), 0 ≤ bucket.tokens := by
    apply @after_keeps _ _ _ _ fun cell : Option Bucket => ∀ bucket ∈ cell, 0 ≤ bucket.tokens
    · intro cell event nonneg bucket stored
      rw [cell_step tokens window nonneg] at stored
      cases stored
      exact consumed_nonneg tokens window event nonneg
    · intro bucket stored
      cases stored
  rw [cell_step tokens window nonneg] at gave rest
  have nonnegLater : ∀ bucket ∈ some (consume maxTokens windowSecs call (after
      (buckets maxTokens windowSecs).cellStep none (earlier.map Prod.fst))).2,
      0 ≤ bucket.tokens := by
    intro bucket stored
    cases stored
    exact consumed_nonneg tokens window call nonneg
  rw [List.map_cons, log_cons, cell_step tokens window nonnegLater] at rest
  have answered := (Prod.mk.inj (List.cons.inj rest).1).2
  rw [answered]
  exact refused_refills tokens window (gave ▸ refused) waited

end Runs

/-! ### The limiter -/

/-- In every interval a key gets a full bucket and the refill of the interval at most. -/
def Bounded (limiter : Limiter) (transcript : List (Check × RateLimitResult)) : Prop :=
  ∀ (key : String) (start length : ℚ), 0 ≤ length →
    (((transcript.filter fun entry => entry.1.key = key).countP
        (taken start (start + length)) : Nat) : ℚ) ≤
      limiter.maxTokens + length * limiter.maxTokens / limiter.windowSecs

/-- A check that waited as long as its key's last refusal asked for is allowed. -/
def Promised (transcript : List (Check × RateLimitResult)) : Prop :=
  ∀ (earlier between later : List (Check × RateLimitResult)) (call next : Check)
    (result answer : RateLimitResult) (seconds : Int),
    transcript = earlier ++ (call, result) :: between ++ (next, answer) :: later →
    next.key = call.key → (∀ entry ∈ between, entry.1.key ≠ call.key) →
    result.retryAfter = some seconds → call.now + seconds ≤ next.now →
    answer.allowed = true

theorem fresh_valid (maxRequests windowSecs : Int) :
    Valid (max 1 maxRequests) (max 1 windowSecs) (tokenBucketLimiter maxRequests windowSecs) := by
  refine ⟨rfl, rfl, List.nodup_nil, ?_⟩
  intro key bucket stored
  cases stored

theorem in_order_filter {maxTokens windowSecs : Int} {calls : List Check} (key : String)
    (ordered : (buckets maxTokens windowSecs).InOrder calls) :
    (buckets maxTokens windowSecs).InOrder (calls.filter fun call => call.key = key) :=
  ordered.filter _

/-- For every limiter and every sequence of checks at times that do not run
backwards: no interval admits more of a key than its length allows; sweeping and
the checks of other keys change no result; and the time to retry is kept. -/
theorem token_bucket_runs (maxRequests windowSecs : Int) (calls : List Check)
    (ordered : calls.Pairwise fun call later => call.now ≤ later.now) :
    let limiter := tokenBucketLimiter maxRequests windowSecs
    let transcript := log check limiter calls
    Bounded limiter transcript ∧
      transcript = log checkUnswept limiter calls ∧
      (∀ key, (transcript.filter fun entry => entry.1.key = key) =
        log check limiter (calls.filter fun call => call.key = key)) ∧
      Promised transcript := by
  intro limiter transcript
  have tokens : (0 : Int) < max 1 maxRequests := by omega
  have window : (0 : Int) < max 1 windowSecs := by omega
  have swept := check_realizes tokens window
  have valid := fresh_valid maxRequests windowSecs
  have cells : ∀ key, (transcript.filter fun entry => entry.1.key = key) =
      log (buckets (max 1 maxRequests) (max 1 windowSecs)).cellStep none
        (calls.filter fun call => call.key = key) := fun key =>
    swept.log_about key ordered valid fun _ _ => Alike.refl _
  refine ⟨?_, ?_, ?_, ?_⟩
  · intro key start length nonneg
    have bound := taken_within tokens window (show start ≤ start + length by linarith)
      (calls.filter fun call => call.key = key) none
      (fun _ _ _ stored => by cases stored) (in_order_filter key ordered)
    rw [← cells key] at bound
    have refill : (start + length - start) * refillRate (max 1 maxRequests) (max 1 windowSecs) =
        length * limiter.maxTokens / limiter.windowSecs := by
      simp only [refillRate, limiter, tokenBucketLimiter]
      ring
    rw [refill] at bound
    exact bound
  · exact swept.log_eq (unswept_realizes tokens window) ordered valid valid
      fun _ _ _ => Alike.refl _
  · intro key
    rw [cells key]
    symm
    apply swept.log_only key (in_order_filter key ordered) valid
    · intro _ _
      exact Alike.refl _
    · intro call member
      exact of_decide_eq_true (List.mem_filter.1 member).2
  · intro earlier between later call next result answer seconds logged sameKey apart refused waited
    have own := cells call.key
    have skipped : between.filter (fun entry => entry.1.key = call.key) = [] := by
      rw [List.filter_eq_nil_iff]
      intro entry member
      simpa using apart entry member
    rw [logged, List.filter_append, List.filter_append, List.filter_cons_of_pos (by simp),
      List.filter_cons_of_pos (by simpa using sameKey), skipped, List.append_assoc] at own
    exact adjacent_allowed tokens window own.symm refused waited

/-- One check a second against one token in two: the second check is refused for
a second, and the third one waited. -/
def everySecond : List Check :=
  [⟨"client", 0, 0⟩, ⟨"client", 1, 1⟩, ⟨"client", 2, 2⟩]

theorem every_second_throttled :
    ((log check (tokenBucketLimiter 1 2) everySecond).map fun entry =>
        (entry.2.allowed, entry.2.retryAfter)) = [(true, none), (false, some 1), (true, none)] ∧
      Bounded (tokenBucketLimiter 1 2) (log check (tokenBucketLimiter 1 2) everySecond) ∧
      Promised (log check (tokenBucketLimiter 1 2) everySecond) := by
  have runs := token_bucket_runs 1 2 everySecond (by decide +kernel)
  exact ⟨by decide +kernel, runs.1, runs.2.2.2⟩

end OAuth2Server.TokenBuckets
