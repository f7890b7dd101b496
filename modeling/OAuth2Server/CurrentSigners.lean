import OAuth2Server.KeyRotation

/-!
# The current key of each algorithm

A rotation retires every current key of its algorithm and adds one, so after
any history the current keys of an algorithm are the key last rotated in, or
the seeded one, or none. Current keys do not expire; a prune takes away what no
lookup at its time or later would have returned.
-/

namespace OAuth2Server.CurrentSigners

open OAuth2Server Models KeySet KeyRotation

set_option autoImplicit false

def changeTime : KeyChange → Instant
  | .rotate _ _ now => now
  | .prune now => now

/-- A new key is current and has no expiry, and the grace is not negative. -/
def Regular : KeyChange → Prop
  | .rotate newKey graceSecs _ =>
      newKey.isCurrent = true ∧ newKey.expiresAt = none ∧ 0 ≤ graceSecs
  | .prune _ => True

def currentKeys (alg : String) (keys : List SigningKey) : List SigningKey :=
  keys.filter fun key => key.algorithm == alg && key.isCurrent

/-- Whether the change rotates this algorithm's key. -/
def rotates (alg : String) : KeyChange → Bool
  | .rotate newKey _ _ => newKey.algorithm == alg
  | .prune _ => false

/-- Current keys do not expire. -/
def Lasting (keys : List SigningKey) : Prop :=
  ∀ key ∈ keys, key.isCurrent = true → key.expiresAt = none

theorem active_of_lasting {key : SigningKey} (lasting : key.expiresAt = none) (now : Instant) :
    activeAt now key = true := by
  unfold activeAt
  rw [lasting]

/-! ### One change -/

/-- A key as a rotation leaves it. -/
def retire (newKey : SigningKey) (graceSecs : Int) (now : Instant) (key : SigningKey) :
    SigningKey :=
  if key.algorithm == newKey.algorithm && key.isCurrent then
    { key with isCurrent := false, expiresAt := some (now + seconds graceSecs) }
  else key

section Changes

variable {keys : List SigningKey} {newKey key : SigningKey} {graceSecs : Int} {now : Instant}
  {alg : String}

theorem rotate_eq_retire :
    rotate newKey graceSecs now keys = keys.map (retire newKey graceSecs now) ++ [newKey] := rfl

theorem retire_replaced (algorithm : key.algorithm = newKey.algorithm)
    (current : key.isCurrent = true) : retire newKey graceSecs now key =
      { key with isCurrent := false, expiresAt := some (now + seconds graceSecs) } := by
  unfold retire
  rw [if_pos]
  simp [algorithm, current]

/-- A current key of the rotated algorithm is replaced, every other is kept. -/
theorem retire_cases (newKey : SigningKey) (graceSecs : Int) (now : Instant) (key : SigningKey) :
    (key.algorithm = newKey.algorithm ∧ key.isCurrent = true) ∧
        retire newKey graceSecs now key =
          { key with isCurrent := false, expiresAt := some (now + seconds graceSecs) } ∨
      ¬(key.algorithm = newKey.algorithm ∧ key.isCurrent = true) ∧
        retire newKey graceSecs now key = key := by
  by_cases replaced : key.algorithm = newKey.algorithm ∧ key.isCurrent = true
  · exact .inl ⟨replaced, retire_replaced replaced.1 replaced.2⟩
  · right
    refine ⟨replaced, ?_⟩
    unfold retire
    rw [if_neg]
    simpa using replaced

theorem lasting_rotate (lasting : Lasting keys) (fresh : newKey.expiresAt = none) :
    Lasting (rotate newKey graceSecs now keys) := by
  intro key member current
  rw [rotate_eq_retire] at member
  rcases List.mem_append.1 member with changed | added
  · obtain ⟨old, held, rfl⟩ := List.mem_map.1 changed
    rcases retire_cases newKey graceSecs now old with ⟨_, replaced⟩ | ⟨_, same⟩
    · rw [replaced] at current
      cases current
    · rw [same] at current ⊢
      exact lasting old held current
  · rw [List.mem_singleton.1 added]
    exact fresh

theorem lasting_prune (lasting : Lasting keys) : Lasting (pruneExpired now keys) := by
  intro key member current
  exact lasting key (List.mem_of_mem_filter member) current

theorem current_retired : currentKeys alg (keys.map (retire newKey graceSecs now)) =
    if newKey.algorithm = alg then [] else currentKeys alg keys := by
  induction keys with
  | nil => simp [currentKeys]
  | cons key rest induction =>
      unfold currentKeys at induction ⊢
      rw [List.map_cons, List.filter_cons, induction, List.filter_cons]
      rcases retire_cases newKey graceSecs now key with ⟨mine, replaced⟩ | ⟨other, same⟩
      · rw [replaced]
        by_cases rotated : newKey.algorithm = alg
        · simp [rotated]
        · simp [rotated, mine.1]
      · rw [same]
        by_cases rotated : newKey.algorithm = alg
        · have old : (key.algorithm == alg && key.isCurrent) = false := by
            rw [← rotated]
            simpa using other
          simp [rotated, old]
        · simp [rotated]

/-- The rotated algorithm is left with the new key alone. -/
theorem current_rotate (current : newKey.isCurrent = true) :
    currentKeys alg (rotate newKey graceSecs now keys) =
      if newKey.algorithm = alg then [newKey] else currentKeys alg keys := by
  have split : currentKeys alg (rotate newKey graceSecs now keys) =
      currentKeys alg (keys.map (retire newKey graceSecs now)) ++ currentKeys alg [newKey] := by
    rw [rotate_eq_retire]
    exact List.filter_append ..
  rw [split, current_retired]
  by_cases rotated : newKey.algorithm = alg
  · simp [currentKeys, rotated, current]
  · simp [currentKeys, rotated]

/-- A prune leaves the current keys alone. -/
theorem current_prune (lasting : Lasting keys) :
    currentKeys alg (pruneExpired now keys) = currentKeys alg keys := by
  unfold currentKeys pruneExpired
  rw [List.filter_filter]
  refine List.filter_congr fun key member => ?_
  by_cases current : key.isCurrent = true
  · simp [active_of_lasting (lasting key member current)]
  · simp [current]

/-- A retired key stays through every change before its deadline. -/
theorem retired_kept {deadline : Instant} {change : KeyChange} (held : key ∈ keys)
    (retired : key.isCurrent = false) (expires : key.expiresAt = some deadline)
    (early : changeTime change < deadline) : key ∈ change.apply keys := by
  cases change with
  | rotate newKey graceSecs now =>
      rcases retire_cases newKey graceSecs now key with ⟨⟨_, current⟩, _⟩ | ⟨_, same⟩
      · rw [retired] at current
        cases current
      · have changed : key ∈ keys.map (retire newKey graceSecs now) :=
          List.mem_map.2 ⟨key, held, same⟩
        exact List.mem_append_left _ changed
  | prune now =>
      have active : activeAt now key = true := by
        unfold activeAt
        rw [expires]
        exact decide_eq_true early
      exact List.mem_filter.2 ⟨held, active⟩

end Changes

/-! ### A history of changes -/

/-- The key last rotated in for an algorithm. -/
def lastSigner (alg : String) (found : Option SigningKey) : KeyChange → Option SigningKey
  | .rotate newKey _ _ => if newKey.algorithm = alg then some newKey else found
  | .prune _ => found

/-- One change replaces the current key of an algorithm or leaves it. -/
theorem change_current {keys : List SigningKey} {change : KeyChange} {alg : String}
    {found : Option SigningKey} (regular : Regular change) (lasting : Lasting keys)
    (current : currentKeys alg keys = found.toList) :
    Lasting (change.apply keys) ∧
      currentKeys alg (change.apply keys) = (lastSigner alg found change).toList := by
  cases change with
  | rotate newKey graceSecs now =>
      obtain ⟨isCurrent, unexpiring, _⟩ := regular
      refine ⟨lasting_rotate lasting unexpiring, ?_⟩
      have rotated : currentKeys alg (rotate newKey graceSecs now keys) =
          if newKey.algorithm = alg then [newKey] else currentKeys alg keys :=
        current_rotate isCurrent
      change currentKeys alg (rotate newKey graceSecs now keys) =
        (if newKey.algorithm = alg then some newKey else found).toList
      rw [rotated, current]
      split <;> rfl
  | prune now => exact ⟨lasting_prune lasting, (current_prune lasting).trans current⟩

theorem history_current {history : List KeyChange} {keys : List SigningKey} {alg : String}
    {found : Option SigningKey} (regular : ∀ change ∈ history, Regular change)
    (lasting : Lasting keys) (current : currentKeys alg keys = found.toList) :
    Lasting (history.foldl KeyChange.apply keys) ∧
      currentKeys alg (history.foldl KeyChange.apply keys) =
        (history.foldl (lastSigner alg) found).toList := by
  induction history generalizing keys found with
  | nil => exact ⟨lasting, current⟩
  | cons change rest induction =>
      have first := regular change List.mem_cons_self
      have others : ∀ later ∈ rest, Regular later :=
        fun later member => regular later (List.mem_cons_of_mem change member)
      obtain ⟨kept, signer⟩ := change_current first lasting current
      exact induction others kept signer

theorem last_signer_some (alg : String) (history : List KeyChange) (found : Option SigningKey) :
    (history.foldl (lastSigner alg) found).isSome = true ↔
      found.isSome = true ∨ ∃ change ∈ history, rotates alg change = true := by
  induction history generalizing found with
  | nil => simp
  | cons change rest induction =>
      rw [List.foldl_cons, induction]
      cases change with
      | rotate newKey graceSecs now =>
          by_cases rotated : newKey.algorithm = alg
          · simp [lastSigner, rotates, rotated]
          · simp [lastSigner, rotates, rotated]
      | prune now => simp [lastSigner, rotates]

theorem retired_through {history : List KeyChange} {keys : List SigningKey} {key : SigningKey}
    {deadline : Instant} (held : key ∈ keys) (retired : key.isCurrent = false)
    (expires : key.expiresAt = some deadline)
    (early : ∀ change ∈ history, changeTime change < deadline) :
    key ∈ history.foldl KeyChange.apply keys := by
  induction history generalizing keys with
  | nil => exact held
  | cons change rest induction =>
      have kept := retired_kept held retired expires (early change List.mem_cons_self)
      exact induction kept fun later member => early later (List.mem_cons_of_mem change member)

/-- An RS256 key was configured or rotated in. -/
def UsesRsa (config : Config) (history : List KeyChange) : Prop :=
  (config.idTokenPrivateKeyPem.filter (· != "")).isSome = true ∨
    ∃ change ∈ history, rotates "RS256" change = true

theorem seeded_lasting (config : Config) (start : Instant) : Lasting (seedKeyset config start) := by
  intro key member _
  unfold seedKeyset at member
  rcases List.mem_append.1 member with secret | rsa
  · rw [List.mem_singleton.1 secret]
  · split at rsa
    · cases rsa
    · rw [List.mem_singleton.1 rsa]

theorem seeded_secret (config : Config) (start : Instant) :
    ∃ key, currentKeys "HS256" (seedKeyset config start) = (some key).toList := by
  unfold seedKeyset
  cases config.idTokenPrivateKeyPem.filter (· != "") with
  | none => exact ⟨_, rfl⟩
  | some pem => exact ⟨_, rfl⟩

theorem seeded_rsa (config : Config) (start : Instant) :
    ∃ found : Option SigningKey, currentKeys "RS256" (seedKeyset config start) = found.toList ∧
      (found.isSome = true ↔ (config.idTokenPrivateKeyPem.filter (· != "")).isSome = true) := by
  unfold seedKeyset
  cases config.idTokenPrivateKeyPem.filter (· != "") with
  | none => exact ⟨none, rfl, Iff.rfl⟩
  | some pem => exact ⟨some _, rfl, by simp⟩

/-- One key is current for the algorithm, and it is active whenever asked. -/
def OneSigner (alg : String) (keys : List SigningKey) : Prop :=
  ∃ key, currentKeys alg keys = [key] ∧ ∀ now, activeAt now key = true

/-- A prune at `now` takes no current key, and no later lookup tells that it
happened. -/
structure PruneUnseen (now : Instant) (keys : List SigningKey) : Prop where
  current : ∀ key ∈ keys, key.isCurrent = true → key ∈ pruneExpired now keys
  currentForAlg : ∀ (time : Nat) alg, now ≤ time →
    currentAt alg time (pruneExpired now keys) = currentAt alg time keys
  find : ∀ (time : Nat) kid, now ≤ time →
    findAt kid time (pruneExpired now keys) = findAt kid time keys
  activeKeys : ∀ time : Nat, now ≤ time →
    activeKeysAt time (pruneExpired now keys) = activeKeysAt time keys
  activeKeysForAlg : ∀ (time : Nat) alg, now ≤ time →
    activeFor alg time (pruneExpired now keys) = activeFor alg time keys

theorem active_before {now time : Instant} {key : SigningKey} (order : now ≤ time)
    (active : activeAt time key = true) : activeAt now key = true := by
  unfold activeAt at active ⊢
  cases expires : key.expiresAt with
  | none => rfl
  | some expiresAt =>
      rw [expires] at active
      simp only [decide_eq_true_eq] at active ⊢
      exact lt_of_le_of_lt order active

theorem prune_unseen {keys : List SigningKey} (lasting : Lasting keys) (now : Instant) :
    PruneUnseen now keys := by
  have implied : ∀ (time : Nat) (test : SigningKey → Bool) (key : SigningKey), now ≤ time →
      (activeAt now key && (test key && activeAt time key)) = (test key && activeAt time key) := by
    intro time test key order
    cases active : activeAt time key with
    | false => simp
    | true => simp [active_before order active]
  constructor
  case current =>
    intro key member current
    exact List.mem_filter.2 ⟨member, active_of_lasting (lasting key member current) now⟩
  case currentForAlg =>
    intro time alg order
    unfold currentAt pruneExpired
    rw [List.find?_filter]
    congr 1
    funext key
    rw [Bool.decide_and, Bool.decide_eq_true, Bool.decide_eq_true]
    exact implied time (fun key => key.algorithm == alg && key.isCurrent) key order
  case find =>
    intro time kid order
    unfold findAt pruneExpired
    rw [List.find?_filter]
    congr 1
    funext key
    rw [Bool.decide_and, Bool.decide_eq_true, Bool.decide_eq_true]
    exact implied time (fun key => key.kid == kid) key order
  case activeKeys =>
    intro time order
    unfold activeKeysAt pruneExpired
    rw [List.filter_filter]
    congr 1
    funext key
    simpa [Bool.and_comm] using implied time (fun _ => true) key order
  case activeKeysForAlg =>
    intro time alg order
    unfold activeFor pruneExpired
    rw [List.filter_filter]
    congr 1
    funext key
    rw [Bool.and_comm]
    exact implied time (fun key => key.algorithm == alg) key order

/-- After any rotations and prunes, in whatever order of times, each algorithm
in use has one current key and that key is active, no lookup tells that a prune
happened before it, and a retired key is active for its grace period. -/
theorem one_signer_per_algorithm (config : Config) (start : Instant) (history : List KeyChange)
    (regular : ∀ change ∈ history, Regular change) :
    OneSigner "HS256" (keySetAfter config start history) ∧
    (UsesRsa config history → OneSigner "RS256" (keySetAfter config start history)) ∧
    (¬UsesRsa config history → currentKeys "RS256" (keySetAfter config start history) = []) ∧
    (∀ now, PruneUnseen now (keySetAfter config start history)) ∧
    ∀ earlier newKey graceSecs now later,
      history = earlier ++ .rotate newKey graceSecs now :: later →
      ∀ key ∈ currentKeys newKey.algorithm (keySetAfter config start earlier), ∀ time : Nat,
        (∀ change ∈ later, changeTime change ≤ time) → time < now + seconds graceSecs →
        { key with isCurrent := false, expiresAt := some (now + seconds graceSecs) } ∈
          activeKeysAt time (keySetAfter config start history) := by
  have signer : ∀ alg found, currentKeys alg (seedKeyset config start) = Option.toList found →
      (history.foldl (lastSigner alg) found).isSome = true →
        OneSigner alg (keySetAfter config start history) := by
    intro alg found seeded some
    obtain ⟨lasting, current⟩ := history_current regular (seeded_lasting config start) seeded
    obtain ⟨key, last⟩ := Option.isSome_iff_exists.1 some
    rw [last, Option.toList_some] at current
    have member : key ∈ currentKeys alg (keySetAfter config start history) := by
      rw [keySetAfter, current]
      exact List.mem_singleton_self key
    have both := (List.mem_filter.1 member)
    have marked : key.isCurrent = true := by
      have matching := both.2
      rw [Bool.and_eq_true] at matching
      exact matching.2
    exact ⟨key, current, active_of_lasting (lasting key both.1 marked)⟩
  obtain ⟨secret, seededSecret⟩ := seeded_secret config start
  obtain ⟨rsa, seededRsa, configured⟩ := seeded_rsa config start
  have used : (history.foldl (lastSigner "RS256") rsa).isSome = true ↔ UsesRsa config history := by
    rw [last_signer_some, configured]
    exact Iff.rfl
  refine ⟨?_, ?_, ?_, ?_, ?_⟩
  · exact signer "HS256" (some secret) seededSecret ((last_signer_some _ _ _).2 (.inl rfl))
  · intro uses
    exact signer "RS256" rsa seededRsa (used.2 uses)
  · intro unused
    obtain ⟨_, current⟩ := history_current regular (seeded_lasting config start) seededRsa
    have last : history.foldl (lastSigner "RS256") rsa = none := by
      rw [← Option.not_isSome_iff_eq_none, used]
      exact unused
    rw [last] at current
    exact current
  · intro now
    have lasting := (history_current regular (seeded_lasting config start) seededSecret).1
    exact prune_unseen lasting now
  · intro earlier newKey graceSecs now later split key member time reached early
    obtain ⟨held, matching⟩ := List.mem_filter.1 member
    simp only [Bool.and_eq_true, beq_iff_eq] at matching
    have retired : retire newKey graceSecs now key =
        { key with isCurrent := false, expiresAt := some (now + seconds graceSecs) } :=
      retire_replaced matching.1 matching.2
    have changed : { key with isCurrent := false, expiresAt := some (now + seconds graceSecs) } ∈
        rotate newKey graceSecs now (keySetAfter config start earlier) := by
      rw [rotate_eq_retire, ← retired]
      exact List.mem_append_left _ (List.mem_map.2 ⟨key, held, rfl⟩)
    have before : ∀ change ∈ later, changeTime change < now + seconds graceSecs :=
      fun change member => lt_of_le_of_lt (reached change member) early
    have kept := retired_through changed rfl rfl before
    have after : keySetAfter config start history = later.foldl KeyChange.apply
        (rotate newKey graceSecs now (keySetAfter config start earlier)) := by
      rw [split]
      unfold keySetAfter
      rw [List.foldl_append, List.foldl_cons]
      rfl
    rw [after]
    refine List.mem_filter.2 ⟨kept, ?_⟩
    exact decide_eq_true early

/-! Two rotations with a grace of five seconds and a prune between them. -/

def secretOnly : Config := { jwtSecret := "k", issuer := "s" }

def rotatedTwice : List KeyChange :=
  [.rotate (generateSigningKey "RS256" "r" [1] 10) 5 10, .prune 12,
    .rotate (generateSigningKey "HS256" "h" [2] 13) 5 13]

/-- Both algorithms sign, and the seeded secret is active while its grace lasts. -/
theorem rotated_twice_signs : OneSigner "HS256" (keySetAfter secretOnly 0 rotatedTwice) ∧
    OneSigner "RS256" (keySetAfter secretOnly 0 rotatedTwice) ∧
      ∃ key ∈ activeKeysAt 15 (keySetAfter secretOnly 0 rotatedTwice),
        key.kid = "hs256-initial" := by
  have regular : ∀ change ∈ rotatedTwice, Regular change := by
    simp [rotatedTwice, Regular, generateSigningKey]
  obtain ⟨secret, rsa, _, _, grace⟩ :=
    one_signer_per_algorithm secretOnly 0 rotatedTwice regular
  have uses : UsesRsa secretOnly rotatedTwice := by
    right
    exact ⟨_, List.mem_cons_self, rfl⟩
  have seeded := grace [.rotate (generateSigningKey "RS256" "r" [1] 10) 5 10, .prune 12] _ 5 13 []
    rfl { kid := "hs256-initial", algorithm := "HS256", keyMaterial := [107], createdAt := 0 }
    (by decide +kernel) 15 (by simp) (by decide)
  exact ⟨secret, rsa uses, _, seeded, rfl⟩

end OAuth2Server.CurrentSigners
