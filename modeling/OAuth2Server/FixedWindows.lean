import OAuth2Server.Dictionaries
import OAuth2Server.FrontChannel
import Mathlib.Data.List.Induction
import Mathlib.Tactic.Linarith

/-!
# The fixed-window limiter

`FixedWindowLimiter` over any sequence of its calls. A window opens at a check
that finds none and stays open for its length unless the key is reset, so the
checks that pass in a period as long as a window are those of two windows.
-/

namespace OAuth2Server.FixedWindows

open OAuth2Server Process FrontChannel KeyedCells Dictionaries

set_option autoImplicit false

inductive LimiterCall where
  | check (key : String)
  | reset (key : String)
  deriving DecidableEq

def LimiterCall.key : LimiterCall → String
  | .check key => key
  | .reset key => key

structure Timed where
  now : ℚ
  call : LimiterCall
  deriving DecidableEq

/-- What a call returns, and whether it opened a window. -/
structure Verdict where
  retryAfter : Option Int
  opened : Bool
  deriving DecidableEq

section Settings

variable (maxAttempts windowSecs : Int)

/-- The window has not run out. -/
def isOpen (now : ℚ) (window : Window) : Bool := !decide ((windowSecs : ℚ) ≤ now - window.start)

/-- A check, on the window found open under its key. -/
def record (now : ℚ) (found : Option Window) : Option Int × Window :=
  let window := found.getD { start := now, count := 0 }
  if maxAttempts ≤ window.count then
    (some (max 1 ⌈(windowSecs : ℚ) - (now - window.start)⌉), window)
  else (none, { window with count := window.count + 1 })

def windows : Service String Window ℚ Timed Verdict where
  key := fun timed => timed.call.key
  now := Timed.now
  live := isOpen windowSecs
  access := fun timed found =>
    match timed.call with
    | .check _ =>
        ({ retryAfter := (record maxAttempts windowSecs timed.now found).1
           opened := found.isNone },
          some (record maxAttempts windowSecs timed.now found).2)
    | .reset _ => ({ retryAfter := none, opened := false }, none)
  lapses := by
    intro now later window order live
    simp only [isOpen, Bool.not_eq_true', decide_eq_false_iff_not] at live ⊢
    intro ended
    exact live (by linarith)

end Settings

/-- The window a check of the key would find. -/
def windowAt (limiter : FixedWindowLimiter) (key : String) (now : ℚ) : Option Window :=
  (limiter.windows.lookup key).filter (isOpen limiter.windowSecs now)

/-- A call on the limiter. -/
def limiterStep (limiter : FixedWindowLimiter) (timed : Timed) : Verdict × FixedWindowLimiter :=
  match timed.call with
  | .check key =>
      ({ retryAfter := (limiter.check key timed.now).1
         opened := (windowAt limiter key timed.now).isNone },
        (limiter.check key timed.now).2)
  | .reset key => ({ retryAfter := none, opened := false }, limiter.reset key)

section Limiter

variable {maxAttempts windowSecs : Int}

structure Valid (maxAttempts windowSecs : Int) (limiter : FixedWindowLimiter) : Prop where
  maxAttempts : limiter.maxAttempts = maxAttempts
  windowSecs : limiter.windowSecs = windowSecs
  distinct : Distinct limiter.windows

theorem check_swept {limiter : FixedWindowLimiter} (valid : Valid maxAttempts windowSecs limiter)
    (key : String) (now : ℚ) :
    limiterStep limiter ⟨now, .check key⟩ =
      ((sweptStep (windows maxAttempts windowSecs) limiter.windows ⟨now, .check key⟩).1,
        { limiter with windows :=
          (sweptStep (windows maxAttempts windowSecs) limiter.windows ⟨now, .check key⟩).2 }) := by
  obtain ⟨rfl, rfl, distinct⟩ := valid
  have found := distinct.lookup_filter (isOpen limiter.windowSecs now) key
  simp only [limiterStep, FixedWindowLimiter.check, windowAt, sweptStep, windows, LimiterCall.key,
    record, ← found]
  unfold isOpen
  split <;> rfl

theorem limiter_realizes :
    Realizes (windows maxAttempts windowSecs) (Valid maxAttempts windowSecs)
      (fun limiter key => limiter.windows.lookup key) limiterStep := by
  constructor
  · intro limiter timed valid
    obtain ⟨now, call⟩ := timed
    cases call with
    | check key =>
        rw [check_swept valid]
        exact ⟨valid.maxAttempts, valid.windowSecs,
          swept_distinct (windows maxAttempts windowSecs) valid.distinct ⟨now, .check key⟩⟩
    | reset key => exact ⟨valid.maxAttempts, valid.windowSecs, valid.distinct.filter _⟩
  · intro limiter timed valid
    obtain ⟨now, call⟩ := timed
    cases call with
    | check key =>
        rw [check_swept valid]
        exact swept_steps _ valid.distinct _
    | reset key => exact popped_steps _ limiter.windows _ _ fun _ => rfl

/-! ### The window of one key -/

variable (windowSecs) in
/-- What a check does: it opens a window when none is open, else it is counted
in the open window or, once that is full, refused until the window ends. -/
theorem check_cases (positive : 1 ≤ maxAttempts) (cell : Option Window) (now : ℚ) (key : String) :
    ((∀ window ∈ cell, (windowSecs : ℚ) ≤ now - window.start) ∧
      (windows maxAttempts windowSecs).cellStep cell ⟨now, .check key⟩ =
        ({ retryAfter := none, opened := true }, some { start := now, count := 1 })) ∨
    (∃ window, cell = some window ∧ now - window.start < windowSecs ∧
      (window.count : Int) < maxAttempts ∧
      (windows maxAttempts windowSecs).cellStep cell ⟨now, .check key⟩ =
        ({ retryAfter := none, opened := false },
          some { window with count := window.count + 1 })) ∨
    (∃ window, cell = some window ∧ now - window.start < windowSecs ∧
      maxAttempts ≤ window.count ∧
      (windows maxAttempts windowSecs).cellStep cell ⟨now, .check key⟩ =
        ({ retryAfter := some (max 1 ⌈(windowSecs : ℚ) - (now - window.start)⌉)
           opened := false }, some window)) := by
  have fresh : ¬ maxAttempts ≤ ((0 : Nat) : Int) := by omega
  cases cell with
  | none =>
      left
      constructor
      · intro window stored
        cases stored
      · simp only [Service.cellStep, windows, Option.filter_none, record, Option.getD_none,
          if_neg fresh]
        rfl
  | some window =>
      by_cases ended : (windowSecs : ℚ) ≤ now - window.start
      · left
        have lapsed : (some window).filter (isOpen windowSecs now) = none := by
          simp [isOpen, ended]
        constructor
        · intro stored same
          cases same
          exact ended
        · simp only [Service.cellStep, windows, lapsed, record, Option.getD_none, if_neg fresh]
          rfl
      · have running : (some window).filter (isOpen windowSecs now) = some window := by
          simp [isOpen, ended]
        right
        by_cases full : maxAttempts ≤ (window.count : Int)
        · right
          refine ⟨window, rfl, not_le.1 ended, full, ?_⟩
          simp only [Service.cellStep, windows, running, record, Option.getD_some, if_pos full]
          rfl
        · left
          refine ⟨window, rfl, not_le.1 ended, not_le.1 full, ?_⟩
          simp only [Service.cellStep, windows, running, record, Option.getD_some, if_neg full]
          rfl

theorem reset_step (cell : Option Window) (now : ℚ) (key : String) :
    (windows maxAttempts windowSecs).cellStep cell ⟨now, .reset key⟩ =
      ({ retryAfter := none, opened := false }, none) := rfl

/-- No window counts more than it may. -/
def Sound (maxAttempts : Int) (cell : Option Window) : Prop :=
  ∀ window ∈ cell, (window.count : Int) ≤ maxAttempts

variable (windowSecs) in
theorem sound_step (positive : 1 ≤ maxAttempts) {cell : Option Window} (timed : Timed)
    (sound : Sound maxAttempts cell) :
    Sound maxAttempts ((windows maxAttempts windowSecs).cellStep cell timed).2 := by
  obtain ⟨now, call⟩ := timed
  cases call with
  | reset key =>
      intro window stored
      cases stored
  | check key =>
      rcases check_cases windowSecs positive cell now key with
        ⟨_, step⟩ | ⟨window, _, _, room, step⟩ | ⟨window, rfl, _, _, step⟩
      · rw [step]
        intro window stored
        cases stored
        exact positive
      · rw [step]
        intro later stored
        cases stored
        push_cast
        omega
      · rw [step]
        exact sound

/-- A check that was let through. -/
def passes (entry : Timed × Verdict) : Bool :=
  match entry.1.call with
  | .check _ => entry.2.retryAfter.isNone
  | .reset _ => false

def isReset (timed : Timed) : Bool :=
  match timed.call with
  | .check _ => false
  | .reset _ => true

/-- The checks a window has left. -/
def spare (maxAttempts : Int) : Option Window → Int
  | none => 0
  | some window => maxAttempts - window.count

theorem spare_nonneg {cell : Option Window} (sound : Sound maxAttempts cell) :
    0 ≤ spare maxAttempts cell := by
  cases cell with
  | none => exact le_rfl
  | some window =>
      have counted := sound window rfl
      simp only [spare]
      omega

/-- As long as no window opens, the checks that pass are those the open one has left. -/
theorem passes_unopened (positive : 1 ≤ maxAttempts) (events : List Timed)
    {cell : Option Window} (sound : Sound maxAttempts cell)
    (unopened : ∀ entry ∈ log (windows maxAttempts windowSecs).cellStep cell events,
      entry.2.opened = false) :
    (((log (windows maxAttempts windowSecs).cellStep cell events).countP passes : Nat) : Int) ≤
      spare maxAttempts cell := by
  induction events generalizing cell with
  | nil => exact spare_nonneg sound
  | cons timed rest induction =>
      have here := unopened _ List.mem_cons_self
      have later := induction (sound_step windowSecs positive timed sound)
        fun entry member => unopened entry (List.mem_cons_of_mem _ member)
      obtain ⟨now, call⟩ := timed
      cases call with
      | reset key =>
          have nonneg := spare_nonneg sound
          rw [log_cons, List.countP_cons_of_neg (by simp [passes])]
          rw [reset_step] at later
          exact later.trans nonneg
      | check key =>
          rcases check_cases windowSecs positive cell now key with
            ⟨_, step⟩ | ⟨window, rfl, _, room, step⟩ | ⟨window, rfl, _, _, step⟩
          · rw [step] at here
            cases here
          · rw [step] at later
            rw [log_cons, step, List.countP_cons_of_pos (by simp [passes])]
            simp only [spare] at later ⊢
            push_cast at later ⊢
            omega
          · rw [step] at later
            rw [log_cons, step, List.countP_cons_of_neg (by simp [passes])]
            exact later

variable (windowSecs) in
/-- One window lets no more than its number through. -/
theorem window_passes (positive : 1 ≤ maxAttempts) (events : List Timed)
    {cell : Option Window} (sound : Sound maxAttempts cell)
    (unopened : ∀ entry ∈ (log (windows maxAttempts windowSecs).cellStep cell events).tail,
      entry.2.opened = false) :
    (((log (windows maxAttempts windowSecs).cellStep cell events).countP passes : Nat) : Int) ≤
      maxAttempts := by
  cases events with
  | nil => exact (show (0 : Int) ≤ maxAttempts by omega)
  | cons timed rest =>
      have later := passes_unopened positive rest
        (sound_step windowSecs positive timed sound) unopened
      obtain ⟨now, call⟩ := timed
      cases call with
      | reset key =>
          rw [reset_step] at later
          rw [log_cons, reset_step, List.countP_cons_of_neg (by simp [passes])]
          simp only [spare] at later ⊢
          omega
      | check key =>
          rcases check_cases windowSecs positive cell now key with
            ⟨_, step⟩ | ⟨window, rfl, _, room, step⟩ | ⟨window, rfl, _, full, step⟩
          · rw [step] at later
            rw [log_cons, step, List.countP_cons_of_pos (by simp [passes])]
            simp only [spare] at later
            push_cast at later ⊢
            omega
          · rw [step] at later
            rw [log_cons, step, List.countP_cons_of_pos (by simp [passes])]
            simp only [spare] at later
            push_cast at later ⊢
            omega
          · rw [step] at later
            rw [log_cons, step, List.countP_cons_of_neg (by simp [passes])]
            simp only [spare] at later ⊢
            omega

/-- Only a check opens a window, and only when the last one is over. -/
theorem opened_step (positive : 1 ≤ maxAttempts) {cell : Option Window} {timed : Timed}
    (opened : ((windows maxAttempts windowSecs).cellStep cell timed).1.opened = true) :
    (∀ window ∈ cell, (windowSecs : ℚ) ≤ timed.now - window.start) ∧
      ((windows maxAttempts windowSecs).cellStep cell timed).2 =
        some { start := timed.now, count := 1 } := by
  obtain ⟨now, call⟩ := timed
  cases call with
  | reset key => cases opened
  | check key =>
      rcases check_cases windowSecs positive cell now key with
        ⟨ended, step⟩ | ⟨window, _, _, _, step⟩ | ⟨window, _, _, _, step⟩
      · exact ⟨ended, by rw [step]⟩
      · rw [step] at opened
        cases opened
      · rw [step] at opened
        cases opened

variable (windowSecs) in
/-- Without a reset a key keeps a window, and none that started earlier. -/
theorem started_after (positive : 1 ≤ maxAttempts) {time : ℚ} (events : List Timed)
    (checks : ∀ timed ∈ events, isReset timed = false)
    (reached : ∀ timed ∈ events, time ≤ timed.now) (window : Window) (start : time ≤ window.start) :
    ∃ later, after (windows maxAttempts windowSecs).cellStep (some window) events = some later ∧
      time ≤ later.start := by
  induction events generalizing window with
  | nil => exact ⟨window, rfl, start⟩
  | cons timed rest induction =>
      have checked := checks timed List.mem_cons_self
      have here := reached timed List.mem_cons_self
      have follow := induction
        (fun timed member => checks timed (List.mem_cons_of_mem _ member))
        (fun timed member => reached timed (List.mem_cons_of_mem _ member))
      obtain ⟨now, call⟩ := timed
      cases call with
      | reset key => cases checked
      | check key =>
          rcases check_cases windowSecs positive (some window) now key with
            ⟨_, step⟩ | ⟨found, same, _, _, step⟩ | ⟨found, same, _, _, step⟩
          · rw [after_cons, step]
            exact follow _ here
          · cases same
            rw [after_cons, step]
            exact follow _ start
          · cases same
            rw [after_cons, step]
            exact follow _ start

/-- Two windows of a key that nobody reset in between start a window's length apart. -/
theorem openings_apart (positive : 1 ≤ maxAttempts) {events : List Timed} {cell : Option Window}
    (ordered : (windows maxAttempts windowSecs).InOrder events)
    {earlier between later : List (Timed × Verdict)} {first second : Timed × Verdict}
    (logged : log (windows maxAttempts windowSecs).cellStep cell events =
      earlier ++ first :: (between ++ second :: later))
    (opens : first.2.opened = true) (reopens : second.2.opened = true)
    (checks : ∀ entry ∈ between, isReset entry.1 = false) :
    first.1.now + windowSecs ≤ second.1.now := by
  have whole := log_events (windows maxAttempts windowSecs).cellStep cell events
  rw [logged] at whole
  obtain ⟨answered, rest⟩ := log_entry logged
  rw [answered] at opens
  have opened := (opened_step positive opens).2
  rw [opened] at rest
  have reanswered := (log_entry rest.symm).1
  have reached : ∀ timed ∈ between.map Prod.fst, first.1.now ≤ timed.now := by
    intro timed member
    rw [← whole] at ordered
    simp only [Service.InOrder, List.map_append, List.map_cons, List.pairwise_append,
      List.pairwise_cons] at ordered
    exact ordered.2.1.1 timed (List.mem_append_left _ member)
  obtain ⟨window, kept, start⟩ := started_after windowSecs positive
    (between.map Prod.fst)
    (by
      intro timed member
      obtain ⟨entry, listed, rfl⟩ := List.mem_map.1 member
      exact checks entry listed)
    reached { start := first.1.now, count := 1 } le_rfl
  rw [reanswered, kept] at reopens
  have ended := (opened_step positive reopens).1 window rfl
  linarith

/-! ### Periods as long as a window -/

/-- A check that was let through in a period. -/
def counted (start finish : ℚ) (entry : Timed × Verdict) : Bool :=
  passes entry && decide (start ≤ entry.1.now) && decide (entry.1.now ≤ finish)

theorem uncounted_reset {start finish : ℚ} (now : ℚ) (key : String) (verdict : Verdict) :
    counted start finish (⟨now, .reset key⟩, verdict) = false := rfl

theorem uncounted_refused {start finish : ℚ} (timed : Timed) (seconds : Int) (opened : Bool) :
    counted start finish (timed, { retryAfter := some seconds, opened := opened }) = false := by
  obtain ⟨now, call⟩ := timed
  cases call <;> rfl

theorem uncounted_outside {start finish : ℚ} {timed : Timed} (verdict : Verdict)
    (outside : timed.now < start ∨ finish < timed.now) :
    counted start finish (timed, verdict) = false := by
  rcases outside with early | late
  · simp [counted, not_le.2 early]
  · simp [counted, not_le.2 late]

theorem countP_cons_le {entry : Timed × Verdict} {rest : List (Timed × Verdict)}
    {start finish : ℚ} :
    (((entry :: rest).countP (counted start finish) : Nat) : Int) ≤
      (rest.countP (counted start finish) : Nat) + 1 := by
  rw [List.countP_cons]
  split <;> push_cast <;> omega

/-- Once the times are past the period nothing is counted. -/
theorem counted_past {start finish : ℚ} {timed : Timed} {rest : List Timed}
    (ordered : (windows maxAttempts windowSecs).InOrder (timed :: rest)) (late : finish < timed.now)
    (cell : Option Window) :
    (log (windows maxAttempts windowSecs).cellStep cell (timed :: rest)).countP
      (counted start finish) = 0 := by
  apply log_countP_zero
  intro next member verdict
  apply uncounted_outside verdict
  right
  cases member with
  | head => exact late
  | tail _ member => exact lt_of_lt_of_le late ((List.pairwise_cons.1 ordered).1 next member)

section Periods

variable {start finish : ℚ}

variable (start finish) in
/-- Up to the end of the open window. -/
theorem counted_one (positive : 1 ≤ maxAttempts) (events : List Timed)
    (checks : ∀ timed ∈ events, isReset timed = false)
    (ordered : (windows maxAttempts windowSecs).InOrder events) (window : Window)
    (sound : (window.count : Int) ≤ maxAttempts) (ends : finish < window.start + windowSecs) :
    (((log (windows maxAttempts windowSecs).cellStep (some window) events).countP
      (counted start finish) : Nat) : Int) ≤ maxAttempts - window.count := by
  induction events generalizing window with
  | nil => exact sub_nonneg.2 sound
  | cons timed rest induction =>
      by_cases late : finish < timed.now
      · rw [counted_past ordered late]
        exact sub_nonneg.2 sound
      · have checked := checks timed List.mem_cons_self
        have follow := induction
          (fun timed member => checks timed (List.mem_cons_of_mem _ member))
          (List.pairwise_cons.1 ordered).2
        obtain ⟨now, call⟩ := timed
        cases call with
        | reset key => cases checked
        | check key =>
            dsimp only at late
            rcases check_cases windowSecs positive (some window) now key with
              ⟨ended, step⟩ | ⟨found, same, _, room, step⟩ | ⟨found, same, _, full, step⟩
            · have past := ended window rfl
              exact absurd (show finish < now by linarith) late
            · cases same
              have later := follow { window with count := window.count + 1 }
                (by push_cast; omega) ends
              rw [log_cons, step]
              apply countP_cons_le.trans
              push_cast at later ⊢
              omega
            · cases same
              rw [log_cons, step, List.countP_cons_of_neg (by simp [uncounted_refused])]
              exact follow _ sound ends

variable (start finish) in
/-- Up to the end of a window that opens right after the open one. -/
theorem counted_two (positive : 1 ≤ maxAttempts) (events : List Timed)
    (checks : ∀ timed ∈ events, isReset timed = false)
    (ordered : (windows maxAttempts windowSecs).InOrder events) (window : Window)
    (sound : (window.count : Int) ≤ maxAttempts) (ends : finish < window.start + 2 * windowSecs) :
    (((log (windows maxAttempts windowSecs).cellStep (some window) events).countP
      (counted start finish) : Nat) : Int) ≤ maxAttempts - window.count + maxAttempts := by
  induction events generalizing window with
  | nil =>
      simp only [log_nil, List.countP_nil]
      omega
  | cons timed rest induction =>
      by_cases late : finish < timed.now
      · rw [counted_past ordered late]
        omega
      · have checked := checks timed List.mem_cons_self
        have restChecks : ∀ timed ∈ rest, isReset timed = false :=
          fun timed member => checks timed (List.mem_cons_of_mem _ member)
        have restOrdered := (List.pairwise_cons.1 ordered).2
        obtain ⟨now, call⟩ := timed
        cases call with
        | reset key => cases checked
        | check key =>
            dsimp only at late
            rcases check_cases windowSecs positive (some window) now key with
              ⟨ended, step⟩ | ⟨found, same, _, room, step⟩ | ⟨found, same, _, full, step⟩
            · have past := ended window rfl
              have later := counted_one start finish positive rest restChecks
                restOrdered { start := now, count := 1 } positive
                (by dsimp only; linarith)
              rw [log_cons, step]
              apply countP_cons_le.trans
              push_cast at later ⊢
              omega
            · cases same
              have later := induction restChecks restOrdered
                { window with count := window.count + 1 } (by push_cast; omega) ends
              rw [log_cons, step]
              apply countP_cons_le.trans
              push_cast at later ⊢
              omega
            · cases same
              rw [log_cons, step, List.countP_cons_of_neg (by simp [uncounted_refused])]
              exact induction restChecks restOrdered _ sound ends

/-- A period meets two windows at most: the first check in it finds one open that
ends in the period, or opens one. -/
theorem counted_period (positive : 1 ≤ maxAttempts) (window : 0 < windowSecs)
    (length : finish ≤ start + windowSecs) (events : List Timed)
    (checks : ∀ timed ∈ events, isReset timed = false)
    (ordered : (windows maxAttempts windowSecs).InOrder events) {cell : Option Window}
    (sound : Sound maxAttempts cell) :
    (((log (windows maxAttempts windowSecs).cellStep cell events).countP
      (counted start finish) : Nat) : Int) ≤ 2 * maxAttempts := by
  have secs : (0 : ℚ) < windowSecs := Int.cast_pos.2 window
  induction events generalizing cell with
  | nil =>
      simp only [log_nil, List.countP_nil]
      omega
  | cons timed rest induction =>
      have checked := checks timed List.mem_cons_self
      have restChecks : ∀ timed ∈ rest, isReset timed = false :=
        fun timed member => checks timed (List.mem_cons_of_mem _ member)
      have restOrdered := (List.pairwise_cons.1 ordered).2
      by_cases early : timed.now < start
      · rw [log_cons, List.countP_cons_of_neg (by simp [uncounted_outside _ (.inl early)])]
        exact induction restChecks restOrdered (sound_step windowSecs positive timed sound)
      · obtain ⟨now, call⟩ := timed
        dsimp only at early
        cases call with
        | reset key => cases checked
        | check key =>
            rcases check_cases windowSecs positive cell now key with
              ⟨ended, step⟩ | ⟨found, rfl, running, room, step⟩ | ⟨found, rfl, running, full, step⟩
            · have later := counted_two start finish positive rest restChecks
                restOrdered { start := now, count := 1 } positive
                (by dsimp only; linarith)
              rw [log_cons, step]
              apply countP_cons_le.trans
              push_cast at later ⊢
              omega
            · have later := counted_two start finish positive rest restChecks
                restOrdered { found with count := found.count + 1 }
                (by push_cast; omega) (by dsimp only; linarith)
              rw [log_cons, step]
              apply countP_cons_le.trans
              push_cast at later ⊢
              omega
            · have later := counted_two start finish positive rest restChecks
                restOrdered _ (sound found rfl) (by linarith)
              rw [log_cons, step, List.countP_cons_of_neg (by simp [uncounted_refused])]
              dsimp only
              omega

variable (start finish) in
/-- A reset that ends the events is not counted either. -/
theorem counted_segment (positive : 1 ≤ maxAttempts) (window : 0 < windowSecs)
    (length : finish ≤ start + windowSecs) (events : List Timed)
    (checks : ∀ timed ∈ events.dropLast, isReset timed = false)
    (ordered : (windows maxAttempts windowSecs).InOrder events) {cell : Option Window}
    (sound : Sound maxAttempts cell) :
    (((log (windows maxAttempts windowSecs).cellStep cell events).countP
      (counted start finish) : Nat) : Int) ≤ 2 * maxAttempts := by
  cases events using List.reverseRecOn with
  | nil => exact counted_period positive window length [] (by simp) ordered sound
  | append_singleton init last _ =>
      rw [List.dropLast_concat] at checks
      by_cases resets : isReset last = false
      · apply counted_period positive window length _ _ ordered sound
        intro timed member
        rcases List.mem_append.1 member with inside | final
        · exact checks timed inside
        · rw [List.mem_singleton.1 final]
          exact resets
      · have initial := counted_period positive window length init checks
          (List.pairwise_append.1 ordered).1 sound
        obtain ⟨now, call⟩ := last
        cases call with
        | check key => exact absurd rfl resets
        | reset key =>
            rw [log_append, List.countP_append]
            simpa [uncounted_reset] using initial

end Periods

/-- A key that waited as long as it was told is let through. -/
theorem retry_passes (positive : 1 ≤ maxAttempts) {events : List Timed} {cell : Option Window}
    {earlier later : List (Timed × Verdict)} {first second : Timed × Verdict} {seconds : Int}
    (logged : log (windows maxAttempts windowSecs).cellStep cell events =
      earlier ++ first :: second :: later)
    (refused : first.2.retryAfter = some seconds)
    (waited : first.1.now + seconds ≤ second.1.now) : second.2.retryAfter = none := by
  obtain ⟨answered, rest⟩ := log_entry logged
  rw [List.map_cons, log_cons] at rest
  have reanswered := congrArg Prod.snd (List.cons.inj rest).1
  obtain ⟨⟨now, call⟩, verdict⟩ := first
  obtain ⟨⟨then_, repeated⟩, again⟩ := second
  dsimp only at *
  cases call with
  | reset key =>
      rw [answered] at refused
      cases refused
  | check key =>
      rcases check_cases windowSecs positive (after
          (windows maxAttempts windowSecs).cellStep cell (earlier.map Prod.fst)) now key with
        ⟨_, step⟩ | ⟨_, _, _, _, step⟩ | ⟨window, _, running, _, step⟩
      · rw [answered, step] at refused
        cases refused
      · rw [answered, step] at refused
        cases refused
      · rw [answered, step] at refused
        have rounded : (windowSecs : ℚ) - (now - window.start) ≤ seconds := by
          rw [← Option.some.inj refused]
          apply (Int.le_ceil _).trans
          exact_mod_cast le_max_right _ _
        rw [step] at reanswered
        cases repeated with
        | reset key => rw [reanswered, reset_step]
        | check key =>
            rcases check_cases windowSecs positive (some window) then_ key with
              ⟨_, restep⟩ | ⟨_, _, _, _, restep⟩ | ⟨found, same, still, _, _⟩
            · rw [reanswered, restep]
            · rw [reanswered, restep]
            · cases same
              linarith

/-! ### Refusals -/

/-- A call changes no other key's window. -/
theorem other_window {limiter : FixedWindowLimiter} (valid : Valid maxAttempts windowSecs limiter)
    (timed : Timed) {other : String} (different : other ≠ timed.call.key) {later : ℚ}
    (order : timed.now ≤ later) :
    windowAt (limiterStep limiter timed).2 other later = windowAt limiter other later := by
  have keeps := limiter_realizes.keeps limiter timed valid
  have steps := limiter_realizes.steps limiter timed valid
  unfold windowAt
  rw [keeps.windowSecs, valid.windowSecs]
  exact steps.others other different later order

/-- A refused check changes no window that a later check could find. -/
theorem refused_records_nothing (positive : 1 ≤ maxAttempts) {limiter : FixedWindowLimiter}
    (valid : Valid maxAttempts windowSecs limiter) {now : ℚ} {key : String}
    (refused : (limiterStep limiter ⟨now, .check key⟩).1.retryAfter ≠ none) (other : String)
    {later : ℚ} (order : now ≤ later) :
    windowAt (limiterStep limiter ⟨now, .check key⟩).2 other later =
      windowAt limiter other later := by
  by_cases same : other = key
  · subst same
    have keeps := limiter_realizes.keeps limiter ⟨now, .check other⟩ valid
    have steps := limiter_realizes.steps limiter ⟨now, .check other⟩ valid
    unfold windowAt
    rw [keeps.windowSecs, valid.windowSecs]
    have own := steps.own later order
    rw [steps.answers] at refused
    rcases check_cases windowSecs positive (limiter.windows.lookup other) now other
      with ⟨_, step⟩ | ⟨_, _, _, _, step⟩ | ⟨window, found, _, _, step⟩
    · exact absurd (congrArg (fun result => result.1.retryAfter) step) refused
    · exact absurd (congrArg (fun result => result.1.retryAfter) step) refused
    · rw [found]
      exact own.trans (by
        dsimp only [windows, LimiterCall.key] at step ⊢
        rw [step])
  · exact other_window valid ⟨now, .check key⟩ same order

end Limiter

end OAuth2Server.FixedWindows
