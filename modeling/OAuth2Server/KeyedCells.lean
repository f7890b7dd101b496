import Mathlib.Order.Lattice
import Mathlib.Data.List.Basic

/-!
# Cells under a key

A service keeps one cell for each key. An event comes at a time and is about one
key; a cell that has lapsed by then counts as empty. A store may drop lapsed
cells of any key at any step: no later event can tell, and the events about a
key are answered as if the store held that one cell.
-/

namespace OAuth2Server.KeyedCells

set_option autoImplicit false

structure Service (κ σ τ E ο : Type) [LE τ] where
  key : E → κ
  now : E → τ
  live : τ → σ → Bool
  access : E → Option σ → ο × Option σ
  lapses : ∀ {now later : τ} {cell : σ}, now ≤ later → live later cell = true → live now cell = true

variable {κ σ τ E ο S : Type}

/-! ### Logs -/

/-- Each event of a run with its answer. -/
def log (step : S → E → ο × S) : S → List E → List (E × ο)
  | _, [] => []
  | store, event :: rest =>
      (event, (step store event).1) :: log step (step store event).2 rest

/-- The store a run ends with. -/
def after (step : S → E → ο × S) (store : S) (events : List E) : S :=
  events.foldl (fun store event => (step store event).2) store

@[simp] theorem log_nil (step : S → E → ο × S) (store : S) : log step store [] = [] := rfl

@[simp] theorem log_cons (step : S → E → ο × S) (store : S) (event : E) (rest : List E) :
    log step store (event :: rest) =
      (event, (step store event).1) :: log step (step store event).2 rest := rfl

@[simp] theorem after_cons (step : S → E → ο × S) (store : S) (event : E) (rest : List E) :
    after step store (event :: rest) = after step (step store event).2 rest := rfl

theorem log_events (step : S → E → ο × S) (store : S) (events : List E) :
    (log step store events).map Prod.fst = events := by
  induction events generalizing store with
  | nil => rfl
  | cons event rest induction => simp [induction]

theorem log_append (step : S → E → ο × S) (store : S) (first second : List E) :
    log step store (first ++ second) =
      log step store first ++ log step (after step store first) second := by
  induction first generalizing store with
  | nil => rfl
  | cons event rest induction => simp [induction]

theorem after_append (step : S → E → ο × S) (store : S) (first second : List E) :
    after step store (first ++ second) = after step (after step store first) second :=
  List.foldl_append

/-- What steps keep holds at the end of a run. -/
theorem after_keeps {step : S → E → ο × S} {holds : S → Prop}
    (keeps : ∀ store event, holds store → holds (step store event).2) (events : List E)
    {store : S} (start : holds store) : holds (after step store events) := by
  induction events generalizing store with
  | nil => exact start
  | cons event rest induction => exact induction (keeps store event start)

theorem log_countP_zero {step : S → E → ο × S} {counted : E × ο → Bool} {events : List E}
    (never : ∀ event ∈ events, ∀ answer, counted (event, answer) = false) (store : S) :
    (log step store events).countP counted = 0 := by
  rw [List.countP_eq_zero]
  intro entry member
  have listed := List.mem_map_of_mem (f := Prod.fst) member
  rw [log_events] at listed
  rw [never entry.1 listed entry.2]
  exact Bool.false_ne_true

/-- What every step's answer satisfies, from the states that steps keep to, every
entry of a log satisfies. -/
theorem log_forall {step : S → E → ο × S} (holds : S → Prop) {good : E × ο → Prop}
    (keeps : ∀ store event, holds store → holds (step store event).2)
    (each : ∀ store event, holds store → good (event, (step store event).1)) (events : List E)
    {store : S} (start : holds store) : ∀ entry ∈ log step store events, good entry := by
  induction events generalizing store with
  | nil =>
      intro entry member
      cases member
  | cons event rest induction =>
      intro entry member
      cases member with
      | head => exact each store event start
      | tail _ member => exact induction (keeps store event start) entry member

/-- A log splits where its events do. -/
theorem log_split {step : S → E → ο × S} {store : S} {events : List E}
    {earlier later : List (E × ο)} (logged : log step store events = earlier ++ later) :
    log step store (earlier.map Prod.fst) = earlier ∧
      log step (after step store (earlier.map Prod.fst)) (later.map Prod.fst) = later := by
  have whole := log_events step store events
  rw [logged, List.map_append] at whole
  rw [← whole, log_append] at logged
  have lengths : (log step store (earlier.map Prod.fst)).length = earlier.length := by
    rw [← List.length_map Prod.fst, log_events, List.length_map]
  exact List.append_inj logged lengths

/-- An entry of a log was answered by the store that the entries before it led to. -/
theorem log_entry {step : S → E → ο × S} {store : S} {events : List E}
    {earlier later : List (E × ο)} {entry : E × ο}
    (logged : log step store events = earlier ++ entry :: later) :
    entry.2 = (step (after step store (earlier.map Prod.fst)) entry.1).1 ∧
      later = log step (step (after step store (earlier.map Prod.fst)) entry.1).2
        (later.map Prod.fst) := by
  have heads := List.cons.inj (log_split logged).2
  exact ⟨(congrArg Prod.snd heads.1).symm, heads.2.symm⟩

/-! ### Cells that no later event tells apart -/

variable [LinearOrder τ] {service : Service κ σ τ E ο}

/-- What an event makes of its cell, which counts as empty once it has lapsed. -/
def Service.cellStep (service : Service κ σ τ E ο) (cell : Option σ) (event : E) : ο × Option σ :=
  service.access event (cell.filter (service.live (service.now event)))

def Alike (service : Service κ σ τ E ο) (clock : τ) (first second : Option σ) : Prop :=
  ∀ later, clock ≤ later →
    first.filter (service.live later) = second.filter (service.live later)

variable {clock now : τ} {first second third : Option σ} {event : E}

theorem Alike.refl (cell : Option σ) : Alike service clock cell cell := fun _ _ => rfl

theorem Alike.trans (one : Alike service clock first second)
    (two : Alike service clock second third) : Alike service clock first third :=
  fun later order => (one later order).trans (two later order)

theorem Alike.symm (alike : Alike service clock first second) :
    Alike service clock second first :=
  fun later order => (alike later order).symm

theorem Alike.mono (alike : Alike service clock first second) (order : clock ≤ now) :
    Alike service now first second :=
  fun later reached => alike later (le_trans order reached)

/-- Dropping a lapsed cell changes nothing. -/
theorem alike_filter (service : Service κ σ τ E ο) (clock : τ) (cell : Option σ) :
    Alike service clock (cell.filter (service.live clock)) cell := by
  intro later order
  cases cell with
  | none => rfl
  | some cell =>
      cases kept : service.live clock cell with
      | true => simp [Option.filter, kept]
      | false =>
          have lapsed : service.live later cell = false := by
            cases still : service.live later cell with
            | false => rfl
            | true => rw [service.lapses order still] at kept; cases kept
          simp [Option.filter, kept, lapsed]

theorem Alike.cell_step (alike : Alike service (service.now event) first second) :
    service.cellStep first event = service.cellStep second event := by
  unfold Service.cellStep
  rw [alike _ le_rfl]

/-! ### Stores -/

/-- A step of a store: the event's own cell is accessed, and the others stay
what they were to every later event. -/
structure Steps (service : Service κ σ τ E ο) (event : E) (before later : κ → Option σ)
    (answer : ο) : Prop where
  answers : answer = (service.cellStep (before (service.key event)) event).1
  own : Alike service (service.now event) (later (service.key event))
    (service.cellStep (before (service.key event)) event).2
  others : ∀ key, key ≠ service.key event →
    Alike service (service.now event) (later key) (before key)

/-- Every step of a valid store is one of the service's and leaves it valid. -/
structure Realizes (service : Service κ σ τ E ο) (valid : S → Prop) (view : S → κ → Option σ)
    (step : S → E → ο × S) : Prop where
  keeps : ∀ store event, valid store → valid (step store event).2
  steps : ∀ store event, valid store →
    Steps service event (view store) (view (step store event).2) (step store event).1

def Service.InOrder (service : Service κ σ τ E ο) (events : List E) : Prop :=
  events.Pairwise fun event later => service.now event ≤ service.now later

variable [DecidableEq κ] {valid : S → Prop} {view : S → κ → Option σ} {step : S → E → ο × S}

/-- After a step the cell of any key is as if it alone had been kept. -/
theorem Steps.alike {before later : κ → Option σ} {answer : ο}
    (steps : Steps service event before later answer) (key : κ) {cell : Option σ}
    (alike : Alike service (service.now event) (before key) cell) :
    Alike service (service.now event) (later key)
      (if service.key event = key then (service.cellStep cell event).2 else cell) := by
  by_cases same : service.key event = key
  · subst same
    rw [if_pos rfl, ← alike.cell_step]
    exact steps.own
  · rw [if_neg same]
    exact (steps.others key fun swapped => same swapped.symm).trans alike

/-- The events about a key are answered as if the store held its cell alone. -/
theorem Realizes.log_about (realizes : Realizes service valid view step) (key : κ)
    {events : List E} (ordered : service.InOrder events) {store : S} (start : valid store)
    {cell : Option σ}
    (alike : ∀ event ∈ events, Alike service (service.now event) (view store key) cell) :
    (log step store events).filter (fun entry => service.key entry.1 = key) =
      log service.cellStep cell (events.filter fun event => service.key event = key) := by
  induction events generalizing store cell with
  | nil => rfl
  | cons event rest induction =>
      obtain ⟨first, ordered⟩ := List.pairwise_cons.1 ordered
      have steps := realizes.steps store event start
      have here := alike event List.mem_cons_self
      have moved := steps.alike key here
      have follows := induction ordered (realizes.keeps store event start) fun later member =>
        moved.mono (first later member)
      rw [log_cons]
      by_cases same : service.key event = key
      · rw [if_pos same] at follows
        rw [List.filter_cons_of_pos (by simpa using same),
          List.filter_cons_of_pos (by simpa using same), log_cons, follows, steps.answers]
        subst same
        rw [here.cell_step]
      · rw [if_neg same] at follows
        rw [List.filter_cons_of_neg (by simpa using same),
          List.filter_cons_of_neg (by simpa using same), follows]

/-- A store that hears of one key only is that key's cell. -/
theorem Realizes.log_only (realizes : Realizes service valid view step) (key : κ)
    {events : List E} (ordered : service.InOrder events) {store : S} (start : valid store)
    {cell : Option σ}
    (alike : ∀ event ∈ events, Alike service (service.now event) (view store key) cell)
    (about : ∀ event ∈ events, service.key event = key) :
    log step store events = log service.cellStep cell events := by
  have logged := realizes.log_about key ordered start alike
  have entries : ∀ entry ∈ log step store events, service.key entry.1 = key := by
    intro entry member
    have listed := List.mem_map_of_mem (f := Prod.fst) member
    rw [log_events] at listed
    exact about entry.1 listed
  rw [List.filter_eq_self.2 fun entry member => by simpa using entries entry member,
    List.filter_eq_self.2 fun event member => by simpa using about event member] at logged
  exact logged

/-- Two stores that realize the service answer every run alike. -/
theorem Realizes.log_eq {S' : Type} {valid' : S' → Prop} {view' : S' → κ → Option σ}
    {step' : S' → E → ο × S'} (realizes : Realizes service valid view step)
    (realizes' : Realizes service valid' view' step') {events : List E}
    (ordered : service.InOrder events) {store : S} {store' : S'} (start : valid store)
    (start' : valid' store')
    (alike : ∀ event ∈ events, ∀ key,
      Alike service (service.now event) (view store key) (view' store' key)) :
    log step store events = log step' store' events := by
  induction events generalizing store store' with
  | nil => rfl
  | cons event rest induction =>
      obtain ⟨first, ordered⟩ := List.pairwise_cons.1 ordered
      have steps := realizes.steps store event start
      have steps' := realizes'.steps store' event start'
      have here := alike event List.mem_cons_self
      have answers : (step store event).1 = (step' store' event).1 := by
        rw [steps.answers, steps'.answers, (here _).cell_step]
      rw [log_cons, log_cons, answers]
      congr 1
      apply induction ordered (realizes.keeps store event start) (realizes'.keeps store' event start')
      intro later member key
      apply Alike.mono _ (first later member)
      have one := steps.alike key (here key)
      have two := steps'.alike key (Alike.refl (view' store' key))
      exact one.trans two.symm

end OAuth2Server.KeyedCells
