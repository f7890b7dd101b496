import OAuth2Server.Interaction
import Mathlib.Logic.Function.Basic

/-!
# Programs whose operations interleave

A pool holds one world and any number of programs over it. A schedule names
the program that moves next; one move performs one operation, so every
operation is atomic and every order of operations is some schedule. The
history of a program records the operations it performed with their answers.

An invariant of the world and of the abstract states of all programs is proved
one operation at a time (`exec_invariant`), and a fact about one program's
history likewise (`history_invariant`).
-/

namespace OAuth2Server.Interleaving

open OAuth2Server.Interaction OAuth2Server.Interaction.Program

set_option autoImplicit false

/-- One performed operation with the answer it got. -/
structure Event (S : Signature) where
  op : S.Op
  answer : S.Ans op

/-- The program may perform these operations, get these answers and end so. The
answers are whatever the rest of the world makes of them. -/
def Ends {S : Signature} {ε α : Type} : Program S ε α → List (Event S) → Except ε α → Prop
  | .done value, events, outcome => events = [] ∧ outcome = .ok value
  | .fail error, events, outcome => events = [] ∧ outcome = .error error
  | .call op next, events, outcome =>
      ∃ answer rest, events = ⟨op, answer⟩ :: rest ∧ Ends (next answer) rest outcome

/-- Only operations of the footprint are performed. -/
theorem Ends.within {S : Signature} {ε α : Type} {footprint : S.Op → Prop} {raises : ε → Prop}
    {program : Program S ε α} {events : List (Event S)} {outcome : Except ε α}
    (ends : Ends program events outcome) (uses : Uses footprint raises program) (event : Event S)
    (performed : event ∈ events) : footprint event.op := by
  induction program generalizing events with
  | done value => simp [ends.1] at performed
  | fail error => simp [ends.1] at performed
  | call op next induction =>
      obtain ⟨answer, rest, same, later⟩ := ends
      rw [same] at performed
      rcases List.mem_cons.1 performed with first | other
      · rw [first]
        exact uses.1
      · exact induction answer later (uses.2 answer) other

structure Pool (S : Signature) (σ ε α ι : Type) where
  world : σ
  rest : ι → Program S ε α
  history : ι → List (Event S)

namespace Pool

variable {S : Signature} {σ ε α ι M : Type} [DecidableEq ι]

/-- Every program at its beginning. -/
def start (world : σ) (programs : ι → Program S ε α) : Pool S σ ε α ι where
  world := world
  rest := programs
  history := fun _ => []

/-- `thread` performs its next operation; a finished program does not move. -/
def step (interp : Interpretation S σ) (pool : Pool S σ ε α ι) (thread : ι) :
    Pool S σ ε α ι :=
  match pool.rest thread with
  | .call op next =>
      { world := (interp op pool.world).2
        rest := Function.update pool.rest thread (next (interp op pool.world).1)
        history := Function.update pool.history thread
          (pool.history thread ++ [⟨op, (interp op pool.world).1⟩]) }
  | .done _ => pool
  | .fail _ => pool

def exec (interp : Interpretation S σ) (pool : Pool S σ ε α ι) (schedule : List ι) :
    Pool S σ ε α ι :=
  schedule.foldl (step interp) pool

/-- `condition` holds in the state before every move of the schedule. -/
def Along (interp : Interpretation S σ) (condition : Pool S σ ε α ι → ι → Prop) :
    Pool S σ ε α ι → List ι → Prop
  | _, [] => True
  | pool, thread :: later =>
      condition pool thread ∧ Along interp condition (step interp pool thread) later

/-- What `thread` is about to do. -/
def NextOp (pool : Pool S σ ε α ι) (thread : ι) (op : S.Op) : Prop :=
  ∃ next, pool.rest thread = .call op next

/-- The operation `thread` is about to perform. -/
def upcoming? (pool : Pool S σ ε α ι) (thread : ι) : Option S.Op :=
  match pool.rest thread with
  | .call op _ => some op
  | .done _ => none
  | .fail _ => none

/-- The operations of a run in their order, each with the program that performed it. -/
def trace (interp : Interpretation S σ) : Pool S σ ε α ι → List ι → List (ι × Event S)
  | _, [] => []
  | pool, thread :: later =>
      match pool.rest thread with
      | .call op _ =>
          (thread, ⟨op, (interp op pool.world).1⟩) :: trace interp (step interp pool thread) later
      | .done _ => trace interp (step interp pool thread) later
      | .fail _ => trace interp (step interp pool thread) later

/-- The answer of a program that has finished. -/
def answer? (pool : Pool S σ α α ι) (thread : ι) : Option α := (pool.rest thread).answer?

/-- The abstract state a history leads to. -/
def track (contract : Contract S M) (first : M) (history : List (Event S)) : M :=
  history.foldl (fun state event => contract.after state event.op event.answer) first

def phase (contract : Contract S M) (first : ι → M) (pool : Pool S σ ε α ι) (thread : ι) : M :=
  track contract (first thread) (pool.history thread)

@[simp] theorem exec_nil (interp : Interpretation S σ) (pool : Pool S σ ε α ι) :
    exec interp pool [] = pool := rfl

@[simp] theorem exec_cons (interp : Interpretation S σ) (pool : Pool S σ ε α ι) (thread : ι)
    (later : List ι) :
    exec interp pool (thread :: later) = exec interp (step interp pool thread) later := rfl

theorem exec_append (interp : Interpretation S σ) (pool : Pool S σ ε α ι)
    (earlier later : List ι) :
    exec interp pool (earlier ++ later) = exec interp (exec interp pool earlier) later :=
  List.foldl_append

theorem along_append (interp : Interpretation S σ) (condition : Pool S σ ε α ι → ι → Prop)
    (pool : Pool S σ ε α ι) (earlier later : List ι) :
    Along interp condition pool (earlier ++ later) ↔
      Along interp condition pool earlier ∧
        Along interp condition (exec interp pool earlier) later := by
  induction earlier generalizing pool with
  | nil => simp [Along]
  | cons thread rest induction =>
      simp only [List.cons_append, Along, exec_cons, induction, and_assoc]

theorem along_of_forall (interp : Interpretation S σ) {condition : Pool S σ ε α ι → ι → Prop}
    (always : ∀ pool thread, condition pool thread) (pool : Pool S σ ε α ι)
    (schedule : List ι) : Along interp condition pool schedule := by
  induction schedule generalizing pool with
  | nil => trivial
  | cons thread rest induction => exact ⟨always pool thread, induction _⟩

theorem Along.mono {interp : Interpretation S σ} {stronger condition : Pool S σ ε α ι → ι → Prop}
    (weaker : ∀ pool thread, stronger pool thread → condition pool thread)
    {pool : Pool S σ ε α ι} {schedule : List ι} (along : Along interp stronger pool schedule) :
    Along interp condition pool schedule := by
  induction schedule generalizing pool with
  | nil => trivial
  | cons thread rest induction => exact ⟨weaker _ _ along.1, induction along.2⟩

/-- A computable condition can be evaluated along a run. -/
instance decidableAlong (interp : Interpretation S σ) (condition : Pool S σ ε α ι → ι → Prop)
    [decides : ∀ pool thread, Decidable (condition pool thread)] :
    ∀ pool schedule, Decidable (Along interp condition pool schedule)
  | _, [] => isTrue trivial
  | pool, thread :: later =>
      have := decides pool thread
      have := decidableAlong interp condition (step interp pool thread) later
      inferInstanceAs (Decidable (_ ∧ _))

omit [DecidableEq ι] in
theorem NextOp.upcoming {pool : Pool S σ ε α ι} {thread : ι} {op : S.Op}
    (next : pool.NextOp thread op) : pool.upcoming? thread = some op := by
  obtain ⟨rest, here⟩ := next
  unfold upcoming?
  rw [here]

omit [DecidableEq ι] in
@[simp] theorem phase_start (contract : Contract S M) (first : ι → M) (world : σ)
    (programs : ι → Program S ε α) :
    phase contract first (start world programs) = first := rfl

theorem step_of_call (interp : Interpretation S σ) {pool : Pool S σ ε α ι} {thread : ι}
    {op : S.Op} {next : S.Ans op → Program S ε α} (upcoming : pool.rest thread = .call op next) :
    step interp pool thread =
      { world := (interp op pool.world).2
        rest := Function.update pool.rest thread (next (interp op pool.world).1)
        history := Function.update pool.history thread
          (pool.history thread ++ [⟨op, (interp op pool.world).1⟩]) } := by
  unfold step
  rw [upcoming]

/-- A move either performs the operation the program is at, or changes nothing. -/
theorem step_cases (interp : Interpretation S σ) (pool : Pool S σ ε α ι) (thread : ι) :
    (∃ op next, pool.rest thread = .call op next) ∨ step interp pool thread = pool := by
  cases upcoming : pool.rest thread with
  | done value =>
      right
      unfold step
      rw [upcoming]
  | fail error =>
      right
      unfold step
      rw [upcoming]
  | call op next => exact Or.inl ⟨op, next, rfl⟩

/-- One move advances the abstract state of the program that moved, and no other. -/
theorem phase_step_of_call (interp : Interpretation S σ) (contract : Contract S M) (first : ι → M)
    {pool : Pool S σ ε α ι} {thread : ι} {op : S.Op} {next : S.Ans op → Program S ε α}
    (upcoming : pool.rest thread = .call op next) :
    phase contract first (step interp pool thread) =
      Function.update (phase contract first pool) thread
        (contract.after (phase contract first pool thread) op (interp op pool.world).1) := by
  funext other
  rw [step_of_call interp upcoming]
  by_cases same : other = thread
  · subst same
    simp [phase, track]
  · simp [phase, same]

/-- An event of a program's history happened at some moment of the run: the
program was at that operation, and the world answered so. -/
theorem performed_at (interp : Interpretation S σ) {pool : Pool S σ ε α ι} {thread : ι}
    {event : Event S} {schedule : List ι} (started : event ∉ pool.history thread)
    (performed : event ∈ (exec interp pool schedule).history thread) :
    ∃ earlier later, schedule = earlier ++ thread :: later ∧
      (exec interp pool earlier).NextOp thread event.op ∧
      event.answer = (interp event.op (exec interp pool earlier).world).1 := by
  induction schedule generalizing pool with
  | nil => exact absurd performed started
  | cons mover rest induction =>
      by_cases already : event ∈ (Pool.step interp pool mover).history thread
      · rcases step_cases interp pool mover with ⟨op, next, upcoming⟩ | unmoved
        · rw [step_of_call interp upcoming] at already
          dsimp only at already
          by_cases same : thread = mover
          · subst same
            rw [Function.update_self, List.mem_append, List.mem_singleton] at already
            rcases already with before | now
            · exact absurd before started
            · subst now
              exact ⟨[], rest, rfl, ⟨next, upcoming⟩, rfl⟩
          · rw [Function.update_of_ne same] at already
            exact absurd already started
        · rw [unmoved] at already
          exact absurd already started
      · obtain ⟨earlier, later, split, next, answered⟩ := induction already performed
        exact ⟨mover :: earlier, later, by rw [split, List.cons_append], next, answered⟩

section Rules

variable {contract : Contract S M} {post : M → Except ε α → Prop} {first : ι → M}
  {interp : Interpretation S σ}

/-- Every program of the pool follows the contract from where it stands. -/
def Following (contract : Contract S M) (post : M → Except ε α → Prop) (first : ι → M)
    (pool : Pool S σ ε α ι) : Prop :=
  ∀ thread, Obeys contract post (phase contract first pool thread) (pool.rest thread)

omit [DecidableEq ι] in
theorem following_start {world : σ} {programs : ι → Program S ε α}
    (obeys : ∀ thread, Obeys contract post (first thread) (programs thread)) :
    Following contract post first (start world programs) := obeys

omit [DecidableEq ι] in
/-- The operation a following program is about to perform is permitted. -/
theorem Following.allowed {pool : Pool S σ ε α ι} (following : Following contract post first pool)
    {thread : ι} {op : S.Op} (upcoming : pool.NextOp thread op) :
    contract.allowed (phase contract first pool thread) op := by
  obtain ⟨next, upcoming⟩ := upcoming
  have here := following thread
  rw [upcoming] at here
  exact here.1

omit [DecidableEq ι] in
/-- A finished program's answer satisfies the postcondition. -/
theorem Following.post_of_answer {post : M → Except α α → Prop} {pool : Pool S σ α α ι}
    (following : Following contract post first pool) {thread : ι} {value : α}
    (finished : pool.answer? thread = some value) :
    post (phase contract first pool thread) (.ok value) ∨
      post (phase contract first pool thread) (.error value) := by
  have here := following thread
  unfold answer? at finished
  cases rest : pool.rest thread with
  | done result =>
      rw [rest] at here finished
      simp only [Program.answer?, Option.some.injEq] at finished
      exact Or.inl (finished ▸ here)
  | fail result =>
      rw [rest] at here finished
      simp only [Program.answer?, Option.some.injEq] at finished
      exact Or.inr (finished ▸ here)
  | call op next =>
      rw [rest] at finished
      cases finished

theorem Following.step (sound : contract.Sound interp) {pool : Pool S σ ε α ι}
    (following : Following contract post first pool) (thread : ι) :
    Following contract post first (step interp pool thread) := by
  rcases step_cases interp pool thread with ⟨op, next, upcoming⟩ | unmoved
  · intro other
    have here := following thread
    rw [upcoming] at here
    rw [phase_step_of_call interp contract first upcoming, step_of_call interp upcoming]
    by_cases same : other = thread
    · subst same
      simpa using here.2 _ (sound op pool.world)
    · simpa [same] using following other
  · rw [unmoved]
    exact following

theorem Following.exec (sound : contract.Sound interp) {pool : Pool S σ ε α ι}
    (following : Following contract post first pool) (schedule : List ι) :
    Following contract post first (exec interp pool schedule) := by
  induction schedule generalizing pool with
  | nil => exact following
  | cons thread later induction => exact induction (following.step sound thread)

/-- An invariant of the pool: it is enough that every permitted operation
preserves it in the states the condition admits. -/
theorem exec_pool_invariant (sound : contract.Sound interp) (inv : Pool S σ ε α ι → Prop)
    (condition : Pool S σ ε α ι → ι → Prop)
    (preserved : ∀ (pool : Pool S σ ε α ι) (thread : ι) (op : S.Op)
      (next : S.Ans op → Program S ε α), pool.rest thread = .call op next →
      condition pool thread → contract.allowed (phase contract first pool thread) op →
      inv pool → inv (Pool.step interp pool thread))
    {pool : Pool S σ ε α ι} (following : Following contract post first pool) (base : inv pool)
    (schedule : List ι) (along : Along interp condition pool schedule) :
    inv (exec interp pool schedule) := by
  induction schedule generalizing pool with
  | nil => exact base
  | cons thread later induction =>
      obtain ⟨here, later⟩ := along
      refine induction (following.step sound thread) ?_ later
      rcases step_cases interp pool thread with ⟨op, next, upcoming⟩ | unmoved
      · exact preserved pool thread op next upcoming here (following.allowed ⟨next, upcoming⟩) base
      · rw [unmoved]
        exact base

/-- The same for an invariant of the world and of all abstract states. -/
theorem exec_invariant (sound : contract.Sound interp) (inv : σ → (ι → M) → Prop)
    (condition : Pool S σ ε α ι → ι → Prop)
    (preserved : ∀ (pool : Pool S σ ε α ι) (thread : ι) (op : S.Op),
      pool.NextOp thread op → condition pool thread →
      contract.allowed (phase contract first pool thread) op →
      inv pool.world (phase contract first pool) →
      inv (interp op pool.world).2 (Function.update (phase contract first pool) thread
        (contract.after (phase contract first pool thread) op (interp op pool.world).1)))
    {pool : Pool S σ ε α ι} (following : Following contract post first pool)
    (base : inv pool.world (phase contract first pool)) (schedule : List ι)
    (along : Along interp condition pool schedule) :
    inv (exec interp pool schedule).world (phase contract first (exec interp pool schedule)) := by
  refine exec_pool_invariant sound (fun pool => inv pool.world (phase contract first pool)) condition
    (fun pool thread op next upcoming here permitted holds => ?_) following base schedule along
  have kept := preserved pool thread op ⟨next, upcoming⟩ here permitted holds
  rw [phase_step_of_call interp contract first upcoming, step_of_call interp upcoming]
  exact kept

/-- An invariant of the world, of all abstract states and of the trace so far. -/
theorem trace_invariant (sound : contract.Sound interp)
    (inv : σ → (ι → M) → List (ι × Event S) → Prop)
    (preserved : ∀ world states trace thread op, contract.allowed (states thread) op →
      inv world states trace →
      inv (interp op world).2 (Function.update states thread
        (contract.after (states thread) op (interp op world).1))
        (trace ++ [(thread, ⟨op, (interp op world).1⟩)]))
    {pool : Pool S σ ε α ι} (following : Following contract post first pool)
    (before : List (ι × Event S)) (base : inv pool.world (phase contract first pool) before)
    (schedule : List ι) :
    inv (exec interp pool schedule).world (phase contract first (exec interp pool schedule))
      (before ++ trace interp pool schedule) := by
  induction schedule generalizing pool before with
  | nil => simpa [trace] using base
  | cons thread later induction =>
      rw [exec_cons]
      have next := following.step sound thread
      cases upcoming : pool.rest thread with
      | call op rest =>
          have kept := preserved _ _ _ _ op (following.allowed ⟨rest, upcoming⟩) base
          rw [← phase_step_of_call interp contract first upcoming] at kept
          have world : (interp op pool.world).2 = (Pool.step interp pool thread).world := by
            rw [step_of_call interp upcoming]
          rw [world] at kept
          have done := induction next _ kept
          rw [List.append_assoc, List.singleton_append] at done
          simpa only [trace, upcoming] using done
      | done value =>
          have same : Pool.step interp pool thread = pool := by simp only [Pool.step, upcoming]
          simp only [trace, upcoming]
          exact induction next before (by rw [same]; exact base)
      | fail error =>
          have same : Pool.step interp pool thread = pool := by simp only [Pool.step, upcoming]
          simp only [trace, upcoming]
          exact induction next before (by rw [same]; exact base)

/-- A fact about one program's history and abstract state. -/
theorem history_invariant (sound : contract.Sound interp)
    (fact : List (Event S) → M → Prop)
    (preserved : ∀ history state op (answer : S.Ans op), contract.allowed state op →
      contract.possible op answer → fact history state →
      fact (history ++ [⟨op, answer⟩]) (contract.after state op answer))
    {pool : Pool S σ ε α ι} (following : Following contract post first pool)
    (base : ∀ thread, fact (pool.history thread) (phase contract first pool thread))
    (schedule : List ι) (thread : ι) :
    fact ((exec interp pool schedule).history thread)
      (phase contract first (exec interp pool schedule) thread) := by
  induction schedule generalizing pool with
  | nil => exact base thread
  | cons mover later induction =>
      refine induction (following.step sound mover) ?_
      intro other
      rcases step_cases interp pool mover with ⟨op, next, upcoming⟩ | unmoved
      · rw [phase_step_of_call interp contract first upcoming, step_of_call interp upcoming]
        by_cases same : other = mover
        · subst same
          simpa using preserved _ _ op _ (following.allowed ⟨next, upcoming⟩)
            (sound op pool.world) (base other)
        · simpa [same] using base other
      · rw [unmoved]
        exact base other

end Rules

/-! ### Claims that only one program can hold -/

section Claims

variable {holds : M → Prop} {spent : σ → Prop} {world later : σ} {states : ι → M} {thread : ι}
  {state : M}

/-- A claim that some program holds is spent, and no other program holds it. -/
structure Exclusive (holds : M → Prop) (spent : σ → Prop) (world : σ) (states : ι → M) : Prop where
  spent : ∀ thread, holds (states thread) → spent world
  once : ∀ left right, holds (states left) → holds (states right) → left = right

/-- It is enough that a claim stays spent, and is only gained while it is not. -/
theorem Exclusive.update (exclusive : Exclusive holds spent world states)
    (stays : spent world → spent later)
    (gained : holds state → holds (states thread) ∨ ¬spent world ∧ spent later) :
    Exclusive holds spent later (Function.update states thread state) := by
  have before : ∀ other, holds (Function.update states thread state other) →
      holds (states other) ∨ other = thread ∧ ¬spent world ∧ spent later := by
    intro other held
    by_cases same : other = thread
    · subst same
      rw [Function.update_self] at held
      rcases gained held with already | now
      · exact Or.inl already
      · exact Or.inr ⟨rfl, now⟩
    · rw [Function.update_of_ne same] at held
      exact Or.inl held
  constructor
  · intro other held
    rcases before other held with already | ⟨_, _, now⟩
    · exact stays (exclusive.spent other already)
    · exact now
  · intro left right leftHeld rightHeld
    rcases before left leftHeld with leftBefore | ⟨leftMoved, fresh, _⟩
    · rcases before right rightHeld with rightBefore | ⟨_, fresh, _⟩
      · exact exclusive.once left right leftBefore rightBefore
      · exact absurd (exclusive.spent left leftBefore) fresh
    · rcases before right rightHeld with rightBefore | ⟨rightMoved, _, _⟩
      · exact absurd (exclusive.spent right rightBefore) fresh
      · exact leftMoved.trans rightMoved.symm

end Claims

end Pool

end OAuth2Server.Interleaving
