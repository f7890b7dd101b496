import OAuth2Server.Interleaving

/-!
# The history of one program among many

What a program of a pool has done so far is a path through its own text: every
answer on it was given in some state of the run, and what is left of the
program is what the path leads to. Facts about a sequence of steps are read off
the path, whatever the other programs do.
-/

namespace OAuth2Server.Interleaving

open OAuth2Server.Interaction OAuth2Server.Interaction.Program

set_option autoImplicit false

variable {S : Signature} {ε α β : Type}

/-- The program performs these operations, gets these answers and is then at `rest`. -/
inductive Performs : Program S ε α → List (Event S) → Program S ε α → Prop
  | start (program : Program S ε α) : Performs program [] program
  | next (op : S.Op) (next : S.Ans op → Program S ε α) (answer : S.Ans op)
      {events : List (Event S)} {rest : Program S ε α} (later : Performs (next answer) events rest) :
      Performs (.call op next) (⟨op, answer⟩ :: events) rest

namespace Performs

theorem snoc {program : Program S ε α} {events : List (Event S)} {op : S.Op}
    {next : S.Ans op → Program S ε α} (performs : Performs program events (.call op next))
    (answer : S.Ans op) : Performs program (events ++ [⟨op, answer⟩]) (next answer) := by
  generalize ahead : Program.call op next = rest at performs
  induction performs with
  | start program =>
      subst ahead
      exact .next op next answer (.start _)
  | next first rest given later induction => exact .next first rest given (induction ahead)

/-- A path through a sequence of two programs ends in the first, or goes all
the way through it. -/
theorem of_bind {program : Program S ε β} {rest : β → Program S ε α} {events : List (Event S)}
    {final : Program S ε α} (performs : Performs (program >>= rest) events final) :
    (∃ left, Performs program events left ∧ final = left >>= rest) ∨
      ∃ value earlier later, events = earlier ++ later ∧
        Performs program earlier (.done value) ∧ Performs (rest value) later final := by
  induction program generalizing events with
  | done value => exact .inr ⟨value, [], events, rfl, .start _, performs⟩
  | fail error =>
      cases performs with
      | start => exact .inl ⟨.fail error, .start _, rfl⟩
  | call op next induction =>
      cases performs with
      | start => exact .inl ⟨.call op next, .start _, rfl⟩
      | next _ _ answer later =>
          rcases induction answer later with ⟨left, first, same⟩ |
            ⟨value, earlier, after, split, first, second⟩
          · exact .inl ⟨left, .next op next answer first, same⟩
          · exact .inr ⟨value, ⟨op, answer⟩ :: earlier, after, by rw [split]; rfl,
              .next op next answer first, second⟩

/-- A value is discarded at the end only. -/
theorem of_map {f : β → α} {program : Program S ε β} {events : List (Event S)}
    {final : Program S ε α} (performs : Performs (f <$> program) events final) :
    ∃ left, Performs program events left := by
  rcases of_bind performs with ⟨left, first, _⟩ | ⟨value, earlier, later, split, first, second⟩
  · exact ⟨left, first⟩
  · cases second with
    | start =>
        rw [List.append_nil] at split
        exact ⟨.done value, split ▸ first⟩

/-- Only operations of the footprint are performed. -/
theorem within {footprint : S.Op → Prop} {raises : ε → Prop} {program rest : Program S ε α}
    {events : List (Event S)} (performs : Performs program events rest)
    (uses : Uses footprint raises program) (event : Event S) (performed : event ∈ events) :
    footprint event.op := by
  induction performs with
  | start program => cases performed
  | next op next answer later induction =>
      rcases List.mem_cons.1 performed with rfl | other
      · exact uses.1
      · exact induction (uses.2 answer) other

/-- The path through an operation and what follows its answer. -/
theorem of_call {op : S.Op} {next : S.Ans op → Program S ε α} {events : List (Event S)}
    {final : Program S ε α} (performs : Performs (.call op next) events final) :
    events = [] ∨ ∃ answer later, events = ⟨op, answer⟩ :: later ∧
      Performs (next answer) later final := by
  cases performs with
  | start => exact .inl rfl
  | next _ _ answer later => exact .inr ⟨answer, _, rfl, later⟩

section Finished

variable {events : List (Event S)} {value : α}

/-- A path to the end of a sequence goes through both its programs. -/
theorem done_bind {program : Program S ε β} {rest : β → Program S ε α}
    (performs : Performs (program >>= rest) events (.done value)) :
    ∃ middle earlier later, events = earlier ++ later ∧
      Performs program earlier (.done middle) ∧ Performs (rest middle) later (.done value) := by
  rcases of_bind performs with ⟨left, first, same⟩ | through
  · cases left with
    | done middle => exact ⟨middle, events, [], (List.append_nil _).symm, first, same ▸ .start _⟩
    | fail error => cases same
    | call op next => cases same
  · exact through

/-- It passes every guard on the way, -/
theorem done_reject {condition : Bool} {error : ε} {rest : Unit → Program S ε α}
    (performs : Performs (rejectIf condition error >>= rest) events (.done value)) :
    condition = false ∧ Performs (rest ()) events (.done value) := by
  cases condition with
  | true => cases performs
  | false => exact ⟨rfl, performs⟩

/-- and every pure check, -/
theorem done_except {outcome : Except ε β} {rest : β → Program S ε α}
    (performs : Performs (Program.ofExcept outcome >>= rest) events (.done value)) :
    ∃ middle, outcome = .ok middle ∧ Performs (rest middle) events (.done value) := by
  cases outcome with
  | error error => cases performs
  | ok middle => exact ⟨middle, rfl, performs⟩

/-- and every operation. -/
theorem done_call {op : S.Op} {next : S.Ans op → Program S ε α}
    (performs : Performs (.call op next) events (.done value)) :
    ∃ answer later, events = ⟨op, answer⟩ :: later ∧
      Performs (next answer) later (.done value) := by
  cases performs with
  | next _ _ answer later => exact ⟨answer, _, rfl, later⟩

end Finished

end Performs

namespace Pool

variable {σ ι : Type} [DecidableEq ι]

/-- The history of a program leads from its beginning to what is left of it. -/
theorem performs_history (interp : Interpretation S σ) (world : σ)
    (programs : ι → Program S ε α) (schedule : List ι) (thread : ι) :
    Performs (programs thread) ((exec interp (start world programs) schedule).history thread)
      ((exec interp (start world programs) schedule).rest thread) := by
  suffices kept : ∀ pool : Pool S σ ε α ι,
      Performs (programs thread) (pool.history thread) (pool.rest thread) →
        Performs (programs thread) ((exec interp pool schedule).history thread)
          ((exec interp pool schedule).rest thread) from kept _ (.start _)
  induction schedule with
  | nil => exact fun _ performs => performs
  | cons mover later induction =>
      intro pool performs
      apply induction
      rcases step_cases interp pool mover with ⟨op, next, upcoming⟩ | unmoved
      · rw [step_of_call interp upcoming]
        by_cases same : thread = mover
        · subst same
          rw [upcoming] at performs
          simpa using performs.snoc _
        · simpa [same] using performs
      · rw [unmoved]
        exact performs

/-- Every answer was given in a state of the run. -/
theorem answered_within (interp : Interpretation S σ) (inv : σ → Prop)
    (keeps : ∀ op world, inv world → inv (interp op world).2) {world : σ} (base : inv world)
    (programs : ι → Program S ε α) (schedule : List ι) (thread : ι) :
    ∀ event ∈ (exec interp (start world programs) schedule).history thread,
      ∃ reached, inv reached ∧ event.answer = (interp event.op reached).1 := by
  suffices kept : ∀ pool : Pool S σ ε α ι, inv pool.world →
      (∀ event ∈ pool.history thread, ∃ reached, inv reached ∧
        event.answer = (interp event.op reached).1) →
      ∀ event ∈ (exec interp pool schedule).history thread, ∃ reached, inv reached ∧
        event.answer = (interp event.op reached).1 from
    kept _ base fun _ member => absurd member List.not_mem_nil
  induction schedule with
  | nil => exact fun _ _ answered => answered
  | cons mover later induction =>
      intro pool holds answered
      rcases step_cases interp pool mover with ⟨op, next, upcoming⟩ | unmoved
      · apply induction
        · rw [step_of_call interp upcoming]
          exact keeps op pool.world holds
        · rw [step_of_call interp upcoming]
          by_cases same : thread = mover
          · subst same
            intro event member
            simp only [Function.update_self, List.mem_append, List.mem_singleton] at member
            rcases member with before | rfl
            · exact answered event before
            · exact ⟨pool.world, holds, rfl⟩
          · simpa [same] using answered
      · rw [exec_cons, unmoved]
        exact induction pool holds answered

end Pool

end OAuth2Server.Interleaving
