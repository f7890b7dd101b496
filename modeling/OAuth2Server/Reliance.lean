import OAuth2Server.Interleaving

/-!
# What a program may rely on

An invariant that every operation keeps holds whenever any of the programs
moves, so each answer a program gets is one that a state of the invariant
gives. A program that only ends in a certain way on such answers ends that way,
whatever the others do in between. What has not been spoiled for good by the
end of a run was not spoiled before, so a program may rely on that too.
-/

namespace OAuth2Server.Reliance

open OAuth2Server.Interaction OAuth2Server.Interaction.Program OAuth2Server.Interleaving

set_option autoImplicit false

variable {S : Signature} {σ ε ε' α β ι : Type} {interp : Interpretation S σ} {inv : σ → Prop}

/-- Every operation is permitted; the answers are those that states of the
invariant give. -/
def relying (interp : Interpretation S σ) (inv : σ → Prop) : Contract S Unit where
  allowed := fun _ _ => True
  possible := fun op answer => ∃ world, inv world ∧ (interp op world).1 = answer
  after := fun _ _ _ => ()

/-- The program never returns, and what it raises is in `raises`. -/
def Stopped (interp : Interpretation S σ) (inv : σ → Prop) (raises : ε → Prop)
    (program : Program S ε α) : Prop :=
  Obeys (relying interp inv) (fun _ outcome => ∃ error, outcome = .error error ∧ raises error) ()
    program

section Rules

variable {raises : ε → Prop}

theorem stopped_fail {error : ε} (raised : raises error) :
    Stopped interp inv raises (fail error : Program S ε α) := ⟨error, rfl, raised⟩

theorem stopped_call {op : S.Op} {next : S.Ans op → Program S ε α}
    (later : ∀ world, inv world → Stopped interp inv raises (next (interp op world).1)) :
    Stopped interp inv raises (call op next) := by
  refine ⟨trivial, ?_⟩
  rintro answer ⟨world, holds, rfl⟩
  exact later world holds

/-- What comes after a stopped program is never reached. -/
theorem Stopped.bind {program : Program S ε β} {rest : β → Program S ε α}
    (stopped : Stopped interp inv raises program) :
    Stopped interp inv raises (program >>= rest) := by
  apply obeys_bind.2
  apply Obeys.mono _ stopped
  rintro _ _ ⟨error, rfl, raised⟩
  exact ⟨error, rfl, raised⟩

/-- A first part that may raise no more than the whole. -/
theorem stopped_after {program : Program S ε β} {rest : β → Program S ε α}
    (uses : Uses (fun _ => True) raises program)
    (later : ∀ value, Stopped interp inv raises (rest value)) :
    Stopped interp inv raises (program >>= rest) := by
  apply uses.obeys_bind
  · exact fun error raised => ⟨error, rfl, raised⟩
  · exact later
  · exact fun _ _ => ⟨trivial, fun _ => rfl⟩

/-- The same, for a first part whose returned values are known. -/
theorem stopped_after_yields {program : Program S ε β} {rest : β → Program S ε α}
    {middle : β → Prop} (uses : Uses (fun _ => True) raises program)
    (yields : Yields middle program)
    (later : ∀ value, middle value → Stopped interp inv raises (rest value)) :
    Stopped interp inv raises (program >>= rest) := by
  apply uses.obeys_bind_yields _ yields
  · exact fun error raised => ⟨error, rfl, raised⟩
  · exact later
  · exact fun _ _ => ⟨trivial, fun _ => rfl⟩

/-- Fewer states give fewer answers. -/
theorem Stopped.within {narrower : σ → Prop} {program : Program S ε α}
    (stopped : Stopped interp inv raises program) (narrow : ∀ world, narrower world → inv world) :
    Stopped interp narrower raises program := by
  induction program with
  | done value => exact stopped
  | fail error => exact stopped
  | call op next induction =>
      refine ⟨trivial, ?_⟩
      rintro answer ⟨world, holds, given⟩
      exact induction answer (stopped.2 answer ⟨world, narrow world holds, given⟩)

/-- A program that never returns a value and raises nothing else is stopped. -/
theorem stopped_of_uses {program : Program S ε α} (uses : Uses (fun _ => True) raises program)
    (returns : Yields (fun _ => False) program) : Stopped interp inv raises program := by
  have whole := @stopped_after_yields S σ ε α α interp inv raises program (fun value => done value)
    (fun _ => False) uses returns (fun _ none => none.elim)
  rwa [show (program >>= fun value => done value) = program from bind_pure program] at whole

end Rules

/-! ### Among other programs -/

section Pools

variable [DecidableEq ι] {post : Unit → Except ε α → Prop}

/-- A program that has not moved stands where it stood. -/
theorem unmoved {pool : Pool S σ ε α ι} {thread : ι} {schedule : List ι}
    (idle : thread ∉ schedule) : (pool.exec interp schedule).rest thread = pool.rest thread := by
  induction schedule generalizing pool with
  | nil => rfl
  | cons mover later induction =>
      rw [List.mem_cons, not_or] at idle
      rw [Pool.exec_cons, induction idle.2]
      rcases Pool.step_cases interp pool mover with ⟨op, next, upcoming⟩ | still
      · rw [Pool.step_of_call interp upcoming]
        exact Function.update_of_ne idle.1 _ _
      · rw [still]

/-- What every operation keeps holds after any schedule. -/
theorem kept_throughout (stable : ∀ op world, inv world → inv (interp op world).2)
    {pool : Pool S σ ε α ι} (base : inv pool.world) (schedule : List ι) :
    inv (pool.exec interp schedule).world := by
  induction schedule generalizing pool with
  | nil => exact base
  | cons mover later induction =>
      apply induction
      rcases Pool.step_cases interp pool mover with ⟨op, next, upcoming⟩ | still
      · rw [Pool.step_of_call interp upcoming]
        exact stable op pool.world base
      · rw [still]
        exact base

variable {spoiled : σ → Prop}

/-- A program goes on relying on a stable invariant while others move, and on
what turns out not to have been spoiled. -/
theorem relied (stable : ∀ op world, inv world → inv (interp op world).2)
    (lasting : ∀ op world, spoiled world → spoiled (interp op world).2)
    {pool : Pool S σ ε α ι} (base : inv pool.world) {thread : ι}
    (obeys : Obeys (relying interp fun world => inv world ∧ ¬spoiled world) post ()
      (pool.rest thread)) (schedule : List ι)
    (intact : ¬spoiled (pool.exec interp schedule).world) :
    Obeys (relying interp fun world => inv world ∧ ¬spoiled world) post ()
      ((pool.exec interp schedule).rest thread) := by
  induction schedule generalizing pool with
  | nil => exact obeys
  | cons mover later induction =>
      have unspoiled : ¬spoiled pool.world :=
        fun early => intact (kept_throughout lasting early (mover :: later))
      rcases Pool.step_cases interp pool mover with ⟨op, next, upcoming⟩ | still
      · apply induction _ _ intact
        · rw [Pool.step_of_call interp upcoming]
          exact stable op pool.world base
        · rw [Pool.step_of_call interp upcoming]
          by_cases same : thread = mover
          · subst same
            rw [upcoming] at obeys
            simpa using obeys.2 _ ⟨pool.world, ⟨base, unspoiled⟩, rfl⟩
          · simpa [same] using obeys
      · rw [Pool.exec_cons, still] at intact ⊢
        exact induction base obeys intact

/-- A stopped program that has finished has raised what it may. -/
theorem Stopped.answer {raises : α → Prop}
    (stable : ∀ op world, inv world → inv (interp op world).2)
    (lasting : ∀ op world, spoiled world → spoiled (interp op world).2) {pool : Pool S σ α α ι}
    (base : inv pool.world) {thread : ι}
    (stopped : Stopped interp (fun world => inv world ∧ ¬spoiled world) raises (pool.rest thread))
    {schedule : List ι} (intact : ¬spoiled (pool.exec interp schedule).world) {answer : α}
    (finished : (pool.exec interp schedule).answer? thread = some answer) : raises answer := by
  have here := relied stable lasting base stopped schedule intact
  unfold Pool.answer? at finished
  cases rest : (pool.exec interp schedule).rest thread with
  | done value =>
      rw [rest] at here
      obtain ⟨error, same, _⟩ := here
      cases same
  | fail error =>
      rw [rest] at here finished
      obtain ⟨raised, same, ending⟩ := here
      cases same
      cases finished
      exact ending
  | call op next =>
      rw [rest] at finished
      cases finished

end Pools

end OAuth2Server.Reliance
