import Mathlib.Logic.Basic

/-!
# Programs over an effect signature

A program issues operations one at a time and continues with their answers;
it ends with a value or with an error. The same program can be run alone
against a state, or be one of several programs whose operations interleave
(`Interleaving`). `Obeys` is the proof rule shared by both: it follows a
program through a contract that only sees operations and answers.
-/

namespace OAuth2Server.Interaction

set_option autoImplicit false

structure Signature where
  Op : Type
  Ans : Op → Type

inductive Program (S : Signature) (ε α : Type) : Type
  | done (value : α)
  | fail (error : ε)
  | call (op : S.Op) (next : S.Ans op → Program S ε α)

/-! ### Pure steps that may raise -/

theorem except_bind_eq_ok {ε α β : Type} {outcome : Except ε α} {rest : α → Except ε β}
    {value : β} :
    outcome >>= rest = .ok value ↔ ∃ middle, outcome = .ok middle ∧ rest middle = .ok value := by
  cases outcome with
  | error error =>
      constructor
      · intro passed
        cases passed
      · rintro ⟨middle, passed, -⟩
        cases passed
  | ok middle =>
      constructor
      · intro passed
        exact ⟨middle, rfl, passed⟩
      · rintro ⟨other, passed, later⟩
        cases passed
        exact later

theorem except_ok_bind {ε α β : Type} (value : α) (rest : α → Except ε β) :
    (Except.ok value >>= rest) = rest value := rfl

namespace Program

variable {S : Signature} {ε ε' α β σ M : Type}

def bind : Program S ε α → (α → Program S ε β) → Program S ε β
  | done value, rest => rest value
  | fail error, _ => fail error
  | call op next, rest => call op fun answer => (next answer).bind rest

/-- `try: ... except E as exc: raise handler(exc)`. -/
def mapError (handler : ε → ε') : Program S ε α → Program S ε' α
  | done value => done value
  | fail error => fail (handler error)
  | call op next => call op fun answer => (next answer).mapError handler

/-- `try: ... except E as exc: return handler(exc)`. -/
def rescue (handler : ε → Program S ε' α) : Program S ε α → Program S ε' α
  | done value => done value
  | fail error => handler error
  | call op next => call op fun answer => (next answer).rescue handler

instance : Monad (Program S ε) where
  pure := done
  bind := bind

instance : MonadExcept ε (Program S ε) where
  throw := fail
  tryCatch program handler := program.rescue handler

/-- A single operation. -/
def perform (op : S.Op) : Program S ε (S.Ans op) := call op done

/-- A guard clause: `if condition: raise error`. -/
def rejectIf (condition : Bool) (error : ε) : Program S ε Unit :=
  if condition then fail error else done ()

/-- A pure computation that may raise. -/
def ofExcept : Except ε α → Program S ε α
  | .ok value => done value
  | .error error => fail error

/-- The answer of a finished program whose errors are answers too. -/
def answer? : Program S α α → Option α
  | done value => some value
  | fail value => some value
  | call _ _ => none

/-! ### Running a program alone -/

/-- An interpretation answers every operation from a state and updates it. -/
abbrev Interpretation (S : Signature) (σ : Type) := (op : S.Op) → σ → S.Ans op × σ

def run (interp : Interpretation S σ) : Program S ε α → σ → Except ε α × σ
  | done value, state => (.ok value, state)
  | fail error, state => (.error error, state)
  | call op next, state =>
      (next (interp op state).1).run interp (interp op state).2

/-- The answer of a handler whose early exits are answers too. -/
def respond (interp : Interpretation S σ) (program : Program S α α) (state : σ) : α × σ :=
  match program.run interp state with
  | (.ok value, after) => (value, after)
  | (.error value, after) => (value, after)

@[simp] theorem pure_eq_done (value : α) : (pure value : Program S ε α) = done value := rfl

@[simp] theorem throw_eq_fail (error : ε) :
    (throw error : Program S ε α) = fail error := rfl

@[simp] theorem done_bind (value : α) (rest : α → Program S ε β) :
    (done value : Program S ε α) >>= rest = rest value := rfl

@[simp] theorem fail_bind (error : ε) (rest : α → Program S ε β) :
    (fail error : Program S ε α) >>= rest = fail error := rfl

@[simp] theorem call_bind (op : S.Op) (next : S.Ans op → Program S ε α)
    (rest : α → Program S ε β) :
    (call op next) >>= rest = call op fun answer => next answer >>= rest := rfl

theorem map_id (program : Program S ε α) : id <$> program = program := by
  induction program with
  | done value => rfl
  | fail error => rfl
  | call op next induction => exact congrArg (call op) (funext induction)

theorem bind_bind {γ : Type} (program : Program S ε α) (rest : α → Program S ε β)
    (later : β → Program S ε γ) :
    program >>= rest >>= later = program >>= fun value => rest value >>= later := by
  induction program with
  | done value => rfl
  | fail error => rfl
  | call op next induction => exact congrArg (call op) (funext induction)

instance : LawfulMonad (Program S ε) := LawfulMonad.mk' _ map_id (fun _ _ => rfl) bind_bind

theorem map_error_bind (handler : ε → ε') (program : Program S ε α) (rest : α → Program S ε β) :
    (program >>= rest).mapError handler =
      program.mapError handler >>= fun value => (rest value).mapError handler := by
  induction program with
  | done value => rfl
  | fail error => rfl
  | call op next induction => exact congrArg (call op) (funext induction)

@[simp] theorem run_done (interp : Interpretation S σ) (value : α) (state : σ) :
    (done value : Program S ε α).run interp state = (.ok value, state) := rfl

@[simp] theorem run_fail (interp : Interpretation S σ) (error : ε) (state : σ) :
    (fail error : Program S ε α).run interp state = (.error error, state) := rfl

@[simp] theorem run_perform (interp : Interpretation S σ) (op : S.Op) (state : σ) :
    (perform op : Program S ε (S.Ans op)).run interp state =
      (.ok (interp op state).1, (interp op state).2) := rfl

theorem run_bind (interp : Interpretation S σ) (program : Program S ε α)
    (rest : α → Program S ε β) (state : σ) :
    (program >>= rest).run interp state =
      match program.run interp state with
      | (.ok value, after) => (rest value).run interp after
      | (.error error, after) => (.error error, after) := by
  induction program generalizing state with
  | done value => rfl
  | fail error => rfl
  | call op next induction => exact induction _ _

theorem run_bind_eq_ok {interp : Interpretation S σ} {program : Program S ε α}
    {rest : α → Program S ε β} {state later : σ} {value : β}
    (ok : (program >>= rest).run interp state = (.ok value, later)) :
    ∃ middle reached, program.run interp state = (.ok middle, reached) ∧
      (rest middle).run interp reached = (.ok value, later) := by
  rw [run_bind] at ok
  generalize program.run interp state = outcome at ok ⊢
  rcases outcome with ⟨error | middle, reached⟩
  · cases ok
  · exact ⟨middle, reached, rfl, ok⟩

/-- An exception is the first part's or the rest's. -/
theorem run_bind_eq_error {interp : Interpretation S σ} {program : Program S ε α}
    {rest : α → Program S ε β} {state later : σ} {error : ε}
    (failed : (program >>= rest).run interp state = (.error error, later)) :
    program.run interp state = (.error error, later) ∨
      ∃ middle reached, program.run interp state = (.ok middle, reached) ∧
        (rest middle).run interp reached = (.error error, later) := by
  rw [run_bind] at failed
  generalize program.run interp state = outcome at failed ⊢
  rcases outcome with ⟨other | middle, reached⟩
  · cases failed
    exact .inl rfl
  · exact .inr ⟨middle, reached, rfl, failed⟩

theorem run_map (interp : Interpretation S σ) (f : α → β) (program : Program S ε α) (state : σ) :
    (f <$> program).run interp state =
      ((program.run interp state).1.map f, (program.run interp state).2) := by
  induction program generalizing state with
  | done value => rfl
  | fail error => rfl
  | call op next induction => exact induction _ _

theorem run_map_error (interp : Interpretation S σ) (handler : ε → ε') (program : Program S ε α)
    (state : σ) :
    (program.mapError handler).run interp state =
      ((program.run interp state).1.mapError handler, (program.run interp state).2) := by
  induction program generalizing state with
  | done value => rfl
  | fail error => rfl
  | call op next induction => exact induction _ _

theorem run_map_error_eq_ok {interp : Interpretation S σ} {handler : ε → ε'}
    {program : Program S ε α} {state later : σ} {value : α}
    (ok : (program.mapError handler).run interp state = (.ok value, later)) :
    program.run interp state = (.ok value, later) := by
  rw [run_map_error] at ok
  generalize program.run interp state = outcome at ok ⊢
  rcases outcome with ⟨error | found, reached⟩
  · cases ok
  · cases ok
    rfl

theorem run_reject_if_eq_ok {interp : Interpretation S σ} {condition : Bool} {error : ε}
    {state later : σ} {value : Unit}
    (ok : (rejectIf condition error : Program S ε Unit).run interp state = (.ok value, later)) :
    condition = false ∧ later = state := by
  cases condition with
  | true => cases ok
  | false => exact ⟨rfl, (Prod.mk.inj ok).2.symm⟩

/-- A guard that was passed. -/
theorem run_reject_bind_eq_ok {interp : Interpretation S σ} {condition : Bool} {error : ε}
    {rest : Unit → Program S ε α} {state later : σ} {value : α}
    (ok : (rejectIf condition error >>= rest).run interp state = (.ok value, later)) :
    condition = false ∧ (rest ()).run interp state = (.ok value, later) := by
  cases condition with
  | true => cases ok
  | false => exact ⟨rfl, ok⟩

theorem of_except_bind (outcome : Except ε α) (rest : α → Except ε β) :
    (ofExcept (outcome >>= rest) : Program S ε β) =
      ofExcept outcome >>= fun value => ofExcept (rest value) := by
  cases outcome with
  | error error => rfl
  | ok value => rfl

theorem run_of_except (interp : Interpretation S σ) (outcome : Except ε α) (state : σ) :
    (ofExcept outcome : Program S ε α).run interp state = (outcome, state) := by
  cases outcome with
  | error error => rfl
  | ok value => rfl

theorem run_of_except_eq_ok {interp : Interpretation S σ} {outcome : Except ε α} {state later : σ}
    {value : α} (ok : (ofExcept outcome : Program S ε α).run interp state = (.ok value, later)) :
    outcome = .ok value ∧ later = state := by
  cases outcome with
  | error error => cases ok
  | ok found =>
      obtain ⟨same, rfl⟩ := Prod.mk.inj ok
      exact ⟨congrArg Except.ok (Except.ok.inj same), rfl⟩

theorem run_of_except_bind_eq_ok {interp : Interpretation S σ} {outcome : Except ε β}
    {rest : β → Program S ε α} {state later : σ} {value : α}
    (ok : (ofExcept outcome >>= rest).run interp state = (.ok value, later)) :
    ∃ found, outcome = .ok found ∧ (rest found).run interp state = (.ok value, later) := by
  cases outcome with
  | error error => cases ok
  | ok found => exact ⟨found, rfl, ok⟩

/-- A guard keeps what holds before it and in everything it lets through. -/
theorem keeps_reject_bind {interp : Interpretation S σ} {condition : Bool} {error : ε}
    {rest : Unit → Program S ε α} {state : σ} {inv : σ → Prop} (base : inv state)
    (later : condition = false → inv ((rest ()).run interp state).2) :
    inv ((rejectIf condition error >>= rest).run interp state).2 := by
  cases condition with
  | true => exact base
  | false => exact later rfl

theorem keeps_of_except_bind {interp : Interpretation S σ} {outcome : Except ε β}
    {rest : β → Program S ε α} {state : σ} {inv : σ → Prop} (base : inv state)
    (later : ∀ value, outcome = .ok value → inv ((rest value).run interp state).2) :
    inv ((ofExcept outcome >>= rest).run interp state).2 := by
  cases outcome with
  | error error => exact base
  | ok value => exact later value rfl

theorem run_rescue (interp : Interpretation S σ) (handler : ε → Program S ε' α)
    (program : Program S ε α) (state : σ) :
    (program.rescue handler).run interp state =
      match program.run interp state with
      | (.ok value, later) => (.ok value, later)
      | (.error error, later) => (handler error).run interp later := by
  induction program generalizing state with
  | done value => rfl
  | fail error => rfl
  | call op next induction => exact induction _ _

/-- A handler that never returns leaves the successes alone. -/
theorem run_rescue_eq_ok {interp : Interpretation S σ} {handler : ε → Program S ε' α}
    {program : Program S ε α} {state later : σ} {value : α}
    (ok : (program.rescue handler).run interp state = (.ok value, later)) :
    program.run interp state = (.ok value, later) ∨
      ∃ error reached, program.run interp state = (.error error, reached) ∧
        (handler error).run interp reached = (.ok value, later) := by
  rw [run_rescue] at ok
  split at ok
  · rename_i found reached ran
    cases ok
    exact .inl ran
  · rename_i error reached ran
    exact .inr ⟨error, reached, ran, ok⟩

/-- An answer is a value or an early exit. -/
theorem respond_cases {interp : Interpretation S σ} {program : Program S α α} {state : σ}
    {value : α} (answer : (program.respond interp state).1 = value) :
    ∃ later, program.run interp state = (.ok value, later) ∨
      program.run interp state = (.error value, later) := by
  unfold respond at answer
  split at answer
  · rename_i found after ran
    cases answer
    exact ⟨after, .inl ran⟩
  · rename_i found after ran
    cases answer
    exact ⟨after, .inr ran⟩

/-- A condition on every state in which the program performs an operation. -/
def Along (interp : Interpretation S σ) (condition : σ → S.Op → Prop) : Program S ε α → σ → Prop
  | done _, _ => True
  | fail _, _ => True
  | call op next, state =>
      condition state op ∧ (next (interp op state).1).Along interp condition (interp op state).2

instance decidableAlong (interp : Interpretation S σ) (condition : σ → S.Op → Prop)
    [decides : ∀ state op, Decidable (condition state op)] :
    ∀ (program : Program S ε α) state, Decidable (program.Along interp condition state)
  | done _, _ => isTrue trivial
  | fail _, _ => isTrue trivial
  | call op next, state =>
      have := decides state op
      have := decidableAlong interp condition (next (interp op state).1) (interp op state).2
      inferInstanceAs (Decidable (_ ∧ _))

theorem along_of_forall (interp : Interpretation S σ) {condition : σ → S.Op → Prop}
    (always : ∀ state op, condition state op) (program : Program S ε α) (state : σ) :
    program.Along interp condition state := by
  induction program generalizing state with
  | done value => trivial
  | fail error => trivial
  | call op next induction => exact ⟨always state op, induction _ _⟩

theorem Along.mono {interp : Interpretation S σ} {stronger condition : σ → S.Op → Prop}
    (weaker : ∀ state op, stronger state op → condition state op) {program : Program S ε α}
    {state : σ} (along : program.Along interp stronger state) :
    program.Along interp condition state := by
  induction program generalizing state with
  | done value => trivial
  | fail error => trivial
  | call op next induction => exact ⟨weaker _ _ along.1, induction _ along.2⟩

/-- What holds along a program and then along what follows each value it
returns holds along the whole. -/
theorem along_bind (interp : Interpretation S σ) (condition : σ → S.Op → Prop)
    (program : Program S ε α) (rest : α → Program S ε β) (state : σ) :
    (program >>= rest).Along interp condition state ↔
      program.Along interp condition state ∧
        ∀ value later, program.run interp state = (.ok value, later) →
          (rest value).Along interp condition later := by
  induction program generalizing state with
  | done value =>
      constructor
      · intro along
        refine ⟨trivial, ?_⟩
        intro other later ran
        cases ran
        exact along
      · intro along
        exact along.2 value state rfl
  | fail error =>
      constructor
      · intro _
        refine ⟨trivial, ?_⟩
        intro value later ran
        cases ran
      · intro _
        trivial
  | call op next induction =>
      constructor
      · intro along
        have later := (induction _ _).1 along.2
        exact ⟨⟨along.1, later.1⟩, later.2⟩
      · intro along
        exact ⟨along.1.1, (induction _ _).2 ⟨along.1.2, along.2⟩⟩

theorem along_map (interp : Interpretation S σ) (condition : σ → S.Op → Prop) (f : α → β)
    (program : Program S ε α) (state : σ) :
    (f <$> program).Along interp condition state ↔ program.Along interp condition state := by
  induction program generalizing state with
  | done value => exact Iff.rfl
  | fail error => exact Iff.rfl
  | call op next induction => exact and_congr_right fun _ => induction _ _

/-! ### Programs inside a larger signature -/

section Embedding

variable {T : Signature} {τ : Type}

/-- The program with each of its operations replaced by a program of another
signature. -/
def embed (translate : (op : S.Op) → Program T ε (S.Ans op)) :
    Program S ε α → Program T ε α
  | done value => done value
  | fail error => fail error
  | call op next => translate op >>= fun answer => (next answer).embed translate

/-- An embedded program runs as before on the part of the state it sees. -/
theorem run_embed {interp : Interpretation S σ} {larger : Interpretation T τ}
    {translate : (op : S.Op) → Program T ε (S.Ans op)} (view : τ → σ) (put : σ → τ → τ)
    (viewPut : ∀ part whole, view (put part whole) = part)
    (putView : ∀ whole, put (view whole) whole = whole)
    (putPut : ∀ first second whole, put second (put first whole) = put second whole)
    (translated : ∀ op whole, (translate op).run larger whole =
      (.ok (interp op (view whole)).1, put (interp op (view whole)).2 whole))
    (program : Program S ε α) (whole : τ) :
    (program.embed translate).run larger whole =
      ((program.run interp (view whole)).1, put (program.run interp (view whole)).2 whole) := by
  induction program generalizing whole with
  | done value => exact Prod.ext rfl (putView whole).symm
  | fail error => exact Prod.ext rfl (putView whole).symm
  | call op next induction =>
      have step := translated op whole
      simp only [embed, run_bind, step, induction, viewPut, putPut, run]

end Embedding

/-! ### Following a program through a contract -/

/-- A contract keeps an abstract state of a program from the operations it
performs and the answers it gets, and says which operations are permitted.
What it assumes of an answer (`possible`) holds in every state of the world;
beyond that, answers belong to whoever else is running. -/
structure Contract (S : Signature) (M : Type) where
  allowed : M → S.Op → Prop
  possible : (op : S.Op) → S.Ans op → Prop
  after : M → (op : S.Op) → S.Ans op → M

/-- An interpretation gives possible answers only. -/
def Contract.Sound (contract : Contract S M) (interp : Interpretation S σ) : Prop :=
  ∀ op world, contract.possible op (interp op world).1

/-- Whatever the answers, every operation is permitted when it is performed,
and the outcome satisfies `post` in the abstract state reached. -/
def Obeys (contract : Contract S M) (post : M → Except ε α → Prop) :
    M → Program S ε α → Prop
  | state, done value => post state (.ok value)
  | state, fail error => post state (.error error)
  | state, call op next =>
      contract.allowed state op ∧
        ∀ answer, contract.possible op answer →
          Obeys contract post (contract.after state op answer) (next answer)

section Rules

variable {contract : Contract S M} {post : M → Except ε α → Prop} {state : M}

@[simp] theorem obeys_done (value : α) :
    Obeys contract post state (done value : Program S ε α) ↔ post state (.ok value) := Iff.rfl

@[simp] theorem obeys_fail (error : ε) :
    Obeys contract post state (fail error : Program S ε α) ↔ post state (.error error) := Iff.rfl

theorem obeys_bind {program : Program S ε β} {rest : β → Program S ε α} :
    Obeys contract post state (program >>= rest) ↔
      Obeys contract (fun middle outcome => match outcome with
        | .ok value => Obeys contract post middle (rest value)
        | .error error => post middle (.error error)) state program := by
  induction program generalizing state with
  | done value => exact Iff.rfl
  | fail error => exact Iff.rfl
  | call op next induction =>
      exact and_congr_right fun _ => forall_congr' fun answer =>
        imp_congr_right fun _ => induction answer

/-- The postcondition may be weakened. -/
theorem Obeys.mono {program : Program S ε α} {stronger : M → Except ε α → Prop}
    (weaker : ∀ reached outcome, stronger reached outcome → post reached outcome)
    (obeys : Obeys contract stronger state program) : Obeys contract post state program := by
  induction program generalizing state with
  | done value => exact weaker _ _ obeys
  | fail error => exact weaker _ _ obeys
  | call op next induction =>
      exact ⟨obeys.1, fun answer possible => induction answer (obeys.2 answer possible)⟩

theorem obeys_map_error {post : M → Except ε' α → Prop} {handler : ε → ε'}
    {program : Program S ε α} :
    Obeys contract post state (program.mapError handler) ↔
      Obeys contract (fun reached outcome => post reached (outcome.mapError handler)) state
        program := by
  induction program generalizing state with
  | done value => exact Iff.rfl
  | fail error => exact Iff.rfl
  | call op next induction =>
      exact and_congr_right fun _ => forall_congr' fun answer =>
        imp_congr_right fun _ => induction answer

theorem obeys_rescue {post : M → Except ε' α → Prop} {handler : ε → Program S ε' α}
    {program : Program S ε α} :
    Obeys contract post state (program.rescue handler) ↔
      Obeys contract (fun reached outcome => match outcome with
        | .ok value => post reached (.ok value)
        | .error error => Obeys contract post reached (handler error)) state program := by
  induction program generalizing state with
  | done value => exact Iff.rfl
  | fail error => exact Iff.rfl
  | call op next induction =>
      exact and_congr_right fun _ => forall_congr' fun answer =>
        imp_congr_right fun _ => induction answer

/-- A program run alone reaches an abstract state in which its postcondition
holds, and every invariant its permitted operations keep. -/
theorem Obeys.run_along {interp : Interpretation S σ} (sound : contract.Sound interp)
    (inv : M → σ → Prop) (condition : σ → S.Op → Prop)
    (preserved : ∀ reached world op, contract.allowed reached op → condition world op →
      inv reached world → inv (contract.after reached op (interp op world).1) (interp op world).2)
    {program : Program S ε α} {world : σ} (obeys : Obeys contract post state program)
    (along : program.Along interp condition world) (base : inv state world) :
    ∃ reached, post reached (program.run interp world).1 ∧
      inv reached (program.run interp world).2 := by
  induction program generalizing state world with
  | done value => exact ⟨state, obeys, base⟩
  | fail error => exact ⟨state, obeys, base⟩
  | call op next induction =>
      have kept := preserved state world op obeys.1 along.1 base
      exact induction _ (obeys.2 _ (sound op world)) along.2 kept

end Rules

/-! ### Footprints -/

/-- Whatever the answers, every operation of the program is in `footprint` and
every error it ends with is in `raises`. -/
def Uses (footprint : S.Op → Prop) (raises : ε → Prop) : Program S ε α → Prop
  | done _ => True
  | fail error => raises error
  | call op next => footprint op ∧ ∀ answer, Uses footprint raises (next answer)

section Footprints

variable {footprint : S.Op → Prop} {raises : ε → Prop}

@[simp] theorem uses_done (value : α) :
    Uses footprint raises (done value : Program S ε α) := trivial

@[simp] theorem uses_fail (error : ε) :
    Uses footprint raises (fail error : Program S ε α) ↔ raises error := Iff.rfl

@[simp] theorem uses_perform (op : S.Op) :
    Uses footprint raises (perform op : Program S ε (S.Ans op)) ↔ footprint op :=
  ⟨fun uses => uses.1, fun allowed => ⟨allowed, fun _ => trivial⟩⟩

@[simp] theorem uses_reject_if (condition : Bool) (error : ε) :
    Uses footprint raises (rejectIf condition error : Program S ε Unit) ↔
      (condition = true → raises error) := by
  unfold rejectIf
  cases condition <;> simp

@[simp] theorem uses_of_except (outcome : Except ε α) :
    Uses footprint raises (ofExcept outcome : Program S ε α) ↔
      ∀ error, outcome = .error error → raises error := by
  cases outcome <;> simp [ofExcept]

theorem Uses.bind {program : Program S ε β} {rest : β → Program S ε α}
    (uses : Uses footprint raises program)
    (later : ∀ value, Uses footprint raises (rest value)) :
    Uses footprint raises (program >>= rest) := by
  induction program with
  | done value => exact later value
  | fail error => exact uses
  | call op next induction => exact ⟨uses.1, fun answer => induction answer (uses.2 answer)⟩

theorem Uses.map {program : Program S ε β} {f : β → α} (uses : Uses footprint raises program) :
    Uses footprint raises (f <$> program) :=
  uses.bind fun _ => trivial

theorem Uses.mapError {handler : ε → ε'} {answers : ε' → Prop} {program : Program S ε α}
    (uses : Uses footprint raises program)
    (answered : ∀ error, raises error → answers (handler error)) :
    Uses footprint answers (program.mapError handler) := by
  induction program with
  | done value => trivial
  | fail error => exact answered error uses
  | call op next induction => exact ⟨uses.1, fun answer => induction answer (uses.2 answer)⟩

theorem Uses.rescue {handler : ε → Program S ε' α} {answers : ε' → Prop}
    {program : Program S ε α} (uses : Uses footprint raises program)
    (later : ∀ error, raises error → Uses footprint answers (handler error)) :
    Uses footprint answers (program.rescue handler) := by
  induction program with
  | done value => trivial
  | fail error => exact later error uses
  | call op next induction => exact ⟨uses.1, fun answer => induction answer (uses.2 answer)⟩

theorem Uses.mono {larger : S.Op → Prop} {weaker : ε → Prop} {program : Program S ε α}
    (uses : Uses footprint raises program) (within : ∀ op, footprint op → larger op)
    (weakened : ∀ error, raises error → weaker error) : Uses larger weaker program := by
  induction program with
  | done value => trivial
  | fail error => exact weakened error uses
  | call op next induction =>
      exact ⟨within op uses.1, fun answer => induction answer (uses.2 answer)⟩

/-- What every operation of the footprint keeps, the program keeps. -/
theorem Uses.run_keeps {interp : Interpretation S σ} (inv : σ → Prop)
    (keeps : ∀ op world, footprint op → inv world → inv (interp op world).2)
    {program : Program S ε α} {world : σ} (uses : Uses footprint raises program)
    (base : inv world) : inv (program.run interp world).2 := by
  induction program generalizing world with
  | done value => exact base
  | fail error => exact base
  | call op next induction => exact induction _ (uses.2 _) (keeps op world uses.1 base)

/-- Two states that no operation of the footprint tells apart give the same outcome. -/
theorem Uses.run_alike {interp : Interpretation S σ} (alike : σ → σ → Prop)
    (steps : ∀ op left right, footprint op → alike left right →
      (interp op right).1 = (interp op left).1 ∧ alike (interp op left).2 (interp op right).2)
    {program : Program S ε α} {left right : σ} (uses : Uses footprint raises program)
    (base : alike left right) :
    (program.run interp right).1 = (program.run interp left).1 ∧
      alike (program.run interp left).2 (program.run interp right).2 := by
  induction program generalizing left right with
  | done value => exact ⟨rfl, base⟩
  | fail error => exact ⟨rfl, base⟩
  | call op next induction =>
      obtain ⟨answers, stays⟩ := steps op left right uses.1 base
      simp only [run]
      rw [answers]
      exact induction _ (uses.2 _) stays

/-- What every operation keeps, every program keeps. -/
theorem run_keeps (interp : Interpretation S σ) (inv : σ → Prop)
    (keeps : ∀ op world, inv world → inv (interp op world).2) (program : Program S ε α) {world : σ}
    (base : inv world) : inv (program.run interp world).2 := by
  induction program generalizing world with
  | done value => exact base
  | fail error => exact base
  | call op next induction => exact induction _ (keeps op world base)

theorem Uses.run_raises {interp : Interpretation S σ} {program : Program S ε α} {world : σ}
    (uses : Uses footprint raises program) {error : ε} {after : σ}
    (failed : program.run interp world = (.error error, after)) : raises error := by
  induction program generalizing world with
  | done value => cases failed
  | fail other =>
      cases failed
      exact uses
  | call op next induction => exact induction _ (uses.2 _) failed

/-- What every operation of the footprint satisfies holds along the program. -/
theorem Uses.along {interp : Interpretation S σ} {condition : σ → S.Op → Prop}
    (holds : ∀ state op, footprint op → condition state op) {program : Program S ε α}
    (uses : Uses footprint raises program) (state : σ) :
    program.Along interp condition state := by
  induction program generalizing state with
  | done value => trivial
  | fail error => trivial
  | call op next induction => exact ⟨holds state op uses.1, induction _ (uses.2 _) _⟩

/-- Operations that are permitted and invisible in `state` leave it there. -/
theorem Uses.obeys {contract : Contract S M} {post : M → Except ε α → Prop} {state : M}
    (invisible : ∀ op, footprint op → contract.allowed state op ∧
      ∀ answer, contract.after state op answer = state)
    {program : Program S ε α} (uses : Uses footprint raises program)
    (rejected : ∀ error, raises error → post state (.error error))
    (finished : ∀ value, post state (.ok value)) : Obeys contract post state program := by
  induction program with
  | done value => exact finished value
  | fail error => exact rejected error uses
  | call op next induction =>
      obtain ⟨allowed, same⟩ := invisible op uses.1
      refine ⟨allowed, fun answer _ => ?_⟩
      rw [same answer]
      exact induction answer (uses.2 answer)

/-- An invisible first part: what follows is judged from the same state. -/
theorem Uses.obeys_bind {contract : Contract S M} {post : M → Except ε α → Prop} {state : M}
    (invisible : ∀ op, footprint op → contract.allowed state op ∧
      ∀ answer, contract.after state op answer = state)
    {program : Program S ε β} {rest : β → Program S ε α}
    (uses : Uses footprint raises program)
    (rejected : ∀ error, raises error → post state (.error error))
    (later : ∀ value, Obeys contract post state (rest value)) :
    Obeys contract post state (program >>= rest) := by
  rw [Program.obeys_bind]
  exact uses.obeys invisible rejected later

end Footprints

/-! ### Values a program may return -/

/-- Whatever the answers, a value the program returns satisfies `post`. -/
def Yields (post : α → Prop) : Program S ε α → Prop
  | done value => post value
  | fail _ => True
  | call _ next => ∀ answer, Yields post (next answer)

section Yields

variable {post : α → Prop}

@[simp] theorem yields_done (value : α) :
    Yields post (done value : Program S ε α) ↔ post value := Iff.rfl

@[simp] theorem yields_fail (error : ε) : Yields post (fail error : Program S ε α) := trivial

@[simp] theorem yields_of_except (outcome : Except ε α) :
    Yields post (ofExcept outcome : Program S ε α) ↔ ∀ value, outcome = .ok value → post value := by
  cases outcome <;> simp [ofExcept]

@[simp] theorem yields_reject_if {post : Unit → Prop} (condition : Bool) (error : ε) :
    Yields post (rejectIf condition error : Program S ε Unit) ↔ (condition = false → post ()) := by
  unfold rejectIf
  cases condition <;> simp

theorem yields_any (program : Program S ε α) : Yields (fun _ => True) program := by
  induction program with
  | done value => trivial
  | fail error => trivial
  | call op next induction => exact induction

theorem Yields.mono {stronger : α → Prop} {program : Program S ε α}
    (yields : Yields stronger program) (weaker : ∀ value, stronger value → post value) :
    Yields post program := by
  induction program with
  | done value => exact weaker value yields
  | fail error => trivial
  | call op next induction => exact fun answer => induction answer (yields answer)

theorem Yields.bind {middle : β → Prop} {program : Program S ε β} {rest : β → Program S ε α}
    (yields : Yields middle program) (later : ∀ value, middle value → Yields post (rest value)) :
    Yields post (program >>= rest) := by
  induction program with
  | done value => exact later value yields
  | fail error => trivial
  | call op next induction => exact fun answer => induction answer (yields answer)

/-- Only what comes last matters. -/
theorem yields_bind {program : Program S ε β} {rest : β → Program S ε α}
    (later : ∀ value, Yields post (rest value)) : Yields post (program >>= rest) :=
  (yields_any program).bind fun value _ => later value

/-- Errors of a program whose rest is judged by the values it may return. -/
theorem Uses.bind_yields {footprint : S.Op → Prop} {raises : ε → Prop} {middle : β → Prop}
    {program : Program S ε β} {rest : β → Program S ε α} (uses : Uses footprint raises program)
    (yields : Yields middle program)
    (later : ∀ value, middle value → Uses footprint raises (rest value)) :
    Uses footprint raises (program >>= rest) := by
  induction program with
  | done value => exact later value yields
  | fail error => exact uses
  | call op next induction =>
      exact ⟨uses.1, fun answer => induction answer (uses.2 answer) (yields answer)⟩

/-- An invisible first part whose values are known. -/
theorem Uses.obeys_bind_yields {footprint : S.Op → Prop} {raises : ε → Prop} {middle : β → Prop}
    {contract : Contract S M} {post : M → Except ε α → Prop} {state : M}
    (invisible : ∀ op, footprint op → contract.allowed state op ∧
      ∀ answer, contract.after state op answer = state)
    {program : Program S ε β} {rest : β → Program S ε α}
    (uses : Uses footprint raises program) (yields : Yields middle program)
    (rejected : ∀ error, raises error → post state (.error error))
    (later : ∀ value, middle value → Obeys contract post state (rest value)) :
    Obeys contract post state (program >>= rest) := by
  induction program with
  | done value => exact later value yields
  | fail error => exact rejected error uses
  | call op next induction =>
      obtain ⟨allowed, same⟩ := invisible op uses.1
      refine ⟨allowed, fun answer _ => ?_⟩
      rw [same answer]
      exact induction answer (uses.2 answer) (yields answer)

theorem Yields.mapError {handler : ε → ε'} {program : Program S ε α}
    (yields : Yields post program) : Yields post (program.mapError handler) := by
  induction program with
  | done value => exact yields
  | fail error => trivial
  | call op next induction => exact fun answer => induction answer (yields answer)

theorem Yields.run {interp : Interpretation S σ} {program : Program S ε α} {state later : σ}
    {value : α} (yields : Yields post program)
    (ok : program.run interp state = (.ok value, later)) : post value := by
  induction program generalizing state with
  | done other =>
      cases ok
      exact yields
  | fail error => cases ok
  | call op next induction => exact induction _ (yields _) ok

end Yields

end Program

end OAuth2Server.Interaction
