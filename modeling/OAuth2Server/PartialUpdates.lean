import OAuth2Server.Interleaving
import Mathlib.Data.List.Basic

/-!
# Records that are read, merged and written back

A record of fields and any number of parties. A party assigns some fields, or
reads the whole record and later writes it back with some fields replaced. In
an undisturbed history no write between a party's reading and its writing back
submits a field that the party leaves out; every field then holds what was last
submitted for it.
-/

namespace OAuth2Server.PartialUpdates

set_option autoImplicit false

variable {ι φ ν : Type}

/-- What one step of a party does to the record. -/
inductive Effect (φ ν : Type) where
  | none
  | read
  | assign (values : φ → Option ν)
  | merge (values : φ → Option ν)

/-- The fields a step submits; a merge also writes the others back. -/
def Effect.submitted : Effect φ ν → φ → Option ν
  | .assign values => values
  | .merge values => values
  | .none => fun _ => .none
  | .read => fun _ => .none

/-- Some fields of a record replaced. -/
def overlay (values : φ → Option ν) (base : φ → ν) (field : φ) : ν :=
  (values field).getD (base field)

structure State (ι φ ν : Type) where
  record : φ → ν
  snapshot : ι → φ → ν

variable [DecidableEq ι]

def apply (state : State ι φ ν) : ι × Effect φ ν → State ι φ ν
  | (_, .none) => state
  | (party, .read) =>
      { state with snapshot := Function.update state.snapshot party state.record }
  | (_, .assign values) =>
      { state with record := overlay values state.record }
  | (party, .merge values) =>
      { state with record := overlay values (state.snapshot party) }

def run (state : State ι φ ν) (history : List (ι × Effect φ ν)) : State ι φ ν :=
  history.foldl apply state

omit [DecidableEq ι] in
/-- The value last submitted for a field, or its first value. -/
def lastSubmitted (first : φ → ν) (history : List (ι × Effect φ ν)) (field : φ) : ν :=
  (history.filterMap fun event => event.2.submitted field).getLast?.getD (first field)

omit [DecidableEq ι] in
/-- Each merge follows its party's reading, and in between nothing submits a
field that the merge leaves out. -/
def Undisturbed (history : List (ι × Effect φ ν)) : Prop :=
  ∀ earlier party values later, history = earlier ++ (party, .merge values) :: later →
    ∃ before between, earlier = before ++ (party, .read) :: between ∧
      ∀ event ∈ between, event ≠ (party, .read) ∧
        ∀ field, (event.2.submitted field).isSome → (values field).isSome

@[simp] theorem run_append (state : State ι φ ν) (earlier later : List (ι × Effect φ ν)) :
    run state (earlier ++ later) = run (run state earlier) later :=
  List.foldl_append

@[simp] theorem run_cons (state : State ι φ ν) (event : ι × Effect φ ν)
    (later : List (ι × Effect φ ν)) :
    run state (event :: later) = run (apply state event) later := rfl

@[simp] theorem run_nil (state : State ι φ ν) : run state [] = state := rfl

omit [DecidableEq ι] in
theorem Undisturbed.earlier {history more : List (ι × Effect φ ν)}
    (undisturbed : Undisturbed (history ++ more)) : Undisturbed history := by
  intro earlier party values later split
  exact undisturbed earlier party values (later ++ more) (by rw [split]; simp)

omit [DecidableEq ι] in
/-- Steps that do not submit the field leave its last submission. -/
theorem last_submitted_quiet {first : φ → ν} {history more : List (ι × Effect φ ν)} {field : φ}
    (quiet : ∀ event ∈ more, event.2.submitted field = none) :
    lastSubmitted first (history ++ more) field = lastSubmitted first history field := by
  have nothing : more.filterMap (fun event => event.2.submitted field) = [] :=
    List.filterMap_eq_nil_iff.2 quiet
  unfold lastSubmitted
  rw [List.filterMap_append, nothing, List.append_nil]

omit [DecidableEq ι] in
theorem last_submitted_snoc (first : φ → ν) (history : List (ι × Effect φ ν))
    (event : ι × Effect φ ν) (field : φ) :
    lastSubmitted first (history ++ [event]) field =
      (event.2.submitted field).getD (lastSubmitted first history field) := by
  cases submitted : event.2.submitted field with
  | none =>
      apply last_submitted_quiet
      intro other member
      rw [List.mem_singleton.1 member]
      exact submitted
  | some value => simp [lastSubmitted, List.filterMap_append, submitted]

/-- A party's snapshot lasts until it reads again. -/
theorem snapshot_kept {party : ι} (between : List (ι × Effect φ ν)) (state : State ι φ ν)
    (other : ∀ event ∈ between, event ≠ (party, .read)) :
    (run state between).snapshot party = state.snapshot party := by
  induction between generalizing state with
  | nil => rfl
  | cons event rest induction =>
      have later := induction (apply state event) fun next member =>
        other next (List.mem_cons_of_mem _ member)
      rw [run_cons, later]
      rcases event with ⟨mover, effect⟩
      cases effect with
      | none => rfl
      | assign values => rfl
      | merge values => rfl
      | read =>
          have apart : party ≠ mover := by
            rintro rfl
            exact other _ List.mem_cons_self rfl
          exact Function.update_of_ne apart _ _

/-- Undisturbed histories lose no update. -/
theorem record_last_submitted (state : State ι φ ν) (history : List (ι × Effect φ ν))
    (undisturbed : Undisturbed history) (field : φ) :
    (run state history).record field = lastSubmitted state.record history field := by
  -- On the length: a merge writes back what an earlier prefix of the history left.
  induction length : history.length using Nat.strongRecOn generalizing history with
  | _ size induction =>
      rcases List.eq_nil_or_concat history with rfl | ⟨earlier, ⟨party, effect⟩, rfl⟩
      · rfl
      · rw [List.concat_eq_append] at undisturbed length ⊢
        rw [List.length_append, List.length_singleton] at length
        have here := induction earlier.length (by omega) earlier undisturbed.earlier rfl
        rw [last_submitted_snoc, ← here, run_append]
        cases effect with
        | none => rfl
        | read => rfl
        | assign values => rfl
        | merge values =>
            change overlay values ((run state earlier).snapshot party) field =
              (values field).getD ((run state earlier).record field)
            unfold overlay
            cases submitted : values field with
            | some value => rfl
            | none =>
                obtain ⟨before, between, rfl, quiet⟩ :=
                  undisturbed earlier party values [] rfl
                have old := induction before.length (by simp at length; omega) before
                  (Undisturbed.earlier (by simpa using undisturbed)) rfl
                have silent : ∀ event ∈ (party, .read) :: between,
                    event.2.submitted field = none := by
                  intro event member
                  rcases List.mem_cons.1 member with rfl | inside
                  · rfl
                  · by_contra some
                    have left := (quiet event inside).2 field (Option.isSome_iff_ne_none.2 some)
                    rw [submitted] at left
                    cases left
                rw [here, last_submitted_quiet silent, ← old, run_append, run_cons,
                  snapshot_kept between _ fun event inside => (quiet event inside).1]
                exact congrFun (Function.update_self _ _ _) field

/-! ### Programs over a stored record -/

section Programs

open Interaction Interaction.Program Interleaving Interleaving.Pool

variable {S : Signature} {σ ε α M : Type}

/-- How an operation acts on the stored record and on the record its program holds. -/
def Acts (effect : Effect φ ν) (before after : φ → ν) (held holds : Option (φ → ν)) : Prop :=
  match effect with
  | .none => after = before ∧ (holds = none ∨ holds = held)
  | .read => after = before ∧ (holds = none ∨ holds = some before)
  | .assign values => after = overlay values before ∧ (holds = none ∨ holds = held)
  | .merge values =>
      (∃ snapshot, held = some snapshot ∧ after = overlay values snapshot) ∧ holds = none

/-- The abstract history of a run. -/
def effects (effect : ι → Event S → Effect φ ν) (trace : List (ι × Event S)) :
    List (ι × Effect φ ν) :=
  trace.map fun event => (event.1, effect event.1 event.2)

theorem acts_apply {effect : Effect φ ν} {before after : φ → ν} {party : ι} {state : State ι φ ν}
    (held : ι → Option (φ → ν)) {holds : Option (φ → ν)}
    (acts : Acts effect before after (held party) holds) (record : state.record = before)
    (snapshots : ∀ other snapshot, held other = some snapshot → state.snapshot other = snapshot) :
    (apply state (party, effect)).record = after ∧
      ∀ other snapshot, Function.update held party holds other = some snapshot →
        (apply state (party, effect)).snapshot other = snapshot := by
  have kept : (holds = none ∨ holds = held party) →
      ∀ other snapshot, Function.update held party holds other = some snapshot →
        state.snapshot other = snapshot := by
    intro same other snapshot holding
    by_cases mover : other = party
    · subst mover
      rw [Function.update_self] at holding
      rcases same with none | same
      · rw [none] at holding
        cases holding
      · exact snapshots other snapshot (same.symm.trans holding)
    · rw [Function.update_of_ne mover] at holding
      exact snapshots other snapshot holding
  cases effect with
  | none => exact ⟨record.trans acts.1.symm, kept acts.2⟩
  | assign values =>
      refine ⟨?_, kept acts.2⟩
      rw [acts.1, ← record]
      rfl
  | merge values =>
      obtain ⟨⟨snapshot, holding, written⟩, nothing⟩ := acts
      refine ⟨?_, kept (Or.inl nothing)⟩
      rw [written, ← snapshots party snapshot holding]
      rfl
  | read =>
      refine ⟨record.trans acts.1.symm, ?_⟩
      intro other snapshot holding
      by_cases mover : other = party
      · subst mover
        rw [Function.update_self] at holding
        have taken : holds = some before := by
          rcases acts.2 with none | taken
          · rw [none] at holding
            cases holding
          · exact taken
        cases taken.symm.trans holding
        exact (Function.update_self _ _ _).trans record
      · rw [Function.update_of_ne mover] at holding
        exact (Function.update_of_ne mover _ _).trans (snapshots other snapshot holding)

/-- Programs whose operations act on a stored record run as the abstract history
of their effects. -/
theorem exec_refines {contract : Contract S M} {post : M → Except ε α → Prop} {first : ι → M}
    {interp : Interpretation S σ} (sound : contract.Sound interp) (effect : ι → Event S → Effect φ ν)
    (view : σ → Option (φ → ν)) (held : M → Option (φ → ν)) (inv : σ → (ι → M) → Prop)
    (acts : ∀ world states thread op before, contract.allowed (states thread) op →
      inv world states → view world = some before →
      inv (interp op world).2 (Function.update states thread
        (contract.after (states thread) op (interp op world).1)) ∧
      ∃ after, view (interp op world).2 = some after ∧
        Acts (effect thread ⟨op, (interp op world).1⟩) before after (held (states thread))
          (held (contract.after (states thread) op (interp op world).1)))
    {pool : Pool S σ ε α ι} (following : Following contract post first pool)
    (base : inv pool.world (phase contract first pool)) {record : φ → ν}
    (shown : view pool.world = some record)
    (fresh : ∀ thread, held (phase contract first pool thread) = none) (schedule : List ι) :
    view (exec interp pool schedule).world =
      some (run ⟨record, fun _ => record⟩
        (effects effect (trace interp pool schedule))).record := by
  let start : State ι φ ν := ⟨record, fun _ => record⟩
  have simulated := trace_invariant sound
    (fun world states trace => inv world states ∧
      view world = some (run start (effects effect trace)).record ∧
      ∀ thread snapshot, held (states thread) = some snapshot →
        (run start (effects effect trace)).snapshot thread = snapshot)
    (by
      rintro world states trace thread op permitted ⟨holds, shows, snapshots⟩
      obtain ⟨kept, after, shown, acting⟩ := acts world states thread op _ permitted holds shows
      obtain ⟨record, taken⟩ := acts_apply (fun other => held (states other)) acting rfl snapshots
      have grown : run start (effects effect (trace ++ [(thread, ⟨op, (interp op world).1⟩)])) =
          apply (run start (effects effect trace))
            (thread, effect thread ⟨op, (interp op world).1⟩) := by
        unfold effects
        rw [List.map_append, run_append]
        rfl
      rw [grown]
      refine ⟨kept, shown.trans (congrArg some record.symm), ?_⟩
      intro other snapshot holding
      apply taken other snapshot
      by_cases mover : other = thread
      · subst mover
        rw [Function.update_self] at holding ⊢
        exact holding
      · rw [Function.update_of_ne mover] at holding ⊢
        exact holding)
    following [] ⟨base, shown, fun thread snapshot holding => by
      rw [fresh thread] at holding
      cases holding⟩ schedule
  exact simulated.2.1

end Programs

end OAuth2Server.PartialUpdates
