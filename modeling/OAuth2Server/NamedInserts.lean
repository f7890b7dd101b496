import OAuth2Server.Interaction
import Mathlib.Data.List.Nodup
import Mathlib.Data.List.Infix

/-!
# Storing items under names of their own

A loop stores items one by one and stops at the first that fails. Given what
one item may come to, a run over a list stores a prefix of it, the whole list
when it succeeds; and it succeeds when the names are free and distinct.
-/

namespace OAuth2Server.NamedInserts

open Interaction

set_option autoImplicit false

/-- `for item in items: body(item)`. -/
def forEach {S : Signature} {ε Item : Type} (body : Item → Program S ε Unit) :
    List Item → Program S ε Unit
  | [] => pure ()
  | item :: rest => do
      body item
      forEach body rest

/-- How the states speak of what is stored: which items were added on the way
from one to another, which names are free, and whether the store can still
refuse an item for another reason than its name. -/
structure Inventory (σ Item : Type) where
  name : Item → String
  Added : List Item → σ → σ → Prop
  Free : σ → String → Prop
  Fresh : σ → Prop
  nothing : ∀ state, Added [] state state
  append : ∀ {first second : List Item} {start middle finish : σ}, Added first start middle →
    Added second middle finish → Added (first ++ second) start finish

section Loops

variable {S : Signature} {σ ε Item : Type} (inventory : Inventory σ Item) (Clash : ε → Prop)

/-- What one item may come to. -/
inductive Step (item : Item) (start : σ) : Except ε Unit → σ → Prop where
  | taken (error : ε) (clash : Clash error)
      (held : ¬inventory.Free start (inventory.name item)) : Step item start (.error error) start
  | refused (error : ε) (finish : σ) (kept : inventory.Added [] start finish)
      (stale : ¬inventory.Fresh start) : Step item start (.error error) finish
  | stored (finish : σ) (added : inventory.Added [item] start finish)
      (free : ∀ name, inventory.Free finish name ↔
        inventory.Free start name ∧ inventory.name item ≠ name)
      (open_ : inventory.Free start (inventory.name item))
      (fresh : inventory.Fresh start → inventory.Fresh finish) : Step item start (.ok ()) finish

/-- What a run over a list comes to. -/
structure Ran (items : List Item) (start : σ) (outcome : Except ε Unit) (finish : σ) : Prop where
  added : ∃ stored, stored <+: items ∧ inventory.Added stored start finish ∧
    (outcome = .ok () → stored = items)
  free : outcome = .ok () → ∀ item ∈ items, inventory.Free start (inventory.name item)
  fresh : outcome = .ok () → inventory.Fresh start → inventory.Fresh finish
  succeeds : inventory.Fresh start →
    (∀ item ∈ items, inventory.Free start (inventory.name item)) →
    (items.map inventory.name).Nodup → outcome = .ok ()
  clashes : inventory.Fresh start → outcome = .ok () ∨ ∃ error, outcome = .error error ∧ Clash error

variable {inventory Clash} {interp : Program.Interpretation S σ} {body : Item → Program S ε Unit}

theorem ran_nothing (start : σ) : Ran inventory Clash [] start (.ok ()) start where
  added := ⟨[], List.prefix_refl _, inventory.nothing start, fun _ => rfl⟩
  free := fun _ _ member => absurd member List.not_mem_nil
  fresh := fun _ fresh => fresh
  succeeds := fun _ _ _ => rfl
  clashes := fun _ => .inl rfl

/-- The loop stops at an item that fails. -/
theorem ran_stopped {item : Item} {rest : List Item} {start finish : σ} {error : ε}
    (step : Step inventory Clash item start (.error error) finish) :
    Ran inventory Clash (item :: rest) start (.error error) finish := by
  have kept : inventory.Added [] start finish := by
    cases step with
    | taken _ _ _ => exact inventory.nothing start
    | refused _ _ kept _ => exact kept
  exact
    { added := ⟨[], List.nil_prefix, kept, fun passed => by cases passed⟩
      free := fun passed => by cases passed
      fresh := fun passed => by cases passed
      succeeds := fun fresh free _ => by
        cases step with
        | taken _ _ held => exact absurd (free item List.mem_cons_self) held
        | refused _ _ _ stale => exact absurd fresh stale
      clashes := fun fresh => by
        cases step with
        | taken _ clash _ => exact .inr ⟨error, rfl, clash⟩
        | refused _ _ _ stale => exact absurd fresh stale }

/-- It goes on after an item that is stored. -/
theorem ran_further {item : Item} {rest : List Item} {start middle finish : σ}
    {outcome : Except ε Unit} (step : Step inventory Clash item start (.ok ()) middle)
    (later : Ran inventory Clash rest middle outcome finish) :
    Ran inventory Clash (item :: rest) start outcome finish := by
  cases step with
  | stored middle added free open_ fresh =>
      obtain ⟨stored, front, grown, whole⟩ := later.added
      exact
        { added := ⟨item :: stored, (List.prefix_cons_inj item).2 front,
            inventory.append added grown, fun passed => by rw [whole passed]⟩
          free := fun passed => by
            rw [List.forall_mem_cons]
            exact ⟨open_, fun other member => ((free _).1 (later.free passed other member)).1⟩
          fresh := fun passed unused => later.fresh passed (fresh unused)
          succeeds := fun unused names distinct => by
            rw [List.forall_mem_cons] at names
            rw [List.map_cons, List.nodup_cons] at distinct
            apply later.succeeds (fresh unused) _ distinct.2
            intro other member
            apply (free _).2
            refine ⟨names.2 other member, fun same => distinct.1 ?_⟩
            rw [same]
            exact List.mem_map_of_mem member
          clashes := fun unused => later.clashes (fresh unused) }

/-- From what one item comes to, what the loop comes to. -/
theorem each_ran (steps : ∀ item start, Step inventory Clash item start
      ((body item).run interp start).1 ((body item).run interp start).2)
    (items : List Item) (start : σ) : Ran inventory Clash items start
      ((forEach body items).run interp start).1 ((forEach body items).run interp start).2 := by
  induction items generalizing start with
  | nil => exact ran_nothing start
  | cons item rest induction =>
      have step := steps item start
      rw [forEach, Program.run_bind]
      generalize (body item).run interp start = ended at step ⊢
      obtain ⟨outcome, middle⟩ := ended
      cases outcome with
      | error error => exact ran_stopped step
      | ok value => exact ran_further step (induction middle)

end Loops

end OAuth2Server.NamedInserts
