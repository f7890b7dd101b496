import Mathlib.Algebra.Order.BigOperators.Group.List
import OAuth2Server.Delegation
import OAuth2Server.Worklists

/-!
# The depth walk in any order

`check_depth` of `services/limits.py` walks a document with an explicit stack.
Whatever is popped first, the walk ends, and it refuses exactly the documents
that nest too deep.
-/

namespace OAuth2Server.DepthWalk

open OAuth2Server JsonText Validation Delegation Worklists

set_option autoImplicit false

/-! ### Documents as trees -/

/-- The values that a container holds. -/
def parts : Json → List Json
  | .arr items => items
  | .obj members => members.map (·.2)
  | _ => []

theorem nodes_parts (value : Json) : nodes value = 1 + itemNodes (parts value) := by
  cases value with
  | arr items => rfl
  | obj members =>
      unfold parts
      rw [← member_nodes_eq]
      rfl
  | _ => rfl

theorem item_nodes_sum (items : List Json) : itemNodes items = (items.map nodes).sum := by
  induction items with
  | nil => rfl
  | cons item rest induction => simp [itemNodes, induction]

/-- A value of the stack, with its level, above what it holds. -/
def documents : Branching (Json × Nat) where
  children entry := (parts entry.1).map fun child => (child, entry.2 + 1)
  weight entry := nodes entry.1
  lighter := by
    intro entry
    have below : (((parts entry.1).map fun child => (child, entry.2 + 1)).map
        fun entry : Json × Nat => nodes entry.1) = (parts entry.1).map nodes := by
      rw [List.map_map]
      rfl
    rw [below, ← item_nodes_sum, nodes_parts entry.1]
    omega

/-- The test of a round: a container is not below the limit. -/
def Admits (limit : Nat) (entry : Json × Nat) : Prop :=
  match entry.1 with
  | .arr _ => entry.2 ≤ limit
  | .obj _ => entry.2 ≤ limit
  | _ => True

/-- One round of the test agrees with one round of the recursion. -/
theorem fits_iff (limit : Nat) (node : Json) (level : Nat) :
    Fits limit (node, level) ↔
      Admits limit (node, level) ∧ ∀ child ∈ parts node, Fits limit (child, level + 1) := by
  cases node with
  | arr items => exact container_fits rfl
  | obj members =>
      have deep : depth (.obj members) = 1 + itemDepth (members.map (·.2)) := by
        rw [← member_depth_eq]
        rfl
      exact container_fits deep
  | _ => simp [Fits, Admits, parts, depth]

/-- By induction on the size of the value. -/
theorem within_iff_fits (limit : Nat) (node : Json) (level : Nat) :
    Within documents (Admits limit) (node, level) ↔ Fits limit (node, level) := by
  induction size : nodes node using Nat.strong_induction_on generalizing node level with
  | _ count induction =>
      rw [Worklists.within_iff, fits_iff]
      have smaller : ∀ child ∈ parts node, nodes child < count := by
        intro child member
        have bounded : nodes child ≤ ((parts node).map nodes).sum :=
          List.single_le_sum (fun _ _ => Nat.zero_le _) _ (List.mem_map_of_mem member)
        rw [← item_nodes_sum] at bounded
        rw [← size, nodes_parts node]
        omega
      have children : (∀ child ∈ documents.children (node, level),
          Within documents (Admits limit) child) ↔
          ∀ child ∈ parts node, Fits limit (child, level + 1) := by
        unfold documents
        rw [List.forall_mem_map]
        constructor
        · intro within child member
          exact (induction _ (smaller child member) child (level + 1) rfl).1 (within child member)
        · intro fits child member
          exact (induction _ (smaller child member) child (level + 1) rfl).2 (fits child member)
      rw [children]

/-! ### The walk of the code -/

/-- The loop of `check_depth` is a walk that takes the top of its stack, by induction on
the rounds that its values allow. -/
theorem depth_within_walks (limit : Nat) : ∀ (fuel : Nat) (stack : List (Json × Nat)),
    pending stack ≤ fuel →
      Walk documents (Admits limit) stack (depthWithin limit fuel stack) := by
  intro fuel
  induction fuel with
  | zero =>
      intro stack enough
      cases stack with
      | nil => exact .finished
      | cons entry stack =>
          have counted : pending (entry :: stack) = nodes entry.1 + pending stack := rfl
          have positive := nodes_parts entry.1
          omega
  | succ fuel induction =>
      intro stack enough
      cases stack with
      | nil => exact .finished
      | cons entry stack =>
          obtain ⟨node, level⟩ := entry
          have counted : pending ((node, level) :: stack) = nodes node + pending stack := rfl
          have size := nodes_parts node
          have descended : Admits limit (node, level) →
              Walk documents (Admits limit) ((node, level) :: stack) (depthWithin limit fuel
                (((parts node).map fun child => (child, level + 1)).reverse ++ stack)) := by
            intro admitted
            have fewer := pending_pushed (parts node) (level + 1) stack
            have later := induction
              (((parts node).map fun child => (child, level + 1)).reverse ++ stack) (by omega)
            apply Walk.visited _ later
            apply Round.visit (List.Perm.refl _) admitted
            exact (List.reverse_perm _).append_right stack
          have container : (Admits limit (node, level) ↔ level ≤ limit) →
              Walk documents (Admits limit) ((node, level) :: stack)
                (if limit < level then false
                else depthWithin limit fuel
                  (((parts node).map fun child => (child, level + 1)).reverse ++ stack)) := by
            intro admits
            by_cases outside : limit < level
            · rw [if_pos outside]
              apply Walk.refused (List.Perm.refl _)
              rw [admits]
              omega
            · rw [if_neg outside]
              exact descended (admits.2 (Nat.le_of_not_lt outside))
          cases node with
          | arr items => exact container Iff.rfl
          | obj members => exact container Iff.rfl
          | _ => exact descended trivial

/-- Whatever order values are pushed and popped in, the walk ends, and it refuses a
document exactly when its containers nest deeper than the limit. -/
theorem depth_walk_any_order (value : Json) (name : String) (limit : Nat) :
    (WellFounded fun next work => Round documents (Admits limit) work next) ∧
    (∀ outcome, Walk documents (Admits limit) [(value, 1)] outcome →
      (outcome = false ↔ limit < depth value)) ∧
    Walk documents (Admits limit) [(value, 1)]
      (depthWithin limit (nodes value) [(value, 1)]) ∧
    (checkDepth value name limit = .error (.limit (depthMessage name limit)) ↔
      limit < depth value) ∧
    (checkDepth value name limit = .ok () ↔ depth value ≤ limit) := by
  have walks : Walk documents (Admits limit) [(value, 1)]
      (depthWithin limit (nodes value) [(value, 1)]) := by
    apply depth_within_walks
    have counted : pending [(value, 1)] = nodes value + 0 := rfl
    omega
  have decides : ∀ outcome, Walk documents (Admits limit) [(value, 1)] outcome →
      (outcome = true ↔ depth value ≤ limit) := by
    intro outcome walk
    rw [walk.outcome_iff]
    simp only [List.mem_singleton, forall_eq, within_iff_fits, Fits]
    omega
  have refuses : ∀ outcome, Walk documents (Admits limit) [(value, 1)] outcome →
      (outcome = false ↔ limit < depth value) := by
    intro outcome walk
    rw [← not_le, ← decides outcome walk]
    cases outcome <;> simp
  have accepted := check_depth_ok_iff value name limit
  refine ⟨rounds_well_founded _ _, refuses, walks, ?_, accepted⟩
  have refused := refuses _ walks
  unfold checkDepth
  cases ran : depthWithin limit (nodes value) [(value, 1)] with
  | true =>
      rw [ran] at refused
      simpa using refused
  | false =>
      rw [ran] at refused
      simpa using refused

end OAuth2Server.DepthWalk
