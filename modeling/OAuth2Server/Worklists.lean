import Mathlib.Algebra.BigOperators.Group.List.Basic
import Mathlib.Algebra.Ring.Nat
import Mathlib.Data.List.Perm.Basic
import Mathlib.Logic.Relation

/-!
# Walking a tree with a worklist

A walk takes a node off its worklist, tests it, and puts the children of the
node on. The order in which nodes are taken and put decides neither whether the
walk ends nor what it finds.
-/

namespace OAuth2Server.Worklists

set_option autoImplicit false

/-- A node weighs more than its children together. -/
structure Branching (α : Type) where
  children : α → List α
  weight : α → Nat
  lighter : ∀ node, ((children node).map weight).sum < weight node

section Walks

variable {α : Type} (tree : Branching α) (fits : α → Prop)

/-- The weight of all the nodes of a worklist. -/
def Branching.total (work : List α) : Nat := (work.map tree.weight).sum

/-- A node that fits gives way to its children. -/
inductive Round (work next : List α) : Prop
  | visit {node : α} {rest : List α} (taken : work.Perm (node :: rest)) (fit : fits node)
      (pushed : next.Perm (tree.children node ++ rest))

/-- A walk ends with an empty worklist or at a node that does not fit. -/
inductive Walk : List α → Bool → Prop
  | finished : Walk [] true
  | refused {work rest : List α} {node : α} (taken : work.Perm (node :: rest))
      (misfit : ¬fits node) : Walk work false
  | visited {work next : List α} {outcome : Bool} (round : Round tree fits work next)
      (later : Walk next outcome) : Walk work outcome

/-- A node and everything below it fits. -/
def Within (node : α) : Prop :=
  ∀ below, Relation.ReflTransGen (fun above child => child ∈ tree.children above) node below →
    fits below

end Walks

section Rounds

variable {α : Type} {tree : Branching α} {fits : α → Prop} {work next : List α}

theorem within_iff {node : α} :
    Within tree fits node ↔ fits node ∧ ∀ child ∈ tree.children node, Within tree fits child := by
  constructor
  · intro within
    apply And.intro (within node Relation.ReflTransGen.refl)
    intro child member below path
    exact within below (Relation.ReflTransGen.head member path)
  · rintro ⟨fit, children⟩ below path
    rcases Relation.ReflTransGen.cases_head path with same | ⟨child, member, rest⟩
    · rw [← same]
      exact fit
    · exact children child member below rest

theorem Round.total_lt (round : Round tree fits work next) : tree.total next < tree.total work := by
  obtain @⟨node, rest, taken, _, pushed⟩ := round
  have before : tree.total work = tree.weight node + tree.total rest := by
    unfold Branching.total
    rw [(taken.map tree.weight).sum_eq, List.map_cons, List.sum_cons]
  have after : tree.total next = ((tree.children node).map tree.weight).sum + tree.total rest := by
    unfold Branching.total
    rw [(pushed.map tree.weight).sum_eq, List.map_append, List.sum_append]
  have lighter := tree.lighter node
  omega

/-- No walk goes on for ever. -/
theorem rounds_well_founded (tree : Branching α) (fits : α → Prop) :
    WellFounded fun next work => Round tree fits work next := by
  have measured : WellFounded fun next work : List α => tree.total next < tree.total work :=
    InvImage.wf tree.total Nat.lt_wfRel.wf
  exact Subrelation.wf (fun round => round.total_lt) measured

/-- A round passes on what is left to find. -/
theorem Round.within_iff (round : Round tree fits work next) :
    (∀ node ∈ work, Within tree fits node) ↔ ∀ node ∈ next, Within tree fits node := by
  obtain @⟨node, rest, taken, fit, pushed⟩ := round
  constructor
  · intro within other member
    rcases List.mem_append.1 (pushed.mem_iff.1 member) with child | kept
    · have parent := within node (taken.mem_iff.2 List.mem_cons_self)
      exact (Worklists.within_iff.1 parent).2 other child
    · exact within other (taken.mem_iff.2 (List.mem_cons_of_mem _ kept))
  · intro within other member
    rcases List.mem_cons.1 (taken.mem_iff.1 member) with same | kept
    · have below : ∀ child ∈ tree.children node, Within tree fits child := by
        intro child listed
        exact within child (pushed.mem_iff.2 (List.mem_append_left _ listed))
      rw [same]
      exact Worklists.within_iff.2 ⟨fit, below⟩
    · exact within other (pushed.mem_iff.2 (List.mem_append_right _ kept))

/-- By induction on the walk: its outcome says whether everything fits. -/
theorem Walk.outcome_iff {outcome : Bool} (walk : Walk tree fits work outcome) :
    outcome = true ↔ ∀ node ∈ work, Within tree fits node := by
  induction walk with
  | finished => simp
  | refused taken misfit =>
      constructor
      · intro refused
        cases refused
      · intro within
        have whole := within _ (taken.mem_iff.2 List.mem_cons_self)
        exact absurd (Worklists.within_iff.1 whole).1 misfit
  | visited round _ induction => exact induction.trans round.within_iff.symm

end Rounds

end OAuth2Server.Worklists
