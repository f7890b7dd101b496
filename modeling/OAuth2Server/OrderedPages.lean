import Mathlib.Data.List.Basic
import Mathlib.Data.List.Count
import Mathlib.Order.Lattice

/-!
# Pages of a sorted result

A result sorted by a preorder is cut into pages of one size, each page from an
arrangement of its own. The arrangements differ among tied rows only, so the
pages agree exactly where no boundary between two pages falls inside a tie.
-/

namespace OAuth2Server.OrderedPages

set_option autoImplicit false

variable {α : Type}

/-! ### Pages -/

def page (limit offset : Nat) (rows : List α) : List α := (rows.drop offset).take limit

/-- The pages before a count, one after the other. -/
def joined (pages : Nat → List α) (count : Nat) : List α := (List.range count).flatMap pages

theorem joined_succ (pages : Nat → List α) (count : Nat) :
    joined pages (count + 1) = joined pages count ++ pages count := by
  unfold joined
  rw [List.range_succ, List.flatMap_append, List.flatMap_singleton]

theorem joined_pages (limit count : Nat) (rows : List α) :
    joined (fun index => page limit (index * limit) rows) count = rows.take (count * limit) := by
  induction count with
  | zero => simp [joined]
  | succ count induction =>
      rw [joined_succ, induction, Nat.succ_mul, List.take_add]
      rfl

theorem joined_perm {pages other : Nat → List α} {count : Nat}
    (each : ∀ index < count, (pages index).Perm (other index)) :
    (joined pages count).Perm (joined other count) := by
  induction count with
  | zero => exact List.Perm.refl _
  | succ count induction =>
      rw [joined_succ, joined_succ]
      apply List.Perm.append
      · exact induction fun index early => each index (by omega)
      · exact each count (by omega)

theorem prefix_joined (pages : Nat → List α) {few count : Nat} (fewer : few ≤ count) :
    joined pages few <+: joined pages count := by
  induction count with
  | zero =>
      have none : few = 0 := by omega
      subst none
      exact List.prefix_refl _
  | succ count induction =>
      rcases Nat.lt_or_ge count few with last | earlier
      · have all : few = count + 1 := by omega
        subst all
        exact List.prefix_refl _
      · rw [joined_succ]
        exact (induction earlier).trans (List.prefix_append _ _)

/-! ### Rankings -/

/-- A total preorder, which a database or a sort compares by. -/
structure Ranking (α : Type) where
  le : α → α → Bool
  total : ∀ left right, le left right = true ∨ le right left = true
  trans : ∀ first second third, le first second = true → le second third = true →
    le first third = true

namespace Ranking

/-- The order of a linearly ordered type. -/
def linear (β : Type) [LinearOrder β] : Ranking β where
  le left right := decide (left ≤ right)
  total left right := by simpa only [decide_eq_true_eq] using le_total left right
  trans first second third := by simpa only [decide_eq_true_eq] using le_trans

/-- The order of a key. -/
def on {β : Type} (ranking : Ranking α) (key : β → α) : Ranking β where
  le left right := ranking.le (key left) (key right)
  total _ _ := ranking.total _ _
  trans _ _ _ := ranking.trans _ _ _

def reverse (ranking : Ranking α) : Ranking α where
  le left right := ranking.le right left
  total left right := ranking.total right left
  trans first second third early late := ranking.trans third second first late early

variable (ranking : Ranking α)

theorem le_refl (row : α) : ranking.le row row = true := (ranking.total row row).elim id id

/-- The rows strictly before a row. -/
def below (row other : α) : Bool := !ranking.le row other

/-- How many rows are strictly before a row. -/
def before (rows : List α) (row : α) : Nat := rows.countP (ranking.below row)

/-- How many rows are not after a row. -/
def upTo (rows : List α) (row : α) : Nat := rows.countP fun other => ranking.le other row

/-- A boundary falls inside a tie. -/
def Splits (rows : List α) (boundary : Nat) : Prop :=
  ∃ row ∈ rows, ranking.before rows row < boundary ∧ boundary < ranking.upTo rows row

/-- The rows in the order, tied rows in any. -/
structure Arranges (rows ordered : List α) : Prop where
  perm : ordered.Perm rows
  sorted : ordered.Pairwise fun left right => ranking.le left right = true

end Ranking

/-! ### Ties -/

section Ties

variable {ranking : Ranking α} {rows ordered : List α} {boundary : Nat}

theorem splits_perm (same : ordered.Perm rows) :
    ranking.Splits ordered boundary ↔ ranking.Splits rows boundary := by
  unfold Ranking.Splits Ranking.before Ranking.upTo
  simp only [same.mem_iff, same.countP_eq]

theorem arranges_sort (ranking : Ranking α) (rows : List α) :
    ranking.Arranges rows (rows.mergeSort ranking.le) where
  perm := List.mergeSort_perm rows ranking.le
  sorted := by
    apply List.pairwise_mergeSort
    · exact ranking.trans
    · intro left right
      rw [Bool.or_eq_true]
      exact ranking.total left right

/-- What is closed downwards is a beginning of a sorted list, and the rest is its end. -/
theorem filter_closed {keep : α → Bool}
    (closed : ordered.Pairwise fun left right => keep right = true → keep left = true) :
    ordered.filter keep = ordered.take (ordered.countP keep) ∧
      (ordered.filter fun row => !keep row) = ordered.drop (ordered.countP keep) := by
  induction ordered with
  | nil => exact ⟨rfl, rfl⟩
  | cons head tail induction =>
      obtain ⟨first, rest⟩ := List.pairwise_cons.1 closed
      cases kept : keep head with
      | true =>
          obtain ⟨front, back⟩ := induction rest
          constructor
          · rw [List.filter_cons_of_pos kept, List.countP_cons_of_pos kept, List.take_succ_cons,
              front]
          · rw [List.filter_cons_of_neg (by simp [kept]), List.countP_cons_of_pos kept,
              List.drop_succ_cons, back]
      | false =>
          have none : ∀ row ∈ head :: tail, ¬keep row = true := by
            intro row member kept'
            rcases List.mem_cons.1 member with same | later
            · rw [same, kept] at kept'
              cases kept'
            · rw [first row later kept'] at kept
              cases kept
          have empty : (head :: tail).countP keep = 0 := List.countP_eq_zero.2 none
          rw [empty]
          constructor
          · exact List.filter_eq_nil_iff.2 none
          · apply List.filter_eq_self.2
            intro row member
            simp [none row member]

theorem closed_below (sorted : ordered.Pairwise fun left right => ranking.le left right = true)
    (row : α) : ordered.Pairwise fun left right =>
      ranking.below row right = true → ranking.below row left = true := by
  apply sorted.imp
  intro left right order low
  unfold Ranking.below at low ⊢
  cases above : ranking.le row left with
  | false => rfl
  | true =>
      rw [ranking.trans _ _ _ above order] at low
      cases low

theorem closed_up_to (sorted : ordered.Pairwise fun left right => ranking.le left right = true)
    (row : α) : ordered.Pairwise fun left right =>
      ranking.le right row = true → ranking.le left row = true :=
  sorted.imp fun order low => ranking.trans _ _ _ order low

/-- Around a boundary inside a tie stand two tied rows. -/
theorem neighbours_of_splits
    (sorted : ordered.Pairwise fun left right => ranking.le left right = true)
    (splits : ranking.Splits ordered boundary) :
    ∃ front left right back, ordered = front ++ left :: right :: back ∧
      front.length + 1 = boundary ∧ ranking.le right left = true := by
  obtain ⟨row, _, low, high⟩ := splits
  obtain ⟨_, above⟩ := filter_closed (closed_below sorted row)
  obtain ⟨within, _⟩ := filter_closed (closed_up_to sorted row)
  have length : ranking.upTo ordered row ≤ ordered.length := List.countP_le_length
  unfold Ranking.before at low
  unfold Ranking.upTo at high length
  have later : ordered[boundary - 1] ∈ ordered.drop (ordered.countP (ranking.below row)) := by
    apply List.mem_drop_iff_getElem.2
    refine ⟨boundary - 1 - ordered.countP (ranking.below row), by omega, ?_⟩
    congr 1
    omega
  have sooner : ordered[boundary] ∈
      ordered.take (ordered.countP fun other => ranking.le other row) := by
    apply List.mem_take_iff_getElem.2
    exact ⟨boundary, by omega, rfl⟩
  rw [← above, List.mem_filter] at later
  rw [← within, List.mem_filter] at sooner
  have first : ranking.le row ordered[boundary - 1] = true := by
    simpa [Ranking.below] using later.2
  refine ⟨ordered.take (boundary - 1), ordered[boundary - 1], ordered[boundary],
    ordered.drop (boundary + 1), ?_, ?_, ?_⟩
  · have next : boundary - 1 + 1 = boundary := by omega
    rw [← List.drop_eq_getElem_cons]
    have cut := List.drop_eq_getElem_cons (l := ordered) (i := boundary - 1) (by omega)
    rw [next] at cut
    rw [← cut, List.take_append_drop]
  · rw [List.length_take]
    omega
  · exact ranking.trans _ _ _ sooner.2 first

/-- A row after a boundary that is tied with one before it makes the boundary fall
inside a tie. -/
theorem splits_of_tied
    (sorted : ordered.Pairwise fun left right => ranking.le left right = true) {left right : α}
    (early : left ∈ ordered.take boundary) (late : right ∈ ordered.drop boundary)
    (tied : ranking.le right left = true) : ranking.Splits ordered boundary := by
  obtain ⟨front, _⟩ := filter_closed (closed_below sorted right)
  refine ⟨right, List.mem_of_mem_drop late, ?_, ?_⟩
  · by_contra many
    have inside : left ∈ ordered.filter (ranking.below right) := by
      rw [front]
      apply List.take_subset_take_left ordered _ early
      unfold Ranking.before at many
      omega
    have strictly := (List.mem_filter.1 inside).2
    unfold Ranking.below at strictly
    rw [tied] at strictly
    cases strictly
  · have whole := List.take_append_drop boundary ordered
    have apart : ∀ one ∈ ordered.take boundary, ranking.le one right = true := by
      rw [← whole] at sorted
      intro one member
      exact (List.pairwise_append.1 sorted).2.2 one member right late
    have some : 0 < (ordered.drop boundary).countP fun other => ranking.le other right :=
      List.countP_pos_iff.2 ⟨right, late, ranking.le_refl right⟩
    have all : (ordered.take boundary).countP (fun other => ranking.le other right) =
        (ordered.take boundary).length := List.countP_eq_length.2 apart
    have inside : boundary < ordered.length := by
      have nonempty := List.length_pos_of_mem late
      rw [List.length_drop] at nonempty
      omega
    unfold Ranking.upTo
    rw [← whole, List.countP_append, all, List.length_take]
    omega

/-- Before a boundary outside the ties every arrangement has the same rows. -/
theorem take_perm {other : List α} (one : ranking.Arranges rows ordered)
    (two : ranking.Arranges rows other) (clean : ¬ranking.Splits rows boundary) :
    (ordered.take boundary).Perm (other.take boundary) := by
  have same : ordered.Perm other := one.perm.trans two.perm.symm
  rcases Nat.lt_or_ge boundary ordered.length with inside | outside
  · have apart : ∀ left ∈ ordered.take boundary, ranking.below ordered[boundary] left = true := by
      intro left early
      have late : ordered[boundary] ∈ ordered.drop boundary := by
        rw [List.drop_eq_getElem_cons inside]
        exact List.mem_cons_self
      unfold Ranking.below
      cases tied : ranking.le ordered[boundary] left with
      | false => rfl
      | true =>
          have splits := splits_of_tied one.sorted early late tied
          exact absurd ((splits_perm one.perm).1 splits) clean
    have later : ∀ right ∈ ordered.drop boundary,
        ¬ranking.below ordered[boundary] right = true := by
      intro right late
      rw [List.drop_eq_getElem_cons inside] at late
      have sorted := one.sorted
      rw [← List.take_append_drop boundary ordered, List.drop_eq_getElem_cons inside] at sorted
      have first := (List.pairwise_cons.1 (List.pairwise_append.1 sorted).2.1).1
      unfold Ranking.below
      rcases List.mem_cons.1 late with itself | after
      · rw [itself, ranking.le_refl]
        decide
      · rw [first right after]
        decide
    have count : (ordered.take boundary ++ ordered.drop boundary).countP
        (ranking.below ordered[boundary]) = boundary := by
      rw [List.countP_append, List.countP_eq_length.2 apart, List.countP_eq_zero.2 later,
        List.length_take]
      omega
    rw [List.take_append_drop] at count
    have here := (filter_closed (closed_below one.sorted ordered[boundary])).1
    have there := (filter_closed (closed_below two.sorted ordered[boundary])).1
    rw [count] at here
    rw [← same.countP_eq, count] at there
    rw [← here, ← there]
    exact same.filter _
  · have beyond : other.length ≤ boundary := by
      rw [← same.length_eq]
      exact outside
    rw [List.take_of_length_le outside, List.take_of_length_le beyond]
    exact same

variable {limit count : Nat}

/-- Between two boundaries outside the ties every arrangement has the same page. -/
theorem page_perm {other : List α} (one : ranking.Arranges rows ordered)
    (two : ranking.Arranges rows other) (clean : ∀ index, ¬ranking.Splits rows (index * limit))
    (index : Nat) :
    (page limit (index * limit) ordered).Perm (page limit (index * limit) other) := by
  have start := take_perm one two (clean index)
  have stop := take_perm one two (clean (index + 1))
  rw [Nat.succ_mul, List.take_add, List.take_add] at stop
  have front : (other.take (index * limit) ++ page limit (index * limit) ordered).Perm
      (other.take (index * limit) ++ page limit (index * limit) other) :=
    (start.symm.append_right _).trans stop
  exact (List.perm_append_left_iff _).1 front

/-- Where no boundary falls inside a tie, the pages have every row once. -/
theorem pages_perm {ordered : Nat → List α}
    (arranged : ∀ index < count, ranking.Arranges rows (ordered index))
    (clean : ∀ index, ¬ranking.Splits rows (index * limit)) (enough : rows.length ≤ count * limit) :
    (joined (fun index => page limit (index * limit) (ordered index)) count).Perm rows := by
  have reference := arranges_sort ranking rows
  have each : ∀ index < count, (page limit (index * limit) (ordered index)).Perm
      (page limit (index * limit) (rows.mergeSort ranking.le)) := by
    intro index early
    exact page_perm (arranged index early) reference clean index
  apply (joined_perm each).trans
  rw [joined_pages, List.take_of_length_le (by rw [reference.perm.length_eq]; exact enough)]
  exact reference.perm

/-- Where a boundary falls inside a tie, some arrangements give a row twice. -/
theorem splits_repeats (distinct : rows.Nodup) (positive : 0 < limit)
    (enough : rows.length ≤ count * limit) {index : Nat}
    (splits : ranking.Splits rows (index * limit)) :
    ∃ ordered : Nat → List α, (∀ index, ranking.Arranges rows (ordered index)) ∧
      ¬(joined (fun index => page limit (index * limit) (ordered index)) count).Perm rows := by
  have sort := arranges_sort ranking rows
  obtain ⟨front, left, right, back, split, length, tied⟩ :=
    neighbours_of_splits sort.sorted ((splits_perm sort.perm).2 splits)
  have swapped : ranking.Arranges rows (front ++ right :: left :: back) := by
    constructor
    · apply List.Perm.trans _ sort.perm
      rw [split]
      exact (List.Perm.swap left right back).append_left front
    · have sorted := sort.sorted
      rw [split] at sorted
      obtain ⟨first, others, cross⟩ := List.pairwise_append.1 sorted
      obtain ⟨fromLeft, rest⟩ := List.pairwise_cons.1 others
      obtain ⟨fromRight, last⟩ := List.pairwise_cons.1 rest
      apply List.pairwise_append.2
      refine ⟨first, List.pairwise_cons.2 ⟨?_, List.pairwise_cons.2 ⟨?_, last⟩⟩, ?_⟩
      · intro row member
        rcases List.mem_cons.1 member with same | later
        · rw [same]
          exact tied
        · exact fromRight row later
      · intro row member
        exact fromLeft row (List.mem_cons_of_mem _ member)
      · intro row early other member
        apply cross row early
        simp only [List.mem_cons] at member ⊢
        tauto
  refine ⟨fun other => if other < index then rows.mergeSort ranking.le
    else front ++ right :: left :: back, ?_, ?_⟩
  · intro other
    dsimp only
    split_ifs
    · exact sort
    · exact swapped
  · intro permuted
    have size : rows.length = (front ++ left :: right :: back).length := by
      rw [← split, sort.perm.length_eq]
    have inside : index < count := by
      apply Nat.lt_of_mul_lt_mul_right (a := limit)
      simp only [List.length_append, List.length_cons] at size
      omega
    have once := (permuted.nodup_iff.2 distinct).sublist (prefix_joined _ inside).sublist
    rw [joined_succ] at once
    apply (List.nodup_append.1 once).2.2 left _ left _ rfl
    · have earlier : joined (fun other => page limit (other * limit)
          (if other < index then rows.mergeSort ranking.le else front ++ right :: left :: back))
            index = (rows.mergeSort ranking.le).take (index * limit) := by
        rw [← joined_pages]
        apply List.flatMap_congr
        intro other early
        rw [if_pos (List.mem_range.1 early)]
      rw [earlier, split, ← length, List.take_append, List.take_of_length_le (Nat.le_succ _)]
      simp
    · dsimp only
      rw [if_neg (Nat.lt_irrefl _), ← length]
      unfold page
      have skip : (front ++ right :: left :: back).drop (front.length + 1) = left :: back := by
        simp
      rw [skip]
      obtain ⟨more, same⟩ := Nat.exists_eq_succ_of_ne_zero (Nat.pos_iff_ne_zero.1 positive)
      rw [same]
      exact List.mem_cons_self

/-- The pages have every row once for all arrangements exactly when no boundary falls
inside a tie. -/
theorem pages_perm_iff (distinct : rows.Nodup) (positive : 0 < limit)
    (enough : rows.length ≤ count * limit) :
    (∀ ordered : Nat → List α, (∀ index, ranking.Arranges rows (ordered index)) →
      (joined (fun index => page limit (index * limit) (ordered index)) count).Perm rows) ↔
      ∀ index, ¬ranking.Splits rows (index * limit) := by
  constructor
  · intro always index splits
    obtain ⟨ordered, arranged, repeated⟩ := splits_repeats distinct positive enough splits
    exact repeated (always ordered arranged)
  · intro clean ordered arranged
    exact pages_perm (fun index _ => arranged index) clean enough

end Ties

end OAuth2Server.OrderedPages
