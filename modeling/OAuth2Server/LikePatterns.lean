import Mathlib.Data.List.Infix

/-!
# The pattern language of LIKE

A pattern is a text in which one mark stands for any run of characters, one for
any character, and a third makes the next character literal. A text with its
marks escaped, between two run marks, is the search for that text as a
substring.
-/

namespace OAuth2Server.LikePatterns

set_option autoImplicit false

variable {α : Type} [DecidableEq α]

inductive Piece (α : Type) where
  | run
  | one
  | exactly (char : α)
  deriving DecidableEq, Repr

/-- Whether a whole text is of the form of a pattern. -/
def fits : List (Piece α) → List α → Bool
  | [], text => text.isEmpty
  | .run :: pieces, text => text.tails.any (fits pieces)
  | .one :: _, [] => false
  | .one :: pieces, _ :: text => fits pieces text
  | .exactly _ :: _, [] => false
  | .exactly char :: pieces, head :: text => char == head && fits pieces text

/-- The characters with a meaning of their own. -/
structure Marks (α : Type) where
  run : α
  one : α
  escape : α
  apart : run ≠ escape

/-- What a pattern's text denotes. An escape at the end denotes nothing. -/
def pieces (marks : Marks α) : List α → Option (List (Piece α))
  | [] => some []
  | char :: rest =>
      if char = marks.escape then
        match rest with
        | [] => none
        | literal :: rest => (pieces marks rest).map (.exactly literal :: ·)
      else if char = marks.run then (pieces marks rest).map (.run :: ·)
      else if char = marks.one then (pieces marks rest).map (.one :: ·)
      else (pieces marks rest).map (.exactly char :: ·)

/-- `text LIKE pattern ESCAPE escape`. -/
def like (marks : Marks α) (text pattern : List α) : Bool :=
  (pieces marks pattern).any fun denoted => fits denoted text

def escapedChar (marks : Marks α) (char : α) : List α :=
  if char = marks.escape ∨ char = marks.run ∨ char = marks.one then [marks.escape, char] else [char]

/-- A text with its marks made literal. -/
def escaped (marks : Marks α) (text : List α) : List α := text.flatMap (escapedChar marks)

variable {marks : Marks α}

theorem pieces_escaped_char (char : α) (rest : List α) :
    pieces marks (escapedChar marks char ++ rest) =
      (pieces marks rest).map (.exactly char :: ·) := by
  unfold escapedChar
  by_cases special : char = marks.escape ∨ char = marks.run ∨ char = marks.one
  · rw [if_pos special]
    simp [pieces]
  · obtain ⟨escape, run, one⟩ : char ≠ marks.escape ∧ char ≠ marks.run ∧ char ≠ marks.one := by
      simpa only [not_or] using special
    rw [if_neg special, List.singleton_append]
    conv_lhs => unfold pieces
    rw [if_neg escape, if_neg run, if_neg one]

/-- An escaped text denotes its own characters. -/
theorem pieces_escaped (text rest : List α) :
    pieces marks (escaped marks text ++ rest) =
      (pieces marks rest).map (text.map .exactly ++ ·) := by
  induction text with
  | nil => simp [escaped]
  | cons char text induction =>
      have head : pieces marks (escapedChar marks char ++ (escaped marks text ++ rest)) =
          (pieces marks (escaped marks text ++ rest)).map (.exactly char :: ·) :=
        pieces_escaped_char ..
      unfold escaped at head induction ⊢
      rw [List.flatMap_cons, List.append_assoc, head, induction, Option.map_map]
      rfl

theorem fits_exactly {text subject : List α} {after : List (Piece α)} :
    fits (text.map .exactly ++ after) subject = true ↔
      ∃ rest, subject = text ++ rest ∧ fits after rest = true := by
  induction text generalizing subject with
  | nil => simp
  | cons char text induction =>
      cases subject with
      | nil => simp [fits]
      | cons head subject =>
          have later := @induction subject
          simp only [List.map_cons, List.cons_append, fits, Bool.and_eq_true, beq_iff_eq, later,
            List.cons.injEq]
          constructor
          · intro ⟨same, rest, split, fit⟩
            exact ⟨rest, ⟨same.symm, split⟩, fit⟩
          · intro ⟨rest, ⟨same, split⟩, fit⟩
            exact ⟨same.symm, rest, split, fit⟩

theorem fits_run {subject : List α} {after : List (Piece α)} :
    fits (.run :: after) subject = true ↔
      ∃ before rest, subject = before ++ rest ∧ fits after rest = true := by
  simp only [fits, List.any_eq_true, List.mem_tails]
  constructor
  · intro ⟨rest, ⟨before, split⟩, fit⟩
    exact ⟨before, rest, split.symm, fit⟩
  · intro ⟨before, rest, split, fit⟩
    exact ⟨rest, ⟨before, split.symm⟩, fit⟩

theorem fits_any_run (subject : List α) : fits [.run] subject = true := by
  apply fits_run.2
  exact ⟨subject, [], (List.append_nil _).symm, rfl⟩

/-- The pattern of a search matches the texts that contain it. -/
theorem like_contains {text subject : List α} :
    like marks subject (marks.run :: (escaped marks text ++ [marks.run])) = true ↔
      text <:+: subject := by
  have denoted : pieces marks (marks.run :: (escaped marks text ++ [marks.run])) =
      some (.run :: (text.map .exactly ++ [.run])) := by
    have last : pieces marks [marks.run] = some [.run] := by
      simp [pieces, marks.apart]
    unfold pieces
    rw [if_neg marks.apart, if_pos rfl, pieces_escaped, last]
    rfl
  unfold like
  rw [denoted, Option.any_some, fits_run]
  constructor
  · intro ⟨before, rest, split, fit⟩
    obtain ⟨after, tail, -⟩ := fits_exactly.1 fit
    exact ⟨before, after, by rw [split, tail, List.append_assoc]⟩
  · intro ⟨before, after, split⟩
    have fit : fits (text.map .exactly ++ [.run]) (text ++ after) = true :=
      fits_exactly.2 ⟨after, rfl, fits_any_run after⟩
    exact ⟨before, text ++ after, by rw [← split, List.append_assoc], fit⟩

end OAuth2Server.LikePatterns
