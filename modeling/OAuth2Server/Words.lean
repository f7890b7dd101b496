import OAuth2Server.Text

/-!
# Words of a text

`text.split()` and `" ".join(words)`. Splitting undoes joining for every list of
words that splitting could have made, so a list of scopes or prompts survives
being written out and read again.
-/

namespace OAuth2Server.Words

open OAuth2Server Text

set_option autoImplicit false

section Runs

variable {separator : Char → Bool}

/-- A run of characters outside the separators. -/
def IsRun (separator : Char → Bool) (run : List Char) : Prop :=
  run ≠ [] ∧ ∀ char ∈ run, separator char = false

theorem split_runs_append (current run rest : List Char)
    (clean : ∀ char ∈ run, separator char = false) :
    splitRuns separator current (run ++ rest) = splitRuns separator (run.reverse ++ current) rest := by
  induction run generalizing current with
  | nil => rfl
  | cons char later induction =>
      have kept : separator char = false := clean char List.mem_cons_self
      rw [List.cons_append, splitRuns, if_neg (by simp [kept]),
        induction _ fun other member => clean other (List.mem_cons_of_mem _ member)]
      simp

/-- Splitting undoes joining with a separator. -/
theorem split_runs_intercalate {delimiter : Char} (separates : separator delimiter = true)
    (runs : List (List Char)) (each : ∀ run ∈ runs, IsRun separator run) :
    splitRuns separator [] (List.intercalate [delimiter] runs) = runs := by
  induction runs with
  | nil => rfl
  | cons run later induction =>
      obtain ⟨nonempty, clean⟩ := each run List.mem_cons_self
      have rest := induction fun other member => each other (List.mem_cons_of_mem _ member)
      have filled : ¬(run.reverse ++ []).isEmpty = true := by simpa using nonempty
      cases later with
      | nil =>
          have single : List.intercalate [delimiter] [run] = run ++ [] := by
            simp [List.intercalate]
          rw [single, split_runs_append [] run [] clean, splitRuns, if_neg filled]
          simp
      | cons next others =>
          have joined : List.intercalate [delimiter] (run :: next :: others) =
              run ++ delimiter :: List.intercalate [delimiter] (next :: others) := by
            simp [List.intercalate, List.intersperse]
          rw [joined, split_runs_append [] run _ clean, splitRuns, if_pos separates,
            if_neg filled, rest]
          simp

/-- What splitting makes are runs. -/
theorem split_runs_are_runs (current text : List Char)
    (clean : ∀ char ∈ current, separator char = false) :
    ∀ run ∈ splitRuns separator current text, IsRun separator run := by
  have finished : ∀ {held : List Char}, held.isEmpty ≠ true →
      (∀ char ∈ held, separator char = false) → IsRun separator held.reverse := by
    intro held nonempty cleanHeld
    constructor
    · simpa using nonempty
    · intro char member
      exact cleanHeld char (List.mem_reverse.1 member)
  induction text generalizing current with
  | nil =>
      intro run member
      rw [splitRuns] at member
      split at member
      · cases member
      · rename_i nonempty
        rw [List.mem_singleton.1 member]
        exact finished nonempty clean
  | cons char rest induction =>
      intro run member
      rw [splitRuns] at member
      split at member
      · have later := induction [] fun other absent => by cases absent
        split at member
        · exact later run member
        · rename_i nonempty
          cases List.mem_cons.1 member with
          | inl same =>
              rw [same]
              exact finished nonempty clean
          | inr tail => exact later run tail
      · rename_i kept
        apply induction (char :: current) _ run member
        intro other present
        cases List.mem_cons.1 present with
        | inl same =>
            rw [same]
            simpa using kept
        | inr held => exact clean other held

end Runs

/-- A word that `split` may return. -/
def IsWord (word : String) : Prop := IsRun isSpace word.toList

theorem split_words (text : String) : ∀ word ∈ split text, IsWord word := by
  intro word member
  obtain ⟨run, listed, rfl⟩ := List.mem_map.1 member
  have runs : IsRun isSpace run :=
    split_runs_are_runs [] text.toList (fun char absent => by cases absent) run listed
  unfold IsWord
  rw [String.toList_ofList]
  exact runs

/-- `" ".join(words).split() == words`. -/
theorem split_join (words : List String) (each : ∀ word ∈ words, IsWord word) :
    split (" ".intercalate words) = words := by
  unfold split
  rw [String.toList_intercalate]
  have runs : splitRuns isSpace [] (List.intercalate [' '] (words.map String.toList)) =
      words.map String.toList := by
    apply split_runs_intercalate (by decide)
    intro run member
    obtain ⟨word, listed, rfl⟩ := List.mem_map.1 member
    exact each word listed
  show (splitRuns isSpace [] (List.intercalate [' '] (words.map String.toList))).map
    String.ofList = words
  rw [runs, List.map_map]
  have identity : String.ofList ∘ String.toList = id := funext fun _ => String.ofList_toList
  rw [identity, List.map_id]

/-- The words that are kept are read back. -/
theorem split_join_filter (text : String) (keep : String → Bool) :
    split (" ".intercalate ((split text).filter keep)) = (split text).filter keep := by
  apply split_join
  intro word member
  exact split_words text word (List.mem_of_mem_filter member)

end OAuth2Server.Words
