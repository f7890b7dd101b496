import OAuth2Server.KeyedCells
import OAuth2Server.Process
import OAuth2Server.Records

/-!
# Dictionaries that sweep

The limiters and the poll tracker keep a dictionary, and an access to one key
first deletes whatever has lapsed under any key. Such a dictionary realizes its
service: the sweep bounds the memory and changes no answer.
-/

namespace OAuth2Server.Dictionaries

open OAuth2Server Process KeyedCells

set_option autoImplicit false

variable {α : Type}

/-! ### One entry a key -/

def Distinct (dict : Dict α) : Prop := (dict.map Prod.fst).Nodup

theorem distinct_nil : Distinct ([] : Dict α) := List.nodup_nil

theorem lookup_set (key other : String) (value : α) (dict : Dict α) :
    (Dict.set key value dict).lookup other =
      if other = key then some value else dict.lookup other := by
  induction dict with
  | nil =>
      by_cases same : other = key
      · simp [Dict.set, same]
      · have different : (other == key) = false := by simpa using same
        simp [Dict.set, List.lookup_cons, same, different]
  | cons entry rest induction =>
      obtain ⟨stored, cell⟩ := entry
      by_cases here : stored = key
      · subst here
        by_cases same : other = stored
        · simp [Dict.set, same]
        · have different : (other == stored) = false := by simpa using same
          simp [Dict.set, List.lookup_cons, different, same]
      · have stays : (stored == key) = false := by simpa using here
        simp only [Dict.set, stays, Bool.false_eq_true, if_false, List.lookup_cons]
        by_cases same : other = stored
        · subst same
          simp [here]
        · have different : (other == stored) = false := by simpa using same
          simp [different, induction]

theorem keys_set (key : String) (value : α) (dict : Dict α) :
    (Dict.set key value dict).map Prod.fst =
      if key ∈ dict.map Prod.fst then dict.map Prod.fst else dict.map Prod.fst ++ [key] := by
  induction dict with
  | nil => rfl
  | cons entry rest induction =>
      by_cases here : entry.1 = key
      · simp [Dict.set, here]
      · have stays : (entry.1 == key) = false := by simpa using here
        have swapped : ¬ key = entry.1 := fun same => here same.symm
        simp only [Dict.set, stays, Bool.false_eq_true, if_false, List.map_cons, induction,
          List.mem_cons, swapped, false_or]
        split <;> rfl

theorem Distinct.set {dict : Dict α} (distinct : Distinct dict) (key : String) (value : α) :
    Distinct (Dict.set key value dict) := by
  unfold Distinct
  rw [keys_set]
  split
  · exact distinct
  · rename_i absent
    rw [List.nodup_append]
    refine ⟨distinct, List.nodup_singleton key, ?_⟩
    intro stored member other single same
    rw [List.mem_singleton] at single
    exact absent (single ▸ same ▸ member)

theorem Distinct.filter {dict : Dict α} (distinct : Distinct dict) (keep : String × α → Bool) :
    Distinct (dict.filter keep) :=
  distinct.sublist (List.filter_sublist.map Prod.fst)

theorem Distinct.lookup_filter {dict : Dict α} (distinct : Distinct dict) (keep : α → Bool)
    (key : String) :
    (dict.filter fun entry => keep entry.2).lookup key = (dict.lookup key).filter keep :=
  Records.lookup_filter (fun entry => keep entry.2) distinct

theorem lookup_erase (key other : String) (dict : Dict α) :
    List.lookup other (dict.filter (·.1 != key)) =
      if other = key then none else dict.lookup other := by
  induction dict with
  | nil => simp
  | cons entry rest induction =>
      obtain ⟨stored, cell⟩ := entry
      by_cases erased : stored = key
      · subst erased
        rw [List.filter_cons_of_neg (by simp), induction, List.lookup_cons]
        by_cases same : other = stored
        · simp [same]
        · have different : (other == stored) = false := by simpa using same
          simp [different]
      · rw [List.filter_cons_of_pos (by simpa using erased), List.lookup_cons, List.lookup_cons,
          induction]
        by_cases same : other = stored
        · subst same
          simp [erased]
        · have different : (other == stored) = false := by simpa using same
          simp [different]

/-! ### Accounting for entries -/

/-- An entry that is set is one entry more at most. -/
theorem subperm_set (key : String) (value : α) (dict : Dict α) :
    (Dict.set key value dict).Subperm ((key, value) :: dict) := by
  induction dict with
  | nil => exact List.Subperm.refl _
  | cons entry rest induction =>
      unfold Dict.set
      split
      · exact ((List.sublist_cons_self entry rest).cons_cons _).subperm
      · have grown := (List.subperm_cons entry).2 induction
        exact grown.trans (List.Perm.swap _ _ _).subperm

/-- An entry that is taken leaves the rest. -/
theorem subperm_taken {key : String} {value : α} {dict : Dict α}
    (found : dict.lookup key = some value) :
    ((key, value) :: dict.filter (·.1 != key)).Subperm dict := by
  induction dict with
  | nil => cases found
  | cons entry rest induction =>
      obtain ⟨stored, cell⟩ := entry
      rw [List.lookup_cons] at found
      by_cases here : key = stored
      · subst here
        have same : cell = value := by simpa using found
        subst same
        rw [List.filter_cons_of_neg (by simp)]
        exact (List.filter_sublist.cons_cons _).subperm
      · have differs : (key == stored) = false := by simpa using here
        have later : rest.lookup key = some value := by simpa [differs] using found
        rw [List.filter_cons_of_pos (by simpa using fun same => here same.symm)]
        exact (List.Perm.swap _ _ _).subperm.trans ((List.subperm_cons _).2 (induction later))

/-! ### Sweeping -/

variable {E ο : Type} (service : Service String α ℚ E ο)

/-- The lapsed entries go first, then the event's own entry is accessed. -/
def sweptStep (dict : Dict α) (event : E) : ο × Dict α :=
  let live := dict.filter fun entry => service.live (service.now event) entry.2
  let found := service.access event (live.lookup (service.key event))
  (found.1, match found.2 with
    | some cell => Dict.set (service.key event) cell live
    | none => live.filter (·.1 != service.key event))

theorem swept_distinct {dict : Dict α} (distinct : Distinct dict) (event : E) :
    Distinct (sweptStep service dict event).2 := by
  unfold sweptStep
  dsimp only
  split
  · exact (distinct.filter _).set _ _
  · exact (distinct.filter _).filter _

theorem swept_steps {dict : Dict α} (distinct : Distinct dict) (event : E) :
    Steps service event (dict.lookup ·) ((sweptStep service dict event).2.lookup ·)
      (sweptStep service dict event).1 := by
  have found := distinct.lookup_filter (service.live (service.now event)) (service.key event)
  constructor
  · simp only [sweptStep, Service.cellStep, found]
  · simp only [sweptStep, Service.cellStep, found]
    cases stored : (service.access event
        ((dict.lookup (service.key event)).filter (service.live (service.now event)))).2 with
    | some cell =>
        dsimp only
        rw [lookup_set, if_pos rfl]
        exact Alike.refl _
    | none =>
        dsimp only
        rw [lookup_erase, if_pos rfl]
        exact Alike.refl _
  · intro key different
    have others := distinct.lookup_filter (service.live (service.now event)) key
    simp only [sweptStep]
    split
    · rw [lookup_set, if_neg different, others]
      exact alike_filter service _ _
    · rw [lookup_erase, if_neg different, others]
      exact alike_filter service _ _

/-- Popping a key takes no sweep. -/
theorem popped_steps (dict : Dict α) (event : E) (answer : ο)
    (dropped : ∀ found, service.access event found = (answer, none)) :
    Steps service event (dict.lookup ·)
      (List.lookup · (dict.filter (·.1 != service.key event))) answer := by
  constructor
  · simp only [Service.cellStep, dropped]
  · simp only [Service.cellStep, dropped, lookup_erase, if_true]
    exact Alike.refl _
  · intro key different
    simp only [lookup_erase, if_neg different]
    exact Alike.refl _

end OAuth2Server.Dictionaries
