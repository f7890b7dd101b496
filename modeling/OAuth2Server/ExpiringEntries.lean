import Mathlib.Order.Lattice
import Mathlib.Data.List.Basic

/-!
# Entries that expire

A list of keys with the time each is kept until. Every access sweeps the entries
whose time has come; an entry that covers a key up to a time is found by every
sweep before that time.
-/

namespace OAuth2Server.ExpiringEntries

set_option autoImplicit false

variable {κ τ : Type} [LinearOrder τ]

/-- The entries that have not expired. -/
def sweep (now : τ) (entries : List (κ × τ)) : List (κ × τ) :=
  entries.filter fun entry => decide (now < entry.2)

/-- The key is kept at least until `limit`. -/
def Covers (entries : List (κ × τ)) (key : κ) (limit : τ) : Prop :=
  ∃ entry ∈ entries, entry.1 = key ∧ limit ≤ entry.2

variable {entries : List (κ × τ)} {key : κ} {limit now : τ}

theorem mem_sweep {entry : κ × τ} :
    entry ∈ sweep now entries ↔ entry ∈ entries ∧ now < entry.2 := by
  simp [sweep]

theorem Covers.sweep (covers : Covers entries key limit) (early : now < limit) :
    Covers (sweep now entries) key limit := by
  obtain ⟨entry, member, same, kept⟩ := covers
  exact ⟨entry, mem_sweep.2 ⟨member, lt_of_lt_of_le early kept⟩, same, kept⟩

theorem Covers.append (covers : Covers entries key limit) (more : List (κ × τ)) :
    Covers (entries ++ more) key limit := by
  obtain ⟨entry, member, kept⟩ := covers
  exact ⟨entry, List.mem_append_left _ member, kept⟩

theorem covers_appended (entries : List (κ × τ)) {kept : τ} (enough : limit ≤ kept) :
    Covers (entries ++ [(key, kept)]) key limit :=
  ⟨(key, kept), List.mem_append_right _ (List.mem_singleton.2 rfl), rfl, enough⟩

theorem Covers.any [DecidableEq κ] (covers : Covers entries key limit) :
    entries.any (fun entry => entry.1 == key) = true := by
  obtain ⟨entry, member, same, _⟩ := covers
  exact List.any_eq_true.2 ⟨entry, member, by simp [same]⟩

end OAuth2Server.ExpiringEntries
