import Mathlib.Data.List.Nodup
import Mathlib.Data.List.Perm.Subperm
import Mathlib.Order.Bounds.Defs

/-! Numbers handed out lowest first. Of the positive numbers up to one more
than the number of holders one is free, so the search for the least free
number ends there. -/

namespace Slots

/-- The least positive number not held. A holder may have none yet. -/
def leastFree (held : List (Option Nat)) : Option Nat :=
  (List.range' 1 (held.length + 1)).find? fun n => !decide (some n ∈ held)

/-- The numbers that may be handed out. -/
def free (held : List (Option Nat)) : Set Nat := {n | 0 < n ∧ some n ∉ held}

/-- More numbers than holders: some number is free. -/
theorem exists_free (held : List (Option Nat)) :
    ∃ n ∈ List.range' 1 (held.length + 1), some n ∉ held := by
  by_contra hnone
  have hsub : (List.range' 1 (held.length + 1)).map some ⊆ held := by
    intro x hx
    obtain ⟨n, hn, rfl⟩ := List.mem_map.mp hx
    by_contra hfree
    exact hnone ⟨n, hn, hfree⟩
  have hnodup : ((List.range' 1 (held.length + 1)).map some).Nodup :=
    List.Nodup.map (fun _ _ => Option.some.inj) List.nodup_range'
  have hlength := (hnodup.subperm hsub).length_le
  rw [List.length_map, List.length_range'] at hlength
  omega

/-- **The search finds the least free number**, at most one more than there
are holders. -/
theorem leastFree_spec (held : List (Option Nat)) :
    ∃ n, leastFree held = some n ∧ IsLeast (free held) n ∧ n ≤ held.length + 1 := by
  obtain ⟨m, hm, hfree⟩ := exists_free held
  have hsome : (leastFree held).isSome := by
    rw [leastFree, List.find?_isSome]
    exact ⟨m, hm, by simpa using hfree⟩
  obtain ⟨n, hn⟩ := Option.isSome_iff_exists.mp hsome
  obtain ⟨hnfree, hmem, hleast⟩ := List.find?_range'_eq_some.mp hn
  rw [List.mem_range'_1] at hmem
  refine ⟨n, hn, ⟨⟨hmem.1, by simpa using hnfree⟩, ?_⟩, by omega⟩
  rintro k ⟨hk, hkfree⟩
  by_contra hlt
  have hheld : some k ∈ held := by simpa using hleast k hk (by omega)
  exact hkfree hheld

end Slots
