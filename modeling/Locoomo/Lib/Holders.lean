import Mathlib.Data.List.Nodup
import Mathlib.Data.List.Pairwise

/-! Parties side by side, each with its own items in hand. When one party
moves, what the others hold is what stays. -/

namespace Holders

variable {π α : Type}

/-- Everything the parties have in hand. -/
def held (hands : π → List α) (parties : List π) : List α := parties.flatMap hands

theorem mem_held {hands : π → List α} {parties : List π} {x : α} :
    x ∈ held hands parties ↔ ∃ p ∈ parties, x ∈ hands p := List.mem_flatMap

/-- **One party moves**: the rest is the same before and after. -/
theorem held_set (hands : π → List α) {parties : List π} {i : Nat} {p : π}
    (h : parties[i]? = some p) :
    ∃ rest, (held hands parties).Perm (hands p ++ rest) ∧
      ∀ q, (held hands (parties.set i q)).Perm (hands q ++ rest) := by
  induction parties generalizing i with
  | nil => simp at h
  | cons x parties ih =>
      cases i with
      | zero =>
          have hx : x = p := by simpa using h
          subst hx
          exact ⟨held hands parties, .refl _, fun q => .refl _⟩
      | succ i =>
          obtain ⟨rest, hbefore, hafter⟩ := ih (by simpa using h)
          have hswap : ∀ (l : List α) (q : π), l.Perm (hands q ++ rest) →
              (hands x ++ l).Perm (hands q ++ (hands x ++ rest)) := by
            intro l q hl
            calc (hands x ++ l).Perm (hands x ++ (hands q ++ rest)) := hl.append_left _
              _ = (hands x ++ hands q) ++ rest := by rw [List.append_assoc]
              List.Perm _ ((hands q ++ hands x) ++ rest) := List.perm_append_comm.append_right _
              _ = hands q ++ (hands x ++ rest) := by rw [List.append_assoc]
          exact ⟨hands x ++ rest, hswap _ p hbefore, fun q => hswap _ q (hafter q)⟩

/-- A party that moves with the same items leaves everything held as it was. -/
theorem held_set_same {hands : π → List α} {parties : List π} {i : Nat} {p q : π}
    (h : parties[i]? = some p) (hq : hands q = hands p) :
    (held hands (parties.set i q)).Perm (held hands parties) := by
  obtain ⟨rest, hbefore, hafter⟩ := held_set hands h
  have hq' : (held hands (parties.set i q)).Perm (hands p ++ rest) := hq ▸ hafter q
  exact hq'.trans hbefore.symm

/-- Nothing held twice: no two parties share an item. -/
theorem pairwise_of_nodup {hands : π → List α} {parties : List π}
    (h : (held hands parties).Nodup) :
    parties.Pairwise fun p q => List.Disjoint (hands p) (hands q) :=
  (List.nodup_flatMap.mp h).2

theorem disjoint_of_nodup {hands : π → List α} {parties : List π}
    (h : (held hands parties).Nodup) {p q : π} (hp : p ∈ parties) (hq : q ∈ parties)
    (hpq : p ≠ q) : List.Disjoint (hands p) (hands q) := by
  have : Std.Symm fun p q : π => List.Disjoint (hands p) (hands q) :=
    ⟨fun _ _ h _ hp hq => h hq hp⟩
  exact (pairwise_of_nodup h).forall hp hq hpq

theorem mem_set {parties : List π} {i : Nat} {p q : π} (h : q ∈ parties.set i p) :
    q = p ∨ q ∈ parties := by
  rcases List.mem_or_eq_of_mem_set h with hmem | heq
  · exact Or.inr hmem
  · exact Or.inl heq

theorem self_mem_set {parties : List π} {i : Nat} {p : π} (h : parties[i]? = some p) (q : π) :
    q ∈ parties.set i q := by
  obtain ⟨hi, -⟩ := List.getElem?_eq_some_iff.mp h
  exact List.mem_set hi q

/-- Whoever is not the one that moves is there afterwards. -/
theorem mem_set_of_mem {parties : List π} {i : Nat} {p q : π} (h : parties[i]? = some p)
    (hq : q ∈ parties) (p' : π) : q = p ∨ q ∈ parties.set i p' := by
  obtain ⟨j, hj⟩ := List.mem_iff_getElem?.mp hq
  by_cases hij : i = j
  · subst hij
    rw [h] at hj
    exact Or.inl (Option.some.inj hj).symm
  · refine Or.inr (List.mem_iff_getElem?.mpr ⟨j, ?_⟩)
    rw [List.getElem?_set_ne hij, hj]

end Holders
