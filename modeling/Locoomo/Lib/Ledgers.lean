import Locoomo.Lib.Table

/-! Rows with a ledger beside a counter column. The ledger of a row is what its
counter has to hold by the movements booked so far; an update that moves the
counter by something else puts the two out of balance. -/

namespace Ledgers

open Relational

variable {ρ : Type}

/-- A row, and the balance its counter should have. -/
structure Counted (ρ : Type) where
  row : ρ
  ledger : Int
  deriving DecidableEq

def rows (t : List (Counted ρ)) : List ρ := t.map Counted.row

/-- Every ledger starts at what the counter holds. -/
def opened (count : ρ → Int) (t : List ρ) : List (Counted ρ) := t.map fun r => ⟨r, count r⟩

/-- `UPDATE t SET f WHERE p`, booked as a movement of `d` on each row it matches. -/
def post (p : ρ → Bool) (f : ρ → ρ) (d : Int) (t : List (Counted ρ)) : List (Counted ρ) :=
  update (fun x => p x.row) (fun x => ⟨f x.row, x.ledger + d⟩) t

/-- Every counter holds what its ledger says. -/
def Balanced (count : ρ → Int) (t : List (Counted ρ)) : Prop := ∀ x ∈ t, count x.row = x.ledger

instance (count : ρ → Int) (t : List (Counted ρ)) : Decidable (Balanced count t) :=
  inferInstanceAs (Decidable (∀ x ∈ t, _))

variable {count : ρ → Int} {p : ρ → Bool} {f : ρ → ρ} {d : Int} {t : List (Counted ρ)}

theorem mem_rows {r : ρ} : r ∈ rows t ↔ ∃ x ∈ t, x.row = r := List.mem_map

theorem balanced_opened (count : ρ → Int) (t : List ρ) : Balanced count (opened count t) := by
  intro x hx
  obtain ⟨r, -, rfl⟩ := List.mem_map.mp hx
  rfl

theorem rows_post : rows (post p f d t) = update p f (rows t) := by
  simp only [rows, post, update, List.map_map]
  refine List.map_congr_left fun x _ => ?_
  by_cases hp : p x.row = true
  · simp [hp]
  · simp [hp]

/-- **What an update may do**: balanced before, it is so afterwards just when it
moves each counter by what is booked. -/
theorem balanced_post (h : Balanced count t) :
    Balanced count (post p f d t) ↔ ∀ r ∈ rows t, p r = true → count (f r) = count r + d := by
  constructor
  · intro hpost r hr hp
    obtain ⟨x, hx, rfl⟩ := mem_rows.mp hr
    have hx' : count (f x.row) = x.ledger + d := hpost _ (mem_update_of_pos hx hp)
    rw [hx', h x hx]
  · intro hmove y hy
    obtain ⟨x, hx, rfl⟩ := mem_update.mp hy
    by_cases hp : p x.row = true
    · simp only [hp, if_true]
      rw [hmove x.row (mem_rows.mpr ⟨x, hx, rfl⟩) hp, h x hx]
    · simp only [hp]
      exact h x hx

end Ledgers
