import Mathlib.Data.List.Nodup
import Mathlib.Data.List.Sort

/-! A log of rows read back by time. Rows are appended one after another and
get ids nobody chooses; a reader sorts them by their stamps and, where those
are equal, by id. The log comes back as it was written, whatever the ids, just
when the stamps strictly increase. -/

namespace Logs

variable {ρ : Type}

/-- A row with the id it was given. -/
structure Stored (ρ : Type) where
  id : Nat
  row : ρ
  deriving DecidableEq

/-- The rows that satisfy `p`, in the order they were appended; `uuid i` is the
id of the `i`-th row of the log. -/
def appended (uuid : Nat → Nat) (p : ρ → Bool) (log : List ρ) : List (Stored ρ) :=
  (log.zipIdx.map fun x => ⟨uuid x.2, x.1⟩).filter fun x => p x.row

/-- `ORDER BY stamp ASC, id ASC`. -/
def Earlier (stamp : ρ → Nat) (a b : Stored ρ) : Prop :=
  stamp a.row < stamp b.row ∨ stamp a.row = stamp b.row ∧ a.id ≤ b.id

instance (stamp : ρ → Nat) : DecidableRel (Earlier stamp) :=
  fun _ _ => inferInstanceAs (Decidable (_ ∨ _))

instance (stamp : ρ → Nat) : Std.Total (Earlier stamp) :=
  ⟨fun a b => by unfold Earlier; omega⟩

instance (stamp : ρ → Nat) : IsTrans (Stored ρ) (Earlier stamp) :=
  ⟨fun a b c => by unfold Earlier; omega⟩

def readBack (stamp : ρ → Nat) (uuid : Nat → Nat) (p : ρ → Bool) (log : List ρ) :
    List (Stored ρ) :=
  (appended uuid p log).insertionSort (Earlier stamp)

theorem appended_rows (uuid : Nat → Nat) (p : ρ → Bool) (log : List ρ) :
    (appended uuid p log).map Stored.row = log.filter p := by
  have hrows : (log.zipIdx.map fun x => (⟨uuid x.2, x.1⟩ : Stored ρ)).map Stored.row = log := by
    rw [List.map_map]
    exact List.zipIdx_map_fst 0 log
  calc (appended uuid p log).map Stored.row
      = ((log.zipIdx.map fun x => (⟨uuid x.2, x.1⟩ : Stored ρ)).map Stored.row).filter p := by
        rw [List.filter_map]
        rfl
    _ = log.filter p := by rw [hrows]

/-- Ids that count down give the later row the smaller id. -/
theorem appended_descending {uuid : Nat → Nat} {log : List ρ}
    (huuid : ∀ i j, i < j → j < log.length → uuid j < uuid i) (p : ρ → Bool) :
    (appended uuid p log).Pairwise fun a b => b.id < a.id := by
  refine List.Pairwise.filter _ ?_
  rw [List.pairwise_map, List.pairwise_iff_getElem]
  intro i j hi hj hij
  simp only [List.getElem_zipIdx, Nat.zero_add]
  rw [List.length_zipIdx] at hj
  exact huuid i j hij hj

/-- The ids `n - 1, …, 0` for the first `n` rows. -/
def countdown (n i : Nat) : Nat := if i < n then n - 1 - i else i

theorem countdown_injective (n : Nat) : Function.Injective (countdown n) := by
  intro i j h
  unfold countdown at h
  split at h <;> split at h <;> omega

/-- **Read back in order.** The log comes back as it was written for every
choice of ids if and only if its stamps strictly increase. -/
theorem readBack_iff {stamp : ρ → Nat} {p : ρ → Bool} {log : List ρ} :
    (∀ uuid, Function.Injective uuid → readBack stamp uuid p log = appended uuid p log) ↔
      (log.filter p).Pairwise fun a b => stamp a < stamp b := by
  constructor
  · intro h
    have hsorted : (appended (countdown log.length) p log).Pairwise (Earlier stamp) := by
      rw [← h _ (countdown_injective log.length)]
      exact List.pairwise_insertionSort _ _
    have hcount : ∀ i j, i < j → j < log.length →
        countdown log.length j < countdown log.length i := by
      intro i j hij hj
      unfold countdown
      split <;> split <;> omega
    have hdown := appended_descending hcount p
    rw [← appended_rows (countdown log.length), List.pairwise_map]
    refine (hsorted.and hdown).imp fun hab => ?_
    rcases hab.1 with hlt | ⟨-, hle⟩
    · exact hlt
    · exact absurd hab.2 (Nat.not_lt.mpr hle)
  · intro h uuid _
    rw [← appended_rows uuid, List.pairwise_map] at h
    exact (h.imp fun hab => Or.inl hab).insertionSort_eq

end Logs
