import Locoomo.Lib.Table

/-! A service outside the system, seen through its calls. It opens an entry
under a reference of the caller's and a name of its own, answers a repeated
call with the entry that is open, and closes entries when asked to or by
itself. A name is used once. -/

namespace External

open Relational

structure Entry (ν ρ : Type) where
  name : ν
  ref : ρ
  deriving DecidableEq, Repr

structure Service (ν ρ : Type) where
  live : List (Entry ν ρ)
  closed : List ν
  deriving DecidableEq, Repr

variable {ν ρ : Type}

def empty : Service ν ρ := ⟨[], []⟩

/-- One live entry for a reference, and no live entry under a closed name. -/
structure Tidy (s : Service ν ρ) : Prop where
  refs : Distinct Entry.ref s.live
  names : ∀ x ∈ s.live, x.name ∉ s.closed

theorem tidy_empty : Tidy (empty : Service ν ρ) := ⟨List.nodup_nil, by simp [empty]⟩

/-! ## Closing -/

variable [DecidableEq ν]

def close (s : Service ν ρ) (name : ν) : Service ν ρ :=
  ⟨s.live.filter fun x => x.name ≠ name, s.closed.insert name⟩

@[simp] theorem mem_live_close {s : Service ν ρ} {name : ν} {x : Entry ν ρ} :
    x ∈ (close s name).live ↔ x ∈ s.live ∧ x.name ≠ name := by
  simp [close]

@[simp] theorem mem_closed_close {s : Service ν ρ} {name other : ν} :
    other ∈ (close s name).closed ↔ other = name ∨ other ∈ s.closed := by
  simp [close]

theorem Tidy.close {s : Service ν ρ} (h : Tidy s) (name : ν) : Tidy (External.close s name) := by
  refine ⟨h.refs.filter _, fun x hx hmem => ?_⟩
  obtain ⟨hlive, hne⟩ := mem_live_close.mp hx
  rcases mem_closed_close.mp hmem with hmem | hmem
  · exact hne hmem
  · exact h.names x hlive hmem

/-- **To close again** changes nothing. -/
theorem close_close (s : Service ν ρ) (name : ν) : close (close s name) name = close s name := by
  simp [close, List.filter_filter]

/-! ## Opening -/

/-- No entry has or had this name. -/
def isFresh (s : Service ν ρ) (name : ν) : Bool :=
  decide (name ∉ s.closed) && s.live.all fun x => decide (x.name ≠ name)

variable [DecidableEq ρ]

/-- A call to open an entry: the name it is answered with, and the service
after it; nothing when the name on offer has been used. -/
def opened (s : Service ν ρ) (name : ν) (ref : ρ) : Option (ν × Service ν ρ) :=
  match get Entry.ref ref s.live with
  | some x => some (x.name, s)
  | none => if isFresh s name then some (name, ⟨s.live ++ [⟨name, ref⟩], s.closed⟩) else none

variable {s s' : Service ν ρ} {name answer : ν} {ref : ρ}

/-- What an answered call leaves: the service as it was, or one entry more. -/
theorem opened_some (h : opened s name ref = some (answer, s')) :
    s' = s ∨ (∀ x ∈ s.live, x.ref ≠ ref) ∧ isFresh s name = true ∧
      s' = ⟨s.live ++ [⟨name, ref⟩], s.closed⟩ := by
  unfold opened at h
  cases hget : get Entry.ref ref s.live with
  | some x =>
      rw [hget] at h
      cases h
      exact Or.inl rfl
  | none =>
      simp only [hget] at h
      split at h
      · next hfresh =>
          cases h
          exact Or.inr ⟨get_eq_none.mp hget, hfresh, rfl⟩
      · cases h

theorem Tidy.opened (h : Tidy s) (ho : External.opened s name ref = some (answer, s')) :
    Tidy s' := by
  rcases opened_some ho with rfl | ⟨hnone, hfresh, rfl⟩
  · exact h
  · refine ⟨h.refs.append_singleton hnone, fun x hx => ?_⟩
    rcases List.mem_append.mp hx with hx | hx
    · exact h.names x hx
    · obtain rfl := List.mem_singleton.mp hx
      simp only [isFresh, Bool.and_eq_true, decide_eq_true_eq] at hfresh
      exact hfresh.1

theorem live_opened (h : opened s name ref = some (answer, s')) {x : Entry ν ρ}
    (hx : x ∈ s'.live) : x ∈ s.live ∨ x = ⟨name, ref⟩ := by
  rcases opened_some h with rfl | ⟨-, -, rfl⟩
  · exact Or.inl hx
  · exact (List.mem_append.mp hx).imp_right List.mem_singleton.mp

theorem closed_opened (h : opened s name ref = some (answer, s')) : s'.closed = s.closed := by
  rcases opened_some h with rfl | ⟨-, -, rfl⟩
  · rfl
  · rfl

/-! ## What is open -/

theorem get_opened (h : opened s name ref = some (answer, s')) :
    ∃ x, get Entry.ref ref s'.live = some x ∧ x.name = answer := by
  unfold opened at h
  cases hget : get Entry.ref ref s.live with
  | some x =>
      rw [hget] at h
      cases h
      exact ⟨x, hget, rfl⟩
  | none =>
      simp only [hget] at h
      split at h
      · cases h
        refine ⟨⟨name, ref⟩, ?_, rfl⟩
        rw [Relational.get, List.find?_append, ← Relational.get, hget]
        simp
      · cases h

theorem live_of_opened (h : opened s name ref = some (answer, s')) : ⟨answer, ref⟩ ∈ s'.live := by
  obtain ⟨x, hx, rfl⟩ := get_opened h
  obtain ⟨hmem, rfl⟩ := get_some hx
  exact hmem

end External
