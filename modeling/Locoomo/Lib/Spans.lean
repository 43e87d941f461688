import Mathlib.Data.List.Basic
import Mathlib.Order.Lattice

/-! Half-open spans of a linear order, one after the other. No point lies in two
of them. -/

namespace Spans

variable {α : Type} [LinearOrder α]

structure Span (α : Type) where
  lo : α
  hi : α

/-- `lo ≤ x < hi`. -/
def Span.Contains (s : Span α) (x : α) : Prop := s.lo ≤ x ∧ x < s.hi

/-- Non-empty spans, each from the end of the one before on; the first from `start` on. -/
def After : α → List (Span α) → Prop
  | _, [] => True
  | start, s :: l => start ≤ s.lo ∧ s.lo < s.hi ∧ After s.hi l

variable {start x : α} {s : Span α} {l : List (Span α)}

theorem After.nonempty (h : After start l) : ∀ s ∈ l, s.lo < s.hi := by
  induction l generalizing start with
  | nil => simp
  | cons t l ih =>
      obtain ⟨-, ht, hl⟩ := h
      intro s hs
      rcases List.mem_cons.mp hs with rfl | hs
      · exact ht
      · exact ih hl s hs

theorem After.le (h : After start l) : ∀ s ∈ l, start ≤ s.lo := by
  induction l generalizing start with
  | nil => simp
  | cons t l ih =>
      obtain ⟨hstart, ht, hl⟩ := h
      intro s hs
      rcases List.mem_cons.mp hs with rfl | hs
      · exact hstart
      · exact (hstart.trans ht.le).trans (ih hl s hs)

/-- **In order and disjoint.** -/
theorem After.pairwise (h : After start l) : l.Pairwise fun s t => s.hi ≤ t.lo := by
  induction l generalizing start with
  | nil => exact List.Pairwise.nil
  | cons t l ih => exact List.pairwise_cons.mpr ⟨h.2.2.le, ih h.2.2⟩

/-- Of two places in the list the earlier span has ended when the later one begins. -/
theorem After.hi_le_lo (h : After start l) {i j : Nat} (hij : i < j) {t : Span α}
    (hi : l[i]? = some s) (hj : l[j]? = some t) : s.hi ≤ t.lo := by
  obtain ⟨hi', rfl⟩ := List.getElem?_eq_some_iff.mp hi
  obtain ⟨hj', rfl⟩ := List.getElem?_eq_some_iff.mp hj
  exact List.pairwise_iff_getElem.mp h.pairwise i j hi' hj' hij

/-- **No point lies in two spans.** -/
theorem After.place_unique (h : After start l) {i j : Nat} {t : Span α} (hi : l[i]? = some s)
    (hj : l[j]? = some t) (hs : s.Contains x) (ht : t.Contains x) : i = j := by
  rcases Nat.lt_trichotomy i j with hlt | heq | hgt
  · have hle := h.hi_le_lo hlt hi hj
    exact absurd (hs.2.trans_le (hle.trans ht.1)) (lt_irrefl x)
  · exact heq
  · have hle := h.hi_le_lo hgt hj hi
    exact absurd (ht.2.trans_le (hle.trans hs.1)) (lt_irrefl x)

end Spans
