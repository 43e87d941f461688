import Mathlib.Data.List.Sort

/-! Queues in the order of a key, served from the front in batches. Sorting is
stable, so it commutes with dropping entries, and the entries up to some key are
the queue's front. A round serves one batch; when all that it serves go away from
the front, the next round finds the rest of the queue. -/

namespace Queues

variable {α ρ : Type}

/-! ## Order -/

section Order

variable {r : α → α → Prop} [DecidableRel r]

theorem orderedInsert_of_forall {a : α} {l : List α} (h : ∀ b ∈ l, r a b) :
    l.orderedInsert r a = a :: l := by
  cases l with
  | nil => rfl
  | cons b l => exact List.orderedInsert_cons_of_le r l (h b List.mem_cons_self)

theorem filter_orderedInsert [IsTrans α r] (p : α → Bool) (a : α) {l : List α}
    (h : l.Pairwise r) :
    (l.orderedInsert r a).filter p =
      if p a then (l.filter p).orderedInsert r a else l.filter p := by
  induction l with
  | nil => cases hp : p a <;> simp [hp]
  | cons b l ih =>
      obtain ⟨hb, hl⟩ := List.pairwise_cons.mp h
      by_cases hab : r a b
      · have hle : ∀ c ∈ (b :: l).filter p, r a c := by
          intro c hc
          rcases List.mem_cons.mp (List.mem_of_mem_filter hc) with rfl | hc
          · exact hab
          · exact Trans.trans hab (hb c hc)
        rw [List.orderedInsert_cons_of_le r l hab, orderedInsert_of_forall hle, List.filter_cons]
      · rw [List.orderedInsert_of_not_le r l hab, List.filter_cons, List.filter_cons, ih hl]
        cases p a with
        | false => simp
        | true =>
            cases p b with
            | false => simp
            | true => simp [List.orderedInsert_of_not_le r _ hab]

/-- **Sorting commutes with dropping entries.** -/
theorem filter_insertionSort [IsTrans α r] [Std.Total r] (p : α → Bool) (l : List α) :
    (l.insertionSort r).filter p = (l.filter p).insertionSort r := by
  induction l with
  | nil => rfl
  | cons a l ih =>
      rw [List.insertionSort_cons, filter_orderedInsert p a (List.pairwise_insertionSort r l), ih,
        List.filter_cons]
      split <;> rfl

end Order

/-- The entries of a sorted list that a lower bound holds for come first. -/
theorem eq_filter_append {r : α → α → Prop} {p : α → Bool}
    (hp : ∀ a b, r a b → p b = true → p a = true) {l : List α} (h : l.Pairwise r) :
    l = l.filter p ++ l.filter fun a => !p a := by
  induction l with
  | nil => rfl
  | cons a l ih =>
      obtain ⟨ha, hl⟩ := List.pairwise_cons.mp h
      cases hpa : p a with
      | true =>
          have hrest := ih hl
          simp only [List.filter_cons, hpa, if_true, Bool.not_true, Bool.false_eq_true, if_false,
            List.cons_append]
          exact congrArg _ hrest
      | false =>
          have hnone : ∀ b ∈ l, p b = false := by
            intro b hb
            cases hpb : p b with
            | false => rfl
            | true => rw [hp a b (ha b hb) hpb] at hpa; exact hpa
          have hfilter : l.filter p = [] := by
            simpa [List.filter_eq_nil_iff] using hnone
          have hself : (l.filter fun b => !p b) = l := by
            simpa [List.filter_eq_self] using hnone
          simp [hpa, hfilter, hself]

/-! ## Batches -/

/-- Behind the first batch are the entries that are not in it. -/
theorem drop_eq_filter {κ : Type} [DecidableEq κ] {key : α → κ} {l : List α}
    (h : (l.map key).Nodup) (B : Nat) :
    l.drop B = l.filter fun a => key a ∉ (l.take B).map key := by
  have hsplit : l.take B ++ l.drop B = l := List.take_append_drop B l
  have hnodup : ((l.take B ++ l.drop B).map key).Nodup := by
    rwa [hsplit]
  rw [List.map_append, List.nodup_append] at hnodup
  have hfront : (l.take B).filter (fun a => key a ∉ (l.take B).map key) = [] := by
    rw [List.filter_eq_nil_iff]
    intro a ha
    have hmem : key a ∈ (l.take B).map key := List.mem_map_of_mem ha
    simp only [hmem, not_true, decide_false, Bool.false_eq_true, not_false_iff]
  have hback : (l.drop B).filter (fun a => key a ∉ (l.take B).map key) = l.drop B := by
    rw [List.filter_eq_self]
    intro a ha
    refine decide_eq_true fun hmem => ?_
    exact hnodup.2.2 (key a) hmem (key a) (List.mem_map_of_mem ha) rfl
  calc l.drop B
      = (l.take B).filter (fun a => key a ∉ (l.take B).map key) ++
          (l.drop B).filter (fun a => key a ∉ (l.take B).map key) := by
        rw [hfront, hback, List.nil_append]
    _ = (l.take B ++ l.drop B).filter (fun a => key a ∉ (l.take B).map key) :=
        (List.filter_append _ _).symm
    _ = l.filter fun a => key a ∉ (l.take B).map key := by
        rw [hsplit]

/-- How many rounds serve `n` entries, `B` in each. -/
def roundsFor (B n : Nat) : Nat := (n + B - 1) / B

theorem roundsFor_le_one {B n : Nat} (hB : 0 < B) (h : n ≤ B) : roundsFor B n ≤ 1 :=
  Nat.lt_succ_iff.mp (Nat.div_lt_of_lt_mul (by omega))

theorem roundsFor_add {B : Nat} (hB : 0 < B) (n : Nat) :
    roundsFor B (n + B) = roundsFor B n + 1 := by
  have hsplit : n + B + B - 1 = n + B - 1 + B := by
    omega
  rw [roundsFor, hsplit, Nat.add_div_right _ hB, roundsFor]

theorem roundsFor_pos {B n : Nat} (hB : 0 < B) (hn : 0 < n) : 0 < roundsFor B n :=
  Nat.div_pos (by omega) hB

/-- Rounds for more than one batch: after the first one there are as many as the
rest of the queue needs, and it needs some. -/
theorem rounds_of_long {B : Nat} (hB : 0 < B) {q : List α} (hlong : B < q.length) {e : ρ}
    {rounds : List ρ} (h : (e :: rounds).length = roundsFor B q.length) :
    rounds.length = roundsFor B (q.drop B).length ∧ ∃ e' rounds', rounds = e' :: rounds' := by
  have hlength : rounds.length = roundsFor B (q.drop B).length := by
    have hadd := roundsFor_add hB (q.length - B)
    rw [Nat.sub_add_cancel hlong.le, ← h, List.length_cons] at hadd
    rw [List.length_drop]
    omega
  refine ⟨hlength, ?_⟩
  cases rounds with
  | cons e' rounds' => exact ⟨e', rounds', rfl⟩
  | nil =>
      have hpos : 0 < (q.drop B).length := by
        rw [List.length_drop]
        omega
      have hsome := roundsFor_pos hB hpos
      rw [← hlength] at hsome
      cases hsome

/-- Whatever a round before the last one serves of the queue goes away in it. -/
def AllGo (B : Nat) (goes : ρ → α → Prop) (q : List α) (rounds : List ρ) : Prop :=
  ∀ i a e, i < B * (rounds.length - 1) → q[i]? = some a → rounds[i / B]? = some e → goes e a

variable {B : Nat} {goes : ρ → α → Prop} {q : List α} {e e' : ρ} {rounds : List ρ}

theorem allGo_single (e : ρ) : AllGo B goes q [e] := by
  intro i a e' hi
  simp at hi

/-- The first round serves the front, and the others what is behind it. -/
theorem allGo_cons (hB : 0 < B) :
    AllGo B goes q (e :: e' :: rounds) ↔
      (∀ a ∈ q.take B, goes e a) ∧ AllGo B goes (q.drop B) (e' :: rounds) := by
  simp only [AllGo, List.length_cons, Nat.add_sub_cancel]
  constructor
  · intro h
    constructor
    · intro a ha
      obtain ⟨i, hi, hget⟩ := List.mem_iff_getElem.mp ha
      have hiB : i < B := (List.length_take_le _ _).trans_lt' hi
      refine h i a e ?_ ?_ ?_
      · exact hiB.trans_le (Nat.le_mul_of_pos_right B (Nat.succ_pos _))
      · rw [← hget, List.getElem_take, List.getElem?_eq_getElem]
      · rw [Nat.div_eq_of_lt hiB]
        rfl
    · intro i a e'' hi hget hround
      refine h (i + B) a e'' ?_ ?_ ?_
      · rw [Nat.mul_succ]
        omega
      · rwa [List.getElem?_drop, Nat.add_comm] at hget
      · rwa [Nat.add_div_right _ hB, List.getElem?_cons_succ]
  · rintro ⟨hfront, hrest⟩ i a e'' hi hget hround
    by_cases hiB : i < B
    · rw [Nat.div_eq_of_lt hiB] at hround
      obtain rfl := Option.some.inj hround
      refine hfront a (List.mem_of_getElem? (i := i) ?_)
      rw [List.getElem?_take_of_lt hiB]
      exact hget
    · obtain ⟨j, rfl⟩ := Nat.exists_eq_add_of_le' (Nat.le_of_not_lt hiB)
      refine hrest j a e'' ?_ ?_ ?_
      · rw [Nat.mul_succ] at hi
        omega
      · rw [List.getElem?_drop, Nat.add_comm]
        exact hget
      · rwa [Nat.add_div_right _ hB, List.getElem?_cons_succ] at hround

end Queues
