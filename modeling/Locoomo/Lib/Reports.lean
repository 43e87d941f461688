import Mathlib.Data.List.Dedup

/-! Reports over two tables: a join, its groups, and the pages of a listing.
Grouped by the key of the first table, a join has one group for each row that
found a match, with all its matches. -/

namespace Reports

variable {α β κ : Type}

/-! ## Joins and groups -/

/-- `FROM as JOIN bs ON on`. -/
def join (on : α → β → Bool) (as : List α) (bs : List β) : List (α × β) :=
  as.flatMap fun a => (bs.filter (on a)).map fun b => (a, b)

/-- `GROUP BY key`: the keys that occur, each with its rows. -/
def groupBy [DecidableEq κ] (key : α → κ) (rows : List α) : List (κ × List α) :=
  (rows.map key).dedup.map fun k => (k, rows.filter fun r => decide (key r = k))

theorem mem_join {on : α → β → Bool} {as : List α} {bs : List β} {a : α} {b : β} :
    (a, b) ∈ join on as bs ↔ a ∈ as ∧ b ∈ bs ∧ on a b = true := by
  simp [join, List.mem_filter]

/-- A condition behind a join is one more condition of it. -/
theorem filter_join (on : α → β → Bool) (p : α × β → Bool) (as : List α) (bs : List β) :
    (join on as bs).filter p = join (fun a b => on a b && p (a, b)) as bs := by
  induction as with
  | nil => rfl
  | cons a as ih =>
      have hcons : ∀ on' : α → β → Bool, join on' (a :: as) bs =
          ((bs.filter (on' a)).map fun b => (a, b)) ++ join on' as bs := fun _ => rfl
      rw [hcons, hcons, List.filter_append, ih, List.filter_map, List.filter_filter]
      simp only [Function.comp_def, Bool.and_comm]

/-- `LEFT JOIN bs ON on`, for one row of the first table: its matches, or a row of `NULL`s. -/
def leftMatches (on : β → Bool) (bs : List β) : List (Option β) :=
  match bs.filter on with
  | [] => [none]
  | found => found.map some

/-- **A left join on a key does not multiply.** -/
theorem leftMatches_of_unique {on : β → Bool} {bs : List β} (h : (bs.filter on).length ≤ 1) :
    leftMatches on bs = [bs.find? on] := by
  rw [← List.head?_filter, leftMatches]
  match hfound : bs.filter on with
  | [] => rfl
  | [b] => rfl
  | b :: c :: found =>
      rw [hfound] at h
      simp at h

/-- A condition on the joined table alone picks its rows beforehand. -/
theorem leftMatches_and (on keep : β → Bool) (bs : List β) :
    leftMatches (fun b => on b && keep b) bs = leftMatches on (bs.filter keep) := by
  rw [leftMatches, leftMatches, List.filter_filter]

/-- Joins that give one row each list what the first table does. -/
theorem map_flatMap_of_single {γ : Type} {as : List α} {rows : α → List β} {column : β → γ}
    {column' : α → γ} (h : ∀ a ∈ as, (rows a).map column = [column' a]) :
    (as.flatMap rows).map column = as.map column' := by
  induction as with
  | nil => rfl
  | cons a as ih =>
      rw [List.flatMap_cons, List.map_append, h a List.mem_cons_self,
        ih fun b hb => h b (List.mem_cons_of_mem a hb)]
      rfl

variable [DecidableEq κ]

theorem groupBy_keys (key : α → κ) (rows : List α) :
    (groupBy key rows).map Prod.fst = (rows.map key).dedup := by
  simp [groupBy, Function.comp_def]

/-- **Every key has one group.** -/
theorem groupBy_nodup (key : α → κ) (rows : List α) :
    ((groupBy key rows).map Prod.fst).Nodup := by
  rw [groupBy_keys]
  exact List.nodup_dedup _

theorem mem_groupBy {key : α → κ} {rows : List α} {g : κ × List α} :
    g ∈ groupBy key rows ↔
      (∃ r ∈ rows, key r = g.1) ∧ g.2 = rows.filter fun r => decide (key r = g.1) := by
  obtain ⟨k, members⟩ := g
  simp only [groupBy, List.mem_map, List.mem_dedup, Prod.mk.injEq]
  constructor
  · rintro ⟨k', hk', rfl, rfl⟩
    exact ⟨hk', rfl⟩
  · rintro ⟨hk, hmembers⟩
    exact ⟨k, hk, rfl, hmembers.symm⟩

/-- The rows of the join that belong to one row of the first table. -/
theorem filter_join_key {on : α → β → Bool} {key : α → κ} {as : List α} {bs : List β}
    (hdistinct : (as.map key).Nodup) {a : α} (ha : a ∈ as) :
    ((join on as bs).filter fun r => decide (key r.1 = key a))
      = (bs.filter (on a)).map fun b => (a, b) := by
  induction as with
  | nil => cases ha
  | cons a' as ih =>
      obtain ⟨hnew, hdistinct⟩ := List.nodup_cons.mp hdistinct
      have hcons : join on (a' :: as) bs =
          ((bs.filter (on a')).map fun b => (a', b)) ++ join on as bs := rfl
      rw [hcons, List.filter_append]
      rcases List.mem_cons.mp ha with rfl | ha
      · have hself : ((bs.filter (on a)).map fun b => (a, b)).filter
            (fun r => decide (key r.1 = key a)) = (bs.filter (on a)).map fun b => (a, b) := by
          refine List.filter_eq_self.mpr fun r hr => ?_
          obtain ⟨b, -, rfl⟩ := List.mem_map.mp hr
          simp
        have hrest : (join on as bs).filter (fun r => decide (key r.1 = key a)) = [] := by
          refine List.filter_eq_nil_iff.mpr fun r hr heq => ?_
          obtain ⟨hmem, -, -⟩ := mem_join.mp (show (r.1, r.2) ∈ join on as bs from hr)
          exact hnew (of_decide_eq_true heq ▸ List.mem_map_of_mem hmem)
        rw [hself, hrest, List.append_nil]
      · have hother : ((bs.filter (on a')).map fun b => (a', b)).filter
            (fun r => decide (key r.1 = key a)) = [] := by
          refine List.filter_eq_nil_iff.mpr fun r hr heq => ?_
          obtain ⟨b, -, rfl⟩ := List.mem_map.mp hr
          have hkey : key a' = key a := of_decide_eq_true heq
          exact hnew (hkey ▸ List.mem_map_of_mem ha)
        rw [hother, List.nil_append, ih hdistinct ha]

/-- **Grouping does not multiply.** One group for each row with a match. -/
theorem mem_groupBy_join {on : α → β → Bool} {key : α → κ} {as : List α} {bs : List β}
    (hdistinct : (as.map key).Nodup) {g : κ × List (α × β)} :
    g ∈ groupBy (fun r => key r.1) (join on as bs) ↔
      ∃ a ∈ as, g.1 = key a ∧ (∃ b ∈ bs, on a b = true) ∧
        g.2 = (bs.filter (on a)).map fun b => (a, b) := by
  rw [mem_groupBy]
  constructor
  · rintro ⟨⟨r, hr, hkey⟩, hmembers⟩
    obtain ⟨ha, hb, hon⟩ := mem_join.mp (show (r.1, r.2) ∈ join on as bs from hr)
    refine ⟨r.1, ha, hkey.symm, ⟨r.2, hb, hon⟩, ?_⟩
    rw [hmembers, ← hkey]
    exact filter_join_key hdistinct ha
  · rintro ⟨a, ha, hkey, ⟨b, hb, hon⟩, hmembers⟩
    refine ⟨⟨(a, b), mem_join.mpr ⟨ha, hb, hon⟩, hkey.symm⟩, ?_⟩
    rw [hmembers, hkey]
    exact (filter_join_key hdistinct ha).symm

/-! ## Pages -/

/-- `rows.slice(offset, offset + limit)` for the page with that number, from 1. -/
def page (limit number : Nat) (rows : List α) : List α :=
  (rows.drop ((number - 1) * limit)).take limit

/-- The first pages, one behind the other. -/
theorem pages_eq (limit count : Nat) (rows : List α) :
    ((List.range count).flatMap fun i => page limit (i + 1) rows) = rows.take (count * limit) := by
  induction count with
  | zero => simp
  | succ count ih =>
      rw [List.range_succ, List.flatMap_append, ih, Nat.succ_mul, List.take_add]
      simp [page]

/-- **All pages are the listing.** -/
theorem pages_all {limit count : Nat} {rows : List α} (h : rows.length ≤ count * limit) :
    ((List.range count).flatMap fun i => page limit (i + 1) rows) = rows := by
  rw [pages_eq, List.take_of_length_le h]

end Reports
