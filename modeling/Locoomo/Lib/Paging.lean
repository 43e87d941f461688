import Mathlib.Data.List.Sort
import Locoomo.Lib.Reports

/-! Offset pages of a listing that the database arranges anew for each query.
Rows with one sort key come in any order: when a page ends between two of them, a
row can stand on both pages, and another on neither. -/

namespace Paging

variable {α κ : Type} [LinearOrder κ] {key : α → κ} {rows l l' : List α} {limit n : Nat}

/-- `ORDER BY key DESC`. -/
structure Arranged (key : α → κ) (rows l : List α) : Prop where
  perm : l.Perm rows
  sorted : l.Pairwise fun a b => key b ≤ key a

/-- What the database answers to a query. -/
structure Arrangement (key : α → κ) where
  apply : List α → List α
  arranged : ∀ rows, Arranged key rows (apply rows)

/-- The pages 1 to `count`, each of its own query. -/
def pages (arrange : Nat → Arrangement key) (rows : List α) (limit count : Nat) : List α :=
  (List.range count).flatMap fun i => Reports.page limit (i + 1) ((arrange i).apply rows)

/-- Some page ends between two rows with the key of `a`: it is full before the
last of them, and not before the first. -/
def SplitsTie (key : α → κ) (rows : List α) (limit : Nat) : Prop :=
  ∃ a ∈ rows, ∃ number < rows.length,
    (rows.countP fun b => key a < key b) < number * limit ∧
      number * limit < rows.countP fun b => key a ≤ key b

instance (key : α → κ) (rows : List α) (limit : Nat) : Decidable (SplitsTie key rows limit) :=
  inferInstanceAs (Decidable (∃ a ∈ rows, _))

/-! ## Arrangements -/

/-- In a sorted list what a threshold keeps stands in front. -/
theorem filter_append_filter (hl : l.Pairwise fun a b => key b ≤ key a) (t : κ) :
    (l.filter fun a => t ≤ key a) ++ (l.filter fun a => key a < t) = l := by
  induction l with
  | nil => rfl
  | cons a l ih =>
      obtain ⟨ha, hl⟩ := List.pairwise_cons.mp hl
      by_cases hat : t ≤ key a
      · simpa [hat, not_lt.mpr hat] using ih hl
      · have hbelow : ∀ b ∈ l, ¬ t ≤ key b := fun b hb htb => hat (htb.trans (ha b hb))
        have hfront : l.filter (fun b => decide (t ≤ key b)) = [] :=
          List.filter_eq_nil_iff.mpr fun b hb => by simpa using hbelow b hb
        have hback : l.filter (fun b => decide (key b < t)) = l :=
          List.filter_eq_self.mpr fun b hb => by simpa using hbelow b hb
        simp [hat, lt_of_not_ge hat, hfront, hback]

/-- **A page that ends where a key ends** holds the same rows in every arrangement. -/
theorem take_eq_filter (hl : Arranged key rows l) {t : κ}
    (ht : (rows.countP fun a => t ≤ key a) = n) : l.take n = l.filter fun a => t ≤ key a := by
  have hlength : (l.filter fun a => t ≤ key a).length = n := by
    rw [← List.countP_eq_length_filter, hl.perm.countP_eq, ht]
  have hsplit := filter_append_filter hl.sorted t
  calc l.take n
      = ((l.filter fun a => t ≤ key a) ++ l.filter fun a => key a < t).take n := by rw [hsplit]
    _ = l.filter fun a => t ≤ key a := by rw [← hlength, List.take_left']; rfl

theorem countP_above_le (hl : l.Pairwise fun a b => key b ≤ key a) {i : Nat} (hi : i < l.length) :
    (l.countP fun b => key l[i] < key b) ≤ i := by
  have hback : (l.drop i).countP (fun b => key l[i] < key b) = 0 := by
    have hdrop := hl.drop (i := i)
    rw [List.drop_eq_getElem_cons hi] at hdrop ⊢
    have hle := (List.pairwise_cons.mp hdrop).1
    refine List.countP_eq_zero.mpr fun b hb => ?_
    rcases List.mem_cons.mp hb with rfl | hb
    · simp
    · simpa using hle b hb
  calc l.countP (fun b => key l[i] < key b)
      = (l.take i).countP (fun b => key l[i] < key b)
          + (l.drop i).countP (fun b => key l[i] < key b) := by
        rw [← List.countP_append, List.take_append_drop]
    _ ≤ i := by
        rw [hback, Nat.add_zero]
        exact List.countP_le_length.trans (List.length_take_le i l)

theorem lt_countP_from (hl : l.Pairwise fun a b => key b ≤ key a) {i : Nat} (hi : i < l.length) :
    i < l.countP fun b => key l[i] ≤ key b := by
  have hfront : (l.take (i + 1)).countP (fun b => key l[i] ≤ key b) = i + 1 := by
    have htake := hl.take (i := i + 1)
    have hall : ∀ b ∈ l.take (i + 1), key l[i] ≤ key b := by
      rw [List.take_succ_eq_append_getElem hi] at htake ⊢
      intro b hb
      rcases List.mem_append.mp hb with hb | hb
      · exact (List.pairwise_append.mp htake).2.2 b hb l[i] (List.mem_singleton.mpr rfl)
      · rw [List.mem_singleton.mp hb]
    rw [List.countP_eq_length.mpr fun b hb => by simpa using hall b hb, List.length_take]
    omega
  have hle := (List.take_sublist (i + 1) l).countP_le (p := fun b => decide (key l[i] ≤ key b))
  omega

/-- The first pages hold the same rows in every arrangement, if none ends in a tie. -/
theorem take_perm (h : ¬ SplitsTie key rows limit) (hlimit : 0 < limit) (hl : Arranged key rows l)
    (hl' : Arranged key rows l') (number : Nat) :
    (l.take (number * limit)).Perm (l'.take (number * limit)) := by
  have hlength : l.length = rows.length := hl.perm.length_eq
  rcases Nat.eq_zero_or_pos (number * limit) with hzero | hpos
  · simp [hzero]
  rcases Nat.lt_or_ge (number * limit) rows.length with hlt | hge
  · -- the last row of the page, and its key
    have hi : number * limit - 1 < l.length := by omega
    let a := l[number * limit - 1]
    have ha : a ∈ rows := hl.perm.subset (List.getElem_mem hi)
    have hbefore : (rows.countP fun b => key a < key b) < number * limit := by
      have hcount : (l.countP fun b => key a < key b) ≤ number * limit - 1 :=
        countP_above_le hl.sorted hi
      rw [← hl.perm.countP_eq]
      omega
    have hafter : number * limit ≤ rows.countP fun b => key a ≤ key b := by
      have hcount : number * limit - 1 < l.countP fun b => key a ≤ key b :=
        lt_countP_from hl.sorted hi
      rw [← hl.perm.countP_eq]
      omega
    have hends : (rows.countP fun b => key a ≤ key b) = number * limit := by
      have hnumber : number < rows.length := (Nat.le_mul_of_pos_right number hlimit).trans_lt hlt
      by_contra hne
      exact h ⟨a, ha, number, hnumber, hbefore, lt_of_le_of_ne hafter (Ne.symm hne)⟩
    rw [take_eq_filter hl hends, take_eq_filter hl' hends]
    exact (hl.perm.trans hl'.perm.symm).filter _
  · have hlength' : l'.length = rows.length := hl'.perm.length_eq
    rw [List.take_of_length_le (hlength.trans_le hge),
      List.take_of_length_le (hlength'.trans_le hge)]
    exact hl.perm.trans hl'.perm.symm

/-! ## Pages -/

theorem pages_succ (arrange : Nat → Arrangement key) (rows : List α) (limit count : Nat) :
    pages arrange rows limit (count + 1) = pages arrange rows limit count
      ++ Reports.page limit (count + 1) ((arrange count).apply rows) := by
  simp [pages, List.range_succ]

/-- **Without a split tie the pages are the listing**, whatever the arrangements. -/
theorem pages_perm (h : ¬ SplitsTie key rows limit) (hlimit : 0 < limit)
    (arrange : Nat → Arrangement key) {count : Nat} (hcount : rows.length ≤ count * limit) :
    (pages arrange rows limit count).Perm rows := by
  have hprefix : ∀ count, ∀ l, Arranged key rows l →
      (pages arrange rows limit count).Perm (l.take (count * limit)) := by
    intro count
    induction count with
    | zero => simp [pages]
    | succ count ih =>
        intro l hl
        have hlast := (arrange count).arranged rows
        have hpage : ((arrange count).apply rows).take (count * limit)
              ++ Reports.page limit (count + 1) ((arrange count).apply rows)
            = ((arrange count).apply rows).take ((count + 1) * limit) := by
          rw [Nat.succ_mul, List.take_add]
          rfl
        rw [pages_succ]
        refine ((ih _ hlast).append_right _).trans ?_
        rw [hpage]
        exact take_perm h hlimit hlast hl (count + 1)
  have hall := (arrange 0).arranged rows
  have hlisted := hprefix count _ hall
  rw [List.take_of_length_le (hall.perm.length_eq.trans_le hcount)] at hlisted
  exact hlisted.trans hall.perm

/-- A listing in some order that the key allows. -/
def sortDesc (key : α → κ) (rows : List α) : List α :=
  rows.insertionSort fun a b => key b ≤ key a

theorem sortDesc_arranged (key : α → κ) (rows : List α) :
    Arranged key rows (sortDesc key rows) where
  perm := List.perm_insertionSort _ rows
  sorted := by
    have : IsTrans α fun a b => key b ≤ key a := ⟨fun _ _ _ hab hbc => hbc.trans hab⟩
    have : Std.Total fun a b : α => key b ≤ key a := ⟨fun a b => le_total (key b) (key a)⟩
    exact List.pairwise_insertionSort _ rows

theorem exists_arrangement (h : Arranged key rows l) :
    ∃ arrange : Arrangement key, arrange.apply rows = l := by
  classical
  refine ⟨⟨fun asked => if asked = rows then l else sortDesc key asked, fun asked => ?_⟩,
    if_pos rfl⟩
  by_cases hasked : asked = rows
  · rw [if_pos hasked, hasked]
    exact h
  · rw [if_neg hasked]
    exact sortDesc_arranged key asked

/-- The rows with the key of `a` as given, the others before and behind them. -/
def around (key : α → κ) (rows : List α) (a : α) (ties : List α) : List α :=
  sortDesc key (rows.filter fun b => key a < key b) ++ ties
    ++ sortDesc key (rows.filter fun b => key b < key a)

theorem around_perm (key : α → κ) (rows : List α) (a : α) :
    (around key rows a (rows.filter fun b => key b = key a)).Perm rows := by
  have hback : ((rows.filter fun b => !decide (key a < key b)).filter fun b => key b = key a)
        ++ ((rows.filter fun b => !decide (key a < key b)).filter fun b => !decide (key b = key a))
      = (rows.filter fun b => key b = key a) ++ rows.filter fun b => key b < key a := by
    rw [List.filter_filter, List.filter_filter]
    congr 1
    all_goals
      refine List.filter_congr fun b _ => ?_
      rcases lt_trichotomy (key b) (key a) with hlt | heq | hgt
    · simp [hlt.ne]
    · simp [heq]
    · simp [hgt.ne']
    · simp [hlt, hlt.ne, hlt.le]
    · simp [heq]
    · simp [hgt, hgt.le]
  have hsplit := List.filter_append_perm (fun b => decide (key a < key b)) rows
  have hrest := List.filter_append_perm (fun b => decide (key b = key a))
    (rows.filter fun b => !decide (key a < key b))
  rw [hback] at hrest
  refine List.Perm.trans ?_ hsplit
  rw [around, List.append_assoc]
  refine (sortDesc_arranged key _).perm.append (List.Perm.trans ?_ hrest)
  exact (sortDesc_arranged key _).perm.append_left _

theorem around_arranged {a : α} {ties : List α}
    (hties : ties.Perm (rows.filter fun b => key b = key a)) :
    Arranged key rows (around key rows a ties) where
  perm := ((hties.append_left _).append_right _).trans (around_perm key rows a)
  sorted := by
    have hfront := sortDesc_arranged key (rows.filter fun b => key a < key b)
    have hback := sortDesc_arranged key (rows.filter fun b => key b < key a)
    have habove : ∀ b ∈ sortDesc key (rows.filter fun b => key a < key b), key a < key b := by
      intro b hb
      simpa using (List.mem_filter.mp (hfront.perm.subset hb)).2
    have hbelow : ∀ b ∈ sortDesc key (rows.filter fun b => key b < key a), key b < key a := by
      intro b hb
      simpa using (List.mem_filter.mp (hback.perm.subset hb)).2
    have hequal : ∀ b ∈ ties, key b = key a := by
      intro b hb
      simpa using (List.mem_filter.mp (hties.subset hb)).2
    have hmiddle : ties.Pairwise fun b c => key c ≤ key b := by
      refine List.pairwise_of_forall_mem_list fun b hb c hc => ?_
      rw [hequal b hb, hequal c hc]
    refine List.pairwise_append.mpr ⟨List.pairwise_append.mpr ⟨hfront.sorted, hmiddle, ?_⟩,
      hback.sorted, ?_⟩
    · intro b hb c hc
      rw [hequal c hc]
      exact (habove b hb).le
    · intro b hb c hc
      rcases List.mem_append.mp hb with hb | hb
      · exact ((hbelow c hc).trans (habove b hb)).le
      · rw [hequal b hb]
        exact (hbelow c hc).le

/-- A row of a split tie may come first in it, on the page before, or last, behind it. -/
theorem exists_straddling (h : SplitsTie key rows limit) : ∃ x number l₁ l₂,
    Arranged key rows l₁ ∧ Arranged key rows l₂ ∧
      x ∈ l₁.take (number * limit) ∧ x ∈ l₂.drop (number * limit) := by
  obtain ⟨a, ha, number, -, hbefore, hafter⟩ := h
  have hmem : a ∈ rows.filter fun b => key b = key a := by simp [ha]
  obtain ⟨x, rest, hties⟩ := List.exists_cons_of_ne_nil (List.ne_nil_of_mem hmem)
  have hrotated : (rest ++ [x]).Perm (rows.filter fun b => key b = key a) := by
    rw [hties]
    exact List.perm_append_singleton x rest
  let front := sortDesc key (rows.filter fun b => key a < key b)
  have hfront : front.length = rows.countP fun b => key a < key b := by
    rw [List.countP_eq_length_filter]
    exact (sortDesc_arranged key _).perm.length_eq
  have hties_length : (rows.countP fun b => key a ≤ key b) = front.length + (rest.length + 1) := by
    have hties' : rest.length + 1 = rows.countP fun b => key b = key a := by
      rw [List.countP_eq_length_filter, hties, List.length_cons]
    rw [hfront, hties']
    rw [List.countP_eq_countP_filter_add _ _ fun b => key a < key b, List.countP_filter,
      List.countP_filter]
    congr 1
    all_goals
      refine List.countP_congr fun b _ => ?_
      rcases lt_trichotomy (key b) (key a) with hlt | heq | hgt
    · simp [hlt.le]
    · simp [heq]
    · simp [hgt.le]
    · simp [hlt.ne, hlt]
    · simp [heq]
    · simp [hgt, hgt.ne']
  refine ⟨x, number, around key rows a (x :: rest), around key rows a (rest ++ [x]),
    around_arranged (by rw [hties]), around_arranged hrotated, ?_, ?_⟩
  · refine List.mem_of_getElem? (i := front.length) ?_
    rw [List.getElem?_take_of_lt (hfront.trans_lt hbefore)]
    simp [around, front]
  · refine List.mem_of_getElem? (i := front.length + rest.length - number * limit) ?_
    have hindex : number * limit + (front.length + rest.length - number * limit)
        = front.length + rest.length := by omega
    rw [List.getElem?_drop, hindex]
    simp [around, front]

/-- **With a split tie a row is listed twice**, for some arrangements. -/
theorem pages_repeat (hrows : rows.Nodup) (h : SplitsTie key rows limit) :
    ∃ arrange : Nat → Arrangement key, ∀ count, rows.length ≤ count * limit →
      ¬ (pages arrange rows limit count).Nodup := by
  obtain ⟨x, number, l₁, l₂, hl₁, hl₂, hfirst, hsecond⟩ := exists_straddling h
  obtain ⟨arrange₁, harrange₁⟩ := exists_arrangement hl₁
  obtain ⟨arrange₂, harrange₂⟩ := exists_arrangement hl₂
  refine ⟨fun i => if i < number then arrange₁ else arrange₂, fun count hcount hnodup => ?_⟩
  -- the row on a page before the boundary
  rw [← Reports.pages_eq] at hfirst
  obtain ⟨i, hi, hxi⟩ := List.mem_flatMap.mp hfirst
  rw [List.mem_range] at hi
  -- and on a page behind it
  have hall : x ∈ l₂ := List.mem_of_mem_drop hsecond
  rw [← Reports.pages_all (hl₂.perm.length_eq.trans_le hcount)] at hall
  obtain ⟨j, hj, hxj⟩ := List.mem_flatMap.mp hall
  rw [List.mem_range] at hj
  have hnj : number ≤ j := by
    by_contra hjn
    have hearly : x ∈ l₂.take (number * limit) := by
      rw [← Reports.pages_eq]
      exact List.mem_flatMap.mpr ⟨j, List.mem_range.mpr (Nat.lt_of_not_le hjn), hxj⟩
    exact List.disjoint_take_drop (hl₂.perm.nodup_iff.mpr hrows) le_rfl hearly hsecond
  obtain ⟨-, hdisjoint⟩ := List.nodup_flatMap.mp hnodup
  have hapart := List.pairwise_iff_getElem.mp hdisjoint i j
    (by simpa using hi.trans_le (hnj.trans hj.le)) (by simpa using hj) (hi.trans_le hnj)
  simp only [Function.onFun, List.getElem_range, if_pos hi, if_neg (Nat.not_lt.mpr hnj),
    harrange₁, harrange₂] at hapart
  exact hapart hxi hxj

/-- **Every row on exactly one page**, in all arrangements, exactly when no page ends
in a tie. -/
theorem pages_exact_iff {ι : Type} {id : α → ι} (hids : (rows.map id).Nodup) (hlimit : 0 < limit) :
    (∀ (arrange : Nat → Arrangement key) (count : Nat), rows.length ≤ count * limit →
      ((pages arrange rows limit count).map id).Perm (rows.map id)) ↔
    ¬ SplitsTie key rows limit := by
  constructor
  · intro hexact h
    obtain ⟨arrange, hrepeat⟩ := pages_repeat (List.Nodup.of_map id hids) h
    have hcount : rows.length ≤ rows.length * limit := Nat.le_mul_of_pos_right _ hlimit
    refine hrepeat rows.length hcount (List.Nodup.of_map id ?_)
    exact (hexact arrange rows.length hcount).nodup_iff.mpr hids
  · intro h arrange count hcount
    exact (pages_perm h hlimit arrange hcount).map id

/-- Which pages end in a tie depends on the column of keys only. -/
theorem splitsTie_of_keys {β : Type} {key' : β → κ} {rows' : List β}
    (h : rows'.map key' = rows.map key) :
    SplitsTie key' rows' limit ↔ SplitsTie key rows limit := by
  have hcolumn : ∀ {γ : Type} (key : γ → κ) (rows : List γ),
      SplitsTie id (rows.map key) limit ↔ SplitsTie key rows limit := by
    intro γ key rows
    simp [SplitsTie, List.countP_map, Function.comp_def]
  rw [← hcolumn, h, hcolumn]

end Paging
