import Mathlib.Algebra.BigOperators.Group.List.Basic
import Mathlib.Data.List.Nodup
import Mathlib.Data.List.Count
import Mathlib.Tactic.Abel

/-! Relational tables as lists of rows. A query is `find?`, `filter` or
`countP` on the list, `INSERT` appends a row, `UPDATE … WHERE … SET …` is
`update`; `get` and `put` read and replace a row by its key. The lemmas follow
what an update does to membership, to lookups, to the key column and to a
count. -/

namespace Relational

variable {ρ κ : Type}

/-- `UPDATE t SET f WHERE p`. -/
def update (p : ρ → Bool) (f : ρ → ρ) (t : List ρ) : List ρ :=
  t.map fun r => if p r then f r else r

/-- `SELECT … WHERE key = k`, one row. -/
def get [DecidableEq κ] (key : ρ → κ) (k : κ) (t : List ρ) : Option ρ :=
  t.find? fun r => key r = k

/-- Store the row `r` over the one with its key. -/
def put [DecidableEq κ] (key : ρ → κ) (r : ρ) (t : List ρ) : List ρ :=
  update (fun x => key x = key r) (fun _ => r) t

/-- `ORDER BY time DESC LIMIT 1`. -/
def latest (time : ρ → Nat) (t : List ρ) : Option ρ :=
  t.foldl
    (fun best r =>
      match best with
      | none => some r
      | some b => if time b < time r then some r else some b) none

/-- `l JOIN r ON on`. -/
def join {ρ' : Type} (on : ρ → ρ' → Bool) (l : List ρ) (r : List ρ') : List (ρ × ρ') :=
  l.flatMap fun a => (r.filter (on a)).map fun b => (a, b)

/-- The column `key` is a key of `t`: no two rows share its value. -/
def Distinct (key : ρ → κ) (t : List ρ) : Prop := (t.map key).Nodup

instance [DecidableEq κ] (key : ρ → κ) (t : List ρ) : Decidable (Distinct key t) :=
  inferInstanceAs (Decidable (List.Nodup _))

/-! ## Updates -/

theorem mem_update {p : ρ → Bool} {f : ρ → ρ} {t : List ρ} {x : ρ} :
    x ∈ update p f t ↔ ∃ r ∈ t, (if p r then f r else r) = x := by
  simp only [update, List.mem_map]

theorem mem_update_of_pos {p : ρ → Bool} {f : ρ → ρ} {t : List ρ} {r : ρ} (hr : r ∈ t)
    (hp : p r = true) : f r ∈ update p f t :=
  mem_update.mpr ⟨r, hr, by simp [hp]⟩

theorem mem_update_of_neg {p : ρ → Bool} {f : ρ → ρ} {t : List ρ} {r : ρ} (hr : r ∈ t)
    (hp : p r = false) : r ∈ update p f t :=
  mem_update.mpr ⟨r, hr, by simp [hp]⟩

theorem map_update {α : Type} {g : ρ → α} {p : ρ → Bool} {f : ρ → ρ} {t : List ρ}
    (h : ∀ r ∈ t, p r = true → g (f r) = g r) : (update p f t).map g = t.map g := by
  rw [update, List.map_map]
  refine List.map_congr_left fun r hr => ?_
  by_cases hp : p r = true
  · simpa [hp] using h r hr hp
  · simp [hp]

/-- An update that matches no row changes nothing. -/
theorem update_eq_self {p : ρ → Bool} {f : ρ → ρ} {t : List ρ}
    (h : ∀ r ∈ t, p r = true → f r = r) : update p f t = t := by
  have hmap : (update p f t).map id = t.map id := map_update h
  simpa using hmap

theorem find?_update {p q : ρ → Bool} {f : ρ → ρ} (t : List ρ)
    (h : ∀ r ∈ t, p r = true → q (f r) = q r) :
    (update p f t).find? q = (t.find? q).map fun r => if p r then f r else r := by
  rw [update, List.find?_map]
  congr 1
  induction t with
  | nil => rfl
  | cons r t ih =>
      have hr : (q ∘ fun r => if p r then f r else r) r = q r := by
        by_cases hp : p r = true
        · simpa [hp] using h r List.mem_cons_self hp
        · simp [hp]
      rw [List.find?_cons, List.find?_cons, hr,
        ih fun r' hr' => h r' (List.mem_cons_of_mem r hr')]

theorem filter_update_of_keep {p q : ρ → Bool} {f : ρ → ρ} (t : List ρ)
    (h : ∀ r ∈ t, p r = true → q (f r) = q r) :
    (update p f t).filter q = update p f (t.filter q) := by
  induction t with
  | nil => rfl
  | cons r t ih =>
      have hr : q (if p r then f r else r) = q r := by
        by_cases hp : p r = true
        · simpa [hp] using h r List.mem_cons_self hp
        · simp [hp]
      have ih' := ih fun r' hr' => h r' (List.mem_cons_of_mem r hr')
      simp only [update, List.map_cons, List.filter_cons, hr] at ih' ⊢
      cases q r with
      | false => simpa using ih'
      | true => simpa using ih'

/-- Rows the filter drops before and after their update. -/
theorem filter_update_of_drop {p q : ρ → Bool} {f : ρ → ρ} {t : List ρ}
    (h : ∀ r ∈ t, p r = true → q r = false ∧ q (f r) = false) :
    (update p f t).filter q = t.filter q := by
  induction t with
  | nil => rfl
  | cons r t ih =>
      have ih' := ih fun r' hr' => h r' (List.mem_cons_of_mem r hr')
      by_cases hp : p r = true
      · obtain ⟨hr, hfr⟩ := h r List.mem_cons_self hp
        simpa [update, hp, hr, hfr] using ih'
      · simp only [update, List.map_cons, hp, List.filter_cons] at ih' ⊢
        simp [ih']

/-- Rows whose update the filter drops. -/
theorem filter_update_of_lose {p q : ρ → Bool} {f : ρ → ρ} {t : List ρ}
    (h : ∀ r ∈ t, p r = true → q (f r) = false) :
    (update p f t).filter q = (t.filter q).filter fun r => !p r := by
  induction t with
  | nil => rfl
  | cons r t ih =>
      have ih' := ih fun r' hr' => h r' (List.mem_cons_of_mem r hr')
      simp only [update, List.map_cons, List.filter_cons] at ih' ⊢
      by_cases hp : p r = true
      · have hfr := h r List.mem_cons_self hp
        cases q r <;> simp [hp, hfr, ih']
      · cases hq : q r <;> simp [hp, hq, ih']

/-! ## Keys -/

namespace Distinct

theorem eq_of_key {key : ρ → κ} {t : List ρ} (h : Distinct key t) {a b : ρ} (ha : a ∈ t)
    (hb : b ∈ t) (hab : key a = key b) : a = b :=
  List.inj_on_of_nodup_map h ha hb hab

theorem nodup {key : ρ → κ} {t : List ρ} (h : Distinct key t) : t.Nodup :=
  List.Nodup.of_map key h

theorem update {key : ρ → κ} {t : List ρ} {p : ρ → Bool} {f : ρ → ρ} (h : Distinct key t)
    (hkey : ∀ r ∈ t, p r = true → key (f r) = key r) : Distinct key (update p f t) := by
  rw [Distinct, map_update hkey]
  exact h

theorem append_singleton {key : ρ → κ} {t : List ρ} {r : ρ} (h : Distinct key t)
    (hr : ∀ x ∈ t, key x ≠ key r) : Distinct key (t ++ [r]) := by
  rw [Distinct, List.map_append, List.map_singleton, List.nodup_append]
  refine ⟨h, List.nodup_singleton _, ?_⟩
  intro a ha b hb
  obtain ⟨x, hx, rfl⟩ := List.mem_map.mp ha
  rw [List.mem_singleton] at hb
  subst hb
  exact hr x hx

theorem filter {key : ρ → κ} {t : List ρ} (h : Distinct key t) (p : ρ → Bool) :
    Distinct key (t.filter p) :=
  List.Nodup.sublist (List.Sublist.map key List.filter_sublist) h

/-- With a key, the row a lookup by that key returns is the row itself. -/
theorem get_eq [DecidableEq κ] {key : ρ → κ} {t : List ρ} (h : Distinct key t) {r : ρ}
    (hr : r ∈ t) : get key (key r) t = some r := by
  cases hf : get key (key r) t with
  | none => exact absurd (decide_eq_true rfl) (List.find?_eq_none.mp hf r hr)
  | some x =>
      have hkey : key x = key r := by simpa using List.find?_some hf
      rw [h.eq_of_key (List.mem_of_find?_eq_some hf) hr hkey]

theorem put [DecidableEq κ] {key : ρ → κ} {t : List ρ} (h : Distinct key t) (r : ρ) :
    Distinct key (put key r t) :=
  h.update fun _ _ hx => (of_decide_eq_true hx).symm

/-- An update by a row's key meets that row alone. -/
theorem update_append_cons [DecidableEq κ] {key : ρ → κ} {before after : List ρ} {r : ρ}
    (h : Distinct key (before ++ r :: after)) (f : ρ → ρ) :
    Relational.update (fun x => decide (key x = key r)) f (before ++ r :: after)
      = before ++ f r :: after := by
  rw [Distinct, List.map_append, List.map_cons] at h
  have hrest : ∀ x ∈ before ++ after, decide (key x = key r) = false := by
    intro x hx
    refine decide_eq_false fun heq => ?_
    have hmem : key r ∈ before.map key ++ after.map key := by
      rw [← heq, ← List.map_append]
      exact List.mem_map_of_mem hx
    exact (List.nodup_cons.mp (List.nodup_middle.mp h)).1 hmem
  have hside : ∀ l : List ρ, (∀ x ∈ l, x ∈ before ++ after) →
      Relational.update (fun x => decide (key x = key r)) f l = l := by
    intro l hl
    refine update_eq_self fun x hx hpx => ?_
    rw [hrest x (hl x hx)] at hpx
    cases hpx
  have hbefore := hside before fun x hx => List.mem_append_left _ hx
  have hafter := hside after fun x hx => List.mem_append_right _ hx
  rw [Relational.update] at hbefore hafter ⊢
  rw [List.map_append, List.map_cons, hbefore, hafter, if_pos (decide_eq_true rfl)]

/-- To store a row is to put it in the place of the one with its key. -/
theorem put_append_cons [DecidableEq κ] {key : ρ → κ} {before after : List ρ} {r r' : ρ}
    (h : Distinct key (before ++ r :: after)) (hkey : key r' = key r) :
    Relational.put key r' (before ++ r :: after) = before ++ r' :: after := by
  rw [Relational.put, hkey, h.update_append_cons]

end Distinct

/-! ## Rows by key -/

section Keyed

variable [DecidableEq κ] {key : ρ → κ} {t : List ρ} {k : κ} {r : ρ}

/-- What a lookup by key returns: a row of the table with that key. -/
theorem get_some (h : get key k t = some r) : r ∈ t ∧ key r = k :=
  ⟨List.mem_of_find?_eq_some h, by simpa using List.find?_some h⟩

theorem get_eq_none : get key k t = none ↔ ∀ r ∈ t, key r ≠ k := by
  simp [get, List.find?_eq_none]

theorem exists_get (h : ∃ r ∈ t, key r = k) : ∃ r, get key k t = some r := by
  obtain ⟨r, hr, hk⟩ := h
  cases hf : get key k t with
  | none => exact absurd hk (get_eq_none.mp hf r hr)
  | some x => exact ⟨x, rfl⟩

theorem get_update {p : ρ → Bool} {f : ρ → ρ} (h : ∀ r ∈ t, p r = true → key (f r) = key r)
    (k : κ) : get key k (update p f t) = (get key k t).map fun r => if p r then f r else r :=
  find?_update t fun r hr hp => by rw [h r hr hp]

theorem mem_put {x : ρ} :
    x ∈ put key r t ↔ (x = r ∧ ∃ y ∈ t, key y = key r) ∨ (x ∈ t ∧ key x ≠ key r) := by
  rw [put, mem_update]
  constructor
  · rintro ⟨y, hy, rfl⟩
    by_cases hk : key y = key r
    · exact Or.inl ⟨by simp [hk], y, hy, hk⟩
    · exact Or.inr ⟨by simpa [hk] using hy, by simp [hk]⟩
  · rintro (⟨rfl, y, hy, hk⟩ | ⟨hx, hk⟩)
    · exact ⟨y, hy, by simp [hk]⟩
    · exact ⟨x, hx, by simp [hk]⟩

theorem get_put_self (h : ∃ y ∈ t, key y = key r) : get key (key r) (put key r t) = some r := by
  have hmem : ∃ x ∈ put key r t, key x = key r := ⟨r, mem_put.mpr (Or.inl ⟨rfl, h⟩), rfl⟩
  obtain ⟨x, hx⟩ := exists_get hmem
  obtain ⟨hx', hkey⟩ := get_some hx
  rcases mem_put.mp hx' with ⟨rfl, -⟩ | ⟨-, hne⟩
  · exact hx
  · exact absurd hkey hne

theorem get_put_of_ne (h : k ≠ key r) : get key k (put key r t) = get key k t := by
  have hkeep : ∀ x ∈ t, decide (key x = key r) = true →
      decide (key r = k) = decide (key x = k) := by
    intro x _ hx
    rw [of_decide_eq_true hx]
  rw [get, put, find?_update t hkeep, ← get]
  cases hf : get key k t with
  | none => rfl
  | some x =>
      have hx : key x = k := (get_some hf).2
      simp [hx, h]

theorem put_put {r' : ρ} (h : key r' = key r) : put key r' (put key r t) = put key r' t := by
  simp only [put, update, List.map_map, h]
  refine List.map_congr_left fun x _ => ?_
  by_cases hx : key x = key r
  · simp [hx]
  · simp [hx]

/-- Storing a row that is already there changes nothing. -/
theorem put_self (h : Distinct key t) (hr : r ∈ t) : put key r t = t :=
  update_eq_self fun _ hx hkey => (h.eq_of_key hx hr (of_decide_eq_true hkey)).symm

/-- An update by key stores the changed row. -/
theorem update_key_eq_put {f : ρ → ρ} (h : Distinct key t) (hr : r ∈ t) (hf : key (f r) = key r) :
    update (fun x => key x = key r) f t = put key (f r) t := by
  rw [put, hf]
  refine List.map_congr_left fun x hx => ?_
  by_cases hk : key x = key r
  · simp [h.eq_of_key hx hr hk]
  · simp [hk]

end Keyed

theorem latest_mem {time : ρ → Nat} {t : List ρ} {r : ρ} (h : latest time t = some r) :
    r ∈ t := by
  suffices hgen : ∀ (l : List ρ) (best : Option ρ), (∀ b, best = some b → b ∈ t) →
      (∀ x ∈ l, x ∈ t) →
      l.foldl (fun best r =>
        match best with
        | none => some r
        | some b => if time b < time r then some r else some b) best = some r → r ∈ t from
    hgen t none (by simp) (fun _ hx => hx) h
  intro l
  induction l with
  | nil => intro best hbest _ h; exact hbest r h
  | cons x l ih =>
      intro best hbest hl h
      refine ih _ ?_ (fun y hy => hl y (List.mem_cons_of_mem x hy)) h
      intro b hb
      cases best with
      | none =>
          obtain rfl : x = b := by simpa using hb
          exact hl x List.mem_cons_self
      | some c =>
          simp only at hb
          split at hb
          · obtain rfl : x = b := by simpa using hb
            exact hl x List.mem_cons_self
          · exact hbest b hb

/-- An update that leaves the times alone leaves the latest row the latest. -/
theorem latest_map {time : ρ → Nat} {f : ρ → ρ} (h : ∀ r, time (f r) = time r) (t : List ρ) :
    latest time (t.map f) = (latest time t).map f := by
  suffices hgen : ∀ (l : List ρ) (best : Option ρ),
      (l.map f).foldl
        (fun best r =>
          match best with
          | none => some r
          | some b => if time b < time r then some r else some b) (best.map f) =
      (l.foldl
        (fun best r =>
          match best with
          | none => some r
          | some b => if time b < time r then some r else some b) best).map f from
    hgen t none
  intro l
  induction l with
  | nil => exact fun _ => rfl
  | cons x l ih =>
      intro best
      rw [List.map_cons, List.foldl_cons, List.foldl_cons, ← ih]
      congr 1
      cases best with
      | none => rfl
      | some b =>
          simp only [Option.map_some, h]
          split
          · rfl
          · rfl

/-! ## Counts -/

/-- An update that keeps the counted property of every row keeps the count. -/
theorem countP_update_of_keep {p q : ρ → Bool} {f : ρ → ρ} (t : List ρ)
    (h : ∀ r ∈ t, p r = true → q (f r) = q r) : (update p f t).countP q = t.countP q := by
  rw [update, List.countP_map]
  refine List.countP_congr fun r hr => ?_
  by_cases hp : p r = true
  · simp [hp, h r hr hp]
  · simp [hp]

/-- `put` moves a count from what the old row counts for to what the new one does. -/
theorem Distinct.countP_put [DecidableEq κ] {key : ρ → κ} {t : List ρ} (h : Distinct key t)
    {q : ρ → Bool} {r r' : ρ} (hr : r ∈ t) (hkey : key r' = key r) :
    (Relational.put key r' t).countP q + (q r).toNat = t.countP q + (q r').toNat := by
  obtain ⟨before, after, rfl⟩ := List.append_of_mem hr
  rw [h.put_append_cons hkey]
  simp only [List.countP_append, List.countP_cons]
  cases q r <;> cases q r' <;> simp <;> omega

/-! ## Sums -/

section Sum

variable {M : Type} [AddCommMonoid M]

/-- `SUM(g) … WHERE p` is a sum over all rows, those outside counting for nothing. -/
theorem sum_map_filter (p : ρ → Bool) (g : ρ → M) (t : List ρ) :
    ((t.filter p).map g).sum = (t.map fun r => if p r then g r else 0).sum := by
  induction t with
  | nil => rfl
  | cons r t ih =>
      rw [List.filter_cons]
      split
      · next hp => simp [hp, ih]
      · next hp => simp [hp, ih]

/-- `put` moves a sum from what the old row adds to what the new one does. -/
theorem Distinct.sum_put [DecidableEq κ] {key : ρ → κ} {t : List ρ} (h : Distinct key t) (g : ρ → M)
    {r r' : ρ} (hr : r ∈ t) (hkey : key r' = key r) :
    ((Relational.put key r' t).map g).sum + g r = (t.map g).sum + g r' := by
  obtain ⟨before, after, rfl⟩ := List.append_of_mem hr
  rw [h.put_append_cons hkey]
  simp only [List.map_append, List.map_cons, List.sum_append, List.sum_cons]
  abel

end Sum

/-! ## Joins -/

section Join

variable {ρ' : Type} {on : ρ → ρ' → Bool} {q : ρ × ρ' → Bool}

theorem countP_join (l : List ρ) (r : List ρ') :
    (join on l r).countP q = (l.map fun a => r.countP fun b => on a b && q (a, b)).sum := by
  induction l with
  | nil => rfl
  | cons a l ih =>
      rw [join, List.flatMap_cons, List.countP_append, ← join, ih, List.map_cons, List.sum_cons]
      congr 1
      rw [List.countP_map, List.countP_filter]
      refine List.countP_congr fun b _ => ?_
      simp [and_comm]

theorem sum_countP_cons (c : ρ → ρ' → Bool) (l : List ρ) (b : ρ') (r : List ρ') :
    (l.map fun a => (b :: r).countP (c a)).sum =
      l.countP (fun a => c a b) + (l.map fun a => r.countP (c a)).sum := by
  induction l with
  | nil => rfl
  | cons a l ih =>
      rw [List.map_cons, List.map_cons, List.sum_cons, List.sum_cons, ih, List.countP_cons,
        List.countP_cons]
      omega

/-- When every row on the right matches as many rows on the left as it counts
for, the join counts like the right side alone. -/
theorem countP_join_right (l : List ρ) (r : List ρ') (p : ρ' → Bool)
    (h : ∀ b ∈ r, (l.countP fun a => on a b && q (a, b)) = (p b).toNat) :
    (join on l r).countP q = r.countP p := by
  rw [countP_join]
  induction r with
  | nil => simp
  | cons b r ih =>
      rw [sum_countP_cons (fun a b => on a b && q (a, b)), h b List.mem_cons_self,
        ih fun b' hb' => h b' (List.mem_cons_of_mem b hb'), List.countP_cons]
      cases p b <;> simp [Nat.add_comm]

/-- A row with a key is counted once among the rows with that key. -/
theorem Distinct.countP_key [DecidableEq κ] {key : ρ → κ} {t : List ρ} (h : Distinct key t) {r : ρ}
    (hr : r ∈ t) (p : ρ → Bool) :
    (t.countP fun x => decide (key x = key r) && p x) = (p r).toNat := by
  have hcongr : (t.countP fun x => decide (key x = key r) && p x)
      = t.countP fun x => decide (key x = key r) && p r := by
    refine List.countP_congr fun x hx => ?_
    by_cases hk : key x = key r
    · rw [h.eq_of_key hx hr hk]
    · simp [hk]
  rw [hcongr]
  cases p r with
  | false => simp
  | true =>
      have hcount : t.countP (fun x => decide (key x = key r)) = (t.map key).count (key r) := by
        rw [List.count_eq_countP, List.countP_map]
        rfl
      simp only [Bool.and_true, Bool.toNat_true]
      rw [hcount]
      exact List.count_eq_one_of_mem h (List.mem_map_of_mem hr)

end Join

/-- A filter holds at most one row when any two rows that pass it are equal. -/
theorem filter_length_le_one {p : ρ → Bool} {t : List ρ} (hnd : t.Nodup)
    (h : ∀ a ∈ t, ∀ b ∈ t, p a = true → p b = true → a = b) : (t.filter p).length ≤ 1 := by
  by_contra hlen
  obtain ⟨a, b, rest, hab⟩ : ∃ a b rest, t.filter p = a :: b :: rest := by
    match hf : t.filter p with
    | [] => simp [hf] at hlen
    | [a] => simp [hf] at hlen
    | a :: b :: rest => exact ⟨a, b, rest, rfl⟩
  have hnd' : (a :: b :: rest).Nodup := hab ▸ hnd.filter p
  have ha : a ∈ t.filter p := by simp [hab]
  have hb : b ∈ t.filter p := by simp [hab]
  rw [List.mem_filter] at ha hb
  have heq := h a ha.1 b hb.1 ha.2 hb.2
  subst heq
  simp at hnd'

theorem Distinct.filter_key_length [DecidableEq κ] {key : ρ → κ} {t : List ρ} (h : Distinct key t)
    (p : ρ → Bool) (k : κ) : (t.filter fun r => p r && decide (key r = k)).length ≤ 1 := by
  refine filter_length_le_one h.nodup fun a ha b hb hpa hpb => ?_
  simp only [Bool.and_eq_true, decide_eq_true_eq] at hpa hpb
  exact h.eq_of_key ha hb (hpa.2.trans hpb.2.symm)

theorem Distinct.filter_key [DecidableEq κ] {key : ρ → κ} {t : List ρ} (h : Distinct key t) {r : ρ}
    (hr : r ∈ t) : (t.filter fun x => decide (key x = key r)) = [r] := by
  have hlength := h.filter_key_length (fun _ => true) (key r)
  simp only [Bool.true_and] at hlength
  have hmem : r ∈ t.filter fun x => decide (key x = key r) := by simp [hr]
  match hrows : t.filter fun x => decide (key x = key r) with
  | [] => simp [hrows] at hmem
  | [x] =>
      rw [hrows, List.mem_singleton] at hmem
      rw [hmem]
  | x :: y :: rows =>
      rw [hrows] at hlength
      simp at hlength

/-! ## Generated keys -/

/-- Keys drawn from a counter: none is used twice, and all are below the next one. -/
structure Serial (key : ρ → Nat) (next : Nat) (t : List ρ) : Prop where
  distinct : Distinct key t
  below : ∀ r ∈ t, key r < next

namespace Serial

variable {key : ρ → Nat} {next next' : Nat} {t : List ρ}

theorem nil (key : ρ → Nat) (next : Nat) : Serial key next [] := ⟨List.nodup_nil, by simp⟩

theorem mono (h : Serial key next t) (hle : next ≤ next') : Serial key next' t :=
  ⟨h.distinct, fun r hr => (h.below r hr).trans_le hle⟩

theorem update (h : Serial key next t) {p : ρ → Bool} {f : ρ → ρ}
    (hkey : ∀ r, key (f r) = key r) : Serial key next (update p f t) where
  distinct := h.distinct.update fun r _ _ => hkey r
  below := by
    intro r hr
    obtain ⟨r', hr', rfl⟩ := mem_update.mp hr
    split
    · rw [hkey]
      exact h.below r' hr'
    · exact h.below r' hr'

/-- New rows take the next keys. -/
theorem append (h : Serial key next t) {rows : List ρ}
    (hrows : rows.map key = List.range' next rows.length) :
    Serial key (next + rows.length) (t ++ rows) where
  distinct := by
    rw [Distinct, List.map_append, hrows, List.nodup_append]
    refine ⟨h.distinct, List.nodup_range', fun a ha b hb => ?_⟩
    obtain ⟨r, hr, rfl⟩ := List.mem_map.mp ha
    exact ((h.below r hr).trans_le (List.mem_range'_1.mp hb).1).ne
  below := by
    intro r hr
    rcases List.mem_append.mp hr with hr | hr
    · exact (h.below r hr).trans_le (Nat.le_add_right _ _)
    · have hmem : key r ∈ List.range' next rows.length := hrows ▸ List.mem_map_of_mem hr
      exact (List.mem_range'_1.mp hmem).2

theorem insert (h : Serial key next t) {r : ρ} (hr : key r = next) :
    Serial key (next + 1) (t ++ [r]) := by
  have hkeys : [r].map key = List.range' next [r].length := by simp [hr]
  exact h.append hkeys

end Serial

end Relational
