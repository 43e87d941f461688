import Mathlib.Data.List.Sort

/-! The first match in a sorted list. Sorting is stable, so of several matches
that no other one precedes, the search finds the one that came first; where there
is but one, it does not matter how they came. -/

namespace Choices

variable {α : Type} {r : α → α → Prop} {p : α → Bool} {l l' : List α} {a b : α}

/-- A match that no other match precedes. -/
structure Least (r : α → α → Prop) (p : α → Bool) (l : List α) (a : α) : Prop where
  mem : a ∈ l
  fits : p a = true
  least : ∀ b ∈ l, p b = true → r a b

theorem Least.perm (h : Least r p l a) (hl : l.Perm l') : Least r p l' a :=
  ⟨hl.subset h.mem, h.fits, fun b hb => h.least b (hl.symm.subset hb)⟩

theorem find?_of_sorted [Std.Refl r] (hl : l.Pairwise r) (h : l.find? p = some a) :
    Least r p l a := by
  induction l with
  | nil => simp at h
  | cons b l ih =>
      obtain ⟨hb, hl⟩ := List.pairwise_cons.mp hl
      cases hpb : p b with
      | true =>
          rw [List.find?_cons_of_pos hpb] at h
          obtain rfl := Option.some.inj h
          refine ⟨List.mem_cons_self, hpb, ?_⟩
          intro c hc _
          rcases List.mem_cons.mp hc with rfl | hc
          · exact Std.Refl.refl c
          · exact hb c hc
      | false =>
          rw [List.find?_cons_of_neg (by simp [hpb])] at h
          obtain ⟨hmem, hpa, hleast⟩ := ih hl h
          refine ⟨List.mem_cons_of_mem b hmem, hpa, ?_⟩
          intro c hc hpc
          rcases List.mem_cons.mp hc with rfl | hc
          · simp [hpb] at hpc
          · exact hleast c hc hpc

/-! ## An order on the entries -/

/-- Any two entries of the list compare, and comparing them is transitive. -/
structure OrdersOn (r : α → α → Prop) (l : List α) : Prop where
  total : ∀ a ∈ l, ∀ b ∈ l, r a b ∨ r b a
  trans : ∀ a ∈ l, ∀ b ∈ l, ∀ c ∈ l, r a b → r b c → r a c

theorem OrdersOn.perm (h : OrdersOn r l) (hl : l.Perm l') : OrdersOn r l' where
  total a ha b hb := h.total a (hl.symm.subset ha) b (hl.symm.subset hb)
  trans a ha b hb c hc :=
    h.trans a (hl.symm.subset ha) b (hl.symm.subset hb) c (hl.symm.subset hc)

theorem ordersOn [Std.Total r] [IsTrans α r] (l : List α) : OrdersOn r l where
  total a _ b _ := Std.Total.total a b
  trans _ _ _ _ _ _ hab hbc := IsTrans.trans _ _ _ hab hbc

/-- The order of the entries, with everything else put behind them. -/
def within (r : α → α → Prop) (l : List α) (a b : α) : Prop := b ∈ l → a ∈ l ∧ r a b

theorem OrdersOn.within_total (h : OrdersOn r l) : Std.Total (within r l) where
  total a b := by
    by_cases ha : a ∈ l
    · by_cases hb : b ∈ l
      · rcases h.total a ha b hb with hab | hba
        · exact .inl fun _ => ⟨ha, hab⟩
        · exact .inr fun _ => ⟨hb, hba⟩
      · exact .inl fun hb' => absurd hb' hb
    · exact .inr fun ha' => absurd ha' ha

theorem OrdersOn.within_trans (h : OrdersOn r l) : IsTrans α (within r l) where
  trans a b c hab hbc := by
    intro hc
    obtain ⟨hb, hbc⟩ := hbc hc
    obtain ⟨ha, hab⟩ := hab hb
    exact ⟨ha, h.trans a ha b hb c hc hab hbc⟩

/-! ## The search -/

variable [DecidableRel r]

/-- `[…l].sort(r).find(p)`. -/
def first (r : α → α → Prop) [DecidableRel r] (p : α → Bool) (l : List α) : Option α :=
  (l.insertionSort r).find? p

theorem first_eq_none : first r p l = none ↔ ∀ a ∈ l, p a = false := by
  simp [first]

theorem first_isSome : (first r p l).isSome = true ↔ ∃ a ∈ l, p a = true := by
  simp [first]

/-- A least match, put in front, is found: what is sorted before it is no match. -/
theorem find?_orderedInsert (hp : p a = true) (h : ∀ b ∈ l, p b = true → r a b) :
    (l.orderedInsert r a).find? p = some a := by
  induction l with
  | nil => simp [hp]
  | cons b l ih =>
      by_cases hab : r a b
      · simp [hab, hp]
      · have hb : p b = false := by
          by_contra hb
          exact hab (h b List.mem_cons_self (by simpa using hb))
        rw [List.orderedInsert_of_not_le _ _ hab, List.find?_cons_of_neg (by simp [hb])]
        exact ih fun c hc => h c (List.mem_cons_of_mem b hc)

/-- Of the least matches every one is found for some order of the list. -/
theorem Least.first_cons (h : Least r p (a :: l) a) : first r p (a :: l) = some a := by
  refine find?_orderedInsert h.fits fun b hb hpb => ?_
  exact h.least b (List.mem_cons_of_mem a ((List.mem_insertionSort r).mp hb)) hpb

theorem orderedInsert_congr {r' : α → α → Prop} [DecidableRel r'] (h : ∀ b ∈ l, r a b ↔ r' a b) :
    l.orderedInsert r a = l.orderedInsert r' a := by
  induction l with
  | nil => rfl
  | cons b l ih =>
      have hb := h b List.mem_cons_self
      have htail := ih fun c hc => h c (List.mem_cons_of_mem b hc)
      by_cases hab : r a b
      · simp [hab, hb.mp hab]
      · simp [hab, mt hb.mpr hab, htail]

/-- Sorting looks at the order between the entries only. -/
theorem insertionSort_congr {r' : α → α → Prop} [DecidableRel r']
    (h : ∀ a ∈ l, ∀ b ∈ l, r a b ↔ r' a b) : l.insertionSort r = l.insertionSort r' := by
  induction l with
  | nil => rfl
  | cons a l ih =>
      have htail := ih fun b hb c hc =>
        h b (List.mem_cons_of_mem a hb) c (List.mem_cons_of_mem a hc)
      rw [List.insertionSort_cons, List.insertionSort_cons, htail]
      refine orderedInsert_congr fun b hb => ?_
      exact h a List.mem_cons_self b (List.mem_cons_of_mem a ((List.mem_insertionSort r').mp hb))

/-- **What is found is a least match.** -/
theorem least_of_first (hr : OrdersOn r l) (h : first r p l = some a) : Least r p l a := by
  classical
  have := hr.within_total
  have := hr.within_trans
  have hsort : l.insertionSort r = l.insertionSort (within r l) :=
    insertionSort_congr fun a ha b hb => ⟨fun hab _ => ⟨ha, hab⟩, fun hab => (hab hb).2⟩
  rw [first, hsort] at h
  have hleast := find?_of_sorted (List.pairwise_insertionSort (within r l) l) h
  obtain ⟨hmem, hfits, hleast⟩ := hleast.perm (List.perm_insertionSort (within r l) l)
  exact ⟨hmem, hfits, fun b hb hpb => (hleast b hb hpb hb).2⟩

/-- The only least match is found. -/
theorem Least.first_eq (h : Least r p l a) (hr : OrdersOn r l)
    (hone : ∀ b, Least r p l b → b = a) : first r p l = some a := by
  obtain ⟨b, hb⟩ : ∃ b, first r p l = some b :=
    Option.isSome_iff_exists.mp (first_isSome.mpr ⟨a, h.mem, h.fits⟩)
  rw [hb, hone b (least_of_first hr hb)]

/-- Where no two matches tie, every order of the list gives the same. -/
theorem first_perm (hr : OrdersOn r l)
    (hone : ∀ a b, Least r p l a → Least r p l b → a = b) {l₁ l₂ : List α} (h₁ : l₁.Perm l)
    (h₂ : l₂.Perm l) : first r p l₁ = first r p l₂ := by
  cases hfirst : first r p l₁ with
  | none =>
      rw [first_eq_none] at hfirst
      exact (first_eq_none.mpr fun a ha => hfirst a (h₁.symm.subset (h₂.subset ha))).symm
  | some a =>
      have ha := (least_of_first (hr.perm h₁.symm) hfirst).perm (h₁.trans h₂.symm)
      refine (ha.first_eq (hr.perm h₂.symm) fun b hb => ?_).symm
      exact hone b a (hb.perm h₂) (ha.perm h₂)

/-- With fewer matches, nothing earlier is found. -/
theorem first_mono (hr : OrdersOn r l) {q : α → Bool} (hpq : ∀ a ∈ l, q a = true → p a = true)
    (h : first r q l = some b) : ∃ a, first r p l = some a ∧ r a b := by
  have hb := least_of_first hr h
  have hpb := hpq b hb.mem hb.fits
  obtain ⟨a, ha⟩ : ∃ a, first r p l = some a :=
    Option.isSome_iff_exists.mp (first_isSome.mpr ⟨b, hb.mem, hpb⟩)
  exact ⟨a, ha, (least_of_first hr ha).least b hb.mem hpb⟩

/-- **The order of the list does not matter** just when there is one least match
at most. -/
theorem first_perm_iff [DecidableEq α] (hr : OrdersOn r l) :
    (∀ l₁ l₂, l₁.Perm l → l₂.Perm l → first r p l₁ = first r p l₂) ↔
      ∀ a b, Least r p l a → Least r p l b → a = b := by
  constructor
  · intro h a b ha hb
    have hfront : ∀ {c}, Least r p l c → ∃ l', l'.Perm l ∧ first r p l' = some c := by
      intro c hc
      have hperm : (c :: l.erase c).Perm l := (List.perm_cons_erase hc.mem).symm
      exact ⟨_, hperm, (hc.perm hperm.symm).first_cons⟩
    obtain ⟨l₁, h₁, hfirst₁⟩ := hfront ha
    obtain ⟨l₂, h₂, hfirst₂⟩ := hfront hb
    have heq := h l₁ l₂ h₁ h₂
    rw [hfirst₁, hfirst₂] at heq
    exact Option.some.inj heq
  · exact fun hone l₁ l₂ h₁ h₂ => first_perm hr hone h₁ h₂

/-- Every order of the entries kept is what some order of the list keeps. -/
theorem exists_filter_eq (q : α → Bool) (h : l'.Perm (l.filter q)) :
    ∃ l₁ : List α, l₁.Perm l ∧ l₁.filter q = l' := by
  have hkept : l'.filter q = l' :=
    List.filter_eq_self.mpr fun a ha => List.of_mem_filter (h.subset ha)
  refine ⟨l' ++ l.filter fun a => !q a, ?_, ?_⟩
  · exact (h.append_right _).trans (List.filter_append_perm q l)
  · rw [List.filter_append, hkept, List.filter_filter]
    simp

/-- The same, where the list is filtered first. -/
theorem first_filter_perm_iff [DecidableEq α] (q : α → Bool) (hr : OrdersOn r (l.filter q)) :
    (∀ l₁ l₂ : List α, l₁.Perm l → l₂.Perm l → first r p (l₁.filter q) = first r p (l₂.filter q)) ↔
      ∀ a b, Least r p (l.filter q) a → Least r p (l.filter q) b → a = b := by
  rw [← first_perm_iff hr]
  constructor
  · intro h l₁ l₂ h₁ h₂
    obtain ⟨m₁, hm₁, rfl⟩ := exists_filter_eq q h₁
    obtain ⟨m₂, hm₂, rfl⟩ := exists_filter_eq q h₂
    exact h m₁ m₂ hm₁ hm₂
  · intro h l₁ l₂ h₁ h₂
    exact h _ _ (h₁.filter q) (h₂.filter q)

end Choices
