import Mathlib.Logic.Relation
import Mathlib.Data.Set.Basic
import Locoomo.Lib.Table

/-! Transactions that take exclusive locks one after the other and keep them to
their end. A transaction whose next lock another one holds waits for it. A
deadlock is a set of transactions each of which waits for one in the set. -/

namespace Locks

open Relational

/-! ## Sets that wait for themselves -/

section Deadlocks

variable {τ : Type} {waits waits' : τ → τ → Prop}

/-- Each party of the set waits for one in it. -/
def Deadlocked (waits : τ → τ → Prop) : Prop :=
  ∃ S : Set τ, S.Nonempty ∧ ∀ t ∈ S, ∃ t' ∈ S, waits t t'

theorem Deadlocked.mono (h : Deadlocked waits) (hle : ∀ t t', waits t t' → waits' t t') :
    Deadlocked waits' := by
  obtain ⟨S, hne, hS⟩ := h
  refine ⟨S, hne, fun t ht => ?_⟩
  obtain ⟨t', ht', hwait⟩ := hS t ht
  exact ⟨t', ht', hle t t' hwait⟩

/-- A way round from `c` to `a` and back. -/
theorem deadlocked_of_ring {a c : τ} (hac : waits a c)
    (hca : Relation.ReflTransGen waits c a) : Deadlocked waits := by
  refine ⟨{t | Relation.ReflTransGen waits t a}, ⟨c, hca⟩, fun t ht => ?_⟩
  rcases Relation.ReflTransGen.cases_head ht with rfl | ⟨t', htt', ht'⟩
  · exact ⟨c, hca, hac⟩
  · exact ⟨t', ht', htt'⟩

/-- **What new waits close.** Waits that all are for `c` close a ring only where
there is a way from `c` back to one that now waits for it. -/
theorem ring_of_deadlocked (c : τ) (new : τ → Prop) (hfree : ¬ Deadlocked waits)
    (hwaits : ∀ t t', waits' t t' → waits t t' ∨ t' = c ∧ new t) (h : Deadlocked waits') :
    ∃ a, new a ∧ Relation.ReflTransGen waits c a := by
  obtain ⟨S, ⟨s, hs⟩, hS⟩ := h
  by_contra hno
  have hopen : ∀ a, new a → ¬ Relation.ReflTransGen waits c a := fun a ha hca => hno ⟨a, ha, hca⟩
  by_cases hc : c ∈ S
  · -- what can be reached from `c` waits in the old ways
    refine hfree ⟨{t | t ∈ S ∧ Relation.ReflTransGen waits c t}, ⟨c, hc, .refl⟩, ?_⟩
    rintro t ⟨ht, hct⟩
    obtain ⟨t', ht', hwait⟩ := hS t ht
    rcases hwaits t t' hwait with hold | ⟨-, hnew⟩
    · exact ⟨t', ⟨ht', hct.tail hold⟩, hold⟩
    · exact absurd hct (hopen t hnew)
  · refine hfree ⟨S, ⟨s, hs⟩, fun t ht => ?_⟩
    obtain ⟨t', ht', hwait⟩ := hS t ht
    rcases hwaits t t' hwait with hold | ⟨rfl, -⟩
    · exact ⟨t', ht', hold⟩
    · exact absurd ht' hc

end Deadlocks

/-! ## Transactions -/

variable {κ : Type}

/-- A transaction: the locks it asks for, how many of them it has taken, and
whether it waits for the next. -/
structure Tx (κ : Type) where
  id : Nat
  script : List κ
  taken : Nat
  waiting : Bool
  deriving DecidableEq, Repr

def Tx.held (t : Tx κ) : List κ := t.script.take t.taken

def Tx.next (t : Tx κ) : Option κ := t.script[t.taken]?

section Steps

variable [DecidableEq κ]

/-- Another transaction holds the lock. -/
def busy (w : List (Tx κ)) (id : Nat) (k : κ) : Bool :=
  w.any fun t => decide (t.id ≠ id) && decide (k ∈ t.held)

def start (w : List (Tx κ)) (id : Nat) (script : List κ) : List (Tx κ) :=
  if w.any fun t => t.id = id then w else w ++ [⟨id, script, 0, false⟩]

/-- The next lock is asked for, once or again; one that is held already is not
waited for. -/
def lock (w : List (Tx κ)) (id : Nat) : List (Tx κ) :=
  match get Tx.id id w with
  | none => w
  | some t =>
      match t.next with
      | none => w
      | some k =>
          if busy w id k then put Tx.id { t with waiting := true } w
          else put Tx.id { t with taken := t.taken + 1, waiting := false } w

/-- A transaction commits, or fails and is rolled back; one that waits does
neither. -/
def finish (w : List (Tx κ)) (id : Nat) : List (Tx κ) :=
  match get Tx.id id w with
  | none => w
  | some t => if t.waiting then w else w.filter fun x => x.id ≠ id

end Steps

def Holds (w : List (Tx κ)) (id : Nat) (k : κ) : Prop := ∃ t ∈ w, t.id = id ∧ k ∈ t.held

def Waits (w : List (Tx κ)) (id : Nat) (k : κ) : Prop :=
  ∃ t ∈ w, t.id = id ∧ t.waiting = true ∧ t.next = some k

instance [DecidableEq κ] (w : List (Tx κ)) (id : Nat) (k : κ) : Decidable (Holds w id k) :=
  inferInstanceAs (Decidable (∃ t ∈ w, _))

instance [DecidableEq κ] (w : List (Tx κ)) (id : Nat) (k : κ) : Decidable (Waits w id k) :=
  inferInstanceAs (Decidable (∃ t ∈ w, _))

def WaitsFor (w : List (Tx κ)) (id id' : Nat) : Prop := ∃ k, Waits w id k ∧ Holds w id' k

/-- No lock is held twice, nor waited for by its holder. -/
structure Sound (w : List (Tx κ)) : Prop where
  distinct : Distinct Tx.id w
  exclusive : ∀ a b k, Holds w a k → Holds w b k → a = b
  waits : ∀ id k, Waits w id k → ¬ Holds w id k

section Facts

variable {w : List (Tx κ)} {t : Tx κ} {id : Nat} {k : κ}

theorem Sound.nil : Sound ([] : List (Tx κ)) := by
  refine ⟨List.nodup_nil, ?_, ?_⟩
  · rintro a b k ⟨t, ht, -⟩
    cases ht
  · rintro id k ⟨t, ht, -⟩
    cases ht

/-- A transaction that is stored has what it has. -/
theorem exists_put_iff (ht : t ∈ w) (t' : Tx κ) (hid : t'.id = t.id) (id : Nat) (p : Tx κ → Prop) :
    (∃ x ∈ put Tx.id t' w, x.id = id ∧ p x) ↔
      (id = t.id ∧ p t') ∨ (id ≠ t.id ∧ ∃ x ∈ w, x.id = id ∧ p x) := by
  constructor
  · rintro ⟨x, hx, rfl, hp⟩
    rcases mem_put.mp hx with ⟨rfl, -⟩ | ⟨hx, hne⟩
    · exact Or.inl ⟨hid, hp⟩
    · exact Or.inr ⟨hid ▸ hne, x, hx, rfl, hp⟩
  · rintro (⟨rfl, hp⟩ | ⟨hne, x, hx, rfl, hp⟩)
    · exact ⟨t', mem_put.mpr (Or.inl ⟨rfl, t, ht, hid.symm⟩), hid, hp⟩
    · exact ⟨x, mem_put.mpr (Or.inr ⟨hx, hid ▸ hne⟩), rfl, hp⟩

theorem exists_self_iff (hd : Distinct Tx.id w) (ht : t ∈ w) {p : Tx κ → Prop} :
    (∃ x ∈ w, x.id = t.id ∧ p x) ↔ p t := by
  constructor
  · rintro ⟨x, hx, hid, hp⟩
    exact hd.eq_of_key hx ht hid ▸ hp
  · exact fun hp => ⟨t, ht, rfl, hp⟩

/-- What is held when the next lock has been taken. -/
theorem mem_held_succ (hnext : t.next = some k) {x : κ} :
    x ∈ ({ t with taken := t.taken + 1, waiting := false } : Tx κ).held ↔ x ∈ t.held ∨ x = k := by
  have hget : t.script[t.taken]? = some k := hnext
  simp [Tx.held, List.take_add_one, hget, eq_comm]

/-! ### One action -/

/-- What a transaction does in taking its next lock: nothing, take it, or wait. -/
inductive Took (w w' : List (Tx κ)) (id : Nat) : Prop
  | idle (none : ∀ t ∈ w, t.id = id → t.next = none) (same : w' = w)
  | took (t : Tx κ) (k : κ) (mem : t ∈ w) (self : t.id = id) (next : t.next = some k)
      (free : ∀ a, a ≠ id → ¬ Holds w a k)
      (holds : ∀ a x, Holds w' a x ↔ Holds w a x ∨ a = id ∧ x = k)
      (waits : ∀ a x, Waits w' a x ↔ a ≠ id ∧ Waits w a x)
  | waited (t : Tx κ) (k : κ) (mem : t ∈ w) (self : t.id = id) (next : t.next = some k)
      (holder : Nat) (other : holder ≠ id) (held : Holds w holder k)
      (holds : ∀ a x, Holds w' a x ↔ Holds w a x)
      (waits : ∀ a x, Waits w' a x ↔ Waits w a x ∨ a = id ∧ x = k)

/-- A transaction that has just begun holds nothing and waits for nothing. -/
theorem start_cases (w : List (Tx κ)) (id : Nat) (script : List κ) :
    (∀ a x, Holds (start w id script) a x ↔ Holds w a x) ∧
      ∀ a x, Waits (start w id script) a x ↔ Waits w a x := by
  unfold start
  split
  · exact ⟨fun _ _ => Iff.rfl, fun _ _ => Iff.rfl⟩
  · refine ⟨fun a x => ?_, fun a x => ?_⟩
    · simp [Holds, Tx.held, or_and_right, exists_or]
    · simp [Waits, or_and_right, exists_or]

/-- The end of a transaction lets go of what it held. -/
theorem finish_cases (w : List (Tx κ)) (id : Nat) :
    (∀ a x, Holds (finish w id) a x → Holds w a x) ∧
      ∀ a x, Waits (finish w id) a x → Waits w a x := by
  unfold finish
  split
  · exact ⟨fun _ _ => fun h => h, fun _ _ => fun h => h⟩
  · split
    · exact ⟨fun _ _ => fun h => h, fun _ _ => fun h => h⟩
    · refine ⟨?_, ?_⟩
      · rintro a x ⟨t, ht, h⟩
        exact ⟨t, List.mem_of_mem_filter ht, h⟩
      · rintro a x ⟨t, ht, h⟩
        exact ⟨t, List.mem_of_mem_filter ht, h⟩

theorem sound_start (hs : Sound w) (id : Nat) (script : List κ) : Sound (start w id script) := by
  obtain ⟨hholds, hwaits⟩ := start_cases w id script
  refine ⟨?_, ?_, ?_⟩
  · unfold start
    split
    · exact hs.distinct
    · next hnew =>
        refine hs.distinct.append_singleton fun x hx hid => hnew ?_
        exact List.any_eq_true.mpr ⟨x, hx, decide_eq_true hid⟩
  · simpa only [hholds] using hs.exclusive
  · simpa only [hholds, hwaits] using hs.waits

theorem sound_finish (hs : Sound w) (id : Nat) : Sound (finish w id) := by
  obtain ⟨hholds, hwaits⟩ := finish_cases w id
  refine ⟨?_, ?_, ?_⟩
  · unfold finish
    split
    · exact hs.distinct
    · split
      · exact hs.distinct
      · exact hs.distinct.filter _
  · exact fun a b k ha hb => hs.exclusive a b k (hholds a k ha) (hholds b k hb)
  · exact fun a k ha hheld => hs.waits a k (hwaits a k ha) (hholds a k hheld)

/-- Who takes a lock waits for nobody: no ring is closed. -/
theorem deadlocked_of_took {w' : List (Tx κ)}
    (holds : ∀ a x, Holds w' a x ↔ Holds w a x ∨ a = id ∧ x = k)
    (waits : ∀ a x, Waits w' a x ↔ a ≠ id ∧ Waits w a x) (h : Deadlocked (WaitsFor w')) :
    Deadlocked (WaitsFor w) := by
  obtain ⟨S, hne, hS⟩ := h
  have hself : ∀ a ∈ S, a ≠ id := by
    intro a ha
    obtain ⟨b, -, x, hwait, -⟩ := hS a ha
    exact ((waits a x).mp hwait).1
  refine ⟨S, hne, fun a ha => ?_⟩
  obtain ⟨b, hb, x, hwait, hheld⟩ := hS a ha
  refine ⟨b, hb, x, ((waits a x).mp hwait).2, ?_⟩
  exact ((holds b x).mp hheld).resolve_right fun h => hself b hb h.1

/-! ### Scripts -/

theorem script_start {id : Nat} {script : List κ} (h : t ∈ start w id script) :
    t ∈ w ∨ t.script = script := by
  unfold start at h
  split at h
  · exact Or.inl h
  · rcases List.mem_append.mp h with h | h
    · exact Or.inl h
    · obtain rfl := List.mem_singleton.mp h
      exact Or.inr rfl

theorem script_finish {id : Nat} (h : t ∈ finish w id) : t ∈ w := by
  unfold finish at h
  split at h
  · exact h
  · split at h
    · exact h
    · exact List.mem_of_mem_filter h

variable [DecidableEq κ]

theorem script_lock {id : Nat} (h : t ∈ lock w id) : ∃ t' ∈ w, t'.script = t.script := by
  unfold lock at h
  split at h
  · exact ⟨t, h, rfl⟩
  · next t₀ hget =>
      have hput : ∀ t', t'.script = t₀.script → t ∈ put Tx.id t' w →
          ∃ t' ∈ w, t'.script = t.script := by
        intro t' hscript hmem
        rcases mem_put.mp hmem with ⟨rfl, -⟩ | ⟨hmem, -⟩
        · exact ⟨t₀, (get_some hget).1, hscript.symm⟩
        · exact ⟨t, hmem, rfl⟩
      split at h
      · exact ⟨t, h, rfl⟩
      · split at h
        · exact hput { t₀ with waiting := true } rfl h
        · exact hput { t₀ with taken := t₀.taken + 1, waiting := false } rfl h

/-! ### Taking a lock -/

theorem busy_iff : busy w id k = true ↔ ∃ a, a ≠ id ∧ Holds w a k := by
  simp only [busy, List.any_eq_true, Bool.and_eq_true, decide_eq_true_eq]
  constructor
  · rintro ⟨t, ht, hne, hk⟩
    exact ⟨t.id, hne, t, ht, rfl, hk⟩
  · rintro ⟨_, hne, t, ht, rfl, hk⟩
    exact ⟨t, ht, hne, hk⟩

theorem lock_cases (hd : Distinct Tx.id w) (id : Nat) : Took w (lock w id) id := by
  unfold lock
  cases hget : get Tx.id id w with
  | none => exact .idle (fun t ht hid => absurd hid (get_eq_none.mp hget t ht)) rfl
  | some t =>
      obtain ⟨ht, rfl⟩ := get_some hget
      cases hnext : t.next with
      | none =>
          have hself : ∀ x ∈ w, x.id = t.id → x.next = none := by
            intro x hx hid
            rw [hd.eq_of_key hx ht hid, hnext]
          simpa only [hnext] using Took.idle hself rfl
      | some k =>
          simp only [hnext]
          by_cases hbusy : busy w t.id k = true
          · rw [if_pos hbusy]
            obtain ⟨holder, hother, hheld⟩ := busy_iff.mp hbusy
            refine .waited t k ht rfl hnext holder hother hheld ?_ ?_
            · intro a x
              have hput := exists_put_iff ht { t with waiting := true } rfl a fun t => x ∈ t.held
              refine hput.trans ?_
              by_cases ha : a = t.id
              · subst ha
                have hself : Holds w t.id x ↔ x ∈ t.held := exists_self_iff hd ht
                simp [hself, Tx.held]
              · simp [ha, Holds]
            · intro a x
              refine (exists_put_iff ht { t with waiting := true } rfl a fun t =>
                t.waiting = true ∧ t.next = some x).trans ?_
              by_cases ha : a = t.id
              · subst ha
                have hself : Waits w t.id x ↔ t.waiting = true ∧ t.next = some x :=
                  exists_self_iff hd ht
                have hnext' : ({ t with waiting := true } : Tx κ).next = some k := hnext
                rw [hself, hnext, hnext', Option.some.injEq, @eq_comm _ k]
                tauto
              · simp [ha, Waits]
          · rw [if_neg hbusy]
            refine .took t k ht rfl hnext ?_ ?_ ?_
            · exact fun a hne hheld => hbusy (busy_iff.mpr ⟨a, hne, hheld⟩)
            · intro a x
              refine (exists_put_iff ht { t with taken := t.taken + 1, waiting := false } rfl a
                fun t => x ∈ t.held).trans ?_
              by_cases ha : a = t.id
              · subst ha
                have hself : Holds w t.id x ↔ x ∈ t.held := exists_self_iff hd ht
                rw [mem_held_succ hnext, hself]
                tauto
              · simp [ha, Holds]
            · intro a x
              refine (exists_put_iff ht { t with taken := t.taken + 1, waiting := false } rfl a
                fun t => t.waiting = true ∧ t.next = some x).trans ?_
              simp [Waits]

theorem distinct_lock (hd : Distinct Tx.id w) (id : Nat) : Distinct Tx.id (lock w id) := by
  unfold lock
  split
  · exact hd
  · split
    · exact hd
    · split
      · exact hd.put _
      · exact hd.put _

theorem sound_lock (hs : Sound w) (id : Nat) : Sound (lock w id) := by
  have hd := distinct_lock hs.distinct id
  cases lock_cases hs.distinct id with
  | idle none same => rwa [same]
  | took t k mem self next free holds waits =>
      refine ⟨hd, ?_, ?_⟩
      · intro a b x ha hb
        rcases (holds a x).mp ha with ha' | ⟨rfl, rfl⟩
        · rcases (holds b x).mp hb with hb' | ⟨rfl, rfl⟩
          · exact hs.exclusive a b x ha' hb'
          · exact by_contra fun hne => free a hne ha'
        · rcases (holds b x).mp hb with hb' | ⟨rfl, -⟩
          · exact by_contra fun hne => free b (Ne.symm hne) hb'
          · rfl
      · intro a x ha hheld
        obtain ⟨hne, hwait⟩ := (waits a x).mp ha
        rcases (holds a x).mp hheld with hheld | ⟨rfl, -⟩
        · exact hs.waits a x hwait hheld
        · exact hne rfl
  | waited t k mem self next holder other held holds waits =>
      refine ⟨hd, ?_, ?_⟩
      · simpa only [holds] using hs.exclusive
      · intro a x ha hheld
        rw [holds] at hheld
        rcases (waits a x).mp ha with ha | ⟨rfl, rfl⟩
        · exact hs.waits a x ha hheld
        · exact other (hs.exclusive holder a x held hheld)

end Facts

/-! ## Paths -/

section Paths

variable {seen ahead script : List κ} {x : κ}

/-- The script asks for the locks of `ahead` in their order, and in between for
those it has. -/
def Follows : List κ → List κ → List κ → Prop
  | _, _, [] => True
  | seen, ahead, k :: script =>
      (k ∈ seen ∧ Follows seen ahead script) ∨
        match ahead with
        | [] => False
        | next :: ahead => k = next ∧ Follows (seen ++ [k]) ahead script

/-- Where a script asks for a lock it has not, it has those before it on its path. -/
theorem Follows.split (h : Follows seen ahead script) {n : Nat} (hnext : script[n]? = some x)
    (hseen : x ∉ seen) (htaken : x ∉ script.take n) :
    ∃ pre post, seen ++ ahead = pre ++ x :: post ∧
      ∀ k, k ∈ pre ↔ k ∈ seen ∨ k ∈ script.take n := by
  induction script generalizing seen ahead n with
  | nil => simp at hnext
  | cons y script ih =>
      cases n with
      | zero =>
          obtain rfl : y = x := by simpa using hnext
          cases ahead with
          | nil => exact absurd (h.resolve_right fun h => h).1 hseen
          | cons z ahead =>
              obtain ⟨rfl, -⟩ := h.resolve_left fun h => hseen h.1
              exact ⟨seen, ahead, rfl, by simp⟩
      | succ n =>
          have hnext' : script[n]? = some x := by simpa using hnext
          obtain ⟨hne, htaken'⟩ : x ≠ y ∧ x ∉ script.take n := by simpa using htaken
          rcases h with ⟨hy, h⟩ | h
          · obtain ⟨pre, post, hpath, hmem⟩ := ih h hnext' hseen htaken'
            refine ⟨pre, post, hpath, fun k => ?_⟩
            rw [hmem, List.take_succ_cons, List.mem_cons]
            constructor
            · exact fun hk => hk.imp_right Or.inr
            · rintro (hk | rfl | hk)
              · exact Or.inl hk
              · exact Or.inl hy
              · exact Or.inr hk
          · cases ahead with
            | nil => exact h.elim
            | cons z ahead =>
                obtain ⟨rfl, h⟩ := h
                have hseen' : x ∉ seen ++ [y] := by simp [hseen, hne]
                obtain ⟨pre, post, hpath, hmem⟩ := ih h hnext' hseen' htaken'
                refine ⟨pre, post, by simpa using hpath, fun k => ?_⟩
                rw [hmem, List.take_succ_cons, List.mem_cons, List.mem_append, List.mem_singleton,
                  or_assoc]

end Paths

end Locks
