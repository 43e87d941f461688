import Locoomo.Lib.Runs
import Locoomo.Lib.Tx

/-! Transactions side by side, one statement at a time. A statement sees the
committed state under the writes of its own transaction; a commit puts those
writes on the state committed by then. An insert of a unique key that another
transaction has inserted and not yet committed waits for that transaction to
end. Row locks are left out: every schedule they allow is a schedule here. -/

namespace ReadCommitted

variable {σ ε α κ : Type}

/-- A call of a transaction: under way with what is left of it, its writes so
far and the unique keys it has inserted; or at its end. -/
inductive Call (σ ε α κ : Type) : Type
  | running (rest : Tx σ ε α) (writes : σ → σ) (held : List κ)
  | committed (a : α)
  | failed

def Call.held : Call σ ε α κ → List κ
  | .running _ _ held => held
  | .committed _ | .failed => []

def Call.isRunning : Call σ ε α κ → Bool
  | .running _ _ _ => true
  | .committed _ | .failed => false

structure World (σ ε α κ : Type) : Type where
  db : σ
  calls : List (Call σ ε α κ)

/-- The unique index, and what an aborted transaction leaves behind. -/
structure Rules (σ ε κ : Type) : Type where
  keys : σ → List κ
  onAbort : σ → ε → σ

/-- One statement of a call, or its connection lost. -/
inductive Action
  | step (i : Nat)
  | crash (i : Nat)
  deriving DecidableEq

/-- All calls made, none begun. -/
def opened (db : σ) (programs : List (Tx σ ε α)) : World σ ε α κ where
  db := db
  calls := programs.map fun p => .running p id []

section Exec

variable [DecidableEq κ] (R : Rules σ ε κ)

/-- The keys a statement adds to the index. -/
def inserted (view view' : σ) : List κ := (R.keys view').filter fun k => k ∉ R.keys view

theorem inserted_self (view : σ) : inserted R view view = [] := by
  rw [inserted, List.filter_eq_nil_iff]
  intro k hk
  simpa using hk

/-- Another call holds one of the keys. -/
def waits (keys : List κ) (others : List (Call σ ε α κ)) : Bool :=
  others.any fun c => c.held.any fun k => k ∈ keys

def exec (w : World σ ε α κ) : Action → World σ ε α κ
  | .step i =>
      match w.calls[i]? with
      | some (.running (.ret a) writes _) => ⟨writes w.db, w.calls.set i (.committed a)⟩
      | some (.running (.abort e) _ _) => ⟨R.onAbort w.db e, w.calls.set i .failed⟩
      | some (.running (.stmt change next) writes held) =>
          let view := writes w.db
          let keys := inserted R view (change view)
          if waits keys (w.calls.eraseIdx i) then w
          else ⟨w.db, w.calls.set i (.running (next view) (change ∘ writes) (held ++ keys))⟩
      | _ => w
  | .crash i =>
      match w.calls[i]? with
      | some (.running _ _ _) => ⟨w.db, w.calls.set i .failed⟩
      | _ => w

/-- Everything an action can do. -/
inductive Step (w : World σ ε α κ) : World σ ε α κ → Prop
  | stays : Step w w
  | moves {i : Nat} {change : σ → σ} {next : σ → Tx σ ε α} {writes : σ → σ} {held : List κ}
      (hi : w.calls[i]? = some (.running (.stmt change next) writes held))
      (hfree : ∀ j c, j ≠ i → w.calls[j]? = some c → ∀ k ∈ c.held,
        k ∉ inserted R (writes w.db) (change (writes w.db))) :
      Step w ⟨w.db, w.calls.set i (.running (next (writes w.db)) (change ∘ writes)
        (held ++ inserted R (writes w.db) (change (writes w.db))))⟩
  | commits {i : Nat} {a : α} {writes : σ → σ} {held : List κ}
      (hi : w.calls[i]? = some (.running (.ret a) writes held)) :
      Step w ⟨writes w.db, w.calls.set i (.committed a)⟩
  | aborts {i : Nat} {e : ε} {writes : σ → σ} {held : List κ}
      (hi : w.calls[i]? = some (.running (.abort e) writes held)) :
      Step w ⟨R.onAbort w.db e, w.calls.set i .failed⟩
  | crashes {i : Nat} {rest : Tx σ ε α} {writes : σ → σ} {held : List κ}
      (hi : w.calls[i]? = some (.running rest writes held)) :
      Step w ⟨w.db, w.calls.set i .failed⟩

theorem free_of_not_waits {keys : List κ} {calls : List (Call σ ε α κ)} {i : Nat}
    (h : waits keys (calls.eraseIdx i) = false) {j : Nat} {c : Call σ ε α κ} (hji : j ≠ i)
    (hj : calls[j]? = some c) {k : κ} (hk : k ∈ c.held) : k ∉ keys := by
  intro hmem
  have hc : c ∈ calls.eraseIdx i := by
    rw [List.mem_eraseIdx_iff_getElem?]
    exact ⟨j, hji, hj⟩
  have hw : waits keys (calls.eraseIdx i) = true :=
    List.any_eq_true.mpr ⟨c, hc, List.any_eq_true.mpr ⟨k, hk, decide_eq_true hmem⟩⟩
  rw [h] at hw
  cases hw

theorem exec_step (w : World σ ε α κ) (a : Action) : Step R w (exec R w a) := by
  cases a with
  | step i =>
      simp only [exec]
      split
      · next hi => exact .commits hi
      · next hi => exact .aborts hi
      · next hi =>
          split
          · exact .stays
          · next hw =>
              rw [Bool.not_eq_true] at hw
              exact .moves hi fun j c hji hj k hk => free_of_not_waits hw hji hj hk
      · exact .stays
  | crash i =>
      simp only [exec]
      split
      · next hi => exact .crashes hi
      · exact .stays

end Exec

/-! ## Calls, one by one -/

/-- A property of all calls, after one of them changed. -/
theorem forall_set {calls : List (Call σ ε α κ)} {i : Nat} {c' : Call σ ε α κ}
    {P : Nat → Call σ ε α κ → Prop} (h : ∀ j c, j ≠ i → calls[j]? = some c → P j c)
    (hnew : P i c') : ∀ j c, (calls.set i c')[j]? = some c → P j c := by
  intro j c hj
  rw [List.getElem?_set] at hj
  split at hj
  · next hij =>
      split at hj
      · obtain rfl := Option.some.inj hj
        exact hij ▸ hnew
      · cases hj
  · next hij => exact h j c (fun hji => hij hji.symm) hj

/-- At most one call under way has inserted the key. -/
def OneHolder (k : κ) (calls : List (Call σ ε α κ)) : Prop :=
  ∀ (i j : Nat) (c c' : Call σ ε α κ), calls[i]? = some c → calls[j]? = some c' →
    k ∈ c.held → k ∈ c'.held → i = j

theorem oneHolder_opened (k : κ) (db : σ) (programs : List (Tx σ ε α)) :
    OneHolder k (opened db programs : World σ ε α κ).calls := by
  intro i j c c' hi hj hk
  rw [opened, List.getElem?_map, Option.map_eq_some_iff] at hi
  obtain ⟨p, -, rfl⟩ := hi
  cases hk

theorem OneHolder.set {k : κ} {calls : List (Call σ ε α κ)} {i : Nat} {c' : Call σ ε α κ}
    (h : OneHolder k calls)
    (hnew : k ∈ c'.held → ∀ j c, j ≠ i → calls[j]? = some c → k ∉ c.held) :
    OneHolder k (calls.set i c') := by
  have hmem : ∀ {j c}, (calls.set i c')[j]? = some c → (j = i ∧ c = c') ∨
      (j ≠ i ∧ calls[j]? = some c) := by
    intro j c hj
    rw [List.getElem?_set] at hj
    split at hj
    · next hij =>
        split at hj
        · exact Or.inl ⟨hij.symm, (Option.some.inj hj).symm⟩
        · cases hj
    · next hij => exact Or.inr ⟨fun hji => hij hji.symm, hj⟩
  intro a b x y hx hy hkx hky
  rcases hmem hx with ⟨rfl, rfl⟩ | ⟨hax, hx'⟩
  · rcases hmem hy with ⟨rfl, rfl⟩ | ⟨hby, hy'⟩
    · rfl
    · exact absurd hky (hnew hkx b y hby hy')
  · rcases hmem hy with ⟨rfl, rfl⟩ | ⟨hby, hy'⟩
    · exact absurd hkx (hnew hky a x hax hx')
    · exact h a b x y hx' hy' hkx hky

/-- **A unique key is held by one call at a time.** -/
theorem OneHolder.step [DecidableEq κ] {R : Rules σ ε κ} {k : κ} {w w' : World σ ε α κ}
    (h : OneHolder k w.calls) (hstep : Step R w w') : OneHolder k w'.calls := by
  cases hstep with
  | stays => exact h
  | moves hi hfree =>
      refine h.set fun hk j c hji hj hkc => ?_
      rcases List.mem_append.mp hk with hk | hk
      · exact hji (h _ _ _ _ hi hj hk hkc).symm
      · exact hfree j c hji hj k hkc hk
  | commits hi => exact h.set fun hk => nomatch hk
  | aborts hi => exact h.set fun hk => nomatch hk
  | crashes hi => exact h.set fun hk => nomatch hk

/-! ## Atomicity -/

/-- What is left of the call would end as the whole program run now. -/
def Current (p : Tx σ ε α) (db : σ) : Call σ ε α κ → Prop
  | .running rest writes _ => rest.run (writes db) = p.run db
  | .committed _ | .failed => True

theorem current_opened (p : Tx σ ε α) (db : σ) :
    Current p db (.running p id [] : Call σ ε α κ) := rfl

/-- A statement of the call's own keeps it current. -/
theorem Current.moves {p : Tx σ ε α} {db : σ} {change : σ → σ} {next : σ → Tx σ ε α}
    {writes : σ → σ} {held held' : List κ}
    (h : Current p db (.running (.stmt change next) writes held : Call σ ε α κ)) :
    Current p db (.running (next (writes db)) (change ∘ writes) held' : Call σ ε α κ) := h

/-- **A current call commits what the whole program would.** -/
theorem Current.commits {p : Tx σ ε α} {db : σ} {a : α} {writes : σ → σ} {held : List κ}
    (h : Current p db (.running (.ret a) writes held : Call σ ε α κ)) :
    p.run db = .ok (a, writes db) := h.symm

/-! ## Programs that do not see a change -/

/-- The program neither reads nor disturbs what `f` changes. -/
inductive Blind (f : σ → σ) : Tx σ ε α → Prop
  | ret (a : α) : Blind f (.ret a)
  | abort (e : ε) : Blind f (.abort e)
  | stmt {change : σ → σ} {next : σ → Tx σ ε α} (hchange : ∀ s, change (f s) = f (change s))
      (hnext : ∀ s, next (f s) = next s) (hrest : ∀ s, Blind f (next s)) :
      Blind f (.stmt change next)

theorem Blind.andThen {β : Type} {f : σ → σ} {x : Tx σ ε α} {g : α → Tx σ ε β} (hx : Blind f x)
    (hg : ∀ a, Blind f (g a)) : Blind f (x >>= g) := by
  induction hx with
  | ret a => exact hg a
  | abort e => exact .abort e
  | @stmt change next hchange hnext hrest ih =>
      refine .stmt hchange (fun s => ?_) ih
      rw [hnext]

theorem Blind.read {γ : Type} {f : σ → σ} {g : σ → γ} (h : ∀ s, g (f s) = g s) :
    Blind f (Tx.read g : Tx σ ε γ) :=
  .stmt (fun _ => rfl) (fun s => by rw [h]) fun _ => .ret _

theorem Blind.write {f change : σ → σ} (h : ∀ s, change (f s) = f (change s)) :
    Blind f (Tx.write change : Tx σ ε Unit) :=
  .stmt h (fun _ => rfl) fun _ => .ret ()

/-- A call under way of such a program. -/
def BlindCall (f : σ → σ) : Call σ ε α κ → Prop
  | .running rest writes _ => Blind f rest ∧ ∀ s, writes (f s) = f (writes s)
  | .committed _ | .failed => True

theorem BlindCall.opened {f : σ → σ} {p : Tx σ ε α} (h : Blind f p) :
    BlindCall f (.running p id [] : Call σ ε α κ) := ⟨h, fun _ => rfl⟩

theorem BlindCall.moves {f : σ → σ} {change : σ → σ} {next : σ → Tx σ ε α} {writes : σ → σ}
    {held held' : List κ} {view : σ}
    (h : BlindCall f (.running (.stmt change next) writes held : Call σ ε α κ)) :
    BlindCall f (.running (next view) (change ∘ writes) held' : Call σ ε α κ) := by
  obtain ⟨hrest, hwrites⟩ := h
  cases hrest with
  | stmt hchange hnext hrest =>
      refine ⟨hrest view, fun s => ?_⟩
      rw [Function.comp, hwrites, hchange]
      rfl

theorem Blind.run {f : σ → σ} {x : Tx σ ε α} (h : Blind f x) (s : σ) :
    x.run (f s) = (x.run s).map fun r => (r.1, f r.2) := by
  induction h generalizing s with
  | ret a => rfl
  | abort e => rfl
  | @stmt change next hchange hnext hrest ih =>
      rw [Tx.run, Tx.run, hnext, hchange]
      exact ih s (change s)

/-- What the program does not see leaves its calls current. -/
theorem Current.blind {f : σ → σ} {p : Tx σ ε α} {db : σ} {c : Call σ ε α κ} (hp : Blind f p)
    (hc : BlindCall f c) (h : Current p db c) : Current p (f db) c := by
  cases c with
  | running rest writes held =>
      obtain ⟨hrest, hwrites⟩ := hc
      change rest.run (writes (f db)) = p.run (f db)
      rw [hwrites, hrest.run, hp.run, show rest.run (writes db) = p.run db from h]
  | committed a => trivial
  | failed => trivial

end ReadCommitted
