import Locoomo.Delivery
import Locoomo.Lib.Locks
import Locoomo.Lib.Runs

/-! The row locks of the transactions that move orders. A rider who accepts and
a confirmation at a counter lock the order and then its leg; what a courier
reports, a cancellation and a re-route lock the leg and then its order. -/

namespace Locoomo.Deadlocks

open Locoomo.Delivery Locks

/-! ## Locks -/

inductive Lock
  | rider (userId : Nat)
  | order (id : Nat)
  | leg (id : Nat)
  | node (id : Nat)
  deriving DecidableEq, Repr

/-- A transaction, with the rows it comes to: the order's active leg where it has
one (a leg that the transaction inserts is its own), and the rider of that leg. -/
inductive Call
  | accept (riderId orderId : Nat) (legId : Option Nat)
  | confirmPickup (orderId : Nat) (legId : Option Nat) (originNodeId : Nat)
  | confirmArrival (orderId : Nat) (legId courierUserId : Option Nat)
  | confirmDropOff (orderId : Nat)
  | syncFromSnapshot (legId originNodeId : Nat) (steps : List DeliveryEventType)
  | cancelLeg (legId : Nat)
  | reroute (legId : Nat)
  deriving DecidableEq, Repr

def legLocks (legId : Option Nat) : List Lock := legId.toList.map Lock.leg

/-- `onDeliveryEvent`: the order's updates, and the counters behind them. -/
def listenerLocks (orderId originNodeId : Nat) (courierUserId : Option Nat) :
    DeliveryEventType → List Lock
  | .assigned => [.order orderId]
  | .pickedUp => [.order orderId, .order orderId, .node originNodeId]
  | .delivered => .order orderId :: courierUserId.toList.map Lock.rider
  | .attemptFailed => []
  | .released | .cancelled => [.order orderId]
  | .returning => [.order orderId, .order orderId]
  | .returned =>
      [.order orderId, .order orderId, .node originNodeId] ++ courierUserId.toList.map Lock.rider

/-- `dispatch`, into a courier's hands or the outbox. -/
def dispatchLocks (orderId : Nat) : List Lock := [.order orderId]

/-- `apply`: the leg is saved, its event published, and a cancelled leg's order
dispatched again. -/
def applyLocks (orderId originNodeId : Nat) (legId courierUserId : Option Nat)
    (event : DeliveryEventType) : List Lock :=
  legLocks legId ++ listenerLocks orderId originNodeId courierUserId event ++
    (if event = .cancelled then dispatchLocks orderId else [])

-- the column `orderId` of a leg
variable (orderOf : Nat → Nat)

/-- The row locks a transaction takes, in its order; one that fails stops short.
The couriers' legs have no rider of ours, and only `pickedUp` and `returned` come
to a Node. -/
def Call.script : Call → List Lock
  | .accept riderId orderId legId =>
      [.rider riderId, .rider riderId, .order orderId] ++ legLocks legId ++
        applyLocks orderId 0 legId (some riderId) .assigned
  | .confirmPickup orderId legId originNodeId =>
      .order orderId :: legLocks legId ++ applyLocks orderId originNodeId legId none .pickedUp
  | .confirmArrival orderId legId courierUserId =>
      .order orderId :: legLocks legId ++ applyLocks orderId 0 legId courierUserId .delivered
  | .confirmDropOff orderId => [.order orderId, .order orderId] ++ dispatchLocks orderId
  | .syncFromSnapshot legId originNodeId steps =>
      .leg legId ::
        if steps = [] then [.leg legId]
        else steps.flatMap (applyLocks (orderOf legId) originNodeId (some legId) none)
  | .cancelLeg legId => .leg legId :: applyLocks (orderOf legId) 0 (some legId) none .cancelled
  | .reroute legId => .leg legId :: dispatchLocks (orderOf legId)

/-- The leg found for an order is one of its legs. -/
def Call.ofOrder : Call → Bool
  | .accept _ orderId legId | .confirmPickup orderId legId _ | .confirmArrival orderId legId _ =>
      legId.all fun l => orderOf l = orderId
  | _ => true

/-! ## Runs -/

abbrev World := List (Tx Lock)

/-- A transaction begins, comes to its next lock, or ends. -/
inductive Action
  | begin (id : Nat) (call : Call)
  | lock (id : Nat)
  | finish (id : Nat)
  deriving DecidableEq, Repr

def exec (w : World) : Action → World
  | .begin id call => if call.ofOrder orderOf then Locks.start w id (call.script orderOf) else w
  | .lock id => Locks.lock w id
  | .finish id => Locks.finish w id

/-- No transactions that wait for each other. -/
def DeadlockFree (w : World) : Prop := ¬ Deadlocked (WaitsFor w)

/-! ## The two ways into a deadlock -/

/-- A transaction waits for a leg with the leg's order locked, and another for
that order with the leg locked. -/
def Crossed (w : World) : Prop :=
  ∃ i j l, Holds w i (.order (orderOf l)) ∧ Waits w i (.leg l) ∧
    Holds w j (.leg l) ∧ Waits w j (.order (orderOf l))

/-- An accept of rider `r` waits for an order whose arrival is being confirmed,
and the confirmation waits for the profile of rider `r'`. -/
def Blocked (w : World) (r r' : Nat) : Prop :=
  ∃ i j o, Holds w i (.rider r) ∧ Waits w i (.order o) ∧ Holds w j (.order o) ∧
    Waits w j (.rider r')

/-- Waiting for the lock `x`, the transaction `i` closes neither. -/
structure Clears (w : World) (i : Nat) (x : Lock) : Prop where
  leg : ∀ l j, x = .leg l → Holds w i (.order (orderOf l)) → Holds w j (.leg l) →
    ¬ Waits w j (.order (orderOf l))
  order : ∀ l j, x = .order (orderOf l) → Holds w i (.leg l) → Holds w j (.order (orderOf l)) →
    ¬ Waits w j (.leg l)
  accept : ∀ o j r r', x = .order o → Holds w i (.rider r) → Holds w j (.order o) →
    Waits w j (.rider r') → ¬ Relation.ReflTransGen (Blocked w) r' r
  arrival : ∀ o j r r', x = .rider r' → Holds w i (.order o) → Holds w j (.rider r) →
    Waits w j (.order o) → ¬ Relation.ReflTransGen (Blocked w) r' r

/-- A lock that another transaction holds is asked for only so. -/
def Clear (w : World) : Action → Prop
  | .lock i => ∀ t ∈ w, t.id = i → ∀ x ∈ t.next, busy w i x = true → Clears orderOf w i x
  | _ => True

/-! ## Paths -/

/-- The rows in the order in which a transaction first comes to them. -/
def Call.path : Call → List Lock
  | .accept riderId orderId legId => [.rider riderId, .order orderId] ++ legLocks legId
  | .confirmPickup orderId legId originNodeId =>
      .order orderId :: legLocks legId ++ [.node originNodeId]
  | .confirmArrival orderId legId courierUserId =>
      .order orderId :: legLocks legId ++ courierUserId.toList.map Lock.rider
  | .confirmDropOff orderId => [.order orderId]
  | .syncFromSnapshot legId originNodeId _ =>
      [.leg legId, .order (orderOf legId), .node originNodeId]
  | .cancelLeg legId | .reroute legId => [.leg legId, .order (orderOf legId)]

theorem follows_steps (l o n : Nat) (steps : List DeliveryEventType) {seen ahead : List Lock}
    (h : (seen, ahead) ∈ [([Lock.leg l], [Lock.order o, Lock.node n]),
      ([.leg l, .order o], [.node n]), ([.leg l, .order o, .node n], [])]) :
    Follows seen ahead (steps.flatMap (applyLocks o n (some l) none)) := by
  induction steps generalizing seen ahead with
  | nil => exact trivial
  | cons event steps ih =>
      simp only [List.mem_cons, Prod.mk.injEq, List.not_mem_nil, or_false] at h
      rcases h with ⟨rfl, rfl⟩ | ⟨rfl, rfl⟩ | ⟨rfl, rfl⟩
      · cases event <;> simp [applyLocks, legLocks, listenerLocks, dispatchLocks, Follows, ih]
      · cases event <;> simp [applyLocks, legLocks, listenerLocks, dispatchLocks, Follows, ih]
      · cases event <;> simp [applyLocks, legLocks, listenerLocks, dispatchLocks, Follows, ih]

theorem Call.follows (call : Call) : Follows [] (call.path orderOf) (call.script orderOf) := by
  cases call with
  | accept riderId orderId legId =>
      cases legId <;>
        simp [Call.path, Call.script, applyLocks, legLocks, listenerLocks, Follows]
  | confirmPickup orderId legId originNodeId =>
      cases legId <;>
        simp [Call.path, Call.script, applyLocks, legLocks, listenerLocks, Follows]
  | confirmArrival orderId legId courierUserId =>
      cases legId <;> cases courierUserId <;>
        simp [Call.path, Call.script, applyLocks, legLocks, listenerLocks, Follows]
  | confirmDropOff orderId => simp [Call.path, Call.script, dispatchLocks, Follows]
  | syncFromSnapshot legId originNodeId steps =>
      have hsteps : Follows [.leg legId] [.order (orderOf legId), .node originNodeId]
          (steps.flatMap (applyLocks (orderOf legId) originNodeId (some legId) none)) :=
        follows_steps legId (orderOf legId) originNodeId steps (by simp)
      by_cases hnone : steps = []
      · simp [Call.path, Call.script, hnone, Follows]
      · simp [Call.path, Call.script, hnone, Follows, hsteps]
  | cancelLeg legId =>
      simp [Call.path, Call.script, applyLocks, legLocks, listenerLocks, dispatchLocks, Follows]
  | reroute legId => simp [Call.path, Call.script, dispatchLocks, Follows]

/-- What a transaction holds when it comes to a lock that it does not hold. -/
structure Orderly (held : Lock → Prop) (x : Lock) : Prop where
  node : ∀ n, ¬ held (.node n)
  leg_order : ∀ l o, held (.leg l) → x = .order o → o = orderOf l
  leg_rider : ∀ l r, held (.leg l) → x = .rider r → held (.order (orderOf l))
  leg_leg : ∀ l l', held (.leg l) → x ≠ .leg l'
  first_leg : ∀ l k, x = .leg l → held k → held (.order (orderOf l))
  order_order : ∀ o o', held (.order o) → x ≠ .order o'
  rider_rider : ∀ r r', held (.rider r) → x ≠ .rider r'

section Paths

variable {orderOf} {pre post : List Lock} {x : Lock}

/-- Nothing is held at the first row of a path. -/
theorem orderly_nil (x : Lock) : Orderly orderOf (fun k => k ∈ ([] : List Lock)) x := by
  constructor <;> simp

theorem split_cons {a : Lock} {l : List Lock} (h : a :: l = pre ++ x :: post) :
    (pre = [] ∧ x = a) ∨ ∃ pre', pre = a :: pre' ∧ l = pre' ++ x :: post := by
  rcases List.cons_eq_append_iff.mp h with ⟨rfl, h⟩ | h
  · obtain ⟨rfl, -⟩ := List.cons.inj h
    exact Or.inl ⟨rfl, rfl⟩
  · exact Or.inr h

theorem split_toList {last : Option Lock} (h : last.toList = pre ++ x :: post) :
    pre = [] ∧ last = some x := by
  cases last with
  | none => simp at h
  | some k =>
      rcases split_cons h with ⟨rfl, rfl⟩ | ⟨pre', rfl, h'⟩
      · exact ⟨rfl, rfl⟩
      · simp at h'

theorem orderly_accept {r o : Nat} {legId : Option Nat} (hlegs : ∀ l ∈ legId, orderOf l = o)
    (h : [.rider r, .order o] ++ legLocks legId = pre ++ x :: post) :
    Orderly orderOf (fun k => k ∈ pre) x := by
  rcases split_cons h with ⟨rfl, rfl⟩ | ⟨pre₁, rfl, h₁⟩
  · exact orderly_nil _
  rcases split_cons h₁ with ⟨rfl, rfl⟩ | ⟨pre₂, rfl, h₂⟩
  · constructor <;> simp
  cases legId with
  | none => simp [legLocks] at h₂
  | some l =>
      obtain rfl : orderOf l = o := hlegs l rfl
      rcases split_cons h₂ with ⟨rfl, rfl⟩ | ⟨pre₃, rfl, h₃⟩
      · constructor <;> simp +contextual
      · simp at h₃

/-- A confirmation: the order, its leg, and a counter. -/
theorem orderly_confirm {o : Nat} {legId : Option Nat} (hlegs : ∀ l ∈ legId, orderOf l = o)
    (last : Option Lock) (hlast : ∀ k ∈ last, (∃ n, k = .node n) ∨ ∃ r, k = .rider r)
    (h : .order o :: legLocks legId ++ last.toList = pre ++ x :: post) :
    Orderly orderOf (fun k => k ∈ pre) x := by
  rcases split_cons h with ⟨rfl, rfl⟩ | ⟨pre₁, rfl, h₁⟩
  · exact orderly_nil _
  cases legId with
  | none =>
      obtain ⟨rfl, rfl⟩ := split_toList h₁
      rcases hlast x rfl with ⟨n, rfl⟩ | ⟨r, rfl⟩
      · constructor <;> simp
      · constructor <;> simp
  | some l =>
      obtain rfl : orderOf l = o := hlegs l rfl
      rcases split_cons h₁ with ⟨rfl, rfl⟩ | ⟨pre₂, rfl, h₂⟩
      · constructor <;> simp +contextual
      · obtain ⟨rfl, rfl⟩ := split_toList h₂
        rcases hlast x rfl with ⟨n, rfl⟩ | ⟨r, rfl⟩
        · constructor <;> simp
        · constructor <;> simp +contextual

/-- What comes to the leg first: the leg, its order, and a Node. -/
theorem orderly_courier {l : Nat} {rest : List Lock}
    (hrest : rest = [] ∨ ∃ n, rest = [.node n])
    (h : .leg l :: .order (orderOf l) :: rest = pre ++ x :: post) :
    Orderly orderOf (fun k => k ∈ pre) x := by
  rcases split_cons h with ⟨rfl, rfl⟩ | ⟨pre₁, rfl, h₁⟩
  · exact orderly_nil _
  rcases split_cons h₁ with ⟨rfl, rfl⟩ | ⟨pre₂, rfl, h₂⟩
  · constructor <;> simp
  rcases hrest with rfl | ⟨n, rfl⟩
  · simp at h₂
  · rcases split_cons h₂ with ⟨rfl, rfl⟩ | ⟨pre₃, rfl, h₃⟩
    · constructor <;> simp
    · simp at h₃

theorem Call.orderly {call : Call} (hcall : call.ofOrder orderOf = true)
    (h : call.path orderOf = pre ++ x :: post) : Orderly orderOf (fun k => k ∈ pre) x := by
  have hlegs : ∀ {o : Nat} {legId : Option Nat}, (legId.all fun l => orderOf l = o) = true →
      ∀ l ∈ legId, orderOf l = o := by
    intro o legId hall l hl
    rw [Option.mem_def.mp hl] at hall
    exact of_decide_eq_true hall
  cases call with
  | accept riderId orderId legId => exact orderly_accept (hlegs hcall) h
  | confirmPickup orderId legId originNodeId =>
      refine orderly_confirm (hlegs hcall) (some (.node originNodeId)) ?_ h
      rintro k ⟨⟩
      exact Or.inl ⟨originNodeId, rfl⟩
  | confirmArrival orderId legId courierUserId =>
      have hlast : courierUserId.toList.map Lock.rider = (courierUserId.map Lock.rider).toList := by
        cases courierUserId <;> rfl
      rw [Call.path, hlast] at h
      refine orderly_confirm (hlegs hcall) (courierUserId.map Lock.rider) ?_ h
      intro k hk
      obtain ⟨r, -, rfl⟩ := Option.mem_map.mp hk
      exact Or.inr ⟨r, rfl⟩
  | confirmDropOff orderId =>
      rcases split_cons h with ⟨rfl, rfl⟩ | ⟨pre₁, rfl, h₁⟩
      · exact orderly_nil _
      · simp at h₁
  | syncFromSnapshot legId originNodeId steps =>
      exact orderly_courier (Or.inr ⟨originNodeId, rfl⟩) h
  | cancelLeg legId => exact orderly_courier (Or.inl rfl) h
  | reroute legId => exact orderly_courier (Or.inl rfl) h

end Paths

/-! ## The shape of a deadlock -/

/-- Locks held once, by transactions of ours. -/
structure Inv (w : World) : Prop where
  sound : Sound w
  calls : ∀ t ∈ w, ∃ call : Call, call.ofOrder orderOf = true ∧ t.script = call.script orderOf

section Shape

variable {orderOf} {w : World} {i j : Nat} {x y : Lock}

theorem Inv.orderly_next (h : Inv orderOf w) {t : Tx Lock} (ht : t ∈ w) (hnext : t.next = some x)
    (hnew : x ∉ t.held) : Orderly orderOf (Holds w t.id) x := by
  obtain ⟨call, hcall, hscript⟩ := h.calls t ht
  have hfollows : Follows [] (call.path orderOf) t.script := hscript ▸ call.follows orderOf
  obtain ⟨pre, post, hpath, hpre⟩ := hfollows.split hnext List.not_mem_nil hnew
  have hheld : (fun k => k ∈ pre) = Holds w t.id := by
    funext k
    have hself : Holds w t.id k ↔ k ∈ t.held := exists_self_iff h.sound.distinct ht
    rw [hpre, hself]
    simp [Tx.held]
  exact hheld ▸ Call.orderly hcall hpath

theorem Inv.orderly (h : Inv orderOf w) (hwait : Waits w i x) :
    Orderly orderOf (Holds w i) x := by
  have hnot := h.sound.waits i x hwait
  obtain ⟨t, ht, rfl, -, hnext⟩ := hwait
  exact h.orderly_next ht hnext fun hheld => hnot ⟨t, ht, rfl, hheld⟩

theorem Inv.waits_once (h : Inv orderOf w) (hx : Waits w i x) (hy : Waits w i y) : x = y := by
  obtain ⟨t, ht, rfl, -, hnext⟩ := hx
  obtain ⟨t', ht', hid, -, hnext'⟩ := hy
  rw [h.sound.distinct.eq_of_key ht' ht hid, hnext] at hnext'
  exact Option.some.inj hnext'

/-- Of a leg and its order, the leg-first hold the leg. -/
theorem Inv.crossed_of_leg (h : Inv orderOf w) {l : Nat} {k : Lock} (hi : Waits w i (.leg l))
    (hsome : Holds w i k) (hj : Holds w j (.leg l)) (hwait : Waits w j y)
    (hnode : ∀ n, y ≠ .node n) : Crossed orderOf w := by
  have horder : Holds w i (.order (orderOf l)) := (h.orderly hi).first_leg l k rfl hsome
  have hjo := h.orderly hwait
  cases y with
  | rider r =>
      -- the holder of the leg would hold its order too
      have hsame := h.sound.exclusive i j _ horder (hjo.leg_rider l r hj rfl)
      exact absurd (hsame ▸ hj) (h.sound.waits i _ hi)
  | order o =>
      obtain rfl : o = orderOf l := hjo.leg_order l o hj rfl
      exact ⟨i, j, l, horder, hi, hj, hwait⟩
  | leg l' => exact absurd rfl (hjo.leg_leg l l' hj)
  | node n => exact absurd rfl (hnode n)

/-- **A deadlock** is a leg and its order taken crosswise, or a ring of riders. -/
theorem Inv.crossed_or_ring (h : Inv orderOf w) (hdead : Deadlocked (WaitsFor w)) :
    Crossed orderOf w ∨ Deadlocked (Blocked w) := by
  obtain ⟨S, ⟨s, hs⟩, hS⟩ := hdead
  by_cases hcross : Crossed orderOf w
  · exact Or.inl hcross
  -- the transactions of the set that one of it waits for
  let M : Set Nat := {i | i ∈ S ∧ ∃ k, Holds w i k}
  have hnext : ∀ i ∈ S, ∃ j ∈ M, ∃ x, Waits w i x ∧ Holds w j x := by
    intro i hi
    obtain ⟨j, hj, x, hwait, hheld⟩ := hS i hi
    exact ⟨j, ⟨hj, x, hheld⟩, x, hwait, hheld⟩
  have hnode : ∀ i ∈ S, ∀ n, ¬ Waits w i (.node n) := by
    intro i hi n hwait
    obtain ⟨j, hj, x, hwait', hheld⟩ := hnext i hi
    obtain rfl := h.waits_once hwait hwait'
    obtain ⟨-, -, y, hwaitj, -⟩ := hnext j hj.1
    exact (h.orderly hwaitj).node n hheld
  have hleg : ∀ i ∈ M, ∀ l, ¬ Waits w i (.leg l) := by
    rintro i ⟨hi, k, hk⟩ l hwait
    obtain ⟨j, hj, x, hwait', hheld⟩ := hnext i hi
    obtain rfl := h.waits_once hwait hwait'
    obtain ⟨-, -, y, hwaitj, -⟩ := hnext j hj.1
    refine hcross (h.crossed_of_leg hwait hk hheld hwaitj ?_)
    rintro n rfl
    exact hnode j hj.1 n hwaitj
  -- so all of them wait for orders and riders, in turn
  have hrider : ∀ i ∈ M, ∀ r, Waits w i (.rider r) →
      ∃ j ∈ M, Holds w j (.rider r) ∧ ∃ o, Waits w j (.order o) := by
    intro i hi r hwait
    obtain ⟨j, hj, x, hwait', hheld⟩ := hnext i hi.1
    obtain rfl := h.waits_once hwait hwait'
    obtain ⟨-, -, y, hwaitj, -⟩ := hnext j hj.1
    refine ⟨j, hj, hheld, ?_⟩
    cases y with
    | rider r' => exact absurd rfl ((h.orderly hwaitj).rider_rider r r' hheld)
    | order o => exact ⟨o, hwaitj⟩
    | leg l => exact absurd hwaitj (hleg j hj l)
    | node n => exact absurd hwaitj (hnode j hj.1 n)
  have horder : ∀ i ∈ M, ∀ o, Waits w i (.order o) →
      ∃ j ∈ M, Holds w j (.order o) ∧ ∃ r, Waits w j (.rider r) := by
    intro i hi o hwait
    obtain ⟨j, hj, x, hwait', hheld⟩ := hnext i hi.1
    obtain rfl := h.waits_once hwait hwait'
    obtain ⟨-, -, y, hwaitj, -⟩ := hnext j hj.1
    refine ⟨j, hj, hheld, ?_⟩
    cases y with
    | rider r => exact ⟨r, hwaitj⟩
    | order o' => exact absurd rfl ((h.orderly hwaitj).order_order o o' hheld)
    | leg l => exact absurd hwaitj (hleg j hj l)
    | node n => exact absurd hwaitj (hnode j hj.1 n)
  refine Or.inr ⟨{r | ∃ i ∈ M, Holds w i (.rider r) ∧ ∃ o, Waits w i (.order o)}, ?_, ?_⟩
  · obtain ⟨i, hi, -⟩ := hnext s hs
    obtain ⟨-, -, x, hwait, -⟩ := hnext i hi.1
    cases x with
    | rider r =>
        obtain ⟨j, hj, hheld, ho⟩ := hrider i hi r hwait
        exact ⟨r, j, hj, hheld, ho⟩
    | order o =>
        obtain ⟨j, hj, -, r, hwaitj⟩ := horder i hi o hwait
        obtain ⟨k, hk, hheld, ho⟩ := hrider j hj r hwaitj
        exact ⟨r, k, hk, hheld, ho⟩
    | leg l => exact absurd hwait (hleg i hi l)
    | node n => exact absurd hwait (hnode i hi.1 n)
  · rintro r ⟨i, hi, hheld, o, hwait⟩
    obtain ⟨j, hj, hheldj, r', hwaitj⟩ := horder i hi o hwait
    obtain ⟨k, hk, hheldk, ho⟩ := hrider j hj r' hwaitj
    exact ⟨r', ⟨k, hk, hheldk, ho⟩, i, j, o, hheld, hwait, hheldj, hwaitj⟩

theorem deadlocked_of_crossed (h : Crossed orderOf w) : Deadlocked (WaitsFor w) := by
  obtain ⟨i, j, l, hio, hil, hjl, hjo⟩ := h
  refine ⟨{i, j}, ⟨i, Or.inl rfl⟩, ?_⟩
  rintro t (rfl | rfl)
  · exact ⟨j, Or.inr rfl, .leg l, hil, hjl⟩
  · exact ⟨i, Or.inl rfl, .order (orderOf l), hjo, hio⟩

theorem deadlocked_of_ring_of_riders (h : Deadlocked (Blocked w)) : Deadlocked (WaitsFor w) := by
  obtain ⟨Q, ⟨q, hq⟩, hQ⟩ := h
  refine ⟨{i | ∃ r ∈ Q, ∃ j o r', r' ∈ Q ∧ Holds w i (.rider r) ∧ Waits w i (.order o) ∧
      Holds w j (.order o) ∧ Waits w j (.rider r')} ∪ {j | ∃ r ∈ Q, Waits w j (.rider r)}, ?_, ?_⟩
  · obtain ⟨r', hr', i, j, o, hi⟩ := hQ q hq
    exact ⟨i, Or.inl ⟨q, hq, j, o, r', hr', hi⟩⟩
  · rintro t (⟨r, hr, j, o, r', hr', -, hwait, hheld, hwaitj⟩ | ⟨r, hr, hwait⟩)
    · exact ⟨j, Or.inr ⟨r', hr', hwaitj⟩, .order o, hwait, hheld⟩
    · obtain ⟨r', hr', i, j, o, hi⟩ := hQ r hr
      exact ⟨i, Or.inl ⟨r, hr, j, o, r', hr', hi⟩, .rider r, hwait, hi.1⟩

end Shape

/-! ## One action -/

section Steps

variable {orderOf} {w w' : World} {i : Nat} {x : Lock}

theorem Inv.exec (h : Inv orderOf w) (a : Action) : Inv orderOf (exec orderOf w a) := by
  unfold Deadlocks.exec
  cases a with
  | begin id call =>
      simp only
      split
      · next hcall =>
          refine ⟨sound_start h.sound id _, fun t ht => ?_⟩
          rcases script_start ht with ht | hscript
          · exact h.calls t ht
          · exact ⟨call, hcall, hscript⟩
      · exact h
  | lock id =>
      refine ⟨sound_lock h.sound id, fun t ht => ?_⟩
      obtain ⟨t', ht', hscript⟩ := script_lock ht
      exact hscript ▸ h.calls t' ht'
  | finish id =>
      exact ⟨sound_finish h.sound id, fun t ht => h.calls t (script_finish ht)⟩

theorem DeadlockFree.mono (hfree : DeadlockFree w) (hholds : ∀ a x, Holds w' a x → Holds w a x)
    (hwaits : ∀ a x, Waits w' a x → Waits w a x) : DeadlockFree w' := by
  refine fun hdead => hfree (hdead.mono ?_)
  rintro a b ⟨x, hwait, hheld⟩
  exact ⟨x, hwaits a x hwait, hholds b x hheld⟩

variable (hholds : ∀ a y, Holds w' a y ↔ Holds w a y)
  (hwaits : ∀ a y, Waits w' a y ↔ Waits w a y ∨ a = i ∧ y = x)

include hholds hwaits

/-- What one that now waits must not meet. -/
theorem clears_of_deadlockFree (hfree : DeadlockFree w') : Clears orderOf w i x := by
  have hnew : Waits w' i x := (hwaits i x).mpr (Or.inr ⟨rfl, rfl⟩)
  have hold : ∀ {a y}, Waits w a y → Waits w' a y := fun h => (hwaits _ _).mpr (Or.inl h)
  have hheld : ∀ {a y}, Holds w a y → Holds w' a y := fun h => (hholds _ _).mpr h
  have hblocked : ∀ r r', Blocked w r r' → Blocked w' r r' := by
    rintro r r' ⟨a, b, o, h₁, h₂, h₃, h₄⟩
    exact ⟨a, b, o, hheld h₁, hold h₂, hheld h₃, hold h₄⟩
  constructor
  · rintro l j rfl hi hj hwait
    exact hfree (deadlocked_of_crossed ⟨i, j, l, hheld hi, hnew, hheld hj, hold hwait⟩)
  · rintro l j rfl hi hj hwait
    exact hfree (deadlocked_of_crossed ⟨j, i, l, hheld hj, hold hwait, hheld hi, hnew⟩)
  · rintro o j r r' rfl hi hj hwait hring
    have hstep : Blocked w' r r' := ⟨i, j, o, hheld hi, hnew, hheld hj, hold hwait⟩
    exact hfree (deadlocked_of_ring_of_riders
      (deadlocked_of_ring hstep (Relation.ReflTransGen.mono hblocked _ _ hring)))
  · rintro o j r r' rfl hi hj hwait hring
    have hstep : Blocked w' r r' := ⟨j, i, o, hheld hj, hold hwait, hheld hi, hnew⟩
    exact hfree (deadlocked_of_ring_of_riders
      (deadlocked_of_ring hstep (Relation.ReflTransGen.mono hblocked _ _ hring)))

/-- A new wait that closes no ring of riders. -/
theorem Clears.no_ring (hclears : Clears orderOf w i x) (h' : Inv orderOf w')
    (hfree : ¬ Deadlocked (Blocked w)) : ¬ Deadlocked (Blocked w') := by
  intro hdead
  have hsub : ∀ r r', Blocked w' r r' → Blocked w r r' ∨
      (∃ j o, x = .order o ∧ Holds w i (.rider r) ∧ Holds w j (.order o) ∧ Waits w j (.rider r')) ∨
      ∃ j o, x = .rider r' ∧ Holds w i (.order o) ∧ Holds w j (.rider r) ∧
        Waits w j (.order o) := by
    rintro r r' ⟨a, b, o, h₁, h₂, h₃, h₄⟩
    rw [hholds] at h₁ h₃
    rcases (hwaits a _).mp h₂ with hold₂ | ⟨rfl, rfl⟩
    · rcases (hwaits b _).mp h₄ with hold₄ | ⟨rfl, rfl⟩
      · exact Or.inl ⟨a, b, o, h₁, hold₂, h₃, hold₄⟩
      · exact Or.inr (Or.inr ⟨a, o, rfl, h₃, h₁, hold₂⟩)
    · rcases (hwaits b _).mp h₄ with hold₄ | ⟨-, h⟩
      · exact Or.inr (Or.inl ⟨b, o, rfl, h₁, h₃, hold₄⟩)
      · cases h
  cases x with
  | order o =>
      by_cases hc : ∃ j c, Holds w j (.order o) ∧ Waits w j (.rider c)
      · obtain ⟨j, c, hj, hwait⟩ := hc
        have hring := ring_of_deadlocked c (fun r => Holds w i (.rider r)) hfree
          (fun r r' h => ?_) hdead
        · obtain ⟨r, hr, hcr⟩ := hring
          exact hclears.accept o j r c rfl hr hj hwait hcr
        · rcases hsub r r' h with hold | ⟨b, o', hx, hr, hb, hwait'⟩ | ⟨b, o', hx, -⟩
          · exact Or.inl hold
          · cases hx
            have hjb : j = b :=
              h'.sound.exclusive j b _ ((hholds j _).mpr hj) ((hholds b _).mpr hb)
            subst hjb
            have hsame := h'.waits_once ((hwaits j _).mpr (Or.inl hwait'))
              ((hwaits j _).mpr (Or.inl hwait))
            exact Or.inr ⟨Lock.rider.inj hsame, hr⟩
          · cases hx
      · refine hfree (hdead.mono fun r r' h => ?_)
        rcases hsub r r' h with hold | ⟨b, o', hx, -, hb, hwait⟩ | ⟨b, o', hx, -⟩
        · exact hold
        · cases hx
          exact absurd ⟨b, r', hb, hwait⟩ hc
        · cases hx
  | rider c =>
      have hring := ring_of_deadlocked c
        (fun r => ∃ j o, Holds w i (.order o) ∧ Holds w j (.rider r) ∧ Waits w j (.order o))
        hfree (fun r r' h => ?_) hdead
      · obtain ⟨r, ⟨j, o, hi, hj, hwait⟩, hcr⟩ := hring
        exact hclears.arrival o j r c rfl hi hj hwait hcr
      · rcases hsub r r' h with hold | ⟨b, o', hx, -⟩ | ⟨b, o, hx, hi, hb, hwait⟩
        · exact Or.inl hold
        · cases hx
        · cases hx
          exact Or.inr ⟨rfl, b, o, hi, hb, hwait⟩
  | leg l =>
      refine hfree (hdead.mono fun r r' h => ?_)
      rcases hsub r r' h with hold | ⟨b, o', hx, -⟩ | ⟨b, o', hx, -⟩
      · exact hold
      · cases hx
      · cases hx
  | node n =>
      refine hfree (hdead.mono fun r r' h => ?_)
      rcases hsub r r' h with hold | ⟨b, o', hx, -⟩ | ⟨b, o', hx, -⟩
      · exact hold
      · cases hx
      · cases hx

theorem deadlockFree_of_clears (hclears : Clears orderOf w i x) (h' : Inv orderOf w')
    (hfree : DeadlockFree w) : DeadlockFree w' := by
  intro hdead
  rcases h'.crossed_or_ring hdead with ⟨a, b, l, h₁, h₂, h₃, h₄⟩ | hring
  · rw [hholds] at h₁ h₃
    rcases (hwaits a _).mp h₂ with hold₂ | ⟨rfl, rfl⟩
    · rcases (hwaits b _).mp h₄ with hold₄ | ⟨rfl, rfl⟩
      · exact hfree (deadlocked_of_crossed ⟨a, b, l, h₁, hold₂, h₃, hold₄⟩)
      · exact hclears.order l a rfl h₃ h₁ hold₂
    · rcases (hwaits b _).mp h₄ with hold₄ | ⟨-, h⟩
      · exact hclears.leg l b rfl h₁ h₃ hold₄
      · cases h
  · have hno : ¬ Deadlocked (Blocked w) := fun h => hfree (deadlocked_of_ring_of_riders h)
    exact hclears.no_ring hholds hwaits h' hno hring

omit hholds hwaits in
/-- **A transaction comes to a lock.** -/
theorem lock_deadlockFree_iff (h : Inv orderOf w) (hfree : DeadlockFree w) (i : Nat) :
    DeadlockFree (Locks.lock w i) ↔ Clear orderOf w (.lock i) := by
  have h' : Inv orderOf (Locks.lock w i) := h.exec (.lock i)
  cases lock_cases h.sound.distinct i with
  | idle none same =>
      rw [same]
      refine iff_of_true hfree fun t ht hid x hx => ?_
      rw [none t ht hid] at hx
      cases hx
  | took t k mem self next free holds waits =>
      refine iff_of_true (fun hdead => hfree (deadlocked_of_took holds waits hdead)) ?_
      intro t' ht' hid x hx hbusy
      rw [h.sound.distinct.eq_of_key ht' mem (hid.trans self.symm), next] at hx
      cases hx
      obtain ⟨a, hne, hheld⟩ := busy_iff.mp hbusy
      exact absurd hheld (free a hne)
  | waited t k mem self next holder other held holds waits =>
      constructor
      · intro hfree' t' ht' hid x hx hbusy
        rw [h.sound.distinct.eq_of_key ht' mem (hid.trans self.symm), next] at hx
        cases hx
        exact clears_of_deadlockFree holds waits hfree'
      · intro hclear
        have hclears := hclear t mem self k next (busy_iff.mpr ⟨holder, other, held⟩)
        exact deadlockFree_of_clears holds waits hclears h' hfree

omit hholds hwaits in
theorem exec_deadlockFree_iff (h : Inv orderOf w) (hfree : DeadlockFree w) (a : Action) :
    DeadlockFree (exec orderOf w a) ↔ Clear orderOf w a := by
  cases a with
  | begin id call =>
      refine iff_of_true ?_ trivial
      unfold Deadlocks.exec
      simp only
      split
      · obtain ⟨hholds, hwaits⟩ := start_cases w id (call.script orderOf)
        exact hfree.mono (fun a x => (hholds a x).mp) fun a x => (hwaits a x).mp
      · exact hfree
  | lock id => exact lock_deadlockFree_iff h hfree id
  | finish id =>
      obtain ⟨hholds, hwaits⟩ := finish_cases w id
      exact iff_of_true (hfree.mono hholds hwaits) trivial

end Steps

theorem start_inv : Inv orderOf [] := by
  refine ⟨Sound.nil, fun t ht => ?_⟩
  cases ht

theorem start_deadlockFree : DeadlockFree [] := by
  rintro ⟨S, ⟨i, hi⟩, hS⟩
  obtain ⟨j, -, x, ⟨t, ht, -⟩, -⟩ := hS i hi
  cases ht

/-- Whatever transactions run, and however they interleave: none ever waits in a
deadlock just when no lock is waited for that closes one, be it a leg and its
order taken crosswise or a ring of riders. -/
theorem deadlock_free_iff (as : List Action) :
    Runs.Always (exec orderOf) DeadlockFree [] as ↔
      Runs.Meets (exec orderOf) (Clear orderOf) [] as :=
  Runs.always_iff_meets (I := Inv orderOf) (P := DeadlockFree) (fun _ a h => h.exec a)
    (fun _ a h hfree => exec_deadlockFree_iff h hfree a) (start_inv orderOf) start_deadlockFree as

/-! ## Two runs -/

/-- Rider 7 accepts order 1 while its leg is being cancelled. -/
def acceptBesideCancel : List Action :=
  [.begin 1 (.accept 7 1 (some 1)), .begin 2 (.cancelLeg 1),
    .lock 1, .lock 1, .lock 1, .lock 2, .lock 1, .lock 2, .lock 2]

theorem accept_beside_cancel_deadlocks :
    ¬ ∀ (orderOf : Nat → Nat) (as : List Action),
      Runs.Always (exec orderOf) DeadlockFree [] as := by
  intro h
  have hlast := (h (fun l => l) acceptBesideCancel).last
  have hcrossed : Crossed (fun l => l) (Runs.run (exec fun l => l) [] acceptBesideCancel) :=
    ⟨1, 2, 1, by decide⟩
  exact hlast (deadlocked_of_crossed hcrossed)

/-- Rider 7 asks once more for the order whose arrival is being confirmed: he has
his profile locked, and the confirmation the order. -/
example : Blocked (Runs.run (exec fun l => l) []
    [.begin 1 (.confirmArrival 1 (some 1) (some 7)), .begin 2 (.accept 7 1 (some 1)),
      .lock 1, .lock 1, .lock 1, .lock 1, .lock 2, .lock 2, .lock 2, .lock 1]) 7 7 :=
  ⟨2, 1, 1, by decide⟩

end Locoomo.Deadlocks
