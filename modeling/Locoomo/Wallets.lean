import Mathlib.Algebra.BigOperators.Ring.Finset
import Mathlib.Algebra.BigOperators.Ring.List
import Mathlib.Algebra.Order.BigOperators.Group.List
import Mathlib.Data.Rat.Floor
import Mathlib.Tactic.Linarith
import Locoomo.Lib.Runs
import Locoomo.Logistics

/-! The prepaid wallet at a courier. A booking is let through when the wallet
covers its fee and the surcharges that it and the deliveries in flight may still
cost; the wallet that admins are shown keeps the same surcharges back. Amounts
are exact. -/

namespace Locoomo.Wallets

open Locoomo.Delivery Locoomo.Database Locoomo.Logistics Relational

/-! ## The two formulas -/

def SENDII_KEY : String := "sendii"
def MAX_SURCHARGE_FACTOR : ℚ := 3 / 5

structure WalletBalance where
  availableKobo : Int
  balanceKobo : Int
  heldKobo : Int
  deriving DecidableEq, Repr

/-- The error of a booking that the wallet cannot cover; it is not retried. -/
structure LogisticsProviderError where
  providerKey : String
  operation : String
  detail : String
  retryable : Bool
  deriving DecidableEq, Repr

def LogisticsProviderError.message (e : LogisticsProviderError) : String :=
  e.providerKey ++ " " ++ e.operation ++ " failed: " ++ e.detail

/-- What an admin is told when the wallet call fails. -/
structure LogisticsProviderUnavailableException where
  providerKey : String
  operation : String
  detail : String
  deriving DecidableEq, Repr

def neededKobo (feeKobo otherActiveQuotedKobo : Int) : Int :=
  ⌈feeKobo * (1 + MAX_SURCHARGE_FACTOR) + otherActiveQuotedKobo * MAX_SURCHARGE_FACTOR⌉

def assertWalletHeadroom (balance : WalletBalance) (feeKobo otherActiveQuotedKobo : Int) :
    Except LogisticsProviderError Unit :=
  let needed := neededKobo feeKobo otherActiveQuotedKobo
  if balance.availableKobo < needed then
    .error
      { providerKey := SENDII_KEY
        operation := "createDelivery"
        detail := "INSUFFICIENT_WALLET_HEADROOM: available " ++ toString balance.availableKobo ++
          " kobo, needed " ++ toString needed ++ " kobo"
        retryable := false }
  else .ok ()

/-- The fee a leg in flight was quoted; a `NULL` adds nothing to a sum. -/
def quotedInFlight (providerKey : String) (leg : DeliveryLegRow) : Int :=
  if decide (leg.providerKey = providerKey) && isActive leg.status then leg.quotedKobo.getD 0 else 0

/-- `COALESCE(SUM("quotedKobo"), 0)` over the provider's legs in progress. -/
def inFlightKobo (providerKey : String) (legs : List DeliveryLegRow) : Int :=
  ((legs.filter fun l => decide (l.providerKey = providerKey) && isActive l.status).map
    fun l => l.quotedKobo.getD 0).sum

/-- The same over its other legs. -/
def otherActiveQuotedKobo (legs : List DeliveryLegRow) (leg : DeliveryLegRow) : Int :=
  ((legs.filter fun l =>
    decide (l.providerKey = leg.providerKey) && decide (l.id ≠ leg.id) && isActive l.status).map
    fun l => l.quotedKobo.getD 0).sum

structure ProviderCapabilities where
  prepaidWallet : Bool
  surchargeHeadroomFactor : Option ℚ

/-- An adapter, with what its wallet call comes back with where it has one. -/
structure LogisticsProvider where
  key : String
  capabilities : ProviderCapabilities
  getBalanceKobo : Option (Except LogisticsProviderError WalletBalance)

structure CourierWallet extends WalletBalance where
  providerKey : String
  reservedForSurchargesKobo : Int
  freeKobo : Int
  lowBalanceAlertKobo : Option Int
  lowBalance : Bool
  deriving DecidableEq, Repr

/-- `CourierWalletService.walletFor`, of the adapter in the registry. The third
argument is the alert threshold in the provider's row. -/
def walletFor (provider : Option LogisticsProvider) (legs : List DeliveryLegRow)
    (lowBalanceAlertKobo : Option Int) :
    Except LogisticsProviderUnavailableException (Option CourierWallet) :=
  match provider.filter fun p => p.capabilities.prepaidWallet with
  | none => .ok none
  | some provider =>
      match provider.getBalanceKobo with
      | none => .ok none
      | some (.error e) => .error ⟨provider.key, "getBalance", e.message⟩
      | some (.ok balance) =>
          let factor := provider.capabilities.surchargeHeadroomFactor.getD 0
          let reserved := ⌈(inFlightKobo provider.key legs : ℚ) * factor⌉
          let free := balance.availableKobo - reserved
          .ok (some
            { balance with
              providerKey := provider.key
              reservedForSurchargesKobo := reserved
              freeKobo := free
              lowBalanceAlertKobo
              lowBalance := lowBalanceAlertKobo.any fun alert => free < alert })

/-- The adapter, with its wallet answering. -/
def sendii (balance : WalletBalance) : LogisticsProvider where
  key := SENDII_KEY
  capabilities := ⟨true, some MAX_SURCHARGE_FACTOR⟩
  getBalanceKobo := some (.ok balance)

/-! ## The courier -/

/-- A delivery in flight at the courier: its fee, which is held, and what it has
been surcharged. -/
structure Delivery where
  feeKobo : Nat
  surchargeKobo : Nat
  deriving DecidableEq, Repr

/-- A leg, with the courier's delivery of it while that is in flight. -/
structure Job where
  leg : DeliveryLegRow
  delivery : Option Delivery
  deriving DecidableEq, Repr

abbrev Job.id (j : Job) : Nat := j.leg.id

def Job.heldKobo (j : Job) : Int := (j.delivery.map fun d => (d.feeKobo : Int)).getD 0

structure World where
  nextId : Nat
  balanceKobo : Int
  jobs : List Job
  deriving DecidableEq, Repr

def World.legs (w : World) : List DeliveryLegRow := w.jobs.map Job.leg

/-- What the courier's wallet call answers: held fees are no longer available. -/
def World.wallet (w : World) : WalletBalance :=
  let heldKobo := (w.jobs.map Job.heldKobo).sum
  { availableKobo := w.balanceKobo - heldKobo, balanceKobo := w.balanceKobo, heldKobo }

/-- A leg is dispatched; it is booked at a fee; and the courier surcharges,
settles or cancels the delivery. What the courier has ended the leg follows
later, as it follows every other status. -/
inductive Action
  | dispatch (orderId attemptNumber : Nat) (providerKey : String)
  | book (legId feeKobo : Nat) (externalId : String)
  | surcharge (legId amountKobo : Nat)
  | settle (legId : Nat)
  | cancel (legId : Nat)
  | follow (legId : Nat) (status : DeliveryLegStatus)
  deriving DecidableEq

/-- A leg `submit` would book at this courier. -/
def Job.bookable (j : Job) : Bool :=
  decide (j.leg.providerKey = SENDII_KEY) && decide (j.leg.status = .requested) &&
    !hasExternalId j.leg && j.delivery.isNone

/-- The booked job: the fee held, and written down as quoted. -/
def Job.booked (j : Job) (feeKobo : Nat) (externalId : String) : Job where
  leg := { j.leg with externalId := some externalId, quotedKobo := some feeKobo }
  delivery := some ⟨feeKobo, 0⟩

def World.store (w : World) (j : Job) : World := { w with jobs := put Job.id j w.jobs }

/-- The job after a booking that is let through. -/
def World.hold (w : World) (j : Job) (feeKobo : Nat) (externalId : String) : World :=
  w.store (j.booked feeKobo externalId)

/-- `createDelivery` comes to its booking call. -/
def admits (w : World) (j : Job) (feeKobo : Nat) : Bool :=
  (assertWalletHeadroom w.wallet feeKobo (otherActiveQuotedKobo w.legs j.leg)).isOk

/-- All surcharges of a delivery stay within the courier's limit. -/
def Delivery.within (d : Delivery) : Prop :=
  (d.surchargeKobo : ℚ) ≤ MAX_SURCHARGE_FACTOR * d.feeKobo

instance (d : Delivery) : Decidable d.within := inferInstanceAs (Decidable (_ ≤ _))

def exec (w : World) : Action → World
  | .dispatch orderId attemptNumber providerKey =>
      let leg := newLeg orderId .forward providerKey .requested attemptNumber none none
      { w with nextId := w.nextId + 1, jobs := w.jobs ++ [⟨{ leg with id := w.nextId }, none⟩] }
  | .book legId feeKobo externalId =>
      match get Job.id legId w.jobs with
      | none => w
      | some j => if j.bookable && admits w j feeKobo then w.hold j feeKobo externalId else w
  | .surcharge legId amountKobo =>
      match get Job.id legId w.jobs with
      | some ⟨leg, some d⟩ =>
          let charged := { d with surchargeKobo := d.surchargeKobo + amountKobo }
          if charged.within then
            { w.store ⟨leg, some charged⟩ with balanceKobo := w.balanceKobo - amountKobo }
          else w
      | _ => w
  | .settle legId =>
      match get Job.id legId w.jobs with
      | some ⟨leg, some d⟩ =>
          { w.store ⟨leg, none⟩ with balanceKobo := w.balanceKobo - d.feeKobo }
      | _ => w
  | .cancel legId =>
      match get Job.id legId w.jobs with
      | some ⟨leg, some _⟩ => w.store ⟨leg, none⟩
      | _ => w
  | .follow legId status =>
      match get Job.id legId w.jobs with
      | none => w
      | some j =>
          if isTerminal j.leg.status || isTerminal status && j.delivery.isSome then w
          else w.store { j with leg := { j.leg with status } }

/-! ## The two formulas agree -/

variable {w : World} {j : Job}

theorem sum_quotedInFlight (providerKey : String) (jobs : List Job) :
    inFlightKobo providerKey (jobs.map Job.leg)
      = (jobs.map fun j => quotedInFlight providerKey j.leg).sum := by
  rw [inFlightKobo, sum_map_filter, List.map_map]
  rfl

/-- The job as if it had not been quoted. -/
def Job.unquoted (j : Job) : Job := { j with leg := { j.leg with quotedKobo := none } }

theorem quotedInFlight_unquoted (providerKey : String) :
    quotedInFlight providerKey j.unquoted.leg = 0 := by
  simp [quotedInFlight, Job.unquoted]

theorem otherActive_eq (w : World) (j : Job) :
    otherActiveQuotedKobo w.legs j.leg
      = ((put Job.id j.unquoted w.jobs).map fun j' =>
          quotedInFlight j.leg.providerKey j'.leg).sum := by
  rw [otherActiveQuotedKobo, sum_map_filter, World.legs, List.map_map, put, update, List.map_map]
  congr 1
  refine List.map_congr_left fun j' _ => ?_
  have hunquoted : j.unquoted.id = j.leg.id := rfl
  by_cases hid : j'.id = j.leg.id
  · simp only [Function.comp_apply, hunquoted, hid, decide_true, if_true, quotedInFlight_unquoted,
      ne_eq, not_true_eq_false, decide_false, Bool.and_false, Bool.false_and, Bool.false_eq_true,
      if_false]
  · simp [quotedInFlight, hunquoted, hid]

/-- The other legs, and what the leg itself was quoted. -/
theorem otherActive_add (hd : Distinct Job.id w.jobs) (hj : j ∈ w.jobs) :
    otherActiveQuotedKobo w.legs j.leg + quotedInFlight j.leg.providerKey j.leg
      = inFlightKobo j.leg.providerKey w.legs := by
  have hkey : j.unquoted.id = j.id := rfl
  have hsum := hd.sum_put (fun j' => quotedInFlight j.leg.providerKey j'.leg) hj hkey
  rw [otherActive_eq, hsum, quotedInFlight_unquoted, add_zero, World.legs, sum_quotedInFlight]

/-- What the wallet shows to be free once a fee is held is what is available
beyond the need of that booking. -/
theorem free_after (available fee other : Int) :
    available - fee - ⌈((other + fee : Int) : ℚ) * MAX_SURCHARGE_FACTOR⌉
      = available - neededKobo fee other := by
  have hneeded : (fee : ℚ) * (1 + MAX_SURCHARGE_FACTOR) + other * MAX_SURCHARGE_FACTOR
      = fee + ((other + fee : Int) : ℚ) * MAX_SURCHARGE_FACTOR := by
    push_cast
    ring
  rw [neededKobo, hneeded, Int.ceil_intCast_add]
  omega

theorem admits_iff (feeKobo : Nat) :
    admits w j feeKobo = true ↔
      neededKobo feeKobo (otherActiveQuotedKobo w.legs j.leg) ≤ w.wallet.availableKobo := by
  simp only [admits, assertWalletHeadroom]
  split
  · next h => simpa [Except.isOk, Except.toBool] using h
  · next h => simpa [Except.isOk, Except.toBool] using h

theorem Job.bookable_parts (h : j.bookable = true) :
    j.leg.providerKey = SENDII_KEY ∧ j.leg.status = .requested ∧ j.delivery = none := by
  simp only [Job.bookable, Bool.and_eq_true, decide_eq_true_eq, Option.isNone_iff_eq_none] at h
  exact ⟨h.1.1.1, h.1.1.2, h.2⟩

/-- The fee held. -/
theorem available_hold (hd : Distinct Job.id w.jobs) (hj : j ∈ w.jobs) (hnone : j.delivery = none)
    (feeKobo : Nat) (externalId : String) :
    (w.hold j feeKobo externalId).wallet.availableKobo = w.wallet.availableKobo - feeKobo := by
  have hkey : (j.booked feeKobo externalId).id = j.id := rfl
  have hsum := hd.sum_put Job.heldKobo hj hkey
  have hheld : j.heldKobo = 0 := by simp [Job.heldKobo, hnone]
  have hbooked : (j.booked feeKobo externalId).heldKobo = feeKobo := rfl
  rw [hheld, hbooked, add_zero] at hsum
  simp only [World.wallet, World.hold, World.store, hsum]
  omega

/-- The fee added to the sum over the legs in flight. -/
theorem inFlight_hold (hd : Distinct Job.id w.jobs) (hj : j ∈ w.jobs) (hb : j.bookable = true)
    (feeKobo : Nat) (externalId : String) :
    inFlightKobo SENDII_KEY (w.hold j feeKobo externalId).legs
      = otherActiveQuotedKobo w.legs j.leg + feeKobo := by
  obtain ⟨hprovider, hstatus, -⟩ := Job.bookable_parts hb
  have hkey : (j.booked feeKobo externalId).id = j.id := rfl
  have hsum := hd.sum_put (fun j' => quotedInFlight SENDII_KEY j'.leg) hj hkey
  have hbooked : quotedInFlight SENDII_KEY (j.booked feeKobo externalId).leg = feeKobo := by
    simp [quotedInFlight, Job.booked, hprovider, hstatus, activeLegStatuses]
  have hother := otherActive_add hd hj
  rw [hprovider] at hother
  have hlegs : inFlightKobo SENDII_KEY (w.hold j feeKobo externalId).legs
      = ((put Job.id (j.booked feeKobo externalId) w.jobs).map
          fun j' => quotedInFlight SENDII_KEY j'.leg).sum := sum_quotedInFlight _ _
  have htotal : inFlightKobo SENDII_KEY w.legs
      = (w.jobs.map fun j' => quotedInFlight SENDII_KEY j'.leg).sum := sum_quotedInFlight _ _
  rw [hlegs]
  omega

/-- **The two places agree**: a booking is let through just when the wallet
shown right after it has nothing negative to show. -/
theorem admits_iff_free (hd : Distinct Job.id w.jobs) (hj : j ∈ w.jobs) (hb : j.bookable = true)
    (feeKobo : Nat) (externalId : String) (alert : Option Int) :
    admits w j feeKobo = true ↔
      ∃ wallet, walletFor (some (sendii (w.hold j feeKobo externalId).wallet))
        (w.hold j feeKobo externalId).legs alert = .ok (some wallet) ∧ 0 ≤ wallet.freeKobo := by
  obtain ⟨-, -, hnone⟩ := Job.bookable_parts hb
  have hfree := free_after w.wallet.availableKobo feeKobo (otherActiveQuotedKobo w.legs j.leg)
  have havailable := available_hold hd hj hnone feeKobo externalId
  have hflight := inFlight_hold hd hj hb feeKobo externalId
  have hshown : ∀ wallet, walletFor (some (sendii (w.hold j feeKobo externalId).wallet))
      (w.hold j feeKobo externalId).legs alert = .ok (some wallet) →
      wallet.freeKobo = w.wallet.availableKobo
        - neededKobo feeKobo (otherActiveQuotedKobo w.legs j.leg) := by
    intro wallet hwallet
    simp only [walletFor, sendii, Option.filter, if_true, Option.getD_some, hflight, havailable,
      Except.ok.injEq, Option.some.injEq] at hwallet
    rw [← hwallet, ← hfree]
  rw [admits_iff]
  constructor
  · intro hneeded
    refine ⟨_, rfl, ?_⟩
    have hshown' := hshown _ rfl
    omega
  · rintro ⟨wallet, hwallet, hnonneg⟩
    have hshown' := hshown wallet hwallet
    omega

/-! ## What the courier may still take -/

/-- The surcharges a delivery may still cost. -/
def Delivery.exposure (d : Delivery) : ℚ := MAX_SURCHARGE_FACTOR * d.feeKobo - d.surchargeKobo

def Job.exposure (j : Job) : ℚ := (j.delivery.map Delivery.exposure).getD 0

/-- The fee held and the surcharges to come. -/
def Job.reserve (j : Job) : ℚ := j.heldKobo + j.exposure

structure Job.Sound (j : Job) : Prop where
  quoted : 0 ≤ quotedInFlight SENDII_KEY j.leg
  within : ∀ d ∈ j.delivery, d.within
  inFlight : ∀ d ∈ j.delivery, quotedInFlight SENDII_KEY j.leg = d.feeKobo

/-- The balance covers all that the courier may still take from it. -/
structure Covered (w : World) : Prop where
  distinct : Distinct Job.id w.jobs
  ids_lt : ∀ j ∈ w.jobs, j.id < w.nextId
  sound : ∀ j ∈ w.jobs, j.Sound
  covered : (w.jobs.map Job.reserve).sum ≤ w.balanceKobo

/-- No delivery in flight, and a wallet that holds something or nothing. -/
structure Start (w : World) : Prop where
  distinct : Distinct Job.id w.jobs
  ids_lt : ∀ j ∈ w.jobs, j.id < w.nextId
  balance : 0 ≤ w.balanceKobo
  idle : ∀ j ∈ w.jobs, j.delivery = none
  unquoted : ∀ j ∈ w.jobs, quotedInFlight SENDII_KEY j.leg = 0

theorem exposure_nonneg (h : j.Sound) : 0 ≤ j.exposure := by
  unfold Job.exposure
  cases hd : j.delivery with
  | none => exact le_refl 0
  | some d =>
      have hwithin : (d.surchargeKobo : ℚ) ≤ MAX_SURCHARGE_FACTOR * d.feeKobo := h.within d hd
      simpa [Delivery.exposure] using hwithin

theorem exposure_le (h : j.Sound) :
    j.exposure ≤ MAX_SURCHARGE_FACTOR * quotedInFlight SENDII_KEY j.leg := by
  unfold Job.exposure
  cases hd : j.delivery with
  | none =>
      have hquoted : (0 : ℚ) ≤ quotedInFlight SENDII_KEY j.leg := by exact_mod_cast h.quoted
      simpa [MAX_SURCHARGE_FACTOR] using hquoted
  | some d =>
      rw [h.inFlight d hd]
      simp [Delivery.exposure]

theorem sum_reserve (jobs : List Job) :
    (jobs.map Job.reserve).sum
      = ((jobs.map Job.heldKobo).sum : Int) + (jobs.map Job.exposure).sum := by
  induction jobs with
  | nil => simp
  | cons j jobs ih =>
      simp only [List.map_cons, List.sum_cons, ih, Job.reserve]
      push_cast
      ring

theorem Start.covered (h : Start w) : Covered w := by
  have hnone : ∀ j ∈ w.jobs, ∀ d, d ∉ j.delivery := by
    intro j hj d hd
    rw [h.idle j hj] at hd
    cases hd
  refine ⟨h.distinct, h.ids_lt, ?_, ?_⟩
  · intro j hj
    refine ⟨(h.unquoted j hj).ge, ?_, ?_⟩
    · exact fun d hd => absurd hd (hnone j hj d)
    · exact fun d hd => absurd hd (hnone j hj d)
  · have hzero : (w.jobs.map Job.reserve).sum = 0 := by
      refine List.sum_eq_zero fun x hx => ?_
      obtain ⟨j, hj, rfl⟩ := List.mem_map.mp hx
      simp [Job.reserve, Job.heldKobo, Job.exposure, h.idle j hj]
    rw [hzero]
    exact_mod_cast h.balance

theorem Covered.available_nonneg (h : Covered w) : 0 ≤ w.wallet.availableKobo := by
  have hexposure : 0 ≤ (w.jobs.map Job.exposure).sum := by
    refine List.sum_nonneg fun x hx => ?_
    obtain ⟨j, hj, rfl⟩ := List.mem_map.mp hx
    exact exposure_nonneg (h.sound j hj)
  have hcovered := h.covered
  rw [sum_reserve] at hcovered
  have hheld : (((w.jobs.map Job.heldKobo).sum : Int) : ℚ) ≤ w.balanceKobo := by linarith
  have hheld' : (w.jobs.map Job.heldKobo).sum ≤ w.balanceKobo := by exact_mod_cast hheld
  exact Int.sub_nonneg_of_le hheld'

/-! ## Steps -/

/-- A job is stored, and the balance covers the reserves with it. -/
theorem Covered.replace (h : Covered w) (hj : j ∈ w.jobs) {j' : Job} {balanceKobo : Int}
    (hid : j'.id = j.id) (hsound : j'.Sound)
    (hbalance : (w.jobs.map Job.reserve).sum + j'.reserve ≤ balanceKobo + j.reserve) :
    Covered { w.store j' with balanceKobo } := by
  refine ⟨h.distinct.put j', ?_, ?_, ?_⟩
  · intro x hx
    rcases mem_put.mp hx with ⟨rfl, -⟩ | ⟨hx, -⟩
    · exact hid ▸ h.ids_lt j hj
    · exact h.ids_lt x hx
  · intro x hx
    rcases mem_put.mp hx with ⟨rfl, -⟩ | ⟨hx, -⟩
    · exact hsound
    · exact h.sound x hx
  · have hsum := h.distinct.sum_put Job.reserve hj hid
    change ((put Job.id j' w.jobs).map Job.reserve).sum ≤ (balanceKobo : ℚ)
    linarith

/-- A job is stored while the balance moves by no less than the reserve does. -/
theorem Covered.store (h : Covered w) (hj : j ∈ w.jobs) (j' : Job) (balanceKobo : Int)
    (hid : j'.id = j.id) (hsound : j'.Sound)
    (hbalance : j'.reserve - j.reserve ≤ balanceKobo - w.balanceKobo) :
    Covered { w.store j' with balanceKobo } := by
  have hcovered := h.covered
  exact h.replace hj hid hsound (by linarith)

/-- The deliveries in flight are among the legs that a booking counts. -/
theorem Covered.exposed (h : Covered w) (hj : j ∈ w.jobs) (hb : j.bookable = true) :
    (w.jobs.map Job.exposure).sum
      ≤ MAX_SURCHARGE_FACTOR * otherActiveQuotedKobo w.legs j.leg := by
  obtain ⟨hprovider, -, hnone⟩ := Job.bookable_parts hb
  have hkey : j.unquoted.id = j.id := rfl
  have hput := h.distinct.sum_put Job.exposure hj hkey
  have hsame : j.unquoted.exposure = j.exposure := rfl
  rw [hsame, add_left_inj] at hput
  rw [← hput, otherActive_eq, hprovider]
  have hle : ∀ x ∈ put Job.id j.unquoted w.jobs,
      x.exposure ≤ MAX_SURCHARGE_FACTOR * quotedInFlight SENDII_KEY x.leg := by
    intro x hx
    rcases mem_put.mp hx with ⟨rfl, -⟩ | ⟨hx, -⟩
    · have hidle : j.unquoted.exposure = 0 := by simp [Job.exposure, Job.unquoted, hnone]
      rw [hidle, quotedInFlight_unquoted, Int.cast_zero, mul_zero]
    · exact exposure_le (h.sound x hx)
  refine le_trans (List.sum_le_sum hle) (le_of_eq ?_)
  rw [List.sum_map_mul_left, Int.cast_list_sum, List.map_map]
  rfl

/-- **A booking that is let through** leaves the wallet covered. -/
theorem Covered.hold (h : Covered w) (hj : j ∈ w.jobs) (hb : j.bookable = true) {feeKobo : Nat}
    (hadmits : admits w j feeKobo = true) (externalId : String) :
    Covered (w.hold j feeKobo externalId) := by
  obtain ⟨hprovider, hstatus, hnone⟩ := Job.bookable_parts hb
  have hexposed := h.exposed hj hb
  have hneeded := (admits_iff feeKobo).mp hadmits
  have hceil : (feeKobo : ℚ) * (1 + MAX_SURCHARGE_FACTOR)
      + otherActiveQuotedKobo w.legs j.leg * MAX_SURCHARGE_FACTOR ≤ w.wallet.availableKobo := by
    refine le_trans (Int.le_ceil _) ?_
    exact_mod_cast hneeded
  have havailable : (w.wallet.availableKobo : ℚ)
      = w.balanceKobo - ((w.jobs.map Job.heldKobo).sum : Int) := by
    simp [World.wallet]
  have hquoted : quotedInFlight SENDII_KEY (j.booked feeKobo externalId).leg = feeKobo := by
    simp [quotedInFlight, Job.booked, hprovider, hstatus, activeLegStatuses]
  have hsound : (j.booked feeKobo externalId).Sound := by
    refine ⟨hquoted ▸ Int.natCast_nonneg feeKobo, ?_, ?_⟩
    · rintro d ⟨⟩
      simp [Delivery.within, MAX_SURCHARGE_FACTOR]
    · rintro d ⟨⟩
      exact hquoted
  have hbefore : j.reserve = 0 := by simp [Job.reserve, Job.heldKobo, Job.exposure, hnone]
  have hafter : (j.booked feeKobo externalId).reserve
      = feeKobo * (1 + MAX_SURCHARGE_FACTOR) := by
    simp [Job.reserve, Job.heldKobo, Job.exposure, Job.booked, Delivery.exposure]
    ring
  have hbalance : (w.jobs.map Job.reserve).sum + (j.booked feeKobo externalId).reserve
      ≤ w.balanceKobo + j.reserve := by
    rw [hbefore, hafter, add_zero, sum_reserve w.jobs]
    linarith
  exact h.replace hj rfl hsound hbalance

/-- **A delivery ends**, and no more is charged for it than its fee. -/
theorem Covered.ended (h : Covered w) {leg : DeliveryLegRow} {d : Delivery}
    (hj : ⟨leg, some d⟩ ∈ w.jobs) {balanceKobo : Int}
    (hbalance : w.balanceKobo ≤ balanceKobo + d.feeKobo) :
    Covered { w.store ⟨leg, none⟩ with balanceKobo } := by
  have hs := h.sound _ hj
  have hexposure := exposure_nonneg hs
  refine h.store hj _ _ rfl ⟨hs.quoted, ?_, ?_⟩ ?_
  · rintro d' ⟨⟩
  · rintro d' ⟨⟩
  · have hheld : Job.heldKobo ⟨leg, some d⟩ = d.feeKobo := rfl
    have hafter : Job.reserve ⟨leg, none⟩ = 0 := by
      simp [Job.reserve, Job.heldKobo, Job.exposure]
    have hbalance' : (w.balanceKobo : ℚ) ≤ balanceKobo + d.feeKobo := by exact_mod_cast hbalance
    rw [hafter, Job.reserve, hheld]
    push_cast
    linarith

theorem Covered.dispatch (h : Covered w) {leg : DeliveryLegRow} (hid : leg.id = w.nextId)
    (hquoted : leg.quotedKobo = none) :
    Covered { w with nextId := w.nextId + 1, jobs := w.jobs ++ [⟨leg, none⟩] } := by
  refine ⟨h.distinct.append_singleton ?_, ?_, ?_, ?_⟩
  · intro x hx
    have hlt := h.ids_lt x hx
    change x.id ≠ leg.id
    omega
  · intro x hx
    rcases List.mem_append.mp hx with hx | hx
    · exact Nat.lt_succ_of_lt (h.ids_lt x hx)
    · obtain rfl := List.mem_singleton.mp hx
      change leg.id < w.nextId + 1
      omega
  · intro x hx
    rcases List.mem_append.mp hx with hx | hx
    · exact h.sound x hx
    · obtain rfl := List.mem_singleton.mp hx
      refine ⟨?_, ?_, ?_⟩
      · simp [quotedInFlight, hquoted]
      · rintro d ⟨⟩
      · rintro d ⟨⟩
  · have hcovered := h.covered
    simpa [Job.reserve, Job.heldKobo, Job.exposure] using hcovered

theorem isActive_eq_not_isTerminal (status : DeliveryLegStatus) :
    isActive status = !isTerminal status := by
  cases status <;> rfl

/-- A delivery in flight keeps its leg in the sum. -/
theorem Job.Sound.follow (h : j.Sound) {status : DeliveryLegStatus}
    (hopen : (isTerminal j.leg.status || isTerminal status && j.delivery.isSome) = false) :
    Job.Sound { j with leg := { j.leg with status } } := by
  obtain ⟨hleg, hstatus⟩ := Bool.or_eq_false_iff.mp hopen
  have hactive : isActive j.leg.status = true := by rw [isActive_eq_not_isTerminal, hleg]; rfl
  have hsame : isActive status = true →
      quotedInFlight SENDII_KEY { j.leg with status } = quotedInFlight SENDII_KEY j.leg := by
    intro h'
    simp [quotedInFlight, hactive, h']
  refine ⟨?_, h.within, ?_⟩
  · by_cases h' : isActive status = true
    · exact hsame h' ▸ h.quoted
    · simp [quotedInFlight, h']
  · intro d hd
    have hd' : j.delivery = some d := hd
    have hgoing : isTerminal status = false := by simpa [hd'] using hstatus
    have h' : isActive status = true := by rw [isActive_eq_not_isTerminal, hgoing]; rfl
    exact (hsame h').trans (h.inFlight d hd)

/-- Every action leaves the wallet covered. -/
theorem Covered.exec (h : Covered w) (a : Action) : Covered (exec w a) := by
  unfold Wallets.exec
  cases a with
  | dispatch orderId attemptNumber providerKey => exact h.dispatch rfl rfl
  | book legId feeKobo externalId =>
      simp only
      split
      · exact h
      · next j hget =>
          split
          · next hlet =>
              obtain ⟨hb, hadmits⟩ := Bool.and_eq_true_iff.mp hlet
              exact h.hold (get_some hget).1 hb hadmits externalId
          · exact h
  | surcharge legId amountKobo =>
      simp only
      split
      · next leg d hget =>
          obtain ⟨hj, -⟩ := get_some hget
          have hs := h.sound _ hj
          split
          · next hwithin =>
              refine h.store hj _ _ rfl ⟨hs.quoted, ?_, ?_⟩ ?_
              · rintro d' ⟨⟩
                exact hwithin
              · rintro d' ⟨⟩
                exact hs.inFlight d rfl
              · simp only [Job.reserve, Job.heldKobo, Job.exposure, Delivery.exposure,
                  Option.map_some, Option.getD_some]
                push_cast
                linarith
          · exact h
      · exact h
  | settle legId =>
      simp only
      split
      · next leg d hget =>
          obtain ⟨hj, -⟩ := get_some hget
          exact h.ended hj (by omega)
      · exact h
  | cancel legId =>
      simp only
      split
      · next leg d hget =>
          obtain ⟨hj, -⟩ := get_some hget
          have hfee : w.balanceKobo ≤ w.balanceKobo + d.feeKobo := by omega
          exact h.ended hj hfee
      · exact h
  | follow legId status =>
      simp only
      split
      · exact h
      · next j hget =>
          split
          · exact h
          · next hopen =>
              obtain ⟨hj, -⟩ := get_some hget
              have hsound := (h.sound j hj).follow (Bool.eq_false_iff.mpr hopen)
              refine h.store hj _ w.balanceKobo rfl hsound ?_
              simp [Job.reserve, Job.heldKobo, Job.exposure]

/-- From an empty in-flight set, through every run of bookings, surcharges,
settlements and cancellations: nothing negative is available in the wallet, and
a booking is let through just when the wallet shown after it is not negative. -/
theorem headroom_keeps_wallet_solvent (h : Start w) (as : List Action) :
    Runs.Always exec
      (fun w => 0 ≤ w.wallet.availableKobo ∧
        ∀ j ∈ w.jobs, j.bookable = true → ∀ (feeKobo : Nat) (externalId : String)
          (alert : Option Int), (admits w j feeKobo = true ↔
            ∃ wallet, walletFor (some (sendii (w.hold j feeKobo externalId).wallet))
              (w.hold j feeKobo externalId).legs alert = .ok (some wallet) ∧
              0 ≤ wallet.freeKobo)) w as := by
  have hcovered : Runs.Always Wallets.exec Covered w as :=
    Runs.always_invariant (P := Covered) (fun _ a hw => Covered.exec hw a) h.covered as
  refine hcovered.mono fun w hw => ⟨hw.available_nonneg, ?_⟩
  intro j hj hb feeKobo externalId alert
  exact admits_iff_free hw.distinct hj hb feeKobo externalId alert

/-- A booking at 500, surcharged as far as the courier may, and settled: 800 is
just enough. -/
theorem headroom_keeps_wallet_solvent_once :
    (Runs.run exec ⟨1, 80000, []⟩
      [.dispatch 1 1 SENDII_KEY, .book 1 50000 "SND-1", .surcharge 1 30000, .settle 1]).wallet
        = ⟨0, 0, 0⟩ ∧
    Runs.Always exec
      (fun w => 0 ≤ w.wallet.availableKobo ∧
        ∀ j ∈ w.jobs, j.bookable = true → ∀ (feeKobo : Nat) (externalId : String)
          (alert : Option Int), (admits w j feeKobo = true ↔
            ∃ wallet, walletFor (some (sendii (w.hold j feeKobo externalId).wallet))
              (w.hold j feeKobo externalId).legs alert = .ok (some wallet) ∧
              0 ≤ wallet.freeKobo)) ⟨1, 80000, []⟩
      [.dispatch 1 1 SENDII_KEY, .book 1 50000 "SND-1", .surcharge 1 30000, .settle 1] :=
  ⟨by decide +kernel, headroom_keeps_wallet_solvent
    ⟨by decide, by simp, by decide, by simp, by simp⟩ _⟩

end Locoomo.Wallets
