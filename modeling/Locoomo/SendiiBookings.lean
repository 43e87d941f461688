import Locoomo.Couriers
import Locoomo.Sendii

/-! Deliveries at Sendii. One is booked under the leg's id, so that a call whose
answer was lost can be made again. Sendii's server is not part of the code: what
the code counts on is stated of any server, and with such a one in place the
system runs as it does beside any courier that takes a leg on once. -/

namespace Locoomo.SendiiBookings

open Locoomo.Delivery Locoomo.Database Locoomo.Routing Locoomo.Logistics Locoomo.Retries
  Locoomo.Wallets Locoomo.System Locoomo.Interleaved Locoomo.Sendii Relational

/-! ## Sendii's server -/

abbrev Service := External.Service (String × String) (String × Nat)

/-- The two calls that change something at Sendii: what an attempt comes to, and
Sendii after it. `ω` is whatever else that depends on, the network included. -/
structure Server (ω : Type) where
  post : ω → CreateBody → Service → Attempt SendiiDelivery × Service
  delete : ω → String → Service → Attempt SendiiDelivery × Service

/-- Sendii's id of the delivery in progress under a reference. -/
def inProgress (s : Service) (ref : Nat) : Option String :=
  (get External.Entry.ref (SENDII_KEY, ref) s.live).map fun x => x.name.2

variable {ω : Type}

/-- `external_ref` is the idempotency key: `POST /deliveries` books one delivery at
most, under an id of its own, and none while one is active under the reference. -/
def PostBooksOnce (server : Server ω) : Prop :=
  ∀ o body s, (server.post o body s).2 = s ∨
    ∃ id, inProgress s body.externalRef = none ∧ External.isFresh s (SENDII_KEY, id) = true ∧
      (server.post o body s).2
        = ⟨s.live ++ [⟨(SENDII_KEY, id), (SENDII_KEY, body.externalRef)⟩], s.closed⟩

/-- A usable answer hands over the delivery in progress under the reference, be it
new or with 409 "the existing delivery"; a refusal comes where there is none. -/
def PostAnswers (server : Server ω) : Prop :=
  ∀ o body s, Unheard (server.post o body s).1 ∨
    (server.post o body s).1.data.map SendiiDelivery.id
      = inProgress (server.post o body s).2 body.externalRef

/-- `DELETE /deliveries/:id` ends that delivery or none. -/
def DeleteEnds (server : Server ω) : Prop :=
  ∀ o id s, (server.delete o id s).2 = s ∨
    (server.delete o id s).2 = External.close s (SENDII_KEY, id)

/-- It succeeds for a delivery that is cancelled, now or before; one past pickup
answers 409. -/
def DeleteAnswers (server : Server ω) : Prop :=
  ∀ o id s response envelope,
    (server.delete o id s).1 = ⟨.answered response, some envelope⟩ → envelope.success = true →
      response.status ≠ 409 → (server.delete o id s).2 = External.close s (SENDII_KEY, id)

/-- What the code counts on. -/
structure Documented (server : Server ω) : Prop where
  booksOnce : PostBooksOnce server
  answers : PostAnswers server
  ends : DeleteEnds server
  agrees : DeleteAnswers server

/-! ## The calls -/

/-- Sendii after the first attempts of a call. -/
def after (act : ω → Service → Attempt SendiiDelivery × Service) (fates : Nat → ω) (s : Service) :
    Nat → Service
  | 0 => s
  | n + 1 => (act (fates n) (after act fates s n)).2

def attempt (act : ω → Service → Attempt SendiiDelivery × Service) (fates : Nat → ω) (s : Service)
    (n : Nat) : Attempt SendiiDelivery :=
  (act (fates n) (after act fates s n)).1

/-- What the calls of one `createDelivery` meet. -/
structure Network (ω : Type) where
  quotes : Nat → Attempt SendiiQuote
  wallet : Nat → Attempt SendiiWallet
  posts : Nat → ω

/-- `createDelivery`, and Sendii after it. -/
def createDelivery (server : Server ω) (b : Builtins) (net : Network ω)
    (request : CreateDeliveryRequest) (s : Service) :
    Except ProviderError CreateDeliveryAnswer × Service :=
  match prepare b net.quotes net.wallet request with
  | .error e => (.error e, s)
  | .ok (body, quote) =>
      let post := fun o => server.post o body
      let (calls, answer) := sendiiRequest b "createDelivery" SENDII_WRITE_POLICY
        (attempt post net.posts s)
      let s' := after post net.posts s calls
      match answer with
      | .error e => (.error e, s')
      | .ok (status, envelope) =>
          match envelope.data with
          | none =>
              (.error (providerError "createDelivery"
                ("HTTP " ++ toString status ++ " with no delivery in the response")
                (status = 409)), s')
          | some delivery =>
              (.ok
                { externalId := some delivery.id
                  status := STATUS delivery.status
                  providerStatus := some delivery.status.name
                  quotedKobo := some (nairaToKobo delivery.fee)
                  trackingUrl := delivery.trackingUrl
                  etaMinutes := some quote.etaMinutes
                  distanceMeters := quote.distanceM }, s')

/-- `cancel`, and Sendii after it. -/
def cancel (server : Server ω) (b : Builtins) (fates : Nat → ω) (externalId : Option String)
    (s : Service) : Except ProviderError Unit × Service :=
  match externalId.filter (· ≠ "") with
  | none => (.ok (), s)
  | some externalId =>
      let delete := fun o => server.delete o externalId
      let (calls, answer) := sendiiRequest b "cancel" SENDII_WRITE_POLICY (attempt delete fates s)
      (do
        let (status, _) ← answer
        if status = 409 then
          .error (providerError "cancel" "delivery can no longer be cancelled" false)
        else .ok (), after delete fates s calls)

/-! ## The system with the adapter -/

inductive Action (ω : Type)
  | beside (a : Couriers.Action)
  | createDelivery (i : Nat) (request : CreateDeliveryRequest) (net : Network ω)
  | cancelDelivery (i : Nat) (fates : Nat → ω)

/-- The leg of a call to the courier. -/
def legOf (w : Couriers.World) : Couriers.Action → Option DeliveryLegRow
  | .create i _ => (w.work.submissions[i]?).map Submission.leg
  | .cancel i _ => (w.work.endings[i]?).map Ending.leg
  | _ => none

/-- Other couriers' calls, and what takes no call. -/
def isBeside (w : Couriers.World) (a : Couriers.Action) : Bool :=
  (legOf w a).all fun leg => leg.providerKey ≠ SENDII_KEY

/-- The submission's leg, when Sendii is to be asked for it. -/
def submitting (d : Deployment) (w : Couriers.World) (i : Nat) : Option DeliveryLegRow :=
  match w.work.submissions[i]? with
  | some ⟨leg, none⟩ =>
      if leg.providerKey = SENDII_KEY ∧ Couriers.isRemote d leg = true then some leg else none
  | _ => none

/-- The same of a cancellation. -/
def ending (d : Deployment) (w : Couriers.World) (i : Nat) : Option Ending :=
  (w.work.endings[i]?).filter fun ending =>
    ending.leg.providerKey = SENDII_KEY && asksCourier d ending

/-- The request for the leg, from `buildRequest` and `otherActiveQuotedKobo`. -/
def requestFor (w : Couriers.World) (leg : DeliveryLegRow) (request : CreateDeliveryRequest) :
    CreateDeliveryRequest :=
  { request with
    legId := leg.id
    otherActiveQuotedKobo := some (Wallets.otherActiveQuotedKobo w.work.db.legs leg) }

/-- How `submit` takes the end of the call. -/
def submitAnswer : Except ProviderError CreateDeliveryAnswer → SubmitAnswer
  | .ok answer => .booked answer.toCreateDeliveryResult
  | .error e => if e.retryable then .failed else .refused e.message

def exec (server : Server ω) (b : Builtins) (d : Deployment) (w : Couriers.World) :
    Action ω → Couriers.World
  | .beside a => if isBeside w a then Couriers.exec d w a else w
  | .createDelivery i request net =>
      match submitting d w i with
      | none => w
      | some leg =>
          let (result, couriers) :=
            createDelivery server b net (requestFor w leg request) w.couriers
          Couriers.answer d { w with couriers } i (submitAnswer result)
  | .cancelDelivery i fates =>
      match ending d w i with
      | none => w
      | some ending =>
          let (result, couriers) := cancel server b fates ending.leg.externalId w.couriers
          { work := Interleaved.exec d w.work (.cancelAtProvider i result.isOk), couriers }

def run (server : Server ω) (b : Builtins) (d : Deployment) (w : Couriers.World)
    (as : List (Action ω)) : Couriers.World :=
  Runs.run (exec server b d) w as

/-- The delivery that a call without a usable answer has booked all the same. -/
def bookedUnheard (leg : DeliveryLegRow) (s s' : Service) : Option String :=
  match inProgress s leg.id, inProgress s' leg.id with
  | none, some externalId => some externalId
  | _, _ => none

/-- The courier's side of a call of `createDelivery`. -/
def replyOf (leg : DeliveryLegRow) (s : Service) :
    Except ProviderError CreateDeliveryAnswer × Service → Couriers.Reply
  | (.ok answer, _) =>
      .accepted (answer.externalId.getD "") answer.toCreateDeliveryResult true
  | (.error e, s') =>
      if e.retryable then
        match bookedUnheard leg s s' with
        | some externalId => .accepted externalId ⟨none, none, none, none, none⟩ false
        | none => .unavailable
      else .refused e.message

/-- What an action is, to a system that knows couriers by their replies only. -/
def steps (server : Server ω) (b : Builtins) (d : Deployment) (w : Couriers.World) :
    Action ω → List Couriers.Action
  | .beside a => if isBeside w a then [a] else []
  | .createDelivery i request net =>
      match submitting d w i with
      | none => []
      | some leg =>
          [.create i (replyOf leg w.couriers
            (createDelivery server b net (requestFor w leg request) w.couriers))]
  | .cancelDelivery i fates =>
      match ending d w i with
      | none => []
      | some ending =>
          let (result, couriers) := cancel server b fates ending.leg.externalId w.couriers
          -- an end whose answer was lost is one of Sendii's own
          (if result.isOk = true ∨ couriers = w.couriers then []
            else [.finish (SENDII_KEY, ending.leg.externalId.getD "")]) ++
            [.cancel i result.isOk]

def trace (server : Server ω) (b : Builtins) (d : Deployment) (w : Couriers.World)
    (as : List (Action ω)) : List Couriers.Action :=
  Runs.trace (exec server b d) (steps server b d) w as

variable {server : Server ω} {b : Builtins} {d : Deployment} {w : Couriers.World}

/-! ## One delivery a leg -/

/-- The reference has its delivery at Sendii afterwards, under this name. -/
def Took (s : Service) (ref : Nat) (name : String × String) (s' : Service) : Prop :=
  ∃ id, External.opened s (SENDII_KEY, id) (SENDII_KEY, ref) = some (name, s')

variable {s s' : Service} {ref : Nat} {name : String × String}

theorem Took.inProgress (h : Took s ref name s') : inProgress s' ref = some name.2 := by
  obtain ⟨id, hopened⟩ := h
  obtain ⟨x, hx, rfl⟩ := External.get_opened hopened
  simp [SendiiBookings.inProgress, hx]

/-- A delivery in progress is there to be found. -/
theorem took_of_inProgress {id : String} (h : inProgress s ref = some id) :
    ∃ name, Took s ref name s ∧ name.2 = id := by
  obtain ⟨x, hx, hid⟩ := Option.map_eq_some_iff.mp h
  refine ⟨x.name, ⟨"", ?_⟩, hid⟩
  rw [External.opened, hx]

/-- What every attempt keeps, any number of them does. -/
theorem after_invariant {act : ω → Service → Attempt SendiiDelivery × Service}
    {P : Service → Prop} (hstep : ∀ o t, P t → P (act o t).2) (h0 : P s) (fates : Nat → ω)
    (n : Nat) : P (after act fates s n) := by
  induction n with
  | zero => exact h0
  | succ n ih => exact hstep (fates n) _ ih

/-- What any number of POSTs leave: Sendii as it was, or with the one delivery. -/
theorem after_post (h : PostBooksOnce server) (body : CreateBody) (posts : Nat → ω) (s : Service)
    (n : Nat) :
    after (fun o => server.post o body) posts s n = s ∨
      ∃ name, Took s body.externalRef name (after (fun o => server.post o body) posts s n) := by
  refine after_invariant (P := fun t => t = s ∨ ∃ name, Took s body.externalRef name t) ?_
    (Or.inl rfl) posts n
  rintro o t ht
  rcases h o body t with hsame | ⟨id, habsent, hfresh, hbooked⟩
  · rw [hsame]
    exact ht
  · rw [hbooked]
    rcases ht with rfl | ⟨name, htook⟩
    · refine Or.inr ⟨(SENDII_KEY, id), id, ?_⟩
      have hnone := Option.map_eq_none_iff.mp habsent
      rw [External.opened, hnone]
      simp only [hfresh, if_true]
    · -- there is one already
      rw [htook.inProgress] at habsent
      cases habsent

theorem prepare_ref {quotes : Nat → Attempt SendiiQuote} {wallet : Nat → Attempt SendiiWallet}
    {request : CreateDeliveryRequest} {body : CreateBody} {quote : SendiiQuote}
    (h : prepare b quotes wallet request = .ok (body, quote)) :
    body.externalRef = request.legId := by
  simp only [prepare] at h
  split at h
  · cases h
  · cases h
  · next phone _ =>
      cases hquote : call b "quote" SENDII_READ_POLICY quotes with
      | error e =>
          rw [hquote] at h
          cases h
      | ok quote' =>
          rw [hquote] at h
          simp only [bind, Except.bind] at h
          split at h
          · cases h
          · split at h
            · split at h
              · cases h
              · cases h
                rfl
            · cases h
              rfl

/-- How a call of `createDelivery` can go, and what it leaves at Sendii. -/
inductive Created (ref : Nat) (s : Service) :
    Except ProviderError CreateDeliveryAnswer → Service → Prop
  | refused (e : ProviderError) : Created ref s (.error e) s
  | unheard {e : ProviderError} {name : String × String} {s' : Service}
      (retryable : e.retryable = true) (took : Took s ref name s') : Created ref s (.error e) s'
  | booked {answer : CreateDeliveryAnswer} {name : String × String} {s' : Service}
      (took : Took s ref name s') (named : answer.externalId = some name.2) :
      Created ref s (.ok answer) s'

/-- **An error that is not to be retried has booked nothing**, and an answer names
the delivery that is there under the leg's id. -/
theorem createDelivery_created (h : Documented server) (b : Builtins) (net : Network ω)
    (request : CreateDeliveryRequest) (s : Service) :
    Created request.legId s (createDelivery server b net request s).1
      (createDelivery server b net request s).2 := by
  rw [createDelivery]
  cases hprepare : prepare b net.quotes net.wallet request with
  | error e => exact .refused e
  | ok prepared =>
      obtain ⟨body, quote⟩ := prepared
      simp only
      rw [← prepare_ref hprepare]
      obtain ⟨n, hn⟩ := sendiiRequest_eq b "createDelivery" SENDII_WRITE_POLICY
        (attempt (fun o => server.post o body) net.posts s)
      rw [hn]
      have hleft := after_post h.booksOnce body net.posts s (n + 1)
      have hlast : Unheard (attempt (fun o => server.post o body) net.posts s n) ∨
          (attempt (fun o => server.post o body) net.posts s n).data.map SendiiDelivery.id
            = inProgress (after (fun o => server.post o body) net.posts s (n + 1))
                body.externalRef :=
        h.answers (net.posts n) body _
      generalize attempt (fun o => server.post o body) net.posts s n = a at hlast ⊢
      generalize after (fun o => server.post o body) net.posts s (n + 1) = s' at hleft hlast ⊢
      rcases hlast with hunheard | hheard
      · obtain ⟨e, he, hretryable⟩ := answerOf_unheard "createDelivery" _ hunheard
        rw [he]
        rcases hleft with rfl | ⟨name, htook⟩
        · exact .refused e
        · exact .unheard hretryable htook
      · -- without a delivery in the answer there is none at Sendii
        have hnone : a.data = none → s' = s := by
          intro hdata
          rcases hleft with hsame | ⟨name, htook⟩
          · exact hsame
          · rw [hdata, htook.inProgress] at hheard
            cases hheard
        rcases answerOf_cases "createDelivery" SENDII_WRITE_POLICY.timeoutMs a with
          ⟨status, envelope, he, hdata, -⟩ | ⟨⟨e, he⟩, hdata⟩
        · rw [he]
          cases hdelivery : a.data with
          | none =>
              rw [hdelivery] at hdata
              simp only [hdata, hnone hdelivery]
              exact .refused _
          | some delivery =>
              rw [hdelivery] at hdata hheard
              simp only [hdata]
              rcases hleft with rfl | ⟨name, htook⟩
              · obtain ⟨name, htook, hid⟩ := took_of_inProgress hheard.symm
                exact .booked htook (congrArg some hid.symm)
              · rw [htook.inProgress] at hheard
                exact .booked htook hheard
        · rw [he, hnone hdata]
          exact .refused e

/-! ## Any courier's replies -/

theorem Took.opened (h : Took s ref name s') :
    External.opened s (SENDII_KEY, name.2) (SENDII_KEY, ref) = some (name, s') := by
  obtain ⟨id, hopened⟩ := h
  unfold External.opened at hopened ⊢
  cases hget : get External.Entry.ref (SENDII_KEY, ref) s.live with
  | some x =>
      rw [hget] at hopened
      exact hopened
  | none =>
      simp only [hget] at hopened ⊢
      split at hopened
      · next hfresh =>
          cases hopened
          rw [if_pos hfresh]
      · cases hopened

/-- A call without a usable answer is a courier that is out of reach, or one whose
answer was lost. -/
theorem Took.bookedUnheard {leg : DeliveryLegRow} (h : Took s leg.id name s') :
    (bookedUnheard leg s s' = none ∧ s' = s) ∨ bookedUnheard leg s s' = some name.2 := by
  have hthere := h.inProgress
  obtain ⟨id, hopened⟩ := h
  rcases External.opened_some hopened with rfl | ⟨habsent, -, -⟩
  · left
    simp [SendiiBookings.bookedUnheard, hthere]
  · right
    have hnone : SendiiBookings.inProgress s leg.id = none :=
      Option.map_eq_none_iff.mpr (get_eq_none.mpr habsent)
    rw [SendiiBookings.bookedUnheard, hnone, hthere]

/-- **The adapter's call is a courier's reply.** -/
theorem create_reply {i : Nat} {leg : DeliveryLegRow}
    {r : Except ProviderError CreateDeliveryAnswer × Service}
    (hsub : w.work.submissions[i]? = some ⟨leg, none⟩) (hkey : leg.providerKey = SENDII_KEY)
    (hremote : Couriers.isRemote d leg = true) (h : Created leg.id w.couriers r.1 r.2) :
    Couriers.exec d w (.create i (replyOf leg w.couriers r))
      = Couriers.answer d { w with couriers := r.2 } i (submitAnswer r.1) := by
  obtain ⟨result, s'⟩ := r
  rw [Couriers.exec, hsub]
  simp only [hremote, if_true, hkey]
  cases h with
  | refused e =>
      rw [replyOf, submitAnswer]
      cases hretryable : e.retryable with
      | true =>
          have hnone : bookedUnheard leg w.couriers w.couriers = none := by
            rw [bookedUnheard]
            split
            · next habsent hfound => cases habsent.symm.trans hfound
            · rfl
          simp [hnone]
      | false => rfl
  | unheard retryable took =>
      rw [replyOf, submitAnswer]
      simp only [retryable, if_true]
      rcases took.bookedUnheard with ⟨hnone, rfl⟩ | hsome
      · rw [hnone]
      · simp only [hsome, took.opened]
        rfl
  | booked took named =>
      next answer name =>
        obtain ⟨⟨externalId, providerStatus, quotedKobo, trackingUrl, etaMinutes⟩, status,
          distanceMeters⟩ := answer
        obtain rfl : externalId = some name.2 := named
        simp only [replyOf, submitAnswer, Option.getD_some, took.opened, if_true]

/-! ## Cancellations -/

theorem after_delete (h : DeleteEnds server) (externalId : String) (fates : Nat → ω) (s : Service)
    (n : Nat) :
    after (fun o => server.delete o externalId) fates s n = s ∨
      after (fun o => server.delete o externalId) fates s n
        = External.close s (SENDII_KEY, externalId) := by
  refine after_invariant (P := fun t => t = s ∨ t = External.close s (SENDII_KEY, externalId)) ?_
    (Or.inl rfl) fates n
  rintro o t ht
  rcases h o externalId t with hsame | hclosed
  · rw [hsame]
    exact ht
  · rw [hclosed]
    rcases ht with rfl | rfl
    · exact Or.inr rfl
    · exact Or.inr (External.close_close s _)

/-- A cancellation goes through only when Sendii has ended the delivery, and
without an id there is nothing to end. -/
theorem cancel_cases (h : Documented server) (b : Builtins) (fates : Nat → ω)
    (externalId : Option String) (s : Service) :
    (externalId.filter (· ≠ "") = none ∧ cancel server b fates externalId s = (.ok (), s)) ∨
      ∃ id, externalId.filter (· ≠ "") = some id ∧
        (cancel server b fates externalId s = (.ok (), External.close s (SENDII_KEY, id)) ∨
          ∃ e s', cancel server b fates externalId s = (.error e, s') ∧
            (s' = s ∨ s' = External.close s (SENDII_KEY, id))) := by
  unfold cancel
  cases hknown : externalId.filter (· ≠ "") with
  | none => exact Or.inl ⟨rfl, rfl⟩
  | some id =>
      refine Or.inr ⟨id, rfl, ?_⟩
      obtain ⟨n, hn⟩ := sendiiRequest_eq b "cancel" SENDII_WRITE_POLICY
        (attempt (fun o => server.delete o id) fates s)
      simp only [hn]
      have hleft := after_delete h.ends id fates s (n + 1)
      rcases answerOf_cases "cancel" SENDII_WRITE_POLICY.timeoutMs
          (attempt (fun o => server.delete o id) fates s n) with
        ⟨status, envelope, he, -, response, hanswer, rfl, htaken⟩ | ⟨⟨e, he⟩, -⟩
      · rw [he]
        by_cases hconflict : response.status = 409
        · right
          refine ⟨providerError "cancel" "delivery can no longer be cancelled" false, _, ?_, hleft⟩
          simp only [bind, Except.bind, hconflict, if_true]
        · left
          have hended := h.agrees (fates n) id _ response envelope hanswer
            (htaken.resolve_right hconflict) hconflict
          have hclosed : after (fun o => server.delete o id) fates s (n + 1)
              = External.close s (SENDII_KEY, id) := by
            rw [after, hended]
            rcases after_delete h.ends id fates s n with hs | hs
            · rw [hs]
            · rw [hs, External.close_close]
          rw [hclosed]
          simp only [bind, Except.bind, hconflict, if_false]
      · rw [he]
        exact Or.inr ⟨e, _, rfl, hleft⟩

theorem ending_some {i : Nat} {e : Ending} (h : ending d w i = some e) :
    w.work.endings[i]? = some e ∧ e.leg.providerKey = SENDII_KEY ∧ asksCourier d e = true := by
  obtain ⟨hget, hasks⟩ := Option.filter_eq_some_iff.mp h
  simp only [Bool.and_eq_true, decide_eq_true_eq] at hasks
  exact ⟨hget, hasks⟩

/-- **The adapter's cancellation is a courier's**, who may have ended the delivery
before by itself. -/
theorem cancel_reply (hserver : Documented server) {i : Nat} {e : Ending}
    (h : ending d w i = some e) (fates : Nat → ω) :
    exec server b d w (.cancelDelivery i fates)
      = Runs.run (Couriers.exec d) w (steps server b d w (.cancelDelivery i fates)) := by
  obtain ⟨hget, hkey, hasks⟩ := ending_some h
  have hcancelled : ∀ accepted, Couriers.cancelledName d w.work i accepted =
      if accepted then (Couriers.knownId e.leg).map fun id => (SENDII_KEY, id) else none := by
    intro accepted
    rw [Couriers.cancelledName, hget, ← hkey]
    cases accepted with
    | true =>
        have hfilter : (some e).filter (fun e => true && asksCourier d e) = some e :=
          Option.filter_some_pos hasks
        rw [hfilter]
        rfl
    | false => simp
  rw [exec, steps, h]
  simp only
  rcases cancel_cases hserver b fates e.leg.externalId w.couriers with
    ⟨hnone, hok⟩ | ⟨id, hid, hok | ⟨err, s', herr, hleft⟩⟩
  · have hnoId : Couriers.knownId e.leg = none := hnone
    rw [hok]
    simp [Except.isOk, Except.toBool, Couriers.exec, hcancelled, hnoId]
  · have hknown : Couriers.knownId e.leg = some id := hid
    rw [hok]
    simp [Except.isOk, Except.toBool, Couriers.exec, hcancelled, hknown]
  · obtain ⟨hexternal, -⟩ := Option.filter_eq_some_iff.mp hid
    rw [herr, hexternal]
    by_cases hsame : s' = w.couriers
    · rw [hsame]
      simp [Except.isOk, Except.toBool, Couriers.exec, hcancelled]
    · obtain rfl := hleft.resolve_left hsame
      simp [Except.isOk, Except.toBool, Couriers.exec, hcancelled, hsame]

theorem submitting_some {i : Nat} {leg : DeliveryLegRow} (h : submitting d w i = some leg) :
    w.work.submissions[i]? = some ⟨leg, none⟩ ∧ leg.providerKey = SENDII_KEY ∧
      Couriers.isRemote d leg = true := by
  unfold submitting at h
  split at h
  · next leg' hget =>
      split at h
      · next hsendii =>
          cases h
          exact ⟨hget, hsendii⟩
      · cases h
  · cases h

/-- **Every action** is one that the couriers' model has. -/
theorem exec_steps (hserver : Documented server) (b : Builtins) (d : Deployment)
    (w : Couriers.World) (a : Action ω) :
    exec server b d w a = Runs.run (Couriers.exec d) w (steps server b d w a) := by
  cases a with
  | beside a =>
      rw [exec, steps]
      split
      · rfl
      · rfl
  | createDelivery i request net =>
      rw [exec, steps]
      cases hsub : submitting d w i with
      | none => rfl
      | some leg =>
          obtain ⟨hget, hkey, hremote⟩ := submitting_some hsub
          have hcreated :=
            createDelivery_created hserver b net (requestFor w leg request) w.couriers
          exact (create_reply hget hkey hremote hcreated).symm
  | cancelDelivery i fates =>
      cases hending : ending d w i with
      | none =>
          rw [exec, steps, hending]
          rfl
      | some e => exact cancel_reply hserver hending fates

theorem run_trace (hserver : Documented server) (b : Builtins) (d : Deployment)
    (w : Couriers.World) (as : List (Action ω)) :
    run server b d w as = Couriers.run d w (trace server b d w as) :=
  Runs.run_trace id (exec_steps hserver b d) w as

/-! ## In every run -/

/-- Sendii has one delivery for a leg, and names of its own. -/
structure Neat (w : Couriers.World) : Prop where
  tidy : External.Tidy w.couriers
  named : ∀ x ∈ w.couriers.live, x.name.1 = x.ref.1

theorem Neat.close (h : Neat w) (name : String × String) :
    Neat { w with couriers := External.close w.couriers name } where
  tidy := h.tidy.close name
  named x hx := h.named x (External.mem_live_close.mp hx).1

theorem Neat.exec (h : Neat w) (a : Couriers.Action) : Neat (Couriers.exec d w a) := by
  have same : ∀ work, Neat { w with work } := fun _ => ⟨h.tidy, h.named⟩
  cases a with
  | inside a =>
      rw [Couriers.exec]
      split
      · exact same _
      · exact h
  | create i reply =>
      rw [Couriers.exec]
      split
      · next leg hsub =>
          split
          · cases reply with
            | refused message => exact same _
            | unavailable => exact same _
            | accepted externalId result heard =>
                simp only
                split
                · exact h
                · next name couriers hopened =>
                    refine ⟨h.tidy.opened hopened, fun x hx => ?_⟩
                    rcases External.live_opened hopened hx with hx | rfl
                    · exact h.named x hx
                    · rfl
          · exact same _
      · exact h
  | cancel i accepted =>
      rw [Couriers.exec]
      split
      · exact ⟨(h.close _).tidy, (h.close _).named⟩
      · exact same _
  | finish name => exact h.close name
  | report providerKey snapshot =>
      rw [Couriers.exec]
      split
      · exact same _
      · exact h

/-- The name it is there under is one of Sendii's. -/
theorem Took.live (h : Took s ref name s') (hnamed : ∀ x ∈ s.live, x.name.1 = x.ref.1) :
    ⟨(SENDII_KEY, name.2), (SENDII_KEY, ref)⟩ ∈ s'.live := by
  obtain ⟨id, hopened⟩ := h
  have hlive := External.live_of_opened hopened
  have hkey : name.1 = SENDII_KEY := by
    rcases External.live_opened hopened hlive with hold | hnew
    · exact hnamed _ hold
    · cases hnew
      rfl
  have hname : (SENDII_KEY, name.2) = name := by rw [← hkey]
  rw [hname]
  exact hlive

theorem Took.others (h : Took s ref name s') {x : Couriers.Delivery}
    (hx : x.ref ≠ (SENDII_KEY, ref)) : x ∈ s'.live ↔ x ∈ s.live := by
  obtain ⟨id, hopened⟩ := h
  rcases External.opened_some hopened with rfl | ⟨-, -, rfl⟩
  · exact Iff.rfl
  · constructor
    · intro hmem
      rcases List.mem_append.mp hmem with hmem | hmem
      · exact hmem
      · rw [List.mem_singleton.mp hmem] at hx
        exact absurd rfl hx
    · exact List.mem_append_left _

theorem Took.closed (h : Took s ref name s') : s'.closed = s.closed := by
  obtain ⟨id, hopened⟩ := h
  exact External.closed_opened hopened

/-- **Sendii's adapter**, in every run and however its calls fare, beside any server
that keeps to what the code counts on. The system runs as it does beside a courier
that is only known by its replies, and never has two deliveries there for a leg.
A booking reported is in progress at Sendii under the leg's id, an error that is
not to be retried has left Sendii as it was, and no call touches another leg's
delivery. Where every step that ends a leg knows the delivery it ends, no order has
two couriers. -/
theorem sendii_keeps_contract (hbooks : PostBooksOnce server) (hanswers : PostAnswers server)
    (hends : DeleteEnds server) (hagrees : DeleteAnswers server) (b : Builtins) (d : Deployment)
    {s₀ : State} (h : Initial s₀) (as : List (Action ω)) :
    let w := run server b d (Couriers.start s₀) as
    w = Couriers.run d (Couriers.start s₀) (trace server b d (Couriers.start s₀) as) ∧
    External.Tidy w.couriers ∧
    (∀ i leg request net, submitting d w i = some leg →
      let r := createDelivery server b net (requestFor w leg request) w.couriers
      (∀ answer, r.1 = .ok answer → ∃ externalId, answer.externalId = some externalId ∧
        ⟨(SENDII_KEY, externalId), (SENDII_KEY, leg.id)⟩ ∈ r.2.live) ∧
      (∀ e, r.1 = .error e → e.retryable = false → r.2 = w.couriers) ∧
      (∀ x : Couriers.Delivery, x.ref ≠ (SENDII_KEY, leg.id) →
        (x ∈ r.2.live ↔ x ∈ w.couriers.live)) ∧
      r.2.closed = w.couriers.closed) ∧
    (Runs.Meets (Couriers.exec d) (fun w a => Couriers.informed d w a = true) (Couriers.start s₀)
        (trace server b d (Couriers.start s₀) as) →
      ∀ orderId, Couriers.engaged w orderId ≤ 1) := by
  intro w
  have hserver : Documented server := ⟨hbooks, hanswers, hends, hagrees⟩
  have hrun : w = Couriers.run d (Couriers.start s₀) (trace server b d (Couriers.start s₀) as) :=
    run_trace hserver b d (Couriers.start s₀) as
  have hneat : Neat w := by
    rw [hrun]
    have hstart : Neat (Couriers.start s₀) := ⟨External.tidy_empty, fun x hx => by cases hx⟩
    exact Runs.run_invariant (fun _ a hw => hw.exec a) hstart _
  refine ⟨hrun, hneat.tidy, ?_, ?_⟩
  · intro i leg request net hsub r
    have hcreated : Created leg.id w.couriers r.1 r.2 :=
      createDelivery_created hserver b net (requestFor w leg request) w.couriers
    generalize r = r' at hcreated
    obtain ⟨result, s'⟩ := r'
    cases hcreated with
    | refused e =>
        exact ⟨fun _ hok => (by cases hok), fun _ _ _ => rfl, fun _ _ => Iff.rfl, rfl⟩
    | unheard retryable took =>
        refine ⟨fun _ hok => (by cases hok), ?_, fun _ hx => took.others hx, took.closed⟩
        intro e herror hfinal
        cases herror
        rw [retryable] at hfinal
        cases hfinal
    | booked took named =>
        refine ⟨?_, fun _ herror => (by cases herror), fun _ hx => took.others hx, took.closed⟩
        intro answer hok
        cases hok
        exact ⟨_, named, took.live hneat.named⟩
  · intro hmeets orderId
    have htracked : Couriers.Tracked d w := by
      rw [hrun]
      exact (Runs.always_of_meets (fun _ _ hw ha => hw.exec ha) (Couriers.tracked_of_initial h)
        hmeets).last
    exact htracked.one_engaged orderId

/-! ## A lost answer -/

/-- What a call meets in the example: the id on offer, a reason to refuse, and
whether the answer gets back. -/
structure DemoFate where
  id : String
  refused : Option SendiiError
  lost : Bool

def DemoFate.reply (o : DemoFate) (answer : Attempt SendiiDelivery) : Attempt SendiiDelivery :=
  if o.lost then ⟨.failed .timeout, none⟩ else answer

/-- A server for the example. -/
def demoServer : Server DemoFate where
  post o body s :=
    match inProgress s body.externalRef with
    | some id =>
        (o.reply ⟨.answered ⟨409, none⟩, some ⟨false, some { demoDelivery with id },
          some ⟨some "CONFLICT", some "already exists"⟩⟩⟩, s)
    | none =>
        match o.refused with
        | some error => (o.reply ⟨.answered ⟨422, none⟩, some ⟨false, none, some error⟩⟩, s)
        | none =>
            match External.opened s (SENDII_KEY, o.id) (SENDII_KEY, body.externalRef) with
            | none => (⟨.answered ⟨503, none⟩, none⟩, s)
            | some (name, s') =>
                (o.reply ⟨.answered ⟨201, none⟩,
                  some ⟨true, some { demoDelivery with id := name.2 }, none⟩⟩, s')
  delete o id s :=
    match o.refused with
    | some error => (o.reply ⟨.answered ⟨409, none⟩, some ⟨false, none, some error⟩⟩, s)
    | none =>
        (o.reply ⟨.answered ⟨200, none⟩,
          some ⟨true, some { demoDelivery with id, status := .cancelled }, none⟩⟩,
          External.close s (SENDII_KEY, id))

theorem DemoFate.reply_cases (o : DemoFate) (answer : Attempt SendiiDelivery) :
    Unheard (o.reply answer) ∨ o.reply answer = answer := by
  cases hlost : o.lost with
  | true => exact Or.inl (by rw [DemoFate.reply, hlost]; trivial)
  | false => exact Or.inr (by rw [DemoFate.reply, hlost]; rfl)

theorem demoServer_post (o : DemoFate) (body : CreateBody) (s : Service) :
    ((demoServer.post o body s).2 = s ∨
      ∃ id, inProgress s body.externalRef = none ∧ External.isFresh s (SENDII_KEY, id) = true ∧
        (demoServer.post o body s).2
          = ⟨s.live ++ [⟨(SENDII_KEY, id), (SENDII_KEY, body.externalRef)⟩], s.closed⟩) ∧
      (Unheard (demoServer.post o body s).1 ∨
        (demoServer.post o body s).1.data.map SendiiDelivery.id
          = inProgress (demoServer.post o body s).2 body.externalRef) := by
  simp only [demoServer]
  cases hthere : inProgress s body.externalRef with
  | some id =>
      refine ⟨Or.inl rfl, (o.reply_cases _).imp_right fun h => ?_⟩
      simp only [h, hthere]
      rfl
  | none =>
      cases o.refused with
      | some error =>
          refine ⟨Or.inl rfl, (o.reply_cases _).imp_right fun h => ?_⟩
          simp only [h, hthere]
          rfl
      | none =>
          cases hopened : External.opened s (SENDII_KEY, o.id) (SENDII_KEY, body.externalRef) with
          | none => exact ⟨Or.inl rfl, Or.inl trivial⟩
          | some opened =>
              obtain ⟨name, s'⟩ := opened
              have htook : Took s body.externalRef name s' := ⟨o.id, hopened⟩
              refine ⟨?_, (o.reply_cases _).imp_right fun h => ?_⟩
              · rcases External.opened_some hopened with hsame | ⟨-, hfresh, hbooked⟩
                · exact Or.inl hsame
                · exact Or.inr ⟨o.id, rfl, hfresh, hbooked⟩
              · simp only [h, htook.inProgress]
                rfl

theorem demoServer_delete (o : DemoFate) (id : String) (s : Service) :
    ((demoServer.delete o id s).2 = s ∨
      (demoServer.delete o id s).2 = External.close s (SENDII_KEY, id)) ∧
      (∀ response envelope,
        (demoServer.delete o id s).1 = ⟨.answered response, some envelope⟩ →
          envelope.success = true → response.status ≠ 409 →
            (demoServer.delete o id s).2 = External.close s (SENDII_KEY, id)) := by
  simp only [demoServer]
  cases o.refused with
  | none => exact ⟨Or.inr rfl, fun _ _ _ _ _ => rfl⟩
  | some error =>
      refine ⟨Or.inl rfl, fun response envelope hanswer hsuccess _ => ?_⟩
      simp only [DemoFate.reply] at hanswer
      split at hanswer
      · cases hanswer
      · cases hanswer
        cases hsuccess

/-- A quote, a full wallet, and a first POST that times out after the delivery has
been booked. -/
def demoNetwork : Network DemoFate where
  quotes _ := ⟨.answered ⟨200, none⟩, some ⟨true, some ⟨"quote", 90, 4000, 20⟩, none⟩⟩
  wallet _ := ⟨.answered ⟨200, none⟩, some ⟨true, some ⟨500, 0, 500⟩, none⟩⟩
  posts
    | 0 => ⟨"del", none, true⟩
    | _ => ⟨"other", none, false⟩

def demoRequest : CreateDeliveryRequest where
  legId := 0
  pickup := ⟨"1", [], none⟩
  dropoff := ⟨"2", [], some "+2348012345678"⟩
  vehicleClass := none
  description := []
  maxCostKobo := none
  otherActiveQuotedKobo := none

def demoSubmitting : List (Action DemoFate) :=
  Couriers.demoWaiting.map (fun a => .beside (.inside (.atomic a))) ++
    [.beside (.inside (.readSubmit 12))]

theorem demo_sendii_keeps_contract :
    let w := run demoServer demoBuiltins demo (Couriers.start demoState) demoSubmitting
    let w' := run demoServer demoBuiltins demo w [.createDelivery 0 demoRequest demoNetwork]
    w'.couriers.live = [⟨("sendii", "del"), ("sendii", 12)⟩] ∧
      w'.work.submissions.map Submission.answer
        = [some (.booked ⟨some "del", some "pending", some 9000, none, some 20⟩)] ∧
      (createDelivery demoServer demoBuiltins demoNetwork { demoRequest with legId := 12 }
        w'.couriers).2.closed = w'.couriers.closed ∧ External.Tidy w'.couriers := by
  intro w w'
  have hrun : w' = run demoServer demoBuiltins demo (Couriers.start demoState)
      (demoSubmitting ++ [.createDelivery 0 demoRequest demoNetwork]) :=
    (Runs.run_append _ _ _ _).symm
  obtain ⟨-, htidy, -, -⟩ := sendii_keeps_contract
    (fun o body s => (demoServer_post o body s).1) (fun o body s => (demoServer_post o body s).2)
    (fun o id s => (demoServer_delete o id s).1) (fun o id s => (demoServer_delete o id s).2)
    demoBuiltins demo demoState_initial
    (demoSubmitting ++ [.createDelivery 0 demoRequest demoNetwork])
  refine ⟨by decide +kernel, by decide +kernel, by decide +kernel, ?_⟩
  rw [hrun]
  exact htidy

end Locoomo.SendiiBookings
