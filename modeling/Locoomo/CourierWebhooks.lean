import Mathlib.Data.List.Induction
import Locoomo.StepKeys

/-! Couriers' webhooks. A request that its courier signed is stored once under
the courier's own event id and queued; a worker then asks the courier what the
delivery looks like now and applies that. Requests come again and out of order,
workers overlap and crash, and in between everything else goes on. -/

namespace Locoomo.CourierWebhooks

open Locoomo.Delivery Locoomo.Database Locoomo.Routing Locoomo.Logistics Locoomo.Handoffs
  Locoomo.System Locoomo.Lockstep Locoomo.StepKeys Relational

/-! ## Requests -/

abbrev Body := List UInt8

/-- Header names are in lower case. -/
abbrev Headers := String → Option String

structure ProviderWebhookEvent where
  eventId : String
  externalId : Option String
  event : Option DeliveryEventType
  snapshot : Option ProviderDeliverySnapshot

/-- The delivery it is about; an empty id counts as none. -/
def ProviderWebhookEvent.subject (event : ProviderWebhookEvent) : Option String :=
  event.externalId.filter (· ≠ "")

/-- What a courier's adapter has for webhooks. A `parseWebhook` that answers
nothing has thrown; `getDelivery` says whether the courier can be asked. -/
structure WebhookAdapter where
  verifyWebhook : Option (Body → Headers → Bool)
  parseWebhook : Option (Body → Option ProviderWebhookEvent)
  getDelivery : Bool

/-- The registered adapters, and the JSON codec of the platform. -/
structure Registry (Json : Type) where
  adapters : String → Option WebhookAdapter
  parseJson : Body → Option Json
  stringify : Json → Body

structure InboundEventRow (Json : Type) where
  id : Nat
  providerKey : String
  eventId : String
  externalId : String
  payload : Json
  processedAt : Option Nat
  deriving DecidableEq

/-- A run of the handler between two of its steps: it has read the row and asks
the courier, or it has what to apply. -/
inductive Call (Json : Type)
  | ended
  | asking (row : InboundEventRow Json)
  | applying (row : InboundEventRow Json) (snapshot : Option ProviderDeliverySnapshot)

/-- `jobs` are the queued outbox events of the type, by the row each names. -/
structure World (Json : Type) where
  db : State
  nextInbound : Nat
  inbound : List (InboundEventRow Json)
  jobs : List Nat
  calls : List (Call Json)

def start (Json : Type) (s : State) : World Json := ⟨s, 0, [], [], []⟩

inductive ReceiveError
  | entityNotFound (providerKey : String)
  | invalidSignature (providerKey : String)
  | syntaxError
  deriving DecidableEq, Repr

variable {Json : Type}

/-- The insert and the job of a new event; a redelivery inserts nothing. -/
def store (providerKey eventId externalId : String) (payload : Json) (w : World Json) :
    World Json :=
  if w.inbound.any fun row => row.providerKey = providerKey ∧ row.eventId = eventId then w
  else
    { w with
      nextInbound := w.nextInbound + 1
      inbound := w.inbound ++
        [⟨w.nextInbound, providerKey, eventId, externalId, payload, none⟩]
      jobs := w.jobs ++ [w.nextInbound] }

/-- `CourierWebhookService.receive`. -/
def receive (R : Registry Json) (w : World Json) (providerKey : String) (rawBody : Body)
    (headers : Headers) : Except ReceiveError (World Json) :=
  match (R.adapters providerKey).bind fun provider =>
    provider.verifyWebhook.bind fun verify => provider.parseWebhook.map fun parse =>
      (verify, parse) with
  | none => .error (.entityNotFound providerKey)
  | some (verify, parse) =>
      if verify rawBody headers = false then .error (.invalidSignature providerKey)
      else
        match parse rawBody with
        | none => .error .syntaxError
        | some event =>
            match event.event, event.subject with
            | some _, some externalId =>
                match R.parseJson rawBody with
                | none => .error .syntaxError
                | some payload => .ok (store providerKey event.eventId externalId payload w)
            | _, _ => .ok w

/-- `process`, up to what it asks the courier. -/
def process (R : Registry Json) (w : World Json) (inboundEventId : Nat) : Call Json :=
  match get InboundEventRow.id inboundEventId w.inbound with
  | none => .ended
  | some inbound =>
      if inbound.processedAt.isSome ∨ inbound.externalId = "" then .ended
      else
        match R.adapters inbound.providerKey with
        | none => .ended
        | some provider =>
            if provider.getDelivery then .asking inbound
            else
              match provider.parseWebhook.bind fun parse => parse (R.stringify inbound.payload) with
              | none => .ended
              | some event => .applying inbound event.snapshot

/-- `update(inbound.id, { processedAt: new Date() })`. -/
def markProcessed (id : Nat) (w : World Json) : World Json :=
  { w with
    inbound := update (fun row => row.id = id)
      (fun row => { row with processedAt := some w.db.now }) w.inbound }

/-- The transaction at its end. -/
def applySnapshot (d : Deployment) (w : World Json) (inbound : InboundEventRow Json) :
    Option ProviderDeliverySnapshot → World Json
  | none => markProcessed inbound.id w
  | some snapshot =>
      match (syncFromSnapshot d inbound.providerKey snapshot).run w.db with
      | .ok (_, db) => markProcessed inbound.id { w with db := db }
      | .error e => { w with db := rollback w.db e }

/-- `answer i api` is the courier's answer to call `i`, `api` being what the
couriers would say of each of their deliveries at that moment. -/
inductive Action
  | system (a : System.Action)
  | receive (providerKey : String) (rawBody : Body) (headers : Headers)
  | handle (inboundEventId : Nat)
  | answer (i : Nat) (api : String → String → Option ProviderDeliverySnapshot)
  | apply (i : Nat)
  | crash (i : Nat)

def proceed (w : World Json) (i : Nat) (call : Call Json) : World Json :=
  { w with calls := w.calls.set i call }

def exec (R : Registry Json) (d : Deployment) (w : World Json) : Action → World Json
  | .system a => { w with db := System.exec d w.db a }
  | .receive providerKey rawBody headers =>
      match receive R w providerKey rawBody headers with
      | .ok w' => w'
      | .error _ => w
  | .handle inboundEventId =>
      if inboundEventId ∈ w.jobs then { w with calls := w.calls ++ [process R w inboundEventId] }
      else w
  | .answer i api =>
      match w.calls[i]? with
      | some (.asking row) =>
          match api row.providerKey row.externalId with
          | some snapshot => proceed w i (.applying row (some snapshot))
          | none => proceed w i .ended
      | _ => w
  | .apply i =>
      match w.calls[i]? with
      | some (.applying row snapshot) => proceed (applySnapshot d w row snapshot) i .ended
      | _ => w
  | .crash i => proceed w i .ended

def run (R : Registry Json) (d : Deployment) (w : World Json) (as : List Action) : World Json :=
  Runs.run (exec R d) w as

/-- What an action does to the rest of the system. -/
def steps (w : World Json) : Action → List System.Action
  | .system a => [a]
  | .apply i =>
      match w.calls[i]? with
      | some (.applying row (some snapshot)) => [.syncFromSnapshot row.providerKey snapshot]
      | _ => []
  | _ => []

/-- What a run does to it. -/
def trace (R : Registry Json) (d : Deployment) (w : World Json) (as : List Action) :
    List System.Action :=
  Runs.trace (exec R d) steps w as

variable {R : Registry Json} {d : Deployment} {w w' : World Json} {as : List Action}

/-! ## The rest of the system -/

theorem applySnapshot_db (row : InboundEventRow Json) (snapshot : ProviderDeliverySnapshot) :
    (applySnapshot d w row (some snapshot)).db
      = System.exec d w.db (.syncFromSnapshot row.providerKey snapshot) := by
  rw [applySnapshot, System.exec, System.tx]
  cases hrun : (syncFromSnapshot d row.providerKey snapshot).run w.db with
  | ok r =>
      obtain ⟨r, db⟩ := r
      rw [Tx.run_bind_of_ok hrun]
      rfl
  | error e =>
      rw [Tx.run_bind_of_error hrun]

theorem store_db (providerKey eventId externalId : String) (payload : Json) (w : World Json) :
    (store providerKey eventId externalId payload w).db = w.db := by
  unfold store
  split <;> rfl

theorem receive_db {providerKey : String} {rawBody : Body} {headers : Headers}
    (h : receive R w providerKey rawBody headers = .ok w') : w'.db = w.db := by
  unfold receive at h
  split at h
  · cases h
  · split at h
    · cases h
    · split at h
      · cases h
      · split at h
        · split at h
          · cases h
          · cases h
            exact store_db _ _ _ _ w
        · cases h
          rfl

/-- An action is a step of the system, or none. -/
theorem exec_db (w : World Json) (a : Action) :
    (exec R d w a).db = Runs.run (System.exec d) w.db (steps w a) := by
  cases a with
  | system a => rfl
  | receive providerKey rawBody headers =>
      cases hreceive : receive R w providerKey rawBody headers with
      | ok w' =>
          rw [exec, hreceive]
          exact receive_db hreceive
      | error e =>
          rw [exec, hreceive]
          rfl
  | handle inboundEventId =>
      rw [exec]
      split <;> rfl
  | answer i api =>
      rw [exec]
      split
      · split <;> rfl
      · rfl
  | apply i =>
      rw [exec, steps]
      cases hcall : w.calls[i]? with
      | none => rfl
      | some call =>
          cases call with
          | ended => rfl
          | asking row => rfl
          | applying row snapshot =>
              cases snapshot with
              | none => rfl
              | some snapshot => exact applySnapshot_db row snapshot
  | crash i => rfl

theorem run_db (w : World Json) (as : List Action) :
    (run R d w as).db = System.run d w.db (trace R d w as) :=
  Runs.run_trace World.db exec_db w as

/-! ## What is stored -/

/-- The event in a request that its courier signed, when it is about a delivery. -/
def accepted (R : Registry Json) (providerKey : String) (rawBody : Body) (headers : Headers) :
    Option (String × String × Json) := do
  let provider ← R.adapters providerKey
  let verify ← provider.verifyWebhook
  let parse ← provider.parseWebhook
  guard (verify rawBody headers = true)
  let event ← parse rawBody
  guard (event.event.isSome = true)
  let externalId ← event.subject
  let payload ← R.parseJson rawBody
  return (event.eventId, externalId, payload)

/-- **A request** stores its event, or does nothing. -/
theorem receive_cases (providerKey : String) (rawBody : Body) (headers : Headers) :
    exec R d w (.receive providerKey rawBody headers)
      = match accepted R providerKey rawBody headers with
        | some (eventId, externalId, payload) => store providerKey eventId externalId payload w
        | none => w := by
  rw [exec, receive, accepted]
  cases R.adapters providerKey with
  | none => rfl
  | some provider =>
      obtain ⟨verify, parse, polled⟩ := provider
      cases verify with
      | none => rfl
      | some verify =>
          cases parse with
          | none => rfl
          | some parse =>
              simp only [Option.bind_some, Option.map_some, Option.bind_eq_bind]
              cases hverify : verify rawBody headers with
              | false => rfl
              | true =>
                  cases hparse : parse rawBody with
                  | none => simp
                  | some event =>
                      cases htype : event.event with
                      | none => simp [htype]
                      | some type =>
                          cases hid : event.subject with
                          | none => simp [htype, hid]
                          | some externalId =>
                              cases R.parseJson rawBody <;> simp [htype, hid]

/-- The requests so far brought the row's event, signed by its courier. -/
def Signed (R : Registry Json) (as : List Action) (row : InboundEventRow Json) : Prop :=
  ∃ rawBody headers, Action.receive row.providerKey rawBody headers ∈ as ∧
    accepted R row.providerKey rawBody headers = some (row.eventId, row.externalId, row.payload)

/-- What a worker came to apply for the row: what the courier said of the
delivery when it was asked, or what the request itself says. -/
def Replied (R : Registry Json) (as : List Action) (row : InboundEventRow Json)
    (reply : Option ProviderDeliverySnapshot) : Prop :=
  ∃ provider, R.adapters row.providerKey = some provider ∧
    if provider.getDelivery = true then
      ∃ i api, Action.answer i api ∈ as ∧ reply.isSome = true ∧
        reply = api row.providerKey row.externalId
    else
      ∃ parse event, provider.parseWebhook = some parse ∧
        parse (R.stringify row.payload) = some event ∧ reply = event.snapshot

/-- The columns that are never updated. -/
def sameEvent (a b : InboundEventRow Json) : Prop :=
  { a with processedAt := none } = { b with processedAt := none }

def CallSound (R : Registry Json) (as : List Action) (w : World Json) : Call Json → Prop
  | .ended => True
  | .asking row =>
      (∃ r ∈ w.inbound, sameEvent r row) ∧
        ∃ provider, R.adapters row.providerKey = some provider ∧ provider.getDelivery = true
  | .applying row reply => (∃ r ∈ w.inbound, sameEvent r row) ∧ Replied R as row reply

/-- The stored events, after the actions `as` from `s₀` on. -/
structure Kept (R : Registry Json) (d : Deployment) (s₀ : State) (as : List Action)
    (w : World Json) : Prop where
  ids : Serial InboundEventRow.id w.nextInbound w.inbound
  once : (w.inbound.map fun row => (row.providerKey, row.eventId)).Nodup
  queued : w.jobs = w.inbound.map InboundEventRow.id
  signed : ∀ row ∈ w.inbound, Signed R as row
  heard : ∀ providerKey rawBody headers event externalId payload,
    Action.receive providerKey rawBody headers ∈ as →
      accepted R providerKey rawBody headers = some (event, externalId, payload) →
      ∃ row ∈ w.inbound, row.providerKey = providerKey ∧ row.eventId = event
  calls : ∀ c ∈ w.calls, CallSound R as w c
  processed : ∀ row ∈ w.inbound, row.processedAt.isSome = true → ∃ reply, Replied R as row reply ∧
    ∀ snapshot, reply = some snapshot →
      System.Action.syncFromSnapshot row.providerKey snapshot ∈ trace R d (start Json s₀) as
  backed : ∀ a ∈ trace R d (start Json s₀) as, Action.system a ∈ as ∨
    ∃ row ∈ w.inbound, ∃ snapshot, Replied R as row (some snapshot) ∧
      a = .syncFromSnapshot row.providerKey snapshot

theorem Signed.mono {as' : List Action} {row : InboundEventRow Json} (h : Signed R as row)
    (hsub : as ⊆ as') : Signed R as' row := by
  obtain ⟨rawBody, headers, hmem, haccepted⟩ := h
  exact ⟨rawBody, headers, hsub hmem, haccepted⟩

theorem Replied.mono {as' : List Action} {row : InboundEventRow Json}
    {reply : Option ProviderDeliverySnapshot} (h : Replied R as row reply) (hsub : as ⊆ as') :
    Replied R as' row reply := by
  obtain ⟨provider, hprovider, hreply⟩ := h
  refine ⟨provider, hprovider, ?_⟩
  split at hreply
  · next hpolled =>
      obtain ⟨i, api, hmem, hrest⟩ := hreply
      rw [if_pos hpolled]
      exact ⟨i, api, hsub hmem, hrest⟩
  · next hpolled =>
      rw [if_neg hpolled]
      exact hreply

theorem sameEvent.columns {a b : InboundEventRow Json} (h : sameEvent a b) :
    a.id = b.id ∧ a.providerKey = b.providerKey ∧ a.eventId = b.eventId ∧
      a.externalId = b.externalId ∧ a.payload = b.payload := by
  obtain ⟨id, providerKey, eventId, externalId, payload, processedAt⟩ := a
  obtain ⟨id', providerKey', eventId', externalId', payload', processedAt'⟩ := b
  simpa [sameEvent] using h

theorem Replied.same {a b : InboundEventRow Json} {reply : Option ProviderDeliverySnapshot}
    (h : Replied R as a reply) (hsame : sameEvent b a) : Replied R as b reply := by
  obtain ⟨-, hkey, -, hexternal, hpayload⟩ := hsame.columns
  rw [Replied, hkey, hexternal, hpayload]
  exact h

/-- Every stored event is still there, but for when it was processed. -/
def Grows (w w' : World Json) : Prop := ∀ r ∈ w.inbound, ∃ r' ∈ w'.inbound, sameEvent r' r

theorem CallSound.later {as' : List Action} {c : Call Json} (h : CallSound R as w c)
    (hsub : as ⊆ as') (hgrows : Grows w w') : CallSound R as' w' c := by
  have found : ∀ {row : InboundEventRow Json}, (∃ r ∈ w.inbound, sameEvent r row) →
      ∃ r ∈ w'.inbound, sameEvent r row := by
    rintro row ⟨r, hr, hsame⟩
    obtain ⟨r', hr', hsame'⟩ := hgrows r hr
    exact ⟨r', hr', hsame'.trans hsame⟩
  cases c with
  | ended => trivial
  | asking row => exact ⟨found h.1, h.2⟩
  | applying row reply => exact ⟨found h.1, h.2.mono hsub⟩

theorem trace_snoc (s₀ : State) (as : List Action) (a : Action) :
    trace R d (start Json s₀) (as ++ [a])
      = trace R d (start Json s₀) as ++ steps (run R d (start Json s₀) as) a :=
  Runs.trace_snoc _ _ _ _ _

/-! ## Steps -/

section Steps

variable {s₀ : State} {a : Action}

theorem mem_history {b : Action} (h : b ∈ as) (a : Action) : b ∈ as ++ [a] :=
  List.mem_append_left _ h

theorem history_subset (as : List Action) (a : Action) : as ⊆ as ++ [a] :=
  List.subset_append_left as [a]

/-- A step that touches no stored event. -/
theorem Kept.keep (h : Kept R d s₀ as w) (hw : run R d (start Json s₀) as = w)
    (hnext : w'.nextInbound = w.nextInbound) (hinbound : w'.inbound = w.inbound)
    (hjobs : w'.jobs = w.jobs)
    (hheard : ∀ providerKey rawBody headers event externalId payload,
      a = .receive providerKey rawBody headers →
        accepted R providerKey rawBody headers = some (event, externalId, payload) →
        ∃ row ∈ w.inbound, row.providerKey = providerKey ∧ row.eventId = event)
    (hcalls : ∀ c ∈ w'.calls, c ∈ w.calls ∨ CallSound R (as ++ [a]) w c)
    (hsteps : ∀ b ∈ steps w a, a = .system b) : Kept R d s₀ (as ++ [a]) w' where
  ids := by rw [hnext, hinbound]; exact h.ids
  once := by rw [hinbound]; exact h.once
  queued := by rw [hjobs, hinbound]; exact h.queued
  signed row hrow := (h.signed row (hinbound ▸ hrow)).mono (history_subset as a)
  heard providerKey rawBody headers event externalId payload hmem haccepted := by
    rw [hinbound]
    rcases List.mem_append.mp hmem with hmem | hmem
    · exact h.heard _ _ _ _ _ _ hmem haccepted
    · exact hheard _ _ _ _ _ _ (List.mem_singleton.mp hmem).symm haccepted
  calls c hc := by
    have hgrows : Grows w w' := fun r hr => ⟨r, hinbound ▸ hr, rfl⟩
    rcases hcalls c hc with hold | hnew
    · exact (h.calls c hold).later (history_subset as a) hgrows
    · exact hnew.later (List.Subset.refl _) hgrows
  processed row hrow hdone := by
    obtain ⟨reply, hreply, happlied⟩ := h.processed row (hinbound ▸ hrow) hdone
    refine ⟨reply, hreply.mono (history_subset as a), fun snapshot hs => ?_⟩
    rw [trace_snoc]
    exact List.mem_append_left _ (happlied snapshot hs)
  backed b hb := by
    rw [trace_snoc, hw] at hb
    rw [hinbound]
    rcases List.mem_append.mp hb with hb | hb
    · rcases h.backed b hb with hsystem | ⟨row, hrow, snapshot, hreply, heq⟩
      · exact Or.inl (mem_history hsystem a)
      · exact Or.inr ⟨row, hrow, snapshot, hreply.mono (history_subset as a), heq⟩
    · rw [hsteps b hb]
      exact Or.inl (List.mem_append_right _ (List.mem_singleton.mpr rfl))

/-- A signed request. -/
theorem Kept.receive (h : Kept R d s₀ as w) (hw : run R d (start Json s₀) as = w)
    (providerKey : String) (rawBody : Body) (headers : Headers) :
    Kept R d s₀ (as ++ [.receive providerKey rawBody headers])
      (exec R d w (.receive providerKey rawBody headers)) := by
  have hnone : ∀ b ∈ steps w (.receive providerKey rawBody headers),
      Action.receive providerKey rawBody headers = .system b := fun b hb => by cases hb
  rw [receive_cases]
  cases haccepted : accepted R providerKey rawBody headers with
  | none =>
      refine h.keep hw rfl rfl rfl ?_ (fun c hc => Or.inl hc) hnone
      intro key body hdrs event externalId payload heq hsome
      cases heq
      cases haccepted.symm.trans hsome
  | some event =>
      obtain ⟨eventId, externalId, payload⟩ := event
      change Kept R d s₀ _ (store providerKey eventId externalId payload w)
      unfold store
      split
      · next hstored =>
          obtain ⟨row, hrow, hsame⟩ := List.any_eq_true.mp hstored
          refine h.keep hw rfl rfl rfl ?_ (fun c hc => Or.inl hc) hnone
          intro key body hdrs event externalId' payload' heq hsome
          cases heq
          cases haccepted.symm.trans hsome
          exact ⟨row, hrow, of_decide_eq_true hsame⟩
      · next hfresh =>
          have hgrows : ∀ r ∈ w.inbound, ∃ r' ∈ w.inbound ++
              [⟨w.nextInbound, providerKey, eventId, externalId, payload, none⟩], sameEvent r' r :=
            fun r hr => ⟨r, List.mem_append_left _ hr, rfl⟩
          constructor
          · exact h.ids.insert rfl
          · rw [List.map_append, List.map_singleton, List.nodup_append]
            refine ⟨h.once, List.nodup_singleton _, ?_⟩
            intro key hkey key' hkey' heq
            obtain ⟨row, hrow, rfl⟩ := List.mem_map.mp hkey
            rw [List.mem_singleton.mp hkey', Prod.mk.injEq] at heq
            exact hfresh (List.any_eq_true.mpr ⟨row, hrow, decide_eq_true heq⟩)
          · rw [List.map_append, ← h.queued]
            rfl
          · intro row hrow
            rcases List.mem_append.mp hrow with hrow | hrow
            · exact (h.signed row hrow).mono (history_subset _ _)
            · rw [List.mem_singleton.mp hrow]
              exact ⟨rawBody, headers, List.mem_append_right _ (List.mem_singleton.mpr rfl),
                haccepted⟩
          · intro key body hdrs event externalId' payload' hmem hsome
            rcases List.mem_append.mp hmem with hmem | hmem
            · obtain ⟨row, hrow, hrest⟩ := h.heard _ _ _ _ _ _ hmem hsome
              exact ⟨row, List.mem_append_left _ hrow, hrest⟩
            · cases List.mem_singleton.mp hmem
              cases haccepted.symm.trans hsome
              exact ⟨_, List.mem_append_right _ (List.mem_singleton.mpr rfl), rfl, rfl⟩
          · exact fun c hc => (h.calls c hc).later (history_subset _ _) hgrows
          · intro row hrow hdone
            rcases List.mem_append.mp hrow with hrow | hrow
            · obtain ⟨reply, hreply, happlied⟩ := h.processed row hrow hdone
              refine ⟨reply, hreply.mono (history_subset _ _), fun snapshot hs => ?_⟩
              rw [trace_snoc]
              exact List.mem_append_left _ (happlied snapshot hs)
            · rw [List.mem_singleton.mp hrow] at hdone
              cases hdone
          · intro b hb
            rw [trace_snoc, hw] at hb
            rcases List.mem_append.mp hb with hb | hb
            · rcases h.backed b hb with hsystem | ⟨row, hrow, snapshot, hreply, heq⟩
              · exact Or.inl (mem_history hsystem _)
              · exact Or.inr ⟨row, List.mem_append_left _ hrow, snapshot,
                  hreply.mono (history_subset _ _), heq⟩
            · cases hb

/-- What the handler has read is stored. -/
theorem process_sound (inboundEventId : Nat) :
    CallSound R as w (process R w inboundEventId) := by
  unfold process
  cases hget : get InboundEventRow.id inboundEventId w.inbound with
  | none => trivial
  | some inbound =>
      have hmem := (get_some hget).1
      dsimp only
      split
      · trivial
      · cases hprovider : R.adapters inbound.providerKey with
        | none => trivial
        | some provider =>
            dsimp only
            split
            · next hpolled => exact ⟨⟨inbound, hmem, rfl⟩, provider, hprovider, hpolled⟩
            · next hpolled =>
                cases hparse : provider.parseWebhook.bind fun parse =>
                    parse (R.stringify inbound.payload) with
                | none => trivial
                | some event =>
                    obtain ⟨parse, hparse, hevent⟩ := Option.bind_eq_some_iff.mp hparse
                    refine ⟨⟨inbound, hmem, rfl⟩, provider, hprovider, ?_⟩
                    rw [if_neg hpolled]
                    exact ⟨parse, event, hparse, hevent, rfl⟩

/-- What the transaction of a call writes. -/
theorem applySnapshot_inbound (row : InboundEventRow Json)
    (reply : Option ProviderDeliverySnapshot) :
    (applySnapshot d w row reply).inbound = w.inbound ∨
      ∃ now, (applySnapshot d w row reply).inbound = update (fun r => r.id = row.id)
        (fun r => { r with processedAt := some now }) w.inbound := by
  cases reply with
  | none => exact Or.inr ⟨_, rfl⟩
  | some snapshot =>
      rw [applySnapshot]
      split
      · exact Or.inr ⟨_, rfl⟩
      · exact Or.inl rfl

theorem applySnapshot_rest (row : InboundEventRow Json)
    (reply : Option ProviderDeliverySnapshot) :
    (applySnapshot d w row reply).nextInbound = w.nextInbound ∧
      (applySnapshot d w row reply).jobs = w.jobs ∧
      (applySnapshot d w row reply).calls = w.calls := by
  cases reply with
  | none => exact ⟨rfl, rfl, rfl⟩
  | some snapshot =>
      rw [applySnapshot]
      split <;> exact ⟨rfl, rfl, rfl⟩

/-- A row after a snapshot: as it was, or now processed by this call. -/
theorem applied_row {row : InboundEventRow Json} {reply : Option ProviderDeliverySnapshot}
    {r : InboundEventRow Json} (hr : r ∈ (applySnapshot d w row reply).inbound) :
    ∃ r' ∈ w.inbound, sameEvent r r' ∧ (r = r' ∨ r'.id = row.id) := by
  rcases applySnapshot_inbound (d := d) (w := w) row reply with heq | ⟨now, heq⟩
  · exact ⟨r, heq ▸ hr, rfl, Or.inl rfl⟩
  · rw [heq] at hr
    obtain ⟨r', hr', rfl⟩ := mem_update.mp hr
    refine ⟨r', hr', ?_⟩
    split
    · next hid => exact ⟨rfl, Or.inr (of_decide_eq_true hid)⟩
    · exact ⟨rfl, Or.inl rfl⟩

theorem applied_grows {row : InboundEventRow Json} {reply : Option ProviderDeliverySnapshot}
    {i : Nat} : Grows w (proceed (applySnapshot d w row reply) i .ended) := by
  intro r hr
  rcases applySnapshot_inbound (d := d) (w := w) row reply with heq | ⟨now, heq⟩
  · exact ⟨r, heq.symm ▸ hr, rfl⟩
  · change ∃ r' ∈ (applySnapshot d w row reply).inbound, sameEvent r' r
    rw [heq]
    by_cases hid : r.id = row.id
    · exact ⟨_, mem_update_of_pos hr (decide_eq_true hid), rfl⟩
    · exact ⟨r, mem_update_of_neg hr (decide_eq_false hid), rfl⟩

/-- What does not depend on `processedAt` stays as it was. -/
theorem applied_map {row : InboundEventRow Json} {reply : Option ProviderDeliverySnapshot}
    {α : Type} (f : InboundEventRow Json → α)
    (hf : ∀ r now, f { r with processedAt := now } = f r) :
    (applySnapshot d w row reply).inbound.map f = w.inbound.map f := by
  rcases applySnapshot_inbound (d := d) (w := w) row reply with heq | ⟨now, heq⟩
  · rw [heq]
  · rw [heq]
    exact map_update fun r _ _ => hf r _

/-- The end of a call. -/
theorem Kept.apply (h : Kept R d s₀ as w) (hw : run R d (start Json s₀) as = w) {i : Nat}
    {row : InboundEventRow Json} {reply : Option ProviderDeliverySnapshot}
    (hcall : w.calls[i]? = some (.applying row reply)) :
    Kept R d s₀ (as ++ [.apply i]) (proceed (applySnapshot d w row reply) i .ended) := by
  obtain ⟨hnext, hjobs, hcalls⟩ := applySnapshot_rest (d := d) (w := w) row reply
  obtain ⟨⟨r₀, hr₀, hsame₀⟩, hreplied⟩ := h.calls _ (List.mem_of_getElem? hcall)
  have hstep : ∀ snapshot, reply = some snapshot →
      steps w (.apply i) = [.syncFromSnapshot row.providerKey snapshot] := by
    rintro snapshot rfl
    rw [steps, hcall]
  have hgrows : Grows w (proceed (applySnapshot d w row reply) i .ended) := applied_grows
  constructor
  · have hdistinct : (applySnapshot d w row reply).inbound.map InboundEventRow.id
        = w.inbound.map InboundEventRow.id := applied_map _ fun _ _ => rfl
    refine ⟨?_, fun r hr => ?_⟩
    · change ((applySnapshot d w row reply).inbound.map InboundEventRow.id).Nodup
      rw [hdistinct]
      exact h.ids.distinct
    · obtain ⟨r', hr', hsame, -⟩ := applied_row hr
      change r.id < (applySnapshot d w row reply).nextInbound
      rw [hnext, hsame.columns.1]
      exact h.ids.below r' hr'
  · have honce : (applySnapshot d w row reply).inbound.map (fun r => (r.providerKey, r.eventId))
        = w.inbound.map fun r => (r.providerKey, r.eventId) := applied_map _ fun _ _ => rfl
    exact honce ▸ h.once
  · exact hjobs.trans (h.queued.trans (applied_map InboundEventRow.id fun _ _ => rfl).symm)
  · intro r hr
    obtain ⟨r', hr', hsame, -⟩ := applied_row hr
    obtain ⟨-, hkey, hevent, hexternal, hpayload⟩ := hsame.columns
    obtain ⟨rawBody, headers, hmem, haccepted⟩ := h.signed r' hr'
    refine ⟨rawBody, headers, ?_, ?_⟩
    · rw [hkey]
      exact mem_history hmem _
    · rw [hkey, hevent, hexternal, hpayload]
      exact haccepted
  · intro key body hdrs event externalId payload hmem haccepted
    rcases List.mem_append.mp hmem with hmem | hmem
    · obtain ⟨r, hr, hrkey, hrevent⟩ := h.heard _ _ _ _ _ _ hmem haccepted
      obtain ⟨r', hr', hsame⟩ := hgrows r hr
      obtain ⟨-, hkey, hevent, -⟩ := hsame.columns
      exact ⟨r', hr', hkey.trans hrkey, hevent.trans hrevent⟩
    · cases List.mem_singleton.mp hmem
  · intro c hc
    rcases List.mem_or_eq_of_mem_set hc with hc | rfl
    · rw [hcalls] at hc
      exact (h.calls c hc).later (history_subset _ _) hgrows
    · trivial
  · intro r hr hdone
    obtain ⟨r', hr', hsame, horigin⟩ := applied_row hr
    rw [trace_snoc, hw]
    rcases horigin with rfl | hid
    · obtain ⟨reply', hreply', happlied⟩ := h.processed r hr' hdone
      exact ⟨reply', hreply'.mono (history_subset _ _),
        fun snapshot hs => List.mem_append_left _ (happlied snapshot hs)⟩
    · -- the row this call worked on
      have hrow : r' = r₀ := h.ids.distinct.eq_of_key hr' hr₀ (hid.trans hsame₀.columns.1.symm)
      subst hrow
      have hboth : sameEvent r row := hsame.trans hsame₀
      refine ⟨reply, (hreplied.same hboth).mono (history_subset _ _), fun snapshot hs => ?_⟩
      rw [hstep snapshot hs, hboth.columns.2.1]
      exact List.mem_append_right _ (List.mem_singleton.mpr rfl)
  · intro b hb
    rw [trace_snoc, hw] at hb
    rcases List.mem_append.mp hb with hb | hb
    · rcases h.backed b hb with hsystem | ⟨r, hr, snapshot, hreply, heq⟩
      · exact Or.inl (mem_history hsystem _)
      · obtain ⟨r', hr', hsame⟩ := hgrows r hr
        refine Or.inr ⟨r', hr', snapshot, (hreply.same hsame).mono (history_subset _ _), ?_⟩
        rw [heq, hsame.columns.2.1]
    · cases reply with
      | none =>
          rw [steps, hcall] at hb
          cases hb
      | some snapshot =>
          rw [hstep snapshot rfl] at hb
          obtain ⟨r', hr', hsame⟩ := hgrows r₀ hr₀
          have hboth : sameEvent r' row := hsame.trans hsame₀
          refine Or.inr ⟨r', hr', snapshot, (hreplied.same hboth).mono (history_subset _ _), ?_⟩
          rw [List.mem_singleton.mp hb, hboth.columns.2.1]

/-- **Every action** keeps the stored events in order. -/
theorem Kept.step (h : Kept R d s₀ as w) (hw : run R d (start Json s₀) as = w) (a : Action) :
    Kept R d s₀ (as ++ [a]) (exec R d w a) := by
  have swapped : ∀ {i c}, (∀ k b hd, a ≠ .receive k b hd) → (∀ b ∈ steps w a, a = .system b) →
      CallSound R (as ++ [a]) w c → Kept R d s₀ (as ++ [a]) (proceed w i c) := by
    intro i c hother hsteps hc
    refine h.keep hw rfl rfl rfl (fun _ _ _ _ _ _ heq _ => absurd heq (hother _ _ _)) ?_ hsteps
    intro c' hc'
    rcases List.mem_or_eq_of_mem_set hc' with hc' | rfl
    · exact Or.inl hc'
    · exact Or.inr hc
  have same : (∀ k b hd, a ≠ .receive k b hd) → (∀ b ∈ steps w a, a = .system b) →
      Kept R d s₀ (as ++ [a]) w := fun hother hsteps =>
    h.keep hw rfl rfl rfl (fun _ _ _ _ _ _ heq _ => absurd heq (hother _ _ _))
      (fun c hc => Or.inl hc) hsteps
  cases a with
  | system a =>
      refine h.keep hw rfl rfl rfl (fun _ _ _ _ _ _ heq _ => by cases heq)
        (fun c hc => Or.inl hc) ?_
      intro b hb
      rw [List.mem_singleton.mp hb]
  | receive providerKey rawBody headers => exact h.receive hw providerKey rawBody headers
  | handle inboundEventId =>
      rw [exec]
      split
      · refine h.keep hw rfl rfl rfl (fun _ _ _ _ _ _ heq _ => by cases heq) ?_
          (fun b hb => by cases hb)
        intro c hc
        rcases List.mem_append.mp hc with hc | hc
        · exact Or.inl hc
        · rw [List.mem_singleton.mp hc]
          exact Or.inr (process_sound inboundEventId)
      · exact same (fun _ _ _ heq => by cases heq) fun b hb => by cases hb
  | answer i api =>
      rw [exec]
      split
      · next row hcall =>
          obtain ⟨hstored, provider, hprovider, hpolled⟩ := h.calls _ (List.mem_of_getElem? hcall)
          split
          · next snapshot hanswer =>
              refine swapped (fun _ _ _ heq => by cases heq) (fun b hb => by cases hb)
                ⟨hstored, provider, hprovider, ?_⟩
              rw [if_pos hpolled]
              exact ⟨i, api, List.mem_append_right _ (List.mem_singleton.mpr rfl), rfl,
                hanswer.symm⟩
          · exact swapped (fun _ _ _ heq => by cases heq) (fun b hb => by cases hb) trivial
      · exact same (fun _ _ _ heq => by cases heq) fun b hb => by cases hb
  | apply i =>
      rw [exec]
      split
      · next row snapshot hcall => exact h.apply hw hcall
      · next hcall =>
          refine same (fun _ _ _ heq => by cases heq) fun b hb => ?_
          rw [steps] at hb
          split at hb
          · next row snapshot hsome => exact absurd hsome (hcall row (some snapshot))
          · cases hb
  | crash i => exact swapped (fun _ _ _ heq => by cases heq) (fun b hb => by cases hb) trivial

theorem start_kept (R : Registry Json) (d : Deployment) (s₀ : State) :
    Kept R d s₀ [] (start Json s₀) where
  ids := Serial.nil _ _
  once := List.nodup_nil
  queued := rfl
  signed row hrow := by cases hrow
  heard _ _ _ _ _ _ hmem _ := by cases hmem
  calls c hc := by cases hc
  processed row hrow := by cases hrow
  backed b hb := by cases hb

theorem run_kept (R : Registry Json) (d : Deployment) (s₀ : State) (as : List Action) :
    Kept R d s₀ as (run R d (start Json s₀) as) :=
  Runs.run_history (start_kept R d s₀) (fun _ a h => h.step rfl a) as

end Steps

/-! ## A delivery's event -/

/-- The requests so far brought the event, signed by its courier. -/
def Brought (R : Registry Json) (as : List Action) (providerKey eventId : String) : Prop :=
  ∃ rawBody headers externalId payload, Action.receive providerKey rawBody headers ∈ as ∧
    accepted R providerKey rawBody headers = some (eventId, externalId, payload)

theorem Kept.stored_iff {s₀ : State} (h : Kept R d s₀ as w) (providerKey eventId : String) :
    (∃ row ∈ w.inbound, row.providerKey = providerKey ∧ row.eventId = eventId) ↔
      Brought R as providerKey eventId := by
  constructor
  · rintro ⟨row, hrow, rfl, rfl⟩
    obtain ⟨rawBody, headers, hmem, haccepted⟩ := h.signed row hrow
    exact ⟨rawBody, headers, row.externalId, row.payload, hmem, haccepted⟩
  · rintro ⟨rawBody, headers, externalId, payload, hmem, haccepted⟩
    exact h.heard _ _ _ _ _ _ hmem haccepted

theorem accepted_subject {providerKey : String} {rawBody : Body} {headers : Headers}
    {eventId externalId : String} {payload : Json}
    (h : accepted R providerKey rawBody headers = some (eventId, externalId, payload)) :
    externalId ≠ "" := by
  simp only [accepted, Option.bind_eq_bind, Option.bind_eq_some_iff] at h
  obtain ⟨_, _, _, _, _, _, _, _, event, _, _, _, subject, hsubject, _, _, heq⟩ := h
  cases heq
  rw [ProviderWebhookEvent.subject, Option.filter_eq_some_iff] at hsubject
  exact of_decide_eq_true hsubject.2

/-- **Progress**: a worker that asks the courier about an event not yet processed
and is answered processes it. -/
theorem handled {s₀ : State} (h : Kept R d s₀ as w) (hs : InStep w.db)
    {row : InboundEventRow Json} (hrow : row ∈ w.inbound) (hopen : row.processedAt = none)
    {provider : WebhookAdapter} (hprovider : R.adapters row.providerKey = some provider)
    (hpolled : provider.getDelivery = true)
    {api : String → String → Option ProviderDeliverySnapshot} {snapshot : ProviderDeliverySnapshot}
    (hanswer : api row.providerKey row.externalId = some snapshot) :
    let w' := run R d w [.handle row.id, .answer w.calls.length api, .apply w.calls.length]
    w'.db = System.exec d w.db (.syncFromSnapshot row.providerKey snapshot) ∧
      { row with processedAt := some w'.db.now } ∈ w'.inbound := by
  obtain ⟨rawBody, headers, -, haccepted⟩ := h.signed row hrow
  have hsubject : row.externalId ≠ "" := accepted_subject haccepted
  have hqueued : row.id ∈ w.jobs := by
    rw [h.queued]
    exact List.mem_map_of_mem hrow
  have hget : get InboundEventRow.id row.id w.inbound = some row := h.ids.distinct.get_eq hrow
  have hasking : process R w row.id = .asking row := by
    simp [process, hget, hopen, hsubject, hprovider, hpolled]
  -- the worker reads the event, and the courier answers
  set w₁ : World Json := { w with calls := w.calls ++ [.asking row] } with hw₁
  have hhandle : exec R d w (.handle row.id) = w₁ := by
    rw [exec, if_pos hqueued, hasking]
  have hanswered : exec R d w₁ (.answer w.calls.length api)
      = proceed w₁ w.calls.length (.applying row (some snapshot)) := by
    have hcall : w₁.calls[w.calls.length]? = some (.asking row) := by simp [hw₁]
    rw [exec, hcall]
    simp only [hanswer]
  set w₂ : World Json := proceed w₁ w.calls.length (.applying row (some snapshot)) with hw₂
  -- the answer is applied and the event marked
  obtain ⟨r, db, hsync⟩ := syncFromSnapshot_commits d row.providerKey snapshot hs
  have happlied : exec R d w₂ (.apply w.calls.length)
      = proceed (markProcessed row.id { w₂ with db := db }) w.calls.length .ended := by
    have hcall : w₂.calls[w.calls.length]? = some (.applying row (some snapshot)) := by
      simp [hw₂, hw₁, proceed]
    have hrun : (syncFromSnapshot d row.providerKey snapshot).run w₂.db = .ok (r, db) := hsync
    rw [exec, hcall]
    simp only [applySnapshot, hrun]
  have hrun : run R d w [.handle row.id, .answer w.calls.length api, .apply w.calls.length]
      = proceed (markProcessed row.id { w₂ with db := db }) w.calls.length .ended := by
    rw [run, Runs.run_cons, hhandle, Runs.run_cons, hanswered, Runs.run_cons, happlied]
    rfl
  rw [hrun]
  refine ⟨?_, mem_update_of_pos hrow (decide_eq_true rfl)⟩
  change db = _
  rw [System.exec, System.tx, Tx.run_bind_of_ok hsync]
  rfl

/-- **Webhooks**, over every run: whatever requests came, again and out of order,
whichever workers took their events up and whichever of them crashed. The rest
of the system only ever saw its own steps and what couriers said of deliveries
they had sent signed events about: every stored event says what its courier's
signed request said. Each such event is stored once and queued once, is marked
processed only after what was said of its delivery has been applied, and can be
processed whenever its courier answers. -/
theorem webhooks_sound (R : Registry Json) (d : Deployment) {s₀ : State} (h₀ : Initial s₀)
    (as : List Action) :
    let w := run R d (start Json s₀) as
    (w.db = System.run d s₀ (trace R d (start Json s₀) as) ∧
      ∀ a ∈ trace R d (start Json s₀) as, Action.system a ∈ as ∨
        ∃ row ∈ w.inbound, ∃ snapshot, Replied R as row (some snapshot) ∧
          a = .syncFromSnapshot row.providerKey snapshot) ∧
    (∀ row ∈ w.inbound, Signed R as row) ∧
    (∀ providerKey eventId,
      (∃ row ∈ w.inbound, row.providerKey = providerKey ∧ row.eventId = eventId) ↔
        Brought R as providerKey eventId) ∧
    (w.inbound.map fun row => (row.providerKey, row.eventId)).Nodup ∧
    w.jobs = w.inbound.map InboundEventRow.id ∧ w.jobs.Nodup ∧
    (∀ row ∈ w.inbound, row.processedAt.isSome = true →
      ∃ reply, Replied R as row reply ∧ ∀ snapshot, reply = some snapshot →
        System.Action.syncFromSnapshot row.providerKey snapshot ∈ trace R d (start Json s₀) as) ∧
    ∀ row ∈ w.inbound, row.processedAt = none → ∀ provider,
      R.adapters row.providerKey = some provider → provider.getDelivery = true →
      ∀ api snapshot, api row.providerKey row.externalId = some snapshot →
        let w' := run R d w [.handle row.id, .answer w.calls.length api, .apply w.calls.length]
        w'.db = System.exec d w.db (.syncFromSnapshot row.providerKey snapshot) ∧
          { row with processedAt := some w'.db.now } ∈ w'.inbound := by
  intro w
  have h : Kept R d s₀ as w := run_kept R d s₀ as
  have hdb : w.db = System.run d s₀ (trace R d (start Json s₀) as) := run_db (start Json s₀) as
  have hs : InStep w.db := by
    rw [hdb]
    exact (run_orderly d h₀ _).aligned.inStep
  refine ⟨⟨hdb, h.backed⟩, h.signed, h.stored_iff, h.once, h.queued, ?_, h.processed, ?_⟩
  · rw [h.queued]
    exact h.ids.distinct
  · intro row hrow hopen provider hprovider hpolled api snapshot hanswer
    exact handled h hs hrow hopen hprovider hpolled hanswer

/-! ## One event, three times -/

/-- A courier that signs with one word and can be asked; every body it sends is
about the delivery `ext`. -/
def demoAdapter : WebhookAdapter where
  verifyWebhook := some fun _ headers => headers "x-sendii-signature" = some "signed"
  parseWebhook := some fun _ => some ⟨"evt", some "ext", some .assigned, none⟩
  getDelivery := true

def demoRegistry : Registry Body where
  adapters := fun key => if key = "sendii" then some demoAdapter else none
  parseJson := some
  stringify := id

def demoHeaders (signature : String) : Headers := fun name =>
  if name = "x-sendii-signature" then some signature else none

def demoApi : String → String → Option ProviderDeliverySnapshot :=
  fun _ _ => some (demoSnapshot .pickedUp 2)

/-- A forged request, the event, the event again, two workers on it of which one
crashes, and the event once more. -/
def demoRequests : List Action :=
  (demoBooking ++ [System.Action.webhook 10 (some demoPayment) ["LOC1"]] ++ demoBooked).map
      .system ++
    [.receive "sendii" [1] (demoHeaders "forged"), .receive "sendii" [2] (demoHeaders "signed"),
      .receive "sendii" [2] (demoHeaders "signed"), .handle 0, .handle 0, .answer 0 demoApi,
      .crash 0, .receive "sendii" [2] (demoHeaders "signed")]

theorem demo_webhooks_sound :
    let w := run demoRegistry demo (start Body demoState) demoRequests
    w.inbound = [⟨0, "sendii", "evt", "ext", [2], none⟩] ∧ w.jobs = [0] ∧
      (∀ row ∈ w.inbound, Signed demoRegistry demoRequests row) ∧
      let w' := run demoRegistry demo w [.handle 0, .answer 2 demoApi, .apply 2]
      w'.db = System.exec demo w.db (.syncFromSnapshot "sendii" (demoSnapshot .pickedUp 2)) ∧
        w'.db.legs.map DeliveryLegRow.status = [.pickedUp] := by
  intro w
  have hstored : w.inbound = [⟨0, "sendii", "evt", "ext", [2], none⟩] := by decide +kernel
  have hcalls : w.calls.length = 2 := by decide +kernel
  obtain ⟨-, hsigned, -, -, -, -, -, hprogress⟩ :=
    webhooks_sound demoRegistry demo demoState_initial demoRequests
  have hrow : (⟨0, "sendii", "evt", "ext", [2], none⟩ : InboundEventRow Body) ∈ w.inbound := by
    rw [hstored]
    exact List.mem_singleton.mpr rfl
  obtain ⟨hsync, -⟩ := hprogress _ hrow rfl demoAdapter rfl rfl demoApi _ rfl
  refine ⟨hstored, by decide +kernel, hsigned, ?_, by decide +kernel⟩
  rw [← hcalls]
  exact hsync

end Locoomo.CourierWebhooks
