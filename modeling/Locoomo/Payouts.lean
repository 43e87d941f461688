import Locoomo.AccessRuns
import Locoomo.EarningsPages
import Locoomo.Lib.Saves

/-! Settling earnings. An administrator marks an entry as paid by reading it,
setting three of its columns and saving it; others do the same in between. -/

namespace Locoomo.Payouts

open Locoomo.Database Locoomo.EarningsPages Relational

/-! ## Calls -/

/-- How a call ends, with the entry that it answers with. -/
inductive Answer
  | entityNotFound (entity : String) (id : Nat)
  | notPayable (entryId : Nat)
  | alreadyPaid (entry : EntryRow)
  | marked (entryId : Nat)
  deriving DecidableEq

/-- A call between two of its statements: the entity it saves, and the row that the
save has re-read. -/
inductive Call
  | ended (answer : Answer)
  | saving (entity : EntryRow)
  | writing (entity row : EntryRow)
  deriving DecidableEq

structure Office where
  now : Nat
  access : Access.World
  books : EarningsPages.World
  calls : List Call

inductive Action
  | tick (ms : Nat)
  | access (a : Access.Action)
  | books (a : EarningsPages.Action)
  | markPaid (token : Option Access.AccessToken) (entryId : Nat)
  | reread (i : Nat)
  | write (i : Nat)

/-- The read of `markPaid`, and the columns it sets. -/
def readEntry (o : Office) (adminId entryId : Nat) : Call :=
  match get EntryRow.id entryId o.books.entries with
  | none => .ended (.entityNotFound "RevenueSplitEntry" entryId)
  | some entry =>
      match entry.payoutStatus with
      | .notPayable => .ended (.notPayable entryId)
      | .paid => .ended (.alreadyPaid entry)
      | .pending => .saving (markedPaid adminId o.now entry)

/-- `entries.save`: the columns in which the entity differs from the re-read row. -/
def saveEntry (entity row current : EntryRow) : EntryRow where
  id := current.id
  orderId := Saves.column entity.orderId row.orderId current.orderId
  partyType := Saves.column entity.partyType row.partyType current.partyType
  partyId := Saves.column entity.partyId row.partyId current.partyId
  amountKobo := Saves.column entity.amountKobo row.amountKobo current.amountKobo
  splitRuleId := Saves.column entity.splitRuleId row.splitRuleId current.splitRuleId
  payoutStatus := Saves.column entity.payoutStatus row.payoutStatus current.payoutStatus
  paidAt := Saves.column entity.paidAt row.paidAt current.paidAt
  paidByAdminId := Saves.column entity.paidByAdminId row.paidByAdminId current.paidByAdminId
  createdAt := Saves.column entity.createdAt row.createdAt current.createdAt

def setEntries (o : Office) (entries : List EntryRow) : Office :=
  { o with books := { o.books with entries } }

def proceed (o : Office) (i : Nat) (call : Call) : Office :=
  { o with calls := o.calls.set i call }

/-- What has steps of its own here. -/
def isMarkPaid : EarningsPages.Action → Bool
  | .markPaid _ _ _ => true
  | _ => false

def exec (p : Access.Platform) (o : Office) : Action → Office
  | .tick ms => { o with now := o.now + ms }
  | .access a => { o with access := Access.exec p o.access a }
  | .books a => if isMarkPaid a then o else { o with books := EarningsPages.exec o.books a }
  | .markPaid token entryId =>
      match Access.guard o.access token [.admin] with
      | .error _ => o
      | .ok adminId => { o with calls := o.calls ++ [readEntry o adminId entryId] }
  | .reread i =>
      match o.calls[i]? with
      | some (.saving entity) =>
          match get EntryRow.id entity.id o.books.entries with
          | none => o
          | some row => proceed o i (.writing entity row)
      | _ => o
  | .write i =>
      match o.calls[i]? with
      | some (.writing entity row) =>
          proceed (setEntries o (update (fun e => e.id = entity.id) (saveEntry entity row)
            o.books.entries)) i (.ended (.marked entity.id))
      | _ => o

def run (p : Access.Platform) (o : Office) (as : List Action) : Office := Runs.run (exec p) o as

/-- With nobody in between, the steps of a call are the one step of `EarningsPages`. -/
theorem alone_is_markPaid {o : Office} {entity row : EntryRow} (hrow : row ∈ o.books.entries)
    (hids : Distinct EntryRow.id o.books.entries) {adminId : Nat}
    (hentity : entity = markedPaid adminId o.now row) (hpending : row.payoutStatus = .pending) :
    update (fun e => e.id = entity.id) (saveEntry entity row) o.books.entries =
      (EarningsPages.exec o.books (.markPaid row.id adminId o.now)).entries := by
  subst hentity
  refine List.map_congr_left fun e he => ?_
  have hid : (markedPaid adminId o.now row).id = row.id := rfl
  by_cases hsame : e.id = row.id
  · obtain rfl : e = row := hids.eq_of_key he hrow hsame
    simp [hpending, saveEntry, markedPaid]
  · simp [hsame, hid]

/-! ## Entries -/

/-- An entry is paid just when it says when, and just when it says by whom. -/
structure Whole (e : EntryRow) : Prop where
  paidAt : e.payoutStatus = .paid ↔ e.paidAt.isSome = true
  paidByAdminId : e.payoutStatus = .paid ↔ e.paidByAdminId.isSome = true

/-- What is never written again. -/
def core (e : EntryRow) :
    Nat × Nat × RevenueSplitPartyType × Option Nat × Int × Nat × Nat :=
  (e.id, e.orderId, e.partyType, e.partyId, e.amountKobo, e.splitRuleId, e.createdAt)

/-- A later state of an entry: the same earnings, and no payment taken back. -/
structure Later (e e' : EntryRow) : Prop where
  same : core e' = core e
  paid : e.payoutStatus = .paid → e'.payoutStatus = .paid
  closed : e.payoutStatus = .notPayable ∨ e'.payoutStatus = .notPayable → e' = e

theorem Later.refl (e : EntryRow) : Later e e := ⟨rfl, id, fun _ => rfl⟩

theorem Later.trans {e e' e'' : EntryRow} (h : Later e e') (h' : Later e' e'') : Later e e'' where
  same := h'.same.trans h.same
  paid hpaid := h'.paid (h.paid hpaid)
  closed := by
    rintro (hclosed | hclosed)
    · have heq := h.closed (Or.inl hclosed)
      rw [h'.closed (Or.inl (heq ▸ hclosed)), heq]
    · have heq := h'.closed (Or.inr hclosed)
      rw [heq, h.closed (Or.inr (heq ▸ hclosed))]

/-- The entity of a call: a payment of the entry, marked at one time by one
administrator. -/
structure Payment (entity e : EntryRow) : Prop where
  same : core entity = core e
  payable : e.payoutStatus ≠ .notPayable
  status : entity.payoutStatus = .paid
  paidAt : entity.paidAt.isSome = true
  paidByAdminId : entity.paidByAdminId.isSome = true

section Saved

variable {entity row e : EntryRow}

theorem Payment.core_eq (h : Payment entity e) (hrow : core row = core e) :
    core entity = core row := h.same.trans hrow.symm

/-- A save writes no more than the payment. -/
theorem saved_core (h : core entity = core row) : core (saveEntry entity row e) = core e := by
  simp only [core, Prod.mk.injEq] at h
  obtain ⟨-, horder, hparty, hid, hamount, hrule, hcreated⟩ := h
  simp [core, saveEntry, horder, hparty, hid, hamount, hrule, hcreated]

/-- **A save leaves the entry paid**, the time and the administrator with it: where
it leaves a column alone, the row had been paid by its re-read. -/
theorem saved_paid (h : Payment entity e) (hrow : Later row e) (hwhole : Whole row)
    (hcurrent : Whole e) :
    (saveEntry entity row e).payoutStatus = .paid ∧
      (saveEntry entity row e).paidAt.isSome = true ∧
      (saveEntry entity row e).paidByAdminId.isSome = true := by
  refine ⟨?_, ?_, ?_⟩
  · simp only [saveEntry, Saves.column]
    split
    · next heq => exact hrow.paid (heq ▸ h.status)
    · exact h.status
  · simp only [saveEntry, Saves.column]
    split
    · next heq => exact hcurrent.paidAt.mp (hrow.paid (hwhole.paidAt.mpr (heq ▸ h.paidAt)))
    · exact h.paidAt
  · simp only [saveEntry, Saves.column]
    split
    · next heq =>
        exact hcurrent.paidByAdminId.mp
          (hrow.paid (hwhole.paidByAdminId.mpr (heq ▸ h.paidByAdminId)))
    · exact h.paidByAdminId

theorem saved_whole (h : Payment entity e) (hrow : Later row e) (hwhole : Whole row)
    (hcurrent : Whole e) : Whole (saveEntry entity row e) := by
  obtain ⟨hpaid, hat, hby⟩ := saved_paid h hrow hwhole hcurrent
  exact ⟨iff_of_true hpaid hat, iff_of_true hpaid hby⟩

theorem saved_later (h : Payment entity e) (hrow : Later row e) (hwhole : Whole row)
    (hcurrent : Whole e) : Later e (saveEntry entity row e) where
  same := saved_core (h.core_eq hrow.same.symm)
  paid _ := (saved_paid h hrow hwhole hcurrent).1
  closed := by
    rintro (hclosed | hclosed)
    · exact absurd hclosed h.payable
    · rw [(saved_paid h hrow hwhole hcurrent).1] at hclosed
      cases hclosed

end Saved

theorem Payment.later {entity e e' : EntryRow} (h : Payment entity e) (hlater : Later e e') :
    Payment entity e' :=
  { h with
    same := h.same.trans hlater.same.symm
    payable := fun hclosed => h.payable (hlater.closed (Or.inr hclosed) ▸ hclosed) }

/-! ## Runs -/

variable {p : Access.Platform} {o₀ o o' : Office} {as : List Action} {call : Call}

/-- An administrator asked for it while the entry was pending. -/
def MarkedBy (p : Access.Platform) (o₀ : Office) (as : List Action) (entryId : Nat)
    (P : Office → Access.AccessToken → Prop) : Prop :=
  Runs.Earlier (exec p) o₀ as fun o a => ∃ token e,
    a = .markPaid (some token) entryId ∧ token ∈ o.access.issued ∧ token.role = .admin ∧
      e ∈ o.books.entries ∧ e.id = entryId ∧ e.payoutStatus = .pending ∧ P o token

/-- What an entry says about its payment goes back to such a request, or was there
before. -/
structure Accounted (p : Access.Platform) (o₀ : Office) (as : List Action) (e : EntryRow) :
    Prop where
  paidAt : ∀ time ∈ e.paidAt, (∃ e₀ ∈ o₀.books.entries, e₀.id = e.id ∧ e₀.paidAt = some time) ∨
    MarkedBy p o₀ as e.id fun o _ => o.now = time
  paidByAdminId : ∀ adminId ∈ e.paidByAdminId,
    (∃ e₀ ∈ o₀.books.entries, e₀.id = e.id ∧ e₀.paidByAdminId = some adminId) ∨
      MarkedBy p o₀ as e.id fun _ token => token.sub = adminId

/-- The entity of a call that has not ended yet. -/
def entityOf : Call → Option EntryRow
  | .ended _ => none
  | .saving entity => some entity
  | .writing entity _ => some entity

/-- A re-read row is an earlier state of the entry. -/
def Reread (e : EntryRow) : Call → Prop
  | .writing _ row => Later row e ∧ Whole row
  | _ => True

/-- The tables, and every call that has not ended. -/
structure Sound (p : Access.Platform) (o₀ : Office) (as : List Action) (o : Office) : Prop where
  kept : Kept o.books
  whole : ∀ e ∈ o.books.entries, Whole e
  accounted : ∀ e ∈ o.books.entries, Accounted p o₀ as e
  calls : ∀ call ∈ o.calls, ∀ entity ∈ entityOf call, ∃ e ∈ o.books.entries,
    Payment entity e ∧ Reread e call ∧ Accounted p o₀ as entity

theorem MarkedBy.snoc {entryId : Nat} {P : Office → Access.AccessToken → Prop}
    (h : MarkedBy p o₀ as entryId P) (a : Action) : MarkedBy p o₀ (as ++ [a]) entryId P :=
  Runs.Earlier.snoc h a

theorem Accounted.snoc {e : EntryRow} (h : Accounted p o₀ as e) (a : Action) :
    Accounted p o₀ (as ++ [a]) e where
  paidAt time hat := (h.paidAt time hat).imp id fun hmarked => hmarked.snoc a
  paidByAdminId adminId hby := (h.paidByAdminId adminId hby).imp id fun hmarked => hmarked.snoc a

/-- A saved entry says what the entity or the entry said. -/
theorem Accounted.saved {entity row e : EntryRow} (hentity : Accounted p o₀ as entity)
    (he : Accounted p o₀ as e) (hid : entity.id = e.id) :
    Accounted p o₀ as (saveEntry entity row e) where
  paidAt time hat := by
    rcases Saves.column_eq_or entity.paidAt row.paidAt e.paidAt with heq | heq
    · exact he.paidAt time (heq ▸ hat)
    · exact hid ▸ hentity.paidAt time (heq ▸ hat)
  paidByAdminId adminId hby := by
    rcases Saves.column_eq_or entity.paidByAdminId row.paidByAdminId e.paidByAdminId with
      heq | heq
    · exact he.paidByAdminId adminId (heq ▸ hby)
    · exact hid ▸ hentity.paidByAdminId adminId (heq ▸ hby)

theorem Reread.later {e e' : EntryRow} (h : Reread e call) (hlater : Later e e') :
    Reread e' call := by
  cases call with
  | writing entity row => exact ⟨h.1.trans hlater, h.2⟩
  | _ => trivial

/-- Entries have only gone on. -/
def Grown (o o' : Office) : Prop :=
  ∀ e ∈ o.books.entries, ∃ e' ∈ o'.books.entries, Later e e'

theorem Grown.refl (o : Office) : Grown o o := fun e he => ⟨e, he, Later.refl e⟩

/-- Whatever has become of the entries, the calls still stand on them. -/
theorem Sound.calls_later (h : Sound p o₀ as o) (hgrown : Grown o o') (a : Action) :
    ∀ call ∈ o.calls, ∀ entity ∈ entityOf call, ∃ e ∈ o'.books.entries,
      Payment entity e ∧ Reread e call ∧ Accounted p o₀ (as ++ [a]) entity := by
  intro call hcall entity hentity
  obtain ⟨e, he, hpayment, hreread, haccounted⟩ := h.calls call hcall entity hentity
  obtain ⟨e', he', hlater⟩ := hgrown e he
  exact ⟨e', he', hpayment.later hlater, hreread.later hlater, haccounted.snoc a⟩

theorem splitEntries_unpaid {order : OrderRow} {rule : Pricing.RevenueSplitRule} :
    ∀ e ∈ Handoffs.splitEntries order rule, e.payoutStatus ≠ .paid := by
  intro e he
  simp only [Handoffs.splitEntries, List.mem_cons, List.not_mem_nil, or_false] at he
  rcases he with rfl | rfl | rfl | rfl
  · split <;> exact fun h => (by cases h)
  all_goals exact fun h => (by cases h)

/-- The rest of the system leaves the entries alone, but for new ones that nobody
has been paid. -/
theorem books_entries {w : EarningsPages.World} {a : EarningsPages.Action}
    (h : isMarkPaid a = false) :
    ∃ new, (EarningsPages.exec w a).entries = w.entries ++ new ∧
      ∀ e ∈ new, e.payoutStatus ≠ .paid ∧ e.paidAt = none ∧ e.paidByAdminId = none := by
  have hnone : ∀ entries : List EntryRow, entries = w.entries → ∃ new, entries = w.entries ++ new ∧
      ∀ e ∈ new, e.payoutStatus ≠ .paid ∧ e.paidAt = none ∧ e.paidByAdminId = none := by
    rintro entries rfl
    exact ⟨[], (List.append_nil _).symm, fun e he => (by cases he)⟩
  cases a with
  | markPaid entryId adminId now => cases h
  | onboardRider userId =>
      simp only [EarningsPages.exec]
      split <;> exact hnone _ rfl
  | record order rule startedAt =>
      simp only [EarningsPages.exec]
      split
      · refine ⟨_, rfl, fun e he => ?_⟩
        obtain ⟨i, hi, rfl⟩ := List.mem_mapIdx.mp he
        exact ⟨splitEntries_unpaid _ (List.getElem_mem hi), rfl, rfl⟩
      · exact hnone _ rfl
  | _ => exact hnone _ rfl

/-- New entries, nothing else. -/
theorem Sound.books (h : Sound p o₀ as o) {a : EarningsPages.Action} (ha : isMarkPaid a = false)
    (b : Action) : Sound p o₀ (as ++ [b]) { o with books := EarningsPages.exec o.books a } := by
  obtain ⟨new, hentries, hnew⟩ := books_entries (w := o.books) ha
  refine ⟨h.kept.step a, fun e he => ?_, fun e he => ?_, h.calls_later (fun e he => ?_) b⟩
  · rw [hentries] at he
    rcases List.mem_append.mp he with he | he
    · exact h.whole e he
    · obtain ⟨hpaid, hat, hby⟩ := hnew e he
      exact ⟨by simp [hpaid, hat], by simp [hpaid, hby]⟩
  · rw [hentries] at he
    rcases List.mem_append.mp he with he | he
    · exact (h.accounted e he).snoc b
    · obtain ⟨-, hat, hby⟩ := hnew e he
      exact ⟨fun _ h => (by rw [hat] at h; cases h), fun _ h => (by rw [hby] at h; cases h)⟩
  · exact ⟨e, hentries ▸ List.mem_append_left _ he, Later.refl e⟩

/-- The entries stay; the calls have changed. -/
theorem Sound.onward (h : Sound p o₀ as o) (a : Action) {calls : List Call}
    (hcalls : ∀ call ∈ calls, ∀ entity ∈ entityOf call, ∃ e ∈ o.books.entries,
      Payment entity e ∧ Reread e call ∧ Accounted p o₀ (as ++ [a]) entity)
    (now : Nat) (access : Access.World) :
    Sound p o₀ (as ++ [a]) { o with now, access, calls } :=
  ⟨h.kept, h.whole, fun e he => (h.accounted e he).snoc a, hcalls⟩

/-- The read of a call, by an administrator. -/
theorem readEntry_stands {token : Option Access.AccessToken} {adminId entryId : Nat}
    (hguard : Access.guard (run p o₀ as).access token [.admin] = .ok adminId) :
    ∀ entity ∈ entityOf (readEntry (run p o₀ as) adminId entryId),
      ∃ e ∈ (run p o₀ as).books.entries, Payment entity e ∧
        Reread e (readEntry (run p o₀ as) adminId entryId) ∧
        Accounted p o₀ (as ++ [.markPaid token entryId]) entity := by
  obtain ⟨t, rfl, hissued, hrole, rfl⟩ := AccessRuns.guard_ok hguard
  have hadmin : t.role = .admin := by simpa using hrole
  intro entity hentity
  unfold readEntry at hentity ⊢
  split at hentity
  · cases hentity
  · next e hfound =>
      obtain ⟨he, hid⟩ := get_some hfound
      split at hentity
      · cases hentity
      · cases hentity
      · next hpending =>
          cases hentity
          refine ⟨e, he, ⟨rfl, by rw [hpending]; decide, rfl, rfl, rfl⟩, trivial, ?_⟩
          have hmarked : ∀ P : Office → Access.AccessToken → Prop, P (run p o₀ as) t →
              MarkedBy p o₀ (as ++ [.markPaid (some t) entryId]) e.id P := by
            intro P hP
            refine Runs.earlier_last ⟨t, e, ?_, hissued, hadmin, he, rfl, hpending, hP⟩
            rw [hid]
          exact ⟨fun _ hat => Or.inr (hmarked _ (Option.some.inj hat)),
            fun _ hby => Or.inr (hmarked _ (Option.some.inj hby))⟩

/-- An entry after a write: another one as it was, or this one saved. -/
theorem written_entry {entity row : EntryRow} {entries : List EntryRow} {e' : EntryRow}
    (h : e' ∈ update (fun e => e.id = entity.id) (saveEntry entity row) entries) :
    ∃ e ∈ entries, (e.id ≠ entity.id ∧ e' = e) ∨
      (e.id = entity.id ∧ e' = saveEntry entity row e) := by
  obtain ⟨e, he, rfl⟩ := mem_update.mp h
  refine ⟨e, he, ?_⟩
  split
  · next hid => exact Or.inr ⟨of_decide_eq_true hid, rfl⟩
  · next hid => exact Or.inl ⟨fun heq => hid (decide_eq_true heq), rfl⟩

/-- What a call that writes stands on, once its entry is known. -/
theorem Sound.writing (h : Sound p o₀ as o) {entity row e : EntryRow}
    (hcall : .writing entity row ∈ o.calls) (he : e ∈ o.books.entries) (hid : e.id = entity.id) :
    Payment entity e ∧ Later row e ∧ Whole row ∧ Accounted p o₀ as entity := by
  obtain ⟨e₁, he₁, hpayment, ⟨hlater, hwhole⟩, haccounted⟩ := h.calls _ hcall entity rfl
  have hsame : entity.id = e₁.id := congrArg Prod.fst hpayment.same
  obtain rfl : e = e₁ := h.kept.entries.distinct.eq_of_key he he₁ (hid.trans hsame)
  exact ⟨hpayment, hlater, hwhole, haccounted⟩

theorem Sound.write_grown (h : Sound p o₀ as o) {entity row : EntryRow}
    (hcall : .writing entity row ∈ o.calls) :
    Grown o (setEntries o (update (fun e => e.id = entity.id) (saveEntry entity row)
      o.books.entries)) := by
  intro e he
  by_cases hid : e.id = entity.id
  · obtain ⟨hpayment, hlater, hwhole, -⟩ := h.writing hcall he hid
    exact ⟨_, mem_update_of_pos he (decide_eq_true hid),
      saved_later hpayment hlater hwhole (h.whole e he)⟩
  · exact ⟨e, mem_update_of_neg he (decide_eq_false hid), Later.refl e⟩

/-- **A save** keeps the entries whole, whatever has been saved since its re-read. -/
theorem Sound.write (h : Sound p o₀ as o) {entity row : EntryRow} {i : Nat}
    (hcall : o.calls[i]? = some (.writing entity row)) (a : Action) :
    Sound p o₀ (as ++ [a]) (proceed (setEntries o (update (fun e => e.id = entity.id)
      (saveEntry entity row) o.books.entries)) i (.ended (.marked entity.id))) := by
  have hmem := List.mem_of_getElem? hcall
  have hgrown := h.write_grown hmem
  refine ⟨?_, fun e' he' => ?_, fun e' he' => ?_, fun call hcall' => ?_⟩
  · refine { h.kept with entries := h.kept.entries.update fun _ => rfl, placed := fun e' he' => ?_ }
    obtain ⟨e, he, ⟨-, rfl⟩ | ⟨hid, rfl⟩⟩ := written_entry he'
    · exact h.kept.placed _ he
    · obtain ⟨hpayment, hlater, -, -⟩ := h.writing hmem he hid
      have hcore := saved_core (e := e) (hpayment.core_eq hlater.same.symm)
      have horder : (saveEntry entity row e).orderId = e.orderId :=
        congrArg (fun c => c.2.1) hcore
      rw [horder]
      exact h.kept.placed e he
  · obtain ⟨e, he, ⟨-, rfl⟩ | ⟨hid, rfl⟩⟩ := written_entry he'
    · exact h.whole _ he
    · obtain ⟨hpayment, hlater, hwhole, -⟩ := h.writing hmem he hid
      exact saved_whole hpayment hlater hwhole (h.whole e he)
  · obtain ⟨e, he, ⟨-, rfl⟩ | ⟨hid, rfl⟩⟩ := written_entry he'
    · exact (h.accounted _ he).snoc a
    · obtain ⟨-, -, -, haccounted⟩ := h.writing hmem he hid
      exact (haccounted.saved (h.accounted e he) hid.symm).snoc a
  · rcases List.mem_or_eq_of_mem_set hcall' with hcall' | rfl
    · exact h.calls_later hgrown a call hcall'
    · exact fun entity hentity => (by cases hentity)

/-- **One step** keeps the entries whole. -/
theorem sound_exec (h : Sound p o₀ as (run p o₀ as)) (a : Action) :
    Sound p o₀ (as ++ [a]) (exec p (run p o₀ as) a) := by
  have hstay := h.calls_later (Grown.refl _) a
  have hidle : Sound p o₀ (as ++ [a]) (run p o₀ as) := h.onward a hstay _ _
  cases a with
  | tick ms => exact h.onward _ hstay _ _
  | access b => exact h.onward _ hstay _ _
  | books b =>
      simp only [exec]
      split
      · exact hidle
      · next hb => exact h.books (Bool.eq_false_iff.mpr hb) _
  | markPaid token entryId =>
      simp only [exec]
      split
      · exact hidle
      · next adminId hguard =>
          refine h.onward _ (fun call hcall => ?_) _ _
          rcases List.mem_append.mp hcall with hcall | hcall
          · exact hstay call hcall
          · rw [List.mem_singleton.mp hcall]
            exact readEntry_stands hguard
  | reread i =>
      simp only [exec]
      split
      · next entity hcall =>
          split
          · exact hidle
          · next row hfound =>
              refine h.onward _ (fun call hcall' => ?_) _ _
              rcases List.mem_or_eq_of_mem_set hcall' with hcall' | rfl
              · exact hstay call hcall'
              · intro entity' hentity
                cases hentity
                obtain ⟨e, he, hpayment, -, haccounted⟩ :=
                  hstay _ (List.mem_of_getElem? hcall) entity rfl
                obtain ⟨hrow, hid⟩ := get_some hfound
                have hsame : entity.id = e.id := congrArg Prod.fst hpayment.same
                obtain rfl : row = e :=
                  h.kept.entries.distinct.eq_of_key hrow he (hid.trans hsame)
                exact ⟨row, he, hpayment, ⟨Later.refl row, h.whole row he⟩, haccounted⟩
      · exact hidle
  | write i =>
      simp only [exec]
      split
      · next entity row hcall => exact h.write hcall _
      · exact hidle

/-- Tables that are whole, and nobody at work. -/
structure Founded (o : Office) : Prop where
  kept : Kept o.books
  whole : ∀ e ∈ o.books.entries, Whole e
  idle : o.calls = []

theorem run_sound (h : Founded o₀) (as : List Action) : Sound p o₀ as (run p o₀ as) := by
  refine Runs.run_history ?_ (fun _ a hbefore => sound_exec hbefore a) as
  refine ⟨h.kept, h.whole, fun e he => ?_, fun call hcall => ?_⟩
  · exact ⟨fun _ hat => Or.inl ⟨e, he, rfl, hat⟩, fun _ hby => Or.inl ⟨e, he, rfl, hby⟩⟩
  · rw [h.idle] at hcall
    cases hcall

theorem exec_grown (h : Sound p o₀ as o) (a : Action) : Grown o (exec p o a) := by
  cases a with
  | tick ms => exact Grown.refl o
  | access b => exact Grown.refl o
  | books b =>
      simp only [exec]
      split
      · exact Grown.refl o
      · next hb =>
          obtain ⟨new, hentries, -⟩ := books_entries (w := o.books) (Bool.eq_false_iff.mpr hb)
          intro e he
          exact ⟨e, hentries ▸ List.mem_append_left _ he, Later.refl e⟩
  | markPaid token entryId =>
      simp only [exec]
      split <;> exact Grown.refl o
  | reread i =>
      simp only [exec]
      split
      · split <;> exact Grown.refl o
      · exact Grown.refl o
  | write i =>
      simp only [exec]
      split
      · next entity row hcall => exact h.write_grown (List.mem_of_getElem? hcall)
      · exact Grown.refl o

theorem run_grown (h : Founded o₀) (as bs : List Action) :
    Grown (run p o₀ as) (run p o₀ (as ++ bs)) := by
  refine Runs.run_onward (fun cs a hgrown e he => ?_) as bs (Grown.refl _)
  obtain ⟨e', he', hlater⟩ := hgrown e he
  obtain ⟨e'', he'', hlater'⟩ := exec_grown (run_sound h cs) a e' he'
  exact ⟨e'', he'', hlater.trans hlater'⟩

/-! ## Paid for good -/

/-- A paid entry that no call works on. -/
structure Closed (e : EntryRow) (o : Office) : Prop where
  mem : e ∈ o.books.entries
  paid : e.payoutStatus = .paid
  quiet : ∀ call ∈ o.calls, ∀ entity ∈ entityOf call, entity.id ≠ e.id

/-- A call that finds the entry paid works on it no more. -/
theorem Closed.readEntry {e : EntryRow} (h : Closed e o) (hkept : Kept o.books)
    (adminId entryId : Nat) : ∀ entity ∈ entityOf (readEntry o adminId entryId),
      entity.id ≠ e.id := by
  intro entity hentity hid
  unfold Payouts.readEntry at hentity
  split at hentity
  · cases hentity
  · next found hfound =>
      obtain ⟨hmem, -⟩ := get_some hfound
      split at hentity
      · cases hentity
      · cases hentity
      · next hpending =>
          cases hentity
          obtain rfl : found = e := hkept.entries.distinct.eq_of_key hmem h.mem hid
          rw [h.paid] at hpending
          cases hpending

theorem closed_exec {e : EntryRow} (hs : Sound p o₀ as o) (h : Closed e o) (a : Action) :
    Closed e (exec p o a) := by
  cases a with
  | tick ms => exact { h with }
  | access b => exact { h with }
  | books b =>
      simp only [exec]
      split
      · exact h
      · next hb =>
          obtain ⟨new, hentries, -⟩ := books_entries (w := o.books) (Bool.eq_false_iff.mpr hb)
          exact { h with mem := hentries ▸ List.mem_append_left _ h.mem }
  | markPaid token entryId =>
      simp only [exec]
      split
      · exact h
      · next adminId _ =>
          refine ⟨h.mem, h.paid, fun call hcall => ?_⟩
          rcases List.mem_append.mp hcall with hcall | hcall
          · exact h.quiet call hcall
          · rw [List.mem_singleton.mp hcall]
            exact h.readEntry hs.kept adminId entryId
  | reread i =>
      simp only [exec]
      split
      · next entity hcall =>
          split
          · exact h
          · next row _ =>
              refine ⟨h.mem, h.paid, fun call hcall' => ?_⟩
              rcases List.mem_or_eq_of_mem_set hcall' with hcall' | rfl
              · exact h.quiet call hcall'
              · intro entity' hentity
                cases hentity
                exact h.quiet _ (List.mem_of_getElem? hcall) entity rfl
      · exact h
  | write i =>
      simp only [exec]
      split
      · next entity row hcall =>
          have hother : entity.id ≠ e.id := h.quiet _ (List.mem_of_getElem? hcall) entity rfl
          refine ⟨mem_update_of_neg h.mem (decide_eq_false hother.symm), h.paid,
            fun call hcall' => ?_⟩
          rcases List.mem_or_eq_of_mem_set hcall' with hcall' | rfl
          · exact h.quiet call hcall'
          · exact fun entity hentity => (by cases hentity)
      · exact h

theorem run_closed {e : EntryRow} (h : Founded o₀) (as bs : List Action)
    (hclosed : Closed e (run p o₀ as)) : Closed e (run p o₀ (as ++ bs)) :=
  Runs.run_onward (fun cs a hcs => closed_exec (run_sound h cs) hcs a) as bs hclosed

/-- **Payments are whole and final.** However the calls that mark entries as paid
overlap, an entry is paid just when it says when and by whom; both go back to
administrators who asked for it while it was pending; nothing else about it is ever
written, what is not payable is never paid, and what is paid stays paid; and once the
calls that saw it pending are over, it never changes again. -/
theorem payments_whole (p : Access.Platform) (h : Founded o₀) (as bs : List Action) :
    (∀ e ∈ (run p o₀ as).books.entries, Whole e ∧ Accounted p o₀ as e ∧
      ∃ e' ∈ (run p o₀ (as ++ bs)).books.entries, Later e e') ∧
    ∀ e, Closed e (run p o₀ as) → e ∈ (run p o₀ (as ++ bs)).books.entries := by
  have hs : Sound p o₀ as (run p o₀ as) := run_sound h as
  refine ⟨fun e he => ⟨hs.whole e he, hs.accounted e he, run_grown h as bs e he⟩, ?_⟩
  exact fun e hclosed => (run_closed h as bs hclosed).mem

/-! ## A small run -/

/-- Two administrators, and the four entries of a delivered order. -/
def demoOffice : Office where
  now := 5000
  access := { AccessRuns.demoWorld with issued := [⟨0, .admin, 900⟩, ⟨9, .admin, 900⟩] }
  books := Runs.run EarningsPages.exec EarningsPages.empty collectedOrder
  calls := []

theorem demoOffice_founded : Founded demoOffice where
  kept := kept_run collectedOrder
  whole e he := by
    have hall : ∀ e ∈ demoOffice.books.entries,
        e.payoutStatus ≠ .paid ∧ e.paidAt = none ∧ e.paidByAdminId = none := by decide
    obtain ⟨hpaid, hat, hby⟩ := hall e he
    exact ⟨by simp [hpaid, hat], by simp [hpaid, hby]⟩
  idle := rfl

/-- Both mark the rider's entry, the one a second after the other; the second save
follows the first. -/
def demoMarks : List Action :=
  [.markPaid (some ⟨0, .admin, 900⟩) 2, .tick 1000, .markPaid (some ⟨9, .admin, 900⟩) 2,
    .reread 0, .write 0, .reread 1, .write 1]

/-- What they leave. -/
def demoPaidEntry : EntryRow where
  id := 2
  orderId := 1
  partyType := .rider
  partyId := some 9
  amountKobo := 75000
  splitRuleId := 3
  payoutStatus := .paid
  paidAt := some 6000
  paidByAdminId := some 9
  createdAt := 1000

theorem demo_payments_whole :
    Whole demoPaidEntry ∧
    demoPaidEntry ∈ (run AccessRuns.demoPlatform demoOffice
      (demoMarks ++ [.markPaid (some ⟨0, .admin, 900⟩) 2, .reread 2, .write 2])).books.entries := by
  have hmem : demoPaidEntry ∈ (run AccessRuns.demoPlatform demoOffice demoMarks).books.entries := by
    decide
  obtain ⟨hall, hfinal⟩ := payments_whole AccessRuns.demoPlatform demoOffice_founded demoMarks
    [.markPaid (some ⟨0, .admin, 900⟩) 2, .reread 2, .write 2]
  refine ⟨(hall demoPaidEntry hmem).1, hfinal demoPaidEntry ⟨hmem, rfl, ?_⟩⟩
  decide

end Locoomo.Payouts
