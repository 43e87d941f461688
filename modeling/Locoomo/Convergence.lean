import Mathlib.Data.Int.ConditionallyCompleteOrder
import Mathlib.Data.List.MinMax
import Locoomo.LockstepRuns

/-! Snapshots of a remote leg converge. However the snapshots of a history
arrive, the leg shows the one with the highest sequence number among those
that did arrive; with the last of the history among them, that is the last. -/

namespace Locoomo.Convergence

open Locoomo.Delivery Locoomo.Database Locoomo.Routing Locoomo.Logistics Locoomo.System
  Locoomo.OrderMoves Locoomo.LegMoves Locoomo.Soundness Locoomo.Lockstep Locoomo.Changes Relational

/-! ## Histories -/

/-- `b` is what the provider reports right after `a`. -/
structure Follows (a b : ProviderDeliverySnapshot) : Prop where
  status : b.status = a.status ∨ ∃ event, nextLegStatus a.status event = some b.status
  sequence : ∃ m n, a.sequence = some m ∧ b.sequence = some n ∧ m < n

/-- A history of the delivery `externalId`, from its booking on. -/
structure History (externalId : String) (h : List ProviderDeliverySnapshot) : Prop where
  begins : ∀ x, h.head? = some x → x.status = .requested
  chain : h.IsChain Follows
  sequenced : ∀ x ∈ h, ∃ n, x.sequence = some n
  externalId : ∀ x ∈ h, x.externalId = externalId

/-- `b` comes after `a`, near or far. -/
structure Later (a b : ProviderDeliverySnapshot) : Prop where
  reaches : Reaches a.status b.status
  sequence : ∃ m n, a.sequence = some m ∧ b.sequence = some n ∧ m < n

theorem Follows.later {a b : ProviderDeliverySnapshot} (h : Follows a b) : Later a b where
  reaches := by
    rcases h.status with heq | ⟨event, hnext⟩
    · rw [heq]
      exact reaches_refl a.status
    · exact reaches_step (reaches_refl a.status) hnext
  sequence := h.sequence

theorem Later.trans {a b c : ProviderDeliverySnapshot} (hab : Later a b) (hbc : Later b c) :
    Later a c where
  reaches := reaches_trans hab.reaches hbc.reaches
  sequence := by
    obtain ⟨m, n, ha, hb, hmn⟩ := hab.sequence
    obtain ⟨n', k, hb', hc, hnk⟩ := hbc.sequence
    rw [hb] at hb'
    cases hb'
    exact ⟨m, k, ha, hc, hmn.trans hnk⟩

instance : IsTrans ProviderDeliverySnapshot Later := ⟨fun _ _ _ => Later.trans⟩

/-- The sequence number as the leg compares it. -/
def seq (x : ProviderDeliverySnapshot) : Int := x.sequence.getD 0

theorem Later.seq_lt {a b : ProviderDeliverySnapshot} (h : Later a b) : seq a < seq b := by
  obtain ⟨m, n, ha, hb, hmn⟩ := h.sequence
  simpa [seq, ha, hb] using hmn

namespace History

variable {externalId : String} {h : List ProviderDeliverySnapshot}

theorem pairwise (hh : History externalId h) : h.Pairwise Later :=
  List.isChain_iff_pairwise.mp (hh.chain.imp fun _ _ => Follows.later)

/-- Of two snapshots of a history, the one with the higher sequence is later. -/
theorem later_of_lt (hh : History externalId h) {a b : ProviderDeliverySnapshot} (ha : a ∈ h)
    (hb : b ∈ h) (hlt : seq a < seq b) : Later a b := by
  have hforward : h.Pairwise fun a b => seq a < seq b → Later a b :=
    hh.pairwise.imp (by intro a b hlater _; exact hlater)
  have hbackward : h.Pairwise (flip fun a b => seq a < seq b → Later a b) :=
    hh.pairwise.imp fun hlater hlt => absurd hlater.seq_lt (by omega)
  exact hforward.forall_of_forall_of_flip (fun x _ hlt => absurd hlt (lt_irrefl _)) hbackward
    ha hb hlt

theorem reaches_of_mem (hh : History externalId h) {x : ProviderDeliverySnapshot} (hx : x ∈ h) :
    Reaches .requested x.status := by
  cases h with
  | nil => cases hx
  | cons first rest =>
      rw [← hh.begins first rfl]
      rcases List.mem_cons.mp hx with rfl | hrest
      · exact reaches_refl _
      · exact ((List.pairwise_cons.mp hh.pairwise).1 x hrest).reaches

/-- Nothing in a history is beyond its last snapshot. -/
theorem le_last (hh : History externalId h) {x z : ProviderDeliverySnapshot}
    (hz : h.getLast? = some z) (hx : x ∈ h) : x = z ∨ seq x < seq z := by
  obtain ⟨init, rfl⟩ := List.getLast?_eq_some_iff.mp hz
  rcases List.mem_append.mp hx with hinit | hlast
  · have hbefore := (List.pairwise_append.mp hh.pairwise).2.2 x hinit z (List.mem_singleton.mpr rfl)
    exact Or.inr hbefore.seq_lt
  · exact Or.inl (List.mem_singleton.mp hlast)

/-- Among snapshots of a history with its last, the last is the maximum. -/
theorem argmax_eq_last (hh : History externalId h) {z : ProviderDeliverySnapshot}
    (hz : h.getLast? = some z) {calls : List ProviderDeliverySnapshot} (hcalls : ∀ x ∈ calls, x ∈ h)
    (hmem : z ∈ calls) : calls.argmax seq = some z := by
  cases hmax : calls.argmax seq with
  | none =>
      rw [List.argmax_eq_none.mp hmax] at hmem
      cases hmem
  | some y =>
      have hle : seq z ≤ seq y := List.le_of_mem_argmax hmem hmax
      rcases hh.le_last hz (hcalls y (List.argmax_mem hmax)) with rfl | hlt
      · rfl
      · omega

end History

/-! ## A leg in line with its provider -/

/-- The row a snapshot of `externalId` finds, its order beside it. -/
structure Synced (s : State) (providerKey externalId : String) (row : DeliveryLegRow) : Prop where
  inStep : InStep s
  found : findByExternalId s providerKey externalId = some row
  paired : ∃ o, getOrder s row.orderId = some o ∧ o.status = pairedStatus row.status

namespace Synced

variable {d : Deployment} {s : State} {providerKey externalId : String} {row : DeliveryLegRow}

theorem mem (h : Synced s providerKey externalId row) : row ∈ s.legs :=
  (findByExternalId_mem h.found).1

theorem getLeg (h : Synced s providerKey externalId row) : getLeg s row.id = some row :=
  h.inStep.legIds.get_eq h.mem

/-- The lookup follows a row that is stored over. -/
theorem found_put (h : Synced s providerKey externalId row) (leg : DeliveryLegRow)
    (hid : leg.id = row.id) (hkey : leg.providerKey = row.providerKey)
    (hext : leg.externalId = row.externalId) :
    (put DeliveryLegRow.id leg s.legs).find?
      (fun l => l.providerKey = providerKey ∧ l.externalId = some externalId) = some leg := by
  have hkeep : ∀ l ∈ s.legs, decide (l.id = leg.id) = true →
      decide (leg.providerKey = providerKey ∧ leg.externalId = some externalId)
        = decide (l.providerKey = providerKey ∧ l.externalId = some externalId) := by
    intro l hl hlid
    obtain rfl := h.inStep.legIds.eq_of_key hl h.mem ((of_decide_eq_true hlid).trans hid)
    rw [hkey, hext]
  have hfound := h.found
  unfold findByExternalId at hfound
  rw [put, find?_update _ hkeep, hfound, Option.map_some, if_pos (by simp [hid])]

/-- One event of a catch-up commits and leaves the leg in line. -/
theorem event (h : Synced s providerKey externalId row) {leg : DeliveryLegRow}
    (htwin : Twin leg row)
    (hext : leg.externalId = row.externalId) {event : DeliveryEventType} {next : DeliveryLegStatus}
    (hnext : nextLegStatus leg.status event = some next) :
    ∃ s', (apply d leg event none).run s = .ok (some (movedLeg leg event next s.now), s') ∧
      Synced s' providerKey externalId (movedLeg leg event next s.now) := by
  have hstands := htwin.stands event
  obtain ⟨r, s', happly⟩ := apply_commits (d := d) none h.inStep h.mem hstands
  have hs' := apply_inStep h.inStep h.mem hstands happly
  rcases apply_advanced h.inStep h.mem hstands happly with
    ⟨hnone, -, -⟩ | ⟨next', s₁, o, o', hnext', rfl, hadv, hend⟩
  · rw [hnone] at hnext
    cases hnext
  · obtain rfl : next = next' := Option.some.inj (hnext.symm.trans hnext')
    have hlegs := h.found_put (movedLeg leg event next s.now)
      (by rw [movedLeg_id, htwin.id]) (by rw [movedLeg_providerKey, htwin.providerKey])
      (by rw [movedLeg_externalId, hext])
    rw [← hadv.legs] at hlegs
    refine ⟨s', happly, hs', ?_, o', ?_, hadv.status⟩
    · rcases hend with ⟨-, rfl⟩ | ⟨-, r', hdispatch⟩
      · exact hlegs
      · have hs₁ := hadv.inStep h.inStep h.mem hstands hnext
        rcases dispatch_ok hs₁.leg_fresh hdispatch with ⟨_, -, -, rfl⟩ | ⟨-, ⟨-, -, rfl⟩ | hnew⟩
        · exact hlegs
        · exact hlegs
        · obtain ⟨_, _, _, -, -, -, -, hinserted⟩ := hnew
          rw [findByExternalId, hinserted.legs, List.find?_append, hlegs, Option.some_or]
    · rcases hend with ⟨-, rfl⟩ | ⟨-, r', hdispatch⟩
      · exact hadv.found
      · have hs₁ := hadv.inStep h.inStep h.mem hstands hnext
        have htype : leg.legType = .forward := htwin.legType.trans (h.inStep.forward row h.mem)
        rw [htype] at hdispatch
        rw [getOrder, dispatch_frame hs₁ hdispatch]
        exact hadv.found

/-- A catch-up from the stored row. -/
theorem catchUp (h : Synced s providerKey externalId row) {events : List DeliveryEventType}
    {final : DeliveryLegStatus} (hfollow : follow row.status events = some final) :
    ∃ s' row', (applyAll d row events).run s = .ok ((), s') ∧
      Synced s' providerKey externalId row' ∧ row'.id = row.id ∧ row'.orderId = row.orderId ∧
      row'.status = final ∧ row'.providerSequence = row.providerSequence := by
  induction events generalizing s row with
  | nil => exact ⟨s, row, rfl, h, rfl, rfl, by simpa [follow] using hfollow, rfl⟩
  | cons event events ih =>
      obtain ⟨next, hnext, hrest⟩ := Option.bind_eq_some_iff.mp hfollow
      obtain ⟨s₁, happly, h₁⟩ := h.event (d := d) (Twin.refl row) rfl hnext
      obtain ⟨s', row', hall, h', hid, horder, hstatus, hseq⟩ :=
        ih h₁ (by rw [movedLeg_status]; exact hrest)
      refine ⟨s', row', ?_, h', ?_, ?_, hstatus, ?_⟩
      · rw [applyAll, Tx.run_bind_of_ok happly]
        exact hall
      · rw [hid, movedLeg_id]
      · rw [horder, movedLeg_orderId]
      · rw [hseq, movedLeg_providerSequence]

/-- **One snapshot.** A stale one changes nothing; any other one that is ahead
takes the leg to its status and sequence. -/
theorem sync (h : Synced s providerKey externalId row) {snapshot : ProviderDeliverySnapshot}
    (hext : snapshot.externalId = externalId) (hfresh : isStale row snapshot = false)
    (hreaches : Reaches row.status snapshot.status) :
    ∃ s' row', (syncFromSnapshot d providerKey snapshot).run s = .ok (true, s') ∧
      Synced s' providerKey externalId row' ∧ row'.id = row.id ∧ row'.orderId = row.orderId ∧
      row'.status = snapshot.status ∧ row'.providerSequence = snapshot.sequence := by
  have htwin := withSnapshot_twin row snapshot
  simp only [syncFromSnapshot, Tx.run_read_bind, hext, h.found, hfresh, Bool.false_eq_true,
    if_false]
  cases hevents : eventsToReach row.status snapshot.status with
  | nil =>
      have hstatus : row.status = snapshot.status := by
        simpa [Reaches, hevents, follow] using hreaches
      obtain ⟨o, ho, hpaired⟩ := h.paired
      refine ⟨_, withSnapshot row snapshot, rfl, ⟨?_, ?_, o, ho, hpaired⟩, rfl, rfl, hstatus, rfl⟩
      · refine h.inStep.relabel rfl (fun l hl hkey => ?_) rfl rfl
        rw [h.inStep.legIds.eq_of_key hl h.mem (of_decide_eq_true hkey)]
        exact htwin
      · exact h.found_put (withSnapshot row snapshot) rfl rfl rfl
  | cons event events =>
      have hfollow : follow row.status (event :: events) = some snapshot.status := by
        rw [← hevents]
        exact hreaches
      obtain ⟨next, hnext, hrest⟩ := Option.bind_eq_some_iff.mp hfollow
      obtain ⟨s₁, happly, h₁⟩ := h.event (d := d) htwin rfl hnext
      obtain ⟨s', row', hall, h', hid, horder, hstatus, hseq⟩ :=
        h₁.catchUp (d := d) (by rw [movedLeg_status]; exact hrest)
      have hrun :
          (applyAll d (withSnapshot row snapshot) (event :: events)).run s = .ok ((), s') := by
        rw [applyAll, Tx.run_bind_of_ok happly]
        exact hall
      refine ⟨s', row', ?_, h', ?_, ?_, hstatus, ?_⟩
      · rw [Tx.run_bind_of_ok hrun]
        rfl
      · rw [hid, movedLeg_id]
        rfl
      · rw [horder, movedLeg_orderId]
        rfl
      · rw [hseq, movedLeg_providerSequence]
        rfl

theorem sync_stale (h : Synced s providerKey externalId row) {snapshot : ProviderDeliverySnapshot}
    (hext : snapshot.externalId = externalId) (hstale : isStale row snapshot = true) :
    (syncFromSnapshot d providerKey snapshot).run s = .ok (false, s) := by
  simp only [syncFromSnapshot, Tx.run_read_bind, hext, h.found, hstale, if_true, Tx.run_pure]

end Synced

/-! ## Any arrival -/

/-- What the leg shows: nothing yet, or the snapshot it was last moved to. -/
structure Shows (row : DeliveryLegRow) (current : Option ProviderDeliverySnapshot) : Prop where
  status : row.status = (current.map ProviderDeliverySnapshot.status).getD .requested
  sequence : row.providerSequence = current.bind ProviderDeliverySnapshot.sequence

/-- The database after the snapshots arrived in this order. -/
def after (d : Deployment) (s : State) (providerKey : String)
    (calls : List ProviderDeliverySnapshot) : State :=
  run d s (calls.map (Action.syncFromSnapshot providerKey))

theorem after_snoc (d : Deployment) (s : State) (providerKey : String)
    (calls : List ProviderDeliverySnapshot) (x : ProviderDeliverySnapshot) :
    after d s providerKey (calls ++ [x]) =
      exec d (after d s providerKey calls) (.syncFromSnapshot providerKey x) := by
  rw [after, List.map_append, List.map_singleton]
  exact Runs.run_snoc _ _ _ _

theorem exec_sync {d : Deployment} {s s' : State} {providerKey : String}
    {x : ProviderDeliverySnapshot} {r : Bool}
    (h : (syncFromSnapshot d providerKey x).run s = .ok (r, s')) :
    exec d s (.syncFromSnapshot providerKey x) = s' := by
  have htx : (tx d (.syncFromSnapshot providerKey x)).run s = .ok ((), s') := Tx.run_bind_of_ok h
  rw [exec, htx]

section Arrival

variable {d : Deployment} {s₀ : State} {providerKey externalId : String} {leg : DeliveryLegRow}
  {h : List ProviderDeliverySnapshot}

/-- A leg just booked with a courier, the provider yet to report on it. -/
structure JustBooked (s₀ : State) (providerKey externalId : String) (leg : DeliveryLegRow) :
    Prop where
  found : findByExternalId s₀ providerKey externalId = some leg
  status : leg.status = .requested
  sequence : leg.providerSequence = none

theorem JustBooked.synced (hleg : JustBooked s₀ providerKey externalId leg) (hs : InStep s₀) :
    Synced s₀ providerKey externalId leg := by
  have hmem := (findByExternalId_mem hleg.found).1
  obtain ⟨o, ho⟩ := hs.getOrder_of_leg hmem
  obtain ⟨homem, hoid⟩ := getOrder_mem ho
  have hactive : isActive leg.status = true := by
    rw [hleg.status]
    decide
  exact ⟨hs, hleg.found, o, ho, (hs.paired leg hmem hactive o homem hoid).1⟩

/-- The leg refines a register that keeps the snapshot of the highest
sequence number. -/
theorem after_shows (hh : History externalId h) (hs : InStep s₀)
    (hleg : JustBooked s₀ providerKey externalId leg) (calls : List ProviderDeliverySnapshot)
    (hcalls : ∀ x ∈ calls, x ∈ h) :
    ∃ row, Synced (after d s₀ providerKey calls) providerKey externalId row ∧ row.id = leg.id ∧
      row.orderId = leg.orderId ∧ Shows row (calls.argmax seq) := by
  induction calls using List.reverseRecOn with
  | nil => exact ⟨leg, hleg.synced hs, rfl, rfl, hleg.status, hleg.sequence⟩
  | append_singleton calls x ih =>
      obtain ⟨row, hrow, hid, horder, hshows⟩ :=
        ih fun y hy => hcalls y (List.mem_append_left _ hy)
      have hx : x ∈ h := hcalls x (List.mem_append_right _ (List.mem_singleton.mpr rfl))
      obtain ⟨n, hn⟩ := hh.sequenced x hx
      rw [after_snoc, List.argmax_concat]
      -- what the leg shows now decides whether `x` is stale
      cases hmax : calls.argmax seq with
      | none =>
          rw [hmax] at hshows
          have hfresh : isStale row x = false := by
            rw [isStale, hshows.sequence, hn]
            rfl
          have hreaches : Reaches row.status x.status := by
            rw [hshows.status]
            exact hh.reaches_of_mem hx
          obtain ⟨s', row', hrun, hrow', hid', horder', hstatus, hseq⟩ :=
            hrow.sync (d := d) (hh.externalId x hx) hfresh hreaches
          rw [exec_sync hrun]
          exact ⟨row', hrow', hid'.trans hid, horder'.trans horder, hstatus, hseq⟩
      | some y =>
          rw [hmax] at hshows
          have hy : y ∈ h := hcalls y (List.mem_append_left _ (List.argmax_mem hmax))
          obtain ⟨m, hm⟩ := hh.sequenced y hy
          have hsequence : row.providerSequence = some m := hshows.sequence.trans hm
          by_cases hlt : seq y < seq x
          · have hfresh : isStale row x = false := by
              rw [isStale, hn, hsequence]
              simpa [seq, hn, hm] using hlt
            have hreaches : Reaches row.status x.status := by
              rw [hshows.status]
              exact (hh.later_of_lt hy hx hlt).reaches
            obtain ⟨s', row', hrun, hrow', hid', horder', hstatus, hseq⟩ :=
              hrow.sync (d := d) (hh.externalId x hx) hfresh hreaches
            rw [exec_sync hrun]
            refine ⟨row', hrow', hid'.trans hid, horder'.trans horder, ?_⟩
            simp only [hlt, if_true]
            exact ⟨hstatus, hseq⟩
          · have hstale : isStale row x = true := by
              rw [isStale, hn, hsequence]
              simpa [seq, hn, hm] using hlt
            rw [exec_sync (hrow.sync_stale (d := d) (hh.externalId x hx) hstale)]
            refine ⟨row, hrow, hid, horder, ?_⟩
            simp only [hlt, if_false]
            exact hshows

/-- Leg status, provider sequence and order status, as far as they exist. -/
def outcome (s : State) (leg : DeliveryLegRow) :
    Option (DeliveryLegStatus × Option Int) × Option OrderStatus :=
  ((getLeg s leg.id).map fun l => (l.status, l.providerSequence),
    (getOrder s leg.orderId).map OrderRow.status)

theorem after_outcome (hh : History externalId h) (hs : InStep s₀)
    (hleg : JustBooked s₀ providerKey externalId leg) {z : ProviderDeliverySnapshot}
    (hz : h.getLast? = some z) (calls : List ProviderDeliverySnapshot) (hcalls : ∀ x ∈ calls, x ∈ h)
    (hmem : z ∈ calls) :
    outcome (after d s₀ providerKey calls) leg =
      (some (z.status, z.sequence), some (pairedStatus z.status)) := by
  obtain ⟨row, hrow, hid, horder, hshows⟩ := after_shows (d := d) hh hs hleg calls hcalls
  rw [hh.argmax_eq_last hz hcalls hmem] at hshows
  obtain ⟨o, ho, hpaired⟩ := hrow.paired
  have hget := hrow.getLeg
  rw [hid] at hget
  rw [horder] at ho
  have hstatus : row.status = z.status := hshows.status
  have hsequence : row.providerSequence = z.sequence := hshows.sequence
  simp only [outcome, hget, ho, Option.map_some, hstatus, hsequence, hpaired]

/-- The sequence the database knows for the leg. -/
def knownSequence (s : State) (leg : DeliveryLegRow) : Option Int :=
  (getLeg s leg.id).bind DeliveryLegRow.providerSequence

theorem knownSequence_after (hh : History externalId h) (hs : InStep s₀)
    (hleg : JustBooked s₀ providerKey externalId leg) (calls : List ProviderDeliverySnapshot)
    (hcalls : ∀ x ∈ calls, x ∈ h) :
    knownSequence (after d s₀ providerKey calls) leg =
      (calls.argmax seq).bind ProviderDeliverySnapshot.sequence := by
  obtain ⟨row, hrow, hid, -, hshows⟩ := after_shows (d := d) hh hs hleg calls hcalls
  have hget := hrow.getLeg
  rw [hid] at hget
  rw [knownSequence, hget, ← hshows.sequence]
  rfl

/-- One more snapshot never lowers the sequence. -/
theorem knownSequence_mono (hh : History externalId h) (hs : InStep s₀)
    (hleg : JustBooked s₀ providerKey externalId leg) (calls : List ProviderDeliverySnapshot)
    (x : ProviderDeliverySnapshot) (hcalls : ∀ y ∈ calls ++ [x], y ∈ h) {m : Int}
    (hm : knownSequence (after d s₀ providerKey calls) leg = some m) :
    ∃ n, knownSequence (after d s₀ providerKey (calls ++ [x])) leg = some n ∧ m ≤ n := by
  have hinit : ∀ y ∈ calls, y ∈ h := fun y hy => hcalls y (List.mem_append_left _ hy)
  rw [knownSequence_after hh hs hleg calls hinit] at hm
  rw [knownSequence_after hh hs hleg _ hcalls, List.argmax_concat]
  obtain ⟨y, hy, hym⟩ := Option.bind_eq_some_iff.mp hm
  simp only [hy]
  split
  · next hlt =>
      obtain ⟨n, hn⟩ := hh.sequenced x
        (hcalls x (List.mem_append_right _ (List.mem_singleton.mpr rfl)))
      refine ⟨n, hn, ?_⟩
      simp only [seq, hym, hn, Option.getD_some] at hlt
      omega
  · exact ⟨m, hym, le_rfl⟩

/-- **Snapshots converge.** Reordered, repeated or lost, as long as the last
one of the history arrives, none is an error and leg and order end as they
would have with the whole history in order. -/
theorem snapshots_converge (d : Deployment) {s : State} (hs : FreshlyPaid s)
    (before : List Action) {providerKey externalId : String} {leg : DeliveryLegRow}
    (hleg : JustBooked (run d s before) providerKey externalId leg)
    {h : List ProviderDeliverySnapshot} (hh : History externalId h) {z : ProviderDeliverySnapshot}
    (hz : h.getLast? = some z) {calls : List ProviderDeliverySnapshot} (hcalls : ∀ x ∈ calls, x ∈ h)
    (hmem : z ∈ calls) :
    let s₀ := run d s before
    (∀ pre x post, calls = pre ++ x :: post → ∃ r s',
      (syncFromSnapshot d providerKey x).run (after d s₀ providerKey pre) = .ok (r, s')) ∧
    outcome (after d s₀ providerKey calls) leg =
      (some (z.status, z.sequence), some (pairedStatus z.status)) ∧
    (∀ pre x post, calls = pre ++ x :: post → ∀ m,
      knownSequence (after d s₀ providerKey pre) leg = some m →
        ∃ n, knownSequence (after d s₀ providerKey (pre ++ [x])) leg = some n ∧ m ≤ n) ∧
    outcome (after d s₀ providerKey calls) leg = outcome (after d s₀ providerKey h) leg := by
  intro s₀
  have hs₀ : InStep s₀ := (run_aligned d hs.aligned before).inStep
  have hout := after_outcome (d := d) hh hs₀ hleg hz calls hcalls hmem
  refine ⟨?_, hout, ?_, ?_⟩
  · rintro pre x post rfl
    obtain ⟨row, hrow, -⟩ := after_shows (d := d) hh hs₀ hleg pre
      fun y hy => hcalls y (List.mem_append_left _ hy)
    exact syncFromSnapshot_commits d providerKey x hrow.inStep
  · rintro pre x post rfl m hm
    refine knownSequence_mono hh hs₀ hleg pre x (fun y hy => hcalls y ?_) hm
    rw [List.append_cons]
    exact List.mem_append_left _ hy
  · rw [hout, after_outcome hh hs₀ hleg hz h (fun x hx => hx) (List.mem_of_getLast? hz)]

end Arrival

/-- Three reports, and of them the last and then the first. -/
theorem demo_snapshots_converge :
    let s₀ := run demo demoPaid demoBooked
    let calls := [demoSnapshot .pickedUp 7, demoSnapshot .requested 1]
    let s := after demo s₀ "sendii" calls
    (getLeg s 12).map DeliveryLegRow.status = some .pickedUp ∧
      (getOrder s 11).map OrderRow.status = some .inTransit := by
  intro s₀ calls s
  have hfound : (findByExternalId s₀ "sendii" "ext").map
      (fun l => (l.id, l.orderId, l.status, l.providerSequence))
      = some (12, 11, .requested, none) := by
    decide +kernel
  obtain ⟨leg, hleg, hcols⟩ := Option.map_eq_some_iff.mp hfound
  obtain ⟨hid, horder, hstatus, hsequence⟩ : leg.id = 12 ∧ leg.orderId = 11 ∧
      leg.status = .requested ∧ leg.providerSequence = none := by
    simpa using hcols
  have hhistory : History "ext"
      [demoSnapshot .requested 1, demoSnapshot .assigned 4, demoSnapshot .pickedUp 7] := by
    refine ⟨?_, ?_, ?_, ?_⟩
    · rintro _ ⟨⟩
      rfl
    · refine List.IsChain.cons_cons ⟨Or.inr ⟨.assigned, rfl⟩, 1, 4, rfl, rfl, by decide⟩ ?_
      refine List.IsChain.cons_cons ⟨Or.inr ⟨.pickedUp, rfl⟩, 4, 7, rfl, rfl, by decide⟩ ?_
      exact List.IsChain.singleton _
    · simp [demoSnapshot]
    · simp [demoSnapshot]
  have hcalls : ∀ x ∈ calls, x ∈
      [demoSnapshot .requested 1, demoSnapshot .assigned 4, demoSnapshot .pickedUp 7] := by
    simp [calls]
  have hlast : demoSnapshot .pickedUp 7 ∈ calls := by simp [calls]
  obtain ⟨-, hout, -⟩ := snapshots_converge demo demoPaid_freshlyPaid demoBooked
    ⟨hleg, hstatus, hsequence⟩ hhistory rfl hcalls hlast
  simp only [outcome, hid, horder, Prod.mk.injEq] at hout
  obtain ⟨hrow, horder'⟩ := hout
  refine ⟨?_, horder'⟩
  obtain ⟨row, hget, hcolumns⟩ := Option.map_eq_some_iff.mp hrow
  change (getLeg (after demo s₀ "sendii" calls) 12).map DeliveryLegRow.status = _
  rw [hget, Option.map_some, (Prod.mk.inj hcolumns).1]
  rfl

end Locoomo.Convergence
