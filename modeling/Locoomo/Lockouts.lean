import Locoomo.Guesses

/-! Guessing a handoff code is bounded. The open key of a confirming call keeps
every other one of its order and type away from the code until the counter has
been raised, so the counter of a code is never behind the wrong guesses at it. -/

namespace Locoomo.Lockouts

open Locoomo.Routing Locoomo.Database Locoomo.Handoffs Locoomo.Guesses Relational

/-! ## The property -/

structure Bounded (w : World) : Prop where
  /-- At most five wrong guesses are compared with a code. -/
  wrong : ∀ codeId, w.wrong.count codeId ≤ maxHandoffCodeAttempts
  /-- No call confirms by a code that has been guessed wrong five times. -/
  open_ : ∀ s ∈ w.accepted, w.wrong.count s.2.id < maxHandoffCodeAttempts
  /-- Nor any call at all from the fifth wrong guess to the next code issued. -/
  locked : ∀ key ∈ w.locked, ∀ s ∈ w.accepted, s.1.key ≠ key
  /-- A code used, superseded or expired before the call began is not accepted. -/
  alive : ∀ s ∈ w.accepted, s.2.id ∉ s.1.dead ∧ s.1.since < s.2.expiresAt
  /-- One call for each order and type. -/
  once : (w.accepted.map fun s => s.1.key).Nodup

/-! ## The invariant -/

/-- No row of this code can be used any more. -/
def Retired (w : World) (codeId : Nat) : Prop :=
  codeId < w.nextId ∧ ∀ c ∈ w.codes, c.id = codeId → c.usedAt ≠ none

/-- A code of this key, deleted by now or not. -/
def Ours (w : World) (key : Key) (codeId : Nat) : Prop :=
  codeId < w.nextId ∧ ∀ c ∈ w.codes, c.id = codeId → codeKey c = key

/-- A confirming call that waits for its read. -/
structure Fresh (w : World) (guess : Guess) : Prop where
  since : guess.since ≤ w.now
  dead : ∀ codeId ∈ guess.dead, Retired w codeId

/-- One whose guess has been accepted. -/
structure Chosen (w : World) (guess : Guess) (row : HandoffCodeRow) : Prop where
  ours : Ours w guess.key row.id
  dead : row.id ∉ guess.dead
  since : guess.since < row.expiresAt
  wrong : w.wrong.count row.id < maxHandoffCodeAttempts
  unlocked : guess.key ∉ w.locked

def CallSound (w : World) : Call → Prop
  | .inserting guess | .validating guess => Fresh w guess
  | .recording guess codeId => Ours w guess.key codeId
  | .confirming guess row _ => Chosen w guess row
  | .superseding request _ seen => ∀ codeId ∈ seen, Ours w request.key codeId
  | .ended _ | .refusing _ | .issuing _ => True

/-- The code whose counter a call is about to raise. -/
def recorded : Call → List Nat
  | .recording _ codeId => [codeId]
  | _ => []

structure Kept (w : World) : Prop where
  ids : Distinct HandoffCodeRow.id w.codes
  codes_lt : ∀ c ∈ w.codes, c.id < w.nextId
  wrong_lt : ∀ codeId ∈ w.wrong, codeId < w.nextId
  wrong : ∀ codeId, w.wrong.count codeId ≤ maxHandoffCodeAttempts
  attempts : ∀ c ∈ w.codes,
    w.wrong.count c.id ≤ c.failedAttempts + (Holders.held recorded w.calls).count c.id
  calls : ∀ call ∈ w.calls, CallSound w call
  single : (Holders.held opened w.calls).Nodup
  free : ∀ key ∈ Holders.held opened w.calls, key ∉ w.keys
  superseded : ∀ codeId ∈ w.superseded, Retired w codeId
  accepted : ∀ s ∈ w.accepted, s.1.key ∈ w.keys ∧ Retired w s.2.id ∧ s.2.id ∉ s.1.dead ∧
    s.1.since < s.2.expiresAt ∧ w.wrong.count s.2.id < maxHandoffCodeAttempts
  once : (w.accepted.map fun s => s.1.key).Nodup
  locked : ∀ key ∈ w.locked, key ∉ w.keys ∧
    ∃ row, newest w.codes key = some row ∧ maxHandoffCodeAttempts ≤ w.wrong.count row.id

theorem Kept.bounded {w : World} (hw : Kept w) : Bounded w := by
  refine ⟨hw.wrong, ?_, ?_, ?_, hw.once⟩
  · exact fun s hs => (hw.accepted s hs).2.2.2.2
  · rintro key hkey s hs rfl
    exact (hw.locked _ hkey).1 (hw.accepted s hs).1
  · exact fun s hs => ⟨(hw.accepted s hs).2.2.1, (hw.accepted s hs).2.2.2.1⟩

variable {d : Deployment} {w w' : World} {i : Nat} {p q : Call} {key : Key} {guess : Guess}
  {row : HandoffCodeRow} {codeId : Nat}

/-! ## Codes -/

theorem isUnusedCode_iff {c : HandoffCodeRow} :
    isUnusedCode key.1 key.2 c = true ↔ codeKey c = key ∧ c.usedAt = none := by
  simp [isUnusedCode, codeKey, Prod.ext_iff]

theorem newest_mem (h : newest w.codes key = some row) :
    row ∈ w.codes ∧ codeKey row = key ∧ row.usedAt = none := by
  obtain ⟨hmem, hunused⟩ := List.mem_filter.mp (latest_mem h)
  exact ⟨hmem, isUnusedCode_iff.mp hunused⟩

theorem newest_raiseAttempts (codes : List HandoffCodeRow) (codeId : Nat) (key : Key) :
    newest (raiseAttempts codes codeId) key = (newest codes key).map fun c =>
      if c.id = codeId then { c with failedAttempts := c.failedAttempts + 1 } else c := by
  unfold newest raiseAttempts
  rw [filter_update_of_keep]
  · simp only [update, decide_eq_true_eq]
    refine latest_map ?_ _
    intro c
    split
    · rfl
    · rfl
  · exact fun c _ _ => rfl

theorem newest_congr {codes codes' : List HandoffCodeRow}
    (h : codes'.filter (isUnusedCode key.1 key.2) = codes.filter (isUnusedCode key.1 key.2)) :
    newest codes' key = newest codes key := by
  rw [newest, h, newest]

/-- What later tables make of the codes: no code is taken back into use, and new
ones have new ids. -/
structure Later (w w' : World) : Prop where
  now : w.now ≤ w'.now
  nextId : w.nextId ≤ w'.nextId
  codes : ∀ c' ∈ w'.codes, w.nextId ≤ c'.id ∨
    ∃ c ∈ w.codes, c.id = c'.id ∧ codeKey c = codeKey c' ∧ (c'.usedAt = none → c.usedAt = none)

theorem Later.of_codes (hnow : w'.now = w.now) (hnextId : w'.nextId = w.nextId)
    (hcodes : w'.codes = w.codes) : Later w w' := by
  refine ⟨hnow.ge, hnextId.ge, ?_⟩
  rw [hcodes]
  exact fun c hc => Or.inr ⟨c, hc, rfl, rfl, id⟩

/-- An update that keeps the ids and keys, and takes no code back into use. -/
theorem Later.of_update {p : HandoffCodeRow → Bool} {f : HandoffCodeRow → HandoffCodeRow}
    (hnow : w'.now = w.now) (hnextId : w'.nextId = w.nextId)
    (hcodes : w'.codes = update p f w.codes) (hid : ∀ c, (f c).id = c.id)
    (hkey : ∀ c, codeKey (f c) = codeKey c) (hused : ∀ c, (f c).usedAt = none → c.usedAt = none) :
    Later w w' := by
  refine ⟨hnow.ge, hnextId.ge, ?_⟩
  intro c' hc'
  rw [hcodes] at hc'
  obtain ⟨c, hc, rfl⟩ := mem_update.mp hc'
  refine Or.inr ⟨c, hc, ?_⟩
  split
  · exact ⟨(hid c).symm, (hkey c).symm, hused c⟩
  · exact ⟨rfl, rfl, id⟩

theorem Retired.later (h : Retired w codeId) (hl : Later w w') : Retired w' codeId := by
  refine ⟨Nat.lt_of_lt_of_le h.1 hl.nextId, ?_⟩
  intro c' hc' hid hnone
  rcases hl.codes c' hc' with hnew | ⟨c, hc, hcid, -, hused⟩
  · have hlt : c'.id < w.nextId := hid ▸ h.1
    omega
  · exact h.2 c hc (hcid.trans hid) (hused hnone)

theorem Ours.later (h : Ours w key codeId) (hl : Later w w') : Ours w' key codeId := by
  refine ⟨Nat.lt_of_lt_of_le h.1 hl.nextId, ?_⟩
  intro c' hc' hid
  rcases hl.codes c' hc' with hnew | ⟨c, hc, hcid, hkey, -⟩
  · have hlt : c'.id < w.nextId := hid ▸ h.1
    omega
  · exact hkey ▸ h.2 c hc (hcid.trans hid)

theorem Fresh.later (h : Fresh w guess) (hl : Later w w') : Fresh w' guess :=
  ⟨Nat.le_trans h.since hl.now, fun codeId hdead => (h.dead codeId hdead).later hl⟩

/-- Other calls keep what they rest on, and an accepted guess what it saw of the
wrong ones. -/
theorem CallSound.later (h : CallSound w p) (hl : Later w w')
    (hchosen : ∀ guess row usedAt, p = .confirming guess row usedAt →
      w'.wrong.count row.id < maxHandoffCodeAttempts ∧ guess.key ∉ w'.locked) :
    CallSound w' p := by
  cases p with
  | inserting guess => exact Fresh.later h hl
  | validating guess => exact Fresh.later h hl
  | recording guess codeId => exact Ours.later h hl
  | confirming guess row usedAt =>
      obtain ⟨hwrong, hunlocked⟩ := hchosen guess row usedAt rfl
      exact ⟨h.ours.later hl, h.dead, h.since, hwrong, hunlocked⟩
  | superseding request expiresAt seen =>
      exact fun codeId hseen => Ours.later (h codeId hseen) hl
  | ended answer => trivial
  | refusing guess => trivial
  | issuing request => trivial

/-! ## Calls come and go -/

theorem Kept.chosen (hw : Kept w) {usedAt : Nat} (h : Call.confirming guess row usedAt ∈ w.calls) :
    Chosen w guess row := hw.calls _ h

theorem Kept.chosen_open (hw : Kept w) (guess : Guess) (row : HandoffCodeRow) (usedAt : Nat)
    (h : Call.confirming guess row usedAt ∈ w.calls) :
    w.wrong.count row.id < maxHandoffCodeAttempts ∧ guess.key ∉ w.locked :=
  ⟨(hw.chosen h).wrong, (hw.chosen h).unlocked⟩

theorem Kept.superseded_later (hw : Kept w) (hl : Later w w') :
    ∀ codeId ∈ w.superseded, Retired w' codeId :=
  fun codeId h => (hw.superseded codeId h).later hl

theorem Kept.accepted_later (hw : Kept w) (hl : Later w w') :
    ∀ s ∈ w.accepted, s.1.key ∈ w.keys ∧ Retired w' s.2.id ∧ s.2.id ∉ s.1.dead ∧
      s.1.since < s.2.expiresAt ∧ w.wrong.count s.2.id < maxHandoffCodeAttempts := by
  intro s hs
  obtain ⟨hkeys, hretired, hrest⟩ := hw.accepted s hs
  exact ⟨hkeys, hretired.later hl, hrest⟩

theorem Kept.codes_lt_update (hw : Kept w) {p : HandoffCodeRow → Bool}
    {f : HandoffCodeRow → HandoffCodeRow} (hid : ∀ c, (f c).id = c.id) :
    ∀ c ∈ update p f w.codes, c.id < w.nextId := by
  intro c' hc'
  obtain ⟨c, hc, rfl⟩ := mem_update.mp hc'
  have hlt := hw.codes_lt c hc
  split
  · rw [hid]
    exact hlt
  · exact hlt

/-- The calls of a later state, all but one of them where they were. -/
theorem Kept.calls_later (hw : Kept w) (hl : Later w w')
    (hcalls : ∀ call ∈ w'.calls, call = q ∨ call ∈ w.calls) (hq : CallSound w' q)
    (hchosen : ∀ guess row usedAt, Call.confirming guess row usedAt ∈ w.calls →
      w'.wrong.count row.id < maxHandoffCodeAttempts ∧ guess.key ∉ w'.locked) :
    ∀ call ∈ w'.calls, CallSound w' call := by
  intro call hcall
  rcases hcalls call hcall with rfl | hold
  · exact hq
  · refine (hw.calls call hold).later hl ?_
    rintro guess row usedAt rfl
    exact hchosen guess row usedAt hold

/-- A call begins; it holds no key and has no counter to raise. -/
theorem Kept.begin (hw : Kept w) (hq : CallSound (Guesses.begin w q) q) (hopened : opened q = [])
    (hrecorded : recorded q = []) : Kept (begin w q) := by
  have hheld : Holders.held opened (w.calls ++ [q]) = Holders.held opened w.calls := by
    simp [Holders.held, hopened]
  have hcount : Holders.held recorded (w.calls ++ [q]) = Holders.held recorded w.calls := by
    simp [Holders.held, hrecorded]
  refine { hw with attempts := ?_, calls := ?_, single := ?_, free := ?_ }
  · intro c hc
    exact hcount ▸ hw.attempts c hc
  · refine hw.calls_later (.of_codes rfl rfl rfl) ?_ hq ?_
    · intro call hcall
      rcases List.mem_append.mp hcall with hcall | hcall
      · exact Or.inr hcall
      · exact Or.inl (List.mem_singleton.mp hcall)
    · exact hw.chosen_open
  · exact hheld ▸ hw.single
  · exact fun key hkey => hw.free key (hheld ▸ hkey)

/-- What a call holds after it has moved, beside what all the others hold. -/
theorem Kept.held_swap (hw : Kept w) (hp : w.calls[i]? = some p)
    (hopened : (opened q).Sublist (opened p)) :
    (Holders.held opened (w.calls.set i q)).Nodup ∧
      ∀ key ∈ Holders.held opened (w.calls.set i q), key ∉ w.keys := by
  obtain ⟨rest, hbefore, hafter⟩ := Holders.held_set opened hp
  have hsub : (opened q ++ rest).Sublist (opened p ++ rest) :=
    List.Sublist.append_right hopened rest
  constructor
  · exact (hafter q).nodup_iff.mpr ((hbefore.nodup_iff.mp hw.single).sublist hsub)
  · intro key hkey
    exact hw.free key (hbefore.mem_iff.mpr (hsub.subset ((hafter q).mem_iff.mp hkey)))

theorem Kept.calls_swap (hw : Kept w) (hq : CallSound (proceed w i q) q) :
    ∀ call ∈ (proceed w i q).calls, CallSound (proceed w i q) call := by
  have hmem : ∀ call ∈ w.calls.set i q, call = q ∨ call ∈ w.calls :=
    fun _ hcall => Holders.mem_set hcall
  exact hw.calls_later (.of_codes rfl rfl rfl) hmem hq hw.chosen_open

/-- A counter that is not about to be raised is none the less not behind. -/
theorem Kept.attempts_swap (hw : Kept w) (hp : w.calls[i]? = some p) (hrecorded : recorded p = [])
    (q : Call) : ∀ c ∈ w.codes, w.wrong.count c.id ≤
      c.failedAttempts + (Holders.held recorded (w.calls.set i q)).count c.id := by
  intro c hc
  obtain ⟨rest, hbefore, hafter⟩ := Holders.held_set recorded hp
  have hold := hw.attempts c hc
  rw [hbefore.count_eq, hrecorded, List.nil_append] at hold
  rw [(hafter q).count_eq, List.count_append]
  omega

/-- A call takes its next statement; the tables stay. -/
theorem Kept.swap (hw : Kept w) (hp : w.calls[i]? = some p) (hq : CallSound (proceed w i q) q)
    (hopened : (opened q).Sublist (opened p)) (hrecorded : recorded p = []) :
    Kept (proceed w i q) := by
  obtain ⟨hsingle, hfree⟩ := hw.held_swap hp hopened
  exact
    { hw with
      attempts := hw.attempts_swap hp hrecorded q, calls := hw.calls_swap hq, single := hsingle
      free := hfree }

theorem Kept.quit (hw : Kept w) (hp : w.calls[i]? = some p) (hrecorded : recorded p = [])
    (answer : Answer) : Kept (proceed w i (.ended answer)) :=
  hw.swap hp trivial (List.nil_sublist _) hrecorded

/-! ## A confirming call -/

theorem Kept.insertKey (hw : Kept w) (hp : w.calls[i]? = some (.inserting guess)) :
    Kept (insertKey w i guess) := by
  unfold Guesses.insertKey
  split
  · exact hw.quit hp rfl .alreadyProcessed
  · next hkeys =>
      split
      · exact hw
      · next hopen =>
          -- the key is neither committed nor open, so the call is its one holder
          have hnot : guess.key ∉ Holders.held opened w.calls := by
            intro hmem
            obtain ⟨call, hcall, hkey⟩ := Holders.mem_held.mp hmem
            exact hopen (List.any_eq_true.mpr ⟨call, hcall, decide_eq_true hkey⟩)
          obtain ⟨rest, hbefore, hafter⟩ := Holders.held_set opened hp
          have hheld : (Holders.held opened (w.calls.set i (.validating guess))).Perm
              (guess.key :: Holders.held opened w.calls) :=
            (hafter _).trans (List.Perm.cons guess.key hbefore.symm)
          have hfresh : Fresh w guess := hw.calls _ (List.mem_of_getElem? hp)
          have hl : Later w (proceed w i (.validating guess)) := .of_codes rfl rfl rfl
          refine
            { hw with
              attempts := hw.attempts_swap hp rfl _
              calls := hw.calls_swap (hfresh.later hl), single := ?_, free := ?_ }
          · exact hheld.nodup_iff.mpr (List.nodup_cons.mpr ⟨hnot, hw.single⟩)
          · intro key hkey
            rcases List.mem_cons.mp (hheld.mem_iff.mp hkey) with rfl | hkey
            · exact hkeys
            · exact hw.free key hkey

/-- **While a call holds the key** no counter of a code of its is behind. -/
theorem Kept.counted (hw : Kept w) (hp : Call.validating guess ∈ w.calls)
    (hrow : newest w.codes guess.key = some row) :
    w.wrong.count row.id ≤ row.failedAttempts := by
  obtain ⟨hmem, hkey, -⟩ := newest_mem hrow
  have hnone : (Holders.held recorded w.calls).count row.id = 0 := by
    rw [List.count_eq_zero]
    intro hheld
    obtain ⟨call, hcall, hid⟩ := Holders.mem_held.mp hheld
    cases call with
    | recording other codeId =>
        obtain rfl : row.id = codeId := List.mem_singleton.mp hid
        have hours : Ours w other.key row.id := hw.calls _ hcall
        have hother : other.key = guess.key := (hours.2 row hmem rfl).symm.trans hkey
        have hdisjoint := Holders.disjoint_of_nodup hw.single hcall hp (by simp)
        exact hdisjoint (List.mem_singleton.mpr rfl) (List.mem_singleton.mpr hother)
    | ended answer => exact List.not_mem_nil hid
    | inserting guess => exact List.not_mem_nil hid
    | validating guess => exact List.not_mem_nil hid
    | refusing guess => exact List.not_mem_nil hid
    | confirming guess row usedAt => exact List.not_mem_nil hid
    | issuing request => exact List.not_mem_nil hid
    | superseding request expiresAt seen => exact List.not_mem_nil hid
  have hattempts := hw.attempts row hmem
  omega

theorem Kept.ours (hw : Kept w) (hrow : newest w.codes key = some row) : Ours w key row.id := by
  obtain ⟨hmem, hkey, -⟩ := newest_mem hrow
  refine ⟨hw.codes_lt row hmem, ?_⟩
  intro c hc hid
  rw [hw.ids.eq_of_key hc hmem hid, hkey]

theorem isValidCode_parts (h : isValidCode d w.now guess.code row = true) :
    w.now < row.expiresAt ∧ row.failedAttempts < maxHandoffCodeAttempts := by
  simp only [isValidCode, Bool.and_eq_true, decide_eq_true_eq] at h
  exact h.1

/-- The newest code accepts the guess: it is none of those the call may not use. -/
theorem Kept.chosen_of_valid (hw : Kept w) (hp : Call.validating guess ∈ w.calls)
    (hrow : newest w.codes guess.key = some row)
    (hvalid : isValidCode d w.now guess.code row = true) : Chosen w guess row := by
  obtain ⟨hmem, -, hunused⟩ := newest_mem hrow
  obtain ⟨hexpires, hattempts⟩ := isValidCode_parts hvalid
  have hfresh : Fresh w guess := hw.calls _ hp
  have hwrong : w.wrong.count row.id < maxHandoffCodeAttempts :=
    Nat.lt_of_le_of_lt (hw.counted hp hrow) hattempts
  refine ⟨hw.ours hrow, ?_, Nat.lt_of_le_of_lt hfresh.since hexpires, hwrong, ?_⟩
  · exact fun hdead => (hfresh.dead row.id hdead).2 row hmem rfl hunused
  · intro hlocked
    obtain ⟨-, lockedRow, hnewest, hfive⟩ := hw.locked guess.key hlocked
    obtain rfl : row = lockedRow := Option.some.inj (hrow.symm.trans hnewest)
    omega

/-- Two calls with a key open have it for different codes. -/
theorem Kept.key_ne (hw : Kept w) (hp : p ∈ w.calls) (hq : q ∈ w.calls) (hne : p ≠ q) {key' : Key}
    (hkey : key ∈ opened p) (hkey' : key' ∈ opened q) : key ≠ key' := by
  rintro rfl
  exact Holders.disjoint_of_nodup hw.single hp hq hne hkey hkey'

theorem Kept.key_free (hw : Kept w) (hp : p ∈ w.calls) (hkey : key ∈ opened p) : key ∉ w.keys :=
  hw.free key (Holders.mem_held.mpr ⟨p, hp, hkey⟩)

/-- **A wrong guess** at the newest code, and no more than five of them. -/
theorem Kept.noteWrong (hw : Kept w) (hp : w.calls[i]? = some (.validating guess))
    (hrow : newest w.codes guess.key = some row) (hcompared : isCompared w.now row = true) :
    Kept (noteWrong (proceed w i (.recording guess row.id)) guess.key row.id) := by
  have hmem := List.mem_of_getElem? hp
  obtain ⟨hrowmem, hrowkey, hunused⟩ := newest_mem hrow
  have hattempts : row.failedAttempts < maxHandoffCodeAttempts := by
    simp only [isCompared, decide_eq_true_eq] at hcompared
    exact hcompared.2
  have hcounted := hw.counted hmem hrow
  have hl : Later w (Guesses.noteWrong (proceed w i (.recording guess row.id)) guess.key row.id) :=
    .of_codes rfl rfl rfl
  obtain ⟨hsingle, hfree⟩ :=
    hw.held_swap hp (q := .recording guess row.id) (List.Sublist.refl [guess.key])
  refine
    { hw with
      wrong_lt := ?_, wrong := ?_, attempts := ?_, calls := ?_, single := hsingle, free := hfree
      accepted := ?_, locked := ?_ }
  · intro codeId hwrong
    rcases List.mem_cons.mp hwrong with rfl | hwrong
    · exact hw.codes_lt row hrowmem
    · exact hw.wrong_lt codeId hwrong
  · intro codeId
    by_cases hid : row.id = codeId
    · subst hid
      rw [Guesses.noteWrong, List.count_cons_self]
      exact Nat.lt_of_le_of_lt hcounted hattempts
    · rw [Guesses.noteWrong, List.count_cons_of_ne hid]
      exact hw.wrong codeId
  · intro c hc
    obtain ⟨rest, hbefore, hafter⟩ := Holders.held_set recorded hp
    have hold := hw.attempts c hc
    rw [hbefore.count_eq, List.count_append] at hold
    show (row.id :: w.wrong).count c.id ≤ c.failedAttempts +
      (Holders.held recorded (w.calls.set i (.recording guess row.id))).count c.id
    rw [(hafter _).count_eq, List.count_append, List.count_cons]
    simp only [recorded, List.count_nil, List.count_cons] at hold ⊢
    omega
  · refine hw.calls_later hl (fun call hcall => Holders.mem_set hcall) ((hw.ours hrow).later hl) ?_
    intro other otherRow usedAt hother
    have hchosen := hw.chosen hother
    have hne : other.key ≠ guess.key :=
      hw.key_ne hother hmem (by simp) (List.mem_singleton.mpr rfl) (List.mem_singleton.mpr rfl)
    have hid : row.id ≠ otherRow.id := by
      intro hid
      exact hne ((hchosen.ours.2 row hrowmem hid).symm.trans hrowkey)
    constructor
    · rw [Guesses.noteWrong, List.count_cons_of_ne hid]
      exact hchosen.wrong
    · show other.key ∉ ite _ _ _
      split
      · exact fun h => (List.mem_cons.mp h).elim hne hchosen.unlocked
      · exact hchosen.unlocked
  · intro s hs
    obtain ⟨hkeys, hretired, hdead, hsince, hwrong⟩ := hw.accepted s hs
    refine ⟨hkeys, hretired, hdead, hsince, ?_⟩
    have hid : row.id ≠ s.2.id := fun hid => hretired.2 row hrowmem hid hunused
    rw [Guesses.noteWrong, List.count_cons_of_ne hid]
    exact hwrong
  · have hold : ∀ key ∈ w.locked, key ∉ w.keys ∧ ∃ newestRow, newest w.codes key = some newestRow ∧
        maxHandoffCodeAttempts ≤ (row.id :: w.wrong).count newestRow.id := by
      intro key hkey
      obtain ⟨hkeys, newestRow, hnewest, hfive⟩ := hw.locked key hkey
      exact ⟨hkeys, newestRow, hnewest, Nat.le_trans hfive (List.count_le_count_cons)⟩
    intro key hkey
    simp only [Guesses.noteWrong] at hkey
    split at hkey
    · next hfive =>
        rcases List.mem_cons.mp hkey with rfl | hkey
        · exact ⟨hw.key_free hmem (List.mem_singleton.mpr rfl), row, hrow, hfive.ge⟩
        · exact hold key hkey
    · exact hold key hkey

theorem Kept.validate (hw : Kept w) (hp : w.calls[i]? = some (.validating guess)) :
    Kept (validate d w i guess) := by
  have hmem := List.mem_of_getElem? hp
  unfold Guesses.validate
  split
  · exact hw.swap hp trivial (List.Sublist.refl _) rfl
  · next row hrow =>
      have hl : ∀ q, Later w (proceed w i q) := fun q => .of_codes rfl rfl rfl
      split
      · next hvalid =>
          have hchosen := hw.chosen_of_valid hmem hrow hvalid
          refine hw.swap hp ?_ (List.Sublist.refl _) rfl
          exact ⟨hchosen.ours.later (hl _), hchosen.dead, hchosen.since, hchosen.wrong,
            hchosen.unlocked⟩
      · split
        · next hcompared => exact hw.noteWrong hp hrow hcompared
        · exact hw.swap hp ((hw.ours hrow).later (hl _)) (List.Sublist.refl _) rfl

/-- The counter goes up before the key is let go. -/
theorem Kept.record (hw : Kept w) (hp : w.calls[i]? = some (.recording guess codeId)) :
    Kept { proceed w i (.refusing guess) with codes := raiseAttempts w.codes codeId } := by
  have hl : Later w { proceed w i (.refusing guess) with codes := raiseAttempts w.codes codeId } :=
    .of_update rfl rfl rfl (fun _ => rfl) (fun _ => rfl) fun _ h => h
  obtain ⟨hsingle, hfree⟩ :=
    hw.held_swap hp (q := .refusing guess) (List.Sublist.refl [guess.key])
  refine
    { hw with
      ids := ?_, codes_lt := ?_, attempts := ?_, calls := ?_, single := hsingle, free := hfree
      superseded := ?_, accepted := ?_, locked := ?_ }
  · exact hw.ids.update fun _ _ _ => rfl
  · exact hw.codes_lt_update fun _ => rfl
  · intro c' hc'
    obtain ⟨c, hc, rfl⟩ := mem_update.mp hc'
    obtain ⟨rest, hbefore, hafter⟩ := Holders.held_set recorded hp
    have hold := hw.attempts c hc
    rw [hbefore.count_eq, List.count_append] at hold
    show w.wrong.count _ ≤ _ + (Holders.held recorded (w.calls.set i (.refusing guess))).count _
    rw [(hafter _).count_eq, List.count_append]
    by_cases hid : c.id = codeId
    · simp only [recorded, hid, decide_true, if_true, List.count_cons_self, List.count_nil]
        at hold ⊢
      omega
    · have hne : codeId ≠ c.id := fun h => hid h.symm
      simp only [recorded, hid, decide_false, Bool.false_eq_true, if_false, List.count_nil,
        List.count_cons_of_ne hne] at hold ⊢
      omega
  · exact hw.calls_later hl (fun call hcall => Holders.mem_set hcall) trivial hw.chosen_open
  · exact hw.superseded_later hl
  · exact hw.accepted_later hl
  · intro key hkey
    obtain ⟨hkeys, row, hrow, hfive⟩ := hw.locked key hkey
    have hnewest := newest_raiseAttempts w.codes codeId key
    rw [hrow, Option.map_some] at hnewest
    refine ⟨hkeys, _, hnewest, ?_⟩
    split
    · exact hfive
    · exact hfive

/-- **A call confirms**: the first of its key, and no other will. -/
theorem Kept.confirmed (hw : Kept w) {usedAt : Nat}
    (hp : w.calls[i]? = some (.confirming guess row usedAt)) :
    Kept (confirmed w i guess row usedAt) := by
  have hmem := List.mem_of_getElem? hp
  have hchosen := hw.chosen hmem
  have hkeyfree : guess.key ∉ w.keys := hw.key_free hmem (List.mem_singleton.mpr rfl)
  have hl : Later w (Guesses.confirmed w i guess row usedAt) :=
    .of_update rfl rfl rfl (fun _ => rfl) (fun _ => rfl) (by simp)
  obtain ⟨hsingle, -⟩ := hw.held_swap hp (q := .ended .confirmed) (List.nil_sublist _)
  have hattempts := hw.attempts_swap hp rfl (.ended .confirmed)
  refine
    { hw with
      ids := ?_, codes_lt := ?_, attempts := ?_, calls := ?_, single := hsingle, free := ?_
      superseded := ?_, accepted := ?_, once := ?_, locked := ?_ }
  · exact hw.ids.update fun _ _ _ => rfl
  · exact hw.codes_lt_update fun _ => rfl
  · intro c' hc'
    obtain ⟨c, hc, rfl⟩ := mem_update.mp hc'
    have hold := hattempts c hc
    split
    · exact hold
    · exact hold
  · exact hw.calls_later hl (fun call hcall => Holders.mem_set hcall) trivial hw.chosen_open
  · intro key hkey
    obtain ⟨rest, hbefore, hafter⟩ := Holders.held_set opened hp
    have hrest : key ∈ rest := (hafter (.ended .confirmed)).mem_iff.mp hkey
    have hnodup : (guess.key :: rest).Nodup := hbefore.nodup_iff.mp hw.single
    have hold : key ∉ w.keys := hw.free key (hbefore.mem_iff.mpr (List.mem_cons_of_mem _ hrest))
    intro hkeys
    rcases List.mem_cons.mp hkeys with rfl | hkeys
    · exact (List.nodup_cons.mp hnodup).1 hrest
    · exact hold hkeys
  · exact hw.superseded_later hl
  · intro s hs
    rcases List.mem_cons.mp hs with rfl | hs
    · refine ⟨List.mem_cons_self, ⟨hchosen.ours.1, ?_⟩, hchosen.dead, hchosen.since, hchosen.wrong⟩
      intro c' hc' hid
      obtain ⟨c, hc, rfl⟩ := mem_update.mp hc'
      by_cases hcid : c.id = row.id
      · simp [hcid]
      · have hkept :
            (if decide (c.id = row.id) then { c with usedAt := some usedAt } else c) = c := by
          simp [hcid]
        exact absurd (hkept ▸ hid) hcid
    · obtain ⟨hkeys, hrest⟩ := hw.accepted_later hl s hs
      exact ⟨List.mem_cons_of_mem _ hkeys, hrest⟩
  · refine List.nodup_cons.mpr ⟨?_, hw.once⟩
    intro hkey
    obtain ⟨s, hs, heq⟩ := List.mem_map.mp hkey
    have hkeys : s.1.key ∈ w.keys := (hw.accepted s hs).1
    rw [show s.1.key = guess.key from heq] at hkeys
    exact hkeyfree hkeys
  · intro key hkey
    obtain ⟨hkeys, newestRow, hnewest, hfive⟩ := hw.locked key hkey
    have hne : key ≠ guess.key := fun h => hchosen.unlocked (h ▸ hkey)
    refine ⟨fun h => (List.mem_cons.mp h).elim hne hkeys, newestRow, ?_, hfive⟩
    refine (newest_congr (filter_update_of_drop ?_)).trans hnewest
    intro c hc hid
    have hother : codeKey c ≠ key := by
      rw [hchosen.ours.2 c hc (of_decide_eq_true hid)]
      exact hne.symm
    constructor
    · exact Bool.eq_false_iff.mpr fun h => hother (isUnusedCode_iff.mp h).1
    · exact Bool.eq_false_iff.mpr fun h => hother (isUnusedCode_iff.mp h).1

/-! ## An issue -/

variable {request : Request} {expiresAt : Nat} {seen : List Nat}

theorem Kept.visible_ours (hw : Kept w) (key : Key) :
    ∀ codeId ∈ (w.codes.filter (isUnusedCode key.1 key.2)).map HandoffCodeRow.id,
      Ours w key codeId := by
  intro codeId hseen
  obtain ⟨c, hc, rfl⟩ := List.mem_map.mp hseen
  obtain ⟨hmem, hunused⟩ := List.mem_filter.mp hc
  refine ⟨hw.codes_lt c hmem, ?_⟩
  intro c' hc' hid
  rw [hw.ids.eq_of_key hc' hmem hid]
  exact (isUnusedCode_iff.mp hunused).1

theorem mem_issued {c : HandoffCodeRow} (h : c ∈ (issued d w i request expiresAt seen).codes) :
    c = newCode d w request expiresAt ∨
      c ∈ w.codes ∧ ¬ (c.id ∈ seen ∧ isUnusedCode request.key.1 request.key.2 c = true) := by
  rcases List.mem_append.mp h with h | h
  · obtain ⟨hmem, hkept⟩ := List.mem_filter.mp h
    refine Or.inr ⟨hmem, ?_⟩
    rintro ⟨hseen, hunused⟩
    simp [hseen, hunused] at hkept
  · exact Or.inl (List.mem_singleton.mp h)

/-- The codes of another key are the same. -/
theorem newest_issued (h : key ≠ request.key) :
    newest (issued d w i request expiresAt seen).codes key = newest w.codes key := by
  refine newest_congr ?_
  have hnew : isUnusedCode key.1 key.2 (newCode d w request expiresAt) = false :=
    Bool.eq_false_iff.mpr fun hunused => h (isUnusedCode_iff.mp hunused).1.symm
  simp only [issued, List.filter_append, List.filter_filter, List.filter_cons, hnew,
    Bool.false_eq_true, if_false, List.filter_nil, List.append_nil]
  refine List.filter_congr fun c _ => ?_
  cases hunused : isUnusedCode key.1 key.2 c with
  | false => simp
  | true =>
      have hother : isUnusedCode request.key.1 request.key.2 c = false := by
        rw [Bool.eq_false_iff]
        intro hrequest
        exact h ((isUnusedCode_iff.mp hunused).1.symm.trans (isUnusedCode_iff.mp hrequest).1)
      simp [hother]

theorem later_issued : Later w (issued d w i request expiresAt seen) := by
  refine ⟨Nat.le_refl _, Nat.le_succ _, ?_⟩
  intro c hc
  rcases mem_issued hc with rfl | ⟨hc, -⟩
  · exact Or.inl (Nat.le_refl _)
  · exact Or.inr ⟨c, hc, rfl, rfl, id⟩

/-- **A code is issued**; what its call had found is deleted or used. -/
theorem Kept.issued (hw : Kept w) (hp : w.calls[i]? = some (.superseding request expiresAt seen)) :
    Kept (issued d w i request expiresAt seen) := by
  have hl : Later w (Guesses.issued d w i request expiresAt seen) := later_issued
  have hseen : ∀ codeId ∈ seen, Ours w request.key codeId := hw.calls _ (List.mem_of_getElem? hp)
  obtain ⟨hsingle, hfree⟩ := hw.held_swap hp (q := .ended .issued) (List.nil_sublist _)
  have hattempts := hw.attempts_swap hp rfl (.ended .issued)
  refine
    { hw with
      ids := ?_, codes_lt := ?_, wrong_lt := ?_, attempts := ?_, calls := ?_, single := hsingle
      free := hfree, superseded := ?_, accepted := ?_, locked := ?_ }
  · refine (hw.ids.filter _).append_singleton ?_
    intro c hc
    exact Nat.ne_of_lt (hw.codes_lt c (List.mem_filter.mp hc).1)
  · intro c hc
    rcases mem_issued hc with rfl | ⟨hc, -⟩
    · exact Nat.lt_succ_self _
    · exact Nat.lt_succ_of_lt (hw.codes_lt c hc)
  · exact fun codeId h => Nat.lt_succ_of_lt (hw.wrong_lt codeId h)
  · intro c hc
    rcases mem_issued hc with rfl | ⟨hc, -⟩
    · have hnone : w.wrong.count w.nextId = 0 :=
        List.count_eq_zero.mpr fun h => Nat.lt_irrefl _ (hw.wrong_lt _ h)
      show w.wrong.count w.nextId ≤ _
      omega
    · exact hattempts c hc
  · refine hw.calls_later hl (fun call hcall => Holders.mem_set hcall) trivial ?_
    intro guess row usedAt h
    have hunlocked := (hw.chosen h).unlocked
    exact ⟨(hw.chosen h).wrong, fun hlocked => hunlocked (List.mem_filter.mp hlocked).1⟩
  · intro codeId hmem
    rcases List.mem_append.mp hmem with hmem | hmem
    · obtain ⟨hlt, hours⟩ := hseen codeId hmem
      refine ⟨Nat.lt_succ_of_lt hlt, ?_⟩
      rintro c hc rfl hnone
      rcases mem_issued hc with rfl | ⟨hc, hkept⟩
      · exact Nat.lt_irrefl _ hlt
      · exact hkept ⟨hmem, isUnusedCode_iff.mpr ⟨hours c hc rfl, hnone⟩⟩
    · exact hw.superseded_later hl codeId hmem
  · exact hw.accepted_later hl
  · intro key hkey
    obtain ⟨hkey, hne⟩ := List.mem_filter.mp hkey
    obtain ⟨hkeys, row, hrow, hfive⟩ := hw.locked key hkey
    exact ⟨hkeys, row, (newest_issued (of_decide_eq_true hne)).trans hrow, hfive⟩

/-! ## Runs -/

theorem Kept.statement (hw : Kept w) (hp : w.calls[i]? = some p) : Kept (statement d w i p) := by
  cases p with
  | ended answer => exact hw
  | inserting guess => exact hw.insertKey hp
  | validating guess => exact hw.validate hp
  | recording guess codeId => exact hw.record hp
  | refusing guess => exact hw.quit hp rfl .invalidHandoffCode
  | confirming guess row usedAt => exact hw.confirmed hp
  | issuing request =>
      refine hw.swap hp ?_ (List.Sublist.refl _) rfl
      exact fun codeId hseen => (hw.visible_ours request.key codeId hseen).later
        (.of_codes rfl rfl rfl)
  | superseding request expiresAt seen => exact hw.issued hp

/-- A confirming call begins. What is used or superseded by now stays so. -/
theorem Kept.fresh (hw : Kept w) (guess : Guess) (hsince : guess.since = w.now)
    (hdead : guess.dead = usedCodes w.codes ++ w.superseded) : Fresh w guess := by
  refine ⟨hsince.le, ?_⟩
  rw [hdead]
  intro codeId hmem
  rcases List.mem_append.mp hmem with hmem | hmem
  · obtain ⟨c, hc, rfl⟩ := List.mem_map.mp hmem
    obtain ⟨hc, hused⟩ := List.mem_filter.mp hc
    refine ⟨hw.codes_lt c hc, ?_⟩
    intro c' hc' hid
    rw [hw.ids.eq_of_key hc' hc hid]
    exact Option.isSome_iff_ne_none.mp hused
  · exact hw.superseded codeId hmem

theorem Kept.step (hw : Kept w) (a : Action) : Kept (exec d w a) := by
  cases a with
  | tick ms =>
      have hl : Later w { w with now := w.now + ms } :=
        ⟨Nat.le_add_right _ _, Nat.le_refl _, fun c hc => Or.inr ⟨c, hc, rfl, rfl, id⟩⟩
      refine { hw with calls := ?_ }
      intro call hcall
      refine (hw.calls call hcall).later hl ?_
      rintro guess row usedAt rfl
      exact hw.chosen_open guess row usedAt hcall
  | confirm orderId type code =>
      have hl : ∀ q, Later w (Guesses.begin w q) := fun q => .of_codes rfl rfl rfl
      exact hw.begin ((hw.fresh _ rfl rfl).later (hl _)) rfl rfl
  | issue orderId type requestedByUserId ttlMinutes rawCode => exact hw.begin trivial rfl rfl
  | step i =>
      simp only [exec]
      split
      · exact hw
      · next call hcall => exact hw.statement hcall
  | abort i =>
      simp only [exec]
      split
      · exact hw
      · next call hcall =>
          split
          · next hfail =>
              refine hw.quit hcall ?_ .failed
              cases call with
              | recording guess codeId => simp [mayFail] at hfail
              | _ => rfl
          · exact hw

theorem start_kept (now : Nat) : Kept (start now) := by
  refine ⟨?_, ?_, ?_, ?_, ?_, ?_, ?_, ?_, ?_, ?_, ?_, ?_⟩ <;> simp [start, Distinct, Holders.held]

/-- **Guessing is bounded**, in every run of confirming and issuing calls. -/
theorem guessing_is_bounded (d : Deployment) (now : Nat) (as : List Action) :
    Runs.Always (exec d) Bounded (start now) as := by
  have hkept : Runs.Always (exec d) Kept (start now) as :=
    Runs.always_invariant (fun _ a hw => hw.step a) (start_kept now) as
  exact hkept.mono fun _ hw => hw.bounded

end Locoomo.Lockouts
