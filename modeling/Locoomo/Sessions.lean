import Mathlib.Data.List.Nodup
import Locoomo.Identity

/-! Refresh tokens. A token is read, revoked and succeeded in separate
statements; what is read may be out of date by then. One token of a family at
most is left unrevoked, and what has been revoked for good stays so, as long as
nobody reads a token that another refresh is about to revoke, and no family is
revoked while one of its tokens is being exchanged. -/

namespace Locoomo.Sessions

open Locoomo.Identity Relational

/-! ## Calls and what they hold -/

/-- The token a refresh has read and not yet exchanged. -/
def rotation : Call → Option RefreshTokenRow
  | .rotateSaving stored | .rotateWriting stored _ | .rotating stored => some stored
  | _ => none

/-- The token it has still to revoke. -/
def spends : Call → Option Nat
  | .rotateSaving stored | .rotateWriting stored _ => some stored.id
  | _ => none

/-- The tokens a password reset has revoked and not yet committed. -/
def seen : Call → Option (List Nat)
  | .resetting _ _ _ seen => some seen
  | _ => none

/-- The family a refresh is about to revoke. -/
def replayed : Call → Option Nat
  | .revokingFamily familyId => some familyId
  | _ => none

/-! ## The property -/

def isLive (now : Nat) (t : RefreshTokenRow) : Bool :=
  t.revokedAt.isNone && decide (now ≤ t.expiresAt)

/-- No token has been accepted twice, a family has one live token at most, and
a family that was shut has none. -/
def Secure (w : World) : Prop :=
  w.accepted.Nodup ∧
    Distinct RefreshTokenRow.familyId (w.refreshTokens.filter (isLive w.now)) ∧
    ∀ t ∈ w.refreshTokens, isLive w.now t = true → t.familyId ∉ w.closed

instance (w : World) : Decidable (Secure w) := inferInstanceAs (Decidable (_ ∧ _))

/-- What a statement needs of the other calls: a family is revoked, or all
sessions of a user, while none of their tokens is being exchanged. -/
def Uncontested (w : World) : Call → Prop
  | .revokingFamily familyId =>
      ∀ other ∈ w.calls, ∀ held ∈ rotation other, held.familyId ≠ familyId
  | .hashing stored => ∀ other ∈ w.calls, ∀ held ∈ rotation other, held.userId ≠ stored.userId
  | _ => True

instance (w : World) : ∀ call, Decidable (Uncontested w call)
  | .revokingFamily _ => inferInstanceAs (Decidable (∀ other ∈ w.calls, _))
  | .hashing _ => inferInstanceAs (Decidable (∀ other ∈ w.calls, _))
  | .ended _ | .checking .. | .loginSaving .. | .loginWriting .. | .issuing _ | .rotateSaving _
  | .rotateWriting .. | .rotating _ | .resetting .. | .profileSaving _ | .profileWriting .. =>
      isTrue trivial

/-- And a token is read live while no other refresh holds it and no reset has
revoked it without having committed. -/
def Alone (c : Crypto) (w : World) : Action → Prop
  | .refresh rawToken => ∀ stored ∈ rotation (readRefresh c w rawToken), ∀ call ∈ w.calls,
      (∀ held ∈ rotation call, held.id ≠ stored.id) ∧ ∀ ids ∈ seen call, stored.id ∉ ids
  | .step i _ => ∀ call ∈ w.calls[i]?, Uncontested w call
  | _ => True

instance (c : Crypto) (w : World) : ∀ a, Decidable (Alone c w a)
  | .refresh rawToken =>
      inferInstanceAs (Decidable (∀ stored ∈ rotation (readRefresh c w rawToken), _))
  | .step i _ => inferInstanceAs (Decidable (∀ call ∈ w.calls[i]?, _))
  | .tick _ | .login .. | .logout _ | .confirmReset _ | .setStatus .. | .verifyEmail _
  | .updateMine .. => isTrue trivial

/-! ## The ledger of tokens -/

/-- What the sessions rest on. -/
structure Ledger where
  nextId : Nat
  tokens : List RefreshTokenRow
  calls : List Call
  accepted : List String
  closed : List Nat

def ledger (w : World) : Ledger := ⟨w.nextId, w.refreshTokens, w.calls, w.accepted, w.closed⟩

/-- The columns that never change. -/
def identity (t : RefreshTokenRow) : RefreshTokenRow := { t with revokedAt := none }

structure CallSound (s : Ledger) (call : Call) : Prop where
  token : ∀ stored ∈ rotation call, ∃ t ∈ s.tokens, identity t = identity stored
  stamped : ∀ stored ∈ rotation call, stored.revokedAt ≠ none
  spends : ∀ stored ∈ rotation call, ∀ t ∈ s.tokens, t.revokedAt = none →
    t.familyId = stored.familyId → spends call = some t.id
  reread : ∀ stored row, call = .rotateWriting stored row → identity row = identity stored ∧
    (row.revokedAt ≠ none → ∀ t ∈ s.tokens, t.id = stored.id → t.revokedAt ≠ none)
  replay : ∀ familyId ∈ replayed call, ∃ t ∈ s.tokens, t.familyId = familyId
  known : ∀ ids ∈ seen call, ∀ id ∈ ids, id < s.nextId
  whole : ∀ ids ∈ seen call, ∀ t ∈ s.tokens, t.id ∈ ids →
    ∀ t' ∈ s.tokens, t'.familyId = t.familyId → t'.id ∈ ids
  apart : ∀ ids ∈ seen call, ∀ t ∈ s.tokens, t.id ∈ ids →
    ∀ other ∈ s.calls, ∀ held ∈ rotation other, held.familyId ≠ t.familyId

/-- The families whose token a call is exchanging. -/
def families (call : Call) : List Nat := ((rotation call).map RefreshTokenRow.familyId).toList

structure Kept (s : Ledger) : Prop where
  ids : Distinct RefreshTokenRow.id s.tokens
  hashes : Distinct RefreshTokenRow.tokenHash s.tokens
  ids_lt : ∀ t ∈ s.tokens, t.id < s.nextId
  families_lt : ∀ t ∈ s.tokens, t.familyId < s.nextId
  owner : ∀ t ∈ s.tokens, ∀ t' ∈ s.tokens, t.familyId = t'.familyId → t.userId = t'.userId
  heir : ∀ t ∈ s.tokens, ∀ t' ∈ s.tokens, t.revokedAt = none → t'.revokedAt = none →
    t.familyId = t'.familyId → t = t'
  calls : ∀ call ∈ s.calls, CallSound s call
  single : (Holders.held families s.calls).Nodup
  accepted : s.accepted.Nodup
  spent : ∀ hash ∈ s.accepted, ∃ t ∈ s.tokens, t.tokenHash = hash ∧ t.revokedAt ≠ none
  once : ∀ hash ∈ s.accepted, ∀ call ∈ s.calls, ∀ stored ∈ rotation call, stored.tokenHash ≠ hash
  closed_lt : ∀ familyId ∈ s.closed, familyId < s.nextId
  dead : ∀ familyId ∈ s.closed, ∀ t ∈ s.tokens, t.familyId = familyId → t.revokedAt ≠ none
  shut : ∀ familyId ∈ s.closed, ∀ call ∈ s.calls, ∀ stored ∈ rotation call,
    stored.familyId ≠ familyId

variable {c : Crypto} {w : World} {s : Ledger} {i : Nat} {p q : Call}

theorem identity_id {t t' : RefreshTokenRow} (h : identity t = identity t') :
    t.id = t'.id := by
  change (identity t).id = (identity t').id
  rw [h]

theorem identity_familyId {t t' : RefreshTokenRow} (h : identity t = identity t') :
    t.familyId = t'.familyId := by
  change (identity t).familyId = (identity t').familyId
  rw [h]

theorem identity_userId {t t' : RefreshTokenRow} (h : identity t = identity t') :
    t.userId = t'.userId := by
  change (identity t).userId = (identity t').userId
  rw [h]

theorem identity_tokenHash {t t' : RefreshTokenRow} (h : identity t = identity t') :
    t.tokenHash = t'.tokenHash := by
  change (identity t).tokenHash = (identity t').tokenHash
  rw [h]

/-- A call with no part in it. -/
structure Bystander (call : Call) : Prop where
  rotation : rotation call = none
  seen : seen call = none
  replayed : replayed call = none

theorem Bystander.sound (h : Bystander p) : CallSound s p := by
  refine ⟨?_, ?_, ?_, ?_, ?_, ?_, ?_, ?_⟩
  · simp [h.rotation]
  · simp [h.rotation]
  · simp [h.rotation]
  · rintro stored row rfl
    have hnone := h.rotation
    cases hnone
  · simp [h.replayed]
  · simp [h.seen]
  · simp [h.seen]
  · simp [h.seen]

/-! ## Calls come and go -/

/-- A call takes its next statement; it exchanges no token it did not hold. -/
theorem Kept.swap (hs : Kept s) (hp : s.calls[i]? = some p) (hq : CallSound s q)
    (hrotation : ∀ stored ∈ rotation q, stored ∈ rotation p) :
    Kept { s with calls := s.calls.set i q } := by
  have hmem := List.mem_of_getElem? hp
  have hheld : ∀ other ∈ s.calls.set i q, ∀ stored ∈ rotation other,
      ∃ call ∈ s.calls, stored ∈ rotation call := by
    intro other hother stored hstored
    rcases Holders.mem_set hother with rfl | hother
    · exact ⟨p, hmem, hrotation stored hstored⟩
    · exact ⟨other, hother, hstored⟩
  have hsound : ∀ call, CallSound s call → CallSound { s with calls := s.calls.set i q } call := by
    intro call hcall
    refine { hcall with apart := ?_ }
    intro ids hids t ht hseen other hother held hrot
    obtain ⟨call', hcall', hheld'⟩ := hheld other hother held hrot
    exact hcall.apart ids hids t ht hseen call' hcall' held hheld'
  refine { hs with calls := ?_, single := ?_, once := ?_, shut := ?_ }
  · intro call hcall
    rcases Holders.mem_set hcall with rfl | hcall
    · exact hsound call hq
    · exact hsound call (hs.calls call hcall)
  · obtain ⟨rest, hbefore, hafter⟩ := Holders.held_set families hp
    have hnodup : (families p ++ rest).Nodup := hbefore.nodup_iff.mp hs.single
    refine (hafter q).nodup_iff.mpr (hnodup.sublist (List.Sublist.append_right ?_ rest))
    unfold families
    cases hrot : rotation q with
    | none => exact List.nil_sublist _
    | some stored =>
        rw [Option.mem_def.mp (hrotation stored hrot)]
  · intro hash hhash call hcall stored hstored
    obtain ⟨call', hcall', hheld'⟩ := hheld call hcall stored hstored
    exact hs.once hash hhash call' hcall' stored hheld'
  · intro familyId hclosed call hcall stored hstored
    obtain ⟨call', hcall', hheld'⟩ := hheld call hcall stored hstored
    exact hs.shut familyId hclosed call' hcall' stored hheld'

theorem Kept.quit (hs : Kept s) (hp : s.calls[i]? = some p) (hq : Bystander q) :
    Kept { s with calls := s.calls.set i q } :=
  hs.swap hp hq.sound (by simp [hq.rotation])

/-- What a new call must not find. -/
structure Free (s : Ledger) (stored : RefreshTokenRow) : Prop where
  single : ∀ call ∈ s.calls, ∀ held ∈ rotation call, held.familyId ≠ stored.familyId
  fresh : stored.tokenHash ∉ s.accepted
  opened : stored.familyId ∉ s.closed
  unseen : ∀ call ∈ s.calls, ∀ ids ∈ seen call, ∀ t ∈ s.tokens, t.id ∈ ids →
    stored.familyId ≠ t.familyId

theorem Kept.join (hs : Kept s) (hq : CallSound s q) (hseen : seen q = none)
    (hfree : ∀ stored ∈ rotation q, Free s stored) : Kept { s with calls := s.calls ++ [q] } := by
  have hcases : ∀ {call}, call ∈ s.calls ++ [q] → call ∈ s.calls ∨ call = q := by
    intro call hcall
    rwa [List.mem_append, List.mem_singleton] at hcall
  refine { hs with calls := ?_, single := ?_, once := ?_, shut := ?_ }
  · intro call hcall
    rcases hcases hcall with hold | rfl
    · refine { hs.calls call hold with apart := ?_ }
      intro ids hids t ht hmem other hother held hheld
      rcases hcases hother with hother | rfl
      · exact (hs.calls call hold).apart ids hids t ht hmem other hother held hheld
      · exact (hfree held hheld).unseen call hold ids hids t ht hmem
    · refine { hq with apart := ?_ }
      simp [hseen]
  · rw [Holders.held, List.flatMap_append, List.flatMap_singleton, ← Holders.held]
    refine List.nodup_append.mpr ⟨hs.single, ?_, ?_⟩
    · unfold families
      cases rotation q <;> simp
    · intro a ha b hb hab
      obtain ⟨call, hcall, ha'⟩ := Holders.mem_held.mp ha
      simp only [families, Option.mem_toList, Option.map_eq_some_iff] at ha' hb
      obtain ⟨held, hheld, rfl⟩ := ha'
      obtain ⟨stored, hstored, rfl⟩ := hb
      exact (hfree stored hstored).single call hcall held hheld hab
  · intro hash hhash call hcall stored hstored
    rcases hcases hcall with hcall | rfl
    · exact hs.once hash hhash call hcall stored hstored
    · exact fun heq => (hfree stored hstored).fresh (heq ▸ hhash)
  · intro familyId hclosed call hcall stored hstored
    rcases hcases hcall with hcall | rfl
    · exact hs.shut familyId hclosed call hcall stored hstored
    · exact fun heq => (hfree stored hstored).opened (heq ▸ hclosed)

/-! ## Tokens are revoked -/

/-- The same token later on: once revoked it stays revoked. -/
structure Later (t t' : RefreshTokenRow) : Prop where
  identity : identity t' = identity t
  revoked : t'.revokedAt = none → t.revokedAt = none

theorem Later.refl (t : RefreshTokenRow) : Later t t := ⟨rfl, id⟩

theorem Later.eq {t t' : RefreshTokenRow} (h : Later t t') (hnone : t'.revokedAt = none) :
    t' = t := by
  have hblank : ∀ r : RefreshTokenRow, r.revokedAt = none → Sessions.identity r = r := by
    intro r hr
    rw [Sessions.identity, ← hr]
  rw [← hblank t' hnone, ← hblank t (h.revoked hnone)]
  exact h.identity

/-- What is left of a token is a token of before. -/
theorem later_mem {tokens : List RefreshTokenRow} {g : RefreshTokenRow → RefreshTokenRow}
    (hg : ∀ t ∈ tokens, Later t (g t)) {t' : RefreshTokenRow} (ht' : t' ∈ tokens.map g) :
    ∃ t ∈ tokens, Later t t' := by
  obtain ⟨t, ht, rfl⟩ := List.mem_map.mp ht'
  exact ⟨t, ht, hg t ht⟩

/-- Every token of before is still there. -/
theorem mem_later {tokens : List RefreshTokenRow} {g : RefreshTokenRow → RefreshTokenRow}
    (hg : ∀ t ∈ tokens, Later t (g t)) {t : RefreshTokenRow} (ht : t ∈ tokens) :
    ∃ t' ∈ tokens.map g, Later t t' :=
  ⟨g t, List.mem_map_of_mem ht, hg t ht⟩

theorem CallSound.revoke {call : Call} (hsound : CallSound s call)
    {g : RefreshTokenRow → RefreshTokenRow} (hg : ∀ t ∈ s.tokens, Later t (g t)) :
    CallSound { s with tokens := s.tokens.map g } call := by
  refine
    { token := ?_, stamped := hsound.stamped, spends := ?_, reread := ?_, replay := ?_
      known := hsound.known, whole := ?_, apart := ?_ }
  · intro stored hstored
    obtain ⟨t, ht, hidentity⟩ := hsound.token stored hstored
    obtain ⟨t', ht', hlater⟩ := mem_later hg ht
    exact ⟨t', ht', hlater.identity.trans hidentity⟩
  · intro stored hstored t' ht' hnone hfamily
    obtain ⟨t, ht, hlater⟩ := later_mem hg ht'
    rw [identity_familyId hlater.identity] at hfamily
    rw [identity_id hlater.identity]
    exact hsound.spends stored hstored t ht (hlater.revoked hnone) hfamily
  · intro stored row heq
    obtain ⟨hidentity, hrevoked⟩ := hsound.reread stored row heq
    refine ⟨hidentity, ?_⟩
    intro hrow t' ht' hid hnone
    obtain ⟨t, ht, hlater⟩ := later_mem hg ht'
    rw [identity_id hlater.identity] at hid
    exact hrevoked hrow t ht hid (hlater.revoked hnone)
  · intro familyId hreplayed
    obtain ⟨t, ht, rfl⟩ := hsound.replay familyId hreplayed
    obtain ⟨t', ht', hlater⟩ := mem_later hg ht
    exact ⟨t', ht', identity_familyId hlater.identity⟩
  · intro ids hids a' ha' hmem b' hb' hfamily
    obtain ⟨a, ha, hlater⟩ := later_mem hg ha'
    obtain ⟨b, hb, hlater'⟩ := later_mem hg hb'
    rw [identity_id hlater.identity] at hmem
    rw [identity_familyId hlater.identity, identity_familyId hlater'.identity] at hfamily
    rw [identity_id hlater'.identity]
    exact hsound.whole ids hids a ha hmem b hb hfamily
  · intro ids hids t' ht' hmem other hother held hheld
    obtain ⟨t, ht, hlater⟩ := later_mem hg ht'
    rw [identity_id hlater.identity] at hmem
    rw [identity_familyId hlater.identity]
    exact hsound.apart ids hids t ht hmem other hother held hheld

/-- **Revocation** keeps the ledger. -/
theorem Kept.revoke (hs : Kept s) {g : RefreshTokenRow → RefreshTokenRow}
    (hg : ∀ t ∈ s.tokens, Later t (g t)) : Kept { s with tokens := s.tokens.map g } := by
  have hcolumn : ∀ {α : Type} (key : RefreshTokenRow → α),
      (∀ t t', identity t = identity t' → key t = key t') →
        (s.tokens.map g).map key = s.tokens.map key := by
    intro α key hkey
    rw [List.map_map]
    exact List.map_congr_left fun t ht => hkey _ _ (hg t ht).identity
  refine
    { ids := ?_, hashes := ?_, ids_lt := ?_, families_lt := ?_, owner := ?_, heir := ?_, calls := ?_
      single := hs.single, accepted := hs.accepted, spent := ?_, once := hs.once
      closed_lt := hs.closed_lt, dead := ?_, shut := hs.shut }
  · rw [Distinct, hcolumn _ fun _ _ => identity_id]
    exact hs.ids
  · rw [Distinct, hcolumn _ fun _ _ => identity_tokenHash]
    exact hs.hashes
  · intro t' ht'
    obtain ⟨t, ht, hlater⟩ := later_mem hg ht'
    rw [identity_id hlater.identity]
    exact hs.ids_lt t ht
  · intro t' ht'
    obtain ⟨t, ht, hlater⟩ := later_mem hg ht'
    rw [identity_familyId hlater.identity]
    exact hs.families_lt t ht
  · intro a' ha' b' hb' hfamily
    obtain ⟨a, ha, hlater⟩ := later_mem hg ha'
    obtain ⟨b, hb, hlater'⟩ := later_mem hg hb'
    rw [identity_familyId hlater.identity, identity_familyId hlater'.identity] at hfamily
    rw [identity_userId hlater.identity, identity_userId hlater'.identity]
    exact hs.owner a ha b hb hfamily
  · intro a' ha' b' hb' hnone hnone' hfamily
    obtain ⟨a, ha, hlater⟩ := later_mem hg ha'
    obtain ⟨b, hb, hlater'⟩ := later_mem hg hb'
    rw [identity_familyId hlater.identity, identity_familyId hlater'.identity] at hfamily
    rw [hlater.eq hnone, hlater'.eq hnone']
    exact hs.heir a ha b hb (hlater.revoked hnone) (hlater'.revoked hnone') hfamily
  · exact fun call hcall => (hs.calls call hcall).revoke hg
  · intro hash hhash
    obtain ⟨t, ht, heq, hrevoked⟩ := hs.spent hash hhash
    obtain ⟨t', ht', hlater⟩ := mem_later hg ht
    exact ⟨t', ht', (identity_tokenHash hlater.identity).trans heq,
      fun hnone => hrevoked (hlater.revoked hnone)⟩
  · intro familyId hclosed t' ht' hfamily hnone
    obtain ⟨t, ht, hlater⟩ := later_mem hg ht'
    rw [identity_familyId hlater.identity] at hfamily
    exact hs.dead familyId hclosed t ht hfamily (hlater.revoked hnone)

/-- A revocation of the tokens `p` says. -/
theorem later_revoke (p : RefreshTokenRow → Bool) (revokedAt : Nat) (t : RefreshTokenRow) :
    Later t (if p t then { t with revokedAt := some revokedAt } else t) := by
  split
  · exact ⟨rfl, fun hnone => by cases hnone⟩
  · exact .refl t

/-! ## Tokens are issued, accepted and shut out -/

/-- What a new token must not find in its family. -/
structure Succeeds (s : Ledger) (t : RefreshTokenRow) : Prop where
  id : t.id = s.nextId
  hash : ∀ t' ∈ s.tokens, t'.tokenHash ≠ t.tokenHash
  owner : ∀ t' ∈ s.tokens, t'.familyId = t.familyId → t'.userId = t.userId
  revoked : ∀ t' ∈ s.tokens, t'.familyId = t.familyId → t'.revokedAt ≠ none
  free : ∀ call ∈ s.calls, ∀ stored ∈ rotation call, stored.familyId ≠ t.familyId
  unseen : ∀ call ∈ s.calls, ∀ ids ∈ seen call, ∀ t' ∈ s.tokens, t'.id ∈ ids →
    t'.familyId ≠ t.familyId
  opened : t.familyId ∉ s.closed

/-- A call knows nothing of a new token. -/
theorem Kept.issue_call (hs : Kept s) {t : RefreshTokenRow} {nextId : Nat} (ht : Succeeds s t)
    (hnext : s.nextId < nextId) {call : Call} (hcall : call ∈ s.calls) :
    CallSound { s with nextId, tokens := s.tokens ++ [t] } call := by
  have hsound : CallSound s call := hs.calls call hcall
  have hcases : ∀ {t'}, t' ∈ s.tokens ++ [t] → t' ∈ s.tokens ∨ t' = t := by
    intro t' ht'
    rwa [List.mem_append, List.mem_singleton] at ht'
  have hunnamed : ∀ ids ∈ seen call, t.id ∉ ids := by
    intro ids hids hmem
    have hlt := hsound.known ids hids t.id hmem
    rw [ht.id] at hlt
    exact Nat.lt_irrefl _ hlt
  refine
    { token := ?_, stamped := hsound.stamped, spends := ?_, reread := ?_, replay := ?_
      known := ?_, whole := ?_, apart := ?_ }
  · intro stored hstored
    obtain ⟨t', ht', heq⟩ := hsound.token stored hstored
    exact ⟨t', List.mem_append_left _ ht', heq⟩
  · intro stored hstored t' ht' hnone heq
    rcases hcases ht' with ht' | rfl
    · exact hsound.spends stored hstored t' ht' hnone heq
    · exact absurd heq.symm (ht.free call hcall stored hstored)
  · intro stored row heq
    obtain ⟨hidentity, hrevoked⟩ := hsound.reread stored row heq
    refine ⟨hidentity, ?_⟩
    intro hrow t' ht' hid
    rcases hcases ht' with ht' | rfl
    · exact hrevoked hrow t' ht' hid
    · -- the token it revokes is older than the new one
      obtain ⟨old, hold, hsame⟩ := hsound.token stored (by rw [heq]; rfl)
      have hlt := hs.ids_lt old hold
      rw [identity_id hsame, ← hid, ht.id] at hlt
      exact absurd hlt (Nat.lt_irrefl _)
  · intro familyId hreplayed
    obtain ⟨t', ht', heq⟩ := hsound.replay familyId hreplayed
    exact ⟨t', List.mem_append_left _ ht', heq⟩
  · intro ids hids id hid
    exact Nat.lt_trans (hsound.known ids hids id hid) hnext
  · intro ids hids a ha hmem b hb heq
    rcases hcases ha with hold | rfl
    · rcases hcases hb with hold' | rfl
      · exact hsound.whole ids hids a hold hmem b hold' heq
      · exact absurd heq.symm (ht.unseen call hcall ids hids a hold hmem)
    · exact absurd hmem (hunnamed ids hids)
  · intro ids hids t' ht' hmem other hother held hheld
    rcases hcases ht' with hold | rfl
    · exact hsound.apart ids hids t' hold hmem other hother held hheld
    · exact absurd hmem (hunnamed ids hids)

/-- **A token is issued.** -/
theorem Kept.issue (hs : Kept s) {t : RefreshTokenRow} {nextId : Nat} (ht : Succeeds s t)
    (hfamily : t.familyId < nextId) (hnext : s.nextId < nextId) :
    Kept { s with nextId, tokens := s.tokens ++ [t] } := by
  have hcases : ∀ {t'}, t' ∈ s.tokens ++ [t] → t' ∈ s.tokens ∨ t' = t := by
    intro t' ht'
    rwa [List.mem_append, List.mem_singleton] at ht'
  refine
    { ids := ?_, hashes := hs.hashes.append_singleton ht.hash, ids_lt := ?_, families_lt := ?_
      owner := ?_, heir := ?_, calls := ?_, single := hs.single, accepted := hs.accepted
      spent := ?_, once := hs.once, closed_lt := ?_, dead := ?_, shut := hs.shut }
  · refine hs.ids.append_singleton fun t' ht' => ?_
    rw [ht.id]
    exact Nat.ne_of_lt (hs.ids_lt t' ht')
  · intro t' ht'
    rcases hcases ht' with hold | rfl
    · exact Nat.lt_trans (hs.ids_lt t' hold) hnext
    · exact ht.id ▸ hnext
  · intro t' ht'
    rcases hcases ht' with hold | rfl
    · exact Nat.lt_trans (hs.families_lt t' hold) hnext
    · exact hfamily
  · intro a ha b hb heq
    rcases hcases ha with hold | rfl
    · rcases hcases hb with hold' | rfl
      · exact hs.owner a hold b hold' heq
      · exact ht.owner a hold heq
    · rcases hcases hb with hold' | rfl
      · exact (ht.owner b hold' heq.symm).symm
      · rfl
  · intro a ha b hb hnone hnone' heq
    rcases hcases ha with hold | rfl
    · rcases hcases hb with hold' | rfl
      · exact hs.heir a hold b hold' hnone hnone' heq
      · exact absurd hnone (ht.revoked a hold heq)
    · rcases hcases hb with hold' | rfl
      · exact absurd hnone' (ht.revoked b hold' heq.symm)
      · rfl
  · exact fun call hcall => hs.issue_call ht hnext hcall
  · intro hash hhash
    obtain ⟨t', ht', hspent⟩ := hs.spent hash hhash
    exact ⟨t', List.mem_append_left _ ht', hspent⟩
  · exact fun familyId hclosed => Nat.lt_trans (hs.closed_lt familyId hclosed) hnext
  · intro familyId hclosed t' ht' heq
    rcases hcases ht' with ht' | rfl
    · exact hs.dead familyId hclosed t' ht' heq
    · exact absurd (heq ▸ hclosed) ht.opened

/-- A refresh is granted. -/
theorem Kept.grant (hs : Kept s) (hash : String)
    (hspent : ∃ t ∈ s.tokens, t.tokenHash = hash ∧ t.revokedAt ≠ none) (hfresh : hash ∉ s.accepted)
    (honce : ∀ call ∈ s.calls, ∀ stored ∈ rotation call, stored.tokenHash ≠ hash) :
    Kept { s with accepted := hash :: s.accepted } := by
  refine
    { hs with
      calls := fun call hcall => { hs.calls call hcall with }
      accepted := List.nodup_cons.mpr ⟨hfresh, hs.accepted⟩, spent := ?_, once := ?_ }
  · intro hash' hhash'
    rcases List.mem_cons.mp hhash' with rfl | hhash'
    · exact hspent
    · exact hs.spent hash' hhash'
  · intro hash' hhash'
    rcases List.mem_cons.mp hhash' with rfl | hhash'
    · exact honce
    · exact hs.once hash' hhash'

/-- Families are shut: all their tokens are revoked and none is being exchanged. -/
theorem Kept.shutOut (hs : Kept s) (familyIds : List Nat)
    (hlt : ∀ familyId ∈ familyIds, familyId < s.nextId)
    (hdead : ∀ familyId ∈ familyIds, ∀ t ∈ s.tokens, t.familyId = familyId → t.revokedAt ≠ none)
    (hfree : ∀ familyId ∈ familyIds, ∀ call ∈ s.calls, ∀ stored ∈ rotation call,
      stored.familyId ≠ familyId) : Kept { s with closed := familyIds ++ s.closed } := by
  refine
    { hs with
      calls := fun call hcall => { hs.calls call hcall with }
      closed_lt := ?_, dead := ?_, shut := ?_ }
  · intro familyId hclosed
    exact (List.mem_append.mp hclosed).elim (hlt familyId) (hs.closed_lt familyId)
  · intro familyId hclosed
    exact (List.mem_append.mp hclosed).elim (hdead familyId) (hs.dead familyId)
  · intro familyId hclosed
    exact (List.mem_append.mp hclosed).elim (hfree familyId) (hs.shut familyId)

/-! ## A refresh, statement by statement -/

theorem mem_rotation_of_spends {call : Call} {id : Nat} (h : spends call = some id) :
    ∃ stored ∈ rotation call, stored.id = id := by
  cases call <;> simp_all [spends, rotation]

/-- The read of a token that nobody else is exchanging. -/
theorem Kept.readLive (hs : Kept s) {stored : RefreshTokenRow} {now : Nat}
    (hmem : stored ∈ s.tokens)
    (hnone : stored.revokedAt = none)
    (halone : ∀ call ∈ s.calls, (∀ held ∈ rotation call, held.id ≠ stored.id) ∧
      ∀ ids ∈ seen call, stored.id ∉ ids) :
    Kept { s with calls := s.calls ++ [.rotateSaving { stored with revokedAt := some now }] } := by
  refine hs.join ?_ rfl ?_
  · refine ⟨?_, ?_, ?_, ?_, ?_, ?_, ?_, ?_⟩
    · rintro held hheld
      obtain rfl := Option.some.inj hheld
      exact ⟨stored, hmem, rfl⟩
    · rintro held hheld
      obtain rfl := Option.some.inj hheld
      exact fun h => by cases h
    · rintro held hheld t ht htnone hfamily
      obtain rfl := Option.some.inj hheld
      rw [hs.heir t ht stored hmem htnone hnone hfamily]
      rfl
    · intro _ _ h
      cases h
    · intro _ h
      cases h
    · intro _ h
      cases h
    · intro _ h
      cases h
    · intro _ h
      cases h
  · rintro held hheld
    obtain rfl := Option.some.inj hheld
    refine ⟨?_, ?_, ?_, ?_⟩
    · -- a refresh of the same family would be about to revoke this very token
      intro call hcall other hother hfamily
      have hspends := (hs.calls call hcall).spends other hother stored hmem hnone hfamily.symm
      obtain ⟨same, hsame, hid⟩ := mem_rotation_of_spends hspends
      exact (halone call hcall).1 same hsame hid
    · intro haccepted
      obtain ⟨t, ht, hhash, hrevoked⟩ := hs.spent _ haccepted
      rw [hs.hashes.eq_of_key ht hmem hhash] at hrevoked
      exact hrevoked hnone
    · intro hclosed
      exact hs.dead _ hclosed stored hmem rfl hnone
    · intro call hcall ids hids t ht hseen hfamily
      exact (halone call hcall).2 ids hids
        ((hs.calls call hcall).whole ids hids t ht hseen stored hmem hfamily)

theorem Kept.reread (hs : Kept s) {stored row : RefreshTokenRow}
    (hp : s.calls[i]? = some (.rotateSaving stored))
    (hrow : get RefreshTokenRow.id stored.id s.tokens = some row) :
    Kept { s with calls := s.calls.set i (.rotateWriting stored row) } := by
  have hsound := hs.calls _ (List.mem_of_getElem? hp)
  obtain ⟨hmem, hid⟩ := get_some hrow
  refine hs.swap hp ?_ (fun _ h => h)
  refine
    { token := hsound.token, stamped := hsound.stamped, spends := hsound.spends, reread := ?_
      replay := hsound.replay, known := hsound.known, whole := hsound.whole, apart := hsound.apart }
  rintro _ _ heq
  cases heq
  obtain ⟨t, ht, hsame⟩ := hsound.token stored rfl
  have hrow' : row = t := hs.ids.eq_of_key hmem ht (hid.trans (identity_id hsame).symm)
  refine ⟨hrow' ▸ hsame, ?_⟩
  intro hrevoked t' ht' hid'
  rwa [hs.ids.eq_of_key ht' hmem (hid'.trans hid.symm)]

/-- What the save leaves is the token, revoked. -/
theorem saveToken_later {stored row t : RefreshTokenRow} (hrow : identity row = identity stored)
    (hstamped : stored.revokedAt ≠ none) (hrevoked : row.revokedAt ≠ none → t.revokedAt ≠ none) :
    Later t (saveToken stored row t) ∧ (saveToken stored row t).revokedAt ≠ none := by
  have hstays : (saveToken stored row t).revokedAt ≠ none := by
    simp only [saveToken, Saves.column]
    split
    · next heq => exact hrevoked (heq ▸ hstamped)
    · exact hstamped
  refine ⟨⟨?_, fun hnone => absurd hnone hstays⟩, hstays⟩
  simp only [identity, RefreshTokenRow.mk.injEq] at hrow
  obtain ⟨-, huser, hhash, hfamily, hexpires, -, hcreated⟩ := hrow
  simp [identity, saveToken, huser, hhash, hfamily, hexpires, hcreated]

theorem Kept.write (hs : Kept s) {stored row : RefreshTokenRow}
    (hp : s.calls[i]? = some (.rotateWriting stored row)) :
    Kept { s with
      tokens := update (fun t => t.id = stored.id) (saveToken stored row) s.tokens
      calls := s.calls.set i (.rotating stored) } := by
  have hsound := hs.calls _ (List.mem_of_getElem? hp)
  obtain ⟨hrow, hrevoked⟩ := hsound.reread stored row rfl
  have hstamped := hsound.stamped stored rfl
  let g := fun t : RefreshTokenRow =>
    if decide (t.id = stored.id) = true then saveToken stored row t else t
  have hlater : ∀ t ∈ s.tokens, Later t (g t) := by
    intro t ht
    by_cases hid : t.id = stored.id
    · simp only [g, hid, decide_true, if_true]
      exact (saveToken_later hrow hstamped fun h => hrevoked h t ht hid).1
    · simp only [g, hid, decide_false, Bool.false_eq_true, if_false]
      exact .refl t
  have hs' := hs.revoke hlater
  have hsound' := hs'.calls _ (List.mem_of_getElem? hp)
  refine hs'.swap hp ?_ (fun _ h => h)
  refine
    { token := hsound'.token, stamped := hsound.stamped, spends := ?_, reread := ?_
      replay := hsound'.replay, known := hsound'.known, whole := hsound'.whole
      apart := hsound'.apart }
  · rintro held hheld t' ht' hnone hfamily
    obtain rfl := Option.some.inj hheld
    -- whatever is unrevoked in the family was the token that is revoked here
    obtain ⟨t, ht, rfl⟩ := List.mem_map.mp ht'
    have hsame := (hlater t ht).identity
    rw [identity_familyId hsame] at hfamily
    have hspends := hsound.spends stored rfl t ht ((hlater t ht).revoked hnone) hfamily
    have hid : t.id = stored.id := (Option.some.inj hspends).symm
    simp only [g, hid, decide_true, if_true] at hnone
    exact absurd hnone (saveToken_later hrow hstamped fun h => hrevoked h t ht hid).2
  · intro _ _ heq
    cases heq

/-- What a new session's token finds: its family is new. -/
theorem Kept.opens (hs : Kept s) {t : RefreshTokenRow} (hid : t.id = s.nextId)
    (hfamily : t.familyId = s.nextId + 1) (hhash : ∀ t' ∈ s.tokens, t'.tokenHash ≠ t.tokenHash) :
    Succeeds s t := by
  have hnew : ∀ t' ∈ s.tokens, t'.familyId ≠ t.familyId := by
    intro t' ht' heq
    have hlt := hs.families_lt t' ht'
    rw [heq, hfamily] at hlt
    omega
  refine ⟨hid, hhash, ?_, ?_, ?_, ?_, ?_⟩
  · exact fun t' ht' heq => absurd heq (hnew t' ht')
  · exact fun t' ht' heq => absurd heq (hnew t' ht')
  · intro call hcall stored hstored heq
    obtain ⟨t', ht', hsame⟩ := (hs.calls call hcall).token stored hstored
    exact hnew t' ht' ((identity_familyId hsame).trans heq)
  · exact fun call hcall ids hids t' ht' hmem => hnew t' ht'
  · intro hclosed
    have hlt := hs.closed_lt _ hclosed
    rw [hfamily] at hlt
    omega

/-- The successor of a token that has been exchanged. -/
theorem Kept.rotate (hs : Kept s) {stored t : RefreshTokenRow}
    (hp : s.calls[i]? = some (.rotating stored)) (hid : t.id = s.nextId)
    (huser : t.userId = stored.userId) (hfamily : t.familyId = stored.familyId)
    (hhash : ∀ t' ∈ s.tokens, t'.tokenHash ≠ t.tokenHash) :
    Kept { s with
      nextId := s.nextId + 2
      tokens := s.tokens ++ [t]
      calls := s.calls.set i (.ended .done)
      accepted := stored.tokenHash :: s.accepted } := by
  have hmem := List.mem_of_getElem? hp
  have hsound := hs.calls _ hmem
  obtain ⟨old, hold, hsame⟩ := hsound.token stored rfl
  have hrevoked : ∀ t' ∈ s.tokens, t'.familyId = stored.familyId → t'.revokedAt ≠ none := by
    intro t' ht' heq hnone
    have hspends := hsound.spends stored rfl t' ht' hnone heq
    cases hspends
  have hquit := hs.quit (q := .ended .done) hp ⟨rfl, rfl, rfl⟩
  -- no other call exchanges a token of the family
  have hfree : ∀ call ∈ s.calls.set i (.ended .done), ∀ held ∈ rotation call,
      held.familyId ≠ stored.familyId := by
    obtain ⟨rest, hbefore, hafter⟩ := Holders.held_set families hp
    have hnodup := hbefore.nodup_iff.mp hs.single
    intro call hcall held hheld heq
    have hfamilies : held.familyId ∈ Holders.held families (s.calls.set i (.ended .done)) := by
      refine Holders.mem_held.mpr ⟨call, hcall, ?_⟩
      rw [Option.mem_def] at hheld
      simp [families, hheld]
    have hrest : held.familyId ∈ rest := (hafter _).mem_iff.mp hfamilies
    exact (List.nodup_cons.mp hnodup).1 (heq ▸ hrest)
  have hgrant := hquit.grant stored.tokenHash
    ⟨old, hold, identity_tokenHash hsame, hrevoked old hold (identity_familyId hsame)⟩
    (fun haccepted => hs.once _ haccepted _ hmem stored rfl rfl)
    (by
      intro call hcall held hheld heq
      obtain ⟨t', ht', hsame'⟩ := (hquit.calls call hcall).token held hheld
      have htoken : t' = old := hs.hashes.eq_of_key ht' hold
        ((identity_tokenHash hsame').trans (heq.trans (identity_tokenHash hsame).symm))
      refine hfree call hcall held hheld ?_
      rw [← identity_familyId hsame', htoken, identity_familyId hsame])
  refine hgrant.issue (t := t) ?_ ?_ ?_
  · refine ⟨hid, hhash, ?_, ?_, ?_, ?_, ?_⟩
    · intro t' ht' heq
      rw [huser, ← identity_userId hsame]
      refine hs.owner t' ht' old hold ?_
      rw [heq, hfamily, identity_familyId hsame]
    · exact fun t' ht' heq => hrevoked t' ht' (heq.trans hfamily)
    · intro call hcall held hheld heq
      exact hfree call hcall held hheld (heq.trans hfamily)
    · intro call hcall ids hids t' ht' hseen heq
      rcases Holders.mem_set hcall with rfl | hcall'
      · cases hids
      · exact (hs.calls call hcall').apart ids hids t' ht' hseen _ hmem stored rfl
          (hfamily.symm.trans heq.symm)
    · intro hclosed
      exact hs.shut _ hclosed _ hmem stored rfl hfamily.symm
  · have hlt := hs.families_lt old hold
    rw [identity_familyId hsame, ← hfamily] at hlt
    exact Nat.lt_add_right 2 hlt
  · exact Nat.lt_add_of_pos_right (by decide)

/-! ## Revocation for good -/

/-- A replay revokes the family. -/
theorem Kept.revokeFamily (hs : Kept s) {familyId now : Nat} {answer : Answer}
    (hp : s.calls[i]? = some (.revokingFamily familyId))
    (hfree : ∀ other ∈ s.calls, ∀ held ∈ rotation other, held.familyId ≠ familyId) :
    Kept { s with
      tokens := Identity.revoke (fun t => t.familyId = familyId) now s.tokens
      calls := s.calls.set i (.ended answer)
      closed := familyId :: s.closed } := by
  obtain ⟨old, hold, hfamily⟩ := (hs.calls _ (List.mem_of_getElem? hp)).replay familyId rfl
  have hs' := hs.revoke fun t _ => later_revoke (fun t => t.familyId = familyId) now t
  have hquit := hs'.quit (q := .ended answer) hp ⟨rfl, rfl, rfl⟩
  refine hquit.shutOut [familyId] ?_ ?_ ?_
  · intro id hid
    rw [List.mem_singleton.mp hid, ← hfamily]
    exact hs.families_lt old hold
  · intro id hid t' ht' heq hnone
    rw [List.mem_singleton.mp hid] at heq
    obtain ⟨t, ht, rfl⟩ := List.mem_map.mp ht'
    have hsame := (later_revoke (fun t => t.familyId = familyId) now t).identity
    rw [identity_familyId hsame] at heq
    simp [heq] at hnone
  · intro id hid call hcall held hheld
    rw [List.mem_singleton.mp hid]
    rcases Holders.mem_set hcall with rfl | hcall
    · cases hheld
    · exact hfree call hcall held hheld

/-- A reset sees all tokens of the user, and with a family all of it. -/
theorem Kept.see (hs : Kept s) {stored : OneTimeTokenRow} {passwordHash : String} {now : Nat}
    (hp : s.calls[i]? = some (.hashing stored))
    (hfree : ∀ other ∈ s.calls, ∀ held ∈ rotation other, held.userId ≠ stored.userId) :
    Kept { s with
      calls := s.calls.set i (.resetting stored passwordHash now
        ((s.tokens.filter fun t => t.userId = stored.userId).map RefreshTokenRow.id)) } := by
  have hseen : ∀ t ∈ s.tokens,
      t.id ∈ (s.tokens.filter fun t => t.userId = stored.userId).map RefreshTokenRow.id →
        t.userId = stored.userId := by
    intro t ht hmem
    obtain ⟨t', ht', hid⟩ := List.mem_map.mp hmem
    obtain ⟨hmem', huser⟩ := List.mem_filter.mp ht'
    rw [← hs.ids.eq_of_key hmem' ht hid]
    exact of_decide_eq_true huser
  refine hs.swap hp ?_ fun _ h => by cases h
  refine ⟨?_, ?_, ?_, ?_, ?_, ?_, ?_, ?_⟩
  · intro _ h
    cases h
  · intro _ h
    cases h
  · intro _ h
    cases h
  · intro _ _ h
    cases h
  · intro _ h
    cases h
  · rintro ids hids id hid
    obtain rfl := Option.some.inj hids
    obtain ⟨t, ht, rfl⟩ := List.mem_map.mp hid
    exact hs.ids_lt t (List.mem_of_mem_filter ht)
  · rintro ids hids t ht hmem t' ht' hfamily
    obtain rfl := Option.some.inj hids
    have huser := (hs.owner t' ht' t ht hfamily).trans (hseen t ht hmem)
    exact List.mem_map_of_mem (List.mem_filter.mpr ⟨ht', decide_eq_true huser⟩)
  · rintro ids hids t ht hmem other hother held hheld hfamily
    obtain rfl := Option.some.inj hids
    obtain ⟨t', ht', hsame⟩ := (hs.calls other hother).token held hheld
    refine hfree other hother held hheld ?_
    rw [← identity_userId hsame, ← hseen t ht hmem]
    exact hs.owner t' ht' t ht ((identity_familyId hsame).trans hfamily)

theorem Kept.reset (hs : Kept s) {stored : OneTimeTokenRow} {passwordHash : String} {now : Nat}
    {ids : List Nat} (hp : s.calls[i]? = some (.resetting stored passwordHash now ids)) :
    Kept { s with
      tokens := Identity.revoke (fun t => t.id ∈ ids) now s.tokens
      calls := s.calls.set i (.ended .done)
      closed :=
        (s.tokens.filter fun t => t.id ∈ ids).map RefreshTokenRow.familyId ++ s.closed } := by
  have hsound := hs.calls _ (List.mem_of_getElem? hp)
  have hs' := hs.revoke fun t _ => later_revoke (fun t => t.id ∈ ids) now t
  have hquit := hs'.quit (q := .ended .done) hp ⟨rfl, rfl, rfl⟩
  have hfamily : ∀ familyId ∈ (s.tokens.filter fun t => t.id ∈ ids).map RefreshTokenRow.familyId,
      ∃ t ∈ s.tokens, t.id ∈ ids ∧ t.familyId = familyId := by
    intro familyId hmem
    obtain ⟨t, ht, rfl⟩ := List.mem_map.mp hmem
    obtain ⟨hmem', hid⟩ := List.mem_filter.mp ht
    exact ⟨t, hmem', of_decide_eq_true hid, rfl⟩
  refine hquit.shutOut _ ?_ ?_ ?_
  · intro familyId hmem
    obtain ⟨t, ht, -, rfl⟩ := hfamily familyId hmem
    exact hs.families_lt t ht
  · intro familyId hmem t' ht' heq hnone
    obtain ⟨old, hold, hid, rfl⟩ := hfamily familyId hmem
    obtain ⟨t, ht, rfl⟩ := List.mem_map.mp ht'
    have hsame := (later_revoke (fun t => t.id ∈ ids) now t).identity
    rw [identity_familyId hsame] at heq
    have hseen : t.id ∈ ids := hsound.whole ids rfl old hold hid t ht heq
    simp [hseen] at hnone
  · intro familyId hmem call hcall held hheld
    obtain ⟨t, ht, hid, rfl⟩ := hfamily familyId hmem
    rcases Holders.mem_set hcall with rfl | hcall
    · cases hheld
    · exact hsound.apart ids rfl t ht hid call hcall held hheld

/-! ## Every step -/

theorem bystander_ended (answer : Answer) : Bystander (.ended answer) := ⟨rfl, rfl, rfl⟩

theorem bystander_issuing (user : UserRow) : Bystander (.issuing user) := ⟨rfl, rfl, rfl⟩

theorem Kept.arrive (hs : Kept s) (hq : Bystander q) : Kept { s with calls := s.calls ++ [q] } :=
  hs.join hq.sound hq.seen (by simp [hq.rotation])

theorem Kept.refresh (hw : Kept (ledger w)) {rawToken : String}
    (ha : Alone c w (.refresh rawToken)) :
    Kept (ledger (begin w (readRefresh c w rawToken))) := by
  change Kept { ledger w with calls := w.calls ++ [readRefresh c w rawToken] }
  simp only [Alone] at ha
  cases hget : get RefreshTokenRow.tokenHash (c.hashToken rawToken) w.refreshTokens with
  | none =>
      simp only [readRefresh, hget]
      exact hw.arrive ⟨rfl, rfl, rfl⟩
  | some stored =>
      obtain ⟨hmem, -⟩ := get_some hget
      by_cases hrevoked : stored.revokedAt = none
      · by_cases hexpired : stored.expiresAt < w.now
        · simp only [readRefresh, hget, hrevoked, hexpired, ne_eq, not_true_eq_false,
            if_false, if_true]
          exact hw.arrive ⟨rfl, rfl, rfl⟩
        · cases hsuspended : isSuspended w.users stored.userId with
          | true =>
              simp only [readRefresh, hget, hrevoked, hexpired, hsuspended, ne_eq,
                not_true_eq_false, if_false, if_true]
              exact hw.arrive ⟨rfl, rfl, rfl⟩
          | false =>
              have hread : readRefresh c w rawToken
                  = .rotateSaving { stored with revokedAt := some w.now } := by
                simp only [readRefresh, hget, hrevoked, hexpired, hsuspended, ne_eq,
                  not_true_eq_false, if_false, Bool.false_eq_true]
              rw [hread] at ha ⊢
              exact hw.readLive hmem hrevoked fun call hcall => ha _ rfl call hcall
      · have hread : readRefresh c w rawToken = .revokingFamily stored.familyId := by
          simp only [readRefresh, hget, ne_eq, hrevoked, not_false_eq_true, if_true]
        rw [hread]
        refine hw.join ?_ rfl (fun _ h => by cases h)
        refine ⟨?_, ?_, ?_, ?_, ?_, ?_, ?_, ?_⟩
        · intro _ h
          cases h
        · intro _ h
          cases h
        · intro _ h
          cases h
        · intro _ _ h
          cases h
        · intro familyId h
          obtain rfl := Option.some.inj h
          exact ⟨stored, hmem, rfl⟩
        · intro _ h
          cases h
        · intro _ h
          cases h
        · intro _ h
          cases h

theorem hash_ne_of_not_taken {rawToken : String} (h : isTaken c w rawToken = false) :
    ∀ t ∈ w.refreshTokens, t.tokenHash ≠ c.hashToken rawToken := by
  intro t ht heq
  have hnot := List.any_eq_false.mp h t ht
  exact hnot (decide_eq_true heq)

theorem Kept.statement (hw : Kept (ledger w)) {call : Call} {drawn : String}
    (hp : w.calls[i]? = some call) (ha : Uncontested w call) :
    Kept (ledger (statement c w i drawn call)) := by
  cases call with
  | ended _ => exact hw
  | checking user password passwordHash =>
      exact hw.quit hp (checkPassword_cases Bystander bystander_ended (fun _ _ => ⟨rfl, rfl, rfl⟩)
        bystander_issuing w.now user (c.verifyPassword password passwordHash))
  | loginSaving entity valid =>
      simp only [Identity.statement]
      split
      · exact hw
      · next row _ => exact hw.quit (q := .loginWriting entity row valid) hp ⟨rfl, rfl, rfl⟩
  | loginWriting entity row valid =>
      refine hw.quit (q := if valid then afterLogin entity else .ended .invalidCredentials) hp ?_
      split
      · exact afterLogin_cases Bystander bystander_ended bystander_issuing entity
      · exact ⟨rfl, rfl, rfl⟩
  | issuing user =>
      simp only [Identity.statement, createSession]
      split
      · exact hw.quit (q := .ended .uniqueViolation) hp ⟨rfl, rfl, rfl⟩
      · next hfresh =>
          have hhash := hash_ne_of_not_taken (Bool.not_eq_true _ ▸ hfresh)
          have hquit := hw.quit (q := .ended .done) hp ⟨rfl, rfl, rfl⟩
          refine hquit.issue (t := newToken c w user.id (w.nextId + 1) drawn) ?_ ?_ ?_
          · exact hquit.opens rfl rfl hhash
          · exact Nat.lt_succ_self _
          · exact Nat.lt_add_of_pos_right (by decide)
  | revokingFamily familyId => exact hw.revokeFamily hp ha
  | rotateSaving stored =>
      simp only [Identity.statement]
      split
      · exact hw
      · next hrow => exact hw.reread hp hrow
  | rotateWriting stored row => exact hw.write hp
  | rotating stored =>
      simp only [Identity.statement, createSession]
      split
      · exact hw.quit (q := .ended .uniqueViolation) hp ⟨rfl, rfl, rfl⟩
      · next hfresh =>
          have hhash := hash_ne_of_not_taken (Bool.not_eq_true _ ▸ hfresh)
          exact hw.rotate (t := newToken c w stored.userId stored.familyId drawn) hp rfl rfl rfl
            hhash
  | hashing stored => exact hw.see hp ha
  | resetting stored passwordHash revokedAt ids => exact hw.reset hp
  | profileSaving entity =>
      simp only [Identity.statement]
      split
      · exact hw
      · next row _ => exact hw.quit (q := .profileWriting entity row) hp ⟨rfl, rfl, rfl⟩
  | profileWriting entity row => exact hw.quit (q := .ended .done) hp ⟨rfl, rfl, rfl⟩

/-- **Every action** taken alone keeps the ledger. -/
theorem Kept.step (hw : Kept (ledger w)) {a : Action} (ha : Alone c w a) :
    Kept (ledger (exec c w a)) := by
  cases a with
  | tick ms => exact hw
  | login email password =>
      exact hw.arrive (readLogin_cases Bystander bystander_ended (fun _ _ _ => ⟨rfl, rfl, rfl⟩) w
        email password)
  | refresh rawToken => exact hw.refresh ha
  | logout rawToken =>
      simp only [exec]
      split
      · exact hw
      · next raw _ =>
          exact hw.revoke fun t _ => later_revoke (fun t => t.tokenHash = c.hashToken raw) w.now t
  | confirmReset rawToken =>
      exact hw.arrive (readReset_cases c Bystander bystander_ended (fun _ => ⟨rfl, rfl, rfl⟩) w
        rawToken)
  | setStatus userId status => exact hw
  | verifyEmail rawToken =>
      simp only [exec]
      split
      · exact hw
      · exact hw
  | updateMine userId phone =>
      exact hw.arrive (readProfile_cases Bystander bystander_ended (fun _ => ⟨rfl, rfl, rfl⟩) w
        userId phone)
  | step i drawn =>
      simp only [exec]
      split
      · exact hw
      · next call hp => exact hw.statement hp (ha call hp)

/-! ## Runs -/

theorem Kept.secure (hw : Kept (ledger w)) : Secure w := by
  have hlive : ∀ {t}, isLive w.now t = true → t.revokedAt = none := by
    intro t ht
    simp only [isLive, Bool.and_eq_true, Option.isNone_iff_eq_none] at ht
    exact ht.1
  refine ⟨hw.accepted, ?_, ?_⟩
  · have hnodup : (w.refreshTokens.filter (isLive w.now)).Nodup := (hw.ids.filter _).nodup
    refine List.Nodup.map_on ?_ hnodup
    intro t ht t' ht' heq
    obtain ⟨hmem, hlive'⟩ := List.mem_filter.mp ht
    obtain ⟨hmem', hlive''⟩ := List.mem_filter.mp ht'
    exact hw.heir t hmem t' hmem' (hlive hlive') (hlive hlive'') heq
  · intro t ht hl hclosed
    exact hw.dead t.familyId hclosed t ht rfl (hlive hl)

/-- **A token is redeemed once and revocation is final** in every run in which
every token is read, and every family revoked, while no other call is
exchanging or revoking it. -/
theorem sessions_are_secure (c : Crypto) (w : World) (as : List Action)
    (htokens : w.refreshTokens = []) (hcalls : w.calls = []) (haccepted : w.accepted = [])
    (hclosed : w.closed = []) (h : Runs.Meets (exec c) (Alone c) w as) :
    Runs.Always (exec c) Secure w as := by
  have hw : Kept (ledger w) := by
    constructor <;> simp [ledger, htokens, hcalls, haccepted, hclosed, Distinct, Holders.held]
  exact (Runs.always_of_meets (P := fun w => Kept (ledger w)) (fun _ _ hw ha => hw.step ha) hw
    h).mono fun _ hw => hw.secure

/-- A session is opened, its token exchanged and then replayed, and the password
reset; what is left is dead. -/
def demoSession : List Action :=
  [.login "ada@x" "old", .step 0 "", .step 0 "t1", .refresh "t1", .step 1 "", .step 1 "",
    .step 1 "t2", .refresh "t1", .step 2 "", .refresh "t2", .step 3 "", .confirmReset "link",
    .step 4 "new", .step 4 ""]

theorem demo_sessions_secure : Runs.Always (exec demoCrypto) Secure demoWorld demoSession :=
  sessions_are_secure demoCrypto demoWorld demoSession rfl rfl rfl rfl (by decide +kernel)

/-- Two tabs refresh the same token, and the second reads it before the first
has revoked it. -/
def twoTabs : List Action :=
  [.login "ada@x" "old", .step 0 "", .step 0 "t1", .refresh "t1", .refresh "t1", .step 1 "",
    .step 1 "", .step 1 "t2", .step 2 "", .step 2 "", .step 2 "t3"]

/-- A refresh is between its read and its insert while the password is reset. -/
def refreshDuringReset : List Action :=
  [.login "ada@x" "old", .step 0 "", .step 0 "t1", .refresh "t1", .step 1 "", .step 1 "",
    .confirmReset "link", .step 2 "new", .step 2 "", .step 1 "t2"]

/-- The token is accepted twice and the family has two live tokens; after the
reset a family that it revoked has a live token again. -/
theorem concurrent_refreshes_accepted :
    (Runs.run (exec demoCrypto) demoWorld twoTabs).accepted = ["t1", "t1"] ∧
      ((Runs.run (exec demoCrypto) demoWorld twoTabs).refreshTokens.filter (isLive 0)).map
        (fun t => (t.familyId, t.tokenHash)) = [(11, "t2"), (11, "t3")] ∧
      (Runs.run (exec demoCrypto) demoWorld refreshDuringReset).closed = [11] ∧
      ((Runs.run (exec demoCrypto) demoWorld refreshDuringReset).refreshTokens.filter
        (isLive 0)).map (fun t => (t.familyId, t.tokenHash)) = [(11, "t2")] ∧
      ¬ Secure (Runs.run (exec demoCrypto) demoWorld twoTabs) ∧
      ¬ Secure (Runs.run (exec demoCrypto) demoWorld refreshDuringReset) := by
  refine ⟨?_, ?_, ?_, ?_, ?_, ?_⟩ <;> decide +kernel

end Locoomo.Sessions
