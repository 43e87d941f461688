import Locoomo.Identity

/-! A refresh that fails. It revokes the presented token, signs an access token
and saves the successor, each on its own: what was written before a failure
stays, and the next refresh judges the token by that. -/

namespace Locoomo.FailedRefreshes

open Locoomo.Identity Relational

/-! ## Refreshes -/

/-- What a refresh waits for and may fail in. -/
inductive Stage
  | finding | revoking | signing | saving
  deriving DecidableEq, Repr

inductive Thrown
  | failed (stage : Stage)
  | answered (answer : Answer)
  deriving DecidableEq, Repr

variable (c : Crypto)

/-- `refreshTokens.save(stored)`. -/
def saveStored (w : World) (stored : RefreshTokenRow) : World :=
  match get RefreshTokenRow.id stored.id w.refreshTokens with
  | none => w
  | some row =>
      { w with
        refreshTokens := update (fun t => t.id = stored.id) (saveToken stored row) w.refreshTokens }

/-- `createSession`: sign the access token, then save the new refresh token. -/
def createSession (fails : Stage → Bool) (userId familyId : Nat) (drawn : String) (w : World) :
    Except Thrown RefreshTokenRow × World :=
  if fails .signing then (.error (.failed .signing), w)
  else if fails .saving || isTaken c w drawn then (.error (.failed .saving), w)
  else
    let row := newToken c w userId familyId drawn
    (.ok row, { w with nextId := w.nextId + 2, refreshTokens := w.refreshTokens ++ [row] })

/-- `refresh` in an environment that fails at the stages of `fails`. -/
def refresh (fails : Stage → Bool) (rawToken drawn : String) (w : World) :
    Except Thrown RefreshTokenRow × World :=
  if fails .finding then (.error (.failed .finding), w)
  else
    match readRefresh c w rawToken with
    | .rotateSaving stored =>
        if fails .revoking then (.error (.failed .revoking), w)
        else createSession c fails stored.userId stored.familyId drawn (saveStored w stored)
    | .revokingFamily familyId =>
        (.error (.answered .invalidRefreshToken),
          { w with
            refreshTokens := revoke (fun t => t.familyId = familyId) w.now w.refreshTokens })
    | .ended answer => (.error (.answered answer), w)
    -- the read leads nowhere else
    | _ => (.error (.answered .invalidRefreshToken), w)

/-! ## The property -/

def nothing : Stage → Bool := fun _ => false

/-- Where nothing fails the token is exchanged for a new one. -/
def Accepts (w : World) (rawToken : String) : Prop :=
  ∀ drawn, isTaken c w drawn = false → ∃ row, (refresh c nothing rawToken drawn w).1 = .ok row

/-- A live token: no reuse, no expiry, no suspension. -/
def Live (w : World) (rawToken : String) : Prop :=
  ∃ stored, readRefresh c w rawToken = .rotateSaving stored

/-- The session is as it was: the same tokens, of which the presented one is
accepted until it expires, and never taken for a replay. -/
structure LeavesSession (w w' : World) (rawToken : String) : Prop where
  tokens : w'.refreshTokens = w.refreshTokens
  accepted : ∀ ms, (∀ t ∈ w.refreshTokens, t.tokenHash = c.hashToken rawToken →
    w.now + ms ≤ t.expiresAt) → Accepts c (exec c w' (.tick ms)) rawToken
  no_replay : ∀ ms familyId,
    readRefresh c (exec c w' (.tick ms)) rawToken ≠ .revokingFamily familyId

variable {c} {w w' : World} {rawToken drawn : String} {fails : Stage → Bool} {stage : Stage}
  {stored row : RefreshTokenRow}

/-! ## Live tokens -/

/-- What the read of a live token has found. -/
structure Found (c : Crypto) (w : World) (rawToken : String) (row : RefreshTokenRow) : Prop where
  get : Relational.get RefreshTokenRow.tokenHash (c.hashToken rawToken) w.refreshTokens = some row
  unrevoked : row.revokedAt = none
  unexpired : w.now ≤ row.expiresAt
  unsuspended : isSuspended w.users row.userId = false

theorem readRefresh_live : readRefresh c w rawToken = .rotateSaving stored ↔
    ∃ row, Found c w rawToken row ∧ stored = { row with revokedAt := some w.now } := by
  unfold readRefresh
  constructor
  · intro h
    split at h
    · cases h
    · next row hget =>
        split at h
        · cases h
        · next hrevoked =>
            split at h
            · cases h
            · next hexpired =>
                split at h
                · cases h
                · next hsuspended =>
                    cases h
                    exact ⟨row, ⟨hget, not_not.mp hrevoked, Nat.le_of_not_lt hexpired,
                      by simpa using hsuspended⟩, rfl⟩
  · rintro ⟨row, hfound, rfl⟩
    simp [hfound.get, hfound.unrevoked, Nat.not_lt.mpr hfound.unexpired, hfound.unsuspended]

theorem live_iff : Live c w rawToken ↔ ∃ row, Found c w rawToken row := by
  simp only [Live, readRefresh_live]
  exact ⟨fun ⟨_, row, h, _⟩ => ⟨row, h⟩, fun ⟨row, h⟩ => ⟨_, row, h, rfl⟩⟩

/-- Other sessions, and time, do not matter to a live token. -/
theorem Found.later (hfound : Found c w rawToken row) (htokens : w'.refreshTokens = w.refreshTokens)
    (husers : w'.users = w.users) (hnow : w'.now ≤ row.expiresAt) : Found c w' rawToken row where
  get := htokens ▸ hfound.get
  unrevoked := hfound.unrevoked
  unexpired := hnow
  unsuspended := husers ▸ hfound.unsuspended

/-- Nothing of a token that is not revoked is a replay. -/
theorem Found.no_replay (hfound : Found c w rawToken row)
    (htokens : w'.refreshTokens = w.refreshTokens) (familyId : Nat) :
    readRefresh c w' rawToken ≠ .revokingFamily familyId := by
  unfold readRefresh
  simp only [htokens, hfound.get, hfound.unrevoked, ne_eq, not_true_eq_false, if_false]
  split
  · simp
  · split <;> simp

section Saved

variable (hids : Distinct RefreshTokenRow.id w.refreshTokens) (hfound : Found c w rawToken row)

include hids hfound

/-- The save sets `revokedAt` alone. -/
theorem saveStored_eq : saveStored w { row with revokedAt := some w.now } =
    { w with refreshTokens := revoke (fun t => t.id = row.id) w.now w.refreshTokens } := by
  have hget : Relational.get RefreshTokenRow.id row.id w.refreshTokens = some row :=
    hids.get_eq (get_some hfound.get).1
  have hsave : saveToken { row with revokedAt := some w.now } row =
      fun t => { t with revokedAt := some w.now } := by
    funext t
    simp [saveToken, Saves.column, hfound.unrevoked]
  simp only [saveStored, hget, hsave, revoke]

/-- Which raw tokens are known stays the same. -/
theorem isTaken_saveStored :
    isTaken c (saveStored w { row with revokedAt := some w.now }) drawn = isTaken c w drawn := by
  rw [saveStored_eq hids hfound]
  simp only [isTaken, revoke, update, List.any_map]
  refine List.any_congr rfl fun t => ?_
  simp only [Function.comp]
  split <;> rfl

/-- Read again, the token is a replay. -/
theorem readRefresh_saveStored :
    readRefresh c (saveStored w { row with revokedAt := some w.now }) rawToken
      = .revokingFamily row.familyId := by
  let set := fun t : RefreshTokenRow => { t with revokedAt := some w.now }
  have hkey : ∀ t ∈ w.refreshTokens, decide (t.id = row.id) = true →
      (set t).tokenHash = t.tokenHash := fun _ _ _ => rfl
  have hget := get_update hkey (c.hashToken rawToken)
  rw [saveStored_eq hids hfound]
  simp [readRefresh, revoke, hget, hfound.get, set]

end Saved

/-! ## A refresh of a live token -/

/-- The tables are as before the new token's insert. -/
theorem createSession_error {userId familyId : Nat} {thrown : Thrown}
    (h : (createSession c fails userId familyId drawn w).1 = .error thrown) :
    (createSession c fails userId familyId drawn w).2 = w := by
  revert h
  unfold createSession
  split
  · exact fun _ => rfl
  · split
    · exact fun _ => rfl
    · intro h
      cases h

section Refresh

variable (hids : Distinct RefreshTokenRow.id w.refreshTokens) (hfound : Found c w rawToken row)

include hfound

theorem refresh_found (hfinding : fails .finding = false) (hrevoking : fails .revoking = false) :
    refresh c fails rawToken drawn w = createSession c fails row.userId row.familyId drawn
      (saveStored w { row with revokedAt := some w.now }) := by
  have hread := readRefresh_live.mpr ⟨row, hfound, rfl⟩
  simp [refresh, hfinding, hrevoking, hread]

/-- A failure before the token is revoked changes nothing. -/
theorem refresh_early (h : fails .finding = true ∨ fails .revoking = true) :
    (refresh c fails rawToken drawn w).2 = w := by
  have hread := readRefresh_live.mpr ⟨row, hfound, rfl⟩
  rcases h with h | h
  · simp [refresh, h]
  · simp only [refresh, hread, h]
    split <;> rfl

include hids in
theorem accepts_of_found : Accepts c w rawToken := by
  intro drawn hfree
  rw [refresh_found hfound rfl rfl, createSession, isTaken_saveStored hids hfound, hfree]
  exact ⟨_, rfl⟩

/-- One that comes later leaves the token revoked. -/
theorem refresh_late (hfinding : fails .finding = false) (hrevoking : fails .revoking = false)
    (hfailed : (refresh c fails rawToken drawn w).1 = .error (.failed stage)) :
    (refresh c fails rawToken drawn w).2 = saveStored w { row with revokedAt := some w.now } := by
  rw [refresh_found hfound hfinding hrevoking] at hfailed ⊢
  exact createSession_error hfailed

end Refresh

/-- Of a live token whose refresh has failed: the session is as it was just when
the failure came no later than the save of the revoked token. -/
theorem failed_refresh_leaves_session_iff (hids : Distinct RefreshTokenRow.id w.refreshTokens)
    (hlive : Live c w rawToken)
    (hfailed : (refresh c fails rawToken drawn w).1 = .error (.failed stage)) :
    LeavesSession c w (refresh c fails rawToken drawn w).2 rawToken ↔
      fails .finding = true ∨ fails .revoking = true := by
  obtain ⟨row, hfound⟩ := live_iff.mp hlive
  constructor
  · intro hleaves
    by_contra hlate
    simp only [not_or, Bool.not_eq_true] at hlate
    have hreplay := hleaves.no_replay 0 row.familyId
    rw [refresh_late hfound hlate.1 hlate.2 hfailed] at hreplay
    exact hreplay (readRefresh_saveStored hids hfound)
  · intro hearly
    rw [refresh_early hfound hearly]
    have hreplay : ∀ ms familyId,
        readRefresh c (exec c w (.tick ms)) rawToken ≠ .revokingFamily familyId := by
      intro ms
      have htokens : (exec c w (.tick ms)).refreshTokens = w.refreshTokens := rfl
      exact hfound.no_replay htokens
    refine ⟨rfl, fun ms hunexpired => ?_, hreplay⟩
    obtain ⟨hmem, hhash⟩ := get_some hfound.get
    exact accepts_of_found hids (hfound.later rfl rfl (hunexpired row hmem hhash))

/-- Ada's session, with the token "r1". -/
def demoSession : World := { demoWorld with refreshTokens := [⟨3, 1, "r1", 4, 100, none, 0⟩] }

theorem demoSession_live : Live demoCrypto demoSession "r1" := ⟨_, rfl⟩

/-- The database is gone when the token is to be revoked. -/
theorem failed_revocation_leaves_session :
    LeavesSession demoCrypto demoSession
      (refresh demoCrypto (· = .revoking) "r1" "r2" demoSession).2 "r1" := by
  have hrefresh : (refresh demoCrypto (· = .revoking) "r1" "r2" demoSession).1
      = .error (.failed .revoking) := rfl
  exact (failed_refresh_leaves_session_iff (by decide) demoSession_live hrefresh).mpr (Or.inr rfl)

/-- The signer throws: the token is revoked, the next try with it a replay. -/
theorem failed_signing_ends_session :
    ¬ ∀ (c : Crypto) (fails : Stage → Bool) (rawToken drawn : String) (w : World) (stage : Stage),
      Distinct RefreshTokenRow.id w.refreshTokens → Live c w rawToken →
      (refresh c fails rawToken drawn w).1 = .error (.failed stage) →
      LeavesSession c w (refresh c fails rawToken drawn w).2 rawToken := by
  intro h
  have hleaves := h demoCrypto (· = .signing) "r1" "r2" demoSession .signing (by decide)
    demoSession_live rfl
  exact hleaves.no_replay 0 4 rfl

/-- After a later failure a retry is taken for a replay, and revokes every token of
the family. -/
theorem retry_revokes_family (hids : Distinct RefreshTokenRow.id w.refreshTokens)
    (hfound : Found c w rawToken row) (hfinding : fails .finding = false)
    (hrevoking : fails .revoking = false)
    (hfailed : (refresh c fails rawToken drawn w).1 = .error (.failed stage)) :
    let retry := refresh c nothing rawToken drawn (refresh c fails rawToken drawn w).2
    retry.1 = .error (.answered .invalidRefreshToken) ∧
      ∀ t ∈ retry.2.refreshTokens, t.familyId = row.familyId → t.revokedAt ≠ none := by
  intro retry
  have hretry : retry = refresh c nothing rawToken drawn
      (saveStored w { row with revokedAt := some w.now }) := by
    rw [← refresh_late hfound hfinding hrevoking hfailed]
  rw [refresh, readRefresh_saveStored hids hfound] at hretry
  rw [hretry]
  refine ⟨rfl, fun t ht hfamily => ?_⟩
  obtain ⟨t', -, rfl⟩ := mem_update.mp ht
  split at hfamily
  · next hp => simp [hp]
  · next hp => simp [hfamily] at hp

/-! ## Statement by statement -/

/-- The statements of a refresh of a live token, as the call `i` of the sessions'
model: the read, the two of the save, and the insert. -/
def statements (i : Nat) (rawToken drawn : String) : List Action :=
  [.refresh rawToken, .step i drawn, .step i drawn, .step i drawn]

/-- What a refresh that fails while signing or saving leaves in the table is what
its first three statements wrote. -/
theorem refresh_late_run (hids : Distinct RefreshTokenRow.id w.refreshTokens)
    (hfound : Found c w rawToken row) (hfinding : fails .finding = false)
    (hrevoking : fails .revoking = false)
    (hfailed : (refresh c fails rawToken drawn w).1 = .error (.failed stage)) :
    (refresh c fails rawToken drawn w).2.refreshTokens =
      (Runs.run (exec c) w ((statements w.calls.length rawToken drawn).take 3)).refreshTokens := by
  have hget : get RefreshTokenRow.id row.id w.refreshTokens = some row :=
    hids.get_eq (get_some hfound.get).1
  have hread := readRefresh_live.mpr ⟨row, hfound, rfl⟩
  rw [refresh_late hfound hfinding hrevoking hfailed]
  simp [statements, Runs.run, exec, begin, hread, statement, proceed, hget, saveStored]

theorem createSession_tokens {i userId familyId : Nat} {granted : Option String}
    (htokens : w'.refreshTokens = w.refreshTokens) (hnow : w'.now = w.now)
    (hnext : w'.nextId = w.nextId) :
    (createSession c nothing userId familyId drawn w).2.refreshTokens =
      (Identity.createSession c w' i userId familyId drawn granted).refreshTokens := by
  have htaken : isTaken c w' drawn = isTaken c w drawn := by simp [isTaken, htokens]
  cases hfree : isTaken c w drawn with
  | true => simp [createSession, Identity.createSession, nothing, htaken, hfree, proceed, htokens]
  | false =>
      simp [createSession, Identity.createSession, nothing, htaken, hfree, htokens, newToken, hnow,
        hnext]

/-- And one in which nothing fails leaves what all four wrote. -/
theorem refresh_run (hids : Distinct RefreshTokenRow.id w.refreshTokens)
    (hfound : Found c w rawToken row) :
    (refresh c nothing rawToken drawn w).2.refreshTokens =
      (Runs.run (exec c) w (statements w.calls.length rawToken drawn)).refreshTokens := by
  have hget : get RefreshTokenRow.id row.id w.refreshTokens = some row :=
    hids.get_eq (get_some hfound.get).1
  have hread := readRefresh_live.mpr ⟨row, hfound, rfl⟩
  rw [refresh_found hfound rfl rfl]
  simp only [statements, Runs.run_cons, Runs.run_nil]
  simp only [saveStored, hget, exec, begin, hread, List.length_append, List.length_cons,
    List.length_nil, zero_add, Nat.lt_add_one, getElem?_pos, Std.le_refl,
    List.getElem_append_right, Nat.sub_self, List.getElem_cons_zero, statement, proceed,
    List.set_append_right, List.set_cons_zero]
  exact createSession_tokens rfl rfl rfl

end Locoomo.FailedRefreshes
