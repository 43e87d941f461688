import Mathlib.Data.List.Nodup
import Locoomo.Identity

/-! Links that set a password: a reset link the user asked for, and the link of an
invitation. A confirming call reads its token, hashes the new password, and then
updates the token's row, whatever has become of it; a request deletes the unused
reset tokens that its statement sees. Rows a transaction has written stay locked
until it ends. -/

namespace Locoomo.PasswordLinks

open Locoomo.Identity Relational

def PASSWORD_RESET_TOKEN_TTL_MINUTES : Nat := 30

inductive Kind
  | reset | invite
  deriving DecidableEq, Repr

inductive Answer
  | done
  -- `requestReset` of an unknown address, or of an account without a password
  | silent
  | invalidResetToken
  | invalidInviteToken
  | lost
  deriving DecidableEq, Repr

/-- A call between two of its statements. -/
inductive Call
  | ended (answer : Answer)
  -- `requestReset`: its DELETE, row by row, then the insert and the commit
  | requested (userId expiresAt : Nat)
  | deleting (userId expiresAt : Nat) (seen todo deleted : List Nat)
  -- `confirmReset`, `confirmInvite`: the hash, the token's UPDATE, the user's and the commit
  | hashing (kind : Kind) (stored : OneTimeTokenRow)
  | updating (kind : Kind) (stored : OneTimeTokenRow) (passwordHash : String)
  | updated (kind : Kind) (stored : OneTimeTokenRow) (passwordHash : String) (usedAt : Nat)
      (found : Option OneTimeTokenRow)
  deriving DecidableEq

/-- A confirming call that has committed. -/
structure Use where
  kind : Kind
  tokenHash : String
  superseded : Bool
  deriving DecidableEq, Repr

def Use.link (u : Use) : Kind × String := (u.kind, u.tokenHash)

/-- `tokens` are `password_reset_tokens` and `invite_tokens`. The last four fields
are no tables: the hashes of all reset tokens there have been, the calls that have
set a password, the reset tokens of which a newer one has been committed, and
those of them that had not been committed when the newer request deleted. -/
structure Links where
  nextId : Nat
  tokens : Kind → List OneTimeTokenRow
  drawn : List String
  uses : List Use
  superseded : List Nat
  missed : List Nat

structure World extends Links where
  now : Nat
  users : List UserRow
  calls : List Call

/-- `step i drawn` is the next statement of call `i`, with what it draws or
computes: the random bytes of a new link, or a password hash. `abort i` is its
rollback. -/
inductive Action
  | tick (ms : Nat)
  | requestReset (email : String)
  | confirm (kind : Kind) (rawToken : String)
  | step (i : Nat) (drawn : String)
  | abort (i : Nat)
  deriving DecidableEq

variable (c : Crypto)

/-! ## Reads -/

def readRequest (w : World) (email : String) : Call :=
  match w.users.find? fun u => u.email = email with
  | none => .ended .silent
  | some user =>
      match user.passwordHash.filter (· ≠ "") with
      | none => .ended .silent
      | some _ => .requested user.id (w.now + PASSWORD_RESET_TOKEN_TTL_MINUTES * 60 * 1000)

def readConfirm (w : World) (kind : Kind) (rawToken : String) : Call :=
  match usable (w.tokens kind) (c.hashToken rawToken) w.now with
  | none => .ended (match kind with | .reset => .invalidResetToken | .invite => .invalidInviteToken)
  | some stored => .hashing kind stored

/-! ## Statements -/

/-- The token rows that a call's transaction has written. -/
def locks : Call → List (Kind × Nat)
  | .deleting _ _ _ _ deleted => deleted.map fun id => (.reset, id)
  | .updated kind stored _ _ found => (found.map fun _ => (kind, stored.id)).toList
  | _ => []

def isLocked (w : World) (kind : Kind) (id : Nat) : Bool :=
  (Holders.held locks w.calls).contains (kind, id)

def proceed (w : World) (i : Nat) (call : Call) : World := { w with calls := w.calls.set i call }

@[simp] theorem proceed_uses (w : World) (i : Nat) (call : Call) :
    (proceed w i call).uses = w.uses := rfl

def ofUser (w : World) (userId : Nat) : List OneTimeTokenRow :=
  (w.tokens .reset).filter fun t => t.userId = userId

def isUnused (w : World) (id : Nat) : Bool :=
  (w.tokens .reset).any fun t => t.id = id && t.usedAt.isNone

def setTokens (w : World) (kind : Kind) (rows : List OneTimeTokenRow) :
    Kind → List OneTimeTokenRow :=
  fun k => if k = kind then rows else w.tokens k

/-- The insert of the new token, and the commit. Random bytes are drawn once only. -/
def commitRequest (w : World) (i userId expiresAt : Nat) (seen deleted : List Nat)
    (rawToken : String) : World :=
  let row : OneTimeTokenRow :=
    { id := w.nextId, userId, tokenHash := c.hashToken rawToken, expiresAt, usedAt := none
      createdAt := w.now }
  let older := (ofUser w userId).map OneTimeTokenRow.id
  if row.tokenHash ∈ w.drawn then w
  else
    { proceed w i (.ended .done) with
      nextId := w.nextId + 1
      tokens := setTokens w .reset
        ((w.tokens .reset).filter (fun t => t.id ∉ deleted) ++ [row])
      drawn := row.tokenHash :: w.drawn
      superseded := older ++ w.superseded
      missed := older.filter (· ∉ seen) ++ w.missed }

/-- The UPDATE of the user. -/
def setPassword (kind : Kind) (passwordHash : String) (now : Nat) (user : UserRow) : UserRow :=
  match kind with
  | .reset =>
      { user with passwordHash := some passwordHash, failedLoginAttempts := 0, lockedUntil := none }
  | .invite =>
      { user with
        passwordHash := some passwordHash, status := .active
        consentAcceptedAt := some now, emailVerifiedAt := some now }

def commitConfirm (w : World) (i : Nat) (kind : Kind) (stored : OneTimeTokenRow)
    (passwordHash : String) (usedAt : Nat) : World :=
  { proceed w i (.ended .done) with
    users := update (fun u => u.id = stored.userId) (setPassword kind passwordHash w.now) w.users
    tokens := setTokens w kind (markUsed (w.tokens kind) stored usedAt)
    uses := ⟨kind, stored.tokenHash, kind = .reset && w.superseded.contains stored.id⟩ :: w.uses }

def statement (w : World) (i : Nat) (drawn : String) : Call → World
  | .ended _ => w
  | .requested userId expiresAt =>
      let rows := ofUser w userId
      let unused := rows.filter fun t => t.usedAt.isNone
      proceed w i (.deleting userId expiresAt (rows.map OneTimeTokenRow.id)
        (unused.map OneTimeTokenRow.id) [])
  | .deleting userId expiresAt seen (id :: todo) deleted =>
      if isLocked w .reset id then w
      else if isUnused w id then proceed w i (.deleting userId expiresAt seen todo (id :: deleted))
      else proceed w i (.deleting userId expiresAt seen todo deleted)
  | .deleting userId expiresAt seen [] deleted =>
      commitRequest c w i userId expiresAt seen deleted drawn
  | .hashing kind stored => proceed w i (.updating kind stored drawn)
  | .updating kind stored passwordHash =>
      if isLocked w kind stored.id then w
      else
        proceed w i (.updated kind stored passwordHash w.now
          (get OneTimeTokenRow.id stored.id (w.tokens kind)))
  | .updated kind stored passwordHash usedAt _ => commitConfirm w i kind stored passwordHash usedAt

def begin (w : World) (call : Call) : World := { w with calls := w.calls ++ [call] }

def exec (w : World) : Action → World
  | .tick ms => { w with now := w.now + ms }
  | .requestReset email => begin w (readRequest w email)
  | .confirm kind rawToken => begin w (readConfirm c w kind rawToken)
  | .step i drawn =>
      match w.calls[i]? with
      | none => w
      | some call => statement c w i drawn call
  | .abort i =>
      match w.calls[i]? with
      | none => w
      | some _ => proceed w i (.ended .lost)

/-! ## The property -/

/-- No link has set a password twice, and no reset link after a newer one. -/
def LinksWork (w : World) : Prop :=
  (w.uses.map Use.link).Nodup ∧ ∀ u ∈ w.uses, u.superseded = false

instance (w : World) : Decidable (LinksWork w) := inferInstanceAs (Decidable (_ ∧ _))

/-- The UPDATE met the token unused, and no request has missed it. -/
def Untouched (w : World) : Call → Prop
  | .updated kind stored _ _ found =>
      (∃ row ∈ found, row.usedAt = none) ∧ (kind = .reset → stored.id ∉ w.missed)
  | _ => True

instance (w : World) : ∀ call, Decidable (Untouched w call)
  | .updated _ _ _ _ found =>
      inferInstanceAs (Decidable ((∃ row ∈ found, row.usedAt = none) ∧ (_ → _)))
  | .ended _ | .requested .. | .deleting .. | .hashing .. | .updating .. => isTrue trivial

def InTime (w : World) : Action → Prop
  | .step i _ => ∀ call ∈ w.calls[i]?, Untouched w call
  | _ => True

instance (w : World) : ∀ a, Decidable (InTime w a)
  | .step i _ => inferInstanceAs (Decidable (∀ call ∈ w.calls[i]?, _))
  | .tick _ | .requestReset _ | .confirm .. | .abort _ => isTrue trivial

/-! ## The invariant -/

/-- What becomes of a token that a call has read: its row is used by a call that
has set a password, or deleted by a newer request. -/
structure Presented (l : Links) (kind : Kind) (stored : OneTimeTokenRow) : Prop where
  lt : stored.id < l.nextId
  drawn : kind = .reset → stored.tokenHash ∈ l.drawn
  row : ∀ r ∈ l.tokens kind, r.id = stored.id ↔ r.tokenHash = stored.tokenHash
  spent : ∀ r ∈ l.tokens kind, r.id = stored.id → r.usedAt ≠ none →
    (kind, stored.tokenHash) ∈ l.uses.map Use.link
  gone : (∀ r ∈ l.tokens kind, r.id ≠ stored.id) → kind = .reset ∧ stored.id ∈ l.superseded

/-- A request deletes what it has seen, but for what is used in the meantime. -/
structure Clearing (l : Links) (userId : Nat) (seen todo deleted : List Nat) : Prop where
  lt : ∀ id ∈ seen, id < l.nextId
  own : ∀ r ∈ l.tokens .reset, r.id ∈ seen → r.userId = userId
  todo_seen : ∀ id ∈ todo, id ∈ seen
  deleted_seen : ∀ id ∈ deleted, id ∈ seen
  rest : ∀ r ∈ l.tokens .reset, r.id ∈ seen → r.usedAt ≠ none ∨ r.id ∈ todo ∨ r.id ∈ deleted

def Sound (l : Links) : Call → Prop
  | .ended _ | .requested .. => True
  | .deleting userId _ seen todo deleted => Clearing l userId seen todo deleted
  | .hashing kind stored | .updating kind stored _ => Presented l kind stored
  | .updated kind stored _ _ found =>
      Presented l kind stored ∧ found = get OneTimeTokenRow.id stored.id (l.tokens kind)

structure Inv (w : World) : Prop where
  ids : ∀ kind, Distinct OneTimeTokenRow.id (w.tokens kind)
  hashes : ∀ kind, Distinct OneTimeTokenRow.tokenHash (w.tokens kind)
  ids_lt : ∀ kind, ∀ r ∈ w.tokens kind, r.id < w.nextId
  drawn : ∀ r ∈ w.tokens .reset, r.tokenHash ∈ w.drawn
  exclusive : (Holders.held locks w.calls).Nodup
  calls : ∀ call ∈ w.calls, Sound w.toLinks call
  uses : ∀ u ∈ w.uses, ∀ r ∈ w.tokens u.kind, r.tokenHash = u.tokenHash → r.usedAt ≠ none
  uses_drawn : ∀ u ∈ w.uses, u.kind = .reset → u.tokenHash ∈ w.drawn
  superseded : ∀ r ∈ w.tokens .reset, r.id ∈ w.superseded → r.usedAt ≠ none ∨ r.id ∈ w.missed
  superseded_lt : ∀ id ∈ w.superseded, id < w.nextId
  missed : ∀ id ∈ w.missed, id ∈ w.superseded

variable {c : Crypto} {w w' : World} {i : Nat} {p q : Call} {kind : Kind} {stored : OneTimeTokenRow}

/-! ## Calls come and go -/

theorem Inv.begin (hw : Inv w) (hq : Sound w.toLinks q) (hlocks : locks q = []) :
    Inv (begin w q) := by
  refine { hw with exclusive := ?_, calls := ?_ }
  · rw [PasswordLinks.begin, Holders.held, List.flatMap_append, List.flatMap_singleton, hlocks,
      List.append_nil]
    exact hw.exclusive
  · intro call hcall
    rcases List.mem_append.mp hcall with hcall | hcall
    · exact hw.calls call hcall
    · rw [List.mem_singleton.mp hcall]
      exact hq

/-- A call moves on. -/
theorem Inv.proceed (hw : Inv w) (hp : w.calls[i]? = some p) (hq : Sound w.toLinks q)
    (hlocks : ∀ rest, (locks p ++ rest).Nodup →
      (Holders.held locks w.calls).Perm (locks p ++ rest) → (locks q ++ rest).Nodup) :
    Inv (proceed w i q) := by
  refine { hw with exclusive := ?_, calls := ?_ }
  · obtain ⟨rest, hbefore, hafter⟩ := Holders.held_set locks hp
    exact (hafter q).nodup_iff.mpr (hlocks rest (hbefore.nodup_iff.mp hw.exclusive) hbefore)
  · intro call hcall
    rcases Holders.mem_set hcall with rfl | hcall
    · exact hq
    · exact hw.calls call hcall

/-- It holds no more locks than before. -/
theorem Inv.proceed_same (hw : Inv w) (hp : w.calls[i]? = some p) (hq : Sound w.toLinks q)
    (hlocks : locks q = [] ∨ locks q = locks p) : Inv (PasswordLinks.proceed w i q) := by
  refine hw.proceed hp hq fun rest hnodup _ => ?_
  rcases hlocks with h | h
  · rw [h]
    exact hnodup.of_append_right
  · rw [h]
    exact hnodup

/-- It takes one more, which nobody had. -/
theorem Inv.proceed_lock (hw : Inv w) (hp : w.calls[i]? = some p) (hq : Sound w.toLinks q)
    {id : Nat} (hfree : isLocked w kind id = false) (hlocks : locks q = (kind, id) :: locks p) :
    Inv (PasswordLinks.proceed w i q) := by
  refine hw.proceed hp hq fun rest hnodup hperm => ?_
  rw [hlocks, List.cons_append, List.nodup_cons]
  refine ⟨fun hmem => ?_, hnodup⟩
  have hheld := hperm.mem_iff.mpr hmem
  simp [isLocked, hheld] at hfree

theorem Presented.of_read (hw : Inv w) {rawToken : String}
    (h : usable (w.tokens kind) (c.hashToken rawToken) w.now = some stored) :
    Presented w.toLinks kind stored := by
  obtain ⟨hget, huse⟩ := Option.filter_eq_some_iff.mp h
  have hmem : stored ∈ w.tokens kind := (get_some hget).1
  refine ⟨hw.ids_lt kind stored hmem, ?_, ?_, ?_, ?_⟩
  · rintro rfl
    exact hw.drawn stored hmem
  · intro r hr
    constructor
    · intro hid
      rw [(hw.ids kind).eq_of_key hr hmem hid]
    · intro hhash
      rw [(hw.hashes kind).eq_of_key hr hmem hhash]
  · intro r hr hid hused
    rw [(hw.ids kind).eq_of_key hr hmem hid] at hused
    exact absurd (of_decide_eq_true huse).1 hused
  · intro hnone
    exact absurd rfl (hnone stored hmem)

/-! ## What a commit may do -/

/-- A row of after a commit: one of before, perhaps used by now, or a new one. -/
inductive Row (l l' : Links) (kind : Kind) (r' : OneTimeTokenRow) : Prop
  | kept (mem : r' ∈ l.tokens kind)
  | used (r : OneTimeTokenRow) (mem : r ∈ l.tokens kind) (id : r'.id = r.id)
      (tokenHash : r'.tokenHash = r.tokenHash) (userId : r'.userId = r.userId)
      (usedAt : r'.usedAt ≠ none) (use : (kind, r'.tokenHash) ∈ l'.uses.map Use.link)
  | drawn (kind_eq : kind = .reset) (id : r'.id = l.nextId) (tokenHash : r'.tokenHash ∉ l.drawn)

structure Commits (l l' : Links) : Prop where
  nextId : l.nextId ≤ l'.nextId
  drawn : ∀ hash ∈ l.drawn, hash ∈ l'.drawn
  uses : ∀ u ∈ l.uses, u ∈ l'.uses
  superseded : ∀ id ∈ l.superseded, id ∈ l'.superseded
  rows : ∀ kind, ∀ r' ∈ l'.tokens kind, Row l l' kind r'
  gone : ∀ kind, ∀ r ∈ l.tokens kind,
    (∃ r' ∈ l'.tokens kind, r'.id = r.id) ∨ kind = .reset ∧ r.id ∈ l'.superseded

section Commits

variable {l l' : Links} {userId : Nat} {seen todo deleted : List Nat}

theorem Presented.commit (h : Presented l kind stored) (hc : Commits l l') :
    Presented l' kind stored where
  lt := Nat.lt_of_lt_of_le h.lt hc.nextId
  drawn := fun hkind => hc.drawn _ (h.drawn hkind)
  row := by
    intro r' hr'
    cases hc.rows kind r' hr' with
    | kept mem => exact h.row r' mem
    | used r mem id tokenHash userId usedAt use =>
        rw [id, tokenHash]
        exact h.row r mem
    | drawn kind_eq id tokenHash =>
        have hne : r'.id ≠ stored.id := id ▸ (Nat.ne_of_lt h.lt).symm
        have hne' : r'.tokenHash ≠ stored.tokenHash := fun heq =>
          tokenHash (heq ▸ h.drawn kind_eq)
        exact iff_of_false hne hne'
  spent := by
    intro r' hr' hid hused
    have hmono : (kind, stored.tokenHash) ∈ l.uses.map Use.link →
        (kind, stored.tokenHash) ∈ l'.uses.map Use.link := by
      intro hmem
      obtain ⟨u, hu, heq⟩ := List.mem_map.mp hmem
      exact List.mem_map.mpr ⟨u, hc.uses u hu, heq⟩
    cases hc.rows kind r' hr' with
    | kept mem => exact hmono (h.spent r' mem hid hused)
    | used r mem id tokenHash userId usedAt use =>
        rw [tokenHash, (h.row r mem).mp (id ▸ hid)] at use
        exact use
    | drawn kind_eq id tokenHash => exact absurd (id ▸ hid) (Nat.ne_of_lt h.lt).symm
  gone := by
    intro hnone
    by_cases hold : ∀ r ∈ l.tokens kind, r.id ≠ stored.id
    · obtain ⟨hkind, hmem⟩ := h.gone hold
      exact ⟨hkind, hc.superseded _ hmem⟩
    · obtain ⟨r, hr, hid⟩ : ∃ r ∈ l.tokens kind, r.id = stored.id := by simpa using hold
      rcases hc.gone kind r hr with ⟨r', hr', hid'⟩ | ⟨hkind, hmem⟩
      · exact absurd (hid'.trans hid) (hnone r' hr')
      · exact ⟨hkind, hid ▸ hmem⟩

theorem Clearing.commit (h : Clearing l userId seen todo deleted) (hc : Commits l l') :
    Clearing l' userId seen todo deleted where
  lt := fun id hid => Nat.lt_of_lt_of_le (h.lt id hid) hc.nextId
  own := by
    intro r' hr' hseen
    cases hc.rows .reset r' hr' with
    | kept mem => exact h.own r' mem hseen
    | used r mem id tokenHash user usedAt use => exact user.trans (h.own r mem (id ▸ hseen))
    | drawn kind_eq id tokenHash => exact absurd (h.lt _ hseen) (by omega)
  todo_seen := h.todo_seen
  deleted_seen := h.deleted_seen
  rest := by
    intro r' hr' hseen
    cases hc.rows .reset r' hr' with
    | kept mem => exact h.rest r' mem hseen
    | used r mem id tokenHash user usedAt use => exact Or.inl usedAt
    | drawn kind_eq id tokenHash => exact absurd (h.lt _ hseen) (by omega)

end Commits

theorem Commits.spent (hw : Inv w) {l' : Links} (hc : Commits w.toLinks l') {u : Use}
    (hu : u ∈ w.uses) : ∀ r' ∈ l'.tokens u.kind, r'.tokenHash = u.tokenHash → r'.usedAt ≠ none := by
  intro r' hr' hhash
  cases hc.rows u.kind r' hr' with
  | kept mem => exact hw.uses u hu r' mem hhash
  | used r mem id tokenHash userId usedAt use => exact usedAt
  | drawn kind_eq id tokenHash =>
      exact absurd (hw.uses_drawn u hu kind_eq) (hhash ▸ tokenHash)

/-- A commit leaves alone what it has not locked. -/
theorem Inv.commit_calls (hw : Inv w) (hp : w.calls[i]? = some p) {answer : Answer}
    (hcalls : w'.calls = w.calls.set i (.ended answer)) (hc : Commits w.toLinks w'.toLinks)
    (hids : ∀ kind, Distinct OneTimeTokenRow.id (w'.tokens kind))
    (hkeep : ∀ kind, ∀ r ∈ w.tokens kind, (kind, r.id) ∉ locks p → r ∈ w'.tokens kind) :
    (Holders.held locks w'.calls).Nodup ∧ ∀ call ∈ w'.calls, Sound w'.toLinks call := by
  obtain ⟨rest, hbefore, hafter⟩ := Holders.held_set locks hp
  have hnodup : (locks p ++ rest).Nodup := hbefore.nodup_iff.mp hw.exclusive
  have hperm : (Holders.held locks w'.calls).Perm rest := hcalls ▸ hafter (.ended answer)
  refine ⟨hperm.nodup_iff.mpr hnodup.of_append_right, ?_⟩
  intro call hcall
  have hold : call = .ended answer ∨ call ∈ w.calls := Holders.mem_set (hcalls ▸ hcall)
  rcases hold with rfl | hold
  · trivial
  · have hsound := hw.calls call hold
    cases call with
    | ended _ => trivial
    | requested userId expiresAt => trivial
    | deleting userId expiresAt seen todo deleted => exact Clearing.commit hsound hc
    | hashing kind stored => exact Presented.commit hsound hc
    | updating kind stored passwordHash => exact Presented.commit hsound hc
    | updated kind stored passwordHash usedAt found =>
        obtain ⟨hpresented, hfound⟩ := hsound
        refine ⟨hpresented.commit hc, ?_⟩
        cases hget : get OneTimeTokenRow.id stored.id (w.tokens kind) with
        | none =>
            rw [hfound, hget]
            refine (get_eq_none.mpr fun r' hr' => ?_).symm
            have hnone := get_eq_none.mp hget
            cases hc.rows kind r' hr' with
            | kept mem => exact hnone r' mem
            | used r mem id tokenHash userId usedAt use => exact id ▸ hnone r mem
            | drawn kind_eq id tokenHash => exact id ▸ (Nat.ne_of_lt hpresented.lt).symm
        | some r =>
            obtain ⟨hmem, hid⟩ := get_some hget
            have hlock : (kind, r.id) ∈ Holders.held locks w'.calls :=
              Holders.mem_held.mpr ⟨_, hcall, by simp [locks, hfound, hget, hid]⟩
            have hfree : (kind, r.id) ∉ locks p := fun hlocked =>
              (List.nodup_append.mp hnodup).2.2 _ hlocked _ (hperm.mem_iff.mp hlock) rfl
            rw [hfound, hget, ← hid]
            exact ((hids kind).get_eq (hkeep kind r hmem hfree)).symm

/-! ## The two commits -/

/-- The rows of a table in which one token has been used. -/
theorem mem_markUsed {rows : List OneTimeTokenRow} {usedAt : Nat} {r' : OneTimeTokenRow} :
    r' ∈ markUsed rows stored usedAt ↔
      (r' ∈ rows ∧ r'.id ≠ stored.id) ∨
        ∃ r ∈ rows, r.id = stored.id ∧ r' = { r with usedAt := some usedAt } := by
  rw [markUsed, mem_update]
  constructor
  · rintro ⟨r, hr, rfl⟩
    by_cases hid : r.id = stored.id
    · exact Or.inr ⟨r, hr, hid, by simp [hid]⟩
    · exact Or.inl ⟨by simpa [hid] using hr, by simp [hid]⟩
  · rintro (⟨hr, hid⟩ | ⟨r, hr, hid, rfl⟩)
    · exact ⟨r', hr, by simp [hid]⟩
    · exact ⟨r, hr, by simp [hid]⟩

theorem commitConfirm_commits (hpresented : Presented w.toLinks kind stored) (passwordHash : String)
    (usedAt : Nat) :
    Commits w.toLinks (commitConfirm w i kind stored passwordHash usedAt).toLinks where
  nextId := le_rfl
  drawn := fun _ h => h
  uses := fun _ h => List.mem_cons_of_mem _ h
  superseded := fun _ h => h
  rows := by
    intro k r' hr'
    by_cases hk : k = kind
    · subst hk
      simp only [commitConfirm, setTokens, if_pos] at hr'
      rcases mem_markUsed.mp hr' with ⟨hmem, -⟩ | ⟨r, hr, hid, rfl⟩
      · exact .kept hmem
      · refine .used r hr rfl rfl rfl (by simp) ?_
        rw [(hpresented.row r hr).mp hid]
        exact List.mem_map.mpr ⟨_, List.mem_cons_self, rfl⟩
    · simp only [commitConfirm, setTokens, if_neg hk] at hr'
      exact .kept hr'
  gone := by
    intro k r hr
    refine Or.inl ?_
    by_cases hk : k = kind
    · subst hk
      simp only [commitConfirm, setTokens, if_pos]
      by_cases hid : r.id = stored.id
      · exact ⟨_, mem_markUsed.mpr (Or.inr ⟨r, hr, hid, rfl⟩), rfl⟩
      · exact ⟨r, mem_markUsed.mpr (Or.inl ⟨hr, hid⟩), rfl⟩
    · simp only [commitConfirm, setTokens, if_neg hk]
      exact ⟨r, hr, rfl⟩

theorem Inv.commitConfirm (hw : Inv w) {passwordHash : String} {usedAt : Nat}
    {found : Option OneTimeTokenRow}
    (hp : w.calls[i]? = some (.updated kind stored passwordHash usedAt found)) :
    Inv (commitConfirm w i kind stored passwordHash usedAt) := by
  obtain ⟨hpresented, hfound⟩ := hw.calls _ (List.mem_of_getElem? hp)
  have hc := commitConfirm_commits (i := i) hpresented passwordHash usedAt
  let w' := PasswordLinks.commitConfirm w i kind stored passwordHash usedAt
  have htokens : ∀ k, w'.tokens k = if k = kind then markUsed (w.tokens kind) stored usedAt
      else w.tokens k := fun _ => rfl
  have hids : ∀ k, Distinct OneTimeTokenRow.id (w'.tokens k) := by
    intro k
    rw [htokens]
    split
    · exact (hw.ids kind).update fun _ _ _ => rfl
    · exact hw.ids k
  have hkeep : ∀ k, ∀ r ∈ w.tokens k,
      (k, r.id) ∉ locks (.updated kind stored passwordHash usedAt found) → r ∈ w'.tokens k := by
    intro k r hr hfree
    rw [htokens]
    split
    · next hk =>
        subst hk
        refine mem_markUsed.mpr (Or.inl ⟨hr, fun hid => hfree ?_⟩)
        rw [hfound, ← hid, (hw.ids k).get_eq hr]
        exact List.mem_singleton.mpr (by rw [hid])
    · exact hr
  have hold : ∀ k, ∀ r' ∈ w'.tokens k,
      ∃ r ∈ w.tokens k, r'.id = r.id ∧ r'.tokenHash = r.tokenHash := by
    intro k r' hr'
    rw [htokens] at hr'
    split at hr'
    · next hk =>
        subst hk
        rcases mem_markUsed.mp hr' with ⟨hmem, -⟩ | ⟨r, hr, -, rfl⟩
        · exact ⟨r', hmem, rfl, rfl⟩
        · exact ⟨r, hr, rfl, rfl⟩
    · exact ⟨r', hr', rfl, rfl⟩
  obtain ⟨hexclusive, hcalls⟩ := hw.commit_calls hp rfl hc hids hkeep
  refine
    { ids := hids, exclusive := hexclusive, calls := hcalls, hashes := ?_, ids_lt := ?_
      drawn := ?_, uses := ?_, uses_drawn := ?_, superseded := ?_
      superseded_lt := hw.superseded_lt, missed := hw.missed }
  · intro k
    rw [htokens]
    split
    · exact (hw.hashes kind).update fun _ _ _ => rfl
    · exact hw.hashes k
  · intro k r' hr'
    obtain ⟨r, hr, hid, -⟩ := hold k r' hr'
    exact hid ▸ hw.ids_lt k r hr
  · intro r' hr'
    obtain ⟨r, hr, -, hhash⟩ := hold .reset r' hr'
    exact hhash ▸ hw.drawn r hr
  · intro u hu
    rcases List.mem_cons.mp hu with rfl | hu
    · intro r' hr' hhash
      rw [htokens, if_pos rfl] at hr'
      rcases mem_markUsed.mp hr' with ⟨hmem, hne⟩ | ⟨r, -, -, rfl⟩
      · exact absurd ((hpresented.row r' hmem).mpr hhash) hne
      · simp
    · exact hc.spent hw hu
  · intro u hu hkind
    rcases List.mem_cons.mp hu with rfl | hu
    · exact hpresented.drawn hkind
    · exact hw.uses_drawn u hu hkind
  · intro r' hr' hsuperseded
    cases hc.rows .reset r' hr' with
    | kept mem => exact hw.superseded r' mem hsuperseded
    | used r mem id tokenHash userId usedAt use => exact Or.inl usedAt
    | drawn kind_eq id tokenHash => exact absurd (hw.superseded_lt _ hsuperseded) (by omega)

section Request

variable {userId expiresAt : Nat} {seen deleted : List Nat} {rawToken : String}

/-- The row that a request inserts. -/
def requested (c : Crypto) (w : World) (userId expiresAt : Nat) (rawToken : String) :
    OneTimeTokenRow where
  id := w.nextId
  userId := userId
  tokenHash := c.hashToken rawToken
  expiresAt := expiresAt
  usedAt := none
  createdAt := w.now

theorem mem_commitRequest {r' : OneTimeTokenRow} (hfresh : c.hashToken rawToken ∉ w.drawn) :
    r' ∈ (commitRequest c w i userId expiresAt seen deleted rawToken).tokens .reset ↔
      (r' ∈ w.tokens .reset ∧ r'.id ∉ deleted) ∨ r' = requested c w userId expiresAt rawToken := by
  simp [commitRequest, hfresh, setTokens, requested, List.mem_filter]

theorem tokens_commitRequest_invite :
    (commitRequest c w i userId expiresAt seen deleted rawToken).tokens .invite
      = w.tokens .invite := by
  unfold commitRequest
  dsimp only
  split <;> rfl

variable (i expiresAt) in
theorem commitRequest_commits (hclearing : Clearing w.toLinks userId seen [] deleted)
    (hfresh : c.hashToken rawToken ∉ w.drawn) :
    Commits w.toLinks (commitRequest c w i userId expiresAt seen deleted rawToken).toLinks where
  nextId := by simp [commitRequest, hfresh]
  drawn := fun hash h => by simp [commitRequest, hfresh, h]
  uses := fun u h => by simp [commitRequest, hfresh, h]
  superseded := fun id h => by simp [commitRequest, hfresh, h]
  rows := by
    intro k r' hr'
    cases k with
    | invite =>
        rw [tokens_commitRequest_invite] at hr'
        exact .kept hr'
    | reset =>
        rcases (mem_commitRequest hfresh).mp hr' with ⟨hmem, -⟩ | rfl
        · exact .kept hmem
        · exact .drawn rfl rfl hfresh
  gone := by
    intro k r hr
    cases k with
    | invite =>
        rw [tokens_commitRequest_invite]
        exact Or.inl ⟨r, hr, rfl⟩
    | reset =>
        by_cases hdeleted : r.id ∈ deleted
        · refine Or.inr ⟨rfl, ?_⟩
          have hown : r.userId = userId := hclearing.own r hr (hclearing.deleted_seen _ hdeleted)
          have holder : r.id ∈ (ofUser w userId).map OneTimeTokenRow.id :=
            List.mem_map_of_mem (List.mem_filter.mpr ⟨hr, by simpa using hown⟩)
          simp only [commitRequest, if_neg hfresh]
          exact List.mem_append_left _ holder
        · exact Or.inl ⟨r, (mem_commitRequest hfresh).mpr (Or.inl ⟨hr, hdeleted⟩), rfl⟩

theorem links_commitRequest (hfresh : c.hashToken rawToken ∉ w.drawn) :
    (commitRequest c w i userId expiresAt seen deleted rawToken).toLinks =
      { nextId := w.nextId + 1
        tokens := setTokens w .reset ((w.tokens .reset).filter (fun t => t.id ∉ deleted) ++
          [requested c w userId expiresAt rawToken])
        drawn := c.hashToken rawToken :: w.drawn
        uses := w.uses
        superseded := (ofUser w userId).map OneTimeTokenRow.id ++ w.superseded
        missed := ((ofUser w userId).map OneTimeTokenRow.id).filter (· ∉ seen) ++ w.missed } := by
  simp [commitRequest, hfresh, requested]

theorem ofUser_lt (hw : Inv w) :
    ∀ id ∈ (ofUser w userId).map OneTimeTokenRow.id, id < w.nextId := by
  intro id hid
  obtain ⟨r, hr, rfl⟩ := List.mem_map.mp hid
  exact hw.ids_lt .reset r (List.mem_filter.mp hr).1

/-- The keys of the tables, with one row more. -/
theorem distinct_commitRequest (hw : Inv w) (hfresh : c.hashToken rawToken ∉ w.drawn) (k : Kind) :
    Distinct OneTimeTokenRow.id
        ((commitRequest c w i userId expiresAt seen deleted rawToken).tokens k) ∧
      Distinct OneTimeTokenRow.tokenHash
        ((commitRequest c w i userId expiresAt seen deleted rawToken).tokens k) := by
  cases k with
  | invite =>
      rw [tokens_commitRequest_invite]
      exact ⟨hw.ids .invite, hw.hashes .invite⟩
  | reset =>
      simp only [links_commitRequest hfresh, setTokens, if_pos]
      constructor
      · refine ((hw.ids .reset).filter _).append_singleton fun r hr => ?_
        exact Nat.ne_of_lt (hw.ids_lt .reset r (List.mem_filter.mp hr).1)
      · refine ((hw.hashes .reset).filter _).append_singleton fun r hr heq => ?_
        have hknown := hw.drawn r (List.mem_filter.mp hr).1
        rw [heq] at hknown
        exact hfresh hknown

/-- What a request leaves of the user's tokens is used, or it has missed it. -/
theorem superseded_commitRequest (hw : Inv w)
    (hclearing : Clearing w.toLinks userId seen [] deleted)
    (hfresh : c.hashToken rawToken ∉ w.drawn) :
    let w' := commitRequest c w i userId expiresAt seen deleted rawToken
    ∀ r ∈ w'.tokens .reset, r.id ∈ w'.superseded → r.usedAt ≠ none ∨ r.id ∈ w'.missed := by
  intro w' r' hr' hnewer
  simp only [w', links_commitRequest hfresh, List.mem_append] at hnewer ⊢
  rcases (mem_commitRequest hfresh).mp hr' with ⟨hr, hkept⟩ | rfl
  · rcases hnewer with hown | hbefore
    · by_cases hseen : r'.id ∈ seen
      · -- what the DELETE has seen and not deleted is used
        rcases hclearing.rest r' hr hseen with hused | hnil | hdeleted
        · exact Or.inl hused
        · cases hnil
        · exact absurd hdeleted hkept
      · exact Or.inr (Or.inl (List.mem_filter.mpr ⟨hown, by simpa using hseen⟩))
    · exact (hw.superseded r' hr hbefore).imp_right Or.inr
  · have hlt := hnewer.elim (ofUser_lt hw _) (hw.superseded_lt _)
    exact absurd hlt (Nat.lt_irrefl _)

theorem Inv.commitRequest (hw : Inv w)
    (hp : w.calls[i]? = some (.deleting userId expiresAt seen [] deleted)) :
    Inv (commitRequest c w i userId expiresAt seen deleted rawToken) := by
  have hclearing : Clearing w.toLinks userId seen [] deleted :=
    hw.calls _ (List.mem_of_getElem? hp)
  by_cases hfresh : c.hashToken rawToken ∈ w.drawn
  · simpa [PasswordLinks.commitRequest, hfresh] using hw
  · have hc := commitRequest_commits i expiresAt hclearing hfresh
    let w' := PasswordLinks.commitRequest c w i userId expiresAt seen deleted rawToken
    have hlinks : w'.toLinks = _ := links_commitRequest hfresh
    have hcalls' : w'.calls = w.calls.set i (.ended .done) := by
      simp [w', PasswordLinks.commitRequest, hfresh, PasswordLinks.proceed]
    have hdistinct : ∀ k, Distinct OneTimeTokenRow.id (w'.tokens k) ∧
        Distinct OneTimeTokenRow.tokenHash (w'.tokens k) := distinct_commitRequest hw hfresh
    have hkeep : ∀ k, ∀ r ∈ w.tokens k,
        (k, r.id) ∉ locks (.deleting userId expiresAt seen [] deleted) → r ∈ w'.tokens k := by
      intro k r hr hfree
      cases k with
      | invite =>
          have hsame : w'.tokens .invite = w.tokens .invite := tokens_commitRequest_invite
          rw [hsame]
          exact hr
      | reset =>
          refine (mem_commitRequest hfresh).mpr (Or.inl ⟨hr, fun hdeleted => hfree ?_⟩)
          exact List.mem_map.mpr ⟨r.id, hdeleted, rfl⟩
    obtain ⟨hexclusive, hcalls⟩ :=
      hw.commit_calls hp hcalls' hc (fun k => (hdistinct k).1) hkeep
    refine
      { ids := fun k => (hdistinct k).1, hashes := fun k => (hdistinct k).2
        exclusive := hexclusive, calls := hcalls
        superseded := superseded_commitRequest hw hclearing hfresh
        ids_lt := ?_, drawn := ?_, uses := ?_, uses_drawn := ?_, superseded_lt := ?_, missed := ?_ }
    · intro k r' hr'
      change r'.id < w'.nextId
      rw [hlinks]
      cases k with
      | invite =>
          rw [tokens_commitRequest_invite] at hr'
          exact Nat.lt_succ_of_lt (hw.ids_lt .invite r' hr')
      | reset =>
          rcases (mem_commitRequest hfresh).mp hr' with ⟨hr, -⟩ | rfl
          · exact Nat.lt_succ_of_lt (hw.ids_lt .reset r' hr)
          · exact Nat.lt_succ_self _
    · intro r' hr'
      change r'.tokenHash ∈ w'.drawn
      rw [hlinks]
      rcases (mem_commitRequest hfresh).mp hr' with ⟨hr, -⟩ | rfl
      · exact List.mem_cons_of_mem _ (hw.drawn r' hr)
      · exact List.mem_cons_self
    · have huses : w'.uses = w.uses := by rw [hlinks]
      exact fun u hu => hc.spent hw (huses ▸ hu)
    · change ∀ u ∈ w'.uses, u.kind = .reset → u.tokenHash ∈ w'.drawn
      rw [hlinks]
      exact fun u hu hkind => List.mem_cons_of_mem _ (hw.uses_drawn u hu hkind)
    · change ∀ id ∈ w'.superseded, id < w'.nextId
      rw [hlinks]
      intro id hid
      rcases List.mem_append.mp hid with hown | hbefore
      · exact Nat.lt_succ_of_lt (ofUser_lt hw id hown)
      · exact Nat.lt_succ_of_lt (hw.superseded_lt id hbefore)
    · change ∀ id ∈ w'.missed, id ∈ w'.superseded
      rw [hlinks]
      intro id hid
      rcases List.mem_append.mp hid with hown | hbefore
      · exact List.mem_append_left _ (List.mem_filter.mp hown).1
      · exact List.mem_append_right _ (hw.missed id hbefore)

end Request

/-! ## Every step -/

theorem Clearing.start (hw : Inv w) (userId : Nat) :
    Clearing w.toLinks userId ((ofUser w userId).map OneTimeTokenRow.id)
      (((ofUser w userId).filter fun t => t.usedAt.isNone).map OneTimeTokenRow.id) [] where
  lt := by
    intro id hid
    obtain ⟨r, hr, rfl⟩ := List.mem_map.mp hid
    exact hw.ids_lt .reset r (List.mem_filter.mp hr).1
  own := by
    intro r hr hseen
    obtain ⟨r₀, hr₀, hid⟩ := List.mem_map.mp hseen
    obtain ⟨hmem, huser⟩ := List.mem_filter.mp hr₀
    rw [← (hw.ids .reset).eq_of_key hmem hr hid]
    exact of_decide_eq_true huser
  todo_seen := fun id hid => by
    obtain ⟨r, hr, rfl⟩ := List.mem_map.mp hid
    exact List.mem_map_of_mem (List.mem_filter.mp hr).1
  deleted_seen := fun _ hid => absurd hid List.not_mem_nil
  rest := by
    intro r hr hseen
    obtain ⟨r₀, hr₀, hid⟩ := List.mem_map.mp hseen
    rw [← (hw.ids .reset).eq_of_key (List.mem_filter.mp hr₀).1 hr hid]
    cases hused : r₀.usedAt with
    | some t => exact Or.inl (by simp)
    | none =>
        refine Or.inr (Or.inl (List.mem_map_of_mem (List.mem_filter.mpr ⟨hr₀, ?_⟩)))
        simp [hused]

/-- The next row of a DELETE. -/
theorem Clearing.next {userId id : Nat} {seen todo deleted : List Nat}
    (h : Clearing w.toLinks userId seen (id :: todo) deleted) :
    (isUnused w id = true → Clearing w.toLinks userId seen todo (id :: deleted)) ∧
      (isUnused w id = false → Clearing w.toLinks userId seen todo deleted) := by
  have htodo : ∀ id' ∈ todo, id' ∈ seen := by
    intro id' hid
    exact h.todo_seen id' (List.mem_cons_of_mem _ hid)
  constructor
  · intro _
    refine { h with todo_seen := htodo, deleted_seen := ?_, rest := ?_ }
    · intro id' hid
      rcases List.mem_cons.mp hid with rfl | hid
      · exact h.todo_seen _ List.mem_cons_self
      · exact h.deleted_seen id' hid
    · intro r hr hseen
      have hrest := h.rest r hr hseen
      simp only [List.mem_cons] at hrest ⊢
      tauto
  · intro hused
    refine { h with todo_seen := htodo, rest := ?_ }
    intro r hr hseen
    rcases h.rest r hr hseen with hr' | htodo | hdeleted
    · exact Or.inl hr'
    · rcases List.mem_cons.mp htodo with hid | htodo
      · left
        intro hnone
        simp only [isUnused, List.any_eq_false, Bool.and_eq_true, decide_eq_true_eq] at hused
        exact hused r hr ⟨hid, by simp [hnone]⟩
      · exact Or.inr (Or.inl htodo)
    · exact Or.inr (Or.inr hdeleted)

theorem Inv.statement (hw : Inv w) (hp : w.calls[i]? = some p) (drawn : String) :
    Inv (statement c w i drawn p) := by
  have hsound := hw.calls p (List.mem_of_getElem? hp)
  cases p with
  | ended answer => exact hw
  | requested userId expiresAt =>
      exact hw.proceed_same hp (Clearing.start hw userId) (Or.inl rfl)
  | deleting userId expiresAt seen todo deleted =>
      cases todo with
      | nil => exact hw.commitRequest hp
      | cons id todo =>
          have hnext := Clearing.next hsound
          simp only [PasswordLinks.statement]
          split
          · exact hw
          · next hfree =>
              split
              · next hunused =>
                  exact hw.proceed_lock hp (hnext.1 hunused) (by simpa using hfree) rfl
              · next hused =>
                  exact hw.proceed_same hp (hnext.2 (by simpa using hused)) (Or.inr rfl)
  | hashing kind stored => exact hw.proceed_same hp hsound (Or.inl rfl)
  | updating kind stored passwordHash =>
      simp only [PasswordLinks.statement]
      split
      · exact hw
      · next hfree =>
          cases hget : get OneTimeTokenRow.id stored.id (w.tokens kind) with
          | none => exact hw.proceed_same hp ⟨hsound, hget.symm⟩ (Or.inl rfl)
          | some r =>
              exact hw.proceed_lock hp ⟨hsound, hget.symm⟩ (by simpa using hfree) rfl
  | updated kind stored passwordHash usedAt found => exact hw.commitConfirm hp

theorem Inv.step (hw : Inv w) (a : Action) : Inv (exec c w a) := by
  cases a with
  | tick ms => exact { hw with }
  | requestReset email =>
      have hread : Sound w.toLinks (readRequest w email) ∧ locks (readRequest w email) = [] := by
        unfold readRequest
        split
        · exact ⟨trivial, rfl⟩
        · split <;> exact ⟨trivial, rfl⟩
      exact hw.begin hread.1 hread.2
  | confirm kind rawToken =>
      have hread : Sound w.toLinks (readConfirm c w kind rawToken) ∧
          locks (readConfirm c w kind rawToken) = [] := by
        unfold readConfirm
        split
        · exact ⟨trivial, rfl⟩
        · next stored husable => exact ⟨Presented.of_read hw husable, rfl⟩
      exact hw.begin hread.1 hread.2
  | step i drawn =>
      simp only [exec]
      split
      · exact hw
      · next call hcall => exact hw.statement hcall drawn
  | abort i =>
      simp only [exec]
      split
      · exact hw
      · next call hcall => exact hw.proceed_same hcall trivial (Or.inl rfl)

/-! ## The result -/

/-- Of a call that has updated its token: it may commit. -/
theorem commitConfirm_linksWork_iff (hw : Inv w) (h : LinksWork w) {passwordHash : String}
    {usedAt : Nat} {found : Option OneTimeTokenRow}
    (hp : w.calls[i]? = some (.updated kind stored passwordHash usedAt found)) :
    LinksWork (commitConfirm w i kind stored passwordHash usedAt) ↔
      Untouched w (.updated kind stored passwordHash usedAt found) := by
  obtain ⟨hpresented, hfound⟩ := hw.calls _ (List.mem_of_getElem? hp)
  have hafter : LinksWork (commitConfirm w i kind stored passwordHash usedAt) ↔
      (kind, stored.tokenHash) ∉ w.uses.map Use.link ∧
        ¬ (kind = .reset ∧ stored.id ∈ w.superseded) := by
    constructor
    · rintro ⟨hnodup, hcurrent⟩
      refine ⟨(List.nodup_cons.mp hnodup).1, ?_⟩
      rintro ⟨hkind, hsuperseded⟩
      have hfirst := hcurrent _ List.mem_cons_self
      simp [hkind, hsuperseded] at hfirst
    · rintro ⟨hunused, hnewest⟩
      refine ⟨List.nodup_cons.mpr ⟨hunused, h.1⟩, ?_⟩
      intro u hu
      rcases List.mem_cons.mp hu with rfl | hu
      · simpa using hnewest
      · exact h.2 u hu
  rw [hafter]
  constructor
  · rintro ⟨hunused, hnewest⟩
    refine ⟨?_, fun hkind hmissed => hnewest ⟨hkind, hw.missed _ hmissed⟩⟩
    cases hget : get OneTimeTokenRow.id stored.id (w.tokens kind) with
    | none => exact absurd (hpresented.gone (get_eq_none.mp hget)) hnewest
    | some r =>
        obtain ⟨hmem, hid⟩ := get_some hget
        refine ⟨r, hfound.trans hget, ?_⟩
        by_contra hused
        exact hunused (hpresented.spent r hmem hid hused)
  · rintro ⟨⟨r, hr, hnone⟩, hseen⟩
    obtain ⟨hmem, hid⟩ := get_some (hfound.symm.trans hr)
    constructor
    · intro hused
      obtain ⟨u, hu, hlink⟩ := List.mem_map.mp hused
      obtain ⟨rfl, hhash⟩ := Prod.mk.inj hlink
      exact hw.uses u hu r hmem (((hpresented.row r hmem).mp hid).trans hhash.symm) hnone
    · rintro ⟨rfl, hsuperseded⟩
      rcases hw.superseded r hmem (hid ▸ hsuperseded) with hused | hmissed
      · exact hused hnone
      · exact hseen rfl (hid ▸ hmissed)

theorem statement_linksWork_iff (hw : Inv w) (h : LinksWork w) (hp : w.calls[i]? = some p)
    (drawn : String) : LinksWork (statement c w i drawn p) ↔ Untouched w p := by
  have hkept : ∀ {w' : World}, w'.uses = w.uses → LinksWork w' := by
    intro w' huses
    rw [LinksWork, huses]
    exact h
  cases p with
  | updated kind stored passwordHash usedAt found => exact commitConfirm_linksWork_iff hw h hp
  | ended answer => exact iff_of_true h trivial
  | requested userId expiresAt => exact iff_of_true (hkept rfl) trivial
  | hashing kind stored => exact iff_of_true (hkept rfl) trivial
  | updating kind stored passwordHash =>
      refine iff_of_true ?_ trivial
      simp only [statement]
      split
      · exact h
      · exact hkept rfl
  | deleting userId expiresAt seen todo deleted =>
      refine iff_of_true ?_ trivial
      cases todo with
      | nil =>
          simp only [statement, commitRequest]
          split
          · exact h
          · exact hkept rfl
      | cons id todo =>
          simp only [statement]
          split
          · exact h
          · split <;> exact hkept rfl

theorem step_linksWork_iff (hw : Inv w) (h : LinksWork w) (a : Action) :
    LinksWork (exec c w a) ↔ InTime w a := by
  cases a with
  | tick ms => exact iff_of_true h trivial
  | requestReset email => exact iff_of_true h trivial
  | confirm kind rawToken => exact iff_of_true h trivial
  | step i drawn =>
      simp only [exec, InTime]
      cases hcall : w.calls[i]? with
      | none => simp [h]
      | some call => simpa using statement_linksWork_iff hw h hcall drawn
  | abort i =>
      simp only [exec]
      split
      · exact iff_of_true h trivial
      · exact iff_of_true h trivial

/-- Any tables with their unique keys, and nothing under way. -/
structure Start (w : World) : Prop where
  ids : ∀ kind, Distinct OneTimeTokenRow.id (w.tokens kind)
  hashes : ∀ kind, Distinct OneTimeTokenRow.tokenHash (w.tokens kind)
  ids_lt : ∀ kind, ∀ r ∈ w.tokens kind, r.id < w.nextId
  drawn : ∀ r ∈ w.tokens .reset, r.tokenHash ∈ w.drawn
  calls : w.calls = []
  uses : w.uses = []
  superseded : w.superseded = []
  missed : w.missed = []

theorem Start.inv (h : Start w) : Inv w where
  ids := h.ids
  hashes := h.hashes
  ids_lt := h.ids_lt
  drawn := h.drawn
  exclusive := by simp [h.calls, Holders.held]
  calls := by simp [h.calls]
  uses := by simp [h.uses]
  uses_drawn := by simp [h.uses]
  superseded := by simp [h.superseded]
  superseded_lt := by simp [h.superseded]
  missed := by simp [h.missed]

/-- However requests and confirming calls interleave: a link sets a password at
most once, and a reset link only while it is the latest, just when every call that
commits has met its token unused and, of a reset token, no request has missed it. -/
theorem links_work_iff (c : Crypto) (h : Start w) (as : List Action) :
    Runs.Always (exec c) LinksWork w as ↔ Runs.Meets (exec c) InTime w as := by
  have hstart : LinksWork w := by
    rw [LinksWork, h.uses]
    exact ⟨List.nodup_nil, by simp⟩
  exact Runs.always_iff_meets (I := Inv) (P := LinksWork) (fun _ a hw => hw.step a)
    (fun _ a hw h => step_linksWork_iff hw h a) h.inv hstart as

/-! ## Two calls with one link -/

def demoLinks : World where
  now := 0
  nextId := 3
  users := [demoUser]
  tokens := fun kind =>
    match kind with
    | .reset => [⟨2, 1, "link", 5, none, 0⟩]
    | .invite => []
  calls := []
  drawn := ["link"]
  uses := []
  superseded := []
  missed := []

theorem demoLinks_start : Start demoLinks where
  ids := by
    intro kind
    cases kind <;> decide
  hashes := by
    intro kind
    cases kind <;> decide
  ids_lt := by
    intro kind
    cases kind <;> decide
  drawn := by decide
  calls := rfl
  uses := rfl
  superseded := rfl
  missed := rfl

/-- The second call reads the token when the first has used it. -/
theorem demo_links_work :
    Runs.Always (exec demoCrypto) LinksWork demoLinks
      [.confirm .reset "link", .step 0 "new", .step 0 "", .step 0 "", .confirm .reset "link",
        .requestReset "ada@x", .step 2 "", .step 2 "next"] := by
  refine (links_work_iff demoCrypto demoLinks_start _).mpr ?_
  decide +kernel

/-- A doubled click: both read the token before either has used it. -/
theorem doubled_click_sets_twice :
    ¬ ∀ (c : Crypto) (w : World) (as : List Action), Start w →
      Runs.Always (exec c) LinksWork w as := by
  intro h
  have hrun := (h demoCrypto demoLinks
    [.confirm .reset "link", .confirm .reset "link", .step 0 "new", .step 0 "", .step 0 "",
      .step 1 "other", .step 1 "", .step 1 ""] demoLinks_start).last
  exact absurd hrun (by decide +kernel)

/-- Two requests, of which the second to commit has missed the first one's link: the
older link still sets a password. -/
example : ¬ LinksWork (Runs.run (exec demoCrypto) demoLinks
    [.requestReset "ada@x", .requestReset "ada@x", .step 0 "", .step 1 "", .step 0 "", .step 0 "a",
      .step 1 "", .step 1 "b", .confirm .reset "a", .step 2 "new", .step 2 "", .step 2 ""]) := by
  decide +kernel

end Locoomo.PasswordLinks
