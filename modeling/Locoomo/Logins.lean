import Locoomo.Identity

/-! What a login writes. Its save re-reads the user and sets every column in
which the entity, read before the password check, differs from that; a reset or
a suspension committed in between is such a column. A login leaves the other
columns alone as long as the re-read finds them as the login read them. -/

namespace Locoomo.Logins

open Locoomo.Identity Relational

/-! ## The property -/

/-- The columns that are no business of a login. -/
def profile (u : UserRow) : UserRow := clearLockout u

/-- Every column but the lockout fields holds what the last of the other
operations committed. -/
def LockoutOnly (w : World) : Prop := w.users.map profile = w.others.map profile

instance (w : World) : Decidable (LockoutOnly w) := inferInstanceAs (Decidable (_ = _))

/-- The row that a login is about to re-read is, lockout fields apart, as the
login read it. -/
def Unmoved (w : World) : Call → Prop
  | .loginSaving entity _ => ∀ row ∈ get UserRow.id entity.id w.users, profile row = profile entity
  | _ => True

instance (w : World) : ∀ call, Decidable (Unmoved w call)
  | .loginSaving entity _ =>
      inferInstanceAs (Decidable (∀ row ∈ get UserRow.id entity.id w.users, _))
  | .ended _ | .checking .. | .loginWriting .. | .issuing _ | .revokingFamily _ | .rotateSaving _
  | .rotateWriting .. | .rotating _ | .hashing _ | .resetting .. | .profileSaving _
  | .profileWriting .. => isTrue trivial

/-- Every re-read of a login finds the row so. -/
def Undisturbed (w : World) : Action → Prop
  | .step i _ => ∀ call ∈ w.calls[i]?, Unmoved w call
  | _ => True

instance (w : World) : ∀ a, Decidable (Undisturbed w a)
  | .step i _ => inferInstanceAs (Decidable (∀ call ∈ w.calls[i]?, _))
  | .tick _ | .login .. | .refresh _ | .logout _ | .confirmReset _ | .setStatus .. | .verifyEmail _
  | .updateMine .. => isTrue trivial

/-! ## Saves -/

/-- Where the entity agrees with the re-read row, the save leaves the columns alone. -/
theorem profile_saveUser {entity row : UserRow} (h : profile row = profile entity)
    (current : UserRow) : profile (saveUser entity row current) = profile current := by
  simp only [profile, clearLockout, UserRow.mk.injEq] at h
  obtain ⟨-, hemail, hpassword, hfirst, hlast, hphone, hgoogle, hrole, hstatus, hconsent, hverified,
    -, -, hcreated⟩ := h
  simp [profile, clearLockout, saveUser, hemail, hpassword, hfirst, hlast, hphone, hgoogle, hrole,
    hstatus, hconsent, hverified, hcreated]

/-- Written at once after a re-read that differs, it puts back what the login read. -/
theorem saveUser_current {entity row : UserRow} (h : entity.id = row.id) :
    saveUser entity row row = entity := by
  simp [saveUser, ← h]

/-! ## The invariant -/

/-- A login past its re-read found the row as it had read it. -/
def Faithful : Call → Prop
  | .loginWriting entity row _ => profile row = profile entity
  | _ => True

structure Kept (w : World) : Prop where
  lockoutOnly : LockoutOnly w
  faithful : ∀ call ∈ w.calls, Faithful call

variable {c : Crypto} {w w' : World} {i : Nat} {call : Call}

theorem Kept.begin (hw : Kept w) (hcall : Faithful call) : Kept (begin w call) := by
  refine ⟨hw.lockoutOnly, ?_⟩
  intro other hother
  rcases List.mem_append.mp hother with hother | hother
  · exact hw.faithful other hother
  · rw [List.mem_singleton.mp hother]
    exact hcall

/-- Users and calls, whatever else the step writes. -/
theorem Kept.move (hw : Kept w) (call : Call) (hcall : Faithful call)
    (hcalls : w'.calls = w.calls.set i call) (husers : LockoutOnly w') : Kept w' := by
  refine ⟨husers, ?_⟩
  intro other hother
  rw [hcalls] at hother
  rcases Holders.mem_set hother with rfl | hother
  · exact hcall
  · exact hw.faithful other hother

theorem Kept.proceed (hw : Kept w) (hcall : Faithful call) : Kept (proceed w i call) :=
  hw.move call hcall rfl hw.lockoutOnly

theorem faithful_ended (answer : Answer) : Faithful (.ended answer) := trivial

theorem Kept.createSession (hw : Kept w) (userId familyId : Nat) (rawToken : String)
    (granted : Option String) : Kept (createSession c w i userId familyId rawToken granted) := by
  unfold Identity.createSession
  split
  · exact hw.proceed trivial
  · exact hw.move (.ended .done) trivial rfl hw.lockoutOnly

theorem Kept.statement (hw : Kept w) (drawn : String) (hcall : call ∈ w.calls)
    (hread : Unmoved w call) : Kept (statement c w i drawn call) := by
  cases call with
  | ended _ => exact hw
  | checking user password passwordHash =>
      refine hw.proceed ?_
      exact checkPassword_cases Faithful faithful_ended (fun _ _ => trivial)
        (fun _ => trivial) _ _ _
  | loginSaving entity valid =>
      simp only [Identity.statement]
      split
      · exact hw
      · next row hrow => exact hw.proceed (hread row hrow)
  | loginWriting entity row valid =>
      have hrow : profile row = profile entity := hw.faithful _ hcall
      refine hw.move (if valid then afterLogin entity else .ended .invalidCredentials) ?_ rfl ?_
      · split
        · exact afterLogin_cases Faithful faithful_ended (fun _ => trivial) entity
        · trivial
      · refine Eq.trans ?_ hw.lockoutOnly
        exact map_update fun current _ _ => profile_saveUser hrow current
  | issuing user => exact hw.createSession _ _ _ _
  | revokingFamily familyId =>
      exact hw.move (.ended .invalidRefreshToken) trivial rfl hw.lockoutOnly
  | rotateSaving stored =>
      simp only [Identity.statement]
      split
      · exact hw
      · exact hw.proceed trivial
  | rotateWriting stored row => exact hw.move (.rotating stored) trivial rfl hw.lockoutOnly
  | rotating stored => exact hw.createSession _ _ _ _
  | hashing stored => exact hw.proceed trivial
  | resetting stored passwordHash revokedAt seen => exact hw.move (.ended .done) trivial rfl rfl
  | profileSaving entity =>
      simp only [Identity.statement]
      split
      · exact hw
      · exact hw.proceed trivial
  | profileWriting entity row => exact hw.move (.ended .done) trivial rfl rfl

/-- **Every action** does, as long as a login's re-read finds the row as it was. -/
theorem Kept.step (hw : Kept w) {a : Action} (ha : Undisturbed w a) : Kept (exec c w a) := by
  cases a with
  | tick ms => exact ⟨hw.lockoutOnly, hw.faithful⟩
  | login email password =>
      exact hw.begin (readLogin_cases Faithful faithful_ended (fun _ _ _ => trivial)
        w email password)
  | refresh rawToken =>
      exact hw.begin (readRefresh_cases c Faithful faithful_ended (fun _ => trivial)
        (fun _ => trivial) w rawToken)
  | logout rawToken =>
      simp only [exec]
      split
      · exact hw
      · exact ⟨hw.lockoutOnly, hw.faithful⟩
  | confirmReset rawToken =>
      exact hw.begin (readReset_cases c Faithful faithful_ended (fun _ => trivial) w rawToken)
  | setStatus userId status => exact ⟨rfl, hw.faithful⟩
  | verifyEmail rawToken =>
      simp only [exec]
      split
      · exact hw
      · exact ⟨rfl, hw.faithful⟩
  | updateMine userId phone =>
      exact hw.begin (readProfile_cases Faithful faithful_ended (fun _ => trivial) w userId phone)
  | step i drawn =>
      simp only [exec]
      split
      · exact hw
      · next call hcall => exact hw.statement drawn (List.mem_of_getElem? hcall) (ha call hcall)

/-- **A login writes only the lockout fields** in every run in which no login's
save re-reads a row that has moved on since the login read it. -/
theorem login_writes_lockout_only (c : Crypto) (w : World) (as : List Action)
    (hcalls : w.calls = []) (hothers : w.others = w.users)
    (h : Runs.Meets (exec c) Undisturbed w as) : Runs.Always (exec c) LockoutOnly w as := by
  have hw : Kept w := by
    refine ⟨by rw [LockoutOnly, hothers], ?_⟩
    rw [hcalls]
    exact fun call hcall => absurd hcall List.not_mem_nil
  exact (Runs.always_of_meets (fun _ _ hw ha => hw.step ha) hw h).mono fun _ hw => hw.lockoutOnly

/-- A login that writes what it has just re-read otherwise undoes it. -/
theorem stale_save_undoes (c : Crypto) {entity row : UserRow} {valid : Bool}
    (hw : LockoutOnly w) (hcall : w.calls[i]? = some (.loginSaving entity valid))
    (hrow : get UserRow.id entity.id w.users = some row) (hstale : profile row ≠ profile entity)
    (drawn drawn' : String) :
    ¬ LockoutOnly (exec c (exec c w (.step i drawn)) (.step i drawn')) := by
  obtain ⟨hmem, hid⟩ := get_some hrow
  have hreread : exec c w (.step i drawn) = proceed w i (.loginWriting entity row valid) := by
    simp [exec, hcall, statement, hrow]
  have hnext : (proceed w i (.loginWriting entity row valid)).calls[i]?
      = some (.loginWriting entity row valid) := by
    obtain ⟨hi, -⟩ := List.getElem?_eq_some_iff.mp hcall
    simp [proceed, hi]
  intro hafter
  rw [hreread, exec, hnext] at hafter
  have hmap :
      (w.users.map fun u => if u.id = entity.id then saveUser entity row u else u).map profile
      = w.users.map profile := by
    have husers := hafter.trans hw.symm
    simpa [statement, update, proceed] using husers
  rw [List.map_map] at hmap
  have hback := List.map_inj_left.mp hmap row hmem
  simp only [Function.comp, hid, if_true, saveUser_current hid.symm] at hback
  exact hstale hback.symm

/-! ## A login in flight -/

/-- A reset and a wrong guess, one after the other; the guess counts. -/
def demoLogin : List Action :=
  [.confirmReset "link", .step 0 "new", .step 0 "", .login "ada@x" "old", .step 1 "", .step 1 "",
    .step 1 ""]

theorem demo_lockout_only : Runs.Always (exec demoCrypto) LockoutOnly demoWorld demoLogin :=
  login_writes_lockout_only demoCrypto demoWorld demoLogin rfl rfl (by decide +kernel)

/-- The wrong guess reads the user first; the reset and a suspension commit
before its save re-reads. -/
def staleLogin : List Action :=
  [.login "ada@x" "guess", .confirmReset "link", .step 1 "new", .step 1 "", .setStatus 1 .suspended,
    .step 0 "", .step 0 "", .step 0 ""]

/-- Once both have finished the old password is back, and the account active again. -/
theorem staleLogin_undoes_reset :
    (Runs.run (exec demoCrypto) demoWorld (staleLogin.take 5)).users.map
        (fun u => (u.passwordHash, u.status)) = [(some "new", .suspended)] ∧
      (Runs.run (exec demoCrypto) demoWorld staleLogin).users.map
        (fun u => (u.passwordHash, u.status)) = [(some "old", .active)] ∧
      (Runs.run (exec demoCrypto) demoWorld staleLogin).calls
        = [.ended .invalidCredentials, .ended .done] ∧
      ¬ LockoutOnly (Runs.run (exec demoCrypto) demoWorld staleLogin) := by
  refine ⟨?_, ?_, ?_, ?_⟩ <;> decide +kernel

end Locoomo.Logins
