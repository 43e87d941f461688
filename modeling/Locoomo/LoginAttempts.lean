import Locoomo.Logins

/-! Guesses at one account. A login counts a wrong password on the user it has
read, and saves that; another login that reads in between counts from the same
number. The lockout counts every guess when no login reads while another one has
still to write. -/

namespace Locoomo.LoginAttempts

open Locoomo.Identity Relational

/-! ## Runs of wrong logins -/

/-- Logins to one account, none of them with its password, and the clock. -/
def IsWrong (c : Crypto) (email passwordHash : String) : Action → Prop
  | .login e password => e = email ∧ c.verifyPassword password passwordHash = false
  | .step .. | .tick _ => True
  | _ => False

abbrev Wrong (c : Crypto) (email passwordHash : String) : Type :=
  { a : Action // IsWrong c email passwordHash a }

/-- The logins that got past their read, and the passwords checked, beside the world. -/
structure Watch where
  world : World
  reads : Nat
  checked : Nat

def checks : Call → Bool
  | .checking .. => true
  | _ => false

def isRead (w : World) : Action → Bool
  | .login email password => checks (readLogin w email password)
  | _ => false

def isCheck (w : World) : Action → Bool
  | .step i _ => w.calls[i]?.any checks
  | _ => false

variable {c : Crypto} {email passwordHash : String}

def watch (v : Watch) (a : Wrong c email passwordHash) : Watch where
  world := exec c v.world a
  reads := v.reads + (isRead v.world a).toNat
  checked := v.checked + (isCheck v.world a).toNat

/-! ## The property -/

def account (email : String) (w : World) : Option UserRow := w.users.find? fun u => u.email = email

def isEnded : Call → Bool
  | .ended _ => true
  | _ => false

/-- When all logins have finished, every password checked is counted; and as long
as the account has not been locked, no more than the allowed number is checked. -/
def CountsEvery (email : String) (v : Watch) : Prop :=
  (v.world.calls.all isEnded = true →
    (account email v.world).map UserRow.failedLoginAttempts = some v.checked) ∧
  (((account email v.world).bind UserRow.lockedUntil) = none →
    v.checked ≤ MAX_FAILED_LOGIN_ATTEMPTS)

/-- A login that has read the user and not yet written it. -/
def inFlight (call : Call) : List Call :=
  match call with
  | .checking .. | .loginSaving .. | .loginWriting .. => [call]
  | _ => []

/-- A login gets past its read only when no other one is in flight. -/
def Alone (v : Watch) (a : Wrong c email passwordHash) : Prop :=
  isRead v.world a = true → Holders.held inFlight v.world.calls = []

instance (v : Watch) (a : Wrong c email passwordHash) : Decidable (Alone v a) :=
  inferInstanceAs (Decidable (_ → _))

/-! ## What every run keeps -/

/-- A user entity of the account. -/
structure OfAccount (email passwordHash : String) (id : Nat) (u : UserRow) : Prop where
  id : u.id = id
  email : u.email = email
  passwordHash : u.passwordHash = some passwordHash

/-- What a login in flight is about to count. -/
def value : Call → Nat
  | .checking user _ _ => user.failedLoginAttempts + 1
  | .loginSaving entity _ | .loginWriting entity _ _ => entity.failedLoginAttempts
  | _ => 0

def Sound (c : Crypto) (email passwordHash : String) (id : Nat) : Call → Prop
  | .ended _ => True
  | .checking user password hash =>
      OfAccount email passwordHash id user ∧ c.verifyPassword password hash = false
  | .loginSaving entity valid => OfAccount email passwordHash id entity ∧ valid = false
  | .loginWriting entity row valid =>
      OfAccount email passwordHash id entity ∧ OfAccount email passwordHash id row ∧ valid = false
  | _ => False

def unchecked (call : Call) : List Call := if checks call then [call] else []

/-- `row` is the account. No login counts to more than have been read. -/
structure Inv (c : Crypto) (email passwordHash : String) (v : Watch) (row : UserRow) : Prop where
  ids : Distinct UserRow.id v.world.users
  found : account email v.world = some row
  owner : OfAccount email passwordHash row.id row
  calls : ∀ call ∈ v.world.calls, Sound c email passwordHash row.id call
  checked : v.reads = v.checked + (Holders.held unchecked v.world.calls).length
  total : row.failedLoginAttempts + (Holders.held inFlight v.world.calls).length ≤ v.reads
  values : ∀ p ∈ Holders.held inFlight v.world.calls,
    value p + (Holders.held inFlight v.world.calls).length ≤ v.reads + 1

/-- The login in flight is about to count the account one up. -/
def Fresh (row : UserRow) : Call → Prop
  | .checking user _ _ => user = row
  | .loginSaving entity _ =>
      entity.failedLoginAttempts = row.failedLoginAttempts + 1 ∧
        (MAX_FAILED_LOGIN_ATTEMPTS ≤ entity.failedLoginAttempts → entity.lockedUntil ≠ none)
  | .loginWriting entity reread _ =>
      (entity.failedLoginAttempts = row.failedLoginAttempts + 1 ∧
        (MAX_FAILED_LOGIN_ATTEMPTS ≤ entity.failedLoginAttempts → entity.lockedUntil ≠ none)) ∧
      reread = row
  | _ => False

/-- One login at a time so far. -/
structure Exact (v : Watch) (row : UserRow) : Prop where
  locked : MAX_FAILED_LOGIN_ATTEMPTS ≤ row.failedLoginAttempts → row.lockedUntil ≠ none
  counted : (Holders.held inFlight v.world.calls = [] ∧ row.failedLoginAttempts = v.reads) ∨
    ∃ p, Holders.held inFlight v.world.calls = [p] ∧ row.failedLoginAttempts + 1 = v.reads ∧
      Fresh row p

/-- A guess is lost, and stays so. -/
structure Short (v : Watch) (row : UserRow) : Prop where
  attempts : row.failedLoginAttempts < v.reads
  values : ∀ p ∈ Holders.held inFlight v.world.calls, value p < v.reads

variable {v : Watch} {row : UserRow} {i : Nat} {p q : Call}

/-! ## Reads -/

theorem readLogin_cases' (hfound : account email v.world = some row)
    (howner : OfAccount email passwordHash row.id row) (password : String) :
    (∃ answer, readLogin v.world email password = .ended answer) ∨
      readLogin v.world email password = .checking row password passwordHash := by
  unfold readLogin
  have hfind : v.world.users.find? (fun u => u.email = email) = some row := hfound
  rw [hfind]
  simp only
  split
  · exact Or.inl ⟨_, rfl⟩
  · next hash hhash =>
      obtain ⟨hsome, -⟩ := Option.filter_eq_some_iff.mp hhash
      obtain rfl : passwordHash = hash := Option.some.inj (howner.passwordHash.symm.trans hsome)
      split
      · exact Or.inl ⟨_, rfl⟩
      · exact Or.inr rfl

/-! ## Steps -/

/-- What a step does to the account and to those who count on it. -/
structure Step (v v' : Watch) (row row' : UserRow) (alone : Prop) : Prop where
  exact : Exact v row → alone → Exact v' row'
  short : Short v row ∨ ¬ alone → Short v' row'

theorem Step.of_true {v' : Watch} {row' : UserRow} {alone : Prop} (h : Step v v' row row' True)
    (halone : alone) : Step v v' row row' alone where
  exact := fun hexact _ => h.exact hexact trivial
  short := fun hshort => h.short (hshort.imp_right fun hnot => absurd halone hnot)

/-- A login is refused at its read. -/
theorem Inv.refused (hv : Inv c email passwordHash v row) (answer : Answer) :
    let v' : Watch := { v with world := begin v.world (.ended answer) }
    Inv c email passwordHash v' row ∧ Step v v' row row True := by
  intro v'
  have hflight : Holders.held inFlight v'.world.calls = Holders.held inFlight v.world.calls := by
    simp [v', Holders.held, begin, inFlight]
  have hunchecked : Holders.held unchecked v'.world.calls
      = Holders.held unchecked v.world.calls := by
    simp [v', Holders.held, begin, unchecked, checks]
  refine ⟨{ hv with calls := ?_, checked := ?_, total := ?_, values := ?_ }, ⟨?_, ?_⟩⟩
  · intro call hcall
    rcases List.mem_append.mp hcall with hcall | hcall
    · exact hv.calls call hcall
    · rw [List.mem_singleton.mp hcall]
      trivial
  · simpa only [hunchecked] using hv.checked
  · simpa only [hflight] using hv.total
  · simpa only [hflight] using hv.values
  · exact fun h _ => ⟨h.locked, by simpa only [hflight] using h.counted⟩
  · rintro (h | h)
    · exact ⟨h.attempts, by simpa only [hflight] using h.values⟩
    · exact absurd trivial h

/-- A login joins those in flight, with the account as it is. -/
theorem Inv.joins (hv : Inv c email passwordHash v row) {password : String}
    (hwrong : c.verifyPassword password passwordHash = false) :
    let p : Call := .checking row password passwordHash
    let v' : Watch := ⟨begin v.world p, v.reads + 1, v.checked⟩
    Inv c email passwordHash v' row ∧
      Step v v' row row (Holders.held inFlight v.world.calls = []) := by
  intro p v'
  have hflight : Holders.held inFlight v'.world.calls
      = Holders.held inFlight v.world.calls ++ [p] := by
    simp [v', Holders.held, begin, inFlight, p]
  have hunchecked : Holders.held unchecked v'.world.calls
      = Holders.held unchecked v.world.calls ++ [p] := by
    simp [v', Holders.held, begin, unchecked, checks, p]
  have htotal := hv.total
  refine ⟨{ ids := hv.ids, found := hv.found, owner := hv.owner, calls := ?_, checked := ?_
            total := ?_, values := ?_ }, ⟨?_, ?_⟩⟩
  · intro call hcall
    rcases List.mem_append.mp hcall with hcall | hcall
    · exact hv.calls call hcall
    · rw [List.mem_singleton.mp hcall]
      exact ⟨hv.owner, hwrong⟩
  · have hchecked := hv.checked
    simp only [hunchecked, List.length_append, List.length_singleton]
    change v.reads + 1 = v.checked + _
    omega
  · simp only [hflight, List.length_append, List.length_singleton]
    change _ ≤ v.reads + 1
    omega
  · intro q hq
    simp only [hflight, List.length_append, List.length_singleton] at hq ⊢
    change _ ≤ v.reads + 1 + 1
    rcases List.mem_append.mp hq with hq | hq
    · have hvalue := hv.values q hq
      omega
    · rw [List.mem_singleton.mp hq]
      change row.failedLoginAttempts + 1 + _ ≤ _
      omega
  · intro h hnone
    refine ⟨h.locked, Or.inr ⟨p, ?_, ?_, rfl⟩⟩
    · simp only [hflight, hnone, List.nil_append]
    · rcases h.counted with ⟨-, heq⟩ | ⟨q, hq, -⟩
      · exact congrArg (· + 1) heq
      · rw [hnone] at hq
        cases hq
  · -- one was in flight already: it and this one count to the same number at most
    intro h
    have hpast : row.failedLoginAttempts < v.reads ∨
        0 < (Holders.held inFlight v.world.calls).length := by
      rcases h with h | h
      · exact Or.inl h.attempts
      · exact Or.inr (List.length_pos_of_ne_nil h)
    refine ⟨?_, ?_⟩
    · change row.failedLoginAttempts < v.reads + 1
      omega
    · intro q hq
      rw [hflight] at hq
      change value q < v.reads + 1
      rcases List.mem_append.mp hq with hq | hq
      · have hvalue := hv.values q hq
        have hlength := List.length_pos_of_mem hq
        omega
      · rw [List.mem_singleton.mp hq]
        change row.failedLoginAttempts + 1 < _
        omega

/-- A login is refused, or joins those in flight. -/
theorem Inv.login (hv : Inv c email passwordHash v row) {password : String}
    (hwrong : c.verifyPassword password passwordHash = false) :
    let a : Wrong c email passwordHash := ⟨.login email password, rfl, hwrong⟩
    Inv c email passwordHash (watch v a) row ∧ Step v (watch v a) row row (Alone v a) := by
  intro a
  rcases readLogin_cases' hv.found hv.owner password with ⟨answer, hread⟩ | hread
  · have hstay : watch v a = { v with world := begin v.world (.ended answer) } := by
      simp [watch, a, exec, isRead, isCheck, hread, checks]
    have halone : Alone v a := by simp [Alone, a, isRead, hread, checks]
    obtain ⟨hinv, hstep⟩ := hv.refused answer
    rw [hstay]
    exact ⟨hinv, hstep.of_true halone⟩
  · have hjoin : watch v a =
        ⟨begin v.world (.checking row password passwordHash), v.reads + 1, v.checked⟩ := by
      simp [watch, a, exec, isRead, isCheck, hread, checks]
    have halone : Alone v a = (Holders.held inFlight v.world.calls = []) := by
      simp [Alone, a, isRead, hread, checks]
    rw [hjoin, halone]
    exact hv.joins hwrong

/-- A login in flight takes a statement that writes nothing. -/
theorem Inv.progress (hv : Inv c email passwordHash v row) (hp : v.world.calls[i]? = some p)
    (hinFlight : inFlight p = [p]) (hinFlight' : inFlight q = [q])
    (hsound : Sound c email passwordHash row.id q) (hvalue : value q = value p)
    (hchecks : checks q = false) (hfresh : Fresh row p → Fresh row q) :
    let v' : Watch := ⟨proceed v.world i q, v.reads, v.checked + (checks p).toNat⟩
    Inv c email passwordHash v' row ∧ Step v v' row row True := by
  intro v'
  obtain ⟨rest, hbefore, hafter⟩ := Holders.held_set inFlight hp
  obtain ⟨others, hunchecked, hunchecked'⟩ := Holders.held_set unchecked hp
  rw [hinFlight] at hbefore
  have hafter' : (Holders.held inFlight v'.world.calls).Perm ([q] ++ rest) := hinFlight' ▸ hafter q
  have hothers : (Holders.held unchecked v'.world.calls).Perm (unchecked q ++ others) :=
    hunchecked' q
  have hlength : (Holders.held inFlight v'.world.calls).length
      = (Holders.held inFlight v.world.calls).length := by
    rw [hbefore.length_eq, hafter'.length_eq]
    simp
  have hvalues : ∀ x ∈ Holders.held inFlight v'.world.calls,
      ∃ y ∈ Holders.held inFlight v.world.calls, value x = value y := by
    intro x hx
    rcases List.mem_append.mp (hafter'.mem_iff.mp hx) with hx | hx
    · rw [List.mem_singleton.mp hx]
      exact ⟨p, hbefore.mem_iff.mpr (List.mem_append_left _ (List.mem_singleton.mpr rfl)), hvalue⟩
    · exact ⟨x, hbefore.mem_iff.mpr (List.mem_append_right _ hx), rfl⟩
  refine ⟨{ hv with calls := ?_, checked := ?_, total := ?_, values := ?_ }, ⟨?_, ?_⟩⟩
  · intro call hcall
    rcases Holders.mem_set hcall with rfl | hcall
    · exact hsound
    · exact hv.calls call hcall
  · have hchecked := hv.checked
    rw [hunchecked.length_eq] at hchecked
    change v.reads = v.checked + (checks p).toNat + _
    rw [hothers.length_eq]
    cases hp' : checks p <;> simp [unchecked, hp', hchecks] at hchecked ⊢ <;> omega
  · rw [hlength]
    exact hv.total
  · intro x hx
    obtain ⟨y, hy, heq⟩ := hvalues x hx
    rw [hlength, heq]
    exact hv.values y hy
  · intro h _
    refine ⟨h.locked, ?_⟩
    rcases h.counted with ⟨hnil, -⟩ | ⟨x, hx, hcount, hfresh'⟩
    · rw [hnil] at hbefore
      exact absurd hbefore.length_eq (by simp)
    · rw [hx] at hbefore
      have hsingle : [p] ++ rest = [x] := List.perm_singleton.mp hbefore.symm
      obtain ⟨rfl, rfl⟩ : p = x ∧ rest = [] := by simpa using hsingle
      exact Or.inr ⟨q, List.perm_singleton.mp hafter', hcount, hfresh hfresh'⟩
  · rintro (h | h)
    · refine ⟨h.attempts, fun x hx => ?_⟩
      obtain ⟨y, hy, heq⟩ := hvalues x hx
      rw [heq]
      exact h.values y hy
    · exact absurd trivial h

theorem OfAccount.saveUser_email {id : Nat} {entity reread : UserRow}
    (hentity : OfAccount email passwordHash id entity)
    (hreread : OfAccount email passwordHash id reread) (u : UserRow) :
    (Identity.saveUser entity reread u).email = u.email := by
  simp [Identity.saveUser, hentity.email, hreread.email]

/-- A save keeps the address and the password. -/
theorem OfAccount.saveUser {id : Nat} {entity reread u : UserRow}
    (hentity : OfAccount email passwordHash id entity)
    (hreread : OfAccount email passwordHash id reread)
    (hu : OfAccount email passwordHash id u) :
    OfAccount email passwordHash id (Identity.saveUser entity reread u) := by
  have hpassword : (Identity.saveUser entity reread u).passwordHash = u.passwordHash := by
    simp [Identity.saveUser, hentity.passwordHash, hreread.passwordHash]
  refine ⟨hu.id, ?_, hpassword.trans hu.passwordHash⟩
  exact (hentity.saveUser_email hreread u).trans hu.email

/-- **The write.** The count is the one of the account or the one of the entity. -/
theorem Inv.write {entity reread : UserRow} (hv : Inv c email passwordHash v row)
    (hp : v.world.calls[i]? = some (.loginWriting entity reread false)) :
    let users := update (fun u => u.id = entity.id) (saveUser entity reread) v.world.users
    let v' : Watch :=
      ⟨{ proceed v.world i (.ended .invalidCredentials) with users }, v.reads, v.checked⟩
    let row' := saveUser entity reread row
    Inv c email passwordHash v' row' ∧ Step v v' row row' True := by
  intro users v' row'
  let p : Call := .loginWriting entity reread false
  obtain ⟨hentity, hreread, -⟩ := hv.calls _ (List.mem_of_getElem? hp)
  obtain ⟨rest, hbefore, hafter⟩ := Holders.held_set inFlight hp
  obtain ⟨others, hunchecked, hunchecked'⟩ := Holders.held_set unchecked hp
  have hbefore' : (Holders.held inFlight v.world.calls).Perm (p :: rest) := hbefore
  have hafter' : (Holders.held inFlight v'.world.calls).Perm rest :=
    hafter (.ended .invalidCredentials)
  have hothers : (Holders.held unchecked v'.world.calls).Perm others :=
    hunchecked' (.ended .invalidCredentials)
  have hcount : row'.failedLoginAttempts = row.failedLoginAttempts ∨
      row'.failedLoginAttempts = value p :=
    Saves.column_eq_or entity.failedLoginAttempts _ _
  have hmem : p ∈ Holders.held inFlight v.world.calls :=
    hbefore'.mem_iff.mpr List.mem_cons_self
  have hstay : ∀ {x}, x ∈ Holders.held inFlight v'.world.calls →
      x ∈ Holders.held inFlight v.world.calls := fun hx =>
    hbefore'.mem_iff.mpr (List.mem_cons_of_mem _ (hafter'.mem_iff.mp hx))
  have hlength : (Holders.held inFlight v.world.calls).length
      = (Holders.held inFlight v'.world.calls).length + 1 := by
    rw [hbefore'.length_eq, hafter'.length_eq, List.length_cons]
  refine ⟨{ ids := hv.ids.update fun _ _ _ => rfl, found := ?_, owner := ?_, calls := ?_
            checked := ?_, total := ?_, values := ?_ }, ⟨?_, ?_⟩⟩
  · have hfound : v.world.users.find? (fun u => u.email = email) = some row := hv.found
    change users.find? _ = _
    rw [find?_update _ fun u _ _ => by rw [hentity.saveUser_email hreread], hfound]
    simp [hentity.id, row']
  · exact hentity.saveUser hreread hv.owner
  · intro call hcall
    rcases Holders.mem_set hcall with rfl | hcall
    · trivial
    · exact hv.calls call hcall
  · have hchecked := hv.checked
    rw [hunchecked.length_eq] at hchecked
    rw [hothers.length_eq]
    exact hchecked
  · have htotal := hv.total
    have hvalue := hv.values p hmem
    change row'.failedLoginAttempts + _ ≤ v.reads
    omega
  · intro x hx
    have hvalue := hv.values x (hstay hx)
    change _ ≤ v.reads + 1
    omega
  · intro h _
    rcases h.counted with ⟨hnil, -⟩ | ⟨x, hx, hone, hfresh⟩
    · rw [hnil] at hmem
      cases hmem
    · -- alone in flight: its re-read is the account as it read it
      rw [hx] at hbefore' hmem
      obtain rfl : p = x := List.mem_singleton.mp hmem
      obtain ⟨⟨hattempts, hlock⟩, rfl⟩ := hfresh
      have hrow' : row' = entity := Logins.saveUser_current hentity.id
      have hnone : Holders.held inFlight v'.world.calls = [] := by
        have hrest : rest = [] := by simpa using hbefore'.length_eq.symm
        rw [hrest] at hafter'
        exact List.perm_nil.mp hafter'
      refine ⟨hrow' ▸ hlock, Or.inl ⟨hnone, ?_⟩⟩
      rw [hrow', hattempts]
      exact hone
  · rintro (h | h)
    · refine ⟨?_, fun x hx => h.values x (hstay hx)⟩
      have hless := h.attempts
      have hvalue := h.values p hmem
      change row'.failedLoginAttempts < v.reads
      omega
    · exact absurd trivial h

theorem registerFailedAttempt_attempts (now : Nat) (user : UserRow) :
    (registerFailedAttempt now user).failedLoginAttempts = user.failedLoginAttempts + 1 := by
  unfold registerFailedAttempt
  dsimp only
  split <;> rfl

theorem registerFailedAttempt_locks {now : Nat} {user : UserRow}
    (h : MAX_FAILED_LOGIN_ATTEMPTS ≤ (registerFailedAttempt now user).failedLoginAttempts) :
    (registerFailedAttempt now user).lockedUntil ≠ none := by
  rw [registerFailedAttempt_attempts] at h
  simp [registerFailedAttempt, h]

theorem OfAccount.registerFailedAttempt {id now : Nat} {user : UserRow}
    (h : OfAccount email passwordHash id user) :
    OfAccount email passwordHash id (registerFailedAttempt now user) := by
  unfold Identity.registerFailedAttempt
  dsimp only
  split <;> exact ⟨h.id, h.email, h.passwordHash⟩

/-- The password is found wrong, and counted on the entity. -/
theorem Inv.check {user : UserRow} {password hash drawn : String}
    (hv : Inv c email passwordHash v row)
    (hp : v.world.calls[i]? = some (.checking user password hash)) :
    let v' : Watch :=
      ⟨statement c v.world i drawn (.checking user password hash), v.reads, v.checked + 1⟩
    Inv c email passwordHash v' row ∧ Step v v' row row True := by
  obtain ⟨howner, hwrong⟩ := hv.calls _ (List.mem_of_getElem? hp)
  let q : Call := .loginSaving (registerFailedAttempt v.world.now user) false
  have hguess : checkPassword v.world.now user (c.verifyPassword password hash) = q := by
    simp [checkPassword, hwrong, q]
  have hsound : Sound c email passwordHash row.id q := ⟨howner.registerFailedAttempt, rfl⟩
  have hcount := registerFailedAttempt_attempts v.world.now user
  have hfresh : Fresh row (.checking user password hash) → Fresh row q := by
    intro (h : user = row)
    exact ⟨h ▸ hcount, registerFailedAttempt_locks⟩
  simp only [statement, hguess]
  exact hv.progress hp rfl rfl hsound hcount rfl hfresh

theorem Step.refl (v : Watch) (row : UserRow) : Step v v row row True where
  exact := fun h _ => h
  short := fun h => h.resolve_right fun hnot => hnot trivial

/-- **Every step** of a run of wrong logins. -/
theorem Inv.step (hv : Inv c email passwordHash v row) (a : Wrong c email passwordHash) :
    ∃ row', Inv c email passwordHash (watch v a) row' ∧
      Step v (watch v a) row row' (Alone v a) := by
  obtain ⟨a, ha⟩ := a
  cases a with
  | tick ms =>
      refine ⟨row, { hv with }, ⟨fun h _ => ⟨h.locked, h.counted⟩, fun h => ?_⟩⟩
      rcases h with h | h
      · exact ⟨h.attempts, h.values⟩
      · exact absurd (fun hread => by cases hread) h
  | login e password =>
      obtain ⟨rfl, hwrong⟩ := ha
      exact ⟨row, hv.login hwrong⟩
  | step i drawn =>
      have halone : Alone v ⟨.step i drawn, ha⟩ := fun hread => by cases hread
      cases hcall : v.world.calls[i]? with
      | none =>
          have hstay : watch v ⟨.step i drawn, ha⟩ = v := by
            simp [watch, exec, isRead, isCheck, hcall]
          rw [hstay]
          exact ⟨row, hv, (Step.refl v row).of_true halone⟩
      | some call =>
          have hnext : watch v ⟨.step i drawn, ha⟩ =
              ⟨statement c v.world i drawn call, v.reads, v.checked + (checks call).toNat⟩ := by
            simp [watch, exec, isRead, isCheck, hcall]
          have hsound := hv.calls call (List.mem_of_getElem? hcall)
          rw [hnext]
          cases call with
          | ended answer => exact ⟨row, hv, (Step.refl v row).of_true halone⟩
          | checking user password hash =>
              obtain ⟨hv', hstep⟩ := hv.check hcall
              exact ⟨row, hv', hstep.of_true halone⟩
          | loginSaving entity valid =>
              obtain ⟨howner, rfl⟩ := hsound
              have hreread : get UserRow.id entity.id v.world.users = some row := by
                have hmem : row ∈ v.world.users := List.mem_of_find?_eq_some hv.found
                rw [howner.id]
                exact hv.ids.get_eq hmem
              simp only [statement, hreread]
              obtain ⟨hv', hstep⟩ := hv.progress (q := .loginWriting entity row false) hcall rfl rfl
                ⟨howner, hv.owner, rfl⟩ rfl rfl (fun h => ⟨h, rfl⟩)
              exact ⟨row, hv', hstep.of_true halone⟩
          | loginWriting entity reread valid =>
              obtain ⟨-, -, rfl⟩ := hsound
              obtain ⟨hv', hstep⟩ := hv.write hcall
              exact ⟨saveUser entity reread row, hv', hstep.of_true halone⟩
          | issuing | revokingFamily | rotateSaving | rotateWriting | rotating | hashing | resetting
          | profileSaving | profileWriting => exact hsound.elim
  | refresh | logout | confirmReset | setStatus | verifyEmail | updateMine => exact ha.elim

/-! ## Runs -/

/-- Nobody is in flight once all have ended. -/
theorem held_of_ended {α : Type} {hands : Call → List α}
    (hhands : ∀ answer, hands (.ended answer) = []) {calls : List Call}
    (h : calls.all isEnded = true) : Holders.held hands calls = [] := by
  rw [Holders.held, List.flatMap_eq_nil_iff]
  intro call hcall
  have hended := List.all_eq_true.mp h call hcall
  cases call with
  | ended answer => exact hhands answer
  | _ => cases hended

/-- All that have been read are checked. -/
theorem Inv.checked_of_ended (hv : Inv c email passwordHash v row)
    (h : v.world.calls.all isEnded = true) : v.checked = v.reads := by
  have hchecked := hv.checked
  rw [held_of_ended (fun _ => rfl) h] at hchecked
  exact hchecked.symm

theorem Exact.countsEvery (hv : Inv c email passwordHash v row) (h : Exact v row) :
    CountsEvery email v := by
  have hchecked := hv.checked
  constructor
  · intro hended
    rw [hv.found, hv.checked_of_ended hended]
    rcases h.counted with ⟨-, hcount⟩ | ⟨p, hp, -⟩
    · simp [hcount]
    · rw [held_of_ended (fun _ => rfl) hended] at hp
      cases hp
  · intro hunlocked
    rw [hv.found] at hunlocked
    have hfew : row.failedLoginAttempts < MAX_FAILED_LOGIN_ATTEMPTS :=
      Nat.lt_of_not_le fun hmax => h.locked hmax hunlocked
    rcases h.counted with ⟨-, hcount⟩ | ⟨p, -, hcount, -⟩ <;> omega

theorem Short.not_countsEvery (hv : Inv c email passwordHash v row) (h : Short v row)
    (hended : v.world.calls.all isEnded = true) : ¬ CountsEvery email v := by
  intro hcounts
  have hcount := hcounts.1 hended
  rw [hv.found, hv.checked_of_ended hended] at hcount
  exact Nat.ne_of_lt h.attempts (Option.some.inj hcount)

/-- A run in which one login reads beside another never makes up for it. -/
theorem meets_or_short (as : List (Wrong c email passwordHash)) :
    ∀ v row, Inv c email passwordHash v row → Exact v row →
      Runs.Meets watch Alone v as ∨
        ∃ row', Inv c email passwordHash (Runs.run watch v as) row' ∧
          Short (Runs.run watch v as) row' := by
  induction as with
  | nil => exact fun _ _ _ _ => Or.inl trivial
  | cons a as ih =>
      intro v row hv h
      obtain ⟨row', hv', hstep⟩ := hv.step a
      by_cases halone : Alone v a
      · rcases ih (watch v a) row' hv' (hstep.exact h halone) with hmeets | hshort
        · exact Or.inl ⟨halone, hmeets⟩
        · exact Or.inr hshort
      · refine Or.inr (Runs.run_invariant (P := fun v => ∃ row, Inv c email passwordHash v row ∧
          Short v row) ?_ ⟨row', hv', hstep.short (Or.inr halone)⟩ as)
        rintro v a ⟨row, hv, hshort⟩
        obtain ⟨row', hv', hstep⟩ := hv.step a
        exact ⟨row', hv', hstep.short (Or.inl hshort)⟩

theorem always_countsEvery (as : List (Wrong c email passwordHash))
    (hv : Inv c email passwordHash v row) (h : Exact v row) (hmeets : Runs.Meets watch Alone v as) :
    Runs.Always watch (CountsEvery email) v as := by
  have hexact : Runs.Always watch
      (fun v => ∃ row, Inv c email passwordHash v row ∧ Exact v row) v as := by
    refine Runs.always_of_meets (fun v a hw halone => ?_) ⟨row, hv, h⟩ hmeets
    obtain ⟨row, hv, h⟩ := hw
    obtain ⟨row', hv', hstep⟩ := hv.step a
    exact ⟨row', hv', hstep.exact h halone⟩
  refine hexact.mono fun v hw => ?_
  obtain ⟨row, hv, h⟩ := hw
  exact h.countsEvery hv

/-- An account that nobody has guessed at, and no call under way. -/
structure Start (email passwordHash : String) (w : World) (user : UserRow) : Prop where
  ids : Distinct UserRow.id w.users
  found : account email w = some user
  passwordHash : user.passwordHash = some passwordHash
  attempts : user.failedLoginAttempts = 0
  unlocked : user.lockedUntil = none
  calls : w.calls = []

def start (w : World) : Watch := ⟨w, 0, 0⟩

theorem Start.inv {w : World} {user : UserRow} (h : Start email passwordHash w user) :
    Inv c email passwordHash (start w) user where
  ids := h.ids
  found := h.found
  owner := ⟨rfl, of_decide_eq_true (List.find?_some h.found :), h.passwordHash⟩
  calls := by simp [start, h.calls]
  checked := by simp [start, h.calls, Holders.held]
  total := by simp [start, h.calls, Holders.held, h.attempts]
  values := by simp [start, h.calls, Holders.held]

theorem Start.exact {w : World} {user : UserRow} (h : Start email passwordHash w user) :
    Exact (start w) user where
  locked := by simp [h.attempts, MAX_FAILED_LOGIN_ATTEMPTS]
  counted := Or.inl ⟨by simp [start, h.calls, Holders.held], h.attempts⟩

/-- However the logins of a run of wrong passwords interleave: when all have
finished every guess is counted, and at most five were made before the account was
locked, just when none read the user while another had still to write it. -/
theorem lockout_counts_iff {w : World} {user : UserRow} (h : Start email passwordHash w user)
    (as : List (Wrong c email passwordHash))
    (hended : (Runs.run watch (start w) as).world.calls.all isEnded = true) :
    Runs.Always watch (CountsEvery email) (start w) as ↔ Runs.Meets watch Alone (start w) as := by
  constructor
  · intro halways
    rcases meets_or_short as _ _ h.inv h.exact with hmeets | ⟨row, hv, hshort⟩
    · exact hmeets
    · exact absurd halways.last (hshort.not_countsEvery hv hended)
  · exact always_countsEvery as h.inv h.exact

/-! ## Guesses side by side -/

theorem demoWorld_start : Start "ada@x" "old" demoWorld demoUser :=
  ⟨by decide, by decide, rfl, rfl, rfl, rfl⟩

/-- One guess after another. -/
def guess (i : Nat) : List (Wrong demoCrypto "ada@x" "old") :=
  [⟨.login "ada@x" "guess", rfl, rfl⟩, ⟨.step i "", trivial⟩, ⟨.step i "", trivial⟩,
    ⟨.step i "", trivial⟩]

/-- The fifth locks the account, and the sixth is refused. -/
theorem demo_lockout_counts :
    Runs.Always watch (CountsEvery "ada@x") (start demoWorld)
      ((List.range 6).flatMap guess) :=
  (lockout_counts_iff demoWorld_start _ (by decide +kernel)).mpr (by decide +kernel)

/-- Six guesses read the user before any of them writes: all are checked, and one
is counted. -/
theorem side_by_side_guesses_count_once :
    ¬ ∀ (c : Crypto) (email passwordHash : String) (w : World) (user : UserRow)
      (as : List (Wrong c email passwordHash)), Start email passwordHash w user →
      Runs.Always watch (CountsEvery email) (start w) as := by
  intro h
  have hrun := (h demoCrypto "ada@x" "old" demoWorld demoUser
    (List.replicate 6 ⟨.login "ada@x" "guess", rfl, rfl⟩ ++
      (List.range 6).map fun i => ⟨.step i "", trivial⟩) demoWorld_start).last
  have hunlocked := hrun.2 (by decide +kernel)
  exact absurd hunlocked (by decide +kernel)

end Locoomo.LoginAttempts
