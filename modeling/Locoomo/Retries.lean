import Locoomo.Lib.Doubles

/-! Calls to third-party APIs with bounded retries: which answer comes back, how
many calls are made, and how long the waits between them are. -/

namespace Locoomo.Retries

open Double

/-! ## The policy -/

structure FetchPolicy where
  retries : Option Nat := none
  baseDelayMs : Option Double := none
  maxDelayMs : Option Double := none

def DEFAULT_BASE_DELAY_MS : Double := fin 500
def DEFAULT_MAX_DELAY_MS : Double := fin 5000

def FetchPolicy.retryCount (policy : FetchPolicy) : Nat := policy.retries.getD 0

def FetchPolicy.base (policy : FetchPolicy) : Double :=
  policy.baseDelayMs.getD DEFAULT_BASE_DELAY_MS

def FetchPolicy.maximum (policy : FetchPolicy) : Double :=
  policy.maxDelayMs.getD DEFAULT_MAX_DELAY_MS

def RETRYABLE_STATUSES : List Nat := [408, 429, 500, 502, 503, 504]

/-- A status and a `Retry-After` header. -/
structure Response where
  status : Nat
  retryAfter : Option String

/-- What `fetch` ends with: a network failure or a timeout is thrown. -/
inductive Outcome (ε : Type)
  | failed (error : ε)
  | answered (response : Response)

/-- `Number`, `Date.parse` (`none` when it is `NaN`), `Date.now` after each attempt,
and the rounding of the arithmetic. -/
structure Builtins where
  number : String → Double
  parseDate : String → Option Int
  now : Nat → Int
  rounding : Rounding

variable {ε : Type}

def Retryable : Outcome ε → Prop
  | .failed _ => True
  | .answered response => response.status ∈ RETRYABLE_STATUSES

instance : ∀ outcome : Outcome ε, Decidable (Retryable outcome)
  | .failed _ => isTrue trivial
  | .answered response => inferInstanceAs (Decidable (response.status ∈ RETRYABLE_STATUSES))

/-- Seconds or a date; a header that is neither asks for nothing. -/
def parseRetryAfterMs (b : Builtins) (attempt : Nat) (header : Option String) : Option Double :=
  match header with
  | none | some "" => none
  | some header =>
      let seconds := b.number header
      if seconds.isFinite then some (Double.max (fin 0) (mul b.rounding seconds (fin 1000)))
      else (b.parseDate header).map fun date =>
        Double.max (fin 0) (b.rounding.round (date - b.now attempt))

/-! ## The loop -/

/-- The calls made, the waits between them, and the outcome returned or thrown. -/
structure Run (ε : Type) where
  calls : Nat
  waits : List Double
  outcome : Outcome ε

def backoff (b : Builtins) (policy : FetchPolicy) (attempt : Nat) : Double :=
  mul b.rounding policy.base (twoPow attempt)

/-- `await sleep(…); continue`. -/
def sleepThen (wait : Double) (rest : Option (Run ε)) : Option (Run ε) :=
  rest.map fun run => ⟨run.calls + 1, wait :: run.waits, run.outcome⟩

/-- `for (let attempt = 0; ; attempt++)`, from an attempt on; no result when the
fuel runs out. -/
def loop (b : Builtins) (policy : FetchPolicy) (outcomes : Nat → Outcome ε) :
    Nat → Nat → Option (Run ε)
  | 0, _ => none
  | fuel + 1, attempt =>
      let isLastAttempt := policy.retryCount ≤ attempt
      match outcomes attempt with
      | .failed error =>
          if isLastAttempt then some ⟨1, [], .failed error⟩
          else sleepThen (Double.min (backoff b policy attempt) policy.maximum)
            (loop b policy outcomes fuel (attempt + 1))
      | .answered response =>
          if isLastAttempt ∨ response.status ∉ RETRYABLE_STATUSES then
            some ⟨1, [], .answered response⟩
          else
            let retryAfterMs := parseRetryAfterMs b attempt response.retryAfter
            sleepThen (Double.min (retryAfterMs.getD (backoff b policy attempt)) policy.maximum)
              (loop b policy outcomes fuel (attempt + 1))

def fetchWithPolicy (b : Builtins) (policy : FetchPolicy) (outcomes : Nat → Outcome ε)
    (fuel : Nat) : Option (Run ε) := loop b policy outcomes fuel 0

/-! ## Every sequence of outcomes -/

/-- The delay a header asks for, if the attempt was answered. -/
def retryAfterMs (b : Builtins) (attempt : Nat) : Outcome ε → Option Double
  | .failed _ => none
  | .answered response => parseRetryAfterMs b attempt response.retryAfter

def delay (b : Builtins) (policy : FetchPolicy) (outcomes : Nat → Outcome ε) (attempt : Nat) :
    Double :=
  Double.min ((retryAfterMs b attempt (outcomes attempt)).getD (backoff b policy attempt))
    policy.maximum

/-- The attempt is the last one allowed, or its outcome is not worth another. -/
def Settles (policy : FetchPolicy) (outcomes : Nat → Outcome ε) (attempt : Nat) : Prop :=
  policy.retryCount ≤ attempt ∨ ¬ Retryable (outcomes attempt)

instance (policy : FetchPolicy) (outcomes : Nat → Outcome ε) :
    DecidablePred (Settles policy outcomes) :=
  fun attempt => inferInstanceAs (Decidable (_ ∨ ¬ Retryable (outcomes attempt)))

variable {b : Builtins} {policy : FetchPolicy} {outcomes : Nat → Outcome ε} {fuel attempt n : Nat}

theorem loop_settled (h : Settles policy outcomes attempt) :
    loop b policy outcomes (fuel + 1) attempt = some ⟨1, [], outcomes attempt⟩ := by
  rw [loop]
  cases ho : outcomes attempt with
  | failed error =>
      have hlast : policy.retryCount ≤ attempt := by simpa [Settles, ho, Retryable] using h
      simp [hlast]
  | answered response =>
      have hstop : policy.retryCount ≤ attempt ∨ response.status ∉ RETRYABLE_STATUSES := by
        simpa [Settles, ho, Retryable] using h
      simp [hstop]

theorem loop_unsettled (h : ¬ Settles policy outcomes attempt) :
    loop b policy outcomes (fuel + 1) attempt =
      sleepThen (delay b policy outcomes attempt) (loop b policy outcomes fuel (attempt + 1)) := by
  rw [loop]
  cases ho : outcomes attempt with
  | failed error =>
      have hlast : ¬ policy.retryCount ≤ attempt := by simpa [Settles, ho, Retryable] using h
      simp [hlast, delay, ho, retryAfterMs]
  | answered response =>
      have hgo : ¬ (policy.retryCount ≤ attempt ∨ response.status ∉ RETRYABLE_STATUSES) := by
        simpa [Settles, ho, Retryable] using h
      simp only [hgo, if_false, delay, ho, retryAfterMs]

/-- The loop ends at the first attempt that settles, and has slept after each before it. -/
theorem loop_eq (hbefore : ∀ j < n, ¬ Settles policy outcomes (attempt + j))
    (hsettles : Settles policy outcomes (attempt + n)) (hfuel : n < fuel) :
    loop b policy outcomes fuel attempt =
      some ⟨n + 1, (List.range n).map fun j => delay b policy outcomes (attempt + j),
        outcomes (attempt + n)⟩ := by
  induction n generalizing attempt fuel with
  | zero =>
      obtain ⟨fuel, rfl⟩ := Nat.exists_eq_succ_of_ne_zero (by omega : fuel ≠ 0)
      exact loop_settled hsettles
  | succ n ih =>
      obtain ⟨fuel, rfl⟩ := Nat.exists_eq_succ_of_ne_zero (by omega : fuel ≠ 0)
      have hshift : ∀ j, attempt + 1 + j = attempt + (j + 1) := by omega
      have hfirst : ¬ Settles policy outcomes attempt := hbefore 0 (by omega)
      have hrest : loop b policy outcomes fuel (attempt + 1) =
          some ⟨n + 1, (List.range n).map fun j => delay b policy outcomes (attempt + 1 + j),
            outcomes (attempt + 1 + n)⟩ := by
        refine ih (fun j hj => ?_) ?_ (by omega)
        · rw [hshift]
          exact hbefore (j + 1) (by omega)
        · rw [hshift]
          exact hsettles
      simp only [hshift] at hrest
      rw [loop_unsettled hfirst, hrest, List.range_succ_eq_map, List.map_cons, List.map_map]
      rfl

/-- Some attempt settles, the last one allowed if none before. -/
theorem exists_first_settling (policy : FetchPolicy) (outcomes : Nat → Outcome ε) :
    ∃ n ≤ policy.retryCount, Settles policy outcomes n ∧ ∀ j < n, ¬ Settles policy outcomes j := by
  have hlast : ∃ n, Settles policy outcomes n := ⟨policy.retryCount, .inl le_rfl⟩
  refine ⟨Nat.find hlast, ?_, Nat.find_spec hlast, fun j hj => Nat.find_min hlast hj⟩
  exact Nat.find_min' hlast (.inl le_rfl)

theorem fetchWithPolicy_eq (hsettles : Settles policy outcomes n)
    (hbefore : ∀ j < n, ¬ Settles policy outcomes j) (hfuel : n < fuel) :
    fetchWithPolicy b policy outcomes fuel =
      some ⟨n + 1, (List.range n).map (delay b policy outcomes), outcomes n⟩ := by
  have hrun : loop b policy outcomes fuel 0 =
      some ⟨n + 1, (List.range n).map fun j => delay b policy outcomes (0 + j),
        outcomes (0 + n)⟩ := by
    refine loop_eq (fun j hj => ?_) ?_ hfuel
    · rw [Nat.zero_add]
      exact hbefore j hj
    · rw [Nat.zero_add]
      exact hsettles
  simp only [Nat.zero_add] at hrun
  exact hrun

/-! ## The waits -/

theorem parseRetryAfterMs_nonneg {header : Option String} {wait : Double}
    (h : parseRetryAfterMs b attempt header = some wait) : le (fin 0) wait := by
  have hzero : fin 0 ≠ nan := nofun
  unfold parseRetryAfterMs at h
  split at h
  · cases h
  · cases h
  · next header hne =>
      cases hseconds : b.number header with
      | fin seconds =>
          simp only [hseconds, isFinite, if_true, Option.some.injEq] at h
          rw [← h]
          exact le_max_left hzero (round_ne_nan _ _)
      | nan | negInf | inf =>
          simp only [hseconds, isFinite, Bool.false_eq_true, if_false, Option.map_eq_some_iff] at h
          obtain ⟨date, -, rfl⟩ := h
          exact le_max_left hzero (round_ne_nan _ _)

theorem retryAfterMs_nonneg {outcome : Outcome ε} {wait : Double}
    (h : retryAfterMs b attempt outcome = some wait) : le (fin 0) wait := by
  cases outcome with
  | failed error => cases h
  | answered response => exact parseRetryAfterMs_nonneg h

/-- A zero delay doubled past the numbers, with no header to go by. -/
def Overflows (b : Builtins) (policy : FetchPolicy) (outcomes : Nat → Outcome ε) (attempt : Nat) :
    Prop :=
  policy.base = fin 0 ∧ 1024 ≤ attempt ∧ retryAfterMs b attempt (outcomes attempt) = none

/-- **No wait is negative or longer than the maximum**, but for the overflow. -/
theorem delay_bounded (hbase : le (fin 0) policy.base) (hmax : le (fin 0) policy.maximum)
    (attempt : Nat) :
    Between (fin 0) policy.maximum (delay b policy outcomes attempt) ∨
      Overflows b policy outcomes attempt ∧ delay b policy outcomes attempt = nan := by
  have hcapped : ∀ {wait}, le (fin 0) wait →
      Between (fin 0) policy.maximum (Double.min wait policy.maximum) := fun hwait =>
    ⟨le_min hwait hmax, min_le_right (ne_nan_of_le_right hwait) (ne_nan_of_le_right hmax)⟩
  unfold delay
  cases hheader : retryAfterMs b attempt (outcomes attempt) with
  | some wait => exact .inl (hcapped (retryAfterMs_nonneg hheader))
  | none =>
      rcases mul_twoPow_nonneg hbase attempt with hwait | ⟨hzero, hlarge, hnan⟩
      · exact .inl (hcapped hwait)
      · refine .inr ⟨⟨hzero, hlarge, hheader⟩, ?_⟩
        rw [Option.getD_none, backoff, hnan, min_nan]

/-- After an attempt worth another, with one left, the loop sleeps. -/
theorem delay_mem_waits {run : Run ε} {k : Nat}
    (hrun : ∀ fuel, policy.retryCount < fuel → fetchWithPolicy b policy outcomes fuel = some run)
    (hk : k < policy.retryCount) (hretried : ∀ j ≤ k, Retryable (outcomes j)) :
    delay b policy outcomes k ∈ run.waits := by
  obtain ⟨n, hn, hsettles, hbefore⟩ := exists_first_settling policy outcomes
  have hkn : k < n := by
    by_contra hle
    rcases hsettles with hlast | hstop
    · omega
    · exact hstop (hretried n (by omega))
  have heq := (hrun (policy.retryCount + 1) (by omega)).symm.trans
    (fetchWithPolicy_eq hsettles hbefore (by omega))
  obtain rfl := Option.some.inj heq
  exact List.mem_map_of_mem (List.mem_range.mpr hkn)

/-! ## The bounds -/

/-- **The retrying fetch keeps its bounds.** -/
theorem fetch_keeps_bounds (b : Builtins) (policy : FetchPolicy) (outcomes : Nat → Outcome ε)
    (hbase : le (fin 0) policy.base) (hmax : le (fin 0) policy.maximum) :
    ∃ run, (∀ fuel, policy.retryCount < fuel →
        fetchWithPolicy b policy outcomes fuel = some run) ∧
      run.calls ≤ policy.retryCount + 1 ∧
      (∀ k ≤ policy.retryCount, (∀ j < k, Retryable (outcomes j)) → ¬ Retryable (outcomes k) →
        run.calls = k + 1 ∧ run.outcome = outcomes k) ∧
      ((∀ k ≤ policy.retryCount, Retryable (outcomes k)) →
        run.calls = policy.retryCount + 1 ∧ run.outcome = outcomes policy.retryCount) ∧
      run.waits.length + 1 = run.calls ∧
      (∀ k wait, run.waits[k]? = some wait →
        Between (fin 0) policy.maximum wait ∨ Overflows b policy outcomes k ∧ wait = nan) ∧
      (policy.retryCount = 0 → run.calls = 1 ∧ run.outcome = outcomes 0) := by
  obtain ⟨n, hn, hsettles, hbefore⟩ := exists_first_settling policy outcomes
  have hretried : ∀ j < n, Retryable (outcomes j) := by
    intro j hj
    have hj' := hbefore j hj
    simp only [Settles, not_or, not_not] at hj'
    exact hj'.2
  refine ⟨⟨n + 1, (List.range n).map (delay b policy outcomes), outcomes n⟩,
    fun fuel hfuel => fetchWithPolicy_eq hsettles hbefore (by omega), ?_, ?_, ?_, ?_, ?_, ?_⟩
  · show n + 1 ≤ policy.retryCount + 1
    omega
  · intro k hk hearlier hstop
    have hkn : k = n := by
      rcases Nat.lt_trichotomy k n with hlt | heq | hgt
      · exact absurd (hretried k hlt) hstop
      · exact heq
      · have hlast : policy.retryCount ≤ n := hsettles.resolve_right (not_not.mpr (hearlier n hgt))
        omega
    rw [hkn]
    exact ⟨rfl, rfl⟩
  · intro hall
    have hlast : policy.retryCount ≤ n := hsettles.resolve_right (not_not.mpr (hall n hn))
    obtain rfl : n = policy.retryCount := by omega
    exact ⟨rfl, rfl⟩
  · simp
  · intro k wait hwait
    obtain ⟨j, hj, rfl⟩ : ∃ j, (List.range n)[k]? = some j ∧ delay b policy outcomes j = wait := by
      simpa using hwait
    obtain rfl : k = j := by
      obtain ⟨hk, rfl⟩ := List.getElem?_eq_some_iff.mp hj
      simp
    exact delay_bounded hbase hmax k
  · intro hzero
    obtain rfl : n = 0 := by omega
    exact ⟨rfl, rfl⟩

/-- Small whole numbers, on which arithmetic is exact. -/
def demoBuiltins : Builtins where
  number header := (header.toNat?.map fun n => fin n).getD nan
  parseDate _ := none
  now _ := 0
  rounding := ⟨fin, rfl, fun h => h⟩

/-- Busy, then unreachable, then fine. -/
def demoOutcomes : Nat → Outcome String
  | 0 => .answered ⟨503, some "3"⟩
  | 1 => .failed "fetch failed"
  | _ => .answered ⟨200, none⟩

theorem demo_fetch_keeps_bounds : ∃ run,
    fetchWithPolicy demoBuiltins ⟨some 2, some (fin 1), some (fin 5)⟩ demoOutcomes 3 = some run ∧
      run.calls = 3 ∧ run.outcome = .answered ⟨200, none⟩ := by
  obtain ⟨run, hrun, -, hfirst, -⟩ := fetch_keeps_bounds demoBuiltins
    ⟨some 2, some (fin 1), some (fin 5)⟩ demoOutcomes (by decide) (by decide)
  obtain ⟨hcalls, houtcome⟩ := hfirst 2 (by decide) (by decide) (by decide)
  exact ⟨run, hrun 3 (by decide), hcalls, houtcome⟩

/-- With no delay to double, the wait after the 1025th failure is not a number. -/
theorem not_every_wait_bounded :
    ¬ ∀ (b : Builtins) (policy : FetchPolicy) (outcomes : Nat → Outcome String),
      le (fin 0) policy.base → le (fin 0) policy.maximum →
      ∃ run, (∀ fuel, policy.retryCount < fuel →
          fetchWithPolicy b policy outcomes fuel = some run) ∧
        ∀ wait ∈ run.waits, Between (fin 0) policy.maximum wait := by
  intro h
  let policy : FetchPolicy := ⟨some 1025, some (fin 0), some (fin 5)⟩
  let outcomes : Nat → Outcome String := fun _ => .failed "fetch failed"
  obtain ⟨run, hrun, hwaits⟩ := h demoBuiltins policy outcomes (by decide) (by decide)
  have hdelay : delay demoBuiltins policy outcomes 1024 = nan := by
    show Double.min (mul demoBuiltins.rounding (fin 0) (twoPow 1024)) (fin 5) = nan
    simp [twoPow, mul, min_nan]
  have hmem := delay_mem_waits hrun (k := 1024) (by decide) fun _ _ => trivial
  exact (hwaits nan (hdelay ▸ hmem)).2

end Locoomo.Retries
