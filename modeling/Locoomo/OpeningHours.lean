import Mathlib.Algebra.Order.Ring.Int
import Locoomo.Edits
import Locoomo.Lib.Spans

/-! The weekly opening hours of a Node: what the validation of a request accepts,
and whether the Node is open at an instant. -/

namespace Locoomo.OpeningHours

open Locoomo.Edits Spans

/-! ## Values -/

/-- What a request's body holds; an object lists its own keys in order. -/
inductive Json
  | null
  | bool (b : Bool)
  | num (n : ℚ)
  | str (s : String)
  | arr (items : List Json)
  | obj (entries : List (String × Json))

/-- `value[key]`, for the keys this module asks for. -/
def Json.get (key : String) : Json → Option Json
  | .obj entries => entries.lookup key
  | _ => none

/-- `typeof value === 'object' && value !== null`. -/
def Json.isObject : Json → Bool
  | .arr _ | .obj _ => true
  | _ => false

/-- `Object.keys(rest)`, once `open` and `close` are taken out. -/
def restKeys : Json → List String
  | .obj entries => (entries.map Prod.fst).filter fun key => key ≠ "open" ∧ key ≠ "close"
  | .arr items => (List.range items.length).map toString
  | _ => []

def WEEKDAYS : List Weekday := [.mon, .tue, .wed, .thu, .fri, .sat, .sun]

def dayName : Weekday → String
  | .mon => "mon"
  | .tue => "tue"
  | .wed => "wed"
  | .thu => "thu"
  | .fri => "fri"
  | .sat => "sat"
  | .sun => "sun"

def MAX_INTERVALS_PER_DAY : Nat := 4
def LAGOS_UTC_OFFSET_MINUTES : Int := 60

/-- `TIME_PATTERN.test(time)`. -/
def isTime (time : String) : Bool :=
  match time.toList with
  | [h, h', colon, m, m'] =>
      ((h = '0' || h = '1') && h'.isDigit || h = '2' && h'.isDigit && h' ≤ '3')
        && colon = ':' && (m.isDigit && m ≤ '5') && m'.isDigit
  | _ => false

/-- `Number` of a string of digits; the pattern lets no others through. -/
def number (digits : List Char) : Int :=
  digits.foldl (fun n c => 10 * n + (c.toNat - '0'.toNat : Nat)) 0

def toMinutes (time : String) : Int :=
  match time.toList.splitOn ':' with
  | [hours, minutes] => number hours * 60 + number minutes
  | _ => 0

/-! ## Validation -/

/-- One turn of the inner loop: the close that the next interval has to respect,
or the reason it returns. -/
def checkInterval (day : String) (previousClose : Int) (interval : Json) : Except String Int :=
  if !interval.isObject then .error (day ++ " intervals must be \x7b open, close \x7d objects")
  else if restKeys interval ≠ [] then .error (day ++ " intervals only allow open and close")
  else
    match interval.get "open", interval.get "close" with
    | some (.str opens), some (.str closes) =>
        if !(isTime opens && isTime closes) then .error (day ++ " times must be 24-hour HH:mm")
        else if toMinutes closes ≤ toMinutes opens then
          .error (day ++ " closes before it opens (" ++ opens ++ "–" ++ closes ++
            "); overnight hours aren't supported")
        else if toMinutes opens < previousClose then
          .error (day ++ " intervals must be in order and not overlap")
        else .ok (toMinutes closes)
    | _, _ => .error (day ++ " times must be 24-hour HH:mm")

def checkIntervals (day : String) : Int → List Json → Option String
  | _, [] => none
  | previousClose, interval :: rest =>
      match checkInterval day previousClose interval with
      | .ok close => checkIntervals day close rest
      | .error reason => some reason

/-- One turn of the outer loop. -/
def checkDay (entry : String × Json) : Option String :=
  if entry.1 ∉ WEEKDAYS.map dayName then
    some ("has unknown day \"" ++ entry.1 ++ "\" (expected " ++
      ", ".intercalate (WEEKDAYS.map dayName) ++ ")")
  else
    match entry.2 with
    | .arr intervals =>
        if MAX_INTERVALS_PER_DAY < intervals.length then
          some (entry.1 ++ " has more than " ++ toString MAX_INTERVALS_PER_DAY ++ " intervals")
        else checkIntervals entry.1 (-1) intervals
    | _ => some (entry.1 ++ " must be an array of \x7b open, close \x7d intervals")

/-- `null` when valid, otherwise the first reason. -/
def validateOpeningHours : Json → Option String
  | .obj entries => entries.findSome? checkDay
  | _ => some "must be an object keyed by day (mon … sun)"

/-! ## The value as opening hours -/

def weekday? (day : String) : Option Weekday := WEEKDAYS.find? fun d => dayName d = day

def readInterval (interval : Json) : Option OpeningInterval :=
  match interval.get "open", interval.get "close" with
  | some (.str opens), some (.str closes) => some ⟨opens, closes⟩
  | _, _ => none

def readDay (entry : String × Json) : Option (Weekday × List OpeningInterval) :=
  match weekday? entry.1, entry.2 with
  | some day, .arr intervals => (intervals.mapM readInterval).map fun read => (day, read)
  | _, _ => none

/-- An accepted value, `as OpeningHours`. -/
def readHours : Json → Option OpeningHours
  | .obj entries => entries.mapM readDay
  | _ => none

/-! ## Instants -/

/-- The last millisecond of a `Date`, on either side of 1970. -/
def MAX_TIME : Int := 8640000000000000

/-- `new Date(ms)`: invalid beyond the range. -/
def newDate (ms : Int) : Option Int := if -MAX_TIME ≤ ms ∧ ms ≤ MAX_TIME then some ms else none

/-- Sunday is 0. -/
def getUTCDay (ms : Int) : Int := (ms / 86400000 + 4) % 7

def getUTCHours (ms : Int) : Int := ms / 3600000 % 24

def getUTCMinutes (ms : Int) : Int := ms / 60000 % 60

/-- An invalid date has no weekday, and the Node is closed. -/
def isOpenAt (hours : OpeningHours) (time : Int) : Bool :=
  match newDate (time + LAGOS_UTC_OFFSET_MINUTES * 60000) with
  | none => false
  | some lagos =>
      let day := WEEKDAYS[((getUTCDay lagos + 6) % 7).toNat]?
      let minutes := getUTCHours lagos * 60 + getUTCMinutes lagos
      ((day.bind fun d => hours.lookup d).getD []).any fun interval =>
        decide (toMinutes interval.opens ≤ minutes) && decide (minutes < toMinutes interval.closes)

/-! ## Times -/

/-- The value of a digit. -/
theorem digit_le {c : Char} (h : c.isDigit = true) : c.toNat - '0'.toNat ≤ 9 ∧ c ≠ ':' := by
  simp only [Char.isDigit, Bool.and_eq_true, decide_eq_true_eq, ge_iff_le,
    UInt32.le_iff_toNat_le] at h
  refine ⟨?_, ?_⟩
  · show c.val.toNat - 48 ≤ 9
    have h9 : c.val.toNat ≤ 57 := h.2
    omega
  · rintro rfl
    exact absurd h.2 (by decide)

theorem digit_le_of_le {c d : Char} (h : c ≤ d) : c.toNat - '0'.toNat ≤ d.toNat - '0'.toNat := by
  have hle : c.toNat ≤ d.toNat := UInt32.le_iff_toNat_le.mp h
  omega

theorem splitOn_colon {h h' m m' : Char} (hh : h ≠ ':') (hh' : h' ≠ ':') (hm : m ≠ ':')
    (hm' : m' ≠ ':') : [h, h', ':', m, m'].splitOn ':' = [[h, h'], [m, m']] := by
  have hleft : ':' ∉ [h, h'] := by simp [hh.symm, hh'.symm]
  have hright : ':' ∉ [m, m'] := by simp [hm.symm, hm'.symm]
  calc [h, h', ':', m, m'].splitOn ':'
      = [h, h'] :: [m, m'].splitOn ':' := List.splitOn_append_cons_self_of_not_mem hleft [m, m']
    _ = [[h, h'], [m, m']] := by rw [List.splitOn_eq_singleton hright]

/-- A time of the pattern lies within the day. -/
theorem toMinutes_of_isTime {time : String} (h : isTime time = true) :
    0 ≤ toMinutes time ∧ toMinutes time < 1440 := by
  unfold isTime at h
  split at h
  · next a a' colon m m' hchars =>
      simp only [Bool.and_eq_true, Bool.or_eq_true, decide_eq_true_eq] at h
      obtain ⟨⟨⟨ha, rfl⟩, hm, hm5⟩, hm'⟩ := h
      have hda' : a'.isDigit = true := by
        rcases ha with ⟨-, h⟩ | ⟨⟨-, h⟩, -⟩
        · exact h
        · exact h
      have hca : a ≠ ':' := by
        rcases ha with ⟨rfl | rfl, -⟩ | ⟨⟨rfl, -⟩, -⟩ <;> decide
      have hsplit := splitOn_colon hca (digit_le hda').2 (digit_le hm).2 (digit_le hm').2
      have hm5 := digit_le_of_le hm5
      have hminutes : toMinutes time = number [a, a'] * 60 + number [m, m'] := by
        simp only [toMinutes, hchars, hsplit]
      have hhours : 10 * (a.toNat - '0'.toNat) + (a'.toNat - '0'.toNat) ≤ 23 := by
        rcases ha with ⟨ha, h⟩ | ⟨⟨rfl, h⟩, h3⟩
        · have htens : a.toNat - '0'.toNat ≤ 1 := by rcases ha with rfl | rfl <;> decide
          have hones := (digit_le h).1
          omega
        · have htens : '2'.toNat - '0'.toNat = 2 := rfl
          have hones : a'.toNat - '0'.toNat ≤ 3 := digit_le_of_le h3
          omega
      have hfifty : m.toNat - '0'.toNat ≤ 5 := hm5
      have hones := (digit_le hm').1
      rw [hminutes]
      simp only [number, List.foldl_cons, List.foldl_nil]
      omega
  · cases h

/-! ## What the validation accepts -/

def span (interval : OpeningInterval) : Span Int :=
  ⟨toMinutes interval.opens, toMinutes interval.closes⟩

/-- Non-empty intervals of one day, one after the other. -/
structure Daily (intervals : List OpeningInterval) : Prop where
  times : ∀ interval ∈ intervals, isTime interval.opens = true ∧ isTime interval.closes = true
  spans : After (-1) (intervals.map span)

variable {day : String} {previousClose close : Int} {interval : Json} {items : List Json}

theorem checkInterval_ok (h : checkInterval day previousClose interval = .ok close) :
    ∃ read, readInterval interval = some read ∧
      (isTime read.opens = true ∧ isTime read.closes = true) ∧ toMinutes read.closes = close ∧
      toMinutes read.opens < close ∧ previousClose ≤ toMinutes read.opens := by
  unfold checkInterval at h
  split at h
  · cases h
  split at h
  · cases h
  split at h
  · next opens closes hopen hclose =>
      refine ⟨⟨opens, closes⟩, by rw [readInterval, hopen, hclose], ?_⟩
      split at h
      · cases h
      split at h
      · cases h
      split at h
      · cases h
      · next htimes hlt hle =>
          obtain rfl : toMinutes closes = close := by simpa using h
          refine ⟨by simpa using htimes, rfl, ?_, ?_⟩
          · show toMinutes opens < toMinutes closes
            omega
          · show previousClose ≤ toMinutes opens
            omega
  · cases h

theorem checkIntervals_none (h : checkIntervals day previousClose items = none) :
    ∃ intervals, items.mapM readInterval = some intervals ∧
      (∀ interval ∈ intervals, isTime interval.opens = true ∧ isTime interval.closes = true) ∧
      After previousClose (intervals.map span) := by
  induction items generalizing previousClose with
  | nil => exact ⟨[], rfl, by simp, trivial⟩
  | cons interval items ih =>
      rw [checkIntervals] at h
      split at h
      · next close hclose =>
          obtain ⟨read, hread, htime, rfl, hlt, hle⟩ := checkInterval_ok hclose
          obtain ⟨intervals, hintervals, htimes, hafter⟩ := ih h
          refine ⟨read :: intervals, ?_, ?_, hle, hlt, hafter⟩
          · rw [List.mapM_cons, hread, hintervals]
            rfl
          · simpa [htime] using htimes
      · cases h

theorem checkDay_none {entry : String × Json} (h : checkDay entry = none) :
    ∃ read, readDay entry = some read ∧ Daily read.2 := by
  unfold checkDay at h
  split at h
  · cases h
  next hday =>
    split at h
    · next intervals hvalue =>
        split at h
        · cases h
        obtain ⟨read, hread, htimes, hspans⟩ := checkIntervals_none h
        obtain ⟨day, hfound⟩ : ∃ day, weekday? entry.1 = some day := by
          have hmem : entry.1 ∈ WEEKDAYS.map dayName := not_not.mp hday
          obtain ⟨day, hmem, hname⟩ := List.mem_map.mp hmem
          refine Option.isSome_iff_exists.mp (List.find?_isSome.mpr ⟨day, hmem, ?_⟩)
          simpa using hname
        refine ⟨(day, read), ?_, htimes, hspans⟩
        simp only [readDay, hfound, hvalue, hread, Option.map_some]
    · cases h

/-- **What is accepted** can be read as opening hours, in order on every day. -/
theorem validate_none {value : Json} (h : validateOpeningHours value = none) :
    ∃ hours, readHours value = some hours ∧ ∀ entry ∈ hours, Daily entry.2 := by
  have hentries : ∀ entries : List (String × Json), entries.findSome? checkDay = none →
      ∃ hours, entries.mapM readDay = some hours ∧ ∀ entry ∈ hours, Daily entry.2 := by
    intro entries
    induction entries with
    | nil => exact fun _ => ⟨[], rfl, by simp⟩
    | cons entry entries ih =>
        intro h
        rw [List.findSome?_eq_none_iff, List.forall_mem_cons, ← List.findSome?_eq_none_iff] at h
        obtain ⟨hentry, hrest⟩ := h
        obtain ⟨read, hread, hdaily⟩ := checkDay_none hentry
        obtain ⟨hours, hhours, hall⟩ := ih hrest
        refine ⟨read :: hours, ?_, by simpa [hdaily] using hall⟩
        rw [List.mapM_cons, hread, hhours]
        rfl
  cases value with
  | obj entries => exact hentries entries h
  | null => cases h
  | bool b => cases h
  | num n => cases h
  | str s => cases h
  | arr items => cases h

/-! ## The week -/

def dayMs : Int := 86400000
def weekMs : Int := 7 * dayMs

def dayIndex : Weekday → Int
  | .mon => 0
  | .tue => 1
  | .wed => 2
  | .thu => 3
  | .fri => 4
  | .sat => 5
  | .sun => 6

/-- The milliseconds since Monday began in Lagos, of which the first in 1970 was
the fifth of January. -/
def sinceMonday (time : Int) : Int := (time + LAGOS_UTC_OFFSET_MINUTES * 60000 - 4 * dayMs) % weekMs

/-- The interval of that weekday, as a span of the week. -/
def weekSpan (day : Weekday) (interval : OpeningInterval) : Span Int :=
  ⟨dayIndex day * dayMs + toMinutes interval.opens * 60000,
    dayIndex day * dayMs + toMinutes interval.closes * 60000⟩

/-- The interval at that place of the week contains the instant. -/
def InForce (hours : OpeningHours) (time : Int) (place : Weekday × Nat) : Prop :=
  ∃ intervals interval, hours.lookup place.1 = some intervals ∧
    intervals[place.2]? = some interval ∧ (weekSpan place.1 interval).Contains (sinceMonday time)

/-- A `Date` whose time in Lagos is one too. -/
def InRange (time : Int) : Prop :=
  -MAX_TIME ≤ time ∧ time + LAGOS_UTC_OFFSET_MINUTES * 60000 ≤ MAX_TIME

variable {hours : OpeningHours} {time : Int}

/-- The weekday and the minutes of the day are those of the time since Monday. -/
theorem clock_eq (lagos : Int) :
    (lagos - 4 * dayMs) % weekMs / dayMs = (getUTCDay lagos + 6) % 7 ∧
    (lagos - 4 * dayMs) % weekMs % dayMs / 60000 =
      getUTCHours lagos * 60 + getUTCMinutes lagos := by
  simp only [dayMs, weekMs, getUTCDay, getUTCHours, getUTCMinutes]
  constructor
  · omega
  · omega

theorem weekday_at {i : Int} (h0 : 0 ≤ i) (h7 : i < 7) :
    ∃ day, WEEKDAYS[i.toNat]? = some day ∧ dayIndex day = i := by
  obtain ⟨n, rfl⟩ := Int.eq_ofNat_of_zero_le h0
  have hall : ∀ n : Nat, n < 7 → ∃ day, WEEKDAYS[n]? = some day ∧ dayIndex day = n := by decide
  exact hall n (by omega)

theorem dayIndex_injective {day day' : Weekday} (h : dayIndex day = dayIndex day') :
    day = day' := by
  cases day <;> cases day' <;> simp_all [dayIndex]

/-- A time lies in an interval of the week when its weekday is the interval's, and
its minutes lie between the interval's. -/
theorem weekSpan_contains {day : Weekday} {interval : OpeningInterval} {w : Int}
    (hopens : isTime interval.opens = true) (hcloses : isTime interval.closes = true) :
    (weekSpan day interval).Contains w ↔ w / dayMs = dayIndex day ∧
      toMinutes interval.opens ≤ w % dayMs / 60000 ∧
      w % dayMs / 60000 < toMinutes interval.closes := by
  have ho := toMinutes_of_isTime hopens
  have hc := toMinutes_of_isTime hcloses
  simp only [Span.Contains, weekSpan, dayMs]
  constructor
  · rintro ⟨hlo, hhi⟩
    refine ⟨?_, ?_, ?_⟩
    · omega
    · omega
    · omega
  · rintro ⟨hday, hlo, hhi⟩
    constructor
    · omega
    · omega

/-- **Open means in an interval of the week.** -/
theorem isOpenAt_iff (hrange : InRange time) (hdaily : ∀ entry ∈ hours, Daily entry.2) :
    isOpenAt hours time = true ↔ ∃ place, InForce hours time place := by
  have htimes : ∀ {day intervals}, hours.lookup day = some intervals →
      ∀ interval ∈ intervals, isTime interval.opens = true ∧ isTime interval.closes = true := by
    intro day intervals hlookup
    obtain ⟨before, after, rfl, -⟩ := List.lookup_eq_some_iff.mp hlookup
    exact (hdaily (day, intervals) (by simp)).times
  have hdate : newDate (time + LAGOS_UTC_OFFSET_MINUTES * 60000) =
      some (time + LAGOS_UTC_OFFSET_MINUTES * 60000) := by
    refine if_pos ⟨?_, hrange.2⟩
    have := hrange.1
    simp only [LAGOS_UTC_OFFSET_MINUTES]
    omega
  obtain ⟨hindex, hminutes⟩ := clock_eq (time + LAGOS_UTC_OFFSET_MINUTES * 60000)
  have hnonneg : 0 ≤ (getUTCDay (time + LAGOS_UTC_OFFSET_MINUTES * 60000) + 6) % 7 :=
    Int.emod_nonneg _ (by decide)
  obtain ⟨day, hday, hdayIndex⟩ := weekday_at hnonneg (Int.emod_lt_of_pos _ (by decide))
  rw [← hdayIndex] at hindex
  unfold isOpenAt
  rw [hdate]
  simp only [hday, Option.bind_some, ← hminutes, List.any_eq_true, Bool.and_eq_true,
    decide_eq_true_eq]
  constructor
  · rintro ⟨interval, hmem, hin⟩
    cases hlookup : hours.lookup day with
    | none => simp [hlookup] at hmem
    | some intervals =>
        rw [hlookup, Option.getD_some] at hmem
        obtain ⟨i, hi⟩ := List.mem_iff_getElem?.mp hmem
        obtain ⟨hopens, hcloses⟩ := htimes hlookup interval hmem
        exact ⟨(day, i), intervals, interval, hlookup, hi,
          (weekSpan_contains hopens hcloses).mpr ⟨hindex, hin⟩⟩
  · rintro ⟨⟨day', i⟩, intervals, interval, hlookup, hi, hcontains⟩
    have hmem := List.mem_of_getElem? hi
    obtain ⟨hopens, hcloses⟩ := htimes hlookup interval hmem
    obtain ⟨hindex', hin⟩ := (weekSpan_contains hopens hcloses).mp hcontains
    obtain rfl : day' = day := dayIndex_injective (hindex'.symm.trans hindex)
    exact ⟨interval, by simpa [hlookup] using hmem, hin⟩

/-- No instant lies in two intervals of the week. -/
theorem inForce_unique (hdaily : ∀ entry ∈ hours, Daily entry.2) {place place' : Weekday × Nat}
    (h : InForce hours time place) (h' : InForce hours time place') : place = place' := by
  obtain ⟨day, i⟩ := place
  obtain ⟨day', i'⟩ := place'
  obtain ⟨intervals, interval, hlookup, hi, hcontains⟩ := h
  obtain ⟨intervals', interval', hlookup', hi', hcontains'⟩ := h'
  have hentry : ∀ {day intervals}, hours.lookup day = some intervals → Daily intervals := by
    intro day intervals hlookup
    obtain ⟨before, after, rfl, -⟩ := List.lookup_eq_some_iff.mp hlookup
    exact hdaily (day, intervals) (by simp)
  have hd := hentry hlookup
  obtain ⟨hopens, hcloses⟩ := hd.times interval (List.mem_of_getElem? hi)
  obtain ⟨hopens', hcloses'⟩ := (hentry hlookup').times interval' (List.mem_of_getElem? hi')
  obtain ⟨hindex, hin⟩ := (weekSpan_contains hopens hcloses).mp hcontains
  obtain ⟨hindex', hin'⟩ := (weekSpan_contains hopens' hcloses').mp hcontains'
  obtain rfl : day = day' := dayIndex_injective (hindex.symm.trans hindex')
  obtain rfl : intervals = intervals' := Option.some.inj (hlookup.symm.trans hlookup')
  have hspan : (intervals.map span)[i]? = some (span interval) := by simp [hi]
  have hspan' : (intervals.map span)[i']? = some (span interval') := by simp [hi']
  rw [hd.spans.place_unique hspan hspan' hin hin']

theorem inForce_weeks (weeks : Int) (place : Weekday × Nat) :
    InForce hours (time + weeks * weekMs) place ↔ InForce hours time place := by
  have hsame : sinceMonday (time + weeks * weekMs) = sinceMonday time := by
    have hshift : time + weeks * weekMs + LAGOS_UTC_OFFSET_MINUTES * 60000 - 4 * dayMs =
        time + LAGOS_UTC_OFFSET_MINUTES * 60000 - 4 * dayMs + weeks * weekMs := by omega
    rw [sinceMonday, hshift, Int.add_mul_emod_self_right, sinceMonday]
  simp only [InForce, hsame]

/-! ## Every instant -/

/-- An interval of the hours contains the instant just when the Node is open, and
then one interval only. -/
def Means (hours : OpeningHours) (time : Int) : Prop :=
  (isOpenAt hours time = true ↔ ∃ place, InForce hours time place) ∧
  (isOpenAt hours time = true → ∃! place, InForce hours time place)

/-- **Opening hours mean what they say**, as long as the time in Lagos is a date. -/
theorem accepted_hours_mean (value : Json) (h : validateOpeningHours value = none) :
    ∃ hours, readHours value = some hours ∧
      (∀ entry ∈ hours,
        (∀ interval ∈ entry.2, toMinutes interval.opens < toMinutes interval.closes) ∧
        entry.2.Pairwise fun a b => toMinutes a.closes ≤ toMinutes b.opens) ∧
      (∀ time, InRange time → Means hours time) ∧
      ∀ time weeks, InRange time → InRange (time + weeks * weekMs) →
        isOpenAt hours (time + weeks * weekMs) = isOpenAt hours time := by
  obtain ⟨hours, hhours, hdaily⟩ := validate_none h
  refine ⟨hours, hhours, ?_, ?_, ?_⟩
  · intro entry hentry
    have hspans := (hdaily entry hentry).spans
    refine ⟨fun interval hinterval => ?_, ?_⟩
    · exact hspans.nonempty (span interval) (List.mem_map_of_mem hinterval)
    · exact List.pairwise_map.mp hspans.pairwise
  · intro time hrange
    have hiff := isOpenAt_iff hrange hdaily
    refine ⟨hiff, fun hopen => ?_⟩
    obtain ⟨place, hplace⟩ := hiff.mp hopen
    exact ⟨place, hplace, fun place' hplace' => inForce_unique hdaily hplace' hplace⟩
  · intro time weeks hrange hrange'
    rw [Bool.eq_iff_iff, isOpenAt_iff hrange' hdaily, isOpenAt_iff hrange hdaily]
    simp only [inForce_weeks]

/-- A lunch break on Mondays. -/
def demoHours : Json :=
  .obj [("mon", .arr [.obj [("open", .str "08:00"), ("close", .str "12:00")],
    .obj [("open", .str "13:00"), ("close", .str "18:30")]]), ("sun", .arr [])]

/-- Open at 13:00 of the last Monday of 1969, and every week. -/
theorem demo_hours_mean : ∃ hours, readHours demoHours = some hours ∧
    isOpenAt hours (-3 * dayMs + 12 * 3600000) = true ∧
    isOpenAt hours (-3 * dayMs + 12 * 3600000 + 3000 * weekMs) = true := by
  obtain ⟨hours, hhours, -, -, hweeks⟩ := accepted_hours_mean demoHours (by decide)
  have hread : readHours demoHours =
      some [(.mon, [⟨"08:00", "12:00"⟩, ⟨"13:00", "18:30"⟩]), (.sun, [])] := rfl
  obtain rfl := Option.some.inj (hhours.symm.trans hread)
  have hopen : isOpenAt [(.mon, [⟨"08:00", "12:00"⟩, ⟨"13:00", "18:30"⟩]), (.sun, [])]
      (-3 * dayMs + 12 * 3600000) = true := by decide
  refine ⟨_, hread, hopen, ?_⟩
  rw [hweeks _ 3000 (by constructor <;> decide) (by constructor <;> decide)]
  exact hopen

/-- The first hour of a Saturday. -/
def lastHour : Json := .obj [("sat", .arr [.obj [("open", .str "00:00"), ("close", .str "01:00")]])]

/-- In the last hour of the dates it is Saturday in Lagos, and no date says so. -/
theorem not_every_instant :
    ¬ ∀ value, validateOpeningHours value = none → ∃ hours, readHours value = some hours ∧
      ∀ time, -MAX_TIME ≤ time → time ≤ MAX_TIME → Means hours time := by
  intro h
  obtain ⟨hours, hhours, hmeans⟩ := h lastHour (by decide)
  have hread : readHours lastHour = some [(.sat, [⟨"00:00", "01:00"⟩])] := rfl
  obtain rfl := Option.some.inj (hhours.symm.trans hread)
  have hopen := (hmeans (MAX_TIME - 1) (by decide) (by decide)).1.mpr
    ⟨(.sat, 0), [⟨"00:00", "01:00"⟩], ⟨"00:00", "01:00"⟩, rfl, rfl, by decide, by decide⟩
  revert hopen
  decide

end Locoomo.OpeningHours
