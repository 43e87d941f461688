import Mathlib.Data.List.Forall2
import Mathlib.Data.List.Infix
import Mathlib.Data.List.OfFn
import Locoomo.Lib.PercentEncoding

/-! Reading a tracking code back from what somebody typed, scanned or pasted. -/

namespace Locoomo.TrackingInput

open Utf16 PercentEncoding

/-! ## The code -/

def ALPHABET : Units := text "0123456789ABCDEFGHJKMNPQRSTVWXYZ"
def PREFIX : Units := text "LCM"
def CODE_LENGTH : Nat := 8

/-- `${PREFIX}-${code.slice(0, 4)}-${code.slice(4)}`. -/
def dashed (code : Units) : Units :=
  PREFIX ++ unit '-' :: code.take 4 ++ unit '-' :: code.drop 4

/-- The code that these draws of `randomInt(ALPHABET.length)` give. -/
def generateTrackingCode (draw : Fin CODE_LENGTH → Fin ALPHABET.length) : Units :=
  dashed (List.ofFn fun i => ALPHABET[draw i])

/-! ## Reading -/

/-- `[^/?#]`. -/
def inPathSegment (u : Nat) : Bool := u ∉ text "/?#"

/-- `/\/track\/([^/?#]+)/i`, at the front of the text: what the group captures. -/
def captureTrack (s : Units) : Option Units :=
  if (s.take 7).map lowerAscii = text "/track/" then
    let part := (s.drop 7).takeWhile inPathSegment
    if part = [] then none else some part
  else none

/-- `exec`: the leftmost match. -/
def execTrack (s : Units) : Option Units := s.tails.findSome? captureTrack

/-- `[\s\-_.]`. -/
def isSeparator (u : Nat) : Bool := isWhitespace u || u ∈ text "-_."

/-- `O` is read as `0`, `I` and `L` as `1`. -/
def readDigit (u : Nat) : Nat :=
  if u = unit 'O' then unit '0' else if u = unit 'I' ∨ u = unit 'L' then unit '1' else u

/-- The prefix is cut off before its `L` could be read as a `1`. -/
def withoutPrefix (value : Units) : Units :=
  if value.length = PREFIX.length + CODE_LENGTH ∧ PREFIX.isPrefixOf value = true then
    value.drop PREFIX.length
  else value

/-- What follows the decoding. -/
def readCode (upper : UpperCase) (value : Units) : Option Units :=
  let value := withoutPrefix ((upper.apply value).filter fun u => !isSeparator u)
  if value.length ≠ CODE_LENGTH then none
  else
    let body := value.map readDigit
    -- no surrogate is in the alphabet, alone or in a pair
    if body.all fun u => u ∈ ALPHABET then some (dashed body) else none

/-- `null` for a text that cannot be a code, unless the decoding throws. -/
def normalizeTrackingCode (upper : UpperCase) (input : Units) : Except URIError (Option Units) :=
  match execTrack (trim input) with
  | some part => (decodeURIComponent part).map (readCode upper)
  | none => .ok (readCode upper (trim input))

/-- `TrackingLinkService.urlFor`, with the configured front end and the code's token. -/
def urlFor (frontendUrl : Units) (tokenFor : Units → Units) (trackingCode : Units) :
    Except URIError Units :=
  let base := frontendUrl.rdropWhile fun u => u = unit '/'
  (encodeURIComponent trackingCode).map fun encoded =>
    base ++ text "/track/" ++ encoded ++ text "?t=" ++ tokenFor trackingCode

variable {upper : UpperCase} {s a m base pre body code : Units} {u v : Nat}

/-! ## Letters -/

/-- The same letter in either case. -/
def SameLetter (u v : Nat) : Prop := lowerAscii v = lowerAscii u

/-- How a character of the body may be written. -/
def WrittenAs (u v : Nat) : Prop :=
  SameLetter u v ∨ u = unit '0' ∧ v ∈ text "Oo" ∨ u = unit '1' ∧ v ∈ text "IiLl"

instance (u v : Nat) : Decidable (WrittenAs u v) :=
  inferInstanceAs (Decidable (lowerAscii v = lowerAscii u ∨ _ ∨ _))

def isMark (u : Nat) : Bool := u ∈ text " -_."

/-- A letter or a digit. -/
def IsAlphanumeric (v : Nat) : Prop := 48 ≤ v ∧ v ≤ 57 ∨ 65 ≤ v ∧ v ≤ 90 ∨ 97 ≤ v ∧ v ≤ 122

instance (v : Nat) : Decidable (IsAlphanumeric v) := inferInstanceAs (Decidable (_ ∨ _ ∨ _))

/-- Digits and capital letters, but for those that look like digits. -/
theorem alphabet_range : ∀ u ∈ ALPHABET, (48 ≤ u ∧ u ≤ 57 ∨ 65 ≤ u ∧ u ≤ 90) ∧
    u ≠ unit 'I' ∧ u ≠ unit 'L' ∧ u ≠ unit 'O' := by decide

theorem IsAlphanumeric.lt (h : IsAlphanumeric v) : v < 128 := by
  unfold IsAlphanumeric at h
  omega

theorem IsAlphanumeric.ne_slash (h : IsAlphanumeric v) : v ≠ unit '/' := by
  rintro rfl
  exact absurd h (by decide)

theorem IsAlphanumeric.not_separator (h : IsAlphanumeric v) : isSeparator v = false := by
  have hall : ∀ v < 128, IsAlphanumeric v → isSeparator v = false := by decide
  exact hall v h.lt h

theorem isSeparator_upperAscii (h : v < 128) : isSeparator (upperAscii v) = isSeparator v := by
  have hall : ∀ v < 128, isSeparator (upperAscii v) = isSeparator v := by decide
  exact hall v h

theorem SameLetter.upperAscii_eq (hu : 48 ≤ u ∧ u ≤ 57 ∨ 65 ≤ u ∧ u ≤ 90) (h : SameLetter u v) :
    upperAscii v = u ∧ IsAlphanumeric v := by
  have hA : unit 'A' = 65 := rfl
  have hZ : unit 'Z' = 90 := rfl
  have ha : unit 'a' = 97 := rfl
  have hz : unit 'z' = 122 := rfl
  unfold SameLetter lowerAscii at h
  unfold upperAscii IsAlphanumeric
  rw [hA, hZ] at h
  rw [ha, hz]
  split_ifs at h ⊢
  all_goals omega

/-- However a character of the alphabet is written, it is read as itself. -/
theorem WrittenAs.read (hu : u ∈ ALPHABET) (h : WrittenAs u v) :
    readDigit (upperAscii v) = u ∧ IsAlphanumeric v := by
  obtain ⟨hrange, hI, hL, hO⟩ := alphabet_range u hu
  rcases h with hsame | ⟨rfl, hv⟩ | ⟨rfl, hv⟩
  · obtain ⟨hupper, halnum⟩ := hsame.upperAscii_eq hrange
    refine ⟨?_, halnum⟩
    rw [hupper, readDigit, if_neg hO, if_neg (by simp [hI, hL])]
  · have hall : ∀ v ∈ text "Oo", readDigit (upperAscii v) = unit '0' ∧ IsAlphanumeric v := by
      decide
    exact hall v hv
  · have hall : ∀ v ∈ text "IiLl", readDigit (upperAscii v) = unit '1' ∧ IsAlphanumeric v := by
      decide
    exact hall v hv

/-! ## Renderings -/

/-- The letters of the code in any case and with look-alikes for the digits, with or
without the prefix, and marks anywhere. -/
def Rendering (code s : Units) : Prop :=
  ∃ pre body, (s.filter fun u => !isMark u) = pre ++ body ∧
    (pre = [] ∨ List.Forall₂ SameLetter PREFIX pre) ∧ List.Forall₂ WrittenAs code body

theorem letters_upper {letters : Units}
    (hrange : ∀ u ∈ letters, 48 ≤ u ∧ u ≤ 57 ∨ 65 ≤ u ∧ u ≤ 90)
    (h : List.Forall₂ SameLetter letters pre) :
    pre.map upperAscii = letters ∧ ∀ v ∈ pre, IsAlphanumeric v := by
  induction h with
  | nil => simp
  | cons hsame _ ih =>
      obtain ⟨hu, hrest⟩ := List.forall_mem_cons.mp hrange
      obtain ⟨hupper, halnum⟩ := hsame.upperAscii_eq hu
      obtain ⟨hmap, hall⟩ := ih hrest
      exact ⟨by rw [List.map_cons, hupper, hmap], List.forall_mem_cons.mpr ⟨halnum, hall⟩⟩

theorem body_read (hcode : ∀ u ∈ code, u ∈ ALPHABET) (h : List.Forall₂ WrittenAs code body) :
    (body.map upperAscii).map readDigit = code ∧ ∀ v ∈ body, IsAlphanumeric v := by
  induction h with
  | nil => simp
  | cons hwritten _ ih =>
      obtain ⟨hu, hrest⟩ := List.forall_mem_cons.mp hcode
      obtain ⟨hread, halnum⟩ := hwritten.read hu
      obtain ⟨hmap, hall⟩ := ih hrest
      refine ⟨?_, List.forall_mem_cons.mpr ⟨halnum, hall⟩⟩
      rw [List.map_cons, List.map_cons, hread, hmap]

/-- The prefix goes when it is there, and only then: eight characters and a prefix
make eleven, whatever the eight begin with. -/
theorem readCode_eq (hlength : code.length = CODE_LENGTH) (hcode : ∀ u ∈ code, u ∈ ALPHABET)
    (hascii : ∀ u ∈ s, u < 128) (hs : (s.filter fun u => !isSeparator u) = pre ++ body)
    (hpre : pre = [] ∨ List.Forall₂ SameLetter PREFIX pre)
    (hbody : List.Forall₂ WrittenAs code body) : readCode upper s = some (dashed code) := by
  obtain ⟨hread, -⟩ := body_read hcode hbody
  have hbodyLength : (body.map upperAscii).length = CODE_LENGTH := by
    rw [List.length_map, ← hbody.length_eq, hlength]
  have hvalue : ((upper.apply s).filter fun u => !isSeparator u) =
      pre.map upperAscii ++ body.map upperAscii := by
    rw [upper.ascii s hascii, List.filter_map, ← List.map_append, ← hs]
    congr 1
    refine List.filter_congr fun u hu => ?_
    simp [isSeparator_upperAscii (hascii u hu)]
  have hall : (code.all fun u => u ∈ ALPHABET) = true := by simpa using hcode
  have hstripped : withoutPrefix (pre.map upperAscii ++ body.map upperAscii) =
      body.map upperAscii := by
    unfold withoutPrefix
    rcases hpre with rfl | hpre
    · have hshort : ¬ PREFIX = [] := by decide
      simp [hbodyLength, hshort]
    · obtain ⟨hupper, -⟩ := letters_upper (by decide) hpre
      simp [hupper, hbodyLength]
  simp [readCode, hvalue, hstripped, hbodyLength, hread, hall]

/-! ## Typed codes -/

theorem filter_dropWhile {p keep : Nat → Bool} (h : ∀ u, p u = true → keep u = false) :
    (s.dropWhile p).filter keep = s.filter keep := by
  induction s with
  | nil => rfl
  | cons u s ih =>
      cases hp : p u with
      | true => rw [List.dropWhile_cons_of_pos hp, ih, List.filter_cons_of_neg (by simp [h u hp])]
      | false => rw [List.dropWhile_cons_of_neg (by simp [hp])]

theorem filter_trim {keep : Nat → Bool} (h : ∀ u, isWhitespace u = true → keep u = false) :
    (trim s).filter keep = s.filter keep := by
  unfold trim List.rdropWhile
  rw [List.filter_reverse, filter_dropWhile h, ← List.filter_reverse, List.reverse_reverse,
    filter_dropWhile h]

theorem mem_of_mem_trim (h : u ∈ trim s) : u ∈ s :=
  (List.dropWhile_suffix isWhitespace).subset ((List.rdropWhile_prefix isWhitespace _).subset h)

theorem lowerAscii_eq_slash : lowerAscii u = unit '/' ↔ u = unit '/' := by
  have h47 : unit '/' = 47 := rfl
  have hA : unit 'A' = 65 := rfl
  unfold lowerAscii
  split_ifs
  · omega
  · rfl

theorem captureTrack_cons (h : u ≠ unit '/') : captureTrack (u :: s) = none := by
  unfold captureTrack
  rw [if_neg]
  intro htrack
  exact h (lowerAscii_eq_slash.mp (List.cons.inj htrack).1)

/-- Without a slash nothing is taken for a link. -/
theorem execTrack_eq_none (h : ∀ u ∈ s, u ≠ unit '/') : execTrack s = none := by
  refine List.findSome?_eq_none_iff.mpr fun t ht => ?_
  have hsub := ((List.mem_tails t s).mp ht).subset
  cases t with
  | nil => rfl
  | cons u t => exact captureTrack_cons (h u (hsub List.mem_cons_self))

theorem isSeparator_of_isMark (h : isMark u = true) : isSeparator u = true := by
  have hall : ∀ u ∈ text " -_.", isSeparator u = true := by decide
  exact hall u (by simpa [isMark] using h)

/-- What a rendering is made of: marks, letters and digits. -/
theorem Rendering.units (hcode : ∀ u ∈ code, u ∈ ALPHABET) (h : Rendering code s) :
    ∀ u ∈ s, isMark u = true ∨ IsAlphanumeric u := by
  obtain ⟨pre, body, hs, hpre, hbody⟩ := h
  have hmem : ∀ u ∈ pre ++ body, IsAlphanumeric u := by
    intro u hu
    rcases List.mem_append.mp hu with hu | hu
    · rcases hpre with rfl | hpre
      · cases hu
      · exact (letters_upper (by decide) hpre).2 u hu
    · exact (body_read hcode hbody).2 u hu
  intro u hu
  cases hmark : isMark u with
  | true => exact .inl rfl
  | false =>
      refine .inr (hmem u ?_)
      rw [← hs]
      exact List.mem_filter.mpr ⟨hu, by simp [hmark]⟩

theorem Rendering.readCode (hlength : code.length = CODE_LENGTH)
    (hcode : ∀ u ∈ code, u ∈ ALPHABET) (h : Rendering code s) {s' : Units}
    (hsub : ∀ u ∈ s', u ∈ s)
    (hs' : (s'.filter fun u => !isSeparator u) = s.filter fun u => !isSeparator u) :
    readCode upper s' = some (dashed code) := by
  have hunits := h.units hcode
  obtain ⟨pre, body, hs, hpre, hbody⟩ := h
  refine readCode_eq hlength hcode ?_ ?_ hpre hbody
  · intro u hu
    rcases hunits u (hsub u hu) with hmark | halnum
    · have hall : ∀ u ∈ text " -_.", u < 128 := by decide
      exact hall u (by simpa [isMark] using hmark)
    · exact halnum.lt
  · rw [hs', ← hs]
    refine List.filter_congr fun u hu => ?_
    rcases hunits u hu with hmark | halnum
    · rw [hmark, isSeparator_of_isMark hmark]
    · have hmark : isMark u = false := by
        cases hmark : isMark u with
        | false => rfl
        | true => exact (isSeparator_of_isMark hmark).symm.trans halnum.not_separator
      rw [hmark, halnum.not_separator]

theorem normalize_rendering (hlength : code.length = CODE_LENGTH)
    (hcode : ∀ u ∈ code, u ∈ ALPHABET) (h : Rendering code s) :
    normalizeTrackingCode upper s = .ok (some (dashed code)) := by
  have hslash : ∀ u ∈ trim s, u ≠ unit '/' := by
    intro u hu
    rcases h.units hcode u (mem_of_mem_trim hu) with hmark | halnum
    · rintro rfl
      exact absurd hmark (by decide)
    · exact halnum.ne_slash
  rw [normalizeTrackingCode, execTrack_eq_none hslash]
  simp only
  rw [h.readCode hlength hcode (fun u => mem_of_mem_trim) (filter_trim fun u hu => ?_)]
  simp [isSeparator, hu]

/-! ## Links -/

/-- None of the parts between slashes is the word track. -/
def NoTrackPart (base : Units) : Prop :=
  ∀ part ∈ base.splitOn (unit '/'), part.map lowerAscii ≠ text "track"

/-- The first match of a text is one behind what matches nowhere. -/
theorem findSome?_tails_append {f : Units → Option Units} {part : Units}
    (ha : ∀ t, t <:+ a → t ≠ [] → f (t ++ m) = none) (hm : f m = some part) :
    (a ++ m).tails.findSome? f = some part := by
  induction a with
  | nil =>
      cases m with
      | nil => simp [hm]
      | cons u m => simp [hm]
  | cons u a ih =>
      have hhead := ha (u :: a) List.suffix_rfl (List.cons_ne_nil u a)
      have hrest := ih fun t ht => ha t (ht.trans (List.suffix_cons u a))
      rw [List.cons_append] at hhead ⊢
      rw [List.tails_cons, List.findSome?_cons, hhead]
      exact hrest

/-- The text up to the first slash. -/
def segment (s : Units) : Units := s.takeWhile fun u => u ≠ unit '/'

@[simp] theorem segment_slash : segment (unit '/' :: s) = [] := by simp [segment]

theorem segment_cons (hu : u ≠ unit '/') : segment (u :: s) = u :: segment s := by
  simp [segment, hu]

theorem segment_append_slash : segment (s ++ unit '/' :: m) = segment s := by
  induction s with
  | nil => simp [segment]
  | cons u s ih =>
      by_cases hu : u = unit '/'
      · simp [hu]
      · rw [List.cons_append, segment_cons hu, segment_cons hu, ih]

theorem splitOn_eq_segment (s : Units) : ∃ parts, s.splitOn (unit '/') = segment s :: parts := by
  induction s with
  | nil => exact ⟨[], rfl⟩
  | cons u s ih =>
      obtain ⟨parts, hparts⟩ := ih
      rw [List.splitOn_cons_eq_if_modifyHead]
      by_cases hu : u = unit '/'
      · exact ⟨s.splitOn (unit '/'), by simp [hu]⟩
      · exact ⟨parts, by simp [hu, hparts, segment_cons hu]⟩

/-- What follows a slash, up to the next one, is a part. -/
theorem segment_mem_splitOn (h : unit '/' :: s <:+ base) :
    segment s ∈ base.splitOn (unit '/') := by
  obtain ⟨before, rfl⟩ := h
  obtain ⟨parts, hparts⟩ := splitOn_eq_segment s
  rw [List.splitOn_append_cons_self, hparts]
  exact List.mem_append_right _ List.mem_cons_self

theorem map_segment (s : Units) : (segment s).map lowerAscii = segment (s.map lowerAscii) := by
  induction s with
  | nil => rfl
  | cons u s ih =>
      by_cases hu : u = unit '/'
      · have hlower : lowerAscii (unit '/') = unit '/' := rfl
        simp [hu, hlower]
      · have hlower : lowerAscii u ≠ unit '/' := fun h => hu (lowerAscii_eq_slash.mp h)
        rw [segment_cons hu, List.map_cons, List.map_cons, segment_cons hlower, ih]

/-- A match of the pattern at a slash makes the part behind it the word track. -/
theorem segment_of_captureTrack (h : captureTrack (unit '/' :: s) ≠ none) :
    (segment s).map lowerAscii = text "track" := by
  have htrack : ((unit '/' :: s).take 7).map lowerAscii = text "/track/" := by
    by_contra hne
    exact h (by rw [captureTrack, if_neg hne])
  have htail : (s.map lowerAscii).take 6 = text "track/" := by
    rw [← List.map_take]
    exact (List.cons.inj htrack).2
  rw [map_segment, ← List.take_append_drop 6 (s.map lowerAscii), htail]
  rfl

/-- No match begins in a front end's address that has no part track. -/
theorem captureTrack_eq_none {url : Units} (hurl : NoTrackPart url)
    (hs : s <:+ url.rdropWhile fun u => u = unit '/') (hne : s ≠ []) :
    captureTrack (s ++ unit '/' :: m) = none := by
  cases s with
  | nil => exact absurd rfl hne
  | cons u s =>
      by_cases hu : u = unit '/'
      · subst hu
        by_contra hcapture
        rw [List.cons_append] at hcapture
        have htrack := segment_of_captureTrack hcapture
        rw [segment_append_slash] at htrack
        -- the slashes that were dropped do not change the part
        obtain ⟨before, hbefore⟩ := hs
        have hurlEq : before ++ unit '/' :: s ++ url.rtakeWhile (fun u => u = unit '/') = url := by
          rw [hbefore]
          exact List.rdropWhile_append_rtakeWhile
        have hpart : segment s ∈ url.splitOn (unit '/') := by
          cases hslashes : url.rtakeWhile (fun u => u = unit '/') with
          | nil =>
              rw [hslashes, List.append_nil] at hurlEq
              exact segment_mem_splitOn ⟨before, hurlEq⟩
          | cons v more =>
              have hmem : v ∈ url.rtakeWhile fun u => u = unit '/' := by
                rw [hslashes]
                exact List.mem_cons_self
              obtain rfl : v = unit '/' := by simpa using List.mem_rtakeWhile_imp hmem
              rw [← segment_append_slash (s := s) (m := more)]
              refine segment_mem_splitOn ⟨before, ?_⟩
              rw [← hurlEq, hslashes]
              simp
        exact hurl _ hpart htrack
      · exact captureTrack_cons hu

/-! ## The code itself -/

theorem mem_dashed (hcode : ∀ u ∈ code, u ∈ ALPHABET) :
    ∀ u ∈ dashed code, u ∈ PREFIX ++ [unit '-'] ++ ALPHABET := by
  intro u hu
  simp only [dashed, List.mem_append, List.mem_cons] at hu ⊢
  rcases hu with (hu | rfl | hu) | rfl | hu
  · exact .inl (.inl hu)
  · simp
  · exact .inr (hcode u (List.mem_of_mem_take hu))
  · simp
  · exact .inr (hcode u (List.mem_of_mem_drop hu))

/-- Letters, digits and dashes go into a link as they are. -/
theorem dashed_units (hcode : ∀ u ∈ code, u ∈ ALPHABET) :
    ∀ u ∈ dashed code, isUnreserved u = true ∧ inPathSegment u = true ∧ u ≠ unit '%' := by
  have hall : ∀ u ∈ PREFIX ++ [unit '-'] ++ ALPHABET,
      isUnreserved u = true ∧ inPathSegment u = true ∧ u ≠ unit '%' := by decide
  exact fun u hu => hall u (mem_dashed hcode u hu)

theorem sameLetter_refl (s : Units) : List.Forall₂ SameLetter s s :=
  List.forall₂_same.mpr fun _ _ => rfl

/-- The code as it is generated is one of its renderings. -/
theorem rendering_dashed (hcode : ∀ u ∈ code, u ∈ ALPHABET) : Rendering code (dashed code) := by
  have hall : ∀ u ∈ ALPHABET, isMark u = false := by decide
  have hfilter : ∀ s : Units, (∀ u ∈ s, u ∈ ALPHABET) → (s.filter fun u => !isMark u) = s :=
    fun s hs => List.filter_eq_self.mpr fun u hu => by simp [hall u (hs u hu)]
  have htake := hfilter (code.take 4) fun u hu => hcode u (List.mem_of_mem_take hu)
  have hdrop := hfilter (code.drop 4) fun u hu => hcode u (List.mem_of_mem_drop hu)
  have hprefix : (PREFIX.filter fun u => !isMark u) = PREFIX := by decide
  have hdash : isMark (unit '-') = true := by decide
  refine ⟨PREFIX, code, ?_, .inr (sameLetter_refl PREFIX), ?_⟩
  · simp [dashed, List.filter_append, hprefix, hdash, htake, hdrop]
  · exact List.forall₂_same.mpr fun _ _ => .inl rfl

theorem captureTrack_link (hcode : ∀ u ∈ code, u ∈ ALPHABET) (m : Units) :
    captureTrack (text "/track/" ++ dashed code ++ unit '?' :: m) = some (dashed code) := by
  have hpart : ((dashed code ++ unit '?' :: m).takeWhile inPathSegment) = dashed code := by
    have hstop : inPathSegment (unit '?') = false := by decide
    rw [List.takeWhile_append_of_pos fun u hu => (dashed_units hcode u hu).2.1]
    simp [hstop]
  have hne : dashed code ≠ [] := by
    have hprefix : PREFIX = [76, 67, 77] := rfl
    simp [dashed, hprefix]
  unfold captureTrack
  have htake : ((text "/track/" ++ dashed code ++ unit '?' :: m).take 7).map lowerAscii =
      text "/track/" := rfl
  have hdrop : (text "/track/" ++ dashed code ++ unit '?' :: m).drop 7 =
      dashed code ++ unit '?' :: m := rfl
  rw [if_pos htake, hdrop, hpart]
  exact if_neg hne

/-- **A link is read back**, with anything after its token. -/
theorem normalize_link {frontendUrl url after : Units} {tokenFor : Units → Units}
    (hlength : code.length = CODE_LENGTH) (hcode : ∀ u ∈ code, u ∈ ALPHABET)
    (hparts : NoTrackPart frontendUrl)
    (hurl : urlFor frontendUrl tokenFor (dashed code) = .ok url) :
    normalizeTrackingCode upper (url ++ after) = .ok (some (dashed code)) := by
  have hunits := dashed_units hcode
  rw [urlFor, encodeURIComponent_unreserved fun u hu => (hunits u hu).1] at hurl
  have htrim : trim (url ++ after) =
      (frontendUrl.rdropWhile fun u => u = unit '/').dropWhile isWhitespace ++
        (text "/track/" ++ dashed code ++ unit '?' ::
          (text "t=" ++ tokenFor (dashed code) ++ after).rdropWhile isWhitespace) := by
    obtain rfl := Except.ok.inj hurl
    have hslash : isWhitespace (unit '/') = false := by decide
    have hquestion : isWhitespace (unit '?') = false := by decide
    have htext : text "/track/" = unit '/' :: text "track/" := rfl
    have hquery : text "?t=" = unit '?' :: text "t=" := rfl
    have happend := trim_append (a := frontendUrl.rdropWhile fun u => u = unit '/')
      (m := text "track/" ++ dashed code) (b := text "t=" ++ tokenFor (dashed code) ++ after)
      hslash hquestion
    rw [htext, hquery]
    simpa using happend
  have hexec : execTrack (trim (url ++ after)) = some (dashed code) := by
    rw [htrim, execTrack]
    refine findSome?_tails_append (fun t ht hne => ?_) (captureTrack_link hcode _)
    exact captureTrack_eq_none hparts (ht.trans (List.dropWhile_suffix isWhitespace)) hne
  rw [normalizeTrackingCode, hexec]
  simp only
  rw [decodeURIComponent_plain fun u hu => (hunits u hu).2.2, Except.map,
    (rendering_dashed hcode).readCode hlength hcode (fun _ hu => hu) rfl]

/-! ## Every way of writing -/

/-- The eight characters that these draws give. -/
def bodyOf (draw : Fin CODE_LENGTH → Fin ALPHABET.length) : Units :=
  List.ofFn fun i => ALPHABET[draw i]

/-- A rendering of the code, or its link from a front end whose address has no part
track, with a query or a fragment after it. -/
inductive Writes (draw : Fin CODE_LENGTH → Fin ALPHABET.length) : Units → Prop
  | rendering {s : Units} (h : Rendering (bodyOf draw) s) : Writes draw s
  | link {frontendUrl url after : Units} {tokenFor : Units → Units}
      (hparts : NoTrackPart frontendUrl)
      (hurl : urlFor frontendUrl tokenFor (generateTrackingCode draw) = .ok url) :
      Writes draw (url ++ after)

theorem bodyOf_length (draw : Fin CODE_LENGTH → Fin ALPHABET.length) :
    (bodyOf draw).length = CODE_LENGTH := List.length_ofFn

theorem bodyOf_mem (draw : Fin CODE_LENGTH → Fin ALPHABET.length) :
    ∀ u ∈ bodyOf draw, u ∈ ALPHABET := by
  intro u hu
  obtain ⟨i, rfl⟩ := (List.mem_ofFn' _ _).mp hu
  exact List.getElem_mem (draw i).isLt

/-- **Every way of writing down a code reads back as that code**, and so no two codes
share one. -/
theorem every_writing_reads_back (upper : UpperCase) :
    (∀ draw s, Writes draw s →
      normalizeTrackingCode upper s = .ok (some (generateTrackingCode draw))) ∧
    ∀ draw draw' s s', Writes draw s → Writes draw' s' →
      normalizeTrackingCode upper s = normalizeTrackingCode upper s' →
      generateTrackingCode draw = generateTrackingCode draw' := by
  have hread : ∀ draw s, Writes draw s →
      normalizeTrackingCode upper s = .ok (some (generateTrackingCode draw)) := by
    intro draw s h
    cases h with
    | rendering h => exact normalize_rendering (bodyOf_length draw) (bodyOf_mem draw) h
    | link hparts hurl => exact normalize_link (bodyOf_length draw) (bodyOf_mem draw) hparts hurl
  refine ⟨hread, fun draw draw' s s' h h' hsame => ?_⟩
  rw [hread draw s h, hread draw' s' h'] at hsame
  exact Option.some.inj (Except.ok.inj hsame)

/-- The code `LCM-1CM0-0000`. -/
def demoDraw : Fin CODE_LENGTH → Fin ALPHABET.length := fun i =>
  match i.val with
  | 0 => ⟨1, by decide⟩
  | 1 => ⟨12, by decide⟩
  | 2 => ⟨20, by decide⟩
  | _ => ⟨0, by decide⟩

/-- Written with an `l`, its body begins like the prefix. -/
theorem demo_writing_reads_back :
    normalizeTrackingCode ⟨fun s => s.map upperAscii, fun _ _ => rfl⟩ (text " lCm o.o_0oo") =
      .ok (some (generateTrackingCode demoDraw)) ∧
    normalizeTrackingCode ⟨fun s => s.map upperAscii, fun _ _ => rfl⟩
      (text "https://app.test/tracks/track/LCM-1CM0-0000?t=x&y#z") =
        .ok (some (generateTrackingCode demoDraw)) := by
  obtain ⟨hread, -⟩ := every_writing_reads_back ⟨fun s => s.map upperAscii, fun _ _ => rfl⟩
  constructor
  · refine hread demoDraw _ (.rendering ⟨[], text "lCmoo0oo", by decide, .inl rfl, ?_⟩)
    have hbody : bodyOf demoDraw = text "1CM00000" := by decide
    rw [hbody]
    decide
  · have hurl : urlFor (text "https://app.test/tracks/") (fun _ => text "x")
        (generateTrackingCode demoDraw) =
          .ok (text "https://app.test/tracks/track/LCM-1CM0-0000?t=x") := rfl
    have hparts : NoTrackPart (text "https://app.test/tracks/") := by
      unfold NoTrackPart
      decide
    have hlink : Writes demoDraw
        (text "https://app.test/tracks/track/LCM-1CM0-0000?t=x" ++ text "&y#z") :=
      .link hparts hurl
    exact hread demoDraw _ hlink

/-! ## Input that is no code -/

/-- `LCM-XXXX-XXXX` over the alphabet. -/
def IsCode (code : Units) : Prop :=
  ∃ body : Units, code = dashed body ∧ body.length = CODE_LENGTH ∧ ∀ u ∈ body, u ∈ ALPHABET

/-- What the admin's list of deliveries filters by: a text that is no code matches nothing. -/
def trackingCodeFilter (upper : UpperCase) (trackingCode : Units) : Except URIError Units :=
  (normalizeTrackingCode upper trackingCode).map fun code => code.getD []

/-- The text gives `null` or a code that reads as itself, and does not throw. -/
def ReadsSafely (upper : UpperCase) (input : Units) : Prop :=
  ∃ result, normalizeTrackingCode upper input = .ok result ∧
    trackingCodeFilter upper input = .ok (result.getD []) ∧
    ∀ code, result = some code →
      IsCode code ∧ normalizeTrackingCode upper code = .ok (some code)

theorem isCode_of_readCode {value code : Units} (h : readCode upper value = some code) :
    IsCode code := by
  unfold readCode at h
  simp only at h
  split at h
  · cases h
  split at h
  · next hlength hall =>
      refine ⟨_, (Option.some.inj h).symm, ?_, by simpa using hall⟩
      rw [List.length_map]
      exact not_not.mp hlength
  · cases h

theorem normalize_of_isCode (h : IsCode code) :
    normalizeTrackingCode upper code = .ok (some code) := by
  obtain ⟨body, rfl, hlength, hbody⟩ := h
  exact normalize_rendering hlength hbody (rendering_dashed hbody)

/-- **Reading a code fails** just when the text has a link whose code is not well-formed
percent-encoding. -/
theorem readsSafely_iff (upper : UpperCase) (input : Units) : ReadsSafely upper input ↔
    ∀ part, execTrack (trim input) = some part → WellFormed part := by
  have hsafe : (∃ result, normalizeTrackingCode upper input = .ok result ∧
      ∀ code, result = some code → IsCode code) → ReadsSafely upper input := by
    rintro ⟨result, hresult, hcode⟩
    refine ⟨result, hresult, by rw [trackingCodeFilter, hresult]; rfl, fun code h => ?_⟩
    exact ⟨hcode code h, normalize_of_isCode (hcode code h)⟩
  constructor
  · rintro ⟨result, hresult, -⟩ part hpart
    rw [normalizeTrackingCode, hpart] at hresult
    simp only at hresult
    refine decodeURIComponent_ok.mp ?_
    cases hdecode : decodeURIComponent part with
    | ok decoded => exact ⟨decoded, rfl⟩
    | error e =>
        rw [hdecode] at hresult
        cases hresult
  · intro hparts
    refine hsafe ?_
    unfold normalizeTrackingCode
    cases hpart : execTrack (trim input) with
    | none => exact ⟨_, rfl, fun code h => isCode_of_readCode h⟩
    | some part =>
        obtain ⟨decoded, hdecoded⟩ := decodeURIComponent_ok.mpr (hparts part hpart)
        refine ⟨readCode upper decoded, by simp only [hdecoded, Except.map], fun code h => ?_⟩
        exact isCode_of_readCode h

/-- A link with a stray percent sign. -/
theorem not_readsSafely : ¬ ∀ upper input, ReadsSafely upper input := by
  intro h
  obtain ⟨result, hresult, -⟩ :=
    h ⟨fun s => s.map upperAscii, fun _ _ => rfl⟩ (text "https://app.test/track/LCM-4F2K%")
  have hthrows : normalizeTrackingCode ⟨fun s => s.map upperAscii, fun _ _ => rfl⟩
      (text "https://app.test/track/LCM-4F2K%") = .error .malformed := rfl
  rw [hthrows] at hresult
  cases hresult

end Locoomo.TrackingInput
