import Locoomo.Lib.Utf16

/-! Percent-encoding of UTF-8 in strings of code units: `encodeURIComponent` on
what it leaves alone, and `decodeURIComponent`, which throws on every text that is
not well formed. -/

namespace PercentEncoding

open Utf16

/-- The value of a hexadecimal digit. -/
def hexValue (u : Nat) : Option Nat :=
  if unit '0' ≤ u ∧ u ≤ unit '9' then some (u - unit '0')
  else if unit 'A' ≤ u ∧ u ≤ unit 'F' then some (u - unit 'A' + 10)
  else if unit 'a' ≤ u ∧ u ≤ unit 'f' then some (u - unit 'a' + 10)
  else none

/-- `%XY` at the front of the text, and what follows. -/
def readOctet : Units → Option (UInt8 × Units)
  | p :: h :: l :: rest =>
      if p = unit '%' then do
        let high ← hexValue h
        let low ← hexValue l
        return (UInt8.ofNat (16 * high + low), rest)
      else none
  | _ => none

def readOctets : Nat → Units → Option (List UInt8 × Units)
  | 0, s => some ([], s)
  | n + 1, s => do
      let (octet, rest) ← readOctet s
      let (octets, rest) ← readOctets n rest
      return (octet :: octets, rest)

/-- How many octets the first one announces. -/
def octetCount (first : UInt8) : Option Nat :=
  if first.toNat < 0x80 then some 1
  else if 0xC0 ≤ first.toNat ∧ first.toNat < 0xE0 then some 2
  else if 0xE0 ≤ first.toNat ∧ first.toNat < 0xF0 then some 3
  else if 0xF0 ≤ first.toNat ∧ first.toNat < 0xF8 then some 4
  else none

/-- The character that the escapes at the front of the text encode. -/
def readChar (s : Units) : Option (Char × Units) := do
  let (first, _) ← readOctet s
  let count ← octetCount first
  let (octets, rest) ← readOctets count s
  let c ← octets.toByteArray.utf8DecodeChar? 0
  return (c, rest)

/-- No result when the text is malformed; the fuel is its length. -/
def decode : Nat → Units → Option Units
  | _, [] => some []
  | 0, _ :: _ => none
  | fuel + 1, u :: s =>
      if u = unit '%' then do
        let (c, rest) ← readChar (u :: s)
        let decoded ← decode fuel rest
        return encodeChar c ++ decoded
      else do
        let decoded ← decode fuel s
        return u :: decoded

/-- What `encodeURIComponent` leaves as it is: letters, digits and these marks. -/
def isUnreserved (u : Nat) : Bool :=
  unit 'a' ≤ u && u ≤ unit 'z' || unit 'A' ≤ u && u ≤ unit 'Z' || unit '0' ≤ u && u ≤ unit '9'
    || u ∈ text "-_.!~*'()"

def hexDigit (n : Nat) : Nat := if n < 10 then unit '0' + n else unit 'A' + (n - 10)

def escapeOctet (octet : UInt8) : Units :=
  [unit '%', hexDigit (octet.toNat / 16), hexDigit (octet.toNat % 16)]

/-- The character at the front of the text; a lone surrogate is none. -/
def codePointAt : Units → Option (Char × Units)
  | [] => none
  | u :: rest =>
      if 0xD800 ≤ u ∧ u < 0xDC00 then
        match rest with
        | v :: rest =>
            if 0xDC00 ≤ v ∧ v < 0xE000 then
              some (Char.ofNat (0x10000 + (u - 0xD800) * 0x400 + (v - 0xDC00)), rest)
            else none
        | [] => none
      else if 0xDC00 ≤ u ∧ u < 0xE000 then none
      else some (Char.ofNat u, rest)

def encode : Nat → Units → Option Units
  | _, [] => some []
  | 0, _ :: _ => none
  | fuel + 1, u :: s =>
      if isUnreserved u then do
        let encoded ← encode fuel s
        return u :: encoded
      else do
        let (c, rest) ← codePointAt (u :: s)
        let encoded ← encode fuel rest
        return (String.utf8EncodeChar c).flatMap escapeOctet ++ encoded

inductive URIError
  | malformed
  deriving DecidableEq, Repr

def decodeURIComponent (s : Units) : Except URIError Units :=
  match decode s.length s with
  | some decoded => .ok decoded
  | none => .error .malformed

def encodeURIComponent (s : Units) : Except URIError Units :=
  match encode s.length s with
  | some encoded => .ok encoded
  | none => .error .malformed

theorem encodeURIComponent_unreserved {s : Units} (h : ∀ u ∈ s, isUnreserved u = true) :
    encodeURIComponent s = .ok s := by
  have hencode : encode s.length s = some s := by
    induction s with
    | nil => rfl
    | cons u s ih =>
        obtain ⟨hu, hs⟩ := List.forall_mem_cons.mp h
        rw [List.length_cons, encode, if_pos hu, ih hs]
        rfl
  rw [encodeURIComponent, hencode]

/-! ## Well-formed text -/

/-- Each octet as a percent sign and two hexadecimal digits. -/
inductive Escapes : List UInt8 → Units → Prop
  | nil : Escapes [] []
  | cons {octet : UInt8} {octets : List UInt8} {s : Units} {h l high low : Nat}
      (hhigh : hexValue h = some high) (hlow : hexValue l = some low)
      (hoctet : octet = UInt8.ofNat (16 * high + low)) (hrest : Escapes octets s) :
      Escapes (octet :: octets) (unit '%' :: h :: l :: s)

/-- Every percent sign belongs to the escaped UTF-8 of a character. -/
inductive WellFormed : Units → Prop
  | nil : WellFormed []
  | plain {u : Nat} {s : Units} (hu : u ≠ unit '%') (hs : WellFormed s) : WellFormed (u :: s)
  | escape {e s : Units} (c : Char) (he : Escapes (String.utf8EncodeChar c) e)
      (hs : WellFormed s) : WellFormed (e ++ s)

variable {s rest : Units} {octets : List UInt8} {c : Char}

theorem octetCount_ofNat {n : Nat} (h : n < 256) : octetCount (UInt8.ofNat n) =
    if n < 0x80 then some 1
    else if 0xC0 ≤ n ∧ n < 0xE0 then some 2
    else if 0xE0 ≤ n ∧ n < 0xF0 then some 3
    else if 0xF0 ≤ n ∧ n < 0xF8 then some 4
    else none := by
  have hn : (UInt8.ofNat n).toNat = n := by
    rw [UInt8.toNat_ofNat']
    exact Nat.mod_eq_of_lt h
  rw [octetCount, hn]

/-- The first octet of a character announces all of them. -/
theorem utf8EncodeChar_eq_cons (c : Char) : ∃ first tail,
    String.utf8EncodeChar c = first :: tail ∧ octetCount first = some (tail.length + 1) := by
  have hc : c.val.toNat < 0x110000 := by
    rcases c.valid with h | h
    · omega
    · exact h.2
  unfold String.utf8EncodeChar
  simp only
  by_cases h1 : c.val.toNat ≤ 0x7F
  · rw [if_pos h1]
    refine ⟨_, _, rfl, ?_⟩
    rw [octetCount_ofNat (by omega), if_pos (by omega)]
    rfl
  rw [if_neg h1]
  by_cases h2 : c.val.toNat ≤ 0x7FF
  · rw [if_pos h2]
    refine ⟨_, _, rfl, ?_⟩
    rw [octetCount_ofNat (by omega), if_neg (by omega), if_pos (by omega)]
    rfl
  rw [if_neg h2]
  by_cases h3 : c.val.toNat ≤ 0xFFFF
  · rw [if_pos h3]
    refine ⟨_, _, rfl, ?_⟩
    rw [octetCount_ofNat (by omega), if_neg (by omega), if_neg (by omega), if_pos (by omega)]
    rfl
  · rw [if_neg h3]
    refine ⟨_, _, rfl, ?_⟩
    rw [octetCount_ofNat (by omega), if_neg (by omega), if_neg (by omega), if_neg (by omega),
      if_pos (by omega)]
    rfl

/-! ## Reading escapes -/

theorem Escapes.readOctets (h : Escapes octets s) :
    readOctets octets.length (s ++ rest) = some (octets, rest) := by
  induction h with
  | nil => rfl
  | cons hhigh hlow hoctet _ ih =>
      simp [PercentEncoding.readOctets, readOctet, hhigh, hlow, hoctet, ih]

theorem escapes_of_readOctet {octet : UInt8} (h : readOctet s = some (octet, rest)) :
    ∃ x l high low, s = unit '%' :: x :: l :: rest ∧ hexValue x = some high ∧
      hexValue l = some low ∧ octet = UInt8.ofNat (16 * high + low) := by
  unfold readOctet at h
  split at h
  · next p x l rest' =>
      split at h
      · next hp =>
          obtain ⟨high, hhigh, h⟩ := Option.bind_eq_some_iff.mp h
          obtain ⟨low, hlow, h⟩ := Option.bind_eq_some_iff.mp h
          obtain ⟨rfl, rfl⟩ : UInt8.ofNat (16 * high + low) = octet ∧ rest' = rest := by
            simpa using h
          exact ⟨x, l, high, low, by rw [hp], hhigh, hlow, rfl⟩
      · cases h
  · cases h

theorem escapes_of_readOctets {n : Nat} (h : readOctets n s = some (octets, rest)) :
    ∃ e, s = e ++ rest ∧ Escapes octets e ∧ octets.length = n := by
  induction n generalizing s octets with
  | zero =>
      obtain ⟨rfl, rfl⟩ : [] = octets ∧ s = rest := by simpa [readOctets] using h
      exact ⟨[], rfl, .nil, rfl⟩
  | succ n ih =>
      rw [readOctets] at h
      obtain ⟨⟨octet, s'⟩, hoctet, h⟩ := Option.bind_eq_some_iff.mp h
      obtain ⟨⟨octets', rest'⟩, hoctets, h⟩ := Option.bind_eq_some_iff.mp h
      obtain ⟨rfl, rfl⟩ : octet :: octets' = octets ∧ rest' = rest := by simpa using h
      obtain ⟨x, l, high, low, rfl, hhigh, hlow, hvalue⟩ := escapes_of_readOctet hoctet
      obtain ⟨e, rfl, he, hlength⟩ := ih hoctets
      exact ⟨unit '%' :: x :: l :: e, rfl, .cons hhigh hlow hvalue he, by simp [hlength]⟩

theorem readOctet_of_readOctets {n : Nat} {octet : UInt8}
    (h : readOctets (n + 1) s = some (octet :: octets, rest)) :
    ∃ s', readOctet s = some (octet, s') := by
  rw [readOctets] at h
  obtain ⟨⟨octet', s'⟩, hoctet, h⟩ := Option.bind_eq_some_iff.mp h
  obtain ⟨⟨octets', rest'⟩, -, h⟩ := Option.bind_eq_some_iff.mp h
  obtain ⟨⟨rfl, -⟩, -⟩ : (octet' = octet ∧ octets' = octets) ∧ rest' = rest := by simpa using h
  exact ⟨s', hoctet⟩

theorem toByteArray_eq_append {l l' : List UInt8} {b : ByteArray}
    (h : l.toByteArray = l'.toByteArray ++ b) : l = l' ++ b.data.toList := by
  have hdata := congrArg (fun bytes => bytes.data.toList) h
  simpa using hdata

/-- **A character is read** just when the text begins with its escapes. -/
theorem readChar_eq_some : readChar s = some (c, rest) ↔
    ∃ e, s = e ++ rest ∧ Escapes (String.utf8EncodeChar c) e := by
  obtain ⟨first, tail, hencoded, hcount⟩ := utf8EncodeChar_eq_cons c
  constructor
  · intro h
    obtain ⟨⟨octet, s'⟩, hoctet, h⟩ := Option.bind_eq_some_iff.mp h
    obtain ⟨count, hannounced, h⟩ := Option.bind_eq_some_iff.mp h
    obtain ⟨⟨octets, rest'⟩, hoctets, h⟩ := Option.bind_eq_some_iff.mp h
    obtain ⟨c', hchar, h⟩ := Option.bind_eq_some_iff.mp h
    obtain ⟨rfl, rfl⟩ : c' = c ∧ rest' = rest := by simpa using h
    obtain ⟨e, rfl, he, hlength⟩ := escapes_of_readOctets hoctets
    obtain ⟨b, hb⟩ := ByteArray.exists_of_utf8DecodeChar?_eq_some hchar
    have happend := toByteArray_eq_append hb
    rw [hencoded, List.cons_append] at happend
    -- the octet that announced the count is the character's first one
    have hfirst : octet = first := by
      rw [happend] at hoctets
      obtain ⟨n, rfl⟩ : ∃ n, count = n + 1 := ⟨count - 1, by simp [happend] at hlength; omega⟩
      obtain ⟨s'', hread⟩ := readOctet_of_readOctets hoctets
      rw [hoctet] at hread
      simpa using congrArg (Option.map Prod.fst) hread
    rw [hfirst, hcount, Option.some.injEq] at hannounced
    have hnone : b.data.toList = [] := by
      rw [happend, List.length_cons, List.length_append] at hlength
      exact List.eq_nil_of_length_eq_zero (by omega)
    rw [hnone, List.append_nil] at happend
    exact ⟨e, rfl, by rw [hencoded, ← happend]; exact he⟩
  · rintro ⟨e, rfl, he⟩
    have hoctets : readOctets (String.utf8EncodeChar c).length (e ++ rest)
        = some (String.utf8EncodeChar c, rest) := he.readOctets
    have hread := hoctets
    rw [hencoded, List.length_cons] at hread
    obtain ⟨s', hfirst⟩ := readOctet_of_readOctets hread
    have hcount' : octetCount first = some (String.utf8EncodeChar c).length := by
      rw [hcount, hencoded, List.length_cons]
    have hchar : (String.utf8EncodeChar c).toByteArray.utf8DecodeChar? 0 = some c := by
      have happend :=
        ByteArray.utf8DecodeChar?_utf8EncodeChar_append (b := ByteArray.empty) (c := c)
      rwa [ByteArray.append_empty] at happend
    simp [readChar, hfirst, hcount', hoctets, hchar, -String.length_utf8EncodeChar]

/-! ## Decoding -/

theorem escapes_char_eq_cons {e : Units} (h : Escapes (String.utf8EncodeChar c) e) :
    ∃ e', e = unit '%' :: e' := by
  obtain ⟨first, tail, hencoded, -⟩ := utf8EncodeChar_eq_cons c
  rw [hencoded] at h
  cases h with
  | cons hhigh hlow hoctet hrest => exact ⟨_, rfl⟩

theorem wellFormed_cons {u : Nat} (hu : u ≠ unit '%') : WellFormed (u :: s) ↔ WellFormed s := by
  constructor
  · intro h
    generalize ht : u :: s = t at h
    cases h with
    | nil => cases ht
    | plain _ hs =>
        obtain ⟨-, rfl⟩ := List.cons.inj ht
        exact hs
    | escape c he hs =>
        obtain ⟨e', rfl⟩ := escapes_char_eq_cons he
        exact absurd (List.cons.inj ht).1 hu
  · exact WellFormed.plain hu

/-- A text that begins with a percent sign is well formed when a character can be read
off it and the rest is well formed. -/
theorem wellFormed_percent : WellFormed (unit '%' :: s) ↔
    ∃ c rest, readChar (unit '%' :: s) = some (c, rest) ∧ WellFormed rest := by
  constructor
  · intro h
    generalize ht : unit '%' :: s = t at h
    cases h with
    | nil => cases ht
    | plain hu hs => exact absurd (List.cons.inj ht).1.symm hu
    | escape c he hs => exact ⟨c, _, readChar_eq_some.mpr ⟨_, rfl, he⟩, hs⟩
  · rintro ⟨c, rest, hread, hrest⟩
    obtain ⟨e, he, hescapes⟩ := readChar_eq_some.mp hread
    rw [he]
    exact .escape c hescapes hrest

theorem length_lt_of_readChar (h : readChar s = some (c, rest)) : rest.length < s.length := by
  obtain ⟨e, rfl, he⟩ := readChar_eq_some.mp h
  obtain ⟨e', rfl⟩ := escapes_char_eq_cons he
  simp only [List.cons_append, List.length_cons, List.length_append]
  omega

theorem isSome_bind_some {α β : Type} (f : α → β) (o : Option α) :
    (o.bind fun a => some (f a)).isSome = o.isSome := by
  cases o with
  | none => rfl
  | some a => rfl

/-- With the text's length for fuel, decoding fails on malformed text only. -/
theorem decode_isSome {fuel : Nat} (hfuel : s.length ≤ fuel) :
    (decode fuel s).isSome = true ↔ WellFormed s := by
  induction fuel generalizing s with
  | zero =>
      obtain rfl : s = [] := List.eq_nil_of_length_eq_zero (by omega)
      exact ⟨fun _ => .nil, fun _ => rfl⟩
  | succ fuel ih =>
      cases s with
      | nil => exact ⟨fun _ => .nil, fun _ => rfl⟩
      | cons u s =>
          rw [List.length_cons] at hfuel
          rw [decode]
          by_cases hu : u = unit '%'
          · rw [if_pos hu, hu, wellFormed_percent]
            cases hread : readChar (unit '%' :: s) with
            | none => simp
            | some read =>
                obtain ⟨c, rest⟩ := read
                have hlt := length_lt_of_readChar hread
                rw [List.length_cons] at hlt
                have hrest := ih (s := rest) (by omega)
                simp [← hrest, isSome_bind_some]
          · rw [if_neg hu, wellFormed_cons hu, ← ih (by omega)]
            simp [isSome_bind_some]

/-- **`decodeURIComponent` throws** just when the text is malformed. -/
theorem decodeURIComponent_ok : (∃ decoded, decodeURIComponent s = .ok decoded) ↔ WellFormed s := by
  rw [← decode_isSome le_rfl, decodeURIComponent]
  cases decode s.length s with
  | none => simp
  | some decoded => simp

/-- Text without percent signs decodes to itself. -/
theorem decodeURIComponent_plain (h : ∀ u ∈ s, u ≠ unit '%') : decodeURIComponent s = .ok s := by
  have hdecode : decode s.length s = some s := by
    induction s with
    | nil => rfl
    | cons u s ih =>
        obtain ⟨hu, hs⟩ := List.forall_mem_cons.mp h
        rw [List.length_cons, decode, if_neg hu, ih hs]
        rfl
  rw [decodeURIComponent, hdecode]

end PercentEncoding
