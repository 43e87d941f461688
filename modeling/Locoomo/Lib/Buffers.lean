import Locoomo.Lib.PercentEncoding

/-! Strings as bytes and back: `Buffer.from`, which writes UTF-8, and base64url.
ASCII text is written as itself, and by nothing else. -/

namespace Buffers

open Utf16 PercentEncoding

/-! ## Writing UTF-8 -/

def isSurrogate (u : Nat) : Bool := 0xD800 ≤ u && u < 0xE000

/-- What a unit outside a surrogate pair is written as; a lone surrogate as `U+FFFD`. -/
def unitBytes (u : Nat) : List UInt8 :=
  if isSurrogate u then [0xEF, 0xBF, 0xBD] else String.utf8EncodeChar (Char.ofNat u)

/-- `Buffer.from(s)`. -/
def fromString : Units → List UInt8
  | u :: v :: rest =>
      if (0xD800 ≤ u ∧ u < 0xDC00) ∧ 0xDC00 ≤ v ∧ v < 0xE000 then
        String.utf8EncodeChar (Char.ofNat (0x10000 + (u - 0xD800) * 0x400 + (v - 0xDC00)))
          ++ fromString rest
      else unitBytes u ++ fromString (v :: rest)
  | [u] => unitBytes u
  | [] => []

variable {s t : Units} {u : Nat} {c : Char}

theorem utf8EncodeChar_ascii (h : u < 128) :
    String.utf8EncodeChar (Char.ofNat u) = [UInt8.ofNat u] := by
  have hall : ∀ u < 128, String.utf8EncodeChar (Char.ofNat u) = [UInt8.ofNat u] := by decide
  exact hall u h

theorem unitBytes_ascii (h : u < 128) : unitBytes u = [UInt8.ofNat u] := by
  have hplain : isSurrogate u = false := by
    unfold isSurrogate
    simp
    omega
  rw [unitBytes, hplain, if_neg Bool.false_ne_true, utf8EncodeChar_ascii h]

theorem toNat_ofNat (h : u.isValidChar) : (Char.ofNat u).toNat = u := by
  rw [Char.ofNat, dif_pos h]
  rfl

/-- A character outside ASCII begins with an octet outside ASCII. -/
theorem utf8EncodeChar_head (h : 128 ≤ c.toNat) : ∃ first tail,
    String.utf8EncodeChar c = first :: tail ∧ 128 ≤ first.toNat := by
  obtain ⟨first, tail, hencoded, hcount⟩ := utf8EncodeChar_eq_cons c
  refine ⟨first, tail, hencoded, ?_⟩
  by_contra hfirst
  rw [octetCount, if_pos (Nat.lt_of_not_le hfirst), Option.some.injEq] at hcount
  have hsize : c.utf8Size = 1 := by
    rw [← String.length_utf8EncodeChar, hencoded, List.length_cons, ← hcount]
  have hle : c.toNat ≤ 127 := Char.utf8Size_eq_one_iff.mp hsize
  omega

theorem unitBytes_head (h : 128 ≤ u) (hunit : u < 0x10000) : ∃ first tail,
    unitBytes u = first :: tail ∧ 128 ≤ first.toNat := by
  unfold unitBytes
  split
  · exact ⟨0xEF, [0xBF, 0xBD], rfl, by decide⟩
  · next hplain =>
      refine utf8EncodeChar_head ?_
      have hvalid : u.isValidChar := by
        simp only [isSurrogate, Bool.and_eq_true, decide_eq_true_eq, not_and, not_lt] at hplain
        unfold Nat.isValidChar
        omega
      rwa [toNat_ofNat hvalid]

theorem ascii_ne_cons (hs : ∀ u ∈ s, u < 128) {first : UInt8} {tail : List UInt8}
    (h : 128 ≤ first.toNat) : first :: tail ≠ s.map UInt8.ofNat := by
  intro heq
  cases s with
  | nil => cases heq
  | cons u s =>
      have hu : u < 128 := hs u List.mem_cons_self
      have hfirst : first = UInt8.ofNat u := (List.cons.inj heq).1
      rw [hfirst, UInt8.toNat_ofNat', Nat.mod_eq_of_lt (by omega)] at h
      omega

/-- Only itself is written as an ASCII unit. -/
theorem unitBytes_append (hs : ∀ u ∈ s, u < 128) (hunit : u < 0x10000) {bytes : List UInt8}
    (h : unitBytes u ++ bytes = s.map UInt8.ofNat) :
    ∃ rest, s = u :: rest ∧ bytes = rest.map UInt8.ofNat := by
  by_cases hu : u < 128
  · rw [unitBytes_ascii hu] at h
    cases s with
    | nil => cases h
    | cons v s =>
        have hv : v < 128 := hs v List.mem_cons_self
        obtain ⟨hoctet, hrest⟩ := List.cons.inj h
        have huv := congrArg UInt8.toNat hoctet
        rw [UInt8.toNat_ofNat', UInt8.toNat_ofNat', Nat.mod_eq_of_lt (by omega),
          Nat.mod_eq_of_lt (by omega)] at huv
        exact ⟨s, by rw [huv], hrest⟩
  · obtain ⟨first, tail, hbytes, hfirst⟩ := unitBytes_head (Nat.le_of_not_lt hu) hunit
    rw [hbytes, List.cons_append] at h
    exact absurd h (ascii_ne_cons hs hfirst)

theorem fromString_cons_ascii (h : u < 128) (s : Units) :
    fromString (u :: s) = UInt8.ofNat u :: fromString s := by
  have hpair : ∀ v, ¬ ((0xD800 ≤ u ∧ u < 0xDC00) ∧ 0xDC00 ≤ v ∧ v < 0xE000) := by
    intro v
    omega
  cases s with
  | nil => rw [fromString, unitBytes_ascii h, fromString]
  | cons v s =>
      rw [fromString, if_neg (hpair v), unitBytes_ascii h]
      rfl

theorem fromString_ascii (hs : ∀ u ∈ s, u < 128) : fromString s = s.map UInt8.ofNat := by
  induction s with
  | nil => rfl
  | cons u s ih =>
      obtain ⟨hu, hs⟩ := List.forall_mem_cons.mp hs
      rw [fromString_cons_ascii hu, ih hs, List.map_cons]

/-- **Only itself is written as an ASCII text.** -/
theorem eq_of_fromString (hs : ∀ u ∈ s, u < 128) (ht : ∀ u ∈ t, u < 0x10000)
    (h : fromString t = fromString s) : t = s := by
  rw [fromString_ascii hs] at h
  induction t using fromString.induct generalizing s with
  | case1 u v rest hpair ih =>
      rw [fromString, if_pos hpair] at h
      have hvalid : (0x10000 + (u - 0xD800) * 0x400 + (v - 0xDC00)).isValidChar := by
        unfold Nat.isValidChar
        omega
      have hc : 128 ≤ (Char.ofNat (0x10000 + (u - 0xD800) * 0x400 + (v - 0xDC00))).toNat := by
        rw [toNat_ofNat hvalid]
        omega
      obtain ⟨first, tail, hbytes, hfirst⟩ := utf8EncodeChar_head hc
      rw [hbytes, List.cons_append] at h
      exact absurd h (ascii_ne_cons hs hfirst)
  | case2 u v rest hpair ih =>
      obtain ⟨hu, ht⟩ := List.forall_mem_cons.mp ht
      rw [fromString, if_neg hpair] at h
      obtain ⟨s', rfl, hrest⟩ := unitBytes_append hs hu h
      rw [ih (List.forall_mem_cons.mp hs).2 ht hrest]
  | case3 u =>
      rw [fromString, ← List.append_nil (unitBytes u)] at h
      obtain ⟨s', rfl, hrest⟩ := unitBytes_append hs (ht u List.mem_cons_self) h
      rw [List.map_eq_nil_iff.mp hrest.symm]
  | case4 =>
      rw [fromString] at h
      exact (List.map_eq_nil_iff.mp h.symm).symm

/-! ## base64url -/

def URL_ALPHABET : Units :=
  text "ABCDEFGHIJKLMNOPQRSTUVWXYZabcdefghijklmnopqrstuvwxyz0123456789-_"

def sextet (n : Nat) : Nat := URL_ALPHABET.getD (n % 64) 0

/-- `digest('base64url')`: four digits for three bytes, no padding. -/
def base64url : List UInt8 → Units
  | a :: b :: c :: rest =>
      let n := a.toNat * 65536 + b.toNat * 256 + c.toNat
      sextet (n / 262144) :: sextet (n / 4096) :: sextet (n / 64) :: sextet n :: base64url rest
  | [a, b] =>
      let n := a.toNat * 65536 + b.toNat * 256
      [sextet (n / 262144), sextet (n / 4096), sextet (n / 64)]
  | [a] => [sextet (a.toNat * 65536 / 262144), sextet (a.toNat * 65536 / 4096)]
  | [] => []

theorem sextet_ascii (n : Nat) : sextet n < 128 := by
  have hall : ∀ u ∈ URL_ALPHABET, u < 128 := by decide
  have hn : n % 64 < URL_ALPHABET.length := Nat.mod_lt n (by decide)
  rw [sextet, List.getD_eq_getElem?_getD, List.getElem?_eq_getElem hn]
  exact hall _ (List.getElem_mem hn)

theorem base64url_ascii (bytes : List UInt8) : ∀ u ∈ base64url bytes, u < 128 := by
  induction bytes using base64url.induct with
  | case1 a b c rest ih =>
      simp only [base64url, List.forall_mem_cons]
      exact ⟨sextet_ascii _, sextet_ascii _, sextet_ascii _, sextet_ascii _, ih⟩
  | case2 a b => simp [base64url, sextet_ascii]
  | case3 a => simp [base64url, sextet_ascii]
  | case4 => simp [base64url]

end Buffers
