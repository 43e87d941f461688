import Mathlib.Data.List.DropRight
import Mathlib.Data.List.Basic

/-! Strings as their UTF-16 code units, one number a unit. -/

namespace Utf16

abbrev Units := List Nat

/-- The code unit of a character below `0x10000`. -/
abbrev unit (c : Char) : Nat := c.toNat

/-- A literal, all of its characters below `0x10000`. -/
def text (s : String) : Units := s.toList.map unit

/-- The code units of a character, one or a surrogate pair. -/
def encodeChar (c : Char) : Units :=
  if c.toNat < 0x10000 then [c.toNat]
  else [0xD800 + (c.toNat - 0x10000) / 0x400, 0xDC00 + (c.toNat - 0x10000) % 0x400]

/-- White space and line terminators: what `trim` removes and `\s` matches. -/
def isWhitespace (u : Nat) : Bool :=
  u ∈ [0x9, 0xA, 0xB, 0xC, 0xD, 0x20, 0xA0, 0x1680, 0x2028, 0x2029, 0x202F, 0x205F, 0x3000, 0xFEFF]
    || 0x2000 ≤ u && u ≤ 0x200A

def trim (s : Units) : Units := (s.dropWhile isWhitespace).rdropWhile isWhitespace

def lowerAscii (u : Nat) : Nat := if unit 'A' ≤ u ∧ u ≤ unit 'Z' then u + 32 else u

def upperAscii (u : Nat) : Nat := if unit 'a' ≤ u ∧ u ≤ unit 'z' then u - 32 else u

/-- `toUpperCase`: below 128 it is a matter of single letters. -/
structure UpperCase where
  apply : Units → Units
  ascii : ∀ s, (∀ u ∈ s, u < 128) → apply s = s.map upperAscii

/-! ## Trimming -/

variable {a m b : Units} {u v : Nat}

theorem dropWhile_append_of_stop {p : Nat → Bool} (h : p u = false) :
    (a ++ u :: m).dropWhile p = a.dropWhile p ++ u :: m := by
  induction a with
  | nil => simp [h]
  | cons x a ih =>
      cases hx : p x with
      | true => simp [hx, ih]
      | false => simp [hx]

theorem rdropWhile_append_of_stop {p : Nat → Bool} (h : p u = false) :
    (m ++ u :: b).rdropWhile p = m ++ u :: b.rdropWhile p := by
  unfold List.rdropWhile
  have hreverse : (m ++ u :: b).reverse = b.reverse ++ u :: m.reverse := by simp
  rw [hreverse, dropWhile_append_of_stop h]
  simp

/-- What stands between two units that are not white space survives. -/
theorem trim_append (hu : isWhitespace u = false) (hv : isWhitespace v = false) :
    trim (a ++ u :: m ++ v :: b) =
      a.dropWhile isWhitespace ++ u :: m ++ v :: b.rdropWhile isWhitespace := by
  unfold trim
  have hleft : (a ++ u :: m ++ v :: b).dropWhile isWhitespace =
      a.dropWhile isWhitespace ++ u :: m ++ v :: b := by
    rw [List.append_assoc, List.cons_append, dropWhile_append_of_stop hu]
    simp
  rw [hleft, rdropWhile_append_of_stop hv]

end Utf16
