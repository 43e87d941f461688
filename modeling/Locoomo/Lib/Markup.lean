import Locoomo.Lib.Utf16

/-! Reading HTML: which code units of a text are markup, which are values inside it
and which are shown, with the character references resolved. A reader is more
wary here than a browser is: every `<` opens a tag, and every quotation mark in a tag
opens a value. -/

namespace Markup

open Utf16

/-! ## The reader -/

def quotationMark : Nat := 34
def apostrophe : Nat := 39

inductive Token
  | markup (u : Nat)
  | value (u : Nat)
  | shown (u : Nat)
  deriving DecidableEq

/-- Where the reader stands: in what is shown or in a quoted value, in a tag, or in a
character reference within one of the first two. -/
inductive Mode
  | plain (quote : Option Nat)
  | tag
  | reference (quote : Option Nat) (name : Units)
  deriving DecidableEq

/-- What a unit is where it stands for itself. -/
def literal : Option Nat → Nat → Token
  | none, u => .shown u
  | some _, u => .value u

def NAMES : List (Units × Nat) :=
  [(text "amp", unit '&'), (text "lt", unit '<'), (text "gt", unit '>'),
    (text "quot", quotationMark), (text "apos", apostrophe)]

def isDigit (u : Nat) : Bool := unit '0' ≤ u && u ≤ unit '9'

def isNamePart (u : Nat) : Bool :=
  isDigit u || (unit 'a' ≤ u && u ≤ unit 'z') || (unit 'A' ≤ u && u ≤ unit 'Z')
    || u = unit '#'

/-- A decimal reference, to one unit. -/
def numberOf (digits : Units) : Option Nat :=
  if digits ≠ [] ∧ digits.all isDigit then
    let n := digits.foldl (fun n u => 10 * n + (u - unit '0')) 0
    if n < 0x10000 then some n else none
  else none

/-- What a reference stands for, if it is one. -/
def character (name : Units) : Option Nat :=
  if name.head? = some (unit '#') then numberOf name.tail else NAMES.lookup name

def readPlain (quote : Option Nat) (u : Nat) : Mode × List Token :=
  if u = unit '&' then (.reference quote [], [])
  else if quote = none ∧ u = unit '<' ∨ quote = some u then (.tag, [.markup u])
  else (.plain quote, [literal quote u])

def readUnit : Mode → Nat → Mode × List Token
  | .plain quote, u => readPlain quote u
  | .tag, u =>
      if u = unit '>' then (.plain none, [.markup u])
      else if u = quotationMark ∨ u = apostrophe then (.plain (some u), [.markup u])
      else (.tag, [.markup u])
  | .reference quote name, u =>
      if u = unit ';' then
        match character name with
        | some v => (.plain quote, [literal quote v])
        | none => (.plain quote, (unit '&' :: name ++ [u]).map (literal quote))
      else if isNamePart u then (.reference quote (name ++ [u]), [])
      -- not a reference after all
      else ((readPlain quote u).1,
        (unit '&' :: name).map (literal quote) ++ (readPlain quote u).2)

def read : Mode → Units → Mode × List Token
  | m, [] => (m, [])
  | m, u :: s => ((read (readUnit m u).1 s).1, (readUnit m u).2 ++ (read (readUnit m u).1 s).2)

theorem read_append (m : Mode) (s s' : Units) :
    read m (s ++ s') =
      ((read (read m s).1 s').1, (read m s).2 ++ (read (read m s).1 s').2) := by
  induction s generalizing m with
  | nil => rfl
  | cons u s ih => simp only [List.cons_append, read, ih, List.append_assoc]

/-! ## Escaped text -/

/-- The places where text may stand. -/
def PLACES : List (Option Nat) := [none, some quotationMark, some apostrophe]

/-- Wherever text may stand, the reader takes `s` for the text `t` and stays there. -/
def Stands (s t : Units) : Prop :=
  ∀ quote ∈ PLACES, read (.plain quote) s = (.plain quote, t.map (literal quote))

def SPECIAL : Units := [unit '&', unit '<', quotationMark, apostrophe]

variable {s s' t t' : Units} {u : Nat}

theorem Stands.append (h : Stands s t) (h' : Stands s' t') : Stands (s ++ s') (t ++ t') := by
  intro quote hquote
  rw [read_append, h quote hquote, h' quote hquote, List.map_append]

theorem stands_unit (hu : u ∉ SPECIAL) : Stands [u] [u] := by
  simp only [SPECIAL, List.mem_cons, List.not_mem_nil, or_false, not_or] at hu
  obtain ⟨hamp, hlt, hquotation, hapostrophe⟩ := hu
  intro quote hquote
  simp only [PLACES, List.mem_cons, List.not_mem_nil, or_false] at hquote
  have hstay : ¬ (quote = none ∧ u = unit '<' ∨ quote = some u) := by
    rcases hquote with rfl | rfl | rfl
    · simpa using hlt
    · simpa using Ne.symm hquotation
    · simpa using Ne.symm hapostrophe
  simp only [read, readUnit, readPlain, if_neg hamp, if_neg hstay]
  rfl

/-- **Escaping is undone by reading**, unit by unit. -/
theorem stands_flatMap {esc : Nat → Units} (hesc : ∀ u, Stands (esc u) [u]) (t : Units) :
    Stands (t.flatMap esc) t := by
  induction t with
  | nil => exact fun _ _ => rfl
  | cons u t ih => exact (hesc u).append ih

/-- A text with nothing special in it needs no escaping. -/
theorem stands_self (hs : ∀ u ∈ s, u ∉ SPECIAL) : Stands s s := by
  induction s with
  | nil => exact fun _ _ => rfl
  | cons u s ih =>
      have hrest := ih fun v hv => hs v (List.mem_cons_of_mem _ hv)
      exact (stands_unit (hs u List.mem_cons_self)).append hrest

/-! ## Documents -/

/-- The markup, with the values in it. -/
def markupOf (ts : List Token) : Units :=
  ts.filterMap fun
    | .markup u | .value u => some u
    | .shown _ => none

/-- What is shown. -/
def shownOf (ts : List Token) : Units :=
  ts.filterMap fun
    | .shown u => some u
    | _ => none

/-- From one place to another, the reader takes `s` for this markup around these words. -/
structure Reads (m : Mode) (s : Units) (m' : Mode) (markup words : Units) : Prop where
  mode : (read m s).1 = m'
  markup : markupOf (read m s).2 = markup
  words : shownOf (read m s).2 = words

instance (m : Mode) (s : Units) (m' : Mode) (markup words : Units) :
    Decidable (Reads m s m' markup words) :=
  decidable_of_iff ((read m s).1 = m' ∧ markupOf (read m s).2 = markup ∧
    shownOf (read m s).2 = words)
    ⟨fun ⟨hmode, hmarkup, hwords⟩ => ⟨hmode, hmarkup, hwords⟩,
      fun h => ⟨h.mode, h.markup, h.words⟩⟩

variable {m m' m'' : Mode} {markup markup' words words' : Units}

theorem Reads.append (h : Reads m s m' markup words) (h' : Reads m' s' m'' markup' words') :
    Reads m (s ++ s') m'' (markup ++ markup') (words ++ words') := by
  have hread := read_append m s s'
  rw [h.mode] at hread
  refine ⟨?_, ?_, ?_⟩
  · rw [hread, h'.mode]
  · rw [hread, markupOf, List.filterMap_append]
    exact congrArg₂ _ h.markup h'.markup
  · rw [hread, shownOf, List.filterMap_append]
    exact congrArg₂ _ h.words h'.words

/-- Whole fragments: from what is shown to what is shown. -/
abbrev Shows (s markup words : Units) : Prop := Reads (.plain none) s (.plain none) markup words

theorem Shows.append (h : Shows s markup words) (h' : Shows s' markup' words') :
    Shows (s ++ s') (markup ++ markup') (words ++ words') := Reads.append h h'

theorem Shows.tags (h : Shows s markup words) (h' : Shows s' markup' []) :
    Shows (s ++ s') (markup ++ markup') words := by
  simpa using Shows.append h h'

theorem Shows.say (h : Shows s markup words) (h' : Shows s' [] words') :
    Shows (s ++ s') markup (words ++ words') := by
  simpa using Shows.append h h'

/-- Text between tags is shown. -/
theorem Shows.text (h : Shows s markup words) (hstands : Stands s' t) :
    Shows (s ++ s') markup (words ++ t) := by
  have hread := hstands none (by decide)
  have htext : Reads (.plain none) s' (.plain none) [] t := by
    refine ⟨by rw [hread], ?_, ?_⟩
    · rw [hread]
      simp [markupOf, List.filterMap_map, Function.comp_def, literal]
    · rw [hread]
      simp [shownOf, List.filterMap_map, Function.comp_def, literal]
  exact Shows.say h htext

/-- Text in a quoted value belongs to the tag. -/
theorem Reads.value {q : Nat} (h : Reads m s (.plain (some q)) markup words)
    (hq : some q ∈ PLACES) (hstands : Stands s' t) :
    Reads m (s ++ s') (.plain (some q)) (markup ++ t) words := by
  have hread := hstands (some q) hq
  have hvalue : Reads (.plain (some q)) s' (.plain (some q)) t [] := by
    refine ⟨by rw [hread], ?_, ?_⟩
    · rw [hread]
      simp [markupOf, List.filterMap_map, Function.comp_def, literal]
    · rw [hread]
      simp [shownOf, List.filterMap_map, Function.comp_def, literal]
  simpa using h.append hvalue

end Markup
