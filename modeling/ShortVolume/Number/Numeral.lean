import ShortVolume.Number.Binary64
import ShortVolume.Text.Blank
import ShortVolume.Text.Digit
set_option autoImplicit false

/-!
Numerals: texts that name a number.

The digits may be those of any script. A sign may stand before them, a mark of the base between the
two, and blanks around the whole.
-/

namespace ShortVolume.Numeral

/-- The most digits that a decimal integer may have. -/
def digitLimit : Nat := 4300

/-- Blanks around a numeral: all but the four information separators. -/
def isPadding (c : Char) : Bool := Text.isBlank c && !('\x1c' ≤ c && c ≤ '\x1f')

/-- The numeral without the blanks around it, with the digits 0 to 9. -/
def plain (s : List Char) : List Char :=
  (((s.dropWhile isPadding).reverse.dropWhile isPadding).reverse).map Text.plainDigit

/-- Whether there is a minus sign, and the rest after a sign. -/
def signed : List Char → Bool × List Char
  | '-' :: r => (true, r)
  | '+' :: r => (false, r)
  | s => (false, s)

def withSign (negative : Bool) (i : Int) : Int := if negative then -i else i

/-! ### Integers -/

def digit? (base : Nat) (c : Char) : Option Nat :=
  let d :=
    if '0' ≤ c && c ≤ '9' then c.toNat - '0'.toNat
    else if 'a' ≤ c && c ≤ 'z' then c.toNat - 'a'.toNat + 10
    else if 'A' ≤ c && c ≤ 'Z' then c.toNat - 'A'.toNat + 10
    else base
  if d < base then some d else none

def digitsValue? (base : Nat) (ds : List Char) : Option Nat :=
  ds.foldl (fun n c => n.bind (fun n => (digit? base c).map (n * base + ·))) (some 0)

/-- The letters that mark a base after a zero. -/
def baseLetters (base : Nat) : List Char :=
  if base = 16 then ['x', 'X'] else if base = 8 then ['o', 'O'] else if base = 2 then ['b', 'B']
  else []

/-- The digits after the mark of the base, if it is there. -/
def withoutBase (base : Nat) : List Char → List Char
  | '0' :: c :: r => if (baseLetters base).contains c then r else '0' :: c :: r
  | s => s

/-- The integer that a numeral names in a base. -/
def integer? (base : Nat) (s : List Char) : Option Int :=
  let (negative, rest) := signed (plain s)
  let ds := withoutBase base rest
  if ds.isEmpty || (base = 10 && digitLimit < ds.length) then none
  else (digitsValue? base ds).map (fun n => withSign negative n)

/-! ### Numbers with a fraction -/

def isDigit (c : Char) : Bool := '0' ≤ c && c ≤ '9'

/-- The exponent of a decimal, zero if there is none. -/
def exponent? : List Char → Option Int
  | [] => some 0
  | 'e' :: r =>
    let (negative, ds) := signed r
    if ds.isEmpty then none else (digitsValue? 10 ds).map (fun n => withSign negative n)
  | _ => none

/-- A decimal with perhaps a point and an exponent. -/
def decimal? (negative : Bool) (s : List Char) : Option Binary64 := do
  let whole := s.takeWhile isDigit
  let (fraction, tail) := match s.dropWhile isDigit with
    | '.' :: r => (r.takeWhile isDigit, r.dropWhile isDigit)
    | tail => ([], tail)
  if whole.isEmpty && fraction.isEmpty then none
  else
    let e ← exponent? tail
    let m ← digitsValue? 10 (whole ++ fraction)
    return Binary64.ofDecimal negative m (e - fraction.length)

/-- The number that a numeral in lower case names: a decimal or the infinite or undefined one. -/
def number? (s : List Char) : Option Binary64 :=
  let (negative, rest) := signed (plain s)
  if rest = "inf".toList ∨ rest = "infinity".toList then some (.infinity negative)
  else if rest = "nan".toList then some .nan
  else decimal? negative rest

example : integer? 16 " -0x1F ".toList = some (-31) ∧ integer? 10 "٤٢".toList = some 42 ∧
    integer? 10 "0x1".toList = none ∧ integer? 2 "0b".toList = none := by decide +kernel

end ShortVolume.Numeral
