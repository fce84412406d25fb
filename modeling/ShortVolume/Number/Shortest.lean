import ShortVolume.Number.Binary64
set_option autoImplicit false

/-!
The shortest decimal that reads back as a given number.

All reals between the two half-way points beside a number round to it; the points themselves do so
when its significand is even. Of the decimal grids with one digit, two digits, and so on, the first
with a point in that interval gives the digits, and of several points there the nearest one.
-/

namespace ShortVolume.Binary64

/-- A decimal `digits * 10 ^ exponent`. -/
structure Decimal where
  digits : Nat
  exponent : Int
  deriving DecidableEq, Repr

/-- A positive number and its two half-way points over one denominator. -/
structure Interval where
  low : Nat
  value : Nat
  high : Nat
  den : Nat
  closed : Bool
  deriving Repr

/-- The interval of reals that round to a positive finite number. Below a power of two the numbers
lie twice as dense. -/
def interval (x : Binary64) : Interval :=
  let m := x.significand
  let q := x.exponent - 2
  let below := if x.fractionField = 0 ∧ 1 < x.exponentField then 1 else 2
  let up := twoTo q.toNat
  ⟨(4 * m - below) * up, 4 * m * up, (4 * m + 2) * up, twoTo (-q).toNat, m % 2 == 0⟩

namespace Interval

/-- Whether `point / den` lies in the interval. -/
def contains (i : Interval) (point : Nat) : Bool :=
  if i.closed then i.low ≤ point && point ≤ i.high else i.low < point && point < i.high

/-- The interval with numerators and denominator scaled so that `10 ^ e` is a whole number of
units, and that number of units. -/
def onGrid (i : Interval) (e : Int) : Interval × Nat :=
  let s := tenTo (-e).toNat
  ({ i with low := i.low * s, value := i.value * s, high := i.high * s }, i.den * tenTo e.toNat)

/-- The point of the grid `10 ^ e` that lies in the interval, the nearer of two. -/
def point? (i : Interval) (e : Int) : Option Nat :=
  let (j, unit) := i.onGrid e
  let d := j.value / unit
  let below := j.contains (d * unit)
  let above := j.contains ((d + 1) * unit)
  let gapBelow := j.value - d * unit
  let gapAbove := (d + 1) * unit - j.value
  if below && above then
    some (if gapBelow < gapAbove || (gapBelow == gapAbove && d % 2 == 0) then d else d + 1)
  else if below then some d
  else if above then some (d + 1)
  else none

/-- The greatest `e` with `10 ^ e ≤ value / den`, found from `guess` downwards. -/
def magnitude (i : Interval) : Nat → Int → Int
  | 0, guess => guess
  | n + 1, guess =>
    let (j, unit) := i.onGrid guess
    if unit ≤ j.value then guess else i.magnitude n (guess - 1)

/-- The first of the grids with `n`, `n + 1`, … digits that has a point in the interval. -/
def search (i : Interval) (top : Int) : Nat → Nat → Decimal
  | 0, n => ⟨i.value / i.den, n⟩
  | left + 1, n =>
    let e := top - n + 1
    match i.point? e with
    | some d => ⟨d, e⟩
    | none => i.search top left (n + 1)

end Interval

/-- The decimal without the zeros at its end. -/
def Decimal.strip : Nat → Decimal → Decimal
  | 0, d => d
  | n + 1, d => if d.digits % 10 = 0 ∧ d.digits ≠ 0 then strip n ⟨d.digits / 10, d.exponent + 1⟩ else d

/-- The shortest decimal of a positive finite number. -/
def shortest (x : Binary64) : Decimal :=
  let i := x.interval
  let guess : Int := ((x.significand.log2 : Int) + x.exponent + 1) * 30103 / 100000 + 1
  (i.search (i.magnitude 4 guess) 17 1).strip 20

/-- How numbers that are no finite decimals are spelt. -/
structure Spelling where
  nan : String
  infinity : String
  negativeInfinity : String

/-- The text of a decimal. The point stands after digit `place`; between the fourth zero after the
point and sixteen digits before it the notation is positional, otherwise scientific with a signed
exponent of two digits or more. -/
def Decimal.text (d : Decimal) : List Char :=
  let ds := Nat.toDigits 10 d.digits
  let place : Int := ds.length + d.exponent
  if place ≤ 16 ∧ -4 < place then
    if place ≤ 0 then '0' :: '.' :: (List.replicate (-place).toNat '0' ++ ds)
    else if (ds.length : Int) ≤ place then
      ds ++ List.replicate (place - ds.length).toNat '0' ++ ['.', '0']
    else ds.take place.toNat ++ '.' :: ds.drop place.toNat
  else
    let e := place - 1
    let mantissa := match ds with
      | [] => []
      | [c] => [c]
      | c :: r => c :: '.' :: r
    let exponent := Nat.toDigits 10 e.natAbs
    mantissa ++ 'e' :: (if e < 0 then '-' else '+') ::
      (List.replicate (2 - exponent.length) '0' ++ exponent)

def text (x : Binary64) (s : Spelling) : String :=
  if x.isNaN then s.nan
  else if !x.isFinite then (if x.negative then s.negativeInfinity else s.infinity)
  else
    let sign := if x.negative then ['-'] else []
    String.ofList (sign ++ (if x.isZero then ['0', '.', '0'] else x.shortest.text))

/-- The spelling inside messages and quantities. -/
def Spelling.plain : Spelling := ⟨"nan", "inf", "-inf"⟩

example : (ofDecimal false 1 (-1)).text .plain = "0.1" := by decide +kernel
example : (ofDecimal false 5 (-324)).text .plain = "5e-324" := by decide +kernel
example : (ofDecimal false 1 16).text .plain = "1e+16" := by decide +kernel
example : (ofDecimal true 0 0).text .plain = "-0.0" := by decide +kernel

end ShortVolume.Binary64
