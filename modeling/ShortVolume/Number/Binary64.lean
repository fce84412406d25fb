import ShortVolume.Number.Natural
set_option autoImplicit false

/-!
Double-precision numbers, by their 64 bits.

A finite number is `significand * 2 ^ exponent`, with its sign. `ofRatio` rounds a ratio of natural
numbers to the nearest number, a tie to the even significand; `ofDecimal` does so for a decimal
with an exponent. All arithmetic is exact, on `Nat` and `Int`.
-/

namespace ShortVolume

/-- A double-precision number. -/
structure Binary64 where
  bits : UInt64
  deriving DecidableEq, Repr

namespace Binary64

def word (x : Binary64) : Nat := x.bits.toNat

def negative (x : Binary64) : Bool := twoTo 63 ≤ x.word

def exponentField (x : Binary64) : Nat := x.word / twoTo 52 % twoTo 11

def fractionField (x : Binary64) : Nat := x.word % twoTo 52

def isFinite (x : Binary64) : Bool := x.exponentField != 2047

def isNaN (x : Binary64) : Bool := x.exponentField == 2047 && x.fractionField != 0

def isZero (x : Binary64) : Bool := x.exponentField == 0 && x.fractionField == 0

def significand (x : Binary64) : Nat :=
  if x.exponentField = 0 then x.fractionField else x.fractionField + twoTo 52

def exponent (x : Binary64) : Int := (max 1 x.exponentField : Nat) - 1075

/-- The number with the given sign and the given word of exponent and fraction. -/
def ofFields (negative : Bool) (magnitude : Nat) : Binary64 :=
  ⟨UInt64.ofNat ((if negative then twoTo 63 else 0) + magnitude)⟩

def zero (negative : Bool) : Binary64 := ofFields negative 0

def infinity (negative : Bool) : Binary64 := ofFields negative (2047 * twoTo 52)

def nan : Binary64 := ofFields false (2047 * twoTo 52 + twoTo 51)

/-- An undefined number that is told apart from others by its payload. -/
def nanWith (payload : Nat) : Binary64 :=
  ofFields false (2047 * twoTo 52 + twoTo 51 + payload % twoTo 51)

def negate (x : Binary64) : Binary64 := ofFields (!x.negative) (x.word % twoTo 63)

/-- Numbers are equal when they have one value: both zeros are, and a NaN equals nothing. -/
def same (x y : Binary64) : Bool :=
  !x.isNaN && !y.isNaN && (x == y || (x.isZero && y.isZero))

def isInt (x : Binary64) (i : Int) : Bool :=
  x.isFinite && (i == 0 || x.negative == decide (i < 0)) &&
    (if 0 ≤ x.exponent then x.significand * twoTo x.exponent.toNat == i.natAbs
     else x.significand == i.natAbs * twoTo (-x.exponent).toNat)

/-- `num / (den * 2 ^ q)` as a ratio of natural numbers. -/
def scaled (num den : Nat) (q : Int) : Nat × Nat :=
  if 0 ≤ q then (num, den * twoTo q.toNat) else (num * twoTo (-q).toNat, den)

/-- The number nearest to `num / den`. The unit in the last place is `2 ^ q`, where `q` leaves 53
bits before the point, or is that of the smallest numbers. -/
def ofRatio (negative : Bool) (num den : Nat) : Binary64 :=
  if num = 0 then zero negative
  else
    let guess : Int := max (-1074) ((num.log2 : Int) - den.log2 - 53)
    let first := scaled num den guess
    let wide : Nat := (first.1 / first.2).log2 - 52
    let q : Int := guess + wide
    let ratio := scaled num den q
    let n := roundHalfEven ratio.1 ratio.2
    let magnitude := if n < twoTo 52 then n else (q + 1074).toNat * twoTo 52 + n
    if 2047 * twoTo 52 ≤ magnitude then infinity negative else ofFields negative magnitude

/-- The number nearest to `m * 10 ^ e`. Decimals far outside the range are decided by their size,
before any power is taken. -/
def ofDecimal (negative : Bool) (m : Nat) (e : Int) : Binary64 :=
  if m = 0 then zero negative
  else
    let digits : Int := (Nat.toDigits 10 m).length
    if 320 < digits + e then infinity negative
    else if digits + e < -340 then zero negative
    else if 0 ≤ e then ofRatio negative (m * tenTo e.toNat) 1
    else ofRatio negative m (tenTo (-e).toNat)

def ofInt (i : Int) : Binary64 := ofRatio (i < 0) i.natAbs 1

/-- A finite number as a ratio of an integer and a natural number. -/
def ratio (x : Binary64) : Int × Nat :=
  let n : Int := x.significand * twoTo x.exponent.toNat
  (if x.negative then -n else n, twoTo (-x.exponent).toNat)

/-- The number nearest to the sum. -/
def plus (x y : Binary64) : Binary64 :=
  if x.isNaN || y.isNaN then nan
  else if !x.isFinite then (if !y.isFinite && x != y then nan else x)
  else if !y.isFinite then y
  else
    let (a, b) := x.ratio
    let (c, d) := y.ratio
    let n := a * d + c * b
    ofRatio (if n = 0 then x.negative && y.negative else n < 0) n.natAbs (b * d)

/-- The number nearest to the product. -/
def times (x y : Binary64) : Binary64 :=
  if x.isNaN || y.isNaN || (!x.isFinite && y.isZero) || (!y.isFinite && x.isZero) then nan
  else if !x.isFinite || !y.isFinite then infinity (x.negative != y.negative)
  else
    let (a, b) := x.ratio
    let (c, d) := y.ratio
    ofRatio (x.negative != y.negative) (a * c).natAbs (b * d)

example : ofDecimal false 1 (-1) = ⟨0x3FB999999999999A⟩ := by decide +kernel
example : ofDecimal true 5 (-324) = ⟨0x8000000000000001⟩ := by decide +kernel
example : ofDecimal false 17976931348623159 292 = infinity false := by decide +kernel

end Binary64

end ShortVolume
