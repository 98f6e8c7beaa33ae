/-
FLOATS AS EXACT NUMBERS. A finite float is `± m · 2^e` with integers `m` and `e`, read off its bits; `nearest` goes the
other way and gives the float nearest to any quotient of natural numbers, so decimals, square roots and integers are all
rounded once, from the exact value.

`floatPlace` numbers the floats from minus infinity to infinity with consecutive integers: two finite floats compare as
their places do, and both zeros have place zero.
-/

namespace DocumentQuery

/-! ## From bits to numbers -/

/-- the bits of a float as a number -/
def floatBits (x : Float) : Nat := x.toBits.toNat

def isNegative (x : Float) : Bool := Nat.pow 2 63 ≤ floatBits x

/-- the bits without the sign -/
def magnitudeBits (x : Float) : Nat := floatBits x % Nat.pow 2 63

/-- the integer `m` of `m · 2^e` -/
def significand (x : Float) : Nat :=
  let b := magnitudeBits x
  if b < Nat.pow 2 52 then b else b % Nat.pow 2 52 + Nat.pow 2 52

/-- the exponent `e` of `m · 2^e`; the least one is -1074 -/
def binaryExponent (x : Float) : Int :=
  let b := magnitudeBits x
  if b < Nat.pow 2 52 then -1074 else (b / Nat.pow 2 52 : Nat) - 1075

/-- infinities and undefined values have the largest exponent field -/
def isFinite (x : Float) : Bool := magnitudeBits x < 0x7FF * Nat.pow 2 52

/-- place of a float among all floats, counted from zero -/
def floatPlace (x : Float) : Int :=
  if isNegative x then -(magnitudeBits x : Int) else magnitudeBits x

/-! ## From numbers to bits -/

/-- the float with these bits apart from the sign -/
def ofMagnitude (negative : Bool) (bits : Nat) : Float :=
  Float.ofBits (UInt64.ofNat (if negative then bits + Nat.pow 2 63 else bits))

/-- quotient rounded to the nearest integer, a half to the even one -/
def roundDiv (num den : Nat) : Nat :=
  let q := num / den
  let r := num % den
  if den < 2 * r ∨ (2 * r = den ∧ q % 2 = 1) then q + 1 else q

/-- largest `e` with `2^e ≤ num / den`, for positive arguments -/
def floorLog2 (num den : Nat) : Int :=
  let e : Int := (Nat.log2 num : Int) - (Nat.log2 den : Int)
  let reached := if 0 ≤ e then den * Nat.pow 2 e.toNat ≤ num else den ≤ num * Nat.pow 2 (-e).toNat
  if reached then e else e - 1

/-- bits of the float nearest to `num / den`, a half to the even significand, too large a value to infinity -/
def nearestBits (num den : Nat) : Nat :=
  if num = 0 then 0
  else
    let unit := max (floorLog2 num den - 52) (-1074)
    let m :=
      if 0 ≤ unit then roundDiv num (den * Nat.pow 2 unit.toNat) else roundDiv (num * Nat.pow 2 (-unit).toNat) den
    min ((unit + 1074).toNat * Nat.pow 2 52 + m) (0x7FF * Nat.pow 2 52)

/-- the float nearest to `± num / den` -/
def nearest (negative : Bool) (num den : Nat) : Float := ofMagnitude negative (nearestBits num den)

/-- the float nearest to `± m · 10^e` -/
def nearestDecimal (negative : Bool) (m : Nat) (e : Int) : Float :=
  if 0 ≤ e then nearest negative (m * Nat.pow 10 e.toNat) 1 else nearest negative m (Nat.pow 10 (-e).toNat)

/-- the float nearest to an integer -/
def nearestInt (n : Int) : Float := nearest (n < 0) n.natAbs 1

/-- numerator and denominator of the magnitude of a finite float -/
def fraction (x : Float) : Nat × Nat :=
  let e := binaryExponent x
  if 0 ≤ e then (significand x * Nat.pow 2 e.toNat, 1) else (significand x, Nat.pow 2 (-e).toNat)

/-- a finite float as an integer number of units of `2^-1074`, the smallest positive float -/
def inSmallestUnits (x : Float) : Int :=
  let m : Nat := significand x * Nat.pow 2 (binaryExponent x + 1074).toNat
  if isNegative x then -(m : Int) else m

end DocumentQuery
