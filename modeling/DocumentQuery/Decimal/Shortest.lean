/-
SHORTEST DECIMALS. Among the decimals that read back as a given float, `shortest` finds one with the fewest digits and,
of those, the one nearest to the float. Reading back means falling into the interval of numbers that round to the float;
its ends belong to it when the significand is even.
-/
import DocumentQuery.Decimal.Digits
import DocumentQuery.Decimal.Nearest

namespace DocumentQuery

/-- a positive decimal `digits · 10^exponent` -/
structure Decimal where
  digits : Nat
  exponent : Int
  deriving DecidableEq, Repr

/-- largest `e` with `10^e ≤ num / den`, for positive arguments -/
def floorLog10 (num den : Nat) : Int :=
  if den ≤ num then (decimalDigits (num / den)).length - 1
  else
    let e := (decimalDigits (den / num)).length
    if den ≤ num * Nat.pow 10 (e - 1) then -((e : Int) - 1) else -(e : Int)

/-- scales a quotient down by a power of ten -/
def scaleDown (num den : Nat) (e : Int) : Nat × Nat :=
  if 0 ≤ e then (num, den * Nat.pow 10 e.toNat) else (num * Nat.pow 10 (-e).toNat, den)

/-- whether the decimal `d · 10^e` lies in the rounding interval of the positive finite float `x` -/
def readsBack (x : Float) (d : Nat) (e : Int) : Bool :=
  nearestDecimal false d e == x

/-- drops the zeros at the end of the digits -/
def Decimal.trimmed (d : Decimal) : Nat → Decimal
  | 0 => d
  | steps + 1 => if d.digits % 10 = 0 ∧ d.digits ≠ 0 then trimmed ⟨d.digits / 10, d.exponent + 1⟩ steps else d

/-- the nearer of the two decimals around the float on the grid of `10^e`, if one of them reads back -/
def onGrid? (x : Float) (e : Int) : Option Decimal :=
  let (num, den) := fraction x
  let (n, m) := scaleDown num den e
  let below := n / m
  let nearer := roundDiv n m
  let farther := if nearer = below then below + 1 else below
  if readsBack x nearer e then some ⟨nearer, e⟩
  else if readsBack x farther e then some ⟨farther, e⟩
  else none

/-- the first grid with a hit, from coarse to fine; seventeen digits always suffice -/
def shortestFrom (x : Float) (top : Int) : Nat → Nat → Decimal
  | _, 0 => ⟨0, 0⟩
  | used, left + 1 =>
    match onGrid? x (top - used) with
    | some d => d
    | none => shortestFrom x top (used + 1) left

/-- shortest decimal that reads back as the magnitude of a finite float; zero for zero -/
def shortest (x : Float) : Decimal :=
  let y := ofMagnitude false (magnitudeBits x)
  if magnitudeBits x = 0 then ⟨0, 0⟩
  else
    let (num, den) := fraction y
    (shortestFrom y (floorLog10 num den) 0 18).trimmed 20

end DocumentQuery
