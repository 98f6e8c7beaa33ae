/-
ORIENTATION of three points: on which side of the line through two of them the third one lies. The determinant that
decides it is computed in floats first, together with a bound on its error; only when the bound does not settle the
sign are its rounding errors computed, too, in three rounds.

The sign is exact unless a product leaves the range of floats. Beyond that range the answer is what the same
computation gives with zeros, infinities and values that are no numbers; such a value counts as zero.
-/
import DocumentQuery.Geometry.Point

namespace DocumentQuery

/-! ## Sums and products without error -/

/-- a float together with the error that rounding has left out of it -/
structure Rounded where
  value : Float
  error : Float

namespace Rounded

/-- error of a difference that has been rounded to `x` -/
def differenceError (a b x : Float) : Float :=
  let virtual := a - x
  (a - (x + virtual)) + (virtual - b)

def difference (a b : Float) : Rounded := ⟨a - b, differenceError a b (a - b)⟩

def sum (a b : Float) : Rounded :=
  let x := a + b
  let virtual := x - a
  ⟨x, (a - (x - virtual)) + (b - virtual)⟩

/-- upper and lower half of the digits of a float -/
def halves (a : Float) : Float × Float :=
  let c := 134217729.0 * a
  let high := c - (c - a)
  (high, a - high)

def product (a b : Float) : Rounded :=
  let x := a * b
  let (aHigh, aLow) := halves a
  let (bHigh, bLow) := halves b
  ⟨x, aLow * bLow - (((x - aHigh * bHigh) - aLow * bHigh) - aHigh * bLow)⟩

end Rounded

/-! ## Expansions -/

/-- a number as a sum of floats that do not overlap, from the smallest magnitude on -/
abbrev Expansion := List Float

namespace Expansion

/-- the difference of two rounded numbers, errors included -/
def ofDifference (a b : Rounded) : Expansion :=
  let low := Rounded.difference a.error b.error
  let middle := Rounded.sum a.value low.value
  let high := Rounded.difference middle.error b.value
  let top := Rounded.sum middle.value high.value
  [low.error, high.error, top.error, top.value]

/-- the difference of two products -/
def ofProducts (a b c d : Float) : Expansion := ofDifference (Rounded.product a b) (Rounded.product c d)

/-- whether the first float goes before the second one, by magnitude -/
def before (a b : Float) : Bool := decide (a < b) == decide (-a < b)

/-- all parts of two expansions by increasing magnitude -/
def merge : Expansion → Expansion → Expansion
  | [], f => f
  | e, [] => e
  | a :: e, b :: f => if before a b then a :: merge e (b :: f) else b :: merge (a :: e) f
termination_by e f => e.length + f.length

/-- parts left over when a running total takes in further parts, and the total at the end unless it adds nothing -/
def accumulate (total : Float) (kept : Bool) : Expansion → Expansion
  | [] => if total != 0.0 || !kept then [total] else []
  | a :: rest =>
    let s := Rounded.sum total a
    if s.error != 0.0 then s.error :: accumulate s.value true rest else accumulate s.value kept rest

/-- the sum of two expansions -/
def plus (e f : Expansion) : Expansion :=
  match merge e f with
  | [] => []
  | a :: rest => accumulate a false rest

/-- the sum of the parts, rounded at each step -/
def estimate : Expansion → Float
  | [] => 0.0
  | a :: rest => rest.foldl (· + ·) a

end Expansion

/-! ## Determinants -/

/-- half the distance from one to the next larger float -/
def halfStep : Float := 1.0 / 9007199254740992.0

/-- whether a computed determinant is at least as large as a bound on its error -/
def settles (determinant bound : Float) : Bool := bound ≤ determinant || bound ≤ -determinant

/-- the determinant of `a - c` and `b - c` from the exact products of its terms -/
def refinedDeterminant (a b c : Point) (magnitude : Float) : Float :=
  let (ax, bx, ay, bY) := (a.1 - c.1, b.1 - c.1, a.2 - c.2, b.2 - c.2)
  let products := Expansion.ofProducts ax bY ay bx
  let first := products.estimate
  if settles first ((2.0 + 12.0 * halfStep) * halfStep * magnitude) then first
  else
    let (axTail, bxTail) := (Rounded.differenceError a.1 c.1 ax, Rounded.differenceError b.1 c.1 bx)
    let (ayTail, byTail) := (Rounded.differenceError a.2 c.2 ay, Rounded.differenceError b.2 c.2 bY)
    if axTail == 0.0 && ayTail == 0.0 && bxTail == 0.0 && byTail == 0.0 then first
    else
      let bound := (9.0 + 64.0 * halfStep) * halfStep * halfStep * magnitude
        + (3.0 + 8.0 * halfStep) * halfStep * first.abs
      let second := first + ((ax * byTail + bY * axTail) - (ay * bxTail + bx * ayTail))
      if settles second bound then second
      else
        let all := ((products.plus (.ofProducts axTail bY ayTail bx)).plus (.ofProducts ax byTail ay bxTail)).plus
          (.ofProducts axTail byTail ayTail bxTail)
        all.getLast?.getD 0.0

/-- twice the signed area of the triangle: positive when it turns counter-clockwise -/
def determinant (a b c : Point) : Float :=
  let left := (a.1 - c.1) * (b.2 - c.2)
  let right := (a.2 - c.2) * (b.1 - c.1)
  let magnitude := (left + right).abs
  if settles (left - right) (3.3306690621773722e-16 * magnitude) then left - right
  else refinedDeterminant a b c magnitude

/-- the side of the line through two points on which a third one lies -/
inductive Side where
  | left
  | right
  | onLine
  deriving DecidableEq, Repr

/-- the side of the line from `a` to `b` on which `c` lies -/
def sideOf (a b c : Point) : Side :=
  let d := determinant a b c
  if d < 0.0 then .right else if 0.0 < d then .left else .onLine

end DocumentQuery
