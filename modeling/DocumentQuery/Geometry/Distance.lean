/-
DISTANCES between points: along the sphere in metres, and in the plane in the unit of the coordinates.
-/
import DocumentQuery.Geometry.Point

namespace DocumentQuery

/-- metres -/
def earthRadius : Float := 6371000.0

/-- pi over 180, as a float -/
def radiansPerDegree : Float := Float.ofBits 0x3F91DF46A2529D39

def toRadians (degrees : Float) : Float := degrees * radiansPerDegree

/-- distance along a great circle, by the haversine formula -/
def sphericalDistance (lat1 lng1 lat2 lng2 : Float) : Float :=
  let halfLat := (toRadians (lat2 - lat1) / 2.0).sin
  let halfLng := (toRadians (lng2 - lng1) / 2.0).sin
  let a := halfLat * halfLat + (toRadians lat1).cos * (toRadians lat2).cos * (halfLng * halfLng)
  let angle := 2.0 * Float.atan2 a.sqrt (1.0 - a).sqrt
  earthRadius * angle

/-- float nearest to the square root of `n / 4^k`; the root is taken to 64 bits more than a float holds -/
def nearestRoot (n k : Nat) : Float :=
  let extra := 128
  let scaled := n * Nat.pow 4 extra
  let root := sqrtFloor scaled
  -- a root that is not exact counts as slightly larger, so that it never looks like a half
  let exact := root * root = scaled
  nearest false (if exact then 2 * root else 2 * root + 1) (Nat.pow 2 (k + extra + 1))
where
  /-- largest number whose square does not exceed `n` -/
  sqrtFloor (n : Nat) : Nat := go n (Nat.pow 2 (Nat.log2 n / 2 + 1)) (Nat.log2 n + 2)
  /-- one step of the method of Newton from above, while it gets smaller -/
  go (n x : Nat) : Nat → Nat
    | 0 => x
    | steps + 1 => let y := (x + n / x) / 2; if y < x then go n y steps else x

/-- length of the hypotenuse over two legs, rounded once. Math libraries leave the precision of this function to the
platform, so elsewhere the last bits of a straight distance may be others. -/
def hypotenuse (x y : Float) : Float :=
  if isFinite x && isFinite y then
    let (a, b) := (inSmallestUnits x, inSmallestUnits y)
    nearestRoot (a * a + b * b).toNat 1074
  else ofMagnitude false (0x7FF * Nat.pow 2 52)

/-- straight distance -/
def planarDistance (lat1 lng1 lat2 lng2 : Float) : Float := hypotenuse (lat2 - lat1) (lng2 - lng1)

end DocumentQuery
