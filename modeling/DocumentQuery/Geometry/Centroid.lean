/-
CENTROIDS: the mean of the corners of the first ring found by going into the first items of nested coordinates. A
closing corner that repeats the first one counts once.
-/
import DocumentQuery.Geometry.Point

namespace DocumentQuery

/-- corners of a ring without its closing one -/
def corners (ring : List Point) : List Point :=
  match ring with
  | a :: b :: rest =>
    if ((a :: b :: rest).getLast?).any (Point.same a) then (a :: b :: rest).dropLast else ring
  | _ => ring

/-- mean of points, summed from front to back -/
def meanPoint (points : List Point) : Point :=
  let sum := points.foldl (fun s p => (s.1 + p.1, s.2 + p.2)) ((0.0 : Float), (0.0 : Float))
  let count := nearestInt points.length
  (sum.1 / count, sum.2 / count)

mutual

/-- mean of the first ring in nested coordinates, if there is one -/
def centroid? : Json → Option Point
  | .arr items =>
    match items.mapM Point.ofPair? with
    | some (p :: ring) => some (meanPoint (corners (p :: ring)))
    | _ => centroidOfFirst? items
  | _ => none

def centroidOfFirst? : List Json → Option Point
  | [] => none
  | v :: _ => centroid? v

end

end DocumentQuery
