/-
AREAS of documents: polygons with holes, and collections of polygons. A point on a boundary belongs to an area, also on
the boundary of a hole. Where a point lies is decided by the winding number of each ring.

Rings that cannot be read are left out; the first one that can is the outer ring.
-/
import DocumentQuery.Geometry.Orientation

namespace DocumentQuery

/-- where a point lies with respect to a closed curve -/
inductive Location where
  | inside
  | boundary
  | outside
  deriving DecidableEq, Repr

/-- a ring with its first point repeated at the end, unless it ends there anyway -/
def closeRing (ring : List Point) : List Point :=
  match ring with
  | [] => []
  | a :: rest => if ((a :: rest).getLast?).any (Point.same a) then ring else ring ++ [a]

/-- edges between consecutive points -/
def edges : List Point → List (Point × Point)
  | a :: b :: rest => (a, b) :: edges (b :: rest)
  | _ => []

/-- whether a number lies between two others, ends included -/
def liesBetween (x a b : Float) : Bool := if a < b then a ≤ x && x ≤ b else b ≤ x && x ≤ a

/-- whether the point lies on the edge -/
def onEdge (p : Point) (e : Point × Point) : Bool :=
  liesBetween p.2 e.1.2 e.2.2 && sideOf e.1 e.2 p == .onLine && liesBetween p.1 e.1.1 e.2.1

/-- turns that the edge adds around the point: one up where it rises past the point on its right, one down where it
falls -/
def turns (p : Point) (e : Point × Point) : Int :=
  if e.1.2 ≤ p.2 then (if p.2 < e.2.2 ∧ sideOf e.1 e.2 p = .left then 1 else 0)
  else if e.2.2 ≤ p.2 ∧ sideOf e.1 e.2 p = .right then -1
  else 0

/-- where a point lies with respect to a ring; a ring of one point has that point for a boundary -/
def locate (p : Point) (ring : List Point) : Location :=
  match closeRing ring with
  | [a] => if Point.same p a then .boundary else .outside
  | closed =>
    let es := edges closed
    if es.any (onEdge p) then .boundary
    else if (es.map (turns p)).foldr (· + ·) 0 = 0 then .outside
    else .inside

/-- a polygon: its outer ring and its holes -/
structure Polygon where
  outer : List Point
  holes : List (List Point)

/-- whether no hole swallows a point: the first hole that has it inside or on its boundary decides -/
def outsideHoles (p : Point) : List (List Point) → Bool
  | [] => true
  | hole :: rest =>
    match locate p hole with
    | .outside => outsideHoles p rest
    | .boundary => true
    | .inside => false

/-- whether a point belongs to a polygon -/
def Polygon.covers (g : Polygon) (p : Point) : Bool :=
  match locate p g.outer with
  | .outside => false
  | .boundary => true
  | .inside => outsideHoles p g.holes

/-- a polygon from an array of rings -/
def Polygon.ofJson? : Json → Option Polygon
  | .arr items =>
    match items.filterMap Point.ring? with
    | [] => none
    | outer :: holes => some ⟨outer, holes⟩
  | _ => none

/-- polygons of a geometry of type `Polygon` or `MultiPolygon` -/
def polygonsOf (kind : String) (coordinates : Json) : List Polygon :=
  if kind = "Polygon" then (Polygon.ofJson? coordinates).toList
  else if kind = "MultiPolygon" then (coordinates.arr?.getD []).filterMap Polygon.ofJson?
  else []

/-- whether a geometry holds a point: a point holds itself, an area all of its points -/
def containsPoint (geometry : Json) (p : Point) : Bool :=
  match (geometry.field? "type").bind Json.str? with
  | none => false
  | some kind =>
    if kind = "Point" then (Point.ofJson? geometry).any (Point.same · p)
    else
      match geometry.field? "coordinates" with
      | none => false
      | some coordinates => (polygonsOf kind coordinates).any (Polygon.covers · p)

end DocumentQuery
