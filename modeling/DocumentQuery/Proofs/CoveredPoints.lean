/-
COVERED POINTS. Holes take points away from a polygon and add none, and a collection of polygons covers what one of them
covers. Rings that cannot be read are left out before the first of the rest becomes the outer one:

- `Polygon.covers_of_append`: with more holes a polygon covers no more points;
- `Polygon.Clear`, `Polygon.covers_iff_of_clear`: covered points by their locations, unless rings cross at the point;
- `Polygon.ofJson?_of_ring?`, `Polygon.ofJson?_of_unreadable`: what the first ring becomes;
- `Json.area`, `containsPoint_area`: of a geometry only its kind and its coordinates count;
- `containsPoint_rings`: what rings behind the first one may add, and what a collection covers;
- `hole_becomes_area`: behind an outer ring that cannot be read, a hole covers its own inside.
-/
import DocumentQuery.Geometry.Area

namespace DocumentQuery

/-! ## Holes -/

theorem outsideHoles_append {p : Point} {holes more : List (List Point)} (h : outsideHoles p (holes ++ more) = true) :
    outsideHoles p holes = true := by
  induction holes with
  | nil => rfl
  | cons hole rest ih =>
    rw [List.cons_append, outsideHoles] at h
    rw [outsideHoles]
    cases hplace : locate p hole with
    | outside =>
      rw [hplace] at h
      exact ih h
    | boundary => rfl
    | inside =>
      rw [hplace] at h
      cases h

/-- a point that is inside of no hole is not taken away -/
theorem outsideHoles_of_not_inside {p : Point} {holes : List (List Point)}
    (h : ∀ hole ∈ holes, locate p hole ≠ .inside) : outsideHoles p holes = true := by
  induction holes with
  | nil => rfl
  | cons hole rest ih =>
    obtain ⟨hfirst, hrest⟩ := List.forall_mem_cons.1 h
    rw [outsideHoles]
    cases hplace : locate p hole with
    | outside => exact ih hrest
    | boundary => rfl
    | inside => exact absurd hplace hfirst

/-- a point that is inside of a hole is taken away, unless it is on the boundary of one -/
theorem not_outsideHoles_of_inside {p : Point} {hole : List Point} {holes : List (List Point)}
    (hclear : ∀ other ∈ holes, locate p other ≠ .boundary) (hmem : hole ∈ holes) (h : locate p hole = .inside) :
    outsideHoles p holes = false := by
  induction holes with
  | nil => cases hmem
  | cons other rest ih =>
    obtain ⟨hfirst, hrest⟩ := List.forall_mem_cons.1 hclear
    rw [outsideHoles]
    cases hplace : locate p other with
    | outside =>
      rcases List.mem_cons.1 hmem with rfl | hmem
      · rw [h] at hplace
        cases hplace
      · exact ih hrest hmem
    | boundary => exact absurd hplace hfirst
    | inside => rfl

namespace Polygon

/-- **Holes only take away.** What a polygon covers it covers with fewer holes, too. -/
theorem covers_of_append {outer : List Point} {holes more : List (List Point)} {p : Point}
    (h : covers ⟨outer, holes ++ more⟩ p = true) : covers ⟨outer, holes⟩ p = true := by
  unfold covers at h ⊢
  cases hplace : locate p outer with
  | outside =>
    rw [hplace] at h
    cases h
  | boundary => rfl
  | inside =>
    rw [hplace] at h
    exact outsideHoles_append h

/-- a point on a boundary of the polygon is inside of no hole -/
def Clear (g : Polygon) (p : Point) : Prop :=
  ∀ ring ∈ g.outer :: g.holes, locate p ring = .boundary → ∀ hole ∈ g.holes, locate p hole ≠ .inside

instance (g : Polygon) (p : Point) : Decidable (g.Clear p) :=
  inferInstanceAs (Decidable (∀ ring ∈ _, _ → ∀ hole ∈ _, _))

/-- **Covered points.** Unless its rings cross at the point, a polygon covers it if it is not outside of the outer
ring and not inside of a hole. -/
theorem covers_iff_of_clear {g : Polygon} {p : Point} (hclear : g.Clear p) :
    g.covers p = true ↔ locate p g.outer ≠ .outside ∧ ∀ hole ∈ g.holes, locate p hole ≠ .inside := by
  obtain ⟨houter, hholes⟩ := List.forall_mem_cons.1 hclear
  unfold covers
  cases hplace : locate p g.outer with
  | outside => simp
  | boundary => simpa using houter hplace
  | inside =>
    simp only [ne_eq, reduceCtorEq, not_false_eq_true, true_and]
    constructor
    · intro h hole hmem hinside
      have hoff : ∀ other ∈ g.holes, locate p other ≠ .boundary := fun other hother hboundary =>
        hholes other hother hboundary hole hmem hinside
      rw [not_outsideHoles_of_inside hoff hmem hinside] at h
      cases h
    · exact outsideHoles_of_not_inside

/-! ## Rings that can be read -/

section

variable {r : Json} {rest : List Json} {outer : List Point}

theorem ofJson?_of_ring? (h : Point.ring? r = some outer) :
    ofJson? (.arr (r :: rest)) = some ⟨outer, rest.filterMap Point.ring?⟩ := by
  rw [ofJson?, List.filterMap_cons_some h]

theorem ofJson?_of_unreadable (h : Point.ring? r = none) : ofJson? (.arr (r :: rest)) = ofJson? (.arr rest) := by
  rw [ofJson?, List.filterMap_cons_none h, ofJson?]

end

end Polygon

/-! ## Geometries -/

/-- the geometry of a kind with these coordinates -/
def Json.area (kind : String) (coordinates : Json) : Json := .obj [("coordinates", coordinates), ("type", .str kind)]

section

variable {r coordinates : Json} {rest members : List Json} {p : Point}

/-- other fields of a geometry do not matter -/
theorem containsPoint_area {geometry : Json} {kind : String} (hkind : geometry.field? "type" = some (.str kind))
    (hcoordinates : geometry.field? "coordinates" = some coordinates) (p : Point) :
    containsPoint geometry p = containsPoint (.area kind coordinates) p := by
  have hkind' : (Json.area kind coordinates).field? "type" = some (.str kind) := rfl
  have hcoordinates' : (Json.area kind coordinates).field? "coordinates" = some coordinates := rfl
  cases geometry with
  | obj fields =>
    have hpoint : Point.ofJson? (.obj fields) = Point.ofJson? (.area kind coordinates) := by
      have htype : Document.find? fields "type" = some (.str kind) := hkind
      have hplace : Document.find? fields "coordinates" = some coordinates := hcoordinates
      rw [Point.ofJson?, htype, hplace]
      rfl
    unfold containsPoint
    rw [hkind, hkind', hcoordinates, hcoordinates', hpoint]
  | _ => cases hkind

theorem containsPoint_polygon (coordinates : Json) (p : Point) :
    containsPoint (.area "Polygon" coordinates) p = (Polygon.ofJson? coordinates).any (·.covers p) := by
  show (Polygon.ofJson? coordinates).toList.any _ = _
  cases Polygon.ofJson? coordinates with
  | none => rfl
  | some g => exact Bool.or_false _

theorem containsPoint_multiPolygon (members : List Json) (p : Point) :
    containsPoint (.area "MultiPolygon" (.arr members)) p =
      members.any fun m => containsPoint (.area "Polygon" m) p := by
  show (members.filterMap Polygon.ofJson?).any _ = _
  rw [List.any_filterMap]
  refine congrArg (members.any ·) (funext fun m => ?_)
  rw [containsPoint_polygon]
  cases Polygon.ofJson? m <;> rfl

/-- a ring that can be read covers, alone, what it covers with other rings behind it -/
theorem containsPoint_alone (h : (Point.ring? r).isSome = true)
    (hall : containsPoint (.area "Polygon" (.arr (r :: rest))) p = true) :
    containsPoint (.area "Polygon" (.arr [r])) p = true := by
  obtain ⟨outer, houter⟩ := Option.isSome_iff_exists.1 h
  rw [containsPoint_polygon, Polygon.ofJson?_of_ring? houter] at hall ⊢
  have hcovers : Polygon.covers ⟨outer, [] ++ rest.filterMap Point.ring?⟩ p = true := hall
  exact Polygon.covers_of_append hcovers

/-- a ring that cannot be read leaves its place to the one behind it, and covers nothing by itself -/
theorem containsPoint_unreadable (h : Point.ring? r = none) (rest : List Json) (p : Point) :
    containsPoint (.area "Polygon" (.arr (r :: rest))) p = containsPoint (.area "Polygon" (.arr rest)) p ∧
      containsPoint (.area "Polygon" (.arr [r])) p = false := by
  rw [containsPoint_polygon, containsPoint_polygon, containsPoint_polygon, Polygon.ofJson?_of_unreadable h,
    Polygon.ofJson?_of_unreadable h]
  exact ⟨rfl, rfl⟩

/-- **Rings behind the first one.** They add no point to a polygon whose first ring can be read. Where it cannot be
read, it covers nothing alone, and the polygon covers what the rings behind it make up. A first ring that can be read
is the outer one, and the others that can be read are its holes. A collection of polygons covers what one of its
members covers. In all of this only the kind and the coordinates of a geometry count. -/
theorem containsPoint_rings (p : Point) :
    (∀ r rest, (containsPoint (.area "Polygon" (.arr (r :: rest))) p = true →
        containsPoint (.area "Polygon" (.arr [r])) p = true) ↔
      (Point.ring? r).isSome = true ∨ containsPoint (.area "Polygon" (.arr rest)) p = false) ∧
    (∀ r rest outer, Point.ring? r = some outer → Polygon.Clear ⟨outer, rest.filterMap Point.ring?⟩ p →
      (containsPoint (.area "Polygon" (.arr (r :: rest))) p = true ↔
        locate p outer ≠ .outside ∧ ∀ hole ∈ rest.filterMap Point.ring?, locate p hole ≠ .inside)) ∧
    (∀ members, containsPoint (.area "MultiPolygon" (.arr members)) p = true ↔
      ∃ m ∈ members, containsPoint (.area "Polygon" m) p = true) ∧
    ∀ geometry kind coordinates, geometry.field? "type" = some (.str kind) →
      geometry.field? "coordinates" = some coordinates →
        containsPoint geometry p = containsPoint (.area kind coordinates) p := by
  refine ⟨fun r rest => ?_, fun r rest outer houter hclear => ?_, fun members => ?_,
    fun geometry kind coordinates hkind hcoordinates => ?_⟩
  · cases h : Point.ring? r with
    | some outer =>
      have hread : (Point.ring? r).isSome = true := by
        rw [h]
        rfl
      exact iff_of_true (containsPoint_alone hread) (Or.inl rfl)
    | none =>
      obtain ⟨hall, halone⟩ := containsPoint_unreadable h rest p
      rw [hall, halone]
      simp
  · rw [containsPoint_polygon, Polygon.ofJson?_of_ring? houter, Option.any_some, Polygon.covers_iff_of_clear hclear]
  · rw [containsPoint_multiPolygon, List.any_eq_true]
  · exact containsPoint_area hkind hcoordinates p

/-- a square with a square hole, stored with a field of its own: the point between the two is covered with the hole and
without it, also behind a member that is no polygon; the point in the hole is covered without it only -/
theorem containsPoint_rings_square :
    let corner (x y : Int) : Json := .arr [.int x, .int y]
    let outer : Json := .arr [corner 0 0, corner 10 0, corner 10 10, corner 0 10, corner 0 0]
    let hole : Json := .arr [corner 4 4, corner 6 4, corner 6 6, corner 4 6, corner 4 4]
    let stored : Json := .obj [("bbox", .null), ("coordinates", .arr [outer, hole]), ("type", .str "Polygon")]
    let ring : List Point := [(0.0, 0.0), (10.0, 0.0), (10.0, 10.0), (0.0, 10.0), (0.0, 0.0)]
    Point.ring? outer = some ring ∧ Polygon.Clear ⟨ring, [hole].filterMap Point.ring?⟩ (2.0, 2.0) ∧
    locate (2.0, 2.0) ring ≠ .outside ∧
    stored.field? "type" = some (.str "Polygon") ∧ stored.field? "coordinates" = some (.arr [outer, hole]) ∧
    containsPoint stored (2.0, 2.0) = containsPoint (.area "Polygon" (.arr [outer, hole])) (2.0, 2.0) ∧
    containsPoint stored (2.0, 2.0) = true ∧ containsPoint (.area "Polygon" (.arr [outer])) (2.0, 2.0) = true ∧
    containsPoint (.area "MultiPolygon" (.arr [.null, .arr [outer, hole]])) (2.0, 2.0) = true ∧
    containsPoint stored (5.0, 5.0) = false ∧ containsPoint (.area "Polygon" (.arr [outer])) (5.0, 5.0) = true := by
  intro corner outer hole stored ring
  have hring : Point.ring? outer = some ring := by decide +kernel
  have hread : (Point.ring? outer).isSome = true := rfl
  have hclear : Polygon.Clear ⟨ring, [hole].filterMap Point.ring?⟩ (2.0, 2.0) := by decide +kernel
  have hkind : stored.field? "type" = some (.str "Polygon") := rfl
  have hcoordinates : stored.field? "coordinates" = some (.arr [outer, hole]) := rfl
  have hcovered : containsPoint stored (2.0, 2.0) = true := by decide +kernel
  obtain ⟨hrings, hplaces, hmembers, hfields⟩ := containsPoint_rings (2.0, 2.0)
  have hstored := hfields stored _ _ hkind hcoordinates
  have hall := hstored.symm.trans hcovered
  exact ⟨hring, hclear, ((hplaces outer [hole] ring hring hclear).1 hall).1, hkind, hcoordinates, hstored, hcovered,
    (hrings outer [hole]).2 (Or.inl hread) hall, (hmembers _).2 ⟨_, by simp, hall⟩, by decide +kernel,
    by decide +kernel⟩

/-- An outer ring with heights cannot be read, and its hole takes its place: the polygon covers the point in the hole,
which the outer ring alone does not cover. -/
theorem hole_becomes_area :
    let corner (x y : Int) : Json := .arr [.int x, .int y]
    let raised (x y : Int) : Json := .arr [.int x, .int y, .int 5]
    let outer : Json := .arr [raised 0 0, raised 10 0, raised 10 10, raised 0 10, raised 0 0]
    let hole : Json := .arr [corner 4 4, corner 6 4, corner 6 6, corner 4 6, corner 4 4]
    containsPoint (.area "Polygon" (.arr [outer, hole])) (5.0, 5.0) = true ∧
    containsPoint (.area "Polygon" (.arr [outer])) (5.0, 5.0) = false := by
  decide +kernel

end

end DocumentQuery
