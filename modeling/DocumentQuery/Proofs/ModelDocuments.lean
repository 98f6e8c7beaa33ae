/-
PLACES AND SETTINGS AS JSON. Restaurants, neighborhoods and boroughs are written as documents, settings as objects, and
what is written is read back as it was, as long as its floats are finite:

- `Address.ofJson?_toJson`, `Grade.ofJson?_toJson`, `Shape.ofJson?_toJson`: the parts of places;
- `Shape.finite_of_ofJson?`, `Address.finite_of_ofJson?`: what is read of a JSON value has finite floats;
- `Codec.Lossless.of_readBack`: so reading a value and writing it again changes it once at most;
- `models_lossless`: all four kinds.
-/
import DocumentQuery.Places.Borough
import DocumentQuery.Places.Neighborhood
import DocumentQuery.Places.Restaurant
import DocumentQuery.Proofs.FiniteNumbers

namespace DocumentQuery

/-! ## Reading and writing -/

/-- how values of a kind are read from JSON and written as JSON -/
structure Codec (α : Type) where
  read : Json → Option α
  write : α → Json

namespace Codec

variable {α : Type} {c : Codec α} {Good : α → Prop}

/-- reads a value and writes it again -/
def reencode (c : Codec α) (v : Json) : Option Json := (c.read v).map c.write

/-- good values are read back, and a JSON value that was read and written once stays the same from then on -/
structure Lossless (c : Codec α) (Good : α → Prop) : Prop where
  readBack : ∀ a, Good a → c.read (c.write a) = some a
  idempotent : ∀ v w, v.Fits → c.reencode v = some w → c.reencode w = some w

theorem Lossless.of_readBack (hback : ∀ a, Good a → c.read (c.write a) = some a)
    (hgood : ∀ v a, v.Fits → c.read v = some a → Good a) : c.Lossless Good where
  readBack := hback
  idempotent := by
    intro v w hv h
    obtain ⟨a, ha, rfl⟩ := Option.map_eq_some_iff.1 h
    rw [reencode, hback a (hgood v a hv ha)]
    rfl

end Codec

/-! ## Parts of places -/

/-- longitude and latitude are finite -/
def Address.Finite (a : Address) : Prop := ∀ x ∈ a.coord, isFinite x = true

theorem Address.ofJson?_toJson {a : Address} (h : a.Finite) : Address.ofJson? a.toJson = some a := by
  have hparts : Payload.record? declared a.toJson =
      some [some (.str a.building), some (.arr (a.coord.map .float)), some (.str a.street), some (.str a.zipcode)] := by
    rfl
  have hcoord : Payload.list? Json.float? (.arr (a.coord.map .float)) = some a.coord :=
    Payload.mapM_map fun x hx => Json.float?_float (h x hx)
  rw [ofJson?, hparts, Option.bind_some, ofFields?, Payload.required, Payload.required, hcoord]
  rfl

theorem Address.finite_of_ofJson? {v : Json} {a : Address} (hv : v.Fits) (h : Address.ofJson? v = some a) :
    a.Finite := by
  obtain ⟨parts, hparts, h⟩ := Option.bind_eq_some_iff.1 h
  unfold ofFields? at h
  split at h
  · next building coord street zipcode =>
    obtain ⟨b, -, h⟩ := Option.bind_eq_some_iff.1 h
    obtain ⟨numbers, hnumbers, h⟩ := Option.bind_eq_some_iff.1 h
    obtain ⟨s, -, h⟩ := Option.bind_eq_some_iff.1 h
    obtain ⟨z, -, h⟩ := Option.bind_eq_some_iff.1 h
    cases h
    obtain ⟨w, rfl, hlist⟩ := Payload.required_eq_some_iff.1 hnumbers
    obtain ⟨items, rfl, hitems⟩ := Payload.list?_eq_some_iff.1 hlist
    have hfits : (Json.arr items).Fits := Payload.fits_of_record? hv hparts (by simp)
    intro x hx
    obtain ⟨item, hitem, hread⟩ := Payload.mem_of_mapM hitems hx
    exact Json.isFinite_of_float? (hfits.items item hitem) hread
  · cases h

theorem Grade.score?_int (n : Int64) : Grade.score? (.int n.toInt) = some n := by
  have hlow : -Int.pow 2 63 ≤ n.toInt := Int64.le_toInt n
  have hhigh : n.toInt < Int.pow 2 63 := Int64.toInt_lt n
  rw [score?, Json.int, Json.int?, Number.int?, if_pos ⟨hlow, hhigh⟩, Option.map_some, Int64.ofInt_toInt]

theorem Grade.ofJson?_toJson (g : Grade) : Grade.ofJson? g.toJson = some g := by
  have hparts : Payload.object? declared
      [("date", .str g.date), ("grade", .str g.grade), ("score", Json.ofOption (fun n => .int n.toInt) g.score)] =
        some [some (.str g.date), some (.str g.grade), some (Json.ofOption (fun n => .int n.toInt) g.score)] := by
    rfl
  have hscore : Payload.optional score? (some (Json.ofOption (fun n => .int n.toInt) g.score)) = some g.score :=
    Payload.optional_ofOption fun n _ => ⟨rfl, score?_int n⟩
  rw [toJson, ofJson?, hparts, Option.bind_some, ofFields?, hscore]
  rfl

/-- the centre, if there is one, is finite -/
def Shape.Finite (s : Shape) : Prop := ∀ p, s.centroid = some p → isFinite p.1 = true ∧ isFinite p.2 = true

theorem Point.ofPair?_pair {p : Point} (h : isFinite p.1 = true ∧ isFinite p.2 = true) :
    Point.ofPair? (Shape.pair p) = some p := by
  rw [Shape.pair, ofPair?, Json.float?_float h.1, Json.float?_float h.2]
  rfl

theorem Point.finite_of_ofPair? {v : Json} {p : Point} (hv : v.Fits) (h : Point.ofPair? v = some p) :
    isFinite p.1 = true ∧ isFinite p.2 = true := by
  unfold ofPair? at h
  split at h
  · next x y =>
    obtain ⟨lng, hlng, h⟩ := Option.bind_eq_some_iff.1 h
    obtain ⟨lat, hlat, h⟩ := Option.bind_eq_some_iff.1 h
    cases h
    exact ⟨Json.isFinite_of_float? (hv.items x (by simp)) hlng, Json.isFinite_of_float? (hv.items y (by simp)) hlat⟩
  · cases h

theorem Shape.ofJson?_toJson {s : Shape} (h : s.Finite) : Shape.ofJson? s.toJson = some s := by
  obtain ⟨kind, coordinates, centroid⟩ := s
  cases centroid with
  | none => rfl
  | some p =>
    have hparts : Payload.record? declared (Shape.mk kind coordinates (some p)).toJson =
        some [some (.str kind), some coordinates, some (pair p)] := by
      rfl
    have hcentroid : Payload.optional Point.ofPair? (some (pair p)) = some (some p) := by
      rw [Payload.optional_of_not_null rfl, Point.ofPair?_pair (h p rfl)]
      rfl
    rw [ofJson?, hparts, Option.bind_some, ofFields?, hcentroid]
    rfl

theorem Shape.finite_of_ofJson? {v : Json} {s : Shape} (hv : v.Fits) (h : Shape.ofJson? v = some s) : s.Finite := by
  obtain ⟨parts, hparts, h⟩ := Option.bind_eq_some_iff.1 h
  unfold ofFields? at h
  split at h
  · next kind coordinates centroid =>
    obtain ⟨k, -, h⟩ := Option.bind_eq_some_iff.1 h
    obtain ⟨c, -, h⟩ := Option.bind_eq_some_iff.1 h
    obtain ⟨center, hcenter, h⟩ := Option.bind_eq_some_iff.1 h
    cases h
    rintro p rfl
    obtain ⟨w, rfl, -, hpair⟩ := Payload.optional_eq_some_iff.1 hcenter
    exact Point.finite_of_ofPair? (Payload.fits_of_record? hv hparts (by simp)) hpair
  · cases h

/-! ## Places -/

def Restaurant.Finite (r : Restaurant) : Prop := r.address.Finite

/-- restaurants as documents -/
def Restaurant.codec : Codec Restaurant := ⟨Restaurant.ofJson?, fun r => .obj r.toDocument⟩

theorem Restaurant.ofJson?_toDocument {r : Restaurant} (h : r.Finite) :
    Restaurant.ofJson? (.obj r.toDocument) = some r := by
  have hparts : Payload.record? declared (.obj r.toDocument) =
      some [some r.address.toJson, some (.str r.borough), some (.str r.cuisine),
        some (.arr (r.grades.map Grade.toJson)), some (.str r.name), some (.str r.identifier)] := by
    rfl
  have haddress : Payload.required Address.ofJson? (some r.address.toJson) = some r.address := Address.ofJson?_toJson h
  have hgrades : Payload.orElse [] (Payload.list? Grade.ofJson?) (some (.arr (r.grades.map Grade.toJson))) =
      some r.grades :=
    Payload.mapM_map fun g _ => Grade.ofJson?_toJson g
  rw [ofJson?, hparts, Option.bind_some, ofFields?, haddress, hgrades]
  rfl

theorem Restaurant.finite_of_ofJson? {v : Json} {r : Restaurant} (hv : v.Fits) (h : Restaurant.ofJson? v = some r) :
    r.Finite := by
  obtain ⟨parts, hparts, h⟩ := Option.bind_eq_some_iff.1 h
  unfold ofFields? at h
  split at h
  · next address borough cuisine grades name identifier =>
    obtain ⟨a, haddress, h⟩ := Option.bind_eq_some_iff.1 h
    obtain ⟨b, -, h⟩ := Option.bind_eq_some_iff.1 h
    obtain ⟨c, -, h⟩ := Option.bind_eq_some_iff.1 h
    obtain ⟨g, -, h⟩ := Option.bind_eq_some_iff.1 h
    obtain ⟨n, -, h⟩ := Option.bind_eq_some_iff.1 h
    obtain ⟨i, -, h⟩ := Option.bind_eq_some_iff.1 h
    cases h
    obtain ⟨w, rfl, hread⟩ := Payload.required_eq_some_iff.1 haddress
    exact Address.finite_of_ofJson? (Payload.fits_of_record? hv hparts (by simp)) hread
  · cases h

def Neighborhood.Finite (n : Neighborhood) : Prop := n.geometry.Finite

/-- neighborhoods as documents -/
def Neighborhood.codec : Codec Neighborhood := ⟨Neighborhood.ofJson?, fun n => .obj n.toDocument⟩

theorem Neighborhood.ofJson?_toDocument {n : Neighborhood} (h : n.Finite) :
    Neighborhood.ofJson? (.obj n.toDocument) = some n := by
  have hparts : Payload.record? declared (.obj n.toDocument) = some [some n.geometry.toJson, some (.str n.name)] := by
    rfl
  have hgeometry : Payload.required Shape.ofJson? (some n.geometry.toJson) = some n.geometry := Shape.ofJson?_toJson h
  rw [ofJson?, hparts, Option.bind_some, ofFields?, hgeometry]
  rfl

theorem Neighborhood.finite_of_ofJson? {v : Json} {n : Neighborhood} (hv : v.Fits)
    (h : Neighborhood.ofJson? v = some n) : n.Finite := by
  obtain ⟨parts, hparts, h⟩ := Option.bind_eq_some_iff.1 h
  unfold ofFields? at h
  split at h
  · next geometry name =>
    obtain ⟨g, hgeometry, h⟩ := Option.bind_eq_some_iff.1 h
    obtain ⟨m, -, h⟩ := Option.bind_eq_some_iff.1 h
    cases h
    obtain ⟨w, rfl, hread⟩ := Payload.required_eq_some_iff.1 hgeometry
    exact Shape.finite_of_ofJson? (Payload.fits_of_record? hv hparts (by simp)) hread
  · cases h

def Borough.Finite (b : Borough) : Prop := b.geometry.Finite

/-- boroughs as documents -/
def Borough.codec : Codec Borough := ⟨Borough.ofJson?, fun b => .obj b.toDocument⟩

/-- boroughs are read and written just as neighborhoods are -/
theorem Borough.ofJson?_eq (v : Json) :
    Borough.ofJson? v = (Neighborhood.ofJson? v).map fun n => ⟨n.geometry, n.name⟩ := by
  have hfields : ∀ parts,
      Borough.ofFields? parts = (Neighborhood.ofFields? parts).map fun n => ⟨n.geometry, n.name⟩ := by
    intro parts
    match parts with
    | [geometry, name] =>
      simp only [Borough.ofFields?, Neighborhood.ofFields?]
      cases Payload.required Shape.ofJson? geometry <;> cases Payload.required Json.str? name <;> rfl
    | [] | [_] | _ :: _ :: _ :: _ => rfl
  unfold Borough.ofJson? Neighborhood.ofJson?
  rw [Option.map_bind]
  exact congrArg _ (funext hfields)

theorem Borough.ofJson?_toDocument {b : Borough} (h : b.Finite) : Borough.ofJson? (.obj b.toDocument) = some b := by
  have hread : Neighborhood.ofJson? (.obj b.toDocument) = some ⟨b.geometry, b.name⟩ :=
    Neighborhood.ofJson?_toDocument (n := ⟨b.geometry, b.name⟩) h
  rw [ofJson?_eq, hread]
  rfl

theorem Borough.finite_of_ofJson? {v : Json} {b : Borough} (hv : v.Fits) (h : Borough.ofJson? v = some b) :
    b.Finite := by
  rw [ofJson?_eq] at h
  obtain ⟨n, hn, rfl⟩ := Option.map_eq_some_iff.1 h
  exact Neighborhood.finite_of_ofJson? hv hn

/-! ## Settings -/

/-- settings as an object -/
def Config.codec : Codec Config := ⟨Config.ofJson?, Config.toJson⟩

theorem ContainsMode.ofName?_name (m : ContainsMode) : ofName? m.name = some m := by
  cases m <;> rfl

theorem Json.count?_count (n : Count) : (Json.count n).count? = some n := by
  have hlow : (0 : Int) ≤ n.toNat := Int.natCast_nonneg _
  have hhigh : (n.toNat : Int) ≤ Number.maxNat64 := by
    have hlt := n.toNat_lt
    have hmax : Number.maxNat64 = 2 ^ 64 - 1 := rfl
    omega
  rw [count, nat, count?, nat?, Number.nat?, if_pos ⟨hlow, hhigh⟩, Int.toNat_natCast, Option.map_some,
    UInt64.ofNat_toNat]

theorem Config.ofJson?_toJson (c : Config) : Config.ofJson? c.toJson = some c := by
  have hparts : Payload.record? declared c.toJson =
      some [some (.str c.containsMode.name), some (.str c.distanceField), some (.bool c.spherical),
        some (Json.ofOption .str c.geoKey), some (.arr (c.excludeFields.map .str)),
        some (Json.ofOption .count c.defaultListLimit)] := by
    rfl
  have hmode : Payload.orElse ContainsMode.literal ContainsMode.ofJson? (some (.str c.containsMode.name)) =
      some c.containsMode :=
    ContainsMode.ofName?_name c.containsMode
  have hkey : nullable none Json.str? (some (Json.ofOption .str c.geoKey)) = some c.geoKey :=
    Payload.optional_ofOption fun k _ => ⟨rfl, rfl⟩
  have hexclude : Payload.orElse ["_id"] (Payload.list? Json.str?) (some (.arr (c.excludeFields.map .str))) =
      some c.excludeFields :=
    Payload.mapM_map fun f _ => rfl
  have hlimit : nullable (some 30) Json.count? (some (Json.ofOption .count c.defaultListLimit)) =
      some c.defaultListLimit :=
    Payload.optional_ofOption fun n _ => ⟨rfl, Json.count?_count n⟩
  rw [ofJson?, hparts, Option.bind_some, ofFields?]
  simp only [hmode, hkey, hexclude, hlimit]
  rfl

/-! ## Round trips -/

/-- **Models round-trip through JSON.** Restaurants, neighborhoods and boroughs with finite floats, and all settings,
are read back from what they are written as. So to read a JSON value as one of them and to write it again is
idempotent. -/
theorem models_lossless :
    Restaurant.codec.Lossless Restaurant.Finite ∧ Neighborhood.codec.Lossless Neighborhood.Finite ∧
      Borough.codec.Lossless Borough.Finite ∧ Config.codec.Lossless fun _ => True := by
  refine ⟨?_, ?_, ?_, ?_⟩
  · exact .of_readBack (fun _ => Restaurant.ofJson?_toDocument) fun _ _ => Restaurant.finite_of_ofJson?
  · exact .of_readBack (fun _ => Neighborhood.ofJson?_toDocument) fun _ _ => Neighborhood.finite_of_ofJson?
  · exact .of_readBack (fun _ => Borough.ofJson?_toDocument) fun _ _ => Borough.finite_of_ofJson?
  · exact .of_readBack (fun c _ => Config.ofJson?_toJson c) fun _ _ _ _ => True.intro

/-- a restaurant with a grade that has no score -/
def Restaurant.grill : Restaurant where
  address := { building := "351", coord := [-73.98, 40.77], street := "West 57 Street", zipcode := "10019" }
  borough := "Manhattan"
  cuisine := "Irish"
  grades := [⟨"2014-09-06", "A", some 2⟩, ⟨"2015-01-12", "Z", none⟩]
  name := "Dj Reynolds"
  identifier := "30191841"

/-- a neighborhood as it may come in: a geometry in order of its fields, whole numbers, and a key that means nothing -/
def Neighborhood.incoming : Json :=
  .obj [("geometry", .arr [.str "Polygon", .arr [], .arr [.int (-74), .float 40.5]]), ("name", .str "Soho"),
    ("visits", .nat 3)]

theorem models_lossless_incoming :
    let written : Json := .obj [("geometry", .obj [("centroid", .arr [.float (-74), .float 40.5]),
      ("coordinates", .arr []), ("type", .str "Polygon")]), ("name", .str "Soho")]
    Restaurant.grill.Finite ∧
      Restaurant.ofJson? (.obj Restaurant.grill.toDocument) = some Restaurant.grill ∧
      Neighborhood.incoming.Fits ∧
      Neighborhood.codec.reencode Neighborhood.incoming = some written ∧
      Neighborhood.codec.reencode written = some written := by
  intro written
  obtain ⟨hrestaurants, hneighborhoods, -, -⟩ := models_lossless
  have hfinite : Restaurant.grill.Finite := by
    unfold Restaurant.Finite Address.Finite
    decide
  have hfits : Neighborhood.incoming.Fits := by
    refine .obj fun f hf => ?_
    simp only [List.mem_cons, List.not_mem_nil, or_false] at hf
    rcases hf with rfl | rfl | rfl
    · refine .arr fun v hv => ?_
      simp only [List.mem_cons, List.not_mem_nil, or_false] at hv
      rcases hv with rfl | rfl | rfl
      · exact .str _
      · exact .arr (by simp)
      · refine .arr fun x hx => ?_
        simp only [List.mem_cons, List.not_mem_nil, or_false] at hx
        rcases hx with rfl | rfl
        · exact .num (by decide)
        · exact .num (by decide)
    · exact .str _
    · exact .num (by decide)
  have hwritten : Neighborhood.codec.reencode Neighborhood.incoming = some written := by rfl
  exact ⟨hfinite, hrestaurants.readBack _ hfinite, hfits, hwritten, hneighborhoods.idempotent _ _ hfits hwritten⟩

end DocumentQuery
