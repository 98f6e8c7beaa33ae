/-
LOCATED DOCUMENTS. What the stage of a proximity anchor gives, said by the points of the documents and their distances:

- `ProximityAnchor.Finds`, `Annotates`: which documents belong to the rows, and what they become;
- `Nearer`, `distanceRank_lt_iff`: the order of distances, said by `<`;
- `pairwise_mergeSort_stable`: what a sort by merging leaves in place;
- `ProximityAnchor.run_near_lists`: every anchor of the compiler, with whatever was folded into it, lists these
  documents once each, nearest first.
-/
import DocumentQuery.Proofs.FloatOrder
import DocumentQuery.Proofs.Judgement
import DocumentQuery.Proofs.Rendering

namespace DocumentQuery

/-! ## The order of distances -/

/-- one distance comes before another: it is undefined and the other is not, or it is less, or minus zero before zero -/
def Nearer (x y : Float) : Prop :=
  (x.isNaN = true ∧ y.isNaN = false) ∨ x < y ∨
    (magnitudeBits x = 0 ∧ magnitudeBits y = 0 ∧ isNegative x = true ∧ isNegative y = false)

open ProximitySearch (distanceRank)

theorem magnitudeBits_lt (x : Float) : magnitudeBits x < 2 ^ 63 := Nat.mod_lt _ (by decide)

theorem magnitudeBits_of_zero {x : Float} (h : magnitudeBits x = 0) : x.isNaN = false := by
  refine Bool.eq_false_iff.2 fun hnan => ?_
  have habove := (isNaN_iff x).1 hnan
  omega

theorem distanceRank_of_isNaN {x : Float} (h : x.isNaN = true) : distanceRank x = -2 ^ 64 := by
  rw [distanceRank, if_pos h]
  rfl

theorem distanceRank_of_defined {x : Float} (h : x.isNaN = false) :
    distanceRank x = if isNegative x then -(magnitudeBits x : Int) - 1 else magnitudeBits x := by
  rw [distanceRank, if_neg (Bool.eq_false_iff.1 h)]

theorem neg_lt_distanceRank {x : Float} (h : x.isNaN = false) : -2 ^ 64 < distanceRank x := by
  have hlt := magnitudeBits_lt x
  rw [distanceRank_of_defined h]
  split <;> omega

/-- documents are put in order by their distances -/
theorem distanceRank_lt_iff (x y : Float) : distanceRank x < distanceRank y ↔ Nearer x y := by
  unfold Nearer
  cases hx : x.isNaN with
  | true =>
    rw [distanceRank_of_isNaN hx]
    cases hy : y.isNaN with
    | true =>
      rw [distanceRank_of_isNaN hy]
      refine iff_of_false (Int.lt_irrefl _) ?_
      rintro (⟨-, h⟩ | h | ⟨h, -⟩)
      · cases h
      · rw [(isNaN_of_lt h).1] at hx
        cases hx
      · rw [magnitudeBits_of_zero h] at hx
        cases hx
    | false => exact iff_of_true (neg_lt_distanceRank hy) (Or.inl ⟨rfl, rfl⟩)
  | false =>
    cases hy : y.isNaN with
    | true =>
      rw [distanceRank_of_isNaN hy]
      have hrank := neg_lt_distanceRank hx
      refine iff_of_false (by omega) ?_
      rintro (⟨h, -⟩ | h | ⟨-, h, -⟩)
      · cases h
      · rw [(isNaN_of_lt h).2] at hy
        cases hy
      · rw [magnitudeBits_of_zero h] at hy
        cases hy
    | false =>
      rw [distanceRank_of_defined hx, distanceRank_of_defined hy, lt_iff_floatPlace, hx, hy]
      unfold floatPlace
      cases isNegative x <;> cases isNegative y <;> simp <;> omega

/-- the highest bit is the sign -/
theorem floatBits_eq (x : Float) : floatBits x = (if isNegative x then 2 ^ 63 else 0) + magnitudeBits x := by
  have hlt : floatBits x < 2 ^ 64 := UInt64.toNat_lt _
  have hsign : isNegative x = decide (2 ^ 63 ≤ floatBits x) := rfl
  have hmod : magnitudeBits x = floatBits x % 2 ^ 63 := rfl
  rw [hsign, hmod]
  by_cases h : 2 ^ 63 ≤ floatBits x
  · rw [if_pos (decide_eq_true h)]
    omega
  · rw [if_neg (by simpa using h)]
    omega

/-- distances that neither comes before the other are the same -/
theorem eq_of_distanceRank {x y : Float} (h : distanceRank x = distanceRank y) : x = y := by
  cases hx : x.isNaN with
  | true =>
    cases hy : y.isNaN with
    | true => exact eq_of_isNaN hx hy
    | false =>
      have hrank := neg_lt_distanceRank hy
      rw [distanceRank_of_isNaN hx] at h
      omega
  | false =>
    cases hy : y.isNaN with
    | true =>
      have hrank := neg_lt_distanceRank hx
      rw [distanceRank_of_isNaN hy] at h
      omega
    | false =>
      rw [distanceRank_of_defined hx, distanceRank_of_defined hy] at h
      refine eq_of_bits ?_
      rw [floatBits_eq x, floatBits_eq y]
      revert h
      cases isNegative x <;> cases isNegative y <;> simp <;> omega

/-! ## Sorting in place -/

/-- a sort by merging leaves entries that are equal in its order as they stood to one another -/
theorem pairwise_mergeSort_stable {α : Type} {le : α → α → Bool} {r : α → α → Prop} {l : List α}
    (htrans : ∀ a b c, le a b = true → le b c = true → le a c = true) (htotal : ∀ a b, (le a b || le b a) = true)
    (h : l.Pairwise r) :
    (l.mergeSort le).Pairwise fun a b => le a b = true ∧ (le b a = true → r a b) := by
  rw [← List.mergeSort_zipIdx, List.pairwise_map]
  have hperm := List.mergeSort_perm l.zipIdx (List.zipIdxLE le)
  have hplaces : (l.zipIdx.mergeSort (List.zipIdxLE le)).Pairwise fun p q => p.2 ≠ q.2 := by
    have hnodup : (l.zipIdx.map Prod.snd).Nodup := by
      rw [List.zipIdx_map_snd]
      exact List.nodup_range'
    exact List.pairwise_map.1 ((hperm.map Prod.snd).nodup_iff.2 hnodup)
  have hsorted := List.pairwise_mergeSort (List.zipIdxLE_trans htrans) (List.zipIdxLE_total htotal) l.zipIdx
  refine (hsorted.and hplaces).imp_of_mem fun {p q} hp hq ⟨hle, hne⟩ => ?_
  unfold List.zipIdxLE at hle
  split at hle
  · next hpq =>
    refine ⟨hpq, fun hqp => ?_⟩
    rw [if_pos hqp, decide_eq_true_eq] at hle
    have hfirst := List.mem_zipIdx_iff_getElem?.1 (hperm.mem_iff.1 hp)
    have hsecond := List.mem_zipIdx_iff_getElem?.1 (hperm.mem_iff.1 hq)
    obtain ⟨hi, hfirst⟩ := List.getElem?_eq_some_iff.1 hfirst
    obtain ⟨hj, hsecond⟩ := List.getElem?_eq_some_iff.1 hsecond
    rw [← hfirst, ← hsecond]
    exact List.pairwise_iff_getElem.1 h _ _ hi hj (by omega)
  · cases hle

/-! ## What a search finds -/

theorem holds_iff {predicate d : Document} : holds predicate d = true ↔ satisfies d predicate = .ok true := by
  unfold holds
  cases satisfies d predicate <;> simp

/-- the first of the values at a path that can be read as a point -/
def FirstPoint (d : Document) (path : String) (p : Point) : Prop :=
  ∃ before v after, Document.resolve d path = before ++ v :: after ∧ (∀ w ∈ before, Point.ofJson? w = none) ∧
    Point.ofJson? v = some p

theorem firstPoint_iff {d : Document} {path : String} {p : Point} :
    FirstPoint d path p ↔ (Document.resolve d path).findSome? Point.ofJson? = some p := by
  rw [List.findSome?_eq_some_iff]
  exact exists_congr fun before => exists_congr fun v => exists_congr fun after => and_congr_right' And.comm

namespace ProximityAnchor

/-- anchors of the compiler, with other conditions taken into them -/
inductive Made (config : Config) : ProximityAnchor → Prop where
  | compiled {descriptor : Option FilterDescriptor} {a : ProximityAnchor}
      (h : compileFilter descriptor config = .ok (.anchored a)) : Made config a
  | constrain {a : ProximityAnchor} (h : Made config a) (predicate : Document) : Made config (a.constrain predicate)
  | fold {a : ProximityAnchor} (h : Made config a) (c : Combinator) (fragments : List Document) :
      Made config (a.fold c fragments)

theorem Made.wellMade {config : Config} {a : ProximityAnchor} (h : a.Made config) : a.Compiled config := by
  induction h with
  | compiled h => exact compiled_of_compileFilter h
  | constrain h p ih => exact ih.constrain p
  | fold h c fragments ih => exact ih.fold c fragments

/-- distance of a point from the point of the anchor: along the sphere, or straight -/
def distanceTo (a : ProximityAnchor) (p : Point) : Float :=
  if a.spherical then sphericalDistance a.lat a.lng p.2 p.1 else planarDistance a.lat a.lng p.2 p.1

/-- a document belongs to the rows of an anchor, at this distance -/
structure Finds (a : ProximityAnchor) (key : String) (d : Document) (x : Float) : Prop where
  located : ∃ p, FirstPoint d key p ∧ a.distanceTo p = x
  notBeyond : ¬ a.maxDistance < x
  notBelow : ¬ x < a.minDistance.getD 0.0
  satisfied : satisfies d a.query = .ok true

/-- a row is a document with its distance written into it -/
structure Annotates (a : ProximityAnchor) (d : Document) (x : Float) (row : Document) : Prop where
  distance : Document.find? row a.distanceField = some (if isFinite x then .num (.float x) else .null)
  others : ∀ k, k ≠ a.distanceField → Document.find? row k = Document.find? d k
  ordered : d.Ordered → row.Ordered

/-- rows are those documents, each of them once, that an anchor finds, nearest first and otherwise as they stood; the
positions say which document each row is -/
structure Lists (a : ProximityAnchor) (key : String) (documents : List Document) (positions : List Nat)
    (rows : List Document) : Prop where
  once : positions.Nodup
  complete : ∀ i d x, documents[i]? = some d → a.Finds key d x → i ∈ positions
  rows : List.Forall₂ (fun i row => ∃ d x, documents[i]? = some d ∧ a.Finds key d x ∧ a.Annotates d x row)
    positions rows
  inOrder : positions.Pairwise fun i j => ∀ d e x y, documents[i]? = some d → documents[j]? = some e →
    a.Finds key d x → a.Finds key e y → Nearer x y ∨ x = y ∧ i < j

theorem Finds.unique {a : ProximityAnchor} {key : String} {d : Document} {x y : Float} (hx : a.Finds key d x)
    (hy : a.Finds key d y) : x = y := by
  obtain ⟨p, hp, rfl⟩ := hx.located
  obtain ⟨q, hq, rfl⟩ := hy.located
  rw [Option.some.inj ((firstPoint_iff.1 hp).symm.trans (firstPoint_iff.1 hq))]

section

variable {config : Config} {a : ProximityAnchor} {key : String}

/-- bounds of an anchor are finite, so that to be in range is to be neither above the one nor below the other -/
theorem inRange_search_iff (ha : a.Compiled config) (x : Float) :
    (a.search key).inRange x = true ↔ ¬ a.maxDistance < x ∧ ¬ x < a.minDistance.getD 0.0 := by
  have hleast : isFinite (a.minDistance.getD 0.0) = true := by
    cases h : a.minDistance with
    | none => decide
    | some m => exact ha.least m h
  have hrange : (a.search key).inRange x =
      ((x.isNaN || floatPlace x ≤ floatPlace a.maxDistance) &&
        (x.isNaN || floatPlace (a.minDistance.getD 0.0) ≤ floatPlace x)) := rfl
  rw [not_lt_iff ha.most, not_gt_iff hleast, hrange]
  simp

theorem annotates_insert (a : ProximityAnchor) (d : Document) (x : Float) :
    a.Annotates d x (Document.insert d a.distanceField (.float x)) where
  distance := Document.find?_insert_self d a.distanceField (.float x)
  others k hk := by rw [Document.find?_insert, if_neg (Ne.symm hk)]
  ordered h := Document.ordered_insert h a.distanceField (.float x)

/-- the hits of a search are the documents that its anchor finds -/
theorem hit?_search_iff (ha : a.Compiled config) {d row : Document} {x : Float} :
    (a.search key).hit? d = some (x, row) ↔
      a.Finds key d x ∧ row = Document.insert d a.distanceField (.float x) := by
  have hquery : (a.search key).query = a.query := rfl
  have hlocation (p : Point) : (a.search key).location? d = some p ↔ FirstPoint d key p := firstPoint_iff.symm
  constructor
  · intro h
    obtain ⟨p, hp, h⟩ := Option.bind_eq_some_iff.1 h
    split at h
    · next hfound =>
      cases h
      obtain ⟨hrange, hholds⟩ := Bool.and_eq_true_iff.1 hfound
      obtain ⟨hmost, hleast⟩ := (inRange_search_iff ha _).1 hrange
      exact ⟨⟨⟨p, (hlocation p).1 hp, rfl⟩, hmost, hleast, holds_iff.1 hholds⟩, rfl⟩
    · cases h
  · rintro ⟨⟨⟨p, hp, rfl⟩, hmost, hleast, hholds⟩, rfl⟩
    have hrange : (a.search key).inRange ((a.search key).distance p) = true :=
      (inRange_search_iff ha (a.distanceTo p)).2 ⟨hmost, hleast⟩
    refine Option.bind_eq_some_iff.2 ⟨p, (hlocation p).2 hp, ?_⟩
    rw [hquery, hrange, holds_iff.2 hholds]
    rfl

/-- what a search finds, with the position of each document -/
def hits (a : ProximityAnchor) (key : String) (documents : List Document) : List ((Float × Document) × Nat) :=
  documents.zipIdx.filterMap fun q => ((a.search key).hit? q.1).map (·, q.2)

/-- whether one hit may stand before another -/
def before (h k : (Float × Document) × Nat) : Bool := distanceRank h.1.1 ≤ distanceRank k.1.1

theorem before_iff {h k : (Float × Document) × Nat} :
    before h k = true ↔ distanceRank h.1.1 ≤ distanceRank k.1.1 := decide_eq_true_iff

theorem before_trans (h k l : (Float × Document) × Nat) (hhk : before h k = true) (hkl : before k l = true) :
    before h l = true :=
  before_iff.2 (Int.le_trans (before_iff.1 hhk) (before_iff.1 hkl))

theorem before_total (h k : (Float × Document) × Nat) : (before h k || before k h) = true := by
  rw [Bool.or_eq_true, before_iff, before_iff]
  exact Int.le_total _ _

/-- the hits, nearest first -/
def sortedHits (a : ProximityAnchor) (key : String) (documents : List Document) : List ((Float × Document) × Nat) :=
  (a.hits key documents).mergeSort before

theorem mem_hits_iff (ha : a.Compiled config) {documents : List Document} {x : Float} {row : Document} {i : Nat} :
    ((x, row), i) ∈ a.hits key documents ↔ ∃ d, documents[i]? = some d ∧ a.Finds key d x ∧
      row = Document.insert d a.distanceField (.float x) := by
  unfold hits
  rw [List.mem_filterMap]
  constructor
  · rintro ⟨⟨d, j⟩, hd, h⟩
    obtain ⟨hit, hhit, h⟩ := Option.map_eq_some_iff.1 h
    cases h
    exact ⟨d, List.mem_zipIdx_iff_getElem?.1 hd, (hit?_search_iff ha).1 hhit⟩
  · rintro ⟨d, hd, hfound⟩
    exact ⟨(d, i), List.mem_zipIdx_iff_getElem?.2 hd, Option.map_eq_some_iff.2 ⟨_, (hit?_search_iff ha).2 hfound, rfl⟩⟩

/-- positions increase along the hits -/
theorem pairwise_hits (a : ProximityAnchor) (key : String) (documents : List Document) :
    (a.hits key documents).Pairwise fun h k => h.2 < k.2 := by
  unfold hits
  have hplaces : documents.zipIdx.Pairwise fun p q => p.2 < q.2 := by
    rw [← List.pairwise_map, List.zipIdx_map_snd]
    exact List.pairwise_lt_range'
  rw [List.pairwise_filterMap]
  refine hplaces.imp fun {p q} hpq h hh k hk => ?_
  obtain ⟨-, -, rfl⟩ := Option.map_eq_some_iff.1 hh
  obtain ⟨-, -, rfl⟩ := Option.map_eq_some_iff.1 hk
  exact hpq

/-- positions aside, the sorted hits are what the search finds -/
theorem map_sortedHits (a : ProximityAnchor) (key : String) (documents : List Document) :
    (a.sortedHits key documents).map (·.1.2) = (a.search key).found documents := by
  have hplain : (a.hits key documents).map (·.1) = documents.filterMap (a.search key).hit? := by
    unfold hits
    rw [List.map_filterMap]
    conv_rhs => rw [← List.zipIdx_map_fst 0 documents, List.filterMap_map]
    refine List.filterMap_congr fun q _ => ?_
    rw [Option.map_map]
    exact Option.map_id'
  have hsorted : (a.sortedHits key documents).map (·.1) = (documents.filterMap (a.search key).hit?).mergeSort
      fun h k => distanceRank h.1 ≤ distanceRank k.1 := by
    rw [← hplain]
    exact List.map_mergeSort fun h _ k _ => rfl
  rw [ProximitySearch.found, ← hsorted, List.map_map]
  rfl

theorem pairwise_sortedHits (a : ProximityAnchor) (key : String) (documents : List Document) :
    (a.sortedHits key documents).Pairwise fun h k => Nearer h.1.1 k.1.1 ∨ h.1.1 = k.1.1 ∧ h.2 < k.2 := by
  have hstable := pairwise_mergeSort_stable before_trans before_total (a.pairwise_hits key documents)
  refine hstable.imp fun {h k} ⟨hle, htie⟩ => ?_
  rw [before_iff] at hle htie
  rcases Int.lt_or_eq_of_le hle with hlt | heq
  · exact Or.inl ((distanceRank_lt_iff _ _).1 hlt)
  · exact Or.inr ⟨eq_of_distanceRank heq, htie (Int.le_of_eq heq.symm)⟩

/-- what a search finds is what its anchor lists -/
theorem lists_found (ha : a.Compiled config) (key : String) (documents : List Document) :
    a.Lists key documents ((a.sortedHits key documents).map (·.2)) ((a.search key).found documents) := by
  have hperm : (a.sortedHits key documents).Perm (a.hits key documents) := List.mergeSort_perm _ _
  have hmem {x : Float} {row : Document} {i : Nat} (h : ((x, row), i) ∈ a.sortedHits key documents) :=
    (mem_hits_iff ha).1 (hperm.mem_iff.1 h)
  constructor
  · refine (hperm.map Prod.snd).nodup_iff.2 ?_
    exact List.pairwise_map.2 ((a.pairwise_hits key documents).imp Nat.ne_of_lt)
  · intro i d x hd hfound
    exact List.mem_map.2 ⟨_, hperm.mem_iff.2 ((mem_hits_iff ha).2 ⟨d, hd, hfound, rfl⟩), rfl⟩
  · rw [← map_sortedHits, List.forall₂_map_left_iff, List.forall₂_map_right_iff, List.forall₂_same]
    rintro ⟨⟨x, row⟩, i⟩ h
    obtain ⟨d, hd, hfound, rfl⟩ := hmem h
    exact ⟨d, x, hd, hfound, a.annotates_insert d x⟩
  · refine List.pairwise_map.2 ((a.pairwise_sortedHits key documents).imp_of_mem ?_)
    rintro ⟨⟨x, row⟩, i⟩ ⟨⟨y, row'⟩, j⟩ hi hj h d e x' y' hd he hx hy
    obtain ⟨d', hd', hfound, -⟩ := hmem hi
    obtain ⟨e', he', hfound', -⟩ := hmem hj
    cases hd.symm.trans hd'
    cases he.symm.trans he'
    rwa [hx.unique hfound, hy.unique hfound']

/-- the stage of an anchor gives what its search finds -/
theorem run_near_eq_found {geoKey : Option String} {documents : List Document} (ha : a.Compiled config)
    (hjudged : ∀ d ∈ documents, ∃ b, satisfies d a.query = .ok b) (hkey : a.key.or geoKey = some key) :
    StageKind.near.run (.obj a.stageBody) 0 geoKey documents = .ok ((a.search key).found documents) := by
  have hsearch : ProximitySearch.ofBody a.stageBody geoKey = .ok (a.search key) := by
    rw [ofBody_stageBody_eq ha, hkey]
    rfl
  show (ProximitySearch.ofBody a.stageBody geoKey >>= fun s => s.run documents) = _
  rw [hsearch, Outcome.ok_bind]
  exact ProximitySearch.run_eq_found hjudged

/-- **Searches by distance.** For every anchor that the compiler makes, whatever is folded into it, on documents that
its query can judge, and with a location field of its own or of the store: its stage gives the documents that it finds,
once each, with their distances, nearest first. -/
theorem run_near_lists {geoKey : Option String} {documents : List Document} (ha : a.Made config)
    (hjudged : ∀ d ∈ documents, ∃ b, satisfies d a.query = .ok b) (hkey : a.key.or geoKey = some key) :
    ∃ rows positions, StageKind.near.run (.obj a.stageBody) 0 geoKey documents = .ok rows ∧
      a.Lists key documents positions rows :=
  ⟨_, _, run_near_eq_found ha.wellMade hjudged hkey, lists_found ha.wellMade key documents⟩

end

/-- settings under which distances are straight, with a field of their own -/
def straightAway : Config := { distanceField := "away", spherical := false }

/-- a search between two distances, among cafes alone -/
def amongCafes : ProximityAnchor :=
  { new (-74) 40 5 straightAway with minDistance := some 0.5, query := Document.single "kind" (.str "cafe") }

/-- a cafe with places -/
def cafeWith (places : Json) : Document := [("kind", .str "cafe"), ("places", places)]

/-- a pair, and a geometry behind a value that is no point; then no place, a place that is equally far, and one that is
too near -/
theorem run_near_lists_cafes :
    let near : SingleFilter := ⟨.coordinates [-74, 40], .near, .obj [("max", .int 5), ("min", .num (.float 0.5))]⟩
    let cafe := Document.single "kind" (.str "cafe")
    let pair := cafeWith (.obj [("at", .arr [.int (-70), .int 43])])
    let second := cafeWith (.arr [.obj [("at", .str "here")],
      .obj [("at", .obj [("coordinates", .arr [.int (-74), .int 42]), ("type", .str "Point")])]])
    let equal := cafeWith (.obj [("at", .arr [.int (-72), .int 40])])
    let documents := [pair, second, cafe, equal, cafeWith (.obj [("at", .arr [.int (-74), .int 40])])]
    let rows := [("away", .float 2) :: second, ("away", .float 2) :: equal, ("away", .float 5) :: pair]
    ∃ a, compileFilter (some (.single near)) straightAway = .ok (.anchored a) ∧ a.constrain cafe = amongCafes ∧
      amongCafes.Made straightAway ∧ (∀ d ∈ documents, ∃ v, satisfies d amongCafes.query = .ok v) ∧
      amongCafes.key.or (some "places.at") = some "places.at" ∧
      StageKind.near.run (.obj amongCafes.stageBody) 0 (some "places.at") documents = .ok rows ∧
      ∃ positions, amongCafes.Lists "places.at" documents positions rows := by
  intro near cafe pair second equal documents rows
  have hcompile : compileFilter (some (.single near)) straightAway = .ok (.anchored { amongCafes with query := [] }) :=
    rfl
  have hmade : amongCafes.Made straightAway := (Made.compiled hcompile).constrain cafe
  have hjudged : ∀ d ∈ documents, ∃ v, satisfies d amongCafes.query = .ok v := by
    intro d _
    show ∃ v, satisfies d cafe = .ok v
    rw [satisfies_single, fieldVerdict_path (by decide)]
    exact ⟨_, meets_of_plain rfl _⟩
  have hhits : documents.filterMap (amongCafes.search "places.at").hit? =
      [(5, ("away", .float 5) :: pair), (2, ("away", .float 2) :: second), (2, ("away", .float 2) :: equal)] := by
    have hpair : (amongCafes.search "places.at").hit? pair = some (5, ("away", .float 5) :: pair) :=
      ProximitySearch.hit?_of_location (p := (-70, 43)) (x := 5) rfl (by decide +kernel)
    have hsecond : (amongCafes.search "places.at").hit? second = some (2, ("away", .float 2) :: second) :=
      ProximitySearch.hit?_of_location (p := (-74, 42)) (x := 2) rfl (by decide +kernel)
    have hequal : (amongCafes.search "places.at").hit? equal = some (2, ("away", .float 2) :: equal) :=
      ProximitySearch.hit?_of_location (p := (-72, 40)) (x := 2) rfl (by decide +kernel)
    have hnone : (amongCafes.search "places.at").hit? cafe = none := rfl
    have hnear : (amongCafes.search "places.at").hit? (cafeWith (.obj [("at", .arr [.int (-74), .int 40])])) = none :=
      ProximitySearch.hit?_of_location (p := (-74, 40)) (x := 0) rfl (by decide +kernel)
    simp only [documents, List.filterMap_cons, hpair, hsecond, hequal, hnone, hnear, List.filterMap_nil]
  have hfound : (amongCafes.search "places.at").found documents = rows := by
    have hfar : decide (distanceRank 5 ≤ distanceRank 2) = false := by decide +kernel
    rw [ProximitySearch.found, hhits]
    simp [List.mergeSort, List.MergeSort.Internal.splitInTwo, hfar, rows]
  have hkey : amongCafes.key.or (some "places.at") = some "places.at" := rfl
  have hrun := run_near_eq_found hmade.wellMade hjudged hkey
  rw [hfound] at hrun
  obtain ⟨listed, positions, hlisted, hlists⟩ := run_near_lists hmade hjudged hkey
  cases hrun.symm.trans hlisted
  exact ⟨_, hcompile, rfl, hmade, hjudged, hkey, hrun, positions, hlists⟩

end ProximityAnchor

end DocumentQuery
