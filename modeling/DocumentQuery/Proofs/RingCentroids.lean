/-
CENTRES OF RINGS. The centre of coordinates is the mean of the corners of the first ring in them. A corner that closes
the ring has no part in it, nor has anything beside the ring, such as its holes or later polygons:

- `RingSearch`: the search for the first ring as it goes, from arrays to their first items;
- `RingSearch.exists_run`, `RingSearch.unique`: it ends at every value, in one way only;
- `centroid?_of_search`: the centre is the mean of the corners of the ring that it finds;
- `corners_of_open`, `corners_of_closed`: a ring has the same corners whether it is closed or not;
- `centroid?_of_leads`: arrays around a ring do not matter;
- `corners_count_pos`: the mean is never divided by zero;
- `centroid?_first_ring`: all of it.
-/
import DocumentQuery.Geometry.Centroid
import DocumentQuery.Proofs.FloatOrder

namespace DocumentQuery

/-! ## The search -/

/-- the search for the first ring in a value, with the ring that it finds: it ends at a list of at least one pair,
goes on to the first item of any other array, and finds nothing in what has no first item -/
inductive RingSearch : Json → Option (List Point) → Prop
  | found {v : Json} {p : Point} {ring : List Point} (h : Point.ring? v = some (p :: ring)) :
      RingSearch v (some (p :: ring))
  | first {v : Json} {rest : List Json} {result : Option (List Point)}
      (h : ∀ p ring, Point.ring? (.arr (v :: rest)) ≠ some (p :: ring)) (hrest : RingSearch v result) :
      RingSearch (.arr (v :: rest)) result
  | empty : RingSearch (.arr []) none
  | other {v : Json} (h : v.isArr = false) : RingSearch v none

theorem isArr_of_ring? {v : Json} {ring : List Point} (h : Point.ring? v = some ring) : v.isArr = true := by
  cases v with
  | arr items => rfl
  | _ => cases h

namespace RingSearch

/-- **The search ends.** -/
theorem exists_run : (v : Json) → ∃ result, RingSearch v result
  | .arr [] => ⟨none, .empty⟩
  | .arr (v :: rest) => by
    by_cases h : ∃ p ring, Point.ring? (.arr (v :: rest)) = some (p :: ring)
    · obtain ⟨p, ring, h⟩ := h
      exact ⟨_, .found h⟩
    · obtain ⟨result, hrest⟩ := exists_run v
      exact ⟨result, .first (fun p ring hring => h ⟨p, ring, hring⟩) hrest⟩
  | .null | .bool _ | .num _ | .str _ | .obj _ => ⟨none, .other rfl⟩

/-- it ends in one way only -/
theorem unique {v : Json} {result other : Option (List Point)} (h : RingSearch v result) (h' : RingSearch v other) :
    other = result := by
  induction h with
  | found h =>
    cases h' with
    | found h' => rw [← h, h']
    | first hno => exact absurd h (hno _ _)
    | empty => cases h
    | other harr =>
      rw [isArr_of_ring? h] at harr
      cases harr
  | first hno _ ih =>
    cases h' with
    | found h' => exact absurd h' (hno _ _)
    | first _ hrest => exact ih hrest
    | other harr => cases harr
  | empty =>
    cases h' with
    | found h' => cases h'
    | empty => rfl
    | other harr => cases harr
  | other harr =>
    cases h' with
    | found h' =>
      rw [isArr_of_ring? h'] at harr
      cases harr
    | first => cases harr
    | empty => cases harr
    | other => rfl

/-- what it finds is not empty -/
theorem exists_point {v : Json} {ring : List Point} (h : RingSearch v (some ring)) :
    ∃ p points, ring = p :: points := by
  generalize hresult : some ring = result at h
  induction h with
  | found => exact ⟨_, _, Option.some.inj hresult⟩
  | first _ _ ih => exact ih hresult
  | empty => cases hresult
  | other => cases hresult

end RingSearch

/-! ## The centre of what is found -/

section

variable {v : Json} {rest : List Json} {p : Point} {ring : List Point}

theorem centroid?_of_ring (h : Point.ring? v = some (p :: ring)) :
    centroid? v = some (meanPoint (corners (p :: ring))) := by
  cases v with
  | arr items =>
    have hitems : items.mapM Point.ofPair? = some (p :: ring) := h
    rw [centroid?, hitems]
  | _ => cases h

theorem centroid?_first (h : ∀ p ring, Point.ring? (.arr (v :: rest)) ≠ some (p :: ring)) :
    centroid? (.arr (v :: rest)) = centroid? v := by
  rw [centroid?]
  split
  · next p ring hring => exact absurd hring (h p ring)
  · rw [centroidOfFirst?]

/-- **The centre.** It is the mean of the corners of the ring that the search finds. -/
theorem centroid?_of_search {result : Option (List Point)} (h : RingSearch v result) :
    centroid? v = result.map fun ring => meanPoint (corners ring) := by
  induction h with
  | found h => exact centroid?_of_ring h
  | first h _ ih => rw [centroid?_first h, ih]
  | empty => rfl
  | @other v h =>
    cases v with
    | arr items => cases h
    | _ => rfl

end

/-! ## Corners -/

theorem Point.same_self (p : Point) : p.same p = true := by
  simp [Point.same]

section

variable {p q : Point} {ring : List Point}

/-- a ring that does not end at its first corner has all its points for corners -/
theorem corners_of_open (h : ∀ q, ring.getLast? = some q → p.same q = false) : corners (p :: ring) = p :: ring := by
  cases ring with
  | nil => rfl
  | cons b ring =>
    have hlast : (p :: b :: ring).getLast? = some ((b :: ring).getLast (List.cons_ne_nil _ _)) := by
      rw [List.getLast?_cons_cons, List.getLast?_eq_some_getLast (List.cons_ne_nil _ _)]
    have happart := h _ (List.getLast?_eq_some_getLast (List.cons_ne_nil b ring))
    rw [corners, hlast, Option.any_some, happart, if_neg Bool.false_ne_true]

/-- a point that closes a ring is no corner of its own -/
theorem corners_of_closed (h : p.same q = true) : corners (p :: ring ++ [q]) = p :: ring := by
  cases ring with
  | nil => simp [corners, h]
  | cons b ring =>
    have hring : p :: b :: (ring ++ [q]) = (p :: b :: ring) ++ [q] := rfl
    have hlast : (p :: b :: (ring ++ [q])).getLast? = some q := by
      rw [hring]
      exact List.getLast?_concat
    have hdrop : (p :: b :: (ring ++ [q])).dropLast = p :: b :: ring := by
      rw [hring]
      exact List.dropLast_concat
    show corners (p :: b :: (ring ++ [q])) = _
    rw [corners, hlast, Option.any_some, if_pos h, hdrop]

/-- a ring has a corner, and the number of them is a positive float -/
theorem corners_count_pos (p : Point) (ring : List Point) : 0.0 < nearestInt (corners (p :: ring)).length := by
  apply nearestInt_pos
  cases ring with
  | nil => exact Nat.one_pos
  | cons b ring =>
    rw [corners]
    split
    · rw [List.length_dropLast]
      simp
    · exact Nat.succ_pos _

end

/-! ## Rings in arrays -/

/-- the first items of arrays lead to a value -/
inductive LeadsDown (w : Json) : Json → Prop
  | here : LeadsDown w w
  | first {v : Json} (rest : List Json) (h : LeadsDown w v) : LeadsDown w (.arr (v :: rest))

section

variable {w v first : Json} {rest : List Json} {p : Point} {ring : List Point}

/-- the first pair of a list of pairs is the first point of the ring -/
theorem ofPair?_of_ring? (h : Point.ring? (.arr (first :: rest)) = some (p :: ring)) :
    Point.ofPair? first = some p ∧ rest.mapM Point.ofPair? = some ring := by
  obtain ⟨a, as, ha, has, heq⟩ := List.forall₂_cons_left_iff.1 (Payload.mapM_eq_some_iff.1 h)
  cases heq
  exact ⟨ha, Payload.mapM_eq_some_iff.2 has⟩

/-- an array with an array in front is no pair -/
theorem ofPair?_of_nested (items rest : List Json) : Point.ofPair? (.arr (.arr items :: rest)) = none := by
  match rest with
  | [] | [_] | _ :: _ :: _ => rfl

/-- what leads to a ring is an array with an array in front -/
theorem exists_nested (hring : Point.ring? w = some (p :: ring)) (h : LeadsDown w v) :
    ∃ items rest, v = .arr (.arr items :: rest) := by
  induction h with
  | here =>
    cases w with
    | arr items =>
      cases items with
      | nil => cases hring
      | cons first rest =>
        obtain ⟨hfirst, -⟩ := ofPair?_of_ring? hring
        cases first with
        | arr items => exact ⟨items, rest, rfl⟩
        | _ => cases hfirst
    | _ => cases hring
  | first rest _ ih =>
    obtain ⟨items, inner, rfl⟩ := ih
    exact ⟨_, rest, rfl⟩

/-- **Arrays around a ring.** The centre is that of the ring that their first items lead to, whatever other items they
have; none of them is a list of pairs itself. -/
theorem centroid?_of_leads (hring : Point.ring? w = some (p :: ring)) (h : LeadsDown w v) :
    centroid? v = centroid? w := by
  induction h with
  | here => rfl
  | @first v rest h ih =>
    obtain ⟨items, inner, hnested⟩ := exists_nested hring h
    have hno : ∀ p ring, Point.ring? (.arr (v :: rest)) ≠ some (p :: ring) := by
      intro p ring hlist
      obtain ⟨hfirst, -⟩ := ofPair?_of_ring? hlist
      rw [hnested, ofPair?_of_nested] at hfirst
      cases hfirst
    rw [centroid?_first hno, ih]

/-- a list of pairs with its first pair at its end, too -/
theorem ring?_closed (h : Point.ring? (.arr (first :: rest)) = some (p :: ring)) :
    Point.ring? (.arr (first :: rest ++ [first])) = some (p :: ring ++ [p]) := by
  obtain ⟨hfirst, -⟩ := ofPair?_of_ring? h
  have hitems : (first :: rest).mapM Point.ofPair? = some (p :: ring) := h
  have hlast : [first].mapM Point.ofPair? = some [p] := by
    simp [hfirst]
  show (first :: rest ++ [first]).mapM Point.ofPair? = _
  rw [List.mapM_append, hitems, hlast]
  rfl

end

/-- **The centre of the first ring.** A ring that does not end at its first point, or has one point only, has the mean
of its points for its centre, and the same centre if its first pair is repeated at its end. The centre of arrays whose
first items lead to a ring is that of the ring. The search for a ring ends at every value, in one way only; the centre
is the mean of the corners of the ring that is found, and their number, by which it is divided, is positive. -/
theorem centroid?_first_ring :
    (∀ first rest p ring, Point.ring? (.arr (first :: rest)) = some (p :: ring) →
      (∀ q, ring.getLast? = some q → p.same q = false) →
        centroid? (.arr (first :: rest)) = some (meanPoint (p :: ring)) ∧
        centroid? (.arr (first :: rest ++ [first])) = centroid? (.arr (first :: rest))) ∧
    (∀ w v p ring, Point.ring? w = some (p :: ring) → LeadsDown w v → centroid? v = centroid? w) ∧
    ∀ v, ∃ result, (∀ other, RingSearch v other ↔ other = result) ∧
      centroid? v = (result.map fun ring => meanPoint (corners ring)) ∧
      ∀ ring, result = some ring → 0.0 < nearestInt (corners ring).length := by
  refine ⟨fun first rest p ring hring hopen => ?_, fun w v p ring => centroid?_of_leads, fun v => ?_⟩
  · have hcentre := centroid?_of_ring hring
    have hclosed := centroid?_of_ring (ring?_closed hring)
    rw [corners_of_open hopen] at hcentre
    have hcorners : corners (p :: ring ++ [p]) = p :: ring := corners_of_closed p.same_self
    exact ⟨hcentre, (hclosed.trans (congrArg (some <| meanPoint ·) hcorners)).trans hcentre.symm⟩
  · obtain ⟨result, hrun⟩ := RingSearch.exists_run v
    refine ⟨result, fun other => ⟨fun h => hrun.unique h, fun h => h ▸ hrun⟩, centroid?_of_search hrun, ?_⟩
    rintro ring rfl
    obtain ⟨p, points, rfl⟩ := hrun.exists_point
    exact corners_count_pos p points

/-- the centre of a square is the same with its first corner at its end, and inside of arrays with other items -/
theorem centroid?_first_ring_square :
    let corner (x y : Int) : Json := .arr [.int x, .int y]
    let rest : List Json := [corner 4 0, corner 4 4, corner 0 4]
    let square : Json := .arr (corner 0 0 :: rest)
    let nested : Json := .arr [.arr [square, .str "hole"], .null]
    Point.ring? square = some [(0.0, 0.0), (4.0, 0.0), (4.0, 4.0), (0.0, 4.0)] ∧
    (∀ q, [(4.0, 0.0), (4.0, 4.0), (0.0, 4.0)].getLast? = some q → Point.same (0.0, 0.0) q = false) ∧
    centroid? (.arr (corner 0 0 :: rest ++ [corner 0 0])) = centroid? square ∧
    LeadsDown square nested ∧ centroid? nested = centroid? square ∧ centroid? square = some (2.0, 2.0) ∧
    centroid? square = some (meanPoint [(0.0, 0.0), (4.0, 0.0), (4.0, 4.0), (0.0, 4.0)]) := by
  intro corner rest square nested
  have hring : Point.ring? square = some [(0.0, 0.0), (4.0, 0.0), (4.0, 4.0), (0.0, 4.0)] := by decide +kernel
  have hopen : ∀ q, [(4.0, 0.0), (4.0, 4.0), (0.0, 4.0)].getLast? = some q → Point.same (0.0, 0.0) q = false := by
    intro q hq
    cases hq
    decide +kernel
  have hleads : LeadsDown square nested := .first _ (.first _ .here)
  obtain ⟨hclosed, hnested, -⟩ := centroid?_first_ring
  obtain ⟨hcentre, hsame⟩ := hclosed _ _ _ _ hring hopen
  exact ⟨hring, hopen, hsame, hleads, hnested _ _ _ _ hring hleads, by decide +kernel, hcentre⟩

end DocumentQuery
