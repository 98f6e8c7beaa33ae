/-
STORED CENTRES of neighborhoods. `setCentroids` reads all documents and writes the centre of each one back into the
document that it was computed from, which it finds again by its identifier; `unsetCentroids` takes the centres away.
With identifiers that are texts, no two of them alike:

- `centered`, `moves`: what becomes of one document, and whether that is a change;
- `setCentroidsOf_eq`: the loop changes each document in its place, whatever the loop has already written;
- `moves_centered`, `removePath_centered`: a second call finds nothing to do, and a removal undoes the first;
- `setCentroids_again`, `unsetCentroids_restores`: the same for whole stores;
- `setCentroids_exact`: all of it.
-/
import DocumentQuery.Places.Neighborhood
import DocumentQuery.Proofs.SelectedRows
import DocumentQuery.Proofs.Upserts

namespace DocumentQuery

namespace Json

theorem same_float (x : Float) : (float x).same (float x) = true := by
  unfold float
  split <;> simp [same, Number.same]

/-- what equals a finite float is read as this float, or as the other zero -/
theorem float?_of_same {v : Json} {x : Float} (hx : isFinite x = true) (h : v.same (float x) = true) :
    ∃ y, v.float? = some y ∧ floatPlace y = floatPlace x := by
  rw [float, if_pos hx] at h
  cases v with
  | num n =>
    cases n with
    | int n => simp [same, Number.same] at h
    | float y => exact ⟨y, rfl, by simpa [same, Number.same] using h⟩
  | _ => simp [same] at h

end Json

/-- what equals a finite point is read as this point -/
theorem Point.ofPair?_of_same {v : Json} {c : Point} (hlng : isFinite c.1 = true) (hlat : isFinite c.2 = true)
    (h : v.same (Shape.pair c) = true) : ∃ p, ofPair? v = some p ∧ p.same c = true := by
  match v with
  | .arr [a, b] =>
    simp only [Shape.pair, Json.same, Json.sameItems, Bool.and_true, Bool.and_eq_true] at h
    obtain ⟨x, hx, hplaceX⟩ := Json.float?_of_same hlng h.1
    obtain ⟨y, hy, hplaceY⟩ := Json.float?_of_same hlat h.2
    refine ⟨(x, y), ?_, ?_⟩
    · rw [ofPair?, hx, hy]
      rfl
    · rw [Point.same, hplaceX, hplaceY, beq_self_eq_true, beq_self_eq_true, Bool.and_self]
  | .arr [] | .arr [_] | .arr (_ :: _ :: _ :: _) => simp [Shape.pair, Json.same, Json.sameItems] at h
  | .null | .bool _ | .num _ | .str _ | .obj _ => simp [Shape.pair, Json.same] at h

namespace Neighborhood

/-! ## One document -/

/-- the centre that a document has stored, if any -/
def storedCentroid? (d : Document) : Option Json := (Document.find? d "geometry").bind (·.field? "centroid")

/-- the mutation that stores a centre -/
def setCentroidMutation (c : Point) : Document :=
  Document.single "$set" (.obj (Document.single centroidField (Shape.pair c)))

/-- whether a document changes when its centre is stored -/
def moves (d : Document) : Bool := (center? d).any fun c => reportsChange (setCentroidMutation c) d

/-- a document whose centre was stored, if it has one -/
def centered (d : Document) : Document := (center? d).elim d fun c => changedRow (setCentroidMutation c) d

theorem segments_centroidField : Path.segments centroidField = ["geometry", "centroid"] := by decide

theorem same_pair (c : Point) : (Shape.pair c).same (Shape.pair c) = true := by
  simp [Shape.pair, Json.same, Json.sameItems, Json.same_float]

section

variable {d geometry : Document} {c : Point}

/-- a centre is computed from the coordinates of an object -/
theorem exists_geometry (h : center? d = some c) : ∃ geometry, Document.find? d "geometry" = some (.obj geometry) := by
  obtain ⟨v, hv, h⟩ := Option.bind_eq_some_iff.1 h
  obtain ⟨coordinates, hcoordinates, -⟩ := Option.bind_eq_some_iff.1 h
  obtain ⟨fields, hfields, -⟩ := Option.bind_eq_some_iff.1 hcoordinates
  cases v with
  | obj geometry => exact ⟨geometry, hv⟩
  | _ => cases hfields

theorem applyMutation_setCentroid (hgeometry : Document.find? d "geometry" = some (.obj geometry)) :
    applyMutation (setCentroidMutation c) d =
      (.ok (!(Document.find? geometry "centroid").any (·.same (Shape.pair c))),
        Document.insert d "geometry" (.obj (Document.insert geometry "centroid" (Shape.pair c)))) := by
  have hset : setPath centroidField (Shape.pair c) d = (.ok (Document.find? geometry "centroid"),
      Document.insert d "geometry" (.obj (Document.insert geometry "centroid" (Shape.pair c)))) := by
    unfold setPath Document.setPath
    rw [segments_centroidField]
    simp only [Document.setAt, hgeometry]
  have hfields : setFields (Document.single centroidField (Shape.pair c)) d =
      (.ok (!(Document.find? geometry "centroid").any (·.same (Shape.pair c)) || false),
        Document.insert d "geometry" (.obj (Document.insert geometry "centroid" (Shape.pair c)))) :=
    Outcome.run_bind_of_ok hset
  rw [Bool.or_false] at hfields
  exact applyMutation_of_setFields hfields

theorem storedCentroid?_of_geometry (hgeometry : Document.find? d "geometry" = some (.obj geometry)) :
    storedCentroid? d = Document.find? geometry "centroid" := by
  rw [storedCentroid?, hgeometry]
  rfl

/-- a document changes unless it has stored the centre of its coordinates -/
theorem moves_eq (h : center? d = some c) : moves d = !(storedCentroid? d).any (·.same (Shape.pair c)) := by
  obtain ⟨geometry, hgeometry⟩ := exists_geometry h
  rw [moves, h, Option.any_some, reportsChange, applyMutation_setCentroid hgeometry,
    storedCentroid?_of_geometry hgeometry]

theorem centered_of_moves (h : center? d = some c) (hgeometry : Document.find? d "geometry" = some (.obj geometry))
    (hmoves : moves d = true) :
    centered d = Document.insert d "geometry" (.obj (Document.insert geometry "centroid" (Shape.pair c))) := by
  rw [moves, h, Option.any_some] at hmoves
  rw [centered, h, Option.elim_some, changedRow, if_pos hmoves, applyMutation_setCentroid hgeometry]

theorem centered_of_not_moves (hmoves : moves d = false) : centered d = d := by
  unfold moves at hmoves
  unfold centered
  cases h : center? d with
  | none => rfl
  | some c =>
    rw [h, Option.any_some] at hmoves
    rw [Option.elim_some, changedRow, hmoves, if_neg Bool.false_ne_true]

theorem moves_of_center?_none (h : center? d = none) : moves d = false := by
  rw [moves, h, Option.any_none]

/-- a document has a centre stored: it stands at the path of the centre, and is read back as the same point if it is
finite; all other fields are as before, those of the geometry included -/
structure Stored (c : Point) (before after : Document) : Prop where
  stored : ∃ v, storedCentroid? after = some v ∧ v.same (Shape.pair c) = true
  point : isFinite c.1 = true → isFinite c.2 = true →
    ∃ p, (storedCentroid? after).bind Point.ofPair? = some p ∧ p.same c = true
  kept : ∀ key, key ≠ "geometry" → Document.find? after key = Document.find? before key
  geometry : ∃ g g', Document.find? before "geometry" = some (.obj g) ∧
    Document.find? after "geometry" = some (.obj g') ∧
      ∀ key, key ≠ "centroid" → Document.find? g' key = Document.find? g key

theorem stored_of_same {before after : Document} {v : Json} (hv : storedCentroid? after = some v)
    (hsame : v.same (Shape.pair c) = true)
    (hkept : ∀ key, key ≠ "geometry" → Document.find? after key = Document.find? before key)
    (hgeometry : ∃ g g', Document.find? before "geometry" = some (.obj g) ∧
      Document.find? after "geometry" = some (.obj g') ∧
        ∀ key, key ≠ "centroid" → Document.find? g' key = Document.find? g key) : Stored c before after where
  stored := ⟨v, hv, hsame⟩
  point := by
    intro hlng hlat
    rw [hv, Option.bind_some]
    exact Point.ofPair?_of_same hlng hlat hsame
  kept := hkept
  geometry := hgeometry

/-- **One document.** A document whose coordinates have a centre has it stored. -/
theorem stored_centered (h : center? d = some c) : Stored c d (centered d) := by
  obtain ⟨geometry, hgeometry⟩ := exists_geometry h
  cases hmoves : moves d with
  | true =>
    rw [centered_of_moves h hgeometry hmoves]
    have hafter : Document.find? (Document.insert d "geometry"
        (.obj (Document.insert geometry "centroid" (Shape.pair c)))) "geometry" =
          some (.obj (Document.insert geometry "centroid" (Shape.pair c))) :=
      Document.find?_insert_self _ _ _
    refine stored_of_same (v := Shape.pair c) ?_ (same_pair c) ?_ ⟨geometry, _, hgeometry, hafter, ?_⟩
    · rw [storedCentroid?_of_geometry hafter, Document.find?_insert_self]
    · intro key hkey
      rw [Document.find?_insert, if_neg hkey.symm]
    · intro key hkey
      rw [Document.find?_insert, if_neg hkey.symm]
  | false =>
    rw [centered_of_not_moves hmoves]
    rw [moves_eq h, Bool.not_eq_false'] at hmoves
    obtain ⟨v, hv, hsame⟩ := (Option.any_eq_true _ _).1 hmoves
    exact stored_of_same hv hsame (fun _ _ => rfl) ⟨geometry, geometry, hgeometry, hgeometry, fun _ _ => rfl⟩

/-- its coordinates have the same centre as before -/
theorem Stored.center? {before after : Document} (h : Stored c before after) :
    Neighborhood.center? after = Neighborhood.center? before := by
  obtain ⟨g, g', hbefore, hafter, hkept⟩ := h.geometry
  unfold Neighborhood.center?
  rw [hbefore, hafter]
  show (Document.find? g' "coordinates").bind centroid? = (Document.find? g "coordinates").bind centroid?
  rw [hkept "coordinates" (by decide)]

/-- what was stored is not stored again -/
theorem moves_centered (d : Document) : moves (centered d) = false := by
  cases h : center? d with
  | none =>
    have hmoves := moves_of_center?_none h
    rw [centered_of_not_moves hmoves, hmoves]
  | some c =>
    have hstored := stored_centered h
    obtain ⟨v, hv, hsame⟩ := hstored.stored
    rw [moves_eq (hstored.center?.trans h), hv, Option.any_some, hsame, Bool.not_true]

theorem find?_centered {key : String} (hkey : key ≠ "geometry") (d : Document) :
    Document.find? (centered d) key = Document.find? d key := by
  cases h : center? d with
  | none => rw [centered_of_not_moves (moves_of_center?_none h)]
  | some c => exact (stored_centered h).kept key hkey

theorem ordered_pair (c : Point) : (Shape.pair c).Ordered := by
  refine Json.ordered_arr_iff.2 ?_
  intro v hv
  have hfloat : ∀ x, (Json.float x).Ordered := by
    intro x
    unfold Json.float
    split <;> exact True.intro
  rcases List.mem_pair.1 hv with rfl | rfl <;> exact hfloat _

theorem ordered_centered (hd : (Json.obj d).Ordered) : (Json.obj (centered d)).Ordered := by
  cases hmoves : moves d with
  | false => rwa [centered_of_not_moves hmoves]
  | true =>
    obtain ⟨c, h, -⟩ := (Option.any_eq_true _ _).1 hmoves
    obtain ⟨geometry, hgeometry⟩ := exists_geometry h
    rw [centered_of_moves h hgeometry hmoves]
    exact hd.insert ((hd.find? hgeometry).insert (ordered_pair c) "centroid") "geometry"

/-- a document that changes is another one afterwards -/
theorem centered_ne_self (hmoves : moves d = true) : centered d ≠ d := by
  intro heq
  rw [← heq, moves_centered] at hmoves
  cases hmoves

end

/-! ## Documents found by their identifiers -/

/-- documents as stores have them: keys in order at every depth, and identifiers that are texts, no two of them alike -/
structure Keyed (rows : List Document) : Prop where
  ordered : ∀ d ∈ rows, (Json.obj d).Ordered
  named : ∀ d ∈ rows, ∃ id, Document.find? d "_id" = some (.str id)
  apart : rows.Pairwise fun d e => Document.find? d "_id" ≠ Document.find? e "_id"

theorem satisfies_identifier (id : String) (d : Document) :
    satisfies d (Document.single "_id" (.str id)) = .ok (equalsAny (Document.find? d "_id").toList (.str id)) := by
  rw [← Document.resolve_of_plain Path.segments_id]
  exact Resource.satisfies_keyPredicate { neighborhoods with keyField := "_id" } id d

/-- an update by an identifier changes the one document that has it, in its place -/
theorem updateRows_of_identifier {front rest : List Document} {d mutation : Document} {id : String}
    (hd : Document.find? d "_id" = some (.str id))
    (hfront : ∀ e ∈ front, Document.find? e "_id" ≠ some (.str id) ∧
      ∃ other, Document.find? e "_id" = some (.str other))
    (hm : ∃ changed after, applyMutation mutation d = (.ok changed, after)) :
    updateRows (Document.single "_id" (.str id)) mutation false (front ++ d :: rest) =
      .ok (⟨1, (reportsChange mutation d).toNat⟩, front ++ changedRow mutation d :: rest) := by
  have hothers : ∀ e ∈ front, satisfies e (Document.single "_id" (.str id)) = .ok false := by
    intro e he
    obtain ⟨hne, other, hother⟩ := hfront e he
    rw [satisfies_identifier, hother]
    have hverdict : equalsAny [.str other] (.str id) = false := by
      rw [← Bool.not_eq_true, equalsAny_str_iff]
      intro heq
      exact hne (hother.trans (congrArg some heq.symm))
    exact congrArg Except.ok hverdict
  have hfound : satisfies d (Document.single "_id" (.str id)) = .ok true := by
    rw [satisfies_identifier, hd]
    exact congrArg Except.ok (Resource.equalsAny_str id)
  obtain ⟨change, hchange, hreport, hrow⟩ := mutated?_of_applies hm
  rw [updateRows_append_of_false false hothers, updateRows_cons_of_true false hfound, hchange]
  simp only [Except.bind, Except.map, hreport, hrow, Bool.false_eq_true, if_false, Nat.zero_add]

/-! ## The loop over all documents -/

section

variable {s : Store}

/-- **One step.** A document that stands in the collection with its identifier has its centre stored in its place; the
documents in front of it may have theirs already. -/
theorem setCentroid_eq {front rest : List Document} {d : Document} {id : String}
    (hrows : s.rows neighborhoods.collection = front ++ d :: rest) (hd : Document.find? d "_id" = some (.str id))
    (hfront : ∀ e ∈ front, Document.find? e "_id" ≠ some (.str id) ∧
      ∃ other, Document.find? e "_id" = some (.str other)) :
    ∃ s', setCentroid d s = (.ok (moves d).toNat, s') ∧
      s.Replaced neighborhoods.collection (front ++ centered d :: rest) s' := by
  cases h : center? d with
  | none =>
    have hmoves := moves_of_center?_none h
    refine ⟨s, ?_, ?_⟩
    · unfold setCentroid
      rw [hd, h, hmoves]
      rfl
    · rw [centered_of_not_moves hmoves, ← hrows]
      exact Store.replaced_self s _
  | some c =>
    obtain ⟨geometry, hgeometry⟩ := exists_geometry h
    have hupdate : updateRows (Document.single "_id" (.str id)) (setCentroidMutation c) false (front ++ d :: rest) =
        .ok (⟨1, (reportsChange (setCentroidMutation c) d).toNat⟩,
          front ++ changedRow (setCentroidMutation c) d :: rest) :=
      updateRows_of_identifier hd hfront ⟨_, _, applyMutation_setCentroid hgeometry⟩
    rw [← hrows] at hupdate
    obtain ⟨s', hrun, hreplaced⟩ := Store.update_of_updateRows hupdate (show ¬(1 = 0 ∧ false = true) by simp)
    refine ⟨s', ?_, ?_⟩
    · unfold setCentroid
      rw [hd, h, moves, h, Option.any_some]
      exact Outcome.run_bind_of_ok (Operation.call_of_ok hrun)
    · rw [centered, h, Option.elim_some]
      exact hreplaced

/-- **The loop.** It works on the documents as they were read: those that it has seen stand in the collection with their
centres, the others as they were, and each step finds its own document among them. -/
theorem setCentroidsOf_eq {seen todo : List Document} (h : Keyed (seen ++ todo))
    (hrows : s.rows neighborhoods.collection = seen.map centered ++ todo) :
    ∃ s', setCentroidsOf todo s = (.ok (todo.countP moves), s') ∧
      s.Replaced neighborhoods.collection ((seen ++ todo).map centered) s' := by
  induction todo generalizing seen s with
  | nil =>
    rw [List.append_nil] at hrows ⊢
    refine ⟨s, rfl, ?_⟩
    rw [← hrows]
    exact Store.replaced_self s _
  | cons d rest ih =>
    obtain ⟨id, hid⟩ := h.named d (by simp)
    have hfront : ∀ e ∈ seen.map centered, Document.find? e "_id" ≠ some (.str id) ∧
        ∃ other, Document.find? e "_id" = some (.str other) := by
      intro e he
      obtain ⟨before, hbefore, rfl⟩ := List.mem_map.1 he
      have hapart := (List.pairwise_append.1 h.apart).2.2 before hbefore d List.mem_cons_self
      rw [find?_centered (by decide), ← hid]
      exact ⟨hapart, h.named before (List.mem_append_left _ hbefore)⟩
    obtain ⟨s₁, hfirst, hreplaced⟩ := setCentroid_eq hrows hid hfront
    have hsplit : seen ++ d :: rest = (seen ++ [d]) ++ rest := by simp
    have hrows₁ : s₁.rows neighborhoods.collection = (seen ++ [d]).map centered ++ rest := by
      rw [hreplaced.rows]
      simp
    rw [hsplit] at h ⊢
    obtain ⟨s₂, hrest, hreplaced'⟩ := ih h hrows₁
    refine ⟨s₂, ?_, hreplaced.trans hreplaced'⟩
    unfold setCentroidsOf
    rw [Outcome.run_bind_of_ok hfirst, Outcome.run_bind_of_ok hrest, List.countP_cons, Nat.add_comm]
    cases moves d <;> rfl

/-- all rows of the collection have their centres stored -/
theorem setCentroids_eq (h : Keyed (s.rows neighborhoods.collection)) :
    ∃ s', setCentroids s = (.ok ((s.rows neighborhoods.collection).countP moves), s') ∧
      s.Replaced neighborhoods.collection ((s.rows neighborhoods.collection).map centered) s' := by
  have hfind : DocumentStore.find neighborhoods.collection [] s = (.ok (s.rows neighborhoods.collection), s) := by
    show (selectRows [] (s.rows neighborhoods.collection), s) = _
    rw [selectRows_eq_filter fun d _ => ⟨true, rfl⟩, List.filter_eq_self.2 fun d _ => holds_nil d]
  have hnone : s.rows neighborhoods.collection = [].map centered ++ s.rows neighborhoods.collection := rfl
  obtain ⟨s', hrun, hreplaced⟩ := setCentroidsOf_eq h hnone
  refine ⟨s', ?_, hreplaced⟩
  unfold setCentroids
  rw [Outcome.run_bind_of_ok (Operation.call_of_ok hfind), hrun]

theorem keyed_centered {rows : List Document} (h : Keyed rows) : Keyed (rows.map centered) where
  ordered := by
    intro e he
    obtain ⟨d, hd, rfl⟩ := List.mem_map.1 he
    exact ordered_centered (h.ordered d hd)
  named := by
    intro e he
    obtain ⟨d, hd, rfl⟩ := List.mem_map.1 he
    rw [find?_centered (by decide)]
    exact h.named d hd
  apart := by
    refine List.pairwise_map.2 (h.apart.imp ?_)
    intro d e hne
    rwa [find?_centered (by decide), find?_centered (by decide)]

end

/-! ## Taking the centres away -/

/-- the mutation that takes a centre away -/
def unsetCentroidMutation : Document := Document.single "$unset" (.obj (Document.single centroidField (.str "")))

theorem removePath_centroidField (d : Document) :
    Document.removePath d centroidField =
      (storedCentroid? d, if (storedCentroid? d).isSome then (Document.removePath d centroidField).2 else d) := by
  unfold Document.removePath storedCentroid?
  rw [segments_centroidField]
  cases hgeometry : Document.find? d "geometry" with
  | none => simp [Document.removeAt, hgeometry]
  | some v =>
    cases v with
    | obj geometry =>
      cases hcentroid : Document.find? geometry "centroid" <;>
        simp [Document.removeAt, hgeometry, hcentroid, Json.field?, Json.obj?]
    | _ => simp [Document.removeAt, hgeometry, Json.field?, Json.obj?]

theorem reportsChange_unset (d : Document) : reportsChange unsetCentroidMutation d = (storedCentroid? d).isSome := by
  rw [reportsChange, unsetCentroidMutation, applyMutation_unset, removePath_centroidField]

theorem changedRow_unset (d : Document) :
    changedRow unsetCentroidMutation d = (Document.removePath d centroidField).2 := by
  rw [changedRow, reportsChange_unset, unsetCentroidMutation, applyMutation_unset]
  split
  · rfl
  · next hnone => rw [removePath_centroidField, if_neg hnone]

/-- **A removal undoes a write.** A document that had no centre stored is restored when the centre is taken away. -/
theorem removePath_centered {d : Document} (hd : (Json.obj d).Ordered) (hnone : storedCentroid? d = none) :
    (storedCentroid? (centered d)).isSome = moves d ∧ (Document.removePath (centered d) centroidField).2 = d := by
  cases hmoves : moves d with
  | false =>
    rw [centered_of_not_moves hmoves, removePath_centroidField, hnone]
    exact ⟨rfl, rfl⟩
  | true =>
    obtain ⟨c, h, -⟩ := (Option.any_eq_true _ _).1 hmoves
    obtain ⟨geometry, hgeometry⟩ := exists_geometry h
    obtain ⟨v, hv, -⟩ := (stored_centered h).stored
    refine ⟨by rw [hv, Option.isSome_some], ?_⟩
    have hinner : (Json.obj geometry).Ordered := hd.find? hgeometry
    have hmissing : Document.find? geometry "centroid" = none := by
      rw [← storedCentroid?_of_geometry hgeometry, hnone]
    have herased : Document.erase (Document.insert geometry "centroid" (Shape.pair c)) "centroid" = geometry := by
      have hordered := Document.ordered_insert hinner.fields "centroid" (Shape.pair c)
      refine Document.ext_find? (Document.ordered_erase hordered _) hinner.fields fun key => ?_
      rw [Document.find?_erase hordered, Document.find?_insert]
      split
      · next hkey => rw [← hkey, hmissing]
      · rfl
    have hremoved : (Document.removePath (centered d) centroidField).2 =
        Document.insert (Document.insert d "geometry"
          (.obj (Document.insert geometry "centroid" (Shape.pair c)))) "geometry" (.obj geometry) := by
      rw [centered_of_moves h hgeometry hmoves, Document.removePath, segments_centroidField]
      simp only [Document.removeAt, Document.find?_insert_self, herased]
    rw [hremoved]
    have hordered := Document.ordered_insert hd.fields "geometry"
      (.obj (Document.insert geometry "centroid" (Shape.pair c)))
    refine Document.ext_find? (Document.ordered_insert hordered _ _) hd.fields fun key => ?_
    rw [Document.find?_insert, Document.find?_insert]
    split
    · next hkey => rw [← hkey, hgeometry]
    · rfl

/-- every document of the collection loses its centre -/
theorem unsetCentroids_eq (s : Store) :
    ∃ s', unsetCentroids s =
        (.ok ((s.rows neighborhoods.collection).countP fun d => (storedCentroid? d).isSome), s') ∧
      s.Replaced neighborhoods.collection
        ((s.rows neighborhoods.collection).map fun d => (Document.removePath d centroidField).2) s' := by
  have hall : (s.rows neighborhoods.collection).filter (holds []) = s.rows neighborhoods.collection :=
    List.filter_eq_self.2 fun d _ => holds_nil d
  have happlies : AppliesTo unsetCentroidMutation (s.rows neighborhoods.collection) := fun d _ =>
    ⟨_, _, applyMutation_unset _ _ d⟩
  have hjudges : JudgesAll [] (s.rows neighborhoods.collection) := fun _ _ => rfl
  have hupdate := updateRows_every hjudges (hall.symm ▸ happlies)
  simp only [hall, holds_nil, if_true] at hupdate
  obtain ⟨s', hrun, hreplaced⟩ :=
    Store.update_of_updateRows hupdate (show ¬((s.rows neighborhoods.collection).length = 0 ∧ false = true) by simp)
  have hreports : reportsChange unsetCentroidMutation = fun d => (storedCentroid? d).isSome :=
    funext reportsChange_unset
  rw [hreports] at hrun
  refine ⟨s', ?_, by simpa only [changedRow_unset] using hreplaced⟩
  unfold unsetCentroids
  exact Outcome.run_bind_of_ok (Operation.call_of_ok hrun)

/-! ## Whole stores -/

open Classical in
/-- how many documents are others than those in their places before -/
noncomputable def changes (before after : List Document) : Nat :=
  (before.zip after).countP fun documents => documents.1 ≠ documents.2

theorem changes_centered (rows : List Document) : changes rows (rows.map centered) = rows.countP moves := by
  unfold changes
  induction rows with
  | nil => rfl
  | cons d rest ih =>
    rw [List.map_cons, List.zip_cons_cons, List.countP_cons, List.countP_cons, ih]
    cases hmoves : moves d with
    | true => simp [(centered_ne_self hmoves).symm]
    | false => simp [centered_of_not_moves hmoves]

section

variable {s s₁ : Store} (h : Keyed (s.rows neighborhoods.collection))
  (hreplaced : s.Replaced neighborhoods.collection ((s.rows neighborhoods.collection).map centered) s₁)

include h hreplaced

/-- where all centres are stored, there is nothing more to store -/
theorem setCentroids_again :
    ∃ s₂, setCentroids s₁ = (.ok 0, s₂) ∧ ∀ collection, s₂.rows collection = s₁.rows collection := by
  have hrows := hreplaced.rows
  have hkeyed : Keyed (s₁.rows neighborhoods.collection) := hrows ▸ keyed_centered h
  obtain ⟨s₂, hagain, hreplaced₂⟩ := setCentroids_eq hkeyed
  have hsettled : (s₁.rows neighborhoods.collection).map centered = s₁.rows neighborhoods.collection := by
    rw [hrows, List.map_map]
    exact List.map_congr_left fun d _ => centered_of_not_moves (moves_centered d)
  have hnone : (s₁.rows neighborhoods.collection).countP moves = 0 := by
    rw [hrows, List.countP_map, List.countP_eq_zero]
    intro d _
    rw [Function.comp_apply, moves_centered]
    exact Bool.false_ne_true
  rw [hnone] at hagain
  rw [hsettled] at hreplaced₂
  refine ⟨s₂, hagain, fun collection => ?_⟩
  rw [hreplaced₂ collection]
  exact (Store.replaced_self s₁ _ collection).symm

/-- where no document had a centre before, taking all centres away restores the store -/
theorem unsetCentroids_restores (hbare : ∀ d ∈ s.rows neighborhoods.collection, storedCentroid? d = none) :
    ∃ s₂, unsetCentroids s₁ = (.ok ((s.rows neighborhoods.collection).countP moves), s₂) ∧
      ∀ collection, s₂.rows collection = s.rows collection := by
  obtain ⟨s₂, hunset, hreplaced₂⟩ := unsetCentroids_eq s₁
  have hcount : (s₁.rows neighborhoods.collection).countP (fun d => (storedCentroid? d).isSome) =
      (s.rows neighborhoods.collection).countP moves := by
    rw [hreplaced.rows, List.countP_map]
    refine List.countP_congr fun d hd => ?_
    rw [Function.comp_apply, (removePath_centered (h.ordered d hd) (hbare d hd)).1]
  have hrestored : (s₁.rows neighborhoods.collection).map (fun d => (Document.removePath d centroidField).2) =
      s.rows neighborhoods.collection := by
    rw [hreplaced.rows, List.map_map]
    refine (List.map_congr_left fun d hd => ?_).trans (List.map_id _)
    exact (removePath_centered (h.ordered d hd) (hbare d hd)).2
  rw [hcount] at hunset
  rw [hrestored] at hreplaced₂
  refine ⟨s₂, hunset, fun collection => ?_⟩
  rw [(hreplaced.trans hreplaced₂) collection]
  exact (Store.replaced_self s _ collection).symm

end

/-- **Centres are stored exactly, once, and can be taken away again.** For neighborhoods with identifiers that are
texts, no two of them alike, storing the centres succeeds. Every document whose coordinates have a centre then has it
stored and is otherwise as it was; every other document is as it was; the result is the number of documents that
changed. A second call counts none and changes nothing. If no document had a centre stored before, taking the centres
away restores every document and counts those that the first call changed. -/
theorem setCentroids_exact {s : Store} (h : Keyed (s.rows neighborhoods.collection)) :
    ∃ n after s₁, setCentroids s = (.ok n, s₁) ∧ s.Replaced neighborhoods.collection after s₁ ∧
      List.Forall₂ (fun d e => (∀ c, center? d = some c → Stored c d e) ∧ (center? d = none → e = d))
        (s.rows neighborhoods.collection) after ∧
      n = changes (s.rows neighborhoods.collection) after ∧
      (∃ s₂, setCentroids s₁ = (.ok 0, s₂) ∧ ∀ collection, s₂.rows collection = s₁.rows collection) ∧
      ((∀ d ∈ s.rows neighborhoods.collection, storedCentroid? d = none) →
        ∃ s₂, unsetCentroids s₁ = (.ok n, s₂) ∧ ∀ collection, s₂.rows collection = s.rows collection) := by
  obtain ⟨s₁, hset, hreplaced⟩ := setCentroids_eq h
  refine ⟨_, _, s₁, hset, hreplaced, ?_, (changes_centered _).symm, setCentroids_again h hreplaced,
    unsetCentroids_restores h hreplaced⟩
  rw [List.forall₂_map_right_iff]
  refine List.forall₂_same.2 fun d _ => ⟨fun c hc => stored_centered hc, fun hnone => ?_⟩
  exact centered_of_not_moves (moves_of_center?_none hnone)

/-- a neighborhood with an area -/
def soho : Document :=
  [("_id", .str "n1"),
    ("geometry", .obj [("coordinates", .arr [.arr [.arr [.nat 0, .nat 0], .arr [.nat 4, .nat 0], .arr [.nat 4, .nat 2],
      .arr [.nat 0, .nat 2], .arr [.nat 0, .nat 0]]]), ("type", .str "Polygon")]), ("name", .str "Soho")]

/-- a neighborhood without one -/
def nowhere : Document := [("_id", .str "n2"), ("name", .str "Nowhere")]

def sohoAndNowhere : Store where
  identifiers := toString
  collections := [("neighborhoods", [soho, nowhere])]

theorem setCentroids_exact_sohoAndNowhere :
    Keyed (sohoAndNowhere.rows neighborhoods.collection) ∧
      (∀ d ∈ sohoAndNowhere.rows neighborhoods.collection, storedCentroid? d = none) ∧
      ∃ s₁ s₂ s₃, setCentroids sohoAndNowhere = (.ok 1, s₁) ∧ setCentroids s₁ = (.ok 0, s₂) ∧
        unsetCentroids s₁ = (.ok 1, s₃) ∧ ∀ collection, s₃.rows collection = sohoAndNowhere.rows collection := by
  have hrows : sohoAndNowhere.rows neighborhoods.collection = [soho, nowhere] := rfl
  have hkeyed : Keyed [soho, nowhere] := by
    constructor
    · intro d hd
      rcases List.mem_pair.1 hd with rfl | rfl
      · simp only [soho, Json.nat, Json.Ordered, Json.OrderedFields, Json.OrderedItems, and_true]
        decide
      · simp only [nowhere, Json.Ordered, Json.OrderedFields, and_true]
        decide
    · intro d hd
      rcases List.mem_pair.1 hd with rfl | rfl
      · exact ⟨"n1", rfl⟩
      · exact ⟨"n2", rfl⟩
    · simp [soho, nowhere, Document.find?]
  have hbare : ∀ d ∈ [soho, nowhere], storedCentroid? d = none := by
    intro d hd
    rcases List.mem_pair.1 hd with rfl | rfl <;> rfl
  have hmoves : [soho, nowhere].countP moves = 1 := by
    have hcenter : ∃ c, center? soho = some c := ⟨_, rfl⟩
    obtain ⟨c, hc⟩ := hcenter
    have hsoho : moves soho = true := by
      rw [moves_eq hc, hbare soho List.mem_cons_self]
      rfl
    have hnowhere : moves nowhere = false := moves_of_center?_none rfl
    simp [hsoho, hnowhere]
  rw [hrows]
  obtain ⟨n, -, s₁, hset, -, -, -, ⟨s₂, hagain, -⟩, hundo⟩ := setCentroids_exact (s := sohoAndNowhere) hkeyed
  obtain ⟨s₃, hunset, hrestored⟩ := hundo hbare
  obtain ⟨s, hset', -⟩ := setCentroids_eq (s := sohoAndNowhere) hkeyed
  have hone : n = 1 := by
    have hsame := hset.symm.trans hset'
    rw [hrows, hmoves] at hsame
    cases hsame
    rfl
  subst hone
  exact ⟨hkeyed, hbare, s₁, s₂, s₃, hset, hagain, hunset, hrestored⟩

end Neighborhood

end DocumentQuery
