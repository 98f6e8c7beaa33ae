/-
SORTED DOCUMENTS. A sort stage names fields with directions. Documents are compared by the first values at these
fields, one field after another, and those that no field tells apart stay as they were:

- `SortKey.Alike`, `SortKey.ComesAfter`: the order of documents, said by the values at the fields;
- `compareBy_eq_eq_iff`, `compareBy_eq_gt_iff`: it is what documents are compared by;
- `StablySorted`, `stablySorted_sortBy`: what a sort makes of a list;
- `sortBy_of_pairwise`: documents in order stay as they are;
- `ofField_cases`, `mapM_ofField_eq_ok_iff`: which stages are read as keys;
- `runSort_stable`: the whole stage.
-/
import DocumentQuery.Evaluation.Sort
import DocumentQuery.Proofs.Outcome
import DocumentQuery.Proofs.ValueOrder

namespace DocumentQuery

/-! ## The order of documents -/

namespace SortKey

/-- two documents have equal values at every field -/
def Alike (keys : List SortKey) (a b : Document) : Prop :=
  ∀ k ∈ keys, (sortValue a k.field).compare (sortValue b k.field) = .eq

instance (keys : List SortKey) (a b : Document) : Decidable (Alike keys a b) :=
  inferInstanceAs (Decidable (∀ k ∈ keys, _))

/-- the first field that tells two documents apart has the greater value in the one, or the lesser value if it is
descending -/
def ComesAfter (keys : List SortKey) (a b : Document) : Prop :=
  ∃ front k back, keys = front ++ k :: back ∧ Alike front a b ∧
    (sortValue a k.field).compare (sortValue b k.field) = if k.descending then .lt else .gt

theorem compare_eq_eq_iff {k : SortKey} {a b : Document} :
    k.compare a b = .eq ↔ (sortValue a k.field).compare (sortValue b k.field) = .eq := by
  unfold SortKey.compare
  cases k.descending <;> simp

theorem compare_eq_gt_iff {k : SortKey} {a b : Document} : k.compare a b = .gt ↔
    (sortValue a k.field).compare (sortValue b k.field) = if k.descending then .lt else .gt := by
  unfold SortKey.compare
  cases k.descending <;> simp

instance (k : SortKey) : Std.TransCmp k.compare where
  eq_swap := by
    intro a b
    unfold SortKey.compare
    rw [Json.compare_swap]
    cases k.descending <;> simp
  isLE_trans := by
    intro a b c hab hbc
    unfold SortKey.compare at hab hbc ⊢
    cases hk : k.descending with
    | false =>
      simp only [hk, Bool.false_eq_true, if_false] at hab hbc ⊢
      exact Std.TransCmp.isLE_trans hab hbc
    | true =>
      simp only [hk, if_true, Ordering.isLE_swap] at hab hbc ⊢
      exact Std.TransCmp.isGE_trans hab hbc

end SortKey

open SortKey

section

variable {keys : List SortKey} {a b : Document}

theorem compareBy_cons (k : SortKey) (rest : List SortKey) (a b : Document) :
    compareBy (k :: rest) a b = (k.compare a b).then (compareBy rest a b) := rfl

theorem transCmp_compareBy (keys : List SortKey) : Std.TransCmp (compareBy keys) := by
  induction keys with
  | nil =>
    refine { eq_swap := ?_, isLE_trans := ?_ }
    · intro a b
      rfl
    · intro a b c hab hbc
      rfl
  | cons k rest ih => exact inferInstanceAs (Std.TransCmp (compareLex k.compare (compareBy rest)))

instance (keys : List SortKey) : Std.TransCmp (compareBy keys) := transCmp_compareBy keys

theorem compareBy_eq_eq_iff : compareBy keys a b = .eq ↔ Alike keys a b := by
  induction keys with
  | nil => exact iff_of_true rfl (by simp [Alike])
  | cons k rest ih =>
    rw [compareBy_cons, Ordering.then_eq_eq, compare_eq_eq_iff, ih]
    simp only [Alike, List.forall_mem_cons]

theorem compareBy_eq_gt_iff : compareBy keys a b = .gt ↔ ComesAfter keys a b := by
  induction keys with
  | nil =>
    refine iff_of_false (by simp [compareBy]) ?_
    rintro ⟨front, k, back, h, -⟩
    simp at h
  | cons k rest ih =>
    rw [compareBy_cons, Ordering.then_eq_gt, compare_eq_gt_iff, compare_eq_eq_iff, ih]
    constructor
    · rintro (hk | ⟨hk, front, j, back, rfl, hfront, hj⟩)
      · exact ⟨[], k, rest, rfl, by simp [Alike], hk⟩
      · exact ⟨k :: front, j, back, rfl, List.forall_mem_cons.2 ⟨hk, hfront⟩, hj⟩
    · rintro ⟨front, j, back, h, hfront, hj⟩
      cases front with
      | nil =>
        cases h
        exact Or.inl hj
      | cons l front =>
        cases h
        obtain ⟨hk, hfront⟩ := List.forall_mem_cons.1 hfront
        exact Or.inr ⟨hk, front, j, back, rfl, hfront, hj⟩

theorem compareBy_isLE_iff : (compareBy keys a b).isLE = true ↔ ¬ComesAfter keys a b := by
  rw [← compareBy_eq_gt_iff, Ordering.isLE_iff_ne_gt]

end

/-! ## Sorted lists -/

/-- a list is another one put in order: it has the same documents, none of them behind one that it comes before, and
those that no key tells apart follow one another as they did -/
structure StablySorted (keys : List SortKey) (documents sorted : List Document) : Prop where
  perm : sorted.Perm documents
  inOrder : sorted.Pairwise fun a b => ¬ComesAfter keys a b
  stable : ∀ d, sorted.filter (fun e => Alike keys d e) = documents.filter (fun e => Alike keys d e)

section

variable {keys : List SortKey} {documents : List Document}

theorem compareBy_isLE_trans (keys : List SortKey) (a b c : Document) (hab : (compareBy keys a b).isLE = true)
    (hbc : (compareBy keys b c).isLE = true) : (compareBy keys a c).isLE = true :=
  Std.TransCmp.isLE_trans hab hbc

theorem compareBy_isLE_total (keys : List SortKey) (a b : Document) :
    ((compareBy keys a b).isLE || (compareBy keys b a).isLE) = true := by
  have hswap : compareBy keys b a = (compareBy keys a b).swap := Std.OrientedCmp.eq_swap
  rw [hswap]
  cases compareBy keys a b <;> rfl

theorem pairwise_sortBy (keys : List SortKey) (documents : List Document) :
    (sortBy keys documents).Pairwise fun a b => (compareBy keys a b).isLE = true :=
  List.pairwise_mergeSort (compareBy_isLE_trans keys) (compareBy_isLE_total keys) documents

/-- documents that are in order stay as they are -/
theorem sortBy_of_pairwise (h : documents.Pairwise fun a b => (compareBy keys a b).isLE = true) :
    sortBy keys documents = documents :=
  List.mergeSort_of_pairwise h

/-- what no key tells apart from a document keeps its order -/
theorem filter_sortBy (keys : List SortKey) (documents : List Document) (d : Document) :
    (sortBy keys documents).filter (fun e => Alike keys d e) = documents.filter (fun e => Alike keys d e) := by
  have hequal : (documents.filter fun e => Alike keys d e).Pairwise fun a b => (compareBy keys a b).isLE = true := by
    refine List.pairwise_of_forall_mem_list fun a ha b hb => ?_
    have ha : compareBy keys d a = .eq := compareBy_eq_eq_iff.2 (by simpa using (List.mem_filter.1 ha).2)
    have hb : compareBy keys d b = .eq := compareBy_eq_eq_iff.2 (by simpa using (List.mem_filter.1 hb).2)
    rw [← Std.TransCmp.congr_left ha, hb]
    rfl
  -- in order already, they are found one after another in the sorted list, and there are as many as before
  have hsublist : (documents.filter fun e => Alike keys d e).Sublist (sortBy keys documents) :=
    List.sublist_mergeSort (compareBy_isLE_trans keys) (compareBy_isLE_total keys) hequal List.filter_sublist
  have hfiltered := hsublist.filter fun e => decide (Alike keys d e)
  simp only [List.filter_filter, Bool.and_self] at hfiltered
  have hcount : ((sortBy keys documents).filter fun e => Alike keys d e).Perm
      (documents.filter fun e => Alike keys d e) := (List.mergeSort_perm documents _).filter _
  exact (hfiltered.eq_of_length hcount.length_eq.symm).symm

/-- **Stable sorting.** -/
theorem stablySorted_sortBy (keys : List SortKey) (documents : List Document) :
    StablySorted keys documents (sortBy keys documents) where
  perm := List.mergeSort_perm documents _
  inOrder := (pairwise_sortBy keys documents).imp compareBy_isLE_iff.1
  stable := filter_sortBy keys documents

end

/-! ## Keys of a stage -/

namespace SortKey

/-- a key as a sort stage writes it -/
def toField (k : SortKey) : String × Json := (k.field, .int (if k.descending then -1 else 1))

/-- the directions of a sort: the integers 1 and -1 -/
def IsDirection (v : Json) : Prop := v = .int 1 ∨ v = .int (-1)

theorem isDirection_toField (k : SortKey) : IsDirection k.toField.2 := by
  cases h : k.descending <;> simp [toField, IsDirection, h]

theorem ofField_toField (k : SortKey) : ofField k.toField = .ok k := by
  obtain ⟨field, descending⟩ := k
  cases descending <;> rfl

/-- a number that is read as an integer is this integer -/
theorem eq_int_of_int? {v : Json} {n : Int} (h : v.int? = some n) : v = .int n := by
  cases v with
  | num m =>
    cases m with
    | int k =>
      simp only [Json.int?, Number.int?, Option.ite_none_right_eq_some, Option.some.injEq] at h
      rw [← h.2]
      rfl
    | float x => cases h
  | _ => cases h

/-- what is read as a key is a field with a direction; what is not read has no direction, and the failure names it -/
theorem ofField_cases (f : String × Json) :
    (IsDirection f.2 ∧ ∃ k : SortKey, f = k.toField) ∨
      (¬IsDirection f.2 ∧ ofField f = .error (.invalidPipeline (.sortDirection f.1))) := by
  obtain ⟨field, v⟩ := f
  by_cases hv : IsDirection v
  · left
    refine ⟨hv, ?_⟩
    rcases hv with rfl | rfl
    · exact ⟨⟨field, false⟩, rfl⟩
    · exact ⟨⟨field, true⟩, rfl⟩
  · right
    refine ⟨hv, ?_⟩
    unfold ofField
    split
    · next h => exact absurd (Or.inl (eq_int_of_int? h)) hv
    · next h => exact absurd (Or.inr (eq_int_of_int? h)) hv
    · rfl

theorem ofField_eq_ok_iff {f : String × Json} {k : SortKey} : ofField f = .ok k ↔ f = k.toField := by
  constructor
  · intro h
    rcases ofField_cases f with ⟨-, j, rfl⟩ | ⟨-, herror⟩
    · rw [ofField_toField] at h
      rw [Except.ok.inj h]
    · rw [herror] at h
      cases h
  · rintro rfl
    exact ofField_toField k

end SortKey

/-- a stage is read as keys if its fields are these keys as written -/
theorem mapM_ofField_eq_ok_iff {body : Document} {keys : List SortKey} :
    body.mapM SortKey.ofField = .ok keys ↔ body = keys.map toField := by
  rw [Outcome.mapM_eq_ok_iff]
  simp only [ofField_eq_ok_iff]
  rw [← List.forall₂_eq_eq_eq, List.forall₂_map_right_iff]

theorem runSort_of_keys (keys : List SortKey) (documents : List Document) :
    runSort (keys.map toField) documents = .ok (sortBy keys documents) := by
  rw [runSort, mapM_ofField_eq_ok_iff.2 rfl]
  rfl

theorem exists_keys_of_directions {body : Document} (h : ∀ f ∈ body, IsDirection f.2) :
    ∃ keys : List SortKey, body = keys.map toField := by
  have hfields : ∀ f ∈ body, ∃ k, ofField f = .ok k := by
    intro f hf
    rcases ofField_cases f with ⟨-, k, rfl⟩ | ⟨hnot, -⟩
    · exact ⟨k, ofField_toField k⟩
    · exact absurd (h f hf) hnot
  obtain ⟨keys, hkeys⟩ := Outcome.exists_mapM_eq_ok.2 hfields
  exact ⟨keys, mapM_ofField_eq_ok_iff.1 hkeys⟩

/-- the first field without a direction fails the stage -/
theorem runSort_of_no_direction {body : Document} (documents : List Document) (h : ∃ f ∈ body, ¬IsDirection f.2) :
    ∃ before f after, body = before ++ f :: after ∧ (∀ g ∈ before, IsDirection g.2) ∧ ¬IsDirection f.2 ∧
      runSort body documents = .error (.invalidPipeline (.sortDirection f.1)) := by
  cases hread : body.mapM ofField with
  | ok keys =>
    obtain ⟨f, hf, hnot⟩ := h
    rw [mapM_ofField_eq_ok_iff.1 hread] at hf
    obtain ⟨k, -, rfl⟩ := List.mem_map.1 hf
    exact absurd (isDirection_toField k) hnot
  | error e =>
    obtain ⟨before, f, after, hbody, hbefore, hf⟩ := Outcome.mapM_eq_error_iff.1 hread
    rcases ofField_cases f with ⟨-, k, rfl⟩ | ⟨hnot, herror⟩
    · rw [ofField_toField] at hf
      cases hf
    · refine ⟨before, f, after, hbody, fun g hg => ?_, hnot, ?_⟩
      · obtain ⟨k, hk⟩ := hbefore g hg
        rw [ofField_eq_ok_iff.1 hk]
        exact isDirection_toField k
      · rw [runSort, hread, ← Except.error.inj (herror.symm.trans hf)]
        rfl

/-- **The sort stage.** If all directions are 1 or -1, the stage has a result for all documents: they are sorted
stably by the fields of the stage, which come in the order of their names, and sorting the result again leaves it as
it is. If some direction is another value, the stage fails for all documents and names the first such field. -/
theorem runSort_stable (body : Document) (documents : List Document) :
    ((∀ f ∈ body, IsDirection f.2) → ∃ keys sorted, body = keys.map toField ∧
      (body.Ordered → keys.Pairwise fun j k => j.field < k.field) ∧
      runSort body documents = .ok sorted ∧ StablySorted keys documents sorted ∧ runSort body sorted = .ok sorted) ∧
    ((∃ f ∈ body, ¬IsDirection f.2) → ∃ before f after, body = before ++ f :: after ∧
      (∀ g ∈ before, IsDirection g.2) ∧ ¬IsDirection f.2 ∧
      runSort body documents = .error (.invalidPipeline (.sortDirection f.1))) := by
  refine ⟨fun h => ?_, runSort_of_no_direction documents⟩
  obtain ⟨keys, rfl⟩ := exists_keys_of_directions h
  have hagain : sortBy keys (sortBy keys documents) = sortBy keys documents :=
    sortBy_of_pairwise (pairwise_sortBy keys documents)
  refine ⟨keys, sortBy keys documents, rfl, fun hordered => ?_, runSort_of_keys keys documents,
    stablySorted_sortBy keys documents, ?_⟩
  · rw [Document.Ordered, List.pairwise_map] at hordered
    exact hordered
  · rw [runSort_of_keys, hagain]

/-- `x` and `z` have one kind and `z` the greater name, `y` has another kind and no name; a direction 2 is none -/
theorem runSort_stable_kinds :
    let x : Document := [("kind", .str "a"), ("name", .str "m")]
    let y : Document := [("kind", .str "b")]
    let z : Document := [("kind", .str "a"), ("name", .str "n")]
    let body : Document := [("kind", .int 1), ("name", .int (-1))]
    let keys : List SortKey := [⟨"kind", false⟩, ⟨"name", true⟩]
    (∀ f ∈ body, IsDirection f.2) ∧ body.Ordered ∧ runSort body [x, y, z] = .ok [z, x, y] ∧
    StablySorted keys [x, y, z] [z, x, y] ∧ runSort body [z, x, y] = .ok [z, x, y] ∧
    (∃ f ∈ [("kind", Json.int 1), ("name", .int 2)], ¬IsDirection f.2) ∧
    runSort [("kind", .int 1), ("name", .int 2)] [x, y, z] = .error (.invalidPipeline (.sortDirection "name")) := by
  intro x y z body keys
  have hbody : body = keys.map toField := rfl
  have hdirections : ∀ f ∈ body, IsDirection f.2 := by
    rw [hbody]
    intro f hf
    obtain ⟨k, -, rfl⟩ := List.mem_map.1 hf
    exact isDirection_toField k
  have hsort : sortBy keys [x, y, z] = [z, x, y] := by
    have hxy : (compareBy keys x y).isLE = true := by decide
    have hxz : (compareBy keys x z).isLE = false := by decide
    simp [sortBy, List.mergeSort, List.MergeSort.Internal.splitInTwo, hxy, hxz]
  have hnone : ∃ f ∈ [("kind", Json.int 1), ("name", .int 2)], ¬IsDirection f.2 := by
    refine ⟨("name", .int 2), by simp, ?_⟩
    rintro (h | h) <;> cases h
  obtain ⟨read, sorted, hread, -, hrun, hstable, hagain⟩ := (runSort_stable body [x, y, z]).1 hdirections
  obtain ⟨before, f, after, hsplit, -, hf, hfails⟩ := (runSort_stable _ [x, y, z]).2 hnone
  have hkeys : read = keys :=
    Except.ok.inj ((mapM_ofField_eq_ok_iff.2 hread).symm.trans (mapM_ofField_eq_ok_iff.2 hbody))
  have hsorted : sorted = [z, x, y] := by
    have hkeyed : runSort body [x, y, z] = .ok (sortBy keys [x, y, z]) := runSort_of_keys keys [x, y, z]
    rw [← hsort]
    exact Except.ok.inj (hrun.symm.trans hkeyed)
  have hfield : f = ("kind", .int 1) ∨ f = ("name", .int 2) := by
    have hmem : f ∈ [("kind", Json.int 1), ("name", .int 2)] := hsplit ▸ List.mem_append_cons_self
    simpa using hmem
  subst hkeys hsorted
  refine ⟨hdirections, by decide, hrun, hstable, hagain, hnone, ?_⟩
  rcases hfield with rfl | rfl
  · exact absurd (Or.inl rfl) hf
  · exact hfails

end DocumentQuery
