/-
GROUPED DOCUMENTS, said by the fields of a group stage and the values that its expressions have on the documents:

- `newcomers`, `Gathered`: a list of values without those that are equal to an earlier one;
- `find?_gather_push`, `find?_gather_addToSet`: columns of the row that some documents make;
- `IsGrouping`, `exists_ofBody_iff`: which bodies are read as a group stage;
- `RowOf`, `Partitions`: the rows that the classes of documents make;
- `run_group_partitions`: what a group stage gives, and which one is refused whatever the documents.
-/
import DocumentQuery.Evaluation.Run
import DocumentQuery.Proofs.Grouping
import DocumentQuery.Proofs.ValueKinds

namespace DocumentQuery

/-! ## First appearances -/

/-- distinct texts stand in the order in which they first appear -/
theorem pairwise_idxOf_eraseDups (texts : List String) :
    texts.eraseDups.Pairwise fun t u => texts.idxOf t < texts.idxOf u := by
  induction texts using List.reverseRecOn with
  | nil => exact List.Pairwise.nil
  | append_singleton texts a ih =>
    have hkept : texts.eraseDups.Pairwise fun t u => (texts ++ [a]).idxOf t < (texts ++ [a]).idxOf u := by
      refine ih.imp_of_mem fun {t u} ht hu hlt => ?_
      rw [List.idxOf_append_of_mem (List.mem_eraseDups.1 ht), List.idxOf_append_of_mem (List.mem_eraseDups.1 hu)]
      exact hlt
    rw [eraseDups_concat]
    split
    · exact hkept
    · next h =>
      refine List.pairwise_append.2 ⟨hkept, List.pairwise_singleton _ a, ?_⟩
      intro t ht u hu
      have ht := List.mem_eraseDups.1 ht
      rw [List.mem_singleton.1 hu, List.idxOf_append_of_mem ht, List.idxOf_append_of_notMem h]
      have hlt := List.idxOf_lt_length_iff.2 ht
      omega

/-- values with every one removed that is equal to an earlier one -/
def newcomers (values : List Json) : List Json :=
  (values.zipIdx.filter fun p => !(values.take p.2).any (·.equal p.1)).map (·.1)

theorem equal_iff {a b : Json} : a.equal b = true ↔ a.compare b = .eq := by
  simp [Json.equal]

theorem newcomers_concat (values : List Json) (v : Json) :
    newcomers (values ++ [v]) = if values.any (·.equal v) then newcomers values else newcomers values ++ [v] := by
  have hbefore : (values.zipIdx.filter fun p => !((values ++ [v]).take p.2).any (·.equal p.1)) =
      values.zipIdx.filter fun p => !(values.take p.2).any (·.equal p.1) := by
    refine List.filter_congr fun p hp => ?_
    obtain ⟨hlt, -⟩ := List.getElem?_eq_some_iff.1 (List.mem_zipIdx_iff_getElem?.1 hp)
    rw [List.take_append_of_le_length (Nat.le_of_lt hlt)]
  unfold newcomers
  rw [List.zipIdx_append, List.filter_append, List.map_append, hbefore]
  simp only [List.zipIdx_singleton, Nat.zero_add, List.filter_cons, List.filter_nil, List.take_left]
  cases values.any (·.equal v) <;> simp

/-- items are the values that are new among some values: no two of them are equal, and each value is equal to one -/
structure Gathered (values items : List Json) : Prop where
  firsts : items = newcomers values
  distinct : items.Pairwise fun a b => a.compare b ≠ .eq
  covered : ∀ v ∈ values, ∃ w ∈ items, w.compare v = .eq

theorem mem_of_mem_newcomers {values : List Json} {v : Json} (h : v ∈ newcomers values) : v ∈ values := by
  obtain ⟨⟨w, i⟩, hw, rfl⟩ := List.mem_map.1 h
  exact List.mem_of_getElem? (List.mem_zipIdx_iff_getElem?.1 (List.mem_filter.1 hw).1)

theorem gathered_newcomers (values : List Json) : Gathered values (newcomers values) := by
  induction values using List.reverseRecOn with
  | nil => exact ⟨rfl, List.Pairwise.nil, fun v hv => absurd hv List.not_mem_nil⟩
  | append_singleton values v ih =>
    rw [newcomers_concat]
    split
    · next h =>
      obtain ⟨u, hu, huv⟩ := List.any_eq_true.1 h
      refine ⟨by rw [newcomers_concat, if_pos h], ih.distinct, fun w hw => ?_⟩
      rcases List.mem_append.1 hw with hw | hw
      · exact ih.covered w hw
      · obtain ⟨x, hx, hxu⟩ := ih.covered u hu
        rw [List.mem_singleton.1 hw]
        exact ⟨x, hx, Std.TransCmp.eq_trans hxu (equal_iff.1 huv)⟩
    · next h =>
      refine ⟨by rw [newcomers_concat, if_neg h], ?_, fun w hw => ?_⟩
      · refine List.pairwise_append.2 ⟨ih.distinct, List.pairwise_singleton _ v, ?_⟩
        intro a ha b hb heq
        rw [List.mem_singleton.1 hb] at heq
        exact h (List.any_eq_true.2 ⟨a, mem_of_mem_newcomers ha, equal_iff.2 heq⟩)
      · rcases List.mem_append.1 hw with hw | hw
        · obtain ⟨x, hx, hxw⟩ := ih.covered w hw
          exact ⟨x, List.mem_append_left _ hx, hxw⟩
        · exact ⟨w, List.mem_append_right _ hw, Json.compare_self w⟩

/-- a value is equal to one of the new ones exactly if it is equal to any -/
theorem any_newcomers (values : List Json) (v : Json) :
    (newcomers values).any (·.equal v) = values.any (·.equal v) := by
  rw [Bool.eq_iff_iff, List.any_eq_true, List.any_eq_true]
  constructor
  · rintro ⟨w, hw, heq⟩
    exact ⟨w, mem_of_mem_newcomers hw, heq⟩
  · rintro ⟨u, hu, heq⟩
    obtain ⟨w, hw, hwu⟩ := (gathered_newcomers values).covered u hu
    exact ⟨w, hw, equal_iff.2 (Std.TransCmp.eq_trans hwu (equal_iff.1 heq))⟩

/-! ## Columns of rows -/

/-- the values that an expression has on documents, in their order -/
def presentValues (expression : Json) (documents : List Document) : List Json :=
  documents.filterMap (evaluate? · expression)

/-- what a column has collected after some documents -/
def collected (a : Accumulation) (expression : Json) (documents : List Document) : Option Json :=
  documents.foldl (fun sofar d => some (a.add sofar (evaluate? d expression))) none

theorem collected_concat (a : Accumulation) (expression : Json) (documents : List Document) (d : Document) :
    collected a expression (documents ++ [d]) =
      some (a.add (collected a expression documents) (evaluate? d expression)) := by
  simp [collected]

theorem presentValues_concat (expression : Json) (documents : List Document) (d : Document) :
    presentValues expression (documents ++ [d]) =
      presentValues expression documents ++ (evaluate? d expression).toList := by
  rw [presentValues, List.filterMap_append, ← presentValues]
  cases h : evaluate? d expression <;> simp [h]

theorem collected_push (expression : Json) (documents : List Document) :
    (collected .push expression documents).getD (.arr []) = .arr (presentValues expression documents) := by
  induction documents using List.reverseRecOn with
  | nil => rfl
  | append_singleton documents d ih =>
    rw [collected_concat, presentValues_concat, Option.getD_some]
    cases evaluate? d expression with
    | none => simp [Accumulation.add, ih]
    | some v => simp [Accumulation.add, ih]

theorem collected_addToSet (expression : Json) (documents : List Document) :
    (collected .addToSet expression documents).getD (.arr []) =
      .arr (newcomers (presentValues expression documents)) := by
  induction documents using List.reverseRecOn with
  | nil => rfl
  | append_singleton documents d ih =>
    rw [collected_concat, presentValues_concat, Option.getD_some]
    cases evaluate? d expression with
    | none => simp [Accumulation.add, ih]
    | some v =>
      simp only [Accumulation.add, ih, any_newcomers, Option.toList_some, newcomers_concat]
      split <;> rfl

theorem exists_collected (a : Accumulation) (expression : Json) {documents : List Document} (h : documents ≠ []) :
    ∃ v, collected a expression documents = some v := by
  rw [← List.dropLast_append_getLast h, collected_concat]
  exact ⟨_, rfl⟩

namespace GroupSpec

variable {s : GroupSpec} {c : GroupColumn} {documents : List Document}

/-- a column of the row that documents make is what it has collected from them -/
theorem find?_gather_column (hs : s.WellNamed) (hc : c ∈ s.columns) :
    Document.find? (s.gather documents) c.name = collected c.accumulation c.expression documents := by
  have hfresh : Document.find? (documents.head?.elim [] s.fresh) c.name = none := by
    have hname : "_id" ≠ c.name := fun h => hs.key (h ▸ List.mem_map_of_mem hc)
    cases documents with
    | nil => rfl
    | cons d rest => exact (Document.find?_single _ _ _).trans (if_neg hname)
  rw [gather, s.find?_foldl_addTo hs.nodup hc, hfresh]
  rfl

/-- where there are documents, a column has collected something -/
theorem find?_gather_list (hs : s.WellNamed) (hc : c ∈ s.columns) {v : Json} (h : documents ≠ [])
    (hv : (collected c.accumulation c.expression documents).getD (.arr []) = v) :
    Document.find? (s.gather documents) c.name = some v := by
  obtain ⟨w, hw⟩ := exists_collected c.accumulation c.expression h
  rw [hw, Option.getD_some] at hv
  rw [find?_gather_column hs hc, hw, hv]

theorem find?_gather_push (hs : s.WellNamed) (hc : c ∈ s.columns) (hpush : c.accumulation = .push)
    (h : documents ≠ []) :
    Document.find? (s.gather documents) c.name = some (.arr (presentValues c.expression documents)) := by
  refine find?_gather_list hs hc h ?_
  rw [hpush, collected_push]

theorem find?_gather_addToSet (hs : s.WellNamed) (hc : c ∈ s.columns) (hset : c.accumulation = .addToSet)
    (h : documents ≠ []) :
    Document.find? (s.gather documents) c.name =
      some (.arr (newcomers (presentValues c.expression documents))) := by
  refine find?_gather_list hs hc h ?_
  rw [hset, collected_addToSet]

/-- a row has the key and the columns alone -/
theorem find?_gather_of_not_mem {name : String} (hkey : name ≠ "_id") (h : name ∉ s.columns.map (·.name)) :
    Document.find? (s.gather documents) name = none := by
  have hkeep (row : Document) : Document.find? (documents.foldl s.addTo row) name = Document.find? row name := by
    induction documents generalizing row with
    | nil => rfl
    | cons d rest ih => exact (ih (s.addTo row d)).trans (s.find?_addTo_of_not_mem h row d)
  rw [gather, hkeep]
  cases documents with
  | nil => rfl
  | cons d rest => exact (Document.find?_single _ _ _).trans (if_neg (Ne.symm hkey))

end GroupSpec

/-! ## Bodies of group stages -/

/-- an object of one known accumulator -/
def IsColumn (v : Json) : Prop := ∃ (a : Accumulation) (expression : Json), v = .obj [(a.tag, expression)]

/-- a body with a key, whose other fields are columns -/
structure IsGrouping (body : Document) : Prop where
  key : (Document.find? body "_id").isSome
  columns : ∀ f ∈ body, f.1 ≠ "_id" → IsColumn f.2

theorem Accumulation.ofTag?_eq_some_iff {tag : String} {a : Accumulation} : ofTag? tag = some a ↔ tag = a.tag := by
  constructor
  · intro h
    unfold ofTag? at h
    split at h <;> cases h <;> rfl
  · rintro rfl
    exact ofTag?_tag a

theorem GroupColumn.ofField_eq_ok_iff {f : String × Json} {c : GroupColumn} :
    ofField f = .ok c ↔ f = (c.name, .obj [(c.accumulation.tag, c.expression)]) := by
  constructor
  · intro h
    obtain ⟨name, v⟩ := f
    unfold ofField at h
    split at h
    · next tag expression hv =>
      split at h
      · next a ha =>
        cases h
        cases hv
        rw [Accumulation.ofTag?_eq_some_iff.1 ha]
      · cases h
    · cases h
  · rintro rfl
    simp [ofField, Accumulation.ofTag?_tag]

/-- the bodies that are read as a group stage -/
theorem exists_ofBody_iff {body : Document} : (∃ s, GroupSpec.ofBody body = .ok s) ↔ IsGrouping body := by
  have hcolumns : (∃ columns, (body.filter fun f => f.1 != "_id").mapM GroupColumn.ofField = .ok columns) ↔
      ∀ f ∈ body, f.1 ≠ "_id" → IsColumn f.2 := by
    rw [Outcome.exists_mapM_eq_ok]
    simp only [List.mem_filter, bne_iff_ne, and_imp, GroupColumn.ofField_eq_ok_iff]
    refine forall_congr' fun f => forall_congr' fun _ => forall_congr' fun _ => ?_
    constructor
    · rintro ⟨c, rfl⟩
      exact ⟨c.accumulation, c.expression, rfl⟩
    · rintro ⟨a, expression, h⟩
      exact ⟨⟨f.1, a, expression⟩, Prod.ext rfl h⟩
  constructor
  · rintro ⟨s, hs⟩
    obtain ⟨hkey, hread⟩ := GroupSpec.ofBody_eq_ok hs
    exact ⟨by rw [hkey]; rfl, hcolumns.1 ⟨_, hread⟩⟩
  · rintro ⟨hkey, hread⟩
    obtain ⟨key, hkey⟩ := Option.isSome_iff_exists.1 hkey
    obtain ⟨columns, hread⟩ := hcolumns.2 hread
    refine ⟨⟨key, columns⟩, ?_⟩
    rw [GroupSpec.ofBody, hkey]
    dsimp only
    rw [hread]
    rfl

/-! ## Partitions -/

/-- the text by which a document belongs to its group -/
def keyText (key : Json) (d : Document) : String := ((evaluate? d key).getD .null).compact

/-- a row is what a group of documents makes of the columns of a body -/
structure RowOf (body : Document) (key : Json) (d : Document) (rest : List Document) (row : Document) : Prop where
  id : Document.find? row "_id" = some ((evaluate? d key).getD .null)
  first : ∀ name expression, name ≠ "_id" → (name, .obj [("$first", expression)]) ∈ body →
    Document.find? row name = some ((evaluate? d expression).getD .null)
  push : ∀ name expression, name ≠ "_id" → (name, .obj [("$push", expression)]) ∈ body →
    Document.find? row name = some (.arr (presentValues expression (d :: rest)))
  addToSet : ∀ name expression, name ≠ "_id" → (name, .obj [("$addToSet", expression)]) ∈ body →
    ∃ items, Document.find? row name = some (.arr items) ∧ Gathered (presentValues expression (d :: rest)) items
  others : ∀ name, name ≠ "_id" → (∀ v, (name, v) ∉ body) → Document.find? row name = none
  ordered : row.Ordered

/-- rows are those of the groups of documents, one for each text of the key, in the order in which the texts first
appear -/
structure Partitions (body : Document) (key : Json) (documents : List Document) (texts : List String)
    (rows : List Document) : Prop where
  once : texts.Nodup
  complete : ∀ t, t ∈ texts ↔ ∃ d ∈ documents, keyText key d = t
  inOrder : texts.Pairwise fun t u => (documents.map (keyText key)).idxOf t < (documents.map (keyText key)).idxOf u
  rows : List.Forall₂ (fun t row => ∃ d rest, documents.filter (keyText key · = t) = d :: rest ∧
    RowOf body key d rest row) texts rows

namespace GroupSpec

variable {s : GroupSpec} {body : Document}

theorem ordered_addTo (s : GroupSpec) {row : Document} (h : row.Ordered) (d : Document) : (s.addTo row d).Ordered := by
  obtain ⟨key, columns⟩ := s
  induction columns generalizing row with
  | nil => exact h
  | cons c rest ih =>
    rw [addTo_cons]
    exact ih (Document.ordered_insert h _ _)

theorem ordered_gather (s : GroupSpec) (documents : List Document) : (s.gather documents).Ordered := by
  have hkeep (row : Document) (h : row.Ordered) : (documents.foldl s.addTo row).Ordered := by
    induction documents generalizing row with
    | nil => exact h
    | cons d rest ih => exact ih _ (s.ordered_addTo h d)
  refine hkeep _ ?_
  cases documents with
  | nil => exact List.Pairwise.nil
  | cons d rest => exact List.pairwise_singleton _ _

/-- a field of the body that is a column is one of those that are read -/
theorem mem_columns_of_ofBody (hread : ofBody body = .ok s) {name : String} {a : Accumulation} {expression : Json}
    (hname : name ≠ "_id") (h : (name, .obj [(a.tag, expression)]) ∈ body) : ⟨name, a, expression⟩ ∈ s.columns := by
  obtain ⟨c, hc, hof⟩ := exists_column_of_ofBody hread h hname
  have hsame : GroupColumn.ofField (name, .obj [(a.tag, expression)]) = .ok ⟨name, a, expression⟩ :=
    GroupColumn.ofField_eq_ok_iff.2 rfl
  rwa [Except.ok.inj (hsame.symm.trans hof)]

/-- documents that form a group make its row -/
theorem rowOf_gather (hbody : body.Ordered) (hread : ofBody body = .ok s) (d : Document) (rest : List Document) :
    RowOf body s.key d rest (s.gather (d :: rest)) := by
  have hs := wellNamed_of_ofBody hbody hread
  have hne : d :: rest ≠ [] := List.cons_ne_nil d rest
  constructor
  · exact find?_gather_id hs d rest
  · intro name expression hname h
    exact find?_gather_first hs (mem_columns_of_ofBody (a := .first) hread hname h) rfl d rest
  · intro name expression hname h
    exact find?_gather_push hs (mem_columns_of_ofBody (a := .push) hread hname h) rfl hne
  · intro name expression hname h
    exact ⟨_, find?_gather_addToSet hs (mem_columns_of_ofBody (a := .addToSet) hread hname h) rfl hne,
      gathered_newcomers _⟩
  · intro name hname h
    refine find?_gather_of_not_mem hname ?_
    rw [names_of_ofBody hread]
    intro hmem
    obtain ⟨f, hf, rfl⟩ := List.mem_map.1 hmem
    exact h f.2 (List.mem_filter.1 hf).1
  · exact s.ordered_gather _

theorem partitions_run (hbody : body.Ordered) (hread : ofBody body = .ok s) (documents : List Document) :
    Partitions body s.key documents (s.texts documents) (s.run documents) := by
  constructor
  · exact s.nodup_texts documents
  · exact fun t => s.mem_texts
  · exact pairwise_idxOf_eraseDups _
  · rw [run_eq_map, List.forall₂_map_right_iff, List.forall₂_same]
    intro t ht
    obtain ⟨d, rest, hmembers, -, -⟩ := s.exists_members ht
    rw [hmembers]
    exact ⟨d, rest, hmembers, rowOf_gather hbody hread d rest⟩

end GroupSpec

/-- **Groups are a partition.** A body with a key and columns of known accumulators gives, for all documents, one row
for each text of the key, in the order in which the texts first appear: it has the key of the first document of its
group and what the columns collect from all of them. Any other body is refused, whatever the documents. -/
theorem run_group_partitions {body : Document} (hbody : body.Ordered) (position : Nat) (geoKey : Option String) :
    (IsGrouping body → ∃ key, Document.find? body "_id" = some key ∧ ∀ documents, ∃ texts rows,
      StageKind.group.run (.obj body) position geoKey documents = .ok rows ∧
        Partitions body key documents texts rows) ∧
    (¬IsGrouping body → ∃ e, ∀ documents,
      StageKind.group.run (.obj body) position geoKey documents = .error e) := by
  have hrun (documents : List Document) : StageKind.group.run (.obj body) position geoKey documents =
      GroupSpec.ofBody body >>= fun s => .ok (s.run documents) := rfl
  constructor
  · intro h
    obtain ⟨s, hread⟩ := exists_ofBody_iff.2 h
    refine ⟨s.key, (GroupSpec.ofBody_eq_ok hread).1, fun documents => ?_⟩
    refine ⟨s.texts documents, s.run documents, ?_, GroupSpec.partitions_run hbody hread documents⟩
    rw [hrun, hread, Outcome.ok_bind]
  · intro h
    cases hread : GroupSpec.ofBody body with
    | ok s => exact absurd (exists_ofBody_iff.1 ⟨s, hread⟩) h
    | error e =>
      refine ⟨e, fun documents => ?_⟩
      rw [hrun, hread, Outcome.error_bind]

/-- two kinds and a document without one, a number in two forms, and a missing value; beside it a body whose column has
an unknown accumulator -/
theorem run_group_partitions_kinds :
    let body : Document := [("_id", .str "$kind"), ("all", .obj [("$push", .str "$n")]),
      ("one", .obj [("$first", .str "$n")]), ("some", .obj [("$addToSet", .str "$n")])]
    let mean : Document := [("_id", .str "$kind"), ("mean", .obj [("$avg", .str "$n")])]
    let documents : List Document := [[("kind", .str "b"), ("n", .int 1)], [("kind", .str "a")], [("n", .int 2)],
      [("kind", .str "b"), ("n", .num (.float 1))]]
    let rows : List Document := [
      [("_id", .str "b"), ("all", .arr [.int 1, .num (.float 1)]), ("one", .int 1), ("some", .arr [.int 1])],
      [("_id", .str "a"), ("all", .arr []), ("one", .null), ("some", .arr [])],
      [("_id", .null), ("all", .arr [.int 2]), ("one", .int 2), ("some", .arr [.int 2])]]
    body.Ordered ∧ IsGrouping body ∧ mean.Ordered ∧ ¬IsGrouping mean ∧
      StageKind.group.run (.obj body) 0 none documents = .ok rows ∧
      (∃ texts, Partitions body (.str "$kind") documents texts rows) ∧
      ∀ documents, StageKind.group.run (.obj mean) 0 none documents = .error (.unsupportedOperator "$avg") := by
  intro body mean documents rows
  have hbody : body.Ordered := by decide
  have hmean : mean.Ordered := by decide
  have hgrouping : IsGrouping body := by
    refine ⟨rfl, fun f hf hkey => ?_⟩
    simp only [body, List.mem_cons, List.not_mem_nil, or_false] at hf
    rcases hf with rfl | rfl | rfl | rfl
    · exact absurd rfl hkey
    · exact ⟨.push, _, rfl⟩
    · exact ⟨.first, _, rfl⟩
    · exact ⟨.addToSet, _, rfl⟩
  have hrefused : ¬IsGrouping mean := by
    rintro ⟨-, hcolumns⟩
    obtain ⟨a, expression, h⟩ := hcolumns ("mean", .obj [("$avg", .str "$n")]) (by simp [mean]) (by decide)
    cases a <;> simp [Accumulation.tag] at h
  have hrun : StageKind.group.run (.obj body) 0 none documents = .ok rows := by rfl
  obtain ⟨key, hkey, hpartitions⟩ := (run_group_partitions hbody 0 none).1 hgrouping
  obtain ⟨e, herror⟩ := (run_group_partitions hmean 0 none).2 hrefused
  cases hkey
  obtain ⟨texts, rows', hrun', hpartition⟩ := hpartitions documents
  cases hrun.symm.trans hrun'
  -- the fault is the same for all documents, so that of none tells it
  have hfault : e = .unsupportedOperator "$avg" := Except.error.inj (herror []).symm
  exact ⟨hbody, hgrouping, hmean, hrefused, hrun, ⟨texts, hpartition⟩, hfault ▸ herror⟩

end DocumentQuery
