/-
DISTINCT VALUES. The pipeline of a distinct query selects, groups by the field and sorts by the key of the groups. Its
rows list the values of the field, each once and in order, as long as no column takes the place of the key. A column of
that name replaces the key in the body of the group stage, and all documents then fall into one group.

- `sortRows_pairwise`: sorted rows are in order;
- `value_ne_empty`: no selected document has the empty text at the field, distances written into it included;
- `lists_groups`: the rows of groups that kept their key, once they are sorted;
- `run_distinct`: the whole query, with and without the key of its own;
- `distinct_loses_key`: two documents with different values at the key's own name, and one row for both.
-/
import DocumentQuery.Pipeline.Distinct
import DocumentQuery.Proofs.ConstrainedFilters
import DocumentQuery.Proofs.Grouping
import DocumentQuery.Proofs.Writing

namespace DocumentQuery

/-! ## Sorted rows -/

/-- whether one value may stand before another in a direction -/
def SortDirection.before (direction : SortDirection) (v w : Json) : Bool :=
  match direction with
  | .ascending => (v.compare w).isLE
  | .descending => (v.compare w).isGE

/-- sorted rows are in the order of the sort -/
theorem sortRows_pairwise (s : SortSpec) (rows : List Document) :
    (sortRows (some s) rows).Pairwise fun a b => s.before a b = true := by
  have hsorted := pairwise_sortBy [s.key] rows
  simp only [s.sortBy_key, s.compareBy_key] at hsorted
  exact hsorted

/-! ## Values that are not empty -/

/-- below a number there is nothing, and a number is no text -/
theorem head?_descend_float (x : Float) (segments : List String) (t : String) :
    ((Json.float x).descend segments).head?.getD .null ≠ .str t := by
  unfold Json.float
  cases segments with
  | nil => split <;> simp [Json.descend]
  | cons s rest => split <;> simp [Json.descend, Json.oneBelow]

/-- a number that is written into a document makes no text of what stands at a path -/
theorem sortValue_insert_float {d : Document} {field path t : String} {x : Float}
    (h : sortValue (Document.insert d field (.float x)) path = .str t) : sortValue d path = .str t := by
  obtain ⟨s, rest, hpath⟩ := Path.exists_segments path
  unfold sortValue Document.first? Document.resolve at h ⊢
  rw [hpath] at h ⊢
  dsimp only at h ⊢
  rw [Document.find?_insert] at h
  by_cases hs : field = s
  · rw [if_pos hs] at h
    exact absurd h (head?_descend_float x _ t)
  · rw [if_neg hs] at h
    exact h

namespace DistinctQuery

variable {q : DistinctQuery}

/-- some value at a path equals the first one there -/
theorem equalsAny_of_sortValue {d : Document} {path t : String} (h : sortValue d path = .str t) :
    equalsAny (Document.resolve d path) (.str t) = true := by
  unfold sortValue Document.first? at h
  cases hvalues : Document.resolve d path with
  | nil =>
    rw [hvalues] at h
    cases h
  | cons v rest =>
    rw [hvalues] at h
    cases h
    simp [equalsAny, expand, Json.equal, Json.compare_self]

/-- where the field is not the empty text, its first value is not -/
theorem value_ne_of_holds {d : Document} (h : holds q.nonEmpty d = true) : sortValue d q.field ≠ .str "" := by
  have hverdict : satisfies d q.nonEmpty = .ok true := by
    unfold holds at h
    split at h
    · next b hb => rw [hb, h]
    · cases h
  rw [nonEmpty, satisfies_single] at hverdict
  unfold fieldVerdict at hverdict
  split at hverdict
  · -- what joins predicates takes no object
    cases hverdict
  · split at hverdict
    · cases hverdict
    · have hknown : ConditionOperator.ofKey? Operator.notEquals.tag = some .ne := rfl
      have hmeets := SingleFilter.meets_compare (Document.resolve d q.field) (.str "") hknown (by decide)
      have hnot : (!equalsAny (Document.resolve d q.field) (.str "")) = true :=
        Except.ok.inj (hmeets.symm.trans hverdict)
      intro hvalue
      rw [equalsAny_of_sortValue hvalue] at hnot
      cases hnot

/-- no selected document has the empty text at the field, and its distance is none either -/
theorem value_ne_empty {f : CompiledFilter} {geoKey : Option String} {documents : List Document} {d : Document}
    (h : d ∈ f.selected geoKey (documents.filter (holds q.nonEmpty))) : sortValue d q.field ≠ .str "" := by
  obtain ⟨e, he, hd⟩ := CompiledFilter.exists_of_mem_selected h
  have hne := value_ne_of_holds (List.mem_filter.1 he).2
  rcases hd with rfl | ⟨field, x, rfl⟩
  · exact hne
  · exact fun hempty => hne (sortValue_insert_float hempty)

/-! ## Rows of groups -/

/-- no column of the groups has the name of their key -/
def KeepsKey (q : DistinctQuery) : Prop := ∀ c ∈ q.grouping.columns, c.name ≠ "_id"

instance (q : DistinctQuery) : Decidable q.KeepsKey := inferInstanceAs (Decidable (∀ c ∈ q.grouping.columns, _))

theorem keepsKey_iff : q.KeepsKey ↔ q.outputKey ≠ "_id" ∧ ∀ c ∈ q.extras, c.name ≠ "_id" := by
  unfold KeepsKey grouping
  rw [List.forall_mem_cons]
  constructor
  · rintro ⟨hvalue, hrest⟩
    refine ⟨hvalue, fun c hc hname => ?_⟩
    have hother : (c.name != q.outputKey) = true := by simpa [hname] using Ne.symm hvalue
    exact hrest c (List.mem_filter.2 ⟨hc, hother⟩) hname
  · rintro ⟨hvalue, hextras⟩
    exact ⟨hvalue, fun c hc => hextras c (List.mem_filter.1 hc).1⟩

/-- rows list the values that some documents have at the field -/
structure Lists (q : DistinctQuery) (documents rows : List Document) (values : List Json) : Prop where
  /-- each row has its value in the output column -/
  column : rows.map (Document.find? · q.outputKey) = values.map some
  /-- each value is the first one at the field in some document, or null where there is none -/
  occurs : ∀ v ∈ values, ∃ d ∈ documents, sortValue d q.field = v
  /-- no document's value is left out -/
  covers : ∀ d ∈ documents, ∃ v ∈ values, v.compact = (sortValue d q.field).compact
  /-- no value is listed twice -/
  once : (values.map Json.compact).Nodup
  notEmpty : .str "" ∉ values
  sorted : values.Pairwise fun v w => q.direction.before v w = true

theorem sortValue_id (row : Document) : sortValue row "_id" = (Document.find? row "_id").getD .null := by
  rw [sortValue, Document.first?, Document.resolve_of_plain Path.segments_id]
  cases Document.find? row "_id" <;> rfl

/-- columns with the name of the output column collect the value -/
theorem column_of_outputKey {c : Column} (hc : c ∈ q.grouping.columns) (hname : c.name = q.outputKey) :
    c = ⟨q.outputKey, q.field, .first⟩ := by
  rcases List.mem_cons.1 hc with rfl | hc
  · rfl
  · have hne := (List.mem_filter.1 hc).2
    rw [hname] at hne
    simp at hne

section

variable {s : GroupSpec} (hq : q.KeepsKey) (hs : GroupSpec.ofBody q.grouping.toDocument = .ok s)
include hq hs

/-- with a key of its own, the groups are those of the values -/
theorem keyOf_eq_sortValue (d : Document) : s.keyOf d = sortValue d q.field := by
  have hkey := (GroupSpec.ofBody_eq_ok hs).1
  rw [Grouping.find?_toDocument_id hq] at hkey
  rw [GroupSpec.keyOf, ← Option.some.inj hkey, evaluate?_pathExpression]
  rfl

/-- each row has the value of its first document, as its key and in the output column -/
theorem row_of_group (d : Document) (rest : List Document) :
    Document.find? (s.gather (d :: rest)) "_id" = some (sortValue d q.field) ∧
      Document.find? (s.gather (d :: rest)) q.outputKey = some (sortValue d q.field) := by
  have hnamed := GroupSpec.wellNamed_of_ofBody q.grouping.ordered_toDocument hs
  constructor
  · rw [GroupSpec.find?_gather_id hnamed, keyOf_eq_sortValue hq hs]
  · have hvalue : (⟨q.outputKey, q.field, .first⟩ : Column) ∈ q.grouping.columns := List.mem_cons_self
    obtain ⟨c, hc, hname, hfind⟩ := Grouping.exists_find?_toDocument ⟨_, hvalue, rfl⟩
    have hfield := Document.find?_mem hfind
    obtain ⟨column, hcolumn, hread⟩ := GroupSpec.exists_column_of_ofBody hs hfield (hq _ hvalue)
    cases column_of_outputKey hc hname
    cases (ofField_expression _).symm.trans hread
    have hfirst := GroupSpec.find?_gather_first hnamed hcolumn rfl d rest
    rw [evaluate?_pathExpression] at hfirst
    exact hfirst

theorem texts_of_groups (documents : List Document) :
    ((s.run documents).map (sortValue · "_id")).map Json.compact = s.texts documents := by
  have hnamed := GroupSpec.wellNamed_of_ofBody q.grouping.ordered_toDocument hs
  refine List.map_injective_iff.2 (fun _ _ => Option.some.inj) ?_
  rw [← GroupSpec.map_compact_run hnamed, List.map_map, List.map_map]
  refine List.map_congr_left fun row hmem => ?_
  obtain ⟨d, -, rest, rfl⟩ := s.exists_of_mem_run hmem
  simp only [Function.comp_apply, sortValue_id, (row_of_group hq hs d rest).1, Option.getD_some, Option.map_some]

/-- rows of the groups list the values, if they are in order -/
theorem lists_groups {documents rows : List Document} (hempty : ∀ d ∈ documents, sortValue d q.field ≠ .str "")
    (hperm : rows.Perm (s.run documents))
    (hsorted : rows.Pairwise fun a b => q.direction.before (sortValue a "_id") (sortValue b "_id") = true) :
    q.Lists documents rows (rows.map (sortValue · "_id")) := by
  have hrow : ∀ row ∈ rows, Document.find? row q.outputKey = some (sortValue row "_id") ∧
      ∃ d ∈ documents, sortValue d q.field = sortValue row "_id" := by
    intro row hmem
    obtain ⟨d, hd, rest, rfl⟩ := s.exists_of_mem_run (hperm.subset hmem)
    obtain ⟨hid, hout⟩ := row_of_group hq hs d rest
    rw [sortValue_id, hid]
    exact ⟨hout, d, hd, rfl⟩
  have hoccurs : ∀ v ∈ rows.map (sortValue · "_id"), ∃ d ∈ documents, sortValue d q.field = v := by
    intro v hv
    obtain ⟨row, hmem, rfl⟩ := List.mem_map.1 hv
    exact (hrow row hmem).2
  have htexts : ((rows.map (sortValue · "_id")).map Json.compact).Perm (s.texts documents) := by
    refine (hperm.map _).map _ |>.trans ?_
    rw [texts_of_groups hq hs]
  constructor
  case column =>
    rw [List.map_map]
    exact List.map_congr_left fun row hmem => (hrow row hmem).1
  case occurs => exact hoccurs
  case covers =>
    intro d hd
    have htext : s.textOf d ∈ s.texts documents := s.mem_texts.2 ⟨d, hd, rfl⟩
    obtain ⟨v, hv, hcompact⟩ := List.mem_map.1 (htexts.symm.subset htext)
    rw [GroupSpec.textOf, keyOf_eq_sortValue hq hs] at hcompact
    exact ⟨v, hv, hcompact⟩
  case once => exact htexts.nodup_iff.2 (s.nodup_texts documents)
  case notEmpty =>
    intro hmem
    obtain ⟨d, hd, hvalue⟩ := hoccurs _ hmem
    exact hempty d hd hvalue
  case sorted => exact List.pairwise_map.2 hsorted

end

section

variable {s : GroupSpec} (hs : GroupSpec.ofBody q.grouping.toDocument = .ok s)
include hs

/-- with a column in the place of the key, all documents have the same key -/
theorem keyOf_of_not_keepsKey (hq : ¬q.KeepsKey) (d : Document) : s.keyOf d = s.key := by
  obtain ⟨c, hc⟩ := not_forall.1 hq
  obtain ⟨hmem, hname⟩ := Classical.not_imp.1 hc
  obtain ⟨b, -, -, hfind⟩ := Grouping.exists_find?_toDocument ⟨c, hmem, not_not.1 hname⟩
  have hkey := Option.some.inj (hfind.symm.trans (GroupSpec.ofBody_eq_ok hs).1)
  rw [GroupSpec.keyOf, ← hkey]
  rfl

/-! ## The whole query -/

theorem run_group (position : Nat) (geoKey : Option String) (rows : List Document) :
    runStage (Stage.group q.grouping).toDocument position geoKey rows = .ok (s.run rows) := by
  rw [runStage_toDocument]
  simp [Stage.kind, Stage.body, StageKind.run, bodyFields, hs]

/-- a query without a window and exclusions: the constrained filter, then groups, then their order -/
theorem runPipeline_pipeline (f : CompiledFilter) (geoKey : Option String) (documents : List Document) :
    runPipeline documents (q.pipeline f {} []).toDocuments geoKey =
      (runFrom geoKey 0 (Pipeline.toDocuments (f.constrain q.nonEmpty).stage?.toList) documents).map fun selected =>
        sortRows (some ⟨"_id", q.direction⟩) (s.run selected) := by
  have hbuild : q.pipeline f {} [] =
      (f.constrain q.nonEmpty).stage?.toList ++ ([.group q.grouping] ++ [.sort ⟨"_id", q.direction⟩]) := by
    have hslots : q.pipeline f {} [] = (f.constrain q.nonEmpty).stage?.toList ++ [.group q.grouping] ++
        [.sort ⟨"_id", q.direction⟩] ++ [] ++ [] ++ [] := rfl
    rw [hslots, List.append_nil, List.append_nil, List.append_nil, List.append_assoc]
  rw [runPipeline, hbuild, Pipeline.toDocuments_append, runFrom_append]
  cases runFrom geoKey 0 (Pipeline.toDocuments (f.constrain q.nonEmpty).stage?.toList) documents with
  | error e => rfl
  | ok selected =>
    rw [Outcome.ok_bind, Pipeline.toDocuments_append, runFrom_append, runFrom_single, run_group hs, Outcome.ok_bind,
      runFrom_single, run_sort]
    rfl

end

/-- **Distinct values.** Whatever the accepted filter, the field, the direction and the further columns: a query that
runs lists the values that the selected documents have at the field, each once and in order, if no column has the name
of the key. If one has, there is a single row for all of them. -/
theorem run_distinct {descriptor : Option FilterDescriptor} {config : Config} {f : CompiledFilter}
    (hf : compileFilter descriptor config = .ok f) (q : DistinctQuery) {documents rows : List Document}
    {geoKey : Option String} (h : runPipeline documents (q.pipeline f {} []).toDocuments geoKey = .ok rows) :
    (q.KeepsKey → ∃ values, q.Lists (f.selected geoKey (documents.filter (holds q.nonEmpty))) rows values) ∧
      (¬q.KeepsKey → rows.length = min 1 (f.selected geoKey (documents.filter (holds q.nonEmpty))).length) := by
  obtain ⟨s, hs⟩ := q.grouping.exists_ofBody
  have hcompiled : f.Compiled config := by
    rintro a rfl
    exact compiled_of_compileFilter hf
  rw [runPipeline_pipeline hs] at h
  obtain ⟨selected, hselected, hrows⟩ := Outcome.map_eq_ok.1 h
  have hsel := CompiledFilter.eq_selected_of_run (hcompiled.constrain q.nonEmpty) hselected
  rw [CompiledFilter.selected_constrain] at hsel
  rw [← hsel]
  have hempty : ∀ d ∈ selected, sortValue d q.field ≠ .str "" := by
    intro d hd
    rw [hsel] at hd
    exact value_ne_empty hd
  have hperm : rows.Perm (s.run selected) := hrows ▸ List.mergeSort_perm _ _
  constructor
  · intro hq
    refine ⟨_, lists_groups hq hs hempty hperm ?_⟩
    rw [← hrows]
    exact sortRows_pairwise ⟨"_id", q.direction⟩ (s.run selected)
  · intro hq
    rw [hperm.length_eq]
    exact s.length_run_of_constant fun d _ => keyOf_of_not_keepsKey hs hq d

/-- the names of kinds, from the last to the first, with the names of their things -/
def sample : DistinctQuery where
  field := "kind.name"
  direction := .descending
  extras := [⟨"names", "name", .addToSet⟩]

/-- a thing of a kind -/
def thing (id name kind : String) : Document :=
  [("_id", .str id), ("kind", .obj [("name", .str kind)]), ("name", .str name)]

theorem run_distinct_kinds :
    let documents := [thing "1" "a" "x", thing "2" "b" "y", thing "3" "c" "x", thing "4" "d" "", thing "5" "e" "z"]
    let f : CompiledFilter := .predicate (Document.single "name" (.obj (Document.single "$ne" (.str "e"))))
    let x : Document := [("_id", .str "x"), ("kind_name", .str "x"), ("names", .arr [.str "a", .str "c"])]
    let y : Document := [("_id", .str "y"), ("kind_name", .str "y"), ("names", .arr [.str "b"])]
    compileFilter (some (.single ⟨.path "name", .notEquals, .str "e"⟩)) {} = .ok f ∧ sample.KeepsKey ∧
      runPipeline documents (sample.pipeline f {} []).toDocuments none = .ok [y, x] ∧
      ∃ values, sample.Lists (f.selected none (documents.filter (holds sample.nonEmpty))) [y, x] values := by
  intro documents f x y
  have hkey : sample.KeepsKey := sample.keepsKey_iff.2 ⟨by decide, by decide⟩
  have hspec : GroupSpec.ofBody sample.grouping.toDocument =
      .ok ⟨.str "$kind.name", [⟨"kind_name", .first, .str "$kind.name"⟩, ⟨"names", .addToSet, .str "$name"⟩]⟩ := rfl
  have hsort : sortRows (some ⟨"_id", .descending⟩) [x, y] = [y, x] := by
    have hbefore : SortSpec.before ⟨"_id", .descending⟩ x y = false := by decide
    simp [sortRows, List.mergeSort, List.MergeSort.Internal.splitInTwo, hbefore]
  have hfilter : compileFilter (some (.single ⟨.path "name", .notEquals, .str "e"⟩)) {} = .ok f := rfl
  have hrun : runPipeline documents (sample.pipeline f {} []).toDocuments none = .ok [y, x] :=
    (runPipeline_pipeline hspec f none documents).trans (congrArg Except.ok hsort)
  exact ⟨hfilter, hkey, hrun, (run_distinct hfilter sample hrun).1 hkey⟩

/-- two documents with identifiers of their own -/
def things : List Document := [[("_id", .str "1"), ("name", .str "a")], [("_id", .str "2"), ("name", .str "b")]]

/-- the identifiers are two, and there is one row for both, with the text of the column in the place of a value -/
theorem distinct_loses_key :
    let q : DistinctQuery := ⟨"_id", .ascending, []⟩
    let rows : List Document := [[("_id", .obj [("$first", .str "$_id")])]]
    ofSort (some ⟨some "_id", some (.int 1)⟩) = .ok q ∧ compileFilter none {} = .ok .unconstrained ∧
      runPipeline things (q.pipeline .unconstrained {} []).toDocuments none = .ok rows ∧
      rows.map (Document.find? · q.outputKey) = [some (.obj [("$first", .str "$_id")])] ∧
      ¬∃ values, q.Lists (CompiledFilter.unconstrained.selected none (things.filter (holds q.nonEmpty))) rows
        values := by
  refine ⟨rfl, rfl, ?_, rfl, ?_⟩
  · have hspec : GroupSpec.ofBody (grouping ⟨"_id", .ascending, []⟩).toDocument =
        .ok ⟨.obj [("$first", .str "$_id")], []⟩ := rfl
    exact (runPipeline_pipeline hspec .unconstrained none things).trans
      (congrArg Except.ok (List.mergeSort_singleton _))
  · rintro ⟨values, hlists⟩
    have hselected : CompiledFilter.unconstrained.selected none
        (things.filter (holds (nonEmpty ⟨"_id", .ascending, []⟩))) = things := rfl
    rw [hselected] at hlists
    -- the text of the column would have to be the identifier of one of the documents
    have hvalues : values.map some = [some (.obj [("$first", .str "$_id")])] := hlists.column.symm
    obtain ⟨v, rfl, hv⟩ := List.map_eq_singleton_iff.1 hvalues
    obtain ⟨d, hd, hvalue⟩ := hlists.occurs v List.mem_cons_self
    rw [Option.some.inj hv] at hvalue
    simp only [things, List.mem_cons, List.not_mem_nil, or_false] at hd
    rcases hd with rfl | rfl
    · cases hvalue
    · cases hvalue

end DistinctQuery

end DocumentQuery
