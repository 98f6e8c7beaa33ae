/-
RENDERED PIPELINES. Typed stages are written as documents, and a store reads these documents again. Here is what comes
of each stage on the other side, and from it what comes of a whole pipeline that was assembled from a request:

- `run_select` and the like: one stage, at any position where it may stand;
- `runFrom_append`, `runFrom_slot`: stages after one another, and a slot that may be empty;
- `runPipeline_assemble`: what the stages behind the filter make of its rows;
- `run_assemble`: the selected documents, arranged; or the failure to judge one of them.
-/
import DocumentQuery.Pipeline.Builder
import DocumentQuery.Proofs.Anchors
import DocumentQuery.Proofs.Removal
import DocumentQuery.Proofs.Selection
import DocumentQuery.Proofs.SortedDocuments

namespace DocumentQuery

/-! ## What the parts of a request mean -/

/-- whether one document may stand before another under a sort -/
def SortSpec.before (s : SortSpec) (a b : Document) : Bool :=
  let o := (sortValue a s.field).compare (sortValue b s.field)
  match s.direction with
  | .ascending => o.isLE
  | .descending => o.isGE

/-- rows in the order of the sort, if there is one; rows that it does not tell apart stay as they are -/
def sortRows (sort : Option SortSpec) (rows : List Document) : List Document :=
  match sort with
  | some s => rows.mergeSort s.before
  | none => rows

/-- the window as a builder takes it: zero counts as absent -/
def Window.positive (w : Window) : Window := ⟨PageSpec.positive? w.skip, PageSpec.positive? w.limit⟩

theorem PageSpec.pos_of_positive? {m : Option Count} {n : Count} (h : positive? m = some n) : 0 < n := by
  simpa using (Option.filter_eq_some_iff.1 h).2

/-- the rows that a window shows -/
def Window.cut (w : Window) (rows : List Document) : List Document :=
  let rest := rows.drop (w.skip.elim 0 UInt64.toNat)
  match w.limit with
  | some n => rest.take n.toNat
  | none => rest

/-- rows sorted, cut to a window and freed of some fields -/
def arrange (sort : Option SortSpec) (window : Window) (exclude : List String) (rows : List Document) :
    List Document :=
  (window.cut (sortRows sort rows)).map (Document.without · exclude)

/-- the search of an anchor, once it is known where documents keep their location -/
def ProximityAnchor.search (a : ProximityAnchor) (key : String) : ProximitySearch where
  center := (a.lng, a.lat)
  distanceField := a.distanceField
  maxDistance := some a.maxDistance
  minDistance := a.minDistance
  spherical := a.spherical
  key := key
  query := a.query

/-- the documents that a filter selects; an anchor without a location field finds none -/
def CompiledFilter.selected (f : CompiledFilter) (geoKey : Option String) (documents : List Document) : List Document :=
  match f with
  | unconstrained => documents
  | predicate p => documents.filter (holds p)
  | anchored a => (a.key.or geoKey).elim [] fun key => (a.search key).found documents

/-! ## Single stages -/

theorem runStage_toDocument (s : Stage) (position : Nat) (geoKey : Option String) (rows : List Document) :
    runStage s.toDocument position geoKey rows = s.kind.run s.body position geoKey rows := by
  simp [runStage, Stage.toDocument, Document.single, StageKind.ofTag?_tag]

theorem nat?_count (n : Count) : (Json.count n).nat? = some n.toNat := by
  have h : n.toNat ≤ Number.maxNat64 := Nat.le_pred_of_lt n.toNat_lt
  simp [Json.count, Json.nat, Json.nat?, Number.nat?, h]

section

variable (position : Nat) (geoKey : Option String) (rows : List Document)

theorem run_select (p : Document) :
    runStage (Stage.select p).toDocument position geoKey rows = selectRows p rows :=
  runStage_toDocument ..

theorem run_skip (n : Count) :
    runStage (Stage.skip n).toDocument position geoKey rows = .ok (rows.drop n.toNat) := by
  rw [runStage_toDocument]
  simp [Stage.kind, Stage.body, StageKind.run, bodyCount, nat?_count]

theorem run_limit (n : Count) :
    runStage (Stage.limit n).toDocument position geoKey rows = .ok (rows.take n.toNat) := by
  rw [runStage_toDocument]
  simp [Stage.kind, Stage.body, StageKind.run, bodyCount, nat?_count]

/-- the key that a store reads from a sort -/
def SortSpec.key (s : SortSpec) : SortKey := ⟨s.field, s.direction = .descending⟩

theorem SortSpec.toDocument_key (s : SortSpec) : s.toDocument = [s.key].map SortKey.toField := by
  cases s with
  | mk field direction => cases direction <;> rfl

theorem SortSpec.compareBy_key (s : SortSpec) (a b : Document) : (compareBy [s.key] a b).isLE = s.before a b := by
  cases s with
  | mk field direction =>
    cases direction <;> simp [compareBy, SortKey.compare, SortSpec.before, SortSpec.key, Ordering.then_eq]

theorem SortSpec.sortBy_key (s : SortSpec) : sortBy [s.key] rows = sortRows (some s) rows := by
  simp only [sortBy, sortRows, s.compareBy_key]

theorem run_sort (s : SortSpec) :
    runStage (Stage.sort s).toDocument position geoKey rows = .ok (sortRows (some s) rows) := by
  rw [runStage_toDocument]
  have hrun : runSort s.toDocument rows = .ok (sortRows (some s) rows) := by
    rw [s.toDocument_key, runSort_of_keys, s.sortBy_key]
  simp [Stage.kind, Stage.body, StageKind.run, bodyFields, hrun]

/-- a projection that drops fields has no flag that counts as true -/
theorem isExclusion_exclusion (fields : List String) : isExclusion (PipelineBuilder.exclusion fields) = true := by
  have hflag : ∀ f ∈ PipelineBuilder.exclusion fields, f.2 = .nat 0 := by
    refine Document.forall_mem_ofList fun f hf => ?_
    obtain ⟨key, -, rfl⟩ := List.mem_map.1 hf
    rfl
  refine List.all_eq_true.2 fun f hf => ?_
  rw [hflag f hf]
  decide

theorem without_exclusion {d : Document} (hd : (Json.obj d).Ordered) (fields : List String) :
    Document.without d ((PipelineBuilder.exclusion fields).map (·.1)) = Document.without d fields := by
  rw [PipelineBuilder.exclusion, Document.without_keys_ofList hd, List.map_map]
  simp [Function.comp_def]

theorem run_exclude (fields : List String) :
    runStage (Stage.project (PipelineBuilder.exclusion fields)).toDocument position geoKey rows =
      .ok (rows.map (Document.without · ((PipelineBuilder.exclusion fields).map (·.1)))) := by
  rw [runStage_toDocument]
  refine Outcome.mapM_eq_ok fun d _ => ?_
  rw [projectOne, if_pos (isExclusion_exclusion fields)]

end

/-- the store reads the search of a compiled anchor as it was meant, if it is known where documents keep their
location -/
theorem ofBody_stageBody_eq {config : Config} {a : ProximityAnchor} (h : a.Compiled config) (geoKey : Option String) :
    ProximitySearch.ofBody a.stageBody geoKey =
      (a.key.or geoKey).elim (.error (.invalidPipeline .missingGeoKey)) fun key => .ok (a.search key) := by
  have hmost := Json.float_of_isFinite h.most
  have hlng := Json.float_of_isFinite h.lng
  have hlat := Json.float_of_isFinite h.lat
  have hleast : ∀ x, a.minDistance = some x → Json.float x = .num (.float x) :=
    fun x hx => Json.float_of_isFinite (h.least x hx)
  cases ha : a.key <;> cases hm : a.minDistance <;> cases geoKey <;>
    simp_all [ProximitySearch.ofBody, ProximityAnchor.stageBody, ProximityAnchor.optionalField, Document.find?,
      ProximityAnchor.search, Point.ofJson?, Point.ofPair?, Json.float?, Json.str?, Json.bool?, Number.toFloat]

/-- a search that knows where documents keep their location runs, and the stage of any other one is refused -/
theorem run_near {config : Config} {a : ProximityAnchor} (h : a.Compiled config) (geoKey : Option String)
    (rows : List Document) :
    runStage (Stage.near a).toDocument 0 geoKey rows =
      (a.key.or geoKey).elim (.error (.invalidPipeline .missingGeoKey)) fun key => (a.search key).run rows := by
  rw [runStage_toDocument]
  have hbody := ofBody_stageBody_eq h geoKey
  cases hkey : a.key.or geoKey <;> rw [hkey] at hbody <;>
    simp [Stage.kind, Stage.body, StageKind.run, bodyFields, hbody]

/-! ## Stages after one another -/

theorem Pipeline.toDocuments_append (p q : Pipeline) : toDocuments (p ++ q) = toDocuments p ++ toDocuments q :=
  List.map_append

theorem runFrom_append (geoKey : Option String) (position : Nat) (p q rows : List Document) :
    runFrom geoKey position (p ++ q) rows =
      runFrom geoKey position p rows >>= runFrom geoKey (position + p.length) q := by
  induction p generalizing position rows with
  | nil => rfl
  | cons stage p ih =>
    simp only [List.cons_append, runFrom]
    cases runStage stage position geoKey rows with
    | error e => rfl
    | ok next =>
      rw [Outcome.ok_bind, Outcome.ok_bind, ih, List.length_cons, Nat.add_right_comm, Nat.add_assoc]

section

variable {geoKey : Option String} {position : Nat}

theorem runFrom_single (s : Stage) (rows : List Document) :
    runFrom geoKey position (Pipeline.toDocuments [s]) rows = runStage s.toDocument position geoKey rows := by
  show runFrom geoKey position [s.toDocument] rows = _
  rw [runFrom]
  cases runStage s.toDocument position geoKey rows <;> rfl

/-- a slot of the builder: its stage if it is filled, and nothing if it is not -/
theorem runFrom_slot {α : Type} {stage : α → Stage} {rows : List Document} {effect : α → List Document}
    (slot : Option α) (h : ∀ a, slot = some a → runStage (stage a).toDocument position geoKey rows = .ok (effect a)) :
    runFrom geoKey position (Pipeline.toDocuments (slot.map stage).toList) rows = .ok (slot.elim rows effect) := by
  cases slot with
  | none => rfl
  | some a => exact (runFrom_single (stage a) rows).trans (h a rfl)

theorem run_order (sort : Option SortSpec) (rows : List Document) :
    runFrom geoKey position (Pipeline.toDocuments (sort.map Stage.sort).toList) rows = .ok (sortRows sort rows) := by
  rw [runFrom_slot sort fun s _ => run_sort position geoKey rows s]
  cases sort <;> rfl

theorem run_window (w : Window) (rows : List Document) :
    runFrom geoKey position
      (Pipeline.toDocuments ((w.skip.map Stage.skip).toList ++ (w.limit.map Stage.limit).toList)) rows =
      .ok (w.cut rows) := by
  rw [Pipeline.toDocuments_append, runFrom_append, runFrom_slot w.skip fun n _ => run_skip position geoKey rows n,
    Outcome.ok_bind, runFrom_slot w.limit fun n _ => run_limit _ geoKey _ n]
  cases w with
  | mk skip limit => cases skip <;> cases limit <;> rfl

/-- without fields there is no stage, and dropping no fields changes no row -/
theorem run_exclusion (rows : List Document) (b : PipelineBuilder) (fields : List String) :
    runFrom geoKey position (Pipeline.toDocuments ((b.exclude fields).projection.map Stage.project).toList) rows =
      .ok (rows.map (Document.without · ((PipelineBuilder.exclusion fields).map (·.1)))) := by
  have hslot : (b.exclude fields).projection =
      if (PipelineBuilder.exclusion fields).isEmpty then none else some (PipelineBuilder.exclusion fields) := rfl
  rw [hslot]
  split
  · next hempty =>
    rw [List.isEmpty_iff.1 hempty]
    simp [Document.without, runFrom, Pipeline.toDocuments]
  · exact (runFrom_single (.project (PipelineBuilder.exclusion fields)) rows).trans
      (run_exclude position geoKey rows fields)

/-! ## Assembled pipelines -/

theorem mem_sortRows {sort : Option SortSpec} {rows : List Document} {d : Document} :
    d ∈ sortRows sort rows ↔ d ∈ rows := by
  cases sort with
  | none => rfl
  | some s => exact List.mem_mergeSort

theorem mem_of_mem_cut {w : Window} {rows : List Document} {d : Document} (h : d ∈ w.cut rows) : d ∈ rows := by
  unfold Window.cut at h
  dsimp only at h
  split at h
  · exact List.mem_of_mem_drop (List.mem_of_mem_take h)
  · exact List.mem_of_mem_drop h

theorem CompiledFilter.ordered_selected (f : CompiledFilter) (geoKey : Option String) {documents : List Document}
    (h : ∀ d ∈ documents, (Json.obj d).Ordered) : ∀ d ∈ f.selected geoKey documents, (Json.obj d).Ordered := by
  intro d hd
  cases f with
  | unconstrained => exact h d hd
  | predicate p => exact h d (List.mem_filter.1 hd).1
  | anchored a =>
    cases hkey : a.key.or geoKey with
    | none => simp [selected, hkey] at hd
    | some key =>
      rw [selected, hkey] at hd
      exact ProximitySearch.ordered_found h d hd

/-- a filter whose anchor, if there is one, the store can read and has a location field for -/
def CompiledFilter.Located (f : CompiledFilter) (config : Config) (geoKey : Option String) : Prop :=
  ∀ a, f = .anchored a → a.Compiled config ∧ (a.key.or geoKey).isSome

/-- the stage of the filter selects, unless some document cannot be judged -/
theorem CompiledFilter.run_filter {f : CompiledFilter} {config : Config} {geoKey : Option String}
    (h : f.Located config geoKey) (documents : List Document) :
    runFrom geoKey 0 (Pipeline.toDocuments f.stage?.toList) documents = .ok (f.selected geoKey documents) ∨
      ∃ d ∈ documents, ∃ e, runFrom geoKey 0 (Pipeline.toDocuments f.stage?.toList) documents = .error e ∧
        satisfies d f.query = .error e := by
  cases f with
  | unconstrained => exact Or.inl rfl
  | predicate p =>
    have hrun : runFrom geoKey 0 (Pipeline.toDocuments (predicate p).stage?.toList) documents =
        selectRows p documents :=
      (runFrom_single (.select p) documents).trans (run_select 0 geoKey documents p)
    rw [hrun]
    exact selectRows_cases p documents
  | anchored a =>
    obtain ⟨hcompiled, hkey⟩ := h a rfl
    obtain ⟨key, hkey⟩ := Option.isSome_iff_exists.1 hkey
    have hrun : runFrom geoKey 0 (Pipeline.toDocuments (anchored a).stage?.toList) documents =
        (a.search key).run documents := by
      refine (runFrom_single (.near a) documents).trans ?_
      rw [run_near hcompiled, hkey]
      rfl
    rw [hrun, selected, hkey]
    exact ProximitySearch.run_cases (a.search key) documents

/-- what comes behind the stage of the filter never fails: it sorts, cuts and drops fields -/
theorem runPipeline_assemble (f : CompiledFilter) (sort : Option SortSpec) (window : Window) (exclude : List String)
    (documents : List Document) :
    runPipeline documents (Pipeline.assemble f sort window exclude).toDocuments geoKey =
      (runFrom geoKey 0 (Pipeline.toDocuments f.stage?.toList) documents).map fun rows =>
        (window.positive.cut (sortRows sort rows)).map
          (Document.without · ((PipelineBuilder.exclusion exclude).map (·.1))) := by
  have hbuild : Pipeline.assemble f sort window exclude = f.stage?.toList ++ ((sort.map Stage.sort).toList ++
      (((window.positive.skip.map Stage.skip).toList ++ (window.positive.limit.map Stage.limit).toList) ++
        (((PipelineBuilder.ofFilter f).exclude exclude).projection.map Stage.project).toList)) := by
    simp [Pipeline.assemble, PipelineBuilder.build, PipelineBuilder.exclude, PipelineBuilder.project,
      PipelineBuilder.window, PipelineBuilder.skip, PipelineBuilder.limit, PipelineBuilder.sort,
      PipelineBuilder.ofFilter, Window.positive]
  rw [runPipeline, hbuild, Pipeline.toDocuments_append, runFrom_append]
  cases runFrom geoKey 0 (Pipeline.toDocuments f.stage?.toList) documents with
  | error e => rfl
  | ok rows =>
    rw [Outcome.ok_bind, Pipeline.toDocuments_append, runFrom_append, run_order, Outcome.ok_bind,
      Pipeline.toDocuments_append, runFrom_append, run_window window.positive, Outcome.ok_bind, run_exclusion]
    rfl

/-- rows are arranged alike by the names that a projection lists and by those that it was made from -/
theorem arrange_eq {rows : List Document} (hrows : ∀ d ∈ rows, (Json.obj d).Ordered) (sort : Option SortSpec)
    (window : Window) (exclude : List String) :
    arrange sort window ((PipelineBuilder.exclusion exclude).map (·.1)) rows = arrange sort window exclude rows := by
  refine List.map_congr_left fun d hd => ?_
  exact without_exclusion (hrows d (mem_sortRows.1 (mem_of_mem_cut hd))) exclude

/-- **Assembled pipelines.** The documents that the filter selects, sorted, cut to the window and freed of the fields;
or the failure to judge one of the documents. -/
theorem run_assemble {f : CompiledFilter} {config : Config} (hf : f.Located config geoKey)
    {documents : List Document} (hdocuments : ∀ d ∈ documents, (Json.obj d).Ordered) (sort : Option SortSpec)
    (window : Window) (exclude : List String) :
    runPipeline documents (Pipeline.assemble f sort window exclude).toDocuments geoKey =
        .ok (arrange sort window.positive exclude
          (f.selected geoKey documents)) ∨
      ∃ d ∈ documents, ∃ e,
        runPipeline documents (Pipeline.assemble f sort window exclude).toDocuments geoKey = .error e ∧
        satisfies d f.query = .error e := by
  rw [runPipeline_assemble]
  rcases f.run_filter hf documents with h | ⟨d, hd, e, h, he⟩
  · left
    rw [h]
    exact congrArg Except.ok (arrange_eq (f.ordered_selected geoKey hdocuments) sort window.positive exclude)
  · exact Or.inr ⟨d, hd, e, by rw [h]; rfl, he⟩

end

end DocumentQuery
