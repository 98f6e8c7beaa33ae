/-
PIPELINES IN PARTS. A search around a point can only stand at the head of a pipeline, and every other stage makes the
same of its rows wherever it stands. So a pipeline may be cut in front of stages of other kinds, and the second part
runs on the rows of the first:

- `runStage_eq_ok_iff`: a stage with rows has the tag of a kind as its only key;
- `runStage_elsewhere`, `runFrom_elsewhere`: stages of other kinds have the same rows at all positions;
- `kinds_of_runFrom`: behind the head, a pipeline with rows has no search;
- `runPipeline_parts`: both for whole pipelines.
-/
import DocumentQuery.Proofs.Rendering

namespace DocumentQuery

/-- a stage that searches around a point -/
def IsSearch (stage : Document) : Prop := ∃ body, stage = Document.single StageKind.near.tag body

/-! ## Single stages -/

namespace StageKind

theorem eq_tag_of_ofTag? {tag : String} {kind : StageKind} (h : ofTag? tag = some kind) : tag = kind.tag := by
  unfold ofTag? at h
  split at h <;> cases h <;> rfl

theorem tag_injective {kind other : StageKind} (h : kind.tag = other.tag) : kind = other := by
  have hsame : some kind = some other := by rw [← ofTag?_tag kind, h, ofTag?_tag]
  exact Option.some.inj hsame

/-- only a search asks where it stands -/
theorem run_elsewhere {kind : StageKind} (h : kind ≠ near) (body : Json) (position other : Nat)
    (geoKey : Option String) (rows : List Document) :
    kind.run body position geoKey rows = kind.run body other geoKey rows := by
  cases kind with
  | near => exact absurd rfl h
  | _ => rfl

end StageKind

theorem isSearch_single_iff {kind : StageKind} {body : Json} :
    IsSearch (Document.single kind.tag body) ↔ kind = .near := by
  constructor
  · rintro ⟨other, h⟩
    have hkey : kind.tag = StageKind.near.tag := (Prod.mk.inj (List.cons.inj h).1).1
    exact StageKind.tag_injective hkey
  · rintro rfl
    exact ⟨body, rfl⟩

section

variable {stage : Document} {position : Nat} {geoKey : Option String} {rows next : List Document}

/-- what a stage with rows looks like, and what it does -/
theorem runStage_eq_ok_iff :
    runStage stage position geoKey rows = .ok next ↔
      ∃ kind body, stage = Document.single kind.tag body ∧ StageKind.run kind body position geoKey rows = .ok next := by
  constructor
  · intro h
    unfold runStage at h
    split at h
    · next tag body =>
      split at h
      · next kind hkind =>
        rw [StageKind.eq_tag_of_ofTag? hkind]
        exact ⟨kind, body, rfl, h⟩
      · cases h
    · cases h
  · rintro ⟨kind, body, rfl, h⟩
    simpa [runStage, Document.single, StageKind.ofTag?_tag] using h

/-- a search with rows stands at the head -/
theorem not_isSearch_of_runStage (hposition : position ≠ 0) (h : runStage stage position geoKey rows = .ok next) :
    ¬IsSearch stage := by
  obtain ⟨kind, body, rfl, hrun⟩ := runStage_eq_ok_iff.1 h
  rw [isSearch_single_iff]
  rintro rfl
  simp [StageKind.run, hposition] at hrun

/-- a stage of another kind has the same rows at all positions -/
theorem runStage_elsewhere (hstage : ¬IsSearch stage) (other : Nat) :
    runStage stage position geoKey rows = .ok next ↔ runStage stage other geoKey rows = .ok next := by
  rw [runStage_eq_ok_iff, runStage_eq_ok_iff]
  refine exists_congr fun kind => exists_congr fun body => and_congr_right ?_
  rintro rfl
  have hkind : kind ≠ .near := mt isSearch_single_iff.2 hstage
  rw [StageKind.run_elsewhere hkind body position other]

end

/-! ## Stages after one another -/

section

variable {geoKey : Option String} {pipeline rows result : List Document} {position : Nat}

theorem runFrom_cons_eq_ok_iff {stage : Document} :
    runFrom geoKey position (stage :: pipeline) rows = .ok result ↔
      ∃ next, runStage stage position geoKey rows = .ok next ∧
        runFrom geoKey (position + 1) pipeline next = .ok result :=
  Outcome.bind_eq_ok

/-- stages of other kinds have the same rows from all positions on -/
theorem runFrom_elsewhere (h : ∀ stage ∈ pipeline, ¬IsSearch stage) (other : Nat) :
    runFrom geoKey position pipeline rows = .ok result ↔ runFrom geoKey other pipeline rows = .ok result := by
  induction pipeline generalizing position other rows with
  | nil => rfl
  | cons stage rest ih =>
    obtain ⟨hstage, hrest⟩ := List.forall_mem_cons.1 h
    rw [runFrom_cons_eq_ok_iff, runFrom_cons_eq_ok_iff]
    exact exists_congr fun next => and_congr (runStage_elsewhere hstage other) (ih hrest (other + 1))

/-- all stages of a pipeline with rows have a kind -/
theorem kinds_of_runFrom (h : runFrom geoKey position pipeline rows = .ok result) :
    ∀ stage ∈ pipeline, ∃ kind body, stage = Document.single (StageKind.tag kind) body := by
  induction pipeline generalizing position rows with
  | nil => simp
  | cons stage rest ih =>
    obtain ⟨next, hstage, hrest⟩ := runFrom_cons_eq_ok_iff.1 h
    obtain ⟨kind, body, hkind, -⟩ := runStage_eq_ok_iff.1 hstage
    exact List.forall_mem_cons.2 ⟨⟨kind, body, hkind⟩, ih hrest⟩

/-- stages with rows that do not begin at the head are no searches -/
theorem not_isSearch_of_runFrom (hposition : position ≠ 0)
    (h : runFrom geoKey position pipeline rows = .ok result) : ∀ stage ∈ pipeline, ¬IsSearch stage := by
  induction pipeline generalizing position rows with
  | nil => simp
  | cons stage rest ih =>
    obtain ⟨next, hstage, hrest⟩ := runFrom_cons_eq_ok_iff.1 h
    exact List.forall_mem_cons.2 ⟨not_isSearch_of_runStage hposition hstage, ih (Nat.succ_ne_zero position) hrest⟩

end

/-! ## Whole pipelines -/

/-- **Pipelines in parts.** A pipeline with rows is made of stages with one key each, the tag of their kind, and only
the first of them may be a search around a point. A pipeline that ends in stages of other kinds, well-formed or not,
has the rows that these have on the rows of what stands in front of them, and none if either part has none. -/
theorem runPipeline_parts (documents pipeline : List Document) (geoKey : Option String) :
    (∀ rows, runPipeline documents pipeline geoKey = .ok rows →
      (∀ stage ∈ pipeline, ∃ kind body, stage = Document.single (StageKind.tag kind) body) ∧
        ∀ stage ∈ pipeline.tail, ¬IsSearch stage) ∧
    ∀ front back, pipeline = front ++ back → (∀ stage ∈ back, ¬IsSearch stage) → ∀ rows,
      runPipeline documents pipeline geoKey = .ok rows ↔
        ∃ between, runPipeline documents front geoKey = .ok between ∧ runPipeline between back geoKey = .ok rows := by
  constructor
  · intro rows h
    refine ⟨kinds_of_runFrom h, ?_⟩
    cases pipeline with
    | nil => simp
    | cons stage rest =>
      obtain ⟨next, -, hrest⟩ := runFrom_cons_eq_ok_iff.1 h
      exact not_isSearch_of_runFrom Nat.one_ne_zero hrest
  · rintro front back rfl hback rows
    rw [runPipeline, runFrom_append, Outcome.bind_eq_ok]
    exact exists_congr fun between => and_congr_right fun _ => runFrom_elsewhere hback 0

/-- a straight search around the origin -/
def ProximityAnchor.aroundOrigin : ProximityAnchor := .new 0 0 10 { geoKey := some "at", spherical := false }

/-- the nearest of some places: a search and, behind it, a stage that keeps one row -/
theorem runPipeline_parts_nearestPlace :
    let first : Document := [("_id", .str "1"), ("at", .arr [.nat 3, .nat 4])]
    let third : Document := [("_id", .str "3"), ("at", .arr [.nat 0, .nat 2])]
    let documents := [first, [("_id", .str "2")], third]
    let search := (Stage.near .aroundOrigin).toDocument
    let keepOne := (Stage.limit 1).toDocument
    let nearest : Document := [("_id", .str "3"), ("at", .arr [.nat 0, .nat 2]), ("distance", .float 2)]
    let other : Document := [("_id", .str "1"), ("at", .arr [.nat 3, .nat 4]), ("distance", .float 5)]
    (∀ stage ∈ [keepOne], ¬IsSearch stage) ∧ runPipeline documents [search, keepOne] none = .ok [nearest] ∧
      (∀ stage ∈ [search, keepOne].tail, ¬IsSearch stage) ∧
      runPipeline documents [search] none = .ok [nearest, other] ∧
      runPipeline [nearest, other] [keepOne] none = .ok [nearest] := by
  intro first third documents search keepOne nearest other
  have hback : ∀ stage ∈ [keepOne], ¬IsSearch stage := by
    refine List.forall_mem_singleton.2 ?_
    rw [show keepOne = Document.single StageKind.limit.tag (.count 1) from rfl, isSearch_single_iff]
    decide
  have hanchor : ProximityAnchor.aroundOrigin.Compiled { geoKey := some "at", spherical := false } :=
    ⟨by decide, by decide, by decide, nofun, rfl, rfl, rfl⟩
  have hhits : documents.filterMap (ProximityAnchor.aroundOrigin.search "at").hit? = [(5, other), (2, nearest)] := by
    have hfirst : (ProximityAnchor.aroundOrigin.search "at").hit? first = some (5, other) :=
      ProximitySearch.hit?_of_location (p := (3, 4)) (x := 5) rfl (by decide +kernel)
    have hthird : (ProximityAnchor.aroundOrigin.search "at").hit? third = some (2, nearest) :=
      ProximitySearch.hit?_of_location (p := (0, 2)) (x := 2) rfl (by decide +kernel)
    have hnone : (ProximityAnchor.aroundOrigin.search "at").hit? [("_id", .str "2")] = none := rfl
    simp only [documents, List.filterMap_cons, hfirst, hthird, hnone, List.filterMap_nil]
  have hfound : (ProximityAnchor.aroundOrigin.search "at").found documents = [nearest, other] := by
    have hfar : decide (ProximitySearch.distanceRank 5 ≤ ProximitySearch.distanceRank 2) = false := by decide +kernel
    rw [ProximitySearch.found, hhits]
    simp [List.mergeSort, List.MergeSort.Internal.splitInTwo, hfar]
  have hsearch : runStage search 0 none documents = .ok [nearest, other] := by
    rw [← hfound]
    exact (run_near hanchor none documents).trans (ProximitySearch.run_eq_found fun _ _ => ⟨true, rfl⟩)
  have hrows : runPipeline documents [search, keepOne] none = .ok [nearest] :=
    runFrom_cons_eq_ok_iff.2 ⟨_, hsearch, runFrom_cons_eq_ok_iff.2 ⟨_, run_limit 1 none _ 1, rfl⟩⟩
  obtain ⟨hkinds, hparts⟩ := runPipeline_parts documents [search, keepOne] none
  obtain ⟨between, hbetween, hkept⟩ := (hparts [search] [keepOne] rfl hback _).1 hrows
  have hsame : between = [nearest, other] := by
    obtain ⟨found, hfirst, hdone⟩ := runFrom_cons_eq_ok_iff.1 hbetween
    cases hsearch.symm.trans hfirst
    cases hdone
    rfl
  subst hsame
  exact ⟨hback, hrows, (hkinds _ hrows).2, hbetween, hkept⟩

end DocumentQuery
