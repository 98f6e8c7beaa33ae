/-
PAGES OF ANSWERS. A request without a page has all its rows for an answer; the pages of any one size are the consecutive
pieces of these rows.

- `PageSpec.cut_windowOf`: the window of a page is a piece of the rows; a product too large for a count does no harm;
- `QueryParams.answer?_onPage`: a page shows its window of what the request answers without a page;
- `QueryParams.pages_tile`: page by page the rows come back, none lost and none repeated, and nothing behind them.
-/
import DocumentQuery.Proofs.RequestPipeline

namespace DocumentQuery

/-! ## Windows -/

theorem Window.cut_map (w : Window) (f : Document → Document) (rows : List Document) :
    w.cut (rows.map f) = (w.cut rows).map f := by
  obtain ⟨skip, limit⟩ := w
  cases limit <;> simp [cut, List.map_drop, List.map_take]

/-- rows left out by a count that may have been bounded -/
theorem drop_boundedMul {α : Type} (a b : Count) {rows : List α} (h : rows.length < 2 ^ 63) :
    rows.drop (PageSpec.boundedMul a b).toNat = rows.drop (a.toNat * b.toNat) := by
  unfold PageSpec.boundedMul
  by_cases hfits : a.toNat * b.toNat < UInt64.size
  · rw [UInt64.toNat_ofNatClamp_of_lt hfits]
  · -- the product was cut to the largest count, and both are behind the last row
    have hsize : UInt64.size = 2 ^ 64 := rfl
    rw [UInt64.toNat_ofNatClamp_of_le (not_lt.1 hfits), List.drop_eq_nil_of_le (by omega),
      List.drop_eq_nil_of_le (by omega)]

theorem PageSpec.positive?_of_pos {n : Count} (h : 0 < n) : positive? (some n) = some n := by
  simp [positive?, h]

/-- the rows in front of a page -/
theorem PageSpec.drop_positive? (n : Count) (rows : List Document) :
    rows.drop ((positive? (some n)).elim 0 UInt64.toNat) = rows.drop n.toNat := by
  by_cases hn : 0 < n
  · rw [positive?_of_pos hn]
    rfl
  · have hzero : n = 0 := by simpa using hn
    rw [hzero]
    rfl

/-- the window of a page that exists, for a size that is one -/
def PageSpec.windowOf (number size : Count) : Window :=
  ⟨positive? (some (boundedMul (number - 1) size)), some size⟩

theorem PageSpec.window_of_pos {number size : Count} (hnumber : 0 < number) (hsize : 0 < size) :
    window ⟨some number, some size⟩ = .ok (windowOf number size) := by
  have hne : (some number : Option Count) ≠ some 0 := by
    rintro ⟨⟩
    exact absurd hnumber (by decide)
  simp only [window, if_neg hne, positive?_of_pos hsize, windowOf]

/-- **Windows of pages.** Page after page of a size, in unbounded numbers. -/
theorem PageSpec.cut_windowOf {number : Count} (hnumber : 0 < number) (size : Count) {rows : List Document}
    (hrows : rows.length < 2 ^ 63) :
    (windowOf number size).cut rows =
      rows.extract ((number.toNat - 1) * size.toNat) (number.toNat * size.toNat) := by
  have hpos : 0 < number.toNat := UInt64.lt_iff_toNat_lt.1 hnumber
  have hpred : (number - 1).toNat = number.toNat - 1 :=
    UInt64.toNat_sub_of_le _ _ (UInt64.le_iff_toNat_le.2 hpos)
  have hwidth : number.toNat * size.toNat - (number.toNat - 1) * size.toNat = size.toNat := by
    rw [← Nat.sub_mul, Nat.sub_sub_self hpos, Nat.one_mul]
  simp only [windowOf, Window.cut, drop_positive?, drop_boundedMul _ _ hrows, hpred, List.extract_eq_take_drop, hwidth]

/-! ## Answers -/

theorem length_sortRows (sort : Option SortSpec) (rows : List Document) :
    (sortRows sort rows).length = rows.length := by
  cases sort with
  | none => rfl
  | some s => exact List.length_mergeSort rows

/-- a filter leaves no more rows than there are documents -/
theorem CompiledFilter.length_le_of_run {f : CompiledFilter} {geoKey : Option String} {documents rows : List Document}
    (h : runFrom geoKey 0 (Pipeline.toDocuments f.stage?.toList) documents = .ok rows) :
    rows.length ≤ documents.length := by
  cases f with
  | unconstrained =>
    cases h
    exact le_rfl
  | predicate p =>
    rw [show (predicate p).stage?.toList = [.select p] from rfl, runFrom_single, run_select] at h
    rw [eq_filter_of_selectRows h]
    exact List.length_filter_le _ _
  | anchored a =>
    rw [show (anchored a).stage?.toList = [.near a] from rfl, runFrom_single, runStage_toDocument] at h
    obtain ⟨fields, -, h⟩ := Outcome.bind_eq_ok.1 h
    obtain ⟨search, -, h⟩ := Outcome.bind_eq_ok.1 h
    rw [ProximitySearch.eq_found_of_run h]
    exact search.length_found_le documents

namespace QueryParams

/-- the rows that a request is answered with, if it is accepted and no document fails to be judged -/
def answer? (p : QueryParams) (config : Config) (geoKey : Option String) (documents : List Document) :
    Option (List Document) :=
  (p.pipeline config).toOption.bind fun pipeline =>
    (runPipeline documents pipeline.toDocuments geoKey).toOption

/-- the same request for another page -/
def onPage (p : QueryParams) (page : PageSpec) : QueryParams := { p with page }

variable {p : QueryParams} {config : Config} {geoKey : Option String} {documents rows : List Document}

theorem answer?_eq_some_iff :
    p.answer? config geoKey documents = some rows ↔
      ∃ pipeline, p.pipeline config = .ok pipeline ∧ runPipeline documents pipeline.toDocuments geoKey = .ok rows := by
  simp only [answer?, Option.bind_eq_some_iff, Outcome.toOption_eq_some]

/-- a page is judged without a look at the sort, and the sort without a look at the page -/
theorem interpret_onPage {page : PageSpec} {w : Window} {i : Interpretation} (h : (p.onPage {}).interpret = .ok i)
    (hw : page.window = .ok w) : i.window = {} ∧ (p.onPage page).interpret = .ok ⟨w.skip, w.limit, i.sort⟩ := by
  have hnone : PageSpec.window {} = .ok {} := rfl
  unfold interpret DocumentQuery.interpret onPage at h ⊢
  rw [hnone, Outcome.ok_bind] at h
  rw [hw, Outcome.ok_bind]
  dsimp only at h ⊢
  split at h
  · cases h
    exact ⟨rfl, rfl⟩
  · obtain ⟨spec, hspec, h⟩ := Outcome.bind_eq_ok.1 h
    cases h
    rw [hspec]
    exact ⟨rfl, rfl⟩

/-- a page shows its window of all rows -/
theorem answer?_onPage (h : (p.onPage {}).answer? config geoKey documents = some rows) :
    rows.length ≤ documents.length ∧ ∀ page w, page.window = .ok w →
      (p.onPage page).answer? config geoKey documents = some (w.cut rows) := by
  obtain ⟨pipeline, hpipeline, hrun⟩ := answer?_eq_some_iff.1 h
  obtain ⟨i, hi, hpipeline⟩ := Outcome.bind_eq_ok.1 hpipeline
  obtain ⟨f, hf, hpipeline⟩ := Outcome.bind_eq_ok.1 hpipeline
  cases hpipeline
  have hall : i.window = {} := (interpret_onPage hi (show PageSpec.window {} = .ok {} from rfl)).1
  rw [runPipeline_assemble, hall] at hrun
  obtain ⟨found, hfound, hrows⟩ := Outcome.map_eq_ok.1 hrun
  have hrows : rows = (sortRows i.sort found).map
      (Document.without · ((PipelineBuilder.exclusion config.excludeFields).map (·.1))) := hrows.symm
  refine ⟨?_, fun page w hw => ?_⟩
  · rw [hrows, List.length_map, length_sortRows]
    exact f.length_le_of_run hfound
  · have hpage := (interpret_onPage hi hw).2
    have hpipeline : (p.onPage page).pipeline config =
        .ok (Pipeline.assemble f i.sort w config.excludeFields) := by
      -- the filter does not know about the page
      rw [pipeline, hpage, Outcome.ok_bind]
      show (p.onPage {}).filter config >>= _ = _
      rw [hf]
      rfl
    refine answer?_eq_some_iff.2 ⟨_, hpipeline, ?_⟩
    rw [runPipeline_assemble, hfound, PageSpec.positive_window hw, hrows, Window.cut_map]
    rfl

/-! ## Page after page -/

/-- consecutive pieces of one size, from the first on -/
theorem flatten_pieces {α : Type} (rows : List α) (size count : Nat) :
    ((List.range count).map fun i => rows.extract (i * size) ((i + 1) * size)).flatten = rows.take (count * size) := by
  induction count with
  | zero => simp
  | succ count ih =>
    have hwidth : (count + 1) * size - count * size = size := by
      rw [← Nat.sub_mul, Nat.add_sub_cancel_left, Nat.one_mul]
    rw [List.range_succ, List.map_append, List.flatten_append, ih, List.map_singleton, List.flatten_singleton,
      List.extract_eq_take_drop, hwidth, Nat.add_mul, Nat.one_mul, List.take_add]

/-- **Pages tile the answer.** There is no page zero. If a request without a page has an answer on fewer than `2 ^ 63`
documents, then every page of every size has one: the rows from `(number - 1) * size` up to `number * size`, however
large these numbers are. Pages past the end are empty, and the first pages together, as soon as they are enough, are all
rows. -/
theorem pages_tile (p : QueryParams) (config : Config) :
    (∀ size, (p.onPage ⟨some 0, size⟩).pipeline config = .error (.pageNumber 0)) ∧
      ∀ geoKey documents rows size, documents.length < 2 ^ 63 → 0 < size →
        (p.onPage {}).answer? config geoKey documents = some rows →
          (∀ number, 0 < number → (p.onPage ⟨some number, some size⟩).answer? config geoKey documents =
            some (rows.extract ((number.toNat - 1) * size.toNat) (number.toNat * size.toNat))) ∧
          (∀ number, 0 < number → rows.length ≤ (number.toNat - 1) * size.toNat →
            (p.onPage ⟨some number, some size⟩).answer? config geoKey documents = some []) ∧
          ∀ count : Count, rows.length ≤ count.toNat * size.toNat →
            ∃ pages : List (List Document), (List.range count.toNat).map (fun i =>
                (p.onPage ⟨some (.ofNat (i + 1)), some size⟩).answer? config geoKey documents) = pages.map some ∧
              pages.flatten = rows := by
  refine ⟨fun size => rfl, fun geoKey documents rows size hdocuments hsize h => ?_⟩
  obtain ⟨hlength, hpages⟩ := answer?_onPage h
  have hrows : rows.length < 2 ^ 63 := lt_of_le_of_lt hlength hdocuments
  have hpage : ∀ number, 0 < number → (p.onPage ⟨some number, some size⟩).answer? config geoKey documents =
      some (rows.extract ((number.toNat - 1) * size.toNat) (number.toNat * size.toNat)) := by
    intro number hnumber
    rw [hpages _ _ (PageSpec.window_of_pos hnumber hsize), PageSpec.cut_windowOf hnumber size hrows]
  refine ⟨hpage, fun number hnumber hpast => ?_, fun count hcount => ?_⟩
  · rw [hpage number hnumber, List.extract_eq_take_drop, List.drop_eq_nil_of_le hpast, List.take_nil]
  · refine ⟨(List.range count.toNat).map fun i => rows.extract (i * size.toNat) ((i + 1) * size.toNat), ?_, ?_⟩
    · rw [List.map_map]
      refine List.map_congr_left fun i hi => ?_
      have hi : i + 1 < 2 ^ 64 := lt_of_le_of_lt (List.mem_range.1 hi) count.toNat_lt
      have hnumber : (UInt64.ofNat (i + 1)).toNat = i + 1 := UInt64.toNat_ofNat_of_lt' hi
      have hpos : 0 < UInt64.ofNat (i + 1) := by
        rw [UInt64.lt_iff_toNat_lt, hnumber]
        exact Nat.succ_pos i
      rw [hpage _ hpos, hnumber, Nat.add_sub_cancel]
      rfl
    · rw [flatten_pieces, List.take_of_length_le hcount]

/-- names from the last to the first -/
def namesBackwards : QueryParams := { sort := some ⟨some "name", some (.str "desc")⟩ }

theorem pages_tile_names :
    let documents : List Document :=
      [[("_id", .str "1"), ("name", .str "c")], [("_id", .str "2"), ("name", .str "b")],
        [("_id", .str "3"), ("name", .str "a")]]
    documents.length < 2 ^ 63 ∧ (0 : Count) < 2 ∧
      (namesBackwards.onPage {}).answer? {} none documents =
        some [[("name", .str "c")], [("name", .str "b")], [("name", .str "a")]] ∧
      (namesBackwards.onPage ⟨some 2, some 2⟩).answer? {} none documents = some [[("name", .str "a")]] ∧
      ∀ size, 0 < size →
        (namesBackwards.onPage ⟨some 0xFFFFFFFFFFFFFFFF, some size⟩).answer? {} none documents = some [] := by
  intro documents
  have hlength : documents.length < 2 ^ 63 := by decide
  have hsorted : documents.Pairwise fun a b => SortSpec.before ⟨"name", .descending⟩ a b := by decide
  have hall : (namesBackwards.onPage {}).answer? {} none documents =
      some [[("name", .str "c")], [("name", .str "b")], [("name", .str "a")]] := by
    refine answer?_eq_some_iff.2 ⟨Pipeline.assemble .unconstrained (some ⟨"name", .descending⟩) {} ["_id"], rfl, ?_⟩
    have hfilter : runFrom none 0 (Pipeline.toDocuments CompiledFilter.unconstrained.stage?.toList) documents =
        .ok documents := rfl
    rw [runPipeline_assemble, hfilter]
    simp only [Except.map, sortRows, List.mergeSort_of_pairwise hsorted]
    rfl
  obtain ⟨-, htile⟩ := pages_tile namesBackwards {}
  have hnames := fun size (hsize : 0 < size) => htile none documents _ size hlength hsize hall
  refine ⟨hlength, by decide, hall, (hnames 2 (by decide)).1 2 (by decide), fun size hsize => ?_⟩
  refine (hnames size hsize).2.1 _ (by decide) ?_
  have hpos : 0 < size.toNat := UInt64.lt_iff_toNat_lt.1 hsize
  show 3 ≤ 0xFFFFFFFFFFFFFFFE * size.toNat
  omega

end QueryParams

end DocumentQuery
