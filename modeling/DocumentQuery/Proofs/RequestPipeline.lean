/-
ANSWERS TO REQUESTS. The pipeline of a request, written as documents and run by a store, answers what the request asks:
the selected documents, sorted, cut to the page and freed of the excluded fields. No stage of it is ever refused; the
only failures are those of judging a document by the compiled filter.
-/
import DocumentQuery.Proofs.Rendering

namespace DocumentQuery

theorem positive?_positive? (n : Option Count) : PageSpec.positive? (PageSpec.positive? n) = PageSpec.positive? n := by
  simp [PageSpec.positive?, Option.filter_filter]

/-- a page never asks to leave out, or to keep, zero rows -/
theorem PageSpec.positive_window {p : PageSpec} {w : Window} (h : p.window = .ok w) : w.positive = w := by
  unfold window at h
  split at h
  · simp at h
  · dsimp only at h
    split at h
    · cases h
      simp [Window.positive, positive?_positive?]
    · cases h
      simp [Window.positive, PageSpec.positive?]

theorem QueryParams.positive_window {p : QueryParams} {i : Interpretation} (h : p.interpret = .ok i) :
    i.window.positive = i.window := by
  obtain ⟨w, hw, h⟩ := Outcome.bind_eq_ok.1 h
  have hpos := PageSpec.positive_window hw
  split at h
  · cases h
    exact hpos
  · obtain ⟨spec, -, h⟩ := Outcome.bind_eq_ok.1 h
    cases h
    exact hpos

/-- a request's anchor is one that the store can read, with a location field if the settings or the store know one -/
theorem QueryParams.located_filter {p : QueryParams} {config : Config} {f : CompiledFilter} {geoKey : Option String}
    (h : p.filter config = .ok f) (hkey : f.isAnchored = true → config.geoKey = none → geoKey ≠ none) :
    f.Located config geoKey := by
  rintro a rfl
  obtain ⟨descriptor, -, h⟩ := Outcome.bind_eq_ok.1 h
  have ha := compiled_of_compileFilter h
  refine ⟨ha, ?_⟩
  rw [ha.key]
  cases hconfig : config.geoKey with
  | some key => rfl
  | none => exact Option.isSome_iff_ne_none.2 (hkey rfl hconfig)

/-- **Answers to requests.** Whatever the documents (their keys in order at every depth, as all documents have them) and
the store's location field (needed by an anchor when the settings have none): the rendered pipeline gives exactly the
rows that the request means, or fails as the compiled filter fails on one of the documents. -/
theorem QueryParams.run_pipeline {p : QueryParams} {config : Config} {pipeline : Pipeline} {geoKey : Option String}
    {documents : List Document} (h : p.pipeline config = .ok pipeline)
    (hdocuments : ∀ d ∈ documents, (Json.obj d).Ordered)
    (hkey : ∀ f, p.filter config = .ok f → f.isAnchored = true → config.geoKey = none → geoKey ≠ none) :
    ∃ i f, p.interpret = .ok i ∧ p.filter config = .ok f ∧
      (runPipeline documents pipeline.toDocuments geoKey =
          .ok (arrange i.sort i.window config.excludeFields (f.selected geoKey documents)) ∨
        ∃ d ∈ documents, ∃ e, runPipeline documents pipeline.toDocuments geoKey = .error e ∧
          satisfies d f.query = .error e) := by
  obtain ⟨i, hi, h⟩ := Outcome.bind_eq_ok.1 h
  obtain ⟨f, hf, h⟩ := Outcome.bind_eq_ok.1 h
  cases h
  have hlocated := located_filter hf (hkey f hf)
  have hrun := run_assemble hlocated hdocuments i.sort i.window config.excludeFields
  rw [positive_window hi] at hrun
  exact ⟨i, f, hi, hf, hrun⟩

/-- the second of the cafes near a point, from the last name to the first -/
def QueryParams.sample : QueryParams where
  page := ⟨some 2, some 1⟩
  filters := some {
    operator := some "and"
    elements := some [⟨some (.path "kind"), some "eq", .str "cafe"⟩,
      ⟨some (.coordinates [-74, 40]), some "near", .num (.float 6)⟩] }
  sort := some ⟨some "name", some (.str "desc")⟩

/-- settings under which distances are straight -/
def Config.straight : Config := { spherical := false }

/-- the same point and range under these settings, with what is asked of the documents besides -/
def ProximityAnchor.sample (query : Document) : ProximityAnchor :=
  { ProximityAnchor.new (-74) 40 6 .straight with query }

/-- a cafe at a place -/
def sampleCafe (id name : String) (lng lat : Float) : Document :=
  [("_id", .str id), ("at", .obj [("coordinates", .arr [.float lng, .float lat]), ("type", .str "Point")]),
    ("kind", .str "cafe"), ("name", .str name)]

theorem ordered_sampleCafe (id name : String) (lng lat : Float) : (Json.obj (sampleCafe id name lng lat)).Ordered := by
  have hlng := ordered_float lng
  have hlat := ordered_float lat
  simp only [sampleCafe, Json.Ordered, Json.OrderedFields, Json.OrderedItems, Document.Ordered, hlng, hlat,
    List.pairwise_cons, List.forall_mem_cons, List.Pairwise.nil, and_true, true_and]
  decide

/-- a cafe is found at its distance, if that is in range and the cafe is what the search asks for -/
theorem ProximityAnchor.hit?_sampleCafe (query : Document) (id name : String) (lng lat x : Float)
    (hlng : isFinite lng = true) (hlat : isFinite lat = true) (hx : planarDistance 40 (-74) lat lng = x) :
    ((sample query).search "at").hit? (sampleCafe id name lng lat) =
      if ((sample query).search "at").inRange x && holds query (sampleCafe id name lng lat) then
        some (x, Document.insert (sampleCafe id name lng lat) "distance" (.float x))
      else none := by
  have hlocation : ((sample query).search "at").location? (sampleCafe id name lng lat) = some (lng, lat) := by
    have hplace : Document.resolve (sampleCafe id name lng lat) "at" =
        [.obj [("coordinates", .arr [.float lng, .float lat]), ("type", .str "Point")]] := rfl
    have hpoint : Point.ofJson? (.obj [("coordinates", .arr [.float lng, .float lat]), ("type", .str "Point")]) =
        some (lng, lat) := by
      simp [Point.ofJson?, Document.find?, Json.str?, Point.ofPair?, Json.float, hlng, hlat, Json.float?,
        Number.toFloat]
    show (Document.resolve (sampleCafe id name lng lat) "at").findSome? Point.ofJson? = _
    rw [hplace, List.findSome?_cons, hpoint]
  exact ProximitySearch.hit?_of_location hlocation hx

/-- two cafes are in range; from the last name to the first, the second of them is the nearer one -/
theorem QueryParams.run_pipeline_sample :
    let query : Document := [("$and", .arr [.obj [("kind", .str "cafe")]])]
    let documents := [sampleCafe "1" "Roma" (-74) 43, sampleCafe "2" "Luna" (-74) 50, sampleCafe "3" "Sol" (-71) 44]
    let stages : Pipeline :=
      [.near (.sample query), .sort ⟨"name", .descending⟩, .skip 1, .limit 1, .project [("_id", .nat 0)]]
    sample.pipeline .straight = .ok stages ∧ (∀ d ∈ documents, (Json.obj d).Ordered) ∧
      runPipeline documents stages.toDocuments (some "at") =
        .ok [[("at", .obj [("coordinates", .arr [.float (-74), .float 43]), ("type", .str "Point")]),
          ("distance", .float 3), ("kind", .str "cafe"), ("name", .str "Roma")]] := by
  intro query documents stages
  let roma := Document.insert (sampleCafe "1" "Roma" (-74) 43) "distance" (.float 3)
  let sol := Document.insert (sampleCafe "3" "Sol" (-71) 44) "distance" (.float 5)
  have hpipeline : sample.pipeline .straight = .ok stages := rfl
  have hdocuments : ∀ d ∈ documents, (Json.obj d).Ordered := by
    simp [documents, ordered_sampleCafe]
  have hfound : ((ProximityAnchor.sample query).search "at").found documents = [roma, sol] := by
    have hroma := ProximityAnchor.hit?_sampleCafe query "1" "Roma" (-74) 43 3 rfl rfl (by decide +kernel)
    have hluna := ProximityAnchor.hit?_sampleCafe query "2" "Luna" (-74) 50 10 rfl rfl (by decide +kernel)
    have hsol := ProximityAnchor.hit?_sampleCafe query "3" "Sol" (-71) 44 5 rfl rfl (by decide +kernel)
    have hhits : documents.filterMap ((ProximityAnchor.sample query).search "at").hit? = [(3, roma), (5, sol)] := by
      simp only [documents, List.filterMap_cons, hroma, hluna, hsol]
      rfl
    have hsorted : [(3, roma), (5, sol)].Pairwise fun h k =>
        decide (ProximitySearch.distanceRank h.1 ≤ ProximitySearch.distanceRank k.1) = true := by
      decide +kernel
    rw [ProximitySearch.found, hhits, List.mergeSort_of_pairwise hsorted]
    rfl
  have hsort : sortRows (some ⟨"name", .descending⟩) [roma, sol] = [sol, roma] := by
    have hbefore : SortSpec.before ⟨"name", .descending⟩ roma sol = false := by decide
    simp [sortRows, List.mergeSort, List.MergeSort.Internal.splitInTwo, hbefore]
  have hfilter : sample.filter .straight = .ok (.anchored (.sample query)) := rfl
  have hinterpret : sample.interpret = .ok ⟨some 1, some 1, some ⟨"name", .descending⟩⟩ := rfl
  have hkey : ∀ f, sample.filter .straight = .ok f → f.isAnchored = true → Config.straight.geoKey = none →
      some "at" ≠ none := fun _ _ _ _ => Option.some_ne_none _
  obtain ⟨i, f, hi, hf, hrun⟩ := run_pipeline hpipeline hdocuments hkey
  cases hinterpret.symm.trans hi
  cases hfilter.symm.trans hf
  refine ⟨hpipeline, hdocuments, ?_⟩
  rcases hrun with hrun | ⟨d, hd, e, -, hfault⟩
  · have hselected : CompiledFilter.selected (.anchored (.sample query)) (some "at") documents = [roma, sol] := hfound
    rw [hrun, hselected, arrange, hsort]
    rfl
  · -- every cafe has a verdict
    simp only [documents, List.mem_cons, List.not_mem_nil, or_false] at hd
    rcases hd with rfl | rfl | rfl <;> cases hfault

end DocumentQuery
