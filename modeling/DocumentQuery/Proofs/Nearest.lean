/-
RESTAURANTS AROUND A POINT. `Restaurant.nearest` puts a search by distance in front of what the request filters by, and
the condition of all lists into it. However the request is written, this is to select restaurants first and to search
among them then; the search has no place for a second one.

- `Restaurant.satisfies_listConstraint`: which names a list leaves out;
- `Restaurant.compile_withNear`: the filter with the search in front asks of documents what it asked before;
- `Restaurant.nearest_eq_nearestAmong`: the answer, and the failure of every request with a search of its own.
-/
import DocumentQuery.Places.Restaurant
import DocumentQuery.Proofs.ConstrainedFilters
import DocumentQuery.Proofs.FoldedAnchors
import DocumentQuery.Proofs.OwnField
import DocumentQuery.Proofs.ResourceCalls

namespace DocumentQuery

/-! ## Searches that are accepted -/

/-- a point in degrees, and distances from it that are finite, not below zero and in order -/
structure ProperRange (lng lat : Float) (least : Option Float) (most : Float) : Prop where
  lng : SingleFilter.between (-180) lng 180 = true
  lat : SingleFilter.between (-90) lat 90 = true
  least : ∀ x, least = some x → isFinite x = true ∧ 0 ≤ floatPlace x ∧ floatPlace x ≤ floatPlace most
  most : isFinite most = true ∧ 0 ≤ floatPlace most

/-- the search between two distances from a point, with no further condition -/
def ProximityAnchor.around (config : Config) (lng lat : Float) (least : Option Float) (most : Float) :
    ProximityAnchor :=
  { ProximityAnchor.new lng lat most config with minDistance := least }

namespace SingleFilter

theorem isProximity_around (lng lat : Float) (least : Option Float) (most : Float) :
    (around lng lat least most).operator.isProximity = true := by
  cases least <;> rfl

theorem distance?_float {x : Float} (hfinite : isFinite x = true) (hpos : 0 ≤ floatPlace x) :
    distance? (.float x) = some x := by
  rw [Json.float_of_isFinite hfinite]
  simp [distance?, Json.float?, Number.toFloat, hfinite, hpos]

variable {lng lat most : Float} {least : Option Float}

theorem distances?_around (h : ProperRange lng lat least most) :
    distances? (around lng lat least most).value = some (least, most) := by
  have hmost := distance?_float h.most.1 h.most.2
  cases least with
  | none =>
    have hvalue : (around lng lat none most).value = .num (.float most) := Json.float_of_isFinite h.most.1
    rw [Json.float_of_isFinite h.most.1] at hmost
    rw [hvalue, distances?, hmost]
    · rfl
    · intro range hrange
      cases hrange
  | some x =>
    obtain ⟨hfinite, hpos, hle⟩ := h.least x rfl
    have hleast := distance?_float hfinite hpos
    have hvalue : (around lng lat (some x) most).value = .obj [("max", .float most), ("min", .float x)] := rfl
    rw [Json.float_of_isFinite hfinite] at hleast
    rw [hvalue, Json.float_of_isFinite hfinite]
    simp [distances?, Document.find?, hmost, hleast, hle]

theorem compile_around (h : ProperRange lng lat least most) (config : Config) :
    (around lng lat least most).compile config = .ok (.anchor (.around config lng lat least most)) := by
  have hpoint : (around lng lat least most).point? = some (lng, lat) := by
    have hfield : (around lng lat least most).field = .coordinates [lng, lat] := by
      cases least <;> rfl
    simp [point?, hfield, h.lng, h.lat]
  rw [compile, if_pos (isProximity_around lng lat least most), compileNear, hpoint]
  dsimp only
  rw [distances?_around h]
  rfl

end SingleFilter

/-! ## Filters with a search in front -/

/-- a combined filter that comes out as a predicate has no search among its elements -/
theorem CombinedFilter.flat_of_toPredicate {f : CombinedFilter} {config : Config} {filter : CompiledFilter}
    {q : Document} (h : f.compile config = .ok filter) (hq : filter.toPredicate = .ok q) :
    f.Flat config ∧ q = f.combinator.combine (f.documents config) := by
  obtain ⟨-, haccepted, hjoined⟩ := compile_eq_ok_iff.1 h
  have hflat : f.Flat config := by
    intro e he
    obtain ⟨fragment, hfragment⟩ := haccepted e he
    cases fragment with
    | condition c => exact ⟨_, (SingleFilter.parts_of_condition hfragment).1⟩
    | anchor a =>
      have hmem : a ∈ f.elements.filterMap (·.anchor? config) :=
        List.mem_filterMap.2 ⟨e, he, (SingleFilter.parts_of_anchor hfragment).2⟩
      cases hlast : (f.elements.filterMap (·.anchor? config)).getLast? with
      | none =>
        rw [List.getLast?_eq_none_iff.1 hlast] at hmem
        cases hmem
      | some last =>
        rw [hjoined, joined, hlast] at hq
        cases hq
  rw [hflat.compile] at h
  cases h
  exact ⟨hflat, (Except.ok.inj hq).symm⟩

/-- a filter with a predicate, as the only element of a combined one -/
theorem SingleFilter.flat_alone {f : SingleFilter} {config : Config} {p : Document} (h : f.document? config = some p)
    (c : Combinator) :
    CombinedFilter.Flat ⟨c, [f]⟩ config ∧ CombinedFilter.documents ⟨c, [f]⟩ config = [p] := by
  constructor
  · intro e he
    rw [List.mem_singleton.1 he]
    exact ⟨p, h⟩
  · simp [CombinedFilter.documents, h]

namespace Restaurant

variable {config : Config} {near : SingleFilter} {b : ProximityAnchor}

/-- **The rewritten filter.** With a search in front, a filter that was a predicate is this search, and asks of
documents what it asked before. -/
theorem compile_withNear (hnear : near.compile config = .ok (.anchor b)) (hquery : b.query = [])
    {descriptor : Option FilterDescriptor} {filter : CompiledFilter} {q : Document}
    (h : compileFilter descriptor config = .ok filter) (hq : filter.toPredicate = .ok q) :
    ∃ r, compileFilter (some (withNear near descriptor)) config = .ok (.anchored { b with query := r }) ∧
      ∀ d, satisfies d r = satisfies d q := by
  -- in front of other elements the search takes what these ask, joined by their own combinator
  have hjoined : ∀ f : CombinedFilter, f.Flat config →
      compileFilter (some (withNear near (some (.combined f)))) config =
        .ok (.anchored { b with query := f.combinator.combine (f.documents config) }) := by
    intro f hflat
    have hothers : CombinedFilter.Flat ⟨f.combinator, [] ++ f.elements⟩ config := hflat
    rw [← ProximityAnchor.fold_of_plain hquery]
    exact CombinedFilter.compile_anchored hothers hnear
  cases descriptor with
  | none =>
    cases h
    cases hq
    refine ⟨[], ?_, fun d => rfl⟩
    rw [withNear, compileFilter, hnear, ← hquery]
    rfl
  | some descriptor =>
    cases descriptor with
    | single f =>
      obtain ⟨fragment, hf, rfl⟩ := Outcome.map_eq_ok.1 h
      cases fragment with
      | anchor a => cases hq
      | condition c =>
        cases hq
        obtain ⟨hflat, hdocuments⟩ := SingleFilter.flat_alone (SingleFilter.parts_of_condition hf).1 .and
        refine ⟨_, hjoined _ hflat, fun d => ?_⟩
        rw [hdocuments, satisfies_combine d .and (List.cons_ne_nil _ _)]
        exact SingleFilter.satisfiesJoined_single d .and c.toDocument
    | combined f =>
      obtain ⟨hflat, rfl⟩ := CombinedFilter.flat_of_toPredicate h hq
      exact ⟨_, hjoined f hflat, fun d => rfl⟩

end Restaurant

/-! ## Names that lists leave out -/

/-- the empty text -/
def Json.isEmptyText : Json → Bool
  | .str t => t == ""
  | _ => false

/-- a name that counts as none: the empty text, or a list with the empty text in it -/
def Json.isEmptyName : Json → Bool
  | .arr names => names.any isEmptyText
  | v => v.isEmptyText

theorem Json.equal_emptyText (v : Json) : v.equal (.str "") = v.isEmptyText := by
  cases v with
  | str t =>
    rw [Bool.eq_iff_iff]
    simp [equal, compare, isEmptyText]
  | _ => rfl

theorem equalsAny_emptyText (value : Option Json) : equalsAny value.toList (.str "") = value.any Json.isEmptyName := by
  cases value with
  | none => rfl
  | some v =>
    cases v with
    | arr names =>
      have hitems : (names.any fun v => v.equal (.str "")) = names.any Json.isEmptyText :=
        congrArg names.any (funext Json.equal_emptyText)
      simpa [equalsAny, expand, Json.arr?, Json.equal_emptyText, Json.isEmptyText, Json.isEmptyName] using hitems
    | _ => simp [equalsAny, expand, Json.arr?, Json.equal_emptyText, Json.isEmptyName]

namespace Restaurant

/-- a restaurant without a name to speak of -/
def isUnnamed (d : Document) : Bool := (Document.find? d "name").any Json.isEmptyName

/-- lists leave out the restaurants without a name, and judge all others -/
theorem satisfies_listConstraint (d : Document) : satisfies d restaurants.listConstraint = .ok (!isUnnamed d) := by
  have hplain : Path.segments "name" = ["name"] := by decide
  have hknown : ConditionOperator.ofKey? Operator.notEquals.tag = some .ne := rfl
  calc satisfies d restaurants.listConstraint
      = fieldVerdict d "name" Resource.notEmptyText := satisfies_single d "name" Resource.notEmptyText
    _ = meets (Document.resolve d "name") (Constraint.compare .notEquals (.str "")).toJson :=
        fieldVerdict_path (by decide) Resource.notEmptyText
    _ = .ok (!equalsAny (Document.resolve d "name") (.str "")) :=
        SingleFilter.meets_compare (Document.resolve d "name") (.str "") hknown (by decide)
    _ = .ok (!isUnnamed d) := by
        rw [Document.resolve_of_plain hplain, equalsAny_emptyText]
        rfl

/-! ## The answer -/

end Restaurant

/-- a list is what its pipeline gives, with the page that was asked for -/
theorem Resource.answer_eq (r : Resource) (pipeline : Pipeline) (params : QueryParams) (s : Store) :
    r.answer pipeline params s =
      (((runPipeline (s.rows r.collection) pipeline.toDocuments (s.geoField? r.collection)).mapError .ofStore).map
        (⟨·, params.page.number⟩), s) := by
  have hcall := Operation.call_aggregate s r.collection pipeline.toDocuments
  unfold answer
  cases hrun : runPipeline (s.rows r.collection) pipeline.toDocuments (s.geoField? r.collection) with
  | error e =>
    rw [hrun] at hcall
    exact Outcome.run_bind_of_error hcall
  | ok rows =>
    rw [hrun] at hcall
    exact Outcome.run_bind_of_ok hcall

namespace Restaurant

variable {config : Config} {b : ProximityAnchor}

/-- a search among some restaurants, with its rows sorted, cut to the page of the request and freed of fields -/
def nearestAmong (config : Config) (params : QueryParams) (i : Interpretation) (b : ProximityAnchor)
    (geoKey : Option String) (kept : List Document) : Except Failure Listing :=
  match runPipeline kept [(Stage.near b).toDocument] geoKey with
  | .error e => .error (.ofStore e)
  | .ok found =>
    let window : Window := ⟨i.skip, i.limit.or config.defaultListLimit⟩
    .ok ⟨arrange i.sort window.positive config.excludeFields found, params.page.number⟩

/-- with a location field the search cannot fail, as it judges nothing -/
theorem nearestAmong_eq_ok (params : QueryParams) (i : Interpretation) (hb : b.Compiled config) (hquery : b.query = [])
    {geoKey : Option String} (hkey : (config.geoKey.or geoKey).isSome = true) (kept : List Document) :
    ∃ listing, nearestAmong config params i b geoKey kept = .ok listing := by
  obtain ⟨key, hkey⟩ := Option.isSome_iff_exists.1 hkey
  rw [nearestAmong, runPipeline_plain hb hquery hkey]
  exact ⟨_, rfl⟩

/-- the pipeline of a list with a search: first the restaurants, then the search, then what the request asks of rows -/
theorem run_listPipeline (hb : b.Compiled config) (hquery : b.query = []) {r q : Document}
    (hr : ∀ d, satisfies d r = satisfies d q) {documents : List Document}
    (hdocuments : ∀ d ∈ documents, (Json.obj d).Ordered) (hjudged : ∀ d ∈ documents, ∃ v, satisfies d q = .ok v)
    (i : Interpretation) (geoKey : Option String) :
    runPipeline documents
        (restaurants.listPipeline config (.anchored { b with query := r }) i).toDocuments geoKey =
      (runPipeline (documents.filter fun d => holds q d && !isUnnamed d) [(Stage.near b).toDocument] geoKey).map
        (arrange i.sort (Window.positive ⟨i.skip, i.limit.or config.defaultListLimit⟩) config.excludeFields) := by
  let p := conjoin r restaurants.listConstraint
  have hverdict : ∀ d, satisfies d p = satisfies d q >>= fun ok => .ok (ok && !isUnnamed d) := by
    intro d
    rw [satisfies_conjoin, hr d, satisfies_listConstraint]
    cases satisfies d q with
    | error e => rfl
    | ok ok => cases ok <;> rfl
  have hholds : holds p = fun d => holds q d && !isUnnamed d := by
    funext d
    unfold holds
    rw [hverdict d]
    cases satisfies d q <;> rfl
  have hboth : ∀ d ∈ documents, ∃ v, satisfies d p = .ok v := by
    intro d hd
    obtain ⟨v, hv⟩ := hjudged d hd
    exact ⟨v && !isUnnamed d, by rw [hverdict d, hv]; rfl⟩
  have hstage : runFrom geoKey 0 (Pipeline.toDocuments [.near { b with query := p }]) documents =
      runPipeline (documents.filter fun d => holds q d && !isUnnamed d) [(Stage.near b).toDocument] geoKey := by
    rw [← hholds]
    exact runPipeline_near_filtered hb hquery hboth geoKey
  have hlist : restaurants.listPipeline config (.anchored { b with query := r }) i =
      Pipeline.assemble (.anchored { b with query := p }) i.sort ⟨i.skip, i.limit.or config.defaultListLimit⟩
        config.excludeFields := rfl
  rw [hlist, runPipeline_assemble, show (CompiledFilter.anchored { b with query := p }).stage?.toList =
    [.near { b with query := p }] from rfl, hstage]
  cases hfound : runPipeline (documents.filter fun d => holds q d && !isUnnamed d) [(Stage.near b).toDocument]
      geoKey with
  | error e => rfl
  | ok found =>
    have hordered : ∀ d ∈ found, (Json.obj d).Ordered :=
      ordered_of_run_near hb hfound fun d hd => hdocuments d (List.mem_filter.1 hd).1
    exact congrArg Except.ok (arrange_eq hordered i.sort _ config.excludeFields)

section

variable {params : QueryParams} {descriptor : Option FilterDescriptor} {lng lat most : Float} {least : Option Float}

/-- a request whose parts are all accepted is answered by a list -/
theorem nearest_of_filter {i : Interpretation} {filter : CompiledFilter}
    (hdescriptor : params.descriptor = .ok descriptor) (hi : params.interpret = .ok i)
    (hfilter : compileFilter (some (withNear (.around lng lat least most) descriptor)) config = .ok filter)
    (s : Store) :
    nearest config params lng lat least most s =
      restaurants.answer (restaurants.listPipeline config filter i) params s := by
  unfold nearest
  rw [Outcome.run_bind_of_ok (Operation.judge_of_ok hdescriptor s),
    Outcome.run_bind_of_ok (Operation.judge_of_ok hi s), Outcome.run_bind_of_ok (Operation.judge_of_ok hfilter s)]

/-- so is a request with a predicate for its filter -/
theorem nearest_of_predicate (hrange : ProperRange lng lat least most) {i : Interpretation}
    (hi : params.interpret = .ok i) {q : Document} (hq : params.predicate config = .ok q) {s : Store}
    (hrows : ∀ d ∈ s.rows "restaurants", (Json.obj d).Ordered)
    (hjudged : ∀ d ∈ s.rows "restaurants", ∃ v, satisfies d q = .ok v) :
    nearest config params lng lat least most s =
      (nearestAmong config params i (.around config lng lat least most) (s.geoField? "restaurants")
        ((s.rows "restaurants").filter fun d => holds q d && !isUnnamed d), s) := by
  obtain ⟨filter, hfilter, hpredicate⟩ := Outcome.bind_eq_ok.1 hq
  obtain ⟨descriptor, hdescriptor, hcompile⟩ := Outcome.bind_eq_ok.1 hfilter
  have hnear := SingleFilter.compile_around hrange config
  obtain ⟨r, hwith, hr⟩ := compile_withNear hnear rfl hcompile hpredicate
  have hrun := run_listPipeline (SingleFilter.compiled_of_compile hnear) rfl hr hrows hjudged i
    (s.geoField? "restaurants")
  have hcollection : restaurants.collection = "restaurants" := rfl
  rw [nearest_of_filter hdescriptor hi hwith, Resource.answer_eq, hcollection, hrun, nearestAmong]
  cases runPipeline ((s.rows "restaurants").filter fun d => holds q d && !isUnnamed d)
      [(Stage.near (.around config lng lat least most)).toDocument] (s.geoField? "restaurants") <;> rfl

end

/-! ## Requests with a search of their own -/

end Restaurant

/-- whether a filter has an element that searches by distance -/
def FilterDescriptor.Searches : FilterDescriptor → Prop
  | single f => f.operator.isProximity = true
  | combined f => ∃ e ∈ f.elements, e.operator.isProximity = true

namespace Restaurant

/-- a second search is refused -/
theorem compile_withNear_of_searches {near : SingleFilter} (hnear : near.operator.isProximity = true)
    {f : FilterDescriptor} (hf : f.Searches) (config : Config) :
    ∃ n, compileFilter (some (withNear near (some f))) config = .error (.severalAnchors n) := by
  cases f with
  | single f =>
    refine ⟨_, CombinedFilter.compile_of_several config ?_⟩
    have hsearches : f.operator.isProximity = true := hf
    simp [hnear, hsearches]
  | combined f =>
    refine ⟨_, CombinedFilter.compile_of_several config ?_⟩
    have hpos : 0 < f.elements.countP (·.operator.isProximity) := List.countP_pos_iff.2 hf
    have hcount : (near :: f.elements).countP (·.operator.isProximity) =
        f.elements.countP (·.operator.isProximity) + 1 := List.countP_cons_of_pos hnear
    show 1 < (near :: f.elements).countP (·.operator.isProximity)
    omega

/-- so a request with a search of its own has no answer -/
theorem nearest_of_searches {params : QueryParams} {f : FilterDescriptor}
    (hdescriptor : params.descriptor = .ok (some f)) (hf : f.Searches) (config : Config) (lng lat : Float)
    (least : Option Float) (most : Float) (s : Store) :
    ∃ e, nearest config params lng lat least most s = (.error (.invalidFilter e), s) := by
  obtain ⟨n, hrefused⟩ :=
    compile_withNear_of_searches (SingleFilter.isProximity_around lng lat least most) hf config
  unfold nearest
  rw [Outcome.run_bind_of_ok (Operation.judge_of_ok hdescriptor s)]
  cases hi : params.interpret with
  | error e => exact ⟨e, Outcome.run_bind_of_error rfl⟩
  | ok i =>
    rw [Outcome.run_bind_of_ok (Operation.judge_of_ok rfl s)]
    exact ⟨_, Outcome.run_bind_of_error (Operation.judge_of_error hrefused s)⟩

/-- **Restaurants around a point.** Let a request be accepted, with a predicate for its filter that every restaurant can
be judged by (restaurants have their keys in order at every depth, as all documents do). Then its answer is that of the
search alone among the restaurants that meet the predicate and have a name, sorted, cut and freed of fields as the
request and the settings ask; there is such an answer as soon as a location field is known. A request whose filter
searches by distance itself is refused. The store stays as it is. -/
theorem nearest_eq_nearestAmong (config : Config) (params : QueryParams) (lng lat : Float) (least : Option Float)
    (most : Float) (s : Store) :
    (∀ i q, ProperRange lng lat least most → params.interpret = .ok i → params.predicate config = .ok q →
      (∀ d ∈ s.rows "restaurants", (Json.obj d).Ordered) →
      (∀ d ∈ s.rows "restaurants", ∃ v, satisfies d q = .ok v) →
        let answer := nearestAmong config params i (.around config lng lat least most) (s.geoField? "restaurants")
          ((s.rows "restaurants").filter fun d => holds q d && !isUnnamed d)
        nearest config params lng lat least most s = (answer, s) ∧
          ((config.geoKey.or (s.geoField? "restaurants")).isSome = true → ∃ listing, answer = .ok listing)) ∧
      ∀ f, params.descriptor = .ok (some f) → f.Searches →
        ∃ e, nearest config params lng lat least most s = (.error (.invalidFilter e), s) := by
  constructor
  · intro i q hrange hi hq hrows hjudged answer
    have hb := SingleFilter.compiled_of_compile (SingleFilter.compile_around hrange config)
    exact ⟨nearest_of_predicate hrange hi hq hrows hjudged, fun hkey => nearestAmong_eq_ok params i hb rfl hkey _⟩
  · intro f hdescriptor hf
    exact nearest_of_searches hdescriptor hf config lng lat least most s

/-- three cafes, the second one too far away and the last one without a name -/
def cafes : Store where
  collections := [("restaurants",
    [sampleCafe "1" "Roma" (-74) 43, sampleCafe "2" "Luna" (-74) 50, sampleCafe "3" "" (-71) 44])]
  geoFields := [("restaurants", "at")]
  identifiers := toString

/-- a request for cafes finds the one with a name in range, and a request with a search beside the kind is refused -/
theorem nearest_eq_nearestAmong_cafes :
    let params : QueryParams :=
      { filters := some { field := some (.path "kind"), operator := some "eq", value := .str "cafe" } }
    let named := [sampleCafe "1" "Roma" (-74) 43, sampleCafe "2" "Luna" (-74) 50]
    let listing : Listing := ⟨[[("at", .obj [("coordinates", .arr [.float (-74), .float 43]), ("type", .str "Point")]),
      ("distance", .float 3), ("kind", .str "cafe"), ("name", .str "Roma")]], none⟩
    ProperRange (-74) 40 none 6 ∧
      nearestAmong .straight params {} (.around .straight (-74) 40 none 6) (some "at") named = .ok listing ∧
      nearest .straight params (-74) 40 none 6 cafes = (.ok listing, cafes) ∧
      nearest .straight .sample (-74) 40 none 6 cafes = (.error (.invalidFilter (.severalAnchors 2)), cafes) := by
  intro params named listing
  have hrange : ProperRange (-74) 40 none 6 := ⟨by decide, by decide, nofun, by decide⟩
  have hrows : ∀ d ∈ cafes.rows "restaurants", (Json.obj d).Ordered := by
    simp [cafes, Store.rows, ordered_sampleCafe]
  have hjudged : ∀ d ∈ cafes.rows "restaurants", ∃ v, satisfies d [("kind", .str "cafe")] = .ok v := by
    intro d hd
    rcases List.mem_cons.1 hd with rfl | hd
    · exact ⟨true, rfl⟩
    · rcases List.mem_pair.1 hd with rfl | rfl <;> exact ⟨true, rfl⟩
  have hb : (ProximityAnchor.sample []).Compiled .straight :=
    SingleFilter.compiled_of_compile (SingleFilter.compile_around hrange .straight)
  have hamong : nearestAmong .straight params {} (.sample []) (some "at") named = .ok listing := by
    rw [nearestAmong, runPipeline_plain hb rfl rfl, ProximityAnchor.found_romaAndLuna]
    rfl
  obtain ⟨hanswer, -⟩ :=
    (nearest_eq_nearestAmong .straight params (-74) 40 none 6 cafes).1 {} _ hrange rfl rfl hrows hjudged
  have hnearest : nearest .straight params (-74) 40 none 6 cafes =
      (nearestAmong .straight params {} (.sample []) (some "at") named, cafes) := hanswer
  have hsearches : FilterDescriptor.Searches (.combined ⟨.and, [⟨.path "kind", .equals, .str "cafe"⟩,
      ⟨.coordinates [-74, 40], .near, .num (.float 6)⟩]⟩) := ⟨_, List.mem_cons_of_mem _ List.mem_cons_self, rfl⟩
  obtain ⟨e, hrefused⟩ := (nearest_eq_nearestAmong .straight .sample (-74) 40 none 6 cafes).2 _ rfl hsearches
  have hseveral : nearest .straight .sample (-74) 40 none 6 cafes =
      (.error (.invalidFilter (.severalAnchors 2)), cafes) := rfl
  cases hseveral.symm.trans hrefused
  exact ⟨hrange, hamong, hamong ▸ hnearest, hrefused⟩

/-- a restaurant with two names, of which one is empty -/
def twoNames : Document :=
  [("_id", .str "1"), ("at", .arr [.nat 0, .nat 0]), ("name", .arr [.str "Roma", .str ""])]

/-- the store of this restaurant alone -/
def twoNamesHere : Store where
  collections := [("restaurants", [twoNames])]
  geoFields := [("restaurants", "at")]
  identifiers := toString

/-- the search around the restaurant's own place finds it at no distance -/
theorem hit?_twoNames :
    ((ProximityAnchor.around { spherical := false } 0 0 none 10).search "at").hit? twoNames =
      some (0, Document.insert twoNames "distance" (.float 0)) := by
  rfl

/-- a list with an empty text in it is not the empty text, and is still left out -/
theorem nearest_leaves_out_twoNames :
    let config : Config := { spherical := false }
    let b : ProximityAnchor := .around config 0 0 none 10
    let named := (twoNamesHere.rows "restaurants").filter fun d =>
      holds [] d && !(Document.find? d "name").any Json.isEmptyText
    ProperRange 0 0 none 10 ∧ QueryParams.interpret {} = .ok {} ∧ QueryParams.predicate {} config = .ok [] ∧
      (∀ d ∈ twoNamesHere.rows "restaurants", (Json.obj d).Ordered ∧ satisfies d [] = .ok true) ∧
      nearest config {} 0 0 none 10 twoNamesHere = (.ok ⟨[], none⟩, twoNamesHere) ∧
      nearestAmong config {} {} b (some "at") named =
        .ok ⟨[[("at", .arr [.nat 0, .nat 0]), ("distance", .float 0), ("name", .arr [.str "Roma", .str ""])]],
          none⟩ := by
  intro config b named
  have hrange : ProperRange 0 0 none 10 := ⟨by decide, by decide, nofun, by decide⟩
  have hb : b.Compiled config := SingleFilter.compiled_of_compile (SingleFilter.compile_around hrange config)
  have hrows : ∀ d ∈ twoNamesHere.rows "restaurants", (Json.obj d).Ordered ∧ satisfies d [] = .ok true := by
    intro d hd
    rw [List.mem_singleton.1 hd]
    refine ⟨?_, rfl⟩
    simp only [twoNames, Json.nat, Json.Ordered, Json.OrderedFields, Json.OrderedItems, Document.Ordered,
      List.pairwise_cons, List.forall_mem_cons, List.Pairwise.nil, and_true]
    decide
  have hanswer : nearest config {} 0 0 none 10 twoNamesHere = _ :=
    nearest_of_predicate hrange rfl rfl (fun d hd => (hrows d hd).1) fun d hd => ⟨true, (hrows d hd).2⟩
  have hnothing : (b.search "at").found [] = [] := by
    simp [ProximitySearch.found]
  have hnone : nearestAmong config {} {} b (some "at") [] = .ok ⟨[], none⟩ := by
    rw [nearestAmong, runPipeline_plain hb rfl (show config.geoKey.or (some "at") = some "at" from rfl), hnothing]
    rfl
  have hhere : (b.search "at").found [twoNames] = [Document.insert twoNames "distance" (.float 0)] := by
    simp [ProximitySearch.found, b, config, hit?_twoNames]
  have hsome : nearestAmong config {} {} b (some "at") [twoNames] =
      .ok ⟨[[("at", .arr [.nat 0, .nat 0]), ("distance", .float 0), ("name", .arr [.str "Roma", .str ""])]], none⟩ := by
    rw [nearestAmong, runPipeline_plain hb rfl (show config.geoKey.or (some "at") = some "at" from rfl), hhere]
    rfl
  exact ⟨hrange, rfl, rfl, hrows, hanswer.trans (congrArg (·, twoNamesHere) hnone), hsome⟩

end Restaurant

end DocumentQuery
