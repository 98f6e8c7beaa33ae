/-
CONDITIONS INSIDE OF A SEARCH. A search by distance takes the other elements of a combined filter into its query. This
is the same as to select by these elements first and to search among what is left, since a document keeps its location
and its distance whatever else is asked of it.

- `CombinedFilter.compile_anchored`: what comes of a combined filter with one search, wherever this stands;
- `runPipeline_near_filtered`: a search with a condition inside of it, as a search among the documents that meet it;
- `runPipeline_plain`, `runPipeline_folded`: what the stage of a search finds, alone and with conditions inside;
- `CombinedFilter.run_folded`: selecting first and searching then finds the same rows in the same order.
-/
import DocumentQuery.Proofs.Combination
import DocumentQuery.Proofs.Rendering
import DocumentQuery.Proofs.RequestPipeline

namespace DocumentQuery

/-! ## Stages of searches -/

/-- what is folded into a search that asks for nothing besides becomes its query -/
theorem ProximityAnchor.fold_of_plain {b : ProximityAnchor} (hquery : b.query = []) (c : Combinator)
    (fragments : List Document) : b.fold c fragments = { b with query := c.combine fragments } := by
  rw [fold, constrain, hquery]
  rfl

section

variable {config : Config} {b : ProximityAnchor} {geoKey : Option String} {key : String}

/-- a search that knows where documents keep their location runs; any other one is refused -/
theorem runPipeline_near (hb : b.Compiled config) (geoKey : Option String) (documents : List Document) :
    runPipeline documents [(Stage.near b).toDocument] geoKey =
      (config.geoKey.or geoKey).elim (.error (.invalidPipeline .missingGeoKey)) fun key =>
        (b.search key).run documents := by
  rw [← hb.key]
  exact (runFrom_single (.near b) documents).trans (run_near hb geoKey documents)

/-- a search writes distances, which leaves keys in order -/
theorem ordered_of_run_near (hb : b.Compiled config) {documents found : List Document}
    (h : runPipeline documents [(Stage.near b).toDocument] geoKey = .ok found)
    (hdocuments : ∀ d ∈ documents, (Json.obj d).Ordered) : ∀ d ∈ found, (Json.obj d).Ordered := by
  rw [runPipeline_near hb] at h
  cases hkey : config.geoKey.or geoKey with
  | none =>
    rw [hkey] at h
    cases h
  | some key =>
    rw [hkey] at h
    rw [ProximitySearch.eq_found_of_run h]
    exact ProximitySearch.ordered_found hdocuments

theorem ProximityAnchor.run_search_of_plain (hquery : b.query = []) (key : String) (documents : List Document) :
    (b.search key).run documents = .ok ((b.search key).found documents) := by
  refine ProximitySearch.run_eq_found fun d _ => ⟨true, ?_⟩
  show satisfies d b.query = .ok true
  rw [hquery, satisfies]

variable (hb : b.Compiled config) (hquery : b.query = [])
include hb hquery

/-- **Selecting before a search.** A search that asks for something else finds what it finds without that among the
documents that meet it; where no location field is known, neither of them runs. -/
theorem runPipeline_near_filtered {p : Document} {documents : List Document}
    (hjudged : ∀ d ∈ documents, ∃ v, satisfies d p = .ok v) (geoKey : Option String) :
    runPipeline documents [(Stage.near { b with query := p }).toDocument] geoKey =
      runPipeline (documents.filter (holds p)) [(Stage.near b).toDocument] geoKey := by
  have hp : ({ b with query := p } : ProximityAnchor).Compiled config :=
    ⟨hb.lng, hb.lat, hb.most, hb.least, hb.distanceField, hb.spherical, hb.key⟩
  have hsearch : ∀ key, ({ b.search key with query := p } : ProximitySearch).run documents =
      (b.search key).run (documents.filter (holds p)) := by
    intro key
    rw [ProximitySearch.run_eq_found hjudged, ProximityAnchor.run_search_of_plain hquery,
      ProximitySearch.found_filtered (s := b.search key) hquery]
  calc runPipeline documents [(Stage.near { b with query := p }).toDocument] geoKey
      = (config.geoKey.or geoKey).elim (.error (.invalidPipeline .missingGeoKey)) fun key =>
          ({ b.search key with query := p } : ProximitySearch).run documents := runPipeline_near hp geoKey documents
    _ = (config.geoKey.or geoKey).elim (.error (.invalidPipeline .missingGeoKey)) fun key =>
          (b.search key).run (documents.filter (holds p)) := by
        rw [funext hsearch]
    _ = runPipeline (documents.filter (holds p)) [(Stage.near b).toDocument] geoKey :=
        (runPipeline_near hb geoKey (documents.filter (holds p))).symm

variable (hkey : config.geoKey.or geoKey = some key)
include hkey

/-- a search that asks for nothing besides cannot fail -/
theorem runPipeline_plain (documents : List Document) :
    runPipeline documents [(Stage.near b).toDocument] geoKey = .ok ((b.search key).found documents) := by
  rw [runPipeline_near hb, hkey]
  exact ProximityAnchor.run_search_of_plain hquery key documents

/-- with conditions inside, the search finds what the plain one finds among the documents that satisfy them -/
theorem runPipeline_folded (c : Combinator) (fragments : List Document) {documents : List Document}
    (hjudged : ∀ d ∈ documents, ∃ v, satisfies d (c.combine fragments) = .ok v) :
    runPipeline documents [(Stage.near (b.fold c fragments)).toDocument] geoKey =
      .ok ((b.search key).found (documents.filter (holds (c.combine fragments)))) := by
  rw [ProximityAnchor.fold_of_plain hquery, runPipeline_near_filtered hb hquery hjudged,
    runPipeline_plain hb hquery hkey]

end

/-- of two cafes, the one in range is found -/
theorem ProximityAnchor.found_romaAndLuna :
    ((sample []).search "at").found [sampleCafe "1" "Roma" (-74) 43, sampleCafe "2" "Luna" (-74) 50] =
      [Document.insert (sampleCafe "1" "Roma" (-74) 43) "distance" (.float 3)] := by
  have hroma := hit?_sampleCafe [] "1" "Roma" (-74) 43 3 rfl rfl (by decide +kernel)
  have hluna := hit?_sampleCafe [] "2" "Luna" (-74) 50 10 rfl rfl (by decide +kernel)
  have hhits : [sampleCafe "1" "Roma" (-74) 43, sampleCafe "2" "Luna" (-74) 50].filterMap
        ((sample []).search "at").hit? =
      [(3, Document.insert (sampleCafe "1" "Roma" (-74) 43) "distance" (.float 3))] := by
    simp only [List.filterMap_cons, hroma, hluna]
    rfl
  rw [ProximitySearch.found, hhits, List.mergeSort_singleton]
  rfl

/-! ## Combined filters with a search -/

namespace CombinedFilter

variable {c : Combinator} {before after : List SingleFilter} {e : SingleFilter} {config : Config}

/-- one search among elements with predicates takes these into its query, in their order -/
theorem compile_anchored {b : ProximityAnchor} (hothers : Flat ⟨c, before ++ after⟩ config)
    (he : e.compile config = .ok (.anchor b)) :
    CombinedFilter.compile ⟨c, before ++ e :: after⟩ config =
      .ok (.anchored (b.fold c (documents ⟨c, before ++ after⟩ config))) := by
  obtain ⟨hdocument, hanchor⟩ := SingleFilter.parts_of_anchor he
  have hcount := hothers.countP
  have haccepted := List.forall_mem_append.1 hothers.accepted
  have hanchors := hothers.anchors
  simp only [List.countP_append, List.filterMap_append, List.append_eq_nil_iff] at hcount hanchors
  refine compile_eq_ok_iff.2 ⟨?_, ?_, ?_⟩
  · have hone : [e].countP (·.operator.isProximity) ≤ 1 := List.countP_le_length
    rw [← List.singleton_append, List.countP_append, List.countP_append]
    omega
  · exact List.forall_mem_append.2 ⟨haccepted.1, List.forall_mem_cons.2 ⟨⟨_, he⟩, haccepted.2⟩⟩
  · simp [joined, documents, hanchor, hdocument, hanchors]

/-- the elements beside the search are accepted, and none of them is a search -/
theorem flat_of_anchored {filter : CompiledFilter} (hothers : ∀ x ∈ before ++ after, x.operator.isProximity = false)
    (h : CombinedFilter.compile ⟨c, before ++ e :: after⟩ config = .ok filter) : Flat ⟨c, before ++ after⟩ config := by
  obtain ⟨-, haccepted, -⟩ := compile_eq_ok_iff.1 h
  have hless : before ++ after ⊆ before ++ e :: after :=
    ((List.sublist_cons_self e after).append_left before).subset
  exact flat_of_accepted hothers fun x hx => haccepted x (hless hx)

/-- **Folding is filtering first.** A combined filter with one search by distance, wherever it stands, is an anchor. On
documents that the other elements can judge, joined as they are, and with a location field from the settings or the
store, the search with these conditions inside of it finds what the plain search finds among the documents that satisfy
them: the same rows in the same order with the same distances. The anchor is the same wherever the search stands. -/
theorem run_folded {filter : CompiledFilter} (hnear : e.operator.isProximity = true)
    (hothers : ∀ x ∈ before ++ after, x.operator.isProximity = false)
    (h : CombinedFilter.compile ⟨c, before ++ e :: after⟩ config = .ok filter) :
    ∃ a b p, filter = .anchored a ∧ e.compile config = .ok (.anchor b) ∧
      CombinedFilter.compile ⟨c, before ++ after⟩ config = .ok (.predicate p) ∧
      (∀ documents geoKey, (config.geoKey.or geoKey).isSome → (∀ d ∈ documents, ∃ v, satisfies d p = .ok v) →
        ∃ kept rows, selectRows p documents = .ok kept ∧
          runPipeline kept [(Stage.near b).toDocument] geoKey = .ok rows ∧
          runPipeline documents [(Stage.near a).toDocument] geoKey = .ok rows) ∧
      ∀ before' after', before' ++ after' = before ++ after →
        CombinedFilter.compile ⟨c, before' ++ e :: after'⟩ config = .ok (.anchored a) := by
  have hflat := flat_of_anchored hothers h
  obtain ⟨fragment, he⟩ := (compile_eq_ok_iff.1 h).2.1 e (List.mem_append_right _ List.mem_cons_self)
  cases fragment with
  | condition x => simp [(SingleFilter.compile_eq_condition he).1] at hnear
  | anchor b =>
    have hquery := (SingleFilter.compile_eq_anchor he).2
    have hb := SingleFilter.compiled_of_compile he
    refine ⟨_, b, _, Except.ok.inj (h.symm.trans (compile_anchored hflat he)), he, hflat.compile, ?_, ?_⟩
    · intro documents geoKey hkey hjudged
      obtain ⟨key, hkey⟩ := Option.isSome_iff_exists.1 hkey
      exact ⟨_, _, selectRows_eq_filter hjudged, runPipeline_plain hb hquery hkey _,
        runPipeline_folded hb hquery hkey _ _ hjudged⟩
    · intro before' after' hsame
      have hflat' : Flat ⟨c, before' ++ after'⟩ config := by rwa [hsame]
      rw [compile_anchored hflat' he, hsame]

/-- The search stands between the kind and the name. Two cafes have another name than the one that is asked away, and
one of them is in range. -/
theorem run_folded_cafes :
    let kind : SingleFilter := ⟨.path "kind", .equals, .str "cafe"⟩
    let near : SingleFilter := ⟨.coordinates [-74, 40], .near, .num (.float 6)⟩
    let name : SingleFilter := ⟨.path "name", .notEquals, .str "Sol"⟩
    let p : Document :=
      [("$and", .arr [.obj [("kind", .str "cafe")], .obj [("name", .obj [("$ne", .str "Sol")])]])]
    let roma := sampleCafe "1" "Roma" (-74) 43
    let luna := sampleCafe "2" "Luna" (-74) 50
    let documents := [roma, luna, sampleCafe "3" "Sol" (-71) 44]
    let rows := [Document.insert roma "distance" (.float 3)]
    near.operator.isProximity = true ∧ (∀ x ∈ [kind, name], x.operator.isProximity = false) ∧
      CombinedFilter.compile ⟨.and, [kind, near, name]⟩ .straight = .ok (.anchored (.sample p)) ∧
      near.compile .straight = .ok (.anchor (.sample [])) ∧
      CombinedFilter.compile ⟨.and, [kind, name]⟩ .straight = .ok (.predicate p) ∧
      (∀ d ∈ documents, ∃ v, satisfies d p = .ok v) ∧ selectRows p documents = .ok [roma, luna] ∧
      runPipeline [roma, luna] [(Stage.near (.sample [])).toDocument] (some "at") = .ok rows ∧
      runPipeline documents [(Stage.near (.sample p)).toDocument] (some "at") = .ok rows := by
  intro kind near name p roma luna documents rows
  have hnear : near.operator.isProximity = true := rfl
  have hothers : ∀ x ∈ [kind] ++ [name], x.operator.isProximity = false := by decide
  have hcompile : CombinedFilter.compile ⟨.and, [kind] ++ near :: [name]⟩ .straight = .ok (.anchored (.sample p)) := rfl
  have hbare : near.compile .straight = .ok (.anchor (.sample [])) := rfl
  have hpredicate : CombinedFilter.compile ⟨.and, [kind] ++ [name]⟩ .straight = .ok (.predicate p) := rfl
  have hselect : selectRows p documents = .ok [roma, luna] := rfl
  obtain ⟨a, b, q, ha, hb, hq, hrun, -⟩ := run_folded hnear hothers hcompile
  cases ha
  cases hbare.symm.trans hb
  cases hpredicate.symm.trans hq
  have hjudged : ∀ d ∈ documents, ∃ v, satisfies d p = .ok v := by
    intro d hd
    simp only [documents, List.mem_cons, List.not_mem_nil, or_false] at hd
    rcases hd with rfl | rfl | rfl
    · exact ⟨true, rfl⟩
    · exact ⟨true, rfl⟩
    · exact ⟨false, rfl⟩
  obtain ⟨kept, found, hkept, hplain, hfolded⟩ := hrun documents (some "at") rfl hjudged
  cases hselect.symm.trans hkept
  have hrows : runPipeline [roma, luna] [(Stage.near (.sample [])).toDocument] (some "at") = .ok rows := by
    rw [runPipeline_plain (SingleFilter.compiled_of_compile hbare) rfl rfl]
    exact congrArg Except.ok ProximityAnchor.found_romaAndLuna
  cases hrows.symm.trans hplain
  exact ⟨hnear, hothers, hcompile, hbare, hpredicate, hjudged, hselect, hplain, hfolded⟩

end CombinedFilter

end DocumentQuery
