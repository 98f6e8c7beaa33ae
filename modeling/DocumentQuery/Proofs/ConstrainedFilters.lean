/-
CONSTRAINED FILTERS. A pipeline that needs one more condition than its request has puts it into the filter: beside the
predicate, or into the query of an anchor. Either way the filter then selects among the documents that meet the
condition.

- `satisfies_conjoin`: two predicates joined, the second one judged where the first one holds;
- `CompiledFilter.satisfies_query_constrain`: so a constraint is judged where the filter holds;
- `CompiledFilter.selected_constrain`: what a constrained filter selects;
- `CompiledFilter.eq_selected_of_run`: a filter stage that runs has selected, and its anchor had a location field.
-/
import DocumentQuery.Proofs.Combination
import DocumentQuery.Proofs.Rendering

namespace DocumentQuery

/-! ## Joined predicates -/

/-- both predicates; the second one is judged where the first one holds -/
theorem satisfies_conjoin (p q d : Document) :
    satisfies d (conjoin p q) = satisfies d p >>= fun ok => if ok = true then satisfies d q else .ok false := by
  unfold conjoin
  split
  · next hp =>
    rw [List.isEmpty_iff.1 hp, satisfies]
    rfl
  · split
    · next hq =>
      rw [List.isEmpty_iff.1 hq, satisfies]
      cases satisfies d p with
      | error e => rfl
      | ok b => cases b <;> rfl
    · rw [satisfies_combine d .and (List.cons_ne_nil p [q])]
      show satisfiesEvery d [.obj p, .obj q] = _
      rw [satisfiesEvery, satisfiesEvery, satisfiesEvery, satisfiesBranch, satisfiesBranch]
      cases satisfies d p with
      | error e => rfl
      | ok b =>
        cases b with
        | false => rfl
        | true =>
          cases satisfies d q with
          | error e => rfl
          | ok b => cases b <;> rfl

theorem holds_conjoin (p q d : Document) : holds (conjoin p q) d = (holds p d && holds q d) := by
  unfold holds
  rw [satisfies_conjoin]
  cases satisfies d p with
  | error e => rfl
  | ok b => cases b <;> rfl

/-- one more constraint is judged where the filter holds -/
theorem CompiledFilter.satisfies_query_constrain (f : CompiledFilter) (p d : Document) :
    satisfies d (f.constrain p).query =
      satisfies d f.query >>= fun ok => if ok = true then satisfies d p else .ok false := by
  unfold constrain
  split
  · next hp =>
    rw [List.isEmpty_iff.1 hp, satisfies]
    cases satisfies d f.query with
    | error e => rfl
    | ok b => cases b <;> rfl
  · cases f with
    | unconstrained =>
      show satisfies d p = satisfies d [] >>= _
      rw [satisfies]
      rfl
    | predicate q => exact satisfies_conjoin q p d
    | anchored a => exact satisfies_conjoin a.query p d

/-! ## What a constrained filter selects -/

/-- a search with one more condition finds what it finds without among the documents that meet the condition -/
theorem ProximitySearch.found_conjoin (s : ProximitySearch) (p : Document) (documents : List Document) :
    ({ s with query := conjoin s.query p } : ProximitySearch).found documents =
      s.found (documents.filter (holds p)) := by
  have hhit : ∀ d, ({ s with query := conjoin s.query p } : ProximitySearch).hit? d =
      if holds p d then s.hit? d else none := by
    intro d
    cases hp : holds p d with
    | true =>
      simp only [hit?, holds_conjoin, hp, Bool.and_true]
      rfl
    | false => simp [hit?, holds_conjoin, hp]
  simp only [found, List.filterMap_filter, ← hhit]

namespace CompiledFilter

theorem selected_constrain (f : CompiledFilter) (p : Document) (geoKey : Option String) (documents : List Document) :
    (f.constrain p).selected geoKey documents = f.selected geoKey (documents.filter (holds p)) := by
  unfold constrain
  split
  · next hp =>
    have hall : documents.filter (holds p) = documents := by
      rw [List.isEmpty_iff.1 hp]
      exact List.filter_eq_self.2 fun _ _ => rfl
    rw [hall]
  · cases f with
    | unconstrained => rfl
    | predicate r =>
      have hboth : holds (conjoin r p) = fun d => holds r d && holds p d := funext (holds_conjoin r p)
      simp only [selected, hboth, List.filter_filter]
    | anchored a =>
      have hsearch : ∀ key, ((a.constrain p).search key).found documents =
          (a.search key).found (documents.filter (holds p)) :=
        fun key => (a.search key).found_conjoin p documents
      exact congrArg ((a.key.or geoKey).elim []) (funext hsearch)

/-- a selected document is one of the given ones, as it was or with its distance written into it -/
theorem exists_of_mem_selected {f : CompiledFilter} {geoKey : Option String} {documents : List Document} {e : Document}
    (h : e ∈ f.selected geoKey documents) :
    ∃ d ∈ documents, e = d ∨ ∃ field x, e = Document.insert d field (.float x) := by
  cases f with
  | unconstrained => exact ⟨e, h, Or.inl rfl⟩
  | predicate p => exact ⟨e, (List.mem_filter.1 h).1, Or.inl rfl⟩
  | anchored a =>
    cases hkey : a.key.or geoKey with
    | none => simp [selected, hkey] at h
    | some key =>
      rw [selected, hkey] at h
      obtain ⟨⟨x, e⟩, hmem, rfl⟩ := List.mem_map.1 h
      obtain ⟨d, hd, hhit⟩ := List.mem_filterMap.1 (List.mem_mergeSort.1 hmem)
      exact ⟨d, hd, Or.inr ⟨_, x, ProximitySearch.hit?_eq_some hhit⟩⟩

end CompiledFilter

/-! ## Filter stages that run -/

namespace CompiledFilter

/-- a filter whose anchor, if there is one, comes from the settings -/
def Compiled (f : CompiledFilter) (config : Config) : Prop := ∀ a, f = .anchored a → a.Compiled config

theorem Compiled.constrain {f : CompiledFilter} {config : Config} (h : f.Compiled config) (p : Document) :
    (f.constrain p).Compiled config := by
  intro a ha
  unfold CompiledFilter.constrain at ha
  split at ha
  · exact h a ha
  · cases f with
    | unconstrained => cases ha
    | predicate r => cases ha
    | anchored b =>
      cases ha
      exact (h b rfl).constrain p

theorem eq_selected_of_run {f : CompiledFilter} {config : Config} (hf : f.Compiled config) {geoKey : Option String}
    {documents rows : List Document}
    (h : runFrom geoKey 0 (Pipeline.toDocuments f.stage?.toList) documents = .ok rows) :
    rows = f.selected geoKey documents := by
  have hlocated : f.Located config geoKey := by
    rintro a rfl
    refine ⟨hf a rfl, ?_⟩
    cases hkey : a.key.or geoKey with
    | some key => rfl
    | none =>
      have hrun : runFrom geoKey 0 (Pipeline.toDocuments (anchored a).stage?.toList) documents =
          .error (.invalidPipeline .missingGeoKey) := by
        refine (runFrom_single (.near a) documents).trans ?_
        rw [run_near (hf a rfl), hkey]
        rfl
      rw [hrun] at h
      cases h
  rcases f.run_filter hlocated documents with hrun | ⟨d, -, e, hrun, -⟩
  · exact Except.ok.inj (h.symm.trans hrun)
  · rw [hrun] at h
    cases h

end CompiledFilter

end DocumentQuery
