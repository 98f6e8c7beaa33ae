/-
SELECTED DOCUMENTS, without the failures on the way. `holds` is the verdict on a document as far as there is one, and
`found` lists what a search by distance finds if every document it judges has a verdict.

- `selectRows_cases`, `run_cases`: a selection gives exactly these documents, or the failure of judging one of them;
- `ordered_found`: keys of the documents found increase if those of all documents do.
-/
import DocumentQuery.Evaluation.Run
import DocumentQuery.Proofs.Fields
import DocumentQuery.Proofs.Outcome

namespace DocumentQuery

/-- whether a document satisfies a predicate; one that cannot be judged does not -/
def holds (predicate d : Document) : Bool :=
  match satisfies d predicate with
  | .ok b => b
  | .error _ => false

theorem holds_of_ok {predicate d : Document} {b : Bool} (h : satisfies d predicate = .ok b) :
    holds predicate d = b := by
  simp [holds, h]

@[simp] theorem holds_nil (d : Document) : holds [] d = true := rfl

/-! ## Selection by a predicate -/

/-- **Selection.** The documents that satisfy the predicate, or the failure of judging one of them. -/
theorem selectRows_cases (predicate : Document) (documents : List Document) :
    selectRows predicate documents = .ok (documents.filter (holds predicate)) ∨
      ∃ d ∈ documents, ∃ e, selectRows predicate documents = .error e ∧ satisfies d predicate = .error e := by
  induction documents with
  | nil => exact Or.inl rfl
  | cons d rest ih =>
    cases hd : satisfies d predicate with
    | error e => exact Or.inr ⟨d, List.mem_cons_self, e, by simp [selectRows, hd], hd⟩
    | ok b =>
      rcases ih with ih | ⟨c, hc, e, he, hf⟩
      · left
        cases b <;> simp [selectRows, hd, ih, holds_of_ok hd]
      · exact Or.inr ⟨c, List.mem_cons_of_mem _ hc, e, by simp [selectRows, hd, he], hf⟩

theorem selectRows_eq_filter {predicate : Document} {documents : List Document}
    (h : ∀ d ∈ documents, ∃ b, satisfies d predicate = .ok b) :
    selectRows predicate documents = .ok (documents.filter (holds predicate)) := by
  rcases selectRows_cases predicate documents with hrun | ⟨d, hd, e, -, he⟩
  · exact hrun
  · obtain ⟨b, hb⟩ := h d hd
    rw [hb] at he
    cases he

theorem eq_filter_of_selectRows {predicate : Document} {documents rows : List Document}
    (h : selectRows predicate documents = .ok rows) : rows = documents.filter (holds predicate) := by
  rcases selectRows_cases predicate documents with hrun | ⟨d, -, e, hrun, -⟩
  · exact Except.ok.inj (h.symm.trans hrun)
  · rw [hrun] at h
    cases h

theorem selectRows_congr {p q : Document} {documents : List Document}
    (h : ∀ d ∈ documents, satisfies d q = satisfies d p) : selectRows q documents = selectRows p documents := by
  induction documents with
  | nil => rfl
  | cons d rest ih =>
    obtain ⟨hd, hrest⟩ := List.forall_mem_cons.1 h
    rw [selectRows, selectRows, hd, ih hrest]

/-! ## Search by distance -/

namespace ProximitySearch

/-- a document with its distance, if it has a location within range and the embedded query holds -/
def hit? (s : ProximitySearch) (d : Document) : Option (Float × Document) :=
  (s.location? d).bind fun p =>
    if s.inRange (s.distance p) && holds s.query d then
      some (s.distance p, Document.insert d s.distanceField (.float (s.distance p)))
    else none

/-- a document with a location, at the distance of it -/
theorem hit?_of_location {s : ProximitySearch} {d : Document} {p : Point} {x : Float} (hp : s.location? d = some p)
    (hx : s.distance p = x) :
    s.hit? d =
      if s.inRange x && holds s.query d then some (x, Document.insert d s.distanceField (.float x)) else none := by
  rw [hit?, hp, ← hx]
  rfl

/-- the documents that a search finds, nearest first -/
def found (s : ProximitySearch) (documents : List Document) : List Document :=
  ((documents.filterMap s.hit?).mergeSort fun a b => distanceRank a.1 ≤ distanceRank b.1).map (·.2)

/-- a search that asks for a predicate besides finds what the plain search finds among the documents that satisfy it -/
theorem found_filtered {s : ProximitySearch} (hquery : s.query = []) (predicate : Document)
    (documents : List Document) :
    ({ s with query := predicate } : ProximitySearch).found documents =
      s.found (documents.filter (holds predicate)) := by
  have hhit : ∀ d, ({ s with query := predicate } : ProximitySearch).hit? d =
      if holds predicate d then s.hit? d else none := by
    intro d
    cases hp : holds predicate d with
    | true =>
      simp only [hit?, hp, hquery, holds_nil]
      rfl
    | false => simp [hit?, hp]
  simp only [found, List.filterMap_filter, ← hhit]

theorem length_found_le (s : ProximitySearch) (documents : List Document) :
    (s.found documents).length ≤ documents.length := by
  rw [found, List.length_map, List.length_mergeSort]
  exact List.length_filterMap_le s.hit? documents

/-- a document cannot be visited only if it cannot be judged -/
theorem visit?_eq_error {s : ProximitySearch} {d : Document} {e : StoreError} (h : s.visit? d = .error e) :
    satisfies d s.query = .error e := by
  unfold visit? at h
  split at h
  · simp at h
  · dsimp only at h
    split at h
    · rcases Outcome.bind_eq_error.1 h with h | ⟨b, -, h⟩
      · exact h
      · simp at h
    · simp at h

/-- a visit that succeeds gives the hit -/
theorem hit?_of_visit? {s : ProximitySearch} {d : Document} {hit : Option (Float × Document)}
    (h : s.visit? d = .ok hit) : s.hit? d = hit := by
  unfold visit? at h
  split at h
  · next hl =>
    cases h
    simp [hit?, hl]
  · next p hl =>
    dsimp only at h
    split at h
    · next hr =>
      obtain ⟨b, hb, h⟩ := Outcome.bind_eq_ok.1 h
      cases h
      simp [hit?, hl, hr, holds_of_ok hb]
    · next hr =>
      cases h
      simp [hit?, hl, hr]

/-- a hit is the document with its distance written into it -/
theorem hit?_eq_some {s : ProximitySearch} {d e : Document} {x : Float} (h : s.hit? d = some (x, e)) :
    e = Document.insert d s.distanceField (.float x) := by
  obtain ⟨p, -, h⟩ := Option.bind_eq_some_iff.1 h
  split at h
  · cases h
    rfl
  · simp at h

/-- **Search.** The documents that the search finds, nearest first, or the failure of judging one of them. -/
theorem run_cases (s : ProximitySearch) (documents : List Document) :
    s.run documents = .ok (s.found documents) ∨
      ∃ d ∈ documents, ∃ e, s.run documents = .error e ∧ satisfies d s.query = .error e := by
  have hg : ∀ d hit, s.visit? d = .ok hit → s.hit? d = hit := fun _ _ => hit?_of_visit?
  rcases Outcome.mapM_cases hg documents with h | ⟨d, hd, e, he, hf⟩
  · left
    simp [run, found, h, List.filterMap_map]
  · exact Or.inr ⟨d, hd, e, by simp [run, he], visit?_eq_error hf⟩

theorem eq_found_of_run {s : ProximitySearch} {documents rows : List Document} (h : s.run documents = .ok rows) :
    rows = s.found documents := by
  rcases s.run_cases documents with hrun | ⟨d, -, e, hrun, -⟩
  · exact Except.ok.inj (h.symm.trans hrun)
  · rw [hrun] at h
    cases h

theorem run_eq_found {s : ProximitySearch} {documents : List Document}
    (h : ∀ d ∈ documents, ∃ b, satisfies d s.query = .ok b) : s.run documents = .ok (s.found documents) := by
  rcases s.run_cases documents with hrun | ⟨d, hd, e, -, he⟩
  · exact hrun
  · obtain ⟨b, hb⟩ := h d hd
    rw [hb] at he
    cases he

end ProximitySearch

/-! ## Order of keys -/

theorem ordered_float (x : Float) : (Json.float x).Ordered := by
  unfold Json.float
  split <;> trivial

theorem ProximitySearch.ordered_found {s : ProximitySearch} {documents : List Document}
    (h : ∀ d ∈ documents, (Json.obj d).Ordered) : ∀ d ∈ s.found documents, (Json.obj d).Ordered := by
  intro e he
  obtain ⟨⟨x, e'⟩, hmem, rfl⟩ := List.mem_map.1 he
  obtain ⟨d, hd, hhit⟩ := List.mem_filterMap.1 (List.mem_mergeSort.1 hmem)
  rw [hit?_eq_some hhit]
  exact (h d hd).insert (ordered_float x) _

end DocumentQuery
