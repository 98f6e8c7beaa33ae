/-
THE FIRST ANSWER. A query for one document has a pipeline of its own, which keeps one row whatever the page of the
request keeps. What it gives is what comes first in the answer to the whole request, and it fails where that one fails.

- `Window.head?_cut_one`: a window shows the same first row, however many rows it keeps;
- `Pipeline.head_of_run`: an assembled pipeline gives the same first row, and the same failure, for one row as for all;
- `Resource.getOne_eq_first`: so does the query, with every failure of the request and of the store.
-/
import DocumentQuery.Proofs.Rendering
import DocumentQuery.Proofs.ResourceCalls
import DocumentQuery.Resource.Query

namespace DocumentQuery

/-! ## First rows -/

/-- the window that starts where another one does and keeps one row -/
def Window.one (w : Window) : Window := ⟨w.skip, some 1⟩

theorem head?_take_of_pos {α : Type} {n : Nat} (h : 0 < n) (l : List α) : (l.take n).head? = l.head? := by
  cases l with
  | nil => rw [List.take_nil]
  | cons a l =>
    obtain ⟨m, rfl⟩ := Nat.exists_eq_succ_of_ne_zero h.ne'
    rfl

/-- a limit is absent or keeps a row at least, so it does not touch the first one -/
theorem Window.head?_cut_one (w : Window) (rows : List Document) :
    (w.one.positive.cut rows).head? = (w.positive.cut rows).head? := by
  have hone : w.one.positive = ⟨PageSpec.positive? w.skip, some 1⟩ := rfl
  have hlimit : w.positive = ⟨PageSpec.positive? w.skip, PageSpec.positive? w.limit⟩ := rfl
  rw [hone, hlimit]
  cases hw : PageSpec.positive? w.limit with
  | none => exact head?_take_of_pos Nat.one_pos _
  | some n =>
    have hn : 0 < n.toNat := UInt64.lt_iff_toNat_lt.1 (PageSpec.pos_of_positive? hw)
    exact (head?_take_of_pos Nat.one_pos _).trans (head?_take_of_pos hn _).symm

/-- for one row as for all: the same first row, or the same failure -/
theorem Pipeline.head_of_run (f : CompiledFilter) (sort : Option SortSpec) (w : Window) (exclude : List String)
    (documents : List Document) (geoKey : Option String) :
    (runPipeline documents (assemble f sort w.one exclude).toDocuments geoKey).map List.head? =
      (runPipeline documents (assemble f sort w exclude).toDocuments geoKey).map List.head? := by
  rw [runPipeline_assemble, runPipeline_assemble]
  cases runFrom geoKey 0 (toDocuments f.stage?.toList) documents with
  | error e => rfl
  | ok rows =>
    simp only [Except.map, List.head?_map, w.head?_cut_one]

/-! ## Queries for one document -/

namespace Resource

/-- a request has both pipelines or neither; they differ in the limit -/
theorem onePipeline_cases (config : Config) (params : QueryParams) :
    (∃ e, params.pipeline config = .error e ∧ onePipeline config params = .error e) ∨
      ∃ f sort w, params.pipeline config = .ok (Pipeline.assemble f sort w config.excludeFields) ∧
        onePipeline config params = .ok (Pipeline.assemble f sort w.one config.excludeFields) := by
  unfold QueryParams.pipeline onePipeline
  cases params.interpret with
  | error e => exact Or.inl ⟨e, rfl, rfl⟩
  | ok i =>
    cases params.filter config with
    | error e => exact Or.inl ⟨e, rfl, rfl⟩
    | ok f => exact Or.inr ⟨f, i.sort, i.window, rfl, rfl⟩

/-- what one document comes to, from all rows of an answer or its failure -/
def firstOf (r : Resource) : Except StoreError (List Document) → Except Failure Document
  | .error e => .error (.ofStore e)
  | .ok [] => .error (.notFound r.name none)
  | .ok (d :: _) => .ok d

theorem firstOf_congr (r : Resource) {answer answer' : Except StoreError (List Document)}
    (h : answer.map List.head? = answer'.map List.head?) : r.firstOf answer = r.firstOf answer' := by
  rcases answer with e | _ | ⟨d, rows⟩ <;> rcases answer' with e' | _ | ⟨d', rows'⟩ <;> cases h <;> rfl

/-- a query whose pipeline was accepted reads the store once and takes the first row -/
theorem getOne_of_pipeline {config : Config} {params : QueryParams} {pipeline : Pipeline}
    (h : onePipeline config params = .ok pipeline) (r : Resource) (s : Store) :
    r.getOne config params s =
      (r.firstOf (runPipeline (s.rows r.collection) pipeline.toDocuments (s.geoField? r.collection)), s) := by
  have hcall := Operation.call_aggregate s r.collection pipeline.toDocuments
  unfold getOne
  rw [Outcome.run_bind_of_ok (Operation.judge_of_ok h s)]
  cases hrun : runPipeline (s.rows r.collection) pipeline.toDocuments (s.geoField? r.collection) with
  | error e =>
    rw [hrun] at hcall
    exact Outcome.run_bind_of_error hcall
  | ok rows =>
    rw [hrun] at hcall
    rw [Outcome.run_bind_of_ok hcall]
    cases rows <;> rfl

/-- **One is the first of all.** A query for one document gives the first row of the answer to the whole request, and
fails as that one does: with the error of the request, with the failure of the store, or because there is no row. The
store stays as it is. -/
theorem getOne_eq_first (r : Resource) (config : Config) (params : QueryParams) (s : Store) :
    r.getOne config params s =
      (match params.pipeline config with
        | .error e => .error (.invalidFilter e)
        | .ok pipeline => r.firstOf (DocumentStore.aggregate r.collection pipeline.toDocuments s).1, s) := by
  rcases onePipeline_cases config params with ⟨e, hall, hone⟩ | ⟨f, sort, w, hall, hone⟩
  · rw [hall]
    exact Outcome.run_bind_of_error (Operation.judge_of_error hone s)
  · rw [getOne_of_pipeline hone, hall]
    have hfirst := Pipeline.head_of_run f sort w config.excludeFields (s.rows r.collection) (s.geoField? r.collection)
    rw [firstOf_congr r hfirst]
    rfl

end Resource

end DocumentQuery
