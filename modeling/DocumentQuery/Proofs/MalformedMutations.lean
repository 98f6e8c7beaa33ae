/-
MALFORMED MUTATIONS. A mutation is checked where it is applied, which is at a row that the predicate selects. There it
is refused before it touches anything. An update that selects no row never comes to the check, and one that may insert
a document makes it from whatever it can read of the mutation:

- `applyMutation_of_fault`: applied to a document, a malformed mutation fails and leaves the document alone;
- `updateRows_of_fault`: over rows it fails at the first one that is selected, or does nothing;
- `Store.update_of_fault`: what both kinds of update come to;
- `Store.result_of_malformed`: an update with a malformed mutation has a result exactly if it selects no row and, where
  it may insert, the document to insert can be made.
-/
import DocumentQuery.Proofs.SelectedRows

namespace DocumentQuery

/-! ## Rows -/

section

variable {mutation : Document} {fault : MutationFault}

theorem applyMutation_of_fault (h : mutationFault? mutation = some fault) (d : Document) :
    applyMutation mutation d = (.error (.invalidMutation fault), d) := by
  unfold applyMutation
  rw [h]
  rfl

theorem mutated?_of_fault (h : mutationFault? mutation = some fault) (row : Document) :
    mutated? mutation row = .error (.invalidMutation fault) := by
  have hrun : (applyMutation mutation).run row = (.error (.invalidMutation fault), row) := applyMutation_of_fault h row
  rw [mutated?, hrun]

/-- the first row that is selected is the end of the update; without one, all rows stay -/
theorem updateRows_of_fault (h : mutationFault? mutation = some fault) (predicate : Document) (many : Bool)
    (rows : List Document) :
    updateRows predicate mutation many rows = (firstRow predicate rows).bind fun found =>
      if found.isSome then .error (.invalidMutation fault) else .ok ({}, rows) := by
  induction rows with
  | nil => rfl
  | cons row rest ih =>
    rw [firstRow]
    cases hrow : satisfies row predicate with
    | error e =>
      rw [updateRows_cons_of_error many hrow]
      rfl
    | ok b =>
      cases b with
      | true =>
        rw [updateRows_cons_of_true many hrow, mutated?_of_fault h]
        rfl
      | false =>
        rw [updateRows_cons_of_false many hrow, ih]
        cases hrest : firstRow predicate rest with
        | error e => rfl
        | ok found => cases found <;> rfl

end

/-! ## Calls -/

namespace Store

section

variable {mutation : Document} {fault : MutationFault} (h : mutationFault? mutation = some fault) (s : Store)
  (collection : String) (predicate : Document) (upsert : Bool)
include h

/-- an update of many rows and one of a single row come to the same: the failure of a judgement, the fault of the
mutation, or, where no row is selected, an insertion or nothing -/
theorem update_of_fault (many : Bool) :
    update collection predicate mutation upsert many s =
      match firstRow predicate (s.rows collection) with
      | .error e => (.error e, s.setRows collection (s.rows collection))
      | .ok (some _) => (.error (.invalidMutation fault), s.setRows collection (s.rows collection))
      | .ok none =>
        if upsert then
          match upsertDocument predicate mutation with
          | .error e => (.error e, s.setRows collection (s.rows collection))
          | .ok d => (.ok ⟨0, 1⟩, ((s.setRows collection (s.rows collection)).append collection d).2)
        else (.ok {}, s.setRows collection (s.rows collection)) := by
  unfold update
  rw [updateRows_of_fault h]
  cases firstRow predicate (s.rows collection) with
  | error e => rfl
  | ok found =>
    cases found with
    | some row => rfl
    | none => cases upsert <;> rfl

/-- **Updates with malformed mutations.** Both kinds of update come to the same. If a row is selected, the update is
refused for what is wrong with the mutation. It has a result exactly if every row is judged and none is selected and,
where it may insert, the document to insert can be made; then it reports nothing done, or that document inserted. All
rows stay but for this insertion. -/
theorem result_of_malformed :
    ∃ result s', DocumentStore.updateOne collection predicate mutation upsert s = (result, s') ∧
      DocumentStore.updateMany collection predicate mutation upsert s = (result, s') ∧
      (∀ row, firstRow predicate (s.rows collection) = .ok (some row) → result = .error (.invalidMutation fault)) ∧
      (∀ o, result = .ok o ↔ (∀ row ∈ s.rows collection, satisfies row predicate = .ok false) ∧
        (upsert = false ∧ o = {} ∨ upsert = true ∧ o = ⟨0, 1⟩ ∧ ∃ d, upsertDocument predicate mutation = .ok d)) ∧
      (∀ d, result = .ok ⟨0, 1⟩ → upsertDocument predicate mutation = .ok d →
        s.Replaced collection (s.rows collection ++ [(s.identify d).1]) s') ∧
      (result ≠ .ok ⟨0, 1⟩ → ∀ c, s'.rows c = s.rows c) := by
  have hone := update_of_fault h s collection predicate upsert false
  have hmany := update_of_fault h s collection predicate upsert true
  have hkept := (touched_setRows s collection).rows
  rw [← firstRow_eq_none_iff]
  cases hfirst : firstRow predicate (s.rows collection) with
  | error e =>
    rw [hfirst] at hone hmany
    exact ⟨_, _, hone, hmany, by simp, by simp, by simp, fun _ => hkept⟩
  | ok found =>
    rw [hfirst] at hone hmany
    cases found with
    | some row => exact ⟨_, _, hone, hmany, by simp, by simp, by simp, fun _ => hkept⟩
    | none =>
      cases upsert with
      | false =>
        refine ⟨_, _, hone, hmany, by simp, ?_, by simp, fun _ => hkept⟩
        intro o
        simp [eq_comm]
      | true =>
        cases hd : upsertDocument predicate mutation with
        | error e =>
          simp only [hd, if_true] at hone hmany
          exact ⟨_, _, hone, hmany, by simp, by simp, by simp, fun _ => hkept⟩
        | ok d =>
          simp only [hd, if_true] at hone hmany
          refine ⟨_, _, hone, hmany, by simp, ?_, ?_, by simp⟩
          · intro o
            simp [eq_comm]
          · intro d' _ hd'
            cases hd'
            exact replaced_append_kept s collection d

end

/-- a renaming to a number is refused at the first thing of size 1 -/
theorem result_of_malformed_rename :
    let mutation : Document := [("$rename", .obj [("size", .nat 5)])]
    mutationFault? mutation = some (.renameTarget "size") ∧ ∃ s',
      DocumentStore.updateMany "things" [("size", .nat 1)] mutation true threeThings =
          (.error (.invalidMutation (.renameTarget "size")), s') ∧
        ∀ c, s'.rows c = threeThings.rows c := by
  intro mutation
  have hfault : mutationFault? mutation = some (.renameTarget "size") := by rfl
  have hfirst : firstRow [("size", .nat 1)] (threeThings.rows "things") =
      .ok (some [("_id", .str "1"), ("size", .nat 1)]) := by
    rfl
  obtain ⟨result, s', -, hmany, hrefused, -, -, hkept⟩ :=
    result_of_malformed hfault threeThings "things" [("size", .nat 1)] true
  have hresult := hrefused _ hfirst
  rw [hresult] at hmany hkept
  exact ⟨hfault, s', hmany, hkept (by simp)⟩

/-- where there is no thing yet, a mutation with an unknown operator inserts one -/
theorem malformed_inserts :
    let mutation : Document := [("$foo", .obj [])]
    mutationFault? mutation = some (.unknownOperator "$foo") ∧ ∃ s',
      DocumentStore.updateMany "things" [] mutation true (empty toString) = (.ok ⟨0, 1⟩, s') ∧
        s'.rows "things" = [[("_id", .str "0")]] :=
  ⟨rfl, _, rfl, rfl⟩

end Store

end DocumentQuery
