/-
STEPS OF MUTATIONS. What each loop of a mutation does with its first item when it succeeds, and what is left to do
behind it. Properties of whole mutations are proved by induction from these, so that the loops are opened here only:

- `setFields_cons_iff`, `unsetFields_cons_iff`, `renameFields_cons_cases`: the fields of one operator;
- `applyOperator_cases`: what one operator can do;
- `applyOperators_cons_iff`, `applyOperators_of_applyMutation`: the operators of a mutation.
-/
import DocumentQuery.Evaluation.Mutation
import DocumentQuery.Proofs.Outcome
import DocumentQuery.Proofs.Removal

namespace DocumentQuery

section

variable {path : String} {value : Json} {rest : List (String × Json)} {d e : Document} {changed : Bool}

theorem setFields_cons_iff : setFields ((path, value) :: rest) d = (.ok changed, e) ↔
    ∃ previous next more, Document.setPath d path value = (.ok previous, next) ∧
      setFields rest next = (.ok more, e) ∧ changed = (!previous.any (·.same value) || more) := by
  constructor
  · intro h
    obtain ⟨previous, next, hset, h⟩ := Outcome.run_bind_eq_ok h
    obtain ⟨more, last, hmore, h⟩ := Outcome.run_bind_eq_ok h
    cases h
    exact ⟨previous, next, more, hset, hmore, rfl⟩
  · rintro ⟨previous, next, more, hset, hmore, rfl⟩
    have hfirst : setPath path value d = (.ok previous, next) := hset
    exact (Outcome.run_bind_of_ok hfirst).trans (Outcome.run_bind_of_ok hmore)

theorem unsetFields_cons_iff : unsetFields ((path, value) :: rest) d = (.ok changed, e) ↔
    ∃ more, unsetFields rest (Document.removePath d path).2 = (.ok more, e) ∧
      changed = ((Document.removePath d path).1.isSome || more) := by
  constructor
  · intro h
    obtain ⟨previous, next, hremove, h⟩ := Outcome.run_bind_eq_ok h
    obtain ⟨more, last, hmore, h⟩ := Outcome.run_bind_eq_ok h
    cases h
    cases hremove
    exact ⟨more, hmore, rfl⟩
  · rintro ⟨more, hmore, rfl⟩
    have hfirst : removePath path d = (.ok (Document.removePath d path).1, (Document.removePath d path).2) := rfl
    exact (Outcome.run_bind_of_ok hfirst).trans (Outcome.run_bind_of_ok hmore)

/-- a renaming moves what is at its source; or it finds nothing there; or it has no target, and is passed over -/
theorem renameFields_cons_cases (h : renameFields ((path, value) :: rest) d = (.ok changed, e)) :
    (∃ target found next previous moved more, value = .str target ∧ Document.removePath d path = (some found, next) ∧
        Document.setPath next target found = (.ok previous, moved) ∧ renameFields rest moved = (.ok more, e) ∧
        changed = true) ∨
    (∃ target, value = .str target ∧ Document.removePath d path = (none, d) ∧
        renameFields rest d = (.ok changed, e)) ∨
    (value.isStr = false ∧ renameFields rest d = (.ok changed, e)) := by
  cases value with
  | str target =>
    obtain ⟨result, next, hremove, hrest⟩ := Outcome.run_bind_eq_ok h
    have hresult : Document.removePath d path = (result, next) := by
      cases hremove
      rfl
    cases result with
    | none =>
      have hnone : (Document.removePath d path).1 = none := congrArg Prod.fst hresult
      have hnext : next = d := (congrArg Prod.snd hresult).symm.trans (Document.dropAt_of_removeAt_none hnone)
      subst hnext
      exact Or.inr (Or.inl ⟨target, rfl, hresult, hrest⟩)
    | some found =>
      obtain ⟨previous, moved, hset, hrest⟩ := Outcome.run_bind_eq_ok hrest
      obtain ⟨more, last, hmore, hrest⟩ := Outcome.run_bind_eq_ok hrest
      cases hrest
      exact Or.inl ⟨target, found, next, previous, moved, more, rfl, hresult, hset, hmore, rfl⟩
  | _ => exact Or.inr (Or.inr ⟨rfl, h⟩)

/-- what one operator does: it sets, unsets or renames its fields; or it has none, and does nothing -/
theorem applyOperator_cases {field : String × Json} (h : applyOperator field d = (.ok changed, e)) :
    (∃ fields, MutationOperator.ofKey? field.1 = some .set ∧ field.2 = .obj fields ∧
        setFields fields d = (.ok changed, e)) ∨
    (∃ fields, MutationOperator.ofKey? field.1 = some .unset ∧ field.2 = .obj fields ∧
        unsetFields fields d = (.ok changed, e)) ∨
    (∃ fields, MutationOperator.ofKey? field.1 = some .rename ∧ field.2 = .obj fields ∧
        renameFields fields d = (.ok changed, e)) ∨
    ((MutationOperator.ofKey? field.1 = none ∨ field.2.isObj = false) ∧ changed = false ∧ e = d) := by
  obtain ⟨operator, operand⟩ := field
  unfold applyOperator at h
  dsimp only at h ⊢
  cases hop : MutationOperator.ofKey? operator with
  | none =>
    rw [hop] at h
    cases h
    exact Or.inr (Or.inr (Or.inr ⟨Or.inl rfl, rfl, rfl⟩))
  | some op =>
    rw [hop] at h
    cases operand with
    | obj fields =>
      cases op with
      | set => exact Or.inl ⟨fields, rfl, rfl, h⟩
      | unset => exact Or.inr (Or.inl ⟨fields, rfl, rfl, h⟩)
      | rename => exact Or.inr (Or.inr (Or.inl ⟨fields, rfl, rfl, h⟩))
    | _ =>
      have hnone : changed = false ∧ e = d := by
        cases op <;>
        · cases h
          exact ⟨rfl, rfl⟩
      exact Or.inr (Or.inr (Or.inr ⟨Or.inr rfl, hnone⟩))

theorem applyOperators_cons_iff {field : String × Json} : applyOperators (field :: rest) d = (.ok changed, e) ↔
    ∃ first next more, applyOperator field d = (.ok first, next) ∧ applyOperators rest next = (.ok more, e) ∧
      changed = (first || more) := by
  constructor
  · intro h
    obtain ⟨first, next, hfirst, h⟩ := Outcome.run_bind_eq_ok h
    obtain ⟨more, last, hmore, h⟩ := Outcome.run_bind_eq_ok h
    cases h
    exact ⟨first, next, more, hfirst, hmore, rfl⟩
  · rintro ⟨first, next, more, hfirst, hmore, rfl⟩
    exact (Outcome.run_bind_of_ok hfirst).trans (Outcome.run_bind_of_ok hmore)

/-- a mutation that succeeds was well-formed, so its operators were applied -/
theorem applyOperators_of_applyMutation {mutation : Document} (h : applyMutation mutation d = (.ok changed, e)) :
    applyOperators mutation d = (.ok changed, e) := by
  unfold applyMutation at h
  cases hfault : mutationFault? mutation with
  | some fault =>
    rw [hfault] at h
    cases h
  | none =>
    rw [hfault] at h
    exact h

end

end DocumentQuery
