/-
UPDATES THAT ARE READ BACK. An update of one document changes the first row with its key, and then looks for the row to
answer with among all rows, by the key that the changes give. It answers with the row that it changed if this row is
the first with the new key, and otherwise with another row that has this key.

- `updatesFirst_of_updateRows`: the row that an update of one document changes;
- `found_of_firstRow`: where a look for a row comes to a given place, and where it does not;
- `Resource.isFirst_of_text`: changes that leave the key alone, or set it to a text that no row before has, are read
  back from the row that they changed;
- `Resource.answer_of_update`: what an update answers with.
-/
import DocumentQuery.Proofs.ResourceCalls
import DocumentQuery.Proofs.SelectedRows

namespace DocumentQuery

/-- the row behind the given ones is the first that a predicate selects -/
def IsFirst (predicate : Document) (before : List Document) (row : Document) : Prop :=
  (∀ b ∈ before, satisfies b predicate = .ok false) ∧ satisfies row predicate = .ok true

/-! ## The row that is changed -/

/-- a mutation changes the first row that a predicate selects -/
structure UpdatesFirst (predicate mutation : Document) (before : List Document) (row updated : Document) : Prop where
  isFirst : IsFirst predicate before row
  applies : ∃ changed after, applyMutation mutation row = (.ok changed, after)
  /-- it stays as it was when no change is reported -/
  result : updated = changedRow mutation row

theorem applies_of_mutated? {mutation row : Document} {change : Option Document}
    (h : mutated? mutation row = .ok change) : ∃ changed after, applyMutation mutation row = (.ok changed, after) := by
  cases change with
  | some after => exact ⟨true, after, applyMutation_of_mutated? h⟩
  | none => exact ⟨false, applyMutation_of_mutated?_none h⟩

theorem getD_of_mutated? {mutation row : Document} {change : Option Document} (h : mutated? mutation row = .ok change) :
    change.getD row = changedRow mutation row := by
  obtain ⟨change', hchange', -, hrow⟩ := mutated?_of_applies (applies_of_mutated? h)
  rw [h] at hchange'
  cases hchange'
  exact hrow

/-- an update of one row that matched something changed the first row that is selected, in its place -/
theorem updatesFirst_of_updateRows {predicate mutation : Document} {rows after : List Document} {o : UpdateOutcome}
    (h : updateRows predicate mutation false rows = .ok (o, after)) (hsome : o.matched ≠ 0) :
    ∃ before row updated behind, rows = before ++ row :: behind ∧
      UpdatesFirst predicate mutation before row updated ∧ after = before ++ updated :: behind := by
  induction rows generalizing after with
  | nil =>
    cases h
    exact absurd rfl hsome
  | cons first rest ih =>
    rcases updateRows_cons_eq_ok h with
      ⟨hfirst, below, hbelow, rfl⟩ | ⟨hfirst, change, o', below, hchange, hbelow, -, rfl⟩
    · obtain ⟨before, row, updated, behind, rfl, hupdates, rfl⟩ := ih hbelow
      obtain ⟨hpassed, hrow⟩ := hupdates.isFirst
      have hisFirst : IsFirst predicate (first :: before) row := ⟨List.forall_mem_cons.2 ⟨hfirst, hpassed⟩, hrow⟩
      exact ⟨first :: before, row, updated, behind, rfl, { hupdates with isFirst := hisFirst }, rfl⟩
    · cases hbelow
      have hisFirst : IsFirst predicate [] first := ⟨by simp, hfirst⟩
      rw [getD_of_mutated? hchange]
      exact ⟨[], first, changedRow mutation first, rest, rfl, ⟨hisFirst, applies_of_mutated? hchange, rfl⟩, rfl⟩

/-! ## The row that is found -/

/-- a look for a row finds the one at a given place if it is the first that is selected, and otherwise one at another
place -/
theorem found_of_firstRow {predicate found row : Document} {before behind : List Document}
    (h : firstRow predicate (before ++ row :: behind) = .ok (some found)) :
    (IsFirst predicate before row → found = row) ∧ (¬IsFirst predicate before row → found ∈ before ++ behind) := by
  constructor
  · rintro ⟨hbefore, hrow⟩
    have hfirst : firstRow predicate (before ++ row :: behind) = .ok (some row) :=
      firstRow_eq_some_iff.2 ⟨before, behind, rfl, hbefore, hrow⟩
    rw [h] at hfirst
    cases hfirst
    rfl
  · intro hnot
    induction before with
    | nil =>
      rw [List.nil_append, firstRow] at h
      obtain ⟨b, hb, h⟩ := Outcome.bind_eq_ok.1 h
      cases b with
      | true => exact absurd ⟨by simp, hb⟩ hnot
      | false =>
        obtain ⟨passed, rest, rfl, -⟩ := firstRow_eq_some_iff.1 h
        simp
    | cons first before ih =>
      rw [List.cons_append, firstRow] at h
      obtain ⟨b, hb, h⟩ := Outcome.bind_eq_ok.1 h
      cases b with
      | true =>
        cases h
        exact List.mem_cons_self
      | false =>
        refine List.mem_cons_of_mem _ (ih h ?_)
        rintro ⟨hbefore, hrow⟩
        exact hnot ⟨List.forall_mem_cons.2 ⟨hb, hbefore⟩, hrow⟩

namespace Resource

variable {r : Resource} {key : String} {changes : Document}

/-! ## Updates with an answer -/

/-- an update with an answer: the store changed a row, and found one with the new key -/
theorem update_eq_ok {config : Config} {d : Document} {s s' : Store} (h : r.update config key changes s = (.ok d, s')) :
    ∃ o rows found,
      updateRows (r.keyPredicate key) (setting changes) false (s.rows r.collection) = .ok (o, rows) ∧ o.matched ≠ 0 ∧
      s' = s.setRows r.collection rows ∧ firstRow (r.keyPredicate (r.newKey changes key)) rows = .ok (some found) ∧
      d = found.strip config.excludeFields := by
  unfold update at h
  cases hfault : changesFault? changes with
  | some reason =>
    rw [hfault] at h
    cases h
  | none =>
    rw [hfault] at h
    obtain ⟨o, t, hcall, h⟩ := Outcome.run_bind_eq_ok h
    obtain ⟨o', rows, hrows, ⟨-, rfl, rfl⟩ | ⟨⟨-, hupsert⟩, -⟩⟩ := Store.update_eq_ok (Operation.call_eq_ok hcall)
    · split at h
      · cases h
      · next hmatched =>
        obtain ⟨found, t, hfound, h⟩ := Outcome.run_bind_eq_ok h
        have hfound := Operation.call_eq_ok hfound
        have ht : t = s.setRows r.collection rows := (congrArg Prod.snd hfound).symm
        have hfirst : firstRow (r.keyPredicate (r.newKey changes key))
            ((s.setRows r.collection rows).rows r.collection) = .ok found := congrArg Prod.fst hfound
        rw [Store.rows_setRows, if_pos rfl] at hfirst
        cases found with
        | none => cases h
        | some found =>
          cases h
          exact ⟨o, rows, found, hrows, hmatched, ht, hfirst, rfl⟩
    · cases hupsert

/-- **Rows that are read back.** With a plain name for the key field, changes that leave the key alone or set it to a
text are read back from the row that they changed, if no row before it has the key that they give. -/
theorem isFirst_of_text {before : List Document} {row updated : Document}
    (hkey : Path.segments r.keyField = [r.keyField]) (hchanges : changes.Ordered)
    (htext : ∀ v, Document.find? changes r.keyField = some v → v.isStr = true)
    (h : UpdatesFirst (r.keyPredicate key) (setting changes) before row updated)
    (hbefore : ∀ b ∈ before, satisfies b (r.keyPredicate (r.newKey changes key)) = .ok false) :
    IsFirst (r.keyPredicate (r.newKey changes key)) before updated := by
  obtain ⟨change, hchange, -, hrow⟩ := mutated?_of_applies h.applies
  refine ⟨hbefore, ?_⟩
  rw [h.result, ← hrow]
  exact satisfies_newKey hkey hchanges htext h.isFirst.2 hchange

/-- changes without the key field give no other key, and no row before has that -/
theorem isFirst_of_untouched {before : List Document} {row updated : Document}
    (hkey : Path.segments r.keyField = [r.keyField]) (hchanges : changes.Ordered)
    (hnone : Document.find? changes r.keyField = none)
    (h : UpdatesFirst (r.keyPredicate key) (setting changes) before row updated) :
    IsFirst (r.keyPredicate (r.newKey changes key)) before updated := by
  have hsame : r.newKey changes key = key := by
    rw [newKey, hnone]
    rfl
  refine isFirst_of_text hkey hchanges ?_ h ?_
  · intro v hv
    rw [hnone] at hv
    cases hv
  · rw [hsame]
    exact h.isFirst.1

/-- **Answers of updates.** An update with an answer changed the first row with the key, and nothing else. It answers
with this row as it is then, without the excluded fields, if it is the first row with the key that the changes give;
so it is when the key field has a plain name and they leave the key alone. Otherwise it answers with another row, which
is the first with that key. -/
theorem answer_of_update {config : Config} {d : Document} {s s' : Store}
    (h : r.update config key changes s = (.ok d, s')) :
    ∃ before row updated behind,
      s.rows r.collection = before ++ row :: behind ∧
      UpdatesFirst (r.keyPredicate key) (setting changes) before row updated ∧
      s.Replaced r.collection (before ++ updated :: behind) s' ∧
      (IsFirst (r.keyPredicate (r.newKey changes key)) before updated → d = updated.strip config.excludeFields) ∧
      (Path.segments r.keyField = [r.keyField] → changes.Ordered → Document.find? changes r.keyField = none →
        d = updated.strip config.excludeFields) ∧
      (¬IsFirst (r.keyPredicate (r.newKey changes key)) before updated → ∃ other ∈ before ++ behind,
        firstRow (r.keyPredicate (r.newKey changes key)) (before ++ updated :: behind) = .ok (some other) ∧
        d = other.strip config.excludeFields) := by
  obtain ⟨o, rows, found, hrows, hmatched, rfl, hfound, rfl⟩ := update_eq_ok h
  obtain ⟨before, row, updated, behind, hbefore, hupdates, rfl⟩ := updatesFirst_of_updateRows hrows hmatched
  obtain ⟨hfirst, hother⟩ := found_of_firstRow hfound
  refine ⟨before, row, updated, behind, hbefore, hupdates, Store.replaced_setRows s r.collection _, ?_, ?_, ?_⟩
  · intro hback
    rw [hfirst hback]
  · intro hkey hchanges hnone
    rw [hfirst (isFirst_of_untouched hkey hchanges hnone hupdates)]
  · intro hnot
    exact ⟨found, hother hnot, hfound, rfl⟩

/-- three things, two of them with one name -/
def namesakes : Store :=
  Store.seed (.empty toString) "things" [[("_id", .str "1"), ("name", .str "b"), ("size", .nat 2)],
    [("_id", .str "2"), ("name", .str "a"), ("size", .nat 1)],
    [("_id", .str "3"), ("name", .str "a"), ("size", .nat 3)]]

/-- the first of the two is changed, and is the answer -/
theorem answer_of_update_namesakes :
    let answer : Document := [("name", .str "a"), ("size", .nat 7)]
    ∃ s', things.update {} "a" [("size", .nat 7)] namesakes = (.ok answer, s') ∧
      ∃ before row updated behind, namesakes.rows "things" = before ++ row :: behind ∧
        UpdatesFirst (things.keyPredicate "a") (setting [("size", .nat 7)]) before row updated ∧
        namesakes.Replaced "things" (before ++ updated :: behind) s' ∧ answer = updated.strip ["_id"] := by
  intro answer
  have h : ∃ s', things.update {} "a" [("size", .nat 7)] namesakes = (.ok answer, s') := ⟨_, rfl⟩
  obtain ⟨s', h⟩ := h
  obtain ⟨before, row, updated, behind, hrows, hupdates, hreplaced, -, hplain, -⟩ := answer_of_update h
  have hordered : Document.Ordered [("size", .nat 7)] := List.pairwise_singleton _ _
  exact ⟨s', h, before, row, updated, behind, hrows, hupdates, hreplaced, hplain (by decide) hordered rfl⟩

/-- a thing that gets the name of an earlier one is changed, and the earlier one is the answer -/
theorem update_answers_namesake :
    let earlier : Document := [("_id", .str "1"), ("name", .str "b"), ("size", .nat 2)]
    let row : Document := [("_id", .str "2"), ("name", .str "a"), ("size", .nat 1)]
    let updated : Document := [("_id", .str "2"), ("name", .str "b"), ("size", .nat 1)]
    UpdatesFirst (things.keyPredicate "a") (setting [("name", .str "b")]) [earlier] row updated ∧
      ∃ s', things.update {} "a" [("name", .str "b")] namesakes = (.ok (earlier.strip ["_id"]), s') ∧
        s'.rows "things" = [earlier, updated, [("_id", .str "3"), ("name", .str "a"), ("size", .nat 3)]] ∧
        earlier.strip ["_id"] ≠ updated.strip ["_id"] := by
  intro earlier row updated
  have hfirst : IsFirst (things.keyPredicate "a") [earlier] row := ⟨List.forall_mem_singleton.2 rfl, rfl⟩
  refine ⟨⟨hfirst, ⟨true, updated, rfl⟩, rfl⟩, _, rfl, rfl, ?_⟩
  intro h
  cases h

end Resource

end DocumentQuery
