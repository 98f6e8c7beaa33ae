/-
CALLS THAT CHANGE A STORE, and what they do to the rows of its collections. A call touches the rows of its own
collection only, and a call that fails touches no rows at all:

- `rows_setRows`: writing the rows of one collection, as the other collections see it;
- `firstRow_eq_none_iff`, `firstRow_eq_some_iff`: what a look for one row finds;
- `updateRows_of_unmatched`, `exists_of_changed`: an update that matches nothing, and one that changes some row;
- `rows_of_failure`: a failed call leaves the rows of every collection as they were.
-/
import DocumentQuery.Proofs.Outcome
import DocumentQuery.Store.Basic

namespace DocumentQuery

/-! ## Rows of collections -/

namespace Store

/-- the first collection of a name counts -/
theorem lookup_cons (c n : String) (rows : List Document) (rest : List (String × List Document)) :
    ((n, rows) :: rest).lookup c = if c = n then some rows else rest.lookup c := by
  rw [List.lookup_cons]
  split <;> simp_all

theorem lookup_putRows (name c : String) (rows : List Document) (collections : List (String × List Document)) :
    (putRows name rows collections).lookup c = if c = name then some rows else collections.lookup c := by
  induction collections with
  | nil => simp [putRows, lookup_cons]
  | cons p rest ih =>
    obtain ⟨n, r⟩ := p
    simp only [putRows]
    split
    · next hn =>
      subst hn
      rw [lookup_cons, lookup_cons]
      split <;> rfl
    · next hn =>
      rw [lookup_cons, lookup_cons, ih]
      by_cases hc : c = n
      · simp [hc, hn]
      · simp [hc]

/-- **Frame of a write.** Other collections keep their rows. -/
theorem rows_setRows (s : Store) (collection : String) (rows : List Document) (c : String) :
    (s.setRows collection rows).rows c = if c = collection then rows else s.rows c := by
  unfold Store.rows setRows
  rw [lookup_putRows]
  split <;> rfl

theorem putRows_of_lookup {name : String} {rows : List Document} {collections : List (String × List Document)}
    (h : collections.lookup name = some rows) : putRows name rows collections = collections := by
  induction collections with
  | nil => simp at h
  | cons p rest ih =>
    obtain ⟨n, r⟩ := p
    simp only [putRows]
    split
    · next hn =>
      subst hn
      have hr : r = rows := by simpa [lookup_cons] using h
      rw [hr]
    · next hn =>
      have hrest : rest.lookup name = some rows := by simpa [lookup_cons, Ne.symm hn] using h
      rw [ih hrest]

theorem putRows_of_lookup_none {name : String} {rows : List Document} {collections : List (String × List Document)}
    (h : collections.lookup name = none) : putRows name rows collections = collections ++ [(name, rows)] := by
  induction collections with
  | nil => rfl
  | cons p rest ih =>
    obtain ⟨n, r⟩ := p
    by_cases hn : n = name
    · simp [hn] at h
    · have hrest : rest.lookup name = none := by simpa [lookup_cons, Ne.symm hn] using h
      simp [putRows, hn, ih hrest]

/-- the store itself, or the store with an empty collection of a name that it did not have -/
def Touched (collection : String) (s s' : Store) : Prop :=
  s' = s ∨ s.collections.lookup collection = none ∧ s' = { s with collections := s.collections ++ [(collection, [])] }

/-- writing back the rows that are there -/
theorem touched_setRows (s : Store) (collection : String) :
    s.Touched collection (s.setRows collection (s.rows collection)) := by
  cases h : s.collections.lookup collection with
  | some rows => exact Or.inl (by simp [setRows, Store.rows, h, putRows_of_lookup h])
  | none => exact Or.inr ⟨h, by simp [setRows, Store.rows, h, putRows_of_lookup_none h]⟩

theorem Touched.rows {collection : String} {s s' : Store} (h : Touched collection s s') (c : String) :
    s'.rows c = s.rows c := by
  rcases h with rfl | ⟨hnone, rfl⟩
  · rfl
  · unfold Store.rows
    rw [List.lookup_append]
    by_cases hc : c = collection
    · subst hc
      simp [hnone]
    · simp [lookup_cons, hc]

end Store

/-! ## Looking for a row -/

section

variable {predicate : Document} {rows : List Document}

theorem firstRow_eq_error {e : StoreError} (h : firstRow predicate rows = .error e) :
    ∃ row ∈ rows, satisfies row predicate = .error e := by
  induction rows with
  | nil => cases h
  | cons row rest ih =>
    rcases Outcome.bind_eq_error.1 h with h | ⟨ok, -, h⟩
    · exact ⟨row, List.mem_cons_self, h⟩
    · cases ok with
      | true => cases h
      | false =>
        obtain ⟨d, hd, hfault⟩ := ih h
        exact ⟨d, List.mem_cons_of_mem _ hd, hfault⟩

theorem firstRow_eq_none_iff :
    firstRow predicate rows = .ok none ↔ ∀ row ∈ rows, satisfies row predicate = .ok false := by
  induction rows with
  | nil => simp [firstRow]
  | cons row rest ih =>
    rw [firstRow, List.forall_mem_cons, ← ih]
    cases satisfies row predicate with
    | error e => simp
    | ok b => cases b <;> simp

/-- the row that is found satisfies the predicate, and the rows before it were judged and do not -/
theorem firstRow_eq_some_iff {found : Document} :
    firstRow predicate rows = .ok (some found) ↔ ∃ before behind, rows = before ++ found :: behind ∧
      (∀ row ∈ before, satisfies row predicate = .ok false) ∧ satisfies found predicate = .ok true := by
  induction rows with
  | nil => simp [firstRow]
  | cons row rest ih =>
    rw [firstRow, Outcome.bind_eq_ok]
    constructor
    · rintro ⟨b, hb, h⟩
      cases b with
      | true =>
        cases h
        exact ⟨[], rest, rfl, by simp, hb⟩
      | false =>
        obtain ⟨before, behind, rfl, hbefore, hfound⟩ := ih.1 h
        exact ⟨row :: before, behind, rfl, List.forall_mem_cons.2 ⟨hb, hbefore⟩, hfound⟩
    · rintro ⟨before, behind, hrows, hbefore, hfound⟩
      cases before with
      | nil =>
        cases hrows
        exact ⟨true, hfound, rfl⟩
      | cons first before =>
        cases hrows
        obtain ⟨hfirst, hbefore⟩ := List.forall_mem_cons.1 hbefore
        exact ⟨false, hfirst, ih.2 ⟨before, behind, rfl, hbefore, hfound⟩⟩

end

/-! ## Updates of rows -/

/-- a changed row is what the mutation made of it, and reported as a change -/
theorem applyMutation_of_mutated? {mutation row after : Document} (h : mutated? mutation row = .ok (some after)) :
    applyMutation mutation row = (.ok true, after) := by
  unfold mutated? at h
  split at h
  · next happly =>
    cases h
    exact happly
  · cases h
  · cases h

/-- a row that is not changed was taken through the mutation too, which reported nothing -/
theorem applyMutation_of_mutated?_none {mutation row : Document} (h : mutated? mutation row = .ok none) :
    ∃ after, applyMutation mutation row = (.ok false, after) := by
  unfold mutated? at h
  split at h
  · cases h
  · next after happly => exact ⟨after, happly⟩
  · cases h

section

variable {predicate mutation row : Document} {rest : List Document} (many : Bool)

theorem updateRows_cons_of_error {e : StoreError} (h : satisfies row predicate = .error e) :
    updateRows predicate mutation many (row :: rest) = .error e := by
  simp [updateRows, h]

/-- a row that does not match stays, and the rows behind it are updated -/
theorem updateRows_cons_of_false (h : satisfies row predicate = .ok false) :
    updateRows predicate mutation many (row :: rest) =
      (updateRows predicate mutation many rest).map fun r => (r.1, row :: r.2) := by
  rw [updateRows, h]
  cases updateRows predicate mutation many rest <;> rfl

/-- rows in front that do not match stay -/
theorem updateRows_append_of_false {front : List Document} (h : ∀ r ∈ front, satisfies r predicate = .ok false) :
    updateRows predicate mutation many (front ++ rest) =
      (updateRows predicate mutation many rest).map fun r => (r.1, front ++ r.2) := by
  induction front with
  | nil =>
    rw [List.nil_append]
    cases updateRows predicate mutation many rest <;> rfl
  | cons row front ih =>
    obtain ⟨hrow, hfront⟩ := List.forall_mem_cons.1 h
    rw [List.cons_append, updateRows_cons_of_false many hrow, ih hfront]
    cases updateRows predicate mutation many rest <;> rfl

/-- a row that matches is changed, and the rows behind it only if all rows are to be -/
theorem updateRows_cons_of_true (h : satisfies row predicate = .ok true) :
    updateRows predicate mutation many (row :: rest) = (mutated? mutation row).bind fun change =>
      (if many then updateRows predicate mutation many rest else .ok ({}, rest)).map fun r =>
        (⟨r.1.matched + 1, r.1.modified + change.isSome.toNat⟩, change.getD row :: r.2) := by
  rw [updateRows, h]
  cases mutated? mutation row with
  | error e => rfl
  | ok change =>
    cases many with
    | false => rfl
    | true => cases updateRows predicate mutation true rest <;> rfl

end

/-- what an update with a result did with the first row: kept it, or matched it and perhaps changed it -/
theorem updateRows_cons_eq_ok {predicate mutation row : Document} {many : Bool} {rest after : List Document}
    {o : UpdateOutcome} (h : updateRows predicate mutation many (row :: rest) = .ok (o, after)) :
    (satisfies row predicate = .ok false ∧
        ∃ below, updateRows predicate mutation many rest = .ok (o, below) ∧ after = row :: below) ∨
      satisfies row predicate = .ok true ∧ ∃ change o' below, mutated? mutation row = .ok change ∧
        (if many then updateRows predicate mutation many rest else .ok ({}, rest)) = .ok (o', below) ∧
        o = ⟨o'.matched + 1, o'.modified + change.isSome.toNat⟩ ∧ after = change.getD row :: below := by
  cases hrow : satisfies row predicate with
  | error e => simp [updateRows_cons_of_error many hrow] at h
  | ok ok =>
    cases ok with
    | true =>
      rw [updateRows_cons_of_true many hrow] at h
      obtain ⟨change, hchange, h⟩ := Outcome.bind_eq_ok.1 h
      obtain ⟨⟨o', below⟩, hbelow, h⟩ := Outcome.map_eq_ok.1 h
      cases h
      exact Or.inr ⟨rfl, change, o', below, hchange, hbelow, rfl, rfl⟩
    | false =>
      rw [updateRows_cons_of_false many hrow] at h
      obtain ⟨⟨o', below⟩, hbelow, h⟩ := Outcome.map_eq_ok.1 h
      cases h
      exact Or.inl ⟨rfl, below, hbelow, rfl⟩

section

variable {predicate mutation : Document} {many : Bool} {rows after : List Document} {o : UpdateOutcome}

/-- a row is changed only if it was matched -/
theorem modified_le_matched (h : updateRows predicate mutation many rows = .ok (o, after)) :
    o.modified ≤ o.matched := by
  induction rows generalizing o after with
  | nil =>
    cases h
    exact Nat.le_refl _
  | cons row rest ih =>
    rcases updateRows_cons_eq_ok h with ⟨-, below, hbelow, -⟩ | ⟨-, change, o', below, -, hbelow, rfl, -⟩
    · exact ih hbelow
    · have hle : o'.modified ≤ o'.matched := by
        cases many with
        | true => exact ih hbelow
        | false =>
          cases hbelow
          exact Nat.le_refl _
      have hone : change.isSome.toNat ≤ 1 := Bool.toNat_le _
      exact Nat.add_le_add hle hone

/-- an update that changes no row leaves all of them as they are -/
theorem updateRows_of_unmodified (h : updateRows predicate mutation many rows = .ok (o, after))
    (hnone : o.modified = 0) : after = rows := by
  induction rows generalizing o after with
  | nil =>
    cases h
    rfl
  | cons row rest ih =>
    rcases updateRows_cons_eq_ok h with ⟨-, below, hbelow, rfl⟩ | ⟨-, change, o', below, -, hbelow, rfl, rfl⟩
    · rw [ih hbelow hnone]
    · obtain ⟨hrest, hchange⟩ := Nat.add_eq_zero_iff.1 hnone
      have hsame : change = none := by
        cases change with
        | none => rfl
        | some d => simp at hchange
      have hbelow' : below = rest := by
        cases many with
        | true => exact ih hbelow hrest
        | false =>
          cases hbelow
          rfl
      rw [hsame, hbelow']
      rfl

theorem updateRows_of_unmatched (h : updateRows predicate mutation many rows = .ok (o, after)) (hnone : o.matched = 0) :
    after = rows :=
  updateRows_of_unmodified h (Nat.le_zero.1 (hnone ▸ modified_le_matched h))

theorem exists_of_matched (h : updateRows predicate mutation many rows = .ok (o, after)) (hsome : o.matched ≠ 0) :
    ∃ row ∈ rows, satisfies row predicate = .ok true := by
  induction rows generalizing o after with
  | nil =>
    cases h
    exact absurd rfl hsome
  | cons row rest ih =>
    rcases updateRows_cons_eq_ok h with ⟨-, below, hbelow, -⟩ | ⟨hrow, -⟩
    · obtain ⟨r, hr, hok⟩ := ih hbelow hsome
      exact ⟨r, List.mem_cons_of_mem _ hr, hok⟩
    · exact ⟨row, List.mem_cons_self, hrow⟩

/-- rows that are no longer the same hold a row that was matched and changed -/
theorem exists_of_changed (h : updateRows predicate mutation many rows = .ok (o, after)) (hne : after ≠ rows) :
    ∃ row ∈ rows, ∃ row' ∈ after, satisfies row predicate = .ok true ∧ mutated? mutation row = .ok (some row') := by
  induction rows generalizing o after with
  | nil =>
    cases h
    exact absurd rfl hne
  | cons row rest ih =>
    have behind : ∀ {o' below}, updateRows predicate mutation many rest = .ok (o', below) → below ≠ rest →
        ∃ r ∈ row :: rest, ∃ r' ∈ below, satisfies r predicate = .ok true ∧ mutated? mutation r = .ok (some r') :=
      fun hbelow hbelow' => by
        obtain ⟨r, hr, r', hr', hmatch⟩ := ih hbelow hbelow'
        exact ⟨r, List.mem_cons_of_mem _ hr, r', hr', hmatch⟩
    rcases updateRows_cons_eq_ok h with ⟨-, below, hbelow, rfl⟩ | ⟨hrow, change, o', below, hchange, hbelow, -, rfl⟩
    · obtain ⟨r, hr, r', hr', hmatch⟩ := behind hbelow fun heq => hne (by rw [heq])
      exact ⟨r, hr, r', List.mem_cons_of_mem _ hr', hmatch⟩
    · cases change with
      | some row' => exact ⟨row, List.mem_cons_self, row', List.mem_cons_self, hrow, hchange⟩
      | none =>
        have hbelow' : below ≠ rest := fun heq => hne (by rw [heq]; rfl)
        cases many with
        | false =>
          cases hbelow
          exact absurd rfl hbelow'
        | true =>
          obtain ⟨r, hr, r', hr', hmatch⟩ := behind hbelow hbelow'
          exact ⟨r, hr, r', List.mem_cons_of_mem _ hr', hmatch⟩

end

/-! ## Calls -/

/-- a call that may change a store -/
inductive StoreCall where
  | seed (collection : String) (documents : List Document)
  | insertOne (collection : String) (d : Document)
  | updateOne (collection : String) (predicate mutation : Document) (upsert : Bool)
  | updateMany (collection : String) (predicate mutation : Document) (upsert : Bool)
  | deleteOne (collection : String) (predicate : Document)
  | deleteMany (collection : String) (predicate : Document)

namespace StoreCall

def collection : StoreCall → String
  | seed c _ => c
  | insertOne c _ => c
  | updateOne c _ _ _ => c
  | updateMany c _ _ _ => c
  | deleteOne c _ => c
  | deleteMany c _ => c

/-- makes the call, without a look at its result -/
def run (call : StoreCall) : StoreM Store Unit := do
  match call with
  | seed c documents => modify fun s => s.seed c documents
  | insertOne c d => let _ ← DocumentStore.insertOne c d
  | updateOne c predicate mutation upsert => let _ ← DocumentStore.updateOne c predicate mutation upsert
  | updateMany c predicate mutation upsert => let _ ← DocumentStore.updateMany c predicate mutation upsert
  | deleteOne c predicate => let _ ← DocumentStore.deleteOne c predicate
  | deleteMany c predicate => let _ ← DocumentStore.deleteMany c predicate

end StoreCall

namespace Store

theorem update_eq_error {collection : String} {predicate mutation : Document} {upsert many : Bool} {s s' : Store}
    {e : StoreError} (h : update collection predicate mutation upsert many s = (.error e, s')) :
    s.Touched collection s' := by
  unfold update at h
  dsimp only at h
  split at h
  · cases h
    exact touched_setRows s collection
  · next outcome rows hrows =>
    split at h
    · next hup =>
      -- nothing was matched, so the rows that were written are those that were there
      have hsame := updateRows_of_unmatched hrows hup.1
      split at h
      · cases h
        rw [hsame]
        exact touched_setRows s collection
      · cases h
    · cases h

/-- without insertion it is the rows that an update fails on -/
theorem updateRows_of_update_eq_error {collection : String} {predicate mutation : Document} {many : Bool}
    {s s' : Store} {e : StoreError} (h : update collection predicate mutation false many s = (.error e, s')) :
    updateRows predicate mutation many (s.rows collection) = .error e := by
  unfold update at h
  dsimp only at h
  split at h
  · next cause hrows =>
    cases h
    exact hrows
  · simp only [Bool.false_eq_true, and_false, if_false] at h
    cases h

/-- an update with a result wrote the updated rows back, or inserted a document because none was matched -/
theorem update_eq_ok {collection : String} {predicate mutation : Document} {upsert many : Bool} {s s' : Store}
    {o : UpdateOutcome} (h : update collection predicate mutation upsert many s = (.ok o, s')) :
    ∃ outcome rows, updateRows predicate mutation many (s.rows collection) = .ok (outcome, rows) ∧
      (¬(outcome.matched = 0 ∧ upsert) ∧ o = outcome ∧ s' = s.setRows collection rows ∨
        (outcome.matched = 0 ∧ upsert) ∧ ∃ d, upsertDocument predicate mutation = .ok d ∧ o = ⟨0, 1⟩ ∧
          s' = ((s.setRows collection rows).append collection d).2) := by
  unfold update at h
  dsimp only at h
  split at h
  · cases h
  · next outcome rows hrows =>
    refine ⟨outcome, rows, hrows, ?_⟩
    split at h
    · next hup =>
      split at h
      · cases h
      · next d hd =>
        cases h
        exact Or.inr ⟨hup, d, hd, rfl, rfl⟩
    · next hup =>
      cases h
      exact Or.inl ⟨hup, rfl, rfl⟩

/-- an update that reports no change made none -/
theorem rows_of_unmodified {collection : String} {predicate mutation : Document} {upsert many : Bool} {s s' : Store}
    {o : UpdateOutcome} (h : update collection predicate mutation upsert many s = (.ok o, s')) (hnone : o.modified = 0)
    (c : String) : s'.rows c = s.rows c := by
  obtain ⟨outcome, rows, hrows, ⟨-, rfl, rfl⟩ | ⟨-, d, -, rfl, rfl⟩⟩ := update_eq_ok h
  · rw [updateRows_of_unmodified hrows hnone]
    exact (touched_setRows s collection).rows c
  · cases hnone

/-- a deletion that reports no document deleted none -/
theorem delete_eq_ok_zero {collection : String} {predicate : Document} {many : Bool} {s s' : Store}
    (h : delete collection predicate many s = (.ok 0, s')) : s' = s := by
  unfold delete at h
  split at h
  · cases h
  · next n rows hrows =>
    have hn : n = 0 := Except.ok.inj (congrArg Prod.fst h)
    rw [if_pos hn] at h
    exact (congrArg Prod.snd h).symm

theorem delete_eq_error {collection : String} {predicate : Document} {many : Bool} {s s' : Store} {e : StoreError}
    (h : delete collection predicate many s = (.error e, s')) : s' = s := by
  unfold delete at h
  split at h
  · cases h
    rfl
  · cases h

end Store

/-! ## Calls that fail -/

/-- **Calls that fail touch no row.** Whatever the store and the call: if the call fails, then every collection has the
rows that it had, and the store itself is as before, but for an empty collection of the name that the call used
first. -/
theorem StoreCall.rows_of_failure {call : StoreCall} {s s' : Store} {e : StoreError} (h : call.run s = (.error e, s')) :
    (∀ c, s'.rows c = s.rows c) ∧ s.Touched call.collection s' := by
  have htouched : s.Touched call.collection s' := by
    cases call with
    | seed c documents => cases h
    | insertOne c d => cases Outcome.run_bind_pure_eq_error h
    | updateOne c predicate mutation upsert => exact Store.update_eq_error (Outcome.run_bind_pure_eq_error h)
    | updateMany c predicate mutation upsert => exact Store.update_eq_error (Outcome.run_bind_pure_eq_error h)
    | deleteOne c predicate => exact Or.inl (Store.delete_eq_error (Outcome.run_bind_pure_eq_error h))
    | deleteMany c predicate => exact Or.inl (Store.delete_eq_error (Outcome.run_bind_pure_eq_error h))
  exact ⟨htouched.rows, htouched⟩

/-- Two things, of which the first has an object at `a` and the second a number: the first was changed already when the
second blocks the update, and keeps its content. Where there is no thing yet, the one to insert cannot be made, and the
collection has come to exist. -/
theorem StoreCall.rows_of_failure_blocked :
    let mutation : Document := [("$set", .obj [("a.b", .nat 2)])]
    let change := updateMany "things" [] mutation true
    let insertion := updateMany "things" [("a", .nat 1)] mutation true
    let blocked : StoreError := .invalidMutation (.blocked "a.b" "a")
    let first : Document := [("_id", .str "1"), ("a", .obj [])]
    let second : Document := [("_id", .str "2"), ("a", .nat 1)]
    let s : Store := { Store.empty toString with collections := [("things", [first, second])] }
    let empty : Store := { Store.empty toString with collections := [("things", [])] }
    mutated? mutation first = .ok (some [("_id", .str "1"), ("a", .obj [("b", .nat 2)])]) ∧
      (∃ s', change.run s = (.error blocked, s') ∧ (∀ c, s'.rows c = s.rows c) ∧ s.Touched "things" s' ∧
        s'.rows "things" = [first, second]) ∧
      insertion.run (.empty toString) = (.error blocked, empty) ∧
      (∀ c, empty.rows c = (Store.empty toString).rows c) ∧ (Store.empty toString).Touched "things" empty := by
  intro mutation change insertion blocked first second s empty
  have hstaged : mutated? mutation first = .ok (some [("_id", .str "1"), ("a", .obj [("b", .nat 2)])]) := rfl
  have hchange : ∃ s', change.run s = (.error blocked, s') := ⟨_, rfl⟩
  obtain ⟨s', hchange⟩ := hchange
  obtain ⟨hrows, htouched⟩ := rows_of_failure hchange
  have hinsertion : insertion.run (.empty toString) = (.error blocked, empty) := rfl
  exact ⟨hstaged, ⟨s', hchange, hrows, htouched, hrows "things"⟩, hinsertion, rows_of_failure hinsertion⟩

end DocumentQuery
