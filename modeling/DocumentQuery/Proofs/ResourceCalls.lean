/-
REQUESTS TO CHANGE A RESOURCE, and what is left of them when they fail. All but one write nothing unless they succeed.
An update of one document writes first and reads the document back afterwards; it looks under the old key unless the
changes set the key to a text, so it may fail to find what it has just written.

- `rows_of_refusal`: a failed request leaves all rows as they were, exactly if it is not such an update;
- `satisfies_newKey`: changes that leave the key alone, or set it to a text, leave a row with the key they give;
- `not_losesKey`: so such changes are always read back.
-/
import DocumentQuery.Proofs.StoreCalls
import DocumentQuery.Proofs.Writing
import DocumentQuery.Resource.Update

namespace DocumentQuery

/-! ## Steps of operations -/

namespace Operation

section

variable {α : Type} {s s' : Store}

theorem call_eq_ok {x : StoreM Store α} {a : α} (h : (call x : Operation Store α) s = (.ok a, s')) :
    x s = (.ok a, s') := by
  unfold call at h
  rcases hx : x s with ⟨e | b, t⟩
  · simp only [ExceptT.run, hx] at h
    cases h
  · simp only [ExceptT.run, hx] at h
    cases h
    rfl

theorem call_eq_error {x : StoreM Store α} {e : Failure} (h : (call x : Operation Store α) s = (.error e, s')) :
    ∃ cause, x s = (.error cause, s') := by
  unfold call at h
  rcases hx : x s with ⟨cause | b, t⟩
  · simp only [ExceptT.run, hx] at h
    cases h
    exact ⟨cause, rfl⟩
  · simp only [ExceptT.run, hx] at h
    cases h

theorem call_of_ok {x : StoreM Store α} {a : α} (h : x s = (.ok a, s')) :
    (call x : Operation Store α) s = (.ok a, s') := by
  simp only [call, ExceptT.run, h]

theorem call_of_error {x : StoreM Store α} {e : StoreError} (h : x s = (.error e, s')) :
    (call x : Operation Store α) s = (.error (.ofStore e), s') := by
  simp only [call, ExceptT.run, h]

/-- reading changes nothing -/
theorem call_aggregate (s : Store) (collection : String) (pipeline : List Document) :
    (call (DocumentStore.aggregate collection pipeline) : Operation Store (List Document)) s =
      ((runPipeline (s.rows collection) pipeline (s.geoField? collection)).mapError .ofStore, s) := by
  have hrun : DocumentStore.aggregate collection pipeline s =
      (runPipeline (s.rows collection) pipeline (s.geoField? collection), s) := rfl
  cases h : runPipeline (s.rows collection) pipeline (s.geoField? collection) with
  | error e => exact call_of_error (hrun.trans (by rw [h]))
  | ok rows => exact call_of_ok (hrun.trans (by rw [h]))

theorem judge_of_ok {x : Except FilterError α} {a : α} (h : x = .ok a) (s : Store) :
    (judge x : Operation Store α) s = (.ok a, s) := by
  rw [h]
  rfl

theorem judge_of_error {x : Except FilterError α} {e : FilterError} (h : x = .error e) (s : Store) :
    (judge x : Operation Store α) s = (.error (.invalidFilter e), s) := by
  rw [h]
  rfl

theorem judge_state {x : Except FilterError α} {a : Except Failure α} (h : (judge x : Operation Store α) s = (a, s')) :
    s' = s := by
  cases x <;> cases h <;> rfl

end

end Operation

/-! ## Requests -/

/-- a request to change a resource -/
inductive ResourceCall where
  | create (d : Document)
  | update (key : String) (changes : Document)
  | setField (params : QueryParams) (values : Document)
  | renameField (params : QueryParams) (field newField : String)
  | unsetField (params : QueryParams) (field : String)
  | deleteByKey (key : String)

/-- carries out a request on a store in memory; gives the body of the answer -/
def ResourceCall.run (r : Resource) (config : Config) (call : ResourceCall) : Operation Store Json := do
  match call with
  | create d => pure (.obj (← r.create config d))
  | update key changes => pure (.obj (← r.update config key changes))
  | setField params values => pure (← r.setField config params values).toJson
  | renameField params field newField => pure (← r.renameField config params field newField).toJson
  | unsetField params field => pure (← r.unsetField config params field).toJson
  | deleteByKey key => pure (← r.deleteByKey key).toJson

namespace Resource

/-! ## Predicates on keys -/

/-- why documents cannot be judged by their keys, if they cannot: the key field is written like an operator -/
def keyFault? (r : Resource) : Option StoreError :=
  match Combinator.ofKey? r.keyField with
  | some _ => some (.invalidPipeline .branchList)
  | none => if Text.isOperatorKey r.keyField then some (.unsupportedOperator r.keyField) else none

/-- the predicate on the key, for every document alike, has a verdict or has none -/
theorem satisfies_keyPredicate (r : Resource) (key : String) (d : Document) :
    satisfies d (r.keyPredicate key) =
      r.keyFault?.elim (.ok (equalsAny (Document.resolve d r.keyField) (.str key))) .error := by
  unfold keyFault? keyPredicate Document.single
  rw [satisfies]
  cases Combinator.ofKey? r.keyField with
  | some c => rfl
  | none =>
    dsimp only
    split
    · rfl
    · rw [meets]
      · cases equalsAny (Document.resolve d r.keyField) (.str key) <;> simp [satisfies]
      · simp

/-! ## Refusals of single operations -/

section

variable {r : Resource} {config : Config} {s s' : Store} {e : Failure}

theorem state_of_create_refused {d : Document} (h : r.create config d s = (.error e, s')) : s' = s := by
  unfold create at h
  split at h
  · cases h
    rfl
  · rcases Outcome.run_bind_eq_error h with h | ⟨stored, t, -, h⟩
    · obtain ⟨cause, h⟩ := Operation.call_eq_error h
      cases h
    · cases h

theorem state_of_deleteByKey_refused {key : String} (h : r.deleteByKey key s = (.error e, s')) : s' = s := by
  rcases Outcome.run_bind_eq_error h with h | ⟨n, t, hcall, h⟩
  · obtain ⟨cause, h⟩ := Operation.call_eq_error h
    exact Store.delete_eq_error h
  · split at h
    · next hn =>
      rw [hn] at hcall
      cases h
      exact Store.delete_eq_ok_zero (Operation.call_eq_ok hcall)
    · cases h

/-- an update of many documents is refused before it writes, or because it changed nothing -/
theorem rows_of_updateField_refused {field : String} {predicate mutation : Document} {upsert : Bool}
    (h : r.updateField field predicate mutation upsert s = (.error e, s')) (c : String) : s'.rows c = s.rows c := by
  rcases Outcome.run_bind_eq_error h with h | ⟨outcome, t, hcall, h⟩
  · obtain ⟨cause, h⟩ := Operation.call_eq_error h
    exact (Store.update_eq_error h).rows c
  · unfold summarize at h
    split at h
    · next hnone =>
      cases h
      exact Store.rows_of_unmodified (Operation.call_eq_ok hcall) hnone c
    · cases h

/-- so is an update of the documents that a request selects, and of these perhaps only some -/
theorem rows_of_selectedUpdate_refused {params : QueryParams} {field : String} {mutation : Document} {upsert : Bool}
    (restrict : Document → Document)
    (h : (do
      let predicate ← Operation.judge (params.predicate config)
      r.updateField field (restrict predicate) mutation upsert : Operation Store UpdateSummary) s = (.error e, s'))
    (c : String) : s'.rows c = s.rows c := by
  rcases Outcome.run_bind_eq_error h with h | ⟨predicate, t, hjudge, h⟩
  · rw [Operation.judge_state h]
  · rw [← Operation.judge_state hjudge]
    exact rows_of_updateField_refused h c

theorem rows_of_setField_refused {params : QueryParams} {values : Document}
    (h : r.setField config params values s = (.error e, s')) (c : String) : s'.rows c = s.rows c := by
  unfold setField at h
  split at h
  · cases h
    rfl
  · exact rows_of_selectedUpdate_refused id h c

theorem rows_of_renameField_refused {params : QueryParams} {field newField : String}
    (h : r.renameField config params field newField s = (.error e, s')) (c : String) : s'.rows c = s.rows c := by
  unfold renameField at h
  split at h
  · cases h
    rfl
  · exact rows_of_selectedUpdate_refused (conjoin · _) h c

theorem rows_of_unsetField_refused {params : QueryParams} {field : String}
    (h : r.unsetField config params field s = (.error e, s')) (c : String) : s'.rows c = s.rows c :=
  rows_of_selectedUpdate_refused id h c

end

/-! ## Updates that lose the key -/

/-- an update that changes a row and then looks it up under a key that no row has -/
structure LosesKey (r : Resource) (s : Store) (key : String) (changes : Document) : Prop where
  accepted : changesFault? changes = none
  written : ∃ outcome rows,
    updateRows (r.keyPredicate key) (setting changes) false (s.rows r.collection) = .ok (outcome, rows) ∧
      rows ≠ s.rows r.collection ∧ firstRow (r.keyPredicate (r.newKey changes key)) rows = .ok none

/-- when some document has a verdict under the predicate on a key, no look-up by a key fails -/
theorem firstRow_keyPredicate_ne_error {r : Resource} {key key' : String} {d : Document} {b : Bool}
    (h : satisfies d (r.keyPredicate key) = .ok b) (rows : List Document) (e : StoreError) :
    firstRow (r.keyPredicate key') rows ≠ .error e := by
  intro hfirst
  obtain ⟨row, -, hrow⟩ := firstRow_eq_error hfirst
  rw [satisfies_keyPredicate] at h hrow
  cases hfault : r.keyFault? with
  | none => simp [hfault] at hrow
  | some fault => simp [hfault] at h

/-- after an update of the rows, with its result known, the key is lost or is not -/
theorem losesKey_iff {r : Resource} {s : Store} {key : String} {changes : Document} {o : UpdateOutcome}
    {rows : List Document} (haccepted : changesFault? changes = none)
    (hrows : updateRows (r.keyPredicate key) (setting changes) false (s.rows r.collection) = .ok (o, rows)) :
    r.LosesKey s key changes ↔
      rows ≠ s.rows r.collection ∧ firstRow (r.keyPredicate (r.newKey changes key)) rows = .ok none := by
  constructor
  · rintro ⟨-, o', rows', hrows', h⟩
    rw [hrows] at hrows'
    cases hrows'
    exact h
  · exact fun h => ⟨haccepted, o, rows, hrows, h⟩

/-- reading a document back fails only because there is none with the key; nothing is written by it -/
theorem readBack_refused {r : Resource} {fields : List String} {key key' : String} {d : Document} {b : Bool}
    {s s' : Store} {e : Failure} (hjudged : satisfies d (r.keyPredicate key') = .ok b)
    (h : (do
      let found ← Operation.call (DocumentStore.findOne r.collection (r.keyPredicate key))
      let d ← Operation.expect (r.missing (some key)) found
      pure (Document.strip d fields) : Operation Store Document) s = (.error e, s')) :
    s' = s ∧ firstRow (r.keyPredicate key) (s.rows r.collection) = .ok none := by
  rcases Outcome.run_bind_eq_error h with h | ⟨found, t, hfound, h⟩
  · obtain ⟨cause, h⟩ := Operation.call_eq_error h
    exact absurd (congrArg Prod.fst h) (firstRow_keyPredicate_ne_error hjudged _ _)
  · have hfound := Operation.call_eq_ok hfound
    cases found with
    | some d => cases h
    | none =>
      cases h
      exact ⟨(congrArg Prod.snd hfound).symm, congrArg Prod.fst hfound⟩

/-- **Refused updates.** A refused update of one document leaves all rows as they were, unless it lost the key. -/
theorem rows_of_update_refused {r : Resource} {config : Config} {key : String} {changes : Document} {s s' : Store}
    {e : Failure} (h : r.update config key changes s = (.error e, s')) :
    (∀ c, s'.rows c = s.rows c) ↔ ¬r.LosesKey s key changes := by
  unfold update at h
  cases hfault : changesFault? changes with
  | some reason =>
    rw [hfault] at h
    cases h
    have hkeeps : ¬r.LosesKey s key changes := fun hloses => by
      have haccepted := hloses.accepted
      simp [hfault] at haccepted
    exact ⟨fun _ => hkeeps, fun _ c => rfl⟩
  | none =>
    rw [hfault] at h
    rcases Outcome.run_bind_eq_error h with h | ⟨o, t, hcall, h⟩
    · -- the store refuses the update
      obtain ⟨cause, h⟩ := Operation.call_eq_error h
      have hkeeps : ¬r.LosesKey s key changes := by
        rintro ⟨-, o, rows, hrows, -⟩
        rw [Store.updateRows_of_update_eq_error h] at hrows
        cases hrows
      exact ⟨fun _ => hkeeps, fun _ => (Store.update_eq_error h).rows⟩
    · obtain ⟨o', rows, hrows, ⟨-, rfl, rfl⟩ | ⟨⟨-, hupsert⟩, -⟩⟩ := Store.update_eq_ok (Operation.call_eq_ok hcall)
      · rw [losesKey_iff hfault hrows]
        by_cases hmatched : o.matched = 0
        · -- no row has the key
          rw [if_pos hmatched] at h
          cases h
          rw [updateRows_of_unmatched hrows hmatched]
          exact ⟨fun _ hloses => hloses.1 rfl, fun _ => (Store.touched_setRows s r.collection).rows⟩
        · -- a row was written, and is not found again
          rw [if_neg hmatched] at h
          obtain ⟨row, -, hrow⟩ := exists_of_matched hrows hmatched
          obtain ⟨rfl, hlost⟩ := readBack_refused hrow h
          have hwritten : (s.setRows r.collection rows).rows r.collection = rows := by
            rw [Store.rows_setRows, if_pos rfl]
          rw [hwritten] at hlost
          constructor
          · intro hsame hloses
            exact hloses.1 (hwritten.symm.trans (hsame r.collection))
          · intro hkeeps
            have hrows' : rows = s.rows r.collection := by
              by_contra hne
              exact hkeeps ⟨hne, hlost⟩
            rw [hrows']
            exact (Store.touched_setRows s r.collection).rows
      · cases hupsert

/-! ## Updates that keep the key -/

theorem equalsAny_str (t : String) : equalsAny [.str t] (.str t) = true := by
  simp [equalsAny, expand, Json.arr?, Json.equal, Json.compare]

/-- a field that equals a text holds a value that is no object -/
theorem exists_of_equalsAny_str {v : Option Json} {key : String} (h : equalsAny v.toList (.str key) = true) :
    ∃ w, v = some w ∧ w.isObj = false := by
  cases v with
  | none => simp [equalsAny, Json.isNull] at h
  | some w =>
    refine ⟨w, rfl, ?_⟩
    cases w with
    | obj fields => simp [equalsAny, expand, Json.arr?, Json.equal, Json.compare, Json.rank] at h
    | _ => rfl

theorem setFields_of_mutated? {values d e : Document} (h : mutated? (setting values) d = .ok (some e)) :
    setFields values d = (.ok true, e) :=
  applyMutation_set (applyMutation_of_mutated? h)

/-- a plain field of a row behind an update, which leaves it alone or sets it to a text -/
theorem find?_updated {values row : Document} {key : String} {v : Json} {change : Option Document}
    (hkey : Path.segments key = [key]) (hvalues : values.Ordered)
    (htext : ∀ w, Document.find? values key = some w → w.isStr = true) (hv : Document.find? row key = some v)
    (hobj : v.isObj = false) (h : mutated? (setting values) row = .ok change) :
    Document.find? (change.getD row) key = some ((Document.find? values key).getD v) := by
  cases change with
  | some row' =>
    refine find?_setFields hkey hvalues ?_ hv hobj (setFields_of_mutated? h)
    intro w hw
    have hstr := htext w hw
    cases w with
    | str t => rfl
    | _ => cases hstr
  | none =>
    obtain ⟨after, hrun⟩ := applyMutation_of_mutated?_none h
    cases hw : Document.find? values key with
    | none => exact hv
    | some w =>
      -- the text was there before
      have hsame := same_of_setFields hkey hv hobj (applyMutation_set hrun) hw
      have hstr := htext w hw
      cases w with
      | str t =>
        rw [Json.eq_str_of_same hsame] at hv
        exact hv
      | _ => cases hstr

/-- **Keys that are kept.** With a plain name for the key field, a row with the key has the key that the changes give
behind an update, if they leave the key alone or set it to a text. -/
theorem satisfies_newKey {r : Resource} {key : String} {changes row : Document} {change : Option Document}
    (hkey : Path.segments r.keyField = [r.keyField]) (hchanges : changes.Ordered)
    (htext : ∀ v, Document.find? changes r.keyField = some v → v.isStr = true)
    (hmatch : satisfies row (r.keyPredicate key) = .ok true) (h : mutated? (setting changes) row = .ok change) :
    satisfies (change.getD row) (r.keyPredicate (r.newKey changes key)) = .ok true := by
  rw [satisfies_keyPredicate, Document.resolve_of_plain hkey] at hmatch ⊢
  cases hfault : r.keyFault? with
  | some fault => simp [hfault] at hmatch
  | none =>
    simp only [hfault, Option.elim_none, Except.ok.injEq] at hmatch ⊢
    obtain ⟨v, hv, hobj⟩ := exists_of_equalsAny_str hmatch
    rw [find?_updated hkey hchanges htext hv hobj h, newKey]
    cases hnew : Document.find? changes r.keyField with
    | none =>
      -- the key is as it was
      rw [hv] at hmatch
      exact hmatch
    | some w =>
      have hstr := htext w hnew
      cases w with
      | str t => exact equalsAny_str t
      | _ => cases hstr

/-- so such changes are always read back -/
theorem not_losesKey {r : Resource} {s : Store} {key : String} {changes : Document}
    (hkey : Path.segments r.keyField = [r.keyField]) (hchanges : changes.Ordered)
    (htext : ∀ v, Document.find? changes r.keyField = some v → v.isStr = true) : ¬r.LosesKey s key changes := by
  rintro ⟨-, o, rows, hrows, hne, hlost⟩
  obtain ⟨row, -, row', hrow', hmatch, hchange⟩ := exists_of_changed hrows hne
  have hmiss := firstRow_eq_none_iff.1 hlost row' hrow'
  have hfound := satisfies_newKey hkey hchanges htext hmatch hchange
  rw [Option.getD_some, hmiss] at hfound
  cases hfound

/-! ## Refused requests -/

/-- a refused request leaves all rows as they were, unless it was an update that lost the key of its document -/
theorem rows_kept_iff {r : Resource} {config : Config} {call : ResourceCall} {s s' : Store} {e : Failure}
    (h : call.run r config s = (.error e, s')) :
    (∀ c, s'.rows c = s.rows c) ↔ ¬∃ key changes, call = .update key changes ∧ r.LosesKey s key changes := by
  cases call with
  | update key changes =>
    rw [rows_of_update_refused (Outcome.run_bind_pure_eq_error h)]
    simp
  | create d =>
    have hsame := state_of_create_refused (Outcome.run_bind_pure_eq_error h)
    simp [hsame]
  | deleteByKey key =>
    have hsame := state_of_deleteByKey_refused (Outcome.run_bind_pure_eq_error h)
    simp [hsame]
  | setField params values =>
    have hsame := rows_of_setField_refused (Outcome.run_bind_pure_eq_error h)
    simp [hsame]
  | renameField params field newField =>
    have hsame := rows_of_renameField_refused (Outcome.run_bind_pure_eq_error h)
    simp [hsame]
  | unsetField params field =>
    have hsame := rows_of_unsetField_refused (Outcome.run_bind_pure_eq_error h)
    simp [hsame]

/-- **Refused requests.** Whatever the store, the resource, the settings and the request: a refused request leaves all
rows as they were, unless it was an update that lost the key of its document. With a plain key field, no update loses
the key whose changes leave that field alone or set it to a text. -/
theorem rows_of_refusal {r : Resource} {config : Config} {call : ResourceCall} {s s' : Store} {e : Failure}
    (h : call.run r config s = (.error e, s')) :
    ((∀ c, s'.rows c = s.rows c) ↔ ¬∃ key changes, call = .update key changes ∧ r.LosesKey s key changes) ∧
      (Path.segments r.keyField = [r.keyField] →
        (∀ key changes, call = .update key changes →
          changes.Ordered ∧ ∀ v, Document.find? changes r.keyField = some v → v.isStr = true) →
        ∀ c, s'.rows c = s.rows c) := by
  refine ⟨rows_kept_iff h, fun hkey hchanges => (rows_kept_iff h).2 ?_⟩
  rintro ⟨key, changes, rfl, hlost⟩
  obtain ⟨hordered, htext⟩ := hchanges key changes rfl
  exact not_losesKey hkey hordered htext hlost

/-- a resource whose documents are known by their names -/
def things : Resource where
  collection := "things"
  name := "Thing"
  keyField := "name"

/-- the store of one thing with a name -/
def oneThing (name : Json) : Store :=
  Store.seed (.empty toString) "things" [[("_id", .str "1"), ("name", name), ("size", .nat 1)]]

/-- an update that loses the key, and one of a key that no thing has -/
theorem rows_of_refusal_number :
    let s := oneThing (.str "a")
    let call := ResourceCall.update "a" [("name", .nat 5)]
    let other := ResourceCall.update "b" [("name", .str "c")]
    call.run things {} s = (.error (.notFound "Thing" (some "a")), oneThing (.nat 5)) ∧
      ((∀ c, (oneThing (.nat 5)).rows c = s.rows c) ↔
        ¬∃ key changes, call = .update key changes ∧ things.LosesKey s key changes) ∧
      ∃ s', other.run things {} s = (.error (.notFound "Thing" (some "b")), s') ∧ ∀ c, s'.rows c = s.rows c := by
  intro s call other
  have h : call.run things {} s = (.error (.notFound "Thing" (some "a")), oneThing (.nat 5)) := by rfl
  have hother : ∃ s', other.run things {} s = (.error (.notFound "Thing" (some "b")), s') := ⟨_, rfl⟩
  obtain ⟨s', hother⟩ := hother
  refine ⟨h, (rows_of_refusal h).1, s', hother, (rows_of_refusal hother).2 rfl ?_⟩
  intro key changes hcall
  obtain ⟨rfl, rfl⟩ := ResourceCall.update.inj hcall
  refine ⟨by decide, ?_⟩
  rintro v ⟨⟩
  rfl

/-- a thing whose name is set to a number is written, and then not found -/
theorem update_loses_key :
    (ResourceCall.update "a" [("name", .nat 5)]).run things {} (oneThing (.str "a")) =
        (.error (.notFound "Thing" (some "a")), oneThing (.nat 5)) ∧
      (oneThing (.nat 5)).rows "things" ≠ (oneThing (.str "a")).rows "things" := by
  refine ⟨rfl, fun h => ?_⟩
  cases h

end Resource

end DocumentQuery
