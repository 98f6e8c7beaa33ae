/-
IDENTIFIERS OF ROWS. Every document gets an identifier on its way into a store. Afterwards mutations may rewrite it, and
nothing but a mutation can take its identifier away:

- `unset_takes_identifier`: one that unsets `_id` does;
- `identified_call`: a call keeps the identifiers of a collection unless its mutation does not;
- `hasKey_id_of_calls`: so does every run of calls that starts from an empty store.
-/
import DocumentQuery.Proofs.KeptFields
import DocumentQuery.Proofs.SelectedRows

namespace DocumentQuery

/-! ## Rows after a call -/

/-- every row after an update is a row from before it, or what the mutation made of one -/
theorem mem_of_updateRows {predicate mutation : Document} {many : Bool} {rows after : List Document} {o : UpdateOutcome}
    (h : updateRows predicate mutation many rows = .ok (o, after)) :
    ∀ row ∈ after, row ∈ rows ∨ ∃ r ∈ rows, mutated? mutation r = .ok (some row) := by
  induction rows generalizing o after with
  | nil =>
    cases h
    intro row hrow
    exact Or.inl hrow
  | cons first rest ih =>
    have behind : ∀ {o' below}, updateRows predicate mutation many rest = .ok (o', below) → ∀ row ∈ below,
        row ∈ first :: rest ∨ ∃ r ∈ first :: rest, mutated? mutation r = .ok (some row) := by
      intro o' below hbelow row hrow
      rcases ih hbelow row hrow with hmem | ⟨r, hr, hmut⟩
      · exact Or.inl (List.mem_cons_of_mem _ hmem)
      · exact Or.inr ⟨r, List.mem_cons_of_mem _ hr, hmut⟩
    intro row hrow
    rcases updateRows_cons_eq_ok h with ⟨-, below, hbelow, rfl⟩ | ⟨-, change, o', below, hchange, hbelow, -, rfl⟩
    · rcases List.mem_cons.1 hrow with rfl | hrow
      · exact Or.inl List.mem_cons_self
      · exact behind hbelow row hrow
    · rcases List.mem_cons.1 hrow with rfl | hrow
      · cases change with
        | none => exact Or.inl List.mem_cons_self
        | some changed => exact Or.inr ⟨first, List.mem_cons_self, hchange⟩
      · cases many with
        | true => exact behind hbelow row hrow
        | false =>
          cases hbelow
          exact Or.inl (List.mem_cons_of_mem _ hrow)

/-- a deletion only leaves rows out -/
theorem sublist_of_deleteRows {predicate : Document} {many : Bool} {rows after : List Document} {n : Nat}
    (h : deleteRows predicate many rows = .ok (n, after)) : after.Sublist rows := by
  induction rows generalizing n after with
  | nil =>
    cases h
    exact List.Sublist.refl _
  | cons row rest ih =>
    cases hrow : satisfies row predicate with
    | error e =>
      rw [deleteRows, hrow] at h
      cases h
    | ok ok =>
      cases ok with
      | false =>
        rw [deleteRows_cons_of_false many hrow] at h
        obtain ⟨⟨m, below⟩, hbelow, h⟩ := Outcome.map_eq_ok.1 h
        cases h
        exact (ih hbelow).cons_cons row
      | true =>
        rw [deleteRows_cons_of_true many hrow] at h
        cases many with
        | false =>
          cases h
          exact List.sublist_cons_self row rest
        | true =>
          obtain ⟨⟨m, below⟩, hbelow, h⟩ := Outcome.map_eq_ok.1 h
          cases h
          exact (ih hbelow).cons row

namespace Store

/-! ## Single calls -/

/-- every row of a collection has an identifier -/
def Identified (s : Store) (collection : String) : Prop :=
  ∀ row ∈ s.rows collection, Document.hasKey row "_id" = true

theorem hasKey_identify (s : Store) (d : Document) : Document.hasKey (s.identify d).1 "_id" = true := by
  unfold identify
  split
  · next h => exact h
  · rw [Document.hasKey_insert, beq_self_eq_true, Bool.true_or]

theorem Identified.append {s : Store} {c : String} (h : s.Identified c) (collection : String) (d : Document) :
    (s.append collection d).2.Identified c := by
  intro row hrow
  rw [replaced_append s collection d c] at hrow
  split at hrow
  · next hc =>
    rcases List.mem_append.1 hrow with hrow | hrow
    · exact h row (hc ▸ hrow)
    · rw [List.mem_singleton.1 hrow]
      exact hasKey_identify s d
  · exact h row hrow

theorem Identified.seed {s : Store} {c : String} (h : s.Identified c) (collection : String)
    (documents : List Document) : (s.seed collection documents).Identified c := by
  have main : ∀ t : Store, t.Identified c →
      (documents.foldl (fun t d => (t.append collection d).2) t).Identified c := by
    induction documents with
    | nil => exact fun t ht => ht
    | cons d rest ih => exact fun t ht => ih _ (ht.append collection d)
  apply main
  intro row hrow
  rw [(touched_setRows s collection).rows c] at hrow
  exact h row hrow

theorem Identified.setRows {s : Store} {c collection : String} (h : s.Identified c) {rows : List Document}
    (hrows : c = collection → ∀ row ∈ rows, Document.hasKey row "_id" = true) :
    (s.setRows collection rows).Identified c := by
  intro row hrow
  rw [rows_setRows] at hrow
  split at hrow
  · next hc => exact hrows hc row hrow
  · exact h row hrow

/-- an update of another collection, or with a mutation that keeps identifiers -/
theorem Identified.update {s : Store} {c collection : String} (h : s.Identified c) {predicate mutation : Document}
    {upsert many : Bool} (hkeeps : c = collection → keepsField "_id" mutation = true) :
    (update collection predicate mutation upsert many s).2.Identified c := by
  rcases hrun : Store.update collection predicate mutation upsert many s with ⟨e | o, s'⟩
  · have hrows := (update_eq_error hrun).rows c
    intro row hrow
    exact h row (hrows ▸ hrow)
  · obtain ⟨outcome, rows, hrows, hcase⟩ := update_eq_ok hrun
    have hset : (s.setRows collection rows).Identified c := by
      refine h.setRows ?_
      intro hc row hrow
      subst hc
      rcases mem_of_updateRows hrows row hrow with hmem | ⟨r, hr, hmut⟩
      · exact h row hmem
      · exact hasKey_of_keeps Path.segments_id (hkeeps rfl) (applyMutation_of_mutated? hmut) (h r hr)
    rcases hcase with ⟨-, -, rfl⟩ | ⟨-, d, -, -, rfl⟩
    · exact hset
    · exact hset.append collection d

theorem Identified.delete {s : Store} {c : String} (h : s.Identified c) (collection : String) (predicate : Document)
    (many : Bool) : (delete collection predicate many s).2.Identified c := by
  unfold Store.delete
  split
  · exact h
  · next n rows hrows =>
    dsimp only
    split
    · exact h
    · refine h.setRows ?_
      intro hc row hrow
      exact h row (hc ▸ (sublist_of_deleteRows hrows).subset hrow)

end Store

namespace StoreCall

/-- whether a call leaves every identifier where it is: only mutations can take one -/
def keepsIdentifiers : StoreCall → Bool
  | updateOne _ _ mutation _ => keepsField "_id" mutation
  | updateMany _ _ mutation _ => keepsField "_id" mutation
  | _ => true

/-- **One call.** A call leaves every row of a collection with an identifier, unless its mutation takes identifiers from
the rows of just this collection. -/
theorem identified_call {s : Store} {c : String} (h : s.Identified c) {call : StoreCall}
    (hkeeps : c = call.collection → call.keepsIdentifiers = true) : (call.run s).2.Identified c := by
  cases call with
  | seed collection documents => exact h.seed collection documents
  | insertOne collection d =>
    show (run (insertOne collection d) s).2.Identified c
    unfold run
    rw [Outcome.run_bind_pure_snd]
    exact h.append collection d
  | updateOne collection predicate mutation upsert =>
    unfold run
    rw [Outcome.run_bind_pure_snd]
    exact h.update hkeeps
  | updateMany collection predicate mutation upsert =>
    unfold run
    rw [Outcome.run_bind_pure_snd]
    exact h.update hkeeps
  | deleteOne collection predicate =>
    unfold run
    rw [Outcome.run_bind_pure_snd]
    exact h.delete collection predicate false
  | deleteMany collection predicate =>
    unfold run
    rw [Outcome.run_bind_pure_snd]
    exact h.delete collection predicate true

/-! ## Runs of calls -/

/-- the store after some calls, whatever their results -/
def runAll (calls : List StoreCall) (s : Store) : Store := calls.foldl (fun s call => (call.run s).2) s

theorem identified_runAll {calls : List StoreCall} {s : Store} {c : String} (h : s.Identified c)
    (hkeeps : ∀ call ∈ calls, c = call.collection → call.keepsIdentifiers = true) :
    (runAll calls s).Identified c := by
  induction calls generalizing s with
  | nil => exact h
  | cons call rest ih =>
    have hnext : (call.run s).2.Identified c := identified_call h (hkeeps call List.mem_cons_self)
    exact ih hnext fun later hlater => hkeeps later (List.mem_cons_of_mem _ hlater)

/-- **Identifiers of stored rows.** After any calls on an empty store, whatever its supply of identifiers and the
arguments and results of the calls, every row of a collection has an identifier, as long as no update of this
collection has a mutation that takes it: one that unsets `_id`, or renames it to a path that begins elsewhere, and
does not write it again in a later step. -/
theorem hasKey_id_of_calls {calls : List StoreCall} {collection : String} (identifiers : Nat → String)
    (hkeeps : ∀ call ∈ calls, collection = call.collection → call.keepsIdentifiers = true) :
    ∀ row ∈ (runAll calls (.empty identifiers)).rows collection, Document.hasKey row "_id" = true := by
  refine identified_runAll ?_ hkeeps
  intro row hrow
  exact absurd hrow List.not_mem_nil

/-- a thing without an identifier, one more by an update that finds none, and a new identifier for both -/
def renewal : List StoreCall :=
  [seed "things" [[("name", .str "a")]],
    updateOne "things" [("name", .str "b")] [("$set", .obj [("size", .nat 1)])] true,
    updateMany "things" [] [("$rename", .obj [("_id", .str "old")]), ("$set", .obj [("_id", .nat 7)])] false,
    deleteOne "things" [("name", .str "a")]]

theorem hasKey_id_of_calls_renewal :
    (∀ call ∈ renewal, "things" = call.collection → call.keepsIdentifiers = true) ∧
      (runAll renewal (.empty toString)).rows "things" =
        [[("_id", .nat 7), ("name", .str "b"), ("old", .str "1"), ("size", .nat 1)]] ∧
      ∀ row ∈ (runAll renewal (.empty toString)).rows "things", Document.hasKey row "_id" = true := by
  have hkeeps : ∀ call ∈ renewal, "things" = call.collection → call.keepsIdentifiers = true := by
    decide
  exact ⟨hkeeps, rfl, hasKey_id_of_calls toString hkeeps⟩

/-- a mutation may unset `_id` like any other field, and then the row has no identifier -/
theorem unset_takes_identifier :
    let calls := [seed "things" [[("_id", .str "1"), ("name", .str "a")]],
      updateMany "things" [] [("$unset", .obj [("_id", .str "")])] false]
    (runAll calls (.empty toString)).rows "things" = [[("name", .str "a")]] ∧
      ¬∀ row ∈ (runAll calls (.empty toString)).rows "things", Document.hasKey row "_id" = true := by
  intro calls
  have hrows : (runAll calls (.empty toString)).rows "things" = [[("name", .str "a")]] := by rfl
  refine ⟨hrows, ?_⟩
  rw [hrows]
  intro hall
  exact absurd (hall _ List.mem_cons_self) (by decide)

end StoreCall

end DocumentQuery
