/-
ROWS THAT A PREDICATE SELECTS. Every call on a store looks for its rows in a loop of its own: some stop at the first
row, some write the rows back, some drop them. Here all of them are tied to one selection, the rows that `find` gives:

- `firstRow_eq_head?`, `deleteRows_every`, `deleteRows_first`: reading and deleting;
- `updateRows_every`, `updateRows_first`: changing, each row from its own content before the call;
- `Store.calls_agree`: a predicate that `find` can judge selects the same rows for every call.
-/
import DocumentQuery.Proofs.Rendering
import DocumentQuery.Proofs.StoreCalls

namespace DocumentQuery

/-! ## Predicates with a verdict on every row -/

/-- a predicate that can be judged on every row -/
def JudgesAll (predicate : Document) (rows : List Document) : Prop :=
  ∀ row ∈ rows, satisfies row predicate = .ok (holds predicate row)

theorem judgesAll_of_selectRows {predicate : Document} {rows selected : List Document}
    (h : selectRows predicate rows = .ok selected) : JudgesAll predicate rows := by
  induction rows generalizing selected with
  | nil =>
    intro row hrow
    exact absurd hrow List.not_mem_nil
  | cons row rest ih =>
    obtain ⟨b, hb, h⟩ := Outcome.bind_eq_ok.1 h
    obtain ⟨more, hmore, -⟩ := Outcome.bind_eq_ok.1 h
    intro r hr
    rcases List.mem_cons.1 hr with rfl | hr
    · rw [hb, holds_of_ok hb]
    · exact ih hmore r hr

theorem JudgesAll.head {predicate row : Document} {rest : List Document} (h : JudgesAll predicate (row :: rest)) :
    satisfies row predicate = .ok (holds predicate row) :=
  h row List.mem_cons_self

theorem JudgesAll.tail {predicate row : Document} {rest : List Document} (h : JudgesAll predicate (row :: rest)) :
    JudgesAll predicate rest :=
  fun r hr => h r (List.mem_cons_of_mem _ hr)

/-! ## Reading -/

theorem firstRow_eq_head? {predicate : Document} {rows : List Document} (h : JudgesAll predicate rows) :
    firstRow predicate rows = .ok (rows.filter (holds predicate)).head? := by
  induction rows with
  | nil => rfl
  | cons row rest ih =>
    rw [firstRow, h.head, Outcome.ok_bind]
    cases hrow : holds predicate row with
    | true => simp [hrow]
    | false => simpa [hrow] using ih h.tail

/-! ## Deleting -/

section

variable {predicate row : Document} {rest : List Document} (many : Bool)

theorem deleteRows_cons_of_false (h : satisfies row predicate = .ok false) :
    deleteRows predicate many (row :: rest) = (deleteRows predicate many rest).map fun r => (r.1, row :: r.2) := by
  rw [deleteRows, h]
  cases deleteRows predicate many rest <;> rfl

/-- a row that matches is dropped, and the rows behind it are looked at only if all rows are to go -/
theorem deleteRows_cons_of_true (h : satisfies row predicate = .ok true) :
    deleteRows predicate many (row :: rest) =
      if many then (deleteRows predicate many rest).map fun r => (r.1 + 1, r.2) else .ok (1, rest) := by
  rw [deleteRows, h]
  cases many with
  | false => rfl
  | true => cases deleteRows predicate true rest <;> rfl

end

section

variable {predicate : Document} {rows : List Document} (h : JudgesAll predicate rows)
include h

/-- deleting every row that matches leaves the other rows in their order -/
theorem deleteRows_every :
    deleteRows predicate true rows =
      .ok ((rows.filter (holds predicate)).length, rows.filter fun row => !holds predicate row) := by
  induction rows with
  | nil => rfl
  | cons row rest ih =>
    have hrow := h.head
    cases hb : holds predicate row with
    | true =>
      rw [hb] at hrow
      rw [deleteRows_cons_of_true true hrow, ih h.tail]
      simp [Except.map, hb]
    | false =>
      rw [hb] at hrow
      rw [deleteRows_cons_of_false true hrow, ih h.tail]
      simp [Except.map, hb]

/-- deleting one row drops the first one that matches -/
theorem deleteRows_first :
    deleteRows predicate false rows =
      .ok (min 1 (rows.filter (holds predicate)).length, rows.eraseP (holds predicate)) := by
  induction rows with
  | nil => rfl
  | cons row rest ih =>
    have hrow := h.head
    cases hb : holds predicate row with
    | true =>
      rw [hb] at hrow
      rw [deleteRows_cons_of_true false hrow]
      simp [hb]
    | false =>
      rw [hb] at hrow
      rw [deleteRows_cons_of_false false hrow, ih h.tail]
      simp [Except.map, hb]

end

/-! ## Changing -/

/-- whether a mutation reports that it changed a row -/
def reportsChange (mutation row : Document) : Bool :=
  match applyMutation mutation row with
  | (.ok changed, _) => changed
  | (.error _, _) => false

/-- a row after a mutation of its own content; it stays as it was when no change is reported -/
def changedRow (mutation row : Document) : Document :=
  if reportsChange mutation row then (applyMutation mutation row).2 else row

/-- a mutation that applies to every row without a failure -/
def AppliesTo (mutation : Document) (rows : List Document) : Prop :=
  ∀ row ∈ rows, ∃ changed after, applyMutation mutation row = (.ok changed, after)

theorem mutated?_of_applies {mutation row : Document}
    (h : ∃ changed after, applyMutation mutation row = (.ok changed, after)) :
    ∃ change, mutated? mutation row = .ok change ∧ change.isSome = reportsChange mutation row ∧
      change.getD row = changedRow mutation row := by
  obtain ⟨changed, after, hrun⟩ := h
  have hrun' : (applyMutation mutation).run row = (.ok changed, after) := hrun
  cases changed with
  | true =>
    refine ⟨some after, ?_, ?_, ?_⟩
    · rw [mutated?, hrun']
    · simp [reportsChange, hrun]
    · simp [changedRow, reportsChange, hrun]
  | false =>
    refine ⟨none, ?_, ?_, ?_⟩
    · rw [mutated?, hrun']
    · simp [reportsChange, hrun]
    · simp [changedRow, reportsChange, hrun]

section

variable {predicate mutation : Document} {rows : List Document} (h : JudgesAll predicate rows)
include h

/-- updating every row that matches: each one from its own content, the others as they were, all in their places -/
theorem updateRows_every (hm : AppliesTo mutation (rows.filter (holds predicate))) :
    updateRows predicate mutation true rows =
      .ok (⟨(rows.filter (holds predicate)).length,
          (rows.filter (holds predicate)).countP (reportsChange mutation)⟩,
        rows.map fun row => if holds predicate row then changedRow mutation row else row) := by
  induction rows with
  | nil => rfl
  | cons row rest ih =>
    have hrow := h.head
    cases hb : holds predicate row with
    | true =>
      rw [hb] at hrow
      rw [List.filter_cons_of_pos hb] at hm ⊢
      obtain ⟨change, hchange, hreport, hrow'⟩ := mutated?_of_applies (hm row List.mem_cons_self)
      have hrest := ih h.tail fun r hr => hm r (List.mem_cons_of_mem _ hr)
      rw [updateRows_cons_of_true true hrow, hchange, if_pos rfl, hrest]
      simp only [Except.bind, Except.map, hreport, hrow', List.length_cons, List.countP_cons, List.map_cons, hb,
        if_true]
      cases reportsChange mutation row <;> rfl
    | false =>
      rw [hb] at hrow
      rw [List.filter_cons_of_neg (by simp [hb])] at hm ⊢
      rw [updateRows_cons_of_false true hrow, ih h.tail hm]
      simp [Except.map, hb]

/-- updating one row changes the first one that matches, in its place -/
theorem updateRows_first (hm : AppliesTo mutation ((rows.filter (holds predicate)).take 1)) :
    updateRows predicate mutation false rows =
      .ok (⟨min 1 (rows.filter (holds predicate)).length,
          ((rows.filter (holds predicate)).take 1).countP (reportsChange mutation)⟩,
        rows.modify (rows.findIdx (holds predicate)) (changedRow mutation)) := by
  induction rows with
  | nil => rfl
  | cons row rest ih =>
    have hrow := h.head
    cases hb : holds predicate row with
    | true =>
      rw [hb] at hrow
      rw [List.filter_cons_of_pos hb] at hm ⊢
      obtain ⟨change, hchange, hreport, hrow'⟩ := mutated?_of_applies (hm row (by simp))
      rw [updateRows_cons_of_true false hrow, hchange]
      simp only [Except.bind, hreport, hrow', List.findIdx_cons, hb]
      cases hc : reportsChange mutation row <;> simp [Except.map, hc]
    | false =>
      rw [hb] at hrow
      rw [List.filter_cons_of_neg (by simp [hb])] at hm ⊢
      rw [updateRows_cons_of_false false hrow, ih h.tail hm]
      simp [Except.map, List.findIdx_cons, hb]

end

theorem updateRows_of_false {predicate : Document} {rows : List Document}
    (h : ∀ row ∈ rows, satisfies row predicate = .ok false) (mutation : Document) (many : Bool) :
    updateRows predicate mutation many rows = .ok ({}, rows) := by
  have hrows : updateRows predicate mutation many (rows ++ []) =
      (updateRows predicate mutation many []).map fun r => (r.1, rows ++ r.2) := updateRows_append_of_false many h
  rw [List.append_nil] at hrows
  rw [hrows]
  simp [updateRows, Except.map]

theorem updateRows_none {predicate : Document} {rows : List Document} (h : JudgesAll predicate rows)
    (hnone : rows.filter (holds predicate) = []) (mutation : Document) (many : Bool) :
    updateRows predicate mutation many rows = .ok ({}, rows) := by
  refine updateRows_of_false (fun row hrow => ?_) mutation many
  have hholds := List.filter_eq_nil_iff.1 hnone row hrow
  rw [h row hrow, Bool.eq_false_of_not_eq_true hholds]

/-! ## Calls -/

namespace Store

/-- the rows of one collection were replaced, and those of every other one are as before -/
def Replaced (s : Store) (collection : String) (rows : List Document) (s' : Store) : Prop :=
  ∀ c, s'.rows c = if c = collection then rows else s.rows c

theorem replaced_self (s : Store) (collection : String) : s.Replaced collection (s.rows collection) s := by
  intro c
  split
  · next hc => rw [hc]
  · rfl

theorem Touched.replaced {s s' : Store} {collection : String} (h : s.Touched collection s') (c : String) :
    s.Replaced c (s.rows c) s' := by
  intro other
  rw [h.rows]
  exact replaced_self s c other

theorem Replaced.trans {s t u : Store} {collection : String} {rows rows' : List Document}
    (h : s.Replaced collection rows t) (h' : t.Replaced collection rows' u) : s.Replaced collection rows' u := by
  intro c
  rw [h' c]
  split
  · rfl
  · next hc => rw [h c, if_neg hc]

theorem Replaced.rows {s t : Store} {collection : String} {rows : List Document} (h : s.Replaced collection rows t) :
    t.rows collection = rows := by
  rw [h collection, if_pos rfl]

theorem replaced_setRows (s : Store) (collection : String) (rows : List Document) :
    s.Replaced collection rows (s.setRows collection rows) :=
  rows_setRows s collection rows

/-- a document is put behind the rows of its collection, with an identifier -/
theorem replaced_append (s : Store) (collection : String) (d : Document) :
    s.Replaced collection (s.rows collection ++ [(s.identify d).1]) (s.append collection d).2 := by
  have hsame : ∀ c, (s.identify d).2.rows c = s.rows c := by
    intro c
    unfold identify
    split <;> rfl
  intro c
  show ((s.identify d).2.setRows collection ((s.identify d).2.rows collection ++ [(s.identify d).1])).rows c = _
  rw [rows_setRows, hsame, hsame]

/-- an insertion behind rows that were written back as they are -/
theorem replaced_append_kept (s : Store) (collection : String) (d : Document) :
    s.Replaced collection (s.rows collection ++ [(s.identify d).1])
      ((s.setRows collection (s.rows collection)).append collection d).2 := by
  have hkept := (touched_setRows s collection).rows
  have hsame : ((s.setRows collection (s.rows collection)).identify d).1 = (s.identify d).1 := by
    unfold identify
    split <;> rfl
  intro c
  rw [replaced_append _ collection d c, hsame, hkept, hkept]

section

variable {s : Store} {collection : String} {predicate mutation : Document} {upsert many : Bool}

theorem delete_of_deleteRows {n : Nat} {rows : List Document}
    (h : deleteRows predicate many (s.rows collection) = .ok (n, rows)) (hnone : n = 0 → rows = s.rows collection) :
    ∃ s', delete collection predicate many s = (.ok n, s') ∧ s.Replaced collection rows s' := by
  unfold delete
  rw [h]
  by_cases hn : n = 0
  · refine ⟨s, by simp [hn], ?_⟩
    intro c
    rw [hnone hn]
    split
    · next hc => rw [hc]
    · rfl
  · exact ⟨s.setRows collection rows, by simp [hn], replaced_setRows s collection rows⟩

/-- an update that matches something, or may not insert, writes the updated rows back -/
theorem update_of_updateRows {o : UpdateOutcome} {rows : List Document}
    (h : updateRows predicate mutation many (s.rows collection) = .ok (o, rows))
    (hplain : ¬(o.matched = 0 ∧ upsert = true)) :
    ∃ s', update collection predicate mutation upsert many s = (.ok o, s') ∧ s.Replaced collection rows s' := by
  refine ⟨s.setRows collection rows, ?_, replaced_setRows s collection rows⟩
  unfold update
  rw [h]
  exact if_neg hplain

/-- an update that matches nothing and may insert puts the document that is made for it behind the rows -/
theorem update_inserts {d : Document}
    (h : updateRows predicate mutation many (s.rows collection) = .ok ({}, s.rows collection))
    (hd : upsertDocument predicate mutation = .ok d) :
    ∃ s', update collection predicate mutation true many s = (.ok ⟨0, 1⟩, s') ∧
      s.Replaced collection (s.rows collection ++ [(s.identify d).1]) s' :=
  ⟨_, by simp [update, h, hd], replaced_append_kept s collection d⟩

/-- an update that matched nothing: it failed and changed no row, or it put one document behind the rows -/
def InsertedAtMostOne (s : Store) (collection : String) (result : Except StoreError UpdateOutcome × Store) : Prop :=
  (∃ e, result.1 = .error e ∧ ∀ c, result.2.rows c = s.rows c) ∨
    ∃ d, result.1 = .ok ⟨0, 1⟩ ∧ s.Replaced collection (s.rows collection ++ [d]) result.2

theorem insertedAtMostOne_of_updateRows
    (h : updateRows predicate mutation many (s.rows collection) = .ok ({}, s.rows collection)) :
    s.InsertedAtMostOne collection (update collection predicate mutation true many s) := by
  cases hd : upsertDocument predicate mutation with
  | error e =>
    have hrun : update collection predicate mutation true many s =
        (.error e, s.setRows collection (s.rows collection)) := by
      simp [update, h, hd]
    rw [hrun]
    exact Or.inl ⟨e, rfl, (touched_setRows s collection).rows⟩
  | ok d =>
    obtain ⟨s', hrun, hreplaced⟩ := update_inserts h hd
    rw [hrun]
    exact Or.inr ⟨(s.identify d).1, rfl, hreplaced⟩

end

/-- **Calls agree on the rows of a predicate.** If `find` can judge a predicate on the rows of a collection, its result
is what every other call works on. Reading gives these rows or the first of them. Deleting leaves the other rows in
their order, or drops the first of them. Updating changes each of them, or the first, from its own content before the
call, counts them and the changes reported, and leaves all other rows in their places; where there is none of them it
may insert one document. The rows of all other collections are as before. -/
theorem calls_agree {s s₁ : Store} {collection : String} {predicate : Document} {selected : List Document}
    (h : DocumentStore.find collection predicate s = (.ok selected, s₁)) :
    selected = (s.rows collection).filter (holds predicate) ∧
    DocumentStore.aggregate collection [Document.single "$match" (.obj predicate)] s = (.ok selected, s) ∧
    DocumentStore.findOne collection predicate s = (.ok selected.head?, s) ∧
    (∃ t, DocumentStore.deleteMany collection predicate s = (.ok selected.length, t) ∧
      s.Replaced collection ((s.rows collection).filter fun row => !holds predicate row) t) ∧
    (∃ t, DocumentStore.deleteOne collection predicate s = (.ok (min 1 selected.length), t) ∧
      s.Replaced collection ((s.rows collection).eraseP (holds predicate)) t) ∧
    (∀ mutation upsert, AppliesTo mutation selected → selected ≠ [] ∨ upsert = false →
      (∃ t, DocumentStore.updateMany collection predicate mutation upsert s =
          (.ok ⟨selected.length, selected.countP (reportsChange mutation)⟩, t) ∧
        s.Replaced collection
          ((s.rows collection).map fun row => if holds predicate row then changedRow mutation row else row) t) ∧
      ∃ t, DocumentStore.updateOne collection predicate mutation upsert s =
          (.ok ⟨min 1 selected.length, (selected.take 1).countP (reportsChange mutation)⟩, t) ∧
        s.Replaced collection
          ((s.rows collection).modify ((s.rows collection).findIdx (holds predicate)) (changedRow mutation)) t) ∧
    (selected = [] → ∀ mutation,
      s.InsertedAtMostOne collection (DocumentStore.updateMany collection predicate mutation true s) ∧
      s.InsertedAtMostOne collection (DocumentStore.updateOne collection predicate mutation true s)) := by
  have hselect : selectRows predicate (s.rows collection) = .ok selected := congrArg Prod.fst h
  have hjudged := judgesAll_of_selectRows hselect
  have hsel := eq_filter_of_selectRows hselect
  refine ⟨hsel, ?_, ?_, ?_, ?_, ?_, ?_⟩
  · show (runPipeline (s.rows collection) [(Stage.select predicate).toDocument] (s.geoField? collection), s) = _
    rw [runPipeline, runFrom, run_select, hselect]
    rfl
  · show (firstRow predicate (s.rows collection), s) = _
    rw [firstRow_eq_head? hjudged, hsel]
  · rw [hsel]
    refine delete_of_deleteRows (deleteRows_every hjudged) ?_
    intro hnone
    refine List.filter_eq_self.2 ?_
    intro row hrow
    have hrow' := List.filter_eq_nil_iff.1 (List.length_eq_zero_iff.1 hnone) row hrow
    simpa using hrow'
  · rw [hsel]
    refine delete_of_deleteRows (deleteRows_first hjudged) ?_
    intro hnone
    have hempty : (s.rows collection).filter (holds predicate) = [] := List.length_eq_zero_iff.1 (by omega)
    exact List.eraseP_of_forall_not (List.filter_eq_nil_iff.1 hempty)
  · intro mutation upsert happlies hplain
    have hmatched : ∀ n, selected.length = n → ¬(min 1 n = 0 ∧ upsert = true) ∧ ¬(n = 0 ∧ upsert = true) := by
      intro n hn
      rcases hplain with hne | hup
      · have := List.length_pos_iff.2 hne
        exact ⟨fun hzero => by omega, fun hzero => by omega⟩
      · simp [hup]
    obtain ⟨hone, hmany⟩ := hmatched _ rfl
    rw [hsel] at happlies hone hmany ⊢
    have hfirst : AppliesTo mutation (((s.rows collection).filter (holds predicate)).take 1) :=
      fun row hrow => happlies row (List.mem_of_mem_take hrow)
    exact ⟨update_of_updateRows (updateRows_every hjudged happlies) hmany,
      update_of_updateRows (updateRows_first hjudged hfirst) hone⟩
  · intro hnone mutation
    rw [hsel] at hnone
    exact ⟨insertedAtMostOne_of_updateRows (updateRows_none hjudged hnone mutation true),
      insertedAtMostOne_of_updateRows (updateRows_none hjudged hnone mutation false)⟩

/-- three things, of which the first and the last have the size 1 -/
def threeThings : Store where
  collections := [("things", [[("_id", .str "1"), ("size", .nat 1)], [("_id", .str "2"), ("size", .nat 2)],
    [("_id", .str "3"), ("size", .nat 1)]])]
  identifiers := toString

/-- sizes of 1 become 4, and the second of the two rows is changed by what it held itself -/
theorem calls_agree_threeThings :
    let predicate : Document := [("size", .nat 1)]
    let mutation : Document := [("$set", .obj [("size", .nat 4)])]
    let selected : List Document := [[("_id", .str "1"), ("size", .nat 1)], [("_id", .str "3"), ("size", .nat 1)]]
    DocumentStore.find "things" predicate threeThings = (.ok selected, threeThings) ∧
      AppliesTo mutation selected ∧ selected ≠ [] ∧
      (∃ t, DocumentStore.updateMany "things" predicate mutation true threeThings = (.ok ⟨2, 2⟩, t) ∧
        t.rows "things" = [[("_id", .str "1"), ("size", .nat 4)], [("_id", .str "2"), ("size", .nat 2)],
          [("_id", .str "3"), ("size", .nat 4)]]) ∧
      ∃ t, DocumentStore.deleteOne "things" predicate threeThings = (.ok 1, t) ∧
        t.rows "things" = [[("_id", .str "2"), ("size", .nat 2)], [("_id", .str "3"), ("size", .nat 1)]] := by
  intro predicate mutation selected
  have hfind : DocumentStore.find "things" predicate threeThings = (.ok selected, threeThings) := by rfl
  have happlies : AppliesTo mutation selected := by
    intro row hrow
    rcases List.mem_pair.1 hrow with rfl | rfl
    · exact ⟨true, _, rfl⟩
    · exact ⟨true, _, rfl⟩
  have hne : selected ≠ [] := List.cons_ne_nil _ _
  obtain ⟨-, -, -, -, hdelete, hupdate, -⟩ := calls_agree hfind
  obtain ⟨⟨t, ht, hrows⟩, -⟩ := hupdate mutation true happlies (Or.inl hne)
  obtain ⟨t', ht', hrows'⟩ := hdelete
  exact ⟨hfind, happlies, hne, ⟨t, ht, hrows "things"⟩, ⟨t', ht', hrows' "things"⟩⟩

end Store

end DocumentQuery
