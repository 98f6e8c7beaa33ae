/-
DOCUMENTS MADE BY UPSERTS. When the documents that a request selects are to be changed and there are none, one is made:
from the equalities of its predicate, and from the values that are set. Only equalities that stand in the predicate by
themselves count for this. Those that are joined stand one level deeper, and the document is made without them.

- `EqualityRequest.verdict`: what the predicate of such a request says of a document;
- `EqualityRequest.made_iff`: whether the document that is made for it satisfies it;
- `EqualityRequest.settled_run`: if it does, then the request can be repeated, and there is still one document;
- `EqualityRequest.stray_run`: if joined equalities ask for some value, then every repetition makes one more;
- `Resource.upserted_iff`: which of the two a request comes to.
-/
import Mathlib.Logic.Function.Iterate
import DocumentQuery.Proofs.Combination
import DocumentQuery.Proofs.Equality
import DocumentQuery.Proofs.SelectedRows
import DocumentQuery.Proofs.SeparatePaths

namespace DocumentQuery

/-! ## Requests for values at paths -/

namespace FilterDescriptor

/-- a filter that asks for values at paths: for one by itself, or for all of some, joined -/
inductive Equalities : FilterDescriptor → List (String × Json) → Prop where
  | alone (path : String) (v : Json) : Equalities (.single (.equalTo path v)) [(path, v)]
  | joined (fields : List (String × Json)) :
      Equalities (.combined ⟨.and, fields.map fun f => .equalTo f.1 f.2⟩) fields

/-- the filter stands by itself -/
def isSingle : FilterDescriptor → Bool
  | single _ => true
  | combined _ => false

end FilterDescriptor

/-- a request for plain equalities, whose paths do not overlap those of the values to set -/
structure EqualityRequest (params : QueryParams) (config : Config) (descriptor : FilterDescriptor)
    (fields : List (String × Json)) (values p : Document) : Prop where
  asked : params.descriptor = .ok (some descriptor)
  shape : descriptor.Equalities fields
  accepted : params.predicate config = .ok p
  full : ∀ f ∈ fields, Path.Full f.1
  named : ∀ f ∈ fields, Text.isOperatorKey f.1 = false
  plain : ∀ f ∈ fields, f.2.obj?.any isOperatorObject = false
  apart : ∀ f ∈ fields, ∀ w ∈ values, ¬Path.Overlap f.1 w.1

/-- every path has its value in a document -/
def equalAt (fields : List (String × Json)) (d : Document) : Bool :=
  fields.all fun f => equalsAny (Document.resolve d f.1) f.2

/-! ## Their predicates -/

theorem SingleFilter.document?_equalTo {config : Config} {path : String} {v : Json} {fragment : Fragment}
    (h : (equalTo path v).compile config = .ok fragment) :
    (equalTo path v).document? config = some (Document.single path v) := by
  have hblank := not_blank_of_compile h
  have hcompile : (equalTo path v).compile config = .ok (.condition ⟨path, .equals v⟩) := by
    simp [compile, equalTo, Operator.isProximity, constraint, fieldPath, hblank]
  exact (parts_of_condition hcompile).1

/-- the predicate of an equality by itself -/
theorem compileFilter_alone {config : Config} {path : String} {v : Json} {filter : CompiledFilter}
    (h : compileFilter (some (.single (.equalTo path v))) config = .ok filter) :
    filter = .predicate (Document.single path v) := by
  obtain ⟨fragment, hfragment, rfl⟩ := Outcome.map_eq_ok.1 h
  have hdocument := SingleFilter.document?_equalTo hfragment
  rw [SingleFilter.document?, hfragment] at hdocument
  cases fragment with
  | condition c => exact congrArg CompiledFilter.predicate (Option.some.inj hdocument)
  | anchor a => cases hdocument

/-- the predicate of equalities that are joined -/
theorem compileFilter_joined {config : Config} {fields : List (String × Json)} {filter : CompiledFilter}
    (h : compileFilter (some (.combined ⟨.and, fields.map fun f => .equalTo f.1 f.2⟩)) config = .ok filter) :
    filter = .predicate (Combinator.and.combine (fields.map fun f => Document.single f.1 f.2)) := by
  have haccepted := (CombinedFilter.compile_eq_ok_iff.1 h).2.1
  have hflat : CombinedFilter.Flat ⟨.and, fields.map fun f => .equalTo f.1 f.2⟩ config := by
    refine CombinedFilter.flat_of_accepted (fun e he => ?_) haccepted
    obtain ⟨f, -, rfl⟩ := List.mem_map.1 he
    rfl
  have hdocuments : CombinedFilter.documents ⟨.and, fields.map fun f => .equalTo f.1 f.2⟩ config =
      fields.map fun f => Document.single f.1 f.2 := by
    rw [CombinedFilter.documents, List.filterMap_map, ← List.filterMap_eq_map]
    refine List.filterMap_congr fun f hf => ?_
    obtain ⟨fragment, hfragment⟩ := haccepted _ (List.mem_map_of_mem hf)
    exact SingleFilter.document?_equalTo hfragment
  have hcompile := hflat.compile
  rw [hdocuments] at hcompile
  exact Except.ok.inj (h.symm.trans hcompile)

section

variable {params : QueryParams} {config : Config} {descriptor : FilterDescriptor} {fields : List (String × Json)}
  {values p : Document}

theorem predicate_eq_ok (hasked : params.descriptor = .ok (some descriptor)) (h : params.predicate config = .ok p) :
    ∃ filter, compileFilter (some descriptor) config = .ok filter ∧ filter.toPredicate = .ok p := by
  obtain ⟨filter, hcompile, hp⟩ := Outcome.bind_eq_ok.1 h
  obtain ⟨found, hfound, hcompile⟩ := Outcome.bind_eq_ok.1 hcompile
  rw [hasked] at hfound
  cases hfound
  exact ⟨filter, hcompile, hp⟩

/-- the predicate is the equality by itself, or all of them under one operator -/
theorem EqualityRequest.predicate_cases (h : EqualityRequest params config descriptor fields values p) :
    (descriptor.isSingle = true ∧ ∃ path v, fields = [(path, v)] ∧ p = Document.single path v) ∨
      descriptor.isSingle = false ∧ p = Combinator.and.combine (fields.map fun f => Document.single f.1 f.2) := by
  obtain ⟨filter, hcompile, hp⟩ := predicate_eq_ok h.asked h.accepted
  cases h.shape with
  | alone path v =>
    rw [compileFilter_alone hcompile] at hp
    exact Or.inl ⟨rfl, path, v, rfl, (Except.ok.inj hp).symm⟩
  | joined =>
    rw [compileFilter_joined hcompile] at hp
    exact Or.inr ⟨rfl, (Except.ok.inj hp).symm⟩

theorem satisfiesEvery_fields {d : Document}
    (h : ∀ f ∈ fields, satisfies d (Document.single f.1 f.2) = .ok (equalsAny (Document.resolve d f.1) f.2)) :
    satisfiesEvery d ((fields.map fun f => Document.single f.1 f.2).map .obj) = .ok (equalAt fields d) := by
  induction fields with
  | nil => rfl
  | cons f rest ih =>
    obtain ⟨hfirst, hrest⟩ := List.forall_mem_cons.1 h
    rw [List.map_cons, List.map_cons, satisfiesEvery, satisfiesBranch, hfirst, ih hrest]
    cases hf : equalsAny (Document.resolve d f.1) f.2 <;> simp [equalAt, hf]

/-- **Verdicts on equalities.** On every document there is one: whether every path has its value. -/
theorem EqualityRequest.verdict (h : EqualityRequest params config descriptor fields values p) (d : Document) :
    satisfies d p = .ok (equalAt fields d) := by
  have hverdicts : ∀ f ∈ fields, satisfies d (Document.single f.1 f.2) =
      .ok (equalsAny (Document.resolve d f.1) f.2) := by
    intro f hf
    rw [satisfies_single, fieldVerdict_path (h.named f hf), meets_of_plain (h.plain f hf)]
  rcases h.predicate_cases with ⟨-, path, v, rfl, rfl⟩ | ⟨-, rfl⟩
  · have hverdict := hverdicts (path, v) List.mem_cons_self
    rw [hverdict]
    simp [equalAt]
  · by_cases hne : fields = []
    · subst hne
      rfl
    · have hdocuments : fields.map (fun f => Document.single f.1 f.2) ≠ [] := by simpa using hne
      rw [satisfies_combine d .and hdocuments]
      exact satisfiesEvery_fields hverdicts

theorem EqualityRequest.unselected (h : EqualityRequest params config descriptor fields values p) {d : Document}
    (hnot : satisfies d p ≠ .ok true) : satisfies d p = .ok false := by
  rw [h.verdict] at hnot ⊢
  simpa using hnot

/-! ## Documents made for them -/

/-- an equality that holds though nothing was written for it: it asks for null, or for the identifier of the document -/
def HoldsUnwritten (d : Document) (f : String × Json) : Prop :=
  if f.1 = "_id" then Document.find? d "_id" = some f.2 else f.2 = .null

/-- an identifier that is given to a document is seen at its own path only -/
theorem Store.resolve_identify {path : String} (hfull : Path.Full path) (s : Store) (d : Document) :
    Document.resolve (s.identify d).1 path =
      if path = "_id" ∧ Document.hasKey d "_id" = false then [.str (s.identifiers s.issued)]
      else Document.resolve d path := by
  unfold identify
  by_cases hkey : Document.hasKey d "_id" = true
  · simp [hkey]
  · obtain ⟨head, rest, hpath⟩ := Path.exists_segments path
    have hid : path = "_id" ↔ head = "_id" ∧ rest = [] := by
      rw [← List.cons.injEq, ← hpath, ← Path.segments_id]
      exact ⟨congrArg Path.segments, Path.segments_injective⟩
    have hnone : Document.find? d "_id" = none := Document.hasKey_eq_false_iff.1 (Bool.eq_false_iff.2 hkey)
    rw [if_neg hkey]
    dsimp only
    rw [Document.resolve_of_full hfull, Document.resolve_of_full hfull, hpath, Json.descend_obj, Json.descend_obj,
      Document.find?_insert]
    by_cases hhead : "_id" = head
    · subst hhead
      cases rest with
      | nil => simp [hid, hkey, Json.descend]
      | cons t below =>
        -- nothing is below a text
        simp [hid, hnone, Json.descend, Json.oneBelow]
    · simp [hid, hhead, Ne.symm hhead]

theorem equalsAny_str_iff {t : String} {v : Json} : equalsAny [.str t] v = true ↔ v = .str t := by
  constructor
  · intro h
    cases v with
    | str u =>
      have hequal : t = u := by simpa [equalsAny, expand, Json.arr?, Json.equal, Json.compare] using h
      rw [hequal]
    | _ => simp [equalsAny, expand, Json.arr?, Json.equal, Json.compare, Json.rank] at h
  · rintro rfl
    exact Resource.equalsAny_str t

/-- an equality on a path where nothing was written, before the document got its identifier -/
theorem equalsAny_unwritten {path : String} (hfull : Path.Full path) (s : Store) {d : Document} (v : Json)
    (hnone : Document.resolve d path = []) :
    equalsAny (Document.resolve (s.identify d).1 path) v = true ↔ HoldsUnwritten (s.identify d).1 (path, v) := by
  rw [Store.resolve_identify hfull, hnone, HoldsUnwritten]
  by_cases hid : path = "_id"
  · subst hid
    have hkey : Document.hasKey d "_id" = false := by
      rw [Document.resolve_of_plain Path.segments_id, Option.toList_eq_nil_iff] at hnone
      exact Document.hasKey_eq_false_iff.2 hnone
    have hgiven : Document.find? (s.identify d).1 "_id" = some (.str (s.identifiers s.issued)) := by
      simp [Store.identify, hkey]
    rw [if_pos ⟨rfl, hkey⟩, if_pos rfl, hgiven, equalsAny_str_iff, Option.some.injEq]
    exact eq_comm
  · cases v <;> simp [hid, equalsAny, Json.isNull]

/-- an equality that stands by itself is written into the document before anything is set -/
theorem seedOf_alone {path : String} {v : Json} {seed : Document} (hfull : Path.Full path)
    (hnamed : Text.isOperatorKey path = false) (hplain : v.obj?.any isOperatorObject = false)
    (h : seedOf (Document.single path v) = .ok seed) : Document.resolve seed path = [v] := by
  have hfilter : (Document.single path v).filter isPlainEquality = [(path, v)] := by
    simp [Document.single, isPlainEquality, hnamed, hplain]
  rw [seedOf, hfilter, setAll] at h
  split at h
  · next e hset =>
    cases h
    exact Document.resolve_setPath_self hfull hset
  · cases h

/-- equalities that are joined are not -/
theorem seedOf_combine (c : Combinator) (documents : List Document) : seedOf (c.combine documents) = .ok [] := by
  have htag : Text.isOperatorKey c.tag = true := by cases c <;> decide
  unfold seedOf Combinator.combine
  split
  · rfl
  · simp [Document.single, isPlainEquality, htag, setAll]

/-- **Documents made for equalities.** The document that is made for a request satisfies its predicate if there is only
one equality, which stands by itself; if they are joined, then only if they hold with nothing written for them. -/
theorem EqualityRequest.made_iff (h : EqualityRequest params config descriptor fields values p) {u : Document}
    (hu : upsertDocument p (Resource.setting values) = .ok u) (s : Store) :
    satisfies (s.identify u).1 p = .ok true ↔
      descriptor.isSingle = true ∨ ∀ f ∈ fields, HoldsUnwritten (s.identify u).1 f := by
  rw [h.verdict, Except.ok.injEq, equalAt]
  obtain ⟨seed, hseed, hset⟩ := Outcome.bind_eq_ok.1 hu
  have hkept : ∀ f ∈ fields, Document.resolve u f.1 = Document.resolve seed f.1 := by
    intro f hf
    exact resolve_setAll (h.full f hf) (h.apart f hf) hset
  rcases h.predicate_cases with ⟨hsingle, path, v, rfl, rfl⟩ | ⟨hjoined, rfl⟩
  · have hmem : (path, v) ∈ [(path, v)] := List.mem_cons_self
    have hfull : Path.Full path := h.full _ hmem
    have hseeded : Document.resolve seed path = [v] := seedOf_alone hfull (h.named _ hmem) (h.plain _ hmem) hseed
    have hvalue : Document.resolve u path = [v] := (hkept _ hmem).trans hseeded
    have hgiven : ¬(path = "_id" ∧ Document.hasKey u "_id" = false) := by
      rintro ⟨rfl, hnone⟩
      rw [Document.resolve_of_plain Path.segments_id] at hvalue
      rw [Document.hasKey_eq_false_iff.1 hnone] at hvalue
      cases hvalue
    have hmade : Document.resolve (s.identify u).1 path = [v] := by
      rw [Store.resolve_identify hfull, if_neg hgiven, hvalue]
    simp [hsingle, hmade, equalsAny, expand, Json.equal, Json.compare_self]
  · rw [seedOf_combine] at hseed
    cases hseed
    simp only [hjoined, Bool.false_eq_true, false_or, List.all_eq_true]
    refine forall₂_congr fun f hf => ?_
    have hnone : Document.resolve u f.1 = [] := (hkept f hf).trans (Document.resolve_nil f.1)
    exact equalsAny_unwritten (h.full f hf) s f.2 hnone

end

/-! ## Requests and their repetition -/

namespace Resource

section

variable {r : Resource} {config : Config} {params : QueryParams} {values p : Document}

/-- the store behind a request to set fields, whatever the answer -/
def behindSetField (r : Resource) (config : Config) (params : QueryParams) (values : Document) (s : Store) : Store :=
  (r.setField config params values s).2

theorem setField_eq (hvalues : values.isEmpty = false) (hp : params.predicate config = .ok p) (s : Store) :
    r.setField config params values s =
      r.updateField (", ".intercalate (values.map (·.1))) p (setting values) true s := by
  unfold setField
  rw [hvalues, hp]
  rfl

/-- an answer to a request to set fields comes from an update of the store -/
theorem setField_eq_ok {s s' : Store} {summary : UpdateSummary} (hp : params.predicate config = .ok p)
    (h : r.setField config params values s = (.ok summary, s')) :
    values.isEmpty = false ∧ Store.update r.collection p (setting values) true true s = (.ok summary.outcome, s') ∧
      summary.field = ", ".intercalate (values.map (·.1)) := by
  cases hvalues : values.isEmpty with
  | true =>
    unfold setField at h
    rw [hvalues] at h
    cases h
  | false =>
    rw [setField_eq hvalues hp] at h
    obtain ⟨o, t, hcall, h⟩ := Outcome.run_bind_eq_ok h
    unfold summarize at h
    split at h
    · cases h
    · cases h
      exact ⟨rfl, Operation.call_eq_ok hcall, rfl⟩

theorem setField_of_update {s s' : Store} {o : UpdateOutcome} (hvalues : values.isEmpty = false)
    (hp : params.predicate config = .ok p)
    (h : Store.update r.collection p (setting values) true true s = (.ok o, s')) (hsome : o.modified ≠ 0) :
    r.setField config params values s = (.ok ⟨", ".intercalate (values.map (·.1)), o⟩, s') := by
  have hcall : (Operation.call (DocumentStore.updateMany r.collection p (setting values) true) :
      Operation Store UpdateOutcome) s = (.ok o, s') := Operation.call_of_ok h
  rw [setField_eq hvalues hp, updateField, Outcome.run_bind_of_ok hcall, summarize, if_neg hsome]
  rfl

/-- the store behind a request is the one behind its update -/
theorem behindSetField_eq (hvalues : values.isEmpty = false) (hp : params.predicate config = .ok p) (s : Store) :
    r.behindSetField config params values s = (Store.update r.collection p (setting values) true true s).2 := by
  rw [behindSetField, setField_eq hvalues hp, updateField]
  rcases hrun : Store.update r.collection p (setting values) true true s with ⟨e | o, t⟩
  · have hcall : (Operation.call (DocumentStore.updateMany r.collection p (setting values) true) :
        Operation Store UpdateOutcome) s = (.error (.ofStore e), t) := Operation.call_of_error hrun
    rw [Outcome.run_bind_of_error hcall]
  · have hcall : (Operation.call (DocumentStore.updateMany r.collection p (setting values) true) :
        Operation Store UpdateOutcome) s = (.ok o, t) := Operation.call_of_ok hrun
    rw [Outcome.run_bind_of_ok hcall, summarize]
    split <;> rfl

end

end Resource

namespace EqualityRequest

open Resource

variable {params : QueryParams} {config : Config} {descriptor : FilterDescriptor} {fields : List (String × Json)}
  {values p : Document} {r : Resource}

/-- a request that selects one row, behind all others, leaves one there, and this one is selected again -/
theorem settled_step (h : EqualityRequest params config descriptor fields values p) (hvalues : values.isEmpty = false)
    {t : Store} {front : List Document} {d : Document} (hrows : t.rows r.collection = front ++ [d])
    (hfront : ∀ row ∈ front, satisfies row p = .ok false) (hd : satisfies d p = .ok true) :
    ∃ d', satisfies d' p = .ok true ∧
      t.Replaced r.collection (front ++ [d']) (r.behindSetField config params values t) := by
  rw [behindSetField_eq hvalues h.accepted]
  rcases hrun : Store.update r.collection p (setting values) true true t with ⟨e | o, t'⟩
  · -- the update fails, and the rows are as they were
    have hkept := (Store.update_eq_error hrun).replaced r.collection
    rw [hrows] at hkept
    exact ⟨d, hd, hkept⟩
  · obtain ⟨outcome, rows, hupdate, hcases⟩ := Store.update_eq_ok hrun
    rw [hrows, updateRows_append_of_false true hfront, updateRows_cons_of_true true hd] at hupdate
    obtain ⟨⟨o', below⟩, hbelow, hback⟩ := Outcome.map_eq_ok.1 hupdate
    obtain ⟨change, hchange, hbelow⟩ := Outcome.bind_eq_ok.1 hbelow
    cases hbelow
    cases hback
    rcases hcases with ⟨-, -, rfl⟩ | ⟨⟨hnone, -⟩, -⟩
    · refine ⟨change.getD d, ?_, Store.replaced_setRows t r.collection _⟩
      have hsame : ∀ f ∈ fields, Document.resolve (change.getD d) f.1 = Document.resolve d f.1 := by
        intro f hf
        exact resolve_mutated? (h.full f hf) (h.apart f hf) hchange
      rw [h.verdict, Except.ok.injEq, equalAt, List.all_eq_true] at hd ⊢
      intro f hf
      rw [hsame f hf]
      exact hd f hf
    · cases hnone

/-- **Settled requests.** However often a request is repeated that selects one row, behind all others: there is one. -/
theorem settled_run (h : EqualityRequest params config descriptor fields values p) (hvalues : values.isEmpty = false)
    {s : Store} {front : List Document} {d : Document} (hrows : s.rows r.collection = front ++ [d])
    (hfront : ∀ row ∈ front, satisfies row p = .ok false) (hd : satisfies d p = .ok true) (n : Nat) :
    ∃ d', satisfies d' p = .ok true ∧
      s.Replaced r.collection (front ++ [d']) ((r.behindSetField config params values)^[n] s) := by
  induction n with
  | zero =>
    refine ⟨d, hd, ?_⟩
    rw [← hrows]
    exact Store.replaced_self s r.collection
  | succ n ih =>
    obtain ⟨d', hd', hreplaced⟩ := ih
    obtain ⟨d'', hd'', hstep⟩ := h.settled_step hvalues hreplaced.rows hfront hd'
    rw [Function.iterate_succ_apply']
    exact ⟨d'', hd'', hreplaced.trans hstep⟩

/-- a request that selects no row makes a document, if one can be made -/
theorem makes (h : EqualityRequest params config descriptor fields values p) (hvalues : values.isEmpty = false)
    {t : Store} (hnone : ∀ row ∈ t.rows r.collection, satisfies row p = .ok false) {u : Document}
    (hu : upsertDocument p (setting values) = .ok u) :
    ∃ t', r.setField config params values t = (.ok ⟨", ".intercalate (values.map (·.1)), ⟨0, 1⟩⟩, t') ∧
      t.Replaced r.collection (t.rows r.collection ++ [(t.identify u).1]) t' := by
  obtain ⟨t', hrun, hreplaced⟩ := Store.update_inserts (updateRows_of_false hnone (setting values) true) hu
  exact ⟨t', setField_of_update hvalues h.accepted hrun Nat.one_ne_zero, hreplaced⟩

/-- a request that selects no row and has an answer has made a document -/
theorem made_of_setField (h : EqualityRequest params config descriptor fields values p) {s s' : Store}
    {summary : UpdateSummary} (hnone : ∀ row ∈ s.rows r.collection, satisfies row p = .ok false)
    (hset : r.setField config params values s = (.ok summary, s')) :
    values.isEmpty = false ∧ summary = ⟨", ".intercalate (values.map (·.1)), ⟨0, 1⟩⟩ ∧
      ∃ u, upsertDocument p (setting values) = .ok u ∧
        s.Replaced r.collection (s.rows r.collection ++ [(s.identify u).1]) s' := by
  obtain ⟨hvalues, hrun, hfield⟩ := setField_eq_ok h.accepted hset
  obtain ⟨outcome, rows, hupdate, hcases⟩ := Store.update_eq_ok hrun
  rw [updateRows_of_false hnone] at hupdate
  cases hupdate
  rcases hcases with ⟨hnot, -⟩ | ⟨-, u, hu, hone, rfl⟩
  · exact absurd ⟨rfl, rfl⟩ hnot
  · refine ⟨hvalues, ?_, u, hu, Store.replaced_append_kept s r.collection u⟩
    rw [← hfield, ← hone]

/-- a request for joined equalities that selects no row makes a document, which is not selected -/
theorem stray_step (h : EqualityRequest params config descriptor fields values p) (hvalues : values.isEmpty = false)
    (hjoined : descriptor.isSingle = false) {f : String × Json} (hf : f ∈ fields) (hid : f.1 ≠ "_id")
    (hvalue : f.2 ≠ .null) {t : Store} (hnone : ∀ row ∈ t.rows r.collection, satisfies row p = .ok false) {u : Document}
    (hu : upsertDocument p (setting values) = .ok u) :
    ∃ d, satisfies d p = .ok false ∧
      t.Replaced r.collection (t.rows r.collection ++ [d]) (r.behindSetField config params values t) := by
  obtain ⟨t', hrun, hreplaced⟩ := h.makes hvalues hnone hu
  have hbehind : r.behindSetField config params values t = t' := by rw [behindSetField, hrun]
  refine ⟨(t.identify u).1, h.unselected ?_, hbehind ▸ hreplaced⟩
  intro hmade
  rcases (h.made_iff hu t).1 hmade with hsingle | hunwritten
  · rw [hjoined] at hsingle
    cases hsingle
  · have hnull := hunwritten f hf
    rw [HoldsUnwritten, if_neg hid] at hnull
    exact hvalue hnull

/-- **Stray documents.** Joined equalities of which one asks for a value other than null, and not for the identifier:
every repetition makes one more document, and none of them is ever selected. -/
theorem stray_run (h : EqualityRequest params config descriptor fields values p) (hvalues : values.isEmpty = false)
    (hjoined : descriptor.isSingle = false) {f : String × Json} (hf : f ∈ fields) (hid : f.1 ≠ "_id")
    (hvalue : f.2 ≠ .null) {s : Store} (hnone : ∀ row ∈ s.rows r.collection, satisfies row p = .ok false) {u : Document}
    (hu : upsertDocument p (setting values) = .ok u) (n : Nat) :
    ∃ strays, strays.length = n ∧ (∀ d ∈ strays, satisfies d p = .ok false) ∧
      s.Replaced r.collection (s.rows r.collection ++ strays) ((r.behindSetField config params values)^[n] s) := by
  induction n with
  | zero =>
    refine ⟨[], rfl, by simp, ?_⟩
    rw [List.append_nil]
    exact Store.replaced_self s r.collection
  | succ n ih =>
    obtain ⟨strays, hlength, hstrays, hreplaced⟩ := ih
    have hrows := hreplaced.rows
    have hnone' : ∀ row ∈ ((r.behindSetField config params values)^[n] s).rows r.collection,
        satisfies row p = .ok false := by
      rw [hrows]
      exact List.forall_mem_append.2 ⟨hnone, hstrays⟩
    obtain ⟨d, hd, hstep⟩ := h.stray_step hvalues hjoined hf hid hvalue hnone' hu
    rw [hrows, List.append_assoc] at hstep
    rw [Function.iterate_succ_apply']
    have hlength' : (strays ++ [d]).length = n + 1 := by simp [hlength]
    have hstrays' : ∀ e ∈ strays ++ [d], satisfies e p = .ok false :=
      List.forall_mem_append.2 ⟨hstrays, List.forall_mem_singleton.2 hd⟩
    exact ⟨strays ++ [d], hlength', hstrays', hreplaced.trans hstep⟩

end EqualityRequest

namespace Resource

variable {params : QueryParams} {config : Config} {descriptor : FilterDescriptor} {fields : List (String × Json)}
  {values p : Document} {r : Resource}

/-- **Upserted documents.** A request for plain equalities that selects no row, and has an answer, puts one document
behind the rows. This document is selected if there is one equality by itself, or if the equalities hold with nothing
written for them. If it is selected, then repetitions of the request leave one document there, which is selected too.
If it is not, then the request has the same answer again, and makes another document; and so does every repetition if
the equalities are joined and one of them asks for a value other than null, and not for the identifier. -/
theorem upserted_iff {s s' : Store} {summary : UpdateSummary}
    (h : EqualityRequest params config descriptor fields values p)
    (hnone : ∀ row ∈ s.rows r.collection, satisfies row p ≠ .ok true)
    (hset : r.setField config params values s = (.ok summary, s')) :
    ∃ d, s.Replaced r.collection (s.rows r.collection ++ [d]) s' ∧
      (satisfies d p = .ok true ↔ descriptor.isSingle = true ∨ ∀ f ∈ fields, HoldsUnwritten d f) ∧
      (satisfies d p = .ok true → ∀ n, ∃ d', satisfies d' p = .ok true ∧
        s.Replaced r.collection (s.rows r.collection ++ [d']) ((r.behindSetField config params values)^[n] s')) ∧
      (satisfies d p ≠ .ok true → ∃ e s'', r.setField config params values s' = (.ok summary, s'') ∧
        s.Replaced r.collection (s.rows r.collection ++ [d, e]) s'') ∧
      (descriptor.isSingle = false → ∀ f ∈ fields, f.1 ≠ "_id" → f.2 ≠ .null → ∀ n, ∃ strays, strays.length = n ∧
        (∀ e ∈ strays, satisfies e p = .ok false) ∧
        s.Replaced r.collection (s.rows r.collection ++ strays) ((r.behindSetField config params values)^[n] s)) := by
  have hpassed : ∀ row ∈ s.rows r.collection, satisfies row p = .ok false := by
    intro row hrow
    exact h.unselected (hnone row hrow)
  obtain ⟨hvalues, rfl, u, hu, hreplaced⟩ := h.made_of_setField hpassed hset
  have hrows := hreplaced.rows
  refine ⟨(s.identify u).1, hreplaced, h.made_iff hu s, ?_, ?_, ?_⟩
  · intro hselected n
    obtain ⟨d', hd', hrun⟩ := h.settled_run hvalues hrows hpassed hselected n
    exact ⟨d', hd', hreplaced.trans hrun⟩
  · intro hnot
    have hnone' : ∀ row ∈ s'.rows r.collection, satisfies row p = .ok false := by
      rw [hrows]
      exact List.forall_mem_append.2 ⟨hpassed, List.forall_mem_singleton.2 (h.unselected hnot)⟩
    obtain ⟨s'', hrun, hstep⟩ := h.makes hvalues hnone' hu
    refine ⟨(s'.identify u).1, s'', hrun, ?_⟩
    rw [hrows, List.append_assoc] at hstep
    exact hreplaced.trans hstep
  · intro hjoined f hf hid hvalue n
    exact h.stray_run hvalues hjoined hf hid hvalue hpassed hu n

/-- things of one kind -/
def ofKind : QueryParams where
  filters := some { field := some (.path "meta.kind"), operator := some "eq", value := .str "b" }

theorem equalityRequest_ofKind :
    EqualityRequest ofKind {} (.single (.equalTo "meta.kind" (.str "b"))) [("meta.kind", .str "b")]
      [("meta.size", .nat 1)] [("meta.kind", .str "b")] where
  asked := rfl
  shape := .alone "meta.kind" (.str "b")
  accepted := rfl
  full := by decide
  named := by decide
  plain := by decide
  apart := by decide

/-- a thing is made of its kind and its size, and stays the only one -/
theorem upserted_iff_ofKind :
    let s := oneThing (.str "a")
    let p : Document := [("meta.kind", .str "b")]
    let values : Document := [("meta.size", .nat 1)]
    EqualityRequest ofKind {} (.single (.equalTo "meta.kind" (.str "b"))) [("meta.kind", .str "b")] values p ∧
      (∀ row ∈ s.rows "things", satisfies row p ≠ .ok true) ∧
      ∃ s', things.setField {} ofKind values s = (.ok ⟨"meta.size", ⟨0, 1⟩⟩, s') ∧
        ∀ n, ∃ d, satisfies d p = .ok true ∧
          s.Replaced "things" (s.rows "things" ++ [d]) ((things.behindSetField {} ofKind values)^[n] s') := by
  intro s p values
  have hnone : ∀ row ∈ s.rows "things", satisfies row p ≠ .ok true := by
    intro row hrow hselected
    rw [List.mem_singleton.1 hrow] at hselected
    cases hselected
  have hset : ∃ s', things.setField {} ofKind values s = (.ok ⟨"meta.size", ⟨0, 1⟩⟩, s') := ⟨_, rfl⟩
  obtain ⟨s', hset⟩ := hset
  obtain ⟨d, -, hmade, hsettled, -⟩ := upserted_iff equalityRequest_ofKind hnone hset
  have hselected : satisfies d p = .ok true := hmade.2 (Or.inl rfl)
  exact ⟨equalityRequest_ofKind, hnone, s', hset, hsettled hselected⟩

/-- things with a name and of a kind -/
def ofNameAndKind : QueryParams where
  filters := some {
    operator := some "and",
    elements := some [{ field := some (.path "name"), operator := some "eq", value := .str "a" },
      { field := some (.path "kind"), operator := some "eq", value := .str "b" }] }

theorem equalityRequest_ofNameAndKind :
    EqualityRequest ofNameAndKind {} (.combined ⟨.and, [.equalTo "name" (.str "a"), .equalTo "kind" (.str "b")]⟩)
      [("name", .str "a"), ("kind", .str "b")] [("size", .nat 1)]
      [("$and", .arr [.obj [("name", .str "a")], .obj [("kind", .str "b")]])] where
  asked := rfl
  shape := .joined [("name", .str "a"), ("kind", .str "b")]
  accepted := rfl
  full := by decide
  named := by decide
  plain := by decide
  apart := by decide

/-- a thing is made without its name and its kind, the same request makes another one, and so does every repetition -/
theorem upsert_makes_strays :
    let p : Document := [("$and", .arr [.obj [("name", .str "a")], .obj [("kind", .str "b")]])]
    let values : Document := [("size", .nat 1)]
    let d : Document := [("_id", .str "0"), ("size", .nat 1)]
    let e : Document := [("_id", .str "1"), ("size", .nat 1)]
    let s : Store := { Store.empty toString with collections := [("things", [d])], issued := 1 }
    let s' : Store := { Store.empty toString with collections := [("things", [d, e])], issued := 2 }
    EqualityRequest ofNameAndKind {} (.combined ⟨.and, [.equalTo "name" (.str "a"), .equalTo "kind" (.str "b")]⟩)
        [("name", .str "a"), ("kind", .str "b")] values p ∧
      ¬Path.Overlap "name" "kind" ∧
      things.setField {} ofNameAndKind values (.empty toString) = (.ok ⟨"size", ⟨0, 1⟩⟩, s) ∧
      satisfies d p = .ok false ∧
      things.setField {} ofNameAndKind values s = (.ok ⟨"size", ⟨0, 1⟩⟩, s') ∧
      ∀ n, ∃ strays, strays.length = n ∧ (∀ d ∈ strays, satisfies d p = .ok false) ∧
        ((things.behindSetField {} ofNameAndKind values)^[n] (.empty toString)).rows "things" = strays := by
  refine ⟨equalityRequest_ofNameAndKind, by decide, rfl, rfl, rfl, fun n => ?_⟩
  obtain ⟨strays, hlength, hstrays, hreplaced⟩ :=
    equalityRequest_ofNameAndKind.stray_run (r := things) (s := .empty toString) (f := ("name", .str "a")) rfl rfl
      List.mem_cons_self (by decide) nofun (List.forall_mem_nil _) rfl n
  exact ⟨strays, hlength, hstrays, hreplaced.rows⟩

end Resource

end DocumentQuery
