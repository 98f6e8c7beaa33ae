/-
COMPILED FILTERS ON DOCUMENTS. What the compiler accepts is not always something that a store can judge: a value to be
equal to, or the operand of a negation, goes into the predicate as it is, operators and all, and so does a field that is
written like an operator. Everything else that is accepted has a verdict on every document.

- `CombinedFilter.query_of_compile`: a combined filter joins the predicates of its elements, with an anchor or without;
- `SingleFilter.Stalls`, `FilterDescriptor.Stalls`: the accepted filters that a store cannot judge, by document;
- `FilterDescriptor.Plain`: filters without such operators in their values and fields, which never stall;
- `judged_compiled`: whatever does not stall, and only that, has a verdict.
-/
import DocumentQuery.Proofs.Anchors
import DocumentQuery.Proofs.EscapedText
import DocumentQuery.Proofs.Judgement

namespace DocumentQuery

/-! ## Single filters -/

namespace SingleFilter

/-- what a compiled condition is made of -/
theorem compile_eq_condition {f : SingleFilter} {config : Config} {c : FieldCondition}
    (h : f.compile config = .ok (.condition c)) :
    f.operator.isProximity = false ∧ f.constraint config = .ok c.constraint ∧ f.field = .path c.field := by
  unfold compile at h
  split at h
  · obtain ⟨a, -, h⟩ := Outcome.bind_eq_ok.1 h
    cases h
  · next hprox =>
    obtain ⟨constraint, hconstraint, h⟩ := Outcome.bind_eq_ok.1 h
    obtain ⟨field, hfield, h⟩ := Outcome.bind_eq_ok.1 h
    cases h
    refine ⟨by simpa using hprox, hconstraint, ?_⟩
    unfold fieldPath at hfield
    split at hfield
    · next p hp =>
      split at hfield
      · cases hfield
      · cases hfield
        exact hp
    · cases hfield

/-- an anchor comes from a filter on coordinates, and has no conditions yet -/
theorem compile_eq_anchor {f : SingleFilter} {config : Config} {a : ProximityAnchor}
    (h : f.compile config = .ok (.anchor a)) : (∃ numbers, f.field = .coordinates numbers) ∧ a.query = [] := by
  unfold compile at h
  split at h
  · obtain ⟨b, hb, h⟩ := Outcome.bind_eq_ok.1 h
    cases h
    unfold compileNear at hb
    split at hb
    · cases hb
    · next lng lat hpoint =>
      split at hb
      · cases hb
      · cases hb
        unfold point? at hpoint
        split at hpoint
        · next hfield => exact ⟨⟨_, hfield⟩, rfl⟩
        · cases hpoint
  · obtain ⟨constraint, -, h⟩ := Outcome.bind_eq_ok.1 h
    obtain ⟨field, -, h⟩ := Outcome.bind_eq_ok.1 h
    cases h

/-- an accepted filter that a store cannot judge on a document -/
def Stalls (f : SingleFilter) (d : Document) : Prop :=
  match f.field with
  | .coordinates _ => False
  | .path p =>
    match Combinator.ofKey? p with
    -- the field joins predicates, and only a value to be equal to can be an array of them
    | some c => f.operator ≠ .equals ∨ (branchFault? f.value).isSome = true ∨ JoinedStall d c.goesOn f.value
    | none =>
      Text.isOperatorKey p = true ∨
        match f.operator with
        | .equals => ConditionStalls (Document.resolve d p) f.value
        | .negate => ConditionStalls (Document.resolve d p) f.value
        | .contains => ∃ t, searchText? f.value = some t ∧ (Pattern.containing t.toList).fits = false
        | _ => False

/-- a condition with one operator stalls as the operator does -/
theorem conditionStalls_single {values : List Json} {key : String} {operand : Json}
    (hkey : Text.isOperatorKey key = true) :
    ConditionStalls values (.obj [(key, operand)]) ↔
      if key = "$not" then ConditionStalls values operand
      else (ConditionOperator.ofKey? key).all (·.refuses operand [(key, operand)]) = true := by
  simp [ConditionStalls, OperatorsStall, isOperatorObject, hkey]

theorem isOperatorKey_tag (op : Operator) : Text.isOperatorKey op.tag = true := by
  cases op <;> decide

/-- a comparison stalls if its operator cannot use the value -/
theorem conditionStalls_compare (values : List Json) {op : Operator} {known : ConditionOperator} (v : Json)
    (hknown : ConditionOperator.ofKey? op.tag = some known) (hnot : op.tag ≠ "$not") :
    ConditionStalls values (Constraint.compare op v).toJson ↔ known.refuses v [(op.tag, v)] = true := by
  rw [Constraint.toJson, conditionStalls_single (isOperatorKey_tag op), if_neg hnot, hknown]
  rfl

/-- a comparison is judged as its operator is -/
theorem meets_compare (values : List Json) {op : Operator} {known : ConditionOperator} (v : Json)
    (hknown : ConditionOperator.ofKey? op.tag = some known) (hnot : op.tag ≠ "$not") :
    meets values (Constraint.compare op v).toJson = known.holds values v [(op.tag, v)] := by
  have hsingle := meets_single values v (isOperatorKey_tag op)
  rw [operatorVerdict, if_neg hnot, hknown] at hsingle
  exact hsingle

/-- a negation stalls if what it negates does -/
theorem conditionStalls_negate (values : List Json) (v : Json) :
    ConditionStalls values (Constraint.compare .negate v).toJson ↔ ConditionStalls values v := by
  rw [Constraint.toJson, conditionStalls_single (isOperatorKey_tag .negate)]
  exact iff_of_eq (if_pos rfl)

/-- a search for a pattern is judged as the pattern is; the options beside it hold by themselves -/
theorem meets_pattern (values : List Json) (text : String) :
    meets values (Constraint.pattern text true).toJson = matchesPattern values (.str text) "i" := by
  let siblings : Document := [("$options", .str "i"), ("$regex", .str text)]
  have hobject : isOperatorObject siblings = true := by
    have hfirst : Text.isOperatorKey "$options" = true := by decide
    have hsecond : Text.isOperatorKey "$regex" = true := by decide
    simp [siblings, isOperatorObject, hfirst, hsecond]
  have hoptions : operatorVerdict values siblings "$options" (.str "i") = .ok true := rfl
  have hregex : operatorVerdict values siblings "$regex" (.str text) = matchesPattern values (.str text) "i" := rfl
  have hall : meets values (Constraint.pattern text true).toJson = meetsAll values siblings siblings := if_pos hobject
  rw [hall, meetsAll_cons, hoptions]
  show meetsAll values siblings [("$regex", .str text)] = _
  rw [meetsAll_cons, hregex]
  cases matchesPattern values (.str text) "i" with
  | error e => rfl
  | ok b => cases b <;> rfl

/-- a search for a pattern stalls if the pattern is refused -/
theorem conditionStalls_pattern (values : List Json) (pattern : String) :
    ConditionStalls values (Constraint.pattern pattern true).toJson ↔
      Pattern.read? Pattern.caseless pattern = none := by
  rw [← not_iff_not, ← judged_meets, meets_pattern, matchesPattern]
  cases Pattern.read? (Flags.ofOptions "i") pattern <;> simp

/-- a condition that searches for a text stalls if the pattern is too large -/
theorem conditionStalls_containing (values : List Json) (text : String) :
    ConditionStalls values (Constraint.pattern (".*" ++ Pattern.escape text ++ ".*") true).toJson ↔
      (Pattern.containing text.toList).fits = false := by
  rw [conditionStalls_pattern, Pattern.read?_containing]
  split <;> simp_all

/-- the condition on a path stalls exactly if the filter does -/
theorem conditionStalls_constraint {f : SingleFilter} {config : Config} {c : Constraint}
    (hmode : config.containsMode = .literal) (hprox : f.operator.isProximity = false)
    (h : f.constraint config = .ok c) (values : List Json) :
    ConditionStalls values c.toJson ↔
      match f.operator with
      | .equals => ConditionStalls values f.value
      | .negate => ConditionStalls values f.value
      | .contains => ∃ t, searchText? f.value = some t ∧ (Pattern.containing t.toList).fits = false
      | _ => False := by
  unfold constraint at h
  cases hop : f.operator with
  | near => simp [hop, Operator.isProximity] at hprox
  | equals =>
    rw [hop] at h
    cases h
    exact Iff.rfl
  | contains =>
    rw [hop] at h
    dsimp only at h
    rw [hmode, containsPattern?] at h
    cases htext : searchText? f.value with
    | none =>
      rw [htext] at h
      cases h
    | some text =>
      rw [htext] at h
      cases h
      rw [conditionStalls_containing]
      simp
  | oneOf | noneOf =>
    rw [hop] at h
    dsimp only at h
    split at h
    · next harr =>
      cases h
      rw [conditionStalls_compare values f.value rfl (by decide)]
      simp [ConditionOperator.refuses, harr]
    · cases h
  | negate =>
    rw [hop] at h
    dsimp only at h
    split at h
    · split at h
      · cases h
        exact conditionStalls_negate values f.value
      · cases h
    · cases h
  | notEquals | greater | greaterOrEqual | less | lessOrEqual =>
    rw [hop] at h
    cases h
    rw [conditionStalls_compare values f.value rfl (by decide)]
    simp [ConditionOperator.refuses]

/-- every constraint but equality is written as an object -/
theorem constraint_object {f : SingleFilter} {config : Config} {c : Constraint} (h : f.constraint config = .ok c)
    (hne : f.operator ≠ .equals) : ∃ fields, c.toJson = .obj fields := by
  have hpattern : ∀ text, ∃ fields, (Constraint.pattern text true).toJson = .obj fields := fun text => ⟨_, rfl⟩
  have hcompare : ∃ fields, (Constraint.compare f.operator f.value).toJson = .obj fields := ⟨_, rfl⟩
  unfold constraint at h
  split at h
  · next hequals => exact absurd hequals hne
  · split at h
    · next text _ =>
      cases h
      exact hpattern text
    · cases h
  · split at h
    · cases h
      exact hcompare
    · cases h
  · split at h
    · cases h
      exact hcompare
    · cases h
  · split at h
    · split at h
      · cases h
        exact hcompare
      · cases h
    · cases h
  · cases h
    exact hcompare

/-- the predicate of an accepted filter stalls exactly if the filter does -/
theorem predicateStalls_condition {f : SingleFilter} {config : Config} {c : FieldCondition}
    (hmode : config.containsMode = .literal) (h : f.compile config = .ok (.condition c)) (d : Document) :
    PredicateStalls d c.toDocument ↔ f.Stalls d := by
  obtain ⟨hprox, hconstraint, hfield⟩ := compile_eq_condition h
  have hstalls := conditionStalls_constraint hmode hprox hconstraint (Document.resolve d c.field)
  unfold Stalls
  rw [hfield]
  simp only [FieldCondition.toDocument, Document.single, PredicateStalls, and_false, or_false]
  cases hc : Combinator.ofKey? c.field with
  | none =>
    dsimp only
    rw [hstalls]
  | some combinator =>
    dsimp only
    by_cases heq : f.operator = .equals
    · have hvalue : c.constraint = .equals f.value := by
        unfold constraint at hconstraint
        rw [heq] at hconstraint
        exact (Except.ok.inj hconstraint).symm
      simp [hvalue, Constraint.toJson, heq]
    · -- any other constraint is an object, and no list of branches
      obtain ⟨fields, hfields⟩ := constraint_object hconstraint heq
      simp [hfields, branchFault?, heq]

/-- the verdict of an accepted condition on a document; an anchor has none of its own -/
def verdict? (f : SingleFilter) (config : Config) (d : Document) : Option Verdict :=
  match f.compile config with
  | .ok (.condition c) => some (satisfies d c.toDocument)
  | _ => none

/-- an accepted condition judges the values at its path -/
theorem verdict?_path {f : SingleFilter} {config : Config} {path : String} {c : Constraint}
    (hfield : f.field = .path path) (hblank : (Text.trimChars path.toList).isEmpty = false)
    (hkey : Text.isOperatorKey path = false) (hprox : f.operator.isProximity = false)
    (hc : f.constraint config = .ok c) (d : Document) :
    f.verdict? config d = some (meets (Document.resolve d path) c.toJson) := by
  have hcompile : f.compile config = .ok (.condition ⟨path, c⟩) := by
    simp [compile, hprox, hc, fieldPath, hfield, hblank]
  simp [verdict?, hcompile, FieldCondition.toDocument, satisfies_single, fieldVerdict_path hkey]

end SingleFilter

/-! ## Combined filters -/

/-- the predicate of a fragment that is no anchor -/
def Fragment.document? : Fragment → Option Document
  | condition c => some c.toDocument
  | anchor _ => none

theorem sortFragments_fst (fragments : List Fragment) :
    (sortFragments fragments).1 = fragments.filterMap Fragment.document? := by
  induction fragments with
  | nil => rfl
  | cons fragment rest ih =>
    cases fragment with
    | condition c =>
      show c.toDocument :: (sortFragments rest).1 = _
      rw [ih]
      rfl
    | anchor a => exact ih

/-- **Queries of combined filters.** The predicates of the elements in order, joined by the combinator; an anchor among
the elements takes all of them into its query. -/
theorem CombinedFilter.query_of_compile {f : CombinedFilter} {config : Config} {filter : CompiledFilter}
    (h : f.compile config = .ok filter) :
    ∃ fragments, f.elements.mapM (SingleFilter.compile · config) = .ok fragments ∧
      filter.query = f.combinator.combine (fragments.filterMap Fragment.document?) := by
  unfold compile at h
  dsimp only at h
  split at h
  · cases h
  · obtain ⟨fragments, hfragments, h⟩ := Outcome.bind_eq_ok.1 h
    refine ⟨fragments, hfragments, ?_⟩
    rw [← sortFragments_fst]
    split at h
    · next documents a hsort =>
      cases h
      obtain ⟨e, -, he⟩ := Outcome.exists_of_mem_mapM hfragments (mem_of_sortFragments (by rw [hsort]))
      have hquery := (SingleFilter.compile_eq_anchor he).2
      rw [hsort]
      show conjoin a.query _ = _
      rw [hquery]
      rfl
    · next documents hsort =>
      cases h
      rw [hsort]
      rfl

/-- one of the elements cannot be judged, and all conditions before it leave the verdict open -/
def ElementsStall (config : Config) (d : Document) (goesOn : Bool) : List SingleFilter → Prop
  | [] => False
  | e :: rest =>
    e.Stalls d ∨ (∀ v, e.verdict? config d = some v → v = .ok goesOn) ∧ ElementsStall config d goesOn rest

theorem branchesStall_elements {config : Config} (hmode : config.containsMode = .literal) (d : Document)
    (goesOn : Bool) {elements : List SingleFilter} {fragments : List Fragment}
    (h : List.Forall₂ (fun e fragment => e.compile config = .ok fragment) elements fragments) :
    BranchesStall d goesOn ((fragments.filterMap Fragment.document?).map .obj) ↔
      ElementsStall config d goesOn elements := by
  induction h with
  | nil => exact Iff.rfl
  | @cons e fragment elements fragments he _ ih =>
    cases fragment with
    | condition c =>
      have hverdict : e.verdict? config d = some (satisfies d c.toDocument) := by
        simp [SingleFilter.verdict?, he]
      have hstalls := SingleFilter.predicateStalls_condition hmode he d
      show PredicateStalls d c.toDocument ∨ satisfies d c.toDocument = .ok goesOn ∧ BranchesStall d goesOn _ ↔ _
      rw [ElementsStall, hstalls, hverdict, ih]
      simp
    | anchor a =>
      obtain ⟨⟨numbers, hfield⟩, -⟩ := SingleFilter.compile_eq_anchor he
      have hverdict : e.verdict? config d = none := by
        simp [SingleFilter.verdict?, he]
      have hstalls : ¬e.Stalls d := by simp [SingleFilter.Stalls, hfield]
      show BranchesStall d goesOn ((fragments.filterMap Fragment.document?).map .obj) ↔ _
      rw [ElementsStall, hverdict, ih]
      simp [hstalls]

/-- joined predicates stall as their branches do -/
theorem predicateStalls_combine (d : Document) (c : Combinator) (documents : List Document) :
    PredicateStalls d (c.combine documents) ↔ BranchesStall d c.goesOn (documents.map .obj) := by
  unfold Combinator.combine
  split
  · next hempty =>
    rw [List.isEmpty_iff.1 hempty]
    exact Iff.rfl
  · have hkey : Combinator.ofKey? c.tag = some c := by cases c <;> rfl
    have hbranches : branchFault? (.arr (documents.map .obj)) = none := by
      simp [branchFault?, Json.isObj]
    simp [Document.single, PredicateStalls, hkey, hbranches, JoinedStall]

/-! ## Descriptors -/

/-- an accepted descriptor that a store cannot judge on a document -/
def FilterDescriptor.Stalls (config : Config) (d : Document) : FilterDescriptor → Prop
  | single f => f.Stalls d
  | combined f => ElementsStall config d f.combinator.goesOn f.elements

/-- the predicate that the compiler makes stalls exactly if the descriptor does -/
theorem predicateStalls_query {descriptor : Option FilterDescriptor} {config : Config} {filter : CompiledFilter}
    (hmode : config.containsMode = .literal) (h : compileFilter descriptor config = .ok filter) (d : Document) :
    PredicateStalls d filter.query ↔ ∃ f, descriptor = some f ∧ f.Stalls config d := by
  cases descriptor with
  | none =>
    cases h
    simp [CompiledFilter.query, PredicateStalls]
  | some f =>
    cases f with
    | single f =>
      obtain ⟨fragment, hf, rfl⟩ := Outcome.map_eq_ok.1 h
      cases fragment with
      | condition c =>
        have hstalls := SingleFilter.predicateStalls_condition hmode hf d
        simp [Fragment.toFilter, CompiledFilter.query, hstalls, FilterDescriptor.Stalls]
      | anchor a =>
        obtain ⟨⟨numbers, hfield⟩, hquery⟩ := SingleFilter.compile_eq_anchor hf
        simp [Fragment.toFilter, CompiledFilter.query, hquery, PredicateStalls, FilterDescriptor.Stalls,
          SingleFilter.Stalls, hfield]
    | combined f =>
      obtain ⟨fragments, hfragments, hquery⟩ := CombinedFilter.query_of_compile h
      have helements := branchesStall_elements hmode d f.combinator.goesOn (Outcome.mapM_eq_ok_iff.1 hfragments)
      rw [hquery, predicateStalls_combine, helements]
      simp [FilterDescriptor.Stalls]

/-! ## Filters that never stall -/

namespace SingleFilter

/-- neither the field nor the value smuggles in an operator that cannot be judged, and a text to search for is not too
long -/
structure Plain (f : SingleFilter) : Prop where
  field : ∀ p, f.field = .path p → Text.isOperatorKey p = false
  value : f.operator = .equals ∨ f.operator = .negate → Usable f.value
  text : f.operator = .contains → ∀ t, searchText? f.value = some t → (Pattern.containing t.toList).fits = true

theorem Plain.not_stalls {f : SingleFilter} (hf : f.Plain) (d : Document) : ¬f.Stalls d := by
  unfold Stalls
  cases hfield : f.field with
  | coordinates numbers => exact id
  | path p =>
    have hkey := hf.field p hfield
    dsimp only
    cases hc : Combinator.ofKey? p with
    | some c => simp [isOperatorKey_of_ofKey? hc] at hkey
    | none =>
      rintro (hop | hstalls)
      · simp [hkey] at hop
      · cases hop : f.operator with
        | equals =>
          rw [hop] at hstalls
          exact not_conditionStalls _ _ (hf.value (Or.inl hop)) hstalls
        | negate =>
          rw [hop] at hstalls
          exact not_conditionStalls _ _ (hf.value (Or.inr hop)) hstalls
        | contains =>
          rw [hop] at hstalls
          obtain ⟨t, ht, hfits⟩ := hstalls
          simp [hf.text hop t ht] at hfits
        | _ =>
          rw [hop] at hstalls
          exact hstalls

end SingleFilter

/-- whether all conditions of a descriptor are plain -/
def FilterDescriptor.Plain : FilterDescriptor → Prop
  | single f => f.Plain
  | combined f => ∀ e ∈ f.elements, e.Plain

theorem not_elementsStall {config : Config} {d : Document} {goesOn : Bool} {elements : List SingleFilter}
    (h : ∀ e ∈ elements, e.Plain) : ¬ElementsStall config d goesOn elements := by
  induction elements with
  | nil => exact id
  | cons e rest ih =>
    rintro (hstalls | ⟨-, hstalls⟩)
    · exact (h e List.mem_cons_self).not_stalls d hstalls
    · exact ih (fun g hg => h g (List.mem_cons_of_mem _ hg)) hstalls

/-- plain filters never stall -/
theorem FilterDescriptor.Plain.not_stalls {f : FilterDescriptor} (hf : f.Plain) (config : Config) (d : Document) :
    ¬f.Stalls config d := by
  cases f with
  | single f => exact SingleFilter.Plain.not_stalls hf d
  | combined f => exact not_elementsStall hf

/-! ## Verdicts -/

/-- **Verdicts of compiled filters.** What the compiler accepts has a verdict on a document unless it is one of the
filters that stall on it. Plain filters have one on every document. -/
theorem judged_compiled {descriptor : Option FilterDescriptor} {config : Config} {filter : CompiledFilter}
    (hmode : config.containsMode = .literal) (h : compileFilter descriptor config = .ok filter) (d : Document) :
    ((∃ b, satisfies d filter.query = .ok b) ↔ ¬∃ f, descriptor = some f ∧ f.Stalls config d) ∧
      ((∀ f, descriptor = some f → f.Plain) → ∃ b, satisfies d filter.query = .ok b) := by
  have hiff : (∃ b, satisfies d filter.query = .ok b) ↔ ¬∃ f, descriptor = some f ∧ f.Stalls config d := by
    rw [← predicateStalls_query hmode h d]
    exact judged_satisfies d filter.query
  refine ⟨hiff, fun hplain => hiff.2 ?_⟩
  rintro ⟨f, hf, hstalls⟩
  exact (hplain f hf).not_stalls config d hstalls

/-- a thing to be equal to an object that is written like an operator -/
def equalsObject : FilterDescriptor := .single ⟨.path "name", .equals, .obj [("$foo", .nat 1)]⟩

/-- a thing to be equal to a text -/
def equalsText : FilterDescriptor := .single ⟨.path "name", .equals, .str "a"⟩

theorem judged_compiled_equalsObject :
    let filter := CompiledFilter.predicate [("name", .obj [("$foo", .nat 1)])]
    let plain := CompiledFilter.predicate [("name", .str "a")]
    let d : Document := [("_id", .str "1"), ("name", .str "a")]
    compileFilter (some equalsObject) {} = .ok filter ∧
      ((∃ b, satisfies d filter.query = .ok b) ↔ ¬∃ f, some equalsObject = some f ∧ f.Stalls {} d) ∧
      compileFilter (some equalsText) {} = .ok plain ∧ equalsText.Plain ∧
      ∀ d, ∃ b, satisfies d plain.query = .ok b := by
  intro filter plain d
  have h : compileFilter (some equalsObject) {} = .ok filter := by
    rfl
  have htext : compileFilter (some equalsText) {} = .ok plain := by
    rfl
  have hplain : equalsText.Plain := by
    refine ⟨?_, fun _ => trivial, nofun⟩
    rintro p ⟨⟩
    rfl
  refine ⟨h, (judged_compiled rfl h d).1, htext, hplain, fun d => (judged_compiled rfl htext d).2 ?_⟩
  rintro f ⟨⟩
  exact hplain

/-- the compiler takes an unknown operator for a value, and the store takes it for an operator -/
theorem equalsObject_stalls :
    compileFilter (some equalsObject) {} = .ok (.predicate [("name", .obj [("$foo", .nat 1)])]) ∧
      satisfies [("_id", .str "1"), ("name", .str "a")] [("name", .obj [("$foo", .nat 1)])] =
        .error (.unsupportedOperator "$foo") := by
  refine ⟨rfl, ?_⟩
  rfl

end DocumentQuery
