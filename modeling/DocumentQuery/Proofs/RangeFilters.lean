/-
RANGE FILTERS. Four operators ask how the values at a path stand to an operand: greater or less, with or without
equality. A path may lead to several values, and an array counts by itself and by its items, so each operator asks for
some value, and different values may answer different operators.

- `Document.Meets`: a document meets a condition of one operator at a path;
- `satisfies_condition_iff`: a filter with one condition selects what meets it;
- `comparesAny_iff`, `equalsAny_iff`: which values a condition asks for;
- `comparesAny_or_equalsAny`: what equality adds to a strict comparison;
- `comparesAny_of_step`: another operand of the same kind;
- `rangeFilters_consistent`: the four operators among each other and with equality.
-/
import DocumentQuery.Proofs.CompiledFilters
import DocumentQuery.Proofs.ValueKinds

namespace DocumentQuery

/-- the operators that compare by the order of values -/
inductive RangeOperator where
  | greater
  | greaterOrEqual
  | less
  | lessOrEqual
  deriving DecidableEq, Repr

namespace RangeOperator

def key : RangeOperator → String
  | greater => "$gt"
  | greaterOrEqual => "$gte"
  | less => "$lt"
  | lessOrEqual => "$lte"

/-- how a value may stand to the operand -/
def accepts : RangeOperator → Ordering → Bool
  | greater => Ordering.isGT
  | greaterOrEqual => Ordering.isGE
  | less => Ordering.isLT
  | lessOrEqual => Ordering.isLE

/-- the operator among those of all conditions -/
def known : RangeOperator → ConditionOperator
  | greater => .gt
  | greaterOrEqual => .gte
  | less => .lt
  | lessOrEqual => .lte

theorem isOperatorKey_key (op : RangeOperator) : Text.isOperatorKey op.key = true := by
  cases op <;> decide

theorem key_ne_not (op : RangeOperator) : op.key ≠ "$not" := by
  cases op <;> decide

theorem ofKey?_key (op : RangeOperator) : ConditionOperator.ofKey? op.key = some op.known := by
  cases op <;> rfl

theorem holds_known (op : RangeOperator) (values : List Json) (a : Json) (siblings : Document) :
    op.known.holds values a siblings = .ok (comparesAny op.accepts values a) := by
  cases op <;> rfl

end RangeOperator

/-- whether a document meets a condition of one operator at a path -/
def Document.Meets (d : Document) (path key : String) (operand : Json) : Prop :=
  meets (Document.resolve d path) (.obj (Document.single key operand)) = .ok true

/-- a filter with one condition selects a document that meets it; names written like operators are no paths, and what
joins filters takes no conditions -/
theorem satisfies_condition_iff (d : Document) (path : String) (operators : Document) :
    satisfies d (Document.single path (.obj operators)) = .ok true ↔
      Text.isOperatorKey path = false ∧ meets (Document.resolve d path) (.obj operators) = .ok true := by
  rw [satisfies_single]
  cases hkey : Text.isOperatorKey path with
  | false => simp [fieldVerdict_path hkey]
  | true =>
    unfold fieldVerdict
    cases Combinator.ofKey? path <;> simp [branchFault?, hkey]

/-! ## Verdicts on values -/

section

variable {values : List Json} {a b : Json}

/-- a range condition always has a verdict -/
theorem meets_range (op : RangeOperator) (values : List Json) (a : Json) :
    meets values (.obj (Document.single op.key a)) = .ok (comparesAny op.accepts values a) := by
  rw [meets_single values a op.isOperatorKey_key, operatorVerdict, if_neg op.key_ne_not, op.ofKey?_key]
  exact op.holds_known values a _

theorem meets_equality (values : List Json) (a : Json) :
    meets values (.obj (Document.single "$eq" a)) = .ok (equalsAny values a) := by
  have hknown : ConditionOperator.ofKey? "$eq" = some .eq := rfl
  rw [meets_single values a (by decide), operatorVerdict, if_neg (by decide), hknown]
  rfl

theorem comparesAny_iff {accept : Ordering → Bool} : comparesAny accept values a = true ↔
    ∃ v ∈ expand values, v.kind = a.kind ∧ accept (v.compare a) = true := by
  simp [comparesAny, Json.rank_eq_iff]

/-- equality has no eye on kinds, and needs none -/
theorem equalsAny_iff (h : values ≠ []) : equalsAny values a = true ↔ ∃ v ∈ expand values, v.compare a = .eq := by
  simp [equalsAny, h, Json.equal]

/-- **Equality added.** Where there are values, one of them stands to the operand as a loose operator asks exactly if
one stands as the strict operator asks or one equals the operand. -/
theorem comparesAny_or_equalsAny {strict loose : Ordering → Bool}
    (hsplit : ∀ o, loose o = true ↔ strict o = true ∨ o = .eq) (h : values ≠ []) :
    comparesAny loose values a = true ↔ comparesAny strict values a = true ∨ equalsAny values a = true := by
  rw [comparesAny_iff, comparesAny_iff, equalsAny_iff h]
  constructor
  · rintro ⟨v, hv, hkind, hloose⟩
    rcases (hsplit _).1 hloose with hstrict | hequal
    · exact Or.inl ⟨v, hv, hkind, hstrict⟩
    · exact Or.inr ⟨v, hv, hequal⟩
  · rintro (⟨v, hv, hkind, hstrict⟩ | ⟨v, hv, hequal⟩)
    · exact ⟨v, hv, hkind, (hsplit _).2 (Or.inl hstrict)⟩
    · -- equal values are of one kind
      exact ⟨v, hv, Json.kind_of_compare hequal, (hsplit _).2 (Or.inr hequal)⟩

/-- **Another operand.** If each value that stands to one operand as asked stands so to another one of the same kind,
the condition on the first operand implies the one on the second. -/
theorem comparesAny_of_step {accept : Ordering → Bool} (hkind : a.kind = b.kind)
    (hstep : ∀ v : Json, accept (v.compare a) = true → accept (v.compare b) = true)
    (h : comparesAny accept values a = true) : comparesAny accept values b = true := by
  obtain ⟨v, hv, hsame, haccept⟩ := comparesAny_iff.1 h
  exact comparesAny_iff.2 ⟨v, hv, hsame.trans hkind, hstep v haccept⟩

end

/-! ## Conditions on documents -/

section

variable {d : Document} {path : String} {a b : Json}

theorem meets_range_iff (op : RangeOperator) :
    d.Meets path op.key a ↔ comparesAny op.accepts (Document.resolve d path) a = true := by
  rw [Document.Meets, meets_range, Except.ok.injEq]

theorem meets_equality_iff : d.Meets path "$eq" a ↔ equalsAny (Document.resolve d path) a = true := by
  rw [Document.Meets, meets_equality, Except.ok.injEq]

/-- a loose operator asks for what the strict one asks for, or for equality -/
theorem meets_loose_iff (strict loose : RangeOperator)
    (hsplit : ∀ o, loose.accepts o = true ↔ strict.accepts o = true ∨ o = .eq)
    (hvalues : Document.resolve d path ≠ []) :
    d.Meets path loose.key a ↔ d.Meets path strict.key a ∨ d.Meets path "$eq" a := by
  rw [meets_range_iff, meets_range_iff, meets_equality_iff]
  exact comparesAny_or_equalsAny hsplit hvalues

/-- a condition on one operand implies that on another of the same kind, if each value that answers the first answers
the second -/
theorem meets_of_step (op : RangeOperator) (hkind : a.kind = b.kind)
    (hstep : ∀ v : Json, op.accepts (v.compare a) = true → op.accepts (v.compare b) = true)
    (h : d.Meets path op.key a) : d.Meets path op.key b := by
  rw [meets_range_iff] at h ⊢
  exact comparesAny_of_step hkind hstep h

end

/-! ## Higher and lower operands -/

section

variable {a b v : Json}

theorem isGT_of_operand_le (hle : (b.compare a).isLE) (h : (v.compare a).isGT) : (v.compare b).isGT := by
  have hgt : v.compare a = .gt := Ordering.isGT_iff_eq_gt.1 h
  have hge : (a.compare b).isGE := Std.OrientedCmp.isGE_iff_isLE.2 hle
  exact Ordering.isGT_iff_eq_gt.2 (Std.TransCmp.gt_of_gt_of_isGE hgt hge)

theorem isGE_of_operand_le (hle : (b.compare a).isLE) (h : (v.compare a).isGE) : (v.compare b).isGE :=
  Std.TransCmp.isGE_trans h (Std.OrientedCmp.isGE_iff_isLE.2 hle)

theorem isLT_of_le_operand (hle : (b.compare a).isLE) (h : (v.compare b).isLT) : (v.compare a).isLT := by
  have hlt : v.compare b = .lt := Ordering.isLT_iff_eq_lt.1 h
  exact Ordering.isLT_iff_eq_lt.2 (Std.TransCmp.lt_of_lt_of_isLE hlt hle)

theorem isLE_of_le_operand (hle : (b.compare a).isLE) (h : (v.compare b).isLE) : (v.compare a).isLE :=
  Std.TransCmp.isLE_trans h hle

end

/-- **Range filters.** A filter with one condition on a path selects the documents that meet the condition. Where a
path leads to some value, a loose comparison holds exactly if the strict one or equality holds. Among operands of one
kind, what is above one is above all lower ones, and what is below one is below all higher ones. Each range condition
has a verdict, and only values of the operand's kind count for it. -/
theorem rangeFilters_consistent (d : Document) (path : String) (a : Json) :
    (∀ key, satisfies d (Document.single path (.obj (Document.single key a))) = .ok true ↔
      Text.isOperatorKey path = false ∧ d.Meets path key a) ∧
    (Document.resolve d path ≠ [] →
      (d.Meets path "$gte" a ↔ d.Meets path "$gt" a ∨ d.Meets path "$eq" a) ∧
      (d.Meets path "$lte" a ↔ d.Meets path "$lt" a ∨ d.Meets path "$eq" a)) ∧
    (∀ b : Json, a.kind = b.kind → (b.compare a).isLE →
      (d.Meets path "$gt" a → d.Meets path "$gt" b) ∧ (d.Meets path "$gte" a → d.Meets path "$gte" b) ∧
      (d.Meets path "$lt" b → d.Meets path "$lt" a) ∧ (d.Meets path "$lte" b → d.Meets path "$lte" a)) ∧
    ∀ op : RangeOperator, ∃ verdict,
      meets (Document.resolve d path) (.obj (Document.single op.key a)) = .ok verdict ∧
      (verdict = true ↔
        ∃ v ∈ expand (Document.resolve d path), v.kind = a.kind ∧ op.accepts (v.compare a) = true) := by
  refine ⟨fun key => satisfies_condition_iff d path _, fun hvalues => ⟨?_, ?_⟩, fun b hkind hle => ⟨?_, ?_, ?_, ?_⟩, ?_⟩
  · exact meets_loose_iff .greater .greaterOrEqual (by decide) hvalues
  · exact meets_loose_iff .less .lessOrEqual (by decide) hvalues
  · exact meets_of_step .greater hkind fun v => isGT_of_operand_le hle
  · exact meets_of_step .greaterOrEqual hkind fun v => isGE_of_operand_le hle
  · exact meets_of_step .less hkind.symm fun v => isLT_of_le_operand hle
  · exact meets_of_step .lessOrEqual hkind.symm fun v => isLE_of_le_operand hle
  · intro op
    exact ⟨_, meets_range op _ a, comparesAny_iff⟩

/-- of two items one is above `c`; so one is above `b`, and neither array nor item is of the kind of a boolean -/
theorem rangeFilters_consistent_tags :
    let d : Document := [("_id", .str "1"), ("tags", .arr [.str "b", .str "d"])]
    Document.resolve d "tags" ≠ [] ∧ (Json.str "c").kind = (Json.str "b").kind ∧
    ((Json.str "b").compare (.str "c")).isLE ∧ d.Meets "tags" "$gt" (.str "c") ∧ d.Meets "tags" "$gte" (.str "c") ∧
    d.Meets "tags" "$gt" (.str "b") ∧
    satisfies d (Document.single "tags" (.obj (Document.single "$gt" (.str "b")))) = .ok true ∧
    meets (Document.resolve d "tags") (.obj (Document.single "$gt" (.bool false))) = .ok false := by
  intro d
  have hread : Document.resolve d "tags" = [.arr [.str "b", .str "d"]] := rfl
  have hvalues : Document.resolve d "tags" ≠ [] := by simp [hread]
  have hle : ((Json.str "b").compare (.str "c")).isLE := by decide
  obtain ⟨-, hloose, hoperands, -⟩ := rangeFilters_consistent d "tags" (.str "c")
  obtain ⟨hfilter, -, -, -⟩ := rangeFilters_consistent d "tags" (.str "b")
  obtain ⟨-, -, -, hkinds⟩ := rangeFilters_consistent d "tags" (.bool false)
  have habove : d.Meets "tags" "$gt" (.str "c") := rfl
  have hlower := (hoperands (.str "b") rfl hle).1 habove
  obtain ⟨verdict, hverdict, htrue⟩ := hkinds .greater
  have hfalse : verdict = false := by
    rw [← Bool.not_eq_true, htrue, hread]
    rintro ⟨v, hv, hkind, -⟩
    simp only [expand, Json.arr?, List.flatMap_cons, List.flatMap_nil, Option.getD_some, List.append_nil,
      List.mem_cons, List.not_mem_nil, or_false] at hv
    rcases hv with rfl | rfl | rfl <;> cases hkind
  rw [hfalse] at hverdict
  exact ⟨hvalues, rfl, hle, habove, (hloose hvalues).1.2 (Or.inl habove), hlower,
    (hfilter "$gt").2 ⟨by decide, hlower⟩, hverdict⟩

end DocumentQuery
