/-
WHICH JUDGEMENTS STALL. A predicate is judged from front to back and the rest is left alone once the verdict is clear. A
judgement without a verdict has come upon a part that cannot be judged at all: an operator that is unknown or has an
operand it cannot use, a field that is written like an operator, or branches that are no objects.

- `ConditionOperator.refuses`: the operands that an operator cannot use, whatever the values;
- `ConditionStalls`, `PredicateStalls`: such a part is reached, since all before it left the verdict open;
- `judged_meets`, `judged_satisfies`: there is a verdict exactly if the judgement does not stall;
- `not_conditionStalls`: conditions of known operators with fitting operands never stall.
-/
import DocumentQuery.Evaluation.Predicate
import DocumentQuery.Proofs.Outcome

namespace DocumentQuery

/-! ## Verdicts -/

/-- there is a verdict -/
def Judged (x : Verdict) : Prop := ∃ b, x = .ok b

@[simp] theorem judged_ok (b : Bool) : Judged (.ok b) := ⟨b, rfl⟩

@[simp] theorem not_judged_error (e : StoreError) : ¬Judged (.error e) := by
  rintro ⟨b, h⟩
  cases h

theorem judged_map {x : Verdict} (f : Bool → Bool) : Judged (x.map f) ↔ Judged x := by
  cases x <;> simp [Except.map]

/-- two judgements in a row, where only one of the two verdicts on the first asks for the second -/
theorem judged_bind {x : Verdict} {y z : Verdict} (go : Bool) (hz : Judged z) :
    Judged (x >>= fun ok => if ok = go then y else z) ↔ Judged x ∧ (x = .ok go → Judged y) := by
  cases x with
  | error e => simp
  | ok b =>
    by_cases hb : b = go
    · simp [hb]
    · simp [hb, hz]

/-! ## Operators -/

/-- operands that an operator cannot use -/
def ConditionOperator.refuses (op : ConditionOperator) (operand : Json) (siblings : Document) : Bool :=
  match op with
  | oneOf | noneOf => !operand.isArr
  | regex => (operand.str?.bind fun text => Pattern.read? (Flags.ofOptions (optionsOf siblings)) text).isNone
  | intersects => ((operand.field? "$geometry").bind Point.ofJson?).isNone
  | _ => false

theorem judged_memberOf (values : List Json) (operand : Json) :
    Judged (memberOf values operand) ↔ operand.isArr = true := by
  cases operand <;> simp [memberOf, Json.isArr]

/-- an operator has a verdict on all values, or on none -/
theorem ConditionOperator.judged_holds (op : ConditionOperator) (values : List Json) (operand : Json)
    (siblings : Document) : Judged (op.holds values operand siblings) ↔ op.refuses operand siblings = false := by
  cases op with
  | oneOf => simp [holds, refuses, judged_memberOf]
  | noneOf => simp [holds, refuses, judged_map, judged_memberOf]
  | regex =>
    cases operand with
    | str text =>
      cases hread : Pattern.read? (Flags.ofOptions (optionsOf siblings)) text <;>
        simp [holds, refuses, matchesPattern, Json.str?, hread]
    | _ => simp [holds, refuses, matchesPattern, Json.str?]
  | intersects =>
    cases hpoint : (operand.field? "$geometry").bind Point.ofJson? <;> simp [holds, refuses, holdsPoint, hpoint]
  | _ => simp [holds, refuses]

/-! ## Conditions -/

/-- what is no object of operators asks for equality -/
theorem meets_of_plain {c : Json} (h : c.obj?.any isOperatorObject = false) (values : List Json) :
    meets values c = .ok (equalsAny values c) := by
  cases c with
  | obj fields =>
    have h : isOperatorObject fields = false := h
    rw [meets, h]
    rfl
  | _ => simp [meets]

/-- the verdict on one operator of a condition -/
def operatorVerdict (values : List Json) (siblings : Document) (key : String) (operand : Json) : Verdict :=
  if key = "$not" then (meets values operand).map (!·)
  else
    match ConditionOperator.ofKey? key with
    | some op => op.holds values operand siblings
    | none => .error (.unsupportedOperator key)

theorem meetsAll_cons (values : List Json) (siblings : Document) (key : String) (operand : Json)
    (rest : List (String × Json)) :
    meetsAll values siblings ((key, operand) :: rest) =
      operatorVerdict values siblings key operand >>= fun ok =>
        if ok = true then meetsAll values siblings rest else .ok false := by
  rw [meetsAll]
  unfold operatorVerdict
  split
  · cases meets values operand <;> rfl
  · cases ConditionOperator.ofKey? key <;> rfl

/-- a condition of one operator is judged as the operator is -/
theorem meets_single (values : List Json) {key : String} (operand : Json) (hkey : Text.isOperatorKey key = true) :
    meets values (.obj (Document.single key operand)) =
      operatorVerdict values (Document.single key operand) key operand := by
  have hobject : isOperatorObject (Document.single key operand) = true := by
    simp [Document.single, isOperatorObject, hkey]
  rw [meets, if_pos hobject, Document.single, meetsAll_cons]
  cases operatorVerdict values [(key, operand)] key operand with
  | error e => rfl
  | ok b => cases b <;> rfl

mutual

/-- judging values by a condition comes upon an operator that cannot be judged -/
def ConditionStalls (values : List Json) : Json → Prop
  | .obj fields => isOperatorObject fields = true ∧ OperatorsStall values fields fields
  | _ => False

/-- one of the operators cannot be judged, and all before it hold -/
def OperatorsStall (values : List Json) (siblings : Document) : List (String × Json) → Prop
  | [] => False
  | (key, operand) :: rest =>
    (if key = "$not" then ConditionStalls values operand
      else (ConditionOperator.ofKey? key).all (·.refuses operand siblings) = true) ∨
    operatorVerdict values siblings key operand = .ok true ∧ OperatorsStall values siblings rest

end

/-- a negation has a verdict if what it negates has one; any other operator if it is known and takes the operand -/
theorem judged_operatorVerdict (values : List Json) (siblings : Document) (key : String) (operand : Json)
    (hnot : Judged (meets values operand) ↔ ¬ConditionStalls values operand) :
    Judged (operatorVerdict values siblings key operand) ↔
      ¬if key = "$not" then ConditionStalls values operand
        else (ConditionOperator.ofKey? key).all (·.refuses operand siblings) = true := by
  unfold operatorVerdict
  by_cases hkey : key = "$not"
  · simp only [hkey, if_true, judged_map, hnot]
  · simp only [hkey, if_false]
    cases ConditionOperator.ofKey? key with
    | none => simp
    | some op => simp [op.judged_holds]

mutual

theorem judged_meets (values : List Json) : ∀ c : Json, Judged (meets values c) ↔ ¬ConditionStalls values c
  | .obj fields => by
    have hfields := judged_meetsAll values fields fields
    rw [meets, ConditionStalls]
    split
    · next hop => simp [hop, hfields]
    · next hop => simp [hop]
  | .null => by simp [meets, ConditionStalls]
  | .bool _ => by simp [meets, ConditionStalls]
  | .num _ => by simp [meets, ConditionStalls]
  | .str _ => by simp [meets, ConditionStalls]
  | .arr _ => by simp [meets, ConditionStalls]

theorem judged_meetsAll (values : List Json) (siblings : Document) :
    ∀ fields, Judged (meetsAll values siblings fields) ↔ ¬OperatorsStall values siblings fields
  | [] => by simp [meetsAll, OperatorsStall]
  | (key, operand) :: rest => by
    have hoperator := judged_operatorVerdict values siblings key operand (judged_meets values operand)
    have hrest := judged_meetsAll values siblings rest
    rw [meetsAll_cons, judged_bind true (judged_ok false), hoperator, hrest, OperatorsStall, not_or, not_and]

end

/-! ## Predicates -/

/-- the verdict on one field of a predicate -/
def fieldVerdict (d : Document) (key : String) (condition : Json) : Verdict :=
  match Combinator.ofKey? key with
  | some c =>
    match branchFault? condition with
    | some fault => .error (.invalidPipeline fault)
    | none => satisfiesJoined d c condition
  | none =>
    if Text.isOperatorKey key then .error (.unsupportedOperator key)
    else meets (Document.resolve d key) condition

theorem satisfies_cons (d : Document) (key : String) (condition : Json) (rest : List (String × Json)) :
    satisfies d ((key, condition) :: rest) =
      fieldVerdict d key condition >>= fun ok => if ok = true then satisfies d rest else .ok false := by
  rw [satisfies]
  unfold fieldVerdict
  cases Combinator.ofKey? key with
  | some c => cases branchFault? condition <;> rfl
  | none =>
    dsimp only
    split <;> rfl

/-- a predicate of one field is judged as the field is -/
theorem satisfies_single (d : Document) (key : String) (condition : Json) :
    satisfies d (Document.single key condition) = fieldVerdict d key condition := by
  rw [Document.single, satisfies_cons]
  cases fieldVerdict d key condition with
  | error e => rfl
  | ok b => cases b <;> rfl

theorem satisfiesSome_cons (d : Document) (branch : Json) (rest : List Json) :
    satisfiesSome d (branch :: rest) =
      satisfiesBranch d branch >>= fun ok => if ok = false then satisfiesSome d rest else .ok true := by
  rw [satisfiesSome]
  cases satisfiesBranch d branch with
  | error e => rfl
  | ok b => cases b <;> rfl

/-- the verdict on a branch that leaves the verdict on all branches open -/
def Combinator.goesOn : Combinator → Bool
  | and => true
  | or => false
  | nor => false

mutual

/-- one of the fields cannot be judged, and all before it hold -/
def PredicateStalls (d : Document) : List (String × Json) → Prop
  | [] => False
  | (key, condition) :: rest =>
    (match Combinator.ofKey? key with
      | some c => (branchFault? condition).isSome = true ∨ JoinedStall d c.goesOn condition
      | none => Text.isOperatorKey key = true ∨ ConditionStalls (Document.resolve d key) condition) ∨
    fieldVerdict d key condition = .ok true ∧ PredicateStalls d rest

/-- joined branches, the next of which is judged only behind the given verdict -/
def JoinedStall (d : Document) (goesOn : Bool) : Json → Prop
  | .arr branches => BranchesStall d goesOn branches
  | _ => False

def BranchStalls (d : Document) : Json → Prop
  | .obj fields => PredicateStalls d fields
  | _ => False

/-- one of the branches cannot be judged, and all before it leave the verdict open -/
def BranchesStall (d : Document) (goesOn : Bool) : List Json → Prop
  | [] => False
  | branch :: rest =>
    BranchStalls d branch ∨ satisfiesBranch d branch = .ok goesOn ∧ BranchesStall d goesOn rest

end

mutual

theorem judged_satisfies (d : Document) : ∀ p : List (String × Json), Judged (satisfies d p) ↔ ¬PredicateStalls d p
  | [] => by simp [satisfies, PredicateStalls]
  | (key, condition) :: rest => by
    have hjoined := fun c => judged_satisfiesJoined d c condition
    have hrest := judged_satisfies d rest
    rw [satisfies_cons, judged_bind true (judged_ok false), hrest, PredicateStalls, not_or, not_and]
    refine and_congr ?_ Iff.rfl
    unfold fieldVerdict
    cases Combinator.ofKey? key with
    | some c => cases branchFault? condition <;> simp [hjoined c]
    | none =>
      dsimp only
      split
      · next hkey => simp [hkey]
      · next hkey => simp [hkey, judged_meets]

theorem judged_satisfiesJoined (d : Document) (c : Combinator) :
    ∀ condition : Json, Judged (satisfiesJoined d c condition) ↔ ¬JoinedStall d c.goesOn condition
  | .arr branches => by
    cases c with
    | and => simp [satisfiesJoined, JoinedStall, Combinator.goesOn, judged_satisfiesEvery d branches]
    | or => simp [satisfiesJoined, JoinedStall, Combinator.goesOn, judged_satisfiesSome d branches]
    | nor => simp [satisfiesJoined, JoinedStall, Combinator.goesOn, judged_map, judged_satisfiesSome d branches]
  | .obj _ => by simp [satisfiesJoined, JoinedStall]
  | .null => by simp [satisfiesJoined, JoinedStall]
  | .bool _ => by simp [satisfiesJoined, JoinedStall]
  | .num _ => by simp [satisfiesJoined, JoinedStall]
  | .str _ => by simp [satisfiesJoined, JoinedStall]

theorem judged_satisfiesBranch (d : Document) :
    ∀ branch : Json, Judged (satisfiesBranch d branch) ↔ ¬BranchStalls d branch
  | .obj fields => by simp [satisfiesBranch, BranchStalls, judged_satisfies d fields]
  | .arr _ => by simp [satisfiesBranch, BranchStalls]
  | .null => by simp [satisfiesBranch, BranchStalls]
  | .bool _ => by simp [satisfiesBranch, BranchStalls]
  | .num _ => by simp [satisfiesBranch, BranchStalls]
  | .str _ => by simp [satisfiesBranch, BranchStalls]

theorem judged_satisfiesEvery (d : Document) :
    ∀ branches : List Json, Judged (satisfiesEvery d branches) ↔ ¬BranchesStall d true branches
  | [] => by simp [satisfiesEvery, BranchesStall]
  | branch :: rest => by
    rw [satisfiesEvery, judged_bind true (judged_ok false), judged_satisfiesBranch d branch,
      judged_satisfiesEvery d rest, BranchesStall, not_or, not_and]

theorem judged_satisfiesSome (d : Document) :
    ∀ branches : List Json, Judged (satisfiesSome d branches) ↔ ¬BranchesStall d false branches
  | [] => by simp [satisfiesSome, BranchesStall]
  | branch :: rest => by
    rw [satisfiesSome_cons, judged_bind false (judged_ok true), judged_satisfiesBranch d branch,
      judged_satisfiesSome d rest, BranchesStall, not_or, not_and]

end

/-! ## Conditions that never stall -/

mutual

/-- operators at every depth are known and can use their operands -/
def Usable : Json → Prop
  | .obj fields => isOperatorObject fields = true → OperatorsUsable fields fields
  | _ => True

def OperatorsUsable (siblings : Document) : List (String × Json) → Prop
  | [] => True
  | (key, operand) :: rest =>
    (if key = "$not" then Usable operand
      else (ConditionOperator.ofKey? key).any (!·.refuses operand siblings) = true) ∧
    OperatorsUsable siblings rest

end

mutual

theorem not_conditionStalls (values : List Json) : ∀ c : Json, Usable c → ¬ConditionStalls values c
  | .obj fields, h => by
    rintro ⟨hop, hstalls⟩
    exact not_operatorsStall values fields fields (h hop) hstalls
  | .null, _ => by simp [ConditionStalls]
  | .bool _, _ => by simp [ConditionStalls]
  | .num _, _ => by simp [ConditionStalls]
  | .str _, _ => by simp [ConditionStalls]
  | .arr _, _ => by simp [ConditionStalls]

theorem not_operatorsStall (values : List Json) (siblings : Document) :
    ∀ fields, OperatorsUsable siblings fields → ¬OperatorsStall values siblings fields
  | [], _ => by simp [OperatorsStall]
  | (key, operand) :: rest, ⟨hfirst, hrest⟩ => by
    have hbehind := not_operatorsStall values siblings rest hrest
    rintro (hstalls | ⟨-, hstalls⟩)
    · by_cases hkey : key = "$not"
      · rw [if_pos hkey] at hfirst hstalls
        exact not_conditionStalls values operand hfirst hstalls
      · rw [if_neg hkey] at hfirst hstalls
        cases hop : ConditionOperator.ofKey? key with
        | none => simp [hop] at hfirst
        | some op => simp_all
    · exact hbehind hstalls

end

/-- a field that joins predicates is written like an operator -/
theorem isOperatorKey_of_ofKey? {key : String} {c : Combinator} (h : Combinator.ofKey? key = some c) :
    Text.isOperatorKey key = true := by
  unfold Combinator.ofKey? at h
  split at h
  · decide
  · decide
  · decide
  · cases h

/-- a field that is not written like an operator asks for what is at its path -/
theorem fieldVerdict_path {d : Document} {path : String} (h : Text.isOperatorKey path = false) (condition : Json) :
    fieldVerdict d path condition = meets (Document.resolve d path) condition := by
  unfold fieldVerdict
  cases hc : Combinator.ofKey? path with
  | some c => simp [isOperatorKey_of_ofKey? hc] at h
  | none => simp [h]

end DocumentQuery
