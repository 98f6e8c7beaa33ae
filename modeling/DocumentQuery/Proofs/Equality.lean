/-
EQUALITY IN THREE WORDINGS. A value can be asked for by equality, by membership in a list of one, and by the negation of
inequality. Only equality puts the value into the predicate as it is, where an object of operators is taken for a
condition.

- `meets_longer`: a condition has the same verdict on an object and on a longer one, as long as it has fewer parts;
- `exists_unequal`: so whatever an object of operators says of itself, it says of another object too;
- `SingleFilter.equalitiesAgree_iff`: where the three wordings agree;
- `SingleFilter.equalities_agree`: they agree on all documents for every value but objects of operators, and for none of
  these.
-/
import DocumentQuery.Proofs.CompiledFilters
import DocumentQuery.Proofs.ValueOrder
import DocumentQuery.Proofs.Writing

namespace DocumentQuery

/-! ## Conditions on longer objects -/

/-- an object without a type is no geometry -/
theorem containsPoint_of_untyped {d : Document} (h : Document.find? d "type" = none) (p : Point) :
    containsPoint (.obj d) p = false := by
  simp [containsPoint, Json.field?, Json.obj?, h]

/-- keys that are written like operators leave out the type -/
theorem untyped_of_operatorKeys {d : Document} (h : ∀ f ∈ d, Text.isOperatorKey f.1 = true) :
    Document.find? d "type" = none := by
  cases hfind : Document.find? d "type" with
  | none => rfl
  | some v =>
    have htype : Text.isOperatorKey "type" = true := h _ (Document.find?_mem hfind)
    exact absurd htype (by decide)

section

variable {fields extra : Document}

theorem equalsAny_longer {v : Json} (h : v.nodes < (Json.obj fields).nodes) :
    equalsAny [.obj (fields ++ extra)] v = equalsAny [.obj fields] v := by
  simp [equalsAny, expand, Json.arr?, Json.equal, Json.compare_extended fields extra h]

theorem comparesAny_longer (accept : Ordering → Bool) {v : Json} (h : v.nodes < (Json.obj fields).nodes) :
    comparesAny accept [.obj (fields ++ extra)] v = comparesAny accept [.obj fields] v := by
  simp [comparesAny, expand, Json.arr?, Json.rank, Json.compare_extended fields extra h]

theorem memberOf_longer {operand : Json} (h : operand.nodes < (Json.obj fields).nodes) :
    memberOf [.obj (fields ++ extra)] operand = memberOf [.obj fields] operand := by
  cases operand with
  | arr items =>
    have hitems : ∀ v ∈ items, equalsAny [.obj (fields ++ extra)] v = equalsAny [.obj fields] v := by
      intro v hv
      have hle := Json.nodes_le_of_mem hv
      rw [Json.nodes] at h
      exact equalsAny_longer (by omega)
    have hany : items.any (equalsAny [.obj (fields ++ extra)]) = items.any (equalsAny [.obj fields]) := by
      rw [Bool.eq_iff_iff, List.any_eq_true, List.any_eq_true]
      exact exists_congr fun v => and_congr_right fun hv => by rw [hitems v hv]
    rw [memberOf, memberOf, hany]
  | _ => rfl

theorem holds_longer (hkeys : ∀ f ∈ fields ++ extra, Text.isOperatorKey f.1 = true) (op : ConditionOperator)
    {operand : Json} (h : operand.nodes < (Json.obj fields).nodes) (siblings : Document) :
    op.holds [.obj (fields ++ extra)] operand siblings = op.holds [.obj fields] operand siblings := by
  have hpoint := containsPoint_of_untyped (untyped_of_operatorKeys hkeys)
  have hpoint' := containsPoint_of_untyped (untyped_of_operatorKeys fun f hf => hkeys f (List.mem_append_left _ hf))
  cases op with
  | eq | ne => simp [ConditionOperator.holds, equalsAny_longer h]
  | gt | gte | lt | lte => simp [ConditionOperator.holds, comparesAny_longer _ h]
  | oneOf | noneOf => simp [ConditionOperator.holds, memberOf_longer h]
  | regex => simp [ConditionOperator.holds, matchesPattern, expand, Json.str?, Json.arr?]
  | options | present => rfl
  | intersects => simp [ConditionOperator.holds, holdsPoint, hpoint, hpoint']

mutual

/-- a condition with fewer parts than an object of operators does not see what stands behind these -/
theorem meets_longer (hkeys : ∀ f ∈ fields ++ extra, Text.isOperatorKey f.1 = true) :
    ∀ c : Json, c.nodes < (Json.obj fields).nodes → meets [.obj (fields ++ extra)] c = meets [.obj fields] c
  | .obj operators, h => by
    rw [meets, meets, equalsAny_longer h]
    rw [Json.nodes] at h
    rw [meetsAll_longer hkeys operators operators (by omega)]
  | .null, h => by simp [meets, equalsAny_longer h]
  | .bool _, h => by simp [meets, equalsAny_longer h]
  | .num _, h => by simp [meets, equalsAny_longer h]
  | .str _, h => by simp [meets, equalsAny_longer h]
  | .arr _, h => by simp [meets, equalsAny_longer h]

theorem meetsAll_longer (hkeys : ∀ f ∈ fields ++ extra, Text.isOperatorKey f.1 = true) (siblings : Document) :
    ∀ operators : List (String × Json), Json.nodesOfFields operators < (Json.obj fields).nodes →
      meetsAll [.obj (fields ++ extra)] siblings operators = meetsAll [.obj fields] siblings operators
  | [], _ => rfl
  | (key, operand) :: rest, h => by
    rw [Json.nodesOfFields] at h
    have hrest := meetsAll_longer hkeys siblings rest (by omega)
    have hnot := meets_longer hkeys operand (by omega)
    have hop := fun op => holds_longer hkeys op (show operand.nodes < _ by omega) siblings
    have hverdict : operatorVerdict [.obj (fields ++ extra)] siblings key operand =
        operatorVerdict [.obj fields] siblings key operand := by
      unfold operatorVerdict
      cases ConditionOperator.ofKey? key <;> simp [hnot, hop]
    rw [meetsAll_cons, meetsAll_cons, hverdict, hrest]

end

end

/-! ## Another object with the same verdict -/

theorem lt_append_dollar (s : String) : s < s ++ "$" := by
  rw [String.lt_iff_toList_lt, String.toList_append]
  induction s.toList with
  | nil => decide
  | cons c rest ih => exact List.Lex.cons ih

/-- behind keys that are written like operators there is room for one more such key -/
theorem exists_key_behind {fields : Document} (h : ∀ f ∈ fields, Text.isOperatorKey f.1 = true) :
    ∃ key, Text.isOperatorKey key = true ∧ ∀ f ∈ fields, f.1 < key := by
  induction fields with
  | nil => exact ⟨"$", by decide, by simp⟩
  | cons f rest ih =>
    obtain ⟨key, hkey, hrest⟩ := ih fun g hg => h g (List.mem_cons_of_mem _ hg)
    by_cases hf : f.1 < key
    · exact ⟨key, hkey, List.forall_mem_cons.2 ⟨hf, hrest⟩⟩
    · -- the new first key is behind the others' key, so a longer one is behind all of them
      have hself := lt_append_dollar f.1
      refine ⟨f.1 ++ "$", ?_, List.forall_mem_cons.2 ⟨hself, fun g hg => ?_⟩⟩
      · have hfirst := h f List.mem_cons_self
        simp only [Text.isOperatorKey, String.toList_append, List.head?_append] at hfirst ⊢
        rw [beq_iff_eq] at hfirst
        simp [hfirst]
      · exact lt_trans (hrest g hg) (lt_of_le_of_lt (not_lt.1 hf) hself)

/-- a key behind all others keeps an object in order -/
theorem Json.Ordered.append_single {fields : Document} {key : String} {v : Json} (h : (Json.obj fields).Ordered)
    (hbehind : ∀ f ∈ fields, f.1 < key) (hv : v.Ordered) : (Json.obj (fields ++ [(key, v)])).Ordered := by
  rw [Json.ordered_obj_iff] at h ⊢
  constructor
  · refine List.pairwise_append.2 ⟨h.1, List.pairwise_singleton _ _, fun f hf g hg => ?_⟩
    rw [List.mem_singleton.1 hg]
    exact hbehind f hf
  · exact List.forall_mem_append.2 ⟨h.2, List.forall_mem_singleton.2 hv⟩

/-- the verdict of an object of operators on itself is its verdict on another object too -/
theorem exists_unequal {fields : Document} (h : isOperatorObject fields = true) :
    ∃ longer : Document, ((Json.obj fields).Ordered → (Json.obj longer).Ordered) ∧
      equalsAny [.obj longer] (.obj fields) = false ∧
      meets [.obj longer] (.obj fields) = meets [.obj fields] (.obj fields) := by
  have hkeys : ∀ f ∈ fields, Text.isOperatorKey f.1 = true := by
    rw [isOperatorObject, Bool.and_eq_true, List.all_eq_true] at h
    exact h.2
  obtain ⟨key, hkey, hbehind⟩ := exists_key_behind hkeys
  refine ⟨fields ++ [(key, .null)], fun hordered => hordered.append_single hbehind (by simp [Json.Ordered]), ?_, ?_⟩
  · -- the two have different numbers of parts
    have hunequal : (Json.obj (fields ++ [(key, .null)])).compare (.obj fields) ≠ .eq := by
      intro heq
      have hnodes := Json.nodes_of_compare _ _ heq
      simp [Json.nodes, Json.nodesOfFields] at hnodes
    simp [equalsAny, expand, Json.arr?, Json.equal, hunequal]
  · have hall : ∀ f ∈ fields ++ [(key, .null)], Text.isOperatorKey f.1 = true :=
      List.forall_mem_append.2 ⟨hkeys, List.forall_mem_singleton.2 hkey⟩
    rw [meets, meets, if_pos h, if_pos h]
    exact meetsAll_longer hall fields fields (by rw [Json.nodes]; omega)

/-! ## Documents with a given value at a path -/

/-- the value under one object for each segment -/
def Json.nest (v : Json) : List String → Json
  | [] => v
  | segment :: rest => .obj (Document.single segment (v.nest rest))

theorem Json.descend_nest (v : Json) (segments : List String) : (v.nest segments).descend segments = [v] := by
  induction segments with
  | nil => rfl
  | cons segment rest ih => simp [nest, descend, oneBelow, ih]

theorem Json.Ordered.single {v : Json} (h : v.Ordered) (key : String) : (Json.obj (Document.single key v)).Ordered :=
  ordered_obj_iff.2 ⟨List.pairwise_singleton _ _, by simpa [Document.single] using h⟩

theorem Json.Ordered.nest {v : Json} (h : v.Ordered) (segments : List String) : (v.nest segments).Ordered := by
  induction segments with
  | nil => exact h
  | cons segment rest ih => exact ih.single segment

/-- a document with one value at a path -/
def Document.holding (path : String) (v : Json) : Document :=
  match Path.segments path with
  | [] => []
  | head :: rest => Document.single head (v.nest (rest.filter fun s => !s.isEmpty))

theorem Document.resolve_holding (path : String) (v : Json) : (holding path v).resolve path = [v] := by
  obtain ⟨head, rest, hsegments⟩ := Path.exists_segments path
  simp [holding, resolve, hsegments, Json.descend_nest]

theorem Document.ordered_holding {v : Json} (h : v.Ordered) (path : String) : (Json.obj (holding path v)).Ordered := by
  obtain ⟨head, rest, hsegments⟩ := Path.exists_segments path
  simp only [holding, hsegments]
  exact (h.nest _).single head

/-! ## Three wordings -/

namespace SingleFilter

/-- the value is at the path -/
def equalTo (path : String) (v : Json) : SingleFilter := ⟨.path path, .equals, v⟩

/-- what is at the path is in a list with nothing but the value -/
def among (path : String) (v : Json) : SingleFilter := ⟨.path path, .oneOf, .arr [v]⟩

/-- the value is not at the path -/
def otherThan (path : String) (v : Json) : SingleFilter := ⟨.path path, .notEquals, v⟩

variable {config : Config} {path : String} {v : Json}

/-- the three filters have verdicts on a document, and the verdicts agree -/
def EqualitiesAgree (config : Config) (path : String) (v : Json) (d : Document) : Prop :=
  ∃ b, (equalTo path v).verdict? config d = some (.ok b) ∧ (among path v).verdict? config d = some (.ok b) ∧
    (otherThan path v).verdict? config d = some (.ok (!b))

/-- a path that a filter is accepted on is not blank -/
theorem not_blank_of_compile {fragment : Fragment} (h : (equalTo path v).compile config = .ok fragment) :
    (Text.trimChars path.toList).isEmpty = false := by
  cases hblank : (Text.trimChars path.toList).isEmpty with
  | false => rfl
  | true => simp [compile, equalTo, constraint, fieldPath, Operator.isProximity, hblank] at h

section

variable (hblank : (Text.trimChars path.toList).isEmpty = false) (hkey : Text.isOperatorKey path = false)
include hblank hkey

theorem verdict?_equalTo (d : Document) :
    (equalTo path v).verdict? config d = some (meets (Document.resolve d path) v) :=
  verdict?_path (c := .equals v) rfl hblank hkey rfl rfl d

theorem verdict?_among (d : Document) :
    (among path v).verdict? config d = some (.ok (equalsAny (Document.resolve d path) v)) := by
  rw [verdict?_path (c := .compare .oneOf (.arr [v])) rfl hblank hkey rfl rfl d,
    meets_compare _ _ (show ConditionOperator.ofKey? _ = some .oneOf from rfl) (by decide)]
  simp [ConditionOperator.holds, memberOf]

theorem verdict?_otherThan (d : Document) :
    (otherThan path v).verdict? config d = some (.ok (!equalsAny (Document.resolve d path) v)) := by
  rw [verdict?_path (c := .compare .notEquals v) rfl hblank hkey rfl rfl d,
    meets_compare _ _ (show ConditionOperator.ofKey? _ = some .ne from rfl) (by decide)]
  rfl

/-- the verdicts agree where the value, read as a condition, asks for no more and no less than equality -/
theorem equalitiesAgree_iff (d : Document) :
    EqualitiesAgree config path v d ↔
      meets (Document.resolve d path) v = .ok (equalsAny (Document.resolve d path) v) := by
  simp [EqualitiesAgree, verdict?_equalTo hblank hkey, verdict?_among hblank hkey, verdict?_otherThan hblank hkey]

/-- an object of operators cannot ask for equality with itself and nothing else -/
theorem exists_not_equalitiesAgree {fields : Document} (h : isOperatorObject fields = true) :
    ∃ d, ((Json.obj fields).Ordered → (Json.obj d).Ordered) ∧ ¬EqualitiesAgree config path (.obj fields) d := by
  obtain ⟨longer, hordered, hunequal, hsame⟩ := exists_unequal h
  by_cases hself : EqualitiesAgree config path (.obj fields) (Document.holding path (.obj fields))
  · -- the operators hold of the object itself, and so of the longer one, which is another value
    refine ⟨Document.holding path (.obj longer), fun hv => Document.ordered_holding (hordered hv) path, ?_⟩
    have hequal : equalsAny [.obj fields] (.obj fields) = true := by
      simp [equalsAny, expand, Json.arr?, Json.equal, Json.compare_self]
    rw [equalitiesAgree_iff hblank hkey, Document.resolve_holding, hequal] at hself
    rw [equalitiesAgree_iff hblank hkey, Document.resolve_holding, hsame, hself, hunequal]
    simp
  · exact ⟨Document.holding path (.obj fields), fun hv => Document.ordered_holding hv path, hself⟩

end

/-- **Equality three ways.** On an accepted path that is not written like an operator, membership in a list of one and
inequality always have verdicts, which are opposites. Equality has the verdict of membership on every document, unless
the value is an object of operators; for each of these there is a document where the two part. -/
theorem equalities_agree {fragment : Fragment} (h : (equalTo path v).compile config = .ok fragment)
    (hkey : Text.isOperatorKey path = false) :
    (∀ d, ∃ b, (among path v).verdict? config d = some (.ok b) ∧
        (otherThan path v).verdict? config d = some (.ok (!b))) ∧
      (v.obj?.any isOperatorObject = false → ∀ d, EqualitiesAgree config path v d) ∧
      (v.obj?.any isOperatorObject = true →
        ∃ d, (v.Ordered → (Json.obj d).Ordered) ∧ ¬EqualitiesAgree config path v d) := by
  have hblank := not_blank_of_compile h
  refine ⟨fun d => ⟨_, verdict?_among hblank hkey d, verdict?_otherThan hblank hkey d⟩, fun hplain d => ?_,
    fun hoperators => ?_⟩
  · rw [equalitiesAgree_iff hblank hkey]
    exact meets_of_plain hplain _
  · cases v with
    | obj fields => exact exists_not_equalitiesAgree hblank hkey hoperators
    | _ => simp [Json.obj?] at hoperators

/-- an object that reads as a comparison -/
def behindA : Json := .obj [("$gt", .str "a")]

theorem equalities_agree_behindA :
    (∃ fragment, (equalTo "name" behindA).compile {} = .ok fragment) ∧ Text.isOperatorKey "name" = false ∧
      behindA.Ordered ∧ (∃ d, (Json.obj d).Ordered ∧ ¬EqualitiesAgree {} "name" behindA d) ∧
      ∀ d, ∃ b, (among "name" behindA).verdict? {} d = some (.ok b) ∧
        (otherThan "name" behindA).verdict? {} d = some (.ok (!b)) := by
  have h : (equalTo "name" behindA).compile {} = .ok (.condition ⟨"name", .equals behindA⟩) := by
    rfl
  have hkey : Text.isOperatorKey "name" = false := by decide
  have hordered : behindA.Ordered :=
    Json.ordered_obj_iff.2 ⟨List.pairwise_singleton _ _, by simp [Json.Ordered]⟩
  obtain ⟨hmembership, -, hobject⟩ := equalities_agree h hkey
  obtain ⟨d, hd, hpart⟩ := hobject (by decide)
  exact ⟨⟨_, h⟩, hkey, hordered, ⟨d, hd hordered, hpart⟩, hmembership⟩

/-- a text is taken to equal the object: it is not in the list of it, and it is other than it -/
theorem equalTo_parts_from_among :
    let d : Document := [("_id", .str "1"), ("name", .str "b")]
    (equalTo "name" behindA).verdict? {} d = some (.ok true) ∧ (among "name" behindA).verdict? {} d = some (.ok false) ∧
      (otherThan "name" behindA).verdict? {} d = some (.ok true) := by
  refine ⟨?_, ?_, ?_⟩
  · rfl
  · rfl
  · rfl

end SingleFilter

end DocumentQuery
