/-
VALID FILTERS. Which single filters are valid is said here by their parts, the field and the value, and not by what the
compiler does with them. The compiler accepts the valid ones and blames the others:

- `SingleFilter.FitsField`, `SingleFilter.FitsValue`: what an operator asks of the field and of the value;
- `SingleFilter.Blames`: the fault of a filter whose field or value does not fit;
- `SingleFilter.exists_compile_iff`, `SingleFilter.compile_eq_error_iff`: single filters;
- `compileFilter_exact`: descriptors, with the first element that is at fault.
-/
import Mathlib.Data.List.DropRight
import DocumentQuery.Proofs.Combination

namespace DocumentQuery

/-! ## Fields and values that fit -/

/-- a value that is a finite number and not below zero, as a float -/
def IsDistance (v : Json) (x : Float) : Prop := v.float? = some x ∧ isFinite x = true ∧ 0 ≤ floatPlace x

/-- a greatest distance; or an object with a greatest one, and a least one that is absent, null or not above it -/
def IsRange : Json → Prop
  | .obj range => ∃ v most, Document.find? range "max" = some v ∧ IsDistance v most ∧
      ∀ w, Document.find? range "min" = some w →
        w = .null ∨ ∃ least, IsDistance w least ∧ floatPlace least ≤ floatPlace most
  | v => ∃ most, IsDistance v most

/-- what an operator asks of the value, in words; most operators take any -/
def Operator.expects? : Operator → Option String
  | contains => some "a string, number or boolean"
  | oneOf => some "an array"
  | noneOf => some "an array"
  | negate => some "an operator object"
  | near => some "a non-negative number or \x7b\"min\", \"max\"\x7d"
  | _ => none

namespace SingleFilter

/-- a search by distance needs a longitude and a latitude in degrees, any other filter a path that is not blank -/
def FitsField (f : SingleFilter) : Prop :=
  match f.operator with
  | .near => ∃ lng lat, f.field = .coordinates [lng, lat] ∧
      (floatPlace (-180) ≤ floatPlace lng ∧ floatPlace lng ≤ floatPlace 180) ∧
      floatPlace (-90) ≤ floatPlace lat ∧ floatPlace lat ≤ floatPlace 90
  | _ => ∃ path, f.field = .path path ∧ ∃ c ∈ path.toList, Unicode.isBlank c = false

def FitsValue (f : SingleFilter) : Prop :=
  match f.operator with
  | .near => IsRange f.value
  | .contains => (∃ s, f.value = .str s) ∨ (∃ n, f.value = .num n) ∨ ∃ b, f.value = .bool b
  | .oneOf => ∃ items, f.value = .arr items
  | .noneOf => ∃ items, f.value = .arr items
  | .negate => ∃ fields, f.value = .obj fields ∧ fields ≠ [] ∧ ∀ g ∈ fields, Text.isOperatorKey g.1 = true
  | _ => True

structure Valid (f : SingleFilter) : Prop where
  field : f.FitsField
  value : f.FitsValue

/-- the fault of a filter: a search by distance is blamed for its field first, any other filter for its value -/
def Blames (f : SingleFilter) (e : FilterError) : Prop :=
  (¬f.FitsField ∧ (f.operator.isProximity = false → f.FitsValue) ∧ e = f.fieldError) ∨
  (¬f.FitsValue ∧ (f.operator.isProximity = true → f.FitsField) ∧
    ∃ text, f.operator.expects? = some text ∧ e = f.shapeError text)

theorem Blames.not_valid {f : SingleFilter} {e : FilterError} (h : f.Blames e) : ¬f.Valid := by
  intro hvalid
  rcases h with ⟨hfield, -⟩ | ⟨hvalue, -⟩
  · exact hfield hvalid.field
  · exact hvalue hvalid.value

/-- a filter has one fault -/
theorem Blames.unique {f : SingleFilter} {e other : FilterError} (h : f.Blames e) (h' : f.Blames other) :
    e = other := by
  rcases h with ⟨hfield, hvalue, rfl⟩ | ⟨hvalue, hfield, text, htext, rfl⟩ <;>
    rcases h' with ⟨hfield', hvalue', rfl⟩ | ⟨hvalue', hfield', text', htext', rfl⟩
  · rfl
  · cases hprox : f.operator.isProximity with
    | true => exact absurd (hfield' hprox) hfield
    | false => exact absurd (hvalue hprox) hvalue'
  · cases hprox : f.operator.isProximity with
    | true => exact absurd (hfield hprox) hfield'
    | false => exact absurd (hvalue' hprox) hvalue
  · rw [Option.some.inj (htext.symm.trans htext')]

/-! ## What the compiler makes of each part -/

theorem distance?_eq_some_iff {v : Json} {x : Float} : distance? v = some x ↔ IsDistance v x := by
  simp [distance?, IsDistance, Option.filter_eq_some_iff]

theorem distance?_eq_none_iff {v : Json} : distance? v = none ↔ ∀ x, ¬IsDistance v x := by
  simp [Option.eq_none_iff_forall_ne_some, distance?_eq_some_iff]

/-- a least distance is accepted if it is not above the greatest one -/
theorem exists_least_iff {w : Json} {most : Float} :
    (∃ ends, ((distance? w).bind fun least =>
        if floatPlace least ≤ floatPlace most then some (some least, most) else none) = some ends) ↔
      ∃ least, IsDistance w least ∧ floatPlace least ≤ floatPlace most := by
  simp only [Option.bind_eq_some_iff, distance?_eq_some_iff, Option.ite_none_right_eq_some]
  constructor
  · rintro ⟨ends, least, hleast, hle, -⟩
    exact ⟨least, hleast, hle⟩
  · rintro ⟨least, hleast, hle⟩
    exact ⟨_, least, hleast, hle, rfl⟩

/-- the ends of a range are read from an object exactly if it is one -/
theorem exists_distances?_obj (range : Document) :
    (∃ ends, distances? (.obj range) = some ends) ↔ IsRange (.obj range) := by
  simp only [distances?, IsRange]
  cases hmax : Document.find? range "max" with
  | none => simp
  | some v =>
    cases hmost : distance? v with
    | none => simp [hmost, distance?_eq_none_iff.1 hmost]
    | some most =>
      have hunique : ∀ x, IsDistance v x ↔ x = most := by
        intro x
        rw [← distance?_eq_some_iff, hmost, Option.some.injEq, eq_comm]
      cases hmin : Document.find? range "min" with
      | none => simp [hmost, hunique]
      | some w =>
        cases w with
        | null => simp [hmost, hunique]
        | _ => simpa [hmost, hunique] using @exists_least_iff _ most

theorem exists_distances?_iff (v : Json) : (∃ ends, distances? v = some ends) ↔ IsRange v := by
  cases v with
  | obj range => exact exists_distances?_obj range
  | _ => simp [distances?, IsRange, distance?_eq_some_iff, Option.map_eq_some_iff]

/-- trimming leaves something if not all characters are blanks -/
theorem trimChars_isEmpty_iff (cs : List Char) :
    (Text.trimChars cs).isEmpty = false ↔ ∃ c ∈ cs, Unicode.isBlank c = false := by
  have hempty : Text.trimChars cs = [] ↔ ∀ c ∈ cs.dropWhile Unicode.isBlank, Unicode.isBlank c = true :=
    List.rdropWhile_eq_nil_iff
  have hall : (∀ c ∈ cs.dropWhile Unicode.isBlank, Unicode.isBlank c = true) ↔
      ∀ c ∈ cs, Unicode.isBlank c = true := by
    constructor
    · intro h c hc
      rw [← List.takeWhile_append_dropWhile (p := Unicode.isBlank) (l := cs)] at hc
      rcases List.mem_append.1 hc with hc | hc
      · exact List.mem_takeWhile_imp hc
      · exact h c hc
    · exact fun h c hc => h c ((List.dropWhile_sublist _).subset hc)
  rw [List.isEmpty_eq_false_iff, ne_eq, hempty, hall]
  simp

section

variable {f : SingleFilter}

theorem operator_eq_near_iff : f.operator.isProximity = true ↔ f.operator = .near := by
  cases f.operator <;> simp [Operator.isProximity]

theorem exists_point?_iff (hnear : f.operator = .near) : (∃ p, f.point? = some p) ↔ f.FitsField := by
  rw [FitsField, hnear]
  unfold point?
  split
  · next lng lat hfield => simp [hfield, between, and_assoc]
  · next hfield =>
    refine iff_of_false (by simp) ?_
    rintro ⟨lng, lat, hcoordinates, -⟩
    exact hfield lng lat hcoordinates

theorem exists_fieldPath_iff (hother : f.operator ≠ .near) : (∃ path, f.fieldPath = .ok path) ↔ f.FitsField := by
  have hfits : f.FitsField ↔ ∃ path, f.field = .path path ∧ ∃ c ∈ path.toList, Unicode.isBlank c = false := by
    unfold FitsField
    split
    · next hnear => exact absurd hnear hother
    · rfl
  rw [hfits]
  unfold fieldPath
  split
  · next path hfield =>
    simp only [hfield, FilterField.path.injEq, exists_eq_left', ← trimChars_isEmpty_iff]
    cases (Text.trimChars path.toList).isEmpty <;> simp
  · next numbers hfield => simp [hfield]

theorem fieldPath_eq_error {e : FilterError} (h : f.fieldPath = .error e) : e = f.fieldError := by
  unfold fieldPath at h
  split at h
  · split at h
    · exact (Except.error.inj h).symm
    · cases h
  · exact (Except.error.inj h).symm

theorem exists_constraint_iff (hother : f.operator ≠ .near) (config : Config) :
    (∃ c, f.constraint config = .ok c) ↔ f.FitsValue := by
  unfold constraint FitsValue
  cases hop : f.operator with
  | near => exact absurd hop hother
  | contains => cases hvalue : f.value <;> simp [containsPattern?, searchText?]
  | oneOf | noneOf => cases hvalue : f.value <;> simp [Json.isArr]
  | negate =>
    cases hvalue : f.value with
    | obj fields =>
      have hobject : isOperatorObject fields = true ↔
          fields ≠ [] ∧ ∀ g ∈ fields, Text.isOperatorKey g.1 = true := by
        simp [isOperatorObject]
      simp only [Json.obj.injEq, exists_eq_left', ← hobject]
      cases isOperatorObject fields <;> simp
    | _ => simp
  | _ => simp

theorem constraint_eq_error {config : Config} {e : FilterError} (h : f.constraint config = .error e) :
    ∃ text, f.operator.expects? = some text ∧ e = f.shapeError text := by
  unfold constraint at h
  split at h
  · cases h
  · next hop =>
    split at h
    · cases h
    · exact ⟨_, by rw [hop]; rfl, (Except.error.inj h).symm⟩
  · next hop =>
    split at h
    · cases h
    · exact ⟨_, by rw [hop]; rfl, (Except.error.inj h).symm⟩
  · next hop =>
    split at h
    · cases h
    · exact ⟨_, by rw [hop]; rfl, (Except.error.inj h).symm⟩
  · next hop =>
    split at h
    · split at h
      · cases h
      · exact ⟨_, by rw [hop]; rfl, (Except.error.inj h).symm⟩
    · exact ⟨_, by rw [hop]; rfl, (Except.error.inj h).symm⟩
  · cases h

/-! ## Single filters -/

variable {config : Config} {e : FilterError}

theorem compile_near (hnear : f.operator = .near) :
    (∃ fragment, f.compile config = .ok fragment) ∧ f.Valid ∨ ∃ e, f.compile config = .error e ∧ f.Blames e := by
  have hprox : f.operator.isProximity = true := operator_eq_near_iff.2 hnear
  have hvalue : f.FitsValue ↔ IsRange f.value := by rw [FitsValue, hnear]
  unfold compile compileNear
  rw [if_pos hprox]
  by_cases hfield : f.FitsField
  · obtain ⟨⟨lng, lat⟩, hpoint⟩ := (exists_point?_iff hnear).2 hfield
    rw [hpoint]
    dsimp only
    by_cases hrange : IsRange f.value
    · obtain ⟨⟨least, most⟩, hends⟩ := (exists_distances?_iff f.value).2 hrange
      rw [hends]
      exact Or.inl ⟨⟨_, rfl⟩, hfield, hvalue.2 hrange⟩
    · have hnone : distances? f.value = none := by
        rw [Option.eq_none_iff_forall_ne_some]
        exact fun ends hends => hrange ((exists_distances?_iff f.value).1 ⟨ends, hends⟩)
      rw [hnone]
      exact Or.inr ⟨_, rfl, Or.inr ⟨mt hvalue.1 hrange, fun _ => hfield, _, by rw [hnear]; rfl, rfl⟩⟩
  · have hnone : f.point? = none := by
      rw [Option.eq_none_iff_forall_ne_some]
      exact fun p hp => hfield ((exists_point?_iff hnear).1 ⟨p, hp⟩)
    rw [hnone]
    exact Or.inr ⟨_, rfl, Or.inl ⟨hfield, by simp [hprox], rfl⟩⟩

theorem compile_other (hother : f.operator ≠ .near) :
    (∃ fragment, f.compile config = .ok fragment) ∧ f.Valid ∨ ∃ e, f.compile config = .error e ∧ f.Blames e := by
  have hprox : f.operator.isProximity = false := by
    rw [← Bool.not_eq_true, operator_eq_near_iff]
    exact hother
  have hvalue := exists_constraint_iff hother config
  have hfield := exists_fieldPath_iff hother
  unfold compile
  rw [if_neg (by simp [hprox])]
  cases hc : f.constraint config with
  | error e =>
    obtain ⟨text, htext, rfl⟩ := constraint_eq_error hc
    have hnot : ¬f.FitsValue := by simp [← hvalue, hc]
    exact Or.inr ⟨_, rfl, Or.inr ⟨hnot, by simp [hprox], text, htext, rfl⟩⟩
  | ok c =>
    have hfits : f.FitsValue := hvalue.1 ⟨c, hc⟩
    cases hp : f.fieldPath with
    | error e =>
      have hnot : ¬f.FitsField := by simp [← hfield, hp]
      exact Or.inr ⟨e, rfl, Or.inl ⟨hnot, fun _ => hfits, fieldPath_eq_error hp⟩⟩
    | ok path => exact Or.inl ⟨⟨_, rfl⟩, hfield.1 ⟨path, hp⟩, hfits⟩

/-- a single filter is valid and accepted, or it is refused for its fault -/
theorem compile_cases (f : SingleFilter) (config : Config) :
    (∃ fragment, f.compile config = .ok fragment) ∧ f.Valid ∨ ∃ e, f.compile config = .error e ∧ f.Blames e := by
  by_cases hnear : f.operator = .near
  · exact compile_near hnear
  · exact compile_other hnear

theorem exists_compile_iff : (∃ fragment, f.compile config = .ok fragment) ↔ f.Valid := by
  rcases f.compile_cases config with ⟨haccepted, hvalid⟩ | ⟨e, hrefused, hblames⟩
  · exact iff_of_true haccepted hvalid
  · exact iff_of_false (by simp [hrefused]) hblames.not_valid

theorem compile_eq_error_iff : f.compile config = .error e ↔ f.Blames e := by
  rcases f.compile_cases config with ⟨⟨fragment, haccepted⟩, hvalid⟩ | ⟨other, hrefused, hblames⟩
  · exact iff_of_false (by simp [haccepted]) fun h => h.not_valid hvalid
  · rw [hrefused, Except.error.injEq]
    exact ⟨fun h => h ▸ hblames, hblames.unique⟩

/-- the searches among accepted filters are those that become anchors -/
theorem anchor?_eq_none_iff (h : ∃ fragment, f.compile config = .ok fragment) :
    f.anchor? config = none ↔ f.operator.isProximity = false := by
  obtain ⟨fragment, hfragment⟩ := h
  cases fragment with
  | condition c => exact iff_of_true (parts_of_condition hfragment).2 (compile_eq_condition hfragment).1
  | anchor a =>
    refine iff_of_false ?_ ?_
    · simp [(parts_of_anchor hfragment).2]
    · simp [isProximity_of_anchor hfragment]

end

end SingleFilter

/-! ## Descriptors -/

namespace FilterDescriptor

/-- the single filters of a descriptor -/
def elements : FilterDescriptor → List SingleFilter
  | single f => [f]
  | combined f => f.elements

/-- how many of them search by distance -/
def searchCount (d : FilterDescriptor) : Nat := d.elements.countP (·.operator.isProximity)

/-- the fault of a descriptor: several searches, or else that of the first filter that is not valid -/
def Blames (d : FilterDescriptor) (e : FilterError) : Prop :=
  1 < d.searchCount ∧ e = .severalAnchors d.searchCount ∨
  d.searchCount ≤ 1 ∧ ∃ before f after,
    d.elements = before ++ f :: after ∧ (∀ g ∈ before, g.Valid) ∧ f.Blames e

theorem searchCount_single (f : SingleFilter) : (single f).searchCount = if f.operator.isProximity then 1 else 0 := by
  simp [searchCount, elements, List.countP_cons]

end FilterDescriptor

/-- an accepted combined filter is an anchor if it has a search, and else a predicate -/
theorem CombinedFilter.joined_cases {f : CombinedFilter} {config : Config}
    (h : ∀ e ∈ f.elements, ∃ fragment, e.compile config = .ok fragment) :
    (∃ a, f.joined config = .anchored a) ∧ 0 < f.elements.countP (·.operator.isProximity) ∨
      (∃ p, f.joined config = .predicate p) ∧ f.elements.countP (·.operator.isProximity) = 0 := by
  have hnone : (f.elements.filterMap (·.anchor? config)).getLast? = none ↔
      f.elements.countP (·.operator.isProximity) = 0 := by
    rw [List.getLast?_eq_none_iff, List.filterMap_eq_nil_iff, List.countP_eq_zero]
    refine forall₂_congr fun e he => ?_
    rw [SingleFilter.anchor?_eq_none_iff (h e he), Bool.not_eq_true]
  unfold joined
  cases hlast : (f.elements.filterMap (·.anchor? config)).getLast? with
  | none => exact Or.inr ⟨⟨_, rfl⟩, hnone.1 hlast⟩
  | some a =>
    refine Or.inl ⟨⟨_, rfl⟩, Nat.pos_of_ne_zero fun hzero => ?_⟩
    rw [hnone.2 hzero] at hlast
    cases hlast

namespace FilterDescriptor

variable {d : FilterDescriptor} {config : Config}

theorem exists_compileFilter_iff :
    (∃ filter, compileFilter (some d) config = .ok filter) ↔ d.searchCount ≤ 1 ∧ ∀ f ∈ d.elements, f.Valid := by
  cases d with
  | single f =>
    have hsearches : (single f).searchCount ≤ 1 := List.countP_le_length
    simp only [compileFilter, Outcome.map_eq_ok, hsearches, true_and]
    rw [elements, List.forall_mem_singleton, ← @SingleFilter.exists_compile_iff f config]
    constructor
    · rintro ⟨_, fragment, hfragment, -⟩
      exact ⟨fragment, hfragment⟩
    · rintro ⟨fragment, hfragment⟩
      exact ⟨_, fragment, hfragment, rfl⟩
  | combined f =>
    simp only [compileFilter, CombinedFilter.compile_eq_ok_iff, SingleFilter.exists_compile_iff]
    constructor
    · rintro ⟨_, hcount, hvalid, -⟩
      exact ⟨hcount, hvalid⟩
    · rintro ⟨hcount, hvalid⟩
      exact ⟨_, hcount, hvalid, rfl⟩

theorem kind_of_compileFilter {filter : CompiledFilter} (h : compileFilter (some d) config = .ok filter) :
    (∃ a, filter = .anchored a) ∧ d.searchCount = 1 ∨ (∃ p, filter = .predicate p) ∧ d.searchCount = 0 := by
  cases d with
  | single f =>
    obtain ⟨fragment, hfragment, rfl⟩ := Outcome.map_eq_ok.1 h
    rw [searchCount_single]
    cases fragment with
    | condition c =>
      have hprox := (SingleFilter.compile_eq_condition hfragment).1
      exact Or.inr ⟨⟨_, rfl⟩, by simp [hprox]⟩
    | anchor a =>
      have hprox := SingleFilter.isProximity_of_anchor hfragment
      exact Or.inl ⟨⟨_, rfl⟩, by simp [hprox]⟩
  | combined f =>
    obtain ⟨hcount, haccepted, rfl⟩ := CombinedFilter.compile_eq_ok_iff.1 h
    rcases CombinedFilter.joined_cases haccepted with ⟨hanchored, hpos⟩ | ⟨hpredicate, hzero⟩
    · exact Or.inl ⟨hanchored, Nat.le_antisymm hcount hpos⟩
    · exact Or.inr ⟨hpredicate, hzero⟩

/-- the first element that fails is the first that is not valid -/
theorem compileAll_eq_error_iff {elements : List SingleFilter} {e : FilterError} :
    elements.mapM (SingleFilter.compile · config) = .error e ↔ ∃ before f after,
      elements = before ++ f :: after ∧ (∀ g ∈ before, g.Valid) ∧ f.Blames e := by
  simp only [Outcome.mapM_eq_error_iff, SingleFilter.exists_compile_iff, SingleFilter.compile_eq_error_iff]

theorem compileFilter_eq_error_iff {e : FilterError} :
    compileFilter (some d) config = .error e ↔ d.Blames e := by
  cases d with
  | single f =>
    have hsearches : (single f).searchCount ≤ 1 := List.countP_le_length
    rw [Blames, or_iff_right fun h => absurd h.1 (Nat.not_lt.2 hsearches), and_iff_right hsearches, compileFilter,
      Outcome.map_eq_error, SingleFilter.compile_eq_error_iff]
    constructor
    · exact fun h => ⟨[], f, [], rfl, by simp, h⟩
    · rintro ⟨before, g, after, hsplit, -, hg⟩
      cases before with
      | nil =>
        cases hsplit
        exact hg
      | cons first before => simp [elements] at hsplit
  | combined f =>
    by_cases hseveral : 1 < (combined f).searchCount
    · rw [Blames, or_iff_left fun h => absurd hseveral (Nat.not_lt.2 h.1), and_iff_right hseveral, compileFilter,
        CombinedFilter.compile_of_several config hseveral, Except.error.injEq, eq_comm]
      rfl
    · have hsearches : (combined f).searchCount ≤ 1 := Nat.not_lt.1 hseveral
      rw [Blames, or_iff_right fun h => hseveral h.1, and_iff_right hsearches, compileFilter,
        CombinedFilter.compile_eq_error_iff hsearches, compileAll_eq_error_iff]
      rfl

/-- **Valid descriptors.** The compiler accepts a descriptor exactly if at most one of its filters searches by distance
and every one is valid. It makes an anchor of a descriptor with one search and a predicate of any other. It refuses
several searches with their count, whatever else is wrong, and otherwise blames the first filter that is not valid, for
its field or its value. -/
theorem compileFilter_exact (d : FilterDescriptor) (config : Config) :
    ((∃ filter, compileFilter (some d) config = .ok filter) ↔ d.searchCount ≤ 1 ∧ ∀ f ∈ d.elements, f.Valid) ∧
    (∀ filter, compileFilter (some d) config = .ok filter →
      (∃ a, filter = .anchored a) ∧ d.searchCount = 1 ∨ (∃ p, filter = .predicate p) ∧ d.searchCount = 0) ∧
    ∀ e, compileFilter (some d) config = .error e ↔ d.Blames e :=
  ⟨exists_compileFilter_iff, fun _ => kind_of_compileFilter, fun _ => compileFilter_eq_error_iff⟩

/-- a bakery that is near is a valid search; a blank field and a text for an array are blamed for the text -/
theorem compileFilter_exact_nearBakery :
    let near : SingleFilter := .near (-73.9) 40.7 500
    let bakery : SingleFilter := ⟨.path "name", .contains, .str "bakery"⟩
    let blank : SingleFilter := ⟨.path " ", .oneOf, .str "bakery"⟩
    (∃ filter, compileFilter (some (.combined ⟨.and, [bakery, near]⟩)) {} = .ok filter ∧
      ∃ a, filter = .anchored a) ∧
    compileFilter (some (.combined ⟨.or, [near, blank, bakery]⟩)) {} = .error (blank.shapeError "an array") := by
  intro near bakery blank
  have hbakery : bakery.Valid := ⟨⟨"name", rfl, 'n', by decide, rfl⟩, Or.inl ⟨"bakery", rfl⟩⟩
  have hrange : IsRange near.value := ⟨500, rfl, by decide, by decide⟩
  have hnear : near.Valid := ⟨⟨-73.9, 40.7, rfl, by decide, by decide⟩, hrange⟩
  have hblank : blank.Blames (blank.shapeError "an array") := by
    refine Or.inr ⟨?_, by simp [blank, Operator.isProximity], "an array", rfl, rfl⟩
    rintro ⟨items, hitems⟩
    cases hitems
  constructor
  · obtain ⟨haccepts, hkind, -⟩ := compileFilter_exact (.combined ⟨.and, [bakery, near]⟩) {}
    have hvalid : ∀ f ∈ [bakery, near], f.Valid := by simp [hbakery, hnear]
    obtain ⟨filter, hfilter⟩ := haccepts.2 ⟨by decide, hvalid⟩
    rcases hkind filter hfilter with ⟨hanchored, -⟩ | ⟨-, hnone⟩
    · exact ⟨filter, hfilter, hanchored⟩
    · exact absurd hnone (by decide)
  · obtain ⟨-, -, hrefuses⟩ := compileFilter_exact (.combined ⟨.or, [near, blank, bakery]⟩) {}
    exact (hrefuses _).2 (Or.inr ⟨by decide, [near], blank, [bakery], rfl, by simp [hnear], hblank⟩)

end FilterDescriptor

end DocumentQuery
