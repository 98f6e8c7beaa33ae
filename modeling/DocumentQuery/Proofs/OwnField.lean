/-
FILTERS AND THEIR OWN FIELD. The condition of a single filter is judged on the values at its path, so documents that
agree there get the same verdict, or the same failure. The exception is a path that is no path: a filter whose field is
the tag of a combinator, and whose value to be equal to is an array of objects, is read as joined predicates. These are
the client's own, and they look wherever they like.

- `fieldVerdict_congr`: a field of a predicate is judged on the values at its path, unless it joins branches;
- `SingleFilter.joins?`: the filters that are read as joined predicates;
- `SingleFilter.verdict?_smuggled`: every predicate can be brought in by such a filter;
- `SingleFilter.looksOnlyAt_iff`: the accepted filters that look at their own field only.
-/
import DocumentQuery.Proofs.Combination

namespace DocumentQuery

/-! ## Fields of predicates -/

/-- only the tag of a combinator is read as one -/
theorem Combinator.eq_tag_of_ofKey? {key : String} {c : Combinator} (h : ofKey? key = some c) : key = c.tag := by
  unfold ofKey? at h
  split at h
  · cases h
    rfl
  · cases h
    rfl
  · cases h
    rfl
  · cases h

/-- **A field that joins nothing.** Documents with the same values at the path are judged alike. -/
theorem fieldVerdict_congr {d d' : Document} {key : String} {condition : Json}
    (hsame : Document.resolve d key = Document.resolve d' key)
    (hplain : Combinator.ofKey? key = none ∨ (branchFault? condition).isSome = true) :
    fieldVerdict d key condition = fieldVerdict d' key condition := by
  unfold fieldVerdict
  cases hc : Combinator.ofKey? key with
  | none =>
    dsimp only
    rw [hsame]
  | some c =>
    rcases hplain with hnone | hfault
    · rw [hc] at hnone
      cases hnone
    · obtain ⟨fault, hfault⟩ := Option.isSome_iff_exists.1 hfault
      dsimp only
      rw [hfault]

namespace SingleFilter

/-! ## Filters that are read as joined predicates -/

/-- the combinator that an accepted filter is read as, if it is: its field is the tag, and the value that it asks to be
equal to is an array of objects -/
def joins? (f : SingleFilter) : Option Combinator :=
  match f.field with
  | .coordinates _ => none
  | .path p => if f.operator = .equals ∧ (branchFault? f.value).isNone then Combinator.ofKey? p else none

section

variable {f : SingleFilter} {config : Config} {c : FieldCondition} (h : f.compile config = .ok (.condition c))
include h

theorem verdict?_of_condition (d : Document) :
    f.verdict? config d = some (fieldVerdict d c.field c.constraint.toJson) := by
  rw [verdict?, h]
  dsimp only
  rw [FieldCondition.toDocument, satisfies_single]

/-- equality puts the value into the predicate as it is -/
theorem toJson_of_equals (heq : f.operator = .equals) : c.constraint.toJson = f.value := by
  obtain ⟨-, hconstraint, -⟩ := compile_eq_condition h
  unfold constraint at hconstraint
  rw [heq] at hconstraint
  rw [← Except.ok.inj hconstraint]
  rfl

/-- a filter that is not read as joined predicates has a path of its own, or no branches to join -/
theorem plain_of_joins?_none (hjoins : f.joins? = none) :
    Combinator.ofKey? c.field = none ∨ (branchFault? c.constraint.toJson).isSome = true := by
  obtain ⟨-, hconstraint, hfield⟩ := compile_eq_condition h
  unfold joins? at hjoins
  rw [hfield] at hjoins
  by_cases heq : f.operator = .equals
  · rw [toJson_of_equals h heq]
    cases hfault : branchFault? f.value with
    | some fault => exact Or.inr rfl
    | none =>
      left
      simpa [heq, hfault] using hjoins
  · -- any other constraint is written as an object
    obtain ⟨fields, hfields⟩ := constraint_object hconstraint heq
    right
    rw [hfields]
    rfl

/-- a filter that is read as joined predicates gets their verdict, whatever is at its field -/
theorem verdict?_of_joins? {combinator : Combinator} (hjoins : f.joins? = some combinator) :
    f.field = .path combinator.tag ∧
      ∀ d, f.verdict? config d = some (satisfiesJoined d combinator f.value) := by
  obtain ⟨-, -, hfield⟩ := compile_eq_condition h
  unfold joins? at hjoins
  rw [hfield] at hjoins
  dsimp only at hjoins
  split at hjoins
  · next hread =>
    obtain ⟨heq, hbranches⟩ := hread
    have hnone : branchFault? f.value = none := Option.isNone_iff_eq_none.1 hbranches
    refine ⟨?_, ?_⟩
    · rw [hfield, Combinator.eq_tag_of_ofKey? hjoins]
    · intro d
      rw [verdict?_of_condition h, toJson_of_equals h heq, fieldVerdict, hjoins]
      dsimp only
      rw [hnone]
  · cases hjoins

end

/-- one predicate in the place of a value -/
def smuggling (combinator : Combinator) (p : Document) : SingleFilter :=
  ⟨.path combinator.tag, .equals, .arr [.obj p]⟩

theorem satisfiesJoined_single (d : Document) (combinator : Combinator) (p : Document) :
    satisfiesJoined d combinator (.arr [.obj p]) =
      if combinator = .nor then (satisfies d p).map (!·) else satisfies d p := by
  cases hp : satisfies d p with
  | error e =>
    cases combinator <;> simp [satisfiesJoined, satisfiesEvery, satisfiesSome, satisfiesBranch, hp, Except.map]
  | ok b =>
    cases combinator <;> cases b <;>
      simp [satisfiesJoined, satisfiesEvery, satisfiesSome, satisfiesBranch, hp, Except.map]

/-- **Smuggled predicates.** Whatever a store can be asked can be asked by a single filter: joined under any combinator,
one predicate gets its own verdict, or the opposite one. -/
theorem verdict?_smuggled (config : Config) (combinator : Combinator) (p d : Document) :
    (smuggling combinator p).verdict? config d =
      some (if combinator = .nor then (satisfies d p).map (!·) else satisfies d p) := by
  have hcompile : (smuggling combinator p).compile config =
      .ok (.condition ⟨combinator.tag, .equals (.arr [.obj p])⟩) := by
    cases combinator <;> rfl
  have hjoins : (smuggling combinator p).joins? = some combinator := by
    cases combinator <;> rfl
  rw [(verdict?_of_joins? hcompile hjoins).2 d, smuggling, satisfiesJoined_single]

/-! ## Filters that look at their own field -/

/-- documents with the same values at a path get the same verdict, or the same failure -/
def LooksOnlyAt (config : Config) (f : SingleFilter) (path : String) : Prop :=
  ∀ d d' : Document, d.resolve path = d'.resolve path → f.verdict? config d = f.verdict? config d'

/-- **Filters that look at their own field.** An accepted filter that is no search by distance has a path, and on every
document a verdict or a failure. It looks at this path only, unless it is read as joined predicates and these do not.
Then its path is the tag of a combinator, and its verdicts are those of the joined predicates. -/
theorem looksOnlyAt_iff {f : SingleFilter} {config : Config} {fragment : Fragment}
    (h : f.compile config = .ok fragment) (hprox : f.operator.isProximity = false) :
    ∃ path, f.field = .path path ∧ (∀ d, ∃ verdict, f.verdict? config d = some verdict) ∧
      (f.LooksOnlyAt config path ↔ ∀ combinator, f.joins? = some combinator →
        ∀ d d' : Document, d.resolve path = d'.resolve path →
          satisfiesJoined d combinator f.value = satisfiesJoined d' combinator f.value) ∧
      ∀ combinator, f.joins? = some combinator →
        path = combinator.tag ∧ ∀ d, f.verdict? config d = some (satisfiesJoined d combinator f.value) := by
  cases fragment with
  | anchor a =>
    rw [isProximity_of_anchor h] at hprox
    cases hprox
  | condition c =>
    obtain ⟨-, -, hfield⟩ := compile_eq_condition h
    refine ⟨c.field, hfield, ?_, ?_, ?_⟩
    · intro d
      exact ⟨_, verdict?_of_condition h d⟩
    · cases hjoins : f.joins? with
      | none =>
        have hplain := plain_of_joins?_none h hjoins
        refine iff_of_true ?_ (by simp)
        intro d d' hsame
        rw [verdict?_of_condition h, verdict?_of_condition h, fieldVerdict_congr hsame hplain]
      | some combinator =>
        obtain ⟨-, hverdict⟩ := verdict?_of_joins? h hjoins
        simp [LooksOnlyAt, hverdict]
    · intro combinator hjoins
      obtain ⟨hpath, hverdict⟩ := verdict?_of_joins? h hjoins
      rw [hfield] at hpath
      exact ⟨FilterField.path.inj hpath, hverdict⟩

/-- names that contain a pattern which is no pattern -/
def openGroup : SingleFilter := ⟨.path "name", .contains, .str "("⟩

/-- two things of one name fail alike -/
theorem looksOnlyAt_iff_openGroup :
    let config : Config := { containsMode := .pattern }
    let d : Document := [("_id", .str "1"), ("name", .str "a")]
    let d' : Document := [("_id", .str "2"), ("name", .str "a"), ("secret", .str "x")]
    (∃ fragment, openGroup.compile config = .ok fragment) ∧ openGroup.operator.isProximity = false ∧
      openGroup.LooksOnlyAt config "name" ∧ openGroup.verdict? config d = openGroup.verdict? config d' := by
  intro config d d'
  have hprox : openGroup.operator.isProximity = false := by rfl
  have hcompile : openGroup.compile config = .ok (.condition ⟨"name", .pattern ".*(.*" true⟩) := by rfl
  obtain ⟨path, hpath, -, hlooks, -⟩ := looksOnlyAt_iff hcompile hprox
  have hname : "name" = path := FilterField.path.inj hpath
  have hnone : openGroup.joins? = none := by rfl
  have honly : openGroup.LooksOnlyAt config path := hlooks.2 (by simp [hnone])
  rw [← hname] at honly
  exact ⟨⟨_, hcompile⟩, hprox, honly, honly d d' rfl⟩

/-- a filter on the field `$or`, which neither document has, tells them apart by a secret -/
theorem smuggling_looks_elsewhere :
    let f := smuggling .or [("secret", .str "x")]
    let d : Document := [("_id", .str "1"), ("name", .str "a"), ("secret", .str "x")]
    let d' : Document := [("_id", .str "2"), ("name", .str "b"), ("secret", .str "y")]
    (∃ fragment, f.compile {} = .ok fragment) ∧ f.operator.isProximity = false ∧
      Document.resolve d "$or" = Document.resolve d' "$or" ∧
      f.verdict? {} d = some (.ok true) ∧ f.verdict? {} d' = some (.ok false) := by
  intro f d d'
  refine ⟨⟨_, rfl⟩, rfl, rfl, ?_, ?_⟩
  · rw [verdict?_smuggled]
    rfl
  · rw [verdict?_smuggled]
    rfl

end SingleFilter

end DocumentQuery
