/-
VALUES AT PATHS. Writing and removing walk through nested objects only, and both report the value that they come to.
That value is said here by itself, with what one write and one removal do to it:

- `valueAt`: what stands at the segments of a path;
- `valueAt_setAt_self`, `valueAt_setAt`: behind a write, at its own segments and at others;
- `valueAt_dropAt_self`, `valueAt_dropAt`, `valueAt_dropAt_of_none`: behind a removal;
- `same_setAt`: a write of the value that stands there leaves the same document.
-/
import DocumentQuery.Proofs.Removal
import DocumentQuery.Proofs.StoredEquality
import DocumentQuery.Proofs.Writing

namespace DocumentQuery.Document

/-- what stands at segments, through nested objects only: the value that a removal takes -/
def valueAt (d : Document) (segments : List String) : Option Json := (removeAt d segments).1

theorem valueAt_cons (d : Document) (s : String) (rest : List String) :
    valueAt d (s :: rest) = (find? d s).bind (foundBelow rest) :=
  removeAt_fst d s rest

@[simp] theorem foundBelow_obj (fields : Document) (s : String) (rest : List String) :
    foundBelow (s :: rest) (.obj fields) = valueAt fields (s :: rest) := rfl

theorem valueAt_empty (segments : List String) : valueAt [] segments = none := by
  cases segments with
  | nil => rfl
  | cons s rest => rw [valueAt_cons, find?_nil, Option.bind_none]

/-- the same document has the same values at all paths -/
theorem Same.valueAt {d e : Document} (h : Same d e) (segments : List String) :
    Json.SameOption (d.valueAt segments) (e.valueAt segments) := by
  induction segments generalizing d e with
  | nil => exact .none
  | cons s rest ih =>
    have hfield := Json.find?_of_sameFields h s
    rw [valueAt_cons, valueAt_cons]
    generalize find? d s = v at hfield
    generalize find? e s = w at hfield
    cases hfield with
    | none => exact .none
    | @some v w hsame =>
      cases rest with
      | nil => exact .some hsame
      | cons t rest =>
        cases v <;> cases w
        all_goals first
          | exact ih hsame
          | exact .none
          | simp [Json.same] at hsame

theorem ordered_valueAt {d : Document} (hd : (Json.obj d).Ordered) {segments : List String} {v : Json}
    (h : valueAt d segments = some v) : v.Ordered := by
  induction segments generalizing d with
  | nil => cases h
  | cons s rest ih =>
    rw [valueAt_cons] at h
    obtain ⟨w, hw, hbelow⟩ := Option.bind_eq_some_iff.1 h
    have hwOrdered := hd.find? hw
    cases rest with
    | nil =>
      cases hbelow
      exact hwOrdered
    | cons t rest =>
      cases w with
      | obj fields => exact ih hwOrdered hbelow
      | _ => cases hbelow

/-! ## One write -/

section

variable {value : Json}

theorem ordered_setAt (hvalue : value.Ordered) {d : Document} (hd : (Json.obj d).Ordered) (segments : List String) :
    (Json.obj (setAt value d segments).2).Ordered := by
  induction segments generalizing d with
  | nil => exact hd
  | cons s rest ih =>
    cases rest with
    | nil => exact hd.insert hvalue s
    | cons t rest =>
      rw [setAt]
      cases hv : find? d s with
      | none => exact hd.insert (ih Json.ordered_obj_nil) s
      | some v =>
        cases v with
        | obj fields => exact hd.insert (ih (hd.find? hv)) s
        | _ => exact hd

/-- a write with a result reports what stood there -/
theorem valueAt_of_setAt {d : Document} {segments : List String} {previous : Option Json}
    (h : (setAt value d segments).1 = .ok previous) : valueAt d segments = previous := by
  induction segments generalizing d with
  | nil => exact Except.ok.inj h
  | cons s rest ih =>
    cases rest with
    | nil => exact Except.ok.inj h
    | cons t rest =>
      rw [valueAt_cons]
      rw [setAt] at h
      cases hv : find? d s with
      | none =>
        rw [hv] at h
        rw [← ih h, valueAt_empty, Option.bind_none]
      | some v =>
        cases v with
        | obj fields =>
          rw [hv] at h
          exact ih h
        | _ =>
          rw [hv] at h
          cases h

/-- what was written stands there -/
theorem valueAt_setAt_self {d : Document} {segments : List String} (hne : segments ≠ []) {previous : Option Json}
    (h : (setAt value d segments).1 = .ok previous) : valueAt (setAt value d segments).2 segments = some value := by
  induction segments generalizing d with
  | nil => exact absurd rfl hne
  | cons s rest ih =>
    rw [valueAt_cons, find?_setAt, if_pos rfl]
    cases rest with
    | nil => rfl
    | cons t rest =>
      have hrest : t :: rest ≠ [] := List.cons_ne_nil _ _
      rw [setAt] at h
      cases hv : find? d s with
      | none =>
        rw [hv] at h
        exact ih hrest h
      | some v =>
        cases v with
        | obj fields =>
          rw [hv] at h
          exact ih hrest h
        | _ =>
          rw [hv] at h
          cases h

/-- **Values beside a write.** At segments that do not lead through those of a write, nor the other way round, there
stands what stood there before, whether the write succeeds or is blocked. -/
theorem valueAt_setAt {target read : List String} (h : ¬target <+: read) (h' : ¬read <+: target) (d : Document) :
    valueAt (setAt value d target).2 read = valueAt d read := by
  induction target generalizing read d with
  | nil => exact absurd List.nil_prefix h
  | cons s rest ih =>
    cases read with
    | nil => exact absurd List.nil_prefix h'
    | cons t below =>
      rw [valueAt_cons, valueAt_cons, find?_setAt]
      by_cases hs : s = t
      · -- both lead through this segment, and part below it
        subst hs
        rw [List.cons_prefix_cons, and_iff_right rfl] at h h'
        rw [if_pos rfl]
        cases rest with
        | nil => exact absurd List.nil_prefix h
        | cons u rest =>
          cases below with
          | nil => exact absurd List.nil_prefix h'
          | cons c below =>
            cases hv : find? d s with
            | none => simpa [written, valueAt_empty] using ih h h' []
            | some v =>
              cases v with
              | obj fields => exact ih h h' fields
              | _ => rfl
      · rw [if_neg hs]

theorem insert_of_find? {d : Document} (hd : d.Ordered) {key : String} {v : Json} (h : find? d key = some v) :
    insert d key v = d := by
  refine ext_find? (ordered_insert hd key v) hd fun k => ?_
  rw [find?_insert]
  split
  · next hk => rw [← hk, h]
  · rfl

/-- a write of exactly what stands there changes nothing -/
theorem setAt_of_valueAt {d : Document} (hd : (Json.obj d).Ordered) {segments : List String}
    (h : valueAt d segments = some value) : setAt value d segments = (.ok (some value), d) := by
  induction segments generalizing d with
  | nil => cases h
  | cons s rest ih =>
    rw [valueAt_cons] at h
    obtain ⟨v, hv, hbelow⟩ := Option.bind_eq_some_iff.1 h
    cases rest with
    | nil =>
      cases hbelow
      rw [setAt, hv, insert_of_find? hd.fields hv]
    | cons t rest =>
      cases v with
      | obj fields =>
        rw [setAt, hv]
        dsimp only
        rw [ih (hd.find? hv) hbelow, insert_of_find? hd.fields hv]
      | _ => cases hbelow

/-- a write of a value that is the same as the one that stands there leaves the same document -/
theorem same_setAt (hvalue : value.Ordered) {d : Document} (hd : (Json.obj d).Ordered) {segments : List String}
    {v : Json}
    (h : (setAt value d segments).1 = .ok (some v)) (hsame : v.same value = true) :
    Same (setAt value d segments).2 d := by
  induction segments generalizing d with
  | nil => cases h
  | cons s rest ih =>
    have hprevious := valueAt_of_setAt h
    rw [valueAt_cons] at hprevious
    obtain ⟨w, hw, hbelow⟩ := Option.bind_eq_some_iff.1 hprevious
    have hwritten : Json.SameOption (written value rest (some w)) (some w) := by
      cases rest with
      | nil =>
        cases hbelow
        exact .some (Json.same_symm hsame)
      | cons t rest =>
        cases w with
        | obj fields =>
          rw [setAt, hw] at h
          exact .some (ih (hd.find? hw) h)
        | _ => cases hbelow
    refine (same_iff (ordered_setAt hvalue hd _).fields hd.fields).2 fun k => ?_
    rw [find?_setAt]
    split
    · next hk =>
      rw [← hk, hw]
      exact hwritten
    · exact Json.SameOption.refl _

end

/-! ## One removal -/

/-- what was removed is gone -/
theorem valueAt_dropAt_self {d : Document} (hd : (Json.obj d).Ordered) (segments : List String) :
    valueAt (dropAt d segments) segments = none :=
  removeAt_none_of_dropAt (ordered_dropAt hd segments) (dropAt_idem hd segments)

/-- **Values beside a removal.** At segments that do not lead through those of a removal, nor the other way round, there
stands what stood there before. -/
theorem valueAt_dropAt {target read : List String} (h : ¬target <+: read) (h' : ¬read <+: target) {d : Document}
    (hd : (Json.obj d).Ordered) : valueAt (dropAt d target) read = valueAt d read := by
  induction target generalizing read d with
  | nil => exact absurd List.nil_prefix h
  | cons s rest ih =>
    cases read with
    | nil => exact absurd List.nil_prefix h'
    | cons t below =>
      rw [valueAt_cons, valueAt_cons, find?_dropAt hd.fields]
      by_cases hs : s = t
      · subst hs
        rw [List.cons_prefix_cons, and_iff_right rfl] at h h'
        rw [if_pos rfl]
        cases rest with
        | nil => exact absurd List.nil_prefix h
        | cons u rest =>
          cases below with
          | nil => exact absurd List.nil_prefix h'
          | cons c below =>
            cases hv : find? d s with
            | none => rfl
            | some v =>
              cases v with
              | obj fields => exact ih h h' (hd.find? hv)
              | _ => rfl
      · rw [if_neg hs]

/-- a removal brings nothing forth -/
theorem valueAt_dropAt_of_none {d : Document} (hd : (Json.obj d).Ordered) {read : List String} (target : List String)
    (h : valueAt d read = none) : valueAt (dropAt d target) read = none := by
  induction target generalizing read d with
  | nil => rwa [dropAt_nil]
  | cons s rest ih =>
    cases read with
    | nil => rfl
    | cons t below =>
      rw [valueAt_cons] at h ⊢
      rw [find?_dropAt hd.fields]
      by_cases hs : s = t
      · subst hs
        rw [if_pos rfl]
        cases hv : find? d s with
        | none => rfl
        | some v =>
          rw [hv, Option.bind_some] at h
          cases rest with
          | nil => rfl
          | cons u rest =>
            cases v with
            | obj fields =>
              cases below with
              | nil => cases h
              | cons c below => exact ih (hd.find? hv) h
            | _ => exact h
      · rw [if_neg hs]
        exact h

end DocumentQuery.Document
