/-
PATHS THAT DO NOT OVERLAP. Two paths overlap if one of them leads through the other. A write at a path is read back at
it, and is not seen at any path that it does not overlap:

- `descend_setAt`: what is below a path before and behind a write at another;
- `descend_of_valueAt`, `resolve_setPath_self`: what is at the path of the write itself;
- `resolve_setAll`, `resolve_mutated?`: so a path that overlaps none of the written ones has the values that it had.
-/
import Mathlib.Data.List.Infix
import DocumentQuery.Proofs.PathValues
import DocumentQuery.Proofs.ResourceCalls

namespace DocumentQuery

namespace Path

/-- one of two paths leads through the other, or they are the same -/
def Overlap (p q : String) : Prop := segments p <+: segments q ∨ segments q <+: segments p

instance (p q : String) : Decidable (Overlap p q) := inferInstanceAs (Decidable (_ ∨ _))

theorem Overlap.symm {p q : String} (h : Overlap p q) : Overlap q p := Or.symm h

/-- every segment of a path counts -/
def Full (path : String) : Prop := ∀ segment ∈ segments path, segment.isEmpty = false

instance (path : String) : Decidable (Full path) := inferInstanceAs (Decidable (∀ _ ∈ _, _))

end Path

/-! ## Reading below fields -/

namespace Json

theorem descend_obj (d : Document) (segment : String) (rest : List String) :
    (Json.obj d).descend (segment :: rest) = (Document.find? d segment).toList.flatMap (·.descend rest) := rfl

/-- nothing is below an object without fields -/
theorem descend_nil {segments : List String} (h : segments ≠ []) : (Json.obj []).descend segments = [] := by
  cases segments with
  | nil => exact absurd rfl h
  | cons segment rest => rfl

end Json

namespace Document

@[simp] theorem resolve_nil (path : String) : resolve [] path = [] := by
  obtain ⟨s, rest, hpath⟩ := Path.exists_segments path
  rw [resolve, hpath]
  rfl

/-- where every segment counts, the values at a path are found one segment after another -/
theorem resolve_of_full {path : String} (h : Path.Full path) (d : Document) :
    resolve d path = (Json.obj d).descend (Path.segments path) := by
  obtain ⟨s, rest, hpath⟩ := Path.exists_segments path
  have hrest : rest.filter (fun segment => !segment.isEmpty) = rest := by
    refine List.filter_eq_self.2 fun segment hmem => ?_
    have hfull := h segment (by simp [hpath, hmem])
    simp [hfull]
  rw [resolve, hpath, Json.descend_obj]
  dsimp only
  rw [hrest]
  cases find? d s <;> simp

/-- what stands at segments is all that reading finds there -/
theorem descend_of_valueAt {d : Document} {segments : List String} {v : Json} (h : valueAt d segments = some v) :
    (Json.obj d).descend segments = [v] := by
  induction segments generalizing d with
  | nil => cases h
  | cons s rest ih =>
    rw [valueAt_cons] at h
    obtain ⟨w, hw, hbelow⟩ := Option.bind_eq_some_iff.1 h
    rw [Json.descend_obj, hw]
    cases rest with
    | nil =>
      cases hbelow
      rfl
    | cons t rest =>
      cases w with
      | obj fields => simpa using ih hbelow
      | _ => cases hbelow

/-! ## One write -/

/-- **Reading beside a write.** Below segments that do not lead through those of a write, nor the other way round, there
is what was there before, whether the write succeeds or is blocked. -/
theorem descend_setAt (value : Json) {target read : List String} (h : ¬target <+: read) (h' : ¬read <+: target)
    (d : Document) : (Json.obj (setAt value d target).2).descend read = (Json.obj d).descend read := by
  induction target generalizing read d with
  | nil => exact absurd List.nil_prefix h
  | cons s rest ih =>
    cases read with
    | nil => exact absurd List.nil_prefix h'
    | cons t below =>
      rw [Json.descend_obj, Json.descend_obj, find?_setAt]
      by_cases hs : s = t
      · -- both lead through this segment, and part below it
        subst hs
        rw [List.cons_prefix_cons, and_iff_right rfl] at h h'
        have hbelow : below ≠ [] := by
          rintro rfl
          exact h' List.nil_prefix
        rw [if_pos rfl]
        cases rest with
        | nil => exact absurd List.nil_prefix h
        | cons u rest =>
          cases hv : find? d s with
          | none => simp [written, ih h h', Json.descend_nil hbelow]
          | some v =>
            cases v with
            | obj fields => simp [written, ih h h']
            | _ => rfl
      · rw [if_neg hs]

section

variable {path other : String} {value : Json} {d e : Document} {previous : Option Json}

theorem resolve_setPath (hfull : Path.Full other) (hapart : ¬Path.Overlap other path)
    (h : setPath d path value = (.ok previous, e)) : resolve e other = resolve d other := by
  obtain ⟨hother, hpath⟩ := not_or.1 hapart
  obtain ⟨-, rfl⟩ := setAt_of_setPath h
  rw [resolve_of_full hfull, resolve_of_full hfull, descend_setAt value hpath hother]

/-- **Reading a write.** A value that was written at a path is what is there. -/
theorem resolve_setPath_self (hfull : Path.Full path) (h : setPath d path value = (.ok previous, e)) :
    resolve e path = [value] := by
  obtain ⟨s, rest, hpath⟩ := Path.exists_segments path
  obtain ⟨hset, rfl⟩ := setAt_of_setPath h
  rw [resolve_of_full hfull]
  exact descend_of_valueAt (valueAt_setAt_self (by simp [hpath]) hset)

end

end Document

/-! ## Several writes -/

section

variable {path : String} {values d e : Document}

theorem resolve_setAll (hfull : Path.Full path) (hapart : ∀ f ∈ values, ¬Path.Overlap path f.1)
    (h : setAll d values = .ok e) : Document.resolve e path = Document.resolve d path := by
  induction values generalizing d with
  | nil =>
    cases h
    rfl
  | cons f rest ih =>
    rw [setAll] at h
    split at h
    · next t hset =>
      obtain ⟨hfirst, hrest⟩ := List.forall_mem_cons.1 hapart
      rw [ih hrest h, Document.resolve_setPath hfull hfirst hset]
    · cases h

theorem resolve_setFields {changed : Bool} (hfull : Path.Full path) (hapart : ∀ f ∈ values, ¬Path.Overlap path f.1)
    (h : setFields values d = (.ok changed, e)) : Document.resolve e path = Document.resolve d path := by
  induction values generalizing d changed with
  | nil =>
    cases h
    rfl
  | cons f rest ih =>
    obtain ⟨hfirst, hrest⟩ := List.forall_mem_cons.1 hapart
    obtain ⟨previous, t, more, hset, hmore, -⟩ := setFields_cons_iff.1 h
    rw [ih hrest hmore, Document.resolve_setPath hfull hfirst hset]

/-- a row behind an update has its values at every path that the update does not touch -/
theorem resolve_mutated? {change : Option Document} (hfull : Path.Full path)
    (hapart : ∀ f ∈ values, ¬Path.Overlap path f.1) (h : mutated? (Resource.setting values) d = .ok change) :
    Document.resolve (change.getD d) path = Document.resolve d path := by
  cases change with
  | none => rfl
  | some e => exact resolve_setFields hfull hapart (Resource.setFields_of_mutated? h)

end

end DocumentQuery
