/-
LAWS OF WRITING. Writing at a path touches the first segment's field and nothing beside it:

- `intercalate_segments`: the segments of a path, joined again, are the path;
- `find?_setAt`: every field after a write, from the fields before it;
- `find?_setFields`: a plain field after several writes, when neither it nor what is written to it is an object;
- `same_of_setFields`: writes that report no change found the value that they put there.
-/
import Mathlib.Data.List.Basic
import DocumentQuery.Evaluation.Mutation
import DocumentQuery.Proofs.Fields
import DocumentQuery.Proofs.MutationSteps

namespace DocumentQuery

/-! ## Segments -/

namespace Path

theorem splitChars_ne_nil (sep : Char) (cs : List Char) : splitChars sep cs ≠ [] := by
  cases cs with
  | nil => simp [splitChars]
  | cons c rest =>
    rw [splitChars]
    split
    · simp
    · split <;> simp

theorem intercalate_splitChars (sep : Char) (cs : List Char) : [sep].intercalate (splitChars sep cs) = cs := by
  induction cs with
  | nil => rfl
  | cons c rest ih =>
    rw [splitChars]
    split
    · next hc =>
      subst hc
      obtain ⟨part, parts, hparts⟩ := List.exists_cons_of_ne_nil (splitChars_ne_nil c rest)
      rw [hparts] at ih ⊢
      simpa using ih
    · split
      · next hnil => exact absurd hnil (splitChars_ne_nil sep rest)
      · next part parts hparts =>
        rw [hparts] at ih
        rw [← ih]
        cases parts <;> simp

theorem segments_injective {p q : String} (h : segments p = segments q) : p = q := by
  have hsplit : splitChars '.' p.toList = splitChars '.' q.toList :=
    (List.map_injective_iff.2 fun a b hab => String.ofList_injective hab) h
  rw [← String.toList_inj, ← intercalate_splitChars '.' p.toList, hsplit, intercalate_splitChars]

theorem exists_segments (path : String) : ∃ s rest, segments path = s :: rest :=
  List.exists_cons_of_ne_nil (by simp [segments, splitChars_ne_nil])

theorem segments_id : segments "_id" = ["_id"] := by decide

end Path

namespace Document

/-- at a plain name there is the value of the field, if there is one -/
theorem resolve_of_plain {key : String} (hkey : Path.segments key = [key]) (d : Document) :
    resolve d key = (find? d key).toList := by
  unfold resolve
  rw [hkey]
  dsimp only
  cases find? d key <;> rfl

/-! ## Single writes -/

/-- what a field holds after a write at the segments below it -/
def written (value : Json) : List String → Option Json → Option Json
  | [], _ => some value
  | rest, none => some (.obj (setAt value [] rest).2)
  | rest, some (.obj fields) => some (.obj (setAt value fields rest).2)
  | _, some v => some v

/-- **Frame of a write.** Whether it succeeds or is blocked: the first segment's field changes, every other stays. -/
theorem find?_setAt (value : Json) (d : Document) (s : String) (rest : List String) (k : String) :
    find? (setAt value d (s :: rest)).2 k = if s = k then written value rest (find? d s) else find? d k := by
  cases rest with
  | nil => rw [setAt, find?_insert, written]
  | cons t rest =>
    rw [setAt]
    cases hv : find? d s with
    | none =>
      rw [find?_insert]
      rfl
    | some v =>
      cases v with
      | obj fields =>
        rw [find?_insert]
        rfl
      | _ =>
        by_cases hk : s = k
        · subst hk
          simp [hv, written]
        · simp [hk]

/-- a value that is not an object blocks every write below it -/
theorem setAt_blocked {value v : Json} {d : Document} {s t : String} {rest : List String} (hv : find? d s = some v)
    (hobj : v.isObj = false) : setAt value d (s :: t :: rest) = (.error s, d) := by
  cases v with
  | obj fields => cases hobj
  | _ => simp [setAt, hv]

theorem setPath_snd (d : Document) (path : String) (value : Json) :
    (setPath d path value).2 = (setAt value d (Path.segments path)).2 := by
  unfold setPath
  split <;> next h => rw [h]

/-- a write at a path with a result, as a write at its segments -/
theorem setAt_of_setPath {d e : Document} {path : String} {value : Json} {previous : Option Json}
    (h : setPath d path value = (.ok previous, e)) :
    (setAt value d (Path.segments path)).1 = .ok previous ∧ e = (setAt value d (Path.segments path)).2 := by
  refine ⟨?_, by rw [← setPath_snd, h]⟩
  unfold setPath at h
  split at h
  · next hset =>
    cases h
    rw [hset]
  · cases h

/-- a write with a result, seen from a field with a plain name that holds no object -/
theorem find?_setPath {d e : Document} {path key : String} {value v : Json} {previous : Option Json}
    (hkey : Path.segments key = [key]) (hv : find? d key = some v) (hobj : v.isObj = false)
    (h : setPath d path value = (.ok previous, e)) : find? e key = some (if path = key then value else v) := by
  obtain ⟨s, rest, hpath⟩ := Path.exists_segments path
  obtain ⟨hset, rfl⟩ := setAt_of_setPath h
  rw [hpath] at hset ⊢
  rw [find?_setAt]
  split
  · next hs =>
    subst hs
    cases rest with
    | nil =>
      have hsame : path = s := Path.segments_injective (hpath.trans hkey.symm)
      simp [written, hsame]
    | cons t rest =>
      rw [setAt_blocked hv hobj] at hset
      cases hset
  · next hs =>
    have hne : path ≠ key := by
      rintro rfl
      rw [hpath] at hkey
      cases hkey
      exact hs rfl
    rw [hv, if_neg hne]

end Document

/-! ## Several writes -/

/-- setting fields is all that a mutation with nothing but `$set` does -/
theorem applyMutation_set {values d e : Document} {changed : Bool}
    (h : applyMutation (Document.single "$set" (.obj values)) d = (.ok changed, e)) :
    setFields values d = (.ok changed, e) := by
  obtain ⟨first, next, more, hset, hnone, rfl⟩ := applyOperators_cons_iff.1 (applyOperators_of_applyMutation h)
  cases hnone
  rw [Bool.or_false]
  exact hset

theorem applyMutation_of_setFields {values d e : Document} {changed : Bool}
    (h : setFields values d = (.ok changed, e)) :
    applyMutation (Document.single "$set" (.obj values)) d = (.ok changed, e) := by
  have hset : applyOperator ("$set", .obj values) d = (.ok changed, e) := h
  exact applyOperators_cons_iff.2 ⟨changed, e, false, hset, rfl, (Bool.or_false changed).symm⟩

/-- a mutation that takes one path away reports whether there was a value -/
theorem applyMutation_unset (path : String) (v : Json) (d : Document) :
    applyMutation (Document.single "$unset" (.obj (Document.single path v))) d =
      (.ok (Document.removePath d path).1.isSome, (Document.removePath d path).2) := by
  show (Except.ok ((Document.removePath d path).1.isSome || false || false), (Document.removePath d path).2) = _
  rw [Bool.or_false, Bool.or_false]

theorem find?_setFields {values d e : Document} {key : String} {v : Json} {changed : Bool}
    (hkey : Path.segments key = [key]) (hvalues : values.Ordered)
    (hplain : ∀ w, Document.find? values key = some w → w.isObj = false) (hv : Document.find? d key = some v)
    (hobj : v.isObj = false) (h : setFields values d = (.ok changed, e)) :
    Document.find? e key = some ((Document.find? values key).getD v) := by
  induction values generalizing d v changed with
  | nil =>
    cases h
    exact hv
  | cons f rest ih =>
    obtain ⟨path, value⟩ := f
    obtain ⟨hlt, hrest⟩ := List.pairwise_cons.1 hvalues
    obtain ⟨previous, t, more, hset, hmore, -⟩ := setFields_cons_iff.1 h
    have ht := Document.find?_setPath hkey hv hobj hset
    by_cases hpath : path = key
    · -- the key is set here, and by no later field
      subst hpath
      have hlater : Document.find? rest path = none := Document.find?_eq_none_of_lt hlt
      have hvalue : value.isObj = false := hplain value (by simp [Document.find?])
      rw [if_pos rfl] at ht
      have := ih hrest (by simp [hlater]) ht hvalue hmore
      simpa [Document.find?, hlater] using this
    · rw [if_neg hpath] at ht
      have hplain' : ∀ w, Document.find? rest key = some w → w.isObj = false := fun w hw =>
        hplain w (by simpa [Document.find?, hpath] using hw)
      have := ih hrest hplain' ht hobj hmore
      simpa [Document.find?, hpath] using this

theorem Json.eq_str_of_same {v : Json} {t : String} (h : v.same (.str t) = true) : v = .str t := by
  cases v with
  | str u =>
    have htext : u = t := by simpa [Json.same] using h
    rw [htext]
  | _ => simp [Json.same] at h

/-- writes that report no change put the value into a plain field that was there -/
theorem same_of_setFields {values d e : Document} {key : String} {v w : Json}
    (hkey : Path.segments key = [key]) (hv : Document.find? d key = some v) (hobj : v.isObj = false)
    (h : setFields values d = (.ok false, e)) (hw : Document.find? values key = some w) : v.same w = true := by
  induction values generalizing d with
  | nil => cases hw
  | cons f rest ih =>
    obtain ⟨path, value⟩ := f
    obtain ⟨previous, t, more, hset, hmore, hreport⟩ := setFields_cons_iff.1 h
    rw [eq_comm, Bool.or_eq_false_iff, Bool.not_eq_false'] at hreport
    obtain ⟨hprevious, hnone⟩ := hreport
    by_cases hpath : path = key
    · subst hpath
      have hread : Document.setPath d path value = (.ok (Document.find? d path), Document.insert d path value) := by
        rw [Document.setPath, hkey, Document.setAt]
      rw [hread] at hset
      cases hset
      have hvalue : value = w := by simpa [Document.find?] using hw
      rw [hv, hvalue] at hprevious
      simpa using hprevious
    · have ht := Document.find?_setPath hkey hv hobj hset
      rw [if_neg hpath] at ht
      rw [hnone] at hmore
      exact ih ht hmore (by simpa [Document.find?, hpath] using hw)

end DocumentQuery
