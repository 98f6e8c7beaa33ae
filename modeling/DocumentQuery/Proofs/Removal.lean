/-
LAWS OF REMOVAL. Removing at a path touches the first segment's field and nothing beside it, so removals commute and a
second one at the same path does nothing:

- `find?_dropAt`: every field after a removal, from the fields before it;
- `removeAt_fst`: what a removal finds, which is nothing exactly if it changes nothing;
- `dropAt_comm`, `dropAt_idem`: order and repetition of removals do not matter;
- `without_keys_ofList`: a list of paths may be sorted and freed of repetitions before it is removed.

All of it needs that keys increase at every depth, which every reader and writer of documents keeps.
-/
import Mathlib.Data.List.Induction
import DocumentQuery.Path.Edit
import DocumentQuery.Proofs.Fields

namespace DocumentQuery

namespace Document

/-- the document after a removal at segments -/
def dropAt (d : Document) (segments : List String) : Document := (removeAt d segments).2

/-- what remains of the value of a field after a removal at the segments below it -/
def remains : List String → Json → Option Json
  | [], _ => none
  | rest, .obj fields => some (.obj (dropAt fields rest))
  | _, v => some v

@[simp] theorem dropAt_nil (d : Document) : dropAt d [] = d := by
  simp [dropAt, removeAt]

@[simp] theorem dropAt_leaf (d : Document) (leaf : String) : dropAt d [leaf] = erase d leaf := by
  simp [dropAt, removeAt]

/-- a removal that finds nothing changes nothing -/
theorem dropAt_of_removeAt_none {d : Document} {segments : List String} (h : (removeAt d segments).1 = none) :
    dropAt d segments = d := by
  unfold dropAt
  revert h
  fun_cases removeAt d segments with
  | case1 => simp
  | case2 leaf => exact fun h => erase_of_find?_none h
  | case3 => simp
  | case4 => simp
  | case5 => simp

/-- below a field with an object, a removal goes on inside of it -/
theorem dropAt_obj {d fields : Document} {s : String} (t : String) (rest : List String)
    (h : find? d s = some (.obj fields)) :
    dropAt d (s :: t :: rest) = insert d s (.obj (dropAt fields (t :: rest))) ∨
      (dropAt d (s :: t :: rest) = d ∧ dropAt fields (t :: rest) = fields) := by
  cases hr : removeAt fields (t :: rest) with
  | mk found inner =>
    cases found with
    | some v => exact Or.inl (by simp [dropAt, removeAt, h, hr])
    | none => exact Or.inr ⟨by simp [dropAt, removeAt, h, hr], dropAt_of_removeAt_none (by rw [hr])⟩

/-- without an object at the first segment there is nothing to remove -/
theorem dropAt_of_not_obj {d : Document} {s t : String} {rest : List String}
    (h : ∀ fields, find? d s ≠ some (.obj fields)) : dropAt d (s :: t :: rest) = d := by
  unfold dropAt removeAt
  split
  · next fields hf => exact absurd hf (h fields)
  · rfl

/-- **Frame of a removal.** The first segment's field keeps what remains of it, every other one is as before. -/
theorem find?_dropAt {d : Document} (hd : d.Ordered) (s : String) (rest : List String) (k : String) :
    find? (dropAt d (s :: rest)) k = if s = k then (find? d s).bind (remains rest) else find? d k := by
  cases rest with
  | nil =>
    rw [dropAt_leaf, find?_erase hd]
    split <;> cases find? d s <;> rfl
  | cons t rest =>
    by_cases hobj : ∃ fields, find? d s = some (.obj fields)
    · obtain ⟨fields, hf⟩ := hobj
      rcases dropAt_obj t rest hf with h | ⟨h, hsame⟩
      · rw [h, find?_insert, hf]
        rfl
      · rw [h]
        split
        · next hk => simp [← hk, hf, remains, hsame]
        · rfl
    · have hnot : ∀ fields, find? d s ≠ some (.obj fields) := fun fields hf => hobj ⟨fields, hf⟩
      rw [dropAt_of_not_obj hnot]
      split
      · next hk =>
        subst hk
        cases hv : find? d s with
        | none => rfl
        | some v =>
          cases v with
          | obj fields => exact absurd hv (hnot fields)
          | _ => rfl
      · rfl

theorem ordered_dropAt {d : Document} (hd : (Json.obj d).Ordered) (segments : List String) :
    (Json.obj (dropAt d segments)).Ordered := by
  induction segments generalizing d with
  | nil => simpa using hd
  | cons s rest ih =>
    cases rest with
    | nil =>
      rw [dropAt_leaf]
      exact hd.erase s
    | cons t rest =>
      by_cases hobj : ∃ fields, find? d s = some (.obj fields)
      · obtain ⟨fields, hf⟩ := hobj
        rcases dropAt_obj t rest hf with h | ⟨h, -⟩
        · rw [h]
          exact hd.insert (ih (hd.find? hf)) s
        · rw [h]
          exact hd
      · rw [dropAt_of_not_obj fun fields hf => hobj ⟨fields, hf⟩]
        exact hd

/-! ## What a removal finds -/

/-- what a removal finds in a field at the segments below it -/
def foundBelow : List String → Json → Option Json
  | [], v => some v
  | rest, .obj fields => (removeAt fields rest).1
  | _, _ => none

/-- what a removal finds depends on the field that its path begins with, and on no other -/
theorem removeAt_fst (d : Document) (s : String) (rest : List String) :
    (removeAt d (s :: rest)).1 = (find? d s).bind (foundBelow rest) := by
  cases rest with
  | nil =>
    rw [removeAt]
    cases find? d s <;> rfl
  | cons t rest =>
    unfold removeAt
    cases find? d s with
    | none => rfl
    | some v =>
      cases v with
      | obj fields =>
        rcases hr : removeAt fields (t :: rest) with ⟨_ | found, inner⟩ <;> simp [foundBelow, hr]
      | _ => rfl

/-- what stands at a path is a matter of the field that the path begins with -/
theorem removePath_fst (d : Document) {path k : String} {below : List String} (h : Path.segments path = k :: below) :
    (removePath d path).1 = (find? d k).bind (foundBelow below) := by
  rw [removePath, h, removeAt_fst]

/-- a removal that changes nothing found nothing -/
theorem removeAt_none_of_dropAt {d : Document} (hd : (Json.obj d).Ordered) {segments : List String}
    (h : dropAt d segments = d) : (removeAt d segments).1 = none := by
  induction segments generalizing d with
  | nil => rw [removeAt]
  | cons s rest ih =>
    have hfind := find?_dropAt hd.fields s rest s
    rw [h, if_pos rfl] at hfind
    rw [removeAt_fst]
    cases hv : find? d s with
    | none => rfl
    | some v =>
      rw [hv, Option.bind_some] at hfind
      cases rest with
      | nil => cases hfind
      | cons t rest =>
        cases v with
        | obj fields =>
          have hsame : fields = dropAt fields (t :: rest) := Json.obj.inj (Option.some.inj hfind)
          exact ih (hd.find? hv) hsame.symm
        | _ => rfl

/-! ## Several removals -/

theorem remains_comm {v : Json} (hv : v.Ordered) (p q : List String)
    (ih : ∀ d : Document, (Json.obj d).Ordered → dropAt (dropAt d p) q = dropAt (dropAt d q) p) :
    (remains p v).bind (remains q) = (remains q v).bind (remains p) := by
  cases p with
  | nil => cases remains q v <;> rfl
  | cons s ps =>
    cases q with
    | nil => cases remains (s :: ps) v <;> rfl
    | cons t qs =>
      cases v with
      | obj fields => simp [remains, ih fields hv]
      | _ => rfl

/-- **Removals commute.** -/
theorem dropAt_comm {d : Document} (hd : (Json.obj d).Ordered) (p q : List String) :
    dropAt (dropAt d p) q = dropAt (dropAt d q) p := by
  induction p generalizing d q with
  | nil => simp
  | cons s ps ih =>
    cases q with
    | nil => simp
    | cons t qs =>
      have hs := ordered_dropAt hd (s :: ps)
      have ht := ordered_dropAt hd (t :: qs)
      refine ext_find? (ordered_dropAt hs _).fields (ordered_dropAt ht _).fields fun k => ?_
      simp only [find?_dropAt hs.fields, find?_dropAt ht.fields, find?_dropAt hd.fields]
      by_cases hst : s = t
      · subst hst
        by_cases hk : s = k
        · -- both removals go below the same field
          subst hk
          cases hv : find? d s with
          | none => simp
          | some v => simpa using remains_comm (hd.find? hv) ps qs fun e he => ih he qs
        · simp [hk]
      · by_cases hk : s = k
        · subst hk
          simp [Ne.symm hst]
        · simp [hk, hst]

/-- **A second removal does nothing.** -/
theorem dropAt_idem {d : Document} (hd : (Json.obj d).Ordered) (p : List String) :
    dropAt (dropAt d p) p = dropAt d p := by
  induction p generalizing d with
  | nil => simp
  | cons s ps ih =>
    have hs := ordered_dropAt hd (s :: ps)
    refine ext_find? (ordered_dropAt hs _).fields hs.fields fun k => ?_
    simp only [find?_dropAt hs.fields, find?_dropAt hd.fields]
    by_cases hk : s = k
    · subst hk
      cases hv : find? d s with
      | none => simp
      | some v =>
        cases ps with
        | nil => simp [remains]
        | cons t ps =>
          cases v with
          | obj fields => simpa [remains] using ih (hd.find? hv)
          | _ => simp [remains]
    · simp [hk]

/-! ## Lists of paths -/

@[simp] theorem without_cons (d : Document) (p : String) (ps : List String) :
    without d (p :: ps) = without (removePath d p).2 ps := rfl

theorem without_append (d : Document) (ps qs : List String) : without d (ps ++ qs) = without (without d ps) qs := by
  simp [without]

theorem ordered_removePath {d : Document} (hd : (Json.obj d).Ordered) (p : String) :
    (Json.obj (removePath d p).2).Ordered :=
  ordered_dropAt hd _

/-- the last removal may come first -/
theorem removePath_without {d : Document} (hd : (Json.obj d).Ordered) (ps : List String) (p : String) :
    (removePath (without d ps) p).2 = without (removePath d p).2 ps := by
  induction ps generalizing d with
  | nil => rfl
  | cons q ps ih =>
    rw [without_cons, ih (ordered_removePath hd q), without_cons]
    exact congrArg (without · ps) (dropAt_comm hd _ _)

/-- one more path, sorted in among others, is one more removal -/
theorem without_keys_insert {d : Document} (hd : (Json.obj d).Ordered) (body : Document) (key : String) (v : Json) :
    without d ((insert body key v).map (·.1)) = (removePath (without d (body.map (·.1))) key).2 := by
  induction body generalizing d with
  | nil => rfl
  | cons f rest ih =>
    obtain ⟨k, w⟩ := f
    have hk := ordered_removePath hd k
    simp only [insert]
    split
    · next h =>
      subst h
      simp only [List.map_cons, without_cons]
      rw [removePath_without hk]
      exact congrArg (without · _) (dropAt_idem hd _).symm
    · split
      · rw [removePath_without hd]
        rfl
      · simpa using ih hk

/-- **Paths as a set.** Removing at sorted paths without repetition comes to the same as removing at the list. -/
theorem without_keys_ofList {d : Document} (hd : (Json.obj d).Ordered) (fields : List (String × Json)) :
    without d ((ofList fields).map (·.1)) = without d (fields.map (·.1)) := by
  induction fields using List.reverseRecOn with
  | nil => rfl
  | append_singleton fields f ih =>
    have hlist : ofList (fields ++ [f]) = insert (ofList fields) f.1 f.2 := by simp [ofList]
    rw [hlist, without_keys_insert hd, ih, List.map_append, without_append]
    rfl

end Document

end DocumentQuery
