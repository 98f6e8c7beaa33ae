/-
BLOCKED WRITES. A write walks to its place through nested objects and makes those that are missing. A parent that is
there and is no object stops it. What the write has made by then is empty and stops nothing, so a write that is
stopped has made nothing at all:

- `Blocks`: what stops a write, said by where paths lead;
- `fst_setAt_eq_error_iff`: a write fails at exactly that, and names the segment;
- `snd_setAt_of_error`: the document is then the one that there was;
- `setPath_clean`: both for paths, with what a write that succeeds reports, and what a removal behind it takes.
-/
import DocumentQuery.Proofs.ProjectedDocuments

namespace DocumentQuery.Document

/-! ## Parents that are in the way -/

/-- a proper prefix of the segments leads through nested objects to a value that is no object; the segment is the last
one of the prefix -/
def Blocks (d : Document) (segments : List String) (segment : String) : Prop :=
  ∃ parents rest v, segments = parents ++ segment :: rest ∧ rest ≠ [] ∧ d.LeadsTo (parents ++ [segment]) v ∧
    v.isObj = false

section

variable {d : Document} {s segment : String} {rest : List String} {v : Json}

theorem leadsTo_singleton_iff : d.LeadsTo [s] v ↔ find? d s = some v := by
  constructor
  · intro h
    cases h with
    | field h => exact h
    | inside _ hrest => exact absurd rfl hrest.ne_nil
  · exact .field

theorem leadsTo_cons_iff (hrest : rest ≠ []) :
    d.LeadsTo (s :: rest) v ↔ ∃ fields, find? d s = some (.obj fields) ∧ LeadsTo fields rest v := by
  constructor
  · intro h
    cases h with
    | field => exact absurd rfl hrest
    | inside h hbelow => exact ⟨_, h, hbelow⟩
  · rintro ⟨fields, h, hbelow⟩
    exact .inside h hbelow

/-- the value in the way is at the first segment, or in the object there -/
theorem blocks_cons_iff : d.Blocks (s :: rest) segment ↔
    (segment = s ∧ rest ≠ [] ∧ ∃ v, find? d s = some v ∧ v.isObj = false) ∨
      ∃ fields, find? d s = some (.obj fields) ∧ Blocks fields rest segment := by
  constructor
  · rintro ⟨parents, below, v, heq, hne, hleads, hv⟩
    cases parents with
    | nil =>
      cases heq
      exact Or.inl ⟨rfl, hne, v, leadsTo_singleton_iff.1 hleads, hv⟩
    | cons p parents =>
      cases heq
      obtain ⟨fields, hfields, hbelow⟩ := (leadsTo_cons_iff (by simp)).1 hleads
      exact Or.inr ⟨fields, hfields, parents, below, v, rfl, hne, hbelow, hv⟩
  · rintro (⟨rfl, hne, v, h, hv⟩ | ⟨fields, h, parents, below, v, rfl, hne, hbelow, hv⟩)
    · exact ⟨[], rest, v, rfl, hne, .field h, hv⟩
    · exact ⟨s :: parents, below, v, rfl, hne, .inside h hbelow, hv⟩

theorem not_blocks_nil : ¬d.Blocks [] segment := by
  rintro ⟨parents, below, v, heq, -⟩
  cases parents <;> cases heq

end

/-! ## Writes that fail -/

/-- below a parent that was made, nothing stops a write -/
theorem fst_setAt_made (value : Json) (s : String) (rest : List String) : (setAt value [] (s :: rest)).1 = .ok none :=
  setAt_of_find?_none value rest rfl

section

variable {value : Json} {d : Document} {segments : List String} {segment : String}

/-- **What stops a write.** A write fails exactly if a parent of its place is there and is no object, which it names. -/
theorem fst_setAt_eq_error_iff (value : Json) :
    (setAt value d segments).1 = .error segment ↔ d.Blocks segments segment := by
  induction segments generalizing d with
  | nil => exact iff_of_false (fun h => nomatch h) not_blocks_nil
  | cons s rest ih =>
    rw [fst_setAt, blocks_cons_iff]
    cases rest with
    | nil =>
      -- the place itself may hold anything
      refine iff_of_false (fun h => nomatch h) ?_
      rintro (⟨-, hne, -⟩ | ⟨fields, -, hbelow⟩)
      · exact hne rfl
      · exact not_blocks_nil hbelow
    | cons t rest =>
      have hne : t :: rest ≠ [] := List.cons_ne_nil _ _
      cases hv : find? d s with
      | none =>
        refine iff_of_false (fun h => nomatch (fst_setAt_made value t rest).symm.trans h) ?_
        rintro (⟨-, -, w, hw, -⟩ | ⟨fields, hfields, -⟩)
        · cases hw
        · cases hfields
      | some v =>
        cases v with
        | obj fields =>
          show (setAt value fields (t :: rest)).1 = .error segment ↔ _
          rw [ih]
          constructor
          · exact fun h => Or.inr ⟨fields, rfl, h⟩
          · rintro (⟨-, -, w, hw, hobj⟩ | ⟨inner, hinner, h⟩)
            · cases hw
              cases hobj
            · cases hinner
              exact h
        | _ =>
          constructor
          · intro h
            cases h
            exact Or.inl ⟨rfl, hne, _, rfl, rfl⟩
          · rintro (⟨rfl, -⟩ | ⟨inner, hinner, -⟩)
            · rfl
            · cases hinner

/-- **A write that fails changes nothing.** -/
theorem snd_setAt_of_error (hd : (Json.obj d).Ordered) (h : (setAt value d segments).1 = .error segment) :
    (setAt value d segments).2 = d := by
  induction segments generalizing d with
  | nil => cases h
  | cons s rest ih =>
    cases rest with
    | nil => cases h
    | cons t rest =>
      rw [setAt] at h ⊢
      cases hv : find? d s with
      | none =>
        rw [hv] at h
        cases (fst_setAt_made value t rest).symm.trans h
      | some v =>
        cases v with
        | obj fields =>
          rw [hv] at h
          have hinner : (setAt value fields (t :: rest)).2 = fields := ih (hd.find? hv) h
          dsimp only
          rw [hinner, insert_of_find? hd.fields hv]
        | _ => rfl

end

/-! ## Writes at paths -/

theorem fst_setPath (d : Document) (path : String) (value : Json) :
    (setPath d path value).1 =
      (setAt value d (Path.segments path)).1.mapError fun segment => .invalidMutation (.blocked path segment) := by
  unfold setPath
  split <;> next h => rw [h]; rfl

section

variable {d : Document} {path : String} {value : Json}

theorem fst_setPath_eq_error_iff {e : StoreError} : (setPath d path value).1 = .error e ↔
    ∃ segment, d.Blocks (Path.segments path) segment ∧ e = .invalidMutation (.blocked path segment) := by
  simp only [← fst_setAt_eq_error_iff value, fst_setPath]
  cases (setAt value d (Path.segments path)).1 with
  | ok previous => simp [Except.mapError]
  | error segment => simp [Except.mapError, eq_comm]

/-- **Clean writes.** A write at a path fails exactly if a proper prefix of the path leads through nested objects to a
value that is there and is no object, and the failure names the last segment of that prefix. The document is then as
it was, whatever parents were missing. A write that succeeds reports what a removal at the path would have taken, and
a removal at the path behind it takes what was written. -/
theorem setPath_clean (hd : (Json.obj d).Ordered) (path : String) (value : Json) :
    (∀ e, (setPath d path value).1 = .error e ↔
      ∃ segment, d.Blocks (Path.segments path) segment ∧ e = .invalidMutation (.blocked path segment)) ∧
    (∀ e, (setPath d path value).1 = .error e → (setPath d path value).2 = d) ∧
    ∀ previous, (setPath d path value).1 = .ok previous →
      previous = (removePath d path).1 ∧ (removePath (setPath d path value).2 path).1 = some value := by
  refine ⟨fun e => fst_setPath_eq_error_iff, fun e he => ?_, fun previous hok => ?_⟩
  · obtain ⟨segment, hblocks, -⟩ := fst_setPath_eq_error_iff.1 he
    rw [setPath_snd]
    exact snd_setAt_of_error hd ((fst_setAt_eq_error_iff value).2 hblocks)
  · obtain ⟨s, rest, hpath⟩ := Path.exists_segments path
    obtain ⟨hset, -⟩ := setAt_of_setPath (Prod.ext hok rfl)
    have hbehind : valueAt (setAt value d (Path.segments path)).2 (Path.segments path) = some value :=
      valueAt_setAt_self (by simp [hpath]) hset
    rw [setPath_snd]
    exact ⟨(valueAt_of_setAt hset).symm, hbehind⟩

/-- `a.b` holds a number and stops a write at `a.b.c.d`; at `a.n.m` the parent `n` is made, and at `a.b` itself the
number is replaced -/
theorem setPath_clean_numberAt :
    let d : Document := [("_id", .str "1"), ("a", .obj [("b", .nat 5)])]
    (Json.obj d).Ordered ∧
    (setPath d "a.b.c.d" .null).1 = .error (.invalidMutation (.blocked "a.b.c.d" "b")) ∧
    (setPath d "a.b.c.d" .null).2 = d ∧
    (setPath d "a.n.m" .null).1 = .ok none ∧ (removePath d "a.n.m").1 = none ∧
    (removePath (setPath d "a.n.m" .null).2 "a.n.m").1 = some .null ∧
    (setPath d "a.b" .null).1 = .ok (some (.nat 5)) ∧ (removePath d "a.b").1 = some (.nat 5) ∧
    (removePath (setPath d "a.b" .null).2 "a.b").1 = some .null := by
  intro d
  have ha : (Json.obj [("b", .nat 5)]).Ordered := Json.ordered_obj_iff.2 ⟨by decide, by simp [Json.Ordered, Json.nat]⟩
  have hd : (Json.obj d).Ordered := by
    refine Json.ordered_obj_iff.2 ⟨by decide, ?_⟩
    simp only [d, List.forall_mem_cons]
    exact ⟨trivial, ha, List.forall_mem_nil _⟩
  have hblocks : d.Blocks (Path.segments "a.b.c.d") "b" :=
    ⟨["a"], ["c", "d"], .nat 5, rfl, by simp, .inside rfl (.field rfl), rfl⟩
  obtain ⟨hfails, hkept, -⟩ := setPath_clean hd "a.b.c.d" .null
  obtain ⟨-, -, hmakes⟩ := setPath_clean hd "a.n.m" .null
  obtain ⟨-, -, hreplaces⟩ := setPath_clean hd "a.b" .null
  have herror := (hfails _).2 ⟨"b", hblocks, rfl⟩
  have hmade : (setPath d "a.n.m" .null).1 = .ok none := rfl
  have hreplaced : (setPath d "a.b" .null).1 = .ok (some (.nat 5)) := rfl
  obtain ⟨hnone, hthere⟩ := hmakes _ hmade
  obtain ⟨htaken, hnow⟩ := hreplaces _ hreplaced
  exact ⟨hd, herror, hkept _ herror, hmade, hnone.symm, hthere, hreplaced, htaken.symm, hnow⟩

end

end DocumentQuery.Document
