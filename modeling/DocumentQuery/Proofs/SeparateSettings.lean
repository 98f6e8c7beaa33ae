/-
SETTINGS OF SEPARATE FIELDS. A mutation that only sets fields, at paths of which none leads through another, writes
what it names and nothing else. Its writes do not see one another:

- `setAt_fst_setAt`, `setAt_comm`: of two separate writes each reports the same before and behind the other, and their
  order does not matter;
- `setFields_perm`: nor does the order of several;
- `valueAt_setFields`: behind them every value stands at its path;
- `setFields_again`: writes of values that stand there already;
- `applyMutation_set_separate`: all of this for mutations.
-/
import DocumentQuery.Proofs.ReportedChanges

namespace DocumentQuery

/-! ## Two writes -/

namespace Document

/-- what a write at the segments below a field reports -/
def reported (value : Json) (segment : String) : List String → Option Json → Except String (Option Json)
  | [], previous => .ok previous
  | rest, none => (setAt value [] rest).1
  | rest, some (.obj fields) => (setAt value fields rest).1
  | _, some _ => .error segment

theorem fst_setAt (value : Json) (d : Document) (s : String) (rest : List String) :
    (setAt value d (s :: rest)).1 = reported value s rest (find? d s) := by
  cases rest with
  | nil => rfl
  | cons t rest =>
    rw [setAt]
    cases find? d s with
    | none => rfl
    | some v => cases v <;> rfl

section

variable {v w : Json} {p q : List String}

/-- a write reports the same behind a separate one as before it, and is blocked behind it if it was before -/
theorem setAt_fst_setAt (h : ¬p <+: q) (h' : ¬q <+: p) (d : Document) :
    (setAt w (setAt v d p).2 q).1 = (setAt w d q).1 := by
  induction p generalizing q d with
  | nil => exact absurd List.nil_prefix h
  | cons s rest ih =>
    cases q with
    | nil => exact absurd List.nil_prefix h'
    | cons t below =>
      rw [fst_setAt, fst_setAt, find?_setAt]
      by_cases hs : s = t
      · -- both lead through this segment, and part below it
        subst hs
        rw [List.cons_prefix_cons, and_iff_right rfl] at h h'
        rw [if_pos rfl]
        cases rest with
        | nil => exact absurd List.nil_prefix h
        | cons u rest =>
          cases below with
          | nil => exact absurd List.nil_prefix h'
          | cons c below =>
            cases find? d s with
            | none => exact ih h h' []
            | some x =>
              cases x with
              | obj fields => exact ih h h' fields
              | _ => rfl
      · rw [if_neg hs]

/-- **Separate writes commute.** Whether they succeed or are blocked, two writes of which neither leads through the
other leave the same document in either order. -/
theorem setAt_comm (hv : v.Ordered) (hw : w.Ordered) (h : ¬p <+: q) (h' : ¬q <+: p) {d : Document}
    (hd : (Json.obj d).Ordered) : (setAt w (setAt v d p).2 q).2 = (setAt v (setAt w d q).2 p).2 := by
  induction p generalizing q d with
  | nil => exact absurd List.nil_prefix h
  | cons s rest ih =>
    cases q with
    | nil => exact absurd List.nil_prefix h'
    | cons t below =>
      have hleft := ordered_setAt hw (ordered_setAt hv hd (s :: rest)) (t :: below)
      have hright := ordered_setAt hv (ordered_setAt hw hd (t :: below)) (s :: rest)
      refine ext_find? hleft.fields hright.fields fun k => ?_
      rw [find?_setAt, find?_setAt, find?_setAt, find?_setAt, find?_setAt, find?_setAt]
      by_cases hs : s = t
      · subst hs
        rw [List.cons_prefix_cons, and_iff_right rfl] at h h'
        rw [if_pos rfl, if_pos rfl]
        by_cases hk : s = k
        · rw [if_pos hk, if_pos hk]
          cases rest with
          | nil => exact absurd List.nil_prefix h
          | cons u rest =>
            cases below with
            | nil => exact absurd List.nil_prefix h'
            | cons c below =>
              cases hx : find? d s with
              | none => exact congrArg (some <| Json.obj ·) (ih h h' Json.ordered_obj_nil)
              | some x =>
                cases x with
                | obj fields => exact congrArg (some <| Json.obj ·) (ih h h' (hd.find? hx))
                | _ => rfl
        · simp only [if_neg hk]
      · rw [if_neg hs, if_neg (Ne.symm hs)]
        by_cases hk : s = k
        · have ht : t ≠ k := fun ht => hs (hk.trans ht.symm)
          simp only [if_pos hk, if_neg ht]
        · simp only [if_neg hk]

end

/-- a write at a path with a result is one at its segments -/
theorem setPath_eq_ok_iff {d e : Document} {path : String} {value : Json} {previous : Option Json} :
    setPath d path value = (.ok previous, e) ↔ setAt value d (Path.segments path) = (.ok previous, e) := by
  unfold setPath
  split <;> next h => simp [h]

theorem setPath_comm {d m e : Document} {p q : String} {v w : Json} {a b : Option Json} (hv : v.Ordered)
    (hw : w.Ordered)
    (hd : (Json.obj d).Ordered) (hapart : ¬Path.Overlap p q) (hfirst : setPath d p v = (.ok a, m))
    (hsecond : setPath m q w = (.ok b, e)) : ∃ n, setPath d q w = (.ok b, n) ∧ setPath n p v = (.ok a, e) := by
  obtain ⟨h, h'⟩ := not_or.1 hapart
  obtain ⟨ha, rfl⟩ := setAt_of_setPath hfirst
  obtain ⟨hb, rfl⟩ := setAt_of_setPath hsecond
  refine ⟨(setAt w d (Path.segments q)).2, setPath_eq_ok_iff.2 (Prod.ext ?_ rfl), setPath_eq_ok_iff.2 (Prod.ext ?_ ?_)⟩
  · rw [← setAt_fst_setAt h h' d, hb]
  · rw [setAt_fst_setAt h' h d, ha]
  · exact (setAt_comm hv hw h h' hd).symm

end Document

/-! ## Several writes -/

section

variable {values d e : Document} {changed : Bool}

/-- **Order of writes.** Separate writes leave the same document and the same report in any order. -/
theorem setFields_perm {fields : Document} (horder : values.Perm fields) (hd : (Json.obj d).Ordered)
    (hvalues : ∀ f ∈ values, f.2.Ordered) (hapart : values.Pairwise fun f g => ¬Path.Overlap f.1 g.1)
    (h : setFields values d = (.ok changed, e)) : setFields fields d = (.ok changed, e) := by
  induction horder generalizing d changed with
  | nil => exact h
  | @cons f _ _ _ ih =>
    obtain ⟨previous, next, more, hset, hmore, rfl⟩ := setFields_cons_iff.1 h
    obtain ⟨hvalue, hrest⟩ := List.forall_mem_cons.1 hvalues
    have hbehind := ih (Document.ordered_setPath hd hvalue hset) hrest hapart.of_cons hmore
    exact setFields_cons_iff.2 ⟨previous, next, more, hset, hbehind, rfl⟩
  | swap f g rest =>
    -- the two first writes change places, and so do their reports
    obtain ⟨first, m, more, hg, hmore, rfl⟩ := setFields_cons_iff.1 h
    obtain ⟨second, next, later, hf, hlater, rfl⟩ := setFields_cons_iff.1 hmore
    obtain ⟨hgvalue, hrest⟩ := List.forall_mem_cons.1 hvalues
    have hfvalue := (List.forall_mem_cons.1 hrest).1
    have hgf := (List.pairwise_cons.1 hapart).1 f List.mem_cons_self
    obtain ⟨n, hf, hg⟩ := Document.setPath_comm hgvalue hfvalue hd hgf hg hf
    have hbehind := setFields_cons_iff.2 ⟨first, next, later, hg, hlater, rfl⟩
    exact setFields_cons_iff.2 ⟨second, n, _, hf, hbehind, Bool.or_left_comm ..⟩
  | @trans _ fields' _ horder _ ih ih' =>
    have hvalues' : ∀ f ∈ fields', f.2.Ordered := fun f hf => hvalues f (horder.mem_iff.2 hf)
    have hapart' := hapart.perm horder fun hfg => mt Path.Overlap.symm hfg
    exact ih' hd hvalues' hapart' (ih hd hvalues hapart h)

/-- behind separate writes every value stands at its path -/
theorem valueAt_setFields (hd : (Json.obj d).Ordered) (hvalues : ∀ f ∈ values, f.2.Ordered)
    (hapart : values.Pairwise fun f g => ¬Path.Overlap f.1 g.1) (h : setFields values d = (.ok changed, e)) :
    ∀ f ∈ values, e.valueAt (Path.segments f.1) = some f.2 := by
  induction values generalizing d changed with
  | nil => nofun
  | cons f rest ih =>
    obtain ⟨previous, next, more, hset, hmore, rfl⟩ := setFields_cons_iff.1 h
    obtain ⟨hvalue, hrest⟩ := List.forall_mem_cons.1 hvalues
    obtain ⟨hfirst, hapart⟩ := List.pairwise_cons.1 hapart
    have hnext := Document.ordered_setPath hd hvalue hset
    refine List.forall_mem_cons.2 ⟨?_, ih hnext hrest hapart hmore⟩
    -- none of the later writes overlaps the first one
    have hkept := (edits_setFields hrest hmore).valueAt_eq hnext (List.forall_mem_map.2 hfirst)
    rw [hkept, Document.valueAt_setPath_self hset]

/-- writes of values that stand at their paths already change nothing, and report no change -/
theorem setFields_again (hd : (Json.obj d).Ordered)
    (hthere : ∀ f ∈ values, d.valueAt (Path.segments f.1) = some f.2) : setFields values d = (.ok false, d) := by
  induction values with
  | nil => rfl
  | cons f rest ih =>
    obtain ⟨hfirst, hrest⟩ := List.forall_mem_cons.1 hthere
    have hset := Document.setPath_eq_ok_iff.2 (Document.setAt_of_valueAt hd hfirst)
    exact setFields_cons_iff.2 ⟨some f.2, d, false, hset, ih hrest, by simp [Json.same_self]⟩

/-- **Settings of separate fields.** Where a mutation that only sets fields succeeds, at paths whose segments all
count and of which none leads through another: each path leads to exactly its value; every path that overlaps none of
them leads to what it led to before; the fields may be written in any order; the report says whether the document
changed; and the same mutation again reports no change and changes nothing. -/
theorem applyMutation_set_separate (hd : (Json.obj d).Ordered) (hvalues : (Json.obj values).Ordered)
    (hfull : ∀ f ∈ values, Path.Full f.1) (hapart : values.Pairwise fun f g => ¬Path.Overlap f.1 g.1)
    (h : applyMutation (Document.single "$set" (.obj values)) d = (.ok changed, e)) :
    (∀ f ∈ values, Document.resolve e f.1 = [f.2]) ∧
    (∀ path, Path.Full path → (∀ f ∈ values, ¬Path.Overlap path f.1) →
      Document.resolve e path = Document.resolve d path) ∧
    (∀ fields, values.Perm fields → setFields fields d = (.ok changed, e)) ∧
    (changed = true ↔ ¬Document.Same e d) ∧
    applyMutation (Document.single "$set" (.obj values)) e = (.ok false, e) := by
  have hset := applyMutation_set h
  have hordered := (Json.ordered_obj_iff.1 hvalues).2
  have hedits := edits_setFields hordered hset
  have hthere := valueAt_setFields hd hordered hapart hset
  refine ⟨fun f hf => ?_, fun path hpath hbeside => resolve_setFields hpath hbeside hset,
    fun fields horder => setFields_perm horder hd hordered hapart hset, ?_, ?_⟩
  · rw [Document.resolve_of_full (hfull f hf)]
    exact Document.descend_of_valueAt (hthere f hf)
  · exact hedits.changed_iff_of_apart hd (List.pairwise_map.2 hapart)
  · exact applyMutation_of_setFields (setFields_again (hedits.ordered hd) hthere)

/-- two fields below the same one, of which one is new -/
theorem applyMutation_set_separate_meta :
    let d : Document := [("_id", .str "1"), ("meta", .obj [("a", .null), ("c", .bool true)])]
    let values : Document := [("meta.a", .bool false), ("meta.b", .str "x")]
    let e : Document := [("_id", .str "1"), ("meta", .obj [("a", .bool false), ("b", .str "x"), ("c", .bool true)])]
    applyMutation (Document.single "$set" (.obj values)) d = (.ok true, e) ∧
    Document.resolve e "meta.b" = [.str "x"] ∧ Document.resolve e "meta.c" = Document.resolve d "meta.c" ∧
    setFields values.reverse d = (.ok true, e) ∧ ¬Document.Same e d ∧
    applyMutation (Document.single "$set" (.obj values)) e = (.ok false, e) := by
  intro d values e
  have hmeta : (Json.obj [("a", .null), ("c", .bool true)]).Ordered :=
    Json.ordered_obj_iff.2 ⟨by decide, by simp [Json.Ordered]⟩
  have hfields : ∀ f ∈ d, f.2.Ordered := List.forall_mem_cons.2 ⟨trivial, List.forall_mem_singleton.2 hmeta⟩
  have hd : (Json.obj d).Ordered := Json.ordered_obj_iff.2 ⟨by decide, hfields⟩
  have hvalues : (Json.obj values).Ordered := Json.ordered_obj_iff.2 ⟨by decide, by simp [values, Json.Ordered]⟩
  have hfull : ∀ f ∈ values, Path.Full f.1 := by decide
  have hapart : values.Pairwise fun f g => ¬Path.Overlap f.1 g.1 := by decide
  -- behind the first write, before the second one
  let between : Document := [("_id", .str "1"), ("meta", .obj [("a", .bool false), ("c", .bool true)])]
  have hset : setFields values d = (.ok true, e) := setFields_cons_iff.2 ⟨some .null, between, true, rfl, rfl, rfl⟩
  have happlied := applyMutation_of_setFields hset
  obtain ⟨hread, hbeside, horder, hreport, hagain⟩ := applyMutation_set_separate hd hvalues hfull hapart happlied
  exact ⟨happlied, hread ("meta.b", .str "x") (by simp [values]), hbeside "meta.c" (by decide) (by decide),
    horder _ (List.reverse_perm values).symm, hreport.1 rfl, hagain⟩

end

end DocumentQuery
