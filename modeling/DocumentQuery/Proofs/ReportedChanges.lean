/-
REPORTED CHANGES. A mutation reports whether anything changed. The report is gathered from its single writes and
removals: it is true if one of them changed the document as it stood then. So it never misses a change, but the writes
of one mutation may undo each other, and the document that comes of them may be the one that there was:

- `Touch`, `touches`: what the steps of a mutation may write and remove;
- `trail`: the documents that a mutation passes through;
- `Edits`: a run of single writes and removals, with `edits_applyOperators` for the run of a mutation;
- `Edits.changed_iff`: a run reports a change if it passes through another document;
- `Edits.changed_iff_of_apart`: if no step touches what another one writes, it reports whether the result is another
  one;
- `applyMutation_reports`: both for mutations;
- `rename_reports_no_change`: a field that is renamed to its own name.
-/
import DocumentQuery.Proofs.KeptFields
import DocumentQuery.Proofs.SeparatePaths

namespace DocumentQuery

/-! ## What steps touch -/

/-- the path that one write or one removal of a mutation goes to -/
inductive Touch where
  | write (path : String)
  | remove (path : String)
  deriving DecidableEq, Repr

namespace Touch

def path : Touch → String
  | write p => p
  | remove p => p

/-- neither of two steps undoes the other: both remove, or their paths do not overlap -/
def Apart : Touch → Touch → Prop
  | remove _, remove _ => True
  | a, b => ¬Path.Overlap a.path b.path

instance : (a b : Touch) → Decidable (Apart a b)
  | remove _, remove _ => inferInstanceAs (Decidable True)
  | remove p, write q => inferInstanceAs (Decidable ¬Path.Overlap p q)
  | write p, remove q => inferInstanceAs (Decidable ¬Path.Overlap p q)
  | write p, write q => inferInstanceAs (Decidable ¬Path.Overlap p q)

theorem not_overlap_of_apart_write {p : String} {t : Touch} (h : Apart (write p) t) : ¬Path.Overlap p t.path := by
  cases t <;> exact h

end Touch

/-- a renaming removes at its source and writes at its target -/
def renameTouches : String × Json → List Touch
  | (source, .str target) => [.remove source, .write target]
  | _ => []

def operatorTouches (field : String × Json) : List Touch :=
  match MutationOperator.ofKey? field.1, field.2 with
  | some .set, .obj fields => fields.map fun f => .write f.1
  | some .unset, .obj fields => fields.map fun f => .remove f.1
  | some .rename, .obj fields => fields.flatMap renameTouches
  | _, _ => []

/-- all that a mutation may write and remove, in its order -/
def touches (mutation : Document) : List Touch := mutation.flatMap operatorTouches

/-! ## What a mutation passes through -/

/-- the documents behind each of several writes -/
def setTrail : List (String × Json) → Document → List Document
  | [], _ => []
  | (path, value) :: rest, d =>
    let e := (Document.setPath d path value).2
    e :: setTrail rest e

/-- the documents behind each of several removals -/
def unsetTrail : List (String × Json) → Document → List Document
  | [], _ => []
  | (path, _) :: rest, d =>
    let e := (Document.removePath d path).2
    e :: unsetTrail rest e

/-- two documents for each renaming that finds something: without the value, and with the value in its new place -/
def renameTrail : List (String × Json) → Document → List Document
  | [], _ => []
  | (source, .str target) :: rest, d =>
    match Document.removePath d source with
    | (none, _) => renameTrail rest d
    | (some value, e) =>
      let moved := (Document.setPath e target value).2
      e :: moved :: renameTrail rest moved
  | _ :: rest, d => renameTrail rest d

def operatorTrail (field : String × Json) (d : Document) : List Document :=
  match MutationOperator.ofKey? field.1, field.2 with
  | some .set, .obj fields => setTrail fields d
  | some .unset, .obj fields => unsetTrail fields d
  | some .rename, .obj fields => renameTrail fields d
  | _, _ => []

/-- the documents behind each single write and removal of a mutation -/
def trail : Document → Document → List Document
  | [], _ => []
  | field :: rest, d => operatorTrail field d ++ trail rest (applyOperator field d).2

/-! ## Single steps -/

namespace Document

section

variable {d e : Document} {path : String} {value : Json} {previous : Option Json}

theorem valueAt_of_setPath (h : setPath d path value = (.ok previous, e)) :
    valueAt d (Path.segments path) = previous :=
  valueAt_of_setAt (setAt_of_setPath h).1

theorem valueAt_setPath_self (h : setPath d path value = (.ok previous, e)) :
    valueAt e (Path.segments path) = some value := by
  obtain ⟨hset, rfl⟩ := setAt_of_setPath h
  obtain ⟨s, rest, hpath⟩ := Path.exists_segments path
  exact valueAt_setAt_self (by simp [hpath]) hset

theorem valueAt_setPath {other : String} (hapart : ¬Path.Overlap other path)
    (h : setPath d path value = (.ok previous, e)) :
    valueAt e (Path.segments other) = valueAt d (Path.segments other) := by
  obtain ⟨-, rfl⟩ := setAt_of_setPath h
  obtain ⟨hother, hpath⟩ := not_or.1 hapart
  exact valueAt_setAt hpath hother d

theorem ordered_setPath (hd : (Json.obj d).Ordered) (hvalue : value.Ordered)
    (h : setPath d path value = (.ok previous, e)) : (Json.obj e).Ordered := by
  obtain ⟨-, rfl⟩ := setAt_of_setPath h
  exact ordered_setAt hvalue hd _

/-- a write changes a document unless the value that it writes was there -/
theorem changes_setPath (hd : (Json.obj d).Ordered) (hvalue : value.Ordered)
    (h : setPath d path value = (.ok previous, e)) : (!previous.any (·.same value)) = true ↔ ¬Same e d := by
  rw [Bool.not_eq_true', ← Bool.not_eq_true, not_iff_not]
  constructor
  · intro hsame
    obtain ⟨v, rfl, hv⟩ := (Option.any_eq_true _ _).1 hsame
    obtain ⟨hset, rfl⟩ := setAt_of_setPath h
    exact same_setAt hvalue hd hset hv
  · intro hsame
    have hpath := hsame.symm.valueAt (Path.segments path)
    rwa [valueAt_of_setPath h, valueAt_setPath_self h, ← Json.sameOption_of_any_iff] at hpath

/-- a removal changes a document if it finds something -/
theorem changes_removePath (hd : (Json.obj d).Ordered) :
    (removePath d path).1.isSome = true ↔ ¬Same (removePath d path).2 d := by
  constructor
  · intro hsome hsame
    obtain ⟨v, hv⟩ := Option.isSome_iff_exists.1 hsome
    have hpath := hsame.symm.valueAt (Path.segments path)
    have hgone : valueAt (removePath d path).2 (Path.segments path) = none := valueAt_dropAt_self hd _
    rw [hgone, show valueAt d (Path.segments path) = some v from hv] at hpath
    cases hpath
  · intro hdiffers
    by_contra hnone
    have hsame : (removePath d path).2 = d := dropAt_of_removeAt_none (by simpa [removePath] using hnone)
    rw [hsame] at hdiffers
    exact hdiffers (Same.refl d)

end

variable {d next last : Document} {rest : List Document}

/-- a first step and the steps behind it pass through another document, or the first one does not and those behind do -/
theorem exists_differs_cons :
    (¬Same next d ∨ ∃ x ∈ rest, ¬Same x next) ↔ ∃ x ∈ next :: rest, ¬Same x d := by
  rw [List.exists_mem_cons_iff]
  by_cases hnext : Same next d
  · have hsame : ∀ x, ¬Same x next ↔ ¬Same x d := fun x =>
      not_congr ⟨fun h => h.trans hnext, fun h => h.trans hnext.symm⟩
    simp only [hsame]
  · simp [hnext]

/-- if a change by the first of several steps is not undone, the steps change the document if the first or the others
do -/
theorem differs_iff (hkept : Same last d → Same next d) : (¬Same next d ∨ ¬Same last next) ↔ ¬Same last d := by
  by_cases hnext : Same next d
  · have hsame : Same last next ↔ Same last d := ⟨fun h => h.trans hnext, fun h => h.trans hnext.symm⟩
    simp [hnext, hsame]
  · exact iff_of_true (Or.inl hnext) (mt hkept hnext)

end Document

/-! ## Runs of steps -/

/-- a run of single writes and removals: what they touch, the document before them, the documents behind each of them,
whether one of them changed the document as it stood, and the document behind all. A renaming that finds nothing leaves
out its steps. -/
inductive Edits : List Touch → Document → List Document → Bool → Document → Prop
  | done (d : Document) : Edits [] d [] false d
  | write {path : String} {value : Json} {previous : Option Json} {touches : List Touch} {d next last : Document}
      {trail : List Document} {more : Bool} (hvalue : value.Ordered)
      (hset : Document.setPath d path value = (.ok previous, next)) (rest : Edits touches next trail more last) :
      Edits (.write path :: touches) d (next :: trail) (!previous.any (·.same value) || more) last
  | remove (path : String) {touches : List Touch} {d last : Document} {trail : List Document} {more : Bool}
      (rest : Edits touches (Document.removePath d path).2 trail more last) :
      Edits (.remove path :: touches) d ((Document.removePath d path).2 :: trail)
        ((Document.removePath d path).1.isSome || more) last
  | skip (touch : Touch) {touches : List Touch} {d last : Document} {trail : List Document} {more : Bool}
      (rest : Edits touches d trail more last) : Edits (touch :: touches) d trail more last

namespace Edits

variable {ts us : List Touch} {d e m : Document} {trail trail' : List Document} {changed more : Bool}

theorem append (h : Edits ts d trail changed m) (h' : Edits us m trail' more e) :
    Edits (ts ++ us) d (trail ++ trail') (changed || more) e := by
  induction h with
  | done d => exact h'
  | write hvalue hset _ ih =>
    rw [Bool.or_assoc]
    exact .write hvalue hset (ih h')
  | remove path _ ih =>
    rw [Bool.or_assoc]
    exact .remove path (ih h')
  | skip touch _ ih => exact .skip touch (ih h')

theorem ordered (h : Edits ts d trail changed e) (hd : (Json.obj d).Ordered) : (Json.obj e).Ordered := by
  induction h with
  | done d => exact hd
  | write hvalue hset _ ih => exact ih (Document.ordered_setPath hd hvalue hset)
  | remove path _ ih => exact ih (Document.ordered_removePath hd path)
  | skip touch _ ih => exact ih hd

/-- the document behind a run is the last that it passes through -/
theorem last_eq (h : Edits ts d trail changed e) : trail.getLast?.getD d = e := by
  induction h with
  | done d => rfl
  | write hvalue hset rest ih => rw [List.getLast?_cons, Option.getD_some, ih]
  | remove path rest ih => rw [List.getLast?_cons, Option.getD_some, ih]
  | skip touch rest ih => exact ih

/-- **Reports of runs.** A run reports a change if it passes through another document than the one before it. -/
theorem changed_iff (h : Edits ts d trail changed e) (hd : (Json.obj d).Ordered) :
    changed = true ↔ ∃ x ∈ trail, ¬Document.Same x d := by
  induction h with
  | done d => simp
  | @write path value previous ts d next last trail more hvalue hset rest ih =>
    have hnext := Document.ordered_setPath hd hvalue hset
    rw [Bool.or_eq_true, Document.changes_setPath hd hvalue hset, ih hnext, Document.exists_differs_cons]
  | @remove path ts d last trail more rest ih =>
    rw [Bool.or_eq_true, Document.changes_removePath hd, ih (Document.ordered_removePath hd path),
      Document.exists_differs_cons]
  | skip touch _ ih => exact ih hd

/-- at a path that no step overlaps stands what stood there before -/
theorem valueAt_eq (h : Edits ts d trail changed e) (hd : (Json.obj d).Ordered) {p : String}
    (hapart : ∀ t ∈ ts, ¬Path.Overlap p t.path) :
    e.valueAt (Path.segments p) = d.valueAt (Path.segments p) := by
  induction h with
  | done d => rfl
  | write hvalue hset rest ih =>
    obtain ⟨hfirst, hrest⟩ := List.forall_mem_cons.1 hapart
    rw [ih (Document.ordered_setPath hd hvalue hset) hrest, Document.valueAt_setPath hfirst hset]
  | remove path rest ih =>
    obtain ⟨hfirst, hrest⟩ := List.forall_mem_cons.1 hapart
    obtain ⟨hp, hpath⟩ := not_or.1 hfirst
    rw [ih (Document.ordered_removePath hd path) hrest]
    exact Document.valueAt_dropAt hpath hp hd
  | skip touch rest ih => exact ih hd (List.forall_mem_cons.1 hapart).2

/-- at a path that no step writes to nothing stands if nothing stood there before -/
theorem valueAt_eq_none (h : Edits ts d trail changed e) (hd : (Json.obj d).Ordered) {p : String}
    (hapart : ∀ t ∈ ts, Touch.Apart (.remove p) t) (hnone : d.valueAt (Path.segments p) = none) :
    e.valueAt (Path.segments p) = none := by
  induction h with
  | done d => exact hnone
  | write hvalue hset rest ih =>
    obtain ⟨hfirst, hrest⟩ := List.forall_mem_cons.1 hapart
    refine ih (Document.ordered_setPath hd hvalue hset) hrest ?_
    exact (Document.valueAt_setPath hfirst hset).trans hnone
  | remove path rest ih =>
    exact ih (Document.ordered_removePath hd path) (List.forall_mem_cons.1 hapart).2
      (Document.valueAt_dropAt_of_none hd _ hnone)
  | skip touch rest ih => exact ih hd (List.forall_mem_cons.1 hapart).2 hnone

/-- **Reports of runs without overlaps.** If no step touches what another one writes, a run reports a change exactly if
the document behind it is another one. -/
theorem changed_iff_of_apart (h : Edits ts d trail changed e) (hd : (Json.obj d).Ordered)
    (hapart : ts.Pairwise Touch.Apart) : changed = true ↔ ¬Document.Same e d := by
  induction h with
  | done d => simp [Document.Same.refl]
  | @write path value previous ts d next last trail more hvalue hset rest ih =>
    obtain ⟨hfirst, hrest⟩ := List.pairwise_cons.1 hapart
    have hnext := Document.ordered_setPath hd hvalue hset
    have hwrites := Document.changes_setPath hd hvalue hset
    rw [Bool.or_eq_true, hwrites, ih hnext hrest]
    refine Document.differs_iff fun hsame => ?_
    -- the written value still stands at the end, so it is the one that stood there at the beginning
    have hpath := hsame.symm.valueAt (Path.segments path)
    rw [Document.valueAt_of_setPath hset,
      rest.valueAt_eq hnext fun t ht => Touch.not_overlap_of_apart_write (hfirst t ht),
      Document.valueAt_setPath_self hset, ← Json.sameOption_of_any_iff] at hpath
    simpa [hpath] using hwrites
  | @remove path ts d last trail more rest ih =>
    obtain ⟨hfirst, hrest⟩ := List.pairwise_cons.1 hapart
    have hnext := Document.ordered_removePath hd path
    rw [Bool.or_eq_true, Document.changes_removePath hd, ih hnext hrest]
    refine Document.differs_iff fun hsame => ?_
    -- nothing stands at the path at the end, so nothing was removed
    have hgone := rest.valueAt_eq_none hnext hfirst (Document.valueAt_dropAt_self hd (Path.segments path))
    have hpath := hsame.symm.valueAt (Path.segments path)
    rw [hgone] at hpath
    by_contra hdiffers
    obtain ⟨v, hv⟩ := Option.isSome_iff_exists.1 ((Document.changes_removePath hd).2 hdiffers)
    rw [show d.valueAt (Path.segments path) = some v from hv] at hpath
    cases hpath
  | skip touch _ ih => exact ih hd (List.pairwise_cons.1 hapart).2

end Edits

/-! ## The run of a mutation -/

section

variable {fields d e : Document} {changed : Bool}

theorem edits_setFields (hfields : ∀ f ∈ fields, f.2.Ordered) (h : setFields fields d = (.ok changed, e)) :
    Edits (fields.map fun f => .write f.1) d (setTrail fields d) changed e := by
  induction fields generalizing d changed with
  | nil =>
    cases h
    exact .done _
  | cons f rest ih =>
    obtain ⟨path, value⟩ := f
    obtain ⟨hvalue, hrest⟩ := List.forall_mem_cons.1 hfields
    obtain ⟨previous, next, more, hset, hmore, rfl⟩ := setFields_cons_iff.1 h
    have hnext : (Document.setPath d path value).2 = next := congrArg Prod.snd hset
    simp only [List.map_cons, setTrail, hnext]
    exact .write hvalue hset (ih hrest hmore)

theorem edits_unsetFields (h : unsetFields fields d = (.ok changed, e)) :
    Edits (fields.map fun f => .remove f.1) d (unsetTrail fields d) changed e := by
  induction fields generalizing d changed with
  | nil =>
    cases h
    exact .done _
  | cons f rest ih =>
    obtain ⟨path, value⟩ := f
    obtain ⟨more, hmore, rfl⟩ := unsetFields_cons_iff.1 h
    exact .remove path (ih hmore)

theorem edits_renameFields (hd : (Json.obj d).Ordered) (h : renameFields fields d = (.ok changed, e)) :
    Edits (fields.flatMap renameTouches) d (renameTrail fields d) changed e := by
  induction fields generalizing d changed with
  | nil =>
    cases h
    exact .done _
  | cons f rest ih =>
    obtain ⟨source, operand⟩ := f
    rcases renameFields_cons_cases h with ⟨target, value, next, previous, moved, more, rfl, hremove, hset, hmore, rfl⟩ |
      ⟨target, rfl, hremove, hmore⟩ | ⟨hoperand, hmore⟩
    · have hvalue : value.Ordered := Document.ordered_valueAt hd (congrArg Prod.fst hremove)
      have hnext : (Document.removePath d source).2 = next := congrArg Prod.snd hremove
      have hordered : (Json.obj next).Ordered := hnext ▸ Document.ordered_removePath hd source
      have hmoved : (Document.setPath next target value).2 = moved := congrArg Prod.snd hset
      have hedits := Edits.write hvalue hset (ih (Document.ordered_setPath hordered hvalue hset) hmore)
      rw [← hnext] at hedits
      have hrun := Edits.remove source hedits
      rw [hremove, Option.isSome_some, Bool.true_or] at hrun
      rw [renameTrail, hremove]
      dsimp only
      rw [hmoved]
      exact hrun
    · rw [renameTrail, hremove]
      exact .skip _ (.skip _ (ih hd hmore))
    · have htouches : renameTouches (source, operand) = [] := by cases operand <;> trivial
      have htrail : renameTrail ((source, operand) :: rest) d = renameTrail rest d := by cases operand <;> trivial
      rw [List.flatMap_cons, htouches, htrail]
      exact ih hd hmore

/-- one operator is a run of its steps, whatever becomes of it -/
theorem edits_applyOperator {field : String × Json} (hd : (Json.obj d).Ordered) (hfield : field.2.Ordered)
    (h : applyOperator field d = (.ok changed, e)) :
    Edits (operatorTouches field) d (operatorTrail field d) changed e := by
  rcases applyOperator_cases h with ⟨fields, hop, hfields, h⟩ | ⟨fields, hop, hfields, h⟩ |
    ⟨fields, hop, hfields, h⟩ | ⟨hnone, rfl, rfl⟩
  · simp only [operatorTouches, operatorTrail, hop, hfields]
    rw [hfields, Json.ordered_obj_iff] at hfield
    exact edits_setFields hfield.2 h
  · simp only [operatorTouches, operatorTrail, hop, hfields]
    exact edits_unsetFields h
  · simp only [operatorTouches, operatorTrail, hop, hfields]
    exact edits_renameFields hd h
  · have htouches : operatorTouches field = [] := by
      unfold operatorTouches
      split <;> simp_all [Json.isObj]
    have htrail : operatorTrail field e = [] := by
      unfold operatorTrail
      split <;> simp_all [Json.isObj]
    rw [htouches, htrail]
    exact .done e

theorem edits_applyOperators {mutation : Document} (hd : (Json.obj d).Ordered) (hm : ∀ f ∈ mutation, f.2.Ordered)
    (h : applyOperators mutation d = (.ok changed, e)) : Edits (touches mutation) d (trail mutation d) changed e := by
  induction mutation generalizing d changed with
  | nil =>
    cases h
    exact .done _
  | cons field rest ih =>
    obtain ⟨hfield, hrest⟩ := List.forall_mem_cons.1 hm
    obtain ⟨first, next, more, hfirst, hmore, rfl⟩ := applyOperators_cons_iff.1 h
    have hedits := edits_applyOperator hd hfield hfirst
    have hnext : (applyOperator field d).2 = next := congrArg Prod.snd hfirst
    rw [trail, hnext]
    exact hedits.append (ih (hedits.ordered hd) hrest hmore)

/-- **Reported changes.** A mutation that is applied to a document reports a change exactly if the document differs,
behind one of its writes and removals, from what it was before. So no change goes without a report; and if no step
touches what another one writes, the report says whether the document that comes of the mutation is another one. -/
theorem applyMutation_reports {mutation : Document} (hd : (Json.obj d).Ordered) (hm : (Json.obj mutation).Ordered)
    (h : applyMutation mutation d = (.ok changed, e)) :
    (trail mutation d).getLast?.getD d = e ∧
    (changed = true ↔ ∃ x ∈ trail mutation d, ¬Document.Same x d) ∧
    (¬Document.Same e d → changed = true) ∧
    ((touches mutation).Pairwise Touch.Apart → (changed = true ↔ ¬Document.Same e d)) := by
  have hedits := edits_applyOperators hd (Json.ordered_obj_iff.1 hm).2 (applyOperators_of_applyMutation h)
  have hreport := hedits.changed_iff hd
  refine ⟨hedits.last_eq, hreport, fun hdiffers => hreport.2 ?_, hedits.changed_iff_of_apart hd⟩
  -- the result is another document, so it is one that the mutation passes through
  have hlast := hedits.last_eq
  cases hbehind : (trail mutation d).getLast? with
  | none =>
    rw [hbehind] at hlast
    exact absurd (hlast ▸ Document.Same.refl d) hdiffers
  | some x =>
    rw [hbehind] at hlast
    exact ⟨e, hlast ▸ List.mem_of_getLast? hbehind, hdiffers⟩

/-- three operators on different fields: the paths `a` and `c.x`, `b` and `d` -/
theorem applyMutation_reports_separate :
    let d : Document := [("_id", .str "1"), ("a", .str "x"), ("d", .str "z")]
    let mutation : Document :=
      [("$rename", .obj [("a", .str "c.x")]), ("$set", .obj [("b", .str "y")]), ("$unset", .obj [("d", .str "")])]
    let e : Document := [("_id", .str "1"), ("b", .str "y"), ("c", .obj [("x", .str "x")])]
    (Json.obj d).Ordered ∧ (Json.obj mutation).Ordered ∧ applyMutation mutation d = (.ok true, e) ∧
    (touches mutation).Pairwise Touch.Apart ∧ ¬Document.Same e d := by
  intro d mutation e
  have hd : (Json.obj d).Ordered := Json.ordered_obj_iff.2 ⟨by decide, by simp [d, Json.Ordered]⟩
  have hm : (Json.obj mutation).Ordered :=
    Json.ordered_obj_iff.2 ⟨by decide, by simp [mutation, Json.Ordered, Json.OrderedFields, Document.Ordered]⟩
  have happlied : applyMutation mutation d = (.ok true, e) := rfl
  have hapart : (touches mutation).Pairwise Touch.Apart := by decide
  exact ⟨hd, hm, happlied, hapart, ((applyMutation_reports hd hm happlied).2.2.2 hapart).1 rfl⟩

/-- a field that is renamed to its own name: the report is a change, and the document is the one that there was -/
theorem rename_reports_no_change :
    let d : Document := [("_id", .str "1"), ("name", .str "a")]
    applyMutation [("$rename", .obj [("name", .str "name")])] d = (.ok true, d) ∧ Document.Same d d :=
  ⟨rfl, Document.Same.refl _⟩

end

end DocumentQuery
