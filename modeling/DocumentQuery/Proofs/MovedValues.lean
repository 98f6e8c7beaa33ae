/-
MOVED VALUES. A removal gives back what it takes, and a renaming is a removal and a write of the same value in another
place. Neither loses anything:

- `LeadsTo`: where a path leads through nested objects, said by itself; `valueAt_eq_some_iff`: a removal takes what
  stands there;
- `setAt_dropAt`: what was removed, written back at its place, restores the document;
- `descend_dropAt`, `resolve_removePath`: what is at a path beside a removal;
- `applyMutation_rename_cases`: what a renaming that succeeds has done;
- `moves_lossless`: removals are undone by writing back, and renamings move one value and keep all others.
-/
import DocumentQuery.Proofs.ReportedChanges

namespace DocumentQuery

namespace Document

/-! ## Where paths lead -/

/-- segments lead through nested objects to a value -/
inductive LeadsTo : Document → List String → Json → Prop
  | field {d : Document} {segment : String} {v : Json} (h : find? d segment = some v) : LeadsTo d [segment] v
  | inside {d fields : Document} {segment : String} {rest : List String} {v : Json}
      (h : find? d segment = some (.obj fields)) (hrest : LeadsTo fields rest v) : LeadsTo d (segment :: rest) v

theorem LeadsTo.ne_nil {d : Document} {segments : List String} {v : Json} (h : LeadsTo d segments v) :
    segments ≠ [] := by
  cases h <;> exact List.cons_ne_nil _ _

/-- **Taken values.** What a removal takes at segments is the value that they lead to. -/
theorem valueAt_eq_some_iff {d : Document} {segments : List String} {v : Json} :
    valueAt d segments = some v ↔ LeadsTo d segments v := by
  constructor
  · intro h
    induction segments generalizing d with
    | nil => cases h
    | cons s rest ih =>
      rw [valueAt_cons] at h
      obtain ⟨w, hw, hbelow⟩ := Option.bind_eq_some_iff.1 h
      cases rest with
      | nil =>
        cases hbelow
        exact .field hw
      | cons t rest =>
        cases w with
        | obj fields => exact .inside hw (ih hbelow)
        | _ => cases hbelow
  · intro h
    induction h with
    | field h => exact h
    | @inside d fields s rest v h hrest ih =>
      obtain ⟨t, below, rfl⟩ := List.exists_cons_of_ne_nil hrest.ne_nil
      rw [valueAt_cons, h]
      exact ih

theorem valueAt_eq_none_iff {d : Document} {segments : List String} :
    valueAt d segments = none ↔ ∀ v, ¬LeadsTo d segments v := by
  simp only [← valueAt_eq_some_iff, Option.eq_none_iff_forall_not_mem, Option.mem_def]

/-! ## Removal and restoration -/

/-- a field that gets its value back, while all others are as they were, makes the document that there was -/
theorem insert_eq_of_find? {d e : Document} (hd : d.Ordered) (he : e.Ordered) {key : String} {v : Json}
    (hv : find? d key = some v) (hothers : ∀ k, key ≠ k → find? e k = find? d k) : insert e key v = d := by
  refine ext_find? (ordered_insert he key v) hd fun k => ?_
  rw [find?_insert]
  split
  · next hk => rw [← hk, hv]
  · next hk => exact hothers k hk

/-- **Restoration.** What was removed at segments is written back there without anything in its way, and the document is
the one that there was. -/
theorem setAt_dropAt {d : Document} (hd : (Json.obj d).Ordered) {segments : List String} {v : Json}
    (h : LeadsTo d segments v) : setAt v (dropAt d segments) segments = (.ok none, d) := by
  induction h with
  | @field d s v h =>
    have hgone : find? (erase d s) s = none := by
      rw [find?_erase hd.fields, if_pos rfl]
    have hback : insert (erase d s) s v = d := by
      apply insert_eq_of_find? hd.fields (ordered_erase hd.fields s) h
      intro k hk
      rw [find?_erase hd.fields, if_neg hk]
    rw [dropAt_leaf, setAt, hgone, hback]
  | @inside d fields s rest v h hrest ih =>
    obtain ⟨t, below, rfl⟩ := List.exists_cons_of_ne_nil hrest.ne_nil
    have hfields := hd.find? h
    have hleft : find? (dropAt d (s :: t :: below)) s = some (.obj (dropAt fields (t :: below))) := by
      rw [find?_dropAt hd.fields, if_pos rfl, h]
      rfl
    have hback : insert (dropAt d (s :: t :: below)) s (.obj fields) = d := by
      apply insert_eq_of_find? hd.fields (ordered_dropAt hd _).fields h
      intro k hk
      rw [find?_dropAt hd.fields, if_neg hk]
    rw [setAt, hleft]
    dsimp only
    rw [ih hfields, hback]

/-- **Reading beside a removal.** Below segments that do not lead through those of a removal, nor the other way round,
there is what was there before. -/
theorem descend_dropAt {target read : List String} (h : ¬target <+: read) (h' : ¬read <+: target) {d : Document}
    (hd : (Json.obj d).Ordered) : (Json.obj (dropAt d target)).descend read = (Json.obj d).descend read := by
  induction target generalizing read d with
  | nil => exact absurd List.nil_prefix h
  | cons s rest ih =>
    cases read with
    | nil => exact absurd List.nil_prefix h'
    | cons t below =>
      rw [Json.descend_obj, Json.descend_obj, find?_dropAt hd.fields]
      by_cases hs : s = t
      · -- both lead through this segment, and part below it
        subst hs
        rw [List.cons_prefix_cons, and_iff_right rfl] at h h'
        rw [if_pos rfl]
        cases rest with
        | nil => exact absurd List.nil_prefix h
        | cons u rest =>
          cases hv : find? d s with
          | none => rfl
          | some v =>
            cases v with
            | obj fields => simpa [remains] using ih h h' (hd.find? hv)
            | _ => rfl
      · rw [if_neg hs]

theorem resolve_removePath {path other : String} (hfull : Path.Full other) (hapart : ¬Path.Overlap other path)
    {d : Document} (hd : (Json.obj d).Ordered) : resolve (removePath d path).2 other = resolve d other := by
  obtain ⟨hother, hpath⟩ := not_or.1 hapart
  rw [resolve_of_full hfull, resolve_of_full hfull]
  exact descend_dropAt hpath hother hd

end Document

/-! ## Renamings -/

/-- the mutation with one renaming -/
def singleRename (source target : String) : Document :=
  Document.single "$rename" (.obj (Document.single source (.str target)))

section

variable {source target : String} {d e : Document} {changed : Bool}

/-- a renaming that succeeds has moved what was at its source, or has found nothing there and done nothing -/
theorem applyMutation_rename_cases (h : applyMutation (singleRename source target) d = (.ok changed, e)) :
    (∃ v next previous, Document.removePath d source = (some v, next) ∧
        Document.setPath next target v = (.ok previous, e) ∧ changed = true) ∨
    (Document.removePath d source = (none, d) ∧ changed = false ∧ e = d) := by
  obtain ⟨first, next, more, hrename, hnone, rfl⟩ := applyOperators_cons_iff.1 (applyOperators_of_applyMutation h)
  cases hnone
  have hrename : renameFields [(source, .str target)] d = (.ok first, e) := hrename
  rcases renameFields_cons_cases hrename with ⟨t, v, removed, previous, moved, more, ht, hremove, hset, hrest, rfl⟩ |
    ⟨t, ht, hremove, hrest⟩ | ⟨htext, -⟩
  · cases ht
    cases hrest
    exact Or.inl ⟨v, removed, previous, hremove, hset, rfl⟩
  · cases hrest
    exact Or.inr ⟨hremove, rfl, rfl⟩
  · cases htext

/-- without a value at its source a renaming does nothing, whatever its target -/
theorem applyMutation_rename_of_absent (target : String) (h : (Document.removePath d source).1 = none) :
    applyMutation (singleRename source target) d = (.ok false, d) := by
  have hd : (Document.removePath d source).2 = d := Document.dropAt_of_removeAt_none h
  have hremove : removePath source d = (.ok none, d) := by
    show (Except.ok (Document.removePath d source).1, (Document.removePath d source).2) = _
    rw [h, hd]
  have hrename : applyOperator ("$rename", .obj [(source, .str target)]) d = (.ok false, d) :=
    Outcome.run_bind_of_ok hremove
  exact applyOperators_cons_iff.2 ⟨false, d, false, hrename, rfl, rfl⟩

/-- **Nothing is lost.** A removal that finds nothing changes nothing; one that finds a value is undone by writing the
value back, which meets no other value. Where a renaming between paths that do not overlap succeeds, and its source
leads to a value, this is what the target leads to, the source leads to nothing, and every path that overlaps neither
of the two leads to what it led to before. If the source leads to nothing, the document stays as it is, and no change
is reported. -/
theorem moves_lossless (hd : (Json.obj d).Ordered) :
    (∀ path, ((Document.removePath d path).1 = none → (Document.removePath d path).2 = d) ∧
      ∀ v, (Document.removePath d path).1 = some v →
        Document.setPath (Document.removePath d path).2 path v = (.ok none, d)) ∧
    ∀ source target, Path.Full target → ¬Path.Overlap source target →
      (∀ v changed e, d.LeadsTo (Path.segments source) v →
        applyMutation (singleRename source target) d = (.ok changed, e) →
        changed = true ∧ Document.resolve e target = [v] ∧ (∀ w, ¬e.LeadsTo (Path.segments source) w) ∧
        ∀ other, Path.Full other → ¬Path.Overlap other source → ¬Path.Overlap other target →
          Document.resolve e other = Document.resolve d other) ∧
      ((∀ v, ¬d.LeadsTo (Path.segments source) v) → applyMutation (singleRename source target) d = (.ok false, d)) := by
  refine ⟨fun path => ⟨Document.dropAt_of_removeAt_none, fun v hv => ?_⟩, fun source target hfull hapart => ⟨?_, ?_⟩⟩
  · have hset := Document.setAt_dropAt hd (Document.valueAt_eq_some_iff.1 hv)
    unfold Document.setPath
    rw [show (Document.removePath d path).2 = Document.dropAt d (Path.segments path) from rfl, hset]
  · intro v changed e hv h
    have htaken : (Document.removePath d source).1 = some v := Document.valueAt_eq_some_iff.2 hv
    rcases applyMutation_rename_cases h with ⟨w, next, previous, hremove, hset, rfl⟩ | ⟨hremove, -, -⟩
    · obtain rfl : w = v := by
        rw [hremove] at htaken
        exact Option.some.inj htaken
      obtain rfl : (Document.removePath d source).2 = next := congrArg Prod.snd hremove
      refine ⟨rfl, Document.resolve_setPath_self hfull hset, ?_, ?_⟩
      · -- the removal left nothing at the source, and the write is beside it
        rw [← Document.valueAt_eq_none_iff, Document.valueAt_setPath hapart hset]
        exact Document.valueAt_dropAt_self hd _
      · intro other hother hsource htarget
        rw [Document.resolve_setPath hother htarget hset, Document.resolve_removePath hother hsource hd]
    · rw [hremove] at htaken
      cases htaken
  · intro hnone
    exact applyMutation_rename_of_absent target (Document.valueAt_eq_none_iff.2 hnone)

/-- the value at `a.x` is taken and given back, and is moved to `c.w`, whose parent is new; nothing is at `b.q` -/
theorem moves_lossless_nested :
    let d : Document := [("_id", .str "1"), ("a", .obj [("x", .bool true), ("y", .null)]), ("b", .str "z")]
    let e : Document :=
      [("_id", .str "1"), ("a", .obj [("y", .null)]), ("b", .str "z"), ("c", .obj [("w", .bool true)])]
    (Json.obj d).Ordered ∧ (Document.removePath d "a.x").1 = some (.bool true) ∧
    Document.setPath (Document.removePath d "a.x").2 "a.x" (.bool true) = (.ok none, d) ∧
    Path.Full "c.w" ∧ ¬Path.Overlap "a.x" "c.w" ∧ d.LeadsTo (Path.segments "a.x") (.bool true) ∧
    applyMutation (singleRename "a.x" "c.w") d = (.ok true, e) ∧
    Document.resolve e "c.w" = [.bool true] ∧ (∀ w, ¬e.LeadsTo (Path.segments "a.x") w) ∧
    Document.resolve e "a.y" = Document.resolve d "a.y" ∧
    (∀ v, ¬d.LeadsTo (Path.segments "b.q") v) ∧ applyMutation (singleRename "b.q" "c.w") d = (.ok false, d) := by
  intro d e
  have ha : (Json.obj [("x", .bool true), ("y", .null)]).Ordered :=
    Json.ordered_obj_iff.2 ⟨by decide, by simp [Json.Ordered]⟩
  have hd : (Json.obj d).Ordered := by
    refine Json.ordered_obj_iff.2 ⟨by decide, ?_⟩
    simp only [d, List.forall_mem_cons]
    exact ⟨trivial, ha, trivial, List.forall_mem_nil _⟩
  have htaken : (Document.removePath d "a.x").1 = some (.bool true) := rfl
  have hfull : Path.Full "c.w" := by decide
  have hapart : ¬Path.Overlap "a.x" "c.w" := by decide
  have hleads : d.LeadsTo (Path.segments "a.x") (.bool true) := Document.valueAt_eq_some_iff.1 htaken
  have hmoved : applyMutation (singleRename "a.x" "c.w") d = (.ok true, e) := rfl
  have habsent : ∀ v, ¬d.LeadsTo (Path.segments "b.q") v := Document.valueAt_eq_none_iff.1 rfl
  obtain ⟨hremovals, hrenamings⟩ := moves_lossless hd
  obtain ⟨-, htarget, hsource, hothers⟩ := (hrenamings "a.x" "c.w" hfull hapart).1 _ _ _ hleads hmoved
  have hnothing := (hrenamings "b.q" "c.w" hfull (by decide)).2 habsent
  exact ⟨hd, htaken, (hremovals "a.x").2 _ htaken, hfull, hapart, hleads, hmoved, htarget, hsource,
    hothers "a.y" (by decide) (by decide) (by decide), habsent, hnothing⟩

end

end DocumentQuery
