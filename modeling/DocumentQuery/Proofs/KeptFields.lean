/-
FIELDS THAT A MUTATION KEEPS. Setting never takes a field from a document. Unsetting takes the field that it names, and
renaming takes its source, which comes back only if a later step writes at a path that begins there.

- `hasKey_setPath`, `hasKey_removePath`: one write, one removal;
- `hasKey_of_keeps`: a mutation whose steps, read in their order, keep a field does so on every document.
-/
import DocumentQuery.Proofs.Removal
import DocumentQuery.Proofs.Writing

namespace DocumentQuery

/-- whether a path leads through a field of the document, or to it -/
def Path.beginsAt (key path : String) : Bool := (Path.segments path).head? == some key

/-! ## Single steps -/

namespace Document

theorem hasKey_insert {d : Document} {key k : String} {v : Json} :
    hasKey (insert d k v) key = (k == key || hasKey d key) := by
  unfold hasKey
  rw [find?_insert]
  by_cases hk : k = key <;> simp [hk]

theorem find?_erase_of_ne {key leaf : String} (hne : leaf ≠ key) (d : Document) :
    find? (erase d leaf) key = find? d key := by
  induction d with
  | nil => rfl
  | cons f rest ih =>
    obtain ⟨k, v⟩ := f
    by_cases hk : k = leaf
    · subst hk
      simp [erase, find?, hne]
    · simp [erase, find?, hk, ih]

/-- the first segment of a write is there afterwards, and nothing that was there is gone -/
theorem hasKey_setAt (value : Json) (d : Document) (s : String) (rest : List String) (key : String) :
    hasKey (setAt value d (s :: rest)).2 key = (s == key || hasKey d key) := by
  unfold hasKey
  rw [find?_setAt]
  by_cases hs : s = key
  · subst hs
    have hwritten : (written value rest (find? d s)).isSome = true := by
      cases rest with
      | nil => rfl
      | cons t rest =>
        cases find? d s with
        | none => rfl
        | some v => cases v <;> rfl
    simp [hwritten]
  · simp [hs]

theorem hasKey_setPath (d : Document) (path : String) (value : Json) (key : String) :
    hasKey (setPath d path value).2 key = (Path.beginsAt key path || hasKey d key) := by
  obtain ⟨s, rest, hpath⟩ := Path.exists_segments path
  rw [setPath_snd, hpath, hasKey_setAt]
  simp [Path.beginsAt, hpath]

/-- a removal takes no other field than the one whose plain name is its path -/
theorem hasKey_dropAt {d : Document} {key : String} {segments : List String} (hne : segments ≠ [key])
    (h : hasKey d key = true) : hasKey (dropAt d segments) key = true := by
  cases segments with
  | nil => simpa using h
  | cons s rest =>
    cases rest with
    | nil =>
      have hs : s ≠ key := by
        rintro rfl
        exact hne rfl
      rw [dropAt_leaf]
      unfold hasKey
      rw [find?_erase_of_ne hs]
      exact h
    | cons t rest =>
      by_cases hobj : ∃ fields, find? d s = some (.obj fields)
      · obtain ⟨fields, hf⟩ := hobj
        rcases dropAt_obj t rest hf with heq | ⟨heq, -⟩
        · rw [heq, hasKey_insert, h, Bool.or_true]
        · rw [heq]
          exact h
      · rw [dropAt_of_not_obj fun fields hf => hobj ⟨fields, hf⟩]
        exact h

theorem hasKey_removePath {d : Document} {path key : String} (hkey : Path.segments key = [key]) (hne : path ≠ key)
    (h : hasKey d key = true) : hasKey (removePath d path).2 key = true := by
  refine hasKey_dropAt ?_ h
  intro hpath
  exact hne (Path.segments_injective (hpath.trans hkey.symm))

end Document

/-! ## What the steps keep -/

/-- whether a renaming takes a field to a path that begins elsewhere -/
def movesAway (key : String) (move : String × Json) : Bool :=
  move.1 == key && move.2.str?.any fun target => !Path.beginsAt key target

/-- whether a field is surely there after one operator of a mutation, if it is `there` before -/
def operatorKeeps (key : String) (there : Bool) (field : String × Json) : Bool :=
  match MutationOperator.ofKey? field.1, field.2 with
  | some .set, .obj fields => there || fields.any fun f => Path.beginsAt key f.1
  | some .unset, .obj fields => there && fields.all fun f => f.1 != key
  | some .rename, .obj fields => there && fields.all fun f => !movesAway key f
  | _, _ => there

/-- whether a mutation leaves a field with every document that has it, whatever else the document holds: read in the
order of its operators, it does not unset the field, nor rename it away, without writing it again -/
def keepsField (key : String) (mutation : Document) : Bool := mutation.foldl (operatorKeeps key) true

section

variable {key : String} {d e : Document} {changed : Bool}

theorem hasKey_setFields {fields : List (String × Json)} (h : setFields fields d = (.ok changed, e)) :
    Document.hasKey e key = (Document.hasKey d key || fields.any fun f => Path.beginsAt key f.1) := by
  induction fields generalizing d changed with
  | nil =>
    cases h
    simp
  | cons f rest ih =>
    obtain ⟨path, value⟩ := f
    obtain ⟨previous, t, more, hset, hmore, -⟩ := setFields_cons_iff.1 h
    have ht : t = (Document.setPath d path value).2 := (congrArg Prod.snd hset).symm
    rw [ih hmore, ht, Document.hasKey_setPath, List.any_cons]
    cases Path.beginsAt key path <;> simp

theorem hasKey_unsetFields {fields : List (String × Json)} (hkey : Path.segments key = [key])
    (h : unsetFields fields d = (.ok changed, e)) (hnot : (fields.all fun f => f.1 != key) = true)
    (hd : Document.hasKey d key = true) : Document.hasKey e key = true := by
  induction fields generalizing d changed with
  | nil =>
    cases h
    exact hd
  | cons f rest ih =>
    obtain ⟨path, value⟩ := f
    obtain ⟨more, hmore, -⟩ := unsetFields_cons_iff.1 h
    rw [List.all_cons, Bool.and_eq_true, bne_iff_ne] at hnot
    exact ih hmore hnot.2 (Document.hasKey_removePath hkey hnot.1 hd)

theorem hasKey_renameFields {fields : List (String × Json)} (hkey : Path.segments key = [key])
    (h : renameFields fields d = (.ok changed, e)) (hnot : (fields.all fun f => !movesAway key f) = true)
    (hd : Document.hasKey d key = true) : Document.hasKey e key = true := by
  induction fields generalizing d changed with
  | nil =>
    cases h
    exact hd
  | cons f rest ih =>
    obtain ⟨source, operand⟩ := f
    rw [List.all_cons, Bool.and_eq_true] at hnot
    obtain ⟨hmove, hnot⟩ := hnot
    rcases renameFields_cons_cases h with ⟨target, value, t, previous, t', more, rfl, hremove, hset, hmore, -⟩ |
      ⟨target, rfl, -, hmore⟩ | ⟨-, hmore⟩
    · have ht : t = (Document.removePath d source).2 := (congrArg Prod.snd hremove).symm
      have ht' : t' = (Document.setPath t target value).2 := (congrArg Prod.snd hset).symm
      refine ih hmore hnot ?_
      rw [ht', Document.hasKey_setPath]
      by_cases hsource : source = key
      · have hbegins : Path.beginsAt key target = true := by simpa [movesAway, hsource, Json.str?] using hmove
        rw [hbegins, Bool.true_or]
      · rw [ht, Document.hasKey_removePath hkey hsource hd, Bool.or_true]
    · exact ih hmore hnot hd
    · exact ih hmore hnot hd

variable {there : Bool}

theorem hasKey_applyOperator {field : String × Json} (hkey : Path.segments key = [key])
    (h : applyOperator field d = (.ok changed, e)) (hd : there = true → Document.hasKey d key = true)
    (hkeeps : operatorKeeps key there field = true) : Document.hasKey e key = true := by
  rcases applyOperator_cases h with ⟨fields, hop, hfields, h⟩ | ⟨fields, hop, hfields, h⟩ |
    ⟨fields, hop, hfields, h⟩ | ⟨hnone, -, rfl⟩
  · simp only [operatorKeeps, hop, hfields, Bool.or_eq_true] at hkeeps
    rw [hasKey_setFields h, Bool.or_eq_true]
    exact hkeeps.imp_left hd
  · simp only [operatorKeeps, hop, hfields, Bool.and_eq_true] at hkeeps
    exact hasKey_unsetFields hkey h hkeeps.2 (hd hkeeps.1)
  · simp only [operatorKeeps, hop, hfields, Bool.and_eq_true] at hkeeps
    exact hasKey_renameFields hkey h hkeeps.2 (hd hkeeps.1)
  · have hthere : operatorKeeps key there field = there := by
      unfold operatorKeeps
      split
      · next hop hfields => simp [hop, hfields, Json.isObj] at hnone
      · next hop hfields => simp [hop, hfields, Json.isObj] at hnone
      · next hop hfields => simp [hop, hfields, Json.isObj] at hnone
      · rfl
    exact hd (hthere.symm.trans hkeeps)

theorem hasKey_applyOperators {mutation : Document} (hkey : Path.segments key = [key])
    (h : applyOperators mutation d = (.ok changed, e)) (hd : there = true → Document.hasKey d key = true)
    (hkeeps : mutation.foldl (operatorKeeps key) there = true) : Document.hasKey e key = true := by
  induction mutation generalizing d changed there with
  | nil =>
    cases h
    exact hd hkeeps
  | cons field rest ih =>
    obtain ⟨first, t, more, hfirst, hmore, -⟩ := applyOperators_cons_iff.1 h
    exact ih hmore (hasKey_applyOperator hkey hfirst hd) hkeeps

/-- **Fields that are kept.** A mutation that keeps a field with a plain name leaves it with every document that has it
and that it can be applied to. -/
theorem hasKey_of_keeps {mutation : Document} (hkey : Path.segments key = [key])
    (hkeeps : keepsField key mutation = true)
    (h : applyMutation mutation d = (.ok changed, e)) (hd : Document.hasKey d key = true) :
    Document.hasKey e key = true :=
  hasKey_applyOperators hkey (applyOperators_of_applyMutation h) (fun _ => hd) hkeeps

end

end DocumentQuery
