/-
DESCRIPTORS AS PAYLOADS. A descriptor that is written as a payload is read back as it is: one condition or several under
a combinator, with any value, on any path or on coordinates that are numbers. Each tag may be written with or without
its dollar sign, in any case, with blanks around it.

- `Text.plainTag_of_spells`: spellings of a tag are the same word;
- `Operator.parse_of_spells`, `Combinator.parse_of_spells`: so they name the same operator or combinator;
- `ElementPayload.ofJson?_of_written`: one condition as an element, read back;
- `FilterDescriptor.ofJson_of_written`: a whole descriptor, read back.
-/
import DocumentQuery.Filter.Descriptor
import DocumentQuery.Proofs.FiniteNumbers
import DocumentQuery.Proofs.Outcome

namespace DocumentQuery

/-! ## Spellings -/

namespace Text

/-- a text spells a tag: the letters of the tag in any case, with or without a dollar sign, between any blanks -/
def Spells (tag text : String) : Prop :=
  ∃ before dollar letters behind plain : List Char,
    text.toList = before ++ (dollar ++ letters) ++ behind ∧ tag.toList = '$' :: plain ∧
      (∀ c ∈ before, Unicode.isBlank c = true) ∧ (∀ c ∈ behind, Unicode.isBlank c = true) ∧
      (dollar = [] ∨ dollar = ['$']) ∧ letters.map Char.toLower = plain.map Char.toLower

/-- a tag has letters behind its dollar sign, and no blanks or dollar signs among them -/
def IsTag (tag : String) : Prop :=
  ∃ c cs, tag.toList = '$' :: c :: cs ∧ ∀ x ∈ c :: cs, Unicode.isBlank x.toLower = false ∧ x.toLower ≠ '$'

theorem isTag_of_all {tag : String} {c : Char} {cs : List Char} (htag : tag.toList = '$' :: c :: cs)
    (hall : (c :: cs).all (fun x => !Unicode.isBlank x.toLower && x.toLower != '$') = true) : IsTag tag := by
  refine ⟨c, cs, htag, fun x hx => ?_⟩
  have hclean := List.all_eq_true.1 hall x hx
  rw [Bool.and_eq_true, Bool.not_eq_true', bne_iff_ne] at hclean
  exact hclean

/-- what stands between characters of a kind that it has none of -/
theorem dropWhile_between {p : Char → Bool} {front word : List Char} (hfront : ∀ c ∈ front, p c = true)
    (hword : ∀ c ∈ word, p c = false) (hne : word ≠ []) (rest : List Char) :
    (front ++ word ++ rest).dropWhile p = word ++ rest := by
  rw [List.append_assoc, List.dropWhile_append_of_pos hfront]
  obtain ⟨c, cs, rfl⟩ := List.exists_cons_of_ne_nil hne
  rw [List.cons_append, List.dropWhile_cons_of_neg]
  simp [hword c List.mem_cons_self]

/-- blanks around a word are trimmed, if there is none in it -/
theorem trimChars_between {before word behind : List Char} (hbefore : ∀ c ∈ before, Unicode.isBlank c = true)
    (hbehind : ∀ c ∈ behind, Unicode.isBlank c = true) (hword : ∀ c ∈ word, Unicode.isBlank c = false)
    (hne : word ≠ []) : trimChars (before ++ word ++ behind) = word := by
  unfold trimChars
  have hback : (behind.reverse ++ word.reverse ++ []).dropWhile Unicode.isBlank = word.reverse ++ [] :=
    dropWhile_between (by simpa using hbehind) (by simpa using hword) (by simpa using hne) []
  rw [List.append_nil, List.append_nil] at hback
  rw [dropWhile_between hbefore hword hne, List.reverse_append, hback, List.reverse_reverse]

/-- blanks have no case -/
theorem toLower_of_isBlank {c : Char} (h : Unicode.isBlank c = true) : c.toLower = c := by
  unfold Char.toLower
  split
  · next hupper =>
    exfalso
    obtain ⟨hlow, hhigh⟩ := hupper
    have h65 : 65 ≤ c.toNat := hlow
    have h90 : c.toNat ≤ 90 := hhigh
    simp only [Unicode.isBlank, Bool.or_eq_true, Bool.and_eq_true, decide_eq_true_eq] at h
    omega
  · rfl

/-- **Spellings are one word.** Whatever the case of its letters, with a dollar sign or without it and with any blanks
around it, a spelling of a tag is the same plain word. -/
theorem plainTag_of_spells {tag text : String} (htag : IsTag tag) (h : Spells tag text) :
    plainTag text = String.ofList ((tag.toList.drop 1).map Char.toLower) := by
  obtain ⟨before, dollar, letters, behind, plain, htext, hplain, hbefore, hbehind, hdollar, hletters⟩ := h
  obtain ⟨first, others, htag, hclean⟩ := htag
  have hparts : plain = first :: others := List.tail_eq_of_cons_eq (hplain.symm.trans htag)
  -- the letters are those of the tag but for their case, so they are neither blank nor a dollar sign
  have hclean' : ∀ c ∈ letters, Unicode.isBlank c = false ∧ c ≠ '$' := by
    intro c hc
    have hlower : c.toLower ∈ plain.map Char.toLower := hletters ▸ List.mem_map_of_mem hc
    obtain ⟨x, hx, hxc⟩ := List.mem_map.1 hlower
    obtain ⟨hblank, hsign⟩ := hclean x (hparts ▸ hx)
    rw [hxc] at hblank hsign
    constructor
    · by_contra hc'
      rw [Bool.not_eq_false] at hc'
      rw [toLower_of_isBlank hc', hc'] at hblank
      cases hblank
    · rintro rfl
      exact hsign rfl
  have hne : letters ≠ [] := by
    rintro rfl
    rw [hparts] at hletters
    cases hletters
  have hword : trimChars text.toList = dollar ++ letters := by
    rw [htext]
    refine trimChars_between hbefore hbehind ?_ (by simp [hne])
    intro c hc
    rcases List.mem_append.1 hc with hc | hc
    · rcases hdollar with rfl | rfl
      · cases hc
      · rw [List.mem_singleton.1 hc]
        rfl
    · exact (hclean' c hc).1
  have hdrop : tag.toList.drop 1 = plain := by rw [hplain, List.drop_one, List.tail_cons]
  unfold plainTag
  rw [hword, hdrop, ← hletters]
  rcases hdollar with rfl | rfl
  · obtain ⟨c, cs, rfl⟩ := List.exists_cons_of_ne_nil hne
    have hsign : c ≠ '$' := (hclean' c List.mem_cons_self).2
    simp only [List.nil_append]
    split
    · next rest heq =>
      cases heq
      exact absurd rfl hsign
    · rfl
  · rfl

/-- a tag spells itself -/
theorem spells_self {tag : String} (htag : IsTag tag) : Spells tag tag := by
  obtain ⟨c, cs, htag, -⟩ := htag
  exact ⟨[], ['$'], c :: cs, [], c :: cs, by simp [htag], htag, by simp, by simp, Or.inr rfl, rfl⟩

end Text

theorem Operator.isTag_tag (op : Operator) : Text.IsTag op.tag := by
  cases op <;> exact Text.isTag_of_all rfl rfl

theorem Combinator.isTag_tag (c : Combinator) : Text.IsTag c.tag := by
  cases c <;> exact Text.isTag_of_all rfl rfl

theorem Operator.parse_of_spells {op : Operator} {text : String} (h : Text.Spells op.tag text) :
    Operator.parse text = .ok op := by
  unfold Operator.parse
  rw [Text.plainTag_of_spells op.isTag_tag h]
  cases op <;> rfl

theorem Combinator.parse_of_spells {c : Combinator} {text : String} (h : Text.Spells c.tag text) :
    Combinator.parse text = .ok c := by
  unfold Combinator.parse
  rw [Text.plainTag_of_spells c.isTag_tag h]
  cases c <;> rfl

/-! ## Fields -/

/-- coordinates that JSON has numbers for; a path has none -/
def FilterField.Finite : FilterField → Prop
  | .path _ => True
  | .coordinates numbers => ∀ x ∈ numbers, isFinite x = true

theorem FilterField.isNull_toJson (field : FilterField) : field.toJson.isNull = false := by
  cases field <;> rfl

theorem FilterField.ofJson?_toJson {field : FilterField} (h : field.Finite) : ofJson? field.toJson = some field := by
  cases field with
  | path p => rfl
  | coordinates numbers =>
    have hread : (numbers.map Json.float).mapM Json.float? = some numbers :=
      Payload.mapM_map fun x hx => Json.float?_float (h x hx)
    rw [toJson, ofJson?, hread]
    rfl

theorem FilterField.optional_toJson {field : FilterField} (h : field.Finite) :
    Payload.optional ofJson? (some field.toJson) = some (some field) := by
  rw [Payload.optional_of_not_null field.isNull_toJson, ofJson?_toJson h]
  rfl

/-! ## Conditions -/

/-- a payload says a condition: its parts under their keys, and its tag in any spelling -/
def SingleFilter.Written (f : SingleFilter) (v : Json) : Prop :=
  ∃ text, Text.Spells f.operator.tag text ∧
    v = .obj [("field", f.field.toJson), ("operator", .str text), ("value", f.value)]

theorem SingleFilter.written_toJson (f : SingleFilter) : f.Written f.toJson :=
  ⟨f.operator.tag, Text.spells_self f.operator.isTag_tag, rfl⟩

theorem ElementPayload.single_of_spells {f : SingleFilter} {text : String} (h : Text.Spells f.operator.tag text) :
    ElementPayload.single ⟨some f.field, some text, f.value⟩ = .ok f := by
  simp only [ElementPayload.single, Operator.parse_of_spells h, Outcome.ok_bind]

/-- an element that says a condition is read as just this condition -/
theorem ElementPayload.ofJson?_of_written {f : SingleFilter} {v : Json} (hfinite : f.field.Finite) (h : f.Written v) :
    ∃ e, ElementPayload.ofJson? v = some e ∧ e.single = .ok f := by
  obtain ⟨text, htext, rfl⟩ := h
  have hparts : Payload.record? ElementPayload.declared
      (.obj [("field", f.field.toJson), ("operator", .str text), ("value", f.value)]) =
        some [some f.field.toJson, some (.str text), some f.value] := by
    rfl
  refine ⟨⟨some f.field, some text, f.value⟩, ?_, single_of_spells htext⟩
  rw [ElementPayload.ofJson?, hparts, Option.bind_some, ElementPayload.ofFields?, FilterField.optional_toJson hfinite]
  rfl

/-- **Elements are read back.** Every one of them, in order. -/
theorem ElementPayload.mapM_of_written {filters : List SingleFilter} {items : List Json}
    (hfinite : ∀ f ∈ filters, f.field.Finite) (h : List.Forall₂ SingleFilter.Written filters items) :
    ∃ elements, items.mapM ElementPayload.ofJson? = some elements ∧
      elements.mapM ElementPayload.single = .ok filters := by
  induction h with
  | nil => exact ⟨[], rfl, rfl⟩
  | cons hitem _ ih =>
    obtain ⟨hfirst, hrest⟩ := List.forall_mem_cons.1 hfinite
    obtain ⟨e, he, hsingle⟩ := ElementPayload.ofJson?_of_written hfirst hitem
    obtain ⟨elements, helements, hsingles⟩ := ih hrest
    refine ⟨e :: elements, ?_, ?_⟩
    · rw [List.mapM_cons, he, helements]
      rfl
    · rw [List.mapM_cons, hsingle, hsingles]
      rfl

/-! ## Descriptors -/

namespace FilterDescriptor

/-- the conditions of a descriptor -/
def filters : FilterDescriptor → List SingleFilter
  | single f => [f]
  | combined c => c.elements

/-- all coordinates are numbers that JSON has -/
def Finite (d : FilterDescriptor) : Prop := ∀ f ∈ d.filters, f.field.Finite

/-- a payload says a descriptor, each tag in any spelling of its own -/
inductive Written : FilterDescriptor → Json → Prop where
  | single {f : SingleFilter} {v : Json} (h : f.Written v) : Written (single f) v
  | combined {c : CombinedFilter} {text : String} {items : List Json} (htag : Text.Spells c.combinator.tag text)
      (hitems : List.Forall₂ SingleFilter.Written c.elements items) :
      Written (combined c) (.obj [("elements", .arr items), ("operator", .str text)])

theorem written_toJson (d : FilterDescriptor) : d.Written d.toJson := by
  cases d with
  | single f => exact .single f.written_toJson
  | combined c =>
    refine .combined (Text.spells_self c.combinator.isTag_tag) ?_
    rw [List.forall₂_map_right_iff]
    exact List.forall₂_same.2 fun f _ => f.written_toJson

/-- an object that is read as a payload means what the payload does -/
theorem ofJson_of_payload {fields : Document} {p : FilterPayload} (h : FilterPayload.ofJson? (.obj fields) = some p) :
    FilterDescriptor.ofJson (.obj fields) = p.descriptor := by
  rw [FilterDescriptor.ofJson, h]
  rfl

theorem payload_of_single {f : SingleFilter} (hfield : f.field.Finite) (text : String) :
    FilterPayload.ofJson? (.obj [("field", f.field.toJson), ("operator", .str text), ("value", f.value)]) =
      some ⟨some f.field, some text, none, f.value, none⟩ := by
  have hparts : Payload.record? FilterPayload.declared
      (.obj [("field", f.field.toJson), ("operator", .str text), ("value", f.value)]) =
        some [some f.field.toJson, some (.str text), none, some f.value, none] := by
    rfl
  rw [FilterPayload.ofJson?, hparts, Option.bind_some, FilterPayload.ofFields?, FilterField.optional_toJson hfield]
  rfl

theorem payload_of_combined {items : List Json} {elements : List ElementPayload}
    (helements : items.mapM ElementPayload.ofJson? = some elements) (text : String) :
    FilterPayload.ofJson? (.obj [("elements", .arr items), ("operator", .str text)]) =
      some ⟨none, some text, none, .null, some elements⟩ := by
  have hparts : Payload.record? FilterPayload.declared (.obj [("elements", .arr items), ("operator", .str text)]) =
      some [none, some (.str text), none, none, some (.arr items)] := by
    rfl
  rw [FilterPayload.ofJson?, hparts, Option.bind_some, FilterPayload.ofFields?,
    Payload.optional_of_not_null (v := .arr items) rfl, Payload.list?, helements]
  rfl

/-- **Descriptors survive the wire.** A descriptor whose coordinates are finite, written as a payload with any spelling
of each of its tags, is read back as exactly this descriptor. -/
theorem ofJson_of_written {d : FilterDescriptor} (hfinite : d.Finite) :
    FilterDescriptor.ofJson d.toJson = .ok (some d) ∧ ∀ v, d.Written v → FilterDescriptor.ofJson v = .ok (some d) := by
  have hread : ∀ v, d.Written v → FilterDescriptor.ofJson v = .ok (some d) := by
    intro v h
    cases h with
    | @single f v h =>
      obtain ⟨text, htext, rfl⟩ := h
      have hfield : f.field.Finite := hfinite f List.mem_cons_self
      have hsingle := ElementPayload.single_of_spells htext
      rw [ofJson_of_payload (payload_of_single hfield text)]
      simp only [FilterPayload.descriptor, FilterPayload.isEmpty, Option.isNone_some, Bool.false_and,
        Bool.false_eq_true, if_false, Option.none_or, hsingle, Outcome.ok_bind]
    | @combined c text items htag hitems =>
      obtain ⟨elements, helements, hsingles⟩ := ElementPayload.mapM_of_written hfinite hitems
      have hcombinator := Combinator.parse_of_spells htag
      rw [ofJson_of_payload (payload_of_combined helements text)]
      simp only [FilterPayload.descriptor, FilterPayload.isEmpty, Json.isNull, Option.isNone_some, Option.isNone_none,
        Option.isSome_none, Bool.and_false, Bool.false_eq_true, if_false, Bool.or_false, Bool.not_true, hcombinator,
        hsingles, Outcome.ok_bind]
      rfl
  exact ⟨hread _ d.written_toJson, hread⟩

/-- anything with no name, or near the park -/
def namelessOrNearby : FilterDescriptor :=
  .combined ⟨.or, [⟨.path "name", .equals, .null⟩, ⟨.coordinates [-73.5, 40.75], .near, .nat 500⟩]⟩

theorem ofJson_of_written_namelessOrNearby :
    let v : Json := .obj [("elements", .arr [
        .obj [("field", .str "name"), ("operator", .str "EQ"), ("value", .null)],
        .obj [("field", .arr [.float (-73.5), .float 40.75]), ("operator", .str "\tGeoNear "), ("value", .nat 500)]]),
      ("operator", .str " $Or")]
    namelessOrNearby.Finite ∧ namelessOrNearby.Written v ∧ FilterDescriptor.ofJson v = .ok (some namelessOrNearby) := by
  intro v
  have hfinite : namelessOrNearby.Finite := by
    intro f hf
    rcases List.mem_pair.1 hf with rfl | rfl
    · exact True.intro
    · show ∀ x ∈ [(-73.5 : Float), 40.75], isFinite x = true
      decide
  have hname : Text.Spells "$eq" "EQ" :=
    ⟨[], [], ['E', 'Q'], [], ['e', 'q'], rfl, rfl, by simp, by simp, Or.inl rfl, rfl⟩
  have hnear : Text.Spells "$geoNear" "\tGeoNear " :=
    ⟨['\t'], [], "GeoNear".toList, [' '], "geoNear".toList, rfl, rfl, by simp [Unicode.isBlank],
      by simp [Unicode.isBlank], Or.inl rfl, rfl⟩
  have hor : Text.Spells "$or" " $Or" :=
    ⟨[' '], ['$'], ['O', 'r'], [], ['o', 'r'], rfl, rfl, by simp [Unicode.isBlank], by simp, Or.inr rfl, rfl⟩
  have hwritten : namelessOrNearby.Written v :=
    .combined hor (.cons ⟨"EQ", hname, rfl⟩ (.cons ⟨"\tGeoNear ", hnear, rfl⟩ .nil))
  exact ⟨hfinite, hwritten, (ofJson_of_written hfinite).2 v hwritten⟩

end FilterDescriptor

end DocumentQuery
