/-
GROUPS OF DOCUMENTS. The group stage keeps one row for each text of the key and writes every document into the row of
its text. Here this is read as a partition: the rows are those of the classes, in the order in which their texts first
appear, and what a row holds comes from the documents of its class alone.

- `run_eq_map`: the rows of a run, one for each text;
- `find?_addTo`, `find?_foldl_addTo`: what one more document, and what all of them, make of a column;
- `find?_gather_id`, `find?_gather_first`: the key of a row and its columns that keep the first value;
- `ofBody_eq_ok`: what is known of a group stage that was read from a body;
- `Grouping.exists_ofBody`: a rendered grouping is always read.
-/
import Mathlib.Data.List.Induction
import DocumentQuery.Evaluation.Group
import DocumentQuery.Pipeline.Stage
import DocumentQuery.Proofs.Fields
import DocumentQuery.Proofs.Outcome

namespace DocumentQuery

/-! ## Distinct elements -/

section

variable {α : Type} [BEq α] [LawfulBEq α]

theorem eraseDups_concat (l : List α) (a : α) [Decidable (a ∈ l)] :
    (l ++ [a]).eraseDups = if a ∈ l then l.eraseDups else l.eraseDups ++ [a] := by
  rw [List.eraseDups_append]
  split
  · next h => simp [List.removeAll, h]
  · next h => simp [List.removeAll, h, List.eraseDups_cons]

theorem nodup_eraseDups (l : List α) : l.eraseDups.Nodup := by
  classical
  induction l using List.reverseRecOn with
  | nil => exact List.nodup_nil
  | append_singleton l a ih =>
    rw [eraseDups_concat]
    split
    · exact ih
    · next h =>
      refine List.nodup_append.2 ⟨ih, List.pairwise_singleton _ a, ?_⟩
      intro b hb c hc
      rw [List.mem_singleton.1 hc]
      rintro rfl
      exact h (List.mem_eraseDups.1 hb)

end

namespace GroupSpec

variable (s : GroupSpec)

/-! ## Classes -/

/-- the text that tells a document's group from others -/
def textOf (d : Document) : String := (s.keyOf d).compact

/-- the row of a group before its first document is written into it -/
def fresh (d : Document) : Document := Document.single "_id" (s.keyOf d)

/-- the row of some documents that form a group -/
def gather (documents : List Document) : Document := documents.foldl s.addTo (documents.head?.elim [] s.fresh)

/-- the documents with a text -/
def members (documents : List Document) (text : String) : List Document := documents.filter (s.textOf · = text)

/-- the texts of documents, in the order in which they first appear -/
def texts (documents : List Document) : List String := (documents.map s.textOf).eraseDups

/-- the groups of documents, with their texts -/
def placed (documents : List Document) : List (String × Document) :=
  documents.foldl (fun rows d => s.place d (s.textOf d) (s.fresh d) rows) []

theorem run_eq_placed (documents : List Document) : s.run documents = (s.placed documents).map (·.2) := rfl

theorem mem_texts {documents : List Document} {text : String} :
    text ∈ s.texts documents ↔ ∃ d ∈ documents, s.textOf d = text := by
  simp [texts]

theorem nodup_texts (documents : List Document) : (s.texts documents).Nodup := nodup_eraseDups _

/-- the members of a text that appears are one document and others behind it -/
theorem exists_members {documents : List Document} {text : String} (h : text ∈ s.texts documents) :
    ∃ d rest, s.members documents text = d :: rest ∧ d ∈ documents ∧ s.textOf d = text := by
  obtain ⟨d, hd, htext⟩ := s.mem_texts.1 h
  have hmem : d ∈ s.members documents text := List.mem_filter.2 ⟨hd, by simpa using htext⟩
  obtain ⟨e, rest, he⟩ := List.exists_cons_of_ne_nil (List.ne_nil_of_mem hmem)
  have hfirst : e ∈ s.members documents text := he ▸ List.mem_cons_self
  obtain ⟨he', htext'⟩ := List.mem_filter.1 hfirst
  exact ⟨e, rest, he, he', by simpa using htext'⟩

/-! ## One more document -/

section

variable (d : Document) (text : String) (fresh : Document) (row : String → Document)

theorem place_of_mem {texts : List String} (hnodup : texts.Nodup) (h : text ∈ texts) :
    s.place d text fresh (texts.map fun t => (t, row t)) =
      texts.map fun t => (t, if t = text then s.addTo (row t) d else row t) := by
  induction texts with
  | nil => exact absurd h List.not_mem_nil
  | cons t rest ih =>
    obtain ⟨ht, hrest⟩ := List.nodup_cons.1 hnodup
    rw [List.map_cons, List.map_cons, place]
    split
    · next htext =>
      -- no row behind this one has the text
      have hbehind : ∀ u ∈ rest, u ≠ text := by
        rintro u hu rfl
        exact ht (htext ▸ hu)
      refine congrArg _ (List.map_congr_left fun u hu => ?_)
      rw [if_neg (hbehind u hu)]
    · next htext =>
      have hin : text ∈ rest := (List.mem_cons.1 h).resolve_left (Ne.symm htext)
      rw [ih hrest hin]

theorem place_of_not_mem {texts : List String} (h : text ∉ texts) :
    s.place d text fresh (texts.map fun t => (t, row t)) =
      (texts.map fun t => (t, row t)) ++ [(text, s.addTo fresh d)] := by
  induction texts with
  | nil => rfl
  | cons t rest ih =>
    obtain ⟨ht, hrest⟩ := not_or.1 (List.mem_cons.not.1 h)
    rw [List.map_cons, place, if_neg (Ne.symm ht), ih hrest, List.cons_append]

end

theorem gather_concat {documents : List Document} (h : documents ≠ []) (d : Document) :
    s.gather (documents ++ [d]) = s.addTo (s.gather documents) d := by
  obtain ⟨e, rest, rfl⟩ := List.exists_cons_of_ne_nil h
  simp [gather]

theorem members_concat (documents : List Document) (d : Document) (text : String) :
    s.members (documents ++ [d]) text =
      if s.textOf d = text then s.members documents text ++ [d] else s.members documents text := by
  rw [members, List.filter_append, ← members]
  split
  · next h => simp [h]
  · next h => simp [h]

theorem texts_concat (documents : List Document) (d : Document) :
    s.texts (documents ++ [d]) =
      if s.textOf d ∈ s.texts documents then s.texts documents else s.texts documents ++ [s.textOf d] := by
  rw [texts, List.map_append, List.map_cons, List.map_nil, eraseDups_concat]
  simp only [texts, List.mem_eraseDups]

/-- a text that does not appear has no members -/
theorem members_of_not_mem {documents : List Document} {text : String} (h : text ∉ s.texts documents) :
    s.members documents text = [] := by
  refine List.filter_eq_nil_iff.2 ?_
  intro d hd htext
  exact h (s.mem_texts.2 ⟨d, hd, by simpa using htext⟩)

/-- the rows so far, as those of the classes so far; each document is written into the row of its class -/
theorem placed_eq_map (documents : List Document) :
    s.placed documents = (s.texts documents).map fun t => (t, s.gather (s.members documents t)) := by
  induction documents using List.reverseRecOn with
  | nil => rfl
  | append_singleton documents d ih =>
    have hstep : s.placed (documents ++ [d]) = s.place d (s.textOf d) (s.fresh d) (s.placed documents) := by
      simp [placed]
    rw [hstep, ih, texts_concat]
    split
    · next h =>
      rw [place_of_mem s d _ _ _ (s.nodup_texts documents) h]
      refine List.map_congr_left fun t _ => ?_
      rw [members_concat]
      by_cases ht : t = s.textOf d
      · subst ht
        obtain ⟨e, rest, he, -, -⟩ := s.exists_members h
        rw [if_pos rfl, if_pos rfl, gather_concat s (he ▸ List.cons_ne_nil e rest)]
      · rw [if_neg ht, if_neg (Ne.symm ht)]
    · next h =>
      rw [place_of_not_mem s d _ _ _ h, List.map_append, List.map_cons, List.map_nil]
      congr 1
      · refine List.map_congr_left fun t ht => ?_
        have hne : s.textOf d ≠ t := fun heq => h (heq ▸ ht)
        rw [members_concat, if_neg hne]
      · rw [members_concat, if_pos rfl, members_of_not_mem s h]
        rfl

/-- **Groups.** One row for each text of the key, in the order in which the texts first appear: the row that the
documents of this text make. -/
theorem run_eq_map (documents : List Document) :
    s.run documents = (s.texts documents).map fun t => s.gather (s.members documents t) := by
  rw [run_eq_placed, placed_eq_map, List.map_map]
  rfl

/-- a row comes of one document and others behind it with the same text -/
theorem exists_of_mem_run {documents : List Document} {row : Document} (h : row ∈ s.run documents) :
    ∃ d ∈ documents, ∃ rest, row = s.gather (d :: rest) := by
  rw [run_eq_map] at h
  obtain ⟨t, ht, rfl⟩ := List.mem_map.1 h
  obtain ⟨d, rest, hmembers, hd, -⟩ := s.exists_members ht
  exact ⟨d, hd, rest, by rw [hmembers]⟩

/-- documents that all have the same key make one row, if there are any -/
theorem length_run_of_constant {documents : List Document} {key : Json} (h : ∀ d ∈ documents, s.keyOf d = key) :
    (s.run documents).length = min 1 documents.length := by
  rw [run_eq_map, List.length_map, texts]
  cases documents with
  | nil => rfl
  | cons d rest =>
    have hsame : (rest.map s.textOf).filter (fun t => !t == s.textOf d) = [] := by
      refine List.filter_eq_nil_iff.2 ?_
      intro t ht
      obtain ⟨e, he, rfl⟩ := List.mem_map.1 ht
      have hkeys : s.keyOf e = s.keyOf d := (h e (List.mem_cons_of_mem _ he)).trans (h d List.mem_cons_self).symm
      simp [textOf, hkeys]
    rw [List.map_cons, List.eraseDups_cons, hsame, List.eraseDups_nil, List.length_cons, List.length_cons]
    simp

/-! ## Columns -/

/-- each column has its own name, and none has that of the key -/
structure WellNamed : Prop where
  nodup : (s.columns.map (·.name)).Nodup
  key : "_id" ∉ s.columns.map (·.name)

theorem addTo_cons (key : Json) (c : GroupColumn) (columns : List GroupColumn) (row d : Document) :
    addTo ⟨key, c :: columns⟩ row d =
      addTo ⟨key, columns⟩
        (Document.insert row c.name (c.accumulation.add (Document.find? row c.name) (evaluate? d c.expression))) d :=
  rfl

/-- a document leaves what is no column as it is -/
theorem find?_addTo_of_not_mem {name : String} (h : name ∉ s.columns.map (·.name)) (row d : Document) :
    Document.find? (s.addTo row d) name = Document.find? row name := by
  obtain ⟨key, columns⟩ := s
  induction columns generalizing row with
  | nil => rfl
  | cons c rest ih =>
    obtain ⟨hc, hrest⟩ := not_or.1 (List.mem_cons.not.1 h)
    rw [addTo_cons, ih _ hrest, Document.find?_insert, if_neg (Ne.symm hc)]

/-- a document is added to each column by itself -/
theorem find?_addTo {c : GroupColumn} (hnodup : (s.columns.map (·.name)).Nodup) (hc : c ∈ s.columns)
    (row d : Document) :
    Document.find? (s.addTo row d) c.name =
      some (c.accumulation.add (Document.find? row c.name) (evaluate? d c.expression)) := by
  obtain ⟨key, columns⟩ := s
  induction columns generalizing row with
  | nil => exact absurd hc List.not_mem_nil
  | cons b rest ih =>
    obtain ⟨hb, hrest⟩ := List.nodup_cons.1 hnodup
    rw [addTo_cons]
    rcases List.mem_cons.1 hc with rfl | hc
    · rw [find?_addTo_of_not_mem _ hb, Document.find?_insert_self]
    · have hne : b.name ≠ c.name := by
        intro h
        exact hb (List.mem_map.2 ⟨c, hc, h.symm⟩)
      rw [ih _ hrest hc, Document.find?_insert, if_neg hne]

theorem find?_foldl_addTo {c : GroupColumn} (hnodup : (s.columns.map (·.name)).Nodup) (hc : c ∈ s.columns)
    (documents : List Document) (row : Document) :
    Document.find? (documents.foldl s.addTo row) c.name =
      documents.foldl (fun sofar d => some (c.accumulation.add sofar (evaluate? d c.expression)))
        (Document.find? row c.name) := by
  induction documents generalizing row with
  | nil => rfl
  | cons d rest ih => rw [List.foldl_cons, List.foldl_cons, ih, find?_addTo s hnodup hc]

variable {s}

/-- the key of a row is that of the first document -/
theorem find?_gather_id (hs : s.WellNamed) (d : Document) (rest : List Document) :
    Document.find? (s.gather (d :: rest)) "_id" = some (s.keyOf d) := by
  have hkeep : ∀ (documents : List Document) (row : Document),
      Document.find? (documents.foldl s.addTo row) "_id" = Document.find? row "_id" := by
    intro documents
    induction documents with
    | nil => exact fun _ => rfl
    | cons e rest ih => exact fun row => (ih (s.addTo row e)).trans (s.find?_addTo_of_not_mem hs.key row e)
  exact hkeep (d :: rest) (s.fresh d)

/-- the keys of the rows have the texts of the documents, each once -/
theorem map_compact_run (hs : s.WellNamed) (documents : List Document) :
    (s.run documents).map (fun row => (Document.find? row "_id").map Json.compact) =
      (s.texts documents).map some := by
  rw [run_eq_map, List.map_map]
  refine List.map_congr_left fun t ht => ?_
  obtain ⟨d, rest, hmembers, -, htext⟩ := s.exists_members ht
  rw [Function.comp_apply, hmembers, find?_gather_id hs, Option.map_some, ← htext]
  rfl

/-- a column that keeps the first value has that of the first document, null if there is none -/
theorem find?_gather_first (hs : s.WellNamed) {c : GroupColumn} (hc : c ∈ s.columns) (hfirst : c.accumulation = .first)
    (d : Document) (rest : List Document) :
    Document.find? (s.gather (d :: rest)) c.name = some ((evaluate? d c.expression).getD .null) := by
  have hfresh : Document.find? (s.fresh d) c.name = none := by
    have hname : "_id" ≠ c.name := fun h => hs.key (h ▸ List.mem_map_of_mem hc)
    rw [fresh, Document.find?_single, if_neg hname]
  have hkeep : ∀ (documents : List Document) (v : Json),
      documents.foldl (fun sofar e => some (c.accumulation.add sofar (evaluate? e c.expression))) (some v) =
        some v := by
    intro documents v
    rw [hfirst]
    induction documents with
    | nil => rfl
    | cons e rest ih => exact ih
  show Document.find? ((d :: rest).foldl s.addTo (s.fresh d)) c.name = _
  rw [s.find?_foldl_addTo hs.nodup hc, hfresh, List.foldl_cons, hkeep, hfirst]
  rfl

/-! ## Bodies -/

/-- what was read from a body: the key, and a column for each other field, under its name -/
theorem ofBody_eq_ok {body : Document} (h : ofBody body = .ok s) :
    Document.find? body "_id" = some s.key ∧
      (body.filter fun f => f.1 != "_id").mapM GroupColumn.ofField = .ok s.columns := by
  unfold ofBody at h
  split at h
  · cases h
  · next key hkey =>
    obtain ⟨columns, hcolumns, h⟩ := Outcome.bind_eq_ok.1 h
    cases h
    exact ⟨hkey, hcolumns⟩

theorem name_of_ofField {f : String × Json} {c : GroupColumn} (h : GroupColumn.ofField f = .ok c) : c.name = f.1 := by
  unfold GroupColumn.ofField at h
  split at h
  · split at h
    · cases h
      rfl
    · cases h
  · cases h

theorem names_of_ofBody {body : Document} (h : ofBody body = .ok s) :
    s.columns.map (·.name) = (body.filter fun f => f.1 != "_id").map (·.1) := by
  have hcolumns := Outcome.mapM_eq_ok_iff.1 (ofBody_eq_ok h).2
  generalize (body.filter fun f => f.1 != "_id") = fields at hcolumns ⊢
  generalize s.columns = columns at hcolumns ⊢
  induction hcolumns with
  | nil => rfl
  | cons hfirst _ ih => rw [List.map_cons, List.map_cons, name_of_ofField hfirst, ih]

/-- keys of a body are different, so the columns that it describes are -/
theorem wellNamed_of_ofBody {body : Document} (hbody : body.Ordered) (h : ofBody body = .ok s) : s.WellNamed := by
  have hnames := names_of_ofBody h
  constructor
  · rw [hnames]
    have hkeys : (body.filter fun f => f.1 != "_id").Pairwise fun a b => a.1 < b.1 := hbody.filter _
    exact List.pairwise_map.2 (hkeys.imp fun hlt => ne_of_lt hlt)
  · rw [hnames]
    intro hmem
    obtain ⟨f, hf, hkey⟩ := List.mem_map.1 hmem
    have hne := (List.mem_filter.1 hf).2
    rw [hkey] at hne
    cases hne

/-- every field of the body but the key is a column -/
theorem exists_column_of_ofBody {body : Document} (h : ofBody body = .ok s) {f : String × Json} (hf : f ∈ body)
    (hkey : f.1 ≠ "_id") : ∃ c ∈ s.columns, GroupColumn.ofField f = .ok c := by
  have hcolumns := Outcome.mapM_eq_ok_iff.1 (ofBody_eq_ok h).2
  have hf : f ∈ body.filter fun f => f.1 != "_id" := List.mem_filter.2 ⟨hf, by simpa using hkey⟩
  generalize (body.filter fun f => f.1 != "_id") = fields at hcolumns hf
  generalize s.columns = columns at hcolumns ⊢
  induction hcolumns with
  | nil => exact absurd hf List.not_mem_nil
  | cons hfirst _ ih =>
    rcases List.mem_cons.1 hf with rfl | hf
    · exact ⟨_, List.mem_cons_self, hfirst⟩
    · obtain ⟨c, hc, hread⟩ := ih hf
      exact ⟨c, List.mem_cons_of_mem _ hc, hread⟩

end GroupSpec

/-! ## Rendered groupings -/

/-- a rendered path is read as the first value there -/
theorem evaluate?_pathExpression (d : Document) (path : String) :
    evaluate? d (pathExpression path) = Document.first? d path := by
  simp [pathExpression, evaluate?, String.toList_append]

/-- a rendered column is read as it was meant -/
theorem ofField_expression (c : Column) :
    GroupColumn.ofField (c.name, .obj c.expression) = .ok ⟨c.name, c.accumulation, pathExpression c.path⟩ := by
  simp [GroupColumn.ofField, Column.expression, Document.single, Accumulation.ofTag?_tag]

namespace Grouping

theorem toDocument_concat (key : String) (columns : List Column) (c : Column) :
    toDocument ⟨key, columns ++ [c]⟩ = Document.insert (toDocument ⟨key, columns⟩) c.name (.obj c.expression) := by
  simp [toDocument]

theorem ordered_toDocument (g : Grouping) : g.toDocument.Ordered := by
  obtain ⟨key, columns⟩ := g
  induction columns using List.reverseRecOn with
  | nil => exact List.pairwise_singleton _ _
  | append_singleton columns c ih =>
    rw [toDocument_concat]
    exact Document.ordered_insert ih _ _

/-- the body has the key and the columns, and nothing else -/
theorem eq_of_mem_toDocument {g : Grouping} {f : String × Json} (h : f ∈ g.toDocument) :
    f = ("_id", pathExpression g.key) ∨ ∃ c ∈ g.columns, f = (c.name, .obj c.expression) := by
  obtain ⟨key, columns⟩ := g
  induction columns using List.reverseRecOn with
  | nil => exact Or.inl (List.mem_singleton.1 h)
  | append_singleton columns c ih =>
    rw [toDocument_concat] at h
    rcases Document.mem_insert h with rfl | h
    · exact Or.inr ⟨c, List.mem_append_right _ List.mem_cons_self, rfl⟩
    · exact (ih h).imp_right fun ⟨b, hb, hf⟩ => ⟨b, List.mem_append_left _ hb, hf⟩

/-- where columns have the name, the body has one of them -/
theorem exists_find?_toDocument {g : Grouping} {name : String} (h : ∃ c ∈ g.columns, c.name = name) :
    ∃ c ∈ g.columns, c.name = name ∧ Document.find? g.toDocument name = some (.obj c.expression) := by
  obtain ⟨key, columns⟩ := g
  induction columns using List.reverseRecOn with
  | nil =>
    obtain ⟨c, hc, -⟩ := h
    exact absurd hc List.not_mem_nil
  | append_singleton columns c ih =>
    rw [toDocument_concat, Document.find?_insert]
    by_cases hname : c.name = name
    · exact ⟨c, List.mem_append_right _ List.mem_cons_self, hname, if_pos hname⟩
    · obtain ⟨b, hb, hb'⟩ := h
      have hbefore : b ∈ columns := by
        rcases List.mem_append.1 hb with hb | hb
        · exact hb
        · rw [List.mem_singleton.1 hb] at hb'
          exact absurd hb' hname
      obtain ⟨e, he, hname', hfind⟩ := ih ⟨b, hbefore, hb'⟩
      exact ⟨e, List.mem_append_left _ he, hname', (if_neg hname).trans hfind⟩

/-- where no column has the name of the key, the body has the key -/
theorem find?_toDocument_id {g : Grouping} (h : ∀ c ∈ g.columns, c.name ≠ "_id") :
    Document.find? g.toDocument "_id" = some (pathExpression g.key) := by
  obtain ⟨key, columns⟩ := g
  induction columns using List.reverseRecOn with
  | nil => rfl
  | append_singleton columns c ih =>
    rw [toDocument_concat, Document.find?_insert, if_neg (h c (List.mem_append_right _ List.mem_cons_self))]
    exact ih fun b hb => h b (List.mem_append_left _ hb)

/-- a store reads every rendered grouping -/
theorem exists_ofBody (g : Grouping) : ∃ s, GroupSpec.ofBody g.toDocument = .ok s := by
  have hkey : ∃ key, Document.find? g.toDocument "_id" = some key := by
    by_cases h : ∃ c ∈ g.columns, c.name = "_id"
    · obtain ⟨c, -, -, hfind⟩ := exists_find?_toDocument h
      exact ⟨_, hfind⟩
    · exact ⟨_, find?_toDocument_id fun c hc hname => h ⟨c, hc, hname⟩⟩
  have hcolumns : ∃ columns, (g.toDocument.filter fun f => f.1 != "_id").mapM GroupColumn.ofField = .ok columns := by
    refine Outcome.exists_mapM_eq_ok.2 ?_
    intro f hf
    obtain ⟨hmem, hne⟩ := List.mem_filter.1 hf
    rcases eq_of_mem_toDocument hmem with rfl | ⟨c, -, rfl⟩
    · cases hne
    · exact ⟨_, ofField_expression c⟩
  obtain ⟨key, hkey⟩ := hkey
  obtain ⟨columns, hcolumns⟩ := hcolumns
  refine ⟨⟨key, columns⟩, ?_⟩
  rw [GroupSpec.ofBody, hkey]
  dsimp only
  rw [hcolumns]
  rfl

end Grouping

end DocumentQuery
