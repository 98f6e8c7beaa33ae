/-
HIDDEN FIELDS. The fields that the settings exclude are dropped in two ways. Answers with a single document lose the
keys of these names; rows of a pipeline lose what stands at these names as dotted paths. For plain names this is the
same. A name with a dot is a key for the one and a way into objects for the other:

- `find?_strip`, `find?_without`: what either leaves of a field;
- `strip_eq_without_iff`: they agree on a document exactly when no excluded path leads anywhere in it;
- `strip_eq_shown_iff`: the same of the projection as a store runs it;
- `strip_shows_nested`: a nested field that rows hide and single documents show.
-/
import DocumentQuery.Proofs.KeptFields
import DocumentQuery.Proofs.Rendering
import DocumentQuery.Resource.Basic

namespace DocumentQuery

/-! ## Plain names -/

namespace Path

theorem not_mem_of_mem_splitChars {sep : Char} {cs part : List Char} (h : part ∈ splitChars sep cs) : sep ∉ part := by
  induction cs generalizing part with
  | nil =>
    rw [splitChars, List.mem_singleton] at h
    rw [h]
    exact List.not_mem_nil
  | cons c rest ih =>
    rw [splitChars] at h
    split at h
    · rcases List.mem_cons.1 h with rfl | h
      · exact List.not_mem_nil
      · exact ih h
    · next hc =>
      split at h
      · rw [List.mem_singleton.1 h]
        simpa using Ne.symm hc
      · next first parts hparts =>
        rcases List.mem_cons.1 h with rfl | h
        · have hfirst : sep ∉ first := ih (hparts ▸ List.mem_cons_self)
          simp [hfirst, Ne.symm hc]
        · exact ih (hparts ▸ List.mem_cons_of_mem _ h)

theorem splitChars_of_not_mem {sep : Char} {cs : List Char} (h : sep ∉ cs) : splitChars sep cs = [cs] := by
  induction cs with
  | nil => rfl
  | cons c rest ih =>
    rw [List.mem_cons, not_or] at h
    rw [splitChars, if_neg (Ne.symm h.1), ih h.2]

/-- a segment has no dot, so as a path it is plain -/
theorem segments_of_mem {path s : String} (h : s ∈ segments path) : segments s = [s] := by
  obtain ⟨part, hpart, rfl⟩ := List.mem_map.1 h
  rw [segments, String.toList_ofList, splitChars_of_not_mem (not_mem_of_mem_splitChars hpart)]
  rfl

theorem beginsAt_iff {key path : String} : beginsAt key path = true ↔ ∃ rest, segments path = key :: rest := by
  obtain ⟨s, rest, hpath⟩ := exists_segments path
  simp [beginsAt, hpath]

theorem segments_of_beginsAt {key path : String} (h : beginsAt key path = true) : segments key = [key] := by
  obtain ⟨rest, hpath⟩ := beginsAt_iff.1 h
  exact segments_of_mem (hpath ▸ List.mem_cons_self)

end Path

namespace Document

/-! ## Dropping keys -/

theorem find?_strip {d : Document} (hd : d.Ordered) (fields : List String) (k : String) :
    find? (d.strip fields) k = if k ∈ fields then none else find? d k := by
  induction fields generalizing d with
  | nil => simp [strip]
  | cons f rest ih =>
    have hstrip : d.strip (f :: rest) = (erase d f).strip rest := rfl
    rw [hstrip, ih (ordered_erase hd f), find?_erase hd]
    by_cases hf : f = k
    · simp [hf]
    · simp [hf, Ne.symm hf]

theorem ordered_strip {d : Document} (hd : d.Ordered) (fields : List String) : (d.strip fields).Ordered := by
  induction fields generalizing d with
  | nil => exact hd
  | cons f rest ih => exact ih (ordered_erase hd f)

/-! ## Dropping what stands at paths -/

theorem ordered_without {d : Document} (hd : (Json.obj d).Ordered) (paths : List String) :
    (Json.obj (without d paths)).Ordered := by
  induction paths generalizing d with
  | nil => exact hd
  | cons p rest ih => exact ih (ordered_removePath hd p)

/-- behind all removals, each of them finds nothing any more -/
theorem removePath_without_of_mem {d : Document} (hd : (Json.obj d).Ordered) {paths : List String} {p : String}
    (hp : p ∈ paths) : (removePath (without d paths) p).1 = none := by
  refine removeAt_none_of_dropAt (ordered_without hd paths) ?_
  show (removePath (without d paths) p).2 = without d paths
  induction paths generalizing d with
  | nil => exact absurd hp List.not_mem_nil
  | cons q rest ih =>
    have hq := ordered_removePath hd q
    rcases List.mem_cons.1 hp with rfl | hp
    · rw [without_cons, removePath_without hq]
      exact congrArg (without · rest) (dropAt_idem hd _)
    · exact ih hq hp

/-- a field stays as it is if no path that begins with it leads to a value -/
theorem find?_without {d : Document} (hd : (Json.obj d).Ordered) {paths : List String} {k : String}
    (h : ∀ p ∈ paths, Path.beginsAt k p = true → (removePath d p).1 = none) :
    find? (without d paths) k = find? d k := by
  induction paths generalizing d with
  | nil => rfl
  | cons p rest ih =>
    have hfirst : find? (removePath d p).2 k = find? d k := by
      by_cases hp : Path.beginsAt k p = true
      · exact congrArg (find? · k) (dropAt_of_removeAt_none (h p List.mem_cons_self hp))
      · obtain ⟨s, below, hpath⟩ := Path.exists_segments p
        have hs : s ≠ k := by
          rintro rfl
          exact hp (Path.beginsAt_iff.2 ⟨below, hpath⟩)
        have hframe := find?_dropAt hd.fields s below k
        rw [if_neg hs, ← hpath] at hframe
        exact hframe
    rw [without_cons, ih (ordered_removePath hd p), hfirst]
    intro q hq hbegins
    obtain ⟨below, hpath⟩ := Path.beginsAt_iff.1 hbegins
    have hnone := h q (List.mem_cons_of_mem _ hq) hbegins
    rw [removePath_fst _ hpath] at hnone ⊢
    rw [hfirst]
    exact hnone

/-- no path begins with a name that has a dot, so a key of such a name stays -/
theorem find?_without_of_dotted {d : Document} (hd : (Json.obj d).Ordered) (paths : List String) {k : String}
    (hdots : Path.segments k ≠ [k]) : find? (without d paths) k = find? d k := by
  refine find?_without hd ?_
  intro p _ hbegins
  exact absurd (Path.segments_of_beginsAt hbegins) hdots

/-! ## Both ways -/

/-- no excluded name with a dot matters in a document: it is no key, and as a path it leads to no value, unless the
whole field that it begins with is excluded -/
def HidesAlike (d : Document) (fields : List String) : Prop :=
  ∀ f ∈ fields, Path.segments f ≠ [f] →
    find? d f = none ∧ ((∃ g ∈ fields, Path.beginsAt g f = true) ∨ (removePath d f).1 = none)

section

variable {d : Document} {fields : List String}

/-- names without dots never matter -/
theorem hidesAlike_of_plain (h : ∀ f ∈ fields, Path.segments f = [f]) : HidesAlike d fields := by
  intro f hf hdots
  exact absurd (h f hf) hdots

/-- a name with a dot that is no path into the document and no key of it -/
theorem hidesAlike_of_eq (hd : (Json.obj d).Ordered) (h : d.strip fields = without d fields) :
    HidesAlike d fields := by
  intro f hf hdots
  have hfields : ∀ k, (if k ∈ fields then none else find? d k) = find? (without d fields) k := by
    intro k
    rw [← find?_strip hd.fields, h]
  constructor
  · rw [← find?_without_of_dotted hd fields hdots, ← hfields f, if_pos hf]
  · by_cases hwhole : ∃ g ∈ fields, Path.beginsAt g f = true
    · exact Or.inl hwhole
    · right
      obtain ⟨s, rest, hpath⟩ := Path.exists_segments f
      have hs : s ∉ fields := fun hs => hwhole ⟨s, hs, Path.beginsAt_iff.2 ⟨rest, hpath⟩⟩
      have hkept := hfields s
      rw [if_neg hs] at hkept
      have hnone := removePath_without_of_mem hd hf
      rw [removePath_fst _ hpath] at hnone ⊢
      rw [hkept]
      exact hnone

theorem eq_of_hidesAlike (hd : (Json.obj d).Ordered) (h : HidesAlike d fields) :
    d.strip fields = without d fields := by
  refine ext_find? (ordered_strip hd.fields fields) (ordered_without hd fields).fields ?_
  intro k
  rw [find?_strip hd.fields]
  by_cases hk : k ∈ fields
  · rw [if_pos hk]
    by_cases hdots : Path.segments k = [k]
    · have hnone := removePath_without_of_mem hd hk
      unfold removePath at hnone
      rw [hdots, removeAt] at hnone
      exact hnone.symm
    · rw [find?_without_of_dotted hd fields hdots, (h k hk hdots).1]
  · rw [if_neg hk]
    refine (find?_without hd ?_).symm
    intro p hp hbegins
    obtain ⟨rest, hpath⟩ := Path.beginsAt_iff.1 hbegins
    have hdots : Path.segments p ≠ [p] := by
      intro hplain
      rw [hplain] at hpath
      cases hpath
      exact hk hp
    rcases (h p hp hdots).2 with ⟨g, hg, hg'⟩ | hnone
    · -- both names are the first segment of the path
      obtain ⟨rest', hpath'⟩ := Path.beginsAt_iff.1 hg'
      rw [hpath] at hpath'
      cases hpath'
      exact absurd hg hk
    · exact hnone

theorem strip_eq_without_iff (hd : (Json.obj d).Ordered) : d.strip fields = without d fields ↔ HidesAlike d fields :=
  ⟨hidesAlike_of_eq hd, eq_of_hidesAlike hd⟩

end

/-- **Fields hidden in two ways.** A store shows a document under the projection that excludes some fields. This is the
document without these keys exactly when no name with a dot among them is a key of the document, and each that leads to
a value in it begins with a name that is excluded itself; so it always is if all names are plain. -/
theorem strip_eq_shown_iff {d : Document} (hd : (Json.obj d).Ordered) (fields : List String)
    (geoKey : Option String) :
    ∃ shown, runPipeline [d] ((PipelineBuilder.ofFilter .unconstrained).exclude fields).build.toDocuments geoKey =
        .ok [shown] ∧ (d.strip fields = shown ↔ HidesAlike d fields) ∧
      ((∀ f ∈ fields, Path.segments f = [f]) → d.strip fields = shown) := by
  have hiff : d.strip fields = without d fields ↔ HidesAlike d fields := strip_eq_without_iff hd
  refine ⟨without d fields, ?_, hiff, fun hplain => hiff.2 (hidesAlike_of_plain hplain)⟩
  have hbuild : ((PipelineBuilder.ofFilter .unconstrained).exclude fields).build =
      (((PipelineBuilder.ofFilter .unconstrained).exclude fields).projection.map Stage.project).toList := rfl
  rw [runPipeline, hbuild, run_exclusion, List.map_singleton, without_exclusion hd]

/-- a thing with a secret in an object -/
def secretThing : Document :=
  [("_id", .str "1"), ("meta", .obj [("secret", .nat 1), ("size", .nat 2)]), ("name", .str "a")]

theorem ordered_secretThing : (Json.obj secretThing).Ordered := by
  simp only [secretThing, Json.nat, Json.Ordered, Json.OrderedFields, Document.Ordered, and_true, true_and]
  decide

theorem strip_eq_shown_iff_secretThing :
    let fields := ["meta.secret", "meta", "other.key"]
    let shown : Document := [("_id", .str "1"), ("name", .str "a")]
    (Json.obj secretThing).Ordered ∧
      runPipeline [secretThing] ((PipelineBuilder.ofFilter .unconstrained).exclude fields).build.toDocuments none =
        .ok [shown] ∧
      HidesAlike secretThing fields ∧ secretThing.strip fields = shown := by
  intro fields shown
  obtain ⟨shown', hrun, hiff, -⟩ := strip_eq_shown_iff ordered_secretThing fields none
  have hshown : runPipeline [secretThing]
      ((PipelineBuilder.ofFilter .unconstrained).exclude fields).build.toDocuments none = .ok [shown] := rfl
  cases hshown.symm.trans hrun
  have halike : HidesAlike secretThing fields := by
    intro f hf hdots
    simp only [fields, List.mem_cons, List.not_mem_nil, or_false] at hf
    rcases hf with rfl | rfl | rfl
    · exact ⟨rfl, Or.inl ⟨"meta", by decide, by decide⟩⟩
    · exact absurd (by decide) hdots
    · exact ⟨rfl, Or.inr rfl⟩
  exact ⟨ordered_secretThing, hshown, halike, hiff.2 halike⟩

/-- the secret is hidden in rows and shown in an answer with the single document -/
theorem strip_shows_nested :
    runPipeline [secretThing]
        ((PipelineBuilder.ofFilter .unconstrained).exclude ["meta.secret"]).build.toDocuments none =
          .ok [[("_id", .str "1"), ("meta", .obj [("size", .nat 2)]), ("name", .str "a")]] ∧
      secretThing.strip ["meta.secret"] = secretThing ∧
      secretThing ≠ [("_id", .str "1"), ("meta", .obj [("size", .nat 2)]), ("name", .str "a")] := by
  refine ⟨rfl, rfl, ?_⟩
  intro h
  have hmeta := congrArg (find? · "meta") h
  simp [secretThing, find?] at hmeta

end Document

end DocumentQuery
