/-
PROJECTED DOCUMENTS. A projection keeps the paths whose flags count as true, or drops all its paths if no flag does.

- `setAll_separate`, `valueAt_setAll`: writes at separate paths succeed, and every value stands at its path;
- `Keeps`, `Separate`: the paths that a projection keeps, and that none of them disturbs another;
- `Kept`, `exists_kept`: what is left of a document if paths are kept;
- `Dropped`, `dropped_without`: what is left if paths are dropped;
- `run_project_separate`: the whole stage, which changes nothing when it is run again.
-/
import DocumentQuery.Evaluation.Run
import DocumentQuery.Proofs.HiddenFields
import DocumentQuery.Proofs.MovedValues
import DocumentQuery.Proofs.SeparateSettings

namespace DocumentQuery

/-! ## Writes at separate paths -/

namespace Document

/-- a write below a field that is missing succeeds -/
theorem setAt_of_find?_none (value : Json) {d : Document} {s : String} (rest : List String) (h : find? d s = none) :
    (setAt value d (s :: rest)).1 = .ok none := by
  induction rest generalizing d s with
  | nil => rw [setAt, h]
  | cons t rest ih =>
    rw [fst_setAt, h]
    exact ih rfl

theorem setPath_of_setAt {d : Document} {path : String} {value : Json} {previous : Option Json}
    (h : (setAt value d (Path.segments path)).1 = .ok previous) :
    setPath d path value = (.ok previous, (setAt value d (Path.segments path)).2) :=
  setPath_eq_ok_iff.2 (Prod.ext h rfl)

end Document

section

variable {values d e : Document}

theorem setAll_cons_iff {f : String × Json} : setAll d (f :: values) = .ok e ↔
    ∃ previous next, Document.setPath d f.1 f.2 = (.ok previous, next) ∧ setAll next values = .ok e := by
  rw [setAll]
  constructor
  · intro h
    split at h
    · next hset => exact ⟨_, _, hset, h⟩
    · cases h
  · rintro ⟨previous, middle, hset, h⟩
    rw [hset]
    exact h

/-- **Separate writes succeed.** Writes of which none overlaps another all succeed if each of them does by itself. -/
theorem setAll_separate (hapart : values.Pairwise fun f g => ¬Path.Overlap f.1 g.1)
    (hfree : ∀ f ∈ values, ∃ previous, (Document.setAt f.2 d (Path.segments f.1)).1 = .ok previous) :
    ∃ e, setAll d values = .ok e := by
  induction values generalizing d with
  | nil => exact ⟨d, rfl⟩
  | cons f rest ih =>
    obtain ⟨hfirst, hapart⟩ := List.pairwise_cons.1 hapart
    obtain ⟨⟨previous, hset⟩, hfree⟩ := List.forall_mem_cons.1 hfree
    have hlater : ∀ g ∈ rest, ∃ previous,
        (Document.setAt g.2 (Document.setAt f.2 d (Path.segments f.1)).2 (Path.segments g.1)).1 = .ok previous := by
      intro g hg
      obtain ⟨h, h'⟩ := not_or.1 (hfirst g hg)
      rw [Document.setAt_fst_setAt h h']
      exact hfree g hg
    obtain ⟨e, he⟩ := ih hapart hlater
    exact ⟨e, setAll_cons_iff.2 ⟨previous, _, Document.setPath_of_setAt hset, he⟩⟩

/-- writes leave what stands at segments that overlap none of them -/
theorem valueAt_setAll_of_apart {read : List String}
    (hapart : ∀ f ∈ values, ¬Path.segments f.1 <+: read ∧ ¬read <+: Path.segments f.1) (h : setAll d values = .ok e) :
    e.valueAt read = d.valueAt read := by
  induction values generalizing d with
  | nil =>
    cases h
    rfl
  | cons f rest ih =>
    obtain ⟨⟨hfirst, hfirst'⟩, hrest⟩ := List.forall_mem_cons.1 hapart
    obtain ⟨previous, middle, hset, h⟩ := setAll_cons_iff.1 h
    obtain ⟨-, rfl⟩ := Document.setAt_of_setPath hset
    rw [ih hrest h, Document.valueAt_setAt hfirst hfirst']

/-- behind separate writes every value stands at its path -/
theorem valueAt_setAll (hapart : values.Pairwise fun f g => ¬Path.Overlap f.1 g.1) (h : setAll d values = .ok e) :
    ∀ f ∈ values, e.valueAt (Path.segments f.1) = some f.2 := by
  induction values generalizing d with
  | nil => nofun
  | cons f rest ih =>
    obtain ⟨hfirst, hapart⟩ := List.pairwise_cons.1 hapart
    obtain ⟨previous, middle, hset, h⟩ := setAll_cons_iff.1 h
    refine List.forall_mem_cons.2 ⟨?_, ih hapart h⟩
    have hbeside : ∀ g ∈ rest, ¬Path.segments g.1 <+: Path.segments f.1 ∧ ¬Path.segments f.1 <+: Path.segments g.1 :=
      fun g hg => (not_or.1 (hfirst g hg)).symm
    rw [valueAt_setAll_of_apart hbeside h, Document.valueAt_setPath_self hset]

theorem ordered_setAll (hd : (Json.obj d).Ordered) (hvalues : ∀ f ∈ values, f.2.Ordered)
    (h : setAll d values = .ok e) : (Json.obj e).Ordered := by
  induction values generalizing d with
  | nil =>
    cases h
    exact hd
  | cons f rest ih =>
    obtain ⟨hvalue, hrest⟩ := List.forall_mem_cons.1 hvalues
    obtain ⟨previous, middle, hset, h⟩ := setAll_cons_iff.1 h
    exact ih (Document.ordered_setPath hd hvalue hset) hrest h

end

/-! ## Values that are read -/

theorem Json.ordered_of_mem_oneBelow {v w : Json} (hv : v.Ordered) {segment : String} (h : w ∈ v.oneBelow segment) :
    w.Ordered := by
  cases v with
  | obj fields => exact hv.find? (Option.mem_toList.1 h)
  | arr items =>
    have hitems := Json.ordered_arr_iff.1 hv
    unfold Json.oneBelow at h
    dsimp only at h
    split at h
    · exact hitems w (List.mem_of_getElem? (Option.mem_toList.1 h))
    · obtain ⟨item, hitem, hfield⟩ := List.mem_filterMap.1 h
      cases item with
      | obj fields => exact (hitems _ hitem).find? hfield
      | _ => cases hfield
  | _ => cases h

theorem Json.ordered_of_mem_descend {v w : Json} (hv : v.Ordered) {segments : List String}
    (h : w ∈ v.descend segments) : w.Ordered := by
  induction segments generalizing v with
  | nil =>
    rw [Json.descend, List.mem_singleton] at h
    exact h ▸ hv
  | cons s rest ih =>
    obtain ⟨x, hx, h⟩ := List.mem_flatMap.1 h
    exact ih (Json.ordered_of_mem_oneBelow hv hx) h

theorem Document.ordered_of_first? {d : Document} (hd : (Json.obj d).Ordered) {path : String} {v : Json}
    (h : first? d path = some v) : v.Ordered := by
  have hmem := List.mem_of_head? h
  unfold resolve at hmem
  split at hmem
  · cases hmem
  · split at hmem
    · next w hw => exact Json.ordered_of_mem_descend (hd.find? hw) hmem
    · cases hmem

/-! ## Paths that are kept -/

/-- a projection keeps a path other than the identifier -/
def Keeps (body : Document) (path : String) : Prop := ∃ flag, (path, flag) ∈ body ∧ flag.truthy = true ∧ path ≠ "_id"

/-- kept paths have segments that all count, none of them leads through another, and none through the identifier -/
structure Separate (body : Document) : Prop where
  full : ∀ p, Keeps body p → Path.Full p
  apart : ∀ p q, Keeps body p → Keeps body q → p ≠ q → ¬Path.Overlap p q
  besideId : ∀ p, Keeps body p → ¬["_id"] <+: Path.segments p

/-- what a projection leaves of a document: each kept path leads to its first value and to nothing else, the identifier
is there unless its flag forbids it, and nothing else is there -/
structure Kept (body d out : Document) : Prop where
  read : ∀ f ∈ body, f.2.truthy = true → Document.resolve out f.1 = (Document.first? d f.1).toList
  place : ∀ p, Keeps body p → ∀ v, out.LeadsTo (Path.segments p) v ↔ Document.first? d p = some v
  id : (∀ flag, Document.find? body "_id" = some flag → flag.truthy = true) →
    Document.find? out "_id" = Document.find? d "_id"
  noId : ∀ flag, Document.find? body "_id" = some flag → flag.truthy = false → Document.find? out "_id" = none
  only : ∀ segments v, out.LeadsTo segments v → ["_id"] <+: segments ∨
    ∃ p, Keeps body p ∧ (Document.first? d p).isSome ∧
      (Path.segments p <+: segments ∨ segments <+: Path.segments p)
  ordered : (Json.obj out).Ordered

section

variable {body : Document}

theorem mem_keptPaths_iff {path : String} : path ∈ keptPaths body ↔ Keeps body path := by
  unfold keptPaths Keeps
  rw [List.mem_map]
  constructor
  · rintro ⟨⟨p, flag⟩, hf, rfl⟩
    obtain ⟨hmem, hf⟩ := List.mem_filter.1 hf
    obtain ⟨hid, hflag⟩ := Bool.and_eq_true_iff.1 hf
    exact ⟨flag, hmem, hflag, by simpa using hid⟩
  · rintro ⟨flag, hmem, hflag, hid⟩
    exact ⟨(path, flag), List.mem_filter.2 ⟨hmem, by simp [hid, hflag]⟩, rfl⟩

theorem separate_iff : Separate body ↔ (∀ p ∈ keptPaths body, Path.Full p ∧ ¬["_id"] <+: Path.segments p) ∧
    ∀ p ∈ keptPaths body, ∀ q ∈ keptPaths body, p ≠ q → ¬Path.Overlap p q := by
  simp only [mem_keptPaths_iff]
  constructor
  · intro h
    exact ⟨fun p hp => ⟨h.full p hp, h.besideId p hp⟩, fun p hp q hq => h.apart p q hp hq⟩
  · rintro ⟨hpaths, hapart⟩
    exact ⟨fun p hp => (hpaths p hp).1, fun p q hp hq => hapart p hp q hq, fun p hp => (hpaths p hp).2⟩

instance (body : Document) : Decidable (Separate body) := decidable_of_iff _ separate_iff.symm

/-- the first values at some paths, as fields -/
def firstValues (d : Document) (paths : List String) : Document :=
  paths.filterMap fun p => (Document.first? d p).map (p, ·)

theorem mem_firstValues_iff {d : Document} {paths : List String} {p : String} {v : Json} :
    (p, v) ∈ firstValues d paths ↔ p ∈ paths ∧ Document.first? d p = some v := by
  simp [firstValues, List.mem_filterMap]

theorem copyPaths_eq_setAll (d : Document) (paths : List String) (target : Document) :
    copyPaths d paths target = setAll target (firstValues d paths) := by
  induction paths generalizing target with
  | nil => rfl
  | cons p rest ih =>
    rw [copyPaths, firstValues, List.filterMap_cons]
    cases Document.first? d p with
    | none => exact ih target
    | some v =>
      dsimp only [Option.map_some]
      rw [setAll]
      rcases Document.setPath target p v with ⟨_ | _, written⟩
      · rfl
      · exact ih written

/-- what a projection starts from: the identifier, if there is one and it is kept -/
def keptId (body d : Document) : Document :=
  match Document.find? d "_id" with
  | some id => if keepsId body then Document.single "_id" id else []
  | none => []

theorem projectOne_of_flag {d : Document} (h : ∃ f ∈ body, f.2.truthy = true) :
    projectOne body d = setAll (keptId body d) (firstValues d (keptPaths body)) := by
  have hkeeps : ¬isExclusion body = true := by
    obtain ⟨f, hf, hflag⟩ := h
    intro hall
    have := List.all_eq_true.1 hall f hf
    simp [hflag] at this
  rw [projectOne, if_neg hkeeps, copyPaths_eq_setAll]
  rfl

theorem find?_keptId_of_ne (body d : Document) {k : String} (h : "_id" ≠ k) :
    Document.find? (keptId body d) k = none := by
  unfold keptId
  split
  · split
    · rw [Document.find?_single, if_neg h]
    · rfl
  · rfl

theorem find?_keptId (body d : Document) :
    Document.find? (keptId body d) "_id" = if keepsId body then Document.find? d "_id" else none := by
  unfold keptId
  cases Document.find? d "_id" with
  | none => simp
  | some id =>
    dsimp only
    split
    · rfl
    · rfl

theorem ordered_keptId (body : Document) {d : Document} (hd : (Json.obj d).Ordered) :
    (Json.obj (keptId body d)).Ordered := by
  unfold keptId
  split
  · next id hid =>
    split
    · exact Json.ordered_obj_iff.2 ⟨List.pairwise_singleton _ _, by simpa [Document.single] using hd.find? hid⟩
    · exact Json.ordered_obj_nil
  · exact Json.ordered_obj_nil

theorem keepsId_iff : keepsId body = true ↔
    ∀ flag, Document.find? body "_id" = some flag → flag.truthy = true := by
  unfold keepsId
  cases Document.find? body "_id" <;> simp

/-- a kept path begins beside the identifier -/
theorem Separate.exists_segments (hbody : Separate body) {p : String} (hp : Keeps body p) :
    ∃ s rest, Path.segments p = s :: rest ∧ "_id" ≠ s := by
  obtain ⟨s, rest, hpath⟩ := Path.exists_segments p
  refine ⟨s, rest, hpath, ?_⟩
  rintro rfl
  refine hbody.besideId p hp ?_
  rw [hpath]
  exact ⟨rest, rfl⟩

theorem Separate.pairwise_firstValues (hordered : body.Ordered) (hbody : Separate body) (d : Document) :
    (firstValues d (keptPaths body)).Pairwise fun f g => ¬Path.Overlap f.1 g.1 := by
  have hnodup : (keptPaths body).Pairwise (· ≠ ·) := by
    have hkeys : (body.filter fun f => f.1 != "_id" && f.2.truthy).Pairwise fun f g => f.1 < g.1 := hordered.filter _
    exact List.pairwise_map.2 (hkeys.imp fun hlt => ne_of_lt hlt)
  unfold firstValues
  rw [List.pairwise_filterMap]
  refine hnodup.imp_of_mem fun {p q} hp hq hne f hf g hg => ?_
  obtain ⟨v, -, rfl⟩ := Option.map_eq_some_iff.1 hf
  obtain ⟨w, -, rfl⟩ := Option.map_eq_some_iff.1 hg
  exact hbody.apart p q (mem_keptPaths_iff.1 hp) (mem_keptPaths_iff.1 hq) hne

/-- the first values of kept paths are written one beside another -/
theorem Separate.exists_setAll (hordered : body.Ordered) (hbody : Separate body) (d : Document) :
    ∃ out, setAll (keptId body d) (firstValues d (keptPaths body)) = .ok out := by
  refine setAll_separate (hbody.pairwise_firstValues hordered d) fun f hf => ⟨none, ?_⟩
  obtain ⟨s, rest, hpath, hs⟩ := hbody.exists_segments (mem_keptPaths_iff.1 (mem_firstValues_iff.1 hf).1)
  rw [hpath]
  exact Document.setAt_of_find?_none f.2 rest (find?_keptId_of_ne body d hs)

section

variable {d out : Document}

theorem valueAt_keptId {s : String} (hs : "_id" ≠ s) (rest : List String) :
    (keptId body d).valueAt (s :: rest) = none := by
  rw [Document.valueAt_cons, find?_keptId_of_ne body d hs, Option.bind_none]

/-- a kept path without a value overlaps none that is written -/
theorem Separate.not_overlap_firstValues (hbody : Separate body) {p : String} (hp : Keeps body p)
    (hv : Document.first? d p = none) : ∀ f ∈ firstValues d (keptPaths body), ¬Path.Overlap f.1 p := by
  intro f hf
  obtain ⟨hmem, hfirst⟩ := mem_firstValues_iff.1 hf
  refine hbody.apart f.1 p (mem_keptPaths_iff.1 hmem) hp ?_
  rintro rfl
  rw [hv] at hfirst
  cases hfirst

/-- **Kept values.** A kept path leads to its first value, through objects. -/
theorem valueAt_kept (hordered : body.Ordered) (hbody : Separate body)
    (h : setAll (keptId body d) (firstValues d (keptPaths body)) = .ok out) {p : String} (hp : Keeps body p) :
    out.valueAt (Path.segments p) = Document.first? d p := by
  cases hv : Document.first? d p with
  | some v =>
    exact valueAt_setAll (hbody.pairwise_firstValues hordered d) h (p, v)
      (mem_firstValues_iff.2 ⟨mem_keptPaths_iff.2 hp, hv⟩)
  | none =>
    have hbeside := hbody.not_overlap_firstValues hp hv
    obtain ⟨s, rest, hpath, hs⟩ := hbody.exists_segments hp
    rw [valueAt_setAll_of_apart (fun f hf => not_or.1 (hbeside f hf)) h, hpath, valueAt_keptId hs]

theorem resolve_kept (hordered : body.Ordered) (hbody : Separate body)
    (h : setAll (keptId body d) (firstValues d (keptPaths body)) = .ok out) {p : String} (hp : Keeps body p) :
    Document.resolve out p = (Document.first? d p).toList := by
  have hvalue := valueAt_kept hordered hbody h hp
  cases hv : Document.first? d p with
  | some v =>
    rw [hv] at hvalue
    rw [Document.resolve_of_full (hbody.full p hp), Document.descend_of_valueAt hvalue]
    rfl
  | none =>
    have hbeside := hbody.not_overlap_firstValues hp hv
    obtain ⟨s, rest, hpath, hs⟩ := hbody.exists_segments hp
    rw [resolve_setAll (hbody.full p hp) (fun f hf hoverlap => hbeside f hf hoverlap.symm) h,
      Document.resolve_of_full (hbody.full p hp), hpath, Json.descend_obj, find?_keptId_of_ne body d hs]
    rfl

theorem find?_id_kept (hbody : Separate body)
    (h : setAll (keptId body d) (firstValues d (keptPaths body)) = .ok out) :
    Document.find? out "_id" = if keepsId body then Document.find? d "_id" else none := by
  have hvalue : out.valueAt ["_id"] = (keptId body d).valueAt ["_id"] := by
    refine valueAt_setAll_of_apart (fun f hf => ?_) h
    obtain ⟨s, rest, hpath, hs⟩ := hbody.exists_segments (mem_keptPaths_iff.1 (mem_firstValues_iff.1 hf).1)
    rw [hpath, List.cons_prefix_cons, List.cons_prefix_cons]
    exact ⟨fun hsame => hs hsame.1.symm, fun hsame => hs hsame.1⟩
  rw [← find?_keptId]
  exact hvalue

/-- what is left has the identifier and kept paths alone -/
theorem only_kept (h : setAll (keptId body d) (firstValues d (keptPaths body)) = .ok out) {segments : List String}
    {v : Json} (hv : out.LeadsTo segments v) : ["_id"] <+: segments ∨ ∃ p, Keeps body p ∧ (Document.first? d p).isSome ∧
      (Path.segments p <+: segments ∨ segments <+: Path.segments p) := by
  by_contra hnone
  obtain ⟨hid, hnone⟩ := not_or.1 hnone
  have hbeside : ∀ f ∈ firstValues d (keptPaths body),
      ¬Path.segments f.1 <+: segments ∧ ¬segments <+: Path.segments f.1 := by
    intro f hf
    obtain ⟨hmem, hfirst⟩ := mem_firstValues_iff.1 hf
    rw [← not_or]
    intro hoverlap
    exact hnone ⟨f.1, mem_keptPaths_iff.1 hmem, by rw [hfirst]; rfl, hoverlap⟩
  obtain ⟨s, rest, rfl⟩ := List.exists_cons_of_ne_nil hv.ne_nil
  have hs : "_id" ≠ s := by
    rintro rfl
    exact hid ⟨rest, rfl⟩
  rw [← Document.valueAt_eq_some_iff, valueAt_setAll_of_apart hbeside h, valueAt_keptId hs] at hv
  cases hv

theorem kept_setAll (hordered : body.Ordered) (hbody : Separate body) (hd : (Json.obj d).Ordered)
    (h : setAll (keptId body d) (firstValues d (keptPaths body)) = .ok out) : Kept body d out := by
  have hid := find?_id_kept hbody h
  constructor
  · rintro ⟨p, flag⟩ hf hflag
    by_cases hp : p = "_id"
    · subst hp
      have hkeeps : keepsId body = true := by
        rw [keepsId_iff, Document.find?_of_mem hordered hf]
        rintro _ ⟨⟩
        exact hflag
      rw [if_pos hkeeps] at hid
      rw [Document.first?, Document.resolve_of_plain Path.segments_id, Document.resolve_of_plain Path.segments_id, hid]
      cases Document.find? d "_id" <;> rfl
    · exact resolve_kept hordered hbody h ⟨flag, hf, hflag, hp⟩
  · intro p hp v
    rw [← Document.valueAt_eq_some_iff, valueAt_kept hordered hbody h hp]
  · intro hflag
    rw [hid, if_pos (keepsId_iff.2 hflag)]
  · intro flag hflag hfalse
    rw [hid, if_neg]
    intro hkeeps
    rw [keepsId_iff.1 hkeeps flag hflag] at hfalse
    cases hfalse
  · exact fun segments v hv => only_kept h hv
  · refine ordered_setAll (ordered_keptId body hd) (fun f hf => ?_) h
    exact Document.ordered_of_first? hd (mem_firstValues_iff.1 hf).2

/-- a projection finds the same in what it has left as in the document -/
theorem setAll_kept_again (hordered : body.Ordered) (hbody : Separate body)
    (h : setAll (keptId body d) (firstValues d (keptPaths body)) = .ok out) :
    setAll (keptId body out) (firstValues out (keptPaths body)) = .ok out := by
  have hstart : keptId body out = keptId body d := by
    unfold keptId
    rw [find?_id_kept hbody h]
    cases keepsId body <;> cases Document.find? d "_id" <;> rfl
  have hvalues : firstValues out (keptPaths body) = firstValues d (keptPaths body) := by
    refine List.filterMap_congr fun p hp => ?_
    rw [Document.first?, resolve_kept hordered hbody h (mem_keptPaths_iff.1 hp), Option.head?_toList]
  rw [hstart, hvalues, h]

end

/-- **Kept paths.** A projection that keeps separate paths gives such a document, and changes it no more. -/
theorem exists_kept (hordered : body.Ordered) (hbody : Separate body) (hflag : ∃ f ∈ body, f.2.truthy = true)
    {d : Document} (hd : (Json.obj d).Ordered) :
    ∃ out, projectOne body d = .ok out ∧ Kept body d out ∧ projectOne body out = .ok out := by
  obtain ⟨out, h⟩ := hbody.exists_setAll hordered d
  refine ⟨out, ?_, kept_setAll hordered hbody hd h, ?_⟩
  · rw [projectOne_of_flag hflag, h]
  · rw [projectOne_of_flag hflag, setAll_kept_again hordered hbody h]

end

/-! ## Paths that are dropped -/

namespace Document

/-- removals leave what stands at segments that overlap none of them -/
theorem valueAt_without {paths : List String} {read : List String}
    (hapart : ∀ p ∈ paths, ¬Path.segments p <+: read ∧ ¬read <+: Path.segments p) {d : Document}
    (hd : (Json.obj d).Ordered) : (without d paths).valueAt read = d.valueAt read := by
  induction paths generalizing d with
  | nil => rfl
  | cons p rest ih =>
    obtain ⟨⟨hfirst, hfirst'⟩, hrest⟩ := List.forall_mem_cons.1 hapart
    rw [without_cons, ih hrest (ordered_removePath hd p)]
    exact valueAt_dropAt hfirst hfirst' hd

/-- at segments that a removal does not lead to or through there stays what stood there, or an object in place of an
object -/
theorem exists_valueAt_dropAt {target read : List String} (h : ¬target <+: read) {d : Document}
    (hd : (Json.obj d).Ordered) {v : Json} (hv : d.valueAt read = some v) :
    ∃ w, (dropAt d target).valueAt read = some w ∧ (w = v ∨ v.isObj = true ∧ w.isObj = true) := by
  induction target generalizing read d with
  | nil => exact absurd List.nil_prefix h
  | cons s rest ih =>
    cases read with
    | nil => cases hv
    | cons t below =>
      rw [valueAt_cons, find?_dropAt hd.fields]
      rw [valueAt_cons] at hv
      by_cases hs : s = t
      · subst hs
        rw [List.cons_prefix_cons, and_iff_right rfl] at h
        obtain ⟨x, hx, hbelow⟩ := Option.bind_eq_some_iff.1 hv
        rw [if_pos rfl, hx, Option.bind_some]
        cases rest with
        | nil => exact absurd List.nil_prefix h
        | cons u rest =>
          cases x with
          | obj fields =>
            cases below with
            | nil =>
              cases hbelow
              exact ⟨_, rfl, Or.inr ⟨rfl, rfl⟩⟩
            | cons c below => exact ih h (hd.find? hx) hbelow
          | _ => exact ⟨v, hbelow, Or.inl rfl⟩
      · rw [if_neg hs]
        exact ⟨v, hv, Or.inl rfl⟩

theorem exists_valueAt_without {paths : List String} {read : List String}
    (hapart : ∀ p ∈ paths, ¬Path.segments p <+: read) {d : Document} (hd : (Json.obj d).Ordered) {v : Json}
    (hv : d.valueAt read = some v) :
    ∃ w, (without d paths).valueAt read = some w ∧ (w = v ∨ v.isObj = true ∧ w.isObj = true) := by
  induction paths generalizing d v with
  | nil => exact ⟨v, hv, Or.inl rfl⟩
  | cons p rest ih =>
    obtain ⟨hfirst, hrest⟩ := List.forall_mem_cons.1 hapart
    obtain ⟨x, hx, hvx⟩ := exists_valueAt_dropAt hfirst hd hv
    obtain ⟨w, hw, hxw⟩ := ih hrest (ordered_removePath hd p) hx
    refine ⟨w, hw, ?_⟩
    rcases hvx with rfl | ⟨hv, hx⟩
    · exact hxw
    · rcases hxw with rfl | ⟨-, hw⟩
      · exact Or.inr ⟨hv, hx⟩
      · exact Or.inr ⟨hv, hw⟩

theorem resolve_without {paths : List String} {path : String} (hfull : Path.Full path)
    (hapart : ∀ p ∈ paths, ¬Path.Overlap path p) {d : Document} (hd : (Json.obj d).Ordered) :
    resolve (without d paths) path = resolve d path := by
  induction paths generalizing d with
  | nil => rfl
  | cons p rest ih =>
    obtain ⟨hfirst, hrest⟩ := List.forall_mem_cons.1 hapart
    rw [without_cons, ih hrest (ordered_removePath hd p), resolve_removePath hfull hfirst hd]

/-- removals that find nothing change nothing -/
theorem without_of_none {paths : List String} {d : Document} (h : ∀ p ∈ paths, (removePath d p).1 = none) :
    without d paths = d := by
  induction paths with
  | nil => rfl
  | cons p rest ih =>
    obtain ⟨hfirst, hrest⟩ := List.forall_mem_cons.1 h
    have hsame : (removePath d p).2 = d := dropAt_of_removeAt_none hfirst
    rw [without_cons, hsame, ih hrest]

end Document

/-- a document without the values at the paths of a projection: none of them leads anywhere, what overlaps none of them
is as it was, and what they lead through is still there -/
structure Dropped (body d out : Document) : Prop where
  without : out = Document.without d (body.map (·.1))
  gone : ∀ f ∈ body, ∀ v, ¬out.LeadsTo (Path.segments f.1) v
  beside : ∀ segments, (∀ f ∈ body, ¬Path.segments f.1 <+: segments ∧ ¬segments <+: Path.segments f.1) →
    ∀ v, out.LeadsTo segments v ↔ d.LeadsTo segments v
  through : ∀ segments v, d.LeadsTo segments v → (∀ f ∈ body, ¬Path.segments f.1 <+: segments) →
    ∃ w, out.LeadsTo segments w ∧ (w = v ∨ v.isObj = true ∧ w.isObj = true)
  read : ∀ path, Path.Full path → (∀ f ∈ body, ¬Path.Overlap path f.1) →
    Document.resolve out path = Document.resolve d path

theorem dropped_without (body : Document) {d : Document} (hd : (Json.obj d).Ordered) :
    Dropped body d (Document.without d (body.map (·.1))) := by
  constructor
  · rfl
  · intro f hf
    exact Document.valueAt_eq_none_iff.1 (Document.removePath_without_of_mem hd (List.mem_map_of_mem hf))
  · intro segments hapart v
    rw [← Document.valueAt_eq_some_iff, ← Document.valueAt_eq_some_iff,
      Document.valueAt_without (List.forall_mem_map.2 hapart) hd]
  · intro segments v hv hapart
    simp only [← Document.valueAt_eq_some_iff] at hv ⊢
    exact Document.exists_valueAt_without (List.forall_mem_map.2 hapart) hd hv
  · intro path hfull hapart
    exact Document.resolve_without hfull (List.forall_mem_map.2 hapart) hd

/-- **Dropped paths.** A projection that drops paths gives such a document, and changes it no more. -/
theorem exists_dropped {body : Document} (hflag : ∀ f ∈ body, f.2.truthy = false) {d : Document}
    (hd : (Json.obj d).Ordered) :
    ∃ out, projectOne body d = .ok out ∧ Dropped body d out ∧ projectOne body out = .ok out := by
  have hdrops : isExclusion body = true := List.all_eq_true.2 fun f hf => by simp [hflag f hf]
  refine ⟨_, ?_, dropped_without body hd, ?_⟩
  · rw [projectOne, if_pos hdrops]
  · rw [projectOne, if_pos hdrops, Document.without_of_none]
    exact fun p hp => Document.removePath_without_of_mem hd hp

/-! ## Whole stages -/

/-- steps that all have a result, which they do not change again -/
theorem Outcome.exists_mapM_settled {α ε : Type} {f : α → Except ε α} {r : α → α → Prop} {l : List α}
    (h : ∀ x ∈ l, ∃ y, f x = .ok y ∧ r x y ∧ f y = .ok y) :
    ∃ ys, l.mapM f = .ok ys ∧ List.Forall₂ r l ys ∧ ys.mapM f = .ok ys := by
  simp only [mapM_eq_ok_iff]
  induction l with
  | nil => exact ⟨[], .nil, .nil, .nil⟩
  | cons x l ih =>
    obtain ⟨⟨y, hxy, hr, hy⟩, hrest⟩ := List.forall_mem_cons.1 h
    obtain ⟨ys, hl, hrs, hys⟩ := ih hrest
    exact ⟨y :: ys, .cons hxy hl, .cons hr hrs, .cons hy hys⟩

/-- **Projections.** One that keeps some paths, separate ones besides the identifier, leaves of each document these
paths with their first values, the identifier unless its flag forbids it, and nothing else. One whose flags all count as
false leaves each document without the paths that it names. Either gives a document for each, in order, and running it
again changes nothing. -/
theorem run_project_separate {body : Document} {documents : List Document} (hbody : body.Ordered)
    (hdocuments : ∀ d ∈ documents, (Json.obj d).Ordered) (position : Nat) (geoKey : Option String) :
    ((∃ f ∈ body, f.2.truthy = true) → Separate body →
      ∃ outs, StageKind.project.run (.obj body) position geoKey documents = .ok outs ∧
        List.Forall₂ (Kept body) documents outs ∧
        StageKind.project.run (.obj body) position geoKey outs = .ok outs) ∧
    ((∀ f ∈ body, f.2.truthy = false) →
      ∃ outs, StageKind.project.run (.obj body) position geoKey documents = .ok outs ∧
        List.Forall₂ (Dropped body) documents outs ∧
        StageKind.project.run (.obj body) position geoKey outs = .ok outs) := by
  constructor
  · intro hflag hseparate
    exact Outcome.exists_mapM_settled fun d hd => exists_kept hbody hseparate hflag (hdocuments d hd)
  · intro hflag
    exact Outcome.exists_mapM_settled fun d hd => exists_dropped hflag (hdocuments d hd)

/-- values from inside of arrays are kept without the arrays, and a path that leads nowhere leaves nothing; one of two
fields of an object is dropped -/
theorem run_project_separate_nested :
    let d : Document := [("_id", .str "1"), ("a", .arr [.obj [("b", .null)], .obj [("b", .bool true)]]),
      ("m", .obj [("x", .bool true), ("y", .null)]), ("t", .arr [.str "z"])]
    let keep : Document := [("_id", .bool false), ("a.b", .bool true), ("a.c", .bool true), ("t.0", .bool true)]
    let drop : Document := [("a.b", .null), ("m.x", .bool false)]
    let kept : Document := [("a", .obj [("b", .null)]), ("t", .obj [("0", .str "z")])]
    let dropped : Document := [("_id", .str "1"), ("a", .arr [.obj [("b", .null)], .obj [("b", .bool true)]]),
      ("m", .obj [("y", .null)]), ("t", .arr [.str "z"])]
    keep.Ordered ∧ drop.Ordered ∧ (Json.obj d).Ordered ∧ (∃ f ∈ keep, f.2.truthy = true) ∧ Separate keep ∧
      (∀ f ∈ drop, f.2.truthy = false) ∧
      (StageKind.project.run (.obj keep) 0 none [d] = .ok [kept] ∧ List.Forall₂ (Kept keep) [d] [kept] ∧
        StageKind.project.run (.obj keep) 0 none [kept] = .ok [kept]) ∧
      StageKind.project.run (.obj drop) 0 none [d] = .ok [dropped] ∧ List.Forall₂ (Dropped drop) [d] [dropped] ∧
        StageKind.project.run (.obj drop) 0 none [dropped] = .ok [dropped] := by
  intro d keep drop kept dropped
  have hkeep : keep.Ordered := by decide
  have hdrop : drop.Ordered := by decide
  have hd : (Json.obj d).Ordered := by
    simp only [d, Json.Ordered, Json.OrderedFields, Json.OrderedItems, Document.Ordered, and_true, true_and]
    decide
  have hflag : ∃ f ∈ keep, f.2.truthy = true := ⟨("a.b", .bool true), by simp [keep], rfl⟩
  have hnone : ∀ f ∈ drop, f.2.truthy = false := by decide
  have hseparate : Separate keep := by decide
  have hdocuments : ∀ e ∈ [d], (Json.obj e).Ordered := List.forall_mem_singleton.2 hd
  obtain ⟨outs, hrun, hkept, hagain⟩ := (run_project_separate hkeep hdocuments 0 none).1 hflag hseparate
  obtain ⟨outs', hrun', hdropped, hagain'⟩ := (run_project_separate hdrop hdocuments 0 none).2 hnone
  have hfirst : StageKind.project.run (.obj keep) 0 none [d] = .ok [kept] := rfl
  have hsecond : StageKind.project.run (.obj drop) 0 none [d] = .ok [dropped] := rfl
  obtain rfl := Except.ok.inj (hfirst.symm.trans hrun)
  obtain rfl := Except.ok.inj (hsecond.symm.trans hrun')
  exact ⟨hkeep, hdrop, hd, hflag, hseparate, hnone, ⟨hfirst, hkept, hagain⟩, hsecond, hdropped, hagain'⟩

end DocumentQuery
