/-
LAWS OF FIELDS. A document whose keys increase is determined by the values of its fields:

- `find?_insert` and `find?_erase` say what a field holds after another one was written or dropped;
- `insert_ordered` and `erase_ordered` say that keys go on increasing, here and at every depth;
- `ext_find?` says that two such documents with the same fields are the same list.
-/
import Mathlib.Data.String.Basic
import DocumentQuery.Json.Basic

namespace DocumentQuery.Document

/-! ## Reading fields -/

@[simp] theorem find?_nil (key : String) : find? [] key = none := rfl

@[simp] theorem find?_single (key k : String) (v : Json) : find? (single key v) k = if key = k then some v else none :=
  rfl

theorem find?_mem {d : Document} {key : String} {v : Json} (h : find? d key = some v) : (key, v) ∈ d := by
  induction d with
  | nil => simp at h
  | cons f rest ih =>
    obtain ⟨k, w⟩ := f
    simp only [find?] at h
    split at h
    · next hk =>
      cases h
      simp [hk]
    · exact List.mem_cons_of_mem _ (ih h)

/-- a field of an ordered document is what stands at its key -/
theorem find?_of_mem {d : Document} (hd : d.Ordered) {key : String} {v : Json} (h : (key, v) ∈ d) :
    find? d key = some v := by
  induction d with
  | nil => exact absurd h List.not_mem_nil
  | cons f rest ih =>
    obtain ⟨hlt, hrest⟩ := List.pairwise_cons.1 hd
    rcases List.mem_cons.1 h with rfl | h
    · simp [find?]
    · have hne : f.1 ≠ key := ne_of_lt (hlt _ h)
      rw [find?, if_neg hne, ih hrest h]

/-- a key below all others is not there -/
theorem find?_eq_none_of_lt {d : Document} {key : String} (h : ∀ f ∈ d, key < f.1) : find? d key = none := by
  cases hf : find? d key with
  | none => rfl
  | some v => exact absurd (h _ (find?_mem hf)) (String.lt_irrefl key)

theorem hasKey_eq_false_iff {d : Document} {key : String} : hasKey d key = false ↔ find? d key = none := by
  rw [hasKey, Option.isSome_eq_false_iff, Option.isNone_iff_eq_none]

/-! ## Writing and dropping fields -/

theorem find?_insert (d : Document) (key k : String) (v : Json) :
    find? (insert d key v) k = if key = k then some v else find? d k := by
  induction d with
  | nil => rfl
  | cons f rest ih =>
    obtain ⟨j, w⟩ := f
    simp only [insert]
    split
    · next hj =>
      subst hj
      simp only [find?]
      split <;> rfl
    · split
      · rfl
      · simp only [find?, ih]
        by_cases hjk : j = k
        · subst hjk
          have : key ≠ j := fun h => by simp_all
          simp [this]
        · simp [hjk]

@[simp] theorem find?_insert_self (d : Document) (key : String) (v : Json) : find? (insert d key v) key = some v := by
  simp [find?_insert]

theorem mem_insert {d : Document} {key : String} {v : Json} {f : String × Json} (h : f ∈ insert d key v) :
    f = (key, v) ∨ f ∈ d := by
  induction d with
  | nil => simpa [insert] using h
  | cons g rest ih =>
    simp only [insert] at h
    split at h
    · rcases List.mem_cons.1 h with h | h
      · exact Or.inl h
      · exact Or.inr (List.mem_cons_of_mem _ h)
    · split at h
      · exact List.mem_cons.1 h
      · rcases List.mem_cons.1 h with h | h
        · exact Or.inr (h ▸ List.mem_cons_self)
        · exact (ih h).imp_right (List.mem_cons_of_mem _)

/-- what holds of every field of a list holds of every field of the document made of it -/
theorem forall_mem_ofList {P : String × Json → Prop} {fields : List (String × Json)} (h : ∀ f ∈ fields, P f) :
    ∀ f ∈ ofList fields, P f := by
  have main : ∀ d : Document, (∀ f ∈ d, P f) → ∀ f ∈ fields.foldl (fun d f => insert d f.1 f.2) d, P f := by
    induction fields with
    | nil => exact fun d hd => hd
    | cons f rest ih =>
      intro d hd
      refine ih (fun g hg => h g (List.mem_cons_of_mem _ hg)) _ fun g hg => ?_
      rcases mem_insert hg with rfl | hg
      · exact h f List.mem_cons_self
      · exact hd g hg
  exact main [] (by simp)

theorem mem_erase {d : Document} {key : String} {f : String × Json} (h : f ∈ erase d key) : f ∈ d := by
  induction d with
  | nil => exact h
  | cons g rest ih =>
    simp only [erase] at h
    split at h
    · exact List.mem_cons_of_mem _ h
    · rcases List.mem_cons.1 h with h | h
      · exact h ▸ List.mem_cons_self
      · exact List.mem_cons_of_mem _ (ih h)

theorem find?_erase {d : Document} (hd : d.Ordered) (key k : String) :
    find? (erase d key) k = if key = k then none else find? d k := by
  induction d with
  | nil => simp [erase]
  | cons f rest ih =>
    obtain ⟨j, w⟩ := f
    obtain ⟨hlt, hrest⟩ := List.pairwise_cons.1 hd
    simp only [erase]
    split
    · next hj =>
      subst hj
      simp only [find?]
      split
      · next hk => exact find?_eq_none_of_lt (hk ▸ hlt)
      · rfl
    · next hj =>
      simp only [find?, ih hrest]
      by_cases hjk : j = k
      · subst hjk
        simp [Ne.symm hj]
      · simp [hjk]

/-- dropping a field that is not there changes nothing -/
theorem erase_of_find?_none {d : Document} {key : String} (h : find? d key = none) : erase d key = d := by
  induction d with
  | nil => rfl
  | cons f rest ih =>
    obtain ⟨k, v⟩ := f
    simp only [find?] at h
    split at h
    · simp at h
    · next hk => simp only [erase, if_neg hk, ih h]

/-! ## Order of keys -/

theorem ordered_insert {d : Document} (hd : d.Ordered) (key : String) (v : Json) : (insert d key v).Ordered := by
  induction d with
  | nil => exact List.pairwise_singleton _ _
  | cons f rest ih =>
    obtain ⟨k, w⟩ := f
    obtain ⟨hlt, hrest⟩ := List.pairwise_cons.1 hd
    simp only [insert]
    split
    · next hk =>
      subst hk
      exact List.pairwise_cons.2 ⟨hlt, hrest⟩
    · next hk =>
      split
      · next hkey =>
        refine List.pairwise_cons.2 ⟨fun g hg => ?_, hd⟩
        rcases List.mem_cons.1 hg with rfl | hg
        · exact hkey
        · exact String.lt_trans hkey (hlt g hg)
      · next hkey =>
        have hkk : k < key := lt_of_le_of_ne (not_lt.1 hkey) hk
        refine List.pairwise_cons.2 ⟨fun g hg => ?_, ih hrest⟩
        rcases mem_insert hg with rfl | hg
        · exact hkk
        · exact hlt g hg

theorem ordered_erase {d : Document} (hd : d.Ordered) (key : String) : (erase d key).Ordered := by
  induction d with
  | nil => exact hd
  | cons f rest ih =>
    obtain ⟨k, w⟩ := f
    obtain ⟨hlt, hrest⟩ := List.pairwise_cons.1 hd
    simp only [erase]
    split
    · exact hrest
    · exact List.pairwise_cons.2 ⟨fun g hg => hlt g (mem_erase hg), ih hrest⟩

/-- **Documents as maps.** Two documents whose keys increase and that hold the same values are equal. -/
theorem ext_find? {d e : Document} (hd : d.Ordered) (he : e.Ordered) (h : ∀ k, find? d k = find? e k) : d = e := by
  induction d generalizing e with
  | nil =>
    cases e with
    | nil => rfl
    | cons g rest =>
      have := h g.1
      simp [find?] at this
  | cons f rest ih =>
    obtain ⟨k, v⟩ := f
    obtain ⟨hlt, hrest⟩ := List.pairwise_cons.1 hd
    cases e with
    | nil =>
      have := h k
      simp [find?] at this
    | cons g rest' =>
      obtain ⟨k', v'⟩ := g
      obtain ⟨hlt', hrest'⟩ := List.pairwise_cons.1 he
      -- each first key is found in the other document, so neither can be below the other
      have hk : k = k' := by
        by_contra hne
        have h1 : (k, v) ∈ rest' := find?_mem (by have := h k; simpa [find?, Ne.symm hne] using this.symm)
        have h2 : (k', v') ∈ rest := find?_mem (by have := h k'; simpa [find?, hne] using this)
        exact absurd (hlt _ h2) (not_lt_of_gt (hlt' _ h1))
      subst hk
      have hv : v = v' := by simpa [find?] using h k
      subst hv
      congr 1
      refine ih hrest hrest' fun j => ?_
      by_cases hj : k = j
      · subst hj
        rw [find?_eq_none_of_lt hlt, find?_eq_none_of_lt hlt']
      · simpa [find?, hj] using h j

end DocumentQuery.Document

namespace DocumentQuery.Json

open Document

/-! ## Order at every depth -/

theorem orderedFields_iff {fields : Document} : OrderedFields fields ↔ ∀ f ∈ fields, f.2.Ordered := by
  induction fields with
  | nil => simp [OrderedFields]
  | cons f rest ih => simp [OrderedFields, ih]

theorem ordered_obj_iff {d : Document} : (obj d).Ordered ↔ d.Ordered ∧ ∀ f ∈ d, f.2.Ordered := by
  rw [Ordered, orderedFields_iff]

theorem ordered_obj_nil : (obj []).Ordered := ordered_obj_iff.2 ⟨List.Pairwise.nil, by simp⟩

theorem Ordered.fields {d : Document} (h : (obj d).Ordered) : d.Ordered := (ordered_obj_iff.1 h).1

theorem Ordered.find? {d : Document} (h : (obj d).Ordered) {key : String} {v : Json}
    (hv : Document.find? d key = some v) : v.Ordered :=
  (ordered_obj_iff.1 h).2 _ (find?_mem hv)

theorem Ordered.insert {d : Document} (h : (obj d).Ordered) {v : Json} (hv : v.Ordered) (key : String) :
    (obj (Document.insert d key v)).Ordered := by
  refine ordered_obj_iff.2 ⟨ordered_insert h.fields key v, fun f hf => ?_⟩
  rcases mem_insert hf with rfl | hf
  · exact hv
  · exact (ordered_obj_iff.1 h).2 f hf

theorem Ordered.erase {d : Document} (h : (obj d).Ordered) (key : String) : (obj (Document.erase d key)).Ordered :=
  ordered_obj_iff.2 ⟨ordered_erase h.fields key, fun f hf => (ordered_obj_iff.1 h).2 f (mem_erase hf)⟩

theorem ordered_arr_iff {items : List Json} : (arr items).Ordered ↔ ∀ v ∈ items, v.Ordered := by
  rw [Ordered]
  induction items with
  | nil => simp [OrderedItems]
  | cons v rest ih => simp [OrderedItems, ih]

end DocumentQuery.Json
