/-
READING PAYLOADS. How the parts of a payload are read, one by one:

- `mapM_eq_some_iff`: reading a list means reading each of its items;
- `mapM_map`: a list that was written item by item is read back, if its items are;
- `find?_of_pick?`: what is read as a field is there under one of its names;
- `optional_of_not_null`: an optional field that is there is read like any other.
-/
import Mathlib.Data.List.Forall2
import DocumentQuery.Payload.Record

namespace DocumentQuery.Payload

variable {α β : Type}

/-! ## Lists -/

theorem mapM_eq_some_iff {read : α → Option β} {l : List α} {r : List β} :
    l.mapM read = some r ↔ List.Forall₂ (fun a b => read a = some b) l r := by
  induction l generalizing r with
  | nil =>
    rw [List.mapM_nil, List.forall₂_nil_left_iff]
    exact ⟨fun h => (Option.some.inj h).symm, fun h => congrArg some h.symm⟩
  | cons x l ih =>
    rw [List.mapM_cons, List.forall₂_cons_left_iff]
    constructor
    · intro h
      obtain ⟨b, hb, h⟩ := Option.bind_eq_some_iff.1 h
      obtain ⟨bs, hbs, h⟩ := Option.bind_eq_some_iff.1 h
      exact ⟨b, bs, hb, ih.1 hbs, (Option.some.inj h).symm⟩
    · rintro ⟨b, bs, hb, hbs, rfl⟩
      rw [hb, ih.2 hbs]
      rfl

/-- items that are read alike one by one are read alike -/
theorem mapM_congr {read read' : α → Option β} {l : List α} (h : ∀ a ∈ l, read a = read' a) :
    l.mapM read = l.mapM read' := by
  induction l with
  | nil => rfl
  | cons a rest ih =>
    obtain ⟨ha, hrest⟩ := List.forall_mem_cons.1 h
    rw [List.mapM_cons, List.mapM_cons, ha, ih hrest]

/-- so are items that were changed, each in a way of its own, if no change makes a difference to a reader -/
theorem mapM_mapIdx {read : α → Option β} {l : List α} (change : Nat → α → α)
    (h : ∀ i, ∀ a ∈ l, read (change i a) = read a) : (l.mapIdx change).mapM read = l.mapM read := by
  induction l generalizing change with
  | nil => rfl
  | cons a rest ih =>
    rw [List.mapIdx_cons, List.mapM_cons, List.mapM_cons, h 0 a List.mem_cons_self,
      ih _ fun i b hb => h (i + 1) b (List.mem_cons_of_mem _ hb)]

/-- every item of what is read comes from an item of the list -/
theorem mem_of_mapM {read : α → Option β} {l : List α} {r : List β} (h : l.mapM read = some r) {b : β} (hb : b ∈ r) :
    ∃ a ∈ l, read a = some b := by
  induction mapM_eq_some_iff.1 h with
  | nil => cases hb
  | cons hread hrest ih =>
    rcases List.mem_cons.1 hb with rfl | hb
    · exact ⟨_, List.mem_cons_self, hread⟩
    · obtain ⟨a, ha, hab⟩ := ih (mapM_eq_some_iff.2 hrest) hb
      exact ⟨a, List.mem_cons_of_mem _ ha, hab⟩

/-- a list that was written item by item is read back, if its items are -/
theorem mapM_map {read : β → Option α} {write : α → β} {l : List α} (h : ∀ a ∈ l, read (write a) = some a) :
    (l.map write).mapM read = some l := by
  refine mapM_eq_some_iff.2 ?_
  rw [List.forall₂_map_left_iff]
  exact List.forall₂_same.2 h

theorem list?_eq_some_iff {read : Json → Option α} {v : Json} {l : List α} :
    list? read v = some l ↔ ∃ items, v = .arr items ∧ items.mapM read = some l := by
  cases v <;> simp [list?]

/-! ## Declared fields -/

theorem find?_of_pick? {fields : Document} {names : List String} {v : Json} (h : pick? fields names = some (some v)) :
    ∃ name ∈ names, Document.find? fields name = some v := by
  unfold pick? at h
  split at h
  · cases h
  · next u hu =>
    cases h
    exact List.mem_filterMap.1 (hu ▸ List.mem_singleton_self v)
  · cases h

theorem pick?_single (fields : Document) (name : String) : pick? fields [name] = some (Document.find? fields name) := by
  unfold pick?
  cases h : Document.find? fields name <;> simp [h]

/-- an object without the second name of a field -/
theorem pick?_pair {fields : Document} {name other : String} (hnone : Document.find? fields other = none) :
    pick? fields [name, other] = some (Document.find? fields name) := by
  unfold pick?
  cases h : Document.find? fields name <;> simp [h, hnone]

theorem required_eq_some_iff {read : Json → Option α} {field : Option Json} {a : α} :
    required read field = some a ↔ ∃ v, field = some v ∧ read v = some a := by
  cases field <;> simp [required]

/-! ## Optional fields -/

theorem optional_some (read : Json → Option α) (v : Json) :
    optional read (some v) = if v.isNull then some none else (read v).map some := by
  cases v <;> rfl

theorem optional_of_not_null {read : Json → Option α} {v : Json} (h : v.isNull = false) :
    optional read (some v) = (read v).map some := by
  rw [optional_some, h, if_neg Bool.false_ne_true]

theorem optional_eq_some_iff {read : Json → Option α} {field : Option Json} {a : α} :
    optional read field = some (some a) ↔ ∃ v, field = some v ∧ v.isNull = false ∧ read v = some a := by
  cases field with
  | none => simp [optional]
  | some v => cases v <;> simp [optional, Json.isNull]

/-- an optional value that is not written as null is read back -/
theorem optional_ofOption {read : Json → Option α} {write : α → Json} {o : Option α}
    (h : ∀ a, o = some a → (write a).isNull = false ∧ read (write a) = some a) :
    optional read (some (Json.ofOption write o)) = some o := by
  cases o with
  | none => rfl
  | some a =>
    obtain ⟨hnull, hread⟩ := h a rfl
    rw [Json.ofOption, optional_of_not_null hnull, hread]
    rfl

end DocumentQuery.Payload
