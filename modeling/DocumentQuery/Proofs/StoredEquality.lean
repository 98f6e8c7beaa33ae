/-
EQUALITY OF STORED VALUES. What a store compares, to tell whether anything changed, is values as trees. Both zeros are
one number there, so this is coarser than equality in the logic:

- `same_self`, `same_symm`, `same_trans`: it is an equivalence;
- `sameFields_iff`: documents whose keys increase are the same if they hold the same at every key;
- `Document.Same`: documents that are the same value.
-/
import Mathlib.Data.Option.Basic
import DocumentQuery.Proofs.Fields

namespace DocumentQuery

/-! ## An equivalence -/

theorem Number.same_self (n : Number) : n.same n = true := by
  cases n <;> simp [same]

theorem Number.same_symm {m n : Number} (h : m.same n = true) : n.same m = true := by
  cases m <;> cases n <;> simp_all [same]

theorem Number.same_trans {l m n : Number} (h : l.same m = true) (h' : m.same n = true) : l.same n = true := by
  cases l <;> cases m <;> cases n <;> simp_all [same]

namespace Json

mutual

theorem same_self : ∀ v : Json, v.same v = true
  | .null => by rw [same]
  | .bool b => by simp [same]
  | .num n => by rw [same, Number.same_self]
  | .str s => by simp [same]
  | .arr items => by rw [same, sameItems_self items]
  | .obj fields => by rw [same, sameFields_self fields]

theorem sameItems_self : ∀ items : List Json, sameItems items items = true
  | [] => by rw [sameItems]
  | v :: rest => by rw [sameItems, same_self v, sameItems_self rest, Bool.and_self]

theorem sameFields_self : ∀ fields : List (String × Json), sameFields fields fields = true
  | [] => by rw [sameFields]
  | (k, v) :: rest => by simp [sameFields, same_self v, sameFields_self rest]

end

mutual

theorem same_symm : ∀ {v w : Json}, v.same w = true → w.same v = true
  | .arr a, w, h => by
    cases w with
    | arr b => exact sameItems_symm (a := a) h
    | _ => simp [same] at h
  | .obj a, w, h => by
    cases w with
    | obj b => exact sameFields_symm (a := a) h
    | _ => simp [same] at h
  | .num m, w, h => by
    cases w with
    | num n => exact Number.same_symm h
    | _ => simp [same] at h
  | .null, w, h => by cases w <;> simp_all [same]
  | .bool _, w, h => by cases w <;> simp_all [same]
  | .str _, w, h => by cases w <;> simp_all [same]

theorem sameItems_symm : ∀ {a b : List Json}, sameItems a b = true → sameItems b a = true
  | [], b, h => by cases b <;> simp_all [sameItems]
  | v :: a, b, h => by
    cases b with
    | nil => simp [sameItems] at h
    | cons w b =>
      rw [sameItems, Bool.and_eq_true] at h ⊢
      exact ⟨same_symm h.1, sameItems_symm h.2⟩

theorem sameFields_symm : ∀ {a b : List (String × Json)}, sameFields a b = true → sameFields b a = true
  | [], b, h => by cases b <;> simp_all [sameFields]
  | (j, v) :: a, b, h => by
    cases b with
    | nil => simp [sameFields] at h
    | cons f b =>
      obtain ⟨k, w⟩ := f
      simp only [sameFields, Bool.and_eq_true, beq_iff_eq] at h ⊢
      exact ⟨h.1.symm, same_symm h.2.1, sameFields_symm h.2.2⟩

end

mutual

theorem same_trans : ∀ {u v w : Json}, u.same v = true → v.same w = true → u.same w = true
  | .arr a, v, w, h, h' => by
    cases v with
    | arr b =>
      cases w with
      | arr c => exact sameItems_trans (a := a) h h'
      | _ => simp [same] at h'
    | _ => simp [same] at h
  | .obj a, v, w, h, h' => by
    cases v with
    | obj b =>
      cases w with
      | obj c => exact sameFields_trans (a := a) h h'
      | _ => simp [same] at h'
    | _ => simp [same] at h
  | .num l, v, w, h, h' => by
    cases v with
    | num m =>
      cases w with
      | num n => exact Number.same_trans (l := l) h h'
      | _ => simp [same] at h'
    | _ => simp [same] at h
  | .null, v, w, h, h' => by
    cases v with
    | null => exact h'
    | _ => simp [same] at h
  | .bool a, v, w, h, h' => by
    cases v with
    | bool b =>
      have hab : a = b := by simpa [same] using h
      rwa [hab]
    | _ => simp [same] at h
  | .str s, v, w, h, h' => by
    cases v with
    | str t =>
      have hst : s = t := by simpa [same] using h
      rwa [hst]
    | _ => simp [same] at h

theorem sameItems_trans : ∀ {a b c : List Json}, sameItems a b = true → sameItems b c = true → sameItems a c = true
  | [], b, c, h, h' => by cases b <;> simp_all [sameItems]
  | u :: a, b, c, h, h' => by
    cases b with
    | nil => simp [sameItems] at h
    | cons v b =>
      cases c with
      | nil => simp [sameItems] at h'
      | cons w c =>
        rw [sameItems, Bool.and_eq_true] at h h' ⊢
        exact ⟨same_trans h.1 h'.1, sameItems_trans h.2 h'.2⟩

theorem sameFields_trans :
    ∀ {a b c : List (String × Json)}, sameFields a b = true → sameFields b c = true → sameFields a c = true
  | [], b, c, h, h' => by cases b <;> simp_all [sameFields]
  | (i, u) :: a, b, c, h, h' => by
    cases b with
    | nil => simp [sameFields] at h
    | cons g b =>
      obtain ⟨j, v⟩ := g
      cases c with
      | nil => simp [sameFields] at h'
      | cons f c =>
        obtain ⟨k, w⟩ := f
        simp only [sameFields, Bool.and_eq_true, beq_iff_eq] at h h' ⊢
        exact ⟨h.1.trans h'.1, same_trans h.2.1 h'.2.1, sameFields_trans h.2.2 h'.2.2⟩

end

/-- both values are absent, or both are there and the same -/
def SameOption : Option Json → Option Json → Prop := Option.Rel fun v w => v.same w = true

theorem SameOption.refl (v : Option Json) : SameOption v v := by
  cases v with
  | none => exact .none
  | some v => exact .some (same_self v)

theorem SameOption.symm {v w : Option Json} (h : SameOption v w) : SameOption w v := by
  cases h with
  | none => exact .none
  | some h => exact .some (same_symm h)

theorem SameOption.exists_of_some {v : Json} {w : Option Json} (h : SameOption (some v) w) : ∃ u, w = some u := by
  cases h with
  | some _ => exact ⟨_, rfl⟩

theorem sameOption_some_iff {v w : Json} : SameOption (some v) (some w) ↔ v.same w = true :=
  ⟨fun h => by cases h; assumption, fun h => .some h⟩

theorem sameOption_of_any_iff {v : Option Json} {w : Json} :
    v.any (·.same w) = true ↔ SameOption v (some w) := by
  cases v with
  | none => exact iff_of_false (by simp) nofun
  | some v => exact sameOption_some_iff.symm

/-! ## Key by key -/

open Document

/-- documents that are the same hold the same at every key -/
theorem find?_of_sameFields : ∀ {d e : Document}, sameFields d e = true → ∀ k, SameOption (find? d k) (find? e k)
  | [], e, h, k => by
    cases e with
    | nil => exact .none
    | cons g e => simp [sameFields] at h
  | (i, v) :: d, e, h, k => by
    cases e with
    | nil => simp [sameFields] at h
    | cons g e =>
      obtain ⟨j, w⟩ := g
      simp only [sameFields, Bool.and_eq_true, beq_iff_eq] at h
      obtain ⟨rfl, hfirst, hrest⟩ := h
      simp only [find?]
      split
      · exact .some hfirst
      · exact find?_of_sameFields hrest k

/-- **Documents as maps.** Two documents whose keys increase are the same if they hold the same at every key. -/
theorem sameFields_iff {d e : Document} (hd : d.Ordered) (he : e.Ordered) :
    sameFields d e = true ↔ ∀ k, SameOption (find? d k) (find? e k) := by
  refine ⟨find?_of_sameFields, fun h => ?_⟩
  induction d generalizing e with
  | nil =>
    cases e with
    | nil => rfl
    | cons g rest =>
      have hkey := h g.1
      simp only [find?, if_true] at hkey
      cases hkey
  | cons f rest ih =>
    obtain ⟨k, v⟩ := f
    obtain ⟨hlt, hrest⟩ := List.pairwise_cons.1 hd
    cases e with
    | nil =>
      have hkey := h k
      simp only [find?, if_true] at hkey
      cases hkey
    | cons g rest' =>
      obtain ⟨k', v'⟩ := g
      obtain ⟨hlt', hrest'⟩ := List.pairwise_cons.1 he
      -- each first key is held by the other document too, so neither can be below the other
      have hk : k = k' := by
        by_contra hne
        obtain ⟨w, hw⟩ : ∃ w, find? rest' k = some w := by
          have hkey := h k
          simp only [find?, if_true, if_neg (Ne.symm hne)] at hkey
          exact hkey.exists_of_some
        obtain ⟨w', hw'⟩ : ∃ w, find? rest k' = some w := by
          have hkey := (h k').symm
          simp only [find?, if_true, if_neg hne] at hkey
          exact hkey.exists_of_some
        have hback : k' < k := hlt' _ (find?_mem hw)
        exact absurd (hlt _ (find?_mem hw')) (not_lt_of_gt hback)
      subst hk
      have hfirst : v.same v' = true := by simpa [find?, sameOption_some_iff] using h k
      have hbelow : sameFields rest rest' = true := by
        refine ih hrest hrest' fun j => ?_
        by_cases hj : k = j
        · subst hj
          rw [find?_eq_none_of_lt hlt, find?_eq_none_of_lt hlt']
          exact .none
        · simpa [find?, hj] using h j
      simp [sameFields, hfirst, hbelow]

end Json

/-- two documents are one value -/
def Document.Same (d e : Document) : Prop := (Json.obj d).same (Json.obj e) = true

namespace Document

instance (d e : Document) : Decidable (Same d e) := inferInstanceAs (Decidable (_ = true))

theorem Same.refl (d : Document) : Same d d := Json.same_self _

theorem Same.symm {d e : Document} (h : Same d e) : Same e d := Json.same_symm h

theorem Same.trans {c d e : Document} (h : Same c d) (h' : Same d e) : Same c e := Json.same_trans h h'

theorem same_iff {d e : Document} (hd : d.Ordered) (he : e.Ordered) :
    Same d e ↔ ∀ k, Json.SameOption (find? d k) (find? e k) :=
  Json.sameFields_iff hd he

end Document

end DocumentQuery
