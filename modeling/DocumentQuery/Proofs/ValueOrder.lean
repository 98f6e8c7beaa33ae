/-
LAWS OF THE ORDER OF VALUES. Equality under it:

- `compare_self`: a value equals itself;
- `nodes_of_compare`: equal values have the same number of parts;
- `compare_extended`: what has fewer parts than an object does not tell it from a longer one that begins with it.

The order as a whole:

- `chained`: two steps that do not go down, and the comparison of their ends;
- `compare_swap`: comparing the other way round gives the opposite.
-/
import DocumentQuery.Json.Order

namespace DocumentQuery

namespace Json

mutual

/-- number of values in a tree, the tree itself among them; unlike the size of the tree it is the same for equal values,
as one number can be written in several kinds -/
def nodes : Json → Nat
  | .arr items => nodesOfItems items + 1
  | .obj fields => nodesOfFields fields + 1
  | _ => 1

def nodesOfItems : List Json → Nat
  | [] => 0
  | v :: rest => v.nodes + nodesOfItems rest

def nodesOfFields : List (String × Json) → Nat
  | [] => 0
  | (_, v) :: rest => v.nodes + nodesOfFields rest

end

@[simp] theorem nodesOfFields_append (a b : List (String × Json)) :
    nodesOfFields (a ++ b) = nodesOfFields a + nodesOfFields b := by
  induction a with
  | nil => simp [nodesOfFields]
  | cons f rest ih =>
    simp only [List.cons_append, nodesOfFields, ih]
    omega

theorem nodes_le_of_mem {v : Json} {items : List Json} (h : v ∈ items) : v.nodes ≤ nodesOfItems items := by
  induction items with
  | nil => simp at h
  | cons w rest ih =>
    rw [nodesOfItems]
    rcases List.mem_cons.1 h with rfl | h
    · omega
    · have := ih h
      omega

mutual

theorem compare_self : ∀ v : Json, v.compare v = .eq
  | .null => by simp [compare, rank]
  | .bool b => by simp [compare]
  | .num n => by simp [compare, Number.compare]
  | .str s => by simp [compare]
  | .arr items => by rw [compare, compareItems_self items]
  | .obj fields => by rw [compare, compareFields_self fields]

theorem compareItems_self : ∀ items : List Json, compareItems items items = .eq
  | [] => by rw [compareItems]
  | v :: rest => by rw [compareItems, compare_self v, compareItems_self rest]; rfl

theorem compareFields_self : ∀ fields : List (String × Json), compareFields fields fields = .eq
  | [] => by rw [compareFields]
  | (k, v) :: rest => by
    rw [compareFields, compare_self v, compareFields_self rest, Std.ReflOrd.compare_self]; rfl

end

mutual

/-- equal values have the same number of parts -/
theorem nodes_of_compare : ∀ a b : Json, a.compare b = .eq → a.nodes = b.nodes
  | .arr as, b, h => by
    cases b with
    | arr bs => rw [nodes, nodes, nodesOfItems_of_compare as bs (by simpa [compare] using h)]
    | _ => simp [compare, rank] at h
  | .obj as, b, h => by
    cases b with
    | obj bs => rw [nodes, nodes, nodesOfFields_of_compare as bs (by simpa [compare] using h)]
    | _ => simp [compare, rank] at h
  | .null, b, h => by cases b <;> simp_all [compare, rank, nodes]
  | .bool _, b, h => by cases b <;> simp_all [compare, rank, nodes]
  | .num _, b, h => by cases b <;> simp_all [compare, rank, nodes]
  | .str _, b, h => by cases b <;> simp_all [compare, rank, nodes]

theorem nodesOfItems_of_compare :
    ∀ as bs : List Json, compareItems as bs = .eq → nodesOfItems as = nodesOfItems bs
  | [], [], _ => rfl
  | [], _ :: _, h => by simp [compareItems] at h
  | _ :: _, [], h => by simp [compareItems] at h
  | a :: as, b :: bs, h => by
    obtain ⟨hfirst, hrest⟩ := Ordering.then_eq_eq.1 h
    rw [nodesOfItems, nodesOfItems, nodes_of_compare a b hfirst, nodesOfItems_of_compare as bs hrest]

theorem nodesOfFields_of_compare :
    ∀ as bs : List (String × Json), compareFields as bs = .eq → nodesOfFields as = nodesOfFields bs
  | [], [], _ => rfl
  | [], _ :: _, h => by simp [compareFields] at h
  | _ :: _, [], h => by simp [compareFields] at h
  | (_, a) :: as, (_, b) :: bs, h => by
    obtain ⟨-, h⟩ := Ordering.then_eq_eq.1 h
    obtain ⟨hfirst, hrest⟩ := Ordering.then_eq_eq.1 h
    rw [nodesOfFields, nodesOfFields, nodes_of_compare a b hfirst, nodesOfFields_of_compare as bs hrest]

end

/-- more fields behind do not change how an object compares with what has fewer parts than it -/
theorem compareFields_append (extra : List (String × Json)) :
    ∀ fields others : List (String × Json), nodesOfFields others < nodesOfFields fields →
      compareFields (fields ++ extra) others = compareFields fields others
  | [], _, h => by simp [nodesOfFields] at h
  | _ :: _, [], _ => rfl
  | (j, a) :: as, (k, b) :: bs, h => by
    -- only equal first values let the rest decide, and then the rest has fewer parts as well
    have hrest : a.compare b = .eq → compareFields (as ++ extra) bs = compareFields as bs := by
      intro hab
      refine compareFields_append extra as bs ?_
      rw [nodesOfFields, nodesOfFields, nodes_of_compare a b hab] at h
      omega
    rw [List.cons_append, compareFields, compareFields]
    cases hab : a.compare b with
    | eq => rw [hrest hab]
    | lt => rfl
    | gt => rfl

theorem compare_extended (fields extra : List (String × Json)) {v : Json} (h : v.nodes < (obj fields).nodes) :
    (obj (fields ++ extra)).compare v = (obj fields).compare v := by
  cases v with
  | obj others =>
    rw [nodes, nodes] at h
    rw [compare, compare, compareFields_append extra fields others (by omega)]
  | _ => rfl

end Json

/-! ## Chains -/

/-- two comparisons and that of their ends: if neither of the two goes down, the third is the first that is not equal -/
def Chained (o p q : Ordering) : Prop := o.isLE → p.isLE → q = o.then p

/-- keys of falling weight: the second ones count where the first ones are equal -/
theorem Chained.then {o p q o' p' q' : Ordering} (h : Chained o p q)
    (h' : o = .eq → p = .eq → Chained o' p' q') : Chained (o.then o') (p.then p') (q.then q') := by
  intro hle hle'
  cases o with
  | lt =>
    have hp : p.isLE := by cases p <;> simp_all
    rw [h rfl hp]
    rfl
  | eq =>
    cases p with
    | lt =>
      rw [h rfl rfl]
      cases o' with
      | gt => cases hle
      | _ => rfl
    | eq =>
      rw [h rfl rfl]
      exact h' rfl rfl hle hle'
    | gt => cases hle'
  | gt => cases hle

theorem chained_compare {α : Type} [Ord α] [Std.TransOrd α] (a b c : α) :
    Chained (compare a b) (compare b c) (compare a c) := by
  intro hab hbc
  cases h : compare a b with
  | lt => exact Std.TransCmp.lt_of_lt_of_isLE h hbc
  | eq => exact Std.TransCmp.congr_left h
  | gt =>
    rw [h] at hab
    cases hab

namespace Json

/-- the kinds come first, and values of different kinds compare as these -/
theorem compare_eq_then (a b : Json) : a.compare b = (Ord.compare a.rank b.rank).then (a.compare b) := by
  cases a <;> cases b <;> rfl

theorem chained_of_rank {a b c : Json}
    (h : a.rank = b.rank → b.rank = c.rank → Chained (a.compare b) (b.compare c) (a.compare c)) :
    Chained (a.compare b) (b.compare c) (a.compare c) := by
  rw [compare_eq_then a b, compare_eq_then b c, compare_eq_then a c]
  refine (chained_compare a.rank b.rank c.rank).then ?_
  intro hab hbc
  exact h (Std.LawfulEqOrd.eq_of_compare hab) (Std.LawfulEqOrd.eq_of_compare hbc)

mutual

theorem chained : ∀ a b c : Json, Chained (a.compare b) (b.compare c) (a.compare c)
  | .arr as, b, c => chained_of_rank fun hab hbc => by
    cases b <;> cases hab
    cases c <;> cases hbc
    exact chained_items as _ _
  | .obj as, b, c => chained_of_rank fun hab hbc => by
    cases b <;> cases hab
    cases c <;> cases hbc
    exact chained_fields as _ _
  | .null, b, c => chained_of_rank fun hab hbc => by
    cases b <;> cases hab
    cases c <;> cases hbc
    exact chained_compare 0 0 0
  | .bool a, b, c => chained_of_rank fun hab hbc => by
    cases b <;> cases hab
    cases c <;> cases hbc
    exact chained_compare a _ _
  | .num a, b, c => chained_of_rank fun hab hbc => by
    cases b <;> cases hab
    cases c <;> cases hbc
    exact chained_compare (floatPlace a.toFloat) _ _
  | .str a, b, c => chained_of_rank fun hab hbc => by
    cases b <;> cases hab
    cases c <;> cases hbc
    exact chained_compare a _ _

theorem chained_items :
    ∀ as bs cs : List Json, Chained (compareItems as bs) (compareItems bs cs) (compareItems as cs)
  | [], [], _ => fun _ _ => rfl
  | [], _ :: _, [] => nofun
  | [], _ :: _, _ :: _ => fun _ _ => rfl
  | _ :: _, [], _ => nofun
  | _ :: _, _ :: _, [] => nofun
  | a :: as, b :: bs, c :: cs => (chained a b c).then fun _ _ => chained_items as bs cs

theorem chained_fields :
    ∀ as bs cs : List (String × Json), Chained (compareFields as bs) (compareFields bs cs) (compareFields as cs)
  | [], [], _ => fun _ _ => rfl
  | [], _ :: _, [] => nofun
  | [], _ :: _, _ :: _ => fun _ _ => rfl
  | _ :: _, [], _ => nofun
  | _ :: _, _ :: _, [] => nofun
  | (i, a) :: as, (j, b) :: bs, (k, c) :: cs =>
    (chained_compare i j k).then fun _ _ => (chained a b c).then fun _ _ => chained_fields as bs cs

end

mutual

theorem compare_swap : ∀ a b : Json, a.compare b = (b.compare a).swap
  | .arr as, b => by
    cases b with
    | arr bs => simpa only [compare] using compareItems_swap as bs
    | _ => rfl
  | .obj as, b => by
    cases b with
    | obj bs => simpa only [compare] using compareFields_swap as bs
    | _ => rfl
  | .null, b => by cases b <;> rfl
  | .bool a, b => by
    cases b with
    | bool b => exact Std.OrientedOrd.eq_swap
    | _ => rfl
  | .num a, b => by
    cases b with
    | num b => exact Std.OrientedOrd.eq_swap
    | _ => rfl
  | .str a, b => by
    cases b with
    | str b => exact Std.OrientedOrd.eq_swap
    | _ => rfl

theorem compareItems_swap : ∀ as bs : List Json, compareItems as bs = (compareItems bs as).swap
  | [], [] => rfl
  | [], _ :: _ => rfl
  | _ :: _, [] => rfl
  | a :: as, b :: bs => by
    rw [compareItems, compareItems, Ordering.swap_then, ← compare_swap a b, ← compareItems_swap as bs]

theorem compareFields_swap : ∀ as bs : List (String × Json), compareFields as bs = (compareFields bs as).swap
  | [], [] => rfl
  | [], _ :: _ => rfl
  | _ :: _, [] => rfl
  | (j, a) :: as, (k, b) :: bs => by
    rw [compareFields, compareFields, Ordering.swap_then, Ordering.swap_then, ← compare_swap a b,
      ← compareFields_swap as bs, ← Std.OrientedOrd.eq_swap]

end

/-- **Order of values.** It goes both ways alike and is transitive; values may be equal under it and differ. -/
instance : Std.TransCmp Json.compare where
  eq_swap := compare_swap _ _
  isLE_trans {a b c} hab hbc := by
    rw [chained a b c hab hbc, Ordering.isLE_then_iff_and]
    exact ⟨hab, Or.inr hbc⟩

end Json

end DocumentQuery
