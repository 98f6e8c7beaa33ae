/-
KINDS OF VALUES. There are six kinds of JSON values, and they have an order among themselves. The order of values goes
by the kinds first, so that values of two kinds are never equal and all values of one kind stand together:

- `Json.Kind`, `Json.kind`: the kinds, from the lowest to the highest;
- `kind_of_compare`, `compare_of_kind_lt`: the order within a kind and between two;
- `compare_totalPreorder`: the laws of the order of values.
-/
import DocumentQuery.Proofs.ValueOrder

namespace DocumentQuery.Json

inductive Kind where
  | null
  | number
  | text
  | object
  | array
  | boolean
  deriving DecidableEq, Repr

/-- all kinds, the lowest first -/
def Kind.ascending : List Kind := [null, number, text, object, array, boolean]

/-- place of a kind among all -/
def Kind.place (k : Kind) : Nat := ascending.idxOf k

def kind : Json → Kind
  | .null => .null
  | .num _ => .number
  | .str _ => .text
  | .obj _ => .object
  | .arr _ => .array
  | .bool _ => .boolean

/-! ## Ranks are places of kinds -/

theorem rank_eq_place (v : Json) : v.rank = v.kind.place := by
  cases v <;> rfl

theorem Kind.place_injective {k l : Kind} (h : k.place = l.place) : k = l := by
  cases k <;> cases l <;> first | rfl | cases h

theorem rank_eq_iff {a b : Json} : a.rank = b.rank ↔ a.kind = b.kind := by
  rw [rank_eq_place, rank_eq_place]
  exact ⟨Kind.place_injective, congrArg Kind.place⟩

/-! ## Within a kind and between two -/

/-- equal values are of one kind -/
theorem kind_of_compare {a b : Json} (h : a.compare b = .eq) : a.kind = b.kind := by
  rw [compare_eq_then, Ordering.then_eq_eq] at h
  exact rank_eq_iff.1 (Std.LawfulEqOrd.eq_of_compare h.1)

/-- every value of a kind stands below every value of a higher one -/
theorem compare_of_kind_lt {a b : Json} (h : a.kind.place < b.kind.place) : a.compare b = .lt := by
  rw [← rank_eq_place, ← rank_eq_place] at h
  rw [compare_eq_then, Nat.compare_eq_lt.2 h]
  rfl

/-- in a chain of two steps that do not go down, one that goes up takes the ends apart -/
theorem compare_lt_of_chain {a b c : Json} (hab : (a.compare b).isLE) (hbc : (b.compare c).isLE)
    (h : a.compare b = .lt ∨ b.compare c = .lt) : a.compare c = .lt := by
  rcases h with h | h
  · exact Std.TransCmp.lt_of_lt_of_isLE h hbc
  · exact Std.TransCmp.lt_of_isLE_of_lt hab h

theorem equivalence_compare : Equivalence fun a b : Json => a.compare b = .eq where
  refl := compare_self
  symm := by
    intro a b h
    rw [compare_swap b a, h]
    rfl
  trans := by
    intro a b c hab hbc
    exact Std.TransCmp.eq_trans hab hbc

/-- **The order of values.** Comparing the other way round gives the opposite. Two comparisons of which neither goes
down give a third that does not, and that is strict if one of the two is. Values that compare as equal are in an
equivalence, and each is of one kind with those that it equals. Values of different kinds stand as their kinds do:
null, numbers, texts, objects, arrays, booleans. -/
theorem compare_totalPreorder :
    (∀ a b : Json, b.compare a = (a.compare b).swap) ∧
    (∀ a b c : Json, (a.compare b).isLE → (b.compare c).isLE →
      (a.compare c).isLE ∧ (a.compare b = .lt ∨ b.compare c = .lt → a.compare c = .lt)) ∧
    (Equivalence fun a b : Json => a.compare b = .eq) ∧
    (∀ a b : Json, a.compare b = .eq → a.kind = b.kind) ∧
    ∀ a b : Json, a.kind.place < b.kind.place → a.compare b = .lt := by
  refine ⟨fun a b => compare_swap b a, ?_, equivalence_compare, fun a b => kind_of_compare,
    fun a b => compare_of_kind_lt⟩
  intro a b c hab hbc
  exact ⟨Std.TransCmp.isLE_trans hab hbc, compare_lt_of_chain hab hbc⟩

/-- two arrays with one number in two forms are equal, and stand below a third one by the kind of its last item; all of
them stand below a boolean -/
theorem compare_totalPreorder_nested :
    let a : Json := .arr [.null, .num (.int 1)]
    let b : Json := .arr [.null, .num (.float (nearestInt 1))]
    let c : Json := .arr [.null, .str ""]
    a.compare b = .eq ∧ b.compare a = .eq ∧ b.compare c = .lt ∧ a.compare c = .lt ∧ c.compare (.bool false) = .lt := by
  intro a b c
  obtain ⟨hswap, hchain, hequal, -, hkinds⟩ := compare_totalPreorder
  have hab : a.compare b = .eq := by
    simp [a, b, compare, compareItems, rank, Number.compare, Number.toFloat]
  have hbc : b.compare c = .lt := rfl
  have hab' : (a.compare b).isLE := by rw [hab]; rfl
  have hbc' : (b.compare c).isLE := by rw [hbc]; rfl
  exact ⟨hab, hequal.symm hab, hbc, (hchain a b c hab' hbc').2 (Or.inr hbc), hkinds c (.bool false) (by decide)⟩

end DocumentQuery.Json
