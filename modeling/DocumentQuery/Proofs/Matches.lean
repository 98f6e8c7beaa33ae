/-
MATCHES OF PATTERNS. What a pattern matches is a relation between places of a text, said by the form of the pattern. The
search follows all matches at once with sets of places, and finds a pattern exactly if there is a match:

- `Steps`, `Steps.exists_le`: repetitions, and how many of them are enough;
- `Realizes`: a function on sets of places goes where a relation leads;
- `realizes_repeated`, `realizes_spread`: so do its repetitions;
- `Pattern.Matches`, `Pattern.realizes_track`: a pattern laid over a text;
- `Pattern.occursIn_iff`: the whole search.
-/
import Mathlib.Data.Nat.Bitwise
import Mathlib.Logic.Function.Iterate
import DocumentQuery.Pattern.Occurrence

namespace DocumentQuery

/-! ## Repetitions -/

/-- so many steps of a relation in a row -/
def Steps (r : Nat → Nat → Prop) : Nat → Nat → Nat → Prop
  | 0, i, j => i = j
  | n + 1, i, j => ∃ m, r i m ∧ Steps r n m j

/-- steps do not go back, and stay within a bound -/
def Forward (bound : Nat) (r : Nat → Nat → Prop) : Prop := ∀ i j, i ≤ bound → r i j → i ≤ j ∧ j ≤ bound

theorem Steps.add {r : Nat → Nat → Prop} {m n i k j : Nat} (h : Steps r m i k) (h' : Steps r n k j) :
    Steps r (m + n) i j := by
  induction m generalizing i with
  | zero =>
    obtain rfl : i = k := h
    rwa [Nat.zero_add]
  | succ m ih =>
    obtain ⟨l, hl, h⟩ := h
    rw [Nat.add_right_comm]
    exact ⟨l, hl, ih h⟩

theorem Steps.split {r : Nat → Nat → Prop} {m n i j : Nat} (h : Steps r (m + n) i j) :
    ∃ k, Steps r m i k ∧ Steps r n k j := by
  induction m generalizing i with
  | zero => exact ⟨i, rfl, by rwa [Nat.zero_add] at h⟩
  | succ m ih =>
    rw [Nat.add_right_comm] at h
    obtain ⟨l, hl, h⟩ := h
    obtain ⟨k, hk, h⟩ := ih h
    exact ⟨k, ⟨l, hl, hk⟩, h⟩

theorem forward_steps {bound : Nat} {r : Nat → Nat → Prop} (h : Forward bound r) (n : Nat) :
    Forward bound (Steps r n) := by
  induction n with
  | zero =>
    intro i j hi hij
    obtain rfl : i = j := hij
    exact ⟨Nat.le_refl i, hi⟩
  | succ n ih =>
    rintro i j hi ⟨m, him, hmj⟩
    obtain ⟨hle, hm⟩ := h i m hi him
    obtain ⟨hle', hj⟩ := ih m j hm hmj
    exact ⟨Nat.le_trans hle hle', hj⟩

/-- steps that stay where they are can be left out, so that no more are needed than there are places between the ends -/
theorem Steps.exists_le {bound : Nat} {r : Nat → Nat → Prop} (hr : Forward bound r) {n i j : Nat} (hi : i ≤ bound)
    (h : Steps r n i j) : ∃ m, m ≤ j - i ∧ Steps r m i j := by
  induction n generalizing i with
  | zero => exact ⟨0, Nat.zero_le _, h⟩
  | succ n ih =>
    obtain ⟨k, hik, hkj⟩ := h
    obtain ⟨hle, hk⟩ := hr i k hi hik
    obtain ⟨m, hm, hsteps⟩ := ih hk hkj
    obtain ⟨hle', -⟩ := forward_steps hr n k j hk hkj
    by_cases hsame : i = k
    · subst hsame
      exact ⟨m, hm, hsteps⟩
    · exact ⟨m + 1, by omega, k, hik, hsteps⟩

/-! ## Sets of places -/

/-- no place of a set is above the bound -/
def Within (bound s : Nat) : Prop := ∀ i, s.testBit i = true → i ≤ bound

/-- a function on sets of places goes from each place where the relation leads, and nowhere else -/
def Realizes (bound : Nat) (f : Nat → Nat) (r : Nat → Nat → Prop) : Prop :=
  ∀ s, Within bound s → ∀ j, (f s).testBit j = true ↔ ∃ i, s.testBit i = true ∧ r i j

section

variable {bound : Nat} {f g : Nat → Nat} {r q : Nat → Nat → Prop}

theorem Realizes.within (h : Realizes bound f r) (hr : Forward bound r) {s : Nat} (hs : Within bound s) :
    Within bound (f s) := by
  intro j hj
  obtain ⟨i, hi, hij⟩ := (h s hs j).1 hj
  exact (hr i j (hs i hi) hij).2

theorem Realizes.congr (h : Realizes bound f r) (hsame : ∀ i j, i ≤ bound → (r i j ↔ q i j)) :
    Realizes bound f q := by
  intro s hs j
  rw [h s hs j]
  exact exists_congr fun i => and_congr_right fun hi => hsame i j (hs i hi)

theorem realizes_id : Realizes bound id fun i j => i = j := by
  intro s _ j
  simp

theorem Realizes.comp (hf : Realizes bound f r) (hr : Forward bound r) (hg : Realizes bound g q) :
    Realizes bound (g ∘ f) fun i j => ∃ m, r i m ∧ q m j := by
  intro s hs j
  rw [Function.comp_apply, hg _ (hf.within hr hs) j]
  constructor
  · rintro ⟨m, hm, hmj⟩
    obtain ⟨i, hi, him⟩ := (hf s hs m).1 hm
    exact ⟨i, hi, m, him, hmj⟩
  · rintro ⟨i, hi, m, him, hmj⟩
    exact ⟨m, (hf s hs m).2 ⟨i, hi, him⟩, hmj⟩

theorem Realizes.or (hf : Realizes bound f r) (hg : Realizes bound g q) :
    Realizes bound (fun s => f s ||| g s) fun i j => r i j ∨ q i j := by
  intro s hs j
  rw [Nat.testBit_or, Bool.or_eq_true, hf s hs j, hg s hs j]
  constructor
  · rintro (⟨i, hi, hij⟩ | ⟨i, hi, hij⟩)
    · exact ⟨i, hi, Or.inl hij⟩
    · exact ⟨i, hi, Or.inr hij⟩
  · rintro ⟨i, hi, hij | hij⟩
    · exact Or.inl ⟨i, hi, hij⟩
    · exact Or.inr ⟨i, hi, hij⟩

/-- to stop at a fixed point is to go on -/
theorem repeated_eq_iterate (f : Nat → Nat) (n s : Nat) : repeated f n s = f^[n] s := by
  induction n generalizing s with
  | zero => rfl
  | succ n ih =>
    rw [repeated]
    split
    · next h => exact (Function.iterate_fixed h (n + 1)).symm
    · rw [ih, Function.iterate_succ_apply]

theorem realizes_repeated (h : Realizes bound f r) (hr : Forward bound r) (n : Nat) :
    Realizes bound (repeated f n) (Steps r n) := by
  induction n with
  | zero => exact realizes_id
  | succ n ih =>
    have hcomp := h.comp hr ih
    intro s hs j
    have hone : repeated f (n + 1) s = (repeated f n ∘ f) s := by
      rw [Function.comp_apply, repeated_eq_iterate, repeated_eq_iterate, Function.iterate_succ_apply]
    rw [hone]
    exact hcomp s hs j

/-- where nothing is added, no further step leads out -/
theorem testBit_of_steps (h : Realizes bound f r) {s : Nat} (hs : Within bound s) (hfixed : s ||| f s = s) {n i j : Nat}
    (hi : s.testBit i = true) (hij : Steps r n i j) : s.testBit j = true := by
  induction n generalizing i with
  | zero =>
    obtain rfl : i = j := hij
    exact hi
  | succ n ih =>
    obtain ⟨m, him, hmj⟩ := hij
    refine ih ?_ hmj
    rw [← hfixed, Nat.testBit_or, (h s hs m).2 ⟨i, hi, him⟩, Bool.or_true]

theorem realizes_spread (h : Realizes bound f r) (hr : Forward bound r) (n : Nat) :
    Realizes bound (spread f n) fun i j => ∃ m, m ≤ n ∧ Steps r m i j := by
  induction n with
  | zero =>
    intro s hs j
    rw [spread]
    constructor
    · exact fun hj => ⟨j, hj, 0, Nat.le_refl 0, rfl⟩
    · rintro ⟨i, hi, m, hm, hij⟩
      obtain rfl : m = 0 := Nat.le_zero.1 hm
      obtain rfl : i = j := hij
      exact hi
  | succ n ih =>
    intro s hs j
    have hnext : Within bound (s ||| f s) := by
      intro i hi
      rw [Nat.testBit_or, Bool.or_eq_true] at hi
      exact hi.elim (hs i) (h.within hr hs i)
    have hgrown (i : Nat) : (s ||| f s).testBit i = true ↔ s.testBit i = true ∨ ∃ k, s.testBit k = true ∧ r k i := by
      rw [Nat.testBit_or, Bool.or_eq_true, h s hs i]
    rw [spread]
    dsimp only
    split
    · next hfixed =>
      constructor
      · exact fun hj => ⟨j, hj, 0, Nat.zero_le _, rfl⟩
      · rintro ⟨i, hi, m, -, hij⟩
        exact testBit_of_steps h hs hfixed hi hij
    · rw [ih _ hnext j]
      constructor
      · rintro ⟨i, hi, m, hm, hij⟩
        rcases (hgrown i).1 hi with hi | ⟨k, hk, hki⟩
        · exact ⟨i, hi, m, Nat.le_succ_of_le hm, hij⟩
        · exact ⟨k, hk, m + 1, Nat.succ_le_succ hm, i, hki, hij⟩
      · rintro ⟨i, hi, m, hm, hij⟩
        cases m with
        | zero => exact ⟨i, (hgrown i).2 (Or.inl hi), 0, Nat.zero_le n, hij⟩
        | succ m =>
          obtain ⟨k, hik, hkj⟩ := hij
          exact ⟨k, (hgrown k).2 (Or.inr ⟨i, hi, hik⟩), m, Nat.le_of_succ_le_succ hm, hkj⟩

end

/-! ## Patterns -/

/-- the character in front of a place, in front of the text the given one -/
def charBefore (first : Option Char) (text : List Char) : Nat → Option Char
  | 0 => first
  | i + 1 => text[i]?

/-- matches of a pattern, from a place of a text to another one -/
def Pattern.Matches (text : List Char) : Pattern → Nat → Nat → Prop
  | empty, i, j => i = j
  | set s, i, j => (∃ c, text[i]? = some c ∧ s.contains c = true) ∧ j = i + 1
  | look a, i, j => a.holds (charBefore none text i) text[i]? = true ∧ i = j
  | seq p q, i, j => ∃ m, p.Matches text i m ∧ q.Matches text m j
  | alt p q, i, j => p.Matches text i j ∨ q.Matches text i j
  | many least most _ p, i, j =>
    ∃ n, least ≤ n ∧ (∀ m, most = some m → n ≤ max least m) ∧ Steps (p.Matches text) n i j
  | group _ p, i, j => p.Matches text i j

section

variable (text : List Char)

/-- a match does not go back, and ends in the text if it begins there -/
theorem Pattern.forward_matches (p : Pattern) : Forward text.length (p.Matches text) := by
  induction p with
  | empty =>
    intro i j hi hij
    obtain rfl : i = j := hij
    exact ⟨Nat.le_refl i, hi⟩
  | set s =>
    rintro i j hi ⟨⟨c, hc, -⟩, rfl⟩
    obtain ⟨hlt, -⟩ := List.getElem?_eq_some_iff.1 hc
    exact ⟨Nat.le_succ i, hlt⟩
  | look a =>
    rintro i j hi ⟨-, rfl⟩
    exact ⟨Nat.le_refl i, hi⟩
  | seq p q ihp ihq =>
    rintro i j hi ⟨m, him, hmj⟩
    obtain ⟨hle, hm⟩ := ihp i m hi him
    obtain ⟨hle', hj⟩ := ihq m j hm hmj
    exact ⟨Nat.le_trans hle hle', hj⟩
  | alt p q ihp ihq =>
    rintro i j hi (hij | hij)
    · exact ihp i j hi hij
    · exact ihq i j hi hij
  | many least most greedy p ih =>
    rintro i j hi ⟨n, -, -, hij⟩
    exact forward_steps ih n i j hi hij
  | group numbered p ih => exact ih

theorem testBit_zero_add_double (b : Bool) (n : Nat) : (b.toNat + 2 * n).testBit 0 = b := by
  cases b <;> simp [Nat.testBit_zero]

theorem testBit_succ_add_double (b : Bool) (n i : Nat) : (b.toNat + 2 * n).testBit (i + 1) = n.testBit i := by
  have hhalf : (b.toNat + 2 * n) / 2 = n := by
    cases b <;> simp
    omega
  rw [Nat.testBit_succ, hhalf]

/-- the places at which a condition on the neighbours holds -/
theorem testBit_placesWhere (holds : Option Char → Option Char → Bool) (first : Option Char) (i : Nat) :
    (placesWhere holds first text).testBit i = true ↔
      i ≤ text.length ∧ holds (charBefore first text i) text[i]? = true := by
  induction text generalizing first i with
  | nil =>
    have hsingle : placesWhere holds first [] = (holds first none).toNat + 2 * 0 := rfl
    rw [hsingle]
    cases i with
    | zero =>
      rw [testBit_zero_add_double]
      simp [charBefore]
    | succ i =>
      rw [testBit_succ_add_double]
      simp
  | cons c rest ih =>
    rw [placesWhere]
    cases i with
    | zero =>
      rw [testBit_zero_add_double]
      simp [charBefore]
    | succ i =>
      have hbefore : charBefore (some c) rest i = charBefore first (c :: rest) (i + 1) := by
        cases i <;> rfl
      rw [testBit_succ_add_double, ih, hbefore, List.length_cons, Nat.succ_le_succ_iff]
      rfl

theorem realizes_step (s : CharSet) :
    Realizes text.length (fun places => (places &&& placesWhere (fun _ after => after.any s.contains) none text) <<< 1)
      ((Pattern.set s).Matches text) := by
  intro places _ j
  rw [Nat.testBit_shiftLeft, Bool.and_eq_true, decide_eq_true_eq, Nat.testBit_and, Bool.and_eq_true,
    testBit_placesWhere, Option.any_eq_true]
  constructor
  · rintro ⟨hj, hi, -, hc⟩
    exact ⟨j - 1, hi, hc, (Nat.sub_add_cancel hj).symm⟩
  · rintro ⟨i, hi, ⟨c, hc, hcontains⟩, rfl⟩
    obtain ⟨hlt, -⟩ := List.getElem?_eq_some_iff.1 hc
    rw [Nat.add_sub_cancel]
    exact ⟨Nat.le_add_left 1 i, hi, Nat.le_of_lt hlt, c, hc, hcontains⟩

theorem realizes_hold (a : Anchor) :
    Realizes text.length (fun places => places &&& placesWhere a.holds none text)
      ((Pattern.look a).Matches text) := by
  intro places hplaces j
  rw [Nat.testBit_and, Bool.and_eq_true, testBit_placesWhere]
  constructor
  · rintro ⟨hj, -, hholds⟩
    exact ⟨j, hj, hholds, rfl⟩
  · rintro ⟨i, hi, hholds, rfl⟩
    exact ⟨hi, hplaces i hi, hholds⟩

theorem realizes_many {f : Nat → Nat} {r : Nat → Nat → Prop} (h : Realizes text.length f r)
    (hr : Forward text.length r) (least : Nat) (most : Option Nat) :
    Realizes text.length
      (fun s => match most with
        | some n => spread f (n - least) (repeated f least s)
        | none => spread f (text.length + 1) (repeated f least s))
      fun i j => ∃ n, least ≤ n ∧ (∀ m, most = some m → n ≤ max least m) ∧ Steps r n i j := by
  have hfirst := realizes_repeated h hr least
  have hforward := forward_steps hr least
  cases most with
  | some m =>
    refine (hfirst.comp hforward (realizes_spread h hr (m - least))).congr fun i j _ => ?_
    constructor
    · rintro ⟨k, hik, n, hn, hkj⟩
      refine ⟨least + n, Nat.le_add_right _ _, ?_, hik.add hkj⟩
      rintro _ ⟨⟩
      omega
    · rintro ⟨n, hn, hmost, hij⟩
      have hmost := hmost m rfl
      obtain ⟨extra, rfl⟩ := Nat.exists_eq_add_of_le hn
      obtain ⟨k, hik, hkj⟩ := hij.split
      exact ⟨k, hik, extra, by omega, hkj⟩
  | none =>
    refine (hfirst.comp hforward (realizes_spread h hr (text.length + 1))).congr fun i j hi => ?_
    constructor
    · rintro ⟨k, hik, n, -, hkj⟩
      exact ⟨least + n, Nat.le_add_right _ _, nofun, hik.add hkj⟩
    · rintro ⟨n, hn, -, hij⟩
      obtain ⟨extra, rfl⟩ := Nat.exists_eq_add_of_le hn
      obtain ⟨k, hik, hkj⟩ := hij.split
      -- as many steps as the text has places are enough
      have hk := (hforward i k hi hik).2
      obtain ⟨n, hle, hsteps⟩ := Steps.exists_le hr hk hkj
      have hj := (forward_steps hr n k j hk hsteps).2
      exact ⟨k, hik, n, by omega, hsteps⟩

/-- **A pattern over a text.** From a set of places, a pattern reaches the places at which its matches end. -/
theorem Pattern.realizes_track (p : Pattern) :
    Realizes text.length ((p.track text).reach (text.length + 1)) (p.Matches text) := by
  induction p with
  | empty => exact realizes_id
  | set s => exact realizes_step text s
  | look a => exact realizes_hold text a
  | seq p q ihp ihq => exact ihp.comp (p.forward_matches text) ihq
  | alt p q ihp ihq => exact ihp.or ihq
  | many least most greedy p ih => exact realizes_many text ih (p.forward_matches text) least most
  | group numbered p ih => exact ih

end

theorem testBit_allPlaces (text : List Char) (i : Nat) :
    (allPlaces text).testBit i = true ↔ i ≤ text.length := by
  have hpow : allPlaces text = 2 ^ (text.length + 1) - 1 := rfl
  rw [hpow, Nat.testBit_two_pow_sub_one, decide_eq_true_eq, Nat.lt_succ_iff]

/-- **The search finds matches.** A pattern occurs in a text exactly if it has a match there. -/
theorem Pattern.occursIn_iff (p : Pattern) (text : String) :
    p.occursIn text = true ↔ ∃ i j, i ≤ text.toList.length ∧ p.Matches text.toList i j := by
  have hall : Within text.toList.length (allPlaces text.toList) := fun i hi => (testBit_allPlaces _ i).1 hi
  have hreach := p.realizes_track text.toList (allPlaces text.toList) hall
  rw [occursIn, bne_iff_ne]
  constructor
  · intro hne
    obtain ⟨j, hj⟩ := Nat.exists_testBit_of_ne_zero hne
    obtain ⟨i, hi, hij⟩ := (hreach j).1 hj
    exact ⟨i, j, hall i hi, hij⟩
  · rintro ⟨i, j, hi, hij⟩ hzero
    have hj := (hreach j).2 ⟨i, (testBit_allPlaces _ i).2 hi, hij⟩
    rw [hzero, Nat.zero_testBit] at hj
    cases hj

end DocumentQuery
