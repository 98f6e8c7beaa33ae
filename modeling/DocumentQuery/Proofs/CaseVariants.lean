/-
CASE VARIANTS. The characters that differ from a given one only in case are found from its folded form, by the table
read backward, and made a set of intervals. Nothing is lost on the way and nothing is added:

- `anyHolds_mergeIntervals`: merged intervals hold what the intervals of either list hold;
- `CharSet.contains_ofChars`: the set of some characters;
- `Unicode.Fold.source?_of_image?`: an entry read backward leads to what it folds;
- `Unicode.mem_caseVariants`: the variants of a character are those with the same folded form.
-/
import DocumentQuery.Unicode.Folding

namespace DocumentQuery

/-! ## Sets of some characters -/

namespace CharSet

theorem anyHolds_cons (i : Interval) (l : List Interval) (n : Nat) :
    anyHolds (i :: l) n = true ↔ i.holds n = true ∨ anyHolds l n = true := by
  simp [anyHolds]

/-- an interval over two that overlap or touch has nothing between them -/
theorem holds_both {i j : Interval} {last : Nat} (hij : ¬i.last + 1 < j.first) (hji : ¬j.last + 1 < i.first)
    (hlast : last = max i.last j.last) (n : Nat) :
    (Interval.mk (min i.first j.first) last).holds n = true ↔ i.holds n = true ∨ j.holds n = true := by
  simp only [Interval.holds, Bool.and_eq_true, decide_eq_true_eq]
  omega

/-- **Merged intervals.** They hold what one of the intervals of either list holds. -/
theorem anyHolds_mergeIntervals (k l : List Interval) (n : Nat) :
    anyHolds (mergeIntervals k l) n = true ↔ anyHolds k n = true ∨ anyHolds l n = true := by
  induction k, l using mergeIntervals.induct with
  | case1 l => simp [mergeIntervals, anyHolds]
  | case2 i k => simp [mergeIntervals, anyHolds]
  | case3 i k j l hij ih =>
    rw [mergeIntervals, if_pos hij, anyHolds_cons, ih, anyHolds_cons i, or_assoc]
  | case4 i k j l hij hji ih =>
    rw [mergeIntervals, if_neg hij, if_pos hji, anyHolds_cons, ih, anyHolds_cons j, or_left_comm]
  | case5 i k j l hij hji hle ih =>
    have hone := holds_both hij hji (Nat.max_eq_right hle).symm n
    rw [mergeIntervals, if_neg hij, if_neg hji, if_pos hle, ih, anyHolds_cons, hone, anyHolds_cons i, anyHolds_cons j,
      or_assoc, or_left_comm, or_assoc]
  | case6 i k j l hij hji hle ih =>
    have hone := holds_both hij hji (Nat.max_eq_left (Nat.le_of_not_le hle)).symm n
    rw [mergeIntervals, if_neg hij, if_neg hji, if_neg hle, ih, anyHolds_cons, hone, anyHolds_cons i, anyHolds_cons j,
      or_assoc, or_or_or_comm]

theorem contains_union (a b : CharSet) (c : Char) :
    (a.union b).contains c = true ↔ a.contains c = true ∨ b.contains c = true :=
  anyHolds_mergeIntervals a.intervals b.intervals c.toNat

theorem contains_char (c d : Char) : (char c).contains d = true ↔ d = c := by
  have hcodes : d = c ↔ d.toNat = c.toNat := Char.toNat_inj.symm
  simp only [contains, char, anyHolds, Interval.holds, Interval.single, List.any_cons, List.any_nil, Bool.or_false,
    Bool.and_eq_true, decide_eq_true_eq, hcodes]
  omega

/-- **Sets of some characters.** The set of some characters has these members and no other. -/
theorem contains_ofChars (cs : List Char) (c : Char) : (ofChars cs).contains c = true ↔ c ∈ cs := by
  induction cs with
  | nil => simp [ofChars, unions, none, contains, anyHolds]
  | cons d cs ih =>
    have hunion : ofChars (d :: cs) = (char d).union (ofChars cs) := rfl
    rw [hunion, contains_union, contains_char, ih, List.mem_cons]

end CharSet

/-! ## Folded forms -/

namespace Unicode

/-- the entry folds to characters: none of the code points at its places is a surrogate or too large -/
def Fold.FitsTarget (f : Fold) : Prop :=
  f.target + (f.last - f.first) < 0xD800 ∨ 0xDFFF < f.target ∧ f.target + (f.last - f.first) < 0x110000

instance (f : Fold) : Decidable f.FitsTarget := inferInstanceAs (Decidable (_ ∨ _ ∧ _))

theorem fitsTarget_of_mem : ∀ f ∈ folds, f.FitsTarget := by
  decide +kernel

theorem Fold.image?_eq_some {f : Fold} {c n : Nat} (h : f.image? c = some n) :
    f.first ≤ c ∧ c ≤ f.last ∧ (c - f.first) % f.stride = 0 ∧ n = f.target + (c - f.first) := by
  unfold image? at h
  split at h
  · next hplace =>
    obtain ⟨hfirst, hlast, hstride⟩ := hplace
    exact ⟨hfirst, hlast, hstride, (Option.some.inj h).symm⟩
  · cases h

/-- the code point that an entry folds another one to is that of a character -/
theorem Fold.isValidChar_image {f : Fold} (hf : f.FitsTarget) {c n : Nat} (h : f.image? c = some n) :
    n.isValidChar := by
  obtain ⟨hfirst, hlast, -, rfl⟩ := image?_eq_some h
  unfold FitsTarget at hf
  unfold Nat.isValidChar
  omega

/-- an entry read backward leads to what it folds -/
theorem Fold.source?_of_image? {f : Fold} {c n : Nat} (h : f.image? c = some n) : f.source? n = some c := by
  obtain ⟨hfirst, hlast, hstride, rfl⟩ := image?_eq_some h
  have hback : f.target + (c - f.first) - f.target = c - f.first := Nat.add_sub_cancel_left ..
  have hsource : f.first + (c - f.first) = c := Nat.add_sub_cancel' hfirst
  rw [source?, hback, hsource, if_pos ⟨Nat.le_add_right .., hlast, hstride⟩]

/-- a character is its own folded form or stands in an entry -/
theorem foldCase_cases (c : Char) :
    foldCase c = c ∨ ∃ f ∈ folds, f.image? c.toNat = some (foldCase c).toNat := by
  unfold foldCase
  split
  · next n hn =>
    obtain ⟨f, hf, himage⟩ := List.exists_of_findSome?_eq_some hn
    have hvalid := Fold.isValidChar_image (fitsTarget_of_mem f hf) himage
    refine Or.inr ⟨f, hf, himage.trans ?_⟩
    rw [Char.ofNat, dif_pos hvalid]
    rfl
  · exact Or.inl rfl

theorem mem_foldSources (c : Char) : c ∈ foldSources c := by
  rcases foldCase_cases c with hself | ⟨f, hf, himage⟩
  · rw [foldSources, hself]
    exact List.mem_cons_self
  · refine List.mem_cons_of_mem _ (List.mem_map.2 ⟨c.toNat, ?_, Char.ofNat_toNat c⟩)
    exact List.mem_filterMap.2 ⟨f, hf, Fold.source?_of_image? himage⟩

/-- **Case variants.** The variants of a character are the characters with the same folded form. -/
theorem mem_caseVariants (c d : Char) : d ∈ caseVariants c ↔ foldCase d = foldCase c := by
  rw [caseVariants, List.mem_filter, decide_eq_true_eq]
  constructor
  · exact fun ⟨_, hsame⟩ => hsame
  · intro hsame
    have hsources : foldSources d = foldSources c := by rw [foldSources, foldSources, hsame]
    exact ⟨hsources ▸ mem_foldSources d, hsame⟩

end Unicode

end DocumentQuery
