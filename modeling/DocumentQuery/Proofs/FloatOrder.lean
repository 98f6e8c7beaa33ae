/-
THE ORDER OF FLOATS. A float is less than another when both are defined and its place, the number that its bits make
with their sign, is lower:

- `compare_eq`: floats taken apart into sign, significand and exponent are compared by their places;
- `placeOf?_toModel`: the place of the parts is the place of the bits;
- `lt_iff_floatPlace`: so `<` is the order of the places;
- `eq_of_bits`, `eq_of_isNaN`: a float is known by its bits, and only one is undefined;
- `floatBits_ofBits`: the bits of a defined float make that float;
- `nearestInt_pos`: a positive integer is positive as a float.
-/
import Mathlib
import DocumentQuery.Proofs.FiniteNumbers

namespace DocumentQuery

open Float.Model (Format UnpackedFloat)
open Float.Model.UnpackedFloat

/-! ## Parts of a float -/

/-- an integer with a sign in front -/
def signed (s : Sign) (n : Int) : Int :=
  match s with
  | .negative => -n
  | .positive => n

/-- place of an unpacked float among all floats; an undefined value has none -/
def placeOf? : UnpackedFloat → Option Int
  | .notANumber => none
  | .infinity s => some (signed s (2047 * 2 ^ 52))
  | .zero _ => some 0
  | .finite s m e _ => some (signed s ((e + 1074) * 2 ^ 52 + m))

/-- the significand and the exponent of a float: 53 digits at most, and fewer only with the least exponent -/
def Reduced : UnpackedFloat → Prop
  | .finite _ m e _ => m < 2 ^ 53 ∧ -1074 ≤ e ∧ e ≤ 971 ∧ (m < 2 ^ 52 → e = -1074)
  | _ => True

section

variable (b : BitVec Format.binary64.numBits)

theorem toNat_unpackMantissa : (unpackMantissa b).toNat = b.toNat % 2 ^ 52 := by
  show ((BitVec.extractLsb (52 - 1) 0 (show BitVec 64 from b)).cast _).toNat = _
  rw [BitVec.toNat_cast, BitVec.extractLsb_toNat, Nat.shiftRight_zero]

/-- the highest bit of 64 is the sign -/
theorem toNat_unpackSign : (unpackSign b).toNat = b.toNat / 2 ^ 63 := by
  have hb : b.toNat < 2 ^ 64 := b.isLt
  show ((BitVec.extractLsb 63 63 (show BitVec 64 from b)).cast _).toNat = _
  rw [BitVec.toNat_cast, BitVec.extractLsb_toNat, Nat.shiftRight_eq_div_pow]
  show b.toNat / 2 ^ 63 % 2 = _
  omega

theorem sign_unpackSign :
    Sign.ofBitVec (unpackSign b) = if 2 ^ 63 ≤ b.toNat then .negative else .positive := by
  have hb : b.toNat < 2 ^ 64 := b.isLt
  have hsign : (unpackSign b).toNat = b.toNat / 2 ^ 63 := toNat_unpackSign b
  unfold Sign.ofBitVec
  by_cases h : 2 ^ 63 ≤ b.toNat
  · rw [if_pos h, if_neg]
    intro hzero
    have := congrArg BitVec.toNat hzero
    rw [hsign] at this
    have hz : (0#1).toNat = 0 := rfl
    omega
  · rw [if_neg h, if_pos]
    apply BitVec.eq_of_toNat_eq
    rw [hsign]
    have hz : (0#1).toNat = 0 := rfl
    omega

theorem toNat_one_append (m : BitVec 52) : (1#1 ++ m).toNat = 2 ^ 52 + m.toNat := by
  rw [BitVec.toNat_append]
  have h := Nat.two_pow_add_eq_or_of_lt m.isLt 1
  rw [Nat.mul_one] at h
  rw [h]
  rfl

theorem magnitude_eq :
    b.toNat % 2 ^ 63 = (unpackExponent b).toNat * 2 ^ 52 + (unpackMantissa b).toNat := by
  have hexp : (unpackExponent b).toNat = b.toNat / 2 ^ 52 % 2 ^ 11 := toNat_unpackExponent b
  rw [hexp, toNat_unpackMantissa]
  have hb : b.toNat < 2 ^ 64 := b.isLt
  omega

/-- what the bits of a float stand for, by its exponent field -/
theorem unpack_cases :
    ((unpackExponent b).toNat = 2047 ∧ (unpackMantissa b).toNat = 0 ∧
      unpack Format.binary64 b = .infinity (Sign.ofBitVec (unpackSign b))) ∨
    ((unpackExponent b).toNat = 2047 ∧ 0 < (unpackMantissa b).toNat ∧ unpack Format.binary64 b = .notANumber) ∨
    ((unpackExponent b).toNat = 0 ∧ (unpackMantissa b).toNat = 0 ∧
      unpack Format.binary64 b = .zero (Sign.ofBitVec (unpackSign b))) ∨
    ((unpackExponent b).toNat = 0 ∧ ∃ h, unpack Format.binary64 b =
      .finite (Sign.ofBitVec (unpackSign b)) (unpackMantissa b).toNat (-1074) h) ∨
    (0 < (unpackExponent b).toNat ∧ (unpackExponent b).toNat < 2047 ∧ ∃ h, unpack Format.binary64 b =
      .finite (Sign.ofBitVec (unpackSign b)) (1#1 ++ unpackMantissa b).toNat ((unpackExponent b).toNat - 1075) h) := by
  have hbias : ((Format.binary64.exponentBias : Int) + Format.binary64.mantissaBitsWithoutImplicit) = 1075 := rfl
  unfold unpack
  dsimp only
  rw [hbias]
  by_cases hfull : unpackExponent b = -1#_
  · have he : (unpackExponent b).toNat = 2047 := congrArg BitVec.toNat hfull
    rw [if_pos hfull]
    by_cases hzero : unpackMantissa b = 0#_
    · have hm : (unpackMantissa b).toNat = 0 := congrArg BitVec.toNat hzero
      rw [if_pos hzero]
      exact Or.inl ⟨he, hm, rfl⟩
    · have hm : (unpackMantissa b).toNat ≠ 0 := fun heq => hzero (BitVec.eq_of_toNat_eq heq)
      rw [if_neg hzero]
      exact Or.inr (Or.inl ⟨he, Nat.pos_of_ne_zero hm, rfl⟩)
  · have he : (unpackExponent b).toNat ≠ 2047 := fun heq => hfull (BitVec.eq_of_toNat_eq heq)
    rw [if_neg hfull]
    by_cases hempty : unpackExponent b = 0#_
    · have he : (unpackExponent b).toNat = 0 := congrArg BitVec.toNat hempty
      rw [if_pos hempty]
      by_cases hzero : unpackMantissa b = 0#_
      · have hm : (unpackMantissa b).toNat = 0 := congrArg BitVec.toNat hzero
        rw [dif_pos hzero]
        exact Or.inr (Or.inr (Or.inl ⟨he, hm, rfl⟩))
      · have hm : 0 < (unpackMantissa b).toNat :=
          Nat.pos_of_ne_zero fun heq => hzero (BitVec.eq_of_toNat_eq heq)
        rw [dif_neg hzero]
        exact Or.inr (Or.inr (Or.inr (Or.inl ⟨he, hm, by rw [he]; rfl⟩)))
    · have hpos : (unpackExponent b).toNat ≠ 0 := fun heq => hempty (BitVec.eq_of_toNat_eq heq)
      have hlt : (unpackExponent b).toNat < 2 ^ 11 := (unpackExponent b).isLt
      have hm : 0 < (1#1 ++ unpackMantissa b).toNat := by
        rw [toNat_one_append]
        exact Nat.lt_of_lt_of_le (by decide) (Nat.le_add_right _ _)
      rw [if_neg hempty]
      exact Or.inr (Or.inr (Or.inr (Or.inr ⟨by omega, by omega, hm, rfl⟩)))

theorem reduced_unpack : Reduced (unpack Format.binary64 b) := by
  have hm : (unpackMantissa b).toNat < 2 ^ 52 := (unpackMantissa b).isLt
  have hone : (1#1 ++ unpackMantissa b).toNat = 2 ^ 52 + (unpackMantissa b).toNat := toNat_one_append _
  rcases unpack_cases b with ⟨-, -, h⟩ | ⟨-, -, h⟩ | ⟨-, -, h⟩ | ⟨-, _, h⟩ | ⟨hpos, hlt, _, h⟩ <;> rw [h]
  · trivial
  · trivial
  · trivial
  · exact ⟨by omega, by omega, by omega, fun _ => rfl⟩
  · rw [Reduced, hone]
    omega

theorem placeOf?_unpack : placeOf? (unpack Format.binary64 b) =
    if 2047 * 2 ^ 52 < b.toNat % 2 ^ 63 then none
    else some (signed (Sign.ofBitVec (unpackSign b)) (b.toNat % 2 ^ 63 : Nat)) := by
  have hm : (unpackMantissa b).toNat < 2 ^ 52 := (unpackMantissa b).isLt
  have hone : (1#1 ++ unpackMantissa b).toNat = 2 ^ 52 + (unpackMantissa b).toNat := toNat_one_append _
  rw [magnitude_eq]
  rcases unpack_cases b with ⟨he, hm, h⟩ | ⟨he, hm, h⟩ | ⟨he, hm, h⟩ | ⟨he, _, h⟩ | ⟨hpos, hlt, _, h⟩ <;> rw [h]
  · rw [he, hm]
    rfl
  · rw [he, if_pos (by omega)]
    rfl
  · rw [he, hm]
    cases Sign.ofBitVec (unpackSign b) <;> rfl
  · rw [he, if_neg (by omega)]
    show some (signed _ _) = some (signed _ _)
    congr 2
  · rw [if_neg (by omega)]
    show some (signed _ _) = some (signed _ _)
    congr 2
    rw [hone]
    omega

end

/-! ## Comparison of parts -/

/-- of two reduced floats without a sign, the one with the greater exponent is greater -/
theorem compare_magnitudes {m m' : Nat} {e e' : Int} (hm : m < 2 ^ 53) (hm' : m' < 2 ^ 53) (he : -1074 ≤ e)
    (he' : -1074 ≤ e') (hleast : m < 2 ^ 52 → e = -1074) (hleast' : m' < 2 ^ 52 → e' = -1074) :
    (compare e e').then (compare m m') = compare ((e + 1074) * 2 ^ 52 + m) ((e' + 1074) * 2 ^ 52 + m') := by
  rcases Int.lt_trichotomy e e' with h | rfl | h
  · rw [Int.compare_eq_lt.2 h, Ordering.lt_then, eq_comm, Int.compare_eq_lt]
    omega
  · rw [Int.compare_eq_eq.2 rfl, Ordering.eq_then]
    rcases Nat.lt_trichotomy m m' with h | rfl | h
    · rw [Nat.compare_eq_lt.2 h, eq_comm, Int.compare_eq_lt]
      omega
    · rw [Nat.compare_eq_eq.2 rfl, eq_comm, Int.compare_eq_eq]
    · rw [Nat.compare_eq_gt.2 h, eq_comm, Int.compare_eq_gt]
      omega
  · rw [Int.compare_eq_gt.2 h, Ordering.gt_then, eq_comm, Int.compare_eq_gt]
    omega

theorem compare_neg (m n : Int) : compare (-m) (-n) = (compare m n).swap := by
  rcases Int.lt_trichotomy m n with h | rfl | h
  · rw [Int.compare_eq_lt.2 h, Int.compare_eq_gt.2 (by omega)]
    rfl
  · rw [Int.compare_eq_eq.2 rfl, Int.compare_eq_eq.2 rfl]
    rfl
  · rw [Int.compare_eq_gt.2 h, Int.compare_eq_lt.2 (by omega)]
    rfl

/-- a finite float is between zero and infinity -/
theorem magnitude_bounds {m : Nat} {e : Int} (h : m < 2 ^ 53 ∧ -1074 ≤ e ∧ e ≤ 971 ∧ (m < 2 ^ 52 → e = -1074))
    (hpos : 0 < m) : 0 < (e + 1074) * 2 ^ 52 + m ∧ (e + 1074) * 2 ^ 52 + m < 2047 * 2 ^ 52 := by
  omega

theorem signed_between {m n : Int} (h : 0 < m ∧ m < n) (s : Sign) : -n < signed s m ∧ signed s m < n := by
  obtain ⟨hpos, hlt⟩ := h
  cases s with
  | negative => exact ⟨Int.neg_lt_neg hlt, by rw [signed]; omega⟩
  | positive => exact ⟨by rw [signed]; omega, hlt⟩

theorem some_lt_eq {m n : Int} (h : m < n) : some Ordering.lt = some (compare m n) :=
  congrArg some (Int.compare_eq_lt.2 h).symm

theorem some_gt_eq {m n : Int} (h : n < m) : some Ordering.gt = some (compare m n) :=
  congrArg some (Int.compare_eq_gt.2 h).symm

/-- floats are compared by their places -/
theorem compare_eq {x y : UnpackedFloat} (hx : Reduced x) (hy : Reduced y) {m n : Int} (hm : placeOf? x = some m)
    (hn : placeOf? y = some n) : x.compare y = some (compare m n) := by
  cases x with
  | notANumber => cases hm
  | infinity s =>
    cases hm
    cases y with
    | notANumber => cases hn
    | infinity t => cases hn; cases s <;> cases t <;> rfl
    | zero t => cases hn; cases s <;> rfl
    | finite t k e hk =>
      cases hn
      have hbetween := signed_between (magnitude_bounds hy hk) t
      cases s with
      | negative => exact some_lt_eq hbetween.1
      | positive => exact some_gt_eq hbetween.2
  | zero s =>
    cases hm
    cases y with
    | notANumber => cases hn
    | infinity t => cases hn; cases t <;> rfl
    | zero t => cases hn; rfl
    | finite t k e hk =>
      cases hn
      have hpos := (magnitude_bounds hy hk).1
      cases t with
      | negative => exact some_gt_eq (Int.neg_neg_of_pos hpos)
      | positive => exact some_lt_eq hpos
  | finite s k e hk =>
    cases hm
    have hbounds := magnitude_bounds hx hk
    cases y with
    | notANumber => cases hn
    | infinity t =>
      cases hn
      have hbetween := signed_between hbounds s
      cases t with
      | negative => cases s <;> exact some_gt_eq hbetween.1
      | positive => cases s <;> exact some_lt_eq hbetween.2
    | zero t =>
      cases hn
      cases s with
      | negative => exact some_lt_eq (Int.neg_neg_of_pos hbounds.1)
      | positive => exact some_gt_eq hbounds.1
    | finite t k' e' hk' =>
      cases hn
      have hpos := (magnitude_bounds hy hk').1
      have hsame := compare_magnitudes hx.1 hy.1 hx.2.1 hy.2.1 hx.2.2.2 hy.2.2.2
      cases s with
      | negative =>
        cases t with
        | negative => rw [UnpackedFloat.compare, signed, signed, hsame, compare_neg]
        | positive => exact some_lt_eq (Int.lt_trans (Int.neg_neg_of_pos hbounds.1) hpos)
      | positive =>
        cases t with
        | negative => exact some_gt_eq (Int.lt_trans (Int.neg_neg_of_pos hpos) hbounds.1)
        | positive => exact congrArg some hsame

/-! ## The order of floats -/

theorem isNaN_iff_placeOf? (x : UnpackedFloat) : x.isNaN = true ↔ placeOf? x = none := by
  cases x <;> simp [UnpackedFloat.isNaN, placeOf?]

/-- a float is undefined when its bits are above those of infinity -/
theorem isNaN_iff (x : Float) : x.isNaN = true ↔ 0x7FF * 2 ^ 52 < magnitudeBits x := by
  have hnan : x.isNaN = (unpack Format.binary64 x.toBits.toBitVec).isNaN := rfl
  have hbits : magnitudeBits x = x.toBits.toBitVec.toNat % 2 ^ 63 := rfl
  rw [hnan, isNaN_iff_placeOf?, placeOf?_unpack, hbits]
  split
  · next h => exact iff_of_true rfl h
  · next h => exact iff_of_false (Option.some_ne_none _) h

theorem placeOf?_toModel (x : Float) :
    placeOf? x.toModel.unpack = if x.isNaN then none else some (floatPlace x) := by
  let b : BitVec Format.binary64.numBits := x.toBits.toBitVec
  have hplace : placeOf? x.toModel.unpack = if 2047 * 2 ^ 52 < x.toBits.toNat % 2 ^ 63 then none
      else some (signed (Sign.ofBitVec (unpackSign b)) (x.toBits.toNat % 2 ^ 63 : Nat)) :=
    placeOf?_unpack b
  have hsign : Sign.ofBitVec (unpackSign b) =
      if 2 ^ 63 ≤ x.toBits.toNat then .negative else .positive := sign_unpackSign b
  have hvalue : signed (Sign.ofBitVec (unpackSign b)) (x.toBits.toNat % 2 ^ 63 : Nat) =
      floatPlace x := by
    have hnegative : isNegative x = decide (2 ^ 63 ≤ x.toBits.toNat) := rfl
    have hmagnitude : magnitudeBits x = x.toBits.toNat % 2 ^ 63 := rfl
    rw [hsign, floatPlace, hnegative, hmagnitude]
    by_cases h : 2 ^ 63 ≤ x.toBits.toNat
    · rw [if_pos h, if_pos (decide_eq_true h), signed]
    · rw [if_neg h, if_neg (by simpa using h), signed]
  rw [hplace, hvalue]
  exact if_congr (isNaN_iff x).symm rfl rfl

/-- two floats are compared by their places, if both have one -/
theorem lt_iff_compare (x y : Float) : x < y ↔ x.toModel.unpack.compare y.toModel.unpack = some .lt := by
  show Float.lt x y = true ↔ _
  unfold Float.lt
  rw [decide_eq_true_eq]
  show Float.Model.lt _ _ = true ↔ _
  simp [Float.Model.lt, UnpackedFloat.lt]

theorem isNaN_of_lt {x y : Float} (h : x < y) : x.isNaN = false ∧ y.isNaN = false := by
  rw [lt_iff_compare] at h
  have hx : x.isNaN = x.toModel.unpack.isNaN := rfl
  have hy : y.isNaN = y.toModel.unpack.isNaN := rfl
  rw [hx, hy]
  cases hxu : x.toModel.unpack with
  | notANumber =>
    rw [hxu] at h
    cases h
  | _ =>
    cases hyu : y.toModel.unpack with
    | notANumber =>
      rw [hxu, hyu] at h
      simp [UnpackedFloat.compare] at h
    | _ => exact ⟨rfl, rfl⟩

/-- **The order of floats.** One float is less than another if both are defined and its place is lower. -/
theorem lt_iff_floatPlace (x y : Float) :
    x < y ↔ x.isNaN = false ∧ y.isNaN = false ∧ floatPlace x < floatPlace y := by
  have hplace (hx : x.isNaN = false) (hy : y.isNaN = false) : x < y ↔ floatPlace x < floatPlace y := by
    have hm := placeOf?_toModel x
    have hn := placeOf?_toModel y
    rw [hx, if_neg Bool.false_ne_true] at hm
    rw [hy, if_neg Bool.false_ne_true] at hn
    have hcompare : x.toModel.unpack.compare y.toModel.unpack = some (compare (floatPlace x) (floatPlace y)) :=
      compare_eq (reduced_unpack _) (reduced_unpack _) hm hn
    rw [lt_iff_compare, hcompare, Option.some.injEq, Int.compare_eq_lt]
  constructor
  · intro h
    obtain ⟨hx, hy⟩ := isNaN_of_lt h
    exact ⟨hx, hy, (hplace hx hy).1 h⟩
  · rintro ⟨hx, hy, h⟩
    exact (hplace hx hy).2 h

theorem isNaN_of_isFinite {x : Float} (h : isFinite x = true) : x.isNaN = false := by
  rw [isFinite, decide_eq_true_eq] at h
  have h : magnitudeBits x < 0x7FF * 2 ^ 52 := h
  refine Bool.eq_false_iff.2 fun hnan => ?_
  have habove := (isNaN_iff x).1 hnan
  omega

/-- a defined float is not above a bound exactly if its place is not -/
theorem not_lt_iff {x bound : Float} (h : isFinite bound = true) :
    ¬ bound < x ↔ x.isNaN = true ∨ floatPlace x ≤ floatPlace bound := by
  rw [lt_iff_floatPlace, isNaN_of_isFinite h]
  cases x.isNaN <;> simp

theorem not_gt_iff {x bound : Float} (h : isFinite bound = true) :
    ¬ x < bound ↔ x.isNaN = true ∨ floatPlace bound ≤ floatPlace x := by
  rw [lt_iff_floatPlace, isNaN_of_isFinite h]
  cases x.isNaN <;> simp

/-! ## Equal floats -/

theorem eq_of_bits {x y : Float} (h : floatBits x = floatBits y) : x = y :=
  Float.toBits_inj.1 (UInt64.toNat_inj.1 h)

theorem eq_of_isNaN {x y : Float} (hx : x.isNaN = true) (hy : y.isNaN = true) : x = y := by
  rw [Float.isNaN_eq_decide_eq_nan, decide_eq_true_eq] at hx hy
  rw [hx, hy]

/-! ## Bits read back -/

theorem unpackSign_packComponents (s : Sign) (e : BitVec Format.binary64.exponentBits)
    (m : BitVec Format.binary64.mantissaBitsWithoutImplicit) :
    unpackSign (packComponents Format.binary64 s e m) = s.toBitVec := by
  have hbit : (s.toBitVec ++ (show BitVec 11 from e) ++ (show BitVec 52 from m)).getLsbD 63 = s.toBitVec.getLsbD 0 := by
    rw [BitVec.getLsbD_append, BitVec.getLsbD_append]
    rfl
  ext i hi
  have hzero : i = 0 := Nat.lt_one_iff.1 hi
  subst hzero
  show (BitVec.extractLsb 63 63 (show BitVec 64 from packComponents Format.binary64 s e m)).getLsbD 0 = _
  rw [BitVec.getLsbD_extractLsb]
  exact hbit

/-- bits are known by their three fields -/
theorem eq_of_fields {b c : BitVec Format.binary64.numBits} (hsign : unpackSign b = unpackSign c)
    (hexponent : unpackExponent b = unpackExponent c) (hmantissa : unpackMantissa b = unpackMantissa c) : b = c := by
  apply BitVec.eq_of_toNat_eq
  have hb : b.toNat < 2 ^ 64 := b.isLt
  have hc : c.toNat < 2 ^ 64 := c.isLt
  have hs := congrArg BitVec.toNat hsign
  have hmagnitude : b.toNat % 2 ^ 63 = c.toNat % 2 ^ 63 := by
    rw [magnitude_eq, magnitude_eq, hexponent, hmantissa]
  rw [toNat_unpackSign, toNat_unpackSign] at hs
  omega

theorem packComponents_unpack (b : BitVec Format.binary64.numBits) :
    packComponents Format.binary64 (Sign.ofBitVec (unpackSign b)) (unpackExponent b) (unpackMantissa b) = b := by
  apply eq_of_fields
  · have hsign : ∀ s : BitVec 1, (Sign.ofBitVec s).toBitVec = s := by decide
    rw [unpackSign_packComponents, hsign]
  · rw [unpackExponent_packComponents]
  · rw [unpackMantissa_packComponents]

section

variable {s : Sign} {e : BitVec Format.binary64.exponentBits} {m : BitVec Format.binary64.mantissaBitsWithoutImplicit}

/-- one of the smallest floats has an empty exponent field -/
theorem pack_smallest (hpos : 0 < m.toNat) :
    pack Format.binary64 (.finite s m.toNat (-1074) hpos) = packComponents Format.binary64 s 0#_ m := by
  have hm : m.toNat < 2 ^ 52 := m.isLt
  have hfew : ¬m.toNat.log2 + 1 = Format.binary64.mantissaBits := by
    have hlog := (Nat.log2_lt hpos.ne').2 hm
    show ¬_ = 53
    omega
  rw [pack_finite, if_neg (by decide), if_neg hfew, BitVec.ofNat_toNat, BitVec.setWidth_eq]

/-- any other one has its first digit left out -/
theorem pack_normal (he : e.toNat < 2047) (hpos : 0 < (1#1 ++ m).toNat) :
    pack Format.binary64 (.finite s (1#1 ++ m).toNat (e.toNat - 1075) hpos) = packComponents Format.binary64 s e m := by
  have hm : m.toNat < 2 ^ 52 := m.isLt
  have hone : (1#1 ++ m).toNat = 2 ^ 52 + m.toNat := toNat_one_append m
  have hfield : ((e.toNat : Int) - 1075 + Format.binary64.exponentBias +
      Format.binary64.mantissaBitsWithoutImplicit).toNat = e.toNat := by
    show ((e.toNat : Int) - 1075 + 1023 + 52).toNat = _
    omega
  have hroom : ¬2 ^ Format.binary64.exponentBits ≤ e.toNat + 1 := by
    show ¬2048 ≤ _
    omega
  have hdigits : (2 ^ 52 + m.toNat).log2 + 1 = Format.binary64.mantissaBits := by
    have hnonzero : 2 ^ 52 + m.toNat ≠ 0 := by omega
    have hlow := (Nat.le_log2 hnonzero).2 (show 2 ^ 52 ≤ _ by omega)
    have hhigh := (Nat.log2_lt hnonzero).2 (show _ < 2 ^ 53 by omega)
    show _ = 53
    omega
  have hrest : BitVec.ofNat Format.binary64.mantissaBitsWithoutImplicit (2 ^ 52 + m.toNat) = m := by
    apply BitVec.eq_of_toNat_eq
    rw [BitVec.toNat_ofNat]
    show (2 ^ 52 + m.toNat) % 2 ^ 52 = _
    omega
  rw [pack_finite, hfield, if_neg hroom, hone, if_pos hdigits, hrest, BitVec.ofNat_toNat, BitVec.setWidth_eq]

end

/-- bits of a defined float are unpacked and packed without a change -/
theorem pack_unpack {b : BitVec Format.binary64.numBits} (h : b.toNat % 2 ^ 63 ≤ 2047 * 2 ^ 52) :
    pack Format.binary64 (unpack Format.binary64 b) = b := by
  have hfields := packComponents_unpack b
  rw [magnitude_eq] at h
  rcases unpack_cases b with ⟨he, hm, hu⟩ | ⟨he, hm, -⟩ | ⟨he, hm, hu⟩ | ⟨he, hm, hu⟩ | ⟨-, he, hm, hu⟩
  · have hexponent : unpackExponent b = -1#_ := BitVec.eq_of_toNat_eq he
    have hmantissa : unpackMantissa b = 0 := BitVec.eq_of_toNat_eq hm
    rw [hexponent, hmantissa] at hfields
    rw [hu]
    exact hfields
  · omega
  · have hexponent : unpackExponent b = 0 := BitVec.eq_of_toNat_eq he
    have hmantissa : unpackMantissa b = 0 := BitVec.eq_of_toNat_eq hm
    rw [hexponent, hmantissa] at hfields
    rw [hu]
    exact hfields
  · have hexponent : unpackExponent b = 0#_ := BitVec.eq_of_toNat_eq he
    rw [hexponent] at hfields
    rw [hu, pack_smallest]
    exact hfields
  · rw [hu, pack_normal he]
    exact hfields

theorem floatBits_ofBits {word : UInt64} (h : word.toNat % 2 ^ 63 ≤ 2047 * 2 ^ 52) :
    floatBits (Float.ofBits word) = word.toNat := by
  have hpacked : (Float.ofBits word).toBits.toBitVec = word.toBitVec := pack_unpack (b := word.toBitVec) h
  exact congrArg BitVec.toNat hpacked

theorem magnitudeBits_ofMagnitude {bits : Nat} (h : bits ≤ 2047 * 2 ^ 52) :
    floatBits (ofMagnitude false bits) = bits ∧ magnitudeBits (ofMagnitude false bits) = bits := by
  have hword : (UInt64.ofNat bits).toNat = bits := by
    rw [UInt64.toNat_ofNat']
    omega
  have hbits : floatBits (ofMagnitude false bits) = bits := by
    show floatBits (Float.ofBits (UInt64.ofNat bits)) = bits
    rw [floatBits_ofBits (by omega), hword]
  refine ⟨hbits, ?_⟩
  show floatBits (ofMagnitude false bits) % 2 ^ 63 = bits
  omega

/-- a float made of a magnitude is defined, and its place is the magnitude -/
theorem floatPlace_ofMagnitude {bits : Nat} (h : bits ≤ 2047 * 2 ^ 52) :
    (ofMagnitude false bits).isNaN = false ∧ floatPlace (ofMagnitude false bits) = bits := by
  obtain ⟨hbits, hmagnitude⟩ := magnitudeBits_ofMagnitude h
  have hsign : isNegative (ofMagnitude false bits) = decide (2 ^ 63 ≤ floatBits (ofMagnitude false bits)) := rfl
  constructor
  · refine Bool.eq_false_iff.2 fun hnan => ?_
    have habove := (isNaN_iff _).1 hnan
    omega
  · have hpositive : isNegative (ofMagnitude false bits) = false := by
      rw [hsign, hbits, decide_eq_false_iff_not]
      omega
    rw [floatPlace, hpositive, if_neg Bool.false_ne_true, hmagnitude]

/-! ## Numbers of things -/

theorem nearestBits_le (num den : Nat) : nearestBits num den ≤ 2047 * 2 ^ 52 := by
  unfold nearestBits
  split
  · exact Nat.zero_le _
  · exact Nat.min_le_right _ _

/-- the exponent field of a positive integer is not empty -/
theorem nearestBits_pos {n : Nat} (h : 0 < n) : 0 < nearestBits n 1 := by
  have hunit : 1 ≤ (max (floorLog2 n 1 - 52) (-1074) + 1074).toNat := by
    rw [floorLog2_one h.ne']
    omega
  have hpow : 0 < Nat.pow 2 52 := Nat.two_pow_pos 52
  unfold nearestBits
  rw [if_neg h.ne']
  refine Nat.lt_min.2 ⟨?_, Nat.mul_pos (by decide) hpow⟩
  exact Nat.add_pos_left (Nat.mul_pos hunit hpow) _

/-- a positive integer, however large, is a positive float -/
theorem nearestInt_pos {n : Nat} (h : 0 < n) : 0.0 < nearestInt n := by
  obtain ⟨hdefined, hplace⟩ := floatPlace_ofMagnitude (nearestBits_le n 1)
  have hzero : floatPlace 0.0 = 0 := by decide
  have hlt : floatPlace 0.0 < floatPlace (ofMagnitude false (nearestBits n 1)) := by
    rw [hplace, hzero]
    exact Int.natCast_pos.2 (nearestBits_pos h)
  exact (lt_iff_floatPlace _ _).2 ⟨by decide, hdefined, hlt⟩

end DocumentQuery
