/-
FINITE NUMBERS. The numbers of JSON values are integers of 64 bits and finite floats, and each of them is read as a
float that is finite:

- `isFinite_ofMagnitude`: bits below those of infinity are the bits of a finite float;
- `nearestBits_lt`: the float nearest to an integer of 64 bits has such bits;
- `Json.isFinite_of_float?`: so every number that a JSON value can hold is read as a finite float;
- `Json.float?_float`: and a finite float that is written is read back.

`Json.Fits` says of a value that its numbers are such ones at every depth; `Payload.fits_of_record?` hands this down to
the declared fields of a payload.
-/
import Mathlib.Data.Nat.Log
import DocumentQuery.Proofs.Fields
import DocumentQuery.Proofs.Payloads

namespace DocumentQuery

/-! ## Bits of finite floats -/

section Bits

open Float.Model (Format)
open Float.Model.UnpackedFloat

theorem pack_zero (s : Sign) : pack Format.binary64 (.zero s) = packComponents Format.binary64 s 0 0 := rfl

theorem pack_finite (s : Sign) (m : Nat) (e : Int) (hm : 0 < m) :
    pack Format.binary64 (.finite s m e hm) =
      if 2 ^ Format.binary64.exponentBits ≤
          (e + Format.binary64.exponentBias + Format.binary64.mantissaBitsWithoutImplicit).toNat + 1 then
        packedInfinity Format.binary64 s
      else if m.log2 + 1 = Format.binary64.mantissaBits then
        packComponents Format.binary64 s
          (BitVec.ofNat _ (e + Format.binary64.exponentBias + Format.binary64.mantissaBitsWithoutImplicit).toNat)
          (BitVec.ofNat _ m)
      else packComponents Format.binary64 s 0#_ (BitVec.ofNat _ m) :=
  rfl

/-- a number is packed with its own exponent field or, when it is one of the smallest, with an empty one -/
theorem unpackExponent_pack_finite {s : Sign} {m : Nat} {e : Int} {hm : 0 < m}
    (h : (e + 1075).toNat < 2047) : unpackExponent (pack Format.binary64 (.finite s m e hm)) ≠ -1#_ := by
  have hfield : (e + Format.binary64.exponentBias + Format.binary64.mantissaBitsWithoutImplicit).toNat =
      (e + 1075).toNat := by
    show (e + 1023 + 52).toNat = _
    omega
  have hbound : ¬ 2 ^ Format.binary64.exponentBits ≤ (e + 1075).toNat + 1 := by
    show ¬ 2048 ≤ _
    omega
  rw [pack_finite, hfield, if_neg hbound]
  split <;> rw [unpackExponent_packComponents]
  · intro heq
    have hmod : (e + 1075).toNat % 2048 = 2047 := congrArg BitVec.toNat heq
    omega
  · decide

/-- an exponent field that is not full stays so when a float is unpacked and packed again -/
theorem unpackExponent_pack_unpack {b : BitVec Format.binary64.numBits} (h : unpackExponent b ≠ -1#_) :
    unpackExponent (pack Format.binary64 (unpack Format.binary64 b)) ≠ -1#_ := by
  have hlt : (unpackExponent b).toNat < 2047 := by
    have hwidth : (unpackExponent b).toNat < 2048 := (unpackExponent b).isLt
    have hne : (unpackExponent b).toNat ≠ 2047 := fun heq => h (BitVec.eq_of_toNat_eq heq)
    omega
  have hbias : ((Format.binary64.exponentBias : Int) + Format.binary64.mantissaBitsWithoutImplicit) = 1075 := rfl
  unfold unpack
  dsimp only
  rw [if_neg h]
  by_cases hempty : unpackExponent b = 0#_
  · have hzero : (unpackExponent b).toNat = 0 := congrArg BitVec.toNat hempty
    rw [if_pos hempty]
    by_cases hmantissa : unpackMantissa b = 0#_
    · rw [dif_pos hmantissa, pack_zero, unpackExponent_packComponents]
      decide
    · rw [dif_neg hmantissa]
      exact unpackExponent_pack_finite (by rw [hbias]; omega)
  · rw [if_neg hempty]
    exact unpackExponent_pack_finite (by rw [hbias]; omega)

/-- the exponent field of a number of 64 bits -/
theorem toNat_unpackExponent (b : BitVec 64) :
    (unpackExponent (show BitVec Format.binary64.numBits from b)).toNat = b.toNat / 2 ^ 52 % 2 ^ 11 := by
  show ((BitVec.extractLsb (52 + 11 - 1) 52 b).cast _).toNat = _
  rw [BitVec.toNat_cast, BitVec.extractLsb_toNat, Nat.shiftRight_eq_div_pow]

end Bits

/-- bits below those of infinity, but for the sign, are the bits of a finite float -/
theorem isFinite_ofBits {word : UInt64} (h : word.toNat % 2 ^ 63 < 0x7FF * 2 ^ 52) :
    isFinite (Float.ofBits word) = true := by
  have hnotFull : Float.Model.UnpackedFloat.unpackExponent
      (show BitVec Float.Model.Format.binary64.numBits from word.toBitVec) ≠ -1#_ := by
    intro heq
    have hfull : word.toNat / 2 ^ 52 % 2 ^ 11 = 2047 :=
      (toNat_unpackExponent word.toBitVec).symm.trans (congrArg BitVec.toNat heq)
    omega
  have hkept : (Float.ofBits word).toBits.toNat / 2 ^ 52 % 2 ^ 11 ≠ 2047 := by
    intro heq
    refine unpackExponent_pack_unpack hnotFull (BitVec.eq_of_toNat_eq ?_)
    exact (toNat_unpackExponent (Float.ofBits word).toBits.toBitVec).trans heq
  unfold isFinite magnitudeBits floatBits
  rw [decide_eq_true_eq]
  show (Float.ofBits word).toBits.toNat % 2 ^ 63 < 0x7FF * 2 ^ 52
  omega

theorem isFinite_ofMagnitude {negative : Bool} {bits : Nat} (h : bits < 0x7FF * 2 ^ 52) :
    isFinite (ofMagnitude negative bits) = true := by
  refine isFinite_ofBits ?_
  have hpow : Nat.pow 2 63 = 2 ^ 63 := rfl
  rw [UInt64.toNat_ofNat', hpow]
  split <;> omega

/-! ## Integers as floats -/

theorem roundDiv_le (num den : Nat) : roundDiv num den ≤ num / den + 1 := by
  unfold roundDiv
  simp only
  split <;> omega

theorem floorLog2_one {n : Nat} (h : n ≠ 0) : floorLog2 n 1 = Nat.log2 n := by
  have hreached : 1 * Nat.pow 2 (Nat.log2 n) ≤ n := by
    rw [Nat.one_mul]
    exact Nat.log2_self_le h
  have hlog : ((Nat.log2 n : Nat) : Int) - ((Nat.log2 1 : Nat) : Int) = Nat.log2 n := by
    rw [show Nat.log2 1 = 0 from rfl]
    omega
  unfold floorLog2
  simp only [hlog, Int.toNat_natCast, Int.natCast_nonneg, if_true, hreached]

/-- in units of the last of its first 53 digits, an integer has at most 53 digits -/
theorem div_unit_lt {n unit : Nat} (h : Nat.log2 n < unit + 53) : n / 2 ^ unit < 2 ^ 53 := by
  rw [Nat.div_lt_iff_lt_mul (Nat.two_pow_pos unit), ← Nat.pow_add]
  calc n < 2 ^ (Nat.log2 n + 1) := Nat.lt_log2_self
    _ ≤ 2 ^ (53 + unit) := Nat.pow_le_pow_right (by decide) (by omega)

theorem mul_unit_lt {n unit : Nat} (h : Nat.log2 n + unit < 53) : n * 2 ^ unit < 2 ^ 53 := by
  calc n * 2 ^ unit < 2 ^ (Nat.log2 n + 1) * 2 ^ unit :=
        Nat.mul_lt_mul_of_pos_right Nat.lt_log2_self (Nat.two_pow_pos unit)
    _ = 2 ^ (Nat.log2 n + 1 + unit) := (Nat.pow_add 2 _ _).symm
    _ ≤ 2 ^ 53 := Nat.pow_le_pow_right (by decide) (by omega)

/-- the float nearest to an integer of 64 bits is below infinity -/
theorem nearestBits_lt {n : Nat} (h : n < 2 ^ 64) : nearestBits n 1 < 0x7FF * 2 ^ 52 := by
  unfold nearestBits
  split
  · decide
  · next hzero =>
    have hlog : Nat.log2 n < 64 := (Nat.log2_lt hzero).2 h
    have hunit : max (floorLog2 n 1 - 52) (-1074) = (Nat.log2 n : Int) - 52 := by
      rw [floorLog2_one hzero]
      omega
    simp only [hunit]
    refine Nat.lt_of_le_of_lt (Nat.min_le_left _ _) ?_
    show _ * 2 ^ 52 + _ < 0x7FF * 2 ^ 52
    split
    · have hround := roundDiv_le n (1 * 2 ^ ((Nat.log2 n : Int) - 52).toNat)
      have hdigits := div_unit_lt (show Nat.log2 n < ((Nat.log2 n : Int) - 52).toNat + 53 by omega)
      rw [Nat.one_mul] at hround
      show _ + roundDiv n (1 * 2 ^ ((Nat.log2 n : Int) - 52).toNat) < _
      rw [Nat.one_mul]
      omega
    · have hround := roundDiv_le (n * 2 ^ (-((Nat.log2 n : Int) - 52)).toNat) 1
      have hdigits := mul_unit_lt (show Nat.log2 n + (-((Nat.log2 n : Int) - 52)).toNat < 53 by omega)
      rw [Nat.div_one] at hround
      show _ + roundDiv (n * 2 ^ (-((Nat.log2 n : Int) - 52)).toNat) 1 < _
      omega

theorem isFinite_nearestInt {n : Int} (h : n.natAbs < 2 ^ 64) : isFinite (nearestInt n) = true :=
  isFinite_ofMagnitude (nearestBits_lt h)

/-! ## Numbers of JSON values -/

/-- a number that JSON values hold: an integer of 64 bits, with a sign or without one, or a finite float -/
def Number.Fits : Number → Prop
  | .int n => -Int.pow 2 63 ≤ n ∧ n < Int.pow 2 64
  | .float x => isFinite x = true

instance : (n : Number) → Decidable n.Fits
  | .int n => inferInstanceAs (Decidable (-Int.pow 2 63 ≤ n ∧ n < Int.pow 2 64))
  | .float x => inferInstanceAs (Decidable (isFinite x = true))

theorem Number.isFinite_toFloat {n : Number} (h : n.Fits) : isFinite n.toFloat = true := by
  cases n with
  | int n =>
    have hlow : -2 ^ 63 ≤ n := h.1
    have hhigh : n < 2 ^ 64 := h.2
    exact isFinite_nearestInt (by omega)
  | float x => exact h

namespace Json

/-- all numbers, at every depth, are those that JSON values hold -/
inductive Fits : Json → Prop where
  | null : Fits .null
  | bool (b : Bool) : Fits (.bool b)
  | num {n : Number} (h : n.Fits) : Fits (.num n)
  | str (s : String) : Fits (.str s)
  | arr {items : List Json} (h : ∀ v ∈ items, Fits v) : Fits (.arr items)
  | obj {fields : Document} (h : ∀ f ∈ fields, Fits f.2) : Fits (.obj fields)

theorem Fits.items {items : List Json} (h : (Json.arr items).Fits) : ∀ v ∈ items, v.Fits := by
  cases h with
  | arr h => exact h

theorem isFinite_of_float? {v : Json} {x : Float} (hv : v.Fits) (h : v.float? = some x) : isFinite x = true := by
  cases hv with
  | num hn =>
    rw [← Option.some.inj h]
    exact Number.isFinite_toFloat hn
  | _ => cases h

theorem float?_float {x : Float} (h : isFinite x = true) : (float x).float? = some x := by
  rw [float, if_pos h]
  rfl

end Json

namespace Payload

/-- the declared fields of a payload are parts of it -/
theorem fits_of_record? {declared : List (List String)} {v part : Json} {parts : List (Option Json)} (hv : v.Fits)
    (h : record? declared v = some parts) (hpart : some part ∈ parts) : part.Fits := by
  cases hv with
  | obj hfields =>
    obtain ⟨names, -, hpick⟩ := mem_of_mapM h hpart
    obtain ⟨name, -, hfind⟩ := find?_of_pick? hpick
    exact hfields _ (Document.find?_mem hfind)
  | @arr items hitems =>
    rw [record?, tuple?] at h
    split at h
    · cases h
      rcases List.mem_append.1 hpart with hpart | hpart
      · obtain ⟨item, hitem, heq⟩ := List.mem_map.1 hpart
        cases heq
        exact hitems _ hitem
      · exact absurd (List.eq_of_mem_replicate hpart) (by simp)
    · cases h
  | _ => cases h

end Payload

end DocumentQuery
