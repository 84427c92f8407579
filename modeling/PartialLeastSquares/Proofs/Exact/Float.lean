/-
# Numbers of a setting, exactly

A setting is a float or an integer of any size.  What a float stands for is read off its bits
(`Binary.ofBits?`), while floats are compared by their fields, unpacked.  Both take the bits apart
in the same way (`Binary.ofFloat?_eq`), so a float is greater than zero when the number that it
stands for is (`Scalar.ofFloat_pos_iff`).

A setting may also be infinite.  So the numbers of settings are read among the extended real numbers
(`Number.extended?`), where only what is undefined stands for nothing.
-/
import Mathlib
import PartialLeastSquares.Proofs.Exact.Scalar

namespace PartialLeastSquares

open Float.Model Float.Model.UnpackedFloat

/-! ## 1. The fields of a float -/

namespace Decimal.Binary

/-- The fields of an unpacked float, nothing for an infinity or a NaN. -/
def ofUnpacked? : UnpackedFloat → Option Binary
  | .finite s m e _ => some ⟨s == .negative, m, e⟩
  | .zero s => some ⟨s == .negative, 0, -1074⟩
  | _ => none

section Bits

variable (b : BitVec Format.binary64.numBits)

theorem toNat_unpackExponent :
    (unpackExponent b).toNat = b.toNat / Nat.pow 2 52 % Nat.pow 2 11 := by
  rw [unpackExponent_def, BitVec.extractLsb'_toNat, Nat.shiftRight_eq_div_pow]
  rfl

theorem toNat_unpackMantissa : (unpackMantissa b).toNat = b.toNat % Nat.pow 2 52 := by
  rw [unpackMantissa_def, BitVec.extractLsb'_toNat, Nat.shiftRight_zero]
  rfl

theorem toNat_unpackSign : (unpackSign b).toNat = b.toNat / Nat.pow 2 63 % 2 := by
  rw [unpackSign_def, BitVec.extractLsb'_toNat, Nat.shiftRight_eq_div_pow]
  rfl

theorem ofBitVec_beq_negative (s : BitVec 1) :
    (Sign.ofBitVec s == .negative) = decide (1 ≤ s.toNat) := by
  decide +revert

theorem toNat_one_append (m : BitVec 52) : (1#1 ++ m).toNat = m.toNat + Nat.pow 2 52 := by
  rw [BitVec.toNat_append, Nat.shiftLeft_eq_mul_pow, BitVec.toNat_ofNat, Nat.add_comm]
  exact (Nat.two_pow_add_eq_or_of_lt m.isLt 1).symm

/-- **The fields of the bits are the fields unpacked.** -/
theorem ofBits?_eq : ofBits? b.toNat = ofUnpacked? (UnpackedFloat.unpack .binary64 b) := by
  have hexponent : (unpackExponent b).toNat = 2047 ↔ unpackExponent b = -1#_ :=
    BitVec.toNat_inj (y := -1#11)
  have hzero : (unpackExponent b).toNat = 0 ↔ unpackExponent b = 0#_ :=
    BitVec.toNat_inj (y := 0#11)
  unfold ofBits?
  simp only [← toNat_unpackExponent, ← toNat_unpackMantissa, ← toNat_unpackSign,
    ← ofBitVec_beq_negative, hexponent, hzero]
  unfold UnpackedFloat.unpack
  dsimp only
  split
  · split <;> rfl
  · split
    · rename_i he
      split
      · rename_i hm
        simp [ofUnpacked?, hm]
      · simp [ofUnpacked?, he, Format.exponentBias]
    · rw [← toNat_one_append]
      rfl

end Bits

theorem ofFloat?_eq (x : Float) : ofFloat? x = ofUnpacked? x.toModel.unpack :=
  ofBits?_eq x.toModel.toBits.toBitVec

theorem fraction_pos {b : Binary} (h : 0 < b.mantissa) :
    (0 : ℝ) < b.fraction.1 / b.fraction.2 := by
  refine div_pos (Nat.cast_pos.mpr ?_) (Nat.cast_pos.mpr b.fraction_den_pos)
  unfold fraction
  split
  · exact Nat.mul_pos h (Nat.pow_pos (by decide))
  · exact h

end Decimal.Binary

/-! ## 2. The sign of a float -/

theorem unpack_ofInt_zero : (Float.ofInt 0).toModel.unpack = .zero .positive := rfl

/-- Whether a float is greater than zero is a question about its fields. -/
theorem ofInt_zero_lt_iff {x : Float} : Float.ofInt 0 < x ↔
    (UnpackedFloat.zero .positive).compare x.toModel.unpack = some .lt := by
  rw [← unpack_ofInt_zero]
  exact decide_eq_true_iff.trans beq_iff_eq

theorem Scalar.ofFloat_real {x : Float} {b : Decimal.Binary}
    (h : Decimal.Binary.ofFloat? x = some b) :
    (ofFloat x : ℝ) = (if b.negative then -1 else 1) * (b.fraction.1 / b.fraction.2) := by
  simp only [ofFloat, Number.ratio?, h, Option.map_some]
  cases b.negative with
  | false => simp
  | true => simp [neg_div]

/-- **What a finite float stands for is positive** if the float is greater than zero. -/
theorem Scalar.ofFloat_pos_iff {x : Float} (h : x.isFinite = true) :
    (0 : ℝ) < ofFloat x ↔ Float.ofInt 0 < x := by
  have hfinite : x.toModel.unpack.isFinite = true := h
  have hfields := Decimal.Binary.ofFloat?_eq x
  rw [ofInt_zero_lt_iff]
  cases hx : x.toModel.unpack with
  | infinity s => rw [hx] at hfinite; cases hfinite
  | notANumber => rw [hx] at hfinite; cases hfinite
  | zero s =>
    rw [hx] at hfields
    rw [ofFloat_real hfields]
    have hzero : (Decimal.Binary.mk (s == .negative) 0 (-1074)).fraction.1 = 0 := rfl
    rw [hzero, Nat.cast_zero, zero_div, mul_zero]
    exact iff_of_false (lt_irrefl _) (by cases s <;> exact nofun)
  | finite s m e hm =>
    rw [hx] at hfields
    rw [ofFloat_real hfields]
    have hpos := Decimal.Binary.fraction_pos (b := ⟨s == .negative, m, e⟩) hm
    cases s with
    | negative =>
      refine iff_of_false (not_lt.mpr ?_) nofun
      show (-1 : ℝ) * _ ≤ 0
      rw [neg_one_mul]
      exact (neg_neg_of_pos hpos).le
    | positive =>
      refine iff_of_true ?_ rfl
      show (0 : ℝ) < 1 * _
      rw [one_mul]
      exact hpos

/-! ## 3. Extended real numbers -/

/-- **The extended real number that a number stands for,** none if it is undefined. -/
noncomputable def Number.extended? : Number → Option EReal
  | .whole n => some ((n : ℝ) : EReal)
  | .real x =>
    if x.isFinite then some ((Scalar.ofFloat x : ℝ) : EReal)
    else if Float.ofInt 0 < x then some ⊤
    else if x < Float.ofInt 0 then some ⊥
    else none

/-- The extended real number that a value stands for, none if it is no number. -/
noncomputable def Value.extended? (v : Value) : Option EReal := v.number?.bind Number.extended?

/-- **A number is accepted as positive** if it stands for an extended real number greater than
zero. -/
theorem Number.above_zero_iff {a : Number} :
    a.above 0 = true ↔ ∃ τ, a.extended? = some τ ∧ 0 < τ := by
  cases a with
  | whole n =>
    have hcast : (0 : EReal) < ((n : ℝ) : EReal) ↔ 0 < n := by
      rw [EReal.coe_pos, Int.cast_pos]
    simp [above, extended?, hcast]
  | real x =>
    unfold extended? above
    dsimp only
    rw [decide_eq_true_iff]
    by_cases hfinite : x.isFinite = true
    · simp [hfinite, ← Scalar.ofFloat_pos_iff hfinite]
    · rw [if_neg hfinite]
      by_cases hpos : Float.ofInt 0 < x
      · simp [hpos]
      · rw [if_neg hpos]
        refine iff_of_false hpos ?_
        rintro ⟨τ, hτ, hlt⟩
        split at hτ
        · rw [← Option.some.inj hτ] at hlt
          exact not_lt_bot hlt
        · cases hτ

end PartialLeastSquares
