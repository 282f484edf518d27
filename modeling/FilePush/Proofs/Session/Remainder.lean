import FilePush.Checksum
import Mathlib.Algebra.CharP.Two
import Mathlib.Algebra.Field.ZMod
import Mathlib.Algebra.Polynomial.FieldDivision
import Mathlib.RingTheory.AdjoinRoot
import Mathlib.Tactic.ComputeDegree

/-!
# The CRC-32 as a remainder

The CRC-32 of a message is defined by a division of binary polynomials.  The bits of the message,
the least significant bit of each byte first, are the coefficients of a polynomial, and so are the
bits of the checksum; the first 32 bits and the remainder are complemented.  Shifting a bit out of
the register multiplies its polynomial by `X` up to a multiple of the generator, so the register
always holds the remainder for the bytes that it has taken in, and the computed checksum is the only
word that meets the definition.
-/

namespace FilePush

namespace Checksum

open Polynomial

/-- A bit as a binary polynomial. -/
noncomputable def ofBit (bit : Bool) : (ZMod 2)[X] := if bit then 1 else 0

/--
The binary polynomial whose coefficients are so many bits of a number; the least significant bit
belongs to the highest power.
-/
noncomputable def ofBits : (width value : Nat) → (ZMod 2)[X]
  | 0, _ => 0
  | width + 1, value => X * ofBits width value + ofBit (value.testBit width)

/-- The polynomial of a message: its bytes one after another. -/
noncomputable def message (bytes : Bytes) : (ZMod 2)[X] :=
  bytes.foldl (fun front byte => X ^ 8 * front + ofBits 8 byte.toNat) 0

/-- The polynomial whose coefficients are 32 ones. -/
noncomputable def ones : (ZMod 2)[X] := ofBits 32 0xFFFFFFFF

/-- The polynomial by which messages are divided. -/
noncomputable def generator : (ZMod 2)[X] :=
  X ^ 32 + X ^ 26 + X ^ 23 + X ^ 22 + X ^ 16 + X ^ 12 + X ^ 11 + X ^ 10 + X ^ 8 + X ^ 7 + X ^ 5 +
    X ^ 4 + X ^ 2 + X + 1

/--
A word is the CRC-32 of a message if it is the complement of the remainder of the message, its first
32 bits complemented, times `X ^ 32`.
-/
def IsCrc32 (bytes : Bytes) (word : UInt32) : Prop :=
  ofBits 32 word.toNat =
    (X ^ (8 * bytes.length) * ones + X ^ 32 * message bytes) % generator + ones

theorem ofBit_xor (left right : Bool) : ofBit (left ^^ right) = ofBit left + ofBit right := by
  cases left with
  | false => simp [ofBit]
  | true =>
      cases right with
      | false => simp [ofBit]
      | true => simp [ofBit, CharTwo.add_self_eq_zero]

theorem ofBits_xor (width left right : Nat) :
    ofBits width (left ^^^ right) = ofBits width left + ofBits width right := by
  induction width with
  | zero => simp [ofBits]
  | succ width induction =>
      rw [ofBits, ofBits, ofBits, induction, Nat.testBit_xor, ofBit_xor]
      ring

/-- The least significant bit belongs to the highest power. -/
theorem ofBits_succ (width value : Nat) :
    ofBits (width + 1) value = ofBit (value.testBit 0) * X ^ width + ofBits width (value / 2) := by
  induction width with
  | zero => simp [ofBits]
  | succ width induction =>
      rw [ofBits, induction, ofBits, Nat.testBit_div_two]
      ring

/-- Bits that a number does not have are zero. -/
theorem ofBits_add {width value : Nat} (more : Nat) (fits : value < 2 ^ width) :
    ofBits (width + more) value = X ^ more * ofBits width value := by
  induction more with
  | zero => simp
  | succ more induction =>
      have small : value < 2 ^ (width + more) :=
        Nat.lt_of_lt_of_le fits (Nat.pow_le_pow_right (by decide) (Nat.le_add_right _ _))
      rw [← Nat.add_assoc, ofBits, induction, Nat.testBit_lt_two_pow small, ofBit]
      simp only [Bool.false_eq_true, if_false]
      ring

theorem coeff_ofBits_of_le {width power : Nat} (value : Nat) (high : width ≤ power) :
    (ofBits width value).coeff power = 0 := by
  induction width generalizing power with
  | zero => simp [ofBits]
  | succ width induction =>
      obtain ⟨power, rfl⟩ := Nat.exists_eq_add_of_le' high
      have last : (ofBit (value.testBit width)).coeff (power + width + 1) = 0 := by
        rw [ofBit]
        split
        · rw [coeff_one, if_neg (Nat.succ_ne_zero _)]
        · rw [coeff_zero]
      rw [ofBits, coeff_add, ← Nat.add_assoc, coeff_X_mul, last, add_zero]
      exact induction (Nat.le_add_left _ _)

theorem degree_ofBits_lt (width value : Nat) : (ofBits width value).degree < width :=
  (degree_lt_iff_coeff_zero _ _).mpr fun _ high => coeff_ofBits_of_le value high

theorem eq_of_coeff_ofBit {left right : Bool}
    (same : (ofBit left).coeff 0 = (ofBit right).coeff 0) : left = right := by
  cases left with
  | false =>
      cases right with
      | false => rfl
      | true => simp [ofBit] at same
  | true =>
      cases right with
      | false => simp [ofBit] at same
      | true => rfl

/-- The bits of a number can be read off its polynomial. -/
theorem testBit_eq_of_ofBits {width left right : Nat}
    (same : ofBits width left = ofBits width right) {index : Nat} (inside : index < width) :
    left.testBit index = right.testBit index := by
  induction width with
  | zero => exact absurd inside (Nat.not_lt_zero _)
  | succ width induction =>
      rw [ofBits, ofBits] at same
      have last : left.testBit width = right.testBit width := by
        have constant := congrArg (coeff · 0) same
        simp only [coeff_add, mul_coeff_zero, coeff_X_zero, zero_mul, zero_add] at constant
        exact eq_of_coeff_ofBit constant
      rw [last] at same
      rcases Nat.lt_succ_iff_lt_or_eq.mp inside with before | rfl
      · exact induction (mul_left_cancel₀ X_ne_zero (add_right_cancel same)) before
      · exact last

theorem ofBits_injective {width left right : Nat} (left_fits : left < 2 ^ width)
    (right_fits : right < 2 ^ width) (same : ofBits width left = ofBits width right) :
    left = right := by
  apply Nat.eq_of_testBit_eq
  intro index
  by_cases inside : index < width
  · exact testBit_eq_of_ofBits same inside
  · have beyond : 2 ^ width ≤ 2 ^ index :=
      Nat.pow_le_pow_right (by decide) (Nat.le_of_not_lt inside)
    rw [Nat.testBit_lt_two_pow (Nat.lt_of_lt_of_le left_fits beyond),
      Nat.testBit_lt_two_pow (Nat.lt_of_lt_of_le right_fits beyond)]

/-- The constant of the register is the generator without its highest power, bits reversed. -/
theorem generator_eq : X ^ 32 + ofBits 32 0xEDB88320 = generator := by
  simp [ofBits, ofBit, generator, Nat.testBit_eq_decide_div_mod_eq]
  ring

theorem degree_generator : generator.degree = 32 := by
  rw [generator]
  compute_degree!

/-- A polynomial up to multiples of the generator. -/
noncomputable def residue : (ZMod 2)[X] →+* AdjoinRoot generator := AdjoinRoot.mk generator

theorem residue_constant : residue (ofBits 32 0xEDB88320) = residue (X ^ 32) := by
  refine AdjoinRoot.mk_eq_mk.mpr ?_
  rw [CharTwo.sub_eq_add, add_comm, generator_eq]

/-- Shifting a bit out of the register multiplies its polynomial by `X`. -/
theorem residue_shiftBit (register : UInt32) :
    residue (ofBits 32 (shiftBit register).toNat) =
      residue X * residue (ofBits 32 register.toNat) := by
  have half : (register >>> 1).toNat = register.toNat / 2 := by
    rw [UInt32.toNat_shiftRight]
    exact Nat.shiftRight_one _
  have low : register &&& 1 = 1 ↔ register.toNat.testBit 0 = true := by
    rw [← UInt32.toNat_inj, UInt32.toNat_and, Nat.testBit_zero, decide_eq_true_eq,
      ← Nat.and_one_is_mod]
    rfl
  have shifted : X * ofBits 32 register.toNat =
      ofBit (register.toNat.testBit 0) * X ^ 32 + ofBits 32 (register.toNat / 2) := by
    rw [← ofBits_succ, ofBits_add 1 register.toNat_lt, pow_one]
  rw [shiftBit, ← map_mul, shifted]
  -- The bit that is shifted out belongs to `X ^ 32`, for which the constant stands.
  by_cases set : register.toNat.testBit 0 = true
  · have constant : (0xEDB88320 : UInt32).toNat = 0xEDB88320 := rfl
    rw [if_pos (low.mpr set), UInt32.toNat_xor, half, ofBits_xor, constant, map_add,
      residue_constant, set, ofBit, if_pos rfl, one_mul, map_add, add_comm]
  · rw [if_neg (mt low.mp set), half, ofBit, if_neg set, zero_mul, zero_add]

/-- A byte that is taken in stands after the bytes before it. -/
theorem residue_step (register : UInt32) (byte : UInt8) :
    residue (ofBits 32 (step register byte).toNat) =
      residue X ^ 8 * residue (ofBits 32 register.toNat) +
        residue X ^ 32 * residue (ofBits 8 byte.toNat) := by
  have widened : ofBits 32 byte.toNat = X ^ 24 * ofBits 8 byte.toNat :=
    ofBits_add 24 byte.toNat_lt
  simp only [step, residue_shiftBit, UInt32.toNat_xor, UInt8.toNat_toUInt32, ofBits_xor, widened,
    map_add, map_mul, map_pow]
  ring

theorem message_concat (front : Bytes) (byte : UInt8) :
    message (front ++ [byte]) = X ^ 8 * message front + ofBits 8 byte.toNat := by
  simp [message]

/-- The register holds what it held before, with the bytes that it took in after it. -/
theorem residue_foldl_step (register : UInt32) (bytes : Bytes) :
    residue (ofBits 32 (bytes.foldl step register).toNat) =
      residue X ^ (8 * bytes.length) * residue (ofBits 32 register.toNat) +
        residue X ^ 32 * residue (message bytes) := by
  induction bytes using List.reverseRecOn with
  | nil => simp [message]
  | append_singleton front byte induction =>
      rw [List.foldl_concat, residue_step, induction, message_concat, List.length_append,
        List.length_singleton]
      simp only [map_add, map_mul, map_pow]
      ring

/-- The register ends with the remainder of the message. -/
theorem ofBits_register (bytes : Bytes) :
    ofBits 32 (initial.update bytes).register.toNat =
      (X ^ (8 * bytes.length) * ones + X ^ 32 * message bytes) % generator := by
  have reduced : (ofBits 32 (initial.update bytes).register.toNat).degree < generator.degree := by
    rw [degree_generator]
    exact degree_ofBits_lt 32 _
  have generator_ne : generator ≠ 0 := by
    intro zero
    simp [zero] at reduced
  have full : initial.register.toNat = 0xFFFFFFFF := rfl
  have same := residue_foldl_step initial.register bytes
  rw [full, ← ones, ← map_pow, ← map_pow, ← map_mul, ← map_mul, ← map_add] at same
  rw [← (mod_eq_self_iff generator_ne).mpr reduced]
  exact mod_eq_of_dvd_sub (AdjoinRoot.mk_eq_mk.mp same)

/-- The checksum that is computed is the CRC-32, and no other word is. -/
theorem isCrc32_iff (bytes : Bytes) (word : UInt32) :
    IsCrc32 bytes word ↔ word = ofBytes bytes := by
  have computed : IsCrc32 bytes (ofBytes bytes) := by
    have full : (0xFFFFFFFF : UInt32).toNat = 0xFFFFFFFF := rfl
    rw [IsCrc32, ← ofBits_register, ofBytes, value, UInt32.toNat_xor, ofBits_xor, full, ones]
  constructor
  · intro defined
    exact UInt32.toNat_inj.mp
      (ofBits_injective word.toNat_lt (ofBytes bytes).toNat_lt (defined.trans computed.symm))
  · rintro rfl
    exact computed

-- The check value of the checksum: the digits from 1 to 9.
example : ofBytes [49, 50, 51, 52, 53, 54, 55, 56, 57] = 0xCBF43926 := by decide +kernel

end Checksum

end FilePush
