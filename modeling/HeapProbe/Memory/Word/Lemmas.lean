import HeapProbe.Memory.Word
import HeapProbe.Text.Numeral
import Mathlib.Algebra.Ring.Int.Defs
import Mathlib.Algebra.Ring.Nat

/-! # The range of words

Bytes decode to a number that fits into as many bytes, and a number that fits is decoded from its
encoding, in either byte order. What fits into a word can also be written in base ten.
-/

namespace HeapProbe

namespace Word

theorem ofBytes_lt (bytes : List UInt8) : ofBytes bytes < 256 ^ bytes.length := by
  induction bytes with
  | nil => simp [ofBytes]
  | cons b rest ih =>
    have hb : b.toNat < 256 := b.toNat_lt
    simp only [ofBytes, List.length_cons, Nat.pow_succ]
    omega

theorem ofBytes_toBytes (width n : Nat) : ofBytes (toBytes width n) = n % 256 ^ width := by
  induction width generalizing n with
  | zero => simp [toBytes, ofBytes, Nat.mod_one]
  | succ width ih =>
    have hn : n % 2 ^ 8 = n % 256 := rfl
    rw [toBytes, ofBytes, ih, UInt8.toNat_ofNat', hn, Nat.pow_succ, Nat.mul_comm (256 ^ width),
      Nat.mod_mul]

end Word

namespace ByteOrder

theorem decode_lt (order : ByteOrder) (bytes : List UInt8) :
    order.decode bytes < 256 ^ bytes.length := by
  cases order with
  | little => exact Word.ofBytes_lt bytes
  | big => simpa [decode] using Word.ofBytes_lt bytes.reverse

theorem decode_encode (order : ByteOrder) {width n : Nat} (h : n < 256 ^ width) :
    order.decode (order.encode width n) = n := by
  cases order <;> simp [decode, encode, Word.ofBytes_toBytes, Nat.mod_eq_of_lt h]

end ByteOrder

theorem hasNumeral_iff {n : Int} : hasNumeral n ↔ n.natAbs < 10 ^ maxDecimalDigits := by
  rw [hasNumeral, decide_eq_true_iff]
  exact Nat.length_toDigits_le_iff (by decide) (by decide)

theorem hasNumeral_of_lt {n : Int} (h0 : 0 ≤ n) (h : n < 10 ^ 39) : hasNumeral n := by
  rw [hasNumeral_iff]
  have hpow : 10 ^ 39 ≤ 10 ^ maxDecimalDigits := Nat.pow_le_pow_right (by decide) (by decide)
  omega

theorem hasNumeral_neg_pow {digits : Nat} (h : maxDecimalDigits ≤ digits) :
    hasNumeral (-(10 ^ digits)) = false := by
  rw [Bool.eq_false_iff, Ne, hasNumeral_iff, Int.natAbs_neg, Int.natAbs_pow]
  exact Nat.not_lt.2 (Nat.pow_le_pow_right (by decide) h)

/-- The numbers that fit into a word of memory. -/
def IsWord (n : Int) : Prop := 0 ≤ n ∧ n < 2 ^ 64

namespace IsWord

variable {n : Int}

theorem hasNumeral (h : IsWord n) : hasNumeral n := by
  obtain ⟨h0, hlt⟩ := h
  exact hasNumeral_of_lt h0 (by omega)

end IsWord

end HeapProbe
