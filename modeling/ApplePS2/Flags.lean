import Mathlib.Init

/- Bits of a byte that are chosen by a mask.

   1. `and_kept`, `and_cleared`, `or_kept`, `or_set`: what a mask leaves of a flag.
   2. `shifted_le`: the number in some bits has the range of their mask. -/
namespace Flags

variable {m g : UInt8}

theorem or_and_right (a b c : UInt8) : (a ||| b) &&& c = a &&& c ||| b &&& c :=
  UInt8.toBitVec_inj.mp BitVec.and_or_distrib_right

theorem and_or_self (a b : UInt8) : a &&& b ||| b = b := by
  apply UInt8.toBitVec_inj.mp
  ext i hi
  simp

theorem and_kept (h : m &&& g = g) (state : UInt8) : state &&& m &&& g = state &&& g := by
  rw [UInt8.and_assoc, h]

theorem and_cleared (h : m &&& g = 0) (state : UInt8) : state &&& m &&& g = 0 := by
  rw [UInt8.and_assoc, h, UInt8.and_zero]

theorem or_kept (h : m &&& g = 0) (state : UInt8) : (state ||| m) &&& g = state &&& g := by
  rw [or_and_right, h, UInt8.or_zero]

/-- The flag is set whatever it was. -/
theorem or_and (h : m &&& g = g) (state : UInt8) : (state ||| m) &&& g = g := by
  rw [or_and_right, h, and_or_self]

theorem or_set (h : m &&& g = g) (hg : g ≠ 0) (state : UInt8) : (state ||| m) &&& g ≠ 0 := by
  rw [or_and h]
  exact hg

theorem shifted_le (b m k : UInt8) : (b &&& m) >>> k ≤ m >>> k := by
  have hle : (b &&& m).toNat ≤ m.toNat := UInt8.le_iff_toNat_le.mp UInt8.and_le_right
  rw [UInt8.le_iff_toNat_le, UInt8.toNat_shiftRight, UInt8.toNat_shiftRight,
    Nat.shiftRight_eq_div_pow, Nat.shiftRight_eq_div_pow]
  exact Nat.div_le_div_right hle

end Flags
