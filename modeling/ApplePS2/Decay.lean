import Mathlib.Data.Rat.Floor

/- Numbers that decay: each one lies between zero and the one before. And the products
   with a factor that are rounded and stored as a short.

   1. `Towards.of_monotone`, `Towards.of_antitone`: which functions keep a decay.
   2. `Rounding.product_towards`: so do the rounded products, and those of the later
      numbers fit a short if that of the first one does. -/
namespace Decay

/-- `b` lies between zero and `a`. -/
def Towards {α : Type} [Zero α] [LE α] (a b : α) : Prop := 0 ≤ b ∧ b ≤ a ∨ a ≤ b ∧ b ≤ 0

namespace Towards

variable {α β : Type} [Zero α] [Zero β] [LinearOrder α] [LinearOrder β]

protected theorem refl (a : α) : Towards a a := by
  obtain h | h := le_total 0 a
  · exact .inl ⟨h, le_refl a⟩
  · exact .inr ⟨le_refl a, h⟩

theorem zero_right (a : α) : Towards a 0 := by
  obtain h | h := le_total 0 a
  · exact .inl ⟨le_refl 0, h⟩
  · exact .inr ⟨h, le_refl 0⟩

theorem eq_zero {a : α} (h : Towards 0 a) : a = 0 := by
  obtain ⟨h₀, h₁⟩ | ⟨h₀, h₁⟩ := h
  · exact le_antisymm h₁ h₀
  · exact le_antisymm h₁ h₀

protected theorem trans {a b c : α} (h : Towards a b) (h' : Towards b c) : Towards a c := by
  obtain ⟨hb, hba⟩ | ⟨hab, hb⟩ := h
  · obtain ⟨hc, hcb⟩ | ⟨hbc, hc⟩ := h'
    · exact .inl ⟨hc, hcb.trans hba⟩
    · exact .inl ⟨hb.trans hbc, hc.trans (hb.trans hba)⟩
  · obtain ⟨hc, hcb⟩ | ⟨hbc, hc⟩ := h'
    · exact .inr ⟨(hab.trans hb).trans hc, hcb.trans hb⟩
    · exact .inr ⟨hab.trans hbc, hc⟩

theorem of_monotone {f : α → β} (hf : Monotone f) (h₀ : f 0 = 0) {a b : α} (h : Towards a b) :
    Towards (f a) (f b) := by
  unfold Towards
  rw [← h₀]
  exact h.imp (fun h => ⟨hf h.1, hf h.2⟩) fun h => ⟨hf h.1, hf h.2⟩

theorem of_antitone {f : α → β} (hf : Antitone f) (h₀ : f 0 = 0) {a b : α} (h : Towards a b) :
    Towards (f a) (f b) := by
  unfold Towards
  rw [← h₀]
  exact h.symm.imp (fun h => ⟨hf h.2, hf h.1⟩) fun h => ⟨hf h.2, hf h.1⟩

end Towards

/-- On integers: the magnitude does not grow, and the sign is the same or zero. -/
theorem towards_iff (a b : Int) : Towards a b ↔ b.natAbs ≤ a.natAbs ∧ (b = 0 ∨ b.sign = a.sign) := by
  unfold Towards
  constructor
  · rintro (⟨hb, hle⟩ | ⟨hle, hb⟩)
    · refine ⟨by omega, ?_⟩
      obtain rfl | hpos := hb.eq_or_lt
      · exact .inl rfl
      · exact .inr ((Int.sign_eq_one_of_pos hpos).trans (Int.sign_eq_one_of_pos (by omega)).symm)
    · refine ⟨by omega, ?_⟩
      obtain rfl | hneg := hb.eq_or_lt
      · exact .inl rfl
      · exact .inr ((Int.sign_eq_neg_one_of_neg hneg).trans (Int.sign_eq_neg_one_of_neg (by omega)).symm)
  · rintro ⟨hle, rfl | hsign⟩
    · omega
    · obtain hneg | rfl | hpos := lt_trichotomy b 0
      · rw [Int.sign_eq_neg_one_of_neg hneg] at hsign
        have ha : a < 0 := Int.sign_eq_neg_one_iff_neg.mp hsign.symm
        omega
      · omega
      · rw [Int.sign_eq_one_of_pos hpos] at hsign
        have ha : 0 < a := Int.sign_eq_one_iff_pos.mp hsign.symm
        omega

/-- The conversion to an integer, which drops the fraction. -/
def trunc (q : ℚ) : Int := if 0 ≤ q then ⌊q⌋ else ⌈q⌉

theorem trunc_zero : trunc 0 = 0 := by
  unfold trunc
  rw [if_pos (le_refl 0), Int.floor_zero]

theorem trunc_le_trunc {p q : ℚ} (h : p ≤ q) : trunc p ≤ trunc q := by
  unfold trunc
  by_cases hp : 0 ≤ p
  · rw [if_pos hp, if_pos (hp.trans h)]
    exact Int.floor_mono h
  · rw [if_neg hp]
    by_cases hq : 0 ≤ q
    · rw [if_pos hq]
      have hceil : ⌈p⌉ ≤ 0 := Int.ceil_le.mpr (by simpa using (not_le.mp hp).le)
      exact hceil.trans (Int.floor_nonneg.mpr hq)
    · rw [if_neg hq]
      exact Int.ceil_mono h

/-- The conversion to a short, which is undefined if the value does not fit. -/
def toShort (q : ℚ) : Option Int := if -32768 ≤ trunc q ∧ trunc q ≤ 32767 then some (trunc q) else none

/-- A rounding to the numbers of a format. -/
structure Rounding where
  round : ℚ → ℚ
  mono : Monotone round
  zero : round 0 = 0

namespace Rounding

/-- Every number is one of the format's. -/
def exact : Rounding := { round := id, mono := monotone_id, zero := rfl }

variable (R : Rounding)

/-- A part of the product with a factor, each of the two rounded. -/
def product (factor : ℚ) (parts : Nat) (d : Int) : ℚ := R.round (R.round (d * factor) / parts)

theorem product_zero (factor : ℚ) (parts : Nat) : R.product factor parts 0 = 0 := by
  unfold product
  rw [Int.cast_zero, zero_mul, R.zero, zero_div, R.zero]

theorem towards_product (factor : ℚ) (parts : Nat) {a b : Int} (h : Towards a b) :
    Towards (R.product factor parts a) (R.product factor parts b) := by
  have hparts : (0 : ℚ) ≤ parts := Nat.cast_nonneg parts
  obtain hfactor | hfactor := le_total 0 factor
  · refine h.of_monotone (fun p q hpq => ?_) (R.product_zero factor parts)
    have hcast : (p : ℚ) ≤ q := Int.cast_le.mpr hpq
    exact R.mono (div_le_div_of_nonneg_right (R.mono (mul_le_mul_of_nonneg_right hcast hfactor)) hparts)
  · refine h.of_antitone (fun p q hpq => ?_) (R.product_zero factor parts)
    have hcast : (p : ℚ) ≤ q := Int.cast_le.mpr hpq
    exact R.mono (div_le_div_of_nonneg_right (R.mono (mul_le_mul_of_nonpos_right hcast hfactor)) hparts)

/-- The product as a short. -/
def amount (factor : ℚ) (parts : Nat) (d : Int) : Option Int := toShort (R.product factor parts d)

theorem amount_zero (factor : ℚ) (parts : Nat) : R.amount factor parts 0 = some 0 := by
  unfold amount toShort
  rw [product_zero, trunc_zero]
  rfl

theorem amount_towards (factor : ℚ) (parts : Nat) {a b x : Int} (h : Towards a b)
    (hx : R.amount factor parts a = some x) : ∃ y, R.amount factor parts b = some y ∧ Towards x y := by
  have hproducts := (R.towards_product factor parts h).of_monotone (fun _ _ => trunc_le_trunc) trunc_zero
  unfold amount toShort at hx ⊢
  split at hx
  · next hfits =>
    cases hx
    refine ⟨_, if_pos ?_, hproducts⟩
    unfold Towards at hproducts
    omega
  · cases hx

end Rounding
end Decay
