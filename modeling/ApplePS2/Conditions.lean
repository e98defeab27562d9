/- Conditions whose parts may fault, evaluated from the left as `&&` and `||` are: a part
   is evaluated only if the parts before it do not decide. `none` is a fault.

   1. `both_some`, `either_some`: without a fault they are the operations on `Bool`.
   2. `either_if`: two parts of which each may only fault. -/
namespace Conditions

/-- `x && y` -/
def both (x y : Option Bool) : Option Bool := x.bind fun b => if b then y else some false

/-- `x || y` -/
def either (x y : Option Bool) : Option Bool := x.bind fun b => if b then some true else y

@[simp] theorem both_some (a b : Bool) : both (some a) (some b) = some (a && b) := by cases a <;> rfl

@[simp] theorem either_some (a b : Bool) : either (some a) (some b) = some (a || b) := by cases a <;> rfl

@[simp] theorem both_true (y : Option Bool) : both (some true) y = y := rfl

@[simp] theorem both_false (y : Option Bool) : both (some false) y = some false := rfl

@[simp] theorem either_false (y : Option Bool) : either (some false) y = y := rfl

/-- The second part is evaluated only where the first one does not hold. -/
theorem either_if (p q : Prop) [Decidable p] [Decidable q] :
    either (if p then none else some false) (if q then none else some false) = if p ∨ q then none else some false := by
  by_cases hp : p
  · rw [if_pos hp, if_pos (Or.inl hp : p ∨ q)]
    rfl
  · by_cases hq : q
    · rw [if_neg hp, if_pos hq, if_pos (Or.inr hq : p ∨ q)]
      rfl
    · rw [if_neg hp, if_neg hq, if_neg (not_or.mpr ⟨hp, hq⟩)]
      rfl

end Conditions
