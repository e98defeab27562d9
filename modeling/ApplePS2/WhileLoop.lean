import Mathlib.Logic.Function.Iterate

/- While loops with a bound on their turns, as long as it lasts.

   1. `whileLoop_eq_some`: a loop ends after `n` turns when the condition holds before
      each of them and fails behind the last. -/
namespace WhileLoop

universe u

variable {σ : Type u} {cond : σ → Bool} {body : σ → σ}

/-- What a loop leaves and the number of its turns, if `fuel` turns are enough. -/
def whileLoop (cond : σ → Bool) (body : σ → σ) : Nat → σ → Option (σ × Nat)
  | 0, s => if cond s then none else some (s, 0)
  | fuel + 1, s =>
    if cond s then (whileLoop cond body fuel (body s)).map fun r => (r.1, r.2 + 1) else some (s, 0)

theorem whileLoop_stop {s : σ} (h : cond s = false) (fuel : Nat) : whileLoop cond body fuel s = some (s, 0) := by
  cases fuel with
  | zero => exact if_neg (Bool.eq_false_iff.1 h)
  | succ fuel => exact if_neg (Bool.eq_false_iff.1 h)

theorem whileLoop_turn {s : σ} (h : cond s = true) (fuel : Nat) : whileLoop cond body (fuel + 1) s =
    (whileLoop cond body fuel (body s)).map fun r => (r.1, r.2 + 1) := if_pos h

/-- By induction on the fuel: the first turn is split off on both sides. -/
theorem whileLoop_eq_some {fuel : Nat} {s t : σ} {n : Nat} : whileLoop cond body fuel s = some (t, n) ↔
    n ≤ fuel ∧ t = body^[n] s ∧ cond t = false ∧ ∀ k < n, cond (body^[k] s) = true := by
  induction fuel generalizing s n with
  | zero =>
    cases hs : cond s with
    | true =>
      rw [whileLoop, if_pos hs]
      refine iff_of_false (by simp) ?_
      rintro ⟨hn, rfl, hstop, -⟩
      obtain rfl : n = 0 := Nat.le_zero.1 hn
      exact absurd (hs.symm.trans hstop) (by decide)
    | false =>
      rw [whileLoop_stop hs]
      constructor
      · intro h
        obtain ⟨rfl, rfl⟩ := Prod.mk.inj (Option.some.inj h)
        exact ⟨Nat.le_refl 0, rfl, hs, fun k hk => absurd hk (Nat.not_lt_zero k)⟩
      · rintro ⟨hn, rfl, -, -⟩
        obtain rfl : n = 0 := Nat.le_zero.1 hn
        rfl
  | succ fuel ih =>
    cases hs : cond s with
    | true =>
      rw [whileLoop_turn hs, Option.map_eq_some_iff]
      constructor
      · rintro ⟨⟨t', m⟩, hrest, hpair⟩
        obtain ⟨rfl, rfl⟩ := Prod.mk.inj hpair
        obtain ⟨hm, hlast, hstop, hturns⟩ := ih.1 hrest
        refine ⟨Nat.succ_le_succ hm, hlast, hstop, fun k hk => ?_⟩
        cases k with
        | zero => exact hs
        | succ k => exact hturns k (Nat.lt_of_succ_lt_succ hk)
      · rintro ⟨hn, hlast, hstop, hturns⟩
        cases n with
        | zero =>
          obtain rfl : t = s := hlast
          exact absurd (hs.symm.trans hstop) (by decide)
        -- a turn remains on the right, and the rest has one fewer
        | succ n =>
          have hrest := ih.2 ⟨Nat.le_of_succ_le_succ hn, hlast, hstop, fun k hk => hturns (k + 1) (Nat.succ_lt_succ hk)⟩
          exact ⟨(t, n), hrest, rfl⟩
    | false =>
      rw [whileLoop_stop hs]
      constructor
      · intro h
        obtain ⟨rfl, rfl⟩ := Prod.mk.inj (Option.some.inj h)
        exact ⟨Nat.zero_le _, rfl, hs, fun k hk => absurd hk (Nat.not_lt_zero k)⟩
      · rintro ⟨-, hlast, -, hturns⟩
        cases n with
        | zero =>
          obtain rfl : t = s := hlast
          rfl
        | succ n => exact absurd (hs.symm.trans (hturns 0 (Nat.succ_pos n))) (by decide)

end WhileLoop
