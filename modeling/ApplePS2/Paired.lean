import Mathlib.Data.List.Induction

/- Pairs of signals, one that turns something on and one that turns it off, among
   a sequence of signals.

   1. `Pair.after`: whether the pair is on after some signals, when its two signals
      alternate in them, beginning with the one that turns it on.
   2. `Pair.after_filter`: signals of other pairs do not matter. -/
namespace Paired

universe u

variable {α : Type u} [DecidableEq α]

structure Pair (α : Type u) where
  on : α
  off : α
  ne : on ≠ off

namespace Pair

variable (p : Pair α)

/-- One more signal: `none` when the pair is turned on while it is on, or off while it is off. -/
def next : Option Bool → α → Option Bool
  | none, _ => none
  | some b, x =>
    if x = p.on then if b then none else some true
    else if x = p.off then if b then some false else none
    else some b

/-- Whether the pair is on after the signals; `none` when its two signals do not alternate. -/
def after (l : List α) : Option Bool := l.foldl p.next (some false)

@[simp] theorem after_nil : p.after [] = some false := rfl

theorem after_concat (l : List α) (x : α) : p.after (l ++ [x]) = p.next (p.after l) x := by
  unfold after
  rw [List.foldl_append]
  rfl

theorem after_on {l : List α} (h : p.after l = some false) : p.after (l ++ [p.on]) = some true := by
  rw [after_concat, h]
  simp [next]

theorem after_off {l : List α} (h : p.after l = some true) : p.after (l ++ [p.off]) = some false := by
  rw [after_concat, h]
  simp [next, p.ne.symm]

theorem after_other {l : List α} {x : α} (hon : x ≠ p.on) (hoff : x ≠ p.off) :
    p.after (l ++ [x]) = p.after l := by
  rw [after_concat]
  cases p.after l with
  | none => rfl
  | some b => simp [next, hon, hoff]

theorem after_filter {q : α → Bool} (hon : q p.on = true) (hoff : q p.off = true) (l : List α) :
    p.after (l.filter q) = p.after l := by
  induction l using List.reverseRecOn with
  | nil => rfl
  | append_singleton l x ih =>
    rw [List.filter_append]
    cases hx : q x with
    | true =>
      rw [List.filter_cons_of_pos hx]
      show p.after (l.filter q ++ [x]) = _
      rw [after_concat, after_concat, ih]
    | false =>
      have hxon : x ≠ p.on := fun h => by rw [h, hon] at hx; cases hx
      have hxoff : x ≠ p.off := fun h => by rw [h, hoff] at hx; cases hx
      rw [List.filter_cons_of_neg (by simp [hx])]
      show p.after (l.filter q ++ []) = _
      rw [List.append_nil, ih, after_other p hxon hxoff]

end Pair

end Paired
