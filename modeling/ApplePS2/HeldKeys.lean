import Mathlib.Data.List.Basic

/- Logs of press and release events, and who owes the codes that are down.

   A translator turns the events of physical keys into events of codes; `Follows`
   says what the handling of one event adds to the log, up to events that leave
   nothing down, and composes over the parts of the handling. `Owed` is the
   ownership discipline: every code that is down is owed by a key that is held.

   1. `Owes.press`, `Owes.release`: the discipline is kept when every code that a key
      stops owing and that is still down is released or owed by another key.
   2. `Owes.nothingDown`: with no key held, no code is down. -/
namespace HeldKeys

universe u v

variable {α : Type u} [DecidableEq α]

/-- The direction of the last event of a code. -/
def lastEvent : List (α × Bool) → α → Option Bool
  | [], _ => none
  | (a, d) :: log, b => (lastEvent log b).or (if a = b then some d else none)

/-- The last event of the code is a press. -/
def IsDown (log : List (α × Bool)) (a : α) : Prop := lastEvent log a = some true

instance (log : List (α × Bool)) (a : α) : Decidable (IsDown log a) :=
  inferInstanceAs (Decidable (_ = _))

theorem lastEvent_append (log log' : List (α × Bool)) (b : α) :
    lastEvent (log ++ log') b = (lastEvent log' b).or (lastEvent log b) := by
  induction log with
  | nil => simp [lastEvent]
  | cons e log ih => rw [List.cons_append, lastEvent, lastEvent, ih, Option.or_assoc]

theorem isDown_nil (b : α) : ¬IsDown [] b := by simp [IsDown, lastEvent]

theorem isDown_concat {log : List (α × Bool)} {a b : α} {d : Bool} :
    IsDown (log ++ [(a, d)]) b ↔ if a = b then d = true else IsDown log b := by
  rw [IsDown, lastEvent_append]
  by_cases h : a = b <;> simp [lastEvent, h, IsDown]

/-! What the handling of an event adds to the log. -/

/-- Nothing new is left down. -/
def Quiet (log log' : List (α × Bool)) : Prop := ∀ a, IsDown log' a → IsDown log a

/-- The handling of a press (`goingDown`) or release, up to what leaves nothing
down: `codes` go the way of the key, `back` are pressed whatever the direction. -/
def Follows (goingDown : Bool) (log log' : List (α × Bool)) (codes back : List α) : Prop :=
  ∀ a, IsDown log' a →
    (IsDown log a ∧ (goingDown = false → a ∉ codes)) ∨ (goingDown = true ∧ a ∈ codes) ∨ a ∈ back

namespace Quiet

theorem refl (log : List (α × Bool)) : Quiet log log := fun _ h => h

theorem of_eq {log log' : List (α × Bool)} (h : log' = log) : Quiet log log' := h ▸ refl log

theorem trans {log₁ log₂ log₃ : List (α × Bool)} (h : Quiet log₁ log₂) (h' : Quiet log₂ log₃) :
    Quiet log₁ log₃ := fun a ha => h a (h' a ha)

theorem up (log : List (α × Bool)) (a : α) : Quiet log (log ++ [(a, false)]) := by
  intro b hb
  rw [isDown_concat] at hb
  split at hb
  · cases hb
  · exact hb

/-- A press is undone by the release of the same code, whatever stands between. -/
theorem pressRelease {log log' : List (α × Bool)} {a : α} (h : Quiet (log ++ [(a, true)]) log') :
    Quiet log (log' ++ [(a, false)]) := by
  intro b hb
  rw [isDown_concat] at hb
  split at hb
  · cases hb
  · next hne =>
    have := h b hb
    rwa [isDown_concat, if_neg hne] at this

theorem follows {log log' : List (α × Bool)} (h : Quiet log log') (goingDown : Bool) :
    Follows goingDown log log' [] [] :=
  fun a ha => .inl ⟨h a ha, fun _ => List.not_mem_nil⟩

end Quiet

namespace Follows

variable {goingDown : Bool} {log₁ log₂ log₃ : List (α × Bool)} {codes codes' back back' : List α}

/-- An event of the code in the direction of the key. -/
theorem event (goingDown : Bool) (log : List (α × Bool)) (a : α) :
    Follows goingDown log (log ++ [(a, goingDown)]) [a] [] := by
  intro b hb
  rw [isDown_concat] at hb
  split at hb
  · next h => exact .inr (.inl ⟨hb, by simp [h]⟩)
  · next h => exact .inl ⟨hb, fun _ => by simpa using Ne.symm h⟩

theorem pressedBack (goingDown : Bool) (log : List (α × Bool)) (a : α) :
    Follows goingDown log (log ++ [(a, true)]) [] [a] := by
  intro b hb
  rw [isDown_concat] at hb
  split at hb
  · next h => exact .inr (.inr (by simp [h]))
  · exact .inl ⟨hb, fun _ => List.not_mem_nil⟩

theorem append (h : Follows goingDown log₁ log₂ codes back)
    (h' : Follows goingDown log₂ log₃ codes' back') :
    Follows goingDown log₁ log₃ (codes ++ codes') (back ++ back') := by
  intro a ha
  rcases h' a ha with ⟨hdown, hnot'⟩ | ⟨hgoing, hmem⟩ | hmem
  · rcases h a hdown with ⟨hdown, hnot⟩ | ⟨hgoing, hmem⟩ | hmem
    · refine .inl ⟨hdown, ?_⟩
      intro hg hmem
      exact (List.mem_append.mp hmem).elim (hnot hg) (hnot' hg)
    · exact .inr (.inl ⟨hgoing, List.mem_append_left _ hmem⟩)
    · exact .inr (.inr (List.mem_append_left _ hmem))
  · exact .inr (.inl ⟨hgoing, List.mem_append_right _ hmem⟩)
  · exact .inr (.inr (List.mem_append_right _ hmem))

theorem thenQuiet (h : Follows goingDown log₁ log₂ codes back) (h' : Quiet log₂ log₃) :
    Follows goingDown log₁ log₃ codes back :=
  fun a ha => h a (h' a ha)

theorem afterQuiet (h : Quiet log₁ log₂) (h' : Follows goingDown log₂ log₃ codes back) :
    Follows goingDown log₁ log₃ codes back := by
  simpa using (h.follows goingDown).append h'

/-- The order of the codes, and how often one is named, do not matter. -/
theorem congr (h : Follows goingDown log₁ log₂ codes back) (hcodes : ∀ a, a ∈ codes ↔ a ∈ codes')
    (hback : ∀ a, a ∈ back → a ∈ back') : Follows goingDown log₁ log₂ codes' back' := by
  intro a ha
  rcases h a ha with ⟨hdown, hnot⟩ | ⟨hgoing, hmem⟩ | hmem
  · exact .inl ⟨hdown, fun hg hmem => hnot hg ((hcodes a).mpr hmem)⟩
  · exact .inr (.inl ⟨hgoing, (hcodes a).mp hmem⟩)
  · exact .inr (.inr (hback a hmem))

end Follows

/-! Who owes what is down. -/

variable {κ : Type v} [DecidableEq κ]

/-- Some key that is held owes the code. The list has an entry for each press. -/
def Owed (held : List (κ × List α)) (a : α) : Prop := ∃ p ∈ held, a ∈ p.2

instance (held : List (κ × List α)) (a : α) : Decidable (Owed held a) :=
  inferInstanceAs (Decidable (∃ p ∈ held, a ∈ p.2))

/-- Every code that is down is owed. -/
def Owes (held : List (κ × List α)) (log : List (α × Bool)) : Prop := ∀ a, IsDown log a → Owed held a

/-- What the key owes. -/
def debts (k : κ) (held : List (κ × List α)) : List α :=
  (held.filter fun p => p.1 = k).flatMap Prod.snd

/-- What is held without the key. -/
def without (k : κ) (held : List (κ × List α)) : List (κ × List α) := held.filter fun p => p.1 ≠ k

/-- What the key has left down is among some codes, or owed by another key. -/
def Repaid (k : κ) (held : List (κ × List α)) (log : List (α × Bool)) (codes : List α) : Prop :=
  ∀ a ∈ debts k held, IsDown log a → a ∈ codes ∨ Owed (without k held) a

instance (k : κ) (held : List (κ × List α)) (log : List (α × Bool)) (codes : List α) :
    Decidable (Repaid k held log codes) :=
  inferInstanceAs (Decidable (∀ a ∈ debts k held, IsDown log a → a ∈ codes ∨ Owed (without k held) a))

/-- Every one of some codes is owed. -/
def AllOwed (held : List (κ × List α)) (codes : List α) : Prop := ∀ a ∈ codes, Owed held a

omit [DecidableEq κ] in
instance (held : List (κ × List α)) (codes : List α) : Decidable (AllOwed held codes) :=
  inferInstanceAs (Decidable (∀ a ∈ codes, Owed held a))

omit [DecidableEq α] in
theorem owed_cases {held : List (κ × List α)} {a : α} (k : κ) (h : Owed held a) :
    a ∈ debts k held ∨ Owed (without k held) a := by
  obtain ⟨p, hp, ha⟩ := h
  by_cases hk : p.1 = k
  · exact .inl (List.mem_flatMap.mpr ⟨p, List.mem_filter.mpr ⟨hp, by simpa using hk⟩, ha⟩)
  · exact .inr ⟨p, List.mem_filter.mpr ⟨hp, by simpa using hk⟩, ha⟩

omit [DecidableEq κ] in
theorem Owes.press {held : List (κ × List α)} {log log' : List (α × Bool)} {codes back : List α} (k : κ)
    (h : Owes held log) (hf : Follows true log log' codes back) (hback : AllOwed held back) :
    Owes ((k, codes) :: held) log' := by
  intro a ha
  have hlater : Owed held a → Owed ((k, codes) :: held) a := fun ⟨p, hp, hpa⟩ => ⟨p, .tail _ hp, hpa⟩
  rcases hf a ha with ⟨hdown, -⟩ | ⟨-, hmem⟩ | hmem
  · exact hlater (h a hdown)
  · exact ⟨(k, codes), .head _, hmem⟩
  · exact hlater (hback a hmem)

theorem Owes.release {held : List (κ × List α)} {log log' : List (α × Bool)} {codes back : List α} (k : κ)
    (h : Owes held log) (hf : Follows false log log' codes back)
    (hdebts : Repaid k held log codes) (hback : AllOwed (without k held) back) : Owes (without k held) log' := by
  intro a ha
  rcases hf a ha with ⟨hdown, hnot⟩ | ⟨hgoing, -⟩ | hmem
  · rcases owed_cases k (h a hdown) with hdebt | howed
    · exact (hdebts a hdebt hdown).resolve_left (hnot rfl)
    · exact howed
  · cases hgoing
  · exact hback a hmem

omit [DecidableEq κ] in
theorem Owes.nothingDown {log : List (α × Bool)} (h : Owes ([] : List (κ × List α)) log) (a : α) :
    ¬IsDown log a := by
  intro ha
  obtain ⟨p, hp, -⟩ := h a ha
  cases hp

end HeldKeys
