import Mathlib.Data.List.Basic

/- Handles that are allocated, used and freed: what a client does to them is a list of
   events, and the handles that are allocated at some time are a list.

   1. `run_append`: clients one after the other.
   2. `Owned.append`: each leaves nothing allocated, and so do both.
   3. `Owned.count_free`: every handle is freed as often as it is allocated. -/
namespace Ownership

universe u

inductive Event (η : Type u) where
  | allocate (h : η)
  | submit (h : η)
  /-- A read or write of what the handle refers to. -/
  | access (h : η)
  | free (h : η)
  deriving DecidableEq, Repr

variable {η : Type u} [DecidableEq η]

/-- The handles that are allocated after an event, unless it is one that may not happen. -/
def step (live : List η) : Event η → Option (List η)
  | .allocate h => if h ∈ live then none else some (h :: live)
  | .submit h => if h ∈ live then some live else none
  | .access h => if h ∈ live then some live else none
  | .free h => if h ∈ live then some (live.erase h) else none

def run : List (Event η) → List η → Option (List η)
  | [], live => some live
  | e :: es, live =>
    match step live e with
    | none => none
    | some live => run es live

/-- Only allocated handles are used and freed, and in the end none is allocated. -/
def Owned (es : List (Event η)) : Prop := run es [] = some []

instance (es : List (Event η)) : Decidable (Owned es) :=
  inferInstanceAs (Decidable (run es [] = some []))

theorem run_append (es es' : List (Event η)) (live : List η) :
    run (es ++ es') live = (run es live).bind (run es') := by
  induction es generalizing live with
  | nil => rfl
  | cons e es ih =>
    simp only [List.cons_append, run]
    cases step live e with
    | none => rfl
    | some live => exact ih live

theorem Owned.append {es es' : List (Event η)} (h : Owned es) (h' : Owned es') : Owned (es ++ es') := by
  rw [Owned, run_append, h]
  exact h'

/-- What goes wrong stays so. -/
theorem not_owned_append {es : List (Event η)} (h : run es [] = none) (es' : List (Event η)) :
    ¬ Owned (es ++ es') := by
  rw [Owned, run_append, h]
  exact fun hrun => by cases hrun

theorem step_count {live live' : List η} {e : Event η} (h : step live e = some live') (a : η) :
    live'.count a + [e].count (.free a) = live.count a + [e].count (.allocate a) := by
  cases e with
  | allocate b =>
    simp only [step] at h
    split at h
    · cases h
    · cases h
      by_cases hab : b = a <;> simp [hab]
  | submit b =>
    simp only [step] at h
    split at h
    · cases h
      simp
    · cases h
  | access b =>
    simp only [step] at h
    split at h
    · cases h
      simp
    · cases h
  | free b =>
    simp only [step] at h
    split at h
    · next hmem =>
      cases h
      by_cases hab : b = a
      · have hpos := List.count_pos_iff.2 hmem
        rw [hab] at hpos
        simp [hab]
        omega
      · simp [hab, List.count_erase_of_ne (Ne.symm hab)]
    · cases h

theorem run_count {es : List (Event η)} {live live' : List η} (h : run es live = some live') (a : η) :
    live'.count a + es.count (.free a) = live.count a + es.count (.allocate a) := by
  induction es generalizing live with
  | nil =>
    cases h
    simp
  | cons e es ih =>
    simp only [run] at h
    cases hstep : step live e with
    | none =>
      rw [hstep] at h
      cases h
    | some next =>
      rw [hstep] at h
      have hhead := step_count hstep a
      have hrest := ih h
      have hfree := List.count_cons (a := Event.free a) (b := e) (l := es)
      have hallocate := List.count_cons (a := Event.allocate a) (b := e) (l := es)
      simp only [List.count_singleton] at hhead
      omega

theorem Owned.count_free {es : List (Event η)} (h : Owned es) (a : η) :
    es.count (.free a) = es.count (.allocate a) := by
  have hcount := run_count h a
  simpa using hcount

end Ownership
