/- Labelled transition systems given by a partial step function: the states that
   runs reach, with a condition on the steps they may take.

   1. `Reaches.invariant`: what holds at the start and is kept by every step the
      condition allows holds of every state reached.
   2. `Reaches.of_exec`: a list of labels that executes is such a run.
   3. `Reaches.exists_done`: steps that lower a measure come to an end.
   4. `run_simulates`: what a step does to a view of the states, a run does.
   5. `run_steps_iff`, `run_invariant_iff`: for a total step, what holds at the start
      holds in every state of a run just when every step meets the condition by which it
      is kept. -/
namespace Transition

universe u v w

variable {σ : Type u} {ℓ : Type v}

/-- The states reached from `init` by steps that meet `ok`. -/
inductive Reaches (step : σ → ℓ → Option σ) (ok : σ → ℓ → Prop) (init : σ) : σ → Prop where
  | start : Reaches step ok init init
  | next {s s' : σ} {l : ℓ} : Reaches step ok init s → ok s l → step s l = some s' →
      Reaches step ok init s'

variable {step : σ → ℓ → Option σ} {ok : σ → ℓ → Prop}

theorem Reaches.invariant {init s : σ} (I : σ → Prop) (h₀ : I init)
    (hstep : ∀ s l s', I s → ok s l → step s l = some s' → I s')
    (h : Reaches step ok init s) : I s := by
  induction h with
  | start => exact h₀
  | next _ hok hs ih => exact hstep _ _ _ ih hok hs

theorem Reaches.trans {a b c : σ} (h : Reaches step ok a b) (h' : Reaches step ok b c) :
    Reaches step ok a c := by
  induction h' with
  | start => exact h
  | next _ hok hs ih => exact .next ih hok hs

/-- A weaker condition allows as many steps. -/
theorem Reaches.mono {ok' : σ → ℓ → Prop} (hok : ∀ s l, ok s l → ok' s l) {init s : σ}
    (h : Reaches step ok init s) : Reaches step ok' init s := by
  induction h with
  | start => exact .start
  | next _ hl hs ih => exact .next ih (hok _ _ hl) hs

/-- Run some labels, as long as the condition is met. -/
def exec (step : σ → ℓ → Option σ) (ok : σ → ℓ → Prop) [∀ s l, Decidable (ok s l)] :
    σ → List ℓ → Option σ
  | s, [] => some s
  | s, l :: ls =>
    if ok s l then
      match step s l with
      | some s' => exec step ok s' ls
      | none => none
    else none

theorem Reaches.of_exec [∀ s l, Decidable (ok s l)] (ls : List ℓ) {s s' : σ}
    (h : exec step ok s ls = some s') : Reaches step ok s s' := by
  induction ls generalizing s with
  | nil =>
    obtain rfl : s = s' := by simpa [exec] using h
    exact .start
  | cons l ls ih =>
    simp only [exec] at h
    split at h
    · next hok =>
      split at h
      · next s₁ hs₁ =>
        have hfirst : Reaches step ok s s₁ := .next .start hok hs₁
        exact hfirst.trans (ih h)
      · cases h
    · cases h

/-- A step that lowers a measure, wherever there is still something to do, leads to where
there is nothing. -/
theorem Reaches.exists_done (I Done : σ → Prop) (measure : σ → Nat)
    (hgo : ∀ s, I s → ¬ Done s → ∃ l s', ok s l ∧ step s l = some s' ∧ I s' ∧ measure s' < measure s)
    {s : σ} (hs : I s) : ∃ t, Reaches step ok s t ∧ I t ∧ Done t := by
  generalize hn : measure s = n
  induction n using Nat.strongRecOn generalizing s with
  | ind n ih =>
    by_cases hdone : Done s
    · exact ⟨s, .start, hs, hdone⟩
    · obtain ⟨l, s', hok, hstep, hs', hless⟩ := hgo s hs hdone
      obtain ⟨t, hreach, ht, hdone'⟩ := ih (measure s') (hn ▸ hless) hs' rfl
      have hfirst : Reaches step ok s s' := .next .start hok hstep
      exact ⟨t, hfirst.trans hreach, ht, hdone'⟩

/-! Total steps. -/

/-- Take the steps of all labels. -/
def run (f : σ → ℓ → σ) (ls : List ℓ) (s : σ) : σ := ls.foldl f s

theorem run_append (f : σ → ℓ → σ) (ls ls' : List ℓ) (s : σ) : run f (ls ++ ls') s = run f ls' (run f ls s) :=
  List.foldl_append ..

theorem run_invariant {f : σ → ℓ → σ} {I : σ → Prop} (hstep : ∀ s l, I s → I (f s l)) (ls : List ℓ) {s : σ}
    (h₀ : I s) : I (run f ls s) := by
  induction ls generalizing s with
  | nil => exact h₀
  | cons l ls ih => exact ih (hstep s l h₀)

/-- A view of the states under which each step is a step of another system, is one of whole runs. -/
theorem run_simulates {τ : Type w} {f : σ → ℓ → σ} {g : τ → ℓ → τ} {view : σ → τ} {I : σ → Prop}
    (hkeep : ∀ s l, I s → I (f s l)) (hstep : ∀ s l, I s → view (f s l) = g (view s) l) (ls : List ℓ) {s : σ}
    (h₀ : I s) : view (run f ls s) = run g ls (view s) := by
  induction ls generalizing s with
  | nil => rfl
  | cons l ls ih =>
    calc view (run f (l :: ls) s) = run g ls (view (f s l)) := ih (hkeep s l h₀)
      _ = run g (l :: ls) (view s) := by rw [hstep s l h₀]; rfl

/-- What is kept by steps that meet a condition, in a run whose steps all meet it. -/
theorem run_invariant_of {f : σ → ℓ → σ} {I : σ → Prop} {C : σ → ℓ → Prop}
    (hstep : ∀ s l, I s → C s l → I (f s l)) (ls : List ℓ) {s : σ} (h₀ : I s)
    (h : ∀ p l, p ++ [l] <+: ls → C (run f p s) l) : ∀ p, p <+: ls → I (run f p s) := by
  intro p hp
  induction p generalizing s ls with
  | nil => exact h₀
  | cons l p ih =>
    obtain ⟨ls, rfl⟩ := hp
    have hfirst : I (f s l) := hstep s l h₀ (h [] l (List.prefix_append [l] (p ++ ls)))
    refine ih (p ++ ls) hfirst (fun q k hq => ?_) (List.prefix_append p ls)
    exact h (l :: q) k (List.cons_prefix_cons.2 ⟨rfl, hq⟩)

/-- The same for what holds of each step as well, when the condition is exact. -/
theorem run_steps_iff {f : σ → ℓ → σ} {I : σ → Prop} {P C : σ → ℓ → Prop}
    (hstep : ∀ s l, I s → (I (f s l) ∧ P s l ↔ C s l)) (ls : List ℓ) {s : σ} (h₀ : I s) :
    ((∀ p, p <+: ls → I (run f p s)) ∧ ∀ p l, p ++ [l] <+: ls → P (run f p s) l) ↔
      ∀ p l, p ++ [l] <+: ls → C (run f p s) l := by
  constructor
  · rintro ⟨hinv, hsteps⟩ p l hp
    have hbefore := hinv p (List.IsPrefix.trans (List.prefix_append p [l]) hp)
    have hafter := hinv (p ++ [l]) hp
    rw [run_append] at hafter
    exact (hstep _ l hbefore).1 ⟨hafter, hsteps p l hp⟩
  · intro h
    have hinv := run_invariant_of (fun s l hs hc => ((hstep s l hs).2 hc).1) ls h₀ h
    refine ⟨hinv, fun p l hp => ?_⟩
    have hbefore := hinv p (List.IsPrefix.trans (List.prefix_append p [l]) hp)
    exact ((hstep _ l hbefore).2 (h p l hp)).2

/-- What holds of each step, where it keeps what makes the condition exact. -/
theorem run_property_iff {f : σ → ℓ → σ} {I : σ → Prop} {P C : σ → ℓ → Prop}
    (hkeep : ∀ s l, I s → P s l → I (f s l)) (hexact : ∀ s l, I s → (P s l ↔ C s l)) (ls : List ℓ) {s : σ} (h₀ : I s) :
    (∀ p l, p ++ [l] <+: ls → P (run f p s) l) ↔ ∀ p l, p ++ [l] <+: ls → C (run f p s) l := by
  have hbefore : ∀ p l, p ++ [l] <+: ls → p <+: ls := fun p l hp => (List.prefix_append p [l]).trans hp
  constructor
  · intro h p l hp
    have hinv := run_invariant_of hkeep ls h₀ h
    exact (hexact _ l (hinv p (hbefore p l hp))).1 (h p l hp)
  · intro h p l hp
    have hinv := run_invariant_of (fun s l hs hc => hkeep s l hs ((hexact s l hs).2 hc)) ls h₀ h
    exact (hexact _ l (hinv p (hbefore p l hp))).2 (h p l hp)

/-- A condition on the steps of a run, label by label. -/
theorem run_steps_cons {f : σ → ℓ → σ} {C : σ → ℓ → Prop} (l : ℓ) (ls : List ℓ) (s : σ) :
    (∀ p k, p ++ [k] <+: l :: ls → C (run f p s) k) ↔
      C s l ∧ ∀ p k, p ++ [k] <+: ls → C (run f p (f s l)) k := by
  constructor
  · intro h
    refine ⟨h [] l (List.prefix_append [l] ls), fun p k hp => ?_⟩
    exact h (l :: p) k (List.cons_prefix_cons.2 ⟨rfl, hp⟩)
  · rintro ⟨hfirst, hrest⟩ p k hp
    cases p with
    | nil =>
      obtain ⟨rfl, -⟩ := List.cons_prefix_cons.1 hp
      exact hfirst
    | cons l' p =>
      obtain ⟨rfl, htail⟩ := List.cons_prefix_cons.1 hp
      exact hrest p k htail

theorem run_steps_nil {f : σ → ℓ → σ} {C : σ → ℓ → Prop} (s : σ) (p : List ℓ) (k : ℓ) (h : p ++ [k] <+: []) :
    C (run f p s) k := by
  simp at h

theorem run_invariant_iff {f : σ → ℓ → σ} {I : σ → Prop} {C : σ → ℓ → Prop}
    (hstep : ∀ s l, I s → (I (f s l) ↔ C s l)) (ls : List ℓ) {s : σ} (h₀ : I s) :
    (∀ p, p <+: ls → I (run f p s)) ↔ ∀ p l, p ++ [l] <+: ls → C (run f p s) l := by
  have hall := run_steps_iff (P := fun _ _ => True) (C := C) (fun s l hs => by rw [and_true]; exact hstep s l hs) ls h₀
  rw [← hall]
  exact ⟨fun h => ⟨h, fun _ _ _ => trivial⟩, fun h => h.1⟩

end Transition
