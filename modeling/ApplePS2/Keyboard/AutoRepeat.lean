import ApplePS2.Keyboard.Lamps
import ApplePS2.Keyboard.StuckKey

/- The auto-repeat filter of `dispatchKeyboardEventWithScancode`: is a make discarded just
   when the key has been made and not broken? The key bit vector has one bit for each key
   code that the switch ends with, whatever key of the keyboard it comes from.

   1. `discards_eq`: which events are discarded, in the state before.
   2. `Counted.event`: the bits are those of the keys held, as long as no event clears the
      bit of a key that stays held.
   3. `autoRepeat_right`: then exactly the repeated makes are discarded.
   4. `sharedCode_discarded`: the right Control key while the left one is held. -/
namespace ApplePS2

namespace Keyboard

/-- The event is discarded as an auto-repeat: the switch leaves it a key code, and the key
bit vector is not updated. -/
def discards (w : World) (e : ScanEvent) (s : Keyboard) : Bool :=
  (s.parse w e).2 ≠ 0 && ((s.parse w e).1.updateKeyBitVector (s.parse w e).2 e.goingDown).isNone

theorem discards_eq (w : World) (e : ScanEvent) (s : Keyboard) :
    s.discards w e = ((s.target e).keyCode ≠ 0 && !s.takes e) := by
  unfold discards
  rw [keyCode_parse]
  by_cases hzero : (s.target e).keyCode = 0
  · rw [decide_eq_false (not_not_intro hzero)]
    rfl
  · rw [← takes_parse (w := w) hzero, Option.not_isSome]

end Keyboard

/-- The driver, with the keys that have been made and not broken, and the key code that the
switch gave each of them. -/
structure AutoRepeat where
  driver : KeyboardDriver
  made : List (PhysicalKey × UInt8)

namespace AutoRepeat

/-- The key code that the switch gives a stroke. -/
def code (h : AutoRepeat) (k : Stroke) : UInt8 := (h.driver.keyboard.target k.event).keyCode

def isMade (h : AutoRepeat) (key : PhysicalKey) : Bool := h.made.any fun p => p.1 = key

/-- What is held without the key. -/
def others (h : AutoRepeat) (key : PhysicalKey) : List (PhysicalKey × UInt8) := h.made.filter fun p => p.1 ≠ key

/-- The bytes of a stroke arrive. -/
def event (h : AutoRepeat) (k : Stroke) : AutoRepeat :=
  { driver := k.bytes.foldl (fun d b => d.interruptOccurred k.world b) h.driver
    made := if k.goingDown then (k.key, h.code k) :: h.others k.key else h.others k.key }

/-- A brightness or volume key that is let through on purpose. -/
def letThrough (h : AutoRepeat) (k : Stroke) : Bool := h.driver.keyboard.repeats (h.code k)

/-- A make is discarded just when its key is held already, but for the keys let through. -/
def Right (h : AutoRepeat) (k : Stroke) : Prop :=
  k.goingDown = true →
    h.driver.keyboard.discards k.world k.event = (h.isMade k.key && !h.letThrough k)

/-- The driver sees the stroke as one of its key alone. -/
structure Meets (h : AutoRepeat) (k : Stroke) : Prop where
  /-- A break is decoded. -/
  decoded : k.goingDown = true ∨ k.key.Decoded
  /-- No remapping key or lock has changed: the key has the code that it was made with, or was
  made with none. -/
  unchanged : ∀ p ∈ h.made, p.1 = k.key → p.2 = h.code k ∨ (k.goingDown = false ∧ p.2 = 0)
  /-- No other key is held with the code that is tested or cleared. -/
  alone : h.code k ≠ 0 → k.goingDown = false ∨ (h.isMade k.key = false ∧ h.letThrough k = false) →
    ∀ p ∈ h.others k.key, p.2 ≠ h.code k
  /-- A key that is made again is not one that the switch ends with. -/
  used : k.goingDown = true → h.isMade k.key = true → h.letThrough k = false → h.code k ≠ 0

/-- The bits are those of the codes that keys are held with. -/
structure Counted (h : AutoRepeat) : Prop where
  scanner : h.driver.scanner = ⟨true, 0⟩
  bits : ∀ c, c ≠ 0 → (h.driver.keyboard.isKeyDown c = true ↔ ∃ p ∈ h.made, p.2 = c)

/-- No sequence has begun and no key is held. -/
structure AtRest (h : AutoRepeat) : Prop where
  scanner : h.driver.scanner = ⟨true, 0⟩
  made : h.made = []
  bits : ∀ c, h.driver.keyboard.isKeyDown c = false

variable {h : AutoRepeat} {k : Stroke}

theorem AtRest.counted (hrest : h.AtRest) : h.Counted := by
  refine ⟨hrest.scanner, fun c _ => ?_⟩
  rw [hrest.bits c, hrest.made]
  simp

/-- A code that a key is held with is that of the key itself or of another one. -/
theorem code_cases (h : AutoRepeat) (key : PhysicalKey) (c : UInt8) :
    (∃ p ∈ h.made, p.2 = c) ↔ (∃ p ∈ h.made, p.1 = key ∧ p.2 = c) ∨ ∃ p ∈ h.others key, p.2 = c := by
  constructor
  · rintro ⟨p, hp, hc⟩
    by_cases hkey : p.1 = key
    · exact .inl ⟨p, hp, hkey, hc⟩
    · exact .inr ⟨p, List.mem_filter.2 ⟨hp, decide_eq_true hkey⟩, hc⟩
  · rintro (⟨p, hp, -, hc⟩ | ⟨p, hp, hc⟩)
    · exact ⟨p, hp, hc⟩
    · exact ⟨p, List.mem_of_mem_filter hp, hc⟩

theorem isMade_iff (h : AutoRepeat) (key : PhysicalKey) : h.isMade key = true ↔ ∃ p ∈ h.made, p.1 = key := by
  simp [isMade]

/-- The driver handles exactly the event of the stroke. -/
theorem driver_event (hscan : h.driver.scanner = ⟨true, 0⟩) (hdecoded : k.goingDown = true ∨ k.key.Decoded) :
    (h.event k).driver = ⟨⟨true, 0⟩, h.driver.keyboard.dispatchScanEvent k.world k.event⟩ :=
  Typing.driver_step (t := ⟨h.driver, []⟩) hscan hdecoded

theorem Counted.event (hc : h.Counted) (hmeets : h.Meets k) : (h.event k).Counted := by
  have hdriver := driver_event hc.scanner hmeets.decoded
  refine ⟨by rw [hdriver], fun c hne => ?_⟩
  have hbits : (h.event k).driver.keyboard.isKeyDown c =
      (if h.code k = c then k.goingDown else h.driver.keyboard.isKeyDown c) := by
    rw [hdriver, ← Typing.event_goingDown]
    unfold Keyboard.isKeyDown
    show (h.driver.keyboard.dispatchScanEvent k.world k.event).keyBitVector c = _
    rw [Keyboard.bits_event]
    by_cases hzero : (h.driver.keyboard.target k.event).keyCode = 0
    · rw [if_pos hzero, if_neg (by rw [code, hzero]; exact Ne.symm hne)]
    rw [if_neg hzero]
    by_cases hsame : h.code k = c
    · rw [if_pos hsame, ← hsame]
      exact Function.update_self _ _ _
    · rw [if_neg hsame]
      exact Function.update_of_ne (Ne.symm hsame) _ _
  have hbefore := hc.bits c hne
  rw [code_cases h k.key c] at hbefore
  rw [hbits]
  cases hdown : k.goingDown with
  | true =>
    have hmade : (h.event k).made = (k.key, h.code k) :: h.others k.key := if_pos hdown
    rw [hmade]
    by_cases hsame : h.code k = c
    · rw [if_pos hsame]
      exact iff_of_true rfl ⟨_, List.mem_cons_self, hsame⟩
    · -- what the key itself has been made with is its code now
      have hown : ¬∃ p ∈ h.made, p.1 = k.key ∧ p.2 = c := by
        rintro ⟨p, hp, hkey, rfl⟩
        rcases hmeets.unchanged p hp hkey with hcode | ⟨hup, -⟩
        · exact hsame hcode.symm
        · exact absurd (hup.symm.trans hdown) (by decide)
      rw [if_neg hsame, hbefore, or_iff_right hown]
      constructor
      · rintro ⟨p, hp, hcode⟩
        exact ⟨p, List.mem_cons_of_mem _ hp, hcode⟩
      · rintro ⟨p, hp, hcode⟩
        rcases List.mem_cons.1 hp with rfl | hp
        · exact absurd hcode hsame
        · exact ⟨p, hp, hcode⟩
  | false =>
    have hmade : (h.event k).made = h.others k.key := if_neg (by rw [hdown]; decide)
    rw [hmade]
    by_cases hsame : h.code k = c
    · rw [if_pos hsame]
      -- no other key that is held has the code of the break
      refine iff_of_false (by decide) ?_
      rintro ⟨p, hp, hcode⟩
      have hother := hmeets.alone (by rw [hsame]; exact hne) (.inl hdown) p hp
      exact hother (hcode.trans hsame.symm)
    · have hown : ¬∃ p ∈ h.made, p.1 = k.key ∧ p.2 = c := by
        rintro ⟨p, hp, hkey, rfl⟩
        rcases hmeets.unchanged p hp hkey with hcode | ⟨-, hzero⟩
        · exact hsame hcode.symm
        · exact hne hzero
      rw [if_neg hsame, hbefore, or_iff_right hown]

/-- A make, where the bits are those of the keys held and the key has not changed its code. -/
theorem Counted.right_iff (hc : h.Counted) (hunchanged : ∀ p ∈ h.made, p.1 = k.key → p.2 = h.code k)
    (hdown : k.goingDown = true) :
    h.Right k ↔ (h.code k ≠ 0 → h.isMade k.key = false ∧ h.letThrough k = false → ∀ p ∈ h.others k.key, p.2 ≠ h.code k) ∧
      (h.isMade k.key = true → h.letThrough k = false → h.code k ≠ 0) := by
  have hdiscards : h.driver.keyboard.discards k.world k.event =
      (h.code k ≠ 0 && (h.driver.keyboard.isKeyDown (h.code k) && !h.letThrough k)) := by
    rw [Keyboard.discards_eq]
    unfold Keyboard.takes
    rw [Typing.event_goingDown, hdown]
    show _ = (decide (h.code k ≠ 0) && (h.driver.keyboard.isKeyDown (h.code k) && !h.letThrough k))
    congr 1
    show (!(!true || (!h.driver.keyboard.isKeyDown (h.code k) || h.letThrough k))) = _
    cases h.driver.keyboard.isKeyDown (h.code k) <;> cases h.letThrough k <;> rfl
  unfold Right
  rw [hdiscards, forall_prop_of_true hdown]
  by_cases hzero : h.code k = 0
  · simp only [hzero, ne_eq, not_true_eq_false, decide_false, Bool.false_and, false_imp_iff, true_and]
    cases h.isMade k.key <;> cases h.letThrough k <;> decide
  have hbit : h.driver.keyboard.isKeyDown (h.code k) = true ↔
      h.isMade k.key = true ∨ ∃ p ∈ h.others k.key, p.2 = h.code k := by
    rw [hc.bits _ hzero, code_cases h k.key]
    refine or_congr_left ?_
    rw [isMade_iff]
    constructor
    · rintro ⟨p, hp, hkey, -⟩
      exact ⟨p, hp, hkey⟩
    · rintro ⟨p, hp, hkey⟩
      exact ⟨p, hp, hkey, hunchanged p hp hkey⟩
  have hnone : (∀ p ∈ h.others k.key, p.2 ≠ h.code k) ↔ ¬∃ p ∈ h.others k.key, p.2 = h.code k := by
    constructor
    · rintro hall ⟨p, hp, hcode⟩
      exact hall p hp hcode
    · intro hnot p hp hcode
      exact hnot ⟨p, hp, hcode⟩
  rw [hnone, decide_eq_true hzero, Bool.true_and]
  -- another key with the code hides whether this one is made
  by_cases hshared : ∃ p ∈ h.others k.key, p.2 = h.code k
  · have hdownBit : h.driver.keyboard.isKeyDown (h.code k) = true := hbit.2 (.inr hshared)
    rw [hdownBit]
    cases h.isMade k.key <;> cases h.letThrough k <;> simp [hshared, hzero]
  · have hsame : h.driver.keyboard.isKeyDown (h.code k) = h.isMade k.key := by
      rw [Bool.eq_iff_iff, hbit, or_iff_left hshared]
    rw [hsame]
    exact iff_of_true rfl ⟨fun _ _ => hshared, fun _ _ => hzero⟩

/-- From a state in which no key is held, over any strokes that the driver sees as those of
their keys alone: a make is discarded just when its key is held. -/
theorem autoRepeat_right (hrest : h.AtRest) (ks : List Stroke)
    (hmeets : ∀ p k, p ++ [k] <+: ks → (Transition.run AutoRepeat.event p h).Meets k) :
    ∀ p k, p ++ [k] <+: ks → (Transition.run AutoRepeat.event p h).Right k := by
  intro p k hp hdown
  have hcounted := Transition.run_invariant_of (fun _ _ hc hm => Counted.event hc hm) ks hrest.counted hmeets p
    ((List.prefix_append p [k]).trans hp)
  have hm := hmeets p k hp
  have hunchanged : ∀ q ∈ (Transition.run AutoRepeat.event p h).made, q.1 = k.key →
      q.2 = (Transition.run AutoRepeat.event p h).code k := by
    intro q hq hkey
    rcases hm.unchanged q hq hkey with hcode | ⟨hup, -⟩
    · exact hcode
    · exact absurd (hup.symm.trans hdown) (by decide)
  exact (hcounted.right_iff hunchanged hdown).2 ⟨fun hne hboth => hm.alone hne (.inr hboth), hm.used hdown⟩ hdown

/-! Two runs. -/

instance (h : AutoRepeat) (k : Stroke) : Decidable (h.Meets k) :=
  decidable_of_iff (_ ∧ _ ∧ _ ∧ _)
    ⟨fun h => ⟨h.1, h.2.1, h.2.2.1, h.2.2.2⟩, fun h => ⟨h.decoded, h.unchanged, h.alone, h.used⟩⟩

/-- The driver after `init`. -/
def init : AutoRepeat := ⟨⟨⟨true, 0⟩, .init .init (.initial fun _ => DEADKEY)⟩, []⟩

theorem init_atRest : init.AtRest := ⟨rfl, rfl, fun _ => rfl⟩

theorem leftShift_lt : (0x2a : UInt8) < 0x80 := by decide

theorem letterA_lt : (0x1e : UInt8) < 0x80 := by decide

/-- The letter A repeats while Left Shift is held. -/
def repeatedLetter : List Stroke := [keyDown 0x2a leftShift_lt, keyDown 0x1e letterA_lt, keyDown 0x1e letterA_lt]

theorem autoRepeat_right_letter :
    (Transition.run event [keyDown 0x2a leftShift_lt, keyDown 0x1e letterA_lt] init).Right
      (keyDown 0x1e letterA_lt) := by
  have hmeets : ∀ p k, p ++ [k] <+: repeatedLetter → (Transition.run event p init).Meets k := by
    rw [repeatedLetter, Transition.run_steps_cons, Transition.run_steps_cons, Transition.run_steps_cons]
    exact ⟨by decide +kernel, by decide +kernel, by decide +kernel, Transition.run_steps_nil _⟩
  exact autoRepeat_right init_atRest repeatedLetter hmeets _ _ (List.prefix_refl _)

def rightControl : PhysicalKey := .key true 0x1d (by decide)

/-- The right Control key goes down while the left one is held: it is discarded. -/
theorem sharedCode_discarded :
    init.AtRest ∧ (init.event (keyDown 0x1d (by decide))).isMade rightControl = false ∧
    (init.event (keyDown 0x1d (by decide))).driver.keyboard.discards quietWorld ⟨true, 0x1d, true⟩ = true ∧
    ¬(init.event (keyDown 0x1d (by decide))).Right ⟨rightControl, true, quietWorld⟩ := by
  have hmade : (init.event (keyDown 0x1d (by decide))).isMade rightControl = false := by decide
  have hdiscards : (init.event (keyDown 0x1d (by decide))).driver.keyboard.discards quietWorld ⟨true, 0x1d, true⟩ =
    true := by decide +kernel
  refine ⟨init_atRest, hmade, hdiscards, fun hright => ?_⟩
  have hsame := hright rfl
  rw [hmade] at hsame
  exact absurd (hdiscards.symm.trans hsame) (by decide)

end AutoRepeat

end ApplePS2
