import ApplePS2.Keyboard.FeatureToggle
import ApplePS2.Keyboard.Lamps
import ApplePS2.Transition

/- The bookkeeping of Caps Lock: is `isCapsLocked` inverted once by each stroke of the key,
   kept by a stay in the feature toggle mode, and shown by the LED when the mode ends?

   1. `caps_event`, `led_event`: what an event does to `isCapsLocked` and to the LED.
   2. `kept_event`: `isCapsLocked` is known from the events since both keys were up.
   3. `capsLock_right_iff`: over a run, exactly when it is right.
   4. `capsLock_astray`: a stay in the mode that leaves Caps Lock on, and a stroke that
      leaves it as it is. -/
namespace ApplePS2

namespace Keyboard

variable {w : World}

/-! One event. -/

/-- The fix is configured, and the system one that needs it. -/
def sierraFix (s : Keyboard) : Bool := s.osxVersion > 11 && s.prefs.fixSierraCapsLockBug

/-- Left Shift joins Caps Lock: `isCapsLocked` is forced to false. -/
def forcesCaps (e : ScanEvent) (s : Keyboard) : Bool :=
  (s.target e).keyCode = 0x2a && e.goingDown && s.takes e && s.isKeyDown 0x3a

/-- Caps Lock inverts `isCapsLocked`: with the fix when it is released, else with each event. -/
def invertsCaps (e : ScanEvent) (s : Keyboard) : Bool :=
  (s.target e).keyCode = 0x3a && s.takes e && !(s.isKeyDown 0x2a && e.goingDown) &&
    !(s.sierraFix && !s.featureToggleMode && e.goingDown)

/-- What the handling of a key keeps, and its `isCapsLocked`. -/
theorem caps_processKey (keyCode : UInt8) (goingDown : Bool) (s : Keyboard) :
    (s.processKey w keyCode goingDown).lamps.isCapsLocked = (s.specialLamps keyCode goingDown).isCapsLocked ∧
    (s.processKey w keyCode goingDown).sierraFix = s.sierraFix := by
  have hfix : ∀ t : Keyboard, t.lamps.prefs = s.lamps.prefs → t.lamps.sierra = s.lamps.sierra →
      t.sierraFix = s.sierraFix := by
    intro t hprefs hsierra
    show (t.lamps.sierra && t.lamps.prefs.fixSierraCapsLockBug) = _
    rw [hprefs, hsierra]
    rfl
  have hspecial : (s.specialLamps keyCode goingDown).prefs = s.lamps.prefs ∧
      (s.specialLamps keyCode goingDown).sierra = s.lamps.sierra := by
    unfold specialLamps
    repeat' split
    all_goals exact ⟨rfl, rfl⟩
  rcases processKey_split w keyCode goingDown s with ⟨hfun, hsome⟩ | ⟨-, heq⟩
  · -- neither Shift nor Caps Lock has a function
    have hother : s.specialLamps keyCode goingDown = s.lamps := by
      have hcode : (extendedFunction keyCode).isSome = true := (Bool.and_eq_true_iff.mp hfun).2
      have hshift : keyCode ≠ 0x2a := by
        intro h
        rw [h] at hcode
        exact absurd hcode (by decide)
      have hcaps : keyCode ≠ 0x3a := by
        intro h
        rw [h] at hcode
        exact absurd hcode (by decide)
      unfold specialLamps
      rw [if_neg hshift, if_neg hcaps]
    have hsame := lamps_ProcessExtendedFunctions w hsome
    rw [hother]
    exact ⟨congrArg Lamps.isCapsLocked hsame, hfix _ (congrArg Lamps.prefs hsame) (congrArg Lamps.sierra hsame)⟩
  · have hdispatch := lamps_dispatchKey w (s.parseSpecialKeys w keyCode goingDown).2 goingDown
      (s.parseSpecialKeys w keyCode goingDown).1
    unfold SameButLED at hdispatch
    rw [← heq, lamps_parseSpecialKeys] at hdispatch
    have hlocked := congrArg Lamps.isCapsLocked hdispatch
    have hprefs := congrArg Lamps.prefs hdispatch
    have hsierra := congrArg Lamps.sierra hdispatch
    exact ⟨hlocked, hfix _ (hprefs.trans hspecial.1) (hsierra.trans hspecial.2)⟩

/-- The state that a key is handled in. -/
theorem caps_key {e : ScanEvent} {s t : Keyboard} (hlamps : t.lamps = s.lamps)
    (hcontrol : t.control = { s.control with
      keyBitVector := Function.update s.keyBitVector (s.target e).keyCode e.goingDown }) (htakes : s.takes e = true) :
    (t.specialLamps (s.target e).keyCode e.goingDown).isCapsLocked =
      (!s.forcesCaps e && (s.isCapsLocked ^^ s.invertsCaps e)) := by
  have hbits : ∀ k, t.isKeyDown k = Function.update s.keyBitVector (s.target e).keyCode e.goingDown k :=
    fun k => congrFun (congrArg Control.keyBitVector hcontrol) k
  have hmode : t.featureToggleMode = s.featureToggleMode := congrArg Control.featureToggleMode hcontrol
  have hlocked : t.isCapsLocked = s.isCapsLocked := congrArg Lamps.isCapsLocked hlamps
  have hlamp : t.lamps.isCapsLocked = s.isCapsLocked := hlocked
  have hfix : (t.lamps.sierra && !t.featureToggleMode && t.prefs.fixSierraCapsLockBug) =
      (s.sierraFix && !s.featureToggleMode) := by
    have hprefs : t.prefs = s.prefs := congrArg Lamps.prefs hlamps
    rw [hmode, hprefs, congrArg Lamps.sierra hlamps]
    exact Bool.and_right_comm _ _ _
  have hnoCaps : (s.target e).keyCode ≠ 0x3a → s.invertsCaps e = false := by
    intro h
    simp [invertsCaps, h]
  have hnoShift : (s.target e).keyCode ≠ 0x2a → s.forcesCaps e = false := by
    intro h
    simp [forcesCaps, h]
  unfold specialLamps
  rw [hfix]
  -- Shift may force Caps Lock off, and only Caps Lock inverts it
  by_cases hshift : (s.target e).keyCode = 0x2a
  · have hcaps : t.isKeyDown 0x3a = s.isKeyDown 0x3a := by
      rw [hbits, hshift]
      rfl
    have hforces : s.forcesCaps e = (e.goingDown && s.isKeyDown 0x3a) := by
      unfold forcesCaps
      rw [htakes, hshift]
      cases e.goingDown <;> rfl
    have hinverts : s.invertsCaps e = false := hnoCaps (by rw [hshift]; decide)
    rw [if_pos hshift, hcaps, hforces, hinverts]
    cases e.goingDown && s.isKeyDown 0x3a with
    | true => rfl
    | false => simpa using hlamp
  rw [if_neg hshift, hnoShift hshift]
  by_cases hcaps : (s.target e).keyCode = 0x3a
  · have hleft : t.isKeyDown 0x2a = s.isKeyDown 0x2a := by
      rw [hbits, hcaps]
      rfl
    have hinverts : s.invertsCaps e = (!(s.isKeyDown 0x2a && e.goingDown) &&
        !(s.sierraFix && !s.featureToggleMode && e.goingDown)) := by
      unfold invertsCaps
      rw [htakes, hcaps]
      rfl
    rw [if_pos hcaps, hleft, hinverts, hlocked]
    cases s.isKeyDown 0x2a <;> cases e.goingDown <;> cases s.sierraFix && !s.featureToggleMode <;> simp [hlamp]
  · rw [if_neg hcaps, hnoCaps hcaps]
    simpa using hlamp

/-- What an event does to `isCapsLocked`; nothing changes whether the fix is on. -/
theorem caps_event (e : ScanEvent) (s : Keyboard) :
    (s.dispatchScanEvent w e).isCapsLocked = (!s.forcesCaps e && (s.isCapsLocked ^^ s.invertsCaps e)) ∧
    (s.dispatchScanEvent w e).sierraFix = s.sierraFix := by
  have hparse : (s.parse w e).1.lamps = s.lamps := lamps_parse w e s
  have hcode := keyCode_parse (w := w) e s
  have hlight : ∀ (t : Keyboard) (d : Bool), (t.dispatchKeyboardBacklightNotification d).isCapsLocked = t.isCapsLocked ∧
      (t.dispatchKeyboardBacklightNotification d).sierraFix = t.sierraFix := by
    intro t d
    have h := lamps_backlight d t
    exact ⟨congrArg Lamps.isCapsLocked h, congrArg (fun l : Lamps => l.sierra && l.prefs.fixSierraCapsLockBug) h⟩
  have hfix : (s.parse w e).1.sierraFix = s.sierraFix :=
    congrArg (fun l : Lamps => l.sierra && l.prefs.fixSierraCapsLockBug) hparse
  have hlocked : (s.parse w e).1.isCapsLocked = s.isCapsLocked := congrArg Lamps.isCapsLocked hparse
  cases dispatchScanEvent_cases w e s with
  | done hzero heq =>
    rw [hcode] at hzero
    rw [heq, (hlight _ _).1, (hlight _ _).2, hlocked]
    refine ⟨?_, hfix⟩
    simp [forcesCaps, invertsCaps, hzero]
  | discarded hne hset hcontrol heq =>
    rw [hcode] at hne hset
    have htakes := takes_parse (w := w) hne
    rw [hset] at htakes
    rw [heq, (hlight _ _).1, (hlight _ _).2, hlocked]
    refine ⟨?_, hfix⟩
    simp [forcesCaps, invertsCaps, ← htakes]
  | key t hne hset hcontrol heq =>
    rw [hcode] at hne hset hcontrol heq
    have htakes := takes_parse (w := w) hne
    rw [hset] at htakes
    have hlamps : t.lamps = s.lamps := by
      rw [updateKeyBitVector_eq hset]
      exact hparse
    obtain ⟨hcaps, hsame⟩ := caps_processKey (w := w) (s.target e).keyCode e.goingDown t
    rw [heq, (hlight _ _).1, (hlight _ _).2]
    refine ⟨hcaps.trans (caps_key hlamps hcontrol htakes.symm), hsame.trans ?_⟩
    exact congrArg (fun l : Lamps => l.sierra && l.prefs.fixSierraCapsLockBug) hlamps

/-- When the mode ends the LED shows `isCapsLocked`. -/
theorem led_event {e : ScanEvent} {s : Keyboard} (hmode : s.featureToggleMode = true)
    (heither : s.control.either = true) (hup : (s.dispatchScanEvent w e).control.either = false) :
    (s.dispatchScanEvent w e).lamps.capsLED = capsBit (s.dispatchScanEvent w e).isCapsLocked := by
  have hcode := keyCode_parse (w := w) e s
  have hbits := bits_event (w := w) e s
  -- an event without a key does not end the mode
  have hkey : (s.target e).keyCode ≠ 0 := by
    intro hzero
    rw [if_pos hzero] at hbits
    have hsame : (s.dispatchScanEvent w e).control.either = s.control.either := (both_congr hbits).2
    rw [hsame, heither] at hup
    cases hup
  rw [if_neg hkey] at hbits
  cases dispatchScanEvent_cases w e s with
  | done hzero heq => exact absurd (hcode.symm.trans hzero) hkey
  | discarded hne hset hcontrol heq =>
    have hsame : (s.dispatchScanEvent w e).control.either = s.control.either := by
      rw [heq, control_backlight, hcontrol]
    rw [hsame, heither] at hup
    cases hup
  | key t hne hset hcontrol heq =>
    rw [hcode] at hcontrol heq
    have hlight := lamps_backlight e.goingDown (t.processKey w (s.target e).keyCode e.goingDown)
    rw [← heq] at hlight
    have ht : t.featureToggleMode = true := (congrArg Control.featureToggleMode hcontrol).trans hmode
    have hneither : ∀ k, k = 0x2a ∨ k = 0x3a → t.isKeyDown k = false := by
      intro k hk
      have hnow : (s.dispatchScanEvent w e).keyBitVector k = false := by
        have hups := Bool.or_eq_false_iff.mp hup
        rcases hk with rfl | rfl
        · exact hups.1
        · exact hups.2
      rw [hbits] at hnow
      exact (congrFun (congrArg Control.keyBitVector hcontrol) k).trans hnow
    -- with both keys up the LED is set as the key is dispatched, in the mode
    have hled : ∀ keyCode d, (t.processKey w keyCode d).lamps.capsLED =
        capsBit (t.processKey w keyCode d).lamps.isCapsLocked := by
      intro keyCode d
      rcases processKey_split w keyCode d t with ⟨hfun, -⟩ | ⟨-, hprocess⟩
      · simp [hasFunction, shiftFunction, ht] at hfun
      · have hspecial := control_parseSpecialKeys w keyCode d t
        have hstays : (t.parseSpecialKeys w keyCode d).1.featureToggleMode = true := by
          refine (congrArg Control.featureToggleMode hspecial).trans ?_
          split
          · rfl
          · exact ht
        have hkeys : ∀ k, (t.parseSpecialKeys w keyCode d).1.isKeyDown k = t.isKeyDown k := by
          intro k
          refine (congrFun (congrArg Control.keyBitVector hspecial) k).trans ?_
          split <;> rfl
        have hshift := (hkeys 0x2a).trans (hneither 0x2a (.inl rfl))
        have hcaps := (hkeys 0x3a).trans (hneither 0x3a (.inr rfl))
        have hdispatch := lamps_dispatchKey w (t.parseSpecialKeys w keyCode d).2 d (t.parseSpecialKeys w keyCode d).1
        unfold SameButLED at hdispatch
        have hlocked := congrArg Lamps.isCapsLocked hdispatch
        rw [hprocess, led_dispatchKey w _ d hstays hshift hcaps]
        exact congrArg capsBit hlocked.symm
    have hnow := congrArg Lamps.capsLED hlight
    have hlocked := congrArg Lamps.isCapsLocked hlight
    exact (hnow.trans (hled _ _)).trans (congrArg capsBit hlocked.symm)

/-- The bits of the two keys. -/
theorem isKeyDown_event (e : ScanEvent) (s : Keyboard) {k : UInt8} (hk : k ≠ 0) :
    (s.dispatchScanEvent w e).isKeyDown k = if (s.target e).keyCode = k then e.goingDown else s.isKeyDown k := by
  unfold isKeyDown
  rw [bits_event]
  by_cases hzero : (s.target e).keyCode = 0
  · rw [if_pos hzero, hzero, if_neg (Ne.symm hk)]
  rw [if_neg hzero]
  by_cases hsame : (s.target e).keyCode = k
  · rw [if_pos hsame, hsame, Function.update_self]
  · rw [if_neg hsame, Function.update_of_ne (Ne.symm hsame)]

theorem both_of_forcesCaps {e : ScanEvent} {s : Keyboard} (h : s.forcesCaps e = true) :
    (s.dispatchScanEvent w e).control.both = true := by
  unfold forcesCaps at h
  simp only [Bool.and_eq_true, decide_eq_true_eq] at h
  obtain ⟨⟨⟨hkey, hdown⟩, -⟩, hcaps⟩ := h
  have hshift : (s.dispatchScanEvent w e).isKeyDown 0x2a = true := by
    rw [isKeyDown_event e s (by decide), if_pos hkey, hdown]
  have hheld : (s.dispatchScanEvent w e).isKeyDown 0x3a = true := by
    rw [isKeyDown_event e s (by decide), if_neg (by rw [hkey]; decide), hcaps]
  exact Bool.and_eq_true_iff.mpr ⟨hshift, hheld⟩

/-- Caps Lock is released. -/
def releasesCaps (e : ScanEvent) (s : Keyboard) : Bool :=
  (s.target e).keyCode = 0x3a && !e.goingDown && s.isKeyDown 0x3a

/-- The mode ends: one of the two keys is released while the other is up. -/
def endsToggle (e : ScanEvent) (s : Keyboard) : Bool :=
  s.featureToggleMode && !e.goingDown &&
    (((s.target e).keyCode = 0x2a && !s.isKeyDown 0x3a) || ((s.target e).keyCode = 0x3a && !s.isKeyDown 0x2a))

end Keyboard

/-! What has happened since both keys were up. -/

/-- The driver, with what the events have been so far. -/
structure CapsHistory where
  keyboard : Keyboard
  /-- `isCapsLocked` when both keys were up. -/
  before : Bool
  /-- `isCapsLocked` when the mode was off. -/
  entered : Bool
  /-- How often it has been inverted since Caps Lock was up. -/
  inverted : Nat
  /-- Left Shift has joined Caps Lock since both keys were up. -/
  forced : Bool
  /-- Caps Lock inverts it an odd number of times, since then. -/
  turned : Bool
  /-- … and did so before the mode was on. -/
  early : Bool

namespace CapsHistory

/-- Both keys are up. -/
def start (s : Keyboard) : CapsHistory :=
  { keyboard := s, before := s.isCapsLocked, entered := s.isCapsLocked, inverted := 0, forced := false
    turned := false, early := false }

/-- An event after `s`, which leaves `s'`. -/
def follow (e : ScanEvent) (s s' : Keyboard) (h : CapsHistory) : CapsHistory :=
  { keyboard := s'
    before := if s'.control.either then h.before else s'.isCapsLocked
    entered := if !s.featureToggleMode && s'.featureToggleMode then s.isCapsLocked else h.entered
    inverted := if s'.isKeyDown 0x3a then h.inverted + (s.isCapsLocked ^^ s'.isCapsLocked).toNat else 0
    forced := s'.control.either && (h.forced || s.forcesCaps e)
    turned := s'.control.either && (!s.forcesCaps e && (h.turned ^^ s.invertsCaps e))
    early := if !s.featureToggleMode && s'.featureToggleMode then h.turned else h.early }

def event (h : CapsHistory) (l : World × ScanEvent) : CapsHistory :=
  h.follow l.2 h.keyboard (h.keyboard.dispatchScanEvent l.1 l.2)

/-- A stroke of Caps Lock outside the mode has inverted `isCapsLocked` once. When the mode
ends it is what it was before the mode, and the LED shows what it was before the two keys. -/
def Right (h : CapsHistory) (l : World × ScanEvent) : Prop :=
  let s := h.keyboard
  let s' := s.dispatchScanEvent l.1 l.2
  (s.featureToggleMode = false → s'.featureToggleMode = false → s.isKeyDown 0x3a = true → s'.isKeyDown 0x3a = false →
    h.inverted + (s.isCapsLocked ^^ s'.isCapsLocked).toNat = 1) ∧
  (s.featureToggleMode = true → s'.featureToggleMode = false →
    s'.isCapsLocked = h.entered ∧ s'.ledState &&& Keyboard.kLED_CapsLock = Keyboard.capsBit h.before)

/-- Outside the mode the fix is on when Caps Lock is released. When the mode ends Caps Lock
has not inverted an odd number of times before it; and if Left Shift has joined Caps Lock it
inverts an odd number of times since then where Caps Lock was on, and else an even number. -/
def Meets (h : CapsHistory) (l : World × ScanEvent) : Prop :=
  let s := h.keyboard
  (s.releasesCaps l.2 = true → s.featureToggleMode = false → s.sierraFix = true) ∧
  (s.endsToggle l.2 = true → h.early = false ∧ (h.turned ^^ s.invertsCaps l.2) = (h.forced && h.before))

/-- What is known of `isCapsLocked` from the events. -/
structure Kept (h : CapsHistory) : Prop where
  mode : Keyboard.ModeRight h.keyboard.featureToggleMode h.keyboard
  value : h.keyboard.isCapsLocked = ((!h.forced && h.before) ^^ h.turned)
  rest : h.keyboard.control.either = false → h.turned = false
  off : h.keyboard.featureToggleMode = false → h.forced = false
  up : h.keyboard.isKeyDown 0x3a = false → h.inverted = 0
  stroke : h.keyboard.featureToggleMode = false → h.keyboard.isKeyDown 0x3a = true →
    if h.keyboard.sierraFix then h.inverted = 0 else 0 < h.inverted
  entry : h.keyboard.featureToggleMode = true → h.entered = (h.before ^^ h.early)

theorem start_kept {s : Keyboard} (hshift : s.isKeyDown 0x2a = false) (hcaps : s.isKeyDown 0x3a = false)
    (hmode : s.featureToggleMode = false) : (start s).Kept := by
  have hboth : s.control.both = false := by
    show (s.isKeyDown 0x2a && s.isKeyDown 0x3a) = false
    rw [hshift]
    rfl
  refine ⟨⟨rfl, ?_, ?_⟩, ?_, fun _ => rfl, fun _ => rfl, fun _ => rfl, ?_, ?_⟩
  · intro h
    exact absurd (h.symm.trans hboth) (by decide)
  · intro h
    exact absurd (h.symm.trans hmode) (by decide)
  · show s.isCapsLocked = _
    simp [start]
  · intro _ h
    exact absurd (h.symm.trans hcaps) (by decide)
  · intro h
    exact absurd (h.symm.trans hmode) (by decide)

variable {h : CapsHistory}

/-- The mode after an event. -/
theorem Kept.mode_event (hk : h.Kept) (l : World × ScanEvent) : (h.event l).keyboard.featureToggleMode =
    ((h.event l).keyboard.control.both ||
      (h.keyboard.featureToggleMode && (h.event l).keyboard.control.either)) :=
  (Keyboard.modeRight_event l.2 hk.mode).mode

/-- Where the mode is off, Left Shift has not joined Caps Lock, and a key that is held was
held outside the mode. -/
theorem Kept.off_event (hk : h.Kept) {l : World × ScanEvent} (hoff : (h.event l).keyboard.featureToggleMode = false) :
    (h.event l).keyboard.control.both = false ∧ h.keyboard.forcesCaps l.2 = false ∧
      ((h.event l).keyboard.control.either = true → h.keyboard.featureToggleMode = false) := by
  have hmode := hk.mode_event l
  rw [hoff] at hmode
  obtain ⟨hboth, hrest⟩ := Bool.or_eq_false_iff.mp hmode.symm
  refine ⟨hboth, ?_, fun heither => ?_⟩
  · cases hforces : h.keyboard.forcesCaps l.2 with
    | false => rfl
    | true => exact absurd ((Keyboard.both_of_forcesCaps hforces).symm.trans hboth) (by decide)
  · rw [heither, Bool.and_true] at hrest
    exact hrest

theorem Kept.value_event (hk : h.Kept) (l : World × ScanEvent) : (h.event l).keyboard.isCapsLocked =
    ((!(h.event l).forced && (h.event l).before) ^^ (h.event l).turned) := by
  have hcaps : (h.event l).keyboard.isCapsLocked = _ := (Keyboard.caps_event (w := l.1) l.2 h.keyboard).1
  have hvalue := hk.value
  have hforced : (h.event l).forced =
      ((h.event l).keyboard.control.either && (h.forced || h.keyboard.forcesCaps l.2)) := rfl
  have hturned : (h.event l).turned = ((h.event l).keyboard.control.either &&
      (!h.keyboard.forcesCaps l.2 && (h.turned ^^ h.keyboard.invertsCaps l.2))) := rfl
  have hbefore : (h.event l).before =
      if (h.event l).keyboard.control.either then h.before else (h.event l).keyboard.isCapsLocked := rfl
  rw [hforced, hturned, hbefore]
  cases (h.event l).keyboard.control.either with
  | false => simp
  | true =>
    rw [hcaps, hvalue]
    cases h.keyboard.forcesCaps l.2 <;> simp

/-- While Caps Lock is held outside the mode: with the fix its press has inverted nothing. -/
theorem Kept.stroke_event (hk : h.Kept) (l : World × ScanEvent)
    (hoff : (h.event l).keyboard.featureToggleMode = false) (hheld : (h.event l).keyboard.isKeyDown 0x3a = true) :
    if (h.event l).keyboard.sierraFix then (h.event l).inverted = 0 else 0 < (h.event l).inverted := by
  obtain ⟨hboth, hforces, hmode⟩ := hk.off_event hoff
  have hm : h.keyboard.featureToggleMode = false := hmode (Bool.or_eq_true_iff.mpr (.inr hheld))
  obtain ⟨hcaps, hfix⟩ := Keyboard.caps_event (w := l.1) l.2 h.keyboard
  have hinverted : (h.event l).inverted = h.inverted + (h.keyboard.invertsCaps l.2).toNat := by
    show (if (h.event l).keyboard.isKeyDown 0x3a then h.inverted + _ else 0) = _
    rw [if_pos hheld, hcaps, hforces]
    cases h.keyboard.isCapsLocked <;> simp
  have hfix' : (h.event l).keyboard.sierraFix = h.keyboard.sierraFix := hfix
  have hbit := Keyboard.isKeyDown_event (w := l.1) l.2 h.keyboard (k := 0x3a) (by decide)
  have hstroke := hk.stroke hm
  rw [hinverted, hfix']
  by_cases hkey : (h.keyboard.target l.2).keyCode = 0x3a
  · have hdown : l.2.goingDown = true := by
      rw [if_pos hkey] at hbit
      exact hbit.symm.trans hheld
    have hshift : h.keyboard.isKeyDown 0x2a = false := by
      have hsame := Keyboard.isKeyDown_event (w := l.1) l.2 h.keyboard (k := 0x2a) (by decide)
      rw [if_neg (by rw [hkey]; decide)] at hsame
      have hnow : ((h.event l).keyboard.isKeyDown 0x2a && (h.event l).keyboard.isKeyDown 0x3a) = false := hboth
      rw [hheld, Bool.and_true] at hnow
      exact hsame.symm.trans hnow
    have hinverts : h.keyboard.invertsCaps l.2 = (h.keyboard.takes l.2 && !h.keyboard.sierraFix) := by
      unfold Keyboard.invertsCaps
      rw [hkey, hshift, hm, hdown]
      simp
    -- the first press inverts just without the fix, and only then repeated ones add to it
    cases hwas : h.keyboard.isKeyDown 0x3a with
    | false =>
      have htakes : h.keyboard.takes l.2 = true := by simp [Keyboard.takes, hkey, hwas]
      rw [hk.up hwas, hinverts, htakes]
      cases h.keyboard.sierraFix <;> simp
    | true =>
      have hstroke := hstroke hwas
      rw [hinverts]
      cases hf : h.keyboard.sierraFix with
      | false =>
        rw [hf] at hstroke
        simp only [Bool.false_eq_true, if_false] at hstroke ⊢
        omega
      | true =>
        rw [hf] at hstroke
        simpa using hstroke
  · have hinverts : h.keyboard.invertsCaps l.2 = false := by simp [Keyboard.invertsCaps, hkey]
    rw [if_neg hkey] at hbit
    have hwas : h.keyboard.isKeyDown 0x3a = true := hbit.symm.trans hheld
    rw [hinverts]
    exact hstroke hwas

theorem Kept.entry_event (hk : h.Kept) (l : World × ScanEvent)
    (hon : (h.event l).keyboard.featureToggleMode = true) :
    (h.event l).entered = ((h.event l).before ^^ (h.event l).early) := by
  have heither : (h.event l).keyboard.control.either = true :=
    (Keyboard.modeRight_event l.2 hk.mode).either ((hk.mode_event l).symm.trans hon)
  have hbefore : (h.event l).before = h.before := if_pos heither
  have hentered : (h.event l).entered = if !h.keyboard.featureToggleMode && (h.event l).keyboard.featureToggleMode then
      h.keyboard.isCapsLocked else h.entered := rfl
  have hearly : (h.event l).early = if !h.keyboard.featureToggleMode && (h.event l).keyboard.featureToggleMode then
      h.turned else h.early := rfl
  rw [hentered, hearly, hbefore, hon, Bool.and_true]
  cases hm : h.keyboard.featureToggleMode with
  | true => exact hk.entry hm
  | false =>
    have hvalue := hk.value
    rw [hk.off hm] at hvalue
    exact hvalue

theorem Kept.event (hk : h.Kept) (l : World × ScanEvent) : (h.event l).Kept := by
  have hright := Keyboard.modeRight_event (w := l.1) l.2 hk.mode
  refine ⟨⟨rfl, ?_, ?_⟩, hk.value_event l, ?_, ?_, ?_, hk.stroke_event l, hk.entry_event l⟩
  · intro hboth
    exact hright.mode.trans (hright.both hboth)
  · intro hon
    exact hright.either (hright.mode.symm.trans hon)
  · intro hrest
    show ((h.event l).keyboard.control.either && _) = false
    rw [hrest]
    rfl
  · intro hoff
    obtain ⟨-, hforces, hmode⟩ := hk.off_event hoff
    show ((h.event l).keyboard.control.either && (h.forced || h.keyboard.forcesCaps l.2)) = false
    cases heither : (h.event l).keyboard.control.either with
    | false => rfl
    | true =>
      rw [hforces, hk.off (hmode heither)]
      rfl
  · intro hup
    show (if (h.event l).keyboard.isKeyDown 0x3a then _ else 0) = 0
    rw [hup]
    rfl

/-- A stroke outside the mode. -/
theorem Kept.stroke_iff (hk : h.Kept) (l : World × ScanEvent) :
    (h.keyboard.featureToggleMode = false → (h.event l).keyboard.featureToggleMode = false →
      h.keyboard.isKeyDown 0x3a = true → (h.event l).keyboard.isKeyDown 0x3a = false →
      h.inverted + (h.keyboard.isCapsLocked ^^ (h.event l).keyboard.isCapsLocked).toNat = 1) ↔
    (h.keyboard.releasesCaps l.2 = true → h.keyboard.featureToggleMode = false → h.keyboard.sierraFix = true) := by
  have hbit : (h.event l).keyboard.isKeyDown 0x3a = _ :=
    Keyboard.isKeyDown_event (w := l.1) l.2 h.keyboard (k := 0x3a) (by decide)
  have hcaps : (h.event l).keyboard.isCapsLocked = _ := (Keyboard.caps_event (w := l.1) l.2 h.keyboard).1
  -- the release inverts in any case
  have hchange : (h.keyboard.target l.2).keyCode = 0x3a → l.2.goingDown = false →
      (h.keyboard.isCapsLocked ^^ (h.event l).keyboard.isCapsLocked) = true := by
    intro hkey hup
    have hinverts : h.keyboard.invertsCaps l.2 = true := by
      simp [Keyboard.invertsCaps, Keyboard.takes, hkey, hup]
    have hforces : h.keyboard.forcesCaps l.2 = false := by simp [Keyboard.forcesCaps, hup]
    rw [hcaps, hforces, hinverts]
    cases h.keyboard.isCapsLocked <;> rfl
  constructor
  · intro hright hreleases hm
    unfold Keyboard.releasesCaps at hreleases
    simp only [Bool.and_eq_true, decide_eq_true_eq, Bool.not_eq_true'] at hreleases
    obtain ⟨⟨hkey, hup⟩, hwas⟩ := hreleases
    rw [if_pos hkey] at hbit
    have hoff : (h.event l).keyboard.featureToggleMode = false := by
      have hboth : (h.event l).keyboard.control.both = false :=
        Bool.and_eq_false_iff.mpr (.inr (hbit.trans hup))
      rw [hk.mode_event l, hboth, hm]
      rfl
    have hone := hright hm hoff hwas (hbit.trans hup)
    rw [hchange hkey hup, Bool.toNat_true] at hone
    have hstroke := hk.stroke hm hwas
    cases hf : h.keyboard.sierraFix with
    | true => rfl
    | false =>
      rw [hf] at hstroke
      simp only [Bool.false_eq_true, if_false] at hstroke
      omega
  · intro hmeets hm _ hwas hnow
    have hkey : (h.keyboard.target l.2).keyCode = 0x3a := by
      by_contra hne
      rw [if_neg hne, hwas] at hbit
      exact absurd (hbit.symm.trans hnow) (by decide)
    have hup : l.2.goingDown = false := by
      rw [if_pos hkey] at hbit
      exact hbit.symm.trans hnow
    have hfix : h.keyboard.sierraFix = true := hmeets (by simp [Keyboard.releasesCaps, hkey, hup, hwas]) hm
    have hstroke := hk.stroke hm hwas
    rw [hfix, if_pos rfl] at hstroke
    rw [hchange hkey hup, hstroke, Bool.toNat_true]

theorem Kept.ends_iff (hk : h.Kept) (l : World × ScanEvent) : h.keyboard.endsToggle l.2 = true ↔
    h.keyboard.featureToggleMode = true ∧ (h.event l).keyboard.featureToggleMode = false := by
  have hcaps : (h.event l).keyboard.isKeyDown 0x3a = _ :=
    Keyboard.isKeyDown_event (w := l.1) l.2 h.keyboard (k := 0x3a) (by decide)
  have hshift : (h.event l).keyboard.isKeyDown 0x2a = _ :=
    Keyboard.isKeyDown_event (w := l.1) l.2 h.keyboard (k := 0x2a) (by decide)
  have heither : (h.event l).keyboard.control.either =
      ((h.event l).keyboard.isKeyDown 0x2a || (h.event l).keyboard.isKeyDown 0x3a) := rfl
  have hboth : (h.event l).keyboard.control.both =
      ((h.event l).keyboard.isKeyDown 0x2a && (h.event l).keyboard.isKeyDown 0x3a) := rfl
  have hwas : h.keyboard.featureToggleMode = true →
      (h.keyboard.isKeyDown 0x2a || h.keyboard.isKeyDown 0x3a) = true := hk.mode.either
  rw [hk.mode_event l, hboth, heither, hcaps, hshift]
  unfold Keyboard.endsToggle
  cases hm : h.keyboard.featureToggleMode with
  | false => simp
  | true =>
    have hwas := hwas hm
    by_cases hk2a : (h.keyboard.target l.2).keyCode = 0x2a
    · simp [hk2a]
      grind
    by_cases hk3a : (h.keyboard.target l.2).keyCode = 0x3a
    · simp [hk3a]
      grind
    · simp [hk2a, hk3a]
      grind

/-- The end of the mode. -/
theorem Kept.end_iff (hk : h.Kept) {l : World × ScanEvent} (hends : h.keyboard.endsToggle l.2 = true) :
    ((h.event l).keyboard.isCapsLocked = h.entered ∧
      (h.event l).keyboard.ledState &&& Keyboard.kLED_CapsLock = Keyboard.capsBit h.before) ↔
    (h.early = false ∧ (h.turned ^^ h.keyboard.invertsCaps l.2) = (h.forced && h.before)) := by
  obtain ⟨hm, hoff⟩ := (hk.ends_iff l).1 hends
  have hcaps : (h.event l).keyboard.isCapsLocked = _ := (Keyboard.caps_event (w := l.1) l.2 h.keyboard).1
  have hup : (h.event l).keyboard.control.either = false := by
    cases heither : (h.event l).keyboard.control.either with
    | false => rfl
    | true => exact absurd (((hk.off_event hoff).2.2 heither).symm.trans hm) (by decide)
  have hled : (h.event l).keyboard.ledState &&& Keyboard.kLED_CapsLock = _ :=
    Keyboard.led_event (w := l.1) hm (hk.mode.either hm) hup
  have hforces := (hk.off_event hoff).2.1
  have hbit : ∀ b b' : Bool, Keyboard.capsBit b = Keyboard.capsBit b' ↔ b = b' := by decide
  have hlocked : (h.keyboard.dispatchScanEvent l.1 l.2).isCapsLocked = _ := hcaps
  rw [hled, hbit, hlocked, hcaps, hforces, hk.value, hk.entry hm]
  generalize h.keyboard.invertsCaps l.2 = inverts
  cases h.forced <;> cases h.before <;> cases h.turned <;> cases h.early <;> cases inverts <;> decide

theorem Kept.right_iff (hk : h.Kept) (l : World × ScanEvent) : h.Right l ↔ h.Meets l := by
  apply and_congr (hk.stroke_iff l)
  constructor
  · intro hright hends
    obtain ⟨hm, hoff⟩ := (hk.ends_iff l).1 hends
    exact (hk.end_iff hends).1 (hright hm hoff)
  · intro hmeets hm hoff
    have hends := (hk.ends_iff l).2 ⟨hm, hoff⟩
    exact (hk.end_iff hends).2 (hmeets hends)

/-- From a state in which both keys are up, over any events: every stroke of Caps Lock and
every stay in the mode is right just when every event meets the condition. -/
theorem capsLock_right_iff {s : Keyboard} (hshift : s.isKeyDown 0x2a = false) (hcaps : s.isKeyDown 0x3a = false)
    (hmode : s.featureToggleMode = false) (ls : List (World × ScanEvent)) :
    (∀ p l, p ++ [l] <+: ls → (Transition.run event p (start s)).Right l) ↔
      ∀ p l, p ++ [l] <+: ls → (Transition.run event p (start s)).Meets l := by
  exact Transition.run_property_iff (I := Kept) (fun _ l hk _ => hk.event l) (fun _ l hk => hk.right_iff l) ls
    (start_kept hshift hcaps hmode)

/-! Two runs. -/

open Keyboard

instance (h : CapsHistory) (l : World × ScanEvent) : Decidable (h.Meets l) :=
  inferInstanceAs (Decidable ((_ → _ → _) ∧ (_ → _ ∧ _)))

/-- A stroke of Caps Lock. -/
def stroke : List (World × ScanEvent) := [keyPress false 0x3a, keyRelease false 0x3a]

theorem capsLock_right_stroke :
    ((start afterStart).event (keyPress false 0x3a)).Right (keyRelease false 0x3a) := by
  have hmeets : ∀ p l, p ++ [l] <+: stroke → (Transition.run event p (start afterStart)).Meets l := by
    rw [stroke, Transition.run_steps_cons, Transition.run_steps_cons]
    exact ⟨by decide +kernel, by decide +kernel, Transition.run_steps_nil _⟩
  exact (capsLock_right_iff rfl rfl rfl stroke).2 hmeets [keyPress false 0x3a] _ (List.prefix_refl _)

/-- With the fix, a stay in the mode with no other key leaves Caps Lock on. Without it a stroke
of Caps Lock inverts `isCapsLocked` twice. -/
theorem capsLock_astray :
    (afterStart.sierraFix = true ∧ afterStart.isCapsLocked = false ∧
      (Keyboard.run shiftCaps afterStart).featureToggleMode = false ∧
      (Keyboard.run shiftCaps afterStart).isCapsLocked = true ∧
      (Keyboard.run shiftCaps afterStart).ledState &&& kLED_CapsLock = kLED_CapsLock) ∧
    ∃ s : Keyboard, s.sierraFix = false ∧ s.isCapsLocked = false ∧
      (s.dispatchScanEvent quietWorld ⟨false, 0x3a, true⟩).isCapsLocked = true ∧
      (Keyboard.run stroke s).isCapsLocked = false := by
  refine ⟨by decide +kernel, { afterStart with osxVersion := 11 }, ?_⟩
  decide +kernel

end CapsHistory

end ApplePS2
