import ApplePS2.Keyboard.Event
import ApplePS2.Touchpad.Notifications

/- The feature toggle mode: is it on while Left Shift and Caps Lock are held, and has
   the touchpad's display of pressure and width its former value afterwards?

   1. `toggled_event`: what an event does to the mode, and to the number of times the
      touchpad has been told to toggle its display.
   2. `featureToggle_balanced`: the mode is right after every event, and the display
      has its former value when all keys are up again if and only if one of the two
      keys has joined the other an even number of times while the mode was on.
   3. `display_leftOn`: Left Shift is pressed a second time while Caps Lock is held. -/
namespace ApplePS2

namespace Keyboard

variable {w : World}

/-! The mode and the notifications. -/

/-- How often the touchpad has been told to toggle its display. -/
def Control.shows (c : Control) : Nat := c.notified.count .kPS2C_ShowTouchPressureWidth

/-- Left Shift and Caps Lock. -/
def Control.both (c : Control) : Bool := c.keyBitVector 0x2a && c.keyBitVector 0x3a
def Control.either (c : Control) : Bool := c.keyBitVector 0x2a || c.keyBitVector 0x3a

theorem both_congr {c c' : Control} (h : c.keyBitVector = c'.keyBitVector) :
    c.both = c'.both ∧ c.either = c'.either := by
  unfold Control.both Control.either
  rw [h]
  exact ⟨rfl, rfl⟩

/-- The mode, and how often its display has been toggled. -/
structure Toggled where
  mode : Bool
  shows : Nat

def Control.toggled (c : Control) : Toggled := ⟨c.featureToggleMode, c.shows⟩

theorem toggled_notify {n : PS2Notification} (hn : n ≠ .kPS2C_ShowTouchPressureWidth) (c : Control) :
    (c.notify n).toggled = c.toggled := by
  simp [Control.toggled, Control.shows, Control.notify, hn]

theorem toggled_show (c : Control) :
    (c.notify .kPS2C_ShowTouchPressureWidth).toggled = ⟨c.featureToggleMode, c.shows + 1⟩ := by
  simp [Control.toggled, Control.shows, Control.notify]

theorem toggled_fnEffect {c c' : Control} (h : FnEffect c c') : c'.toggled = c.toggled := by
  have htoggle : c.toggleTouchpad.toggled = c.toggled := by
    unfold Control.toggleTouchpad
    split
    · exact toggled_notify (by decide) _
    · exact toggled_notify (by decide) _
  cases h with
  | none => rfl
  | touchpad => exact htoggle
  | displaySleep => exact htoggle

theorem toggled_toggleEffect {c c' : Control} (h : ToggleEffect c c') : c'.toggled = c.toggled := by
  cases h with
  | fnKey h => exact toggled_fnEffect h
  | feature h =>
    cases h with
    | same => rfl
    | restore => exact toggled_notify (by decide) _

theorem toggled_dispatchEffect {c c' : Control} (h : DispatchEffect c c') : c'.toggled = c.toggled := by
  cases h with
  | fnKey h => exact toggled_fnEffect h
  | modifiers cmd ctrl alt =>
    unfold Control.notifyModifiers
    cases hn : modifierNotification cmd ctrl alt c.modifierKeystate with
    | none => rfl
    | some r =>
      have hlist : ∀ n ∈ modifierNotifications, n ≠ .kPS2C_ShowTouchPressureWidth := by decide
      exact toggled_notify (hlist _ (modifierNotification_mem hn)) _
  | enabled => exact toggled_notify (by decide) _

/-- What the dispatch of a key makes of the mode: it ends when both keys are up. -/
def Toggled.leave (both either : Bool) (t : Toggled) : Toggled :=
  if t.mode && !both && !either then ⟨false, t.shows + 1⟩ else t

theorem toggled_dispatchKey (keyCode : UInt8) (goingDown : Bool) (s : Keyboard) :
    (s.dispatchKey w keyCode goingDown).control.toggled =
      s.control.toggled.leave s.control.both s.control.either := by
  have hmode : s.control.toggled.mode = s.featureToggleMode := rfl
  unfold Toggled.leave
  rw [hmode]
  cases h : s.featureToggleMode with
  | false => exact toggled_dispatchEffect (effect_dispatchKey w keyCode goingDown h)
  | true =>
    rw [dispatchKey_toggle w keyCode goingDown h]
    have hboth : s.control.both = (s.isKeyDown 0x2a && s.isKeyDown 0x3a) := rfl
    have heither : s.control.either = (s.isKeyDown 0x2a || s.isKeyDown 0x3a) := rfl
    rw [hboth, heither]
    cases hshift : s.isKeyDown 0x2a <;> cases hcaps : s.isKeyDown 0x3a
    · rw [control_processFeatureToggle_end w keyCode goingDown ⟨hshift, hcaps⟩]
      exact toggled_show _
    · rw [control_processFeatureToggle_one w keyCode goingDown (by simp [hshift, hcaps])]
      rfl
    · rw [control_processFeatureToggle_one w keyCode goingDown (by simp [hshift, hcaps])]
      rfl
    · exact toggled_toggleEffect (effect_processFeatureToggle_both w keyCode goingDown ⟨hshift, hcaps⟩)

/-! One event. -/

/-- The event is the press, not a repeated one, of one of the two keys while the other is held. -/
def joins (w : World) (e : ScanEvent) (s : Keyboard) : Bool :=
  e.goingDown && ((s.parse w e).1.updateKeyBitVector (s.parse w e).2 e.goingDown).isSome &&
    (((s.parse w e).2 = 0x2a && s.isKeyDown 0x3a) || ((s.parse w e).2 = 0x3a && s.isKeyDown 0x2a))

/-- The two keys come together: the mode is on, and the touchpad told. -/
def Toggled.join (joins : Bool) (t : Toggled) : Toggled := if joins then ⟨true, t.shows + 1⟩ else t

theorem leave_either {both : Bool} {t : Toggled} (h : t.mode = true → both = true) (either : Bool) :
    t.leave either both = t := by
  unfold Toggled.leave
  cases hmode : t.mode with
  | false => rfl
  | true => simp [h hmode]

/-- An event that sets no bit changes neither. -/
theorem toggled_same {e : ScanEvent} {s : Keyboard} (hrest : s.featureToggleMode = true → s.control.either = true)
    (hjoins : s.joins w e = false) {c : Control} (hbits : c.keyBitVector = s.keyBitVector)
    (htoggled : c.toggled = s.control.toggled) :
    c.toggled = (s.control.toggled.join (s.joins w e)).leave c.both c.either := by
  have heither : c.either = s.control.either := by
    unfold Control.either
    rw [hbits]
    rfl
  have hjoin : s.control.toggled.join false = s.control.toggled := rfl
  rw [hjoins, hjoin, heither, leave_either hrest]
  exact htoggled

/-- An event: the keys may come together, and the mode may end. -/
theorem toggled_event (e : ScanEvent) (s : Keyboard) (hrest : s.featureToggleMode = true → s.control.either = true) :
    (s.dispatchScanEvent w e).control.toggled = (s.control.toggled.join (s.joins w e)).leave
      (s.dispatchScanEvent w e).control.both (s.dispatchScanEvent w e).control.either := by
  cases dispatchScanEvent_cases w e s with
  | done hzero heq =>
    have hjoins : s.joins w e = false := by simp [joins, hzero]
    rw [heq, control_backlight]
    rcases (effect_parse w e s).effect with hsame | ⟨_, htoggle⟩
    · exact toggled_same hrest hjoins (congrArg Control.keyBitVector hsame) (congrArg Control.toggled hsame)
    · have heffect : FnEffect s.control s.control.toggleTouchpad := .touchpad
      rw [htoggle]
      exact toggled_same hrest hjoins heffect.keeps.1 (toggled_fnEffect heffect)
  | discarded _ hset hcontrol heq =>
    have hjoins : s.joins w e = false := by simp [joins, hset]
    rw [heq, control_backlight]
    exact toggled_same hrest hjoins (congrArg Control.keyBitVector hcontrol) (congrArg Control.toggled hcontrol)
  | key t hne hset hcontrol heq =>
    rw [heq, control_backlight]
    have hbits : t.keyBitVector = Function.update s.keyBitVector (s.parse w e).2 e.goingDown :=
      congrArg Control.keyBitVector hcontrol
    have htoggled : t.control.toggled = s.control.toggled := by
      rw [hcontrol]
      rfl
    have hstarts : t.startsToggle (s.parse w e).2 e.goingDown = s.joins w e := by
      unfold startsToggle joins
      rw [hset]
      by_cases hshift : (s.parse w e).2 = 0x2a
      · simp [isKeyDown, hbits, hshift]
      by_cases hcaps : (s.parse w e).2 = 0x3a
      · simp [isKeyDown, hbits, hcaps]
      · simp [hshift, hcaps]
    -- a function of Shift takes the mode to be off, and neither of the two keys has one
    rcases processKey_cases w (s.parse w e).2 e.goingDown t with ⟨hshift, hfun, hsame⟩ | hkey
    · have hmode : t.control.toggled.mode = false := by
        cases hon : t.featureToggleMode with
        | false => exact hon
        | true => simp [shiftFunction, hon] at hshift
      have hjoins : s.joins w e = false := by
        rw [← hstarts]
        unfold startsToggle
        by_cases hcaps : (s.parse w e).2 = 0x3a
        · rw [hcaps] at hfun
          exact absurd hfun (by decide)
        by_cases hleft : (s.parse w e).2 = 0x2a
        · rw [hleft] at hfun
          exact absurd hfun (by decide)
        · simp [hcaps, hleft]
      have hjoin : s.control.toggled.join false = s.control.toggled := rfl
      rw [hsame, htoggled, hjoins, hjoin, leave_either]
      rw [← htoggled, hmode]
      intro h
      cases h
    · rw [hkey, toggled_dispatchKey]
      have hspecial := control_parseSpecialKeys w (s.parse w e).2 e.goingDown t
      rw [hstarts] at hspecial
      have hsame : (t.parseSpecialKeys w (s.parse w e).2 e.goingDown).1.keyBitVector = t.keyBitVector := by
        refine (congrArg Control.keyBitVector hspecial).trans ?_
        split <;> rfl
      have hall := keyBitVector_processKey w (s.parse w e).2 e.goingDown t
      rw [hkey] at hall
      have hbits : (t.parseSpecialKeys w (s.parse w e).2 e.goingDown).1.control.keyBitVector =
          ((t.parseSpecialKeys w (s.parse w e).2 e.goingDown).1.dispatchKey w
            (t.parseSpecialKeys w (s.parse w e).2 e.goingDown).2 e.goingDown).control.keyBitVector :=
        hsame.trans hall.symm
      obtain ⟨hboth, heither⟩ := both_congr hbits
      rw [hboth, heither]
      congr 1
      rw [hspecial]
      unfold Toggled.join
      split
      · rw [← htoggled]
        exact toggled_show _
      · exact htoggled

/-- The mode is on while the keys have been down together and have not both been up since. -/
structure ModeRight (together : Bool) (s : Keyboard) : Prop where
  mode : s.featureToggleMode = together
  both : s.control.both = true → together = true
  either : together = true → s.control.either = true

/-- Whether the keys have been down together and have not both been up since, after a
state in which they are as in `s`. -/
def stillTogether (together : Bool) (s : Keyboard) : Bool := s.control.both || (together && s.control.either)

theorem keyBitVector_key {e : ScanEvent} {s t : Keyboard} {c : Control}
    (hcontrol : t.control = { c with
      keyBitVector := Function.update s.keyBitVector (s.parse w e).2 e.goingDown })
    (heq : s.dispatchScanEvent w e =
      (t.processKey w (s.parse w e).2 e.goingDown).dispatchKeyboardBacklightNotification e.goingDown) :
    (s.dispatchScanEvent w e).keyBitVector = Function.update s.keyBitVector (s.parse w e).2 e.goingDown := by
  have hlight := congrArg Control.keyBitVector (control_backlight e.goingDown (t.processKey w (s.parse w e).2 e.goingDown))
  rw [heq]
  exact (hlight.trans (keyBitVector_processKey w _ _ t)).trans (congrArg Control.keyBitVector hcontrol)

theorem both_of_joins {e : ScanEvent} {s : Keyboard} (h : s.joins w e = true) :
    (s.dispatchScanEvent w e).control.both = true := by
  unfold joins at h
  simp only [Bool.and_eq_true, Bool.or_eq_true, decide_eq_true_eq] at h
  obtain ⟨⟨hdown, hsome⟩, hkeys⟩ := h
  show ((s.dispatchScanEvent w e).keyBitVector 0x2a && (s.dispatchScanEvent w e).keyBitVector 0x3a) = true
  cases dispatchScanEvent_cases w e s with
  | done hzero heq =>
    rw [hzero] at hkeys
    rcases hkeys with ⟨hkey, _⟩ | ⟨hkey, _⟩ <;> exact absurd hkey (by decide)
  | discarded _ hset hcontrol heq =>
    rw [hset] at hsome
    cases hsome
  | key t hne hset hcontrol heq =>
    rw [keyBitVector_key hcontrol heq]
    rcases hkeys with ⟨hkey, hother⟩ | ⟨hkey, hother⟩
    · rw [hkey, hdown]
      simpa using hother
    · rw [hkey, hdown]
      simpa using hother

/-- The second key of the two is pressed while the other is held, or they were both held. -/
theorem joins_of_both {e : ScanEvent} {s : Keyboard} (h : (s.dispatchScanEvent w e).control.both = true) :
    s.joins w e = true ∨ s.control.both = true := by
  have hsame : ∀ c : Control, (s.dispatchScanEvent w e).control = c → c.keyBitVector = s.keyBitVector →
      s.control.both = true := by
    intro c hc hbits
    rw [hc] at h
    exact (both_congr (c := s.control) hbits.symm).1.trans h
  cases dispatchScanEvent_cases w e s with
  | done hzero heq =>
    right
    rw [heq, control_backlight] at hsame
    refine hsame _ rfl ?_
    rcases (effect_parse w e s).effect with hc | ⟨_, hc⟩
    · exact congrArg Control.keyBitVector hc
    · exact (congrArg Control.keyBitVector hc).trans (FnEffect.touchpad (c := s.control)).keeps.1
  | discarded _ hset hcontrol heq =>
    right
    rw [heq, control_backlight] at hsame
    exact hsame _ rfl (congrArg Control.keyBitVector hcontrol)
  | key t hne hset hcontrol heq =>
    have hupdate := keyBitVector_key hcontrol heq
    have hboth : Function.update s.keyBitVector (s.parse w e).2 e.goingDown 0x2a = true ∧
        Function.update s.keyBitVector (s.parse w e).2 e.goingDown 0x3a = true := by
      rw [← hupdate]
      exact Bool.and_eq_true_iff.mp h
    -- one bit has changed: if it is that of a key of the two, the other one was held
    by_cases hshift : (s.parse w e).2 = 0x2a
    · left
      rw [hshift] at hboth
      unfold joins
      rw [Function.update_self, Function.update_of_ne (by decide)] at hboth
      rw [hset]
      simp [hshift, hboth.1, isKeyDown, hboth.2]
    by_cases hcaps : (s.parse w e).2 = 0x3a
    · left
      rw [hcaps] at hboth
      unfold joins
      rw [Function.update_of_ne (by decide), Function.update_self] at hboth
      rw [hset]
      simp [hcaps, hboth.1, isKeyDown, hboth.2]
    · right
      rw [Function.update_of_ne (Ne.symm hshift), Function.update_of_ne (Ne.symm hcaps)] at hboth
      exact Bool.and_eq_true_iff.mpr hboth

theorem modeRight_event {together : Bool} {s : Keyboard} (e : ScanEvent) (h : ModeRight together s) :
    ModeRight (stillTogether together (s.dispatchScanEvent w e)) (s.dispatchScanEvent w e) := by
  have hevent := toggled_event (w := w) e s (by rw [h.mode]; exact h.either)
  have hjoin := joins_of_both (w := w) (e := e) (s := s)
  have heither : (s.dispatchScanEvent w e).control.both = true →
      (s.dispatchScanEvent w e).control.either = true := by
    intro hb
    exact Bool.or_eq_true_iff.mpr (.inl (Bool.and_eq_true_iff.mp hb).1)
  have hmode : (s.dispatchScanEvent w e).featureToggleMode = ((s.control.toggled.join (s.joins w e)).leave
      (s.dispatchScanEvent w e).control.both (s.dispatchScanEvent w e).control.either).mode :=
    congrArg Toggled.mode hevent
  have hold : s.control.toggled = ⟨together, s.control.shows⟩ := congrArg (Toggled.mk · _) h.mode
  have hnow := both_of_joins (w := w) (e := e) (s := s)
  rw [hold] at hmode
  refine ⟨?_, ?_, ?_⟩
  · rw [hmode]
    unfold Toggled.leave Toggled.join stillTogether
    revert hjoin heither hnow
    have hboth := h.both
    revert hboth
    generalize (s.dispatchScanEvent w e).control.both = both'
    generalize (s.dispatchScanEvent w e).control.either = either'
    generalize s.joins w e = joins
    generalize s.control.both = both
    cases together <;> cases joins <;> cases both <;> cases both' <;> cases either' <;> simp
  · intro hb
    simp [stillTogether, hb]
  · intro ht
    unfold stillTogether at ht
    cases hb : (s.dispatchScanEvent w e).control.both with
    | true => exact heither hb
    | false =>
      rw [hb, Bool.false_or] at ht
      exact (Bool.and_eq_true_iff.mp ht).2

/-- The number of toggles and the mode change together, but for a key that joins the
other while the mode is on. -/
theorem parity_event (e : ScanEvent) {s : Keyboard} (hrest : s.featureToggleMode = true → s.control.either = true) :
    ((s.dispatchScanEvent w e).control.shows + (s.dispatchScanEvent w e).featureToggleMode.toNat) % 2 =
      (s.control.shows + s.featureToggleMode.toNat + (s.featureToggleMode && s.joins w e).toNat) % 2 := by
  have hevent := toggled_event (w := w) e s hrest
  have hshows := congrArg Toggled.shows hevent
  have hmode := congrArg Toggled.mode hevent
  have hold : s.control.toggled = ⟨s.featureToggleMode, s.control.shows⟩ := rfl
  rw [hold] at hshows hmode
  change (s.dispatchScanEvent w e).control.shows = _ at hshows
  change (s.dispatchScanEvent w e).featureToggleMode = _ at hmode
  rw [hshows, hmode]
  unfold Toggled.leave Toggled.join
  generalize (s.dispatchScanEvent w e).control.both = both'
  generalize (s.dispatchScanEvent w e).control.either = either'
  cases s.featureToggleMode <;> cases s.joins w e <;> cases both' <;> cases either' <;> simp <;> omega

/-! Runs. -/

def run (ls : List (World × ScanEvent)) (s : Keyboard) : Keyboard :=
  ls.foldl (fun s l => s.dispatchScanEvent l.1 l.2) s

/-- Whether the keys have been down together and have not both been up since. -/
def together : List (World × ScanEvent) → Keyboard → Bool → Bool
  | [], _, together => together
  | l :: ls, s, t => together ls (s.dispatchScanEvent l.1 l.2) (stillTogether t (s.dispatchScanEvent l.1 l.2))

/-- How often one of the two keys has joined the other while the mode was on. -/
def rejoins : List (World × ScanEvent) → Keyboard → Nat
  | [], _ => 0
  | l :: ls, s => (s.featureToggleMode && s.joins l.1 l.2).toNat + rejoins ls (s.dispatchScanEvent l.1 l.2)

theorem modeRight_run (ls : List (World × ScanEvent)) {s : Keyboard} {t : Bool} (h : ModeRight t s) :
    ModeRight (together ls s t) (run ls s) := by
  induction ls generalizing s t with
  | nil => exact h
  | cons l ls ih => exact ih (modeRight_event l.2 h)

theorem parity_run (ls : List (World × ScanEvent)) {s : Keyboard} {t : Bool} (h : ModeRight t s) :
    ((run ls s).control.shows + (run ls s).featureToggleMode.toNat) % 2 =
      (s.control.shows + s.featureToggleMode.toNat + rejoins ls s) % 2 := by
  induction ls generalizing s t with
  | nil => rfl
  | cons l ls ih =>
    have hevent := parity_event (w := l.1) l.2 (s := s) (by rw [h.mode]; exact h.either)
    have hrest := ih (modeRight_event (w := l.1) l.2 h)
    have hrun : run (l :: ls) s = run ls (s.dispatchScanEvent l.1 l.2) := rfl
    rw [hrun, hrest, rejoins]
    omega

end Keyboard

/-! The touchpad's display. -/

namespace Touchpad

/-- The notifications are handled one after the other. -/
def receiveAll (told : List (TouchpadWorld × PS2Notification)) (s : Touchpad) : Touchpad :=
  told.foldl (fun s l => s.receiveKeyboardNotifications l.1 l.2) s

theorem showPressWidth_other {n : PS2Notification} (hn : n ≠ .kPS2C_ShowTouchPressureWidth) (appSwitch : Bool)
    (osxVersion : UInt8) (c : Shared) : (c.receive n appSwitch osxVersion).showPressWidth = c.showPressWidth := by
  unfold Shared.receive
  split
  · exact absurd rfl hn
  all_goals try rfl
  · split <;> rfl

theorem showPressWidth_receiveAll (told : List (TouchpadWorld × PS2Notification)) (s : Touchpad) :
    (s.receiveAll told).kbEvent.showPressWidth =
      (s.kbEvent.showPressWidth ^^ decide ((told.map Prod.snd).count .kPS2C_ShowTouchPressureWidth % 2 = 1)) := by
  induction told generalizing s with
  | nil => simp [receiveAll]
  | cons l told ih =>
    have hhead := congrArg Shared.showPressWidth (shared_receive (w := l.1) l.2 s)
    change (s.receiveKeyboardNotifications l.1 l.2).kbEvent.showPressWidth = _ at hhead
    have hcons : s.receiveAll (l :: told) = (s.receiveKeyboardNotifications l.1 l.2).receiveAll told := rfl
    rw [hcons, ih, hhead, List.map_cons, List.count_cons]
    generalize (told.map Prod.snd).count .kPS2C_ShowTouchPressureWidth = k
    by_cases hshow : l.2 = .kPS2C_ShowTouchPressureWidth
    · rw [hshow]
      have hodd : decide ((k + 1) % 2 = 1) = !decide (k % 2 = 1) := by
        rcases Nat.mod_two_eq_zero_or_one k with h | h <;> simp [Nat.add_mod, h]
      simp only [beq_self_eq_true, if_true]
      rw [hodd]
      show ((!s.kbEvent.showPressWidth) ^^ _) = _
      cases s.kbEvent.showPressWidth <;> simp
    · rw [showPressWidth_other hshow]
      simp [hshow, shared]

end Touchpad

namespace Keyboard

def AllUp (s : Keyboard) : Prop := ∀ k, s.isKeyDown k = false

theorem AllUp.modeRight {s : Keyboard} (h : s.AllUp) (hmode : s.featureToggleMode = false) : ModeRight false s := by
  refine ⟨hmode, fun hb => ?_, fun ht => by cases ht⟩
  have hshift : s.keyBitVector 0x2a = true := (Bool.and_eq_true_iff.mp hb).1
  exact absurd (hshift.symm.trans (h 0x2a)) (by decide)

theorem shows_eq (s : Keyboard) : s.control.shows = s.notifications.count .kPS2C_ShowTouchPressureWidth :=
  List.count_filter (by decide)

/-- From all keys up the mode is right after every event. When all keys are up again the
touchpad has been told to toggle its display an even number of times, and shows what it did
before, if and only if one of the two keys has joined the other an even number of times while
the mode was on. -/
theorem featureToggle_balanced {s : Keyboard} (hup : s.AllUp) (hmode : s.featureToggleMode = false)
    (ls : List (World × ScanEvent)) (tp : Touchpad) :
    ((∀ l, l <+: ls → (run l s).featureToggleMode = together l s false) ∧
      ((run ls s).AllUp →
        (run ls s).notifications.count .kPS2C_ShowTouchPressureWidth % 2 =
          s.notifications.count .kPS2C_ShowTouchPressureWidth % 2 ∧
        ∀ told told', told.map Prod.snd = s.notifications → told'.map Prod.snd = (run ls s).notifications →
          (tp.receiveAll told').kbEvent.showPressWidth = (tp.receiveAll told).kbEvent.showPressWidth)) ↔
    ((run ls s).AllUp → rejoins ls s % 2 = 0) := by
  have hright := hup.modeRight hmode
  have hparity := parity_run ls hright
  rw [hmode, shows_eq, shows_eq] at hparity
  -- at the end the mode is off, and the rejoins alone make the parity
  have hoff : (run ls s).AllUp → (run ls s).featureToggleMode = false := by
    intro hend
    have hlast := modeRight_run ls hright
    cases ht : together ls s false with
    | false => rw [hlast.mode, ht]
    | true =>
      have heither := hlast.either ht
      have hshift := hend 0x2a
      have hcaps := hend 0x3a
      unfold Control.either at heither
      rcases Bool.or_eq_true_iff.mp heither with h | h
      · exact absurd (h.symm.trans hshift) (by decide)
      · exact absurd (h.symm.trans hcaps) (by decide)
  constructor
  · intro ⟨_, heven⟩ hend
    have hcount := (heven hend).1
    rw [hoff hend] at hparity
    simp only [Bool.toNat_false] at hparity
    omega
  · intro hrejoins
    refine ⟨fun l _ => (modeRight_run l hright).mode, fun hend => ?_⟩
    have hzero := hrejoins hend
    rw [hoff hend] at hparity
    simp only [Bool.toNat_false] at hparity
    have hcount : (run ls s).notifications.count .kPS2C_ShowTouchPressureWidth % 2 =
        s.notifications.count .kPS2C_ShowTouchPressureWidth % 2 := by omega
    refine ⟨hcount, fun told told' htold htold' => ?_⟩
    rw [Touchpad.showPressWidth_receiveAll, Touchpad.showPressWidth_receiveAll, htold, htold', hcount]

/-! Two runs. -/

/-- Both keys pressed, and released in the other order. -/
def shiftCaps : List (World × ScanEvent) :=
  [keyPress false 0x2a, keyPress false 0x3a, keyRelease false 0x3a, keyRelease false 0x2a]

/-- Left Shift is let go and pressed again while Caps Lock is held. -/
def shiftTwice : List (World × ScanEvent) :=
  [keyPress false 0x2a, keyPress false 0x3a, keyRelease false 0x2a, keyPress false 0x2a, keyRelease false 0x2a,
    keyRelease false 0x3a]

theorem allUp_afterStart : afterStart.AllUp := fun _ => rfl

/-- Only the two keys are pressed, so all keys are up when they are. -/
theorem allUp_run {s : Keyboard} (h : ∀ k, k ≠ 0x2a → k ≠ 0x3a → s.isKeyDown k = false)
    (hshift : s.isKeyDown 0x2a = false) (hcaps : s.isKeyDown 0x3a = false) : s.AllUp := by
  intro k
  by_cases hk : k = 0x2a
  · rw [hk, hshift]
  by_cases hk' : k = 0x3a
  · rw [hk', hcaps]
  · exact h k hk hk'

theorem featureToggle_balanced_shiftCaps :
    (∀ l, l <+: shiftCaps → (run l afterStart).featureToggleMode = together l afterStart false) ∧
    (run shiftCaps afterStart).AllUp ∧
    (run shiftCaps afterStart).notifications.count .kPS2C_ShowTouchPressureWidth % 2 = 0 := by
  have hbits : (run shiftCaps afterStart).keyBitVector = Function.update (Function.update (Function.update
      (Function.update (fun _ => false) 0x2a true) 0x3a true) 0x3a false) 0x2a false := rfl
  have hend : (run shiftCaps afterStart).AllUp := by
    refine allUp_run (fun k hshift hcaps => ?_) rfl rfl
    rw [isKeyDown, hbits]
    simp [Function.update_of_ne hshift, Function.update_of_ne hcaps]
  have hbalanced := (featureToggle_balanced allUp_afterStart rfl shiftCaps .init).2 fun _ => rfl
  exact ⟨hbalanced.1, hend, (hbalanced.2 hend).1⟩

theorem display_leftOn : afterStart.AllUp ∧ afterStart.featureToggleMode = false ∧
    (run shiftTwice afterStart).AllUp ∧ afterStart.notifications.count .kPS2C_ShowTouchPressureWidth = 0 ∧
    (run shiftTwice afterStart).notifications.count .kPS2C_ShowTouchPressureWidth = 3 := by
  have hbits : (run shiftTwice afterStart).keyBitVector = Function.update (Function.update (Function.update
      (Function.update (Function.update (Function.update (fun _ => false) 0x2a true) 0x3a true) 0x2a false)
        0x2a true) 0x2a false) 0x3a false := rfl
  refine ⟨allUp_afterStart, rfl, allUp_run (fun k hshift hcaps => ?_) rfl rfl, rfl, rfl⟩
  rw [isKeyDown, hbits]
  simp [Function.update_of_ne hshift, Function.update_of_ne hcaps]

end Keyboard

end ApplePS2
