import ApplePS2.Keyboard.Event

/- What an event does to the keyboard's flag for the touchpad (`isTPadEnabled`), and what
   the touchpad is told of it.

   1. `tpad_event`: the flag is inverted and the touchpad told, or the touchpad is told
      to reconnect, or told what it knows already. -/
namespace ApplePS2.Keyboard

variable {w : World}

/-- The notifications that disable the touchpad, or enable it again, and the request for the version. -/
def tpadNotifications : List PS2Notification :=
  [.kPS2C_EnableTouchpad, .kPS2C_DisableTouchpad, .kPS2C_RestoreTouchpad, .kPS2C_OSXVersionNotify]

/-- The flag, and what has been told of it. -/
structure TPad where
  isTPadEnabled : Bool
  told : List PS2Notification

def Control.tpad (c : Control) : TPad := ⟨c.isTPadEnabled, c.notified.filter (· ∈ tpadNotifications)⟩

def TPad.tell (n : PS2Notification) (p : TPad) : TPad := { p with told := p.told ++ [n] }

/-- "isTPadEnabled = !isTPadEnabled", and the touchpad told. -/
def TPad.toggle (p : TPad) : TPad :=
  { p with isTPadEnabled := !p.isTPadEnabled }.tell
    (if p.isTPadEnabled then .kPS2C_DisableTouchpad else .kPS2C_EnableTouchpad)

inductive TPadEffect (p : TPad) : TPad → Prop where
  | none : TPadEffect p p
  | toggle : TPadEffect p p.toggle
  | restore : TPadEffect p (p.tell .kPS2C_RestoreTouchpad)
  | enabled : p.isTPadEnabled = true → TPadEffect p (p.tell .kPS2C_EnableTouchpad)

theorem tpad_notify {n : PS2Notification} (hn : n ∉ tpadNotifications) (c : Control) : (c.notify n).tpad = c.tpad := by
  simp [Control.tpad, Control.notify, hn]

theorem tpad_tell {n : PS2Notification} (hn : n ∈ tpadNotifications) (c : Control) :
    (c.notify n).tpad = c.tpad.tell n := by
  simp [Control.tpad, Control.notify, TPad.tell, hn]

theorem tpad_toggleTouchpad (c : Control) : c.toggleTouchpad.tpad = c.tpad.toggle := by
  have hflag : c.tpad.isTPadEnabled = c.isTPadEnabled := rfl
  unfold Control.toggleTouchpad TPad.toggle
  cases h : c.isTPadEnabled with
  | true =>
    rw [hflag, h]
    exact tpad_tell (by decide) _
  | false =>
    rw [hflag, h]
    exact tpad_tell (by decide) _

theorem tpadEffect_fnEffect {c c' : Control} (h : FnEffect c c') : TPadEffect c.tpad c'.tpad := by
  cases h with
  | none => exact .none
  | touchpad =>
    rw [tpad_toggleTouchpad]
    exact .toggle
  | displaySleep =>
    show TPadEffect c.tpad c.toggleTouchpad.tpad
    rw [tpad_toggleTouchpad]
    exact .toggle

theorem tpadEffect_toggleEffect {c c' : Control} (h : ToggleEffect c c') : TPadEffect c.tpad c'.tpad := by
  cases h with
  | fnKey h => exact tpadEffect_fnEffect h
  | feature h =>
    cases h with
    | same => exact .none
    | restore fn =>
      rw [tpad_tell (by decide)]
      exact .restore

theorem tpadEffect_dispatchEffect {c c' : Control} (h : DispatchEffect c c') : TPadEffect c.tpad c'.tpad := by
  cases h with
  | fnKey h => exact tpadEffect_fnEffect h
  | modifiers cmd ctrl alt =>
    unfold Control.notifyModifiers
    cases hn : modifierNotification cmd ctrl alt c.modifierKeystate with
    | none => exact .none
    | some r =>
      have hlist : ∀ n ∈ modifierNotifications, n ∉ tpadNotifications := by decide
      have hother := tpad_notify (hlist _ (modifierNotification_mem hn)) { c with modifierKeystate := r.2 }
      dsimp only
      rw [hother]
      exact .none
  | enabled hon =>
    rw [tpad_tell (by decide)]
    exact .enabled hon

theorem tpadEffect_dispatchKey (keyCode : UInt8) (goingDown : Bool) (s : Keyboard) :
    TPadEffect s.control.tpad (s.dispatchKey w keyCode goingDown).control.tpad := by
  cases h : s.featureToggleMode with
  | false => exact tpadEffect_dispatchEffect (effect_dispatchKey w keyCode goingDown h)
  | true =>
    rw [dispatchKey_toggle w keyCode goingDown h]
    cases hshift : s.isKeyDown 0x2a <;> cases hcaps : s.isKeyDown 0x3a
    · rw [control_processFeatureToggle_end w keyCode goingDown ⟨hshift, hcaps⟩]
      unfold Control.endFeatureToggle
      rw [tpad_notify (by decide)]
      exact .none
    · rw [control_processFeatureToggle_one w keyCode goingDown (by simp [hshift, hcaps])]
      exact .none
    · rw [control_processFeatureToggle_one w keyCode goingDown (by simp [hshift, hcaps])]
      exact .none
    · exact tpadEffect_toggleEffect (effect_processFeatureToggle_both w keyCode goingDown ⟨hshift, hcaps⟩)

theorem tpadEffect_processKey (keyCode : UInt8) (goingDown : Bool) (s : Keyboard) :
    TPadEffect s.control.tpad (s.processKey w keyCode goingDown).control.tpad := by
  rcases processKey_cases w keyCode goingDown s with ⟨_, _, hsame⟩ | hkey
  · rw [hsame]
    exact .none
  · have hspecial : (s.parseSpecialKeys w keyCode goingDown).1.control.tpad = s.control.tpad := by
      rw [control_parseSpecialKeys]
      split
      · exact tpad_notify (by decide) _
      · rfl
    rw [hkey, ← hspecial]
    exact tpadEffect_dispatchKey _ _ _

/-- An event. -/
theorem tpad_event (e : ScanEvent) (s : Keyboard) :
    TPadEffect s.control.tpad (s.dispatchScanEvent w e).control.tpad := by
  cases dispatchScanEvent_cases w e s with
  | done _ heq =>
    rw [heq, control_backlight]
    rcases (effect_parse w e s).effect with hsame | ⟨_, htoggle⟩
    · rw [hsame]
      exact .none
    · rw [htoggle, tpad_toggleTouchpad]
      exact .toggle
  | discarded _ _ hcontrol heq =>
    rw [heq, control_backlight, hcontrol]
    exact .none
  | key t _ _ hcontrol heq =>
    have hsame : t.control.tpad = s.control.tpad := by
      rw [hcontrol]
      rfl
    rw [heq, control_backlight, ← hsame]
    exact tpadEffect_processKey _ _ t

/-- The vendors' touchpad keys (0x32 and 0x59) invert the flag. -/
theorem tpad_touchpadKey {e : ScanEvent} (hext : e.extended = true) (hcode : e.keyCode = 0x32 ∨ e.keyCode = 0x59)
    (hdown : e.goingDown = true) (s : Keyboard) : (s.dispatchScanEvent w e).control.tpad = s.control.tpad.toggle := by
  have hkey : isTouchpadKey e = true := by
    rw [isTouchpadKey, hext, hdown]
    simpa using hcode
  have hparse := parse_touchpadKey w hkey s
  have hdone : s.dispatchScanEvent w e = (s.parse w e).1.dispatchKeyboardBacklightNotification w.goingDown := by
    cases dispatchScanEvent_cases w e s with
    | done _ heq => exact heq
    | discarded hne => exact absurd (congrArg Prod.snd hparse) hne
    | key _ hne => exact absurd (congrArg Prod.snd hparse) hne
  rw [hdone, control_backlight, hparse, ← tpad_toggleTouchpad]
  exact congrArg Control.tpad (control_toggleTouchpad { s with extendedCode := true })

end ApplePS2.Keyboard
