import ApplePS2.HeldKeys
import ApplePS2.Keyboard.Scancode

/- The key events among what the driver sends, and what each of its procedures adds
   to them: most leave no code down that was not down before. -/
namespace ApplePS2

def Sent.keyEvent : Sent → Option (UInt8 × Bool)
  | .dispatchKeyboardEvent code goingDown => some (code, goingDown)
  | _ => none

namespace Keyboard

variable (w : World)

/-- The key events dispatched so far. -/
def keyLog (s : Keyboard) : List (UInt8 × Bool) := s.log.filterMap Sent.keyEvent

/-- From the one state to the other nothing new is left down. -/
abbrev Quiet (s s' : Keyboard) : Prop := HeldKeys.Quiet s.keyLog s'.keyLog

abbrev Follows (goingDown : Bool) (s s' : Keyboard) (codes back : List UInt8) : Prop :=
  HeldKeys.Follows goingDown s.keyLog s'.keyLog codes back

/-! Procedures that dispatch no key event. -/

theorem keyLog_when {f : Keyboard → Keyboard} (hf : ∀ s, (f s).keyLog = s.keyLog) (c : Bool) (s : Keyboard) :
    (s.when c f).keyLog = s.keyLog := by
  unfold when
  split
  · exact hf s
  · rfl

@[simp] theorem keyLog_dispatchKeyboardKeyCode (c : UInt8) (d : Bool) (s : Keyboard) :
    (s.dispatchKeyboardKeyCode w c d).keyLog = s.keyLog ++ [(c, d)] := by
  simp [keyLog, dispatchKeyboardKeyCode, Sent.keyEvent]

@[simp] theorem keyLog_notify (n : PS2Notification) (s : Keyboard) : (s.notify n).keyLog = s.keyLog := by
  simp [keyLog, notify, send, Sent.keyEvent]

@[simp] theorem keyLog_sleepNow (s : Keyboard) : (s.send .sleepNow).keyLog = s.keyLog := by
  simp [keyLog, send, Sent.keyEvent]

@[simp] theorem keyLog_setLEDs (ledState : UInt8) (s : Keyboard) : (s.setLEDs ledState).keyLog = s.keyLog := by
  simp [keyLog, setLEDs, send, Sent.keyEvent]

@[simp] theorem keyLog_setAlphaLockFeedback (locked : Bool) (s : Keyboard) :
    (s.setAlphaLockFeedback locked).keyLog = s.keyLog := keyLog_setLEDs _ _

@[simp] theorem keyLog_setNumLockFeedback (locked : Bool) (s : Keyboard) :
    (s.setNumLockFeedback locked).keyLog = s.keyLog := by
  unfold setNumLockFeedback
  split
  · rfl
  · exact keyLog_setLEDs _ _

@[simp] theorem keyLog_toggleTouchpad (s : Keyboard) : s.toggleTouchpad.keyLog = s.keyLog := by
  unfold toggleTouchpad
  split <;> exact keyLog_notify _ _

@[simp] theorem keyLog_backlight (keyState : Bool) (s : Keyboard) :
    (s.dispatchKeyboardBacklightNotification keyState).keyLog = s.keyLog := by
  unfold dispatchKeyboardBacklightNotification
  split
  · split <;> exact keyLog_notify _ _
  · rfl

theorem keyLog_foldl_mapModifier (modifiers : List ModifierPair) (s : Keyboard) :
    (modifiers.foldl mapModifier s).keyLog = s.keyLog := by
  induction modifiers generalizing s with
  | nil => rfl
  | cons p modifiers ih =>
    rw [List.foldl_cons, ih]
    unfold mapModifier
    split <;> rfl

@[simp] theorem keyLog_readKeyboardModifiers (s : Keyboard) :
    (s.readKeyboardModifiers w).keyLog = s.keyLog := by
  unfold readKeyboardModifiers mapModifiers
  dsimp only
  split
  · split
    · rfl
    · rfl
    · exact keyLog_foldl_mapModifier _ s
  · rfl

@[simp] theorem keyLog_setAsusKBlight (lvl : UInt8) (s : Keyboard) :
    (s.setAsusKBlight w lvl).keyLog = s.keyLog := by
  unfold setAsusKBlight
  split
  · split
    · simp [keyLog, send, Sent.keyEvent]
    · rfl
  · rfl

@[simp] theorem keyLog_readAsusKBlight (reqParm : UInt8) (s : Keyboard) :
    (s.readAsusKBlight w reqParm).1.keyLog = s.keyLog := by
  unfold readAsusKBlight
  split <;> rfl

@[simp] theorem keyLog_processAsusKBacklight (LvlUp : Bool) (s : Keyboard) :
    (s.processAsusKBacklight w LvlUp).keyLog = s.keyLog := by
  unfold processAsusKBacklight
  dsimp only
  split <;> simp only [keyLog_setAsusKBlight, keyLog_readAsusKBlight]

@[simp] theorem keyLog_readBackLightLvl (s : Keyboard) : (s.readBackLightLvl w).keyLog = s.keyLog :=
  keyLog_readAsusKBlight w 0 s

theorem keyLog_foldl_readExtendedFunction (entries : List (String × String)) (s : Keyboard) :
    (entries.foldl readExtendedFunction s).keyLog = s.keyLog := by
  induction entries generalizing s with
  | nil => rfl
  | cons e entries ih =>
    rw [List.foldl_cons, ih]
    unfold readExtendedFunction
    split <;> rfl

theorem keyLog_ReadExtendedFunctionsConfig (s : Keyboard) :
    s.ReadExtendedFunctionsConfig.keyLog = s.keyLog := by
  unfold ReadExtendedFunctionsConfig
  split
  · exact keyLog_foldl_readExtendedFunction _ _
  · rfl

theorem keyLog_ReadFnKeyConfig (s : Keyboard) : s.ReadFnKeyConfig.keyLog = s.keyLog := by
  unfold ReadFnKeyConfig
  dsimp only
  generalize (if s.fnKeysModeNum = 1 then s.prefs.fnKeysMode1 else s.prefs.fnKeysMode2) = c
  cases c <;> rfl

theorem keyLog_ReadFnKeyLayout (s : Keyboard) : s.ReadFnKeyLayout.keyLog = s.keyLog := by
  unfold ReadFnKeyLayout
  split
  · rfl
  · split
    · rfl
    · exact keyLog_ReadFnKeyConfig _

theorem keyLog_nextFnKeysMode (s : Keyboard) : s.nextFnKeysMode.keyLog = s.keyLog := by
  unfold nextFnKeysMode
  split
  · rfl
  · rw [keyLog_when keyLog_ReadFnKeyLayout, keyLog_when keyLog_ReadFnKeyConfig]
    rfl

theorem keyLog_toggleExtendFunctions (goingDown : Bool) (s : Keyboard) :
    (s.toggleExtendFunctions goingDown).keyLog = s.keyLog := by
  unfold toggleExtendFunctions
  exact keyLog_when keyLog_ReadExtendedFunctionsConfig _ _

theorem keyLog_keyboardFeature (keyCode : UInt8) (goingDown : Bool) (s : Keyboard) :
    (s.keyboardFeature keyCode goingDown).keyLog = s.keyLog := by
  unfold keyboardFeature
  repeat' split
  · exact keyLog_toggleExtendFunctions goingDown s
  · rfl
  · rfl
  · exact keyLog_nextFnKeysMode s
  · rfl
  · rfl
  · rfl

@[simp] theorem keyLog_ToggleTouchpadFeatures (keyCode : UInt8) (goingDown : Bool) (s : Keyboard) :
    (s.ToggleTouchpadFeatures keyCode goingDown).keyLog = s.keyLog := by
  unfold ToggleTouchpadFeatures
  split
  · rw [keyLog_setAlphaLockFeedback, keyLog_when (keyLog_notify _), keyLog_keyboardFeature]
  · rw [keyLog_when (keyLog_setAlphaLockFeedback _), keyLog_keyboardFeature]

/-! Procedures that leave nothing down. -/

theorem quiet_when {c : Bool} {f : Keyboard → Keyboard} {s : Keyboard} (hf : s.Quiet (f s)) :
    s.Quiet (s.when c f) := by
  unfold when
  split
  · exact hf
  · exact .refl _

theorem quiet_up (c : UInt8) (s : Keyboard) : s.Quiet (s.dispatchKeyboardKeyCode w c false) := by
  rw [Quiet, keyLog_dispatchKeyboardKeyCode]
  exact .up _ _

theorem quiet_chord (ks : List UInt8) (s : Keyboard) : s.Quiet (s.chord w ks) := by
  induction ks generalizing s with
  | nil => exact .refl _
  | cons k ks ih =>
    have h := ih (s.dispatchKeyboardKeyCode w k true)
    rw [Quiet, keyLog_dispatchKeyboardKeyCode] at h
    rw [Quiet, chord, keyLog_dispatchKeyboardKeyCode]
    exact h.pressRelease

theorem quiet_repeatChord (c : UInt8) (n : Nat) (s : Keyboard) : s.Quiet (s.repeatChord w c n) := by
  induction n generalizing s with
  | zero => exact .refl _
  | succ n ih => exact (quiet_chord w [c] s).trans (ih _)

theorem keyLog_receiveHeader (data : UInt32) (s : Keyboard) :
    (s.receiveHeader w data).keyLog = s.keyLog := by
  unfold receiveHeader
  exact keyLog_when (keyLog_readKeyboardModifiers w) _ _

/-- The gestures that the keyboard itself asks for. -/
def ownGestures : List PS2Notification :=
  [.kPS2C_Gesture_AppClose, .kPS2C_Gesture_MissionControl, .kPS2C_Gesture_Launchpad]

theorem quiet_gesture {n : PS2Notification} (hn : n ∈ ownGestures) (s : Keyboard) :
    s.Quiet (s.gesture w n) := by
  simp only [ownGestures, List.mem_cons, List.not_mem_nil, or_false] at hn
  rcases hn with rfl | rfl | rfl
  · exact (quiet_chord w _ _).trans (quiet_chord w _ _)
  · unfold gesture
    dsimp only
    split <;> exact quiet_chord w _ _
  · unfold gesture
    dsimp only
    split <;> exact quiet_chord w _ _

theorem quiet_receiveGesture {n : PS2Notification} (hn : n ∈ ownGestures) (s : Keyboard) :
    s.Quiet (s.receiveGesture w n) :=
  (HeldKeys.Quiet.of_eq (keyLog_receiveHeader w _ s)).trans (quiet_gesture w hn _)

theorem quiet_brightnessKey (up : Bool) (s : Keyboard) : s.Quiet (s.brightnessKey w up).1 := by
  unfold brightnessKey
  split
  · exact quiet_repeatChord w _ _ { s with useFinerBrightnesCtrl := false }
  · exact .refl _

theorem quiet_finerKey (finer : Bool) (c : UInt8) (s : Keyboard) : s.Quiet (s.finerKey w finer c) := by
  unfold finerKey
  split <;> exact quiet_chord w _ _

theorem quiet_dispatchFnKey (fnKeyCode : UInt8) (s : Keyboard) :
    s.Quiet (s.dispatchFnKey w fnKeyCode) := by
  unfold dispatchFnKey
  repeat' split
  · exact quiet_finerKey w _ _ _
  · exact quiet_finerKey w _ _ _
  · exact quiet_finerKey w _ _ _
  · exact quiet_finerKey w _ _ _
  · exact .refl _
  · exact (quiet_chord w _ s).trans (.of_eq (keyLog_toggleTouchpad _))
  · exact quiet_chord w _ _

theorem quiet_ite {c : Prop} [Decidable c] {s : Keyboard} {r r' : Keyboard × UInt8} (h : s.Quiet r.1)
    (h' : s.Quiet r'.1) : s.Quiet (if c then r else r').1 := by
  split
  · exact h
  · exact h'

theorem quiet_fnKeyFunction (keyCode : UInt8) (rateLimit : Bool) (s : Keyboard) :
    s.Quiet (s.fnKeyFunction w keyCode rateLimit).1 := by
  have hstay : s.Quiet s := .refl _
  exact quiet_ite (quiet_brightnessKey w _ s) <| quiet_ite (.of_eq (keyLog_sleepNow s)) <|
    quiet_ite (quiet_receiveGesture w (by decide) s) <| quiet_ite (quiet_receiveGesture w (by decide) s) <|
    quiet_ite hstay <| quiet_ite hstay <| quiet_ite (.of_eq (keyLog_toggleTouchpad s)) <|
    quiet_ite hstay <| quiet_ite hstay <| quiet_ite hstay <| quiet_ite hstay hstay

theorem quiet_fnKeyUp (keyCode : UInt8) (s : Keyboard) : s.Quiet (s.fnKeyUp w keyCode).1 :=
  quiet_ite (quiet_up w 0x34 s) <| quiet_ite (quiet_up w 0x40 s) <| quiet_ite (.refl _) (.refl _)

/-- `processFnKeys` for a key that goes up. -/
theorem quiet_processFnKeys_up (keyCode : UInt8) (s : Keyboard) :
    s.Quiet (s.processFnKeys w keyCode false) :=
  (quiet_fnKeyUp w keyCode s).trans
    (quiet_dispatchFnKey w _ { (s.fnKeyUp w keyCode).1 with
      lastEventSecs := w.secs, lastEventMicrosecs := w.microsecs })

theorem quiet_dispatchVendorKey (keyCode : UInt8) (s : Keyboard) :
    s.Quiet (s.dispatchVendorKey w keyCode) := by
  unfold dispatchVendorKey
  repeat' split
  · exact quiet_processFnKeys_up w _ s
  · exact quiet_processFnKeys_up w _ s
  · exact quiet_processFnKeys_up w _ s
  · exact quiet_processFnKeys_up w _ s
  · exact quiet_chord w _ s
  · exact .refl _

theorem quiet_generateAndSeeADBCode (keyCode : UInt8) (goingDown : Bool) (s : Keyboard) :
    s.Quiet (s.generateAndSeeADBCode w keyCode goingDown) := by
  unfold generateAndSeeADBCode
  split
  · exact .refl _
  · split
    · exact quiet_chord w [s.generatedCode] s
    · exact .refl _

/-! Procedures that dispatch in the direction of the key. -/

theorem follows_dispatch (goingDown : Bool) (c : UInt8) (s : Keyboard) :
    s.Follows goingDown (s.dispatchKeyboardKeyCode w c goingDown) [c] [] := by
  rw [Follows, keyLog_dispatchKeyboardKeyCode]
  exact .event _ _ _

theorem follows_pressedBack (goingDown : Bool) (c : UInt8) (s : Keyboard) :
    s.Follows goingDown (s.dispatchKeyboardKeyCode w c true) [] [c] := by
  rw [Follows, keyLog_dispatchKeyboardKeyCode]
  exact .pressedBack _ _ _

theorem follows_dispatchAll (goingDown : Bool) (cs : List UInt8) (s : Keyboard) :
    s.Follows goingDown (s.dispatchAll w goingDown cs) cs [] := by
  induction cs generalizing s with
  | nil => exact (HeldKeys.Quiet.refl _).follows goingDown
  | cons c cs ih => exact (follows_dispatch w goingDown c s).append (ih _)

end Keyboard

end ApplePS2
