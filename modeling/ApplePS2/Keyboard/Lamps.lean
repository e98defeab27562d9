import ApplePS2.Flags
import ApplePS2.Keyboard.Event
import ApplePS2.Keyboard.Translation

/- What the driver keeps about the Caps Lock key and the keyboard's backlight, and what
   it has told about the backlight. Most procedures leave all of it as it is; the others
   are here with what they change.

   1. `lamps_parse`: the switch over the key codes changes nothing of it.
   2. `lamps_processFnKeys`: only the two backlight keys find out whether there is one.
   3. `lamps_parseSpecialKeys`: Left Shift and Caps Lock.
   4. `lamps_dispatchKey`, `led_dispatchKey`: the Fn keys, and the end of the feature toggle mode.
   5. `keyCode_parse`, `takes_parse`, `bits_event`: the key of an event, in the state before. -/
namespace ApplePS2

/-- The notifications about the backlight that every event ends with. -/
def backlightNotifications : List PS2Notification := [.kPS2C_KeybrdBackLightOn, .kPS2C_KeybrdBackLightOff]

namespace Keyboard

variable (w : World)

structure Lamps where
  prefs : Preferences
  /-- Whether the system is one that wants Caps Lock pressed three times. -/
  sierra : Bool
  isCapsLocked : Bool
  /-- The bit of `_ledState`. -/
  capsLED : UInt8
  enabledAsusKBacklight : Bool
  /-- What has been told about the backlight. -/
  told : List PS2Notification

def lamps (s : Keyboard) : Lamps :=
  { prefs := s.prefs, sierra := s.osxVersion > 11, isCapsLocked := s.isCapsLocked
    capsLED := s.ledState &&& kLED_CapsLock, enabledAsusKBacklight := s.enabledAsusKBacklight
    told := s.notifications.filter (· ∈ backlightNotifications) }

/-! Procedures that leave it as it is. -/

theorem lamps_when {f : Keyboard → Keyboard} {s : Keyboard} (c : Bool) (h : (f s).lamps = s.lamps) :
    (s.when c f).lamps = s.lamps := by
  cases c with
  | true => exact h
  | false => rfl

theorem lamps_ite {c : Prop} [Decidable c] {l : Lamps} {t t' : Keyboard} (h : t.lamps = l) (h' : t'.lamps = l) :
    (if c then t else t').lamps = l := by
  split
  · exact h
  · exact h'

theorem lamps_dispatch (c : UInt8) (d : Bool) (s : Keyboard) :
    (s.dispatchKeyboardKeyCode w c d).lamps = s.lamps := by
  simp [lamps, notifications, dispatchKeyboardKeyCode, Sent.notification]

theorem lamps_send {m : Sent} (hm : m.notification = none) (s : Keyboard) : (s.send m).lamps = s.lamps := by
  simp [lamps, notifications, send, hm]

theorem lamps_tell {n : PS2Notification} (hn : n ∉ backlightNotifications) (s : Keyboard) :
    (s.notify n).lamps = s.lamps := by
  simp [lamps, notifications, notify, send, Sent.notification, hn]

theorem lamps_chord (ks : List UInt8) (s : Keyboard) : (s.chord w ks).lamps = s.lamps := by
  induction ks generalizing s with
  | nil => rfl
  | cons k ks ih => rw [chord, lamps_dispatch, ih, lamps_dispatch]

theorem lamps_releaseKey (c : UInt8) (s : Keyboard) : (s.releaseKey w c).lamps = s.lamps := lamps_chord w [c] s

theorem lamps_repeatChord (c : UInt8) (n : Nat) (s : Keyboard) : (s.repeatChord w c n).lamps = s.lamps := by
  induction n generalizing s with
  | zero => rfl
  | succ n ih => rw [repeatChord, ih, lamps_chord]

/-- The bit of Num Lock is another one. -/
theorem lamps_setNumLockFeedback (locked : Bool) (s : Keyboard) : (s.setNumLockFeedback locked).lamps = s.lamps := by
  have hbit : ∀ leds : UInt8, (if locked then leds ||| kLED_NumLock else leds &&& ~~~kLED_NumLock) &&& kLED_CapsLock =
      leds &&& kLED_CapsLock := by
    intro leds
    cases locked with
    | true => exact Flags.or_kept (by decide) leds
    | false => exact Flags.and_kept (by decide) leds
  unfold setNumLockFeedback
  split
  · rfl
  · refine (lamps_send rfl _).trans ?_
    unfold lamps
    dsimp only
    rw [hbit]
    rfl

theorem lamps_readKeyboardModifiers (s : Keyboard) : (s.readKeyboardModifiers w).lamps = s.lamps := by
  obtain ⟨cmd, ctrl, alt, time, h⟩ := s.readKeyboardModifiers_eq w
  rw [h]
  rfl

/-- The gestures that the keyboard asks for itself do not set a version of Sierra. -/
theorem lamps_receiveHeader {n : PS2Notification} (hn : n ∈ ownGestures) (s : Keyboard) :
    (s.receiveHeader w (UInt32.ofNat n.ctorIdx)).lamps = s.lamps := by
  have hlow : ∀ n ∈ ownGestures, ¬(UInt32.ofNat n.ctorIdx).toUInt8 > 11 := by decide
  have hversion : ({ s with osxVersion := if s.osxVersion = 0 then (UInt32.ofNat n.ctorIdx).toUInt8 else s.osxVersion } :
      Keyboard).lamps = s.lamps := by
    unfold lamps
    dsimp only
    split
    · next hzero =>
      rw [hzero]
      have hboth : decide ((UInt32.ofNat n.ctorIdx).toUInt8 > 11) = decide ((0 : UInt8) > 11) :=
        decide_eq_decide.2 (iff_of_false (hlow n hn) (by decide))
      rw [hboth]
      rfl
    · rfl
  exact (lamps_when _ (lamps_readKeyboardModifiers w _)).trans hversion

theorem lamps_receiveGesture {n : PS2Notification} (hn : n ∈ ownGestures) (s : Keyboard) :
    (s.receiveGesture w n).lamps = s.lamps := by
  have hgesture : ∀ t : Keyboard, (t.gesture w n).lamps = t.lamps := by
    intro t
    simp only [ownGestures, List.mem_cons, List.not_mem_nil, or_false] at hn
    rcases hn with rfl | rfl | rfl
    · exact (lamps_releaseKey w _ _).trans (lamps_chord w _ t)
    · exact lamps_ite (lamps_chord w _ t) (lamps_chord w _ t)
    · exact lamps_ite (lamps_chord w _ t) (lamps_chord w _ t)
  exact (hgesture _).trans (lamps_receiveHeader w hn s)

theorem lamps_toggleTouchpad (s : Keyboard) : s.toggleTouchpad.lamps = s.lamps := by
  unfold toggleTouchpad
  split
  · exact lamps_tell (by decide) _
  · exact lamps_tell (by decide) _

theorem lamps_brightnessKey (up : Bool) (s : Keyboard) : (s.brightnessKey w up).1.lamps = s.lamps := by
  unfold brightnessKey
  split
  · exact lamps_repeatChord w _ _ { s with useFinerBrightnesCtrl := false }
  · rfl

theorem lamps_finerKey (finer : Bool) (c : UInt8) (s : Keyboard) : (s.finerKey w finer c).lamps = s.lamps :=
  lamps_ite (lamps_chord w _ s) (lamps_chord w _ s)

theorem lamps_generateAndSeeADBCode (keyCode : UInt8) (goingDown : Bool) (s : Keyboard) :
    (s.generateAndSeeADBCode w keyCode goingDown).lamps = s.lamps := by
  unfold generateAndSeeADBCode
  repeat' split
  · rfl
  · exact lamps_chord w [s.generatedCode] s
  · rfl

/-! The Fn keys. -/

theorem lamps_dispatchFnKey (fnKeyCode : UInt8) (s : Keyboard) : (s.dispatchFnKey w fnKeyCode).lamps = s.lamps := by
  unfold dispatchFnKey
  refine lamps_ite (lamps_finerKey w _ _ s) <| lamps_ite (lamps_finerKey w _ _ s) <|
    lamps_ite (lamps_finerKey w _ _ s) <| lamps_ite (lamps_finerKey w _ _ s) <| lamps_ite rfl <|
    lamps_ite ?_ (lamps_chord w _ s)
  exact (lamps_toggleTouchpad (s.chord w [s.normalCode s.contrlKey, 0x38, 0x70])).trans (lamps_chord w _ s)

/-- One of the two keys of the backlight, which has been enabled so far. -/
def isBacklightKey (keyCode : UInt8) (s : Keyboard) : Bool :=
  (keyCode = s.fn.kbrdBrightnessDown || keyCode = s.fn.kbrdBrightnessUp) && s.enabledAsusKBacklight

theorem lamps_processAsusKBacklight (LvlUp : Bool) (s : Keyboard) :
    ((s.processAsusKBacklight w LvlUp).readBackLightLvl w).lamps =
      { s.lamps with enabledAsusKBacklight := (w.gkbl 0).isSome } := by
  have hset : ∀ (lvl : UInt8) (t : Keyboard), { (t.setAsusKBlight w lvl).lamps with
      enabledAsusKBacklight := (w.gkbl 0).isSome } = { t.lamps with enabledAsusKBacklight := (w.gkbl 0).isSome } := by
    intro lvl t
    unfold setAsusKBlight
    repeat' split
    · exact congrArg (fun l : Lamps => { l with enabledAsusKBacklight := (w.gkbl 0).isSome })
        (lamps_send (m := .setAsusKBlight lvl) rfl t)
    · rfl
    · rfl
  have hread : ∀ t : Keyboard, (t.readAsusKBlight w 0).1.lamps =
      { t.lamps with enabledAsusKBacklight := (w.gkbl 0).isSome } := by
    intro t
    unfold readAsusKBlight
    split
    · next h =>
      rw [h]
      rfl
    · next h =>
      rw [h]
      rfl
  have hlevel : ∀ t : Keyboard, (t.readBackLightLvl w).lamps =
      { t.lamps with enabledAsusKBacklight := (w.gkbl 0).isSome } := hread
  rw [hlevel]
  unfold processAsusKBacklight
  dsimp only
  split
  · rw [hset, hset, hread]
  · rw [hread]

theorem lamps_fnKeyFunction (keyCode : UInt8) (rateLimit : Bool) (s : Keyboard) :
    (s.fnKeyFunction w keyCode rateLimit).1.lamps = s.lamps := by
  have hresult := fnKeyFunction_result w keyCode rateLimit s
  generalize s.fnKeyFunction w keyCode rateLimit = r at hresult ⊢
  cases hresult with
  | brightness up => exact lamps_brightnessKey w up s
  | sleep => exact lamps_send rfl s
  | missionControl => exact lamps_receiveGesture w (by decide) s
  | launchpad => exact lamps_receiveGesture w (by decide) s
  | touchpad => exact lamps_toggleTouchpad s
  | code fnKeyCode => rfl

/-- What the press of an Fn key leaves of the backlight. -/
def backlightAfter (keyCode : UInt8) (s : Keyboard) : Bool :=
  if s.isBacklightKey keyCode then (w.gkbl 0).isSome else s.enabledAsusKBacklight

theorem lamps_fnKeyDown (keyCode : UInt8) (rateLimit : Bool) (s : Keyboard) :
    (s.fnKeyDown w keyCode rateLimit).1.lamps = { s.lamps with enabledAsusKBacklight := s.backlightAfter w keyCode } := by
  cases hkey : s.isBacklightKey keyCode with
  | true =>
    rw [backlightAfter, if_pos hkey]
    simp only [isBacklightKey, Bool.and_eq_true, Bool.or_eq_true, decide_eq_true_eq] at hkey
    obtain ⟨hcode, henabled⟩ := hkey
    unfold fnKeyDown
    rw [henabled]
    simp only [Bool.and_true, decide_eq_true_eq]
    split
    · exact lamps_processAsusKBacklight w false s
    · next hdown =>
      rw [if_pos (hcode.resolve_left hdown)]
      exact lamps_processAsusKBacklight w true s
  | false =>
    have hsame : ({ s.lamps with enabledAsusKBacklight := s.backlightAfter w keyCode } : Lamps) = s.lamps := by
      rw [backlightAfter, hkey]
      rfl
    rw [hsame]
    simp only [isBacklightKey, Bool.and_eq_false_iff, Bool.or_eq_false_iff] at hkey
    have hdown : (decide (keyCode = s.fn.kbrdBrightnessDown) && s.enabledAsusKBacklight) = false := by
      rcases hkey with ⟨h, -⟩ | h <;> simp [h]
    have hup : (decide (keyCode = s.fn.kbrdBrightnessUp) && s.enabledAsusKBacklight) = false := by
      rcases hkey with ⟨-, h⟩ | h <;> simp [h]
    unfold fnKeyDown
    rw [hdown, hup, if_neg Bool.false_ne_true, if_neg Bool.false_ne_true]
    repeat' split
    · exact lamps_dispatch w _ true s
    · exact lamps_dispatch w _ true s
    · exact lamps_fnKeyFunction w keyCode rateLimit s

theorem lamps_processFnKeys (keyCode : UInt8) (keyDown : Bool) (s : Keyboard) :
    (s.processFnKeys w keyCode keyDown).lamps =
      { s.lamps with
        enabledAsusKBacklight := if keyDown then s.backlightAfter w keyCode else s.enabledAsusKBacklight } := by
  have hup : (s.fnKeyUp w keyCode).1.lamps = s.lamps := by
    unfold fnKeyUp
    repeat' split
    · exact lamps_dispatch w _ false s
    · exact lamps_dispatch w _ false s
    · rfl
    · rfl
  have hlast : ∀ r : Keyboard × UInt8, ({ r.1 with lastEventSecs := w.secs, lastEventMicrosecs := w.microsecs }.dispatchFnKey
      w r.2).lamps = r.1.lamps := fun r => lamps_dispatchFnKey w r.2 _
  unfold processFnKeys
  dsimp only
  rw [hlast]
  cases keyDown with
  | true => exact lamps_fnKeyDown w keyCode _ s
  | false => exact hup

theorem lamps_dispatchVendorKey (keyCode : UInt8) (s : Keyboard) : (s.dispatchVendorKey w keyCode).lamps = s.lamps :=
  lamps_ite (lamps_processFnKeys w _ false s) <| lamps_ite (lamps_processFnKeys w _ false s) <|
    lamps_ite (lamps_processFnKeys w _ false s) <| lamps_ite (lamps_processFnKeys w _ false s) <|
    lamps_ite (lamps_chord w _ s) rfl

/-! The switch over the key codes. -/

theorem lamps_iteFst {c : Prop} [Decidable c] {l : Lamps} {r r' : Keyboard × UInt8} (h : r.1.lamps = l)
    (h' : r'.1.lamps = l) : (if c then r else r').1.lamps = l := by
  split
  · exact h
  · exact h'

theorem lamps_MapGermanTurkish (keyCode : UInt8) (goingDown : Bool) (s : Keyboard) :
    (s.MapGermanTurkishKeyboardLayout w keyCode goingDown).1.lamps = s.lamps := by
  unfold MapGermanTurkishKeyboardLayout
  split
  · rfl
  · dsimp only
    rw [lamps_when _ (lamps_dispatch w _ _ _), lamps_dispatch, lamps_when _ (lamps_dispatch w _ _ _),
      lamps_when _ (lamps_dispatch w _ _ _)]

theorem lamps_appSwitch (s : Keyboard) : (s.appSwitch w).lamps = s.lamps := by
  unfold appSwitch
  dsimp only
  rw [lamps_when _ (lamps_dispatch w _ _ _), lamps_chord, lamps_when _ (lamps_dispatch w _ _ _)]

theorem lamps_switchNormal (keyCode : UInt8) (goingDown : Bool) (s : Keyboard) :
    (s.switchNormal w keyCode goingDown).1.lamps = s.lamps := by
  unfold switchNormal
  refine lamps_iteFst (lamps_iteFst (lamps_MapGermanTurkish w keyCode goingDown s) rfl) <|
    lamps_iteFst (lamps_iteFst ?appClose ?_) <| lamps_iteFst (lamps_iteFst ?minimize ?_) <|
    lamps_iteFst (lamps_iteFst ?appSwitch ?_) <| lamps_iteFst ?_ <| lamps_iteFst (lamps_iteFst ?_ ?_) <|
    lamps_iteFst (lamps_iteFst ?_ (lamps_iteFst (lamps_iteFst ?_ (lamps_iteFst ?french ?_)) ?_)) <| lamps_iteFst ?_ ?_
  case appClose => exact lamps_when _ (lamps_receiveGesture w (by decide) s)
  case minimize => exact lamps_when _ (lamps_chord w _ s)
  case appSwitch => exact lamps_when _ (lamps_appSwitch w s)
  case french => exact lamps_dispatch w _ _ s
  all_goals rfl

theorem lamps_switchExtended (keyCode : UInt8) (goingDown : Bool) (s : Keyboard) :
    (s.switchExtended w keyCode goingDown).1.lamps = s.lamps := by
  unfold switchExtended
  refine lamps_iteFst (lamps_when _ (lamps_dispatchVendorKey w _ s)) <|
    lamps_iteFst (lamps_when _ (lamps_toggleTouchpad s)) <| lamps_iteFst (lamps_when _ (lamps_send rfl s)) <|
    lamps_iteFst rfl <| lamps_iteFst rfl <| lamps_iteFst (lamps_iteFst rfl rfl) <| lamps_iteFst rfl <|
    lamps_iteFst (lamps_iteFst (lamps_chord w _ s) rfl) <| lamps_iteFst (lamps_when _ (lamps_chord w _ s)) <|
    lamps_iteFst (lamps_when _ (lamps_dispatch w _ _ s)) <| lamps_iteFst rfl rfl

theorem lamps_parse (e : ScanEvent) (s : Keyboard) : (s.parse w e).1.lamps = s.lamps := by
  unfold parse
  apply lamps_iteFst
  · exact lamps_switchExtended w e.keyCode e.goingDown { s with extendedCode := true }
  · exact lamps_switchNormal w e.keyCode e.goingDown { s with extendedCode := false }

/-! The special keys. -/

theorem lamps_backlight (keyState : Bool) (s : Keyboard) :
    (s.dispatchKeyboardBacklightNotification keyState).lamps =
      { s.lamps with told := if s.enabledAsusKBacklight then
          s.lamps.told ++ [if keyState then .kPS2C_KeybrdBackLightOn else .kPS2C_KeybrdBackLightOff]
        else s.lamps.told } := by
  have hnotify : ∀ n ∈ backlightNotifications, (s.notify n).lamps = { s.lamps with told := s.lamps.told ++ [n] } := by
    intro n hn
    simp [lamps, notifications, notify, send, Sent.notification, hn]
  unfold dispatchKeyboardBacklightNotification
  cases s.enabledAsusKBacklight with
  | false => rfl
  | true =>
    cases keyState with
    | true => exact hnotify _ (by decide)
    | false => exact hnotify _ (by decide)

def capsBit (locked : Bool) : UInt8 := if locked then kLED_CapsLock else 0

theorem lamps_setAlphaLockFeedback (locked : Bool) (s : Keyboard) :
    (s.setAlphaLockFeedback locked).lamps = { s.lamps with capsLED := capsBit locked } := by
  unfold setAlphaLockFeedback
  refine (lamps_send rfl _).trans ?_
  unfold lamps
  cases locked with
  | true =>
    simp only [if_true]
    rw [Flags.or_and (by decide)]
    rfl
  | false =>
    simp only [Bool.false_eq_true, if_false]
    rw [Flags.and_cleared (by decide)]
    rfl

theorem lamps_dispatchAll (d : Bool) (cs : List UInt8) (s : Keyboard) : (s.dispatchAll w d cs).lamps = s.lamps := by
  induction cs generalizing s with
  | nil => rfl
  | cons c cs ih => rw [dispatchAll, ih, lamps_dispatch]

theorem lamps_ProcessKeyCombinations (keys : Option String) (d gesture : Bool) (s : Keyboard) :
    (s.ProcessKeyCombinations w keys d gesture).lamps = s.lamps := by
  unfold ProcessKeyCombinations
  split
  · rfl
  · rw [lamps_when _ (lamps_dispatch w _ _ _), lamps_dispatchAll, lamps_when _ (lamps_dispatch w _ _ _)]

theorem lamps_ProcessExtendedFunctions {keyCode : UInt8} {d : Bool} {s t : Keyboard}
    (h : s.ProcessExtendedFunctions w keyCode d = some t) : t.lamps = s.lamps := by
  unfold ProcessExtendedFunctions at h
  split at h
  · cases h
  · split at h
    · obtain rfl := Option.some.inj h
      exact lamps_ProcessKeyCombinations w _ d false s
    · repeat' split at h
      all_goals obtain rfl := Option.some.inj h
      · rfl
      all_goals rw [lamps_dispatch, lamps_dispatch]

theorem lamps_startFeatureToggle (s : Keyboard) : (s.startFeatureToggle w).lamps = s.lamps := by
  unfold startFeatureToggle
  rw [lamps_tell (by decide), lamps_dispatch, lamps_tell (by decide)]
  rfl

/-- What Left Shift and Caps Lock do, with the bits of the event. -/
def specialLamps (keyCode : UInt8) (goingDown : Bool) (s : Keyboard) : Lamps :=
  if keyCode = 0x2a then
    if goingDown && s.isKeyDown 0x3a then { s.lamps with isCapsLocked := false, capsLED := 0 } else s.lamps
  else if keyCode = 0x3a then
    if s.isKeyDown 0x2a && goingDown then { s.lamps with capsLED := 0 }
    else if s.lamps.sierra && !s.featureToggleMode && s.prefs.fixSierraCapsLockBug then
      if goingDown then s.lamps
      else { s.lamps with isCapsLocked := !s.isCapsLocked, capsLED := capsBit !s.isCapsLocked }
    else { s.lamps with isCapsLocked := !s.isCapsLocked }
  else s.lamps

theorem lamps_leftShift (goingDown : Bool) (s : Keyboard) :
    (s.leftShift w goingDown).lamps = s.specialLamps 0x2a goingDown := by
  unfold leftShift specialLamps
  rw [if_pos rfl]
  cases goingDown with
  | false =>
    simp only [Bool.false_and, Bool.false_eq_true, if_false]
    exact lamps_ite (lamps_tell (by decide) s) rfl
  | true =>
    simp only [Bool.true_and, if_true]
    split
    · rw [lamps_setAlphaLockFeedback, lamps_startFeatureToggle]
      rfl
    · exact lamps_tell (by decide) { s with releaseGestureKey := true }

theorem lamps_sierraCapsLock (goingDown : Bool) (s : Keyboard) : (s.sierraCapsLock w goingDown).lamps =
    if goingDown then s.lamps
    else { s.lamps with isCapsLocked := !s.isCapsLocked, capsLED := capsBit !s.isCapsLocked } := by
  unfold sierraCapsLock
  dsimp only
  cases goingDown with
  | true =>
    show (dispatchKeyboardKeyCode w 0x39 true (dispatchKeyboardKeyCode w 0x39 true s)).lamps = _
    rw [lamps_dispatch, lamps_dispatch]
    rfl
  | false =>
    have htwice : ∀ t : Keyboard, ((dispatchKeyboardKeyCode w 0x39 false (dispatchKeyboardKeyCode w 0x39 false t)).send
        (.setAlphaLock !s.isCapsLocked)).lamps = t.lamps := by
      intro t
      rw [lamps_send rfl, lamps_dispatch, lamps_dispatch]
    refine (lamps_setAlphaLockFeedback (!s.isCapsLocked) _).trans ?_
    have hsent := htwice { s with isCapsLocked := !s.isCapsLocked }
    exact congrArg (fun l : Lamps => { l with capsLED := capsBit !s.isCapsLocked }) hsent

theorem lamps_capsLock (goingDown : Bool) (s : Keyboard) :
    (s.capsLock w goingDown).lamps = s.specialLamps 0x3a goingDown := by
  have hspecial : s.specialLamps 0x3a goingDown =
      if s.isKeyDown 0x2a && goingDown then { s.lamps with capsLED := 0 }
      else if s.osxVersion > 11 && !s.featureToggleMode && s.prefs.fixSierraCapsLockBug then
        if goingDown then s.lamps
        else { s.lamps with isCapsLocked := !s.isCapsLocked, capsLED := capsBit !s.isCapsLocked }
      else { s.lamps with isCapsLocked := !s.isCapsLocked } := rfl
  rw [hspecial]
  unfold capsLock
  split
  · rw [lamps_setAlphaLockFeedback, lamps_startFeatureToggle]
    rfl
  · split
    · exact lamps_sierraCapsLock w goingDown s
    · rfl

theorem lamps_releaseGesture (keyCode : UInt8) (s : Keyboard) : (s.releaseGesture w keyCode).lamps = s.lamps := by
  unfold releaseGesture
  split
  · rw [lamps_tell (by decide), lamps_when _ (lamps_dispatch w _ _ _)]
    rfl
  · rfl

theorem lamps_missionKey (keyCode : UInt8) (goingDown : Bool) (s : Keyboard) :
    (s.missionKey w keyCode goingDown).1.lamps = s.lamps :=
  lamps_iteFst (lamps_when _ (lamps_receiveGesture w (by decide) s)) rfl

theorem lamps_numLockOrPause (keyCode : UInt8) (goingDown : Bool) (s : Keyboard) :
    (s.numLockOrPause keyCode goingDown).1.lamps = s.lamps := by
  have htoggle : s.toggleNumLock.lamps = s.lamps :=
    lamps_setNumLockFeedback _ { s with isNumPadLocked := !s.isNumPadLocked }
  exact lamps_iteFst (lamps_iteFst (lamps_setNumLockFeedback goingDown s) (lamps_when _ htoggle)) rfl

theorem lamps_contextMenu (keyCode : UInt8) (goingDown : Bool) (s : Keyboard) :
    (s.contextMenu w keyCode goingDown).1.lamps = s.lamps :=
  lamps_iteFst rfl <| lamps_iteFst
    (lamps_when _ (lamps_generateAndSeeADBCode w _ _ { s with isFnKeyPressed := goingDown })) rfl

theorem lamps_keypad (keyCode : UInt8) (goingDown : Bool) (s : Keyboard) :
    (s.keypad w keyCode goingDown).lamps = s.lamps :=
  lamps_when _ (lamps_generateAndSeeADBCode w _ _
    { s with isNumPadKey := !s.extendedCode, isAccInputExceptionKey := true })

theorem lamps_parseSpecialKeys (keyCode : UInt8) (goingDown : Bool) (s : Keyboard) :
    (s.parseSpecialKeys w keyCode goingDown).1.lamps = s.specialLamps keyCode goingDown := by
  by_cases hshift : keyCode = 0x2a
  · subst hshift
    exact lamps_leftShift w goingDown { s with isAccInputExceptionKey := true }
  by_cases hcaps : keyCode = 0x3a
  · subst hcaps
    obtain ⟨cmd, ctrl, alt, time, hread⟩ := s.readKeyboardModifiers_eq w
    have h := lamps_capsLock w goingDown { s.readKeyboardModifiers w with isAccInputExceptionKey := true }
    refine h.trans ?_
    rw [hread]
    rfl
  have hother : s.specialLamps keyCode goingDown = s.lamps := by
    unfold specialLamps
    rw [if_neg hshift, if_neg hcaps]
  have hscroll : ∀ b : Bool, (if b then PS2Notification.kPS2C_ScrollLock_Continuous else .kPS2C_ScrollLock_Inertia) ∉
      backlightNotifications := by decide
  have hread : { s.readKeyboardModifiers w with isAccInputExceptionKey := true }.lamps = s.lamps :=
    lamps_readKeyboardModifiers w s
  rw [hother]
  unfold parseSpecialKeys
  rw [if_neg hshift, if_neg hcaps]
  exact lamps_iteFst (lamps_missionKey w keyCode goingDown s) <|
    lamps_iteFst (lamps_numLockOrPause keyCode goingDown s) <|
    lamps_iteFst (lamps_when _ (lamps_tell (hscroll _) s)) <|
    lamps_iteFst (lamps_releaseGesture w keyCode { s with isAccInputExceptionKey := true }) <|
    lamps_iteFst (lamps_contextMenu w keyCode goingDown s) <|
    lamps_iteFst hread <| lamps_iteFst rfl <| lamps_iteFst (lamps_keypad w keyCode goingDown s) <| lamps_iteFst rfl rfl

/-! Dispatch. -/

theorem lamps_notifyModifiers (s : Keyboard) : s.notifyModifiers.lamps = s.lamps := by
  have hlist : ∀ n ∈ modifierNotifications, n ∉ backlightNotifications := by decide
  unfold notifyModifiers
  cases h : modifierNotification (s.isKeyDown s.commandKey) (s.isKeyDown s.contrlKey) (s.isKeyDown s.altkey)
    s.modifierKeystate with
  | none => rfl
  | some r => exact lamps_tell (hlist r.1 (modifierNotification_mem h)) { s with modifierKeystate := r.2 }

theorem lamps_dispatchModifier (keyCode : UInt8) (goingDown : Bool) (s : Keyboard) :
    (s.dispatchModifier w keyCode goingDown).lamps = s.lamps := by
  unfold dispatchModifier
  dsimp only
  refine lamps_ite ((lamps_when _ (lamps_tell (by decide) _)).trans (lamps_notifyModifiers s)) ?_
  exact (lamps_dispatch w _ goingDown _).trans (lamps_notifyModifiers s)

theorem lamps_dispatchNormal (keyCode : UInt8) (goingDown : Bool) (s : Keyboard) :
    (s.dispatchNormal w keyCode goingDown).lamps = s.lamps := by
  have hkey := lamps_dispatch w (s.adbCode keyCode) goingDown s
  unfold dispatchNormal
  dsimp only
  exact lamps_ite ((lamps_tell (by decide) _).trans hkey) (lamps_ite ((lamps_tell (by decide) _).trans hkey) hkey)

theorem lamps_ReadFnKeyConfig (s : Keyboard) : s.ReadFnKeyConfig.lamps = s.lamps := by
  unfold ReadFnKeyConfig
  dsimp only
  generalize (if s.fnKeysModeNum = 1 then s.prefs.fnKeysMode1 else s.prefs.fnKeysMode2) = c
  cases c <;> rfl

theorem lamps_ReadFnKeyLayout (s : Keyboard) : s.ReadFnKeyLayout.lamps = s.lamps := by
  unfold ReadFnKeyLayout
  split
  · rfl
  · split
    · rfl
    · exact lamps_ReadFnKeyConfig { s with fnKeysModeNum := 2 }

theorem lamps_nextFnKeysMode (s : Keyboard) : s.nextFnKeysMode.lamps = s.lamps := by
  have hstep : s.stepFnKeysMode.lamps = s.lamps := rfl
  unfold nextFnKeysMode
  refine lamps_ite rfl ?_
  exact ((lamps_when _ (lamps_ReadFnKeyLayout _)).trans (lamps_when _ (lamps_ReadFnKeyConfig _))).trans hstep

theorem lamps_ReadExtendedFunctionsConfig (s : Keyboard) : s.ReadExtendedFunctionsConfig.lamps = s.lamps := by
  have hfold : ∀ (entries : List (String × String)) (s : Keyboard),
      (entries.foldl readExtendedFunction s).lamps = s.lamps := by
    intro entries
    induction entries with
    | nil => exact fun s => rfl
    | cons e entries ih =>
      intro s
      rw [List.foldl_cons, ih]
      unfold readExtendedFunction
      split <;> rfl
  unfold ReadExtendedFunctionsConfig
  split
  · exact hfold _ s
  · rfl

theorem lamps_keyboardFeature (keyCode : UInt8) (goingDown : Bool) (s : Keyboard) :
    (s.keyboardFeature keyCode goingDown).lamps = s.lamps := by
  have hextend : (s.toggleExtendFunctions goingDown).lamps = s.lamps := by
    unfold toggleExtendFunctions
    dsimp only
    exact lamps_when _ (lamps_ReadExtendedFunctionsConfig _)
  unfold keyboardFeature
  exact lamps_ite hextend <| lamps_ite rfl <| lamps_ite rfl <| lamps_ite (lamps_nextFnKeysMode s) <|
    lamps_ite rfl <| lamps_ite rfl rfl

/-- Only the bit of Caps Lock may differ. -/
def SameButLED (l l' : Lamps) : Prop := l' = { l with capsLED := l'.capsLED }

/-- The bit shows whether a feature key is held. -/
theorem lamps_ToggleTouchpadFeatures (keyCode : UInt8) (goingDown : Bool) (s : Keyboard) :
    SameButLED s.lamps (s.ToggleTouchpadFeatures keyCode goingDown).lamps := by
  have hfeatures : ∀ k n, touchpadFeature k = some n → n ∉ backlightNotifications := by
    intro k n hn
    unfold touchpadFeature at hn
    split at hn
    all_goals cases hn
    all_goals decide
  have hkey := lamps_keyboardFeature keyCode goingDown s
  unfold SameButLED ToggleTouchpadFeatures
  split
  · next n hn =>
    have htell := (lamps_when goingDown (lamps_tell (hfeatures keyCode n hn) (s.keyboardFeature keyCode goingDown))).trans hkey
    rw [lamps_setAlphaLockFeedback, htell]
  · unfold when
    split
    · rw [lamps_setAlphaLockFeedback, hkey]
    · rw [hkey]

/-- What the event of a key leaves of the backlight. -/
def backlightLeft (keyCode : UInt8) (goingDown : Bool) (s : Keyboard) : Bool :=
  if goingDown && s.usesFnKey keyCode then s.backlightAfter w keyCode else s.enabledAsusKBacklight

theorem SameButLED.of_eq {l l' : Lamps} (h : l' = l) : SameButLED l l' := by
  rw [h]
  rfl

/-- The dispatch of a key may set the bit of Caps Lock, and find out about the backlight. -/
theorem lamps_dispatchKey (keyCode : UInt8) (goingDown : Bool) (s : Keyboard) :
    SameButLED { s.lamps with enabledAsusKBacklight := s.backlightLeft w keyCode goingDown }
      (s.dispatchKey w keyCode goingDown).lamps := by
  have hother : s.usesFnKey keyCode = false → ∀ l : Lamps, SameButLED s.lamps l →
      SameButLED { s.lamps with enabledAsusKBacklight := s.backlightLeft w keyCode goingDown } l := by
    intro hfn l h
    have hleft : s.backlightLeft w keyCode goingDown = s.lamps.enabledAsusKBacklight := by
      unfold backlightLeft
      rw [hfn, Bool.and_false]
      rfl
    rw [hleft]
    exact h
  have hcases := dispatched_cases w keyCode goingDown s
  generalize s.dispatchKey w keyCode goingDown = t at hcases
  cases hcases with
  | fnKey hfn =>
    unfold SameButLED backlightLeft
    rw [lamps_processFnKeys, hfn, Bool.and_true]
  | ignored hfn => exact hother hfn _ (.of_eq rfl)
  | plain hfn => exact hother hfn _ (.of_eq (lamps_dispatch w _ _ s))
  | feature hfn => exact hother hfn _ (lamps_ToggleTouchpadFeatures keyCode goingDown s)
  | ends hfn =>
    refine hother hfn _ ?_
    unfold SameButLED
    rw [lamps_tell (by decide), lamps_setAlphaLockFeedback]
    rfl
  | modifier hfn => exact hother hfn _ (.of_eq (lamps_dispatchModifier w keyCode goingDown s))
  | normal hfn => exact hother hfn _ (.of_eq (lamps_dispatchNormal w keyCode goingDown s))

/-- When the mode ends the bit of Caps Lock is set anew. -/
theorem led_dispatchKey (keyCode : UInt8) (goingDown : Bool) {s : Keyboard} (hmode : s.featureToggleMode = true)
    (hshift : s.isKeyDown 0x2a = false) (hcaps : s.isKeyDown 0x3a = false) :
    (s.dispatchKey w keyCode goingDown).lamps.capsLED = capsBit s.isCapsLocked := by
  rw [dispatchKey_toggle w keyCode goingDown hmode]
  unfold processFeatureToggle
  rw [hshift, hcaps, if_neg (by decide), if_pos (by decide), lamps_tell (by decide), lamps_setAlphaLockFeedback]

end Keyboard

/-! The key of an event. -/

/-- The key code that the switch over the key codes ends with. -/
def Target.keyCode : Target → UInt8
  | .done _ => 0
  | .key _ keyCode _ => keyCode

namespace Keyboard

variable {w : World}

theorem goes_parse (e : ScanEvent) (s : Keyboard) : Goes e.goingDown s (s.parse w e) (s.target e) := goes_target e

theorem keyCode_parse (e : ScanEvent) (s : Keyboard) : (s.parse w e).2 = (s.target e).keyCode := by
  have hgoes := goes_parse (w := w) e s
  cases htarget : s.target e with
  | done t =>
    rw [htarget] at hgoes
    exact hgoes.1
  | key extended keyCode codes =>
    rw [htarget] at hgoes
    exact hgoes.1

theorem taken_iff (keyCode : UInt8) (goingDown : Bool) (s : Keyboard) :
    (s.updateKeyBitVector keyCode goingDown).isSome =
      (!goingDown || (!s.isKeyDown keyCode || s.repeats keyCode)) := by
  unfold updateKeyBitVector
  cases goingDown with
  | false => rfl
  | true =>
    rw [if_pos rfl]
    cases s.isKeyDown keyCode <;> cases s.repeats keyCode <;> rfl

/-- The event is not an auto-repeated press that is discarded. -/
def takes (e : ScanEvent) (s : Keyboard) : Bool :=
  !e.goingDown || (!s.isKeyDown (s.target e).keyCode || s.repeats (s.target e).keyCode)

theorem takes_parse {e : ScanEvent} {s : Keyboard} (hne : (s.target e).keyCode ≠ 0) :
    ((s.parse w e).1.updateKeyBitVector (s.target e).keyCode e.goingDown).isSome = s.takes e := by
  have hgoes := goes_parse (w := w) e s
  unfold takes
  cases htarget : s.target e with
  | done t =>
    rw [htarget] at hne
    exact absurd rfl hne
  | key extended keyCode codes =>
    rw [htarget] at hgoes
    obtain ⟨-, -, ⟨log, now, hstate⟩, -⟩ := hgoes
    rw [taken_iff, hstate]
    rfl

/-- What does not depend on the codes dispatched so far, unless the modifier positions are read,
is the same of the state in which the key of an event is handled and of the state before. -/
theorem key_congr {α : Type} {e : ScanEvent} {s t : Keyboard} {extended : Bool} {keyCode : UInt8} {codes : List UInt8}
    (htarget : s.target e = .key extended keyCode codes)
    (hset : (s.parse w e).1.updateKeyBitVector keyCode e.goingDown = some t) (F : Keyboard → α)
    (hF : keyCode ∉ positionKeys → ∀ (s : Keyboard) (log : List Sent) (now : UInt64),
      F { s with log := log, now := now } = F s) :
    F t = F ({ s with extendedCode := extended }.setKey keyCode e.goingDown) := by
  have hgoes := goes_parse (w := w) e s
  rw [htarget] at hgoes
  obtain ⟨-, -, ⟨log, now, hstate⟩, hpos⟩ := hgoes
  have ht := updateKeyBitVector_eq hset
  by_cases hmem : keyCode ∈ positionKeys
  · rw [ht, hpos hmem]
  · have hkey : t = { { s with extendedCode := extended }.setKey keyCode e.goingDown with log := log, now := now } := by
      rw [ht, hstate]
      rfl
    rw [hkey]
    exact hF hmem _ log now

/-- An event sets the bit of its key; a press that is discarded finds it set. -/
theorem bits_event (e : ScanEvent) (s : Keyboard) : (s.dispatchScanEvent w e).keyBitVector =
    if (s.target e).keyCode = 0 then s.keyBitVector
    else Function.update s.keyBitVector (s.target e).keyCode e.goingDown := by
  have hlight : ∀ (t : Keyboard) (d : Bool), (t.dispatchKeyboardBacklightNotification d).keyBitVector =
      t.keyBitVector := fun t d => congrArg Control.keyBitVector (control_backlight d t)
  have hcode := keyCode_parse (w := w) e s
  cases dispatchScanEvent_cases w e s with
  | done hzero heq =>
    rw [heq, hlight, if_pos (hcode.symm.trans hzero)]
    rcases (effect_parse w e s).effect with hsame | ⟨_, htoggle⟩
    · exact congrArg Control.keyBitVector hsame
    · exact (congrArg Control.keyBitVector htoggle).trans (FnEffect.touchpad (c := s.control)).keeps.1
  | discarded hne hset hcontrol heq =>
    rw [hcode] at hne hset
    have hbits : (s.parse w e).1.keyBitVector = s.keyBitVector := congrArg Control.keyBitVector hcontrol
    have htaken := taken_iff (s.target e).keyCode e.goingDown (s.parse w e).1
    rw [hset] at htaken
    simp only [Option.isSome_none, isKeyDown, hbits] at htaken
    rw [heq, hlight, if_neg hne, hbits]
    have hset : s.keyBitVector (s.target e).keyCode = e.goingDown := by
      revert htaken
      cases e.goingDown <;> cases s.keyBitVector (s.target e).keyCode <;> simp
    rw [← hset, Function.update_eq_self]
  | key t hne hset hcontrol heq =>
    rw [hcode] at hne hcontrol
    rw [heq, hlight, keyBitVector_processKey, if_neg hne]
    exact congrArg Control.keyBitVector hcontrol

end Keyboard

end ApplePS2
