import ApplePS2.Keyboard.SpecialKeys

/- What the keyboard driver keeps about the keys and tells the touchpad about them:
   the key bit vector, `_modifierKeystate`, the feature toggle mode, whether the
   touchpad is enabled, and the notifications that say so. Most procedures leave all
   of it as it is; the others are here with what they change. -/
namespace ApplePS2

def Sent.notification : Sent → Option PS2Notification
  | .dispatchPS2Notification n => some n
  | _ => none

/-- The notifications about the modifier keys, the feature toggle mode and the touchpad,
and the request for the version, which the driver never sends. -/
def controlNotifications : List PS2Notification :=
  [.kPS2C_ALT_Funtion_on, .kPS2C_ALT_Funtion_off, .kPS2C_CNTRL_Feature_on, .kPS2C_CNTRL_Feature_off,
    .kPS2C_CNTRLKeyDown, .kPS2C_CNTRLKeyUp, .kPS2C_CMDKeyDown, .kPS2C_CMDKeyUp,
    .kPS2C_ShowTouchPressureWidth, .kPS2C_EnableTouchpad, .kPS2C_DisableTouchpad, .kPS2C_RestoreTouchpad,
    .kPS2C_OSXVersionNotify]

namespace Keyboard

variable (w : World)

/-- The notifications sent so far. -/
def notifications (s : Keyboard) : List PS2Notification := s.log.filterMap Sent.notification

structure Control where
  fn : FnKeys
  keyBitVector : UInt8 → Bool
  modifierKeystate : UInt8
  isTPadEnabled : Bool
  featureToggleMode : Bool
  displaySleep : Bool
  notified : List PS2Notification

def control (s : Keyboard) : Control :=
  { fn := s.fn, keyBitVector := s.keyBitVector, modifierKeystate := s.modifierKeystate
    isTPadEnabled := s.isTPadEnabled, featureToggleMode := s.featureToggleMode
    displaySleep := s.displaySleep
    notified := s.notifications.filter (· ∈ controlNotifications) }

namespace Control

def notify (n : PS2Notification) (c : Control) : Control := { c with notified := c.notified ++ [n] }

def toggleTouchpad (c : Control) : Control :=
  if c.isTPadEnabled then { c with isTPadEnabled := false }.notify .kPS2C_DisableTouchpad
  else { c with isTPadEnabled := true }.notify .kPS2C_EnableTouchpad

def startFeatureToggle (c : Control) : Control :=
  { c with featureToggleMode := true }.notify .kPS2C_ShowTouchPressureWidth

def endFeatureToggle (c : Control) : Control :=
  { c with featureToggleMode := false }.notify .kPS2C_ShowTouchPressureWidth

end Control

/-! Procedures that leave it as it is. -/

theorem control_when {f : Keyboard → Keyboard} (hf : ∀ s, (f s).control = s.control) (c : Bool) (s : Keyboard) :
    (s.when c f).control = s.control := by
  unfold when
  split
  · exact hf s
  · rfl

theorem control_dispatch (c : UInt8) (d : Bool) (s : Keyboard) :
    (s.dispatchKeyboardKeyCode w c d).control = s.control := by
  simp [control, notifications, dispatchKeyboardKeyCode, Sent.notification]

theorem control_send {m : Sent} (hm : m.notification = none) (s : Keyboard) : (s.send m).control = s.control := by
  simp [control, notifications, send, hm]

theorem control_tell {n : PS2Notification} (hn : n ∉ controlNotifications) (s : Keyboard) :
    (s.notify n).control = s.control := by
  simp [control, notifications, notify, send, Sent.notification, hn]

theorem control_notify {n : PS2Notification} (hn : n ∈ controlNotifications) (s : Keyboard) :
    (s.notify n).control = s.control.notify n := by
  simp [control, Control.notify, notifications, notify, send, Sent.notification, hn]

theorem control_chord (ks : List UInt8) (s : Keyboard) : (s.chord w ks).control = s.control := by
  induction ks generalizing s with
  | nil => rfl
  | cons k ks ih => rw [chord, control_dispatch, ih, control_dispatch]

theorem control_setLEDs (ledState : UInt8) (s : Keyboard) : (s.setLEDs ledState).control = s.control :=
  control_send rfl s

theorem control_setAlphaLockFeedback (locked : Bool) (s : Keyboard) :
    (s.setAlphaLockFeedback locked).control = s.control := by
  unfold setAlphaLockFeedback
  exact control_setLEDs _ _

theorem control_setNumLockFeedback (locked : Bool) (s : Keyboard) :
    (s.setNumLockFeedback locked).control = s.control := by
  unfold setNumLockFeedback
  split
  · rfl
  · exact control_setLEDs _ _

theorem control_backlight (keyState : Bool) (s : Keyboard) :
    (s.dispatchKeyboardBacklightNotification keyState).control = s.control := by
  unfold dispatchKeyboardBacklightNotification
  repeat' split
  · exact control_tell (by decide) s
  · exact control_tell (by decide) s
  · rfl

theorem control_readKeyboardModifiers (s : Keyboard) : (s.readKeyboardModifiers w).control = s.control := by
  obtain ⟨cmd, ctrl, alt, time, h⟩ := s.readKeyboardModifiers_eq w
  rw [h]
  rfl

theorem control_setAsusKBlight (lvl : UInt8) (s : Keyboard) : (s.setAsusKBlight w lvl).control = s.control := by
  unfold setAsusKBlight
  repeat' split
  · exact control_send rfl s
  · rfl
  · rfl

theorem control_readAsusKBlight (reqParm : UInt8) (s : Keyboard) :
    (s.readAsusKBlight w reqParm).1.control = s.control := by
  unfold readAsusKBlight
  split <;> rfl

theorem control_processAsusKBacklight (LvlUp : Bool) (s : Keyboard) :
    (s.processAsusKBacklight w LvlUp).control = s.control := by
  unfold processAsusKBacklight
  dsimp only
  split
  · rw [control_setAsusKBlight, control_setAsusKBlight, control_readAsusKBlight]
  · exact control_readAsusKBlight w 0 s

theorem control_readBackLightLvl (s : Keyboard) : (s.readBackLightLvl w).control = s.control :=
  control_readAsusKBlight w 0 s

theorem control_repeatChord (c : UInt8) (n : Nat) (s : Keyboard) : (s.repeatChord w c n).control = s.control := by
  induction n generalizing s with
  | zero => rfl
  | succ n ih => rw [repeatChord, ih, control_chord]

theorem control_receiveHeader (data : UInt32) (s : Keyboard) : (s.receiveHeader w data).control = s.control := by
  unfold receiveHeader
  rw [control_when (control_readKeyboardModifiers w)]
  rfl

theorem control_ite {c : Prop} [Decidable c] {s : Control} {t t' : Keyboard} (h : t.control = s)
    (h' : t'.control = s) : (if c then t else t').control = s := by
  split
  · exact h
  · exact h'

theorem control_releaseKey (c : UInt8) (s : Keyboard) : (s.releaseKey w c).control = s.control :=
  control_chord w [c] s

theorem control_releaseGestureKey (b : Bool) (s : Keyboard) :
    { s with releaseGestureKey := b }.control = s.control := rfl

/-- A gesture only sends keys. -/
theorem control_gesture (n : PS2Notification) (s : Keyboard) : (s.gesture w n).control = s.control := by
  have hscreen : ∀ k k' : List UInt8, ∀ c : Prop, ∀ _ : Decidable c,
      (if c then s.chord w k else s.chord w k').control = s.control := by
    intro k k' c _
    exact control_ite (control_chord w k s) (control_chord w k' s)
  unfold gesture
  dsimp only
  split
  case h_1 => rw [control_releaseGestureKey, control_releaseKey, control_dispatch]
  case h_8 => rw [control_releaseGestureKey, control_chord, control_dispatch]
  all_goals try simp only [control_releaseKey, control_chord, hscreen]
  all_goals repeat' apply control_ite
  all_goals try simp only [control_releaseKey, control_chord]

theorem control_receiveGesture (n : PS2Notification) (s : Keyboard) : (s.receiveGesture w n).control = s.control := by
  unfold receiveGesture
  rw [control_gesture, control_receiveHeader]

theorem control_brightnessKey (up : Bool) (s : Keyboard) : (s.brightnessKey w up).1.control = s.control := by
  unfold brightnessKey
  split
  · exact control_repeatChord w _ _ { s with useFinerBrightnesCtrl := false }
  · rfl

theorem control_finerKey (finer : Bool) (c : UInt8) (s : Keyboard) : (s.finerKey w finer c).control = s.control := by
  unfold finerKey
  split <;> exact control_chord w _ s

theorem control_generateAndSeeADBCode (keyCode : UInt8) (goingDown : Bool) (s : Keyboard) :
    (s.generateAndSeeADBCode w keyCode goingDown).control = s.control := by
  unfold generateAndSeeADBCode
  repeat' split
  · rfl
  · exact control_chord w [s.generatedCode] s
  · rfl

/-! The Fn keys. -/

/-- What an Fn key does: the touchpad may be toggled, and the display put to sleep with it. -/
inductive FnEffect (c : Control) : Control → Prop where
  | none : FnEffect c c
  | touchpad : FnEffect c c.toggleTouchpad
  | displaySleep : FnEffect c { c.toggleTouchpad with displaySleep := !c.displaySleep }

theorem control_toggleTouchpad (s : Keyboard) : s.toggleTouchpad.control = s.control.toggleTouchpad := by
  unfold toggleTouchpad Control.toggleTouchpad
  show _ = if s.isTPadEnabled then _ else _
  split
  · exact control_notify (by decide) _
  · exact control_notify (by decide) _

theorem effect_dispatchFnKey (fnKeyCode : UInt8) (s : Keyboard) :
    FnEffect s.control (s.dispatchFnKey w fnKeyCode).control := by
  have hsame : ∀ s' : Keyboard, s'.control = s.control → FnEffect s.control s'.control := by
    intro s' h
    rw [h]
    exact .none
  unfold dispatchFnKey
  repeat' split
  · exact hsame _ (control_finerKey w _ _ s)
  · exact hsame _ (control_finerKey w _ _ s)
  · exact hsame _ (control_finerKey w _ _ s)
  · exact hsame _ (control_finerKey w _ _ s)
  · exact hsame _ rfl
  · have htoggle := control_toggleTouchpad (s.chord w [s.normalCode s.contrlKey, 0x38, 0x70])
    rw [control_chord] at htoggle
    have hsleep : ∀ t : Keyboard, { t with displaySleep := !t.displaySleep }.control =
        { t.control with displaySleep := !t.control.displaySleep } := fun t => rfl
    have hkeep : s.control.toggleTouchpad.displaySleep = s.control.displaySleep := by
      unfold Control.toggleTouchpad
      split <;> rfl
    dsimp only
    rw [hsleep, htoggle, hkeep]
    exact .displaySleep
  · exact hsame _ (control_chord w _ s)

/-- An Fn key that toggles the touchpad has no key code left to dispatch. -/
theorem control_fnKeyFunction (keyCode : UInt8) (rateLimit : Bool) (s : Keyboard) :
    (s.fnKeyFunction w keyCode rateLimit).1.control = s.control ∨
      ((s.fnKeyFunction w keyCode rateLimit).2 = 0 ∧
        (s.fnKeyFunction w keyCode rateLimit).1.control = s.control.toggleTouchpad) := by
  have hresult := fnKeyFunction_result w keyCode rateLimit s
  generalize s.fnKeyFunction w keyCode rateLimit = r at hresult ⊢
  cases hresult with
  | brightness up => exact .inl (control_brightnessKey w up s)
  | sleep => exact .inl (control_send rfl s)
  | missionControl => exact .inl (control_receiveGesture w _ s)
  | launchpad => exact .inl (control_receiveGesture w _ s)
  | touchpad => exact .inr ⟨rfl, control_toggleTouchpad s⟩
  | code fnKeyCode => exact .inl rfl

theorem control_fnKeyDown (keyCode : UInt8) (rateLimit : Bool) (s : Keyboard) :
    (s.fnKeyDown w keyCode rateLimit).1.control = s.control ∨
      ((s.fnKeyDown w keyCode rateLimit).2 = 0 ∧
        (s.fnKeyDown w keyCode rateLimit).1.control = s.control.toggleTouchpad) := by
  unfold fnKeyDown
  repeat' split
  · exact .inl ((control_readBackLightLvl w _).trans (control_processAsusKBacklight w false s))
  · exact .inl ((control_readBackLightLvl w _).trans (control_processAsusKBacklight w true s))
  · exact .inl (control_dispatch w _ true s)
  · exact .inl (control_dispatch w _ true s)
  · exact control_fnKeyFunction w keyCode rateLimit s

theorem effect_processFnKeys (keyCode : UInt8) (s : Keyboard) :
    FnEffect s.control (s.processFnKeys w keyCode true).control := by
  unfold processFnKeys
  simp only [if_true]
  generalize hr : s.fnKeyDown w keyCode (s.rateLimited w) = r
  obtain ⟨t, code⟩ := r
  have htime : { t with lastEventSecs := w.secs, lastEventMicrosecs := w.microsecs }.control = t.control := rfl
  have heffect := effect_dispatchFnKey w code { t with lastEventSecs := w.secs, lastEventMicrosecs := w.microsecs }
  have hdown := control_fnKeyDown w keyCode (s.rateLimited w) s
  rw [hr] at hdown
  rw [htime] at heffect
  rcases hdown with hsame | ⟨hzero, htoggle⟩
  · rw [← hsame]
    exact heffect
  · obtain rfl : code = 0 := hzero
    show FnEffect s.control t.control
    rw [htoggle]
    exact .touchpad

/-- A release has no function but the repeat of a key that is sent. -/
theorem control_processFnKeys_up (keyCode : UInt8) (s : Keyboard) :
    (s.processFnKeys w keyCode false).control = s.control := by
  have hcode : ∀ t : Keyboard, ∀ code ∈ ([0, 0x10, 0x20, 0x49, 0x4c] : List UInt8),
      (t.dispatchFnKey w code).control = t.control := by
    intro t code h
    simp only [List.mem_cons, List.not_mem_nil, or_false] at h
    rcases h with rfl | rfl | rfl | rfl | rfl
    · rfl
    all_goals exact control_finerKey w _ _ t
  have hup : (s.fnKeyUp w keyCode).1.control = s.control ∧
      (s.fnKeyUp w keyCode).2 ∈ ([0, 0x10, 0x20, 0x49, 0x4c] : List UInt8) := by
    unfold fnKeyUp
    repeat' split
    · exact ⟨control_dispatch w _ false s, by simp⟩
    · exact ⟨control_dispatch w _ false s, by simp⟩
    · next h => exact ⟨rfl, List.mem_cons_of_mem _ h⟩
    · exact ⟨rfl, by simp⟩
  unfold processFnKeys
  simp only [Bool.false_eq_true, if_false]
  rw [hcode _ _ hup.2]
  exact hup.1

theorem control_dispatchVendorKey (keyCode : UInt8) (s : Keyboard) :
    (s.dispatchVendorKey w keyCode).control = s.control := by
  unfold dispatchVendorKey
  repeat' split
  · exact control_processFnKeys_up w _ s
  · exact control_processFnKeys_up w _ s
  · exact control_processFnKeys_up w _ s
  · exact control_processFnKeys_up w _ s
  · exact control_chord w _ s
  · rfl

/-! The switch over the key codes. -/

theorem control_iteFst {c : Prop} [Decidable c] {l : Control} {r r' : Keyboard × UInt8} (h : r.1.control = l)
    (h' : r'.1.control = l) : (if c then r else r').1.control = l := by
  split
  · exact h
  · exact h'

theorem control_MapGermanTurkish (keyCode : UInt8) (goingDown : Bool) (s : Keyboard) :
    (s.MapGermanTurkishKeyboardLayout w keyCode goingDown).1.control = s.control := by
  unfold MapGermanTurkishKeyboardLayout
  split
  · rfl
  · dsimp only
    rw [control_when (control_dispatch w _ _), control_dispatch, control_when (control_dispatch w _ _),
      control_when (control_dispatch w _ _)]

theorem control_appSwitch (s : Keyboard) : (s.appSwitch w).control = s.control := by
  unfold appSwitch
  dsimp only
  rw [control_when (control_dispatch w _ _), control_chord, control_when (control_dispatch w _ _)]

theorem control_switchNormal (keyCode : UInt8) (goingDown : Bool) (s : Keyboard) :
    (s.switchNormal w keyCode goingDown).1.control = s.control := by
  unfold switchNormal
  refine control_iteFst (control_iteFst (control_MapGermanTurkish w keyCode goingDown s) rfl) <|
    control_iteFst (control_iteFst ?appClose ?_) <| control_iteFst (control_iteFst ?minimize ?_) <|
    control_iteFst (control_iteFst ?appSwitch ?_) <| control_iteFst ?_ <| control_iteFst (control_iteFst ?_ ?_) <|
    control_iteFst (control_iteFst ?_ (control_iteFst (control_iteFst ?_ (control_iteFst ?french ?_)) ?_)) <|
    control_iteFst ?_ ?_
  case appClose => exact control_when (control_receiveGesture w _) _ s
  case minimize => exact control_when (control_chord w _) _ s
  case appSwitch => exact control_when (control_appSwitch w) _ s
  case french => exact control_dispatch w _ _ s
  all_goals rfl

theorem control_switchExtended {keyCode : UInt8} {goingDown : Bool}
    (h : goingDown = true → ¬(keyCode = 0x32 ∨ keyCode = 0x59)) (s : Keyboard) :
    (s.switchExtended w keyCode goingDown).1.control = s.control := by
  have htouchpad : (if keyCode = 0x32 ∨ keyCode = 0x59 then s.when goingDown toggleTouchpad else s).control =
      s.control := by
    cases goingDown with
    | true => rw [if_neg (h rfl)]
    | false => exact control_ite rfl rfl
  unfold switchExtended
  refine control_iteFst (control_when (control_dispatchVendorKey w _) _ s) ?_
  by_cases hkey : keyCode = 0x32 ∨ keyCode = 0x59
  · rw [if_pos hkey]
    rw [if_pos hkey] at htouchpad
    exact htouchpad
  · rw [if_neg hkey]
    refine control_iteFst (control_when (control_send rfl) _ s) <| control_iteFst rfl <| control_iteFst rfl <|
      control_iteFst (control_iteFst rfl rfl) <| control_iteFst rfl <|
      control_iteFst (control_iteFst (control_chord w _ s) rfl) <|
      control_iteFst (control_when (control_chord w _) _ s) <|
      control_iteFst (control_when (control_dispatch w _ _) _ s) <| control_iteFst rfl rfl

/-- The state and the key code that the switch over the key codes leaves. -/
def parse (e : ScanEvent) (s : Keyboard) : Keyboard × UInt8 :=
  if e.extended then s.parseExtended w e.keyCode e.goingDown else s.parseNormal w e.keyCode e.goingDown

/-- The press of the vendors' touchpad key. -/
def isTouchpadKey (e : ScanEvent) : Bool := e.extended && e.goingDown && (e.keyCode = 0x32 || e.keyCode = 0x59)

theorem parse_touchpadKey {e : ScanEvent} (h : isTouchpadKey e = true) (s : Keyboard) :
    s.parse w e = (toggleTouchpad { s with extendedCode := true }, 0) := by
  unfold isTouchpadKey at h
  simp only [Bool.and_eq_true, Bool.or_eq_true, decide_eq_true_eq] at h
  obtain ⟨⟨hext, hdown⟩, hcode⟩ := h
  have hvendor : e.keyCode ∉ vendorKeys := by
    rcases hcode with h | h <;> rw [h] <;> decide
  unfold parse parseExtended switchExtended
  rw [hext, hdown]
  simp only [if_true, if_neg hvendor, if_pos hcode]
  rfl

/-- Only the vendors' touchpad key changes anything. -/
theorem control_parse (e : ScanEvent) (s : Keyboard) :
    (s.parse w e).1.control = if isTouchpadKey e then s.control.toggleTouchpad else s.control := by
  cases hkey : isTouchpadKey e with
  | true =>
    rw [parse_touchpadKey w hkey]
    exact control_toggleTouchpad { s with extendedCode := true }
  | false =>
    unfold parse
    split
    · next hext =>
      refine control_switchExtended w (fun hdown hcode => ?_) { s with extendedCode := true }
      have hcodes : (decide (e.keyCode = 0x32) || decide (e.keyCode = 0x59)) = true := by simpa using hcode
      rw [isTouchpadKey, hext, hdown, hcodes] at hkey
      cases hkey
    · exact control_switchNormal w e.keyCode e.goingDown { s with extendedCode := false }

/-- Only the vendors' touchpad key changes anything, and it has no key code left. -/
structure SwitchEffect (c : Control) (r : Keyboard × UInt8) : Prop where
  effect : r.1.control = c ∨ (r.2 = 0 ∧ r.1.control = c.toggleTouchpad)

theorem effect_parse (e : ScanEvent) (s : Keyboard) : SwitchEffect s.control (s.parse w e) := by
  have hcontrol := control_parse w e s
  cases hkey : isTouchpadKey e with
  | true =>
    rw [hkey, if_pos rfl] at hcontrol
    exact ⟨.inr ⟨congrArg Prod.snd (parse_touchpadKey w hkey s), hcontrol⟩⟩
  | false =>
    rw [hkey] at hcontrol
    exact ⟨.inl hcontrol⟩

/-! The key bit vector and the extended functions. -/

theorem control_setKey (n : UInt8) (down : Bool) (s : Keyboard) :
    (s.setKey n down).control = { s.control with keyBitVector := Function.update s.keyBitVector n down } := rfl

/-- A press that is not discarded, or a release, sets the bit of the key. -/
theorem updateKeyBitVector_eq {keyCode : UInt8} {goingDown : Bool} {s t : Keyboard}
    (h : s.updateKeyBitVector keyCode goingDown = some t) : t = s.setKey keyCode goingDown := by
  unfold updateKeyBitVector at h
  cases goingDown with
  | true =>
    simp only [if_true] at h
    split at h
    · cases h
    · exact (Option.some.inj h).symm
  | false => exact (Option.some.inj h).symm

theorem control_dispatchAll (d : Bool) (cs : List UInt8) (s : Keyboard) :
    (s.dispatchAll w d cs).control = s.control := by
  induction cs generalizing s with
  | nil => rfl
  | cons c cs ih => rw [dispatchAll, ih, control_dispatch]

theorem control_ProcessKeyCombinations (keys : Option String) (d gesture : Bool) (s : Keyboard) :
    (s.ProcessKeyCombinations w keys d gesture).control = s.control := by
  unfold ProcessKeyCombinations
  split
  · rfl
  · rw [control_when (control_dispatch w _ _), control_dispatchAll, control_when (control_dispatch w _ _)]

theorem control_ProcessExtendedFunctions {keyCode : UInt8} {d : Bool} {s t : Keyboard}
    (h : s.ProcessExtendedFunctions w keyCode d = some t) : t.control = s.control := by
  unfold ProcessExtendedFunctions at h
  split at h
  · cases h
  · split at h
    · obtain rfl := Option.some.inj h
      exact control_ProcessKeyCombinations w _ d false s
    · repeat' split at h
      all_goals obtain rfl := Option.some.inj h
      · rfl
      all_goals rw [control_dispatch, control_dispatch]

/-! The special keys. -/

theorem control_startFeatureToggle (s : Keyboard) :
    (s.startFeatureToggle w).control = s.control.startFeatureToggle := by
  have hesc : PS2Notification.kPS2C_ESC ∉ controlNotifications := by decide
  have hshow : PS2Notification.kPS2C_ShowTouchPressureWidth ∈ controlNotifications := by decide
  unfold startFeatureToggle
  rw [control_tell hesc, control_dispatch, control_notify hshow]
  rfl

/-- Left Shift and Caps Lock come together with this key. -/
def startsToggle (keyCode : UInt8) (goingDown : Bool) (s : Keyboard) : Bool :=
  goingDown && ((keyCode = 0x2a && s.isKeyDown 0x3a) || (keyCode = 0x3a && s.isKeyDown 0x2a))

theorem control_leftShift (goingDown : Bool) (s : Keyboard) : (s.leftShift w goingDown).control =
    if goingDown && s.isKeyDown 0x3a then s.control.startFeatureToggle else s.control := by
  have hshift : PS2Notification.kPS2C_ShiftKey ∉ controlNotifications := by decide
  have hesc : PS2Notification.kPS2C_ESC ∉ controlNotifications := by decide
  unfold leftShift
  cases goingDown with
  | false =>
    simp only [Bool.false_and, Bool.false_eq_true, if_false]
    split
    · exact control_tell hesc s
    · rfl
  | true =>
    simp only [Bool.true_and, if_true]
    split
    · exact (control_setAlphaLockFeedback false _).trans (control_startFeatureToggle w { s with isCapsLocked := false })
    · exact control_tell hshift { s with releaseGestureKey := true }

theorem control_sierraCapsLock (goingDown : Bool) (s : Keyboard) :
    (s.sierraCapsLock w goingDown).control = s.control := by
  unfold sierraCapsLock
  dsimp only
  rw [control_when (control_setAlphaLockFeedback _), control_when (control_send rfl), control_dispatch,
    control_dispatch]
  rfl

theorem control_capsLock (goingDown : Bool) (s : Keyboard) : (s.capsLock w goingDown).control =
    if goingDown && s.isKeyDown 0x2a then s.control.startFeatureToggle else s.control := by
  unfold capsLock
  rw [Bool.and_comm goingDown]
  split
  · rw [control_setAlphaLockFeedback, control_startFeatureToggle]
  · split
    · exact control_sierraCapsLock w goingDown s
    · rfl

theorem control_releaseGesture (keyCode : UInt8) (s : Keyboard) :
    (s.releaseGesture w keyCode).control = s.control := by
  have hesc : PS2Notification.kPS2C_ESC ∉ controlNotifications := by decide
  unfold releaseGesture
  split
  · rw [control_tell hesc, control_when (control_dispatch w _ _), control_releaseGestureKey]
  · rfl

theorem control_missionKey (keyCode : UInt8) (goingDown : Bool) (s : Keyboard) :
    (s.missionKey w keyCode goingDown).1.control = s.control := by
  unfold missionKey
  split
  · exact control_when (control_receiveGesture w _) _ s
  · rfl

theorem control_numLockOrPause (keyCode : UInt8) (goingDown : Bool) (s : Keyboard) :
    (s.numLockOrPause keyCode goingDown).1.control = s.control := by
  have htoggle : ∀ s : Keyboard, s.toggleNumLock.control = s.control := by
    intro s
    exact control_setNumLockFeedback _ { s with isNumPadLocked := !s.isNumPadLocked }
  unfold numLockOrPause
  repeat' split
  · exact control_setNumLockFeedback goingDown s
  · exact control_when htoggle goingDown s
  all_goals rfl

theorem control_contextMenu (keyCode : UInt8) (goingDown : Bool) (s : Keyboard) :
    (s.contextMenu w keyCode goingDown).1.control = s.control := by
  unfold contextMenu
  split
  · rfl
  · split
    · exact control_when (control_generateAndSeeADBCode w _ _) _ { s with isFnKeyPressed := goingDown }
    · rfl

theorem control_keypad (keyCode : UInt8) (goingDown : Bool) (s : Keyboard) :
    (s.keypad w keyCode goingDown).control = s.control :=
  control_when (control_generateAndSeeADBCode w _ _) _
    { s with isNumPadKey := !s.extendedCode, isAccInputExceptionKey := true }

theorem iteFst {c : Control} {p : Prop} [Decidable p] {r r' : Keyboard × UInt8} (h : p → r.1.control = c)
    (h' : r'.1.control = c) : (if p then r else r').1.control = c := by
  split
  · next hp => exact h hp
  · exact h'

/-- The special keys begin the feature toggle mode when Left Shift and Caps Lock come together. -/
theorem control_parseSpecialKeys (keyCode : UInt8) (goingDown : Bool) (s : Keyboard) :
    (s.parseSpecialKeys w keyCode goingDown).1.control =
      if s.startsToggle keyCode goingDown then s.control.startFeatureToggle else s.control := by
  by_cases hshift : keyCode = 0x2a
  · subst hshift
    have hstarts : s.startsToggle 0x2a goingDown = (goingDown && s.isKeyDown 0x3a) := by simp [startsToggle]
    rw [hstarts]
    exact control_leftShift w goingDown { s with isAccInputExceptionKey := true }
  by_cases hcaps : keyCode = 0x3a
  · subst hcaps
    have hstarts : s.startsToggle 0x3a goingDown = (goingDown && s.isKeyDown 0x2a) := by simp [startsToggle]
    have hread : { s.readKeyboardModifiers w with isAccInputExceptionKey := true }.control = s.control :=
      control_readKeyboardModifiers w s
    have hbits : { s.readKeyboardModifiers w with isAccInputExceptionKey := true }.isKeyDown 0x2a =
        s.isKeyDown 0x2a := congrArg (fun c => c.keyBitVector 0x2a) hread
    have h := control_capsLock w goingDown { s.readKeyboardModifiers w with isAccInputExceptionKey := true }
    rw [hbits, hread] at h
    rw [hstarts]
    exact h
  have hstarts : s.startsToggle keyCode goingDown = false := by simp [startsToggle, hshift, hcaps]
  have hscroll : ∀ b : Bool, (if b then PS2Notification.kPS2C_ScrollLock_Continuous else .kPS2C_ScrollLock_Inertia) ∉
      controlNotifications := by decide
  rw [hstarts]
  simp only [Bool.false_eq_true, if_false]
  unfold parseSpecialKeys
  refine iteFst (fun _ => control_missionKey w keyCode goingDown s) <|
    iteFst (fun _ => control_numLockOrPause keyCode goingDown s) <|
    iteFst (fun _ => control_when (control_tell (hscroll _)) _ s) <|
    iteFst (fun _ => control_releaseGesture w keyCode { s with isAccInputExceptionKey := true }) <|
    iteFst (fun h => absurd h hshift) <| iteFst (fun h => absurd h hcaps) <|
    iteFst (fun _ => control_contextMenu w keyCode goingDown s) <|
    iteFst (fun _ => control_readKeyboardModifiers w s) <| iteFst (fun _ => rfl) <|
    iteFst (fun _ => control_keypad w keyCode goingDown s) <| iteFst (fun _ => rfl) rfl

end Keyboard

end ApplePS2
