import ApplePS2.Touchpad.Reconnect

/- The touchpad driver's handlers of the keyboard's notifications
   (`receiveKeyboardNotifications`) and of power events (`setDevicePowerState`).

   `shared_receive` and `shared_power` say what they do to what the two drivers share:
   whether the touchpad is disabled, the display of pressure and width, and what the
   keyboard is told. -/
namespace ApplePS2.Touchpad

variable (w : TouchpadWorld)

/-- The pointer is moved a little bit to show that a feature has been toggled. -/
def showToggled (on : Bool) (s : Touchpad) : Touchpad :=
  s.dispatchRelativePointerPosition 0 (if on then -50 else 50) s.button.state

/-- The cmd key is released if the App switch gesture function is active. -/
def releaseAppSwitch (s : Touchpad) : Touchpad :=
  if s.swipe.isAppSwitchDone then { s.notifyKeyboard .kPS2C_ReleaseCmdKey with swipe.isAppSwitchDone := false }
  else s

def clearDrag (d : Drag) : Drag :=
  { d with isDragging := false, isTapDrag := false, isHoldDrag := false, is3FDrag := false }

def releaseDrag (s : Touchpad) : Touchpad :=
  if s.drag.isDragging then
    let s := s.dispatchRelativePointerPosition 0 0 0
    { s with button.data := 0, button.state := 0, drag := clearDrag s.drag }
  else s

/-- Reset direction of scroll on Left Shift key clear. -/
def clearToggleKey (s : Touchpad) : Touchpad :=
  if s.kbEvent.isToggleKeyOnHold then
    { s with
      scrollFactor := if s.scrollFactor < 0 then 0 - s.scrollFactor else s.scrollFactor
      kbEvent.isToggleKeyOnHold := false }
  else s

/-- The touchpad is in use again. -/
def enableInput (now : UInt64) (s : Touchpad) : Touchpad :=
  { s with
    kbEvent.lastKeyPressTime := now, kbEvent.kbKeysCount := 0, kbEvent.disableTouchpad := false
    kbEvent.accidentalInput := false }

def accidentalInput (now : UInt64) (s : Touchpad) : Touchpad :=
  let kbKeysCount := s.kbEvent.kbKeysCount + 1
  let typing := kbKeysCount ≥ s.kbEvent.accInputKeysCount && s.isTypeModeEnabled
  { s with
    kbEvent.kbKeysCount := if typing then 2 else kbKeysCount
    kbEvent.accidentalInput := typing || s.kbEvent.accidentalInput
    kbEvent.lastKeyPressTime := now }

/-- ESC, and the end of a key that was held for a gesture. -/
def escape (now : UInt64) (s : Touchpad) : Touchpad :=
  let s := { s with swipe.isInFullScreen := false, tap.count := 0 } |> clearToggleKey |> releaseDrag |> releaseAppSwitch
  { s with kbEvent.lastKeyPressTime := now }

def contextMenuClick (s : Touchpad) : Touchpad :=
  { s |> dispatchRelativePointerPosition 0 0 0x2 |> dispatchRelativePointerPosition 0 0 0 with button.state := 0 }

def shiftKey (s : Touchpad) : Touchpad :=
  let onHold := !s.kbEvent.isToggleKeyOnHold
  { s with
    kbEvent.isToggleKeyOnHold := onHold
    scrollFactor := 0 - s.scrollFactor
    swipe.isInFullScreen := !s.swipe.isInFullScreen
    tap.count := if onHold then s.tap.count else 0 }

/-- "Keyboard command to reconnect..." -/
def restoreTouchpad (s : Touchpad) : Touchpad :=
  (s.Reconnect_touchpad w).2 |> enableInput (w.uptime 0) |> notifyKeyboard .kPS2C_EnableTouchpad

def backLightOff (s : Touchpad) : Touchpad :=
  if s.kbLight.isKBLightOff then s
  else s |> send (.kBackLightTimer none) |> send (.kBackLightTimer (some s.kbLight.autoOffTimeout))

def backLightOn (now : UInt64) (s : Touchpad) : Touchpad :=
  -- the time-out is multiplied in 32 bits
  let timeout := (s.kbLight.autoOffTimeout * 1000000).toUInt64
  if s.kbLight.isKBLightOff || now - s.kbLight.lastTriggerTime > timeout then
    { s with kbLight.lastTriggerTime := 0 } |> send (.kBackLightTimer none) |> send (.kBackLightTimer (some 0))
  else s

def receiveKeyboardNotifications (n : PS2Notification) (s : Touchpad) : Touchpad :=
  match n with
  | .kPS2C_ShowTouchPressureWidth => { s with kbEvent.showPressWidth := !s.kbEvent.showPressWidth }
  | .kPS2C_AccidentalInput => s.accidentalInput (w.uptime 0)
  | .kPS2C_DisableTouchpad => { s with kbEvent.disableTouchpad := true }
  | .kPS2C_EnableTouchpad => s.enableInput (w.uptime 0)
  | .kPS2C_ESC => s.escape (w.uptime 0)
  | .kPS2C_DoContextMenu => s.contextMenuClick
  | .kPS2C_ScrollLock_Auto =>
    let s := { s with scroll.hasEdgeAuto := !s.scroll.hasEdgeAuto, scroll.has2FAuto := !s.scroll.has2FAuto }
    s.showToggled (s.scroll.hasEdgeAuto || s.scroll.has2FAuto)
  | .kPS2C_ScrollLock_Inertia =>
    { s with scroll.has2FInertia := !s.scroll.has2FInertia, scroll.hasEdgeInertia := !s.scroll.hasEdgeInertia }.showToggled
      !s.scroll.hasEdgeInertia
  | .kPS2C_ScrollLock_Continuous =>
    { s with scroll.has2FCont := !s.scroll.has2FCont, scroll.hasEdgeCont := !s.scroll.hasEdgeCont }.showToggled
      !s.scroll.has2FCont
  | .kPS2C_ShiftKey => s.shiftKey
  | .kPS2C_CNTRLKeyDown => { s with ps2Mouse.isCtrlScrollSwipe := true }
  | .kPS2C_CNTRLKeyUp => { s with ps2Mouse.isCtrlScrollSwipe := false }
  | .kPS2C_CNTRL_Feature_on => { s with scrollFactor := s.scrollFactor * 2 }
  | .kPS2C_CNTRL_Feature_off => { s with scrollFactor := s.scrollFactor / 2 }
  | .kPS2C_ALT_Funtion_on => { s with kbEvent.altFunction := true }
  | .kPS2C_ALT_Funtion_off => { s with kbEvent.altFunction := false, scroll.doAuto := false }
  | .kPS2C_EdgeScroll =>
    { s with scroll.hasEdgeScroll := !s.scroll.hasEdgeScroll }.showToggled !s.scroll.hasEdgeScroll
  | .kPS2C_Gestures_1FSwipes =>
    { s with swipe.hasEdgeSwipes := !s.swipe.hasEdgeSwipes }.showToggled !s.swipe.hasEdgeSwipes
  | .kPS2C_Gestures_3FSwipes =>
    { s with swipe.has3FSwipes := !s.swipe.has3FSwipes }.showToggled !s.swipe.has3FSwipes
  | .kPS2C_Gestures_4FSwipes =>
    { s with swipe.has4FSwipes := !s.swipe.has4FSwipes }.showToggled !s.swipe.has4FSwipes
  | .kPS2C_Gestures_Rotate => { s with rotateEnabled := !s.rotateEnabled }.showToggled !s.rotateEnabled
  | .kPS2C_Gestures_Zoom => { s with zoomEnabled := !s.zoomEnabled }.showToggled !s.zoomEnabled
  | .kPS2C_Gestures_DoubleTaps =>
    { s with tap.hasMulFDoubleTaps := !s.tap.hasMulFDoubleTaps }.showToggled !s.tap.hasMulFDoubleTaps
  | .kPS2C_RestoreTouchpad => s.restoreTouchpad w
  | .kPS2C_KeybrdBackLightOff => s.backLightOff
  | .kPS2C_KeybrdBackLightOn => s.backLightOn (w.uptime 1)
  | .kPS2C_KeybrdBackLightToggleOn => { s with kbLight.isKBLightOff := false }
  | .kPS2C_KeybrdBackLightToggleOff => { s with kbLight.isKBLightOff := true }
  | .kPS2C_OSXVersionNotify =>
    s |> notifyKeyboard .kPS2C_OSXVersionNotify |> send (.dispatchPS2Notification s.osxVersion.toUInt32)
  | _ => s

def setDevicePowerState (whatToDo : PowerControl) (s : Touchpad) : Touchpad :=
  match whatToDo with
  | .kPS2C_DisableDevice => s.Enable_touchpad w false
  | .kPS2C_EnableDevice =>
    let s := { s with
      kbEvent.accidentalInput := false, kbEvent.disableTouchpad := false, kbEvent.showPressWidth := false
      modeSetTries := 3 }
    (s.Reconnect_touchpad w).2

end ApplePS2.Touchpad

namespace ApplePS2

/-! What the two drivers share. -/

def TouchpadSent.notification : TouchpadSent → Option UInt32
  | .dispatchPS2Notification data => some data
  | _ => none

def PS2Notification.data (n : PS2Notification) : UInt32 := UInt32.ofNat n.ctorIdx

structure Shared where
  disableTouchpad : Bool
  showPressWidth : Bool
  notified : List UInt32

/-- What a notification of the keyboard does, when the App switch gesture is active or not. -/
def Shared.receive (n : PS2Notification) (appSwitch : Bool) (osxVersion : UInt8) (c : Shared) : Shared :=
  match n with
  | .kPS2C_ShowTouchPressureWidth => { c with showPressWidth := !c.showPressWidth }
  | .kPS2C_DisableTouchpad => { c with disableTouchpad := true }
  | .kPS2C_EnableTouchpad => { c with disableTouchpad := false }
  | .kPS2C_RestoreTouchpad =>
    { c with disableTouchpad := false, notified := c.notified ++ [PS2Notification.kPS2C_EnableTouchpad.data] }
  | .kPS2C_ESC =>
    if appSwitch then { c with notified := c.notified ++ [PS2Notification.kPS2C_ReleaseCmdKey.data] } else c
  | .kPS2C_OSXVersionNotify =>
    { c with notified := c.notified ++ [PS2Notification.kPS2C_OSXVersionNotify.data, osxVersion.toUInt32] }
  | _ => c

namespace Touchpad

variable {w : TouchpadWorld}

def notified (s : Touchpad) : List UInt32 := s.log.filterMap TouchpadSent.notification

def shared (s : Touchpad) : Shared := ⟨s.kbEvent.disableTouchpad, s.kbEvent.showPressWidth, s.notified⟩

theorem shared_send {m : TouchpadSent} (hm : m.notification = none) (s : Touchpad) : (s.send m).shared = s.shared := by
  simp [shared, notified, send, hm]

theorem shared_notifyKeyboard (n : PS2Notification) (s : Touchpad) :
    (s.notifyKeyboard n).shared = { s.shared with notified := s.notified ++ [n.data] } := by
  simp [shared, notified, notifyKeyboard, send, TouchpadSent.notification, PS2Notification.data]

theorem shared_pointer (dx dy : Int) (b : UInt8) (s : Touchpad) :
    (s.dispatchRelativePointerPosition dx dy b).shared = s.shared := shared_send rfl s

theorem Detected.shared {s t : Touchpad} (h : Detected w s t) : t.shared = s.shared := by
  obtain ⟨log, hlog, hreq⟩ := h.sent
  have hkb : t.kbEvent = s.kbEvent := by
    show t.rest.kbEvent = s.rest.kbEvent
    rw [h.rest]
    rfl
  have hnone : log.filterMap TouchpadSent.notification = [] := by
    rw [List.filterMap_eq_nil_iff]
    intro m hm
    have hm' := hreq m hm
    cases m <;> simp [TouchpadSent.isRequest, TouchpadSent.notification] at hm' ⊢
  simp [Touchpad.shared, notified, hlog, hkb, hnone]

theorem shared_Reconnect_touchpad (s : Touchpad) : (s.Reconnect_touchpad w).2.shared = s.shared := by
  obtain h | h := detected_Reconnect_touchpad (w := w) s
  · exact h.shared
  · exact h.shared

theorem shared_showToggled (on : Bool) (s : Touchpad) : (s.showToggled on).shared = s.shared :=
  shared_pointer _ _ _ s

theorem shared_clearToggleKey (s : Touchpad) : s.clearToggleKey.shared = s.shared := by
  unfold clearToggleKey
  split <;> rfl

theorem shared_releaseDrag (s : Touchpad) : s.releaseDrag.shared = s.shared := by
  unfold releaseDrag
  split
  · exact shared_pointer 0 0 0 s
  · rfl

theorem shared_releaseAppSwitch (s : Touchpad) : s.releaseAppSwitch.shared =
    s.shared.receive .kPS2C_ESC s.swipe.isAppSwitchDone s.osxVersion := by
  unfold releaseAppSwitch Shared.receive
  split
  · exact shared_notifyKeyboard _ s
  · rfl

theorem shared_escape (now : UInt64) (s : Touchpad) : (s.escape now).shared =
    s.shared.receive .kPS2C_ESC s.swipe.isAppSwitchDone s.osxVersion := by
  have hkey : ∀ s : Touchpad, s.clearToggleKey.swipe = s.swipe ∧ s.clearToggleKey.osxVersion = s.osxVersion := by
    intro s
    unfold clearToggleKey
    split <;> exact ⟨rfl, rfl⟩
  have hdrag : ∀ s : Touchpad, s.releaseDrag.swipe = s.swipe ∧ s.releaseDrag.osxVersion = s.osxVersion := by
    intro s
    unfold releaseDrag
    split <;> exact ⟨rfl, rfl⟩
  unfold escape
  dsimp only
  refine (shared_releaseAppSwitch _).trans ?_
  rw [shared_releaseDrag, shared_clearToggleKey, (hdrag _).1, (hdrag _).2, (hkey _).1, (hkey _).2]
  rfl

theorem shared_backLightOff (s : Touchpad) : s.backLightOff.shared = s.shared := by
  unfold backLightOff
  split
  · rfl
  · rw [shared_send rfl, shared_send rfl]

theorem shared_backLightOn (now : UInt64) (s : Touchpad) : (s.backLightOn now).shared = s.shared := by
  unfold backLightOn
  dsimp only
  split
  · rw [shared_send rfl, shared_send rfl]
    rfl
  · rfl

theorem shared_restoreTouchpad (s : Touchpad) : (s.restoreTouchpad w).shared =
    s.shared.receive .kPS2C_RestoreTouchpad s.swipe.isAppSwitchDone s.osxVersion := by
  have hreconnect := shared_Reconnect_touchpad (w := w) s
  unfold restoreTouchpad
  rw [shared_notifyKeyboard]
  generalize (s.Reconnect_touchpad w).2 = t at hreconnect ⊢
  show Shared.mk false t.shared.showPressWidth (t.shared.notified ++ _) = _
  rw [hreconnect]
  rfl

theorem shared_receive (n : PS2Notification) (s : Touchpad) : (s.receiveKeyboardNotifications w n).shared =
    s.shared.receive n s.swipe.isAppSwitchDone s.osxVersion := by
  cases n with
  | kPS2C_ESC => exact shared_escape _ s
  | kPS2C_DoContextMenu => exact (shared_pointer 0 0 0 _).trans (shared_pointer 0 0 0x2 s)
  | kPS2C_ScrollLock_Auto => exact shared_showToggled _ _
  | kPS2C_ScrollLock_Inertia => exact shared_showToggled _ _
  | kPS2C_ScrollLock_Continuous => exact shared_showToggled _ _
  | kPS2C_EdgeScroll => exact shared_showToggled _ _
  | kPS2C_Gestures_1FSwipes => exact shared_showToggled _ _
  | kPS2C_Gestures_3FSwipes => exact shared_showToggled _ _
  | kPS2C_Gestures_4FSwipes => exact shared_showToggled _ _
  | kPS2C_Gestures_Rotate => exact shared_showToggled _ _
  | kPS2C_Gestures_Zoom => exact shared_showToggled _ _
  | kPS2C_Gestures_DoubleTaps => exact shared_showToggled _ _
  | kPS2C_RestoreTouchpad => exact shared_restoreTouchpad s
  | kPS2C_KeybrdBackLightOff => exact shared_backLightOff s
  | kPS2C_KeybrdBackLightOn => exact shared_backLightOn _ s
  | kPS2C_OSXVersionNotify =>
    have hversion : (s.receiveKeyboardNotifications w .kPS2C_OSXVersionNotify).notified =
        s.notified ++ [PS2Notification.kPS2C_OSXVersionNotify.data, s.osxVersion.toUInt32] := by
      simp [receiveKeyboardNotifications, notified, notifyKeyboard, send, TouchpadSent.notification,
        PS2Notification.data]
    exact congrArg (Shared.mk _ _) hversion
  | _ => rfl

theorem shared_power (whatToDo : PowerControl) (s : Touchpad) : (s.setDevicePowerState w whatToDo).shared =
    match whatToDo with
    | .kPS2C_DisableDevice => s.shared
    | .kPS2C_EnableDevice => { s.shared with disableTouchpad := false, showPressWidth := false } := by
  cases whatToDo with
  | kPS2C_DisableDevice => exact (talked_disable s).detected.shared (w := w)
  | kPS2C_EnableDevice => exact shared_Reconnect_touchpad _

end Touchpad

end ApplePS2
