import ApplePS2.Touchpad.Interrupt

/- The end of a touch (`Process_touch_end`) and the timers of the touchpad driver
   (`Release_ButtonsAndDrag`, `ProcessFeaturesToggle`, `EnhancePointerAcceleration`,
   `EnhanceScrollAcceleration`, `ControlfKeybrdBackLight`). The inertia of a scroll is a
   parameter; it is computed from samples, and moves no button.

   `lastMask_touchEnd` and the lemmas after it say which mask of the buttons each of
   them leaves behind. -/
namespace ApplePS2

/-- The actions of a swipe by its direction. -/
structure SwipeActions where
  left : UInt8
  right : UInt8
  down : UInt8
  up : UInt8
  deriving Inhabited

def SwipeActions.inDirection (a : SwipeActions) (direction : UInt8) : Int8 :=
  if direction = 1 then a.left.toInt8
  else if direction = 2 then a.right.toInt8
  else if direction = 3 then a.down.toInt8
  else if direction = 4 then a.up.toInt8
  else 0

/-- What the end of a touch and the timers read and assign besides. -/
structure TapVars where
  isClickingEnabled : Bool
  isTapSwapEnabled : Bool
  isDragLockEnabled : Bool
  fingers1 : Int8
  fingers2 : Int8
  fingers3 : Int8
  fingers4 : Int8
  fingers5 : Int8
  timeout : UInt64
  lastTime : UInt64
  fingersCount : Int8
  checkTapDrag : Bool
  isQuickTap : Bool
  /-- `_buttonDragTimer` is running. -/
  releaseTimer : Bool
  isCornerTapEnabled : Bool
  corner : UInt8
  isZoomOut : Bool
  isZoomIn : Bool
  tapZoomDone : Bool
  isNCDone : Bool
  swipe3F : SwipeActions
  swipe4F : SwipeActions
  hasEdgeCScroll : Bool
  accelMode2F : UInt8
  accelModeEdge : UInt8
  pAccelCustom : UInt8
  pSmoothLevel : UInt8
  pDx : Int
  pDy : Int
  deriving Inhabited

structure TapDriver where
  taps : TapVars
  touchpad : Touchpad

/-- The scroll after its end, and whether a timer runs for it. -/
abbrev Inertia := TapDriver → Scroll × Bool

def MAX_MUL_DTAP_TIME : UInt64 := 500000000

namespace TapDriver

variable (w : TouchpadWorld) (inertia : Inertia)

def pad (f : Touchpad → Touchpad) (d : TapDriver) : TapDriver := { d with touchpad := f d.touchpad }

def point (dx dy : Int) (buttonState : UInt8) : TapDriver → TapDriver :=
  pad (Touchpad.dispatchRelativePointerPosition dx dy buttonState)

def place (buttonState : UInt8) : TapDriver → TapDriver := pad (Touchpad.send (.dispatchAbsolutePointerEvent buttonState))

def notify (n : PS2Notification) : TapDriver → TapDriver := pad (Touchpad.notifyKeyboard n)

def setButton (data state : UInt8) (d : TapDriver) : TapDriver :=
  { d with touchpad.button.data := data, touchpad.button.state := state }

def isToggleKeyOnHold (d : TapDriver) : Bool := d.touchpad.kbEvent.isToggleKeyOnHold

/-! Actions. -/

def ResetPointerToMiddle (d : TapDriver) : TapDriver :=
  d |> place d.touchpad.button.state |> place d.touchpad.button.state

/-- In full screen mode the notification center is released by a timer. -/
def Open_NC (d : TapDriver) : TapDriver :=
  let d := { d.place 0 with taps.isNCDone := true }
  if d.touchpad.swipe.isInFullScreen then d else d |> place 1 |> place 0 |> ResetPointerToMiddle

/-- The action of a gesture; there is none below 0. -/
def gestureAction (action : Int8) (d : TapDriver) : TapDriver :=
  if action < 0 then d
  else if action = 1 then { d.notify .kPS2C_Gesture_AppSwitch with touchpad.swipe.isAppSwitchDone := true }
  else if action = 17 then d.Open_NC
  else d.pad (Touchpad.send (.dispatchPS2Notification (UInt32.ofNat action.toInt.toNat)))

/-! Taps of one finger. -/

/-- A drag that a tap releases. -/
def isTapOrHoldDrag (d : TapDriver) : Bool := d.touchpad.drag.isTapDrag || d.touchpad.drag.isHoldDrag

/-- "Set _tap.lastTime to detect taap drag and double/triple taps" -/
def checkDrag (d : TapDriver) : TapDriver :=
  if !d.taps.checkTapDrag && !d.touchpad.drag.isDragging then
    { d with taps.lastTime := w.uptime 1, taps.checkTapDrag := true }
  else d

/-- "Release last tap click (if its done) for double/triple click" -/
def releaseQuickTap (d : TapDriver) : TapDriver := if d.taps.isQuickTap then (d.point 0 0 0).setButton 0 0 else d

/-- "Dispatch tap for double click (or) drag release", or for a single click. -/
def dispatchTap (d : TapDriver) : TapDriver :=
  if d.isTapOrHoldDrag then
    { d |> point 0 0 1 |> point 0 0 0 |> setButton 0 0 with taps.lastTime := 0, taps.checkTapDrag := false }
  else
    let state := d.touchpad.button.state ||| 1
    d |> setButton 1 state |> point 0 0 state

def clearDrags (d : TapDriver) : TapDriver :=
  { d with touchpad.drag := Touchpad.clearDrag d.touchpad.drag, touchpad.fingPress.holdTime := 0 }

/-- "Soft controlled single/double Tap to click simulation and drag release." -/
def tapClick (d : TapDriver) : TapDriver := d |> checkDrag w |> releaseQuickTap |> dispatchTap |> clearDrags

def endTap1F (d : TapDriver) : TapDriver :=
  let s := d.touchpad
  if !d.taps.isClickingEnabled || !(s.gestureTime > 0) then d
  -- "Customized 1F Tap ? 35 is Left click"
  else if !d.isToggleKeyOnHold && d.taps.fingers1 ≠ 35 then d.gestureAction d.taps.fingers1
  else if s.kbEvent.tapEnableTPad && s.kbEvent.accidentalInput then
    { d with touchpad.kbEvent.accidentalInput := false, touchpad.kbEvent.kbKeysCount := 0 }
  else
    let d := d.pad Touchpad.releaseAppSwitch
    let d := if s.button.data = 0 || d.isTapOrHoldDrag then d.tapClick w else d
    { d with taps.isQuickTap := true, touchpad.tap.count := 0 }

/-! Other touches. -/

def cornerMove (corner : UInt8) : Int × Int :=
  if corner = 1 then (50, 50)
  else if corner = 2 then (50, -50)
  else if corner = 3 then (-50, -50)
  else if corner = 4 then (-50, 50)
  else (0, 0)

def endCornerTap (d : TapDriver) : TapDriver :=
  if d.touchpad.gestureTime ≤ d.taps.timeout && d.taps.isCornerTapEnabled then
    d |> point (cornerMove d.taps.corner).1 (cornerMove d.taps.corner).2 0 |> place 0
  else d

def endZoom (d : TapDriver) : TapDriver :=
  if d.taps.isZoomOut then d.notify .kPS2C_ZoomPlus
  else if d.taps.isZoomIn then d.notify .kPS2C_ZoomMinus
  else d

def isAction (n : PS2Notification) (action : Int8) : Bool := action.toInt = n.ctorIdx

/-- The button of a tap of two fingers. -/
def tapButton2F (t : TapVars) : UInt8 :=
  if t.isTapSwapEnabled && isAction .kPS2C_Gesture_MiddleClick t.fingers2 ||
      isAction .kPS2C_Gesture_ContextMenu t.fingers2 then 0x2
  else if !t.isTapSwapEnabled && isAction .kPS2C_Gesture_MiddleClick t.fingers2 then 0x4
  else if isAction .kPS2C_Gesture_LeftClick t.fingers2 then 0x1
  else 0

/-- The button of a tap of three fingers. -/
def tapButton3F (t : TapVars) : UInt8 :=
  if !t.isTapSwapEnabled && isAction .kPS2C_Gesture_ContextMenu t.fingers3 then 0x2
  else if isAction .kPS2C_Gesture_MiddleClick t.fingers3 ||
      t.isTapSwapEnabled && isAction .kPS2C_Gesture_ContextMenu t.fingers3 then 0x4
  else if isAction .kPS2C_Gesture_LeftClick t.fingers3 then 0x1
  else 0

/-- Only the right and the middle button are clicked, any other tap is an action. -/
def dispatchMulTap (data : UInt8) (action : Int8) (d : TapDriver) : TapDriver :=
  let d := if data = 2 || data = 4 then d |> point 0 0 data |> point 0 0 0 else d.gestureAction action
  { d.setButton 0 0 with touchpad.tap.count := 0, taps.fingersCount := 0 }

/-- The number of taps is noted for the timer, or taken back. -/
def countTap (fingersCount : Int8) (d : TapDriver) : TapDriver :=
  { d with
    touchpad.tap.count := if d.touchpad.tap.hasMulFDoubleTaps || d.isToggleKeyOnHold then d.touchpad.tap.count + 1
      else d.touchpad.tap.count
    taps.fingersCount := fingersCount }

def uncountTap (doubleTapTime : UInt64) (d : TapDriver) : TapDriver :=
  if d.isToggleKeyOnHold && d.touchpad.tap.count > 1 && doubleTapTime > MAX_MUL_DTAP_TIME then
    { d with touchpad.tap.count := d.touchpad.tap.count - 1 }
  else d

def endTap2F3F (fingersCount : Int8) (d : TapDriver) : TapDriver :=
  if !d.taps.isClickingEnabled then d
  else
    let doubleTapTime := w.uptime 1 - d.taps.lastTime
    let d := d.countTap fingersCount
    let d :=
      if !d.isToggleKeyOnHold && !d.touchpad.tap.hasMulFDoubleTaps then
        if fingersCount = 2 then d.dispatchMulTap (tapButton2F d.taps) d.taps.fingers2
        else d.dispatchMulTap (tapButton3F d.taps) d.taps.fingers3
      else d.uncountTap doubleTapTime
    { d with taps.lastTime := w.uptime 2 }

def endTap4F5F (fingersCount : Int8) (d : TapDriver) : TapDriver :=
  if !d.taps.isClickingEnabled then d
  else
    let doubleTapTime := w.uptime 1 - d.taps.lastTime
    let d := d.countTap fingersCount
    let d :=
      if !d.isToggleKeyOnHold then
        { d.gestureAction (if fingersCount = 4 then d.taps.fingers4 else d.taps.fingers5) with
          touchpad.tap.count := 0, taps.fingersCount := 0 }
      else d.uncountTap doubleTapTime
    { d with taps.lastTime := w.uptime 2 }

def endSwipe (a : SwipeActions) (d : TapDriver) : TapDriver :=
  let action := a.inDirection d.touchpad.swipe.direction
  let d := if action > 0 then d.gestureAction action else d
  { d with touchpad.swipe.direction := 0 }

def endScroll (d : TapDriver) : TapDriver :=
  { d with touchpad.scroll := (inertia d).1, touchpad.doTimerJob := (inertia d).2 }

def endMode (d : TapDriver) : TapDriver :=
  match d.touchpad.touchmode with
  | .MODE_1_FING_TAP => d.endTap1F w
  | .MODE_CORNER_TAP => d.endCornerTap
  | .MODE_ZOOM => d.endZoom
  | .MODE_2_FING_TAP => d.endTap2F3F w 2
  | .MODE_3_FING_TAP => d.endTap2F3F w 3
  | .MODE_4_FING_TAP => d.endTap4F5F w 4
  | .MODE_5_FING_TAP => d.endTap4F5F w 5
  | .MODE_MUL_TOUCH_3 => d.endSwipe d.taps.swipe3F
  | .MODE_MUL_TOUCH_4 => d.endSwipe d.taps.swipe4F
  | .MODE_CONT_SCROLL | .MODE_VSCROLL | .MODE_HSCROLL | .MODE_EDGE_HSCROLL | .MODE_EDGE_VSCROLL => d.endScroll inertia
  | _ => d

/-- The release timer for a tap click, a drag or the App switch key. -/
def startReleaseTimer (d : TapDriver) : TapDriver :=
  let drag := d.isTapOrHoldDrag && !d.taps.isDragLockEnabled && d.touchpad.drag.isDragging
  if d.taps.checkTapDrag || drag || d.touchpad.swipe.isAppSwitchDone then
    { d with taps.releaseTimer := true, touchpad.doTimerJob := true }
  else d

def clearTaps (d : TapDriver) : TapDriver := { d with taps.isZoomIn := false, taps.isZoomOut := false, taps.pDx := 0, taps.pDy := 0 }

/-- "Trigger keyboard backlight off event" -/
def triggerBackLightOff : TapDriver → TapDriver :=
  pad fun s => s.when (s.kbLight.hasAsusKBackLight && s.kbLight.hasKBLightAutoOff) Touchpad.backLightOff

def Process_touch_end (d : TapDriver) : TapDriver :=
  d |> endMode w inertia |> startReleaseTimer |> clearTaps |> pad Touchpad.clearTouch |> triggerBackLightOff

/-! The timers. -/

/-- "Single Tap click or Drag after a timeout" -/
def isReleaseDue (d : TapDriver) : Bool :=
  let drag := d.touchpad.drag
  drag.isDragging && !d.taps.isDragLockEnabled && d.isTapOrHoldDrag || !drag.isDragging && d.taps.checkTapDrag

def releaseSwitch (d : TapDriver) : TapDriver :=
  if d.touchpad.swipe.isAppSwitchDone then
    { d.notify .kPS2C_ReleaseCmdKey with touchpad.swipe.isAppSwitchDone := false, touchpad.doTimerJob := false }
  else d

def releaseClick (d : TapDriver) : TapDriver :=
  if d.isReleaseDue then ({ d.clearDrags with taps.checkTapDrag := false }.setButton 0 0).point 0 0 0 else d

def Release_ButtonsAndDrag (d : TapDriver) : TapDriver :=
  { d |> releaseSwitch |> releaseClick with
    taps.isQuickTap := false, taps.releaseTimer := false, touchpad.doTimerJob := false }

/-- "Release soft NC" -/
def releaseNC (d : TapDriver) : TapDriver :=
  if d.taps.isNCDone then
    { d |> point 0 0 1 |> point 0 0 0 |> setButton 0 0 |> ResetPointerToMiddle with taps.isNCDone := false }
  else d

def clearTapCount (d : TapDriver) : TapDriver := { d with touchpad.tap.count := 0, taps.fingersCount := 0 }

/-- "Middle Button/Right Button simulation when multi double taps enabled" -/
def singleTap (d : TapDriver) : TapDriver :=
  let data := if d.taps.isTapSwapEnabled = decide (d.taps.fingersCount = 2) then 0x2 else 0x4
  d |> point 0 0 data |> point 0 0 0 |> clearTapCount |> setButton 0 0

def showToggled (on : Bool) : TapDriver → TapDriver := pad (Touchpad.showToggled on)

/-- A mode after the highest one is 0 again. -/
def nextMode (highest mode : UInt8) : UInt8 := if mode + 1 > highest then 0 else mode + 1

def zoomTaps (d : TapDriver) : TapDriver :=
  let n := if d.taps.tapZoomDone then PS2Notification.kPS2C_ZoomMinus else .kPS2C_ZoomPlus
  { d with taps.tapZoomDone := !d.taps.tapZoomDone } |> notify n |> notify n |> showToggled (!d.taps.tapZoomDone)

def toggleEdgeScroll (d : TapDriver) : TapDriver :=
  { d with touchpad.scroll.hasEdgeScroll := !d.touchpad.scroll.hasEdgeScroll }.showToggled
    (!d.touchpad.scroll.hasEdgeScroll)

def toggleAccelModes (d : TapDriver) : TapDriver :=
  { d with
    taps.accelMode2F := nextMode 4 d.taps.accelMode2F, taps.accelModeEdge := nextMode 4 d.taps.accelModeEdge }
    |> showToggled (!(d.taps.accelMode2F + 1 > 4)) |> showToggled (!(d.taps.accelModeEdge + 1 > 4))

def toggleVButtons (d : TapDriver) : TapDriver :=
  { d with touchpad.button.clickPadHasVButtons := !d.touchpad.button.clickPadHasVButtons }.showToggled
    (!d.touchpad.button.clickPadHasVButtons)

def toggleEdgeCScroll (d : TapDriver) : TapDriver :=
  { d with taps.hasEdgeCScroll := !d.taps.hasEdgeCScroll }.showToggled (!d.taps.hasEdgeCScroll)

def togglePointerAccel (d : TapDriver) : TapDriver :=
  { d with taps.pAccelCustom := nextMode 20 d.taps.pAccelCustom }.showToggled (!(d.taps.pAccelCustom + 1 > 20))

def doubleTap (d : TapDriver) : TapDriver :=
  if d.taps.fingersCount = 2 then if d.isToggleKeyOnHold then d.toggleEdgeScroll else d.zoomTaps
  else if d.taps.fingersCount = 3 then
    if d.isToggleKeyOnHold then d.toggleAccelModes else d.notify .kPS2C_Gesture_AppWindows
  else if d.taps.fingersCount = 4 && d.isToggleKeyOnHold then d.toggleVButtons
  else d

def tripleTap (d : TapDriver) : TapDriver :=
  if d.taps.fingersCount = 2 && d.isToggleKeyOnHold then d.toggleEdgeCScroll
  else if d.taps.fingersCount = 3 && d.isToggleKeyOnHold then d.togglePointerAccel
  else d

def ProcessFeaturesToggle (d : TapDriver) : TapDriver :=
  let d := d.releaseNC
  let count := d.touchpad.tap.count
  if count = 1 then d.singleTap
  else if count = 2 then d.doubleTap.clearTapCount
  else if count = 3 then d.tripleTap.clearTapCount
  else d

/-- A palm, or accidental input. -/
def isStopped (d : TapDriver) : Bool := d.touchpad.palm.detected || d.touchpad.kbEvent.accidentalInput

/-- The number of steps in which the last difference is dispatched. -/
def smoothFactor (t : TapVars) : Int :=
  let pointerDelay : Int := if t.pAccelCustom > 0 then t.pAccelCustom.toNat else 15
  let level : Int := t.pSmoothLevel.toNat
  let dx : Int := t.pDx.natAbs
  let dy : Int := t.pDy.natAbs
  let level :=
    if dx ≠ 0 && level > dx || dy ≠ 0 && level > dy then
      if dx > dy && dy ≠ 0 then dy else if dx ≠ 0 then dx else level
    else level
  if level > pointerDelay then pointerDelay else level

/-- One step of a difference, which is not 0. The source divides by a level of 0, too. -/
def smoothStep (factor delta : Int) : Int :=
  let divider : Int := if delta.tmod 2 = 0 then 0 else 1
  if delta < 0 then
    let axis := (delta - divider).tdiv factor
    if axis = 0 then -1 else axis
  else if delta > 0 then
    let axis := (delta + divider).tdiv factor
    if axis = 0 then 1 else axis
  else 0

def EnhancePointerAcceleration (d : TapDriver) : TapDriver :=
  let idle := w.uptime 0 - d.touchpad.lastDataTime
  if d.isStopped || !d.touchpad.pContinuousMove then d
  else if idle > d.taps.pAccelCustom.toUInt64 * 1000000 then
    if idle > 3000000000 then (d.Process_touch_end w inertia).pad fun s => (s.Reconnect_touchpad w).2 else d
  else
    let factor := smoothFactor d.taps
    d.point (smoothStep factor d.taps.pDx) (smoothStep factor d.taps.pDy) d.touchpad.button.state

def clearJob (d : TapDriver) : TapDriver := { d with touchpad.doTimerJob := false }

/-- "So reset and reconnect the touchpad to make it normal." -/
def stopScroll (d : TapDriver) : TapDriver :=
  (d.pad fun s => (s.Reconnect_touchpad w).2) |> Process_touch_end w inertia |> pad Touchpad.StopScrollEnhanceTimer

def EnhanceScrollAcceleration (d : TapDriver) : TapDriver :=
  let scroll := d.touchpad.scroll
  if d.isStopped then d
  else if scroll.inertiaDeltaX = 0 && scroll.inertiaDeltaY = 0 then
    if scroll.doCont && w.uptime 0 - d.touchpad.lastDataTime > 1000000000 then d.clearJob.stopScroll w inertia
    else d.clearJob
  else d

def ControlfKeybrdBackLight (d : TapDriver) : TapDriver :=
  let light := d.touchpad.kbLight
  let n := if light.isKBLightOff || light.lastTriggerTime = 0 then PS2Notification.kPS2C_KeybrdBackLightOn
    else .kPS2C_KeybrdBackLightOff
  { d.notify n with touchpad.kbLight.lastTriggerTime := w.uptime 0 }

end TapDriver

inductive Timer where
  | pointer | scroll | buttonDrag | feature | kBackLight
  deriving DecidableEq, Repr

namespace TapDriver

/-- A timer has run down. -/
def expire (w : TouchpadWorld) (inertia : Inertia) (t : Timer) (d : TapDriver) : TapDriver :=
  match t with
  | .pointer => d.EnhancePointerAcceleration w inertia
  | .scroll => d.EnhanceScrollAcceleration w inertia
  | .buttonDrag => d.Release_ButtonsAndDrag
  | .feature => d.ProcessFeaturesToggle
  | .kBackLight => d.ControlfKeybrdBackLight w

end TapDriver

/-! The masks they leave behind. -/

theorem TouchpadSent.request_buttonState {m : TouchpadSent} (h : m.isRequest = true) : m.buttonState = none := by
  cases m with
  | submitRequestAndBlock commands => rfl
  | setCommandByte setBits clearBits => rfl
  | _ => cases h

namespace Touchpad

theorem lastMask_send (m : TouchpadSent) (s : Touchpad) : (s.send m).lastMask = m.buttonState.getD s.lastMask := by
  cases hm : m.buttonState <;> simp [lastMask, send, hm]

/-- What is sent besides pointer events does not change the mask. -/
theorem lastMask_sent {P : TouchpadSent → Prop} {s t : Touchpad} (hP : ∀ m, P m → m.buttonState = none)
    (h : Sent P s t) : t.lastMask = s.lastMask := by
  obtain ⟨log, hlog, hsent⟩ := h
  have hnone : log.filterMap TouchpadSent.buttonState = [] := by
    rw [List.filterMap_eq_nil_iff]
    intro m hm
    exact hP m (hsent m hm)
  unfold lastMask
  rw [hlog, List.filterMap_append, hnone, List.append_nil]

theorem lastMask_Reconnect_touchpad {w : TouchpadWorld} (s : Touchpad) :
    (s.Reconnect_touchpad w).2.lastMask = s.lastMask := by
  have hsent : Sent (fun m => m.isRequest = true) s (s.Reconnect_touchpad w).2 := by
    obtain h | h := detected_Reconnect_touchpad (w := w) s
    · exact h.sent
    · exact h.sent
  exact lastMask_sent (fun m hm => TouchpadSent.request_buttonState hm) hsent

theorem lastMask_backLightOff (s : Touchpad) : s.backLightOff.lastMask = s.lastMask := by
  unfold backLightOff
  split
  · rfl
  · exact (lastMask_send _ _).trans (lastMask_send _ s)

theorem lastMask_backLightOn (now : UInt64) (s : Touchpad) : (s.backLightOn now).lastMask = s.lastMask := by
  unfold backLightOn
  dsimp only
  split
  · exact (lastMask_send _ _).trans (lastMask_send _ { s with kbLight.lastTriggerTime := 0 })
  · rfl

end Touchpad

namespace TapDriver

variable {w : TouchpadWorld} {inertia : Inertia}

def lastMask (d : TapDriver) : UInt8 := d.touchpad.lastMask

theorem lastMask_send (m : TouchpadSent) (d : TapDriver) :
    (d.pad (Touchpad.send m)).lastMask = m.buttonState.getD d.lastMask := Touchpad.lastMask_send m d.touchpad

theorem lastMask_point (dx dy : Int) (b : UInt8) (d : TapDriver) : (d.point dx dy b).lastMask = b :=
  Touchpad.lastMask_pointer dx dy b d.touchpad

theorem lastMask_place (b : UInt8) (d : TapDriver) : (d.place b).lastMask = b :=
  lastMask_send (.dispatchAbsolutePointerEvent b) d

theorem lastMask_notify (n : PS2Notification) (d : TapDriver) : (d.notify n).lastMask = d.lastMask :=
  lastMask_send (.dispatchPS2Notification (UInt32.ofNat n.ctorIdx)) d

theorem lastMask_Open_NC (d : TapDriver) :
    d.Open_NC.lastMask = if d.touchpad.swipe.isInFullScreen then 0 else d.touchpad.button.state := by
  have hfull : ({ d.place 0 with taps.isNCDone := true } : TapDriver).touchpad.swipe.isInFullScreen =
      d.touchpad.swipe.isInFullScreen := rfl
  unfold Open_NC
  dsimp only
  rw [hfull]
  split
  · exact lastMask_place 0 d
  · exact lastMask_place _ _

/-- The action is to open the notification center, which is not in full screen mode. -/
def opensNC (action : Int8) (d : TapDriver) : Bool := action = 17 && !d.touchpad.swipe.isInFullScreen

theorem lastMask_gestureAction {d : TapDriver} (h : d.lastMask = 0) (action : Int8) :
    (d.gestureAction action).lastMask = if d.opensNC action then d.touchpad.button.state else 0 := by
  unfold gestureAction
  split
  · next hnegative =>
    have hother : ¬ action = 17 := by
      rintro rfl
      exact absurd hnegative (by decide)
    simp [opensNC, hother, h]
  split
  · next hone =>
    have hmask : ({ d.notify .kPS2C_Gesture_AppSwitch with touchpad.swipe.isAppSwitchDone := true } :
        TapDriver).lastMask = d.lastMask := lastMask_notify .kPS2C_Gesture_AppSwitch d
    rw [hmask, h, hone]
    rfl
  split
  · next hnc =>
    rw [lastMask_Open_NC]
    cases hfull : d.touchpad.swipe.isInFullScreen <;> simp [opensNC, hnc, hfull]
  · next hother =>
    rw [lastMask_send]
    simp [opensNC, hother, TouchpadSent.buttonState, h]

/-- The tap presses the button. -/
def pressesTap (d : TapDriver) : Bool :=
  let s := d.touchpad
  d.taps.isClickingEnabled && s.gestureTime > 0 && (d.isToggleKeyOnHold || d.taps.fingers1 = 35) &&
    !(s.kbEvent.tapEnableTPad && s.kbEvent.accidentalInput) && s.button.data = 0 && !d.isTapOrHoldDrag

/-- The action of a tap of one finger. -/
def tapAction1F (d : TapDriver) : Option Int8 :=
  if d.taps.isClickingEnabled && d.touchpad.gestureTime > 0 && !d.isToggleKeyOnHold && d.taps.fingers1 ≠ 35 then
    some d.taps.fingers1
  else none

/-- The action of a tap of several fingers that has no button. -/
def tapAction2F3F (data : UInt8) (action : Int8) (d : TapDriver) : Option Int8 :=
  if d.taps.isClickingEnabled && !d.isToggleKeyOnHold && !d.touchpad.tap.hasMulFDoubleTaps && data ≠ 2 && data ≠ 4 then
    some action
  else none

def tapAction4F5F (action : Int8) (d : TapDriver) : Option Int8 :=
  if d.taps.isClickingEnabled && !d.isToggleKeyOnHold then some action else none

def swipeAction (a : SwipeActions) (d : TapDriver) : Option Int8 :=
  let action := a.inDirection d.touchpad.swipe.direction
  if action > 0 then some action else none

/-- The action at the end of a touch, if there is one. -/
def endAction (d : TapDriver) : Option Int8 :=
  match d.touchpad.touchmode with
  | .MODE_1_FING_TAP => d.tapAction1F
  | .MODE_2_FING_TAP => d.tapAction2F3F (tapButton2F d.taps) d.taps.fingers2
  | .MODE_3_FING_TAP => d.tapAction2F3F (tapButton3F d.taps) d.taps.fingers3
  | .MODE_4_FING_TAP => d.tapAction4F5F d.taps.fingers4
  | .MODE_5_FING_TAP => d.tapAction4F5F d.taps.fingers5
  | .MODE_MUL_TOUCH_3 => d.swipeAction d.taps.swipe3F
  | .MODE_MUL_TOUCH_4 => d.swipeAction d.taps.swipe4F
  | _ => none

/-- The mask that an action leaves behind. -/
def actionMask (d : TapDriver) : Option Int8 → UInt8
  | some action => if d.opensNC action then d.touchpad.button.state else 0
  | none => 0

/-- The end of the touch leaves a mask behind: a tap has pressed the button, or the pointer
is put back to the middle while a button is held. -/
def leavesMask (d : TapDriver) : Bool :=
  d.touchpad.touchmode = .MODE_1_FING_TAP && d.pressesTap || d.actionMask d.endAction ≠ 0

theorem lastMask_tapClick {d : TapDriver} : (d.tapClick w).lastMask = 0 ↔ d.isTapOrHoldDrag = true := by
  have hcheck : (d.checkDrag w).touchpad = d.touchpad := by
    unfold checkDrag
    split <;> rfl
  have hquick : (d.checkDrag w).releaseQuickTap.touchpad.drag = d.touchpad.drag := by
    rw [← hcheck]
    unfold releaseQuickTap
    split <;> rfl
  have hdrag : (d.checkDrag w).releaseQuickTap.isTapOrHoldDrag = d.isTapOrHoldDrag := by
    unfold isTapOrHoldDrag
    rw [hquick]
  have hpressed : ∀ b : UInt8, b ||| 1 ≠ 0 := by decide +kernel
  have hmask : (d.tapClick w).lastMask = ((d.checkDrag w).releaseQuickTap.dispatchTap).lastMask := rfl
  rw [hmask, ← hdrag]
  generalize (d.checkDrag w).releaseQuickTap = t
  unfold dispatchTap
  split
  · next hheld => exact iff_of_true (lastMask_point 0 0 0 (t.point 0 0 1)) hheld
  · next hfree =>
    refine iff_of_false ?_ hfree
    rw [lastMask_point]
    exact hpressed _

theorem lastMask_endTap1F {d : TapDriver} (h : d.lastMask = 0) :
    (d.endTap1F w).lastMask = 0 ↔ d.pressesTap = false ∧ d.actionMask d.tapAction1F = 0 := by
  have hswitch : (d.pad Touchpad.releaseAppSwitch).lastMask = 0 ∧
      (d.pad Touchpad.releaseAppSwitch).isTapOrHoldDrag = d.isTapOrHoldDrag := by
    refine ⟨(Touchpad.lastMask_releaseAppSwitch d.touchpad).2.trans h, ?_⟩
    unfold isTapOrHoldDrag pad Touchpad.releaseAppSwitch
    dsimp only
    split <;> rfl
  unfold endTap1F
  dsimp only
  -- the branches of the source: no taps, another action, an accidental touch, or a click
  split
  · next hoff =>
    have hnone : (d.taps.isClickingEnabled && decide (d.touchpad.gestureTime > 0)) = false := by
      rw [← Bool.not_and, Bool.not_eq_true'] at hoff
      exact hoff
    have hpress : d.pressesTap = false := by simp only [pressesTap, hnone, Bool.false_and]
    have haction : d.tapAction1F = none := by simp [tapAction1F, hnone]
    exact iff_of_true h ⟨hpress, by rw [haction]; rfl⟩
  next hon =>
  have hactive : (d.taps.isClickingEnabled && decide (d.touchpad.gestureTime > 0)) = true := by
    rw [← Bool.not_and, Bool.not_eq_true, Bool.not_eq_false'] at hon
    exact hon
  split
  · next hcustom =>
    obtain ⟨htoggle, hleft⟩ : d.isToggleKeyOnHold = false ∧ ¬ d.taps.fingers1 = 35 := by simpa using hcustom
    have hpress : d.pressesTap = false := by simp [pressesTap, htoggle, hleft]
    have haction : d.tapAction1F = some d.taps.fingers1 := by simp [tapAction1F, hactive, htoggle, hleft]
    rw [lastMask_gestureAction h, haction]
    exact ⟨fun hmask => ⟨hpress, hmask⟩, fun hmask => hmask.2⟩
  next hleft =>
  have hclick : (d.isToggleKeyOnHold || decide (d.taps.fingers1 = 35)) = true := by
    cases htoggle : d.isToggleKeyOnHold <;> simp_all
  have haction : d.tapAction1F = none := by
    cases htoggle : d.isToggleKeyOnHold <;> simp_all [tapAction1F]
  rw [haction]
  split
  · next henable =>
    have hpress : d.pressesTap = false := by simp only [pressesTap, henable, Bool.not_true, Bool.and_false, Bool.false_and]
    exact iff_of_true h ⟨hpress, rfl⟩
  · next henable =>
    have hpress : d.pressesTap = (decide (d.touchpad.button.data = 0) && !d.isTapOrHoldDrag) := by
      simp only [Bool.not_eq_true] at henable
      simp only [pressesTap, hactive, hclick, henable, Bool.not_false, Bool.and_true, Bool.true_and]
    rw [hpress]
    split
    · next htap =>
      have hmask : ({ (d.pad Touchpad.releaseAppSwitch).tapClick w with
          taps.isQuickTap := true, touchpad.tap.count := 0 } : TapDriver).lastMask =
            ((d.pad Touchpad.releaseAppSwitch).tapClick w).lastMask := rfl
      rw [hmask, lastMask_tapClick, hswitch.2]
      rw [hswitch.2] at htap
      cases hdrag : d.isTapOrHoldDrag <;> simp_all [actionMask]
    · next htap =>
      rw [hswitch.2] at htap
      refine iff_of_true hswitch.1 ⟨?_, rfl⟩
      cases hdrag : d.isTapOrHoldDrag <;> simp_all

theorem lastMask_dispatchMulTap {d : TapDriver} (h : d.lastMask = 0) (data : UInt8) (action : Int8) :
    (d.dispatchMulTap data action).lastMask =
      if data = 2 || data = 4 then 0 else if d.opensNC action then d.touchpad.button.state else 0 := by
  have hclear : ∀ t : TapDriver,
      ({ t.setButton 0 0 with touchpad.tap.count := 0, taps.fingersCount := 0 } : TapDriver).lastMask = t.lastMask :=
    fun _ => rfl
  unfold dispatchMulTap
  dsimp only
  rw [hclear]
  split
  · exact lastMask_point 0 0 0 _
  · exact lastMask_gestureAction h action

theorem lastMask_uncountTap (time : UInt64) (d : TapDriver) : (d.uncountTap time).lastMask = d.lastMask := by
  unfold uncountTap
  split <;> rfl

/-- A tap of two or three fingers. -/
theorem lastMask_endTap2F3F {d : TapDriver} (h : d.lastMask = 0) (fingersCount : Int8) :
    (d.endTap2F3F w fingersCount).lastMask = d.actionMask
      (if fingersCount = 2 then d.tapAction2F3F (tapButton2F d.taps) d.taps.fingers2
        else d.tapAction2F3F (tapButton3F d.taps) d.taps.fingers3) := by
  have hcount : (d.countTap fingersCount).lastMask = 0 := h
  have htap : ∀ (data : UInt8) (action : Int8), d.taps.isClickingEnabled = true →
      (!d.isToggleKeyOnHold && !d.touchpad.tap.hasMulFDoubleTaps) = true →
      ((d.countTap fingersCount).dispatchMulTap data action).lastMask = d.actionMask (d.tapAction2F3F data action) := by
    intro data action hclick hplain
    rw [lastMask_dispatchMulTap hcount]
    show (if data = 2 || data = 4 then 0 else if d.opensNC action then d.touchpad.button.state else 0) = _
    obtain ⟨htoggle, hdouble⟩ : d.isToggleKeyOnHold = false ∧ d.touchpad.tap.hasMulFDoubleTaps = false := by
      simpa using hplain
    by_cases htwo : data = 2
    · simp [htwo, tapAction2F3F, actionMask]
    by_cases hfour : data = 4
    · simp [hfour, tapAction2F3F, actionMask]
    · simp [htwo, hfour, tapAction2F3F, actionMask, hclick, htoggle, hdouble]
  have htime : ∀ t : TapDriver, ({ t with taps.lastTime := w.uptime 2 } : TapDriver).lastMask = t.lastMask := fun _ => rfl
  unfold endTap2F3F
  split
  · next hoff =>
    have hclick : d.taps.isClickingEnabled = false := by simpa using hoff
    simp [tapAction2F3F, hclick, actionMask, h]
  · next hon =>
    have hclick : d.taps.isClickingEnabled = true := by simpa using hon
    dsimp only
    rw [htime]
    split
    · next hplain =>
      split
      · exact htap (tapButton2F d.taps) d.taps.fingers2 hclick hplain
      · exact htap (tapButton3F d.taps) d.taps.fingers3 hclick hplain
    · next hplain =>
      have hnone : (!d.isToggleKeyOnHold && !d.touchpad.tap.hasMulFDoubleTaps) = false := Bool.eq_false_iff.2 hplain
      rw [lastMask_uncountTap, hcount]
      simp only [tapAction2F3F, hclick, Bool.true_and, hnone, Bool.false_and, Bool.false_eq_true, if_false]
      split <;> rfl

/-- A tap of four or five fingers. -/
theorem lastMask_endTap4F5F {d : TapDriver} (h : d.lastMask = 0) (fingersCount : Int8) :
    (d.endTap4F5F w fingersCount).lastMask =
      d.actionMask (d.tapAction4F5F (if fingersCount = 4 then d.taps.fingers4 else d.taps.fingers5)) := by
  have hcount : (d.countTap fingersCount).lastMask = 0 := h
  have htap : ∀ action : Int8, ({ (d.countTap fingersCount).gestureAction action with
      touchpad.tap.count := 0, taps.fingersCount := 0 } : TapDriver).lastMask = d.actionMask (some action) :=
    fun action => lastMask_gestureAction hcount action
  have htime : ∀ t : TapDriver, ({ t with taps.lastTime := w.uptime 2 } : TapDriver).lastMask = t.lastMask := fun _ => rfl
  unfold endTap4F5F
  split
  · next hoff =>
    have hclick : d.taps.isClickingEnabled = false := by simpa using hoff
    simp [tapAction4F5F, hclick, actionMask, h]
  · next hon =>
    have hclick : d.taps.isClickingEnabled = true := by simpa using hon
    dsimp only
    rw [htime]
    split
    · next htoggle =>
      have htoggle' : d.isToggleKeyOnHold = false := by
        rw [Bool.not_eq_true'] at htoggle
        exact htoggle
      simp only [tapAction4F5F, hclick, htoggle', Bool.true_and, Bool.not_false, if_true]
      exact htap _
    · next htoggle =>
      have htoggle' : d.isToggleKeyOnHold = true := by
        rw [Bool.not_eq_true', Bool.not_eq_false] at htoggle
        exact htoggle
      rw [lastMask_uncountTap, hcount]
      simp [tapAction4F5F, htoggle', actionMask]

theorem lastMask_endSwipe {d : TapDriver} (h : d.lastMask = 0) (a : SwipeActions) :
    (d.endSwipe a).lastMask = d.actionMask (d.swipeAction a) := by
  have hdirection : ∀ t : TapDriver, ({ t with touchpad.swipe.direction := 0 } : TapDriver).lastMask = t.lastMask :=
    fun _ => rfl
  unfold endSwipe swipeAction
  dsimp only
  rw [hdirection]
  split
  · exact lastMask_gestureAction h _
  · exact h

theorem lastMask_endMode {d : TapDriver} (h : d.lastMask = 0) :
    (d.endMode w inertia).lastMask = 0 ↔ d.leavesMask = false := by
  have hother : ∀ (t : TapDriver) (action : Option Int8), d.touchpad.touchmode ≠ .MODE_1_FING_TAP →
      d.endAction = action → t.lastMask = d.actionMask action → (t.lastMask = 0 ↔ d.leavesMask = false) := by
    intro t action hmode haction hmask
    simp [leavesMask, hmode, haction, hmask]
  have hcorner : d.endCornerTap.lastMask = 0 := by
    unfold endCornerTap
    split
    · exact lastMask_place 0 _
    · exact h
  have hzoom : d.endZoom.lastMask = 0 := by
    unfold endZoom
    repeat' split
    · rw [lastMask_notify, h]
    · rw [lastMask_notify, h]
    · exact h
  have hscroll : (d.endScroll inertia).lastMask = 0 := h
  have haction : ∀ m, d.touchpad.touchmode = m →
      d.endAction = { d with touchpad.touchmode := m }.endAction := by
    rintro m rfl
    rfl
  unfold endMode
  cases hmode : d.touchpad.touchmode with
  | MODE_1_FING_TAP =>
    dsimp only
    rw [lastMask_endTap1F h]
    simp [leavesMask, endAction, hmode]
  | MODE_2_FING_TAP => exact hother _ _ (by rw [hmode]; decide) (haction _ hmode) (lastMask_endTap2F3F h 2)
  | MODE_3_FING_TAP => exact hother _ _ (by rw [hmode]; decide) (haction _ hmode) (lastMask_endTap2F3F h 3)
  | MODE_4_FING_TAP => exact hother _ _ (by rw [hmode]; decide) (haction _ hmode) (lastMask_endTap4F5F h 4)
  | MODE_5_FING_TAP => exact hother _ _ (by rw [hmode]; decide) (haction _ hmode) (lastMask_endTap4F5F h 5)
  | MODE_MUL_TOUCH_3 => exact hother _ _ (by rw [hmode]; decide) (haction _ hmode) (lastMask_endSwipe h _)
  | MODE_MUL_TOUCH_4 => exact hother _ _ (by rw [hmode]; decide) (haction _ hmode) (lastMask_endSwipe h _)
  | MODE_CORNER_TAP => exact hother _ _ (by rw [hmode]; decide) (haction _ hmode) hcorner
  | MODE_ZOOM => exact hother _ _ (by rw [hmode]; decide) (haction _ hmode) hzoom
  | MODE_CONT_SCROLL => exact hother _ _ (by rw [hmode]; decide) (haction _ hmode) hscroll
  | MODE_VSCROLL => exact hother _ _ (by rw [hmode]; decide) (haction _ hmode) hscroll
  | MODE_HSCROLL => exact hother _ _ (by rw [hmode]; decide) (haction _ hmode) hscroll
  | MODE_EDGE_HSCROLL => exact hother _ _ (by rw [hmode]; decide) (haction _ hmode) hscroll
  | MODE_EDGE_VSCROLL => exact hother _ _ (by rw [hmode]; decide) (haction _ hmode) hscroll
  | _ => exact hother _ _ (by rw [hmode]; decide) (haction _ hmode) h

theorem lastMask_triggerBackLightOff (d : TapDriver) : d.triggerBackLightOff.lastMask = d.lastMask := by
  unfold triggerBackLightOff pad Touchpad.when
  dsimp only
  split
  · exact Touchpad.lastMask_backLightOff d.touchpad
  · rfl

theorem lastMask_touchEnd {d : TapDriver} (h : d.lastMask = 0) :
    (d.Process_touch_end w inertia).lastMask = 0 ↔ d.leavesMask = false := by
  have htimer : ∀ t : TapDriver, t.startReleaseTimer.lastMask = t.lastMask := by
    intro t
    unfold startReleaseTimer
    dsimp only
    split <;> rfl
  have hclear : ∀ t : TapDriver, (t.clearTaps.pad Touchpad.clearTouch).lastMask = t.lastMask := fun _ => rfl
  have hend : (d.Process_touch_end w inertia).lastMask = (d.endMode w inertia).lastMask :=
    (lastMask_triggerBackLightOff _).trans ((hclear _).trans (htimer _))
  rw [hend]
  exact lastMask_endMode h

/-! Of the timers. -/

theorem lastMask_Release {d : TapDriver} (h : d.lastMask = 0) : d.Release_ButtonsAndDrag.lastMask = 0 := by
  have hswitch : d.releaseSwitch.lastMask = 0 := by
    unfold releaseSwitch
    split
    · exact (lastMask_notify .kPS2C_ReleaseCmdKey d).trans h
    · exact h
  have hclick : d.releaseSwitch.releaseClick.lastMask = 0 := by
    unfold releaseClick
    split
    · exact lastMask_point 0 0 0 _
    · exact hswitch
  exact hclick

/-- Several taps toggle a feature, and the pointer is moved. -/
def toggles (d : TapDriver) : Bool :=
  d.touchpad.tap.count = 2 && (d.taps.fingersCount = 2 || (d.taps.fingersCount = 3 || d.taps.fingersCount = 4) && d.isToggleKeyOnHold) ||
    d.touchpad.tap.count = 3 && (d.taps.fingersCount = 2 || d.taps.fingersCount = 3) && d.isToggleKeyOnHold

theorem lastMask_showToggled (on : Bool) (d : TapDriver) : (d.showToggled on).lastMask = d.touchpad.button.state :=
  Touchpad.lastMask_pointer 0 _ _ d.touchpad

theorem lastMask_doubleTap {d : TapDriver} (h : d.lastMask = 0) (hcount : d.touchpad.tap.count = 2) :
    d.doubleTap.lastMask = if d.toggles then d.touchpad.button.state else 0 := by
  have hother : d.touchpad.tap.count ≠ 3 := by
    rw [hcount]
    decide
  have hzoom : d.zoomTaps.lastMask = d.touchpad.button.state := lastMask_showToggled _ _
  have hmodes : d.toggleAccelModes.lastMask = d.touchpad.button.state := lastMask_showToggled _ _
  unfold doubleTap
  by_cases htwo : d.taps.fingersCount = 2
  · cases htoggle : d.isToggleKeyOnHold with
    | false => simp [toggles, hcount, htwo, hzoom]
    | true =>
      have hedge : d.toggleEdgeScroll.lastMask = d.touchpad.button.state := lastMask_showToggled _ _
      simp [toggles, hcount, htwo, hedge]
  by_cases hthree : d.taps.fingersCount = 3
  · cases htoggle : d.isToggleKeyOnHold with
    | false => simp [toggles, hcount, hthree, htoggle, lastMask_notify, h]
    | true => simp [toggles, hcount, hthree, htoggle, hmodes]
  · cases htoggle : d.isToggleKeyOnHold with
    | false => simp [toggles, htwo, hthree, htoggle, h]
    | true =>
      have hbuttons : d.toggleVButtons.lastMask = d.touchpad.button.state := lastMask_showToggled _ _
      by_cases hfour : d.taps.fingersCount = 4
      · simp [toggles, hcount, hfour, htoggle, hbuttons]
      · simp [toggles, hother, htwo, hthree, hfour, h]

theorem lastMask_tripleTap {d : TapDriver} (h : d.lastMask = 0) (hcount : d.touchpad.tap.count = 3) :
    d.tripleTap.lastMask = if d.toggles then d.touchpad.button.state else 0 := by
  have hscroll : d.toggleEdgeCScroll.lastMask = d.touchpad.button.state := lastMask_showToggled _ _
  have haccel : d.togglePointerAccel.lastMask = d.touchpad.button.state := lastMask_showToggled _ _
  unfold tripleTap
  cases htoggle : d.isToggleKeyOnHold with
  | false => simp [toggles, hcount, htoggle, h]
  | true =>
    by_cases htwo : d.taps.fingersCount = 2
    · simp [toggles, hcount, htwo, htoggle, hscroll]
    by_cases hthree : d.taps.fingersCount = 3
    · simp [toggles, hcount, hthree, htoggle, haccel]
    · simp [toggles, hcount, htwo, hthree, h]

theorem lastMask_ProcessFeaturesToggle {d : TapDriver} (h : d.lastMask = 0) : d.ProcessFeaturesToggle.lastMask =
    if d.toggles && !d.taps.isNCDone then d.touchpad.button.state else 0 := by
  have hstep : ∀ t : TapDriver, t.lastMask = 0 → (if t.touchpad.tap.count = 1 then t.singleTap
      else if t.touchpad.tap.count = 2 then t.doubleTap.clearTapCount
      else if t.touchpad.tap.count = 3 then t.tripleTap.clearTapCount
      else t).lastMask = if t.toggles then t.touchpad.button.state else 0 := by
    intro t ht
    have hclear : ∀ u : TapDriver, u.clearTapCount.lastMask = u.lastMask := fun _ => rfl
    split
    · next hone =>
      have hmask : t.singleTap.lastMask = 0 := lastMask_point 0 0 0 _
      simp [hmask, toggles, hone]
    split
    · next htwo => exact (hclear _).trans (lastMask_doubleTap ht htwo)
    split
    · next hthree => exact (hclear _).trans (lastMask_tripleTap ht hthree)
    · next htwo hthree => simp [toggles, htwo, hthree, ht]
  unfold ProcessFeaturesToggle
  dsimp only
  cases hdone : d.taps.isNCDone with
  | false =>
    have hsame : d.releaseNC = d := by
      unfold releaseNC
      rw [hdone]
      rfl
    rw [hsame, hstep d h]
    simp
  | true =>
    have hmask : d.releaseNC.lastMask = 0 ∧ d.releaseNC.touchpad.button.state = 0 := by
      unfold releaseNC
      rw [hdone, if_pos rfl]
      exact ⟨lastMask_place 0 _, rfl⟩
    rw [hstep _ hmask.1, hmask.2]
    simp

/-- The pointer still moves by its last difference. -/
def movesOn (w : TouchpadWorld) (d : TapDriver) : Bool :=
  !d.isStopped && d.touchpad.pContinuousMove &&
    w.uptime 0 - d.touchpad.lastDataTime ≤ d.taps.pAccelCustom.toUInt64 * 1000000

/-- The touch has had no data for so long that the pointer's timer ends it. -/
def pointerEnds (w : TouchpadWorld) (d : TapDriver) : Bool :=
  let idle := w.uptime 0 - d.touchpad.lastDataTime
  !d.isStopped && d.touchpad.pContinuousMove && idle > d.taps.pAccelCustom.toUInt64 * 1000000 && idle > 3000000000

/-- And the scroll's timer. -/
def scrollEnds (w : TouchpadWorld) (d : TapDriver) : Bool :=
  let scroll := d.touchpad.scroll
  !d.isStopped && scroll.inertiaDeltaX = 0 && scroll.inertiaDeltaY = 0 && scroll.doCont &&
    w.uptime 0 - d.touchpad.lastDataTime > 1000000000

/-- The timer moves the pointer while a button is held, or ends a touch that leaves a mask. -/
def disturbs (w : TouchpadWorld) (t : Timer) (d : TapDriver) : Bool :=
  match t with
  | .pointer => d.movesOn w && d.touchpad.button.state ≠ 0 || d.pointerEnds w && d.leavesMask
  | .scroll => d.scrollEnds w && d.leavesMask
  | .feature => d.toggles && !d.taps.isNCDone && d.touchpad.button.state ≠ 0
  | _ => false

theorem lastMask_pointerTimer {d : TapDriver} (h : d.lastMask = 0) :
    (d.EnhancePointerAcceleration w inertia).lastMask = 0 ↔ d.disturbs w .pointer = false := by
  have hconnect : ∀ t : TapDriver, (t.pad fun s => (s.Reconnect_touchpad w).2).lastMask = t.lastMask := fun t =>
    Touchpad.lastMask_Reconnect_touchpad t.touchpad
  unfold EnhancePointerAcceleration disturbs movesOn pointerEnds
  dsimp only
  generalize w.uptime 0 - d.touchpad.lastDataTime = idle
  cases hstopped : d.isStopped || !d.touchpad.pContinuousMove with
  | true =>
    have hoff : (!d.isStopped && d.touchpad.pContinuousMove) = false := by
      rw [← Bool.not_not d.touchpad.pContinuousMove, ← Bool.not_or, hstopped]
      rfl
    simp [hoff, h]
  | false =>
    have hon : (!d.isStopped && d.touchpad.pContinuousMove) = true := by
      rw [← Bool.not_not d.touchpad.pContinuousMove, ← Bool.not_or, hstopped]
      rfl
    rw [hon]
    simp only [Bool.false_eq_true, if_false, Bool.true_and]
    by_cases hidle : idle > d.taps.pAccelCustom.toUInt64 * 1000000
    · have hlate : ¬ idle ≤ d.taps.pAccelCustom.toUInt64 * 1000000 := UInt64.not_le.2 hidle
      rw [if_pos hidle]
      split
      · next hlong =>
        rw [hconnect, lastMask_touchEnd h]
        simp [hlate, hidle, hlong]
      · next hlong => simp [hlate, hlong, h]
    · have hsoon : idle ≤ d.taps.pAccelCustom.toUInt64 * 1000000 := UInt64.not_lt.1 hidle
      rw [if_neg hidle, lastMask_point]
      simp [hsoon, hidle]

/-- A reconnection changes nothing that the end of the touch looks at. -/
theorem leavesMask_Reconnect_touchpad (d : TapDriver) :
    (d.pad fun s => (s.Reconnect_touchpad w).2).leavesMask = d.leavesMask :=
  Touchpad.Reconnect_touchpad_same (fun s => leavesMask { d with touchpad := s })
    (fun _ => rfl) (fun _ _ => rfl) (fun _ => rfl) d.touchpad

theorem lastMask_stopScroll {d : TapDriver} (h : d.lastMask = 0) :
    (d.stopScroll w inertia).lastMask = 0 ↔ d.leavesMask = false := by
  have hstop : ∀ t : TapDriver, (t.pad Touchpad.StopScrollEnhanceTimer).lastMask = t.lastMask := fun _ => rfl
  have hconnected : (d.pad fun s => (s.Reconnect_touchpad w).2).lastMask = 0 :=
    (Touchpad.lastMask_Reconnect_touchpad d.touchpad).trans h
  unfold stopScroll
  rw [hstop, lastMask_touchEnd hconnected, leavesMask_Reconnect_touchpad]

theorem lastMask_scrollTimer {d : TapDriver} (h : d.lastMask = 0) :
    (d.EnhanceScrollAcceleration w inertia).lastMask = 0 ↔ d.disturbs w .scroll = false := by
  have hjob : d.clearJob.lastMask = 0 := h
  have hleaves : d.clearJob.leavesMask = d.leavesMask := rfl
  unfold EnhanceScrollAcceleration disturbs scrollEnds
  dsimp only
  split
  · next hstopped => simp [hstopped, h]
  next hstopped =>
  split
  · next hinertia =>
    obtain ⟨hx, hy⟩ : d.touchpad.scroll.inertiaDeltaX = 0 ∧ d.touchpad.scroll.inertiaDeltaY = 0 := by simpa using hinertia
    split
    · next hidle =>
      obtain ⟨hcont, hlong⟩ : d.touchpad.scroll.doCont = true ∧ w.uptime 0 - d.touchpad.lastDataTime > 1000000000 := by
        simpa using hidle
      rw [lastMask_stopScroll hjob, hleaves]
      simp [hstopped, hx, hy, hcont, hlong]
    · next hidle =>
      have hshort : (d.touchpad.scroll.doCont && decide (w.uptime 0 - d.touchpad.lastDataTime > 1000000000)) = false :=
        Bool.eq_false_iff.2 hidle
      refine iff_of_true hjob ?_
      rw [Bool.and_assoc (_ && _) d.touchpad.scroll.doCont, hshort, Bool.and_false, Bool.false_and]
  · next hinertia =>
    have hmoves : (decide (d.touchpad.scroll.inertiaDeltaX = 0) && decide (d.touchpad.scroll.inertiaDeltaY = 0)) = false :=
      Bool.eq_false_iff.2 hinertia
    refine iff_of_true h ?_
    rw [Bool.and_assoc (!d.isStopped), hmoves]
    simp

/-- A timer leaves no mask behind just when it neither moves the pointer while a button is held, nor
ends a touch that leaves one. -/
theorem lastMask_expire {d : TapDriver} (h : d.lastMask = 0) (t : Timer) :
    (d.expire w inertia t).lastMask = 0 ↔ d.disturbs w t = false := by
  cases t with
  | pointer => exact lastMask_pointerTimer h
  | scroll => exact lastMask_scrollTimer h
  | buttonDrag => exact iff_of_true (lastMask_Release h) rfl
  | feature =>
    show d.ProcessFeaturesToggle.lastMask = 0 ↔ _
    rw [lastMask_ProcessFeaturesToggle h]
    simp [disturbs]
  | kBackLight =>
    have hmask : (d.ControlfKeybrdBackLight w).lastMask = d.lastMask := lastMask_notify _ d
    exact iff_of_true (hmask.trans h) rfl

end TapDriver

end ApplePS2
