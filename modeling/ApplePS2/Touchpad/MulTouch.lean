import ApplePS2.Touchpad.SwipeDirection
import ApplePS2.Touchpad.Timers

/- Touches of three fingers and more: `Process_multiFingers_touch` as a whole, and what
   happens to the driver between two of its calls.

   1. `touched_processed`: a call changes nothing in a mode that is over, and where it
      sends anything, it leaves such a mode behind.
   2. `untouched_handle`: what happens between the calls never leaves such a mode.
   3. `gestures_length_le_one`: so a touch performs at most one gesture. -/
namespace ApplePS2

/-- What touches of more than two fingers read and assign. Some of the settings are toggled. -/
structure MulTouch where
  settings : SwipeSettings
  driver : TapDriver
  /-- `_fingPress.gestureTime` -/
  pressTime : UInt64
  fings2Press : Int8
  fPressDragFingersID : UInt8
  fings4PinchAction : Int8
  fings5PinchAction : Int8

namespace MulTouch

/-! `Process_singlefinger_touch` is a parameter; it moves the pointer in a drag of three fingers. -/

variable (singlefinger : Int → TapDriver → TapDriver)

def touchpad (s : MulTouch) : Touchpad := s.driver.touchpad
def log (s : MulTouch) : List TouchpadSent := s.touchpad.log

def on (f : TapDriver → TapDriver) (s : MulTouch) : MulTouch := { s with driver := f s.driver }
def pad (f : Touchpad → Touchpad) : MulTouch → MulTouch := on (TapDriver.pad f)
def setMode (m : TouchPadModes) : MulTouch → MulTouch := pad fun t => { t with touchmode := m }
def stopScroll : MulTouch → MulTouch := pad Touchpad.StopScrollEnhanceTimer

/-- What a call reads when it begins. -/
def view (fid : Int) (s : MulTouch) : MultiFingers := { touchpad := s.touchpad, fid := fid, pressTime := s.pressTime }

/-! "Process touchpad modes" -/

/-- "Dispatch 3f drag and return" -/
def dispatchDrag (fid : Int) (s : MulTouch) : MulTouch :=
  if s.fPressDragFingersID &&& UInt8.ofInt (fid + fid) ≠ 0 || s.fPressDragFingersID &&& 1 ≠ 0 && fid = 0 then
    s.on (singlefinger fid)
  else s

def isMulTap (m : TouchPadModes) : Bool := m = .MODE_3_FING_TAP || m = .MODE_4_FING_TAP || m = .MODE_5_FING_TAP

def clearMulTap (s : MulTouch) : MulTouch := if isMulTap s.touchpad.touchmode then s.setMode .MODE_IDLE else s

/-- "Clear 1F and 2F modes" -/
def clearModes (clearsCorner : Bool) (s : MulTouch) : MulTouch :=
  let s := if clearsCorner then s.on fun d => { d with taps.corner := 0 } else s
  s.pad (fun t => t.when t.pContinuousMove Touchpad.StopPointerEnhanceTimer) |> stopScroll |> setMode .MODE_IDLE

def tapMode (s : MulTouch) : TouchPadModes :=
  if s.touchpad.cFingers = 3 then .MODE_3_FING_TAP
  else if s.touchpad.cFingers = 4 then .MODE_4_FING_TAP
  else if s.touchpad.cFingers = 5 then .MODE_5_FING_TAP
  else s.touchpad.touchmode

/-- "Enable Tap mode if its within tap time and delta", else "Clear the Tap mode". -/
def processTap (v : MultiFingers) (s : MulTouch) : MulTouch :=
  let noise := s.settings.noiseMultiTapDelta.toNat
  if s.touchpad.gestureTime < s.settings.mulFingsTimeout && v.m_xDelta < noise && v.m_yDelta < noise then
    if v.movesInTap s.settings then s.clearMulTap
    else if s.touchpad.lastFingers ≤ s.touchpad.cFingers then s.setMode s.tapMode
    else s
  else s.clearMulTap

/-- The modes in which nothing is processed any more. -/
def skip (v : MultiFingers) (s : MulTouch) : MulTouch :=
  if s.touchpad.drag.is3FDrag then s.dispatchDrag singlefinger v.fid else s.stopScroll

/-- In the other modes the packet goes on, unless a gesture is triggered already. -/
def processOther (v : MultiFingers) (s : MulTouch) : MulTouch :=
  let t := s.processTap v
  if !v.movesInTap s.settings && v.isTriggered then t.skip singlefinger v else t

def processModes (v : MultiFingers) (s : MulTouch) : MulTouch :=
  match s.touchpad.touchmode with
  | .MODE_MOVE => if s.touchpad.drag.is3FDrag then s.dispatchDrag singlefinger v.fid else s.clearModes true
  | .MODE_1_FING_TAP | .MODE_2_FING_TAP | .MODE_CORNER_TAP => s.clearModes true
  | .MODE_EDGE_VSCROLL | .MODE_EDGE_HSCROLL | .MODE_CIR_VSCROLL | .MODE_CIR_HSCROLL | .MODE_CONT_SCROLL
  | .MODE_VSCROLL | .MODE_HSCROLL => s.clearModes false
  | .MODE_IDLE => if s.touchpad.drag.is3FDrag then s.dispatchDrag singlefinger v.fid else s.processOther singlefinger v
  | .MODE_MUL_TOUCH_3 | .MODE_MUL_TOUCH_4 | .MODE_FEATURE_TOGGLE | .MODE_5_FING_PINCH | .MODE_4_FING_PINCH
  | .MODE_TWO_FING_PRESS | .MODE_THREE_FING_PRESS => s.skip singlefinger v
  | .MODE_FOUR_FING_PRESS | .MODE_FIVE_FING_PRESS | .MODE_ZOOM | .MODE_ROTATE => s.stopScroll
  | _ => s.processOther singlefinger v

/-! "Process finger press" -/

/-- The soft notification center, or a notification. -/
def perform (action : Int8) (s : MulTouch) : MulTouch :=
  if action = 17 then s.on fun d => d.Open_NC.ResetPointerToMiddle
  else s.pad (Touchpad.send (.dispatchPS2Notification (UInt32.ofInt action.toInt)))

/-- `fPressAction` is an `UInt8`, none if it is 0. -/
def performPress (action : UInt8) (s : MulTouch) : MulTouch :=
  if action = 17 then s.on fun d => d.Open_NC.ResetPointerToMiddle
  else if action > 0 then s.pad (Touchpad.send (.dispatchPS2Notification action.toUInt32))
  else s

/-- Pressing a number of fingers starts a drag, and does not perform their action. -/
def pressDrags (fingers : UInt8) (s : MulTouch) : Bool :=
  s.settings.hasFPresDrag && s.settings.fPressDragFingersNum &&& fingers ≠ 0

def startDrag (mode : TouchPadModes) (s : MulTouch) : MulTouch :=
  if s.pressTime > s.settings.fPressDragStartTimeOut || s.touchpad.button.triggered then
    s.pad fun t =>
      { t with drag.isDragging := true, drag.isHoldDrag := true, drag.is3FDrag := true, touchmode := mode }
  else s

def Proces_Fingers_Press (fingers : UInt8) (s : MulTouch) : MulTouch :=
  if fingers = 2 then
    if s.pressDrags 0x2 then s.startDrag .MODE_TWO_FING_PRESS
    else s.setMode .MODE_TWO_FING_PRESS |>.performPress s.fings2Press.toUInt8
  else if fingers = 3 then
    if s.pressDrags 0x4 then s.startDrag .MODE_THREE_FING_PRESS
    else s.setMode .MODE_THREE_FING_PRESS |>.performPress s.settings.fings3Press.toUInt8
  else if fingers = 4 then s.performPress s.settings.fings4Press.toUInt8
  else if fingers = 5 then s.performPress s.settings.fings5Press.toUInt8
  else s

def showToggled (on : Bool) : MulTouch → MulTouch := pad (Touchpad.showToggled on)

/-- "Toggle 3f press", and that of 4 and 5 fingers. -/
def toggle3FPress (s : MulTouch) : MulTouch :=
  { s with settings.fings3Press := 0 - s.settings.fings3Press }.showToggled (0 - s.settings.fings3Press > 0)

def toggle4FPress (s : MulTouch) : MulTouch :=
  { s with settings.fings4Press := 0 - s.settings.fings4Press }.showToggled (0 - s.settings.fings4Press > 0)

def toggle5FPress (s : MulTouch) : MulTouch :=
  { s with settings.fings5Press := 0 - s.settings.fings5Press }.showToggled (0 - s.settings.fings5Press > 0)

def isToggleKeyOnHold (s : MulTouch) : Bool := s.touchpad.kbEvent.isToggleKeyOnHold

def press (s : MulTouch) : MulTouch :=
  if s.touchpad.cFingers = 3 then
    if s.isToggleKeyOnHold then s.toggle3FPress.setMode .MODE_THREE_FING_PRESS else s.Proces_Fingers_Press 3
  else if s.touchpad.cFingers = 4 then
    (if s.isToggleKeyOnHold then s.toggle4FPress else s.Proces_Fingers_Press 4).setMode .MODE_FOUR_FING_PRESS
  else if s.touchpad.cFingers = 5 then
    (if s.isToggleKeyOnHold then s.toggle5FPress else s.Proces_Fingers_Press 5).setMode .MODE_FIVE_FING_PRESS
  else s

def hasPress (s : MulTouch) : Bool :=
  (s.settings.fings3Press ||| s.settings.fings4Press ||| s.settings.fings5Press) > 0 || s.isToggleKeyOnHold

/-- "Calculate finger press time" -/
def timePress (v : MultiFingers) (s : MulTouch) : MulTouch :=
  let timed := !v.touchpad.button.triggered && v.touchpad.gestureTime < s.settings.fingPressTimeout + 4000000000 &&
    (v.m_xDelta < 50 && v.m_yDelta < 50)
  let clears := !timed && (s.settings.fingPressTimeout ≠ 0 && v.pressTime ≠ 0)
  { s with pressTime := v.fingPressTime s.settings }.pad fun t => t.when clears fun t => { t with gestureTime := 0 }

def processPress (v : MultiFingers) (s : MulTouch) : MulTouch :=
  let s := s.timePress v
  if s.pressTime > s.settings.fingPressTimeout || s.touchpad.button.triggered then s.press else s

def isPressMode (m : TouchPadModes) : Bool :=
  m = .MODE_THREE_FING_PRESS || m = .MODE_FOUR_FING_PRESS || m = .MODE_FIVE_FING_PRESS

/-! "Process Swipes" -/

def toggleZoom (s : MulTouch) : MulTouch :=
  s.pad (fun t => { t with zoomEnabled := !t.zoomEnabled }) |> showToggled (!s.touchpad.zoomEnabled)

def toggleRotate (s : MulTouch) : MulTouch :=
  s.pad (fun t => { t with rotateEnabled := !t.rotateEnabled }) |> showToggled (!s.touchpad.rotateEnabled)

def toggleEdgeSwipes (s : MulTouch) : MulTouch :=
  s.pad (fun t => { t with swipe.hasEdgeSwipes := !t.swipe.hasEdgeSwipes }) |>
    showToggled (!s.touchpad.swipe.hasEdgeSwipes)

def toggleCornerTap (s : MulTouch) : MulTouch :=
  s.on (fun d => { d with taps.isCornerTapEnabled := !d.taps.isCornerTapEnabled }) |>
    showToggled (!s.driver.taps.isCornerTapEnabled)

/-- "Toggle features" -/
def toggleFeature (s : MulTouch) : MulTouch :=
  let direction := s.touchpad.swipe.direction
  if direction = 1 then s.toggleZoom
  else if direction = 2 then s.toggleRotate
  else if direction = 3 then s.toggleEdgeSwipes
  else if direction = 4 then s.toggleCornerTap
  else s

def swipeMode (s : MulTouch) : TouchPadModes :=
  if s.touchpad.cFingers = 3 then .MODE_MUL_TOUCH_3
  else if s.touchpad.cFingers = 4 then .MODE_MUL_TOUCH_4
  else s.touchpad.touchmode

/-- The direction of an earlier swipe stays where none is found. -/
def setDirection (v : MultiFingers) (s : MulTouch) : MulTouch :=
  s.pad fun t =>
    { t with swipe.direction := ((v.direction s.settings).map SwipeDirection.code).getD t.swipe.direction }

def processDirection (s : MulTouch) : MulTouch :=
  if s.isToggleKeyOnHold && s.touchpad.swipe.direction > 0 then s.toggleFeature.setMode .MODE_FEATURE_TOGGLE
  else if s.touchpad.swipe.direction > 0 then s.setMode s.swipeMode
  else s

def processSwipes (v : MultiFingers) (s : MulTouch) : MulTouch :=
  if v.pinches then (s.perform s.fings4PinchAction).setMode .MODE_4_FING_PINCH
  else if v.matchesFingers then (s.setDirection v).processDirection
  else s

/-! "Process 4f & 5f pinch" -/

def entersPinch (v : MultiFingers) (s : MulTouch) : Bool :=
  s.touchpad.cFingers = 5 && s.fings5PinchAction > 0 && v.packetsCount > 3 && (v.m_xDelta > 50 || v.m_yDelta > 50)

/-- Some fingers, not all, move to one side, and there are others: on the opposite side, or on both sides of the
other axis. -/
def pinchesTo (side opposite left right : Nat) : Bool :=
  side > 2 && side < 5 && (opposite ≠ 0 || left ≠ 0 && right ≠ 0)

def pinches5F (v : MultiFingers) : Bool :=
  let down := v.count fun f => f.tdy > 80
  let up := v.count fun f => !(f.tdy > 80) && f.tdy < -80
  let right := v.count fun f => f.tdx > 80
  let left := v.count fun f => !(f.tdx > 80) && f.tdx < -80
  v.touchpad.touchpadVendor = .STD_SYNAPTICS && down = 1 && left = 1 ||
    (pinchesTo down up left right || pinchesTo up down left right || pinchesTo left right down up ||
      pinchesTo right left up down)

def processPinch (v : MultiFingers) (s : MulTouch) : MulTouch :=
  if pinches5F v then (s.perform s.fings5PinchAction).setMode .MODE_5_FING_PINCH else s

/-! The whole. -/

def countPacket (v : MultiFingers) : MulTouch → MulTouch := pad fun t => { t with packetsCount := v.packetsCount }

/-- After the modes and the press. -/
def processGestures (v : MultiFingers) (s : MulTouch) : MulTouch :=
  if v.entersSwipes s.settings then s.processSwipes v
  else if s.entersPinch v then s.processPinch v
  else s

def Process_multiFingers_touch (fid : Int) (s : MulTouch) : MulTouch :=
  let v := s.view fid
  let t := (s.countPacket v).processModes singlefinger v
  if v.returnsInMode s.settings || v.packetsCount = 1 then t
  else if t.hasPress then
    let u := t.processPress v
    if isPressMode u.touchpad.touchmode then u else u.processGestures v
  else t.processGestures v

end MulTouch

/-- What happens during a touch of three fingers and more. -/
inductive MulEvent where
  /-- The number of fingers is another one. -/
  | changed (count : UInt8) (h : 3 ≤ count ∧ count ≤ 5)
  /-- A packet is stored. -/
  | moved (fing : Int → Finger) (gestureTime : UInt64) (packetsCount : UInt8)
  | virtualButtons (p : Packet) (packetType fid : UInt8)
  | notified (w : TouchpadWorld) (n : PS2Notification) (h : n ≠ .kPS2C_RestoreTouchpad)
  /-- The timers of the pointer and of scrolling may end the touch. -/
  | expired (w : TouchpadWorld) (inertia : Inertia) (t : Timer) (h : t ≠ .pointer ∧ t ≠ .scroll)
  | touched (fid : Int)

namespace MulTouch

variable (singlefinger : Int → TapDriver → TapDriver)

def fingersChange (count : UInt8) : MulTouch → MulTouch := pad fun t => (t.setFingers count).Process_fingers_change

def handle (s : MulTouch) : MulEvent → MulTouch
  | .changed count _ => s.fingersChange count
  | .moved fing gestureTime packetsCount =>
    s.pad fun t => { t with fing := fing, gestureTime := gestureTime, packetsCount := packetsCount }
  | .virtualButtons p packetType fid =>
    s.pad fun t => t.Process_ClickPad_Virtual_Buttons p packetType fid t.cFingers
  | .notified w n _ => s.pad (Touchpad.receiveKeyboardNotifications w n)
  | .expired w inertia t _ => s.on (TapDriver.expire w inertia t)
  | .touched fid => s.Process_multiFingers_touch singlefinger fid

/-- What is sent on the way from one state to another. -/
def sent (s t : MulTouch) : List TouchpadSent := t.log.drop s.log.length

/-- A gesture is what is sent at once. -/
def gesture (s t : MulTouch) : List (List TouchpadSent) := if sent s t = [] then [] else [sent s t]

/-- The gestures of a touch, from its calls and from its end. -/
def gestures (w : TouchpadWorld) (inertia : Inertia) : List MulEvent → MulTouch → List (List TouchpadSent)
  | [], s => gesture s (s.on (TapDriver.endMode w inertia))
  | .touched fid :: events, s =>
    let t := s.handle singlefinger (.touched fid)
    gesture s t ++ gestures w inertia events t
  | e :: events, s => gestures w inertia events (s.handle singlefinger e)

end MulTouch

/-! What happens between two calls. -/

namespace Touchpad

variable {w : TouchpadWorld}

/-- The hardware, the mode, the number of fingers and their rotation and edge swipe are the same, and no drag of three
fingers has begun. -/
structure Steady (s t : Touchpad) : Prop where
  hwVersion : t.hwVersion = s.hwVersion
  touchmode : t.touchmode = s.touchmode
  cFingers : t.cFingers = s.cFingers
  isRotateGesture : t.rotate.isRotateGesture = s.rotate.isRotateGesture
  isEdgeGesture : t.swipe.isEdgeGesture = s.swipe.isEdgeGesture
  is3FDrag : s.drag.is3FDrag = false → t.drag.is3FDrag = false

theorem Steady.refl (s : Touchpad) : Steady s s := ⟨rfl, rfl, rfl, rfl, rfl, id⟩

theorem Steady.trans {s t u : Touchpad} (h : Steady s t) (h' : Steady t u) : Steady s u :=
  ⟨h'.hwVersion.trans h.hwVersion, h'.touchmode.trans h.touchmode, h'.cFingers.trans h.cFingers,
    h'.isRotateGesture.trans h.isRotateGesture, h'.isEdgeGesture.trans h.isEdgeGesture,
    fun hdrag => h'.is3FDrag (h.is3FDrag hdrag)⟩

theorem Steady.when {s : Touchpad} {f : Touchpad → Touchpad} (c : Bool) (h : Steady s (f s)) : Steady s (s.when c f) := by
  cases c with
  | true => exact h
  | false => exact .refl s

theorem steady_releaseAppSwitch (s : Touchpad) : Steady s s.releaseAppSwitch := by
  unfold releaseAppSwitch
  split
  · exact ⟨rfl, rfl, rfl, rfl, rfl, id⟩
  · exact .refl s

theorem steady_pointer (dx dy : Int) (b : UInt8) (s : Touchpad) : Steady s (s.dispatchRelativePointerPosition dx dy b) :=
  ⟨rfl, rfl, rfl, rfl, rfl, id⟩

theorem steady_released (s : Touchpad) : Steady s { s with button.state := 0 } := ⟨rfl, rfl, rfl, rfl, rfl, id⟩

theorem steady_escape (now : UInt64) (s : Touchpad) : Steady s (s.escape now) := by
  have hkey : ∀ s : Touchpad, Steady s s.clearToggleKey := by
    intro s
    unfold clearToggleKey
    split
    · exact ⟨rfl, rfl, rfl, rfl, rfl, id⟩
    · exact .refl s
  have hdrag : ∀ s : Touchpad, Steady s s.releaseDrag := by
    intro s
    unfold releaseDrag
    split
    · exact ⟨rfl, rfl, rfl, rfl, rfl, fun _ => rfl⟩
    · exact .refl s
  let t : Touchpad := { s with swipe.isInFullScreen := false, tap.count := 0 }
  have hfirst : Steady s t := ⟨rfl, rfl, rfl, rfl, rfl, id⟩
  have htime : ∀ s : Touchpad, Steady s { s with kbEvent.lastKeyPressTime := now } := fun s => ⟨rfl, rfl, rfl, rfl, rfl, id⟩
  exact (((hfirst.trans (hkey t)).trans (hdrag _)).trans (steady_releaseAppSwitch _)).trans (htime _)

theorem steady_backLight (now : UInt64) (s : Touchpad) : Steady s s.backLightOff ∧ Steady s (s.backLightOn now) := by
  constructor
  · unfold backLightOff
    split
    · exact .refl s
    · exact ⟨rfl, rfl, rfl, rfl, rfl, id⟩
  · unfold backLightOn
    dsimp only
    split
    · exact ⟨rfl, rfl, rfl, rfl, rfl, id⟩
    · exact .refl s

theorem steady_receive {n : PS2Notification} (hn : n ≠ .kPS2C_RestoreTouchpad) (s : Touchpad) :
    Steady s (s.receiveKeyboardNotifications w n) := by
  cases n with
  | kPS2C_RestoreTouchpad => exact absurd rfl hn
  | kPS2C_ESC => exact steady_escape _ s
  | kPS2C_DoContextMenu =>
    have hclick := (steady_pointer 0 0 0x2 s).trans (steady_pointer 0 0 0 _)
    exact hclick.trans (steady_released _)
  | kPS2C_KeybrdBackLightOff => exact (steady_backLight 0 s).1
  | kPS2C_KeybrdBackLightOn => exact (steady_backLight _ s).2
  | _ => exact ⟨rfl, rfl, rfl, rfl, rfl, id⟩

theorem steady_virtualRelease (s : Touchpad) : Steady s s.virtualRelease := by
  unfold virtualRelease
  split
  · exact ⟨rfl, rfl, rfl, rfl, rfl, fun _ => rfl⟩
  · exact ⟨rfl, rfl, rfl, rfl, rfl, id⟩

theorem steady_virtualDispatch (s : Touchpad) : Steady s s.virtualDispatch := by
  have hstop : Steady s (s.when s.pContinuousMove StopPointerEnhanceTimer).releaseAppSwitch :=
    .trans (.when _ ⟨rfl, rfl, rfl, rfl, rfl, id⟩) (steady_releaseAppSwitch _)
  unfold virtualDispatch
  dsimp only
  split
  · exact hstop
  · exact hstop.trans ⟨rfl, rfl, rfl, rfl, rfl, id⟩

/-- The virtual button of three fingers and more has no mode of its own. -/
theorem steady_virtualButtons (p : Packet) (packetType fid : UInt8) {s : Touchpad} (h : 3 ≤ s.cFingers)
    (hrotate : s.rotate.isRotateGesture = false) :
    Steady s (s.Process_ClickPad_Virtual_Buttons p packetType fid s.cFingers) := by
  have hone : s.cFingers ≠ 1 := fun heq => absurd (heq ▸ h) (by decide)
  have htwo : s.cFingers ≠ 2 := fun heq => absurd (heq ▸ h) (by decide)
  unfold Process_ClickPad_Virtual_Buttons
  rw [if_neg hone, if_neg htwo]
  split
  · exact .refl s
  split
  · refine .trans ?_ (steady_virtualDispatch _)
    exact ⟨rfl, rfl, rfl, hrotate.symm, rfl, id⟩
  · exact steady_virtualRelease s

end Touchpad

namespace TapDriver

open Touchpad (Steady)

variable {w : TouchpadWorld} {inertia : Inertia}

theorem steady_point (dx dy : Int) (b : UInt8) (d : TapDriver) : Steady d.touchpad (d.point dx dy b).touchpad :=
  ⟨rfl, rfl, rfl, rfl, rfl, id⟩

theorem steady_place (b : UInt8) (d : TapDriver) : Steady d.touchpad (d.place b).touchpad := ⟨rfl, rfl, rfl, rfl, rfl, id⟩

theorem steady_setButton (data state : UInt8) (d : TapDriver) : Steady d.touchpad (d.setButton data state).touchpad :=
  ⟨rfl, rfl, rfl, rfl, rfl, id⟩

theorem steady_reset (d : TapDriver) : Steady d.touchpad d.ResetPointerToMiddle.touchpad :=
  (steady_place _ d).trans (steady_place _ _)

theorem steady_notify (n : PS2Notification) (d : TapDriver) : Steady d.touchpad (d.notify n).touchpad := ⟨rfl, rfl, rfl, rfl, rfl, id⟩

theorem steady_showToggled (on : Bool) (d : TapDriver) : Steady d.touchpad (d.showToggled on).touchpad :=
  ⟨rfl, rfl, rfl, rfl, rfl, id⟩

theorem steady_clearDrags (d : TapDriver) : Steady d.touchpad d.clearDrags.touchpad := ⟨rfl, rfl, rfl, rfl, rfl, fun _ => rfl⟩

theorem steady_clearJob (d : TapDriver) : Steady d.touchpad d.clearJob.touchpad := ⟨rfl, rfl, rfl, rfl, rfl, id⟩

theorem steady_releaseTimer (d : TapDriver) : Steady d.touchpad d.Release_ButtonsAndDrag.touchpad := by
  have hswitch : Steady d.touchpad d.releaseSwitch.touchpad := by
    unfold releaseSwitch
    split
    · exact ⟨rfl, rfl, rfl, rfl, rfl, id⟩
    · exact .refl _
  have hclick : ∀ d : TapDriver, Steady d.touchpad d.releaseClick.touchpad := by
    intro d
    unfold releaseClick
    split
    · exact ((steady_clearDrags d).trans (steady_setButton 0 0 _)).trans (steady_point 0 0 0 _)
    · exact .refl _
  exact (hswitch.trans (hclick d.releaseSwitch)).trans (steady_clearJob _)

theorem steady_toggleEdgeScroll (d : TapDriver) : Steady d.touchpad d.toggleEdgeScroll.touchpad := by
  have hset : Steady d.touchpad
      { d with touchpad.scroll.hasEdgeScroll := !d.touchpad.scroll.hasEdgeScroll }.touchpad := ⟨rfl, rfl, rfl, rfl, rfl, id⟩
  exact hset.trans (steady_showToggled _ _)

theorem steady_toggleVButtons (d : TapDriver) : Steady d.touchpad d.toggleVButtons.touchpad := by
  have hset : Steady d.touchpad
      { d with touchpad.button.clickPadHasVButtons := !d.touchpad.button.clickPadHasVButtons }.touchpad :=
    ⟨rfl, rfl, rfl, rfl, rfl, id⟩
  exact hset.trans (steady_showToggled _ _)

theorem steady_zoomTaps (d : TapDriver) : Steady d.touchpad d.zoomTaps.touchpad := by
  have hset : Steady d.touchpad { d with taps.tapZoomDone := !d.taps.tapZoomDone }.touchpad := .refl _
  exact ((hset.trans (steady_notify _ _)).trans (steady_notify _ _)).trans (steady_showToggled _ _)

theorem steady_toggleAccelModes (d : TapDriver) : Steady d.touchpad d.toggleAccelModes.touchpad := by
  have hset : Steady d.touchpad { d with
      taps.accelMode2F := nextMode 4 d.taps.accelMode2F, taps.accelModeEdge := nextMode 4 d.taps.accelModeEdge }.touchpad :=
    .refl _
  exact (hset.trans (steady_showToggled _ _)).trans (steady_showToggled _ _)

theorem steady_clearTapCount (d : TapDriver) : Steady d.touchpad d.clearTapCount.touchpad := ⟨rfl, rfl, rfl, rfl, rfl, id⟩

theorem steady_singleTap (d : TapDriver) : Steady d.touchpad d.singleTap.touchpad := by
  have hclick := (steady_point 0 0 (if d.taps.isTapSwapEnabled = decide (d.taps.fingersCount = 2) then 0x2 else 0x4) d).trans
    (steady_point 0 0 0 _)
  exact (hclick.trans (steady_clearTapCount _)).trans (steady_setButton 0 0 _)

theorem steady_features (d : TapDriver) : Steady d.touchpad d.ProcessFeaturesToggle.touchpad := by
  have hNC : Steady d.touchpad d.releaseNC.touchpad := by
    have hclick : Steady d.touchpad ((d.point 0 0 1 |>.point 0 0 0).setButton 0 0).touchpad :=
      ((steady_point 0 0 1 d).trans (steady_point 0 0 0 _)).trans (steady_setButton 0 0 _)
    unfold releaseNC
    split
    · show Steady d.touchpad ((d.point 0 0 1 |>.point 0 0 0).setButton 0 0).ResetPointerToMiddle.touchpad
      exact hclick.trans (steady_reset _)
    · exact .refl _
  have hdouble : ∀ d : TapDriver, Steady d.touchpad d.doubleTap.touchpad := by
    intro d
    unfold doubleTap
    split_ifs
    · exact steady_toggleEdgeScroll d
    · exact steady_zoomTaps d
    · exact steady_toggleAccelModes d
    · exact steady_notify _ d
    · exact steady_toggleVButtons d
    · exact .refl _
  have htriple : ∀ d : TapDriver, Steady d.touchpad d.tripleTap.touchpad := by
    intro d
    unfold tripleTap
    split_ifs
    · exact steady_showToggled _ { d with taps.hasEdgeCScroll := !d.taps.hasEdgeCScroll }
    · exact steady_showToggled _ { d with taps.pAccelCustom := nextMode 20 d.taps.pAccelCustom }
    · exact .refl _
  unfold ProcessFeaturesToggle
  dsimp only
  split_ifs
  · exact hNC.trans (steady_singleTap _)
  · exact (hNC.trans (hdouble _)).trans (steady_clearTapCount _)
  · exact (hNC.trans (htriple _)).trans (steady_clearTapCount _)
  · exact hNC

theorem steady_expire {t : Timer} (ht : t ≠ .pointer ∧ t ≠ .scroll) (d : TapDriver) :
    Steady d.touchpad (d.expire w inertia t).touchpad := by
  cases t with
  | pointer => exact absurd rfl ht.1
  | scroll => exact absurd rfl ht.2
  | buttonDrag => exact steady_releaseTimer d
  | feature => exact steady_features d
  | kBackLight => exact ⟨rfl, rfl, rfl, rfl, rfl, id⟩

end TapDriver

namespace Touchpad

theorem steady_clearHeldDrag (s : Touchpad) : Steady s s.clearHeldDrag := by
  have huse : ∀ c, Steady s (s.when c (use [s.pid])) := fun c => .when c ⟨rfl, rfl, rfl, rfl, rfl, id⟩
  unfold clearHeldDrag
  dsimp only
  split
  · exact (huse _).trans ⟨rfl, rfl, rfl, rfl, rfl, fun _ => rfl⟩
  · exact huse _

/-- Before the modes are cleared. -/
theorem steady_clearFingers (s : Touchpad) :
    Steady s (s |> updateSlots |> cancelTimers |> clearHeldDrag |> continueTouch |> clearFingers) := by
  have hslots : Steady s s.updateSlots := by
    unfold updateSlots
    repeat' split
    all_goals exact ⟨rfl, rfl, rfl, rfl, rfl, id⟩
  have htimers : ∀ s : Touchpad, Steady s s.cancelTimers := fun s =>
    .trans (.when _ ⟨rfl, rfl, rfl, rfl, rfl, id⟩) (.when _ ⟨rfl, rfl, rfl, rfl, rfl, id⟩)
  have hcontinue : ∀ s : Touchpad, Steady s s.continueTouch := fun s => ⟨rfl, rfl, rfl, rfl, rfl, id⟩
  have hclear : ∀ s : Touchpad, Steady s s.clearFingers := fun s => .when _ ⟨rfl, rfl, rfl, rfl, rfl, id⟩
  exact (((hslots.trans (htimers _)).trans (steady_clearHeldDrag _)).trans (hcontinue _)).trans (hclear _)

theorem steady_startTouch (s : Touchpad) : Steady s s.startTouch := .when _ ⟨rfl, rfl, rfl, rfl, rfl, id⟩

theorem cFingers_change (s : Touchpad) : s.Process_fingers_change.cFingers = s.cFingers :=
  (steady_startTouch _).cFingers.trans (steady_clearFingers s).cFingers

theorem is3FDrag_change {s : Touchpad} (h : s.drag.is3FDrag = false) :
    s.Process_fingers_change.drag.is3FDrag = false :=
  (steady_startTouch _).is3FDrag ((steady_clearFingers s).is3FDrag h)

/-- Three fingers and more are no rotation. -/
theorem isRotateGesture_change {s : Touchpad} (h : 3 ≤ s.cFingers ∧ s.cFingers ≤ 5) :
    s.Process_fingers_change.rotate.isRotateGesture = false := by
  refine (steady_startTouch _).isRotateGesture.trans ?_
  have hfingers := (steady_clearFingers s).cFingers
  generalize (s |> updateSlots |> cancelTimers |> clearHeldDrag |> continueTouch |> clearFingers) = t at hfingers
  show t.clearedRotate.isRotateGesture = false
  have htwo : t.cFingers ≠ 2 := fun heq => absurd (heq ▸ hfingers ▸ h.1) (by decide)
  unfold clearedRotate
  rw [hfingers] at htwo ⊢
  cases hrotate : t.rotate.isRotateGesture <;> simp [htwo, h.1, h.2, hrotate]

end Touchpad

namespace MulTouch

variable (singlefinger : Int → TapDriver → TapDriver) {w : TouchpadWorld} {inertia : Inertia}

/-- A touch of three fingers and more, in which no drag goes on or can start. -/
structure Started (s : MulTouch) : Prop where
  fingers : 3 ≤ s.touchpad.cFingers
  is3FDrag : s.touchpad.drag.is3FDrag = false
  isRotateGesture : s.touchpad.rotate.isRotateGesture = false
  pressDrags : s.pressDrags 0x4 = false

/-- The modes that a gesture leaves behind which is performed at once. -/
def isOver (m : TouchPadModes) : Bool :=
  isPressMode m || m = .MODE_FEATURE_TOGGLE || m = .MODE_4_FING_PINCH || m = .MODE_5_FING_PINCH

theorem over_cases {m : TouchPadModes} (h : isOver m = true) :
    m = .MODE_THREE_FING_PRESS ∨ m = .MODE_FOUR_FING_PRESS ∨ m = .MODE_FIVE_FING_PRESS ∨ m = .MODE_FEATURE_TOGGLE ∨
      m = .MODE_4_FING_PINCH ∨ m = .MODE_5_FING_PINCH := by
  cases m <;> revert h <;> decide

theorem over_of_press {m : TouchPadModes} (h : isPressMode m = true) : isOver m = true := by
  unfold isOver
  rw [h]
  rfl

theorem Started.same {s t : MulTouch} (h : Started s) (hfingers : t.touchpad.cFingers = s.touchpad.cFingers)
    (hdrag : t.touchpad.drag.is3FDrag = s.touchpad.drag.is3FDrag)
    (hrotate : t.touchpad.rotate.isRotateGesture = s.touchpad.rotate.isRotateGesture)
    (hpress : t.pressDrags 0x4 = s.pressDrags 0x4) : Started t :=
  ⟨hfingers ▸ h.fingers, hdrag.trans h.is3FDrag, hrotate.trans h.isRotateGesture, hpress.trans h.pressDrags⟩

theorem Started.steady {s t : MulTouch} (h : Started s) (hsteady : s.touchpad.Steady t.touchpad)
    (hpress : t.pressDrags 0x4 = s.pressDrags 0x4) : Started t :=
  ⟨hsteady.cFingers ▸ h.fingers, hsteady.is3FDrag h.is3FDrag, hsteady.isRotateGesture.trans h.isRotateGesture,
    hpress.trans h.pressDrags⟩

/-- Nothing is sent. -/
structure Quiet (s t : MulTouch) : Prop where
  started : Started s → Started t
  log : t.log = s.log

/-- Where anything is sent, a mode of this kind is left behind. -/
structure Performs (leaves : TouchPadModes → Bool) (s t : MulTouch) : Prop where
  started : Started s → Started t
  sends : t.log = s.log ∨ leaves t.touchpad.touchmode = true

theorem touchpad_pad (f : Touchpad → Touchpad) (s : MulTouch) : (s.pad f).touchpad = f s.touchpad := rfl

theorem over_of_steady {s t : MulTouch} (h : s.touchpad.Steady t.touchpad) (hover : isOver s.touchpad.touchmode = true) :
    isOver t.touchpad.touchmode = true := by
  rw [h.touchmode]
  exact hover

theorem Quiet.refl (s : MulTouch) : Quiet s s := ⟨id, rfl⟩

theorem Quiet.trans {s t u : MulTouch} (h : Quiet s t) (h' : Quiet t u) : Quiet s u :=
  ⟨fun hs => h'.started (h.started hs), h'.log.trans h.log⟩

theorem Quiet.performs {leaves : TouchPadModes → Bool} {s t : MulTouch} (h : Quiet s t) : Performs leaves s t :=
  ⟨h.started, .inl h.log⟩

theorem Quiet.trans_performs {leaves : TouchPadModes → Bool} {s t u : MulTouch} (h : Quiet s t)
    (h' : Performs leaves t u) : Performs leaves s u :=
  ⟨fun hs => h'.started (h.started hs), h'.sends.imp (fun hlog => hlog.trans h.log) id⟩

/-! The modes. -/

theorem quiet_setMode (m : TouchPadModes) (s : MulTouch) : Quiet s (s.setMode m) :=
  ⟨fun h => h.same rfl rfl rfl rfl, rfl⟩

theorem quiet_pad {f : Touchpad → Touchpad} {s : MulTouch} (h : s.touchpad.Steady (f s.touchpad))
    (hlog : (f s.touchpad).log = s.log) : Quiet s (s.pad f) :=
  ⟨fun hs => hs.steady h rfl, hlog⟩

theorem quiet_stopScroll (s : MulTouch) : Quiet s s.stopScroll := ⟨fun h => h.same rfl rfl rfl rfl, rfl⟩

theorem quiet_clearMulTap (s : MulTouch) : Quiet s s.clearMulTap := by
  unfold clearMulTap
  split
  · exact quiet_setMode _ s
  · exact .refl s

theorem quiet_clearModes (clearsCorner : Bool) (s : MulTouch) : Quiet s (s.clearModes clearsCorner) := by
  have hcorner : Quiet s (if clearsCorner then s.on fun d => { d with taps.corner := 0 } else s) := by
    split
    · exact ⟨fun h => h.same rfl rfl rfl rfl, rfl⟩
    · exact .refl s
  have hpointer : ∀ s : MulTouch,
      Quiet s (s.pad fun t => t.when t.pContinuousMove Touchpad.StopPointerEnhanceTimer) := by
    intro s
    refine quiet_pad (.when _ ⟨rfl, rfl, rfl, rfl, rfl, id⟩) ?_
    unfold Touchpad.when
    split <;> rfl
  exact ((hcorner.trans (hpointer _)).trans (quiet_stopScroll _)).trans (quiet_setMode _ _)

theorem quiet_processTap (v : MultiFingers) (s : MulTouch) : Quiet s (s.processTap v) := by
  unfold processTap
  dsimp only
  split_ifs
  · exact quiet_clearMulTap s
  · exact quiet_setMode _ s
  · exact .refl s
  · exact quiet_clearMulTap s

theorem quiet_skip (v : MultiFingers) {s : MulTouch} (hdrag : s.touchpad.drag.is3FDrag = false) :
    Quiet s (s.skip singlefinger v) := by
  unfold skip
  rw [hdrag]
  exact quiet_stopScroll s

theorem quiet_processOther (v : MultiFingers) {s : MulTouch} (h : Started s) :
    Quiet s (s.processOther singlefinger v) := by
  have htap := quiet_processTap v s
  unfold processOther
  dsimp only
  split
  · exact htap.trans (quiet_skip singlefinger v (htap.started h).is3FDrag)
  · exact htap

theorem quiet_processModes (v : MultiFingers) {s : MulTouch} (h : Started s) :
    Quiet s (s.processModes singlefinger v) := by
  have hskip := quiet_skip singlefinger v h.is3FDrag
  have hother := quiet_processOther singlefinger v h
  unfold processModes
  rw [h.is3FDrag]
  split
  · exact quiet_clearModes true s
  · exact quiet_clearModes true s
  · exact quiet_clearModes true s
  · exact quiet_clearModes true s
  all_goals first
    | exact quiet_clearModes false s
    | exact hskip
    | exact quiet_stopScroll s
    | exact hother

/-! What is performed. -/

/-- Whatever is sent before the mode is set, the mode is left behind. -/
theorem performs_setMode {leaves : TouchPadModes → Bool} {m : TouchPadModes} (hm : leaves m = true) {s t : MulTouch}
    (h : Started s → Started t) : Performs leaves s (t.setMode m) :=
  ⟨fun hs => (quiet_setMode m t).started (h hs), .inr hm⟩

theorem steady_openNC (d : TapDriver) : d.touchpad.Steady d.Open_NC.ResetPointerToMiddle.touchpad := by
  refine .trans ?_ (TapDriver.steady_reset _)
  have hplace := TapDriver.steady_place 0 d
  unfold TapDriver.Open_NC
  dsimp only
  split
  · exact hplace
  · exact ((hplace.trans (TapDriver.steady_place 1 _)).trans (TapDriver.steady_place 0 _)).trans
      (TapDriver.steady_reset _)

theorem steady_perform (action : Int8) (s : MulTouch) : s.touchpad.Steady (s.perform action).touchpad := by
  unfold perform
  split
  · exact steady_openNC s.driver
  · exact ⟨rfl, rfl, rfl, rfl, rfl, id⟩

theorem steady_performPress (action : UInt8) (s : MulTouch) : s.touchpad.Steady (s.performPress action).touchpad := by
  unfold performPress
  split_ifs
  · exact steady_openNC s.driver
  · exact ⟨rfl, rfl, rfl, rfl, rfl, id⟩
  · exact .refl _

theorem started_perform (action : Int8) {s : MulTouch} (h : Started s) : Started (s.perform action) := by
  refine h.steady (steady_perform action s) ?_
  unfold perform
  split <;> rfl

theorem started_performPress (action : UInt8) {s : MulTouch} (h : Started s) : Started (s.performPress action) := by
  refine h.steady (steady_performPress action s) ?_
  unfold performPress
  split_ifs <;> rfl

/-- Pressing three fingers leaves its mode behind. -/
theorem performs_threePress {s : MulTouch} (h : Started s) : Performs isPressMode s (s.Proces_Fingers_Press 3) := by
  have heq : s.Proces_Fingers_Press 3 =
      (s.setMode .MODE_THREE_FING_PRESS).performPress s.settings.fings3Press.toUInt8 := by
    show (if s.pressDrags 0x4 then s.startDrag .MODE_THREE_FING_PRESS else _) = _
    rw [h.pressDrags]
    rfl
  rw [heq]
  refine ⟨fun hs => started_performPress _ ((quiet_setMode _ s).started hs), .inr ?_⟩
  rw [(steady_performPress _ _).touchmode]
  rfl

theorem started_press (fingers : UInt8) (hfingers : fingers = 4 ∨ fingers = 5) {s : MulTouch} (h : Started s) :
    Started (s.Proces_Fingers_Press fingers) := by
  obtain rfl | rfl := hfingers
  · exact started_performPress s.settings.fings4Press.toUInt8 h
  · exact started_performPress s.settings.fings5Press.toUInt8 h

theorem performs_press {s : MulTouch} (h : Started s) : Performs isPressMode s s.press := by
  unfold press
  split
  · split
    · exact performs_setMode rfl fun hs => hs.same rfl rfl rfl rfl
    · exact performs_threePress h
  split
  · refine performs_setMode rfl fun hs => ?_
    split
    · exact hs.same rfl rfl rfl rfl
    · exact started_press 4 (.inl rfl) hs
  split
  · refine performs_setMode rfl fun hs => ?_
    split
    · exact hs.same rfl rfl rfl rfl
    · exact started_press 5 (.inr rfl) hs
  · exact (Quiet.refl s).performs

theorem quiet_timePress (v : MultiFingers) (s : MulTouch) : Quiet s (s.timePress v) := by
  have htime : Quiet s { s with pressTime := v.fingPressTime s.settings } := ⟨fun h => h.same rfl rfl rfl rfl, rfl⟩
  refine htime.trans (quiet_pad (.when _ ⟨rfl, rfl, rfl, rfl, rfl, id⟩) ?_)
  unfold Touchpad.when
  split <;> rfl

theorem performs_processPress (v : MultiFingers) {s : MulTouch} (h : Started s) :
    Performs isPressMode s (s.processPress v) := by
  have htime := quiet_timePress v s
  unfold processPress
  dsimp only
  split
  · exact htime.trans_performs (performs_press (htime.started h))
  · exact htime.performs

theorem started_showToggled (on : Bool) {s : MulTouch} (h : Started s) : Started (s.showToggled on) :=
  h.same rfl rfl rfl rfl

theorem started_toggleFeature {s : MulTouch} (h : Started s) : Started s.toggleFeature := by
  unfold toggleFeature
  dsimp only
  split_ifs
  · exact started_showToggled _ (h.same rfl rfl rfl rfl)
  · exact started_showToggled _ (h.same rfl rfl rfl rfl)
  · exact started_showToggled _ (h.same rfl rfl rfl rfl)
  · exact started_showToggled _ (h.same rfl rfl rfl rfl)
  · exact h

theorem performs_processDirection (s : MulTouch) : Performs isOver s s.processDirection := by
  unfold processDirection
  split_ifs
  · exact performs_setMode rfl started_toggleFeature
  · exact (quiet_setMode _ s).performs
  · exact (Quiet.refl s).performs

theorem performs_processSwipes (v : MultiFingers) (s : MulTouch) : Performs isOver s (s.processSwipes v) := by
  have hdirection : Quiet s (s.setDirection v) := ⟨fun h => h.same rfl rfl rfl rfl, rfl⟩
  unfold processSwipes
  split_ifs
  · exact performs_setMode rfl (started_perform _)
  · exact hdirection.trans_performs (performs_processDirection _)
  · exact (Quiet.refl s).performs

theorem performs_processGestures (v : MultiFingers) (s : MulTouch) : Performs isOver s (s.processGestures v) := by
  unfold processGestures
  split_ifs
  · exact performs_processSwipes v s
  · unfold processPinch
    split
    · exact performs_setMode rfl (started_perform _)
    · exact (Quiet.refl s).performs
  · exact (Quiet.refl s).performs

/-! One call. -/

theorem quiet_modes (fid : Int) {s : MulTouch} (h : Started s) :
    Quiet s ((s.countPacket (s.view fid)).processModes singlefinger (s.view fid)) := by
  have hcount : Quiet s (s.countPacket (s.view fid)) := ⟨fun h => h.same rfl rfl rfl rfl, rfl⟩
  exact hcount.trans (quiet_processModes singlefinger _ (hcount.started h))

theorem performs_processed (fid : Int) {s : MulTouch} (h : Started s) :
    Performs isOver s (s.Process_multiFingers_touch singlefinger fid) := by
  have hmodes := quiet_modes singlefinger fid h
  unfold Process_multiFingers_touch
  dsimp only
  split
  · exact hmodes.performs
  split
  · have hpress := performs_processPress (s.view fid) (hmodes.started h)
    split
    · exact hmodes.trans_performs ⟨hpress.started, .inr (over_of_press ‹_›)⟩
    · -- nothing has been sent, since no press is left behind
      have hquiet : Quiet _ _ := ⟨hpress.started, hpress.sends.resolve_right ‹_›⟩
      exact (hmodes.trans hquiet).trans_performs (performs_processGestures _ _)
  · exact hmodes.trans_performs (performs_processGestures _ _)

/-- In a mode that is over nothing more is done. -/
theorem processed_of_over (fid : Int) {s : MulTouch} (h : Started s) (hover : isOver s.touchpad.touchmode = true) :
    s.Process_multiFingers_touch singlefinger fid = (s.countPacket (s.view fid)).stopScroll := by
  have hreturns : (s.view fid).returnsInMode s.settings = true := by
    have hview : (s.view fid).touchpad.touchmode = s.touchpad.touchmode := rfl
    unfold MultiFingers.returnsInMode
    obtain hmode | hmode | hmode | hmode | hmode | hmode := over_cases hover <;> rw [hview, hmode]
  have hskip : (s.countPacket (s.view fid)).skip singlefinger (s.view fid) = (s.countPacket (s.view fid)).stopScroll := by
    unfold skip
    rw [show (s.countPacket (s.view fid)).touchpad.drag.is3FDrag = false from h.is3FDrag]
    rfl
  have hmodes : (s.countPacket (s.view fid)).processModes singlefinger (s.view fid) =
      (s.countPacket (s.view fid)).stopScroll := by
    have hcount : (s.countPacket (s.view fid)).touchpad.touchmode = s.touchpad.touchmode := rfl
    unfold processModes
    obtain hmode | hmode | hmode | hmode | hmode | hmode := over_cases hover <;> rw [hcount, hmode]
    all_goals exact hskip
  unfold Process_multiFingers_touch
  dsimp only
  rw [hreturns, Bool.true_or, if_pos rfl, hmodes]

/-! The whole touch. -/

/-- A change of the number of fingers keeps a mode that is over. -/
theorem touchmode_fingersChange (count : UInt8) {s : MulTouch} (h : Started s)
    (hover : isOver s.touchpad.touchmode = true) :
    (s.fingersChange count).touchpad.touchmode = s.touchpad.touchmode := by
  have hclear := Touchpad.steady_clearFingers (s.touchpad.setFingers count)
  have hkept : ∀ t : Touchpad, t.touchmode = s.touchpad.touchmode → t.rotate.isRotateGesture = false →
      t.clearedMode = s.touchpad.touchmode := by
    intro t hmode hrotate
    have htap : Touchpad.isTapMode s.touchpad.touchmode = false := by
      obtain hm | hm | hm | hm | hm | hm := over_cases hover <;> rw [hm] <;> rfl
    unfold Touchpad.clearedMode
    simp [htap, hrotate, hmode]
  have hmode := hkept _ hclear.touchmode (hclear.isRotateGesture.trans h.isRotateGesture)
  rw [fingersChange, touchpad_pad]
  exact (Touchpad.steady_startTouch _).touchmode.trans hmode

/-- The change of the number begins the touch. -/
theorem started_fingersChange {count : UInt8} (hcount : 3 ≤ count ∧ count ≤ 5) {s : MulTouch}
    (hdrag : s.touchpad.drag.is3FDrag = false) (hpress : s.pressDrags 0x4 = false) : Started (s.fingersChange count) := by
  refine ⟨?_, ?_, ?_, hpress⟩ <;> rw [fingersChange, touchpad_pad]
  · rw [Touchpad.cFingers_change]
    exact hcount.1
  · exact Touchpad.is3FDrag_change hdrag
  · exact Touchpad.isRotateGesture_change hcount

theorem started_handle (e : MulEvent) {s : MulTouch} (h : Started s) : Started (s.handle singlefinger e) := by
  cases e with
  | changed count hcount => exact started_fingersChange hcount h.is3FDrag h.pressDrags
  | moved fing gestureTime packetsCount => exact h.same rfl rfl rfl rfl
  | virtualButtons p packetType fid => exact h.steady (Touchpad.steady_virtualButtons p packetType fid h.fingers h.isRotateGesture) rfl
  | notified w n hn => exact h.steady (Touchpad.steady_receive hn _) rfl
  | expired w inertia t ht => exact h.steady (TapDriver.steady_expire ht _) rfl
  | touched fid => exact (performs_processed singlefinger fid h).started h

/-- A mode that is over stays until the end of the touch. -/
theorem over_handle (e : MulEvent) {s : MulTouch} (h : Started s) (hover : isOver s.touchpad.touchmode = true) :
    isOver (s.handle singlefinger e).touchpad.touchmode = true := by
  cases e with
  | changed count hcount =>
    show isOver (s.fingersChange count).touchpad.touchmode = true
    rw [touchmode_fingersChange count h hover]
    exact hover
  | moved fing gestureTime packetsCount => exact hover
  | virtualButtons p packetType fid =>
    exact over_of_steady (Touchpad.steady_virtualButtons p packetType fid h.fingers h.isRotateGesture) hover
  | notified w n hn => exact over_of_steady (Touchpad.steady_receive hn _) hover
  | expired w inertia t ht => exact over_of_steady (TapDriver.steady_expire ht _) hover
  | touched fid =>
    show isOver (s.Process_multiFingers_touch singlefinger fid).touchpad.touchmode = true
    rw [processed_of_over singlefinger fid h hover]
    exact hover

theorem gesture_eq_nil {s t : MulTouch} (h : t.log = s.log) : gesture s t = [] := by
  have hsent : sent s t = [] := by
    unfold sent
    rw [h, List.drop_length]
  unfold gesture
  rw [if_pos hsent]

theorem gesture_length_le (s t : MulTouch) : (gesture s t).length ≤ 1 := by
  unfold gesture
  split
  · exact Nat.zero_le 1
  · exact Nat.le_refl 1

/-- Nothing follows on a mode that is over, and it has no gesture at the end of the touch. -/
theorem gestures_of_over (events : List MulEvent) {s : MulTouch} (h : Started s)
    (hover : isOver s.touchpad.touchmode = true) : s.gestures singlefinger w inertia events = [] := by
  induction events generalizing s with
  | nil =>
    have hend : s.driver.endMode w inertia = s.driver := by
      have hmode : s.driver.touchpad.touchmode = s.touchpad.touchmode := rfl
      unfold TapDriver.endMode
      obtain hm | hm | hm | hm | hm | hm := over_cases hover <;> rw [hmode, hm]
    refine gesture_eq_nil ?_
    show (s.driver.endMode w inertia).touchpad.log = s.log
    rw [hend]
    rfl
  | cons e events ih =>
    have hrest := ih (started_handle singlefinger e h) (over_handle singlefinger e h hover)
    cases e with
    | touched fid =>
      have hlog : (s.handle singlefinger (.touched fid)).log = s.log := by
        show (s.Process_multiFingers_touch singlefinger fid).log = s.log
        rw [processed_of_over singlefinger fid h hover]
        rfl
      show gesture s _ ++ gestures singlefinger w inertia events _ = []
      rw [gesture_eq_nil hlog, hrest]
      rfl
    | _ => exact hrest

theorem gestures_of_started (events : List MulEvent) {s : MulTouch} (h : Started s) :
    (s.gestures singlefinger w inertia events).length ≤ 1 := by
  induction events generalizing s with
  | nil => exact gesture_length_le s _
  | cons e events ih =>
    have hstarted := started_handle singlefinger e h
    have hrest := ih hstarted
    cases e with
    | touched fid =>
      show (gesture s _ ++ gestures singlefinger w inertia events _).length ≤ 1
      obtain hlog | hover := (performs_processed singlefinger fid h).sends
      · rw [show gesture s (s.handle singlefinger (.touched fid)) = [] from gesture_eq_nil hlog]
        exact hrest
      · rw [gestures_of_over singlefinger events hstarted hover, List.append_nil]
        exact gesture_length_le s _
    | _ => exact hrest

/-- A touch of three fingers and more performs at most one gesture: a press, a pinch, a toggled feature, or the swipe
or the tap at its end. Its number of fingers may change, notifications may come and timers may run down. -/
theorem gestures_length_le_one (singlefinger : Int → TapDriver → TapDriver) (w : TouchpadWorld) (inertia : Inertia)
    {s : MulTouch} {count : UInt8} (hcount : 3 ≤ count ∧ count ≤ 5) (hdrag : s.touchpad.drag.is3FDrag = false)
    (hpress : s.pressDrags 0x4 = false) (events : List MulEvent) :
    ((s.fingersChange count).gestures singlefinger w inertia events).length ≤ 1 :=
  gestures_of_started singlefinger events (started_fingersChange hcount hdrag hpress)

/-- Three fingers may swipe, and none has touched yet. -/
def threeSwipe : MulTouch :=
  { settings :=
      { mulFingDeltaX := 400, mulFingDeltaY := 150, noiseMultiTapDelta := 50, mulFingsTimeout := 0, fings3Press := 18
        fings4Press := 0, fings5Press := 0, fingPressTimeout := 900000000, hasFPresDrag := false
        fPressDragFingersNum := 0, fPressDragStartTimeOut := 0 }
    driver :=
      { taps := { (default : TapVars) with swipe3F := { left := 5, right := 6, down := 3, up := 4 } }
        touchpad := { Touchpad.init with touchpadVendor := .STD_ELAN_TECH, hwVersion := 4, swipe.has3FSwipes := true } }
    pressTime := 0, fings2Press := 0, fPressDragFingersID := 0, fings4PinchAction := 0, fings5PinchAction := 0 }

/-- They move to the left, and go on. -/
def swipeLeft : List MulEvent :=
  [.touched 0, .moved (fun i => if i < 3 then { (default : Finger) with tdx := -500, width := 4 } else default) 700 1,
    .touched 0, .touched 0, .changed 4 (by decide), .touched 0]

def swiped : List (List TouchpadSent) :=
  (threeSwipe.fingersChange 3).gestures (fun _ d => d) .silent (fun d => (d.touchpad.scroll, false)) swipeLeft

/-- There is one gesture, the swipe to the left. -/
theorem gestures_threeSwipe : swiped = [[.dispatchPS2Notification 5]] ∧ swiped.length ≤ 1 :=
  ⟨by decide +kernel, gestures_length_le_one (s := threeSwipe) _ _ _ (by decide) rfl rfl swipeLeft⟩

end MulTouch
end ApplePS2
