import ApplePS2.Touchpad.Gestures

/- The fingers: uses of the table `_fing`, virtual buttons, and the change of the number
   of fingers (`Process_fingers_change`). An index at which the table is used is noted
   before the use; the constants 0 and 1 and loops over the whole table are not.

   1. `handled_virtualButtons`, `handled_fingers_change`: what they leave alone. -/
namespace ApplePS2

def PACKET_STATUS : UInt8 := 0x00
def PACKET_ABSOLUTE : UInt8 := 0x01
def PACKET_RELATIVE : UInt8 := 0x02
def PACKET_HEAD : UInt8 := 0x03
def PACKET_TAIL : UInt8 := 0x04
def PACKET_TRACKPOINT : UInt8 := 0x08

namespace Finger

def restart (f : Finger) : Finger := { f with start_x := f.x, start_y := f.y }
def arrive (f : Finger) : Finger := { f with last_x := f.x, last_y := f.y }

/-- The finger has moved from its last position. -/
def dx (f : Finger) : Int := f.x.toNat - f.last_x.toNat
def dy (f : Finger) : Int := f.y.toNat - f.last_y.toNat

/-- The resets of a finger when their number has changed. -/
def change (place : Bool) (f : Finger) : Finger :=
  { f with
    tdx := 0, tdy := 0, sdx := 0, sdy := 0, start_x := 0, start_y := 0
    x := if place then 0 else f.x
    y := if place then 0 else f.y
    last_x := if place then 0 else f.last_x
    last_y := if place then 0 else f.last_y }

def unstarted (f : Finger) : Bool := f.start_x = 0 && f.start_y = 0

end Finger

/-- The button of two fingers, when none is set for them. -/
def Button.ofState (b : Button) : Button :=
  if b.state ≠ 0 then { b with data := b.state } else { b with state := 0x1, data := 0x1 }

namespace Touchpad

variable (G : Gestures) (w : TouchpadWorld)

def use (indices : List Int) (s : Touchpad) : Touchpad := { s with used := s.used ++ indices }

def setFinger (i : Int) (f : Finger) (s : Touchpad) : Touchpad :=
  { s with fing := Function.update s.fing i f, used := s.used ++ [i] }

def modifyFinger (i : Int) (g : Finger → Finger) (s : Touchpad) : Touchpad := s.setFinger i (g (s.fing i))

/-- `SYN_CAP_ADV_GESTURE(_synTPad.ext_cap_0c) || SYN_CAP_IMAGE_SENSOR(_synTPad.ext_cap_0c)` -/
def tracksFingers (s : Touchpad) : Bool :=
  SYN_CAP_ADV_GESTURE s.synTPad.ext_cap_0c || SYN_CAP_IMAGE_SENSOR s.synTPad.ext_cap_0c

def IsFingerOnButtonArea (y : UInt16) (s : Touchpad) : Bool :=
  (y.toNat : Int) > s.ymax.toNat - s.button.clickPadVBtnArea.toNat

/-! Virtual buttons. -/

def virtualPressed (p : Packet) (packetType : UInt8) (s : Touchpad) : Bool :=
  match s.touchpadVendor with
  | .STD_FOCAL_TECH => if packetType = PACKET_ABSOLUTE then (p 0 >>> 4) &&& 1 ≠ 0 else p 0 >>> 7 ≠ 0
  | .STD_SYNAPTICS => (p 0 ^^^ p 3) &&& 0x01 ≠ 0
  | .STD_ELAN_TECH => p 0 &&& 0x01 ≠ 0
  | .STD_MOUSE => false

/-- "Dispatch 1f click": by the place of the finger. -/
def virtualButton1F (x : UInt16) (s : Touchpad) : Button :=
  if s.button.isFingOnBtnArea && s.button.clickPadHasVButtons then
    -- `(UInt32)((_xmax - _xmin) * 0.13)`
    let middleButtonArea : UInt32 :=
      if s.button.enableMiddle then .ofInt (((s.xmax.toNat : Int) - s.xmin.toNat) * 13 / 100) else 0
    if x.toUInt32 ≤ s.xcenter.toUInt32 - middleButtonArea then { s.button with data := 0x1 }
    else if x.toUInt32 > s.xcenter.toUInt32 + middleButtonArea then { s.button with data := 0x2, rightClick := true }
    else { s.button with data := 0x4 }
  else { s.button with data := 0x1 }

def bothOnBtnArea (s : Touchpad) : Bool := s.IsFingerOnButtonArea (s.fing 0).y && s.IsFingerOnButtonArea (s.fing 1).y
def noneOnBtnArea (s : Touchpad) : Bool := !s.IsFingerOnButtonArea (s.fing 0).y && !s.IsFingerOnButtonArea (s.fing 1).y

/-- "Dispatch 2f click" -/
def virtualButton2F (s : Touchpad) : Button :=
  let b := { s.button with is2FClick := true }
  -- Skip if its in Drag mode (triggered by first finger)
  if b.state = 0x1 then b
  else if b.clickPadHasVButtons && s.bothOnBtnArea then
    { (if b.enableMiddle then { b with data := 0x4 } else b.ofState) with isFingOnBtnArea := true }
  else if !b.clickPadHasVButtons || s.noneOnBtnArea then
    let click := s.fingPress.fings2Click
    { (if click ≠ 0 then { b with data := click, rightClick := click = 0x2 || b.rightClick } else b.ofState) with
      isFingOnBtnArea := false }
  else { b with data := 0x1, is2FClick := false, isFingOnBtnArea := b.clickPad2FMove }

/-- "Only one finger is inside button area in 2F." -/
def oneOnBtnArea (s : Touchpad) : Bool :=
  s.button.state ≠ 0x1 && s.button.clickPadHasVButtons && !s.bothOnBtnArea && !s.noneOnBtnArea

/-- What follows when a button is detected. -/
def virtualDispatch (s : Touchpad) : Touchpad :=
  let s := (s.when s.pContinuousMove StopPointerEnhanceTimer).releaseAppSwitch
  -- Skip for 2f middle button and no button
  if s.button.is2FClick && (s.button.data = 0x4 || s.button.data = 0) then s
  else { s with button.state := s.button.data }.dispatchRelativePointerPosition 0 0 s.button.data

def virtualRelease (s : Touchpad) : Touchpad :=
  if s.button.triggered || s.button.rightClick then
    { s |> dispatchRelativePointerPosition 0 0 s.button.data |> dispatchRelativePointerPosition 0 0 0 with
      button := { s.button with state := 0, data := 0, is2FClick := false, triggered := false, rightClick := false }
      drag := clearDrag s.drag, fingPress.holdTime := 0 }
  else { s with button.data := 0 }

def virtualClick1F (fid : UInt8) (s : Touchpad) : Touchpad :=
  -- Stop further processing
  if s.button.data ≠ 0 then { s with touchmode := .MODE_BUTTONS }
  else
    { s.use [fid.toNat] with
      touchmode := .MODE_BUTTONS, button := s.virtualButton1F (s.fing fid.toNat).x }.virtualDispatch

def virtualClick2F (s : Touchpad) : Touchpad :=
  { s with
    touchmode := .MODE_BUTTONS, button := s.virtualButton2F
    packetsCount := if s.oneOnBtnArea && s.packetsCount > 1 then 0 else s.packetsCount }.virtualDispatch

/-- The finger is an `UInt8`. -/
def Process_ClickPad_Virtual_Buttons (p : Packet) (packetType : UInt8) (fid : UInt8) (fCount : UInt8)
    (s : Touchpad) : Touchpad :=
  if s.button.disableClicks then s
  else if s.virtualPressed p packetType then
    let s := { s with
      rotate.isRotateGesture := false, rotate.isRotateMode := false, button.triggered := true }
    if fCount = 1 then s.virtualClick1F fid
    else if fCount = 2 then s.virtualClick2F
    else s.virtualDispatch
  else s.virtualRelease

/-! The change of the number of fingers. -/

/-- "Update slots" -/
def updateSlots (s : Touchpad) : Touchpad :=
  if s.touchpadVendor = .STD_SYNAPTICS && s.tracksFingers then
    if s.synTPad.w = 0 then { s with pid := 0, sid := 1 }
    else if s.synTPad.w = 1 then { s with pid := 0, sid := 2 }
    else if 4 ≤ s.synTPad.w && s.synTPad.w ≤ 15 then { s with pid := 0, sid := -1 }
    -- 4F and 5f updated by finger information packet
    else s
  else s

def StopScrollEnhanceTimer (s : Touchpad) : Touchpad :=
  { s with
    scroll.inertiaDeltaX := 0, scroll.inertiaDeltaY := 0, doTimerJob := false
    scroll.doAuto := false, scroll.doCont := false }

/-- "Cancel active timers" -/
def cancelTimers (s : Touchpad) : Touchpad :=
  s.when (s.doTimerJob || s.scroll.doCont || s.scroll.inertiaDeltaX ≠ 0 || s.scroll.inertiaDeltaY ≠ 0)
      StopScrollEnhanceTimer |>
    fun s => s.when s.pContinuousMove StopPointerEnhanceTimer

/-- "Clear Tap/hold drag if fingers switched to greater than 2 or 0." -/
def clearHeldDrag (s : Touchpad) : Touchpad :=
  let reads := !s.drag.isTapDrag && s.drag.isHoldDrag
  let f := s.fing s.pid
  let held := s.drag.isTapDrag || reads && (f.tdx < s.rotate.maxCFDelta.toNat || f.tdy < s.rotate.maxCFDelta.toNat)
  let s := s.when reads (use [s.pid])
  if held && (s.cFingers > 2 && !s.drag.is3FDrag || s.cFingers = 0) then
    { s.dispatchRelativePointerPosition 0 0 0 with button.data := 0, button.state := 0, drag := clearDrag s.drag }
  else s

/-- Where the resets of the fingers start. -/
def clearedFrom (s : Touchpad) : Int :=
  if s.drag.is3FDrag then 0
  else if s.lastFingers > s.cFingers then s.cFingers.toNat
  else if s.lastFingers < s.cFingers then s.lastFingers.toNat
  else 0

/-- The position is kept for the first and second finger, for quick transitions. -/
def clearsPlace (i : Int) (s : Touchpad) : Bool :=
  s.packetsCount > 0 && i ≠ s.sid && i ≠ s.pid || s.lastFingers = 0 || s.cFingers > 2

def clearsFingers (s : Touchpad) : Bool :=
  s.lastFingers = 0 || s.lastFingers > s.cFingers || s.lastFingers < s.cFingers && s.packetsCount > 3

def clearFingers (s : Touchpad) : Touchpad :=
  s.when s.clearsFingers fun s =>
    { s with
      fing := fun i =>
        if s.clearedFrom ≤ i ∧ i < STD_MAX_FINGERS then (s.fing i).change (s.clearsPlace i) else s.fing i }

def isTapMode (m : TouchPadModes) : Bool :=
  m = .MODE_1_FING_TAP || m = .MODE_2_FING_TAP || m = .MODE_3_FING_TAP || m = .MODE_4_FING_TAP ||
    m = .MODE_5_FING_TAP

/-- "Clear Tap mode from transitions", and the mode of a rotation. -/
def clearedMode (s : Touchpad) : TouchPadModes :=
  if s.lastFingers ≤ s.cFingers && s.cFingers > 1 && isTapMode s.touchmode then .MODE_IDLE
  else if s.cFingers = 2 && s.rotate.isRotateGesture && s.lastFingers ≠ 2 then .MODE_IDLE
  else if 3 ≤ s.cFingers && s.cFingers ≤ 5 && s.rotate.isRotateGesture then .MODE_IDLE
  else s.touchmode

def clearedSwipe (s : Touchpad) : Swipe :=
  if s.cFingers ≠ 1 && s.cFingers ≠ 2 && s.swipe.isEdgeGesture then
    { s.swipe with isEdgeGesture := false, direction := 0 }
  else s.swipe

def clearedRotate (s : Touchpad) : Rotate :=
  if s.cFingers = 2 && s.lastFingers = 1 && s.gestureTime > s.rotate.minCFingIdleTime then
    { s.rotate with isRotateMode := true }
  else if 3 ≤ s.cFingers && s.cFingers ≤ 5 && s.rotate.isRotateGesture then
    { s.rotate with isRotateGesture := false, isRotateMode := false }
  else s.rotate

def clearModes (s : Touchpad) : Touchpad :=
  { s with touchmode := s.clearedMode, swipe := s.clearedSwipe, rotate := s.clearedRotate }

def continueTouch (s : Touchpad) : Touchpad := { s with synTPad.touch_ended := false }

/-- "Ignore this for physical buttons (_cFingers == 0)" -/
def startTouch (s : Touchpad) : Touchpad :=
  s.when (s.cFingers ≠ 0) fun s => { s with gestureTime := 0, packetsCount := 0, fingPress.holdTime := 0 }

def Process_fingers_change (s : Touchpad) : Touchpad :=
  s |> updateSlots |> cancelTimers |> clearHeldDrag |> continueTouch |> clearFingers |> clearModes |> startTouch

/-- What is stored of a position that was computed as an `int`. -/
theorem toNat_ofInt (n : Int) : ((UInt16.ofInt n).toNat : Int) = n % 65536 := by
  have hnonneg : 0 ≤ n % 2 ^ 16 := Int.emod_nonneg n (by decide)
  have hlt : n % 2 ^ 16 < 2 ^ 16 := Int.emod_lt_of_pos n (by decide)
  show (((UInt16.ofNat (n % 2 ^ 16).toNat).toNat : Nat) : Int) = _
  rw [UInt16.toNat_ofNat']
  omega

/-! What they leave alone. -/

theorem handled_use (indices : List Int) (s : Touchpad) : Handled s (s.use indices) := .same rfl rfl

theorem handled_modifyFinger (i : Int) (g : Finger → Finger) (s : Touchpad) : Handled s (s.modifyFinger i g) :=
  .same rfl rfl

theorem handled_pointer (dx dy : Int) (b : UInt8) (s : Touchpad) :
    Handled s (s.dispatchRelativePointerPosition dx dy b) := handled_send rfl s

theorem handled_stopPointer (s : Touchpad) : Handled s (s.when s.pContinuousMove StopPointerEnhanceTimer) :=
  .when _ (.same rfl rfl)

theorem handled_releaseAppSwitch (s : Touchpad) : Handled s s.releaseAppSwitch := by
  unfold releaseAppSwitch
  split
  · exact .sends rfl rfl rfl
  · exact .refl s

theorem handled_release (data : UInt8) (s : Touchpad) :
    Handled s (s.dispatchRelativePointerPosition 0 0 data |>.dispatchRelativePointerPosition 0 0 0) :=
  (handled_pointer _ _ _ s).trans (handled_pointer _ _ _ _)

theorem handled_Process_Physical_Buttons (p : Packet) (s : Touchpad) :
    Handled s (s.Process_Physical_Buttons p) := by
  have hrelease : ∀ data, Handled s (s.releaseTriggered data) := by
    intro data
    unfold releaseTriggered
    dsimp only
    split
    · have hpointer := handled_release data { s with button.state := 0 }
      refine .trans ?_ (handled_releaseAppSwitch _)
      exact Handled.update ⟨hpointer.outer, hpointer.log⟩ rfl rfl
    · exact .refl s
  unfold Process_Physical_Buttons pressLeft pressRight releaseButtons
  dsimp only
  repeat' split
  · exact .refl s
  · exact .same rfl rfl
  · exact .sends rfl rfl rfl
  · exact .sends rfl rfl rfl
  · exact .sends rfl rfl rfl
  · exact .sends rfl rfl rfl
  · refine .trans ?_ (.when _ (.same rfl rfl))
    exact (hrelease _).update rfl rfl

theorem handled_virtualDispatch (s : Touchpad) : Handled s s.virtualDispatch := by
  have hstop := (handled_stopPointer s).trans (handled_releaseAppSwitch _)
  unfold virtualDispatch
  dsimp only
  split
  · exact hstop
  · exact hstop.trans (.sends rfl rfl rfl)

theorem handled_virtualRelease (s : Touchpad) : Handled s s.virtualRelease := by
  unfold virtualRelease
  split
  · exact (handled_release _ s).update rfl rfl
  · exact .same rfl rfl

theorem handled_virtualClick1F (fid : UInt8) (s : Touchpad) : Handled s (s.virtualClick1F fid) := by
  unfold virtualClick1F
  split
  · exact .same rfl rfl
  · refine .trans ?_ (handled_virtualDispatch _)
    exact .same rfl rfl

theorem handled_virtualClick2F (s : Touchpad) : Handled s s.virtualClick2F := by
  refine .trans ?_ (handled_virtualDispatch _)
  exact .same rfl rfl

theorem handled_virtualButtons (p : Packet) (packetType fid fCount : UInt8) (s : Touchpad) :
    Handled s (s.Process_ClickPad_Virtual_Buttons p packetType fid fCount) := by
  have hpressed : Handled s { s with
      rotate.isRotateGesture := false, rotate.isRotateMode := false, button.triggered := true } := .same rfl rfl
  unfold Process_ClickPad_Virtual_Buttons
  split
  · exact .refl s
  split
  · split
    · exact hpressed.trans (handled_virtualClick1F fid _)
    · split
      · exact hpressed.trans (handled_virtualClick2F _)
      · exact hpressed.trans (handled_virtualDispatch _)
  · exact handled_virtualRelease s

theorem handled_clearHeldDrag (s : Touchpad) : Handled s s.clearHeldDrag := by
  have huse : Handled s (s.when (!s.drag.isTapDrag && s.drag.isHoldDrag) (use [s.pid])) :=
    .when _ (handled_use _ s)
  unfold clearHeldDrag
  dsimp only
  split
  · exact (huse.trans (handled_pointer 0 0 0 _)).update rfl rfl
  · exact huse

theorem handled_fingers_change (s : Touchpad) : Handled s s.Process_fingers_change := by
  have hslots : Handled s s.updateSlots := by
    unfold updateSlots
    repeat' split
    all_goals exact .same rfl rfl
  have htimers : ∀ s : Touchpad, Handled s s.cancelTimers := fun s =>
    .trans (.when _ (.same rfl rfl)) (handled_stopPointer _)
  have hcontinue : ∀ s : Touchpad, Handled s s.continueTouch := fun s => .same rfl rfl
  have hclear : ∀ s : Touchpad, Handled s s.clearFingers := fun s => .when _ (.same rfl rfl)
  have hmodes : ∀ s : Touchpad, Handled s s.clearModes := fun s => .same rfl rfl
  have hstart : ∀ s : Touchpad, Handled s s.startTouch := fun s => .when _ (.same rfl rfl)
  have hdrag := (hslots.trans (htimers _)).trans (handled_clearHeldDrag _)
  exact (((hdrag.trans (hcontinue _)).trans (hclear _)).trans (hmodes _)).trans (hstart _)

end Touchpad
end ApplePS2
