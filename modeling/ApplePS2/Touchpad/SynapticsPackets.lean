import ApplePS2.Touchpad.ElanPackets

/- The packets of Synaptics' touchpads (`Synaptics_report_absolute`,
   `Process_passthrough_events_Synaptics`).

   1. `linked_report_absolute`: what they leave alone.
   2. `counted_report_absolute`: no more than five fingers are counted, if the packet does
      not tell more of them. -/
namespace ApplePS2

def SYN_MODEL_NEWABS (m : UInt64) : Bool := m &&& 0x80 ≠ 0
def SYN_CAP_MIDDLE_BUTTON (c : UInt64) : Bool := c &&& 0x40000 ≠ 0
def SYN_CAP_PASS_THROUGH (c : UInt64) : Bool := c &&& 0x80 ≠ 0
def SYN_CAP_MULTIFINGER (c : UInt64) : Bool := c &&& 2 ≠ 0
def SYN_CAP_PALMDETECT (c : UInt64) : Bool := c &&& 1 ≠ 0

def SYN_SECONDARY_FINGER : UInt8 := 1
def SYN_FINGER_STATE : UInt8 := 2

def XMAX : Int := 6143
def YMAX : Int := 6143
def XMIN_NOMINAL : Int := 1472
def X_MAX_POSITIVE : Int := 8176
def Y_MAX_POSITIVE : Int := 8176
def ABS_POS_BITS : Nat := 13
def MAX_NOISE_DELTA : Nat := 120

/-- "Convert wrap-around values to negative." -/
def wrapPosition (positive max value : Int) : Int :=
  if value > positive then value - 2 ^ ABS_POS_BITS else if value = positive then max else value

/-- The middle button's scroll after both loops over it. The second one compares with -4
in unsigned arithmetic; it does not end when the value is a multiple of 4. -/
def scrollRest (m : UInt32) : UInt32 := if (m + m) % 4 = 0 then 0 else 0 - 4 + (m + m) % 4

namespace Touchpad

variable (G : Gestures) (w : TouchpadWorld)

/-- The primary finger's position and pressure. -/
structure Primary where
  x : Int
  y : Int
  pressure : Nat

/-! Extended packets. -/

def newW (p : Packet) : UInt8 :=
  ((p 0 &&& (0x30 : UInt8)) >>> 2) ||| ((p 0 &&& (0x04 : UInt8)) >>> 1) ||| ((p 3 &&& 0x04) >>> 2)

def secondaryX (p : Packet) : UInt32 := (((p 4 &&& 0x0f).toUInt32 <<< 8) ||| (p 1).toUInt32) <<< 1

def secondaryY (p : Packet) (s : Touchpad) : UInt32 :=
  s.ymax.toUInt32 + s.ymin.toUInt32 - (((p 4 &&& 0xf0).toUInt32 <<< 4) ||| (p 2).toUInt32) <<< 1

def secondaryPressure (p : Packet) : UInt8 := ((p 3 &&& 0x30) ||| (p 5 &&& 0x0f)) <<< 1

def setSecondary (x y : UInt32) (pressure : UInt8) (s : Touchpad) : Touchpad :=
  { s with synTPad.secondary_x := x, synTPad.secondary_y := y, synTPad.secondary_pressure := pressure }

/-- Sometimes invalid packets are received at the end of the touch, and are ignored. -/
def secondaryFinger (p : Packet) (s : Touchpad) : Touchpad :=
  if (secondaryX p).toNat < XMIN_NOMINAL / 2 && secondaryPressure p > 0 then
    (s.setSecondary 0 0 0).when s.pContinuousMove StopPointerEnhanceTimer
  else { s.setSecondary (secondaryX p) (secondaryY p s) (secondaryPressure p) with synTPad.secondary_wait := true }

def changeFingers (count : UInt8) (s : Touchpad) : Touchpad :=
  if s.cFingers ≠ count then (s.setFingers count).Process_fingers_change else s

/-- The slots are the packet's bytes, as `SInt8`. -/
def stateSlots (p : Packet) (s : Touchpad) : Touchpad :=
  { s.setSecondary 0 0 0 with pid := (p 2).toInt8.toInt, sid := (p 4).toInt8.toInt }

/-- "Notifies if fingers went 3->4->5 and 4->5->3" -/
def fingerState (p : Packet) (s : Touchpad) : Touchpad := (s.stateSlots p).changeFingers (p 1)

def extendedPacket (p : Packet) (s : Touchpad) : Touchpad :=
  let ext_packet_type := (p 5 &&& 0x30) >>> 4
  if ext_packet_type = SYN_SECONDARY_FINGER then s.secondaryFinger p
  else if ext_packet_type = SYN_FINGER_STATE then s.fingerState p
  else s.setSecondary 0 0 0

/-! The primary finger. -/

def primaryNew (p : Packet) (s : Touchpad) : Primary :=
  { x := (((p 3 &&& 0x10).toUInt32 <<< 8) ||| ((p 1 &&& 0x0f).toUInt32 <<< 8) ||| (p 4).toUInt32).toNat
    y := s.ymax.toNat + s.ymin.toNat -
      (((p 3 &&& 0x20).toUInt32 <<< 7) ||| ((p 1 &&& 0xf0).toUInt32 <<< 4) ||| (p 5).toUInt32).toNat
    pressure := (p 2).toNat }

def oldW (p : Packet) : UInt8 := ((p 1 &&& (0x80 : UInt8)) >>> 4) ||| ((p 0 &&& 0x04) >>> 1)

def primaryOld (p : Packet) (s : Touchpad) : Primary :=
  { x := (((p 1 &&& 0x1f).toUInt32 <<< 8) ||| (p 2).toUInt32).toNat
    y := s.ymax.toNat + s.ymin.toNat - (((p 4 &&& 0x1f).toUInt32 <<< 8) ||| (p 5).toUInt32).toNat
    pressure := (((p 0 &&& (0x30 : UInt8)) <<< 2) ||| (p 3 &&& 0x3F)).toNat }

/-- "Sometimes invalid packets are received with wrong values at the end of the touch so ignore them." -/
def invalidPrimary (s : Touchpad) : Touchpad :=
  s.when s.pContinuousMove StopPointerEnhanceTimer
    |> fun s => s.when (s.touchmode ≠ .MODE_IDLE) (Process_touch_end G w)
    |> fun s => { s with synTPad.touch_ended := true }

/-- The middle button's scroll. -/
def middleButton (p : Packet) (s : Touchpad) : Touchpad :=
  if !s.button.isClickPad && SYN_CAP_MIDDLE_BUTTON s.synTPad.capabilities && s.synTPad.w = 2 then
    { s with synTPad.m_scroll := .ofInt (p 1).toInt8.toInt }
  else s

def primaryWrapped (a : Primary) : Primary :=
  { a with x := wrapPosition X_MAX_POSITIVE XMAX a.x, y := wrapPosition Y_MAX_POSITIVE YMAX a.y }

/-- The stick, and its buttons. -/
def Process_passthrough_events_Synaptics (p : Packet) (a : Primary) (s : Touchpad) : Touchpad :=
  let s := s.Process_Physical_Buttons p
  if p 2 ≠ 0 || p 4 ≠ 0 || p 5 ≠ 0 then
    { s with pid := 5 } |> modifyFinger 5 (Finger.place (.ofInt a.x) (.ofInt a.y)) |> singlefinger G w 5
      |> fun s => s.modifyFinger s.pid Finger.arrive
  else s

/-- The width of the only finger. -/
def widthSyn (s : Touchpad) : Touchpad :=
  if s.pid ≥ 0 then
    s.modifyFinger s.pid fun f =>
      { f with width := if SYN_CAP_PALMDETECT s.synTPad.capabilities then s.synTPad.w else 5 }
  else { s with pid := 0, sid := -1 }

def touchSyn (s : Touchpad) : Touchpad :=
  if !SYN_CAP_EXTENDED s.synTPad.capabilities then s
  -- More than 3 fingers are on touchpad so need to check
  else if s.synTPad.w = 1 && s.cFingers > 3 then s
  else if s.synTPad.w = 0 || s.synTPad.w = 1 then
    s.when (SYN_CAP_MULTIFINGER s.synTPad.capabilities) (changeFingers (s.synTPad.w + 2))
  else if 4 ≤ s.synTPad.w && s.synTPad.w ≤ 15 then (s.changeFingers 1).widthSyn
  else s

/-- The number of fingers is changed without `Process_fingers_change`. -/
def noFingersSyn (s : Touchpad) : Touchpad :=
  if s.cFingers ≠ 0 then (s.setFingers 0).when s.pContinuousMove StopPointerEnhanceTimer else s

def noTouchSyn (p : Packet) (s : Touchpad) : Touchpad :=
  let s := s.noFingersSyn
  let s := s.when (s.pid ≥ 0) (modifyFinger s.pid fun f => { f with width := 0 })
  s.when (!s.button.isClickPad && !s.button.disableClicks) (Process_Physical_Buttons p)

/-- "Clear secondary finger wait" -/
def clearWait (s : Touchpad) : Touchpad :=
  { s with synTPad.secondary_wait := s.synTPad.secondary_wait && !s.tracksFingers }

/-- "Set start and last coordinates for first packet" -/
def beginsSyn (s : Touchpad) (f : Finger) : Bool :=
  s.packetsCount = 0 &&
    (!(s.swipe.direction < 3 || s.lastFingers = 1 && s.cFingers = 2) || f.unstarted)

def reportFinger (x y : UInt16) (pressure : UInt8) (s : Touchpad) (f : Finger) : Finger :=
  let f := { f.place x y with pressure }
  if s.beginsSyn f then f.begin else f

def placePrimary (a : Primary) (s : Touchpad) : Touchpad :=
  if s.pid < 0 then s
  else if a.pressure > 0 then
    s.modifyFinger s.pid (s.reportFinger (.ofInt a.x) (.ofInt a.y) (.ofNat a.pressure))
  else s.modifyFinger s.pid fun f => { f with pressure := 0 }

def distance (a b : UInt16) : Nat := ((a.toNat : Int) - b.toNat).natAbs

/-- The first finger has left its start, and the second one has not. -/
def startsSwapped (f g : Finger) : Bool :=
  distance f.start_x f.x > MAX_NOISE_DELTA && distance g.start_x g.x < MAX_NOISE_DELTA ||
    distance f.start_y f.y > MAX_NOISE_DELTA && distance g.start_y g.y < MAX_NOISE_DELTA

/-- "assign correct start values on 1 -> 2 transition" -/
def fixStarts (s : Touchpad) : Touchpad :=
  if s.packetsCount < 2 && s.lastFingers = 1 && s.cFingers = 2 then
    let f := s.fing s.pid
    let g := s.fing s.sid
    let s := s.use [s.pid, s.sid]
    if startsSwapped f g then
      let g :=
        if distance f.start_x g.x > MAX_NOISE_DELTA || distance f.start_y g.y > MAX_NOISE_DELTA then g.restart
        else { g with start_x := f.start_x, start_y := f.start_y }
      s.setFinger s.sid g |> modifyFinger s.pid Finger.restart
    else s
  else s

def placeSecondary (s : Touchpad) : Touchpad :=
  if s.sid < 0 then s
  else if s.synTPad.secondary_pressure > 0 then
    (s.modifyFinger s.sid (s.reportFinger s.synTPad.secondary_x.toUInt16 s.synTPad.secondary_y.toUInt16
      s.synTPad.secondary_pressure)).fixStarts
  else s.modifyFinger s.sid fun f => { f with pressure := 0 }

/-! Palms, and the touch. -/

/-- No finger, and no pressure. -/
def isRelease (a : Primary) (s : Touchpad) : Bool := s.cFingers = 0 && a.pressure = 0

def isPalmSyn (a : Primary) (s : Touchpad) : Bool :=
  let f := s.fing 0
  s.palm.detectionEnabled &&
      (s.cFingers = 1 && f.width > s.palm.minWidth && f.pressure > s.palm.minPressure ||
        s.cFingers < 3 && f.pressure > s.palm.minPressure || s.palm.detected && !s.isRelease a) ||
    s.kbEvent.showPressWidth || s.cFingers = 1 && s.lastFingers > 1 && f.width > s.palm.minWidth

def isTouchEndSyn (a : Primary) (s : Touchpad) : Bool :=
  !s.synTPad.touch_ended && s.isRelease a && s.button.data = 0 && (s.pid ≥ 0 && s.pid < 5 || s.sid ≥ 0)

/-- "Trigger click drag" and the virtual buttons of one finger. -/
def buttonsSyn1F (p : Packet) (s : Touchpad) : Touchpad :=
  if !s.button.isClickPad && !s.button.disableClicks then s.Process_Physical_Buttons p
  else if s.packetsCount > 0 then
    let s := { s.use [s.pid] with button.isFingOnBtnArea := s.IsFingerOnButtonArea (s.fing s.pid).y }
    s.Process_ClickPad_Virtual_Buttons p 0 (.ofInt s.pid) 1 |>
      fun s => s.when (s.button.triggered && !s.button.isFingOnBtnArea) fun s =>
        { s with drag.isHoldDrag := true, drag.isDragging := true, fingPress.holdTime := 2000000001 }
  else s

def arrivePid (s : Touchpad) : Touchpad := s.modifyFinger s.pid Finger.arrive

def touchSyn1F (p : Packet) (s : Touchpad) : Touchpad :=
  let s := s.buttonsSyn1F p
  (s.singlefinger G w s.pid).arrivePid

def beginSyn2F (s : Touchpad) : Touchpad :=
  if s.packetsCount ≤ 1 then
    let s := s.checkEdgeSwipe G w
    s.when (!s.swipe.isEdgeGesture) (bothFingers Finger.begin)
  else s

def clickPadSyn2F (p : Packet) (s : Touchpad) : Touchpad :=
  let f := s.fing s.pid
  let g := s.fing s.sid
  (s.use [s.pid, s.sid]).gesture G w (.Process_ClickPad_2F p PACKET_ABSOLUTE f.dx f.dy g.dx g.dy)

def touchSyn2F (p : Packet) (s : Touchpad) : Touchpad :=
  let s := s.beginSyn2F G w
  let s := if s.button.isClickPad && s.packetsCount > 1 then s.clickPadSyn2F G w p else s.twofingers G w
  s.bothFingers Finger.arrive

/-- One of the two reported fingers of more. -/
def touchSynMulF (i : Int) (s : Touchpad) : Touchpad :=
  let f := s.fing i
  (s.modifyFinger i (Finger.advance f.dx f.dy)).gesture G w (.Process_multiFingers_touch f.dx f.dy i)

def firstSynMulF (s : Touchpad) : Touchpad :=
  if s.pid ≥ 0 then (s.touchSynMulF G w s.pid).arrivePid else s

def packetBack (s : Touchpad) : Touchpad := { s with packetsCount := s.packetsCount - 1 }

def secondSynMulF (p : Packet) (s : Touchpad) : Touchpad :=
  if s.pid ≥ 0 && s.sid ≥ 0 then
    let s := (s.when s.button.isClickPad
      (Process_ClickPad_Virtual_Buttons p PACKET_ABSOLUTE 0 s.cFingers)).packetBack
    (s.touchSynMulF G w s.sid) |> fun s => s.modifyFinger s.sid Finger.arrive
  else s

def processTouchSyn (p : Packet) (a : Primary) (s : Touchpad) : Touchpad :=
  if s.isTouchEndSyn a then s.Process_touch_end G w
  else if s.cFingers = 1 then s.touchSyn1F G w p
  else if s.cFingers = 2 then s.touchSyn2F G w p
  else if 3 ≤ s.cFingers && s.cFingers ≤ 5 then s.firstSynMulF G w |> secondSynMulF G w p
  else s

/-- "Ignore palm packets received after multi touch gesture" -/
def isLatePalm (a : Primary) (s : Touchpad) : Bool := s.isPalmSyn a && s.cFingers = 1 && s.lastFingers > 1

def reportTouch (p : Packet) (a : Primary) (s : Touchpad) : Touchpad :=
  if s.isLatePalm a then s
  else if s.isPalmSyn a && !s.kbEvent.showPressWidth then s.palmFound
  else if s.isAccidental && !s.isRelease a then s.accidentalMode
  else s |> countGestureTime (w.uptime 1) |> processTouchSyn G w p a

/-- "Get the primary finger width and current fingers count." -/
def fingersSyn (p : Packet) (a : Primary) (s : Touchpad) : Touchpad :=
  if a.pressure > 0 then s.touchSyn else s.noTouchSyn p

def primaryPacket (p : Packet) (a : Primary) (s : Touchpad) : Touchpad :=
  if s.synTPad.m_scroll ≠ 0 then { s with synTPad.m_scroll := scrollRest s.synTPad.m_scroll }
  else if SYN_CAP_PASS_THROUGH s.synTPad.capabilities && SYN_CAP_EXT_BUTTONS_STICK s.synTPad.ext_cap_10 &&
      isStickPacket p then
    s.Process_passthrough_events_Synaptics G w p a
  else s |> fingersSyn p a |> clearWait |> placePrimary a |> placeSecondary |> reportTouch G w p a

def setW (w : UInt8) (s : Touchpad) : Touchpad := { s with synTPad.w := w }

def reportNew (p : Packet) (s : Touchpad) : Touchpad :=
  let a := s.primaryNew p
  if a.x < XMIN_NOMINAL / 2 && a.pressure > 0 then s.invalidPrimary G w
  else (s.middleButton p).primaryPacket G w p (primaryWrapped a)

def reportOld (p : Packet) (s : Touchpad) : Touchpad :=
  let a := s.primaryOld p
  if a.x < XMIN_NOMINAL && a.pressure > 0 then s.invalidPrimary G w
  else s.primaryPacket G w p (primaryWrapped a)

/-- Extended packets track several fingers. -/
def isExtended (s : Touchpad) : Bool := s.tracksFingers && s.synTPad.w = 2

def Synaptics_report_absolute (p : Packet) (s : Touchpad) : Touchpad :=
  if SYN_MODEL_NEWABS s.synTPad.model_id then
    let s := s.setW (newW p)
    if s.isExtended then s.extendedPacket p else s.reportNew G w p
  else (s.setW (oldW p)).reportOld G w p

/-! What they leave alone. -/

variable {G w}

theorem counted_changeFingers {count : UInt8} (hcount : count ≤ 5) (s : Touchpad) :
    Counted s (s.changeFingers count) := by
  unfold changeFingers
  split
  · exact (counted_setFingers hcount s).trans (handled_fingers_change _).counted
  · exact .refl s

theorem linked_changeFingers (count : UInt8) (s : Touchpad) : Linked s (s.changeFingers count) := by
  have hset : Linked s (s.setFingers count) := .same rfl rfl
  unfold changeFingers
  split
  · exact hset.trans (handled_fingers_change _).linked
  · exact .refl s

/-- The packet tells the number of fingers and their slots. -/
def isFingerState (p : Packet) : Bool := (p 5 &&& 0x30) >>> 4 = SYN_FINGER_STATE

theorem handled_secondaryFinger (p : Packet) (s : Touchpad) : Handled s (s.secondaryFinger p) := by
  have hzero : Handled s (s.setSecondary 0 0 0) := .same rfl rfl
  unfold secondaryFinger
  split
  · exact hzero.trans (.when _ (.same rfl rfl))
  · exact .same rfl rfl

/-- What is done with an extended packet that does not tell more than five fingers. -/
theorem counted_extendedPacket {p : Packet} (h : isFingerState p = true → p 1 ≤ 5) (s : Touchpad) :
    Counted s (s.extendedPacket p) := by
  have hslots : Handled s (s.stateSlots p) := .same rfl rfl
  have hzero : Handled s (s.setSecondary 0 0 0) := .same rfl rfl
  unfold extendedPacket
  dsimp only
  split
  · exact (handled_secondaryFinger p s).counted
  · split
    · next hstate => exact hslots.counted.trans (counted_changeFingers (h (decide_eq_true hstate)) _)
    · exact hzero.counted

theorem linked_extendedPacket (p : Packet) (s : Touchpad) : Linked s (s.extendedPacket p) := by
  have hslots : Handled s (s.stateSlots p) := .same rfl rfl
  have hzero : Handled s (s.setSecondary 0 0 0) := .same rfl rfl
  unfold extendedPacket
  dsimp only
  repeat' split
  · exact (handled_secondaryFinger p s).linked
  · exact hslots.linked.trans (linked_changeFingers (p 1) _)
  · exact hzero.linked

theorem handled_invalidPrimary (s : Touchpad) : Handled s (s.invalidPrimary G w) := by
  have hend : ∀ s : Touchpad, Handled s (s.when (s.touchmode ≠ .MODE_IDLE) (Process_touch_end G w)) := fun s =>
    .when _ (handled_touch_end s)
  exact ((handled_stopPointer s).trans (hend _)).update rfl rfl

theorem handled_passthrough (p : Packet) (a : Primary) (s : Touchpad) :
    Handled s (s.Process_passthrough_events_Synaptics G w p a) := by
  have hbuttons := handled_Process_Physical_Buttons p s
  have hpid : ∀ s : Touchpad, Handled s { s with pid := 5 } := fun _ => .same rfl rfl
  unfold Process_passthrough_events_Synaptics
  dsimp only
  split
  · exact (((hbuttons.trans (hpid _)).trans (handled_modifyFinger _ _ _)).trans (handled_singlefinger _ _)).trans
      (handled_modifyFinger _ _ _)
  · exact hbuttons

theorem counted_fingersSyn (p : Packet) (a : Primary) (s : Touchpad) : Counted s (s.fingersSyn p a) := by
  have hwidth : ∀ s : Touchpad, Handled s s.widthSyn := by
    intro s
    unfold widthSyn
    split
    · exact handled_modifyFinger _ _ s
    · exact .same rfl rfl
  have htouch : Counted s s.touchSyn := by
    unfold touchSyn
    split
    · exact .refl s
    split
    · exact .refl s
    split
    · next hw =>
      have hcount : s.synTPad.w + 2 ≤ 5 := by
        have hw' : s.synTPad.w = 0 ∨ s.synTPad.w = 1 := by simpa using hw
        rcases hw' with hw' | hw' <;> rw [hw'] <;> decide
      exact .when _ (counted_changeFingers hcount s)
    · split
      · exact (counted_changeFingers (by decide) s).trans (hwidth _).counted
      · exact .refl s
  have hnone : Counted s s.noFingersSyn := by
    unfold noFingersSyn
    split
    · exact (counted_setFingers (by decide) s).trans (Handled.counted (.when _ (.same rfl rfl)))
    · exact .refl s
  have hnoTouch : Counted s (s.noTouchSyn p) := by
    refine hnone.trans (Handled.counted ?_)
    exact (Handled.when _ (handled_modifyFinger _ _ _)).trans (.when _ (handled_Process_Physical_Buttons p _))
  unfold fingersSyn
  split
  · exact htouch
  · exact hnoTouch

theorem handled_placePrimary (a : Primary) (s : Touchpad) : Handled s (s.placePrimary a) := by
  unfold placePrimary
  repeat' split
  · exact .refl s
  · exact handled_modifyFinger _ _ s
  · exact handled_modifyFinger _ _ s

theorem handled_fixStarts (s : Touchpad) : Handled s s.fixStarts := by
  unfold fixStarts
  dsimp only
  split
  · split
    · exact ((handled_use _ s).trans (handled_setFinger _ _ _)).trans (handled_modifyFinger _ _ _)
    · exact handled_use _ s
  · exact .refl s

theorem handled_placeSecondary (s : Touchpad) : Handled s s.placeSecondary := by
  unfold placeSecondary
  repeat' split
  · exact .refl s
  · exact (handled_modifyFinger _ _ s).trans (handled_fixStarts _)
  · exact handled_modifyFinger _ _ s

theorem handled_touchSyn1F (p : Packet) (s : Touchpad) : Handled s (s.touchSyn1F G w p) := by
  have hbuttons : Handled s (s.buttonsSyn1F p) := by
    unfold buttonsSyn1F
    repeat' split
    · exact handled_Process_Physical_Buttons p s
    · refine .trans (.trans ?_ (handled_virtualButtons _ _ _ _ _)) (.when _ (.same rfl rfl))
      exact .same rfl rfl
    · exact .refl s
  exact (hbuttons.trans (handled_singlefinger _ _)).trans (handled_modifyFinger _ _ _)

theorem handled_touchSyn2F (p : Packet) (s : Touchpad) : Handled s (s.touchSyn2F G w p) := by
  have hbegin : Handled s (s.beginSyn2F G w) := by
    unfold beginSyn2F
    split
    · exact (handled_checkEdgeSwipe s).trans (.when _ (handled_bothFingers _ _))
    · exact .refl s
  unfold touchSyn2F
  dsimp only
  split
  · exact ((hbegin.trans (handled_use _ _)).trans (handled_gesture _ _)).trans (handled_bothFingers _ _)
  · exact (hbegin.trans (handled_twofingers _)).trans (handled_bothFingers _ _)

theorem handled_touchSynMulF (i : Int) (s : Touchpad) : Handled s (s.touchSynMulF G w i) :=
  (handled_modifyFinger _ _ s).trans (handled_gesture _ _)

theorem handled_processTouchSyn (p : Packet) (a : Primary) (s : Touchpad) : Handled s (s.processTouchSyn G w p a) := by
  have hfirst : Handled s (s.firstSynMulF G w) := by
    unfold firstSynMulF
    split
    · exact (handled_touchSynMulF _ s).trans (handled_modifyFinger _ _ _)
    · exact .refl s
  have hsecond : ∀ s : Touchpad, Handled s (s.secondSynMulF G w p) := by
    intro s
    have hbuttons : Handled s (s.when s.button.isClickPad
        (Process_ClickPad_Virtual_Buttons p PACKET_ABSOLUTE 0 s.cFingers)).packetBack :=
      (Handled.when _ (handled_virtualButtons _ _ _ _ s)).update rfl rfl
    unfold secondSynMulF
    dsimp only
    split
    · exact (hbuttons.trans (handled_touchSynMulF _ _)).trans (handled_modifyFinger _ _ _)
    · exact .refl s
  unfold processTouchSyn
  repeat' split
  · exact handled_touch_end s
  · exact handled_touchSyn1F p s
  · exact handled_touchSyn2F p s
  · exact hfirst.trans (hsecond _)
  · exact .refl s

theorem handled_reportTouch (p : Packet) (a : Primary) (s : Touchpad) : Handled s (s.reportTouch G w p a) := by
  have htime : Handled s (s.countGestureTime (w.uptime 1)) := .same rfl rfl
  unfold reportTouch
  repeat' split
  · exact .refl s
  · exact .same rfl rfl
  · exact .same rfl rfl
  · exact htime.trans (handled_processTouchSyn p a _)

theorem counted_primaryPacket (p : Packet) (a : Primary) (s : Touchpad) : Counted s (s.primaryPacket G w p a) := by
  have hscroll : ∀ m, Handled s { s with synTPad.m_scroll := m } := fun _ => .same rfl rfl
  have hwait : ∀ s : Touchpad, Handled s s.clearWait := fun _ => .same rfl rfl
  unfold primaryPacket
  repeat' split
  · exact (hscroll _).counted
  · exact (handled_passthrough p a s).counted
  · refine (counted_fingersSyn p a s).trans (Handled.counted ?_)
    exact (((hwait _).trans (handled_placePrimary a _)).trans (handled_placeSecondary _)).trans (handled_reportTouch p a _)

theorem handled_setW (v : UInt8) (s : Touchpad) : Handled s (s.setW v) := .same rfl rfl

theorem counted_reportNew (p : Packet) (s : Touchpad) : Counted s (s.reportNew G w p) := by
  have hmiddle : ∀ s : Touchpad, Handled s (s.middleButton p) := by
    intro s
    unfold middleButton
    split
    · exact .same rfl rfl
    · exact .refl s
  unfold reportNew
  dsimp only
  split
  · exact (handled_invalidPrimary s).counted
  · exact (hmiddle s).counted.trans (counted_primaryPacket p _ _)

theorem counted_reportOld (p : Packet) (s : Touchpad) : Counted s (s.reportOld G w p) := by
  unfold reportOld
  dsimp only
  split
  · exact (handled_invalidPrimary s).counted
  · exact counted_primaryPacket p _ s

/-- The packet tells the number of fingers. -/
def tellsFingers (p : Packet) (s : Touchpad) : Bool :=
  SYN_MODEL_NEWABS s.synTPad.model_id && (s.setW (newW p)).isExtended && isFingerState p

theorem counted_report_absolute {p : Packet} {s : Touchpad} (h : s.tellsFingers p = true → p 1 ≤ 5) :
    Counted s (s.Synaptics_report_absolute G w p) := by
  unfold Synaptics_report_absolute
  dsimp only
  split
  · next hnew =>
    split
    · next hextended =>
      refine (handled_setW _ s).counted.trans (counted_extendedPacket (fun hstate => h ?_) _)
      simp [tellsFingers, hnew, hextended, hstate]
    · exact (handled_setW _ s).counted.trans (counted_reportNew p _)
  · exact (handled_setW _ s).counted.trans (counted_reportOld p _)

theorem linked_report_absolute (p : Packet) (s : Touchpad) : Linked s (s.Synaptics_report_absolute G w p) := by
  unfold Synaptics_report_absolute
  dsimp only
  repeat' split
  · exact (handled_setW _ s).linked.trans (linked_extendedPacket p _)
  · exact (handled_setW _ s).linked.trans (counted_reportNew p _).linked
  · exact (handled_setW _ s).linked.trans (counted_reportOld p _).linked

end Touchpad
end ApplePS2
