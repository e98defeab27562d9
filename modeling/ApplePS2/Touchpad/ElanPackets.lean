import ApplePS2.Flags
import ApplePS2.Touchpad.Fingers

/- The packets of ELAN's hardware before version 4, and of its trackpoint
   (`Process_absolute_events_ELANv1`, `Process_absolute_events_ELANv2v3`,
   `Process_trackpoint_events_ELAN`).

   1. `linked_ELANv1`, `linked_ELANv2v3`, `linked_trackpoint`: what they leave alone.
   2. `bounded_ELANv1`, `counted_eventV2v3`: no more than five fingers are counted. -/
namespace ApplePS2

/-- Twelve bits of a position. -/
def bits12 (high low : UInt8) : UInt16 := ((high &&& 0x0f).toUInt16 <<< 8) ||| low.toUInt16

def Finger.place (x y : UInt16) (f : Finger) : Finger := { f with x, y }

/-- The position starts a touch. -/
def Finger.begin (f : Finger) : Finger := f.restart.arrive

def Finger.advance (dx dy : Int) (f : Finger) : Finger := { f with tdx := f.tdx + dx, tdy := f.tdy + dy }

namespace Touchpad

variable (G : Gestures) (w : TouchpadWorld)

/-- "Calculate time taken for the gesture" -/
def countGestureTime (now : UInt64) (s : Touchpad) : Touchpad :=
  { s with
    gestureTime := if s.packetsCount > 0 then s.gestureTime + (now - s.lastDataTime) else s.gestureTime
    lastDataTime := now }

def palmFound (s : Touchpad) : Touchpad := { s with palm.detected := true, touchmode := .MODE_PALM }

def isAccidental (s : Touchpad) : Bool := s.kbEvent.accidentalInput && s.kbEvent.tapEnableTPad

/-- "Stop processing on accidental input" -/
def accidentalMode (s : Touchpad) : Touchpad :=
  { s with touchmode := if s.gestureTime < s.tap.clickTimeout then .MODE_1_FING_TAP else .MODE_IDLE }

def singlefinger (fid : Int) (s : Touchpad) : Touchpad :=
  (s.use [fid]).gesture G w (.Process_singlefinger_touch (s.fing fid).x.toNat (s.fing fid).y.toNat fid)

def twofingers (s : Touchpad) : Touchpad :=
  let f := s.fing s.pid
  let g := s.fing s.sid
  (s.use [s.pid, s.sid]).gesture G w (.Process_twofingers_touch f.x.toNat g.x.toNat f.y.toNat g.y.toNat)

/-- The first and the second finger. -/
def bothFingers (g : Finger → Finger) (s : Touchpad) : Touchpad :=
  let s := s.modifyFinger s.pid g
  s.modifyFinger s.sid g

/-! Hardware version 1. -/

def fingersV1 (p : Packet) (s : Touchpad) : UInt8 :=
  if s.elanTPad.fw_version < 0x020000 then ((p 1 &&& 0x80) >>> 7) + ((p 1 &&& 0x30) >>> 4)
  else (p 0 &&& 0xc0) >>> 6

/-- "Discard first 2 reports of one finger, bogus" -/
def isBogusV1 (s : Touchpad) : Bool :=
  s.elanTPad.jumpyCursor && s.cFingers = 1 && s.elanTPad.singleFingerReports < 2

def countReports (s : Touchpad) : Touchpad :=
  { s with elanTPad.singleFingerReports :=
      if s.elanTPad.jumpyCursor && s.cFingers ≠ 1 then 0
      else if s.isBogusV1 then s.elanTPad.singleFingerReports + 1
      else s.elanTPad.singleFingerReports }

def placeV1 (p : Packet) (s : Touchpad) : Touchpad :=
  let x := ((p 1 &&& 0x0c).toUInt16 <<< 6) ||| (p 2).toUInt16
  let y := s.ymax - (((p 1 &&& 0x03).toUInt16 <<< 8) ||| (p 3).toUInt16)
  s.when (s.cFingers ≠ 0) (modifyFinger 0 (Finger.place x y))

def Process_absolute_events_ELANv1 (p : Packet) (s : Touchpad) : Touchpad :=
  let s := { s with cFingers := fingersV1 p s }
  if s.isBogusV1 then s.countReports
  else s.countReports |> Process_Physical_Buttons p |> placeV1 p |> modifyFinger 0 Finger.arrive

/-! The trackpoint. -/

/-- The finger of the trackpoint. -/
def trackpointFinger (x y : Int) (s : Touchpad) : Touchpad :=
  s.modifyFinger 0 fun f =>
    if s.packetsCount = 0 then { f with start_x := 0, start_y := 0 } else f.advance x y

def Process_trackpoint_events_ELAN (p : Packet) (s : Touchpad) : Touchpad :=
  let x : Int := (p 4).toNat - (p 1 ^^^ 0x80).toNat * 2
  let y : Int := (p 2 ^^^ 0x80).toNat * 2 - (p 5).toNat
  let s := { s with trackpoints := s.trackpoints ++ [(List.range 6).map p] }
  (s.trackpointFinger x y).gesture G w (.Process_singlefinger_touch x y 0)

/-! Hardware versions 2 and 3. -/

/-- The pressure and the width of a touch. -/
def pressureV2v3 (p : Packet) (f : Finger) : Finger :=
  { f with
    pressure := (p 1 &&& (0xf0 : UInt8)) ||| ((p 4 &&& 0xf0) >>> 4)
    width := ((p 0 &&& (0x30 : UInt8)) >>> 2) ||| ((p 3 &&& 0x30) >>> 4) }

def fingersV2v3 (p : Packet) (s : Touchpad) : Touchpad :=
  let count := (p 0 &&& 0xc0) >>> 6
  if s.cFingers ≠ count then
    if count > 0 then (s.setFingers count).Process_fingers_change else s.setFingers count
  else s

def buttonsV2v3 (p : Packet) (s : Touchpad) : Touchpad :=
  if s.button.disableClicks then s
  else if s.cFingers = 0 then { s with packetsCount := s.packetsCount + 1 }.Process_Physical_Buttons p
  else s.Process_Physical_Buttons p

def Process_ELANv2v3_Checks (p : Packet) (s : Touchpad) : Touchpad :=
  s |> modifyFinger 0 (pressureV2v3 p) |> fingersV2v3 p |> countGestureTime (w.uptime 1) |> buttonsV2v3 p

def isPalmV2v3 (s : Touchpad) : Bool :=
  let f := s.fing 0
  s.palm.detected && (f.pressure = 0 && f.width > s.palm.minWidth || f.pressure ≠ 0) ||
    s.palm.detectionEnabled && s.cFingers = 1 && f.width > s.palm.minWidth &&
      (f.pressure = 0 || f.pressure > s.palm.minPressure)

/-- The packet at the end of a touch. -/
def isTouchEndV2v3 (p : Packet) (s : Touchpad) : Bool :=
  s.cFingers = 0 && s.button.data = 0 &&
    (s.hwVersion = 2 && (p 0 = 0x04 || p 0 = 0x14 || p 0 = 0x24) || s.hwVersion = 3 && (s.fing 0).pressure = 0)

def isTrackpointV3 (packet_type : UInt8) (s : Touchpad) : Bool :=
  s.hwVersion = 3 && s.cFingers = 0 && s.lastFingers = 0 && (s.fing 0).pressure > 0 && !s.button.disbleTrackPoint &&
    (packet_type = PACKET_TRACKPOINT || packet_type = PACKET_HEAD)

/-- The finger at its new position, and how far it has moved. -/
def oneFinger (x y : UInt16) (s : Touchpad) : Finger × Int × Int :=
  let f := (s.fing 0).place x y
  if s.packetsCount ≤ 1 then ({ f.begin with tdx := 0, tdy := 0 }, 0, 0)
  else (f.advance f.dx f.dy, f.dx, f.dy)

/-- "Same as one finger, except report of more than 3 fingers" -/
def countFourV2 (p : Packet) (s : Touchpad) : Touchpad :=
  { s with cFingers := if s.cFingers = 3 && s.hwVersion = 2 && p 3 &&& 0x80 ≠ 0 then 4 else s.cFingers }

def touchV2v3 (dx1 dy1 : Int) (s : Touchpad) : Touchpad :=
  if s.cFingers = 1 then s.singlefinger G w 0
  else if s.cFingers = 3 && !s.drag.isDragging then s.gesture G w (.Process_multiFingers_touch dx1 dy1 0)
  else s

/-- One finger, or three of them. -/
def oneFingerV2v3 (p : Packet) (s : Touchpad) : Touchpad :=
  let s := s.countFourV2 p
  let moved := s.oneFinger (bits12 (p 1) (p 2)) (s.ymax - bits12 (p 4) (p 5))
  s |> setFinger 0 moved.1 |> touchV2v3 G w moved.2.1 moved.2.2 |> modifyFinger 0 Finger.arrive

/-- "The coordinate of each finger is reported separately with a lower resolution for two finger touches" -/
def placesV2 (p : Packet) (s : Touchpad) : Touchpad :=
  let x (h l : UInt8) : UInt16 := (((h &&& 0x10).toUInt16 <<< 4) ||| l.toUInt16) <<< 2
  let y (h l : UInt8) : UInt16 := s.ymax - ((((h &&& 0x20).toUInt16 <<< 3) ||| l.toUInt16) <<< 2)
  -- Unknown so just report sensible values
  let report (f : Finger) : Finger := { f with pressure := 127, width := 7 }
  s |> modifyFinger 0 (fun f => report (f.place (x (p 0) (p 1)) (y (p 0) (p 2))))
    |> modifyFinger 1 (fun f => report (f.place (x (p 3) (p 4)) (y (p 3) (p 5))))

/-- Whether a finger's start and last position are set to where it is. -/
def beginsV2v3 (s : Touchpad) (f : Finger) : Bool :=
  f.unstarted || !(s.swipe.direction < 3 || s.lastFingers = 1 && s.cFingers = 2)

/-- "Right finger was placed first? If yes, Swap finger 1(right) to finger 2(left)." -/
def swapFingers (s : Touchpad) : Touchpad :=
  let f := s.fing 0
  let g := s.fing 1
  let dx1 := ((f.x.toNat : Int) - f.last_x.toNat).natAbs
  let dx2 := ((g.x.toNat : Int) - f.last_x.toNat).natAbs
  if s.lastFingers = 1 && dx2 < dx1 then
    s |> setFinger 1 { g with start_x := f.start_x, start_y := f.start_y, last_x := f.last_x, last_y := f.last_y }
      |> setFinger 0 f.begin
  else s

def startTwoFingers (s : Touchpad) : Touchpad :=
  let s := { s with pid := 0, sid := 1 }
  s.bothFingers fun f => if s.beginsV2v3 f then f.begin else f

def checkEdgeSwipe (s : Touchpad) : Touchpad :=
  if s.swipe.isEdgeGesture then s else s.gesture G w .Is2FingEdgeSwipe

/-- "Set primary and secndary finger ids", and the positions at which they start. -/
def beginTwoFingers (s : Touchpad) : Touchpad :=
  let s := s.startTwoFingers.checkEdgeSwipe G w
  if s.swipe.isEdgeGesture then s.swapFingers else s.bothFingers Finger.begin

/-- "Calculate total delta for two fingers" -/
def advanceTwoFingers (s : Touchpad) : Touchpad :=
  let move (f : Finger) : Finger := f.advance f.dx f.dy
  s |> modifyFinger 0 move |> modifyFinger 1 move

def placeTwoFingers (p : Packet) (s : Touchpad) : Touchpad :=
  if s.hwVersion = 2 then s.placesV2 p
  else s.modifyFinger 1 (Finger.place (bits12 (p 1) (p 2)) (s.ymax - bits12 (p 4) (p 5)))

def moveTwoFingers (s : Touchpad) : Touchpad :=
  if s.packetsCount ≤ 1 then s.beginTwoFingers G w else s.advanceTwoFingers

def twoFingersV2v3 (packet_type : UInt8) (p : Packet) (s : Touchpad) : Touchpad :=
  -- wait for next packet
  if s.hwVersion ≠ 2 && packet_type = PACKET_HEAD then
    s.modifyFinger 0 (Finger.place (bits12 (p 1) (p 2)) (s.ymax - bits12 (p 4) (p 5)))
  else s |> placeTwoFingers p |> moveTwoFingers G w |> twofingers G w |> bothFingers Finger.arrive

def eventV2v3 (packet_type : UInt8) (p : Packet) (s : Touchpad) : Touchpad :=
  if !s.kbEvent.showPressWidth && s.isPalmV2v3 then s.palmFound
  else if s.isTouchEndV2v3 p && s.hwVersion = 2 then s.Process_touch_end G w
  else if s.isTrackpointV3 packet_type then s.Process_trackpoint_events_ELAN G w p
  else if s.isTouchEndV2v3 p then s.Process_touch_end G w
  else if s.isAccidental then s.accidentalMode
  else if s.cFingers = 1 || s.cFingers = 3 then s.oneFingerV2v3 G w p
  else if s.cFingers = 2 then s.twoFingersV2v3 G w packet_type p
  else s

def Process_absolute_events_ELANv2v3 (packet_type : UInt8) (p : Packet) (s : Touchpad) : Touchpad :=
  s |> Process_ELANv2v3_Checks w p |> eventV2v3 G w packet_type p

/-! What they leave alone. -/

variable {G w}

theorem handled_setFinger (i : Int) (f : Finger) (s : Touchpad) : Handled s (s.setFinger i f) := .same rfl rfl

theorem handled_bothFingers (g : Finger → Finger) (s : Touchpad) : Handled s (s.bothFingers g) := .same rfl rfl

theorem handled_singlefinger (fid : Int) (s : Touchpad) : Handled s (s.singlefinger G w fid) :=
  (handled_use _ s).trans (handled_gesture _ _)

theorem handled_twofingers (s : Touchpad) : Handled s (s.twofingers G w) :=
  (handled_use _ s).trans (handled_gesture _ _)

theorem handled_checkEdgeSwipe (s : Touchpad) : Handled s (s.checkEdgeSwipe G w) := by
  unfold checkEdgeSwipe
  split
  · exact .refl s
  · exact handled_gesture _ s

/-- The number of fingers in the first byte. -/
theorem countBits_le (b : UInt8) : (b &&& 0xc0) >>> 6 ≤ 3 := Flags.shifted_le b 0xc0 6

theorem fingersV1_le (p : Packet) (s : Touchpad) : fingersV1 p s ≤ 5 := by
  have hold : ∀ b : UInt8, ((b &&& 0x80) >>> 7) + ((b &&& 0x30) >>> 4) ≤ 5 := by decide +kernel
  unfold fingersV1
  split
  · exact hold (p 1)
  · exact UInt8.le_trans (countBits_le (p 0)) (by decide)

theorem linked_ELANv1 (p : Packet) (s : Touchpad) : Linked s (s.Process_absolute_events_ELANv1 p) := by
  have hplace : ∀ s : Touchpad, Handled s (s.placeV1 p) := fun s => .when _ (handled_modifyFinger _ _ s)
  have hcount : Linked s { s with cFingers := fingersV1 p s }.countReports := .same rfl rfl
  unfold Process_absolute_events_ELANv1
  dsimp only
  split
  · exact hcount
  · refine hcount.trans (Handled.linked ?_)
    exact ((handled_Process_Physical_Buttons p _).trans (hplace _)).trans (handled_modifyFinger _ _ _)

theorem bounded_ELANv1 (p : Packet) {s : Touchpad} (hs : Bounded s) : Bounded (s.Process_absolute_events_ELANv1 p) := by
  have hplace : ∀ s : Touchpad, Handled s (s.placeV1 p) := fun s => .when _ (handled_modifyFinger _ _ s)
  have hcount : Bounded { s with cFingers := fingersV1 p s }.countReports := ⟨fingersV1_le p s, hs.last⟩
  unfold Process_absolute_events_ELANv1
  dsimp only
  split
  · exact hcount
  · refine Handled.bounded ?_ hcount
    exact ((handled_Process_Physical_Buttons p _).trans (hplace _)).trans (handled_modifyFinger _ _ _)

/-- The packet is noted, and its position is passed to the gesture. -/
theorem handled_trackpoint (p : Packet) (s : Touchpad) :
    Handled { s with trackpoints := s.trackpoints ++ [(List.range 6).map p] } (s.Process_trackpoint_events_ELAN G w p) :=
  (handled_modifyFinger _ _ _).trans (handled_gesture _ _)

theorem linked_trackpoint (p : Packet) (s : Touchpad) : Linked s (s.Process_trackpoint_events_ELAN G w p) := by
  refine .trans ?_ (handled_trackpoint p s).linked
  exact .same rfl rfl

theorem counted_ELANv2v3_Checks (p : Packet) (s : Touchpad) : Counted s (s.Process_ELANv2v3_Checks w p) := by
  have hrange : (p 0 &&& 0xc0) >>> 6 ≤ 5 := UInt8.le_trans (countBits_le (p 0)) (by decide)
  have hfingers : ∀ s : Touchpad, Counted s (s.fingersV2v3 p) := by
    intro s
    unfold fingersV2v3
    dsimp only
    repeat' split
    · exact (counted_setFingers hrange s).trans (handled_fingers_change _).counted
    · exact counted_setFingers hrange s
    · exact .refl s
  have hbuttons : ∀ s : Touchpad, Handled s (s.buttonsV2v3 p) := by
    intro s
    have hcount : Handled s { s with packetsCount := s.packetsCount + 1 } := .same rfl rfl
    unfold buttonsV2v3
    repeat' split
    · exact .refl s
    · exact hcount.trans (handled_Process_Physical_Buttons p _)
    · exact handled_Process_Physical_Buttons p s
  have htime : ∀ s : Touchpad, Handled s (s.countGestureTime (w.uptime 1)) := fun _ => .same rfl rfl
  exact (((handled_modifyFinger _ _ s).counted.trans (hfingers _)).trans (htime _).counted).trans (hbuttons _).counted

theorem counted_oneFingerV2v3 (p : Packet) (s : Touchpad) : Counted s (s.oneFingerV2v3 G w p) := by
  have hcount : Counted s (s.countFourV2 p) := by
    refine ⟨rfl, fun hs => ⟨?_, hs.last⟩, .none _ rfl⟩
    show (if _ then (4 : UInt8) else s.cFingers) ≤ 5
    split
    · decide
    · exact hs.current
  have htouch : ∀ (dx dy : Int) (s : Touchpad), Handled s (s.touchV2v3 G w dx dy) := by
    intro dx dy s
    unfold touchV2v3
    repeat' split
    · exact handled_singlefinger _ s
    · exact handled_gesture _ s
    · exact .refl s
  refine hcount.trans (Handled.counted ?_)
  exact ((handled_setFinger _ _ _).trans (htouch _ _ _)).trans (handled_modifyFinger _ _ _)

theorem handled_moveTwoFingers (s : Touchpad) : Handled s (s.moveTwoFingers G w) := by
  have hswap : ∀ s : Touchpad, Handled s s.swapFingers := by
    intro s
    unfold swapFingers
    dsimp only
    split
    · exact (handled_setFinger _ _ s).trans (handled_setFinger _ _ _)
    · exact .refl s
  have hslots : Handled s s.startTwoFingers := .same rfl rfl
  have hstart := hslots.trans (handled_checkEdgeSwipe (G := G) (w := w) _)
  unfold moveTwoFingers beginTwoFingers
  dsimp only
  repeat' split
  · exact hstart.trans (hswap _)
  · exact hstart.trans (handled_bothFingers _ _)
  · exact .same rfl rfl

theorem handled_twoFingersV2v3 (packet_type : UInt8) (p : Packet) (s : Touchpad) :
    Handled s (s.twoFingersV2v3 G w packet_type p) := by
  have hplace : Handled s (s.placeTwoFingers p) := by
    unfold placeTwoFingers
    split
    · exact .same rfl rfl
    · exact handled_modifyFinger _ _ s
  unfold twoFingersV2v3
  split
  · exact handled_modifyFinger _ _ s
  · exact ((hplace.trans (handled_moveTwoFingers _)).trans (handled_twofingers _)).trans (handled_bothFingers _ _)

/-- What is done with a packet that is not the trackpoint's. -/
theorem counted_eventV2v3 {packet_type : UInt8} (p : Packet) {s : Touchpad}
    (h : s.isTrackpointV3 packet_type = false) : Counted s (s.eventV2v3 G w packet_type p) := by
  unfold eventV2v3
  rw [if_neg (by rw [h]; decide : ¬ s.isTrackpointV3 packet_type = true)]
  repeat' split
  · exact Handled.counted (.same rfl rfl)
  · exact (handled_touch_end s).counted
  · exact (handled_touch_end s).counted
  · exact Handled.counted (.same rfl rfl)
  · exact counted_oneFingerV2v3 p s
  · exact (handled_twoFingersV2v3 packet_type p s).counted
  · exact .refl s

theorem linked_ELANv2v3 (packet_type : UInt8) (p : Packet) (s : Touchpad) :
    Linked s (s.Process_absolute_events_ELANv2v3 G w packet_type p) := by
  have hevent : ∀ s : Touchpad, Linked s (s.eventV2v3 G w packet_type p) := by
    intro s
    cases htrackpoint : s.isTrackpointV3 packet_type with
    | false => exact (counted_eventV2v3 p htrackpoint).linked
    | true =>
      unfold eventV2v3
      rw [if_pos htrackpoint]
      repeat' split
      · exact .same rfl rfl
      · exact (handled_touch_end s).linked
      · exact linked_trackpoint p s
  exact (counted_ELANv2v3_Checks p s).linked.trans (hevent _)

end Touchpad
end ApplePS2
