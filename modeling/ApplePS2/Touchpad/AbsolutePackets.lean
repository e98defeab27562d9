import ApplePS2.Touchpad.ElanPackets

/- The packets of ELAN's hardware version 4 and of FocalTech's touchpads
   (`Process_absolute_events_ELANv4AndFocalTech`): status packets, which tell the
   fingers on the touchpad, absolute packets for one finger, and relative packets for
   two of them.

   1. `linked_absolute_events`: what they leave alone.
   2. `counted_absolute_events`: no more than five fingers are counted, if the packet is
      not a status packet with an unknown mask. -/
namespace ApplePS2

def ETD_WEIGHT_VALUE : Int := 5

/-- The fingers of a status packet by their bit mask, with the special values that are
received between two numbers of fingers. -/
def statusFingers (mask : UInt8) : Option UInt8 :=
  if mask = 0x0 then some 0
  else if mask = 0x02 || mask = 0x01 then some 1
  else if mask = 0x03 || mask = 0x05 || mask = 0x0d then some 2
  else if mask = 0x07 || mask = 0x0b || mask = 0x11 then some 3
  else if mask = 0x0f || mask = 0x17 then some 4
  else if mask = 0x1f then some 5
  else none

/-- A finger moved by a difference, in unsigned 16 bits. -/
def Finger.move (dx dy : Int) (f : Finger) : Finger :=
  { f with x := .ofInt (f.x.toNat + dx), y := .ofInt (f.y.toNat + dy), tdx := f.tdx + dx, tdy := f.tdy + dy }

/-- Three bits that hold the number of a slot, or 0 for none. -/
def slot (bits : UInt8) : Int := bits.toNat - 1

namespace Touchpad

variable (G : Gestures) (w : TouchpadWorld)

/-! Palms and accidental input. -/

def isPalmV4 (s : Touchpad) : Bool :=
  let f := s.fing 0
  s.palm.detectionEnabled &&
    (s.cFingers = 2 && s.lastFingers ≤ 2 && f.width > s.palm.minWidth ||
      s.cFingers = 1 && s.lastFingers ≤ 1 && f.pressure > s.palm.minPressure || s.palm.detected)

/-- "Get the finger pressure and width from the packet for palm if its 1f" -/
def pressureV4 (p : Packet) (f : Finger) : Finger :=
  { f with
    pressure := (p 1 &&& (0xf0 : UInt8)) ||| ((p 4 &&& 0xf0) >>> 4)
    width := (p 0 &&& 0xf0) >>> 4 }

def notePressure (p : Packet) (s : Touchpad) : Touchpad :=
  s.when ((s.isPalmV4 || s.kbEvent.showPressWidth) && s.cFingers = 1) (modifyFinger 0 (pressureV4 p))

def isStoppedByPalm (s : Touchpad) : Bool := s.isPalmV4 && !s.kbEvent.showPressWidth

/-- The packet is not processed because of a palm or accidental input. -/
def isSwallowed (packet_type : UInt8) (s : Touchpad) : Bool :=
  packet_type ≠ PACKET_STATUS && (s.isStoppedByPalm || s.isAccidental)

/-! Status packets. -/

/-- "1F Tap in 2F Move" -/
def tapIn2FMove (s : Touchpad) : Touchpad :=
  if s.lastFingers = 2 && s.gestureTime < s.tap.clickTimeout && s.button.isFingOnBtnArea then
    { s |> dispatchRelativePointerPosition 0 0 0x1 |> dispatchRelativePointerPosition 0 0 0x0 with
      button.data := 0, button.state := 0 }
  else s

def buttonsV4 (p : Packet) (s : Touchpad) : Touchpad :=
  if s.button.isClickPad then s.Process_ClickPad_Virtual_Buttons p PACKET_STATUS 0 1
  else if s.button.disableClicks then s
  else { s with packetsCount := s.packetsCount + 1 }.Process_Physical_Buttons p

/-- "An end status packet with pressure zero is received at the end of every packet stream" -/
def endStatus (s : Touchpad) : Touchpad :=
  if s.lastFingers > 0 && s.touchmode ≠ .MODE_BUTTONS && !s.kbEvent.showPressWidth then s.Process_touch_end G w
  else s.Process_fingers_change

def statusPacket (p : Packet) (s : Touchpad) : Touchpad :=
  let mask := p 1 &&& 0x1f
  -- the mask is stored before it is looked at
  let s := s.setFingers mask
  match statusFingers mask with
  | none => s
  | some count =>
    if count = 0 then (s.buttonsV4 p).endStatus G w
    else { s.when (mask = 0x02) tapIn2FMove with cFingers := count }.Process_fingers_change

/-! Absolute packets. -/

/-- "Get the primary finger id from the packet" -/
def absoluteSlot (p : Packet) (s : Touchpad) : Int :=
  if s.touchpadVendor = .STD_FOCAL_TECH then slot (p 1 >>> 4) else slot ((p 3 &&& 0xe0) >>> 5)

def absoluteFinger (p : Packet) (s : Touchpad) (f : Finger) : Finger :=
  if s.touchpadVendor = .STD_FOCAL_TECH then
    -- Unknown report sensible value.
    { f.place (bits12 (p 1) (p 2)) (s.ymax - bits12 (p 3) (p 4)) with pressure := 128, width := p 5 >>> 4 }
  else pressureV4 p (f.place (bits12 (p 1) (p 2)) (s.ymax - bits12 (p 4) (p 5)))

/-- "Set primary and secndary finger ids" -/
def setSlots (fid : Int) (s : Touchpad) : Touchpad :=
  if s.pid < 0 then { s with pid := fid } else if s.sid < 0 then { s with sid := fid } else s

/-- "Initialize x and y coordinates" -/
def beginAbsolute (fid : Int) (s : Touchpad) : Touchpad :=
  let unstarted := (s.fing fid).unstarted
  if s.packetsCount = 0 || unstarted then
    (s.setSlots fid).when (unstarted || !(s.swipe.direction > 0 || s.lastFingers = 1 && s.cFingers = 2))
      (modifyFinger fid fun f => { f.begin with tdx := 0, tdy := 0 })
  else s

/-- "Trigger click drag" -/
def clickDrag (s : Touchpad) : Touchpad :=
  s.when (s.button.triggered && !s.button.isFingOnBtnArea) fun s =>
    { s with drag.isHoldDrag := true, drag.isDragging := true, fingPress.holdTime := 2000000001 }

/-- Physical buttons found in some touchpads, or virtual ones. -/
def buttons1F (p : Packet) (packet_type : UInt8) (fid : Int) (s : Touchpad) : Touchpad :=
  if !s.button.isClickPad && !s.button.disableClicks then s.Process_Physical_Buttons p
  -- skip first packet because sometimes a Head packet for multi fingers are sent here
  else if s.packetsCount > 0 then
    { s.use [fid] with button.isFingOnBtnArea := s.IsFingerOnButtonArea (s.fing fid).y }
      |> Process_ClickPad_Virtual_Buttons p packet_type (.ofInt fid) 1 |> clickDrag
  else s

def buttonsMulF (p : Packet) (packet_type : UInt8) (fid : Int) (s : Touchpad) : Touchpad :=
  s.when s.button.isClickPad (Process_ClickPad_Virtual_Buttons p packet_type (.ofInt fid) s.cFingers)

/-- "Reset the coordinates" -/
def begin2F (s : Touchpad) : Touchpad :=
  let s := s.checkEdgeSwipe G w
  s.when (!s.swipe.isEdgeGesture) (bothFingers Finger.begin)

def touchMulF (fid dx dy : Int) (s : Touchpad) : Touchpad :=
  if s.cFingers = 2 && s.pid ≥ 0 && s.sid ≥ 0 then s.twofingers G w
  else if s.cFingers > 2 then s.gesture G w (.Process_multiFingers_touch dx dy fid)
  else s

/-- Several fingers: the position is moved once more by its difference to the last one. -/
def absoluteMulF (p : Packet) (fid : Int) (s : Touchpad) : Touchpad :=
  let s := s.when (s.cFingers = 2) (begin2F G w)
  let s := s.buttonsMulF p PACKET_ABSOLUTE fid
  let f := s.fing fid
  s |> modifyFinger fid (Finger.move f.dx f.dy) |> touchMulF G w fid f.dx f.dy

def absoluteTouch (p : Packet) (fid : Int) (s : Touchpad) : Touchpad :=
  if s.cFingers = 1 then s |> buttons1F p PACKET_ABSOLUTE fid |> singlefinger G w fid
  else if 2 ≤ s.cFingers && s.cFingers ≤ 5 then s.absoluteMulF G w p fid
  else s

def absolutePacket (p : Packet) (s : Touchpad) : Touchpad :=
  let fid := s.absoluteSlot p
  if fid < 0 then s
  else
    s |> modifyFinger fid (s.absoluteFinger p) |> beginAbsolute fid |> absoluteTouch G w p fid
      |> modifyFinger fid Finger.arrive

/-! Relative packets. -/

/-- `delta_x` and `delta_y`. -/
structure Deltas where
  x : Int → Int
  y : Int → Int

def Deltas.set (i dx dy : Int) (d : Deltas) : Deltas :=
  { x := Function.update d.x i dx, y := Function.update d.y i (d.y i - dy) }

/-- A difference in two's complement. -/
def signed (b : UInt8) : Int := b.toInt8.toInt

/-- "Get the primary and secondary finger id" -/
def relativeSlots (p : Packet) (s : Touchpad) : Int × Int :=
  if s.touchpadVendor = .STD_FOCAL_TECH then (slot ((p 0 >>> 4) &&& 0x7), slot ((p 3 >>> 4) &&& 0x7))
  else (slot ((p 0 &&& 0xe0) >>> 5), slot ((p 3 &&& 0xe0) >>> 5))

def relativeWeight (p : Packet) (s : Touchpad) : Int :=
  if s.touchpadVendor = .STD_FOCAL_TECH then 1 else if p 0 &&& 0x10 ≠ 0 then ETD_WEIGHT_VALUE else 1

/-- The differences of the finger in slot `i`, if there is one. -/
def addDelta (i weight : Int) (dx dy : UInt8) (d : Deltas) : Deltas :=
  if 0 ≤ i then d.set i (weight * signed dx) (weight * signed dy) else d

def moveSlot (i : Int) (d : Deltas) (s : Touchpad) : Touchpad :=
  s.when (0 ≤ i) (modifyFinger i (Finger.move (d.x i) (d.y i)))

def clickPad2F (p : Packet) (d : Deltas) (s : Touchpad) : Touchpad :=
  (s.use [s.pid, s.sid]).gesture G w
    (.Process_ClickPad_2F p PACKET_RELATIVE (d.x s.pid) (d.y s.pid) (d.x s.sid) (d.y s.sid))

def relative2F (p : Packet) (d : Deltas) (s : Touchpad) : Touchpad :=
  if s.button.isClickPad then
    -- finger switching sometimes does not report one of the finger positions
    s.when (s.packetsCount = 1 && !s.swipe.isEdgeGesture) (bothFingers Finger.restart) |> clickPad2F G w p d
  else s.twofingers G w

/-- "Decrease last increment as we need one increment for both" -/
def packetsBack (s : Touchpad) : Touchpad := { s with packetsCount := s.packetsCount - 1 }

def multiFingers (i : Int) (d : Deltas) (s : Touchpad) : Touchpad :=
  (s.use [i]).gesture G w (.Process_multiFingers_touch (d.x i) (d.y i) i)

def relativeSecond (d : Deltas) (s : Touchpad) : Touchpad :=
  if s.sid ≥ 0 then s.packetsBack.multiFingers G w s.sid d else s

def relativeMulF (p : Packet) (d : Deltas) (s : Touchpad) : Touchpad :=
  let s := s.buttonsMulF p PACKET_RELATIVE s.pid
  if !s.drag.isDragging || s.drag.is3FDrag then (s.multiFingers G w s.pid d).relativeSecond G w d else s

def relativeTouch (p : Packet) (d : Deltas) (s : Touchpad) : Touchpad :=
  if s.cFingers = 2 then s.relative2F G w p d
  else if 3 ≤ s.cFingers && s.cFingers ≤ 5 then s.relativeMulF G w p d
  else s

def arriveBoth (s : Touchpad) : Touchpad :=
  s |> modifyFinger s.pid Finger.arrive |> fun s => s.when (s.sid ≥ 0) (modifyFinger s.sid Finger.arrive)

def relativePacket (p : Packet) (s : Touchpad) : Touchpad :=
  let (pid, sid) := s.relativeSlots p
  let weight := s.relativeWeight p
  let d1 := addDelta pid weight (p 1) (p 2) { x := fun _ => 0, y := fun _ => 0 }
  let d2 := addDelta sid weight (p 4) (p 5) d1
  let s := { s with pid, sid } |> moveSlot pid d1 |> moveSlot sid d2
  if pid < 0 || sid < 0 then s else s |> relativeTouch G w p d2 |> arriveBoth

/-! All packets. -/

def eventV4 (packet_type : UInt8) (p : Packet) (s : Touchpad) : Touchpad :=
  if packet_type = PACKET_STATUS then s.statusPacket G w p
  else if packet_type = PACKET_ABSOLUTE then s.absolutePacket G w p
  else if packet_type = PACKET_RELATIVE then s.relativePacket G w p
  else s

/-- The palm is noted, also when a status packet is processed nevertheless. -/
def notePalm (p : Packet) (s : Touchpad) : Touchpad :=
  if s.isStoppedByPalm then (s.notePressure p).palmFound else s.notePressure p

def Process_absolute_events_ELANv4AndFocalTech (packet_type : UInt8) (p : Packet) (s : Touchpad) : Touchpad :=
  if s.isStoppedByPalm && packet_type ≠ PACKET_STATUS then s.notePalm p
  else if s.isAccidental && packet_type ≠ PACKET_STATUS then (s.notePalm p).accidentalMode
  else s |> notePalm p |> countGestureTime (w.uptime 1) |> eventV4 G w packet_type p

/-! What they leave alone. -/

variable {G w}

theorem handled_notePalm (p : Packet) (s : Touchpad) : Handled s (s.notePalm p) := by
  have hpressure : Handled s (s.notePressure p) := .when _ (handled_modifyFinger _ _ s)
  unfold notePalm
  split
  · exact hpressure.update rfl rfl
  · exact hpressure

theorem statusFingers_le {mask count : UInt8} (h : statusFingers mask = some count) : count ≤ 5 := by
  unfold statusFingers at h
  repeat' split at h
  all_goals
    cases h <;> decide

/-- Only an empty mask tells no finger. -/
theorem statusFingers_zero {mask : UInt8} (h : statusFingers mask = some 0) : mask = 0 := by
  unfold statusFingers at h
  split at h
  · assumption
  · repeat' split at h
    all_goals
      exact absurd h (by decide)

/-- A status packet whose mask is known. -/
theorem counted_statusPacket {p : Packet} {count : UInt8} (h : statusFingers (p 1 &&& 0x1f) = some count)
    (s : Touchpad) : Counted s (s.statusPacket G w p) := by
  have hclear : ∀ s : Touchpad, Handled s { s with button.data := 0, button.state := 0 } := fun _ => .same rfl rfl
  have htap : ∀ s : Touchpad, Handled s s.tapIn2FMove := by
    intro s
    unfold tapIn2FMove
    split
    · exact (handled_release _ s).trans (hclear _)
    · exact .refl s
  have hbuttons : ∀ s : Touchpad, Handled s (s.buttonsV4 p) := by
    intro s
    have hcount : Handled s { s with packetsCount := s.packetsCount + 1 } := .same rfl rfl
    unfold buttonsV4
    repeat' split
    · exact handled_virtualButtons _ _ _ _ s
    · exact .refl s
    · exact hcount.trans (handled_Process_Physical_Buttons p _)
  have hend : ∀ s : Touchpad, Handled s (s.endStatus G w) := by
    intro s
    unfold endStatus
    split
    · exact handled_touch_end s
    · exact handled_fingers_change s
  have hset : Handled (s.setFingers (p 1 &&& 0x1f)) (s.setFingers (p 1 &&& 0x1f)) := .refl _
  unfold statusPacket
  dsimp only
  rw [h]
  dsimp only
  split
  · next hzero =>
    rw [hzero] at h
    have hcounted := ((hset.trans (hbuttons _)).trans (hend _)).counted
    rw [statusFingers_zero h] at hcounted ⊢
    exact (counted_setFingers (by decide) s).trans hcounted
  · have hcounted := (hset.trans (.when (p 1 &&& 0x1f = 0x02) (htap _))).recount (statusFingers_le h)
    exact hcounted.trans (handled_fingers_change _).counted

/-- A status packet whose mask is not known. -/
theorem statusPacket_rejected {p : Packet} (h : statusFingers (p 1 &&& 0x1f) = none) (s : Touchpad) :
    s.statusPacket G w p = s.setFingers (p 1 &&& 0x1f) := by
  unfold statusPacket
  dsimp only
  rw [h]

theorem linked_statusPacket (p : Packet) (s : Touchpad) : Linked s (s.statusPacket G w p) := by
  cases h : statusFingers (p 1 &&& 0x1f) with
  | none =>
    rw [statusPacket_rejected h]
    exact .same rfl rfl
  | some count => exact (counted_statusPacket h s).linked

theorem handled_buttons1F (p : Packet) (packet_type : UInt8) (fid : Int) (s : Touchpad) :
    Handled s (s.buttons1F p packet_type fid) := by
  have hdrag : ∀ s : Touchpad, Handled s s.clickDrag := fun s => .when _ (.same rfl rfl)
  unfold buttons1F
  repeat' split
  · exact handled_Process_Physical_Buttons p s
  · refine .trans (.trans ?_ (handled_virtualButtons _ _ _ _ _)) (hdrag _)
    exact .same rfl rfl
  · exact .refl s

theorem handled_buttonsMulF (p : Packet) (packet_type : UInt8) (fid : Int) (s : Touchpad) :
    Handled s (s.buttonsMulF p packet_type fid) := .when _ (handled_virtualButtons _ _ _ _ s)

theorem handled_absoluteMulF (p : Packet) (fid : Int) (s : Touchpad) : Handled s (s.absoluteMulF G w p fid) := by
  have hbegin : ∀ s : Touchpad, Handled s (s.begin2F G w) := fun s =>
    (handled_checkEdgeSwipe s).trans (.when _ (handled_bothFingers _ _))
  have htouch : ∀ (dx dy : Int) (s : Touchpad), Handled s (s.touchMulF G w fid dx dy) := by
    intro dx dy s
    unfold touchMulF
    repeat' split
    · exact handled_twofingers s
    · exact handled_gesture _ s
    · exact .refl s
  have hstart := (Handled.when (s.cFingers = 2) (hbegin s)).trans (handled_buttonsMulF p PACKET_ABSOLUTE fid _)
  exact (hstart.trans (handled_modifyFinger _ _ _)).trans (htouch _ _ _)

theorem handled_absolutePacket (p : Packet) (s : Touchpad) : Handled s (s.absolutePacket G w p) := by
  have hslots : ∀ (fid : Int) (s : Touchpad), Handled s (s.setSlots fid) := by
    intro fid s
    unfold setSlots
    repeat' split
    all_goals exact .same rfl rfl
  have hbegin : ∀ (fid : Int) (s : Touchpad), Handled s (s.beginAbsolute fid) := by
    intro fid s
    unfold beginAbsolute
    dsimp only
    split
    · exact (hslots fid s).trans (.when _ (handled_modifyFinger _ _ _))
    · exact .refl s
  have htouch : ∀ (fid : Int) (s : Touchpad), Handled s (s.absoluteTouch G w p fid) := by
    intro fid s
    unfold absoluteTouch
    repeat' split
    · exact (handled_buttons1F _ _ _ s).trans (handled_singlefinger _ _)
    · exact handled_absoluteMulF p fid s
    · exact .refl s
  unfold absolutePacket
  dsimp only
  split
  · exact .refl s
  · exact (((handled_modifyFinger _ _ s).trans (hbegin _ _)).trans (htouch _ _)).trans (handled_modifyFinger _ _ _)

theorem handled_relativeTouch (p : Packet) (d : Deltas) (s : Touchpad) : Handled s (s.relativeTouch G w p d) := by
  have hmulti : ∀ (i : Int) (s : Touchpad), Handled s (s.multiFingers G w i d) := fun i s =>
    (handled_use _ s).trans (handled_gesture _ _)
  have hsecond : ∀ s : Touchpad, Handled s (s.relativeSecond G w d) := by
    intro s
    have hback : Handled s s.packetsBack := .same rfl rfl
    unfold relativeSecond
    split
    · exact hback.trans (hmulti _ _)
    · exact .refl s
  have h2F : Handled s (s.relative2F G w p d) := by
    unfold relative2F
    split
    · exact ((Handled.when _ (handled_bothFingers _ s)).trans (handled_use _ _)).trans (handled_gesture _ _)
    · exact handled_twofingers s
  have hMulF : Handled s (s.relativeMulF G w p d) := by
    have hbuttons := handled_buttonsMulF p PACKET_RELATIVE s.pid s
    unfold relativeMulF
    dsimp only
    split
    · exact (hbuttons.trans (hmulti _ _)).trans (hsecond _)
    · exact hbuttons
  unfold relativeTouch
  repeat' split
  · exact h2F
  · exact hMulF
  · exact .refl s

theorem handled_relativePacket (p : Packet) (s : Touchpad) : Handled s (s.relativePacket G w p) := by
  have hmove : ∀ (i : Int) (d : Deltas) (s : Touchpad), Handled s (s.moveSlot i d) := fun i d s =>
    .when _ (handled_modifyFinger _ _ s)
  have harrive : ∀ s : Touchpad, Handled s s.arriveBoth := fun s =>
    (handled_modifyFinger _ _ s).trans (.when _ (handled_modifyFinger _ _ _))
  have hslots : Handled s { s with pid := (s.relativeSlots p).1, sid := (s.relativeSlots p).2 } := .same rfl rfl
  have hmoved := fun d1 d2 => (hslots.trans (hmove (s.relativeSlots p).1 d1 _)).trans (hmove (s.relativeSlots p).2 d2 _)
  unfold relativePacket
  dsimp only
  split
  · exact hmoved _ _
  · exact ((hmoved _ _).trans (handled_relativeTouch _ _ _)).trans (harrive _)

/-- What is done with a packet that is not swallowed, if its status is known. -/
theorem counted_eventV4 {packet_type : UInt8} {p : Packet}
    (h : packet_type = PACKET_STATUS → ∃ count, statusFingers (p 1 &&& 0x1f) = some count) (s : Touchpad) :
    Counted s (s.eventV4 G w packet_type p) := by
  unfold eventV4
  split
  · next hstatus =>
    obtain ⟨count, hcount⟩ := h hstatus
    exact counted_statusPacket hcount s
  · repeat' split
    · exact (handled_absolutePacket p s).counted
    · exact (handled_relativePacket p s).counted
    · exact .refl s

theorem handled_start (p : Packet) (s : Touchpad) : Handled s ((s.notePalm p).countGestureTime (w.uptime 1)) :=
  (handled_notePalm p s).update rfl rfl

theorem handled_accidental (p : Packet) (s : Touchpad) : Handled s (s.notePalm p).accidentalMode :=
  (handled_notePalm p s).update rfl rfl

theorem counted_absolute_events {packet_type : UInt8} {p : Packet}
    (h : packet_type = PACKET_STATUS → ∃ count, statusFingers (p 1 &&& 0x1f) = some count) (s : Touchpad) :
    Counted s (s.Process_absolute_events_ELANv4AndFocalTech G w packet_type p) := by
  have hpalm := handled_notePalm p s
  unfold Process_absolute_events_ELANv4AndFocalTech
  repeat' split
  · exact hpalm.counted
  · exact (handled_accidental p s).counted
  · exact (handled_start p s).counted.trans (counted_eventV4 h _)

theorem linked_absolute_events (packet_type : UInt8) (p : Packet) (s : Touchpad) :
    Linked s (s.Process_absolute_events_ELANv4AndFocalTech G w packet_type p) := by
  have hpalm := handled_notePalm p s
  have hevent : ∀ s : Touchpad, Linked s (s.eventV4 G w packet_type p) := by
    intro s
    unfold eventV4
    repeat' split
    · exact linked_statusPacket p s
    · exact (handled_absolutePacket p s).linked
    · exact (handled_relativePacket p s).linked
    · exact .refl s
  unfold Process_absolute_events_ELANv4AndFocalTech
  repeat' split
  · exact hpalm.linked
  · exact (handled_accidental p s).linked
  · exact (handled_start p s).linked.trans (hevent _)

end Touchpad
end ApplePS2
