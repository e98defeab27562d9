import ApplePS2.Touchpad.AbsolutePackets
import ApplePS2.Transition

/- The positions of the fingers over a run of packets of ELAN's version 4 and of
   FocalTech's touchpads, beside the positions in exact integers that the packets
   report: absolute ones, moved by relative ones, until the finger is reset.

   1. `wrapped_iff`: an unsigned number of 16 bits is an integer just when it is in range.
   2. `position_fingers_change`, `placed` and the lemmas beside them: what leaves the positions alone.
   3. `positioned_iff`: in every state of a run the positions are the reported ones just
      when every packet is exact. -/
namespace ApplePS2

open Transition

/-- The properties of edge swipes. -/
structure EdgeSwipes where
  has2WayEdgeSwipes : Bool
  leftEdge : UInt8
  rightEdge : UInt8
  topEdge : UInt8
  bottomEdge : UInt8
  edgeFingers : UInt8
  edgeHArea : UInt16
  edgeVArea : UInt16
  nonEdgeHArea : UInt16
  nonEdgeVArea : UInt16
  edgeHDistance : UInt16
  edgeVDistance : UInt16

/-- One of two coordinates is below the bound. -/
def below (bound : Int) (a : UInt16) : Bool := (a.toNat : Int) < bound

def above (bound : Int) (a : UInt16) : Bool := (a.toNat : Int) > bound

namespace Touchpad

variable (E : EdgeSwipes)

/-- Both fingers start outside of the corners. -/
def startsBetween (s : Touchpad) : Bool :=
  let f := s.fing 0
  let g := s.fing 1
  let vertical (y : UInt16) : Bool :=
    above (s.ymin.toNat + E.nonEdgeVArea.toNat) y && below (s.ymax.toNat - E.nonEdgeVArea.toNat) y
  let horizontal (x : UInt16) : Bool :=
    above (s.xmin.toNat + E.nonEdgeHArea.toNat) x && below (s.xmax.toNat - E.nonEdgeHArea.toNat) x
  s.swipe.hasEdgeSwipes && (E.edgeFingers = 0 || E.edgeFingers = 2) && f.y ≠ 0 && g.y ≠ 0 &&
    (vertical f.start_y && vertical g.start_y || horizontal f.start_x && horizontal g.start_x)

/-- The edge at which both fingers start, or away from which they do while a swipe of two ways goes on. -/
def edgeDirection (s : Touchpad) : Option UInt8 :=
  let f := s.fing 0
  let g := s.fing 1
  let both (c : UInt16 → Bool) (a : Finger → UInt16) : Bool := c (a f) && c (a g)
  let either (c : UInt16 → Bool) (a : Finger → UInt16) : Bool := c (a f) || c (a g)
  let back := E.has2WayEdgeSwipes && s.swipe.isEdgeGesture
  if !s.startsBetween E then none
  else if E.topEdge > 0 && (both (below (s.ymin.toNat + E.edgeVArea.toNat)) Finger.start_y ||
      both (above (s.ymin.toNat + E.edgeVDistance.toNat)) Finger.start_y && back) then some 4
  else if E.bottomEdge > 0 && (both (above (s.ymax.toNat - E.edgeVArea.toNat)) Finger.start_y ||
      both (below (s.ymax.toNat - E.edgeVDistance.toNat)) Finger.start_y && back) then some 3
  else if E.rightEdge > 0 && (either (above (s.xmax.toNat - E.edgeHArea.toNat)) Finger.start_x ||
      both (below (s.xmax.toNat - E.edgeHDistance.toNat)) Finger.start_x && back) then some 2
  else if E.leftEdge > 0 && (either (below (s.xmin.toNat + E.edgeHArea.toNat)) Finger.start_x ||
      both (above (s.xmin.toNat + E.edgeHDistance.toNat)) Finger.start_x && back) then some 1
  else none

def Is2FingEdgeSwipe (s : Touchpad) : Touchpad :=
  match s.edgeDirection E with
  | some direction => { s with swipe.direction := direction, swipe.isEdgeGesture := true }
  | none => s

end Touchpad

/-- The gesture functions, with edge swipes of two fingers as they are. -/
structure EdgeGestures extends Gestures where
  edges : EdgeSwipes
  edgeSwipe : ∀ w s, run w .Is2FingEdgeSwipe s = s.Is2FingEdgeSwipe edges

def Finger.position (f : Finger) : Int × Int := (f.x.toNat, f.y.toNat)

def Finger.lastPosition (f : Finger) : Int × Int := (f.last_x.toNat, f.last_y.toNat)

/-- The position that a finger has been reported at since its last reset, in exact integers. -/
abbrev Positions := Int → Option (Int × Int)

/-- The finger is moved by a packet's differences; those of y are negated. -/
def Positions.move (i weight : Int) (dx dy : UInt8) (r : Positions) : Positions :=
  if 0 ≤ i then
    Function.update r i ((r i).map fun at' => (at'.1 + weight * Touchpad.signed dx, at'.2 - weight * Touchpad.signed dy))
  else r

namespace Touchpad

variable (w : TouchpadWorld)

/-! The positions reported. -/

/-- The change of the number of fingers resets the position of this one. -/
def changeResets (i : Int) (s : Touchpad) : Bool :=
  let s := s |> updateSlots |> cancelTimers |> clearHeldDrag |> continueTouch
  s.clearsFingers && s.clearedFrom ≤ i && i < STD_MAX_FINGERS && s.clearsPlace i

def endResets (i : Int) (s : Touchpad) : Bool :=
  if s.lastFingers > 0 && s.touchmode ≠ .MODE_BUTTONS && !s.kbEvent.showPressWidth then 0 ≤ i && i < STD_MAX_FINGERS
  else s.changeResets i

/-- The status packet resets the position of this finger. -/
def statusResets (p : Packet) (i : Int) (s : Touchpad) : Bool :=
  let mask := p 1 &&& 0x1f
  let s := s.setFingers mask
  match statusFingers mask with
  | none => false
  | some count =>
    if count = 0 then (s.buttonsV4 p).endResets i
    else { s.when (mask = 0x02) tapIn2FMove with cFingers := count }.changeResets i

/-- The position in an absolute packet: x as sent, and y from the other edge. -/
def sentPosition (p : Packet) (s : Touchpad) : Int × Int :=
  let y := if s.touchpadVendor = .STD_FOCAL_TECH then bits12 (p 3) (p 4) else bits12 (p 4) (p 5)
  ((bits12 (p 1) (p 2)).toNat, s.ymax.toNat - y.toNat)

def absoluteReport (p : Packet) (s : Touchpad) (r : Positions) : Positions :=
  if s.absoluteSlot p < 0 then r else Function.update r (s.absoluteSlot p) (some (s.sentPosition p))

def relativeReport (p : Packet) (s : Touchpad) (r : Positions) : Positions :=
  r |>.move (s.relativeSlots p).1 (s.relativeWeight p) (p 1) (p 2)
    |>.move (s.relativeSlots p).2 (s.relativeWeight p) (p 4) (p 5)

def eventReport (packet_type : UInt8) (p : Packet) (s : Touchpad) (r : Positions) : Positions :=
  if packet_type = PACKET_STATUS then fun i => if s.statusResets p i then none else r i
  else if packet_type = PACKET_ABSOLUTE then s.absoluteReport p r
  else if packet_type = PACKET_RELATIVE then s.relativeReport p r
  else r

/-- The state in which a packet is processed. -/
def started (p : Packet) (s : Touchpad) : Touchpad := (s.notePalm p).countGestureTime (w.uptime 1)

def report (packet_type : UInt8) (p : Packet) (s : Touchpad) (r : Positions) : Positions :=
  if s.isSwallowed packet_type then r else (s.started w p).eventReport packet_type p r

/-! What leaves the positions alone. -/

/-- The fingers are where they were, and the device is the same. -/
structure Still (s t : Touchpad) : Prop where
  position : ∀ i, (t.fing i).position = (s.fing i).position
  vendor : t.touchpadVendor = s.touchpadVendor

theorem Still.refl (s : Touchpad) : Still s s := ⟨fun _ => rfl, rfl⟩

theorem Still.trans {s t u : Touchpad} (h : Still s t) (h' : Still t u) : Still s u :=
  ⟨fun i => (h'.position i).trans (h.position i), h'.vendor.trans h.vendor⟩

theorem Still.when {s : Touchpad} {f : Touchpad → Touchpad} (c : Bool) (h : Still s (f s)) : Still s (s.when c f) := by
  cases c with
  | true => exact h
  | false => exact .refl s

theorem Still.same {s t : Touchpad} (h : t.fing = s.fing) (hvendor : t.touchpadVendor = s.touchpadVendor) :
    Still s t := ⟨fun i => by rw [h], hvendor⟩

theorem Still.modify {i : Int} {g : Finger → Finger} (hg : ∀ f, (g f).position = f.position) (s : Touchpad) :
    Still s (s.modifyFinger i g) := by
  refine ⟨fun j => ?_, rfl⟩
  show (Function.update s.fing i (g (s.fing i)) j).position = _
  by_cases hj : j = i
  · rw [hj, Function.update_self]
    exact hg _
  · rw [Function.update_of_ne hj]

variable {w}

theorem Kept.still {s t : Touchpad} (h : Kept s t) : Still s t := by
  constructor
  · intro i
    have hfing := congrFun (congrArg Touchpad.fing h.fixed) i
    show (t.fing i).reported.position = (s.fing i).reported.position
    exact congrArg Finger.position hfing
  · show t.fixed.touchpadVendor = s.fixed.touchpadVendor
    rw [h.fixed]

/-- Not on Synaptics' touchpads, whose touches may end on the way. -/
theorem still_gesture {G : Gestures} {s : Touchpad} (hs : s.touchpadVendor ≠ .STD_SYNAPTICS) (g : Gesture) :
    Still s (s.gesture G w g) := by
  have hgestured := G.gestured w g s
  unfold gesture
  generalize G.run w g s = t at hgestured ⊢
  cases hgestured with
  | kept h => exact h.still
  | ended hvendor _ _ => exact absurd hvendor hs

theorem fing_releaseAppSwitch (s : Touchpad) : s.releaseAppSwitch.fing = s.fing := by
  unfold releaseAppSwitch
  split <;> rfl

theorem still_Process_Physical_Buttons (p : Packet) (s : Touchpad) : Still s (s.Process_Physical_Buttons p) := by
  have hsame := unpressed_processPhysicalButtons p s
  have hfing := congrArg Touchpad.fing hsame
  have hvendor := congrArg Touchpad.touchpadVendor hsame
  exact .same hfing hvendor

/-- Virtual buttons leave the whole table alone. -/
theorem fing_virtualButtons (p : Packet) (packetType fid fCount : UInt8) (s : Touchpad) :
    (s.Process_ClickPad_Virtual_Buttons p packetType fid fCount).fing = s.fing := by
  have hdispatch : ∀ s : Touchpad, s.virtualDispatch.fing = s.fing := by
    intro s
    have hstop : (s.when s.pContinuousMove StopPointerEnhanceTimer).fing = s.fing := by
      unfold when
      split <;> rfl
    unfold virtualDispatch
    dsimp only
    split
    · exact (fing_releaseAppSwitch _).trans hstop
    · exact (fing_releaseAppSwitch _).trans hstop
  have hclick : ∀ s : Touchpad, (s.virtualClick1F fid).fing = s.fing := by
    intro s
    unfold virtualClick1F
    split
    · rfl
    · exact hdispatch _
  unfold Process_ClickPad_Virtual_Buttons
  repeat' split
  · rfl
  · exact hclick _
  · exact hdispatch _
  · exact hdispatch _
  · unfold virtualRelease
    split <;> rfl

theorem still_virtualButtons (p : Packet) (packetType fid fCount : UInt8) (s : Touchpad) :
    Still s (s.Process_ClickPad_Virtual_Buttons p packetType fid fCount) :=
  .same (fing_virtualButtons p packetType fid fCount s)
    (congrArg Link.touchpadVendor (handled_virtualButtons p packetType fid fCount s).linked.link)

/-- Up to its resets. -/
theorem still_changing (s : Touchpad) : Still s (s |> updateSlots |> cancelTimers |> clearHeldDrag |> continueTouch) := by
  have hslots : Still s s.updateSlots := by
    unfold updateSlots
    repeat' split
    all_goals exact .same rfl rfl
  have htimers : ∀ s : Touchpad, Still s s.cancelTimers := fun s =>
    .trans (.when _ (.same rfl rfl)) (.when _ (.same rfl rfl))
  have hdrag : ∀ s : Touchpad, Still s s.clearHeldDrag := by
    intro s
    have huse : Still s (s.when (!s.drag.isTapDrag && s.drag.isHoldDrag) (use [s.pid])) := .when _ (.same rfl rfl)
    unfold clearHeldDrag
    dsimp only
    split
    · exact huse.trans (.same rfl rfl)
    · exact huse
  have hcontinue : ∀ s : Touchpad, Still s s.continueTouch := fun s => .same rfl rfl
  exact ((hslots.trans (htimers _)).trans (hdrag _)).trans (hcontinue _)

/-- A finger that the change of their number does not reset. -/
theorem position_fingers_change {i : Int} {s : Touchpad} (h : s.changeResets i = false) :
    (s.Process_fingers_change.fing i).position = (s.fing i).position := by
  have hchanging := (still_changing s).position i
  have hrest : ∀ t : Touchpad, t.clearModes.startTouch.fing = t.fing := by
    intro t
    unfold startTouch when
    split <;> rfl
  unfold changeResets at h
  dsimp only at h
  unfold Process_fingers_change
  rw [hrest, ← hchanging]
  generalize (s |> updateSlots |> cancelTimers |> clearHeldDrag |> continueTouch) = t at h ⊢
  unfold clearFingers when
  split
  · next hclears =>
    dsimp only
    split
    · next hrange =>
      have hplace : t.clearsPlace i = false := by
        simpa [hclears, hrange.1, hrange.2] using h
      rw [hplace]
      rfl
    · rfl
  · rfl

variable {G : EdgeGestures}

/-- A finger that a status packet without fingers does not reset. -/
theorem position_endStatus {i : Int} {s : Touchpad} (h : s.endResets i = false) :
    ((s.endStatus G.toGestures w).fing i).position = (s.fing i).position := by
  unfold endResets at h
  unfold endStatus
  split
  · next hend =>
    rw [if_pos hend] at h
    have hkept := (G.touchEnd w s).still.position i
    have hout : ¬ (0 ≤ i ∧ i < STD_MAX_FINGERS) := by simpa using h
    have hclear : ∀ t : Touchpad, t.clearTouch.fing i = t.fing i := fun t => if_neg hout
    have hlight : ∀ t : Touchpad, t.backLightOff.fing = t.fing := by
      intro t
      unfold backLightOff
      split <;> rfl
    have hwhen : ∀ (c : Bool) (t : Touchpad), (t.when c backLightOff).fing = t.fing := by
      intro c t
      cases c with
      | true => exact hlight t
      | false => rfl
    show ((((G.run w .Process_touch_end s).clearTouch.when _ backLightOff).fing) i).position = _
    rw [hwhen, hclear]
    exact hkept
  · next hend =>
    rw [if_neg hend] at h
    exact position_fingers_change h

theorem position_statusPacket {p : Packet} {i : Int} {s : Touchpad} (h : s.statusResets p i = false) :
    ((s.statusPacket G.toGestures w p).fing i).position = (s.fing i).position := by
  have hbuttons : ∀ s : Touchpad, Still s (s.buttonsV4 p) := by
    intro s
    have hcount : Still s { s with packetsCount := s.packetsCount + 1 } := .same rfl rfl
    unfold buttonsV4
    repeat' split
    · exact still_virtualButtons _ _ _ _ s
    · exact .refl s
    · exact hcount.trans (still_Process_Physical_Buttons p _)
  have htap : ∀ s : Touchpad, s.tapIn2FMove.fing = s.fing := by
    intro s
    unfold tapIn2FMove
    split <;> rfl
  have hwhen : ∀ (c : Bool) (s : Touchpad), (s.when c tapIn2FMove).fing = s.fing := by
    intro c s
    cases c with
    | true => exact htap s
    | false => rfl
  unfold statusResets at h
  unfold statusPacket
  dsimp only at h ⊢
  cases hcount : statusFingers (p 1 &&& 0x1f) with
  | none => rfl
  | some count =>
    rw [hcount] at h
    dsimp only at h ⊢
    split
    · next hzero =>
      rw [if_pos hzero] at h
      exact (position_endStatus h).trans ((hbuttons _).position i)
    · next hzero =>
      rw [if_neg hzero] at h
      refine (position_fingers_change h).trans ?_
      show (((s.setFingers (p 1 &&& 0x1f)).when (p 1 &&& 0x1f = 0x02) tapIn2FMove).fing i).position = _
      rw [hwhen]
      rfl

/-! Absolute packets. -/

/-- The finger at the position of an absolute packet, before anything else is done with it. -/
def placed (p : Packet) (s : Touchpad) : Touchpad :=
  s |> modifyFinger (s.absoluteSlot p) (s.absoluteFinger p) |> beginAbsolute (s.absoluteSlot p)

/-- The finger's start and last position are set to the packet's. -/
def startsAbsolute (fid : Int) (s : Touchpad) : Bool :=
  (s.fing fid).unstarted ||
    s.packetsCount = 0 && !(s.swipe.direction > 0 || s.lastFingers = 1 && s.cFingers = 2)

/-- They are set with both fingers, as there is no edge swipe. -/
def starts2F (E : EdgeSwipes) (p : Packet) (s : Touchpad) : Bool :=
  let t := s.placed p
  s.cFingers = 2 && !(t.swipe.isEdgeGesture || (t.edgeDirection E).isSome) &&
    (s.absoluteSlot p = t.pid || s.absoluteSlot p = t.sid)

/-- The finger starts here, or it has not moved since its last packet. -/
def Rests (E : EdgeSwipes) (p : Packet) (s : Touchpad) : Prop :=
  s.startsAbsolute (s.absoluteSlot p) = true ∨ s.starts2F E p = true ∨
    (s.fing (s.absoluteSlot p)).lastPosition = s.sentPosition p

/-- The packet is on the touchpad, and one of several fingers rests. -/
def AbsoluteExact (E : EdgeSwipes) (p : Packet) (s : Touchpad) : Prop :=
  0 ≤ (s.sentPosition p).2 ∧ (2 ≤ s.cFingers ∧ s.cFingers ≤ 5 → s.Rests E p)

theorem fing_modifyFinger (i : Int) (g : Finger → Finger) (s : Touchpad) (j : Int) :
    (s.modifyFinger i g).fing j = if j = i then g (s.fing j) else s.fing j := by
  show Function.update s.fing i (g (s.fing i)) j = _
  by_cases hj : j = i
  · rw [if_pos hj, hj, Function.update_self]
  · rw [if_neg hj, Function.update_of_ne hj]

theorem fing_bothFingers {g : Finger → Finger} (hg : ∀ f, g (g f) = g f) (s : Touchpad) (i : Int) :
    (s.bothFingers g).fing i = if i = s.pid ∨ i = s.sid then g (s.fing i) else s.fing i := by
  show ((s.modifyFinger s.pid g).modifyFinger s.sid g).fing i = _
  rw [fing_modifyFinger, fing_modifyFinger]
  by_cases hsid : i = s.sid
  · rw [if_pos hsid, if_pos (Or.inr hsid)]
    split
    · exact hg _
    · rfl
  · rw [if_neg hsid]
    simp [hsid]

theorem fing_setSlots (fid : Int) (s : Touchpad) : (s.setSlots fid).fing = s.fing := by
  unfold setSlots
  repeat' split
  all_goals rfl

theorem fing_beginAbsolute (fid : Int) (s : Touchpad) (i : Int) :
    (s.beginAbsolute fid).fing i =
      if i = fid ∧ s.startsAbsolute fid then { (s.fing i).begin with tdx := 0, tdy := 0 } else s.fing i := by
  have hwhen : ∀ (c : Bool) (g : Finger → Finger),
      ((s.setSlots fid).when c (modifyFinger fid g)).fing i = if i = fid ∧ c then g (s.fing i) else s.fing i := by
    intro c g
    cases c with
    | true =>
      show ((s.setSlots fid).modifyFinger fid g).fing i = _
      rw [fing_modifyFinger, fing_setSlots]
      simp
    | false => simp [when, fing_setSlots]
  unfold beginAbsolute startsAbsolute
  dsimp only
  split
  · next hfirst =>
    rw [hwhen]
    cases hfresh : (s.fing fid).unstarted with
    | true => simp
    | false =>
      have hcount : s.packetsCount = 0 := by simpa [hfresh] using hfirst
      simp [hcount]
  · next hlater =>
    have hnone := Bool.eq_false_iff.2 hlater
    rw [Bool.or_eq_false_iff] at hnone
    simp [hnone.1, hnone.2]

theorem startsAbsolute_placed (p : Packet) (s : Touchpad) :
    (s.modifyFinger (s.absoluteSlot p) (s.absoluteFinger p)).startsAbsolute (s.absoluteSlot p) =
      s.startsAbsolute (s.absoluteSlot p) := by
  have hfinger : ∀ f : Finger, (s.absoluteFinger p f).unstarted = f.unstarted := by
    intro f
    unfold absoluteFinger
    split <;> rfl
  unfold startsAbsolute
  rw [fing_modifyFinger, if_pos rfl, hfinger]
  rfl

/-- The finger of an absolute packet. -/
theorem fing_placed (p : Packet) (s : Touchpad) :
    (s.placed p).fing (s.absoluteSlot p) =
      if s.startsAbsolute (s.absoluteSlot p) then
        { (s.absoluteFinger p (s.fing (s.absoluteSlot p))).begin with tdx := 0, tdy := 0 }
      else s.absoluteFinger p (s.fing (s.absoluteSlot p)) := by
  unfold placed
  rw [fing_beginAbsolute, startsAbsolute_placed, fing_modifyFinger, if_pos rfl]
  simp

theorem fing_placed_of_ne {p : Packet} {s : Touchpad} {i : Int} (hi : i ≠ s.absoluteSlot p) :
    (s.placed p).fing i = s.fing i := by
  unfold placed
  rw [fing_beginAbsolute, if_neg fun h => hi h.1, fing_modifyFinger, if_neg hi]

/-- The position is moved once more by its difference to the last one: it stays where it is just
when there is none. -/
theorem position_leap (f : Finger) :
    (f.move f.dx f.dy).position = f.position ↔ f.lastPosition = f.position := by
  have hx := f.x.toNat_lt
  have hy := f.y.toNat_lt
  have hlx := f.last_x.toNat_lt
  have hly := f.last_y.toNat_lt
  unfold Finger.move Finger.position Finger.lastPosition Finger.dx Finger.dy
  simp only [toNat_ofInt, Prod.mk.injEq]
  omega

/-- The finger is at the position sent just when y is no more than its maximum. -/
theorem position_absoluteFinger (p : Packet) (s : Touchpad) (f : Finger) :
    (s.absoluteFinger p f).position = s.sentPosition p ↔ 0 ≤ (s.sentPosition p).2 := by
  have hy : ∀ y : UInt16, ((s.ymax - y).toNat : Int) = s.ymax.toNat - y.toNat ↔ (0 : Int) ≤ s.ymax.toNat - y.toNat := by
    intro y
    have hmax := s.ymax.toNat_lt
    have hlt := y.toNat_lt
    rw [UInt16.toNat_sub]
    omega
  unfold absoluteFinger sentPosition Finger.position
  split
  · exact ⟨fun h => (hy _).1 (congrArg Prod.snd h), fun h => Prod.ext rfl ((hy _).2 h)⟩
  · exact ⟨fun h => (hy _).1 (congrArg Prod.snd h), fun h => Prod.ext rfl ((hy _).2 h)⟩

theorem fing_begin2F (s : Touchpad) (i : Int) :
    (s.begin2F G.toGestures w).fing i =
      if !(s.swipe.isEdgeGesture || (s.edgeDirection G.edges).isSome) ∧ (i = s.pid ∨ i = s.sid) then (s.fing i).begin
      else s.fing i := by
  have hbegin : ∀ f : Finger, f.begin.begin = f.begin := fun f => rfl
  have hcheck : s.checkEdgeSwipe G.toGestures w = if s.swipe.isEdgeGesture then s else s.Is2FingEdgeSwipe G.edges := by
    unfold checkEdgeSwipe gesture
    rw [G.edgeSwipe]
  have hwhen : ∀ (c : Bool) (t : Touchpad), (t.when c (bothFingers Finger.begin)).fing i =
      if c ∧ (i = t.pid ∨ i = t.sid) then (t.fing i).begin else t.fing i := by
    intro c t
    cases c with
    | true =>
      show (t.bothFingers Finger.begin).fing i = _
      rw [fing_bothFingers hbegin]
      simp
    | false => simp [when]
  unfold begin2F
  dsimp only
  rw [hwhen, hcheck]
  cases hedge : s.swipe.isEdgeGesture with
  | true => simp [hedge]
  | false =>
    unfold Is2FingEdgeSwipe
    cases hdirection : s.edgeDirection G.edges with
    | some direction => simp
    | none => simp [hedge]

theorem placed_same (p : Packet) (s : Touchpad) :
    (s.placed p).cFingers = s.cFingers ∧ (s.placed p).touchpadVendor = s.touchpadVendor := by
  have hslots : ∀ (fid : Int) (t : Touchpad),
      (t.setSlots fid).cFingers = t.cFingers ∧ (t.setSlots fid).touchpadVendor = t.touchpadVendor := by
    intro fid t
    unfold setSlots
    repeat' split
    all_goals exact ⟨rfl, rfl⟩
  have hwhen : ∀ (c : Bool) (g : Finger → Finger) (fid : Int) (t : Touchpad),
      (t.when c (modifyFinger fid g)).cFingers = t.cFingers ∧
        (t.when c (modifyFinger fid g)).touchpadVendor = t.touchpadVendor := by
    intro c g fid t
    cases c <;> exact ⟨rfl, rfl⟩
  unfold placed beginAbsolute
  dsimp only
  split
  · obtain ⟨hcount, hvendor⟩ := hslots (s.absoluteSlot p) (s.modifyFinger (s.absoluteSlot p) (s.absoluteFinger p))
    exact ⟨(hwhen _ _ _ _).1.trans hcount, (hwhen _ _ _ _).2.trans hvendor⟩
  · exact ⟨rfl, rfl⟩

/-- The finger of which the difference is taken. -/
def leaping (G : EdgeGestures) (w : TouchpadWorld) (p : Packet) (s : Touchpad) : Finger :=
  (((s.placed p).when ((s.placed p).cFingers = 2) (begin2F G.toGestures w)).buttonsMulF p PACKET_ABSOLUTE
    (s.absoluteSlot p)).fing (s.absoluteSlot p)

theorem leaping_eq (p : Packet) (s : Touchpad) :
    s.leaping G w p =
      if s.starts2F G.edges p then ((s.placed p).fing (s.absoluteSlot p)).begin
      else (s.placed p).fing (s.absoluteSlot p) := by
  have hbuttons : ∀ t : Touchpad, (t.buttonsMulF p PACKET_ABSOLUTE (s.absoluteSlot p)).fing = t.fing := by
    intro t
    unfold buttonsMulF when
    split
    · exact fing_virtualButtons _ _ _ _ t
    · rfl
  have hwhen : ∀ (c : Bool) (t : Touchpad) (i : Int), (t.when c (begin2F G.toGestures w)).fing i =
      if c ∧ !(t.swipe.isEdgeGesture || (t.edgeDirection G.edges).isSome) ∧ (i = t.pid ∨ i = t.sid) then
        (t.fing i).begin
      else t.fing i := by
    intro c t i
    cases c with
    | true => simpa [when] using fing_begin2F (w := w) t i
    | false => simp [when]
  unfold leaping starts2F
  dsimp only
  rw [hbuttons, hwhen, (placed_same p s).1]
  simp [and_assoc]

theorem position_leaping (p : Packet) (s : Touchpad) :
    (s.leaping G w p).position = (s.absoluteFinger p (s.fing (s.absoluteSlot p))).position := by
  rw [leaping_eq, fing_placed]
  split <;> split <;> rfl

theorem rests_iff {p : Packet} {s : Touchpad} (h : 0 ≤ (s.sentPosition p).2) :
    (s.leaping G w p).lastPosition = (s.leaping G w p).position ↔ s.Rests G.edges p := by
  have hsent := (position_absoluteFinger p s (s.fing (s.absoluteSlot p))).2 h
  have hlast : (s.absoluteFinger p (s.fing (s.absoluteSlot p))).lastPosition =
      (s.fing (s.absoluteSlot p)).lastPosition := by
    unfold absoluteFinger
    split <;> rfl
  have hplaced := fing_placed p s
  rw [position_leaping, hsent, leaping_eq, hplaced]
  unfold Rests
  cases hstarts : s.startsAbsolute (s.absoluteSlot p) with
  | true =>
    refine iff_of_true ?_ (.inl rfl)
    rw [← hsent]
    split <;> rfl
  | false =>
    cases hboth : s.starts2F G.edges p with
    | true => exact iff_of_true hsent (.inr (.inl rfl))
    | false =>
      show (s.absoluteFinger p (s.fing (s.absoluteSlot p))).lastPosition = _ ↔ _
      rw [hlast]
      simp

theorem still_bothFingers {g : Finger → Finger} (hg : ∀ f, (g f).position = f.position) (s : Touchpad) :
    Still s (s.bothFingers g) :=
  (Still.modify hg s).trans (Still.modify hg _)

theorem still_buttons1F (p : Packet) (packet_type : UInt8) (fid : Int) (s : Touchpad) :
    Still s (s.buttons1F p packet_type fid) := by
  have hdrag : ∀ s : Touchpad, Still s s.clickDrag := fun s => .when _ (.same rfl rfl)
  unfold buttons1F
  repeat' split
  · exact still_Process_Physical_Buttons p s
  · refine .trans (.trans ?_ (still_virtualButtons _ _ _ _ _)) (hdrag _)
    exact .same rfl rfl
  · exact .refl s

theorem still_singlefinger {s : Touchpad} (hs : s.touchpadVendor ≠ .STD_SYNAPTICS) (fid : Int) :
    Still s (s.singlefinger G.toGestures w fid) := by
  have huse : Still s (s.use [fid]) := .same rfl rfl
  exact huse.trans (still_gesture (s := s.use [fid]) hs _)

theorem still_twofingers {s : Touchpad} (hs : s.touchpadVendor ≠ .STD_SYNAPTICS) :
    Still s (s.twofingers G.toGestures w) := by
  have huse : Still s (s.use [s.pid, s.sid]) := .same rfl rfl
  exact huse.trans (still_gesture (s := s.use [s.pid, s.sid]) hs _)

theorem still_touchMulF {s : Touchpad} (hs : s.touchpadVendor ≠ .STD_SYNAPTICS) (fid dx dy : Int) :
    Still s (s.touchMulF G.toGestures w fid dx dy) := by
  unfold touchMulF
  repeat' split
  · exact still_twofingers hs
  · exact still_gesture hs _
  · exact .refl s

/-- Up to the difference. -/
theorem still_startMulF (p : Packet) (fid : Int) {s : Touchpad} (hs : s.touchpadVendor ≠ .STD_SYNAPTICS) :
    Still s ((s.when (s.cFingers = 2) (begin2F G.toGestures w)).buttonsMulF p PACKET_ABSOLUTE fid) := by
  have hbegin : Still s (s.begin2F G.toGestures w) := by
    have hcheck : Still s (s.checkEdgeSwipe G.toGestures w) := by
      unfold checkEdgeSwipe
      split
      · exact .refl s
      · exact still_gesture hs _
    exact hcheck.trans (.when _ (still_bothFingers (g := Finger.begin) (fun _ => rfl) _))
  exact Still.trans (.when _ hbegin) (.when _ (still_virtualButtons _ _ _ _ _))

/-- The finger of an absolute packet is where the packet says, but for the leap of one of several
fingers. The other fingers are where they were. -/
theorem position_absolutePacket {p : Packet} {s : Touchpad} (hs : s.touchpadVendor ≠ .STD_SYNAPTICS)
    (hslot : ¬ s.absoluteSlot p < 0) (i : Int) :
    ((s.absolutePacket G.toGestures w p).fing i).position =
      if i = s.absoluteSlot p then
        (if 2 ≤ s.cFingers ∧ s.cFingers ≤ 5 then
          ((s.leaping G w p).move (s.leaping G w p).dx (s.leaping G w p).dy).position
        else (s.absoluteFinger p (s.fing i)).position)
      else (s.fing i).position := by
  have hvendor : (s.placed p).touchpadVendor ≠ .STD_SYNAPTICS := by
    rw [(placed_same p s).2]
    exact hs
  have hplaced : ((s.placed p).fing i).position =
      if i = s.absoluteSlot p then (s.absoluteFinger p (s.fing i)).position else (s.fing i).position := by
    by_cases hi : i = s.absoluteSlot p
    · rw [if_pos hi, hi, fing_placed]
      split <;> rfl
    · rw [if_neg hi, fing_placed_of_ne hi]
  have harrive : ∀ t : Touchpad, ((t.modifyFinger (s.absoluteSlot p) Finger.arrive).fing i).position =
      (t.fing i).position := fun t => (Still.modify (g := Finger.arrive) (fun _ => rfl) t).position i
  unfold absolutePacket
  dsimp only
  rw [if_neg hslot, harrive]
  show (((s.placed p).absoluteTouch G.toGestures w p (s.absoluteSlot p)).fing i).position = _
  unfold absoluteTouch
  rw [(placed_same p s).1]
  split
  · next hone =>
    have hstill := still_buttons1F p PACKET_ABSOLUTE (s.absoluteSlot p) (s.placed p)
    have htouch := still_singlefinger (G := G) (w := w) (hstill.vendor ▸ hvendor) (s.absoluteSlot p)
    have hnot : ¬ (2 ≤ s.cFingers ∧ s.cFingers ≤ 5) := by
      rw [hone]
      decide
    rw [(hstill.trans htouch).position i, hplaced, if_neg hnot]
  · split
    · next hseveral =>
      have hrange : 2 ≤ s.cFingers ∧ s.cFingers ≤ 5 := by simpa using hseveral
      have hstart := still_startMulF (G := G) (w := w) p (s.absoluteSlot p) hvendor
      have hleap := fing_modifyFinger (s.absoluteSlot p)
        (Finger.move (s.leaping G w p).dx (s.leaping G w p).dy)
        (((s.placed p).when ((s.placed p).cFingers = 2) (begin2F G.toGestures w)).buttonsMulF p PACKET_ABSOLUTE
          (s.absoluteSlot p)) i
      have htouch := still_touchMulF (G := G) (w := w)
        (s := (((s.placed p).when ((s.placed p).cFingers = 2) (begin2F G.toGestures w)).buttonsMulF p PACKET_ABSOLUTE
          (s.absoluteSlot p)).modifyFinger (s.absoluteSlot p)
            (Finger.move (s.leaping G w p).dx (s.leaping G w p).dy))
        (hstart.vendor ▸ hvendor) (s.absoluteSlot p) (s.leaping G w p).dx (s.leaping G w p).dy
      rw [if_pos hrange]
      refine (htouch.position i).trans ?_
      rw [hleap]
      by_cases hi : i = s.absoluteSlot p
      · rw [if_pos hi, if_pos hi, hi]
        rfl
      · rw [if_neg hi, if_neg hi, hstart.position i, hplaced, if_neg hi]
    · next hnone =>
      have hnot : ¬ (2 ≤ s.cFingers ∧ s.cFingers ≤ 5) := by simpa using hnone
      rw [hplaced, if_neg hnot]

/-! Relative packets. -/

def InRange (a : Int × Int) : Prop := 0 ≤ a.1 ∧ a.1 < 65536 ∧ 0 ≤ a.2 ∧ a.2 < 65536

/-- The exact positions stay in 16 bits, and no finger that is moved twice has its first
difference of y, which is subtracted once more with the second one. -/
def RelativeExact (p : Packet) (s : Touchpad) (r : Positions) : Prop :=
  ∀ i a, s.relativeReport p r i = some a →
    InRange a ∧
      (0 ≤ i → i = (s.relativeSlots p).1 → i = (s.relativeSlots p).2 → signed (p 2) = 0)

theorem position_inRange (f : Finger) : InRange f.position := by
  have hx := f.x.toNat_lt
  have hy := f.y.toNat_lt
  unfold InRange Finger.position
  omega

theorem position_move (dx dy : Int) (f : Finger) :
    (f.move dx dy).position = ((f.position.1 + dx) % 65536, (f.position.2 + dy) % 65536) :=
  Prod.ext (toNat_ofInt _) (toNat_ofInt _)

theorem fing_moveSlot (i : Int) (d : Deltas) (s : Touchpad) (j : Int) :
    (s.moveSlot i d).fing j = if 0 ≤ i ∧ j = i then (s.fing j).move (d.x i) (d.y i) else s.fing j := by
  unfold moveSlot when
  by_cases hi : 0 ≤ i
  · rw [if_pos (decide_eq_true hi), fing_modifyFinger]
    simp [hi]
  · rw [if_neg (by simpa using hi), if_neg fun h => hi h.1]

theorem still_multiFingers {s : Touchpad} (hs : s.touchpadVendor ≠ .STD_SYNAPTICS) (i : Int) (d : Deltas) :
    Still s (s.multiFingers G.toGestures w i d) := by
  have huse : Still s (s.use [i]) := .same rfl rfl
  exact huse.trans (still_gesture (s := s.use [i]) hs _)

theorem still_relativeTouch {s : Touchpad} (hs : s.touchpadVendor ≠ .STD_SYNAPTICS) (p : Packet) (d : Deltas) :
    Still s (s.relativeTouch G.toGestures w p d) := by
  have hrestart : ∀ c, Still s (s.when c (bothFingers Finger.restart)) := fun c =>
    .when c (still_bothFingers (g := Finger.restart) (fun _ => rfl) s)
  have hclick : ∀ t : Touchpad, Still s t → Still t (t.clickPad2F G.toGestures w p d) := by
    intro t ht
    have huse : Still t (t.use [t.pid, t.sid]) := .same rfl rfl
    exact huse.trans (still_gesture (s := t.use [t.pid, t.sid]) (ht.vendor ▸ hs) _)
  have hsecond : ∀ t : Touchpad, Still s t → Still t (t.relativeSecond G.toGestures w d) := by
    intro t ht
    have hback : Still t t.packetsBack := .same rfl rfl
    unfold relativeSecond
    split
    · exact hback.trans (still_multiFingers (s := t.packetsBack) (ht.vendor ▸ hs) _ d)
    · exact .refl t
  unfold relativeTouch relative2F relativeMulF
  dsimp only
  split
  · split
    · exact (hrestart _).trans (hclick _ (hrestart _))
    · exact still_twofingers hs
  · split
    · have hbuttons : Still s (s.buttonsMulF p PACKET_RELATIVE s.pid) := .when _ (still_virtualButtons _ _ _ _ s)
      split
      · have hfirst := hbuttons.trans (still_multiFingers (G := G) (w := w) (hbuttons.vendor ▸ hs)
          (s.buttonsMulF p PACKET_RELATIVE s.pid).pid d)
        exact hfirst.trans (hsecond _ hfirst)
      · exact hbuttons
    · exact .refl s

/-- The fingers after a relative packet are where its differences have moved them. -/
theorem position_relativePacket {p : Packet} {s : Touchpad} (hs : s.touchpadVendor ≠ .STD_SYNAPTICS) (i : Int) :
    let d := addDelta (s.relativeSlots p).1 (s.relativeWeight p) (p 1) (p 2) { x := fun _ => 0, y := fun _ => 0 }
    let d' := addDelta (s.relativeSlots p).2 (s.relativeWeight p) (p 4) (p 5) d
    ((s.relativePacket G.toGestures w p).fing i).position =
      (((s.moveSlot (s.relativeSlots p).1 d).moveSlot (s.relativeSlots p).2 d').fing i).position := by
  intro d d'
  have harrive : ∀ t : Touchpad, Still t t.arriveBoth := fun t =>
    (Still.modify (g := Finger.arrive) (fun _ => rfl) t).trans
      (.when _ (Still.modify (g := Finger.arrive) (fun _ => rfl) _))
  have hmoved : ∀ (j k : Int) (t : Touchpad),
      (({ t with pid := j, sid := k }.moveSlot j d).moveSlot k d').fing = ((t.moveSlot j d).moveSlot k d').fing := by
    intro j k t
    funext i
    rw [fing_moveSlot, fing_moveSlot, fing_moveSlot, fing_moveSlot]
  have hvendor : ∀ (j k : Int) (t : Touchpad),
      (({ t with pid := j, sid := k }.moveSlot j d).moveSlot k d').touchpadVendor = t.touchpadVendor := by
    intro j k t
    unfold moveSlot when
    repeat' split
    all_goals rfl
  have hrest := fun t : Touchpad => fun ht : t.touchpadVendor ≠ .STD_SYNAPTICS =>
    ((still_relativeTouch (G := G) (w := w) ht p d').trans (harrive _)).position i
  unfold relativePacket
  dsimp only
  rw [← hmoved]
  split
  · rfl
  · exact hrest _ (by rw [hvendor]; exact hs)

theorem addDelta_x (i weight : Int) (dx dy : UInt8) (d : Deltas) (j : Int) :
    (addDelta i weight dx dy d).x j = if 0 ≤ i ∧ j = i then weight * signed dx else d.x j := by
  unfold addDelta Deltas.set
  by_cases hi : 0 ≤ i <;> by_cases hj : j = i <;> simp [hi, hj]

theorem addDelta_y (i weight : Int) (dx dy : UInt8) (d : Deltas) (j : Int) :
    (addDelta i weight dx dy d).y j = if 0 ≤ i ∧ j = i then d.y j - weight * signed dy else d.y j := by
  unfold addDelta Deltas.set
  by_cases hi : 0 ≤ i <;> by_cases hj : j = i <;> simp [hi, hj]

theorem move_apply (i weight : Int) (dx dy : UInt8) (r : Positions) (j : Int) :
    r.move i weight dx dy j =
      if 0 ≤ i ∧ j = i then (r j).map fun a => (a.1 + weight * signed dx, a.2 - weight * signed dy) else r j := by
  unfold Positions.move
  by_cases hi : 0 ≤ i <;> by_cases hj : j = i <;> simp [hi, hj]

theorem signed_bounds (b : UInt8) : -128 ≤ signed b ∧ signed b ≤ 127 := by
  have hlow := b.toInt8.le_toInt
  have hhigh := b.toInt8.toInt_lt
  unfold signed
  omega

theorem relativeWeight_cases (p : Packet) (s : Touchpad) : s.relativeWeight p = 1 ∨ s.relativeWeight p = 5 := by
  unfold relativeWeight ETD_WEIGHT_VALUE
  split
  · exact .inl rfl
  · split
    · exact .inr rfl
    · exact .inl rfl

theorem wrapped_iff (a : Int × Int) : (a.1 % 65536, a.2 % 65536) = a ↔ InRange a := by
  unfold InRange
  rw [Prod.ext_iff]
  dsimp only
  omega

/-- The same when c has been subtracted once too often from y. -/
theorem wrapped_sub_iff (a : Int × Int) {c : Int} (hlow : -65536 < c) (hhigh : c < 65536) :
    (a.1 % 65536, (a.2 - c) % 65536) = a ↔ InRange a ∧ c = 0 := by
  unfold InRange
  rw [Prod.ext_iff]
  dsimp only
  omega

/-- A finger that was where it is reported is so after a relative packet, just when the packet is exact for it. -/
theorem relative_iff {p : Packet} {s : Touchpad} {r : Positions} (hs : s.touchpadVendor ≠ .STD_SYNAPTICS)
    (h : ∀ i a, r i = some a → (s.fing i).position = a) :
    (∀ i a, s.relativeReport p r i = some a → ((s.relativePacket G.toGestures w p).fing i).position = a) ↔
      s.RelativeExact p r := by
  refine forall_congr' fun i => forall_congr' fun a => forall_congr' fun ha => ?_
  have hrange := position_inRange (s.fing i)
  have hposition := position_relativePacket (G := G) (w := w) (p := p) hs i
  dsimp only at hposition
  rw [hposition]
  unfold relativeReport at ha
  rw [move_apply, move_apply] at ha
  simp only [fing_moveSlot, addDelta_x, addDelta_y]
  obtain ⟨hlow, hhigh⟩ := signed_bounds (p 2)
  have hweight := relativeWeight_cases p s
  generalize (s.relativeSlots p).1 = pid at ha ⊢
  generalize (s.relativeSlots p).2 = sid at ha ⊢
  generalize s.relativeWeight p = weight at ha hweight ⊢
  by_cases hpid : 0 ≤ pid ∧ i = pid
  · obtain ⟨hnonneg, rfl⟩ := hpid
    by_cases hsid : 0 ≤ sid ∧ i = sid
    · -- both slots are the finger's, and its first difference of y counts twice
      obtain ⟨-, rfl⟩ := hsid
      simp only [hnonneg, and_self, if_true, Option.map_map, Option.map_eq_some_iff] at ha ⊢
      obtain ⟨b, hb, rfl⟩ := ha
      have hzero : weight * signed (p 2) = 0 ↔ signed (p 2) = 0 := by
        obtain rfl | rfl := hweight <;> omega
      have hwrapped := wrapped_sub_iff
        (b.1 + weight * signed (p 1) + weight * signed (p 4), b.2 - weight * signed (p 2) - weight * signed (p 5))
        (c := weight * signed (p 2)) (by obtain rfl | rfl := hweight <;> omega)
        (by obtain rfl | rfl := hweight <;> omega)
      have hy : b.2 + (0 - weight * signed (p 2)) + (0 - weight * signed (p 2) - weight * signed (p 5)) =
          b.2 - weight * signed (p 2) - weight * signed (p 5) - weight * signed (p 2) := by omega
      rw [position_move, position_move, h i b hb]
      simp only [Int.emod_add_emod, Function.comp_apply, forall_const, hy, ← hzero]
      exact hwrapped
    · simp only [hnonneg, hsid, and_self, if_true, if_false, Option.map_eq_some_iff] at ha ⊢
      obtain ⟨b, hb, rfl⟩ := ha
      have hy : b.2 + (0 - weight * signed (p 2)) = b.2 - weight * signed (p 2) := by omega
      have hvacuous : ¬ i = sid := fun heq => hsid ⟨heq ▸ hnonneg, heq⟩
      rw [position_move, h i b hb, hy]
      refine (wrapped_iff (b.1 + weight * signed (p 1), b.2 - weight * signed (p 2))).trans ?_
      exact ⟨fun hin => ⟨hin, fun _ _ heq => absurd heq hvacuous⟩, And.left⟩
  · rw [if_neg hpid] at ha ⊢
    have hvacuous : 0 ≤ i → ¬ i = pid := fun hnonneg heq => hpid ⟨heq ▸ hnonneg, heq⟩
    by_cases hsid : 0 ≤ sid ∧ i = sid
    · obtain ⟨hnonneg, rfl⟩ := hsid
      simp only [hnonneg, hpid, and_self, if_true, if_false, Option.map_eq_some_iff] at ha ⊢
      obtain ⟨b, hb, rfl⟩ := ha
      have hy : b.2 + (0 - weight * signed (p 5)) = b.2 - weight * signed (p 5) := by omega
      rw [position_move, h i b hb, hy]
      refine (wrapped_iff (b.1 + weight * signed (p 4), b.2 - weight * signed (p 5))).trans ?_
      exact ⟨fun hin => ⟨hin, fun _ heq _ => absurd heq (hvacuous hnonneg)⟩, And.left⟩
    · rw [if_neg hsid] at ha ⊢
      have hsame := h i a ha
      rw [hsame] at hrange
      exact iff_of_true hsame ⟨hrange, fun hnonneg heq _ => absurd heq (hvacuous hnonneg)⟩

/-- The same for an absolute packet. -/
theorem absolute_iff {p : Packet} {s : Touchpad} {r : Positions} (hs : s.touchpadVendor ≠ .STD_SYNAPTICS)
    (h : ∀ i a, r i = some a → (s.fing i).position = a) :
    (∀ i a, s.absoluteReport p r i = some a → ((s.absolutePacket G.toGestures w p).fing i).position = a) ↔
      (0 ≤ s.absoluteSlot p → s.AbsoluteExact G.edges p) := by
  unfold absoluteReport
  split
  · next hnone =>
    have hpacket : s.absolutePacket G.toGestures w p = s := by
      unfold absolutePacket
      dsimp only
      exact if_pos hnone
    rw [hpacket]
    exact iff_of_true h fun hslot => absurd hslot (Int.not_le.2 hnone)
  · next hslot =>
    have hposition := position_absolutePacket (G := G) (w := w) hs hslot
    have hsent := position_absoluteFinger p s (s.fing (s.absoluteSlot p))
    have hself : ((s.absolutePacket G.toGestures w p).fing (s.absoluteSlot p)).position = s.sentPosition p ↔
        s.AbsoluteExact G.edges p := by
      rw [hposition, if_pos rfl]
      unfold AbsoluteExact
      split
      · next hrange =>
        constructor
        · intro hleap
          have hnonneg : 0 ≤ (s.sentPosition p).2 := by
            rw [← hleap]
            exact Int.natCast_nonneg _
          have hstays := hleap.trans ((position_leaping (G := G) (w := w) p s).trans (hsent.2 hnonneg)).symm
          exact ⟨hnonneg, fun _ => (rests_iff hnonneg).1 ((position_leap _).1 hstays)⟩
        · rintro ⟨hnonneg, hrests⟩
          have hlast := (rests_iff (w := w) hnonneg).2 (hrests hrange)
          rw [(position_leap _).2 hlast, position_leaping]
          exact hsent.2 hnonneg
      · next hrange => exact hsent.trans ⟨fun h => ⟨h, fun hin => absurd hin hrange⟩, And.left⟩
    rw [← hself]
    constructor
    · intro hall _
      exact hall _ _ (Function.update_self ..)
    · intro hexact i a ha
      by_cases hi : i = s.absoluteSlot p
      · subst hi
        rw [Function.update_self] at ha
        rw [hexact (Int.not_lt.1 hslot)]
        exact Option.some.inj ha
      · rw [Function.update_of_ne hi] at ha
        rw [hposition, if_neg hi]
        exact h i a ha

/-! All packets. -/

theorem still_notePalm (p : Packet) (s : Touchpad) : Still s (s.notePalm p) := by
  have hpressure : Still s (s.notePressure p) := .when _ (Still.modify (g := pressureV4 p) (fun _ => rfl) s)
  unfold notePalm
  split
  · exact hpressure.trans (.same rfl rfl)
  · exact hpressure

theorem still_swallowed {packet_type : UInt8} {p : Packet} {s : Touchpad} (h : s.isSwallowed packet_type = true) :
    Still s (s.Process_absolute_events_ELANv4AndFocalTech G.toGestures w packet_type p) := by
  have hpalm := still_notePalm p s
  have haccidental : ∀ t : Touchpad, Still t t.accidentalMode := fun t => .same rfl rfl
  unfold isSwallowed at h
  unfold Process_absolute_events_ELANv4AndFocalTech
  split
  · exact hpalm
  · next hpassed =>
    split
    · exact hpalm.trans (haccidental _)
    · next hordinary => simp_all

theorem process_started {packet_type : UInt8} {p : Packet} {s : Touchpad} (h : s.isSwallowed packet_type = false) :
    s.Process_absolute_events_ELANv4AndFocalTech G.toGestures w packet_type p =
      (s.started w p).eventV4 G.toGestures w packet_type p := by
  unfold isSwallowed at h
  unfold Process_absolute_events_ELANv4AndFocalTech
  rw [if_neg (by cases hpalm : s.isStoppedByPalm <;> simp_all),
    if_neg (by cases haccidental : s.isAccidental <;> simp_all)]
  rfl

/-- The packets of a run are exact for the fingers, if they are absolute or relative ones. -/
theorem event_iff {packet_type : UInt8} {p : Packet} {s : Touchpad} {r : Positions}
    (hs : s.touchpadVendor ≠ .STD_SYNAPTICS) (h : ∀ i a, r i = some a → (s.fing i).position = a) :
    (∀ i a, s.eventReport packet_type p r i = some a →
        ((s.eventV4 G.toGestures w packet_type p).fing i).position = a) ↔
      (packet_type = PACKET_ABSOLUTE → 0 ≤ s.absoluteSlot p → s.AbsoluteExact G.edges p) ∧
        (packet_type = PACKET_RELATIVE → s.RelativeExact p r) := by
  unfold eventReport eventV4
  split
  · next hstatus =>
    subst hstatus
    refine iff_of_true (fun i a ha => ?_) ⟨fun h => absurd h (by decide), fun h => absurd h (by decide)⟩
    cases hreset : s.statusResets p i with
    | true => simp [hreset] at ha
    | false =>
      rw [position_statusPacket hreset]
      exact h i a (by simpa [hreset] using ha)
  · split
    · next habsolute =>
      subst habsolute
      rw [absolute_iff hs h]
      simp [show PACKET_ABSOLUTE ≠ PACKET_RELATIVE by decide]
    · next hnotabsolute =>
      split
      · next hrelative =>
        subst hrelative
        rw [relative_iff hs h]
        simp [show PACKET_RELATIVE ≠ PACKET_ABSOLUTE by decide]
      · next hnotrelative =>
        exact iff_of_true h ⟨fun h => absurd h hnotabsolute, fun h => absurd h hnotrelative⟩

end Touchpad

/-! Runs. -/

/-- A packet, with the type that the driver has found. -/
structure Report where
  world : TouchpadWorld
  packet_type : UInt8
  packet : Packet

/-- The driver of ELAN's or FocalTech's touchpad, and where its fingers are reported. -/
structure Tracked where
  driver : Touchpad
  vendor : driver.touchpadVendor ≠ .STD_SYNAPTICS
  reported : Positions

namespace Tracked

open Touchpad

def step (G : EdgeGestures) (d : Tracked) (e : Report) : Tracked :=
  { driver := d.driver.Process_absolute_events_ELANv4AndFocalTech G.toGestures e.world e.packet_type e.packet
    vendor := by
      have hlinked := linked_absolute_events (G := G.toGestures) (w := e.world) e.packet_type e.packet d.driver
      have hsame := congrArg Link.touchpadVendor hlinked.link
      exact fun h => d.vendor (hsame.symm.trans h)
    reported := d.driver.report e.world e.packet_type e.packet d.reported }

/-- Every finger that has been reported since its last reset is where it is reported. -/
def Positioned (d : Tracked) : Prop := ∀ i a, d.reported i = some a → (d.driver.fing i).position = a

/-- A packet that is swallowed, or of status, or exact. -/
def Exact (G : EdgeGestures) (d : Tracked) (e : Report) : Prop :=
  let s := d.driver.started e.world e.packet
  d.driver.isSwallowed e.packet_type = false →
    (e.packet_type = PACKET_ABSOLUTE → 0 ≤ s.absoluteSlot e.packet → s.AbsoluteExact G.edges e.packet) ∧
      (e.packet_type = PACKET_RELATIVE → s.RelativeExact e.packet d.reported)

variable {G : EdgeGestures}

theorem positioned_step {d : Tracked} (h : Positioned d) (e : Report) : Positioned (d.step G e) ↔ Exact G d e := by
  have hstarted : Still d.driver (d.driver.started e.world e.packet) := (still_notePalm _ _).trans (.same rfl rfl)
  have hvendor : (d.driver.started e.world e.packet).touchpadVendor ≠ .STD_SYNAPTICS := hstarted.vendor ▸ d.vendor
  have hbefore : ∀ i a, d.reported i = some a → ((d.driver.started e.world e.packet).fing i).position = a :=
    fun i a ha => (hstarted.position i).trans (h i a ha)
  unfold Positioned Exact step report
  dsimp only
  cases hswallowed : d.driver.isSwallowed e.packet_type with
  | true =>
    have hstill := still_swallowed (G := G) (w := e.world) (p := e.packet) hswallowed
    exact iff_of_true (fun i a ha => (hstill.position i).trans (h i a ha)) fun hfalse => absurd hfalse (by decide)
  | false =>
    rw [process_started hswallowed]
    simp only [Bool.false_eq_true, if_false, forall_const]
    exact event_iff hvendor hbefore

/-- In every state of a run the fingers are where they are reported, just when every packet is exact. -/
theorem positioned_iff (G : EdgeGestures) {d : Tracked} (h : Positioned d) (es : List Report) :
    (∀ p, p <+: es → Positioned (run (step G) p d)) ↔ ∀ p e, p ++ [e] <+: es → Exact G (run (step G) p d) e :=
  run_invariant_iff (I := Positioned) (C := Exact G) (fun _ e hd => positioned_step hd e) es h

/-- Nothing but edge swipes is recognised, and the packets of several fingers are counted. -/
def edgesOnly (E : EdgeSwipes) (g : Gesture) (s : Touchpad) : Touchpad :=
  match g with
  | .Is2FingEdgeSwipe => s.Is2FingEdgeSwipe E
  | .Process_multiFingers_touch _ _ _ =>
    { s with packetsCount := if s.packetsCount < 255 then s.packetsCount + 1 else s.packetsCount }
  | _ => s

theorem kept_edgesOnly (E : EdgeSwipes) (g : Gesture) (s : Touchpad) : Touchpad.Kept s (edgesOnly E g s) := by
  cases g with
  | Is2FingEdgeSwipe =>
    show Touchpad.Kept s (s.Is2FingEdgeSwipe E)
    unfold Is2FingEdgeSwipe
    split
    · exact ⟨rfl, .inl rfl, .none _ rfl⟩
    · exact .refl s
  | Process_multiFingers_touch => exact ⟨rfl, .inl rfl, .none _ rfl⟩
  | _ => exact .refl s

def EdgesOnly (E : EdgeSwipes) : EdgeGestures :=
  { run := fun _ => edgesOnly E
    gestured := fun _ g s => .kept (kept_edgesOnly E g s)
    touchEnd := fun _ s => kept_edgesOnly E .Process_touch_end s
    edges := E
    edgeSwipe := fun _ _ => rfl }

def noEdges : EdgeSwipes :=
  { has2WayEdgeSwipes := false, leftEdge := 0, rightEdge := 0, topEdge := 0, bottomEdge := 0, edgeFingers := 0
    edgeHArea := 0, edgeVArea := 0, nonEdgeHArea := 0, nonEdgeVArea := 0, edgeHDistance := 0, edgeVDistance := 0 }

/-- Three fingers on a touchpad of ELAN's version 4; none of them has been reported. -/
def threeFingers : Tracked :=
  { driver := { init with touchpadVendor := .STD_ELAN_TECH, hwVersion := STD_ELAN_HW_V4, ymax := 2000, cFingers := 3 }
    vendor := by decide
    reported := fun _ => none }

/-- An absolute packet of the first finger. -/
def firstAt (x : UInt8) : Report :=
  { world := .silent, packet_type := PACKET_ABSOLUTE
    packet := fun i => if i = 2 then x else if i = 3 then 0x20 else if i = 5 then 200 else 0 }

theorem positioned_first : Positioned (run (step (EdgesOnly noEdges)) [firstAt 100] threeFingers) := by
  refine (positioned_iff (EdgesOnly noEdges) (fun i a ha => absurd ha (by simp [threeFingers])) _).mpr ?_ _
    (List.prefix_refl _)
  intro p e hp
  obtain ⟨rest, hrest⟩ := hp
  cases p with
  | cons e' p => simp at hrest
  | nil =>
    obtain ⟨rfl, -⟩ := List.cons.inj hrest
    refine fun _ => ⟨fun _ _ => ⟨by decide, fun _ => .inl (by decide)⟩, fun hrelative => ?_⟩
    exact absurd hrelative (by decide)

/-- The first finger moves by 10, and is stored 10 further on. -/
theorem positioned_leap :
    ¬ ∀ (G : EdgeGestures) (d : Tracked), Positioned d → ∀ es : List Report,
      ∀ p, p <+: es → Positioned (run (step G) p d) := by
  intro h
  have hafter := h (EdgesOnly noEdges) threeFingers (fun i a ha => absurd ha (by simp [threeFingers]))
    [firstAt 100, firstAt 110] _ (List.prefix_refl _)
  have hreported : (run (step (EdgesOnly noEdges)) [firstAt 100, firstAt 110] threeFingers).reported 0 =
      some (110, 1800) := by decide +kernel
  have hstored : ((run (step (EdgesOnly noEdges)) [firstAt 100, firstAt 110] threeFingers).driver.fing 0).position =
      (120, 1800) := by decide +kernel
  have hwrong := hafter 0 _ hreported
  rw [hstored] at hwrong
  exact absurd hwrong (by decide)

end Tracked
end ApplePS2
