import ApplePS2.Touchpad.Buttons

/- The gestures. What they recognise and dispatch is left to a parameter, which may
   move only the variables that the gesture functions of the driver assign; the end of
   a touch (`Process_touch_end`) and its resets are given in full.

   1. `Kept`: what a gesture function leaves alone.
   2. `Gestured`: the same, but Synaptics' touches may also end on the way.
   3. `Linked`: what every packet leaves alone.
   4. `Handled`: what the parts of its handling leave alone that do not count fingers. -/
namespace ApplePS2

/-- The calls of the gesture functions. -/
inductive Gesture where
  | processMousePacket (packet : Packet)
  | Process_singlefinger_touch (x y fid : Int)
  | Process_twofingers_touch (x1 x2 y1 y2 : Int)
  | Process_multiFingers_touch (dx dy fid : Int)
  | Process_ClickPad_2F (packet : Packet) (packetType : UInt8) (dx1 dy1 dx2 dy2 : Int)
  | Is2FingEdgeSwipe
  /-- `Process_touch_end` up to its resets. -/
  | Process_touch_end

/-- The part of a finger that gestures do not assign. -/
def Finger.reported (f : Finger) : Finger :=
  { f with last_x := 0, last_y := 0, start_x := 0, start_y := 0, tdx := 0, tdy := 0, sdx := 0, sdy := 0 }

/-- The resets of a finger at the end of a touch. -/
def Finger.clear (start : Bool) (f : Finger) : Finger :=
  { (default : Finger) with
    start_x := if start then 0 else f.start_x
    start_y := if start then 0 else f.start_y }

/-- The whole table. -/
def eachFinger (g : Finger → Finger) (fing : Int → Finger) : Int → Finger :=
  fun i => if 0 ≤ i ∧ i < STD_MAX_FINGERS then g (fing i) else fing i

namespace Touchpad

/-- The state without what gestures assign. -/
def fixed (s : Touchpad) : Touchpad :=
  { s with
    packetsCount := 0, touchmode := .MODE_IDLE, gestureTime := 0, lastDataTime := 0, doTimerJob := false
    pContinuousMove := false, sid := -1, fing := fun i => (s.fing i).reported, used := []
    zoomEnabled := false, rotateEnabled := false, synTPad.touch_ended := false
    drag := default, scroll := default, swipe := default, rotate := default, fingPress := default, tap := default
    button := default, kbEvent.accidentalInput := false, kbEvent.kbKeysCount := 0, log := [] }

/-- What a gesture function leaves alone. The second finger's slot is set when it is missing. -/
structure Kept (s t : Touchpad) : Prop where
  fixed : t.fixed = s.fixed
  sid : t.sid = s.sid ∨ s.sid < 0 ∧ (s.pid = 0 ∧ t.sid = 1 ∨ s.pid = 1 ∧ t.sid = 0)
  log : Sent (fun m => m.isRequest = false) s t

theorem Kept.refl (s : Touchpad) : Kept s s := ⟨rfl, .inl rfl, .none _ rfl⟩

/-- The resets of `Process_touch_end`. -/
def clearTouch (s : Touchpad) : Touchpad :=
  -- the start is kept for the index finger that moves while the thumb is on the button area
  let start := (s.lastFingers ≠ 2 && s.button.isClickPad) || !s.button.isClickPad
  { s with
    synTPad.touch_ended := false, synTPad.secondary_wait := false, synTPad.m_scroll := 0
    palm.detected := false, button.isFingOnBtnArea := false
    swipe.isEdgeGesture := false, swipe.direction := 0
    rotate.isRotateGesture := false, rotate.isRotateMode := false
    scroll.doCont := false, fingPress.holdTime := 0
    fing := eachFinger (Finger.clear start) s.fing
    pContinuousMove := false, lastFingers := 0, pid := -1, sid := -1
    touchmode := .MODE_IDLE, packetsCount := 0, gestureTime := 0, lastDataTime := 0 }

/-- A gesture. Very quick taps on Synaptics' touchpads have no end packets, and the
touch is ended by the packet of the next one. -/
inductive Gestured : Touchpad → Touchpad → Prop
  | kept {s t} (h : Kept s t) : Gestured s t
  | ended {s t u} (hvendor : s.touchpadVendor = .STD_SYNAPTICS) (h : Gestured s t) (hend : Kept t.clearTouch u) :
    Gestured s u

end Touchpad

/-- The gesture functions. -/
structure Gestures where
  run : TouchpadWorld → Gesture → Touchpad → Touchpad
  gestured : ∀ w g s, Touchpad.Gestured s (run w g s)
  touchEnd : ∀ w s, Touchpad.Kept s (run w .Process_touch_end s)

/-- Nothing is recognised. -/
def Gestures.idle : Gestures := ⟨fun _ _ s => s, fun _ _ s => .kept (.refl s), fun _ s => .refl s⟩

namespace Touchpad

variable (G : Gestures) (w : TouchpadWorld)

def gesture (g : Gesture) (s : Touchpad) : Touchpad := G.run w g s

def Process_touch_end (s : Touchpad) : Touchpad :=
  let s := (s.gesture G w .Process_touch_end).clearTouch
  -- Trigger keyboard backlight off event
  s.when (s.kbLight.hasAsusKBackLight && s.kbLight.hasKBLightAutoOff)
    (receiveKeyboardNotifications w .kPS2C_KeybrdBackLightOff)

/-! What every packet leaves alone. -/

variable {G w}

/-- What frames packets, and what the keyboard has set. -/
structure Link where
  touchpadVendor : TouchpadVendor
  hwVersion : UInt8
  pktsize : UInt8
  mode : TouchpadVendor
  packetBuffer : Packet
  packetByteCount : UInt8
  modeSetTries : UInt8
  absolute_mode : Bool
  disableTouchpad : Bool
  showPressWidth : Bool

def link (s : Touchpad) : Link :=
  { touchpadVendor := s.touchpadVendor, hwVersion := s.hwVersion, pktsize := s.pktsize, mode := s.mode
    packetBuffer := s.packetBuffer, packetByteCount := s.packetByteCount, modeSetTries := s.modeSetTries
    absolute_mode := s.synTPad.absolute_mode
    disableTouchpad := s.kbEvent.disableTouchpad, showPressWidth := s.kbEvent.showPressWidth }

/-- Nothing of it has changed, and no request has been sent. -/
structure Linked (s t : Touchpad) : Prop where
  link : t.link = s.link
  log : Sent (fun m => m.isRequest = false) s t

theorem Linked.refl (s : Touchpad) : Linked s s := ⟨rfl, .none _ rfl⟩

theorem Linked.trans {s t u : Touchpad} (h : Linked s t) (h' : Linked t u) : Linked s u :=
  ⟨h'.link.trans h.link, h.log.trans h'.log⟩

theorem Linked.same {s t : Touchpad} (h : t.link = s.link) (hlog : t.log = s.log) : Linked s t :=
  ⟨h, .none _ hlog⟩

theorem Linked.update {s t u : Touchpad} (h : Linked s t) (hlink : u.link = t.link) (hlog : u.log = t.log) :
    Linked s u := h.trans (.same hlink hlog)

theorem Linked.sends {s t : Touchpad} {m : TouchpadSent} (h : t.link = s.link) (hlog : t.log = s.log ++ [m])
    (hm : m.isRequest = false) : Linked s t :=
  ⟨h, [m], hlog, fun _ h => List.mem_singleton.1 h ▸ hm⟩

theorem Linked.when {s : Touchpad} {f : Touchpad → Touchpad} (c : Bool) (h : Linked s (f s)) :
    Linked s (s.when c f) := by
  cases c with
  | true => exact h
  | false => exact .refl s

/-! What the parts of a packet's handling leave alone that do not count fingers. -/

/-- The state without what they assign. -/
def outer (s : Touchpad) : Touchpad :=
  { s with
    packetsCount := 0, touchmode := .MODE_IDLE, gestureTime := 0, lastDataTime := 0, doTimerJob := false
    pContinuousMove := false, pid := -1, sid := -1, fing := fun _ => default, used := [], palm.detected := false
    synTPad.pkt_type := 0, synTPad.w := 0, synTPad.m_scroll := 0, synTPad.secondary_x := 0
    synTPad.secondary_y := 0, synTPad.secondary_pressure := 0, synTPad.secondary_wait := false
    zoomEnabled := false, rotateEnabled := false, synTPad.touch_ended := false, elanTPad.sanityCheck := false
    drag := default, scroll := default, swipe := default, rotate := default, fingPress := default, tap := default
    button := default, kbEvent.accidentalInput := false, kbEvent.kbKeysCount := 0, kbLight.lastTriggerTime := 0
    log := [] }

/-- Nothing else has changed, but that the number of fingers before the last change may be forgotten. -/
structure Handled (s t : Touchpad) : Prop where
  outer : t.outer = s.outer ∨ t.outer = { s with lastFingers := 0 }.outer
  log : Sent (fun m => m.isRequest = false) s t

theorem Handled.linked {s t : Touchpad} (h : Handled s t) : Linked s t := by
  refine ⟨?_, h.log⟩
  show t.outer.link = s.outer.link
  obtain houter | houter := h.outer
  · rw [houter]
  · rw [houter]
    rfl

theorem Handled.refl (s : Touchpad) : Handled s s := ⟨.inl rfl, .none _ rfl⟩

theorem Handled.trans {s t u : Touchpad} (h : Handled s t) (h' : Handled t u) : Handled s u := by
  refine ⟨?_, h.log.trans h'.log⟩
  have hforget : ∀ {a b : Touchpad}, a.outer = b.outer →
      { a with lastFingers := 0 }.outer = { b with lastFingers := 0 }.outer :=
    fun heq => congrArg (fun r : Touchpad => { r with lastFingers := 0 }) heq
  obtain houter | houter := h.outer
  · obtain houter' | houter' := h'.outer
    · exact .inl (houter'.trans houter)
    · exact .inr (houter'.trans (hforget houter))
  · obtain houter' | houter' := h'.outer
    · exact .inr (houter'.trans houter)
    · have hforgotten := hforget houter
      exact .inr (houter'.trans hforgotten)

theorem Handled.same {s t : Touchpad} (h : t.outer = s.outer) (hlog : t.log = s.log) : Handled s t :=
  ⟨.inl h, .none _ hlog⟩

theorem Handled.update {s t u : Touchpad} (h : Handled s t) (houter : u.outer = t.outer) (hlog : u.log = t.log) :
    Handled s u := h.trans (.same houter hlog)

theorem Handled.sends {s t : Touchpad} {m : TouchpadSent} (h : t.outer = s.outer) (hlog : t.log = s.log ++ [m])
    (hm : m.isRequest = false) : Handled s t :=
  ⟨.inl h, [m], hlog, fun _ h => List.mem_singleton.1 h ▸ hm⟩

theorem Handled.when {s : Touchpad} {f : Touchpad → Touchpad} (c : Bool) (h : Handled s (f s)) :
    Handled s (s.when c f) := by
  cases c with
  | true => exact h
  | false => exact .refl s

theorem Kept.handled {s t : Touchpad} (h : Kept s t) : Handled s t := by
  refine ⟨.inl ?_, h.log⟩
  show t.fixed.outer = s.fixed.outer
  rw [h.fixed]

theorem handled_clearTouch (s : Touchpad) : Handled s s.clearTouch := ⟨.inr rfl, .none _ rfl⟩

theorem Gestured.handled {s t : Touchpad} (h : Gestured s t) : Handled s t := by
  induction h with
  | kept h => exact h.handled
  | ended hvendor h hend ih => exact (ih.trans (handled_clearTouch _)).trans hend.handled

theorem handled_gesture (g : Gesture) (s : Touchpad) : Handled s (s.gesture G w g) := (G.gestured w g s).handled

theorem handled_send {m : TouchpadSent} (hm : m.isRequest = false) (s : Touchpad) : Handled s (s.send m) :=
  .sends rfl rfl hm

theorem handled_backLightOff (s : Touchpad) : Handled s s.backLightOff := by
  unfold backLightOff
  split
  · exact .refl s
  · exact (handled_send rfl s).trans (handled_send rfl _)

theorem handled_backLightOn (now : UInt64) (s : Touchpad) : Handled s (s.backLightOn now) := by
  unfold backLightOn
  dsimp only
  split
  · refine .trans (.trans ?_ (handled_send rfl _)) (handled_send rfl _)
    exact .same rfl rfl
  · exact .refl s

theorem handled_touch_end (s : Touchpad) : Handled s (s.Process_touch_end G w) := by
  have hclear := (G.touchEnd w s).handled.trans (handled_clearTouch _)
  exact hclear.trans (.when _ (handled_backLightOff _))

/-! What the parts leave alone that count fingers. -/

/-- No more than five fingers are counted. -/
structure Bounded (s : Touchpad) : Prop where
  current : s.cFingers ≤ 5
  last : s.lastFingers ≤ 5

def uncounted (s : Touchpad) : Touchpad := { s with cFingers := 0, lastFingers := 0 }

/-- Only the numbers of fingers may have changed as well, and they stay in their range. -/
structure Counted (s t : Touchpad) : Prop where
  outer : t.uncounted.outer = s.uncounted.outer
  bounded : Bounded s → Bounded t
  log : Sent (fun m => m.isRequest = false) s t

theorem Counted.linked {s t : Touchpad} (h : Counted s t) : Linked s t := by
  refine ⟨?_, h.log⟩
  show t.uncounted.outer.link = s.uncounted.outer.link
  rw [h.outer]

theorem Counted.trans {s t u : Touchpad} (h : Counted s t) (h' : Counted t u) : Counted s u :=
  ⟨h'.outer.trans h.outer, fun hs => h'.bounded (h.bounded hs), h.log.trans h'.log⟩

theorem Counted.refl (s : Touchpad) : Counted s s := ⟨rfl, id, .none _ rfl⟩

theorem Handled.counts {s t : Touchpad} (h : Handled s t) :
    t.cFingers = s.cFingers ∧ (t.lastFingers = s.lastFingers ∨ t.lastFingers = 0) := by
  obtain houter | houter := h.outer
  · refine ⟨?_, .inl ?_⟩
    · show t.outer.cFingers = s.outer.cFingers
      rw [houter]
    · show t.outer.lastFingers = s.outer.lastFingers
      rw [houter]
  · refine ⟨?_, .inr ?_⟩
    · show t.outer.cFingers = s.outer.cFingers
      rw [houter]
      rfl
    · show t.outer.lastFingers = 0
      rw [houter]
      rfl

theorem Handled.bounded {s t : Touchpad} (h : Handled s t) (hs : Bounded s) : Bounded t := by
  obtain ⟨hcurrent, hlast⟩ := h.counts
  refine ⟨hcurrent ▸ hs.current, ?_⟩
  obtain hlast | hlast := hlast
  · exact hlast ▸ hs.last
  · rw [hlast]
    decide

theorem Handled.counted {s t : Touchpad} (h : Handled s t) : Counted s t := by
  refine ⟨?_, h.bounded, h.log⟩
  have hforget : ∀ a b : Touchpad, a.outer = b.outer → a.uncounted.outer = b.uncounted.outer :=
    fun a b heq => congrArg uncounted heq
  obtain houter | houter := h.outer
  · exact hforget t s houter
  · have hforgotten := hforget t _ houter
    exact hforgotten

theorem Counted.when {s : Touchpad} {f : Touchpad → Touchpad} (c : Bool) (h : Counted s (f s)) :
    Counted s (s.when c f) := by
  cases c with
  | true => exact h
  | false => exact .refl s

/-- "Set last fingers count" -/
def setFingers (count : UInt8) (s : Touchpad) : Touchpad := { s with lastFingers := s.cFingers, cFingers := count }

theorem counted_setFingers {count : UInt8} (hcount : count ≤ 5) (s : Touchpad) : Counted s (s.setFingers count) :=
  ⟨rfl, fun hs => ⟨hcount, hs.current⟩, .none _ rfl⟩

/-- The number is set once more. -/
theorem Handled.recount {s t : Touchpad} {mask count : UInt8} (h : Handled (s.setFingers mask) t) (hcount : count ≤ 5) :
    Counted s { t with cFingers := count } := by
  refine ⟨?_, fun hs => ⟨hcount, ?_⟩, h.log⟩
  · have houter := h.counted.outer
    exact houter
  · obtain hlast | hlast := h.counts.2
    · show t.lastFingers ≤ 5
      rw [hlast]
      exact hs.current
    · show t.lastFingers ≤ 5
      rw [hlast]
      decide

end Touchpad
end ApplePS2
