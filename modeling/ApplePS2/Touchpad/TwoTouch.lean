import ApplePS2.Touchpad.EdgeSwipes
import ApplePS2.Touchpad.MulTouch
import ApplePS2.Touchpad.ProcessScroll
import ApplePS2.Touchpad.TwoFingers

/- Touches of two fingers: `Process_twofingers_touch` as a whole, from its edge swipes to
   its rotations, zooms, scrolls, presses and taps.

   1. `Process_twofingers_touch_zoom`: where it comes to the tests of a zoom, the class of
      the fingers' movements (`TwoFingers.zoomClass`) is what it does. -/
namespace ApplePS2

/-- What `init` and the preferences say of two fingers. Where the driver's state has some of it, that is read. -/
structure TwoSettings where
  edges : EdgeSettings
  control : ScrollControl
  minSamples : UInt8
  pinchDeltaScale : UInt8
  zoomDelta : UInt16
  rotateDelta : UInt16
  maxCFDeltaY : UInt16
  cirEnabled : Bool
  maxTEndPressure : UInt8
  tSenseLvl : UInt8
  slingStartTimeout : UInt64
  slingTriggerArea : UInt16

/-- What `_lastSample` holds of two fingers; the differences are shorts. -/
structure TwoSample where
  lastDX1 : Int
  lastDY1 : Int
  lastDX2 : Int
  lastDY2 : Int
  pressure : UInt8
  deriving Inhabited

/-- The arguments of `Process_twofingers_touch`, and the clock. -/
structure TwoPacket where
  x1 : Int
  x2 : Int
  y1 : Int
  y2 : Int
  uptime : UInt64

/-- The differences of a packet from the last one, and from the start. -/
structure TwoMoves where
  dx1 : Int
  dy1 : Int
  dx2 : Int
  dy2 : Int
  fingers : TwoFingers

structure TwoTouch where
  settings : TwoSettings
  mul : MulTouch
  /-- The variables of `Process_scroll`, but for those of the driver's state. -/
  scroll : ScrollState
  lastSwipeTime : UInt64
  samples : Nat → TwoSample
  cSample : UInt8
  /-- `_now` -/
  now : UInt64
  lastHoldTime : UInt64
  doSling : Bool
  slingDepth : Int8
  xAxisPos : Int
  yAxisPos : Int

namespace TwoTouch

/-! `Process_singlefinger_touch` is a parameter; it moves the pointer in a drag of three fingers. -/

variable (singlefinger : Int → Int → Int → TapDriver → TapDriver)

def driver (s : TwoTouch) : TapDriver := s.mul.driver
def touchpad (s : TwoTouch) : Touchpad := s.mul.touchpad
def log (s : TwoTouch) : List TouchpadSent := s.mul.log

def onMul (f : MulTouch → MulTouch) (s : TwoTouch) : TwoTouch := { s with mul := f s.mul }
def on (f : TapDriver → TapDriver) : TwoTouch → TwoTouch := onMul (MulTouch.on f)
def pad (f : Touchpad → Touchpad) : TwoTouch → TwoTouch := onMul (MulTouch.pad f)
def setMode (m : TouchPadModes) : TwoTouch → TwoTouch := onMul (MulTouch.setMode m)
def notify (n : PS2Notification) : TwoTouch → TwoTouch := on (TapDriver.notify n)

def stopScroll (s : TwoTouch) : TwoTouch :=
  { s with doSling := s.doSling && s.touchpad.scroll.doCont, mul := s.mul.stopScroll }

def noise (s : TwoTouch) : UInt8 := s.mul.settings.noiseMultiTapDelta

def pinch (s : TwoTouch) : PinchSettings :=
  { zoomEnabled := s.touchpad.zoomEnabled, rotateEnabled := s.touchpad.rotateEnabled
    minSamples := s.settings.minSamples, pinchDeltaScale := s.settings.pinchDeltaScale
    zoomDelta := s.settings.zoomDelta, rotateDelta := s.settings.rotateDelta
    maxCFDelta := s.touchpad.rotate.maxCFDelta, maxCFDeltaY := s.settings.maxCFDeltaY }

def control (s : TwoTouch) : ScrollControl :=
  { s.settings.control with
    hasEdgeCont := s.touchpad.scroll.hasEdgeCont, has2FCont := s.touchpad.scroll.has2FCont
    accelModeEdge := s.driver.taps.accelModeEdge, noiseMultiTapDelta := s.noise, xcenter := s.touchpad.xcenter }

/-! The packet. -/

def countPacket : TwoTouch → TwoTouch :=
  pad fun t => { t with packetsCount := if t.packetsCount < 255 then t.packetsCount + 1 else t.packetsCount }

/-- "If secondary finger id is negative then fix" -/
def fixSid : TwoTouch → TwoTouch :=
  pad fun t => { t with sid := if t.sid < 0 then if t.pid = 0 then 1 else if t.pid = 1 then 0 else t.sid else t.sid }

def placed (x y : Int) (f : Finger) : Placed := { x := x, y := y, start_x := f.start_x.toNat, start_y := f.start_y.toNat }

def first (s : TwoTouch) : Finger := s.touchpad.fing s.touchpad.pid
def second (s : TwoTouch) : Finger := s.touchpad.fing s.touchpad.sid

/-- The local variables, and what is not assigned before it is read. -/
def moves (p : TwoPacket) (s : TwoTouch) : TwoMoves :=
  { dx1 := p.x1 - s.first.last_x.toNat, dy1 := p.y1 - s.first.last_y.toNat
    dx2 := p.x2 - s.second.last_x.toNat, dy2 := p.y2 - s.second.last_y.toNat
    fingers :=
      { first := placed p.x1 p.y1 s.first, second := placed p.x2 p.y2 s.second
        packetsCount := s.touchpad.packetsCount, maxLevelReached := s.scroll.maxLevelReached
        isRotateGesture := s.touchpad.rotate.isRotateGesture, isRotateMode := s.touchpad.rotate.isRotateMode } }

/-! "Igore packetts with low pressure" -/

def isLight (s : TwoTouch) : Bool :=
  s.first.pressure < s.settings.maxTEndPressure && s.second.pressure < s.settings.maxTEndPressure ||
    s.first.pressure < s.settings.tSenseLvl && s.second.pressure < s.settings.tSenseLvl

def setPressure (pressure : UInt8) (s : TwoTouch) : TwoTouch :=
  { s with
    samples := Function.update s.samples s.scroll.scrollSample
      { s.samples s.scroll.scrollSample with pressure := pressure } }

/-- One step towards zero. -/
def slowed (d : Int) : Int := if d > 0 then d - 1 else if d < 0 then d + 1 else d

def ignoreScroll (m : TwoMoves) (s : TwoTouch) : TwoTouch :=
  let s := s.setPressure s.first.pressure
  let u := s.scroll
  { s with
    scroll :=
      { u with
        lastSample :=
          Function.update u.lastSample u.scrollSample (UInt16.ofNat m.dx1.natAbs, UInt16.ofNat m.dy1.natAbs)
        scrollSample := if u.scrollSample < 4 then u.scrollSample + 1 else 0
        dx := slowed u.dx, dy := slowed u.dy } }

def ignore (m : TwoMoves) (s : TwoTouch) : TwoTouch :=
  match s.touchpad.touchmode with
  | .MODE_VSCROLL | .MODE_HSCROLL | .MODE_CONT_SCROLL => s.ignoreScroll m
  -- "Reset start to avoid issues with zoom"
  | _ => s.pad fun t => { t with packetsCount := if t.packetsCount < 5 then 0 else t.packetsCount }

/-! "Process Edge Swipes" -/

def sight (p : TwoPacket) (s : TwoTouch) : EdgeTouch.Sight :=
  { x := p.x1, y := p.y1, x2 := p.x2, y2 := p.y2, totalDx := s.scroll.totalDx, totalDy := s.scroll.totalDy }

/-- Whether it returns is beside it. -/
def processEdges (p : TwoPacket) (s : TwoTouch) : TwoTouch × Bool :=
  let e := EdgeTouch.twoFingers s.settings.edges (s.sight p)
    { driver := s.driver, lastSwipeTime := s.lastSwipeTime, dispatched := [] }
  ({ s with mul := { s.mul with driver := e.1.driver }, lastSwipeTime := e.1.lastSwipeTime }, e.2)

/-! "Circular Rotate is detected based on the x and y differences" -/

/-- "Circular is detected when fingers start either from x axis to y axis (or) y axis to x axis" -/
def placeAxes (v : TwoFingers) (s : TwoTouch) : TwoTouch :=
  if s.xAxisPos = 0 || s.yAxisPos = 0 then
    if v.first.x - v.second.x = 0 then { s with xAxisPos := s.yAxisPos + 1 }
    else if v.first.y - v.second.y = 0 then { s with yAxisPos := s.xAxisPos + 1 }
    else s
  else s

/-- The fingers go opposite ways along one axis. -/
def turn (d₁ d₂ : Int) : Option PS2Notification :=
  if d₁ < 0 && d₂ > 0 then some .kPS2C_RotateLeft
  else if d₁ > 0 && d₂ < 0 then some .kPS2C_RotateRight
  else none

def circle (v : TwoFingers) (s : TwoTouch) : Option PS2Notification :=
  let prxDelta := (v.first.x - v.second.x).natAbs
  let pryDelta := (v.first.y - v.second.y).natAbs
  if s.xAxisPos = 1 && (s.yAxisPos = 2 || pryDelta < 100) then turn v.x1_Dx v.x2_Dx
  else if s.yAxisPos = 1 && (s.xAxisPos = 2 || prxDelta < 100) then turn v.y1_Dy v.y2_Dy
  else none

def notifyAny (n : Option PS2Notification) (s : TwoTouch) : TwoTouch :=
  match n with
  | some n => s.notify n
  | none => s

/-- A rotation, and the notification of it. -/
def rotate (n : Option PS2Notification) (s : TwoTouch) : TwoTouch :=
  ((s.notifyAny n).setMode .MODE_ROTATE).pad fun t => { t with rotate.isRotateGesture := true }

def clearZoom : TwoTouch → TwoTouch := on fun d => { d with taps.isZoomOut := false, taps.isZoomIn := false }

/-- The counters of the axes are left out; nothing reads them. -/
def processCircle (v : TwoFingers) (s : TwoTouch) : TwoTouch :=
  if s.touchpad.hwVersion = 3 && s.settings.cirEnabled && s.touchpad.touchmode ≠ .MODE_ROTATE &&
      s.touchpad.packetsCount > 6 then
    let s := s.placeAxes v
    match s.circle v with
    | some n => (s.rotate (some n)).clearZoom.stopScroll
    | none => s
  else s

/-! "Process touchpad modes" -/

def holdsDrag (n : UInt8) (s : TwoTouch) : Bool := s.mul.fPressDragFingersID &&& n ≠ 0

/-- "Dispatch 3f drag" -/
def dispatchDrag (m : TwoMoves) (s : TwoTouch) : TwoTouch :=
  let pid := s.touchpad.pid
  let sid := s.touchpad.sid
  let moveFirst : TwoTouch → TwoTouch := on (singlefinger m.dx1 m.dy1 pid)
  let moveSecond : TwoTouch → TwoTouch := on (singlefinger m.dx2 m.dy2 sid)
  let s := if s.holdsDrag (UInt8.ofInt (pid + pid)) then moveFirst s else s
  let s := if s.holdsDrag (UInt8.ofInt (sid + sid)) then moveSecond s else s
  if s.holdsDrag 1 then if pid = 0 then moveFirst s else if sid = 0 then moveSecond s else s else s

def has2WayEdgeSwipes (s : TwoTouch) : Bool := s.settings.edges.has2WayEdgeSwipes

/-- Of the modes that are processed no more. -/
def skip (m : TwoMoves) (s : TwoTouch) : TwoTouch × Bool :=
  ((if s.touchpad.drag.is3FDrag then s.dispatchDrag singlefinger m else s).stopScroll, true)

/-- "No processing required to already triggered gestures except when its a edge swipe and rotate gesture." -/
def skipRotate (m : TwoMoves) (s : TwoTouch) : TwoTouch × Bool :=
  if !s.touchpad.rotate.isRotateGesture then (s, false) else s.skip singlefinger m

def skipEdge (m : TwoMoves) (s : TwoTouch) : TwoTouch × Bool :=
  if !s.touchpad.swipe.isEdgeGesture || s.has2WayEdgeSwipes then (s, false) else s.skipRotate singlefinger m

def clearCorner : TwoTouch → TwoTouch := on fun d => { d with taps.corner := 0 }

def stopPointer (s : TwoTouch) : TwoTouch :=
  if s.touchpad.pContinuousMove then s.pad Touchpad.StopPointerEnhanceTimer else s

/-- "Reset mode" -/
def resetMode (s : TwoTouch) : TwoTouch := if s.touchpad.packetsCount > 3 then s.setMode .MODE_IDLE else s

/-- "Clear 1F modes" -/
def clearModes (clearsCorner : Bool) (s : TwoTouch) : TwoTouch :=
  (if clearsCorner then s.clearCorner else s) |> stopPointer |> stopScroll |> resetMode

def clear (m : TwoMoves) (clearsCorner : Bool) (s : TwoTouch) : TwoTouch × Bool :=
  (s.clearModes clearsCorner).skipEdge singlefinger m

def clearMove (m : TwoMoves) (s : TwoTouch) : TwoTouch × Bool :=
  if s.touchpad.drag.is3FDrag then (s.dispatchDrag singlefinger m, true) else s.clear singlefinger m true

/-- And whether it returns. -/
def processModes (m : TwoMoves) (s : TwoTouch) : TwoTouch × Bool :=
  match s.touchpad.touchmode with
  | .MODE_CONT_SCROLL => if s.touchpad.packetsCount > 3 then (s, false) else s.clearMove singlefinger m
  | .MODE_MOVE => s.clearMove singlefinger m
  | .MODE_1_FING_TAP | .MODE_CORNER_TAP => s.clear singlefinger m true
  | .MODE_EDGE_VSCROLL | .MODE_EDGE_HSCROLL | .MODE_CIR_VSCROLL | .MODE_CIR_HSCROLL => s.clear singlefinger m false
  | .MODE_ROTATE => s.skipRotate singlefinger m
  | .MODE_ZOOM | .MODE_TOP_EDGE_SWIPE | .MODE_BOTTOM_EDGE_SWIPE | .MODE_LEFT_EDGE_SWIPE | .MODE_RIGHT_EDGE_SWIPE
  | .MODE_MUL_TOUCH_3 | .MODE_MUL_TOUCH_4 | .MODE_5_FING_PINCH | .MODE_TWO_FING_PRESS | .MODE_THREE_FING_PRESS =>
    s.skip singlefinger m
  | .MODE_FOUR_FING_PRESS | .MODE_FIVE_FING_PRESS | .MODE_3_FING_TAP | .MODE_4_FING_TAP | .MODE_5_FING_TAP =>
    (s.stopScroll, true)
  | .MODE_IDLE =>
    if s.touchpad.drag.is3FDrag then (s.dispatchDrag singlefinger m, true)
    -- "it could be acccidental packets when removing fingers"
    else (s, s.touchpad.lastFingers > 2 && s.touchpad.packetsCount < 5)
  | _ => s.skipEdge singlefinger m

/-! "Check for Zoom and Rotate" -/

/-- A difference that alone is far enough for a rotation. -/
def isFar (d : Int) (s : TwoTouch) : Bool := d.natAbs > s.settings.rotateDelta.toNat

/-- The way of a swipe. -/
def swipeRotation (v : TwoFingers) (s : TwoTouch) : Option PS2Notification :=
  let far (d : Int) : Bool := s.isFar d
  if far v.y2_Dy && v.y2_Dy < 0 || far v.y1_Dy && v.y1_Dy > 0 then
    some (if v.first.x < v.second.x then .kPS2C_RotateRight else .kPS2C_RotateLeft)
  else if far v.y2_Dy && v.y2_Dy > 0 || far v.y1_Dy && v.y1_Dy < 0 then
    some (if v.first.x < v.second.x then .kPS2C_RotateLeft else .kPS2C_RotateRight)
  else if far v.x2_Dx && v.x2_Dx < 0 || far v.x1_Dx && v.x1_Dx < 0 then some .kPS2C_RotateRight
  else if far v.x2_Dx && v.x2_Dx > 0 || far v.x1_Dx && v.x1_Dx > 0 then some .kPS2C_RotateLeft
  else none

/-- The way of an arc, by the finger that moves. The four cases exclude each other. -/
def arcRotation (mx my : Int) : Option PS2Notification :=
  if mx < 0 && my < 0 then some .kPS2C_RotateRight
  else if mx > 0 && my > 0 then some .kPS2C_RotateLeft
  else if mx < 0 && my > 0 then some .kPS2C_RotateRight
  else if mx > 0 && my < 0 then some .kPS2C_RotateLeft
  else none

def rotation (v : TwoFingers) (s : TwoTouch) : Option PS2Notification :=
  if v.swipeRotates s.pinch then s.swipeRotation v
  else if v.arcRotates s.pinch v.x1_Dx v.y1_Dy v.x2_Dx v.y2_Dy then arcRotation v.x2_Dx v.y2_Dy
  else arcRotation v.x1_Dx v.y1_Dy

def zoom (isZoomOut isZoomIn : Bool) (s : TwoTouch) : TwoTouch :=
  (s.setMode .MODE_ZOOM).on fun d => { d with taps.isZoomOut := isZoomOut, taps.isZoomIn := isZoomIn }

/-- A zoom returns. A fault of the division is none. -/
def processZoom (v : TwoFingers) (s : TwoTouch) : TwoTouch × Bool :=
  if v.checksZoom s.pinch && v.rotates s.pinch then (s.rotate (s.rotation v), false)
  else
    match v.zoomClass s.pinch with
    | some .zoomOut => (s.zoom true false, true)
    | some .zoomIn => (s.zoom false true, true)
    | _ => (s, false)

/-! "Process scroll" -/

def scrolls (v : TwoFingers) (s : TwoTouch) : Bool :=
  let t := s.touchpad
  !t.rotate.isRotateGesture && t.touchmode ≠ .MODE_ROTATE &&
    (v.y1_Dy ≠ 0 && v.y2_Dy ≠ 0 || v.x1_Dx ≠ 0 && v.x2_Dx ≠ 0 || t.touchmode = .MODE_VSCROLL ||
      t.touchmode = .MODE_HSCROLL) &&
    (t.hwVersion < 4 && t.hwVersion > 1 && v.first.y - v.second.y = 0 || t.hwVersion = 0 || t.hwVersion > 3)

def modifyFinger (i : Int) (f : Finger → Finger) : TwoTouch → TwoTouch :=
  pad fun t => { t with fing := Function.update t.fing i (f (t.fing i)) }

/-- The samples of one of the differences. -/
def sum (s : TwoTouch) (f : TwoSample → Int) : Int :=
  ((List.range s.settings.control.smoothSamples.toNat).map fun i => f (s.samples i)).sum

def clearSums (f : Finger) : Finger := { f with sdx := 0, sdy := 0 }
def addSums (dx dy : Int) (f : Finger) : Finger := { f with sdx := f.sdx + dx, sdy := f.sdy + dy }
def addMoves (dx dy : Int) (f : Finger) : Finger := { f with tdx := f.tdx + dx, tdy := f.tdy + dy }

/-- The first finger, then the second one. -/
def modifyFingers (f g : Finger → Finger) (s : TwoTouch) : TwoTouch :=
  (s.modifyFinger s.touchpad.pid f).modifyFinger s.touchpad.sid g

def storeSample (m : TwoMoves) (s : TwoTouch) : TwoTouch :=
  let sample : TwoSample :=
    { s.samples s.cSample.toNat with
      lastDX1 := toSInt16 m.dx1, lastDY1 := toSInt16 m.dy1, lastDX2 := toSInt16 m.dx2, lastDY2 := toSInt16 m.dy2 }
  let cSample := if m.dx1 ≠ 0 || m.dy1 ≠ 0 then s.cSample + 1 else s.cSample
  { s with
    samples := Function.update s.samples s.cSample.toNat sample
    cSample := if cSample = s.settings.control.smoothSamples then 0 else cSample }

def sumSamples (s : TwoTouch) : TwoTouch :=
  s |> modifyFingers clearSums clearSums
    |> modifyFingers (addSums (s.sum (·.lastDX1)) (s.sum (·.lastDY1))) (addSums (s.sum (·.lastDX2)) (s.sum (·.lastDY2)))

/-- "Calculate delta" -/
def sampleMoves (m : TwoMoves) (s : TwoTouch) : TwoTouch :=
  if s.touchpad.packetsCount ≠ 0 && s.settings.control.smoothSamples > 0 then
    s |> modifyFingers (addMoves m.dx1 m.dy1) (addMoves m.dx2 m.dy2) |> storeSample m |> sumSamples
  else s

def isIdle (m : TwoMoves) (s : TwoTouch) : Bool :=
  let maxDelta := s.settings.control.idleFingMaxDelta.toNat
  m.dx1.natAbs ≤ maxDelta && m.dy1.natAbs ≤ maxDelta && m.dx2.natAbs ≤ maxDelta && m.dy2.natAbs ≤ maxDelta

def setHoldTime (holdTime : UInt64) : TwoTouch → TwoTouch := pad fun t => { t with fingPress.holdTime := holdTime }

/-- "Calclulate fingers hold time" -/
def timeHold (p : TwoPacket) (m : TwoMoves) (s : TwoTouch) : TwoTouch :=
  if s.isIdle m then
    let holdTime := s.touchpad.fingPress.holdTime
    let s := { s with now := p.uptime }
    if s.lastHoldTime = 0 then { s with lastHoldTime := s.now }
    else if holdTime < s.settings.slingStartTimeout || holdTime < s.settings.control.idleFingDetectTimeout then
      { s.setHoldTime (holdTime + (s.now - s.lastHoldTime)) with lastHoldTime := s.now }
    else s
  else { s.setHoldTime 0 with lastHoldTime := s.now }

/-- "Process sling effect" -/
def sling (p : TwoPacket) (s : TwoTouch) : TwoTouch :=
  let area := s.settings.slingTriggerArea.toNat
  let isLow : Bool := p.y1 > s.touchpad.ymax.toNat - area
  let isHigh : Bool := p.y1 < s.touchpad.ymin.toNat + area
  let level := s.scroll.maxLevelReached
  if s.settings.control.has2FSling && level ≠ 0 then
    if !(isLow || isHigh) then { s with doSling := false, slingDepth := 0 }
    else if !s.doSling && s.touchpad.fingPress.holdTime > s.settings.slingStartTimeout then
      let depth : Int := if isLow then level.toNat else -level.toNat
      { s with doSling := true, slingDepth := if s.slingDepth = 0 then Int8.ofInt depth else s.slingDepth }
    else s
  else s

/-- The fingers go apart, or towards each other. -/
def opposes (v : TwoFingers) : Bool :=
  let apart (d₁ d₂ p₁ p₂ : Int) : Bool := d₁ > 0 && d₂ < 0 && p₁ < p₂ || d₁ < 0 && d₂ > 0 && p₁ > p₂
  apart v.x1_Dx v.x2_Dx v.first.x v.second.x || apart v.y1_Dy v.y2_Dy v.first.y v.second.y ||
    (apart v.x2_Dx v.x1_Dx v.first.x v.second.x || apart v.y2_Dy v.y1_Dy v.first.y v.second.y)

/-- "Check for Zoom conflicts" -/
def isZoomConflict (v : TwoFingers) (s : TwoTouch) : Bool :=
  let beyond (d : Int) : Bool := v.zDx > d || v.zDy > d
  let count := s.touchpad.packetsCount
  s.touchpad.zoomEnabled && opposes v &&
    (beyond 50 && count < 5 || beyond 100 && count < 10 || beyond 180 && count > 10)

def scrollState (s : TwoTouch) : ScrollState :=
  let t := s.touchpad
  { s.scroll with
    touchmode := t.touchmode, fing := t.fing, packetsCount := t.packetsCount, doCont := t.scroll.doCont }

def ofScroll (u : ScrollState) (s : TwoTouch) : TwoTouch :=
  { s with scroll := u }.pad fun t =>
    { t with touchmode := u.touchmode, fing := u.fing, packetsCount := u.packetsCount, scroll.doCont := u.doCont }

def Process_scroll (sdx sdy : Int) (isZoomConflict : Bool) (s : TwoTouch) : TwoTouch :=
  let t := s.touchpad
  let p : ScrollPacket :=
    { sMode := s.driver.taps.accelMode2F, sdx := sdx, sdy := sdy, isZoomConflict := isZoomConflict
      cFingers := t.cFingers, pid := t.pid, sid := t.sid, holdTime := t.fingPress.holdTime }
  s.ofScroll (s.scrollState.processScroll s.control p)

/-- "Dispatch scroll" -/
def dispatchScroll (m : TwoMoves) (isZoomConflict : Bool) (s : TwoTouch) : TwoTouch :=
  let mode := s.touchpad.touchmode
  if m.dx1 = 0 && m.dy1 = 0 || m.dy2 > m.dy1 && mode = .MODE_VSCROLL || m.dx2 > m.dx1 && mode = .MODE_HSCROLL then
    let s := s.Process_scroll m.dx2 m.dy2 isZoomConflict
    s.setPressure s.second.pressure
  else
    let s := s.Process_scroll m.dx1 m.dy1 isZoomConflict
    s.setPressure s.first.pressure

def stopLevel (s : TwoTouch) : TwoTouch := { s with scroll.maxLevelReached := 0 }.stopScroll

def scrollMoves (m : TwoMoves) (s : TwoTouch) : TwoTouch :=
  let v := m.fingers
  let enabled := s.settings.control.isHScrollEnabled || s.settings.control.isVScrollEnabled
  if enabled && (m.dx1 ≠ 0 || m.dx2 ≠ 0 || m.dy1 ≠ 0 || m.dy2 ≠ 0) then
    if v.admitsScroll s.pinch then
      let conflict := s.isZoomConflict v
      (if conflict then s.stopScroll else s).dispatchScroll m conflict
    else s.stopLevel
  else if s.touchpad.scroll.doCont && !s.touchpad.scroll.has2FCont then s.stopScroll
  else s

def processScroll (p : TwoPacket) (m : TwoMoves) (s : TwoTouch) : TwoTouch :=
  if s.scrolls m.fingers then s |> sampleMoves m |> timeHold p m |> sling p |> scrollMoves m else s

/-! "Calculate finger press time" -/

/-- The finger is where it started. -/
def rests (x y : Int) (f : Finger) : Bool :=
  x ≤ f.start_x.toNat + 75 && x ≥ f.start_x.toNat - 75 && (y ≤ f.start_y.toNat + 75 && y ≥ f.start_y.toNat - 75)

def isScrollMode (m : TouchPadModes) : Bool := m = .MODE_VSCROLL || m = .MODE_HSCROLL || m = .MODE_CONT_SCROLL

def setPressTime (pressTime : UInt64) : TwoTouch → TwoTouch := onMul fun u => { u with pressTime := pressTime }

def timePress (p : TwoPacket) (s : TwoTouch) : TwoTouch :=
  let timeout := s.mul.settings.fingPressTimeout
  if !s.touchpad.button.triggered && s.touchpad.gestureTime < timeout + timeout && rests p.x1 p.y1 s.first &&
      rests p.x2 p.y2 s.second then
    let s := s.setPressTime s.touchpad.gestureTime
    if isScrollMode s.touchpad.touchmode then s.stopScroll else s
  else s.setPressTime 0

/-- "Toggle 2f press" -/
def showPress (s : TwoTouch) : TwoTouch :=
  s.onMul fun u => { u with fings2Press := 0 - u.fings2Press }.showToggled (0 - u.fings2Press > 0)

def togglePress (s : TwoTouch) : TwoTouch := s.showPress.setMode .MODE_TWO_FING_PRESS

def isToggleKeyOnHold (s : TwoTouch) : Bool := s.mul.isToggleKeyOnHold

/-- "Detect two finger press" -/
def isPress (s : TwoTouch) : Bool :=
  s.mul.pressTime > s.mul.settings.fingPressTimeout && s.mul.settings.fingPressTimeout ≠ 0 &&
    (s.mul.fings2Press > 0 || s.isToggleKeyOnHold) && s.scroll.maxLevelReached < 2

def press (s : TwoTouch) : TwoTouch :=
  if s.isPress then
    (if s.isToggleKeyOnHold then s.togglePress else s.onMul fun u => u.Proces_Fingers_Press 2).stopScroll
  else s

def processPress (p : TwoPacket) (s : TwoTouch) : TwoTouch :=
  if s.scroll.totalDx < s.noise.toUInt32 && s.scroll.totalDy < s.noise.toUInt32 then (s.timePress p).press
  else s.setPressTime 0

/-! "Detect two fingers tap" -/

def isStill (v : TwoFingers) (s : TwoTouch) : Bool :=
  let noise := s.noise.toNat
  v.x1_Dx.natAbs < noise && v.y1_Dy.natAbs < noise && (v.x2_Dx.natAbs < noise && v.y2_Dy.natAbs < noise)

def processTap (v : TwoFingers) (s : TwoTouch) : TwoTouch :=
  let t := s.touchpad
  let timeout := s.driver.taps.timeout
  if t.gestureTime < timeout && t.packetsCount > 1 && !t.button.triggered && s.isStill v then s.setMode .MODE_2_FING_TAP
  else if (t.gestureTime > timeout || !s.isStill v) && t.touchmode = .MODE_2_FING_TAP then s.setMode .MODE_IDLE
  else s

/-! The whole. -/

/-- From the zoom on. -/
def processMoves (p : TwoPacket) (m : TwoMoves) (s : TwoTouch) : TwoTouch :=
  let z := s.processZoom m.fingers
  if z.2 then z.1 else z.1 |> processScroll p m |> processPress p |> processTap m.fingers

/-- From the circles on. -/
def processGestures (p : TwoPacket) (m : TwoMoves) (s : TwoTouch) : TwoTouch :=
  let c := (s.processCircle m.fingers).processModes singlefinger m
  if c.2 then c.1 else c.1.processMoves p m

def Process_twofingers_touch (p : TwoPacket) (s : TwoTouch) : TwoTouch :=
  let s := s.countPacket.fixSid
  let m := s.moves p
  if s.isLight then s.ignore m
  else
    let e := s.processEdges p
    if e.2 then e.1.stopScroll else e.1.processGestures singlefinger p m

/-! The tests of a zoom. -/

/-- The fingers whose movements the tests are about. -/
def fingers (p : TwoPacket) (s : TwoTouch) : TwoFingers := (s.countPacket.fixSid.moves p).fingers

/-- The state in which the tests stand, unless the function has returned before. -/
def atZoom (p : TwoPacket) (s : TwoTouch) : Option TwoTouch :=
  let s := s.countPacket.fixSid
  let m := s.moves p
  if s.isLight then none
  else
    let e := s.processEdges p
    if e.2 then none
    else
      let c := (e.1.processCircle m.fingers).processModes singlefinger m
      if c.2 then none else some c.1

variable {singlefinger}

/-- Behind a rotation there is no zoom. -/
theorem processZoom_class (v : TwoFingers) (s : TwoTouch) :
    (v.zoomClass s.pinch = some .zoomOut → s.processZoom v = (s.zoom true false, true)) ∧
      (v.zoomClass s.pinch = some .zoomIn → s.processZoom v = (s.zoom false true, true)) := by
  have hrotates : (v.checksZoom s.pinch && v.rotates s.pinch) = true → v.zoomClass s.pinch = some .none := by
    intro hboth
    apply TwoFingers.zoomClass_of_still
    unfold TwoFingers.mayZoom
    simp [(Bool.and_eq_true_iff.mp hboth).2]
  unfold processZoom
  constructor
  · intro hclass
    rw [if_neg fun hboth => absurd (hclass.symm.trans (hrotates hboth)) (by decide), hclass]
  · intro hclass
    rw [if_neg fun hboth => absurd (hclass.symm.trans (hrotates hboth)) (by decide), hclass]

/-- A zoom that is recognised is what the call ends with. -/
theorem Process_twofingers_touch_zoom {p : TwoPacket} {s u : TwoTouch} (h : s.atZoom singlefinger p = some u) :
    ((s.fingers p).zoomClass u.pinch = some .zoomOut → s.Process_twofingers_touch singlefinger p = u.zoom true false) ∧
      ((s.fingers p).zoomClass u.pinch = some .zoomIn → s.Process_twofingers_touch singlefinger p = u.zoom false true) := by
  have hcall : s.Process_twofingers_touch singlefinger p = u.processMoves p (s.countPacket.fixSid.moves p) := by
    unfold atZoom at h
    unfold Process_twofingers_touch processGestures
    dsimp only at h ⊢
    split_ifs at h ⊢
    obtain rfl := Option.some.inj h
    rfl
  obtain ⟨hout, hin⟩ := processZoom_class (s.fingers p) u
  rw [hcall, processMoves]
  constructor
  · intro hclass
    have hzoom : u.processZoom (s.countPacket.fixSid.moves p).fingers = (u.zoom true false, true) := hout hclass
    rw [hzoom, if_pos rfl]
  · intro hclass
    have hzoom : u.processZoom (s.countPacket.fixSid.moves p).fingers = (u.zoom false true, true) := hin hclass
    rw [hzoom, if_pos rfl]

end TwoTouch

end ApplePS2
