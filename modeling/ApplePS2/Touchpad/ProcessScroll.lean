import ApplePS2.Touchpad.ScrollAmounts

/- What a packet of a scroll does with its amounts: the direction, the stop of the
   fingers, and the circular, the slow and the normal scroll (`Process_scroll`). -/
namespace ApplePS2

/-- The finger's start at its place. -/
def Finger.restartHere (f : Finger) : Finger := { f with start_x := f.x, start_y := f.y, last_x := f.x, last_y := f.y }

/-- The state with the variables of `Process_scroll`. -/
structure ScrollWork extends ScrollState where
  s_dx : Int
  s_dy : Int
  scrollDifflvl : UInt8

namespace ScrollWork

variable (c : ScrollControl) (p : ScrollPacket) (w : ScrollWork)

def send (x : ScrollSent) : ScrollWork := { w with sent := w.sent ++ [x] }

/-! "Reset scroll level on direction change" -/

/-- The amount `s_d` against the last one `d`, for the delta `sd` of the packet. -/
def changesDirection (d s_d sd : Int) (contMaxDelta : UInt8) : Bool :=
  (d > 3 && s_d < -3 && sd.natAbs > 0 || d < -3 && s_d > 3 && sd.natAbs > 0) && sd.natAbs > contMaxDelta.toNat

def restartFingers : Int → Finger := fun i => if i = p.pid ∨ i = p.sid then (w.fing i).restartHere else w.fing i

def restart : ScrollWork :=
  match w.touchmode with
  | .MODE_HSCROLL | .MODE_EDGE_HSCROLL =>
    let contMaxDelta := if w.touchmode = .MODE_HSCROLL then c.contMaxDelta2F else c.contMaxDeltaEdge
    if changesDirection w.dx w.s_dx p.sdx contMaxDelta && w.scrollDifflvl ≠ 0 then
      { w with dx := w.s_dx, maxLevelReached := 0, packetsCount := 0, fing := w.restartFingers p }
    else w
  | .MODE_VSCROLL | .MODE_EDGE_VSCROLL =>
    let contMaxDelta := if w.touchmode = .MODE_VSCROLL then c.contMaxDelta2F else c.contMaxDeltaEdge
    if changesDirection w.dy w.s_dy p.sdy contMaxDelta && w.scrollDifflvl ≠ 0 then
      { w with dy := w.s_dy, maxLevelReached := 0, packetsCount := 0, fing := w.restartFingers p }
    else w
  | _ => w

/-- "Set Max Scroll Level", and the sums of the deltas. -/
def measure : ScrollWork :=
  { w with
    maxLevelReached := if w.maxLevelReached < w.scrollDifflvl then w.scrollDifflvl else w.maxLevelReached
    totalDx := w.totalDx + UInt32.ofNat p.sdx.natAbs
    totalDy := w.totalDy + UInt32.ofNat p.sdy.natAbs }

/-! "Monitor last 5 delta packets which are needed to control direction of the scroll" -/

/-- A count of packets in one direction. -/
def counted (sd packetsDir : Int) : Int :=
  if sd < 0 then if packetsDir > -10 then packetsDir - 1 else packetsDir
  else if sd > 0 then if packetsDir < 10 then packetsDir + 1 else packetsDir
  else packetsDir

/-- `if (d < 0) d = 0 - d;` -/
def positive (d : Int) : Int := if d < 0 then toSInt16 (0 - d) else d

/-- `if (d > 0) d = 0 - d;` -/
def negative (d : Int) : Int := if d > 0 then toSInt16 (0 - d) else d

/-- "Change direction", after enough packets. -/
def turned (sd packetsDir d : Int) : Int :=
  if sd < 0 ∧ packetsDir < -(c.directionSamples.toNat : Int) then positive d
  else if sd > 0 ∧ packetsDir > c.directionSamples.toNat then negative d
  else d

def trackEdge : ScrollWork :=
  match w.touchmode with
  | .MODE_EDGE_VSCROLL =>
    let packetsDir := counted p.sdy w.yPacketsDir
    { w with yPacketsDir := packetsDir, dy := turned c p.sdy packetsDir w.dy }
  | .MODE_EDGE_HSCROLL =>
    let packetsDir := counted p.sdx w.xPacketsDir
    { w with xPacketsDir := packetsDir, dx := turned c p.sdx packetsDir w.dx }
  | _ => w

def raised (count : UInt8) : UInt8 := if count < 255 then count + 1 else count

/-- The direction of a packet of two fingers. -/
def directed (sd : Int) (count : UInt8) (packetsDir : Int) : Int :=
  if sd.natAbs > c.idleFingMaxDelta.toNat ∨ count ≥ 5 then counted sd packetsDir else packetsDir

/-- "DX packet" -/
def trackDX : ScrollWork :=
  if p.sdx.natAbs > p.sdy.natAbs ∨ w.touchmode = .MODE_HSCROLL then
    let count := raised w.dxPacketsCount
    let packetsDir := directed c p.sdx count w.xPacketsDir
    if count ≥ 5 then
      { w with
        dxPacketsCount := count
        xPacketsDir := packetsDir
        dyPacketsCount :=
          if p.sdx.natAbs > p.sdy.natAbs ∧ w.dyPacketsCount > 0 then w.dyPacketsCount - 1 else w.dyPacketsCount
        dy := turned c p.sdx packetsDir w.dy
        dx := turned c p.sdx packetsDir w.dx }
    else { w with dxPacketsCount := count, xPacketsDir := packetsDir }
  else w

/-- "DY packet" -/
def trackDY : ScrollWork :=
  if p.sdy.natAbs ≥ p.sdx.natAbs ∨ w.touchmode = .MODE_VSCROLL then
    let count := raised w.dyPacketsCount
    let packetsDir := directed c p.sdy count w.yPacketsDir
    if count ≥ 5 then
      { w with
        dyPacketsCount := count
        yPacketsDir := packetsDir
        dxPacketsCount :=
          if p.sdy.natAbs ≥ p.sdx.natAbs ∧ w.dxPacketsCount > 0 then w.dxPacketsCount - 1 else w.dxPacketsCount
        dy := turned c p.sdy packetsDir w.dy
        dx := turned c p.sdy packetsDir w.dx }
    else { w with dyPacketsCount := count, yPacketsDir := packetsDir }
  else w

/-- "Ignore first 15 packets with small deltas" -/
def ignoreNoise : ScrollWork :=
  if w.packetsCount < 15 ∧ w.maxLevelReached < 2 ∧ w.totalDx.toNat < c.noiseMultiTapDelta.toNat ∧
      w.totalDy.toNat < c.noiseMultiTapDelta.toNat then
    { w with scrollDifflvl := 0, s_dx := 0, s_dy := 0 }
  else w

/-- "Stop and reset max scroll level when fingers stop and timed out" -/
def stopIdle (hasCont hasSling : Bool) : ScrollWork :=
  if p.holdTime > c.idleFingDetectTimeout then
    { w with
      noInertia := true
      scrollDifflvl := if hasCont then w.scrollDifflvl else 0
      maxLevelReached := if hasCont || hasSling then w.maxLevelReached else 0 }
  else w

def monitor : ScrollWork :=
  if p.cFingers = 1 then (w.trackEdge c p).stopIdle c p c.hasEdgeCont c.hasEdgeSling
  else if p.cFingers = 2 then (((w.trackDX c p).trackDY c p).ignoreNoise c).stopIdle c p c.has2FCont c.has2FSling
  else w

def contMaxDelta : Nat :=
  if p.cFingers = 1 then c.contMaxDeltaEdge.toNat else if p.cFingers = 2 then c.contMaxDelta2F.toNat else 0

/-! "Circular Scroll" -/

/-- The deltas turn one way around the center. -/
def isFirstTurn : Bool :=
  let c_dxy : Int := c.edgeCirDelta.toNat
  let f := w.fing 0
  p.sdy > c_dxy && p.sdx > c_dxy && f.y < c.ycenter && f.x > c.xcenter ||
    p.sdy > c_dxy && p.sdx < -c_dxy && f.y > c.ycenter && f.x > c.xcenter ||
    p.sdy < -c_dxy && p.sdx < -c_dxy && f.y > c.ycenter && f.x < c.xcenter ||
    p.sdy < -c_dxy && p.sdx > c_dxy && f.y < c.ycenter && f.x < c.xcenter

/-- The other way around. -/
def isSecondTurn : Bool :=
  let c_dxy : Int := c.edgeCirDelta.toNat
  let f := w.fing 0
  p.sdy < -c_dxy && p.sdx < -c_dxy && f.y < c.ycenter && f.x > c.xcenter ||
    p.sdy < -c_dxy && p.sdx > c_dxy && f.y > c.ycenter && f.x > c.xcenter ||
    p.sdy > c_dxy && p.sdx > c_dxy && f.y > c.ycenter && f.x < c.xcenter ||
    p.sdy > c_dxy && p.sdx < -c_dxy && f.y < c.ycenter && f.x < c.xcenter

def turnCircle : ScrollWork :=
  if w.isFirstTurn c p then
    if w.touchmode = .MODE_CIR_VSCROLL then { w with s_dy := negative w.s_dy, edgeCirDxy := negative w.s_dy }
    else { w with s_dx := positive w.s_dx, edgeCirDxy := positive w.s_dx }
  else if w.isSecondTurn c p then
    if w.touchmode = .MODE_CIR_VSCROLL then { w with s_dy := positive w.s_dy, edgeCirDxy := positive w.s_dy }
    else { w with s_dx := negative w.s_dx, edgeCirDxy := negative w.s_dx }
  else w

/-- `n` with the sign of `d`. -/
def along (d : Int) (n : Nat) : Int := if d < 0 then 0 - n else n

/-- The same, unless there is no scroll in this direction. -/
def alongMoving (d : Int) (n : Nat) : Int := if d ≠ 0 then along d n else d

def isFast : Bool := p.sdx.natAbs ≥ c.contMaxDeltaEdge.toNat || p.sdy.natAbs ≥ c.contMaxDeltaEdge.toNat

/-- "Use Max scroll level speeds" -/
def speedCircle : ScrollWork :=
  if isFast c p then
    { w with
      edgeCirDxy := along w.edgeCirDxy w.maxLevelReached.toNat
      maxLevelReached := w.maxLevelReached / 2 + 1 }
  else w

/-- `doCont` and the timer. -/
def startCont : ScrollWork := if w.doCont then w else { w with doCont := true }.send .setTimeoutMS

/-- The same, where a timer that still runs is stopped first. -/
def restartCont : ScrollWork :=
  if w.doCont then w else ({ w with doCont := true }.send .cancelTimeout).send .setTimeoutMS

def dispatchCircle : ScrollWork :=
  if c.accelModeEdge = 3 then
    if w.touchmode = .MODE_CIR_VSCROLL then w.send (.dispatchTimes false w.edgeCirDxy 0)
    else w.send (.dispatchTimes false 0 w.edgeCirDxy)
  else if w.touchmode = .MODE_CIR_VSCROLL then startCont { w with dy := w.edgeCirDxy }
  else startCont { w with dx := w.edgeCirDxy }

def moveCircle : ScrollWork :=
  if w.s_dy ≠ 0 ∨ w.s_dx ≠ 0 then (w.speedCircle c p).dispatchCircle c
  else if w.doCont && !c.hasEdgeCont then
    { w with doCont := false, dx := 0, dy := 0, edgeCirDxy := 0 }.send .cancelTimeout
  else w

/-! "Skipping zoom conflict" -/

def isConflict (s_d : Int) : Bool := p.isZoomConflict && s_d ≠ 0

def skip : ScrollWork :=
  { w with
    skippedDx := Function.update w.skippedDx w.skipSample w.s_dx
    skippedDy := Function.update w.skippedDy w.skipSample w.s_dy
    skipSample := if w.skipSample < 10 then w.skipSample + 1 else w.skipSample }

/-- "Dispatch skipped scroll from zoom logic" -/
def replay (dispatch : Int → Int → ScrollSent) : ScrollWork :=
  if p.cFingers = 2 ∧ w.skipSample > 0 then
    { w with
      sent := w.sent ++ (List.range w.skipSample).map fun i => dispatch (w.skippedDy i) (w.skippedDx i)
      skippedDx := fun i => if i < w.skipSample then 0 else w.skippedDx i
      skippedDy := fun i => if i < w.skipSample then 0 else w.skippedDy i
      skipSample := 0 }
  else w

/-- The factor is that of the edges. -/
def isEdgeScroll : Bool := w.touchmode = .MODE_EDGE_VSCROLL || w.touchmode = .MODE_EDGE_HSCROLL

/-! "Slow (or) Continous Scroll" -/

def isSlow : Bool :=
  (p.sdx.natAbs > 0 || p.sdy.natAbs > 0) && p.sdx.natAbs < contMaxDelta c p && p.sdy.natAbs < contMaxDelta c p &&
    ((w.dx ≠ 0 || w.dy ≠ 0) && p.sMode < 2 || (w.s_dx ≠ 0 || w.s_dy ≠ 0) && p.sMode > 1) &&
    w.scrollDifflvl ≠ 0

/-- The direction that is not scrolled is cleared, and the mode may become continuous. -/
def slowMode : ScrollWork :=
  match w.touchmode with
  | .MODE_HSCROLL =>
    { w with dy := 0, s_dy := 0, touchmode := if c.has2FCont then .MODE_CONT_SCROLL else w.touchmode }
  | .MODE_VSCROLL =>
    { w with dx := 0, s_dx := 0, touchmode := if c.has2FCont then .MODE_CONT_SCROLL else w.touchmode }
  | .MODE_EDGE_VSCROLL => { w with dx := 0, touchmode := if c.hasEdgeCont then .MODE_CONT_SCROLL else w.touchmode }
  | .MODE_EDGE_HSCROLL => { w with dy := 0, touchmode := if c.hasEdgeCont then .MODE_CONT_SCROLL else w.touchmode }
  | _ => w

/-- The last amounts, each with its sign, `n` long. -/
def setLevel (n : Nat) : ScrollWork := { w with dy := alongMoving w.dy n, dx := alongMoving w.dx n }

def double : ScrollWork := { w with dy := w.dy * 2, dx := w.dx * 2 }

/-- The amounts of this packet. -/
def takeAmounts : ScrollWork := { w with dy := w.s_dy, dx := w.s_dx }

def stopCont : ScrollWork := if w.doCont then { w with doCont := false }.send .cancelTimeout else w

def dispatchLast (edge : Bool) : ScrollWork := w.send (.dispatchTimes edge w.dy w.dx)

/-- "Dispatch received scroll" of a slow or continuous scroll. -/
def receiveSlow (edge : Bool) : ScrollWork :=
  let isCont := w.touchmode = .MODE_CONT_SCROLL
  if p.sMode = 0 ∨ p.sMode = 2 then
    if isCont then w.setLevel w.maxLevelReached.toNat
    else if p.sdy.natAbs > 0 then w.setLevel 1
    else w
  else if p.sMode = 1 then w.setLevel 5
  else if p.sMode = 3 ∨ p.sMode = 4 then
    if isCont then (w.setLevel w.maxLevelReached.toNat).double.restartCont
    else if p.sMode = 3 then w.takeAmounts.stopCont.dispatchLast edge
    else w.takeAmounts
  else w

def markInertia : ScrollWork := if w.touchmode ≠ .MODE_CONT_SCROLL then { w with noInertia := false } else w

def dispatchSkipped (edge : Bool) (dy dx : Int) : ScrollSent :=
  if p.sMode = 3 ∧ w.touchmode ≠ .MODE_CONT_SCROLL then .dispatchTimes edge dy dx
  else .dispatch (dy.tdiv 2) (dx.tdiv 2)

/-- "Dispatch scroll timer" -/
def startTimer : ScrollWork := if (w.dy ≠ 0 ∨ w.dx ≠ 0) ∧ p.sMode ≠ 3 then w.restartCont else w

def slow : ScrollWork :=
  if w.touchmode = .MODE_HSCROLL ∧ isConflict p w.s_dx then { w with dy := 0, s_dy := 0 }.skip
  else if w.touchmode = .MODE_VSCROLL ∧ isConflict p w.s_dy then { w with dx := 0, s_dx := 0 }.skip
  else
    let edge := w.isEdgeScroll
    let w := (w.slowMode c).markInertia
    ((w.replay p (w.dispatchSkipped p edge)).receiveSlow p edge).startTimer p

/-! "Normal scroll" -/

/-- The direction that is scrolled has the amount, or the delta that was processed last. -/
def normalMode (sDelta : Int) : ScrollWork :=
  match w.touchmode with
  | .MODE_HSCROLL => { w with dx := w.s_dx, dy := 0, s_dy := 0 }
  | .MODE_VSCROLL => { w with dx := 0, s_dx := 0, dy := w.s_dy }
  | .MODE_EDGE_VSCROLL => { w with dy := sDelta, dx := 0 }
  | .MODE_EDGE_HSCROLL => { w with dx := sDelta, dy := 0 }
  | _ => w

def receiveNormal (edge : Bool) : ScrollWork :=
  if p.sMode = 0 ∨ p.sMode = 1 ∨ p.sMode = 4 then w.restartCont
  else if p.sMode = 2 then w.send (.dispatchHalf edge w.s_dy w.s_dx)
  else if p.sMode = 3 then w.dispatchLast edge
  else w

def normal (sDelta : Int) : ScrollWork :=
  let edge := w.isEdgeScroll
  let w := { w with noInertia := false, doCont := false }.normalMode sDelta
  if w.touchmode = .MODE_HSCROLL ∧ isConflict p w.s_dx ∨ w.touchmode = .MODE_VSCROLL ∧ isConflict p w.s_dy then
    w.skip
  else (w.replay p (.dispatchTimes false)).receiveNormal p edge

/-- Nothing moves. -/
def finish : ScrollWork :=
  if w.scrollDifflvl = 0 && w.doCont &&
      (p.cFingers = 2 && !c.has2FCont || p.cFingers = 1 && !c.hasEdgeCont) then
    { w with doCont := false, dx := 0, dy := 0 }.send .cancelTimeout
  else w

def isCircular : Bool := w.touchmode = .MODE_CIR_VSCROLL || w.touchmode = .MODE_CIR_HSCROLL

def isNormal : Bool := (p.sdx.natAbs > 0 || p.sdy.natAbs > 0) && w.scrollDifflvl ≠ 0

def scroll (sDelta : Int) : ScrollWork :=
  if w.isCircular then (w.turnCircle c p).moveCircle c p
  else if w.isSlow c p then w.slow c p
  else if w.isNormal p then w.normal p sDelta
  else w.finish c p

end ScrollWork

namespace ScrollState

variable (c : ScrollControl) (p : ScrollPacket) (s : ScrollState)

/-- "Collect and process last 5 samples of scroll delta values" -/
def sample : ScrollState :=
  { s with
    lastSample :=
      Function.update s.lastSample s.scrollSample (UInt16.ofNat p.sdx.natAbs, UInt16.ofNat p.sdy.natAbs)
    scrollSample := if s.scrollSample < 4 then s.scrollSample + 1 else 0 }

/-- The state behind the loop. -/
def accelerate : ScrollWork :=
  let a := s.amounts c p
  { s.sample p with
    touchmode := a.touchmode
    pSmoothX := a.pSmoothX
    pSmoothY := a.pSmoothY
    s_dx := a.s_dx
    s_dy := a.s_dy
    scrollDifflvl := a.scrollDifflvl }

/-- The state before anything is dispatched. -/
def monitored : ScrollWork := (((s.accelerate c p).restart c p).measure p).monitor c p

/-- `Process_scroll`. -/
def processScroll : ScrollState := ((s.monitored c p).scroll c p (s.amounts c p).sDelta).toScrollState

end ScrollState
end ApplePS2
