import ApplePS2.Touchpad.Position
import ApplePS2.Touchpad.Timers

/- Edge swipes of one and of two fingers: how they are recognised and dispatched
   (`Process_edgeSwipe`, `Dispatch_edgeSwipe`), and the parts of
   `Process_singlefinger_touch` and `Process_twofingers_touch` that come to them.

   A swipe goes in, from the area of an edge to beyond a distance, or out. After each
   the start of the fingers is set, so that the reverse swipe works without a lift.

   1. `SwipeEdge.fits`: what the four edges have in common, when the areas fit the distances.
   2. `Process_edgeSwipe_tracked`: one call keeps the fingers on the side that the last swipe leaves.
   3. `edgeSwipes_alternate`: while the fingers stay down, two swipes in a row at one edge go
      opposite ways, unless the start that the first one sets wraps. -/
namespace ApplePS2

open Transition

inductive SwipeEdge where
  | left | right | bottom | top
  deriving DecidableEq, Repr

inductive SwipeWay where
  | swipeIn | swipeOut
  deriving DecidableEq, Repr

/-- A call of `Dispatch_edgeSwipe`, and where the finger was. -/
structure EdgeSwipe where
  edge : SwipeEdge
  way : SwipeWay
  position : Int
  deriving DecidableEq, Repr

/-- The properties of edge swipes, and those of scrolling that a swipe looks at. -/
structure EdgeSettings extends EdgeSwipes where
  resetPointerOnEdge : Bool
  scrollEdgeHArea : UInt16
  scrollEdgeVArea : UInt16

/-- `_xmin`, `_xmax`, `_ymin`, `_ymax` -/
structure TouchRange where
  xmin : UInt16
  xmax : UInt16
  ymin : UInt16
  ymax : UInt16

/-- What a case of `Process_edgeSwipe` tests and sets. -/
structure EdgeCase where
  action : UInt8
  mode : TouchPadModes
  /-- In the area of the edge. -/
  inArea : Int → Bool
  /-- Beyond the distance from the edge. -/
  beyond : Int → Bool
  /-- A start of a swipe in. -/
  startsIn : Int → Bool
  /-- A start with which a swipe is dispatched as one that goes in. -/
  goesIn : Int → Bool
  /-- The start after a swipe in, and after a swipe out. -/
  inStart : Int → Int
  outStart : Int
  /-- The start is first looked at for a swipe out. -/
  outFirst : Bool

namespace SwipeEdge

variable (E : EdgeSwipes) (r : TouchRange)

/-- The left edge; the right one looks at a start for a swipe out first. -/
def leftCase : EdgeCase :=
  { action := E.leftEdge, mode := .MODE_LEFT_EDGE_SWIPE
    inArea := fun x => x < r.xmin.toNat + E.edgeHArea.toNat
    beyond := fun x => x > r.xmin.toNat + E.edgeHDistance.toNat
    startsIn := fun x => x < r.xmin.toNat + E.edgeHArea.toNat
    goesIn := fun x => x < r.xmin.toNat + E.edgeHArea.toNat
    inStart := fun x => x + E.edgeHArea.toNat, outStart := r.xmin.toNat, outFirst := false }

def rightCase : EdgeCase :=
  { action := E.rightEdge, mode := .MODE_RIGHT_EDGE_SWIPE
    inArea := fun x => x > r.xmax.toNat - E.edgeHArea.toNat
    beyond := fun x => x < r.xmax.toNat - E.edgeHDistance.toNat
    startsIn := fun x => x > r.xmax.toNat - E.edgeHArea.toNat
    goesIn := fun x => x > r.xmax.toNat - E.edgeHArea.toNat
    inStart := fun x => x - E.edgeHArea.toNat, outStart := r.xmax.toNat, outFirst := true }

/-- The bottom edge has 0.8 of its area, and its area less 30, where the others have theirs. -/
def bottomCase : EdgeCase :=
  { action := E.bottomEdge, mode := .MODE_BOTTOM_EDGE_SWIPE
    inArea := fun y => y > r.ymax.toNat - E.edgeVArea.toNat
    beyond := fun y => y < r.ymax.toNat - E.edgeVDistance.toNat
    startsIn := fun y => 5 * (r.ymax.toNat - y) < 4 * E.edgeVArea.toNat
    goesIn := fun y => y > r.ymax.toNat - (E.edgeVArea.toNat - 30 : Int)
    inStart := fun y => y - E.edgeVArea.toNat, outStart := r.ymax.toNat, outFirst := false }

def topCase : EdgeCase :=
  { action := E.topEdge, mode := .MODE_TOP_EDGE_SWIPE
    inArea := fun y => y < r.ymin.toNat + E.edgeVArea.toNat
    beyond := fun y => y > r.ymin.toNat + E.edgeVDistance.toNat
    startsIn := fun y => y < r.ymin.toNat + E.edgeVArea.toNat
    goesIn := fun y => y < r.ymin.toNat + E.edgeVArea.toNat
    inStart := fun y => y + E.edgeVArea.toNat, outStart := r.ymin.toNat, outFirst := false }

def edgeCase : SwipeEdge → EdgeCase
  | left => leftCase E r
  | right => rightCase E r
  | bottom => bottomCase E r
  | top => topCase E r

/-- `_swipe.direction` -/
def ofDirection (direction : UInt8) : Option SwipeEdge :=
  if direction = 1 then some left
  else if direction = 2 then some right
  else if direction = 3 then some bottom
  else if direction = 4 then some top
  else none

/-- The coordinate that counts. -/
def start (f : Finger) : SwipeEdge → UInt16
  | left | right => f.start_x
  | bottom | top => f.start_y

def setStart (n : UInt16) (f : Finger) : SwipeEdge → Finger
  | left | right => { f with start_x := n }
  | bottom | top => { f with start_y := n }

def coordinate (x y : Int) : SwipeEdge → Int
  | left | right => x
  | bottom | top => y

end SwipeEdge

/-- The mode of an edge swipe. -/
def TouchPadModes.isEdgeSwipe : TouchPadModes → Bool
  | .MODE_TOP_EDGE_SWIPE | .MODE_BOTTOM_EDGE_SWIPE | .MODE_LEFT_EDGE_SWIPE | .MODE_RIGHT_EDGE_SWIPE => true
  | _ => false

structure EdgeTouch where
  driver : TapDriver
  lastSwipeTime : UInt64
  /-- The calls of `Dispatch_edgeSwipe`. -/
  dispatched : List EdgeSwipe

namespace EdgeTouch

variable (E : EdgeSettings)

def touchpad (s : EdgeTouch) : Touchpad := s.driver.touchpad

def pad (f : Touchpad → Touchpad) (s : EdgeTouch) : EdgeTouch := { s with driver := s.driver.pad f }

def range (s : EdgeTouch) : TouchRange := ⟨s.touchpad.xmin, s.touchpad.xmax, s.touchpad.ymin, s.touchpad.ymax⟩

def caseOf (s : EdgeTouch) (e : SwipeEdge) : EdgeCase := e.edgeCase E.toEdgeSwipes s.range

def kPS2C_Gesture_AppSwitch : UInt8 := 1
def kPS2C_Gesture_DesktopSwitchLeft : UInt8 := 6
def kPS2C_Gesture_DesktopSwitchRight : UInt8 := 7
def kPS2C_Gesture_NC_Workaround : UInt8 := 17

/-- A swipe out of a switch of desktops goes to the other one. -/
def outwardAction (gestureAction : UInt8) : SwipeWay → UInt8
  | .swipeIn => gestureAction
  | .swipeOut =>
    if gestureAction = kPS2C_Gesture_DesktopSwitchLeft then 7
    else if gestureAction = kPS2C_Gesture_DesktopSwitchRight then 6
    else gestureAction

/-- The pause between quick swipes is left out. -/
def Dispatch_edgeSwipe (gestureAction : UInt8) (direction : SwipeWay) (s : EdgeTouch) : EdgeTouch :=
  let driver :=
    if gestureAction = kPS2C_Gesture_NC_Workaround then s.driver.Open_NC
    else if gestureAction = kPS2C_Gesture_AppSwitch then { s.driver with touchpad.swipe.isAppSwitchDone := true }
    else s.driver
  let action := outwardAction gestureAction direction
  let driver := driver.pad (Touchpad.send (.dispatchPS2Notification (UInt32.ofNat action.toNat)))
  let driver := if E.resetPointerOnEdge && action ≠ 17 then driver.ResetPointerToMiddle else driver
  { s with driver := driver, lastSwipeTime := s.touchpad.gestureTime }

/-- The swipe that is dispatched. -/
def wayOf (k : EdgeCase) (x start : Int) : Option SwipeWay :=
  if k.goesIn start then some .swipeIn
  else if k.inArea x then some .swipeOut
  else none

/-- The start that is set; it is kept as it is when neither test holds. -/
def startAfter (k : EdgeCase) (x start : Int) : Option Int :=
  if k.outFirst && k.beyond start then some k.outStart
  else if k.startsIn start then some (k.inStart x)
  else if k.beyond start then some k.outStart
  else none

/-- The test of the case: a swipe out, which another edge's mode excludes, or a swipe in. -/
def accepts (k : EdgeCase) (x start : Int) (s : EdgeTouch) : Bool :=
  k.action > 0 &&
    (k.inArea x && k.beyond start &&
        (s.touchpad.touchmode = k.mode || E.has2WayEdgeSwipes && s.touchpad.touchmode.ctorIdx < 26) ||
      k.beyond x && k.startsIn start)

/-- The swipe is dispatched, if there is one. -/
def dispatchWay (e : SwipeEdge) (k : EdgeCase) (position : Int) (s : EdgeTouch) : Option SwipeWay → EdgeTouch
  | some way =>
    let t := s.Dispatch_edgeSwipe E k.action way
    { t with dispatched := t.dispatched ++ [⟨e, way, position⟩] }
  | none => s

/-- With two fingers both starts are set. -/
def movedFingers (fid : Int) (s : EdgeTouch) : List Int := if s.touchpad.cFingers = 2 then [0, 1] else [fid]

def setStarts (e : SwipeEdge) (fid : Int) (s : EdgeTouch) : Option Int → EdgeTouch
  | some n =>
    let fids := s.movedFingers fid
    s.pad fun t => { t with fing := fun i => if i ∈ fids then e.setStart (UInt16.ofInt n) (t.fing i) else t.fing i }
  | none => s

def startOf (e : SwipeEdge) (fid : Int) (s : EdgeTouch) : Int := (e.start (s.touchpad.fing fid)).toNat

/-- A case of `Process_edgeSwipe`. -/
def processCase (e : SwipeEdge) (x y fid : Int) (s : EdgeTouch) : EdgeTouch :=
  let k := s.caseOf E e
  let position := e.coordinate x y
  let start := s.startOf e fid
  if s.accepts E k position start then
    let s := s.dispatchWay E e k position (wayOf k position start)
    let s := s.pad fun t => { t with touchmode := k.mode }
    s.setStarts e fid (startAfter k position start)
  else s

def Process_edgeSwipe (x y fid : Int) (s : EdgeTouch) : EdgeTouch :=
  match SwipeEdge.ofDirection s.touchpad.swipe.direction with
  | none => s
  | some e => s.processCase E e x y fid

/-! What comes to it. -/

/-- What the driver knows of the fingers when a packet comes, besides what it has assigned. -/
structure Sight where
  x : Int
  y : Int
  x2 : Int
  y2 : Int
  /-- `_scroll.totalDx`, `_scroll.totalDy` -/
  totalDx : UInt32
  totalDy : UInt32

def setEdge (direction : UInt8) : EdgeTouch → EdgeTouch :=
  pad fun s => { s with swipe.direction := direction, swipe.isEdgeGesture := true }

/-- The finger starts at the edge, or has come to it from afar. -/
def reachesEdge (e : SwipeEdge) (x y fid : Int) (s : EdgeTouch) : Bool :=
  let k := s.caseOf E e
  let start := s.startOf e fid
  k.action > 0 && (k.inArea start || k.beyond start && k.inArea (e.coordinate x y) && E.has2WayEdgeSwipes)

def isAtEdge (x y : Int) (s : EdgeTouch) : Bool :=
  (s.caseOf E .bottom).inArea y || (s.caseOf E .top).inArea y || (s.caseOf E .left).inArea x || (s.caseOf E .right).inArea x

/-- "Enable edge swipe mode when the finger starts from either edge area or middle of the touchpad for 2 way swipes." -/
def detectEdge (x y fid : Int) (s : EdgeTouch) : EdgeTouch :=
  let t := s.touchpad
  let f := t.fing fid
  if !t.button.triggered && t.swipe.hasEdgeSwipes &&
      (t.packetsCount = 0 || E.has2WayEdgeSwipes && s.isAtEdge E x y) then
    if above (t.xmin.toNat + E.nonEdgeHArea.toNat) f.start_x && below (t.xmax.toNat - E.nonEdgeHArea.toNat) f.start_x then
      if s.reachesEdge E .top x y fid then s.setEdge 4
      else if s.reachesEdge E .bottom x y fid then s.setEdge 3
      else s
    else if above (t.ymin.toNat + E.nonEdgeVArea.toNat) f.start_y && below (t.ymax.toNat - E.nonEdgeVArea.toNat) f.start_y then
      if s.reachesEdge E .left x y fid then s.setEdge 1
      else if s.reachesEdge E .right x y fid then s.setEdge 2
      else s
    else s
  else s

/-- "Process Edge Swipes if x or y starts from the edge area" -/
def processesEdge (p : Sight) (fid : Int) (s : EdgeTouch) : Bool :=
  let t := s.touchpad
  t.touchmode.isEdgeSwipe ||
    t.swipe.isEdgeGesture && E.edgeFingers < 2 && !t.button.triggered && t.touchmode ≠ .MODE_CIR_VSCROLL &&
      p.totalDx < 30 && p.totalDy < 30 &&
      !(p.x > t.xmax.toNat - E.scrollEdgeVArea.toNat && s.startOf .right fid > t.xmax.toNat - E.scrollEdgeVArea.toNat &&
        t.scroll.hasEdgeScroll) &&
      !(p.y > t.ymax.toNat - E.scrollEdgeHArea.toNat && s.startOf .bottom fid > t.ymax.toNat - E.scrollEdgeHArea.toNat &&
        t.scroll.hasEdgeScroll)

/-- A finger has moved along one axis, by more than half of the distance. -/
def movesAlong (across along : Nat) (distance : UInt16) : Bool := across < along / 2 && along > distance.toNat / 2

/-- The edges at which a finger that has moved so far may swipe. -/
def movesFar (dx dy : Nat) : Bool :=
  (E.topEdge > 0 || E.bottomEdge > 0) && movesAlong dx dy E.edgeVDistance ||
    (E.rightEdge > 0 || E.leftEdge > 0) && movesAlong dy dx E.edgeHDistance

def stopPointer (s : EdgeTouch) : EdgeTouch :=
  if s.touchpad.pContinuousMove then s.pad Touchpad.StopPointerEnhanceTimer else s

/-- `Process_singlefinger_touch` as far as the edge swipes, and whether it returns there. -/
def singleFinger (p : Sight) (fid : Int) (s : EdgeTouch) : EdgeTouch × Bool :=
  let s := s.detectEdge E p.x p.y fid
  if s.processesEdge E p fid then
    let dx := (s.startOf .left fid - p.x).natAbs
    let dy := (s.startOf .top fid - p.y).natAbs
    let s := if movesFar E dx dy then s.Process_edgeSwipe E p.x p.y fid else s
    if s.touchpad.touchmode.ctorIdx > 25 || dy < E.scrollEdgeHArea.toNat then (s.stopPointer, true) else (s, false)
  else (s, false)

/-- `Process_twofingers_touch` in the same way; both fingers have moved far. The scroll timer is left out. -/
def twoFingers (p : Sight) (s : EdgeTouch) : EdgeTouch × Bool :=
  let t := s.touchpad
  if (t.swipe.isEdgeGesture || t.touchmode.ctorIdx > 25) && !t.button.triggered then
    let d₁ (e : SwipeEdge) (x : Int) : Nat := (s.startOf e t.pid - x).natAbs
    let d₂ (e : SwipeEdge) (x : Int) : Nat := (s.startOf e t.sid - x).natAbs
    let vertical := (E.topEdge > 0 || E.bottomEdge > 0) &&
      movesAlong (d₁ .left p.x) (d₁ .top p.y) E.edgeVDistance && movesAlong (d₂ .left p.x2) (d₂ .top p.y2) E.edgeVDistance
    let horizontal := (E.rightEdge > 0 || E.leftEdge > 0) &&
      movesAlong (d₁ .top p.y) (d₁ .left p.x) E.edgeHDistance && movesAlong (d₂ .top p.y2) (d₂ .left p.x2) E.edgeHDistance
    let s := if vertical || horizontal then (s.Process_edgeSwipe E p.x p.y 0).Process_edgeSwipe E p.x2 p.y2 1 else s
    (s, !E.has2WayEdgeSwipes || s.touchpad.touchmode.ctorIdx > 25)
  else (s, false)

end EdgeTouch

/-! The geometry of an edge. -/

/-- What the tests of an edge have to do with each other. -/
structure EdgeCase.Fits (k : EdgeCase) : Prop where
  starts : ∀ n, k.beyond n = true → k.startsIn n = false
  goes : ∀ n, k.beyond n = true → k.goesIn n = false
  area : ∀ n, k.beyond n = true → k.inArea n = false
  afterIn : ∀ n, k.beyond n = true → k.beyond (k.inStart n) = true
  afterOut : k.goesIn k.outStart = true
  stored : 0 ≤ k.outStart ∧ k.outStart < 65536

/-- The areas are not larger than the distances, for the edges that are in use. The bottom edge needs more than 30, and
150 beside the top edge. -/
structure EdgeSwipes.Sound (E : EdgeSwipes) : Prop where
  horizontal : E.leftEdge > 0 ∨ E.rightEdge > 0 → 0 < E.edgeHArea.toNat ∧ E.edgeHArea.toNat ≤ E.edgeHDistance.toNat
  top : E.topEdge > 0 → 0 < E.edgeVArea.toNat ∧ E.edgeVArea.toNat ≤ E.edgeVDistance.toNat
  bottom : E.bottomEdge > 0 → 30 < E.edgeVArea.toNat ∧ E.edgeVArea.toNat ≤ E.edgeVDistance.toNat
  both : E.topEdge > 0 → E.bottomEdge > 0 → 150 ≤ E.edgeVArea.toNat

namespace SwipeEdge

variable {E : EdgeSwipes} (r : TouchRange)

theorem fits_left (h : 0 < E.edgeHArea.toNat ∧ E.edgeHArea.toNat ≤ E.edgeHDistance.toNat) : (leftCase E r).Fits := by
  obtain ⟨hpos, hle⟩ := h
  have hmin := r.xmin.toNat_lt
  constructor <;> simp only [leftCase, decide_eq_true_eq, decide_eq_false_iff_not] <;> omega

theorem fits_right (h : 0 < E.edgeHArea.toNat ∧ E.edgeHArea.toNat ≤ E.edgeHDistance.toNat) : (rightCase E r).Fits := by
  obtain ⟨hpos, hle⟩ := h
  have hmax := r.xmax.toNat_lt
  constructor <;> simp only [rightCase, decide_eq_true_eq, decide_eq_false_iff_not] <;> omega

theorem fits_bottom (h : 30 < E.edgeVArea.toNat ∧ E.edgeVArea.toNat ≤ E.edgeVDistance.toNat) : (bottomCase E r).Fits := by
  obtain ⟨hpos, hle⟩ := h
  have hmax := r.ymax.toNat_lt
  constructor <;> simp only [bottomCase, decide_eq_true_eq, decide_eq_false_iff_not] <;> omega

theorem fits_top (h : 0 < E.edgeVArea.toNat ∧ E.edgeVArea.toNat ≤ E.edgeVDistance.toNat) : (topCase E r).Fits := by
  obtain ⟨hpos, hle⟩ := h
  have hmin := r.ymin.toNat_lt
  constructor <;> simp only [topCase, decide_eq_true_eq, decide_eq_false_iff_not] <;> omega

theorem fits (hE : E.Sound) (e : SwipeEdge) (h : (e.edgeCase E r).action > 0) : (e.edgeCase E r).Fits := by
  cases e with
  | left => exact fits_left r (hE.horizontal (.inl h))
  | right => exact fits_right r (hE.horizontal (.inr h))
  | bottom => exact fits_bottom r (hE.bottom h)
  | top => exact fits_top r (hE.top h)

/-- A swipe in that is recognised is dispatched as one, but for a band at the bottom edge. -/
theorem startsIn_goesIn (hE : E.Sound) {e : SwipeEdge} (h : (e.edgeCase E r).action > 0) {n : Int}
    (hstarts : (e.edgeCase E r).startsIn n = true) (hgoes : (e.edgeCase E r).goesIn n = false) :
    e = bottom ∧ ¬E.topEdge > 0 := by
  cases e with
  | left => exact absurd hstarts (Bool.eq_false_iff.1 hgoes)
  | right => exact absurd hstarts (Bool.eq_false_iff.1 hgoes)
  | top => exact absurd hstarts (Bool.eq_false_iff.1 hgoes)
  | bottom =>
    refine ⟨rfl, fun htop => ?_⟩
    have harea := hE.both htop h
    simp only [edgeCase, bottomCase, decide_eq_true_eq, decide_eq_false_iff_not] at hstarts hgoes
    omega

/-- The edges at which the height counts. -/
def isVertical : SwipeEdge → Bool
  | left | right => false
  | bottom | top => true

theorem start_setStart (e e' : SwipeEdge) (n : UInt16) (f : Finger) :
    start (e.setStart n f) e' = if e.isVertical = e'.isVertical then n else start f e' := by
  cases e <;> cases e' <;> rfl

end SwipeEdge

namespace EdgeTouch

variable {E : EdgeSettings}

/-! One call of `Process_edgeSwipe`. -/

def swiping (s : EdgeTouch) : Bool := s.touchpad.touchmode.isEdgeSwipe

/-- The touch goes on as it was. -/
structure SameTouch (s t : EdgeTouch) : Prop where
  dispatched : t.dispatched = s.dispatched
  swiping : t.swiping = s.swiping
  range : t.range = s.range
  cFingers : t.touchpad.cFingers = s.touchpad.cFingers
  start : ∀ e i, t.startOf e i = s.startOf e i

theorem SameTouch.refl (s : EdgeTouch) : SameTouch s s := ⟨rfl, rfl, rfl, rfl, fun _ _ => rfl⟩

/-- What the touch sees of the driver. -/
def seen (d : TapDriver) : TouchPadModes × TouchRange × UInt8 × (Int → Finger) :=
  (d.touchpad.touchmode, ⟨d.touchpad.xmin, d.touchpad.xmax, d.touchpad.ymin, d.touchpad.ymax⟩, d.touchpad.cFingers,
    d.touchpad.fing)

theorem SameTouch.of_seen {s t : EdgeTouch} (hdispatched : t.dispatched = s.dispatched) (h : seen t.driver = seen s.driver) :
    SameTouch s t := by
  have hmode : t.touchpad.touchmode = s.touchpad.touchmode := congrArg Prod.fst h
  have hfing : t.touchpad.fing = s.touchpad.fing := congrArg (fun v => v.2.2.2) h
  exact ⟨hdispatched, congrArg TouchPadModes.isEdgeSwipe hmode, congrArg (fun v => v.2.1) h, congrArg (fun v => v.2.2.1) h,
    fun e i => congrArg (fun f : Int → Finger => ((e.start (f i)).toNat : Int)) hfing⟩

theorem seen_send (m : TouchpadSent) (d : TapDriver) : seen (d.pad (Touchpad.send m)) = seen d := rfl

theorem seen_ResetPointerToMiddle (d : TapDriver) : seen d.ResetPointerToMiddle = seen d := by
  unfold TapDriver.ResetPointerToMiddle TapDriver.place
  rw [seen_send, seen_send]

theorem seen_Open_NC (d : TapDriver) : seen d.Open_NC = seen d := by
  have hplace : seen { d.place 0 with taps.isNCDone := true } = seen d := seen_send _ d
  unfold TapDriver.Open_NC
  dsimp only
  split
  · exact hplace
  · rw [seen_ResetPointerToMiddle, TapDriver.place, seen_send, TapDriver.place, seen_send]
    exact hplace

/-- What a dispatch assigns is no part of the touch. -/
theorem sameTouch_dispatch (action : UInt8) (way : SwipeWay) (s : EdgeTouch) :
    SameTouch s (s.Dispatch_edgeSwipe E action way) := by
  have hsent : (s.Dispatch_edgeSwipe E action way).dispatched = s.dispatched := rfl
  apply SameTouch.of_seen hsent
  unfold Dispatch_edgeSwipe
  dsimp only
  split_ifs <;> simp only [seen_ResetPointerToMiddle, seen_send, seen_Open_NC] <;> rfl

/-- What a case does that is accepted. -/
structure Accepted (e : SwipeEdge) (k : EdgeCase) (position start : Int) (fids : List Int) (s t : EdgeTouch) : Prop where
  action : k.action > 0
  test : k.inArea position = true ∧ k.beyond start = true ∨ k.beyond position = true ∧ k.startsIn start = true
  dispatched : t.dispatched = s.dispatched ++ (wayOf k position start).toList.map (⟨e, ·, position⟩)
  swiping : t.swiping = true
  range : t.range = s.range
  cFingers : t.touchpad.cFingers = s.touchpad.cFingers
  start : ∀ n ∈ startAfter k position start, ∀ e' i, t.startOf e' i =
    if i ∈ fids ∧ e.isVertical = e'.isVertical then ((UInt16.ofInt n).toNat : Int) else s.startOf e' i

theorem isEdgeSwipe_mode (E : EdgeSwipes) (r : TouchRange) (e : SwipeEdge) : (e.edgeCase E r).mode.isEdgeSwipe = true := by
  cases e <;> rfl

theorem dispatchWay_dispatched (e : SwipeEdge) (k : EdgeCase) (position : Int) (s : EdgeTouch) (o : Option SwipeWay) :
    (s.dispatchWay E e k position o).dispatched = s.dispatched ++ o.toList.map (⟨e, ·, position⟩) := by
  cases o with
  | none => exact (List.append_nil _).symm
  | some way => rfl

theorem dispatchWay_touch (e : SwipeEdge) (k : EdgeCase) (position : Int) (s : EdgeTouch) (o : Option SwipeWay) :
    (s.dispatchWay E e k position o).range = s.range ∧
      (s.dispatchWay E e k position o).touchpad.cFingers = s.touchpad.cFingers ∧
      ∀ e' i, (s.dispatchWay E e k position o).startOf e' i = s.startOf e' i := by
  cases o with
  | none => exact ⟨rfl, rfl, fun _ _ => rfl⟩
  | some way =>
    have hsame := sameTouch_dispatch (E := E) k.action way s
    exact ⟨hsame.range, hsame.cFingers, hsame.start⟩

theorem startOf_setStarts (e e' : SwipeEdge) (fid i n : Int) (s : EdgeTouch) :
    (s.setStarts e fid (some n)).startOf e' i =
      if i ∈ s.movedFingers fid ∧ e.isVertical = e'.isVertical then ((UInt16.ofInt n).toNat : Int) else s.startOf e' i := by
  show ((e'.start (if i ∈ s.movedFingers fid then e.setStart (UInt16.ofInt n) (s.touchpad.fing i)
    else s.touchpad.fing i)).toNat : Int) = _
  by_cases hmem : i ∈ s.movedFingers fid
  · rw [if_pos hmem, SwipeEdge.start_setStart]
    by_cases haxis : e.isVertical = e'.isVertical
    · rw [if_pos haxis, if_pos ⟨hmem, haxis⟩]
    · rw [if_neg haxis, if_neg fun h => haxis h.2]
      rfl
  · rw [if_neg hmem, if_neg fun h => hmem h.1]
    rfl

theorem setStarts_touch (e : SwipeEdge) (fid : Int) (s : EdgeTouch) (o : Option Int) :
    (s.setStarts e fid o).dispatched = s.dispatched ∧ (s.setStarts e fid o).swiping = s.swiping ∧
      (s.setStarts e fid o).range = s.range ∧ (s.setStarts e fid o).touchpad.cFingers = s.touchpad.cFingers := by
  cases o <;> exact ⟨rfl, rfl, rfl, rfl⟩

theorem processCase_cases (e : SwipeEdge) (x y fid : Int) (s : EdgeTouch) :
    s.processCase E e x y fid = s ∨
      Accepted e (s.caseOf E e) (e.coordinate x y) (s.startOf e fid) (s.movedFingers fid) s (s.processCase E e x y fid) := by
  unfold processCase
  dsimp only
  split
  · next haccepts =>
    right
    simp only [accepts, Bool.and_eq_true, Bool.or_eq_true, decide_eq_true_eq] at haccepts
    obtain ⟨haction, htest⟩ := haccepts
    generalize hway : wayOf (s.caseOf E e) (e.coordinate x y) (s.startOf e fid) = way
    generalize hposition : e.coordinate x y = position at *
    obtain ⟨hrange, hfingers, hstart⟩ := dispatchWay_touch (E := E) e (s.caseOf E e) position s way
    have hdispatched := dispatchWay_dispatched (E := E) e (s.caseOf E e) position s way
    generalize s.dispatchWay E e (s.caseOf E e) position way = t at *
    obtain ⟨hset, hswiping, hsetRange, hsetFingers⟩ := setStarts_touch e fid
      (t.pad fun u => { u with touchmode := (s.caseOf E e).mode }) (startAfter (s.caseOf E e) position (s.startOf e fid))
    refine ⟨haction, ?_, ?_, ?_, ?_, ?_, ?_⟩
    · exact htest.imp (fun h => ⟨h.1.1, h.1.2⟩) id
    · rw [hset, hway]
      exact hdispatched
    · rw [hswiping]
      exact isEdgeSwipe_mode E.toEdgeSwipes s.range e
    · rw [hsetRange]
      exact hrange
    · rw [hsetFingers]
      exact hfingers
    · intro n hn e' i
      rw [Option.mem_def] at hn
      have hmoved : (t.pad fun u => { u with touchmode := (s.caseOf E e).mode }).movedFingers fid = s.movedFingers fid :=
        congrArg (fun c : UInt8 => if c = 2 then [0, 1] else [fid]) hfingers
      rw [hn, startOf_setStarts, hmoved, ← hstart e' i]
      rfl
  · exact .inl rfl

/-! Touches. -/

/-- The start that a swipe in sets is stored as it is. -/
def Lands (E : EdgeSwipes) (r : TouchRange) (d : EdgeSwipe) : Prop :=
  d.way = .swipeIn → 0 ≤ (d.edge.edgeCase E r).inStart d.position ∧ (d.edge.edgeCase E r).inStart d.position < 65536

/-- The side of the edge on which the start is after a swipe. -/
def leftOn (k : EdgeCase) : SwipeWay → Int → Bool
  | .swipeIn => k.beyond
  | .swipeOut => k.goesIn

/-- Two swipes in a row at one edge go opposite ways. -/
def Alternates (E : EdgeSwipes) (r : TouchRange) (d d' : EdgeSwipe) : Prop :=
  d.edge = d'.edge → Lands E r d → d.way ≠ d'.way

/-- A touch, of the finger or of two, since its first swipe. -/
structure Tracked (E : EdgeSwipes) (r : TouchRange) (finger : Int) (fids : List Int) (s : EdgeTouch) : Prop where
  range : s.range = r
  moved : s.movedFingers finger = fids
  chain : s.dispatched.IsChain (Alternates E r)
  swiping : s.dispatched ≠ [] → s.swiping = true
  last : ∀ d ∈ s.dispatched.getLast?, (d.edge.edgeCase E r).action > 0 ∧
    (Lands E r d → ∀ i ∈ fids, leftOn (d.edge.edgeCase E r) d.way (s.startOf d.edge i) = true)

variable {r : TouchRange} {finger : Int} {fids : List Int} {s t : EdgeTouch}

theorem movedFingers_congr (h : t.touchpad.cFingers = s.touchpad.cFingers) (i : Int) : t.movedFingers i = s.movedFingers i :=
  congrArg (fun c : UInt8 => if c = 2 then [0, 1] else [i]) h

/-- With each of the fingers the same starts are set. -/
theorem Tracked.fingers (h : Tracked E.toEdgeSwipes r finger fids s) {i : Int} (hi : i ∈ fids) : s.movedFingers i = fids := by
  have hmoved := h.moved
  unfold movedFingers at hmoved ⊢
  split_ifs at hmoved ⊢
  · exact hmoved
  · rw [← hmoved, List.mem_singleton] at hi
    rw [hi]
    exact hmoved

theorem Tracked.same (h : Tracked E.toEdgeSwipes r finger fids s) (hsame : SameTouch s t) : Tracked E.toEdgeSwipes r finger fids t := by
  obtain ⟨hrange, hmoved, hchain, hswiping, hlast⟩ := h
  refine ⟨hsame.range.trans hrange, (movedFingers_congr hsame.cFingers finger).trans hmoved, ?_, ?_, ?_⟩
  · rw [hsame.dispatched]
    exact hchain
  · rw [hsame.dispatched, hsame.swiping]
    exact hswiping
  · intro d hd
    rw [hsame.dispatched] at hd
    obtain ⟨haction, hside⟩ := hlast d hd
    refine ⟨haction, fun hlands i hi => ?_⟩
    rw [hsame.start]
    exact hside hlands i hi

theorem wayOf_eq {k : EdgeCase} {position start : Int} {o : Option SwipeWay} (h : wayOf k position start = o) :
    (k.goesIn start = true ∧ o = some .swipeIn) ∨ (k.goesIn start = false ∧ k.inArea position = true ∧ o = some .swipeOut) ∨
      (k.goesIn start = false ∧ k.inArea position = false ∧ o = none) := by
  subst h
  unfold wayOf
  cases k.goesIn start <;> cases k.inArea position <;> simp

/-- A swipe that is accepted but not dispatched is one at the bottom edge, with none at the top. -/
theorem Accepted.undispatched (hE : E.Sound) {e : SwipeEdge} {position start : Int}
    (h : Accepted e (e.edgeCase E.toEdgeSwipes r) position start fids s t)
    (hnone : wayOf (e.edgeCase E.toEdgeSwipes r) position start = none) :
    e = .bottom ∧ ¬E.topEdge > 0 ∧ (e.edgeCase E.toEdgeSwipes r).startsIn start = true := by
  rcases wayOf_eq hnone with ⟨-, hway⟩ | ⟨-, -, hway⟩ | ⟨hgoes, harea, -⟩
  · cases hway
  · cases hway
  rcases h.test with ⟨harea', -⟩ | ⟨-, hstarts⟩
  · exact absurd harea' (Bool.eq_false_iff.1 harea)
  · obtain ⟨hbottom, htop⟩ := SwipeEdge.startsIn_goesIn r hE h.action hstarts hgoes
    exact ⟨hbottom, htop, hstarts⟩

/-- The start after a dispatched swipe. -/
theorem startAfter_eq {k : EdgeCase} (hk : k.Fits) {position start : Int}
    (htest : k.inArea position = true ∧ k.beyond start = true ∨ k.beyond position = true ∧ k.startsIn start = true)
    {way : SwipeWay} (hway : wayOf k position start = some way) :
    match way with
    | .swipeIn => startAfter k position start = some (k.inStart position) ∧ k.beyond position = true
    | .swipeOut => startAfter k position start = some k.outStart := by
  have hexclusive : ∀ n, k.startsIn n = true → k.beyond n = false := fun n hn =>
    Bool.eq_false_iff.2 fun hbeyond => absurd hn (Bool.eq_false_iff.1 (hk.starts n hbeyond))
  unfold startAfter
  cases way with
  | swipeIn =>
    rcases wayOf_eq hway with ⟨hgoes, -⟩ | ⟨-, -, hother⟩ | ⟨-, -, hother⟩
    · rcases htest with ⟨-, hbeyond⟩ | ⟨hbeyond, hstarts⟩
      · exact absurd hgoes (Bool.eq_false_iff.1 (hk.goes start hbeyond))
      · simp [hstarts, hexclusive start hstarts, hbeyond]
    · cases hother
    · cases hother
  | swipeOut =>
    rcases wayOf_eq hway with ⟨-, hother⟩ | ⟨-, harea, -⟩ | ⟨-, -, hother⟩
    · cases hother
    · rcases htest with ⟨-, hbeyond⟩ | ⟨hbeyond, -⟩
      · simp [hbeyond, hk.starts start hbeyond]
      · exact absurd harea (Bool.eq_false_iff.1 (hk.area position hbeyond))
    · cases hother

/-- An `int` that fits is stored as it is. -/
theorem stored_eq {n : Int} (h₀ : 0 ≤ n) (h : n < 65536) : ((UInt16.ofInt n).toNat : Int) = n := by
  rw [Touchpad.toNat_ofInt, Int.emod_eq_of_lt h₀ h]

/-- What a dispatched swipe sets: the start on the other side. -/
theorem Accepted.turned (hE : E.Sound) {e : SwipeEdge} {position start : Int}
    (h : Accepted e (e.edgeCase E.toEdgeSwipes r) position start fids s t) {way : SwipeWay}
    (hway : wayOf (e.edgeCase E.toEdgeSwipes r) position start = some way)
    (hlands : Lands E.toEdgeSwipes r ⟨e, way, position⟩) :
    ∀ i ∈ fids, leftOn (e.edgeCase E.toEdgeSwipes r) way (t.startOf e i) = true := by
  intro i hi
  have hk := SwipeEdge.fits r hE e h.action
  have hafter := startAfter_eq hk h.test hway
  cases way with
  | swipeIn =>
    obtain ⟨hstart, hbeyond⟩ := hafter
    obtain ⟨hlow, hhigh⟩ := hlands rfl
    rw [h.start _ hstart e i, if_pos ⟨hi, rfl⟩, stored_eq hlow hhigh]
    exact hk.afterIn position hbeyond
  | swipeOut =>
    rw [h.start _ hafter e i, if_pos ⟨hi, rfl⟩, stored_eq hk.stored.1 hk.stored.2]
    exact hk.afterOut

/-- A swipe that is not dispatched leaves the last one's side alone. -/
theorem Accepted.kept (hE : E.Sound) {e : SwipeEdge} {position : Int} {fid : Int} (hfid : fid ∈ fids)
    (h : Accepted e (e.edgeCase E.toEdgeSwipes r) position (s.startOf e fid) fids s t)
    (hnone : wayOf (e.edgeCase E.toEdgeSwipes r) position (s.startOf e fid) = none) {d : EdgeSwipe}
    (haction : (d.edge.edgeCase E.toEdgeSwipes r).action > 0)
    (hside : ∀ i ∈ fids, leftOn (d.edge.edgeCase E.toEdgeSwipes r) d.way (s.startOf d.edge i) = true) :
    ∀ i ∈ fids, leftOn (d.edge.edgeCase E.toEdgeSwipes r) d.way (t.startOf d.edge i) = true := by
  obtain ⟨rfl, htop, hstarts⟩ := h.undispatched hE hnone
  have hk := SwipeEdge.fits r hE .bottom h.action
  have hmoved : startAfter (SwipeEdge.bottom.edgeCase E.toEdgeSwipes r) position (s.startOf .bottom fid) =
      some ((SwipeEdge.bottom.edgeCase E.toEdgeSwipes r).inStart position) := by
    unfold startAfter
    rw [hstarts]
    rfl
  obtain ⟨edge, way, place⟩ := d
  cases edge with
  | left =>
    intro i hi
    rw [h.start _ hmoved, if_neg fun hboth => nomatch hboth.2]
    exact hside i hi
  | right =>
    intro i hi
    rw [h.start _ hmoved, if_neg fun hboth => nomatch hboth.2]
    exact hside i hi
  | top => exact absurd haction htop
  | bottom =>
    have hfinger := hside fid hfid
    cases way with
    | swipeIn => exact absurd hstarts (Bool.eq_false_iff.1 (hk.starts _ hfinger))
    | swipeOut =>
      rcases wayOf_eq hnone with ⟨-, hway⟩ | ⟨-, -, hway⟩ | ⟨hgoes, -, -⟩
      · cases hway
      · cases hway
      · exact absurd hfinger (Bool.eq_false_iff.1 hgoes)

/-- The side on which the start is shows another way than the last one at the edge. -/
theorem Accepted.turns (hE : E.Sound) {e : SwipeEdge} {position start : Int}
    (h : Accepted e (e.edgeCase E.toEdgeSwipes r) position start fids s t) {way : SwipeWay}
    (hway : wayOf (e.edgeCase E.toEdgeSwipes r) position start = some way) :
    leftOn (e.edgeCase E.toEdgeSwipes r) way start = false := by
  have hk := SwipeEdge.fits r hE e h.action
  rcases wayOf_eq hway with ⟨hgoes, hin⟩ | ⟨hgoes, -, hout⟩ | ⟨-, -, hnone⟩
  · obtain rfl : way = .swipeIn := Option.some.inj hin
    exact Bool.eq_false_iff.2 fun hbeyond => absurd hgoes (Bool.eq_false_iff.1 (hk.goes start hbeyond))
  · obtain rfl : way = .swipeOut := Option.some.inj hout
    exact hgoes
  · cases hnone

theorem processCase_tracked (hE : E.Sound) {fid : Int} (hfid : fid ∈ fids) (e : SwipeEdge) (x y : Int)
    (h : Tracked E.toEdgeSwipes r finger fids s) : Tracked E.toEdgeSwipes r finger fids (s.processCase E e x y fid) := by
  rcases processCase_cases (E := E) e x y fid s with hsame | haccepted
  · rw [hsame]
    exact h
  have hcase : s.caseOf E e = e.edgeCase E.toEdgeSwipes r := congrArg (e.edgeCase E.toEdgeSwipes) h.range
  rw [hcase, h.fingers hfid] at haccepted
  generalize s.processCase E e x y fid = t at *
  generalize e.coordinate x y = position at *
  have hmoved : t.movedFingers finger = fids := (movedFingers_congr haccepted.cFingers finger).trans h.moved
  cases hway : wayOf (e.edgeCase E.toEdgeSwipes r) position (s.startOf e fid) with
  | none =>
    have hdispatched : t.dispatched = s.dispatched := by
      rw [haccepted.dispatched, hway]
      exact List.append_nil s.dispatched
    refine ⟨haccepted.range.trans h.range, hmoved, hdispatched ▸ h.chain, fun _ => haccepted.swiping, fun d hd => ?_⟩
    rw [hdispatched] at hd
    obtain ⟨haction, hside⟩ := h.last d hd
    exact ⟨haction, fun hlands => haccepted.kept hE hfid hway haction (hside hlands)⟩
  | some way =>
    have hdispatched : t.dispatched = s.dispatched ++ [⟨e, way, position⟩] := by
      rw [haccepted.dispatched, hway]
      rfl
    refine ⟨haccepted.range.trans h.range, hmoved, ?_, fun _ => haccepted.swiping, fun d hd => ?_⟩
    · rw [hdispatched, List.isChain_append]
      refine ⟨h.chain, List.isChain_singleton _, fun d hd d' hd' => ?_⟩
      obtain rfl : ⟨e, way, position⟩ = d' := Option.some.inj hd'
      obtain ⟨edge, lastWay, place⟩ := d
      rintro (rfl : edge = e) hlands (rfl : lastWay = way)
      have hside := (h.last _ hd).2 hlands fid hfid
      exact absurd hside (Bool.eq_false_iff.1 (haccepted.turns hE hway))
    · rw [hdispatched, List.getLast?_concat] at hd
      obtain rfl : ⟨e, way, position⟩ = d := Option.some.inj hd
      exact ⟨haccepted.action, fun hlands => haccepted.turned hE hway hlands⟩

/-- One call keeps the fingers on the side that the last swipe leaves. -/
theorem Process_edgeSwipe_tracked (hE : E.Sound) {fid : Int} (hfid : fid ∈ fids) (x y : Int)
    (h : Tracked E.toEdgeSwipes r finger fids s) : Tracked E.toEdgeSwipes r finger fids (s.Process_edgeSwipe E x y fid) := by
  unfold Process_edgeSwipe
  split
  · exact h
  · exact processCase_tracked hE hfid _ x y h

/-! Runs. -/

/-- A packet of the touch: what is decoded before it is processed, and what the rest of the function does, which leaves
the modes of edge swipes alone. -/
structure EdgePacket where
  sight : Sight
  arrive : EdgeTouch → EdgeTouch
  arrive_same : ∀ s, SameTouch s (arrive s)
  rest : EdgeTouch → EdgeTouch
  rest_skips : ∀ s, s.swiping = true → SameTouch s (rest s)
  rest_dispatched : ∀ s, (rest s).dispatched = s.dispatched
  rest_swiping : ∀ s, s.swiping = false → (rest s).swiping = false
  rest_range : ∀ s, (rest s).range = s.range
  rest_cFingers : ∀ s, (rest s).touchpad.cFingers = s.touchpad.cFingers

/-- `Process_singlefinger_touch` or `Process_twofingers_touch`, as far as the edge swipes. -/
def process (E : EdgeSettings) (finger : Int) (p : Sight) (s : EdgeTouch) : EdgeTouch × Bool :=
  if s.touchpad.cFingers = 2 then s.twoFingers E p else s.singleFinger E p finger

def step (E : EdgeSettings) (finger : Int) (s : EdgeTouch) (p : EdgePacket) : EdgeTouch :=
  let o := (p.arrive s).process E finger p.sight
  if o.2 then o.1 else p.rest o.1

theorem sameTouch_detectEdge (x y fid : Int) (s : EdgeTouch) : SameTouch s (s.detectEdge E x y fid) := by
  have hset : ∀ direction, SameTouch s (s.setEdge direction) := fun _ => ⟨rfl, rfl, rfl, rfl, fun _ _ => rfl⟩
  unfold detectEdge
  dsimp only
  split_ifs
  all_goals first | exact hset _ | exact SameTouch.refl s

theorem sameTouch_stopPointer (s : EdgeTouch) : SameTouch s s.stopPointer := by
  unfold stopPointer
  split
  · exact ⟨rfl, rfl, rfl, rfl, fun _ _ => rfl⟩
  · exact SameTouch.refl s

theorem singleFinger_tracked (hE : E.Sound) (hfinger : finger ∈ fids) (p : Sight)
    (h : Tracked E.toEdgeSwipes r finger fids s) : Tracked E.toEdgeSwipes r finger fids (s.singleFinger E p finger).1 := by
  have hdetect := h.same (sameTouch_detectEdge (E := E) p.x p.y finger s)
  have hprocess := Process_edgeSwipe_tracked hE hfinger p.x p.y hdetect
  unfold singleFinger
  dsimp only
  split_ifs
  · exact hprocess.same (sameTouch_stopPointer _)
  · exact hprocess
  · exact hdetect.same (sameTouch_stopPointer _)
  · exact hdetect
  · exact hdetect

theorem twoFingers_tracked (hE : E.Sound) (h₀ : 0 ∈ fids) (h₁ : 1 ∈ fids) (p : Sight)
    (h : Tracked E.toEdgeSwipes r finger fids s) : Tracked E.toEdgeSwipes r finger fids (s.twoFingers E p).1 := by
  have hfirst := Process_edgeSwipe_tracked hE h₀ p.x p.y h
  have hsecond := Process_edgeSwipe_tracked hE h₁ p.x2 p.y2 hfirst
  unfold twoFingers
  dsimp only
  split_ifs
  · exact hsecond
  · exact h
  · exact h

/-- The rest runs before the first swipe only. -/
theorem rest_tracked (p : EdgePacket) (h : Tracked E.toEdgeSwipes r finger fids s) :
    Tracked E.toEdgeSwipes r finger fids (p.rest s) := by
  cases hswiping : s.swiping with
  | true => exact h.same (p.rest_skips s hswiping)
  | false =>
    have hnil : s.dispatched = [] := by
      by_contra hne
      exact absurd (h.swiping hne) (Bool.eq_false_iff.1 hswiping)
    have hrest : (p.rest s).dispatched = [] := (p.rest_dispatched s).trans hnil
    refine ⟨(p.rest_range s).trans h.range, (movedFingers_congr (p.rest_cFingers s) finger).trans h.moved, ?_, ?_, ?_⟩
    · rw [hrest]
      exact List.isChain_nil
    · exact fun hne => absurd hrest hne
    · intro d hd
      rw [hrest] at hd
      cases hd

theorem process_tracked (hE : E.Sound) (p : Sight) (h : Tracked E.toEdgeSwipes r finger fids s) :
    Tracked E.toEdgeSwipes r finger fids (s.process E finger p).1 := by
  have hmoved := h.moved
  unfold movedFingers at hmoved
  unfold process
  split_ifs at hmoved ⊢
  · exact twoFingers_tracked hE (hmoved ▸ List.mem_cons_self) (hmoved ▸ List.mem_cons_of_mem 0 List.mem_cons_self) p h
  · exact singleFinger_tracked hE (hmoved ▸ List.mem_cons_self) p h

theorem step_tracked (hE : E.Sound) (s : EdgeTouch) (p : EdgePacket) (h : Tracked E.toEdgeSwipes r finger fids s) :
    Tracked E.toEdgeSwipes r finger fids (step E finger s p) := by
  have hprocess := process_tracked hE p.sight (h.same (p.arrive_same s))
  unfold step
  dsimp only
  split
  · exact hprocess
  · exact rest_tracked p hprocess

/-- While the fingers stay down, two swipes in a row at one edge go opposite ways, if the start that the first one sets is
stored as it is. -/
theorem edgeSwipes_alternate (hE : E.Sound) (finger : Int) (ps : List EdgePacket) {s : EdgeTouch} (h₀ : s.dispatched = []) :
    (run (step E finger) ps s).dispatched.IsChain (Alternates E.toEdgeSwipes s.range) := by
  have hstart : Tracked E.toEdgeSwipes s.range finger (s.movedFingers finger) s := by
    refine ⟨rfl, rfl, ?_, fun hne => absurd h₀ hne, fun d hd => ?_⟩
    · rw [h₀]
      exact List.isChain_nil
    · rw [h₀] at hd
      cases hd
  exact (run_invariant (step_tracked hE) ps hstart).chain

/-- Seven and five hundredths of the touchpad at its edges, and a swipe over half of it. -/
def usualEdges : EdgeSettings :=
  { has2WayEdgeSwipes := true, leftEdge := 6, rightEdge := 14, topEdge := 10, bottomEdge := 0, edgeFingers := 0
    edgeHArea := 210, edgeVArea := 100, nonEdgeHArea := 600, nonEdgeVArea := 400, edgeHDistance := 1500
    edgeVDistance := 1200, resetPointerOnEdge := true, scrollEdgeHArea := 0, scrollEdgeVArea := 0 }

/-- A finger that has been put down at the left edge. -/
def fingerAtLeft : EdgeTouch :=
  { driver :=
      { taps := default
        touchpad :=
          { Touchpad.init with
            xmax := 3000, ymax := 2000, cFingers := 1, packetsCount := 3
            fing := fun _ => { (default : Finger) with start_x := 10, start_y := 1000 }
            swipe := { (default : Swipe) with hasEdgeSwipes := true, isEdgeGesture := true, direction := 1 } } }
    lastSwipeTime := 0, dispatched := [] }

/-- A packet with the finger there, and nothing else. -/
def EdgePacket.at (x y : Int) : EdgePacket :=
  { sight := ⟨x, y, 0, 0, 0, 0⟩, arrive := id, arrive_same := SameTouch.refl, rest := id, rest_skips := fun s _ => .refl s
    rest_dispatched := fun _ => rfl, rest_swiping := fun _ h => h, rest_range := fun _ => rfl, rest_cFingers := fun _ => rfl }

theorem edgeSwipes_alternate_left :
    (run (step usualEdges 0) [.at 1600 1000, .at 50 1000] fingerAtLeft).dispatched =
        [⟨.left, .swipeIn, 1600⟩, ⟨.left, .swipeOut, 50⟩] ∧
      (run (step usualEdges 0) [.at 1600 1000, .at 50 1000] fingerAtLeft).dispatched.IsChain
        (Alternates usualEdges.toEdgeSwipes fingerAtLeft.range) :=
  ⟨by decide +kernel, edgeSwipes_alternate ⟨by decide, by decide, by decide, by decide⟩ 0 _ rfl⟩

end EdgeTouch

end ApplePS2
