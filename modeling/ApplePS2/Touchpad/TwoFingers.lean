import Mathlib.Tactic.Tauto
import ApplePS2.Conditions
import ApplePS2.Touchpad.Pointer

/- Two fingers: whether they rotate or pinch, and whether their movement is admitted to
   scrolling (`Process_twofingers_touch`).

   1. `zoomClass_of_scale`, `zoomClass_of_zero`: what the tests of a pinch come to.
   2. `rotates_swap`, `zoomClass_exchange`: what does not depend on the order.
   3. `orderFree_iff`: the recognition is symmetric exactly if no finger leads a pinch
      alone, and both axes agree on the difference of the fingers. -/
namespace ApplePS2

open Conditions

/-- The properties of zoom and rotation. -/
structure PinchSettings where
  zoomEnabled : Bool
  rotateEnabled : Bool
  minSamples : UInt8
  pinchDeltaScale : UInt8
  zoomDelta : UInt16
  rotateDelta : UInt16
  maxCFDelta : UInt16
  maxCFDeltaY : UInt16

/-- A finger's position, and where it started. -/
structure Placed where
  x : Int
  y : Int
  start_x : Int
  start_y : Int

structure TwoFingers where
  /-- `_fing[_pid]` -/
  first : Placed
  /-- `_fing[_sid]` -/
  second : Placed
  packetsCount : UInt8
  maxLevelReached : UInt8
  isRotateGesture : Bool
  isRotateMode : Bool

inductive ZoomClass where
  | none | zoomIn | zoomOut
  deriving DecidableEq

/-- One axis: the fingers' differences from their starts, the change of their distance,
and their positions. -/
structure Axis where
  d1 : Int
  d2 : Int
  zD : Int
  p1 : Int
  p2 : Int

namespace Axis

variable (c : PinchSettings) (v : Axis)

/-! A pinch on one axis. Every quotient may fault. -/

/-- A quotient by `_zoom.pinchDeltaScale`. -/
def scaled (a : Nat) : Option Nat := if c.pinchDeltaScale = 0 then none else some (a / c.pinchDeltaScale.toNat)

/-- `(|d1| > |d2| && |d2| > |d1|/scale) || (|d2| < |d1| && |d1| > |d2|/scale)` -/
def further : Option Bool :=
  either (both (some (v.d1.natAbs > v.d2.natAbs)) ((scaled c v.d1.natAbs).map fun q => v.d2.natAbs > q))
    (both (some (v.d2.natAbs < v.d1.natAbs)) ((scaled c v.d2.natAbs).map fun q => v.d1.natAbs > q))

/-- Both fingers have moved by the scaled delta. -/
def moved : Option Bool :=
  both ((scaled c c.zoomDelta.toNat).map fun q => v.d1.natAbs > q)
    ((scaled c c.zoomDelta.toNat).map fun q => v.d2.natAbs > q)

/-- One of the eight blocks. -/
def block (signs placed : Bool) : Option Bool :=
  both (some (signs && v.zD > c.zoomDelta.toNat)) (both (v.further c) (both (v.moved c) (some placed)))

/-- The two blocks of an axis. The first one of zooming out is that of zooming in with the other order. -/
def test (out : Bool) : Option Bool :=
  if out then
    either (v.block c (v.d1 > 0 && v.d2 < 0) (v.p1 < v.p2)) (v.block c (v.d1 < 0 && v.d2 > 0) (v.p1 > v.p2))
  else
    either (v.block c (v.d1 < 0 && v.d2 > 0) (v.p1 < v.p2)) (v.block c (v.d1 > 0 && v.d2 < 0) (v.p1 > v.p2))

end Axis

namespace TwoFingers

variable (c : PinchSettings) (s : TwoFingers)

def x1_Dx : Int := s.first.start_x - s.first.x
def y1_Dy : Int := s.first.start_y - s.first.y
def x2_Dx : Int := s.second.start_x - s.second.x
def y2_Dy : Int := s.second.start_y - s.second.y

/-- `SInt16`, before and after its sign is dropped. -/
def zoomDelta (d : Int) : Int := toSInt16 (toSInt16 d).natAbs

def zDx : Int := zoomDelta (s.first.start_x - s.second.start_x - (s.first.x - s.second.x))
def zDy : Int := zoomDelta (s.first.start_y - s.second.start_y - (s.first.y - s.second.y))

def xAxis : Axis := { d1 := s.x1_Dx, d2 := s.x2_Dx, zD := s.zDx, p1 := s.first.x, p2 := s.second.x }
def yAxis : Axis := { d1 := s.y1_Dy, d2 := s.y2_Dy, zD := s.zDy, p1 := s.first.y, p2 := s.second.y }

/-- "Check delta between DY2 - DY1 and DX2 - DX1 to see if its rotation or pinch from scroll" -/
def checksZoom : Bool :=
  let zrDelta := max c.zoomDelta.toNat c.rotateDelta.toNat
  (s.maxLevelReached < 3 || ((s.x1_Dx.natAbs : Int) - s.x2_Dx.natAbs).natAbs > zrDelta ||
      ((s.y1_Dy.natAbs : Int) - s.y2_Dy.natAbs).natAbs > zrDelta) &&
    s.packetsCount > c.minSamples && (c.zoomEnabled || c.rotateEnabled)

/-- One finger rests, and the other one moves by three times as much. -/
def turns (a b : Int) : Bool :=
  a.natAbs < b.natAbs && b.natAbs > c.rotateDelta.toNat && a.natAbs < b.natAbs / 3 ||
    b.natAbs < a.natAbs && a.natAbs > c.rotateDelta.toNat && b.natAbs < a.natAbs / 3

def mayRotate : Bool := c.rotateEnabled && s.first.y - s.second.y ≠ 0 && s.isRotateMode

/-- "Swipe Rotate ?" -/
def swipeRotates : Bool :=
  s.mayRotate c &&
    (s.x1_Dx.natAbs < c.maxCFDelta.toNat && s.x2_Dx.natAbs < c.maxCFDelta.toNat && turns c s.y1_Dy s.y2_Dy ||
      s.y1_Dy.natAbs < c.maxCFDeltaY.toNat && s.y2_Dy.natAbs < c.maxCFDeltaY.toNat && turns c s.x1_Dx s.x2_Dx)

/-- "Arc Rotate ?": a constant finger, and one that moves by `_rotate.delta * 0.8` on both axes. -/
def arcRotates (cx cy mx my : Int) : Bool :=
  s.mayRotate c && cx.natAbs < c.maxCFDelta.toNat && cy.natAbs < c.maxCFDeltaY.toNat &&
    5 * mx.natAbs > 4 * c.rotateDelta.toNat && 5 * my.natAbs > 4 * c.rotateDelta.toNat

def rotates : Bool :=
  s.swipeRotates c || s.arcRotates c s.x1_Dx s.y1_Dy s.x2_Dx s.y2_Dy || s.arcRotates c s.x2_Dx s.y2_Dy s.x1_Dx s.y1_Dy

/-- "Pinch Zoom ?" -/
def mayZoom : Bool := s.checksZoom c && !s.rotates c && c.zoomEnabled && !s.isRotateGesture

def zoomTest (out : Bool) : Option Bool := either (s.xAxis.test c out) (s.yAxis.test c out)

/-- The zoom that a packet performs; `none` is a division by zero. -/
def zoomClass : Option ZoomClass :=
  if s.mayZoom c then
    (s.zoomTest c true).bind fun out =>
      if out then some .zoomOut
      else (s.zoomTest c false).map fun zoomIn => if zoomIn then .zoomIn else .none
  else some .none

/-- The movement is admitted to scrolling. The second difference is the source's. -/
def admitsScroll : Bool :=
  let y1y2Diff := ((s.y1_Dy.natAbs : Int) - s.y2_Dy.natAbs).natAbs
  let x1x2Diff := ((s.x1_Dx.natAbs : Int) - s.x1_Dx.natAbs).natAbs
  s.maxLevelReached > 2 || y1y2Diff < 150 && x1x2Diff < 150 ||
    s.x1_Dx.natAbs > c.maxCFDelta.toNat && s.x2_Dx.natAbs > c.maxCFDelta.toNat ||
    s.y1_Dy.natAbs > c.maxCFDelta.toNat && s.y2_Dy.natAbs > c.maxCFDelta.toNat

end TwoFingers

/-! What the tests come to. -/

namespace Axis

variable {c : PinchSettings}

/-- The fingers move against each other, by more than the delta. -/
def opposes (c : PinchSettings) (v : Axis) : Prop :=
  (v.d1 > 0 ∧ v.d2 < 0 ∨ v.d1 < 0 ∧ v.d2 > 0) ∧ v.zD > c.zoomDelta.toNat

/-- They move apart, or towards each other. -/
def opens (out : Bool) (v : Axis) : Prop :=
  if out then v.d1 > 0 ∧ v.d2 < 0 ∧ v.p1 < v.p2 ∨ v.d1 < 0 ∧ v.d2 > 0 ∧ v.p1 > v.p2
  else v.d1 < 0 ∧ v.d2 > 0 ∧ v.p1 < v.p2 ∨ v.d1 > 0 ∧ v.d2 < 0 ∧ v.p1 > v.p2

instance (c : PinchSettings) (v : Axis) : Decidable (v.opposes c) := inferInstanceAs (Decidable (_ ∧ _))

instance (out : Bool) (v : Axis) : Decidable (v.opens out) :=
  match out with
  | true => inferInstanceAs (Decidable (_ ∨ _))
  | false => inferInstanceAs (Decidable (_ ∨ _))

/-- The fingers pinch, whichever of them moves further. -/
def pinches (c : PinchSettings) (out : Bool) (v : Axis) : Prop :=
  v.opens out ∧ v.zD > c.zoomDelta.toNat ∧ v.d1.natAbs > c.zoomDelta.toNat / c.pinchDeltaScale.toNat ∧
    v.d2.natAbs > c.zoomDelta.toNat / c.pinchDeltaScale.toNat

/-- The first finger has moved further than the second one. -/
def firstLeads (v : Axis) : Prop := v.d2.natAbs < v.d1.natAbs

instance (c : PinchSettings) (out : Bool) (v : Axis) : Decidable (v.pinches c out) :=
  inferInstanceAs (Decidable (_ ∧ _))

instance (v : Axis) : Decidable v.firstLeads := inferInstanceAs (Decidable (_ < _))

theorem scaled_of_scale (h : c.pinchDeltaScale ≠ 0) (a : Nat) : scaled c a = some (a / c.pinchDeltaScale.toNat) := if_neg h

theorem scaled_of_zero (h : c.pinchDeltaScale = 0) (a : Nat) : scaled c a = none := if_pos h

/-- Both halves of the comparison are about the first finger. -/
theorem further_of_scale (h : c.pinchDeltaScale ≠ 0) (v : Axis) : v.further c = some (decide v.firstLeads) := by
  have hquotient : v.d2.natAbs / c.pinchDeltaScale.toNat ≤ v.d2.natAbs := Nat.div_le_self _ _
  unfold further firstLeads
  rw [scaled_of_scale h, scaled_of_scale h]
  by_cases hleads : v.d2.natAbs < v.d1.natAbs
  · have hover : v.d1.natAbs > v.d2.natAbs / c.pinchDeltaScale.toNat := by omega
    simp [hleads, hover]
  · simp [hleads]

theorem further_of_zero (h : c.pinchDeltaScale = 0) (v : Axis) :
    v.further c = if v.firstLeads then none else some false := by
  unfold further
  rw [scaled_of_zero h, scaled_of_zero h]
  by_cases hleads : v.firstLeads
  · have hlt : v.d2.natAbs < v.d1.natAbs := hleads
    rw [if_pos hleads]
    simp only [gt_iff_lt, hlt, decide_true]
    rfl
  · have hge : ¬ v.d2.natAbs < v.d1.natAbs := hleads
    rw [if_neg hleads]
    simp [hge]

theorem block_of_scale (h : c.pinchDeltaScale ≠ 0) (v : Axis) (signs placed : Bool) : v.block c signs placed =
    some (signs && decide (v.zD > c.zoomDelta.toNat) && decide v.firstLeads &&
      (decide (v.d1.natAbs > c.zoomDelta.toNat / c.pinchDeltaScale.toNat) &&
        decide (v.d2.natAbs > c.zoomDelta.toNat / c.pinchDeltaScale.toNat) && placed)) := by
  unfold block moved
  rw [further_of_scale h, scaled_of_scale h]
  simp only [Option.map_some, both_some, Bool.and_assoc]

theorem block_of_zero (h : c.pinchDeltaScale = 0) (v : Axis) (signs placed : Bool) : v.block c signs placed =
    if signs = true ∧ v.zD > c.zoomDelta.toNat ∧ v.firstLeads then none else some false := by
  unfold block
  rw [further_of_zero h]
  by_cases hsigns : signs = true
  · by_cases hdelta : v.zD > c.zoomDelta.toNat
    · by_cases hleads : v.firstLeads
      · rw [if_pos hleads, if_pos ⟨hsigns, hdelta, hleads⟩, hsigns, decide_eq_true hdelta]
        rfl
      · rw [if_neg hleads, if_neg fun hall : signs = true ∧ _ ∧ _ => hleads hall.2.2]
        simp
    · rw [decide_eq_false hdelta, if_neg fun hall : signs = true ∧ _ ∧ _ => hdelta hall.2.1]
      simp
  · rw [if_neg fun hall : signs = true ∧ _ => hsigns hall.1, Bool.eq_false_iff.mpr hsigns]
    rfl

theorem test_of_scale (h : c.pinchDeltaScale ≠ 0) (out : Bool) (v : Axis) :
    v.test c out = some (decide (v.pinches c out ∧ v.firstLeads)) := by
  cases out with
  | true =>
    show either (v.block c _ _) (v.block c _ _) = _
    rw [block_of_scale h, block_of_scale h, either_some]
    refine congrArg some ?_
    rw [Bool.eq_iff_iff]
    simp only [Bool.or_eq_true, Bool.and_eq_true, decide_eq_true_eq, pinches, opens, if_true]
    tauto
  | false =>
    show either (v.block c _ _) (v.block c _ _) = _
    rw [block_of_scale h, block_of_scale h, either_some]
    refine congrArg some ?_
    rw [Bool.eq_iff_iff]
    simp only [Bool.or_eq_true, Bool.and_eq_true, decide_eq_true_eq, pinches, opens, Bool.false_eq_true, if_false]
    tauto

/-- Both tests of an axis fault together. -/
theorem test_of_zero (h : c.pinchDeltaScale = 0) (out : Bool) (v : Axis) :
    v.test c out = if v.opposes c ∧ v.firstLeads then none else some false := by
  cases out with
  | true =>
    show either (v.block c _ _) (v.block c _ _) = _
    rw [block_of_zero h, block_of_zero h, either_if]
    refine if_congr ?_ rfl rfl
    simp only [Bool.and_eq_true, decide_eq_true_eq, opposes]
    tauto
  | false =>
    show either (v.block c _ _) (v.block c _ _) = _
    rw [block_of_zero h, block_of_zero h, either_if]
    refine if_congr ?_ rfl rfl
    simp only [Bool.and_eq_true, decide_eq_true_eq, opposes]
    tauto

/-! The other finger first. -/

def swap (v : Axis) : Axis := { d1 := v.d2, d2 := v.d1, zD := v.zD, p1 := v.p2, p2 := v.p1 }

/-- The second finger has moved further than the first one. -/
def secondLeads (v : Axis) : Prop := v.d1.natAbs < v.d2.natAbs

instance (v : Axis) : Decidable v.secondLeads := inferInstanceAs (Decidable (_ < _))

theorem opens_swap (out : Bool) (v : Axis) : v.swap.opens out ↔ v.opens out := by
  unfold opens swap
  dsimp only
  cases out <;> simp only [Bool.false_eq_true, if_true, if_false] <;> tauto

theorem pinches_swap (c : PinchSettings) (out : Bool) (v : Axis) : v.swap.pinches c out ↔ v.pinches c out := by
  unfold pinches
  rw [opens_swap]
  exact and_congr_right fun _ => and_congr_right fun _ => And.comm

theorem opposes_swap (c : PinchSettings) (v : Axis) : v.swap.opposes c ↔ v.opposes c := by
  unfold opposes swap
  dsimp only
  tauto

end Axis

namespace TwoFingers

variable {c : PinchSettings}

/-- The data of the two fingers are exchanged. -/
def swapFingers (s : TwoFingers) : TwoFingers := { s with first := s.second, second := s.first }

/-- The horizontal and the vertical data are exchanged. -/
def exchangeAxes (s : TwoFingers) : TwoFingers :=
  { s with
    first := { x := s.first.y, y := s.first.x, start_x := s.first.start_y, start_y := s.first.start_x }
    second := { x := s.second.y, y := s.second.x, start_x := s.second.start_y, start_y := s.second.start_x } }

/-- The narrowed distance has no sign, not even where it is negative. -/
theorem zoomDelta_neg (d : Int) : zoomDelta (-d) = zoomDelta d := by
  have hnarrow : (toSInt16 (-d)).natAbs = (toSInt16 d).natAbs := by
    unfold toSInt16
    rw [Int16.toInt_ofInt, Int16.toInt_ofInt, show Int16.size = 65536 from rfl, Int.bmod_def, Int.bmod_def]
    split <;> split <;> omega
  unfold zoomDelta
  rw [hnarrow]

theorem xAxis_swap (s : TwoFingers) : s.swapFingers.xAxis = s.xAxis.swap := by
  have hdelta : s.swapFingers.zDx = s.zDx := by
    unfold zDx
    rw [← zoomDelta_neg]
    refine congrArg zoomDelta ?_
    show -(s.second.start_x - s.first.start_x - (s.second.x - s.first.x)) = _
    omega
  unfold xAxis Axis.swap
  rw [hdelta]
  rfl

theorem yAxis_swap (s : TwoFingers) : s.swapFingers.yAxis = s.yAxis.swap := by
  have hdelta : s.swapFingers.zDy = s.zDy := by
    unfold zDy
    rw [← zoomDelta_neg]
    refine congrArg zoomDelta ?_
    show -(s.second.start_y - s.first.start_y - (s.second.y - s.first.y)) = _
    omega
  unfold yAxis Axis.swap
  rw [hdelta]
  rfl

theorem checksZoom_swap (c : PinchSettings) (s : TwoFingers) : s.swapFingers.checksZoom c = s.checksZoom c := by
  have hx : ((s.x2_Dx.natAbs : Int) - s.x1_Dx.natAbs).natAbs = ((s.x1_Dx.natAbs : Int) - s.x2_Dx.natAbs).natAbs := by
    omega
  have hy : ((s.y2_Dy.natAbs : Int) - s.y1_Dy.natAbs).natAbs = ((s.y1_Dy.natAbs : Int) - s.y2_Dy.natAbs).natAbs := by
    omega
  unfold checksZoom
  rw [← hx, ← hy]
  rfl

theorem turns_comm (c : PinchSettings) (a b : Int) : turns c a b = turns c b a := Bool.or_comm _ _

theorem mayRotate_swap (c : PinchSettings) (s : TwoFingers) : s.swapFingers.mayRotate c = s.mayRotate c := by
  have hrow : decide (s.second.y - s.first.y ≠ 0) = decide (s.first.y - s.second.y ≠ 0) := by
    rw [decide_eq_decide]
    omega
  unfold mayRotate
  rw [← hrow]
  rfl

/-- The tests of a rotation are the same for both orders: the two arcs exchange their places. -/
theorem rotates_swap (c : PinchSettings) (s : TwoFingers) : s.swapFingers.rotates c = s.rotates c := by
  have hswipe : s.swapFingers.swipeRotates c = s.swipeRotates c := by
    unfold swipeRotates
    rw [mayRotate_swap, turns_comm c s.y1_Dy, turns_comm c s.x1_Dx, Bool.and_comm (decide (s.x1_Dx.natAbs < _)),
      Bool.and_comm (decide (s.y1_Dy.natAbs < _))]
    rfl
  have harc : ∀ cx cy mx my, s.swapFingers.arcRotates c cx cy mx my = s.arcRotates c cx cy mx my := by
    intro cx cy mx my
    unfold arcRotates
    rw [mayRotate_swap]
  unfold rotates
  rw [hswipe, harc, harc, Bool.or_assoc, Bool.or_comm (s.arcRotates c _ _ _ _), ← Bool.or_assoc]
  rfl

theorem mayZoom_swap (c : PinchSettings) (s : TwoFingers) : s.swapFingers.mayZoom c = s.mayZoom c := by
  unfold mayZoom
  rw [checksZoom_swap, rotates_swap]
  rfl

/-! The classification. -/

/-- A pinch in which the first finger has moved further. -/
def leads (c : PinchSettings) (out : Bool) (s : TwoFingers) : Prop :=
  s.xAxis.pinches c out ∧ s.xAxis.firstLeads ∨ s.yAxis.pinches c out ∧ s.yAxis.firstLeads

/-- A pinch in which the second one has. -/
def trails (c : PinchSettings) (out : Bool) (s : TwoFingers) : Prop :=
  s.xAxis.pinches c out ∧ s.xAxis.secondLeads ∨ s.yAxis.pinches c out ∧ s.yAxis.secondLeads

/-- The fingers move against each other, and the first one has moved further. -/
def opposesLeading (c : PinchSettings) (s : TwoFingers) : Prop :=
  s.xAxis.opposes c ∧ s.xAxis.firstLeads ∨ s.yAxis.opposes c ∧ s.yAxis.firstLeads

def opposesTrailing (c : PinchSettings) (s : TwoFingers) : Prop :=
  s.xAxis.opposes c ∧ s.xAxis.secondLeads ∨ s.yAxis.opposes c ∧ s.yAxis.secondLeads

instance (c : PinchSettings) (out : Bool) (s : TwoFingers) : Decidable (s.leads c out) :=
  inferInstanceAs (Decidable (_ ∨ _))

instance (c : PinchSettings) (s : TwoFingers) : Decidable (s.opposesLeading c) :=
  inferInstanceAs (Decidable (_ ∨ _))

theorem zoomTest_of_scale (h : c.pinchDeltaScale ≠ 0) (out : Bool) (s : TwoFingers) :
    s.zoomTest c out = some (decide (s.leads c out)) := by
  unfold zoomTest
  rw [Axis.test_of_scale h, Axis.test_of_scale h, either_some]
  refine congrArg some ?_
  rw [Bool.eq_iff_iff]
  simp only [Bool.or_eq_true, decide_eq_true_eq]
  rfl

theorem zoomTest_of_zero (h : c.pinchDeltaScale = 0) (out : Bool) (s : TwoFingers) :
    s.zoomTest c out = if s.opposesLeading c then none else some false := by
  unfold zoomTest
  rw [Axis.test_of_zero h, Axis.test_of_zero h, either_if]
  rfl

theorem zoomClass_of_scale (h : c.pinchDeltaScale ≠ 0) {s : TwoFingers} (hzoom : s.mayZoom c = true) : s.zoomClass c =
    some (if s.leads c true then .zoomOut else if s.leads c false then .zoomIn else .none) := by
  unfold zoomClass
  rw [if_pos hzoom, zoomTest_of_scale h, zoomTest_of_scale h]
  by_cases hout : s.leads c true
  · simp [hout]
  · by_cases hin : s.leads c false <;> simp [hout, hin]

theorem zoomClass_of_zero (h : c.pinchDeltaScale = 0) {s : TwoFingers} (hzoom : s.mayZoom c = true) :
    s.zoomClass c = if s.opposesLeading c then none else some .none := by
  unfold zoomClass
  rw [if_pos hzoom, zoomTest_of_zero h, zoomTest_of_zero h]
  split <;> rfl

theorem zoomClass_of_still {s : TwoFingers} (hzoom : s.mayZoom c = false) : s.zoomClass c = some .none :=
  if_neg (ne_true_of_eq_false hzoom)

theorem leads_swap (c : PinchSettings) (out : Bool) (s : TwoFingers) : s.swapFingers.leads c out ↔ s.trails c out := by
  unfold leads trails
  rw [xAxis_swap, yAxis_swap, Axis.pinches_swap, Axis.pinches_swap]
  rfl

theorem opposesLeading_swap (c : PinchSettings) (s : TwoFingers) :
    s.swapFingers.opposesLeading c ↔ s.opposesTrailing c := by
  unfold opposesLeading opposesTrailing
  rw [xAxis_swap, yAxis_swap, Axis.opposes_swap, Axis.opposes_swap]
  rfl

/-! Symmetry. -/

/-- Where a zoom may be recognised, a pinch that one finger leads is led by the other one as well, on the
other axis. Without a scale the same is asked of every opposed movement. -/
def EvenHanded (c : PinchSettings) (s : TwoFingers) : Prop :=
  s.mayZoom c = true →
    if c.pinchDeltaScale = 0 then s.opposesLeading c ↔ s.opposesTrailing c
    else (s.leads c true ↔ s.trails c true) ∧ (s.leads c true ∨ (s.leads c false ↔ s.trails c false))

/-- The movement is admitted anyway, or the fingers differ by less than 150 on both axes or on neither. -/
def DifferencesAgree (c : PinchSettings) (s : TwoFingers) : Prop :=
  s.maxLevelReached > 2 ∨ s.x1_Dx.natAbs > c.maxCFDelta.toNat ∧ s.x2_Dx.natAbs > c.maxCFDelta.toNat ∨
    s.y1_Dy.natAbs > c.maxCFDelta.toNat ∧ s.y2_Dy.natAbs > c.maxCFDelta.toNat ∨
      (((s.x1_Dx.natAbs : Int) - s.x2_Dx.natAbs).natAbs < 150 ↔ ((s.y1_Dy.natAbs : Int) - s.y2_Dy.natAbs).natAbs < 150)

theorem zoomClass_swapFingers (c : PinchSettings) (s : TwoFingers) :
    s.swapFingers.zoomClass c = s.zoomClass c ↔ s.EvenHanded c := by
  unfold EvenHanded
  cases hzoom : s.mayZoom c with
  | false =>
    rw [zoomClass_of_still hzoom, zoomClass_of_still ((mayZoom_swap c s).trans hzoom)]
    exact iff_of_true rfl fun h => absurd h Bool.false_ne_true
  | true =>
    have hzoom' := (mayZoom_swap c s).trans hzoom
    by_cases hscale : c.pinchDeltaScale = 0
    · rw [zoomClass_of_zero hscale hzoom, zoomClass_of_zero hscale hzoom', if_pos hscale]
      by_cases hlead : s.opposesLeading c <;> by_cases htrail : s.swapFingers.opposesLeading c <;>
        simp [hlead, htrail, ← opposesLeading_swap]
    · rw [zoomClass_of_scale hscale hzoom, zoomClass_of_scale hscale hzoom', if_neg hscale, ← leads_swap, ← leads_swap]
      by_cases hout : s.leads c true <;> by_cases hout' : s.swapFingers.leads c true <;>
        by_cases hin : s.leads c false <;> by_cases hin' : s.swapFingers.leads c false <;>
          simp [hout, hout', hin, hin']

theorem checksZoom_exchange (c : PinchSettings) (s : TwoFingers) : s.exchangeAxes.checksZoom c = s.checksZoom c := by
  unfold checksZoom
  dsimp only
  rw [Bool.or_right_comm]
  rfl

/-- Without rotation nothing but the order of the two axes changes. -/
theorem mayZoom_exchange {c : PinchSettings} (hrotate : c.rotateEnabled = false) (s : TwoFingers) :
    s.exchangeAxes.mayZoom c = s.mayZoom c := by
  have hnone : ∀ t : TwoFingers, t.rotates c = false := by
    intro t
    simp [rotates, swipeRotates, arcRotates, mayRotate, hrotate]
  unfold mayZoom
  rw [checksZoom_exchange, hnone, hnone]
  rfl

theorem zoomClass_exchange {c : PinchSettings} (hrotate : c.rotateEnabled = false) (s : TwoFingers) :
    s.exchangeAxes.zoomClass c = s.zoomClass c := by
  have htest : ∀ out, s.exchangeAxes.zoomTest c out = s.zoomTest c out := by
    intro out
    by_cases hscale : c.pinchDeltaScale = 0
    · rw [zoomTest_of_zero hscale, zoomTest_of_zero hscale]
      exact if_congr Or.comm rfl rfl
    · rw [zoomTest_of_scale hscale, zoomTest_of_scale hscale]
      exact congrArg some (decide_eq_decide.mpr Or.comm)
  unfold zoomClass
  rw [mayZoom_exchange hrotate, htest, htest]

theorem admitsScroll_iff (c : PinchSettings) (s : TwoFingers) : s.admitsScroll c = true ↔
    s.maxLevelReached > 2 ∨ ((s.y1_Dy.natAbs : Int) - s.y2_Dy.natAbs).natAbs < 150 ∨
      s.x1_Dx.natAbs > c.maxCFDelta.toNat ∧ s.x2_Dx.natAbs > c.maxCFDelta.toNat ∨
        s.y1_Dy.natAbs > c.maxCFDelta.toNat ∧ s.y2_Dy.natAbs > c.maxCFDelta.toNat := by
  unfold admitsScroll
  -- the horizontal difference is that of the first finger and itself
  simp only [sub_self, Int.natAbs_zero, Nat.reduceLT, and_true, Bool.or_eq_true, Bool.and_eq_true, decide_eq_true_eq,
    or_assoc]

theorem admitsScroll_exchange (c : PinchSettings) (s : TwoFingers) :
    s.exchangeAxes.admitsScroll c = s.admitsScroll c ↔ s.DifferencesAgree c := by
  have hx : s.exchangeAxes.y1_Dy = s.x1_Dx ∧ s.exchangeAxes.y2_Dy = s.x2_Dx := ⟨rfl, rfl⟩
  have hy : s.exchangeAxes.x1_Dx = s.y1_Dy ∧ s.exchangeAxes.x2_Dx = s.y2_Dy := ⟨rfl, rfl⟩
  rw [Bool.eq_iff_iff, admitsScroll_iff, admitsScroll_iff, hx.1, hx.2, hy.1, hy.2,
    show s.exchangeAxes.maxLevelReached = s.maxLevelReached from rfl]
  unfold DifferencesAgree
  -- either the movement is admitted on both sides, or what is left are the two differences
  by_cases hlevel : s.maxLevelReached > 2
  · simp only [hlevel, true_or]
  by_cases hX : s.x1_Dx.natAbs > c.maxCFDelta.toNat ∧ s.x2_Dx.natAbs > c.maxCFDelta.toNat
  · simp only [hX, and_self, true_or, or_true]
  by_cases hY : s.y1_Dy.natAbs > c.maxCFDelta.toNat ∧ s.y2_Dy.natAbs > c.maxCFDelta.toNat
  · simp only [hY, and_self, true_or, or_true]
  simp only [hlevel, hX, hY, false_or, or_false]

/-- The recognition does not depend on the order of the fingers, nor on that of the axes. -/
def OrderFree (c : PinchSettings) (s : TwoFingers) : Prop :=
  s.swapFingers.zoomClass c = s.zoomClass c ∧
    (c.rotateEnabled = false → s.exchangeAxes.zoomClass c = s.zoomClass c) ∧
      s.exchangeAxes.admitsScroll c = s.admitsScroll c

theorem orderFree_iff (c : PinchSettings) (s : TwoFingers) : s.OrderFree c ↔ s.EvenHanded c ∧ s.DifferencesAgree c := by
  unfold OrderFree
  rw [zoomClass_swapFingers, admitsScroll_exchange]
  constructor
  · rintro ⟨heven, -, hdifferences⟩
    exact ⟨heven, hdifferences⟩
  · rintro ⟨heven, hdifferences⟩
    exact ⟨heven, fun hrotate => zoomClass_exchange hrotate s, hdifferences⟩

/-- The first finger moves 400 to the left, and the second one 300 to the right. -/
def leadsByHand : PinchSettings × TwoFingers :=
  ({ zoomEnabled := true, rotateEnabled := false, minSamples := 3, pinchDeltaScale := 3, zoomDelta := 300,
     rotateDelta := 270, maxCFDelta := 80, maxCFDeltaY := 90 },
   { first := { x := 1000, y := 2000, start_x := 1400, start_y := 2000 }
     second := { x := 2700, y := 2000, start_x := 2400, start_y := 2000 }
     packetsCount := 10, maxLevelReached := 0, isRotateGesture := false, isRotateMode := false })

/-- The pinch is recognised for one order of the fingers only. -/
theorem orderFree_leadsByHand : leadsByHand.2.zoomClass leadsByHand.1 = some .zoomOut ∧
    leadsByHand.2.swapFingers.zoomClass leadsByHand.1 = some .none ∧ ¬ leadsByHand.2.OrderFree leadsByHand.1 := by
  have hled : leadsByHand.2.zoomClass leadsByHand.1 = some .zoomOut := by decide +kernel
  have htrailed : leadsByHand.2.swapFingers.zoomClass leadsByHand.1 = some .none := by decide +kernel
  refine ⟨hled, htrailed, fun h => ?_⟩
  have hsame := h.1
  rw [hled, htrailed] at hsame
  cases hsame

end TwoFingers
end ApplePS2
