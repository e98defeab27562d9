import Mathlib.Tactic.SplitIfs
import ApplePS2.Touchpad.State

/- Three and four fingers: the direction of their swipe (`Process_multiFingers_touch`),
   and the reflections of their movement.

   1. `reaches_mirrored`: nothing before the direction depends on a sign.
   2. `reflectsX`, `reflectsY_iff`: the horizontal reflection always exchanges left and
      right, and the vertical one exchanges up and down exactly if both thresholds agree.
   3. `symmetric_iff`: then an up swipe does not depend on the horizontal threshold. -/
namespace ApplePS2

inductive SwipeDirection where
  | left | right | down | up
  deriving DecidableEq

namespace SwipeDirection

/-- The value of `_swipe.direction`. -/
def code : SwipeDirection → UInt8
  | left => 1
  | right => 2
  | down => 3
  | up => 4

def mirrorX : SwipeDirection → SwipeDirection
  | left => right
  | right => left
  | down => down
  | up => up

def mirrorY : SwipeDirection → SwipeDirection
  | left => left
  | right => right
  | down => up
  | up => down

end SwipeDirection

/-- The properties of swipes, of taps and of pressed fingers. -/
structure SwipeSettings where
  mulFingDeltaX : UInt16
  mulFingDeltaY : UInt16
  noiseMultiTapDelta : UInt8
  mulFingsTimeout : UInt64
  fings3Press : Int8
  fings4Press : Int8
  fings5Press : Int8
  fingPressTimeout : UInt64
  hasFPresDrag : Bool
  fPressDragFingersNum : UInt8
  fPressDragStartTimeOut : UInt64

structure MultiFingers where
  touchpad : Touchpad
  /-- The finger whose movement is processed. -/
  fid : Int
  /-- `_fingPress.gestureTime` -/
  pressTime : UInt64

namespace MultiFingers

variable (c : SwipeSettings) (s : MultiFingers)

/-- After the packet has been counted. -/
def packetsCount : UInt8 :=
  if s.touchpad.packetsCount < 255 then s.touchpad.packetsCount + 1 else s.touchpad.packetsCount

def tdx : Int := (s.touchpad.fing s.fid).tdx
def tdy : Int := (s.touchpad.fing s.fid).tdy
def m_xDelta : Nat := s.tdx.natAbs
def m_yDelta : Nat := s.tdy.natAbs

/-! The returns before the swipes. -/

/-- "Check the delta values of all the fingers", while it may be a tap. -/
def movesInTap : Bool :=
  let noise := c.noiseMultiTapDelta.toNat
  s.touchpad.gestureTime < c.mulFingsTimeout && s.m_xDelta < noise && s.m_yDelta < noise &&
    (List.range s.touchpad.cFingers.toNat).any fun i : Nat =>
      (s.touchpad.fing i).tdx > noise || (s.touchpad.fing i).tdx < -noise ||
        ((s.touchpad.fing i).tdy > noise || (s.touchpad.fing i).tdy < -noise)

/-- "No processing required to already triggered gestures" -/
def isTriggered : Bool :=
  s.touchpad.swipe.isAppSwitchDone ||
    (s.touchpad.button.is2FClick || s.touchpad.button.isFingOnBtnArea) && s.touchpad.button.triggered

/-- "Process touchpad modes", as far as it returns. -/
def returnsInMode : Bool :=
  match s.touchpad.touchmode with
  | .MODE_MOVE => s.touchpad.drag.is3FDrag
  | .MODE_1_FING_TAP | .MODE_2_FING_TAP | .MODE_CORNER_TAP | .MODE_EDGE_VSCROLL | .MODE_EDGE_HSCROLL
  | .MODE_CIR_VSCROLL | .MODE_CIR_HSCROLL | .MODE_CONT_SCROLL | .MODE_VSCROLL | .MODE_HSCROLL => false
  | .MODE_IDLE => s.touchpad.drag.is3FDrag || (s.movesInTap c || s.isTriggered)
  | .MODE_MUL_TOUCH_3 | .MODE_MUL_TOUCH_4 | .MODE_FEATURE_TOGGLE | .MODE_5_FING_PINCH | .MODE_4_FING_PINCH
  | .MODE_TWO_FING_PRESS | .MODE_THREE_FING_PRESS | .MODE_FOUR_FING_PRESS | .MODE_FIVE_FING_PRESS | .MODE_ZOOM
  | .MODE_ROTATE => true
  | _ => s.movesInTap c || s.isTriggered

/-- "Calculate finger press time" -/
def fingPressTime : UInt64 :=
  if !s.touchpad.button.triggered && s.touchpad.gestureTime < c.fingPressTimeout + 4000000000 &&
      (s.m_xDelta < 50 && s.m_yDelta < 50) then s.touchpad.gestureTime
  else if c.fingPressTimeout ≠ 0 && s.pressTime ≠ 0 then 0
  else s.pressTime

/-- "Process finger press", as far as it changes the mode. -/
def returnsInPress : Bool :=
  let time := s.fingPressTime c
  let triggered := s.touchpad.button.triggered
  ((c.fings3Press ||| c.fings4Press ||| c.fings5Press) > 0 || s.touchpad.kbEvent.isToggleKeyOnHold) &&
    (time > c.fingPressTimeout || triggered) &&
    (s.touchpad.cFingers = 4 || s.touchpad.cFingers = 5 || s.touchpad.cFingers = 3 &&
      (s.touchpad.kbEvent.isToggleKeyOnHold || !(c.hasFPresDrag && c.fPressDragFingersNum &&& 0x4 ≠ 0) ||
        time > c.fPressDragStartTimeOut || triggered))

/-! "Process Swipes" -/

def swipes (n : UInt8) (enabled : Bool) : Bool :=
  enabled && s.touchpad.cFingers = n &&
    (s.touchpad.lastFingers ≤ n || s.m_xDelta < 30 && s.m_yDelta < 30 && s.touchpad.lastFingers > n)

def entersSwipes : Bool :=
  ((s.touchpad.fing s.fid).width > 0 || s.touchpad.hwVersion > 4) && s.touchpad.tap.count = 0 &&
    (s.packetsCount > 3 || s.m_xDelta > c.mulFingDeltaX.toNat || s.m_yDelta > c.mulFingDeltaY.toNat) &&
    (s.swipes 3 s.touchpad.swipe.has3FSwipes || s.swipes 4 s.touchpad.swipe.has4FSwipes)

/-- The packet comes to the swipes. -/
def reaches : Bool := !s.returnsInMode c && s.packetsCount ≠ 1 && !s.returnsInPress c && s.entersSwipes c

/-- How many fingers there are of a kind. -/
def count (p : Finger → Bool) : Nat := (List.range STD_MAX_FINGERS).countP fun i : Nat => p (s.touchpad.fing i)

def fingersMovingDown : Nat := s.count fun f => f.tdy > 60
def fingersMovingUp : Nat := s.count fun f => !(f.tdy > 60) && f.tdy < -60
def fingersMovingRight : Nat := s.count fun f => f.tdx > 60
def fingersMovingLeft : Nat := s.count fun f => !(f.tdx > 60) && f.tdx < -60

/-- The fingers are counted only on the newer hardware. -/
def countsFingers : Bool := s.touchpad.hwVersion > 3

def fingersToMatch : Nat := if s.touchpad.touchpadVendor = .STD_SYNAPTICS then 2 else (s.touchpad.cFingers - 1).toNat

/-- "Hardcoded 4F pinch", in and out. -/
def pinches : Bool :=
  s.countsFingers && s.touchpad.touchpadVendor ≠ .STD_SYNAPTICS && s.touchpad.cFingers = 4 &&
    !s.touchpad.kbEvent.isToggleKeyOnHold &&
    (s.fingersMovingDown = 3 && s.fingersMovingUp = 1 || s.fingersMovingUp = 3 && s.fingersMovingRight = 2)

def matchesFingers : Bool :=
  !s.countsFingers || s.fingersMovingDown ≥ s.fingersToMatch || s.fingersMovingUp ≥ s.fingersToMatch ||
    (s.fingersMovingLeft ≥ s.fingersToMatch || s.fingersMovingRight ≥ s.fingersToMatch)

/-- The four tests. The last one has the horizontal threshold. -/
def direction : Option SwipeDirection :=
  if s.m_xDelta > s.m_yDelta ∧ s.m_xDelta > c.mulFingDeltaX.toNat ∧ s.tdx < 0 then some .left
  else if s.m_xDelta > s.m_yDelta ∧ s.m_xDelta > c.mulFingDeltaX.toNat ∧ s.tdx > 0 then some .right
  else if s.m_yDelta > s.m_xDelta ∧ s.m_yDelta > c.mulFingDeltaY.toNat ∧ s.tdy > 0 then some .down
  else if s.m_yDelta > s.m_xDelta ∧ s.m_yDelta > c.mulFingDeltaX.toNat ∧ s.tdy < 0 then some .up
  else none

/-- A pinch of four fingers is recognised. -/
def pinched : Bool := s.reaches c && s.pinches

/-- The swipe that is recognised. -/
def swipe : Option SwipeDirection :=
  if s.reaches c && !s.pinches && s.matchesFingers then s.direction c else none

/-! Reflections. -/

/-- The movements of all fingers are changed. -/
def mapFingers (σ : Finger → Finger) (s : MultiFingers) : MultiFingers :=
  { s with touchpad := { s.touchpad with fing := fun i => σ (s.touchpad.fing i) } }

/-- Each finger moves as far as before on both axes. -/
structure Mirror (σ : Finger → Finger) : Prop where
  tdx : ∀ f, (σ f).tdx.natAbs = f.tdx.natAbs
  tdy : ∀ f, (σ f).tdy.natAbs = f.tdy.natAbs
  width : ∀ f, (σ f).width = f.width

def negX (f : Finger) : Finger := { f with tdx := -f.tdx }
def negY (f : Finger) : Finger := { f with tdy := -f.tdy }

def reflectX : MultiFingers → MultiFingers := mapFingers negX
def reflectY : MultiFingers → MultiFingers := mapFingers negY

variable {c s}

theorem mirror_negX : Mirror negX := { tdx := fun f => Int.natAbs_neg f.tdx, tdy := fun _ => rfl, width := fun _ => rfl }
theorem mirror_negY : Mirror negY := { tdx := fun _ => rfl, tdy := fun f => Int.natAbs_neg f.tdy, width := fun _ => rfl }

theorem m_xDelta_mirrored {σ : Finger → Finger} (h : Mirror σ) (s : MultiFingers) :
    (s.mapFingers σ).m_xDelta = s.m_xDelta := h.tdx _

theorem m_yDelta_mirrored {σ : Finger → Finger} (h : Mirror σ) (s : MultiFingers) :
    (s.mapFingers σ).m_yDelta = s.m_yDelta := h.tdy _

/-- The two signs are tested together. -/
theorem beyond_eq (noise : Nat) (d : Int) :
    (decide (d > (noise : Int)) || decide (d < -(noise : Int))) = decide (d.natAbs > noise) := by
  rw [Bool.eq_iff_iff, Bool.or_eq_true, decide_eq_true_eq, decide_eq_true_eq, decide_eq_true_eq]
  omega

theorem movesInTap_mirrored {σ : Finger → Finger} (h : Mirror σ) (c : SwipeSettings) (s : MultiFingers) :
    (s.mapFingers σ).movesInTap c = s.movesInTap c := by
  have hfinger : ∀ i : Nat, (s.mapFingers σ).touchpad.fing i = σ (s.touchpad.fing i) := fun _ => rfl
  unfold movesInTap
  simp only [beyond_eq, hfinger, h.tdx, h.tdy, m_xDelta_mirrored h, m_yDelta_mirrored h]
  rfl

theorem returnsInMode_mirrored {σ : Finger → Finger} (h : Mirror σ) (c : SwipeSettings) (s : MultiFingers) :
    (s.mapFingers σ).returnsInMode c = s.returnsInMode c := by
  unfold returnsInMode
  rw [movesInTap_mirrored h]
  rfl

theorem returnsInPress_mirrored {σ : Finger → Finger} (h : Mirror σ) (c : SwipeSettings) (s : MultiFingers) :
    (s.mapFingers σ).returnsInPress c = s.returnsInPress c := by
  have htime : (s.mapFingers σ).fingPressTime c = s.fingPressTime c := by
    unfold fingPressTime
    rw [m_xDelta_mirrored h, m_yDelta_mirrored h]
    rfl
  unfold returnsInPress
  rw [htime]
  rfl

theorem entersSwipes_mirrored {σ : Finger → Finger} (h : Mirror σ) (c : SwipeSettings) (s : MultiFingers) :
    (s.mapFingers σ).entersSwipes c = s.entersSwipes c := by
  have hwidth : ((s.mapFingers σ).touchpad.fing s.fid).width = (s.touchpad.fing s.fid).width := h.width _
  unfold entersSwipes swipes
  rw [m_xDelta_mirrored h, m_yDelta_mirrored h, show (s.mapFingers σ).fid = s.fid from rfl, hwidth]
  rfl

theorem reaches_mirrored {σ : Finger → Finger} (h : Mirror σ) (c : SwipeSettings) (s : MultiFingers) :
    (s.mapFingers σ).reaches c = s.reaches c := by
  unfold reaches
  rw [returnsInMode_mirrored h, returnsInPress_mirrored h, entersSwipes_mirrored h]
  rfl

/-! The fingers of each direction. -/

theorem count_congr {p q : Finger → Bool} {σ : Finger → Finger} (h : ∀ f, p (σ f) = q f) (s : MultiFingers) :
    (s.mapFingers σ).count p = s.count q := by
  have hfinger : (fun i : Nat => p ((s.mapFingers σ).touchpad.fing i)) = fun i : Nat => q (s.touchpad.fing i) :=
    funext fun i => h (s.touchpad.fing i)
  unfold count
  rw [hfinger]

/-- A negated movement is beyond 60 on the other side. -/
theorem opposite (d : Int) : (!decide (-d > 60) && decide (-d < -60)) = decide (d > 60) := by
  rw [Bool.eq_iff_iff, Bool.and_eq_true, Bool.not_eq_true', decide_eq_true_eq, decide_eq_true_eq,
    decide_eq_false_iff_not]
  omega

theorem opposite' (d : Int) : decide (-d > 60) = (!decide (d > 60) && decide (d < -60)) := by
  rw [← opposite (-d), Int.neg_neg]

theorem right_reflectX (s : MultiFingers) : s.reflectX.fingersMovingRight = s.fingersMovingLeft :=
  count_congr (fun f => opposite' f.tdx) s

theorem left_reflectX (s : MultiFingers) : s.reflectX.fingersMovingLeft = s.fingersMovingRight :=
  count_congr (fun f => opposite f.tdx) s

theorem down_reflectY (s : MultiFingers) : s.reflectY.fingersMovingDown = s.fingersMovingUp :=
  count_congr (fun f => opposite' f.tdy) s

theorem up_reflectY (s : MultiFingers) : s.reflectY.fingersMovingUp = s.fingersMovingDown :=
  count_congr (fun f => opposite f.tdy) s

theorem matchesFingers_reflectX (s : MultiFingers) : s.reflectX.matchesFingers = s.matchesFingers := by
  unfold matchesFingers
  rw [right_reflectX, left_reflectX, Bool.or_comm (decide (s.fingersMovingRight ≥ _))]
  rfl

theorem matchesFingers_reflectY (s : MultiFingers) : s.reflectY.matchesFingers = s.matchesFingers := by
  unfold matchesFingers
  rw [down_reflectY, up_reflectY, Bool.or_right_comm (!s.reflectY.countsFingers)]
  rfl

/-! The direction. -/

/-- The axis that the finger moves further on, and its side there. -/
theorem direction_eq (c : SwipeSettings) (s : MultiFingers) : s.direction c =
    if s.m_xDelta > s.m_yDelta then
      if s.m_xDelta > c.mulFingDeltaX.toNat then (if s.tdx < 0 then some .left else some .right) else none
    else if s.m_yDelta > s.m_xDelta then
      if s.tdy > 0 then (if s.m_yDelta > c.mulFingDeltaY.toNat then some .down else none)
      else if s.m_yDelta > c.mulFingDeltaX.toNat then some .up
      else none
    else none := by
  have hx : s.m_xDelta = s.tdx.natAbs := rfl
  have hy : s.m_yDelta = s.tdy.natAbs := rfl
  unfold direction
  generalize s.m_xDelta = x at *
  generalize s.m_yDelta = y at *
  obtain hlt | rfl | hgt := Nat.lt_trichotomy y x
  · have hside : ¬ s.tdx < 0 → s.tdx > 0 := by omega
    have hother : ¬ x < y := by omega
    by_cases hthreshold : x > c.mulFingDeltaX.toNat <;> by_cases hneg : s.tdx < 0 <;>
      simp [hlt, hother, hthreshold, hneg, hside]
  · simp
  · have hside : ¬ s.tdy > 0 → s.tdy < 0 := by omega
    have hother : ¬ y < x := by omega
    by_cases hpos : s.tdy > 0
    · have hnot : ¬ s.tdy < 0 := by omega
      by_cases hthreshold : y > c.mulFingDeltaY.toNat <;> simp [hgt, hother, hthreshold, hpos, hnot]
    · by_cases hthreshold : y > c.mulFingDeltaX.toNat <;> simp [hgt, hother, hthreshold, hpos, hside hpos]

theorem direction_reflectX (c : SwipeSettings) (s : MultiFingers) :
    s.reflectX.direction c = (s.direction c).map SwipeDirection.mirrorX := by
  have hx : s.reflectX.m_xDelta = s.m_xDelta := m_xDelta_mirrored mirror_negX s
  have hy : s.reflectX.m_yDelta = s.m_yDelta := m_yDelta_mirrored mirror_negX s
  have htdx : s.reflectX.tdx = -s.tdx := rfl
  have htdy : s.reflectX.tdy = s.tdy := rfl
  rw [direction_eq, direction_eq, hx, hy, htdx, htdy]
  by_cases hhorizontal : s.m_xDelta > s.m_yDelta
  · have hside : -s.tdx < 0 ↔ ¬ s.tdx < 0 := by
      have hmoves : s.m_xDelta = s.tdx.natAbs := rfl
      omega
    simp only [hside]
    by_cases hneg : s.tdx < 0 <;> by_cases hthreshold : s.m_xDelta > c.mulFingDeltaX.toNat <;>
      simp [hhorizontal, hneg, hthreshold, SwipeDirection.mirrorX]
  · rw [if_neg hhorizontal, if_neg hhorizontal]
    split_ifs <;> rfl

/-- Both thresholds agree on a vertical movement. -/
def ThresholdsAgree (c : SwipeSettings) (s : MultiFingers) : Prop :=
  s.m_yDelta > s.m_xDelta → (s.m_yDelta > c.mulFingDeltaX.toNat ↔ s.m_yDelta > c.mulFingDeltaY.toNat)

theorem direction_reflectY (c : SwipeSettings) (s : MultiFingers) :
    s.reflectY.direction c = (s.direction c).map SwipeDirection.mirrorY ↔ ThresholdsAgree c s := by
  have hx : s.reflectY.m_xDelta = s.m_xDelta := m_xDelta_mirrored mirror_negY s
  have hy : s.reflectY.m_yDelta = s.m_yDelta := m_yDelta_mirrored mirror_negY s
  have htdx : s.reflectY.tdx = s.tdx := rfl
  have htdy : s.reflectY.tdy = -s.tdy := rfl
  unfold ThresholdsAgree
  rw [direction_eq, direction_eq, hx, hy, htdx, htdy]
  by_cases hvertical : s.m_yDelta > s.m_xDelta
  · have hside : -s.tdy > 0 ↔ ¬ s.tdy > 0 := by
      have hmoves : s.m_yDelta = s.tdy.natAbs := rfl
      omega
    have hnot : ¬ s.m_xDelta > s.m_yDelta := by omega
    rw [if_neg hnot, if_neg hnot, if_pos hvertical, if_pos hvertical, imp_iff_right hvertical]
    simp only [hside]
    by_cases hpos : s.tdy > 0 <;> by_cases hdX : s.m_yDelta > c.mulFingDeltaX.toNat <;>
      by_cases hdY : s.m_yDelta > c.mulFingDeltaY.toNat <;>
        simp [hpos, hdX, hdY, SwipeDirection.mirrorY]
  · rw [if_neg hvertical, if_neg hvertical]
    refine iff_of_true ?_ fun h => absurd h hvertical
    split_ifs <;> rfl

/-! The swipe that is recognised. -/

theorem swipe_of_unpinched (h : s.pinched c = false) :
    s.swipe c = if s.reaches c = true ∧ s.matchesFingers = true then s.direction c else none := by
  have hpinches : s.reaches c = true → s.pinches = false := by
    intro hreaches
    unfold pinched at h
    rw [hreaches] at h
    exact h
  unfold swipe
  by_cases hreaches : s.reaches c = true
  · simp [hreaches, hpinches hreaches]
  · simp [hreaches]

/-- No pinch is recognised, neither in the state nor in its reflection. -/
def Unpinched (c : SwipeSettings) (reflect : MultiFingers → MultiFingers) (s : MultiFingers) : Prop :=
  s.pinched c = false ∧ (reflect s).pinched c = false

def ReflectsX (c : SwipeSettings) (s : MultiFingers) : Prop :=
  Unpinched c reflectX s → s.reflectX.swipe c = (s.swipe c).map SwipeDirection.mirrorX

def ReflectsY (c : SwipeSettings) (s : MultiFingers) : Prop :=
  Unpinched c reflectY s → s.reflectY.swipe c = (s.swipe c).map SwipeDirection.mirrorY

theorem reflectsX (c : SwipeSettings) (s : MultiFingers) : ReflectsX c s := by
  intro h
  have hreaches : s.reflectX.reaches c = s.reaches c := reaches_mirrored mirror_negX c s
  rw [swipe_of_unpinched h.1, swipe_of_unpinched h.2, hreaches, matchesFingers_reflectX]
  split
  · exact direction_reflectX c s
  · rfl

/-- Where the packet comes to the direction, both thresholds agree on its movement. -/
def Agrees (c : SwipeSettings) (s : MultiFingers) : Prop :=
  Unpinched c reflectY s → s.reaches c = true ∧ s.matchesFingers = true → ThresholdsAgree c s

theorem reflectsY_iff (c : SwipeSettings) (s : MultiFingers) : ReflectsY c s ↔ Agrees c s := by
  refine forall_congr' fun h => ?_
  have hreaches : s.reflectY.reaches c = s.reaches c := reaches_mirrored mirror_negY c s
  rw [swipe_of_unpinched h.1, swipe_of_unpinched h.2, hreaches, matchesFingers_reflectY]
  split
  · next hcomes =>
    rw [imp_iff_right hcomes]
    exact direction_reflectY c s
  · next hcomes => exact iff_of_true rfl fun h => absurd h hcomes

/-! The horizontal threshold. -/

/-- Another horizontal threshold. -/
def withDeltaX (c : SwipeSettings) (deltaX : UInt16) : SwipeSettings := { c with mulFingDeltaX := deltaX }

/-- An up swipe, and a down swipe, does not depend on the horizontal threshold. -/
def Independent (c c' : SwipeSettings) (s : MultiFingers) : Prop :=
  Unpinched c reflectY s → Unpinched c' reflectY s →
    ∀ d, d = .down ∨ d = .up → (s.swipe c = some d ↔ s.swipe c' = some d)

/-- A movement beyond the vertical threshold reaches the swipes with every horizontal one. -/
theorem reaches_withDeltaX (h : s.m_yDelta > c.mulFingDeltaY.toNat) (deltaX : UInt16) :
    s.reaches (withDeltaX c deltaX) = s.reaches c := by
  have henters : s.entersSwipes (withDeltaX c deltaX) = s.entersSwipes c := by
    have hbeyond : decide (s.m_yDelta > (withDeltaX c deltaX).mulFingDeltaY.toNat) = true := decide_eq_true h
    unfold entersSwipes
    rw [hbeyond, decide_eq_true h, Bool.or_true, Bool.or_true]
  unfold reaches
  rw [henters]
  rfl

theorem vertical_of_direction {d : SwipeDirection} (hd : d = .down ∨ d = .up) (h : s.direction c = some d) :
    s.m_yDelta > s.m_xDelta ∧ (s.m_yDelta > c.mulFingDeltaX.toNat ∨ s.m_yDelta > c.mulFingDeltaY.toNat) := by
  rw [direction_eq] at h
  split_ifs at h with hhorizontal hdX hneg hvertical hpos hdY hdX
  · cases h
    exact absurd hd (by decide)
  · cases h
    exact absurd hd (by decide)
  · exact ⟨hvertical, .inr hdY⟩
  · exact ⟨hvertical, .inl hdX⟩

theorem direction_of_vertical (hvertical : s.m_yDelta > s.m_xDelta) (hdX : s.m_yDelta > c.mulFingDeltaX.toNat)
    (hdY : s.m_yDelta > c.mulFingDeltaY.toNat) :
    s.direction c = if s.tdy > 0 then some .down else some .up := by
  rw [direction_eq, if_neg (by omega), if_pos hvertical, if_pos hdY, if_pos hdX]

theorem swipe_of_agrees {deltaX deltaX' : UInt16} {d : SwipeDirection} (hd : d = .down ∨ d = .up)
    (hunpinched : Unpinched (withDeltaX c deltaX) reflectY s) (hunpinched' : Unpinched (withDeltaX c deltaX') reflectY s)
    (hagrees : Agrees (withDeltaX c deltaX) s) (hagrees' : Agrees (withDeltaX c deltaX') s)
    (h : s.swipe (withDeltaX c deltaX) = some d) : s.swipe (withDeltaX c deltaX') = some d := by
  rw [swipe_of_unpinched hunpinched.1] at h
  split at h
  · next hcomes =>
    obtain ⟨hvertical, hbeyond⟩ := vertical_of_direction hd h
    have hboth := hagrees hunpinched hcomes hvertical
    have hdY : s.m_yDelta > c.mulFingDeltaY.toNat := hbeyond.elim hboth.mp id
    have hcomes' : s.reaches (withDeltaX c deltaX') = true ∧ s.matchesFingers = true :=
      ⟨(reaches_withDeltaX (c := withDeltaX c deltaX) hdY deltaX').trans hcomes.1, hcomes.2⟩
    have hdX' := (hagrees' hunpinched' hcomes' hvertical).mpr hdY
    rw [direction_of_vertical hvertical (hboth.mpr hdY) hdY] at h
    rw [swipe_of_unpinched hunpinched'.1, if_pos hcomes', direction_of_vertical hvertical hdX' hdY]
    exact h
  · cases h

/-- Both reflections hold for two horizontal thresholds, and vertical swipes do not depend on which it is, exactly if
both agree with the vertical threshold. -/
theorem symmetric_iff (c : SwipeSettings) (deltaX deltaX' : UInt16) (s : MultiFingers) :
    let c₁ := withDeltaX c deltaX
    let c₂ := withDeltaX c deltaX'
    ((ReflectsX c₁ s ∧ ReflectsY c₁ s) ∧ (ReflectsX c₂ s ∧ ReflectsY c₂ s) ∧ Independent c₁ c₂ s) ↔
      Agrees c₁ s ∧ Agrees c₂ s := by
  intro c₁ c₂
  rw [and_iff_right (reflectsX c₁ s), and_iff_right (reflectsX c₂ s), reflectsY_iff, reflectsY_iff]
  constructor
  · rintro ⟨hagrees, hagrees', -⟩
    exact ⟨hagrees, hagrees'⟩
  · rintro ⟨hagrees, hagrees'⟩
    refine ⟨hagrees, hagrees', fun hunpinched hunpinched' d hd => ⟨?_, ?_⟩⟩
    · exact swipe_of_agrees hd hunpinched hunpinched' hagrees hagrees'
    · exact swipe_of_agrees hd hunpinched' hunpinched hagrees' hagrees

/-- Three fingers move up by 200, between the two thresholds. -/
def threeUp : SwipeSettings × MultiFingers :=
  ({ mulFingDeltaX := 400, mulFingDeltaY := 150, noiseMultiTapDelta := 50, mulFingsTimeout := 0, fings3Press := 0
     fings4Press := 0, fings5Press := 0, fingPressTimeout := 0, hasFPresDrag := false, fPressDragFingersNum := 0
     fPressDragStartTimeOut := 0 },
   { touchpad :=
       { Touchpad.init with
         touchpadVendor := .STD_ELAN_TECH, hwVersion := 4, packetsCount := 10, cFingers := 3, lastFingers := 3
         swipe.has3FSwipes := true, fing := fun i => if i < 3 then { (default : Finger) with tdy := -200, width := 4 } else default }
     fid := 0, pressTime := 0 })

/-- The swipe is recognised downwards, and not upwards. -/
theorem symmetric_threeUp : threeUp.2.swipe threeUp.1 = none ∧ threeUp.2.reflectY.swipe threeUp.1 = some .down ∧
    ¬ ReflectsY threeUp.1 threeUp.2 := by
  have hup : threeUp.2.swipe threeUp.1 = none := by decide +kernel
  have hdown : threeUp.2.reflectY.swipe threeUp.1 = some .down := by decide +kernel
  have hunpinched : Unpinched threeUp.1 reflectY threeUp.2 := ⟨by decide +kernel, by decide +kernel⟩
  refine ⟨hup, hdown, fun h => ?_⟩
  have hsame := h hunpinched
  rw [hup, hdown] at hsame
  cases hsame

end MultiFingers
end ApplePS2
