import Mathlib.Algebra.Order.Ring.Int
import Mathlib.Logic.Function.Basic
import ApplePS2.Touchpad.State
import ApplePS2.Transition

/- The pointer of one finger: the samples that its deltas are smoothed with, the
   acceleration, and the movements that are withheld while a tap is still possible
   (`Process_singlefinger_touch`, `EnhancePointerAcceleration`).

   1. `moved_mem_iff`: what a packet dispatches directly.
   2. `axis_follows`, `axis_agrees`, `follows_run`: no movement is opposed to its packet's
      deltas if the samples, the last movement and the levels that the packet finds agree
      with them; without acceleration, only if they do. -/
namespace ApplePS2

/-- `Delta_samples`, as far as the pointer uses it. -/
structure DeltaSample where
  skippedX : Int16
  skippedY : Int16
  lastDX1 : Int16
  lastDY1 : Int16
  deriving DecidableEq, Inhabited

/-- The pointer's preferences. -/
structure PointerSettings where
  pSmoothSamples : UInt8
  pSmoothLevel : UInt8
  pSlowMoveNoiseDelta : UInt8
  pExtAccelLevel : UInt8
  pExtAccelMinDelta : UInt8
  pAccelCustom : UInt8
  tSenseLvl : UInt8

/-- What `init` sets. -/
def PointerSettings.default : PointerSettings :=
  { pSmoothSamples := 5, pSmoothLevel := 2, pSlowMoveNoiseDelta := 0, pExtAccelLevel := 0, pExtAccelMinDelta := 0
    pAccelCustom := 0, tSenseLvl := 0 }

/-- A packet of one finger in move mode, and what the rest of the driver says of it. -/
structure PointerPacket where
  xDelta : Int
  yDelta : Int
  pressure : UInt8
  /-- After it has been counted. -/
  packetsCount : UInt8
  triggered : Bool
  isQuickTap : Bool
  isTapGesture : Bool
  /-- The finger is in one of the edge areas without pointing. -/
  inDisabledArea : Bool

/-- The calls of `dispatchRelativePointerPosition`. -/
inductive PointerSent where
  /-- Only the buttons. -/
  | button
  | skipped (dx dy : Int)
  | moved (dx dy : Int)
  deriving DecidableEq

structure Pointer where
  lastSample : Nat → DeltaSample
  cSample : UInt8
  skipSample : UInt8
  /-- The sums of the finger's samples. -/
  sdx : Int
  sdy : Int
  pDx : Int
  pDy : Int
  pLastDx : Int
  pLastDy : Int
  pSmoothX : Int
  pSmoothY : Int
  pContinuousMove : Bool

/-- A delta as the samples hold it. -/
def toSInt16 (d : Int) : Int := (Int16.ofInt d).toInt

namespace Pointer

/-- The start of a touch. -/
def begun : Pointer :=
  { lastSample := fun _ => default, cSample := 0, skipSample := 0, sdx := 0, sdy := 0, pDx := 0, pDy := 0, pLastDx := 0
    pLastDy := 0, pSmoothX := 0, pSmoothY := 0, pContinuousMove := false }

variable (c : PointerSettings)

/-! "Smooth delta": the ring of samples. -/

/-- The sample before the current one. -/
def lSample (s : Pointer) : Nat := if s.cSample = 0 then c.pSmoothSamples.toNat - 1 else s.cSample.toNat - 1

/-- "Reset samples on direction change" -/
def reverses (p : PointerPacket) (s : Pointer) : Bool :=
  let l := s.lastSample (s.lSample c)
  l.lastDX1 > 0 && p.xDelta < 0 || l.lastDX1 < 0 && p.xDelta > 0 ||
    l.lastDY1 > 0 && p.yDelta < 0 || l.lastDY1 < 0 && p.yDelta > 0

def resetSamples (s : Pointer) : Pointer :=
  { s with
    cSample := 0
    lastSample := fun i =>
      if i < c.pSmoothSamples.toNat then { s.lastSample i with lastDX1 := 0, lastDY1 := 0 } else s.lastSample i }

def moves (p : PointerPacket) : Bool := p.xDelta ≠ 0 || p.yDelta ≠ 0

def storeSample (p : PointerPacket) (s : Pointer) : Pointer :=
  let i := s.cSample.toNat
  let next := if moves p then s.cSample + 1 else s.cSample
  { s with
    lastSample := Function.update s.lastSample i
      { s.lastSample i with lastDX1 := .ofInt p.xDelta, lastDY1 := .ofInt p.yDelta }
    cSample := if next = c.pSmoothSamples then 0 else next }

def sumX (s : Pointer) : Int := ((List.range c.pSmoothSamples.toNat).map fun i => (s.lastSample i).lastDX1.toInt).sum
def sumY (s : Pointer) : Int := ((List.range c.pSmoothSamples.toNat).map fun i => (s.lastSample i).lastDY1.toInt).sum

def sumSamples (s : Pointer) : Pointer := { s with sdx := s.sumX c, sdy := s.sumY c }

def smoothDelta (p : PointerPacket) (s : Pointer) : Pointer :=
  if p.packetsCount ≠ 0 && c.pSmoothSamples > 0 && p.pressure ≥ c.tSenseLvl then
    (if s.reverses c p then s.resetSamples c else s) |> storeSample c p |> sumSamples c
  else s

/-! "Divisive smoothing using x samples delta + avg of last x samples", one axis. -/

/-- A small delta beside a large one on the other axis. -/
def isNoise (d other : Int) : Bool :=
  d.natAbs < c.pSlowMoveNoiseDelta.toNat && other.natAbs > c.pSlowMoveNoiseDelta.toNat * 2

/-- `smoothDx`, from the sum of the samples and the last movement. -/
def smoothed (sum pD d other : Int) : Int :=
  if d.natAbs > 0 && !isNoise c d other then
    if c.pSmoothSamples > 0 then sum.tdiv c.pSmoothSamples.toNat + d.sign else d
  else if d ≠ 0 then pD
  else 0

/-- The delta is accelerated. -/
def accelerates (smooth d : Int) : Bool := smooth ≠ 0 && d.natAbs > c.pExtAccelMinDelta.toNat * 2

/-- The mean of the smoothed delta and the last one. -/
def blend (smooth pSmooth d : Int) : Int := (smooth + pSmooth + d.sign * 2).tdiv 2

def expDelta (smooth d : Int) : Int := toSInt16 (smooth.tdiv 10 + d.sign)

/-- The factor of the exponential part. -/
def gain (pLast d : Int) : Int :=
  let delta := if pLast ≠ 0 then pLast - d else 0
  (delta + d.sign).tdiv ((c.pExtAccelLevel.toNat + 1) * 10) + 1

/-- "Exponential acceleration": what is kept as the smoothed delta, and the movement. -/
def accelerated (smooth pSmooth pLast d : Int) : Int × Int :=
  if accelerates c smooth d then
    let blended := blend smooth pSmooth d
    (blended, blended + expDelta blended d * gain c pLast d)
  else (smooth, smooth)

/-- The last smoothed delta, which is set by the first one. -/
def smoothBefore (smooth pSmooth : Int) (s : Pointer) : Int :=
  if s.pSmoothX = 0 && s.pSmoothY = 0 then smooth else pSmooth

def smoothDx (p : PointerPacket) (s : Pointer) : Int := smoothed c s.sdx s.pDx p.xDelta p.yDelta
def smoothDy (p : PointerPacket) (s : Pointer) : Int := smoothed c s.sdy s.pDy p.yDelta p.xDelta

/-- The timer itself is left out. -/
def StopPointerEnhanceTimer (s : Pointer) : Pointer := { s with pDx := 0, pDy := 0, pContinuousMove := false }

def accelerate (p : PointerPacket) (s : Pointer) : Pointer :=
  if moves p then
    let dx := s.smoothDx c p
    let dy := s.smoothDy c p
    let t := { s with pLastDx := p.xDelta, pLastDy := p.yDelta }
    if c.pExtAccelLevel > 0 then
      let x := accelerated c dx (s.smoothBefore dx s.pSmoothX) s.pLastDx p.xDelta
      let y := accelerated c dy (s.smoothBefore dy s.pSmoothY) s.pLastDy p.yDelta
      { t with pDx := x.2, pDy := y.2, pSmoothX := x.1, pSmoothY := y.1 }
    else { t with pDx := dx, pDy := dy }
  else if s.pContinuousMove then s.StopPointerEnhanceTimer
  else s

/-! The dispatch. -/

/-- "To avoid cursor jumps" -/
def isWithheld (p : PointerPacket) : Bool :=
  (!p.triggered || p.packetsCount ≤ 2) &&
    (p.isQuickTap || (p.xDelta.natAbs > 350 || p.yDelta.natAbs > 350) || p.isTapGesture)

/-- "Rollback to last sample as this is not valid", and the delta is kept. -/
def withhold (p : PointerPacket) (s : Pointer) : Pointer :=
  let s := { s with
    pDx := 0, pDy := 0
    cSample := if s.cSample > 0 then s.cSample - 1 else c.pSmoothSamples - 1 }
  if moves p then
    let i := s.skipSample.toNat
    { s with
      lastSample := Function.update s.lastSample i
        { s.lastSample i with skippedX := .ofInt p.xDelta, skippedY := .ofInt p.yDelta }
      skipSample := if s.skipSample < 10 then s.skipSample + 1 else s.skipSample }
  else s

/-- "Dispatch the skipped delta values from tap detection timeout": the loop starts at 1. -/
def replayed (s : Pointer) : List PointerSent :=
  (List.range' 1 (s.skipSample.toNat - 1)).map fun i =>
    .skipped (s.lastSample i).skippedX.toInt (s.lastSample i).skippedY.toInt

def clearSkipped (s : Pointer) : Pointer :=
  { s with
    lastSample := fun i =>
      if i < s.skipSample.toNat then { s.lastSample i with skippedX := 0, skippedY := 0 } else s.lastSample i
    skipSample := 0 }

/-- The packet may move the pointer. -/
def points (p : PointerPacket) : Bool :=
  !p.inDisabledArea && !isWithheld p && moves p && p.pressure ≥ c.tSenseLvl

def dispatch (p : PointerPacket) (s : Pointer) : List PointerSent × Pointer :=
  if p.inDisabledArea then ([.button], if s.pContinuousMove then s.StopPointerEnhanceTimer else s)
  else if isWithheld p then ([.button], s.withhold c p)
  else if (s.pDx ≠ 0 || s.pDy ≠ 0) && moves p && p.pressure ≥ c.tSenseLvl then
    (s.replayed ++ [.moved s.pDx s.pDy],
      { s.clearSkipped with pContinuousMove := s.pContinuousMove || c.pAccelCustom > 0 })
  else ([], s)

/-- `Process_singlefinger_touch` in move mode. -/
def packet (p : PointerPacket) (s : Pointer) : List PointerSent × Pointer :=
  s |> smoothDelta c p |> accelerate c p |> dispatch c p

/-! What a packet dispatches directly. -/

/-- The pointer when the packet is dispatched. -/
def ready (p : PointerPacket) (s : Pointer) : Pointer := s |> smoothDelta c p |> accelerate c p

theorem packet_eq (p : PointerPacket) (s : Pointer) : s.packet c p = (s.ready c p).dispatch c p := rfl

variable {c}

/-- The movement is the smoothed and accelerated one. -/
theorem moved_mem_iff {p : PointerPacket} {s : Pointer} {dx dy : Int} :
    .moved dx dy ∈ (s.packet c p).1 ↔
      points c p = true ∧ ((s.ready c p).pDx ≠ 0 ∨ (s.ready c p).pDy ≠ 0) ∧
        dx = (s.ready c p).pDx ∧ dy = (s.ready c p).pDy := by
  have hreplayed : ∀ t : Pointer, .moved dx dy ∉ t.replayed := by
    intro t h
    obtain ⟨i, -, hi⟩ := List.mem_map.mp h
    exact absurd hi (by simp)
  rw [packet_eq]
  generalize s.ready c p = t
  unfold dispatch points
  split
  · next harea => simp [harea]
  · next harea =>
    split
    · next hwithheld => simp [hwithheld]
    · next hwithheld =>
      split
      · next hmoves =>
        simp only [Bool.and_eq_true, Bool.or_eq_true, decide_eq_true_eq] at hmoves
        rw [List.mem_append, List.mem_singleton, PointerSent.moved.injEq]
        simp [hreplayed t, harea, hwithheld, hmoves]
      · next hmoves =>
        simp only [Bool.and_eq_true, Bool.or_eq_true, decide_eq_true_eq] at hmoves
        simp only [List.not_mem_nil, false_iff]
        intro h
        simp only [Bool.and_eq_true, decide_eq_true_eq] at h
        exact hmoves ⟨⟨h.2.1, h.1.1.2⟩, h.1.2⟩

theorem moves_of_points {p : PointerPacket} (h : points c p = true) : moves p = true := by
  simp only [points, Bool.and_eq_true] at h
  exact h.1.2

/-! Movements and deltas, on one axis. -/

/-- A truncated average reaches a number just when the sum does. -/
theorem le_tdiv_iff {n : Int} (hn : 0 < n) (t a : Int) :
    t ≤ a.tdiv n ↔ if t ≤ 0 then n * (t - 1) < a else n * t ≤ a := by
  by_cases ha : 0 ≤ a
  · have hquotient : 0 ≤ a.tdiv n := Int.tdiv_nonneg ha hn.le
    split
    · next ht =>
      have hproduct : n * (t - 1) < 0 := mul_neg_of_pos_of_neg hn (by omega)
      exact iff_of_true (by omega) (by omega)
    · rw [Int.tdiv_eq_ediv_of_nonneg ha, Int.le_ediv_iff_mul_le hn, mul_comm]
  · have hneg : a.tdiv n = -((-a) / n) := by
      rw [← Int.tdiv_eq_ediv_of_nonneg (by omega), Int.neg_tdiv, Int.neg_neg]
    have hquotient : 0 ≤ (-a) / n := Int.ediv_nonneg (by omega) hn.le
    split
    · have hless : (-a) / n < 1 - t ↔ -a < (1 - t) * n := Int.ediv_lt_iff_lt_mul hn
      have hopposite : n * (t - 1) = -((1 - t) * n) := by
        rw [mul_comm, ← neg_mul, neg_sub]
      rw [hneg, hopposite]
      omega
    · next ht =>
      have hproduct : 0 < n * t := mul_pos hn (by omega)
      exact iff_of_false (by omega) (by omega)

/-- The delta's direction turns an opposed number into a negative one. -/
theorem opposed_iff {d : Int} (hd : d ≠ 0) (a : Int) : a * d < 0 ↔ d.sign * a < 0 := by
  rcases Int.lt_or_gt_of_ne hd with hneg | hpos
  · rw [Int.sign_eq_neg_one_of_neg hneg]
    constructor
    · intro h
      have ha : 0 < a := pos_of_mul_neg_left h hneg.le
      omega
    · intro h
      exact mul_neg_of_pos_of_neg (by omega) hneg
  · rw [Int.sign_eq_one_of_pos hpos, one_mul]
    constructor
    · intro h
      exact neg_of_mul_neg_left h hpos.le
    · intro h
      exact mul_neg_of_neg_of_pos h hpos

theorem sign_cases {d : Int} (hd : d ≠ 0) : d.sign = 1 ∨ d.sign = -1 := by
  rcases Int.lt_or_gt_of_ne hd with hneg | hpos
  · exact .inr (Int.sign_eq_neg_one_of_neg hneg)
  · exact .inl (Int.sign_eq_one_of_pos hpos)

theorem sign_tdiv {d : Int} (hd : d ≠ 0) (a n : Int) : d.sign * a.tdiv n = (d.sign * a).tdiv n := by
  rcases sign_cases hd with h | h
  · rw [h, one_mul, one_mul]
  · rw [h, Int.neg_one_mul, Int.neg_one_mul, Int.neg_tdiv]

variable (c) in
/-- The movement of one axis. -/
def axisMovement (sum pD pSmooth pLast d other : Int) : Int :=
  let smooth := smoothed c sum pD d other
  if c.pExtAccelLevel > 0 then (accelerated c smooth pSmooth pLast d).2 else smooth

variable (c) in
/-- What the packet finds leads the pointer along its delta, by `t` at least: the last movement, if the delta is
noise; the delta itself, if there are no samples; else the sum of the samples. -/
def Leads (sum pD d other t : Int) : Prop :=
  if isNoise c d other then t ≤ d.sign * pD
  else if c.pSmoothSamples = 0 then t ≤ d.natAbs
  else if t ≤ 1 then c.pSmoothSamples.toNat * (t - 2) < d.sign * sum
  else c.pSmoothSamples.toNat * (t - 1) ≤ d.sign * sum

instance (sum pD d other t : Int) : Decidable (Leads c sum pD d other t) := by unfold Leads; infer_instance

variable (c) in
/-- The delta does not exceed the last one by more than twenty for each level, and twenty. -/
def Rises (pLast d : Int) : Prop := pLast ≠ 0 → d - pLast < 20 * (c.pExtAccelLevel.toNat + 1) + d.sign

instance (pLast d : Int) : Decidable (Rises c pLast d) := inferInstanceAs (Decidable (_ → _))

variable (c) in
/-- Where a delta is accelerated it does not rise too fast, and neither the last smoothed delta nor what leads the
pointer is opposed to it by more than the other makes up for; the exponential part fits its 16 bits. The first
smoothed delta of a touch is its own last one. -/
def Accelerates (first : Bool) (sum pD pSmooth pLast d other : Int) : Prop :=
  let low := if first then -1 else -3 - d.sign * pSmooth
  let high := if first then 327659 else 655318 - d.sign * pSmooth
  Rises c pLast d ∧ Leads c sum pD d other low ∧ ¬ Leads c sum pD d other high

instance (first : Bool) (sum pD pSmooth pLast d other : Int) :
    Decidable (Accelerates c first sum pD pSmooth pLast d other) := inferInstanceAs (Decidable (_ ∧ _ ∧ _))

variable (c) in
/-- A delta that is accelerated but not led by anything moves nothing. -/
def AxisAgrees (first : Bool) (sum pD pSmooth pLast d other : Int) : Prop :=
  d ≠ 0 →
    if c.pExtAccelLevel > 0 ∧ d.natAbs > c.pExtAccelMinDelta.toNat * 2 then
      Leads c sum pD d other 0 ∧ ¬ Leads c sum pD d other 1 ∨ Accelerates c first sum pD pSmooth pLast d other
    else Leads c sum pD d other 0

instance (first : Bool) (sum pD pSmooth pLast d other : Int) :
    Decidable (AxisAgrees c first sum pD pSmooth pLast d other) := by unfold AxisAgrees; infer_instance

theorem leads_iff {sum pD d other : Int} (hd : d ≠ 0) (t : Int) :
    t ≤ d.sign * smoothed c sum pD d other ↔ Leads c sum pD d other t := by
  have hpos : d.natAbs > 0 := Int.natAbs_pos.mpr hd
  unfold Leads smoothed
  by_cases hnoise : isNoise c d other = true
  · rw [if_neg (by simp [hnoise]), if_pos hd, if_pos hnoise]
  · rw [if_pos (by simp [hnoise, hd]), if_neg hnoise]
    by_cases hsamples : c.pSmoothSamples > 0
    · have hn : (0 : Int) < c.pSmoothSamples.toNat := by
        have hnat := UInt8.lt_iff_toNat_lt.mp hsamples
        exact Int.natCast_pos.mpr hnat
      have hne : c.pSmoothSamples ≠ 0 := (UInt8.ne_of_lt hsamples).symm
      have hsign : d.sign * d.sign = 1 := by
        rcases sign_cases hd with h | h <;> rw [h] <;> rfl
      have haverage := le_tdiv_iff hn (t - 1) (d.sign * sum)
      have hstep : t - 1 - 1 = t - 2 := by omega
      have hone : t - 1 ≤ 0 ↔ t ≤ 1 := by omega
      rw [if_pos hsamples, if_neg hne, mul_add, sign_tdiv hd, hsign, ← sub_le_iff_le_add, haverage, hstep]
      simp only [hone]
    · have hzero : c.pSmoothSamples = 0 := UInt8.le_zero_iff.mp (UInt8.not_lt.mp hsamples)
      rw [if_neg hsamples, if_pos hzero, Int.sign_mul_self_eq_natAbs]

/-- A delta is accelerated unless nothing leads it. -/
theorem accelerates_iff {sum pD d other : Int} (hd : d ≠ 0) : accelerates c (smoothed c sum pD d other) d = true ↔
    d.natAbs > c.pExtAccelMinDelta.toNat * 2 ∧ ¬(Leads c sum pD d other 0 ∧ ¬ Leads c sum pD d other 1) := by
  rw [← leads_iff hd, ← leads_iff hd]
  have hzero : smoothed c sum pD d other = 0 ↔ d.sign * smoothed c sum pD d other = 0 := by
    rcases sign_cases hd with h | h <;> rw [h] <;> omega
  simp only [accelerates, Bool.and_eq_true, decide_eq_true_eq, ne_eq, hzero]
  omega

/-- The factor is not negative just when the delta does not rise too fast. -/
theorem gain_nonneg_iff {pLast d : Int} (hd : d ≠ 0) : 0 ≤ gain c pLast d ↔ Rises c pLast d := by
  have hlevel : (0 : Int) < (c.pExtAccelLevel.toNat + 1) * 10 := by omega
  have hfactor := fun a => le_tdiv_iff hlevel (-1) a
  have hsign := sign_cases hd
  unfold gain Rises
  dsimp only
  by_cases hlast : pLast = 0
  · rw [if_neg (not_not.2 hlast)]
    have hquotient := hfactor (0 + d.sign)
    rw [if_pos (by omega)] at hquotient
    refine iff_of_true ?_ fun h => absurd hlast h
    have hle : -1 ≤ (0 + d.sign).tdiv ((c.pExtAccelLevel.toNat + 1) * 10) := hquotient.2 (by omega)
    omega
  · rw [if_pos hlast]
    have hquotient := hfactor (pLast - d + d.sign)
    rw [if_pos (by omega)] at hquotient
    constructor
    · intro h _
      have hless := hquotient.1 (by omega)
      omega
    · intro h
      have hrise := h hlast
      have hle := hquotient.2 (by omega)
      omega

theorem toSInt16_eq {a : Int} (hlow : -32768 ≤ a) (hhigh : a ≤ 32767) : toSInt16 a = a := by
  unfold toSInt16
  exact Int16.toInt_ofInt_of_le hlow (by omega)

/-- The mean along the delta, where it fits: its exponential part is a tenth of it, and one. -/
theorem expDelta_along {smooth d : Int} (hd : d ≠ 0) (hlow : 0 ≤ d.sign * smooth) (hhigh : d.sign * smooth ≤ 327659) :
    d.sign * expDelta smooth d = (d.sign * smooth) / 10 + 1 := by
  have htenth : d.sign * smooth.tdiv 10 = (d.sign * smooth) / 10 := by
    rw [sign_tdiv hd, Int.tdiv_eq_ediv_of_nonneg hlow]
  unfold expDelta
  rcases sign_cases hd with h | h
  · rw [h, one_mul] at htenth hlow hhigh ⊢
    rw [one_mul] at htenth ⊢
    rw [toSInt16_eq (by omega) (by omega)]
    omega
  · rw [h, Int.neg_one_mul] at htenth hlow hhigh ⊢
    rw [Int.neg_one_mul] at htenth ⊢
    rw [toSInt16_eq (by omega) (by omega)]
    omega

/-- An accelerated movement whose mean and factor are not opposed. -/
theorem accelerated_follows {smooth pSmooth pLast d : Int} (hd : d ≠ 0) (hgain : 0 ≤ gain c pLast d)
    (hlow : 0 ≤ d.sign * blend smooth pSmooth d) (hhigh : d.sign * blend smooth pSmooth d ≤ 327659) :
    0 ≤ d.sign * (blend smooth pSmooth d + expDelta (blend smooth pSmooth d) d * gain c pLast d) := by
  have hexp := expDelta_along hd hlow hhigh
  have hpart : 0 ≤ d.sign * expDelta (blend smooth pSmooth d) d * gain c pLast d := by
    rw [hexp]
    exact mul_nonneg (by omega) hgain
  rw [mul_add, ← mul_assoc]
  omega

/-- The mean of the smoothed delta and the last one, along the delta. -/
theorem blend_along {smooth pSmooth d : Int} (hd : d ≠ 0) :
    d.sign * blend smooth pSmooth d = (d.sign * smooth + d.sign * pSmooth + 2).tdiv 2 := by
  unfold blend
  rw [sign_tdiv hd, mul_add, mul_add]
  rcases sign_cases hd with h | h <;> rw [h] <;> rfl

variable (c) in
/-- The last smoothed delta of one axis, as the acceleration takes it. -/
def smoothedLast (first : Bool) (sum pD pSmooth d other : Int) : Int :=
  if first then smoothed c sum pD d other else pSmooth

/-- The mean fits and is not opposed. -/
theorem Accelerates.blend {first : Bool} {sum pD pSmooth pLast d other : Int} (hd : d ≠ 0)
    (h : Accelerates c first sum pD pSmooth pLast d other) :
    let mean := Pointer.blend (smoothed c sum pD d other) (smoothedLast c first sum pD pSmooth d other) d
    0 ≤ d.sign * mean ∧ d.sign * mean ≤ 327659 := by
  obtain ⟨-, hlow, hhigh⟩ := h
  rw [← leads_iff hd] at hlow hhigh
  intro mean
  have hmean : d.sign * mean = _ := blend_along hd
  have htwo : (0 : Int) < 2 := by decide
  have hnonneg := le_tdiv_iff htwo 0
  have habove := le_tdiv_iff htwo 327660
  rw [hmean]
  unfold smoothedLast
  cases first with
  | true =>
    rw [if_pos rfl] at hlow hhigh ⊢
    generalize d.sign * smoothed c sum pD d other = smooth at *
    have hmeanLow := (hnonneg (smooth + smooth + 2)).mpr (by rw [if_pos le_rfl]; omega)
    have hmeanHigh := mt (habove (smooth + smooth + 2)).mp (by rw [if_neg (by decide)]; omega)
    omega
  | false =>
    rw [if_neg (by decide)] at hlow hhigh ⊢
    generalize d.sign * smoothed c sum pD d other = smooth at *
    have hmeanLow := (hnonneg (smooth + d.sign * pSmooth + 2)).mpr (by rw [if_pos le_rfl]; omega)
    have hmeanHigh := mt (habove (smooth + d.sign * pSmooth + 2)).mp (by rw [if_neg (by decide)]; omega)
    omega

/-- One axis. -/
theorem axis_follows {first : Bool} {sum pD pSmooth pLast d other : Int}
    (h : AxisAgrees c first sum pD pSmooth pLast d other) :
    ¬ axisMovement c sum pD (smoothedLast c first sum pD pSmooth d other) pLast d other * d < 0 := by
  by_cases hd : d = 0
  · simp [hd]
  have hagrees := h hd
  have hplain : ∀ a, 0 ≤ d.sign * a → ¬ a * d < 0 := fun a ha => by rwa [opposed_iff hd, not_lt]
  apply hplain
  unfold axisMovement
  dsimp only
  by_cases hlevel : c.pExtAccelLevel > 0
  · rw [if_pos hlevel]
    unfold accelerated
    split
    · next haccelerates =>
      obtain ⟨hdelta, hled⟩ := (accelerates_iff hd).mp haccelerates
      rw [if_pos ⟨hlevel, hdelta⟩] at hagrees
      have haccelerated := hagrees.resolve_left hled
      obtain ⟨hlow, hhigh⟩ := haccelerated.blend hd
      exact accelerated_follows hd ((gain_nonneg_iff hd).mpr haccelerated.1) hlow hhigh
    · next haccelerates =>
      rw [accelerates_iff hd] at haccelerates
      apply (leads_iff hd 0).mpr
      by_cases hdelta : d.natAbs > c.pExtAccelMinDelta.toNat * 2
      · exact (not_not.mp fun hled => haccelerates ⟨hdelta, hled⟩).1
      · rwa [if_neg fun hboth => hdelta hboth.2] at hagrees
  · rw [if_neg hlevel]
    rw [if_neg fun hboth => hlevel hboth.1] at hagrees
    exact (leads_iff hd 0).mpr hagrees

/-- Without acceleration the condition is exact. -/
theorem axis_agrees {first : Bool} {sum pD pSmooth pLast d other : Int} (hlevel : c.pExtAccelLevel = 0)
    (h : ¬ axisMovement c sum pD (smoothedLast c first sum pD pSmooth d other) pLast d other * d < 0) :
    AxisAgrees c first sum pD pSmooth pLast d other := by
  intro hd
  have hnone : ¬ c.pExtAccelLevel > 0 := by rw [hlevel]; exact UInt8.lt_irrefl 0
  unfold axisMovement at h
  rw [if_neg hnone, opposed_iff hd, not_lt] at h
  rw [if_neg fun hboth => hnone hboth.1]
  exact (leads_iff hd 0).mp h

/-! The sums with the packet's own sample. -/

variable (c) in
/-- One axis of the samples: a reset leaves the packet's own, which else takes the place of the current one. -/
def summed (axis : DeltaSample → Int16) (d sd : Int) (p : PointerPacket) (s : Pointer) : Int :=
  if p.packetsCount ≠ 0 && c.pSmoothSamples > 0 && p.pressure ≥ c.tSenseLvl then
    if s.reverses c p then toSInt16 d
    else ((List.range c.pSmoothSamples.toNat).map fun i =>
      if i = s.cSample.toNat then toSInt16 d else (axis (s.lastSample i)).toInt).sum
  else sd

theorem sum_first (n : Nat) (hn : 0 < n) (v : Int) : ((List.range n).map fun i => if i = 0 then v else 0).sum = v := by
  obtain ⟨k, rfl⟩ : ∃ k, n = k + 1 := ⟨n - 1, by omega⟩
  rw [List.range_succ_eq_map, List.map_cons, List.map_map, List.sum_cons, if_pos rfl]
  have hrest : ((fun i => if i = 0 then v else 0) ∘ Nat.succ) = fun _ => (0 : Int) := rfl
  rw [hrest]
  simp

/-- The axis of the sample that is stored is the packet's delta. -/
theorem axis_store {axis : DeltaSample → Int16} {d : Int} {p : PointerPacket}
    (haxis : ∀ l : DeltaSample, axis { l with lastDX1 := .ofInt p.xDelta, lastDY1 := .ofInt p.yDelta } = .ofInt d)
    (s : Pointer) (i : Nat) :
    (axis ((s.storeSample c p).lastSample i)).toInt =
      if i = s.cSample.toNat then toSInt16 d else (axis (s.lastSample i)).toInt := by
  unfold storeSample
  dsimp only
  by_cases hi : i = s.cSample.toNat
  · rw [if_pos hi, hi, Function.update_self, haxis]
    rfl
  · rw [if_neg hi, Function.update_of_ne hi]

/-- The samples of one axis when the packet's own is among them. -/
theorem sum_stored {axis : DeltaSample → Int16} {d : Int} {p : PointerPacket}
    (haxis : ∀ l : DeltaSample, axis { l with lastDX1 := .ofInt p.xDelta, lastDY1 := .ofInt p.yDelta } = .ofInt d)
    (hreset : ∀ l : DeltaSample, axis { l with lastDX1 := 0, lastDY1 := 0 } = 0) (hsamples : c.pSmoothSamples > 0)
    (s : Pointer) :
    ((List.range c.pSmoothSamples.toNat).map fun i =>
      (axis (((if s.reverses c p then s.resetSamples c else s).storeSample c p).lastSample i)).toInt).sum =
      if s.reverses c p then toSInt16 d
      else ((List.range c.pSmoothSamples.toNat).map fun i =>
        if i = s.cSample.toNat then toSInt16 d else (axis (s.lastSample i)).toInt).sum := by
  simp only [axis_store haxis]
  by_cases hreverses : s.reverses c p = true
  · have hn : 0 < c.pSmoothSamples.toNat := UInt8.lt_iff_toNat_lt.mp hsamples
    rw [if_pos hreverses, if_pos hreverses]
    refine Eq.trans (congrArg List.sum ?_) (sum_first _ hn (toSInt16 d))
    apply List.map_congr_left
    intro i hi
    have hlt : i < c.pSmoothSamples.toNat := List.mem_range.mp hi
    have hzero : (0 : UInt8).toNat = 0 := rfl
    unfold resetSamples
    dsimp only
    rw [if_pos hlt, hreset, hzero]
    rfl
  · rw [if_neg hreverses, if_neg hreverses]

theorem sdx_smoothDelta (p : PointerPacket) (s : Pointer) :
    (s.smoothDelta c p).sdx = s.summed c (·.lastDX1) p.xDelta s.sdx p := by
  unfold smoothDelta summed
  split
  · next htaken =>
    simp only [Bool.and_eq_true, decide_eq_true_eq] at htaken
    exact @sum_stored c (·.lastDX1) p.xDelta p (fun _ => rfl) (fun _ => rfl) htaken.1.2 s
  · rfl

theorem sdy_smoothDelta (p : PointerPacket) (s : Pointer) :
    (s.smoothDelta c p).sdy = s.summed c (·.lastDY1) p.yDelta s.sdy p := by
  unfold smoothDelta summed
  split
  · next htaken =>
    simp only [Bool.and_eq_true, decide_eq_true_eq] at htaken
    exact @sum_stored c (·.lastDY1) p.yDelta p (fun _ => rfl) (fun _ => rfl) htaken.1.2 s
  · rfl

/-- What else the packet finds is as it was. -/
theorem smoothDelta_rest (p : PointerPacket) (s : Pointer) :
    let t := s.smoothDelta c p
    (t.pDx = s.pDx ∧ t.pLastDx = s.pLastDx ∧ t.pSmoothX = s.pSmoothX) ∧
      t.pDy = s.pDy ∧ t.pLastDy = s.pLastDy ∧ t.pSmoothY = s.pSmoothY := by
  dsimp only [smoothDelta]
  split
  · split <;> exact ⟨⟨rfl, rfl, rfl⟩, rfl, rfl, rfl⟩
  · exact ⟨⟨rfl, rfl, rfl⟩, rfl, rfl, rfl⟩

/-! Runs. -/

/-- The first smoothed delta of the touch is still to come. -/
def first (s : Pointer) : Bool := s.pSmoothX = 0 && s.pSmoothY = 0

theorem ready_movement {p : PointerPacket} (hmoves : moves p = true) (s : Pointer) :
    let sumX := s.summed c (·.lastDX1) p.xDelta s.sdx p
    let sumY := s.summed c (·.lastDY1) p.yDelta s.sdy p
    (s.ready c p).pDx = axisMovement c sumX s.pDx (smoothedLast c s.first sumX s.pDx s.pSmoothX p.xDelta p.yDelta)
        s.pLastDx p.xDelta p.yDelta ∧
      (s.ready c p).pDy = axisMovement c sumY s.pDy (smoothedLast c s.first sumY s.pDy s.pSmoothY p.yDelta p.xDelta)
        s.pLastDy p.yDelta p.xDelta := by
  dsimp only
  obtain ⟨⟨hdx, hlastX, hsmoothX⟩, hdy, hlastY, hsmoothY⟩ := smoothDelta_rest (c := c) p s
  rw [← sdx_smoothDelta, ← sdy_smoothDelta, first, ← hdx, ← hlastX, ← hsmoothX, ← hdy, ← hlastY, ← hsmoothY]
  generalize ht : s.smoothDelta c p = t
  have hready : s.ready c p = t.accelerate c p := by rw [← ht]; rfl
  rw [hready]
  unfold accelerate axisMovement
  rw [if_pos hmoves]
  dsimp only
  split <;> exact ⟨rfl, rfl⟩

/-- No movement that the packet dispatches is opposed to its delta. -/
def Follows (c : PointerSettings) (p : PointerPacket) (s : Pointer) : Prop :=
  ∀ dx dy, .moved dx dy ∈ (s.packet c p).1 → ¬ dx * p.xDelta < 0 ∧ ¬ dy * p.yDelta < 0

/-- If the packet may move the pointer, both axes agree. -/
def Agrees (c : PointerSettings) (p : PointerPacket) (s : Pointer) : Prop :=
  points c p = true →
    AxisAgrees c s.first (s.summed c (·.lastDX1) p.xDelta s.sdx p) s.pDx s.pSmoothX s.pLastDx p.xDelta p.yDelta ∧
      AxisAgrees c s.first (s.summed c (·.lastDY1) p.yDelta s.sdy p) s.pDy s.pSmoothY s.pLastDy p.yDelta p.xDelta

instance (p : PointerPacket) (s : Pointer) : Decidable (Agrees c p s) := inferInstanceAs (Decidable (_ → _ ∧ _))

theorem follows_of_agrees {p : PointerPacket} {s : Pointer} (h : Agrees c p s) : Follows c p s := by
  intro dx dy hmoved
  obtain ⟨hpoints, -, rfl, rfl⟩ := moved_mem_iff.mp hmoved
  obtain ⟨hx, hy⟩ := ready_movement (c := c) (moves_of_points hpoints) s
  obtain ⟨hagreesX, hagreesY⟩ := h hpoints
  rw [hx, hy]
  exact ⟨axis_follows hagreesX, axis_follows hagreesY⟩

theorem agrees_of_follows (hlevel : c.pExtAccelLevel = 0) {p : PointerPacket} {s : Pointer} (h : Follows c p s) :
    Agrees c p s := by
  intro hpoints
  obtain ⟨hx, hy⟩ := ready_movement (c := c) (moves_of_points hpoints) s
  have hboth : ¬ (s.ready c p).pDx * p.xDelta < 0 ∧ ¬ (s.ready c p).pDy * p.yDelta < 0 := by
    by_cases hzero : (s.ready c p).pDx ≠ 0 ∨ (s.ready c p).pDy ≠ 0
    · exact h _ _ (moved_mem_iff.mpr ⟨hpoints, hzero, rfl, rfl⟩)
    · rw [not_or, not_not, not_not] at hzero
      simp [hzero.1, hzero.2]
  rw [hx, hy] at hboth
  exact ⟨axis_agrees hlevel hboth.1, axis_agrees hlevel hboth.2⟩

/-- The packets of a touch, one after the other. -/
def step (c : PointerSettings) (s : Pointer) (p : PointerPacket) : Pointer := (s.packet c p).2

open Transition in
/-- The movements of a run follow its deltas if what its packets find agrees with them; without acceleration, only if
it does. -/
theorem follows_run (c : PointerSettings) (s : Pointer) (ps : List PointerPacket) :
    ((∀ q p, q ++ [p] <+: ps → Agrees c p (run (step c) q s)) →
        ∀ q p, q ++ [p] <+: ps → Follows c p (run (step c) q s)) ∧
      (c.pExtAccelLevel = 0 → (∀ q p, q ++ [p] <+: ps → Follows c p (run (step c) q s)) →
        ∀ q p, q ++ [p] <+: ps → Agrees c p (run (step c) q s)) :=
  ⟨fun h q p hprefix => follows_of_agrees (h q p hprefix),
    fun hlevel h q p hprefix => agrees_of_follows hlevel (h q p hprefix)⟩

/-- A movement by a finger that is neither withheld nor in an edge area. -/
def moveBy (dx dy : Int) : PointerPacket :=
  { xDelta := dx, yDelta := dy, pressure := 50, packetsCount := 20, triggered := false, isQuickTap := false
    isTapGesture := false, inDisabledArea := false }

/-- The lowest level of acceleration. -/
def accelerating : PointerSettings := { PointerSettings.default with pExtAccelLevel := 1 }

open Transition in
theorem agrees_accelerating : ∀ q p, q ++ [p] <+: [moveBy 10 0, moveBy 14 0] →
    Agrees accelerating p (run (step accelerating) q begun) := by
  have hsteps := run_steps_cons (f := step accelerating) (C := fun s p => Agrees accelerating p s)
  have hnone := run_steps_nil (f := step accelerating) (C := fun s p => Agrees accelerating p s)
  exact (hsteps _ _ _).mpr ⟨by decide +kernel, (hsteps _ _ _).mpr ⟨by decide +kernel, hnone _⟩⟩

open Transition in
/-- Two movements to the right, the second of them faster. -/
theorem follows_accelerating : ∀ q p, q ++ [p] <+: [moveBy 10 0, moveBy 14 0] →
    Follows accelerating p (run (step accelerating) q begun) :=
  (follows_run accelerating begun [moveBy 10 0, moveBy 14 0]).1 agrees_accelerating

open Transition in
/-- The finger moves to the right, then down, then back by 1, and the pointer moves to the right. -/
theorem follows_opposed :
    ¬ Follows .default (moveBy (-1) 0) (run (step .default) [moveBy 100 0, moveBy 0 5] begun) := by
  intro h
  have hmoved : .moved 18 0 ∈
      ((run (step .default) [moveBy 100 0, moveBy 0 5] begun).packet .default (moveBy (-1) 0)).1 := by decide +kernel
  exact (h 18 0 hmoved).1 (by decide)

end Pointer
end ApplePS2
