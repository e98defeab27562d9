import ApplePS2.Touchpad.Pointer

/- The amounts of one packet of a scroll: which deltas it follows, their smoothing and
   acceleration, and its level (the loop at the start of `Process_scroll`).

   1. `smoothed_neg_iff`, `reversed_neg_iff`: the deltas whose opposites become opposite
      amounts.
   2. `level_neg_iff`: and those whose opposites have the same level. -/
namespace ApplePS2

/-! Numbers narrowed to a short. -/

theorem toSInt16_bounds (d : Int) : -32768 ≤ toSInt16 d ∧ toSInt16 d ≤ 32767 := by
  unfold toSInt16
  rw [Int16.toInt_ofInt, Int.bmod_def]
  simp only [Int16.size]
  omega

theorem toSInt16_eq_self {d : Int} (h : -32768 ≤ d ∧ d ≤ 32767) : toSInt16 d = d := by
  unfold toSInt16
  rw [Int16.toInt_ofInt, Int.bmod_def]
  simp only [Int16.size]
  omega

/-- Two shorts are opposite if the numbers are, but for the least short, which has no opposite. -/
theorem toSInt16_eq_neg_iff (a b : Int) :
    toSInt16 a = -toSInt16 b ↔ (a + b) % 65536 = 0 ∧ toSInt16 b ≠ -32768 := by
  unfold toSInt16
  rw [Int16.toInt_ofInt, Int16.toInt_ofInt, Int.bmod_def, Int.bmod_def]
  simp only [Int16.size]
  omega

theorem toSInt16_neg_iff (d : Int) : toSInt16 (-d) = -toSInt16 d ↔ toSInt16 d ≠ -32768 := by
  rw [toSInt16_eq_neg_iff, Int.add_left_neg]
  simp

theorem toSInt16_neg_least {d : Int} (h : toSInt16 d = -32768) : toSInt16 (-d) = -32768 := by
  unfold toSInt16 at h ⊢
  rw [Int16.toInt_ofInt, Int.bmod_def] at h ⊢
  simp only [Int16.size] at h ⊢
  omega

/-- What `init` and the preferences say of scrolls. -/
structure ScrollControl where
  isHScrollEnabled : Bool
  isVScrollEnabled : Bool
  smoothSamples : UInt8
  idleFingMaxDelta : UInt8
  directionSamples : UInt8
  contMaxDeltaEdge : UInt8
  contMaxDelta2F : UInt8
  edgeCirDelta : UInt8
  idleFingDetectTimeout : UInt64
  hasEdgeCont : Bool
  hasEdgeSling : Bool
  has2FCont : Bool
  has2FSling : Bool
  accelModeEdge : UInt8
  noiseMultiTapDelta : UInt8
  xcenter : UInt16
  ycenter : UInt16

/-- The arguments of `Process_scroll`, and what it reads of the packet. -/
structure ScrollPacket where
  sMode : UInt8
  sdx : Int
  sdy : Int
  isZoomConflict : Bool
  cFingers : UInt8
  pid : Int
  sid : Int
  holdTime : UInt64

/-- What a scroll sends; the deltas stand before the multiplication with the factor. -/
inductive ScrollSent where
  /-- `dispatchScrollDifference`, not multiplied. -/
  | dispatch (dy dx : Int)
  /-- Multiplied with `_scrollFactor`, or with the factor of the edges. -/
  | dispatchTimes (edge : Bool) (dy dx : Int)
  /-- Multiplied, then halved. -/
  | dispatchHalf (edge : Bool) (dy dx : Int)
  | cancelTimeout
  /-- `setTimeoutMS(0)` -/
  | setTimeoutMS
  deriving DecidableEq

structure ScrollState where
  touchmode : TouchPadModes
  fing : Int → Finger
  pSmoothX : Int
  pSmoothY : Int
  dx : Int
  dy : Int
  edgeCirDxy : Int
  xPacketsDir : Int
  yPacketsDir : Int
  dxPacketsCount : UInt8
  dyPacketsCount : UInt8
  totalDx : UInt32
  totalDy : UInt32
  maxLevelReached : UInt8
  packetsCount : UInt8
  noInertia : Bool
  doCont : Bool
  /-- `lastSDX` and `lastSDY` of the samples, which are magnitudes. -/
  lastSample : Nat → UInt16 × UInt16
  scrollSample : Nat
  skippedDx : Nat → Int
  skippedDy : Nat → Int
  skipSample : Nat
  sent : List ScrollSent

/-! The other way. -/

/-- The deltas the other way, at the same place. -/
def Finger.opposite (f : Finger) : Finger :=
  { f with tdx := -f.tdx, tdy := -f.tdy, sdx := -f.sdx, sdy := -f.sdy }

def ScrollPacket.opposite (p : ScrollPacket) : ScrollPacket := { p with sdx := -p.sdx, sdy := -p.sdy }

/-- It moves as far. -/
@[simp]
theorem ScrollPacket.sdx_opposite (p : ScrollPacket) : p.opposite.sdx.natAbs = p.sdx.natAbs := by
  apply Int.natAbs_neg

@[simp]
theorem ScrollPacket.sdy_opposite (p : ScrollPacket) : p.opposite.sdy.natAbs = p.sdy.natAbs := by
  apply Int.natAbs_neg

def ScrollSent.opposite : ScrollSent → ScrollSent
  | dispatch dy dx => dispatch (-dy) (-dx)
  | dispatchTimes edge dy dx => dispatchTimes edge (-dy) (-dx)
  | dispatchHalf edge dy dx => dispatchHalf edge (-dy) (-dx)
  | cancelTimeout => cancelTimeout
  | setTimeoutMS => setTimeoutMS

/-- The mirror image: everything that has a sign the other way. -/
def ScrollState.opposite (s : ScrollState) : ScrollState :=
  { s with
    fing := fun i => (s.fing i).opposite
    pSmoothX := -s.pSmoothX
    pSmoothY := -s.pSmoothY
    dx := -s.dx
    dy := -s.dy
    edgeCirDxy := -s.edgeCirDxy
    xPacketsDir := -s.xPacketsDir
    yPacketsDir := -s.yPacketsDir
    skippedDx := fun i => -s.skippedDx i
    skippedDy := fun i => -s.skippedDy i
    sent := s.sent.map ScrollSent.opposite }

/-- What the loop at the start changes, and its variables. -/
structure ScrollAmounts where
  touchmode : TouchPadModes
  pSmoothX : Int
  pSmoothY : Int
  i : Nat
  sDelta : Int
  s_dx : Int
  s_dy : Int
  scrollDifflvl : UInt8

namespace ScrollAmounts

/-- `b` has the decisions of `a` and the opposite amounts. -/
structure Opposite (b a : ScrollAmounts) : Prop where
  touchmode : b.touchmode = a.touchmode
  pSmoothX : b.pSmoothX = -a.pSmoothX
  pSmoothY : b.pSmoothY = -a.pSmoothY
  s_dx : b.s_dx = -a.s_dx
  s_dy : b.s_dy = -a.s_dy
  scrollDifflvl : b.scrollDifflvl = a.scrollDifflvl

variable (c : ScrollControl) (p : ScrollPacket) (s : ScrollState)

/-! "Choose scroll delta to process" -/

/-- "Choose the scroll" -/
def chosenMode (touchmode : TouchPadModes) : TouchPadModes :=
  let mode :=
    if c.isHScrollEnabled && p.sdx.natAbs ≥ c.idleFingMaxDelta.toNat &&
        (p.sdx.natAbs > p.sdy.natAbs || s.dxPacketsCount ≥ 5) then .MODE_HSCROLL
    else touchmode
  if c.isVScrollEnabled && p.sdy.natAbs ≥ c.idleFingMaxDelta.toNat &&
      (p.sdy.natAbs ≥ p.sdx.natAbs || s.dyPacketsCount ≥ 5) then .MODE_VSCROLL
  else mode

/-- "Smooth scroll": `sum` is that of the samples of both fingers. -/
def smoothed (sum delta pSmooth : Int) : Int :=
  if c.smoothSamples > 0 then toSInt16 ((toSInt16 sum + pSmooth).tdiv (c.smoothSamples.toNat + 1))
  else toSInt16 ((delta + pSmooth).tdiv 2)

def smooth (a : ScrollAmounts) : ScrollAmounts :=
  let x := smoothed c ((s.fing p.pid).sdx + (s.fing p.sid).sdx) p.sdx a.pSmoothX
  let y := smoothed c ((s.fing p.pid).sdy + (s.fing p.sid).sdy) p.sdy a.pSmoothY
  -- "skip Horizontal processing"
  let i := if !c.isHScrollEnabled || a.touchmode = .MODE_VSCROLL then a.i + 1 else a.i
  { a with s_dx := x, pSmoothX := x, s_dy := y, pSmoothY := y, i := i }

/-- The horizontal scrolls of one finger. -/
def IsEdgeH (touchmode : TouchPadModes) : Prop := touchmode = .MODE_EDGE_HSCROLL ∨ touchmode = .MODE_CIR_HSCROLL

/-- The vertical scrolls of one finger. -/
def IsEdgeV (touchmode : TouchPadModes) : Prop := touchmode = .MODE_EDGE_VSCROLL ∨ touchmode = .MODE_CIR_VSCROLL

instance (touchmode : TouchPadModes) : Decidable (IsEdgeH touchmode) := inferInstanceAs (Decidable (_ ∨ _))

instance (touchmode : TouchPadModes) : Decidable (IsEdgeV touchmode) := inferInstanceAs (Decidable (_ ∨ _))

def choose1F (a : ScrollAmounts) : ScrollAmounts :=
  if IsEdgeH a.touchmode then { a with sDelta := toSInt16 p.sdx }
  else if IsEdgeV a.touchmode then { a with sDelta := toSInt16 p.sdy }
  else a

def choose2F (a : ScrollAmounts) : ScrollAmounts :=
  let a := { a with touchmode := chosenMode c p s a.touchmode }
  let a := if a.i = 0 then a.smooth c p s else a
  if a.i = 0 then { a with sDelta := a.s_dx }
  else if a.touchmode ≠ .MODE_HSCROLL then { a with sDelta := a.s_dy }
  else a

def choose (a : ScrollAmounts) : ScrollAmounts :=
  if p.cFingers = 1 then a.choose1F p
  else if p.cFingers = 2 then a.choose2F c p s
  else a

/-! The acceleration. -/

/-- The delta in each of the modes: optimized, fixed, extended, and super acceleration. -/
def accelerated (sMode : UInt8) (sDelta : Int) : Int :=
  let tmpDXY := sDelta.tdiv 10
  if sMode = 0 then
    if sDelta < 0 then
      -- "make it even number"
      (if tmpDXY.tmod 2 ≠ 0 then tmpDXY + 1 else tmpDXY).tdiv 2 - 1
    else (if tmpDXY.tmod 2 ≠ 0 then tmpDXY - 1 else tmpDXY).tdiv 2 + 1
  else if sMode = 1 then if sDelta < 0 then -5 else 5
  else if sMode = 2 then if sDelta < 0 then tmpDXY - 1 else tmpDXY + 1
  else sDelta

/-- "Change direction" -/
def reversed (sMode : UInt8) (sDelta : Int) : Int := toSInt16 (0 - accelerated sMode sDelta)

/-! "Modify scroll delta" -/

def magnitude (sDelta : Int) : UInt8 := UInt8.ofInt (if sDelta < 0 then 0 - sDelta else sDelta)

/-- The level of a scroll with two fingers. -/
def level (sMode : UInt8) (sDelta : Int) : UInt8 :=
  if sMode > 2 then UInt8.ofInt ((sDelta.tdiv 10 + 1) * 2) * 2 else magnitude sDelta

def modify1F (a : ScrollAmounts) : ScrollAmounts :=
  let a : ScrollAmounts :=
    if IsEdgeH a.touchmode then { a with s_dx := a.sDelta }
    else if IsEdgeV a.touchmode then { a with s_dy := a.sDelta }
    else a
  { a with scrollDifflvl := magnitude a.sDelta }

def modify2F (a : ScrollAmounts) : ScrollAmounts :=
  let a : ScrollAmounts := if a.i = 0 then { a with s_dx := a.sDelta } else { a with s_dy := a.sDelta }
  -- "Skip vertical scroll Lvl on HScroll mode"
  let a : ScrollAmounts :=
    if a.i = 1 ∧ a.touchmode ≠ .MODE_HSCROLL ∨ a.i = 0 then { a with scrollDifflvl := level p.sMode a.sDelta }
    else a
  -- "skip Vertical processing"
  if !c.isVScrollEnabled then { a with i := a.i + 1 } else a

def modify (a : ScrollAmounts) : ScrollAmounts :=
  if p.cFingers = 1 then a.modify1F
  else if p.cFingers = 2 then a.modify2F c p
  else a

/-- One turn of the loop. -/
def turn (a : ScrollAmounts) : ScrollAmounts :=
  let a := a.choose c p s
  let a := { a with sDelta := reversed p.sMode a.sDelta }
  let a := a.modify c p
  { a with i := a.i + 1 }

/-- The loop, `fuel` turns at most. -/
def turns : Nat → ScrollAmounts → ScrollAmounts
  | 0, a => a
  | fuel + 1, a =>
    let a := a.turn c p s
    if a.i < p.cFingers.toNat then turns fuel a else a

def start : ScrollAmounts :=
  { touchmode := s.touchmode, pSmoothX := s.pSmoothX, pSmoothY := s.pSmoothY, i := 0, sDelta := 0, s_dx := 0, s_dy := 0
    scrollDifflvl := 0 }

end ScrollAmounts

/-- What the loop leaves; every turn counts, so the turns are enough. -/
def ScrollState.amounts (c : ScrollControl) (p : ScrollPacket) (s : ScrollState) : ScrollAmounts :=
  ScrollAmounts.turns c p s (p.cFingers.toNat + 1) (ScrollAmounts.start s)

namespace ScrollAmounts

variable (c : ScrollControl) (p : ScrollPacket) (s : ScrollState)

/-! What the other way does to one delta. -/

/-- The parts of two numbers that differ from opposite ones by `65536` do not. -/
theorem tdiv_not_opposite (q k : Int) (hk : 2 ≤ k) (hmax : k ≤ 256) :
    ((-32768 + -q).tdiv k + (-32768 + q).tdiv k) % 65536 ≠ 0 := by
  have hpos : 0 < k := by omega
  have ha := Int.mul_tdiv_add_tmod (-32768 + -q) k
  have hb := Int.mul_tdiv_add_tmod (-32768 + q) k
  have hra := Int.tmod_lt_of_pos (-32768 + -q) hpos
  have hrb := Int.tmod_lt_of_pos (-32768 + q) hpos
  have hla := Int.lt_tmod_of_pos (-32768 + -q) hpos
  have hlb := Int.lt_tmod_of_pos (-32768 + q) hpos
  generalize (-32768 + -q).tdiv k = a at *
  generalize (-32768 + q).tdiv k = b at *
  have hsum : k * (a + b) + ((-32768 + -q).tmod k + (-32768 + q).tmod k) = -65536 := by
    rw [Int.mul_add]
    omega
  -- so the sum lies strictly between `-65536` and zero
  have hneg : a + b < 0 := by
    by_contra hnonneg
    have := Int.mul_nonneg hpos.le (not_lt.mp hnonneg)
    omega
  have hgt : -65536 < a + b := by
    by_contra hle
    have := Int.mul_le_mul_of_nonneg_left (not_lt.mp hle) hpos.le
    omega
  omega

/-- The smoothed delta has an opposite. -/
def Smooths (sum delta pSmooth : Int) : Prop :=
  (0 < c.smoothSamples → toSInt16 sum ≠ -32768) ∧ smoothed c sum delta pSmooth ≠ -32768

theorem smoothed_neg_iff (sum delta pSmooth : Int) :
    smoothed c (-sum) (-delta) (-pSmooth) = -smoothed c sum delta pSmooth ↔ Smooths c sum delta pSmooth := by
  unfold Smooths smoothed
  by_cases hsamples : 0 < c.smoothSamples
  · simp only [gt_iff_lt, hsamples, if_true, forall_const]
    have hk : (0 : Int) < c.smoothSamples.toNat := Int.natCast_pos.mpr (UInt8.lt_iff_toNat_lt.mp hsamples)
    have hmax := c.smoothSamples.toNat_lt
    by_cases hleast : toSInt16 sum = -32768
    · rw [toSInt16_neg_least hleast, hleast, toSInt16_eq_neg_iff]
      have hne := tdiv_not_opposite pSmooth (c.smoothSamples.toNat + 1) (by omega) (by omega)
      exact iff_of_false (fun h => hne h.1) fun h => h.1 rfl
    · rw [(toSInt16_neg_iff sum).mpr hleast, ← Int.neg_add, Int.neg_tdiv, toSInt16_neg_iff]
      exact (and_iff_right hleast).symm
  · simp only [gt_iff_lt, hsamples, if_false, false_implies, true_and]
    rw [← Int.neg_add, Int.neg_tdiv, toSInt16_neg_iff]

theorem smoothed_bounds (sum delta pSmooth : Int) :
    -32768 ≤ smoothed c sum delta pSmooth ∧ smoothed c sum delta pSmooth ≤ 32767 := by
  unfold smoothed
  split
  · exact toSInt16_bounds _
  · exact toSInt16_bounds _

/-- The delta is accelerated by its sign. -/
def Signed (sMode : UInt8) (sDelta : Int) : Prop := sMode ≤ 2 → sDelta ≠ 0

theorem mode_cases (sMode : UInt8) : sMode = 0 ∨ sMode = 1 ∨ sMode = 2 ∨ 2 < sMode := by
  simp only [← UInt8.toNat_inj, UInt8.lt_iff_toNat_lt, UInt8.reduceToNat]
  omega

theorem accelerated_super {sMode : UInt8} (h : 2 < sMode) (sDelta : Int) : accelerated sMode sDelta = sDelta := by
  have h₀ : sMode ≠ 0 := by rintro rfl; exact absurd h (by decide)
  have h₁ : sMode ≠ 1 := by rintro rfl; exact absurd h (by decide)
  have h₂ : sMode ≠ 2 := by rintro rfl; exact absurd h (by decide)
  unfold accelerated
  rw [if_neg h₀, if_neg h₁, if_neg h₂]

/-- Forwards, where the divisions round down. -/
theorem accelerated_of_nonneg {sDelta : Int} (h : 0 ≤ sDelta) : accelerated 0 sDelta = sDelta / 10 / 2 + 1 ∧
    accelerated 1 sDelta = 5 ∧ accelerated 2 sDelta = sDelta / 10 + 1 := by
  have hforward : ¬sDelta < 0 := not_lt.mpr h
  have hten : 0 ≤ sDelta / 10 := Int.ediv_nonneg h (by decide)
  have htmp : sDelta.tdiv 10 = sDelta / 10 := Int.tdiv_eq_ediv_of_nonneg h
  refine ⟨?_, if_neg hforward, ?_⟩
  · simp only [accelerated, if_true, if_neg hforward, htmp, Int.tmod_eq_emod_of_nonneg hten]
    split
    · rw [Int.tdiv_eq_ediv_of_nonneg (by omega)]
      omega
    · rw [Int.tdiv_eq_ediv_of_nonneg hten]
  · exact (if_neg hforward).trans (by rw [htmp])

/-- Backwards: the other branch of every mode is the same with the opposite sign. -/
theorem accelerated_of_pos (sMode : UInt8) {sDelta : Int} (h : 0 < sDelta) :
    accelerated sMode (-sDelta) = -accelerated sMode sDelta := by
  have hforward : ¬sDelta < 0 := not_lt.mpr h.le
  have hback : -sDelta < 0 := Int.neg_neg_of_pos h
  simp only [accelerated, if_neg hforward, if_pos hback, Int.neg_tdiv, Int.neg_tmod, ne_eq, Int.neg_eq_zero]
  split_ifs with hzero hodd hone htwo
  · rw [Int.neg_tdiv]
    omega
  · rw [show -sDelta.tdiv 10 + 1 = -(sDelta.tdiv 10 - 1) by omega, Int.neg_tdiv]
    omega
  · rfl
  · omega
  · rfl

theorem accelerated_neg {sMode : UInt8} {sDelta : Int} (h : Signed sMode sDelta) :
    accelerated sMode (-sDelta) = -accelerated sMode sDelta := by
  obtain hneg | rfl | hpos := Int.lt_trichotomy sDelta 0
  · have hback := accelerated_of_pos sMode (Int.neg_pos_of_neg hneg)
    rw [Int.neg_neg] at hback
    rw [hback, Int.neg_neg]
  · have hsuper : 2 < sMode := UInt8.not_le.mp fun hle => h hle rfl
    rw [accelerated_super hsuper, accelerated_super hsuper]
  · exact accelerated_of_pos sMode hpos

/-- Either sign is a forward delta, or the opposite of one. -/
theorem accelerated_cases (sMode : UInt8) (sDelta : Int) : ∃ d : Int, 0 ≤ d ∧
    (sDelta = d ∧ accelerated sMode sDelta = accelerated sMode d ∨
      sDelta = -d ∧ accelerated sMode sDelta = -accelerated sMode d) := by
  obtain hneg | hnonneg := Int.lt_or_le sDelta 0
  · have hback := accelerated_of_pos sMode (Int.neg_pos_of_neg hneg)
    rw [Int.neg_neg] at hback
    exact ⟨-sDelta, by omega, .inr ⟨(Int.neg_neg sDelta).symm, hback⟩⟩
  · exact ⟨sDelta, hnonneg, .inl ⟨rfl, rfl⟩⟩

theorem accelerated_bounds (sMode : UInt8) {sDelta : Int} (h : -32767 ≤ sDelta ∧ sDelta ≤ 32767) :
    -32767 ≤ accelerated sMode sDelta ∧ accelerated sMode sDelta ≤ 32767 := by
  obtain ⟨d, hd, hcases⟩ := accelerated_cases sMode sDelta
  obtain ⟨hzero, hone, htwo⟩ := accelerated_of_nonneg hd
  have hforward : 0 ≤ accelerated sMode d ∧ accelerated sMode d ≤ 32767 := by
    obtain rfl | rfl | rfl | hsuper := mode_cases sMode
    · omega
    · omega
    · omega
    · rw [accelerated_super hsuper]
      omega
  omega

/-- In the first modes no delta becomes zero, and zero does not stay. -/
theorem accelerated_ne_zero {sMode : UInt8} (h : sMode ≤ 2) (sDelta : Int) : accelerated sMode sDelta ≠ 0 := by
  obtain ⟨d, hd, hcases⟩ := accelerated_cases sMode sDelta
  obtain ⟨hzero, hone, htwo⟩ := accelerated_of_nonneg hd
  have hforward : 0 < accelerated sMode d := by
    obtain rfl | rfl | rfl | hsuper := mode_cases sMode
    · omega
    · omega
    · omega
    · exact absurd h (UInt8.not_le.mpr hsuper)
  omega

theorem reversed_eq (sMode : UInt8) {sDelta : Int} (h : -32767 ≤ sDelta ∧ sDelta ≤ 32767) :
    reversed sMode sDelta = -accelerated sMode sDelta := by
  have hbounds := accelerated_bounds sMode h
  unfold reversed
  rw [Int.zero_sub]
  exact toSInt16_eq_self (by omega)

theorem reversed_neg_iff (sMode : UInt8) {sDelta : Int} (h : -32767 ≤ sDelta ∧ sDelta ≤ 32767) :
    reversed sMode (-sDelta) = -reversed sMode sDelta ↔ Signed sMode sDelta := by
  rw [reversed_eq sMode h, reversed_eq sMode (by omega)]
  constructor
  · intro hneg hmode hzero
    have hne := accelerated_ne_zero hmode 0
    rw [hzero, Int.neg_zero] at hneg
    omega
  · intro hsigned
    rw [accelerated_neg hsigned]

/-- A delta that is followed unsmoothed. -/
theorem reversed_toSInt16_neg_iff (sMode : UInt8) (d : Int) :
    reversed sMode (toSInt16 (-d)) = -reversed sMode (toSInt16 d) ↔
      toSInt16 d ≠ -32768 ∧ Signed sMode (toSInt16 d) := by
  by_cases hleast : toSInt16 d = -32768
  · rw [toSInt16_neg_least hleast, hleast]
    refine iff_of_false (fun hself => ?_) fun h => h.1 rfl
    have hzero : reversed sMode (-32768) = 0 := by omega
    obtain rfl | rfl | rfl | hsuper := mode_cases sMode
    · exact absurd hzero (by decide)
    · exact absurd hzero (by decide)
    · exact absurd hzero (by decide)
    · unfold reversed at hzero
      rw [accelerated_super hsuper] at hzero
      exact absurd hzero (by decide)
  · have hbounds := toSInt16_bounds d
    rw [(toSInt16_neg_iff d).mpr hleast, reversed_neg_iff sMode (by omega)]
    exact (and_iff_right hleast).symm

theorem magnitude_neg (d : Int) : magnitude (-d) = magnitude d := by
  unfold magnitude
  have habs : (if -d < 0 then 0 - -d else -d) = if d < 0 then 0 - d else d := by
    split_ifs <;> omega
  rw [habs]

theorem ofInt_eq_iff (a b : Int) : UInt8.ofInt a = UInt8.ofInt b ↔ a % 256 = b % 256 := by
  rw [← UInt8.toNat_inj]
  simp only [UInt8.ofInt, UInt8.toNat_ofNat']
  omega

/-- The level of the last modes is that of the opposite delta exactly if `8 * (sDelta / 10)` has no low byte. -/
theorem level_neg_iff (sMode : UInt8) (sDelta : Int) :
    level sMode (-sDelta) = level sMode sDelta ↔ (2 < sMode → 32 ∣ sDelta.tdiv 10) := by
  unfold level
  by_cases hsuper : 2 < sMode
  · have htwice : ∀ d : Int, UInt8.ofInt d * 2 = UInt8.ofInt (d * 2) := fun d => (UInt8.ofInt_mul d 2).symm
    rw [if_pos hsuper, if_pos hsuper, Int.neg_tdiv, htwice, htwice, ofInt_eq_iff]
    simp only [hsuper, forall_const]
    omega
  · rw [if_neg hsuper, if_neg hsuper, magnitude_neg]
    exact iff_of_true rfl fun h => absurd h hsuper

end ScrollAmounts
end ApplePS2
