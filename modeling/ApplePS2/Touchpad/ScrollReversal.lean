import ApplePS2.Touchpad.ScrollOpposite

/- One packet of a scroll (`Process_scroll`) and the same packet the other way.

   1. `circleAmounts`, `circling_monitor`: what the loop and the steps behind it leave for a
      circular scroll.
   2. `slips_iff`: a circular scroll without a direction, said of the packet and the state
      before.
   3. `reversible_iff`: the packets that scroll the other way by the same amounts. -/
namespace ApplePS2

/-! What a circular scroll follows. -/

def IsCircular (touchmode : TouchPadModes) : Prop := touchmode = .MODE_CIR_VSCROLL ∨ touchmode = .MODE_CIR_HSCROLL

instance (touchmode : TouchPadModes) : Decidable (IsCircular touchmode) := inferInstanceAs (Decidable (_ ∨ _))

namespace ScrollAmounts

variable (c : ScrollControl) (p : ScrollPacket) (s : ScrollState)

/-- The mode in which the packet scrolls. -/
def packetMode : TouchPadModes := if p.cFingers = 2 then mode2F c p s else s.touchmode

/-- The delta that a circular scroll follows: of one finger on its own axis only. -/
def circleX : Int :=
  if p.cFingers = 1 then if s.touchmode = .MODE_CIR_HSCROLL then toSInt16 p.sdx else 0
  else if p.cFingers = 2 then smoothedX c p s
  else 0

def circleY : Int :=
  if p.cFingers = 1 then if s.touchmode = .MODE_CIR_VSCROLL then toSInt16 p.sdy else 0
  else if p.cFingers = 2 then smoothedY c p s
  else 0

/-- Its level. -/
def circleLevel : UInt8 :=
  if p.cFingers = 1 then
    magnitude (reversed p.sMode (if s.touchmode = .MODE_CIR_HSCROLL then toSInt16 p.sdx else toSInt16 p.sdy))
  else if p.cFingers = 2 then level p.sMode (reversed p.sMode (levelDelta c p s))
  else 0

/-- A delta that is accelerated by its sign does not vanish. -/
theorem reversed_eq_zero_iff {sMode : UInt8} {d : Int} (h : -32767 ≤ d ∧ d ≤ 32767) (hsigned : Signed sMode d) :
    reversed sMode d = 0 ↔ d = 0 := by
  rw [reversed_eq sMode h]
  by_cases hmode : sMode ≤ 2
  · have hne := accelerated_ne_zero hmode d
    have hd := hsigned hmode
    omega
  · rw [accelerated_super (UInt8.not_le.mp hmode)]
    omega

theorem touchmode_amounts : (s.amounts c p).touchmode = packetMode c p s := by
  unfold packetMode
  by_cases h₁ : p.cFingers = 1
  · rw [if_neg (by rw [h₁]; decide), amounts_one c p s h₁, turn_one c p s h₁]
    split_ifs <;> rfl
  · by_cases h₂ : p.cFingers = 2
    · rw [if_pos h₂, amounts_two c p s h₂]
      rfl
    · obtain ⟨i, sDelta, hs⟩ := turns_other c p s h₁ h₂ (p.cFingers.toNat + 1) (start s)
      rw [if_neg h₂, ScrollState.amounts, hs]
      rfl

/-- What the loop leaves in a circular scroll. -/
structure CircleAmounts : Prop where
  s_dx : (s.amounts c p).s_dx = 0 ↔ circleX c p s = 0
  s_dy : (s.amounts c p).s_dy = 0 ↔ circleY c p s = 0
  scrollDifflvl : (s.amounts c p).scrollDifflvl = circleLevel c p s

variable {c p s}

theorem circleAmounts_one (h₁ : p.cFingers = 1) (hopposes : Opposes1F p s) (hcircular : IsCircular s.touchmode) :
    CircleAmounts c p s := by
  have hamounts : s.amounts c p = (start s).turn c p s := amounts_one c p s h₁
  rw [turn_one c p s h₁] at hamounts
  have hx := toSInt16_bounds p.sdx
  have hy := toSInt16_bounds p.sdy
  obtain hvertical | hhorizontal := hcircular
  · have hV : IsEdgeV s.touchmode := .inr hvertical
    have hH : ¬IsEdgeH s.touchmode := by
      rw [hvertical]
      decide
    have hother : ¬s.touchmode = .MODE_CIR_HSCROLL := by
      rw [hvertical]
      decide
    obtain ⟨hleast, hsigned⟩ := hopposes.vertical hV
    have hzero := reversed_eq_zero_iff (by omega) hsigned
    rw [if_neg hH, if_pos hV] at hamounts
    constructor
    · rw [hamounts, circleX, if_pos h₁, if_neg hother]
      exact iff_of_true rfl rfl
    · rw [hamounts, circleY, if_pos h₁, if_pos hvertical]
      exact hzero
    · rw [hamounts, circleLevel, if_pos h₁, if_neg hother]
  · have hH : IsEdgeH s.touchmode := .inr hhorizontal
    have hother : ¬s.touchmode = .MODE_CIR_VSCROLL := by
      rw [hhorizontal]
      decide
    obtain ⟨hleast, hsigned⟩ := hopposes.horizontal hH
    have hzero := reversed_eq_zero_iff (by omega) hsigned
    rw [if_pos hH] at hamounts
    constructor
    · rw [hamounts, circleX, if_pos h₁, if_pos hhorizontal]
      exact hzero
    · rw [hamounts, circleY, if_pos h₁, if_neg hother]
      exact iff_of_true rfl rfl
    · rw [hamounts, circleLevel, if_pos h₁, if_pos hhorizontal]

theorem circleAmounts_two (h₂ : p.cFingers = 2) (hopposes : Opposes2F c p s) (hcircular : IsCircular (mode2F c p s)) :
    CircleAmounts c p s := by
  have h₁ : p.cFingers ≠ 1 := by
    rw [h₂]
    decide
  have hscroll : mode2F c p s ≠ .MODE_HSCROLL := by
    rintro hmode
    rw [hmode] at hcircular
    obtain hvertical | hhorizontal := hcircular
    · cases hvertical
    · cases hhorizontal
  have hdelta : verticalDelta c p s = smoothedY c p s := if_pos hscroll
  have hx := smoothedX_bounds hopposes.smoothX.2
  have hy := smoothedY_bounds hopposes.smoothY.2
  have hvertical := hopposes.vertical
  rw [hdelta] at hvertical
  constructor
  · rw [amounts_two c p s h₂, circleX, if_neg h₁, if_pos h₂]
    show (if isHorizontal c p s then _ else _) = 0 ↔ _
    split
    · next hturn => exact reversed_eq_zero_iff hx (hopposes.horizontal hturn)
    · exact Iff.rfl
  · rw [amounts_two c p s h₂, circleY, if_neg h₁, if_pos h₂]
    show (if isVertical c p s then reversed p.sMode (verticalDelta c p s) else _) = 0 ↔ _
    rw [hdelta]
    split
    · next hturn => exact reversed_eq_zero_iff hy (hvertical hturn)
    · exact Iff.rfl
  · rw [amounts_two c p s h₂, circleLevel, if_neg h₁, if_pos h₂]
    unfold levelDelta
    show (if isVertical c p s ∧ mode2F c p s ≠ .MODE_HSCROLL then level p.sMode (reversed p.sMode (verticalDelta c p s))
      else if isHorizontal c p s then _ else 0) = _
    rw [hdelta]
    split_ifs with hturn hturn'
    · rfl
    · rfl
    · have hneither : isVertical c p s = true := by
        unfold isVertical
        simp [hturn']
      exact absurd ⟨hneither, hscroll⟩ hturn

theorem circleAmounts_other (h₁ : p.cFingers ≠ 1) (h₂ : p.cFingers ≠ 2) : CircleAmounts c p s := by
  obtain ⟨i, sDelta, hs⟩ := turns_other c p s h₁ h₂ (p.cFingers.toNat + 1) (start s)
  have hamounts : s.amounts c p = { start s with i := i, sDelta := sDelta } := hs
  constructor
  · rw [hamounts, circleX, if_neg h₁, if_neg h₂]
    exact iff_of_true rfl rfl
  · rw [hamounts, circleY, if_neg h₁, if_neg h₂]
    exact iff_of_true rfl rfl
  · rw [hamounts, circleLevel, if_neg h₁, if_neg h₂]
    rfl

theorem circleAmounts (h : Opposes c p s) (hcircular : IsCircular (packetMode c p s)) : CircleAmounts c p s := by
  unfold packetMode at hcircular
  by_cases h₁ : p.cFingers = 1
  · rw [if_neg (by rw [h₁]; decide)] at hcircular
    exact circleAmounts_one h₁ (h.one h₁) hcircular
  · by_cases h₂ : p.cFingers = 2
    · rw [if_pos h₂] at hcircular
      exact circleAmounts_two h₂ (h.two h₂) hcircular
    · exact circleAmounts_other h₁ h₂

end ScrollAmounts

namespace ScrollWork

/-- "first 15 packets with small deltas" of two fingers. -/
def Ignored (c : ScrollControl) (p : ScrollPacket) (packetsCount level : UInt8) (totalDx totalDy : UInt32) : Prop :=
  p.cFingers = 2 ∧ packetsCount < 15 ∧ level < 2 ∧ totalDx.toNat < c.noiseMultiTapDelta.toNat ∧
    totalDy.toNat < c.noiseMultiTapDelta.toNat

/-- The fingers rest, and their level is dropped. -/
def Rests (c : ScrollControl) (p : ScrollPacket) : Prop :=
  p.holdTime > c.idleFingDetectTimeout ∧
    (p.cFingers = 1 ∧ (c.hasEdgeCont || c.hasEdgeSling) = false ∨ p.cFingers = 2 ∧ (c.has2FCont || c.has2FSling) = false)

variable {c : ScrollControl} {p : ScrollPacket} {w : ScrollWork}

def IsIgnored (c : ScrollControl) (p : ScrollPacket) (w : ScrollWork) : Prop :=
  Ignored c p w.packetsCount w.maxLevelReached w.totalDx w.totalDy

/-- What the steps before a circular scroll leave of `w`. -/
structure Circling (c : ScrollControl) (p : ScrollPacket) (w w' : ScrollWork) : Prop where
  touchmode : w'.touchmode = w.touchmode
  fing : w'.fing = w.fing
  edgeCirDxy : w'.edgeCirDxy = w.edgeCirDxy
  s_dx : w'.s_dx = 0 ↔ IsIgnored c p w ∨ w.s_dx = 0
  s_dy : w'.s_dy = 0 ↔ IsIgnored c p w ∨ w.s_dy = 0
  maxLevelReached : w'.maxLevelReached = 0 ↔ Rests c p ∨ w.maxLevelReached = 0

theorem maxLevelReached_stopIdle (hasCont hasSling : Bool) :
    (w.stopIdle c p hasCont hasSling).maxLevelReached = 0 ↔
      p.holdTime > c.idleFingDetectTimeout ∧ (hasCont || hasSling) = false ∨ w.maxLevelReached = 0 := by
  unfold stopIdle
  split
  · next hidle =>
    dsimp only
    split
    · next hhas => simp [hhas]
    · next hhas => simp [hidle, hhas]
  · next hidle => simp [hidle]

theorem stopIdle_same (hasCont hasSling : Bool) :
    let w' := w.stopIdle c p hasCont hasSling
    w'.touchmode = w.touchmode ∧ w'.fing = w.fing ∧ w'.edgeCirDxy = w.edgeCirDxy ∧ w'.s_dx = w.s_dx ∧ w'.s_dy = w.s_dy := by
  dsimp only [stopIdle]
  split
  · exact ⟨rfl, rfl, rfl, rfl, rfl⟩
  · exact ⟨rfl, rfl, rfl, rfl, rfl⟩

theorem trackEdge_circular (h : IsCircular w.touchmode) : w.trackEdge c p = w := by
  unfold trackEdge
  obtain hmode | hmode := h
  · rw [hmode]
  · rw [hmode]

theorem restart_circular (h : IsCircular w.touchmode) : w.restart c p = w := by
  unfold restart
  obtain hmode | hmode := h
  · rw [hmode]
  · rw [hmode]

/-- The packets are only counted, and the last amounts turned. -/
theorem trackDX_same : ∃ dx dy dir countX countY, w.trackDX c p =
    { w with dx := dx, dy := dy, xPacketsDir := dir, dxPacketsCount := countX, dyPacketsCount := countY } := by
  unfold trackDX
  dsimp only
  split
  · split
    · exact ⟨_, _, _, _, _, rfl⟩
    · exact ⟨_, _, _, _, _, rfl⟩
  · exact ⟨_, _, _, _, _, rfl⟩

theorem trackDY_same : ∃ dx dy dir countX countY, w.trackDY c p =
    { w with dx := dx, dy := dy, yPacketsDir := dir, dxPacketsCount := countX, dyPacketsCount := countY } := by
  unfold trackDY
  dsimp only
  split
  · split
    · exact ⟨_, _, _, _, _, rfl⟩
    · exact ⟨_, _, _, _, _, rfl⟩
  · exact ⟨_, _, _, _, _, rfl⟩

theorem circling_ignoreNoise (h₂ : p.cFingers = 2) :
    let w' := ((w.trackDX c p).trackDY c p).ignoreNoise c
    w'.touchmode = w.touchmode ∧ w'.fing = w.fing ∧ w'.edgeCirDxy = w.edgeCirDxy ∧
      (w'.s_dx = 0 ↔ IsIgnored c p w ∨ w.s_dx = 0) ∧ (w'.s_dy = 0 ↔ IsIgnored c p w ∨ w.s_dy = 0) ∧
      w'.maxLevelReached = w.maxLevelReached := by
  obtain ⟨dx, dy, dir, countX, countY, hX⟩ := trackDX_same (c := c) (p := p) (w := w)
  obtain ⟨dx', dy', dir', countX', countY', hY⟩ := trackDY_same (c := c) (p := p) (w := w.trackDX c p)
  rw [hY, hX]
  dsimp only [ignoreNoise]
  split
  · next hnoise =>
    have hignored : IsIgnored c p w := ⟨h₂, hnoise⟩
    exact ⟨rfl, rfl, rfl, iff_of_true rfl (.inl hignored), iff_of_true rfl (.inl hignored), rfl⟩
  · next hnoise =>
    have hnoticed : ¬IsIgnored c p w := fun hignored => hnoise hignored.2
    exact ⟨rfl, rfl, rfl, (or_iff_right hnoticed).symm, (or_iff_right hnoticed).symm, rfl⟩

theorem isCircular_iff : w.isCircular = true ↔ IsCircular w.touchmode := by
  simp [isCircular, IsCircular]

theorem positive_eq_zero_iff {d : Int} (h : -32767 ≤ d ∧ d ≤ 32767) : positive d = 0 ↔ d = 0 := by
  have hneg : toSInt16 (0 - d) = 0 - d := toSInt16_eq_self (by omega)
  unfold positive
  rw [hneg]
  split_ifs <;> omega

theorem negative_eq_zero_iff {d : Int} (h : -32767 ≤ d ∧ d ≤ 32767) : negative d = 0 ↔ d = 0 := by
  have hneg : toSInt16 (0 - d) = 0 - d := toSInt16_eq_self (by omega)
  unfold negative
  rw [hneg]
  split_ifs <;> omega

/-- A turn gives the scroll the direction of its amount, if there is one. -/
theorem turnCircle_eq_zero_iff (h : w.Bounded) :
    ((w.turnCircle c p).s_dx = 0 ↔ w.s_dx = 0) ∧ ((w.turnCircle c p).s_dy = 0 ↔ w.s_dy = 0) ∧
      ((w.turnCircle c p).edgeCirDxy = 0 ↔
        if w.isFirstTurn c p || w.isSecondTurn c p then
          (if w.touchmode = .MODE_CIR_VSCROLL then w.s_dy else w.s_dx) = 0
        else w.edgeCirDxy = 0) ∧
      (w.turnCircle c p).maxLevelReached = w.maxLevelReached := by
  have hx := positive_eq_zero_iff h.s_dx
  have hx' := negative_eq_zero_iff h.s_dx
  have hy := positive_eq_zero_iff h.s_dy
  have hy' := negative_eq_zero_iff h.s_dy
  unfold turnCircle
  split_ifs <;> simp_all

theorem circling_monitor (h : IsCircular w.touchmode) : Circling c p w (w.monitor c p) := by
  unfold monitor
  by_cases h₁ : p.cFingers = 1
  · have h₂ : p.cFingers ≠ 2 := by
      rw [h₁]
      decide
    have hnoticed : ¬IsIgnored c p w := fun hignored => h₂ hignored.1
    rw [if_pos h₁, trackEdge_circular h]
    obtain ⟨hmode, hfing, hdxy, hx, hy⟩ := stopIdle_same (c := c) (p := p) (w := w) c.hasEdgeCont c.hasEdgeSling
    refine ⟨hmode, hfing, hdxy, ?_, ?_, ?_⟩
    · rw [hx, or_iff_right hnoticed]
    · rw [hy, or_iff_right hnoticed]
    · rw [maxLevelReached_stopIdle]
      simp [Rests, h₁]
  · by_cases h₂ : p.cFingers = 2
    · rw [if_neg h₁, if_pos h₂]
      obtain ⟨hmode, hfing, hdxy, hx, hy, hlevel⟩ := circling_ignoreNoise (c := c) (w := w) h₂
      obtain ⟨hmode', hfing', hdxy', hx', hy'⟩ := stopIdle_same (c := c) (p := p)
        (w := ((w.trackDX c p).trackDY c p).ignoreNoise c) c.has2FCont c.has2FSling
      refine ⟨hmode'.trans hmode, hfing'.trans hfing, hdxy'.trans hdxy, ?_, ?_, ?_⟩
      · rw [hx', hx]
      · rw [hy', hy]
      · rw [maxLevelReached_stopIdle, hlevel]
        simp [Rests, h₂]
    · have hnoticed : ¬IsIgnored c p w := fun hignored => h₂ hignored.1
      have hmoves : ¬Rests c p := fun hrests => hrests.2.elim (fun hone => h₁ hone.1) fun htwo => h₂ htwo.1
      rw [if_neg h₁, if_neg h₂]
      exact ⟨rfl, rfl, rfl, (or_iff_right hnoticed).symm, (or_iff_right hnoticed).symm, (or_iff_right hmoves).symm⟩

end ScrollWork

namespace ScrollState

variable {c : ScrollControl} {p : ScrollPacket} {s : ScrollState}

/-- The highest level, with that of the packet. -/
def circleHighest (c : ScrollControl) (p : ScrollPacket) (s : ScrollState) : UInt8 :=
  if s.maxLevelReached < ScrollAmounts.circleLevel c p s then ScrollAmounts.circleLevel c p s else s.maxLevelReached

def CircleIgnored (c : ScrollControl) (p : ScrollPacket) (s : ScrollState) : Prop :=
  ScrollWork.Ignored c p s.packetsCount (s.circleHighest c p) (s.totalDx + UInt32.ofNat p.sdx.natAbs)
    (s.totalDy + UInt32.ofNat p.sdy.natAbs)

/-- The deltas turn around the center, one way or the other. -/
def turnsCircle (c : ScrollControl) (p : ScrollPacket) (s : ScrollState) : Bool :=
  let w : ScrollWork := { s with s_dx := 0, s_dy := 0, scrollDifflvl := 0 }
  w.isFirstTurn c p || w.isSecondTurn c p

/-- A fast circular scroll that has no direction: the deltas turn neither way and did not before, or they turn and
the delta that is followed is zero. -/
structure CircleSlips (c : ScrollControl) (p : ScrollPacket) (s : ScrollState) : Prop where
  circular : IsCircular (ScrollAmounts.packetMode c p s)
  moves : ScrollAmounts.circleY c p s ≠ 0 ∨ ScrollAmounts.circleX c p s ≠ 0
  noticed : ¬CircleIgnored c p s
  fast : ScrollWork.isFast c p = true
  undirected :
    if s.turnsCircle c p then
      (if ScrollAmounts.packetMode c p s = .MODE_CIR_VSCROLL then ScrollAmounts.circleY c p s
        else ScrollAmounts.circleX c p s) = 0
    else s.edgeCirDxy = 0
  level : ¬(ScrollWork.Rests c p ∨ s.circleHighest c p = 0)

theorem circling_monitored (hopposes : ScrollAmounts.Opposes c p s)
    (hcircular : IsCircular (ScrollAmounts.packetMode c p s)) :
    (s.monitored c p).touchmode = ScrollAmounts.packetMode c p s ∧ (s.monitored c p).fing = s.fing ∧
      (s.monitored c p).edgeCirDxy = s.edgeCirDxy ∧
      ((s.monitored c p).s_dx = 0 ↔ CircleIgnored c p s ∨ ScrollAmounts.circleX c p s = 0) ∧
      ((s.monitored c p).s_dy = 0 ↔ CircleIgnored c p s ∨ ScrollAmounts.circleY c p s = 0) ∧
      ((s.monitored c p).maxLevelReached = 0 ↔ ScrollWork.Rests c p ∨ s.circleHighest c p = 0) := by
  obtain ⟨hx, hy, hlevel⟩ := ScrollAmounts.circleAmounts hopposes hcircular
  have hmode := ScrollAmounts.touchmode_amounts c p s
  have hcircular' : IsCircular (s.accelerate c p).touchmode := by
    show IsCircular (s.amounts c p).touchmode
    rwa [hmode]
  have hmeasured : IsCircular ((s.accelerate c p).measure p).touchmode := hcircular'
  have hcircling := ScrollWork.circling_monitor (c := c) (p := p) hmeasured
  have hmonitored : s.monitored c p = ((s.accelerate c p).measure p).monitor c p := by
    unfold monitored
    rw [ScrollWork.restart_circular hcircular']
  have hhighest : ((s.accelerate c p).measure p).maxLevelReached = s.circleHighest c p := by
    unfold circleHighest
    rw [← hlevel]
    rfl
  have hignored : ScrollWork.IsIgnored c p ((s.accelerate c p).measure p) ↔ CircleIgnored c p s := by
    unfold ScrollWork.IsIgnored
    rw [hhighest]
    rfl
  rw [← hmonitored] at hcircling
  have hsame := hcircling.touchmode
  have hsx := hcircling.s_dx
  have hsy := hcircling.s_dy
  have hhigh := hcircling.maxLevelReached
  rw [hignored] at hsx hsy
  rw [hhighest] at hhigh
  exact ⟨hsame.trans hmode, hcircling.fing, hcircling.edgeCirDxy, hsx.trans (or_congr_right hx),
    hsy.trans (or_congr_right hy), hhigh⟩

theorem slips_iff (hbounded : (s.monitored c p).Bounded) (hopposes : ScrollAmounts.Opposes c p s) :
    ScrollWork.Slips c p (s.monitored c p) ↔ CircleSlips c p s := by
  by_cases hcircular : IsCircular (ScrollAmounts.packetMode c p s)
  · obtain ⟨hmode, hfing, hdxy, hsx, hsy, hhigh⟩ := circling_monitored hopposes hcircular
    obtain ⟨hx, hy, hdirection, hlevel⟩ := ScrollWork.turnCircle_eq_zero_iff (c := c) (p := p) hbounded
    have hturns : ((s.monitored c p).isFirstTurn c p || (s.monitored c p).isSecondTurn c p) = s.turnsCircle c p := by
      unfold turnsCircle ScrollWork.isFirstTurn ScrollWork.isSecondTurn
      rw [hfing]
    rw [hturns, hmode, hdxy] at hdirection
    unfold ScrollWork.Slips ScrollWork.Undirected
    rw [ScrollWork.isCircular_iff, hmode, hdirection, hlevel, ne_eq, ne_eq, ne_eq, hx, hy, hhigh]
    by_cases hignored : CircleIgnored c p s
    · refine iff_of_false (fun hslips => ?_) fun hslips => hslips.noticed hignored
      obtain hmoves | hmoves := hslips.2.1
      · exact hmoves (hsy.mpr (.inl hignored))
      · exact hmoves (hsx.mpr (.inl hignored))
    · rw [or_iff_right hignored] at hsx hsy
      have haxis : ∀ m : TouchPadModes,
          (if m = .MODE_CIR_VSCROLL then (s.monitored c p).s_dy else (s.monitored c p).s_dx) = 0 ↔
            (if m = .MODE_CIR_VSCROLL then ScrollAmounts.circleY c p s else ScrollAmounts.circleX c p s) = 0 := by
        intro m
        split
        · exact hsy
        · exact hsx
      rw [haxis, hsx, hsy]
      constructor
      · rintro ⟨hcircle, hmoves, hfast, hundirected, hlevel⟩
        exact ⟨hcircle, hmoves, hignored, hfast, hundirected, hlevel⟩
      · intro hslips
        exact ⟨hslips.circular, hslips.moves, hslips.fast, hslips.undirected, hslips.level⟩
  · have hmode : (s.monitored c p).touchmode = ScrollAmounts.packetMode c p s :=
      (monitored_keeps c p s).touchmode.trans (ScrollAmounts.touchmode_amounts c p s)
    refine iff_of_false (fun hslips => hcircular ?_) fun hslips => hcircular hslips.circular
    rw [← hmode]
    exact ScrollWork.isCircular_iff.mp hslips.1

/-- The other way the packet has the same mode, level and counters, and it scrolls by
the opposite amounts. -/
def Reversible (c : ScrollControl) (p : ScrollPacket) (s : ScrollState) : Prop :=
  ScrollAmounts.Opposite (s.opposite.amounts c p.opposite) (s.amounts c p) ∧
    s.opposite.processScroll c p.opposite = (s.processScroll c p).opposite

/-- What the last step is given of the last delta. -/
theorem sDelta_opposite (hamounts : ScrollAmounts.Opposite (s.opposite.amounts c p.opposite) (s.amounts c p))
    (hlevel : (s.monitored c p).scrollDifflvl ≠ 0) (hedge : (s.monitored c p).isEdgeScroll = true) :
    (s.opposite.amounts c p.opposite).sDelta = -(s.amounts c p).sDelta := by
  have hkeeps := monitored_keeps c p s
  have hmode : (s.monitored c p).touchmode = (s.amounts c p).touchmode := hkeeps.touchmode
  apply ScrollAmounts.Opposite.sDelta c p s hamounts (hkeeps.level hlevel)
  unfold ScrollWork.isEdgeScroll at hedge
  rw [hmode] at hedge
  obtain hvertical | hhorizontal := Bool.or_eq_true_iff.mp hedge
  · exact .inr (.inl (of_decide_eq_true hvertical))
  · exact .inl (.inl (of_decide_eq_true hhorizontal))

theorem reversible_iff (h : s.HasOpposite) :
    Reversible c p s ↔ ScrollAmounts.Opposes c p s ∧ ¬CircleSlips c p s := by
  unfold Reversible
  rw [ScrollAmounts.amounts_opposite_iff]
  apply and_congr_right
  intro hopposes
  have hamounts := (ScrollAmounts.amounts_opposite_iff c p s).mpr hopposes
  have hbounded := accelerate_bounded h hamounts
  have hmonitor : (s.monitored c p).Bounded := hbounded.restart.measure.monitor
  rw [← slips_iff hmonitor hopposes]
  unfold processScroll
  rw [monitored_opposite hbounded hamounts]
  constructor
  · intro hsame hslips
    exact ScrollWork.scroll_slips _ _ hmonitor hslips (congrArg ScrollState.edgeCirDxy hsame)
  · intro hslips
    exact congrArg ScrollWork.toScrollState (ScrollWork.scroll_opposite hmonitor hslips (sDelta_opposite hamounts))

/-- The preferences of `Info.plist`, on ELAN v4. -/
def shipped : ScrollControl :=
  { isHScrollEnabled := true, isVScrollEnabled := true, smoothSamples := 3, idleFingMaxDelta := 10
    directionSamples := 5, contMaxDeltaEdge := 10, contMaxDelta2F := 20, edgeCirDelta := 10
    idleFingDetectTimeout := 500000000, hasEdgeCont := true, hasEdgeSling := false, has2FCont := true
    has2FSling := false, accelModeEdge := 0, noiseMultiTapDelta := 55, xcenter := 1000, ycenter := 600 }

/-- The state at the start of a scroll, with the sums of the samples of both fingers. -/
def begun (touchmode : TouchPadModes) (sdx sdy : Int) : ScrollState :=
  { touchmode := touchmode, fing := fun _ => { (default : Finger) with sdx := sdx, sdy := sdy }
    pSmoothX := 0, pSmoothY := 0, dx := 0, dy := 0, edgeCirDxy := 0, xPacketsDir := 0, yPacketsDir := 0
    dxPacketsCount := 0, dyPacketsCount := 0, totalDx := 0, totalDy := 0, maxLevelReached := 0, packetsCount := 20
    noInertia := false, doCont := false, lastSample := fun _ => (0, 0), scrollSample := 0, skippedDx := fun _ => 0
    skippedDy := fun _ => 0, skipSample := 0, sent := [] }

def packet (sMode cFingers : UInt8) (sdx sdy : Int) : ScrollPacket :=
  { sMode := sMode, sdx := sdx, sdy := sdy, isZoomConflict := false, cFingers := cFingers, pid := 0, sid := 1
    holdTime := 0 }

/-- Two fingers with super acceleration: one way the level is `252`, the other way `12`. -/
theorem not_reversible_super : (amounts shipped (packet 3 2 0 40) (begun .MODE_IDLE 0 40)).scrollDifflvl = 252 ∧
    ((begun .MODE_IDLE 0 40).opposite.amounts shipped (packet 3 2 0 40).opposite).scrollDifflvl = 12 ∧
    ¬Reversible shipped (packet 3 2 0 40) (begun .MODE_IDLE 0 40) := by
  have hlevel : (amounts shipped (packet 3 2 0 40) (begun .MODE_IDLE 0 40)).scrollDifflvl = 252 := by decide +kernel
  have hlevel' : ((begun .MODE_IDLE 0 40).opposite.amounts shipped (packet 3 2 0 40).opposite).scrollDifflvl = 12 := by
    decide +kernel
  refine ⟨hlevel, hlevel', fun h => ?_⟩
  have hsame := h.1.scrollDifflvl
  rw [hlevel, hlevel'] at hsame
  exact absurd hsame (by decide)

/-- One finger at the edge, optimized. -/
theorem reversible_edge : (begun .MODE_EDGE_VSCROLL 0 0).HasOpposite ∧
    Reversible shipped (packet 0 1 0 60) (begun .MODE_EDGE_VSCROLL 0 0) := by
  have hstate : (begun .MODE_EDGE_VSCROLL 0 0).HasOpposite := ⟨by decide, by decide⟩
  refine ⟨hstate, (reversible_iff hstate).mpr ⟨⟨fun _ => ?_, fun htwo => absurd htwo (by decide)⟩, ?_⟩⟩
  · exact ⟨fun hedge => absurd hedge (by decide), fun _ => ⟨by decide +kernel, fun _ => by decide +kernel⟩⟩
  · exact fun hslips => absurd hslips.circular (by decide +kernel)

end ScrollState
end ApplePS2
