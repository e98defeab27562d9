import ApplePS2.Touchpad.ScrollAmounts

/- The loop that determines the amounts of a scroll, for a packet and for the same packet
   the other way.

   1. `amounts_one`, `turns_other`, `amounts_two`: what it leaves for one finger, for two and
      for any other count.
   2. `amounts_opposite_iff`: the packets whose amounts are exactly negated. -/
namespace ApplePS2
namespace ScrollAmounts

variable (c : ScrollControl) (p : ScrollPacket) (s : ScrollState)

/-! The turns of the loop. -/

theorem choose_i (a : ScrollAmounts) : a.i ≤ (a.choose c p s).i := by
  unfold choose choose1F choose2F smooth
  grind

theorem modify_i (a : ScrollAmounts) : a.i ≤ (a.modify c p).i := by
  unfold modify modify1F modify2F
  grind

theorem turn_i (a : ScrollAmounts) : a.i < (a.turn c p s).i := by
  have hmodify := modify_i c p { a.choose c p s with sDelta := reversed p.sMode (a.choose c p s).sDelta }
  exact Nat.lt_succ_of_le ((choose_i c p s a).trans hmodify)

theorem turns_succ (fuel : Nat) (a : ScrollAmounts) : turns c p s (fuel + 1) a =
    if (a.turn c p s).i < p.cFingers.toNat then turns c p s fuel (a.turn c p s) else a.turn c p s := rfl

/-! One finger. -/

theorem amounts_one (h : p.cFingers = 1) : s.amounts c p = (start s).turn c p s := by
  have hstop : ¬((start s).turn c p s).i < 1 := Nat.not_lt.mpr (turn_i c p s (start s))
  unfold ScrollState.amounts
  rw [turns_succ, h]
  exact if_neg hstop

/-- What its turn leaves. -/
theorem turn_one (h : p.cFingers = 1) :
    (start s).turn c p s =
      if IsEdgeH s.touchmode then
        let sDelta := reversed p.sMode (toSInt16 p.sdx)
        { start s with i := 1, sDelta := sDelta, s_dx := sDelta, scrollDifflvl := magnitude sDelta }
      else if IsEdgeV s.touchmode then
        let sDelta := reversed p.sMode (toSInt16 p.sdy)
        { start s with i := 1, sDelta := sDelta, s_dy := sDelta, scrollDifflvl := magnitude sDelta }
      else
        let sDelta := reversed p.sMode 0
        { start s with i := 1, sDelta := sDelta, scrollDifflvl := magnitude sDelta } := by
  unfold turn choose choose1F modify modify1F start
  simp only [if_pos h]
  split_ifs <;> rfl

/-- The delta that a scroll at the edge follows has an opposite, and is accelerated by its sign. -/
structure Opposes1F : Prop where
  horizontal : IsEdgeH s.touchmode → toSInt16 p.sdx ≠ -32768 ∧ Signed p.sMode (toSInt16 p.sdx)
  vertical : IsEdgeV s.touchmode → toSInt16 p.sdy ≠ -32768 ∧ Signed p.sMode (toSInt16 p.sdy)

theorem opposite_one_iff (h : p.cFingers = 1) :
    Opposite (s.opposite.amounts c p.opposite) (s.amounts c p) ↔ Opposes1F p s := by
  have h' : p.opposite.cFingers = 1 := h
  have hx := reversed_toSInt16_neg_iff p.sMode p.sdx
  have hy := reversed_toSInt16_neg_iff p.sMode p.sdy
  have hmode : s.opposite.touchmode = s.touchmode := rfl
  rw [amounts_one c p s h, amounts_one c p.opposite s.opposite h', turn_one c p s h,
    turn_one c p.opposite s.opposite h', hmode]
  by_cases hH : IsEdgeH s.touchmode
  · have hV : ¬IsEdgeV s.touchmode := by
      obtain hedge | hcir := hH
      · rw [hedge]
        decide
      · rw [hcir]
        decide
    rw [if_pos hH, if_pos hH]
    constructor
    · intro hopposite
      exact ⟨fun _ => hx.mp hopposite.s_dx, fun hedge => absurd hedge hV⟩
    · intro hopposes
      have hneg := hx.mpr (hopposes.horizontal hH)
      exact ⟨rfl, rfl, rfl, hneg, rfl, (congrArg magnitude hneg).trans (magnitude_neg _)⟩
  · rw [if_neg hH, if_neg hH]
    by_cases hV : IsEdgeV s.touchmode
    · rw [if_pos hV, if_pos hV]
      constructor
      · intro hopposite
        exact ⟨fun hedge => absurd hedge hH, fun _ => hy.mp hopposite.s_dy⟩
      · intro hopposes
        have hneg := hy.mpr (hopposes.vertical hV)
        exact ⟨rfl, rfl, rfl, rfl, hneg, (congrArg magnitude hneg).trans (magnitude_neg _)⟩
    · rw [if_neg hV, if_neg hV]
      have hopposes : Opposes1F p s := ⟨fun hedge => absurd hedge hH, fun hedge => absurd hedge hV⟩
      exact iff_of_true ⟨rfl, rfl, rfl, rfl, rfl, rfl⟩ hopposes

/-! More fingers, or none. -/

theorem turns_other (h₁ : p.cFingers ≠ 1) (h₂ : p.cFingers ≠ 2) (fuel : Nat) (a : ScrollAmounts) :
    ∃ i sDelta, turns c p s fuel a = { a with i := i, sDelta := sDelta } := by
  induction fuel generalizing a with
  | zero => exact ⟨a.i, a.sDelta, rfl⟩
  | succ fuel ih =>
    have hturn : a.turn c p s = { a with i := a.i + 1, sDelta := reversed p.sMode a.sDelta } := by
      unfold turn choose modify
      simp only [if_neg h₁, if_neg h₂]
    rw [turns_succ, hturn]
    split
    · obtain ⟨i, sDelta, hrest⟩ := ih { a with i := a.i + 1, sDelta := reversed p.sMode a.sDelta }
      exact ⟨i, sDelta, hrest⟩
    · exact ⟨_, _, rfl⟩

theorem opposite_other (h₁ : p.cFingers ≠ 1) (h₂ : p.cFingers ≠ 2) :
    Opposite (s.opposite.amounts c p.opposite) (s.amounts c p) := by
  obtain ⟨i, sDelta, hs⟩ := turns_other c p s h₁ h₂ (p.cFingers.toNat + 1) (start s)
  obtain ⟨i', sDelta', hs'⟩ :=
    turns_other c p.opposite s.opposite h₁ h₂ (p.cFingers.toNat + 1) (start s.opposite)
  unfold ScrollState.amounts
  rw [hs]
  show Opposite (turns c p.opposite s.opposite (p.cFingers.toNat + 1) (start s.opposite)) _
  rw [hs']
  exact ⟨rfl, rfl, rfl, rfl, rfl, rfl⟩

/-! Two fingers. -/

def mode2F : TouchPadModes := chosenMode c p s s.touchmode

def smoothedX : Int := smoothed c ((s.fing p.pid).sdx + (s.fing p.sid).sdx) p.sdx s.pSmoothX
def smoothedY : Int := smoothed c ((s.fing p.pid).sdy + (s.fing p.sid).sdy) p.sdy s.pSmoothY

/-- A turn processes the horizontal delta. -/
def isHorizontal : Bool := c.isHScrollEnabled && mode2F c p s ≠ .MODE_VSCROLL

/-- A turn processes the vertical delta. -/
def isVertical : Bool := !isHorizontal c p s || c.isVScrollEnabled

/-- What that turn follows: in the horizontal mode the delta that is there already. -/
def verticalDelta : Int :=
  if mode2F c p s ≠ .MODE_HSCROLL then smoothedY c p s
  else if isHorizontal c p s then reversed p.sMode (smoothedX c p s)
  else 0

def amounts2F : ScrollAmounts :=
  let x := reversed p.sMode (smoothedX c p s)
  let y := reversed p.sMode (verticalDelta c p s)
  { touchmode := mode2F c p s
    pSmoothX := smoothedX c p s
    pSmoothY := smoothedY c p s
    i := if isHorizontal c p s || c.isVScrollEnabled then 2 else 3
    sDelta := if isVertical c p s then y else x
    s_dx := if isHorizontal c p s then x else smoothedX c p s
    s_dy := if isVertical c p s then y else smoothedY c p s
    scrollDifflvl :=
      if isVertical c p s ∧ mode2F c p s ≠ .MODE_HSCROLL then level p.sMode y
      else if isHorizontal c p s then level p.sMode x
      else 0 }

/-- The mode that is chosen is chosen again. -/
theorem chosenMode_again (touchmode : TouchPadModes) :
    chosenMode c p s (chosenMode c p s touchmode) = chosenMode c p s touchmode := by
  unfold chosenMode
  grind

theorem smooth_first :
    ({ start s with touchmode := mode2F c p s } : ScrollAmounts).smooth c p s =
      { touchmode := mode2F c p s, pSmoothX := smoothedX c p s, pSmoothY := smoothedY c p s
        i := if isHorizontal c p s then 0 else 1, sDelta := 0, s_dx := smoothedX c p s, s_dy := smoothedY c p s
        scrollDifflvl := 0 } := by
  have hskip : (if !c.isHScrollEnabled || mode2F c p s = .MODE_VSCROLL then 1 else 0) =
      if isHorizontal c p s then 0 else 1 := by
    unfold isHorizontal
    cases c.isHScrollEnabled with
    | false => rfl
    | true => by_cases hmode : mode2F c p s = .MODE_VSCROLL <;> simp [hmode]
  rw [← hskip]
  rfl

/-- What the first turn follows. -/
theorem choose_first :
    (start s).choose2F c p s =
      { touchmode := mode2F c p s, pSmoothX := smoothedX c p s, pSmoothY := smoothedY c p s
        i := if isHorizontal c p s then 0 else 1
        sDelta := if isHorizontal c p s then smoothedX c p s else verticalDelta c p s
        s_dx := smoothedX c p s, s_dy := smoothedY c p s, scrollDifflvl := 0 } := by
  have hfirst : (start s).choose2F c p s =
      let a := ({ start s with touchmode := mode2F c p s } : ScrollAmounts).smooth c p s
      if a.i = 0 then { a with sDelta := a.s_dx }
      else if a.touchmode ≠ .MODE_HSCROLL then { a with sDelta := a.s_dy }
      else a := rfl
  rw [hfirst, smooth_first]
  unfold verticalDelta
  cases isHorizontal c p s with
  | true => rfl
  | false => by_cases hmode : mode2F c p s = .MODE_HSCROLL <;> simp [hmode]

/-- The turn in which the smoothed deltas are new. -/
theorem turn_first (h : p.cFingers = 2) :
    (start s).turn c p s =
      if isHorizontal c p s then
        let x := reversed p.sMode (smoothedX c p s)
        { touchmode := mode2F c p s, pSmoothX := smoothedX c p s, pSmoothY := smoothedY c p s
          i := if c.isVScrollEnabled then 1 else 2, sDelta := x, s_dx := x, s_dy := smoothedY c p s
          scrollDifflvl := level p.sMode x }
      else
        let y := reversed p.sMode (verticalDelta c p s)
        { touchmode := mode2F c p s, pSmoothX := smoothedX c p s, pSmoothY := smoothedY c p s
          i := if c.isVScrollEnabled then 2 else 3, sDelta := y, s_dx := smoothedX c p s, s_dy := y
          scrollDifflvl := if mode2F c p s ≠ .MODE_HSCROLL then level p.sMode y else 0 } := by
  have hone : p.cFingers ≠ 1 := by
    rw [h]
    decide
  unfold turn choose modify
  simp only [if_neg hone, if_pos h, choose_first, modify2F]
  cases isHorizontal c p s with
  | true => cases c.isVScrollEnabled <;> rfl
  | false =>
    by_cases hmode : mode2F c p s = .MODE_HSCROLL
    · cases c.isVScrollEnabled <;> simp [hmode]
    · cases c.isVScrollEnabled <;> simp [hmode]

/-- The turn for the vertical delta, behind that for the horizontal one. -/
theorem turn_second (h : p.cFingers = 2) {a : ScrollAmounts} (hi : a.i = 1) (hV : c.isVScrollEnabled = true)
    (hmode : a.touchmode = mode2F c p s) :
    a.turn c p s =
      let y := reversed p.sMode (if mode2F c p s ≠ .MODE_HSCROLL then a.s_dy else a.sDelta)
      { a with
        i := 2
        sDelta := y
        s_dy := y
        scrollDifflvl := if mode2F c p s ≠ .MODE_HSCROLL then level p.sMode y else a.scrollDifflvl } := by
  have hone : p.cFingers ≠ 1 := by
    rw [h]
    decide
  have hagain : chosenMode c p s (mode2F c p s) = mode2F c p s := chosenMode_again c p s s.touchmode
  have hlater : (1 : Nat) ≠ 0 := by decide
  unfold turn choose modify choose2F modify2F
  simp only [if_neg hone, if_pos h, hmode, hagain, hi, if_neg hlater, hV]
  by_cases hscroll : mode2F c p s = .MODE_HSCROLL
  · simp [hscroll]
  · simp [hscroll]

theorem amounts_two (h : p.cFingers = 2) : s.amounts c p = amounts2F c p s := by
  have hcount : p.cFingers.toNat = 2 := by
    rw [h]
    rfl
  unfold ScrollState.amounts
  rw [turns_succ, hcount, turn_first c p s h]
  unfold amounts2F isVertical
  cases hhorizontal : isHorizontal c p s with
  | false =>
    have hend : ¬(if c.isVScrollEnabled then 2 else 3) < 2 := by split <;> decide
    simp [hend]
  | true =>
    cases hV : c.isVScrollEnabled with
    | false => simp
    | true =>
      simp only [if_true, Nat.one_lt_two]
      rw [turns_succ, hcount, turn_second c p s h rfl hV rfl]
      unfold verticalDelta
      simp [hhorizontal]

/-- The delta that the level is taken from. -/
def levelDelta : Int :=
  if isVertical c p s ∧ mode2F c p s ≠ .MODE_HSCROLL then smoothedY c p s
  else if isHorizontal c p s then smoothedX c p s
  else 0

/-- The smoothed deltas have opposites, those that a turn follows are accelerated by
their sign, and the level does not depend on it. -/
structure Opposes2F : Prop where
  smoothX : Smooths c ((s.fing p.pid).sdx + (s.fing p.sid).sdx) p.sdx s.pSmoothX
  smoothY : Smooths c ((s.fing p.pid).sdy + (s.fing p.sid).sdy) p.sdy s.pSmoothY
  horizontal : isHorizontal c p s → Signed p.sMode (smoothedX c p s)
  vertical : isVertical c p s → Signed p.sMode (verticalDelta c p s)
  level : 2 < p.sMode → 32 ∣ (levelDelta c p s).tdiv 10

theorem mode2F_opposite : mode2F c p.opposite s.opposite = mode2F c p s := by
  unfold mode2F chosenMode
  simp only [ScrollPacket.opposite, ScrollState.opposite, Int.natAbs_neg]
  rfl

theorem isHorizontal_opposite : isHorizontal c p.opposite s.opposite = isHorizontal c p s := by
  unfold isHorizontal
  rw [mode2F_opposite]

theorem isVertical_opposite : isVertical c p.opposite s.opposite = isVertical c p s := by
  unfold isVertical
  rw [isHorizontal_opposite]

theorem smoothedX_opposite_iff : smoothedX c p.opposite s.opposite = -smoothedX c p s ↔
    Smooths c ((s.fing p.pid).sdx + (s.fing p.sid).sdx) p.sdx s.pSmoothX := by
  rw [← smoothed_neg_iff, Int.neg_add]
  rfl

theorem smoothedY_opposite_iff : smoothedY c p.opposite s.opposite = -smoothedY c p s ↔
    Smooths c ((s.fing p.pid).sdy + (s.fing p.sid).sdy) p.sdy s.pSmoothY := by
  rw [← smoothed_neg_iff, Int.neg_add]
  rfl

theorem reversed_bounds (sMode : UInt8) {d : Int} (h : -32767 ≤ d ∧ d ≤ 32767) :
    -32767 ≤ reversed sMode d ∧ reversed sMode d ≤ 32767 := by
  have hbounds := accelerated_bounds sMode h
  rw [reversed_eq sMode h]
  omega

section Smooth

variable {c p s}

theorem smoothedX_bounds (h : smoothedX c p s ≠ -32768) :
    -32767 ≤ smoothedX c p s ∧ smoothedX c p s ≤ 32767 := by
  have hbounds := smoothed_bounds c ((s.fing p.pid).sdx + (s.fing p.sid).sdx) p.sdx s.pSmoothX
  unfold smoothedX at h ⊢
  omega

theorem smoothedY_bounds (h : smoothedY c p s ≠ -32768) :
    -32767 ≤ smoothedY c p s ∧ smoothedY c p s ≤ 32767 := by
  have hbounds := smoothed_bounds c ((s.fing p.pid).sdy + (s.fing p.sid).sdy) p.sdy s.pSmoothY
  unfold smoothedY at h ⊢
  omega

theorem verticalDelta_bounds (hx : smoothedX c p s ≠ -32768) (hy : smoothedY c p s ≠ -32768) :
    -32767 ≤ verticalDelta c p s ∧ verticalDelta c p s ≤ 32767 := by
  unfold verticalDelta
  split
  · exact smoothedY_bounds hy
  · split
    · exact reversed_bounds p.sMode (smoothedX_bounds hx)
    · decide

theorem s_dx_opposite_iff (hx : smoothedX c p s ≠ -32768)
    (hX : smoothedX c p.opposite s.opposite = -smoothedX c p s) :
    (amounts2F c p.opposite s.opposite).s_dx = -(amounts2F c p s).s_dx ↔
      (isHorizontal c p s → Signed p.sMode (smoothedX c p s)) := by
  show (if isHorizontal c p.opposite s.opposite then reversed p.sMode (smoothedX c p.opposite s.opposite)
    else smoothedX c p.opposite s.opposite) =
    -(if isHorizontal c p s then reversed p.sMode (smoothedX c p s) else smoothedX c p s) ↔ _
  rw [isHorizontal_opposite, hX]
  by_cases hhorizontal : isHorizontal c p s = true
  · rw [if_pos hhorizontal, if_pos hhorizontal, reversed_neg_iff p.sMode (smoothedX_bounds hx)]
    exact (imp_iff_right hhorizontal).symm
  · rw [if_neg hhorizontal, if_neg hhorizontal]
    exact iff_of_true rfl fun h => absurd h hhorizontal

theorem verticalDelta_opposite (hx : smoothedX c p.opposite s.opposite = -smoothedX c p s)
    (hy : smoothedY c p.opposite s.opposite = -smoothedY c p s)
    (hsigned : isHorizontal c p s →
      reversed p.sMode (-smoothedX c p s) = -reversed p.sMode (smoothedX c p s)) :
    verticalDelta c p.opposite s.opposite = -verticalDelta c p s := by
  unfold verticalDelta
  rw [mode2F_opposite, isHorizontal_opposite, hx, hy]
  by_cases hmode : mode2F c p s ≠ .MODE_HSCROLL
  · rw [if_pos hmode, if_pos hmode]
  · rw [if_neg hmode, if_neg hmode]
    by_cases hhorizontal : isHorizontal c p s = true
    · rw [if_pos hhorizontal, if_pos hhorizontal]
      exact hsigned hhorizontal
    · rw [if_neg hhorizontal, if_neg hhorizontal]
      rfl

theorem s_dy_opposite_iff (hx : smoothedX c p s ≠ -32768) (hy : smoothedY c p s ≠ -32768)
    (hY : smoothedY c p.opposite s.opposite = -smoothedY c p s)
    (hV : verticalDelta c p.opposite s.opposite = -verticalDelta c p s) :
    (amounts2F c p.opposite s.opposite).s_dy = -(amounts2F c p s).s_dy ↔
      (isVertical c p s → Signed p.sMode (verticalDelta c p s)) := by
  show (if isVertical c p.opposite s.opposite then reversed p.sMode (verticalDelta c p.opposite s.opposite)
    else smoothedY c p.opposite s.opposite) =
    -(if isVertical c p s then reversed p.sMode (verticalDelta c p s) else smoothedY c p s) ↔ _
  rw [isVertical_opposite, hY, hV]
  by_cases hvertical : isVertical c p s = true
  · rw [if_pos hvertical, if_pos hvertical, reversed_neg_iff p.sMode (verticalDelta_bounds hx hy)]
    exact (imp_iff_right hvertical).symm
  · rw [if_neg hvertical, if_neg hvertical]
    exact iff_of_true rfl fun h => absurd h hvertical

/-- Once every delta is opposite, the levels agree exactly if the one that is taken does not
depend on the sign. -/
theorem level_opposite_iff (hx : smoothedX c p s ≠ -32768) (hy : smoothedY c p s ≠ -32768)
    (horizontal : isHorizontal c p s → Signed p.sMode (smoothedX c p s))
    (vertical : isVertical c p s → Signed p.sMode (verticalDelta c p s))
    (hX : smoothedX c p.opposite s.opposite = -smoothedX c p s)
    (hY : verticalDelta c p.opposite s.opposite = -verticalDelta c p s) :
    (amounts2F c p.opposite s.opposite).scrollDifflvl = (amounts2F c p s).scrollDifflvl ↔
      (2 < p.sMode → 32 ∣ (levelDelta c p s).tdiv 10) := by
  have hlevel : ∀ d : Int, -32767 ≤ d ∧ d ≤ 32767 → Signed p.sMode d →
      (level p.sMode (reversed p.sMode (-d)) = level p.sMode (reversed p.sMode d) ↔
        (2 < p.sMode → 32 ∣ d.tdiv 10)) := by
    intro d hd hsigned
    rw [(reversed_neg_iff p.sMode hd).mpr hsigned, level_neg_iff]
    refine imp_congr_right fun hsuper => ?_
    rw [reversed_eq p.sMode hd, accelerated_super hsuper, Int.neg_tdiv, Int.dvd_neg]
  show (if isVertical c p.opposite s.opposite ∧ mode2F c p.opposite s.opposite ≠ .MODE_HSCROLL then _
    else if isHorizontal c p.opposite s.opposite then _ else _) = _ ↔ _
  unfold amounts2F levelDelta
  rw [isVertical_opposite, mode2F_opposite, isHorizontal_opposite, hX, hY]
  by_cases hlast : isVertical c p s ∧ mode2F c p s ≠ .MODE_HSCROLL
  · have hsource : verticalDelta c p s = smoothedY c p s := if_pos hlast.2
    have hsigned := vertical hlast.1
    rw [hsource] at hsigned ⊢
    simp only [if_pos hlast]
    exact hlevel _ (smoothedY_bounds hy) hsigned
  · simp only [if_neg hlast]
    by_cases hhorizontal : isHorizontal c p s = true
    · simp only [if_pos hhorizontal]
      exact hlevel _ (smoothedX_bounds hx) (horizontal hhorizontal)
    · simp only [if_neg hhorizontal]
      exact iff_of_true trivial fun _ => Int.dvd_zero 32

theorem opposite_two_iff (h : p.cFingers = 2) :
    Opposite (s.opposite.amounts c p.opposite) (s.amounts c p) ↔ Opposes2F c p s := by
  have h' : p.opposite.cFingers = 2 := h
  rw [amounts_two c p s h, amounts_two c p.opposite s.opposite h']
  constructor
  · intro hopposite
    have hX := hopposite.pSmoothX
    have hY := hopposite.pSmoothY
    have hx := (smoothedX_opposite_iff c p s).mp hX
    have hy := (smoothedY_opposite_iff c p s).mp hY
    have horizontal := (s_dx_opposite_iff hx.2 hX).mp hopposite.s_dx
    have hV := verticalDelta_opposite hX hY fun h =>
      (reversed_neg_iff p.sMode (smoothedX_bounds hx.2)).mpr (horizontal h)
    have vertical := (s_dy_opposite_iff hx.2 hy.2 hY hV).mp hopposite.s_dy
    have hlevel := (level_opposite_iff hx.2 hy.2 horizontal vertical hX hV).mp hopposite.scrollDifflvl
    exact ⟨hx, hy, horizontal, vertical, hlevel⟩
  · intro hopposes
    obtain ⟨hx, hy, horizontal, vertical, hlevel⟩ := hopposes
    have hX := (smoothedX_opposite_iff c p s).mpr hx
    have hY := (smoothedY_opposite_iff c p s).mpr hy
    have hV := verticalDelta_opposite hX hY fun h =>
      (reversed_neg_iff p.sMode (smoothedX_bounds hx.2)).mpr (horizontal h)
    exact
      { touchmode := mode2F_opposite c p s
        pSmoothX := hX
        pSmoothY := hY
        s_dx := (s_dx_opposite_iff hx.2 hX).mpr horizontal
        s_dy := (s_dy_opposite_iff hx.2 hy.2 hY hV).mpr vertical
        scrollDifflvl := (level_opposite_iff hx.2 hy.2 horizontal vertical hX hV).mpr hlevel }

end Smooth

/-- What the packet and the state have to satisfy. -/
structure Opposes : Prop where
  one : p.cFingers = 1 → Opposes1F p s
  two : p.cFingers = 2 → Opposes2F c p s

/-- The other way the loop decides the same and leaves the opposite amounts. -/
theorem amounts_opposite_iff : Opposite (s.opposite.amounts c p.opposite) (s.amounts c p) ↔ Opposes c p s := by
  by_cases h₁ : p.cFingers = 1
  · have h₂ : p.cFingers ≠ 2 := by
      rw [h₁]
      decide
    rw [opposite_one_iff c p s h₁]
    exact ⟨fun h => ⟨fun _ => h, fun h' => absurd h' h₂⟩, fun h => h.one h₁⟩
  · by_cases h₂ : p.cFingers = 2
    · rw [opposite_two_iff h₂]
      exact ⟨fun h => ⟨fun h' => absurd h' h₁, fun _ => h⟩, fun h => h.two h₂⟩
    · exact iff_of_true (opposite_other c p s h₁ h₂) ⟨fun h => absurd h h₁, fun h => absurd h h₂⟩

/-! What the rest of the packet relies on. -/

theorem reversed_range (sMode : UInt8) (d : Int) : -32768 ≤ reversed sMode d ∧ reversed sMode d ≤ 32767 :=
  toSInt16_bounds _

/-- The amounts are shorts. -/
theorem amounts_range : (-32768 ≤ (s.amounts c p).s_dx ∧ (s.amounts c p).s_dx ≤ 32767) ∧
    (-32768 ≤ (s.amounts c p).s_dy ∧ (s.amounts c p).s_dy ≤ 32767) := by
  have hnone : -32768 ≤ (0 : Int) ∧ (0 : Int) ≤ 32767 := by decide
  by_cases h₁ : p.cFingers = 1
  · rw [amounts_one c p s h₁, turn_one c p s h₁]
    split
    · exact ⟨reversed_range _ _, hnone⟩
    · split
      · exact ⟨hnone, reversed_range _ _⟩
      · exact ⟨hnone, hnone⟩
  · by_cases h₂ : p.cFingers = 2
    · rw [amounts_two c p s h₂]
      refine ⟨?_, ?_⟩
      · show -32768 ≤ (if isHorizontal c p s then _ else _) ∧ (if isHorizontal c p s then _ else _) ≤ (32767 : Int)
        split
        · exact reversed_range _ _
        · exact smoothed_bounds _ _ _ _
      · show -32768 ≤ (if isVertical c p s then _ else _) ∧ (if isVertical c p s then _ else _) ≤ (32767 : Int)
        split
        · exact reversed_range _ _
        · exact smoothed_bounds _ _ _ _
    · obtain ⟨i, sDelta, hs⟩ := turns_other c p s h₁ h₂ (p.cFingers.toNat + 1) (start s)
      unfold ScrollState.amounts
      rw [hs]
      exact ⟨hnone, hnone⟩

/-- Nor does a delta that is negated become the least short. -/
theorem Opposite.bounds (h : Opposite (s.opposite.amounts c p.opposite) (s.amounts c p)) :
    (-32767 ≤ (s.amounts c p).s_dx ∧ (s.amounts c p).s_dx ≤ 32767) ∧
      (-32767 ≤ (s.amounts c p).s_dy ∧ (s.amounts c p).s_dy ≤ 32767) := by
  have hrange := amounts_range c p s
  have hrange' := amounts_range c p.opposite s.opposite
  rw [h.s_dx, h.s_dy] at hrange'
  omega

/-- Where a scroll at the edge reads the last delta, it is one of the amounts. -/
theorem Opposite.sDelta (h : Opposite (s.opposite.amounts c p.opposite) (s.amounts c p))
    (hlevel : (s.amounts c p).scrollDifflvl ≠ 0)
    (hmode : IsEdgeH (s.amounts c p).touchmode ∨ IsEdgeV (s.amounts c p).touchmode) :
    (s.opposite.amounts c p.opposite).sDelta = -(s.amounts c p).sDelta := by
  have hdx := h.s_dx
  have hdy := h.s_dy
  by_cases h₁ : p.cFingers = 1
  · have h₁' : p.opposite.cFingers = 1 := h₁
    have hsame : s.opposite.touchmode = s.touchmode := rfl
    rw [amounts_one c p s h₁, turn_one c p s h₁] at hdx hdy hmode ⊢
    rw [amounts_one c p.opposite s.opposite h₁', turn_one c p.opposite s.opposite h₁', hsame] at hdx hdy ⊢
    by_cases hH : IsEdgeH s.touchmode
    · rw [if_pos hH, if_pos hH] at hdx
      rw [if_pos hH, if_pos hH]
      exact hdx
    · rw [if_neg hH] at hmode
      rw [if_neg hH, if_neg hH] at hdy
      rw [if_neg hH, if_neg hH]
      by_cases hV : IsEdgeV s.touchmode
      · rw [if_pos hV, if_pos hV] at hdy
        rw [if_pos hV, if_pos hV]
        exact hdy
      · rw [if_neg hV] at hmode
        exact absurd hmode (not_or.mpr ⟨hH, hV⟩)
  · by_cases h₂ : p.cFingers = 2
    · have h₂' : p.opposite.cFingers = 2 := h₂
      rw [amounts_two c p s h₂, amounts_two c p.opposite s.opposite h₂'] at hdx hdy ⊢
      unfold amounts2F at hdx hdy ⊢
      simp only [isVertical_opposite, isHorizontal_opposite] at hdx hdy ⊢
      by_cases hvertical : isVertical c p s = true
      · simp only [if_pos hvertical] at hdy ⊢
        exact hdy
      · have hhorizontal : isHorizontal c p s = true := by
          unfold isVertical at hvertical
          cases hfalse : isHorizontal c p s with
          | true => rfl
          | false =>
            rw [hfalse] at hvertical
            exact absurd rfl hvertical
        simp only [if_neg hvertical, if_pos hhorizontal] at hdx ⊢
        exact hdx
    · obtain ⟨i, sDelta, hs⟩ := turns_other c p s h₁ h₂ (p.cFingers.toNat + 1) (start s)
      unfold ScrollState.amounts at hlevel
      rw [hs] at hlevel
      exact absurd rfl hlevel

end ScrollAmounts
end ApplePS2
