import ApplePS2.Decay
import ApplePS2.Touchpad.Pointer

/- The inertia of scrolling: the ticks of the timer that the end of a scroll starts
   (`EnhanceScrollAcceleration`, `ProcessInertia`).

   1. `measure_tick_lt`, `ends`: every chain of ticks ends.
   2. `decays_iff`: the amounts decay, if they fit a short.
   3. `slows_iff`: where one axis moves, the delay does not decrease, exactly if its
      largest multiple fits eight bits. -/
namespace ApplePS2

open Transition Decay

inductive ScrollAxis where
  | vertical | horizontal
  deriving DecidableEq

def ScrollAxis.other : ScrollAxis → ScrollAxis
  | .vertical => .horizontal
  | .horizontal => .vertical

/-- The settings of inertia, and the factor of scrolling with the rounding of its products. -/
structure InertiaSettings where
  inertiaDepth : UInt8
  inertiaDelay : UInt8
  scrollFactor : ℚ
  rounding : Rounding

/-- The deltas are those of the two axes, `inertiaDeltaY` and `inertiaDeltaX`. -/
structure InertialScroll where
  inertiaDelta : ScrollAxis → Int
  curInertiaDelta : ScrollAxis → Int
  inertiaLevel : UInt8
  maxInertiaLevel : UInt8
  /-- The timeout of `_scrollTimer`, in milliseconds, while it is armed. -/
  timeout : Option UInt8
  /-- What the last tick has dispatched; `none` is an amount that does not fit. -/
  dispatched : ScrollAxis → Option Int

namespace InertiaSettings

variable (c : InertiaSettings)

/-- What is dispatched for a delta: one half of the product on the vertical axis, and a quarter on
the horizontal one. -/
def amount (axis : ScrollAxis) (cur : Int) : Option Int :=
  match axis with
  | .vertical => c.rounding.amount c.scrollFactor 2 cur
  | .horizontal => c.rounding.amount c.scrollFactor 4 cur

/-- "Make inertia depth a bit dynamic by dividing our delta into 3" -/
def depthFor (delta cur : Int) : UInt8 :=
  if 100 * (cur.natAbs : Int) > 66 * delta then c.inertiaDepth
  else if 100 * (cur.natAbs : Int) > 33 * delta then c.inertiaDepth + 1
  else c.inertiaDepth - 1

/-- The first of the four levels of the delay. -/
def baseDelay : UInt8 := if c.inertiaDelay < 4 then 1 else c.inertiaDelay / 4

/-- "Split inertial delay into 4 levels to add linear decay" -/
def delayFor (delta cur : Int) : UInt8 :=
  if 4 * cur > 3 * delta then c.baseDelay * 1
  else if 2 * cur > delta then c.baseDelay * 2
  else if 4 * cur > delta then c.baseDelay * 3
  else c.baseDelay * 5

end InertiaSettings

namespace InertialScroll

variable (c : InertiaSettings)

/-- `abs`, assigned to a `SInt16`. -/
def absSInt16 (d : Int) : Int := toSInt16 d.natAbs

/-- One step towards zero. -/
def slowed (cur : Int) : Int := if cur > 0 then cur - 1 else cur + 1

def ProcessInertia (axis : ScrollAxis) (s : InertialScroll) : InertialScroll :=
  let delta := absSInt16 (s.inertiaDelta axis)
  let cur := s.curInertiaDelta axis
  let maxLevel := if s.inertiaLevel = 0 then c.depthFor delta cur else s.maxInertiaLevel
  let level := if s.inertiaLevel < maxLevel then s.inertiaLevel + 1 else 0
  let next := if level = 0 then slowed cur else cur
  { s with
    curInertiaDelta := Function.update s.curInertiaDelta axis next
    inertiaLevel := level
    maxInertiaLevel := maxLevel
    timeout := some (c.delayFor delta (absSInt16 next))
    dispatched := Function.update s.dispatched axis (c.amount axis cur) }

/-- One axis of the tick. -/
def processAxis (axis : ScrollAxis) (s : InertialScroll) : InertialScroll :=
  if s.curInertiaDelta axis ≠ 0 then s.ProcessInertia c axis else s

/-- Without continuous, sling and auto scrolling. -/
def EnhanceScrollAcceleration (s : InertialScroll) : InertialScroll :=
  if s.inertiaDelta .horizontal = 0 ∧ s.inertiaDelta .vertical = 0 then { s with maxInertiaLevel := 0, inertiaLevel := 0 }
  else s |> processAxis c .vertical |> processAxis c .horizontal

/-- The timer fires, and is not stopped by a palm or an accidental input. -/
def fires (s : InertialScroll) (stopped : Bool) : Bool := s.timeout.isSome && !stopped

/-- The timer has fired. -/
def disarm (s : InertialScroll) : InertialScroll := { s with timeout := none, dispatched := fun _ => some 0 }

def tick (s : InertialScroll) (stopped : Bool) : InertialScroll :=
  if s.fires stopped then s.disarm.EnhanceScrollAcceleration c else s.disarm

/-- `*= 2` in a `SInt16`. -/
def doubled (d : Int16) (twice : Bool) : Int := (if twice then d * 2 else d).toInt

/-- The end of a scroll, with the deltas of both axes; the level that is left is set before it is read. -/
def start (twice : Bool) (left : UInt8) (dX dY : Int16) : InertialScroll :=
  let deltas : ScrollAxis → Int := fun
    | .vertical => doubled dY twice
    | .horizontal => doubled dX twice
  { inertiaDelta := deltas, curInertiaDelta := deltas, inertiaLevel := 0, maxInertiaLevel := left
    timeout := if dX ≠ 0 || dY ≠ 0 then some 1 else none, dispatched := fun _ => some 0 }

/-! One axis. -/

variable {c}

theorem slowed_towards (cur : Int) : Towards cur (slowed cur) ∨ cur = 0 := by
  unfold slowed Towards
  split <;> omega

theorem slowed_natAbs {cur : Int} (h : cur ≠ 0) : (slowed cur).natAbs + 1 = cur.natAbs := by
  unfold slowed
  split <;> omega

theorem absSInt16_eq {d : Int} (h : -32768 ≤ d ∧ d ≤ 32767) :
    absSInt16 d = if d = -32768 then -32768 else (d.natAbs : Int) := by
  unfold absSInt16 toSInt16
  rw [Int16.toInt_ofInt, show Int16.size = 65536 from rfl, Int.bmod_def]
  split_ifs <;> omega

theorem amount_zero (axis : ScrollAxis) : c.amount axis 0 = some 0 := by
  cases axis with
  | vertical => exact c.rounding.amount_zero _ _
  | horizontal => exact c.rounding.amount_zero _ _

theorem amount_towards {axis : ScrollAxis} {a b x : Int} (h : Towards a b) (hx : c.amount axis a = some x) :
    ∃ y, c.amount axis b = some y ∧ Towards x y := by
  cases axis with
  | vertical => exact c.rounding.amount_towards _ _ h hx
  | horizontal => exact c.rounding.amount_towards _ _ h hx

/-- Either the level grows, or it begins again and the delta is slowed. -/
theorem process_level (axis : ScrollAxis) (s : InertialScroll) :
    ((s.ProcessInertia c axis).curInertiaDelta axis = s.curInertiaDelta axis ∧
        s.inertiaLevel.toNat < (s.ProcessInertia c axis).inertiaLevel.toNat) ∨
      (s.ProcessInertia c axis).curInertiaDelta axis = slowed (s.curInertiaDelta axis) ∧
        (s.ProcessInertia c axis).inertiaLevel = 0 := by
  unfold ProcessInertia
  dsimp only
  rw [Function.update_self]
  generalize (if s.inertiaLevel = 0 then _ else s.maxInertiaLevel) = maxLevel
  by_cases hlevel : s.inertiaLevel < maxLevel
  · have hnat := UInt8.lt_iff_toNat_lt.mp hlevel
    have hmax := maxLevel.toNat_lt
    have hnext : (s.inertiaLevel + 1).toNat = s.inertiaLevel.toNat + 1 := by
      rw [UInt8.toNat_add, UInt8.toNat_one]
      omega
    have hne : s.inertiaLevel + 1 ≠ 0 := by
      intro h
      rw [h] at hnext
      exact absurd hnext (by simp)
    rw [if_pos hlevel, if_neg hne]
    exact .inl ⟨rfl, by omega⟩
  · rw [if_neg hlevel, if_pos rfl]
    exact .inr ⟨rfl, rfl⟩

theorem process_other {axis b : ScrollAxis} (h : b ≠ axis) (s : InertialScroll) :
    (s.ProcessInertia c axis).curInertiaDelta b = s.curInertiaDelta b := Function.update_of_ne h ..

theorem process_towards {axis : ScrollAxis} {s : InertialScroll} (b : ScrollAxis) :
    Towards (s.curInertiaDelta b) ((s.processAxis c axis).curInertiaDelta b) := by
  unfold processAxis
  split
  · next hmoves =>
    by_cases hb : b = axis
    · subst hb
      obtain ⟨hcur, -⟩ | ⟨hcur, -⟩ := process_level (c := c) b s
      · rw [hcur]
        exact Towards.refl _
      · rw [hcur]
        exact (slowed_towards _).resolve_right hmoves
    · rw [process_other hb]
      exact Towards.refl _
  · exact Towards.refl _

theorem processAxis_other {axis b : ScrollAxis} (h : b ≠ axis) (s : InertialScroll) :
    (s.processAxis c axis).curInertiaDelta b = s.curInertiaDelta b ∧
      (s.processAxis c axis).dispatched b = s.dispatched b := by
  unfold processAxis
  split
  · exact ⟨process_other h s, Function.update_of_ne h ..⟩
  · exact ⟨rfl, rfl⟩

/-- An axis at rest dispatches what a delta of zero would. -/
theorem processAxis_dispatched {axis : ScrollAxis} {s : InertialScroll} (h : s.dispatched axis = some 0) :
    (s.processAxis c axis).dispatched axis = c.amount axis (s.curInertiaDelta axis) := by
  unfold processAxis
  split
  · exact Function.update_self ..
  · next hrest => rw [h, not_not.mp hrest, amount_zero]

theorem processAxis_delta (axis : ScrollAxis) (s : InertialScroll) : (s.processAxis c axis).inertiaDelta = s.inertiaDelta := by
  unfold processAxis
  split <;> rfl

/-! The chain ends. -/

/-- The deltas weigh more than the levels between two of their steps. -/
def measure (s : InertialScroll) : Nat :=
  256 * ((s.curInertiaDelta .vertical).natAbs + (s.curInertiaDelta .horizontal).natAbs) + (255 - s.inertiaLevel.toNat)

theorem measure_process_lt {axis : ScrollAxis} {s : InertialScroll} (h : s.curInertiaDelta axis ≠ 0) :
    (s.ProcessInertia c axis).measure < s.measure := by
  have hslowed := slowed_natAbs h
  have hlevel := s.inertiaLevel.toNat_lt
  have hlevel' := (s.ProcessInertia c axis).inertiaLevel.toNat_lt
  have hother : (s.ProcessInertia c axis).curInertiaDelta axis.other = s.curInertiaDelta axis.other :=
    process_other (by cases axis <;> decide) s
  have hboth : ∀ t : InertialScroll, t.measure =
      256 * ((t.curInertiaDelta axis).natAbs + (t.curInertiaDelta axis.other).natAbs) + (255 - t.inertiaLevel.toNat) := by
    intro t
    unfold measure
    cases axis with
    | vertical => rfl
    | horizontal => rw [Nat.add_comm (t.curInertiaDelta .vertical).natAbs]; rfl
  rw [hboth, hboth, hother]
  obtain ⟨hcur, hnext⟩ | ⟨hcur, hnext⟩ := process_level (c := c) axis s
  · rw [hcur]
    omega
  · rw [hcur, hnext, UInt8.toNat_zero]
    omega

/-- The timer is armed again only if the measure becomes less. -/
theorem measure_processAxis (axis : ScrollAxis) (s : InertialScroll) :
    (s.processAxis c axis).measure < s.measure ∨ s.processAxis c axis = s := by
  unfold processAxis
  split
  · next hmoves => exact .inl (measure_process_lt hmoves)
  · exact .inr rfl

theorem measure_tick_lt {s : InertialScroll} {stopped : Bool} (h : (s.tick c stopped).timeout ≠ none) :
    (s.tick c stopped).measure < s.measure := by
  unfold tick at h ⊢
  split at h
  · next hfires =>
    rw [if_pos hfires]
    unfold EnhanceScrollAcceleration at h ⊢
    split at h
    · exact absurd rfl h
    · next hlive =>
      rw [if_neg hlive]
      obtain hlt | hsame := measure_processAxis (c := c) .vertical s.disarm
      · obtain hlt' | hsame' := measure_processAxis (c := c) .horizontal (s.disarm.processAxis c .vertical)
        · exact hlt'.trans hlt
        · rw [hsame']
          exact hlt
      · rw [hsame] at h ⊢
        obtain hlt' | hsame' := measure_processAxis (c := c) .horizontal s.disarm
        · exact hlt'
        · rw [hsame'] at h
          exact absurd rfl h
  · exact absurd rfl h

theorem tick_disarmed {s : InertialScroll} (h : s.timeout = none) (stopped : Bool) : (s.tick c stopped).timeout = none := by
  unfold tick fires
  rw [h]
  rfl

theorem run_disarmed (stops : List Bool) {s : InertialScroll} (h : s.timeout = none) :
    (run (tick c) stops s).timeout = none :=
  run_invariant (I := fun t : InertialScroll => t.timeout = none) (fun _ stopped h => tick_disarmed h stopped) stops h

variable (c) in
/-- After some number of ticks the timer is not armed any more. -/
def Ends (s : InertialScroll) : Prop := ∃ n, ∀ stops : List Bool, n ≤ stops.length → (run (tick c) stops s).timeout = none

theorem run_of_measure (n : Nat) {s : InertialScroll} (hn : s.measure < n) (stops : List Bool) (h : n ≤ stops.length) :
    (run (tick c) stops s).timeout = none := by
  induction n generalizing s stops with
  | zero => omega
  | succ n ih =>
    cases stops with
    | nil => exact absurd h (by simp)
    | cons stopped stops =>
      by_cases harmed : (s.tick c stopped).timeout = none
      · exact run_disarmed stops harmed
      · have hless := measure_tick_lt harmed
        rw [List.length_cons] at h
        exact ih (by omega) stops (by omega)

theorem ends (c : InertiaSettings) (s : InertialScroll) : s.Ends c := ⟨s.measure + 1, run_of_measure _ (Nat.lt_succ_self _)⟩

/-! The amounts decay. -/

theorem tick_delta (s : InertialScroll) (stopped : Bool) : (s.tick c stopped).inertiaDelta = s.inertiaDelta := by
  unfold tick EnhanceScrollAcceleration
  split
  · split
    · rfl
    · rw [processAxis_delta, processAxis_delta]
      rfl
  · rfl

theorem tick_towards (s : InertialScroll) (stopped : Bool) (axis : ScrollAxis) :
    Towards (s.curInertiaDelta axis) ((s.tick c stopped).curInertiaDelta axis) := by
  unfold tick EnhanceScrollAcceleration
  split
  · split
    · exact Towards.refl _
    · exact (process_towards (s := s.disarm) axis).trans (process_towards axis)
  · exact Towards.refl _

/-- The timer fires, and an axis has been set in motion. -/
def ticks (s : InertialScroll) (stopped : Bool) : Prop :=
  s.fires stopped = true ∧ ¬ (s.inertiaDelta .horizontal = 0 ∧ s.inertiaDelta .vertical = 0)

theorem tick_of_ticks {s : InertialScroll} {stopped : Bool} (h : s.ticks stopped) :
    s.tick c stopped = (s.disarm.processAxis c .vertical).processAxis c .horizontal := by
  unfold tick EnhanceScrollAcceleration
  rw [if_pos h.1]
  exact if_neg h.2

theorem tick_of_idle {s : InertialScroll} {stopped : Bool} (h : ¬ s.ticks stopped) :
    (s.tick c stopped).timeout = none ∧ ∀ axis, (s.tick c stopped).dispatched axis = some 0 := by
  unfold tick EnhanceScrollAcceleration
  split
  · next hfires =>
    have hrest : s.inertiaDelta .horizontal = 0 ∧ s.inertiaDelta .vertical = 0 :=
      not_not.mp fun hlive => h ⟨hfires, hlive⟩
    rw [if_pos (show s.disarm.inertiaDelta .horizontal = 0 ∧ s.disarm.inertiaDelta .vertical = 0 from hrest)]
    exact ⟨rfl, fun _ => rfl⟩
  · exact ⟨rfl, fun _ => rfl⟩

theorem tick_dispatched {s : InertialScroll} {stopped : Bool} (h : s.ticks stopped) (axis : ScrollAxis) :
    (s.tick c stopped).dispatched axis = c.amount axis (s.curInertiaDelta axis) := by
  rw [tick_of_ticks h]
  cases axis with
  | vertical =>
    rw [(processAxis_other (by decide) _).2]
    exact processAxis_dispatched rfl
  | horizontal =>
    have hne : ScrollAxis.horizontal ≠ .vertical := by decide
    have hvertical := processAxis_other (c := c) hne s.disarm
    rw [processAxis_dispatched hvertical.2, hvertical.1]
    rfl

variable (c) in
/-- On either axis the amount of a tick fits a short, and lies between zero and that of the tick before. -/
def Decays (s : InertialScroll) : Prop :=
  ∀ p stopped stopped' axis, ∃ x y, (run (tick c) (p ++ [stopped]) s).dispatched axis = some x ∧
    (run (tick c) (p ++ [stopped, stopped']) s).dispatched axis = some y ∧ Towards x y

/-- Two ticks, from a state whose amounts fit. -/
theorem two_ticks {s : InertialScroll} {axis : ScrollAxis} (h : c.amount axis (s.curInertiaDelta axis) ≠ none)
    (stopped stopped' : Bool) : ∃ x y, (s.tick c stopped).dispatched axis = some x ∧
      ((s.tick c stopped).tick c stopped').dispatched axis = some y ∧ Towards x y := by
  obtain ⟨x, hx⟩ := Option.ne_none_iff_exists'.mp h
  by_cases hticks : s.ticks stopped
  · by_cases hticks' : (s.tick c stopped).ticks stopped'
    · obtain ⟨y, hy, htowards⟩ := amount_towards (tick_towards (c := c) s stopped axis) hx
      exact ⟨x, y, (tick_dispatched hticks axis).trans hx, (tick_dispatched hticks' axis).trans hy, htowards⟩
    · exact ⟨x, 0, (tick_dispatched hticks axis).trans hx, (tick_of_idle hticks').2 axis, Towards.zero_right x⟩
  · have hidle := tick_of_idle (c := c) hticks
    have hticks' : ¬ (s.tick c stopped).ticks stopped' := by
      intro hfires
      have harmed := hfires.1
      unfold fires at harmed
      rw [hidle.1] at harmed
      exact absurd harmed (by simp)
    exact ⟨0, 0, hidle.2 axis, (tick_of_idle hticks').2 axis, Towards.refl 0⟩

theorem run_towards (p : List Bool) (s : InertialScroll) (axis : ScrollAxis) :
    Towards (s.curInertiaDelta axis) ((run (tick c) p s).curInertiaDelta axis) :=
  run_invariant (I := fun t => Towards (s.curInertiaDelta axis) (t.curInertiaDelta axis))
    (fun t stopped h => h.trans (tick_towards t stopped axis)) p (Towards.refl _)

/-- In a whole run the magnitude does not grow, and the sign does not change before zero. -/
theorem run_natAbs_le (p : List Bool) (s : InertialScroll) (axis : ScrollAxis) :
    ((run (tick c) p s).curInertiaDelta axis).natAbs ≤ (s.curInertiaDelta axis).natAbs ∧
      ((run (tick c) p s).curInertiaDelta axis = 0 ∨
        ((run (tick c) p s).curInertiaDelta axis).sign = (s.curInertiaDelta axis).sign) :=
  (towards_iff _ _).mp (run_towards p s axis)

theorem start_cur (twice : Bool) (left : UInt8) (dX dY : Int16) :
    (start twice left dX dY).curInertiaDelta = (start twice left dX dY).inertiaDelta := rfl

/-- Where nothing starts the timer, nothing is left to move. -/
theorem start_ticks {twice : Bool} {left : UInt8} {dX dY : Int16} {axis : ScrollAxis}
    (h : (start twice left dX dY).inertiaDelta axis ≠ 0) : (start twice left dX dY).ticks false := by
  have hzero : ∀ d : Int16, doubled d twice ≠ 0 → d ≠ 0 := by
    intro d hd hd'
    subst hd'
    cases twice <;> exact hd rfl
  unfold ticks fires start
  cases axis with
  | vertical =>
    have hY := hzero dY h
    exact ⟨by simp [hY], fun hrest => h hrest.2⟩
  | horizontal =>
    have hX := hzero dX h
    exact ⟨by simp [hX], fun hrest => h hrest.1⟩

theorem decays_iff (twice : Bool) (left : UInt8) (dX dY : Int16) : (start twice left dX dY).Decays c ↔
    ∀ axis, c.amount axis ((start twice left dX dY).inertiaDelta axis) ≠ none := by
  constructor
  · intro h axis
    obtain ⟨x, -, hx, -, -⟩ := h [] false false axis
    by_cases hrest : (start twice left dX dY).inertiaDelta axis = 0
    · rw [hrest, amount_zero]
      simp
    · have hfirst := tick_dispatched (c := c) (start_ticks hrest) axis
      rw [← start_cur, ← hfirst]
      exact Option.ne_none_iff_exists'.mpr ⟨x, hx⟩
  · intro h p stopped stopped' axis
    obtain ⟨x, hx⟩ := Option.ne_none_iff_exists'.mp (h axis)
    obtain ⟨y, hy, -⟩ := amount_towards (run_towards (c := c) p (start twice left dX dY) axis) hx
    rw [run_append, run_append]
    exact two_ticks (Option.ne_none_iff_exists'.mpr ⟨y, hy⟩) stopped stopped'

/-! The delays of one axis. -/

/-- The multiple of the first level. -/
def level (delta cur : Int) : Nat :=
  if 4 * cur > 3 * delta then 1 else if 2 * cur > delta then 2 else if 4 * cur > delta then 3 else 5

theorem level_cases (delta cur : Int) :
    level delta cur = 1 ∨ level delta cur = 2 ∨ level delta cur = 3 ∨ level delta cur = 5 := by
  unfold level
  split_ifs <;> simp

theorem level_antitone {delta a b : Int} (h : b ≤ a) : level delta a ≤ level delta b := by
  unfold level
  split_ifs <;> omega

theorem level_zero {delta : Int} (h : 0 ≤ delta) : level delta 0 = 5 := by
  unfold level
  rw [if_neg (by omega), if_neg (by omega), if_neg (by omega)]

/-- The largest level fits eight bits just for the delays below 208. -/
theorem baseDelay_bounds (c : InertiaSettings) :
    1 ≤ c.baseDelay.toNat ∧ c.baseDelay.toNat ≤ 63 ∧ (c.baseDelay.toNat ≤ 51 ↔ c.inertiaDelay < 208) := by
  have hdelay := c.inertiaDelay.toNat_lt
  have hlarge : c.inertiaDelay < 208 ↔ c.inertiaDelay.toNat < 208 := UInt8.lt_iff_toNat_lt
  rw [hlarge]
  unfold InertiaSettings.baseDelay
  split
  · next hsmall =>
    have hnat := UInt8.lt_iff_toNat_lt.mp hsmall
    simp only [UInt8.reduceToNat] at hnat ⊢
    omega
  · next hlarge =>
    have hnat := UInt8.le_iff_toNat_le.mp (UInt8.not_lt.mp hlarge)
    rw [UInt8.toNat_div]
    simp only [UInt8.reduceToNat] at hnat ⊢
    omega

theorem delayFor_toNat (c : InertiaSettings) (delta cur : Int) :
    (c.delayFor delta cur).toNat = c.baseDelay.toNat * level delta cur % 256 := by
  unfold InertiaSettings.delayFor level
  split_ifs <;> rw [UInt8.toNat_mul] <;> rfl

/-- Only the largest level wraps. -/
theorem delayFor_of_level {delta cur : Int} (h : level delta cur ≠ 5 ∨ c.baseDelay.toNat ≤ 51) :
    (c.delayFor delta cur).toNat = c.baseDelay.toNat * level delta cur := by
  obtain ⟨-, hmax, -⟩ := baseDelay_bounds c
  have hlarger : c.baseDelay.toNat * level delta cur < 256 := by
    obtain hl | hl | hl | hl := level_cases delta cur
    all_goals
      rw [hl] at h ⊢
      omega
  rw [delayFor_toNat, Nat.mod_eq_of_lt hlarger]

theorem delayFor_of_wraps {delta cur : Int} (h : level delta cur = 5) (hbase : 52 ≤ c.baseDelay.toNat) :
    (c.delayFor delta cur).toNat = c.baseDelay.toNat * 5 - 256 := by
  obtain ⟨-, hmax, -⟩ := baseDelay_bounds c
  have hwraps : c.baseDelay.toNat * 5 / 256 = 1 := by omega
  rw [delayFor_toNat, h]
  omega

/-- The delta of an axis after the first tick. -/
def first (c : InertiaSettings) (delta : Int) : Int := if c.inertiaDepth = 0 then slowed delta else delta

variable (c) in
/-- The largest level fits eight bits, or is the only one; the smallest delta has no magnitude, and is about
the other way round. -/
def Steady (delta : Int) : Prop :=
  delta = 0 ∨
    if delta = -32768 then c.inertiaDepth = 0 ∨ 208 ≤ c.inertiaDelay
    else c.inertiaDelay < 208 ∨ c.inertiaDepth = 0 ∧ delta.natAbs = 1

theorem first_towards {delta : Int} (h : delta ≠ 0) : Towards delta (first c delta) := by
  unfold first
  split
  · exact (slowed_towards delta).resolve_right h
  · exact Towards.refl delta

/-- Where the magnitudes are those of shorts, smaller ones have larger delays, if the largest level fits. -/
theorem delayFor_le_of_fits (hfits : c.baseDelay.toNat ≤ 51) {delta a b : Int} (h : b ≤ a) :
    c.delayFor delta a ≤ c.delayFor delta b := by
  rw [UInt8.le_iff_toNat_le, delayFor_of_level (.inr hfits), delayFor_of_level (.inr hfits)]
  exact Nat.mul_le_mul_left _ (level_antitone h)

/-- The smallest delta: every other magnitude is above the levels. -/
theorem level_least {cur : Int} (h : 0 ≤ cur) : level (-32768) cur = 1 := if_pos (by omega)

theorem delayFor_least {a b : Int} (ha : 0 ≤ a) (hb : 0 ≤ b) : c.delayFor (-32768) a = c.delayFor (-32768) b := by
  rw [← UInt8.toNat_inj, delayFor_toNat, delayFor_toNat, level_least ha, level_least hb]

/-- While the delta decays the delay grows. -/
theorem delay_le {delta a b : Int} (hdelta : delta ≠ 0) (hrange : -32768 ≤ delta ∧ delta ≤ 32767)
    (hsteady : Steady c delta) (ha : Towards (first c delta) a) (hab : Towards a b) :
    c.delayFor (absSInt16 delta) (absSInt16 a) ≤ c.delayFor (absSInt16 delta) (absSInt16 b) := by
  obtain ⟨hpos, hmax, hfits⟩ := baseDelay_bounds c
  have hfirst := (first_towards (c := c) hdelta).trans ha
  have haRange : -32768 ≤ a ∧ a ≤ 32767 := by
    unfold Towards at hfirst
    omega
  have hbRange : -32768 ≤ b ∧ b ≤ 32767 := by
    unfold Towards at hab
    omega
  rw [absSInt16_eq hrange, absSInt16_eq haRange, absSInt16_eq hbRange]
  have hsteady := hsteady.resolve_left hdelta
  -- the least delta is its own magnitude, below all others
  by_cases hleast : delta = -32768
  · rw [if_pos hleast] at hsteady ⊢
    by_cases hb : b = -32768
    · have haSame : a = -32768 := by
        unfold Towards at hab
        omega
      rw [if_pos hb, if_pos haSame]
      exact UInt8.le_refl _
    · rw [if_neg hb]
      by_cases haSame : a = -32768
      · obtain hdepth | hdelay := hsteady
        · -- every tick slows the delta
          unfold first at ha
          rw [if_pos hdepth, hleast, haSame] at ha
          have hinside : ¬ Towards (-32767 : Int) (-32768) := by
            unfold Towards
            omega
          exact absurd ha hinside
        · have hbase : 52 ≤ c.baseDelay.toNat := by
            have hnot : ¬ c.baseDelay.toNat ≤ 51 := fun h => UInt8.not_lt.mpr hdelay (hfits.mp h)
            omega
          have hone : level (-32768) (b.natAbs : Int) = 1 := level_least (by omega)
          have hfive : level (-32768) (-32768) = 5 := rfl
          rw [if_pos haSame, UInt8.le_iff_toNat_le, delayFor_of_wraps hfive hbase,
            delayFor_of_level (.inl (by rw [hone]; decide)), hone]
          omega
      · rw [if_neg haSame]
        exact UInt8.le_of_eq (delayFor_least (by omega) (by omega))
  · rw [if_neg hleast] at hsteady ⊢
    unfold Towards at hab hfirst
    rw [if_neg (by omega), if_neg (by omega)]
    obtain hdelay | ⟨hdepth, hunit⟩ := hsteady
    · exact delayFor_le_of_fits (hfits.mpr hdelay) (by omega)
    · -- the first tick stops a delta of one
      have hstop : first c delta = 0 := by
        have hless := slowed_natAbs hdelta
        unfold first
        rw [if_pos hdepth]
        omega
      rw [hstop] at ha
      have haZero : a = 0 := ha.eq_zero
      have hbZero : b = 0 := by omega
      rw [haZero, hbZero]
      exact UInt8.le_refl _

/-- The closed form of the condition: the first delay of the axis is not above the last one. -/
theorem steady_of_delay_le {delta : Int} (hdelta : delta ≠ 0) (hrange : -32768 ≤ delta ∧ delta ≤ 32767)
    (h : c.delayFor (absSInt16 delta) (absSInt16 (first c delta)) ≤ c.delayFor (absSInt16 delta) 0) : Steady c delta := by
  obtain ⟨hpos, hmax, hfits⟩ := baseDelay_bounds c
  rw [UInt8.le_iff_toNat_le, absSInt16_eq hrange] at h
  refine .inr ?_
  by_cases hleast : delta = -32768
  · rw [if_pos hleast] at h ⊢
    by_cases hdepth : c.inertiaDepth = 0
    · exact .inl hdepth
    · refine .inr (UInt8.not_lt.mp fun hdelay => ?_)
      have hsmall := hfits.mpr hdelay
      have hfirst : absSInt16 (first c delta) = -32768 := by
        unfold first
        rw [if_neg hdepth, hleast]
        rfl
      have hfive : level (-32768) (-32768) = 5 := rfl
      rw [hfirst, delayFor_of_level (.inr hsmall), delayFor_of_level (.inr hsmall), hfive, level_least (le_refl 0)] at h
      omega
  · rw [if_neg hleast] at h ⊢
    by_cases hdelay : c.inertiaDelay < 208
    · exact .inl hdelay
    · have hbase : 52 ≤ c.baseDelay.toNat := by
        have hnot : ¬ c.baseDelay.toNat ≤ 51 := fun h => hdelay (hfits.mp h)
        omega
      -- any other level of the first delay is above the one that wraps
      have hlevel : level delta.natAbs (absSInt16 (first c delta)) = 5 := by
        by_contra hother
        rw [delayFor_of_wraps (level_zero (by omega)) hbase, delayFor_of_level (.inl hother)] at h
        have hone : 1 ≤ level delta.natAbs (absSInt16 (first c delta)) := by
          obtain hl | hl | hl | hl := level_cases delta.natAbs (absSInt16 (first c delta)) <;> omega
        have hproduct := Nat.mul_le_mul_left c.baseDelay.toNat hone
        omega
      have hfirstRange : -32768 < first c delta ∧ first c delta ≤ 32767 := by
        have hfirst := first_towards (c := c) hdelta
        unfold Towards at hfirst
        omega
      rw [absSInt16_eq ⟨by omega, by omega⟩, if_neg (by omega)] at hlevel
      have hquarter : 4 * (first c delta).natAbs ≤ delta.natAbs := by
        unfold level at hlevel
        split_ifs at hlevel <;> omega
      by_cases hdepth : c.inertiaDepth = 0
      · have hless := slowed_natAbs hdelta
        unfold first at hquarter
        rw [if_pos hdepth] at hquarter
        exact .inr ⟨hdepth, by omega⟩
      · unfold first at hquarter
        rw [if_neg hdepth] at hquarter
        omega

/-! One axis alone. -/

/-- The other axis is at rest. -/
theorem tick_alone {axis : ScrollAxis} {s : InertialScroll} {stopped : Bool} (hrest : s.curInertiaDelta axis.other = 0)
    (h : s.ticks stopped) : s.tick c stopped = s.disarm.processAxis c axis := by
  rw [tick_of_ticks h]
  cases axis with
  | vertical =>
    have hne : ScrollAxis.horizontal ≠ .vertical := by decide
    have hcur := (processAxis_other (c := c) hne s.disarm).1
    exact if_neg (not_not.mpr (hcur.trans hrest))
  | horizontal => rw [show s.disarm.processAxis c .vertical = s.disarm from if_neg (not_not.mpr hrest)]

/-- What holds after the first tick of an axis alone. -/
structure Alone (c : InertiaSettings) (axis : ScrollAxis) (delta : Int) (s : InertialScroll) : Prop where
  delta_eq : s.inertiaDelta axis = delta
  rest : s.curInertiaDelta axis.other = 0
  near : Towards (first c delta) (s.curInertiaDelta axis)
  delay : ∀ d, s.timeout = some d → d = c.delayFor (absSInt16 delta) (absSInt16 (s.curInertiaDelta axis))

/-- A tick that arms the timer again moves the axis, and sets its delay. -/
theorem tick_armed {axis : ScrollAxis} {s : InertialScroll} {stopped : Bool} {d : UInt8}
    (hrest : s.curInertiaDelta axis.other = 0) (h : (s.tick c stopped).timeout = some d) :
    s.ticks stopped ∧ s.curInertiaDelta axis ≠ 0 ∧
      d = c.delayFor (absSInt16 (s.inertiaDelta axis)) (absSInt16 ((s.tick c stopped).curInertiaDelta axis)) := by
  have hticks : s.ticks stopped := by
    by_contra hidle
    rw [(tick_of_idle hidle).1] at h
    cases h
  rw [tick_alone hrest hticks] at h ⊢
  unfold processAxis at h ⊢
  split at h
  · next hmoves =>
    rw [if_pos hmoves]
    refine ⟨hticks, hmoves, ?_⟩
    unfold ProcessInertia at h ⊢
    dsimp only at h ⊢
    rw [Function.update_self]
    exact (Option.some.inj h).symm
  · cases h

theorem tick_rest {axis : ScrollAxis} {s : InertialScroll} (hrest : s.curInertiaDelta axis.other = 0) (stopped : Bool) :
    (s.tick c stopped).curInertiaDelta axis.other = 0 := by
  have htowards := tick_towards (c := c) s stopped axis.other
  rw [hrest] at htowards
  exact htowards.eq_zero

theorem Alone.tick {axis : ScrollAxis} {delta : Int} {s : InertialScroll} (h : Alone c axis delta s) (stopped : Bool) :
    Alone c axis delta (s.tick c stopped) where
  delta_eq := by
    rw [tick_delta]
    exact h.delta_eq
  rest := tick_rest h.rest stopped
  near := h.near.trans (tick_towards s stopped axis)
  delay := by
    intro d hd
    obtain ⟨-, -, hdelay⟩ := tick_armed h.rest hd
    rw [h.delta_eq] at hdelay
    exact hdelay

theorem absSInt16_le {d : Int} (h : -32768 ≤ d ∧ d ≤ 32767) : absSInt16 d ≤ d.natAbs := by
  rw [absSInt16_eq h]
  split <;> omega

/-- The first tick counts to the configured depth. -/
theorem process_first {axis : ScrollAxis} {s : InertialScroll} {delta : Int} (hlevel : s.inertiaLevel = 0)
    (hcur : s.curInertiaDelta axis = delta) (hdelta : s.inertiaDelta axis = delta) (hmoves : delta ≠ 0)
    (hrange : -32768 ≤ delta ∧ delta ≤ 32767) : (s.ProcessInertia c axis).curInertiaDelta axis = first c delta := by
  have hle := absSInt16_le hrange
  have hdepth : c.depthFor (absSInt16 delta) delta = c.inertiaDepth := if_pos (by omega)
  unfold ProcessInertia first
  dsimp only
  rw [Function.update_self, if_pos hlevel, hlevel, hcur, hdelta, hdepth]
  by_cases hzero : c.inertiaDepth = 0
  · rw [hzero]
    rfl
  · have hbelow : 0 < c.inertiaDepth := UInt8.pos_iff_ne_zero.mpr hzero
    rw [if_pos hbelow, if_neg (by decide), if_neg hzero]

theorem armed_of_moves {axis : ScrollAxis} {s : InertialScroll} {stopped : Bool} (hrest : s.curInertiaDelta axis.other = 0)
    (hmoves : s.curInertiaDelta axis ≠ 0) (h : s.ticks stopped) : ∃ d, (s.tick c stopped).timeout = some d := by
  rw [tick_alone hrest h, show s.disarm.processAxis c axis = s.disarm.ProcessInertia c axis from if_pos hmoves]
  exact ⟨_, rfl⟩

/-- An axis that the end of a scroll sets in motion alone. -/
structure Sets (axis : ScrollAxis) (delta : Int) (s : InertialScroll) : Prop where
  delta_eq : s.inertiaDelta axis = delta
  cur_eq : s.curInertiaDelta axis = delta
  moves : delta ≠ 0
  range : -32768 ≤ delta ∧ delta ≤ 32767
  rest : s.curInertiaDelta axis.other = 0
  level_eq : s.inertiaLevel = 0
  armed : s.timeout = some 1

namespace Sets

variable {axis : ScrollAxis} {delta : Int} {s : InertialScroll}

theorem live (h : Sets axis delta s) : ¬ (s.inertiaDelta .horizontal = 0 ∧ s.inertiaDelta .vertical = 0) := by
  intro hrest
  have hzero : s.inertiaDelta axis = 0 := by
    cases axis with
    | vertical => exact hrest.2
    | horizontal => exact hrest.1
  exact h.moves (h.delta_eq.symm.trans hzero)

theorem ticks (h : Sets axis delta s) : s.ticks false := by
  refine ⟨?_, h.live⟩
  unfold fires
  rw [h.armed]
  rfl

theorem cur_tick (h : Sets axis delta s) {stopped : Bool} (hticks : s.ticks stopped) :
    (s.tick c stopped).curInertiaDelta axis = first c delta := by
  have hmoves : s.disarm.curInertiaDelta axis ≠ 0 := by
    rw [show s.disarm.curInertiaDelta axis = delta from h.cur_eq]
    exact h.moves
  rw [tick_alone h.rest hticks, show s.disarm.processAxis c axis = s.disarm.ProcessInertia c axis from if_pos hmoves]
  exact process_first h.level_eq h.cur_eq h.delta_eq h.moves h.range

theorem alone (h : Sets axis delta s) {stopped : Bool} (hticks : s.ticks stopped) :
    Alone c axis delta (s.tick c stopped) where
  delta_eq := by
    rw [tick_delta]
    exact h.delta_eq
  rest := tick_rest h.rest stopped
  near := by
    rw [h.cur_tick hticks]
    exact Towards.refl _
  delay := by
    intro d hd
    obtain ⟨-, -, hdelay⟩ := tick_armed h.rest hd
    rw [h.delta_eq] at hdelay
    exact hdelay

end Sets

variable (c) in
/-- The delay before the next tick never decreases. -/
def Slows (s : InertialScroll) : Prop :=
  ∀ p stopped d d', (run (tick c) p s).timeout = some d → (run (tick c) (p ++ [stopped]) s).timeout = some d' → d ≤ d'

theorem Slows.tick {s : InertialScroll} (h : s.Slows c) (stopped : Bool) : (s.tick c stopped).Slows c :=
  fun p stopped' d d' hd hd' => h (stopped :: p) stopped' d d' hd hd'

theorem delayFor_pos (c : InertiaSettings) (delta cur : Int) : 1 ≤ c.delayFor delta cur := by
  obtain ⟨hpos, hmax, -⟩ := baseDelay_bounds c
  rw [UInt8.le_iff_toNat_le, UInt8.toNat_one]
  by_cases hlevel : level delta cur = 5
  · by_cases hbase : c.baseDelay.toNat ≤ 51
    · rw [delayFor_of_level (.inr hbase), hlevel]
      omega
    · rw [delayFor_of_wraps hlevel (by omega)]
      omega
  · rw [delayFor_of_level (.inl hlevel)]
    obtain hl | hl | hl | hl := level_cases delta cur
    all_goals
      rw [hl]
      omega

theorem Alone.run {axis : ScrollAxis} {delta : Int} {s : InertialScroll} (h : Alone c axis delta s) (p : List Bool) :
    Alone c axis delta (run (InertialScroll.tick c) p s) :=
  run_invariant (I := fun t : InertialScroll => Alone c axis delta t) (fun _ stopped h => h.tick stopped) p h

/-- Two ticks of an axis alone, the first of them not the start. -/
theorem Alone.delay_le {axis : ScrollAxis} {delta : Int} {s : InertialScroll} (h : Alone c axis delta s) (hdelta : delta ≠ 0)
    (hrange : -32768 ≤ delta ∧ delta ≤ 32767) (hsteady : Steady c delta) {stopped : Bool} {d d' : UInt8}
    (hd : s.timeout = some d) (hd' : (s.tick c stopped).timeout = some d') : d ≤ d' := by
  have hnext := (h.tick stopped).delay d' hd'
  rw [h.delay d hd, hnext]
  exact InertialScroll.delay_le hdelta hrange hsteady h.near (tick_towards s stopped axis)

theorem slows_of_steady {axis : ScrollAxis} {delta : Int} {s : InertialScroll} (h : Sets axis delta s)
    (hsteady : Steady c delta) : s.Slows c := by
  intro p stopped d d' hd hd'
  rw [run_append] at hd'
  cases p with
  | nil =>
    have hone : d = 1 := (Option.some.inj (h.armed.symm.trans hd)).symm
    obtain ⟨-, -, hdelay⟩ := tick_armed h.rest hd'
    rw [hone, hdelay]
    exact delayFor_pos c _ _
  | cons first p =>
    by_cases hticks : s.ticks first
    · exact ((h.alone hticks).run p).delay_le h.moves h.range hsteady hd hd'
    · have hnone := run_disarmed (c := c) p (tick_of_idle (c := c) hticks).1
      exact absurd (hnone.symm.trans hd) (by simp)

/-- The delays up to the end of the chain are not above the last one. -/
theorem Alone.le_last {axis : ScrollAxis} {delta : Int} (n : Nat) {s : InertialScroll} (hn : s.measure < n)
    (h : Alone c axis delta s) (hdelta : delta ≠ 0) (hslows : s.Slows c) {d : UInt8} (hd : s.timeout = some d) :
    d ≤ c.delayFor (absSInt16 delta) 0 := by
  induction n generalizing s d with
  | zero => omega
  | succ n ih =>
    by_cases hmoves : s.curInertiaDelta axis = 0
    · have hdelay := h.delay d hd
      rw [hmoves] at hdelay
      exact UInt8.le_of_eq hdelay
    · have hticks : s.ticks false := by
        refine ⟨?_, fun hrest => ?_⟩
        · unfold fires
          rw [hd]
          rfl
        · have hzero : s.inertiaDelta axis = 0 := by
            cases axis with
            | vertical => exact hrest.2
            | horizontal => exact hrest.1
          exact hdelta (h.delta_eq.symm.trans hzero)
      obtain ⟨d', hd'⟩ := armed_of_moves (c := c) h.rest hmoves hticks
      have hless : (s.tick c false).measure < s.measure := measure_tick_lt (by rw [hd']; simp)
      calc d ≤ d' := hslows [] false d d' hd hd'
        _ ≤ c.delayFor (absSInt16 delta) 0 := ih (by omega) (h.tick false) (hslows.tick false) hd'

theorem slows_iff {axis : ScrollAxis} {delta : Int} {s : InertialScroll} (h : Sets axis delta s) :
    s.Slows c ↔ Steady c delta := by
  constructor
  · intro hslows
    have hmoves : s.curInertiaDelta axis ≠ 0 := by
      rw [h.cur_eq]
      exact h.moves
    obtain ⟨d, hd⟩ := armed_of_moves (c := c) h.rest hmoves h.ticks
    have halone := h.alone (c := c) h.ticks
    have hlast := halone.le_last _ (Nat.lt_succ_self _) h.moves (hslows.tick false) hd
    rw [halone.delay d hd, h.cur_tick h.ticks] at hlast
    exact steady_of_delay_le h.moves h.range hlast
  · exact slows_of_steady h

/-! The chain that the end of a scroll starts. -/

theorem doubled_range (d : Int16) (twice : Bool) : -32768 ≤ doubled d twice ∧ doubled d twice ≤ 32767 := by
  have hlow := (if twice then d * 2 else d).le_toInt
  have hhigh := (if twice then d * 2 else d).toInt_lt
  unfold doubled
  omega

theorem start_range (twice : Bool) (left : UInt8) (dX dY : Int16) (axis : ScrollAxis) :
    -32768 ≤ (start twice left dX dY).inertiaDelta axis ∧ (start twice left dX dY).inertiaDelta axis ≤ 32767 := by
  cases axis with
  | vertical => exact doubled_range dY twice
  | horizontal => exact doubled_range dX twice

theorem start_slows_iff (twice : Bool) (left : UInt8) (dX dY : Int16) {axis : ScrollAxis}
    (hrest : (start twice left dX dY).inertiaDelta axis.other = 0) :
    (start twice left dX dY).Slows c ↔ Steady c ((start twice left dX dY).inertiaDelta axis) := by
  by_cases hmoves : (start twice left dX dY).inertiaDelta axis = 0
  · -- no tick arms the timer again
    refine iff_of_true (fun p stopped d d' hd hd' => ?_) (.inl hmoves)
    have hidle : ∀ first, ¬ (start twice left dX dY).ticks first := by
      intro first hticks
      cases axis with
      | vertical => exact hticks.2 ⟨hrest, hmoves⟩
      | horizontal => exact hticks.2 ⟨hmoves, hrest⟩
    have hnone : ∀ first rest, (run (tick c) (first :: rest) (start twice left dX dY)).timeout = none :=
      fun first rest => run_disarmed rest (tick_of_idle (hidle first)).1
    cases p with
    | nil => exact absurd ((hnone stopped []).symm.trans hd') (by simp)
    | cons first p => exact absurd ((hnone first p).symm.trans hd) (by simp)
  · have harmed : (start twice left dX dY).timeout = some 1 := by
      have hticks := (start_ticks hmoves).1
      unfold fires start at hticks
      unfold start
      dsimp only at hticks ⊢
      split at hticks
      · next h => rw [if_pos h]
      · cases hticks
    exact slows_iff
      { delta_eq := rfl, cur_eq := rfl, moves := hmoves, range := start_range twice left dX dY axis, rest := hrest
        level_eq := rfl, armed := harmed }

theorem settles_iff (c : InertiaSettings) (twice : Bool) (left : UInt8) (dX dY : Int16) :
    let s := start twice left dX dY
    s.Ends c ∧ s.Decays c ∧ (∀ axis : ScrollAxis, s.inertiaDelta axis.other = 0 → s.Slows c) ↔
      (∀ axis, c.amount axis (s.inertiaDelta axis) ≠ none) ∧
        ∀ axis : ScrollAxis, s.inertiaDelta axis.other = 0 → Steady c (s.inertiaDelta axis) := by
  intro s
  rw [decays_iff, and_iff_right (ends c s)]
  exact and_congr_right fun _ => forall_congr' fun axis => forall_congr' fun hrest => start_slows_iff twice left dX dY hrest

/-- The largest delay, with a depth of one. -/
def slowest : InertiaSettings := { inertiaDepth := 1, inertiaDelay := 255, scrollFactor := 1, rounding := .exact }

/-- A vertical delta of 4: the delays are 63, 126 and 189, and then 59. -/
theorem settles_slowest : (start false 0 0 4).inertiaDelta .horizontal = 0 ∧ ¬ (start false 0 0 4).Slows slowest := by
  refine ⟨rfl, fun h => ?_⟩
  have hbefore : (run (tick slowest) (List.replicate 6 false) (start false 0 0 4)).timeout = some 189 := by
    decide +kernel
  have hafter : (run (tick slowest) (List.replicate 6 false ++ [false]) (start false 0 0 4)).timeout = some 59 := by
    decide +kernel
  exact absurd (h _ _ _ _ hbefore hafter) (by decide)

end InertialScroll
end ApplePS2
