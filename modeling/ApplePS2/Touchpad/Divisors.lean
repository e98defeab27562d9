import ApplePS2.Touchpad.TwoFingers

/- The configured divisors: the smoothing level, by which the timer of the pointer divides
   (`EnhancePointerAcceleration`), and the scale of a pinch.

   1. `enhance_eq_none_iff`, `zoomClass_eq_none_iff`: where a division by zero is executed.
   2. `divides_iff`: for every property list, none is executed exactly if the list sets the
      two divisors, as far as the timer and a pinch reach them. -/
namespace ApplePS2

/-! The property list. -/

inductive PlistObject where
  | number (value : UInt64)
  | boolean (value : Bool)
  /-- Of any other class. -/
  | object

abbrev Dictionary := String → Option PlistObject

/-- `readPlistKey` of an 8-bit value: "int = 0 as default". -/
def readPlistKey (dict : Dictionary) (key : String) : UInt8 :=
  match dict key with
  | some (.number value) => value.toUInt8
  | _ => 0

/-- The dictionaries of the property list that hold the divisors, if it has them. -/
structure TouchpadPreferences where
  /-- `PointerPreferencesKey` -/
  pointer : Option Dictionary
  /-- `OtherPreferencesKey` -/
  other : Option Dictionary

namespace TouchpadPreferences

variable (list : TouchpadPreferences)

/-- `_pSmoothLevel`, after "Reset to max". -/
def pSmoothLevel : UInt8 :=
  match list.pointer with
  | none => PointerSettings.default.pSmoothLevel
  | some dict =>
    let level := readPlistKey dict "PointerSmoothLevel"
    if level > 20 then 20 else level

/-- `_zoom.pinchDeltaScale`, which nothing else sets. -/
def pinchDeltaScale : UInt8 :=
  match list.other with
  | none => 0
  | some dict => readPlistKey dict "PinchDeltaScale"

/-- The pointer's settings, the rest of which may be anything. -/
def pointing (rest : PointerSettings) : PointerSettings := { rest with pSmoothLevel := list.pSmoothLevel }

def pinching (rest : PinchSettings) : PinchSettings := { rest with pinchDeltaScale := list.pinchDeltaScale }

end TouchpadPreferences

/-- The key is a number whose low eight bits are not zero. -/
def Sets (dict : Dictionary) (key : String) : Prop := ∃ value, dict key = some (.number value) ∧ value.toUInt8 ≠ 0

theorem readPlistKey_ne_zero_iff (dict : Dictionary) (key : String) : readPlistKey dict key ≠ 0 ↔ Sets dict key := by
  unfold readPlistKey Sets
  cases hkey : dict key with
  | none => simp
  | some found =>
    cases found with
    | number value => simp
    | boolean value => simp
    | object => simp

namespace TouchpadPreferences

/-- Only a dictionary without the key leaves no smoothing level. -/
theorem pSmoothLevel_ne_zero_iff (list : TouchpadPreferences) :
    list.pSmoothLevel ≠ 0 ↔ ∀ dict, list.pointer = some dict → Sets dict "PointerSmoothLevel" := by
  unfold pSmoothLevel
  cases hpointer : list.pointer with
  | none => exact iff_of_true (by decide) fun dict h => absurd h (by simp)
  | some dict =>
    have hcapped : ∀ level : UInt8, (if level > 20 then 20 else level) ≠ 0 ↔ level ≠ 0 := by
      intro level
      split
      · next hmax => exact iff_of_true (by decide) (UInt8.ne_of_lt (UInt8.lt_trans (by decide) hmax)).symm
      · exact Iff.rfl
    show (if readPlistKey dict _ > 20 then 20 else readPlistKey dict _) ≠ 0 ↔ _
    rw [hcapped, readPlistKey_ne_zero_iff]
    constructor
    · intro h other hother
      cases hother
      exact h
    · intro h
      exact h dict rfl

theorem pinchDeltaScale_ne_zero_iff (list : TouchpadPreferences) :
    list.pinchDeltaScale ≠ 0 ↔ ∃ dict, list.other = some dict ∧ Sets dict "PinchDeltaScale" := by
  unfold pinchDeltaScale
  cases hother : list.other with
  | none => simp
  | some dict =>
    show readPlistKey dict "PinchDeltaScale" ≠ 0 ↔ _
    rw [readPlistKey_ne_zero_iff]
    simp

end TouchpadPreferences

/-! The timer of the pointer. -/

/-- What the timer finds when it fires. -/
structure PointerTick where
  palmDetected : Bool
  accidentalInput : Bool
  /-- Since `_lastDataTime`, in nanoseconds. -/
  elapsed : UInt64

inductive PointerTicked where
  | stopped
  /-- "Data timeout exceeded for pointer acceleration" -/
  | reconnected
  /-- What is dispatched, and the new timeout. -/
  | armed (sent : Option (Int × Int)) (timeout : Int)
  deriving DecidableEq

/-- A quotient that may fault. -/
def quotient (a : Int) (divisor : Nat) : Option Int := if divisor = 0 then none else some (a.tdiv divisor)

namespace Pointer

variable (c : PointerSettings)

def pointerDelay : Nat := if c.pAccelCustom > 0 then c.pAccelCustom.toNat else 15

def smoothFactor (s : Pointer) : Nat :=
  let level := c.pSmoothLevel.toNat
  let pDx := s.pDx.natAbs
  let pDy := s.pDy.natAbs
  let factor :=
    if pDx ≠ 0 ∧ level > pDx ∨ pDy ≠ 0 ∧ level > pDy then
      if pDx > pDy ∧ pDy ≠ 0 then pDy else if pDx ≠ 0 then pDx else level
    else level
  if factor > pointerDelay c then pointerDelay c else factor

/-- "Smoothing in quarters", one axis. -/
def smoothedAxis (factor : Nat) (d : Int) : Option Int :=
  if d < 0 then (quotient (d - d % 2) factor).map fun q => if q = 0 then -1 else q
  else if d > 0 then (quotient (d + d % 2) factor).map fun q => if q = 0 then 1 else q
  else some 0

/-- `none` is a division by zero. -/
def EnhancePointerAcceleration (t : PointerTick) (s : Pointer) : Option PointerTicked :=
  if t.palmDetected || t.accidentalInput then some .stopped
  else if s.pContinuousMove then
    if t.elapsed > c.pAccelCustom.toUInt64 * 1000000 then
      if t.elapsed > 3000000000 then some .reconnected
      else (quotient 15 c.pSmoothLevel.toNat).map (.armed none)
    else
      let factor := s.smoothFactor c
      (smoothedAxis factor s.pDx).bind fun dxAxis =>
        (smoothedAxis factor s.pDy).bind fun dyAxis =>
          (quotient (pointerDelay c) factor).map (.armed (some (dxAxis, dyAxis)))
  else some .stopped

variable {c}

theorem quotient_eq_none_iff (a : Int) (divisor : Nat) : quotient a divisor = none ↔ divisor = 0 := by
  unfold quotient
  split <;> simp [*]

theorem pointerDelay_pos (c : PointerSettings) : 0 < pointerDelay c := by
  unfold pointerDelay
  split
  · next hcustom => exact UInt8.lt_iff_toNat_lt.mp hcustom
  · decide

/-- The factor is replaced by numbers that are not zero only. -/
theorem smoothFactor_eq_zero_iff (c : PointerSettings) (s : Pointer) : s.smoothFactor c = 0 ↔ c.pSmoothLevel = 0 := by
  have hdelay := pointerDelay_pos c
  rw [← UInt8.toNat_inj, UInt8.toNat_zero]
  unfold smoothFactor
  dsimp only
  split_ifs <;> omega

theorem smoothedAxis_of_factor {factor : Nat} (h : factor ≠ 0) (d : Int) : ∃ q, smoothedAxis factor d = some q := by
  have hquotient : ∀ a, ∃ q, quotient a factor = some q := fun a => ⟨_, if_neg h⟩
  unfold smoothedAxis
  split
  · obtain ⟨q, hq⟩ := hquotient (d - d % 2)
    exact ⟨_, by rw [hq]; rfl⟩
  · split
    · obtain ⟨q, hq⟩ := hquotient (d + d % 2)
      exact ⟨_, by rw [hq]; rfl⟩
    · exact ⟨0, rfl⟩

/-- The timer comes to its divisions. -/
def ticks (t : PointerTick) (s : Pointer) : Prop :=
  t.palmDetected = false ∧ t.accidentalInput = false ∧ s.pContinuousMove = true ∧ t.elapsed ≤ 3000000000

/-- The custom acceleration ends long before the data timeout. -/
theorem le_timeout {elapsed : UInt64} (h : ¬ elapsed > c.pAccelCustom.toUInt64 * 1000000) : elapsed ≤ 3000000000 := by
  have hcustom := c.pAccelCustom.toNat_lt
  have hle : elapsed.toNat ≤ (c.pAccelCustom.toUInt64 * 1000000).toNat := UInt64.le_iff_toNat_le.mp (UInt64.not_lt.mp h)
  rw [UInt64.toNat_mul, UInt8.toNat_toUInt64, show (1000000 : UInt64).toNat = 1000000 from rfl,
    Nat.mod_eq_of_lt (by omega)] at hle
  rw [UInt64.le_iff_toNat_le, show (3000000000 : UInt64).toNat = 3000000000 from rfl]
  omega

/-- Where the timer ticks, its last division is executed in any case. -/
theorem enhance_eq_none_iff (t : PointerTick) (s : Pointer) :
    s.EnhancePointerAcceleration c t = none ↔ s.ticks t ∧ c.pSmoothLevel = 0 := by
  unfold EnhancePointerAcceleration ticks
  split
  · next hstop =>
    refine iff_of_false (by simp) fun h => ?_
    rw [h.1.1, h.1.2.1] at hstop
    exact Bool.false_ne_true hstop
  · next hstop =>
    obtain ⟨hpalm, haccidental⟩ := Bool.or_eq_false_iff.mp (Bool.eq_false_iff.mpr hstop)
    split
    · next hmove =>
      split
      · next hlate =>
        split
        · next htimeout => exact iff_of_false (by simp) fun h => UInt64.not_le.mpr htimeout h.1.2.2.2
        · next htimeout =>
          rw [Option.map_eq_none_iff, quotient_eq_none_iff, ← UInt8.toNat_inj, UInt8.toNat_zero]
          exact ⟨fun h => ⟨⟨hpalm, haccidental, hmove, UInt64.not_lt.mp htimeout⟩, h⟩, fun h => h.2⟩
      · next hearly =>
        dsimp only
        -- the divisor is zero just when the level is
        by_cases hlevel : c.pSmoothLevel = 0
        · refine iff_of_true ?_ ⟨⟨hpalm, haccidental, hmove, le_timeout hearly⟩, hlevel⟩
          rw [(smoothFactor_eq_zero_iff c s).mpr hlevel, (quotient_eq_none_iff _ 0).mpr rfl]
          cases smoothedAxis 0 s.pDx with
          | none => rfl
          | some dxAxis =>
            cases smoothedAxis 0 s.pDy with
            | none => rfl
            | some dyAxis => rfl
        · have hfactor : s.smoothFactor c ≠ 0 := fun h => hlevel ((smoothFactor_eq_zero_iff c s).mp h)
          obtain ⟨dxAxis, hx⟩ := smoothedAxis_of_factor hfactor s.pDx
          obtain ⟨dyAxis, hy⟩ := smoothedAxis_of_factor hfactor s.pDy
          refine iff_of_false ?_ fun h => hlevel h.2
          rw [hx, hy]
          show ¬ (quotient _ _).map _ = none
          rw [Option.map_eq_none_iff, quotient_eq_none_iff]
          exact hfactor
    · next hmove => exact iff_of_false (by simp) fun h => hmove h.1.2.2.1

end Pointer

namespace TwoFingers

/-- A pinch divides if one finger moves against the other one and further. -/
theorem zoomClass_eq_none_iff (c : PinchSettings) (s : TwoFingers) :
    s.zoomClass c = none ↔ (s.mayZoom c = true ∧ s.opposesLeading c) ∧ c.pinchDeltaScale = 0 := by
  cases hzoom : s.mayZoom c with
  | false =>
    rw [zoomClass_of_still hzoom]
    simp
  | true =>
    by_cases hscale : c.pinchDeltaScale = 0
    · rw [zoomClass_of_zero hscale hzoom]
      by_cases hlead : s.opposesLeading c <;> simp [hlead, hscale]
    · rw [zoomClass_of_scale hscale hzoom]
      exact iff_of_false (by simp) fun h => hscale h.2

end TwoFingers

namespace TouchpadPreferences

/-- Every division that the timer and a packet of two fingers execute has a divisor. -/
def Divides (list : TouchpadPreferences) (c : PointerSettings) (z : PinchSettings) (t : PointerTick) (s : Pointer)
    (fingers : TwoFingers) : Prop :=
  s.EnhancePointerAcceleration (list.pointing c) t ≠ none ∧ fingers.zoomClass (list.pinching z) ≠ none

theorem divides_iff (list : TouchpadPreferences) (c : PointerSettings) (z : PinchSettings) (t : PointerTick) (s : Pointer)
    (fingers : TwoFingers) : list.Divides c z t s fingers ↔
      (s.ticks t → ∀ dict, list.pointer = some dict → Sets dict "PointerSmoothLevel") ∧
        (fingers.mayZoom (list.pinching z) = true ∧ fingers.opposesLeading (list.pinching z) →
          ∃ dict, list.other = some dict ∧ Sets dict "PinchDeltaScale") := by
  unfold Divides
  rw [← pSmoothLevel_ne_zero_iff, ← pinchDeltaScale_ne_zero_iff, ne_eq, ne_eq, Pointer.enhance_eq_none_iff,
    TwoFingers.zoomClass_eq_none_iff, not_and, not_and]
  rfl

/-- Both dictionaries, without the divisors. -/
def undivided : TouchpadPreferences :=
  { pointer := some fun key => if key = "PointerSmoothSamples" then some (.number 5) else none
    other := some fun key => if key = "PinchZoom" then some (.boolean true) else none }

/-- With the custom acceleration, the first movement of a finger starts the timer, and the timer divides by zero. So does
a pinch. -/
theorem divides_undivided :
    let c : PointerSettings := undivided.pointing { PointerSettings.default with pAccelCustom := 15 }
    let moved := (Pointer.begun.packet c
      { xDelta := 40, yDelta := 0, pressure := 40, packetsCount := 3, triggered := true, isQuickTap := false
        isTapGesture := false, inDisabledArea := false }).2
    let tick : PointerTick := { palmDetected := false, accidentalInput := false, elapsed := 1000000 }
    moved.EnhancePointerAcceleration c tick = none ∧
      TwoFingers.leadsByHand.2.zoomClass (undivided.pinching TwoFingers.leadsByHand.1) = none ∧
        ¬ undivided.Divides c TwoFingers.leadsByHand.1 tick moved TwoFingers.leadsByHand.2 := by
  intro c moved tick
  have htimer : moved.EnhancePointerAcceleration c tick = none := by decide +kernel
  have hpinch : TwoFingers.leadsByHand.2.zoomClass (undivided.pinching TwoFingers.leadsByHand.1) = none := by
    decide +kernel
  exact ⟨htimer, hpinch, fun h => h.1 htimer⟩

end TouchpadPreferences
end ApplePS2
