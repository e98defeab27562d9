import ApplePS2.Touchpad.Notifications
import ApplePS2.Transition
import Mathlib.Algebra.Order.Ring.Rat
import Mathlib.Tactic.NormNum
import Mathlib.Tactic.Linarith
import Mathlib.Tactic.Positivity
import Mathlib.Tactic.Ring

/- The direction and the speed of scrolling: the sign and the magnitude of
   `_scrollFactor`, which is read from the property list once, set anew from the
   preference pane (`setParamProperties`) and changed in place by notifications.

   1. `direction_receive` says what a notification does to the factor and to the toggle
      key that is held.
   2. `directed_iff`: in every state of a run the sign says the direction just when
      no level is set and no toggle key reset while the direction is another one.
   3. `speed_run`: over notifications the magnitude is doubled and halved as often as
      they say. -/
namespace ApplePS2

open Transition

/-- What the property list and the preference pane say of scrolling. -/
structure ScrollSettings where
  levelAtBoot : UInt8
  levelFactor : UInt8
  levelGranularity : UInt8
  accelMode2F : UInt8
  scrollAccell : UInt64

structure ScrollDriver where
  scroll : ScrollSettings
  touchpad : Touchpad

namespace ScrollDriver

variable (w : TouchpadWorld)

/-- The acceleration and the factor of the level in the property list. There is none above 10. -/
def bootLevel (osxVersion levelAtBoot : UInt8) : Option (UInt64 × Nat) :=
  let v10 := decide (osxVersion ≥ 10)
  if levelAtBoot = 1 then some (0, 1)
  else if levelAtBoot = 2 then some (2 * 4096, 2)
  else if levelAtBoot = 3 then some (if v10 then 3 * 4096 else 8 * 4096, 3)
  else if levelAtBoot = 4 then some (if v10 then 5 * 4096 else 11 * 4096, 4)
  else if levelAtBoot = 5 then some (if v10 then 8 * 4096 else 14 * 4096, 5)
  else if levelAtBoot = 6 then some (if v10 then 12 * 4096 else 16 * 4096, 6)
  else if levelAtBoot = 7 then some (if v10 then 16 * 4096 else 24 * 4096, 7)
  else if levelAtBoot = 8 then some (if v10 then 24 * 4096 else 32 * 4096, 8)
  else if levelAtBoot = 9 then some (40 * 4096, 9)
  else if levelAtBoot = 10 then some (48 * 4096, 10)
  else none

/-- The factor of the preference pane's level, "for smoothing". -/
def prefLevel (osxVersion prefscrollFactor : UInt8) : Nat :=
  let v10 := decide (osxVersion ≥ 10)
  if prefscrollFactor = 0 then 1
  else if prefscrollFactor = 2 then 2
  else if prefscrollFactor = 3 then 3
  else if prefscrollFactor = 8 then (if v10 then 5 else 3)
  else if prefscrollFactor = 5 || prefscrollFactor = 11 then 4
  else if prefscrollFactor = 14 then 5
  else if prefscrollFactor = 12 then 6
  else if prefscrollFactor = 16 then (if v10 then 7 else 6)
  else if prefscrollFactor = 24 then (if v10 then 8 else 7)
  else if prefscrollFactor = 32 then 8
  else if prefscrollFactor = 40 then 9
  else if prefscrollFactor = 48 then 10
  else 0

/-- "Calculate scroll factor based on plist values granularity and level factor." -/
def scaled (osxVersion : UInt8) (scroll : ScrollSettings) (factor : Rat) : Rat :=
  let factor := if scroll.levelFactor > 0 then factor * scroll.levelFactor.toNat else factor
  let factor := if scroll.levelGranularity > 0 then factor * scroll.levelGranularity.toNat / 100 else factor
  if scroll.accelMode2F > 2 then (if osxVersion ≥ 10 then factor / 8 else factor / 10) else factor

/-- The acceleration, the level at boot that is left, and the factor before it is scaled if it is set. -/
def scrollLevel (osxVersion : UInt8) (scroll : ScrollSettings) : Option UInt64 → UInt64 × UInt8 × Option Nat
  | some saccell =>
    -- "Fix the broken value for level 8 in OSX 10.10"
    let scrollAccell := if saccell = 655 then 24 * 4096 else saccell
    if scroll.levelAtBoot ≠ 0 then
      match bootLevel osxVersion scroll.levelAtBoot with
      | some (accell, factor) => (accell, 0, some factor)
      | none => (scrollAccell, 0, none)
    else (scrollAccell, 0, some (prefLevel osxVersion (scrollAccell / 4096).toUInt8))
  | none => (if osxVersion ≥ 10 then 8 * 4096 else 11 * 4096, scroll.levelAtBoot, some 4)

/-- `setParamProperties`, what it does with the acceleration of scrolling. -/
def setParamProperties (saccell : Option UInt64) (d : ScrollDriver) : ScrollDriver :=
  let osxVersion := d.touchpad.osxVersion
  let (scrollAccell, levelAtBoot, factor) := scrollLevel osxVersion d.scroll saccell
  let factor := scaled osxVersion d.scroll (match factor with
    | some factor => factor
    | none => d.touchpad.scrollFactor)
  { d with
    scroll.scrollAccell := scrollAccell
    scroll.levelAtBoot := levelAtBoot
    touchpad.scrollFactor := factor }

/-- `ReadSTDPlistConfig`, what it does with the direction of scrolling. -/
def ReadSTDPlistConfig (changeFlow : Bool) (scroll : ScrollSettings) (d : ScrollDriver) : ScrollDriver :=
  let factor := if changeFlow then d.touchpad.scrollFactor * -1 else d.touchpad.scrollFactor
  { d with scroll := scroll, touchpad.scrollFactor := factor }

/-- The driver after its start: no factor is set when the property list is read. -/
def started (changeFlow : Bool) (scroll : ScrollSettings) (s : Touchpad) : ScrollDriver :=
  ReadSTDPlistConfig changeFlow scroll
    { scroll := scroll, touchpad := { s with scrollFactor := 0, kbEvent.isToggleKeyOnHold := false } }

inductive Event where
  | notification (w : TouchpadWorld) (n : PS2Notification)
  | setParamProperties (saccell : Option UInt64)

def step (d : ScrollDriver) : Event → ScrollDriver
  | .notification w n => { d with touchpad := d.touchpad.receiveKeyboardNotifications w n }
  | .setParamProperties saccell => d.setParamProperties saccell

end ScrollDriver

/-! The factor and the key. -/

/-- The factor, and whether the toggle key is held. -/
structure Direction where
  factor : Rat
  onHold : Bool

/-- What a notification does. -/
def Direction.receive (n : PS2Notification) (d : Direction) : Direction :=
  match n with
  | .kPS2C_ESC => if d.onHold then ⟨|d.factor|, false⟩ else d
  | .kPS2C_ShiftKey => ⟨-d.factor, !d.onHold⟩
  | .kPS2C_CNTRL_Feature_on => { d with factor := d.factor * 2 }
  | .kPS2C_CNTRL_Feature_off => { d with factor := d.factor / 2 }
  | _ => d

/-- The sign of a factor that is set says whether the direction is changed. -/
def Direction.Holds (changeFlow : Bool) (d : Direction) : Prop :=
  d.factor ≠ 0 → (d.factor < 0 ↔ (changeFlow ^^ d.onHold) = true)

namespace Touchpad

variable {w : TouchpadWorld}

def direction (s : Touchpad) : Direction := ⟨s.scrollFactor, s.kbEvent.isToggleKeyOnHold⟩

theorem direction_restoreTouchpad (s : Touchpad) : (s.restoreTouchpad w).direction = s.direction := by
  have hreconnect := Reconnect_touchpad_same (w := w) direction (fun _ => rfl) (fun _ _ => rfl) (fun _ => rfl) s
  unfold restoreTouchpad
  generalize (s.Reconnect_touchpad w).2 = t at hreconnect ⊢
  exact hreconnect

theorem direction_clearToggleKey (s : Touchpad) :
    s.clearToggleKey.direction = s.direction.receive .kPS2C_ESC := by
  have habs : ∀ q : Rat, (if q < 0 then 0 - q else q) = |q| := by
    intro q
    split
    · next hneg => rw [abs_of_neg hneg, zero_sub]
    · next hpos => rw [abs_of_nonneg (not_lt.mp hpos)]
  unfold clearToggleKey Direction.receive direction
  split
  · show Direction.mk (if s.scrollFactor < 0 then 0 - s.scrollFactor else s.scrollFactor) false = _
    rw [habs]
  · rfl

theorem direction_releaseDrag (s : Touchpad) : s.releaseDrag.direction = s.direction := by
  unfold releaseDrag
  split <;> rfl

theorem direction_releaseAppSwitch (s : Touchpad) : s.releaseAppSwitch.direction = s.direction := by
  unfold releaseAppSwitch
  split <;> rfl

theorem direction_escape (now : UInt64) (s : Touchpad) :
    (s.escape now).direction = s.direction.receive .kPS2C_ESC := by
  calc (s.escape now).direction
    _ = { s with swipe.isInFullScreen := false, tap.count := 0 }.clearToggleKey.releaseDrag.releaseAppSwitch.direction :=
      rfl
    _ = { s with swipe.isInFullScreen := false, tap.count := 0 }.clearToggleKey.direction := by
      rw [direction_releaseAppSwitch, direction_releaseDrag]
    _ = s.direction.receive .kPS2C_ESC := direction_clearToggleKey _

theorem direction_receive (n : PS2Notification) (s : Touchpad) :
    (s.receiveKeyboardNotifications w n).direction = s.direction.receive n := by
  cases n with
  | kPS2C_ESC => exact direction_escape _ s
  | kPS2C_RestoreTouchpad => exact direction_restoreTouchpad s
  | kPS2C_ShiftKey => exact congrArg (Direction.mk · _) (zero_sub _)
  | kPS2C_KeybrdBackLightOff =>
    show s.backLightOff.direction = s.direction
    unfold backLightOff
    split <;> rfl
  | kPS2C_KeybrdBackLightOn =>
    show (s.backLightOn _).direction = s.direction
    unfold backLightOn
    dsimp only
    split <;> rfl
  | _ => rfl

end Touchpad

theorem Direction.holds_receive {changeFlow : Bool} {n : PS2Notification} {d : Direction}
    (h : d.Holds changeFlow) :
    (d.receive n).Holds changeFlow ↔ (n = .kPS2C_ESC → d.onHold = true → d.factor ≠ 0 → changeFlow = false) := by
  by_cases hzero : d.factor = 0
  · -- a factor that is not set stays so
    have hreceive : (d.receive n).factor = 0 := by
      unfold receive
      split
      · split
        · simp [hzero]
        · exact hzero
      · simp [hzero]
      · simp [hzero]
      · simp [hzero]
      · exact hzero
    exact ⟨fun _ _ _ hset => absurd hzero hset, fun _ hset => absurd hreceive hset⟩
  have hsign := h hzero
  obtain ⟨q, onHold⟩ := d
  dsimp only at hzero hsign
  unfold Holds receive
  cases n with
  | kPS2C_ESC =>
    cases onHold with
    | false => exact iff_of_true h (fun _ hheld => Bool.noConfusion hheld)
    | true =>
      have hpos : ¬ |q| < 0 := not_lt.mpr (abs_nonneg q)
      simp [hpos, hzero]
  | kPS2C_ShiftKey =>
    have hneg : -q < 0 ↔ ¬ q < 0 := by
      rw [neg_lt_zero, not_lt]
      exact ⟨le_of_lt, fun hle => lt_of_le_of_ne hle (Ne.symm hzero)⟩
    have hflip : (changeFlow ^^ !onHold) = true ↔ ¬ (changeFlow ^^ onHold) = true := by
      cases changeFlow <;> cases onHold <;> decide
    simp only [hneg, hsign, hflip]
    simp
  | kPS2C_CNTRL_Feature_on =>
    have hscaled : q * 2 < 0 ↔ q < 0 := by constructor <;> intro hlt <;> linarith
    simp only [hscaled, hsign]
    simp
  | kPS2C_CNTRL_Feature_off =>
    have hscaled : q / 2 < 0 ↔ q < 0 := by constructor <;> intro hlt <;> linarith
    simp only [hscaled, hsign]
    simp
  | _ => exact iff_of_true h (fun hescape => PS2Notification.noConfusion hescape)

namespace ScrollDriver

/-- The factor is the number of the level. -/
theorem bootLevel_level (v : UInt8) {l : UInt8} (hlow : 1 ≤ l) (hhigh : l ≤ 10) :
    ∃ a, bootLevel v l = some (a, l.toNat) := by
  have hlevels : l = 1 ∨ l = 2 ∨ l = 3 ∨ l = 4 ∨ l = 5 ∨ l = 6 ∨ l = 7 ∨ l = 8 ∨ l = 9 ∨ l = 10 := by
    simp only [UInt8.le_iff_toNat_le, ← UInt8.toNat_inj] at hlow hhigh ⊢
    simp at hlow hhigh ⊢
    omega
  rcases hlevels with rfl | rfl | rfl | rfl | rfl | rfl | rfl | rfl | rfl | rfl
  all_goals exact ⟨_, rfl⟩

theorem bootLevel_none (v : UInt8) {l : UInt8} (h : l = 0 ∨ 10 < l) : bootLevel v l = none := by
  have hne : ∀ k : UInt8, 1 ≤ k → k ≤ 10 → l ≠ k := by
    rintro k hlow hhigh rfl
    rcases h with rfl | hover
    · exact absurd hlow (by decide)
    · exact absurd (UInt8.lt_of_lt_of_le hover hhigh) (UInt8.lt_irrefl _)
  unfold bootLevel
  dsimp only
  rw [if_neg (hne 1 (by decide) (by decide)), if_neg (hne 2 (by decide) (by decide)),
    if_neg (hne 3 (by decide) (by decide)), if_neg (hne 4 (by decide) (by decide)),
    if_neg (hne 5 (by decide) (by decide)), if_neg (hne 6 (by decide) (by decide)),
    if_neg (hne 7 (by decide) (by decide)), if_neg (hne 8 (by decide) (by decide)),
    if_neg (hne 9 (by decide) (by decide)), if_neg (hne 10 (by decide) (by decide))]

theorem bootLevel_cases (v l : UInt8) :
    (l = 0 ∨ 10 < l) ∧ bootLevel v l = none ∨
      ¬(l = 0 ∨ 10 < l) ∧ 0 < l.toNat ∧ ∃ a, bootLevel v l = some (a, l.toNat) := by
  by_cases hout : l = 0 ∨ 10 < l
  · exact .inl ⟨hout, bootLevel_none v hout⟩
  · obtain ⟨hzero, hover⟩ := not_or.mp hout
    have hpos : 0 < l.toNat := Nat.pos_of_ne_zero fun h => hzero (UInt8.toNat_inj.mp h)
    exact .inr ⟨hout, hpos, bootLevel_level v (UInt8.le_iff_toNat_le.mpr hpos) (UInt8.not_lt.mp hover)⟩

theorem bootLevel_pos {v l : UInt8} {a : UInt64} {factor : Nat} (h : bootLevel v l = some (a, factor)) :
    0 < factor := by
  obtain ⟨-, hnone⟩ | ⟨-, hpos, a', hlevel⟩ := bootLevel_cases v l
  · rw [hnone] at h
    cases h
  · rw [hlevel] at h
    cases h
    exact hpos

theorem bootLevel_eq_none (v l : UInt8) : bootLevel v l = none ↔ l = 0 ∨ 10 < l := by
  obtain ⟨hout, hnone⟩ | ⟨hin, -, a, hlevel⟩ := bootLevel_cases v l
  · exact iff_of_true hnone hout
  · refine iff_of_false ?_ hin
    rw [hlevel]
    exact Option.some_ne_none _

/-- Scaling is by a positive number. -/
theorem scaled_eq (v : UInt8) (scroll : ScrollSettings) : ∃ c : Rat, 0 < c ∧ ∀ q, scaled v scroll q = q * c := by
  have hfactor : ∃ c : Rat, 0 < c ∧ ∀ q : Rat,
      (if scroll.levelFactor > 0 then q * scroll.levelFactor.toNat else q) = q * c := by
    split
    · next hpos => exact ⟨scroll.levelFactor.toNat, by exact_mod_cast UInt8.lt_iff_toNat_lt.mp hpos, fun q => rfl⟩
    · exact ⟨1, one_pos, fun q => (mul_one q).symm⟩
  have hgranularity : ∃ c : Rat, 0 < c ∧ ∀ q : Rat,
      (if scroll.levelGranularity > 0 then q * scroll.levelGranularity.toNat / 100 else q) = q * c := by
    split
    · next hpos =>
      have hpos' : (0 : Rat) < scroll.levelGranularity.toNat := by exact_mod_cast UInt8.lt_iff_toNat_lt.mp hpos
      exact ⟨scroll.levelGranularity.toNat / 100, by positivity, fun q => mul_div_assoc q _ _⟩
    · exact ⟨1, one_pos, fun q => (mul_one q).symm⟩
  have hmode : ∃ c : Rat, 0 < c ∧ ∀ q : Rat,
      (if scroll.accelMode2F > 2 then (if v ≥ 10 then q / 8 else q / 10) else q) = q * c := by
    split
    · split
      · exact ⟨1 / 8, by norm_num, fun q => div_eq_mul_one_div q 8⟩
      · exact ⟨1 / 10, by norm_num, fun q => div_eq_mul_one_div q 10⟩
    · exact ⟨1, one_pos, fun q => (mul_one q).symm⟩
  obtain ⟨a, ha, hfactor⟩ := hfactor
  obtain ⟨b, hb, hgranularity⟩ := hgranularity
  obtain ⟨c, hc, hmode⟩ := hmode
  refine ⟨a * b * c, mul_pos (mul_pos ha hb) hc, fun q => ?_⟩
  unfold scaled
  dsimp only
  rw [hmode, hgranularity, hfactor]
  ring

/-- A call sets a level that is not zero: one is given in the property list, or by the
preference pane, or none is given at all. -/
def setsLevel (osxVersion : UInt8) (scroll : ScrollSettings) : Option UInt64 → Prop
  | none => True
  | some saccell =>
    if scroll.levelAtBoot ≠ 0 then scroll.levelAtBoot ≤ 10
    else prefLevel osxVersion ((if saccell = 655 then 24 * 4096 else saccell) / 4096).toUInt8 ≠ 0

/-- The level a call sets, if there is one. -/
theorem scrollLevel_cases (v : UInt8) (scroll : ScrollSettings) (saccell : Option UInt64) :
    (setsLevel v scroll saccell ∧ ∃ factor, (scrollLevel v scroll saccell).2.2 = some factor ∧ 0 < factor) ∨
      ¬ setsLevel v scroll saccell ∧
        ((scrollLevel v scroll saccell).2.2 = some 0 ∨ (scrollLevel v scroll saccell).2.2 = none) := by
  cases saccell with
  | none => exact .inl ⟨trivial, 4, rfl, by decide⟩
  | some saccell =>
    unfold setsLevel scrollLevel
    dsimp only
    by_cases hboot : scroll.levelAtBoot ≠ 0
    · rw [if_pos hboot, if_pos hboot]
      cases hlevel : bootLevel v scroll.levelAtBoot with
      | none =>
        have hover : 10 < scroll.levelAtBoot := ((bootLevel_eq_none _ _).mp hlevel).resolve_left hboot
        exact .inr ⟨UInt8.not_le.mpr hover, .inr rfl⟩
      | some level =>
        have hle : scroll.levelAtBoot ≤ 10 := by
          apply UInt8.not_lt.mp
          intro hover
          rw [(bootLevel_eq_none _ _).mpr (.inr hover)] at hlevel
          cases hlevel
        exact .inl ⟨hle, level.2, rfl, bootLevel_pos hlevel⟩
    · rw [if_neg hboot, if_neg hboot]
      by_cases hpref : prefLevel v ((if saccell = 655 then 24 * 4096 else saccell) / 4096).toUInt8 = 0
      · exact .inr ⟨fun h => h hpref, .inl (congrArg some hpref)⟩
      · exact .inl ⟨hpref, _, rfl, Nat.pos_of_ne_zero hpref⟩

/-! Runs. -/

def direction (d : ScrollDriver) : Direction := d.touchpad.direction

/-- The event does not set the sign of the factor to another direction than the one in use. -/
def KeepsDirection (changeFlow : Bool) (d : ScrollDriver) : Event → Prop
  | .notification _ n => n = .kPS2C_ESC → d.direction.onHold = true → d.direction.factor ≠ 0 → changeFlow = false
  | .setParamProperties saccell =>
    setsLevel d.touchpad.osxVersion d.scroll saccell → changeFlow = d.direction.onHold

theorem direction_setParamProperties (saccell : Option UInt64) (d : ScrollDriver) :
    ∃ c : Rat, 0 < c ∧ (d.setParamProperties saccell).direction =
      { d.direction with factor := (match (scrollLevel d.touchpad.osxVersion d.scroll saccell).2.2 with
        | some factor => (factor : Rat)
        | none => d.direction.factor) * c } := by
  obtain ⟨c, hc, hscaled⟩ := scaled_eq d.touchpad.osxVersion d.scroll
  refine ⟨c, hc, ?_⟩
  rw [← hscaled]
  rfl

theorem holds_setParamProperties {changeFlow : Bool} {d : ScrollDriver} (h : d.direction.Holds changeFlow)
    (saccell : Option UInt64) :
    (d.setParamProperties saccell).direction.Holds changeFlow ↔
      (setsLevel d.touchpad.osxVersion d.scroll saccell → changeFlow = d.direction.onHold) := by
  obtain ⟨c, hc, hdirection⟩ := direction_setParamProperties saccell d
  rw [hdirection]
  unfold Direction.Holds
  obtain ⟨hsets, factor, hlevel, hpos⟩ | ⟨hnot, hlevel | hlevel⟩ :=
    scrollLevel_cases d.touchpad.osxVersion d.scroll saccell
  · have hpos' : (0 : Rat) < factor * c := mul_pos (Nat.cast_pos.mpr hpos) hc
    have hsign : ¬ (factor : Rat) * c < 0 := not_lt.mpr hpos'.le
    simp [hlevel, hsets, hpos'.ne', hsign]
  · simp [hlevel, hnot]
  · -- no level is set: the factor is scaled once more
    have hneg : d.direction.factor * c < 0 ↔ d.direction.factor < 0 := by
      constructor <;> intro hlt <;> nlinarith
    simp only [hlevel, hnot, hneg, mul_ne_zero_iff_right hc.ne', false_implies, iff_true]
    exact h

theorem holds_step {changeFlow : Bool} (d : ScrollDriver) (e : Event) (h : d.direction.Holds changeFlow) :
    (d.step e).direction.Holds changeFlow ↔ KeepsDirection changeFlow d e := by
  cases e with
  | notification w n =>
    have hreceive : (d.step (.notification w n)).direction = d.direction.receive n :=
      Touchpad.direction_receive n d.touchpad
    rw [hreceive]
    exact Direction.holds_receive h
  | setParamProperties saccell => exact holds_setParamProperties h saccell

theorem holds_started (changeFlow : Bool) (scroll : ScrollSettings) (s : Touchpad) :
    (started changeFlow scroll s).direction.Holds changeFlow := by
  have hzero : (started changeFlow scroll s).direction.factor = 0 := by
    cases changeFlow with
    | false => rfl
    | true => exact zero_mul (-1 : Rat)
  exact fun hset => absurd hzero hset

/-! The speed. -/

def Event.isNotification : Event → Bool
  | .notification _ _ => true
  | .setParamProperties _ => false

def Event.isFeatureOn : Event → Bool
  | .notification _ .kPS2C_CNTRL_Feature_on => true
  | _ => false

def Event.isFeatureOff : Event → Bool
  | .notification _ .kPS2C_CNTRL_Feature_off => true
  | _ => false

theorem speed_receive (n : PS2Notification) (d : Direction) :
    |(d.receive n).factor| = match n with
      | .kPS2C_CNTRL_Feature_on => |d.factor| * 2
      | .kPS2C_CNTRL_Feature_off => |d.factor| / 2
      | _ => |d.factor| := by
  cases n with
  | kPS2C_ESC =>
    show |(if d.onHold then Direction.mk |d.factor| false else d).factor| = |d.factor|
    split
    · exact abs_abs d.factor
    · rfl
  | kPS2C_ShiftKey => exact abs_neg d.factor
  | kPS2C_CNTRL_Feature_on =>
    show |d.factor * 2| = |d.factor| * 2
    rw [abs_mul, abs_two]
  | kPS2C_CNTRL_Feature_off =>
    show |d.factor / 2| = |d.factor| / 2
    rw [abs_div, abs_two]
  | _ => rfl

/-- Over notifications the factor is doubled and halved as often as they say. -/
theorem speed_run (ls : List Event) (d : ScrollDriver) (h : ∀ e ∈ ls, e.isNotification = true) :
    |(run step ls d).direction.factor| * 2 ^ ls.countP Event.isFeatureOff =
      |d.direction.factor| * 2 ^ ls.countP Event.isFeatureOn := by
  induction ls generalizing d with
  | nil => rfl
  | cons e ls ih =>
    have hrest := ih (d.step e) (fun e' he => h e' (List.mem_cons_of_mem e he))
    show |(run step ls (d.step e)).direction.factor| * _ = _
    cases e with
    | setParamProperties saccell => exact Bool.noConfusion (h _ (List.mem_cons_self ..))
    | notification w n =>
      have hreceive : (d.step (.notification w n)).direction = d.direction.receive n :=
        Touchpad.direction_receive n d.touchpad
      rw [hreceive, speed_receive] at hrest
      rw [List.countP_cons, List.countP_cons]
      cases n with
      | kPS2C_CNTRL_Feature_on =>
        show _ * 2 ^ (ls.countP Event.isFeatureOff + 0) = _ * 2 ^ (ls.countP Event.isFeatureOn + 1)
        rw [add_zero, hrest]
        ring
      | kPS2C_CNTRL_Feature_off =>
        show _ * 2 ^ (ls.countP Event.isFeatureOff + 1) = _ * 2 ^ (ls.countP Event.isFeatureOn + 0)
        rw [add_zero, pow_succ, ← mul_assoc, hrest]
        ring
      | _ => exact hrest

theorem speed_balanced {ls : List Event} {d : ScrollDriver} (h : ∀ e ∈ ls, e.isNotification = true)
    (hbalanced : ls.countP Event.isFeatureOn = ls.countP Event.isFeatureOff) :
    |(run step ls d).direction.factor| = |d.direction.factor| := by
  have hrun := speed_run ls d h
  rw [hbalanced] at hrun
  have hpow : (2 : Rat) ^ ls.countP Event.isFeatureOff ≠ 0 := pow_ne_zero _ two_ne_zero
  exact mul_right_cancel₀ hpow hrun

/-- In every state of a run the sign of the factor says the direction, and balanced
notifications leave its magnitude, just when every step keeps the direction. -/
theorem directed_iff (changeFlow : Bool) (scroll : ScrollSettings) (s : Touchpad) (ls : List Event) :
    ((∀ p, p <+: ls → (run step p (started changeFlow scroll s)).direction.Holds changeFlow) ∧
      ∀ p q, p ++ q <+: ls → (∀ e ∈ q, e.isNotification = true) →
        q.countP Event.isFeatureOn = q.countP Event.isFeatureOff →
        |(run step (p ++ q) (started changeFlow scroll s)).direction.factor| =
          |(run step p (started changeFlow scroll s)).direction.factor|) ↔
      ∀ p e, p ++ [e] <+: ls → KeepsDirection changeFlow (run step p (started changeFlow scroll s)) e := by
  have hsign := run_invariant_iff (f := step) holds_step ls (holds_started changeFlow scroll s)
  rw [← hsign]
  constructor
  · intro h
    exact h.1
  · intro h
    refine ⟨h, fun p q _ hnotes hbalanced => ?_⟩
    rw [run_append]
    exact speed_balanced hnotes hbalanced

/-- The property list changes the direction, and the preference pane then sets a level: the factor is positive. -/
theorem changed_flow_lost :
    ¬ ∀ (changeFlow : Bool) (scroll : ScrollSettings) (s : Touchpad) (ls : List Event) (p : List Event), p <+: ls →
      (run step p (started changeFlow scroll s)).direction.Holds changeFlow := by
  intro h
  have hset := h true ⟨0, 0, 0, 0, 0⟩ Touchpad.init [.setParamProperties (some 8192)] _ (List.prefix_refl _)
  have hfactor : (run step [.setParamProperties (some 8192)]
      (started true ⟨0, 0, 0, 0, 0⟩ Touchpad.init)).direction = ⟨2, false⟩ := by rfl
  rw [hfactor] at hset
  have hnegative := (hset (by norm_num)).mpr rfl
  norm_num at hnegative

end ScrollDriver
end ApplePS2
