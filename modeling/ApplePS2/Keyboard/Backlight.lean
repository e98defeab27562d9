import ApplePS2.Keyboard.Lamps
import ApplePS2.Keyboard.SpecialKeys

/- The notification about the keyboard's backlight that every event ends with: on for the
   press of a key, off for its release. An event that the switch over the key codes has
   ended comes to it before `goingDown` is assigned.

   1. `told_processKey`, `backlight_processKey`: a key that is dispatched tells nothing
      itself, and the press of a backlight key may find out that there is no backlight.
   2. `told_event_iff`: exactly when an event tells its own direction.
   3. `backlight_turnedOff`: a press that turns the backlight off. -/
namespace ApplePS2

namespace Keyboard

variable {w : World}

/-- What has been told about the backlight. -/
def backlightTold (s : Keyboard) : List PS2Notification := s.notifications.filter (· ∈ backlightNotifications)

def backlightDirection (goingDown : Bool) : PS2Notification :=
  if goingDown then .kPS2C_KeybrdBackLightOn else .kPS2C_KeybrdBackLightOff

/-! A key. -/

theorem usesFnKey_congr {s s' : Keyboard} (h : s.modes = s'.modes) (keyCode : UInt8) :
    s.usesFnKey keyCode = s'.usesFnKey keyCode ∧ s.isBacklightKey keyCode = s'.isBacklightKey keyCode := by
  simp only [modes, Modes.mk.injEq] at h
  obtain ⟨hprefs, -, hfn, hmode, hbits, hcmd, hctrl, halt, hasus, htoggle, hpad, hpressed, hsleep, -⟩ := h
  simp only [usesFnKey, isBacklightKey, isFnKeyComb, fnModifiers, isKeyDown, hprefs, hfn, hmode, hbits, hcmd, hctrl,
    halt, hasus, htoggle, hpad, hpressed, hsleep, and_self]

/-- The key is pressed as one of the two backlight keys. -/
def triesKey (w : World) (keyCode : UInt8) (goingDown : Bool) (s : Keyboard) : Bool :=
  goingDown && !s.hasFunction keyCode &&
    (s.afterSpecialKeys w keyCode goingDown).usesFnKey (s.specialKeyCode keyCode) &&
    (s.afterSpecialKeys w keyCode goingDown).isBacklightKey (s.specialKeyCode keyCode)

theorem told_specialLamps (keyCode : UInt8) (goingDown : Bool) (s : Keyboard) :
    (s.specialLamps keyCode goingDown).told = s.lamps.told ∧
      (s.specialLamps keyCode goingDown).enabledAsusKBacklight = s.enabledAsusKBacklight := by
  unfold specialLamps
  repeat' split
  all_goals exact ⟨rfl, rfl⟩

theorem told_processKey (keyCode : UInt8) (goingDown : Bool) (s : Keyboard) :
    (s.processKey w keyCode goingDown).lamps.told = s.lamps.told := by
  rcases processKey_split w keyCode goingDown s with ⟨-, hsome⟩ | ⟨-, heq⟩
  · rw [lamps_ProcessExtendedFunctions w hsome]
  · have hspecial := lamps_parseSpecialKeys w keyCode goingDown s
    have hdispatch := lamps_dispatchKey w (s.parseSpecialKeys w keyCode goingDown).2 goingDown
      (s.parseSpecialKeys w keyCode goingDown).1
    unfold SameButLED at hdispatch
    rw [heq, hdispatch, hspecial]
    exact (told_specialLamps keyCode goingDown s).1

theorem backlight_processKey (keyCode : UInt8) (goingDown : Bool) (s : Keyboard) :
    (s.processKey w keyCode goingDown).enabledAsusKBacklight =
      if s.triesKey w keyCode goingDown then (w.gkbl 0).isSome else s.enabledAsusKBacklight := by
  unfold triesKey
  rcases processKey_split w keyCode goingDown s with ⟨hfun, hsome⟩ | ⟨hfun, heq⟩
  · simp only [hfun, Bool.not_true, Bool.and_false, Bool.false_and, Bool.false_eq_true, if_false]
    exact congrArg Lamps.enabledAsusKBacklight (lamps_ProcessExtendedFunctions w hsome)
  · obtain ⟨hkey, hmodes, -⟩ := @parseSpecialKeys_special w goingDown s keyCode
    have henabled : (s.parseSpecialKeys w keyCode goingDown).1.enabledAsusKBacklight = s.enabledAsusKBacklight :=
      (congrArg Lamps.enabledAsusKBacklight (lamps_parseSpecialKeys w keyCode goingDown s)).trans
        (told_specialLamps keyCode goingDown s).2
    have hdispatch := congrArg Lamps.enabledAsusKBacklight (lamps_dispatchKey w
      (s.parseSpecialKeys w keyCode goingDown).2 goingDown (s.parseSpecialKeys w keyCode goingDown).1)
    obtain ⟨huses, hbacklight⟩ := usesFnKey_congr hmodes (s.specialKeyCode keyCode)
    rw [heq, hfun, ← huses, ← hbacklight]
    refine hdispatch.trans ?_
    show backlightLeft w _ goingDown _ = _
    unfold backlightLeft backlightAfter
    rw [hkey, henabled, Bool.not_false, Bool.and_true]
    cases goingDown <;> cases (s.parseSpecialKeys w keyCode _).1.usesFnKey (s.specialKeyCode keyCode) <;> rfl

/-! An event. -/

/-- The event is the press of one of the two backlight keys, and has its function. -/
def triesBacklight (w : World) (e : ScanEvent) (s : Keyboard) : Bool :=
  match s.target e with
  | .done _ => false
  | .key extended keyCode _ => keyCode ≠ 0 && s.takes e &&
    ({ s with extendedCode := extended }.setKey keyCode e.goingDown).triesKey w keyCode e.goingDown

/-- What has been dispatched so far does not matter, unless the modifier positions are read. -/
theorem triesKey_congr (w : World) (goingDown : Bool) {keyCode : UInt8} (h : keyCode ∉ positionKeys) (s : Keyboard)
    (log : List Sent) (now : UInt64) :
    { s with log := log, now := now }.triesKey w keyCode goingDown = s.triesKey w keyCode goingDown := by
  have hmodes : ({ s with log := log, now := now }.afterSpecialKeys w keyCode goingDown).modes =
      (s.afterSpecialKeys w keyCode goingDown).modes := by
    simp [afterSpecialKeys, modes, when, h]
  obtain ⟨huses, hbacklight⟩ := usesFnKey_congr hmodes (s.specialKeyCode keyCode)
  unfold triesKey
  rw [← huses, ← hbacklight]
  rfl

theorem triesBacklight_key {e : ScanEvent} {s t : Keyboard} (hne : (s.target e).keyCode ≠ 0)
    (hset : (s.parse w e).1.updateKeyBitVector (s.target e).keyCode e.goingDown = some t) :
    s.triesBacklight w e = t.triesKey w (s.target e).keyCode e.goingDown := by
  have htakes := takes_parse (w := w) hne
  rw [hset] at htakes
  unfold triesBacklight
  cases htarget : s.target e with
  | done t =>
    rw [htarget] at hne
    exact absurd rfl hne
  | key extended keyCode codes =>
    rw [htarget] at hset hne
    have hne' : keyCode ≠ 0 := hne
    have hsame := key_congr htarget hset (fun t => t.triesKey w keyCode e.goingDown) (triesKey_congr w e.goingDown)
    show (keyCode ≠ 0 && s.takes e && _) = t.triesKey w keyCode e.goingDown
    rw [hsame, ← htakes]
    simp [hne']

theorem triesBacklight_discarded {e : ScanEvent} {s : Keyboard} (h : (s.target e).keyCode = 0 ∨ s.takes e = false) :
    s.triesBacklight w e = false := by
  unfold triesBacklight
  cases htarget : s.target e with
  | done t => rfl
  | key extended keyCode codes =>
    rw [htarget] at h
    rcases h with hzero | htakes
    · have hzero' : keyCode = 0 := hzero
      simp [hzero']
    · simp [htakes]

/-- A press or a release that is told. -/
theorem told_backlight (goingDown : Bool) {s : Keyboard} (h : s.enabledAsusKBacklight = true) :
    (s.dispatchKeyboardBacklightNotification goingDown).backlightTold =
      s.backlightTold ++ [backlightDirection goingDown] := by
  refine (congrArg Lamps.told (lamps_backlight goingDown s)).trans ?_
  exact if_pos h

theorem untold_backlight (goingDown : Bool) {s : Keyboard} (h : s.enabledAsusKBacklight = false) :
    (s.dispatchKeyboardBacklightNotification goingDown).backlightTold = s.backlightTold := by
  refine (congrArg Lamps.told (lamps_backlight goingDown s)).trans ?_
  exact if_neg (by simp [h])

/-- With the backlight enabled an event tells its own direction, and once, unless the switch has
ended it with the other value in `goingDown`, or the press of a backlight key finds that there is
no backlight. -/
theorem told_event_iff (e : ScanEvent) {s : Keyboard} (h : s.enabledAsusKBacklight = true) :
    (s.dispatchScanEvent w e).backlightTold = s.backlightTold ++ [backlightDirection e.goingDown] ↔
      ((s.target e).keyCode = 0 → w.goingDown = e.goingDown) ∧
      (s.triesBacklight w e = true → (w.gkbl 0).isSome = true) := by
  have hparse : (s.parse w e).1.lamps = s.lamps := lamps_parse w e s
  have hparsed : (s.parse w e).1.backlightTold = s.backlightTold := congrArg Lamps.told hparse
  have henabled : (s.parse w e).1.enabledAsusKBacklight = true :=
    (congrArg Lamps.enabledAsusKBacklight hparse).trans h
  have hcode := keyCode_parse (w := w) e s
  cases dispatchScanEvent_cases w e s with
  | done hzero heq =>
    have htries : s.triesBacklight w e = false := triesBacklight_discarded (.inl (hcode.symm.trans hzero))
    rw [heq, told_backlight _ henabled, hparsed, ← hcode, htries]
    have hdirection : backlightDirection w.goingDown = backlightDirection e.goingDown ↔ w.goingDown = e.goingDown := by
      cases w.goingDown <;> cases e.goingDown <;> decide
    simp [hzero, hdirection]
  | discarded hne hset hcontrol heq =>
    rw [hcode] at hne hset
    have htakes := takes_parse (w := w) hne
    rw [hset] at htakes
    have htries : s.triesBacklight w e = false := triesBacklight_discarded (.inr htakes.symm)
    rw [heq, told_backlight _ henabled, hparsed, htries]
    simp [hne]
  | key t hne hset hcontrol heq =>
    rw [hcode] at hne hset heq
    have htries := triesBacklight_key hne hset
    have hset' := updateKeyBitVector_eq hset
    have htold : (t.processKey w (s.target e).keyCode e.goingDown).backlightTold = s.backlightTold := by
      refine (told_processKey _ _ t).trans ?_
      rw [hset']
      exact hparsed
    have hafter := backlight_processKey (w := w) (s.target e).keyCode e.goingDown t
    have ht : t.enabledAsusKBacklight = true := by
      rw [hset']
      exact henabled
    rw [← htries, ht] at hafter
    rw [heq]
    -- an event ends with the direction, if the backlight is still enabled
    cases hfound : (t.processKey w (s.target e).keyCode e.goingDown).enabledAsusKBacklight with
    | true =>
      rw [told_backlight _ hfound, htold]
      rw [hfound] at hafter
      cases htried : s.triesBacklight w e with
      | true =>
        rw [htried, if_pos rfl] at hafter
        simp [hne, ← hafter]
      | false => simp [hne]
    | false =>
      rw [untold_backlight _ hfound, htold]
      rw [hfound] at hafter
      cases htried : s.triesBacklight w e with
      | true =>
        rw [htried, if_pos rfl] at hafter
        simp [← hafter]
      | false =>
        rw [htried] at hafter
        cases hafter

/-- The driver after `start`, with the backlight enabled. -/
def backlit : Keyboard := { afterStart with enabledAsusKBacklight := true }

theorem told_event_letter : (backlit.dispatchScanEvent quietWorld ⟨false, 0x1e, true⟩).backlightTold =
    backlit.backlightTold ++ [.kPS2C_KeybrdBackLightOn] := by
  have hkey : (backlit.target ⟨false, 0x1e, true⟩).keyCode ≠ 0 := by decide +kernel
  have htries : backlit.triesBacklight quietWorld ⟨false, 0x1e, true⟩ = false := by decide +kernel
  apply (told_event_iff (w := quietWorld) (s := backlit) ⟨false, 0x1e, true⟩ rfl).2
  rw [htries]
  exact ⟨fun h => absurd h hkey, fun h => absurd h Bool.false_ne_true⟩

/-- The press of a key that the switch handles itself, with `goingDown` left false. -/
theorem backlight_turnedOff : backlit.enabledAsusKBacklight = true ∧ quietWorld.goingDown = false ∧
    (backlit.dispatchScanEvent quietWorld ⟨true, 0x20, true⟩).backlightTold =
      backlit.backlightTold ++ [.kPS2C_KeybrdBackLightOff] :=
  ⟨rfl, rfl, by decide +kernel⟩

end Keyboard

end ApplePS2
