import ApplePS2.Keyboard.Translation

/- The switch over the special keys: it adds the presses of Caps Lock, ends with the
   key code of `specialKeyCode` and leaves the modes of `afterSpecialKeys`. -/
namespace ApplePS2.Keyboard

variable {w : World} {goingDown : Bool} {s : Keyboard}

/-- The part of the state that the dispatch of a key depends on. -/
structure Modes where
  prefs : Preferences
  maps : ADBMaps
  fn : FnKeys
  fnKeysModeNum : UInt8
  keyBitVector : UInt8 → Bool
  commandKey : UInt8
  contrlKey : UInt8
  altkey : UInt8
  enabledAsusKBacklight : Bool
  featureToggleMode : Bool
  isNumPadKey : Bool
  isFnKeyPressed : Bool
  displaySleep : Bool
  extendedCode : Bool

def modes (s : Keyboard) : Modes :=
  { prefs := s.prefs, maps := s.maps, fn := s.fn, fnKeysModeNum := s.fnKeysModeNum
    keyBitVector := s.keyBitVector, commandKey := s.commandKey, contrlKey := s.contrlKey, altkey := s.altkey
    enabledAsusKBacklight := s.enabledAsusKBacklight, featureToggleMode := s.featureToggleMode
    isNumPadKey := s.isNumPadKey, isFnKeyPressed := s.isFnKeyPressed, displaySleep := s.displaySleep
    extendedCode := s.extendedCode }

theorem dispatchCodes_congr {s' : Keyboard} (h : s.modes = s'.modes) (keyCode : UInt8) :
    s.dispatchCodes keyCode goingDown = s'.dispatchCodes keyCode goingDown := by
  simp only [modes, Modes.mk.injEq] at h
  obtain ⟨hprefs, hmaps, hfn, hmode, hbits, hcmd, hctrl, halt, hasus, htoggle, hpad, hpressed, hsleep, hext⟩ := h
  simp only [dispatchCodes, featureCodes, mediaCodes, isFnKeyComb, fnModifiers, isModifierKey, adbCode,
    isKeyDown, normalCode, extCode, hprefs, hmaps, hfn, hmode, hbits, hcmd, hctrl, halt, hasus, htoggle, hpad,
    hpressed, hsleep, hext]

/-! What does not change the modes. -/

theorem modes_when {f : Keyboard → Keyboard} (hf : ∀ s, (f s).modes = s.modes) (c : Bool) (s : Keyboard) :
    (s.when c f).modes = s.modes := by
  unfold when
  split
  · exact hf s
  · rfl

theorem modes_dispatch (c : UInt8) (d : Bool) (s : Keyboard) :
    (s.dispatchKeyboardKeyCode w c d).modes = s.modes := rfl

theorem modes_send (m : Sent) (s : Keyboard) : (s.send m).modes = s.modes := rfl

theorem modes_notify (n : PS2Notification) (s : Keyboard) : (s.notify n).modes = s.modes := rfl

theorem modes_setAlphaLockFeedback (locked : Bool) (s : Keyboard) :
    (s.setAlphaLockFeedback locked).modes = s.modes := rfl

theorem modes_setNumLockFeedback (locked : Bool) (s : Keyboard) :
    (s.setNumLockFeedback locked).modes = s.modes := by
  unfold setNumLockFeedback
  split <;> rfl

theorem modes_chord (ks : List UInt8) (s : Keyboard) : (s.chord w ks).modes = s.modes := by
  induction ks generalizing s with
  | nil => rfl
  | cons k ks ih => rw [chord, modes_dispatch, ih, modes_dispatch]

theorem modes_missionControl (s : Keyboard) :
    (s.receiveGesture w .kPS2C_Gesture_MissionControl).modes = s.modes := by
  have hheader : (s.receiveHeader w (UInt32.ofNat PS2Notification.kPS2C_Gesture_MissionControl.ctorIdx)).modes =
      s.modes := by
    unfold receiveHeader when
    rw [if_neg (by decide)]
    rfl
  unfold receiveGesture gesture
  dsimp only
  split
  · exact (modes_chord _ _).trans hheader
  · exact (modes_chord _ _).trans hheader

theorem modes_generateAndSeeADBCode (keyCode : UInt8) (d : Bool) (s : Keyboard) :
    (s.generateAndSeeADBCode w keyCode d).modes = s.modes := by
  unfold generateAndSeeADBCode
  split
  · rfl
  · split
    · exact modes_chord (w := w) [s.generatedCode] s
    · rfl

theorem modes_releaseGesture (keyCode : UInt8) (s : Keyboard) :
    (s.releaseGesture w keyCode).modes = s.modes := by
  unfold releaseGesture
  split
  · exact modes_when (modes_dispatch _ _) _ _
  · rfl

theorem modes_startFeatureToggle (s : Keyboard) :
    (s.startFeatureToggle w).modes = { s with featureToggleMode := true }.modes := rfl

/-- Only the positions and the time of the last reading change. -/
theorem readKeyboardModifiers_eq (w : World) (s : Keyboard) :
    ∃ cmd ctrl alt time, s.readKeyboardModifiers w =
      { s with commandKey := cmd, contrlKey := ctrl, altkey := alt, lastModifiersReadTime := time } := by
  have hfold : ∀ (modifiers : List ModifierPair) (s : Keyboard), ∃ cmd ctrl alt,
      modifiers.foldl mapModifier s = { s with commandKey := cmd, contrlKey := ctrl, altkey := alt } := by
    intro modifiers
    induction modifiers with
    | nil => exact fun s => ⟨s.commandKey, s.contrlKey, s.altkey, rfl⟩
    | cons p modifiers ih =>
      intro s
      obtain ⟨cmd, ctrl, alt, h⟩ := ih (mapModifier s p)
      rw [List.foldl_cons, h]
      unfold mapModifier
      split <;> exact ⟨_, _, _, rfl⟩
  unfold readKeyboardModifiers mapModifiers
  dsimp only
  split
  · split
    · exact ⟨_, _, _, _, rfl⟩
    · exact ⟨_, _, _, _, rfl⟩
    · next modifiers _ _ =>
      obtain ⟨cmd, ctrl, alt, h⟩ := hfold modifiers s
      exact ⟨cmd, ctrl, alt, s.now, by rw [h]⟩
  · exact ⟨s.commandKey, s.contrlKey, s.altkey, s.lastModifiersReadTime, rfl⟩

/-! The switch. -/

/-- What the switch does to a key: its key code, the modes and the codes dispatched. -/
structure Special (goingDown : Bool) (s : Keyboard) (r : Keyboard × UInt8) (keyCode : UInt8) (after : Modes)
    (codes : List UInt8) : Prop where
  keyCode : r.2 = keyCode
  modes : r.1.modes = after
  follows : s.Follows goingDown r.1 codes []

theorem Special.ite {c : Prop} [Decidable c] {r r' : Keyboard × UInt8} {k k' : UInt8} {after : Modes}
    {codes : List UInt8} (h : Special goingDown s r k after codes)
    (h' : Special goingDown s r' k' after codes) :
    Special goingDown s (if c then r else r') (if c then k else k') after codes := by
  split
  · exact h
  · exact h'

theorem Special.quiet {s' : Keyboard} {after : Modes} (keyCode : UInt8) (hmodes : s'.modes = after)
    (h : s.Quiet s') : Special goingDown s (s', keyCode) keyCode after [] :=
  ⟨rfl, hmodes, h.follows _⟩

/-- The special keys that change no mode. -/
theorem afterSpecialKeys_special {keyCode : UInt8} (hspecial : keyCode ∈ specialKeys) (hshift : keyCode ≠ 0x2a)
    (hmenu : keyCode ≠ 0x5d) : (s.afterSpecialKeys w keyCode goingDown).modes = s.modes := by
  have hlists : ∀ k ∈ specialKeys, k ∉ positionKeys ∧ k ∉ keypadKeys ∧ k ≠ 0x3a := by decide +kernel
  obtain ⟨hpos, hpad, hcaps⟩ := hlists keyCode hspecial
  simp [afterSpecialKeys, modes, when, hpos, hpad, hcaps, hspecial, hshift, hmenu]

theorem quiet_releaseGesture (keyCode : UInt8) : s.Quiet (s.releaseGesture w keyCode) := by
  unfold releaseGesture
  split
  · exact (quiet_when (quiet_up w _ { s with releaseGestureKey := false })).trans (.of_eq (keyLog_notify _ _))
  · exact .refl _

theorem quiet_startFeatureToggle : s.Quiet (s.startFeatureToggle w) := by
  have hup := quiet_up w 0x38
    ({ s with featureToggleMode := true, releaseGestureKey := false }.notify .kPS2C_ShowTouchPressureWidth)
  exact (HeldKeys.Quiet.of_eq (keyLog_notify _ _)).trans (hup.trans (.of_eq (keyLog_notify _ _)))

theorem quiet_leftShift : s.Quiet (s.leftShift w goingDown) := by
  unfold leftShift
  repeat' split
  · exact (quiet_startFeatureToggle (s := { s with isCapsLocked := false })).trans
      (.of_eq (keyLog_setAlphaLockFeedback _ _))
  · exact .of_eq (keyLog_notify _ _)
  · exact .of_eq (keyLog_notify _ _)
  · exact .refl _

theorem modes_leftShift : (s.leftShift w goingDown).modes =
    { s.modes with featureToggleMode := s.featureToggleMode || (goingDown && s.isKeyDown 0x3a) } := by
  unfold leftShift
  cases goingDown with
  | false =>
    simp only [Bool.false_and, Bool.or_false, Bool.false_eq_true, if_false]
    split
    · exact modes_notify _ s
    · rfl
  | true =>
    cases h : s.isKeyDown 0x3a
    · simp only [Bool.and_false, Bool.or_false, Bool.false_eq_true, if_false, if_true]
      rw [modes_notify]
      rfl
    · simp only [Bool.and_true, Bool.or_true, if_true]
      rw [modes_setAlphaLockFeedback, modes_startFeatureToggle]
      rfl

theorem special_leftShift : Special goingDown s (s.parseSpecialKeys w 0x2a goingDown) 0x2a
    (s.afterSpecialKeys w 0x2a goingDown).modes [] := by
  have hafter : (s.afterSpecialKeys w 0x2a goingDown).modes =
      { s.modes with featureToggleMode := s.featureToggleMode || (goingDown && s.isKeyDown 0x3a) } := by
    simp [afterSpecialKeys, modes, when, positionKeys, specialKeys, keypadKeys]
  rw [hafter]
  exact .quiet 0x2a modes_leftShift (quiet_leftShift (s := { s with isAccInputExceptionKey := true }))

theorem modes_sierraCapsLock (s : Keyboard) : (s.sierraCapsLock w goingDown).modes = s.modes := by
  unfold sierraCapsLock
  rw [modes_when (modes_setAlphaLockFeedback _), modes_when (modes_send _), modes_dispatch, modes_dispatch]
  rfl

/-- The presses added for Sierra follow the key. -/
theorem follows_sierraCapsLock : s.Follows goingDown (s.sierraCapsLock w goingDown) [0x39] [] := by
  have htwice := (follows_dispatch w goingDown 0x39 { s with
    isCapsLocked := if goingDown then s.isCapsLocked else !s.isCapsLocked }).append
      (follows_dispatch w goingDown 0x39 _)
  refine (htwice.congr (by simp) (by simp)).thenQuiet ?_
  exact (quiet_when (.of_eq (by simp [keyLog, send, Sent.keyEvent]))).trans
    (quiet_when (.of_eq (keyLog_setAlphaLockFeedback _ _)))

theorem modes_capsLock : (s.capsLock w goingDown).modes =
    { s.modes with featureToggleMode := s.featureToggleMode || (goingDown && s.isKeyDown 0x2a) } := by
  unfold capsLock
  rw [Bool.and_comm goingDown]
  split
  · next h =>
    rw [h, Bool.or_true, modes_setAlphaLockFeedback, modes_startFeatureToggle]
    rfl
  · next h =>
    rw [Bool.eq_false_iff.mpr h, Bool.or_false]
    split
    · exact modes_sierraCapsLock s
    · rfl

theorem follows_capsLock : s.Follows goingDown (s.capsLock w goingDown) (s.capsCodes 0x3a goingDown) [] := by
  unfold capsLock capsCodes
  cases h : s.isKeyDown 0x2a && goingDown with
  | true =>
    simp only [Bool.not_true, Bool.and_false, Bool.false_and, Bool.false_eq_true, if_false, if_true]
    exact (quiet_startFeatureToggle.trans (.of_eq (keyLog_setAlphaLockFeedback _ _))).follows _
  | false =>
    simp only [decide_true, Bool.not_false, Bool.and_true, Bool.true_and, Bool.false_eq_true, if_false]
    exact follows_ite (fun _ => follows_sierraCapsLock) fun _ => follows_refl

theorem special_capsLock : Special goingDown s (s.parseSpecialKeys w 0x3a goingDown) 0x3a
    (s.afterSpecialKeys w 0x3a goingDown).modes (s.capsCodes 0x3a goingDown) := by
  have hafter : (s.afterSpecialKeys w 0x3a goingDown).modes = { (s.readKeyboardModifiers w).modes with
      featureToggleMode := s.featureToggleMode || (goingDown && s.isKeyDown 0x2a) } := by
    obtain ⟨cmd, ctrl, alt, time, h⟩ := s.readKeyboardModifiers_eq w
    simp [afterSpecialKeys, modes, when, positionKeys, keypadKeys, h]
  rw [hafter]
  refine ⟨rfl, ?_, ?_⟩
  · refine (modes_capsLock (s := { s.readKeyboardModifiers w with isAccInputExceptionKey := true })).trans ?_
    obtain ⟨cmd, ctrl, alt, time, h⟩ := s.readKeyboardModifiers_eq w
    rw [h]
    rfl
  · have hcaps : Follows goingDown { s.readKeyboardModifiers w with isAccInputExceptionKey := true } _ _ [] :=
      follows_capsLock (w := w)
    have hcodes : { s.readKeyboardModifiers w with isAccInputExceptionKey := true }.capsCodes 0x3a goingDown =
        s.capsCodes 0x3a goingDown := by
      obtain ⟨cmd, ctrl, alt, time, h⟩ := s.readKeyboardModifiers_eq w
      rw [h]
      rfl
    rw [hcodes] at hcaps
    exact .afterQuiet (.of_eq (keyLog_readKeyboardModifiers w s)) hcaps

theorem special_contextMenu : Special goingDown s (s.contextMenu w 0x5d goingDown) (s.specialKeyCode 0x5d)
    (s.afterSpecialKeys w 0x5d goingDown).modes [] := by
  have hafter : (s.afterSpecialKeys w 0x5d goingDown).modes = { s.modes with
      isFnKeyPressed := if s.prefs.rightCtxtMKey = 0x54 && s.fnKeysModeNum > 1 then goingDown
        else s.isFnKeyPressed } := by
    simp [afterSpecialKeys, modes, when, positionKeys, specialKeys, keypadKeys]
  rw [hafter]
  unfold contextMenu specialKeyCode
  by_cases hwin : s.prefs.rightCtxtMKey = 0x5c
  · rw [if_pos hwin]
    simp only [hwin]
    exact .quiet _ rfl (.refl _)
  · rw [if_neg hwin]
    split
    · next h =>
      refine ⟨by simp, ?_, ?_⟩
      · rw [modes_when (modes_generateAndSeeADBCode _ _)]
        rfl
      · exact (quiet_when (quiet_generateAndSeeADBCode w _ _ { s with isFnKeyPressed := goingDown })).follows _
    · next h => exact ⟨by simp, rfl, follows_refl⟩

theorem special_keypad {keyCode : UInt8} (h : keyCode ∈ keypadKeys) :
    Special goingDown s (s.keypad w keyCode goingDown, keyCode) keyCode
      (s.afterSpecialKeys w keyCode goingDown).modes [] := by
  have hlists : ∀ k ∈ keypadKeys, k ∉ positionKeys ∧ k ≠ 0x5d ∧ k ≠ 0x2a ∧ k ≠ 0x3a := by decide +kernel
  obtain ⟨hpos, hmenu, hshift, hcaps⟩ := hlists keyCode h
  have hafter : (s.afterSpecialKeys w keyCode goingDown).modes =
      { s.modes with isNumPadKey := !s.extendedCode } := by
    simp [afterSpecialKeys, modes, when, hpos, h, hmenu, hshift, hcaps]
  rw [hafter]
  exact .quiet keyCode (modes_when (modes_generateAndSeeADBCode _ _) _ _)
    (quiet_when (quiet_generateAndSeeADBCode w _ _
      { s with isNumPadKey := !s.extendedCode, isAccInputExceptionKey := true }))

theorem modes_toggleNumLock (s : Keyboard) : s.toggleNumLock.modes = s.modes :=
  modes_setNumLockFeedback _ { s with isNumPadLocked := !s.isNumPadLocked }

theorem special_missionKey : Special goingDown s (s.missionKey w 0x3d goingDown) (s.specialKeyCode 0x3d)
    s.modes [] :=
  .ite (.quiet 0 (modes_when modes_missionControl _ _) (quiet_when (quiet_receiveGesture w (by decide) s)))
    (.quiet 0x3d rfl (.refl _))

theorem special_numLockOrPause : Special goingDown s (s.numLockOrPause 0x45 goingDown) (s.specialKeyCode 0x45)
    s.modes [] := by
  refine .ite (.ite ?_ ?_) (.quiet _ rfl (.refl _))
  · exact .quiet 0x45 (modes_setNumLockFeedback _ s) (.of_eq (keyLog_setNumLockFeedback _ s))
  · exact .quiet 0 (modes_when modes_toggleNumLock _ _) (quiet_when (.of_eq (keyLog_setNumLockFeedback _ _)))

/-- The keys that have a case of their own and change no mode. -/
theorem special_specialKey {keyCode : UInt8} (h : keyCode ∈ specialKeys) (hshift : keyCode ≠ 0x2a)
    (hmenu : keyCode ≠ 0x5d) : Special goingDown s (s.parseSpecialKeys w keyCode goingDown)
      (s.specialKeyCode keyCode) s.modes [] := by
  have hrelease : ∀ k, Special goingDown s ({ s with isAccInputExceptionKey := true }.releaseGesture w k, k) k
      s.modes [] := fun k => .quiet k (modes_releaseGesture _ _)
        (quiet_releaseGesture (s := { s with isAccInputExceptionKey := true }) k)
  simp only [specialKeys, List.mem_cons, List.not_mem_nil, or_false] at h
  rcases h with rfl | rfl | rfl | rfl | rfl | rfl | rfl | rfl | rfl | rfl | rfl | rfl | rfl | rfl | rfl
  · exact special_missionKey
  · exact special_numLockOrPause
  · exact .quiet _ (modes_when (modes_notify _) _ _) (quiet_when (.of_eq (keyLog_notify _ s)))
  · exact hrelease 0x1c
  · exact hrelease 0x39
  · exact hrelease 0x01
  · exact absurd rfl hshift
  · exact absurd rfl hmenu
  all_goals exact .quiet _ rfl (.of_eq rfl)

/-- The other keys at which the modifier positions are read. -/
theorem special_positionKey {keyCode : UInt8} (h : keyCode ∈ positionKeys) (hcaps : keyCode ≠ 0x3a) :
    Special goingDown s (s.parseSpecialKeys w keyCode goingDown) keyCode
      (s.afterSpecialKeys w keyCode goingDown).modes [] := by
  have hlists : ∀ k ∈ positionKeys, k ∉ keypadKeys ∧ k ≠ 0x5d ∧ k ≠ 0x2a := by decide +kernel
  obtain ⟨hpad, hmenu, hshift⟩ := hlists keyCode h
  have hafter : (s.afterSpecialKeys w keyCode goingDown).modes = (s.readKeyboardModifiers w).modes := by
    obtain ⟨cmd, ctrl, alt, time, heq⟩ := s.readKeyboardModifiers_eq w
    simp [afterSpecialKeys, modes, when, h, hpad, hmenu, hshift, hcaps, heq]
  rw [hafter]
  simp only [positionKeys, List.mem_cons, List.not_mem_nil, or_false] at h
  rcases h with rfl | rfl | rfl | rfl | rfl
  · exact absurd rfl hcaps
  all_goals exact .quiet _ rfl (.of_eq (keyLog_readKeyboardModifiers w s))

theorem specialKeyCode_eq {keyCode : UInt8} (hspecial : keyCode ∉ specialKeys) (hmenu : keyCode ≠ 0x5d) :
    s.specialKeyCode keyCode = keyCode := by
  have hmission : keyCode ≠ 0x3d := fun h => hspecial (h ▸ by decide)
  have hlock : keyCode ≠ 0x45 := fun h => hspecial (h ▸ by decide)
  simp only [specialKeyCode, hmission, hlock, hmenu, if_false]

/-- The keys without a case of their own. -/
theorem special_otherKey {keyCode : UInt8} (hpos : keyCode ∉ positionKeys) (hspecial : keyCode ∉ specialKeys)
    (hpad : keyCode ∉ keypadKeys) : Special goingDown s (s.parseSpecialKeys w keyCode goingDown) keyCode
      (s.afterSpecialKeys w keyCode goingDown).modes [] := by
  have hshift : keyCode ≠ 0x2a := fun h => hspecial (h ▸ by decide)
  have hmenu : keyCode ≠ 0x5d := fun h => hspecial (h ▸ by decide)
  have hcaps : keyCode ≠ 0x3a := fun h => hpos (h ▸ by decide)
  have hafter : (s.afterSpecialKeys w keyCode goingDown).modes =
      { s.modes with isNumPadKey := s.isNumPadKey && s.isKeyDown s.commandKey } := by
    simp [afterSpecialKeys, modes, when, hpos, hspecial, hpad, hmenu, hshift, hcaps]
  have hparse : s.parseSpecialKeys w keyCode goingDown =
      if s.isKeyDown s.commandKey then ({ s with isAccInputExceptionKey := true }, keyCode)
      else ({ s with isNumPadKey := false, isAccInputExceptionKey := false }, keyCode) := by
    simp only [positionKeys, specialKeys, List.mem_cons, List.not_mem_nil, or_false, not_or] at hpos hspecial
    unfold parseSpecialKeys
    simp only [hpos, hspecial, hpad, List.mem_cons, List.not_mem_nil, or_self, if_false]
  rw [hafter, hparse]
  cases h : s.isKeyDown s.commandKey
  · rw [Bool.and_false]
    exact .quiet _ rfl (.refl _)
  · rw [Bool.and_true]
    exact .quiet _ rfl (.refl _)

theorem parseSpecialKeys_special (keyCode : UInt8) :
    Special goingDown s (s.parseSpecialKeys w keyCode goingDown) (s.specialKeyCode keyCode)
      (s.afterSpecialKeys w keyCode goingDown).modes (s.capsCodes keyCode goingDown) := by
  by_cases hcaps : keyCode = 0x3a
  · subst hcaps
    exact special_capsLock
  have hcodes : s.capsCodes keyCode goingDown = [] := by simp [capsCodes, hcaps]
  rw [hcodes]
  by_cases hshift : keyCode = 0x2a
  · subst hshift
    exact special_leftShift
  by_cases hmenu : keyCode = 0x5d
  · subst hmenu
    exact special_contextMenu
  by_cases hspecial : keyCode ∈ specialKeys
  · rw [afterSpecialKeys_special hspecial hshift hmenu]
    exact special_specialKey hspecial hshift hmenu
  rw [specialKeyCode_eq hspecial hmenu]
  by_cases hpos : keyCode ∈ positionKeys
  · exact special_positionKey hpos hcaps
  by_cases hpad : keyCode ∈ keypadKeys
  · have hparse : s.parseSpecialKeys w keyCode goingDown = (s.keypad w keyCode goingDown, keyCode) := by
      simp only [keypadKeys, List.mem_cons, List.not_mem_nil, or_false] at hpad
      rcases hpad with rfl | rfl | rfl | rfl | rfl | rfl | rfl | rfl | rfl | rfl | rfl <;> rfl
    rw [hparse]
    exact special_keypad hpad
  · exact special_otherKey hpos hspecial hpad

end ApplePS2.Keyboard
