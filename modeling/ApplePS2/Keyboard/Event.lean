import ApplePS2.Keyboard.Control

/- What a whole event changes of the control: the dispatch of a key inside and
   outside the feature toggle mode, and the cases of `dispatchScanEvent`. -/
namespace ApplePS2.Keyboard

variable (w : World)

/-! Dispatch. -/

theorem control_dispatchNormal (keyCode : UInt8) (goingDown : Bool) (s : Keyboard) :
    (s.dispatchNormal w keyCode goingDown).control = s.control ∨
      (s.isTPadEnabled = true ∧
        (s.dispatchNormal w keyCode goingDown).control = s.control.notify .kPS2C_EnableTouchpad) := by
  have hkey := control_dispatch w (s.adbCode keyCode) goingDown s
  have haccidental : PS2Notification.kPS2C_AccidentalInput ∉ controlNotifications := by decide
  have henable : PS2Notification.kPS2C_EnableTouchpad ∈ controlNotifications := by decide
  unfold dispatchNormal
  dsimp only
  split
  · exact .inl ((control_tell haccidental _).trans hkey)
  · split
    · next h =>
      have hon : s.isTPadEnabled = true := (Bool.and_eq_true_iff.mp h).2
      refine .inr ⟨hon, ?_⟩
      rw [control_notify henable, hkey]
    · exact .inl hkey

/-- The chain of tests on the modifier keys, with the keys that are down now. -/
def Control.notifyModifiers (cmd ctrl alt : Bool) (c : Control) : Control :=
  match modifierNotification cmd ctrl alt c.modifierKeystate with
  | some (n, state) => { c with modifierKeystate := state }.notify n
  | none => c

/-- The notifications about the modifier keys. -/
def modifierNotifications : List PS2Notification :=
  [.kPS2C_ALT_Funtion_on, .kPS2C_ALT_Funtion_off, .kPS2C_CNTRL_Feature_on, .kPS2C_CNTRL_Feature_off,
    .kPS2C_CNTRLKeyDown, .kPS2C_CNTRLKeyUp, .kPS2C_CMDKeyDown, .kPS2C_CMDKeyUp]

theorem modifierNotification_mem {cmd ctrl alt : Bool} {state state' : UInt8} {n : PS2Notification}
    (h : modifierNotification cmd ctrl alt state = some (n, state')) : n ∈ modifierNotifications := by
  unfold modifierNotification at h
  repeat' split at h
  all_goals cases h
  all_goals decide

theorem control_notifyModifiers (s : Keyboard) : s.notifyModifiers.control =
    s.control.notifyModifiers (s.isKeyDown s.commandKey) (s.isKeyDown s.contrlKey) (s.isKeyDown s.altkey) := by
  have hlist : ∀ n ∈ modifierNotifications, n ∈ controlNotifications := by decide
  have hstate : s.control.modifierKeystate = s.modifierKeystate := rfl
  unfold notifyModifiers Control.notifyModifiers
  rw [hstate]
  cases h : modifierNotification (s.isKeyDown s.commandKey) (s.isKeyDown s.contrlKey) (s.isKeyDown s.altkey)
    s.modifierKeystate with
  | none => rfl
  | some r => exact control_notify (hlist r.1 (modifierNotification_mem h)) { s with modifierKeystate := r.2 }

theorem control_dispatchModifier (keyCode : UInt8) (goingDown : Bool) (s : Keyboard) :
    (s.dispatchModifier w keyCode goingDown).control = s.notifyModifiers.control := by
  have hmenu : PS2Notification.kPS2C_DoContextMenu ∉ controlNotifications := by decide
  unfold dispatchModifier
  dsimp only
  split
  · exact control_when (control_tell hmenu) goingDown _
  · exact control_dispatch w _ goingDown _

/-! The feature toggle mode. -/

/-- A feature key may assign the Fn keys anew, and ESC restores the touchpad. -/
inductive FeatureEffect (c : Control) : Control → Prop where
  | same (fn : FnKeys) : FeatureEffect c { c with fn := fn }
  | restore (fn : FnKeys) : FeatureEffect c ({ c with fn := fn }.notify .kPS2C_RestoreTouchpad)

/-- The control of a state, but for the Fn keys. -/
def SameButFn (c c' : Control) : Prop := c' = { c with fn := c'.fn }

theorem SameButFn.refl (c : Control) : SameButFn c c := rfl

theorem SameButFn.trans {c c' c'' : Control} (h : SameButFn c c') (h' : SameButFn c' c'') : SameButFn c c'' := by
  unfold SameButFn at *
  rw [h', h]

theorem sameButFn_when {f : Keyboard → Keyboard} (hf : ∀ s, SameButFn s.control (f s).control) (c : Bool)
    (s : Keyboard) : SameButFn s.control (s.when c f).control := by
  unfold when
  split
  · exact hf s
  · exact .refl _

theorem sameButFn_ReadFnKeyConfig (s : Keyboard) : SameButFn s.control s.ReadFnKeyConfig.control := by
  unfold ReadFnKeyConfig
  dsimp only
  generalize (if s.fnKeysModeNum = 1 then s.prefs.fnKeysMode1 else s.prefs.fnKeysMode2) = c
  cases c <;> rfl

theorem sameButFn_ReadFnKeyLayout (s : Keyboard) : SameButFn s.control s.ReadFnKeyLayout.control := by
  unfold ReadFnKeyLayout
  split
  · rfl
  · split
    · rfl
    · exact sameButFn_ReadFnKeyConfig { s with fnKeysModeNum := 2 }

theorem sameButFn_nextFnKeysMode (s : Keyboard) : SameButFn s.control s.nextFnKeysMode.control := by
  unfold nextFnKeysMode
  split
  · rfl
  · have hstep : SameButFn s.control s.stepFnKeysMode.control := rfl
    have hconfig := sameButFn_when sameButFn_ReadFnKeyConfig (s.stepFnKeysMode.fnKeysModeNum ≠ 0) s.stepFnKeysMode
    exact (hstep.trans hconfig).trans (sameButFn_when sameButFn_ReadFnKeyLayout _ _)

theorem control_ReadExtendedFunctionsConfig (s : Keyboard) : s.ReadExtendedFunctionsConfig.control = s.control := by
  have hfold : ∀ (entries : List (String × String)) (s : Keyboard),
      (entries.foldl readExtendedFunction s).control = s.control := by
    intro entries
    induction entries with
    | nil => exact fun s => rfl
    | cons e entries ih =>
      intro s
      rw [List.foldl_cons, ih]
      unfold readExtendedFunction
      split <;> rfl
  unfold ReadExtendedFunctionsConfig
  split
  · exact hfold _ s
  · rfl

theorem sameButFn_keyboardFeature (keyCode : UInt8) (goingDown : Bool) (s : Keyboard) :
    SameButFn s.control (s.keyboardFeature keyCode goingDown).control := by
  unfold keyboardFeature
  split
  · unfold toggleExtendFunctions
    dsimp only
    rw [control_when control_ReadExtendedFunctionsConfig]
    rfl
  · repeat' split
    · exact .refl _
    · exact .refl _
    · exact sameButFn_nextFnKeysMode s
    all_goals exact .refl _

theorem effect_ToggleTouchpadFeatures (keyCode : UInt8) (goingDown : Bool) (s : Keyboard) :
    FeatureEffect s.control (s.ToggleTouchpadFeatures keyCode goingDown).control := by
  have hfeature : SameButFn s.control (s.keyboardFeature keyCode goingDown).control :=
    sameButFn_keyboardFeature keyCode goingDown s
  unfold SameButFn at hfeature
  unfold ToggleTouchpadFeatures
  split
  · next n hn =>
    have hrestore : n = .kPS2C_RestoreTouchpad ∨ n ∉ controlNotifications := by
      unfold touchpadFeature at hn
      split at hn
      all_goals cases hn
      all_goals decide
    rw [control_setAlphaLockFeedback]
    unfold when
    split
    · rcases hrestore with rfl | hother
      · rw [control_notify (by decide), hfeature]
        exact .restore _
      · rw [control_tell hother, hfeature]
        exact .same _
    · rw [hfeature]
      exact .same _
  · rw [control_when (control_setAlphaLockFeedback _), hfeature]
    exact .same _

/-- With both keys down a key has a feature, or the function of an Fn key. -/
inductive ToggleEffect (c : Control) : Control → Prop where
  | fnKey {c' : Control} : FnEffect c c' → ToggleEffect c c'
  | feature {c' : Control} : FeatureEffect c c' → ToggleEffect c c'

theorem ToggleEffect.same (c : Control) : ToggleEffect c c := .fnKey .none

theorem effect_processFnKeys_either (keyCode : UInt8) (goingDown : Bool) (s : Keyboard) :
    FnEffect s.control (s.processFnKeys w keyCode goingDown).control := by
  cases goingDown with
  | true => exact effect_processFnKeys w keyCode s
  | false =>
    rw [control_processFnKeys_up]
    exact .none

theorem effect_processFeatureToggle_both {s : Keyboard} (keyCode : UInt8) (goingDown : Bool)
    (h : s.isKeyDown 0x2a = true ∧ s.isKeyDown 0x3a = true) :
    ToggleEffect s.control (s.processFeatureToggle w keyCode goingDown).control := by
  have hboth : (s.isKeyDown 0x2a && s.isKeyDown 0x3a) = true := by rw [h.1, h.2]; rfl
  unfold processFeatureToggle
  rw [if_pos hboth]
  repeat' split
  · rw [control_dispatch]
    exact .same _
  · exact .fnKey (effect_processFnKeys_either w keyCode goingDown s)
  · exact .same _
  · exact .feature (effect_ToggleTouchpadFeatures keyCode goingDown s)

theorem control_processFeatureToggle_end {s : Keyboard} (keyCode : UInt8) (goingDown : Bool)
    (h : s.isKeyDown 0x2a = false ∧ s.isKeyDown 0x3a = false) :
    (s.processFeatureToggle w keyCode goingDown).control = s.control.endFeatureToggle := by
  have hboth : ¬(s.isKeyDown 0x2a && s.isKeyDown 0x3a) = true := by simp [h.1]
  have hneither : (!s.isKeyDown 0x2a && !s.isKeyDown 0x3a) = true := by rw [h.1, h.2]; rfl
  unfold processFeatureToggle
  rw [if_neg hboth, if_pos hneither, control_notify (by decide), control_setAlphaLockFeedback]
  rfl

theorem control_processFeatureToggle_one {s : Keyboard} (keyCode : UInt8) (goingDown : Bool)
    (h : s.isKeyDown 0x2a ≠ s.isKeyDown 0x3a) :
    (s.processFeatureToggle w keyCode goingDown).control = s.control := by
  unfold processFeatureToggle
  cases hshift : s.isKeyDown 0x2a <;> cases hcaps : s.isKeyDown 0x3a <;> simp [hshift, hcaps] at h ⊢

theorem FnEffect.keeps {c c' : Control} (h : FnEffect c c') :
    c'.keyBitVector = c.keyBitVector ∧ c'.fn = c.fn ∧ c'.featureToggleMode = c.featureToggleMode := by
  have htoggle : c.toggleTouchpad.keyBitVector = c.keyBitVector ∧ c.toggleTouchpad.fn = c.fn ∧
      c.toggleTouchpad.featureToggleMode = c.featureToggleMode := by
    unfold Control.toggleTouchpad
    split <;> exact ⟨rfl, rfl, rfl⟩
  cases h with
  | none => exact ⟨rfl, rfl, rfl⟩
  | touchpad => exact htoggle
  | displaySleep => exact htoggle

theorem ToggleEffect.keeps {c c' : Control} (h : ToggleEffect c c') :
    c'.keyBitVector = c.keyBitVector ∧ c'.featureToggleMode = c.featureToggleMode := by
  cases h with
  | fnKey h => exact ⟨h.keeps.1, h.keeps.2.2⟩
  | feature h => cases h <;> exact ⟨rfl, rfl⟩

/-! The whole event. -/

/-- What a key does outside the feature toggle mode. -/
inductive DispatchEffect (c : Control) : Control → Prop where
  | fnKey {c' : Control} : FnEffect c c' → DispatchEffect c c'
  | modifiers (cmd ctrl alt : Bool) : DispatchEffect c (c.notifyModifiers cmd ctrl alt)
  | enabled : c.isTPadEnabled = true → DispatchEffect c (c.notify .kPS2C_EnableTouchpad)

theorem DispatchEffect.same (c : Control) : DispatchEffect c c := .fnKey .none

theorem DispatchEffect.keepsBits {c c' : Control} (h : DispatchEffect c c') : c'.keyBitVector = c.keyBitVector := by
  cases h with
  | fnKey h => exact h.keeps.1
  | modifiers cmd ctrl alt =>
    unfold Control.notifyModifiers
    split <;> rfl
  | enabled => rfl

theorem effect_dispatchKey (keyCode : UInt8) (goingDown : Bool) {s : Keyboard} (h : s.featureToggleMode = false) :
    DispatchEffect s.control (s.dispatchKey w keyCode goingDown).control := by
  unfold dispatchKey
  rw [if_neg (by simp [h])]
  repeat' split
  · exact .same _
  · exact .fnKey (effect_processFnKeys_either w keyCode goingDown s)
  · rw [control_dispatchModifier, control_notifyModifiers]
    exact .modifiers _ _ _
  · rcases control_dispatchNormal w keyCode goingDown s with hsame | ⟨hon, henable⟩
    · rw [hsame]
      exact .same _
    · rw [henable]
      exact .enabled hon
  · exact .same _

theorem dispatchKey_toggle (keyCode : UInt8) (goingDown : Bool) {s : Keyboard} (h : s.featureToggleMode = true) :
    s.dispatchKey w keyCode goingDown = s.processFeatureToggle w keyCode goingDown := by
  unfold dispatchKey
  rw [if_pos h]

/-- The event of a key is the function of an Fn key. -/
def usesFnKey (keyCode : UInt8) (s : Keyboard) : Bool :=
  if s.featureToggleMode then
    s.isKeyDown 0x2a && s.isKeyDown 0x3a && s.isFnKeyComb keyCode && s.prefs.makeShiftCapsAsFn &&
      (s.fnKeysModeNum = 2 || s.fnKeysModeNum = 3)
  else keyCode ≠ 0 && s.isFnKeyComb keyCode && (s.isFnKeyPressed || s.fnKeysModeNum = 1)

/-- The ways a key is dispatched. -/
inductive Dispatched (keyCode : UInt8) (goingDown : Bool) (s : Keyboard) : Keyboard → Prop where
  | fnKey : s.usesFnKey keyCode = true → Dispatched keyCode goingDown s (s.processFnKeys w keyCode goingDown)
  | ignored : s.usesFnKey keyCode = false → Dispatched keyCode goingDown s s
  | plain : s.usesFnKey keyCode = false →
      Dispatched keyCode goingDown s (s.dispatchKeyboardKeyCode w (s.adbCode keyCode) goingDown)
  | feature : s.usesFnKey keyCode = false →
      Dispatched keyCode goingDown s (s.ToggleTouchpadFeatures keyCode goingDown)
  | ends : s.usesFnKey keyCode = false → Dispatched keyCode goingDown s
      (({ s with featureToggleMode := false }.setAlphaLockFeedback s.isCapsLocked).notify .kPS2C_ShowTouchPressureWidth)
  | modifier : s.usesFnKey keyCode = false → Dispatched keyCode goingDown s (s.dispatchModifier w keyCode goingDown)
  | normal : s.usesFnKey keyCode = false → Dispatched keyCode goingDown s (s.dispatchNormal w keyCode goingDown)

theorem dispatched_toggle (keyCode : UInt8) (goingDown : Bool) {s : Keyboard}
    (hmode : s.featureToggleMode = true) : Dispatched w keyCode goingDown s (s.processFeatureToggle w keyCode goingDown) := by
  have huses : s.usesFnKey keyCode = (s.isKeyDown 0x2a && s.isKeyDown 0x3a && s.isFnKeyComb keyCode &&
      s.prefs.makeShiftCapsAsFn && (s.fnKeysModeNum = 2 || s.fnKeysModeNum = 3)) := if_pos hmode
  unfold processFeatureToggle
  by_cases hboth : (s.isKeyDown 0x2a && s.isKeyDown 0x3a) = true
  · rw [if_pos hboth]
    rw [hboth, Bool.true_and] at huses
    by_cases hcomb : (s.isFnKeyComb keyCode && s.prefs.makeShiftCapsAsFn) = true
    · rw [if_pos hcomb]
      rw [hcomb, Bool.true_and] at huses
      by_cases hone : s.fnKeysModeNum = 1
      · rw [if_pos hone]
        exact .plain (by rw [huses, hone]; rfl)
      rw [if_neg hone]
      by_cases htwo : s.fnKeysModeNum = 2 ∨ s.fnKeysModeNum = 3
      · rw [if_pos htwo]
        exact .fnKey (by rw [huses]; simpa using htwo)
      · rw [if_neg htwo]
        exact .ignored (by rw [huses]; simpa using htwo)
    · rw [if_neg hcomb]
      exact .feature (by rw [huses, Bool.eq_false_iff.mpr hcomb, Bool.false_and])
  · rw [if_neg hboth]
    have hnone : s.usesFnKey keyCode = false := by
      rw [huses, Bool.eq_false_iff.mpr hboth]
      rfl
    split
    · exact .ends hnone
    · exact .ignored hnone

theorem dispatched_cases (keyCode : UInt8) (goingDown : Bool) (s : Keyboard) :
    Dispatched w keyCode goingDown s (s.dispatchKey w keyCode goingDown) := by
  cases hmode : s.featureToggleMode with
  | true =>
    rw [dispatchKey_toggle w keyCode goingDown hmode]
    exact dispatched_toggle w keyCode goingDown hmode
  | false =>
    have hoff : ¬s.featureToggleMode = true := by simp [hmode]
    have huses : s.usesFnKey keyCode =
        (keyCode ≠ 0 && s.isFnKeyComb keyCode && (s.isFnKeyPressed || s.fnKeysModeNum = 1)) := if_neg hoff
    unfold dispatchKey
    rw [if_neg hoff]
    by_cases hzero : keyCode = 0
    · rw [if_pos hzero]
      exact .ignored (by rw [huses]; simp [hzero])
    rw [if_neg hzero]
    by_cases hcomb : (s.isFnKeyComb keyCode && (s.isFnKeyPressed || s.fnKeysModeNum = 1)) = true
    · rw [if_pos hcomb]
      exact .fnKey (by rw [huses]; simpa [hzero] using hcomb)
    rw [if_neg hcomb]
    have hnone : s.usesFnKey keyCode = false := by
      rw [huses]
      simpa [hzero] using hcomb
    repeat' split
    · exact .modifier hnone
    · exact .normal hnone
    · exact .ignored hnone

/-- Shift with a function key. -/
def hasFunction (keyCode : UInt8) (s : Keyboard) : Bool := s.shiftFunction keyCode && (extendedFunction keyCode).isSome

/-- A key is handled by its extended function, or goes through the special keys to its dispatch. -/
theorem processKey_split (keyCode : UInt8) (goingDown : Bool) (s : Keyboard) :
    (s.hasFunction keyCode = true ∧
      s.ProcessExtendedFunctions w keyCode goingDown = some (s.processKey w keyCode goingDown)) ∨
    (s.hasFunction keyCode = false ∧ s.processKey w keyCode goingDown =
      (s.parseSpecialKeys w keyCode goingDown).1.dispatchKey w (s.parseSpecialKeys w keyCode goingDown).2
        goingDown) := by
  have hextended : (s.ProcessExtendedFunctions w keyCode goingDown).isSome = (extendedFunction keyCode).isSome := by
    unfold ProcessExtendedFunctions
    cases extendedFunction keyCode with
    | none => rfl
    | some f =>
      dsimp only
      repeat' split
      all_goals rfl
  unfold processKey hasFunction
  rw [← hextended]
  by_cases hshift : s.shiftFunction keyCode = true
  · rw [if_pos hshift, hshift]
    cases hf : s.ProcessExtendedFunctions w keyCode goingDown with
    | none => exact .inr ⟨rfl, rfl⟩
    | some t => exact .inl ⟨rfl, rfl⟩
  · rw [if_neg hshift, Bool.eq_false_iff.mpr hshift]
    exact .inr ⟨rfl, rfl⟩

theorem processKey_cases (keyCode : UInt8) (goingDown : Bool) (s : Keyboard) :
    (s.shiftFunction keyCode = true ∧ (extendedFunction keyCode).isSome = true ∧
      (s.processKey w keyCode goingDown).control = s.control) ∨
    s.processKey w keyCode goingDown =
      (s.parseSpecialKeys w keyCode goingDown).1.dispatchKey w (s.parseSpecialKeys w keyCode goingDown).2
        goingDown := by
  rcases processKey_split w keyCode goingDown s with ⟨hfun, hsome⟩ | ⟨-, heq⟩
  · obtain ⟨hshift, hcode⟩ := Bool.and_eq_true_iff.mp hfun
    exact .inl ⟨hshift, hcode, control_ProcessExtendedFunctions w hsome⟩
  · exact .inr heq

/-- An event is done in the switch, is a press that is discarded, or is the key that the switch gives. -/
inductive Handled (e : ScanEvent) (s : Keyboard) : Prop where
  | done (h : (s.parse w e).2 = 0)
      (heq : s.dispatchScanEvent w e = (s.parse w e).1.dispatchKeyboardBacklightNotification w.goingDown)
  | discarded (h : (s.parse w e).2 ≠ 0)
      (hset : (s.parse w e).1.updateKeyBitVector (s.parse w e).2 e.goingDown = none)
      (hcontrol : (s.parse w e).1.control = s.control)
      (heq : s.dispatchScanEvent w e = (s.parse w e).1.dispatchKeyboardBacklightNotification e.goingDown)
  | key (t : Keyboard) (h : (s.parse w e).2 ≠ 0)
      (hset : (s.parse w e).1.updateKeyBitVector (s.parse w e).2 e.goingDown = some t)
      (hcontrol : t.control = { s.control with
        keyBitVector := Function.update s.keyBitVector (s.parse w e).2 e.goingDown })
      (heq : s.dispatchScanEvent w e =
        (t.processKey w (s.parse w e).2 e.goingDown).dispatchKeyboardBacklightNotification e.goingDown)

/-- The event from the end of the switch over the key codes on. -/
theorem dispatchScanEvent_eq (e : ScanEvent) (s : Keyboard) : s.dispatchScanEvent w e =
    if (s.parse w e).2 = 0 then (s.parse w e).1.dispatchKeyboardBacklightNotification w.goingDown
    else ((s.parse w e).1.updateKeyBitVector (s.parse w e).2 e.goingDown).elim
      ((s.parse w e).1.dispatchKeyboardBacklightNotification e.goingDown)
      fun t => (t.processKey w (s.parse w e).2 e.goingDown).dispatchKeyboardBacklightNotification e.goingDown := by
  unfold dispatchScanEvent parse
  generalize (if e.extended then s.parseExtended w e.keyCode e.goingDown
    else s.parseNormal w e.keyCode e.goingDown) = r
  cases h : r.1.updateKeyBitVector r.2 e.goingDown with
  | none => simp only [h, Option.elim_none]
  | some t => simp only [h, Option.elim_some]

theorem dispatchScanEvent_cases (e : ScanEvent) (s : Keyboard) : Handled w e s := by
  have hparse := (effect_parse w e s).effect
  have heq := dispatchScanEvent_eq w e s
  by_cases hzero : (s.parse w e).2 = 0
  · rw [if_pos hzero] at heq
    exact .done hzero heq
  rw [if_neg hzero] at heq
  have hsame : (s.parse w e).1.control = s.control := hparse.resolve_right fun h => hzero h.1
  cases hset : (s.parse w e).1.updateKeyBitVector (s.parse w e).2 e.goingDown with
  | none =>
    rw [hset] at heq
    exact .discarded hzero hset hsame heq
  | some t =>
    rw [hset] at heq
    refine .key t hzero hset ?_ heq
    rw [updateKeyBitVector_eq hset, control_setKey, hsame]
    have hbits : (s.parse w e).1.keyBitVector = s.keyBitVector := congrArg Control.keyBitVector hsame
    rw [hbits]

/-- Where Left Shift and Caps Lock come together the feature toggle mode stays on. -/
theorem startsToggle_stays {s : Keyboard} {keyCode : UInt8} {goingDown : Bool}
    (hset : s.isKeyDown keyCode = goingDown) (h : s.startsToggle keyCode goingDown = true) (k : UInt8) :
    ((s.parseSpecialKeys w keyCode goingDown).1.dispatchKey w k goingDown).featureToggleMode = true := by
  have hcontrol := control_parseSpecialKeys w keyCode goingDown s
  rw [if_pos h] at hcontrol
  have hmode : (s.parseSpecialKeys w keyCode goingDown).1.featureToggleMode = true :=
    congrArg Control.featureToggleMode hcontrol
  have hbits : (s.parseSpecialKeys w keyCode goingDown).1.keyBitVector = s.keyBitVector :=
    congrArg Control.keyBitVector hcontrol
  have hboth : s.isKeyDown 0x2a = true ∧ s.isKeyDown 0x3a = true := by
    unfold startsToggle at h
    simp only [Bool.and_eq_true, Bool.or_eq_true, decide_eq_true_eq] at h
    obtain ⟨rfl, ⟨rfl, hcaps⟩ | ⟨rfl, hshift⟩⟩ := h
    · exact ⟨hset, hcaps⟩
    · exact ⟨hshift, hset⟩
  rw [dispatchKey_toggle w k goingDown hmode]
  have heffect := effect_processFeatureToggle_both w k goingDown
    (s := (s.parseSpecialKeys w keyCode goingDown).1) (by simp only [isKeyDown, hbits]; exact hboth)
  exact heffect.keeps.2.trans hmode

/-- A key that is dispatched changes no bit. -/
theorem keyBitVector_processKey (keyCode : UInt8) (goingDown : Bool) (s : Keyboard) :
    (s.processKey w keyCode goingDown).keyBitVector = s.keyBitVector := by
  rcases processKey_cases w keyCode goingDown s with ⟨_, _, hcontrol⟩ | heq
  · exact congrArg Control.keyBitVector hcontrol
  rw [heq]
  have hspecial : (s.parseSpecialKeys w keyCode goingDown).1.keyBitVector = s.keyBitVector := by
    refine (congrArg Control.keyBitVector (control_parseSpecialKeys w keyCode goingDown s)).trans ?_
    split <;> rfl
  rw [← hspecial]
  generalize s.parseSpecialKeys w keyCode goingDown = r
  show (r.1.dispatchKey w r.2 goingDown).control.keyBitVector = r.1.keyBitVector
  cases hmode : r.1.featureToggleMode with
  | false => exact (effect_dispatchKey w r.2 goingDown hmode).keepsBits
  | true =>
    rw [dispatchKey_toggle w r.2 goingDown hmode]
    cases hshift : r.1.isKeyDown 0x2a <;> cases hcaps : r.1.isKeyDown 0x3a
    · rw [control_processFeatureToggle_end w r.2 goingDown ⟨hshift, hcaps⟩]
      rfl
    · rw [control_processFeatureToggle_one w r.2 goingDown (by simp [hshift, hcaps])]
      rfl
    · rw [control_processFeatureToggle_one w r.2 goingDown (by simp [hshift, hcaps])]
      rfl
    · exact (effect_processFeatureToggle_both w r.2 goingDown ⟨hshift, hcaps⟩).keeps.1

/-- An event sets the bit of its key, or none. -/
theorem keyBitVector_event (e : ScanEvent) (s : Keyboard) :
    (s.dispatchScanEvent w e).keyBitVector = s.keyBitVector ∨
      ((s.parse w e).2 ≠ 0 ∧ (s.dispatchScanEvent w e).keyBitVector =
        Function.update s.keyBitVector (s.parse w e).2 e.goingDown) := by
  have hlight : ∀ (t : Keyboard) (d : Bool), (t.dispatchKeyboardBacklightNotification d).keyBitVector =
      t.keyBitVector := fun t d => congrArg Control.keyBitVector (control_backlight d t)
  cases dispatchScanEvent_cases w e s with
  | done _ heq =>
    left
    rw [heq, hlight]
    rcases (effect_parse w e s).effect with hsame | ⟨_, htoggle⟩
    · exact congrArg Control.keyBitVector hsame
    · exact (congrArg Control.keyBitVector htoggle).trans (FnEffect.touchpad (c := s.control)).keeps.1
  | discarded _ _ hcontrol heq =>
    left
    rw [heq, hlight]
    exact congrArg Control.keyBitVector hcontrol
  | key t hne _ hcontrol heq =>
    right
    refine ⟨hne, ?_⟩
    rw [heq, hlight, keyBitVector_processKey]
    exact congrArg Control.keyBitVector hcontrol

/-- Events, each with what the driver reads from outside while it handles it. -/
def handle (s : Keyboard) (l : World × ScanEvent) : Option Keyboard := some (s.dispatchScanEvent l.1 l.2)

/-- The driver after `start` has read the mapping of the modifiers and the Fn keys. -/
def started (w : World) (prefs : Preferences) (maps : ADBMaps) (fnMode : Option UInt8) : Keyboard :=
  ((Keyboard.init prefs maps).readKeyboardModifiers w).readFnKeys fnMode

def afterStart : Keyboard := started quietWorld .init (.initial fun _ => DEADKEY) none

def keyPress (extended : Bool) (code : UInt8) : World × ScanEvent := (quietWorld, ⟨extended, code, true⟩)
def keyRelease (extended : Bool) (code : UInt8) : World × ScanEvent := (quietWorld, ⟨extended, code, false⟩)

end ApplePS2.Keyboard
