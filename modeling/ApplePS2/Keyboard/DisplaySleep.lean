import ApplePS2.Keyboard.Lamps
import ApplePS2.Keyboard.SpecialKeys
import ApplePS2.Transition

/- Display sleep: is the touchpad off while the display sleeps, and afterwards as it was before?

   1. `flags_processFnKeys`, `flags_dispatchKey`: the Fn keys invert the touchpad's flag, or
      that and the flag of the display, or neither.
   2. `flags_event`: an event, in the state before.
   3. `displaySleep_right_iff`: over a run, exactly when the touchpad is off and restored.
   4. `displaySleep_enables`: a display that is put to sleep with the touchpad off. -/
namespace ApplePS2

/-- `isTPadEnabled` and `displaySleep`. -/
structure SleepFlags where
  isTPadEnabled : Bool
  displaySleep : Bool
  deriving DecidableEq

/-- Which of them an event inverts. -/
inductive FlagChange where
  | none
  | touchpad
  | displaySleep
  deriving DecidableEq

def SleepFlags.after (f : SleepFlags) : FlagChange → SleepFlags
  | .none => f
  | .touchpad => { f with isTPadEnabled := !f.isTPadEnabled }
  | .displaySleep => ⟨!f.isTPadEnabled, !f.displaySleep⟩

namespace Keyboard

variable {w : World}

def Control.flags (c : Control) : SleepFlags := ⟨c.isTPadEnabled, c.displaySleep⟩

def flags (s : Keyboard) : SleepFlags := s.control.flags

/-! The Fn keys. -/

/-- The code that an Fn key is dispatched with: the display sleeps, or wakes, with its own code
where no brightness or volume key has it. -/
def codeChange (fnKeyCode : UInt8) (s : Keyboard) : FlagChange :=
  if fnKeyCode ∈ ([0x10, 0x20, 0x4c, 0x49, 0] : List UInt8) then .none
  else if fnKeyCode = s.fn.dispSleep then .displaySleep
  else .none

/-- The press of an Fn key. -/
def fnKeyChange (keyCode : UInt8) (rateLimit : Bool) (s : Keyboard) : FlagChange :=
  if keyCode = s.fn.kbrdBrightnessDown && s.enabledAsusKBacklight then .none
  else if keyCode = s.fn.kbrdBrightnessUp && s.enabledAsusKBacklight then .none
  else if keyCode = s.fn.mediaPrev then .none
  else if keyCode = s.fn.mediaNext then .none
  else if keyCode = s.fn.brightNessDown || keyCode = s.fn.brightNessUp then .none
  else if keyCode = s.fn.sleep && !rateLimit then .none
  else if keyCode = s.fn.missonCtlFun &&
      (!s.enabledAsusKBacklight || keyCode ≠ s.fn.kbrdBrightnessDown) then .none
  else if keyCode = s.fn.launchpadFun &&
      (!s.enabledAsusKBacklight || keyCode ≠ s.fn.kbrdBrightnessUp) then .none
  else if keyCode = s.fn.videoMirror then s.codeChange 0x50
  else if keyCode = s.fn.dispSleep && !rateLimit then s.codeChange s.fn.dispSleep
  else if keyCode = s.fn.touchpad then .touchpad
  else if keyCode = s.fn.volMute then s.codeChange 0x4a
  else if keyCode = s.fn.volDown then .none
  else if keyCode = s.fn.volUp then .none
  else if keyCode = s.fn.mediaPlay then s.codeChange 0x42
  else .none

theorem flags_toggleTouchpad (c : Control) : c.toggleTouchpad.flags = c.flags.after .touchpad := by
  unfold Control.toggleTouchpad Control.flags SleepFlags.after
  cases h : c.isTPadEnabled <;> rfl

theorem flags_dispatchFnKey (fnKeyCode : UInt8) (s : Keyboard) :
    (s.dispatchFnKey w fnKeyCode).flags = s.flags.after (s.codeChange fnKeyCode) := by
  have hfiner : ∀ (b : Bool) (c : UInt8), (s.finerKey w b c).flags = s.flags :=
    fun b c => congrArg Control.flags (control_finerKey w b c s)
  unfold dispatchFnKey codeChange
  by_cases hcode : fnKeyCode ∈ ([0x10, 0x20, 0x4c, 0x49, 0] : List UInt8)
  · rw [if_pos hcode]
    simp only [List.mem_cons, List.not_mem_nil, or_false] at hcode
    rcases hcode with rfl | rfl | rfl | rfl | rfl
    · exact hfiner _ _
    · exact hfiner _ _
    · exact hfiner _ _
    · exact hfiner _ _
    · rfl
  · rw [if_neg hcode]
    simp only [List.mem_cons, List.not_mem_nil, or_false, not_or] at hcode
    obtain ⟨h10, h20, h4c, h49, h0⟩ := hcode
    rw [if_neg h10, if_neg h20, if_neg h4c, if_neg h49, if_neg h0]
    split
    · have htoggle := control_toggleTouchpad (s.chord w [s.normalCode s.contrlKey, 0x38, 0x70])
      rw [control_chord] at htoggle
      have hflags := congrArg Control.flags htoggle
      rw [flags_toggleTouchpad] at hflags
      have hon := congrArg SleepFlags.isTPadEnabled hflags
      have hsleep := congrArg SleepFlags.displaySleep hflags
      exact congrArg₂ SleepFlags.mk hon (congrArg not hsleep)
    · exact congrArg Control.flags (control_chord w [fnKeyCode] s)

/-- What a key and the code it leaves come to. -/
def Comes (w : World) (s : Keyboard) (r : Keyboard × UInt8) (change : FlagChange) : Prop :=
  (r.1.dispatchFnKey w r.2).flags = s.flags.after change

theorem comes_ite {c : Prop} [Decidable c] {s : Keyboard} {r r' : Keyboard × UInt8} {a b : FlagChange}
    (h : c → Comes w s r a) (h' : ¬c → Comes w s r' b) : Comes w s (if c then r else r') (if c then a else b) := by
  by_cases hc : c
  · rw [if_pos hc, if_pos hc]
    exact h hc
  · rw [if_neg hc, if_neg hc]
    exact h' hc

theorem comes_code {s t : Keyboard} (h : t.control = s.control) (code : UInt8) :
    Comes w s (t, code) (s.codeChange code) := by
  have hfn : t.fn = s.fn := congrArg Control.fn h
  have hchange : t.codeChange code = s.codeChange code := by
    unfold codeChange
    rw [hfn]
  show (t.dispatchFnKey w code).flags = _
  rw [flags_dispatchFnKey, hchange]
  exact congrArg (fun c : Control => c.flags.after _) h

theorem comes_done {s t : Keyboard} (h : t.control = s.control) : Comes w s (t, 0) .none := comes_code h 0

theorem comes_fnKeyDown (keyCode : UInt8) (rateLimit : Bool) (s : Keyboard) :
    Comes w s (s.fnKeyDown w keyCode rateLimit) (s.fnKeyChange keyCode rateLimit) := by
  have hlight : ∀ up, ((s.processAsusKBacklight w up).readBackLightLvl w).control = s.control :=
    fun up => (control_readBackLightLvl w _).trans (control_processAsusKBacklight w up s)
  have hbrightness : Comes w s (s.brightnessKey w (keyCode = s.fn.brightNessUp)) .none := by
    unfold brightnessKey
    split
    · exact comes_done (control_repeatChord w _ _ { s with useFinerBrightnesCtrl := false })
    · split
      · exact comes_code rfl 0x10
      · exact comes_code rfl 0x20
  refine comes_ite (fun _ => comes_done (hlight false)) fun _ => comes_ite (fun _ => comes_done (hlight true)) fun _ =>
    comes_ite (fun _ => comes_done (control_dispatch w _ true s)) fun _ =>
    comes_ite (fun _ => comes_done (control_dispatch w _ true s)) fun _ =>
    comes_ite (fun _ => hbrightness) fun _ => comes_ite (fun _ => comes_done (control_send rfl s)) fun _ =>
    comes_ite (fun _ => comes_done (control_receiveGesture w _ s)) fun _ =>
    comes_ite (fun _ => comes_done (control_receiveGesture w _ s)) fun _ =>
    comes_ite (fun _ => comes_code rfl 0x50) fun _ => comes_ite (fun _ => comes_code rfl s.fn.dispSleep) fun _ =>
    comes_ite (fun _ => ?touchpad) fun _ => comes_ite (fun _ => comes_code rfl 0x4a) fun _ =>
    comes_ite (fun _ => comes_code rfl 0x49) fun _ => comes_ite (fun _ => comes_code rfl 0x4c) fun _ =>
    comes_ite (fun _ => comes_code rfl 0x42) fun _ => comes_done rfl
  case touchpad =>
    have htoggle := congrArg Control.flags (control_toggleTouchpad s)
    rw [flags_toggleTouchpad] at htoggle
    exact htoggle

theorem flags_processFnKeys (keyCode : UInt8) (keyDown : Bool) (s : Keyboard) :
    (s.processFnKeys w keyCode keyDown).flags =
      s.flags.after (if keyDown then s.fnKeyChange keyCode (s.rateLimited w) else .none) := by
  cases keyDown with
  | true =>
    have hcomes : Comes w s (s.fnKeyDown w keyCode (s.rateLimited w)) _ := comes_fnKeyDown keyCode (s.rateLimited w) s
    unfold Comes at hcomes
    rw [flags_dispatchFnKey] at hcomes
    unfold processFnKeys
    rw [flags_dispatchFnKey]
    exact hcomes
  | false => exact congrArg Control.flags (control_processFnKeys_up w keyCode s)

/-! Dispatch. -/

theorem flags_dispatchModifier (keyCode : UInt8) (goingDown : Bool) (s : Keyboard) :
    (s.dispatchModifier w keyCode goingDown).flags = s.flags := by
  show Control.flags (s.dispatchModifier w keyCode goingDown).control = s.control.flags
  rw [control_dispatchModifier, control_notifyModifiers]
  unfold Control.notifyModifiers
  split <;> rfl

theorem flags_dispatchNormal (keyCode : UInt8) (goingDown : Bool) (s : Keyboard) :
    (s.dispatchNormal w keyCode goingDown).flags = s.flags := by
  show Control.flags (s.dispatchNormal w keyCode goingDown).control = s.control.flags
  rcases control_dispatchNormal w keyCode goingDown s with h | ⟨-, h⟩
  · rw [h]
  · rw [h]
    rfl

theorem flags_ToggleTouchpadFeatures (keyCode : UInt8) (goingDown : Bool) (s : Keyboard) :
    (s.ToggleTouchpadFeatures keyCode goingDown).flags = s.flags := by
  have heffect := effect_ToggleTouchpadFeatures keyCode goingDown s
  show Control.flags (s.ToggleTouchpadFeatures keyCode goingDown).control = s.control.flags
  generalize (s.ToggleTouchpadFeatures keyCode goingDown).control = c at heffect
  cases heffect with
  | same fn => rfl
  | restore fn => rfl

/-- Only the press of an Fn key changes them. -/
theorem flags_dispatchKey (keyCode : UInt8) (goingDown : Bool) (s : Keyboard) :
    (s.dispatchKey w keyCode goingDown).flags =
      s.flags.after (if goingDown && s.usesFnKey keyCode then s.fnKeyChange keyCode (s.rateLimited w) else .none) := by
  have hother : s.usesFnKey keyCode = false → ∀ t : Keyboard, t.flags = s.flags → t.flags =
      s.flags.after (if goingDown && s.usesFnKey keyCode then s.fnKeyChange keyCode (s.rateLimited w) else .none) := by
    intro hfn t h
    rw [hfn, Bool.and_false]
    exact h
  have hcases := dispatched_cases w keyCode goingDown s
  generalize s.dispatchKey w keyCode goingDown = t at hcases
  cases hcases with
  | fnKey hfn =>
    rw [hfn, Bool.and_true]
    exact flags_processFnKeys keyCode goingDown s
  | ignored hfn => exact hother hfn _ rfl
  | plain hfn => exact hother hfn _ (congrArg Control.flags (control_dispatch w _ goingDown s))
  | feature hfn => exact hother hfn _ (flags_ToggleTouchpadFeatures keyCode goingDown s)
  | ends hfn =>
    refine hother hfn _ ?_
    show Control.flags (Keyboard.control _) = _
    rw [control_notify (by decide), control_setAlphaLockFeedback]
    rfl
  | modifier hfn => exact hother hfn _ (flags_dispatchModifier keyCode goingDown s)
  | normal hfn => exact hother hfn _ (flags_dispatchNormal keyCode goingDown s)

/-! The special keys handle no Fn key. -/

/-- When the last Fn key was handled. -/
def lastEvent (s : Keyboard) : UInt32 × UInt32 := (s.lastEventSecs, s.lastEventMicrosecs)

theorem last_when {f : Keyboard → Keyboard} {s : Keyboard} (c : Bool) (h : (f s).lastEvent = s.lastEvent) :
    (s.when c f).lastEvent = s.lastEvent := by
  cases c with
  | true => exact h
  | false => rfl

theorem last_chord (ks : List UInt8) (s : Keyboard) : (s.chord w ks).lastEvent = s.lastEvent := by
  induction ks generalizing s with
  | nil => rfl
  | cons k ks ih =>
    have hkey : ∀ d, (s.dispatchKeyboardKeyCode w k d).lastEvent = s.lastEvent := fun _ => rfl
    have hup : ∀ t : Keyboard, (t.dispatchKeyboardKeyCode w k false).lastEvent = t.lastEvent := fun _ => rfl
    rw [chord, hup, ih, hkey]

theorem last_readKeyboardModifiers (s : Keyboard) : (s.readKeyboardModifiers w).lastEvent = s.lastEvent := by
  obtain ⟨cmd, ctrl, alt, time, h⟩ := s.readKeyboardModifiers_eq w
  rw [h]
  rfl

theorem last_missionControl (s : Keyboard) :
    (s.receiveGesture w .kPS2C_Gesture_MissionControl).lastEvent = s.lastEvent := by
  have hheader : (s.receiveHeader w (UInt32.ofNat PS2Notification.kPS2C_Gesture_MissionControl.ctorIdx)).lastEvent =
      s.lastEvent := last_when _ (last_readKeyboardModifiers _)
  unfold receiveGesture gesture
  dsimp only
  split
  · exact (last_chord _ _).trans hheader
  · exact (last_chord _ _).trans hheader

theorem last_generateAndSeeADBCode (keyCode : UInt8) (d : Bool) (s : Keyboard) :
    (s.generateAndSeeADBCode w keyCode d).lastEvent = s.lastEvent := by
  unfold generateAndSeeADBCode
  repeat' split
  · rfl
  · exact last_chord (w := w) [s.generatedCode] s
  · rfl

theorem last_setNumLockFeedback (locked : Bool) (s : Keyboard) :
    (s.setNumLockFeedback locked).lastEvent = s.lastEvent := by
  unfold setNumLockFeedback
  split <;> rfl

theorem last_releaseGesture (keyCode : UInt8) (s : Keyboard) : (s.releaseGesture w keyCode).lastEvent = s.lastEvent := by
  unfold releaseGesture
  split
  · exact last_when (f := dispatchKeyboardKeyCode w (s.extCode s.commandKey) false)
      (s := { s with releaseGestureKey := false }) (s.isKeyDown s.commandKey) rfl
  · rfl

theorem last_startFeatureToggle (s : Keyboard) : (s.startFeatureToggle w).lastEvent = s.lastEvent := rfl

theorem last_setAlphaLockFeedback (locked : Bool) (s : Keyboard) :
    (s.setAlphaLockFeedback locked).lastEvent = s.lastEvent := rfl

theorem last_dispatch (keyCode : UInt8) (goingDown : Bool) (s : Keyboard) :
    (s.dispatchKeyboardKeyCode w keyCode goingDown).lastEvent = s.lastEvent := rfl

theorem last_leftShift (goingDown : Bool) (s : Keyboard) : (s.leftShift w goingDown).lastEvent = s.lastEvent := by
  have htoggle : ∀ t : Keyboard, ((t.startFeatureToggle w).setAlphaLockFeedback false).lastEvent = t.lastEvent := fun t =>
    (last_setAlphaLockFeedback false _).trans (last_startFeatureToggle t)
  unfold leftShift
  split
  · split
    · exact htoggle { s with isCapsLocked := false }
    · rfl
  · split
    · rfl
    · rfl

theorem last_sierraCapsLock (goingDown : Bool) (s : Keyboard) :
    (s.sierraCapsLock w goingDown).lastEvent = s.lastEvent := by
  unfold sierraCapsLock
  dsimp only
  -- the key twice, and on its way up the lamp
  refine (last_when _ (last_setAlphaLockFeedback _ _)).trans ?_
  refine (last_when _ rfl).trans ?_
  refine (last_dispatch _ _ _).trans ?_
  exact last_dispatch _ _ _

theorem last_capsLock (goingDown : Bool) (s : Keyboard) : (s.capsLock w goingDown).lastEvent = s.lastEvent := by
  unfold capsLock
  split
  · exact (last_setAlphaLockFeedback false _).trans (last_startFeatureToggle s)
  · split
    · exact last_sierraCapsLock goingDown s
    · rfl

theorem last_ite {c : Prop} [Decidable c] {l : UInt32 × UInt32} {r r' : Keyboard × UInt8} (h : r.1.lastEvent = l)
    (h' : r'.1.lastEvent = l) : (if c then r else r').1.lastEvent = l := by
  split
  · exact h
  · exact h'

theorem last_parseSpecialKeys (keyCode : UInt8) (goingDown : Bool) (s : Keyboard) :
    (s.parseSpecialKeys w keyCode goingDown).1.lastEvent = s.lastEvent := by
  have hnum : s.toggleNumLock.lastEvent = s.lastEvent :=
    last_setNumLockFeedback _ { s with isNumPadLocked := !s.isNumPadLocked }
  have hcaps : ({ s.readKeyboardModifiers w with isAccInputExceptionKey := true }.capsLock w goingDown).lastEvent =
      s.lastEvent := (last_capsLock goingDown _).trans (last_readKeyboardModifiers (w := w) s)
  unfold parseSpecialKeys missionKey numLockOrPause contextMenu keypad
  refine last_ite (last_ite (last_when _ (last_missionControl s)) rfl) <|
    last_ite (last_ite (last_ite (last_setNumLockFeedback goingDown s) (last_when _ hnum)) rfl) <|
    last_ite (last_when _ rfl) <| last_ite (last_releaseGesture keyCode { s with isAccInputExceptionKey := true }) <|
    last_ite (last_leftShift goingDown { s with isAccInputExceptionKey := true }) <| last_ite hcaps <|
    last_ite (last_ite rfl (last_ite ?menu rfl)) <| last_ite (last_readKeyboardModifiers s) <| last_ite rfl <|
    last_ite ?keypad <| last_ite rfl rfl
  case menu => exact last_when _ (last_generateAndSeeADBCode keyCode goingDown { s with isFnKeyPressed := goingDown })
  case keypad =>
    exact last_when _ (last_generateAndSeeADBCode keyCode goingDown
      { s with isNumPadKey := !s.extendedCode, isAccInputExceptionKey := true })

/-! An event. -/

theorem fnKeyChange_congr {s t : Keyboard} (hmodes : s.modes = t.modes) (keyCode : UInt8) (rateLimit : Bool) :
    s.usesFnKey keyCode = t.usesFnKey keyCode ∧ s.fnKeyChange keyCode rateLimit = t.fnKeyChange keyCode rateLimit := by
  simp only [modes, Modes.mk.injEq] at hmodes
  obtain ⟨hprefs, -, hfn, hmode, hbits, hcmd, hctrl, halt, hasus, htoggle, hpad, hpressed, hsleep, -⟩ := hmodes
  simp only [usesFnKey, fnKeyChange, codeChange, isFnKeyComb, fnModifiers, isKeyDown, hprefs, hfn, hmode, hbits, hcmd,
    hctrl, halt, hasus, htoggle, hpad, hpressed, hsleep, and_self]

/-- What the key of an event changes, with its bit set. -/
def keyChange (w : World) (keyCode : UInt8) (goingDown : Bool) (s : Keyboard) : FlagChange :=
  if goingDown && !s.hasFunction keyCode &&
      (s.afterSpecialKeys w keyCode goingDown).usesFnKey (s.specialKeyCode keyCode) then
    (s.afterSpecialKeys w keyCode goingDown).fnKeyChange (s.specialKeyCode keyCode) (s.rateLimited w)
  else .none

theorem rateLimited_congr {s t : Keyboard} (h : t.lastEvent = s.lastEvent) : t.rateLimited w = s.rateLimited w := by
  have hsecs : t.lastEventSecs = s.lastEventSecs := congrArg Prod.fst h
  have hmicrosecs : t.lastEventMicrosecs = s.lastEventMicrosecs := congrArg Prod.snd h
  unfold rateLimited
  rw [hsecs, hmicrosecs]

theorem flags_processKey (keyCode : UInt8) (goingDown : Bool) (s : Keyboard) :
    (s.processKey w keyCode goingDown).flags = s.flags.after (s.keyChange w keyCode goingDown) := by
  unfold keyChange
  rcases processKey_split w keyCode goingDown s with ⟨hfun, hsome⟩ | ⟨hfun, heq⟩
  · rw [hfun, Bool.not_true, Bool.and_false, Bool.false_and]
    exact congrArg Control.flags (control_ProcessExtendedFunctions w hsome)
  · obtain ⟨hkey, hmodes, -⟩ := @parseSpecialKeys_special w goingDown s keyCode
    have hflags : (s.parseSpecialKeys w keyCode goingDown).1.flags = s.flags := by
      refine (congrArg Control.flags (control_parseSpecialKeys w keyCode goingDown s)).trans ?_
      split <;> rfl
    obtain ⟨huses, hchange⟩ := fnKeyChange_congr hmodes (s.specialKeyCode keyCode) (s.rateLimited w)
    rw [heq, flags_dispatchKey, hflags, hkey, rateLimited_congr (last_parseSpecialKeys keyCode goingDown s), hfun,
      ← huses, ← hchange, Bool.not_false, Bool.and_true]

/-- What an event changes. -/
def eventChange (w : World) (e : ScanEvent) (s : Keyboard) : FlagChange :=
  if isTouchpadKey e then .touchpad
  else
    match s.target e with
    | .done _ => .none
    | .key extended keyCode _ =>
      if keyCode ≠ 0 && s.takes e then
        ({ s with extendedCode := extended }.setKey keyCode e.goingDown).keyChange w keyCode e.goingDown
      else .none

/-- What has been dispatched so far does not matter, unless the modifier positions are read. -/
theorem keyChange_congr (w : World) (goingDown : Bool) {keyCode : UInt8} (h : keyCode ∉ positionKeys) (s : Keyboard)
    (log : List Sent) (now : UInt64) :
    { s with log := log, now := now }.keyChange w keyCode goingDown = s.keyChange w keyCode goingDown := by
  have hmodes : ({ s with log := log, now := now }.afterSpecialKeys w keyCode goingDown).modes =
      (s.afterSpecialKeys w keyCode goingDown).modes := by
    simp [afterSpecialKeys, modes, when, h]
  obtain ⟨huses, hchange⟩ := fnKeyChange_congr hmodes (s.specialKeyCode keyCode) (s.rateLimited w)
  unfold keyChange
  rw [← huses, ← hchange]
  rfl

theorem eventChange_discarded {e : ScanEvent} {s : Keyboard} (hkey : isTouchpadKey e = false)
    (h : (s.target e).keyCode = 0 ∨ s.takes e = false) : s.eventChange w e = .none := by
  unfold eventChange
  rw [hkey]
  cases htarget : s.target e with
  | done t => rfl
  | key extended keyCode codes =>
    rw [htarget] at h
    rcases h with hzero | htakes
    · have hzero' : keyCode = 0 := hzero
      simp [hzero']
    · simp [htakes]

theorem eventChange_key {e : ScanEvent} {s t : Keyboard} (hkey : isTouchpadKey e = false)
    (hne : (s.target e).keyCode ≠ 0)
    (hset : (s.parse w e).1.updateKeyBitVector (s.target e).keyCode e.goingDown = some t) :
    s.eventChange w e = t.keyChange w (s.target e).keyCode e.goingDown := by
  have htakes := takes_parse (w := w) hne
  rw [hset] at htakes
  unfold eventChange
  rw [hkey]
  cases htarget : s.target e with
  | done t =>
    rw [htarget] at hne
    exact absurd rfl hne
  | key extended keyCode codes =>
    rw [htarget] at hset hne
    have hne' : keyCode ≠ 0 := hne
    have hsame := key_congr htarget hset (fun t => t.keyChange w keyCode e.goingDown) (keyChange_congr w e.goingDown)
    show (if (keyCode ≠ 0 && s.takes e) = true then _ else _) = t.keyChange w keyCode e.goingDown
    rw [hsame, ← htakes]
    simp [hne']

theorem flags_event (e : ScanEvent) (s : Keyboard) :
    (s.dispatchScanEvent w e).flags = s.flags.after (s.eventChange w e) := by
  have hlight : ∀ (t : Keyboard) (d : Bool), (t.dispatchKeyboardBacklightNotification d).flags = t.flags :=
    fun t d => congrArg Control.flags (control_backlight d t)
  have hparse := congrArg Control.flags (control_parse w e s)
  have hcode := keyCode_parse (w := w) e s
  have hother : (s.parse w e).2 ≠ 0 → isTouchpadKey e = false := by
    intro hne
    cases hkey : isTouchpadKey e with
    | false => rfl
    | true => exact absurd (congrArg Prod.snd (parse_touchpadKey w hkey s)) hne
  cases dispatchScanEvent_cases w e s with
  | done hzero heq =>
    rw [heq, hlight]
    cases hkey : isTouchpadKey e with
    | true =>
      have hchange : s.eventChange w e = .touchpad := by
        unfold eventChange
        rw [hkey]
        rfl
      rw [hkey, if_pos rfl, flags_toggleTouchpad] at hparse
      rw [hchange]
      exact hparse
    | false =>
      rw [hkey] at hparse
      rw [eventChange_discarded hkey (.inl (hcode.symm.trans hzero))]
      exact hparse
  | discarded hne hset hcontrol heq =>
    have hkey := hother hne
    rw [hcode] at hne hset
    have htakes := takes_parse (w := w) hne
    rw [hset] at htakes
    rw [heq, hlight, eventChange_discarded hkey (.inr htakes.symm)]
    exact congrArg Control.flags hcontrol
  | key t hne hset hcontrol heq =>
    have hkey := hother hne
    rw [hcode] at hne hset heq
    have hflags : t.flags = s.flags := by
      show t.control.flags = s.flags
      rw [hcontrol]
      rfl
    rw [heq, hlight, flags_processKey, eventChange_key hkey hne hset, hflags]

end Keyboard

/-! Runs. -/

/-- The driver, with whether the touchpad was on when the display was put to sleep. -/
structure SleepHistory where
  keyboard : Keyboard
  atSleep : Bool

namespace SleepHistory

def event (h : SleepHistory) (l : World × ScanEvent) : SleepHistory :=
  { keyboard := h.keyboard.dispatchScanEvent l.1 l.2
    atSleep :=
      if !h.keyboard.displaySleep && (h.keyboard.dispatchScanEvent l.1 l.2).displaySleep then h.keyboard.isTPadEnabled
      else h.atSleep }

/-- The touchpad is off while the display sleeps, and has its former state when it wakes. -/
def Right (h : SleepHistory) (l : World × ScanEvent) : Prop :=
  let s := h.keyboard
  let s' := s.dispatchScanEvent l.1 l.2
  (s'.displaySleep = true → s'.isTPadEnabled = false) ∧
    (s.displaySleep = true → s'.displaySleep = false → s'.isTPadEnabled = h.atSleep)

/-- The display is put to sleep with the touchpad on, and no key inverts the touchpad's flag
alone while it sleeps. -/
def Meets (h : SleepHistory) (l : World × ScanEvent) : Prop :=
  let s := h.keyboard
  (s.displaySleep = false → s.eventChange l.1 l.2 = .displaySleep → s.isTPadEnabled = true) ∧
    (s.displaySleep = true → s.eventChange l.1 l.2 ≠ .touchpad)

instance (h : SleepHistory) (l : World × ScanEvent) : Decidable (h.Meets l) :=
  inferInstanceAs (Decidable ((_ → _ → _) ∧ (_ → _)))

/-- The display sleeps: the touchpad was on, and is off. -/
def Restorable (h : SleepHistory) : Prop :=
  h.keyboard.displaySleep = true → h.keyboard.isTPadEnabled = false ∧ h.atSleep = true

/-- An event, with the flags it leaves. -/
theorem event_flags (h : SleepHistory) (l : World × ScanEvent) :
    (h.event l).keyboard.flags = h.keyboard.flags.after (h.keyboard.eventChange l.1 l.2) :=
  Keyboard.flags_event l.2 h.keyboard

theorem restorable_of_right {h : SleepHistory} {l : World × ScanEvent} (hs : h.Restorable) (hright : h.Right l) :
    (h.event l).Restorable := by
  intro hsleep
  have hoff : (h.event l).keyboard.isTPadEnabled = false := hright.1 hsleep
  refine ⟨hoff, ?_⟩
  have hflags := h.event_flags l
  have hat : (h.event l).atSleep = if !h.keyboard.displaySleep && (h.event l).keyboard.displaySleep then
      h.keyboard.isTPadEnabled else h.atSleep := rfl
  rw [hat, hsleep, Bool.and_true]
  cases hwas : h.keyboard.displaySleep with
  | true => exact (hs hwas).2
  | false =>
    have hon := congrArg SleepFlags.isTPadEnabled hflags
    have hnow := congrArg SleepFlags.displaySleep hflags
    cases hchange : h.keyboard.eventChange l.1 l.2 with
    | none =>
      rw [hchange] at hnow
      exact absurd (hsleep.symm.trans (hnow.trans hwas)) (by decide)
    | touchpad =>
      rw [hchange] at hnow
      exact absurd (hsleep.symm.trans (hnow.trans hwas)) (by decide)
    | displaySleep =>
      rw [hchange] at hon
      have hinverted : (!h.keyboard.isTPadEnabled) = false := hon.symm.trans hoff
      simpa using hinverted

theorem right_iff {h : SleepHistory} (hs : h.Restorable) (l : World × ScanEvent) : h.Right l ↔ h.Meets l := by
  have hflags := h.event_flags l
  have hon : (h.keyboard.dispatchScanEvent l.1 l.2).isTPadEnabled = _ := congrArg SleepFlags.isTPadEnabled hflags
  have hnow : (h.keyboard.dispatchScanEvent l.1 l.2).displaySleep = _ := congrArg SleepFlags.displaySleep hflags
  have hflag : h.keyboard.flags = ⟨h.keyboard.isTPadEnabled, h.keyboard.displaySleep⟩ := rfl
  unfold Right Meets
  rw [hflag] at hon hnow
  dsimp only
  rw [hon, hnow]
  unfold Restorable at hs
  revert hs
  generalize h.keyboard.isTPadEnabled = on
  generalize h.keyboard.displaySleep = asleep
  generalize h.atSleep = atSleep
  cases h.keyboard.eventChange l.1 l.2 <;> cases on <;> cases asleep <;> cases atSleep <;> simp [SleepFlags.after]

/-- From a state in which the display is awake, over any events: the touchpad is off while the
display sleeps, and restored, just when every event meets the condition. -/
theorem displaySleep_right_iff {s : Keyboard} (hawake : s.displaySleep = false) (atSleep : Bool)
    (ls : List (World × ScanEvent)) :
    (∀ p l, p ++ [l] <+: ls → (Transition.run event p ⟨s, atSleep⟩).Right l) ↔
      ∀ p l, p ++ [l] <+: ls → (Transition.run event p ⟨s, atSleep⟩).Meets l := by
  have hstart : Restorable ⟨s, atSleep⟩ := fun h => absurd (h.symm.trans hawake) (by decide)
  exact Transition.run_property_iff (fun _ _ hs hright => restorable_of_right hs hright) (fun _ l hs => right_iff hs l)
    ls hstart

/-! Two runs. -/

open Keyboard

/-- The driver with a key for the display, in the mode without the Fn key. -/
def withSleepKey : Keyboard :=
  { afterStart with fn := { afterStart.fn with dispSleep := 0x43 }, fnKeysModeNum := 1 }

/-- The key for the display, at some second. -/
def sleepKey (secs : UInt32) (goingDown : Bool) : World × ScanEvent :=
  ({ quietWorld with secs := secs }, ⟨false, 0x43, goingDown⟩)

/-- The display is put to sleep, and is woken. -/
def nap : List (World × ScanEvent) := [sleepKey 10 true, sleepKey 10 false, sleepKey 20 true]

theorem displaySleep_right_nap :
    (Transition.run event [sleepKey 10 true, sleepKey 10 false] ⟨withSleepKey, false⟩).Right (sleepKey 20 true) := by
  have hmeets : ∀ p l, p ++ [l] <+: nap → (Transition.run event p ⟨withSleepKey, false⟩).Meets l := by
    rw [nap, Transition.run_steps_cons, Transition.run_steps_cons, Transition.run_steps_cons]
    exact ⟨by decide +kernel, by decide +kernel, by decide +kernel, Transition.run_steps_nil _⟩
  exact (displaySleep_right_iff rfl false nap).2 hmeets _ _ (List.prefix_refl nap)

/-- The vendor's touchpad key turns the touchpad off, and the key for the display turns it on
again; or the touchpad key is pressed while the display sleeps. -/
theorem displaySleep_enables :
    let off := Transition.run event [keyPress true 0x32, sleepKey 10 true] ⟨withSleepKey, false⟩
    let asleep := Transition.run event [sleepKey 10 true, keyPress true 0x32] ⟨withSleepKey, false⟩
    withSleepKey.displaySleep = false ∧
      (off.keyboard.displaySleep = true ∧ off.keyboard.isTPadEnabled = true) ∧
      (asleep.keyboard.displaySleep = true ∧ asleep.keyboard.isTPadEnabled = true) := by
  decide +kernel

end SleepHistory

end ApplePS2
