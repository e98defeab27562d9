import ApplePS2.Keyboard.KeyLog

/- What the modes of the driver translate an event to: `codes`, which go down with
   the press and up with the release of the key, and `back`, which the driver
   presses back after it has released them itself. `dispatchScanEvent_follows`
   says that the driver does this and leaves nothing else down.

   The definitions read the state before the event only. They follow the parts of
   `dispatchKeyboardEventWithScancode`, with a lemma for each part. -/
namespace ApplePS2

structure Translation where
  codes : List UInt8
  back : List UInt8
  deriving DecidableEq, Repr

/-- Where the switch over the key codes sends an event: it ends there, or goes on
with a key code after some codes have been dispatched in its direction. -/
inductive Target where
  | done (t : Translation)
  | key (extended : Bool) (keyCode : UInt8) (codes : List UInt8)
  deriving DecidableEq, Repr

namespace Keyboard

variable (w : World)

/-! The switch over the key codes. -/

def germanTranslation (keyCode : UInt8) (goingDown : Bool) (s : Keyboard) : Target :=
  match germanKey keyCode with
  | none => .key false keyCode []
  | some key =>
    .done
      { codes := (if keyCode = 0x0c then [s.normalCode 0x2a] else []) ++ [s.normalCode key]
        back := if !goingDown && s.isKeyDown s.contrlKey then [s.normalCode s.contrlKey] else [] }

def normalTarget (keyCode : UInt8) (goingDown : Bool) (s : Keyboard) : Target :=
  if keyCode ∈ ([0x08, 0x09, 0x0a, 0x0b, 0x0c, 0x1b, 0x10, 0x56] : List UInt8) then
    if s.isKeyDown s.altkey && s.prefs.keyboardTypeID = 0x30 then s.germanTranslation keyCode goingDown
    else .key false keyCode []
  else if keyCode = 0x3e then if s.altHeld then .done ⟨[], []⟩ else .key false keyCode []
  else if keyCode = 0x19 then if s.windowsHeld then .done ⟨[], []⟩ else .key false keyCode []
  else if keyCode = 0x0f then
    if s.altHeld then
      .done ⟨[], if goingDown && s.isKeyDown s.contrlKey then [s.normalCode s.contrlKey] else []⟩
    else .key false keyCode []
  else if keyCode = 0x3a then .key false (if s.prefs.capsKey ≠ 0 then s.prefs.capsKey else keyCode) []
  else if keyCode = 0x38 then
    if s.macintoshMode then .key true 0x5b [] else .key false keyCode []
  else if keyCode ∈ keypadKeys then
    if !s.isNumPadLocked then .key true keyCode []
    else if keyCode = 0x53 && !s.prefs.makeKeyDotAsComma then
      if s.prefs.keyboardTypeID = 0x31 then .key false 0x34 []
      else if s.prefs.keyboardTypeID = 0x32 ∨ s.prefs.keyboardTypeID = 0x34 then .key false 0x33 [0x3c]
      else .key false keyCode []
    else .key false keyCode []
  else if keyCode = 0x65 then .key false (if s.fnKeysVendorLayout = .GIGABYTE then 0 else keyCode) []
  else .key false keyCode []

def extendedTarget (keyCode : UInt8) (goingDown : Bool) (s : Keyboard) : Target :=
  if keyCode ∈ vendorKeys then .done ⟨[], []⟩
  else if keyCode = 0x32 ∨ keyCode = 0x59 then .done ⟨[], []⟩
  else if keyCode = 0x33 ∨ keyCode = 0x5f then .done ⟨[], []⟩
  else if keyCode = 0x1d then
    .key true (if s.prefs.rightCntrlKey ≠ 0 then s.prefs.rightCntrlKey else keyCode) []
  else if keyCode = 0x38 then
    .key true (if s.prefs.rightALTKey ≠ 0 then s.prefs.rightALTKey
      else if s.macintoshMode then 0x5c else keyCode) []
  else if keyCode = 0x5b then if s.macintoshMode then .key false 0x38 [] else .key true keyCode []
  else if keyCode = 0x5c then .key true (if s.macintoshMode then 0x38 else keyCode) []
  else if keyCode = 0x53 then
    if s.prefs.makeDelIntoCmdBspace && goingDown then .done ⟨[], []⟩ else .key true keyCode []
  else if keyCode = 0x37 then .done ⟨[], []⟩
  else if keyCode = 0x46 then .key true keyCode []
  else if keyCode = 0x2a then .done ⟨[], []⟩
  else .key true keyCode []

/-! The special keys. -/

/-- The keys at which the modifier positions are read. -/
def positionKeys : List UInt8 := [0x3a, 0x1d, 0x5b, 0x5c, 0x38]

/-- The other keys that leave `isNumPadKey` as it is. -/
def specialKeys : List UInt8 :=
  [0x3d, 0x45, 0x46, 0x1c, 0x39, 0x01, 0x2a, 0x5d, 0x36, 0x0f, 0x0e, 0x37, 0x4a, 0x4e, 0x35]

/-- The modes that the rest of the handling of a key finds. -/
def afterSpecialKeys (keyCode : UInt8) (goingDown : Bool) (s : Keyboard) : Keyboard :=
  { s.when (keyCode ∈ positionKeys) (readKeyboardModifiers w) with
    isFnKeyPressed :=
      if keyCode = 0x5d && s.prefs.rightCtxtMKey = 0x54 && s.fnKeysModeNum > 1 then goingDown
      else s.isFnKeyPressed
    featureToggleMode := s.featureToggleMode ||
      (goingDown && ((keyCode = 0x2a && s.isKeyDown 0x3a) || (keyCode = 0x3a && s.isKeyDown 0x2a)))
    isNumPadKey :=
      if keyCode ∈ keypadKeys then !s.extendedCode
      else s.isNumPadKey &&
        (keyCode ∈ positionKeys || keyCode ∈ specialKeys || s.isKeyDown s.commandKey) }

/-- The key code that the switch over the special keys ends with. -/
def specialKeyCode (keyCode : UInt8) (s : Keyboard) : UInt8 :=
  if keyCode = 0x3d then
    if s.isFnKeyPressed && (s.isKeyDown s.contrlKey || s.isKeyDown s.commandKey) then 0 else keyCode
  else if keyCode = 0x45 then
    if !s.extendedCode then if s.prefs.makeNumLockAsClear then keyCode else 0
    else if s.fnKeysModeNum > 1 then 0x5d else keyCode
  else if keyCode = 0x5d then
    if s.prefs.rightCtxtMKey = 0x5c then if s.macintoshMode then 0x38 else 0x5c
    else s.prefs.rightCtxtMKey
  else keyCode

/-- The presses of Caps Lock that are added for Sierra. -/
def capsCodes (keyCode : UInt8) (goingDown : Bool) (s : Keyboard) : List UInt8 :=
  if keyCode = 0x3a && !(s.isKeyDown 0x2a && goingDown) && (s.osxVersion > 11 && !s.featureToggleMode &&
    s.prefs.fixSierraCapsLockBug) then [0x39] else []

/-! Dispatch. -/

/-- The media keys go down with the Fn key and up with it. -/
def mediaCodes (keyCode : UInt8) (goingDown : Bool) (s : Keyboard) : List UInt8 :=
  if goingDown && keyCode = s.fn.kbrdBrightnessDown && s.enabledAsusKBacklight then []
  else if goingDown && keyCode = s.fn.kbrdBrightnessUp && s.enabledAsusKBacklight then []
  else if keyCode = s.fn.mediaPrev then [0x34]
  else if keyCode = s.fn.mediaNext then [0x40]
  else []

def featureCodes (keyCode : UInt8) (goingDown : Bool) (s : Keyboard) : List UInt8 :=
  if s.isKeyDown 0x2a && s.isKeyDown 0x3a then
    if s.isFnKeyComb keyCode && s.prefs.makeShiftCapsAsFn then
      if s.fnKeysModeNum = 1 then [s.adbCode keyCode]
      else if s.fnKeysModeNum = 2 ∨ s.fnKeysModeNum = 3 then s.mediaCodes keyCode goingDown
      else []
    else []
  else []

def dispatchCodes (keyCode : UInt8) (goingDown : Bool) (s : Keyboard) : List UInt8 :=
  if s.featureToggleMode then s.featureCodes keyCode goingDown
  else if keyCode = 0 then []
  else if s.isFnKeyComb keyCode && (s.isFnKeyPressed || s.fnKeysModeNum = 1) then
    s.mediaCodes keyCode goingDown
  else if !s.displaySleep && s.isModifierKey keyCode then
    if keyCode = 0x5d then [] else [s.adbCode keyCode]
  else if !s.displaySleep && !s.isFnKeyPressed then [s.adbCode keyCode]
  else []

/-- Shift with a function key: F13 to F24, and the shift key pressed back at the end. -/
def functionTranslation (i : Fin 12) (keyCode : UInt8) (goingDown : Bool) (s : Keyboard) : Translation :=
  let back := if goingDown then [] else [s.normalCode 0x2a]
  match s.combination i with
  | some keys => ⟨combinationCodes keys.toList [] 0, back⟩
  | none => if keyCode = 0 then ⟨[], []⟩ else ⟨[s.normalCode keyCode], back⟩

/-- The key bit vector has been updated. -/
def processTranslation (keyCode : UInt8) (goingDown : Bool) (s : Keyboard) : Translation :=
  match if s.shiftFunction keyCode then extendedFunction keyCode else none with
  | some (i, keyCode) => s.functionTranslation i keyCode goingDown
  | none =>
    ⟨s.capsCodes keyCode goingDown ++
      (s.afterSpecialKeys w keyCode goingDown).dispatchCodes (s.specialKeyCode keyCode) goingDown, []⟩

def keyTranslation (extended : Bool) (keyCode : UInt8) (goingDown : Bool) (s : Keyboard) : Translation :=
  if keyCode = 0 then ⟨[], []⟩
  else if goingDown && (s.isKeyDown keyCode && !s.repeats keyCode) then ⟨[], []⟩
  else ({ s with extendedCode := extended }.setKey keyCode goingDown).processTranslation w keyCode goingDown

def target (e : ScanEvent) (s : Keyboard) : Target :=
  if e.extended then s.extendedTarget e.keyCode e.goingDown else s.normalTarget e.keyCode e.goingDown

def translation (e : ScanEvent) (s : Keyboard) : Translation :=
  match s.target e with
  | .done t => t
  | .key extended keyCode codes =>
    let t := s.keyTranslation w extended keyCode e.goingDown
    ⟨codes ++ t.codes, t.back⟩

/-! The switch follows its target. -/

/-- How the switch ends, for each of its targets. -/
def Goes (goingDown : Bool) (s : Keyboard) (r : Keyboard × UInt8) : Target → Prop
  | .done t => r.2 = 0 ∧ s.Follows goingDown r.1 t.codes t.back
  | .key extended keyCode codes =>
    r.2 = keyCode ∧ s.Follows goingDown r.1 codes [] ∧
    (∃ log now, r.1 = { s with extendedCode := extended, log := log, now := now }) ∧
    (keyCode ∈ positionKeys → r.1 = { s with extendedCode := extended })

variable {w} {goingDown : Bool} {s : Keyboard}

theorem follows_when {c : Bool} {f : Keyboard → Keyboard} {codes back : List UInt8}
    (h : s.Follows goingDown (f s) codes back) :
    s.Follows goingDown (s.when c f) (if c then codes else []) (if c then back else []) := by
  cases c with
  | true => exact h
  | false => exact (HeldKeys.Quiet.refl _).follows _

theorem goes_key (extended : Bool) (keyCode : UInt8) :
    Goes goingDown s ({ s with extendedCode := extended }, keyCode) (.key extended keyCode []) :=
  ⟨rfl, (HeldKeys.Quiet.refl _).follows _, ⟨s.log, s.now, rfl⟩, fun _ => rfl⟩

theorem goes_stay {extended : Bool} (h : s.extendedCode = extended) (keyCode : UInt8) :
    Goes goingDown s (s, keyCode) (.key extended keyCode []) := by
  subst h
  exact goes_key s.extendedCode keyCode

theorem when_dispatch_eq {extended : Bool} (h : s.extendedCode = extended) (c : Bool) (keyCode : UInt8)
    (down : Bool) : ∃ log now, s.when c (dispatchKeyboardKeyCode w keyCode down) =
      { s with extendedCode := extended, log := log, now := now } := by
  subst h
  cases c
  · exact ⟨s.log, s.now, rfl⟩
  · exact ⟨_, _, rfl⟩

theorem goes_done {s' : Keyboard} (h : s.Quiet s') : Goes goingDown s (s', 0) (.done ⟨[], []⟩) :=
  ⟨rfl, h.follows _⟩

theorem goes_german (hext : s.extendedCode = false) (keyCode : UInt8) :
    Goes goingDown s (s.MapGermanTurkishKeyboardLayout w keyCode goingDown)
      (s.germanTranslation keyCode goingDown) := by
  unfold MapGermanTurkishKeyboardLayout germanTranslation
  cases germanKey keyCode with
  | none => exact goes_stay hext keyCode
  | some key =>
    refine ⟨rfl, ?_⟩
    -- shift, then control up, then the key, then control down
    have hshift := follows_when (c := keyCode = 0x0c) (follows_dispatch w goingDown (s.normalCode 0x2a) s)
    refine (hshift.thenQuiet (quiet_when (quiet_up w _ _))).append
      ((follows_dispatch w goingDown _ _).append (follows_when (follows_pressedBack w goingDown _ _)))
      |>.congr ?_ ?_ <;> simp

theorem follows_appSwitch :
    s.Follows true (s.appSwitch w) [] (if s.isKeyDown s.contrlKey then [s.normalCode s.contrlKey] else []) := by
  unfold appSwitch
  have hquiet := (quiet_when (c := s.isKeyDown s.contrlKey) (quiet_up w (s.normalCode s.contrlKey) s)).trans
    (quiet_chord w [0x30] _)
  refine (HeldKeys.Follows.afterQuiet hquiet (follows_when (follows_pressedBack w true _ _))).congr ?_ ?_ <;>
    simp

theorem goes_ite {c : Prop} [Decidable c] {r r' : Keyboard × UInt8} {t t' : Target}
    (h : c → Goes goingDown s r t) (h' : ¬c → Goes goingDown s r' t') :
    Goes goingDown s (if c then r else r') (if c then t else t') := by
  by_cases hc : c
  · rw [if_pos hc, if_pos hc]
    exact h hc
  · rw [if_neg hc, if_neg hc]
    exact h' hc

theorem goes_normal (hext : s.extendedCode = false) (keyCode : UInt8) :
    Goes goingDown s (s.switchNormal w keyCode goingDown) (s.normalTarget keyCode goingDown) := by
  have hstay : ∀ k, Goes goingDown s (s, k) (.key false k []) := goes_stay hext
  refine goes_ite (fun _ => ?german) fun _ => goes_ite (fun _ => ?appClose) fun _ =>
    goes_ite (fun _ => ?mirror) fun _ => goes_ite (fun _ => ?appSwitch) fun _ =>
    goes_ite (fun _ => hstay _) fun _ => goes_ite (fun _ => ?leftAlt) fun _ =>
    goes_ite (fun _ => ?keypad) fun _ => goes_ite (fun _ => hstay _) fun _ => hstay _
  case german => exact goes_ite (fun _ => goes_german hext keyCode) fun _ => hstay _
  case appClose =>
    exact goes_ite (fun _ => goes_done (quiet_when (quiet_receiveGesture w (by decide) s))) fun _ => hstay _
  case mirror => exact goes_ite (fun _ => goes_done (quiet_when (quiet_chord w [0x50] s))) fun _ => hstay _
  case appSwitch =>
    refine goes_ite (fun _ => ⟨rfl, ?_⟩) fun _ => hstay _
    cases goingDown with
    | true => exact follows_appSwitch
    | false => exact (HeldKeys.Quiet.refl _).follows _
  case leftAlt => exact goes_ite (fun _ => goes_key _ _) fun _ => hstay _
  case keypad =>
    refine goes_ite (fun _ => goes_key _ _) fun _ => goes_ite (fun _ => ?_) fun _ => hstay _
    refine goes_ite (fun _ => hstay _) fun _ => goes_ite (fun _ => ?_) fun _ => hstay _
    -- the French keypad dot: the right shift key comes with it
    exact ⟨rfl, follows_dispatch w goingDown 0x3c s, when_dispatch_eq hext true _ _,
      fun h => absurd h (by decide)⟩

theorem goes_extended (hext : s.extendedCode = true) (keyCode : UInt8) :
    Goes goingDown s (s.switchExtended w keyCode goingDown) (s.extendedTarget keyCode goingDown) := by
  have hstay : ∀ k, Goes goingDown s (s, k) (.key true k []) := goes_stay hext
  refine goes_ite (fun _ => goes_done (quiet_when (quiet_dispatchVendorKey w _ s))) fun _ =>
    goes_ite (fun _ => goes_done (quiet_when (.of_eq (keyLog_toggleTouchpad s)))) fun _ =>
    goes_ite (fun _ => goes_done (quiet_when (.of_eq (keyLog_sleepNow s)))) fun _ =>
    goes_ite (fun _ => hstay _) fun _ => goes_ite (fun _ => hstay _) fun _ =>
    goes_ite (fun _ => ?leftWindows) fun _ => goes_ite (fun _ => hstay _) fun _ =>
    goes_ite (fun _ => ?delete) fun _ =>
    goes_ite (fun _ => goes_done (quiet_when (quiet_chord w _ s))) fun _ =>
    goes_ite (fun h => ?eject) fun _ => goes_ite (fun _ => goes_done (.refl _)) fun _ => hstay _
  case leftWindows => exact goes_ite (fun _ => goes_key _ _) fun _ => hstay _
  case delete => exact goes_ite (fun _ => goes_done (quiet_chord w _ s)) fun _ => hstay _
  case eject =>
    subst h
    exact ⟨rfl, (quiet_when (quiet_up w _ s)).follows _, when_dispatch_eq hext _ _ _,
      fun h => absurd h (by decide)⟩

/-! The dispatch follows the modes it finds. -/

theorem follows_ite {c : Prop} [Decidable c] {a b : Keyboard} {codes codes' : List UInt8}
    (h : c → s.Follows goingDown a codes []) (h' : ¬c → s.Follows goingDown b codes' []) :
    s.Follows goingDown (if c then a else b) (if c then codes else codes') [] := by
  by_cases hc : c
  · rw [if_pos hc, if_pos hc]
    exact h hc
  · rw [if_neg hc, if_neg hc]
    exact h' hc

theorem follows_refl : s.Follows goingDown s [] [] := (HeldKeys.Quiet.refl _).follows _

theorem follows_fnKeyDown (keyCode : UInt8) (rateLimit : Bool) :
    s.Follows true (s.fnKeyDown w keyCode rateLimit).1 (s.mediaCodes keyCode true) [] := by
  unfold fnKeyDown mediaCodes
  simp only [Bool.true_and, apply_ite Prod.fst]
  refine follows_ite (fun _ => ?_) fun _ => follows_ite (fun _ => ?_) fun _ =>
    follows_ite (fun _ => follows_dispatch w true 0x34 s) fun _ =>
    follows_ite (fun _ => follows_dispatch w true 0x40 s) fun _ => (quiet_fnKeyFunction w _ _ s).follows _
  · exact (HeldKeys.Quiet.of_eq (by simp)).follows _
  · exact (HeldKeys.Quiet.of_eq (by simp)).follows _

theorem follows_fnKeyUp (keyCode : UInt8) :
    s.Follows false (s.fnKeyUp w keyCode).1 (s.mediaCodes keyCode false) [] := by
  unfold fnKeyUp mediaCodes
  simp only [Bool.false_and, Bool.false_eq_true, if_false, apply_ite Prod.fst]
  refine follows_ite (fun _ => follows_dispatch w false 0x34 s) fun _ =>
    follows_ite (fun _ => follows_dispatch w false 0x40 s) fun _ => ?_
  split <;> exact follows_refl

theorem follows_processFnKeys (keyCode : UInt8) :
    s.Follows goingDown (s.processFnKeys w keyCode goingDown) (s.mediaCodes keyCode goingDown) [] := by
  have hfirst : s.Follows goingDown
      (if goingDown then s.fnKeyDown w keyCode (s.rateLimited w) else s.fnKeyUp w keyCode).1
      (s.mediaCodes keyCode goingDown) [] := by
    cases goingDown with
    | true => exact follows_fnKeyDown keyCode _
    | false => exact follows_fnKeyUp keyCode
  refine hfirst.thenQuiet (.trans (.of_eq ?_) (quiet_dispatchFnKey w _ _))
  rfl

theorem notifyModifiers_eq (keyCode : UInt8) :
    s.notifyModifiers.keyLog = s.keyLog ∧ s.notifyModifiers.adbCode keyCode = s.adbCode keyCode := by
  unfold notifyModifiers
  split
  · exact ⟨keyLog_notify _ _, rfl⟩
  · exact ⟨rfl, rfl⟩

theorem follows_dispatchModifier (keyCode : UInt8) :
    s.Follows goingDown (s.dispatchModifier w keyCode goingDown)
      (if keyCode = 0x5d then [] else [s.adbCode keyCode]) [] := by
  obtain ⟨hlog, hcode⟩ := s.notifyModifiers_eq keyCode
  refine follows_ite (fun _ => ?_) fun _ => ?_
  · exact (HeldKeys.Quiet.of_eq ((keyLog_when (keyLog_notify _) _ _).trans hlog)).follows _
  · rw [← hcode]
    exact .afterQuiet (.of_eq hlog) (follows_dispatch w goingDown _ _)

theorem follows_dispatchNormal (keyCode : UInt8) :
    s.Follows goingDown (s.dispatchNormal w keyCode goingDown) [s.adbCode keyCode] [] := by
  refine (follows_dispatch w goingDown _ s).thenQuiet ?_
  unfold dispatchNormal
  dsimp only
  split
  · exact .of_eq (keyLog_notify _ _)
  split
  · exact .of_eq (keyLog_notify _ _)
  · exact .refl _

theorem follows_processFeatureToggle (keyCode : UInt8) :
    s.Follows goingDown (s.processFeatureToggle w keyCode goingDown) (s.featureCodes keyCode goingDown) [] := by
  refine follows_ite (fun _ => follows_ite (fun _ => ?fnKey) fun _ => ?toggle) fun _ => ?other
  case fnKey =>
    exact follows_ite (fun _ => follows_dispatch w goingDown _ s) fun _ =>
      follows_ite (fun _ => follows_processFnKeys keyCode) fun _ => follows_refl
  case toggle => exact (HeldKeys.Quiet.of_eq (keyLog_ToggleTouchpadFeatures _ _ s)).follows _
  case other =>
    split
    · exact (HeldKeys.Quiet.of_eq (by simp; rfl)).follows _
    · exact follows_refl

theorem follows_dispatchKey (keyCode : UInt8) :
    s.Follows goingDown (s.dispatchKey w keyCode goingDown) (s.dispatchCodes keyCode goingDown) [] :=
  follows_ite (fun _ => follows_processFeatureToggle keyCode) fun _ =>
    follows_ite (fun _ => follows_refl) fun _ =>
    follows_ite (fun _ => follows_processFnKeys keyCode) fun _ =>
    follows_ite (fun _ => follows_dispatchModifier keyCode) fun _ =>
    follows_ite (fun _ => follows_dispatchNormal keyCode) fun _ => follows_refl

theorem goes_target (e : ScanEvent) :
    Goes e.goingDown s
      (if e.extended then s.parseExtended w e.keyCode e.goingDown else s.parseNormal w e.keyCode e.goingDown)
      (s.target e) := by
  unfold target
  split
  · exact goes_extended (s := { s with extendedCode := true }) rfl e.keyCode
  · exact goes_normal (s := { s with extendedCode := false }) rfl e.keyCode

end Keyboard

end ApplePS2
