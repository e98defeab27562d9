import ApplePS2.Keyboard.FnKeys
import ApplePS2.Keyboard.Scanner

/- `dispatchKeyboardEventWithScancode` from the switch over the key codes on, one
   definition for each of its parts. A part that changes the local `keyCode`
   returns it with the state; 0 is the source's mark for an event that is done. -/
namespace ApplePS2.Keyboard

variable (w : World)

/-! The switch over the key codes. -/

/-- The keys of the German layer, and the key that does the same in OSX. -/
def germanKey : UInt8 → Option UInt8
  | 0x08 => some 0x09
  | 0x09 => some 0x06
  | 0x0a => some 0x07
  | 0x0b => some 0x0a
  | 0x0c => some 0x08
  | 0x1b => some 0x31
  | 0x10 => some 0x26
  | 0x56 => some 0x08
  | _ => none

def MapGermanTurkishKeyboardLayout (keyCode : UInt8) (goingDown : Bool) (s : Keyboard) : Keyboard × UInt8 :=
  match germanKey keyCode with
  | none => (s, keyCode)
  | some key =>
    let ctrl := s.normalCode s.contrlKey
    let ctrlDown := s.isKeyDown s.contrlKey
    -- release control key from STGR + ALT + X, and press it back after ALT + X
    (s |> when (keyCode = 0x0c) (dispatchKeyboardKeyCode w (s.normalCode 0x2a) goingDown)
      |> when (goingDown && ctrlDown) (dispatchKeyboardKeyCode w ctrl false)
      |> dispatchKeyboardKeyCode w (s.normalCode key) goingDown
      |> when (!goingDown && ctrlDown) (dispatchKeyboardKeyCode w ctrl true), 0)

/-- TAB with ALT: the control key is released for the application switch. -/
def appSwitch (s : Keyboard) : Keyboard :=
  let ctrl := s.normalCode s.contrlKey
  let ctrlDown := s.isKeyDown s.contrlKey
  s |> when ctrlDown (dispatchKeyboardKeyCode w ctrl false) |> chord w [0x30]
    |> when ctrlDown (dispatchKeyboardKeyCode w ctrl true)

/-- The shortcuts with the ALT key of the keyboard, wherever the swap has put it. -/
def altHeld (s : Keyboard) : Bool :=
  (s.isKeyDown s.altkey && !s.macintoshMode) || (s.isKeyDown s.commandKey && s.macintoshMode)

/-- The shortcuts with the Windows key. -/
def windowsHeld (s : Keyboard) : Bool :=
  (s.isKeyDown s.commandKey && !s.macintoshMode) || (s.isKeyDown s.altkey && s.macintoshMode)

/-- The keys of the numeric keypad that have a second meaning. -/
def keypadKeys : List UInt8 := [0x47, 0x48, 0x49, 0x4b, 0x4c, 0x4d, 0x4f, 0x50, 0x51, 0x52, 0x53]

/-- The switch over the normal key codes. -/
def switchNormal (keyCode : UInt8) (goingDown : Bool) (s : Keyboard) : Keyboard × UInt8 :=
  if keyCode ∈ ([0x08, 0x09, 0x0a, 0x0b, 0x0c, 0x1b, 0x10, 0x56] : List UInt8) then
    if s.isKeyDown s.altkey && s.prefs.keyboardTypeID = 0x30 then
      s.MapGermanTurkishKeyboardLayout w keyCode goingDown
    else (s, keyCode)
  else if keyCode = 0x3e then
    if s.altHeld then (s.when goingDown (receiveGesture w .kPS2C_Gesture_AppClose), 0)
    else (s, keyCode)
  else if keyCode = 0x19 then
    if s.windowsHeld then (s.when goingDown (chord w [0x50]), 0) else (s, keyCode)
  else if keyCode = 0x0f then
    if s.altHeld then (s.when goingDown (appSwitch w), 0) else (s, keyCode)
  else if keyCode = 0x3a then (s, if s.prefs.capsKey ≠ 0 then s.prefs.capsKey else keyCode)
  else if keyCode = 0x38 then
    if s.macintoshMode then ({ s with extendedCode := true }, 0x5b) else (s, keyCode)
  else if keyCode ∈ keypadKeys then
    if !s.isNumPadLocked then ({ s with extendedCode := true }, keyCode)
    else if keyCode = 0x53 && !s.prefs.makeKeyDotAsComma then
      if s.prefs.keyboardTypeID = 0x31 then (s, 0x34)
      else if s.prefs.keyboardTypeID = 0x32 ∨ s.prefs.keyboardTypeID = 0x34 then
        -- Dispatch Shift + ; for . in French
        (s.dispatchKeyboardKeyCode w 0x3c goingDown, 0x33)
      else (s, keyCode)
    else (s, keyCode)
  else if keyCode = 0x65 then (s, if s.fnKeysVendorLayout = .GIGABYTE then 0 else keyCode)
  else (s, keyCode)

/-- "Parses the normal key code." -/
def parseNormal (keyCode : UInt8) (goingDown : Bool) (s : Keyboard) : Keyboard × UInt8 :=
  { s with extendedCode := false }.switchNormal w keyCode goingDown

/-- The vendors' Fn keys with a scan code of their own. -/
def vendorKeys : List UInt8 :=
  [0x02, 0x08, 0x09, 0x4e, 0x05, 0x06, 0x12, 0x17, 0x6f, 0x6e, 0x77, 0x78, 0x20, 0x2e, 0x30]

def vendorKeyCode (keyCode : UInt8) (s : Keyboard) : UInt8 :=
  if s.prefs.asusFnKeyWorkAsFunction then
    if keyCode = 0x20 then 0x44 else if keyCode = 0x2e then 0x57 else if keyCode = 0x30 then 0x58 else keyCode
  else s.extCode keyCode

def dispatchVendorKey (keyCode : UInt8) (s : Keyboard) : Keyboard :=
  if keyCode = 0x4d && s.useFinerBrightnesCtrl then s.processFnKeys w 0x10 false
  else if keyCode = 0x4f && s.useFinerBrightnesCtrl then s.processFnKeys w 0x20 false
  else if keyCode = 0x48 && s.useFinerVolumeCtrl then s.processFnKeys w 0x4c false
  else if keyCode = 0x49 && s.useFinerVolumeCtrl then s.processFnKeys w 0x49 false
  else if keyCode ≠ 0 then s.chord w [keyCode]
  else s

/-- The switch over the extended key codes. -/
def switchExtended (keyCode : UInt8) (goingDown : Bool) (s : Keyboard) : Keyboard × UInt8 :=
  if keyCode ∈ vendorKeys then
    (s.when goingDown (dispatchVendorKey w (s.vendorKeyCode keyCode)), 0)
  else if keyCode = 0x32 ∨ keyCode = 0x59 then (s.when goingDown toggleTouchpad, 0)
  else if keyCode = 0x33 ∨ keyCode = 0x5f then (s.when goingDown (send .sleepNow), 0)
  else if keyCode = 0x1d then (s, if s.prefs.rightCntrlKey ≠ 0 then s.prefs.rightCntrlKey else keyCode)
  else if keyCode = 0x38 then
    let keyCode := if s.macintoshMode then 0x5c else keyCode
    (s, if s.prefs.rightALTKey ≠ 0 then s.prefs.rightALTKey else keyCode)
  else if keyCode = 0x5b then
    if s.macintoshMode then ({ s with extendedCode := false }, 0x38) else (s, keyCode)
  else if keyCode = 0x5c then (s, if s.macintoshMode then 0x38 else keyCode)
  else if keyCode = 0x53 then
    if s.prefs.makeDelIntoCmdBspace && goingDown then (s.chord w [s.extCode s.commandKey, 0x33], 0)
    else (s, keyCode)
  else if keyCode = 0x37 then
    -- Print Screen Simulation with command + shift + 4
    (s.when (goingDown && !s.displaySleep) (chord w [s.extCode s.commandKey, 0x38, 0x15]), 0)
  else if keyCode = 0x46 then
    (s.when goingDown (dispatchKeyboardKeyCode w (s.normalCode s.contrlKey) false), keyCode)
  else if keyCode = 0x2a then (s, 0)
  else (s, keyCode)

/-- "Parses the extended key code." -/
def parseExtended (keyCode : UInt8) (goingDown : Bool) (s : Keyboard) : Keyboard × UInt8 :=
  { s with extendedCode := true }.switchExtended w keyCode goingDown

/-! The key bit vector, and auto-repeat. -/

/-- No modifier is down, or ALT + Shift, with which the Fn keys have finer steps. -/
def fnModifiers (s : Keyboard) : Bool :=
  !s.isKeyDown s.contrlKey && !s.isKeyDown s.commandKey &&
    (!s.isKeyDown s.altkey || (s.isKeyDown s.altkey && (s.isKeyDown 0x2a || s.isKeyDown 0x36)))

/-- The brightness and volume keys, which may repeat. -/
def repeats (keyCode : UInt8) (s : Keyboard) : Bool :=
  (keyCode = s.fn.brightNessDown || keyCode = s.fn.brightNessUp || keyCode = s.fn.volDown ||
      keyCode = s.fn.volUp) &&
    !s.isNumPadKey && !s.displaySleep && s.fnModifiers

/-- `none` for an auto-repeated key that is discarded. -/
def updateKeyBitVector (keyCode : UInt8) (goingDown : Bool) (s : Keyboard) : Option Keyboard :=
  if goingDown then
    if s.isKeyDown keyCode && !s.repeats keyCode then none else some (s.setKey keyCode true)
  else some (s.setKey keyCode false)

/-- Shift + F1 - F12 acts as F13 - F24. -/
def shiftFunction (keyCode : UInt8) (s : Keyboard) : Bool :=
  s.hasExtendFunctions && !s.featureToggleMode && (s.isKeyDown 0x2a || s.isKeyDown 0x36) &&
    keyCode ≠ 0x2a && keyCode ≠ 0x36 &&
    !s.isKeyDown s.altkey && !s.isKeyDown s.contrlKey && !s.isKeyDown s.commandKey

/-! The special keys. -/

/-- The digit of a key of the numeric keypad. -/
def keypadDigit : UInt8 → Option UInt8
  | 0x52 => some 0
  | 0x4f => some 1
  | 0x50 => some 2
  | 0x51 => some 3
  | 0x4b => some 4
  | 0x4c => some 5
  | 0x4d => some 6
  | 0x47 => some 7
  | 0x48 => some 8
  | 0x49 => some 9
  | _ => none

/-- The codes `_generatedCode`, `_tempCode1` and `_tempCode2` after another digit. -/
def enterDigit (generatedCode tempCode1 tempCode2 : UInt8) : UInt8 × UInt8 × UInt8 :=
  if tempCode1 = 0 then (generatedCode, generatedCode, 0)
  else if tempCode2 = 0 then
    (tempCode1 * 10 + generatedCode, tempCode1, if generatedCode = 0 then 10 else generatedCode)
  else
    let tempCode2 := if tempCode2 = 10 then 0 else tempCode2
    (tempCode1 * 100 + tempCode2 * 10 + generatedCode, tempCode1, tempCode2)

def generateAndSeeADBCode (keyCode : UInt8) (goingDown : Bool) (s : Keyboard) : Keyboard :=
  if goingDown then
    let codes := enterDigit ((keypadDigit keyCode).getD s.generatedCode) s.tempCode1 s.tempCode2
    { s with generatedCode := codes.1, tempCode1 := codes.2.1, tempCode2 := codes.2.2 }
  else if s.generatedCode ≠ 0 then
    { s.chord w [s.generatedCode] with generatedCode := 0, tempCode1 := 0, tempCode2 := 0 }
  else s

/-- Shift and Caps Lock have come together: feature toggle mode begins. -/
def startFeatureToggle (s : Keyboard) : Keyboard :=
  { s with featureToggleMode := true, releaseGestureKey := false }
    |> notify .kPS2C_ShowTouchPressureWidth |> dispatchKeyboardKeyCode w 0x38 false |> notify .kPS2C_ESC

/-- Enter, Space and ESC. -/
def releaseGesture (keyCode : UInt8) (s : Keyboard) : Keyboard :=
  if s.releaseGestureKey || keyCode = 0x01 then
    { s with releaseGestureKey := false }
      |> when (s.isKeyDown s.commandKey) (dispatchKeyboardKeyCode w (s.extCode s.commandKey) false)
      |> notify .kPS2C_ESC
  else s

def leftShift (goingDown : Bool) (s : Keyboard) : Keyboard :=
  if goingDown then
    if s.isKeyDown 0x3a then
      { s with isCapsLocked := false } |> startFeatureToggle w |> setAlphaLockFeedback false
    else { s with releaseGestureKey := true }.notify .kPS2C_ShiftKey
  else if !s.featureToggleMode then s.notify .kPS2C_ESC
  else s

/-- The third press, which Sierra wants, is the one that every key is dispatched with. -/
def sierraCapsLock (goingDown : Bool) (s : Keyboard) : Keyboard :=
  let isCapsLocked := if goingDown then s.isCapsLocked else !s.isCapsLocked
  { s with isCapsLocked := isCapsLocked }
    |> dispatchKeyboardKeyCode w 0x39 goingDown |> dispatchKeyboardKeyCode w 0x39 goingDown
    |> when (!goingDown) (send (.setAlphaLock isCapsLocked))
    |> when (!goingDown) (setAlphaLockFeedback isCapsLocked)

/-- Caps Lock, after `readKeyboardModifiers`. -/
def capsLock (goingDown : Bool) (s : Keyboard) : Keyboard :=
  if s.isKeyDown 0x2a && goingDown then s |> startFeatureToggle w |> setAlphaLockFeedback false
  else if s.osxVersion > 11 && !s.featureToggleMode && s.prefs.fixSierraCapsLockBug then
    s.sierraCapsLock w goingDown
  else { s with isCapsLocked := !s.isCapsLocked }

/-- The right context menu key. -/
def contextMenu (keyCode : UInt8) (goingDown : Bool) (s : Keyboard) : Keyboard × UInt8 :=
  if s.prefs.rightCtxtMKey = 0x5c then (s, if s.macintoshMode then 0x38 else 0x5c)
  else if s.prefs.rightCtxtMKey = 0x54 && s.fnKeysModeNum > 1 then
    ({ s with isFnKeyPressed := goingDown }.when (!goingDown && s.isNumPadLocked && !s.displaySleep)
      (generateAndSeeADBCode w keyCode goingDown), s.prefs.rightCtxtMKey)
  else (s, s.prefs.rightCtxtMKey)

def keypad (keyCode : UInt8) (goingDown : Bool) (s : Keyboard) : Keyboard :=
  { s with isNumPadKey := !s.extendedCode, isAccInputExceptionKey := true }.when
    (!s.extendedCode && s.isFnKeyPressed && s.isNumPadLocked && goingDown && keyCode ≠ 0x53 && !s.displaySleep)
    (generateAndSeeADBCode w keyCode goingDown)

/-- Num Lock, which the driver keeps itself. -/
def toggleNumLock (s : Keyboard) : Keyboard :=
  { s with isNumPadLocked := !s.isNumPadLocked }.setNumLockFeedback !s.isNumPadLocked

/-- F3: Desktop (Fn + Control + F3) and App Window (Fn + Cmd + F3). -/
def missionKey (keyCode : UInt8) (goingDown : Bool) (s : Keyboard) : Keyboard × UInt8 :=
  if s.isFnKeyPressed && (s.isKeyDown s.contrlKey || s.isKeyDown s.commandKey) then
    (s.when goingDown (receiveGesture w .kPS2C_Gesture_MissionControl), 0)
  else (s, keyCode)

/-- NumLock, and Pause/Break (extended), the context menu key for Fn key mode > 1. -/
def numLockOrPause (keyCode : UInt8) (goingDown : Bool) (s : Keyboard) : Keyboard × UInt8 :=
  if !s.extendedCode then
    if s.prefs.makeNumLockAsClear then (s.setNumLockFeedback goingDown, keyCode)
    else (s.when goingDown toggleNumLock, 0)
  else (s, if s.fnKeysModeNum > 1 then 0x5d else keyCode)

/-- "Parse special keys, Control Keypad and Accidental Input exception Key states." -/
def parseSpecialKeys (keyCode : UInt8) (goingDown : Bool) (s : Keyboard) : Keyboard × UInt8 :=
  if keyCode = 0x3d then s.missionKey w keyCode goingDown
  else if keyCode = 0x45 then s.numLockOrPause keyCode goingDown
  else if keyCode = 0x46 then
    (s.when (!s.extendedCode && goingDown)
      (notify (if s.isKeyDown s.altkey then .kPS2C_ScrollLock_Continuous else .kPS2C_ScrollLock_Inertia)),
      keyCode)
  else if keyCode ∈ ([0x1c, 0x39, 0x01] : List UInt8) then
    ({ s with isAccInputExceptionKey := true }.releaseGesture w keyCode, keyCode)
  else if keyCode = 0x2a then ({ s with isAccInputExceptionKey := true }.leftShift w goingDown, keyCode)
  else if keyCode = 0x3a then
    ({ s.readKeyboardModifiers w with isAccInputExceptionKey := true }.capsLock w goingDown, keyCode)
  else if keyCode = 0x5d then s.contextMenu w keyCode goingDown
  else if keyCode ∈ ([0x1d, 0x5b, 0x5c, 0x38] : List UInt8) then
    ({ s.readKeyboardModifiers w with isAccInputExceptionKey := true }, keyCode)
  else if keyCode ∈ ([0x36, 0x0f, 0x0e, 0x37, 0x4a, 0x4e, 0x35] : List UInt8) then
    ({ s with isAccInputExceptionKey := true }, keyCode)
  else if keyCode ∈ keypadKeys then (s.keypad w keyCode goingDown, keyCode)
  else if s.isKeyDown s.commandKey then ({ s with isAccInputExceptionKey := true }, keyCode)
  else ({ s with isNumPadKey := false, isAccInputExceptionKey := false }, keyCode)

/-! Fn key combinations and the feature toggle mode. -/

/-- The codes that have the function of an Fn key. -/
def isFnKey (keyCode : UInt8) (fn : FnKeys) : Bool :=
  keyCode ∈ [fn.brightNessDown, fn.brightNessUp, fn.kbrdBrightnessDown, fn.kbrdBrightnessUp, fn.sleep,
    fn.missonCtlFun, fn.launchpadFun, fn.dispSleep, fn.videoMirror, fn.touchpad, fn.volMute, fn.volDown,
    fn.volUp, fn.mediaPrev, fn.mediaPlay, fn.mediaNext]

/-- `isFnKeyComb`. -/
def isFnKeyComb (keyCode : UInt8) (s : Keyboard) : Bool :=
  isFnKey keyCode s.fn && !s.isNumPadKey && (!s.displaySleep || keyCode = s.fn.dispSleep) && s.fnModifiers

/-- "Process Touchpad Features toggle and Fn keys on Shift + Caps Lock." -/
def processFeatureToggle (keyCode : UInt8) (goingDown : Bool) (s : Keyboard) : Keyboard :=
  if s.isKeyDown 0x2a && s.isKeyDown 0x3a then
    if s.isFnKeyComb keyCode && s.prefs.makeShiftCapsAsFn then
      if s.fnKeysModeNum = 1 then s.dispatchKeyboardKeyCode w (s.adbCode keyCode) goingDown
      else if s.fnKeysModeNum = 2 ∨ s.fnKeysModeNum = 3 then s.processFnKeys w keyCode goingDown
      else s
    else s.ToggleTouchpadFeatures keyCode goingDown
  else if !s.isKeyDown 0x2a && !s.isKeyDown 0x3a then
    { s with featureToggleMode := false } |> setAlphaLockFeedback s.isCapsLocked
      |> notify .kPS2C_ShowTouchPressureWidth
  else s

/-! Dispatch. -/

/-- The notification about the modifier keys, at most one for each event, and the
new `_modifierKeystate`. -/
def modifierNotification (cmd ctrl alt : Bool) (state : UInt8) : Option (PS2Notification × UInt8) :=
  if state &&& 0x80 = 0 ∧ cmd ∧ ctrl ∧ alt then
    some (.kPS2C_CNTRL_Feature_on, (state &&& 0xBF) ||| 0x80)
  else if state &&& 0x80 ≠ 0 ∧ ¬(cmd ∧ ctrl ∧ alt) then some (.kPS2C_CNTRL_Feature_off, state &&& 0x7F)
  else if state &&& 0x60 = 0 ∧ cmd ∧ alt then some (.kPS2C_ALT_Funtion_on, state ||| 0x60)
  else if state &&& 0x80 ≠ 0 ∧ !cmd ∧ !alt then some (.kPS2C_ALT_Funtion_off, state &&& 0xBF)
  else if state &&& 0x01 = 0 ∧ cmd then some (.kPS2C_CMDKeyDown, state ||| 0x01)
  else if state &&& 0x01 ≠ 0 ∧ !cmd then some (.kPS2C_CMDKeyUp, state &&& 0xFE)
  else if state &&& 0x02 = 0 ∧ ctrl then some (.kPS2C_CNTRLKeyDown, state ||| 0x02)
  else if state &&& 0x02 ≠ 0 ∧ !ctrl then some (.kPS2C_CNTRLKeyUp, state &&& 0xFD)
  else none

def notifyModifiers (s : Keyboard) : Keyboard :=
  match modifierNotification (s.isKeyDown s.commandKey) (s.isKeyDown s.contrlKey) (s.isKeyDown s.altkey)
    s.modifierKeystate with
  | some (n, state) => { s with modifierKeystate := state }.notify n
  | none => s

/-- The keys that are dispatched as modifiers. -/
def isModifierKey (keyCode : UInt8) (s : Keyboard) : Bool :=
  keyCode = s.commandKey || keyCode = s.altkey || keyCode = s.contrlKey || keyCode = 0x54 ||
    (keyCode = 0x5d && !s.isFnKeyPressed) || keyCode = 0x2a || keyCode = 0x36

def dispatchModifier (keyCode : UInt8) (goingDown : Bool) (s : Keyboard) : Keyboard :=
  let s := s.notifyModifiers
  if keyCode = 0x5d then s.when goingDown (notify .kPS2C_DoContextMenu)
  else s.dispatchKeyboardKeyCode w (s.adbCode keyCode) goingDown

def dispatchNormal (keyCode : UInt8) (goingDown : Bool) (s : Keyboard) : Keyboard :=
  let s := s.dispatchKeyboardKeyCode w (s.adbCode keyCode) goingDown
  if goingDown && !s.isAccInputExceptionKey && !s.isNumPadKey && s.isTPadEnabled then
    s.notify .kPS2C_AccidentalInput
  else if (s.isAccInputExceptionKey || s.isNumPadKey) && s.isTPadEnabled then
    s.notify .kPS2C_EnableTouchpad
  else s

/-- From "Parse Fn key combination" to the end. -/
def dispatchKey (keyCode : UInt8) (goingDown : Bool) (s : Keyboard) : Keyboard :=
  if s.featureToggleMode then s.processFeatureToggle w keyCode goingDown
  else if keyCode = 0 then s
  else if s.isFnKeyComb keyCode && (s.isFnKeyPressed || s.fnKeysModeNum = 1) then s.processFnKeys w keyCode goingDown
  else if !s.displaySleep && s.isModifierKey keyCode then s.dispatchModifier w keyCode goingDown
  else if !s.displaySleep && !s.isFnKeyPressed then s.dispatchNormal w keyCode goingDown
  else s

/-- From "Parse Extended functions" to the end. -/
def processKey (keyCode : UInt8) (goingDown : Bool) (s : Keyboard) : Keyboard :=
  match if s.shiftFunction keyCode then s.ProcessExtendedFunctions w keyCode goingDown else none with
  | some s => s
  | none =>
    let (s, keyCode) := s.parseSpecialKeys w keyCode goingDown
    s.dispatchKey w keyCode goingDown

/-- A decoded event. `goingDown` is assigned only after the switch over the key codes. -/
def dispatchScanEvent (e : ScanEvent) (s : Keyboard) : Keyboard :=
  let (s, keyCode) :=
    if e.extended then s.parseExtended w e.keyCode e.goingDown else s.parseNormal w e.keyCode e.goingDown
  if keyCode = 0 then s.dispatchKeyboardBacklightNotification w.goingDown
  else
    match s.updateKeyBitVector keyCode e.goingDown with
    | none => s.dispatchKeyboardBacklightNotification e.goingDown
    | some s => (s.processKey w keyCode e.goingDown).dispatchKeyboardBacklightNotification e.goingDown

end Keyboard

/-- The keyboard driver. -/
structure KeyboardDriver where
  scanner : Scanner
  keyboard : Keyboard

namespace KeyboardDriver

def interruptOccurred (w : World) (scanCode : UInt8) (d : KeyboardDriver) : KeyboardDriver :=
  match d.scanner.interruptOccurred scanCode with
  | (scanner, none) => { d with scanner := scanner }
  | (scanner, some e) => { scanner := scanner, keyboard := d.keyboard.dispatchScanEvent w e }

end KeyboardDriver

end ApplePS2
