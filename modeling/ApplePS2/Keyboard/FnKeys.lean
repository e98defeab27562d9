import ApplePS2.Keyboard.Combinations

/- The Fn keys: how they are assigned (`setupFnkeys`, `ReadFnKeyConfig`,
   `ReadFnKeyLayout`), what they do (`processFnKeys`), the keyboard backlight, and
   the notifications received from the touchpad. -/
namespace ApplePS2.Keyboard

variable (w : World)

/-! Assignment. -/

def functionKeyNames : List (String × UInt8) :=
  [("F1", 0x3b), ("F2", 0x3c), ("F3", 0x3d), ("F4", 0x3e), ("F5", 0x3f), ("F6", 0x40), ("F7", 0x41),
   ("F8", 0x42), ("F9", 0x43), ("F10", 0x44), ("F11", 0x57), ("F12", 0x58)]

def arrowNames : List (String × UInt8) :=
  [("ArrowLeft", 0x4b), ("ArrowDown", 0x50), ("ArrowUp", 0x48), ("ArrowRight", 0x4d)]

def setupFnkeys (fnKeysModeNum : UInt8) (key : String) : UInt8 :=
  let names := functionKeyNames ++ (if fnKeysModeNum > 1 then arrowNames else []) ++
    (if fnKeysModeNum < 2 then [("Pause", 0x45)] else [])
  ((names.find? fun p => startOf key p.1).map Prod.snd).getD 0

def ReadFnKeyConfig (s : Keyboard) : Keyboard :=
  let set (key : Option String) (code : UInt8) := (key.map (setupFnkeys s.fnKeysModeNum)).getD code
  match if s.fnKeysModeNum = 1 then s.prefs.fnKeysMode1 else s.prefs.fnKeysMode2 with
  | none => s
  | some c =>
    { s with
      fn :=
        { sleep := set c.systemSleep s.fn.sleep
          brightNessDown := set c.brightnessDown s.fn.brightNessDown
          brightNessUp := set c.brightnessUp s.fn.brightNessUp
          missonCtlFun := set c.missonControl s.fn.missonCtlFun
          launchpadFun := set c.launchpad s.fn.launchpadFun
          dispSleep := set c.sleepDisplay s.fn.dispSleep
          videoMirror := set c.videoMirror s.fn.videoMirror
          touchpad := set c.touchpad s.fn.touchpad
          volMute := set c.volumeMute s.fn.volMute
          volDown := set c.volumeDown s.fn.volDown
          volUp := set c.volumeUp s.fn.volUp
          mediaPrev := set c.mediaPrevious s.fn.mediaPrev
          mediaPlay := set c.mediaPlayPause s.fn.mediaPlay
          mediaNext := set c.mediaNext s.fn.mediaNext
          kbrdBrightnessDown := set c.kbBacklightDown s.fn.kbrdBrightnessDown
          kbrdBrightnessUp := set c.kbBacklightUp s.fn.kbrdBrightnessUp } }

def vendorNames : List (String × Vendor) :=
  [("NONE", .NONE), ("ASUS", .ASUS), ("DELL", .DELL), ("ACER", .ACER), ("SAMSUNG", .SAMSUNG), ("MSI", .MSI),
   ("GIGABYTE", .GIGABYTE), ("LENOVO", .LENOVO), ("HP", .HP), ("LG", .LG)]

/-- The Fn keys of a vendor's layout. -/
def vendorFnKeys (enabledAsusKBacklight : Bool) (fn : FnKeys) : Vendor → FnKeys
  | .NONE =>
    { fn with
      sleep := DEADKEY, missonCtlFun := DEADKEY, launchpadFun := DEADKEY, dispSleep := DEADKEY
      videoMirror := DEADKEY, touchpad := DEADKEY, brightNessDown := DEADKEY, brightNessUp := DEADKEY
      volMute := DEADKEY, volDown := DEADKEY, volUp := DEADKEY
      mediaPrev := DEADKEY, mediaPlay := DEADKEY, mediaNext := DEADKEY }
  | .ASUS =>
    { fn with
      sleep := 0x3b
      missonCtlFun := if enabledAsusKBacklight then DEADKEY else 0x3d
      launchpadFun := if enabledAsusKBacklight then DEADKEY else 0x3e
      kbrdBrightnessDown := if enabledAsusKBacklight then 0x3d else fn.kbrdBrightnessDown
      kbrdBrightnessUp := if enabledAsusKBacklight then 0x3e else fn.kbrdBrightnessUp
      dispSleep := 0x41, videoMirror := 0x42, touchpad := 0x43, brightNessDown := 0x3f, brightNessUp := 0x40
      volMute := 0x44, volDown := 0x57, volUp := 0x58, mediaPrev := 0x4b, mediaPlay := 0x50, mediaNext := 0x4d }
  | .DELL =>
    { fn with
      sleep := 0x4b, missonCtlFun := 0x40, launchpadFun := 0x41, dispSleep := 0x4d, videoMirror := 0x3b
      touchpad := 0x3d, brightNessDown := 0x3e, brightNessUp := 0x3f
      volMute := 0x50, volDown := 0x57, volUp := 0x58, mediaPrev := 0x42, mediaPlay := 0x43, mediaNext := 0x44 }
  | .ACER =>
    { fn with
      sleep := 0x3e, missonCtlFun := 0x3c, launchpadFun := 0x3d, dispSleep := 0x40, videoMirror := 0x3f
      touchpad := 0x41, brightNessDown := 0x4b, brightNessUp := 0x4d
      volMute := 0x42, volDown := 0x50, volUp := 0x48, mediaPrev := 0x44, mediaPlay := 0x57, mediaNext := 0x58 }
  | .SAMSUNG =>
    { fn with
      sleep := 0x57, missonCtlFun := 0x43, launchpadFun := 0x44, dispSleep := 0x3b, videoMirror := 0x3e
      touchpad := 0x3f, brightNessDown := 0x3c, brightNessUp := 0x3d
      volMute := 0x40, volDown := 0x41, volUp := 0x42, mediaPrev := 0x4b, mediaPlay := 0x50, mediaNext := 0x4d }
  | .MSI =>
    { fn with
      sleep := 0x58, missonCtlFun := 0x41, launchpadFun := 0x57, dispSleep := 0x3e, videoMirror := 0x3c
      touchpad := 0x3d, brightNessDown := 0x50, brightNessUp := 0x48
      volMute := 0x52, volDown := 0x4b, volUp := 0x4d, mediaPrev := 0x4b, mediaPlay := 0x50, mediaNext := 0x4d }
  | .GIGABYTE =>
    { fn with
      missonCtlFun := 0x58, launchpadFun := 0x57, sleep := 0x3b, videoMirror := 0x3f, touchpad := 0x40
      dispSleep := 0x44, brightNessDown := 0x3d, brightNessUp := 0x3e
      volMute := 0x41, volDown := 0x42, volUp := 0x43, mediaPrev := 0x4b, mediaPlay := 0x50, mediaNext := 0x4d }
  | .LENOVO =>
    { fn with
      missonCtlFun := 0x42, launchpadFun := 0x3e, sleep := 0x41, videoMirror := 0x44, touchpad := 0x40
      dispSleep := 0x43, brightNessDown := 0x57, brightNessUp := 0x58
      volMute := 0x3b, volDown := 0x3c, volUp := 0x3d, mediaPrev := 0x4b, mediaPlay := 0x50, mediaNext := 0x4d }
  | .HP =>
    { fn with
      missonCtlFun := 0x4b, launchpadFun := 0x4d, sleep := 0x3b, videoMirror := 0x3e, touchpad := 0x50
      dispSleep := 0x3f, brightNessDown := 0x3c, brightNessUp := 0x3d
      volMute := 0x57, volDown := 0x43, volUp := 0x44, mediaPrev := 0x40, mediaPlay := 0x41, mediaNext := 0x42 }
  | .LG =>
    { fn with
      missonCtlFun := 0x42, launchpadFun := 0x44, sleep := 0x3e, videoMirror := 0x41, touchpad := 0x3f
      dispSleep := 0x40, brightNessDown := 0x3c, brightNessUp := 0x3d
      volMute := 0x43, volDown := 0x57, volUp := 0x58, mediaPrev := 0x4b, mediaPlay := 0x50, mediaNext := 0x4d }

def ReadFnKeyLayout (s : Keyboard) : Keyboard :=
  match s.prefs.fnKeysLayout with
  | none => s
  | some layout =>
    match vendorNames.find? fun p => startOf layout p.1 with
    | some (_, v) =>
      { s with
        fnKeysVendorLayout := v
        fnKeysModeNum := if v = .NONE then s.fnKeysModeNum else 3
        maps := s.maps.readFnKeyLayout v
        fn := vendorFnKeys s.enabledAsusKBacklight s.fn v }
    | none => { s with fnKeysModeNum := 2 }.ReadFnKeyConfig

/-- The part of `start` that reads the mode and the assignment of the Fn keys. -/
def readFnKeys (fnMode : Option UInt8) (s : Keyboard) : Keyboard :=
  match fnMode with
  | none => { s with fnKeysModeNum := 0 }
  | some fnMode =>
    let s : Keyboard := { s with fnKeysModeNum := fnMode }.ReadFnKeyLayout
    -- Disable sleep in Apple Mode 1 (without fn key).
    let s : Keyboard := { s with fn := if s.fnKeysModeNum < 2 then { s.fn with sleep := 0 } else s.fn }
    s.when (s.fnKeysModeNum < 3) ReadFnKeyConfig

/-! The keyboard backlight of Asus laptops. -/

/-- The level, or -1 when the method does not answer. -/
def readAsusKBlight (reqParm : UInt8) (s : Keyboard) : Keyboard × Int :=
  match w.gkbl reqParm with
  | some kblvl => ({ s with enabledAsusKBacklight := true }, (kblvl &&& 0xFF).toNat)
  | none => ({ s with enabledAsusKBacklight := false }, -1)

def getMaxKBlightLevel : UInt8 :=
  match w.gklm with
  | some kbMlvl => if kbMlvl &&& 0xFF > 254 then 3 else (kbMlvl &&& 0xFF).toUInt8
  | none => 3

def setAsusKBlight (lvl : UInt8) (s : Keyboard) : Keyboard :=
  if w.atkd then
    if w.skbl then s.send (.setAsusKBlight lvl) else { s with enabledAsusKBacklight := false }
  else s

/-- The level to set, from the level read. -/
def nextKBlight (LvlUp has16Levels : Bool) (bMlvl : UInt8) (lvl : Int) : Option UInt8 :=
  let blvl := Int8.ofInt lvl
  let blvl := if blvl.toInt > bMlvl.toNat then Int8.ofInt bMlvl.toNat else blvl
  if blvl.toInt < 0 then none
  else
    let room := if has16Levels then decide (blvl.toInt < 15) else decide (blvl.toInt < bMlvl.toNat)
    let blvl :=
      if room && LvlUp then blvl + 1
      else if decide (blvl.toInt > 0) && !LvlUp then blvl - 1
      else blvl
    some (UInt8.ofInt blvl.toInt)

def processAsusKBacklight (LvlUp : Bool) (s : Keyboard) : Keyboard :=
  let (s, lvl) := s.readAsusKBlight w 0
  match nextKBlight LvlUp s.asusKBHas16LevelSupport (getMaxKBlightLevel w) lvl with
  | some blvl => s |> setAsusKBlight w blvl |> setAsusKBlight w 0xEA
  | none => s

/-- `_kbrdBackLightLvl = readAsusKBlight(0)`. -/
def readBackLightLvl (s : Keyboard) : Keyboard :=
  let (s, lvl) := s.readAsusKBlight w 0
  { s with kbrdBackLightLvl := Int8.ofInt lvl }

/-! What the Fn keys do. -/

/-- How often the brightness key is sent for one step of the Asus panel. -/
def asusLoopCount (levelsTotal bLevel : UInt8) : Nat :=
  if levelsTotal = 0x0B then
    if bLevel = 11 ∨ bLevel = 10 then 3 else if bLevel = 9 ∨ bLevel = 8 then 2 else 1
  else 1

def repeatChord (code : UInt8) : Nat → Keyboard → Keyboard
  | 0, s => s
  | n + 1, s => s |> chord w [code] |> repeatChord code n

/-- The brightness keys: the code to send, 0 when it has been sent already. -/
def brightnessKey (up : Bool) (s : Keyboard) : Keyboard × UInt8 :=
  match w.asusBrightnessLevelsTotal with
  | some levelsTotal =>
    let bLevel : UInt8 := if up then 1 else 0
    let code : UInt8 := if up then 0x4d else 0x4f
    ({ s with useFinerBrightnesCtrl := false }.repeatChord w code (asusLoopCount levelsTotal bLevel), 0)
  | none => (s, if up then 0x10 else 0x20)

/-- The functions that do not depend on the release of the key: the new state and `fnKeyCode`. -/
def fnKeyFunction (keyCode : UInt8) (rateLimit : Bool) (s : Keyboard) : Keyboard × UInt8 :=
  if keyCode = s.fn.brightNessDown || keyCode = s.fn.brightNessUp then
    s.brightnessKey w (keyCode = s.fn.brightNessUp)
  else if keyCode = s.fn.sleep && !rateLimit then (s.send .sleepNow, 0)
  else if keyCode = s.fn.missonCtlFun &&
      (!s.enabledAsusKBacklight || keyCode ≠ s.fn.kbrdBrightnessDown) then
    (s.receiveGesture w .kPS2C_Gesture_MissionControl, 0)
  else if keyCode = s.fn.launchpadFun &&
      (!s.enabledAsusKBacklight || keyCode ≠ s.fn.kbrdBrightnessUp) then
    (s.receiveGesture w .kPS2C_Gesture_Launchpad, 0)
  else if keyCode = s.fn.videoMirror then (s, 0x50)
  else if keyCode = s.fn.dispSleep && !rateLimit then (s, s.fn.dispSleep)
  else if keyCode = s.fn.touchpad then (s.toggleTouchpad, 0)
  else if keyCode = s.fn.volMute then (s, 0x4a)
  else if keyCode = s.fn.volDown then (s, 0x49)
  else if keyCode = s.fn.volUp then (s, 0x4c)
  else if keyCode = s.fn.mediaPlay then (s, 0x42)
  else (s, 0)

/-- What `fnKeyFunction` can do: act at once, or leave a key code for `dispatchFnKey`. -/
inductive FnKeyResult (s : Keyboard) : Keyboard × UInt8 → Prop where
  | brightness (up : Bool) : FnKeyResult s (s.brightnessKey w up)
  | sleep : FnKeyResult s (s.send .sleepNow, 0)
  | missionControl : FnKeyResult s (s.receiveGesture w .kPS2C_Gesture_MissionControl, 0)
  | launchpad : FnKeyResult s (s.receiveGesture w .kPS2C_Gesture_Launchpad, 0)
  | touchpad : FnKeyResult s (s.toggleTouchpad, 0)
  | code (fnKeyCode : UInt8) : FnKeyResult s (s, fnKeyCode)

theorem FnKeyResult.ite {s : Keyboard} {c : Prop} [Decidable c] {a b : Keyboard × UInt8}
    (ha : FnKeyResult w s a) (hb : FnKeyResult w s b) : FnKeyResult w s (if c then a else b) := by
  split
  · exact ha
  · exact hb

theorem fnKeyFunction_result (keyCode : UInt8) (rateLimit : Bool) (s : Keyboard) :
    FnKeyResult w s (s.fnKeyFunction w keyCode rateLimit) := by
  unfold fnKeyFunction
  apply FnKeyResult.ite w (.brightness _)
  apply FnKeyResult.ite w .sleep
  apply FnKeyResult.ite w .missionControl
  apply FnKeyResult.ite w .launchpad
  -- the video mirror and the sleep of the display
  apply FnKeyResult.ite w (.code _)
  apply FnKeyResult.ite w (.code _)
  apply FnKeyResult.ite w .touchpad
  -- the volume and the media keys
  apply FnKeyResult.ite w (.code _)
  apply FnKeyResult.ite w (.code _)
  apply FnKeyResult.ite w (.code _)
  apply FnKeyResult.ite w (.code _)
  exact .code _

/-- The part of `processFnKeys` for a key that goes down. -/
def fnKeyDown (keyCode : UInt8) (rateLimit : Bool) (s : Keyboard) : Keyboard × UInt8 :=
  if keyCode = s.fn.kbrdBrightnessDown && s.enabledAsusKBacklight then
    (s |> processAsusKBacklight w false |> readBackLightLvl w, 0)
  else if keyCode = s.fn.kbrdBrightnessUp && s.enabledAsusKBacklight then
    (s |> processAsusKBacklight w true |> readBackLightLvl w, 0)
  -- Media Previous/Next acts as Media Rewind/Fast on key Hold by not releasing key
  else if keyCode = s.fn.mediaPrev then (s.dispatchKeyboardKeyCode w 0x34 true, 0)
  else if keyCode = s.fn.mediaNext then (s.dispatchKeyboardKeyCode w 0x40 true, 0)
  else s.fnKeyFunction w keyCode rateLimit

/-- The part for a key that goes up. -/
def fnKeyUp (keyCode : UInt8) (s : Keyboard) : Keyboard × UInt8 :=
  if keyCode = s.fn.mediaPrev then (s.dispatchKeyboardKeyCode w 0x34 false, 0)
  else if keyCode = s.fn.mediaNext then (s.dispatchKeyboardKeyCode w 0x40 false, 0)
  else if keyCode ∈ ([0x10, 0x20, 0x49, 0x4c] : List UInt8) then (s, keyCode)
  else (s, 0)

/-- A brightness or volume key, with Shift and Option for the finer increments. -/
def finerKey (finer : Bool) (code : UInt8) (s : Keyboard) : Keyboard :=
  if finer then s.chord w [0x38, s.normalCode s.altkey, code] else s.chord w [code]

/-- The last part of `processFnKeys`: the keys for `fnKeyCode`. -/
def dispatchFnKey (fnKeyCode : UInt8) (s : Keyboard) : Keyboard :=
  if fnKeyCode = 0x10 then s.finerKey w s.useFinerBrightnesCtrl 0x4d
  else if fnKeyCode = 0x20 then s.finerKey w s.useFinerBrightnesCtrl 0x4f
  else if fnKeyCode = 0x4c then s.finerKey w s.useFinerVolumeCtrl 0x48
  else if fnKeyCode = 0x49 then s.finerKey w s.useFinerVolumeCtrl 0x49
  else if fnKeyCode = 0 then s
  else if fnKeyCode = s.fn.dispSleep then
    -- Sleeps the display by sending Control + Shift + Eject keys
    let s := s |> chord w [s.normalCode s.contrlKey, 0x38, 0x70] |> toggleTouchpad
    { s with displaySleep := !s.displaySleep }
  else s.chord w [fnKeyCode]

/-- Whether the last Fn key was handled less than two seconds ago. -/
def rateLimited (s : Keyboard) : Bool :=
  let deltaSecs := w.secs - s.lastEventSecs
  deltaSecs < 2 && w.microsecs + 1000000 * deltaSecs - s.lastEventMicrosecs < 2000000

def processFnKeys (keyCode : UInt8) (keyDown : Bool) (s : Keyboard) : Keyboard :=
  let r := if keyDown then s.fnKeyDown w keyCode (s.rateLimited w) else s.fnKeyUp w keyCode
  { r.1 with lastEventSecs := w.secs, lastEventMicrosecs := w.microsecs }.dispatchFnKey w r.2

/-! Feature keys, on Shift + Caps Lock. -/

/-- The features of the touchpad that a key toggles. -/
def touchpadFeature : UInt8 → Option PS2Notification
  | 0x1e => some .kPS2C_ScrollLock_Auto
  | 0x17 => some .kPS2C_ScrollLock_Inertia
  | 0x2e => some .kPS2C_ScrollLock_Continuous
  | 0x1f => some .kPS2C_EdgeScroll
  | 0x12 => some .kPS2C_Gestures_1FSwipes
  | 0x14 => some .kPS2C_Gestures_DoubleTaps
  | 0x32 => some .kPS2C_Gestures_3FSwipes
  | 0x10 => some .kPS2C_Gestures_Rotate
  | 0x2c => some .kPS2C_Gestures_Zoom
  | 0x01 => some .kPS2C_RestoreTouchpad
  | _ => none

/-- The features of the keyboard driver itself; 0x20 toggles the debug log. -/
def isKeyboardFeature (keyCode : UInt8) : Bool :=
  keyCode ∈ ([0x20, 0x2d, 0x25, 0x21, 0x2f, 0x30] : List UInt8)

/-- The mode after the present one, in which mode 1 has no sleep key. -/
def stepFnKeysMode (s : Keyboard) : Keyboard :=
  let mode :=
    if s.fnKeysModeNum < 3 then s.fnKeysModeNum + 1 else if s.fnKeysModeNum = 3 then 1 else s.fnKeysModeNum
  { s with
    fnKeysModeNum := mode
    fn := if mode < 2 then { s.fn with sleep := 0 } else s.fn }

/-- 'F': the next Fn key mode. -/
def nextFnKeysMode (s : Keyboard) : Keyboard :=
  if s.fnKeysModeNum = 0 then s
  else
    let s := s.stepFnKeysMode
    let s := s.when (s.fnKeysModeNum ≠ 0) ReadFnKeyConfig
    s.when (s.fnKeysModeNum = 3) ReadFnKeyLayout

/-- 'X': the extended functions. -/
def toggleExtendFunctions (goingDown : Bool) (s : Keyboard) : Keyboard :=
  let s := { s with hasExtendFunctions := if goingDown then !s.hasExtendFunctions else s.hasExtendFunctions }
  s.when s.hasExtendFunctions ReadExtendedFunctionsConfig

def keyboardFeature (keyCode : UInt8) (goingDown : Bool) (s : Keyboard) : Keyboard :=
  if keyCode = 0x2d then s.toggleExtendFunctions goingDown
  else if !goingDown then s
  else if keyCode = 0x25 then { s with macintoshMode := !s.macintoshMode }
  else if keyCode = 0x21 then s.nextFnKeysMode
  else if keyCode = 0x2f then { s with useFinerVolumeCtrl := !s.useFinerVolumeCtrl }
  else if keyCode = 0x30 then { s with useFinerBrightnesCtrl := !s.useFinerBrightnesCtrl }
  else s

def ToggleTouchpadFeatures (keyCode : UInt8) (goingDown : Bool) (s : Keyboard) : Keyboard :=
  let s := s.keyboardFeature keyCode goingDown
  match touchpadFeature keyCode with
  | some n => s |> when goingDown (notify n) |> setAlphaLockFeedback goingDown
  | none => s.when (isKeyboardFeature keyCode) (setAlphaLockFeedback goingDown)

end ApplePS2.Keyboard
