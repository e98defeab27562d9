import ApplePS2.Device
import ApplePS2.Keyboard.Tables
import Mathlib.Data.List.Basic

/- The state of the keyboard driver (`ApplePS2Keyboard.h`), what it reads from
   outside and what it sends. Every procedure of the driver is a function from
   state to state; the events it dispatches, the notifications and the requests
   it sends are appended to `log`. -/
namespace ApplePS2

/-- The notifications between the two drivers, in the order of the source's enumeration. -/
inductive PS2Notification where
  | kPS2C_ShiftKey
  | kPS2C_Gesture_AppSwitch | kPS2C_Gesture_AppClose | kPS2C_Gesture_Launchpad
  | kPS2C_Gesture_MissionControl | kPS2C_Gesture_Dashboard | kPS2C_Gesture_DesktopSwitchLeft
  | kPS2C_Gesture_DesktopSwitchRight | kPS2C_Gesture_AppWindows | kPS2C_Gesture_Minimize
  | kPS2C_Gesture_FullScreen | kPS2C_Gesture_Backward | kPS2C_Gesture_Forward
  | kPS2C_Gesture_Desktop | kPS2C_Gesture_NC_Shortcut | kPS2C_Gesture_GetInfo
  | kPS2C_Gesture_ToggleDock | kPS2C_Gesture_NC_Workaround | kPS2C_Gesture_ZoomReset
  | kPS2C_Gesture_Finder | kPS2C_Gesture_ForceQuit
  | kPS2C_ExtFunF13 | kPS2C_ExtFunF14 | kPS2C_ExtFunF15 | kPS2C_ExtFunF16 | kPS2C_ExtFunF17
  | kPS2C_ExtFunF18 | kPS2C_ExtFunF19 | kPS2C_ExtFunF20 | kPS2C_ExtFunF21 | kPS2C_ExtFunF22
  | kPS2C_ExtFunF23 | kPS2C_ExtFunF24
  | kPS2C_Gesture_ContextMenu | kPS2C_Gesture_MiddleClick | kPS2C_Gesture_LeftClick
  | kPS2C_EnableTouchpad | kPS2C_DisableTouchpad | kPS2C_AccidentalInput | kPS2C_DoContextMenu
  | kPS2C_ZoomPlus | kPS2C_ZoomMinus | kPS2C_ZoomReset | kPS2C_RotateLeft | kPS2C_RotateRight
  | kPS2C_ReleaseCmdKey | kPS2C_ScrollLock_Auto | kPS2C_ScrollLock_Inertia
  | kPS2C_ScrollLock_Continuous | kPS2C_EdgeScroll | kPS2C_Gestures_1FSwipes
  | kPS2C_Gestures_3FSwipes | kPS2C_Gestures_4FSwipes | kPS2C_Gestures_Rotate
  | kPS2C_Gestures_Zoom | kPS2C_Gestures_DoubleTaps | kPS2C_FnKey_Modes | kPS2C_ESC
  | kPS2C_ALT_Funtion_on | kPS2C_ALT_Funtion_off | kPS2C_CNTRL_Feature_on
  | kPS2C_CNTRL_Feature_off | kPS2C_CNTRLKeyDown | kPS2C_CNTRLKeyUp | kPS2C_CMDKeyDown
  | kPS2C_CMDKeyUp | kPS2C_InitKeyboard | kPS2C_EnableAsusKBacklight
  | kPS2C_EnableAsusKBacklight16Levels | kPS2C_RestoreTouchpad | kPS2C_KeybrdBackLightOff
  | kPS2C_KeybrdBackLightOn | kPS2C_KeybrdBackLightToggleOn | kPS2C_KeybrdBackLightToggleOff
  | kPS2C_ShowTouchPressureWidth | kPS2C_BrightnessDown | kPS2C_BrightnessUp
  | kPS2C_OSXVersionNotify
  deriving DecidableEq, Repr

/-- The notification a number stands for. -/
def PS2Notification.ofData (data : UInt32) : Option PS2Notification :=
  if data.toNat < 78 then some (PS2Notification.ofNat data.toNat) else none

/-- `NX_MODIFIERKEY_*`, as far as the driver tells them apart. -/
inductive NXModifierKey where
  | ALPHALOCK | SHIFT | CONTROL | ALTERNATE | COMMAND | other
  deriving DecidableEq, Repr

/-- One dictionary of the modifier mapping. -/
structure ModifierPair where
  src : NXModifierKey
  dst : NXModifierKey
  deriving DecidableEq, Repr

/-- What the driver reads from outside while it handles one byte or notification. -/
structure World where
  /-- `clock_get_uptime` at the dispatch of the event at this place of the log. -/
  uptime : Nat → UInt64
  /-- `clock_get_system_microtime`. -/
  secs : UInt32
  microsecs : UInt32
  /-- The property `kIOHIDKeyboardModifierMappingPairsKey`. -/
  modifierMapping : Option (List ModifierPair)
  /-- `AsusBrightnessLevelsTotal`, when the panel and both of its levels are there. -/
  asusBrightnessLevelsTotal : Option UInt8
  /-- The method `GKBL` of the device ATKD, when it is there and evaluates. -/
  gkbl : UInt8 → Option UInt32
  /-- The method `GKLM`. -/
  gklm : Option UInt32
  /-- Whether ATKD is there, and has the method `SKBL`. -/
  atkd : Bool
  skbl : Bool
  /-- What the local `goingDown` holds before it is assigned. -/
  goingDown : Bool

/-- Nothing is there to be read. -/
def quietWorld : World :=
  { uptime := fun _ => 0, secs := 0, microsecs := 0, modifierMapping := none
    asusBrightnessLevelsTotal := none, gkbl := fun _ => none, gklm := none, atkd := false, skbl := false
    goingDown := false }

/-- What the driver sends. -/
inductive Sent where
  | dispatchKeyboardEvent (code : UInt8) (goingDown : Bool)
  | dispatchPS2Notification (n : PS2Notification)
  | setLEDs (ledState : UInt8)
  | setAlphaLock (locked : Bool)
  | sleepNow
  | setAsusKBlight (lvl : UInt8)
  | setCommandByte (setBits clearBits : UInt8)
  | setKeyboardEnable (enable : Bool)
  deriving DecidableEq, Repr

/-- The codes the functions of the Fn keys are assigned to. -/
structure FnKeys where
  sleep : UInt8
  missonCtlFun : UInt8
  launchpadFun : UInt8
  dispSleep : UInt8
  videoMirror : UInt8
  touchpad : UInt8
  brightNessDown : UInt8
  brightNessUp : UInt8
  volMute : UInt8
  volDown : UInt8
  volUp : UInt8
  mediaPrev : UInt8
  mediaPlay : UInt8
  mediaNext : UInt8
  kbrdBrightnessDown : UInt8
  kbrdBrightnessUp : UInt8
  deriving DecidableEq, Repr, Inhabited

/-- The strings of one of the dictionaries "Fn Keys Mode 1" and "Fn Keys Mode 2". -/
structure FnKeysMode where
  systemSleep : Option String
  brightnessDown : Option String
  brightnessUp : Option String
  missonControl : Option String
  launchpad : Option String
  sleepDisplay : Option String
  videoMirror : Option String
  touchpad : Option String
  volumeMute : Option String
  volumeDown : Option String
  volumeUp : Option String
  mediaPrevious : Option String
  mediaPlayPause : Option String
  mediaNext : Option String
  kbBacklightDown : Option String
  kbBacklightUp : Option String

/-- What is read at the start and does not change, and the property lists read again later. -/
structure Preferences where
  keyboardTypeID : UInt32
  ISOLSquareBracket : UInt8
  ISORSquareBracket : UInt8
  letterM : UInt8
  letterQ : UInt8
  rightCtxtMKey : UInt8
  rightCntrlKey : UInt8
  rightALTKey : UInt8
  capsKey : UInt8
  makeShiftCapsAsFn : Bool
  makeDelIntoCmdBspace : Bool
  makeNumLockAsClear : Bool
  makeKeyDotAsComma : Bool
  noNumLockLED : Bool
  fixSierraCapsLockBug : Bool
  asusFnKeyWorkAsFunction : Bool
  fnKeysMode1 : Option FnKeysMode
  fnKeysMode2 : Option FnKeysMode
  fnKeysLayout : Option String
  /-- The dictionary "Extended Functions", in the order of its iterator. -/
  extendedFunctions : Option (List (String × String))

structure Keyboard where
  prefs : Preferences
  maps : ADBMaps
  fn : FnKeys
  fnKeysModeNum : UInt8
  fnKeysVendorLayout : Vendor
  /-- The key combinations of F13 to F24. -/
  fx : Fin 12 → Option String
  keyBitVector : UInt8 → Bool
  osxVersion : UInt8
  ledState : UInt8
  modifierKeystate : UInt8
  commandKey : UInt8
  contrlKey : UInt8
  altkey : UInt8
  generatedCode : UInt8
  tempCode1 : UInt8
  tempCode2 : UInt8
  now : UInt64
  lastModifiersReadTime : UInt64
  lastEventSecs : UInt32
  lastEventMicrosecs : UInt32
  kbrdBackLightLvl : Int8
  asusKBHas16LevelSupport : Bool
  enabledAsusKBacklight : Bool
  isTPadEnabled : Bool
  featureToggleMode : Bool
  isNumPadKey : Bool
  isAccInputExceptionKey : Bool
  isNumPadLocked : Bool
  isCapsLocked : Bool
  isFnKeyPressed : Bool
  hasExtendFunctions : Bool
  useFinerBrightnesCtrl : Bool
  useFinerVolumeCtrl : Bool
  macintoshMode : Bool
  displaySleep : Bool
  extendedCode : Bool
  releaseGestureKey : Bool
  log : List Sent

/-- The settings before the property lists are read. What `init` does not set is zero. -/
def Preferences.init : Preferences :=
  { keyboardTypeID := 0, ISOLSquareBracket := 0, ISORSquareBracket := 0, letterM := 0x2e, letterQ := 0x0c
    rightCtxtMKey := 0x5d, rightCntrlKey := 0x1d, rightALTKey := 0, capsKey := 0
    makeShiftCapsAsFn := false, makeDelIntoCmdBspace := false, makeNumLockAsClear := false
    makeKeyDotAsComma := false, noNumLockLED := false, fixSierraCapsLockBug := true
    asusFnKeyWorkAsFunction := false, fnKeysMode1 := none, fnKeysMode2 := none, fnKeysLayout := none
    extendedFunctions := none }

/-- `init`, with the settings and tables read. -/
def Keyboard.init (prefs : Preferences) (maps : ADBMaps) : Keyboard :=
  { prefs := prefs, maps := maps, fn := default, fnKeysModeNum := 0, fnKeysVendorLayout := .NONE
    fx := fun _ => none, keyBitVector := fun _ => false, osxVersion := 12, ledState := 0, modifierKeystate := 0
    commandKey := 0x5B, contrlKey := 0x1d, altkey := 0x38, generatedCode := 0, tempCode1 := 0, tempCode2 := 0
    now := 0, lastModifiersReadTime := 0, lastEventSecs := 0, lastEventMicrosecs := 0, kbrdBackLightLvl := 0
    asusKBHas16LevelSupport := false, enabledAsusKBacklight := false, isTPadEnabled := true
    featureToggleMode := false, isNumPadKey := false, isAccInputExceptionKey := false, isNumPadLocked := false
    isCapsLocked := false, isFnKeyPressed := false, hasExtendFunctions := false, useFinerBrightnesCtrl := false
    useFinerVolumeCtrl := false, macintoshMode := false, displaySleep := false, extendedCode := false
    releaseGestureKey := false, log := [] }

namespace Keyboard

variable (w : World)

/-- A part of a procedure that is done on a condition. -/
def when (c : Bool) (f : Keyboard → Keyboard) (s : Keyboard) : Keyboard := if c then f s else s

/-- `KBV_IS_KEYDOWN`. -/
abbrev isKeyDown (s : Keyboard) (n : UInt8) : Bool := s.keyBitVector n

/-- `KBV_KEYDOWN` and `KBV_KEYUP`. -/
def setKey (n : UInt8) (down : Bool) (s : Keyboard) : Keyboard :=
  { s with keyBitVector := Function.update s.keyBitVector n down }

def dispatchKeyboardKeyCode (keyCode : UInt8) (goingDown : Bool) (s : Keyboard) : Keyboard :=
  { s with
    now := w.uptime s.log.length
    log := s.log ++ [.dispatchKeyboardEvent keyCode goingDown] }

/-- Some keys down, one after the other, and up again in the opposite order. -/
def chord : List UInt8 → Keyboard → Keyboard
  | [], s => s
  | k :: ks, s =>
    s |> dispatchKeyboardKeyCode w k true |> chord ks |> dispatchKeyboardKeyCode w k false

def send (m : Sent) (s : Keyboard) : Keyboard := { s with log := s.log ++ [m] }

def notify (n : PS2Notification) (s : Keyboard) : Keyboard := s.send (.dispatchPS2Notification n)

/-- `PS2ToADBMap[k]`. -/
abbrev normalCode (s : Keyboard) (k : UInt8) : UInt8 := s.maps.ps2ToADBMap k

/-- `ExtendedPS2ToADBMap[k]`. -/
abbrev extCode (s : Keyboard) (k : UInt8) : UInt8 := s.maps.extendedPS2ToADBMap k

/-- `extendedCode ? ExtendedPS2ToADBMap[k] : PS2ToADBMap[k]`. -/
def adbCode (s : Keyboard) (k : UInt8) : UInt8 := if s.extendedCode then s.extCode k else s.normalCode k

def releaseKey (keyCode : UInt8) (s : Keyboard) : Keyboard := s.chord w [keyCode]

def kLED_NumLock : UInt8 := 0x02
def kLED_CapsLock : UInt8 := 0x04

def setLEDs (ledState : UInt8) (s : Keyboard) : Keyboard := s.send (.setLEDs ledState)

def setAlphaLockFeedback (locked : Bool) (s : Keyboard) : Keyboard :=
  let ledState := if locked then s.ledState ||| kLED_CapsLock else s.ledState &&& ~~~kLED_CapsLock
  { s with ledState := ledState }.setLEDs ledState

def setNumLockFeedback (locked : Bool) (s : Keyboard) : Keyboard :=
  if s.prefs.noNumLockLED then s
  else
    let ledState := if locked then s.ledState ||| kLED_NumLock else s.ledState &&& ~~~kLED_NumLock
    { s with ledState := ledState }.setLEDs ledState

/-- `isTPadEnabled` inverted, and the touchpad told. -/
def toggleTouchpad (s : Keyboard) : Keyboard :=
  if s.isTPadEnabled then
    { s with isTPadEnabled := false }.notify .kPS2C_DisableTouchpad
  else
    { s with isTPadEnabled := true }.notify .kPS2C_EnableTouchpad

def dispatchKeyboardBacklightNotification (keyState : Bool) (s : Keyboard) : Keyboard :=
  if s.enabledAsusKBacklight then
    if keyState then s.notify .kPS2C_KeybrdBackLightOn else s.notify .kPS2C_KeybrdBackLightOff
  else s

/-! Modifier positions. -/

def MODIFIERS_STATUS_CHK_INTERVAL : UInt64 := 4000000000

def getModifiersPosition : NXModifierKey → UInt8
  | .ALPHALOCK => 0x3A
  | .SHIFT => 0x2A
  | .CONTROL => 0x1D
  | .ALTERNATE => 0x38
  | .COMMAND => 0x5B
  | .other => 0x0

/-- One turn of the loop over the mapping. -/
def mapModifier (s : Keyboard) (p : ModifierPair) : Keyboard :=
  match p.dst with
  | .COMMAND => { s with commandKey := getModifiersPosition p.src }
  | .CONTROL => { s with contrlKey := getModifiersPosition p.src }
  | .ALTERNATE => { s with altkey := getModifiersPosition p.src }
  | _ => s

/-- The positions that a mapping, when there is one, gives the modifiers. -/
def mapModifiers (modifierMapping : Option (List ModifierPair)) (s : Keyboard) : Keyboard :=
  match modifierMapping with
  | none => s
  | some [] => { s with commandKey := 0x5b, contrlKey := 0x1d, altkey := 0x38 }
  | some modifiers => modifiers.foldl mapModifier s

def readKeyboardModifiers (s : Keyboard) : Keyboard :=
  let timeFromLastMRead := s.now - s.lastModifiersReadTime
  if timeFromLastMRead > MODIFIERS_STATUS_CHK_INTERVAL || s.lastModifiersReadTime == 0 then
    { s.mapModifiers w.modifierMapping with lastModifiersReadTime := s.now }
  else s

end Keyboard

end ApplePS2
