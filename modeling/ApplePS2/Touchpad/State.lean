import ApplePS2.Keyboard.State

/- The state of the touchpad driver (`ApplePS2SmartTouchPad.h` and
   `SmartTouchpadFeatures.h`), what it reads from outside and what it sends. As with
   the keyboard driver every procedure is a function from state to state, and what it
   sends is appended to `log`. -/
namespace ApplePS2

inductive TouchpadVendor where
  | STD_MOUSE | STD_ELAN_TECH | STD_FOCAL_TECH | STD_SYNAPTICS
  deriving DecidableEq, Repr

def STD_MOUSE_HW : UInt8 := 0x00
def STD_ELAN_HW_V1 : UInt8 := 0x01
def STD_ELAN_HW_V2 : UInt8 := 0x02
def STD_ELAN_HW_V3 : UInt8 := 0x03
def STD_ELAN_HW_V4 : UInt8 := 0x04
def STD_FOCAL_TECH_HW : UInt8 := 0x05
def STD_SYNAPTICS_HW : UInt8 := 0x06

/-- `5 + 1` -/
def STD_MAX_FINGERS : Nat := 6

/-- The bytes of a packet, by their place. -/
abbrev Packet := Nat → UInt8

inductive TouchPadModes where
  | MODE_IDLE | MODE_MOVE
  | MODE_VSCROLL | MODE_HSCROLL | MODE_CSCROLL | MODE_EDGE_VSCROLL | MODE_EDGE_HSCROLL
  | MODE_CIR_HSCROLL | MODE_CIR_VSCROLL | MODE_CONT_SCROLL
  | MODE_5_FING_PINCH | MODE_5_FING_TAP | MODE_4_FING_TAP | MODE_3_FING_TAP | MODE_2_FING_TAP
  | MODE_1_FING_TAP | MODE_CORNER_TAP
  | MODE_BUTTONS
  | MODE_FIVE_FING_PRESS | MODE_FOUR_FING_PRESS | MODE_THREE_FING_PRESS | MODE_TWO_FING_PRESS
  | MODE_ROTATE | MODE_ZOOM
  | MODE_MUL_TOUCH_3 | MODE_MUL_TOUCH_4
  | MODE_TOP_EDGE_SWIPE | MODE_BOTTOM_EDGE_SWIPE | MODE_LEFT_EDGE_SWIPE | MODE_RIGHT_EDGE_SWIPE
  | MODE_FEATURE_TOGGLE | MODE_4_FING_PINCH | MODE_PALM
  deriving DecidableEq

/-- A request after `submitRequestAndBlock`: how many commands were done, and what
the commands hold. -/
structure Answer where
  commandsCount : Nat
  inOrOut : Nat → UInt8

/-- Whether the device has acknowledged a reset. -/
def Answer.resets (a : Answer) (commands : List PS2Command) : Bool :=
  ⟨.kPS2C_SendMouseCommandAndCompareAck, kDP_Reset⟩ ∈ commands.take a.commandsCount

/-- What the driver reads from outside while it handles one byte, notification or power event. -/
structure TouchpadWorld where
  /-- The answer to the request at this place of the log. -/
  answer : Nat → Answer
  /-- The successive readings of the clock. -/
  uptime : Nat → UInt64
  /-- How many mice `IOHIDSystem` lists. -/
  mouseCount : Nat
  /-- The entry of the Asus Fn keys: none, or whether it says that the touchpad is disabled. -/
  fnKeysEntry : Option (Option Bool)
  /-- The LID device: none, or what its `_LID` evaluates to. -/
  lid : Option (Option UInt32)

/-- No device answers. -/
def TouchpadWorld.silent : TouchpadWorld :=
  { answer := fun _ => ⟨0, fun _ => 0⟩, uptime := fun _ => 0, mouseCount := 0, fnKeysEntry := none, lid := none }

/-- What the driver sends. The data of a notification is its number, or a version. -/
inductive TouchpadSent where
  | submitRequestAndBlock (commands : List PS2Command)
  | setCommandByte (setBits clearBits : UInt8)
  | dispatchRelativePointerPosition (dx dy : Int) (buttonState : UInt8)
  /-- The place is left out. -/
  | dispatchAbsolutePointerEvent (buttonState : UInt8)
  | dispatchPS2Notification (data : UInt32)
  /-- `cancelTimeout`, or `setTimeoutMS`. -/
  | kBackLightTimer (ms : Option UInt32)
  deriving DecidableEq, Repr

/-! The properties of the features. -/

structure Ps2Mouse where
  mSampleRate : UInt8
  mResolution : UInt8
  mScaling : UInt8
  isCtrlScrollSwipe : Bool

structure ElanTPad where
  v3ElanLegacyMode : Bool
  crcEnabled : Bool
  sanityCheck : Bool
  supportsTrackPoint : Bool
  paritycheck : Bool
  parityBit : UInt8 → UInt8
  jumpyCursor : Bool
  singleFingerReports : UInt32
  fw_version : UInt32
  reg_07 : UInt8
  reg_10 : UInt8
  reg_11 : UInt8
  reg_21 : UInt8
  deriving Inhabited

structure SynTPad where
  model_id : UInt64
  capabilities : UInt64
  ext_cap_0c : UInt64
  ext_cap_10 : UInt64
  mode : UInt8
  absolute_mode : Bool
  disable_gesture : Bool
  pkt_type : UInt8
  w : UInt8
  m_scroll : UInt32
  secondary_x : UInt32
  secondary_y : UInt32
  secondary_pressure : UInt8
  secondary_wait : Bool
  touch_ended : Bool
  deriving Inhabited

/-- `FingerDataStruct`. The differences are signed. -/
structure Finger where
  x : UInt16
  y : UInt16
  last_x : UInt16
  last_y : UInt16
  start_x : UInt16
  start_y : UInt16
  tdx : Int
  tdy : Int
  sdx : Int
  sdy : Int
  pressure : UInt8
  width : UInt8
  deriving DecidableEq, Inhabited

/-- `PalmStruct`. -/
structure Palm where
  minPressure : UInt8
  minWidth : UInt8
  detectionEnabled : Bool
  detected : Bool

structure Drag where
  isDragging : Bool
  isHoldDrag : Bool
  isTapDrag : Bool
  is3FDrag : Bool
  deriving Inhabited

structure Scroll where
  hasEdgeScroll : Bool
  hasEdgeInertia : Bool
  hasEdgeCont : Bool
  hasEdgeAuto : Bool
  has2FInertia : Bool
  has2FCont : Bool
  has2FAuto : Bool
  doAuto : Bool
  doCont : Bool
  inertiaDeltaX : Int16
  inertiaDeltaY : Int16
  deriving Inhabited

structure Swipe where
  has3FSwipes : Bool
  has4FSwipes : Bool
  hasEdgeSwipes : Bool
  isAppSwitchDone : Bool
  isInFullScreen : Bool
  isEdgeGesture : Bool
  direction : UInt8
  deriving Inhabited

structure Rotate where
  isRotateGesture : Bool
  isRotateMode : Bool
  maxCFDelta : UInt16
  minCFingIdleTime : UInt64
  deriving Inhabited

structure FingPress where
  fings2Click : UInt8
  holdTime : UInt64
  deriving Inhabited

structure Tap where
  hasMulFDoubleTaps : Bool
  count : Int8
  clickTimeout : UInt64
  deriving Inhabited

structure Button where
  isFingOnBtnArea : Bool
  clickPad2FMove : Bool
  rightClick : Bool
  triggered : Bool
  is2FClick : Bool
  isClickPad : Bool
  enableMiddle : Bool
  clickPadHasVButtons : Bool
  disableClicks : Bool
  disbleTrackPoint : Bool
  clickPadVBtnArea : UInt16
  state : UInt8
  data : UInt8
  deriving Inhabited

/-- `KeyboardEventStruct`. -/
structure KbEvent where
  isToggleKeyOnHold : Bool
  accidentalInput : Bool
  tapEnableTPad : Bool
  disableTouchpad : Bool
  altFunction : Bool
  showPressWidth : Bool
  accInputKeysCount : UInt8
  kbKeysCount : UInt8
  lastKeyPressTime : UInt64
  accInputTimeOut : UInt64
  deriving Inhabited

/-- The keyboard backlight. -/
structure KBLight where
  hasAsusKBackLight : Bool
  hasKBLightAutoOff : Bool
  isKBLightOff : Bool
  autoOffTimeout : UInt32
  lastTriggerTime : UInt64

/-- External mice, the Fn keys' driver and the lid. -/
structure Polling where
  usbMouseDisablesTrackpad : Bool
  externalMouseFound : Bool
  lastExtMouseStatusCheckTime : UInt64
  extMouseCheckPollRate : UInt64
  isAsusNotebook : Bool
  isFnKeyDisabledTouchpad : Bool
  enableLidPolling : Bool
  lidClosed : Bool
  acpiPollRate : UInt64
  lastFnKeyStateChkTime : UInt64

structure Touchpad where
  touchpadVendor : TouchpadVendor
  hwVersion : UInt8
  pktsize : UInt8
  /-- The mode that the device has been put into: a reset makes a mouse of it, the end of a reconnection what the vendor has. -/
  mode : TouchpadVendor
  packetBuffer : Packet
  packetByteCount : UInt8
  packetsCount : UInt8
  endPacketsCount : UInt8
  modeSetTries : UInt8
  polling : Polling
  touchmode : TouchPadModes
  gestureTime : UInt64
  lastDataTime : UInt64
  doTimerJob : Bool
  pContinuousMove : Bool
  xmax : UInt16
  xmin : UInt16
  ymax : UInt16
  ymin : UInt16
  xcenter : UInt16
  palm : Palm
  /-- The two slots of multi touch, `SInt8` in the source; -1 is none. -/
  pid : Int
  sid : Int
  cFingers : UInt8
  lastFingers : UInt8
  /-- `_fing`, at every index that can be computed. -/
  fing : Int → Finger
  /-- The indices at which `_fing` and the arrays of differences have been used. -/
  used : List Int
  /-- The packets that `Process_trackpoint_events_ELAN` has been given. -/
  trackpoints : List (List UInt8)
  osxVersion : UInt8
  isTypeModeEnabled : Bool
  /-- An exact number, where the source has a `float`. -/
  scrollFactor : Rat
  ps2Mouse : Ps2Mouse
  elanTPad : ElanTPad
  synTPad : SynTPad
  drag : Drag
  scroll : Scroll
  swipe : Swipe
  rotate : Rotate
  fingPress : FingPress
  tap : Tap
  rotateEnabled : Bool
  zoomEnabled : Bool
  button : Button
  kbEvent : KbEvent
  kbLight : KBLight
  log : List TouchpadSent

namespace Touchpad

/-- `init`. What it does not set is zero. -/
def init : Touchpad :=
  { touchpadVendor := .STD_MOUSE, hwVersion := 0, pktsize := 0, mode := .STD_MOUSE
    packetBuffer := fun _ => 0, packetByteCount := 0, packetsCount := 0, endPacketsCount := 0, modeSetTries := 3
    polling :=
      { usbMouseDisablesTrackpad := false, externalMouseFound := false, lastExtMouseStatusCheckTime := 0
        extMouseCheckPollRate := 1500, isAsusNotebook := false, isFnKeyDisabledTouchpad := false
        enableLidPolling := true, lidClosed := false, acpiPollRate := 1500000000, lastFnKeyStateChkTime := 0 }
    touchmode := .MODE_IDLE, gestureTime := 0, lastDataTime := 0, doTimerJob := false, pContinuousMove := false
    xmax := 0, xmin := 0, ymax := 0, ymin := 0, xcenter := 0
    palm := { minPressure := 255, minWidth := 15, detectionEnabled := false, detected := false }
    pid := -1, sid := -1, cFingers := 0, lastFingers := 0, fing := fun _ => default, used := [], trackpoints := []
    osxVersion := 0, isTypeModeEnabled := false, scrollFactor := 0
    ps2Mouse := { mSampleRate := 80, mResolution := 3, mScaling := 0xE6, isCtrlScrollSwipe := false }
    elanTPad := default, synTPad := default, drag := default, scroll := default, swipe := default
    rotate := default, fingPress := default, tap := default
    rotateEnabled := false, zoomEnabled := false, button := default, kbEvent := default
    kbLight := { hasAsusKBackLight := false, hasKBLightAutoOff := false, isKBLightOff := false
                 autoOffTimeout := 10000, lastTriggerTime := 0 }
    log := [] }

variable (w : TouchpadWorld)

/-- A part of a procedure that is done on a condition. -/
def when (c : Bool) (f : Touchpad → Touchpad) (s : Touchpad) : Touchpad := if c then f s else s

def send (m : TouchpadSent) (s : Touchpad) : Touchpad := { s with log := s.log ++ [m] }

/-- A notification to the keyboard. -/
def notifyKeyboard (n : PS2Notification) (s : Touchpad) : Touchpad :=
  s.send (.dispatchPS2Notification (UInt32.ofNat n.ctorIdx))

def dispatchRelativePointerPosition (dx dy : Int) (buttonState : UInt8) (s : Touchpad) : Touchpad :=
  s.send (.dispatchRelativePointerPosition dx dy buttonState)

/-- The timer itself is left out. -/
def StopPointerEnhanceTimer (s : Touchpad) : Touchpad := { s with pContinuousMove := false }

/-- A device that acknowledges a reset is in the mode of a mouse again. -/
def submitRequestAndBlock (commands : List PS2Command) (s : Touchpad) : Answer × Touchpad :=
  let a := w.answer s.log.length
  (a, { s with mode := if a.resets commands then .STD_MOUSE else s.mode }.send (.submitRequestAndBlock commands))

end Touchpad

end ApplePS2
