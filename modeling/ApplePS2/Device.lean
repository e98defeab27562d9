/- Constants and data types shared by the controller and the two device drivers
   (`ApplePS2Device.h`), under the source's names. Bytes on the ports are
   `UInt8`. The command list of a request is a list no longer than the source's
   array; `commandsCount` says how many of its entries are to be executed and,
   after processing, how far the processing got. -/
namespace ApplePS2

/-! Data port (0x60) commands. -/

def kDP_SetKeyboardLEDs : UInt8 := 0xED
def kDP_Enable : UInt8 := 0xF4
def kDP_SetDefaultsAndDisable : UInt8 := 0xF5
def kDP_Reset : UInt8 := 0xFF

/-! Command port (0x64) commands. -/

def kCP_GetCommandByte : UInt8 := 0x20
def kCP_SetCommandByte : UInt8 := 0x60
def kCP_WriteMouseOutputBuffer : UInt8 := 0xD3
def kCP_TransmitToMouse : UInt8 := 0xD4

/-- Routing prefix of the first multiplexed AUX port; the other three follow it. -/
def kRP_RoutingPrefixAuxPort : UInt8 := 0x90

/-! Bits of the controller's command byte. -/

def kCB_EnableKeyboardIRQ : UInt8 := 0x01
def kCB_EnableMouseIRQ : UInt8 := 0x02
def kCB_DisableKeyboardClock : UInt8 := 0x10
def kCB_DisableMouseClock : UInt8 := 0x20
def kCB_TranslateMode : UInt8 := 0x40

/-! Status codes and prefixes received from the devices. -/

def kSC_Extend : UInt8 := 0xE0
def kSC_Pause : UInt8 := 0xE1
def kSC_UpBit : UInt8 := 0x80
def kSC_Resend : UInt8 := 0xFE
def kSC_Acknowledge : UInt8 := 0xFA

/-- The two input streams of the controller (`PS2DeviceType`). -/
inductive PS2DeviceType where
  | kDT_Keyboard
  | kDT_Mouse
  deriving DecidableEq, Repr

/-- The other stream: `(deviceType==kDT_Keyboard)?kDT_Mouse:kDT_Keyboard`. -/
def PS2DeviceType.other : PS2DeviceType → PS2DeviceType
  | .kDT_Keyboard => .kDT_Mouse
  | .kDT_Mouse => .kDT_Keyboard

theorem PS2DeviceType.eq_other_of_ne {s d : PS2DeviceType} (h : s ≠ d) : s = d.other := by
  cases s <;> cases d <;> simp_all [PS2DeviceType.other]

/-- The six command primitives a request is made of. -/
inductive PS2CommandEnum where
  | kPS2C_ReadDataPort
  | kPS2C_ReadMouseDataPort
  | kPS2C_ReadDataPortAndCompare
  | kPS2C_WriteDataPort
  | kPS2C_WriteCommandPort
  | kPS2C_SendMouseCommandAndCompareAck
  deriving DecidableEq, Repr

structure PS2Command where
  command : PS2CommandEnum
  inOrOut : UInt8
  deriving DecidableEq, Repr

def kMaxCommands : Nat := 20

/-- A request. The completion target and action are pointers of the client;
only whether each of them is set matters to the controller. -/
structure PS2Request where
  commands : List PS2Command
  commandsCount : Nat
  completionTarget : Bool
  completionAction : Bool
  fits : commands.length ≤ kMaxCommands
  counted : commandsCount ≤ commands.length
  deriving DecidableEq, Repr

/-- What the drivers' power control actions are told. -/
inductive PowerControl where
  | kPS2C_DisableDevice
  | kPS2C_EnableDevice
  deriving DecidableEq, Repr

end ApplePS2
