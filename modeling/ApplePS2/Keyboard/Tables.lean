import Mathlib.Logic.Function.Basic

/- The scan code tables (`ApplePS2ToADBMap.h`) and the changes the driver makes to
   them: the ISO exchange of `deviceType` and the vendor entries of
   `ReadFnKeyLayout`. A table is a function of the key code; its 0x80 entries are
   those below, and what lies behind them in memory is a parameter. -/
namespace ApplePS2

def DEADKEY : UInt8 := 0xa2

/-- Normal PS2 scan codes to ADB mapping, one row for each sixteen key codes. -/
def normalEntries : List UInt8 :=
  [ DEADKEY, 0x35, 0x12, 0x13, 0x14, 0x15, 0x17, 0x16, 0x1a, 0x1c, 0x19, 0x1d, 0x1b, 0x18, 0x33, 0x30,
    0x0c, 0x0d, 0x0e, 0x0f, 0x11, 0x10, 0x20, 0x22, 0x1f, 0x23, 0x21, 0x1e, 0x24, 0x3b, 0x00, 0x01,
    0x02, 0x03, 0x05, 0x04, 0x26, 0x28, 0x25, 0x29, 0x27, 0x32, 0x38, 0x2a, 0x06, 0x07, 0x08, 0x09,
    0x0b, 0x2d, 0x2e, 0x2b, 0x2f, 0x2c, 0x3c, 0x43, 0x3a, 0x31, 0x39, 0x7a, 0x78, 0x63, 0x76, 0x60,
    0x61, 0x62, 0x64, 0x65, 0x6d, 0x47, DEADKEY, 0x59, 0x5b, 0x5c, 0x4e, 0x56, 0x57, 0x58, 0x45, 0x53,
    0x54, 0x55, 0x52, 0x41, 0x3f, DEADKEY, 0x0a, 0x67, 0x6f, 0x51, DEADKEY, 0x37, 0x5f, DEADKEY, DEADKEY,
      DEADKEY,
    DEADKEY, DEADKEY, DEADKEY, DEADKEY, 0x69, 0x6b, 0x71, 0x6a, 0x6c, 0x6e, 0x66, 0x68, DEADKEY, DEADKEY,
      DEADKEY, DEADKEY,
    DEADKEY, DEADKEY, DEADKEY, 0x5e, DEADKEY, DEADKEY, DEADKEY, 0x5a, 0x5a, 0x5a, DEADKEY, 0x5f, DEADKEY,
      0x5d, 0x5f, DEADKEY ]

/-- Extended PS2 scan codes to ADB mapping. -/
def extendedEntries : List UInt8 :=
  [ DEADKEY, 0x35, 0x50, DEADKEY, DEADKEY, 0x4f, 0x4d, DEADKEY, 0x4d, 0x4f, DEADKEY, DEADKEY, DEADKEY,
      DEADKEY, DEADKEY, DEADKEY,
    0x46, DEADKEY, 0x4f, DEADKEY, DEADKEY, DEADKEY, DEADKEY, 0x4d, DEADKEY, 0x44, DEADKEY, DEADKEY, 0x4c,
      0x3e, DEADKEY, DEADKEY,
    0x4a, DEADKEY, 0x42, DEADKEY, DEADKEY, 0x72, DEADKEY, DEADKEY, DEADKEY, 0x50, DEADKEY, DEADKEY,
      DEADKEY, DEADKEY, 0x49, DEADKEY,
    0x48, 0x72, DEADKEY, DEADKEY, DEADKEY, 0x4b, DEADKEY, DEADKEY, 0x3d, DEADKEY, DEADKEY, 0x50, DEADKEY,
      DEADKEY, DEADKEY, 0x3f,
    DEADKEY, DEADKEY, 0x70, DEADKEY, DEADKEY, 0xa1, 0x70, 0x73, 0x7e, 0x74, DEADKEY, 0x7b, DEADKEY, 0x7c,
      0x72, 0x77,
    0x7d, 0x79, 0x72, 0x75, 0x3f, DEADKEY, DEADKEY, DEADKEY, DEADKEY, 0x4d, DEADKEY, 0x37, 0x36, 0x3f,
      0x7f, DEADKEY,
    DEADKEY, DEADKEY, DEADKEY, DEADKEY, DEADKEY, DEADKEY, DEADKEY, DEADKEY, DEADKEY, DEADKEY, DEADKEY,
      DEADKEY, DEADKEY, DEADKEY, 0x4d, 0x4f,
    DEADKEY, DEADKEY, DEADKEY, DEADKEY, DEADKEY, DEADKEY, DEADKEY, 0x4f, 0x4d, DEADKEY, DEADKEY, DEADKEY,
      DEADKEY, DEADKEY, DEADKEY, DEADKEY ]

/-- `ASUS` to `LG`, and the layout `NONE` (0). -/
inductive Vendor where
  | NONE | ASUS | DELL | ACER | SAMSUNG | MSI | GIGABYTE | LENOVO | HP | LG
  deriving DecidableEq, Repr

structure ADBMaps where
  ps2ToADBMap : UInt8 → UInt8
  extendedPS2ToADBMap : UInt8 → UInt8

namespace ADBMaps

/-- The tables as they are compiled; `beyond` is what an index of 0x80 or more reads. -/
def initial (beyond : UInt8 → UInt8) : ADBMaps :=
  { ps2ToADBMap := fun k => normalEntries.getD k.toNat (beyond k)
    extendedPS2ToADBMap := fun k => extendedEntries.getD k.toNat (beyond k) }

/-- The two keys that `deviceType` exchanges on ISO keyboards before Sierra. -/
def deviceType (littleTwo less : UInt8) (m : ADBMaps) : ADBMaps :=
  { m with ps2ToADBMap := Function.update (Function.update m.ps2ToADBMap 0x29 littleTwo) 0x56 less }

/-- The extended keys that a vendor's layout turns off. -/
def vendorDeadKeys : Vendor → List UInt8
  | .DELL => [0x08, 0x59]  -- WiFi key, Touchpad key
  | .ACER => [0x78]  -- Fn key release
  | .SAMSUNG => [0x77, 0x29]  -- Touchpad key, Fn toggle off
  | .MSI => [0x6e, 0x6f, 0x4e]  -- Webcam key, P1 key, Battery key
  | _ => []

def readFnKeyLayout (v : Vendor) (m : ADBMaps) : ADBMaps :=
  { m with
    extendedPS2ToADBMap := fun k =>
      if k ∈ vendorDeadKeys v then DEADKEY else m.extendedPS2ToADBMap k }

/-- The tables the driver can have: the compiled ones, after any of its changes. -/
inductive OfDriver : ADBMaps → Prop where
  | initial (beyond : UInt8 → UInt8) : OfDriver (initial beyond)
  | deviceType {m : ADBMaps} (h : OfDriver m) (iso : Bool) :
      OfDriver (m.deviceType (if iso then 0x0a else 0x32) (if iso then 0x32 else 0x0a))
  | readFnKeyLayout {m : ADBMaps} (h : OfDriver m) (v : Vendor) : OfDriver (m.readFnKeyLayout v)

end ADBMaps

end ApplePS2
