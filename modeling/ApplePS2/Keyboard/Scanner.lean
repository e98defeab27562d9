import ApplePS2.Device

/- The scan code bytes: the filter of `interruptOccurred` and the first part of
   `dispatchKeyboardEventWithScancode`, which puts the bytes of a sequence together
   into one event. `_extendCount` and `isKeyboardEnabled` are used here only. -/
namespace ApplePS2

/-- A decoded sequence: whether it has a prefix, the 7-bit code, the direction. -/
structure ScanEvent where
  extended : Bool
  keyCode : UInt8
  goingDown : Bool
  deriving DecidableEq, Repr

structure Scanner where
  isKeyboardEnabled : Bool
  extendCount : UInt8
  deriving DecidableEq, Repr

namespace Scanner

/-- `dispatchKeyboardEventWithScancode` up to the switch over the key codes. -/
def dispatchKeyboardEventWithScancode (scanCode : UInt8) (s : Scanner) : Scanner × Option ScanEvent :=
  if scanCode = kSC_Extend then ({ s with extendCount := 1 }, none)
  else if scanCode = kSC_Pause then ({ s with extendCount := 2 }, none)
  else
    let keyCode := scanCode &&& ~~~kSC_UpBit
    let goingDown : Bool := scanCode &&& kSC_UpBit = 0
    if s.extendCount = 0 then (s, some ⟨false, keyCode, goingDown⟩)
    else if s.extendCount - 1 = 0 then
      ({ s with extendCount := s.extendCount - 1 }, some ⟨true, keyCode, goingDown⟩)
    else ({ s with extendCount := s.extendCount - 1 }, none)

def interruptOccurred (scanCode : UInt8) (s : Scanner) : Scanner × Option ScanEvent :=
  if s.isKeyboardEnabled = false then (s, none)
  else if scanCode = kSC_Acknowledge then (s, none)
  else if scanCode = kSC_Resend then (s, none)
  else s.dispatchKeyboardEventWithScancode scanCode

/-- Some bytes, one after the other: the events they are decoded as. -/
def feed : List UInt8 → Scanner → Scanner × List ScanEvent
  | [], s => (s, [])
  | b :: bs, s =>
    let (s₁, e) := s.interruptOccurred b
    let (s₂, es) := feed bs s₁
    (s₂, e.toList ++ es)

end Scanner

end ApplePS2
