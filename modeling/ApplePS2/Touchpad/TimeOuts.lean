import ApplePS2.Touchpad.Divisors
import ApplePS2.Touchpad.Notifications

/- The delays and time-outs of the property list, which are configured in milliseconds and
   compared with times in nanoseconds (`ReadSTDPlistConfig`).

   1. `product32_iff`, `product16_iff`, `product8_iff`: the numbers whose product fits, in
      each of the widths in which the driver multiplies.
   2. `nanoseconds_iff`: for every property list and every number configured in it, the
      conversion is exact if and only if the number fits its place. -/
namespace ApplePS2

/-- `readPlistKey` of a 16-bit value. -/
def readPlistKey16 (dict : Dictionary) (key : String) : UInt16 :=
  match dict key with
  | some (.number value) => value.toUInt16
  | _ => 0

/-- `readPlistKey` of a 32-bit value. -/
def readPlistKey32 (dict : Dictionary) (key : String) : UInt32 :=
  match dict key with
  | some (.number value) => value.toUInt32
  | _ => 0

theorem readPlistKey32_number {dict : Dictionary} {key : String} {ms : UInt32} (h : dict key = some (.number ms.toUInt64)) :
    readPlistKey32 dict key = ms := by
  rw [readPlistKey32, h]
  exact UInt32.toUInt32_toUInt64 ms

theorem readPlistKey16_number {dict : Dictionary} {key : String} {ms : UInt32} (h : dict key = some (.number ms.toUInt64)) :
    readPlistKey16 dict key = ms.toUInt16 := by
  rw [readPlistKey16, h]
  exact UInt32.toUInt16_toUInt64 ms

/-! The conversions. -/

/-- `plistTimeout * 1000000`: the product of two 32-bit numbers, widened only when it is stored. -/
def product32 (ms : UInt32) : UInt64 := (ms * 1000000).toUInt64

/-- `cfTime * 1000000`: the 16-bit number is promoted to `int`, which wraps, and the product is
    sign-extended. -/
def product16 (ms : UInt16) : UInt64 := (ms.toUInt32.toInt32 * 1000000).toInt64.toUInt64

/-- `(uint64_t)_pAccelCustom * 1000000ULL`. -/
def product8 (ms : UInt8) : UInt64 := ms.toUInt64 * 1000000

theorem product32_toNat (ms : UInt32) : (product32 ms).toNat = ms.toNat * 1000000 % 4294967296 := by
  calc (product32 ms).toNat = (ms * 1000000).toNat := UInt32.toNat_toUInt64 _
    _ = ms.toNat * 1000000 % 4294967296 := UInt32.toNat_mul ms _

theorem signExtended_toNat (n : UInt32) : n.toInt32.toInt64.toUInt64.toNat =
    n.toNat + if 2147483648 ≤ n.toNat then 18446744069414584320 else 0 := by
  have hn := n.toNat_lt
  calc n.toInt32.toInt64.toUInt64.toNat = (n.toBitVec.signExtend 64).toNat := rfl
    _ = n.toNat % 2 ^ 64 + if n.toBitVec.msb then 2 ^ 64 - 2 ^ 32 else 0 := by
        rw [BitVec.toNat_signExtend, BitVec.toNat_setWidth, UInt32.toNat_toBitVec]
    _ = n.toNat + if 2147483648 ≤ n.toNat then 18446744069414584320 else 0 := by
        rw [Nat.mod_eq_of_lt (by omega), BitVec.msb_eq_decide, UInt32.toNat_toBitVec]
        simp only [decide_eq_true_eq, Nat.reduceSub, Nat.reducePow]

theorem product16_toNat (ms : UInt16) : (product16 ms).toNat = ms.toNat * 1000000 % 4294967296 +
    if 2147483648 ≤ ms.toNat * 1000000 % 4294967296 then 18446744069414584320 else 0 := by
  have hproduct : (ms.toUInt32 * 1000000).toNat = ms.toNat * 1000000 % 4294967296 := UInt32.toNat_mul _ _
  rw [← hproduct]
  exact signExtended_toNat (ms.toUInt32 * 1000000)

theorem product8_toNat (ms : UInt8) : (product8 ms).toNat = ms.toNat * 1000000 := by
  have hms := ms.toNat_lt
  calc (product8 ms).toNat = ms.toNat * 1000000 % 2 ^ 64 := UInt64.toNat_mul _ _
    _ = ms.toNat * 1000000 := Nat.mod_eq_of_lt (by omega)

theorem product32_iff (ms : UInt32) : (product32 ms).toNat = ms.toNat * 1000000 ↔ ms.toNat ≤ 4294 := by
  rw [product32_toNat]
  omega

/-- A number that does not fit its sixteen bits is cut already where it is read. -/
theorem product16_iff (ms : UInt32) : (product16 ms.toUInt16).toNat = ms.toNat * 1000000 ↔ ms.toNat ≤ 2147 := by
  have hms := ms.toNat_lt
  have hread : ms.toUInt16.toNat = ms.toNat % 65536 := UInt32.toNat_toUInt16 ms
  have hsmall : ms.toNat ≤ 2147 → ms.toNat % 65536 * 1000000 % 4294967296 = ms.toNat * 1000000 := by
    intro h
    rw [Nat.mod_eq_of_lt (by omega), Nat.mod_eq_of_lt (by omega)]
  rw [product16_toNat, hread]
  generalize ms.toNat % 65536 * 1000000 % 4294967296 = product at hsmall ⊢
  split
  -- a negative product is extended beyond every number of nanoseconds
  · omega
  · omega

theorem product8_iff (ms : UInt32) : (product8 ms.toUInt8).toNat = ms.toNat * 1000000 ↔ ms.toNat ≤ 255 := by
  have hread : ms.toUInt8.toNat = ms.toNat % 256 := UInt32.toNat_toUInt8 ms
  rw [product8_toNat, hread]
  omega

/-! `ReadSTDPlistConfig`. -/

/-- What the driver keeps of the configured delays and time-outs. -/
structure TimeOuts where
  /-- `_scroll.idleFingDetectTimeout` -/
  idleFingDetectTimeout : UInt64
  slingStartTimeout : UInt64
  /-- `_fingPress.timeout` -/
  fingPressTimeout : UInt64
  mulFingsTimeout : UInt64
  clickTimeout : UInt64
  /-- `_tap.timeout` -/
  tapTimeout : UInt64
  fPressDragStartTimeOut : UInt64
  minCFingIdleTime : UInt64
  acpiPollRate : UInt64
  accInputTimeOut : UInt64
  /-- In milliseconds. -/
  kBLightAutoOffTimeout : UInt32
  /-- In milliseconds. -/
  pAccelCustom : UInt8

/-- After `init`. -/
def TimeOuts.default : TimeOuts :=
  { idleFingDetectTimeout := 0, slingStartTimeout := 0, fingPressTimeout := 0, mulFingsTimeout := 0, clickTimeout := 0
    tapTimeout := 0, fPressDragStartTimeOut := 0, minCFingIdleTime := 0, acpiPollRate := 1500000000, accInputTimeOut := 0
    kBLightAutoOffTimeout := 10000, pAccelCustom := 0 }

/-- The dictionaries of the property list that hold them, if it has them. -/
structure TimePreferences where
  /-- `PointerCustomAcceleration` of `PointerPreferencesKey` -/
  customAcceleration : Option Dictionary
  scroll : Option Dictionary
  fingerPress : Option Dictionary
  tap : Option Dictionary
  drag : Option Dictionary
  other : Option Dictionary
  keyboard : Option Dictionary

namespace TimeOuts

variable (dict : Dictionary) (t : TimeOuts)

/-- The hardware's name in the custom acceleration. -/
def accelerationKey (hwVersion : UInt8) : Option String :=
  if hwVersion = 2 then some "ELANv2"
  else if hwVersion = 3 then some "ELANv3"
  else if hwVersion = 4 then some "ELANv4"
  else if hwVersion = 5 then some "FocalTech"
  else if hwVersion = 6 then some "Synaptics"
  else none

def customAcceleration (hwVersion : UInt8) (dict : Dictionary) (t : TimeOuts) : TimeOuts :=
  match accelerationKey hwVersion with
  | none => { t with pAccelCustom := 16 }
  | some key =>
    match dict key with
    -- `unsigned32BitValue`, stored in eight bits
    | some (.number value) => { t with pAccelCustom := value.toUInt32.toUInt8 }
    | _ => t

def scroll : TimeOuts :=
  { t with
    idleFingDetectTimeout := product32 (readPlistKey32 dict "ScrollMaxIdleDetectTimeout")
    slingStartTimeout := product32 (readPlistKey32 dict "SlingScrollStartTimeOut") }

def fingerPress : TimeOuts := { t with fingPressTimeout := product32 (readPlistKey32 dict "FingersPressTimeOut") }

def tap : TimeOuts :=
  { t with
    mulFingsTimeout := product32 (readPlistKey32 dict "MulFingTapTimeOut")
    clickTimeout := product32 (readPlistKey32 dict "1FClickTimeOut")
    tapTimeout := product32 (readPlistKey32 dict "12TapTimeOut") }

def drag : TimeOuts :=
  { t with fPressDragStartTimeOut := product32 (readPlistKey32 dict "FingerPressDragStartTimeOut") }

/-- The rate as it is first stored. -/
def pollRate : UInt64 :=
  match dict "TPadStatusCheckPollRate" with
  | some (.number value) => product32 value.toUInt32
  | _ => t.acpiPollRate

/-- "500 ms, dont let this below 0.5 sec" -/
def raised (rate : UInt64) : UInt64 := if rate < 500000000 then 500000000 else rate

def other : TimeOuts :=
  { t with
    minCFingIdleTime := product16 (readPlistKey16 dict "RotationMinCFingIdleTime")
    acpiPollRate :=
      match dict "TPadStatusCheckPollRate" with
      | some (.number _) => raised (t.pollRate dict)
      | _ => t.acpiPollRate }

def keyboard : TimeOuts :=
  { t with
    kBLightAutoOffTimeout := readPlistKey32 dict "AsusKBacklightAutoOffTimeOut"
    accInputTimeOut := product32 (readPlistKey32 dict "TimeOutEnablesTPadAfterAccInput") }

/-- What a dictionary sets, if the list has it. -/
def reads (dict : Option Dictionary) (sets : Dictionary → TimeOuts → TimeOuts) (t : TimeOuts) : TimeOuts :=
  match dict with
  | none => t
  | some dict => sets dict t

def ReadSTDPlistConfig (hwVersion : UInt8) (list : TimePreferences) (t : TimeOuts) : TimeOuts :=
  t |> reads list.customAcceleration (customAcceleration hwVersion)
    |> reads list.scroll scroll
    |> reads list.fingerPress fingerPress
    |> reads list.tap tap
    |> reads list.drag drag
    |> reads list.other other
    |> reads list.keyboard keyboard

theorem reads_customAcceleration (hwVersion : UInt8) (dict : Option Dictionary) (t : TimeOuts) :
    reads dict (customAcceleration hwVersion) t = { t with
      pAccelCustom := dict.elim t.pAccelCustom fun dict => (customAcceleration hwVersion dict t).pAccelCustom } := by
  cases dict with
  | none => rfl
  | some dict =>
    show customAcceleration hwVersion dict t = { t with pAccelCustom := (customAcceleration hwVersion dict t).pAccelCustom }
    unfold customAcceleration
    split
    · rfl
    · split
      · rfl
      · rfl

theorem reads_scroll (dict : Option Dictionary) (t : TimeOuts) :
    reads dict scroll t = { t with
      idleFingDetectTimeout :=
        dict.elim t.idleFingDetectTimeout fun dict => product32 (readPlistKey32 dict "ScrollMaxIdleDetectTimeout")
      slingStartTimeout := dict.elim t.slingStartTimeout fun dict => product32 (readPlistKey32 dict "SlingScrollStartTimeOut") } := by
  cases dict with
  | none => rfl
  | some dict => rfl

theorem reads_fingerPress (dict : Option Dictionary) (t : TimeOuts) :
    reads dict fingerPress t = { t with
      fingPressTimeout := dict.elim t.fingPressTimeout fun dict => product32 (readPlistKey32 dict "FingersPressTimeOut") } := by
  cases dict with
  | none => rfl
  | some dict => rfl

theorem reads_tap (dict : Option Dictionary) (t : TimeOuts) :
    reads dict tap t = { t with
      mulFingsTimeout := dict.elim t.mulFingsTimeout fun dict => product32 (readPlistKey32 dict "MulFingTapTimeOut")
      clickTimeout := dict.elim t.clickTimeout fun dict => product32 (readPlistKey32 dict "1FClickTimeOut")
      tapTimeout := dict.elim t.tapTimeout fun dict => product32 (readPlistKey32 dict "12TapTimeOut") } := by
  cases dict with
  | none => rfl
  | some dict => rfl

theorem reads_drag (dict : Option Dictionary) (t : TimeOuts) :
    reads dict drag t = { t with
      fPressDragStartTimeOut :=
        dict.elim t.fPressDragStartTimeOut fun dict => product32 (readPlistKey32 dict "FingerPressDragStartTimeOut") } := by
  cases dict with
  | none => rfl
  | some dict => rfl

theorem reads_other (dict : Option Dictionary) (t : TimeOuts) :
    reads dict other t = { t with
      minCFingIdleTime := dict.elim t.minCFingIdleTime fun dict => product16 (readPlistKey16 dict "RotationMinCFingIdleTime")
      acpiPollRate := dict.elim t.acpiPollRate fun dict => (t.other dict).acpiPollRate } := by
  cases dict with
  | none => rfl
  | some dict => rfl

theorem reads_keyboard (dict : Option Dictionary) (t : TimeOuts) :
    reads dict keyboard t = { t with
      kBLightAutoOffTimeout :=
        dict.elim t.kBLightAutoOffTimeout fun dict => readPlistKey32 dict "AsusKBacklightAutoOffTimeOut"
      accInputTimeOut :=
        dict.elim t.accInputTimeOut fun dict => product32 (readPlistKey32 dict "TimeOutEnablesTPadAfterAccInput") } := by
  cases dict with
  | none => rfl
  | some dict => rfl

/-- What the list leaves in every field: a dictionary that is missing sets nothing. -/
theorem ReadSTDPlistConfig_eq (hwVersion : UInt8) (list : TimePreferences) (t : TimeOuts) :
    ReadSTDPlistConfig hwVersion list t =
      { idleFingDetectTimeout :=
          list.scroll.elim t.idleFingDetectTimeout fun dict => product32 (readPlistKey32 dict "ScrollMaxIdleDetectTimeout")
        slingStartTimeout :=
          list.scroll.elim t.slingStartTimeout fun dict => product32 (readPlistKey32 dict "SlingScrollStartTimeOut")
        fingPressTimeout :=
          list.fingerPress.elim t.fingPressTimeout fun dict => product32 (readPlistKey32 dict "FingersPressTimeOut")
        mulFingsTimeout := list.tap.elim t.mulFingsTimeout fun dict => product32 (readPlistKey32 dict "MulFingTapTimeOut")
        clickTimeout := list.tap.elim t.clickTimeout fun dict => product32 (readPlistKey32 dict "1FClickTimeOut")
        tapTimeout := list.tap.elim t.tapTimeout fun dict => product32 (readPlistKey32 dict "12TapTimeOut")
        fPressDragStartTimeOut :=
          list.drag.elim t.fPressDragStartTimeOut fun dict => product32 (readPlistKey32 dict "FingerPressDragStartTimeOut")
        minCFingIdleTime :=
          list.other.elim t.minCFingIdleTime fun dict => product16 (readPlistKey16 dict "RotationMinCFingIdleTime")
        acpiPollRate := list.other.elim t.acpiPollRate fun dict => (t.other dict).acpiPollRate
        accInputTimeOut :=
          list.keyboard.elim t.accInputTimeOut fun dict => product32 (readPlistKey32 dict "TimeOutEnablesTPadAfterAccInput")
        kBLightAutoOffTimeout :=
          list.keyboard.elim t.kBLightAutoOffTimeout fun dict => readPlistKey32 dict "AsusKBacklightAutoOffTimeOut"
        pAccelCustom :=
          list.customAcceleration.elim t.pAccelCustom fun dict => (customAcceleration hwVersion dict t).pAccelCustom } := by
  unfold ReadSTDPlistConfig
  rw [reads_customAcceleration, reads_scroll, reads_fingerPress, reads_tap, reads_drag, reads_other, reads_keyboard]
  rfl

end TimeOuts

/-! The places, by the keys of their numbers. -/

inductive TimeOut where
  | ScrollMaxIdleDetectTimeout
  | SlingScrollStartTimeOut
  | FingersPressTimeOut
  | MulFingTapTimeOut
  | Click1FTimeOut
  | Tap12FTimeout
  | FingerPressDragStartTimeOut
  | RotationMinCFingTime
  | TPadStatusCheckPollRate
  | TimeOutEnablesTPadAfterAccInput
  | AsusKBacklightAutoOffTimeOut
  | PointerCustomAcceleration

namespace TimeOut

variable (hwVersion : UInt8) (list : TimePreferences) (t : TimeOuts)

/-- What the property list has for the place. -/
def configured : TimeOut → Option PlistObject
  | .ScrollMaxIdleDetectTimeout => list.scroll.bind fun dict => dict "ScrollMaxIdleDetectTimeout"
  | .SlingScrollStartTimeOut => list.scroll.bind fun dict => dict "SlingScrollStartTimeOut"
  | .FingersPressTimeOut => list.fingerPress.bind fun dict => dict "FingersPressTimeOut"
  | .MulFingTapTimeOut => list.tap.bind fun dict => dict "MulFingTapTimeOut"
  | .Click1FTimeOut => list.tap.bind fun dict => dict "1FClickTimeOut"
  | .Tap12FTimeout => list.tap.bind fun dict => dict "12TapTimeOut"
  | .FingerPressDragStartTimeOut => list.drag.bind fun dict => dict "FingerPressDragStartTimeOut"
  | .RotationMinCFingTime => list.other.bind fun dict => dict "RotationMinCFingIdleTime"
  | .TPadStatusCheckPollRate => list.other.bind fun dict => dict "TPadStatusCheckPollRate"
  | .TimeOutEnablesTPadAfterAccInput => list.keyboard.bind fun dict => dict "TimeOutEnablesTPadAfterAccInput"
  | .AsusKBacklightAutoOffTimeOut => list.keyboard.bind fun dict => dict "AsusKBacklightAutoOffTimeOut"
  | .PointerCustomAcceleration => list.customAcceleration.bind fun dict => (TimeOuts.accelerationKey hwVersion).bind dict

/-- The nanoseconds that the driver stores, or compares elapsed time with, once it has read
    the list. -/
def nanoseconds : TimeOut → UInt64
  | .ScrollMaxIdleDetectTimeout => (TimeOuts.ReadSTDPlistConfig hwVersion list t).idleFingDetectTimeout
  | .SlingScrollStartTimeOut => (TimeOuts.ReadSTDPlistConfig hwVersion list t).slingStartTimeout
  | .FingersPressTimeOut => (TimeOuts.ReadSTDPlistConfig hwVersion list t).fingPressTimeout
  | .MulFingTapTimeOut => (TimeOuts.ReadSTDPlistConfig hwVersion list t).mulFingsTimeout
  | .Click1FTimeOut => (TimeOuts.ReadSTDPlistConfig hwVersion list t).clickTimeout
  | .Tap12FTimeout => (TimeOuts.ReadSTDPlistConfig hwVersion list t).tapTimeout
  | .FingerPressDragStartTimeOut => (TimeOuts.ReadSTDPlistConfig hwVersion list t).fPressDragStartTimeOut
  | .RotationMinCFingTime => (TimeOuts.ReadSTDPlistConfig hwVersion list t).minCFingIdleTime
  -- what the conversion stores; it may be raised after it
  | .TPadStatusCheckPollRate => (list.other.map t.pollRate).getD t.acpiPollRate
  | .TimeOutEnablesTPadAfterAccInput => (TimeOuts.ReadSTDPlistConfig hwVersion list t).accInputTimeOut
  -- `receiveKeyboardNotifications`
  | .AsusKBacklightAutoOffTimeOut => product32 (TimeOuts.ReadSTDPlistConfig hwVersion list t).kBLightAutoOffTimeout
  -- `EnhancePointerAcceleration`
  | .PointerCustomAcceleration => product8 (TimeOuts.ReadSTDPlistConfig hwVersion list t).pAccelCustom

/-- The product of the number fits the width in which it is formed. -/
def Fits (ms : UInt32) : TimeOut → Prop
  | .RotationMinCFingTime => ms.toNat ≤ 2147
  | .PointerCustomAcceleration => ms.toNat ≤ 255
  | _ => ms.toNat ≤ 4294

variable {hwVersion : UInt8} {list : TimePreferences} {t : TimeOuts} {ms : UInt32}

/-- A setting that is read in 32 bits and multiplied in them. -/
theorem product32_configured_iff {dict : Option Dictionary} {key : String} {before : UInt64}
    (h : (dict.bind fun dict => dict key) = some (.number ms.toUInt64)) :
    (dict.elim before fun dict => product32 (readPlistKey32 dict key)).toNat = ms.toNat * 1000000 ↔ ms.toNat ≤ 4294 := by
  obtain ⟨dict, rfl, hnumber⟩ := Option.bind_eq_some_iff.1 h
  show (product32 (readPlistKey32 dict key)).toNat = _ ↔ _
  rw [readPlistKey32_number hnumber]
  exact product32_iff ms

theorem product16_configured_iff {dict : Option Dictionary} {key : String} {before : UInt64}
    (h : (dict.bind fun dict => dict key) = some (.number ms.toUInt64)) :
    (dict.elim before fun dict => product16 (readPlistKey16 dict key)).toNat = ms.toNat * 1000000 ↔ ms.toNat ≤ 2147 := by
  obtain ⟨dict, rfl, hnumber⟩ := Option.bind_eq_some_iff.1 h
  show (product16 (readPlistKey16 dict key)).toNat = _ ↔ _
  rw [readPlistKey16_number hnumber]
  exact product16_iff ms

theorem backLight_configured_iff {dict : Option Dictionary} {key : String} {before : UInt32}
    (h : (dict.bind fun dict => dict key) = some (.number ms.toUInt64)) :
    (product32 (dict.elim before fun dict => readPlistKey32 dict key)).toNat = ms.toNat * 1000000 ↔ ms.toNat ≤ 4294 := by
  obtain ⟨dict, rfl, hnumber⟩ := Option.bind_eq_some_iff.1 h
  show (product32 (readPlistKey32 dict key)).toNat = _ ↔ _
  rw [readPlistKey32_number hnumber]
  exact product32_iff ms

theorem pollRate_number {dict : Dictionary} (h : dict "TPadStatusCheckPollRate" = some (.number ms.toUInt64)) :
    t.pollRate dict = product32 ms := by
  rw [TimeOuts.pollRate, h]
  exact congrArg product32 (UInt32.toUInt32_toUInt64 ms)

theorem pollRate_configured_iff {dict : Option Dictionary}
    (h : (dict.bind fun dict => dict "TPadStatusCheckPollRate") = some (.number ms.toUInt64)) :
    ((dict.map t.pollRate).getD t.acpiPollRate).toNat = ms.toNat * 1000000 ↔ ms.toNat ≤ 4294 := by
  obtain ⟨dict, rfl, hnumber⟩ := Option.bind_eq_some_iff.1 h
  show (t.pollRate dict).toNat = _ ↔ _
  rw [pollRate_number hnumber]
  exact product32_iff ms

/-- The acceleration is cut to eight bits where it is read, and multiplied in 64. -/
theorem product8_configured_iff {dict : Option Dictionary} {before : UInt8}
    (h : (dict.bind fun dict => (TimeOuts.accelerationKey hwVersion).bind dict) = some (.number ms.toUInt64)) :
    (product8 (dict.elim before fun dict => (TimeOuts.customAcceleration hwVersion dict t).pAccelCustom)).toNat =
      ms.toNat * 1000000 ↔ ms.toNat ≤ 255 := by
  obtain ⟨dict, rfl, hdict⟩ := Option.bind_eq_some_iff.1 h
  obtain ⟨key, hkey, hnumber⟩ := Option.bind_eq_some_iff.1 hdict
  have hread : (TimeOuts.customAcceleration hwVersion dict t).pAccelCustom = ms.toUInt8 := by
    simp only [TimeOuts.customAcceleration, hkey, hnumber, UInt32.toUInt32_toUInt64]
  show (product8 (TimeOuts.customAcceleration hwVersion dict t).pAccelCustom).toNat = _ ↔ _
  rw [hread]
  exact product8_iff ms

/-- Whatever else the list holds, a configured number is converted exactly as long as its
    product fits. -/
theorem nanoseconds_iff (place : TimeOut) (h : place.configured hwVersion list = some (.number ms.toUInt64)) :
    (place.nanoseconds hwVersion list t).toNat = ms.toNat * 1000000 ↔ place.Fits ms := by
  cases place with
  | ScrollMaxIdleDetectTimeout =>
    rw [nanoseconds, TimeOuts.ReadSTDPlistConfig_eq]
    exact product32_configured_iff h
  | SlingScrollStartTimeOut =>
    rw [nanoseconds, TimeOuts.ReadSTDPlistConfig_eq]
    exact product32_configured_iff h
  | FingersPressTimeOut =>
    rw [nanoseconds, TimeOuts.ReadSTDPlistConfig_eq]
    exact product32_configured_iff h
  | MulFingTapTimeOut =>
    rw [nanoseconds, TimeOuts.ReadSTDPlistConfig_eq]
    exact product32_configured_iff h
  | Click1FTimeOut =>
    rw [nanoseconds, TimeOuts.ReadSTDPlistConfig_eq]
    exact product32_configured_iff h
  | Tap12FTimeout =>
    rw [nanoseconds, TimeOuts.ReadSTDPlistConfig_eq]
    exact product32_configured_iff h
  | FingerPressDragStartTimeOut =>
    rw [nanoseconds, TimeOuts.ReadSTDPlistConfig_eq]
    exact product32_configured_iff h
  | RotationMinCFingTime =>
    rw [nanoseconds, TimeOuts.ReadSTDPlistConfig_eq]
    exact product16_configured_iff h
  | TPadStatusCheckPollRate => exact pollRate_configured_iff h
  | TimeOutEnablesTPadAfterAccInput =>
    rw [nanoseconds, TimeOuts.ReadSTDPlistConfig_eq]
    exact product32_configured_iff h
  | AsusKBacklightAutoOffTimeOut =>
    rw [nanoseconds, TimeOuts.ReadSTDPlistConfig_eq]
    exact backLight_configured_iff h
  | PointerCustomAcceleration =>
    rw [nanoseconds, TimeOuts.ReadSTDPlistConfig_eq]
    exact product8_configured_iff h

/-- A list with a single time-out, for a click. -/
def clickAfter (ms : UInt32) : TimePreferences :=
  { customAcceleration := none, scroll := none, fingerPress := none, drag := none, other := none, keyboard := none
    tap := some fun key => if key = "1FClickTimeOut" then some (.number ms.toUInt64) else none }

theorem nanoseconds_iff_of_default : Click1FTimeOut.configured 4 (clickAfter 140) = some (.number (140 : UInt32).toUInt64) ∧
    (Click1FTimeOut.nanoseconds 4 (clickAfter 140) .default).toNat = 140000000 := by
  have hconfigured : Click1FTimeOut.configured 4 (clickAfter 140) = some (.number (140 : UInt32).toUInt64) := rfl
  exact ⟨hconfigured, (nanoseconds_iff Click1FTimeOut hconfigured).2 (show (140 : UInt32).toNat ≤ 4294 by decide)⟩

/-- 4295 milliseconds become less than 33 microseconds. -/
theorem clickTimeout_wraps : Click1FTimeOut.configured 4 (clickAfter 4295) = some (.number (4295 : UInt32).toUInt64) ∧
    (Click1FTimeOut.nanoseconds 4 (clickAfter 4295) .default).toNat = 32704 ∧ (4295 : UInt32).toNat * 1000000 ≠ 32704 :=
  ⟨rfl, rfl, by decide⟩

/-- The poll rate that is kept is the converted one, but never below half a second. -/
theorem acpiPollRate_configured (h : TimeOut.TPadStatusCheckPollRate.configured hwVersion list = some (.number ms.toUInt64))
    (hfits : TimeOut.TPadStatusCheckPollRate.Fits ms) :
    (TimeOuts.ReadSTDPlistConfig hwVersion list t).acpiPollRate.toNat = max 500000000 (ms.toNat * 1000000) := by
  obtain ⟨dict, hdict, hnumber⟩ := Option.bind_eq_some_iff.1 h
  have hrate : (product32 ms).toNat = ms.toNat * 1000000 := (product32_iff ms).2 hfits
  have hkept : (t.other dict).acpiPollRate = TimeOuts.raised (product32 ms) := by
    simp only [TimeOuts.other, hnumber, pollRate_number hnumber]
  rw [TimeOuts.ReadSTDPlistConfig_eq, hdict]
  show (t.other dict).acpiPollRate.toNat = _
  rw [hkept, ← hrate, TimeOuts.raised]
  split
  · next hlow => exact (max_eq_left (Nat.le_of_lt (UInt64.lt_iff_toNat_lt.1 hlow))).symm
  · next hhigh => exact (max_eq_right (UInt64.le_iff_toNat_le.1 (UInt64.not_lt.1 hhigh))).symm

end TimeOut

/-- While it shines, the backlight is left alone for exactly the configured time. -/
theorem Touchpad.backLightOn_waits {s : Touchpad} {now : UInt64} (hon : s.kbLight.isKBLightOff = false)
    (hfits : s.kbLight.autoOffTimeout.toNat ≤ 4294)
    (hsoon : (now - s.kbLight.lastTriggerTime).toNat ≤ s.kbLight.autoOffTimeout.toNat * 1000000) :
    s.backLightOn now = s := by
  have htimeout : (product32 s.kbLight.autoOffTimeout).toNat = s.kbLight.autoOffTimeout.toNat * 1000000 :=
    (product32_iff _).2 hfits
  have hearly : ¬ now - s.kbLight.lastTriggerTime > product32 s.kbLight.autoOffTimeout := by
    rw [gt_iff_lt, UInt64.lt_iff_toNat_lt, htimeout]
    exact Nat.not_lt.2 hsoon
  apply if_neg
  show ¬ (s.kbLight.isKBLightOff || decide (now - s.kbLight.lastTriggerTime > product32 s.kbLight.autoOffTimeout)) = true
  rw [hon, decide_eq_false hearly]
  exact Bool.false_ne_true

end ApplePS2
