import ApplePS2.Keyboard.Event
import ApplePS2.Keyboard.KeyLog

/- Sleep and wake of the keyboard driver (`setDevicePowerState`): is everything that
   was held forgotten, and is what was reported down reported up?

   1. `sleepWake_eq`: what the two handlers make of a state.
   2. `reaction_extendedCode`: what a state lets the driver send does not depend on
      the extended flag of the last key.
   3. `wake_forgets`: two drivers react alike after they have woken when what the wake
      handler leaves is the same in both, and a code that was reported down is
      reported up by the wake only if there is none. -/
namespace ApplePS2.KeyboardDriver

variable (w : World)

/-- The codes that a loop over the key bit vector finds down. -/
def releaseDown (codes : List UInt8) (s : Keyboard) : Keyboard :=
  codes.foldl (fun s sCode => if s.isKeyDown sCode then s.dispatchKeyboardKeyCode w sCode false else s) s

def KBV_NUM_KEYCODES : Nat := 256

def setDevicePowerState (whatToDo : PowerControl) (d : KeyboardDriver) : KeyboardDriver :=
  match whatToDo with
  | .kPS2C_DisableDevice =>
    { scanner.isKeyboardEnabled := false, scanner.extendCount := d.scanner.extendCount
      keyboard := d.keyboard.send (.setKeyboardEnable false) }
  | .kPS2C_EnableDevice =>
    -- the vector is cleared before the keys that are down are looked for
    let s : Keyboard := { d.keyboard with keyBitVector := fun _ => false }
    let s := releaseDown w ((List.range KBV_NUM_KEYCODES).map UInt8.ofNat) s
    let s := s.setLEDs s.ledState
      |>.send (.setCommandByte (kCB_EnableKeyboardIRQ ||| kCB_TranslateMode) kCB_DisableKeyboardClock)
      |>.send (.setKeyboardEnable true)
    { scanner.isKeyboardEnabled := true, scanner.extendCount := d.scanner.extendCount, keyboard := s }

/-- `kPS2C_DisableDevice`, followed by `kPS2C_EnableDevice`. -/
def sleepWake (d : KeyboardDriver) : KeyboardDriver :=
  d |> setDevicePowerState w .kPS2C_DisableDevice |> setDevicePowerState w .kPS2C_EnableDevice

variable {w : World}

/-- With no bit set the loop finds nothing. -/
theorem releaseDown_none (codes : List UInt8) {s : Keyboard} (h : ∀ k, s.isKeyDown k = false) :
    releaseDown w codes s = s := by
  induction codes with
  | nil => rfl
  | cons c codes ih =>
    unfold releaseDown at ih ⊢
    rw [List.foldl_cons, h c]
    exact ih

theorem sleepWake_eq (d : KeyboardDriver) : d.sleepWake w =
    { scanner := ⟨true, d.scanner.extendCount⟩
      keyboard := { d.keyboard with
        keyBitVector := fun _ => false
        log := d.keyboard.log ++ [.setKeyboardEnable false, .setLEDs d.keyboard.ledState,
          .setCommandByte (kCB_EnableKeyboardIRQ ||| kCB_TranslateMode) kCB_DisableKeyboardClock,
          .setKeyboardEnable true] } } := by
  unfold sleepWake setDevicePowerState
  dsimp only
  rw [releaseDown_none _ (fun _ => rfl)]
  simp [Keyboard.setLEDs, Keyboard.send]

/-! What the driver sends. -/

/-- Bytes, each with what the driver reads from outside while it handles it. -/
def receive (bs : List (World × UInt8)) (d : KeyboardDriver) : KeyboardDriver :=
  bs.foldl (fun d b => d.interruptOccurred b.1 b.2) d

/-- Nothing has been sent yet. -/
def silent (d : KeyboardDriver) : KeyboardDriver := { d with keyboard := { d.keyboard with log := [] } }

/-- What the driver sends while it handles some bytes. -/
def reaction (d : KeyboardDriver) (bs : List (World × UInt8)) : List Sent := (receive bs d.silent).keyboard.log

def withExtendedCode (extendedCode : Bool) (d : KeyboardDriver) : KeyboardDriver :=
  { d with keyboard := { d.keyboard with extendedCode := extendedCode } }

/-- The extended flag is assigned anew by every event. -/
theorem dispatchScanEvent_extendedCode (e : ScanEvent) (s : Keyboard) (extendedCode : Bool) :
    { s with extendedCode := extendedCode }.dispatchScanEvent w e = s.dispatchScanEvent w e := by
  unfold Keyboard.dispatchScanEvent
  cases he : e.extended <;> rfl

theorem receive_extendedCode (bs : List (World × UInt8)) (d : KeyboardDriver) (extendedCode : Bool) :
    (receive bs (d.withExtendedCode extendedCode)).keyboard.log = (receive bs d).keyboard.log := by
  induction bs generalizing d extendedCode with
  | nil => rfl
  | cons b bs ih =>
    unfold receive at ih ⊢
    rw [List.foldl_cons, List.foldl_cons]
    unfold interruptOccurred withExtendedCode
    dsimp only
    cases hscan : d.scanner.interruptOccurred b.2 with
    | mk scanner event =>
      cases event with
      | none => exact ih { d with scanner := scanner } extendedCode
      | some e =>
        dsimp only
        rw [dispatchScanEvent_extendedCode]

/-! What the wake handler leaves. -/

/-- What has been read from the property lists, the notifications or the device, the
lock states, the features that have been toggled, the display sleep and whether the
touchpad is enabled. -/
structure Settings where
  prefs : Preferences
  maps : ADBMaps
  fn : FnKeys
  fnKeysModeNum : UInt8
  fnKeysVendorLayout : Vendor
  fx : Fin 12 → Option String
  osxVersion : UInt8
  ledState : UInt8
  commandKey : UInt8
  contrlKey : UInt8
  altkey : UInt8
  kbrdBackLightLvl : Int8
  asusKBHas16LevelSupport : Bool
  enabledAsusKBacklight : Bool
  isTPadEnabled : Bool
  isNumPadLocked : Bool
  isCapsLocked : Bool
  hasExtendFunctions : Bool
  useFinerBrightnesCtrl : Bool
  useFinerVolumeCtrl : Bool
  macintoshMode : Bool
  displaySleep : Bool

/-- What the driver keeps about the keys that have been pressed, but for the key bit
vector: the prefix of a sequence, the modifiers that the touchpad has been told of, the
Fn key, the feature toggle mode, the digits entered, what the last key was, and when. -/
structure Pending where
  extendCount : UInt8
  modifierKeystate : UInt8
  isFnKeyPressed : Bool
  featureToggleMode : Bool
  isNumPadKey : Bool
  isAccInputExceptionKey : Bool
  releaseGestureKey : Bool
  generatedCode : UInt8
  tempCode1 : UInt8
  tempCode2 : UInt8
  now : UInt64
  lastModifiersReadTime : UInt64
  lastEventSecs : UInt32
  lastEventMicrosecs : UInt32
  deriving DecidableEq, Repr

def settings (d : KeyboardDriver) : Settings :=
  let s := d.keyboard
  { prefs := s.prefs, maps := s.maps, fn := s.fn, fnKeysModeNum := s.fnKeysModeNum
    fnKeysVendorLayout := s.fnKeysVendorLayout, fx := s.fx, osxVersion := s.osxVersion, ledState := s.ledState
    commandKey := s.commandKey, contrlKey := s.contrlKey, altkey := s.altkey
    kbrdBackLightLvl := s.kbrdBackLightLvl, asusKBHas16LevelSupport := s.asusKBHas16LevelSupport
    enabledAsusKBacklight := s.enabledAsusKBacklight, isTPadEnabled := s.isTPadEnabled
    isNumPadLocked := s.isNumPadLocked, isCapsLocked := s.isCapsLocked
    hasExtendFunctions := s.hasExtendFunctions, useFinerBrightnesCtrl := s.useFinerBrightnesCtrl
    useFinerVolumeCtrl := s.useFinerVolumeCtrl, macintoshMode := s.macintoshMode, displaySleep := s.displaySleep }

def pending (d : KeyboardDriver) : Pending :=
  let s := d.keyboard
  { extendCount := d.scanner.extendCount, modifierKeystate := s.modifierKeystate
    isFnKeyPressed := s.isFnKeyPressed, featureToggleMode := s.featureToggleMode, isNumPadKey := s.isNumPadKey
    isAccInputExceptionKey := s.isAccInputExceptionKey, releaseGestureKey := s.releaseGestureKey
    generatedCode := s.generatedCode, tempCode1 := s.tempCode1, tempCode2 := s.tempCode2, now := s.now
    lastModifiersReadTime := s.lastModifiersReadTime, lastEventSecs := s.lastEventSecs
    lastEventMicrosecs := s.lastEventMicrosecs }

/-- Nothing else is left of a state that has slept, but for the extended flag. -/
theorem woken_eq {d d' : KeyboardDriver} (hsettings : d.settings = d'.settings) (hpending : d.pending = d'.pending) :
    (d.sleepWake w).silent = (d'.sleepWake w).silent.withExtendedCode d.keyboard.extendedCode := by
  rw [sleepWake_eq, sleepWake_eq]
  unfold silent withExtendedCode
  simp only [settings, Settings.mk.injEq] at hsettings
  simp only [pending, Pending.mk.injEq] at hpending
  simp [hsettings, hpending]

open HeldKeys

/-- After the wake the two drivers react to everything alike, and the codes that were
reported down have been reported up. -/
structure Forgets (w : World) (d d' : KeyboardDriver) : Prop where
  alike : ∀ bs, (d.sleepWake w).reaction bs = (d'.sleepWake w).reaction bs
  up : ∀ c, IsDown d.keyboard.keyLog c → ¬IsDown (d.sleepWake w).keyboard.keyLog c
  up' : ∀ c, IsDown d'.keyboard.keyLog c → ¬IsDown (d'.sleepWake w).keyboard.keyLog c

def NoneDown (d : KeyboardDriver) : Prop := ∀ c, ¬IsDown d.keyboard.keyLog c

/-- The wake reports nothing up. -/
theorem keyLog_sleepWake (d : KeyboardDriver) : (d.sleepWake w).keyboard.keyLog = d.keyboard.keyLog := by
  rw [sleepWake_eq]
  simp [Keyboard.keyLog, Sent.keyEvent]

theorem noneDown_iff (d : KeyboardDriver) :
    (∀ c, IsDown d.keyboard.keyLog c → ¬IsDown (d.sleepWake w).keyboard.keyLog c) ↔ d.NoneDown := by
  rw [keyLog_sleepWake]
  constructor
  · intro h c hc
    exact h c hc hc
  · intro h c hc
    exact absurd hc (h c)

/-- Two drivers with the same settings forget what was held when what the wake handler
leaves is the same in both and no code is down; and only if no code is down. -/
theorem wake_forgets {d d' : KeyboardDriver} (hsettings : d.settings = d'.settings) (w : World) :
    (d.pending = d'.pending ∧ d.NoneDown ∧ d'.NoneDown → Forgets w d d') ∧
      (Forgets w d d' → d.NoneDown ∧ d'.NoneDown) := by
  constructor
  · intro ⟨hpending, hnone, hnone'⟩
    refine ⟨fun bs => ?_, (noneDown_iff d).2 hnone, (noneDown_iff d').2 hnone'⟩
    unfold reaction
    rw [woken_eq hsettings hpending]
    exact receive_extendedCode bs _ d.keyboard.extendedCode
  · intro h
    exact ⟨(noneDown_iff d).1 h.up, (noneDown_iff d').1 h.up'⟩

/-! Two runs. -/

def start : KeyboardDriver := ⟨⟨true, 0⟩, Keyboard.afterStart⟩

def typed (bytes : List UInt8) : KeyboardDriver := receive (bytes.map (quietWorld, ·)) start

/-- The letter A has been typed, or nothing. -/
theorem wake_forgets_letter : (typed [0x1e, 0x9e]).keyboard.keyLog = [(0x00, true), (0x00, false)] ∧
    ∀ bs, ((typed [0x1e, 0x9e]).sleepWake quietWorld).reaction bs = (start.sleepWake quietWorld).reaction bs := by
  have hlog : (typed [0x1e, 0x9e]).keyboard.keyLog = [(0x00, true), (0x00, false)] := rfl
  have hnone : (typed [0x1e, 0x9e]).NoneDown := by
    intro c
    rw [hlog]
    by_cases hc : 0x00 = c <;> simp [IsDown, lastEvent, hc]
  have hsettings : (typed [0x1e, 0x9e]).settings = start.settings := rfl
  exact ⟨hlog, ((wake_forgets hsettings quietWorld).1 ⟨rfl, hnone, isDown_nil⟩).alike⟩

/-- The prefix of a sequence makes the left Control key the right one after the wake, and
the letter A stays down. -/
theorem wake_remembers :
    (typed [0xe0]).settings = start.settings ∧
    ((typed [0xe0]).sleepWake quietWorld).reaction [(quietWorld, 0x1d)] ≠
      (start.sleepWake quietWorld).reaction [(quietWorld, 0x1d)] ∧
    IsDown (typed [0x1e]).keyboard.keyLog 0x00 ∧
    IsDown ((typed [0x1e]).sleepWake quietWorld).keyboard.keyLog 0x00 := by
  have hextended : ((typed [0xe0]).sleepWake quietWorld).reaction [(quietWorld, 0x1d)] =
      [.dispatchPS2Notification .kPS2C_CNTRLKeyDown, .dispatchKeyboardEvent 0x3e true] := by
    rw [sleepWake_eq]
    rfl
  have hplain : (start.sleepWake quietWorld).reaction [(quietWorld, 0x1d)] =
      [.dispatchPS2Notification .kPS2C_CNTRLKeyDown, .dispatchKeyboardEvent 0x3b true] := by
    rw [sleepWake_eq]
    rfl
  have hlog : (typed [0x1e]).keyboard.keyLog = [(0x00, true)] := rfl
  refine ⟨rfl, ?_, ?_, ?_⟩
  · rw [hextended, hplain]
    decide
  · rw [hlog]
    decide
  · rw [keyLog_sleepWake, hlog]
    decide

end ApplePS2.KeyboardDriver
