import ApplePS2.Keyboard.State

/- Key combinations: the strings of the extended functions F13 to F24, and the
   gestures of the touchpad that are sent as key combinations. -/
namespace ApplePS2.Keyboard

variable (w : World)

/-! Key combination strings. -/

/-- `!strncmp(key, name, strlen(key))`: the first string is the start of the second. -/
def startOf (key name : String) : Bool := key.toList.isPrefixOf name.toList

def letterCodes : List (Char × UInt8) :=
  [('A', 0x00), ('B', 0x0b), ('C', 0x08), ('D', 0x02), ('E', 0x0e), ('F', 0x03), ('G', 0x05), ('H', 0x04),
   ('I', 0x22), ('J', 0x26), ('K', 0x28), ('L', 0x25), ('M', 0x2e), ('N', 0x2d), ('O', 0x1f), ('P', 0x23),
   ('Q', 0x0c), ('R', 0x0f), ('S', 0x01), ('T', 0x11), ('U', 0x20), ('V', 0x09), ('W', 0x0d), ('X', 0x07),
   ('Y', 0x10), ('Z', 0x06),
   ('1', 0x12), ('2', 0x13), ('3', 0x14), ('4', 0x15), ('5', 0x17), ('6', 0x16), ('7', 0x1a), ('8', 0x1c),
   ('9', 0x19), ('0', 0x1d),
   (Char.ofNat 0x60, 0x32), ('-', 0x1b), ('+', 0x18), ('[', 0x21), (']', 0x1e), (Char.ofNat 0x5c, 0x2a),
   ('/', 0x2c), ('.', 0x2f), (',', 0x2b), (Char.ofNat 0x27, 0x27), (';', 0x29)]

def ADBCodeForKeyChar (key : Char) : UInt8 := (letterCodes.lookup key).getD DEADKEY

/-- The modifiers and special keys, in the order of the comparisons. -/
def combinationNames : List (String × UInt8) :=
  [("CMD", 0x36), ("ALT", 0x3a), ("CTRL", 0x3b), ("SHFT", 0x38), ("ESC", 0x35), ("ENTR", 0x24),
   ("SPCE", 0x31), ("DAW", 0x7d), ("UAW", 0x7e), ("LAW", 0x7b), ("RAW", 0x7c), ("TAB", 0x30)]

/-- The code of an extracted key; its characters are those copied into the buffer. -/
def combKeyCode : List Char → UInt8
  | [c] => ADBCodeForKeyChar c
  | key => ((combinationNames.find? fun p => startOf (String.ofList key) p.1).map Prod.snd).getD DEADKEY

/-- The loop of `ProcessKeyCombinations`: the codes it dispatches from the rest of
the string, with the characters in the buffer and `l` keys sent so far. -/
def combinationCodes : List Char → List Char → Nat → List UInt8
  | [], key, _ => if combKeyCode key ≠ DEADKEY then [combKeyCode key] else []
  | c :: keys, key, l =>
    if c = ' ' then
      if combKeyCode key ≠ DEADKEY then
        combKeyCode key :: if l + 1 = 3 then [] else combinationCodes keys [] (l + 1)
      else combinationCodes keys [] l
    else combinationCodes keys (key ++ [c]) l

/-- One event for each of some codes. -/
def dispatchAll (goingDown : Bool) : List UInt8 → Keyboard → Keyboard
  | [], s => s
  | c :: cs, s => s |> dispatchKeyboardKeyCode w c goingDown |> dispatchAll goingDown cs

def ProcessKeyCombinations (keys : Option String) (goingDown gesture : Bool) (s : Keyboard) : Keyboard :=
  match keys with
  | none => s
  | some keys =>
    let shift := s.normalCode 0x2a
    -- release shift key for Fxx key dispatch, and press it back after Fxx dispatch
    s |> when (goingDown && !gesture) (dispatchKeyboardKeyCode w shift false)
      |> dispatchAll w goingDown (combinationCodes keys.toList [] 0)
      |> when (!goingDown && !gesture) (dispatchKeyboardKeyCode w shift true)

/-- `F13` to `F24`, in the order of the comparisons. -/
def extendedFunctionNames : List (String × Fin 12) :=
  [("F13", 0), ("F14", 1), ("F15", 2), ("F16", 3), ("F17", 4), ("F18", 5), ("F19", 6), ("F20", 7),
   ("F21", 8), ("F22", 9), ("F23", 10), ("F24", 11)]

def readExtendedFunction (s : Keyboard) (entry : String × String) : Keyboard :=
  match extendedFunctionNames.find? fun p => startOf entry.1 p.1 with
  | some p => { s with fx := Function.update s.fx p.2 (some entry.2) }
  | none => s

def ReadExtendedFunctionsConfig (s : Keyboard) : Keyboard :=
  match s.prefs.extendedFunctions with
  | some entries => entries.foldl readExtendedFunction s
  | none => s

/-- The function keys F1 to F12: the index of the combination, and the key code of
F13 to F20 (0 for F21 to F24) when the combination is empty. -/
def extendedFunction (keyCode : UInt8) : Option (Fin 12 × UInt8) :=
  [(0x3b, 0, 0x64), (0x3c, 1, 0x65), (0x3d, 2, 0x66), (0x3e, 3, 0x67), (0x3f, 4, 0x68), (0x40, 5, 0x69),
   (0x41, 6, 0x6a), (0x42, 7, 0x6b), (0x43, 8, 0), (0x44, 9, 0), (0x57, 10, 0), (0x58, 11, 0)].lookup keyCode

/-- The combination of an extended function, when it is not empty. A missing entry,
on which the source faults, counts as empty. -/
def combination (s : Keyboard) (i : Fin 12) : Option String := (s.fx i).filter fun keys => keys ≠ ""

/-- `none` when the key has no extended function (`extFunction = false`). -/
def ProcessExtendedFunctions (keyCode : UInt8) (goingDown : Bool) (s : Keyboard) : Option Keyboard :=
  match extendedFunction keyCode with
  | none => none
  | some (i, keyCode) =>
    match s.combination i with
    | some keys => some (s.ProcessKeyCombinations w (some keys) goingDown false)
    | none =>
      if keyCode = 0 then some s
      else if goingDown then
        some (s |> dispatchKeyboardKeyCode w (s.normalCode 0x2a) false
          |> dispatchKeyboardKeyCode w (s.normalCode keyCode) true)
      else
        some (s |> dispatchKeyboardKeyCode w (s.normalCode keyCode) false
          |> dispatchKeyboardKeyCode w (s.normalCode 0x2a) true)

/-! Gestures. -/

/-- The notifications that have the modifier positions read first. -/
def readsModifiers (data : UInt32) : Bool :=
  data ∈ ([1, 2] ++ (List.range' 6 11).map UInt32.ofNat ++ (List.range' 18 15).map UInt32.ofNat ++
    [36, 37, 38, 39, 40, 41, 53, 54, 55, 70, 71])

/-- The start of `receiveTouchpadNotifications`. -/
def receiveHeader (data : UInt32) (s : Keyboard) : Keyboard :=
  { s with osxVersion := if s.osxVersion = 0 then data.toUInt8 else s.osxVersion }.when
    (readsModifiers data) (readKeyboardModifiers w)

/-- The cases of `receiveTouchpadNotifications` that send a key combination. -/
def gesture (n : PS2Notification) (s : Keyboard) : Keyboard :=
  let cmd := s.extCode s.commandKey
  let ctrl := s.extCode s.contrlKey
  let alt := s.extCode s.altkey
  match n with
  | .kPS2C_ReleaseCmdKey =>
    { s |> dispatchKeyboardKeyCode w cmd false |> releaseKey w cmd with releaseGestureKey := false }
  | .kPS2C_ZoomPlus => s |> chord w [cmd, 0x45] |> releaseKey w cmd
  | .kPS2C_ZoomMinus => s |> chord w [cmd, 0x4e] |> releaseKey w cmd
  | .kPS2C_Gesture_ZoomReset | .kPS2C_ZoomReset => s |> chord w [cmd, 0x1d] |> releaseKey w cmd
  | .kPS2C_RotateLeft => s |> chord w [cmd, 0x25] |> releaseKey w cmd
  | .kPS2C_RotateRight => s |> chord w [cmd, 0x0f] |> releaseKey w cmd
  | .kPS2C_Gesture_AppSwitch =>
    { s |> dispatchKeyboardKeyCode w cmd true |> chord w [0x30] with releaseGestureKey := true }
  | .kPS2C_Gesture_AppClose => s |> chord w [cmd, s.prefs.letterQ] |> releaseKey w cmd
  | .kPS2C_Gesture_Launchpad =>
    if s.osxVersion < 12 then s |> chord w [131] else s |> chord w [cmd, ctrl, 0x38, 0x25]
  | .kPS2C_Gesture_MissionControl =>
    if s.osxVersion < 12 then s |> chord w [160] else s |> chord w [ctrl, 0x7e]
  | .kPS2C_Gesture_Dashboard => if s.osxVersion < 12 then s |> chord w [130] else s |> chord w [0x6f]
  | .kPS2C_Gesture_DesktopSwitchLeft => s |> chord w [ctrl, 0x7b] |> releaseKey w ctrl
  | .kPS2C_Gesture_DesktopSwitchRight => s |> chord w [ctrl, 0x7c] |> releaseKey w ctrl
  | .kPS2C_Gesture_AppWindows =>
    if s.osxVersion < 12 then s |> chord w [ctrl, 0xa0] |> releaseKey w ctrl
    else s |> chord w [cmd, ctrl, 0x38, 0x00]
  | .kPS2C_Gesture_Minimize => s |> chord w [cmd, s.prefs.letterM] |> releaseKey w cmd
  | .kPS2C_Gesture_FullScreen =>
    (if s.prefs.keyboardTypeID = 0x30 ∨ s.prefs.keyboardTypeID = 0x31 then s |> chord w [alt, cmd, 0x03]
    else s |> chord w [ctrl, cmd, 0x03]) |> releaseKey w ctrl
  | .kPS2C_Gesture_Backward =>
    if s.prefs.keyboardTypeID ∈ [0x30, 0x31, 0x34] then
      s |> chord w [cmd, alt, s.prefs.ISOLSquareBracket]
    else if s.prefs.keyboardTypeID = 0x32 then s |> chord w [ctrl, 0x7b]
    else s |> chord w [cmd, s.prefs.ISOLSquareBracket]
  | .kPS2C_Gesture_Forward =>
    if s.prefs.keyboardTypeID ∈ [0x30, 0x31, 0x34] then
      s |> chord w [cmd, alt, s.prefs.ISORSquareBracket]
    else if s.prefs.keyboardTypeID = 0x32 then s |> chord w [ctrl, 0x7c]
    else s |> chord w [cmd, s.prefs.ISORSquareBracket]
  | .kPS2C_Gesture_Desktop =>
    if s.osxVersion < 12 then s |> chord w [cmd, 0xa0] |> releaseKey w cmd else s |> chord w [0x67]
  | .kPS2C_Gesture_NC_Shortcut => s |> chord w [cmd, ctrl, 0x38, 0x2d] |> releaseKey w cmd
  | .kPS2C_Gesture_GetInfo => s |> chord w [cmd, 0x22] |> releaseKey w cmd
  | .kPS2C_Gesture_ToggleDock => s |> chord w [alt, cmd, 0x02] |> releaseKey w alt
  | .kPS2C_Gesture_Finder => s |> chord w [alt, cmd, 0x31] |> releaseKey w alt
  | .kPS2C_Gesture_ForceQuit => s |> chord w [alt, cmd, 0x35] |> releaseKey w alt
  | .kPS2C_ESC => s |> chord w [0x35]
  | _ => s

/-- `receiveTouchpadNotifications` for one of the notifications of `gesture`. -/
def receiveGesture (n : PS2Notification) (s : Keyboard) : Keyboard :=
  s |> receiveHeader w (UInt32.ofNat n.ctorIdx) |> gesture w n

end ApplePS2.Keyboard
