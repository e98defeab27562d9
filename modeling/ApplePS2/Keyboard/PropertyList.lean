import ApplePS2.Keyboard.TableReads

/- The settings of the property list (`ReadKeyboardPreferences`), and the keyboard that
   `start` leaves with them. The configured key codes are 32-bit numbers, kept in 8 bits
   and not checked.

   1. `positions_ReadKeyboardPreferences`: no setting moves a modifier.
   2. `startedWith_low`: after `start` the modifiers have codes below 0x80. -/
namespace ApplePS2

/-- A value of the dictionary "Preferences". -/
inductive PropertyValue where
  | boolean (value : Bool)
  | number (value : UInt32)
  | other
  deriving DecidableEq, Repr

namespace Keyboard

def readBoolean (keyStr : String) (kbPrefBool : Bool) (s : Keyboard) : Keyboard :=
  if startOf keyStr "Swap alt and windows key" then { s with macintoshMode := kbPrefBool }
  else if startOf keyStr "Enable Extended Functions" then { s with hasExtendFunctions := kbPrefBool }
  else if startOf keyStr "Make shift + caps into Fn key" then
    { s with prefs := { s.prefs with makeShiftCapsAsFn := kbPrefBool } }
  else if startOf keyStr "Make delete key into cmd + backspace" then
    { s with prefs := { s.prefs with makeDelIntoCmdBspace := kbPrefBool } }
  else if startOf keyStr "Make ISO keypad key . to ," then
    { s with prefs := { s.prefs with makeKeyDotAsComma := kbPrefBool } }
  else if startOf keyStr "Num Lock enabled at boot" then { s with isNumPadLocked := kbPrefBool }
  else if startOf keyStr "Disable Num Lock LED" then
    { s with prefs := { s.prefs with noNumLockLED := kbPrefBool } }
  else if startOf keyStr "Make Num Lock into Clear" then
    { s with prefs := { s.prefs with makeNumLockAsClear := kbPrefBool } }
  else if startOf keyStr "FinerFnBrightnessControl" then { s with useFinerBrightnesCtrl := kbPrefBool }
  else if startOf keyStr "FinerFnVolumeControl" then { s with useFinerVolumeCtrl := kbPrefBool }
  else if startOf keyStr "Enable Sierra Caps Lock Fix" then
    { s with prefs := { s.prefs with fixSierraCapsLockBug := kbPrefBool } }
  else s

/-- The codes of the four keys, cut to 8 bits. -/
def readNumber (keyStr : String) (kbPrefValue : UInt32) (s : Keyboard) : Keyboard :=
  if kbPrefValue > 0 then
    if startOf keyStr "Make context menu key into key" then
      { s with prefs := { s.prefs with rightCtxtMKey := kbPrefValue.toUInt8 } }
    else if startOf keyStr "Make right control into key" then
      { s with prefs := { s.prefs with rightCntrlKey := kbPrefValue.toUInt8 } }
    else if startOf keyStr "Make right alt into key" then
      { s with prefs := { s.prefs with rightALTKey := kbPrefValue.toUInt8 } }
    else if startOf keyStr "Make Caps Lock into key" then
      { s with prefs := { s.prefs with capsKey := kbPrefValue.toUInt8 } }
    else s
  else s

def readPreference (s : Keyboard) (entry : String × PropertyValue) : Keyboard :=
  match entry.2 with
  | .boolean value => s.readBoolean entry.1 value
  | .number value => s.readNumber entry.1 value
  | .other => s

/-- The entries in the order of the iterator. -/
def ReadKeyboardPreferences (kbPrefs : Option (List (String × PropertyValue))) (s : Keyboard) : Keyboard :=
  match kbPrefs with
  | some entries => entries.foldl readPreference s
  | none => s

/-- `start`, with the property list read; `prefs` and `maps` are what `init` and
`deviceType` have set. -/
def startedWith (w : World) (kbPrefs : Option (List (String × PropertyValue))) (prefs : Preferences) (maps : ADBMaps)
    (fnMode : Option UInt8) : Keyboard :=
  let s := (Keyboard.init prefs maps).ReadKeyboardPreferences kbPrefs
  ((s.when s.hasExtendFunctions ReadExtendedFunctionsConfig).readKeyboardModifiers w).readFnKeys fnMode

theorem positions_ite {c : Prop} [Decidable c] {a b s : Keyboard} (ha : a.positions = s.positions)
    (hb : b.positions = s.positions) : (if c then a else b).positions = s.positions := by
  split
  · exact ha
  · exact hb

theorem positions_readPreference (s : Keyboard) (entry : String × PropertyValue) :
    (s.readPreference entry).positions = s.positions := by
  obtain ⟨keyStr, value⟩ := entry
  cases value with
  | boolean value =>
    show (s.readBoolean keyStr value).positions = s.positions
    exact positions_ite rfl (positions_ite rfl (positions_ite rfl (positions_ite rfl (positions_ite rfl
      (positions_ite rfl (positions_ite rfl (positions_ite rfl (positions_ite rfl (positions_ite rfl
        (positions_ite rfl rfl))))))))))
  | number value =>
    show (s.readNumber keyStr value).positions = s.positions
    exact positions_ite (positions_ite rfl (positions_ite rfl (positions_ite rfl (positions_ite rfl rfl)))) rfl
  | other => rfl

theorem positions_ReadKeyboardPreferences (kbPrefs : Option (List (String × PropertyValue))) (s : Keyboard) :
    (s.ReadKeyboardPreferences kbPrefs).positions = s.positions := by
  cases kbPrefs with
  | none => rfl
  | some entries =>
    show (entries.foldl readPreference s).positions = s.positions
    induction entries generalizing s with
    | nil => rfl
    | cons entry entries ih => rw [List.foldl_cons, ih, positions_readPreference]

theorem readFnKeys_low {s : Keyboard} (h : s.PositionsLow) (fnMode : Option UInt8) : (s.readFnKeys fnMode).PositionsLow := by
  cases fnMode with
  | none => exact ⟨h.command, h.contrl, h.alt⟩
  | some fnMode =>
    have hmode : { s with fnKeysModeNum := fnMode }.PositionsLow := ⟨h.command, h.contrl, h.alt⟩
    have hlayout : { s with fnKeysModeNum := fnMode }.ReadFnKeyLayout.PositionsLow :=
      (alike_ReadFnKeyLayout hmode.alike).low
    unfold readFnKeys
    dsimp only
    generalize { s with fnKeysModeNum := fnMode }.ReadFnKeyLayout = t at hlayout ⊢
    have hsleep : { t with fn := if t.fnKeysModeNum < 2 then { t.fn with sleep := 0 } else t.fn }.PositionsLow :=
      ⟨hlayout.command, hlayout.contrl, hlayout.alt⟩
    exact (alike_when hsleep.alike _ (alike_ReadFnKeyConfig hsleep.alike)).low

/-- The modifiers after `start` have key codes below 0x80, whatever is configured. -/
theorem startedWith_low (w : World) (kbPrefs : Option (List (String × PropertyValue))) (prefs : Preferences)
    (maps : ADBMaps) (fnMode : Option UInt8) : (startedWith w kbPrefs prefs maps fnMode).PositionsLow := by
  have hinit : (Keyboard.init prefs maps).PositionsLow :=
    ⟨show (0x5B : UInt8) < 0x80 by decide, show (0x1d : UInt8) < 0x80 by decide, show (0x38 : UInt8) < 0x80 by decide⟩
  have hread := hinit.congr (positions_ReadKeyboardPreferences kbPrefs (Keyboard.init prefs maps))
  have hfunctions := alike_when hread.alike ((Keyboard.init prefs maps).ReadKeyboardPreferences kbPrefs).hasExtendFunctions
    (alike_ReadExtendedFunctionsConfig hread.alike)
  exact readFnKeys_low (alike_readKeyboardModifiers hfunctions).low fnMode

end Keyboard

end ApplePS2
