import ApplePS2.Keyboard.ModifierPositions
import ApplePS2.Keyboard.Event
import ApplePS2.Keyboard.Notifications
import ApplePS2.Transition

/- The touchpad's version handshake: `kPS2C_OSXVersionNotify` and then the version, which the
   handler stores and handles like any other number.

   1. `osxVersion_receive`: what a notification makes of `_osxVersion`.
   2. `handleNotification_idle`, `receive_version`: the numbers that the handler does nothing for.
   3. `versions_kept`: over a run of commands and handshakes.
   4. `version_goesForward`: a version whose number is the one of a gesture. -/
namespace ApplePS2

namespace Keyboard

variable {w : World}

/-! The version. -/

theorem osx_when {f : Keyboard → Keyboard} {s : Keyboard} (c : Bool) (h : (f s).osxVersion = s.osxVersion) :
    (s.when c f).osxVersion = s.osxVersion := by
  cases c with
  | true => exact h
  | false => rfl

theorem osx_dispatch (c : UInt8) (d : Bool) (s : Keyboard) :
    (s.dispatchKeyboardKeyCode w c d).osxVersion = s.osxVersion := rfl

theorem osx_chord (ks : List UInt8) (s : Keyboard) : (s.chord w ks).osxVersion = s.osxVersion := by
  induction ks generalizing s with
  | nil => rfl
  | cons k ks ih => rw [chord, osx_dispatch, ih, osx_dispatch]

theorem osx_releaseKey (c : UInt8) (s : Keyboard) : (s.releaseKey w c).osxVersion = s.osxVersion := osx_chord [c] s

theorem osx_ite {c : Prop} [Decidable c] {v : UInt8} {t t' : Keyboard} (h : t.osxVersion = v)
    (h' : t'.osxVersion = v) : (if c then t else t').osxVersion = v := by
  split
  · exact h
  · exact h'

theorem osx_readKeyboardModifiers (s : Keyboard) : (s.readKeyboardModifiers w).osxVersion = s.osxVersion := by
  obtain ⟨cmd, ctrl, alt, time, h⟩ := s.readKeyboardModifiers_eq w
  rw [h]

theorem osx_dispatchAll (d : Bool) (cs : List UInt8) (s : Keyboard) :
    (s.dispatchAll w d cs).osxVersion = s.osxVersion := by
  induction cs generalizing s with
  | nil => rfl
  | cons c cs ih => rw [dispatchAll, ih, osx_dispatch]

theorem osx_ProcessKeyCombinations (keys : Option String) (d gesture : Bool) (s : Keyboard) :
    (s.ProcessKeyCombinations w keys d gesture).osxVersion = s.osxVersion := by
  unfold ProcessKeyCombinations
  split
  · rfl
  · rw [osx_when _ (osx_dispatch _ _ _), osx_dispatchAll, osx_when _ (osx_dispatch _ _ _)]

theorem osx_readAsusKBlight (reqParm : UInt8) (s : Keyboard) :
    (s.readAsusKBlight w reqParm).1.osxVersion = s.osxVersion := by
  unfold readAsusKBlight
  split <;> rfl

theorem osx_readBackLightLvl (s : Keyboard) : (s.readBackLightLvl w).osxVersion = s.osxVersion :=
  osx_readAsusKBlight 0 s

theorem osx_setAsusKBlight (lvl : UInt8) (s : Keyboard) : (s.setAsusKBlight w lvl).osxVersion = s.osxVersion :=
  osx_ite (osx_ite rfl rfl) rfl

theorem osx_initBackLight (s : Keyboard) : (s.initBackLight w).osxVersion = s.osxVersion := by
  have hlevel : ∀ s : Keyboard, (s.readBackLightLvl w |>.setAsusKBlight w 0xEA).osxVersion = s.osxVersion := by
    intro s
    rw [osx_setAsusKBlight, osx_readBackLightLvl]
  unfold initBackLight
  refine (osx_when _ rfl).trans (osx_ite ?_ ?_)
  · rw [osx_setAsusKBlight]
    exact osx_ite (hlevel s) (hlevel s)
  · exact (osx_readBackLightLvl _).trans (hlevel s)

theorem osx_backLightOn (s : Keyboard) : (s.backLightOn w).osxVersion = s.osxVersion := by
  have hread := osx_readAsusKBlight (w := w) 0xFF s
  unfold backLightOn
  refine osx_ite ((osx_when _ ?_).trans ((osx_readBackLightLvl _).trans hread)) hread
  exact osx_setAsusKBlight 0xEA _

/-- Brightness keys, which come from the touchpad as if they were released. -/
theorem osx_processFnKeys_up (keyCode : UInt8) (s : Keyboard) :
    (s.processFnKeys w keyCode false).osxVersion = s.osxVersion := by
  have hfiner : ∀ (b : Bool) (c : UInt8) (s : Keyboard), (s.finerKey w b c).osxVersion = s.osxVersion :=
    fun _ _ s => osx_ite (osx_chord _ s) (osx_chord _ s)
  have hsleep : ∀ s : Keyboard, s.toggleTouchpad.osxVersion = s.osxVersion := by
    intro s
    unfold toggleTouchpad
    exact osx_ite rfl rfl
  have hdispatch : ∀ (c : UInt8) (s : Keyboard), (s.dispatchFnKey w c).osxVersion = s.osxVersion := by
    intro c s
    unfold dispatchFnKey
    refine osx_ite (hfiner _ _ s) <| osx_ite (hfiner _ _ s) <| osx_ite (hfiner _ _ s) <| osx_ite (hfiner _ _ s) <|
      osx_ite rfl <| osx_ite ?_ (osx_chord _ s)
    exact (hsleep _).trans (osx_chord _ s)
  have hup : (s.fnKeyUp w keyCode).1.osxVersion = s.osxVersion := by
    unfold fnKeyUp
    repeat' split
    all_goals rfl
  exact (hdispatch _ _).trans hup

theorem osx_gesture (n : PS2Notification) (s : Keyboard) : (s.gesture w n).osxVersion = s.osxVersion := by
  unfold gesture
  dsimp only
  split
  case h_1 => exact osx_releaseKey (w := w) (s.extCode s.commandKey) _
  case h_8 => exact osx_chord _ _
  all_goals try simp only [osx_releaseKey, osx_chord]
  all_goals repeat' apply osx_ite
  all_goals try simp only [osx_releaseKey, osx_chord]

theorem osx_handleNotification {n : PS2Notification} (hn : n ≠ .kPS2C_OSXVersionNotify) (s : Keyboard) :
    (s.handleNotification w n).osxVersion = s.osxVersion := by
  unfold handleNotification
  split
  case h_1 => exact osx_processFnKeys_up _ s
  case h_2 => exact osx_processFnKeys_up _ s
  case h_3 => exact osx_readKeyboardModifiers s
  case h_4 => exact (osx_releaseKey _ _).trans (osx_readKeyboardModifiers s)
  case h_5 => rfl
  case h_6 => rfl
  case h_7 => exact osx_when _ (osx_initBackLight s)
  case h_8 => exact osx_when _ (osx_setAsusKBlight 0xED s)
  case h_9 => exact osx_when _ (osx_backLightOn s)
  case h_10 => rfl
  case h_11 => exact absurd rfl hn
  case h_12 =>
    split
    · rw [osx_ProcessKeyCombinations, osx_ProcessKeyCombinations]
    · exact osx_gesture n s

theorem osx_receiveHeader (data : UInt32) (s : Keyboard) :
    (s.receiveHeader w data).osxVersion = if s.osxVersion = 0 then data.toUInt8 else s.osxVersion :=
  osx_when _ (osx_readKeyboardModifiers _)

/-- A notification is stored when no version is known. -/
theorem osxVersion_receive {data : UInt32} (hdata : PS2Notification.ofData data ≠ some .kPS2C_OSXVersionNotify)
    (s : Keyboard) : (s.receiveTouchpadNotifications w data).osxVersion =
      if s.osxVersion = 0 then data.toUInt8 else s.osxVersion := by
  unfold receiveTouchpadNotifications
  cases hn : PS2Notification.ofData data with
  | none => exact osx_receiveHeader data s
  | some n =>
    have hne : n ≠ .kPS2C_OSXVersionNotify := fun h => hdata (h ▸ hn)
    exact (osx_handleNotification hne _).trans (osx_receiveHeader data s)

/-! The numbers that nothing is done for. -/

/-- The notifications that send a key combination. -/
def combinationNotifications : List PS2Notification :=
  [.kPS2C_ReleaseCmdKey, .kPS2C_ZoomPlus, .kPS2C_ZoomMinus, .kPS2C_Gesture_ZoomReset, .kPS2C_ZoomReset,
    .kPS2C_RotateLeft, .kPS2C_RotateRight, .kPS2C_Gesture_AppSwitch, .kPS2C_Gesture_AppClose,
    .kPS2C_Gesture_Launchpad, .kPS2C_Gesture_MissionControl, .kPS2C_Gesture_Dashboard,
    .kPS2C_Gesture_DesktopSwitchLeft, .kPS2C_Gesture_DesktopSwitchRight, .kPS2C_Gesture_AppWindows,
    .kPS2C_Gesture_Minimize, .kPS2C_Gesture_FullScreen, .kPS2C_Gesture_Backward, .kPS2C_Gesture_Forward,
    .kPS2C_Gesture_Desktop, .kPS2C_Gesture_NC_Shortcut, .kPS2C_Gesture_GetInfo, .kPS2C_Gesture_ToggleDock,
    .kPS2C_Gesture_Finder, .kPS2C_Gesture_ForceQuit, .kPS2C_ESC]

/-- The notifications that are always acted on. -/
def activeNotifications : List PS2Notification :=
  [.kPS2C_BrightnessDown, .kPS2C_BrightnessUp, .kPS2C_CNTRLKeyDown, .kPS2C_CNTRLKeyUp, .kPS2C_OSXVersionNotify] ++
    combinationNotifications

/-- The switch over the notifications has something to do. -/
def acts (n : PS2Notification) (s : Keyboard) : Bool :=
  if n ∈ activeNotifications then true
  else if n = .kPS2C_EnableAsusKBacklight then !s.enabledAsusKBacklight
  else if n = .kPS2C_EnableAsusKBacklight16Levels then !s.asusKBHas16LevelSupport
  else if n = .kPS2C_InitKeyboard ∨ n = .kPS2C_KeybrdBackLightOff ∨ n = .kPS2C_KeybrdBackLightOn then
    s.enabledAsusKBacklight
  else if n = .kPS2C_EnableTouchpad then !s.isTPadEnabled
  else
    match extFunction n with
    | some i => (s.fx i).any fun keys => !(combinationCodes keys.toList [] 0).isEmpty
    | none => false

theorem gesture_idle {n : PS2Notification} (h : n ∉ combinationNotifications) (s : Keyboard) :
    s.gesture w n = s := by
  have hmem : ∀ n' ∈ combinationNotifications, n ≠ n' := fun n' hn' heq => h (heq ▸ hn')
  unfold gesture
  split
  case h_27 => rfl
  all_goals exact absurd rfl (hmem _ (by decide))

theorem combination_idle {keys : Option String} (h : (keys.any fun keys => !(combinationCodes keys.toList [] 0).isEmpty) = false)
    (d : Bool) (s : Keyboard) : s.ProcessKeyCombinations w keys d true = s := by
  unfold ProcessKeyCombinations
  cases keys with
  | none => rfl
  | some keys =>
    have hempty : combinationCodes keys.toList [] 0 = [] := by simpa using h
    simp only [hempty, Bool.not_true, Bool.and_false]
    rfl

theorem handleNotification_idle {n : PS2Notification} {s : Keyboard} (h : s.acts n = false) :
    s.handleNotification w n = s := by
  have hactive : n ∉ activeNotifications := by
    intro hmem
    rw [acts, if_pos hmem] at h
    cases h
  rw [acts, if_neg hactive] at h
  unfold handleNotification
  split
  case h_5 =>
    have hon : s.enabledAsusKBacklight = true := by simpa using h
    rw [← hon]
  case h_6 =>
    have hon : s.asusKBHas16LevelSupport = true := by simpa using h
    rw [← hon]
  case h_7 =>
    have hoff : s.enabledAsusKBacklight = false := by simpa using h
    rw [hoff]
    rfl
  case h_8 =>
    have hoff : s.enabledAsusKBacklight = false := by simpa using h
    rw [hoff]
    rfl
  case h_9 =>
    have hoff : s.enabledAsusKBacklight = false := by simpa using h
    rw [hoff]
    rfl
  case h_10 =>
    have hon : s.isTPadEnabled = true := by simpa using h
    rw [← hon]
  case h_12 hbacklight hlevels hinit hdark hlight htouchpad hversion =>
    have hlights : ¬(n = .kPS2C_InitKeyboard ∨ n = .kPS2C_KeybrdBackLightOff ∨ n = .kPS2C_KeybrdBackLightOn) := by
      rintro (hn | hn | hn)
      · exact hinit hn
      · exact hdark hn
      · exact hlight hn
    rw [if_neg hbacklight, if_neg hlevels, if_neg hlights, if_neg htouchpad] at h
    cases hfun : extFunction n with
    | some i =>
      rw [hfun] at h
      dsimp only
      rw [combination_idle h, combination_idle h]
    | none =>
      dsimp only
      exact gesture_idle (fun hmem => hactive (List.mem_append_right _ hmem)) s
  all_goals exact absurd (by decide) hactive

/-- The handler does nothing for the number `n` but to store it, when it waits for a version. -/
def storesOnly (n : UInt32) (s : Keyboard) : Bool :=
  !(readsModifiers n && s.modifiersDue) && !(PS2Notification.ofData n).any fun m => s.acts m

/-- The number of `kPS2C_OSXVersionNotify`. -/
def versionNotify : UInt32 := UInt32.ofNat PS2Notification.kPS2C_OSXVersionNotify.ctorIdx

/-- The driver waits for a version. -/
theorem receive_versionNotify (w : World) (s : Keyboard) :
    s.receiveTouchpadNotifications w versionNotify = { s with osxVersion := 0 } := by
  have hreads : readsModifiers versionNotify = false := by decide
  have hdata : PS2Notification.ofData versionNotify = some .kPS2C_OSXVersionNotify := by decide
  unfold receiveTouchpadNotifications receiveHeader
  rw [hdata, hreads]
  rfl

theorem receive_version (w : World) {n : UInt32} {s : Keyboard} (h : s.storesOnly n = true) :
    { s with osxVersion := 0 }.receiveTouchpadNotifications w n = { s with osxVersion := n.toUInt8 } := by
  unfold storesOnly at h
  simp only [Bool.and_eq_true, Bool.not_eq_true', Bool.and_eq_false_iff] at h
  obtain ⟨hreads, hacts⟩ := h
  have hheader : { s with osxVersion := 0 }.receiveHeader w n = { s with osxVersion := n.toUInt8 } := by
    show ({ s with osxVersion := n.toUInt8 } : Keyboard).when (readsModifiers n) (readKeyboardModifiers w) = _
    rcases hreads with hread | hdue
    · rw [hread]
      rfl
    · have hthrottled : ({ s with osxVersion := n.toUInt8 } : Keyboard).modifiersDue = false := hdue
      have hsame := ModifierHistory.readKeyboardModifiers_throttled w hthrottled
      unfold when
      rw [hsame, ite_self]
  unfold receiveTouchpadNotifications
  rw [hheader]
  cases hn : PS2Notification.ofData n with
  | none => rfl
  | some m =>
    rw [hn] at hacts
    have hidle : ({ s with osxVersion := n.toUInt8 } : Keyboard).acts m = false := hacts
    exact handleNotification_idle hidle

end Keyboard

/-! Runs. -/

/-- What the touchpad sends: a command, or the notification and the version after it. -/
inductive TouchpadMessage where
  | command (w : World) (data : UInt32) (h : PS2Notification.ofData data ≠ some .kPS2C_OSXVersionNotify)
  | version (w w' : World) (n : UInt32)

namespace TouchpadMessage

open Keyboard

def receive (s : Keyboard) : TouchpadMessage → Keyboard
  | .command w data _ => s.receiveTouchpadNotifications w data
  | .version w w' n => (s.receiveTouchpadNotifications w versionNotify).receiveTouchpadNotifications w' n

/-- A command keeps the version. A handshake changes nothing else, sends nothing, and the
version is the number. -/
def Right (s : Keyboard) : TouchpadMessage → Prop
  | .command w data _ => (s.receiveTouchpadNotifications w data).osxVersion = s.osxVersion
  | .version w w' n => receive s (.version w w' n) = { s with osxVersion := n.toUInt8 } ∧ n.toUInt8.toNat = n.toNat

/-- A command comes when a version is known, or is the number 0 in eight bits. The number of a
version fits eight bits, and the handler has nothing to do for it. -/
def Meets (s : Keyboard) : TouchpadMessage → Prop
  | .command _ data _ => s.osxVersion = 0 → data.toUInt8 = 0
  | .version _ _ n => n.toNat < 256 ∧ s.storesOnly n = true

theorem right_of_meets {s : Keyboard} {m : TouchpadMessage} (h : Meets s m) : Right s m := by
  cases m with
  | command w data hdata =>
    show (s.receiveTouchpadNotifications w data).osxVersion = s.osxVersion
    rw [osxVersion_receive hdata]
    split
    · next hzero => rw [h hzero, hzero]
    · rfl
  | version w w' n =>
    obtain ⟨hfits, hstores⟩ := h
    refine ⟨?_, ?_⟩
    · show (s.receiveTouchpadNotifications w versionNotify).receiveTouchpadNotifications w' n = _
      rw [receive_versionNotify, receive_version w' hstores]
    · rw [UInt32.toNat_toUInt8]
      exact Nat.mod_eq_of_lt hfits

/-- In a run in which every message meets the condition, every command keeps the version and
every handshake changes the version only. -/
theorem versions_kept (ms : List TouchpadMessage) (s : Keyboard)
    (h : ∀ p m, p ++ [m] <+: ms → Meets (Transition.run receive p s) m) :
    ∀ p m, p ++ [m] <+: ms → Right (Transition.run receive p s) m := by
  intro p m hp
  exact right_of_meets (h p m hp)

theorem versions_kept_seventeen :
    receive afterStart (.version quietWorld quietWorld 17) = { afterStart with osxVersion := 17 } := by
  have hmeets : ∀ p m, p ++ [m] <+: [TouchpadMessage.version quietWorld quietWorld 17] →
      Meets (Transition.run receive p afterStart) m := by
    rw [Transition.run_steps_cons]
    exact ⟨⟨by decide, by decide +kernel⟩, Transition.run_steps_nil _⟩
  exact (versions_kept _ afterStart hmeets [] _ (List.prefix_refl _)).1

/-- The version 12 goes forward in the browser. After the version 0, which is the mark for a version
to come, the next command is stored. -/
theorem version_goesForward :
    let told := receive afterStart (.version quietWorld quietWorld 12)
    let waiting := receive afterStart (.version quietWorld quietWorld 0)
    (afterStart.log = [] ∧ told.log = [.dispatchKeyboardEvent 0x37 true, .dispatchKeyboardEvent 0 true,
        .dispatchKeyboardEvent 0 false, .dispatchKeyboardEvent 0x37 false]) ∧
      (waiting.osxVersion = 0 ∧ (receive waiting (.command quietWorld 36 (by decide))).osxVersion = 36) := by
  decide +kernel

end TouchpadMessage

end ApplePS2
