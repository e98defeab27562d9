import ApplePS2.Keyboard.Control

/- The keyboard driver's handler of the touchpad's notifications
   (`receiveTouchpadNotifications`). Only `kPS2C_EnableTouchpad` changes what the
   driver keeps about the keys and tells the touchpad about them. -/
namespace ApplePS2.Keyboard

variable (w : World)

/-- The number of the extended function that a notification asks for. -/
def extFunction : PS2Notification → Option (Fin 12)
  | .kPS2C_ExtFunF13 => some ⟨0, by decide⟩
  | .kPS2C_ExtFunF14 => some ⟨1, by decide⟩
  | .kPS2C_ExtFunF15 => some ⟨2, by decide⟩
  | .kPS2C_ExtFunF16 => some ⟨3, by decide⟩
  | .kPS2C_ExtFunF17 => some ⟨4, by decide⟩
  | .kPS2C_ExtFunF18 => some ⟨5, by decide⟩
  | .kPS2C_ExtFunF19 => some ⟨6, by decide⟩
  | .kPS2C_ExtFunF20 => some ⟨7, by decide⟩
  | .kPS2C_ExtFunF21 => some ⟨8, by decide⟩
  | .kPS2C_ExtFunF22 => some ⟨9, by decide⟩
  | .kPS2C_ExtFunF23 => some ⟨10, by decide⟩
  | .kPS2C_ExtFunF24 => some ⟨11, by decide⟩
  | _ => none

/-- `kPS2C_InitKeyboard`: the backlight gets back the level that the driver has kept. -/
def initBackLight (s : Keyboard) : Keyboard :=
  let nvramValue := s.kbrdBackLightLvl
  let s := s |> readBackLightLvl w |> setAsusKBlight w 0xEA
  let s :=
    if nvramValue ≠ s.kbrdBackLightLvl ∧ s.kbrdBackLightLvl.toInt ≥ 0 ∧ nvramValue.toInt ≥ 0 then
      let s : Keyboard := if nvramValue.toInt > 16 then { s with kbrdBackLightLvl := 1 } else s
      s.setAsusKBlight w (UInt8.ofInt s.kbrdBackLightLvl.toInt)
    else s.readBackLightLvl w
  s.when (s.kbrdBackLightLvl.toInt > 0) (notify .kPS2C_KeybrdBackLightOff)

/-- `kPS2C_KeybrdBackLightOn`: back to the last level, when the backlight is off. -/
def backLightOn (s : Keyboard) : Keyboard :=
  let (s, lvl) := s.readAsusKBlight w 0xFF
  let clvl := UInt8.ofInt lvl
  if clvl = 0xFD ∨ clvl = 0xED then
    (s.readBackLightLvl w).when (clvl > 0) fun s =>
      s |> setAsusKBlight w 0xEA |> notify .kPS2C_KeybrdBackLightToggleOn
  else s

/-- The switch over the notifications. -/
def handleNotification (n : PS2Notification) (s : Keyboard) : Keyboard :=
  match n with
  | .kPS2C_BrightnessDown => s.processFnKeys w 0x20 false
  | .kPS2C_BrightnessUp => s.processFnKeys w 0x10 false
  | .kPS2C_CNTRLKeyDown =>
    let s := s.readKeyboardModifiers w
    s.dispatchKeyboardKeyCode w (s.normalCode s.contrlKey) true
  | .kPS2C_CNTRLKeyUp =>
    let s := s.readKeyboardModifiers w
    s |> dispatchKeyboardKeyCode w (s.normalCode s.contrlKey) false |> releaseKey w (s.extCode s.contrlKey)
  | .kPS2C_EnableAsusKBacklight => { s with enabledAsusKBacklight := true }
  | .kPS2C_EnableAsusKBacklight16Levels => { s with asusKBHas16LevelSupport := true }
  | .kPS2C_InitKeyboard => s.when s.enabledAsusKBacklight (initBackLight w)
  | .kPS2C_KeybrdBackLightOff =>
    s.when s.enabledAsusKBacklight fun s => s |> setAsusKBlight w 0xED |> notify .kPS2C_KeybrdBackLightToggleOff
  | .kPS2C_KeybrdBackLightOn => s.when s.enabledAsusKBacklight (backLightOn w)
  | .kPS2C_EnableTouchpad => { s with isTPadEnabled := true }
  | .kPS2C_OSXVersionNotify => { s with osxVersion := 0 }
  | n =>
    match extFunction n with
    | some i =>
      s |> ProcessKeyCombinations w (s.fx i) true true |> ProcessKeyCombinations w (s.fx i) false true
    | none => s.gesture w n

/-- The data of a notification; a version number is sent in the same way. -/
def receiveTouchpadNotifications (data : UInt32) (s : Keyboard) : Keyboard :=
  let s := s.receiveHeader w data
  match PS2Notification.ofData data with
  | some n => s.handleNotification w n
  | none => s

/-! What a notification changes. -/

theorem control_initBackLight (s : Keyboard) : (s.initBackLight w).control = s.control := by
  have hlevel : ∀ s : Keyboard, (s.readBackLightLvl w |>.setAsusKBlight w 0xEA).control = s.control := by
    intro s
    rw [control_setAsusKBlight, control_readBackLightLvl]
  have hoff : PS2Notification.kPS2C_KeybrdBackLightOff ∉ controlNotifications := by decide
  unfold initBackLight
  dsimp only
  rw [control_when (control_tell hoff)]
  split
  · rw [control_setAsusKBlight]
    split
    · exact hlevel s
    · exact hlevel s
  · rw [control_readBackLightLvl]
    exact hlevel s

theorem control_backLightOn (s : Keyboard) : (s.backLightOn w).control = s.control := by
  have hon : PS2Notification.kPS2C_KeybrdBackLightToggleOn ∉ controlNotifications := by decide
  have hlast : ∀ s : Keyboard,
      ((s.setAsusKBlight w 0xEA).notify .kPS2C_KeybrdBackLightToggleOn).control = s.control := by
    intro s
    rw [control_tell hon, control_setAsusKBlight]
  unfold backLightOn
  dsimp only
  split
  · rw [control_when hlast, control_readBackLightLvl, control_readAsusKBlight]
  · exact control_readAsusKBlight w _ s

theorem control_handleNotification {n : PS2Notification} (hn : n ≠ .kPS2C_EnableTouchpad) (s : Keyboard) :
    (s.handleNotification w n).control = s.control := by
  have hoff : PS2Notification.kPS2C_KeybrdBackLightToggleOff ∉ controlNotifications := by decide
  have hblank : ∀ s : Keyboard,
      ((s.setAsusKBlight w 0xED).notify .kPS2C_KeybrdBackLightToggleOff).control = s.control := by
    intro s
    rw [control_tell hoff, control_setAsusKBlight]
  unfold handleNotification
  split
  case h_1 => exact control_processFnKeys_up w _ s
  case h_2 => exact control_processFnKeys_up w _ s
  case h_3 =>
    dsimp only
    rw [control_dispatch, control_readKeyboardModifiers]
  case h_4 =>
    dsimp only
    rw [control_releaseKey, control_dispatch, control_readKeyboardModifiers]
  case h_5 => rfl
  case h_6 => rfl
  case h_7 => exact control_when (control_initBackLight w) _ s
  case h_8 => exact control_when hblank _ s
  case h_9 => exact control_when (control_backLightOn w) _ s
  case h_10 => exact absurd rfl hn
  case h_11 => rfl
  case h_12 =>
    split
    · rw [control_ProcessKeyCombinations, control_ProcessKeyCombinations]
    · exact control_gesture w n s

theorem control_receiveTouchpadNotifications {data : UInt32}
    (hdata : PS2Notification.ofData data ≠ some .kPS2C_EnableTouchpad) (s : Keyboard) :
    (s.receiveTouchpadNotifications w data).control = s.control := by
  unfold receiveTouchpadNotifications
  cases hn : PS2Notification.ofData data with
  | none => exact control_receiveHeader w data s
  | some n =>
    have hne : n ≠ .kPS2C_EnableTouchpad := fun h => hdata (h ▸ hn)
    exact (control_handleNotification w hne _).trans (control_receiveHeader w data s)

theorem control_receiveEnableTouchpad {data : UInt32}
    (hdata : PS2Notification.ofData data = some .kPS2C_EnableTouchpad) (s : Keyboard) :
    (s.receiveTouchpadNotifications w data).control = { s.control with isTPadEnabled := true } := by
  have hheader := control_receiveHeader w data s
  unfold receiveTouchpadNotifications
  rw [hdata]
  show { (s.receiveHeader w data).control with isTPadEnabled := true } = _
  rw [hheader]

end ApplePS2.Keyboard
