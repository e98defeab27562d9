import ApplePS2.Touchpad.Delivery
import ApplePS2.Touchpad.Notifications
import ApplePS2.Touchpad.Timers
import ApplePS2.Transition

/- Buttons while the touchpad is off: from a packet that is discarded because of an
   external mouse, the Fn keys, the lid, accidental input or a notification, until the
   next packet that is processed.

   1. `lastMask_turnedAway`, `lastMask_receive`: what becomes of the last mask.
   2. `unheld_iff`: in every state of a run no button is held while the touchpad is off just
      when it was released before the first packet that is discarded, and afterwards nothing
      shows the button's state again. -/
namespace ApplePS2

open Transition

/-- What becomes of the packet that ends with a byte, if it ends one. -/
inductive Fate where
  | kept | turnedAway | processed
  deriving DecidableEq, Repr

namespace Touchpad

variable {G : Gestures} {w : TouchpadWorld}

/-- A packet is turned away if it is neither a duplicate nor passed on. -/
def fate (w : TouchpadWorld) (data : UInt8) (s : Touchpad) : Fate :=
  match (s.store data).framed with
  | .complete _ =>
    let s := (s.store data).takeBytes
    if s.countDuplicate.endPacketsCount > 1 then .kept
    else if (s.passedOn w).isSome then .processed
    else .turnedAway
  | _ => .kept

theorem passedOn_duplicate {s : Touchpad} (h : s.countDuplicate.endPacketsCount > 1) : s.passedOn w = none := by
  unfold passedOn
  dsimp only
  rw [if_pos h]

/-- A byte that no packet is processed for sends no mask. -/
theorem lastMask_unprocessed {data : UInt8} {s : Touchpad} (h : s.fate w data ≠ .processed) :
    (s.interruptOccurred G w data).lastMask = s.lastMask := by
  unfold fate at h
  unfold interruptOccurred
  dsimp only
  cases hframed : (s.store data).framed with
  | waiting => rfl
  | reset => exact lastMask_Reconnect_touchpad (s.store data)
  | invalid => rfl
  | complete bytes =>
    rw [hframed] at h
    dsimp only at h ⊢
    have hnone : (s.store data).takeBytes.passedOn w = none := by
      split at h
      · next hduplicate => exact passedOn_duplicate hduplicate
      · split at h
        · exact absurd rfl h
        · next hpassed => exact Option.not_isSome_iff_eq_none.1 hpassed
    exact (receivePacket_none (G := G) hnone).same lastMask fun _ => rfl

/-- The notification toggles a feature, which is shown with the state of the buttons. -/
def showsButton (n : PS2Notification) : Bool :=
  n ∈ [.kPS2C_ScrollLock_Auto, .kPS2C_ScrollLock_Inertia, .kPS2C_ScrollLock_Continuous, .kPS2C_EdgeScroll,
    .kPS2C_Gestures_1FSwipes, .kPS2C_Gestures_3FSwipes, .kPS2C_Gestures_4FSwipes, .kPS2C_Gestures_Rotate,
    .kPS2C_Gestures_Zoom, .kPS2C_Gestures_DoubleTaps]

theorem lastMask_escape {s : Touchpad} (h : s.lastMask = 0) (now : UInt64) : (s.escape now).lastMask = 0 := by
  have hkey : ∀ t : Touchpad, t.clearToggleKey.lastMask = t.lastMask := by
    intro t
    unfold clearToggleKey
    split <;> rfl
  have hdrag : ∀ t : Touchpad, t.lastMask = 0 → t.releaseDrag.lastMask = 0 := by
    intro t ht
    unfold releaseDrag
    split
    · exact lastMask_pointer 0 0 0 t
    · exact ht
  have hstart : ({ s with swipe.isInFullScreen := false, tap.count := 0 } : Touchpad).lastMask = 0 := h
  exact (lastMask_releaseAppSwitch _).2.trans (hdrag _ ((hkey _).trans hstart))

theorem lastMask_restoreTouchpad (s : Touchpad) : (s.restoreTouchpad w).lastMask = s.lastMask := by
  have hconnected := lastMask_Reconnect_touchpad (w := w) s
  unfold restoreTouchpad
  generalize (s.Reconnect_touchpad w).2 = t at hconnected ⊢
  exact (lastMask_send _ _).trans hconnected

/-- A notification leaves no mask behind, if it does not show one. -/
theorem lastMask_receive {s : Touchpad} (h : s.lastMask = 0) (n : PS2Notification) :
    (s.receiveKeyboardNotifications w n).lastMask = if showsButton n then s.button.state else 0 := by
  have hsend : ∀ (data : UInt32) (t : Touchpad), (t.send (.dispatchPS2Notification data)).lastMask = t.lastMask :=
    fun data t => lastMask_send (.dispatchPS2Notification data) t
  have hshow : ∀ (on : Bool) (t : Touchpad), (t.showToggled on).lastMask = t.button.state := fun on t =>
    lastMask_pointer 0 _ _ t
  cases n with
  | kPS2C_ESC => exact lastMask_escape h _
  | kPS2C_DoContextMenu => exact lastMask_pointer 0 0 0 _
  | kPS2C_RestoreTouchpad => exact (lastMask_restoreTouchpad s).trans h
  | kPS2C_KeybrdBackLightOff => exact (lastMask_backLightOff s).trans h
  | kPS2C_KeybrdBackLightOn => exact (lastMask_backLightOn _ s).trans h
  | kPS2C_OSXVersionNotify => exact ((hsend _ _).trans (hsend _ s)).trans h
  | kPS2C_ScrollLock_Auto => exact hshow _ _
  | kPS2C_ScrollLock_Inertia => exact hshow _ _
  | kPS2C_ScrollLock_Continuous => exact hshow _ _
  | kPS2C_EdgeScroll => exact hshow _ _
  | kPS2C_Gestures_1FSwipes => exact hshow _ _
  | kPS2C_Gestures_3FSwipes => exact hshow _ _
  | kPS2C_Gestures_4FSwipes => exact hshow _ _
  | kPS2C_Gestures_Rotate => exact hshow _ _
  | kPS2C_Gestures_Zoom => exact hshow _ _
  | kPS2C_Gestures_DoubleTaps => exact hshow _ _
  | _ => exact h

theorem lastMask_power (whatToDo : PowerControl) (s : Touchpad) :
    (s.setDevicePowerState w whatToDo).lastMask = s.lastMask := by
  cases whatToDo with
  | kPS2C_DisableDevice =>
    have htalked : Detected w s (s.Enable_touchpad w false) := (talked_disable s).detected
    exact lastMask_sent (fun m hm => TouchpadSent.request_buttonState hm) htalked.sent
  | kPS2C_EnableDevice => exact lastMask_Reconnect_touchpad _

end Touchpad

/-! Runs. -/

/-- A byte comes with what the gestures leave in their variables if it ends a packet that is processed. -/
inductive WatchedEvent where
  | interruptOccurred (w : TouchpadWorld) (data : UInt8) (after : TapVars)
  | receiveKeyboardNotifications (w : TouchpadWorld) (n : PS2Notification)
  | setDevicePowerState (w : TouchpadWorld) (whatToDo : PowerControl)
  | expire (w : TouchpadWorld) (inertia : Inertia) (t : Timer)

/-- Whether a packet has been turned away, and none has been processed since. -/
structure Watched where
  driver : TapDriver
  off : Bool

namespace Watched

def interruptOccurred (G : Gestures) (w : TouchpadWorld) (data : UInt8) (after : TapVars) (d : Watched) : Watched :=
  let touchpad := d.driver.touchpad.interruptOccurred G w data
  match d.driver.touchpad.fate w data with
  | .kept => { d with driver.touchpad := touchpad }
  | .turnedAway => { d with driver.touchpad := touchpad, off := true }
  | .processed => { driver := { taps := after, touchpad }, off := false }

def step (G : Gestures) (d : Watched) : WatchedEvent → Watched
  | .interruptOccurred w data after => d.interruptOccurred G w data after
  | .receiveKeyboardNotifications w n =>
    { d with driver.touchpad := d.driver.touchpad.receiveKeyboardNotifications w n }
  | .setDevicePowerState w whatToDo => { d with driver.touchpad := d.driver.touchpad.setDevicePowerState w whatToDo }
  | .expire w inertia t => { d with driver := d.driver.expire w inertia t }

/-- No button is held while the touchpad is off. -/
def Unheld (d : Watched) : Prop := d.off = true → d.driver.lastMask = 0

/-- The button was released while the touchpad was still in use, before its first packet is turned away. Of the
packets after it nothing is asked. While the touchpad is off no notification shows a button, and no timer disturbs. -/
def Harmless (d : Watched) : WatchedEvent → Prop
  | .interruptOccurred w data _ =>
    d.off = false → d.driver.touchpad.fate w data = .turnedAway → d.driver.lastMask = 0
  | .receiveKeyboardNotifications _ n =>
    d.off = true → Touchpad.showsButton n = true → d.driver.touchpad.button.state = 0
  | .setDevicePowerState _ _ => True
  | .expire w _ t => d.off = true → d.driver.disturbs w t = false

variable {G : Gestures} {w : TouchpadWorld}

theorem unheld_interruptOccurred {data : UInt8} {after : TapVars} {d : Watched} (h : Unheld d) :
    Unheld (d.interruptOccurred G w data after) ↔ Harmless d (.interruptOccurred w data after) := by
  have hmask := @Touchpad.lastMask_unprocessed G w data d.driver.touchpad
  unfold Unheld Harmless interruptOccurred
  dsimp only
  cases hfate : d.driver.touchpad.fate w data with
  | kept =>
    have hsame := hmask (by rw [hfate]; decide)
    exact iff_of_true (fun hoff => hsame.trans (h hoff)) fun _ hfalse => absurd hfalse (by decide)
  | turnedAway =>
    have hsame := hmask (by rw [hfate]; decide)
    refine ⟨fun hheld _ _ => hsame.symm.trans (hheld rfl), fun hheld _ => hsame.trans ?_⟩
    -- the first packet finds the button released, the others what the packets before them have left
    cases hoff : d.off with
    | false => exact hheld hoff rfl
    | true => exact h hoff
  | processed => exact iff_of_true (fun hoff => absurd hoff Bool.false_ne_true) fun _ hfalse => absurd hfalse (by decide)

theorem unheld_step {d : Watched} (h : Unheld d) (e : WatchedEvent) : Unheld (d.step G e) ↔ Harmless d e := by
  cases e with
  | interruptOccurred w data after => exact unheld_interruptOccurred h
  | receiveKeyboardNotifications w n =>
    refine forall_congr' fun hoff => ?_
    have hmask := Touchpad.lastMask_receive (w := w) (h hoff) n
    show (d.driver.touchpad.receiveKeyboardNotifications w n).lastMask = 0 ↔ _
    rw [hmask]
    cases Touchpad.showsButton n <;> simp
  | setDevicePowerState w whatToDo =>
    exact iff_of_true (fun hoff => (Touchpad.lastMask_power whatToDo _).trans (h hoff)) trivial
  | expire w inertia t =>
    refine forall_congr' fun hoff => ?_
    exact TapDriver.lastMask_expire (h hoff) t

/-- In every state of a run no button is held while the touchpad is off, just when every step is harmless. -/
theorem unheld_iff (G : Gestures) {d : Watched} (h : Unheld d) (es : List WatchedEvent) :
    (∀ p, p <+: es → Unheld (run (step G) p d)) ↔ ∀ p e, p ++ [e] <+: es → Harmless (run (step G) p d) e :=
  run_invariant_iff (I := Unheld) (C := Harmless) (fun _ e hd => unheld_step hd e) es h

/-- ELAN's version 4 after its setup; nothing has been tapped yet. -/
def start : Watched :=
  { driver :=
      { taps := default
        touchpad := { Touchpad.init with touchpadVendor := .STD_ELAN_TECH, hwVersion := STD_ELAN_HW_V4, pktsize := 6 } }
    off := false }

/-- The bytes of a packet. -/
def packet (bytes : List UInt8) : List WatchedEvent := bytes.map fun data => .interruptOccurred .silent data default

/-- The touchpad is disabled, and the bytes of a packet are gathered but the last one. -/
def disabled : Watched :=
  { start with
    driver.touchpad.kbEvent.disableTouchpad := true, driver.touchpad.packetByteCount := 5
    driver.touchpad.packetBuffer := fun i => if i = 0 then 0x34 else if i = 3 then 0x10 else 0x00 }

theorem unheld_disabled :
    Unheld (run (step .idle) [WatchedEvent.interruptOccurred .silent 0x01 default] disabled) := by
  refine (unheld_iff .idle (fun hoff => absurd hoff Bool.false_ne_true) _).mpr ?_ _ (List.prefix_refl _)
  intro p e hp
  obtain ⟨rest, hrest⟩ := hp
  cases p with
  | cons e' p => simp at hrest
  | nil =>
    obtain ⟨rfl, -⟩ := List.cons.inj hrest
    intro _ _
    show disabled.driver.lastMask = 0
    decide

/-- The left button is pressed, the touchpad is disabled, and the packet of the release is turned away. -/
def pressedAndDisabled : List WatchedEvent :=
  packet [0x35, 0x00, 0x00, 0x10, 0x00, 0x00] ++ [.receiveKeyboardNotifications .silent .kPS2C_DisableTouchpad] ++
    packet [0x34, 0x00, 0x00, 0x10, 0x00, 0x00]

theorem held_disabled :
    ¬ ∀ (G : Gestures) (d : Watched), Unheld d → ∀ es : List WatchedEvent,
      ∀ p, p <+: es → Unheld (run (step G) p d) := by
  intro h
  have hafter : (run (step .idle) pressedAndDisabled start).off = true ∧
      (run (step .idle) pressedAndDisabled start).driver.lastMask = 1 := by decide +kernel
  have hheld := h .idle start (fun hoff => absurd hoff Bool.false_ne_true) pressedAndDisabled _ (List.prefix_refl _)
  have hzero := hheld hafter.1
  rw [hafter.2] at hzero
  exact absurd hzero (by decide)

end Watched

end ApplePS2
