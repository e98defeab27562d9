import ApplePS2.Keyboard.Notifications
import ApplePS2.Keyboard.PowerState
import ApplePS2.Keyboard.TouchpadKey
import ApplePS2.Touchpad.Event

/- The two drivers side by side. Each has a flag for whether the touchpad is in use,
   `isTPadEnabled` and `_kbEvent.disableTouchpad`, and they keep them in step by
   notifications.

   1. `settled_deliver`: to deliver a notification does not change what the flags come to.
   2. `flags_agree`: the flags agree in every state without notifications on their way,
      and the touchpad key inverts both, when the touchpad is never woken while it is disabled.
   3. `flags_apart`: the touchpad is disabled by its key and woken. -/
namespace ApplePS2

/-- A notification on its way. -/
inductive Message where
  | toTouchpad (n : PS2Notification)
  | toKeyboard (data : UInt32)
  deriving DecidableEq

/-- What was sent last is delivered first: the handler of the other driver is called by the sender. -/
structure Drivers where
  keyboard : KeyboardDriver
  touchpad : Touchpad
  pending : List Message

/-- Something happens to a driver, or the next notification is handled by the driver it is sent to. -/
inductive DriversEvent where
  | keyboardByte (w : World) (scanCode : UInt8)
  | keyboardPower (w : World) (whatToDo : PowerControl)
  | touchpadByte (w : TouchpadWorld) (data : UInt8)
  | touchpadPower (w : TouchpadWorld) (whatToDo : PowerControl)
  | deliver (w : World) (w' : TouchpadWorld)

namespace Drivers

/-- Each step of a driver has a log of its own. -/
def keyboardStep (f : KeyboardDriver → KeyboardDriver) (d : Drivers) : Drivers :=
  let k := f { d.keyboard with keyboard.log := [] }
  { d with keyboard := k, pending := k.keyboard.notifications.map .toTouchpad ++ d.pending }

def touchpadStep (f : Touchpad → Touchpad) (d : Drivers) : Drivers :=
  let t := f { d.touchpad with log := [] }
  { d with touchpad := t, pending := t.notified.map .toKeyboard ++ d.pending }

def handle (w : World) (w' : TouchpadWorld) (m : Message) (d : Drivers) : Drivers :=
  match m with
  | .toTouchpad n => d.touchpadStep (Touchpad.receiveKeyboardNotifications w' n)
  | .toKeyboard data =>
    d.keyboardStep fun k => { k with keyboard := k.keyboard.receiveTouchpadNotifications w data }

/-- Nothing else happens while notifications are on their way. -/
def step (G : Gestures) (d : Drivers) (e : DriversEvent) : Option Drivers :=
  match d.pending, e with
  | m :: ms, .deliver w w' => some ({ d with pending := ms }.handle w w' m)
  | _ :: _, _ => none
  | [], .deliver _ _ => none
  | [], .keyboardByte w scanCode => some (d.keyboardStep (KeyboardDriver.interruptOccurred w scanCode))
  | [], .keyboardPower w whatToDo => some (d.keyboardStep (KeyboardDriver.setDevicePowerState w whatToDo))
  | [], .touchpadByte w data => some (d.touchpadStep (Touchpad.interruptOccurred G w data))
  | [], .touchpadPower w whatToDo => some (d.touchpadStep (Touchpad.setDevicePowerState w whatToDo))

end Drivers

/-! The flags. -/

structure Flags where
  isTPadEnabled : Bool
  disableTouchpad : Bool
  deriving DecidableEq

def Flags.agree (f : Flags) : Prop := f.isTPadEnabled = !f.disableTouchpad

/-- What a notification makes of them, with those that it is answered by. -/
def Message.effect (f : Flags) : Message → Flags
  | .toTouchpad .kPS2C_EnableTouchpad => { f with disableTouchpad := false }
  | .toTouchpad .kPS2C_DisableTouchpad => { f with disableTouchpad := true }
  | .toTouchpad .kPS2C_RestoreTouchpad => ⟨true, false⟩
  | .toTouchpad _ => f
  | .toKeyboard data =>
    { f with isTPadEnabled := f.isTPadEnabled || PS2Notification.ofData data = some .kPS2C_EnableTouchpad }

namespace Drivers

def flags (d : Drivers) : Flags := ⟨d.keyboard.keyboard.isTPadEnabled, d.touchpad.kbEvent.disableTouchpad⟩

/-- The flags once all notifications are delivered. -/
def settled (d : Drivers) : Flags := d.pending.foldl Message.effect d.flags

/-! Notifications of the keyboard. -/

/-- Only the notifications about the touchpad matter. -/
theorem effect_told (ns : List PS2Notification) (f : Flags) :
    (ns.map Message.toTouchpad).foldl Message.effect f =
      ((ns.filter (· ∈ Keyboard.tpadNotifications)).map Message.toTouchpad).foldl Message.effect f := by
  induction ns generalizing f with
  | nil => rfl
  | cons n ns ih =>
    by_cases hn : n ∈ Keyboard.tpadNotifications
    · rw [List.filter_cons_of_pos (by simpa using hn)]
      exact ih _
    · have hsame : Message.effect f (.toTouchpad n) = f := by
        cases n with
        | kPS2C_EnableTouchpad => exact absurd (by decide) hn
        | kPS2C_DisableTouchpad => exact absurd (by decide) hn
        | kPS2C_RestoreTouchpad => exact absurd (by decide) hn
        | _ => rfl
      rw [List.filter_cons_of_neg (by simpa using hn)]
      show (ns.map Message.toTouchpad).foldl Message.effect (Message.effect f (.toTouchpad n)) = _
      rw [hsame]
      exact ih _

theorem told_eq (s : Keyboard) :
    s.control.tpad.told = s.notifications.filter (· ∈ Keyboard.tpadNotifications) := by
  have hlist : ∀ n ∈ Keyboard.tpadNotifications, n ∈ controlNotifications := by decide
  show (s.notifications.filter (· ∈ controlNotifications)).filter (· ∈ Keyboard.tpadNotifications) = _
  rw [List.filter_filter]
  apply List.filter_congr
  intro n _
  by_cases hn : n ∈ Keyboard.tpadNotifications
  · simp [hn, hlist n hn]
  · simp [hn]

/-- What a step of the keyboard comes to. -/
theorem settled_keyboardStep {f : KeyboardDriver → KeyboardDriver} {d : Drivers} {p : Keyboard.TPad}
    (h : (f { d.keyboard with keyboard.log := [] }).keyboard.control.tpad = p) :
    (d.keyboardStep f).settled = d.pending.foldl Message.effect
      ((p.told.map Message.toTouchpad).foldl Message.effect ⟨p.isTPadEnabled, d.touchpad.kbEvent.disableTouchpad⟩) := by
  rw [← h, told_eq, ← effect_told, ← List.foldl_append]
  rfl

/-- Nothing is pending that asks the touchpad for the version. -/
def Plain (ms : List Message) : Prop := .toTouchpad .kPS2C_OSXVersionNotify ∉ ms

theorem plain_told {s : Keyboard} (h : .kPS2C_OSXVersionNotify ∉ s.control.tpad.told) :
    Plain (s.notifications.map Message.toTouchpad) := by
  intro hm
  obtain ⟨n, hn, heq⟩ := List.mem_map.1 hm
  cases heq
  rw [told_eq] at h
  exact h (List.mem_filter.2 ⟨hn, by decide⟩)

/-- The flags will agree. -/
structure Settling (d : Drivers) : Prop where
  agree : d.settled.agree
  plain : Plain d.pending

theorem Plain.append {ms ms' : List Message} (h : Plain ms) (h' : Plain ms') : Plain (ms ++ ms') := by
  intro hm
  rcases List.mem_append.1 hm with hm | hm
  · exact h hm
  · exact h' hm

theorem plain_toKeyboard (ns : List UInt32) : Plain (ns.map Message.toKeyboard) := by
  intro hm
  obtain ⟨n, _, heq⟩ := List.mem_map.1 hm
  cases heq

/-- An event of the keyboard. -/
theorem agree_effect {p p' : Keyboard.TPad} {disabled : Bool} (h : Keyboard.TPadEffect p p') (hp : p.told = [])
    (hagree : Flags.agree ⟨p.isTPadEnabled, disabled⟩) :
    Flags.agree ((p'.told.map Message.toTouchpad).foldl Message.effect ⟨p'.isTPadEnabled, disabled⟩) ∧
      .kPS2C_OSXVersionNotify ∉ p'.told := by
  obtain ⟨enabled, told⟩ := p
  obtain rfl : told = [] := hp
  cases h with
  | none => exact ⟨hagree, List.not_mem_nil⟩
  | toggle => cases enabled <;> exact ⟨rfl, by decide⟩
  | restore => exact ⟨rfl, by cases enabled <;> decide⟩
  | enabled hon =>
    obtain rfl : enabled = true := hon
    exact ⟨rfl, by decide⟩

theorem settling_keyboardStep {f : KeyboardDriver → KeyboardDriver} {d : Drivers} (hd : Settling d)
    (hpending : d.pending = []) (h : Keyboard.TPadEffect ⟨d.keyboard.keyboard.isTPadEnabled, []⟩
      (f { d.keyboard with keyboard.log := [] }).keyboard.control.tpad) : Settling (d.keyboardStep f) := by
  have hflags : d.flags.agree := by
    have hagree := hd.agree
    unfold settled at hagree
    rwa [hpending] at hagree
  obtain ⟨hagree, hversion⟩ := agree_effect h rfl hflags
  refine ⟨?_, ?_⟩
  · rw [settled_keyboardStep rfl, hpending]
    exact hagree
  · exact (plain_told hversion).append hd.plain

/-! What the keyboard does. -/

theorem tpadEffect_interruptOccurred (w : World) (scanCode : UInt8) (k : KeyboardDriver) :
    Keyboard.TPadEffect k.keyboard.control.tpad (k.interruptOccurred w scanCode).keyboard.control.tpad := by
  unfold KeyboardDriver.interruptOccurred
  split
  · exact .none
  · exact Keyboard.tpad_event _ _

theorem tpad_send {m : Sent} (hm : m.notification = none) (s : Keyboard) :
    (s.send m).control.tpad = s.control.tpad := congrArg Keyboard.Control.tpad (Keyboard.control_send hm s)

theorem tpad_setDevicePowerState (w : World) (whatToDo : PowerControl) (k : KeyboardDriver) :
    (k.setDevicePowerState w whatToDo).keyboard.control.tpad = k.keyboard.control.tpad := by
  cases whatToDo with
  | kPS2C_DisableDevice => exact tpad_send rfl _
  | kPS2C_EnableDevice =>
    unfold KeyboardDriver.setDevicePowerState
    dsimp only
    rw [KeyboardDriver.releaseDown_none _ (fun _ => rfl), tpad_send rfl, tpad_send rfl]
    exact tpad_send rfl _

/-- A notification of the touchpad: the flag may be set, and nothing is told. -/
theorem tpad_receive (w : World) (data : UInt32) (s : Keyboard) :
    (s.receiveTouchpadNotifications w data).control.tpad =
      { s.control.tpad with isTPadEnabled :=
          s.isTPadEnabled || PS2Notification.ofData data = some .kPS2C_EnableTouchpad } := by
  by_cases hdata : PS2Notification.ofData data = some .kPS2C_EnableTouchpad
  · rw [Keyboard.control_receiveEnableTouchpad w hdata]
    simp only [hdata, decide_true, Bool.or_true]
    rfl
  · rw [Keyboard.control_receiveTouchpadNotifications w hdata]
    simp only [hdata, decide_false, Bool.or_false]
    rfl

/-! What the touchpad does. -/

/-- What a step of the touchpad comes to. -/
theorem settled_touchpadStep {f : Touchpad → Touchpad} {d : Drivers} {c : Shared}
    (h : (f { d.touchpad with log := [] }).shared = c) :
    (d.touchpadStep f).settled = d.pending.foldl Message.effect
      ((c.notified.map Message.toKeyboard).foldl Message.effect
        ⟨d.keyboard.keyboard.isTPadEnabled, c.disableTouchpad⟩) := by
  rw [← h, ← List.foldl_append]
  rfl

/-- While the keyboard takes the touchpad for enabled no notification changes that. -/
theorem effect_enabled (ns : List UInt32) (disabled : Bool) :
    (ns.map Message.toKeyboard).foldl Message.effect ⟨true, disabled⟩ = ⟨true, disabled⟩ := by
  induction ns with
  | nil => rfl
  | cons n ns ih => exact ih

/-- What a notification of the keyboard comes to, with the answers to it. -/
theorem effect_receive {n : PS2Notification} (hn : n ≠ .kPS2C_OSXVersionNotify) (appSwitch : Bool)
    (osxVersion : UInt8) (enabled disabled press : Bool) :
    let c := Shared.receive n appSwitch osxVersion ⟨disabled, press, []⟩
    (c.notified.map Message.toKeyboard).foldl Message.effect ⟨enabled, c.disableTouchpad⟩ =
      Message.effect ⟨enabled, disabled⟩ (.toTouchpad n) := by
  cases n with
  | kPS2C_RestoreTouchpad => cases enabled <;> rfl
  | kPS2C_ESC => cases appSwitch <;> cases enabled <;> rfl
  | kPS2C_OSXVersionNotify => exact absurd rfl hn
  | _ => rfl

end Drivers

namespace Touchpad

variable {G : Gestures} {w : TouchpadWorld}

theorem log_pollACPI (s : Touchpad) : (s.pollACPI w).log = s.log := by
  have hwhen : ∀ {f : Touchpad → Touchpad} (c : Bool) (s : Touchpad), (f s).log = s.log → (s.when c f).log = s.log := by
    intro f c s h
    cases c with
    | true => exact h
    | false => rfl
  have hkeys : ∀ s : Touchpad, (s.pollFnKeys w).log = s.log := by
    intro s
    unfold pollFnKeys
    split
    · rfl
    · exact hwhen _ _ rfl
  have hlid : ∀ s : Touchpad, (s.pollLid w).log = s.log := by
    intro s
    unfold pollLid
    split
    · rfl
    · rfl
    · exact hwhen _ _ rfl
  refine hwhen _ _ ?_
  unfold Process_ACPI_IOREG_Polling
  exact (hwhen _ _ (hlid _)).trans (hwhen _ _ (hkeys s))

theorem Linked.disableTouchpad {s t : Touchpad} (h : Linked s t) :
    t.kbEvent.disableTouchpad = s.kbEvent.disableTouchpad := congrArg Link.disableTouchpad h.link

/-- A packet does not disable the touchpad, or enable it. -/
theorem disableTouchpad_receivePacket (s : Touchpad) :
    (s.receivePacket G w).kbEvent.disableTouchpad = s.kbEvent.disableTouchpad := by
  have hpassed := passed_receivePacket (G := G) (w := w) s
  generalize s.receivePacket G w = t at hpassed ⊢
  cases hpassed with
  | linked h => exact h.disableTouchpad
  | @reconnect t h =>
    have hshared : (t.reconnectTry w).shared = t.shared := by
      unfold reconnectTry
      split
      · exact shared_Reconnect_touchpad _
      · rfl
    exact (congrArg Shared.disableTouchpad hshared).trans h.disableTouchpad
  | realigned _ _ h => exact h.disableTouchpad

theorem disableTouchpad_interruptOccurred (data : UInt8) (s : Touchpad) :
    (s.interruptOccurred G w data).kbEvent.disableTouchpad = s.kbEvent.disableTouchpad := by
  unfold interruptOccurred
  dsimp only
  split
  · rfl
  · exact congrArg Shared.disableTouchpad (shared_Reconnect_touchpad (w := w) (s.store data))
  · rfl
  · exact disableTouchpad_receivePacket _

/-- While the touchpad is disabled no packet is passed on. -/
theorem log_receivePacket {s : Touchpad} (h : s.kbEvent.disableTouchpad = true) :
    (s.receivePacket G w).log = s.log := by
  have hmouse : ∀ s : Touchpad, (s.pollMouse w).log = s.log ∧ Linked s (s.pollMouse w) := by
    intro s
    unfold pollMouse when
    split
    · exact ⟨rfl, .same rfl rfl⟩
    · exact ⟨rfl, .refl s⟩
  have hpass : ∀ s : Touchpad, s.kbEvent.disableTouchpad = true → (s.passPacket G w).log = s.log := by
    intro s hs
    have htimeout : (s.accidentalTimeout w).log = s.log ∧ Linked s (s.accidentalTimeout w) := by
      unfold accidentalTimeout when
      split
      · exact ⟨rfl, .same rfl rfl⟩
      · exact ⟨rfl, .refl s⟩
    have hdisabled : (s.accidentalTimeout w).isDisabled = true := by
      simp [isDisabled, htimeout.2.disableTouchpad, hs]
    unfold passPacket
    dsimp only
    rw [if_pos hdisabled]
    exact htimeout.1
  have hduplicate : Linked s s.countDuplicate := .same rfl rfl
  have hpolled := (hmouse s.countDuplicate).2.trans (linked_pollACPI (w := w) _)
  unfold receivePacket
  dsimp only
  repeat' split
  · rfl
  · exact (hmouse _).1
  · exact (log_pollACPI _).trans (hmouse _).1
  · refine (hpass _ ?_).trans ((log_pollACPI _).trans (hmouse _).1)
    exact hpolled.disableTouchpad.trans (hduplicate.disableTouchpad.trans h)

theorem notified_interruptOccurred {s : Touchpad} (h : s.kbEvent.disableTouchpad = true) (data : UInt8) :
    (s.interruptOccurred G w data).notified = s.notified := by
  unfold interruptOccurred
  dsimp only
  split
  · rfl
  · exact congrArg Shared.notified (shared_Reconnect_touchpad (w := w) (s.store data))
  · rfl
  · exact congrArg (List.filterMap TouchpadSent.notification) (log_receivePacket (s := (s.store data).takeBytes) h)

end Touchpad

namespace Drivers

variable {G : Gestures}

/-! Steps of both. -/

/-- To deliver a notification does not change what the flags come to. -/
theorem settled_deliver (w : World) (w' : TouchpadWorld) (m : Message) (d : Drivers)
    (hm : m ≠ .toTouchpad .kPS2C_OSXVersionNotify) :
    (d.handle w w' m).settled = d.pending.foldl Message.effect (m.effect d.flags) := by
  cases m with
  | toTouchpad n =>
    have hn : n ≠ .kPS2C_OSXVersionNotify := fun h => hm (h ▸ rfl)
    have hreceive := Touchpad.shared_receive (w := w') n { d.touchpad with log := [] }
    exact (settled_touchpadStep hreceive).trans
      (congrArg (d.pending.foldl Message.effect) (effect_receive hn _ _ _ _ _))
  | toKeyboard data =>
    have hreceive := tpad_receive w data { d.keyboard.keyboard with log := [] }
    exact settled_keyboardStep (f := fun k =>
      { k with keyboard := k.keyboard.receiveTouchpadNotifications w data }) hreceive

theorem plain_handle {w : World} {w' : TouchpadWorld} {m : Message} {d : Drivers} (hd : Plain d.pending) :
    Plain (d.handle w w' m).pending := by
  cases m with
  | toTouchpad n => exact (plain_toKeyboard _).append hd
  | toKeyboard data =>
    have hreceive := tpad_receive w data { d.keyboard.keyboard with log := [] }
    refine (plain_told ?_).append hd
    rw [hreceive]
    exact List.not_mem_nil

theorem step_deliver {w : World} {w' : TouchpadWorld} {d d' : Drivers} (h : step G d (.deliver w w') = some d') :
    ∃ m ms, d.pending = m :: ms ∧ d' = { d with pending := ms }.handle w w' m := by
  unfold step at h
  cases hpending : d.pending with
  | nil =>
    rw [hpending] at h
    cases h
  | cons m ms =>
    rw [hpending] at h
    exact ⟨m, ms, rfl, (Option.some.inj h).symm⟩

theorem settling_deliver {w : World} {w' : TouchpadWorld} {m : Message} {ms : List Message} {d : Drivers}
    (hpending : d.pending = m :: ms) (hd : Settling d) : Settling ({ d with pending := ms }.handle w w' m) := by
  obtain ⟨hagree, hplain⟩ := hd
  rw [hpending] at hplain
  refine ⟨?_, plain_handle fun h => hplain (List.mem_cons_of_mem _ h)⟩
  rw [settled_deliver w w' m _ fun h => hplain (h ▸ List.mem_cons_self ..)]
  unfold settled at hagree
  rwa [hpending] at hagree

/-- The touchpad is not woken while it is disabled. -/
def wokenEnabled (d : Drivers) : DriversEvent → Bool
  | .touchpadPower _ .kPS2C_EnableDevice => !d.touchpad.kbEvent.disableTouchpad
  | _ => true

abbrev WokenEnabled (d : Drivers) (e : DriversEvent) : Prop := d.wokenEnabled e = true

theorem settling_touchpadStep {f : Touchpad → Touchpad} {d : Drivers} (hd : Settling d) (hpending : d.pending = [])
    (hdisabled : (f { d.touchpad with log := [] }).kbEvent.disableTouchpad = d.touchpad.kbEvent.disableTouchpad)
    (hnotified : d.touchpad.kbEvent.disableTouchpad = true → (f { d.touchpad with log := [] }).notified = []) :
    Settling (d.touchpadStep f) := by
  obtain ⟨hagree, hplain⟩ := hd
  refine ⟨?_, (plain_toKeyboard _).append hplain⟩
  unfold settled at hagree
  rw [hpending] at hagree
  have hagree : d.keyboard.keyboard.isTPadEnabled = !d.touchpad.kbEvent.disableTouchpad := hagree
  rw [settled_touchpadStep rfl, hpending]
  show Flags.agree (((f { d.touchpad with log := [] }).notified.map Message.toKeyboard).foldl Message.effect
    ⟨d.keyboard.keyboard.isTPadEnabled, (f { d.touchpad with log := [] }).kbEvent.disableTouchpad⟩)
  rw [hdisabled, hagree]
  cases h : d.touchpad.kbEvent.disableTouchpad with
  | true =>
    rw [hnotified h]
    rfl
  | false =>
    have henabled := effect_enabled (f { d.touchpad with log := [] }).notified false
    show Flags.agree (List.foldl Message.effect ⟨true, false⟩ _)
    rw [henabled]
    rfl

theorem settling_step {d d' : Drivers} {e : DriversEvent} (hd : Settling d) (he : WokenEnabled d e)
    (h : step G d e = some d') : Settling d' := by
  unfold step at h
  split at h
  · next m ms w w' hpending =>
    cases h
    exact settling_deliver hpending hd
  · cases h
  · cases h
  · next w scanCode hpending =>
    cases h
    refine settling_keyboardStep hd hpending ?_
    exact tpadEffect_interruptOccurred w scanCode { d.keyboard with keyboard.log := [] }
  · next w whatToDo hpending =>
    cases h
    refine settling_keyboardStep hd hpending ?_
    rw [tpad_setDevicePowerState]
    exact .none
  · next w data hpending =>
    cases h
    refine settling_touchpadStep hd hpending ?_ fun hdisabled => ?_
    · exact Touchpad.disableTouchpad_interruptOccurred data { d.touchpad with log := [] }
    · exact Touchpad.notified_interruptOccurred (s := { d.touchpad with log := [] }) hdisabled data
  · next w whatToDo hpending =>
    cases h
    have hpower := Touchpad.shared_power (w := w) whatToDo { d.touchpad with log := [] }
    cases whatToDo with
    | kPS2C_DisableDevice =>
      refine settling_touchpadStep hd hpending (congrArg Shared.disableTouchpad hpower) fun _ => ?_
      exact congrArg Shared.notified hpower
    | kPS2C_EnableDevice =>
      refine settling_touchpadStep hd hpending ?_ fun _ => congrArg Shared.notified hpower
      have he : (!d.touchpad.kbEvent.disableTouchpad) = true := he
      have henabled : d.touchpad.kbEvent.disableTouchpad = false := by simpa using he
      exact (congrArg Shared.disableTouchpad hpower).trans henabled.symm

/-! Runs. -/

/-- Both handlers installed, and the touchpad in use. -/
structure Started (d : Drivers) : Prop where
  isTPadEnabled : d.keyboard.keyboard.isTPadEnabled = true
  disableTouchpad : d.touchpad.kbEvent.disableTouchpad = false
  pending : d.pending = []

/-- A run of deliveries. -/
def Delivers (G : Gestures) : Drivers → Drivers → Prop :=
  Transition.Reaches (step G) fun _ e => ∃ w w', e = .deliver w w'

theorem Started.settling {d : Drivers} (h : Started d) : Settling d := by
  refine ⟨?_, ?_⟩
  · unfold settled flags
    rw [h.pending, h.isTPadEnabled, h.disableTouchpad]
    rfl
  · rw [h.pending]
    exact List.not_mem_nil

theorem settled_delivers {d d' : Drivers} (h : Delivers G d d') (hd : Plain d.pending) : d'.settled = d.settled := by
  have hall : Plain d'.pending ∧ d'.settled = d.settled := by
    apply h.invariant (fun d' => Plain d'.pending ∧ d'.settled = d.settled) ⟨hd, rfl⟩
    rintro t _ t' ⟨hplain, hsettled⟩ ⟨w, w', rfl⟩ hstep
    obtain ⟨m, ms, hpending, rfl⟩ := step_deliver hstep
    rw [hpending] at hplain
    refine ⟨plain_handle fun h => hplain (List.mem_cons_of_mem _ h), ?_⟩
    rw [settled_deliver _ _ m _ fun h => hplain (h ▸ List.mem_cons_self ..), ← hsettled]
    unfold settled
    rw [hpending]
    rfl
  exact hall.2

theorem settled_none {d : Drivers} (h : d.pending = []) : d.settled = d.flags := by
  unfold settled
  rw [h]
  rfl

/-- The press of a vendor's touchpad key. -/
def isTouchpadKey (e : ScanEvent) : Bool := e.extended && (e.keyCode = 0x32 || e.keyCode = 0x59) && e.goingDown

/-- The byte completes such a press. -/
def PressesTouchpadKey (d : Drivers) (scanCode : UInt8) : Prop :=
  ∃ e, (d.keyboard.scanner.interruptOccurred scanCode).2 = some e ∧ isTouchpadKey e = true

theorem settled_touchpadKey {w : World} {scanCode : UInt8} {d d' : Drivers} (hpending : d.pending = [])
    (hagree : d.flags.agree) (hkey : d.PressesTouchpadKey scanCode)
    (h : step G d (.keyboardByte w scanCode) = some d') :
    Plain d'.pending ∧ d'.settled.disableTouchpad = !d.touchpad.kbEvent.disableTouchpad := by
  obtain ⟨e, he, hpress⟩ := hkey
  simp only [isTouchpadKey, Bool.and_eq_true, Bool.or_eq_true, decide_eq_true_eq] at hpress
  obtain ⟨⟨hext, hcode⟩, hdown⟩ := hpress
  have hstep : d' = d.keyboardStep (KeyboardDriver.interruptOccurred w scanCode) := by
    unfold step at h
    rw [hpending] at h
    exact (Option.some.inj h).symm
  have htoggle : (KeyboardDriver.interruptOccurred w scanCode { d.keyboard with keyboard.log := [] }).keyboard.control.tpad =
      Keyboard.TPad.toggle ⟨d.keyboard.keyboard.isTPadEnabled, []⟩ := by
    unfold KeyboardDriver.interruptOccurred
    dsimp only
    generalize d.keyboard.scanner.interruptOccurred scanCode = r at he ⊢
    obtain ⟨scanner, event⟩ := r
    obtain rfl : event = some e := he
    exact Keyboard.tpad_touchpadKey hext hcode hdown _
  have hagree : d.keyboard.keyboard.isTPadEnabled = !d.touchpad.kbEvent.disableTouchpad := hagree
  rw [hagree] at htoggle
  rw [hstep, settled_keyboardStep htoggle, hpending]
  refine ⟨?_, ?_⟩
  · show Plain (_ ++ d.pending)
    rw [hpending, List.append_nil]
    apply plain_told
    rw [htoggle]
    cases d.touchpad.kbEvent.disableTouchpad <;> decide
  · cases d.touchpad.kbEvent.disableTouchpad <;> rfl

/-- When the touchpad is never woken while it is disabled the two flags agree whenever all
notifications are delivered, and one press of the touchpad key inverts the touchpad's. -/
theorem flags_agree (G : Gestures) {d₀ d : Drivers} (h₀ : Started d₀)
    (h : Transition.Reaches (step G) WokenEnabled d₀ d) (hpending : d.pending = []) :
    d.flags.agree ∧ ∀ w scanCode d₁ d₂, d.PressesTouchpadKey scanCode →
      step G d (.keyboardByte w scanCode) = some d₁ → Delivers G d₁ d₂ → d₂.pending = [] →
      d₂.touchpad.kbEvent.disableTouchpad = !d.touchpad.kbEvent.disableTouchpad := by
  have hsettling : Settling d :=
    h.invariant Settling h₀.settling fun _ _ _ hd he hstep => settling_step hd he hstep
  have hagree : d.flags.agree := settled_none hpending ▸ hsettling.agree
  refine ⟨hagree, fun w scanCode d₁ d₂ hkey hstep hdelivers hdone => ?_⟩
  obtain ⟨hplain, hinverted⟩ := settled_touchpadKey hpending hagree hkey hstep
  rw [← settled_delivers hdelivers hplain, settled_none hdone] at hinverted
  exact hinverted

/-- After any other wake the flags disagree. -/
theorem not_agree_woken {d d' : Drivers} {e : DriversEvent} (hagree : d.flags.agree) (he : ¬ WokenEnabled d e)
    (h : step G d e = some d') : d'.pending = [] ∧ ¬ d'.flags.agree := by
  unfold WokenEnabled wokenEnabled at he
  split at he
  · next w =>
    have hdisabled : d.touchpad.kbEvent.disableTouchpad = true := by simpa using he
    have hagree : d.keyboard.keyboard.isTPadEnabled = !d.touchpad.kbEvent.disableTouchpad := hagree
    unfold step at h
    cases hpending : d.pending with
    | cons m ms =>
      rw [hpending] at h
      cases h
    | nil =>
      rw [hpending] at h
      cases h
      have hpower := Touchpad.shared_power (w := w) .kPS2C_EnableDevice { d.touchpad with log := [] }
      have hnone : (d.touchpadStep (Touchpad.setDevicePowerState w .kPS2C_EnableDevice)).pending =
          ((Touchpad.setDevicePowerState w .kPS2C_EnableDevice { d.touchpad with log := [] }).notified.map
            Message.toKeyboard) ++ d.pending := rfl
      have hflags : (d.touchpadStep (Touchpad.setDevicePowerState w .kPS2C_EnableDevice)).flags = ⟨false, false⟩ := by
        show Flags.mk d.keyboard.keyboard.isTPadEnabled
          (Touchpad.setDevicePowerState w .kPS2C_EnableDevice { d.touchpad with log := [] }).shared.disableTouchpad = _
        rw [hpower, hagree, hdisabled]
        rfl
      refine ⟨?_, ?_⟩
      · rw [hnone, hpending, List.append_nil]
        exact congrArg (List.map Message.toKeyboard) (congrArg Shared.notified hpower)
      · rw [hflags]
        exact fun h => Bool.noConfusion h
  · exact absurd rfl he

/-- Both drivers after their start. -/
def started : Drivers :=
  { keyboard := { scanner := ⟨true, 0⟩, keyboard := Keyboard.afterStart }, touchpad := .init, pending := [] }

theorem started_started : Started started := ⟨rfl, rfl, rfl⟩

/-- A press of the touchpad key, and the delivery of what the keyboard says. -/
def pressTouchpadKey : List DriversEvent :=
  [.keyboardByte quietWorld 0xe0, .keyboardByte quietWorld 0x32, .deliver quietWorld .silent]

/-- Sleep and wake of the touchpad. -/
def touchpadSleepWake : List DriversEvent :=
  [.touchpadPower .silent .kPS2C_DisableDevice, .touchpadPower .silent .kPS2C_EnableDevice]

/-- The touchpad is disabled by its key. -/
theorem flags_agree_pressed : ∃ d, Transition.Reaches (step .idle) WokenEnabled started d ∧ d.pending = [] ∧
    d.touchpad.kbEvent.disableTouchpad = true ∧ d.flags.agree := by
  have hexec : (Transition.exec (step .idle) WokenEnabled started pressTouchpadKey).map
      (fun d => (d.pending, d.touchpad.kbEvent.disableTouchpad)) = some ([], true) := by decide +kernel
  obtain ⟨d, hd, hdisabled⟩ := Option.map_eq_some_iff.1 hexec
  obtain ⟨hpending, hdisabled⟩ := Prod.mk.inj hdisabled
  have hreaches : Transition.Reaches (step .idle) WokenEnabled started d := .of_exec _ hd
  exact ⟨d, hreaches, hpending, hdisabled, (flags_agree .idle started_started hreaches hpending).1⟩

/-- The touchpad is disabled by its key, sleeps and wakes: it is in use, and the keyboard
takes it for disabled. -/
theorem flags_apart : ¬ ∀ (G : Gestures) (d₀ d : Drivers), Started d₀ →
    Transition.Reaches (step G) (fun _ _ => True) d₀ d → d.pending = [] → d.flags.agree := by
  intro h
  have hexec : (Transition.exec (step .idle) (fun _ _ => True) started (pressTouchpadKey ++ touchpadSleepWake)).map
      (fun d => (d.pending, d.flags)) = some ([], ⟨false, false⟩) := by decide +kernel
  obtain ⟨d, hd, hflags⟩ := Option.map_eq_some_iff.1 hexec
  obtain ⟨hpending, hflags⟩ := Prod.mk.inj hflags
  have hagree := h .idle started d started_started (.of_exec _ hd) hpending
  rw [hflags] at hagree
  cases hagree

end Drivers

end ApplePS2
