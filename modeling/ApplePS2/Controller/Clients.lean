import Mathlib.Logic.Function.Basic
import ApplePS2.Device
import ApplePS2.Transition

/- The drivers as clients of the controller: the actions they install when they start and
   uninstall when they stop, and what is dispatched to them.

   1. `start_eq`, `stop_eq`: what a start and a stop do where no other driver of the
      device runs.
   2. `served_step_iff`: the steps that keep what the controller owes its clients.
   3. `served_iff`: so the drivers are served in every state of a run just when two of
      one device never run at once, and no keyboard driver stops that does not run. -/
namespace ApplePS2

/-- A driver, which is a client of one of the devices. -/
structure Driver where
  device : PS2DeviceType
  number : Nat
  deriving DecidableEq

/-- The kinds of actions that a driver installs. -/
inductive ActionKind where
  | interrupt
  | powerControl
  | ps2Notification
  deriving DecidableEq

/-- An action of the controller, as `_interruptInstalledKeyboard` and `_interruptTargetKeyboard`. No target is null. -/
structure ClientAction where
  installed : Bool
  target : Option Driver

/-- `_interruptHandlerInstalled` and the like. -/
structure DriverFlags where
  interruptHandler : Bool
  powerControlHandler : Bool
  notificationHandler : Bool

structure Clients where
  action : ActionKind → PS2DeviceType → ClientAction
  /-- The event source is in the work loop, and the interrupt is registered and enabled. -/
  interruptEnabled : PS2DeviceType → Bool
  /-- How often the controller has retained an object and not released it. -/
  references : Option Driver → Int
  flags : Driver → DriverFlags

namespace Clients

/-- `init`, and no driver has started. -/
def init : Clients :=
  { action := fun _ _ => ⟨false, none⟩, interruptEnabled := fun _ => false, references := fun _ => 0
    flags := fun _ => ⟨false, false, false⟩ }

/-! The controller. -/

/-- An action is installed only if there is none. -/
def install (k : ActionKind) (deviceType : PS2DeviceType) (target : Driver) (s : Clients) : Clients :=
  if (s.action k deviceType).installed then s
  else
    { s with
      action := fun k' dt => if k' = k ∧ dt = deviceType then ⟨true, some target⟩ else s.action k' dt
      references := fun o => if o = some target then s.references o + 1 else s.references o }

/-- Its target is released, which must not be null then. -/
def uninstall (k : ActionKind) (deviceType : PS2DeviceType) (s : Clients) : Clients :=
  if (s.action k deviceType).installed then
    { s with
      action := fun k' dt => if k' = k ∧ dt = deviceType then ⟨false, none⟩ else s.action k' dt
      references := fun o => if o = (s.action k deviceType).target then s.references o - 1 else s.references o }
  else s

def installInterruptAction (deviceType : PS2DeviceType) (target : Driver) (s : Clients) : Clients :=
  if (s.action .interrupt deviceType).installed then s
  else { s.install .interrupt deviceType target with
    interruptEnabled := Function.update s.interruptEnabled deviceType true }

def uninstallInterruptAction (deviceType : PS2DeviceType) (s : Clients) : Clients :=
  if (s.action .interrupt deviceType).installed then
    { s.uninstall .interrupt deviceType with
      interruptEnabled := Function.update s.interruptEnabled deviceType false }
  else s

def installPowerControlAction (deviceType : PS2DeviceType) : Driver → Clients → Clients := install .powerControl deviceType
def uninstallPowerControlAction (deviceType : PS2DeviceType) : Clients → Clients := uninstall .powerControl deviceType
def installPS2Notification (deviceType : PS2DeviceType) : Driver → Clients → Clients := install .ps2Notification deviceType
def uninstallPS2NotificationAction (deviceType : PS2DeviceType) : Clients → Clients := uninstall .ps2Notification deviceType

/-- The target that an action is called with, if it is installed. -/
def called (k : ActionKind) (deviceType : PS2DeviceType) (s : Clients) : List (Option Driver) :=
  if (s.action k deviceType).installed then [(s.action k deviceType).target] else []

def dispatchDriverInterrupt (deviceType : PS2DeviceType) (data : UInt8) (s : Clients) : List (Option Driver × UInt8) :=
  (s.called .interrupt deviceType).map fun target => (target, data)

def dispatchDriverPowerControl (whatToDo : UInt32) (s : Clients) : List (Option Driver × UInt32) :=
  (s.called .powerControl .kDT_Keyboard ++ s.called .powerControl .kDT_Mouse).map fun target => (target, whatToDo)

def dispatchPS2Notification (deviceType : PS2DeviceType) (data : UInt32) (s : Clients) : List (Option Driver × UInt32) :=
  (s.called .ps2Notification deviceType).map fun target => (target, data)

/-! The drivers. -/

def setFlags (d : Driver) (f : DriverFlags) (s : Clients) : Clients := { s with flags := Function.update s.flags d f }

/-- `start`, of both drivers. -/
def start (d : Driver) (s : Clients) : Clients :=
  s |> installInterruptAction d.device d |> installPowerControlAction d.device d |> installPS2Notification d.device d
    |> setFlags d ⟨true, true, true⟩

def uninstallHandlers (d : Driver) (s : Clients) : Clients :=
  let t := if (s.flags d).interruptHandler then s.uninstallInterruptAction d.device else s
  if (s.flags d).powerControlHandler then t.uninstallPowerControlAction d.device else t

/-- `ApplePS2Keyboard::stop`, which uninstalls the notifications in any case. -/
def stopKeyboard (d : Driver) (s : Clients) : Clients :=
  s |> uninstallHandlers d |> uninstallPS2NotificationAction d.device |> setFlags d ⟨false, false, false⟩

/-- `ApplePS2SmartTouchpad::stop`. -/
def stopTouchpad (d : Driver) (s : Clients) : Clients :=
  let t := s.uninstallHandlers d
  (if (s.flags d).notificationHandler then t.uninstallPS2NotificationAction d.device else t) |>
    setFlags d ⟨false, false, false⟩

def stop (d : Driver) (s : Clients) : Clients :=
  match d.device with
  | .kDT_Keyboard => s.stopKeyboard d
  | .kDT_Mouse => s.stopTouchpad d

end Clients

inductive ClientEvent where
  | start (d : Driver)
  | stop (d : Driver)

namespace Clients

def handle (s : Clients) : ClientEvent → Clients
  | .start d => s.start d
  | .stop d => s.stop d

def isRunning (d : Driver) (s : Clients) : Bool := (s.flags d).interruptHandler

/-- What is dispatched for a device goes to the drivers that run there and to no other, they are retained once for each
of their actions, and the interrupt of a device is enabled while one runs. -/
structure Served (s : Clients) : Prop where
  called : ∀ k dt o, o ∈ s.called k dt ↔ ∃ d : Driver, o = some d ∧ d.device = dt ∧ s.isRunning d = true
  references : ∀ o : Option Driver, s.references o = if o.any fun d => s.isRunning d then 3 else 0
  interruptEnabled : ∀ dt, s.interruptEnabled dt = true ↔ ∃ d : Driver, d.device = dt ∧ s.isRunning d = true
  flags : ∀ d, s.flags d = ⟨s.isRunning d, s.isRunning d, s.isRunning d⟩

/-- A driver starts only where no other runs, and only running keyboard drivers stop while one runs. -/
def Allowed (s : Clients) : ClientEvent → Prop
  | .start d => ∀ e : Driver, e.device = d.device → s.isRunning e = true → e = d
  | .stop d => s.isRunning d = true ∨ d.device = .kDT_Mouse ∨ ∀ e : Driver, e.device = d.device → s.isRunning e = false

/-! One start or stop. -/

/-- The driver runs at its device, or none does. -/
def withDriver (d : Driver) (runs : Bool) (s : Clients) : Clients :=
  { action := fun k dt => if dt = d.device then ⟨runs, if runs then some d else none⟩ else s.action k dt
    interruptEnabled := Function.update s.interruptEnabled d.device runs
    references := fun o => if o = some d then (if runs then 3 else 0) else s.references o
    flags := Function.update s.flags d ⟨runs, runs, runs⟩ }

variable {s : Clients} {d : Driver}

theorem install_eq {k : ActionKind} {dt : PS2DeviceType} (h : (s.action k dt).installed = false) : s.install k dt d =
    { s with
      action := fun k' dt' => if k' = k ∧ dt' = dt then ⟨true, some d⟩ else s.action k' dt'
      references := fun o => if o = some d then s.references o + 1 else s.references o } := by
  unfold install
  rw [h]
  rfl

theorem uninstall_eq {k : ActionKind} {dt : PS2DeviceType} (h : s.action k dt = ⟨true, some d⟩) : s.uninstall k dt =
    { s with
      action := fun k' dt' => if k' = k ∧ dt' = dt then ⟨false, none⟩ else s.action k' dt'
      references := fun o => if o = some d then s.references o - 1 else s.references o } := by
  unfold uninstall
  rw [h]
  rfl

/-- Where no action of the device is installed, all three are. -/
theorem start_eq (h : ∀ k, (s.action k d.device).installed = false) (hreferences : s.references (some d) = 0) :
    s.start d = s.withDriver d true := by
  have hfirst : s.installInterruptAction d.device d =
      { s.install .interrupt d.device d with
        interruptEnabled := Function.update s.interruptEnabled d.device true } := by
    unfold installInterruptAction
    rw [h]
    rfl
  unfold start installPowerControlAction installPS2Notification
  rw [hfirst, install_eq (h .interrupt), install_eq (by simp [install, h]), install_eq (by simp [h])]
  refine (Clients.mk.injEq ..).mpr ⟨?_, rfl, ?_, rfl⟩
  · funext k dt
    cases k <;> simp
  · funext o
    by_cases ho : o = some d
    · simp [ho, hreferences]
    · simp [ho]

/-- Where all actions of the device are the driver's, none of them stays installed. -/
theorem stop_eq (h : ∀ k, s.action k d.device = ⟨true, some d⟩) (hreferences : s.references (some d) = 3)
    (hflags : s.flags d = ⟨true, true, true⟩) : s.stop d = s.withDriver d false := by
  have hfirst : s.uninstallInterruptAction d.device =
      { s.uninstall .interrupt d.device with
        interruptEnabled := Function.update s.interruptEnabled d.device false } := by
    unfold uninstallInterruptAction
    rw [h]
    rfl
  have hstop : s.stop d = (s.uninstallInterruptAction d.device |>.uninstall .powerControl d.device
      |>.uninstall .ps2Notification d.device |>.setFlags d ⟨false, false, false⟩) := by
    unfold stop
    split
    · unfold stopKeyboard uninstallHandlers
      rw [hflags]
      rfl
    · unfold stopTouchpad uninstallHandlers
      rw [hflags]
      rfl
  rw [hstop, hfirst, uninstall_eq (h .interrupt), uninstall_eq (d := d) (by simp [uninstall, h]),
    uninstall_eq (d := d) (by simp [h])]
  refine (Clients.mk.injEq ..).mpr ⟨?_, rfl, ?_, rfl⟩
  · funext k dt
    cases k <;> simp
  · funext o
    by_cases ho : o = some d
    · simp [ho, hreferences]
    · simp [ho]

/-! What is owed. -/

theorem mem_called {k : ActionKind} {dt : PS2DeviceType} {o : Option Driver} :
    o ∈ s.called k dt ↔ (s.action k dt).installed = true ∧ o = (s.action k dt).target := by
  unfold called
  cases (s.action k dt).installed <;> simp

/-- All actions of a device are the running driver's. -/
theorem Served.action_of_running (hs : Served s) (hd : s.isRunning d = true) (k : ActionKind) :
    s.action k d.device = ⟨true, some d⟩ := by
  obtain ⟨hinstalled, htarget⟩ := mem_called.1 ((hs.called k d.device (some d)).2 ⟨d, rfl, rfl, hd⟩)
  rw [htarget, ← hinstalled]

theorem Served.not_installed (hs : Served s) {dt : PS2DeviceType}
    (hnone : ∀ e : Driver, e.device = dt → s.isRunning e = false) (k : ActionKind) :
    (s.action k dt).installed = false := by
  cases hinstalled : (s.action k dt).installed with
  | false => rfl
  | true =>
    obtain ⟨e, -, hdevice, hrunning⟩ := (hs.called k dt _).1 (mem_called.2 ⟨hinstalled, rfl⟩)
    rw [hnone e hdevice] at hrunning
    cases hrunning

/-- Only one driver of a device runs. -/
theorem Served.unique (hs : Served s) {e : Driver} (hd : s.isRunning d = true) (he : s.isRunning e = true)
    (hdevice : e.device = d.device) : e = d := by
  have hmem := (hs.called .interrupt d.device (some e)).2 ⟨e, rfl, hdevice, he⟩
  rw [mem_called, hs.action_of_running hd] at hmem
  exact Option.some.inj hmem.2

/-- A running driver is given all that is dispatched for its device. -/
theorem Served.dispatched (hs : Served s) (hd : s.isRunning d = true) :
    (∀ data, s.dispatchDriverInterrupt d.device data = [(some d, data)]) ∧
      (∀ whatToDo, (some d, whatToDo) ∈ s.dispatchDriverPowerControl whatToDo) ∧
        ∀ data, s.dispatchPS2Notification d.device data = [(some d, data)] := by
  have hcalled : ∀ k, s.called k d.device = [some d] := by
    intro k
    show (if (s.action k d.device).installed then _ else _) = _
    rw [hs.action_of_running hd]
    rfl
  refine ⟨fun data => ?_, fun whatToDo => ?_, fun data => ?_⟩
  · unfold dispatchDriverInterrupt
    rw [hcalled]
    rfl
  · refine List.mem_map.2 ⟨some d, ?_, rfl⟩
    rw [List.mem_append]
    have hmem : some d ∈ s.called .powerControl d.device := by
      rw [hcalled]
      exact List.mem_singleton.2 rfl
    cases hdevice : d.device with
    | kDT_Keyboard => exact .inl (hdevice ▸ hmem)
    | kDT_Mouse => exact .inr (hdevice ▸ hmem)
  · unfold dispatchPS2Notification
    rw [hcalled]
    rfl

theorem isRunning_withDriver (runs : Bool) (e : Driver) :
    (s.withDriver d runs).isRunning e = if e = d then runs else s.isRunning e := by
  show (Function.update s.flags d ⟨runs, runs, runs⟩ e).interruptHandler = _
  rw [Function.update_apply]
  split <;> rfl

theorem served_withDriver (hs : Served s) (hother : ∀ e : Driver, e.device = d.device → s.isRunning e = true → e = d)
    (runs : Bool) : Served (s.withDriver d runs) := by
  have hrunning := isRunning_withDriver (s := s) (d := d) runs
  have halone : ∀ e : Driver, e.device = d.device → (s.withDriver d runs).isRunning e = true → e = d ∧ runs = true := by
    intro e hdevice he
    rw [hrunning] at he
    split at he
    · next hed => exact ⟨hed, he⟩
    · next hed => exact absurd (hother e hdevice he) hed
  have hkept : ∀ {e : Driver}, e.device ≠ d.device → (s.withDriver d runs).isRunning e = s.isRunning e := by
    intro e hdevice
    rw [hrunning, if_neg fun hed => hdevice (by rw [hed])]
  refine { called := fun k dt o => ?_, references := fun o => ?_, interruptEnabled := fun dt => ?_, flags := fun e => ?_ }
  · rw [mem_called]
    -- on its device nobody else is called, and the other device is left alone
    by_cases hdt : dt = d.device
    · show (if dt = d.device then _ else _ : ClientAction).installed = true ∧
        o = (if dt = d.device then _ else _ : ClientAction).target ↔ _
      rw [if_pos hdt]
      constructor
      · rintro ⟨rfl, rfl⟩
        exact ⟨d, rfl, hdt.symm, by rw [hrunning, if_pos rfl]⟩
      · rintro ⟨e, rfl, hdevice, he⟩
        obtain ⟨rfl, rfl⟩ := halone e (hdevice.trans hdt) he
        exact ⟨rfl, rfl⟩
    · show (if dt = d.device then _ else _ : ClientAction).installed = true ∧
        o = (if dt = d.device then _ else _ : ClientAction).target ↔ _
      rw [if_neg hdt, ← mem_called, hs.called]
      refine exists_congr fun e => and_congr_right fun _ => and_congr_right fun hdevice => ?_
      rw [hkept fun heq => hdt (hdevice.symm.trans heq)]
  · show (if o = some d then _ else s.references o) = _
    rw [hs.references]
    cases o with
    | none => rfl
    | some e =>
      show (if some e = some d then _ else _) = if (s.withDriver d runs).isRunning e = true then (3 : Int) else 0
      rw [hrunning]
      by_cases hed : e = d <;> simp [hed]
  · show Function.update s.interruptEnabled d.device runs dt = true ↔ _
    rw [Function.update_apply]
    by_cases hdt : dt = d.device
    · rw [if_pos hdt]
      constructor
      · rintro rfl
        exact ⟨d, hdt.symm, by rw [hrunning, if_pos rfl]⟩
      · rintro ⟨e, hdevice, he⟩
        exact (halone e (hdevice.trans hdt) he).2
    · rw [if_neg hdt, hs.interruptEnabled]
      refine exists_congr fun e => and_congr_right fun hdevice => ?_
      rw [hkept fun heq => hdt (hdevice.symm.trans heq)]
  · show Function.update s.flags d ⟨runs, runs, runs⟩ e = _
    rw [Function.update_apply, hrunning, hs.flags]
    split <;> rfl

/-! The steps. -/

theorem flags_start : (s.start d).flags = Function.update s.flags d ⟨true, true, true⟩ := by
  have hinstall : ∀ (k : ActionKind) (s : Clients), (s.install k d.device d).flags = s.flags := by
    intro k s
    unfold install
    split <;> rfl
  have hfirst : (s.installInterruptAction d.device d).flags = s.flags := by
    unfold installInterruptAction
    split
    · rfl
    · exact hinstall _ s
  show Function.update (install .ps2Notification d.device d (install .powerControl d.device d _)).flags d _ = _
  rw [hinstall, hinstall, hfirst]

/-- A driver that runs already starts in vain. -/
theorem start_of_running (hs : Served s) (hd : s.isRunning d = true) : s.start d = s := by
  have hinstalled : ∀ k, (s.action k d.device).installed = true := fun k => by rw [hs.action_of_running hd]
  have hflags : Function.update s.flags d ⟨true, true, true⟩ = s.flags := by
    have hsame := hs.flags d
    rw [hd] at hsame
    rw [← hsame, Function.update_eq_self]
  simp [start, installInterruptAction, installPowerControlAction, installPS2Notification, install, hinstalled, setFlags,
    hflags]

theorem setFlags_of_idle (hs : Served s) (hd : s.isRunning d = false) : s.setFlags d ⟨false, false, false⟩ = s := by
  have hsame := hs.flags d
  rw [hd] at hsame
  unfold setFlags
  rw [← hsame, Function.update_eq_self]

theorem uninstallHandlers_of_idle (hs : Served s) (hd : s.isRunning d = false) : s.uninstallHandlers d = s := by
  unfold uninstallHandlers
  rw [hs.flags d, hd]
  rfl

/-- A driver that does not run stops in vain, unless it takes the notifications of another one. -/
theorem stop_of_idle (hs : Served s) (hd : s.isRunning d = false)
    (h : d.device = .kDT_Mouse ∨ (s.action .ps2Notification d.device).installed = false) : s.stop d = s := by
  unfold stop
  split
  · next hdevice =>
    have hinstalled : (s.action .ps2Notification d.device).installed = false :=
      h.resolve_left fun hmouse => by rw [hdevice] at hmouse; cases hmouse
    have hkept : s.uninstallPS2NotificationAction d.device = s := by
      unfold uninstallPS2NotificationAction uninstall
      rw [hinstalled]
      rfl
    unfold stopKeyboard
    rw [uninstallHandlers_of_idle hs hd, hkept, setFlags_of_idle hs hd]
  · unfold stopTouchpad
    rw [uninstallHandlers_of_idle hs hd, hs.flags d, hd]
    exact setFlags_of_idle hs hd

theorem served_handle {e : ClientEvent} (hs : Served s) (hallowed : Allowed s e) : Served (s.handle e) := by
  cases e with
  | start d =>
    show Served (s.start d)
    cases hd : s.isRunning d with
    | true => exact (start_of_running hs hd).symm ▸ hs
    | false =>
      -- any other driver of the device that ran would be this one
      have hnone : ∀ e : Driver, e.device = d.device → s.isRunning e = false := by
        intro e hdevice
        by_contra he
        rw [Bool.not_eq_false] at he
        rw [hallowed e hdevice he, hd] at he
        cases he
      have hreferences : s.references (some d) = 0 := by
        rw [hs.references]
        show (if s.isRunning d = true then (3 : Int) else 0) = 0
        rw [hd]
        rfl
      rw [start_eq (hs.not_installed hnone) hreferences]
      exact served_withDriver hs hallowed true
  | stop d =>
    show Served (s.stop d)
    cases hd : s.isRunning d with
    | true =>
      have hreferences : s.references (some d) = 3 := by
        rw [hs.references]
        exact if_pos hd
      have hflags := hs.flags d
      rw [hd] at hflags
      rw [stop_eq (hs.action_of_running hd) hreferences hflags]
      exact served_withDriver hs (fun e hdevice he => hs.unique hd he hdevice) false
    | false =>
      -- a driver that does not run takes the action of no other one away
      have hstop : s.stop d = s := by
        refine stop_of_idle hs hd ?_
        obtain hrunning | hmouse | hnone := hallowed
        · rw [hd] at hrunning
          cases hrunning
        · exact .inl hmouse
        · exact .inr (hs.not_installed hnone _)
      rw [hstop]
      exact hs

/-- The second driver of a device is not served, and neither is one whose notifications are taken. -/
theorem allowed_of_served {e : ClientEvent} (hs : Served s) (h : Served (s.handle e)) : Allowed s e := by
  cases e with
  | start d =>
    intro e hdevice he
    have hd : (s.start d).isRunning d = true := by
      unfold isRunning
      rw [flags_start, Function.update_self]
    have he' : (s.start d).isRunning e = true := by
      unfold isRunning
      rw [flags_start, Function.update_apply]
      split
      · rfl
      · exact he
    exact Served.unique h hd he' hdevice
  | stop d =>
    by_contra hnot
    obtain ⟨hd, hmouse, hsome⟩ : s.isRunning d = false ∧ d.device ≠ .kDT_Mouse ∧
        ∃ e : Driver, e.device = d.device ∧ s.isRunning e = true := by
      simpa [Allowed] using hnot
    obtain ⟨e, hdevice, he⟩ := hsome
    have hkeyboard : d.device = .kDT_Keyboard := by
      cases hd' : d.device with
      | kDT_Keyboard => rfl
      | kDT_Mouse => exact absurd hd' hmouse
    have hstop : s.stop d = (s.uninstall .ps2Notification d.device).setFlags d ⟨false, false, false⟩ := by
      unfold stop
      rw [hkeyboard]
      unfold stopKeyboard
      rw [uninstallHandlers_of_idle hs hd, hkeyboard]
      rfl
    -- the notification of the driver that runs would be gone
    have haction : s.action .ps2Notification d.device = ⟨true, some e⟩ := hdevice ▸ hs.action_of_running he _
    have hed : e ≠ d := by
      rintro rfl
      rw [hd] at he
      cases he
    have hserved : Served (s.stop d) := h
    rw [hstop, uninstall_eq haction] at hserved
    have hrunning : (Function.update s.flags d ⟨false, false, false⟩ e).interruptHandler = true := by
      rw [Function.update_of_ne hed]
      exact he
    have htaken := hserved.action_of_running (d := e) hrunning .ps2Notification
    rw [hdevice] at htaken
    simp [setFlags] at htaken

theorem served_step_iff (s : Clients) (e : ClientEvent) (hs : Served s) : Served (s.handle e) ↔ Allowed s e :=
  ⟨allowed_of_served hs, served_handle hs⟩

theorem served_init : Served init := by
  refine { called := fun k dt o => ?_, references := fun o => ?_, interruptEnabled := fun dt => ?_, flags := fun d => rfl }
  · simp [called, init, isRunning]
  · cases o <;> rfl
  · simp [init, isRunning]

/-- The drivers are served in every state of a run, just when a driver starts only where no other of its device runs, and
a keyboard driver stops only if it runs itself or none does. -/
theorem served_iff (es : List ClientEvent) : (∀ p, p <+: es → Served (Transition.run handle p init)) ↔
    ∀ p e, p ++ [e] <+: es → Allowed (Transition.run handle p init) e :=
  Transition.run_invariant_iff served_step_iff es served_init

end Clients
end ApplePS2
