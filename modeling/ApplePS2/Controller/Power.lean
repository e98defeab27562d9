import ApplePS2.Controller.Request

/- Set-up, multiplexing probe and power management of the controller
   (`resetPS2Controller`, `detectMuxModeSupport`, `setMuxMode`,
   `setPowerStateGated`).

   The hardware behind the two ports is a register, the command byte, and a list
   of answers. A read that follows `kCP_GetCommandByte` returns the register,
   every other read the next answer; past the end of the list a read times out
   and returns 0. Waiting, flushing the output buffer and acknowledging the power
   change leave no trace here. `log` keeps what others can see of the controller:
   the values written to the register, the flag that gates the requests, and the
   calls of the drivers' power control actions. -/
namespace ApplePS2

def kPS2PowerStateSleep : UInt32 := 0
def kPS2PowerStateDoze : UInt32 := 1
def kPS2PowerStateNormal : UInt32 := 2
def kPS2PowerStateCount : UInt32 := 3

inductive PowerEvent where
  | commandByte (value : UInt8)
  | hardwareOffline (offline : Bool)
  | powerControl (whatToDo : PowerControl)
  deriving DecidableEq, Repr

/-- The command byte, the command-port byte that still awaits its data or its
answer, and the answers to come. -/
structure Hardware where
  commandByte : UInt8
  command : Option UInt8
  answers : List UInt8
  deriving DecidableEq, Repr

structure Controller where
  currentPowerState : UInt32
  hardwareOffline : Bool
  mux : MuxMode
  hardware : Hardware
  log : List PowerEvent

namespace Controller

def record (e : PowerEvent) (s : Controller) : Controller := { s with log := s.log ++ [e] }

def writeCommandPort (byte : UInt8) (s : Controller) : Controller :=
  { s with hardware := { s.hardware with command := some byte } }

def writeDataPort (byte : UInt8) (s : Controller) : Controller :=
  if s.hardware.command = some kCP_SetCommandByte then
    { s with hardware := { s.hardware with commandByte := byte, command := none } }.record (.commandByte byte)
  else { s with hardware := { s.hardware with command := none } }

def readDataPort (s : Controller) : UInt8 × Controller :=
  if s.hardware.command = some kCP_GetCommandByte then
    (s.hardware.commandByte, { s with hardware := { s.hardware with command := none } })
  else (s.hardware.answers.headD 0,
    { s with hardware := { s.hardware with command := none, answers := s.hardware.answers.tail } })

/-- The write-back half of a read-modify-write of the command byte. -/
def setCommandByte (commandByte : UInt8) (s : Controller) : Controller :=
  (s.writeCommandPort kCP_SetCommandByte).writeDataPort commandByte

def getCommandByte (s : Controller) : UInt8 × Controller :=
  (s.writeCommandPort kCP_GetCommandByte).readDataPort

def resetPS2Controller (s : Controller) : Controller :=
  let (commandByte, s) := s.getCommandByte
  let s := s.setCommandByte (commandByte &&& ~~~(kCB_EnableMouseIRQ ||| kCB_DisableMouseClock))
  -- read current command
  let (_, s) := s.getCommandByte
  -- set to defaults, the keyboard and then the mouse
  let (_, s) := (s.writeDataPort kDP_SetDefaultsAndDisable).readDataPort
  let s := (s.writeCommandPort kCP_TransmitToMouse).writeDataPort kDP_SetDefaultsAndDisable
  s.readDataPort.2

/-- One byte of the activation sequence, sent through the mouse interface. -/
def loopback (val : UInt8) (s : Controller) : UInt8 × Controller :=
  ((s.writeCommandPort kCP_WriteMouseOutputBuffer).writeDataPort val).readDataPort

/-- The loop over the AUX ports: the touchpad acknowledges the custom command. -/
def findPort : List (Fin 4) → Controller → Bool × Controller
  | [], s => (false, s)
  | i :: is, s =>
    let (res, s) :=
      ((s.writeCommandPort (kRP_RoutingPrefixAuxPort + UInt8.ofNat i)).writeDataPort 0xF8).readDataPort
    if res = 0xFA then
      (true, { s with mux := ⟨s.mux.controllerUsesMuxMode, kRP_RoutingPrefixAuxPort + UInt8.ofNat i, i, rfl⟩ })
    else findPort is s

def setMuxMode (enable : Bool) (s : Controller) : Bool × Controller :=
  let (res, s) := s.loopback 0xF0
  if res ≠ 0xF0 then (false, s)
  else
    let val := if enable then 0x56 else 0xF6
    let (res, s) := s.loopback val
    if res ≠ val then (false, s)
    else
      let val := if enable then 0xA4 else 0xA5
      let (res, s) := s.loopback val
      -- the byte itself comes back from a controller without multiplexing
      if res = val then (false, s)
      else findPort [0, 1, 2, 3] s

def setControllerUsesMuxMode (b : Bool) (s : Controller) : Controller :=
  { s with mux := { s.mux with controllerUsesMuxMode := b } }

def detectMuxModeSupport (s : Controller) : Controller :=
  let (supported, s) := (s.setControllerUsesMuxMode false).setMuxMode true
  if supported then
    -- the byte is built from '\0', not from the register
    let commandByte := (0 ||| kCB_DisableMouseClock) &&& ~~~kCB_EnableMouseIRQ
    (s.setCommandByte commandByte).setControllerUsesMuxMode true
  else s

def setHardwareOffline (b : Bool) (s : Controller) : Controller :=
  { s with hardwareOffline := b }.record (.hardwareOffline b)

def dispatchDriverPowerControl (whatToDo : PowerControl) (s : Controller) : Controller :=
  s.record (.powerControl whatToDo)

/-- Stage 1 of the wake-up. -/
def enablePort (s : Controller) : Controller :=
  let (commandByte, s) := s.getCommandByte
  s.setCommandByte
    ((commandByte &&& ~~~(kCB_DisableKeyboardClock ||| kCB_DisableMouseClock)) |||
      (kCB_EnableKeyboardIRQ ||| kCB_EnableMouseIRQ))

/-- Reset and probe again, before the stages of the wake-up. -/
def prepareWake (s : Controller) : Controller :=
  let s := s.resetPS2Controller
  if s.mux.controllerUsesMuxMode then s.detectMuxModeSupport else s

def sleep (s : Controller) : Controller :=
  (s.dispatchDriverPowerControl .kPS2C_DisableDevice).setHardwareOffline true

def wake (s : Controller) : Controller :=
  (s.prepareWake.enablePort.setHardwareOffline false).dispatchDriverPowerControl .kPS2C_EnableDevice

def setPowerStateGated (powerState : UInt32) (s : Controller) : Controller :=
  if s.currentPowerState ≠ powerState then
    let s' :=
      if powerState = kPS2PowerStateSleep then s.sleep
      else if powerState = kPS2PowerStateDoze ∨ powerState = kPS2PowerStateNormal then
        -- between doze and normal nothing is done
        if s.currentPowerState ≠ kPS2PowerStateSleep then s else s.wake
      else s
    -- reached for bad ordinals as well
    { s' with currentPowerState := powerState }
  else s

end Controller

/-- The state set up by `init`, over some hardware. -/
def Controller.init (commandByte : UInt8) (answers : List UInt8) : Controller :=
  { currentPowerState := kPS2PowerStateNormal
    hardwareOffline := false
    mux := .legacy
    hardware := ⟨commandByte, none, answers⟩
    log := [] }

/-- The part of `start` that talks to the hardware. -/
def Controller.start (s : Controller) : Controller :=
  let s := s.resetPS2Controller
  let (_, s) := (s.writeDataPort kDP_Reset).readDataPort
  s.detectMuxModeSupport

/-! What each routine does to the register and the log. -/

/-- The answers to a probe that finds a multiplexing controller: the first two
bytes come back, the third does not, and one of the four ports acknowledges. -/
def probeSucceeds (answers : List UInt8) : Bool :=
  answers[0]?.getD 0 = 0xF0 && answers[1]?.getD 0 = 0x56 && answers[2]?.getD 0 ≠ 0xA4 &&
    ((answers.drop 3).take 4).contains 0xFA

namespace Controller

/-- Nothing but the route prefix and what the hardware awaits and answers differs. -/
structure SameButRoute (s s' : Controller) : Prop where
  currentPowerState : s'.currentPowerState = s.currentPowerState
  hardwareOffline : s'.hardwareOffline = s.hardwareOffline
  usesMux : s'.mux.controllerUsesMuxMode = s.mux.controllerUsesMuxMode
  commandByte : s'.hardware.commandByte = s.hardware.commandByte
  log : s'.log = s.log

theorem SameButRoute.refl (s : Controller) : SameButRoute s s := ⟨rfl, rfl, rfl, rfl, rfl⟩

theorem SameButRoute.trans {a b c : Controller} (h : SameButRoute a b) (h' : SameButRoute b c) :
    SameButRoute a c :=
  ⟨h'.1.trans h.1, h'.2.trans h.2, h'.3.trans h.3, h'.4.trans h.4, h'.5.trans h.5⟩

theorem getCommandByte_eq (s : Controller) : s.getCommandByte =
    (s.hardware.commandByte, { s with hardware := { s.hardware with command := none } }) := by
  simp [getCommandByte, writeCommandPort, readDataPort]

theorem setCommandByte_eq (v : UInt8) (s : Controller) : s.setCommandByte v =
    { s with
      hardware := ⟨v, none, s.hardware.answers⟩
      log := s.log ++ [.commandByte v] } := by
  simp [setCommandByte, writeCommandPort, writeDataPort, record]

/-- The state after one answer is taken. -/
def answered (s : Controller) : Controller :=
  { s with hardware := ⟨s.hardware.commandByte, none, s.hardware.answers.tail⟩ }

theorem answered_same (s : Controller) : SameButRoute s s.answered := ⟨rfl, rfl, rfl, rfl, rfl⟩

@[simp] theorem answered_answers (s : Controller) :
    s.answered.hardware.answers = s.hardware.answers.tail := rfl

/-- A command-port byte other than the two register commands, its data byte, and
the answer. -/
theorem exchange_eq (c v : UInt8) (hc : c ≠ kCP_SetCommandByte) (s : Controller) :
    ((s.writeCommandPort c).writeDataPort v).readDataPort =
      (s.hardware.answers.headD 0, s.answered) := by
  simp [writeCommandPort, writeDataPort, readDataPort, answered, hc]

theorem loopback_eq (v : UInt8) (s : Controller) :
    s.loopback v = (s.hardware.answers.headD 0, s.answered) :=
  exchange_eq _ v (by decide) s

/-- The register with the mouse interrupt off and the mouse clock on. -/
def resetByte (commandByte : UInt8) : UInt8 :=
  commandByte &&& ~~~(kCB_EnableMouseIRQ ||| kCB_DisableMouseClock)

/-- The register with both clocks and both interrupts on. -/
def enabledByte (commandByte : UInt8) : UInt8 :=
  (commandByte &&& ~~~(kCB_DisableKeyboardClock ||| kCB_DisableMouseClock)) |||
    (kCB_EnableKeyboardIRQ ||| kCB_EnableMouseIRQ)

theorem resetPS2Controller_eq (s : Controller) : s.resetPS2Controller =
    { s with
      hardware := ⟨resetByte s.hardware.commandByte, none, s.hardware.answers.tail.tail⟩
      log := s.log ++ [.commandByte (resetByte s.hardware.commandByte)] } := by
  simp only [resetPS2Controller, getCommandByte_eq, setCommandByte_eq]
  simp [writeDataPort, writeCommandPort, readDataPort, resetByte, kCP_TransmitToMouse, kCP_SetCommandByte]

theorem enablePort_eq (s : Controller) : s.enablePort =
    { s with
      hardware := ⟨enabledByte s.hardware.commandByte, none, s.hardware.answers⟩
      log := s.log ++ [.commandByte (enabledByte s.hardware.commandByte)] } := by
  simp only [enablePort, getCommandByte_eq, setCommandByte_eq]
  rfl

theorem route_ne_setCommandByte : ∀ i : Fin 4,
    kRP_RoutingPrefixAuxPort + UInt8.ofNat i ≠ kCP_SetCommandByte := by decide

theorem findPort_spec (is : List (Fin 4)) (s : Controller) :
    (findPort is s).1 = (s.hardware.answers.take is.length).contains 0xFA ∧
      SameButRoute s (findPort is s).2 := by
  induction is generalizing s with
  | nil => exact ⟨by simp [findPort], SameButRoute.refl s⟩
  | cons i is ih =>
    simp only [findPort, exchange_eq _ _ (route_ne_setCommandByte i)]
    split
    · next hack =>
      refine ⟨?_, rfl, rfl, rfl, rfl, rfl⟩
      cases hans : s.hardware.answers with
      | nil => simp [hans] at hack
      | cons a as =>
        obtain rfl : a = 0xFA := by simpa [hans] using hack
        simp
    · next hack =>
      obtain ⟨hfound, hsame⟩ := ih s.answered
      refine ⟨?_, s.answered_same.trans hsame⟩
      rw [hfound, answered_answers]
      cases hans : s.hardware.answers with
      | nil => simp
      | cons a as =>
        have ha : (0xFA : UInt8) ≠ a := fun h => hack (by simp [hans, ← h])
        simp [ha]

theorem setMuxMode_spec (s : Controller) :
    (s.setMuxMode true).1 = probeSucceeds s.hardware.answers ∧ SameButRoute s (s.setMuxMode true).2 := by
  have h0 : ∀ a : List UInt8, a.headD 0 = a[0]?.getD 0 := fun a => by cases a <;> rfl
  have h1 : s.hardware.answers.tail[0]? = s.hardware.answers[1]? := by simp
  have h2 : s.hardware.answers.tail.tail[0]? = s.hardware.answers[2]? := by simp
  have h3 : s.hardware.answers.tail.tail.tail = s.hardware.answers.drop 3 := by
    simp only [← List.drop_one, List.drop_drop]
  have h12 := s.answered_same.trans s.answered.answered_same
  have h123 := h12.trans s.answered.answered.answered_same
  simp only [setMuxMode, loopback_eq, if_true, answered_answers, h0, h1, h2, probeSucceeds]
  split
  · next h => exact ⟨by simp [h], s.answered_same⟩
  next hf =>
  split
  · next h => exact ⟨by simp [h], h12⟩
  next hs =>
  split
  · next h => exact ⟨by simp [h], h123⟩
  next ht =>
  obtain ⟨hfound, hsame⟩ := findPort_spec [0, 1, 2, 3] s.answered.answered.answered
  refine ⟨?_, h123.trans hsame⟩
  rw [hfound, answered_answers, answered_answers, answered_answers, h3]
  simp only [ne_eq, Decidable.not_not] at hf hs
  simp [hf, hs, ht]

/-- A probe that fails leaves the register alone; one that succeeds writes
`kCB_DisableMouseClock` to it. -/
structure Detected (s s' : Controller) : Prop where
  currentPowerState : s'.currentPowerState = s.currentPowerState
  hardwareOffline : s'.hardwareOffline = s.hardwareOffline
  usesMux : s'.mux.controllerUsesMuxMode = probeSucceeds s.hardware.answers
  commandByte : s'.hardware.commandByte =
    if probeSucceeds s.hardware.answers then kCB_DisableMouseClock else s.hardware.commandByte
  log : s'.log =
    s.log ++ if probeSucceeds s.hardware.answers then [.commandByte kCB_DisableMouseClock] else []

theorem detectMuxModeSupport_spec (s : Controller) : Detected s s.detectMuxModeSupport := by
  obtain ⟨hfound, hcur, hoff, huse, hcb, hlog⟩ := (s.setControllerUsesMuxMode false).setMuxMode_spec
  change _ = probeSucceeds s.hardware.answers at hfound
  have hbyte : ((0 ||| kCB_DisableMouseClock) &&& ~~~kCB_EnableMouseIRQ) = kCB_DisableMouseClock := by
    decide
  unfold detectMuxModeSupport
  cases hp : probeSucceeds s.hardware.answers with
  | true =>
    simp only [hfound, hp, if_true, setCommandByte_eq, hbyte]
    exact ⟨hcur, hoff, hp.symm, by rw [hp]; rfl, by rw [hp]; exact congrArg (· ++ _) hlog⟩
  | false =>
    simp only [hfound, hp, if_false, Bool.false_eq_true]
    exact ⟨hcur, hoff, huse.trans hp.symm, by rw [hp]; exact hcb,
      by rw [hp]; exact hlog.trans (List.append_nil _).symm⟩

end Controller

end ApplePS2
