import ApplePS2.Touchpad.State

/- Detection of the touchpad and its return into absolute mode (`Detect_touchpad`,
   `Reconnect_touchpad`, and the methods of `PS2Interface` they use). The device may
   answer each request with anything. The functions that return an `IOReturn` return
   whether they succeeded. -/
namespace ApplePS2.Touchpad

def kDP_SetMouseScaling1To1 : UInt8 := 0xE6
def kDP_SetMouseResolution : UInt8 := 0xE8
def kDP_GetMouseInformation : UInt8 := 0xE9
def kDP_SetMouseSampleRate : UInt8 := 0xF3
def kDP_SetAllMakeRelease : UInt8 := 0xF8
def kSC_Reset : UInt8 := 0xAA

def ETD_PS2_CUSTOM_COMMAND : UInt8 := 0xf8
def ETD_REGISTER_READ : UInt8 := 0x10
def ETD_REGISTER_WRITE : UInt8 := 0x11
def ETD_REGISTER_READWRITE : UInt8 := 0x00
def ETD_PS2_COMMAND_TRIES : Nat := 3
def ETD_READ_BACK_TRIES : Nat := 5
def ETD_R10_ABSOLUTE_MODE : UInt8 := 0x04

def SYN_QUE_MODEL : UInt8 := 0x03
def SYN_BIT_ABSOLUTE_MODE : UInt8 := 0x80
def SYN_BIT_HIGH_RATE : UInt8 := 0x40
def SYN_BIT_DISABLE_GESTURE : UInt8 := 0x04
def SYN_BIT_W_MODE : UInt8 := 0x01
def SYN_PS_SET_MODE2 : UInt8 := 0x14

def SYN_CAP_EXTENDED (c : UInt64) : Bool := c &&& 0x800000 ≠ 0
def SYN_CAP_ADV_GESTURE (ex0c : UInt64) : Bool := ex0c &&& 0x080000 ≠ 0
def SYN_CAP_IMAGE_SENSOR (ex0c : UInt64) : Bool := ex0c &&& 0x000800 ≠ 0

variable (w : TouchpadWorld)

/-! Requests. -/

abbrev Step := Touchpad → Bool × Touchpad

/-- Steps one after the other, up to the first that fails. -/
def steps : List Step → Step
  | [], s => (true, s)
  | f :: fs, s =>
    let (ok, s) := f s
    if ok then steps fs s else (false, s)

def mouseCommands (bytes : List UInt8) : List PS2Command := bytes.map (⟨.kPS2C_SendMouseCommandAndCompareAck, ·⟩)

def readDataPort : PS2Command := ⟨.kPS2C_ReadDataPort, 0⟩
def readMouseDataPort : PS2Command := ⟨.kPS2C_ReadMouseDataPort, 0⟩

/-! What the functions of `PS2Interface` ask. -/

/-- `0xE6 0xE8 rr 0xE8 ss 0xE8 tt 0xE8 uu` -/
def slicedBytes (cmd : UInt8) : List UInt8 :=
  kDP_SetMouseScaling1To1 :: ([6, 4, 2, 0] : List UInt8).flatMap fun i => [kDP_SetMouseResolution, (cmd >>> i) &&& 3]

def informationCommands : List PS2Command :=
  mouseCommands [kDP_GetMouseInformation] ++ List.replicate 3 readDataPort

def statusCommands : List PS2Command :=
  mouseCommands [kDP_SetDefaultsAndDisable, kDP_SetDefaultsAndDisable, kDP_SetDefaultsAndDisable,
    kDP_GetMouseInformation] ++ List.replicate 3 readDataPort

def initializeBytes (mSampleRate mResolution mScaling : UInt8) : List UInt8 :=
  [kDP_SetMouseSampleRate, mSampleRate, kDP_SetMouseResolution, mResolution, mScaling]

def resetCommands : List PS2Command :=
  mouseCommands [kDP_SetDefaultsAndDisable, kDP_Reset] ++ List.replicate 3 readMouseDataPort

/-- A request that succeeds when all of its commands are done. -/
def request (commands : List PS2Command) (s : Touchpad) : Bool × Answer × Touchpad :=
  let (a, s) := s.submitRequestAndBlock w commands
  (a.commandsCount = commands.length, a, s)

def command (bytes : List UInt8) : Step := fun s =>
  let (ok, _, s) := s.request w (mouseCommands bytes)
  (ok, s)

/-- The three bytes, or what they were before. -/
def getMouseInformation (param : List UInt8) (s : Touchpad) : Bool × List UInt8 × Touchpad :=
  let (ok, a, s) := s.request w informationCommands
  (ok, if ok then [a.inOrOut 1, a.inOrOut 2, a.inOrOut 3] else param, s)

def getStatus : Step := fun s =>
  let (ok, _, s) := s.request w statusCommands
  (ok, s)

def sendPS2Cmd (cmd : UInt8) : Step := command w [cmd]

/-- The command, as often as there are tries left. -/
def tryPS2Cmd (cmd : UInt8) : Nat → Step
  | 0, s => (false, s)
  | tries + 1, s =>
    let (ok, s) := s.command w [cmd]
    if ok then (true, s) else tryPS2Cmd cmd tries s

def sendElactechPS2Cmd (cmd : UInt8) : Step := tryPS2Cmd w cmd ETD_PS2_COMMAND_TRIES

def sendSlicedPS2Cmd (cmd : UInt8) : Step := command w (slicedBytes cmd)

def initializeMouse : Step := fun s =>
  let (ok, s) := s.command w
    (initializeBytes s.ps2Mouse.mSampleRate s.ps2Mouse.mResolution s.ps2Mouse.mScaling)
  if ok then
    let (_, _, s) := s.getMouseInformation w []
    (true, (s.getStatus w).2)
  else (false, s)

/-- Whether the reset has been answered; nobody asks. -/
def resetMouse : Step := fun s =>
  let (ok, a, s) := s.request w resetCommands
  (ok && (a.inOrOut 2 = kSC_Reset || a.inOrOut 3 = kSC_Reset || a.inOrOut 4 = kSC_Reset), s)

/-! Absolute mode. -/

def Focaltech_set_absolute_mode : Step :=
  command w [kDP_SetAllMakeRelease, 0, kDP_SetAllMakeRelease, 0, kDP_SetAllMakeRelease, 0,
    kDP_SetAllMakeRelease, 1, kDP_SetMouseScaling1To1]

def Synaptics_mode_cmd (mode : UInt8) : Step :=
  steps [sendSlicedPS2Cmd w mode, sendPS2Cmd w kDP_SetMouseSampleRate, sendPS2Cmd w SYN_PS_SET_MODE2]

def Synaptics_set_advanced_gesture_mode : Step := fun s =>
  if !(SYN_CAP_ADV_GESTURE s.synTPad.ext_cap_0c || SYN_CAP_IMAGE_SENSOR s.synTPad.ext_cap_0c) then (true, s)
  else
    let (ok, s) := steps [sendSlicedPS2Cmd w SYN_QUE_MODEL, sendPS2Cmd w kDP_SetMouseSampleRate,
      sendPS2Cmd w 0xc8] s
    -- Advanced gesture mode also sends multi finger data
    if ok then (true, { s with synTPad.capabilities := s.synTPad.capabilities ||| 2 }) else (false, s)

def Synaptics_set_absolute_mode : Step := fun s =>
  let mode :=
    (if s.synTPad.absolute_mode then SYN_BIT_ABSOLUTE_MODE else 0) |||
    (if s.synTPad.disable_gesture then SYN_BIT_DISABLE_GESTURE else 0) |||
    (if s.ps2Mouse.mSampleRate ≥ 80 then SYN_BIT_HIGH_RATE else 0) |||
    (if SYN_CAP_EXTENDED s.synTPad.capabilities then SYN_BIT_W_MODE else 0)
  let s := { s with synTPad.mode := mode }
  if s.synTPad.absolute_mode then
    steps [Synaptics_mode_cmd w mode, Synaptics_set_advanced_gesture_mode w] s
  else s.Synaptics_mode_cmd w mode

def isElanRegister (reg : UInt8) : Bool := !(reg < 0x07 || reg > 0x26) && !(reg > 0x11 && reg < 0x20)

def Elantech_write_reg (reg val : UInt8) : Step := fun s =>
  let elan := fun bytes => steps (bytes.map (sendElactechPS2Cmd w)) s
  if !isElanRegister reg then (false, s)
  else if s.hwVersion = 1 then
    steps [sendSlicedPS2Cmd w ETD_REGISTER_WRITE, sendSlicedPS2Cmd w reg, sendSlicedPS2Cmd w val,
      sendPS2Cmd w kDP_SetMouseScaling1To1] s
  else if s.hwVersion = 2 then
    elan [ETD_PS2_CUSTOM_COMMAND, ETD_REGISTER_WRITE, ETD_PS2_CUSTOM_COMMAND, reg, ETD_PS2_CUSTOM_COMMAND, val,
      kDP_SetMouseScaling1To1]
  else if s.hwVersion = 3 then
    elan [ETD_PS2_CUSTOM_COMMAND, ETD_REGISTER_READWRITE, ETD_PS2_CUSTOM_COMMAND, reg, ETD_PS2_CUSTOM_COMMAND,
      val, kDP_SetMouseScaling1To1]
  else if s.hwVersion = 4 then
    elan [ETD_PS2_CUSTOM_COMMAND, ETD_REGISTER_READWRITE, ETD_PS2_CUSTOM_COMMAND, reg, ETD_PS2_CUSTOM_COMMAND,
      ETD_REGISTER_READWRITE, ETD_PS2_CUSTOM_COMMAND, val, kDP_SetMouseScaling1To1]
  else (true, s)

/-- The commands before the register is read. -/
def Elantech_select_reg (reg : UInt8) : Step := fun s =>
  let elan := fun bytes => steps (bytes.map (sendElactechPS2Cmd w)) s
  if s.hwVersion = 1 then steps [sendSlicedPS2Cmd w ETD_REGISTER_READ, sendSlicedPS2Cmd w reg] s
  else if s.hwVersion = 2 then
    elan [ETD_PS2_CUSTOM_COMMAND, ETD_REGISTER_READ, ETD_PS2_CUSTOM_COMMAND, reg]
  else elan [ETD_PS2_CUSTOM_COMMAND, ETD_REGISTER_READWRITE, ETD_PS2_CUSTOM_COMMAND, reg]

def elanValue (hwVersion : UInt8) (param : List UInt8) : UInt8 :=
  if hwVersion ≠ 4 then param.getD 0 0 else param.getD 1 0

/-- The value of the register; other hardware than ELAN's has none, and the answer is
whatever the local `param` holds. -/
def Elantech_read_reg (reg : UInt8) (param : List UInt8) (s : Touchpad) : Bool × UInt8 × Touchpad :=
  if !isElanRegister reg then (false, 0, s)
  else if s.hwVersion ∈ ([1, 2, 3, 4] : List UInt8) then
    let (ok, t) := s.Elantech_select_reg w reg
    if ok then
      let (ok, param, t) := t.getMouseInformation w param
      (ok, elanValue s.hwVersion param, t)
    else (false, 0, t)
  else (true, elanValue s.hwVersion param, s)

/-- The loop that reads back register 0x10. -/
def readBack : Nat → Touchpad → Bool × UInt8 × Touchpad
  | 0, s => (false, 0, s)
  | tries + 1, s =>
    let (ok, val, s) := s.Elantech_read_reg w 0x10 []
    if ok then (true, val, s) else readBack tries s

/-- "Windows driver values" and others: the registers of each hardware version. -/
def Elantech_write_registers : Step := fun s =>
  if s.hwVersion = 1 then
    { s with elanTPad.reg_10 := 0x16, elanTPad.reg_11 := 0x8f } |>
      steps [Elantech_write_reg w 0x10 0x16, Elantech_write_reg w 0x11 0x8f]
  else if s.hwVersion = 2 then
    { s with elanTPad.reg_10 := 0x54, elanTPad.reg_11 := 0x88, elanTPad.reg_21 := 0x60 } |>
      steps [Elantech_write_reg w 0x10 0x54, Elantech_write_reg w 0x11 0x88, Elantech_write_reg w 0x21 0x60]
  else if s.hwVersion = 3 then
    let (ok, s) := { s with elanTPad.reg_10 := 0x0b }.Elantech_write_reg w 0x10 0x0b
    if ok then (true, s)
    else
      -- Try old register value '0x03'
      { s with elanTPad.v3ElanLegacyMode := true, elanTPad.reg_10 := 0x03 }.Elantech_write_reg w 0x10 0x03
  else if s.hwVersion = 4 then
    { s with elanTPad.reg_07 := 0x01 }.Elantech_write_reg w 0x07 0x01
  else (true, s)

def Elantech_set_absolute_mode : Step := fun s =>
  let (_, s) := s.command w [kDP_Reset]
  let (ok, s) := s.Elantech_write_registers w
  -- v4 has no reg 0x10 to read
  if !ok || s.hwVersion = 4 then (ok, s)
  else
    let (ok, val, s) := s.readBack w ETD_READ_BACK_TRIES
    if !ok then (false, s)
    -- touchpad refuses to switch to absolute mode
    else if s.hwVersion = 1 && val &&& ETD_R10_ABSOLUTE_MODE = 0 then (false, s)
    else (true, s)

/-! Detection. -/

def Synaptics_detect : Step := fun s =>
  let (knock, s) := s.command w (kDP_SetMouseScaling1To1 ::
    (List.replicate 4 [kDP_SetMouseResolution, 0]).flatten)
  let (ok, param, s) := s.getMouseInformation w [0, 0, 0]
  (knock && ok && param.getD 1 0 = 0x47, s)

def isFocaltechKnock (param : UInt8 × UInt8 × UInt8) : Bool :=
  param.1 = 0x3c && param.2.1 = 0xf0 && (param.2.2 = 0xc8 || param.2.2 = 0x00)

def isElanKnock (param : UInt8 × UInt8 × UInt8) : Bool :=
  param.1 = 0x3c && param.2.1 = 0x03 && (param.2.2 = 0xc8 || param.2.2 = 0x00)

/-- "Use magic knock to detect ELAN/FocalTech touchpads" -/
def magicKnock : List PS2Command :=
  mouseCommands [kDP_SetMouseScaling1To1, kDP_SetMouseScaling1To1, kDP_SetMouseScaling1To1, kDP_GetMouseInformation] ++
    List.replicate 3 readDataPort

def knockParam (a : Answer) : UInt8 × UInt8 × UInt8 := (a.inOrOut 4, a.inOrOut 5, a.inOrOut 6)

def Detect_touchpad : Step := fun s =>
  let (ok, s) := s.command w [kDP_SetDefaultsAndDisable]
  if !ok then (false, s)
  else
    let (ok, a, s) := s.request w magicKnock
    if s.touchpadVendor = .STD_FOCAL_TECH then (ok && isFocaltechKnock (knockParam a), s)
    else if isElanKnock (knockParam a) then (ok, { s with touchpadVendor := .STD_ELAN_TECH })
    else
      let (synaptics, s) := s.Synaptics_detect w
      (ok, { s with touchpadVendor := if synaptics then .STD_SYNAPTICS else .STD_MOUSE })

/-- The loop over the tries of `Reconnect_touchpad`. -/
def tryDetect : Nat → Step
  | 0, s => (false, s)
  | tries + 1, s =>
    let (ok, s) := s.Detect_touchpad w
    if ok then (true, s) else tryDetect tries s

/-- With it a reconnection has come to its end. -/
def touchpadEnabled : TouchpadSent := .setCommandByte kCB_EnableMouseIRQ kCB_DisableMouseClock

def Enable_touchpad (enable : Bool) (s : Touchpad) : Touchpad :=
  let s := s.when enable (send touchpadEnabled)
  (s.command w [if enable then kDP_Enable else kDP_SetDefaultsAndDisable]).2

/-- "Place the touchpad back into absolute mode." -/
def set_absolute_mode : Step := fun s =>
  match s.touchpadVendor with
  | .STD_FOCAL_TECH => s.Focaltech_set_absolute_mode w
  | .STD_ELAN_TECH => s.Elantech_set_absolute_mode w
  | .STD_SYNAPTICS => s.Synaptics_set_absolute_mode w
  | .STD_MOUSE => (true, s)

/-- Whether the touchpad has been enabled, as the last step of it. -/
def Reconnect_touchpad : Step := fun s =>
  let (_, s) := s.resetMouse w
  let (ok, s) := steps [tryDetect w 3, initializeMouse w, set_absolute_mode w] s
  if ok then (true, { s with packetByteCount := 0, mode := s.touchpadVendor }.Enable_touchpad w true)
  else (false, s)

end ApplePS2.Touchpad

/-! What they change. -/

namespace ApplePS2

def TouchpadSent.isRequest : TouchpadSent → Bool
  | .submitRequestAndBlock _ => true
  | .setCommandByte _ _ => true
  | _ => false

def TouchpadSent.isQuery : TouchpadSent → Bool
  | .submitRequestAndBlock _ => true
  | _ => false

def TouchpadSent.isKnock (m : TouchpadSent) : Bool := m = .submitRequestAndBlock Touchpad.magicKnock

/-- A reset that the device has acknowledged. -/
def TouchpadSent.isReset (a : Answer) : TouchpadSent → Bool
  | .submitRequestAndBlock commands => a.resets commands
  | _ => false

theorem TouchpadSent.isQuery_request {m : TouchpadSent} (h : m.isQuery = true) : m.isRequest = true := by
  cases m with
  | submitRequestAndBlock commands => rfl
  | _ => cases h

theorem TouchpadSent.no_request_reset {m : TouchpadSent} (h : m.isRequest = false) (a : Answer) : m.isReset a = false := by
  cases m with
  | submitRequestAndBlock commands => cases h
  | _ => rfl

namespace Touchpad

variable {w : TouchpadWorld}

/-- The state without what the driver knows of the device, the device's mode and what has been sent. -/
def rest (s : Touchpad) : Touchpad := { s with elanTPad := default, synTPad := default, mode := .STD_MOUSE, log := [] }

/-- Only such messages have been sent. -/
def Sent (P : TouchpadSent → Prop) (s t : Touchpad) : Prop := ∃ log, t.log = s.log ++ log ∧ ∀ m ∈ log, P m

theorem Sent.none (P : TouchpadSent → Prop) {s t : Touchpad} (h : t.log = s.log) : Sent P s t :=
  ⟨[], by rw [h, List.append_nil], fun _ h => absurd h List.not_mem_nil⟩

theorem sent_send {P : TouchpadSent → Prop} {m : TouchpadSent} (h : P m) (s : Touchpad) : Sent P s (s.send m) :=
  ⟨[m], rfl, fun _ hm => List.mem_singleton.1 hm ▸ h⟩

theorem Sent.trans {P : TouchpadSent → Prop} {s t u : Touchpad} (h : Sent P s t) (h' : Sent P t u) : Sent P s u := by
  obtain ⟨log, hlog, hP⟩ := h
  obtain ⟨log', hlog', hP'⟩ := h'
  refine ⟨log ++ log', by rw [hlog', hlog, List.append_assoc], fun m hm => ?_⟩
  rcases List.mem_append.mp hm with hm | hm
  · exact hP m hm
  · exact hP' m hm

theorem Sent.mono {P Q : TouchpadSent → Prop} {s t : Touchpad} (h : Sent P s t) (hPQ : ∀ m, P m → Q m) :
    Sent Q s t := by
  obtain ⟨log, hlog, hsent⟩ := h
  exact ⟨log, hlog, fun m hm => hPQ m (hsent m hm)⟩

/-! Values that are changed message by message. -/

section Replay

variable {α : Type} (f : α → Nat → TouchpadSent → α)

/-- The value after these messages, the first of which is at place `n` of the log. -/
def replay : α → Nat → List TouchpadSent → α
  | a, _, [] => a
  | a, n, m :: log => replay (f a n m) (n + 1) log

theorem replay_append (a : α) (n : Nat) (log log' : List TouchpadSent) :
    replay f a n (log ++ log') = replay f (replay f a n log) (n + log.length) log' := by
  induction log generalizing a n with
  | nil => rfl
  | cons m log ih =>
    show replay f (f a n m) (n + 1) (log ++ log') = _
    rw [ih, List.length_cons, Nat.add_right_comm, Nat.add_assoc]
    rfl

variable {f}

theorem replay_none {log : List TouchpadSent} (h : ∀ m ∈ log, ∀ a n, f a n m = a) (a : α) (n : Nat) :
    replay f a n log = a := by
  induction log generalizing n with
  | nil => rfl
  | cons m log ih =>
    show replay f (f a n m) (n + 1) log = a
    rw [h m (List.mem_cons_self ..)]
    exact ih (fun m hm => h m (List.mem_cons_of_mem _ hm)) _

variable (f)

/-- The value is what the messages sent in between make of it. -/
def Replayed (value : Touchpad → α) (s t : Touchpad) : Prop :=
  ∃ log, t.log = s.log ++ log ∧ value t = replay f (value s) s.log.length log

variable {f} {value : Touchpad → α}

theorem Replayed.trans {s t u : Touchpad} (h : Replayed f value s t) (h' : Replayed f value t u) :
    Replayed f value s u := by
  obtain ⟨log, hlog, hvalue⟩ := h
  obtain ⟨log', hlog', hvalue'⟩ := h'
  refine ⟨log ++ log', by rw [hlog', hlog, List.append_assoc], ?_⟩
  rw [hvalue', hvalue, replay_append, hlog, List.length_append]

theorem Sent.replayed {P : TouchpadSent → Prop} {s t : Touchpad} (h : Sent P s t)
    (hP : ∀ m, P m → ∀ a n, f a n m = a) (hvalue : value t = value s) : Replayed f value s t := by
  obtain ⟨log, hlog, hsent⟩ := h
  exact ⟨log, hlog, by rw [replay_none fun m hm => hP m (hsent m hm), hvalue]⟩

end Replay

/-- The mode after a message. -/
def resetsMode (w : TouchpadWorld) (v : TouchpadVendor) (n : Nat) (m : TouchpadSent) : TouchpadVendor :=
  if m.isReset (w.answer n) then .STD_MOUSE else v

theorem replay_plain {log : List TouchpadSent} (h : ∀ m ∈ log, m.isRequest = false) (v : TouchpadVendor) (n : Nat) :
    replay (resetsMode w) v n log = v := by
  refine replay_none (fun m hm v n => if_neg ?_) v n
  rw [TouchpadSent.no_request_reset (h m hm)]
  exact Bool.false_ne_true

/-- Requests have been sent, none of which identifies the touchpad, and the registers and
modes of the device noted. -/
structure Talked (w : TouchpadWorld) (s t : Touchpad) : Prop where
  rest : t.rest = s.rest
  sent : Sent (fun m => m.isQuery = true ∧ m.isKnock = false) s t
  mode : Replayed (resetsMode w) Touchpad.mode s t

theorem Talked.refl (s : Touchpad) : Talked w s s := ⟨rfl, .none _ rfl, [], (List.append_nil _).symm, rfl⟩

theorem Talked.trans {s t u : Touchpad} (h : Talked w s t) (h' : Talked w t u) : Talked w s u :=
  ⟨h'.rest.trans h.rest, h.sent.trans h'.sent, h.mode.trans h'.mode⟩

theorem Talked.elan {s t : Touchpad} {elan : ElanTPad} (h : Talked w { s with elanTPad := elan } t) : Talked w s t :=
  ⟨h.rest, h.sent, h.mode⟩

theorem Talked.syn {s t : Touchpad} {syn : SynTPad} (h : Talked w { s with synTPad := syn } t) : Talked w s t :=
  ⟨h.rest, h.sent, h.mode⟩

theorem mode_submit (commands : List PS2Command) (s : Touchpad) :
    Replayed (resetsMode w) Touchpad.mode s (s.submitRequestAndBlock w commands).2 :=
  ⟨[.submitRequestAndBlock commands], rfl, rfl⟩

theorem talked_submit {commands : List PS2Command} (h : commands ≠ magicKnock) (s : Touchpad) :
    Talked w s (s.submitRequestAndBlock w commands).2 :=
  ⟨rfl, sent_send ⟨rfl, by simp [TouchpadSent.isKnock, h]⟩ s, mode_submit commands s⟩

def Talks (w : TouchpadWorld) (f : Step) : Prop := ∀ s, Talked w s (f s).2

theorem talks_steps {fs : List Step} (h : ∀ f ∈ fs, Talks w f) : Talks w (steps fs) := by
  induction fs with
  | nil => exact .refl
  | cons f fs ih =>
    intro s
    have hf := h f (List.mem_cons_self ..) s
    unfold steps
    dsimp only
    split
    · exact hf.trans (ih (fun g hg => h g (List.mem_cons_of_mem _ hg)) _)
    · exact hf

theorem mouseCommands_ne_magicKnock (bytes : List UInt8) : mouseCommands bytes ≠ magicKnock := by
  intro h
  have hread : readDataPort ∈ mouseCommands bytes := h ▸ (by decide : readDataPort ∈ magicKnock)
  obtain ⟨b, _, hb⟩ := List.mem_map.1 hread
  cases congrArg PS2Command.command hb

theorem talks_command (bytes : List UInt8) : Talks w (command w bytes) :=
  talked_submit (w := w) (mouseCommands_ne_magicKnock bytes)

theorem talked_getMouseInformation (param : List UInt8) (s : Touchpad) :
    Talked w s (s.getMouseInformation w param).2.2 := talked_submit (w := w) (by decide) s

theorem talks_tryPS2Cmd (cmd : UInt8) (tries : Nat) : Talks w (tryPS2Cmd w cmd tries) := by
  induction tries with
  | zero => exact .refl
  | succ tries ih =>
    intro s
    have hfirst := talks_command (w := w) [cmd] s
    unfold tryPS2Cmd
    dsimp only
    split
    · exact hfirst
    · exact hfirst.trans (ih _)

theorem talks_elan (bytes : List UInt8) : Talks w (steps (bytes.map (sendElactechPS2Cmd w))) := by
  apply talks_steps
  intro f hf
  obtain ⟨cmd, _, rfl⟩ := List.mem_map.mp hf
  exact talks_tryPS2Cmd cmd _

theorem talks_sliced (cmd : UInt8) : Talks w (sendSlicedPS2Cmd w cmd) := talks_command _

theorem talks_initializeMouse : Talks w (initializeMouse w) := by
  intro s
  have hset := talks_command (w := w) [kDP_SetMouseSampleRate, s.ps2Mouse.mSampleRate, kDP_SetMouseResolution,
    s.ps2Mouse.mResolution, s.ps2Mouse.mScaling] s
  unfold initializeMouse
  dsimp only
  split
  · exact (hset.trans (talked_getMouseInformation [] _)).trans (talked_submit (w := w) (by decide) _)
  · exact hset

theorem talks_Synaptics_mode_cmd (mode : UInt8) : Talks w (Synaptics_mode_cmd w mode) := by
  apply talks_steps
  intro f hf
  simp only [List.mem_cons, List.not_mem_nil, or_false] at hf
  rcases hf with rfl | rfl | rfl
  · exact talks_sliced _
  · exact talks_command _
  · exact talks_command _

theorem talks_advancedGestureMode : Talks w (Synaptics_set_advanced_gesture_mode w) := by
  intro s
  unfold Synaptics_set_advanced_gesture_mode
  dsimp only
  have hsteps : Talks w (steps [sendSlicedPS2Cmd w SYN_QUE_MODEL, sendPS2Cmd w kDP_SetMouseSampleRate,
      sendPS2Cmd w 0xc8]) := by
    apply talks_steps
    intro f hf
    simp only [List.mem_cons, List.not_mem_nil, or_false] at hf
    rcases hf with rfl | rfl | rfl
    · exact talks_sliced _
    · exact talks_command _
    · exact talks_command _
  have hgesture := hsteps s
  split
  · exact .refl s
  · split
    · exact ⟨hgesture.rest, hgesture.sent, hgesture.mode⟩
    · exact hgesture

theorem talks_Synaptics_set_absolute_mode : Talks w (Synaptics_set_absolute_mode w) := by
  intro s
  unfold Synaptics_set_absolute_mode
  dsimp only
  split
  · apply Talked.syn
    refine talks_steps (fun f hf => ?_) _
    simp only [List.mem_cons, List.not_mem_nil, or_false] at hf
    rcases hf with rfl | rfl
    · exact talks_Synaptics_mode_cmd _
    · exact talks_advancedGestureMode
  · exact Talked.syn (talks_Synaptics_mode_cmd _ _)

theorem talks_Elantech_write_reg (reg val : UInt8) : Talks w (Elantech_write_reg w reg val) := by
  intro s
  have hv1 : Talks w (steps [sendSlicedPS2Cmd w ETD_REGISTER_WRITE, sendSlicedPS2Cmd w reg, sendSlicedPS2Cmd w val,
      sendPS2Cmd w kDP_SetMouseScaling1To1]) := by
    apply talks_steps
    intro f hf
    simp only [List.mem_cons, List.not_mem_nil, or_false] at hf
    rcases hf with rfl | rfl | rfl | rfl
    · exact talks_sliced _
    · exact talks_sliced _
    · exact talks_sliced _
    · exact talks_command _
  unfold Elantech_write_reg
  dsimp only
  repeat' split
  · exact .refl s
  · exact hv1 s
  · exact talks_elan _ s
  · exact talks_elan _ s
  · exact talks_elan _ s
  · exact .refl s

theorem talks_Elantech_select_reg (reg : UInt8) : Talks w (Elantech_select_reg w reg) := by
  intro s
  have hv1 : Talks w (steps [sendSlicedPS2Cmd w ETD_REGISTER_READ, sendSlicedPS2Cmd w reg]) := by
    apply talks_steps
    intro f hf
    simp only [List.mem_cons, List.not_mem_nil, or_false] at hf
    rcases hf with rfl | rfl
    · exact talks_sliced _
    · exact talks_sliced _
  unfold Elantech_select_reg
  dsimp only
  repeat' split
  · exact hv1 s
  · exact talks_elan _ s
  · exact talks_elan _ s

theorem talked_Elantech_read_reg (reg : UInt8) (param : List UInt8) (s : Touchpad) :
    Talked w s (s.Elantech_read_reg w reg param).2.2 := by
  have hselect := talks_Elantech_select_reg (w := w) reg s
  unfold Elantech_read_reg
  dsimp only
  repeat' split
  · exact .refl s
  · exact hselect.trans (talked_getMouseInformation (w := w) param _)
  · exact hselect
  · exact .refl s

theorem talked_readBack (tries : Nat) (s : Touchpad) : Talked w s (s.readBack w tries).2.2 := by
  induction tries generalizing s with
  | zero => exact .refl s
  | succ tries ih =>
    have hread := talked_Elantech_read_reg (w := w) 0x10 [] s
    unfold readBack
    dsimp only
    split
    · exact hread
    · exact hread.trans (ih _)

theorem talks_Elantech_write_registers : Talks w (Elantech_write_registers w) := by
  intro s
  have hwrite : ∀ l : List (UInt8 × UInt8), Talks w (steps (l.map fun r => Elantech_write_reg w r.1 r.2)) := by
    intro l
    apply talks_steps
    intro f hf
    obtain ⟨r, _, rfl⟩ := List.mem_map.mp hf
    exact talks_Elantech_write_reg r.1 r.2
  unfold Elantech_write_registers
  dsimp only
  repeat' split
  · exact (hwrite [(0x10, 0x16), (0x11, 0x8f)] _).elan
  · exact (hwrite [(0x10, 0x54), (0x11, 0x88), (0x21, 0x60)] _).elan
  · exact (talks_Elantech_write_reg _ _ _).elan
  · exact (talks_Elantech_write_reg _ _ _).elan.trans (talks_Elantech_write_reg _ _ _).elan
  · exact (talks_Elantech_write_reg _ _ _).elan
  · exact .refl s

theorem talks_Elantech_set_absolute_mode : Talks w (Elantech_set_absolute_mode w) := by
  intro s
  have hreset := talks_command (w := w) [kDP_Reset] s
  have hregs := hreset.trans (talks_Elantech_write_registers (w := w) _)
  have hback := hregs.trans (talked_readBack (w := w) ETD_READ_BACK_TRIES _)
  unfold Elantech_set_absolute_mode
  dsimp only
  repeat' split
  · exact hregs
  · exact hback
  · exact hback
  · exact hback

theorem talks_set_absolute_mode : Talks w (set_absolute_mode w) := by
  intro s
  unfold set_absolute_mode
  split
  · exact talks_command _ s
  · exact talks_Elantech_set_absolute_mode s
  · exact talks_Synaptics_set_absolute_mode s
  · exact .refl s

theorem talks_Synaptics_detect : Talks w (Synaptics_detect w) := fun s =>
  (talks_command (w := w) _ s).trans (talked_getMouseInformation (w := w) [0, 0, 0] _)

theorem talked_disable (s : Touchpad) : Talked w s (s.Enable_touchpad w false) := talks_command _ s

/-! What the answers to the magic knock identify. -/

/-- The answers to the two requests of `Synaptics_detect`. -/
def isSynaptics (knock a : Answer) : Bool :=
  knock.commandsCount = 9 && a.commandsCount = 4 && a.inOrOut 2 = 0x47

/-- The vendor by the answers to the magic knock at this place of the log, and to what follows it. -/
def knocked (w : TouchpadWorld) (v : TouchpadVendor) (n : Nat) : TouchpadVendor :=
  if v = .STD_FOCAL_TECH then v
  else if isElanKnock (knockParam (w.answer n)) then .STD_ELAN_TECH
  else if isSynaptics (w.answer (n + 1)) (w.answer (n + 2)) then .STD_SYNAPTICS
  else .STD_MOUSE

/-- The vendor after a message. -/
def identifies (w : TouchpadWorld) (v : TouchpadVendor) (n : Nat) (m : TouchpadSent) : TouchpadVendor :=
  if m.isKnock then knocked w v n else v

theorem identifies_none {log : List TouchpadSent} (h : ∀ m ∈ log, m.isKnock = false) :
    ∀ m ∈ log, ∀ v n, identifies w v n m = v := fun m hm _ _ => if_neg (by simp [h m hm])

/-- The vendor is the one that the answers identify. -/
def Identified (w : TouchpadWorld) : Touchpad → Touchpad → Prop := Replayed (identifies w) touchpadVendor

theorem Sent.identified {P : TouchpadSent → Prop} {s t : Touchpad} (h : Sent P s t)
    (hP : ∀ m, P m → m.isKnock = false) (hvendor : t.touchpadVendor = s.touchpadVendor) : Identified w s t :=
  h.replayed (fun m hm _ _ => if_neg (by simp [hP m hm])) hvendor

/-- A reconnection may change the vendor. -/
structure Detected (w : TouchpadWorld) (s t : Touchpad) : Prop where
  rest : t.rest = { s with touchpadVendor := t.touchpadVendor }.rest
  sent : Sent (fun m => m.isRequest = true) s t
  vendor : Identified w s t

/-- What depends neither on it, nor on what the driver knows of the device, nor on the log, is kept. -/
theorem Detected.same {α : Type} {s t : Touchpad} (h : Detected w s t) (f : Touchpad → α) (hf : ∀ u, f u.rest = f u)
    (hv : ∀ u v, f { u with touchpadVendor := v } = f u) : f t = f s := by
  rw [← hf t, h.rest, hf, hv]

theorem Talked.vendor {s t : Touchpad} (h : Talked w s t) : t.touchpadVendor = s.touchpadVendor := by
  show t.rest.touchpadVendor = s.rest.touchpadVendor
  rw [h.rest]

theorem Detected.trans {s t u : Touchpad} (h : Detected w s t) (h' : Detected w t u) : Detected w s u := by
  refine ⟨?_, h.sent.trans h'.sent, h.vendor.trans h'.vendor⟩
  have hmove := congrArg (fun r : Touchpad => { r with touchpadVendor := u.touchpadVendor }) h.rest
  exact h'.rest.trans hmove

theorem Talked.detected {s t : Touchpad} (h : Talked w s t) : Detected w s t := by
  refine ⟨?_, h.sent.mono fun _ h => TouchpadSent.isQuery_request h.1, h.sent.identified (fun _ h => h.2) h.vendor⟩
  rw [h.vendor]
  exact h.rest

/-- So does a detection, which does not enable the touchpad. -/
structure Probed (w : TouchpadWorld) (s t : Touchpad) : Prop extends Detected w s t where
  asked : Sent (fun m => m.isQuery = true) s t
  mode : Replayed (resetsMode w) Touchpad.mode s t

theorem Probed.trans {s t u : Touchpad} (h : Probed w s t) (h' : Probed w t u) : Probed w s u :=
  ⟨h.toDetected.trans h'.toDetected, h.asked.trans h'.asked, h.mode.trans h'.mode⟩

theorem Talked.probed {s t : Touchpad} (h : Talked w s t) : Probed w s t :=
  ⟨h.detected, h.sent.mono fun _ h => h.1, h.mode⟩

/-- The magic knock, the query of Synaptics' touchpads that may follow it, and the vendor. -/
theorem probed_knock {s t : Touchpad} (h : Talked w (s.submitRequestAndBlock w magicKnock).2 t) :
    Probed w s { t with touchpadVendor := knocked w s.touchpadVendor s.log.length } := by
  have hknock : Sent (fun m => m.isQuery = true) s (s.submitRequestAndBlock w magicKnock).2 :=
    sent_send (P := fun m => m.isQuery = true) (m := .submitRequestAndBlock magicKnock) rfl s
  have hasked := hknock.trans (h.sent.mono fun _ h => h.1)
  refine ⟨⟨?_, hasked.mono fun _ h => TouchpadSent.isQuery_request h, ?_⟩, hasked, (mode_submit _ s).trans h.mode⟩
  · exact congrArg (fun r : Touchpad => { r with touchpadVendor := knocked w s.touchpadVendor s.log.length }) h.rest
  · obtain ⟨log, hlog, hplain⟩ := h.sent
    refine ⟨.submitRequestAndBlock magicKnock :: log, ?_, ?_⟩
    · show t.log = _
      rw [hlog]
      exact List.append_assoc s.log [_] log
    · exact (replay_none (identifies_none fun m hm => (hplain m hm).2) _ _).symm

theorem Synaptics_detect_fst (s : Touchpad) : (s.Synaptics_detect w).1 =
    isSynaptics (w.answer s.log.length) (w.answer (s.log.length + 1)) := by
  unfold Synaptics_detect getMouseInformation command request submitRequestAndBlock isSynaptics
  simp only [send, List.length_append, List.length_singleton]
  by_cases hcount : (w.answer (s.log.length + 1)).commandsCount = 4
  · simp [hcount, mouseCommands, informationCommands]
  · simp [hcount, mouseCommands, informationCommands]

theorem probed_Detect_touchpad (s : Touchpad) : Probed w s (s.Detect_touchpad w).2 := by
  have hreset := talks_command (w := w) [kDP_SetDefaultsAndDisable] s
  unfold Detect_touchpad
  dsimp only
  generalize (s.command w [kDP_SetDefaultsAndDisable]).2 = t at hreset ⊢
  split
  · exact hreset.probed
  refine hreset.probed.trans ?_
  have hvendor : ∀ v, knocked w t.touchpadVendor t.log.length = v → ∀ u,
      Talked w (t.submitRequestAndBlock w magicKnock).2 u → Probed w t { u with touchpadVendor := v } := by
    rintro v rfl u hu
    exact probed_knock hu
  have hquery := talks_Synaptics_detect (w := w) (t.submitRequestAndBlock w magicKnock).2
  have hanswer : (Synaptics_detect w (t.submitRequestAndBlock w magicKnock).2).1 =
      isSynaptics (w.answer (t.log.length + 1)) (w.answer (t.log.length + 2)) := by
    rw [Synaptics_detect_fst]
    simp [submitRequestAndBlock, send]
  split
  · next hfocaltech => exact hvendor t.touchpadVendor (if_pos hfocaltech) _ (.refl _)
  next hother =>
  have hother : t.touchpadVendor ≠ .STD_FOCAL_TECH := hother
  split
  · next hknock => exact hvendor .STD_ELAN_TECH (by rw [knocked, if_neg hother]; exact if_pos hknock) _ (.refl _)
  next hknock =>
  refine hvendor _ ?_ _ hquery
  rw [knocked, if_neg hother]
  refine (if_neg hknock).trans ?_
  rw [← hanswer]
  rfl

theorem probed_tryDetect (tries : Nat) (s : Touchpad) : Probed w s (tryDetect w tries s).2 := by
  induction tries generalizing s with
  | zero => exact (Talked.refl s).probed
  | succ tries ih =>
    have hfirst := probed_Detect_touchpad (w := w) s
    unfold tryDetect
    dsimp only
    split
    · exact hfirst
    · exact hfirst.trans (ih _)

theorem talked_resetMouse (s : Touchpad) : Talked w s (s.resetMouse w).2 := talked_submit (w := w) (by decide) s

theorem steps_fst_snd (f : Step) (fs : List Step) (s : Touchpad) :
    steps (f :: fs) s = if (f s).1 then steps fs (f s).2 else (false, (f s).2) := rfl

theorem probed_reconnectSteps (s : Touchpad) :
    Probed w s (steps [tryDetect w 3, initializeMouse w, set_absolute_mode w] (s.resetMouse w).2).2 := by
  have hdetect := (talked_resetMouse (w := w) s).probed.trans (probed_tryDetect (w := w) 3 _)
  have hrest : Talks w (steps [initializeMouse w, set_absolute_mode w]) := by
    apply talks_steps
    intro f hf
    simp only [List.mem_cons, List.not_mem_nil, or_false] at hf
    rcases hf with rfl | rfl
    · exact talks_initializeMouse
    · exact talks_set_absolute_mode
  rw [steps_fst_snd]
  split
  · exact hdetect.trans (hrest _).probed
  · exact hdetect

/-- The device has got its answers, and stays in the mouse's mode once it has been reset; or the touchpad
has been enabled at the end of a reconnection, in the vendor's mode. -/
inductive Placed (w : TouchpadWorld) (s t : Touchpad) : Prop
  | left (log : List TouchpadSent) (hlog : t.log = s.log ++ log)
      (hmode : t.mode = replay (resetsMode w) s.mode s.log.length log) (hlast : ∀ m ∈ log, m ≠ touchpadEnabled)
  | enabled (before after : List TouchpadSent) (hlog : t.log = s.log ++ (before ++ touchpadEnabled :: after))
      (hmode : t.mode = t.touchpadVendor) (hlast : ∀ m ∈ after, ∀ a, m.isReset a = false)

/-- What a reconnection comes to: it returns early, or enables the touchpad. -/
theorem Reconnect_touchpad_snd (s : Touchpad) : ∃ t, Probed w s t ∧ ((s.Reconnect_touchpad w).2 = t ∨
    (s.Reconnect_touchpad w).2 = { t with packetByteCount := 0, mode := t.touchpadVendor }.Enable_touchpad w true) := by
  refine ⟨_, probed_reconnectSteps (w := w) s, ?_⟩
  unfold Reconnect_touchpad
  dsimp only
  split
  · exact .inr rfl
  · exact .inl rfl

/-- The end of a reconnection. -/
theorem talked_enable (s : Touchpad) : Talked w (s.send touchpadEnabled) (s.Enable_touchpad w true) := talks_command _ _

theorem detected_enabled (s : Touchpad) : Detected w s (s.send touchpadEnabled) := by
  have hsent : Sent (· = touchpadEnabled) s (s.send touchpadEnabled) := sent_send (P := (· = touchpadEnabled)) rfl s
  have hplain : ∀ m, m = touchpadEnabled → m.isRequest = true ∧ m.isKnock = false := by
    rintro m rfl
    exact ⟨rfl, rfl⟩
  exact ⟨rfl, hsent.mono fun m hm => (hplain m hm).1, hsent.identified (fun m hm => (hplain m hm).2) rfl⟩

theorem enable_isReset (a : Answer) : (TouchpadSent.submitRequestAndBlock (mouseCommands [kDP_Enable])).isReset a = false := by
  have hno : ⟨.kPS2C_SendMouseCommandAndCompareAck, kDP_Reset⟩ ∉ mouseCommands [kDP_Enable] := by decide
  exact decide_eq_false fun h => hno (List.mem_of_mem_take h)

/-- A reconnection changes the vendor, the device's mode and what the driver knows of the device; when it
completes, no byte of a packet is left. -/
theorem detected_Reconnect_touchpad (s : Touchpad) :
    Detected w s (s.Reconnect_touchpad w).2 ∨
      Detected w { s with packetByteCount := 0 } (s.Reconnect_touchpad w).2 := by
  obtain ⟨t, ht, heq | heq⟩ := Reconnect_touchpad_snd (w := w) s
  · rw [heq]
    exact .inl ht.toDetected
  · right
    have hcount : Detected w { s with packetByteCount := 0 } { t with packetByteCount := 0, mode := t.touchpadVendor } :=
      ⟨congrArg (fun t : Touchpad => { t with packetByteCount := 0 }) ht.rest, ht.sent, ht.vendor⟩
    rw [heq]
    exact (hcount.trans (detected_enabled _)).trans (talked_enable _).detected

theorem Probed.placed {s t : Touchpad} (h : Probed w s t) : Placed w s t := by
  obtain ⟨log, hlog, hmode⟩ := h.mode
  obtain ⟨log', hlog', hasked⟩ := h.asked
  obtain rfl : log = log' := List.append_cancel_left (hlog.symm.trans hlog')
  refine .left log hlog hmode fun m hm henabled => ?_
  rw [henabled] at hm
  cases hasked touchpadEnabled hm

theorem placed_Reconnect_touchpad (s : Touchpad) : Placed w s (s.Reconnect_touchpad w).2 := by
  obtain ⟨t, ht, heq | heq⟩ := Reconnect_touchpad_snd (w := w) s
  · rw [heq]
    exact ht.placed
  · obtain ⟨before, hbefore, -⟩ := ht.asked
    have hmode : ({ t with packetByteCount := 0, mode := t.touchpadVendor }.Enable_touchpad w true).mode =
        t.touchpadVendor := if_neg (by rw [← Bool.not_eq_false]; exact not_not_intro (enable_isReset _))
    refine .enabled before [.submitRequestAndBlock (mouseCommands [kDP_Enable])] ?_ ?_ ?_
    · rw [heq]
      show (t.log ++ [touchpadEnabled]) ++ [.submitRequestAndBlock (mouseCommands [kDP_Enable])] = _
      rw [hbefore, List.append_assoc, List.append_assoc]
      rfl
    · rw [heq]
      exact hmode
    · intro m hm a
      obtain rfl := List.mem_singleton.1 hm
      exact enable_isReset a

/-- What a reconnection leaves alone. -/
theorem Reconnect_touchpad_same {α : Type} (f : Touchpad → α) (hf : ∀ u, f u.rest = f u)
    (hv : ∀ u v, f { u with touchpadVendor := v } = f u)
    (hm : ∀ u, f { u with packetByteCount := 0 } = f u) (s : Touchpad) :
    f (s.Reconnect_touchpad w).2 = f s := by
  obtain h | h := detected_Reconnect_touchpad (w := w) s
  · exact h.same f hf hv
  · exact (h.same f hf hv).trans (hm s)

end ApplePS2.Touchpad
