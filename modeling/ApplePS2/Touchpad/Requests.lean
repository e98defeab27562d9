import ApplePS2.Ownership
import ApplePS2.Controller.TestAndSet
import ApplePS2.Touchpad.Reconnect

/- Whose requests are when: the drivers allocate a request, submit it and free it, and the
   controller frees those without a completion action (`PS2Interface.cpp`, and `setLEDs`
   and `setKeyboardEnable` of the keyboard driver).

   1. `CommandFunction.balanced_iff`: when a command function of the touchpad driver
      submits allocated requests only and frees each once.
   2. `requests_owned_iff`: the same for those of the keyboard driver, which leave a
      request to the work loop. -/
namespace ApplePS2.Touchpad

open Ownership (Owned)

/-- What becomes of each request that is submitted, by its number. -/
abbrev Processing := Nat → PS2Request → PS2Request

/-- A driver that uses requests; a request's handle is the number of its allocation. -/
structure Client where
  allocated : Nat
  submitted : Nat
  events : List (Ownership.Event Nat)

/-- What the controller does with a request at its end. -/
def controllerEnds (h : Nat) (r : PS2Request) : List (Ownership.Event Nat) :=
  if r.finish = [.freed] then [.free h] else []

namespace Client

def start : Client := ⟨0, 0, []⟩

def allocateRequest (c : Client) : Nat × Client :=
  (c.allocated, { c with allocated := c.allocated + 1, events := c.events ++ [.allocate c.allocated] })

/-- The commands are filled in, or the answers read. -/
def access (h : Nat) (c : Client) : Client := { c with events := c.events ++ [.access h] }

def freeRequest (h : Nat) (c : Client) : Client := { c with events := c.events ++ [.free h] }

/-- With the commands of the request, and a completion action. -/
def submitRequestAndBlock (process : Processing) (h : Nat) (r : PS2Request) (c : Client) : PS2Request × Client :=
  let r := { r with completionTarget := true, completionAction := true }
  (process c.submitted r,
    { c with submitted := c.submitted + 1, events := c.events ++ .submit h :: controllerEnds h r })

/-! The functions. -/

def newRequest (cs : List PS2Command) (h : cs.length ≤ kMaxCommands) : PS2Request := ApplePS2.allocateRequest.load cs h

def elantechRequest (cmd : UInt8) : PS2Request :=
  newRequest (mouseCommands [ETD_PS2_CUSTOM_COMMAND, cmd, kDP_GetMouseInformation] ++ List.replicate 3 readDataPort)
    (by show 6 ≤ 20; decide)

def ps2Request (cmd : UInt8) : PS2Request := newRequest (mouseCommands [cmd]) (by show 1 ≤ 20; decide)

def slicedRequest (cmd : UInt8) : PS2Request := newRequest (mouseCommands (slicedBytes cmd)) (by show 9 ≤ 20; decide)

def informationRequest : PS2Request := newRequest informationCommands (by decide)

def statusRequest : PS2Request := newRequest statusCommands (by decide)

def initializeRequest (mSampleRate mResolution mScaling : UInt8) : PS2Request :=
  newRequest (mouseCommands (initializeBytes mSampleRate mResolution mScaling)) (by show 5 ≤ 20; decide)

def resetRequest : PS2Request := newRequest resetCommands (by decide)

variable (process : Processing)

/-- A new request is filled in and submitted, and its answer is read. -/
def newSubmit (r : PS2Request) (c : Client) : Nat × PS2Request × Client :=
  let (h, c) := c.allocateRequest
  let (r, c) := (c.access h).submitRequestAndBlock process h r
  (h, r, c.access h)

def sendElantechCmd (cmd : UInt8) (c : Client) : Bool × List UInt8 × Client :=
  let (h, r, c) := c.newSubmit process (elantechRequest cmd)
  let done := r.commandsCount = 6
  -- freed here when a command has failed, and once more below
  let c := if done then c else c.freeRequest h
  (done, [r.inOrOut 3, r.inOrOut 4, r.inOrOut 5], c.freeRequest h)

/-- The loop over the tries; the request is freed in each of them. -/
def tryPS2Cmd (cmd : UInt8) (h : Nat) : Nat → Client → Bool × Client
  | 0, c => (false, c)
  | tries + 1, c =>
    let (r, c) := (c.access h).submitRequestAndBlock process h (ps2Request cmd)
    let c := (c.access h).freeRequest h
    if r.commandsCount = 1 then (true, c) else tryPS2Cmd cmd h tries c

def sendElactechPS2Cmd (cmd : UInt8) (c : Client) : Bool × Client :=
  let (h, c) := c.allocateRequest
  tryPS2Cmd process cmd h ETD_PS2_COMMAND_TRIES c

def sendPS2Cmd (cmd : UInt8) (c : Client) : Bool × Client :=
  let (h, r, c) := c.newSubmit process (ps2Request cmd)
  (r.commandsCount = 1, c.freeRequest h)

def sendSlicedPS2Cmd (cmd : UInt8) (c : Client) : Bool × Client :=
  let (h, r, c) := c.newSubmit process (slicedRequest cmd)
  let done := r.commandsCount = 9
  -- as in `sendElantechCmd`
  let c := if done then c else c.freeRequest h
  (done, c.freeRequest h)

def getMouseInformation (c : Client) : Bool × List UInt8 × Client :=
  let (h, r, c) := c.newSubmit process informationRequest
  (r.commandsCount = 4, [r.inOrOut 1, r.inOrOut 2, r.inOrOut 3], c.freeRequest h)

def getStatus (c : Client) : Bool × Client :=
  let (h, r, c) := c.newSubmit process statusRequest
  (r.commandsCount = 7, c.freeRequest h)

def initializeMouse (mSampleRate mResolution mScaling : UInt8) (c : Client) : Bool × Client :=
  let (h, r, c) := c.newSubmit process (initializeRequest mSampleRate mResolution mScaling)
  let c := c.freeRequest h
  if r.commandsCount = 5 then
    let (_, _, c) := c.getMouseInformation process
    (true, (c.getStatus process).2)
  else (false, c)

def resetMouse (c : Client) : Bool × Client :=
  let (h, r, c) := c.newSubmit process resetRequest
  (r.commandsCount = 5 && (r.inOrOut 2 = kSC_Reset || r.inOrOut 3 = kSC_Reset || r.inOrOut 4 = kSC_Reset),
    c.freeRequest h)

end Client

/-! The touchpad driver. -/

inductive CommandFunction where
  | sendElantechCmd (cmd : UInt8)
  | sendElactechPS2Cmd (cmd : UInt8)
  | sendSlicedPS2Cmd (cmd : UInt8)
  | sendPS2Cmd (cmd : UInt8)
  | getMouseInformation
  | getStatus
  | initializeMouse (mSampleRate mResolution mScaling : UInt8)
  | resetMouse

namespace CommandFunction

/-- What it does to requests. -/
def events (process : Processing) : CommandFunction → List (Ownership.Event Nat)
  | .sendElantechCmd cmd => (Client.start.sendElantechCmd process cmd).2.2.events
  | .sendElactechPS2Cmd cmd => (Client.start.sendElactechPS2Cmd process cmd).2.events
  | .sendSlicedPS2Cmd cmd => (Client.start.sendSlicedPS2Cmd process cmd).2.events
  | .sendPS2Cmd cmd => (Client.start.sendPS2Cmd process cmd).2.events
  | .getMouseInformation => (Client.start.getMouseInformation process).2.2.events
  | .getStatus => (Client.start.getStatus process).2.events
  | .initializeMouse mSampleRate mResolution mScaling =>
    (Client.start.initializeMouse process mSampleRate mResolution mScaling).2.events
  | .resetMouse => (Client.start.resetMouse process).2.events

/-- The request as it comes back from the first submit. -/
def first (process : Processing) (r : PS2Request) : PS2Request :=
  process 0 { r with completionTarget := true, completionAction := true }

/-- The functions that free a request on a path of its own do not take it. -/
def Passes (process : Processing) : CommandFunction → Prop
  | .sendElantechCmd cmd => (first process (Client.elantechRequest cmd)).commandsCount = 6
  | .sendElactechPS2Cmd cmd => (first process (Client.ps2Request cmd)).commandsCount = 1
  | .sendSlicedPS2Cmd cmd => (first process (Client.slicedRequest cmd)).commandsCount = 9
  | _ => True

/-- Seen as a sequence of allocations, submits and frees. -/
def Balanced (es : List (Ownership.Event Nat)) : Prop :=
  Owned (es.filter fun | .access _ => false | _ => true)

theorem Balanced.append {es es' : List (Ownership.Event Nat)} (h : Balanced es) (h' : Balanced es') :
    Balanced (es ++ es') := by
  rw [Balanced, List.filter_append]
  exact Owned.append h h'

/-- What follows a mistake does not mend it. -/
theorem not_balanced_append {es : List (Ownership.Event Nat)}
    (h : Ownership.run (es.filter fun | .access _ => false | _ => true) [] = none) (es' : List (Ownership.Event Nat)) :
    ¬ Balanced (es ++ es') := by
  rw [Balanced, List.filter_append]
  exact Ownership.not_owned_append h _

/-- A request from its allocation to its end. -/
def request (h : Nat) : List (Ownership.Event Nat) := [.allocate h, .access h, .submit h, .access h, .free h]

theorem balanced_request (h : Nat) : Balanced (request h) := by
  show Ownership.run [.allocate h, .submit h, .free h] [] = some []
  simp [Ownership.run, Ownership.step]

/-- The controller leaves a request with a completion action to the driver. -/
theorem newSubmit_client (r : PS2Request) (process : Processing) (c : Client) :
    (c.newSubmit process r).2.2 =
      { allocated := c.allocated + 1, submitted := c.submitted + 1
        events := c.events ++
          [.allocate c.allocated, .access c.allocated, .submit c.allocated, .access c.allocated] } := by
  have hends : ∀ h, controllerEnds h { r with completionTarget := true, completionAction := true } = [] := fun h => rfl
  unfold Client.newSubmit Client.submitRequestAndBlock Client.allocateRequest Client.access
  dsimp only
  rw [hends]
  simp only [List.append_assoc, List.cons_append, List.nil_append]

theorem freed_client (r : PS2Request) (process : Processing) (c : Client) :
    (c.newSubmit process r).2.2.freeRequest c.allocated =
      { allocated := c.allocated + 1, submitted := c.submitted + 1, events := c.events ++ request c.allocated } := by
  rw [newSubmit_client, Client.freeRequest, List.append_assoc]
  rfl

/-- One request, submitted and freed at the end. -/
theorem balanced_newSubmit (r : PS2Request) (process : Processing) :
    Balanced ((Client.start.newSubmit process r).2.2.freeRequest 0).events := by
  have hfreed : (Client.start.newSubmit process r).2.2.freeRequest 0 = ⟨1, 1, request 0⟩ :=
    freed_client r process Client.start
  rw [hfreed]
  exact balanced_request 0

/-- A request that is freed on the failing path as well as at the end. -/
theorem balanced_freedTwice (r : PS2Request) (process : Processing) (done : Prop) [Decidable done] :
    let c := (Client.start.newSubmit process r).2.2
    Balanced ((if done then c else c.freeRequest 0).freeRequest 0).events ↔ done := by
  have hfreed : (Client.start.newSubmit process r).2.2.freeRequest 0 = ⟨1, 1, request 0⟩ :=
    freed_client r process Client.start
  dsimp only
  split
  · next h => exact iff_of_true (balanced_newSubmit r process) h
  · next h =>
    refine iff_of_false ?_ h
    rw [hfreed]
    show ¬ Balanced (request 0 ++ [.free 0] ++ [])
    exact not_balanced_append rfl []

/-- What a try does to the request. -/
theorem tryPS2Cmd_succ (process : Processing) (cmd : UInt8) (h tries : Nat) (c : Client) :
    Client.tryPS2Cmd process cmd h (tries + 1) c =
      let next : Client :=
        { c with submitted := c.submitted + 1, events := c.events ++ [.access h, .submit h, .access h, .free h] }
      if (process c.submitted { Client.ps2Request cmd with
          completionTarget := true, completionAction := true }).commandsCount = 1 then (true, next)
      else Client.tryPS2Cmd process cmd h tries next := by
  have hends : controllerEnds h { Client.ps2Request cmd with completionTarget := true, completionAction := true } = [] := rfl
  rw [Client.tryPS2Cmd]
  unfold Client.submitRequestAndBlock Client.access Client.freeRequest
  dsimp only
  rw [hends]
  simp only [List.append_assoc, List.cons_append, List.nil_append]

/-- By induction on the tries that are left behind this one. -/
theorem tryPS2Cmd_events (process : Processing) (cmd : UInt8) (h tries : Nat) (c : Client) :
    ∃ es, (Client.tryPS2Cmd process cmd h (tries + 1) c).2.events =
      c.events ++ [.access h, .submit h, .access h, .free h] ++ es := by
  induction tries generalizing c with
  | zero =>
    refine ⟨[], ?_⟩
    rw [tryPS2Cmd_succ, List.append_nil]
    dsimp only
    split
    · rfl
    · rfl
  | succ tries ih =>
    rw [tryPS2Cmd_succ]
    dsimp only
    split
    · exact ⟨[], (List.append_nil _).symm⟩
    · obtain ⟨es, hes⟩ := ih { c with
        submitted := c.submitted + 1, events := c.events ++ [.access h, .submit h, .access h, .free h] }
      rw [hes, List.append_assoc]
      exact ⟨_, rfl⟩

/-- A second try submits the request that the first has freed. -/
theorem balanced_tries (process : Processing) (cmd : UInt8) :
    Balanced ((CommandFunction.sendElactechPS2Cmd cmd).events process) ↔
      (first process (Client.ps2Request cmd)).commandsCount = 1 := by
  unfold events Client.sendElactechPS2Cmd ETD_PS2_COMMAND_TRIES Client.allocateRequest
  dsimp only
  rw [tryPS2Cmd_succ]
  dsimp only
  split
  · next h => exact iff_of_true (balanced_request 0) h
  · next h =>
    refine iff_of_false ?_ h
    -- whatever becomes of the tries after it
    obtain ⟨es, hes⟩ := tryPS2Cmd_events process cmd 0 1 ⟨1, 1, request 0⟩
    show ¬ Balanced (Client.tryPS2Cmd process cmd 0 2 ⟨1, 1, request 0⟩).2.events
    rw [hes]
    exact not_balanced_append rfl es

theorem balanced_initializeMouse (process : Processing) (mSampleRate mResolution mScaling : UInt8) :
    Balanced ((CommandFunction.initializeMouse mSampleRate mResolution mScaling).events process) := by
  have hfirst : ∀ r, (Client.start.newSubmit process r).2.2.freeRequest 0 = ⟨1, 1, request 0⟩ :=
    fun r => freed_client r process Client.start
  unfold events Client.initializeMouse
  dsimp only
  split
  · show Balanced ((((Client.start.newSubmit process _).2.2.freeRequest 0).getMouseInformation process).2.2.getStatus
      process).2.events
    rw [hfirst]
    show Balanced ((Client.getStatus process ((Client.newSubmit process Client.informationRequest
      ⟨1, 1, request 0⟩).2.2.freeRequest 1)).2.events)
    rw [freed_client _ _ ⟨1, 1, request 0⟩]
    show Balanced ((Client.newSubmit process Client.statusRequest ⟨2, 2, request 0 ++ request 1⟩).2.2.freeRequest 2).events
    rw [freed_client _ _ ⟨2, 2, request 0 ++ request 1⟩]
    exact ((balanced_request 0).append (balanced_request 1)).append (balanced_request 2)
  · exact balanced_newSubmit _ process

theorem balanced_iff (process : Processing) (f : CommandFunction) : Balanced (f.events process) ↔ f.Passes process := by
  cases f with
  | sendElantechCmd cmd => exact balanced_freedTwice (Client.elantechRequest cmd) process _
  | sendElactechPS2Cmd cmd => exact balanced_tries process cmd
  | sendSlicedPS2Cmd cmd => exact balanced_freedTwice (Client.slicedRequest cmd) process _
  | sendPS2Cmd cmd => exact iff_of_true (balanced_newSubmit (Client.ps2Request cmd) process) trivial
  | getMouseInformation => exact iff_of_true (balanced_newSubmit Client.informationRequest process) trivial
  | getStatus => exact iff_of_true (balanced_newSubmit Client.statusRequest process) trivial
  | initializeMouse mSampleRate mResolution mScaling =>
    exact iff_of_true (balanced_initializeMouse process mSampleRate mResolution mScaling) trivial
  | resetMouse => exact iff_of_true (balanced_newSubmit Client.resetRequest process) trivial

/-- Every request is freed as often as it is allocated, where the failing paths are not taken. -/
theorem freed_as_allocated (process : Processing) (f : CommandFunction) (h : f.Passes process) (a : Nat) :
    (f.events process).count (.free a) = (f.events process).count (.allocate a) := by
  have hbalanced : Balanced (f.events process) := (balanced_iff process f).2 h
  calc (f.events process).count (.free a)
      = ((f.events process).filter fun | .access _ => false | _ => true).count (.free a) := (List.count_filter rfl).symm
    _ = ((f.events process).filter fun | .access _ => false | _ => true).count (.allocate a) := hbalanced.count_free a
    _ = (f.events process).count (.allocate a) := List.count_filter rfl

theorem none_counted (r : PS2Request) : 0 ≤ r.commands.length := Nat.zero_le _

/-- A request that fails at its first command. -/
def failing : Processing := fun _ r => { r with commandsCount := 0, counted := none_counted r }

/-- The request of a sliced command that fails is freed twice. -/
theorem freed_twice : ¬ ∀ (process : Processing) (f : CommandFunction), Balanced (f.events process) := by
  intro h
  have hpasses := (balanced_iff failing (.sendSlicedPS2Cmd 0)).1 (h failing (.sendSlicedPS2Cmd 0))
  cases hpasses

end CommandFunction

end ApplePS2.Touchpad

/-! The keyboard driver. -/

namespace ApplePS2.ApplePS2Keyboard

open Ownership (Owned)

/-- A function that leaves its request to the work loop: what it does to it before it is
submitted, and after that. -/
structure Asynchronous where
  request : PS2Request
  before : List (Ownership.Event Nat)
  after : List (Ownership.Event Nat)

/-- The work loop processes the request after this many of the later accesses, and frees it. -/
def Asynchronous.events (moment : Nat) (f : Asynchronous) : List (Ownership.Event Nat) :=
  f.before ++ .submit 0 :: f.after.take moment ++ Touchpad.controllerEnds 0 f.request ++ f.after.drop moment

def setLEDs (ledState : UInt8) : Asynchronous :=
  { request := allocateRequest.load
      [⟨.kPS2C_WriteDataPort, kDP_SetKeyboardLEDs⟩, ⟨.kPS2C_ReadDataPortAndCompare, kSC_Acknowledge⟩,
        ⟨.kPS2C_WriteDataPort, ledState⟩, ⟨.kPS2C_ReadDataPortAndCompare, kSC_Acknowledge⟩] (by show 4 ≤ 20; decide)
    before := [.allocate 0, .access 0]
    after := [] }

/-- "Keyboard enabled" is logged, or that it has failed, by what `commandsCount` is afterwards. -/
def setKeyboardEnable (enable : Bool) : Asynchronous :=
  { request := allocateRequest.load
      [⟨.kPS2C_WriteDataPort, if enable then kDP_Enable else kDP_SetDefaultsAndDisable⟩,
        ⟨.kPS2C_ReadDataPortAndCompare, kSC_Acknowledge⟩] (by show 2 ≤ 20; decide)
    before := [.allocate 0, .access 0]
    after := [.access 0] }

theorem setLEDs_owned (ledState : UInt8) (moment : Nat) : Owned ((setLEDs ledState).events moment) := by
  cases moment <;> rfl

theorem setKeyboardEnable_owned_iff (enable : Bool) (moment : Nat) :
    Owned ((setKeyboardEnable enable).events moment) ↔ 0 < moment := by
  cases moment with
  | zero =>
    refine iff_of_false ?_ (Nat.lt_irrefl 0)
    exact fun h => by cases h
  | succ moment =>
    refine iff_of_true ?_ (Nat.succ_pos moment)
    cases moment <;> rfl

end ApplePS2.ApplePS2Keyboard

namespace ApplePS2

/-- Each command function of the touchpad driver uses its requests as it should if none of those
that it frees on a path of its own fails, whatever becomes of the others; and so do the two
functions of the keyboard driver, if the request to enable the keyboard is still unprocessed
when its outcome is looked at. -/
theorem requests_owned_iff (process : Touchpad.Processing) (f : Touchpad.CommandFunction) (ledState : UInt8)
    (enable : Bool) (moment : Nat) :
    (Touchpad.CommandFunction.Balanced (f.events process) ↔ f.Passes process) ∧
      Ownership.Owned ((ApplePS2Keyboard.setLEDs ledState).events moment) ∧
      (Ownership.Owned ((ApplePS2Keyboard.setKeyboardEnable enable).events moment) ↔ 0 < moment) :=
  ⟨Touchpad.CommandFunction.balanced_iff process f, ApplePS2Keyboard.setLEDs_owned ledState moment,
    ApplePS2Keyboard.setKeyboardEnable_owned_iff enable moment⟩

end ApplePS2
