import ApplePS2.Transition
import ApplePS2.Controller.Request

/- The controller's gate as a machine that takes one small step at a time.

   All controller code runs in the gate of one work loop, but driver code that it
   calls (interrupt actions, completion actions, power control actions) may submit
   a request from inside the gate, and is then served at once, on top of whatever
   was going on. `stack` holds the activations, the innermost first. Outside the
   gate the hardware delivers bytes, the interrupt-time handler moves keyboard bytes
   to the internal queue unless a read holds the controller locked, and any thread
   may append to the request queue.

   Every byte of the ports, every byte of the queues and every activation's own
   variables are those of `Controller.DataPort` and `Controller.Request`; here they
   can be interrupted. `ticket` numbers the requests in the order of submission,
   and `log` records what happened. A synchronous request counts as submitted when
   `processRequestQueue` takes the shared queue on its behalf. -/
namespace ApplePS2

def kKeyboardQueueSize : Nat := 32

structure Submitted where
  ticket : Nat
  request : PS2Request
  deriving DecidableEq, Repr

/-- The locals of a `readDataPort` call; nothing is expected of a plain read. -/
structure Reading where
  deviceType : PS2DeviceType
  expected : Option UInt8
  held : List UInt8
  timeoutCounter : Nat
  locked : Bool
  deriving DecidableEq, Repr

/-- Where an activation of `processRequest` is: at its next command, in the read of
command `c`, or in that read's return, with bytes still to be handed on. -/
inductive Phase where
  | command
  | reading (c : PS2Command) (r : Reading)
  | returning (c : PS2Command) (deviceType : PS2DeviceType) (expected : Option UInt8)
      (out : List UInt8) (result : UInt8)
  deriving DecidableEq, Repr

/-- An activation of `processRequest`. -/
structure Activation where
  submitted : Submitted
  processed : List PS2Command
  mode : Mode
  phase : Phase
  deriving DecidableEq, Repr

/-- The activations the gate can hold; `driver` is driver code called by the
controller, which can do anything. -/
inductive Frame where
  | interruptOccurred
  | processRequestQueue (localQueue : List Submitted)
  | submitRequestAndBlockGated (r : Submitted)
  | processRequest (a : Activation)
  | driver
  deriving DecidableEq, Repr

/-- A read that holds the controller locked. -/
def Frame.isLocked : Frame → Bool
  | .processRequest ⟨_, _, _, .reading _ r⟩ => r.locked
  | _ => false

inductive Event where
  | produced (byte : UInt8)
  | dispatched (d : Dispatch)
  | started (ticket : Nat)
  | access (ticket : Nat) (a : PortAccess)
  | finished (ticket : Nat) (commandsCount : Nat)
  deriving DecidableEq, Repr

structure Gate where
  port : List Dispatch
  keyboardQueue : List UInt8
  hardwareOffline : Bool
  requestQueue : List Submitted
  stack : List Frame
  nextTicket : Nat
  log : List Event
  deriving DecidableEq, Repr

def Gate.init : Gate := ⟨[], [], false, [], [], 0, []⟩

/-- What can happen next. `run` is the next step of the innermost activation. -/
inductive Action where
  | arrive (stream : PS2DeviceType) (byte : UInt8)
  | interruptHandlerKeyboard
  | submitRequest (r : PS2Request)
  | submitRequestAndBlock (r : PS2Request)
  | interruptOccurred
  | processRequestQueue
  | setHardwareOffline (b : Bool)
  | callDriver
  | driverReturns
  | run
  deriving DecidableEq, Repr

/-- The element is dropped when no unused one is left. -/
def enqueueKeyboardData (key : UInt8) (queue : List UInt8) : List UInt8 :=
  if queue.length < kKeyboardQueueSize then queue ++ [key] else queue

namespace Gate

def record (es : List Event) (s : Gate) : Gate := { s with log := s.log ++ es }

def push (f : Frame) (s : Gate) : Gate := { s with stack := f :: s.stack }

def dispatchDriverInterrupt (d : Dispatch) (s : Gate) : Gate := (s.record [.dispatched d]).push .driver

/-- The completion action is driver code; without one the request is freed. -/
def finishRequest (r : Submitted) (commandsCount : Nat) (s : Gate) : Gate :=
  let s := s.record [.finished r.ticket commandsCount]
  if r.request.finish = [.completed] then s.push .driver else s

/-- Go on with an activation. -/
def resume (a : Activation) (s : Gate) : Gate := s.push (.processRequest a)

/-- The call of `processRequest`. -/
def startRequest (r : Submitted) (s : Gate) : Gate :=
  let s := s.record [.started r.ticket]
  if s.hardwareOffline then s.finishRequest r 0 else s.resume ⟨r, [], .initial, .command⟩

/-- Whether the innermost activation holds the controller locked. -/
def locked (s : Gate) : Bool :=
  match s.stack with
  | [] => false
  | f :: _ => f.isLocked

end Gate

/-- The index of an activation. -/
def Activation.index (a : Activation) : Nat := a.processed.length

namespace Activation

/-- The next command, or the end of the list. -/
def nextCommand (mux : MuxMode) (a : Activation) (s : Gate) : Gate :=
  match a.submitted.request.active[a.index]? with
  | none => s.finishRequest a.submitted a.submitted.request.commandsCount
  | some c =>
    let plan := commandPlan mux a.mode c
    let a := { a with mode := plan.mode }
    let s := s.record (plan.writes.map (.access a.submitted.ticket))
    match plan.read with
    | .none => s.resume { a with processed := a.processed ++ [c] }
    | .store d => s.resume { a with phase := .reading c ⟨d, none, [], kTimeoutCounter, false⟩ }
    | .compare d e => s.resume { a with phase := .reading c ⟨d, some e, [], kTimeoutCounter, false⟩ }

/-- A byte of the requested stream. -/
def take (a : Activation) (c : PS2Command) (r : Reading) (b : UInt8) (s : Gate) : Gate :=
  match takeRequested r.expected r.held b with
  | .more held => s.resume { a with phase := .reading c { r with held := held, locked := false } }
  | .done out v => s.resume { a with phase := .returning c r.deviceType r.expected out v }

/-- The loop of the reads, from a look at the queue to a byte or an idle poll. -/
def read (a : Activation) (c : PS2Command) (r : Reading) (s : Gate) : Gate :=
  if r.locked then
    match s.port with
    | [] =>
      if r.timeoutCounter ≤ 1 then
        s.resume { a with phase := .returning c r.deviceType r.expected [] (timedOut r.held) }
      else s.resume { a with phase := .reading c { r with timeoutCounter := r.timeoutCounter - 1 } }
    | (stream, b) :: port =>
      let s := { s with port := port }
      if stream = r.deviceType then a.take c r b s
      else (s.resume { a with phase := .reading c { r with locked := false } }).dispatchDriverInterrupt
        (r.deviceType.other, b)
  else
    match r.deviceType, s.keyboardQueue with
    | .kDT_Keyboard, b :: queue => a.take c r b { s with keyboardQueue := queue }
    | _, _ => s.resume { a with phase := .reading c { r with locked := true } }

/-- The end of a read, and of its command. -/
def returnByte (a : Activation) (c : PS2Command) (d : PS2DeviceType) (expected : Option UInt8) (v : UInt8)
    (s : Gate) : Gate :=
  let s := s.record [.access a.submitted.ticket (.readDataPort d v)]
  match expected with
  | none => s.resume { a with processed := a.processed ++ [{ c with inOrOut := v }], phase := .command }
  | some e =>
    if v = e then s.resume { a with processed := a.processed ++ [c], phase := .command }
    else s.finishRequest a.submitted a.index

/-- One step of `processRequest`. -/
def run (mux : MuxMode) (a : Activation) (s : Gate) : Gate :=
  match a.phase with
  | .command => a.nextCommand mux s
  | .reading c r => a.read c r s
  | .returning c d expected (b :: out) v =>
    (s.resume { a with phase := .returning c d expected out v }).dispatchDriverInterrupt (d, b)
  | .returning c d expected [] v => a.returnByte c d expected v s

end Activation

namespace Gate

/-- The loop of `interruptOccurred`: the internal queue before the port. -/
def drain (s : Gate) : Gate :=
  match s.keyboardQueue, s.port with
  | b :: queue, _ =>
    ({ s with keyboardQueue := queue }.push Frame.interruptOccurred).dispatchDriverInterrupt (.kDT_Keyboard, b)
  | [], (.kDT_Mouse, b) :: port =>
    ({ s with port := port }.push .interruptOccurred).dispatchDriverInterrupt (.kDT_Mouse, b)
  | [], _ => s

/-- The innermost activation takes its next step. -/
def run (mux : MuxMode) (s : Gate) : Option Gate :=
  match s.stack with
  | [] => none
  | .driver :: _ => none
  | .interruptOccurred :: rest => some { s with stack := rest }.drain
  | .processRequestQueue [] :: rest => some { s with stack := rest }
  | .processRequestQueue (r :: localQueue) :: rest =>
    some ({ s with stack := .processRequestQueue localQueue :: rest }.startRequest r)
  | .submitRequestAndBlockGated r :: rest => some ({ s with stack := rest }.startRequest r)
  | .processRequest a :: rest => some (a.run mux { s with stack := rest })

/-- A new request at the end of the shared queue. -/
def submitRequest (r : PS2Request) (s : Gate) : Gate :=
  { s with requestQueue := s.requestQueue ++ [⟨s.nextTicket, r⟩], nextTicket := s.nextTicket + 1 }

/-- The transfer of the shared queue to a local one. -/
def processRequestQueue (s : Gate) : Gate :=
  { s with requestQueue := [] }.push (.processRequestQueue s.requestQueue)

/-- `submitRequestAndBlockGated`. The completion action it installs does nothing,
but it is not told apart from others here. -/
def submitRequestAndBlock (r : PS2Request) (s : Gate) : Gate :=
  let r : Submitted := ⟨s.nextTicket, { r with completionTarget := true, completionAction := true }⟩
  ({ s with nextTicket := s.nextTicket + 1 }.push (.submitRequestAndBlockGated r)).processRequestQueue

/-- The gate is entered from outside when it is free, and from inside by driver
code that it called. -/
def mayEnter (s : Gate) : Bool :=
  match s.stack with
  | [] => true
  | f :: _ => f = .driver

def arrive (stream : PS2DeviceType) (b : UInt8) (s : Gate) : Gate :=
  let s := { s with port := s.port ++ [(stream, b)] }
  if stream = .kDT_Keyboard then s.record [.produced b] else s

def step (mux : MuxMode) (s : Gate) : Action → Option Gate
  | .arrive stream b => some (s.arrive stream b)
  | .interruptHandlerKeyboard =>
    if s.locked then none
    else match s.port with
      | (.kDT_Keyboard, b) :: port =>
        some { s with port := port, keyboardQueue := enqueueKeyboardData b s.keyboardQueue }
      -- mouse data, or none: the work loop is only woken
      | _ => some s
  | .submitRequest r => some (s.submitRequest r)
  | .submitRequestAndBlock r => if s.mayEnter then some (s.submitRequestAndBlock r) else none
  | .interruptOccurred =>
    if s.stack = [] then
      some (if s.hardwareOffline then s else { s with stack := [.interruptOccurred] })
    else none
  | .processRequestQueue => if s.stack = [] then some s.processRequestQueue else none
  | .setHardwareOffline b => if s.stack = [] then some { s with hardwareOffline := b } else none
  | .callDriver => if s.stack = [] then some { s with stack := [.driver] } else none
  | .driverReturns =>
    match s.stack with
    | .driver :: rest => some { s with stack := rest }
    | _ => none
  | .run => s.run mux

/-! What a step can be. -/

/-- The next step of the innermost activation. -/
inductive Ran (mux : MuxMode) (s : Gate) : Gate → Prop where
  | drained (rest : List Frame) (hstack : s.stack = .interruptOccurred :: rest) :
      Ran mux s { s with stack := rest }.drain
  | queueDone (rest : List Frame) (hstack : s.stack = .processRequestQueue [] :: rest) :
      Ran mux s { s with stack := rest }
  | queueNext (r : Submitted) (localQueue : List Submitted) (rest : List Frame)
      (hstack : s.stack = .processRequestQueue (r :: localQueue) :: rest) :
      Ran mux s ({ s with stack := .processRequestQueue localQueue :: rest }.startRequest r)
  | blockNext (r : Submitted) (rest : List Frame) (hstack : s.stack = .submitRequestAndBlockGated r :: rest) :
      Ran mux s ({ s with stack := rest }.startRequest r)
  | processed (a : Activation) (rest : List Frame) (hstack : s.stack = .processRequest a :: rest) :
      Ran mux s (a.run mux { s with stack := rest })

theorem run_cases {mux : MuxMode} {s s' : Gate} (h : s.run mux = some s') : Ran mux s s' := by
  simp only [run] at h
  split at h
  · cases h
  · cases h
  · next rest hstack =>
    cases h
    exact .drained rest hstack
  · next rest hstack =>
    cases h
    exact .queueDone rest hstack
  · next r localQueue rest hstack =>
    cases h
    exact .queueNext r localQueue rest hstack
  · next r rest hstack =>
    cases h
    exact .blockNext r rest hstack
  · next a rest hstack =>
    cases h
    exact .processed a rest hstack

/-- Each action with the states it may happen in and the state after it. -/
inductive Stepped (mux : MuxMode) (s : Gate) : Action → Gate → Prop where
  | arrive (stream : PS2DeviceType) (b : UInt8) : Stepped mux s (.arrive stream b) (s.arrive stream b)
  | enqueued (b : UInt8) (port : List Dispatch) (hlocked : s.locked = false)
      (hport : s.port = (.kDT_Keyboard, b) :: port) : Stepped mux s .interruptHandlerKeyboard
        { s with port := port, keyboardQueue := enqueueKeyboardData b s.keyboardQueue }
  | woken : Stepped mux s .interruptHandlerKeyboard s
  | submitted (r : PS2Request) : Stepped mux s (.submitRequest r) (s.submitRequest r)
  | blocked (r : PS2Request) (henter : s.mayEnter = true) :
      Stepped mux s (.submitRequestAndBlock r) (s.submitRequestAndBlock r)
  | offline : Stepped mux s .interruptOccurred s
  | interrupted (hstack : s.stack = []) :
      Stepped mux s .interruptOccurred { s with stack := [.interruptOccurred] }
  | tookQueue (hstack : s.stack = []) : Stepped mux s .processRequestQueue s.processRequestQueue
  | setOffline (b : Bool) : Stepped mux s (.setHardwareOffline b) { s with hardwareOffline := b }
  | called (hstack : s.stack = []) : Stepped mux s .callDriver { s with stack := [.driver] }
  | returned (rest : List Frame) (hstack : s.stack = .driver :: rest) :
      Stepped mux s .driverReturns { s with stack := rest }
  | ran {s' : Gate} (h : Ran mux s s') : Stepped mux s .run s'

theorem step_cases {mux : MuxMode} {s s' : Gate} {l : Action} (h : s.step mux l = some s') :
    Stepped mux s l s' := by
  cases l with
  | arrive stream b =>
    cases h
    exact .arrive stream b
  | interruptHandlerKeyboard =>
    simp only [step] at h
    split at h
    · cases h
    · next hlocked =>
      split at h
      · next b port hport =>
        cases h
        exact .enqueued b port (by simpa using hlocked) hport
      · cases h
        exact .woken
  | submitRequest r =>
    cases h
    exact .submitted r
  | submitRequestAndBlock r =>
    simp only [step] at h
    split at h
    · next henter =>
      cases h
      exact .blocked r henter
    · cases h
  | interruptOccurred =>
    simp only [step] at h
    split at h
    · next hstack =>
      cases h
      split
      · exact .offline
      · exact .interrupted hstack
    · cases h
  | processRequestQueue =>
    simp only [step] at h
    split at h
    · next hstack =>
      cases h
      exact .tookQueue hstack
    · cases h
  | setHardwareOffline b =>
    simp only [step] at h
    split at h
    · cases h
      exact .setOffline b
    · cases h
  | callDriver =>
    simp only [step] at h
    split at h
    · next hstack =>
      cases h
      exact .called hstack
    · cases h
  | driverReturns =>
    simp only [step] at h
    split at h
    · next rest hstack =>
      cases h
      exact .returned rest hstack
    · cases h
  | run => exact .ran (run_cases h)

end Gate

end ApplePS2
