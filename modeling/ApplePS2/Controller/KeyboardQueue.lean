import ApplePS2.CellPool
import ApplePS2.Gate.Machine

/- The keyboard bytes at interrupt time: the interrupt handler, the check for the
   debugger's escape sequence (`doEscape`), and the queue of 32 elements between the
   handler and the work loop.

   1. `keyboardQueue_refines`: whatever happens in whatever order, the elements behave as
      the list of at most 32 bytes that the gate's machine has for them.
   2. `modifiers_agree_iff`: the modifiers that the bytes passed on leave down are those
      of the controller, exactly if no escape sequence ends with the extended Delete. -/
namespace ApplePS2

open Transition CellPool

def kOutputReady : UInt8 := 0x01
def kMouseData : UInt8 := 0x20

def kSC_Alt : UInt8 := 0x38
def kSC_Ctrl : UInt8 := 0x1D
def kSC_ShiftLeft : UInt8 := 0x2A
def kSC_ShiftRight : UInt8 := 0x36
def kSC_WindowsLeft : UInt8 := 0x5B
def kSC_WindowsRight : UInt8 := 0x5C
def kSC_Delete : UInt8 := 0x53

def kModifierShiftLeft : UInt16 := 0x01
def kModifierShiftRight : UInt16 := 0x02
def kModifierCtrlLeft : UInt16 := 0x04
def kModifierCtrlRight : UInt16 := 0x08
def kModifierAltLeft : UInt16 := 0x10
def kModifierAltRight : UInt16 := 0x20
def kModifierWindowsLeft : UInt16 := 0x40
def kModifierWindowsRight : UInt16 := 0x80

structure ModifierEntry where
  scancode : UInt8
  extended : Bool
  modifier : UInt16

def modifierTable : List ModifierEntry :=
  [ ⟨kSC_Alt, false, kModifierAltLeft⟩
  , ⟨kSC_Alt, true, kModifierAltRight⟩
  , ⟨kSC_Ctrl, false, kModifierCtrlLeft⟩
  , ⟨kSC_Ctrl, true, kModifierCtrlRight⟩
  , ⟨kSC_ShiftLeft, false, kModifierShiftLeft⟩
  , ⟨kSC_ShiftRight, false, kModifierShiftRight⟩
  , ⟨kSC_WindowsLeft, true, kModifierWindowsLeft⟩
  , ⟨kSC_WindowsRight, true, kModifierWindowsRight⟩ ]

structure EscapeState where
  extendedState : Bool
  modifierState : UInt16
  deriving DecidableEq, Repr

namespace EscapeState

def init : EscapeState := ⟨false, 0⟩

/-- The entry for a scancode without its up bit. -/
def entry (s : EscapeState) (code : UInt8) : Option ModifierEntry :=
  modifierTable.find? fun e => e.scancode = code && e.extended = s.extendedState

/-- The byte completes the escape sequence. -/
def completes (s : EscapeState) (scancode : UInt8) : Bool :=
  scancode ≠ kSC_Extend && (s.entry (scancode &&& ~~~kSC_UpBit)).isNone &&
    scancode &&& ~~~kSC_UpBit = kSC_Delete && s.modifierState = kModifierAltLeft ||| kModifierAltRight

/-- The bytes that release all modifiers that are down. -/
def releases (s : EscapeState) : List UInt8 :=
  modifierTable.flatMap fun e =>
    if s.modifierState &&& e.modifier ≠ 0 then
      (if e.extended then [kSC_Extend] else []) ++ [e.scancode ||| kSC_UpBit]
    else []

end EscapeState

/-- What `doEscape` returns, which is whether the byte is dropped, the bytes it enqueues, and the state after it. -/
def doEscape (scancode : UInt8) (s : EscapeState) : Bool × List UInt8 × EscapeState :=
  if scancode = kSC_Extend then (false, [], { s with extendedState := true })
  else
    let upBit := scancode &&& kSC_UpBit ≠ 0
    let code := scancode &&& ~~~kSC_UpBit
    match s.entry code with
    | some e =>
      let modifierState := if upBit then s.modifierState &&& ~~~e.modifier else s.modifierState ||| e.modifier
      (false, [], ⟨false, modifierState⟩)
    | none =>
      -- Delete, extended or not, while both Alt keys are down and nothing else
      if code = kSC_Delete ∧ s.modifierState = kModifierAltLeft ||| kModifierAltRight then
        (true, s.releases, ⟨false, 0⟩)
      else (false, [], { s with extendedState := false })

/-- A representation of the keyboard queue. -/
structure QueueOps (Q : Type) where
  enqueueKeyboardData : UInt8 → Q → Q
  dequeueKeyboardData : Q → Option UInt8 × Q

/-- The members that the keyboard interrupt handler shares with the work loop. -/
structure InterruptTime (Q : Type) where
  debuggingEnabled : Bool
  escape : EscapeState
  queue : Q
  /-- What the calls of `dequeueKeyboardData` have returned. -/
  returned : List (Option UInt8)
  /-- The interrupt sources that have been woken. -/
  woken : List PS2DeviceType

/-- The interrupt finds the status and the byte of the port; the work loop takes a byte of the queue. -/
inductive QueueAction where
  | interruptHandlerKeyboard (status key : UInt8)
  | dequeueKeyboardData
  deriving DecidableEq, Repr

namespace InterruptTime

variable {Q : Type} (ops : QueueOps Q)

def enqueueAll (bytes : List UInt8) (queue : Q) : Q := bytes.foldl (fun q b => ops.enqueueKeyboardData b q) queue

/-- What `doEscape` finds, if the debugger is enabled. -/
def escaped (key : UInt8) (s : InterruptTime Q) : Bool × List UInt8 × EscapeState :=
  if s.debuggingEnabled then doEscape key s.escape else (false, [], s.escape)

/-- The bytes that are enqueued for a key. -/
def passedOn (key : UInt8) (s : InterruptTime Q) : List UInt8 :=
  (s.escaped key).2.1 ++ (if (s.escaped key).1 then [] else [key])

def interruptHandlerKeyboard (status key : UInt8) (s : InterruptTime Q) : InterruptTime Q :=
  if status &&& kOutputReady = 0 then s
  else if status &&& kMouseData ≠ 0 then { s with woken := s.woken ++ [.kDT_Mouse] }
  else
    { s with
      escape := (s.escaped key).2.2
      queue := enqueueAll ops (s.passedOn key) s.queue
      woken := s.woken ++ [.kDT_Keyboard] }

def dequeueKeyboardData (s : InterruptTime Q) : InterruptTime Q :=
  { s with queue := (ops.dequeueKeyboardData s.queue).2, returned := s.returned ++ [(ops.dequeueKeyboardData s.queue).1] }

def step (s : InterruptTime Q) : QueueAction → InterruptTime Q
  | .interruptHandlerKeyboard status key => s.interruptHandlerKeyboard ops status key
  | .dequeueKeyboardData => s.dequeueKeyboardData ops

/-- After `start`, with or without the debugger. -/
def start (debuggingEnabled : Bool) (queue : Q) : InterruptTime Q := ⟨debuggingEnabled, .init, queue, [], []⟩

end InterruptTime

/-- The elements of `_keyboardQueueAlloc`. -/
abbrev KeyboardElements := Pool (Fin kKeyboardQueueSize) UInt8

namespace KeyboardElements

/-- `start` puts all elements on the unused queue, in their order; the data are what the allocation finds. -/
def start (data : Fin kKeyboardQueueSize → UInt8) : KeyboardElements :=
  Pool.empty (List.finRange kKeyboardQueueSize) (List.nodup_finRange kKeyboardQueueSize) data

def ops : QueueOps KeyboardElements := ⟨Pool.enqueue, Pool.dequeue⟩

/-- No element is lost. -/
def Complete (q : KeyboardElements) : Prop := q.cells.Perm (List.finRange kKeyboardQueueSize)

theorem start_complete (data : Fin kKeyboardQueueSize → UInt8) : Complete (start data) := List.Perm.refl _

theorem enqueue_complete {q : KeyboardElements} (h : Complete q) (b : UInt8) : Complete (q.enqueue b) :=
  (q.perm_enqueue b).trans h

theorem dequeue_complete {q : KeyboardElements} (h : Complete q) : Complete q.dequeue.2 := q.perm_dequeue.trans h

theorem enqueueAll_complete {q : KeyboardElements} (h : Complete q) (bytes : List UInt8) :
    Complete (InterruptTime.enqueueAll ops bytes q) := by
  induction bytes generalizing q with
  | nil => exact h
  | cons b bytes ih => exact ih (enqueue_complete h b)

end KeyboardElements

/-- The list of the gate's machine. -/
def listOps : QueueOps (List UInt8) := ⟨ApplePS2.enqueueKeyboardData, fun queue => (queue.head?, queue.tail)⟩

namespace KeyboardElements

theorem contents_enqueue {q : KeyboardElements} (h : Complete q) (b : UInt8) :
    (q.enqueue b).contents = ApplePS2.enqueueKeyboardData b q.contents := by
  have hsize : q.cells.length = kKeyboardQueueSize := by
    calc q.cells.length = (List.finRange kKeyboardQueueSize).length := h.length_eq
      _ = kKeyboardQueueSize := List.length_finRange
  rw [Pool.contents_enqueue, hsize]
  rfl

theorem contents_enqueueAll {q : KeyboardElements} (h : Complete q) (bytes : List UInt8) :
    (InterruptTime.enqueueAll ops bytes q).contents = InterruptTime.enqueueAll listOps bytes q.contents := by
  induction bytes generalizing q with
  | nil => rfl
  | cons b bytes ih =>
    have hrest := ih (enqueue_complete h b)
    rw [contents_enqueue h] at hrest
    exact hrest

end KeyboardElements

namespace InterruptTime

open KeyboardElements

/-- The same with the bytes that are queued, without the elements that hold them. -/
def bytes (s : InterruptTime KeyboardElements) : InterruptTime (List UInt8) :=
  ⟨s.debuggingEnabled, s.escape, s.queue.contents, s.returned, s.woken⟩

theorem step_complete (s : InterruptTime KeyboardElements) (a : QueueAction) (h : Complete s.queue) :
    Complete (s.step ops a).queue := by
  cases a with
  | interruptHandlerKeyboard status key =>
    show Complete (s.interruptHandlerKeyboard ops status key).queue
    unfold interruptHandlerKeyboard
    split_ifs
    · exact h
    · exact h
    · exact enqueueAll_complete h (s.passedOn key)
  | dequeueKeyboardData => exact dequeue_complete h

theorem step_bytes (s : InterruptTime KeyboardElements) (a : QueueAction) (h : Complete s.queue) :
    (s.step ops a).bytes = s.bytes.step listOps a := by
  cases a with
  | interruptHandlerKeyboard status key =>
    show (s.interruptHandlerKeyboard ops status key).bytes = s.bytes.interruptHandlerKeyboard listOps status key
    unfold interruptHandlerKeyboard
    split_ifs
    · rfl
    · rfl
    · exact congrArg (fun q => InterruptTime.mk s.debuggingEnabled (s.escaped key).2.2 q s.returned
        (s.woken ++ [.kDT_Keyboard])) (contents_enqueueAll h (s.passedOn key))
  | dequeueKeyboardData =>
    have hreturned : (ops.dequeueKeyboardData s.queue).1 = s.queue.contents.head? := s.queue.dequeued
    have hrest : (ops.dequeueKeyboardData s.queue).2.contents = s.queue.contents.tail := s.queue.contents_dequeue
    show (s.dequeueKeyboardData ops).bytes = s.bytes.dequeueKeyboardData listOps
    unfold dequeueKeyboardData bytes
    rw [hreturned, hrest]
    rfl

/-- Over any sequence of interrupts and reads the elements behave as the bounded list, and none is lost. -/
theorem keyboardQueue_refines (debuggingEnabled : Bool) (data : Fin kKeyboardQueueSize → UInt8) (as : List QueueAction) :
    (run (step ops) as (start debuggingEnabled (KeyboardElements.start data))).bytes =
        run (step listOps) as (start debuggingEnabled []) ∧
      Complete (run (step ops) as (start debuggingEnabled (KeyboardElements.start data))).queue :=
  have hstart : Complete (start debuggingEnabled (KeyboardElements.start data)).queue := start_complete data
  ⟨run_simulates step_complete step_bytes as hstart, run_invariant step_complete as hstart⟩

end InterruptTime

/-! The modifiers that the bytes leave down. -/

/-- What a reader of the scancodes makes of one. -/
def EscapeState.read (scancode : UInt8) (s : EscapeState) : EscapeState :=
  if scancode = kSC_Extend then { s with extendedState := true }
  else
    match s.entry (scancode &&& ~~~kSC_UpBit) with
    | some e => ⟨false, if scancode &&& kSC_UpBit ≠ 0 then s.modifierState &&& ~~~e.modifier else s.modifierState ||| e.modifier⟩
    | none => { s with extendedState := false }

/-- A reader that gets each byte when it is enqueued. -/
def readerOps : QueueOps EscapeState := ⟨EscapeState.read, fun s => (none, s)⟩

theorem doEscape_goesOn {key : UInt8} {s : EscapeState} (h : s.completes key = false) :
    doEscape key s = (false, [], s.read key) := by
  unfold doEscape EscapeState.read
  by_cases hextend : key = kSC_Extend
  · rw [if_pos hextend, if_pos hextend]
  rw [if_neg hextend, if_neg hextend]
  dsimp only
  cases hentry : s.entry (key &&& ~~~kSC_UpBit) with
  | some e => rfl
  | none =>
    have hnot : ¬(key &&& ~~~kSC_UpBit = kSC_Delete ∧ s.modifierState = kModifierAltLeft ||| kModifierAltRight) := by
      rintro ⟨hdelete, halt⟩
      rw [hdelete] at hentry
      simp [EscapeState.completes, hextend, hentry, hdelete, halt] at h
    dsimp only
    rw [if_neg hnot]

theorem doEscape_completed {key : UInt8} {s : EscapeState} (h : s.completes key = true) :
    doEscape key s = (true, s.releases, ⟨false, 0⟩) ∧ s.modifierState = kModifierAltLeft ||| kModifierAltRight := by
  simp only [EscapeState.completes, Bool.and_eq_true, decide_eq_true_eq, Option.isNone_iff_eq_none] at h
  obtain ⟨⟨⟨hextend, hentry⟩, hdelete⟩, halt⟩ := h
  refine ⟨?_, halt⟩
  unfold doEscape
  rw [if_neg hextend]
  dsimp only
  rw [hentry]
  dsimp only
  rw [if_pos ⟨hdelete, halt⟩]

/-- The releases as they are read: an extended prefix that stands before them is taken to be theirs. -/
theorem read_releases {s : EscapeState} (h : s.modifierState = kModifierAltLeft ||| kModifierAltRight) :
    InterruptTime.enqueueAll readerOps s.releases s = ⟨false, if s.extendedState then kModifierAltLeft else 0⟩ := by
  obtain ⟨extended, modifiers⟩ := s
  obtain rfl : modifiers = kModifierAltLeft ||| kModifierAltRight := h
  cases extended with
  | false => decide
  | true => decide

namespace InterruptTime

/-- A key byte that completes the escape sequence after an extended prefix. -/
def escapesExtended (s : InterruptTime EscapeState) : QueueAction → Bool
  | .interruptHandlerKeyboard status key =>
    status &&& kOutputReady ≠ 0 && status &&& kMouseData = 0 && s.escape.extendedState && s.escape.completes key
  | .dequeueKeyboardData => false

/-- The reader and the controller know the same. -/
structure Agree (s : InterruptTime EscapeState) : Prop where
  enabled : s.debuggingEnabled = true
  same : s.queue = s.escape

def sameModifiers (s : InterruptTime EscapeState) : Prop := s.queue.modifierState = s.escape.modifierState

/-- A key byte arrives at a reader that knows what the controller does. -/
theorem received {s : InterruptTime EscapeState} (h : Agree s) {status : UInt8} (hready : ¬status &&& kOutputReady = 0)
    (hmouse : ¬status &&& kMouseData ≠ 0) (key : UInt8) :
    s.step readerOps (.interruptHandlerKeyboard status key) =
      { s with
        escape := (doEscape key s.escape).2.2
        queue := enqueueAll readerOps
          ((doEscape key s.escape).2.1 ++ if (doEscape key s.escape).1 then [] else [key]) s.escape
        woken := s.woken ++ [.kDT_Keyboard] } := by
  have hescaped : s.escaped key = doEscape key s.escape := if_pos h.enabled
  show s.interruptHandlerKeyboard readerOps status key = _
  unfold interruptHandlerKeyboard passedOn
  rw [if_neg hready, if_neg hmouse, hescaped, h.same]

/-- Without an escape the reader gets the byte that the controller has seen. -/
theorem received_goesOn {s : InterruptTime EscapeState} (h : Agree s) {status key : UInt8}
    (hready : ¬status &&& kOutputReady = 0) (hmouse : ¬status &&& kMouseData ≠ 0) (hkey : s.escape.completes key = false) :
    Agree (s.step readerOps (.interruptHandlerKeyboard status key)) := by
  rw [received h hready hmouse key, doEscape_goesOn hkey]
  exact ⟨h.enabled, rfl⟩

/-- After an escape the reader has read the releases. -/
theorem received_completed {s : InterruptTime EscapeState} (h : Agree s) {status key : UInt8}
    (hready : ¬status &&& kOutputReady = 0) (hmouse : ¬status &&& kMouseData ≠ 0) (hkey : s.escape.completes key = true) :
    (s.step readerOps (.interruptHandlerKeyboard status key)).escape = ⟨false, 0⟩ ∧
      (s.step readerOps (.interruptHandlerKeyboard status key)).queue =
        ⟨false, if s.escape.extendedState then kModifierAltLeft else 0⟩ := by
  obtain ⟨hescape, halt⟩ := doEscape_completed hkey
  rw [received h hready hmouse key, hescape]
  refine ⟨rfl, ?_⟩
  calc enqueueAll readerOps (s.escape.releases ++ []) s.escape
      = enqueueAll readerOps s.escape.releases s.escape := by rw [List.append_nil]
    _ = ⟨false, if s.escape.extendedState then kModifierAltLeft else 0⟩ := read_releases halt

theorem step_agree {s : InterruptTime EscapeState} (a : QueueAction) (h : Agree s) (ha : s.escapesExtended a = false) :
    Agree (s.step readerOps a) := by
  cases a with
  | dequeueKeyboardData => exact ⟨h.enabled, h.same⟩
  | interruptHandlerKeyboard status key =>
    by_cases hready : status &&& kOutputReady = 0
    · show Agree (s.interruptHandlerKeyboard readerOps status key)
      rw [interruptHandlerKeyboard, if_pos hready]
      exact h
    by_cases hmouse : status &&& kMouseData ≠ 0
    · show Agree (s.interruptHandlerKeyboard readerOps status key)
      rw [interruptHandlerKeyboard, if_neg hready, if_pos hmouse]
      exact ⟨h.enabled, h.same⟩
    cases hkey : s.escape.completes key with
    | false => exact received_goesOn h hready hmouse hkey
    | true =>
      have hplain : s.escape.extendedState = false := by
        simpa [escapesExtended, hready, not_not.1 hmouse, hkey] using ha
      obtain ⟨hescape, hqueue⟩ := received_completed h hready hmouse hkey
      rw [hplain] at hqueue
      exact ⟨by rw [received h hready hmouse key]; exact h.enabled, hqueue.trans hescape.symm⟩

theorem step_disagree {s : InterruptTime EscapeState} (a : QueueAction) (h : Agree s) (ha : s.escapesExtended a = true) :
    ¬ sameModifiers (s.step readerOps a) := by
  cases a with
  | dequeueKeyboardData => cases ha
  | interruptHandlerKeyboard status key =>
    simp only [escapesExtended, Bool.and_eq_true, decide_eq_true_eq] at ha
    obtain ⟨⟨⟨hready, hmouse⟩, hextended⟩, hkey⟩ := ha
    obtain ⟨hescape, hqueue⟩ := received_completed h hready (not_not.2 hmouse) hkey
    rw [hextended] at hqueue
    rw [sameModifiers, hescape, hqueue]
    decide

/-- After every byte of a run the bytes passed on leave the modifiers down that the controller has as down, exactly if
no extended Delete completes the escape sequence. -/
theorem modifiers_agree_iff (as : List QueueAction) :
    (∀ p a, p ++ [a] <+: as → sameModifiers ((run (step readerOps) p (start true .init)).step readerOps a)) ↔
      ∀ p a, p ++ [a] <+: as → (run (step readerOps) p (start true .init)).escapesExtended a = false := by
  have hexact : ∀ s a, Agree s → (sameModifiers (s.step readerOps a) ↔ s.escapesExtended a = false) := by
    intro s a h
    constructor
    · intro hsame
      rw [Bool.eq_false_iff]
      exact fun ha => step_disagree a h ha hsame
    · intro ha
      rw [sameModifiers, (step_agree a h ha).same]
  exact run_property_iff (fun s a h hsame => step_agree a h ((hexact s a h).1 hsame)) hexact as ⟨rfl, rfl⟩

end InterruptTime

end ApplePS2
