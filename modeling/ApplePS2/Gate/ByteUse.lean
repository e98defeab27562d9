import ApplePS2.Gate.Processing
import ApplePS2.Gate.KeyboardOrder
import Mathlib.Data.List.Count
import Mathlib.Data.List.Perm.Subperm

/- Every byte is used once at most.

   A byte of a device is handed to that device's driver, or a read returns it to the
   request that asked for it, or it is dropped. `Gate.amount` counts what has become of the
   bytes of one stream and what of them is still on its way; a step that is not an arrival
   does not add to it (`amount_step`), although reads nest in driver code, hold bytes back
   and hand them on later; but for the fake value of a read that times out with no byte.

   `bytes_used_once`: whatever the driver code does, nothing is handed to a driver or
   returned that its device has not sent, and nothing twice, apart from these values. -/
namespace ApplePS2

/-- The bytes of a device handed to its driver. -/
def dispatchedOn (d : PS2DeviceType) (log : List Event) : List UInt8 :=
  log.filterMap fun
    | .dispatched (stream, b) => if stream = d then some b else none
    | _ => none

/-- What the reads of a device's stream have returned. -/
def answersOn (d : PS2DeviceType) (log : List Event) : List UInt8 :=
  log.flatMap fun
    | .access _ (.readDataPort stream v) => if stream = d then [v] else []
    | _ => []

/-- The bytes that a device sends. -/
def arrivals (d : PS2DeviceType) (ls : List Action) : List UInt8 :=
  ls.filterMap fun
    | .arrive stream b => if stream = d then some b else none
    | _ => none

/-- What an activation holds of a stream. -/
def Phase.carries (d : PS2DeviceType) : Phase → List UInt8
  | .command => []
  | .reading _ r => if r.deviceType = d then r.held else []
  | .returning _ stream _ out v => if stream = d then out ++ [v] else []

def Frame.carries (d : PS2DeviceType) : Frame → List UInt8
  | .processRequest a => a.phase.carries d
  | .interruptOccurred => []
  | .processRequestQueue _ => []
  | .submitRequestAndBlockGated _ => []
  | .driver => []

/-- "a fake value": the read of the stream times out at its next step, and it holds no byte. -/
def Phase.fakes (d : PS2DeviceType) (port : List Dispatch) : Phase → List UInt8
  | .reading _ r =>
    if r.deviceType = d ∧ r.locked = true ∧ port = [] ∧ r.timeoutCounter ≤ 1 ∧ r.held = [] then [0] else []
  | _ => []

/-- The fake value that a step of the gate makes a read return. -/
def Gate.fakes (d : PS2DeviceType) (s : Gate) : Action → List UInt8
  | .run =>
    match s.stack with
    | .processRequest a :: _ => a.phase.fakes d s.port
    | _ => []
  | _ => []

/-- The fake values in a run. -/
def fakes (d : PS2DeviceType) (mux : MuxMode) : Gate → List Action → List UInt8
  | _, [] => []
  | s, l :: ls => s.fakes d l ++ (s.step mux l).elim [] fun t => fakes d mux t ls

/-- The bytes of a stream in the order in which they will be used, if they are. -/
def Gate.bytes (d : PS2DeviceType) (s : Gate) : List UInt8 :=
  dispatchedOn d s.log ++ answersOn d s.log ++ s.stack.flatMap (Frame.carries d) ++
    (if d = .kDT_Keyboard then s.keyboardQueue else []) ++ streamOf d s.port

/-- How often a byte is among them. -/
def Gate.amount (d : PS2DeviceType) (b : UInt8) (s : Gate) : Nat := (s.bytes d).count b

theorem dispatchedOn_append (d : PS2DeviceType) (log es : List Event) :
    dispatchedOn d (log ++ es) = dispatchedOn d log ++ dispatchedOn d es := by
  simp [dispatchedOn]

theorem answersOn_append (d : PS2DeviceType) (log es : List Event) :
    answersOn d (log ++ es) = answersOn d log ++ answersOn d es := by
  simp [answersOn]

/-- The writes of a command use no byte. -/
theorem writes_use (d : PS2DeviceType) (mux : MuxMode) (m : Mode) (c : PS2Command) (t : Nat) :
    dispatchedOn d ((commandPlan mux m c).writes.map (.access t)) = [] ∧
      answersOn d ((commandPlan mux m c).writes.map (.access t)) = [] := by
  obtain ⟨k, b⟩ := c
  cases k with
  | kPS2C_ReadDataPort => exact ⟨rfl, rfl⟩
  | kPS2C_ReadDataPortAndCompare => exact ⟨rfl, rfl⟩
  | kPS2C_WriteDataPort => exact ⟨rfl, rfl⟩
  | kPS2C_WriteCommandPort => exact ⟨rfl, rfl⟩
  | kPS2C_SendMouseCommandAndCompareAck => exact ⟨rfl, rfl⟩
  | kPS2C_ReadMouseDataPort => exact ⟨rfl, rfl⟩

namespace Gate

variable (d : PS2DeviceType) (b : UInt8)

/-- The parts, one by one. -/
theorem amount_eq (s : Gate) : s.amount d b =
    (dispatchedOn d s.log).count b + (answersOn d s.log).count b + (s.stack.flatMap (Frame.carries d)).count b +
      (if d = .kDT_Keyboard then s.keyboardQueue else []).count b + (streamOf d s.port).count b := by
  simp only [amount, bytes, List.count_append]

theorem amount_push (f : Frame) (s : Gate) : (s.push f).amount d b = s.amount d b + (f.carries d).count b := by
  simp only [amount_eq, push, List.flatMap_cons, List.count_append]
  omega

theorem amount_resume (a : Activation) (s : Gate) :
    (s.resume a).amount d b = s.amount d b + (a.phase.carries d).count b := amount_push d b _ s

theorem amount_record (es : List Event) (s : Gate) :
    (s.record es).amount d b = s.amount d b + (dispatchedOn d es).count b + (answersOn d es).count b := by
  simp only [amount_eq, record, dispatchedOn_append, answersOn_append, List.count_append]
  omega

theorem amount_dispatch (x : Dispatch) (s : Gate) :
    (s.dispatchDriverInterrupt x).amount d b = s.amount d b + (if x.1 = d then [x.2] else []).count b := by
  have hdispatched : dispatchedOn d [Event.dispatched x] = if x.1 = d then [x.2] else [] := by
    obtain ⟨stream, c⟩ := x
    simp only [dispatchedOn, List.filterMap_cons, List.filterMap_nil]
    split
    · next h =>
      split at h
      · cases h
      · next hne => rw [if_neg hne]
    · next h =>
      split at h
      · next heq =>
        cases h
        rw [if_pos heq]
      · cases h
  rw [dispatchDriverInterrupt, amount_push, amount_record, hdispatched]
  rfl

theorem amount_finishRequest (r : Submitted) (n : Nat) (s : Gate) : (s.finishRequest r n).amount d b = s.amount d b := by
  unfold finishRequest
  dsimp only
  split
  · rw [amount_push, amount_record]
    rfl
  · rw [amount_record]
    rfl

theorem amount_startRequest (r : Submitted) (s : Gate) : (s.startRequest r).amount d b = s.amount d b := by
  unfold startRequest
  dsimp only
  split
  · rw [amount_finishRequest, amount_record]
    rfl
  · rw [amount_resume, amount_record]
    rfl

theorem amount_stack {f : Frame} {rest : List Frame} {s : Gate} (h : s.stack = f :: rest) :
    s.amount d b = { s with stack := rest }.amount d b + (f.carries d).count b := by
  simp only [amount_eq, h, List.flatMap_cons, List.count_append]
  omega

/-- A byte at the front of the port. -/
theorem amount_port {x : Dispatch} {port : List Dispatch} {s : Gate} (h : s.port = x :: port) :
    s.amount d b = { s with port := port }.amount d b + (if x.1 = d then [x.2] else []).count b := by
  have hstream : streamOf d (x :: port) = (if x.1 = d then [x.2] else []) ++ streamOf d port := by
    obtain ⟨stream, c⟩ := x
    rw [streamOf_cons]
    split
    · rfl
    · rfl
  simp only [amount_eq, h, hstream, List.count_append]
  omega

/-- A byte at the front of the internal queue. -/
theorem amount_queue {c : UInt8} {queue : List UInt8} {s : Gate} (h : s.keyboardQueue = c :: queue) :
    s.amount d b = { s with keyboardQueue := queue }.amount d b + (if PS2DeviceType.kDT_Keyboard = d then [c] else []).count b := by
  simp only [amount_eq, h]
  cases d with
  | kDT_Keyboard =>
    simp only [if_true, List.count_cons, List.count_nil]
    omega
  | kDT_Mouse =>
    simp only [reduceCtorEq, if_false, List.count_nil]
    omega

end Gate

theorem count_more {e : Option UInt8} {held held' : List UInt8} {c : UInt8} (b : UInt8)
    (h : takeRequested e held c = .more held') : held'.count b = held.count b + [c].count b := by
  unfold takeRequested at h
  split at h
  · cases h
  · split at h
    · cases h
    · split at h
      · cases h
        exact List.count_append
      · cases h

/-- What a read hands on and returns, it holds or has just taken. -/
theorem count_done_le {e : Option UInt8} {held out : List UInt8} {c v : UInt8} (b : UInt8)
    (h : takeRequested e held c = .done out v) : (out ++ [v]).count b ≤ held.count b + [c].count b := by
  unfold takeRequested at h
  split at h
  · cases h
    rw [List.nil_append]
    omega
  · split at h
    · cases h
      exact Nat.le_of_eq List.count_append
    · split at h
      · cases h
      · next hfull =>
        cases h
        cases held with
        | nil => exact absurd (by decide) hfull
        | cons first held =>
          have hheld : (first :: held).count b = [first].count b + held.count b := @List.count_append _ _ b [first] held
          rw [List.count_append, List.headD_cons, hheld]
          omega

/-- A read takes a byte of its own stream. -/
theorem Activation.Finds.amount {r : Reading} {c : UInt8} {s s' : Gate} (d : PS2DeviceType) (b : UInt8)
    (h : Activation.Finds r c s s') : s.amount d b = s'.amount d b + (if r.deviceType = d then [c] else []).count b := by
  cases h with
  | queued queue _ hdevice hqueue =>
    rw [hdevice]
    exact Gate.amount_queue d b hqueue
  | polled port _ hport => exact Gate.amount_port d b hport

/-- A read that times out returns a byte it holds, or the fake value. -/
theorem count_timedOut_le {c : PS2Command} {r : Reading} {port : List Dispatch} (b : UInt8) (hlocked : r.locked = true)
    (hempty : port = []) (htime : r.timeoutCounter ≤ 1) :
    [timedOut r.held].count b ≤ r.held.count b + ((Phase.reading c r).fakes r.deviceType port).count b := by
  obtain ⟨stream, e, held, counter, locked⟩ := r
  cases held with
  | nil =>
    have hfake : (Phase.reading c ⟨stream, e, [], counter, locked⟩).fakes stream port = [0] :=
      if_pos ⟨rfl, hlocked, hempty, htime, rfl⟩
    rw [hfake]
    exact Nat.le_add_left _ _
  | cons first held =>
    have hheld : (first :: held).count b = [first].count b + held.count b := @List.count_append _ _ b [first] held
    show [first].count b ≤ (first :: held).count b + _
    omega

/-- What a read carries on when it has found a byte: it held that, or the byte is one of its stream. -/
theorem carried_le {stream d : PS2DeviceType} {b c : UInt8} {held kept : List UInt8} {used used' : Nat}
    (hcount : kept.count b ≤ held.count b + [c].count b) (hbyte : used = used' + (if stream = d then [c] else []).count b) :
    used' + (if stream = d then kept else []).count b ≤ used + (if stream = d then held else []).count b := by
  by_cases hown : stream = d
  · rw [if_pos hown] at hbyte ⊢
    rw [if_pos hown]
    omega
  · rw [if_neg hown] at hbyte ⊢
    rw [if_neg hown]
    omega

/-- The answer that a read returns is recorded on its own stream. -/
theorem answersOn_returned (d stream : PS2DeviceType) (ticket : Nat) (v : UInt8) :
    answersOn d [Event.access ticket (.readDataPort stream v)] = if stream = d then [v] else [] := List.append_nil _

/-- A step of an activation uses only what the activation holds or what it finds, or it returns a fake value. -/
theorem Activation.Ran.amount {mux : MuxMode} {a : Activation} {s s' : Gate} (d : PS2DeviceType) (b : UInt8)
    (h : Activation.Ran mux a s s') :
    s'.amount d b ≤ s.amount d b + (a.phase.carries d).count b + (a.phase.fakes d s.port).count b := by
  cases h with
  | ends hphase _ =>
    refine Nat.le_add_right_of_le ?_
    rw [Gate.amount_finishRequest]
    exact Nat.le_add_right _ _
  | writes c hphase hnext =>
    refine Nat.le_add_right_of_le ?_
    obtain ⟨hdispatched, hanswers⟩ := writes_use d mux a.mode c a.submitted.ticket
    rw [Gate.amount_resume, Gate.amount_record, hdispatched, hanswers]
    exact Nat.le_refl _
  | reads c stream e hphase hnext =>
    refine Nat.le_add_right_of_le ?_
    obtain ⟨hdispatched, hanswers⟩ := writes_use d mux a.mode c a.submitted.ticket
    rw [Gate.amount_resume, Gate.amount_record, hdispatched, hanswers]
    simp only [Phase.carries, ite_self, List.count_nil]
    omega
  | holds c r byte held s' hphase hfinds htake =>
    refine Nat.le_add_right_of_le ?_
    have hbyte := hfinds.amount d b
    have hcount := count_more b htake
    rw [Gate.amount_resume, hphase]
    exact carried_le (Nat.le_of_eq hcount) hbyte
  | settles c r byte out v s' hphase hfinds htake =>
    refine Nat.le_add_right_of_le ?_
    have hbyte := hfinds.amount d b
    have hcount := count_done_le b htake
    rw [Gate.amount_resume, hphase]
    exact carried_le hcount hbyte
  | passesOn c r byte port hphase hlocked hport =>
    refine Nat.le_add_right_of_le ?_
    have hbyte := Gate.amount_port d b hport
    rw [Gate.amount_dispatch, Gate.amount_resume, hphase]
    simp only [Phase.carries] at hbyte ⊢
    omega
  | locks c r hphase hunlocked =>
    refine Nat.le_add_right_of_le ?_
    rw [Gate.amount_resume, hphase]
    exact Nat.le_refl _
  | polls c r hphase hlocked htime =>
    refine Nat.le_add_right_of_le ?_
    rw [Gate.amount_resume, hphase]
    exact Nat.le_refl _
  | timesOut c r hphase hlocked hempty htime =>
    have hcount := count_timedOut_le (c := c) b hlocked hempty htime
    rw [Gate.amount_resume, hphase]
    simp only [Phase.carries, List.nil_append]
    split
    · next hown =>
      rw [hown] at hcount
      omega
    · exact Nat.le_add_right _ _
  | handsOn c stream e byte out v hphase =>
    refine Nat.le_add_right_of_le ?_
    rw [Gate.amount_dispatch, Gate.amount_resume, hphase]
    simp only [Phase.carries]
    split
    · simp only [List.cons_append, List.count_cons, List.count_nil]
      omega
    · exact Nat.le_refl _
  | returns c c' stream e v hphase =>
    refine Nat.le_add_right_of_le ?_
    rw [Gate.amount_resume, Gate.amount_record, answersOn_returned, hphase]
    exact Nat.le_refl _
  | fails c stream e v hphase =>
    refine Nat.le_add_right_of_le ?_
    rw [Gate.amount_finishRequest, Gate.amount_record, answersOn_returned, hphase]
    exact Nat.le_refl _

namespace Gate

variable (d : PS2DeviceType) (b : UInt8)

theorem amount_arrive (stream : PS2DeviceType) (c : UInt8) (s : Gate) :
    (s.arrive stream c).amount d b = s.amount d b + (arrivals d [.arrive stream c]).count b := by
  have hport : ({ s with port := s.port ++ [(stream, c)] } : Gate).amount d b =
      s.amount d b + (arrivals d [.arrive stream c]).count b := by
    have hnew : streamOf d [(stream, c)] = arrivals d [.arrive stream c] := by
      by_cases h : stream = d
      · simp [arrivals, streamOf_cons, h]
      · simp [arrivals, streamOf_cons, h]
    simp only [amount_eq, streamOf_append, hnew, List.count_append]
    omega
  unfold arrive
  dsimp only
  split
  · rw [amount_record, hport]
    rfl
  · exact hport

/-- The element is dropped when the queue is full. -/
theorem count_enqueue_le (c : UInt8) (queue : List UInt8) :
    (enqueueKeyboardData c queue).count b ≤ queue.count b + [c].count b := by
  unfold enqueueKeyboardData
  split
  · exact Nat.le_of_eq List.count_append
  · exact Nat.le_add_right _ _

theorem amount_enqueued {c : UInt8} {port : List Dispatch} {s : Gate} (h : s.port = (.kDT_Keyboard, c) :: port) :
    { s with port := port, keyboardQueue := enqueueKeyboardData c s.keyboardQueue }.amount d b ≤ s.amount d b := by
  have hqueue := count_enqueue_le b c s.keyboardQueue
  have hport := amount_port d b h
  rw [hport]
  simp only [amount_eq]
  cases d with
  | kDT_Keyboard =>
    simp only [if_true]
    omega
  | kDT_Mouse =>
    simp only [reduceCtorEq, if_false, List.count_nil]
    omega

theorem amount_drain (s : Gate) : s.drain.amount d b = s.amount d b := by
  unfold drain
  split
  · next c queue hqueue =>
    rw [amount_dispatch, amount_push, amount_queue d b hqueue]
    rfl
  · next c port hqueue hport =>
    rw [amount_dispatch, amount_push, amount_port d b hport]
    rfl
  · rfl

theorem amount_run {mux : MuxMode} {s s' : Gate} (h : Gate.Ran mux s s') :
    s'.amount d b ≤ s.amount d b + (s.fakes d .run).count b := by
  cases h with
  | drained rest hstack =>
    rw [amount_drain, amount_stack d b hstack, Nat.add_assoc]
    exact Nat.le_add_right _ _
  | queueDone rest hstack =>
    rw [amount_stack d b hstack, Nat.add_assoc]
    exact Nat.le_add_right _ _
  | queueNext r localQueue rest hstack =>
    rw [amount_startRequest, amount_stack d b hstack, Nat.add_assoc]
    exact Nat.le_add_right _ _
  | blockNext r rest hstack =>
    rw [amount_startRequest, amount_stack d b hstack, Nat.add_assoc]
    exact Nat.le_add_right _ _
  | processed a rest hstack =>
    have hran : Activation.Ran mux a { s with stack := rest } (a.run mux { s with stack := rest }) := Activation.run_cases
    have hfakes : s.fakes d .run = a.phase.fakes d s.port := by rw [fakes, hstack]
    rw [amount_stack d b hstack, hfakes]
    exact hran.amount d b

/-- Only an arrival adds to what can be used, or a fake value. -/
theorem amount_step {mux : MuxMode} {s s' : Gate} {l : Action} (h : s.step mux l = some s') :
    s'.amount d b ≤ s.amount d b + (arrivals d [l] ++ s.fakes d l).count b := by
  rw [List.count_append, ← Nat.add_assoc]
  have hquiet : ∀ s'' : Gate, s''.log = s.log → s''.stack.flatMap (Frame.carries d) = s.stack.flatMap (Frame.carries d) →
      s''.keyboardQueue = s.keyboardQueue → s''.port = s.port →
      s''.amount d b ≤ s.amount d b + (arrivals d [l]).count b + (s.fakes d l).count b := by
    intro s'' hlog hstack hqueue hport
    rw [amount_eq, amount_eq, hlog, hstack, hqueue, hport]
    exact Nat.le_add_right_of_le (Nat.le_add_right _ _)
  cases Gate.step_cases h with
  | arrive stream c => exact Nat.le_add_right_of_le (Nat.le_of_eq (amount_arrive d b stream c s))
  | enqueued c port _ hport =>
    exact Nat.le_add_right_of_le (Nat.le_add_right_of_le (amount_enqueued d b hport))
  | woken => exact hquiet s rfl rfl rfl rfl
  | submitted r => exact hquiet _ rfl rfl rfl rfl
  | blocked r _ => exact hquiet _ rfl rfl rfl rfl
  | offline => exact hquiet s rfl rfl rfl rfl
  | interrupted hstack => exact hquiet _ rfl (by rw [hstack]; rfl) rfl rfl
  | tookQueue hstack => exact hquiet _ rfl (by rw [processRequestQueue, push, hstack]; rfl) rfl rfl
  | setOffline c => exact hquiet _ rfl rfl rfl rfl
  | called hstack => exact hquiet _ rfl (by rw [hstack]; rfl) rfl rfl
  | returned rest hstack => exact hquiet _ rfl (by rw [hstack]; rfl) rfl rfl
  | ran hran => exact amount_run d b hran

/-- In a run, too. -/
theorem amount_exec {mux : MuxMode} {ls : List Action} {s s' : Gate}
    (h : Transition.exec (Gate.step mux) (fun _ _ => True) s ls = some s') :
    s'.amount d b ≤ s.amount d b + (arrivals d ls ++ ApplePS2.fakes d mux s ls).count b := by
  induction ls generalizing s with
  | nil =>
    obtain rfl : s = s' := by simpa [Transition.exec] using h
    exact Nat.le_add_right _ _
  | cons l ls ih =>
    simp only [Transition.exec, if_true] at h
    split at h
    · next t ht =>
      have hnext := amount_step d b ht
      have hrest := ih h
      have harrivals : arrivals d (l :: ls) = arrivals d [l] ++ arrivals d ls := List.filterMap_append (l := [l])
      have hfakes : ApplePS2.fakes d mux s (l :: ls) = s.fakes d l ++ ApplePS2.fakes d mux t ls := by
        rw [ApplePS2.fakes, ht]
        rfl
      rw [harrivals, hfakes]
      simp only [List.count_append] at hnext hrest ⊢
      omega
    · cases h

end Gate

/-- Whatever the driver code does: what a device's driver is handed and what reads of its
stream return was sent by that device, but for the fake values, and nothing is used twice. -/
theorem bytes_used_once (mux : MuxMode) (ls : List Action) (s : Gate)
    (h : Transition.exec (Gate.step mux) (fun _ _ => True) .init ls = some s) (d : PS2DeviceType) :
    List.Subperm (dispatchedOn d s.log ++ answersOn d s.log) (arrivals d ls ++ fakes d mux .init ls) := by
  rw [List.subperm_ext_iff]
  intro b _
  have hamount := Gate.amount_exec d b h
  have hstart : Gate.init.amount d b = 0 := by
    cases d with
    | kDT_Keyboard => rfl
    | kDT_Mouse => rfl
  rw [hstart, Gate.amount_eq] at hamount
  rw [List.count_append]
  omega

/-- A mouse read finds a keyboard byte, which the keyboard driver is handed. -/
theorem bytes_used_once_passedOn : ∃ s : Gate, dispatchedOn .kDT_Keyboard s.log = [0x1C] ∧
    List.Subperm (dispatchedOn .kDT_Keyboard s.log ++ answersOn .kDT_Keyboard s.log) [0x1C] := by
  have hexec : ∃ s, Transition.exec (Gate.step .legacy) (fun _ _ => True) .init
      [.submitRequest readMouse, .processRequestQueue, .run, .run, .run, .arrive .kDT_Keyboard 0x1C, .run] = some s ∧
      dispatchedOn .kDT_Keyboard s.log = [0x1C] := ⟨_, rfl, rfl⟩
  obtain ⟨s, hs, hdispatched⟩ := hexec
  exact ⟨s, hdispatched, bytes_used_once .legacy _ s hs .kDT_Keyboard⟩

end ApplePS2
