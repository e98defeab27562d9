import ApplePS2.Gate.Moves
import Mathlib.Data.List.Perm.Basic
import Mathlib.Data.List.Range

/- The request queue: every request once, and in order.

   A request is started, or waits in the local queue of a `processRequestQueue` or
   in a `submitRequestAndBlockGated`, or is in the shared queue. `accounted` lists
   them in that order, and `accounted_step` says what each step does to it.

   1. `accounted_perm`: whatever the driver code does, every request ever submitted
      is in exactly one of these places.
   2. `accounted_inOrder`: the list is in the order of submission in every run in
      which no request waits on the stack when a synchronous one is submitted.
   3. `inOrder_fails`: a synchronous request overtakes one that waits there. -/
namespace ApplePS2

/-- The requests started, in order. -/
def started (log : List Event) : List Nat := log.filterMap fun | .started t => some t | _ => none

/-- The requests an activation has taken off the shared queue and not started. -/
def Frame.waiting : Frame → List Nat
  | .processRequestQueue localQueue => localQueue.map Submitted.ticket
  | .submitRequestAndBlockGated r => [r.ticket]
  | .interruptOccurred => []
  | .processRequest _ => []
  | .driver => []

def waiting (stack : List Frame) : List Nat := stack.flatMap Frame.waiting

/-- All requests: those started, those waiting on the stack, those queued. -/
def Gate.accounted (s : Gate) : List Nat :=
  started s.log ++ waiting s.stack ++ s.requestQueue.map Submitted.ticket

/-- When a synchronous request is submitted, no request waits on the stack. -/
def nothingWaits (s : Gate) : Action → Bool
  | .submitRequestAndBlock _ => (waiting s.stack).isEmpty
  | _ => true

theorem started_append (log es : List Event) : started (log ++ es) = started log ++ started es := by
  simp [started]

theorem started_within {t : Nat} {es : List Event} (hes : ∀ e ∈ es, e.Within t) : started es = [] := by
  refine List.filterMap_eq_nil_iff.mpr ?_
  intro e he
  have := hes e he
  cases e <;> simp_all [Event.Within]

theorem started_produced {es : List Event} (hes : ∀ e ∈ es, ∃ b, e = .produced b) : started es = [] := by
  refine List.filterMap_eq_nil_iff.mpr ?_
  intro e he
  obtain ⟨b, rfl⟩ := hes e he
  rfl

theorem waiting_above {above : List Frame} (habove : Above above) (stack : List Frame) :
    waiting (above ++ stack) = waiting stack := by
  rcases habove with rfl | rfl <;> rfl

theorem waiting_cons (f : Frame) (rest : List Frame) : waiting (f :: rest) = f.waiting ++ waiting rest := by
  simp [waiting]

/-- An activation starts nothing, and nothing waits in it. -/
theorem Goes.started {t : Nat} {base : List Frame} {log : List Event} {s' : Gate}
    (h : Goes t base log s') : started s'.log = started log ∧ waiting s'.stack = waiting base := by
  cases h with
  | on above a es habove hticket hes hstack hlog =>
    rw [hlog, hstack, started_append, started_within hes, waiting_above habove, List.append_nil]
    exact ⟨rfl, rfl⟩
  | ends above n es habove hes hstack hlog =>
    rw [hlog, hstack, started_append, started_append, started_within hes, waiting_above habove]
    simp [ApplePS2.started]

/-- What a step does to the list: nothing, or one more request at its end, or a
synchronous one before those that wait on the stack. -/
inductive Accounts (s : Gate) (l : Action) (s' : Gate) : Prop where
  | same (hticket : s'.nextTicket = s.nextTicket) (hacc : s'.accounted = s.accounted)
  | last (hticket : s'.nextTicket = s.nextTicket + 1) (hacc : s'.accounted = s.accounted ++ [s.nextTicket])
  | ahead (r : PS2Request) (hl : l = .submitRequestAndBlock r) (hticket : s'.nextTicket = s.nextTicket + 1)
      (hacc : s'.accounted = started s.log ++ (s.requestQueue.map Submitted.ticket ++ [s.nextTicket] ++
        waiting s.stack))

theorem accounted_step {mux : MuxMode} {s s' : Gate} {l : Action} (hs : s.step mux l = some s') :
    Accounts s l s' := by
  cases step_moves hs with
  | stays es hes hstack hlog hsame =>
    refine .same hsame.nextTicket ?_
    rw [Gate.accounted, hlog, hstack, hsame.requestQueue, started_append, started_produced hes,
      List.append_nil]
    rfl
  | submits r _ hs' =>
    subst hs'
    exact .last rfl (by simp [Gate.accounted, Gate.submitRequest])
  | blocks r hl hs' =>
    subst hs'
    -- a blocking request goes behind the queue, and ahead of what waits on the stack
    refine .ahead r hl rfl ?_
    simp [Gate.accounted, Gate.submitRequestAndBlock, Gate.processRequestQueue, Gate.push, waiting_cons,
      Frame.waiting]
  | takesQueue hstack hs' =>
    subst hs'
    refine .same rfl ?_
    simp [Gate.accounted, Gate.processRequestQueue, Gate.push, hstack, waiting, Frame.waiting]
  | enters f hf hstack hstack' hlog hsame =>
    refine .same hsame.nextTicket ?_
    rw [Gate.accounted, Gate.accounted, hlog, hstack, hstack', hsame.requestQueue]
    rcases hf with rfl | rfl <;> rfl
  | leaves f rest hf hstack hstack' hlog hsame =>
    refine .same hsame.nextTicket ?_
    rw [Gate.accounted, Gate.accounted, hlog, hstack, hstack', hsame.requestQueue]
    rcases hf with rfl | rfl | rfl <;> rfl
  | drains d rest hstack hstack' hlog hsame =>
    refine .same hsame.nextTicket ?_
    rw [Gate.accounted, Gate.accounted, hlog, hstack, hstack', hsame.requestQueue, started_append]
    simp [started, waiting, Frame.waiting]
  | starts f rest r base hf hstack hgoes hsame =>
    refine .same hsame.nextTicket ?_
    obtain ⟨hstarted, hwaiting⟩ := hgoes.started
    -- the request moves from the front of those waiting to the end of those started
    have hmoved : f.waiting ++ waiting rest = r.ticket :: waiting base := by
      rcases hf with ⟨l, rfl, rfl⟩ | ⟨rfl, rfl⟩
      · simp [Frame.waiting, waiting_cons]
      · simp [Frame.waiting]
    rw [Gate.accounted, Gate.accounted, hstarted, hwaiting, hstack, hsame.requestQueue, started_append,
      waiting_cons, hmoved]
    simp [started]
  | processes a rest hstack hgoes hsame =>
    refine .same hsame.nextTicket ?_
    obtain ⟨hstarted, hwaiting⟩ := hgoes.started
    rw [Gate.accounted, Gate.accounted, hstarted, hwaiting, hstack, hsame.requestQueue]
    rfl

/-- No request is lost and none is started twice, whatever the driver code does. -/
theorem accounted_perm (mux : MuxMode) (s : Gate)
    (h : Transition.Reaches (Gate.step mux) (fun _ _ => True) .init s) :
    s.accounted.Perm (List.range s.nextTicket) := by
  refine h.invariant (fun s => s.accounted.Perm (List.range s.nextTicket)) (by decide) ?_
  intro s l s' hperm _ hs
  rcases accounted_step hs with ⟨hticket, hacc⟩ | ⟨hticket, hacc⟩ | ⟨r, _, hticket, hacc⟩
  · rw [hacc, hticket]
    exact hperm
  · rw [hacc, hticket, List.range_succ]
    exact hperm.append_right _
  · rw [hacc, hticket, List.range_succ]
    refine List.Perm.trans ?_ (hperm.append_right _)
    simp only [Gate.accounted, List.append_assoc]
    refine List.Perm.append_left _ ?_
    rw [← List.append_assoc]
    exact List.perm_append_comm.trans (List.Perm.of_eq (by simp))

/-- The requests started, those waiting and those queued are all requests ever
submitted, each once, in the order of submission; and when the gate is free and
the queue empty, all were started. -/
structure InOrder (s : Gate) : Prop where
  accounted : started s.log ++ (waiting s.stack ++ s.requestQueue.map Submitted.ticket) =
    List.range s.nextTicket
  all : s.stack = [] → s.requestQueue = [] → started s.log = List.range s.nextTicket

/-- In every run in which no request waits on the stack when a synchronous one is
submitted, every request is started once and in the order of submission. -/
theorem accounted_inOrder (mux : MuxMode) (s : Gate)
    (h : Transition.Reaches (Gate.step mux) (fun s l => nothingWaits s l = true) .init s) : InOrder s := by
  suffices hacc : s.accounted = List.range s.nextTicket by
    refine ⟨by rw [← hacc]; simp [Gate.accounted], ?_⟩
    intro hstack hqueue
    rw [← hacc]
    simp [Gate.accounted, hstack, hqueue, waiting]
  refine h.invariant (fun s => s.accounted = List.range s.nextTicket) rfl ?_
  intro s l s' hprev hok hs
  rcases accounted_step hs with ⟨hticket, hacc⟩ | ⟨hticket, hacc⟩ | ⟨r, rfl, hticket, hacc⟩
  · rw [hacc, hticket, hprev]
  · rw [hacc, hticket, hprev, List.range_succ]
  · have hnone : waiting s.stack = [] := by simpa [nothingWaits] using hok
    rw [hacc, hticket, List.range_succ, ← hprev]
    simp [Gate.accounted, hnone]

/-! Two runs of the same requests. -/

/-- One read of the keyboard stream. -/
def readOnce : PS2Request := ⟨[⟨.kPS2C_ReadDataPort, 0⟩], 1, false, false, by decide, by decide⟩

/-- Two asynchronous requests, the first one in its read when a mouse byte is
handed to the mouse driver. -/
def toReadAction : List Action :=
  [.submitRequest readOnce, .submitRequest readOnce, .processRequestQueue, .run, .run, .run,
    .arrive .kDT_Mouse 0, .run]

def allInTurn : List Action :=
  toReadAction ++ [.driverReturns, .arrive .kDT_Keyboard 0, .run, .run, .run, .run, .run, .run, .run,
    .arrive .kDT_Keyboard 0, .run, .run, .run, .run, .callDriver, .submitRequestAndBlock readOnce, .run, .run]

theorem accounted_inOrder_inTurn : ∃ s : Gate, started s.log = [0, 1, 2] ∧ InOrder s := by
  have hexec : ∃ s, Transition.exec (Gate.step .legacy)
      (fun s l => nothingWaits s l = true) .init allInTurn = some s ∧ started s.log = [0, 1, 2] :=
    ⟨_, rfl, rfl⟩
  obtain ⟨s, hs, hstarted⟩ := hexec
  exact ⟨s, hstarted, accounted_inOrder _ s (.of_exec allInTurn hs)⟩

/-- The interrupt action submits a synchronous request: it is started before the
second of the asynchronous ones. -/
theorem inOrder_fails : ∃ s : Gate,
    Transition.Reaches (Gate.step .legacy) (fun _ _ => True) .init s ∧
    started s.log = [0, 2] ∧ ¬ InOrder s := by
  have hexec : ∃ s, Transition.exec (Gate.step .legacy) (fun _ _ => True)
      .init (toReadAction ++ [.submitRequestAndBlock readOnce, .run, .run]) = some s ∧
      started s.log = [0, 2] ∧ s.nextTicket = 3 := ⟨_, rfl, rfl, rfl⟩
  obtain ⟨s, hs, hstarted, hticket⟩ := hexec
  refine ⟨s, .of_exec _ hs, hstarted, ?_⟩
  intro h
  have hacc := h.accounted
  rw [hstarted, hticket] at hacc
  have := congrArg (·[1]?) hacc
  simp at this

end ApplePS2
