import Mathlib.Algebra.Order.Ring.Nat
import ApplePS2.Gate.Processing
import ApplePS2.Gate.RequestOrder

/- Every request comes to an end.

   A request that was started is finished or is still processed by an activation on the
   stack (`processed_perm`). `Gate.weight` counts what is left to do when no more bytes
   arrive, no request is submitted and driver code returns; every step of the innermost
   activation lowers it.

   1. `requests_perm`: at any time a request is in exactly one place: queued, waiting on the
      stack, processed there, or finished.
   2. `all_finished`: from every state that can be reached the gate comes to rest by itself,
      with every request finished once. -/
namespace ApplePS2

/-- The requests finished, in order. -/
def finished (log : List Event) : List Nat := log.filterMap fun | .finished t _ => some t | _ => none

/-- The request an activation of `processRequest` is about. -/
def Frame.running : Frame → List Nat
  | .processRequest a => [a.submitted.ticket]
  | .interruptOccurred => []
  | .processRequestQueue _ => []
  | .submitRequestAndBlockGated _ => []
  | .driver => []

def running (stack : List Frame) : List Nat := stack.flatMap Frame.running

theorem finished_append (log es : List Event) : finished (log ++ es) = finished log ++ finished es := by
  simp [finished]

theorem finished_within {t : Nat} {es : List Event} (hes : ∀ e ∈ es, e.Within t) : finished es = [] := by
  refine List.filterMap_eq_nil_iff.mpr ?_
  intro e he
  have := hes e he
  cases e <;> simp_all [Event.Within]

theorem finished_produced {es : List Event} (hes : ∀ e ∈ es, ∃ b, e = .produced b) : finished es = [] := by
  refine List.filterMap_eq_nil_iff.mpr ?_
  intro e he
  obtain ⟨b, rfl⟩ := hes e he
  rfl

theorem running_above {above : List Frame} (habove : Above above) (stack : List Frame) :
    running (above ++ stack) = running stack := by
  rcases habove with rfl | rfl <;> rfl

/-- What is over goes from the stack to the log. -/
theorem Goes.processed {t : Nat} {base : List Frame} {log : List Event} {s' : Gate} (h : Goes t base log s') :
    (finished s'.log ++ running s'.stack).Perm (finished log ++ t :: running base) := by
  cases h with
  | on above a es habove hticket hes hstack hlog =>
    rw [hlog, hstack, finished_append, finished_within hes, running_above habove, List.append_nil, ← hticket]
    exact List.Perm.refl _
  | ends above n es habove hes hstack hlog =>
    rw [hlog, hstack, finished_append, finished_append, finished_within hes, running_above habove, List.append_nil,
      List.append_assoc]
    exact List.Perm.refl _

theorem processed_step {mux : MuxMode} {s s' : Gate} {l : Action} (hs : s.step mux l = some s')
    (h : (started s.log).Perm (finished s.log ++ running s.stack)) :
    (started s'.log).Perm (finished s'.log ++ running s'.stack) := by
  cases step_moves hs with
  | stays es hes hstack hlog _ =>
    rw [hlog, hstack, started_append, finished_append, started_produced hes, finished_produced hes, List.append_nil,
      List.append_nil]
    exact h
  | submits r _ hs' =>
    subst hs'
    exact h
  | blocks r _ hs' =>
    subst hs'
    exact h
  | takesQueue hstack hs' =>
    subst hs'
    exact h
  | enters f hf hstack hstack' hlog _ =>
    rw [hlog, hstack']
    rw [hstack] at h
    rcases hf with rfl | rfl
    · exact h
    · exact h
  | leaves f rest hf hstack hstack' hlog _ =>
    rw [hlog, hstack']
    rw [hstack] at h
    rcases hf with rfl | rfl | rfl
    · exact h
    · exact h
    · exact h
  | drains d rest hstack hstack' hlog _ =>
    rw [hlog, hstack', started_append, finished_append]
    rw [hstack] at h
    simpa [started, finished, running, Frame.running] using h
  | starts f rest r base hf hstack hgoes _ =>
    have hstarted : started s'.log = started s.log ++ [r.ticket] := by
      rw [hgoes.started.1, started_append]
      rfl
    have hrunning : running s.stack = running base := by
      rcases hf with ⟨l, rfl, rfl⟩ | ⟨rfl, rfl⟩
      · rw [hstack]
        rfl
      · rw [hstack]
        rfl
    -- the request is processed from now on, or over at once
    have hdone : (finished s'.log ++ running s'.stack).Perm (finished s.log ++ r.ticket :: running base) := by
      have hgone := hgoes.processed
      rw [finished_append] at hgone
      simpa [finished] using hgone
    have hmoved : (running base ++ [r.ticket]).Perm (r.ticket :: running base) := List.perm_append_singleton _ _
    rw [hrunning] at h
    rw [hstarted]
    refine (h.append_right [r.ticket]).trans ?_
    rw [List.append_assoc]
    exact (hmoved.append_left _).trans hdone.symm
  | processes a rest hstack hgoes _ =>
    rw [hgoes.started.1]
    rw [hstack] at h
    exact h.trans hgoes.processed.symm

/-- A request that was started is finished, or an activation processes it. -/
theorem processed_perm {mux : MuxMode} {s : Gate}
    (h : Transition.Reaches (Gate.step mux) (fun _ _ => True) .init s) :
    (started s.log).Perm (finished s.log ++ running s.stack) :=
  h.invariant (fun s => (started s.log).Perm (finished s.log ++ running s.stack)) (List.Perm.refl _)
    fun _ _ _ hprev _ hs => processed_step hs hprev

/-- Whatever the driver code does, every request ever submitted is in exactly one place. -/
theorem requests_perm (mux : MuxMode) (s : Gate)
    (h : Transition.Reaches (Gate.step mux) (fun _ _ => True) .init s) :
    (finished s.log ++ running s.stack ++ waiting s.stack ++ s.requestQueue.map Submitted.ticket).Perm
      (List.range s.nextTicket) := by
  have hstarted := ((processed_perm h).append_right (waiting s.stack)).append_right
    (s.requestQueue.map Submitted.ticket)
  exact hstarted.symm.trans (accounted_perm mux s h)

/-- Two requests, one of them in its read and the other one waiting on the stack. -/
theorem requests_perm_waiting : ∃ s : Gate, running s.stack = [0] ∧ waiting s.stack = [1] ∧
    (finished s.log ++ running s.stack ++ waiting s.stack ++ s.requestQueue.map Submitted.ticket).Perm
      (List.range s.nextTicket) := by
  have hexec : ∃ s, Transition.exec (Gate.step .legacy) (fun _ _ => True) .init toReadAction = some s ∧
      running s.stack = [0] ∧ waiting s.stack = [1] := ⟨_, rfl, rfl, rfl⟩
  obtain ⟨s, hs, hrunning, hwaiting⟩ := hexec
  exact ⟨s, hrunning, hwaiting, requests_perm .legacy s (.of_exec toReadAction hs)⟩

/-! What is left to do. -/

/-- More than one command with a read can take. -/
def commandWeight : Nat := kTimeoutCounter + 5

namespace Phase

/-- The commands that are left, from the one in progress on. -/
def left (n : Nat) : Phase → Nat
  | .command => n
  | .reading _ _ => n - 1
  | .returning _ _ _ _ _ => n - 1

/-- What is left of the command in progress. -/
def weight : Phase → Nat
  | .command => 0
  | .reading _ r => 3 + r.timeoutCounter + 2 * r.held.length + if r.locked then 0 else 1
  | .returning _ _ _ out _ => 1 + 2 * out.length

end Phase

def Activation.weight (a : Activation) : Nat :=
  2 + a.phase.left (a.submitted.request.active.length - a.index) * commandWeight + a.phase.weight

def Submitted.weight (r : Submitted) : Nat := 3 + r.request.active.length * commandWeight

def Frame.weight : Frame → Nat
  | .interruptOccurred => 1
  | .processRequestQueue localQueue => 1 + (localQueue.map Submitted.weight).sum
  | .submitRequestAndBlockGated r => r.weight
  | .processRequest a => a.weight
  | .driver => 1

namespace Gate

/-- A byte may be held and handed on before it is gone. -/
def weight (s : Gate) : Nat := (s.stack.map Frame.weight).sum + 4 * (s.keyboardQueue.length + s.port.length)

@[simp] theorem weight_record (es : List Event) (s : Gate) : (s.record es).weight = s.weight := rfl

@[simp] theorem weight_push (f : Frame) (s : Gate) : (s.push f).weight = f.weight + s.weight := by
  simp only [weight, push, List.map_cons, List.sum_cons]
  omega

@[simp] theorem weight_resume (a : Activation) (s : Gate) : (s.resume a).weight = a.weight + s.weight :=
  weight_push _ s

@[simp] theorem weight_dispatch (d : Dispatch) (s : Gate) : (s.dispatchDriverInterrupt d).weight = 1 + s.weight := by
  rw [dispatchDriverInterrupt, weight_push, weight_record]
  rfl

theorem weight_finishRequest (r : Submitted) (n : Nat) (s : Gate) : (s.finishRequest r n).weight ≤ 1 + s.weight := by
  unfold finishRequest
  dsimp only
  split
  · rw [weight_push, weight_record]
    exact Nat.le_refl _
  · rw [weight_record]
    omega

theorem weight_stack {f : Frame} {rest : List Frame} {s : Gate} (h : s.stack = f :: rest) :
    s.weight = f.weight + { s with stack := rest }.weight := by
  simp only [weight, h, List.map_cons, List.sum_cons]
  omega

theorem weight_startRequest (r : Submitted) (s : Gate) : (s.startRequest r).weight < r.weight + s.weight := by
  unfold startRequest
  dsimp only
  split
  · have hfinish := weight_finishRequest r 0 (s.record [.started r.ticket])
    rw [weight_record] at hfinish
    simp only [Submitted.weight]
    omega
  · rw [weight_resume, weight_record]
    simp only [Activation.weight, Submitted.weight, Phase.left, Phase.weight, Activation.index, List.length_nil, Nat.sub_zero]
    omega

theorem weight_drain (s : Gate) : s.drain.weight ≤ s.weight := by
  unfold drain
  split
  · next b queue hqueue =>
    rw [weight_dispatch, weight_push]
    simp only [weight, hqueue, List.length_cons, Frame.weight]
    omega
  · next b port hqueue hport =>
    rw [weight_dispatch, weight_push]
    simp only [weight, hport, List.length_cons, Frame.weight]
    omega
  · exact Nat.le_refl _

end Gate

theorem Activation.weight_command {a : Activation} (h : a.phase = .command) :
    a.weight = 2 + (a.submitted.request.active.length - a.index) * commandWeight := by
  rw [Activation.weight, h]
  rfl

theorem Activation.weight_reading {a : Activation} {c : PS2Command} {r : Reading} (h : a.phase = .reading c r) :
    a.weight = 2 + (a.submitted.request.active.length - a.index - 1) * commandWeight +
      (3 + r.timeoutCounter + 2 * r.held.length + if r.locked then 0 else 1) := by
  rw [Activation.weight, h]
  rfl

theorem Activation.weight_returning {a : Activation} {c : PS2Command} {d : PS2DeviceType} {e : Option UInt8}
    {out : List UInt8} {v : UInt8} (h : a.phase = .returning c d e out v) :
    a.weight = 2 + (a.submitted.request.active.length - a.index - 1) * commandWeight + (1 + 2 * out.length) := by
  rw [Activation.weight, h]
  rfl

/-- With a command processed. -/
theorem Activation.left_processed {a : Activation} {c : PS2Command}
    (h : a.submitted.request.active[a.index]? = some c) :
    (a.submitted.request.active.length - a.index) * commandWeight =
      (a.submitted.request.active.length - a.index - 1) * commandWeight + commandWeight := by
  obtain ⟨hlt, -⟩ := List.getElem?_eq_some_iff.1 h
  have hleft : a.submitted.request.active.length - a.index = a.submitted.request.active.length - a.index - 1 + 1 := by omega
  rw [hleft, Nat.add_mul, Nat.one_mul]
  rfl

/-- A byte is taken from where the read finds it. -/
theorem Activation.Finds.weight {r : Reading} {b : UInt8} {s s' : Gate} (h : Activation.Finds r b s s') :
    s.weight = s'.weight + 4 := by
  cases h with
  | queued queue _ _ hqueue =>
    simp only [Gate.weight, hqueue, List.length_cons]
    omega
  | polled port _ hport =>
    simp only [Gate.weight, hport, List.length_cons]
    omega

theorem length_more {e : Option UInt8} {held held' : List UInt8} {b : UInt8}
    (h : takeRequested e held b = .more held') : held'.length = held.length + 1 := by
  unfold takeRequested at h
  split at h
  · cases h
  · split at h
    · cases h
    · split at h
      · cases h
        exact List.length_append
      · cases h

theorem length_done {e : Option UInt8} {held out : List UInt8} {b v : UInt8}
    (h : takeRequested e held b = .done out v) : out.length ≤ held.length + 1 := by
  unfold takeRequested at h
  split at h
  · cases h
    exact Nat.zero_le _
  · split at h
    · cases h
      exact Nat.le_succ _
    · split at h
      · cases h
      · cases h
        exact Nat.le_add_left 1 _

/-- Every step of an activation leaves less to do. -/
theorem Activation.Ran.weight {mux : MuxMode} {a : Activation} {s s' : Gate} (h : Activation.Ran mux a s s') :
    s'.weight < a.weight + s.weight := by
  cases h with
  | ends hphase _ =>
    have hfinish := Gate.weight_finishRequest a.submitted a.submitted.request.commandsCount s
    rw [Activation.weight_command hphase]
    omega
  | writes c hphase hnext =>
    rw [Gate.weight_resume, Gate.weight_record, Activation.weight_command hphase, Activation.left_processed hnext]
    simp only [Activation.weight, hphase, Phase.left, Phase.weight, Activation.index, List.length_append,
      List.length_singleton, commandWeight, Nat.sub_add_eq]
    omega
  | reads c d e hphase hnext =>
    rw [Gate.weight_resume, Gate.weight_record, Activation.weight_command hphase, Activation.left_processed hnext]
    simp only [Activation.weight, Phase.left, Phase.weight, Activation.index, commandWeight, List.length_nil,
      Bool.false_eq_true, if_false]
    omega
  | holds c r b held s' hphase hfinds htake =>
    -- a byte weighs 4 where it is found, and 2 where it is held
    have hlen := length_more htake
    have hbyte := hfinds.weight
    rw [Gate.weight_resume, Activation.weight_reading hphase]
    simp only [Activation.weight, Phase.left, Phase.weight, Activation.index, hlen, Bool.false_eq_true, if_false]
    omega
  | settles c r b out v s' hphase hfinds htake =>
    have hlen := length_done htake
    have hbyte := hfinds.weight
    rw [Gate.weight_resume, Activation.weight_reading hphase]
    simp only [Activation.weight, Phase.left, Phase.weight, Activation.index]
    omega
  | passesOn c r b port hphase hlocked hport =>
    rw [Gate.weight_dispatch, Gate.weight_resume, Activation.weight_reading hphase]
    simp only [Activation.weight, Phase.left, Phase.weight, Activation.index, Gate.weight, hport, hlocked,
      List.length_cons, Bool.false_eq_true, if_false, if_true]
    omega
  | locks c r hphase hunlocked =>
    rw [Gate.weight_resume, Activation.weight_reading hphase]
    simp only [Activation.weight, Phase.left, Phase.weight, Activation.index, hunlocked, Bool.false_eq_true, if_false,
      if_true]
    omega
  | polls c r hphase hlocked htime =>
    rw [Gate.weight_resume, Activation.weight_reading hphase]
    simp only [Activation.weight, Phase.left, Phase.weight, Activation.index]
    omega
  | timesOut c r hphase =>
    rw [Gate.weight_resume, Activation.weight_reading hphase]
    simp only [Activation.weight, Phase.left, Phase.weight, Activation.index, List.length_nil]
    omega
  | handsOn c d e b out v hphase =>
    rw [Gate.weight_dispatch, Gate.weight_resume, Activation.weight_returning hphase]
    simp only [Activation.weight, Phase.left, Phase.weight, Activation.index, List.length_cons]
    omega
  | returns c c' d e v hphase =>
    rw [Gate.weight_resume, Gate.weight_record, Activation.weight_returning hphase]
    simp only [Activation.weight, Phase.left, Phase.weight, Activation.index, List.length_append, List.length_singleton,
      Nat.sub_add_eq]
    omega
  | fails c d e v hphase =>
    have hfinish := Gate.weight_finishRequest a.submitted a.index
      (s.record [.access a.submitted.ticket (.readDataPort d v)])
    rw [Gate.weight_record] at hfinish
    rw [Activation.weight_returning hphase]
    omega

/-- Every step of the innermost activation leaves less to do. -/
theorem weight_run {mux : MuxMode} {s s' : Gate} (h : Gate.Ran mux s s') : s'.weight < s.weight := by
  cases h with
  | drained rest hstack =>
    have hdrain := Gate.weight_drain { s with stack := rest }
    rw [Gate.weight_stack hstack]
    simp only [Frame.weight]
    omega
  | queueDone rest hstack =>
    rw [Gate.weight_stack hstack]
    simp only [Frame.weight, List.map_nil, List.sum_nil]
    omega
  | queueNext r localQueue rest hstack =>
    have hstart := Gate.weight_startRequest r { s with stack := .processRequestQueue localQueue :: rest }
    rw [Gate.weight_stack hstack]
    simp only [Gate.weight, Frame.weight, List.map_cons, List.sum_cons] at hstart ⊢
    omega
  | blockNext r rest hstack =>
    have hstart := Gate.weight_startRequest r { s with stack := rest }
    rw [Gate.weight_stack hstack]
    exact hstart
  | processed a rest hstack =>
    have hran : Activation.Ran mux a { s with stack := rest } (a.run mux { s with stack := rest }) := Activation.run_cases
    rw [Gate.weight_stack hstack]
    exact hran.weight

/-! The gate comes to rest. -/

/-- What goes on by itself: nothing arrives, nothing is submitted, driver code returns. -/
def Action.goesOn : Action → Bool
  | .driverReturns => true
  | .processRequestQueue => true
  | .run => true
  | _ => false

theorem sameRequests_run {mux : MuxMode} {s s' : Gate} (h : Gate.Ran mux s s') : SameRequests s s' := by
  have hbusy : s.stack ≠ [] := by
    cases h with
    | drained rest hstack => simp [hstack]
    | queueDone rest hstack => simp [hstack]
    | queueNext r localQueue rest hstack => simp [hstack]
    | blockNext r rest hstack => simp [hstack]
    | processed a rest hstack => simp [hstack]
  have hmove : Move s .run s' := run_moves h
  cases hmove with
  | stays _ _ _ _ hsame => exact hsame
  | submits _ hl _ => cases hl
  | blocks _ hl _ => cases hl
  | takesQueue hstack _ => exact absurd hstack hbusy
  | enters _ _ hstack _ _ _ => exact absurd hstack hbusy
  | leaves _ _ _ _ _ _ hsame => exact hsame
  | drains _ _ _ _ _ hsame => exact hsame
  | starts _ _ _ _ _ _ _ hsame => exact hsame
  | processes _ _ _ _ hsame => exact hsame

/-- As long as something is on the stack, it can go on. -/
theorem busy_goesOn (mux : MuxMode) {s : Gate} (h : s.stack ≠ []) :
    ∃ l s', l.goesOn = true ∧ s.step mux l = some s' ∧ SameRequests s s' ∧ s'.weight < s.weight := by
  have hruns : ∀ s', s.run mux = some s' →
      ∃ l s', l.goesOn = true ∧ s.step mux l = some s' ∧ SameRequests s s' ∧ s'.weight < s.weight := by
    intro s' hrun
    have hran : Gate.Ran mux s s' := Gate.run_cases hrun
    exact ⟨.run, s', rfl, hrun, sameRequests_run hran, weight_run hran⟩
  cases hstack : s.stack with
  | nil => exact absurd hstack h
  | cons f rest =>
    cases f with
    | interruptOccurred =>
      apply hruns { s with stack := rest }.drain
      rw [Gate.run, hstack]
    | processRequestQueue localQueue =>
      cases localQueue with
      | nil =>
        apply hruns { s with stack := rest }
        rw [Gate.run, hstack]
      | cons r localQueue =>
        apply hruns ({ s with stack := .processRequestQueue localQueue :: rest }.startRequest r)
        rw [Gate.run, hstack]
    | submitRequestAndBlockGated r =>
      apply hruns ({ s with stack := rest }.startRequest r)
      rw [Gate.run, hstack]
    | processRequest a =>
      apply hruns (a.run mux { s with stack := rest })
      rw [Gate.run, hstack]
    | driver =>
      have hreturns : s.step mux .driverReturns = some { s with stack := rest } := by rw [Gate.step, hstack]
      refine ⟨.driverReturns, { s with stack := rest }, rfl, hreturns, ⟨rfl, rfl⟩, ?_⟩
      rw [Gate.weight_stack hstack]
      simp only [Frame.weight]
      omega

/-- The stack empties, and the shared queue is left alone meanwhile. -/
theorem comes_to_rest (mux : MuxMode) (s : Gate) :
    ∃ t, Transition.Reaches (Gate.step mux) (fun _ l => l.goesOn = true) s t ∧ SameRequests s t ∧ t.stack = [] := by
  apply Transition.Reaches.exists_done (SameRequests s) (fun t => t.stack = []) Gate.weight _ ⟨rfl, rfl⟩
  intro u hsame hbusy
  obtain ⟨l, u', hl, hstep, hnext, hless⟩ := busy_goesOn mux hbusy
  exact ⟨l, u', hl, hstep, ⟨hnext.requestQueue.trans hsame.requestQueue, hnext.nextTicket.trans hsame.nextTicket⟩, hless⟩

/-- From every state the gate goes on by itself until no activation and no request is left:
every request ever submitted is then finished, each once. -/
theorem all_finished (mux : MuxMode) (s : Gate)
    (h : Transition.Reaches (Gate.step mux) (fun _ _ => True) .init s) :
    ∃ t, Transition.Reaches (Gate.step mux) (fun _ l => l.goesOn = true) s t ∧ t.stack = [] ∧ t.requestQueue = [] ∧
      (finished t.log).Perm (List.range s.nextTicket) := by
  -- what is on the stack comes to an end, then what is in the shared queue
  obtain ⟨u, hfirst, hsame, hidle⟩ := comes_to_rest mux s
  have htakes : u.step mux .processRequestQueue = some u.processRequestQueue := if_pos hidle
  obtain ⟨t, hsecond, hsame', hidle'⟩ := comes_to_rest mux u.processRequestQueue
  have hall : Transition.Reaches (Gate.step mux) (fun _ l => l.goesOn = true) s t :=
    (hfirst.next rfl htakes).trans hsecond
  have hreach : Transition.Reaches (Gate.step mux) (fun _ _ => True) .init t := h.trans (hall.mono fun _ _ _ => trivial)
  have hqueue : t.requestQueue = [] := hsame'.requestQueue
  have hticket : t.nextTicket = s.nextTicket := hsame'.nextTicket.trans hsame.nextTicket
  refine ⟨t, hall, hidle', hqueue, ?_⟩
  have haccounted : (started t.log).Perm (List.range s.nextTicket) := by
    have hacc := accounted_perm mux t hreach
    rw [Gate.accounted, hidle', hqueue, hticket] at hacc
    simpa [waiting] using hacc
  have hprocessed : (started t.log).Perm (finished t.log) := by
    have hproc := processed_perm hreach
    rw [hidle'] at hproc
    simpa [running] using hproc
  exact hprocessed.symm.trans haccounted

/-- A request that waits while another one is read for, when the driver is called. -/
theorem all_finished_waiting : ∃ s t : Gate,
    Transition.exec (Gate.step .legacy) (fun _ _ => True) .init toReadAction = some s ∧
    Transition.Reaches (Gate.step .legacy) (fun _ l => l.goesOn = true) s t ∧ t.stack = [] ∧ t.requestQueue = [] ∧
    (finished t.log).Perm (List.range 2) := by
  have hexec : ∃ s, Transition.exec (Gate.step .legacy) (fun _ _ => True) .init toReadAction = some s ∧
      s.nextTicket = 2 := ⟨_, rfl, rfl⟩
  obtain ⟨s, hs, hticket⟩ := hexec
  obtain ⟨t, hreach, hstack, hqueue, hperm⟩ := all_finished .legacy s (.of_exec toReadAction hs)
  exact ⟨s, t, hs, hreach, hstack, hqueue, hticket ▸ hperm⟩

end ApplePS2
