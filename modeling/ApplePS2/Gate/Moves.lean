import ApplePS2.Gate.Machine

/- What one step of the gate can do to the activations, the request queue and the
   log. `step_moves` is the inversion lemma of the step function for everything
   that is about requests; the bytes are the subject of `Gate.KeyboardOrder`. -/
namespace ApplePS2

/-- An event that happens within the processing of request `t`. -/
def Event.Within (t : Nat) : Event → Prop
  | .access t' _ => t' = t
  | .dispatched _ => True
  | .produced _ => False
  | .started _ => False
  | .finished _ _ => False

/-- The queue of requests and the tickets are not touched. -/
structure SameRequests (s s' : Gate) : Prop where
  requestQueue : s'.requestQueue = s.requestQueue
  nextTicket : s'.nextTicket = s.nextTicket

/-- What is put on top when an activation calls driver code, or does not. -/
def Above (above : List Frame) : Prop := above = [] ∨ above = [.driver]

/-- The activation on top of `base` and the events since: one that goes on, or
none and a request that is finished. -/
inductive Goes (t : Nat) (base : List Frame) (log : List Event) (s' : Gate) : Prop where
  | on (above : List Frame) (a : Activation) (es : List Event) (habove : Above above)
      (hticket : a.submitted.ticket = t) (hes : ∀ e ∈ es, e.Within t)
      (hstack : s'.stack = above ++ .processRequest a :: base) (hlog : s'.log = log ++ es)
  | ends (above : List Frame) (n : Nat) (es : List Event) (habove : Above above)
      (hes : ∀ e ∈ es, e.Within t)
      (hstack : s'.stack = above ++ base) (hlog : s'.log = log ++ es ++ [.finished t n])

/-- The request that frame `f` starts next, and the frames it is started on. -/
def Starts (f : Frame) (rest : List Frame) (r : Submitted) (base : List Frame) : Prop :=
  (∃ l, f = .processRequestQueue (r :: l) ∧ base = .processRequestQueue l :: rest) ∨
    (f = .submitRequestAndBlockGated r ∧ base = rest)

/-- The steps of the gate. -/
inductive Move (s : Gate) (l : Action) (s' : Gate) : Prop where
  | stays (es : List Event) (hes : ∀ e ∈ es, ∃ b, e = .produced b) (hstack : s'.stack = s.stack)
      (hlog : s'.log = s.log ++ es) (hsame : SameRequests s s')
  | submits (r : PS2Request) (hl : l = .submitRequest r) (hs : s' = s.submitRequest r)
  | blocks (r : PS2Request) (hl : l = .submitRequestAndBlock r) (hs : s' = s.submitRequestAndBlock r)
  | takesQueue (hstack : s.stack = []) (hs : s' = s.processRequestQueue)
  | enters (f : Frame) (hf : f = .driver ∨ f = .interruptOccurred) (hstack : s.stack = [])
      (hstack' : s'.stack = [f]) (hlog : s'.log = s.log) (hsame : SameRequests s s')
  | leaves (f : Frame) (rest : List Frame)
      (hf : f = .driver ∨ f = .interruptOccurred ∨ f = .processRequestQueue [])
      (hstack : s.stack = f :: rest) (hstack' : s'.stack = rest) (hlog : s'.log = s.log)
      (hsame : SameRequests s s')
  | drains (d : Dispatch) (rest : List Frame) (hstack : s.stack = .interruptOccurred :: rest)
      (hstack' : s'.stack = .driver :: .interruptOccurred :: rest)
      (hlog : s'.log = s.log ++ [.dispatched d]) (hsame : SameRequests s s')
  | starts (f : Frame) (rest : List Frame) (r : Submitted) (base : List Frame)
      (hf : Starts f rest r base) (hstack : s.stack = f :: rest)
      (hgoes : Goes r.ticket base (s.log ++ [.started r.ticket]) s') (hsame : SameRequests s s')
  | processes (a : Activation) (rest : List Frame) (hstack : s.stack = .processRequest a :: rest)
      (hgoes : Goes a.submitted.ticket rest s.log s') (hsame : SameRequests s s')

theorem finishRequest_goes (r : Submitted) (n : Nat) (es : List Event) (s : Gate)
    (hes : ∀ e ∈ es, e.Within r.ticket) :
    Goes r.ticket s.stack s.log ((s.record es).finishRequest r n) ∧
      SameRequests s ((s.record es).finishRequest r n) := by
  simp only [Gate.finishRequest]
  split
  · exact ⟨.ends [.driver] n es (.inr rfl) hes rfl rfl, rfl, rfl⟩
  · exact ⟨.ends [] n es (.inl rfl) hes rfl rfl, rfl, rfl⟩

theorem resume_goes {t : Nat} {a : Activation} (es : List Event) (s : Gate) (hes : ∀ e ∈ es, e.Within t)
    (ht : a.submitted.ticket = t) :
    Goes t s.stack s.log ((s.record es).resume a) ∧ SameRequests s ((s.record es).resume a) :=
  ⟨.on [] a es (.inl rfl) ht hes rfl rfl, rfl, rfl⟩

theorem startRequest_goes (r : Submitted) (s : Gate) :
    Goes r.ticket s.stack (s.log ++ [.started r.ticket]) (s.startRequest r) ∧
      SameRequests s (s.startRequest r) := by
  simp only [Gate.startRequest]
  split
  · simp only [Gate.finishRequest]
    split
    · exact ⟨.ends [.driver] 0 [] (.inr rfl) (by simp) rfl (by simp [Gate.push, Gate.record]), rfl, rfl⟩
    · exact ⟨.ends [] 0 [] (.inl rfl) (by simp) rfl (by simp [Gate.record]), rfl, rfl⟩
  · exact ⟨.on [] _ [] (.inl rfl) rfl (by simp) rfl (by simp [Gate.resume, Gate.push, Gate.record]), rfl, rfl⟩

/-- An activation that goes on with nothing recorded, over some other ports. -/
theorem goes_on {t : Nat} {a : Activation} {s s' : Gate}
    (hstack : s'.stack = .processRequest a :: s.stack) (ht : a.submitted.ticket = t)
    (hlog : s'.log = s.log) (hsame : SameRequests s s') : Goes t s.stack s.log s' ∧ SameRequests s s' :=
  ⟨.on [] a [] (.inl rfl) ht (by simp) hstack (by simpa using hlog), hsame⟩

theorem dispatch_goes {t : Nat} {a : Activation} {d : Dispatch} {s s' : Gate}
    (hstack : s'.stack = .driver :: .processRequest a :: s.stack) (ht : a.submitted.ticket = t)
    (hlog : s'.log = s.log ++ [.dispatched d]) (hsame : SameRequests s s') :
    Goes t s.stack s.log s' ∧ SameRequests s s' :=
  ⟨.on [.driver] a [.dispatched d] (.inr rfl) ht (by simp [Event.Within]) hstack hlog, hsame⟩

theorem take_goes (a : Activation) (c : PS2Command) (r : Reading) (b : UInt8) {s s₀ : Gate}
    (hstack : s.stack = s₀.stack) (hlog : s.log = s₀.log) (hsame : SameRequests s₀ s) :
    Goes a.submitted.ticket s₀.stack s₀.log (a.take c r b s) ∧ SameRequests s₀ (a.take c r b s) := by
  simp only [Activation.take]
  split
  · exact goes_on (congrArg (List.cons _) hstack) rfl hlog ⟨hsame.1, hsame.2⟩
  · exact goes_on (congrArg (List.cons _) hstack) rfl hlog ⟨hsame.1, hsame.2⟩

theorem read_goes (a : Activation) (c : PS2Command) (r : Reading) (s : Gate) :
    Goes a.submitted.ticket s.stack s.log (a.read c r s) ∧ SameRequests s (a.read c r s) := by
  simp only [Activation.read]
  split
  · split
    · split
      · exact goes_on rfl rfl rfl ⟨rfl, rfl⟩
      · exact goes_on rfl rfl rfl ⟨rfl, rfl⟩
    · split
      · exact take_goes a c r _ rfl rfl ⟨rfl, rfl⟩
      · exact dispatch_goes rfl rfl rfl ⟨rfl, rfl⟩
  · split
    · exact take_goes a c r _ rfl rfl ⟨rfl, rfl⟩
    · exact goes_on rfl rfl rfl ⟨rfl, rfl⟩

/-- One step of `processRequest`. -/
theorem run_goes (mux : MuxMode) (a : Activation) (s : Gate) :
    Goes a.submitted.ticket s.stack s.log (a.run mux s) ∧ SameRequests s (a.run mux s) := by
  unfold Activation.run
  split
  · simp only [Activation.nextCommand]
    split
    · simpa [Gate.record] using finishRequest_goes a.submitted _ [] s (by simp)
    · have hwrites : ∀ (m : Mode) (c : PS2Command), ∀ e ∈ (commandPlan mux m c).writes.map
          (Event.access a.submitted.ticket), e.Within a.submitted.ticket := by
        intro m c e he
        obtain ⟨x, _, rfl⟩ := List.mem_map.mp he
        rfl
      split
      · exact resume_goes _ s (hwrites _ _) rfl
      · exact resume_goes _ s (hwrites _ _) rfl
      · exact resume_goes _ s (hwrites _ _) rfl
  · exact read_goes a _ _ s
  · exact dispatch_goes rfl rfl rfl ⟨rfl, rfl⟩
  · simp only [Activation.returnByte]
    split
    · exact resume_goes [_] s (by simp [Event.Within]) rfl
    · split
      · exact resume_goes [_] s (by simp [Event.Within]) rfl
      · exact finishRequest_goes a.submitted _ [_] s (by simp [Event.Within])

/-- Every step of the innermost activation is one of the moves. -/
theorem run_moves {mux : MuxMode} {s s' : Gate} {l : Action} (h : Gate.Ran mux s s') : Move s l s' := by
  cases h with
  | drained rest hstack =>
    simp only [Gate.drain]
    split
    · exact .drains _ rest hstack rfl rfl ⟨rfl, rfl⟩
    · exact .drains _ rest hstack rfl rfl ⟨rfl, rfl⟩
    · exact .leaves .interruptOccurred rest (.inr (.inl rfl)) hstack rfl rfl ⟨rfl, rfl⟩
  | queueDone rest hstack => exact .leaves _ rest (.inr (.inr rfl)) hstack rfl rfl ⟨rfl, rfl⟩
  | queueNext r l rest hstack =>
    obtain ⟨hgoes, hsame⟩ := startRequest_goes r { s with stack := .processRequestQueue l :: rest }
    exact .starts _ rest r _ (.inl ⟨l, rfl, rfl⟩) hstack hgoes ⟨hsame.1, hsame.2⟩
  | blockNext r rest hstack =>
    obtain ⟨hgoes, hsame⟩ := startRequest_goes r { s with stack := rest }
    exact .starts _ rest r _ (.inr ⟨rfl, rfl⟩) hstack hgoes ⟨hsame.1, hsame.2⟩
  | processed a rest hstack =>
    obtain ⟨hgoes, hsame⟩ := run_goes mux a { s with stack := rest }
    exact .processes a rest hstack hgoes ⟨hsame.1, hsame.2⟩

/-- Every step of the gate is one of the moves. -/
theorem step_moves {mux : MuxMode} {s s' : Gate} {l : Action} (h : s.step mux l = some s') :
    Move s l s' := by
  have hquiet : ∀ s'' : Gate, s''.stack = s.stack → s''.log = s.log → SameRequests s s'' → Move s l s'' := by
    intro s'' hstack hlog hsame
    exact .stays [] (by simp) hstack (by rw [hlog, List.append_nil]) hsame
  cases Gate.step_cases h with
  | arrive stream b =>
    simp only [Gate.arrive]
    split
    · exact .stays [.produced b] (by simp) rfl rfl ⟨rfl, rfl⟩
    · exact hquiet _ rfl rfl ⟨rfl, rfl⟩
  | enqueued b port _ _ => exact hquiet _ rfl rfl ⟨rfl, rfl⟩
  | woken => exact hquiet _ rfl rfl ⟨rfl, rfl⟩
  | submitted r => exact .submits r rfl rfl
  | blocked r _ => exact .blocks r rfl rfl
  | offline => exact hquiet _ rfl rfl ⟨rfl, rfl⟩
  | interrupted hstack => exact .enters .interruptOccurred (.inr rfl) hstack rfl rfl ⟨rfl, rfl⟩
  | tookQueue hstack => exact .takesQueue hstack rfl
  | setOffline b => exact hquiet _ rfl rfl ⟨rfl, rfl⟩
  | called hstack => exact .enters .driver (.inl rfl) hstack rfl rfl ⟨rfl, rfl⟩
  | returned rest hstack => exact .leaves .driver rest (.inl rfl) hstack rfl rfl ⟨rfl, rfl⟩
  | ran hran => exact run_moves hran

end ApplePS2
