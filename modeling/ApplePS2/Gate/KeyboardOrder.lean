import ApplePS2.Gate.Machine

/- The order of the keyboard bytes.

   A keyboard byte reaches the keyboard driver from the internal queue, straight
   from the port when a read of the mouse stream finds it there, or out of the
   bytes that an out-of-order read of the keyboard stream held. `inFlight` lists
   what was handed on, what reads hold (the outermost first), the internal queue
   and the port; a step that takes a byte from the front of a part and puts it at
   the end of the part before keeps the order.

   1. `run_bytes` says what a step of `processRequest` does to these parts.
   2. `keyboard_inOrder`: in every run in which a byte is not handed on past older
      ones, the driver receives the bytes in the order the hardware produced them.
   3. `keyboard_swaps`: a mouse read hands on a polled byte while an older one is
      in the internal queue. -/
namespace ApplePS2

/-- The keyboard bytes produced by the hardware. -/
def produced (log : List Event) : List UInt8 := log.filterMap fun | .produced b => some b | _ => none

/-- The keyboard bytes handed to the keyboard driver. -/
def handed (log : List Event) : List UInt8 :=
  log.filterMap fun | .dispatched (.kDT_Keyboard, b) => some b | _ => none

/-- The keyboard bytes that a read holds or has still to hand on. -/
def Phase.held : Phase → List UInt8
  | .command => []
  | .reading _ r => if r.deviceType = .kDT_Keyboard then r.held else []
  | .returning _ d _ out _ => if d = .kDT_Keyboard then out else []

def Frame.held : Frame → List UInt8
  | .processRequest a => a.phase.held
  | .interruptOccurred => []
  | .processRequestQueue _ => []
  | .submitRequestAndBlockGated _ => []
  | .driver => []

/-- The keyboard bytes held on the stack, those of the outermost read first. -/
def heldOn : List Frame → List UInt8
  | [] => []
  | f :: rest => heldOn rest ++ f.held

def Gate.inFlight (s : Gate) : List UInt8 :=
  handed s.log ++ (heldOn s.stack ++ (s.keyboardQueue ++ streamOf .kDT_Keyboard s.port))

/-- A keyboard byte is not handed on past older ones: when a mouse read is about to
hand on a byte from the port, the internal queue is empty and no read below holds
any; when a keyboard read is about to hand on bytes it held, none below does. -/
def keepsOrder (s : Gate) : Action → Bool
  | .run =>
    match s.stack with
    | .processRequest ⟨_, _, _, .reading _ r⟩ :: rest =>
      if r.locked && r.deviceType = .kDT_Mouse && s.port.head?.any (·.1 = .kDT_Keyboard) then
        s.keyboardQueue.isEmpty && (heldOn rest).isEmpty
      else true
    | .processRequest ⟨_, _, _, .returning _ .kDT_Keyboard _ (_ :: _) _⟩ :: rest => (heldOn rest).isEmpty
    | _ => true
  | _ => true

@[simp] theorem produced_append (log es : List Event) : produced (log ++ es) = produced log ++ produced es := by
  simp [produced]

@[simp] theorem handed_append (log es : List Event) : handed (log ++ es) = handed log ++ handed es := by
  simp [handed]

theorem produced_accesses (t : Nat) (xs : List PortAccess) : produced (xs.map (.access t)) = [] := by
  induction xs with
  | nil => rfl
  | cons x xs ih => exact ih

theorem handed_accesses (t : Nat) (xs : List PortAccess) : handed (xs.map (.access t)) = [] := by
  induction xs with
  | nil => rfl
  | cons x xs ih => exact ih

theorem heldOn_append (above rest : List Frame) : heldOn (above ++ rest) = heldOn rest ++ heldOn above := by
  induction above with
  | nil => simp [heldOn]
  | cons f above ih => simp [heldOn, ih]

/-! The lock. -/

/-- A read of the keyboard stream that holds the controller locked. -/
def Frame.locksKeyboard : Frame → Bool
  | .processRequest ⟨_, _, _, .reading _ r⟩ => r.locked && r.deviceType = .kDT_Keyboard
  | _ => false

/-- Only the innermost activation can hold the lock; a keyboard read took it with
the internal queue empty; and `interruptOccurred` is not called from inside. -/
structure LockInv (s : Gate) : Prop where
  queue : ∀ f ∈ s.stack, f.locksKeyboard = true → s.keyboardQueue = []
  below : ∀ f ∈ s.stack.tail, f.isLocked = false
  bottom : ∀ pre post, s.stack = pre ++ .interruptOccurred :: post → post = []

/-- The frames that replace an activation: none below the first locked, and none
that drains. -/
structure TopOk (top : List Frame) (queue : List UInt8) : Prop where
  queue : ∀ f ∈ top, f.locksKeyboard = true → queue = []
  below : ∀ f ∈ top.tail, f.isLocked = false
  bottom : ∀ f ∈ top, f ≠ .interruptOccurred

theorem locksKeyboard_isLocked {f : Frame} (h : f.isLocked = false) : f.locksKeyboard = false := by
  cases f with
  | processRequest a =>
    obtain ⟨_, _, _, phase⟩ := a
    cases phase with
    | reading c r =>
      have hl : r.locked = false := h
      simp [Frame.locksKeyboard, hl]
    | command => rfl
    | returning c d e out v => rfl
  | _ => rfl

theorem lockInv_top {s s' : Gate} {f : Frame} {rest top : List Frame} (h : LockInv s)
    (hstack : s.stack = f :: rest) (hstack' : s'.stack = top ++ rest) (htop : TopOk top s'.keyboardQueue) :
    LockInv s' := by
  have hrest : ∀ g ∈ rest, g.isLocked = false := by simpa [hstack] using h.below
  refine ⟨?_, ?_, ?_⟩
  · intro g hg hl
    rw [hstack'] at hg
    rcases List.mem_append.mp hg with hg | hg
    · exact htop.queue g hg hl
    · rw [locksKeyboard_isLocked (hrest g hg)] at hl
      cases hl
  · intro g hg
    rw [hstack'] at hg
    cases top with
    | nil => exact hrest g (List.mem_of_mem_tail hg)
    | cons t top =>
      rcases List.mem_append.mp hg with hg | hg
      · exact htop.below g hg
      · exact hrest g hg
  · intro pre post heq
    rw [hstack'] at heq
    rcases List.append_eq_append_iff.mp heq with ⟨as, rfl, hrest'⟩ | ⟨bs, rfl, _⟩
    · exact h.bottom (f :: as) post (by rw [hstack, hrest']; rfl)
    · cases bs with
      | nil =>
        rename_i hrest'
        exact h.bottom [f] post (by rw [hstack]; simpa using hrest'.symm)
      | cons b bs =>
        rename_i hrest'
        obtain ⟨rfl, _⟩ := List.cons.inj hrest'
        exact absurd rfl (htop.bottom .interruptOccurred (by simp))

/-! One step of `processRequest`. -/

/-- What becomes of the bytes `h` held by an activation that `top` replaces: some
are dropped, a byte is taken from the front of the rest, or the first byte of all
is handed on, which is in order if no read below holds any. -/
inductive ByteMove (h : List UInt8) (s s' : Gate) (top : List Frame) : Prop where
  | keeps (hheld : (heldOn top).Sublist h) (hhanded : handed s'.log = handed s.log)
      (hqueue : s'.keyboardQueue = s.keyboardQueue)
      (hport : streamOf .kDT_Keyboard s'.port = streamOf .kDT_Keyboard s.port)
  | takes (b : UInt8) (hheld : (heldOn top).Sublist (h ++ [b])) (hhanded : handed s'.log = handed s.log)
      (hfront : s.keyboardQueue ++ streamOf .kDT_Keyboard s.port =
        b :: (s'.keyboardQueue ++ streamOf .kDT_Keyboard s'.port))
  | hands (b : UInt8) (hrest : heldOn s.stack = []) (hhanded : handed s'.log = handed s.log ++ [b])
      (hfront : h ++ (s.keyboardQueue ++ streamOf .kDT_Keyboard s.port) =
        b :: (heldOn top ++ (s'.keyboardQueue ++ streamOf .kDT_Keyboard s'.port)))

/-- An activation holding `h`, over the stack of `s`, goes on as `top` does. -/
structure Replaced (h : List UInt8) (s s' : Gate) (top : List Frame) : Prop where
  stack : s'.stack = top ++ s.stack
  topOk : TopOk top s'.keyboardQueue
  produced : produced s'.log = produced s.log
  bytes : ByteMove h s s' top

theorem topOk_nil (queue : List UInt8) : TopOk [] queue := ⟨by simp, by simp, by simp⟩

theorem topOk_driver (queue : List UInt8) : TopOk [.driver] queue :=
  ⟨by simp [Frame.locksKeyboard], by simp, by simp⟩

theorem topOk_resume {a : Activation} {queue : List UInt8}
    (h : (Frame.processRequest a).locksKeyboard = true → queue = []) : TopOk [.processRequest a] queue :=
  ⟨by simpa using h, by simp, by simp⟩

theorem topOk_unlocked {a : Activation} (queue : List UInt8)
    (h : (Frame.processRequest a).isLocked = false) : TopOk [.processRequest a] queue :=
  topOk_resume (by simp [locksKeyboard_isLocked h])

theorem topOk_dispatch {a : Activation} (queue : List UInt8)
    (h : (Frame.processRequest a).isLocked = false) : TopOk [.driver, .processRequest a] queue := by
  have hdriver : Frame.driver.locksKeyboard = false := rfl
  exact ⟨by simp [hdriver, locksKeyboard_isLocked h], by simpa using h, by simp⟩

theorem takeRequested_more {e : Option UInt8} {held held' : List UInt8} {b : UInt8}
    (h : takeRequested e held b = .more held') : held' = held ++ [b] := by
  unfold takeRequested at h
  split at h
  · cases h
  · split at h
    · cases h
    · split at h
      · cases h
        rfl
      · cases h

theorem takeRequested_done {e : Option UInt8} {held out : List UInt8} {b v : UInt8}
    (h : takeRequested e held b = .done out v) : out.Sublist (held ++ [b]) := by
  unfold takeRequested at h
  split at h
  · cases h
    exact List.nil_sublist _
  · split at h
    · cases h
      exact List.sublist_append_left _ _
    · split at h
      · cases h
      · cases h
        exact List.sublist_append_right _ _

/-- What a byte of the requested stream leaves held. -/
theorem take_held (a : Activation) (c : PS2Command) (r : Reading) (b : UInt8) (s : Gate) :
    ∃ a' : Activation, a.take c r b s = s.resume a' ∧ (Frame.processRequest a').isLocked = false ∧
      a'.phase.held.Sublist (if r.deviceType = .kDT_Keyboard then r.held ++ [b] else []) := by
  simp only [Activation.take]
  split
  · next held h =>
    refine ⟨_, rfl, rfl, ?_⟩
    simp [Phase.held, takeRequested_more h]
  · next out v h =>
    refine ⟨_, rfl, rfl, ?_⟩
    by_cases hd : r.deviceType = .kDT_Keyboard
    · simpa [Phase.held, hd] using takeRequested_done h
    · simp [Phase.held, hd]

/-- Nothing happens to the bytes but that some held ones are dropped. -/
theorem replaced_quiet {h : List UInt8} {s s' : Gate} (top : List Frame) (hstack : s'.stack = top ++ s.stack)
    (htop : TopOk top s'.keyboardQueue) (hheld : (heldOn top).Sublist h)
    (hlog : produced s'.log = produced s.log ∧ handed s'.log = handed s.log)
    (hqueue : s'.keyboardQueue = s.keyboardQueue) (hport : s'.port = s.port) : ∃ top, Replaced h s s' top :=
  ⟨top, hstack, htop, hlog.1, .keeps hheld hlog.2 hqueue (by rw [hport])⟩

theorem finishRequest_bytes {h : List UInt8} (r : Submitted) (n : Nat) (es : List Event) (s : Gate)
    (hes : produced es = [] ∧ handed es = []) : ∃ top, Replaced h s ((s.record es).finishRequest r n) top := by
  have hlog : produced (s.log ++ es ++ [.finished r.ticket n]) = produced s.log ∧
      handed (s.log ++ es ++ [.finished r.ticket n]) = handed s.log := by
    simp [hes.1, hes.2]
    exact ⟨rfl, rfl⟩
  simp only [Gate.finishRequest]
  split
  · exact replaced_quiet [.driver] rfl (topOk_driver _) (List.nil_sublist _) hlog rfl rfl
  · exact replaced_quiet [] rfl (topOk_nil _) (List.nil_sublist _) hlog rfl rfl

theorem resume_bytes {h : List UInt8} {a : Activation} (es : List Event) (s : Gate)
    (hes : produced es = [] ∧ handed es = []) (hheld : a.phase.held.Sublist h)
    (hlock : (Frame.processRequest a).locksKeyboard = true → s.keyboardQueue = []) :
    ∃ top, Replaced h s ((s.record es).resume a) top :=
  replaced_quiet [.processRequest a] rfl (topOk_resume hlock) (by simpa [heldOn, Frame.held] using hheld)
    (by simp [Gate.resume, Gate.push, Gate.record, hes.1, hes.2]) rfl rfl

theorem nextCommand_bytes (mux : MuxMode) (a : Activation) (h : a.phase = .command) (s : Gate) :
    ∃ top, Replaced a.phase.held s (a.nextCommand mux s) top := by
  have hwrites : ∀ xs : List PortAccess, produced (xs.map (Event.access a.submitted.ticket)) = [] ∧
      handed (xs.map (Event.access a.submitted.ticket)) = [] :=
    fun xs => ⟨produced_accesses _ xs, handed_accesses _ xs⟩
  simp only [Activation.nextCommand]
  split
  · simpa [Gate.record] using finishRequest_bytes a.submitted _ [] s ⟨rfl, rfl⟩
  · split
    · exact resume_bytes _ s (hwrites _) (by simp [h, Phase.held]) (by simp [Frame.locksKeyboard, h])
    · exact resume_bytes _ s (hwrites _) (by simp [Phase.held]) (by simp [Frame.locksKeyboard])
    · exact resume_bytes _ s (hwrites _) (by simp [Phase.held]) (by simp [Frame.locksKeyboard])

theorem returnByte_bytes (a : Activation) (c : PS2Command) (d : PS2DeviceType) (expected : Option UInt8)
    (v : UInt8) (s : Gate) : ∃ top, Replaced a.phase.held s (a.returnByte c d expected v s) top := by
  simp only [Activation.returnByte]
  split
  · exact resume_bytes [_] s ⟨rfl, rfl⟩ (List.nil_sublist _) (by simp [Frame.locksKeyboard])
  · split
    · exact resume_bytes [_] s ⟨rfl, rfl⟩ (List.nil_sublist _) (by simp [Frame.locksKeyboard])
    · exact finishRequest_bytes a.submitted _ [_] s ⟨rfl, rfl⟩

/-- A byte of the requested stream, taken from the front of the queue or the port. -/
theorem take_bytes (a : Activation) {c : PS2Command} {r : Reading} (h : a.phase = .reading c r) (b : UInt8)
    {s s₀ : Gate} (hstack : s.stack = s₀.stack) (hlog : s.log = s₀.log)
    (hkeyboard : r.deviceType = .kDT_Keyboard →
      s₀.keyboardQueue ++ streamOf .kDT_Keyboard s₀.port =
        b :: (s.keyboardQueue ++ streamOf .kDT_Keyboard s.port))
    (hmouse : r.deviceType ≠ .kDT_Keyboard →
      s.keyboardQueue = s₀.keyboardQueue ∧ streamOf .kDT_Keyboard s.port = streamOf .kDT_Keyboard s₀.port) :
    ∃ top, Replaced a.phase.held s₀ (a.take c r b s) top := by
  obtain ⟨a', htake, hunlocked, hheld⟩ := take_held a c r b s
  rw [htake, h]
  refine ⟨[.processRequest a'], ?_, topOk_unlocked _ hunlocked, ?_, ?_⟩
  · rw [← hstack]
    rfl
  · rw [← hlog]
    rfl
  · by_cases hd : r.deviceType = .kDT_Keyboard
    · refine .takes b ?_ (congrArg handed hlog) (hkeyboard hd)
      simpa [hd, Phase.held, heldOn, Frame.held] using hheld
    · obtain ⟨hqueue, hport⟩ := hmouse hd
      refine .keeps ?_ (congrArg handed hlog) hqueue hport
      simpa [hd, Phase.held, heldOn, Frame.held] using hheld

theorem keepsOrder_polled {a : Activation} {c : PS2Command} {r : Reading} (h : a.phase = .reading c r)
    {s : Gate} (hok : keepsOrder (s.resume a) .run = true) (hlocked : r.locked = true)
    (hd : r.deviceType = .kDT_Mouse) {b : UInt8} {port : List Dispatch}
    (hport : s.port = (.kDT_Keyboard, b) :: port) : s.keyboardQueue = [] ∧ heldOn s.stack = [] := by
  obtain ⟨sub, proc, m, ph⟩ := a
  obtain rfl : ph = .reading c r := h
  simpa [keepsOrder, Gate.resume, Gate.push, hlocked, hd, hport] using hok

theorem keepsOrder_held {a : Activation} {c : PS2Command} {e : Option UInt8} {b v : UInt8}
    {out : List UInt8} (h : a.phase = .returning c .kDT_Keyboard e (b :: out) v) {s : Gate}
    (hok : keepsOrder (s.resume a) .run = true) : heldOn s.stack = [] := by
  obtain ⟨sub, proc, m, ph⟩ := a
  obtain rfl : ph = .returning c .kDT_Keyboard e (b :: out) v := h
  simpa [keepsOrder, Gate.resume, Gate.push] using hok

/-- A byte of the other stream, polled and handed on at once. -/
theorem polled_bytes (a : Activation) {c : PS2Command} {r : Reading} (h : a.phase = .reading c r) (s : Gate)
    (hok : keepsOrder (s.resume a) .run = true) (hlocked : r.locked = true) {stream : PS2DeviceType} {b : UInt8}
    {port : List Dispatch} (hport : s.port = (stream, b) :: port) (hstream : stream ≠ r.deviceType) :
    ∃ top, Replaced a.phase.held s ((({ s with port := port } : Gate).resume
      { a with phase := .reading c { r with locked := false } }).dispatchDriverInterrupt
        (r.deviceType.other, b)) top := by
  refine ⟨[.driver, .processRequest _], rfl, topOk_dispatch _ rfl, ?_, ?_⟩
  · simp [Gate.dispatchDriverInterrupt, Gate.resume, Gate.push, Gate.record, produced]
  · cases hd : r.deviceType with
    | kDT_Keyboard =>
      rw [hd] at hstream
      apply ByteMove.keeps
      · simp [heldOn, Frame.held, Phase.held, h, hd]
      · simp [Gate.dispatchDriverInterrupt, Gate.resume, Gate.push, Gate.record, handed, PS2DeviceType.other]
      · rfl
      · simp [Gate.dispatchDriverInterrupt, Gate.resume, Gate.push, Gate.record, hport, streamOf_cons, hstream]
    | kDT_Mouse =>
      rw [hd] at hstream
      obtain rfl : stream = .kDT_Keyboard := PS2DeviceType.eq_other_of_ne hstream
      obtain ⟨hqueue, hrest⟩ := keepsOrder_polled h hok hlocked hd hport
      apply ByteMove.hands b hrest
      · simp [Gate.dispatchDriverInterrupt, Gate.resume, Gate.push, Gate.record, handed, PS2DeviceType.other]
      · simp [Gate.dispatchDriverInterrupt, Gate.resume, Gate.push, Gate.record, hport, hqueue,
          heldOn, Frame.held, Phase.held, h, hd, streamOf_cons]

theorem read_bytes (a : Activation) {c : PS2Command} {r : Reading} (h : a.phase = .reading c r) (s : Gate)
    (hlock : (Frame.processRequest a).locksKeyboard = true → s.keyboardQueue = [])
    (hok : keepsOrder (s.resume a) .run = true) :
    ∃ top, Replaced a.phase.held s (a.read c r s) top := by
  have hlock' : r.locked = true → r.deviceType = .kDT_Keyboard → s.keyboardQueue = [] := by
    intro hl hd
    refine hlock ?_
    obtain ⟨sub, proc, m, ph⟩ := a
    obtain rfl : ph = .reading c r := h
    simp [Frame.locksKeyboard, hl, hd]
  simp only [Activation.read]
  split
  · next hlocked =>
    split
    · split
      · -- the time-out drops what is held
        exact replaced_quiet [.processRequest _] rfl (topOk_unlocked _ rfl)
          (by simp [heldOn, Frame.held, Phase.held]) ⟨rfl, rfl⟩ rfl rfl
      · refine replaced_quiet [.processRequest _] rfl (topOk_resume fun hk => ?_)
          (by simp [heldOn, Frame.held, Phase.held, h]) ⟨rfl, rfl⟩ rfl rfl
        exact hlock' hlocked (by simpa [Frame.locksKeyboard, hlocked] using hk)
    · next stream b port hport =>
      split
      · next hstream =>
        refine take_bytes a h b rfl rfl ?_ ?_
        · intro hd
          simp [hport, hlock' hlocked hd, streamOf_cons, hstream, hd]
        · intro hd
          simp [hport, streamOf_cons, hstream, hd]
      · next hstream => exact polled_bytes a h s hok hlocked hport hstream
  · split
    · next b queue hd hqueue =>
      refine take_bytes a h b rfl rfl ?_ fun hd' => absurd hd hd'
      intro _
      simp [hqueue]
    · next hne =>
      refine replaced_quiet [.processRequest _] rfl (topOk_resume fun hk => ?_)
        (by simp [heldOn, Frame.held, Phase.held, h]) ⟨rfl, rfl⟩ rfl rfl
      have hd : r.deviceType = .kDT_Keyboard := by simpa [Frame.locksKeyboard] using hk
      cases hqueue : s.keyboardQueue with
      | nil => exact hqueue
      | cons b queue => exact (hne b queue hd hqueue).elim

/-- One step of `processRequest`. -/
theorem run_bytes (mux : MuxMode) (a : Activation) (s : Gate)
    (hlock : (Frame.processRequest a).locksKeyboard = true → s.keyboardQueue = [])
    (hok : keepsOrder (s.resume a) .run = true) :
    ∃ top, Replaced a.phase.held s (a.run mux s) top := by
  unfold Activation.run
  split
  · next h => exact nextCommand_bytes mux a h s
  · next c r h => exact read_bytes a h s hlock hok
  · next c d e b out v h =>
    refine ⟨[.driver, .processRequest _], rfl, topOk_dispatch _ rfl, ?_, ?_⟩
    · simp [Gate.dispatchDriverInterrupt, Gate.resume, Gate.push, Gate.record, produced]
    · cases d with
      | kDT_Keyboard =>
        refine .hands b (keepsOrder_held h hok) ?_ ?_
        · simp [Gate.dispatchDriverInterrupt, Gate.resume, Gate.push, Gate.record, handed]
        · simp [Gate.dispatchDriverInterrupt, Gate.resume, Gate.push, Gate.record, heldOn, Frame.held,
            Phase.held, h]
      | kDT_Mouse =>
        refine .keeps ?_ ?_ rfl rfl
        · simp [heldOn, Frame.held, Phase.held]
        · simp [Gate.dispatchDriverInterrupt, Gate.resume, Gate.push, Gate.record, handed]
  · exact returnByte_bytes a _ _ _ _ s

/-! Runs. -/

structure OrderInv (s : Gate) : Prop where
  lock : LockInv s
  order : s.inFlight.Sublist (produced s.log)

theorem orderInv_init : OrderInv .init :=
  ⟨⟨by simp [Gate.init], by simp [Gate.init], by simp [Gate.init]⟩, List.Sublist.refl _⟩

/-- Bytes moved as `ByteMove` allows stay in order. -/
theorem order_move {h : List UInt8} {s s' : Gate} {top : List Frame} {prod : List UInt8}
    (hmove : ByteMove h s s' top) (hstack : s'.stack = top ++ s.stack)
    (horder : (handed s.log ++ (heldOn s.stack ++ h ++
      (s.keyboardQueue ++ streamOf .kDT_Keyboard s.port))).Sublist prod) :
    s'.inFlight.Sublist prod := by
  refine List.Sublist.trans ?_ horder
  rw [Gate.inFlight, hstack, heldOn_append]
  cases hmove with
  | keeps hheld hhanded hqueue hport =>
    rw [hhanded, hqueue, hport]
    exact ((hheld.append_left _).append_right _).append_left _
  | takes b hheld hhanded hfront =>
    rw [hhanded, hfront]
    have hmid := ((hheld.append_left (heldOn s.stack)).append_right
      (s'.keyboardQueue ++ streamOf .kDT_Keyboard s'.port)).append_left (handed s.log)
    simpa using hmid
  | hands b hrest hhanded hfront =>
    rw [hhanded, hrest, List.nil_append, List.nil_append, hfront]
    simp

/-- A step of the innermost activation that holds nothing and moves no byte. -/
theorem orderInv_top {s s' : Gate} {f : Frame} {rest : List Frame} (top : List Frame) (h : OrderInv s)
    (hstack : s.stack = f :: rest) (hstack' : s'.stack = top ++ rest) (htop : TopOk top s'.keyboardQueue)
    (hheld : heldOn top = []) (hlog : produced s'.log = produced s.log ∧ handed s'.log = handed s.log)
    (hqueue : s'.keyboardQueue = s.keyboardQueue) (hport : s'.port = s.port) : OrderInv s' := by
  refine ⟨lockInv_top h.lock hstack hstack' htop, ?_⟩
  rw [hlog.1]
  refine List.Sublist.trans ?_ h.order
  rw [Gate.inFlight, Gate.inFlight, hlog.2, hqueue, hport, hstack, hstack', heldOn_append, hheld,
    List.append_nil]
  exact ((List.sublist_append_left _ _).append_right _).append_left _

/-- A frame on the empty stack. -/
theorem orderInv_enter {s s' : Gate} {f : Frame} (h : OrderInv s) (hstack : s.stack = [])
    (hstack' : s'.stack = [f]) (hlocked : f.isLocked = false) (hheld : f.held = [])
    (hlog : s'.log = s.log) (hqueue : s'.keyboardQueue = s.keyboardQueue) (hport : s'.port = s.port) :
    OrderInv s' := by
  refine ⟨⟨?_, ?_, ?_⟩, ?_⟩
  · simp [hstack', locksKeyboard_isLocked hlocked]
  · simp [hstack']
  · intro pre post heq
    rw [hstack'] at heq
    rcases List.singleton_eq_append_iff.mp heq with ⟨_, h⟩ | ⟨_, h⟩
    · exact (List.cons.inj h).2
    · cases h
  · have horder := h.order
    rw [Gate.inFlight, hstack] at horder
    rw [Gate.inFlight, hlog, hstack', hqueue, hport]
    simpa [heldOn, hheld] using horder

/-- Nothing that concerns the bytes. -/
theorem orderInv_same {s s' : Gate} (h : OrderInv s) (hstack : s'.stack = s.stack) (hlog : s'.log = s.log)
    (hqueue : s'.keyboardQueue = s.keyboardQueue) (hport : s'.port = s.port) : OrderInv s' := by
  obtain ⟨⟨h₁, h₂, h₃⟩, horder⟩ := h
  refine ⟨⟨?_, ?_, ?_⟩, ?_⟩
  · rwa [hstack, hqueue]
  · rwa [hstack]
  · rwa [hstack]
  · rw [Gate.inFlight] at horder ⊢
    rwa [hstack, hlog, hqueue, hport]

theorem orderInv_arrive {s : Gate} (h : OrderInv s) (stream : PS2DeviceType) (b : UInt8) :
    OrderInv (s.arrive stream b) := by
  have horder := h.order
  rw [Gate.inFlight] at horder
  cases stream with
  | kDT_Mouse =>
    refine ⟨⟨h.lock.queue, h.lock.below, h.lock.bottom⟩, ?_⟩
    simpa [Gate.arrive, Gate.inFlight, streamOf_cons] using horder
  | kDT_Keyboard =>
    refine ⟨⟨h.lock.queue, h.lock.below, h.lock.bottom⟩, ?_⟩
    have hb := horder.append_right [b]
    simpa [Gate.arrive, Gate.record, Gate.inFlight, streamOf_cons, handed, produced] using hb

/-- Nothing on the stack holds the lock. -/
theorem LockInv.unlocked {s : Gate} (h : LockInv s) (hlocked : s.locked = false) :
    ∀ f ∈ s.stack, f.isLocked = false := by
  intro f hf
  cases hstack : s.stack with
  | nil => simp [hstack] at hf
  | cons g rest =>
    rw [hstack] at hf
    rcases List.mem_cons.mp hf with rfl | hf
    · rw [Gate.locked, hstack] at hlocked
      exact hlocked
    · exact h.below f (by simpa [hstack] using hf)

theorem orderInv_interrupt {s : Gate} (h : OrderInv s) (hlocked : s.locked = false) {b : UInt8}
    {port : List Dispatch} (hport : s.port = (.kDT_Keyboard, b) :: port) :
    OrderInv { s with port := port, keyboardQueue := enqueueKeyboardData b s.keyboardQueue } := by
  refine ⟨⟨?_, h.lock.below, h.lock.bottom⟩, ?_⟩
  · intro f hf hl
    rw [locksKeyboard_isLocked (h.lock.unlocked hlocked f hf)] at hl
    cases hl
  · refine List.Sublist.trans ?_ h.order
    have henqueue : (enqueueKeyboardData b s.keyboardQueue).Sublist (s.keyboardQueue ++ [b]) := by
      rw [enqueueKeyboardData]
      split
      · exact List.Sublist.refl _
      · exact List.sublist_append_left _ _
    have hfront := ((henqueue.append_right (streamOf .kDT_Keyboard port)).append_left
      (heldOn s.stack)).append_left (handed s.log)
    simpa [Gate.inFlight, hport, streamOf_cons] using hfront

theorem orderInv_block {s : Gate} (h : OrderInv s) (henter : s.mayEnter = true) (r : PS2Request) :
    OrderInv (s.submitRequestAndBlock r) := by
  have hunlocked : ∀ f ∈ s.stack, f.isLocked = false := by
    refine h.lock.unlocked ?_
    rw [Gate.mayEnter] at henter
    rw [Gate.locked]
    cases hstack : s.stack with
    | nil => rfl
    | cons f rest =>
      obtain rfl : f = .driver := by simpa [hstack] using henter
      rfl
  refine ⟨⟨?_, ?_, ?_⟩, ?_⟩
  · intro f hf hl
    rcases List.mem_cons.mp hf with rfl | hf
    · cases hl
    rcases List.mem_cons.mp hf with rfl | hf
    · cases hl
    · rw [locksKeyboard_isLocked (hunlocked f hf)] at hl
      cases hl
  · intro f hf
    rcases List.mem_cons.mp hf with rfl | hf
    · rfl
    · exact hunlocked f hf
  · intro pre post heq
    rcases pre with _ | ⟨_, _ | ⟨_, pre⟩⟩
    · cases heq
    · cases heq
    · exact h.lock.bottom pre post (List.cons.inj (List.cons.inj heq).2).2
  · simpa [Gate.submitRequestAndBlock, Gate.processRequestQueue, Gate.push, Gate.inFlight, heldOn,
      Frame.held] using h.order

theorem topOk_append {top : List Frame} {queue : List UInt8} {f : Frame} (h : TopOk top queue)
    (hlocked : f.isLocked = false) (hdrain : f ≠ .interruptOccurred) : TopOk (top ++ [f]) queue := by
  refine ⟨?_, ?_, ?_⟩
  · intro g hg hl
    rcases List.mem_append.mp hg with hg | hg
    · exact h.queue g hg hl
    · rw [List.mem_singleton.mp hg, locksKeyboard_isLocked hlocked] at hl
      cases hl
  · intro g hg
    cases top with
    | nil => simp at hg
    | cons t top =>
      rcases List.mem_append.mp hg with hg | hg
      · exact h.below g hg
      · rw [List.mem_singleton.mp hg]
        exact hlocked
  · intro g hg
    rcases List.mem_append.mp hg with hg | hg
    · exact h.bottom g hg
    · rw [List.mem_singleton.mp hg]
      exact hdrain

/-- The start of a request moves no byte. -/
theorem startRequest_bytes (r : Submitted) (s : Gate) : ∃ top, (s.startRequest r).stack = top ++ s.stack ∧
    TopOk top s.keyboardQueue ∧ heldOn top = [] ∧
    (produced (s.startRequest r).log = produced s.log ∧ handed (s.startRequest r).log = handed s.log) ∧
    (s.startRequest r).keyboardQueue = s.keyboardQueue ∧ (s.startRequest r).port = s.port := by
  simp only [Gate.startRequest]
  split
  · simp only [Gate.finishRequest]
    split
    · exact ⟨[.driver], rfl, topOk_driver _, rfl, by simp [Gate.push, Gate.record, produced, handed], rfl, rfl⟩
    · exact ⟨[], rfl, topOk_nil _, rfl, by simp [Gate.record, produced, handed], rfl, rfl⟩
  · exact ⟨[.processRequest _], rfl, topOk_unlocked _ rfl, rfl,
      by simp [Gate.resume, Gate.push, Gate.record, produced, handed], rfl, rfl⟩

/-- The loop of `interruptOccurred`, which has nothing below it. -/
theorem orderInv_drain {s : Gate} (h : OrderInv s) {rest : List Frame}
    (hstack : s.stack = .interruptOccurred :: rest) : OrderInv { s with stack := rest }.drain := by
  obtain rfl : rest = [] := h.lock.bottom [] rest hstack
  have hlock : ∀ (s' : Gate), s'.stack = [.driver, .interruptOccurred] → LockInv s' := by
    intro s' hs'
    refine ⟨?_, ?_, ?_⟩
    · simp [hs', Frame.locksKeyboard]
    · simp [hs', Frame.isLocked]
    · intro pre post heq
      rw [hs'] at heq
      rcases pre with _ | ⟨_, _ | ⟨_, pre⟩⟩
      · cases heq
      · exact (List.cons.inj (List.cons.inj heq).2).2.symm
      · have := congrArg List.length heq
        simp at this
  have horder := h.order
  rw [Gate.inFlight, hstack] at horder
  simp only [Gate.drain]
  split
  · next b queue hqueue =>
    refine ⟨hlock _ rfl, ?_⟩
    simpa [Gate.dispatchDriverInterrupt, Gate.push, Gate.record, Gate.inFlight, heldOn, Frame.held, handed,
      produced, hqueue] using horder
  · next b port hqueue hport =>
    refine ⟨hlock _ rfl, ?_⟩
    simpa [Gate.dispatchDriverInterrupt, Gate.push, Gate.record, Gate.inFlight, heldOn, Frame.held, handed,
      produced, hqueue, hport, streamOf_cons] using horder
  · exact orderInv_top [] h hstack rfl (topOk_nil _) rfl ⟨rfl, rfl⟩ rfl rfl

theorem orderInv_run {mux : MuxMode} {s s' : Gate} (h : OrderInv s) (hok : keepsOrder s .run = true)
    (hs : Gate.Ran mux s s') : OrderInv s' := by
  cases hs with
  | drained rest hstack => exact orderInv_drain h hstack
  | queueDone rest hstack => exact orderInv_top [] h hstack rfl (topOk_nil _) rfl ⟨rfl, rfl⟩ rfl rfl
  | queueNext r l rest hstack =>
    obtain ⟨top, htop, hok', hheld, hlog, hqueue, hport⟩ :=
      startRequest_bytes r { s with stack := .processRequestQueue l :: rest }
    refine orderInv_top (top ++ [.processRequestQueue l]) h hstack (by simpa using htop) ?_ ?_ hlog
      hqueue hport
    · rw [hqueue]
      exact topOk_append hok' rfl (by simp)
    · rw [heldOn_append, hheld]
      rfl
  | blockNext r rest hstack =>
    obtain ⟨top, htop, hok', hheld, hlog, hqueue, hport⟩ := startRequest_bytes r { s with stack := rest }
    exact orderInv_top _ h hstack htop (by rw [hqueue]; exact hok') hheld hlog hqueue hport
  | processed a rest hstack =>
    have hs' : ({ s with stack := rest } : Gate).resume a = s := by
      simp [Gate.resume, Gate.push, ← hstack]
    obtain ⟨top, htop, hok', hproduced, hmove⟩ := run_bytes mux a { s with stack := rest }
      (h.lock.queue _ (by simp [hstack])) (hs' ▸ hok)
    refine ⟨lockInv_top h.lock hstack htop hok', ?_⟩
    rw [hproduced]
    apply order_move hmove htop
    have horder := h.order
    rw [Gate.inFlight, hstack] at horder
    exact horder

theorem orderInv_step {mux : MuxMode} {s s' : Gate} {l : Action} (h : OrderInv s)
    (hok : keepsOrder s l = true) (hs : s.step mux l = some s') : OrderInv s' := by
  cases Gate.step_cases hs with
  | arrive stream b => exact orderInv_arrive h stream b
  | enqueued b port hlocked hport => exact orderInv_interrupt h hlocked hport
  | woken => exact h
  | submitted r => exact orderInv_same h rfl rfl rfl rfl
  | blocked r henter => exact orderInv_block h henter r
  | offline => exact h
  | interrupted hstack => exact orderInv_enter h hstack rfl rfl rfl rfl rfl rfl
  | tookQueue hstack =>
    have hstack' : s.processRequestQueue.stack = [.processRequestQueue s.requestQueue] := by
      simp [Gate.processRequestQueue, Gate.push, hstack]
    exact orderInv_enter h hstack hstack' rfl rfl rfl rfl rfl
  | setOffline b => exact orderInv_same h rfl rfl rfl rfl
  | called hstack => exact orderInv_enter h hstack rfl rfl rfl rfl rfl rfl
  | returned rest hstack => exact orderInv_top [] h hstack rfl (topOk_nil _) rfl ⟨rfl, rfl⟩ rfl rfl
  | ran hran => exact orderInv_run h hok hran

/-- In every run in which no keyboard byte is handed on past older ones, the
keyboard driver is handed bytes in the order in which the hardware produced them. -/
theorem keyboard_inOrder (mux : MuxMode) (s : Gate)
    (h : Transition.Reaches (Gate.step mux) (fun s l => keepsOrder s l = true) .init s) :
    (handed s.log).Sublist (produced s.log) :=
  (List.sublist_append_left _ _).trans
    (h.invariant OrderInv orderInv_init fun _ _ _ => orderInv_step).order

/-! Two runs with the same bytes. -/

/-- A read of the mouse stream. -/
def readMouse : PS2Request := ⟨[⟨.kPS2C_ReadMouseDataPort, 0⟩], 1, false, false, by decide, by decide⟩

/-- An extended key, its prefix in the internal queue and its code at the port. -/
def prefixQueued : List Action :=
  [.submitRequest readMouse, .arrive .kDT_Keyboard kSC_Extend, .interruptHandlerKeyboard,
    .arrive .kDT_Keyboard 0x1C]

/-- The work loop drains the queue before the mouse read starts. -/
def drainedFirst : List Action :=
  prefixQueued ++ [.interruptOccurred, .run, .driverReturns, .run, .processRequestQueue, .run, .run, .run, .run]

theorem keyboard_inOrder_drained : ∃ s : Gate, handed s.log = [0xE0, 0x1C] ∧
    (handed s.log).Sublist (produced s.log) := by
  have hexec : ∃ s, Transition.exec (Gate.step .legacy) (fun s l => keepsOrder s l = true) .init drainedFirst =
      some s ∧ handed s.log = [0xE0, 0x1C] := ⟨_, rfl, rfl⟩
  obtain ⟨s, hs, hhanded⟩ := hexec
  exact ⟨s, hhanded, keyboard_inOrder .legacy s (.of_exec drainedFirst hs)⟩

/-- The mouse read starts first: the code of the key overtakes its prefix. -/
theorem keyboard_swaps : ∃ s : Gate,
    Transition.Reaches (Gate.step .legacy) (fun _ _ => True) .init s ∧
    produced s.log = [0xE0, 0x1C] ∧ handed s.log = [0x1C, 0xE0] ∧
    ¬ (handed s.log).Sublist (produced s.log) := by
  have hexec : ∃ s, Transition.exec (Gate.step .legacy) (fun _ _ => True) .init
      (prefixQueued ++ [.processRequestQueue, .run, .run, .run, .run, .driverReturns, .arrive .kDT_Mouse 0xFA,
        .run, .run, .run, .run, .run, .interruptOccurred, .run]) = some s ∧
      produced s.log = [0xE0, 0x1C] ∧ handed s.log = [0x1C, 0xE0] := ⟨_, rfl, rfl, rfl⟩
  obtain ⟨s, hs, hproduced, hhanded⟩ := hexec
  refine ⟨s, .of_exec _ hs, hproduced, hhanded, ?_⟩
  rw [hproduced, hhanded]
  decide

end ApplePS2
