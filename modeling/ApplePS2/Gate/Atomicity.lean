import Mathlib.Data.List.Induction
import ApplePS2.Gate.Moves

/- Atomicity of requests.

   A request is open from its start to its finish. `Atomic` says that no port
   access is made for a request while another one is open. `atomic_of_run`: it
   holds in every run in which no synchronous request is submitted from inside a
   request's processing, that is, by an interrupt action that is called during one
   of its reads. `atomic_fails` is a run in which that happens. -/
namespace ApplePS2

/-- Request `t` was started and has not finished. -/
def OpenIn (t : Nat) (log : List Event) : Prop :=
  ∃ pre post, log = pre ++ .started t :: post ∧ ∀ n, .finished t n ∉ post

/-- At every port access made for a request no other request is open. -/
def Atomic (log : List Event) : Prop :=
  ∀ pre t x post, log = pre ++ .access t x :: post → ∀ u, OpenIn u pre → u = t

def Frame.isProcessing : Frame → Bool
  | .processRequest _ => true
  | .interruptOccurred => false
  | .processRequestQueue _ => false
  | .submitRequestAndBlockGated _ => false
  | .driver => false

/-- A synchronous request is not submitted while another request is being
processed. -/
def submitsOutside (s : Gate) : Action → Bool
  | .submitRequestAndBlock _ => s.stack.all (fun f => !f.isProcessing)
  | _ => true

/-! The log. -/

theorem openIn_concat {u : Nat} {log : List Event} {e : Event} (h : OpenIn u (log ++ [e])) :
    e = .started u ∨ (OpenIn u log ∧ ∀ n, e ≠ .finished u n) := by
  obtain ⟨pre, post, heq, hpost⟩ := h
  rcases List.eq_nil_or_concat post with rfl | ⟨post', e', rfl⟩
  · exact .inl (by simpa using (List.append_inj' heq rfl).2)
  · rw [List.concat_eq_append, ← List.cons_append, ← List.append_assoc] at heq
    obtain ⟨hlog, he⟩ := List.append_inj' heq rfl
    obtain rfl : e = e' := by simpa using he
    refine .inr ⟨⟨pre, post', hlog, fun n hn => hpost n (by simp [hn])⟩, fun n hn => hpost n ?_⟩
    simp [hn]

theorem openIn_append {u : Nat} {log es : List Event} (hes : ∀ t, .started t ∉ es)
    (h : OpenIn u (log ++ es)) : OpenIn u log := by
  induction es using List.reverseRecOn with
  | nil => simpa using h
  | append_singleton es e ih =>
    rw [← List.append_assoc] at h
    rcases openIn_concat h with rfl | ⟨h, _⟩
    · exact absurd (List.mem_append_right es (List.mem_singleton_self _)) (hes u)
    · exact ih (fun t ht => hes t (List.mem_append_left _ ht)) h

theorem atomic_concat {log : List Event} {e : Event} (h : Atomic log)
    (he : ∀ t x, e = .access t x → ∀ u, OpenIn u log → u = t) : Atomic (log ++ [e]) := by
  intro pre t x post heq u hu
  rcases List.eq_nil_or_concat post with rfl | ⟨post', e', rfl⟩
  · obtain ⟨rfl, hx⟩ := List.append_inj' heq rfl
    exact he t x (by simpa using hx) u hu
  · rw [List.concat_eq_append, ← List.cons_append, ← List.append_assoc] at heq
    exact h pre t x post' (List.append_inj' heq rfl).1 u hu

theorem atomic_append {log es : List Event} (h : Atomic log) (hes : ∀ t, .started t ∉ es)
    (honly : ∀ t x, .access t x ∈ es → ∀ u, OpenIn u log → u = t) : Atomic (log ++ es) := by
  induction es using List.reverseRecOn with
  | nil => simpa using h
  | append_singleton es e ih =>
    have hes' : ∀ t, .started t ∉ es := fun t ht => hes t (List.mem_append_left _ ht)
    rw [← List.append_assoc]
    refine atomic_concat (ih hes' fun t x hx => honly t x (List.mem_append_left _ hx)) ?_
    rintro t x rfl u hu
    exact honly t x (List.mem_append_right es (List.mem_singleton_self _)) u (openIn_append hes' hu)

theorem started_not_within {t : Nat} {es : List Event} (hes : ∀ e ∈ es, e.Within t) (u : Nat) :
    .started u ∉ es := fun hu => hes _ hu

theorem access_within {t u : Nat} {x : PortAccess} {es : List Event} (hes : ∀ e ∈ es, e.Within t)
    (hu : .access u x ∈ es) : u = t := hes _ hu

theorem not_mem_produced {es : List Event} (hes : ∀ e ∈ es, ∃ b, e = .produced b) {e : Event}
    (he : ∀ b, e ≠ .produced b) : e ∉ es := by
  intro hmem
  obtain ⟨b, hb⟩ := hes e hmem
  exact he b hb

/-! The stack. -/

/-- Only driver code runs on top of a request that is being processed. -/
def Nested (stack : List Frame) : Prop :=
  stack.Pairwise (fun above below => below.isProcessing = true → above = .driver)

theorem nested_push {stack : List Frame} {f : Frame} (h : Nested stack)
    (hf : ∀ g ∈ stack, g.isProcessing = false) : Nested (f :: stack) :=
  List.pairwise_cons.mpr ⟨fun g hg hp => absurd hp (by simp [hf g hg]), h⟩

theorem nested_driver {stack : List Frame} (h : Nested stack) : Nested (.driver :: stack) :=
  List.pairwise_cons.mpr ⟨fun _ _ _ => rfl, h⟩

theorem nested_above {above stack : List Frame} (habove : Above above) (h : Nested stack) :
    Nested (above ++ stack) := by
  rcases habove with rfl | rfl
  · exact h
  · exact nested_driver h

/-- Below a frame that is not driver code nothing is being processed. -/
theorem Nested.below {f : Frame} {rest : List Frame} (h : Nested (f :: rest)) (hf : f ≠ .driver) :
    ∀ g ∈ rest, g.isProcessing = false := by
  intro g hg
  have := (List.pairwise_cons.mp h).1 g hg
  cases hp : g.isProcessing with
  | false => rfl
  | true => exact absurd (this hp) hf

theorem Nested.tail {f : Frame} {rest : List Frame} (h : Nested (f :: rest)) : Nested rest :=
  (List.pairwise_cons.mp h).2

/-! The invariant. -/

/-- Request `t` is being processed by one of the activations. -/
def Processing (t : Nat) (stack : List Frame) : Prop :=
  ∃ a, .processRequest a ∈ stack ∧ a.submitted.ticket = t

structure AtomicInv (s : Gate) : Prop where
  nested : Nested s.stack
  opened : ∀ u, OpenIn u s.log → Processing u s.stack
  atomic : Atomic s.log

theorem Processing.of_cons {u : Nat} {f : Frame} {rest : List Frame} (h : Processing u (f :: rest))
    (hf : f.isProcessing = false) : Processing u rest := by
  obtain ⟨a, ha, hu⟩ := h
  rcases List.mem_cons.mp ha with rfl | ha
  · cases hf
  · exact ⟨a, ha, hu⟩

theorem Processing.append {u : Nat} {stack : List Frame} (above : List Frame) (h : Processing u stack) :
    Processing u (above ++ stack) := by
  obtain ⟨a, ha, hu⟩ := h
  exact ⟨a, List.mem_append_right _ ha, hu⟩

theorem not_processing {u : Nat} {stack : List Frame} (h : ∀ g ∈ stack, g.isProcessing = false) :
    ¬ Processing u stack := by
  rintro ⟨a, ha, _⟩
  exact absurd (h _ ha) (by simp [Frame.isProcessing])

/-- The activation of `t` over frames that process nothing goes on or ends. -/
theorem atomicInv_goes {t : Nat} {base : List Frame} {log : List Event} {s' : Gate}
    (hgoes : Goes t base log s') (hbase : Nested base) (hidle : ∀ g ∈ base, g.isProcessing = false)
    (honly : ∀ u, OpenIn u log → u = t) (hatomic : Atomic log) : AtomicInv s' := by
  have happend : ∀ es : List Event, (∀ e ∈ es, e.Within t) → Atomic (log ++ es) := fun es hes =>
    atomic_append hatomic (started_not_within hes) fun u x hx v hv => (honly v hv).trans (access_within hes hx).symm
  cases hgoes with
  | on above a es habove hticket hes hstack hlog =>
    refine ⟨?_, ?_, ?_⟩
    · rw [hstack]
      exact nested_above habove (nested_push hbase hidle)
    · intro u hu
      rw [hlog] at hu
      rw [hstack]
      have hut := honly u (openIn_append (started_not_within hes) hu)
      exact Processing.append _ ⟨a, List.mem_cons_self, hticket.trans hut.symm⟩
    · rw [hlog]
      exact happend es hes
  | ends above n es habove hes hstack hlog =>
    refine ⟨?_, ?_, ?_⟩
    · rw [hstack]
      exact nested_above habove hbase
    · intro u hu
      rw [hlog] at hu
      rcases openIn_concat hu with he | ⟨hu, hne⟩
      · cases he
      · obtain rfl := honly u (openIn_append (started_not_within hes) hu)
        exact absurd rfl (hne n)
    · rw [hlog]
      exact atomic_concat (happend es hes) (by simp)

/-- A step that starts no request and accesses no port, and below which every
request goes on being processed. -/
theorem AtomicInv.idle {s s' : Gate} (h : AtomicInv s) (es : List Event) (hstart : ∀ t, .started t ∉ es)
    (haccess : ∀ t x, .access t x ∉ es) (hlog : s'.log = s.log ++ es) (hnested : Nested s'.stack)
    (hprocessing : ∀ u, Processing u s.stack → Processing u s'.stack) : AtomicInv s' := by
  constructor
  case nested => exact hnested
  case opened =>
    intro u hu
    rw [hlog] at hu
    apply hprocessing
    apply h.opened
    exact openIn_append hstart hu
  case atomic =>
    rw [hlog]
    apply atomic_append h.atomic hstart
    intro t x hx
    exact absurd hx (haccess t x)

/-- A step that only changes the stack. -/
theorem AtomicInv.sameLog {s s' : Gate} (h : AtomicInv s) (hlog : s'.log = s.log) (hnested : Nested s'.stack)
    (hprocessing : ∀ u, Processing u s.stack → Processing u s'.stack) : AtomicInv s' :=
  h.idle [] (by simp) (by simp) (by rw [hlog, List.append_nil]) hnested hprocessing

theorem atomicInv_step {mux : MuxMode} {s s' : Gate} {l : Action} (h : AtomicInv s)
    (hok : submitsOutside s l = true) (hs : s.step mux l = some s') : AtomicInv s' := by
  have hnested := h.nested
  cases step_moves hs with
  | stays es hes hstack hlog _ =>
    apply h.idle es _ _ hlog
    · rwa [hstack]
    · intro u hu
      rwa [hstack]
    · exact fun t => not_mem_produced hes (by simp)
    · exact fun t x => not_mem_produced hes (by simp)
  | submits r _ hs' =>
    subst hs'
    exact h.sameLog rfl hnested fun _ hu => hu
  | blocks r hl hs' =>
    subst hl hs'
    -- the condition: no request is being processed below the new one
    have hidle : ∀ g ∈ s.stack, g.isProcessing = false := by simpa [submitsOutside] using hok
    refine h.sameLog rfl ?_ ?_
    · apply nested_push (nested_push hnested hidle)
      intro g hg
      rcases List.mem_cons.mp hg with rfl | hg
      · rfl
      · exact hidle g hg
    · intro u hu
      exact hu.append [_, _]
  | takesQueue hstack hs' =>
    subst hs'
    refine h.sameLog rfl ?_ ?_
    · exact nested_push hnested (by simp [hstack])
    · intro u hu
      exact hu.append [_]
  | enters f _ hstack hstack' hlog _ =>
    apply h.sameLog hlog
    · rw [hstack']
      exact List.pairwise_singleton _ _
    · intro u hu
      exact absurd hu (not_processing (by simp [hstack]))
  | leaves f rest hf hstack hstack' hlog _ =>
    have hidle : f.isProcessing = false := by rcases hf with rfl | rfl | rfl <;> rfl
    rw [hstack] at hnested
    apply h.sameLog hlog
    · rw [hstack']
      exact hnested.tail
    · intro u hu
      rw [hstack] at hu
      rw [hstack']
      exact hu.of_cons hidle
  | drains d rest hstack hstack' hlog _ =>
    rw [hstack] at hnested
    apply h.idle _ _ _ hlog
    · rw [hstack']
      exact nested_driver hnested
    · intro u hu
      rw [hstack] at hu
      rw [hstack']
      exact hu.append [_]
    · simp
    · simp
  | starts f rest r base hf hstack hgoes _ =>
    obtain ⟨-, hopened, hatomic⟩ := h
    rw [hstack] at hnested hopened
    have hne : f ≠ .driver := by rcases hf with ⟨l, rfl, _⟩ | ⟨rfl, _⟩ <;> simp
    have hfidle : f.isProcessing = false := by rcases hf with ⟨l, rfl, _⟩ | ⟨rfl, _⟩ <;> rfl
    have hidle := hnested.below hne
    -- the frame of a queue stays below with what is left of it, that of a blocking request goes
    have hbase : Nested base ∧ ∀ g ∈ base, g.isProcessing = false := by
      rcases hf with ⟨l, _, rfl⟩ | ⟨_, rfl⟩
      · refine ⟨nested_push hnested.tail hidle, ?_⟩
        intro g hg
        rcases List.mem_cons.mp hg with rfl | hg
        · rfl
        · exact hidle g hg
      · exact ⟨hnested.tail, hidle⟩
    refine atomicInv_goes hgoes hbase.1 hbase.2 ?_ (atomic_concat hatomic (by simp))
    intro u hu
    rcases openIn_concat hu with he | ⟨hu, _⟩
    · simpa using he.symm
    · exact absurd ((hopened u hu).of_cons hfidle) (not_processing hidle)
  | processes a rest hstack hgoes _ =>
    obtain ⟨-, hopened, hatomic⟩ := h
    rw [hstack] at hnested hopened
    have hidle := hnested.below (by simp)
    refine atomicInv_goes hgoes hnested.tail hidle ?_ hatomic
    intro u hu
    -- an open request is processed on the stack, and only the top of it processes
    obtain ⟨b, hb, rfl⟩ := hopened u hu
    rcases List.mem_cons.mp hb with hb | hb
    · cases hb
      rfl
    · exact absurd (hidle _ hb) (by simp [Frame.isProcessing])

theorem atomicInv_init : AtomicInv .init := by
  refine ⟨List.Pairwise.nil, ?_, ?_⟩
  · intro u hu
    obtain ⟨pre, post, h, _⟩ := hu
    simp [Gate.init] at h
  · intro pre t x post h
    simp [Gate.init] at h

/-- In every run in which synchronous requests are submitted only while no other
request is being processed, the port accesses of two requests never interleave. -/
theorem atomic_of_run (mux : MuxMode) (s : Gate)
    (h : Transition.Reaches (Gate.step mux) (fun s l => submitsOutside s l = true) .init s) :
    Atomic s.log :=
  (h.invariant AtomicInv atomicInv_init fun _ _ _ => atomicInv_step).atomic

/-! Two runs of the same requests. -/

/-- Enables the device and reads its answer. -/
def enableAndRead : PS2Request :=
  ⟨[⟨.kPS2C_WriteDataPort, kDP_Enable⟩, ⟨.kPS2C_ReadDataPort, 0⟩], 2, false, false, by decide, by decide⟩

/-- What the touchpad driver submits when it reconnects, cut short. -/
def reconnect : PS2Request :=
  ⟨[⟨.kPS2C_WriteCommandPort, kCP_TransmitToMouse⟩, ⟨.kPS2C_WriteDataPort, kDP_Enable⟩], 2, false, false,
    by decide, by decide⟩

/-- Up to the read of the first request, which finds the mouse byte 0. -/
def toNestedAction : List Action :=
  [.submitRequest enableAndRead, .processRequestQueue, .run, .run, .run, .run, .arrive .kDT_Mouse 0, .run]

/-- The interrupt action returns, the first request is answered, and the second
one is submitted by driver code outside. -/
def oneByOne : List Action :=
  toNestedAction ++ [.driverReturns, .arrive .kDT_Keyboard kSC_Acknowledge, .run, .run, .run, .run, .run,
    .callDriver, .submitRequestAndBlock reconnect, .run, .run, .run]

theorem atomic_of_run_oneByOne : ∃ s : Gate, s.nextTicket = 2 ∧
    s.log.filter (fun e => match e with | .access _ _ => true | _ => false) =
      [.access 0 (.writeDataPort 0xF4), .access 0 (.readDataPort .kDT_Keyboard 0xFA),
        .access 1 (.writeCommandPort 0xD4)] ∧ Atomic s.log := by
  have hexec : ∃ s, Transition.exec (Gate.step .legacy) (fun s l => submitsOutside s l = true) .init
      oneByOne = some s ∧ s.nextTicket = 2 ∧
      s.log.filter (fun e => match e with | .access _ _ => true | _ => false) =
        [.access 0 (.writeDataPort 0xF4), .access 0 (.readDataPort .kDT_Keyboard 0xFA),
          .access 1 (.writeCommandPort 0xD4)] := ⟨_, rfl, rfl, rfl⟩
  obtain ⟨s, hs, ht, hlog⟩ := hexec
  exact ⟨s, ht, hlog, atomic_of_run .legacy s (.of_exec oneByOne hs)⟩

/-- The interrupt action submits its request at once: it is executed between the
write and the read of the first one. -/
theorem atomic_fails : ∃ s : Gate,
    Transition.Reaches (Gate.step .legacy) (fun _ _ => True) .init s ∧
    s.log = [.started 0, .access 0 (.writeDataPort 0xF4), .dispatched (.kDT_Mouse, 0), .started 1,
      .access 1 (.writeCommandPort 0xD4)] ∧ ¬ Atomic s.log := by
  have hexec : ∃ s, Transition.exec (Gate.step .legacy) (fun _ _ => True) .init
      (toNestedAction ++ [.submitRequestAndBlock reconnect, .run, .run, .run]) = some s ∧
      s.log = [.started 0, .access 0 (.writeDataPort 0xF4), .dispatched (.kDT_Mouse, 0), .started 1,
        .access 1 (.writeCommandPort 0xD4)] := ⟨_, rfl, rfl⟩
  obtain ⟨s, hs, hlog⟩ := hexec
  refine ⟨s, .of_exec _ hs, hlog, ?_⟩
  intro h
  rw [hlog] at h
  have := h [.started 0, .access 0 (.writeDataPort 0xF4), .dispatched (.kDT_Mouse, 0), .started 1] 1 _ []
    rfl 0 ⟨[], _, rfl, by simp⟩
  cases this

end ApplePS2
