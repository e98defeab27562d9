import Mathlib.Data.List.Induction
import ApplePS2.Controller.Request

/- The composite mouse command against the three commands that the comment in
   `processRequest` calls equivalent to it:

     kPS2C_WriteCommandPort(p), kPS2C_WriteDataPort(c),
     kPS2C_ReadDataPortAndCompare(kSC_Acknowledge).

   The composite command reads the mouse stream whatever was sent before and
   leaves `transmitToMouse` alone. The three commands read the mouse stream only
   if `transmitToMouse` was set, and clear it; a route prefix does not set it. -/
namespace ApplePS2

/-- The three commands that stand for the composite one. -/
def MuxMode.threeSteps (mux : MuxMode) (c : UInt8) : List PS2Command :=
  [⟨.kPS2C_WriteCommandPort, mux.mousePrefix⟩, ⟨.kPS2C_WriteDataPort, c⟩,
    ⟨.kPS2C_ReadDataPortAndCompare, kSC_Acknowledge⟩]

def composite (c : UInt8) : PS2Command := ⟨.kPS2C_SendMouseCommandAndCompareAck, c⟩

def PortAccess.isWrite : PortAccess → Bool
  | .readDataPort _ _ => false
  | .writeCommandPort _ => true
  | .writeDataPort _ => true

def PortAccess.readStream : PortAccess → Option PS2DeviceType
  | .readDataPort d _ => some d
  | .writeCommandPort _ => none
  | .writeDataPort _ => none

/-- What can be seen of a run from outside. -/
structure Observed where
  writes : List PortAccess
  readStreams : List PS2DeviceType
  dispatched : List Dispatch
  succeeded : Bool
  deriving DecidableEq, Repr

def RequestRun.observe (r : RequestRun) : Observed :=
  { writes := r.executed.flatten.filter PortAccess.isWrite
    readStreams := r.executed.flatten.filterMap PortAccess.readStream
    dispatched := r.dispatched
    succeeded := r.failedAt.isNone }

/-- One observation, then another. -/
def Observed.seq (a b : Observed) : Observed :=
  { writes := a.writes ++ b.writes
    readStreams := a.readStreams ++ b.readStreams
    dispatched := a.dispatched ++ b.dispatched
    succeeded := b.succeeded }

theorem observe_cons (x : Executed) (r : RequestRun) :
    (r.cons x).observe = (Observed.mk (x.accesses.filter PortAccess.isWrite)
      (x.accesses.filterMap PortAccess.readStream) x.dispatched true).seq r.observe := by
  simp [RequestRun.observe, RequestRun.cons, Observed.seq]

theorem observe_seq_assoc (a b c : Observed) : (a.seq b).seq c = a.seq (b.seq c) := by
  simp [Observed.seq]

/-- A run that fails is not affected by what would come after it. -/
theorem runCommands_append_failed (mux : MuxMode) (bs as : List PS2Command) (m : Mode) (p : Ports)
    (h : (runCommands mux m as p).failedAt.isSome = true) :
    (runCommands mux m (as ++ bs) p).observe = (runCommands mux m as p).observe := by
  induction as generalizing m p with
  | nil => simp [runCommands] at h
  | cons c as ih =>
    simp only [runCommands, List.cons_append] at h ⊢
    split at h
    · next hf => simp [hf, RequestRun.observe]
    · next hf =>
      simp only [hf, if_false, observe_cons, Bool.false_eq_true]
      rw [ih]
      simpa [RequestRun.cons] using h

/-- A run that passes hands its mode and ports on. -/
theorem runCommands_append_passed (mux : MuxMode) (bs as : List PS2Command) (m : Mode) (p : Ports)
    (h : (runCommands mux m as p).failedAt = none) :
    (runCommands mux m (as ++ bs) p).observe = (runCommands mux m as p).observe.seq
      (runCommands mux (modeAfter mux m as) bs (runCommands mux m as p).ports).observe := by
  induction as generalizing m p with
  | nil => simp [runCommands, modeAfter, Observed.seq, RequestRun.observe]
  | cons c as ih =>
    simp only [runCommands, List.cons_append] at h ⊢
    split at h
    · simp at h
    · next hf =>
      have hrest := ih (commandPlan mux m c).mode ((commandPlan mux m c).perform c p).ports
        (by simpa [RequestRun.cons] using h)
      simp only [hf, if_false, observe_cons, Bool.false_eq_true]
      rw [hrest, observe_seq_assoc]
      rfl

/-! Scripts that make a run pass. -/

theorem readDataPort_first (d : PS2DeviceType) (b : UInt8) (rest : List Poll) :
    readDataPort d ⟨.byte d b :: rest, []⟩ = ⟨b, ⟨rest, []⟩, []⟩ := by
  cases d <;> simp [readDataPort, readLoop, queueLoop, pollLoop, takeRequested]

theorem readDataPortExpecting_first (d : PS2DeviceType) (e : UInt8) (rest : List Poll) :
    readDataPortExpecting d e ⟨.byte d e :: rest, []⟩ = ⟨e, ⟨rest, []⟩, []⟩ := by
  cases d <;> simp [readDataPortExpecting, readLoop, queueLoop, pollLoop, takeRequested]

/-- The answer that lets a command pass. -/
def passingPolls : CommandRead → List Poll
  | .none => []
  | .store d => [.byte d 0]
  | .compare d e => [.byte d e]

theorem perform_passes (plan : CommandPlan) (c : PS2Command) (rest : List Poll) :
    (plan.perform c ⟨passingPolls plan.read ++ rest, []⟩).failed = false ∧
    (plan.perform c ⟨passingPolls plan.read ++ rest, []⟩).ports = ⟨rest, []⟩ := by
  unfold CommandPlan.perform
  cases plan.read with
  | none => exact ⟨rfl, rfl⟩
  | store d => simp [passingPolls, readDataPort_first]
  | compare d e => simp [passingPolls, readDataPortExpecting_first]

theorem runCommands_passes (mux : MuxMode) (cs : List PS2Command) (m : Mode) :
    ∃ ps, ∀ rest, (runCommands mux m cs ⟨ps ++ rest, []⟩).failedAt = none ∧
      (runCommands mux m cs ⟨ps ++ rest, []⟩).ports = ⟨rest, []⟩ := by
  induction cs generalizing m with
  | nil => exact ⟨[], fun _ => ⟨rfl, rfl⟩⟩
  | cons c cs ih =>
    obtain ⟨ps, hps⟩ := ih (commandPlan mux m c).mode
    refine ⟨passingPolls (commandPlan mux m c).read ++ ps, ?_⟩
    intro rest
    obtain ⟨hf, hp⟩ := perform_passes (commandPlan mux m c) c (ps ++ rest)
    rw [List.append_assoc]
    simp only [runCommands, hf, if_false, hp, Bool.false_eq_true, RequestRun.cons]
    exact ⟨by rw [(hps rest).1]; rfl, (hps rest).2⟩

/-! The two variables after a prefix. -/

/-- Some `kPS2C_WriteCommandPort(kCP_TransmitToMouse)` with no
`kPS2C_WriteDataPort` after it. -/
def LeavesTransmit (cs : List PS2Command) : Prop :=
  ∃ pre post, cs = pre ++ ⟨.kPS2C_WriteCommandPort, kCP_TransmitToMouse⟩ :: post ∧
    ∀ c ∈ post, c.command ≠ .kPS2C_WriteDataPort

theorem modeAfter_append (mux : MuxMode) (m : Mode) (as bs : List PS2Command) :
    modeAfter mux m (as ++ bs) = modeAfter mux (modeAfter mux m as) bs := by
  simp [modeAfter]

theorem leavesTransmit_concat (cs : List PS2Command) (c : PS2Command) :
    LeavesTransmit (cs ++ [c]) ↔ c = ⟨.kPS2C_WriteCommandPort, kCP_TransmitToMouse⟩ ∨
      (LeavesTransmit cs ∧ c.command ≠ .kPS2C_WriteDataPort) := by
  constructor
  · rintro ⟨pre, post, h, hpost⟩
    rcases List.eq_nil_or_concat post with rfl | ⟨post', c', rfl⟩
    · exact .inl (by simpa using (List.append_inj' h rfl).2)
    · rw [List.concat_eq_append, ← List.cons_append, ← List.append_assoc] at h
      obtain ⟨hcs, hc⟩ := List.append_inj' h rfl
      simp only [List.cons.injEq, and_true] at hc
      subst hc
      refine .inr ⟨⟨pre, post', hcs, fun x hx => hpost x (by simp [hx])⟩, hpost c (by simp)⟩
  · rintro (rfl | ⟨⟨pre, post, rfl, hpost⟩, hc⟩)
    · exact ⟨cs, [], rfl, by simp⟩
    · refine ⟨pre, post ++ [c], by simp, ?_⟩
      intro x hx
      rcases List.mem_append.mp hx with hx | hx
      · exact hpost x hx
      · rw [List.mem_singleton.mp hx]
        exact hc

/-- What one command does to `transmitToMouse`. -/
theorem commandPlan_transmit (mux : MuxMode) (m : Mode) (c : PS2Command) :
    (commandPlan mux m c).mode.transmitToMouse = true ↔
      c = ⟨.kPS2C_WriteCommandPort, kCP_TransmitToMouse⟩ ∨
        (m.transmitToMouse = true ∧ c.command ≠ .kPS2C_WriteDataPort) := by
  obtain ⟨k, b⟩ := c
  cases k with
  | kPS2C_WriteDataPort => cases hm : m.transmitToMouse <;> simp [commandPlan, hm]
  | kPS2C_WriteCommandPort => by_cases hb : b = kCP_TransmitToMouse <;> simp [commandPlan, hb]
  | _ => simp [commandPlan]

theorem modeAfter_transmit (mux : MuxMode) (cs : List PS2Command) :
    (modeAfter mux .initial cs).transmitToMouse = true ↔ LeavesTransmit cs := by
  induction cs using List.reverseRecOn with
  | nil => simp [modeAfter, Mode.initial, LeavesTransmit]
  | append_singleton cs c ih =>
    rw [modeAfter_append, leavesTransmit_concat, ← ih]
    exact commandPlan_transmit mux _ c

/-! The two ways of sending a mouse command. -/

/-- After the prefix `pre`, the composite command and the three commands cannot
be told apart, whatever is sent, what follows, and what arrives. -/
def Replaces (mux : MuxMode) (pre : List PS2Command) : Prop :=
  ∀ (c : UInt8) (suffix : List PS2Command) (p : Ports),
    (runCommands mux .initial (pre ++ composite c :: suffix) p).observe =
      (runCommands mux .initial (pre ++ (mux.threeSteps c ++ suffix)) p).observe

theorem route_ne_transmit (mux : MuxMode) : mux.muxModeRoutePrefix ≠ kCP_TransmitToMouse := by
  obtain ⟨i, hi⟩ := mux.route
  rw [hi]
  clear hi
  revert i
  decide

/-- In legacy mode and with nothing left to transmit, both make the same accesses
and go on in the same mode. -/
theorem replaces_legacy (mux : MuxMode) (hmux : mux.controllerUsesMuxMode = false) (m : Mode)
    (hm : m.transmitToMouse = false) (c : UInt8) (suffix : List PS2Command) (p : Ports) :
    (runCommands mux m (composite c :: suffix) p).observe =
      (runCommands mux m (mux.threeSteps c ++ suffix) p).observe := by
  have hmode : ({ m with deviceMode := .kDT_Mouse } : Mode) = ⟨.kDT_Mouse, false⟩ := by
    rw [← hm]
  simp only [composite, MuxMode.threeSteps, MuxMode.mousePrefix, hmux, runCommands, commandPlan,
    CommandPlan.perform, hmode, List.cons_append, List.nil_append, if_true, if_false,
    Bool.false_eq_true]
  split <;> simp [RequestRun.observe, RequestRun.cons, PortAccess.readStream]

/-- One more data byte, and a read of the stream it selects. -/
def writeThenRead : List PS2Command := [⟨.kPS2C_WriteDataPort, 0⟩, ⟨.kPS2C_ReadDataPort, 0⟩]

/-- With something left to transmit, the next data byte is taken to go to the
mouse after the composite command, and to the keyboard after the three. -/
theorem streams_pending (mux : MuxMode) (m : Mode) (hm : m.transmitToMouse = true) (c : UInt8) :
    (runCommands mux m (composite c :: writeThenRead)
      ⟨[.byte .kDT_Mouse kSC_Acknowledge], []⟩).observe.readStreams = [.kDT_Mouse, .kDT_Mouse] ∧
    (runCommands mux m (mux.threeSteps c ++ writeThenRead)
      ⟨[.byte .kDT_Mouse kSC_Acknowledge], []⟩).observe.readStreams = [.kDT_Mouse, .kDT_Keyboard] := by
  obtain ⟨d, t⟩ := m
  obtain rfl : t = true := hm
  constructor
  · simp [composite, writeThenRead, runCommands, commandPlan, CommandPlan.perform,
      readDataPortExpecting_first, RequestRun.observe, RequestRun.cons, PortAccess.readStream,
      List.filterMap_cons]
  · by_cases hp : mux.mousePrefix = kCP_TransmitToMouse <;>
      simp [MuxMode.threeSteps, writeThenRead, runCommands, commandPlan, CommandPlan.perform, hp,
        readDataPortExpecting_first, RequestRun.observe, RequestRun.cons, PortAccess.readStream,
        List.filterMap_cons]

/-- A route prefix does not select the mouse stream. -/
theorem streams_mux (mux : MuxMode) (hmux : mux.controllerUsesMuxMode = true) (m : Mode)
    (hm : m.transmitToMouse = false) (c : UInt8) (p : Ports) :
    (runCommands mux m [composite c] p).observe.readStreams = [.kDT_Mouse] ∧
    (runCommands mux m (mux.threeSteps c) p).observe.readStreams = [.kDT_Keyboard] := by
  have hroute : mux.mousePrefix ≠ kCP_TransmitToMouse := by
    rw [MuxMode.mousePrefix, hmux]
    exact route_ne_transmit mux
  constructor
  · by_cases hack : (readDataPortExpecting .kDT_Mouse kSC_Acknowledge p).byte = kSC_Acknowledge <;>
      simp [composite, runCommands, commandPlan, CommandPlan.perform, hack, RequestRun.observe,
        RequestRun.cons, PortAccess.readStream, List.filterMap_cons]
  · by_cases hack : (readDataPortExpecting .kDT_Keyboard kSC_Acknowledge p).byte = kSC_Acknowledge <;>
      simp [MuxMode.threeSteps, runCommands, commandPlan, CommandPlan.perform, hroute, hm, hack,
        RequestRun.observe, RequestRun.cons, PortAccess.readStream, List.filterMap_cons]

theorem seq_readStreams_left {a x y : Observed} (h : a.seq x = a.seq y) :
    x.readStreams = y.readStreams := by
  have := congrArg Observed.readStreams h
  simpa [Observed.seq] using this

/-- The composite command can stand for the three exactly in legacy mode, and
where no `kCP_TransmitToMouse` is left without its data byte. -/
theorem replaces_iff (mux : MuxMode) (pre : List PS2Command) :
    Replaces mux pre ↔ mux.controllerUsesMuxMode = false ∧ ¬ LeavesTransmit pre := by
  rw [← modeAfter_transmit mux pre]
  constructor
  · intro h
    obtain ⟨ps, hps⟩ := runCommands_passes mux pre .initial
    -- the prefix passes, so both runs go on from the same mode and ports
    have hcont : ∀ (c : UInt8) (suffix : List PS2Command) (rest : List Poll),
        (runCommands mux (modeAfter mux .initial pre) (composite c :: suffix) ⟨rest, []⟩).observe.readStreams =
        (runCommands mux (modeAfter mux .initial pre) (mux.threeSteps c ++ suffix)
          ⟨rest, []⟩).observe.readStreams := by
      intro c suffix rest
      have hc := h c suffix ⟨ps ++ rest, []⟩
      rw [runCommands_append_passed mux _ pre _ _ (hps rest).1,
        runCommands_append_passed mux _ pre _ _ (hps rest).1, (hps rest).2] at hc
      exact seq_readStreams_left hc
    have hpending : ¬ (modeAfter mux .initial pre).transmitToMouse = true := by
      intro hm
      obtain ⟨h₁, h₂⟩ := streams_pending mux _ hm 0
      have := hcont 0 writeThenRead [.byte .kDT_Mouse kSC_Acknowledge]
      rw [h₁, h₂] at this
      cases this
    refine ⟨?_, hpending⟩
    cases hmux : mux.controllerUsesMuxMode with
    | false => rfl
    | true =>
      obtain ⟨h₁, h₂⟩ := streams_mux mux hmux _ (Bool.not_eq_true _ ▸ hpending) 0 ⟨[], []⟩
      have := hcont 0 [] []
      rw [List.append_nil, h₁, h₂] at this
      cases this
  · rintro ⟨hmux, hm⟩ c suffix p
    have hm : (modeAfter mux .initial pre).transmitToMouse = false := by simpa using hm
    cases hf : (runCommands mux .initial pre p).failedAt with
    | some k =>
      have hs : (runCommands mux .initial pre p).failedAt.isSome = true := by rw [hf]; rfl
      rw [runCommands_append_failed mux _ pre _ _ hs, runCommands_append_failed mux _ pre _ _ hs]
    | none =>
      rw [runCommands_append_passed mux _ pre _ _ hf, runCommands_append_passed mux _ pre _ _ hf,
        replaces_legacy mux hmux _ hm]

/-- Multiplexed mode with the touchpad on the second port. -/
def muxOnPort1 : MuxMode := ⟨true, 0x91, 1, by decide⟩

/-- In multiplexed mode the composite enable command succeeds on the mouse's
acknowledge, and the three commands wait for it on the keyboard stream. -/
theorem replaces_fails_mux :
    (runCommands muxOnPort1 .initial [composite kDP_Enable]
      ⟨[.byte .kDT_Mouse kSC_Acknowledge], []⟩).observe =
        ⟨[.writeCommandPort 0x91, .writeDataPort 0xF4], [.kDT_Mouse], [], true⟩ ∧
    (runCommands muxOnPort1 .initial (muxOnPort1.threeSteps kDP_Enable)
      ⟨[.byte .kDT_Mouse kSC_Acknowledge], []⟩).observe =
        ⟨[.writeCommandPort 0x91, .writeDataPort 0xF4], [.kDT_Keyboard],
          [(.kDT_Mouse, kSC_Acknowledge)], false⟩ ∧
    ¬ Replaces muxOnPort1 [] := by
  have h₁ : (runCommands muxOnPort1 .initial [composite kDP_Enable]
      ⟨[.byte .kDT_Mouse kSC_Acknowledge], []⟩).observe =
        ⟨[.writeCommandPort 0x91, .writeDataPort 0xF4], [.kDT_Mouse], [], true⟩ := by decide
  have h₂ : (runCommands muxOnPort1 .initial (muxOnPort1.threeSteps kDP_Enable)
      ⟨[.byte .kDT_Mouse kSC_Acknowledge], []⟩).observe =
        ⟨[.writeCommandPort 0x91, .writeDataPort 0xF4], [.kDT_Keyboard],
          [(.kDT_Mouse, kSC_Acknowledge)], false⟩ := by decide
  refine ⟨h₁, h₂, ?_⟩
  intro h
  have := h kDP_Enable [] ⟨[.byte .kDT_Mouse kSC_Acknowledge], []⟩
  rw [List.nil_append, List.nil_append, List.append_nil, h₁, h₂] at this
  cases this

end ApplePS2
