import ApplePS2.Controller.DataPort

/- Processing of one request (`ApplePS2Controller::processRequest`).

   `commandPlan` is the switch over the command kinds: what a command writes, the
   stream state it leaves, and the read it ends with. `runCommands` is the loop;
   it keeps, per executed command, the port accesses made for it. The driver
   interrupt actions called during a read are recorded only; actions that submit
   requests themselves are the subject of `Controller.Gate`.

   `processRequest_contract` is what the callers rely on: each command reads the
   ports as those before it have left them, the commands up to the first failed
   compare are executed, `commandsCount` names it, only executed plain reads
   store, and the request is completed or freed once. -/
namespace ApplePS2

/-- The multiplexing state: whether it is in use, and the prefix that routes a
command to the touchpad's port, one of the four AUX ports. -/
structure MuxMode where
  controllerUsesMuxMode : Bool
  muxModeRoutePrefix : UInt8
  route : ∃ i : Fin 4, muxModeRoutePrefix = kRP_RoutingPrefixAuxPort + UInt8.ofNat i

/-- The state set up by `init`. -/
def MuxMode.legacy : MuxMode := ⟨false, kRP_RoutingPrefixAuxPort, 0, rfl⟩

/-- The two locals that choose the stream of a read. -/
structure Mode where
  deviceMode : PS2DeviceType
  transmitToMouse : Bool
  deriving DecidableEq, Repr

def Mode.initial : Mode := ⟨.kDT_Keyboard, false⟩

/-- One access to the controller's ports; a read with the byte it returned. -/
inductive PortAccess where
  | writeCommandPort (byte : UInt8)
  | writeDataPort (byte : UInt8)
  | readDataPort (deviceType : PS2DeviceType) (byte : UInt8)
  deriving DecidableEq, Repr

/-- The read a command ends with: none, one whose byte is stored, or one whose
byte is compared. -/
inductive CommandRead where
  | none
  | store (deviceType : PS2DeviceType)
  | compare (deviceType : PS2DeviceType) (expectedByte : UInt8)
  deriving DecidableEq, Repr

structure CommandPlan where
  writes : List PortAccess
  mode : Mode
  read : CommandRead

/-- The prefix byte of the composite mouse command. -/
def MuxMode.mousePrefix (mux : MuxMode) : UInt8 :=
  if mux.controllerUsesMuxMode then mux.muxModeRoutePrefix else kCP_TransmitToMouse

/-- The switch of `processRequest`. -/
def commandPlan (mux : MuxMode) (m : Mode) (c : PS2Command) : CommandPlan :=
  match c.command with
  | .kPS2C_ReadDataPort => ⟨[], m, .store m.deviceMode⟩
  | .kPS2C_ReadMouseDataPort => ⟨[], { m with deviceMode := .kDT_Mouse }, .store .kDT_Mouse⟩
  | .kPS2C_ReadDataPortAndCompare => ⟨[], m, .compare m.deviceMode c.inOrOut⟩
  | .kPS2C_WriteDataPort =>
    -- next reads from mouse input stream, if the byte went to the mouse
    ⟨[.writeDataPort c.inOrOut],
      if m.transmitToMouse then ⟨.kDT_Mouse, false⟩ else { m with deviceMode := .kDT_Keyboard }, .none⟩
  | .kPS2C_WriteCommandPort =>
    ⟨[.writeCommandPort c.inOrOut],
      if c.inOrOut = kCP_TransmitToMouse then { m with transmitToMouse := true } else m, .none⟩
  | .kPS2C_SendMouseCommandAndCompareAck =>
    -- `transmitToMouse` is left as it is
    ⟨[.writeCommandPort mux.mousePrefix, .writeDataPort c.inOrOut],
      { m with deviceMode := .kDT_Mouse }, .compare .kDT_Mouse kSC_Acknowledge⟩

/-- One executed command: the command with what it stored, whether it failed, and
what it did. -/
structure Executed where
  command : PS2Command
  failed : Bool
  accesses : List PortAccess
  dispatched : List Dispatch
  ports : Ports

def CommandPlan.perform (plan : CommandPlan) (c : PS2Command) (p : Ports) : Executed :=
  match plan.read with
  | .none => ⟨c, false, plan.writes, [], p⟩
  | .store d =>
    let r := readDataPort d p
    ⟨{ c with inOrOut := r.byte }, false, plan.writes ++ [.readDataPort d r.byte], r.dispatched, r.ports⟩
  | .compare d e =>
    let r := readDataPortExpecting d e p
    ⟨c, r.byte != e, plan.writes ++ [.readDataPort d r.byte], r.dispatched, r.ports⟩

/-- A run of the command loop. `executed` lists the accesses of each executed
command, `failedAt` is the index of the command that failed. -/
structure RequestRun where
  commands : List PS2Command
  failedAt : Option Nat
  executed : List (List PortAccess)
  dispatched : List Dispatch
  ports : Ports

/-- The run with a successful command before it. -/
def RequestRun.cons (x : Executed) (r : RequestRun) : RequestRun :=
  { r with
    commands := x.command :: r.commands
    failedAt := r.failedAt.map (· + 1)
    executed := x.accesses :: r.executed
    dispatched := x.dispatched ++ r.dispatched }

/-- The command loop. -/
def runCommands (mux : MuxMode) : Mode → List PS2Command → Ports → RequestRun
  | _, [], p => ⟨[], none, [], [], p⟩
  | m, c :: cs, p =>
    let plan := commandPlan mux m c
    let x := plan.perform c p
    if x.failed then ⟨x.command :: cs, some 0, [x.accesses], x.dispatched, x.ports⟩
    else (runCommands mux plan.mode cs x.ports).cons x

theorem runCommands_length (mux : MuxMode) (cs : List PS2Command) (m : Mode) (p : Ports) :
    (runCommands mux m cs p).commands.length = cs.length := by
  induction cs generalizing m p with
  | nil => rfl
  | cons c cs ih =>
    simp only [runCommands]
    split
    · rfl
    · simp [RequestRun.cons, ih]

theorem runCommands_failedAt_lt (mux : MuxMode) (cs : List PS2Command) (m : Mode) (p : Ports) :
    ∀ k ∈ (runCommands mux m cs p).failedAt, k < cs.length := by
  induction cs generalizing m p with
  | nil =>
    intro k h
    simp [runCommands] at h
  | cons c cs ih =>
    intro k h
    simp only [runCommands] at h
    split at h
    · cases h
      simp
    · obtain ⟨j, hj, rfl⟩ := Option.map_eq_some_iff.mp h
      have hlt := ih _ _ j hj
      simp only [List.length_cons]
      omega

/-- How processing ends. -/
inductive Ending where
  | completed
  | freed
  deriving DecidableEq, Repr

structure Processed where
  request : PS2Request
  executed : List (List PortAccess)
  dispatched : List Dispatch
  ports : Ports
  endings : List Ending

/-- The commands that are to be executed. -/
def PS2Request.active (r : PS2Request) : List PS2Command := r.commands.take r.commandsCount

/-- The completion action if target and action are set, else the request is freed. -/
def PS2Request.finish (r : PS2Request) : List Ending :=
  if r.completionTarget && r.completionAction then [.completed] else [.freed]

theorem PS2Request.active_length (r : PS2Request) : r.active.length = r.commandsCount := by
  simp [PS2Request.active, r.counted]

def processRequest (mux : MuxMode) (hardwareOffline : Bool) (r : PS2Request) (p : Ports) : Processed :=
  if hardwareOffline then
    let r' : PS2Request := { r with commandsCount := 0, counted := Nat.zero_le _ }
    ⟨r', [], [], p, r'.finish⟩
  else
    let run := runCommands mux .initial r.active p
    have hlen : (run.commands ++ r.commands.drop r.commandsCount).length = r.commands.length := by
      have hc := r.counted
      rw [List.length_append, runCommands_length, r.active_length, List.length_drop]
      omega
    let r' : PS2Request :=
      { r with
        commands := run.commands ++ r.commands.drop r.commandsCount
        commandsCount := run.failedAt.getD r.commandsCount
        fits := by rw [hlen]; exact r.fits
        counted := by
          rw [hlen]
          cases hf : run.failedAt with
          | none => exact r.counted
          | some k =>
            have hk := runCommands_failedAt_lt mux _ _ p k hf
            rw [r.active_length] at hk
            exact Nat.le_of_lt (Nat.lt_of_lt_of_le hk r.counted) }
    ⟨r', run.executed, run.dispatched, run.ports, r'.finish⟩

/-! The contract of a run: `answer i` is the byte that the read of command `i`
returns, on the ports that the commands before it have left. -/

/-- The byte a comparing command must read. -/
def PS2Command.expects (c : PS2Command) : Option UInt8 :=
  match c.command with
  | .kPS2C_ReadDataPortAndCompare => some c.inOrOut
  | .kPS2C_SendMouseCommandAndCompareAck => some kSC_Acknowledge
  | _ => none

/-- The two plain reads, which store the byte they read. -/
def PS2Command.stores (c : PS2Command) : Bool :=
  c.command = .kPS2C_ReadDataPort || c.command = .kPS2C_ReadMouseDataPort

/-- The compare of command `i` fails. -/
def Fails (answer : Nat → UInt8) (cs : List PS2Command) (i : Nat) : Prop :=
  ∃ c e, cs[i]? = some c ∧ c.expects = some e ∧ answer i ≠ e

def FirstFailure (answer : Nat → UInt8) (cs : List PS2Command) (k : Nat) : Prop :=
  Fails answer cs k ∧ ∀ j < k, ¬ Fails answer cs j

/-- The stream state after some commands. -/
def modeAfter (mux : MuxMode) (m : Mode) (cs : List PS2Command) : Mode :=
  cs.foldl (fun m c => (commandPlan mux m c).mode) m

/-- The stream state before command `i`. -/
def modeAt (mux : MuxMode) (m : Mode) (cs : List PS2Command) (i : Nat) : Mode :=
  modeAfter mux m (cs.take i)

/-- What a read returns on these ports; without one nothing is taken off them. -/
def CommandRead.result (p : Ports) : CommandRead → ReadResult
  | .none => ⟨0, p, []⟩
  | .store d => readDataPort d p
  | .compare d e => readDataPortExpecting d e p

/-- The ports after some commands. -/
def portsAfter (mux : MuxMode) : Mode → List PS2Command → Ports → Ports
  | _, [], p => p
  | m, c :: cs, p => portsAfter mux (commandPlan mux m c).mode cs ((commandPlan mux m c).read.result p).ports

/-- The read of command `i`, on the ports that the commands `0` to `i - 1` have left. -/
def readAt (mux : MuxMode) (m : Mode) (cs : List PS2Command) (p : Ports) (i : Nat) : ReadResult :=
  let p' := portsAfter mux m (cs.take i) p
  match cs[i]? with
  | none => ⟨0, p', []⟩
  | some c => (commandPlan mux (modeAt mux m cs i) c).read.result p'

def answerAt (mux : MuxMode) (m : Mode) (cs : List PS2Command) (p : Ports) (i : Nat) : UInt8 := (readAt mux m cs p i).byte

def CommandRead.accesses (answer : UInt8) : CommandRead → List PortAccess
  | .none => []
  | .store d => [.readDataPort d answer]
  | .compare d _ => [.readDataPort d answer]

/-- The port accesses of one command. -/
def commandAccesses (mux : MuxMode) (m : Mode) (c : PS2Command) (answer : UInt8) : List PortAccess :=
  (commandPlan mux m c).writes ++ (commandPlan mux m c).read.accesses answer

/-- The command with what it stores. -/
def PS2Command.stored (c : PS2Command) (answer : UInt8) : PS2Command :=
  if c.stores then { c with inOrOut := answer } else c

theorem commandPlan_expects (mux : MuxMode) (m : Mode) (c : PS2Command) (e : UInt8) :
    c.expects = some e ↔ ∃ d, (commandPlan mux m c).read = .compare d e := by
  obtain ⟨k, b⟩ := c
  cases k <;> simp [PS2Command.expects, commandPlan]

theorem commandPlan_stores (mux : MuxMode) (m : Mode) (c : PS2Command) :
    c.stores = true ↔ ∃ d, (commandPlan mux m c).read = .store d := by
  obtain ⟨k, b⟩ := c
  cases k <;> simp [PS2Command.stores, commandPlan]

/-- One command, with the read it ends with. -/
structure Performed (mux : MuxMode) (m : Mode) (c : PS2Command) (r : ReadResult) (x : Executed) : Prop where
  accesses : x.accesses = commandAccesses mux m c r.byte
  command : x.command = c.stored r.byte
  failed : x.failed = true ↔ ∃ e, c.expects = some e ∧ r.byte ≠ e
  dispatched : x.dispatched = r.dispatched
  ports : x.ports = r.ports

theorem perform_spec (mux : MuxMode) (m : Mode) (c : PS2Command) (p : Ports) :
    Performed mux m c ((commandPlan mux m c).read.result p) ((commandPlan mux m c).perform c p) := by
  have hs := commandPlan_stores mux m c
  have he := commandPlan_expects mux m c
  unfold CommandPlan.perform
  cases hread : (commandPlan mux m c).read with
  | none =>
    constructor
    case accesses => simp [commandAccesses, hread, CommandRead.accesses]
    all_goals simp_all [CommandRead.result, PS2Command.stored]
  | store d =>
    constructor
    case accesses => simp [commandAccesses, hread, CommandRead.accesses, CommandRead.result]
    all_goals simp_all [CommandRead.result, PS2Command.stored]
  | compare d e =>
    constructor
    case accesses => simp [commandAccesses, hread, CommandRead.accesses, CommandRead.result]
    all_goals simp_all [CommandRead.result, PS2Command.stored]

section Cons

variable (mux : MuxMode) (m : Mode) (c : PS2Command) (cs : List PS2Command) (p : Ports)

/-- What is read after a command is read on the ports that it has left. -/
theorem readAt_succ (i : Nat) : readAt mux m (c :: cs) p (i + 1) =
    readAt mux (commandPlan mux m c).mode cs ((commandPlan mux m c).read.result p).ports i := rfl

theorem fails_cons_zero : Fails (answerAt mux m (c :: cs) p) (c :: cs) 0 ↔
    ∃ e, c.expects = some e ∧ ((commandPlan mux m c).read.result p).byte ≠ e := by
  have hanswer : answerAt mux m (c :: cs) p 0 = ((commandPlan mux m c).read.result p).byte := rfl
  simp [Fails, hanswer]

theorem fails_cons_succ (i : Nat) : Fails (answerAt mux m (c :: cs) p) (c :: cs) (i + 1) ↔
    Fails (answerAt mux (commandPlan mux m c).mode cs ((commandPlan mux m c).read.result p).ports) cs i := by
  simp [Fails, answerAt, readAt_succ]

theorem dispatched_cons (n : Nat) :
    (List.range (n + 1)).flatMap (fun i => (readAt mux m (c :: cs) p i).dispatched) =
      ((commandPlan mux m c).read.result p).dispatched ++ (List.range n).flatMap fun i =>
        (readAt mux (commandPlan mux m c).mode cs ((commandPlan mux m c).read.result p).ports i).dispatched := by
  rw [List.range_succ_eq_map, List.flatMap_cons, List.flatMap_map]
  rfl

end Cons

/-- What holds of a run of the loop from mode `m` on the ports `p`. -/
structure RunContract (mux : MuxMode) (m : Mode) (cs : List PS2Command) (p : Ports) (run : RequestRun) : Prop where
  passed : run.failedAt = none → (∀ i, ¬ Fails (answerAt mux m cs p) cs i) ∧ run.executed.length = cs.length
  stopped : ∀ k, run.failedAt = some k → FirstFailure (answerAt mux m cs p) cs k ∧ run.executed.length = k + 1
  accesses : ∀ i < run.executed.length, ∃ c, cs[i]? = some c ∧
    run.executed[i]? = some (commandAccesses mux (modeAt mux m cs i) c (answerAt mux m cs p i))
  stores : ∀ i : Nat, run.commands[i]? =
    cs[i]?.map (fun c => if i < run.executed.length then c.stored (answerAt mux m cs p i) else c)
  dispatched : run.dispatched = (List.range run.executed.length).flatMap fun i => (readAt mux m cs p i).dispatched
  ports : run.ports = portsAfter mux m (cs.take run.executed.length) p

/-- The loop stops at a command that fails. -/
theorem RunContract.stop {mux : MuxMode} {m : Mode} {c : PS2Command} {cs : List PS2Command} {p : Ports} {x : Executed}
    (hx : Performed mux m c ((commandPlan mux m c).read.result p) x)
    (hfail : ∃ e, c.expects = some e ∧ ((commandPlan mux m c).read.result p).byte ≠ e) :
    RunContract mux m (c :: cs) p ⟨x.command :: cs, some 0, [x.accesses], x.dispatched, x.ports⟩ := by
  constructor
  case passed => simp
  case stopped =>
    rintro k ⟨⟩
    exact ⟨⟨(fails_cons_zero mux m c cs p).mpr hfail, by simp⟩, rfl⟩
  case accesses =>
    intro i hi
    obtain rfl : i = 0 := by simpa using hi
    exact ⟨c, rfl, congrArg some hx.accesses⟩
  case stores =>
    rintro (_ | i)
    · exact congrArg some hx.command
    · simp
  case dispatched =>
    rw [hx.dispatched]
    exact (dispatched_cons mux m c cs p 0).trans (List.append_nil _) |>.symm
  case ports => exact hx.ports

/-- A command that passes comes before the rest of the run. -/
theorem RunContract.cons {mux : MuxMode} {m : Mode} {c : PS2Command} {cs : List PS2Command} {p : Ports} {x : Executed}
    {run : RequestRun}
    (h : RunContract mux (commandPlan mux m c).mode cs ((commandPlan mux m c).read.result p).ports run)
    (hx : Performed mux m c ((commandPlan mux m c).read.result p) x)
    (hpass : ¬∃ e, c.expects = some e ∧ ((commandPlan mux m c).read.result p).byte ≠ e) :
    RunContract mux m (c :: cs) p (run.cons x) := by
  have hzero : ¬ Fails (answerAt mux m (c :: cs) p) (c :: cs) 0 := by
    rw [fails_cons_zero]
    exact hpass
  constructor
  case passed =>
    intro hnone
    obtain ⟨hall, hlen⟩ := h.passed (by simpa [RequestRun.cons] using hnone)
    refine ⟨?_, by simp [RequestRun.cons, hlen]⟩
    rintro (_ | i)
    · exact hzero
    · rw [fails_cons_succ]
      exact hall i
  case stopped =>
    intro k hk
    obtain ⟨j, hj, rfl⟩ := Option.map_eq_some_iff.mp hk
    obtain ⟨⟨hfj, hmin⟩, hlen⟩ := h.stopped j hj
    refine ⟨⟨(fails_cons_succ mux m c cs p j).mpr hfj, ?_⟩, by simp [RequestRun.cons, hlen]⟩
    rintro (_ | i) hi
    · exact hzero
    · rw [fails_cons_succ]
      apply hmin
      omega
  case accesses =>
    rintro (_ | i) hi
    · exact ⟨c, rfl, congrArg some hx.accesses⟩
    · exact h.accesses i (by simpa [RequestRun.cons] using hi)
  case stores =>
    rintro (_ | i)
    · have hanswer : answerAt mux m (c :: cs) p 0 = ((commandPlan mux m c).read.result p).byte := rfl
      simp [RequestRun.cons, hanswer, hx.command]
    · have hrest := h.stores i
      simpa [RequestRun.cons, answerAt, readAt_succ] using hrest
  case dispatched =>
    show x.dispatched ++ run.dispatched = (List.range (run.executed.length + 1)).flatMap _
    rw [dispatched_cons, hx.dispatched, h.dispatched]
  case ports => exact h.ports

theorem runCommands_contract (mux : MuxMode) (cs : List PS2Command) (m : Mode) (p : Ports) :
    RunContract mux m cs p (runCommands mux m cs p) := by
  induction cs generalizing m p with
  | nil => constructor <;> simp [runCommands, Fails, portsAfter]
  | cons c cs ih =>
    have hx := perform_spec mux m c p
    simp only [runCommands]
    split
    · next hf => exact .stop hx (hx.failed.mp hf)
    · next hf =>
      have hrest := ih (commandPlan mux m c).mode ((commandPlan mux m c).perform c p).ports
      rw [hx.ports] at hrest ⊢
      exact hrest.cons hx (mt hx.failed.mpr hf)

/-- The bytes that the reads of a request return. -/
def PS2Request.answer (mux : MuxMode) (r : PS2Request) (p : Ports) : Nat → UInt8 := answerAt mux .initial r.active p

/-- What a caller may rely on after an online run: the executed commands are
those up to the first failed compare, each with exactly its own port accesses;
`commandsCount` is kept or names the failed command; only executed plain reads
store; the interrupt actions called and the ports left are those of the executed
reads; and the request is completed or freed, once. -/
structure OnlineContract (mux : MuxMode) (r : PS2Request) (p : Ports) (o : Processed) : Prop where
  kept : o.request.commandsCount = r.commandsCount ↔ ∀ i, ¬ Fails (r.answer mux p) r.active i
  whole : (∀ i, ¬ Fails (r.answer mux p) r.active i) → o.executed.length = r.commandsCount
  stopped : ∀ k, FirstFailure (r.answer mux p) r.active k →
    o.request.commandsCount = k ∧ o.executed.length = k + 1
  accesses : ∀ i < o.executed.length, ∃ c, r.active[i]? = some c ∧
    o.executed[i]? = some (commandAccesses mux (modeAt mux .initial r.active i) c (r.answer mux p i))
  stores : ∀ i : Nat, o.request.commands[i]? =
    r.commands[i]?.map (fun c => if i < o.executed.length then c.stored (r.answer mux p i) else c)
  dispatched : o.dispatched =
    (List.range o.executed.length).flatMap fun i => (readAt mux .initial r.active p i).dispatched
  ports : o.ports = portsAfter mux .initial (r.active.take o.executed.length) p
  ending : o.endings = if r.completionTarget && r.completionAction then [.completed] else [.freed]

/-- With the hardware offline nothing is touched, and the request still ends once. -/
structure OfflineContract (r : PS2Request) (p : Ports) (o : Processed) : Prop where
  untouched : o.executed = [] ∧ o.dispatched = [] ∧ o.ports = p
  commands : o.request.commands = r.commands
  count : o.request.commandsCount = 0
  ending : o.endings = if r.completionTarget && r.completionAction then [.completed] else [.freed]

theorem fails_lt {answer : Nat → UInt8} {cs : List PS2Command} {i : Nat} (h : Fails answer cs i) :
    i < cs.length := by
  obtain ⟨c, _, hc, _⟩ := h
  exact (List.getElem?_eq_some_iff.mp hc).1

theorem FirstFailure.unique {answer : Nat → UInt8} {cs : List PS2Command} {j k : Nat}
    (hj : FirstFailure answer cs j) (hk : FirstFailure answer cs k) : j = k := by
  rcases Nat.lt_trichotomy j k with h | h | h
  · exact absurd hj.1 (hk.2 j h)
  · exact h
  · exact absurd hk.1 (hj.2 k h)

/-- No more commands are executed than the loop is given. -/
theorem RunContract.executed_le {mux : MuxMode} {m : Mode} {cs : List PS2Command} {p : Ports}
    {run : RequestRun} (h : RunContract mux m cs p run) : run.executed.length ≤ cs.length := by
  cases hf : run.failedAt with
  | none => exact Nat.le_of_eq (h.passed hf).2
  | some k =>
    obtain ⟨⟨hk, _⟩, hex⟩ := h.stopped k hf
    have hlt := fails_lt hk
    omega

/-- The commands after the run: those of the loop, then the inactive ones, as they were. -/
theorem processRequest_commands (mux : MuxMode) (r : PS2Request) (p : Ports) (i : Nat) :
    (processRequest mux false r p).request.commands[i]? = r.commands[i]?.map fun c =>
      if i < (runCommands mux .initial r.active p).executed.length then c.stored (r.answer mux p i) else c := by
  have h := runCommands_contract mux r.active .initial p
  have hcmds : (processRequest mux false r p).request.commands =
    (runCommands mux .initial r.active p).commands ++ r.commands.drop r.commandsCount := rfl
  have hlen := runCommands_length mux r.active .initial p
  have hle := h.executed_le
  rw [r.active_length] at hlen hle
  rw [hcmds]
  by_cases hi : i < r.commandsCount
  · rw [List.getElem?_append_left (by omega), h.stores i, ← PS2Request.answer]
    rw [PS2Request.active, List.getElem?_take_of_lt hi]
  · have hindex : r.commandsCount + (i - r.commandsCount) = i := by omega
    have hne : ¬ i < (runCommands mux .initial r.active p).executed.length := by omega
    rw [List.getElem?_append_right (by omega), List.getElem?_drop, hlen, hindex]
    cases r.commands[i]? <;> simp [hne]

theorem processRequest_contract (mux : MuxMode) (r : PS2Request) (p : Ports) :
    OnlineContract mux r p (processRequest mux false r p) ∧ OfflineContract r p (processRequest mux true r p) := by
  refine ⟨?_, ⟨rfl, rfl, rfl⟩, rfl, rfl, rfl⟩
  obtain ⟨hpass, hstop, haccs, -, hdispatched, hports⟩ := runCommands_contract mux r.active .initial p
  have hcount : (processRequest mux false r p).request.commandsCount =
    (runCommands mux .initial r.active p).failedAt.getD r.commandsCount := rfl
  have hexec : (processRequest mux false r p).executed =
    (runCommands mux .initial r.active p).executed := rfl
  refine ⟨?_, ?_, ?_, haccs, processRequest_commands mux r p, hdispatched, hports, rfl⟩
  · rw [hcount]
    cases hf : (runCommands mux .initial r.active p).failedAt with
    | none => exact ⟨fun _ => (hpass hf).1, fun _ => rfl⟩
    | some k =>
      obtain ⟨⟨hk, _⟩, _⟩ := hstop k hf
      have hlt := fails_lt hk
      rw [r.active_length] at hlt
      exact ⟨fun h => absurd h (Nat.ne_of_lt hlt), fun h => absurd hk (h k)⟩
  · intro hall
    rw [hexec]
    cases hf : (runCommands mux .initial r.active p).failedAt with
    | none => rw [(hpass hf).2, r.active_length]
    | some k => exact absurd (hstop k hf).1.1 (hall k)
  · intro k hk
    rw [hcount, hexec]
    cases hf : (runCommands mux .initial r.active p).failedAt with
    | none => exact absurd hk.1 ((hpass hf).1 k)
    | some j =>
      obtain ⟨hj, hlen⟩ := hstop j hf
      obtain rfl := hj.unique hk
      exact ⟨rfl, hlen⟩

end ApplePS2
