import ApplePS2.Controller.Request
import ApplePS2.Controller.PlainRead

/- The drivers' read-modify-write of the command byte (`setCommandByte`, one copy in
   each driver): a request that reads it, and one that tests and sets it, over and over
   until the second is done whole.

   1. `submit_read`, `submit_test`: what the two requests of a round come to.
   2. `testAndSetLoop_writes`: the only byte written is that of the first round that passes.
   3. `setCommandByte_modifies_iff`: when it changes the bits asked for and no others.
   4. `setCommandByte_ends_iff`: when the loop ends.
   5. `modifies_undisturbed`, `ends_iff_online`: both, where the controller answers in time
      and no key is pressed. -/
namespace ApplePS2

/-! Requests that are filled in and blocked on. -/

/-- "Request structure is guaranteed to be zeroed." -/
def allocateRequest : PS2Request :=
  { commands := List.replicate kMaxCommands ⟨.kPS2C_ReadDataPort, 0⟩, commandsCount := 0
    completionTarget := false, completionAction := false
    fits := Nat.le_of_eq List.length_replicate, counted := Nat.zero_le _ }

namespace PS2Request

/-- The first commands are set, and their number. -/
def load (cs : List PS2Command) (h : cs.length ≤ kMaxCommands) (r : PS2Request) : PS2Request :=
  { r with
    commands := cs ++ r.commands.drop cs.length
    commandsCount := cs.length
    fits := by
      have hfits := r.fits
      rw [List.length_append, List.length_drop]
      omega
    counted := by
      rw [List.length_append]
      omega }

/-- `request->commands[i].inOrOut` -/
def inOrOut (i : Nat) (r : PS2Request) : UInt8 := (r.commands[i]?.map PS2Command.inOrOut).getD 0

theorem load_active (cs : List PS2Command) (h : cs.length ≤ kMaxCommands) (r : PS2Request) :
    (r.load cs h).active = cs := List.take_left' rfl

end PS2Request

/-- What arrives at the port while a request is processed. -/
inductive Arrival where
  | idle
  | byte (stream : PS2DeviceType) (data : UInt8)
  /-- The controller's answer to `kCP_GetCommandByte`. -/
  | commandByte
  deriving DecidableEq, Repr

/-- The controller while it processes a request of the loop. -/
structure Exchange where
  hardwareOffline : Bool
  mux : MuxMode
  register : UInt8
  keyboardQueue : List UInt8
  arrivals : List Arrival

namespace Exchange

def poll (x : Exchange) : Arrival → Poll
  | .idle => .idle
  | .byte s b => .byte s b
  | .commandByte => .byte .kDT_Keyboard x.register

def ports (x : Exchange) : Ports := ⟨x.arrivals.map x.poll, x.keyboardQueue⟩

/-- The keyboard bytes that are there in time. -/
def keyboardBytes (x : Exchange) : List UInt8 := arriving .kDT_Keyboard x.ports

/-- `submitRequestAndBlockGated` sets a completion action. -/
def submitRequestAndBlock (x : Exchange) (r : PS2Request) : Processed :=
  processRequest x.mux x.hardwareOffline { r with completionTarget := true, completionAction := true } x.ports

end Exchange

/-! The loop. -/

/-- What the controller is like at the two requests of one round. -/
structure Round where
  read : Exchange
  test : Exchange

/-- "(read command byte)" -/
def readCommands : List PS2Command :=
  [⟨.kPS2C_WriteCommandPort, kCP_GetCommandByte⟩, ⟨.kPS2C_ReadDataPort, 0⟩]

/-- `("test-and-set" command byte)` -/
def testCommands (commandByte commandByteNew : UInt8) : List PS2Command :=
  [⟨.kPS2C_WriteCommandPort, kCP_GetCommandByte⟩, ⟨.kPS2C_ReadDataPortAndCompare, commandByte⟩,
    ⟨.kPS2C_WriteCommandPort, kCP_SetCommandByte⟩, ⟨.kPS2C_WriteDataPort, commandByteNew⟩]

theorem testCommands_fits (commandByte commandByteNew : UInt8) :
    (testCommands commandByte commandByteNew).length ≤ kMaxCommands := by
  show 4 ≤ 20
  decide

/-- "Modify the command byte as requested by caller." -/
def modifyByte (setBits clearBits commandByte : UInt8) : UInt8 := (commandByte ||| setBits) &&& ~~~clearBits

/-- One round: the second request, processed. -/
def Round.testAndSet (setBits clearBits : UInt8) (x : Round) (r : PS2Request) : Processed :=
  let r := (x.read.submitRequestAndBlock (r.load readCommands (by decide))).request
  let commandByte := r.inOrOut 1
  x.test.submitRequestAndBlock
    (r.load (testCommands commandByte (modifyByte setBits clearBits commandByte)) (testCommands_fits _ _))

/-- The rounds that are made, each with its second request; the loop ends when all four
commands of that have been done. -/
def testAndSetLoop (setBits clearBits : UInt8) : List Round → PS2Request → List (Round × Processed)
  | [], _ => []
  | x :: xs, r =>
    let t := x.testAndSet setBits clearBits r
    (x, t) :: if t.request.commandsCount ≠ 4 then testAndSetLoop setBits clearBits xs t.request else []

/-- The keyboard driver's copy. -/
def ApplePS2Keyboard.setCommandByte (setBits clearBits : UInt8) (xs : List Round) : List (Round × Processed) :=
  testAndSetLoop setBits clearBits xs allocateRequest

/-- The touchpad driver's copy; it returns when there is no request, which is never so. -/
def PS2Interface.setCommandByte (setBits clearBits : UInt8) (xs : List Round) : List (Round × Processed) :=
  testAndSetLoop setBits clearBits xs allocateRequest

def setCommandByte : PS2DeviceType → UInt8 → UInt8 → List Round → List (Round × Processed)
  | .kDT_Keyboard => ApplePS2Keyboard.setCommandByte
  | .kDT_Mouse => PS2Interface.setCommandByte

/-- The values that some port accesses write to the register. -/
def commandByteWrites : List PortAccess → List UInt8
  | .writeCommandPort c :: .writeDataPort b :: l =>
    if c = kCP_SetCommandByte then b :: commandByteWrites l else commandByteWrites l
  | _ :: l => commandByteWrites l
  | [] => []

/-- The values written to the register, each with what the register holds then. -/
def writtenOver (l : List (Round × Processed)) : List (UInt8 × UInt8) :=
  l.flatMap fun x => (commandByteWrites x.2.executed.flatten).map (x.1.test.register, ·)

/-- The last round has done all four commands. -/
def Ends (l : List (Round × Processed)) : Prop := ∃ x ∈ l, x.2.request.commandsCount = 4

/-! One round, in terms of what arrives. -/

namespace Round

/-- What the read takes for the command byte: the first keyboard byte that is there in
time, and 0 when there is none or the hardware is offline. -/
def taken (x : Round) : UInt8 := if x.read.hardwareOffline then 0 else x.read.keyboardBytes.headD 0

/-- The test finds that byte again. -/
def passes (x : Round) : Bool :=
  !x.test.hardwareOffline &&
    ((x.test.keyboardBytes.take 4).contains x.taken || x.test.keyboardBytes.isEmpty && x.taken = 0)

end Round

theorem readDataPort_byte (d : PS2DeviceType) (p : Ports) : (readDataPort d p).byte = (arriving d p).headD 0 := by
  have hspec := (readLoop_spec d none p).1
  rw [readDataPort, hspec]
  cases arriving d p <;> rfl

theorem submit_read (x : Exchange) (r : PS2Request) :
    (x.submitRequestAndBlock (r.load readCommands (by decide))).request.inOrOut 1 =
      if x.hardwareOffline then 0 else x.keyboardBytes.headD 0 := by
  unfold Exchange.submitRequestAndBlock
  cases hoff : x.hardwareOffline with
  | true => rfl
  | false =>
    have hbyte := readDataPort_byte .kDT_Keyboard x.ports
    rw [if_neg (by decide)]
    exact hbyte

theorem passes_iff (x : Round) :
    x.passes = true ↔ x.test.hardwareOffline = false ∧ Found .kDT_Keyboard x.taken x.test.ports := by
  simp [Round.passes, Found, Exchange.keyboardBytes]

/-- What a run of the test's commands comes to. -/
theorem runCommands_test (mux : MuxMode) (c v : UInt8) (p : Ports) :
    let run := runCommands mux .initial (testCommands c v) p
    let read := readDataPortExpecting .kDT_Keyboard c p
    run.failedAt = (if read.byte = c then none else some 1) ∧
      commandByteWrites run.executed.flatten = if read.byte = c then [v] else [] := by
  dsimp only [testCommands, runCommands, commandPlan, CommandPlan.perform, Mode.initial]
  rw [if_neg (by decide)]
  by_cases hread : (readDataPortExpecting .kDT_Keyboard c p).byte = c
  · simp [hread, RequestRun.cons, commandByteWrites, kCP_SetCommandByte, kCP_GetCommandByte]
  · simp [hread, RequestRun.cons, commandByteWrites, kCP_SetCommandByte, kCP_GetCommandByte]

theorem submit_offline {x : Exchange} (hoff : x.hardwareOffline = true) (r : PS2Request) :
    (x.submitRequestAndBlock r).request.commandsCount = 0 ∧ (x.submitRequestAndBlock r).executed = [] := by
  unfold Exchange.submitRequestAndBlock
  rw [hoff]
  exact ⟨rfl, rfl⟩

theorem submit_online {x : Exchange} (hoff : x.hardwareOffline = false) (r : PS2Request) :
    (x.submitRequestAndBlock r).request.commandsCount =
        (runCommands x.mux .initial r.active x.ports).failedAt.getD r.commandsCount ∧
      (x.submitRequestAndBlock r).executed = (runCommands x.mux .initial r.active x.ports).executed := by
  unfold Exchange.submitRequestAndBlock
  rw [hoff]
  exact ⟨rfl, rfl⟩

/-- The test request with the byte `c` to compare and `v` to set: all of its commands are
done, and it writes `v`, if the hardware is online and `c` is found. -/
theorem submit_test (x : Exchange) (c v : UInt8) (r : PS2Request) :
    let t := x.submitRequestAndBlock (r.load (testCommands c v) (testCommands_fits c v))
    (t.request.commandsCount = 4 ↔ x.hardwareOffline = false ∧ Found .kDT_Keyboard c x.ports) ∧
      commandByteWrites t.executed.flatten = if t.request.commandsCount = 4 then [v] else [] := by
  have hfound := (readDataPortExpecting_refines .kDT_Keyboard c x.ports).1
  obtain ⟨hfailed, hwrites⟩ := runCommands_test x.mux c v x.ports
  cases hoff : x.hardwareOffline with
  | true =>
    obtain ⟨hcount, hexecuted⟩ := submit_offline hoff (r.load (testCommands c v) (testCommands_fits c v))
    simp [hcount, hexecuted, commandByteWrites]
  | false =>
    obtain ⟨hcount, hexecuted⟩ := submit_online hoff (r.load (testCommands c v) (testCommands_fits c v))
    rw [PS2Request.load_active] at hcount hexecuted
    by_cases h : Found .kDT_Keyboard c x.ports
    · rw [if_pos (hfound.2 h)] at hfailed hwrites
      have hall : (r.load (testCommands c v) (testCommands_fits c v)).commandsCount = 4 := rfl
      rw [hfailed, hall] at hcount
      simp [hcount, hexecuted, hwrites, h]
    · rw [if_neg (mt hfound.1 h)] at hfailed hwrites
      simp [hcount, hexecuted, hfailed, hwrites, h]

theorem testAndSet_spec (setBits clearBits : UInt8) (x : Round) (r : PS2Request) :
    let t := x.testAndSet setBits clearBits r
    (t.request.commandsCount = 4 ↔ x.passes = true) ∧
      commandByteWrites t.executed.flatten =
        if x.passes then [modifyByte setBits clearBits x.taken] else [] := by
  have hread := submit_read x.read r
  have htest := submit_test x.test x.taken (modifyByte setBits clearBits x.taken)
    (x.read.submitRequestAndBlock (r.load readCommands (by decide))).request
  unfold Round.testAndSet
  simp only [hread]
  obtain ⟨hcount, hwrites⟩ := htest
  rw [← passes_iff] at hcount
  refine ⟨hcount, hwrites.trans ?_⟩
  by_cases hpasses : x.passes = true
  · rw [if_pos hpasses, if_pos (hcount.2 hpasses)]
  · rw [if_neg hpasses, if_neg (mt hcount.1 hpasses)]

/-! All rounds. -/

/-- The only byte written is that of the first round that passes. -/
theorem testAndSetLoop_writes (setBits clearBits : UInt8) (xs : List Round) (r : PS2Request) :
    writtenOver (testAndSetLoop setBits clearBits xs r) =
      ((xs.find? Round.passes).map fun x => (x.test.register, modifyByte setBits clearBits x.taken)).toList := by
  induction xs generalizing r with
  | nil => rfl
  | cons x xs ih =>
    obtain ⟨hcount, hwrites⟩ := testAndSet_spec setBits clearBits x r
    cases hpasses : x.passes with
    | true =>
      have hdone := hcount.2 hpasses
      simp [testAndSetLoop, writtenOver, hdone, hwrites, hpasses]
    | false =>
      have hagain : (x.testAndSet setBits clearBits r).request.commandsCount ≠ 4 := by
        intro hdone
        rw [hcount.1 hdone] at hpasses
        cases hpasses
      have hrest := ih (x.testAndSet setBits clearBits r).request
      rw [writtenOver] at hrest
      simp [testAndSetLoop, writtenOver, hagain, hwrites, hpasses, hrest]

theorem testAndSetLoop_ends (setBits clearBits : UInt8) (xs : List Round) (r : PS2Request) :
    Ends (testAndSetLoop setBits clearBits xs r) ↔ ∃ x ∈ xs, x.passes = true := by
  induction xs generalizing r with
  | nil => simp [Ends, testAndSetLoop]
  | cons x xs ih =>
    obtain ⟨hcount, -⟩ := testAndSet_spec setBits clearBits x r
    by_cases hpasses : x.passes = true
    · simp [Ends, testAndSetLoop, hcount.2 hpasses, hpasses]
    · have hagain := mt hcount.1 hpasses
      have hrest := ih (x.testAndSet setBits clearBits r).request
      rw [Ends] at hrest
      simpa [Ends, testAndSetLoop, hagain, hpasses] using hrest

/-- The byte written over `old` has the bits of `setBits` not in `clearBits` set and those of
`clearBits` clear, and is otherwise the same. -/
structure Modifies (setBits clearBits old new : UInt8) : Prop where
  kept : new &&& ~~~(setBits ||| clearBits) = old &&& ~~~(setBits ||| clearBits)
  set : setBits &&& ~~~clearBits &&& new = setBits &&& ~~~clearBits
  clear : clearBits &&& new = 0

theorem modifyByte_kept (setBits clearBits commandByte : UInt8) :
    modifyByte setBits clearBits commandByte &&& ~~~(setBits ||| clearBits) =
      commandByte &&& ~~~(setBits ||| clearBits) := by
  apply UInt8.toBitVec_inj.1
  ext i hi
  simp [modifyByte]
  grind

theorem modifyByte_set (setBits clearBits commandByte : UInt8) :
    setBits &&& ~~~clearBits &&& modifyByte setBits clearBits commandByte = setBits &&& ~~~clearBits := by
  apply UInt8.toBitVec_inj.1
  ext i hi
  simp [modifyByte]
  grind

theorem modifyByte_clear (setBits clearBits commandByte : UInt8) :
    clearBits &&& modifyByte setBits clearBits commandByte = 0 := by
  apply UInt8.toBitVec_inj.1
  ext i hi
  simp [modifyByte]
  grind

theorem modifies_iff (setBits clearBits old commandByte : UInt8) :
    Modifies setBits clearBits old (modifyByte setBits clearBits commandByte) ↔
      commandByte &&& ~~~(setBits ||| clearBits) = old &&& ~~~(setBits ||| clearBits) := by
  have hkept := modifyByte_kept setBits clearBits commandByte
  constructor
  · intro h
    exact hkept.symm.trans h.kept
  · intro h
    exact ⟨hkept.trans h, modifyByte_set _ _ _, modifyByte_clear _ _ _⟩

theorem setCommandByte_eq (d : PS2DeviceType) (setBits clearBits : UInt8) (xs : List Round) :
    setCommandByte d setBits clearBits xs = testAndSetLoop setBits clearBits xs allocateRequest := by
  cases d <;> rfl

/-- The byte that is written changes the bits asked for and no others, exactly when what the
first round that passes has taken for the command byte agrees with the register in the others. -/
theorem setCommandByte_modifies_iff (d : PS2DeviceType) (setBits clearBits : UInt8) (xs : List Round) :
    (∀ w ∈ writtenOver (setCommandByte d setBits clearBits xs), Modifies setBits clearBits w.1 w.2) ↔
      ∀ x, xs.find? Round.passes = some x →
        x.taken &&& ~~~(setBits ||| clearBits) = x.test.register &&& ~~~(setBits ||| clearBits) := by
  rw [setCommandByte_eq, testAndSetLoop_writes]
  cases hfirst : xs.find? Round.passes with
  | none => simp
  | some x => simp [modifies_iff]

/-- The controller answers neither read in time. -/
def silentRound (register : UInt8) : Round :=
  ⟨⟨false, .legacy, register, [], []⟩, ⟨false, .legacy, register, [], []⟩⟩

/-- Both reads give the fake value 0, the test passes, and the other bits of the register are lost. -/
theorem setCommandByte_overwrites :
    writtenOver (setCommandByte .kDT_Keyboard kCB_EnableKeyboardIRQ kCB_DisableKeyboardClock [silentRound 0x47]) =
        [(0x47, 0x01)] ∧
      ¬ Modifies kCB_EnableKeyboardIRQ kCB_DisableKeyboardClock 0x47 0x01 := by
  constructor
  · decide +kernel
  · intro h
    have hkept := h.kept
    revert hkept
    decide

/-! Termination. -/

/-- The loop ends exactly when some round finds the hardware online at its test, and finds
the byte that it has taken for the command byte again. -/
theorem setCommandByte_ends_iff (d : PS2DeviceType) (setBits clearBits : UInt8) (rounds : Nat → Round) :
    (∃ n, Ends (setCommandByte d setBits clearBits ((List.range n).map rounds))) ↔
      ∃ n, (rounds n).passes = true := by
  constructor
  · rintro ⟨n, h⟩
    rw [setCommandByte_eq, testAndSetLoop_ends] at h
    obtain ⟨x, hmem, hx⟩ := h
    obtain ⟨i, -, rfl⟩ := List.mem_map.1 hmem
    exact ⟨i, hx⟩
  · rintro ⟨n, h⟩
    refine ⟨n + 1, ?_⟩
    rw [setCommandByte_eq, testAndSetLoop_ends]
    exact ⟨rounds n, List.mem_map.2 ⟨n, List.mem_range.2 (Nat.lt_succ_self n), rfl⟩, h⟩

/-- The register is changed only finitely many times. -/
def Settles (rounds : Nat → Round) : Prop :=
  ∃ n register, ∀ i ≥ n, (rounds i).read.register = register ∧ (rounds i).test.register = register

/-- The hardware goes offline for good. -/
def offlineRound (register : UInt8) : Round :=
  ⟨⟨true, .legacy, register, [], [.commandByte]⟩, ⟨true, .legacy, register, [], [.commandByte]⟩⟩

theorem setCommandByte_endless : ¬ ∀ (d : PS2DeviceType) (setBits clearBits : UInt8) (rounds : Nat → Round),
    Settles rounds → ∃ n, Ends (setCommandByte d setBits clearBits ((List.range n).map rounds)) := by
  intro h
  have hends := h .kDT_Mouse kCB_EnableMouseIRQ kCB_DisableMouseClock (fun _ => offlineRound 0x47)
    ⟨0, 0x47, fun _ _ => ⟨rfl, rfl⟩⟩
  rw [setCommandByte_ends_iff] at hends
  obtain ⟨n, hpasses⟩ := hends
  cases hpasses

/-- The controller's answer is there in time, and no other keyboard byte. -/
structure Exchange.Undisturbed (x : Exchange) : Prop where
  answered : x.keyboardBytes ≠ []
  only : ∀ b ∈ x.keyboardBytes, b = x.register

theorem Exchange.Undisturbed.head {x : Exchange} (h : x.Undisturbed) : x.keyboardBytes.headD 0 = x.register := by
  cases hbytes : x.keyboardBytes with
  | nil => exact absurd hbytes h.answered
  | cons b bs => exact h.only b (by simp [hbytes])

/-- An undisturbed round passes when the register is what it was at the read. -/
theorem passes_undisturbed {x : Round} (h : x.test.Undisturbed) :
    x.passes = true ↔ x.test.hardwareOffline = false ∧ x.taken = x.test.register := by
  rw [passes_iff]
  refine and_congr_right fun _ => ?_
  constructor
  · intro hfound
    obtain hmem | ⟨hnone, -⟩ := hfound
    · exact h.only _ (List.mem_of_mem_take hmem)
    · exact absurd hnone h.answered
  · intro htaken
    left
    rw [htaken, ← h.head]
    show x.test.keyboardBytes.headD 0 ∈ x.test.keyboardBytes.take 4
    cases hbytes : x.test.keyboardBytes with
    | nil => exact absurd hbytes h.answered
    | cons b bs => exact List.mem_cons_self

/-- With undisturbed tests no other writer of the register is overwritten. -/
theorem modifies_undisturbed (d : PS2DeviceType) (setBits clearBits : UInt8) {xs : List Round}
    (h : ∀ x ∈ xs, x.test.Undisturbed) :
    ∀ w ∈ writtenOver (setCommandByte d setBits clearBits xs), Modifies setBits clearBits w.1 w.2 := by
  rw [setCommandByte_modifies_iff]
  intro x hx
  have hpasses := List.find?_some hx
  rw [((passes_undisturbed (h x (List.mem_of_find?_eq_some hx))).1 hpasses).2]

/-- With undisturbed reads and a register that settles, the loop ends just when the hardware
is not offline. -/
theorem ends_iff_online (d : PS2DeviceType) (setBits clearBits : UInt8) {rounds : Nat → Round} {offline : Bool}
    (hread : ∀ n, (rounds n).read.Undisturbed) (htest : ∀ n, (rounds n).test.Undisturbed)
    (hoffline : ∀ n, (rounds n).read.hardwareOffline = offline ∧ (rounds n).test.hardwareOffline = offline)
    (hsettles : Settles rounds) :
    (∃ n, Ends (setCommandByte d setBits clearBits ((List.range n).map rounds))) ↔ offline = false := by
  rw [setCommandByte_ends_iff]
  constructor
  · rintro ⟨n, hpasses⟩
    rw [← (hoffline n).2]
    exact ((passes_undisturbed (htest n)).1 hpasses).1
  · intro honline
    obtain ⟨n, register, hregister⟩ := hsettles
    obtain ⟨hbefore, hafter⟩ := hregister n (Nat.le_refl n)
    refine ⟨n, (passes_undisturbed (htest n)).2 ⟨(hoffline n).2.trans honline, ?_⟩⟩
    rw [Round.taken, (hoffline n).1, honline, if_neg (by decide), (hread n).head, hbefore, hafter]

end ApplePS2
