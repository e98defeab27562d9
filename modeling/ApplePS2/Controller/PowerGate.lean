import ApplePS2.Controller.Power
import ApplePS2.Flags

/- The request gate over power transitions (`setPowerStateGated`).

   `_hardwareOffline` gates the requests and `_currentPowerState` decides which
   transition an ordinal performs. A bad ordinal has no transition of its own but
   is stored, so that one that arrives in sleep hides the sleep from the next
   valid ordinal. `powerGate_iff`: over every sequence of ordinals the gate does
   what it should exactly when no bad ordinal arrives in sleep. -/
namespace ApplePS2

/-- The ordinals that `setPowerStateGated` knows. -/
def ValidOrdinal (powerState : UInt32) : Prop := powerState < kPS2PowerStateCount

instance (powerState : UInt32) : Decidable (ValidOrdinal powerState) :=
  inferInstanceAs (Decidable (powerState < kPS2PowerStateCount))

def Working (powerState : UInt32) : Prop :=
  powerState = kPS2PowerStateDoze ∨ powerState = kPS2PowerStateNormal

/-- The last valid ordinal, after one more call. -/
def nextValid (last powerState : UInt32) : UInt32 := if ValidOrdinal powerState then powerState else last

/-- The last valid ordinal after some calls; the controller starts as normal. -/
def lastValid (last : UInt32) (calls : List UInt32) : UInt32 := calls.foldl nextValid last

def runPower (s : Controller) (calls : List UInt32) : Controller :=
  calls.foldl (fun s o => s.setPowerStateGated o) s

/-- The stages of the wake-up sequence. -/
inductive WakeStage where
  | portEnabled
  | online
  | devicesEnabled
  deriving DecidableEq, Repr

/-- The bits that enable the port: both interrupts on, both clocks running. -/
def kCB_PortBits : UInt8 :=
  kCB_EnableKeyboardIRQ ||| kCB_EnableMouseIRQ ||| kCB_DisableKeyboardClock ||| kCB_DisableMouseClock

def PowerEvent.stage : PowerEvent → Option WakeStage
  | .commandByte v =>
    if v &&& kCB_PortBits = kCB_EnableKeyboardIRQ ||| kCB_EnableMouseIRQ then some .portEnabled else none
  | .hardwareOffline b => if b then none else some .online
  | .powerControl w => if w = .kPS2C_EnableDevice then some .devicesEnabled else none

/-- The stages of a wake-up run so far. -/
def Controller.stages (s : Controller) : List WakeStage := s.log.filterMap PowerEvent.stage

/-- What a call in state `s` should do, `last` being the last valid ordinal. -/
structure CallHolds (last : UInt32) (s : Controller) (powerState : UInt32) : Prop where
  offline : (s.setPowerStateGated powerState).hardwareOffline = true ↔
    nextValid last powerState = kPS2PowerStateSleep
  bad : ¬ ValidOrdinal powerState →
    (s.setPowerStateGated powerState).hardwareOffline = s.hardwareOffline ∧
    ∀ o, ValidOrdinal o →
      (s.setPowerStateGated powerState).setPowerStateGated o = s.setPowerStateGated o
  wakes : last = kPS2PowerStateSleep → Working powerState →
    (s.setPowerStateGated powerState).stages = s.stages ++ [.portEnabled, .online, .devicesEnabled]

/-- Every call of a run does what it should. -/
def PowerGate (last : UInt32) (s : Controller) (calls : List UInt32) : Prop :=
  ∀ pre o post, calls = pre ++ o :: post → CallHolds (lastValid last pre) (runPower s pre) o

/-- No bad ordinal arrives while the last valid one is `kPS2PowerStateSleep`. -/
def NoBadInSleep (last : UInt32) (calls : List UInt32) : Prop :=
  ∀ pre o post, calls = pre ++ o :: post → lastValid last pre = kPS2PowerStateSleep → ValidOrdinal o

theorem splits_cons {α : Type} {P : List α → α → Prop} (x : α) (xs : List α) :
    (∀ pre o post, x :: xs = pre ++ o :: post → P pre o) ↔
      P [] x ∧ ∀ pre o post, xs = pre ++ o :: post → P (x :: pre) o := by
  constructor
  · intro h
    exact ⟨h [] x xs rfl, fun pre o post hp => h (x :: pre) o post (congrArg (x :: ·) hp)⟩
  · rintro ⟨h₀, h⟩ (_ | ⟨y, pre⟩) o post hp
    · obtain ⟨rfl, rfl⟩ := List.cons.inj hp
      exact h₀
    · obtain ⟨rfl, hrest⟩ := List.cons.inj hp
      exact h pre o post hrest

theorem powerGate_cons (last : UInt32) (s : Controller) (o : UInt32) (calls : List UInt32) :
    PowerGate last s (o :: calls) ↔
      CallHolds last s o ∧ PowerGate (nextValid last o) (s.setPowerStateGated o) calls :=
  splits_cons (P := fun pre o => CallHolds (lastValid last pre) (runPower s pre) o) o calls

theorem noBadInSleep_cons (last : UInt32) (o : UInt32) (calls : List UInt32) :
    NoBadInSleep last (o :: calls) ↔
      (last = kPS2PowerStateSleep → ValidOrdinal o) ∧ NoBadInSleep (nextValid last o) calls :=
  splits_cons (P := fun pre o => lastValid last pre = kPS2PowerStateSleep → ValidOrdinal o) o calls

/-! The five things a call can do. -/

theorem validOrdinal_cases {o : UInt32} (h : ValidOrdinal o) : o = kPS2PowerStateSleep ∨ Working o := by
  simp only [ValidOrdinal, Working, kPS2PowerStateCount, kPS2PowerStateSleep, kPS2PowerStateDoze,
    kPS2PowerStateNormal, UInt32.lt_iff_toNat_lt, ← UInt32.toNat_inj] at h ⊢
  simp at h ⊢
  omega

theorem Working.ne_sleep {o : UInt32} (h : Working o) : o ≠ kPS2PowerStateSleep := by
  rcases h with rfl | rfl <;> decide

theorem Working.valid {o : UInt32} (h : Working o) : ValidOrdinal o := by
  rcases h with rfl | rfl <;> decide

theorem bad_ne_sleep {o : UInt32} (h : ¬ ValidOrdinal o) : o ≠ kPS2PowerStateSleep := by
  rintro rfl
  exact h (by decide)

theorem bad_not_working {o : UInt32} (h : ¬ ValidOrdinal o) : ¬ Working o := fun hw => h hw.valid

namespace Controller

theorem setPowerStateGated_bad {o : UInt32} (h : ¬ ValidOrdinal o) (s : Controller) :
    s.setPowerStateGated o = { s with currentPowerState := o } := by
  have hw : ¬ (o = kPS2PowerStateDoze ∨ o = kPS2PowerStateNormal) := bad_not_working h
  by_cases hcur : s.currentPowerState = o
  · simp [setPowerStateGated, ← hcur]
  · simp [setPowerStateGated, hcur, bad_ne_sleep h, hw]

theorem setPowerStateGated_sleep {s : Controller} (hs : s.currentPowerState ≠ kPS2PowerStateSleep) :
    s.setPowerStateGated kPS2PowerStateSleep = { s.sleep with currentPowerState := kPS2PowerStateSleep } := by
  simp [setPowerStateGated, hs]

theorem setPowerStateGated_asleep {s : Controller} (hs : s.currentPowerState = kPS2PowerStateSleep) :
    s.setPowerStateGated kPS2PowerStateSleep = s := by
  simp [setPowerStateGated, hs]

theorem setPowerStateGated_working {o : UInt32} (h : Working o) {s : Controller}
    (hs : s.currentPowerState ≠ kPS2PowerStateSleep) :
    s.setPowerStateGated o = { s with currentPowerState := o } := by
  have hw : o = kPS2PowerStateDoze ∨ o = kPS2PowerStateNormal := h
  by_cases hcur : s.currentPowerState = o
  · simp [setPowerStateGated, ← hcur]
  · simp [setPowerStateGated, hcur, h.ne_sleep, hw, hs]

theorem setPowerStateGated_wake {o : UInt32} (h : Working o) {s : Controller}
    (hs : s.currentPowerState = kPS2PowerStateSleep) :
    s.setPowerStateGated o = { s.wake with currentPowerState := o } := by
  have hw : o = kPS2PowerStateDoze ∨ o = kPS2PowerStateNormal := h
  simp [setPowerStateGated, hs, h.ne_sleep, h.ne_sleep.symm, hw]

/-! The stages of the wake-up sequence. -/

theorem stage_resetByte (v : UInt8) : (PowerEvent.commandByte (resetByte v)).stage = none := by
  have hne : resetByte v &&& kCB_PortBits ≠ kCB_EnableKeyboardIRQ ||| kCB_EnableMouseIRQ := by
    intro h
    -- the mouse interrupt bit is off on the left and on on the right
    have hbit := congrArg (· &&& kCB_EnableMouseIRQ) h
    have hoff : (resetByte v &&& kCB_PortBits) &&& kCB_EnableMouseIRQ = 0 := by
      rw [resetByte, UInt8.and_assoc, UInt8.and_assoc]
      exact UInt8.and_zero
    rw [hoff] at hbit
    revert hbit
    decide
  simp [PowerEvent.stage, hne]

theorem stage_enabledByte (v : UInt8) :
    (PowerEvent.commandByte (enabledByte v)).stage = some .portEnabled := by
  have h : enabledByte v &&& kCB_PortBits = kCB_EnableKeyboardIRQ ||| kCB_EnableMouseIRQ := by
    have hclock : ~~~(kCB_DisableKeyboardClock ||| kCB_DisableMouseClock) &&& kCB_PortBits =
        kCB_EnableKeyboardIRQ ||| kCB_EnableMouseIRQ := by decide
    have hirq : (kCB_EnableKeyboardIRQ ||| kCB_EnableMouseIRQ) &&& kCB_PortBits =
        kCB_EnableKeyboardIRQ ||| kCB_EnableMouseIRQ := by decide
    rw [enabledByte, Flags.or_and_right, UInt8.and_assoc, hclock, hirq, Flags.and_or_self]
  simp [PowerEvent.stage, h]

theorem prepareWake_stages (s : Controller) : s.prepareWake.stages = s.stages := by
  have hreset : s.resetPS2Controller.stages = s.stages := by
    simp [stages, resetPS2Controller_eq, stage_resetByte]
  simp only [prepareWake]
  split
  · rw [← hreset, stages, (detectMuxModeSupport_spec _).log, stages, List.filterMap_append]
    split
    · have hstage : (PowerEvent.commandByte kCB_DisableMouseClock).stage = none := by decide
      simp [hstage]
    · simp
  · exact hreset

theorem wake_stages (s : Controller) :
    s.wake.stages = s.stages ++ [.portEnabled, .online, .devicesEnabled] := by
  rw [← prepareWake_stages s]
  simp [wake, stages, setHardwareOffline, dispatchDriverPowerControl, record, enablePort_eq,
    stage_enabledByte]
  rfl

end Controller

/-! The gate. -/

/-- Both variables agree with the last valid ordinal. -/
structure GateInv (last : UInt32) (s : Controller) : Prop where
  current : s.currentPowerState = kPS2PowerStateSleep ↔ last = kPS2PowerStateSleep
  offline : s.hardwareOffline = true ↔ last = kPS2PowerStateSleep

/-- The part of `start` that talks to the hardware touches neither. -/
theorem start_same (s : Controller) :
    s.start.currentPowerState = s.currentPowerState ∧ s.start.hardwareOffline = s.hardwareOffline := by
  have hd := (s.resetPS2Controller.writeDataPort kDP_Reset).readDataPort.2.detectMuxModeSupport_spec
  have hr : (s.resetPS2Controller.writeDataPort kDP_Reset).readDataPort.2.currentPowerState =
      s.currentPowerState ∧
      (s.resetPS2Controller.writeDataPort kDP_Reset).readDataPort.2.hardwareOffline = s.hardwareOffline := by
    simp [Controller.resetPS2Controller_eq, Controller.writeDataPort, Controller.readDataPort]
  exact ⟨hd.currentPowerState.trans hr.1, hd.hardwareOffline.trans hr.2⟩

theorem gateInv_start (commandByte : UInt8) (answers : List UInt8) :
    GateInv kPS2PowerStateNormal (Controller.init commandByte answers).start := by
  obtain ⟨hcur, hoff⟩ := start_same (Controller.init commandByte answers)
  constructor
  · rw [hcur]
    rfl
  · rw [hoff]
    simp [Controller.init, kPS2PowerStateNormal, kPS2PowerStateSleep]

/-- A valid ordinal becomes the last one, and a wake-up runs its stages. -/
theorem gateInv_valid {last : UInt32} {s : Controller} (h : GateInv last s) {o : UInt32}
    (hv : ValidOrdinal o) :
    GateInv o (s.setPowerStateGated o) ∧ (last = kPS2PowerStateSleep → Working o →
      (s.setPowerStateGated o).stages = s.stages ++ [.portEnabled, .online, .devicesEnabled]) := by
  obtain ⟨hcur, hoff⟩ := h
  by_cases hsleep : s.currentPowerState = kPS2PowerStateSleep
  · rcases validOrdinal_cases hv with rfl | hw
    · rw [Controller.setPowerStateGated_asleep hsleep]
      refine ⟨⟨by simp [hsleep], by simpa using hoff.mpr (hcur.mp hsleep)⟩, ?_⟩
      intro _ hw
      exact absurd rfl hw.ne_sleep
    · rw [Controller.setPowerStateGated_wake hw hsleep]
      have honline : s.wake.hardwareOffline = false := by
        simp [Controller.wake, Controller.setHardwareOffline, Controller.dispatchDriverPowerControl,
          Controller.record]
      refine ⟨⟨Iff.rfl, ?_⟩, fun _ _ => Controller.wake_stages s⟩
      exact ⟨fun h => absurd h (by simp [honline]), fun h => absurd h hw.ne_sleep⟩
  · rcases validOrdinal_cases hv with rfl | hw
    · rw [Controller.setPowerStateGated_sleep hsleep]
      refine ⟨⟨Iff.rfl, ?_⟩, fun _ hw => absurd rfl hw.ne_sleep⟩
      simp [Controller.sleep, Controller.setHardwareOffline, Controller.record]
    · rw [Controller.setPowerStateGated_working hw hsleep]
      have hlast : last ≠ kPS2PowerStateSleep := by
        intro h
        exact hsleep (hcur.mpr h)
      refine ⟨⟨Iff.rfl, ?_⟩, fun h => absurd h hlast⟩
      exact hoff.trans ⟨fun h => absurd h hlast, fun h => absurd h hw.ne_sleep⟩

/-- A bad ordinal outside sleep has no effect, now or on the next call. -/
theorem callHolds_bad {last : UInt32} {s : Controller} (h : GateInv last s) {o : UInt32}
    (hv : ¬ValidOrdinal o) (hlast : last ≠ kPS2PowerStateSleep) :
    GateInv last (s.setPowerStateGated o) ∧ CallHolds last s o := by
  obtain ⟨hcur, hoff⟩ := h
  have hnext : nextValid last o = last := if_neg hv
  have hsleep : s.currentPowerState ≠ kPS2PowerStateSleep := by
    intro h
    exact hlast (hcur.mp h)
  have hbad := Controller.setPowerStateGated_bad hv s
  refine ⟨⟨?_, ?_⟩, ⟨?_, fun _ => ⟨?_, ?_⟩, fun h => absurd h hlast⟩⟩
  · rw [hbad]
    exact ⟨fun h => absurd h (bad_ne_sleep hv), fun h => absurd h hlast⟩
  · rw [hbad]
    exact hoff
  · rw [hbad, hnext]
    exact hoff
  · rw [hbad]
  · intro o' hv'
    rw [hbad]
    have hsleep' : ({ s with currentPowerState := o } : Controller).currentPowerState ≠
        kPS2PowerStateSleep := bad_ne_sleep hv
    rcases validOrdinal_cases hv' with rfl | hw
    · rw [Controller.setPowerStateGated_sleep hsleep', Controller.setPowerStateGated_sleep hsleep]
      rfl
    · rw [Controller.setPowerStateGated_working hw hsleep', Controller.setPowerStateGated_working hw hsleep]

/-- One call from a state that agrees, if it is not a bad ordinal in sleep. -/
theorem gateInv_step {last : UInt32} {s : Controller} (h : GateInv last s) {o : UInt32}
    (ho : last = kPS2PowerStateSleep → ValidOrdinal o) :
    GateInv (nextValid last o) (s.setPowerStateGated o) ∧ CallHolds last s o := by
  by_cases hv : ValidOrdinal o
  · have hnext : nextValid last o = o := if_pos hv
    obtain ⟨hinv, hwake⟩ := gateInv_valid h hv
    rw [hnext]
    refine ⟨hinv, ?_, fun hbad => absurd hv hbad, hwake⟩
    rw [hnext]
    exact hinv.offline
  · have hnext : nextValid last o = last := if_neg hv
    rw [hnext]
    apply callHolds_bad h hv
    intro hlast
    exact hv (ho hlast)

/-- A bad ordinal in sleep hides the sleep: the next working ordinal does not wake. -/
theorem bad_in_sleep {last : UInt32} {s : Controller} (h : GateInv last s)
    (hlast : last = kPS2PowerStateSleep) {o : UInt32} (ho : ¬ ValidOrdinal o) : ¬ CallHolds last s o := by
  intro hc
  have hsleep := h.current.mpr hlast
  have hw : Working kPS2PowerStateNormal := .inr rfl
  have hnext := congrArg Controller.hardwareOffline ((hc.bad ho).2 _ hw.valid)
  rw [Controller.setPowerStateGated_bad ho, Controller.setPowerStateGated_wake hw hsleep,
    Controller.setPowerStateGated_working hw (bad_ne_sleep ho)] at hnext
  have hoff : s.hardwareOffline = false := hnext
  rw [h.offline.mpr hlast] at hoff
  cases hoff

theorem powerGate_iff_of_inv (calls : List UInt32) {last : UInt32} {s : Controller} (h : GateInv last s) :
    PowerGate last s calls ↔ NoBadInSleep last calls := by
  induction calls generalizing last s with
  | nil => simp [PowerGate, NoBadInSleep]
  | cons o calls ih =>
    rw [powerGate_cons, noBadInSleep_cons]
    by_cases ho : last = kPS2PowerStateSleep → ValidOrdinal o
    · obtain ⟨hnext, hcall⟩ := gateInv_step h ho
      rw [ih hnext]
      constructor
      · intro h
        exact ⟨ho, h.2⟩
      · intro h
        exact ⟨hcall, h.2⟩
    · obtain ⟨hlast, hbad⟩ := Classical.not_imp.mp ho
      constructor
      · intro h'
        exact absurd h'.1 (bad_in_sleep h hlast hbad)
      · intro h'
        exact absurd h'.1 ho

/-- From the state set up by `start`, over any sequence of ordinals, the gate
follows the last valid ordinal, bad ordinals are without effect and every wake-up
runs once, exactly when no bad ordinal arrives in sleep. -/
theorem powerGate_iff (commandByte : UInt8) (answers : List UInt8) (calls : List UInt32) :
    PowerGate kPS2PowerStateNormal (Controller.init commandByte answers).start calls ↔
      NoBadInSleep kPS2PowerStateNormal calls :=
  powerGate_iff_of_inv calls (gateInv_start commandByte answers)

/-- Sleep, a bad ordinal, and a wake-up that does not happen: the port is offline
while the last valid ordinal is `kPS2PowerStateNormal`. -/
theorem powerGate_fails :
    (runPower (Controller.init 0x47 []).start [kPS2PowerStateSleep, 3, kPS2PowerStateNormal]).hardwareOffline
      = true ∧
    lastValid kPS2PowerStateNormal [kPS2PowerStateSleep, 3, kPS2PowerStateNormal] = kPS2PowerStateNormal ∧
    ¬ PowerGate kPS2PowerStateNormal (Controller.init 0x47 []).start
      [kPS2PowerStateSleep, 3, kPS2PowerStateNormal] := by
  refine ⟨by decide, by decide, ?_⟩
  intro h
  have hcall := h [kPS2PowerStateSleep, 3] kPS2PowerStateNormal [] rfl
  exact absurd (hcall.offline.mp (by decide)) (by decide)

end ApplePS2
