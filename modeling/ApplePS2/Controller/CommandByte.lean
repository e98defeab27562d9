import ApplePS2.Controller.PowerGate

/- The controller's command byte over set-up, probe and wake-up.

   The reset and the wake-up read the register, change the clock and interrupt
   bits and write it back. The probe, when it finds a multiplexing controller,
   writes a byte made from 0 instead. `runSetup_kept_iff`: over every sequence of
   these steps the other bits keep their initial value exactly when they were all
   clear, or no probe of the sequence succeeds. -/
namespace ApplePS2

/-- The bits that are not one of the two clock and the two interrupt bits. -/
def kCB_KeptBits : UInt8 := ~~~kCB_PortBits

/-- One step, with the hardware's answers during it. -/
inductive SetupStep where
  | reset (answers : List UInt8)
  | detect (answers : List UInt8)
  | power (powerState : UInt32) (answers : List UInt8)
  deriving DecidableEq, Repr

namespace Controller

def answering (answers : List UInt8) (s : Controller) : Controller :=
  { s with hardware := { s.hardware with answers := answers } }

def perform (s : Controller) : SetupStep → Controller
  | .reset answers => (s.answering answers).resetPS2Controller
  | .detect answers => (s.answering answers).detectMuxModeSupport
  | .power powerState answers => (s.answering answers).setPowerStateGated powerState

/-- The values written to the register. -/
def written (s : Controller) : List UInt8 :=
  s.log.filterMap fun | .commandByte v => some v | _ => none

end Controller

def runSetup (s : Controller) (steps : List SetupStep) : Controller := steps.foldl Controller.perform s

/-- Every value written to the register, and the register, agree with the initial
value outside the clock and interrupt bits. -/
def Kept (initial : UInt8) (s : Controller) : Prop :=
  ∀ v ∈ s.hardware.commandByte :: s.written, v &&& kCB_KeptBits = initial &&& kCB_KeptBits

namespace Controller

theorem resetByte_kept (v : UInt8) : resetByte v &&& kCB_KeptBits = v &&& kCB_KeptBits := by
  have h : ~~~(kCB_EnableMouseIRQ ||| kCB_DisableMouseClock) &&& kCB_KeptBits = kCB_KeptBits := by decide
  rw [resetByte, UInt8.and_assoc, h]

theorem enabledByte_kept (v : UInt8) : enabledByte v &&& kCB_KeptBits = v &&& kCB_KeptBits := by
  have hclock : ~~~(kCB_DisableKeyboardClock ||| kCB_DisableMouseClock) &&& kCB_KeptBits =
      kCB_KeptBits := by decide
  have hirq : (kCB_EnableKeyboardIRQ ||| kCB_EnableMouseIRQ) &&& kCB_KeptBits = 0 := by decide
  rw [enabledByte, Flags.or_kept hirq, UInt8.and_assoc, hclock]

/-! What one routine writes. -/

/-- From `s` to `s'` only values that agree with the register of `s` outside the
clock and interrupt bits are written. -/
structure KeepsFrom (s s' : Controller) : Prop where
  register : s'.hardware.commandByte &&& kCB_KeptBits = s.hardware.commandByte &&& kCB_KeptBits
  written : ∀ v ∈ s'.written, v ∈ s.written ∨ v &&& kCB_KeptBits = s.hardware.commandByte &&& kCB_KeptBits

theorem KeepsFrom.trans {a b c : Controller} (h : KeepsFrom a b) (h' : KeepsFrom b c) : KeepsFrom a c := by
  refine ⟨h'.register.trans h.register, ?_⟩
  intro v hv
  rcases h'.written v hv with hv | hv
  · exact h.written v hv
  · exact .inr (hv.trans h.register)

/-- One value written. -/
theorem keepsFrom_write {s s' : Controller} (v : UInt8) (hreg : s'.hardware.commandByte = v)
    (hlog : s'.log = s.log ++ [.commandByte v])
    (hv : v &&& kCB_KeptBits = s.hardware.commandByte &&& kCB_KeptBits) : KeepsFrom s s' := by
  refine ⟨by rw [hreg, hv], ?_⟩
  intro w hw
  simp only [Controller.written, hlog, List.filterMap_append, List.mem_append] at hw
  rcases hw with hw | hw
  · exact .inl hw
  · obtain rfl : w = v := by simpa using hw
    exact .inr hv

/-- Nothing written. -/
theorem keepsFrom_same {s s' : Controller} (hreg : s'.hardware.commandByte = s.hardware.commandByte)
    (hlog : s'.written = s.written) : KeepsFrom s s' :=
  ⟨by rw [hreg], fun v hv => .inl (hlog ▸ hv)⟩

theorem keepsFrom_reset (s : Controller) : KeepsFrom s s.resetPS2Controller := by
  rw [resetPS2Controller_eq]
  exact keepsFrom_write _ rfl rfl (resetByte_kept _)

theorem keepsFrom_enablePort (s : Controller) : KeepsFrom s s.enablePort := by
  rw [enablePort_eq]
  exact keepsFrom_write _ rfl rfl (enabledByte_kept _)

/-- The probe, where it fails or has nothing to lose. -/
theorem keepsFrom_detect {s : Controller} (h : s.hardware.commandByte &&& kCB_KeptBits = 0 ∨
    probeSucceeds s.hardware.answers = false) : KeepsFrom s s.detectMuxModeSupport := by
  have hd := s.detectMuxModeSupport_spec
  cases hp : probeSucceeds s.hardware.answers with
  | true =>
    have hzero := h.resolve_right (by simp [hp])
    refine keepsFrom_write kCB_DisableMouseClock (by rw [hd.commandByte, hp]; rfl)
      (by rw [hd.log, hp]; rfl) ?_
    rw [hzero]
    decide
  | false =>
    refine keepsFrom_same (by rw [hd.commandByte, hp]; rfl) ?_
    simp [Controller.written, hd.log, hp]

theorem keepsFrom_wake {s : Controller} (h : s.hardware.commandByte &&& kCB_KeptBits = 0 ∨
    s.mux.controllerUsesMuxMode = false) : KeepsFrom s s.wake := by
  have hprepare : KeepsFrom s s.prepareWake := by
    have hreset := keepsFrom_reset s
    simp only [prepareWake]
    split
    · next hmux =>
      refine hreset.trans (keepsFrom_detect (.inl ?_))
      rw [resetPS2Controller_eq] at hmux
      rw [hreset.register]
      exact h.resolve_right (by simpa using hmux)
    · exact hreset
  refine (hprepare.trans (keepsFrom_enablePort _)).trans (keepsFrom_same rfl ?_)
  simp [Controller.written, wake, setHardwareOffline, dispatchDriverPowerControl, record]

/-- What a power call comes down to. -/
theorem setPowerStateGated_cases (o : UInt32) (s : Controller) :
    ∃ s', s.setPowerStateGated o = { s' with currentPowerState := o } ∧
      (s' = s ∨ s' = s.sleep ∨ s' = s.wake) := by
  by_cases hv : ValidOrdinal o
  · by_cases hsleep : s.currentPowerState = kPS2PowerStateSleep
    · rcases validOrdinal_cases hv with rfl | hw
      · refine ⟨s, ?_, .inl rfl⟩
        rw [setPowerStateGated_asleep hsleep, ← hsleep]
      · exact ⟨s.wake, setPowerStateGated_wake hw hsleep, .inr (.inr rfl)⟩
    · rcases validOrdinal_cases hv with rfl | hw
      · exact ⟨s.sleep, setPowerStateGated_sleep hsleep, .inr (.inl rfl)⟩
      · exact ⟨s, setPowerStateGated_working hw hsleep, .inl rfl⟩
  · exact ⟨s, setPowerStateGated_bad hv s, .inl rfl⟩

theorem keepsFrom_sleep (s : Controller) : KeepsFrom s s.sleep := by
  refine keepsFrom_same rfl ?_
  simp [Controller.written, sleep, setHardwareOffline, dispatchDriverPowerControl, record]

theorem keepsFrom_power {s : Controller} (h : s.hardware.commandByte &&& kCB_KeptBits = 0 ∨
    s.mux.controllerUsesMuxMode = false) (o : UInt32) : KeepsFrom s (s.setPowerStateGated o) := by
  obtain ⟨s', hs', hcases⟩ := setPowerStateGated_cases o s
  have hkeep : KeepsFrom s s' := by
    rcases hcases with rfl | rfl | rfl
    · exact keepsFrom_same rfl rfl
    · exact keepsFrom_sleep s
    · exact keepsFrom_wake h
  rw [hs']
  exact hkeep.trans (keepsFrom_same rfl rfl)

/-! The log only grows, and a wake-up does not turn multiplexing on by itself. -/

theorem prepareWake_legacy {s : Controller} (h : s.mux.controllerUsesMuxMode = false) :
    s.prepareWake = s.resetPS2Controller := by
  simp [prepareWake, resetPS2Controller_eq, h]

theorem power_legacy {s : Controller} (h : s.mux.controllerUsesMuxMode = false) (o : UInt32) :
    (s.setPowerStateGated o).mux.controllerUsesMuxMode = false := by
  obtain ⟨s', hs', hcases⟩ := setPowerStateGated_cases o s
  rw [hs']
  rcases hcases with rfl | rfl | rfl
  · exact h
  · exact h
  · simpa [wake, prepareWake_legacy h, enablePort_eq, resetPS2Controller_eq, setHardwareOffline,
      dispatchDriverPowerControl, record] using h

theorem log_prepareWake (s : Controller) : s.log ⊆ s.prepareWake.log := by
  have hreset : s.log ⊆ s.resetPS2Controller.log := by
    rw [resetPS2Controller_eq]
    exact List.subset_append_left _ _
  simp only [prepareWake]
  split
  · rw [(detectMuxModeSupport_spec _).log]
    exact List.Subset.trans hreset (List.subset_append_left _ _)
  · exact hreset

theorem log_power (s : Controller) (o : UInt32) : s.log ⊆ (s.setPowerStateGated o).log := by
  obtain ⟨s', hs', hcases⟩ := setPowerStateGated_cases o s
  rw [hs']
  rcases hcases with rfl | rfl | rfl
  · exact fun _ h => h
  · exact List.Subset.trans (List.subset_append_left _ _) (List.subset_append_left _ _)
  · refine List.Subset.trans (log_prepareWake s) ?_
    simp only [wake, enablePort_eq, setHardwareOffline, dispatchDriverPowerControl, record, List.append_assoc]
    exact List.subset_append_left _ _

theorem log_perform (s : Controller) (step : SetupStep) : s.log ⊆ (s.perform step).log := by
  cases step with
  | reset answers =>
    simp only [perform, resetPS2Controller_eq]
    exact List.subset_append_left _ _
  | detect answers =>
    simp only [perform, (detectMuxModeSupport_spec _).log]
    exact List.subset_append_left _ _
  | power o answers => exact log_power (s.answering answers) o

end Controller

theorem log_runSetup (steps : List SetupStep) (s : Controller) : s.log ⊆ (runSetup s steps).log := by
  induction steps generalizing s with
  | nil => exact fun _ h => h
  | cons step steps ih =>
    intro e he
    apply ih
    exact s.log_perform step he

/-! Runs. -/

/-- A step of the set-up is not a probe that succeeds. -/
def SetupStep.Legacy : SetupStep → Prop
  | .detect answers => probeSucceeds answers = false
  | .reset _ => True
  | .power _ _ => True

/-- What a run keeps: no value written differs, and either nothing can be lost or
multiplexing is not in use. -/
structure KeptInv (initial : UInt8) (s : Controller) : Prop where
  kept : Kept initial s
  safe : initial &&& kCB_KeptBits = 0 ∨ s.mux.controllerUsesMuxMode = false

theorem Kept.step {initial : UInt8} {s s' : Controller} (h : Kept initial s)
    (hstep : Controller.KeepsFrom s s') : Kept initial s' := by
  have hreg := h _ List.mem_cons_self
  intro v hv
  rcases List.mem_cons.mp hv with rfl | hv
  · rw [hstep.register, hreg]
  · rcases hstep.written v hv with hv | hv
    · exact h v (List.mem_cons_of_mem _ hv)
    · rw [hv, hreg]

theorem keptInv_answering {initial : UInt8} {s : Controller} (h : KeptInv initial s)
    (answers : List UInt8) : KeptInv initial (s.answering answers) := ⟨h.kept, h.safe⟩

theorem keptInv_step {initial : UInt8} {s : Controller} (h : KeptInv initial s) {step : SetupStep}
    (hstep : initial &&& kCB_KeptBits = 0 ∨ step.Legacy) : KeptInv initial (s.perform step) := by
  cases step with
  | reset answers =>
    have ha := keptInv_answering h answers
    refine ⟨ha.kept.step (Controller.keepsFrom_reset _), ?_⟩
    rw [Controller.perform, Controller.resetPS2Controller_eq]
    exact ha.safe
  | detect answers =>
    have ha := keptInv_answering h answers
    have hreg := ha.kept _ List.mem_cons_self
    refine ⟨ha.kept.step (Controller.keepsFrom_detect ?_), ?_⟩
    · exact hstep.imp hreg.trans id
    · exact hstep.imp id (Controller.detectMuxModeSupport_spec _).usesMux.trans
  | power o answers =>
    have ha := keptInv_answering h answers
    have hreg := ha.kept _ List.mem_cons_self
    refine ⟨ha.kept.step (Controller.keepsFrom_power ?_ o), ?_⟩
    · exact ha.safe.imp hreg.trans id
    · exact ha.safe.imp id fun hlegacy => Controller.power_legacy hlegacy o

theorem keptInv_run {initial : UInt8} (steps : List SetupStep) (s : Controller) (h : KeptInv initial s)
    (hsteps : initial &&& kCB_KeptBits = 0 ∨ ∀ step ∈ steps, step.Legacy) :
    KeptInv initial (runSetup s steps) := by
  induction steps generalizing s with
  | nil => exact h
  | cons step steps ih =>
    have hfirst : initial &&& kCB_KeptBits = 0 ∨ step.Legacy :=
      hsteps.imp id fun hl => hl step List.mem_cons_self
    apply ih
    · exact keptInv_step h hfirst
    · exact hsteps.imp id fun hl step hmem => hl step (List.mem_cons_of_mem _ hmem)

/-- A probe that succeeds writes a byte without the kept bits. -/
theorem written_of_probe {answers : List UInt8} (h : probeSucceeds answers = true) (steps : List SetupStep)
    (s : Controller) (hmem : .detect answers ∈ steps) :
    kCB_DisableMouseClock ∈ (runSetup s steps).written := by
  induction steps generalizing s with
  | nil => cases hmem
  | cons step steps ih =>
    rcases List.mem_cons.mp hmem with rfl | hmem
    · have hd := (s.answering answers).detectMuxModeSupport_spec.log
      have hprobe : probeSucceeds (s.answering answers).hardware.answers = true := h
      rw [hprobe] at hd
      have hlog : .commandByte kCB_DisableMouseClock ∈ (s.perform (.detect answers)).log := by
        rw [Controller.perform, hd]
        simp
      exact List.mem_filterMap.mpr ⟨_, log_runSetup steps _ hlog, rfl⟩
    · exact ih (s.perform step) hmem

/-- Over every sequence of resets, probes and power calls the bits other than the
clock and interrupt bits keep their initial value exactly when there is nothing
to lose, or no probe of the sequence finds a multiplexing controller. -/
theorem runSetup_kept_iff (initial : UInt8) (answers : List UInt8) (steps : List SetupStep) :
    Kept initial (runSetup (Controller.init initial answers) steps) ↔
      initial &&& kCB_KeptBits = 0 ∨ ∀ step ∈ steps, step.Legacy := by
  constructor
  · intro h
    by_cases hzero : initial &&& kCB_KeptBits = 0
    · exact .inl hzero
    · refine .inr ?_
      intro step hmem
      cases step with
      | reset _ => trivial
      | power _ _ => trivial
      | detect a =>
        cases hp : probeSucceeds a with
        | false => exact hp
        | true =>
          have hw := h _ (List.mem_cons_of_mem _ (written_of_probe hp steps _ hmem))
          exact absurd hw.symm hzero
  · intro h
    refine (keptInv_run steps _ ⟨?_, .inr rfl⟩ h).kept
    intro v hv
    obtain rfl : v = initial := by simpa [Controller.written, Controller.init] using hv
    rfl

/-- A multiplexing controller with the touchpad on the first port. -/
def muxAnswers : List UInt8 := [0xF0, 0x56, 0x11, 0xFA]

/-- The set-up of `start` over such a controller: the translate bit and the system
flag of the command byte are gone. -/
theorem runSetup_loses :
    (runSetup (Controller.init 0x47 []) [.reset [], .detect muxAnswers]).hardware.commandByte = 0x20 ∧
    ¬ Kept 0x47 (runSetup (Controller.init 0x47 []) [.reset [], .detect muxAnswers]) := by
  have h : (runSetup (Controller.init 0x47 []) [.reset [], .detect muxAnswers]).hardware.commandByte = 0x20 := by
    decide
  refine ⟨h, ?_⟩
  intro hk
  have hreg := hk _ List.mem_cons_self
  rw [h] at hreg
  revert hreg
  decide

end ApplePS2
