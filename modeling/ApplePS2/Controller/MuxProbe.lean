import ApplePS2.Transition
import ApplePS2.Controller.Power

/- The multiplexing probe and the mode of the hardware (`setMuxMode`).

   The hardware is taken to enter active multiplexing mode when it answers the third
   byte of the activation sequence with a different one, and to leave it on the
   deactivation sequence. A read that times out gives 0, which is no answer.

   1. `setMuxMode_spec`: what the probe returns, and the mode it leaves.
   2. `setMuxMode_controller`: it returns what the controller's probe does.
   3. `legacy_iff`: when the controller's idea of the mode is right, in every state of a
      run of probes. -/
namespace ApplePS2

/-- `responses` are those to the reads to come; none is a time-out. -/
structure MuxHardware where
  active : Bool
  /-- The bytes that have been sent through the mouse interface. -/
  sequence : List UInt8
  responses : List (Option UInt8)

namespace MuxHardware

def activation : List UInt8 := [0xF0, 0x56, 0xA4]
def deactivation : List UInt8 := [0xF0, 0xF6, 0xA5]

/-- The mode after the last of these bytes has been answered. -/
def modeAfter (active : Bool) (sequence : List UInt8) (response : Option UInt8) : Bool :=
  let last := sequence.drop (sequence.length - 3)
  if last = activation then active || response.any (· ≠ 0xA4)
  else if last = deactivation then false
  else active

/-- What the read returns. -/
def answer (i : Nat) (responses : List (Option UInt8)) : UInt8 := (responses.getD i none).getD 0

def readDataPort (h : MuxHardware) : UInt8 × MuxHardware :=
  (answer 0 h.responses, { h with responses := h.responses.tail })

/-- One byte of a sequence, and the answer to it. -/
def loopback (val : UInt8) (h : MuxHardware) : UInt8 × MuxHardware :=
  { h with
    active := modeAfter h.active (h.sequence ++ [val]) (h.responses.getD 0 none)
    sequence := h.sequence ++ [val] }.readDataPort

/-- The touchpad acknowledges the custom command on one of the ports. -/
def findPort : Nat → MuxHardware → Bool × MuxHardware
  | 0, h => (false, h)
  | n + 1, h =>
    let (res, h) := h.readDataPort
    if res = 0xFA then (true, h) else findPort n h

def setMuxMode (enable : Bool) (h : MuxHardware) : Bool × MuxHardware :=
  let (res, h) := h.loopback 0xF0
  if res ≠ 0xF0 then (false, h)
  else
    let val := if enable then 0x56 else 0xF6
    let (res, h) := h.loopback val
    if res ≠ val then (false, h)
    else
      let val := if enable then 0xA4 else 0xA5
      let (res, h) := h.loopback val
      if res = val then (false, h) else findPort 4 h

end MuxHardware

/-! The probe. -/

namespace MuxHardware

/-- The first two bytes come back. -/
def echoes (responses : List (Option UInt8)) : Bool := answer 0 responses = 0xF0 && answer 1 responses = 0x56

/-- The third byte is answered by the version. -/
def activates (responses : List (Option UInt8)) : Bool :=
  echoes responses && (responses.getD 2 none).any (· ≠ 0xA4)

/-- The answers are those of a multiplexing controller with a touchpad at one of its ports. -/
def succeeds (responses : List (Option UInt8)) : Bool := probeSucceeds (responses.map (·.getD 0))

theorem last_byte (sequence : List UInt8) (val : UInt8) :
    ((sequence ++ [val]).drop ((sequence ++ [val]).length - 3)).getLast? = some val := by
  have hlength : (sequence ++ [val]).length - 3 ≤ sequence.length := by
    rw [List.length_append, List.length_singleton]
    omega
  rw [List.drop_append_of_le_length hlength, List.getLast?_concat]

/-- A byte that ends neither sequence does not change the mode. -/
theorem modeAfter_other {val : UInt8} (ha : val ≠ 0xA4) (hd : val ≠ 0xA5) (active : Bool) (sequence : List UInt8)
    (response : Option UInt8) : modeAfter active (sequence ++ [val]) response = active := by
  have hlast := last_byte sequence val
  unfold modeAfter
  dsimp only
  generalize (sequence ++ [val]).drop ((sequence ++ [val]).length - 3) = last at hlast
  split
  · next h =>
    rw [h] at hlast
    exact absurd (Option.some.inj hlast).symm ha
  · split
    · next h =>
      rw [h] at hlast
      exact absurd (Option.some.inj hlast).symm hd
    · rfl

theorem modeAfter_activation (active : Bool) (sequence : List UInt8) (response : Option UInt8) :
    modeAfter active (sequence ++ [0xF0] ++ [0x56] ++ [0xA4]) response = (active || response.any (· ≠ 0xA4)) := by
  have hlast : (sequence ++ [0xF0] ++ [0x56] ++ [0xA4]).drop
      ((sequence ++ [0xF0] ++ [0x56] ++ [0xA4]).length - 3) = activation := by
    simp [activation, List.append_assoc]
  unfold modeAfter
  dsimp only
  rw [hlast, if_pos rfl]

theorem loopback_eq (val : UInt8) (h : MuxHardware) : h.loopback val =
    (answer 0 h.responses,
      ⟨modeAfter h.active (h.sequence ++ [val]) (h.responses.getD 0 none), h.sequence ++ [val], h.responses.tail⟩) := rfl

theorem answer_tail (i : Nat) (responses : List (Option UInt8)) : answer i responses.tail = answer (i + 1) responses := by
  cases responses <;> simp [answer]

theorem findPort_spec (n : Nat) (h : MuxHardware) :
    (findPort n h).1 = ((h.responses.map (·.getD 0)).take n).contains 0xFA ∧ (findPort n h).2.active = h.active := by
  induction n generalizing h with
  | zero => simp [findPort]
  | succ n ih =>
    obtain ⟨hfound, hactive⟩ := ih h.readDataPort.2
    have hrest : h.readDataPort.2.responses = h.responses.tail := rfl
    have hsame : h.readDataPort.2.active = h.active := rfl
    simp only [findPort]
    split
    · next hack =>
      refine ⟨?_, hsame⟩
      cases hresponses : h.responses with
      | nil => simp [readDataPort, answer, hresponses] at hack
      | cons r rs =>
        have hr : r.getD 0 = 0xFA := by simpa [readDataPort, answer, hresponses] using hack
        simp [hr]
    · next hack =>
      refine ⟨hfound.trans ?_, hactive.trans hsame⟩
      rw [hrest]
      cases hresponses : h.responses with
      | nil => simp
      | cons r rs =>
        have hr : (0xFA : UInt8) ≠ r.getD 0 := fun hr => hack (by simp [readDataPort, answer, hresponses, ← hr])
        simp [hr]

theorem answer_map (i : Nat) (responses : List (Option UInt8)) :
    (responses.map (·.getD 0))[i]?.getD 0 = answer i responses := by
  rw [answer, List.getD_eq_getElem?_getD, List.getElem?_map]
  cases responses[i]? <;> rfl

theorem succeeds_eq (responses : List (Option UInt8)) : succeeds responses =
    (echoes responses && (answer 2 responses ≠ 0xA4 : Bool) &&
      ((responses.tail.tail.tail.map (·.getD 0)).take 4).contains 0xFA) := by
  have hdrop : responses.tail.tail.tail = responses.drop 3 := by simp [← List.drop_one, List.drop_drop]
  unfold succeeds probeSucceeds echoes
  simp only [answer_map, hdrop, List.map_drop]

/-- What the probe returns, and that it leaves the hardware in multiplexing mode when it was
in that mode before, or enters it on the way. -/
theorem setMuxMode_spec (h : MuxHardware) : (h.setMuxMode true).1 = succeeds h.responses ∧
    (h.setMuxMode true).2.active = (h.active || activates h.responses) := by
  have hfirst := @modeAfter_other 0xF0 (by decide) (by decide)
  have hsecond := @modeAfter_other 0x56 (by decide) (by decide)
  simp only [setMuxMode, loopback_eq, if_true, answer_tail, hfirst, hsecond, modeAfter_activation, succeeds_eq,
    activates, echoes]
  by_cases h0 : answer 0 h.responses = 0xF0
  · by_cases h1 : answer 1 h.responses = 0x56
    · have hthird : h.responses.tail.tail.getD 0 none = h.responses.getD 2 none := by
        simp [List.getD_eq_getElem?_getD]
      rw [if_neg (not_not_intro h0), if_neg (not_not_intro h1), hthird]
      by_cases h2 : answer 2 h.responses = 0xA4
      · simp [h0, h1, h2]
      · obtain ⟨hfound, hactive⟩ := findPort_spec 4
          ⟨h.active || (h.responses.getD 2 none).any (· ≠ 0xA4), h.sequence ++ [0xF0] ++ [0x56] ++ [0xA4],
            h.responses.tail.tail.tail⟩
        rw [if_neg h2, hfound, hactive]
        simp [h0, h1, h2]
    · simp [h0, h1]
  · simp [h0]

/-- The controller's probe, given the same answers. -/
theorem setMuxMode_controller (s : Controller) (h : MuxHardware)
    (hanswers : s.hardware.answers = h.responses.map (·.getD 0)) : (s.setMuxMode true).1 = (h.setMuxMode true).1 := by
  rw [s.setMuxMode_spec.1, h.setMuxMode_spec.1, hanswers]
  rfl

end MuxHardware

/-! Runs. -/

/-- The controller's idea of the mode, and the hardware. -/
structure MuxState where
  controllerUsesMuxMode : Bool
  hardware : MuxHardware

namespace MuxState

def init : MuxState := ⟨false, ⟨false, [], []⟩⟩

/-- At the start, or at a wake-up; with the responses to the probe. -/
inductive Probe where
  | start (responses : List (Option UInt8))
  | wake (responses : List (Option UInt8))

def detectMuxModeSupport (responses : List (Option UInt8)) (s : MuxState) : MuxState :=
  let (supported, hardware) := { s.hardware with responses }.setMuxMode true
  ⟨supported, hardware⟩

def step (s : MuxState) : Probe → MuxState
  | .start responses => s.detectMuxModeSupport responses
  | .wake responses => if s.controllerUsesMuxMode then s.detectMuxModeSupport responses else s

/-- The responses to the probe, if one is made. -/
def probed (s : MuxState) : Probe → Option (List (Option UInt8))
  | .start responses => some responses
  | .wake responses => if s.controllerUsesMuxMode then some responses else none

/-- Commands sent with `kCP_TransmitToMouse` reach the touchpad if they are sent so. -/
def Legacy (s : MuxState) : Prop := s.controllerUsesMuxMode = false → s.hardware.active = false

/-- A probe that fails leaves the hardware out of multiplexing mode. -/
def AllOrNothing (s : MuxState) (l : Probe) : Prop :=
  ∀ responses ∈ s.probed l, ({ s.hardware with responses }.setMuxMode true).1 = false →
    ({ s.hardware with responses }.setMuxMode true).2.active = false

/-- The touchpad's port is found, or the hardware neither is in multiplexing mode already nor
enters it. -/
def Meets (s : MuxState) (l : Probe) : Prop :=
  ∀ responses ∈ s.probed l, MuxHardware.succeeds responses = true ∨
    s.hardware.active = false ∧ MuxHardware.activates responses = false

theorem allOrNothing_iff (s : MuxState) (l : Probe) : s.AllOrNothing l ↔ s.Meets l := by
  refine forall₂_congr fun responses _ => ?_
  obtain ⟨hresult, hactive⟩ := MuxHardware.setMuxMode_spec { s.hardware with responses }
  rw [hresult, hactive]
  cases MuxHardware.succeeds responses <;> simp

theorem legacy_step {s : MuxState} (hs : s.Legacy) (l : Probe) (h : s.AllOrNothing l) : (s.step l).Legacy := by
  cases l with
  | start responses => exact h responses rfl
  | wake responses =>
    cases huses : s.controllerUsesMuxMode with
    | true =>
      have hprobed : s.probed (.wake responses) = some responses := if_pos huses
      have hstep : s.step (.wake responses) = s.detectMuxModeSupport responses := if_pos huses
      rw [hstep]
      exact h responses (by rw [hprobed]; rfl)
    | false =>
      have hstep : s.step (.wake responses) = s := by simp [step, huses]
      rw [hstep]
      exact hs

/-- Over every run of probes, the controller takes the hardware for legacy only when it is,
and every failed probe leaves it so, just when each probe finds the touchpad's port or leaves
the mode alone in hardware that is not multiplexing already. -/
theorem legacy_iff (ls : List Probe) :
    ((∀ p, p <+: ls → (Transition.run step p init).Legacy) ∧
      ∀ p l, p ++ [l] <+: ls → (Transition.run step p init).AllOrNothing l) ↔
    ∀ p l, p ++ [l] <+: ls → (Transition.run step p init).Meets l := by
  apply Transition.run_steps_iff (I := Legacy) (P := AllOrNothing) (C := Meets)
  · intro s l hs
    rw [allOrNothing_iff]
    exact ⟨fun h => h.2, fun h => ⟨legacy_step hs l ((allOrNothing_iff s l).2 h), h⟩⟩
  · exact fun _ => rfl

/-- The version comes back, and no port acknowledges. -/
def noTouchpad : List (Option UInt8) := [some 0xF0, some 0x56, some 0x11, some 0xFE, some 0xFE, some 0xFE, some 0xFE]

/-- The probe fails and the hardware is left in multiplexing mode. -/
theorem not_allOrNothing : ¬ ∀ ls, (∀ p, p <+: ls → (Transition.run step p init).Legacy) ∧
    ∀ p l, p ++ [l] <+: ls → (Transition.run step p init).AllOrNothing l := by
  intro h
  have hlegacy := (h [.start noTouchpad]).1 _ (List.prefix_refl _)
  have huses : (Transition.run step [.start noTouchpad] init).controllerUsesMuxMode = false := by decide
  have hactive := hlegacy huses
  revert hactive
  decide

end MuxState
end ApplePS2
