import Mathlib.Data.FinEnum
import ApplePS2.Touchpad.Notifications

/- The buttons of the touchpad (`Process_Physical_Buttons`,
   `Process_ClickPad_Virtual_Buttons`), and whether a physical button can be left down.

   1. `held_processPhysicalButtons`: what `_button` says of the last mask dispatched,
      after every packet.
   2. `physicalButtons_follow_iff`: after every sequence of packets, the next one is
      followed if and only if it is not ignored.
   3. `physicalButtons_leftDown`: both buttons are pressed and released, and the driver
      still takes one for pressed. -/
namespace ApplePS2

def SYN_CAP_EXT_BUTTONS_STICK (ex10 : UInt64) : Bool := ex10 &&& 0x010000 ≠ 0

namespace Touchpad

/-! Physical buttons. -/

/-- The packet of the stick's buttons, `84 xx xx c4 xx xx`. -/
def isStickPacket (p : Packet) : Bool := p 0 &&& 0xFC = 0x84 && p 3 &&& 0xCC = 0xc4

/-- The buttons a packet reports. -/
def physicalButtons (p : Packet) (s : Touchpad) : UInt8 :=
  if s.touchpadVendor = .STD_SYNAPTICS && isStickPacket p && SYN_CAP_EXT_BUTTONS_STICK s.synTPad.ext_cap_10 then
    p 1 &&& 0x07
  else p 0 &&& 0x03

/-- The left or middle button, or neither of them. -/
def pressLeft (data : UInt8) (s : Touchpad) : Touchpad :=
  { s with
    button.data := data, button.triggered := true, button.state := s.button.state ||| data
    touchmode := .MODE_BUTTONS }.dispatchRelativePointerPosition 0 0 data

def pressRight (data : UInt8) (s : Touchpad) : Touchpad :=
  { s with
    button.data := data, button.state := s.button.state ||| data, touchmode := .MODE_BUTTONS
    button.rightClick := true, button.triggered := true }.dispatchRelativePointerPosition 0 0 data

/-- "Release left/middle button and drag if it was triggered" -/
def releaseTriggered (data : UInt8) (s : Touchpad) : Touchpad :=
  if s.button.triggered || s.button.rightClick then
    let s := { s with button.state := 0 } |> dispatchRelativePointerPosition 0 0 data
      |> dispatchRelativePointerPosition 0 0 0
    { s with button.rightClick := false, drag := clearDrag s.drag, fingPress.holdTime := 0 }.releaseAppSwitch
  else s

def releaseButtons (data : UInt8) (s : Touchpad) : Touchpad :=
  let s := s.releaseTriggered data
  { s with button.data := 0, button.triggered := false }.when s.pContinuousMove StopPointerEnhanceTimer

def Process_Physical_Buttons (p : Packet) (s : Touchpad) : Touchpad :=
  let data := physicalButtons p s
  if s.button.disableClicks then s
  -- No need further processing
  else if s.button.state = data then { s with button.data := data }
  -- middle button (bit 0 and 1 set in packet[0])
  else if data = 0x04 || data = 0x03 then s.pressLeft (if s.button.enableMiddle then 0x4 else 0x0)
  else if data = 0x01 then s.pressLeft data
  else if data = 0x02 then s.pressRight data
  else s.releaseButtons data

end Touchpad

/-! The last mask dispatched. -/

def TouchpadSent.buttonState : TouchpadSent → Option UInt8
  | .dispatchRelativePointerPosition _ _ buttonState => some buttonState
  | .dispatchAbsolutePointerEvent buttonState => some buttonState
  | _ => none

namespace Touchpad

def lastMask (s : Touchpad) : UInt8 := (s.log.filterMap TouchpadSent.buttonState).getLastD 0

theorem lastMask_pointer (dx dy : Int) (b : UInt8) (s : Touchpad) :
    (s.dispatchRelativePointerPosition dx dy b).lastMask = b := by
  simp [lastMask, dispatchRelativePointerPosition, send, TouchpadSent.buttonState]

theorem lastMask_releaseAppSwitch (s : Touchpad) :
    s.releaseAppSwitch.button = s.button ∧ s.releaseAppSwitch.lastMask = s.lastMask := by
  unfold releaseAppSwitch
  split
  · refine ⟨rfl, ?_⟩
    simp [lastMask, notifyKeyboard, send, TouchpadSent.buttonState]
  · exact ⟨rfl, rfl⟩

theorem lastMask_releaseTriggered (data : UInt8) (s : Touchpad) :
    let pressed := s.button.triggered || s.button.rightClick
    (s.releaseTriggered data).button =
        (if pressed then { s.button with state := 0, rightClick := false } else s.button) ∧
      (s.releaseTriggered data).lastMask = if pressed then 0 else s.lastMask := by
  unfold releaseTriggered
  dsimp only
  split
  · refine ⟨(lastMask_releaseAppSwitch _).1, (lastMask_releaseAppSwitch _).2.trans ?_⟩
    exact lastMask_pointer 0 0 0 _
  · exact ⟨rfl, rfl⟩

theorem lastMask_releaseButtons (data : UInt8) (s : Touchpad) :
    let pressed := s.button.triggered || s.button.rightClick
    (s.releaseButtons data).button =
        { s.button with
          data := 0, triggered := false, state := if pressed then 0 else s.button.state
          rightClick := if pressed then false else s.button.rightClick } ∧
      (s.releaseButtons data).lastMask = if pressed then 0 else s.lastMask := by
  obtain ⟨hbutton, hmask⟩ := lastMask_releaseTriggered data s
  have hwhen : ∀ (c : Bool) (t : Touchpad),
      (t.when c StopPointerEnhanceTimer).button = t.button ∧ (t.when c StopPointerEnhanceTimer).log = t.log := by
    intro c t
    cases c <;> exact ⟨rfl, rfl⟩
  unfold releaseButtons
  dsimp only at hbutton hmask ⊢
  rw [(hwhen _ _).1]
  refine ⟨?_, ?_⟩
  · rw [hbutton]
    split <;> rfl
  · unfold lastMask at hmask ⊢
    rw [(hwhen _ _).2]
    exact hmask

/-! What `_button` says of the last mask. -/

/-- The state is what has been dispatched since the last release; it holds the last
mask, if this is not 0. -/
structure Held (s : Touchpad) : Prop where
  released : s.button.triggered = false → s.button.state = 0 ∧ s.button.rightClick = false
  none : s.button.state = 0 → s.lastMask = 0
  left : s.button.state = 1 → s.lastMask = 0 ∨ s.lastMask = 1
  right : s.button.state = 2 → s.lastMask = 0 ∨ s.lastMask = 2

/-- No button is pressed. -/
structure Released (s : Touchpad) : Prop where
  state : s.button.state = 0
  data : s.button.data = 0
  triggered : s.button.triggered = false
  rightClick : s.button.rightClick = false
  lastMask : s.lastMask = 0

theorem Released.held {s : Touchpad} (h : Released s) : Held s :=
  ⟨fun _ => ⟨h.state, h.rightClick⟩, fun _ => h.lastMask, fun _ => .inl h.lastMask, fun _ => .inl h.lastMask⟩

theorem held_press {s t : Touchpad} {data : UInt8} (hdata : data ∈ ([0, 1, 2, 4] : List UInt8))
    (hstate : t.button.state = s.button.state ||| data) (htriggered : t.button.triggered = true)
    (hmask : t.lastMask = data) : Held t := by
  have hor : ∀ data ∈ ([0, 1, 2, 4] : List UInt8), ∀ a : UInt8,
      (a ||| data = 0 → data = 0) ∧ (a ||| data = 1 → data = 0 ∨ data = 1) ∧
        (a ||| data = 2 → data = 0 ∨ data = 2) := by decide +kernel
  obtain ⟨h0, h1, h2⟩ := hor data hdata s.button.state
  refine ⟨fun h => ?_, fun h => ?_, fun h => ?_, fun h => ?_⟩
  · rw [htriggered] at h
    cases h
  · rw [hmask]
    exact h0 (hstate.symm.trans h)
  · rw [hmask]
    exact h1 (hstate.symm.trans h)
  · rw [hmask]
    exact h2 (hstate.symm.trans h)

theorem Held.releaseButtons {s : Touchpad} (h : Held s) (data : UInt8) : Released (s.releaseButtons data) := by
  obtain ⟨hbutton, hmask⟩ := lastMask_releaseButtons data s
  dsimp only at hbutton hmask
  by_cases hpressed : (s.button.triggered || s.button.rightClick) = true
  · simp only [hpressed, if_true] at hbutton hmask
    exact ⟨by rw [hbutton], by rw [hbutton], by rw [hbutton], by rw [hbutton], hmask⟩
  · have hfree := Bool.or_eq_false_iff.mp (Bool.eq_false_iff.mpr hpressed)
    obtain ⟨hstate, hright⟩ := h.released hfree.1
    simp only [hpressed] at hbutton hmask
    exact ⟨by rw [hbutton]; exact hstate, by rw [hbutton], by rw [hbutton], by rw [hbutton]; exact hright,
      hmask.trans (h.none hstate)⟩

theorem Held.processPhysicalButtons {s : Touchpad} (h : Held s) (p : Packet) :
    Held (s.Process_Physical_Buttons p) := by
  unfold Process_Physical_Buttons
  dsimp only
  repeat' split
  · exact h
  · exact ⟨h.released, h.none, h.left, h.right⟩
  · exact held_press (by decide) rfl rfl (lastMask_pointer 0 0 _ _)
  · exact held_press (by decide) rfl rfl (lastMask_pointer 0 0 _ _)
  · next h1 => exact held_press (by simp [h1]) rfl rfl (lastMask_pointer 0 0 _ _)
  · next h2 => exact held_press (by simp [h2]) rfl rfl (lastMask_pointer 0 0 _ _)
  · exact (h.releaseButtons _).held

/-! Packets that are followed. -/

/-- What is expected after a packet. -/
structure Follows (p : Packet) (s t : Touchpad) : Prop where
  none : physicalButtons p s = 0 → Released t
  left : physicalButtons p s = 1 → t.lastMask &&& 1 ≠ 0
  right : physicalButtons p s = 2 → t.lastMask &&& 2 ≠ 0

/-- The packet reports no button, the left or the right one, and is ignored although it
brings news: clicks are disabled, or `_button.state` is what it reports, but the last
mask dispatched was 0 and nothing has been released. -/
def Ignored (p : Packet) (s : Touchpad) : Prop :=
  let data := physicalButtons p s
  if s.button.disableClicks then data = 1 ∨ data = 2
  else s.button.state = data ∧ data ≤ 2 ∧ s.button.triggered ∧ s.lastMask = 0

instance (p : Packet) (s : Touchpad) : Decidable (Ignored p s) := by unfold Ignored; infer_instance

theorem Held.triggered {s : Touchpad} (h : Held s) (hstate : s.button.state ≠ 0) : s.button.triggered = true := by
  cases htriggered : s.button.triggered with
  | true => rfl
  | false => exact absurd (h.released htriggered).1 hstate

/-- When the state is what is reported, the packet is only noted. -/
theorem follows_noted {p : Packet} {s t : Touchpad} (h : Held s) (hstate : s.button.state = physicalButtons p s)
    (ht : t.button = { s.button with data := physicalButtons p s }) (hmask : t.lastMask = s.lastMask) :
    Follows p s t ↔
      ¬ (s.button.state = physicalButtons p s ∧ physicalButtons p s ≤ 2 ∧ s.button.triggered = true ∧
        s.lastMask = 0) := by
  have hcases : ∀ d : UInt8, d ≤ 2 → d = 0 ∨ d = 1 ∨ d = 2 := by decide +kernel
  constructor
  · rintro hfollows ⟨-, hle, htriggered, hzero⟩
    rcases hcases _ hle with hd | hd | hd
    · have hreleased := (hfollows.none hd).triggered
      rw [ht] at hreleased
      exact absurd hreleased (by simp [htriggered])
    · exact hfollows.left hd (by rw [hmask, hzero]; decide)
    · exact hfollows.right hd (by rw [hmask, hzero]; decide)
  · intro hbrings
    have hdone : physicalButtons p s ≤ 2 → s.button.triggered = true → s.lastMask ≠ 0 :=
      fun hle htriggered hzero => hbrings ⟨hstate, hle, htriggered, hzero⟩
    refine ⟨fun hd => ?_, fun hd => ?_, fun hd => ?_⟩
    · have hzero := h.none (hstate.trans hd)
      have hfree : s.button.triggered = false := by
        cases htriggered : s.button.triggered with
        | false => rfl
        | true => exact absurd hzero (hdone (by rw [hd]; decide) htriggered)
      exact ⟨by rw [ht]; exact hstate.trans hd, by rw [ht]; exact hd, by rw [ht]; exact hfree,
        by rw [ht]; exact (h.released hfree).2, hmask.trans hzero⟩
    · have hone := hstate.trans hd
      have hmissing := hdone (by rw [hd]; decide) (h.triggered (by rw [hone]; decide))
      rw [hmask, (h.left hone).resolve_left hmissing]
      decide
    · have htwo := hstate.trans hd
      have hmissing := hdone (by rw [hd]; decide) (h.triggered (by rw [htwo]; decide))
      rw [hmask, (h.right htwo).resolve_left hmissing]
      decide

theorem follows_enabled {s : Touchpad} (h : Held s) (p : Packet) (henabled : s.button.disableClicks = false) :
    Follows p s (s.Process_Physical_Buttons p) ↔ ¬ Ignored p s := by
  have hclicks : ¬ s.button.disableClicks = true := by simp [henabled]
  have hmask := fun (t : Touchpad) (b : UInt8) => lastMask_pointer 0 0 b t
  unfold Process_Physical_Buttons Ignored
  dsimp only
  rw [if_neg hclicks, if_neg hclicks]
  by_cases hstate : s.button.state = physicalButtons p s
  · rw [if_pos hstate]
    exact follows_noted h hstate rfl rfl
  rw [if_neg hstate]
  refine iff_of_true ?_ (fun hignored => hstate hignored.1)
  -- the state has changed, and each value has its branch
  by_cases hmiddle : (physicalButtons p s = 0x04 || physicalButtons p s = 0x03) = true
  · have hd : physicalButtons p s = 4 ∨ physicalButtons p s = 3 := by simpa using hmiddle
    rw [if_pos hmiddle]
    rcases hd with hd | hd <;> constructor <;> intro hd' <;> rw [hd] at hd' <;> cases hd'
  rw [if_neg hmiddle]
  by_cases h1 : physicalButtons p s = 0x01
  · rw [if_pos h1, h1, pressLeft]
    refine ⟨fun hd => ?_, fun _ => ?_, fun hd => ?_⟩
    · rw [h1] at hd
      cases hd
    · rw [hmask]
      decide
    · rw [h1] at hd
      cases hd
  rw [if_neg h1]
  by_cases h2 : physicalButtons p s = 0x02
  · rw [if_pos h2, h2, pressRight]
    refine ⟨fun hd => ?_, fun hd => ?_, fun _ => ?_⟩
    · rw [h2] at hd
      cases hd
    · rw [h2] at hd
      cases hd
    · rw [hmask]
      decide
  rw [if_neg h2]
  exact ⟨fun _ => h.releaseButtons _, fun hd => absurd hd h1, fun hd => absurd hd h2⟩

theorem follows_disabled {s : Touchpad} (h : Released s) (p : Packet) (hdisabled : s.button.disableClicks = true) :
    Follows p s (s.Process_Physical_Buttons p) ↔ ¬ Ignored p s := by
  unfold Process_Physical_Buttons Ignored
  simp only [hdisabled, if_true]
  constructor
  · rintro hfollows (hd | hd)
    · exact hfollows.left hd (by rw [h.lastMask]; decide)
    · exact hfollows.right hd (by rw [h.lastMask]; decide)
  · intro hd
    exact ⟨fun _ => h, fun h1 => absurd (.inl h1) hd, fun h2 => absurd (.inr h2) hd⟩

/-! Runs. -/

/-- The packets one after the other. -/
def processAll (ps : List Packet) (s : Touchpad) : Touchpad := ps.foldl (fun s p => s.Process_Physical_Buttons p) s

theorem Held.processAll {s : Touchpad} (h : Held s) (ps : List Packet) : Held (s.processAll ps) := by
  induction ps generalizing s with
  | nil => exact h
  | cons p ps ih => exact ih (h.processPhysicalButtons p)

/-- The state without what a physical button changes. -/
def unpressed (s : Touchpad) : Touchpad :=
  { s with
    button.state := 0, button.data := 0, button.triggered := false, button.rightClick := false
    touchmode := .MODE_IDLE, drag := default, swipe.isAppSwitchDone := false, fingPress.holdTime := 0
    pContinuousMove := false, log := [] }

theorem unpressed_releaseAppSwitch (s : Touchpad) : s.releaseAppSwitch.unpressed = s.unpressed := by
  unfold releaseAppSwitch
  split <;> rfl

theorem unpressed_dispatch (dx dy : Int) (data : UInt8) (s : Touchpad) :
    (s.dispatchRelativePointerPosition dx dy data).unpressed = s.unpressed := rfl

theorem unpressed_releaseTriggered (data : UInt8) (s : Touchpad) : (s.releaseTriggered data).unpressed = s.unpressed := by
  have hclear : ∀ t : Touchpad,
      { t with button.rightClick := false, drag := clearDrag t.drag, fingPress.holdTime := 0 }.unpressed = t.unpressed :=
    fun t => rfl
  unfold releaseTriggered
  dsimp only
  split
  · refine (unpressed_releaseAppSwitch _).trans ?_
    refine (hclear _).trans ?_
    refine (unpressed_dispatch 0 0 0 _).trans ?_
    exact unpressed_dispatch 0 0 data { s with button.state := 0 }
  · rfl

theorem unpressed_releaseButtons (data : UInt8) (s : Touchpad) : (s.releaseButtons data).unpressed = s.unpressed := by
  have hwhen : ∀ (c : Bool) (t : Touchpad), (t.when c StopPointerEnhanceTimer).unpressed = t.unpressed := by
    intro c t
    cases c <;> rfl
  exact (hwhen _ _).trans (unpressed_releaseTriggered data s)

theorem unpressed_processPhysicalButtons (p : Packet) (s : Touchpad) :
    (s.Process_Physical_Buttons p).unpressed = s.unpressed := by
  unfold Process_Physical_Buttons
  dsimp only
  repeat' split
  · rfl
  · rfl
  · rfl
  · rfl
  · rfl
  · rfl
  · exact unpressed_releaseButtons _ s

theorem disableClicks_processPhysicalButtons (p : Packet) (s : Touchpad) :
    (s.Process_Physical_Buttons p).button.disableClicks = s.button.disableClicks := by
  show (s.Process_Physical_Buttons p).unpressed.button.disableClicks = s.unpressed.button.disableClicks
  rw [unpressed_processPhysicalButtons]

theorem processAll_disabled {s : Touchpad} (hdisabled : s.button.disableClicks = true) (ps : List Packet) :
    s.processAll ps = s := by
  have hstep : ∀ p, s.Process_Physical_Buttons p = s := by
    intro p
    simp [Process_Physical_Buttons, hdisabled]
  induction ps with
  | nil => rfl
  | cons p ps ih =>
    show (s.Process_Physical_Buttons p).processAll ps = s
    rw [hstep, ih]

theorem processAll_enabled {s : Touchpad} (henabled : s.button.disableClicks = false) (ps : List Packet) :
    (s.processAll ps).button.disableClicks = false := by
  induction ps generalizing s with
  | nil => exact henabled
  | cons p ps ih => exact ih ((disableClicks_processPhysicalButtons p s).trans henabled)

/-- From no button pressed, after any packets: the next packet is followed if and only
if it is not ignored. -/
theorem physicalButtons_follow_iff {s : Touchpad} (h : Released s) (ps : List Packet) (p : Packet) :
    Follows p (s.processAll ps) (s.processAll (ps ++ [p])) ↔ ¬ Ignored p (s.processAll ps) := by
  have hlast : s.processAll (ps ++ [p]) = (s.processAll ps).Process_Physical_Buttons p := by
    unfold processAll
    rw [List.foldl_append]
    rfl
  rw [hlast]
  cases hclicks : s.button.disableClicks with
  | true =>
    rw [processAll_disabled hclicks]
    exact follows_disabled h p hclicks
  | false => exact follows_enabled (h.held.processAll ps) p (processAll_enabled hclicks ps)

theorem released_init : Released init := ⟨rfl, rfl, rfl, rfl, rfl⟩

/-- A packet of which only the first byte matters. -/
def buttonPacket (b : UInt8) : Packet := fun i => if i = 0 then b else 0

/-- The left button is pressed, the right one as well, and all are released. -/
theorem physicalButtons_follow_release :
    Follows (buttonPacket 0) (init.processAll [buttonPacket 1, buttonPacket 3])
      (init.processAll ([buttonPacket 1, buttonPacket 3] ++ [buttonPacket 0])) :=
  (physicalButtons_follow_iff released_init _ _).mpr (by decide)

/-- Both buttons are pressed and released, and the driver still takes one for pressed. -/
theorem physicalButtons_leftDown :
    ¬ ∀ (s : Touchpad), Released s → ∀ ps p, Follows p (s.processAll ps) (s.processAll (ps ++ [p])) := by
  intro h
  have hreleased := ((h init released_init [buttonPacket 3] (buttonPacket 0)).none (by decide)).triggered
  have htriggered : (init.processAll ([buttonPacket 3] ++ [buttonPacket 0])).button.triggered = true := rfl
  rw [htriggered] at hreleased
  cases hreleased

end Touchpad
end ApplePS2
