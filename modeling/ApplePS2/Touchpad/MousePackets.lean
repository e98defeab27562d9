import ApplePS2.Touchpad.Buttons
import ApplePS2.Transition

/- The packets of a plain mouse (`processMousePacket`), and whether they can leave a
   button down.

   1. `ctrlClick_step`: what the driver remembers of the control key is what the events
      tell (`CtrlClick.next`).
   2. `lastMask_buttonless`: the last mask after a packet that reports no button.
   3. `released_iff`: in every run each such packet leaves no button down just when no
      click under the control key is remembered, and the key does not hold back the release.
   4. `stuck_run`: a click that is remembered keeps the right button down. -/
namespace ApplePS2

open Transition

/-- The rest of `_ps2Mouse`, and the settings. -/
structure MouseMode where
  lastButton : UInt8
  dragPackets : UInt8
  isSwipeDone : Bool
  enableLRSwipe : Bool
  lastSwipeTime : UInt64
  isDragEnabled : Bool
  isDragLockEnabled : Bool
  isHScrollEnabled : Bool
  isVScrollEnabled : Bool
  /-- What `dispatchScrollDifference` has been called with. -/
  scrolled : List (Int × Int)
  touchpad : Touchpad

namespace MouseMode

variable (w : TouchpadWorld)

def dispatchRelativePointerPosition (dx dy : Int) (buttonState : UInt8) (s : MouseMode) : MouseMode :=
  { s with touchpad := s.touchpad.dispatchRelativePointerPosition dx dy buttonState }

/-- The values are cut off to integers; they are in the range of a short. -/
def dispatchScrollDifference (deltaAxis1 deltaAxis2 : Rat) (s : MouseMode) : MouseMode :=
  { s with scrolled := s.scrolled ++ [(deltaAxis1.num.tdiv deltaAxis1.den, deltaAxis2.num.tdiv deltaAxis2.den)] }

def countDragPackets (s : MouseMode) : MouseMode :=
  if s.dragPackets > 5 && s.touchpad.drag.isDragging && s.lastButton = 0 then
    { s with touchpad.drag.isDragging := false, dragPackets := 0 }
  else if s.dragPackets < 10 then { s with dragPackets := s.dragPackets + 1 }
  else s

/-- "Dispatch context menu on Control + tap" -/
def contextMenu (s : MouseMode) : MouseMode :=
  if s.touchpad.ps2Mouse.isCtrlScrollSwipe then
    let s := s |> dispatchRelativePointerPosition 0 0 0x2 |> dispatchRelativePointerPosition 0 0 0
    { s with touchpad.button.rightClick := true }
  else if s.touchpad.button.rightClick then { s with touchpad.button.rightClick := false }
  else s

def leftButton (p : Packet) (s : MouseMode) : MouseMode :=
  if p 0 &&& 0x1 ≠ 0 then s.countDragPackets.contextMenu else s

/-- The buttons a packet reports. -/
def packetButtons (p : Packet) : UInt8 :=
  (if p 0 &&& 0x1 ≠ 0 then 0x1 else 0) ||| (if p 0 &&& 0x2 ≠ 0 then 0x2 else 0) |||
    (if p 0 &&& 0x4 ≠ 0 then 0x4 else 0)

/-- A difference of nine bits. -/
def packetDelta (sign : Bool) (b : UInt8) : Int := if sign then (b.toNat : Int) - 256 else b.toNat

/-- "Control drag for draglock" -/
def dragLock (buttons : UInt8) (s : MouseMode) : UInt8 × MouseMode :=
  if s.isDragEnabled && s.isDragLockEnabled && s.dragPackets > 5 then
    let isDragging := buttons &&& 0x1 ≠ 0 || s.touchpad.drag.isDragging
    (if isDragging then buttons ||| 0x1 else buttons, { s with touchpad.drag.isDragging := isDragging })
  else (buttons, s)

/-- A level of scrolling against the movement. -/
def scrollDelta (enabled : Bool) (d : Int) : Int :=
  let tmp := d.natAbs
  let level : Int :=
    if 1 ≤ tmp && tmp ≤ 5 then -2
    else if 6 ≤ tmp && tmp ≤ 15 then -5
    else if 16 ≤ tmp && tmp ≤ 30 then -10
    else -15
  if enabled then (if d < 0 then 0 - level else level) else 0

/-- "Setting swipeDone to false after timout for next swipe to work without releasing control key" -/
def swipeTimeout (s : MouseMode) : MouseMode :=
  let lastSwipeTime := if s.isSwipeDone then s.lastSwipeTime else w.uptime 0
  { s with
    lastSwipeTime := lastSwipeTime
    isSwipeDone := s.isSwipeDone && !(w.uptime 1 - lastSwipeTime > 250000000) }

def swipes (dx dy : Int) (s : MouseMode) : Bool :=
  s.touchpad.ps2Mouse.isCtrlScrollSwipe && s.enableLRSwipe && !s.touchpad.button.rightClick && !s.isSwipeDone &&
    dx.natAbs > dy.natAbs && dx.natAbs > 15

def swipe (dx : Int) (s : MouseMode) : MouseMode :=
  { s with
    touchpad := s.touchpad.notifyKeyboard (if dx < 0 then .kPS2C_Gesture_Backward else .kPS2C_Gesture_Forward)
    lastSwipeTime := w.uptime 2
    isSwipeDone := true }

/-- "Release button" -/
def releasePressed (buttons : UInt8) (s : MouseMode) : MouseMode :=
  if buttons ≠ 0 then s.dispatchRelativePointerPosition 0 0 0 else s

def scroll (dx dy : Int) (buttons : UInt8) (s : MouseMode) : MouseMode :=
  let factor := s.touchpad.scrollFactor
  let s := s.releasePressed buttons
  if dy.natAbs > dx.natAbs && dx < 8 && dx > -8 then
    s.dispatchScrollDifference (scrollDelta s.isVScrollEnabled dy * factor) 0
  else if dx.natAbs > dy.natAbs && dy < 6 && dy > -6 && !s.enableLRSwipe then
    s.dispatchScrollDifference 0 (scrollDelta s.isHScrollEnabled dx * factor)
  else s

/-- A swipe, scrolling, or a movement of the pointer. -/
def move (dx dy : Int) (buttons : UInt8) (s : MouseMode) : MouseMode :=
  if s.swipes dx dy then s.swipe w dx
  else if s.touchpad.ps2Mouse.isCtrlScrollSwipe && !s.touchpad.button.rightClick then s.scroll dx dy buttons
  else s.dispatchRelativePointerPosition dx dy (if s.touchpad.button.rightClick then 0x2 else buttons)

def noteButtons (buttons : UInt8) (s : MouseMode) : MouseMode :=
  { s with
    lastButton := buttons
    dragPackets := if buttons = 0 && !s.touchpad.drag.isDragging then 0 else s.dragPackets }

/-- "Disabling dragging" -/
def allowedButtons (buttons : UInt8) (s : MouseMode) : UInt8 :=
  if !s.isDragEnabled && s.dragPackets > 1 then 0 else buttons

def follow (dx dy : Int) (buttons : UInt8) (s : MouseMode) : MouseMode :=
  let (buttons, s) := s.dragLock buttons
  (s.swipeTimeout w).move w dx dy (s.allowedButtons buttons)

def stampData (s : MouseMode) : MouseMode := { s with touchpad.lastDataTime := w.uptime 3 }

def processMousePacket (p : Packet) (s : MouseMode) : MouseMode :=
  let buttons := packetButtons p
  let dx := packetDelta (p 0 &&& 0x10 ≠ 0) (p 1)
  let dy := -packetDelta (p 0 &&& 0x20 ≠ 0) (p 2)
  s |> leftButton p |> noteButtons buttons |> follow w dx dy buttons |> stampData w

inductive Event where
  | packet (w : TouchpadWorld) (p : Packet)
  /-- The control key goes down or up. -/
  | ctrlKey (w : TouchpadWorld) (down : Bool)

def step (s : MouseMode) : Event → MouseMode
  | .packet w p => s.processMousePacket w p
  | .ctrlKey w down =>
    let n := if down then PS2Notification.kPS2C_CNTRLKeyDown else .kPS2C_CNTRLKeyUp
    { s with touchpad := s.touchpad.receiveKeyboardNotifications w n }

/-! The control key. -/

/-- Whether the control key is down, and was down at the last packet with the left button. -/
structure CtrlClick where
  ctrl : Bool
  clicked : Bool

def CtrlClick.next (c : CtrlClick) : Event → CtrlClick
  | .packet _ p => if p 0 &&& 0x1 ≠ 0 then { c with clicked := c.ctrl } else c
  | .ctrlKey _ down => { c with ctrl := down }

def ctrlClick (s : MouseMode) : CtrlClick := ⟨s.touchpad.ps2Mouse.isCtrlScrollSwipe, s.touchpad.button.rightClick⟩

def lastMask (s : MouseMode) : UInt8 := s.touchpad.lastMask

variable {w : TouchpadWorld}

theorem ctrlClick_contextMenu (s : MouseMode) :
    s.contextMenu.ctrlClick = { s.ctrlClick with clicked := s.ctrlClick.ctrl } := by
  unfold contextMenu ctrlClick
  split
  · next hctrl =>
    show CtrlClick.mk s.touchpad.ps2Mouse.isCtrlScrollSwipe true = _
    rw [hctrl]
  · next hctrl =>
    have hup := Bool.eq_false_iff.mpr hctrl
    split
    · show CtrlClick.mk s.touchpad.ps2Mouse.isCtrlScrollSwipe false = _
      rw [hup]
    · next hclicked =>
      rw [hup, Bool.eq_false_iff.mpr hclicked]

theorem ctrlClick_countDragPackets (s : MouseMode) : s.countDragPackets.ctrlClick = s.ctrlClick := by
  unfold countDragPackets
  repeat' split
  · rfl
  · rfl
  · rfl

theorem ctrlClick_leftButton (w : TouchpadWorld) (p : Packet) (s : MouseMode) :
    (s.leftButton p).ctrlClick = s.ctrlClick.next (.packet w p) := by
  show _ = if p 0 &&& 0x1 ≠ 0 then CtrlClick.mk s.ctrlClick.ctrl s.ctrlClick.ctrl else s.ctrlClick
  unfold leftButton
  split
  · rw [ctrlClick_contextMenu, ctrlClick_countDragPackets]
  · rfl

theorem ctrlClick_dragLock (buttons : UInt8) (s : MouseMode) :
    (s.dragLock buttons).2.ctrlClick = s.ctrlClick := by
  unfold dragLock
  split <;> rfl

theorem touchpad_scrolled (a b : Rat) (s : MouseMode) : (s.dispatchScrollDifference a b).touchpad = s.touchpad := rfl

theorem touchpad_scroll (dx dy : Int) (buttons : UInt8) (s : MouseMode) :
    (s.scroll dx dy buttons).touchpad = (s.releasePressed buttons).touchpad := by
  unfold scroll
  dsimp only
  repeat' split
  · exact touchpad_scrolled ..
  · exact touchpad_scrolled ..
  · rfl

theorem ctrlClick_releasePressed (buttons : UInt8) (s : MouseMode) :
    (s.releasePressed buttons).ctrlClick = s.ctrlClick := by
  unfold releasePressed
  split <;> rfl

theorem ctrlClick_move (dx dy : Int) (buttons : UInt8) (s : MouseMode) :
    (s.move w dx dy buttons).ctrlClick = s.ctrlClick := by
  unfold move
  repeat' split
  · rfl
  · rw [← ctrlClick_releasePressed buttons s]
    unfold ctrlClick
    rw [touchpad_scroll]
  · rfl
  · rfl

/-- The driver remembers of the control key what the events tell. -/
theorem ctrlClick_step (e : Event) (s : MouseMode) : (s.step e).ctrlClick = s.ctrlClick.next e := by
  cases e with
  | ctrlKey w down => cases down <;> rfl
  | packet w p =>
    show (s.processMousePacket w p).ctrlClick = _
    rw [← ctrlClick_leftButton]
    exact (ctrlClick_move ..).trans (ctrlClick_dragLock ..)

/-! The last mask. -/

theorem lastMask_pointer (dx dy : Int) (b : UInt8) (s : MouseMode) :
    (s.dispatchRelativePointerPosition dx dy b).lastMask = b := Touchpad.lastMask_pointer dx dy b _

theorem lastMask_swipe (dx : Int) (s : MouseMode) : (s.swipe w dx).lastMask = s.lastMask := by
  simp [swipe, lastMask, Touchpad.lastMask, Touchpad.notifyKeyboard, Touchpad.send, TouchpadSent.buttonState]

/-- No button is reported: a click that is remembered is dispatched as the right button, and
under the control key nothing is. -/
theorem lastMask_move (dx dy : Int) (s : MouseMode) :
    (s.move w dx dy 0).lastMask =
      if s.ctrlClick.clicked then 2 else if s.ctrlClick.ctrl then s.lastMask else 0 := by
  show _ = if s.touchpad.button.rightClick then 2 else if s.touchpad.ps2Mouse.isCtrlScrollSwipe then s.lastMask else 0
  unfold move
  by_cases hclicked : s.touchpad.button.rightClick = true
  · have hswipes : s.swipes dx dy = false := by simp [swipes, hclicked]
    simp only [hswipes, hclicked, Bool.not_true, Bool.and_false, Bool.false_eq_true, if_false, if_true]
    exact lastMask_pointer dx dy 0x2 s
  have hclicked := Bool.eq_false_iff.mpr hclicked
  by_cases hctrl : s.touchpad.ps2Mouse.isCtrlScrollSwipe = true
  · simp only [hclicked, hctrl, Bool.not_false, Bool.and_true, Bool.false_eq_true, if_false, if_true]
    split
    · exact lastMask_swipe dx s
    · exact congrArg Touchpad.lastMask (touchpad_scroll dx dy 0 s)
  · have hup := Bool.eq_false_iff.mpr hctrl
    have hswipes : s.swipes dx dy = false := by simp [swipes, hup]
    simp only [hswipes, hclicked, hup, Bool.false_and, Bool.false_eq_true, if_false]
    exact lastMask_pointer dx dy 0 s

theorem dragLock_off {s : MouseMode} (h : s.isDragLockEnabled = false) (buttons : UInt8) :
    s.dragLock buttons = (buttons, s) := by
  simp [dragLock, h]

theorem allowedButtons_zero (s : MouseMode) : s.allowedButtons 0 = 0 := ite_self 0

theorem buttonless {b : UInt8} (h : b &&& 0x7 = 0) : b &&& 0x1 = 0 ∧ b &&& 0x2 = 0 ∧ b &&& 0x4 = 0 := by
  have hbits : ∀ b : UInt8, b &&& 0x7 = 0 → b &&& 0x1 = 0 ∧ b &&& 0x2 = 0 ∧ b &&& 0x4 = 0 := by decide +kernel
  exact hbits b h

theorem isDragLockEnabled_leftButton (p : Packet) (s : MouseMode) :
    (s.leftButton p).isDragLockEnabled = s.isDragLockEnabled := by
  unfold leftButton contextMenu countDragPackets
  repeat' split
  all_goals rfl

theorem lastMask_buttonless {p : Packet} {s : MouseMode} (hlock : s.isDragLockEnabled = false)
    (hp : p 0 &&& 0x7 = 0) : (s.processMousePacket w p).lastMask =
      if s.ctrlClick.clicked then 2 else if s.ctrlClick.ctrl then s.lastMask else 0 := by
  obtain ⟨hleft, hright, hmiddle⟩ := buttonless hp
  have hbuttons : packetButtons p = 0 := by simp [packetButtons, hleft, hright, hmiddle]
  have hsame : s.leftButton p = s := by simp [leftButton, hleft]
  have hlock' : (s.noteButtons 0).isDragLockEnabled = false := hlock
  show ((s.leftButton p).noteButtons (packetButtons p) |>.follow w _ _ (packetButtons p)).lastMask = _
  rw [hsame, hbuttons, follow, dragLock_off hlock']
  show ((s.noteButtons 0).swipeTimeout w |>.move w _ _ ((s.noteButtons 0).allowedButtons 0)).lastMask = _
  rw [allowedButtons_zero]
  exact lastMask_move ..

theorem isDragLockEnabled_dragLock (buttons : UInt8) (s : MouseMode) :
    (s.dragLock buttons).2.isDragLockEnabled = s.isDragLockEnabled := by
  unfold dragLock
  split <;> rfl

theorem isDragLockEnabled_move (dx dy : Int) (buttons : UInt8) (s : MouseMode) :
    (s.move w dx dy buttons).isDragLockEnabled = s.isDragLockEnabled := by
  have hpressed : (s.releasePressed buttons).isDragLockEnabled = s.isDragLockEnabled := by
    unfold releasePressed
    split <;> rfl
  unfold move scroll
  dsimp only
  repeat' split
  · rfl
  · exact hpressed
  · exact hpressed
  · exact hpressed
  · rfl
  · rfl

theorem isDragLockEnabled_step (s : MouseMode) (e : Event) :
    (s.step e).isDragLockEnabled = s.isDragLockEnabled := by
  cases e with
  | ctrlKey w down => cases down <;> rfl
  | packet w p =>
    calc (s.processMousePacket w p).isDragLockEnabled
      _ = (((s.leftButton p).noteButtons (packetButtons p)).dragLock (packetButtons p)).2.isDragLockEnabled :=
        isDragLockEnabled_move ..
      _ = ((s.leftButton p).noteButtons (packetButtons p)).isDragLockEnabled := isDragLockEnabled_dragLock ..
      _ = s.isDragLockEnabled := isDragLockEnabled_leftButton p s

/-! Runs. -/

/-- No button is down in the system, and no click is remembered. -/
structure NoButton (s : MouseMode) : Prop where
  lastMask : s.lastMask = 0
  rightClick : s.touchpad.button.rightClick = false

theorem ctrlClick_run (ls : List Event) (s : MouseMode) :
    (run step ls s).ctrlClick = run CtrlClick.next ls s.ctrlClick := by
  induction ls generalizing s with
  | nil => rfl
  | cons e ls ih =>
    show (run step ls (s.step e)).ctrlClick = _
    rw [ih, ctrlClick_step]
    rfl

theorem noButton_buttonless {p : Packet} {s : MouseMode} (hlock : s.isDragLockEnabled = false)
    (hp : p 0 &&& 0x7 = 0) : NoButton (s.processMousePacket w p) ↔
      s.ctrlClick.clicked = false ∧ (s.ctrlClick.ctrl = true → s.lastMask = 0) := by
  have hmask := lastMask_buttonless (w := w) hlock hp
  have hkept : (s.processMousePacket w p).ctrlClick = s.ctrlClick := by
    have hstep := ctrlClick_step (.packet w p) s
    rw [CtrlClick.next, (buttonless hp).1] at hstep
    exact hstep
  have hclick : (s.processMousePacket w p).touchpad.button.rightClick = s.ctrlClick.clicked :=
    congrArg CtrlClick.clicked hkept
  constructor
  · rintro ⟨hzero, hright⟩
    rw [hclick] at hright
    refine ⟨hright, fun hctrl => ?_⟩
    rw [hmask, hright, hctrl] at hzero
    exact hzero
  · rintro ⟨hright, hctrl⟩
    refine ⟨?_, hclick.trans hright⟩
    rw [hmask, hright]
    cases hdown : s.ctrlClick.ctrl with
    | false => rfl
    | true => exact hctrl hdown

/-- In a run from no button down, each packet that reports no button leaves none down just
when the control key was up at the last packet with the left button, and, while the key is
down, the last mask dispatched was 0. -/
theorem released_iff {s : MouseMode} (hlock : s.isDragLockEnabled = false) (h₀ : NoButton s) (ls : List Event) :
    (∀ p w packet, p ++ [.packet w packet] <+: ls → packet 0 &&& 0x7 = 0 →
      NoButton (run step (p ++ [.packet w packet]) s)) ↔
    ∀ p w packet, p ++ [.packet w packet] <+: ls → packet 0 &&& 0x7 = 0 →
      let told := run CtrlClick.next p ⟨s.touchpad.ps2Mouse.isCtrlScrollSwipe, false⟩
      told.clicked = false ∧ (told.ctrl = true → (run step p s).lastMask = 0) := by
  have hstart : s.ctrlClick = ⟨s.touchpad.ps2Mouse.isCtrlScrollSwipe, false⟩ :=
    congrArg (CtrlClick.mk _) h₀.rightClick
  have hlocks : ∀ p, (run step p s).isDragLockEnabled = false := by
    intro p
    exact run_invariant (I := fun s => s.isDragLockEnabled = false)
      (fun s e h => (isDragLockEnabled_step s e).trans h) p hlock
  have hpacket : ∀ p w packet, packet 0 &&& 0x7 = 0 →
      (NoButton (run step (p ++ [.packet w packet]) s) ↔
        (run CtrlClick.next p ⟨s.touchpad.ps2Mouse.isCtrlScrollSwipe, false⟩).clicked = false ∧
          ((run CtrlClick.next p ⟨s.touchpad.ps2Mouse.isCtrlScrollSwipe, false⟩).ctrl = true →
            (run step p s).lastMask = 0)) := by
    intro p w packet hp
    rw [run_append, ← hstart, ← ctrlClick_run]
    exact noButton_buttonless (hlocks p) hp
  constructor
  · intro h p w packet hp hnone
    exact (hpacket p w packet hnone).mp (h p w packet hp hnone)
  · intro h p w packet hp hnone
    exact (hpacket p w packet hnone).mpr (h p w packet hp hnone)

/-- The driver before the first packet; only the buttons and the control key matter. -/
def start : MouseMode :=
  { lastButton := 0, dragPackets := 0, isSwipeDone := false, enableLRSwipe := false, lastSwipeTime := 0
    isDragEnabled := true, isDragLockEnabled := false, isHScrollEnabled := true, isVScrollEnabled := true
    scrolled := [], touchpad := Touchpad.init }

theorem noButton_start : NoButton start := ⟨rfl, rfl⟩

def mousePacket (buttons : UInt8) : Event := .packet .silent (Touchpad.buttonPacket (0x08 ||| buttons))

/-- The left button is pressed and released. -/
theorem released_click : NoButton (run step ([mousePacket 1] ++ [mousePacket 0]) start) := by
  refine (released_iff rfl noButton_start [mousePacket 1, mousePacket 0]).mpr ?_ [mousePacket 1] .silent
    (Touchpad.buttonPacket 0x08) (List.prefix_refl _) (by decide)
  intro p w packet hp _
  obtain ⟨rest, hrest⟩ := hp
  match p with
  | [] => exact ⟨rfl, fun h => Bool.noConfusion h⟩
  | [e] =>
    obtain ⟨rfl, -⟩ := List.cons.inj hrest
    exact ⟨rfl, fun h => Bool.noConfusion h⟩
  | e :: e' :: p => simp at hrest

/-- The left button is pressed and released while the control key is down. -/
theorem ctrlClick_leftDown :
    ¬ ∀ (s : MouseMode), s.isDragLockEnabled = false → NoButton s → ∀ (ls : List Event) p w packet,
      p ++ [.packet w packet] <+: ls → packet 0 &&& 0x7 = 0 → NoButton (run step (p ++ [.packet w packet]) s) := by
  intro h
  have hreleased := h start rfl noButton_start [.ctrlKey .silent true, mousePacket 1, .ctrlKey .silent false, mousePacket 0]
    [.ctrlKey .silent true, mousePacket 1, .ctrlKey .silent false] .silent (Touchpad.buttonPacket 0x08)
    (List.prefix_refl _) (by decide)
  exact absurd hreleased.rightClick (by decide)

/-- A click that is remembered keeps the right button down, until the left one is pressed again. -/
theorem stuck_run {s : MouseMode} (hlock : s.isDragLockEnabled = false) (hclicked : s.ctrlClick.clicked = true)
    {ls : List Event} (hls : ∀ w packet, Event.packet w packet ∈ ls → packet 0 &&& 0x7 = 0) (p : List Event)
    (w : TouchpadWorld) (packet : Packet) (hp : p ++ [.packet w packet] <+: ls) :
    (run step (p ++ [.packet w packet]) s).lastMask = 2 := by
  have htold : ∀ (q : List Event) (c : CtrlClick), (∀ w packet, Event.packet w packet ∈ q → packet 0 &&& 0x7 = 0) →
      (run CtrlClick.next q c).clicked = c.clicked := by
    intro q c hq
    induction q generalizing c with
    | nil => rfl
    | cons e q ih =>
      show (run CtrlClick.next q (c.next e)).clicked = _
      rw [ih _ fun w packet hm => hq w packet (List.mem_cons_of_mem _ hm)]
      cases e with
      | ctrlKey w down => rfl
      | packet w packet => rw [CtrlClick.next, (buttonless (hq w packet (List.mem_cons_self ..))).1]; rfl
  have hbefore : (run step p s).ctrlClick.clicked = true := by
    rw [ctrlClick_run, htold, hclicked]
    intro w' packet' hm
    exact hls w' packet' (hp.subset (List.mem_append_left _ hm))
  have hlock' : (run step p s).isDragLockEnabled = false :=
    run_invariant (I := fun s => s.isDragLockEnabled = false) (fun s e h => (isDragLockEnabled_step s e).trans h) p hlock
  have hnone : packet 0 &&& 0x7 = 0 := hls w packet (hp.subset (by simp))
  rw [run_append]
  show ((run step p s).processMousePacket w packet).lastMask = 2
  rw [lastMask_buttonless hlock' hnone, hbefore]
  rfl

end MouseMode
end ApplePS2
