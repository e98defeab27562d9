import ApplePS2.Touchpad.Timers
import ApplePS2.Transition

/- The click of a tap: its press is dispatched at the end of a touch, and its release is
   left to the release timer, which the next touch cancels (`Process_touch_end`,
   `Process_fingers_change`, `Process_singlefinger_touch`, `Release_ButtonsAndDrag`). Of
   the gesture functions only what concerns the button and its release is given; the
   rest of them is a parameter of each call.

   1. `eased_fingers_change`, `eased_Process_Physical_Buttons` and the lemmas beside them:
      nothing but the end of a touch leaves the button to the timer.
   2. `safe_step`: a step keeps the timer running as long as it is needed, if it is timely.
   3. `unstuck_run`: then no click is stuck in any state of a run. -/
namespace ApplePS2

open Transition

namespace Touchpad

/-! The button and its release. -/

def isPressed (s : Touchpad) : Bool := s.button.state &&& 1 ≠ 0

/-- The left button is pressed, and it is left to the timer to release it. -/
def needsRelease (s : Touchpad) : Bool := s.isPressed && !s.drag.isDragging && !s.button.triggered

/-- A drag is one of a tap, or of a finger that is held. -/
def dragKind (s : Touchpad) : Bool := s.drag.isDragging = (s.drag.isTapDrag || s.drag.isHoldDrag)

/-- What tells whether the button is left to the timer. -/
structure ClickView where
  state : UInt8
  triggered : Bool
  drag : Drag

def clickView (s : Touchpad) : ClickView :=
  { state := s.button.state, triggered := s.button.triggered, drag := s.drag }

/-- What the rest of a gesture function leaves alone. -/
structure TapView where
  cFingers : UInt8
  lastFingers : UInt8
  isAppSwitchDone : Bool
  click : ClickView

def tapView (s : Touchpad) : TapView :=
  { cFingers := s.cFingers, lastFingers := s.lastFingers, isAppSwitchDone := s.swipe.isAppSwitchDone
    click := s.clickView }

/-- "Cancel active timers", the release timer among them. -/
def cancelsTimers (s : Touchpad) : Bool :=
  s.doTimerJob || s.scroll.doCont || s.scroll.inertiaDeltaX ≠ 0 || s.scroll.inertiaDeltaY ≠ 0

/-- A finger or two are pressed long enough for a drag. -/
def startFingersDrag (s : Touchpad) : Touchpad :=
  { s with drag.isDragging := true, drag.isHoldDrag := true, drag.is3FDrag := true }

def doAppSwitch (s : Touchpad) : Touchpad :=
  { s.notifyKeyboard .kPS2C_Gesture_AppSwitch with swipe.isAppSwitchDone := true }

/-- "Set button mode to 0x1 when 2f drag started from button area to avoid middle click" -/
def dragButton2F (s : Touchpad) : Touchpad :=
  if s.button.triggered && s.button.data ≠ 0x1 then
    { s with button.state := 0x1, button.data := 0x1, button.is2FClick := false }
  else s

end Touchpad

/-- The rest of a gesture function. -/
structure TapRest where
  run : Touchpad → Touchpad
  keeps : ∀ s, (run s).tapView = s.tapView

/-- How far `Process_singlefinger_touch` gets: it may return before it checks for a second tap, and
before it moves the pointer. -/
inductive Reach where
  | skipped | checked | moved
  deriving DecidableEq, Repr

structure SingleTouch where
  reach : Reach
  /-- The finger is pressed long enough for a drag. -/
  press : Bool
  /-- An edge swipe switches the application. -/
  appSwitch : Bool
  rest : TapRest

structure MultiTouch where
  /-- The fingers are pressed long enough for a drag. -/
  press : Bool
  appSwitch : Bool
  /-- One of two fingers on a clickpad is dragged with the other one on the button area. -/
  drag2F : Bool
  rest : TapRest

inductive TapEvent where
  | fingersChange (count : UInt8)
  /-- The status packet with the mask 2, "1F Tap in 2F Move". -/
  | tapIn2FMove
  | singlefinger (w : TouchpadWorld) (c : SingleTouch)
  | multiFingers (c : MultiTouch)
  /-- The last finger is lifted, or a quick tap has ended on Synaptics' touchpads. -/
  | touchEnd (w : TouchpadWorld) (lifted : Bool)
  | physicalButtons (p : Packet)
  | virtualButtons (p : Packet) (packetType fid fCount : UInt8)
  /-- The buttons while one finger is on the touchpad: a click off the button area starts a drag. -/
  | buttons1F (p : Packet) (packetType : UInt8) (fid : Int)
  | buttonsSyn1F (p : Packet)
  | release

namespace TapDriver

variable (isDragEnabled : Bool) (inertia : Inertia) (w : TouchpadWorld)

def fingersChange (d : TapDriver) : TapDriver :=
  { taps :=
      { d.taps with releaseTimer := d.taps.releaseTimer && !d.touchpad.cancelsTimers, pDx := 0, pDy := 0 }
    touchpad := d.touchpad.Process_fingers_change }

/-- "Check for the Double Tap to drag based on last tap time" -/
def checksQuickTap (d : TapDriver) : Bool :=
  d.touchpad.cFingers = 1 && d.touchpad.lastFingers = 0 && !d.touchpad.button.triggered && d.taps.isQuickTap

/-- The time for a second tap is over. -/
def quickTapOver (d : TapDriver) : Bool := w.uptime 0 - d.taps.lastTime > d.taps.timeout

def startTapDrag (d : TapDriver) : TapDriver :=
  { d with
    touchpad.button.data := 0x1, touchpad.button.state := d.touchpad.button.state ||| 0x1
    touchpad.drag.isTapDrag := true, touchpad.drag.isDragging := true, touchpad.doTimerJob := false
    taps.releaseTimer := false }

def clearQuickTap (d : TapDriver) : TapDriver :=
  { d with touchpad.button.data := 0, touchpad.button.state := d.touchpad.button.state &&& 0x6 }

def quickTap (d : TapDriver) : TapDriver :=
  if d.checksQuickTap then
    let d :=
      if d.quickTapOver w then { d with taps.lastTime := 0, taps.isQuickTap := false }
      else if isDragEnabled && d.taps.checkTapDrag then d.startTapDrag
      else d.clearQuickTap
    { d with taps.checkTapDrag := false }
  else if d.touchpad.cFingers > 1 && d.taps.isQuickTap then { d with taps.isQuickTap := false }
  else d

/-- The button with which the pointer moves. -/
def moveButton (press : Bool) (d : TapDriver) : TapDriver :=
  let s := d.touchpad
  if isDragEnabled && (s.drag.isTapDrag || press) then
    { d with
      touchpad.button.state := s.button.state ||| 0x1
      touchpad.drag.isHoldDrag := s.drag.isHoldDrag || !s.drag.isTapDrag
      touchpad.drag.isDragging := s.drag.isDragging || !s.drag.isTapDrag && !s.drag.isHoldDrag }
  else if s.button.triggered then { d with touchpad.button.state := s.button.state ||| s.button.data }
  else
    { d with
      touchpad.button.data := 0
      touchpad.button.state := if s.drag.isDragging then s.button.state ||| 0x1 else s.button.state }

/-- The gesture functions are called while a finger is counted. -/
def touched (f : TapDriver → TapDriver) (d : TapDriver) : TapDriver := if d.touchpad.cFingers = 0 then d else f d

def Process_singlefinger_touch (c : SingleTouch) (d : TapDriver) : TapDriver :=
  let d := d.pad fun s => s.when c.appSwitch Touchpad.doAppSwitch
  let d := if c.reach = .skipped then d else d.quickTap isDragEnabled w
  let d := if c.reach = .moved then d.moveButton isDragEnabled c.press else d
  d.pad c.rest.run

def multiFingers (c : MultiTouch) (d : TapDriver) : TapDriver :=
  d.pad fun s => c.rest.run <|
    ((s.when c.press Touchpad.startFingersDrag).when c.appSwitch Touchpad.doAppSwitch).when c.drag2F
      Touchpad.dragButton2F

def liftLast (lifted : Bool) : TapDriver → TapDriver := pad fun s => s.when lifted (Touchpad.setFingers 0)

def step (d : TapDriver) : TapEvent → TapDriver
  | .fingersChange count => (d.pad (Touchpad.setFingers count)).fingersChange
  | .tapIn2FMove => (d.pad fun s => { (s.setFingers 0x02).tapIn2FMove with cFingers := 1 }).fingersChange
  | .singlefinger w c => d.touched (Process_singlefinger_touch isDragEnabled w c)
  | .multiFingers c => d.touched (multiFingers c)
  | .touchEnd w lifted => (d.liftLast lifted).Process_touch_end w inertia
  | .physicalButtons p => d.pad (Touchpad.Process_Physical_Buttons p)
  | .virtualButtons p packetType fid fCount =>
    d.pad (Touchpad.Process_ClickPad_Virtual_Buttons p packetType fid fCount)
  | .buttons1F p packetType fid => d.pad (Touchpad.buttons1F p packetType fid)
  | .buttonsSyn1F p => d.pad (Touchpad.buttonsSyn1F p)
  | .release => if d.taps.releaseTimer then d.Release_ButtonsAndDrag else d

/-! Stuck clicks. -/

/-- No click of a tap is stuck while no finger is on the touchpad, and no application switch. -/
structure Unstuck (d : TapDriver) : Prop where
  click : d.touchpad.cFingers = 0 → d.touchpad.isPressed = true →
    d.touchpad.drag.isDragging = true ∨ d.touchpad.button.triggered = true ∨
      (d.taps.releaseTimer = true ∧ d.isReleaseDue = true)
  appSwitch : d.touchpad.cFingers = 0 → d.touchpad.swipe.isAppSwitchDone = true → d.taps.releaseTimer = true

/-- The timer has something to release. -/
def needsTimer (d : TapDriver) : Bool := d.touchpad.needsRelease || d.touchpad.swipe.isAppSwitchDone

/-- The button that is left to the timer is one that the timer releases. -/
structure Covered (d : TapDriver) : Prop where
  drag : d.touchpad.dragKind = true
  click : d.touchpad.needsRelease = true → d.taps.checkTapDrag = true

/-- While no finger is on the touchpad, the timer is running if it is needed. -/
structure Safe (d : TapDriver) : Prop extends Covered d where
  timer : d.touchpad.cFingers = 0 → d.needsTimer = true → d.taps.releaseTimer = true

/-- A change to no finger that does not end a touch comes when the timer is not needed, or runs on.
The next touch of a tap is checked in time. -/
def Timely (d : TapDriver) : TapEvent → Prop
  | .fingersChange count => count = 0 → d.needsTimer = true →
      d.taps.releaseTimer = true ∧ d.touchpad.cancelsTimers = false
  | .singlefinger w c => c.reach ≠ .skipped → d.checksQuickTap = true → d.quickTapOver w = true →
      d.touchpad.needsRelease = false
  | _ => True

end TapDriver

/-! What leaves no more to the timer. -/

namespace Touchpad

structure Eased (s t : Touchpad) : Prop where
  drag : s.dragKind = true → t.dragKind = true
  release : t.needsRelease = true → s.needsRelease = true
  appSwitch : t.swipe.isAppSwitchDone = true → s.swipe.isAppSwitchDone = true
  fingers : t.cFingers = s.cFingers

theorem Eased.refl (s : Touchpad) : Eased s s := ⟨id, id, id, rfl⟩

theorem Eased.trans {s t u : Touchpad} (h : Eased s t) (h' : Eased t u) : Eased s u :=
  ⟨fun hs => h'.drag (h.drag hs), fun hu => h.release (h'.release hu), fun hu => h.appSwitch (h'.appSwitch hu),
    h'.fingers.trans h.fingers⟩

theorem Eased.when {s : Touchpad} {f : Touchpad → Touchpad} (c : Bool) (h : Eased s (f s)) : Eased s (s.when c f) := by
  cases c with
  | true => exact h
  | false => exact .refl s

theorem clickView_eq {s t : Touchpad} (h : t.clickView = s.clickView) :
    t.dragKind = s.dragKind ∧ t.needsRelease = s.needsRelease :=
  ⟨congrArg (fun v : ClickView => (v.drag.isDragging = (v.drag.isTapDrag || v.drag.isHoldDrag) : Bool)) h,
    congrArg (fun v : ClickView => v.state &&& 1 ≠ 0 && !v.drag.isDragging && !v.triggered) h⟩

/-- The button and the drag are left alone. -/
theorem Eased.same {s t : Touchpad} (h : t.tapView = s.tapView) : Eased s t := by
  obtain ⟨hdrag, hrelease⟩ := clickView_eq (congrArg TapView.click h)
  have hswitch : t.swipe.isAppSwitchDone = s.swipe.isAppSwitchDone := congrArg TapView.isAppSwitchDone h
  exact ⟨fun hs => hdrag.trans hs, fun ht => hrelease.symm.trans ht, fun ht => hswitch.symm.trans ht,
    congrArg TapView.cFingers h⟩

theorem needsRelease_triggered {s : Touchpad} (h : s.button.triggered = true) : s.needsRelease = false := by
  unfold needsRelease
  rw [h]
  simp

theorem needsRelease_zero {s : Touchpad} (h : s.button.state = 0) : s.needsRelease = false := by
  unfold needsRelease isPressed
  rw [h]
  rfl

/-- A button is held. -/
theorem Eased.triggers {s t : Touchpad} (h : t.button.triggered = true) (hdrag : t.drag = s.drag)
    (hswitch : t.swipe.isAppSwitchDone = true → s.swipe.isAppSwitchDone = true) (hfingers : t.cFingers = s.cFingers) :
    Eased s t := by
  refine ⟨fun hs => ?_, fun ht => ?_, hswitch, hfingers⟩
  · unfold dragKind at hs ⊢
    rw [hdrag]
    exact hs
  · rw [needsRelease_triggered h] at ht
    exact absurd ht Bool.false_ne_true

/-- The button is released, and maybe the drag. -/
theorem Eased.releases {s t : Touchpad} (h : t.button.state = 0) (hdrag : t.drag = s.drag ∨ t.drag = clearDrag s.drag)
    (hswitch : t.swipe.isAppSwitchDone = true → s.swipe.isAppSwitchDone = true) (hfingers : t.cFingers = s.cFingers) :
    Eased s t := by
  refine ⟨fun hs => ?_, fun ht => ?_, hswitch, hfingers⟩
  · unfold dragKind at hs ⊢
    obtain hdrag | hdrag := hdrag
    · rw [hdrag]
      exact hs
    · rw [hdrag]
      rfl
  · rw [needsRelease_zero h] at ht
    exact absurd ht Bool.false_ne_true

theorem eased_releaseAppSwitch (s : Touchpad) : Eased s s.releaseAppSwitch := by
  unfold releaseAppSwitch
  split
  · exact ⟨id, id, fun h => absurd h Bool.false_ne_true, rfl⟩
  · exact .refl s

theorem eased_fingers_change (s : Touchpad) : Eased s s.Process_fingers_change := by
  have hslots : Eased s s.updateSlots := by
    unfold updateSlots
    repeat' split
    all_goals exact .same rfl
  have htimers : ∀ s : Touchpad, Eased s s.cancelTimers := fun s => .trans (.when _ (.same rfl)) (.when _ (.same rfl))
  have hdrag : ∀ s : Touchpad, Eased s s.clearHeldDrag := by
    intro s
    have huse : Eased s (s.when (!s.drag.isTapDrag && s.drag.isHoldDrag) (use [s.pid])) := .when _ (.same rfl)
    unfold clearHeldDrag
    dsimp only
    split
    · exact huse.trans (.releases rfl (.inr rfl) id rfl)
    · exact huse
  have hcontinue : ∀ s : Touchpad, Eased s s.continueTouch := fun s => .same rfl
  have hclear : ∀ s : Touchpad, Eased s s.clearFingers := fun s => .when _ (.same rfl)
  have hmodes : ∀ s : Touchpad, Eased s s.clearModes := by
    intro s
    have hswipe : s.clearedSwipe.isAppSwitchDone = s.swipe.isAppSwitchDone := by
      unfold clearedSwipe
      split <;> rfl
    refine ⟨id, id, fun h => ?_, rfl⟩
    exact hswipe.symm.trans h
  have hstart : ∀ s : Touchpad, Eased s s.startTouch := fun s => .when _ (.same rfl)
  have hchange := ((hslots.trans (htimers _)).trans (hdrag _)).trans (hcontinue _)
  exact ((hchange.trans (hclear _)).trans (hmodes _)).trans (hstart _)

theorem eased_Process_Physical_Buttons (p : Packet) (s : Touchpad) : Eased s (s.Process_Physical_Buttons p) := by
  have hstop : ∀ s : Touchpad, Eased s (s.when s.pContinuousMove StopPointerEnhanceTimer) := fun s =>
    .when _ (.same rfl)
  have hrelease : ∀ data, Eased s { s.releaseTriggered data with button.data := 0, button.triggered := false } := by
    intro data
    unfold releaseTriggered
    split
    · have hzero : ∀ t : Touchpad, t.button.state = 0 →
          Eased t { t.releaseAppSwitch with button.data := 0, button.triggered := false } := by
        intro t ht
        have hstate : t.releaseAppSwitch.button.state = 0 := by
          rw [(lastMask_releaseAppSwitch t).1]
          exact ht
        exact (eased_releaseAppSwitch t).trans (.releases hstate (.inl rfl) id rfl)
      refine .trans ?_ (hzero _ rfl)
      exact .releases rfl (.inr rfl) id rfl
    · next hnone =>
      have htriggered : s.button.triggered = false := by
        rw [Bool.or_eq_true, not_or] at hnone
        exact Bool.eq_false_iff.2 hnone.1
      refine .same ?_
      unfold tapView clickView
      dsimp only
      rw [htriggered]
  have hbuttons : ∀ data, Eased s (s.releaseButtons data) := fun data => (hrelease data).trans (hstop _)
  unfold Process_Physical_Buttons pressLeft pressRight
  dsimp only
  repeat' split
  · exact .refl s
  · exact .same rfl
  · exact .triggers rfl rfl id rfl
  · exact .triggers rfl rfl id rfl
  · exact .triggers rfl rfl id rfl
  · exact .triggers rfl rfl id rfl
  · exact hbuttons _

theorem eased_virtualButtons (p : Packet) (packetType fid fCount : UInt8) (s : Touchpad) :
    Eased s (s.Process_ClickPad_Virtual_Buttons p packetType fid fCount) := by
  -- the button is triggered, whatever it is
  have hdispatch : ∀ s : Touchpad, s.button.triggered = true → Eased s s.virtualDispatch := by
    intro s hs
    have hstop : Eased s (s.when s.pContinuousMove StopPointerEnhanceTimer) := .when _ (.same rfl)
    have hstart := hstop.trans (eased_releaseAppSwitch _)
    have hbutton : (s.when s.pContinuousMove StopPointerEnhanceTimer).releaseAppSwitch.button = s.button := by
      rw [(lastMask_releaseAppSwitch _).1]
      unfold when
      split <;> rfl
    unfold virtualDispatch
    dsimp only
    split
    · exact hstart
    · refine hstart.trans (.triggers ?_ rfl id rfl)
      exact (congrArg Button.triggered hbutton).trans hs
  have hbutton1F : ∀ (x : UInt16) (s : Touchpad), (s.virtualButton1F x).triggered = s.button.triggered := by
    intro x s
    unfold virtualButton1F
    dsimp only
    repeat' split
    all_goals rfl
  have hofState : ∀ b : Button, b.ofState.triggered = b.triggered := by
    intro b
    unfold Button.ofState
    split <;> rfl
  have hbutton2F : ∀ s : Touchpad, s.virtualButton2F.triggered = s.button.triggered := by
    intro s
    unfold virtualButton2F
    dsimp only
    repeat' split
    all_goals first
      | rfl
      | exact hofState _
  have hclick : ∀ t : Touchpad, t.button.triggered = true → Eased t
      (if fCount = 1 then t.virtualClick1F fid else if fCount = 2 then t.virtualClick2F else t.virtualDispatch) := by
    intro t ht
    split
    · have hone := (hbutton1F (t.fing fid.toNat).x t).trans ht
      unfold virtualClick1F
      split
      · exact .same rfl
      · refine .trans ?_ (hdispatch _ hone)
        exact .triggers hone rfl id rfl
    · split
      · have htwo := (hbutton2F t).trans ht
        refine .trans ?_ (hdispatch _ htwo)
        exact .triggers htwo rfl id rfl
      · exact hdispatch t ht
  -- the press triggers the button before it is known which it is
  have hpressed : Eased s { s with
      rotate.isRotateGesture := false, rotate.isRotateMode := false, button.triggered := true } :=
    .triggers rfl rfl id rfl
  unfold Process_ClickPad_Virtual_Buttons
  split
  · exact .refl s
  split
  · exact hpressed.trans (hclick _ rfl)
  · unfold virtualRelease
    split
    · exact .releases rfl (.inr rfl) id rfl
    · exact .same rfl

theorem eased_clickDrag (s : Touchpad) : Eased s s.clickDrag := by
  refine .when _ ⟨fun _ => ?_, fun hneeds => ?_, id, rfl⟩
  · simp [dragKind]
  · simp [needsRelease] at hneeds

/-- With the finger on the button area, or off it. -/
theorem eased_clicks (p : Packet) (packetType fid : UInt8) {s t : Touchpad} (h : t.tapView = s.tapView) :
    Eased s (t.Process_ClickPad_Virtual_Buttons p packetType fid 1).clickDrag :=
  ((Eased.same h).trans (eased_virtualButtons p packetType fid 1 t)).trans (eased_clickDrag _)

theorem eased_buttons1F (p : Packet) (packetType : UInt8) (fid : Int) (s : Touchpad) :
    Eased s (s.buttons1F p packetType fid) := by
  unfold buttons1F
  repeat' split
  · exact eased_Process_Physical_Buttons p s
  · exact eased_clicks p packetType (.ofInt fid) rfl
  · exact .refl s

theorem eased_buttonsSyn1F (p : Packet) (s : Touchpad) : Eased s (s.buttonsSyn1F p) := by
  unfold buttonsSyn1F
  repeat' split
  · exact eased_Process_Physical_Buttons p s
  · exact eased_clicks p 0 (.ofInt s.pid) rfl
  · exact .refl s

theorem eased_tapIn2FMove (s : Touchpad) : Eased s s.tapIn2FMove := by
  unfold tapIn2FMove
  split
  · exact .releases rfl (.inl rfl) id rfl
  · exact .refl s

end Touchpad

/-! The end of a touch. -/

namespace TapDriver

variable {isDragEnabled : Bool} {inertia : Inertia} {w : TouchpadWorld}

/-- Neither the button nor the drag is concerned, nor what the timer is to release. -/
structure Viewed (d e : TapDriver) : Prop where
  view : e.touchpad.clickView = d.touchpad.clickView
  check : e.taps.checkTapDrag = d.taps.checkTapDrag

theorem Viewed.trans {d e f : TapDriver} (h : Viewed d e) (h' : Viewed e f) : Viewed d f :=
  ⟨h'.view.trans h.view, h'.check.trans h.check⟩

theorem Covered.same {d e : TapDriver} (h : Covered d) (he : Viewed d e) : Covered e := by
  obtain ⟨hdrag, hrelease⟩ := Touchpad.clickView_eq he.view
  exact ⟨hdrag.trans h.drag, fun hneeds => he.check.trans (h.click (hrelease.symm.trans hneeds))⟩

/-- The button is released. -/
theorem Covered.zero {e : TapDriver} (hdrag : e.touchpad.dragKind = true) (hstate : e.touchpad.button.state = 0) :
    Covered e := by
  refine ⟨hdrag, fun he => ?_⟩
  rw [Touchpad.needsRelease_zero hstate] at he
  exact absurd he Bool.false_ne_true

theorem Covered.eased {d e : TapDriver} (h : Covered d) (hpad : d.touchpad.Eased e.touchpad)
    (hcheck : e.taps.checkTapDrag = d.taps.checkTapDrag) : Covered e :=
  ⟨hpad.drag h.drag, fun he => hcheck.trans (h.click (hpad.release he))⟩

theorem viewed_send (m : TouchpadSent) (d : TapDriver) : Viewed d (d.pad (Touchpad.send m)) := ⟨rfl, rfl⟩

theorem viewed_gestureAction (action : Int8) (d : TapDriver) : Viewed d (d.gestureAction action) := by
  have hplace : ∀ (b : UInt8) (e : TapDriver), Viewed e (e.place b) := fun b e => viewed_send _ e
  unfold gestureAction
  split
  · exact ⟨rfl, rfl⟩
  split
  · exact ⟨rfl, rfl⟩
  split
  · have hnc : ∀ e : TapDriver, Viewed e { e with taps.isNCDone := true } := fun e => ⟨rfl, rfl⟩
    have hopen := (hplace 0 d).trans (hnc _)
    unfold Open_NC ResetPointerToMiddle
    dsimp only
    split
    · exact hopen
    · exact (((hopen.trans (hplace 1 _)).trans (hplace 0 _)).trans (hplace _ _)).trans (hplace _ _)
  · exact viewed_send _ d

/-- The click of a tap is left to the timer, or it ends a drag. -/
theorem covered_tapClick {d : TapDriver} (h : Covered d) : Covered (d.tapClick w) := by
  have hpad : (d.checkDrag w).touchpad = d.touchpad := by
    unfold checkDrag
    split <;> rfl
  have hcheck : d.touchpad.drag.isDragging = false → (d.checkDrag w).taps.checkTapDrag = true := by
    intro hdragging
    unfold checkDrag
    rw [hdragging]
    cases hchecked : d.taps.checkTapDrag <;> simp [hchecked]
  have hquick : ∀ e : TapDriver, e.releaseQuickTap.touchpad.drag = e.touchpad.drag ∧
      e.releaseQuickTap.taps = e.taps := by
    intro e
    unfold releaseQuickTap
    split <;> exact ⟨rfl, rfl⟩
  obtain ⟨hdrag, htaps⟩ := hquick (d.checkDrag w)
  rw [hpad] at hdrag
  unfold tapClick dispatchTap
  generalize (d.checkDrag w).releaseQuickTap = e at hdrag htaps ⊢
  split
  · exact .zero rfl rfl
  · next hclick =>
    have hdragging : d.touchpad.drag.isDragging = false := by
      have hkind : d.touchpad.dragKind = true := h.drag
      have hnone : (d.touchpad.drag.isTapDrag || d.touchpad.drag.isHoldDrag) = false := by
        rw [← hdrag]
        exact Bool.eq_false_iff.2 hclick
      unfold Touchpad.dragKind at hkind
      rw [hnone] at hkind
      exact of_decide_eq_true hkind
    refine ⟨rfl, fun _ => ?_⟩
    show e.taps.checkTapDrag = true
    rw [htaps]
    exact hcheck hdragging

theorem covered_endTap1F {d : TapDriver} (h : Covered d) : Covered (d.endTap1F w) := by
  have hswitch : Covered (d.pad Touchpad.releaseAppSwitch) := h.eased (Touchpad.eased_releaseAppSwitch _) rfl
  have hquick : ∀ e : TapDriver, Viewed e { e with taps.isQuickTap := true, touchpad.tap.count := 0 } :=
    fun e => ⟨rfl, rfl⟩
  unfold endTap1F
  dsimp only
  repeat' split
  · exact h
  · exact h.same (viewed_gestureAction _ d)
  · exact h.same ⟨rfl, rfl⟩
  · exact (covered_tapClick hswitch).same (hquick _)
  · exact hswitch.same (hquick _)

theorem covered_dispatchMulTap {d : TapDriver} (h : Covered d) (data : UInt8) (action : Int8) :
    Covered (d.dispatchMulTap data action) := by
  have hpoint : ∀ (b : UInt8) (e : TapDriver), Viewed e (e.point 0 0 b) := fun b e => viewed_send _ e
  have hdone : Viewed d
      (if data = 2 || data = 4 then d |> point 0 0 data |> point 0 0 0 else d.gestureAction action) := by
    split
    · exact (hpoint data d).trans (hpoint 0 _)
    · exact viewed_gestureAction action d
  have hclear : ∀ e : TapDriver, Covered e →
      Covered { e.setButton 0 0 with touchpad.tap.count := 0, taps.fingersCount := 0 } := fun e he => .zero he.drag rfl
  exact hclear _ (h.same hdone)

theorem covered_endTap2F3F {d : TapDriver} (h : Covered d) (fingersCount : Int8) :
    Covered (d.endTap2F3F w fingersCount) := by
  have hcount : Covered (d.countTap fingersCount) := h.same ⟨rfl, rfl⟩
  have huncount : ∀ (t : UInt64) (e : TapDriver), Viewed e (e.uncountTap t) := by
    intro t e
    unfold uncountTap
    split <;> exact ⟨rfl, rfl⟩
  have htime : ∀ e : TapDriver, Viewed e { e with taps.lastTime := w.uptime 2 } := fun e => ⟨rfl, rfl⟩
  unfold endTap2F3F
  dsimp only
  repeat' split
  · exact h
  · exact (covered_dispatchMulTap hcount _ _).same (htime _)
  · exact (covered_dispatchMulTap hcount _ _).same (htime _)
  · exact hcount.same ((huncount _ _).trans (htime _))

theorem viewed_endTap4F5F (fingersCount : Int8) (d : TapDriver) : Viewed d (d.endTap4F5F w fingersCount) := by
  have hcount : Viewed d (d.countTap fingersCount) := ⟨rfl, rfl⟩
  have hclear : ∀ e : TapDriver, Viewed e
      { e with touchpad.tap.count := 0, taps.fingersCount := 0, taps.lastTime := w.uptime 2 } := fun e => ⟨rfl, rfl⟩
  have htime : ∀ e : TapDriver, Viewed e { e with taps.lastTime := w.uptime 2 } := fun e => ⟨rfl, rfl⟩
  have huncount : ∀ (t : UInt64) (e : TapDriver), Viewed e (e.uncountTap t) := by
    intro t e
    unfold uncountTap
    split <;> exact ⟨rfl, rfl⟩
  unfold endTap4F5F
  dsimp only
  repeat' split
  · exact ⟨rfl, rfl⟩
  · exact (hcount.trans (viewed_gestureAction _ _)).trans (hclear _)
  · exact (hcount.trans (viewed_gestureAction _ _)).trans (hclear _)
  · exact (hcount.trans (huncount _ _)).trans (htime _)

theorem viewed_endSwipe (a : SwipeActions) (d : TapDriver) : Viewed d (d.endSwipe a) := by
  have hdirection : ∀ e : TapDriver, Viewed e { e with touchpad.swipe.direction := 0 } := fun e => ⟨rfl, rfl⟩
  unfold endSwipe
  dsimp only
  split
  · exact (viewed_gestureAction _ d).trans (hdirection _)
  · exact hdirection d

theorem covered_endMode {d : TapDriver} (h : Covered d) : Covered (d.endMode w inertia) := by
  have hcorner : Viewed d d.endCornerTap := by
    unfold endCornerTap
    split
    · exact (viewed_send _ d).trans (viewed_send _ _)
    · exact ⟨rfl, rfl⟩
  have hzoom : Viewed d d.endZoom := by
    unfold endZoom
    repeat' split
    all_goals first
      | exact viewed_send _ d
      | exact ⟨rfl, rfl⟩
  have hscroll : Viewed d (d.endScroll inertia) := ⟨rfl, rfl⟩
  unfold endMode
  split
  · exact covered_endTap1F h
  · exact h.same hcorner
  · exact h.same hzoom
  · exact covered_endTap2F3F h 2
  · exact covered_endTap2F3F h 3
  · exact h.same (viewed_endTap4F5F 4 d)
  · exact h.same (viewed_endTap4F5F 5 d)
  · exact h.same (viewed_endSwipe _ d)
  · exact h.same (viewed_endSwipe _ d)
  · exact h.same hscroll
  · exact h.same hscroll
  · exact h.same hscroll
  · exact h.same hscroll
  · exact h.same hscroll
  · exact h

theorem Safe.eased {d e : TapDriver} (h : Safe d) (hpad : d.touchpad.Eased e.touchpad)
    (hcheck : e.taps.checkTapDrag = d.taps.checkTapDrag) (htimer : e.taps.releaseTimer = d.taps.releaseTimer) :
    Safe e := by
  refine { h.toCovered.eased hpad hcheck with timer := fun hnone hneeds => htimer.trans ?_ }
  refine h.timer (hpad.fingers.symm.trans hnone) ?_
  unfold needsTimer at hneeds ⊢
  rw [Bool.or_eq_true] at hneeds ⊢
  exact hneeds.imp hpad.release hpad.appSwitch

/-- The timer is started for whatever is left to it. -/
theorem safe_Process_touch_end {d : TapDriver} (h : Covered d) : Safe (d.Process_touch_end w inertia) := by
  have hend : Covered (d.endMode w inertia) := covered_endMode h
  unfold Process_touch_end
  generalize d.endMode w inertia = e at hend ⊢
  have hstart : Viewed e e.startReleaseTimer := by
    unfold startReleaseTimer
    dsimp only
    split <;> exact ⟨rfl, rfl⟩
  -- whatever needs the timer has started it
  have hruns : e.needsTimer = true → e.startReleaseTimer.taps.releaseTimer = true := by
    intro hneeds
    unfold startReleaseTimer
    dsimp only
    rw [if_pos]
    unfold needsTimer at hneeds
    cases hrelease : e.touchpad.needsRelease with
    | true => simp [hend.click hrelease]
    | false =>
      rw [hrelease, Bool.false_or] at hneeds
      simp [hneeds]
  have hswitch : e.startReleaseTimer.touchpad.swipe = e.touchpad.swipe := by
    unfold startReleaseTimer
    dsimp only
    split <;> rfl
  have hneeds : e.startReleaseTimer.needsTimer = e.needsTimer := by
    unfold needsTimer
    rw [(Touchpad.clickView_eq hstart.view).2, hswitch]
  have hsafe : Safe e.startReleaseTimer :=
    { hend.same hstart with timer := fun _ h => hruns (hneeds.symm.trans h) }
  -- what follows changes neither the button nor the timer
  have hrest : ∀ f : TapDriver, Safe f → Safe (f |> clearTaps |> pad Touchpad.clearTouch |> triggerBackLightOff) := by
    intro f hf
    have hlight : ∀ (c : Bool) (s : Touchpad), (s.when c Touchpad.backLightOff).tapView = s.tapView := by
      intro c s
      unfold Touchpad.when Touchpad.backLightOff
      repeat' split
      all_goals rfl
    have hview := hlight (f.touchpad.clearTouch.kbLight.hasAsusKBackLight && f.touchpad.clearTouch.kbLight.hasKBLightAutoOff)
      f.touchpad.clearTouch
    have hclear : Touchpad.Eased f.touchpad f.touchpad.clearTouch := ⟨id, id, id, rfl⟩
    exact hf.eased (hclear.trans (.same hview)) rfl rfl
  exact hrest _ hsafe

/-! Steps. -/

theorem Safe.unstuck {d : TapDriver} (h : Safe d) : Unstuck d := by
  constructor
  · intro hnone hpressed
    cases hdragging : d.touchpad.drag.isDragging with
    | true => exact .inl rfl
    | false =>
      cases htriggered : d.touchpad.button.triggered with
      | true => exact .inr (.inl rfl)
      | false =>
        have hneeds : d.touchpad.needsRelease = true := by
          unfold Touchpad.needsRelease
          rw [hpressed, hdragging, htriggered]
          rfl
        have hdue : d.isReleaseDue = true := by
          unfold isReleaseDue
          dsimp only
          rw [hdragging, h.click hneeds]
          rfl
        exact .inr (.inr ⟨h.timer hnone (by simp [needsTimer, hneeds]), hdue⟩)
  · intro hnone hswitch
    exact h.timer hnone (by simp [needsTimer, hswitch])

theorem covered_quickTap {d : TapDriver} (h : Covered d)
    (hover : d.checksQuickTap = true → d.quickTapOver w = true → d.touchpad.needsRelease = false) :
    Covered (d.quickTap isDragEnabled w) := by
  have hbits : ∀ b : UInt8, (b &&& 0x6) &&& 1 = 0 := by decide +kernel
  unfold quickTap
  dsimp only
  split
  · next hchecks =>
    split
    · next htime =>
      refine ⟨h.drag, fun hneeds => ?_⟩
      have hnone := hover hchecks htime
      exact absurd (hneeds.symm.trans hnone) (by decide)
    · split
      · refine ⟨?_, fun hneeds => ?_⟩
        · rfl
        · simp [Touchpad.needsRelease, startTapDrag] at hneeds
      · refine ⟨h.drag, fun hneeds => ?_⟩
        simp [Touchpad.needsRelease, Touchpad.isPressed, clearQuickTap, hbits] at hneeds
  · split
    · exact h.same ⟨rfl, rfl⟩
    · exact h

theorem covered_moveButton {d : TapDriver} (h : Covered d) (press : Bool) :
    Covered (d.moveButton isDragEnabled press) := by
  have hkind : d.touchpad.dragKind = true := h.drag
  unfold Touchpad.dragKind at hkind
  unfold moveButton
  dsimp only
  split
  · have hdragging : (d.touchpad.drag.isDragging || !d.touchpad.drag.isTapDrag && !d.touchpad.drag.isHoldDrag) = true := by
      rw [of_decide_eq_true hkind]
      cases d.touchpad.drag.isTapDrag <;> cases d.touchpad.drag.isHoldDrag <;> rfl
    refine ⟨?_, fun hneeds => ?_⟩
    · unfold Touchpad.dragKind
      dsimp only
      rw [hdragging]
      cases d.touchpad.drag.isTapDrag <;> cases d.touchpad.drag.isHoldDrag <;> rfl
    · simp [Touchpad.needsRelease, hdragging] at hneeds
  split
  · next htriggered =>
    refine ⟨h.drag, fun hneeds => ?_⟩
    exact absurd (hneeds.symm.trans (Touchpad.needsRelease_triggered htriggered)) (by decide)
  · refine ⟨h.drag, fun hneeds => h.click ?_⟩
    cases hdragging : d.touchpad.drag.isDragging with
    | true => simp [Touchpad.needsRelease, hdragging] at hneeds
    | false => simpa [Touchpad.needsRelease, Touchpad.isPressed, hdragging] using hneeds

theorem viewed_doAppSwitch (c : Bool) (d : TapDriver) : Viewed d (d.pad fun s => s.when c Touchpad.doAppSwitch) := by
  cases c <;> exact ⟨rfl, rfl⟩

theorem viewed_rest (c : TapRest) (d : TapDriver) : Viewed d (d.pad c.run) :=
  ⟨congrArg Touchpad.TapView.click (c.keeps d.touchpad), rfl⟩

theorem covered_singlefinger {c : SingleTouch} {d : TapDriver} (h : Covered d)
    (htimely : Timely d (.singlefinger w c)) : Covered (d.Process_singlefinger_touch isDragEnabled w c) := by
  have hswitch := h.same (viewed_doAppSwitch c.appSwitch d)
  have hsame : ∀ b : Bool, (d.pad fun s => s.when b Touchpad.doAppSwitch).checksQuickTap = d.checksQuickTap ∧
      (d.pad fun s => s.when b Touchpad.doAppSwitch).quickTapOver w = d.quickTapOver w ∧
      (d.pad fun s => s.when b Touchpad.doAppSwitch).touchpad.needsRelease = d.touchpad.needsRelease := by
    intro b
    cases b <;> exact ⟨rfl, rfl, rfl⟩
  obtain ⟨hchecks, hover, hneeds⟩ := hsame c.appSwitch
  unfold Process_singlefinger_touch
  dsimp only
  refine Covered.same ?_ (viewed_rest c.rest _)
  have hquick : ∀ e : TapDriver, Covered e → Covered (if c.reach = .moved then e.moveButton isDragEnabled c.press else e) := by
    intro e he
    split
    · exact covered_moveButton he c.press
    · exact he
  apply hquick
  split
  · exact hswitch
  · next hreach =>
    refine covered_quickTap hswitch fun hc ho => ?_
    rw [hneeds]
    exact htimely hreach (hchecks.symm.trans hc) (hover.symm.trans ho)

theorem covered_multiFingers {c : MultiTouch} {d : TapDriver} (h : Covered d) : Covered (d.multiFingers c) := by
  have hpress : ∀ b : Bool, Covered (d.pad fun s => s.when b Touchpad.startFingersDrag) := by
    intro b
    cases b with
    | false => exact h
    | true =>
      refine ⟨?_, fun hneeds => ?_⟩
      · simp [pad, Touchpad.when, Touchpad.dragKind, Touchpad.startFingersDrag]
      · simp [pad, Touchpad.when, Touchpad.needsRelease, Touchpad.startFingersDrag] at hneeds
  have hbutton : ∀ (b : Bool) (e : TapDriver), Covered e → Covered (e.pad fun s => s.when b Touchpad.dragButton2F) := by
    intro b e he
    cases b with
    | false => exact he
    | true =>
      show Covered (e.pad Touchpad.dragButton2F)
      unfold pad Touchpad.dragButton2F
      dsimp only
      split
      · next hheld =>
        rw [Bool.and_eq_true] at hheld
        refine ⟨he.drag, fun hneeds => ?_⟩
        exact absurd (hneeds.symm.trans (Touchpad.needsRelease_triggered hheld.1)) (by decide)
      · exact he
  have hswitch := (hpress c.press).same (viewed_doAppSwitch c.appSwitch _)
  exact (hbutton c.drag2F _ hswitch).same (viewed_rest c.rest _)

/-- While a finger is counted the timer need not run. -/
theorem Covered.safe {d : TapDriver} (h : Covered d) (hfinger : d.touchpad.cFingers ≠ 0) : Safe d :=
  { h with timer := fun hnone => absurd hnone hfinger }

theorem fingers_singlefinger (c : SingleTouch) (d : TapDriver) :
    (d.Process_singlefinger_touch isDragEnabled w c).touchpad.cFingers = d.touchpad.cFingers := by
  have hrest : ∀ e : TapDriver, (e.pad c.rest.run).touchpad.cFingers = e.touchpad.cFingers := fun e =>
    congrArg Touchpad.TapView.cFingers (c.rest.keeps e.touchpad)
  have hmove : ∀ e : TapDriver, (e.moveButton isDragEnabled c.press).touchpad.cFingers = e.touchpad.cFingers := by
    intro e
    unfold moveButton
    dsimp only
    repeat' split
    all_goals rfl
  have hquick : ∀ e : TapDriver, (e.quickTap isDragEnabled w).touchpad.cFingers = e.touchpad.cFingers := by
    intro e
    unfold quickTap
    dsimp only
    repeat' split
    all_goals rfl
  have hswitch : ∀ b : Bool, (d.pad fun s => s.when b Touchpad.doAppSwitch).touchpad.cFingers = d.touchpad.cFingers := by
    intro b
    cases b <;> rfl
  unfold Process_singlefinger_touch
  dsimp only
  rw [hrest]
  repeat' split
  · rw [hmove, hswitch]
  · rw [hmove, hquick, hswitch]
  · rw [hswitch]
  · rw [hquick, hswitch]

theorem fingers_multiFingers (c : MultiTouch) (d : TapDriver) :
    (d.multiFingers c).touchpad.cFingers = d.touchpad.cFingers := by
  have hwhen : ∀ (b : Bool) (f : Touchpad → Touchpad), (∀ s, (f s).cFingers = s.cFingers) → ∀ s : Touchpad,
      (s.when b f).cFingers = s.cFingers := by
    intro b f hf s
    cases b with
    | true => exact hf s
    | false => rfl
  have hbutton : ∀ s : Touchpad, s.dragButton2F.cFingers = s.cFingers := by
    intro s
    unfold Touchpad.dragButton2F
    split <;> rfl
  have hrest := congrArg Touchpad.TapView.cFingers (c.rest.keeps
    (((d.touchpad.when c.press Touchpad.startFingersDrag).when c.appSwitch Touchpad.doAppSwitch).when c.drag2F
      Touchpad.dragButton2F))
  have hdrag := hwhen c.drag2F Touchpad.dragButton2F hbutton
  have hswitch := hwhen c.appSwitch Touchpad.doAppSwitch fun _ => rfl
  have hpress := hwhen c.press Touchpad.startFingersDrag fun _ => rfl
  exact hrest.trans (((hdrag _).trans (hswitch _)).trans (hpress _))

theorem covered_fingersChange {d : TapDriver} (h : Covered d) :
    Covered d.fingersChange ∧ d.fingersChange.touchpad.cFingers = d.touchpad.cFingers :=
  have heased := Touchpad.eased_fingers_change d.touchpad
  ⟨h.eased heased rfl, heased.fingers⟩

theorem safe_fingersChange {count : UInt8} {d : TapDriver} (h : Safe d) (htimely : Timely d (.fingersChange count)) :
    Safe (d.pad (Touchpad.setFingers count)).fingersChange := by
  have hset : Covered (d.pad (Touchpad.setFingers count)) := h.toCovered.same ⟨rfl, rfl⟩
  have heased := Touchpad.eased_fingers_change (d.touchpad.setFingers count)
  refine { hset.eased (e := (d.pad (Touchpad.setFingers count)).fingersChange) heased rfl with
    timer := fun hnone hneeds => ?_ }
  have hcount : count = 0 := heased.fingers.symm.trans hnone
  have hbefore : d.needsTimer = true := by
    unfold needsTimer at hneeds ⊢
    rw [Bool.or_eq_true] at hneeds ⊢
    exact hneeds.imp heased.release heased.appSwitch
  obtain ⟨hruns, hkept⟩ := htimely hcount hbefore
  show (d.taps.releaseTimer && !d.touchpad.cancelsTimers) = true
  rw [hruns, hkept]
  rfl

/-- The timer releases what is left to it. -/
theorem safe_Release_ButtonsAndDrag {d : TapDriver} (h : Safe d) : Safe d.Release_ButtonsAndDrag := by
  have hswitch : Viewed d d.releaseSwitch ∧ d.releaseSwitch.touchpad.swipe.isAppSwitchDone = false := by
    unfold releaseSwitch
    split
    · exact ⟨⟨rfl, rfl⟩, rfl⟩
    · next hnone => exact ⟨⟨rfl, rfl⟩, Bool.eq_false_iff.2 hnone⟩
  have hcovered := h.toCovered.same hswitch.1
  have hdone := hswitch.2
  unfold Release_ButtonsAndDrag
  generalize d.releaseSwitch = e at hcovered hdone ⊢
  have hclick : Covered e.releaseClick ∧ e.releaseClick.touchpad.needsRelease = false ∧
      e.releaseClick.touchpad.swipe = e.touchpad.swipe := by
    unfold releaseClick
    split
    · exact ⟨.zero rfl rfl, Touchpad.needsRelease_zero rfl, rfl⟩
    · next hdue =>
      refine ⟨hcovered, Bool.eq_false_iff.2 fun hneeds => hdue ?_, rfl⟩
      have hcheck := hcovered.click hneeds
      have hdragging : e.touchpad.drag.isDragging = false := by
        unfold Touchpad.needsRelease at hneeds
        cases hd : e.touchpad.drag.isDragging with
        | false => rfl
        | true => simp [hd] at hneeds
      unfold isReleaseDue
      dsimp only
      rw [hdragging, hcheck]
      rfl
  obtain ⟨hafter, hnone, hswipe⟩ := hclick
  refine { hafter.same ⟨rfl, rfl⟩ with timer := fun _ hneeds => ?_ }
  have hneither : (e.releaseClick.touchpad.needsRelease || e.releaseClick.touchpad.swipe.isAppSwitchDone) = false := by
    rw [hnone, hswipe, hdone]
    rfl
  exact absurd (hneeds.symm.trans hneither) (by decide)

/-- Nothing is left behind by a step that is timely. -/
theorem safe_step {d : TapDriver} (h : Safe d) (e : TapEvent) (htimely : Timely d e) :
    Safe (d.step isDragEnabled inertia e) := by
  cases e with
  | fingersChange count => exact safe_fingersChange h htimely
  | tapIn2FMove =>
    have hset : Covered (d.pad (Touchpad.setFingers 0x02)) := h.toCovered.same ⟨rfl, rfl⟩
    have htap := hset.eased (e := d.pad fun s => (s.setFingers 0x02).tapIn2FMove)
      (Touchpad.eased_tapIn2FMove (d.touchpad.setFingers 0x02)) rfl
    have hone : Covered (d.pad fun s => { (s.setFingers 0x02).tapIn2FMove with cFingers := 1 }) := htap.same ⟨rfl, rfl⟩
    obtain ⟨hchange, hfingers⟩ := covered_fingersChange hone
    refine hchange.safe fun hnone => ?_
    have hzero : (1 : UInt8) = 0 := hfingers.symm.trans hnone
    exact absurd hzero (by decide)
  | singlefinger w c =>
    show Safe (d.touched _)
    unfold touched
    split
    · exact h
    · next hfinger =>
      refine (covered_singlefinger h.toCovered htimely).safe ?_
      rw [fingers_singlefinger]
      exact hfinger
  | multiFingers c =>
    show Safe (d.touched _)
    unfold touched
    split
    · exact h
    · next hfinger =>
      refine (covered_multiFingers h.toCovered).safe ?_
      rw [fingers_multiFingers]
      exact hfinger
  | touchEnd w lifted =>
    apply safe_Process_touch_end
    cases lifted with
    | true => exact h.toCovered.same ⟨rfl, rfl⟩
    | false => exact h.toCovered.same ⟨rfl, rfl⟩
  | physicalButtons p => exact h.eased (Touchpad.eased_Process_Physical_Buttons p _) rfl rfl
  | virtualButtons p packetType fid fCount =>
    exact h.eased (Touchpad.eased_virtualButtons p packetType fid fCount _) rfl rfl
  | buttons1F p packetType fid => exact h.eased (Touchpad.eased_buttons1F p packetType fid _) rfl rfl
  | buttonsSyn1F p => exact h.eased (Touchpad.eased_buttonsSyn1F p _) rfl rfl
  | release =>
    show Safe (if d.taps.releaseTimer then d.Release_ButtonsAndDrag else d)
    split
    · exact safe_Release_ButtonsAndDrag h
    · exact h

/-- In no state of a run a click is stuck, if every step is timely. -/
theorem unstuck_run (isDragEnabled : Bool) (inertia : Inertia) {d : TapDriver} (h : Safe d) (es : List TapEvent)
    (htimely : ∀ p e, p ++ [e] <+: es → Timely (run (step isDragEnabled inertia) p d) e) :
    ∀ p, p <+: es → Unstuck (run (step isDragEnabled inertia) p d) := by
  intro p hp
  have hsafe := run_invariant_of (I := Safe) (C := Timely) (fun _ e hd he => safe_step hd e he) es h htimely p hp
  exact hsafe.unstuck

/-- The driver after `init`, clicking with taps of one finger. -/
def tapStart : TapDriver :=
  { taps := { (default : TapVars) with isClickingEnabled := true, fingers1 := 35, timeout := 150000000 }
    touchpad := .init }

theorem safe_tapStart : Safe tapStart := by
  have hneeds : tapStart.needsTimer = false := by decide +kernel
  have hrelease : tapStart.touchpad.needsRelease = false := by decide +kernel
  have hkind : tapStart.touchpad.dragKind = true := by decide +kernel
  exact ⟨⟨hkind, fun h => absurd (h.symm.trans hrelease) (by decide)⟩, fun _ h => absurd (h.symm.trans hneeds) (by decide)⟩

/-- The rest of `Process_singlefinger_touch` where the finger taps, and where it moves. -/
def tapped (touchmode : TouchPadModes) : TapRest where
  run s := { s with touchmode := touchmode, gestureTime := 1 }
  keeps _ := rfl

/-- A tap, and the release of its click by the timer. -/
def tapReleased : List TapEvent :=
  [.fingersChange 1, .singlefinger .silent ⟨.moved, false, false, tapped .MODE_1_FING_TAP⟩, .touchEnd .silent true, .release]

/-- With no scroll to be continued. -/
def still (d : TapDriver) : Scroll × Bool := (d.touchpad.scroll, false)

theorem timely_tapReleased : ∀ p e, p ++ [e] <+: tapReleased → Timely (run (step true still) p tapStart) e := by
  have hfirst : (tapStart.step true still (.fingersChange 1)).checksQuickTap = false := by decide +kernel
  rw [tapReleased, run_steps_cons, run_steps_cons, run_steps_cons, run_steps_cons]
  refine ⟨fun hcount => absurd hcount (by decide), fun _ hchecks => ?_, trivial, trivial, run_steps_nil _⟩
  exact absurd (hchecks.symm.trans hfirst) (by decide)

/-- The click is pressed when the finger is lifted, and the timer that is running then releases it. -/
theorem unstuck_tap : (∀ p, p <+: tapReleased → Unstuck (run (step true still) p tapStart)) ∧
    (run (step true still) (tapReleased.take 3) tapStart).touchpad.isPressed = true ∧
    (run (step true still) (tapReleased.take 3) tapStart).taps.releaseTimer = true ∧
    (run (step true still) tapReleased tapStart).touchpad.isPressed = false :=
  ⟨unstuck_run true still safe_tapStart tapReleased timely_tapReleased, by decide +kernel, by decide +kernel,
    by decide +kernel⟩

/-- Two tenths of a second later. -/
def later : TouchpadWorld := { TouchpadWorld.silent with uptime := fun _ => 200000000 }

/-- A tap, and then a finger that moves when the time for a second tap is over. -/
def tapThenMove : List TapEvent :=
  [.fingersChange 1, .singlefinger .silent ⟨.moved, false, false, tapped .MODE_1_FING_TAP⟩, .touchEnd .silent true,
    .fingersChange 1, .singlefinger later ⟨.moved, false, false, tapped .MODE_MOVE⟩, .touchEnd later true]

theorem click_stuck :
    ¬ ∀ (isDragEnabled : Bool) (inertia : Inertia) (d : TapDriver), Safe d → ∀ es p, p <+: es →
      Unstuck (run (step isDragEnabled inertia) p d) := by
  intro h
  have hunstuck := h true still tapStart safe_tapStart tapThenMove tapThenMove
    (List.prefix_refl _)
  have hafter : ∀ d, d = run (step true still) tapThenMove tapStart →
      d.touchpad.cFingers = 0 ∧ d.touchpad.isPressed = true ∧ d.touchpad.drag.isDragging = false ∧
        d.touchpad.button.triggered = false ∧ d.taps.releaseTimer = false := by
    rintro d rfl
    decide +kernel
  obtain ⟨hnone, hpressed, hdragging, htriggered, htimer⟩ := hafter _ rfl
  obtain hdrag | hheld | hdue := hunstuck.click hnone hpressed
  · exact absurd (hdrag.symm.trans hdragging) (by decide)
  · exact absurd (hheld.symm.trans htriggered) (by decide)
  · exact absurd (hdue.1.symm.trans htimer) (by decide)

end TapDriver
end ApplePS2
