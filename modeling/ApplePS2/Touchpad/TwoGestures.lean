import ApplePS2.Touchpad.ScrollMode
import ApplePS2.Touchpad.TwoTouch

/- What a touch of two fingers performs (`Process_twofingers_touch`).

   1. `touched_begun`: a call that sends anything rotates or presses, and leaves the mode
      of it behind.
   2. `touched_over`: in such a mode a call sends nothing and keeps it.
   3. `gestures_of_begun`: so a touch performs at most one gesture. -/
namespace ApplePS2

/-- What happens during a touch of two fingers that is no click. -/
inductive TwoEvent where
  /-- A packet is stored. -/
  | moved (fing : Int → Finger) (gestureTime : UInt64) (packetsCount : UInt8)
  /-- The button of the click pad is found to be up. -/
  | released
  | notified (w : TouchpadWorld) (n : PS2Notification) (h : n ≠ .kPS2C_RestoreTouchpad)
  /-- The timers of the pointer and of scrolling may end the touch. -/
  | expired (w : TouchpadWorld) (inertia : Inertia) (t : Timer) (h : t ≠ .pointer ∧ t ≠ .scroll)
  | touched (p : TwoPacket)

namespace TwoTouch

variable (singlefinger : Int → Int → Int → TapDriver → TapDriver)

def handle (s : TwoTouch) : TwoEvent → TwoTouch
  | .moved fing gestureTime packetsCount =>
    s.pad fun t => { t with fing := fing, gestureTime := gestureTime, packetsCount := packetsCount }
  | .released => s.pad fun t => t.when (!t.button.disableClicks) Touchpad.virtualRelease
  | .notified w n _ => s.pad (Touchpad.receiveKeyboardNotifications w n)
  | .expired w inertia t _ => s.on (TapDriver.expire w inertia t)
  | .touched p => s.Process_twofingers_touch singlefinger p

/-- A gesture is what is sent at once. -/
def gesture (s t : TwoTouch) : List (List TouchpadSent) := MulTouch.gesture s.mul t.mul

/-- The gestures of a touch, from its calls and from its end. -/
def gestures (w : TouchpadWorld) (inertia : Inertia) : List TwoEvent → TwoTouch → List (List TouchpadSent)
  | [], s => gesture s (s.on (TapDriver.endMode w inertia))
  | .touched p :: events, s =>
    let t := s.handle singlefinger (.touched p)
    gesture s t ++ gestures w inertia events t
  | e :: events, s => gestures w inertia events (s.handle singlefinger e)

end TwoTouch

/-! The time of a touch, and of a tap. -/

namespace TapDriver

structure Timed (d e : TapDriver) : Prop where
  timeout : e.taps.timeout = d.taps.timeout
  gestureTime : e.touchpad.gestureTime = d.touchpad.gestureTime

theorem Timed.refl (d : TapDriver) : Timed d d := ⟨rfl, rfl⟩

theorem Timed.trans {d e f : TapDriver} (h : Timed d e) (h' : Timed e f) : Timed d f :=
  ⟨h'.timeout.trans h.timeout, h'.gestureTime.trans h.gestureTime⟩

theorem timed_place (b : UInt8) (d : TapDriver) : Timed d (d.place b) := ⟨rfl, rfl⟩

theorem timed_point (dx dy : Int) (b : UInt8) (d : TapDriver) : Timed d (d.point dx dy b) := ⟨rfl, rfl⟩

theorem timed_notify (n : PS2Notification) (d : TapDriver) : Timed d (d.notify n) := ⟨rfl, rfl⟩

theorem timed_setButton (data state : UInt8) (d : TapDriver) : Timed d (d.setButton data state) := ⟨rfl, rfl⟩

theorem timed_showToggled (on : Bool) (d : TapDriver) : Timed d (d.showToggled on) := ⟨rfl, rfl⟩

theorem timed_reset (d : TapDriver) : Timed d d.ResetPointerToMiddle := (timed_place _ d).trans (timed_place _ _)

theorem timed_openNC (d : TapDriver) : Timed d d.Open_NC := by
  have hplace : Timed d { d.place 0 with taps.isNCDone := true } := ⟨rfl, rfl⟩
  unfold Open_NC
  dsimp only
  split
  · exact hplace
  · exact ((hplace.trans (timed_place 1 _)).trans (timed_place 0 _)).trans (timed_reset _)

theorem timed_releaseTimer (d : TapDriver) : Timed d d.Release_ButtonsAndDrag := by
  have hswitch : Timed d d.releaseSwitch := by
    unfold releaseSwitch
    split
    · exact ⟨rfl, rfl⟩
    · exact .refl d
  have hclick : ∀ d : TapDriver, Timed d d.releaseClick := by
    intro d
    have hdrags : Timed d { d.clearDrags with taps.checkTapDrag := false } := ⟨rfl, rfl⟩
    unfold releaseClick
    split
    · exact (hdrags.trans (timed_setButton 0 0 _)).trans (timed_point 0 0 0 _)
    · exact .refl d
  exact (hswitch.trans (hclick _)).trans ⟨rfl, rfl⟩

theorem timed_releaseNC (d : TapDriver) : Timed d d.releaseNC := by
  have hclick := ((timed_point 0 0 1 d).trans (timed_point 0 0 0 _)).trans (timed_setButton 0 0 _)
  unfold releaseNC
  split
  · exact (hclick.trans (timed_reset _)).trans ⟨rfl, rfl⟩
  · exact .refl d

theorem timed_zoomTaps (d : TapDriver) : Timed d d.zoomTaps := by
  have hset : Timed d { d with taps.tapZoomDone := !d.taps.tapZoomDone } := ⟨rfl, rfl⟩
  exact ((hset.trans (timed_notify _ _)).trans (timed_notify _ _)).trans (timed_showToggled _ _)

theorem timed_toggleAccelModes (d : TapDriver) : Timed d d.toggleAccelModes := by
  have hset : Timed d { d with
      taps.accelMode2F := nextMode 4 d.taps.accelMode2F, taps.accelModeEdge := nextMode 4 d.taps.accelModeEdge } :=
    ⟨rfl, rfl⟩
  exact (hset.trans (timed_showToggled _ _)).trans (timed_showToggled _ _)

theorem timed_doubleTap (d : TapDriver) : Timed d d.doubleTap := by
  unfold doubleTap
  split_ifs
  · exact ⟨rfl, rfl⟩
  · exact timed_zoomTaps d
  · exact timed_toggleAccelModes d
  · exact timed_notify _ d
  · exact ⟨rfl, rfl⟩
  · exact .refl d

theorem timed_tripleTap (d : TapDriver) : Timed d d.tripleTap := by
  unfold tripleTap
  split_ifs
  · exact ⟨rfl, rfl⟩
  · exact ⟨rfl, rfl⟩
  · exact .refl d

theorem timed_clearTapCount (d : TapDriver) : Timed d d.clearTapCount := ⟨rfl, rfl⟩

theorem timed_singleTap (d : TapDriver) : Timed d d.singleTap := by
  have hclick := (timed_point 0 0 (if d.taps.isTapSwapEnabled = decide (d.taps.fingersCount = 2) then 0x2 else 0x4) d).trans
    (timed_point 0 0 0 _)
  exact (hclick.trans (timed_clearTapCount _)).trans (timed_setButton 0 0 _)

theorem timed_features (d : TapDriver) : Timed d d.ProcessFeaturesToggle := by
  have hNC := timed_releaseNC d
  unfold ProcessFeaturesToggle
  dsimp only
  split_ifs
  · exact hNC.trans (timed_singleTap _)
  · exact (hNC.trans (timed_doubleTap _)).trans (timed_clearTapCount _)
  · exact (hNC.trans (timed_tripleTap _)).trans (timed_clearTapCount _)
  · exact hNC

theorem timed_expire {w : TouchpadWorld} {inertia : Inertia} {t : Timer} (ht : t ≠ .pointer ∧ t ≠ .scroll)
    (d : TapDriver) : Timed d (d.expire w inertia t) := by
  cases t with
  | pointer => exact absurd rfl ht.1
  | scroll => exact absurd rfl ht.2
  | buttonDrag => exact timed_releaseTimer d
  | feature => exact timed_features d
  | kBackLight => exact ⟨rfl, rfl⟩

end TapDriver

/-- A press keeps the settings. -/
theorem MulTouch.timed_performPress (action : UInt8) (u : MulTouch) :
    (u.performPress action).settings = u.settings ∧ u.driver.Timed (u.performPress action).driver := by
  unfold performPress
  split_ifs
  · exact ⟨rfl, (TapDriver.timed_openNC u.driver).trans (TapDriver.timed_reset _)⟩
  · exact ⟨rfl, rfl, rfl⟩
  · exact ⟨rfl, .refl _⟩

namespace TwoTouch

variable (singlefinger : Int → Int → Int → TapDriver → TapDriver)

/-! What a touch is begun with. -/

/-- A finger that rotates has moved further than one that presses or taps, and a tap is over before a press. -/
structure Sound (s : TwoTouch) : Prop where
  rests : 375 ≤ 4 * s.settings.rotateDelta.toNat
  still : 5 * s.noise.toNat ≤ 4 * s.settings.rotateDelta.toNat
  timeout : s.driver.taps.timeout ≤ s.mul.settings.fingPressTimeout

/-- No drag goes on or can start, no edge swipe either, and no circles are looked for. The mode is not that of an edge
swipe, of a toggled feature, of a pinch of four fingers or of a palm. -/
structure Begun (s : TwoTouch) : Prop where
  sound : Sound s
  is3FDrag : s.touchpad.drag.is3FDrag = false
  pressDrags : s.mul.pressDrags 0x2 = false
  isEdgeGesture : s.touchpad.swipe.isEdgeGesture = false
  low : s.touchpad.touchmode.ctorIdx ≤ 25
  circle : s.touchpad.hwVersion ≠ 3 ∨ s.settings.cirEnabled = false

/-- The modes that a gesture leaves behind which is performed at once. -/
def Over (s : TwoTouch) : Prop :=
  s.touchpad.touchmode = .MODE_TWO_FING_PRESS ∨
    s.touchpad.touchmode = .MODE_ROTATE ∧ s.touchpad.rotate.isRotateGesture = true

/-- The touch goes on as it was begun. -/
structure Keeps (s t : TwoTouch) : Prop where
  settings : t.settings = s.settings
  mulSettings : t.mul.settings = s.mul.settings
  timeout : t.driver.taps.timeout = s.driver.taps.timeout
  hwVersion : t.touchpad.hwVersion = s.touchpad.hwVersion
  isEdgeGesture : t.touchpad.swipe.isEdgeGesture = s.touchpad.swipe.isEdgeGesture
  is3FDrag : s.touchpad.drag.is3FDrag = false → t.touchpad.drag.is3FDrag = false
  low : s.touchpad.touchmode.ctorIdx ≤ 25 → t.touchpad.touchmode.ctorIdx ≤ 25

/-- And nothing is sent. -/
structure Quiet (s t : TwoTouch) : Prop extends Keeps s t where
  log : t.log = s.log

/-- Where anything is sent, a mode is left behind that is over. -/
structure Performs (s t : TwoTouch) : Prop extends Keeps s t where
  sends : t.log = s.log ∨ t.Over

variable {w : TouchpadWorld} {inertia : Inertia} {s t u : TwoTouch}

theorem Keeps.refl (s : TwoTouch) : Keeps s s := ⟨rfl, rfl, rfl, rfl, rfl, id, id⟩

theorem Keeps.trans (h : Keeps s t) (h' : Keeps t u) : Keeps s u :=
  ⟨h'.settings.trans h.settings, h'.mulSettings.trans h.mulSettings, h'.timeout.trans h.timeout,
    h'.hwVersion.trans h.hwVersion, h'.isEdgeGesture.trans h.isEdgeGesture,
    fun hdrag => h'.is3FDrag (h.is3FDrag hdrag), fun hlow => h'.low (h.low hlow)⟩

theorem Keeps.begun (h : Keeps s t) (hs : Begun s) : Begun t := by
  have hpress : t.mul.pressDrags 0x2 = s.mul.pressDrags 0x2 := by
    unfold MulTouch.pressDrags
    rw [h.mulSettings]
  have hnoise : t.noise = s.noise := congrArg SwipeSettings.noiseMultiTapDelta h.mulSettings
  refine ⟨⟨?_, ?_, ?_⟩, h.is3FDrag hs.is3FDrag, hpress.trans hs.pressDrags, h.isEdgeGesture.trans hs.isEdgeGesture,
    h.low hs.low, ?_⟩
  · rw [h.settings]
    exact hs.sound.rests
  · rw [h.settings, hnoise]
    exact hs.sound.still
  · rw [h.timeout, h.mulSettings]
    exact hs.sound.timeout
  · rw [h.hwVersion, h.settings]
    exact hs.circle

theorem Quiet.refl (s : TwoTouch) : Quiet s s := ⟨.refl s, rfl⟩

theorem Quiet.trans (h : Quiet s t) (h' : Quiet t u) : Quiet s u :=
  ⟨h.toKeeps.trans h'.toKeeps, h'.log.trans h.log⟩

theorem Quiet.performs (h : Quiet s t) : Performs s t := ⟨h.toKeeps, .inl h.log⟩

theorem Quiet.trans_performs (h : Quiet s t) (h' : Performs t u) : Performs s u :=
  ⟨h.toKeeps.trans h'.toKeeps, h'.sends.imp (fun hlog => hlog.trans h.log) id⟩

/-- A change of the touchpad's state alone. -/
theorem keeps_steady (hsettings : t.settings = s.settings) (hmul : t.mul.settings = s.mul.settings)
    (htimeout : t.driver.taps.timeout = s.driver.taps.timeout) (h : s.touchpad.Steady t.touchpad) : Keeps s t :=
  ⟨hsettings, hmul, htimeout, h.hwVersion, h.isEdgeGesture, h.is3FDrag, fun hlow => h.touchmode ▸ hlow⟩

theorem quiet_pad {f : Touchpad → Touchpad} (h : s.touchpad.Steady (f s.touchpad)) (hlog : (f s.touchpad).log = s.log) :
    Quiet s (s.pad f) :=
  ⟨keeps_steady rfl rfl rfl h, hlog⟩

theorem over_of_steady (h : s.touchpad.Steady t.touchpad) (hover : s.Over) : t.Over := by
  unfold Over
  rw [h.touchmode, h.isRotateGesture]
  exact hover

/-! The steps before the zoom. -/

theorem quiet_stopScroll (s : TwoTouch) : Quiet s s.stopScroll := ⟨⟨rfl, rfl, rfl, rfl, rfl, id, id⟩, rfl⟩

theorem quiet_counted (s : TwoTouch) : Quiet s s.countPacket.fixSid := ⟨⟨rfl, rfl, rfl, rfl, rfl, id, id⟩, rfl⟩

theorem quiet_ignore (m : TwoMoves) (s : TwoTouch) : Quiet s (s.ignore m) := by
  unfold ignore
  split <;> exact ⟨⟨rfl, rfl, rfl, rfl, rfl, id, id⟩, rfl⟩

theorem quiet_setMode {m : TouchPadModes} (hm : m.ctorIdx ≤ 25) (s : TwoTouch) : Quiet s (s.setMode m) :=
  ⟨⟨rfl, rfl, rfl, rfl, rfl, id, fun _ => hm⟩, rfl⟩

/-- There is no edge swipe. -/
theorem processEdges_eq (p : TwoPacket) (h : Begun s) : s.processEdges p = (s, false) := by
  have hlow : ¬s.touchpad.touchmode.ctorIdx > 25 := Nat.not_lt.2 h.low
  have hoff : (s.touchpad.swipe.isEdgeGesture || decide (s.touchpad.touchmode.ctorIdx > 25)) = false := by
    simp [h.isEdgeGesture, hlow]
  have hnone : EdgeTouch.twoFingers s.settings.edges (s.sight p) ⟨s.driver, s.lastSwipeTime, []⟩ =
      (⟨s.driver, s.lastSwipeTime, []⟩, false) := by
    unfold EdgeTouch.twoFingers
    dsimp only
    rw [if_neg]
    show ¬((s.touchpad.swipe.isEdgeGesture || decide (s.touchpad.touchmode.ctorIdx > 25)) && _) = true
    rw [hoff, Bool.false_and]
    exact Bool.false_ne_true
  unfold processEdges
  rw [hnone]
  rfl

/-- There are no circles. -/
theorem processCircle_eq (v : TwoFingers) (h : Begun s) : s.processCircle v = s := by
  unfold processCircle
  rw [if_neg]
  obtain hversion | hcircle := h.circle
  · simp [hversion]
  · simp [hcircle]

/-- The fingers and the rotation stay, besides. -/
structure Still (s t : TwoTouch) : Prop extends Quiet s t where
  first : t.first = s.first
  second : t.second = s.second

theorem Still.refl (s : TwoTouch) : Still s s := ⟨.refl s, rfl, rfl⟩

theorem still_stopScroll (s : TwoTouch) : Still s s.stopScroll := ⟨quiet_stopScroll s, rfl, rfl⟩

theorem Still.trans (h : Still s t) (h' : Still t u) : Still s u :=
  ⟨h.toQuiet.trans h'.toQuiet, h'.first.trans h.first, h'.second.trans h.second⟩

theorem still_clearModes (clearsCorner : Bool) (s : TwoTouch) : Still s (s.clearModes clearsCorner) := by
  have hcorner : Still s (if clearsCorner then s.clearCorner else s) := by
    split
    · exact ⟨⟨⟨rfl, rfl, rfl, rfl, rfl, id, id⟩, rfl⟩, rfl, rfl⟩
    · exact .refl s
  have hpointer : ∀ s : TwoTouch, Still s s.stopPointer := by
    intro s
    unfold stopPointer
    split
    · exact ⟨⟨⟨rfl, rfl, rfl, rfl, rfl, id, id⟩, rfl⟩, rfl, rfl⟩
    · exact .refl s
  have hmode : ∀ s : TwoTouch, Still s s.resetMode := by
    intro s
    unfold resetMode
    split
    · exact ⟨quiet_setMode (by decide) s, rfl, rfl⟩
    · exact .refl s
  exact ((hcorner.trans (hpointer _)).trans (still_stopScroll _)).trans (hmode _)

theorem still_skip (m : TwoMoves) (h : Begun s) : Still s (s.skip singlefinger m).1 := by
  unfold skip
  rw [h.is3FDrag]
  exact still_stopScroll s

theorem still_skipEdge (m : TwoMoves) (h : Begun s) : Still s (s.skipEdge singlefinger m).1 := by
  unfold skipEdge
  rw [h.isEdgeGesture]
  exact .refl s

theorem still_clear (m : TwoMoves) (clearsCorner : Bool) (h : Begun s) :
    Still s (s.clear singlefinger m clearsCorner).1 := by
  have hcleared := still_clearModes clearsCorner s
  exact hcleared.trans (still_skipEdge singlefinger m (hcleared.begun h))

theorem still_clearMove (m : TwoMoves) (h : Begun s) : Still s (s.clearMove singlefinger m).1 := by
  unfold clearMove
  rw [h.is3FDrag]
  exact still_clear singlefinger m true h

theorem still_processModes (m : TwoMoves) (h : Begun s) : Still s (s.processModes singlefinger m).1 := by
  have hmove := still_clearMove singlefinger m h
  have hskip := still_skip singlefinger m h
  unfold processModes
  rw [h.is3FDrag]
  split
  · split
    · exact .refl s
    · exact hmove
  · exact hmove
  · exact still_clear singlefinger m true h
  · exact still_clear singlefinger m true h
  · exact still_clear singlefinger m false h
  · exact still_clear singlefinger m false h
  · exact still_clear singlefinger m false h
  · exact still_clear singlefinger m false h
  · unfold skipRotate
    split
    · exact .refl s
    · exact hskip
  all_goals first
    | exact hskip
    | exact still_stopScroll s
    | exact .refl s
    | exact still_skipEdge singlefinger m h

/-! The zoom. -/

/-- A rotation takes a difference that is far. -/
theorem far_of_rotates (c : PinchSettings) (v : TwoFingers) (h : v.rotates c = true) :
    ∃ d ∈ [v.x1_Dx, v.y1_Dy, v.x2_Dx, v.y2_Dy], 4 * c.rotateDelta.toNat < 5 * d.natAbs := by
  have hturns : ∀ a b : Int, TwoFingers.turns c a b = true →
      4 * c.rotateDelta.toNat < 5 * a.natAbs ∨ 4 * c.rotateDelta.toNat < 5 * b.natAbs := by
    intro a b hturn
    simp only [TwoFingers.turns, Bool.or_eq_true, Bool.and_eq_true, decide_eq_true_eq] at hturn
    omega
  have harc : ∀ cx cy mx my : Int, v.arcRotates c cx cy mx my = true → 4 * c.rotateDelta.toNat < 5 * mx.natAbs := by
    intro cx cy mx my harc
    simp only [TwoFingers.arcRotates, Bool.and_eq_true, decide_eq_true_eq] at harc
    exact harc.1.2
  unfold TwoFingers.rotates at h
  simp only [Bool.or_eq_true] at h
  obtain (hswipe | hfirst) | hsecond := h
  · simp only [TwoFingers.swipeRotates, Bool.or_eq_true, Bool.and_eq_true] at hswipe
    obtain ⟨-, ⟨-, hturn⟩ | ⟨-, hturn⟩⟩ := hswipe
    · obtain hfar | hfar := hturns _ _ hturn
      · exact ⟨_, by simp, hfar⟩
      · exact ⟨_, by simp, hfar⟩
    · obtain hfar | hfar := hturns _ _ hturn
      · exact ⟨_, by simp, hfar⟩
      · exact ⟨_, by simp, hfar⟩
  · exact ⟨_, by simp, harc _ _ _ _ hfirst⟩
  · exact ⟨_, by simp, harc _ _ _ _ hsecond⟩

theorem keeps_notify (n : PS2Notification) (s : TwoTouch) : Keeps s (s.notify n) :=
  keeps_steady rfl rfl rfl ⟨rfl, rfl, rfl, rfl, rfl, id⟩

theorem keeps_rotate (n : Option PS2Notification) (s : TwoTouch) : Keeps s (s.rotate n) := by
  have hnotify : ∀ n : Option PS2Notification, Keeps s (s.notifyAny n) := by
    intro n
    cases n with
    | some n => exact keeps_notify n s
    | none => exact .refl s
  have hrotate : ∀ s : TwoTouch, Keeps s (s.pad fun t => { t with rotate.isRotateGesture := true }) := fun _ =>
    ⟨rfl, rfl, rfl, rfl, rfl, id, id⟩
  have hmode : ∀ s : TwoTouch, Quiet s (s.setMode .MODE_ROTATE) := quiet_setMode (by decide)
  exact ((hnotify n).trans (hmode _).toKeeps).trans (hrotate _)

theorem rotate_eq (n : Option PS2Notification) (s : TwoTouch) : (s.rotate n).touchpad.touchmode = .MODE_ROTATE ∧
    (s.rotate n).touchpad.rotate.isRotateGesture = true ∧ (s.rotate n).first = s.first ∧
      (s.rotate n).second = s.second := by
  have hsame : (s.notifyAny n).first = s.first ∧ (s.notifyAny n).second = s.second := by cases n <;> exact ⟨rfl, rfl⟩
  exact ⟨rfl, rfl, hsame.1, hsame.2⟩

theorem quiet_zoom (isZoomOut isZoomIn : Bool) (s : TwoTouch) : Quiet s (s.zoom isZoomOut isZoomIn) := by
  have hlow : TouchPadModes.MODE_ZOOM.ctorIdx ≤ 25 := by decide
  exact ⟨⟨rfl, rfl, rfl, rfl, rfl, id, fun _ => hlow⟩, rfl⟩

/-! The scroll. -/

theorem quiet_setHoldTime (holdTime : UInt64) (s : TwoTouch) : Quiet s (s.setHoldTime holdTime) :=
  quiet_pad ⟨rfl, rfl, rfl, rfl, rfl, id⟩ rfl

theorem quiet_modifyFingers (f g : Finger → Finger) (s : TwoTouch) : Quiet s (s.modifyFingers f g) := by
  have hone : ∀ (i : Int) (f : Finger → Finger) (s : TwoTouch), Quiet s (s.modifyFinger i f) := fun _ _ _ =>
    quiet_pad ⟨rfl, rfl, rfl, rfl, rfl, id⟩ rfl
  exact (hone _ f s).trans (hone _ g _)

/-- Nothing of the touchpad's state is changed. -/
theorem quiet_variables (h : t.settings = s.settings) (hmul : t.mul = s.mul) : Quiet s t := by
  refine ⟨keeps_steady h (congrArg MulTouch.settings hmul) ?_ ?_, congrArg MulTouch.log hmul⟩
  · exact congrArg (fun u : MulTouch => u.driver.taps.timeout) hmul
  · unfold touchpad
    rw [hmul]
    exact .refl _

theorem quiet_sampleMoves (m : TwoMoves) (s : TwoTouch) : Quiet s (s.sampleMoves m) := by
  have hstore : ∀ s : TwoTouch, Quiet s (s.storeSample m) := fun _ => quiet_variables rfl rfl
  have hsum : ∀ s : TwoTouch, Quiet s s.sumSamples := fun _ =>
    (quiet_modifyFingers _ _ _).trans (quiet_modifyFingers _ _ _)
  unfold sampleMoves
  split
  · exact ((quiet_modifyFingers _ _ s).trans (hstore _)).trans (hsum _)
  · exact .refl s

theorem quiet_timeHold (p : TwoPacket) (m : TwoMoves) (s : TwoTouch) : Quiet s (s.timeHold p m) := by
  have hnow : Quiet s { s with now := p.uptime } := quiet_variables rfl rfl
  unfold timeHold
  dsimp only
  split_ifs
  · exact hnow.trans (quiet_variables rfl rfl)
  · exact (hnow.trans (quiet_setHoldTime _ _)).trans (quiet_variables rfl rfl)
  · exact hnow
  · exact (quiet_setHoldTime 0 s).trans (quiet_variables rfl rfl)

theorem quiet_sling (p : TwoPacket) (s : TwoTouch) : Quiet s (s.sling p) := by
  unfold sling
  dsimp only
  split_ifs <;> exact quiet_variables rfl rfl

theorem quiet_setPressure (pressure : UInt8) (s : TwoTouch) : Quiet s (s.setPressure pressure) := quiet_variables rfl rfl

theorem quiet_ofScroll {u : ScrollState} (h : u.touchmode = s.touchpad.touchmode ∨ IsScroll2F u.touchmode) :
    Quiet s (s.ofScroll u) := by
  refine ⟨⟨rfl, rfl, rfl, rfl, rfl, id, fun hlow => ?_⟩, rfl⟩
  show u.touchmode.ctorIdx ≤ 25
  obtain hsame | hmode | hmode | hmode := h
  · rw [hsame]
    exact hlow
  · rw [hmode]
    decide
  · rw [hmode]
    decide
  · rw [hmode]
    decide

theorem quiet_dispatchScroll (m : TwoMoves) (isZoomConflict : Bool) (s : TwoTouch) :
    Quiet s (s.dispatchScroll m isZoomConflict) := by
  have hscroll : ∀ sdx sdy, Quiet s (s.Process_scroll sdx sdy isZoomConflict) := fun sdx sdy =>
    quiet_ofScroll (s.scrollState.touchmode_processScroll _ _)
  unfold dispatchScroll
  dsimp only
  split
  · exact (hscroll _ _).trans (quiet_setPressure _ _)
  · exact (hscroll _ _).trans (quiet_setPressure _ _)

theorem quiet_scrollMoves (m : TwoMoves) (s : TwoTouch) : Quiet s (s.scrollMoves m) := by
  have hconflict : ∀ b : Bool, Quiet s (if b then s.stopScroll else s) := by
    intro b
    cases b with
    | true => exact quiet_stopScroll s
    | false => exact .refl s
  unfold scrollMoves
  dsimp only
  split
  · split
    · exact (hconflict _).trans (quiet_dispatchScroll m _ _)
    · have hlevel : Quiet s { s with scroll.maxLevelReached := 0 } := quiet_variables rfl rfl
      exact hlevel.trans (quiet_stopScroll _)
  split
  · exact quiet_stopScroll s
  · exact .refl s

theorem quiet_processScroll (p : TwoPacket) (m : TwoMoves) (s : TwoTouch) : Quiet s (s.processScroll p m) := by
  unfold processScroll
  split
  · exact (((quiet_sampleMoves m s).trans (quiet_timeHold p m _)).trans (quiet_sling p _)).trans (quiet_scrollMoves m _)
  · exact .refl s

/-! The press and the tap. -/

theorem quiet_setPressTime (pressTime : UInt64) (s : TwoTouch) : Quiet s (s.setPressTime pressTime) :=
  ⟨⟨rfl, rfl, rfl, rfl, rfl, id, id⟩, rfl⟩

theorem quiet_timePress (p : TwoPacket) (s : TwoTouch) : Quiet s (s.timePress p) := by
  have htime := quiet_setPressTime s.touchpad.gestureTime s
  unfold timePress
  dsimp only
  split
  · split
    · exact htime.trans (quiet_stopScroll _)
    · exact htime
  · exact quiet_setPressTime 0 s

theorem quiet_processTap (v : TwoFingers) (s : TwoTouch) : Quiet s (s.processTap v) := by
  unfold processTap
  dsimp only
  split_ifs
  · exact quiet_setMode (by decide) s
  · exact quiet_setMode (by decide) s
  · exact .refl s

/-- It is late for a tap, or the fingers have moved. -/
theorem processTap_eq (v : TwoFingers) (h : ¬s.touchpad.gestureTime < s.driver.taps.timeout ∨ s.isStill v = false)
    (hmode : s.touchpad.touchmode ≠ .MODE_2_FING_TAP) : s.processTap v = s := by
  unfold processTap
  dsimp only
  rw [if_neg, if_neg]
  · simp [hmode]
  · obtain hlate | hmoved := h
    · simp [hlate]
    · simp [hmoved]

/-- Pressing two fingers, as far as no drag starts. -/
def performed (s : TwoTouch) : TwoTouch :=
  s.onMul fun u => (u.setMode .MODE_TWO_FING_PRESS).performPress u.fings2Press.toUInt8

theorem press_eq (h : Begun s) (hpress : s.isPress = true) :
    s.press = (if s.isToggleKeyOnHold then s.togglePress else s.performed).stopScroll := by
  have hpressed : s.mul.Proces_Fingers_Press 2 =
      (s.mul.setMode .MODE_TWO_FING_PRESS).performPress s.mul.fings2Press.toUInt8 := by
    show (if s.mul.pressDrags 0x2 then _ else _) = _
    rw [h.pressDrags]
    rfl
  have hperformed : (s.onMul fun u => u.Proces_Fingers_Press 2) = s.performed :=
    congrArg (fun u : MulTouch => { s with mul := u }) hpressed
  unfold press
  rw [if_pos hpress, hperformed]

theorem stopped_setMode (m : TouchPadModes) (s : TwoTouch) : (s.setMode m).stopScroll.touchpad.touchmode = m ∧
    (s.setMode m).stopScroll.touchpad.gestureTime = s.touchpad.gestureTime :=
  ⟨rfl, rfl⟩

/-- A press leaves its mode behind, and the time of the touch. -/
theorem pressed (h : Begun s) (hpress : s.isPress = true) : Keeps s s.press ∧
    s.press.touchpad.touchmode = .MODE_TWO_FING_PRESS ∧ s.press.touchpad.gestureTime = s.touchpad.gestureTime := by
  have hlow : TouchPadModes.MODE_TWO_FING_PRESS.ctorIdx ≤ 25 := by decide
  rw [press_eq h hpress]
  split
  · have hshown : Keeps s s.showPress := keeps_steady rfl rfl rfl ⟨rfl, rfl, rfl, rfl, rfl, id⟩
    have htime : s.showPress.touchpad.gestureTime = s.touchpad.gestureTime := rfl
    obtain ⟨hmode, hstopped⟩ := stopped_setMode .MODE_TWO_FING_PRESS s.showPress
    have hkeeps := (quiet_setMode hlow s.showPress).trans (quiet_stopScroll _)
    exact ⟨hshown.trans hkeeps.toKeeps, hmode, hstopped.trans htime⟩
  · obtain ⟨hsettings, htimed⟩ :=
      MulTouch.timed_performPress s.mul.fings2Press.toUInt8 (s.mul.setMode .MODE_TWO_FING_PRESS)
    have hsteady := MulTouch.steady_performPress s.mul.fings2Press.toUInt8 (s.mul.setMode .MODE_TWO_FING_PRESS)
    have hmode : s.performed.touchpad.touchmode = .MODE_TWO_FING_PRESS := hsteady.touchmode
    have hperformed : Keeps s s.performed :=
      ⟨rfl, hsettings, htimed.timeout, hsteady.hwVersion, hsteady.isEdgeGesture, hsteady.is3FDrag,
        fun _ => hmode ▸ hlow⟩
    exact ⟨hperformed.trans (quiet_stopScroll _).toKeeps, hmode, htimed.gestureTime⟩

/-- Only a touch that has rested for long is a press. -/
theorem late_of_press (p : TwoPacket) (h : (s.timePress p).isPress = true) :
    s.mul.settings.fingPressTimeout < (s.timePress p).touchpad.gestureTime := by
  unfold isPress at h
  simp only [Bool.and_eq_true, decide_eq_true_eq] at h
  have hlong := h.1.1.1
  revert hlong
  unfold timePress
  dsimp only
  split
  · split <;> exact id
  · intro hlong
    exact absurd hlong UInt64.not_lt_zero

/-- From the press on. -/
theorem performs_pressTap (p : TwoPacket) (v : TwoFingers) (h : Begun s) :
    Performs s ((s.processPress p).processTap v) := by
  unfold processPress
  split
  · have htime := quiet_timePress p s
    have hbegun := htime.begun h
    cases hpress : (s.timePress p).isPress with
    | true =>
      obtain ⟨hkeeps, hmode, hgesture⟩ := pressed hbegun hpress
      -- a tap would reset the mode of the press, but it is over by then
      have hlate : ¬(s.timePress p).press.touchpad.gestureTime < (s.timePress p).press.driver.taps.timeout := by
        have hsettings := htime.mulSettings
        have hlong := late_of_press p hpress
        have hsound := (hkeeps.begun hbegun).sound.timeout
        rw [hkeeps.mulSettings, hsettings] at hsound
        rw [hgesture]
        exact UInt64.not_lt.2 (UInt64.le_of_lt (UInt64.lt_of_le_of_lt hsound hlong))
      rw [processTap_eq v (.inl hlate) (by rw [hmode]; decide)]
      exact ⟨htime.toKeeps.trans hkeeps, .inr (.inl hmode)⟩
    | false =>
      have hnone : (s.timePress p).press = s.timePress p := if_neg (ne_true_of_eq_false hpress)
      rw [hnone]
      exact (htime.trans (quiet_processTap v _)).performs
  · exact ((quiet_setPressTime 0 s).trans (quiet_processTap v _)).performs

/-! One call. -/

/-- A finger that rests is near its start. -/
theorem near_of_rests {x y : Int} {f : Finger} (h : rests x y f = true) :
    ((placed x y f).start_x - x).natAbs ≤ 75 ∧ ((placed x y f).start_y - y).natAbs ≤ 75 := by
  simp only [rests, Bool.and_eq_true, decide_eq_true_eq] at h
  show ((f.start_x.toNat : Int) - x).natAbs ≤ 75 ∧ ((f.start_y.toNat : Int) - y).natAbs ≤ 75
  omega

/-- Fingers that rotate do not rest. -/
theorem rests_of_far {v : TwoFingers} (p : TwoPacket) (h : Begun s) (hfirst : v.first = placed p.x1 p.y1 s.first)
    (hsecond : v.second = placed p.x2 p.y2 s.second)
    (hfar : ∃ d ∈ [v.x1_Dx, v.y1_Dy, v.x2_Dx, v.y2_Dy], 4 * s.settings.rotateDelta.toNat < 5 * d.natAbs) :
    (rests p.x1 p.y1 s.first && rests p.x2 p.y2 s.second) = false := by
  have hsound := h.sound.rests
  by_contra hrests
  rw [Bool.not_eq_false, Bool.and_eq_true] at hrests
  have hnear₁ := near_of_rests hrests.1
  have hnear₂ := near_of_rests hrests.2
  rw [← hfirst] at hnear₁
  rw [← hsecond] at hnear₂
  have hx₁ : v.x1_Dx = v.first.start_x - p.x1 := by rw [TwoFingers.x1_Dx, hfirst]; rfl
  have hy₁ : v.y1_Dy = v.first.start_y - p.y1 := by rw [TwoFingers.y1_Dy, hfirst]; rfl
  have hx₂ : v.x2_Dx = v.second.start_x - p.x2 := by rw [TwoFingers.x2_Dx, hsecond]; rfl
  have hy₂ : v.y2_Dy = v.second.start_y - p.y2 := by rw [TwoFingers.y2_Dy, hsecond]; rfl
  obtain ⟨d, hd, hfar⟩ := hfar
  simp only [List.mem_cons, List.not_mem_nil, or_false] at hd
  rw [hx₁, hy₁, hx₂, hy₂] at hd
  omega

/-- And they are not still. -/
theorem still_of_far {v : TwoFingers} (h : Begun s)
    (hfar : ∃ d ∈ [v.x1_Dx, v.y1_Dy, v.x2_Dx, v.y2_Dy], 4 * s.settings.rotateDelta.toNat < 5 * d.natAbs) :
    s.isStill v = false := by
  have hsound := h.sound.still
  by_contra hstill
  simp only [isStill, Bool.not_eq_false, Bool.and_eq_true, decide_eq_true_eq] at hstill
  obtain ⟨d, hd, hfar⟩ := hfar
  simp only [List.mem_cons, List.not_mem_nil, or_false] at hd
  omega

/-- A rotation is neither a scroll, nor a press, nor a tap. -/
theorem processed_of_rotating (p : TwoPacket) (m : TwoMoves) (h : Begun s) (hmode : s.touchpad.touchmode = .MODE_ROTATE)
    (hrotating : s.touchpad.rotate.isRotateGesture = true) (hfirst : m.fingers.first = placed p.x1 p.y1 s.first)
    (hsecond : m.fingers.second = placed p.x2 p.y2 s.second)
    (hfar : ∃ d ∈ [m.fingers.x1_Dx, m.fingers.y1_Dy, m.fingers.x2_Dx, m.fingers.y2_Dy],
      4 * s.settings.rotateDelta.toNat < 5 * d.natAbs) :
    (s |> processScroll p m |> processPress p |> processTap m.fingers) = s.setPressTime 0 := by
  have hscroll : s.processScroll p m = s := by
    unfold processScroll scrolls
    rw [if_neg]
    simp [hrotating]
  have hrests := rests_of_far p h hfirst hsecond hfar
  have htime : s.timePress p = s.setPressTime 0 := by
    unfold timePress
    rw [if_neg]
    rw [Bool.and_assoc (_ && _) (rests _ _ _), hrests, Bool.and_false]
    exact Bool.false_ne_true
  have hnone : (s.setPressTime 0).press = s.setPressTime 0 := by
    have hzero : ¬(0 : UInt64) > s.mul.settings.fingPressTimeout := UInt64.not_lt_zero
    have hpressed : (s.setPressTime 0).isPress = false := by
      show (decide ((0 : UInt64) > s.mul.settings.fingPressTimeout) && _ && _ && _) = false
      simp [hzero]
    unfold press
    rw [if_neg (ne_true_of_eq_false hpressed)]
  have hpress : s.processPress p = s.setPressTime 0 := by
    unfold processPress
    rw [htime, hnone, ite_self]
  have hbegun := (quiet_setPressTime 0 s).begun h
  have hstill : (s.setPressTime 0).isStill m.fingers = false := still_of_far hbegun hfar
  have hother : (s.setPressTime 0).touchpad.touchmode ≠ .MODE_2_FING_TAP := by
    rw [show (s.setPressTime 0).touchpad.touchmode = s.touchpad.touchmode from rfl, hmode]
    decide
  show ((s.processScroll p m).processPress p).processTap m.fingers = _
  rw [hscroll, hpress, processTap_eq m.fingers (.inr hstill) hother]

/-- From the zoom on. -/
theorem performs_processMoves (p : TwoPacket) (m : TwoMoves) (h : Begun s)
    (hfirst : m.fingers.first = placed p.x1 p.y1 s.first) (hsecond : m.fingers.second = placed p.x2 p.y2 s.second) :
    Performs s (s.processMoves p m) := by
  have hrest : Performs s (s |> processScroll p m |> processPress p |> processTap m.fingers) := by
    have hscroll := quiet_processScroll p m s
    exact hscroll.trans_performs (performs_pressTap p _ (hscroll.begun h))
  unfold processMoves processZoom
  dsimp only
  split
  · next hrotates =>
    -- a rotation does not return: what follows it in the same call must find nothing to do
    have hrotates' : m.fingers.rotates s.pinch = true := (Bool.and_eq_true _ _ ▸ hrotates).2
    have hfar := far_of_rotates s.pinch m.fingers hrotates'
    have hkeeps := keeps_rotate (s.rotation m.fingers) s
    obtain ⟨hmode, hrotating, hsame₁, hsame₂⟩ := rotate_eq (s.rotation m.fingers) s
    rw [if_neg Bool.false_ne_true, processed_of_rotating p m (hkeeps.begun h) hmode hrotating (hfirst.trans ?_)
      (hsecond.trans ?_) ?_]
    · exact ⟨hkeeps.trans (quiet_setPressTime 0 _).toKeeps, .inr (.inr ⟨hmode, hrotating⟩)⟩
    · rw [hsame₁]
    · rw [hsame₂]
    · rw [hkeeps.settings]
      exact hfar
  split
  · exact (quiet_zoom true false s).performs
  · exact (quiet_zoom false true s).performs
  · exact hrest

theorem touched_begun (p : TwoPacket) (h : Begun s) : Performs s (s.Process_twofingers_touch singlefinger p) := by
  have hcounted := quiet_counted s
  have hbegun := hcounted.begun h
  unfold Process_twofingers_touch
  dsimp only
  generalize s.countPacket.fixSid = t at hcounted hbegun
  split
  · exact (hcounted.trans (quiet_ignore _ t)).performs
  · rw [processEdges_eq p hbegun, if_neg Bool.false_ne_true]
    unfold processGestures
    dsimp only
    rw [processCircle_eq _ hbegun]
    have hmodes := still_processModes singlefinger (t.moves p) hbegun
    split
    · exact (hcounted.trans hmodes.toQuiet).performs
    · -- the fingers are where they were when the differences were taken
      refine (hcounted.trans hmodes.toQuiet).trans_performs ?_
      refine performs_processMoves p _ (hmodes.begun hbegun) ?_ ?_
      · rw [hmodes.first]
        rfl
      · rw [hmodes.second]
        rfl

/-- In a mode that is over nothing more is done. -/
theorem touched_over (p : TwoPacket) (h : Begun s) (hover : s.Over) :
    (s.Process_twofingers_touch singlefinger p).log = s.log ∧ (s.Process_twofingers_touch singlefinger p).Over := by
  have hcounted := quiet_counted s
  have hbegun := hcounted.begun h
  have hover' : s.countPacket.fixSid.Over := hover
  have hlog : s.countPacket.fixSid.log = s.log := rfl
  have hignore : ∀ m, (s.countPacket.fixSid.ignore m).Over := by
    intro m
    unfold ignore
    obtain hmode | ⟨hmode, hrotate⟩ := hover'
    · rw [hmode]
      exact .inl hmode
    · rw [hmode]
      exact .inr ⟨hmode, hrotate⟩
  have hskip : ∀ m, s.countPacket.fixSid.processModes singlefinger m = (s.countPacket.fixSid.stopScroll, true) := by
    intro m
    have hskipped : s.countPacket.fixSid.skip singlefinger m = (s.countPacket.fixSid.stopScroll, true) := by
      unfold skip
      rw [hbegun.is3FDrag]
      rfl
    unfold processModes
    obtain hmode | ⟨hmode, hrotate⟩ := hover'
    · rw [hmode]
      exact hskipped
    · rw [hmode]
      show s.countPacket.fixSid.skipRotate singlefinger m = _
      unfold skipRotate
      rw [hrotate]
      exact hskipped
  unfold Process_twofingers_touch
  dsimp only
  generalize s.countPacket.fixSid = t at hbegun hover' hlog hignore hskip
  split
  · exact ⟨(quiet_ignore _ t).log.trans hlog, hignore _⟩
  · rw [processEdges_eq p hbegun, if_neg Bool.false_ne_true]
    unfold processGestures
    dsimp only
    rw [processCircle_eq _ hbegun, hskip, if_pos rfl]
    exact ⟨hlog, hover'⟩

/-! The whole touch. -/

/-- Whatever happens, the touch goes on as it was begun, and a mode that is over stays. -/
theorem keeps_handle (e : TwoEvent) (h : Begun s) :
    Keeps s (s.handle singlefinger e) ∧ (s.Over → (s.handle singlefinger e).Over) := by
  have hsteady : ∀ t : TwoTouch, t.settings = s.settings → t.mul.settings = s.mul.settings →
      t.driver.taps.timeout = s.driver.taps.timeout → s.touchpad.Steady t.touchpad → Keeps s t ∧ (s.Over → t.Over) :=
    fun t hsettings hmul htimeout h => ⟨keeps_steady hsettings hmul htimeout h, over_of_steady h⟩
  cases e with
  | moved fing gestureTime packetsCount => exact hsteady _ rfl rfl rfl ⟨rfl, rfl, rfl, rfl, rfl, id⟩
  | released => exact hsteady _ rfl rfl rfl (.when _ (Touchpad.steady_virtualRelease s.touchpad))
  | notified w n hn => exact hsteady _ rfl rfl rfl (Touchpad.steady_receive hn s.touchpad)
  | expired w inertia t ht =>
    exact hsteady _ rfl rfl (TapDriver.timed_expire ht s.driver).timeout (TapDriver.steady_expire ht s.driver)
  | touched p => exact ⟨(touched_begun singlefinger p h).toKeeps, fun hover => (touched_over singlefinger p h hover).2⟩

theorem gesture_eq_nil (h : t.log = s.log) : gesture s t = [] := MulTouch.gesture_eq_nil h

theorem gesture_length_le (s t : TwoTouch) : (gesture s t).length ≤ 1 := MulTouch.gesture_length_le s.mul t.mul

/-- Nothing follows on a mode that is over, and it has no gesture at the end of the touch. -/
theorem gestures_of_over (events : List TwoEvent) (h : Begun s) (hover : s.Over) :
    s.gestures singlefinger w inertia events = [] := by
  induction events generalizing s with
  | nil =>
    -- the end of the touch performs a zoom or a tap, and these modes are neither
    have hend : s.driver.endMode w inertia = s.driver := by
      unfold TapDriver.endMode
      obtain hmode | ⟨hmode, -⟩ := hover
      · rw [show s.driver.touchpad.touchmode = .MODE_TWO_FING_PRESS from hmode]
      · rw [show s.driver.touchpad.touchmode = .MODE_ROTATE from hmode]
    refine gesture_eq_nil ?_
    show (s.driver.endMode w inertia).touchpad.log = s.log
    rw [hend]
    rfl
  | cons e events ih =>
    obtain ⟨hkeeps, hstays⟩ := keeps_handle singlefinger e h
    have hrest := ih (hkeeps.begun h) (hstays hover)
    cases e with
    | touched p =>
      have hlog : (s.handle singlefinger (.touched p)).log = s.log := (touched_over singlefinger p h hover).1
      show gesture s _ ++ gestures singlefinger w inertia events _ = []
      rw [gesture_eq_nil hlog, hrest]
      rfl
    | _ => exact hrest

/-- The first call that sends anything is the last one to do so. -/
theorem gestures_of_begun (events : List TwoEvent) (h : Begun s) :
    (s.gestures singlefinger w inertia events).length ≤ 1 := by
  induction events generalizing s with
  | nil => exact gesture_length_le s _
  | cons e events ih =>
    have hbegun := (keeps_handle singlefinger e h).1.begun h
    have hrest := ih hbegun
    cases e with
    | touched p =>
      show (gesture s _ ++ gestures singlefinger w inertia events _).length ≤ 1
      obtain hlog | hover := (touched_begun singlefinger p h).sends
      · rw [show gesture s (s.handle singlefinger (.touched p)) = [] from gesture_eq_nil hlog]
        exact hrest
      · rw [gestures_of_over singlefinger events hbegun hover, List.append_nil]
        exact gesture_length_le s _
    | _ => exact hrest

/-- A touch of two fingers performs at most one gesture: a rotation, a press, or the zoom or the tap at its end. It may
scroll before, notifications may come and timers may run down. -/
theorem twoGestures_length_le_one (singlefinger : Int → Int → Int → TapDriver → TapDriver) (w : TouchpadWorld)
    (inertia : Inertia) {s : TwoTouch} (h : Begun s) (events : List TwoEvent) :
    (s.gestures singlefinger w inertia events).length ≤ 1 :=
  gestures_of_begun singlefinger events h

/-- Two fingers lie side by side, and the first one was there before; the preferences are those of `Info.plist`. -/
def twoRotate : TwoTouch :=
  { settings :=
      { edges := EdgeTouch.usualEdges, control := ScrollState.shipped, minSamples := 3, pinchDeltaScale := 3
        zoomDelta := 300, rotateDelta := 350, maxCFDeltaY := 116, cirEnabled := true, maxTEndPressure := 10
        tSenseLvl := 10, slingStartTimeout := 0, slingTriggerArea := 0 }
    mul :=
      { settings :=
          { mulFingDeltaX := 400, mulFingDeltaY := 150, noiseMultiTapDelta := 55, mulFingsTimeout := 200000000
            fings3Press := 18, fings4Press := 0, fings5Press := 0, fingPressTimeout := 700000000
            hasFPresDrag := false, fPressDragFingersNum := 0, fPressDragStartTimeOut := 0 }
        driver :=
          { taps := { (default : TapVars) with timeout := 180000000 }
            touchpad :=
              { Touchpad.init with
                touchpadVendor := .STD_ELAN_TECH, hwVersion := 4, cFingers := 2, pid := 0, sid := 1, packetsCount := 9
                rotateEnabled := true, zoomEnabled := true
                rotate := { isRotateGesture := false, isRotateMode := true, maxCFDelta := 85, minCFingIdleTime := 0 } } }
        pressTime := 0, fings2Press := 18, fPressDragFingersID := 0, fings4PinchAction := 0, fings5PinchAction := 0 }
    scroll := ScrollState.begun .MODE_IDLE 0 0, lastSwipeTime := 0, samples := fun _ => default, cSample := 0, now := 0
    lastHoldTime := 0, doSling := false, slingDepth := 0, xAxisPos := 0, yAxisPos := 0 }

/-- The second finger goes down by 400, and on. -/
def turnDown : List TwoEvent :=
  let finger (x : UInt16) : Finger :=
    { (default : Finger) with start_x := x, start_y := 1000, last_x := x, last_y := 1000, pressure := 50 }
  [.moved (fun i => if i = 0 then finger 1000 else finger 2000) 300000000 9, .touched ⟨1000, 2000, 1000, 1400, 0⟩,
    .touched ⟨1000, 2000, 1000, 1900, 0⟩]

def rotated : List (List TouchpadSent) :=
  twoRotate.gestures (fun _ _ _ d => d) .silent (fun d => (d.touchpad.scroll, false)) turnDown

/-- There is one gesture, the rotation. -/
theorem twoGestures_rotated : rotated = [[.dispatchPS2Notification 44]] ∧ rotated.length ≤ 1 :=
  ⟨by decide +kernel, twoGestures_length_le_one _ _ _
    ⟨⟨by decide, by decide, by decide⟩, rfl, rfl, rfl, by decide, .inl (by decide)⟩ turnDown⟩

end TwoTouch

end ApplePS2
