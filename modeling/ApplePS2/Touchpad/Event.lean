import ApplePS2.Touchpad.Interrupt
import ApplePS2.Transition

/- What happens to the touchpad driver: bytes from the device, notifications from the
   keyboard, and power events.

   1. `settled_receive`: a notification that is not the command to reconnect.
   2. `versioned_handle`: the hardware version and the size of packets are kept by every
      event, and the vendor is what the answers to the device's identification say. -/
namespace ApplePS2.Touchpad

variable (G : Gestures) (w : TouchpadWorld)

/-- With what the driver reads from outside while it handles it. -/
inductive Event where
  | interruptOccurred (w : TouchpadWorld) (data : UInt8)
  | receiveKeyboardNotifications (w : TouchpadWorld) (n : PS2Notification)
  | setDevicePowerState (w : TouchpadWorld) (whatToDo : PowerControl)

def Event.world : Event → TouchpadWorld
  | .interruptOccurred w _ => w
  | .receiveKeyboardNotifications w _ => w
  | .setDevicePowerState w _ => w

def handle (s : Touchpad) : Event → Touchpad
  | .interruptOccurred w data => s.interruptOccurred G w data
  | .receiveKeyboardNotifications w n => s.receiveKeyboardNotifications w n
  | .setDevicePowerState w whatToDo => s.setDevicePowerState w whatToDo

variable {G w}

/-- What `start` has set up is left alone, and no request is sent. -/
structure Settled (s t : Touchpad) : Prop where
  vendor : t.touchpadVendor = s.touchpadVendor
  version : t.hwVersion = s.hwVersion
  size : t.pktsize = s.pktsize
  mode : t.mode = s.mode
  sent : Sent (fun m => m.isRequest = false) s t

theorem Settled.refl (s : Touchpad) : Settled s s := ⟨rfl, rfl, rfl, rfl, .none _ rfl⟩

theorem Settled.trans {s t u : Touchpad} (h : Settled s t) (h' : Settled t u) : Settled s u :=
  ⟨h'.vendor.trans h.vendor, h'.version.trans h.version, h'.size.trans h.size, h'.mode.trans h.mode,
    h.sent.trans h'.sent⟩

theorem settled_send {m : TouchpadSent} (hm : m.isRequest = false) (s : Touchpad) : Settled s (s.send m) :=
  ⟨rfl, rfl, rfl, rfl, sent_send (P := fun m => m.isRequest = false) hm s⟩

theorem Linked.settled {s t : Touchpad} (h : Linked s t) : Settled s t :=
  ⟨congrArg Link.touchpadVendor h.link, congrArg Link.hwVersion h.link, congrArg Link.pktsize h.link,
    congrArg Link.mode h.link, h.log⟩

theorem settled_escape (now : UInt64) (s : Touchpad) : Settled s (s.escape now) := by
  have hkey : ∀ s : Touchpad, Linked s s.clearToggleKey := by
    intro s
    unfold clearToggleKey
    split
    · exact .same rfl rfl
    · exact .refl s
  have hdrag : ∀ s : Touchpad, Linked s s.releaseDrag := by
    intro s
    unfold releaseDrag
    split
    · exact .sends rfl rfl rfl
    · exact .refl s
  have hall : ∀ s : Touchpad, Linked s s.clearToggleKey.releaseDrag.releaseAppSwitch :=
    fun s => ((hkey s).trans (hdrag _)).trans (handled_releaseAppSwitch _).linked
  have htime : ∀ t : Touchpad, Linked s t → Settled s { t with kbEvent.lastKeyPressTime := now } :=
    fun t h => Linked.settled (h.update rfl rfl)
  have hfirst : Linked s { s with swipe.isInFullScreen := false, tap.count := 0 } := .same rfl rfl
  exact htime _ (hfirst.trans (hall _))

theorem settled_receive {n : PS2Notification} (hn : n ≠ .kPS2C_RestoreTouchpad) (s : Touchpad) :
    Settled s (s.receiveKeyboardNotifications w n) := by
  have hsends : ∀ {t : Touchpad} {m}, t.link = s.link → t.log = s.log ++ [m] → m.isRequest = false → Settled s t :=
    fun h hlog hm => (Linked.sends h hlog hm).settled
  cases n with
  | kPS2C_RestoreTouchpad => exact absurd rfl hn
  | kPS2C_ESC => exact settled_escape _ s
  | kPS2C_DoContextMenu =>
    have hclick : Linked s (s |> dispatchRelativePointerPosition 0 0 0x2 |> dispatchRelativePointerPosition 0 0 0) :=
      (handled_release 0x2 s).linked
    exact Linked.settled (hclick.update rfl rfl)
  | kPS2C_OSXVersionNotify => exact (settled_send rfl s).trans (settled_send rfl _)
  | kPS2C_KeybrdBackLightOff => exact (handled_backLightOff s).linked.settled
  | kPS2C_KeybrdBackLightOn => exact (handled_backLightOn _ s).linked.settled
  | _ => first
    | exact ⟨rfl, rfl, rfl, rfl, .none _ rfl⟩
    | exact hsends rfl rfl rfl

/-! Reconnections. -/

/-- The vendor may change, and a reconnection has put the device into another mode. -/
structure Versioned (w : TouchpadWorld) (s t : Touchpad) : Prop where
  version : t.hwVersion = s.hwVersion
  size : t.pktsize = s.pktsize
  mode : Placed w s t
  vendor : Identified w s t

/-- Messages that are no requests neither reset the device nor enable the touchpad. -/
theorem Settled.placed {s t : Touchpad} (h : Settled s t) : Placed w s t := by
  obtain ⟨log, hlog, hplain⟩ := h.sent
  refine .left log hlog ?_ fun m hm henabled => ?_
  · rw [replay_plain hplain, h.mode]
  · have hrequest := hplain m hm
    rw [henabled] at hrequest
    cases hrequest

theorem Settled.trans_placed {s t u : Touchpad} (h : Settled s t) (h' : Placed w t u) : Placed w s u := by
  obtain ⟨log, hlog, hplain⟩ := h.sent
  cases h' with
  | left log' hlog' hmode hlast =>
    refine .left (log ++ log') (by rw [hlog', hlog, List.append_assoc]) ?_ ?_
    · rw [replay_append, replay_plain hplain, hmode, h.mode, hlog, List.length_append]
    · intro m hm
      rcases List.mem_append.1 hm with hm | hm
      · rintro rfl
        cases hplain touchpadEnabled hm
      · exact hlast m hm
  | enabled before after hlog' hmode hlast =>
    exact .enabled (log ++ before) after (by rw [hlog', hlog, List.append_assoc, List.append_assoc]) hmode hlast

theorem Placed.trans_settled {s t u : Touchpad} (h : Placed w s t) (h' : Settled t u) : Placed w s u := by
  obtain ⟨log, hlog, hplain⟩ := h'.sent
  cases h with
  | left log' hlog' hmode hlast =>
    refine .left (log' ++ log) (by rw [hlog, hlog', List.append_assoc]) ?_ ?_
    · rw [replay_append, replay_plain hplain, h'.mode, hmode]
    · intro m hm
      rcases List.mem_append.1 hm with hm | hm
      · exact hlast m hm
      · rintro rfl
        cases hplain touchpadEnabled hm
  | enabled before after hlog' hmode hlast =>
    refine .enabled before (after ++ log) (by rw [hlog, hlog']; simp) ?_ fun m hm => ?_
    · rw [h'.mode, h'.vendor, hmode]
    · rcases List.mem_append.1 hm with hm | hm
      · exact hlast m hm
      · exact TouchpadSent.no_request_reset (hplain m hm)

theorem Settled.identified {s t : Touchpad} (h : Settled s t) : Identified w s t := by
  refine h.sent.identified (fun m hm => ?_) h.vendor
  cases m with
  | submitRequestAndBlock commands => cases hm
  | _ => simp [TouchpadSent.isKnock]

theorem Settled.versioned {s t : Touchpad} (h : Settled s t) : Versioned w s t :=
  ⟨h.version, h.size, h.placed, h.identified⟩

theorem Settled.trans_versioned {s t u : Touchpad} (h : Settled s t) (h' : Versioned w t u) : Versioned w s u :=
  ⟨h'.version.trans h.version, h'.size.trans h.size, h.trans_placed h'.mode, h.identified.trans h'.vendor⟩

theorem Versioned.trans_settled {s t u : Touchpad} (h : Versioned w s t) (h' : Settled t u) : Versioned w s u :=
  ⟨h'.version.trans h.version, h'.size.trans h.size, h.mode.trans_settled h', h.vendor.trans h'.identified⟩

theorem versioned_Reconnect_touchpad (s : Touchpad) : Versioned w s (s.Reconnect_touchpad w).2 := by
  have hvendor : Identified w s (s.Reconnect_touchpad w).2 := by
    obtain h | h := detected_Reconnect_touchpad (w := w) s
    · exact h.vendor
    · exact h.vendor
  exact ⟨Reconnect_touchpad_same hwVersion (fun _ => rfl) (fun _ _ => rfl) (fun _ => rfl) s,
    Reconnect_touchpad_same pktsize (fun _ => rfl) (fun _ _ => rfl) (fun _ => rfl) s, placed_Reconnect_touchpad s, hvendor⟩

theorem versioned_disable (s : Touchpad) : Versioned w s (s.Enable_touchpad w false) := by
  have h := talked_disable (w := w) s
  refine ⟨h.detected.same hwVersion (fun _ => rfl) fun _ _ => rfl, h.detected.same pktsize (fun _ => rfl) fun _ _ => rfl,
    ?_, h.detected.vendor⟩
  exact h.probed.placed

theorem versioned_receivePacket (s : Touchpad) : Versioned w s (s.receivePacket G w) := by
  have hpassed := passed_receivePacket (G := G) (w := w) s
  generalize s.receivePacket G w = t at hpassed ⊢
  cases hpassed with
  | linked h => exact h.settled.versioned
  | @reconnect t h =>
    refine h.settled.trans_versioned ?_
    unfold reconnectTry
    split
    · have htries : Settled t { t with modeSetTries := t.modeSetTries - 1 } := ⟨rfl, rfl, rfl, rfl, .none _ rfl⟩
      exact htries.trans_versioned (versioned_Reconnect_touchpad _)
    · exact (Settled.refl t).versioned
  | realigned _ _ h =>
    have hshift : Settled s s.shiftBack := ⟨rfl, rfl, rfl, rfl, .none _ rfl⟩
    exact (hshift.trans h.settled).versioned

theorem versioned_interruptOccurred (data : UInt8) (s : Touchpad) :
    Versioned w s (s.interruptOccurred G w data) := by
  have hstore : Settled s (s.store data) := ⟨rfl, rfl, rfl, rfl, .none _ rfl⟩
  have hdrop : ∀ t : Touchpad, Settled t t.dropBytes := fun t => ⟨rfl, rfl, rfl, rfl, .none _ rfl⟩
  have htake : ∀ t : Touchpad, Settled t t.takeBytes := fun t => ⟨rfl, rfl, rfl, rfl, .none _ rfl⟩
  unfold interruptOccurred
  dsimp only
  split
  · exact hstore.versioned
  · exact (hstore.trans_versioned (versioned_Reconnect_touchpad _)).trans_settled (hdrop _)
  · exact (hstore.trans (hdrop _)).versioned
  · exact (hstore.trans (htake _)).trans_versioned (versioned_receivePacket _)

theorem versioned_handle (e : Event) (s : Touchpad) : Versioned e.world s (s.handle G e) := by
  cases e with
  | interruptOccurred w data => exact versioned_interruptOccurred data s
  | receiveKeyboardNotifications w n =>
    by_cases hn : n = .kPS2C_RestoreTouchpad
    · have henable : ∀ t : Touchpad, Settled t (t.enableInput (w.uptime 0)) :=
        fun t => ⟨rfl, rfl, rfl, rfl, .none _ rfl⟩
      rw [hn]
      exact (versioned_Reconnect_touchpad s).trans_settled ((henable _).trans (settled_send rfl _))
    · exact (settled_receive hn s).versioned
  | setDevicePowerState w whatToDo =>
    cases whatToDo with
    | kPS2C_DisableDevice => exact versioned_disable s
    | kPS2C_EnableDevice =>
      have hclear : Settled s { s with
          kbEvent.accidentalInput := false, kbEvent.disableTouchpad := false, kbEvent.showPressWidth := false
          modeSetTries := 3 } := ⟨rfl, rfl, rfl, rfl, .none _ rfl⟩
      exact hclear.trans_versioned (versioned_Reconnect_touchpad _)

end ApplePS2.Touchpad
