import ApplePS2.Touchpad.Interrupt

/- What becomes of a complete packet before it is processed: it is discarded as a
   duplicate or because the touchpad is off, or it is passed on.

   1. `receivePacket_some`, `receivePacket_none`: the handling of a packet, by what
      `passedOn` says of it.
   2. `polled_passedOn`, `polled_receivePacket`: up to there only the state of what is polled has
      changed. -/
namespace ApplePS2.Touchpad

variable (G : Gestures) (w : TouchpadWorld)

/-- The state in which a complete packet is processed, if it is not discarded. -/
def passedOn (s : Touchpad) : Option Touchpad :=
  let s := s.countDuplicate
  if s.endPacketsCount > 1 then none
  else
    let s := s.pollMouse w
    if s.isMouseFound then none
    else
      let polls := s.polls
      let s := s.pollACPI w
      if polls && (s.polling.isFnKeyDisabledTouchpad || s.polling.lidClosed) then none
      else
        let s := s.accidentalTimeout w
        if s.isDisabled then none else some s

/-- The state without what is polled, and without what counts duplicates and keys. -/
def unpolled (s : Touchpad) : Touchpad :=
  { s with
    endPacketsCount := 0, polling := init.polling, pContinuousMove := false, doTimerJob := false
    scroll := default, kbEvent.accidentalInput := false, kbEvent.kbKeysCount := 0 }

def Polled (s t : Touchpad) : Prop := t.unpolled = s.unpolled

variable {G w}

theorem Polled.refl (s : Touchpad) : Polled s s := rfl

theorem Polled.trans {s t u : Touchpad} (h : Polled s t) (h' : Polled t u) : Polled s u := Eq.trans h' h

/-- What does not look at that has not changed. -/
theorem Polled.same {α : Type} {s t : Touchpad} (h : Polled s t) (f : Touchpad → α) (hf : ∀ u, f u.unpolled = f u) :
    f t = f s := by
  rw [← hf t, h, hf]

theorem Polled.when {s : Touchpad} {f : Touchpad → Touchpad} (c : Bool) (h : Polled s (f s)) :
    Polled s (s.when c f) := by
  cases c with
  | true => exact h
  | false => exact .refl s

theorem polled_countDuplicate (s : Touchpad) : Polled s s.countDuplicate := rfl

theorem polled_pollMouse (s : Touchpad) : Polled s (s.pollMouse w) := .when _ rfl

theorem polled_pollFnKeys (s : Touchpad) : Polled s (s.pollFnKeys w) := by
  unfold pollFnKeys
  split
  · rfl
  · refine .trans ?_ (.when _ ?_)
    · rfl
    · rfl

theorem polled_pollLid (s : Touchpad) : Polled s (s.pollLid w) := by
  unfold pollLid
  split
  · rfl
  · rfl
  · exact .when _ rfl

theorem polled_pollACPI (s : Touchpad) : Polled s (s.pollACPI w) := by
  have hpoll : Polled s (s.Process_ACPI_IOREG_Polling w) := by
    have hkeys : Polled s (s.when s.polling.isAsusNotebook (pollFnKeys w)) := .when _ (polled_pollFnKeys s)
    exact hkeys.trans (.when _ (polled_pollLid _))
  exact .when _ hpoll

theorem polled_accidentalTimeout (s : Touchpad) : Polled s (s.accidentalTimeout w) := .when _ rfl

theorem receivePacket_some {s t : Touchpad} (h : s.passedOn w = some t) :
    s.receivePacket G w = t.processPacket G w := by
  unfold passedOn at h
  unfold receivePacket passPacket
  dsimp only at h ⊢
  repeat' split at h
  · cases h
  · cases h
  · cases h
  · cases h
  · next hduplicate hmouse hoff hdisabled =>
    rw [if_neg hduplicate, if_neg hmouse, if_neg hoff, if_neg hdisabled]
    cases h
    rfl

theorem polled_passedOn {s t : Touchpad} (h : s.passedOn w = some t) : Polled s t := by
  have hall := (((polled_countDuplicate s).trans (polled_pollMouse (w := w) _)).trans (polled_pollACPI (w := w) _)).trans
    (polled_accidentalTimeout (w := w) _)
  unfold passedOn at h
  dsimp only at h
  repeat' split at h
  · cases h
  · cases h
  · cases h
  · cases h
  · cases h
    exact hall

theorem receivePacket_none {s : Touchpad} (h : s.passedOn w = none) : Polled s (s.receivePacket G w) := by
  have hmouse := (polled_countDuplicate s).trans (polled_pollMouse (w := w) _)
  have hacpi := hmouse.trans (polled_pollACPI (w := w) _)
  have hall := hacpi.trans (polled_accidentalTimeout (w := w) _)
  unfold passedOn at h
  unfold receivePacket passPacket
  dsimp only at h ⊢
  repeat' split at h
  · next hduplicate =>
    rw [if_pos hduplicate]
    exact polled_countDuplicate s
  · next hduplicate hfound =>
    rw [if_neg hduplicate, if_pos hfound]
    exact hmouse
  · next hduplicate hfound hoff =>
    rw [if_neg hduplicate, if_neg hfound, if_pos hoff]
    exact hacpi
  · next hduplicate hfound hoff hdisabled =>
    rw [if_neg hduplicate, if_neg hfound, if_neg hoff, if_pos hdisabled]
    exact hall
  · cases h

end ApplePS2.Touchpad
