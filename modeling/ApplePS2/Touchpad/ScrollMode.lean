import ApplePS2.Touchpad.ScrollReversal

/- The mode that a packet of a scroll leaves behind (`Process_scroll`): the one before it,
   or that of a scroll with two fingers (`ScrollState.touchmode_processScroll`). -/
namespace ApplePS2

namespace ScrollWork

variable (c : ScrollControl) (p : ScrollPacket) (w : ScrollWork)

/-! The mode of a scroll. -/

@[simp]
theorem touchmode_startCont : w.startCont.touchmode = w.touchmode := by
  unfold startCont
  split <;> rfl

@[simp]
theorem touchmode_restartCont : w.restartCont.touchmode = w.touchmode := by
  unfold restartCont
  split <;> rfl

@[simp]
theorem touchmode_turnCircle : (w.turnCircle c p).touchmode = w.touchmode := by
  unfold turnCircle
  split_ifs <;> rfl

@[simp]
theorem touchmode_dispatchCircle : (w.dispatchCircle c).touchmode = w.touchmode := by
  unfold dispatchCircle
  split_ifs
  · rfl
  · rfl
  · exact touchmode_startCont _
  · exact touchmode_startCont _

@[simp]
theorem touchmode_moveCircle : (w.moveCircle c p).touchmode = w.touchmode := by
  have hspeed : (w.speedCircle c p).touchmode = w.touchmode := by
    unfold speedCircle
    split <;> rfl
  unfold moveCircle
  split_ifs
  · rw [touchmode_dispatchCircle, hspeed]
  · rfl
  · rfl

@[simp]
theorem touchmode_replay (dispatch : Int → Int → ScrollSent) : (w.replay p dispatch).touchmode = w.touchmode := by
  unfold replay
  split <;> rfl

@[simp]
theorem touchmode_receiveSlow (edge : Bool) : (w.receiveSlow p edge).touchmode = w.touchmode := by
  have hstop : w.takeAmounts.stopCont.touchmode = w.touchmode := by
    unfold stopCont
    split <;> rfl
  unfold receiveSlow
  dsimp only
  split_ifs
  · rfl
  · rfl
  · rfl
  · rfl
  · exact touchmode_restartCont _
  · exact hstop
  · rfl
  · rfl

@[simp]
theorem touchmode_startTimer : (w.startTimer p).touchmode = w.touchmode := by
  unfold startTimer
  split
  · exact touchmode_restartCont w
  · rfl

@[simp]
theorem touchmode_markInertia : w.markInertia.touchmode = w.touchmode := by
  unfold markInertia
  split <;> rfl

theorem touchmode_slow : (w.slow c p).touchmode = w.touchmode ∨ (w.slow c p).touchmode = .MODE_CONT_SCROLL := by
  have hmode : (w.slowMode c).touchmode = w.touchmode ∨ (w.slowMode c).touchmode = .MODE_CONT_SCROLL := by
    have hcont : ∀ b : Bool, (if b then TouchPadModes.MODE_CONT_SCROLL else w.touchmode) = w.touchmode ∨
        (if b then TouchPadModes.MODE_CONT_SCROLL else w.touchmode) = .MODE_CONT_SCROLL := by
      intro b
      cases b with
      | true => exact .inr rfl
      | false => exact .inl rfl
    unfold slowMode
    split
    · exact hcont _
    · exact hcont _
    · exact hcont _
    · exact hcont _
    · exact .inl rfl
  unfold slow
  split_ifs
  · exact .inl rfl
  · exact .inl rfl
  · simpa using hmode

theorem touchmode_normal (sDelta : Int) : (w.normal p sDelta).touchmode = w.touchmode := by
  have hmode : ∀ w : ScrollWork, (w.normalMode sDelta).touchmode = w.touchmode := by
    intro w
    unfold normalMode
    split <;> rfl
  have hreceive : ∀ (w : ScrollWork) (edge : Bool), (w.receiveNormal p edge).touchmode = w.touchmode := by
    intro w edge
    unfold receiveNormal
    split_ifs
    · exact touchmode_restartCont w
    · rfl
    · rfl
    · rfl
  unfold normal
  dsimp only
  split
  · exact hmode _
  · rw [hreceive, touchmode_replay, hmode]

theorem touchmode_scroll (sDelta : Int) :
    (w.scroll c p sDelta).touchmode = w.touchmode ∨ (w.scroll c p sDelta).touchmode = .MODE_CONT_SCROLL := by
  unfold scroll
  split_ifs
  · exact .inl (by simp)
  · exact touchmode_slow c p w
  · exact .inl (touchmode_normal p w sDelta)
  · refine .inl ?_
    unfold finish
    split <;> rfl

end ScrollWork

/-- The modes of a scroll that begins with two fingers. -/
def IsScroll2F (m : TouchPadModes) : Prop := m = .MODE_HSCROLL ∨ m = .MODE_VSCROLL ∨ m = .MODE_CONT_SCROLL

namespace ScrollAmounts

variable (c : ScrollControl) (p : ScrollPacket) (s : ScrollState)

theorem touchmode_choose (a : ScrollAmounts) :
    (a.choose c p s).touchmode = a.touchmode ∨ IsScroll2F (a.choose c p s).touchmode := by
  have hmode : chosenMode c p s a.touchmode = a.touchmode ∨ IsScroll2F (chosenMode c p s a.touchmode) := by
    unfold chosenMode IsScroll2F
    dsimp only
    split_ifs <;> simp
  have h1F : (a.choose1F p).touchmode = a.touchmode := by
    unfold choose1F
    split_ifs <;> rfl
  have h2F : (a.choose2F c p s).touchmode = chosenMode c p s a.touchmode := by
    unfold choose2F
    dsimp only
    split_ifs <;> rfl
  unfold choose
  split_ifs
  · exact .inl h1F
  · rw [h2F]
    exact hmode
  · exact .inl rfl

theorem touchmode_modify (a : ScrollAmounts) : (a.modify c p).touchmode = a.touchmode := by
  have h1F : a.modify1F.touchmode = a.touchmode := by
    unfold modify1F
    dsimp only
    split_ifs <;> rfl
  have h2F : (a.modify2F c p).touchmode = a.touchmode := by
    unfold modify2F
    dsimp only
    split_ifs <;> rfl
  unfold modify
  split_ifs
  · exact h1F
  · exact h2F
  · rfl

theorem touchmode_turn (a : ScrollAmounts) :
    (a.turn c p s).touchmode = a.touchmode ∨ IsScroll2F (a.turn c p s).touchmode := by
  have hchoose := touchmode_choose c p s a
  unfold turn
  dsimp only
  rw [touchmode_modify]
  exact hchoose

theorem touchmode_turns (fuel : Nat) (a : ScrollAmounts) :
    (turns c p s fuel a).touchmode = a.touchmode ∨ IsScroll2F (turns c p s fuel a).touchmode := by
  induction fuel generalizing a with
  | zero => exact .inl rfl
  | succ fuel ih =>
    have hturn := touchmode_turn c p s a
    unfold turns
    dsimp only
    split
    · obtain hsame | hscroll := ih (a.turn c p s)
      · rw [hsame]
        exact hturn
      · exact .inr hscroll
    · exact hturn

end ScrollAmounts

/-- What `Process_scroll` does to the mode. -/
theorem ScrollState.touchmode_processScroll (c : ScrollControl) (p : ScrollPacket) (s : ScrollState) :
    (s.processScroll c p).touchmode = s.touchmode ∨ IsScroll2F (s.processScroll c p).touchmode := by
  have hamounts : (s.amounts c p).touchmode = s.touchmode ∨ IsScroll2F (s.amounts c p).touchmode :=
    ScrollAmounts.touchmode_turns c p s _ _
  have hmonitored : (s.monitored c p).touchmode = (s.amounts c p).touchmode := (monitored_keeps c p s).touchmode
  unfold processScroll
  obtain hsame | hcont := ScrollWork.touchmode_scroll c p (s.monitored c p) (s.amounts c p).sDelta
  · rw [hsame, hmonitored]
    exact hamounts
  · rw [hcont]
    exact .inr (.inr (.inr rfl))

end ApplePS2
