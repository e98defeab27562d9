import ApplePS2.Touchpad.ScrollLoop
import ApplePS2.Touchpad.ProcessScroll

/- The steps of `Process_scroll` behind the loop, and the same steps the other way.

   1. `monitor_opposite`, `slow_opposite`, `normal_opposite`: they keep the opposite.
   2. `moveCircle_opposite`, `moveCircle_undirected`: the circular scroll does exactly if
      it has a direction.
   3. `monitored_opposite`: the state before anything is dispatched. -/
namespace ApplePS2
namespace ScrollWork

variable {c : ScrollControl} {p : ScrollPacket} {w : ScrollWork}

/-- The mirror image. -/
def opposite (w : ScrollWork) : ScrollWork :=
  { toScrollState := w.toScrollState.opposite, s_dx := -w.s_dx, s_dy := -w.s_dy, scrollDifflvl := w.scrollDifflvl }

/-- The last amounts and the new ones are shorts that have an opposite. -/
structure Bounded (w : ScrollWork) : Prop where
  dx : -32767 ≤ w.dx ∧ w.dx ≤ 32767
  dy : -32767 ≤ w.dy ∧ w.dy ≤ 32767
  s_dx : -32767 ≤ w.s_dx ∧ w.s_dx ≤ 32767
  s_dy : -32767 ≤ w.s_dy ∧ w.s_dy ≤ 32767

/-- A step with a choice keeps the opposite if the condition does not depend on it. -/
theorem opposite_if {P P' : Prop} [Decidable P] [Decidable P'] {a b a' b' : ScrollWork} (h : P' ↔ P)
    (ha : a' = a.opposite) (hb : b' = b.opposite) : (if P' then a' else b') = (if P then a else b).opposite := by
  by_cases hP : P
  · rw [if_pos hP, if_pos (h.mpr hP)]
    exact ha
  · rw [if_neg hP, if_neg fun hP' => hP (h.mp hP')]
    exact hb

theorem send_opposite (x : ScrollSent) (w : ScrollWork) : w.opposite.send x.opposite = (w.send x).opposite := by
  have hsent : w.opposite.sent ++ [x.opposite] = (w.sent ++ [x]).map ScrollSent.opposite := by
    rw [List.map_append]
    rfl
  unfold send
  rw [hsent]
  rfl

theorem changesDirection_neg (d s_d sd : Int) (contMaxDelta : UInt8) :
    changesDirection (-d) (-s_d) (-sd) contMaxDelta = changesDirection d s_d sd contMaxDelta := by
  unfold changesDirection
  rw [Int.natAbs_neg, Bool.eq_iff_iff]
  simp only [Bool.and_eq_true, Bool.or_eq_true, decide_eq_true_eq]
  omega

theorem restartFingers_opposite : w.opposite.restartFingers p.opposite = fun i => (w.restartFingers p i).opposite := by
  funext i
  show (if i = p.pid ∨ i = p.sid then (w.fing i).opposite.restartHere else (w.fing i).opposite) =
    (if i = p.pid ∨ i = p.sid then (w.fing i).restartHere else w.fing i).opposite
  split
  · rfl
  · rfl

theorem restart_opposite : w.opposite.restart c p.opposite = (w.restart c p).opposite := by
  have hmode : w.opposite.touchmode = w.touchmode := rfl
  have hx : ∀ contMaxDelta, changesDirection w.opposite.dx w.opposite.s_dx p.opposite.sdx contMaxDelta =
      changesDirection w.dx w.s_dx p.sdx contMaxDelta := changesDirection_neg w.dx w.s_dx p.sdx
  have hy : ∀ contMaxDelta, changesDirection w.opposite.dy w.opposite.s_dy p.opposite.sdy contMaxDelta =
      changesDirection w.dy w.s_dy p.sdy contMaxDelta := changesDirection_neg w.dy w.s_dy p.sdy
  unfold restart
  simp only [hmode, hx, hy, restartFingers_opposite]
  split
  · exact opposite_if Iff.rfl rfl rfl
  · exact opposite_if Iff.rfl rfl rfl
  · exact opposite_if Iff.rfl rfl rfl
  · exact opposite_if Iff.rfl rfl rfl
  · rfl

theorem measure_opposite : w.opposite.measure p.opposite = (w.measure p).opposite := by
  unfold measure
  rw [p.sdx_opposite, p.sdy_opposite]
  rfl

theorem counted_neg (sd packetsDir : Int) : counted (-sd) (-packetsDir) = -counted sd packetsDir := by
  unfold counted
  split_ifs <;> omega

theorem negative_neg {d : Int} (h : -32767 ≤ d ∧ d ≤ 32767) : negative (-d) = -positive d := by
  have hneg : toSInt16 (0 - d) = 0 - d := toSInt16_eq_self (by omega)
  have hneg' : toSInt16 (0 - -d) = 0 - -d := toSInt16_eq_self (by omega)
  unfold negative positive
  rw [hneg, hneg']
  split_ifs <;> omega

theorem positive_neg {d : Int} (h : -32767 ≤ d ∧ d ≤ 32767) : positive (-d) = -negative d := by
  have hneg := negative_neg (d := -d) (by omega)
  rw [Int.neg_neg] at hneg
  rw [hneg, Int.neg_neg]

theorem turned_neg (sd packetsDir : Int) {d : Int} (h : -32767 ≤ d ∧ d ≤ 32767) :
    turned c (-sd) (-packetsDir) (-d) = -turned c sd packetsDir d := by
  unfold turned
  rw [negative_neg h, positive_neg h]
  split_ifs <;> omega

theorem turned_bounds (sd packetsDir : Int) {d : Int} (h : -32767 ≤ d ∧ d ≤ 32767) :
    -32767 ≤ turned c sd packetsDir d ∧ turned c sd packetsDir d ≤ 32767 := by
  have hneg : toSInt16 (0 - d) = 0 - d := toSInt16_eq_self (by omega)
  unfold turned positive negative
  rw [hneg]
  split_ifs <;> omega

theorem trackEdge_opposite (h : w.Bounded) : w.opposite.trackEdge c p.opposite = (w.trackEdge c p).opposite := by
  have hmode : w.opposite.touchmode = w.touchmode := rfl
  have hcountX : counted p.opposite.sdx w.opposite.xPacketsDir = -counted p.sdx w.xPacketsDir := counted_neg _ _
  have hcountY : counted p.opposite.sdy w.opposite.yPacketsDir = -counted p.sdy w.yPacketsDir := counted_neg _ _
  have hturnX : ∀ dir, turned c p.opposite.sdx (-dir) w.opposite.dx = -turned c p.sdx dir w.dx :=
    fun dir => turned_neg p.sdx dir h.dx
  have hturnY : ∀ dir, turned c p.opposite.sdy (-dir) w.opposite.dy = -turned c p.sdy dir w.dy :=
    fun dir => turned_neg p.sdy dir h.dy
  unfold trackEdge
  simp only [hmode, hcountX, hcountY, hturnX, hturnY]
  split
  · rfl
  · rfl
  · rfl

theorem directed_neg (sd : Int) (count : UInt8) (packetsDir : Int) :
    directed c (-sd) count (-packetsDir) = -directed c sd count packetsDir := by
  unfold directed
  rw [Int.natAbs_neg, counted_neg]
  split
  · rfl
  · rfl

theorem trackDX_opposite (h : w.Bounded) : w.opposite.trackDX c p.opposite = (w.trackDX c p).opposite := by
  have hdirected : ∀ count, directed c p.opposite.sdx count w.opposite.xPacketsDir =
      -directed c p.sdx count w.xPacketsDir := fun count => directed_neg p.sdx count w.xPacketsDir
  have hturnX : ∀ dir, turned c p.opposite.sdx (-dir) w.opposite.dx = -turned c p.sdx dir w.dx :=
    fun dir => turned_neg p.sdx dir h.dx
  have hturnY : ∀ dir, turned c p.opposite.sdx (-dir) w.opposite.dy = -turned c p.sdx dir w.dy :=
    fun dir => turned_neg p.sdx dir h.dy
  unfold trackDX
  simp only [p.sdx_opposite, p.sdy_opposite, hdirected, hturnX, hturnY]
  apply opposite_if Iff.rfl
  · exact opposite_if Iff.rfl rfl rfl
  · rfl

theorem trackDY_opposite (h : w.Bounded) : w.opposite.trackDY c p.opposite = (w.trackDY c p).opposite := by
  have hdirected : ∀ count, directed c p.opposite.sdy count w.opposite.yPacketsDir =
      -directed c p.sdy count w.yPacketsDir := fun count => directed_neg p.sdy count w.yPacketsDir
  have hturnX : ∀ dir, turned c p.opposite.sdy (-dir) w.opposite.dx = -turned c p.sdy dir w.dx :=
    fun dir => turned_neg p.sdy dir h.dx
  have hturnY : ∀ dir, turned c p.opposite.sdy (-dir) w.opposite.dy = -turned c p.sdy dir w.dy :=
    fun dir => turned_neg p.sdy dir h.dy
  unfold trackDY
  simp only [p.sdx_opposite, p.sdy_opposite, hdirected, hturnX, hturnY]
  apply opposite_if Iff.rfl
  · exact opposite_if Iff.rfl rfl rfl
  · rfl

theorem ignoreNoise_opposite : w.opposite.ignoreNoise c = (w.ignoreNoise c).opposite := by
  unfold ignoreNoise
  exact opposite_if Iff.rfl rfl rfl

theorem stopIdle_opposite (hasCont hasSling : Bool) :
    w.opposite.stopIdle c p.opposite hasCont hasSling = (w.stopIdle c p hasCont hasSling).opposite := by
  unfold stopIdle
  exact opposite_if Iff.rfl rfl rfl

namespace Bounded

theorem ite {P : Prop} [Decidable P] {a b : ScrollWork} (ha : a.Bounded) (hb : b.Bounded) :
    (if P then a else b).Bounded := by
  split
  · exact ha
  · exact hb

theorem restart (h : w.Bounded) : (w.restart c p).Bounded := by
  have hx : { w with dx := w.s_dx, maxLevelReached := 0, packetsCount := 0, fing := w.restartFingers p }.Bounded :=
    ⟨h.s_dx, h.dy, h.s_dx, h.s_dy⟩
  have hy : { w with dy := w.s_dy, maxLevelReached := 0, packetsCount := 0, fing := w.restartFingers p }.Bounded :=
    ⟨h.dx, h.s_dy, h.s_dx, h.s_dy⟩
  unfold ScrollWork.restart
  split
  · exact hx.ite h
  · exact hx.ite h
  · exact hy.ite h
  · exact hy.ite h
  · exact h

theorem measure (h : w.Bounded) : (w.measure p).Bounded := ⟨h.dx, h.dy, h.s_dx, h.s_dy⟩

theorem trackEdge (h : w.Bounded) : (w.trackEdge c p).Bounded := by
  unfold ScrollWork.trackEdge
  split
  · exact ⟨h.dx, turned_bounds _ _ h.dy, h.s_dx, h.s_dy⟩
  · exact ⟨turned_bounds _ _ h.dx, h.dy, h.s_dx, h.s_dy⟩
  · exact h

theorem trackDX (h : w.Bounded) : (w.trackDX c p).Bounded := by
  unfold ScrollWork.trackDX
  refine ite (ite ?_ ?_) h
  · exact ⟨turned_bounds _ _ h.dx, turned_bounds _ _ h.dy, h.s_dx, h.s_dy⟩
  · exact ⟨h.dx, h.dy, h.s_dx, h.s_dy⟩

theorem trackDY (h : w.Bounded) : (w.trackDY c p).Bounded := by
  unfold ScrollWork.trackDY
  refine ite (ite ?_ ?_) h
  · exact ⟨turned_bounds _ _ h.dx, turned_bounds _ _ h.dy, h.s_dx, h.s_dy⟩
  · exact ⟨h.dx, h.dy, h.s_dx, h.s_dy⟩

theorem ignoreNoise (h : w.Bounded) : (w.ignoreNoise c).Bounded := by
  have hnone : -32767 ≤ (0 : Int) ∧ (0 : Int) ≤ 32767 := by decide
  unfold ScrollWork.ignoreNoise
  exact ite ⟨h.dx, h.dy, hnone, hnone⟩ h

theorem stopIdle (h : w.Bounded) (hasCont hasSling : Bool) : (w.stopIdle c p hasCont hasSling).Bounded := by
  unfold ScrollWork.stopIdle
  exact ite ⟨h.dx, h.dy, h.s_dx, h.s_dy⟩ h

theorem monitor (h : w.Bounded) : (w.monitor c p).Bounded := by
  unfold ScrollWork.monitor
  exact ite (h.trackEdge.stopIdle _ _) (ite (h.trackDX.trackDY.ignoreNoise.stopIdle _ _) h)

end Bounded

theorem monitor_opposite (h : w.Bounded) : w.opposite.monitor c p.opposite = (w.monitor c p).opposite := by
  unfold monitor
  rw [trackEdge_opposite h, stopIdle_opposite, trackDX_opposite h, trackDY_opposite h.trackDX, ignoreNoise_opposite,
    stopIdle_opposite]
  exact opposite_if Iff.rfl rfl (opposite_if Iff.rfl rfl rfl)

/-! The circular scroll. -/

theorem decide_neg (sd k : Int) :
    decide (-sd > k) = decide (sd < -k) ∧ decide (-sd < -k) = decide (sd > k) :=
  ⟨decide_eq_decide.mpr (by omega), decide_eq_decide.mpr (by omega)⟩

theorem isFirstTurn_opposite : w.opposite.isFirstTurn c p.opposite = w.isSecondTurn c p := by
  have hfing : (w.opposite.fing 0).x = (w.fing 0).x ∧ (w.opposite.fing 0).y = (w.fing 0).y := ⟨rfl, rfl⟩
  have hpacket : p.opposite.sdx = -p.sdx ∧ p.opposite.sdy = -p.sdy := ⟨rfl, rfl⟩
  have hx := decide_neg p.sdx c.edgeCirDelta.toNat
  have hy := decide_neg p.sdy c.edgeCirDelta.toNat
  unfold isFirstTurn isSecondTurn
  simp only [hfing, hpacket, hx, hy]

theorem isSecondTurn_opposite : w.opposite.isSecondTurn c p.opposite = w.isFirstTurn c p := by
  have hfing : (w.opposite.fing 0).x = (w.fing 0).x ∧ (w.opposite.fing 0).y = (w.fing 0).y := ⟨rfl, rfl⟩
  have hpacket : p.opposite.sdx = -p.sdx ∧ p.opposite.sdy = -p.sdy := ⟨rfl, rfl⟩
  have hx := decide_neg p.sdx c.edgeCirDelta.toNat
  have hy := decide_neg p.sdy c.edgeCirDelta.toNat
  unfold isFirstTurn isSecondTurn
  simp only [hfing, hpacket, hx, hy]

/-- At one place the two ways around need opposite deltas. -/
theorem not_isSecondTurn (h : w.isFirstTurn c p = true) : ¬w.isSecondTurn c p = true := by
  intro h'
  unfold isFirstTurn at h
  unfold isSecondTurn at h'
  simp only [Bool.or_eq_true, Bool.and_eq_true, decide_eq_true_eq, gt_iff_lt, UInt16.lt_iff_toNat_lt] at h h'
  omega

theorem turnCircle_opposite (h : w.Bounded) : w.opposite.turnCircle c p.opposite = (w.turnCircle c p).opposite := by
  have hmode : w.opposite.touchmode = w.touchmode := rfl
  have hx : positive w.opposite.s_dx = -negative w.s_dx ∧ negative w.opposite.s_dx = -positive w.s_dx :=
    ⟨positive_neg h.s_dx, negative_neg h.s_dx⟩
  have hy : positive w.opposite.s_dy = -negative w.s_dy ∧ negative w.opposite.s_dy = -positive w.s_dy :=
    ⟨positive_neg h.s_dy, negative_neg h.s_dy⟩
  unfold turnCircle
  simp only [isFirstTurn_opposite, isSecondTurn_opposite, hmode, hx, hy]
  by_cases hfirst : w.isFirstTurn c p = true
  · rw [if_neg (not_isSecondTurn hfirst), if_pos hfirst, if_pos hfirst]
    exact opposite_if Iff.rfl rfl rfl
  · rw [if_neg hfirst, if_neg hfirst]
    exact opposite_if Iff.rfl (opposite_if Iff.rfl rfl rfl) rfl

theorem along_neg {d : Int} (n : Nat) (h : d ≠ 0) : along (-d) n = -along d n := by
  unfold along
  split_ifs <;> omega

theorem startCont_opposite : w.opposite.startCont = w.startCont.opposite := by
  unfold startCont
  exact opposite_if Iff.rfl rfl (send_opposite .setTimeoutMS { w with doCont := true })

theorem restartCont_opposite : w.opposite.restartCont = w.restartCont.opposite := by
  unfold restartCont
  apply opposite_if Iff.rfl rfl
  have hcancel := send_opposite .cancelTimeout { w with doCont := true }
  exact (congrArg (send · .setTimeoutMS) hcancel).trans (send_opposite .setTimeoutMS _)

theorem dispatchCircle_opposite : w.opposite.dispatchCircle c = (w.dispatchCircle c).opposite := by
  unfold dispatchCircle
  apply opposite_if Iff.rfl
  · exact opposite_if Iff.rfl (send_opposite (.dispatchTimes false w.edgeCirDxy 0) w)
      (send_opposite (.dispatchTimes false 0 w.edgeCirDxy) w)
  · apply opposite_if Iff.rfl
    · exact startCont_opposite (w := { w with dy := w.edgeCirDxy })
    · exact startCont_opposite (w := { w with dx := w.edgeCirDxy })

/-- The circular scroll has no direction yet. -/
def Undirected (c : ScrollControl) (p : ScrollPacket) (w : ScrollWork) : Prop :=
  (w.s_dy ≠ 0 ∨ w.s_dx ≠ 0) ∧ isFast c p = true ∧ w.edgeCirDxy = 0 ∧ w.maxLevelReached ≠ 0

theorem isFast_opposite : isFast c p.opposite = isFast c p := by
  unfold isFast
  rw [p.sdx_opposite, p.sdy_opposite]

theorem speedCircle_opposite (h : ¬(isFast c p = true ∧ w.edgeCirDxy = 0 ∧ w.maxLevelReached ≠ 0)) :
    w.opposite.speedCircle c p.opposite = (w.speedCircle c p).opposite := by
  unfold speedCircle
  rw [isFast_opposite]
  by_cases hfast : isFast c p = true
  · rw [if_pos hfast, if_pos hfast]
    have halong : along w.opposite.edgeCirDxy w.opposite.maxLevelReached.toNat =
        -along w.edgeCirDxy w.maxLevelReached.toNat := by
      by_cases hzero : w.edgeCirDxy = 0
      · have hlevel : w.maxLevelReached = 0 := by
          by_contra hne
          exact h ⟨hfast, hzero, hne⟩
        show along (-w.edgeCirDxy) w.maxLevelReached.toNat = _
        rw [hlevel, hzero]
        rfl
      · exact along_neg w.maxLevelReached.toNat hzero
    rw [halong]
    rfl
  · rw [if_neg hfast, if_neg hfast]

theorem moveCircle_opposite (h : ¬Undirected c p w) :
    w.opposite.moveCircle c p.opposite = (w.moveCircle c p).opposite := by
  have hmoves : (w.opposite.s_dy ≠ 0 ∨ w.opposite.s_dx ≠ 0) ↔ (w.s_dy ≠ 0 ∨ w.s_dx ≠ 0) := by
    show (-w.s_dy ≠ 0 ∨ -w.s_dx ≠ 0) ↔ _
    omega
  unfold moveCircle
  by_cases hmoving : w.s_dy ≠ 0 ∨ w.s_dx ≠ 0
  · rw [if_pos hmoving, if_pos (hmoves.mpr hmoving), speedCircle_opposite fun hslip => h ⟨hmoving, hslip⟩,
      dispatchCircle_opposite]
  · rw [if_neg hmoving, if_neg (mt hmoves.mp hmoving)]
    exact opposite_if Iff.rfl
      (send_opposite .cancelTimeout { w with doCont := false, dx := 0, dy := 0, edgeCirDxy := 0 }) rfl

theorem startCont_edgeCirDxy : w.startCont.edgeCirDxy = w.edgeCirDxy := by
  unfold startCont
  split
  · rfl
  · rfl

theorem dispatchCircle_edgeCirDxy : (w.dispatchCircle c).edgeCirDxy = w.edgeCirDxy := by
  unfold dispatchCircle
  split
  · split
    · rfl
    · rfl
  · split
    · exact startCont_edgeCirDxy
    · exact startCont_edgeCirDxy

/-- Without a direction the scroll is forwards both ways. -/
theorem moveCircle_undirected (h : Undirected c p w) :
    (w.opposite.moveCircle c p.opposite).edgeCirDxy ≠ -(w.moveCircle c p).edgeCirDxy := by
  obtain ⟨hmoves, hfast, hzero, hlevel⟩ := h
  have hforward : ∀ (p : ScrollPacket) (w : ScrollWork), (w.s_dy ≠ 0 ∨ w.s_dx ≠ 0) → isFast c p = true →
      w.edgeCirDxy = 0 → (w.moveCircle c p).edgeCirDxy = w.maxLevelReached.toNat := by
    intro p w hmoves hfast hzero
    unfold moveCircle
    rw [if_pos hmoves, dispatchCircle_edgeCirDxy]
    unfold speedCircle
    rw [if_pos hfast]
    show along w.edgeCirDxy w.maxLevelReached.toNat = _
    rw [hzero]
    rfl
  have hmoves' : w.opposite.s_dy ≠ 0 ∨ w.opposite.s_dx ≠ 0 := by
    show -w.s_dy ≠ 0 ∨ -w.s_dx ≠ 0
    omega
  have hzero' : w.opposite.edgeCirDxy = 0 := by
    show -w.edgeCirDxy = 0
    omega
  rw [hforward p w hmoves hfast hzero, hforward p.opposite w.opposite hmoves' (isFast_opposite.trans hfast) hzero']
  show (w.maxLevelReached.toNat : Int) ≠ -w.maxLevelReached.toNat
  have hpos : w.maxLevelReached.toNat ≠ 0 := fun hnone => hlevel (UInt8.toNat_inj.mp hnone)
  omega

/-! The other scrolls. -/

theorem skip_opposite : w.opposite.skip = w.skip.opposite := by
  have hx : Function.update w.opposite.skippedDx w.skipSample (-w.s_dx) =
      fun i => -Function.update w.skippedDx w.skipSample w.s_dx i := by
    funext i
    exact (Function.apply_update (fun _ d => -d) w.skippedDx w.skipSample w.s_dx i).symm
  have hy : Function.update w.opposite.skippedDy w.skipSample (-w.s_dy) =
      fun i => -Function.update w.skippedDy w.skipSample w.s_dy i := by
    funext i
    exact (Function.apply_update (fun _ d => -d) w.skippedDy w.skipSample w.s_dy i).symm
  unfold skip
  show ({ w.opposite with
    skippedDx := Function.update w.opposite.skippedDx w.skipSample (-w.s_dx)
    skippedDy := Function.update w.opposite.skippedDy w.skipSample (-w.s_dy)
    skipSample := _ } : ScrollWork) = _
  rw [hx, hy]
  rfl

/-- The other way, the opposite is dispatched. -/
def Opposed (dispatch : Int → Int → ScrollSent) : Prop :=
  ∀ dy dx, dispatch (-dy) (-dx) = (dispatch dy dx).opposite

theorem replay_opposite {dispatch : Int → Int → ScrollSent} (h : Opposed dispatch) :
    w.opposite.replay p.opposite dispatch = (w.replay p dispatch).opposite := by
  have hsent : w.opposite.sent ++ (List.range w.opposite.skipSample).map
      (fun i => dispatch (w.opposite.skippedDy i) (w.opposite.skippedDx i)) =
      (w.sent ++ (List.range w.skipSample).map fun i => dispatch (w.skippedDy i) (w.skippedDx i)).map
        ScrollSent.opposite := by
    rw [List.map_append, List.map_map]
    congr 1
    exact List.map_congr_left fun i _ => h (w.skippedDy i) (w.skippedDx i)
  have hcleared : ∀ d : Nat → Int, (fun i => if i < w.skipSample then 0 else -d i) =
      fun i => -if i < w.skipSample then 0 else d i := by
    intro d
    funext i
    split
    · rfl
    · rfl
  unfold replay
  apply opposite_if Iff.rfl
  · rw [hsent]
    show ({ w.opposite with
      sent := _
      skippedDx := fun i => if i < w.skipSample then 0 else -w.skippedDx i
      skippedDy := fun i => if i < w.skipSample then 0 else -w.skippedDy i
      skipSample := 0 } : ScrollWork) = _
    rw [hcleared, hcleared]
    rfl
  · rfl

theorem isSlow_opposite : w.opposite.isSlow c p.opposite = w.isSlow c p := by
  have hne : ∀ d : Int, decide (-d ≠ 0) = decide (d ≠ 0) := fun d => decide_eq_decide.mpr (by omega)
  have hlast : decide (w.opposite.dx ≠ 0) = decide (w.dx ≠ 0) ∧ decide (w.opposite.dy ≠ 0) = decide (w.dy ≠ 0) :=
    ⟨hne w.dx, hne w.dy⟩
  have hnew : decide (w.opposite.s_dx ≠ 0) = decide (w.s_dx ≠ 0) ∧
      decide (w.opposite.s_dy ≠ 0) = decide (w.s_dy ≠ 0) := ⟨hne w.s_dx, hne w.s_dy⟩
  unfold isSlow
  rw [p.sdx_opposite, p.sdy_opposite, hlast.1, hlast.2, hnew.1, hnew.2]
  rfl

theorem isConflict_opposite (s_d : Int) : isConflict p.opposite (-s_d) = isConflict p s_d := by
  unfold isConflict
  rw [show decide (-s_d ≠ 0) = decide (s_d ≠ 0) from decide_eq_decide.mpr (by omega)]
  rfl

theorem slowMode_opposite : w.opposite.slowMode c = (w.slowMode c).opposite := by
  have hmode : w.opposite.touchmode = w.touchmode := rfl
  unfold slowMode
  rw [hmode]
  split
  · rfl
  · rfl
  · rfl
  · rfl
  · rfl

theorem setLevel_opposite (n : Nat) : w.opposite.setLevel n = (w.setLevel n).opposite := by
  have hneg : ∀ d : Int, alongMoving (-d) n = -alongMoving d n := by
    intro d
    unfold alongMoving
    by_cases hd : d ≠ 0
    · rw [if_pos hd, if_pos (by omega), along_neg n hd]
    · rw [if_neg hd, if_neg (by omega)]
  unfold setLevel
  show ({ w.opposite with dy := alongMoving (-w.dy) n, dx := alongMoving (-w.dx) n } : ScrollWork) = _
  rw [hneg, hneg]
  rfl

theorem double_opposite : w.opposite.double = w.double.opposite := by
  unfold double
  show ({ w.opposite with dy := -w.dy * 2, dx := -w.dx * 2 } : ScrollWork) = _
  rw [Int.neg_mul, Int.neg_mul]
  rfl

theorem stopCont_opposite : w.opposite.stopCont = w.stopCont.opposite := by
  unfold stopCont
  exact opposite_if Iff.rfl (send_opposite .cancelTimeout { w with doCont := false }) rfl

theorem dispatchLast_opposite (edge : Bool) : w.opposite.dispatchLast edge = (w.dispatchLast edge).opposite :=
  send_opposite (.dispatchTimes edge w.dy w.dx) w

theorem receiveSlow_opposite (edge : Bool) :
    w.opposite.receiveSlow p.opposite edge = (w.receiveSlow p edge).opposite := by
  have hlevel : w.opposite.setLevel w.opposite.maxLevelReached.toNat =
      (w.setLevel w.maxLevelReached.toNat).opposite := setLevel_opposite w.maxLevelReached.toNat
  have htake : w.opposite.takeAmounts = w.takeAmounts.opposite := rfl
  unfold receiveSlow
  apply opposite_if Iff.rfl
  · apply opposite_if Iff.rfl hlevel
    refine opposite_if ?_ (setLevel_opposite 1) rfl
    show (-p.sdy).natAbs > 0 ↔ _
    rw [Int.natAbs_neg]
  · apply opposite_if Iff.rfl (setLevel_opposite 5)
    refine opposite_if Iff.rfl (opposite_if Iff.rfl ?_ (opposite_if Iff.rfl ?_ rfl)) rfl
    · rw [hlevel, double_opposite, restartCont_opposite]
    · rw [htake, stopCont_opposite, dispatchLast_opposite]

theorem dispatchSkipped_opposed (edge : Bool) : Opposed (w.dispatchSkipped p edge) := by
  intro dy dx
  unfold dispatchSkipped
  split
  · rfl
  · rw [Int.neg_tdiv, Int.neg_tdiv]
    rfl

theorem startTimer_opposite : w.opposite.startTimer p.opposite = (w.startTimer p).opposite := by
  unfold startTimer
  refine opposite_if ?_ restartCont_opposite rfl
  show (-w.dy ≠ 0 ∨ -w.dx ≠ 0) ∧ p.sMode ≠ 3 ↔ _
  simp only [ne_eq, Int.neg_eq_zero]

theorem slow_opposite : w.opposite.slow c p.opposite = (w.slow c p).opposite := by
  have hmark : ∀ w : ScrollWork, w.opposite.markInertia = w.markInertia.opposite := by
    intro w
    unfold markInertia
    exact opposite_if Iff.rfl rfl rfl
  have hskipped : ∀ (w : ScrollWork) (edge : Bool),
      w.opposite.dispatchSkipped p.opposite edge = w.dispatchSkipped p edge := fun w edge => rfl
  have hx : isConflict p.opposite w.opposite.s_dx = isConflict p w.s_dx := isConflict_opposite w.s_dx
  have hy : isConflict p.opposite w.opposite.s_dy = isConflict p w.s_dy := isConflict_opposite w.s_dy
  unfold slow
  rw [hx, hy]
  apply opposite_if Iff.rfl (skip_opposite (w := { w with dy := 0, s_dy := 0 }))
  apply opposite_if Iff.rfl (skip_opposite (w := { w with dx := 0, s_dx := 0 }))
  dsimp only
  rw [slowMode_opposite, hmark, hskipped, replay_opposite (dispatchSkipped_opposed _), receiveSlow_opposite,
    startTimer_opposite]
  rfl

theorem normalMode_opposite {sDelta sDelta' : Int} (h : w.isEdgeScroll = true → sDelta' = -sDelta) :
    w.opposite.normalMode sDelta' = (w.normalMode sDelta).opposite := by
  have hmode : w.opposite.touchmode = w.touchmode := rfl
  unfold normalMode
  rw [hmode]
  split
  · rfl
  · rfl
  · next hedge =>
    rw [h (by simp [isEdgeScroll, hedge])]
    rfl
  · next hedge =>
    rw [h (by simp [isEdgeScroll, hedge])]
    rfl
  · rfl

theorem receiveNormal_opposite (edge : Bool) :
    w.opposite.receiveNormal p.opposite edge = (w.receiveNormal p edge).opposite := by
  unfold receiveNormal
  apply opposite_if Iff.rfl restartCont_opposite
  apply opposite_if Iff.rfl (send_opposite (.dispatchHalf edge w.s_dy w.s_dx) w)
  exact opposite_if Iff.rfl (dispatchLast_opposite edge) rfl

theorem normal_opposite {sDelta sDelta' : Int} (h : w.isEdgeScroll = true → sDelta' = -sDelta) :
    w.opposite.normal p.opposite sDelta' = (w.normal p sDelta).opposite := by
  have hmode := normalMode_opposite (w := { w with noInertia := false, doCont := false }) h
  have hx : ∀ w : ScrollWork, isConflict p.opposite w.opposite.s_dx = isConflict p w.s_dx :=
    fun w => isConflict_opposite w.s_dx
  have hy : ∀ w : ScrollWork, isConflict p.opposite w.opposite.s_dy = isConflict p w.s_dy :=
    fun w => isConflict_opposite w.s_dy
  have hedge : w.opposite.isEdgeScroll = w.isEdgeScroll := rfl
  have hfirst : { w.opposite with noInertia := false, doCont := false } =
      ({ w with noInertia := false, doCont := false } : ScrollWork).opposite := rfl
  unfold normal
  dsimp only
  rw [hedge, hfirst, hmode, hx, hy, replay_opposite fun dy dx => rfl, receiveNormal_opposite]
  exact opposite_if Iff.rfl skip_opposite rfl

theorem finish_opposite : w.opposite.finish c p.opposite = (w.finish c p).opposite := by
  unfold finish
  exact opposite_if Iff.rfl (send_opposite .cancelTimeout { w with doCont := false, dx := 0, dy := 0 }) rfl

theorem isNormal_opposite : w.opposite.isNormal p.opposite = w.isNormal p := by
  unfold isNormal
  rw [p.sdx_opposite, p.sdy_opposite]
  rfl

/-- A circular scroll without a direction. -/
def Slips (c : ScrollControl) (p : ScrollPacket) (w : ScrollWork) : Prop :=
  w.isCircular = true ∧ Undirected c p (w.turnCircle c p)

theorem scroll_opposite {sDelta sDelta' : Int} (h : w.Bounded) (hslips : ¬Slips c p w)
    (hdelta : w.scrollDifflvl ≠ 0 → w.isEdgeScroll = true → sDelta' = -sDelta) :
    w.opposite.scroll c p.opposite sDelta' = (w.scroll c p sDelta).opposite := by
  have hcircular : w.opposite.isCircular = w.isCircular := rfl
  unfold scroll
  rw [hcircular, isSlow_opposite, isNormal_opposite]
  by_cases hcir : w.isCircular = true
  · rw [if_pos hcir, if_pos hcir, turnCircle_opposite h]
    exact moveCircle_opposite fun hundirected => hslips ⟨hcir, hundirected⟩
  · rw [if_neg hcir, if_neg hcir]
    apply opposite_if Iff.rfl slow_opposite
    by_cases hnormal : w.isNormal p = true
    · have hlevel : w.scrollDifflvl ≠ 0 := by
        unfold isNormal at hnormal
        exact of_decide_eq_true (Bool.and_eq_true_iff.mp hnormal).2
      rw [if_pos hnormal, if_pos hnormal]
      exact normal_opposite (hdelta hlevel)
    · rw [if_neg hnormal, if_neg hnormal]
      exact finish_opposite

theorem scroll_slips (sDelta sDelta' : Int) (h : w.Bounded) (hslips : Slips c p w) :
    (w.opposite.scroll c p.opposite sDelta').edgeCirDxy ≠ -(w.scroll c p sDelta).edgeCirDxy := by
  have hcircular : w.opposite.isCircular = true := hslips.1
  unfold scroll
  rw [if_pos hcircular, if_pos hslips.1, turnCircle_opposite h]
  exact moveCircle_undirected hslips.2

/-! The steps before keep the mode, and a level of zero. -/

structure Keeps (w' w : ScrollWork) : Prop where
  touchmode : w'.touchmode = w.touchmode
  level : w'.scrollDifflvl ≠ 0 → w.scrollDifflvl ≠ 0

namespace Keeps

theorem refl (w : ScrollWork) : Keeps w w := ⟨rfl, id⟩

theorem trans {w₁ w₂ w₃ : ScrollWork} (h : Keeps w₁ w₂) (h' : Keeps w₂ w₃) : Keeps w₁ w₃ :=
  ⟨h.touchmode.trans h'.touchmode, fun hlevel => h'.level (h.level hlevel)⟩

theorem ite {P : Prop} [Decidable P] {a b : ScrollWork} (ha : Keeps a w) (hb : Keeps b w) :
    Keeps (if P then a else b) w := by
  split
  · exact ha
  · exact hb

theorem restart : Keeps (w.restart c p) w := by
  unfold ScrollWork.restart
  split
  · exact ite ⟨rfl, id⟩ (refl w)
  · exact ite ⟨rfl, id⟩ (refl w)
  · exact ite ⟨rfl, id⟩ (refl w)
  · exact ite ⟨rfl, id⟩ (refl w)
  · exact refl w

theorem measure : Keeps (w.measure p) w := ⟨rfl, id⟩

theorem trackEdge : Keeps (w.trackEdge c p) w := by
  unfold ScrollWork.trackEdge
  split
  · exact ⟨rfl, id⟩
  · exact ⟨rfl, id⟩
  · exact refl w

theorem trackDX : Keeps (w.trackDX c p) w := ite (ite ⟨rfl, id⟩ ⟨rfl, id⟩) (refl w)

theorem trackDY : Keeps (w.trackDY c p) w := ite (ite ⟨rfl, id⟩ ⟨rfl, id⟩) (refl w)

theorem ignoreNoise : Keeps (w.ignoreNoise c) w := ite ⟨rfl, fun hzero => absurd rfl hzero⟩ (refl w)

theorem stopIdle (hasCont hasSling : Bool) : Keeps (w.stopIdle c p hasCont hasSling) w := by
  refine ite ⟨rfl, ?_⟩ (refl w)
  cases hasCont with
  | true => exact id
  | false => exact fun hzero => absurd rfl hzero

theorem monitor : Keeps (w.monitor c p) w :=
  ite ((stopIdle _ _).trans trackEdge)
    (ite ((stopIdle _ _).trans (ignoreNoise.trans (trackDY.trans trackDX))) (refl w))

end Keeps

end ScrollWork

namespace ScrollState

variable (c : ScrollControl) (p : ScrollPacket) (s : ScrollState)

theorem accelerate_opposite (h : ScrollAmounts.Opposite (s.opposite.amounts c p.opposite) (s.amounts c p)) :
    s.opposite.accelerate c p.opposite = (s.accelerate c p).opposite := by
  have hsample : s.opposite.sample p.opposite = (s.sample p).opposite := by
    unfold sample
    rw [p.sdx_opposite, p.sdy_opposite]
    rfl
  unfold accelerate
  dsimp only
  rw [hsample, h.touchmode, h.pSmoothX, h.pSmoothY, h.s_dx, h.s_dy, h.scrollDifflvl]
  rfl

/-- The last amounts are shorts that have an opposite. -/
structure HasOpposite (s : ScrollState) : Prop where
  dx : -32767 ≤ s.dx ∧ s.dx ≤ 32767
  dy : -32767 ≤ s.dy ∧ s.dy ≤ 32767

theorem monitored_keeps : (s.monitored c p).Keeps (s.accelerate c p) :=
  ScrollWork.Keeps.monitor.trans (ScrollWork.Keeps.measure.trans ScrollWork.Keeps.restart)

variable {c p s}

theorem accelerate_bounded (h : s.HasOpposite)
    (hamounts : ScrollAmounts.Opposite (s.opposite.amounts c p.opposite) (s.amounts c p)) :
    (s.accelerate c p).Bounded :=
  ⟨h.dx, h.dy, (hamounts.bounds).1, (hamounts.bounds).2⟩

theorem monitored_opposite (h : (s.accelerate c p).Bounded)
    (hamounts : ScrollAmounts.Opposite (s.opposite.amounts c p.opposite) (s.amounts c p)) :
    s.opposite.monitored c p.opposite = (s.monitored c p).opposite := by
  unfold monitored
  rw [accelerate_opposite c p s hamounts, ScrollWork.restart_opposite, ScrollWork.measure_opposite,
    ScrollWork.monitor_opposite h.restart.measure]

end ScrollState
end ApplePS2
