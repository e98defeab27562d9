import ApplePS2.Touchpad.MotionV2v3

/- The number of fingers that a packet of ELAN's version 2 reports, and when a change of
   it is noticed (`Process_ELANv2v3_Checks`). The fourth finger is a bit of its own, that
   is read after the comparison.

   1. `fingersV2v3_eq`: when `Process_fingers_change` is called.
   2. `cFingers_event`: the number that a packet leaves behind.
   3. `notices_iff`: the changes of a run are noticed exactly if each packet of three or
      four fingers after another one meets `SameKind`. -/
namespace ApplePS2

open Transition

/-- byte 0: `n1 n0 . . . . R L` -/
def bitsV2 (p : Packet) : UInt8 := (p 0 &&& 0xc0) >>> 6

/-- The number of fingers, with byte 3: `n4 . w1 w0 . . . .` -/
def reportedV2 (p : Packet) : UInt8 := if bitsV2 p = 3 && p 3 &&& 0x80 ≠ 0 then 4 else bitsV2 p

theorem bitsV2_le (p : Packet) : bitsV2 p ≤ 3 := Touchpad.countBits_le (p 0)

theorem reportedV2_cases (p : Packet) :
    reportedV2 p = bitsV2 p ∧ bitsV2 p ≤ 3 ∨ reportedV2 p = 4 ∧ bitsV2 p = 3 := by
  unfold reportedV2
  split
  · next hfour => exact .inr ⟨rfl, of_decide_eq_true ((Bool.and_eq_true _ _).mp hfour).1⟩
  · exact .inl ⟨rfl, bitsV2_le p⟩

theorem reportedV2_le (p : Packet) : reportedV2 p ≤ 4 := by
  obtain ⟨hreported, hbits⟩ | ⟨hreported, -⟩ := reportedV2_cases p
  · rw [hreported]
    exact UInt8.le_trans hbits (by decide)
  · rw [hreported]
    decide

namespace Touchpad

variable {G : Gestures} {w : TouchpadWorld}

/-- `Process_fingers_change` is called for the packet. -/
def noticesChange (p : Packet) (s : Touchpad) : Bool := s.cFingers ≠ bitsV2 p && bitsV2 p > 0

theorem fingersV2v3_eq (p : Packet) (s : Touchpad) : s.fingersV2v3 p =
    if s.noticesChange p then (s.setFingers (bitsV2 p)).Process_fingers_change
    else if s.cFingers ≠ bitsV2 p then s.setFingers 0
    else s := by
  have hzero : ¬ bitsV2 p > 0 → bitsV2 p = 0 := fun h => UInt8.le_zero_iff.mp (UInt8.not_lt.mp h)
  show (if s.cFingers ≠ bitsV2 p then
      if bitsV2 p > 0 then (s.setFingers (bitsV2 p)).Process_fingers_change else s.setFingers (bitsV2 p)
    else s) = _
  unfold noticesChange
  by_cases hchange : s.cFingers ≠ bitsV2 p
  · by_cases hsome : bitsV2 p > 0
    · rw [if_pos hchange, if_pos hsome, if_pos (by simp [hchange, hsome])]
    · rw [if_pos hchange, if_neg hsome, if_neg (by simp [hsome]), if_pos hchange, hzero hsome]
  · rw [if_neg hchange, if_neg (by simp [hchange]), if_neg hchange]

/-- The fourth finger is counted only by a packet that is not stopped before. -/
theorem cFingers_event (packet_type : UInt8) {p : Packet} {s : Touchpad} (hs : s.cFingers = bitsV2 p) :
    (s.eventV2v3 G w packet_type p).cFingers = bitsV2 p ∨
      reportedV2 p = 4 ∧ (s.eventV2v3 G w packet_type p).cFingers = 4 := by
  have hcount : (s.oneFingerV2v3 G w p).cFingers = (s.countFourV2 p).cFingers := by
    have htouch : ∀ (dx dy : Int) (t : Touchpad), Handled t (t.touchV2v3 G w dx dy) := by
      intro dx dy t
      unfold touchV2v3
      repeat' split
      · exact handled_singlefinger _ t
      · exact handled_gesture _ t
      · exact .refl t
    exact (((handled_setFinger _ _ _).trans (htouch _ _ _)).trans (handled_modifyFinger _ _ _)).counts.1
  unfold eventV2v3
  split
  · exact .inl hs
  split
  · exact .inl ((handled_touch_end s).counts.1.trans hs)
  split
  · exact .inl ((handled_trackpoint (G := G) (w := w) p s).counts.1.trans hs)
  split
  · exact .inl ((handled_touch_end s).counts.1.trans hs)
  split
  · exact .inl hs
  split
  · rw [hcount]
    show (if _ then (4 : UInt8) else s.cFingers) = bitsV2 p ∨ _ ∧ (if _ then (4 : UInt8) else s.cFingers) = 4
    split
    · next hfour =>
      rw [hs] at hfour
      simp only [Bool.and_eq_true, decide_eq_true_eq] at hfour
      refine .inr ⟨?_, rfl⟩
      unfold reportedV2
      rw [if_pos (by simp [hfour.1.1, hfour.2])]
    · exact .inl hs
  split
  · exact .inl ((handled_twoFingersV2v3 packet_type p s).counts.1.trans hs)
  · exact .inl hs

end Touchpad

/-! Runs. -/

/-- The driver of a touchpad of version 2, and the number of fingers that the last packet reported. -/
structure FingersV2 where
  driver : Touchpad
  reported : UInt8
  small : reported ≤ 4
  counted : driver.cFingers = reported ∨ reported = 4 ∧ driver.cFingers = 3

namespace FingersV2

open Touchpad

def init : FingersV2 :=
  { driver := { Touchpad.init with touchpadVendor := .STD_ELAN_TECH, hwVersion := STD_ELAN_HW_V2 }
    reported := 0
    small := by decide
    counted := .inl rfl }

/-- A packet, and what is read while it is handled. -/
structure Event where
  world : TouchpadWorld
  packet : Packet

def step (G : Gestures) (m : FingersV2) (e : Event) : FingersV2 :=
  { driver := m.driver.Process_absolute_events_ELANv2v3 G e.world 0 e.packet
    reported := reportedV2 e.packet
    small := reportedV2_le e.packet
    counted := by
      have hafter := cFingers_event (G := G) (w := e.world) 0
        (cFingers_checks (w := e.world) e.packet m.driver)
      obtain ⟨hreported, -⟩ | ⟨hreported, hbits⟩ := reportedV2_cases e.packet
      · obtain hsame | ⟨hfour, hcount⟩ := hafter
        · exact .inl (hsame.trans hreported.symm)
        · exact .inl (hcount.trans hfour.symm)
      · obtain hsame | ⟨-, hcount⟩ := hafter
        · exact .inr ⟨hreported, hsame.trans hbits⟩
        · exact .inl (hcount.trans hreported.symm) }

/-- The change is noticed exactly if there is one, to some fingers. The checks note the pressure
before they compare. -/
def Follows (m : FingersV2) (e : Event) : Prop :=
  (m.driver.modifyFinger 0 (pressureV2v3 e.packet)).noticesChange e.packet = true ↔
    reportedV2 e.packet > 0 ∧ reportedV2 e.packet ≠ m.reported

/-- After a packet of three or four fingers another one reports four just when the last one did,
and the fourth finger has not been counted. -/
def SameKind (m : FingersV2) (e : Event) : Prop :=
  bitsV2 e.packet = 3 → 3 ≤ m.reported →
    (reportedV2 e.packet = 4 ↔ m.reported = 4 ∧ m.driver.cFingers = 3)

theorem follows_step (m : FingersV2) (e : Event) : m.Follows e ↔ m.SameKind e := by
  have hnotices : (m.driver.modifyFinger 0 (pressureV2v3 e.packet)).noticesChange e.packet = true ↔
      m.driver.cFingers ≠ bitsV2 e.packet ∧ bitsV2 e.packet > 0 := by
    show (decide (m.driver.cFingers ≠ bitsV2 e.packet) && decide (bitsV2 e.packet > 0)) = true ↔ _
    rw [Bool.and_eq_true, decide_eq_true_eq, decide_eq_true_eq]
  have hreported := reportedV2_cases e.packet
  have hsmall := m.small
  have hcounted := m.counted
  unfold Follows SameKind
  rw [hnotices]
  -- the two-bit count, the reported one, the last one and the stored one are all that matters
  simp only [ne_eq, ← UInt8.toNat_inj, UInt8.lt_iff_toNat_lt, UInt8.le_iff_toNat_le, gt_iff_lt] at *
  simp only [UInt8.reduceToNat] at *
  omega

/-- The changes of a run are noticed exactly if each of its packets is of the same kind as the one before. -/
theorem notices_iff (G : Gestures) (m : FingersV2) (es : List Event) :
    (∀ p e, p ++ [e] <+: es → (run (step G) p m).Follows e) ↔ ∀ p e, p ++ [e] <+: es → (run (step G) p m).SameKind e :=
  forall_congr' fun _ => forall_congr' fun e => forall_congr' fun _ => follows_step _ e

/-- A packet that reports four fingers. -/
def fourFingers : Event :=
  { world := .silent, packet := fun i => if i = 0 then 0xc4 else if i = 3 then 0x82 else 0 }

/-- Four fingers are held still, and each of the packets is taken for a change. -/
theorem follows_four :
    ¬ (run (step .idle) [fourFingers] init).Follows fourFingers ∧
      ¬ (run (step .idle) [fourFingers, fourFingers] init).Follows fourFingers := by
  have hreported : reportedV2 fourFingers.packet = 4 := by decide
  have hfirst : (run (step .idle) [fourFingers] init).driver.cFingers = 4 := by decide +kernel
  have hsecond : (run (step .idle) [fourFingers, fourFingers] init).driver.cFingers = 4 := by decide +kernel
  have hstill : ∀ m : FingersV2, m.driver.cFingers = 4 → m.reported = 4 → ¬ m.Follows fourFingers := by
    intro m hcount hlast hfollows
    have hnotices : (m.driver.modifyFinger 0 (pressureV2v3 fourFingers.packet)).noticesChange fourFingers.packet = true := by
      show (decide (m.driver.cFingers ≠ bitsV2 fourFingers.packet) && _) = true
      rw [hcount]
      decide
    exact (hfollows.mp hnotices).2 (hreported.trans hlast.symm)
  exact ⟨hstill _ hfirst hreported, hstill _ hsecond hreported⟩

end FingersV2
end ApplePS2
