import ApplePS2.Touchpad.Position

/- The motion of one finger on ELAN's versions 2 and 3, packet by packet, beside the raw
   coordinates that the packets hold.

   1. `eventV2v3_one`, `checked_one`: what a packet of one finger does.
   2. `delta_eq_iff`: one delta is the difference of the raw coordinates exactly if both
      heights are on the same side of `_ymax`.
   3. `total_of_exact`: exact deltas telescope.
   4. `telescopes_iff`: a run telescopes exactly if no packet crosses `_ymax`. -/
namespace ApplePS2

open Transition

/-- The coordinates of a packet. -/
def rawV2v3 (p : Packet) : UInt16 × UInt16 := (bits12 (p 1) (p 2), bits12 (p 4) (p 5))

/-- The second coordinate is negated. -/
def rawDifference (r r' : UInt16 × UInt16) : Int × Int :=
  ((r'.1.toNat : Int) - r.1.toNat, -((r'.2.toNat : Int) - r.2.toNat))

theorem bits12_lt (high low : UInt8) : (bits12 high low).toNat < 4096 := by
  have hhigh : ∀ b : UInt8, ((b &&& 0x0f).toUInt16 <<< 8).toNat < 2 ^ 12 := by decide +kernel
  have hlow : low.toUInt16.toNat < 2 ^ 12 := Nat.lt_of_lt_of_le low.toNat_lt (by decide)
  unfold bits12
  rw [UInt16.toNat_or]
  exact Nat.or_lt_two_pow (hhigh high) hlow

namespace Touchpad

variable (G : Gestures) (w : TouchpadWorld)

/-- "Calculate delta values", of one finger (`Process_singlefinger_touch`). -/
def singleDelta (x y fid : Int) (s : Touchpad) : Int × Int :=
  (x - (s.fing fid).last_x.toNat, y - (s.fing fid).last_y.toNat)

/-- The packet moves the only finger; the state is the one after the checks. -/
def movesOne (packet_type : UInt8) (p : Packet) (s : Touchpad) : Bool :=
  !(!s.kbEvent.showPressWidth && s.isPalmV2v3) && !s.isTouchEndV2v3 p && !s.isTrackpointV3 packet_type &&
    !s.isAccidental && s.cFingers = 1

/-- The finger as `Process_singlefinger_touch` finds it. -/
def placedOne (p : Packet) (s : Touchpad) : Touchpad :=
  s.setFinger 0 (s.oneFinger (bits12 (p 1) (p 2)) (s.ymax - bits12 (p 4) (p 5))).1

/-- The delta that it handles. -/
def deltaOne (p : Packet) (s : Touchpad) : Int × Int :=
  let t := s.placedOne p
  t.singleDelta (t.fing 0).x.toNat (t.fing 0).y.toNat 0

/-! One packet. -/

variable {G w}

theorem eventV2v3_one {packet_type : UInt8} {p : Packet} {s : Touchpad} (h : s.movesOne packet_type p = true) :
    s.eventV2v3 G w packet_type p = ((s.placedOne p).singlefinger G w 0).modifyFinger 0 Finger.arrive := by
  simp only [movesOne, Bool.and_eq_true, Bool.not_eq_true', decide_eq_true_eq] at h
  obtain ⟨⟨⟨⟨hpalm, hend⟩, htrackpoint⟩, haccidental⟩, hone⟩ := h
  have hcount : (if s.cFingers = 3 && s.hwVersion = 2 && p 3 &&& 0x80 ≠ 0 then (4 : UInt8) else s.cFingers) = s.cFingers :=
    if_neg (by simp [hone])
  have hfour : s.countFourV2 p = s := by
    unfold countFourV2
    rw [hcount]
  unfold eventV2v3
  rw [if_neg (ne_true_of_eq_false hpalm), if_neg (by simp [hend]), if_neg (ne_true_of_eq_false htrackpoint),
    if_neg (ne_true_of_eq_false hend), if_neg (ne_true_of_eq_false haccidental), if_pos (by simp [hone])]
  unfold oneFingerV2v3
  dsimp only
  rw [hfour]
  show modifyFinger 0 Finger.arrive (touchV2v3 G w _ _ (s.placedOne p)) = _
  unfold touchV2v3
  rw [if_pos (show (s.placedOne p).cFingers = 1 from hone)]

/-- Physical buttons leave the fingers and the count of packets alone. -/
theorem Process_Physical_Buttons_same (p : Packet) (s : Touchpad) :
    (s.Process_Physical_Buttons p).fing = s.fing ∧ (s.Process_Physical_Buttons p).packetsCount = s.packetsCount := by
  have hsame := unpressed_processPhysicalButtons p s
  have hfing := congrArg Touchpad.fing hsame
  have hcount := congrArg Touchpad.packetsCount hsame
  exact ⟨hfing, hcount⟩

/-- The number of fingers after the checks is the packet's. -/
theorem cFingers_fingersV2v3 (p : Packet) (s : Touchpad) : (s.fingersV2v3 p).cFingers = (p 0 &&& 0xc0) >>> 6 := by
  unfold fingersV2v3
  dsimp only
  split
  · split
    · exact (handled_fingers_change _).counts.1
    · rfl
  · next hsame => exact not_not.mp hsame

theorem cFingers_checks (p : Packet) (s : Touchpad) :
    (s.Process_ELANv2v3_Checks w p).cFingers = (p 0 &&& 0xc0) >>> 6 := by
  have hbuttons : ∀ t : Touchpad, (t.buttonsV2v3 p).cFingers = t.cFingers := by
    intro t
    unfold buttonsV2v3
    split
    · rfl
    · split
      · exact (handled_Process_Physical_Buttons p _).counts.1
      · exact (handled_Process_Physical_Buttons p t).counts.1
  exact (hbuttons _).trans (cFingers_fingersV2v3 p _)

/-- What the checks do if the number of fingers stays above zero. -/
theorem checked_same {p : Packet} {s : Touchpad} (hsame : s.cFingers = (p 0 &&& 0xc0) >>> 6) (hsome : s.cFingers ≠ 0) :
    (s.Process_ELANv2v3_Checks w p).fing = (s.modifyFinger 0 (pressureV2v3 p)).fing ∧
      (s.Process_ELANv2v3_Checks w p).packetsCount = s.packetsCount := by
  have hfingers : (s.modifyFinger 0 (pressureV2v3 p)).fingersV2v3 p = s.modifyFinger 0 (pressureV2v3 p) := by
    unfold fingersV2v3
    exact if_neg (not_not.mpr hsame)
  have hbuttons : ∀ t : Touchpad, t.cFingers ≠ 0 →
      (t.buttonsV2v3 p).fing = t.fing ∧ (t.buttonsV2v3 p).packetsCount = t.packetsCount := by
    intro t ht
    unfold buttonsV2v3
    split
    · exact ⟨rfl, rfl⟩
    · exact Process_Physical_Buttons_same p t
  have hall := hbuttons ((s.modifyFinger 0 (pressureV2v3 p)).countGestureTime (w.uptime 1)) hsome
  unfold Process_ELANv2v3_Checks
  rw [hfingers]
  exact hall

/-! One delta. -/

theorem deltaOne_eq (p : Packet) (s : Touchpad) : s.deltaOne p =
    if s.packetsCount ≤ 1 then (0, 0)
    else (((rawV2v3 p).1.toNat : Int) - (s.fing 0).last_x.toNat,
      ((s.ymax - (rawV2v3 p).2).toNat : Int) - (s.fing 0).last_y.toNat) := by
  have hfing : (s.placedOne p).fing 0 = (s.oneFinger (rawV2v3 p).1 (s.ymax - (rawV2v3 p).2)).1 := by
    show Function.update s.fing 0 _ 0 = _
    exact Function.update_self _ _ _
  unfold deltaOne singleDelta
  dsimp only
  rw [hfing]
  unfold oneFinger
  dsimp only
  split
  · simp [Finger.begin, Finger.restart, Finger.arrive]
  · rfl

/-- The inverted height is the unsigned difference. -/
theorem toNat_inverted (ymax y : UInt16) :
    ((ymax - y).toNat : Int) = if y ≤ ymax then (ymax.toNat : Int) - y.toNat else ymax.toNat - y.toNat + 65536 := by
  have hmax := ymax.toNat_lt
  have hy := y.toNat_lt
  rw [UInt16.toNat_sub]
  by_cases hle : y ≤ ymax
  · have hle' : y.toNat ≤ ymax.toNat := UInt16.le_iff_toNat_le.mp hle
    rw [if_pos hle]
    omega
  · have hlt : ymax.toNat < y.toNat := by
      rw [UInt16.le_iff_toNat_le] at hle
      omega
    rw [if_neg hle]
    omega

/-- Both heights are inverted without a wrap, or both with one. -/
theorem height_eq_iff (ymax y y' : UInt16) :
    ((ymax - y').toNat : Int) - (ymax - y).toNat = -((y'.toNat : Int) - y.toNat) ↔ (y ≤ ymax ↔ y' ≤ ymax) := by
  rw [toNat_inverted, toNat_inverted]
  by_cases hle : y ≤ ymax
  · by_cases hle' : y' ≤ ymax
    · rw [if_pos hle, if_pos hle']
      exact iff_of_true (by omega) (iff_of_true hle hle')
    · rw [if_pos hle, if_neg hle']
      exact iff_of_false (by omega) fun h => hle' (h.mp hle)
  · by_cases hle' : y' ≤ ymax
    · rw [if_neg hle, if_pos hle']
      exact iff_of_false (by omega) fun h => hle (h.mpr hle')
    · rw [if_neg hle, if_neg hle']
      exact iff_of_true (by omega) (iff_of_false hle hle')

/-- The delta of two packets of which the first one has arrived. -/
theorem delta_eq_iff (ymax : UInt16) (r r' : UInt16 × UInt16) :
    ((r'.1.toNat : Int) - r.1.toNat, ((ymax - r'.2).toNat : Int) - (ymax - r.2).toNat) = rawDifference r r' ↔
      (r.2 ≤ ymax ↔ r'.2 ≤ ymax) := by
  unfold rawDifference
  rw [Prod.mk.injEq, ← height_eq_iff]
  exact and_iff_right rfl

theorem zero_eq_iff (r r' : UInt16 × UInt16) : ((0, 0) : Int × Int) = rawDifference r r' ↔ r' = r := by
  unfold rawDifference
  rw [Prod.mk.injEq, Prod.ext_iff, ← UInt16.toNat_inj, ← UInt16.toNat_inj]
  omega

/-! The finger between two packets. -/

theorem Handled.ymax {s t : Touchpad} (h : Handled s t) : t.ymax = s.ymax := by
  show t.outer.ymax = s.outer.ymax
  obtain houter | houter := h.outer
  · rw [houter]
  · rw [houter]
    rfl

theorem Counted.ymax {s t : Touchpad} (h : Counted s t) : t.ymax = s.ymax := by
  show t.uncounted.outer.ymax = s.uncounted.outer.ymax
  rw [h.outer]

/-- The position of the packet is where the next one finds the finger. -/
theorem arrived_one {packet_type : UInt8} {p : Packet} {s : Touchpad} (hs : s.touchpadVendor ≠ .STD_SYNAPTICS)
    (h : s.movesOne packet_type p = true) :
    (s.eventV2v3 G w packet_type p).cFingers = 1 ∧
      ((s.eventV2v3 G w packet_type p).fing 0).last_x = (rawV2v3 p).1 ∧
      ((s.eventV2v3 G w packet_type p).fing 0).last_y = s.ymax - (rawV2v3 p).2 := by
  have hone : s.cFingers = 1 := by
    unfold movesOne at h
    exact of_decide_eq_true ((Bool.and_eq_true _ _).mp h).2
  have hfing : ((s.placedOne p).fing 0).position =
      (((rawV2v3 p).1.toNat : Int), ((s.ymax - (rawV2v3 p).2).toNat : Int)) := by
    have hupdate : (s.placedOne p).fing 0 = (s.oneFinger (rawV2v3 p).1 (s.ymax - (rawV2v3 p).2)).1 := by
      show Function.update s.fing 0 _ 0 = _
      exact Function.update_self _ _ _
    rw [hupdate]
    unfold oneFinger
    dsimp only
    split <;> rfl
  have hstill : Still ((s.placedOne p).use [0]) ((s.placedOne p).singlefinger G w 0) :=
    still_gesture (s := (s.placedOne p).use [0]) hs _
  have hcount : ((s.placedOne p).singlefinger G w 0).cFingers = 1 :=
    (handled_singlefinger 0 _).counts.1.trans hone
  have hposition := (hstill.position 0).trans hfing
  rw [eventV2v3_one h, fing_modifyFinger, if_pos rfl]
  refine ⟨hcount, ?_, ?_⟩
  · have hx := congrArg Prod.fst hposition
    exact UInt16.toNat_inj.mp (Int.ofNat.inj hx)
  · have hy := congrArg Prod.snd hposition
    exact UInt16.toNat_inj.mp (Int.ofNat.inj hy)

end Touchpad

/-! Runs. -/

/-- The driver, and the coordinates of the last packet if it moved the only finger. -/
structure Motion where
  driver : Touchpad
  vendor : driver.touchpadVendor ≠ .STD_SYNAPTICS
  previous : Option (UInt16 × UInt16)
  small : ∀ r, previous = some r → r.1.toNat < 4096 ∧ r.2.toNat < 4096
  arrived : ∀ r, previous = some r →
    driver.cFingers = 1 ∧ (driver.fing 0).last_x = r.1 ∧ (driver.fing 0).last_y = driver.ymax - r.2

namespace Motion

open Touchpad

/-- The driver after the checks of a packet. -/
def checked (m : Motion) (e : Report) : Touchpad := m.driver.Process_ELANv2v3_Checks e.world e.packet

/-- The packet moves the only finger. -/
def moves (m : Motion) (e : Report) : Bool := (m.checked e).movesOne e.packet_type e.packet

theorem vendor_checked (m : Motion) (e : Report) : (m.checked e).touchpadVendor ≠ .STD_SYNAPTICS := by
  have hlinked := (counted_ELANv2v3_Checks (w := e.world) e.packet m.driver).linked
  exact fun h => m.vendor ((congrArg Link.touchpadVendor hlinked.link).symm.trans h)

def step (G : Gestures) (m : Motion) (e : Report) : Motion :=
  { driver := m.driver.Process_absolute_events_ELANv2v3 G e.world e.packet_type e.packet
    vendor := by
      have hlinked := linked_ELANv2v3 (G := G) (w := e.world) e.packet_type e.packet m.driver
      exact fun h => m.vendor ((congrArg Link.touchpadVendor hlinked.link).symm.trans h)
    previous := if m.moves e then some (rawV2v3 e.packet) else none
    small := by
      intro r hr
      obtain ⟨-, hraw⟩ := Option.ite_none_right_eq_some.mp hr
      cases hraw
      exact ⟨bits12_lt _ _, bits12_lt _ _⟩
    arrived := by
      intro r hr
      obtain ⟨hmoves, hraw⟩ := Option.ite_none_right_eq_some.mp hr
      cases hraw
      have harrived := arrived_one (G := G) (w := e.world) (vendor_checked m e) hmoves
      have hymax : (m.driver.Process_absolute_events_ELANv2v3 G e.world e.packet_type e.packet).ymax =
          (m.checked e).ymax := by
        show ((m.checked e).eventV2v3 G e.world e.packet_type e.packet).ymax = _
        rw [eventV2v3_one hmoves]
        exact ((handled_singlefinger (G := G) (w := e.world) 0 _).trans (handled_modifyFinger _ _ _)).ymax
      rw [hymax]
      exact harrived }

/-- The delta that a packet hands on, if it is not the first one of the finger. -/
def delta (m : Motion) (e : Report) : Option (Int × Int) :=
  if m.previous.isSome && m.moves e then some ((m.checked e).deltaOne e.packet) else none

/-- The sum over a stretch of packets that all move the finger. -/
def total (G : Gestures) : List Report → Motion → Option (Int × Int)
  | [], _ => some (0, 0)
  | e :: es, m => (m.delta e).bind fun d => (total G es (m.step G e)).map (d + ·)

/-- The delta is the difference of the coordinates, which is no jump. -/
def Exact (m : Motion) (e : Report) : Prop :=
  ∀ r d, m.previous = some r → m.delta e = some d →
    d = rawDifference r (rawV2v3 e.packet) ∧ d.1.natAbs < 4096 ∧ d.2.natAbs < 4096

/-- The packet does not cross `_ymax`, or, where it only sets the position, does not move. -/
def KeepsSide (m : Motion) (e : Report) : Prop :=
  ∀ r, m.previous = some r → m.moves e = true →
    if m.driver.packetsCount ≤ 1 then rawV2v3 e.packet = r
    else (r.2 ≤ m.driver.ymax ↔ (rawV2v3 e.packet).2 ≤ m.driver.ymax)

theorem rawDifference_small {r r' : UInt16 × UInt16} (h : r.1.toNat < 4096 ∧ r.2.toNat < 4096)
    (h' : r'.1.toNat < 4096 ∧ r'.2.toNat < 4096) :
    (rawDifference r r').1.natAbs < 4096 ∧ (rawDifference r r').2.natAbs < 4096 := by
  unfold rawDifference
  dsimp only
  omega

/-- What a packet finds that moves the finger once more. -/
theorem deltaOne_checked {m : Motion} {e : Report} {r : UInt16 × UInt16} (hr : m.previous = some r)
    (hmoves : m.moves e = true) : (m.checked e).deltaOne e.packet =
      if m.driver.packetsCount ≤ 1 then (0, 0)
      else (((rawV2v3 e.packet).1.toNat : Int) - r.1.toNat,
        ((m.driver.ymax - (rawV2v3 e.packet).2).toNat : Int) - (m.driver.ymax - r.2).toNat) := by
  obtain ⟨hone, hx, hy⟩ := m.arrived r hr
  have hcount : (m.checked e).cFingers = 1 := by
    unfold moves movesOne at hmoves
    exact of_decide_eq_true ((Bool.and_eq_true _ _).mp hmoves).2
  have hsame : m.driver.cFingers = (e.packet 0 &&& 0xc0) >>> 6 := by
    rw [hone, ← cFingers_checks (w := e.world) e.packet m.driver]
    exact hcount.symm
  have hchecked := checked_same (w := e.world) hsame (by rw [hone]; decide)
  have hymax : (m.checked e).ymax = m.driver.ymax := (counted_ELANv2v3_Checks e.packet m.driver).ymax
  have hfing : ((m.checked e).fing 0).last_x = r.1 ∧ ((m.checked e).fing 0).last_y = m.driver.ymax - r.2 := by
    rw [← hx, ← hy]
    unfold checked
    rw [hchecked.1, fing_modifyFinger, if_pos rfl]
    exact ⟨rfl, rfl⟩
  have hpackets : (m.checked e).packetsCount = m.driver.packetsCount := hchecked.2
  rw [deltaOne_eq, hpackets, hfing.1, hfing.2, hymax]

/-- One packet. -/
theorem exact_iff (m : Motion) (e : Report) : m.Exact e ↔ m.KeepsSide e := by
  unfold Exact KeepsSide
  refine forall_congr' fun r => ?_
  constructor
  · intro hexact hr hmoves
    have hdelta : m.delta e = some ((m.checked e).deltaOne e.packet) := by
      unfold delta
      rw [hr, hmoves]
      rfl
    have hraw := (hexact _ hr hdelta).1
    rw [deltaOne_checked hr hmoves] at hraw
    split at hraw
    · next hfirst =>
      rw [if_pos hfirst]
      exact (zero_eq_iff r _).mp hraw
    · next hlater =>
      rw [if_neg hlater]
      exact (delta_eq_iff _ r _).mp hraw
  · intro hside d hr hd
    obtain ⟨hboth, hdelta⟩ := Option.ite_none_right_eq_some.mp hd
    cases hdelta
    have hmoves := ((Bool.and_eq_true _ _).mp hboth).2
    have hsame := hside hr hmoves
    have hraw : (m.checked e).deltaOne e.packet = rawDifference r (rawV2v3 e.packet) := by
      rw [deltaOne_checked hr hmoves]
      split
      · next hfirst =>
        rw [if_pos hfirst] at hsame
        exact (zero_eq_iff r _).mpr hsame
      · next hlater =>
        rw [if_neg hlater] at hsame
        exact (delta_eq_iff _ r _).mpr hsame
    refine ⟨hraw, ?_⟩
    rw [hraw]
    exact rawDifference_small (m.small r hr) ⟨bits12_lt _ _, bits12_lt _ _⟩

variable {G : Gestures}

theorem rawDifference_add (a b c : UInt16 × UInt16) : rawDifference a b + rawDifference b c = rawDifference a c := by
  unfold rawDifference
  rw [Prod.mk_add_mk, Prod.mk.injEq]
  omega

/-- What a stretch leaves behind, and that its sum is a difference if each of its deltas is. -/
theorem total_of_exact (es : List Report) {m : Motion} {d : Int × Int} {r r' : UInt16 × UInt16}
    (h : ∀ p e, p ++ [e] <+: es → (run (step G) p m).Exact e) (hd : total G es m = some d)
    (hr : m.previous = some r) (hr' : (run (step G) es m).previous = some r') : d = rawDifference r r' := by
  induction es generalizing m d r with
  | nil =>
    have hsame : r = r' := Option.some.inj (hr.symm.trans hr')
    have hzero : (0, 0) = d := Option.some.inj hd
    rw [← hzero, hsame]
    simp [rawDifference]
  | cons e es ih =>
    obtain ⟨hexact, hrest⟩ := (run_steps_cons (C := fun m e => Exact m e) e es m).mp h
    obtain ⟨d₁, hd₁, htail⟩ := Option.bind_eq_some_iff.mp hd
    obtain ⟨d₂, hd₂, rfl⟩ := Option.map_eq_some_iff.mp htail
    have hmoves : m.moves e = true := ((Bool.and_eq_true _ _).mp (Option.ite_none_right_eq_some.mp hd₁).1).2
    have hnext : (m.step G e).previous = some (rawV2v3 e.packet) := if_pos hmoves
    have hfirst := (hexact r d₁ hr hd₁).1
    have hlater := ih hrest hd₂ hnext hr'
    rw [hfirst, hlater]
    exact rawDifference_add r _ r'

/-- Every delta is the difference of the coordinates and no jump, and the sum over every stretch of
packets of one finger is the difference of its ends. -/
def Telescopes (G : Gestures) (m : Motion) (es : List Report) : Prop :=
  (∀ p e, p ++ [e] <+: es → (run (step G) p m).Exact e) ∧
    ∀ p q, p ++ q <+: es → ∀ d r r', total G q (run (step G) p m) = some d → (run (step G) p m).previous = some r →
      (run (step G) (p ++ q) m).previous = some r' → d = rawDifference r r'

theorem telescopes_iff (G : Gestures) (m : Motion) (es : List Report) :
    m.Telescopes G es ↔ ∀ p e, p ++ [e] <+: es → (run (step G) p m).KeepsSide e := by
  constructor
  · intro h p e hp
    exact (exact_iff _ e).mp (h.1 p e hp)
  · intro h
    have hexact : ∀ p e, p ++ [e] <+: es → (run (step G) p m).Exact e := fun p e hp =>
      (exact_iff _ e).mpr (h p e hp)
    refine ⟨hexact, fun p q hq d r r' hd hr hr' => ?_⟩
    rw [run_append] at hr'
    refine total_of_exact q (fun p' e hp' => ?_) hd hr hr'
    rw [← run_append]
    refine hexact (p ++ p') e ?_
    rw [List.append_assoc]
    exact ((List.prefix_append_right_inj p).mpr hp').trans hq

/-- Nothing is recognised, and the packets of one finger are counted. -/
def countsOne (g : Gesture) (s : Touchpad) : Touchpad :=
  match g with
  | .Process_singlefinger_touch x y fid =>
    let still := s.packetsCount > 5 && s.singleDelta x y fid = (0, 0)
    { s with packetsCount := if s.packetsCount < 255 && !still then s.packetsCount + 1 else s.packetsCount }
  | _ => s

theorem kept_countsOne (g : Gesture) (s : Touchpad) : Touchpad.Kept s (countsOne g s) := by
  cases g with
  | Process_singlefinger_touch => exact ⟨rfl, .inl rfl, .none _ rfl⟩
  | _ => exact .refl s

def CountsOne : Gestures :=
  { run := fun _ => countsOne
    gestured := fun _ g s => .kept (kept_countsOne g s)
    touchEnd := fun _ s => kept_countsOne .Process_touch_end s }

/-- A touchpad of version 2, of the height 1000. -/
def touchpadV2 : Motion :=
  { driver := { init with touchpadVendor := .STD_ELAN_TECH, hwVersion := STD_ELAN_HW_V2, ymax := 1000 }
    vendor := by decide
    previous := none
    small := by simp
    arrived := by simp }

/-- A packet of one finger. -/
def oneFingerAt (x y : UInt16) : Report :=
  { world := .silent, packet_type := 0
    packet := fun i => if i = 0 then 0x44 else if i = 1 then (x >>> 8).toUInt8 else if i = 2 then x.toUInt8
      else if i = 3 then 0x02 else if i = 4 then (y >>> 8).toUInt8 else if i = 5 then y.toUInt8 else 0 }

/-- The finger moves by 200 over the height of the touchpad, and the delta is 65336. -/
theorem telescopes_leap :
    ¬ touchpadV2.Telescopes CountsOne
      [oneFingerAt 500 900, oneFingerAt 500 900, oneFingerAt 500 900, oneFingerAt 500 1100] := by
  intro h
  have hprevious : (run (step CountsOne) [oneFingerAt 500 900, oneFingerAt 500 900, oneFingerAt 500 900]
      touchpadV2).previous = some (500, 900) := by decide +kernel
  have hdelta : (run (step CountsOne) [oneFingerAt 500 900, oneFingerAt 500 900, oneFingerAt 500 900]
      touchpadV2).delta (oneFingerAt 500 1100) = some (0, 65336) := by decide +kernel
  have hexact := h.1 _ _ (List.prefix_refl _) _ _ hprevious hdelta
  exact absurd hexact.2.2 (by decide)

end Motion
end ApplePS2
