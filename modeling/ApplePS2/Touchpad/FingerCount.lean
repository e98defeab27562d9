import ApplePS2.Touchpad.Delivery
import ApplePS2.Touchpad.Event

/- The number of fingers, and what packets with bad finger information do to it.

   1. `bounded_processPacket`: a packet whose information is known keeps the numbers in
      their range.
   2. `view_rejected`: one whose information is not known is ignored just when it tells
      what is counted already.
   3. `ignored_iff`: the same for whole runs. -/
namespace ApplePS2.Touchpad

open Transition

/-- What status packets and finger-state packets tell of the fingers. -/
inductive FingerInfo where
  | mask (bits : UInt8)
  | count (fingers : UInt8)
  deriving DecidableEq, Repr

/-- A mask of the table, or a number of fingers up to five. -/
def FingerInfo.isKnown : FingerInfo → Bool
  | .mask bits => (statusFingers bits).isSome
  | .count fingers => fingers ≤ 5

/-- The packet in the buffer is taken for a status packet of version 4. -/
def isStatusV4 (s : Touchpad) : Bool :=
  let p := s.packetBuffer
  (s.checkSanity p).elanTPad.sanityCheck && s.packetTypeV4 p = PACKET_STATUS && !isBadStatus PACKET_STATUS p

/-- The packet with its first byte, if that is missing. -/
def realigned (p : Packet) : Packet := if isShifted p then unshift p else p

/-- What the packet in the buffer tells. -/
def fingerInfo (s : Touchpad) : Option FingerInfo :=
  let p := s.packetBuffer
  if s.hwVersion = STD_SYNAPTICS_HW then
    if s.tellsFingers p then some (.count (p 1)) else none
  else if s.hwVersion = STD_FOCAL_TECH_HW then
    if p 0 &&& 0xf = PACKET_FT_STATUS then some (.mask (p 1 &&& 0x1f)) else none
  else if s.hwVersion = STD_ELAN_HW_V4 then
    if s.isStatusV4 then some (.mask (realigned s.packetBuffer 1 &&& 0x1f)) else none
  else none

/-- The packet is not one the driver accepts. -/
def rejects (s : Touchpad) : Bool :=
  match s.fingerInfo with
  | some info => !info.isKnown
  | none => false

/-- The mask has the value of the number of fingers, which has not just changed. -/
def FingerInfo.isCounted (s : Touchpad) : FingerInfo → Bool
  | .mask bits => bits = s.cFingers && s.lastFingers = s.cFingers
  | .count _ => false

/-- The information is known, or makes no difference. -/
def isHarmless (s : Touchpad) : Bool :=
  match s.fingerInfo with
  | some info => info.isKnown || info.isCounted s
  | none => true

/-- What a bad packet has to leave alone. -/
structure FingerView where
  cFingers : UInt8
  lastFingers : UInt8
  pid : Int
  sid : Int
  fing : Int → Finger

def fingerView (s : Touchpad) : FingerView := ⟨s.cFingers, s.lastFingers, s.pid, s.sid, s.fing⟩

variable {G : Gestures} {w : TouchpadWorld}

theorem fingerInfo_synaptics {s : Touchpad} (h : s.hwVersion = STD_SYNAPTICS_HW) : s.fingerInfo =
    if s.tellsFingers s.packetBuffer then some (.count (s.packetBuffer 1)) else none := by
  unfold fingerInfo
  rw [h]
  rfl

theorem fingerInfo_focalTech {s : Touchpad} (h : s.hwVersion = STD_FOCAL_TECH_HW) : s.fingerInfo =
    if s.packetBuffer 0 &&& 0xf = PACKET_FT_STATUS then some (.mask (s.packetBuffer 1 &&& 0x1f)) else none := by
  unfold fingerInfo
  rw [h]
  rfl

theorem fingerInfo_elanV4 {s : Touchpad} (h : s.hwVersion = STD_ELAN_HW_V4) : s.fingerInfo =
    if s.isStatusV4 then some (.mask (realigned s.packetBuffer 1 &&& 0x1f)) else none := by
  unfold fingerInfo
  rw [h]
  rfl

/-- What is told is known. -/
theorem known_of_accepted {s : Touchpad} {info : FingerInfo} (h : s.rejects = false) (hinfo : s.fingerInfo = some info) :
    info.isKnown = true := by
  unfold rejects at h
  rw [hinfo] at h
  simpa using h

/-- What is told is not known, and the packet is harmless if that is what is counted already. -/
theorem unknown_of_rejected {s : Touchpad} {info : FingerInfo} (h : s.rejects = true) (hinfo : s.fingerInfo = some info) :
    info.isKnown = false ∧ (s.isHarmless = true ↔ info.isCounted s = true) := by
  unfold rejects at h
  rw [hinfo] at h
  have hunknown : info.isKnown = false := by simpa using h
  simp [isHarmless, hinfo, hunknown]

theorem statusFingers_unknown {bits : UInt8} (h : (FingerInfo.mask bits).isKnown = false) :
    statusFingers bits = none := by
  simpa [FingerInfo.isKnown] using h

theorem view_triggerBackLight (s : Touchpad) : (s.triggerBackLight w).fingerView = s.fingerView := by
  have hlight : (s.backLightOn (w.uptime 1)).fingerView = s.fingerView := by
    unfold backLightOn
    dsimp only
    split <;> rfl
  unfold triggerBackLight when
  split
  · exact hlight
  · rfl

/-! Status packets with an unknown mask. -/

/-- The mask and the number of fingers are stored nevertheless. -/
theorem view_status {p : Packet} (h : statusFingers (p 1 &&& 0x1f) = none) (s : Touchpad) :
    (s.Process_absolute_events_ELANv4AndFocalTech G w PACKET_STATUS p).fingerView =
      { s.fingerView with
        cFingers := p 1 &&& 0x1f, lastFingers := s.cFingers, fing := (s.notePressure p).fing } := by
  have hpressure : (s.notePressure p).fingerView = { s.fingerView with fing := (s.notePressure p).fing } := by
    unfold notePressure when
    split <;> rfl
  have hpalm : (s.notePalm p).fingerView = (s.notePressure p).fingerView := by
    unfold notePalm
    split <;> rfl
  have hevent : ∀ t : Touchpad, (t.eventV4 G w PACKET_STATUS p).fingerView =
      { t.fingerView with cFingers := p 1 &&& 0x1f, lastFingers := t.cFingers } := by
    intro t
    show (t.statusPacket G w p).fingerView = _
    rw [statusPacket_rejected h]
    rfl
  have hcount : ((s.notePalm p).countGestureTime (w.uptime 1)).fingerView = (s.notePalm p).fingerView := rfl
  unfold Process_absolute_events_ELANv4AndFocalTech
  rw [if_neg (by simp), if_neg (by simp)]
  have hall := hevent ((s.notePalm p).countGestureTime (w.uptime 1))
  have hcurrent : ((s.notePalm p).countGestureTime (w.uptime 1)).cFingers = s.cFingers :=
    congrArg FingerView.cFingers (hcount.trans (hpalm.trans hpressure))
  rw [hcount, hpalm, hpressure, hcurrent] at hall
  exact hall

/-- One finger is a known mask, so no pressure is noted when the mask is the number of fingers. -/
theorem notePressure_counted {p : Packet} {s : Touchpad} (h : statusFingers s.cFingers = none) :
    s.notePressure p = s := by
  have hone : s.cFingers ≠ 1 := by
    intro hone
    rw [hone] at h
    exact absurd h (by decide)
  unfold notePressure when
  rw [if_neg (by simp [hone])]

theorem view_status_iff {p : Packet} (h : statusFingers (p 1 &&& 0x1f) = none) (s : Touchpad) :
    (s.Process_absolute_events_ELANv4AndFocalTech G w PACKET_STATUS p).fingerView = s.fingerView ↔
      (FingerInfo.mask (p 1 &&& 0x1f)).isCounted s = true := by
  rw [view_status h]
  constructor
  · intro heq
    have hcurrent : p 1 &&& 0x1f = s.cFingers := congrArg FingerView.cFingers heq
    have hlast : s.cFingers = s.lastFingers := congrArg FingerView.lastFingers heq
    simp [FingerInfo.isCounted, hcurrent, hlast]
  · intro hcounted
    obtain ⟨hcurrent, hlast⟩ : p 1 &&& 0x1f = s.cFingers ∧ s.lastFingers = s.cFingers := by
      simpa [FingerInfo.isCounted] using hcounted
    rw [hcurrent] at h ⊢
    rw [notePressure_counted h, ← hlast]
    unfold fingerView
    rw [hlast]

/-! Packets. -/

theorem tellsFingers_setPktType (p : Packet) (s : Touchpad) : (s.setPktType p).tellsFingers p = s.tellsFingers p := by
  unfold setPktType when
  split <;> rfl

theorem handled_setPktType (p : Packet) (s : Touchpad) : Handled s (s.setPktType p) := .when _ (.same rfl rfl)

/-- More than five fingers are counted as they are told. -/
theorem report_absolute_count {p : Packet} {s : Touchpad} (h : s.tellsFingers p = true) (hmore : s.cFingers ≠ p 1) :
    (s.Synaptics_report_absolute G w p).cFingers = p 1 := by
  obtain ⟨⟨hnew, hextended⟩, hstate⟩ :
      (SYN_MODEL_NEWABS s.synTPad.model_id = true ∧ (s.setW (newW p)).isExtended = true) ∧ isFingerState p = true := by
    simpa [tellsFingers] using h
  have hkind : (p 5 &&& 0x30) >>> 4 = SYN_FINGER_STATE := of_decide_eq_true hstate
  have hother : ¬ SYN_FINGER_STATE = SYN_SECONDARY_FINGER := by decide
  have hpacket : (s.setW (newW p)).extendedPacket p = (s.setW (newW p)).fingerState p := by
    unfold extendedPacket
    dsimp only
    rw [hkind, if_neg hother, if_pos rfl]
  have hchange : (s.setW (newW p)).fingerState p =
      (((s.setW (newW p)).stateSlots p).setFingers (p 1)).Process_fingers_change := if_pos hmore
  unfold Synaptics_report_absolute
  dsimp only
  rw [if_pos hnew, if_pos hextended, hpacket, hchange]
  exact (handled_fingers_change _).counts.1

theorem bounded_of_counts {s t : Touchpad} (hs : Bounded s) (hcurrent : t.cFingers = s.cFingers)
    (hlast : t.lastFingers = s.lastFingers) : Bounded t := by
  refine ⟨?_, ?_⟩
  · rw [hcurrent]
    exact hs.current
  · rw [hlast]
    exact hs.last

theorem bounded_Reconnect_touchpad {s : Touchpad} (hs : Bounded s) : Bounded (s.Reconnect_touchpad w).2 :=
  bounded_of_counts hs (Reconnect_touchpad_same cFingers (fun _ => rfl) (fun _ _ => rfl) (fun _ => rfl) s)
    (Reconnect_touchpad_same lastFingers (fun _ => rfl) (fun _ _ => rfl) (fun _ => rfl) s)

theorem bounded_reconnectTry {s : Touchpad} (hs : Bounded s) : Bounded (s.reconnectTry w) := by
  unfold reconnectTry
  split
  · exact bounded_Reconnect_touchpad ⟨hs.current, hs.last⟩
  · exact hs

theorem bounded_ELANv2v3 (packet_type : UInt8) (p : Packet) {s : Touchpad} (hs : Bounded s) :
    Bounded (s.Process_absolute_events_ELANv2v3 G w packet_type p) := by
  have hevent : ∀ t : Touchpad, Bounded t → Bounded (t.eventV2v3 G w packet_type p) := by
    intro t ht
    cases htrackpoint : t.isTrackpointV3 packet_type with
    | false => exact (counted_eventV2v3 p htrackpoint).bounded ht
    | true =>
      unfold eventV2v3
      rw [if_pos htrackpoint]
      repeat' split
      · exact ⟨ht.current, ht.last⟩
      · exact (handled_touch_end t).bounded ht
      · exact (handled_trackpoint p t).bounded ⟨ht.current, ht.last⟩
  exact hevent _ ((counted_ELANv2v3_Checks p s).bounded hs)

theorem bounded_packetV3 (p : Packet) {s : Touchpad} (hs : Bounded s) : Bounded (s.packetV3 G w p) := by
  have hlight := (handled_triggerBackLight (w := w) s).bounded hs
  unfold packetV3
  dsimp only
  repeat' split
  · exact hs
  · exact bounded_ELANv2v3 _ p hlight
  · exact bounded_reconnectTry hlight

theorem bounded_packetFocalTech {p : Packet} {s : Touchpad} (hs : Bounded s)
    (h : p 0 &&& 0xf = PACKET_FT_STATUS → (statusFingers (p 1 &&& 0x1f)).isSome = true) :
    Bounded (s.packetFocalTech G w p) := by
  have hlight := (handled_triggerBackLight (w := w) s).bounded hs
  have hother : ∀ packet_type, packet_type ≠ PACKET_STATUS → Bounded
      ((s.triggerBackLight w).Process_absolute_events_ELANv4AndFocalTech G w packet_type p) := fun packet_type hne =>
    (counted_absolute_events (fun hstatus => absurd hstatus hne) _).bounded hlight
  unfold packetFocalTech
  dsimp only
  repeat' split
  · next hstatus => exact (counted_absolute_events (fun _ => Option.isSome_iff_exists.1 (h hstatus)) _).bounded hlight
  · exact hother _ (by decide)
  · exact hother _ (by decide)
  · exact bounded_reconnectTry hlight

theorem realign_packetBuffer (s : Touchpad) : s.realign.packetBuffer = realigned s.packetBuffer := by
  unfold realign realigned when
  split <;> rfl

theorem view_realign (s : Touchpad) : s.realign.fingerView = s.fingerView := by
  unfold realign when
  split <;> rfl

theorem isStatusV4_of {s : Touchpad} (hsanity : ¬ (!(s.checkSanity s.packetBuffer).elanTPad.sanityCheck) = true)
    (hbad : ¬ isBadStatus (s.packetTypeV4 s.packetBuffer) s.packetBuffer = true)
    (hstatus : s.packetTypeV4 s.packetBuffer = PACKET_STATUS) : s.isStatusV4 = true := by
  rw [hstatus] at hbad
  unfold isStatusV4
  simp only [Bool.not_eq_true', Bool.not_eq_false] at hsanity hbad
  simp [hsanity, hstatus, hbad]

theorem bounded_packetV4 {s : Touchpad} (hs : Bounded s)
    (h : s.isStatusV4 = true → (statusFingers (realigned s.packetBuffer 1 &&& 0x1f)).isSome = true) :
    Bounded (s.packetV4 G w) := by
  have hsanity : Bounded (s.checkSanity s.packetBuffer) := ⟨hs.current, hs.last⟩
  have hlight := (handled_triggerBackLight (w := w) (s.checkSanity s.packetBuffer)).bounded hsanity
  have hbuffer : ((s.checkSanity s.packetBuffer).triggerBackLight w).packetBuffer = s.packetBuffer :=
    congrArg Link.packetBuffer (linked_triggerBackLight (w := w) (s.checkSanity s.packetBuffer)).link
  unfold packetV4
  dsimp only
  generalize (s.checkSanity s.packetBuffer).triggerBackLight w = t at hlight hbuffer
  have hrealign : Bounded t.realign :=
    bounded_of_counts hlight (congrArg FingerView.cFingers (view_realign t))
      (congrArg FingerView.lastFingers (view_realign t))
  repeat' split
  · exact bounded_reconnectTry hsanity
  · exact hsanity
  · next hsane hbad hstatus =>
    have hknown := h (isStatusV4_of hsane hbad hstatus)
    rw [← hbuffer, ← realign_packetBuffer] at hknown
    exact (counted_absolute_events (fun _ => Option.isSome_iff_exists.1 hknown) _).bounded hrealign
  · next hstatus _ =>
    exact (counted_absolute_events (fun h => absurd h hstatus) _).bounded hlight
  · exact hlight
  · exact (handled_trackpoint _ t).bounded ⟨hlight.current, hlight.last⟩
  · exact bounded_reconnectTry hlight

/-- A packet that is not rejected. -/
theorem bounded_processPacket {s : Touchpad} (hs : Bounded s) (h : s.rejects = false) :
    Bounded (s.processPacket G w) := by
  have hv1 : Bounded (s.packetV1 s.packetBuffer) := by
    unfold packetV1
    split
    · exact hs
    · exact bounded_ELANv1 _ hs
  have hv2 : Bounded (s.packetV2 G w s.packetBuffer) := by
    unfold packetV2
    split
    · exact hs
    · exact bounded_ELANv2v3 _ _ ((handled_triggerBackLight s).bounded hs)
  unfold processPacket
  dsimp only
  repeat' split
  · exact (handled_gesture _ s).bounded hs
  · next hsyn =>
    have htells : (s.setPktType s.packetBuffer).tellsFingers s.packetBuffer = true → s.packetBuffer 1 ≤ 5 := by
      intro htells
      rw [tellsFingers_setPktType] at htells
      have hknown := known_of_accepted h ((fingerInfo_synaptics hsyn).trans (if_pos htells))
      exact of_decide_eq_true hknown
    exact (counted_report_absolute htells).bounded ((handled_setPktType _ s).bounded hs)
  · next hft =>
    refine bounded_packetFocalTech hs fun hstatus => ?_
    exact known_of_accepted h ((fingerInfo_focalTech hft).trans (if_pos hstatus))
  · exact hv1
  · exact hv2
  · exact bounded_packetV3 _ hs
  · next hv4 =>
    refine bounded_packetV4 hs fun hstatus => ?_
    exact known_of_accepted h ((fingerInfo_elanV4 hv4).trans (if_pos hstatus))
  · exact hs

/-! Packets that are rejected. -/

theorem isCounted_view {s t : Touchpad} (h : t.fingerView = s.fingerView) (info : FingerInfo) :
    info.isCounted t = info.isCounted s := by
  cases info with
  | mask bits =>
    have hcurrent : t.cFingers = s.cFingers := congrArg FingerView.cFingers h
    have hlast : t.lastFingers = s.lastFingers := congrArg FingerView.lastFingers h
    simp [FingerInfo.isCounted, hcurrent, hlast]
  | count fingers => rfl

/-- Of FocalTech's touchpads. -/
theorem view_packetFocalTech {p : Packet} (hstatus : p 0 &&& 0xf = PACKET_FT_STATUS)
    (h : statusFingers (p 1 &&& 0x1f) = none) (s : Touchpad) :
    (s.packetFocalTech G w p).fingerView = s.fingerView ↔ (FingerInfo.mask (p 1 &&& 0x1f)).isCounted s = true := by
  have hlight := view_triggerBackLight (w := w) s
  unfold packetFocalTech
  dsimp only
  rw [if_pos hstatus, ← isCounted_view hlight, ← view_status_iff h, hlight]

/-- Of version 4. -/
theorem view_packetV4 {s : Touchpad} (hstatus : s.isStatusV4 = true)
    (h : statusFingers (realigned s.packetBuffer 1 &&& 0x1f) = none) :
    (s.packetV4 G w).fingerView = s.fingerView ↔
      (FingerInfo.mask (realigned s.packetBuffer 1 &&& 0x1f)).isCounted s = true := by
  obtain ⟨⟨hsanity, htype⟩, hbad⟩ :
      ((s.checkSanity s.packetBuffer).elanTPad.sanityCheck = true ∧ s.packetTypeV4 s.packetBuffer = PACKET_STATUS) ∧
        isBadStatus PACKET_STATUS s.packetBuffer = false := by simpa [isStatusV4] using hstatus
  have hlight : ((s.checkSanity s.packetBuffer).triggerBackLight w).fingerView = s.fingerView :=
    view_triggerBackLight (s.checkSanity s.packetBuffer)
  have hbuffer : ((s.checkSanity s.packetBuffer).triggerBackLight w).packetBuffer = s.packetBuffer :=
    congrArg Link.packetBuffer (linked_triggerBackLight (w := w) (s.checkSanity s.packetBuffer)).link
  unfold packetV4
  dsimp only
  rw [htype, hsanity, hbad, if_neg (by decide), if_neg (by decide), if_pos rfl]
  generalize (s.checkSanity s.packetBuffer).triggerBackLight w = t at hlight hbuffer
  have hrealign : t.realign.fingerView = s.fingerView := (view_realign t).trans hlight
  have hsame : t.realign.packetBuffer = realigned s.packetBuffer := by
    rw [realign_packetBuffer, hbuffer]
  rw [hsame, ← isCounted_view hrealign, ← view_status_iff h, hrealign]

/-- Of Synaptics' touchpads: the number is stored, and is not in its range. -/
theorem view_synaptics {s : Touchpad} (hs : Bounded s) (htells : s.tellsFingers s.packetBuffer = true)
    (hunknown : (FingerInfo.count (s.packetBuffer 1)).isKnown = false) :
    ((s.setPktType s.packetBuffer).Synaptics_report_absolute G w s.packetBuffer).fingerView ≠ s.fingerView := by
  have hout : s.cFingers ≠ s.packetBuffer 1 := by
    intro heq
    rw [← heq] at hunknown
    exact absurd hs.current (of_decide_eq_false hunknown)
  have hsame : (s.setPktType s.packetBuffer).cFingers = s.cFingers := (handled_setPktType _ s).counts.1
  have hcount := report_absolute_count (G := G) (w := w) ((tellsFingers_setPktType s.packetBuffer s).trans htells)
    (by rw [hsame]; exact hout)
  intro hview
  have hkept : ((s.setPktType s.packetBuffer).Synaptics_report_absolute G w s.packetBuffer).cFingers = s.cFingers :=
    congrArg FingerView.cFingers hview
  exact hout (hkept.symm.trans hcount)

/-- A packet that is rejected is ignored just when it tells what is counted already. -/
theorem view_rejected {s : Touchpad} (hs : Bounded s) (h : s.rejects = true) :
    (s.processPacket G w).fingerView = s.fingerView ↔ s.isHarmless = true := by
  have hnothing : s.fingerInfo ≠ none := by
    intro hnone
    simp [rejects, hnone] at h
  by_cases hsyn : s.hwVersion = STD_SYNAPTICS_HW
  · have hprocess : s.processPacket G w =
        (s.setPktType s.packetBuffer).Synaptics_report_absolute G w s.packetBuffer := by
      unfold processPacket
      rw [hsyn]
      rfl
    have hinfo := fingerInfo_synaptics hsyn
    by_cases htells : s.tellsFingers s.packetBuffer = true
    · rw [if_pos htells] at hinfo
      obtain ⟨hunknown, hharmless⟩ := unknown_of_rejected h hinfo
      rw [hprocess, hharmless]
      exact iff_of_false (view_synaptics hs htells hunknown) Bool.false_ne_true
    · rw [if_neg htells] at hinfo
      exact absurd hinfo hnothing
  by_cases hft : s.hwVersion = STD_FOCAL_TECH_HW
  · have hprocess : s.processPacket G w = s.packetFocalTech G w s.packetBuffer := by
      unfold processPacket
      rw [hft]
      rfl
    have hinfo := fingerInfo_focalTech hft
    by_cases hstatus : s.packetBuffer 0 &&& 0xf = PACKET_FT_STATUS
    · rw [if_pos hstatus] at hinfo
      obtain ⟨hunknown, hharmless⟩ := unknown_of_rejected h hinfo
      rw [hprocess, hharmless]
      exact view_packetFocalTech hstatus (statusFingers_unknown hunknown) s
    · rw [if_neg hstatus] at hinfo
      exact absurd hinfo hnothing
  by_cases hv4 : s.hwVersion = STD_ELAN_HW_V4
  · have hprocess : s.processPacket G w = s.packetV4 G w := by
      unfold processPacket
      rw [hv4]
      rfl
    have hinfo := fingerInfo_elanV4 hv4
    by_cases hstatus : s.isStatusV4 = true
    · rw [if_pos hstatus] at hinfo
      obtain ⟨hunknown, hharmless⟩ := unknown_of_rejected h hinfo
      rw [hprocess, hharmless]
      exact view_packetV4 hstatus (statusFingers_unknown hunknown)
    · rw [if_neg hstatus] at hinfo
      exact absurd hinfo hnothing
  · have hnone : s.fingerInfo = none := by
      unfold fingerInfo
      simp only [if_neg hsyn, if_neg hft, if_neg hv4]
    exact absurd hnone hnothing

/-- A packet keeps the numbers in their range and is ignored if it is rejected, just when it is harmless. -/
theorem processPacket_iff {s : Touchpad} (hs : Bounded s) :
    Bounded (s.processPacket G w) ∧ (s.rejects = true → (s.processPacket G w).fingerView = s.fingerView) ↔
      s.isHarmless = true := by
  cases h : s.rejects with
  | false =>
    have hharmless : s.isHarmless = true := by
      unfold isHarmless
      split
      · next info hinfo =>
        rw [known_of_accepted h hinfo]
        rfl
      · rfl
    exact iff_of_true ⟨bounded_processPacket hs h, fun hfalse => absurd hfalse Bool.false_ne_true⟩ hharmless
  | true =>
    have hview := view_rejected (G := G) (w := w) hs h
    constructor
    · intro hkept
      exact hview.1 (hkept.2 rfl)
    · intro hharmless
      have hsame := hview.2 hharmless
      have hbounded := bounded_of_counts hs (congrArg FingerView.cFingers hsame) (congrArg FingerView.lastFingers hsame)
      exact ⟨hbounded, fun _ => hsame⟩

/-! Events. -/

theorem bounded_escape {now : UInt64} {s : Touchpad} (hs : Bounded s) : Bounded (s.escape now) := by
  have hkey : ∀ t : Touchpad, Bounded t → Bounded t.clearToggleKey := by
    intro t ht
    unfold clearToggleKey
    split
    · exact ⟨ht.current, ht.last⟩
    · exact ht
  have hdrag : ∀ t : Touchpad, Bounded t → Bounded t.releaseDrag := by
    intro t ht
    unfold releaseDrag
    split
    · exact ⟨ht.current, ht.last⟩
    · exact ht
  have hswitch : ∀ t : Touchpad, Bounded t → Bounded t.releaseAppSwitch := fun t ht =>
    (handled_releaseAppSwitch t).bounded ht
  have hall := hswitch _ (hdrag _ (hkey { s with swipe.isInFullScreen := false, tap.count := 0 } ⟨hs.current, hs.last⟩))
  exact ⟨hall.current, hall.last⟩

theorem bounded_receive (n : PS2Notification) {s : Touchpad} (hs : Bounded s) :
    Bounded (s.receiveKeyboardNotifications w n) := by
  cases n with
  | kPS2C_ESC => exact bounded_escape hs
  | kPS2C_RestoreTouchpad =>
    have hreconnect := bounded_Reconnect_touchpad (w := w) hs
    show Bounded (s.restoreTouchpad w)
    unfold restoreTouchpad
    generalize (s.Reconnect_touchpad w).2 = t at hreconnect ⊢
    exact ⟨hreconnect.current, hreconnect.last⟩
  | kPS2C_KeybrdBackLightOff => exact (handled_backLightOff s).bounded hs
  | kPS2C_KeybrdBackLightOn => exact (handled_backLightOn _ s).bounded hs
  | _ => exact ⟨hs.current, hs.last⟩

theorem bounded_power (whatToDo : PowerControl) {s : Touchpad} (hs : Bounded s) :
    Bounded (s.setDevicePowerState w whatToDo) := by
  cases whatToDo with
  | kPS2C_DisableDevice =>
    have htalked : Detected w s (s.Enable_touchpad w false) := (talked_disable s).detected
    exact bounded_of_counts hs (htalked.same cFingers (fun _ => rfl) fun _ _ => rfl)
      (htalked.same lastFingers (fun _ => rfl) fun _ _ => rfl)
  | kPS2C_EnableDevice => exact bounded_Reconnect_touchpad ⟨hs.current, hs.last⟩

/-- The packet that a byte completes. -/
def completed (data : UInt8) (s : Touchpad) : Option Touchpad :=
  match (s.store data).framed with
  | .complete _ => some (s.store data).takeBytes
  | _ => none

/-- A byte that completes a bad packet leaves the fingers alone. -/
def Ignores (G : Gestures) (s : Touchpad) : Event → Prop
  | .interruptOccurred w data => ∀ t, s.completed data = some t → t.rejects = true →
      (s.interruptOccurred G w data).fingerView = s.fingerView
  | _ => True

/-- A byte does not complete a bad packet that is passed on, or it is one that is harmless. -/
def Spares (s : Touchpad) : Event → Prop
  | .interruptOccurred w data => ∀ t, s.completed data = some t → ∀ u, t.passedOn w = some u → u.isHarmless = true
  | _ => True

theorem Polled.bounded {s t : Touchpad} (h : Polled s t) (hs : Bounded s) : Bounded t :=
  bounded_of_counts hs (h.same cFingers fun _ => rfl) (h.same lastFingers fun _ => rfl)

/-- A packet that is passed on or discarded. -/
theorem receivePacket_iff {s : Touchpad} (hs : Bounded s) :
    Bounded (s.receivePacket G w) ∧ (s.rejects = true → (s.receivePacket G w).fingerView = s.fingerView) ↔
      ∀ u, s.passedOn w = some u → u.isHarmless = true := by
  cases hpassed : s.passedOn w with
  | none =>
    have hpolled := receivePacket_none (G := G) hpassed
    have hview : (s.receivePacket G w).fingerView = s.fingerView := hpolled.same fingerView fun _ => rfl
    exact iff_of_true ⟨hpolled.bounded hs, fun _ => hview⟩ fun u hu => absurd hu (by simp)
  | some u =>
    have hpolled := polled_passedOn hpassed
    have hrejects : u.rejects = s.rejects := hpolled.same rejects fun _ => rfl
    have hview : u.fingerView = s.fingerView := hpolled.same fingerView fun _ => rfl
    rw [receivePacket_some hpassed, ← hrejects, ← hview, processPacket_iff (hpolled.bounded hs)]
    simp

theorem interruptOccurred_iff {data : UInt8} {s : Touchpad} (hs : Bounded s) :
    Bounded (s.interruptOccurred G w data) ∧ Ignores G s (.interruptOccurred w data) ↔
      Spares s (.interruptOccurred w data) := by
  have hstore : Bounded (s.store data) := ⟨hs.current, hs.last⟩
  have hview : (s.store data).takeBytes.fingerView = s.fingerView := rfl
  unfold Ignores Spares completed interruptOccurred
  dsimp only
  cases hframed : (s.store data).framed with
  | waiting => exact iff_of_true ⟨hstore, fun t ht => absurd ht (by simp)⟩ fun t ht => absurd ht (by simp)
  | reset =>
    have hreset := bounded_Reconnect_touchpad (w := w) hstore
    exact iff_of_true ⟨⟨hreset.current, hreset.last⟩, fun t ht => absurd ht (by simp)⟩ fun t ht => absurd ht (by simp)
  | invalid =>
    exact iff_of_true ⟨⟨hs.current, hs.last⟩, fun t ht => absurd ht (by simp)⟩ fun t ht => absurd ht (by simp)
  | complete bytes =>
    have htake : Bounded (s.store data).takeBytes := ⟨hs.current, hs.last⟩
    have hreceive := receivePacket_iff (G := G) (w := w) htake
    rw [hview] at hreceive
    dsimp only
    simp only [Option.some.injEq, forall_eq']
    exact hreceive

theorem handle_iff {s : Touchpad} (hs : Bounded s) (e : Event) :
    Bounded (s.handle G e) ∧ Ignores G s e ↔ Spares s e := by
  cases e with
  | interruptOccurred w data => exact interruptOccurred_iff hs
  | receiveKeyboardNotifications w n => exact iff_of_true ⟨bounded_receive n hs, trivial⟩ trivial
  | setDevicePowerState w whatToDo => exact iff_of_true ⟨bounded_power whatToDo hs, trivial⟩ trivial

/-- In every state of a run at most five fingers are counted, and no bad packet of it changes the
fingers, just when each bad packet that is passed on tells what is counted already. -/
theorem ignored_iff (G : Gestures) {s : Touchpad} (hs : Bounded s) (es : List Event) :
    ((∀ p, p <+: es → Bounded (run (handle G) p s)) ∧ ∀ p e, p ++ [e] <+: es → Ignores G (run (handle G) p s) e) ↔
      ∀ p e, p ++ [e] <+: es → Spares (run (handle G) p s) e :=
  run_steps_iff (I := Bounded) (P := Ignores G) (C := Spares) (fun _ e hs => handle_iff hs e) es hs

/-- The driver after `init` and the setup for version 4. -/
def statusStart : Touchpad :=
  { init with touchpadVendor := .STD_ELAN_TECH, hwVersion := STD_ELAN_HW_V4, pktsize := 6 }

/-- Four fingers were counted twice, and the bytes of a status packet with the mask 4 are gathered but the last one. -/
def statusGathered : Touchpad :=
  { statusStart with
    cFingers := 4, lastFingers := 4, packetByteCount := 5
    packetBuffer := fun i => if i = 0 then 0x34 else if i = 1 then 0x04 else if i = 3 then 0x10 else 0x00 }

theorem ignored_four :
    (∀ p, p <+: [Event.interruptOccurred .silent 0] → Bounded (run (handle .idle) p statusGathered)) ∧
      ∀ p e, p ++ [e] <+: [Event.interruptOccurred .silent 0] → Ignores .idle (run (handle .idle) p statusGathered) e := by
  refine (ignored_iff .idle ⟨by decide, by decide⟩ _).mpr ?_
  intro p e hp
  obtain ⟨rest, hrest⟩ := hp
  cases p with
  | cons e' p => simp at hrest
  | nil =>
    obtain ⟨rfl, -⟩ := List.cons.inj hrest
    intro t ht u hu
    have hall : ((statusGathered.completed 0).bind fun t => t.passedOn .silent).all isHarmless = true := by decide +kernel
    have ht' : statusGathered.completed 0 = some t := ht
    rw [ht', Option.bind_some, hu] at hall
    exact hall

/-- The mask 0x1e is not in the table, and thirty fingers are counted. -/
def badStatus : List Event := [0x34, 0x1e, 0x00, 0x10, 0x00, 0x00].map (Event.interruptOccurred .silent)

theorem ignored_thirty :
    ¬ ∀ (G : Gestures) (s : Touchpad), Bounded s → ∀ es : List Event,
      (∀ p, p <+: es → Bounded (run (handle G) p s)) ∧
        ∀ p e, p ++ [e] <+: es → Ignores G (run (handle G) p s) e := by
  intro h
  have hafter := (h .idle statusStart ⟨by decide, by decide⟩ badStatus).1 _ (List.prefix_refl _)
  have hcount : (run (handle .idle) badStatus statusStart).cFingers = 30 := by decide +kernel
  have hbounded := hafter.current
  rw [hcount] at hbounded
  exact absurd hbounded (by decide)

end ApplePS2.Touchpad
