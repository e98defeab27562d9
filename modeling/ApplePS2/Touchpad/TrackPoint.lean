import ApplePS2.Touchpad.Delivery
import ApplePS2.Touchpad.Framing
import ApplePS2.Transition

/- Packets of ELAN's trackpoint, in the stream of the touchpad's bytes.

   1. `receive_started`: a packet whose first byte is taken is handed on as it was sent.
   2. `receive_dropped`: otherwise the rest of it is left in the buffer.
   3. `trackpoints_delivered_iff`: in a run every packet is given to
      `Process_trackpoint_events_ELAN` once and as a whole just when each one starts, is
      passed on and is understood. -/
namespace ApplePS2.Touchpad

open Transition

variable (G : Gestures) (w : TouchpadWorld)

/-- A movement with its two signs, and the buttons. -/
structure TrackPacket where
  sx : Bool
  sy : Bool
  m : Bool
  r : Bool
  l : Bool
  x : UInt8
  y : UInt8

def bit (b : Bool) (value : UInt8) : UInt8 := if b then value else 0

def TrackPacket.first (p : TrackPacket) : UInt8 :=
  bit p.sx 0x20 ||| bit p.sy 0x10 ||| bit p.m 0x04 ||| bit p.r 0x02 ||| bit p.l 0x01

def TrackPacket.third (p : TrackPacket) : UInt8 := bit (!p.sy) 0x20 ||| bit (!p.sx) 0x10 ||| 0x06

def TrackPacket.bytes (p : TrackPacket) : List UInt8 :=
  [p.first, bit (!p.sx) 0x80, bit (!p.sy) 0x80, p.third, p.x, p.y]

/-- A packet, with what the driver reads from outside at each byte. -/
structure TrackEvent where
  packet : TrackPacket
  worlds : Fin 6 → TouchpadWorld

def TrackEvent.stream (e : TrackEvent) : List (TouchpadWorld × UInt8) :=
  [(e.worlds 0, e.packet.first), (e.worlds 1, bit (!e.packet.sx) 0x80), (e.worlds 2, bit (!e.packet.sy) 0x80),
    (e.worlds 3, e.packet.third), (e.worlds 4, e.packet.x), (e.worlds 5, e.packet.y)]

def receiveTrackpoint (s : Touchpad) (e : TrackEvent) : Touchpad := s.receiveBytes G e.stream

/-! Bytes in the buffer. -/

/-- The buffer when these bytes of a packet have been stored. -/
def holding (l : List UInt8) (s : Touchpad) : Touchpad :=
  { s with
    packetBuffer := fun i => if i < l.length then packetOf l i else s.packetBuffer i
    packetByteCount := UInt8.ofNat l.length }

variable {G w}

theorem holding_nil {s : Touchpad} (h : s.packetByteCount = 0) : s.holding [] = s := by
  have hbuffer : (fun i => if i < ([] : List UInt8).length then packetOf [] i else s.packetBuffer i) = s.packetBuffer := by
    funext i
    simp
  unfold holding
  rw [hbuffer, show UInt8.ofNat ([] : List UInt8).length = s.packetByteCount from h.symm]

theorem store_holding {l : List UInt8} (hl : l.length < 255) (b : UInt8) (s : Touchpad) :
    (s.holding l).store b = s.holding (l ++ [b]) := by
  have hcount : (UInt8.ofNat l.length).toNat = l.length := by
    rw [UInt8.toNat_ofNat']
    omega
  have hbuffer : Function.update (fun i => if i < l.length then packetOf l i else s.packetBuffer i)
      (UInt8.ofNat l.length).toNat b =
        fun i => if i < (l ++ [b]).length then packetOf (l ++ [b]) i else s.packetBuffer i := by
    rw [hcount]
    funext i
    by_cases hlast : i = l.length
    · simp [hlast, packetOf]
    · rw [Function.update_of_ne hlast]
      by_cases hi : i < l.length
      · simp [hi, packetOf, Nat.lt_succ_of_lt hi]
      · have hover : ¬ i < l.length + 1 := by omega
        simp [hi, hover]
  have hnext : UInt8.ofNat l.length + 1 = UInt8.ofNat (l ++ [b]).length := by
    rw [List.length_append]
    exact (UInt8.ofNat_add l.length 1).symm
  unfold store holding
  dsimp only
  rw [hbuffer, hnext]

/-- The first byte of a packet is taken, also if it is 0. -/
def starts (b : UInt8) (s : Touchpad) : Bool :=
  b ≠ 0 || s.packetsCount ≠ 0 || s.cFingers ≠ 0 || s.touchpadVendor = .STD_ELAN_TECH && s.elanTPad.crcEnabled

theorem framed_first {b : UInt8} {s : Touchpad} (hreset : b ≠ kSC_Reset) (hsize : s.pktsize = 6) :
    (s.holding [b]).framed = if s.starts b then .waiting else .invalid := by
  have hbyte : (s.holding [b]).packetBuffer 0 = b := rfl
  have hcount : (s.holding [b]).packetByteCount = 1 := rfl
  have hnostart : (s.holding [b]).isNoStart = (b = 0 && s.packetsCount = 0 && s.cFingers = 0) := by
    unfold isNoStart
    rw [hbyte, hcount]
    simp [holding, hreset]
  have hwhole : ¬ (1 : UInt8) = (s.holding [b]).pktsize := by
    show ¬ (1 : UInt8) = s.pktsize
    rw [hsize]
    decide
  unfold framed starts
  rw [hnostart, hcount, hbyte, if_neg hreset, if_neg hwhole]
  cases hzero : (decide (b = 0) && decide (s.packetsCount = 0) && decide (s.cFingers = 0)) with
  | true =>
    obtain ⟨⟨hb, hpackets⟩, hfingers⟩ : (b = 0 ∧ s.packetsCount = 0) ∧ s.cFingers = 0 := by simpa using hzero
    simp [hb, hpackets, hfingers, holding]
  | false =>
    have hsome : b ≠ 0 ∨ s.packetsCount ≠ 0 ∨ s.cFingers ≠ 0 := by
      by_contra hnone
      simp only [not_or, not_not] at hnone
      simp [hnone] at hzero
    rcases hsome with hb | hpackets | hfingers
    · simp [hb]
    · simp [hpackets]
    · simp [hfingers]

theorem framed_more {l : List UInt8} {s : Touchpad} (hl : 2 ≤ l.length ∧ l.length ≤ 6)
    (hreset : packetOf l 0 ≠ kSC_Reset) (hsize : s.pktsize = 6) :
    (s.holding l).framed = if l.length = 6 then .complete l else .waiting := by
  have hbyte : (s.holding l).packetBuffer 0 = packetOf l 0 := if_pos (by omega : 0 < l.length)
  have hcount : ∀ n < 256, ((s.holding l).packetByteCount = UInt8.ofNat n ↔ l.length = n) := by
    intro n hn
    rw [← UInt8.toNat_inj]
    show (UInt8.ofNat l.length).toNat = _ ↔ _
    rw [UInt8.toNat_ofNat', UInt8.toNat_ofNat']
    omega
  have hone : (s.holding l).packetByteCount ≠ 1 := by
    intro h
    have := (hcount 1 (by decide)).1 h
    omega
  have hnostart : (s.holding l).isNoStart = false := by
    unfold isNoStart
    rw [hbyte]
    simp [hone, hreset]
  have hwhole : (s.holding l).packetByteCount = (s.holding l).pktsize ↔ l.length = 6 := by
    show (s.holding l).packetByteCount = s.pktsize ↔ _
    rw [hsize]
    exact hcount 6 (by decide)
  unfold framed
  rw [hnostart, if_neg Bool.false_ne_true]
  by_cases hlast : l.length = 6
  · have hbytes : packetBytes 6 (s.holding l).packetBuffer = l := by
      apply List.ext_getElem
      · simp [ApplePS2.packetBytes, hlast]
      · intro i hi hi'
        simp [ApplePS2.packetBytes, holding, packetOf, hi']
    rw [if_pos hlast, if_pos (hwhole.2 hlast)]
    show Framed.complete (packetBytes s.pktsize.toNat _) = _
    rw [hsize]
    exact congrArg Framed.complete hbytes
  · rw [if_neg hlast, if_neg (mt hwhole.1 hlast)]

theorem byte_waiting {l : List UInt8} {b : UInt8} {s : Touchpad} (hl : l.length < 255)
    (h : (s.holding (l ++ [b])).framed = .waiting) :
    (s.holding l).interruptOccurred G w b = s.holding (l ++ [b]) := by
  unfold interruptOccurred
  rw [store_holding hl]
  simp only [h]

theorem bytes_waiting {l : List UInt8} {bs : List (TouchpadWorld × UInt8)} {s : Touchpad} (hsize : s.pktsize = 6)
    (hl : 1 ≤ l.length) (hlength : l.length + bs.length < 6) (hreset : packetOf l 0 ≠ kSC_Reset) :
    (s.holding l).receiveBytes G bs = s.holding (l ++ bs.map Prod.snd) := by
  induction bs generalizing l with
  | nil =>
    rw [List.map_nil, List.append_nil]
    rfl
  | cons b bs ih =>
    rw [List.length_cons] at hlength
    have hkept : packetOf (l ++ [b.2]) 0 ≠ kSC_Reset := by
      cases l with
      | nil => exact absurd hl (by decide)
      | cons c l => exact hreset
    have hlonger : (l ++ [b.2]).length = l.length + 1 := List.length_append
    have hframed : (s.holding (l ++ [b.2])).framed = .waiting := by
      rw [framed_more (by omega) hkept hsize, if_neg (by omega)]
    calc (s.holding l).receiveBytes G (b :: bs)
      _ = ((s.holding l).interruptOccurred G b.1 b.2).receiveBytes G bs := rfl
      _ = (s.holding (l ++ [b.2])).receiveBytes G bs := by rw [byte_waiting (by omega) hframed]
      _ = s.holding (l ++ [b.2] ++ bs.map Prod.snd) := ih (by omega) (by omega) hkept
      _ = s.holding (l ++ (b :: bs).map Prod.snd) := by rw [List.append_assoc]; rfl

/-! One packet. -/

theorem TrackPacket.first_ne_reset (p : TrackPacket) : p.first ≠ kSC_Reset := by
  have hbits : ∀ sx sy m r l : Bool,
      bit sx 0x20 ||| bit sy 0x10 ||| bit m 0x04 ||| bit r 0x02 ||| bit l 0x01 ≠ kSC_Reset := by decide +kernel
  exact hbits p.sx p.sy p.m p.r p.l

theorem Aligned.six {s : Touchpad} (h : Aligned s) (hv : s.hwVersion ≠ STD_MOUSE_HW) : s.pktsize = 6 := by
  rw [← UInt8.toNat_inj, h.size, packetSize, if_neg hv]
  rfl

/-- Six bytes, the first of which is taken. -/
theorem bytes_whole {b d : TouchpadWorld × UInt8} {m : List (TouchpadWorld × UInt8)} {s : Touchpad}
    (hsize : s.pktsize = 6) (hcount : s.packetByteCount = 0) (hreset : b.2 ≠ kSC_Reset)
    (hstart : s.starts b.2 = true) (hmid : m.length = 4) :
    s.receiveBytes G (b :: (m ++ [d])) =
      (s.holding (b.2 :: (m.map Prod.snd ++ [d.2]))).takeBytes.receivePacket G d.1 := by
  have hfirst : (s.holding ([] ++ [b.2])).framed = .waiting := by
    show (s.holding [b.2]).framed = _
    rw [framed_first hreset hsize, if_pos hstart]
  have hwhole : (b.2 :: (m.map Prod.snd ++ [d.2])).length = 6 := by simp [hmid]
  have hlast : (s.holding (b.2 :: (m.map Prod.snd ++ [d.2]))).framed =
      .complete (b.2 :: (m.map Prod.snd ++ [d.2])) := by
    have hkept : packetOf (b.2 :: (m.map Prod.snd ++ [d.2])) 0 ≠ kSC_Reset := hreset
    rw [framed_more (by omega) hkept hsize, if_pos hwhole]
  have hone : s.interruptOccurred G b.1 b.2 = s.holding [b.2] := by
    have hwaiting := byte_waiting (G := G) (w := b.1) (by decide) hfirst
    rw [holding_nil hcount] at hwaiting
    exact hwaiting
  have hfive : (s.holding [b.2]).receiveBytes G m = s.holding (b.2 :: m.map Prod.snd) :=
    bytes_waiting hsize (Nat.le_refl 1) (by rw [hmid]; exact Nat.lt_succ_self 5) hreset
  have hstore : (s.holding (b.2 :: m.map Prod.snd)).store d.2 =
      s.holding (b.2 :: (m.map Prod.snd ++ [d.2])) := store_holding (by simp [hmid]) d.2 s
  have hsix : (s.holding (b.2 :: m.map Prod.snd)).interruptOccurred G d.1 d.2 =
      (s.holding (b.2 :: (m.map Prod.snd ++ [d.2]))).takeBytes.receivePacket G d.1 := by
    unfold interruptOccurred
    rw [hstore]
    simp only [hlast]
  rw [receiveBytes, List.foldl_cons, hone, List.foldl_append]
  rw [receiveBytes] at hfive
  rw [hfive, List.foldl_cons, List.foldl_nil, hsix]

/-- Six bytes, the first of which is not taken, and the next one is no start either. -/
theorem bytes_dropped {b c : TouchpadWorld × UInt8} {r : List (TouchpadWorld × UInt8)} {s : Touchpad}
    (hsize : s.pktsize = 6) (hcount : s.packetByteCount = 0) (hreset : b.2 ≠ kSC_Reset)
    (hstart : s.starts b.2 = false) (hzero : c.2 ≠ 0) (hnext : c.2 ≠ kSC_Reset) (hrest : r.length = 4) :
    (s.receiveBytes G (b :: c :: r)).packetByteCount = 5 := by
  have hfirst : (s.holding ([] ++ [b.2])).framed = .invalid := by
    show (s.holding [b.2]).framed = _
    rw [framed_first hreset hsize, hstart]
    rfl
  have hdropped : s.interruptOccurred G b.1 b.2 = (s.holding [b.2]).dropBytes := by
    have hstore := store_holding (l := []) (by decide) b.2 s
    rw [holding_nil hcount] at hstore
    unfold interruptOccurred
    rw [hstore]
    simp only [hfirst]
    rfl
  have hsize' : (s.holding [b.2]).dropBytes.pktsize = 6 := hsize
  have hempty : (s.holding [b.2]).dropBytes.packetByteCount = 0 := rfl
  generalize (s.holding [b.2]).dropBytes = t at hdropped hsize' hempty
  have hsecond : (t.holding ([] ++ [c.2])).framed = .waiting := by
    show (t.holding [c.2]).framed = _
    rw [framed_first hnext hsize', if_pos (by simp [starts, hzero])]
  have hone : t.interruptOccurred G c.1 c.2 = t.holding [c.2] := by
    have hwaiting := byte_waiting (G := G) (w := c.1) (by decide) hsecond
    rw [holding_nil hempty] at hwaiting
    exact hwaiting
  have hfive : (t.holding [c.2]).receiveBytes G r = t.holding (c.2 :: r.map Prod.snd) :=
    bytes_waiting hsize' (Nat.le_refl 1) (by rw [hrest]; exact Nat.lt_succ_self 5) hnext
  rw [receiveBytes, List.foldl_cons, hdropped, List.foldl_cons, hone]
  rw [receiveBytes] at hfive
  rw [hfive]
  show UInt8.ofNat (c.2 :: r.map Prod.snd).length = 5
  rw [List.length_cons, List.length_map, hrest]
  rfl

theorem receive_started {e : TrackEvent} {s : Touchpad} (hs : Aligned s) (hv : s.hwVersion ≠ STD_MOUSE_HW)
    (hstart : s.starts e.packet.first = true) : s.receiveTrackpoint G e =
      (s.holding e.packet.bytes).takeBytes.receivePacket G (e.worlds 5) := by
  obtain ⟨p, worlds⟩ := e
  have hwhole := bytes_whole (G := G) (b := (worlds 0, p.first)) (d := (worlds 5, p.y))
    (m := [(worlds 1, bit (!p.sx) 0x80), (worlds 2, bit (!p.sy) 0x80), (worlds 3, p.third), (worlds 4, p.x)])
    (hs.six hv) hs.count p.first_ne_reset hstart (by rw [List.length_cons]; rfl)
  exact hwhole

/-- Otherwise its other bytes are left in the buffer. -/
theorem receive_dropped {e : TrackEvent} {s : Touchpad} (hs : Aligned s) (hv : s.hwVersion ≠ STD_MOUSE_HW)
    (hstart : s.starts e.packet.first = false) : (s.receiveTrackpoint G e).packetByteCount = 5 := by
  obtain ⟨p, worlds⟩ := e
  have hzero : p.first = 0 := by
    by_contra hne
    simp [starts, hne] at hstart
  have hnext : bit (!p.sx) 0x80 = 0x80 := by
    have hbits : ∀ sx sy m r l : Bool,
        bit sx 0x20 ||| bit sy 0x10 ||| bit m 0x04 ||| bit r 0x02 ||| bit l 0x01 = 0 → bit (!sx) 0x80 = 0x80 := by
      decide +kernel
    exact hbits _ _ _ _ _ hzero
  have hnonzero : bit (!p.sx) 0x80 ≠ 0 := by
    rw [hnext]
    decide
  have hnoreset : bit (!p.sx) 0x80 ≠ kSC_Reset := by
    rw [hnext]
    decide
  have hrest := bytes_dropped (G := G) (b := (worlds 0, p.first)) (c := (worlds 1, bit (!p.sx) 0x80))
    (r := [(worlds 2, bit (!p.sy) 0x80), (worlds 3, p.third), (worlds 4, p.x), (worlds 5, p.y)])
    (hs.six hv) hs.count p.first_ne_reset hstart hnonzero hnoreset (by rw [List.length_cons]; rfl)
  exact hrest

/-! Whether a packet is understood. -/

/-- Version 3 takes it for the trackpoint's without CRC, when no finger is or was counted, the
byte of the touch's pressure is not 0, and no palm is remembered; version 4 only with CRC. -/
def understands (p : TrackPacket) (s : Touchpad) : Bool :=
  !s.button.disbleTrackPoint &&
    if s.hwVersion = STD_ELAN_HW_V3 then
      !s.elanTPad.crcEnabled && s.cFingers = 0 && s.lastFingers = 0 && (!p.sx || p.x ≥ 16) &&
        (s.kbEvent.showPressWidth || !s.palm.detected)
    else s.elanTPad.crcEnabled && s.elanTPad.supportsTrackPoint

/-- What version 3 looks at. -/
structure TrackView where
  hwVersion : UInt8
  cFingers : UInt8
  lastFingers : UInt8
  pressure : UInt8
  detected : Bool
  showPressWidth : Bool
  disbleTrackPoint : Bool
  trackpoints : List (List UInt8)

def trackView (s : Touchpad) : TrackView :=
  { hwVersion := s.hwVersion, cFingers := s.cFingers, lastFingers := s.lastFingers, pressure := (s.fing 0).pressure
    detected := s.palm.detected, showPressWidth := s.kbEvent.showPressWidth
    disbleTrackPoint := s.button.disbleTrackPoint, trackpoints := s.trackpoints }

theorem trackView_triggerBackLight (s : Touchpad) : (s.triggerBackLight w).trackView = s.trackView := by
  have hlight : (s.backLightOn (w.uptime 1)).trackView = s.trackView := by
    unfold backLightOn
    dsimp only
    split <;> rfl
  unfold triggerBackLight when
  split
  · exact hlight
  · rfl

theorem trackView_buttonsV2v3 (p : Packet) (s : Touchpad) : (s.buttonsV2v3 p).trackView = s.trackView := by
  have hpress : ∀ s : Touchpad, (s.Process_Physical_Buttons p).trackView = s.trackView := by
    intro s
    show (s.Process_Physical_Buttons p).unpressed.trackView = s.unpressed.trackView
    rw [unpressed_processPhysicalButtons]
  unfold buttonsV2v3
  repeat' split
  · rfl
  · exact hpress _
  · exact hpress s

/-- A packet of the trackpoint counts no finger. -/
theorem trackView_fingersV2v3 {p : Packet} (h : (p 0 &&& 0xc0) >>> 6 = 0) (s : Touchpad) :
    (s.fingersV2v3 p).trackView =
      { s.trackView with
        cFingers := 0, lastFingers := if s.cFingers = 0 then s.lastFingers else s.cFingers } := by
  unfold fingersV2v3
  rw [h]
  by_cases hzero : s.cFingers = 0
  · simp [hzero, trackView]
  · simp [hzero, trackView, setFingers]

theorem trackView_Checks {p : Packet} (h : (p 0 &&& 0xc0) >>> 6 = 0) (s : Touchpad) :
    (s.Process_ELANv2v3_Checks w p).trackView =
      { s.trackView with
        cFingers := 0, lastFingers := if s.cFingers = 0 then s.lastFingers else s.cFingers
        pressure := (p 1 &&& (0xf0 : UInt8)) ||| ((p 4 &&& 0xf0) >>> 4) } := by
  calc (s.Process_ELANv2v3_Checks w p).trackView
    _ = (((s.modifyFinger 0 (pressureV2v3 p)).fingersV2v3 p).countGestureTime (w.uptime 1)).trackView :=
      trackView_buttonsV2v3 p _
    _ = ((s.modifyFinger 0 (pressureV2v3 p)).fingersV2v3 p).trackView := rfl
    _ = _ := by
      rw [trackView_fingersV2v3 h]
      rfl

/-! What is handed on. -/

/-- The packet in the buffer is this one. -/
def Holds (p : TrackPacket) (packet : Packet) : Prop := ∀ i < 6, packet i = packetOf p.bytes i

theorem Holds.bytes {p : TrackPacket} {packet : Packet} (h : Holds p packet) : (List.range 6).map packet = p.bytes := by
  apply List.ext_getElem
  · simp [TrackPacket.bytes]
  · intro i hi hi'
    have hlt : i < 6 := by simpa using hi
    simp [h i hlt, packetOf, hi']

theorem TrackPacket.third_bits (p : TrackPacket) : p.third &&& 0x0f = 0x06 := by
  have hbits : ∀ sx sy : Bool, (bit (!sy) 0x20 ||| bit (!sx) 0x10 ||| 0x06) &&& 0x0f = 0x06 := by decide +kernel
  exact hbits p.sx p.sy

theorem TrackPacket.first_bits (p : TrackPacket) : (p.first &&& 0xc0) >>> 6 = 0 := by
  have hbits : ∀ sx sy m r l : Bool, ((bit sx 0x20 ||| bit sy 0x10 ||| bit m 0x04 ||| bit r 0x02 ||| bit l 0x01) &&&
      0xc0) >>> 6 = 0 := by decide +kernel
  exact hbits p.sx p.sy p.m p.r p.l

/-- The pressure that version 3 reads from it. -/
theorem TrackPacket.pressure_pos (p : TrackPacket) :
    (bit (!p.sx) 0x80 &&& (0xf0 : UInt8)) ||| ((p.x &&& 0xf0) >>> 4) > 0 ↔ (!p.sx || p.x ≥ 16) = true := by
  have hbits : ∀ (sx : Bool) (x : UInt8),
      (bit (!sx) 0x80 &&& (0xf0 : UInt8)) ||| ((x &&& 0xf0) >>> 4) > 0 ↔ (!sx || decide (x ≥ 16)) = true := by
    decide +kernel
  exact hbits p.sx p.x

theorem trackpoints_handled {s t : Touchpad} (h : Handled s t) : t.trackpoints = s.trackpoints := by
  show t.uncounted.outer.trackpoints = s.uncounted.outer.trackpoints
  rw [h.counted.outer]

theorem trackpoints_counted {s t : Touchpad} (h : Counted s t) : t.trackpoints = s.trackpoints := by
  show t.uncounted.outer.trackpoints = s.uncounted.outer.trackpoints
  rw [h.outer]

theorem trackpoints_reconnectTry (s : Touchpad) : (s.reconnectTry w).trackpoints = s.trackpoints := by
  unfold reconnectTry
  split
  · exact Reconnect_touchpad_same trackpoints (fun _ => rfl) (fun _ _ => rfl) (fun _ => rfl) _
  · rfl

/-- What version 3 does with a packet that it takes for the trackpoint's. -/
theorem trackpoints_eventV2v3 {p : TrackPacket} {packet : Packet} (h : Holds p packet) {s : Touchpad}
    (hv : s.hwVersion = STD_ELAN_HW_V3) (hfingers : s.cFingers = 0) :
    (s.eventV2v3 G w PACKET_TRACKPOINT packet).trackpoints = s.trackpoints ++
      if s.lastFingers = 0 && (s.fing 0).pressure > 0 && !s.button.disbleTrackPoint &&
        (s.kbEvent.showPressWidth || !s.palm.detected) then [p.bytes] else [] := by
  have htrackpoint : s.isTrackpointV3 PACKET_TRACKPOINT =
      (s.lastFingers = 0 && (s.fing 0).pressure > 0 && !s.button.disbleTrackPoint) := by
    have hv3 : s.hwVersion = 3 := hv
    simp [isTrackpointV3, hv3, hfingers, PACKET_TRACKPOINT]
  rw [← htrackpoint]
  cases htrack : s.isTrackpointV3 PACKET_TRACKPOINT with
  | false =>
    rw [trackpoints_counted (counted_eventV2v3 packet htrack)]
    simp
  | true =>
    rw [htrack] at htrackpoint
    obtain ⟨⟨-, hpressure⟩, -⟩ : (s.lastFingers = 0 ∧ (s.fing 0).pressure > 0) ∧ s.button.disbleTrackPoint = false := by
      simpa using htrackpoint.symm
    have hne : (s.fing 0).pressure ≠ 0 := by
      intro hzero
      rw [hzero] at hpressure
      exact absurd hpressure (by decide)
    have hpalm : s.isPalmV2v3 = s.palm.detected := by simp [isPalmV2v3, hfingers, hne]
    have hv3 : s.hwVersion = 3 := hv
    have hend : s.isTouchEndV2v3 packet = false := by simp [isTouchEndV2v3, hv3, hne]
    unfold eventV2v3
    rw [hpalm, hend, htrack]
    cases hshown : (s.kbEvent.showPressWidth || !s.palm.detected) with
    | false =>
      have hstopped : (!s.kbEvent.showPressWidth && s.palm.detected) = true := by simpa using hshown
      simp [hstopped, palmFound]
    | true =>
      have hgoes : (!s.kbEvent.showPressWidth && s.palm.detected) = false := by
        cases hshow : s.kbEvent.showPressWidth <;> simp_all
      simp only [hgoes, Bool.false_and, Bool.false_eq_true, if_false, if_true, Bool.and_self]
      rw [trackpoints_handled (handled_trackpoint packet s)]
      show s.trackpoints ++ [(List.range 6).map packet] = _
      rw [h.bytes]

/-- What version 3 does with the packet. -/
theorem trackpoints_packetV3 {p : TrackPacket} {packet : Packet} (h : Holds p packet) {s : Touchpad}
    (hv : s.hwVersion = STD_ELAN_HW_V3) :
    (s.packetV3 G w packet).trackpoints = s.trackpoints ++ if s.understands p then [p.bytes] else [] := by
  have h0 : packet 0 = p.first := h 0 (by decide)
  have h1 : packet 1 = bit (!p.sx) 0x80 := h 1 (by decide)
  have h3 : packet 3 = p.third := h 3 (by decide)
  have h4 : packet 4 = p.x := h 4 (by decide)
  have hthird := p.third_bits
  have hknown : packetBytes 6 packet ∉ [elan_end_packet_v3, elan_debounce_packet_v3, elan_debounce_packet_v3_2] := by
    have hbytes : packetBytes 6 packet = p.bytes := h.bytes
    have hfour : ∀ l ∈ [elan_end_packet_v3, elan_debounce_packet_v3, elan_debounce_packet_v3_2],
        packetOf l 3 &&& 0x0f ≠ 0x06 := by decide
    rw [hbytes]
    intro hmem
    exact hfour _ hmem hthird
  unfold packetV3 understands
  rw [if_neg hknown, if_pos hv]
  dsimp only
  cases hcrc : s.elanTPad.crcEnabled with
  -- with checksums its type is unknown, and it is no trackpoint packet
  | true =>
    have htype : s.packetTypeV3 packet = PACKET_UNKNOWN := by
      have hlow : p.third &&& 0x09 = 0x00 := by
        have hbits : ∀ b : UInt8, b &&& 0x0f = 0x06 → b &&& 0x09 = 0x00 := by decide +kernel
        exact hbits _ hthird
      simp [packetTypeV3, hcrc, h3, hlow]
    have hother : ∀ s : Touchpad, s.isTrackpointV3 PACKET_UNKNOWN = false := by
      intro s
      simp [isTrackpointV3, PACKET_UNKNOWN, PACKET_TRACKPOINT, PACKET_HEAD]
    have hlight := trackpoints_handled (handled_triggerBackLight (w := w) s)
    rw [htype]
    simp only [Bool.not_true, Bool.false_and, Bool.and_false, Bool.false_eq_true, if_false, List.append_nil]
    split
    · have hchecks := (handled_triggerBackLight (w := w) s).counted.trans (counted_ELANv2v3_Checks (w := w) packet _)
      exact trackpoints_counted (hchecks.trans (counted_eventV2v3 packet (hother _)))
    · rw [trackpoints_reconnectTry]
      exact hlight
  | false =>
    have htype : s.packetTypeV3 packet = PACKET_TRACKPOINT := by simp [packetTypeV3, hcrc, h3, hthird]
    have hbits : (packet 0 &&& 0xc0) >>> 6 = 0 := by
      rw [h0]
      exact p.first_bits
    have hview := (trackView_Checks (w := w) hbits (s.triggerBackLight w))
    rw [trackView_triggerBackLight] at hview
    have hcount : (s.triggerBackLight w).cFingers = s.cFingers :=
      congrArg TrackView.cFingers (trackView_triggerBackLight s)
    have hlast : (s.triggerBackLight w).lastFingers = s.lastFingers :=
      congrArg TrackView.lastFingers (trackView_triggerBackLight s)
    rw [hcount, hlast, h1, h4] at hview
    rw [htype, if_pos (by rfl)]
    unfold Process_absolute_events_ELANv2v3
    generalize (s.triggerBackLight w).Process_ELANv2v3_Checks w packet = u at hview
    have hversion : u.hwVersion = STD_ELAN_HW_V3 := (congrArg TrackView.hwVersion hview).trans hv
    rw [trackpoints_eventV2v3 h hversion (congrArg TrackView.cFingers hview)]
    have hu : u.lastFingers = (if s.cFingers = 0 then s.lastFingers else s.cFingers) ∧
        (u.fing 0).pressure = (bit (!p.sx) 0x80 &&& (0xf0 : UInt8)) ||| ((p.x &&& 0xf0) >>> 4) ∧
        u.button.disbleTrackPoint = s.button.disbleTrackPoint ∧ u.kbEvent.showPressWidth = s.kbEvent.showPressWidth ∧
        u.palm.detected = s.palm.detected ∧ u.trackpoints = s.trackpoints :=
      ⟨congrArg TrackView.lastFingers hview, congrArg TrackView.pressure hview,
        congrArg TrackView.disbleTrackPoint hview, congrArg TrackView.showPressWidth hview,
        congrArg TrackView.detected hview, congrArg TrackView.trackpoints hview⟩
    obtain ⟨hulast, hpressure, hdisable, hshow, hpalm, htracks⟩ := hu
    -- the test for the trackpoint reads the pressure and the last number of fingers
    have hpositive : ((u.fing 0).pressure > 0) = ((!p.sx || p.x ≥ 16) = true) := by
      rw [hpressure]
      exact propext p.pressure_pos
    have hzero : (u.lastFingers = 0) = (s.cFingers = 0 ∧ s.lastFingers = 0) := by
      rw [hulast]
      by_cases hfingers : s.cFingers = 0 <;> simp [hfingers]
    rw [hdisable, hshow, hpalm, htracks]
    simp only [hpositive, hzero, Bool.decide_and, Bool.decide_eq_true]
    congr 2
    rw [eq_iff_iff]
    simp only [Bool.and_eq_true, Bool.not_eq_true', Bool.not_false, decide_eq_true_eq]
    tauto

/-- What version 4 does with the packet. -/
theorem trackpoints_packetV4 {p : TrackPacket} {s : Touchpad} (h : Holds p s.packetBuffer)
    (hv : s.hwVersion = STD_ELAN_HW_V4) :
    (s.packetV4 G w).trackpoints = s.trackpoints ++ if s.understands p then [p.bytes] else [] := by
  have h3 : s.packetBuffer 3 = p.third := h 3 (by decide)
  have hthird := p.third_bits
  have hlow : p.third &&& 0x03 = 0x02 ∧ p.third &&& 0x08 = 0x00 ∧ p.third &&& 0x1c ≠ 0x10 := by
    have hbits : ∀ b : UInt8, b &&& 0x0f = 0x06 → b &&& 0x03 = 0x02 ∧ b &&& 0x08 = 0x00 ∧ b &&& 0x1c ≠ 0x10 := by
      decide +kernel
    exact hbits _ hthird
  have hv3 : ¬ s.hwVersion = STD_ELAN_HW_V3 := by
    rw [hv]
    decide
  have hsame : ∀ p, (s.checkSanity p).trackpoints = s.trackpoints := fun _ => rfl
  have hlit : ∀ p, Handled s ((s.checkSanity p).triggerBackLight w) := by
    intro p
    have hsanity : Handled s (s.checkSanity p) := .same rfl rfl
    exact hsanity.trans (handled_triggerBackLight _)
  unfold packetV4 understands
  dsimp only
  rw [if_neg hv3]
  cases hcrc : s.elanTPad.crcEnabled with
  -- without checksums the packet is not sane
  | false =>
    have hsanity : (s.checkSanity s.packetBuffer).elanTPad.sanityCheck = false := by
      simp [checkSanity, hcrc, h3, hlow.2.2]
    rw [hsanity]
    simp only [Bool.not_false, if_true, Bool.false_and, Bool.and_false, Bool.false_eq_true, if_false, List.append_nil]
    rw [trackpoints_reconnectTry]
    exact hsame _
  | true =>
    have hsanity : (s.checkSanity s.packetBuffer).elanTPad.sanityCheck = true := by
      simp [checkSanity, hcrc, h3, hlow.2.1]
    rw [hsanity]
    cases hsupports : s.elanTPad.supportsTrackPoint with
    | false =>
      -- it is taken for a relative packet of the fingers
      have htype : s.packetTypeV4 s.packetBuffer = PACKET_RELATIVE := by
        simp [packetTypeV4, hsupports, h3, hlow.1, PACKET_RELATIVE]
      have hbad : isBadStatus PACKET_RELATIVE s.packetBuffer = false := rfl
      rw [htype, hbad, if_neg (by decide), if_neg (by decide), if_neg (by decide), if_pos (by decide)]
      have hevents : ∀ t : Touchpad, Counted t
          (t.Process_absolute_events_ELANv4AndFocalTech G w PACKET_RELATIVE s.packetBuffer) := fun t =>
        counted_absolute_events (fun hstatus => absurd hstatus (by decide)) t
      rw [trackpoints_counted ((hlit _).counted.trans (hevents _))]
      simp
    | true =>
      have htype : s.packetTypeV4 s.packetBuffer = PACKET_TRACKPOINT := by
        simp [packetTypeV4, hsupports, h3, hthird]
      have hbad : isBadStatus PACKET_TRACKPOINT s.packetBuffer = false := rfl
      rw [htype, hbad, if_neg (by decide), if_neg (by decide), if_neg (by decide), if_neg (by decide), if_pos rfl]
      have hdisable : ((s.checkSanity s.packetBuffer).triggerBackLight w).button.disbleTrackPoint =
          s.button.disbleTrackPoint :=
        congrArg TrackView.disbleTrackPoint (trackView_triggerBackLight (s.checkSanity s.packetBuffer))
      have htracks := trackpoints_handled (hlit s.packetBuffer)
      rw [hdisable]
      cases s.button.disbleTrackPoint with
      | true => simp [htracks]
      | false =>
        simp only [Bool.false_eq_true, if_false, Bool.not_false, Bool.and_self, if_true]
        rw [trackpoints_handled (handled_trackpoint s.packetBuffer _)]
        show ((s.checkSanity s.packetBuffer).triggerBackLight w).trackpoints ++ [(List.range 6).map s.packetBuffer] = _
        rw [htracks, h.bytes]

/-! Runs. -/

/-- The packet is taken from its first byte, is not discarded, and is understood. -/
def Delivers (s : Touchpad) (e : TrackEvent) : Prop :=
  s.starts e.packet.first = true ∧ ((s.holding e.packet.bytes).takeBytes.passedOn (e.worlds 5)).isSome = true ∧
    s.understands e.packet = true

/-- Between two packets of ELAN's version 3 or 4. -/
structure TrackAligned (s : Touchpad) : Prop where
  aligned : Aligned s
  version : s.hwVersion = STD_ELAN_HW_V3 ∨ s.hwVersion = STD_ELAN_HW_V4

theorem TrackAligned.ne_mouse {s : Touchpad} (h : TrackAligned s) : s.hwVersion ≠ STD_MOUSE_HW := by
  rcases h.version with hv | hv <;> rw [hv] <;> decide

/-- A packet that is passed on. -/
theorem trackpoints_passedOn {p : TrackPacket} {s t : Touchpad} (hs : TrackAligned s)
    (h : (s.holding p.bytes).takeBytes.passedOn w = some t) :
    ((s.holding p.bytes).takeBytes.receivePacket G w).trackpoints =
      s.trackpoints ++ if s.understands p then [p.bytes] else [] := by
  have hpolled := polled_passedOn h
  have hholds : Holds p t.packetBuffer := by
    have hbuffer : t.packetBuffer = (s.holding p.bytes).packetBuffer := hpolled.same packetBuffer fun _ => rfl
    intro i hi
    rw [hbuffer]
    exact if_pos hi
  have hversion : t.hwVersion = s.hwVersion := hpolled.same hwVersion fun _ => rfl
  have hsame : t.understands p = s.understands p := hpolled.same (understands p) fun _ => rfl
  have htracks : t.trackpoints = s.trackpoints := hpolled.same trackpoints fun _ => rfl
  rw [receivePacket_some h, ← hsame, ← htracks]
  rcases hs.version with hv | hv
  · have hprocess : t.processPacket G w = t.packetV3 G w t.packetBuffer := by
      unfold processPacket
      rw [hversion, hv]
      rfl
    rw [hprocess]
    exact trackpoints_packetV3 hholds (hversion.trans hv)
  · have hprocess : t.processPacket G w = t.packetV4 G w := by
      unfold processPacket
      rw [hversion, hv]
      rfl
    rw [hprocess]
    exact trackpoints_packetV4 hholds (hversion.trans hv)

theorem trackpoints_discarded {p : TrackPacket} {s : Touchpad} (h : (s.holding p.bytes).takeBytes.passedOn w = none) :
    ((s.holding p.bytes).takeBytes.receivePacket G w).trackpoints = s.trackpoints :=
  (receivePacket_none (G := G) h).same trackpoints fun _ => rfl

/-- Nothing of a whole packet is left, whatever it is taken for. -/
theorem trackAligned_receivePacket {p : TrackPacket} {s : Touchpad} (hs : TrackAligned s) :
    TrackAligned ((s.holding p.bytes).takeBytes.receivePacket G w) := by
  have htaken : Gathered s.hwVersion [] (s.holding p.bytes).takeBytes :=
    ⟨rfl, fun _ hi => absurd hi (Nat.not_lt_zero _), rfl, hs.aligned.size⟩
  have hshift : isShifted (s.holding p.bytes).takeBytes.packetBuffer = false := by
    have hsecond : (s.holding p.bytes).takeBytes.packetBuffer 2 = bit (!p.sy) 0x80 := rfl
    have hother : bit (!p.sy) 0x80 ≠ 0x10 := by
      cases p.sy <;> decide
    simp [isShifted, hsecond, hother]
  have hgathered := htaken.receivePacket (G := G) (w := w) fun _ => hshift
  refine ⟨hgathered.aligned, ?_⟩
  rw [hgathered.version]
  exact hs.version

/-- In a run every packet is given to `Process_trackpoint_events_ELAN` once, as it was sent, and the
next one starts with its first byte, just when each packet is delivered. -/
theorem trackpoints_delivered_iff (G : Gestures) {s : Touchpad} (hs : TrackAligned s) (ls : List TrackEvent) :
    ((∀ p, p <+: ls → TrackAligned (run (receiveTrackpoint G) p s)) ∧
      ∀ p e, p ++ [e] <+: ls → ((run (receiveTrackpoint G) p s).receiveTrackpoint G e).trackpoints =
        (run (receiveTrackpoint G) p s).trackpoints ++ [e.packet.bytes]) ↔
    ∀ p e, p ++ [e] <+: ls → Delivers (run (receiveTrackpoint G) p s) e := by
  refine run_steps_iff (I := TrackAligned)
    (P := fun s e => (s.receiveTrackpoint G e).trackpoints = s.trackpoints ++ [e.packet.bytes]) ?_ ls hs
  intro s e hs
  cases hstart : s.starts e.packet.first with
  | false =>
    have hleft := receive_dropped (G := G) hs.aligned hs.ne_mouse hstart
    refine iff_of_false (fun h => ?_) (fun h => ?_)
    · have hcount := h.1.aligned.count
      rw [hleft] at hcount
      exact absurd hcount (by decide)
    · rw [Delivers, hstart] at h
      exact absurd h.1 (by decide)
  | true =>
    rw [receive_started hs.aligned hs.ne_mouse hstart]
    unfold Delivers
    cases hpassed : (s.holding e.packet.bytes).takeBytes.passedOn (e.worlds 5) with
    | none =>
      rw [trackpoints_discarded hpassed]
      simp [hstart]
    | some t =>
      rw [trackpoints_passedOn hs hpassed]
      cases hunderstands : s.understands e.packet with
      | false => simp [hstart]
      | true => simp [hstart, trackAligned_receivePacket hs]

/-- The driver after `init` and the setup for version 3. -/
def trackStart : Touchpad :=
  { init with touchpadVendor := .STD_ELAN_TECH, hwVersion := STD_ELAN_HW_V3, pktsize := 6 }

theorem trackAligned_start : TrackAligned trackStart := ⟨⟨rfl, rfl⟩, .inl rfl⟩

def moved (sx sy : Bool) (x y : UInt8) : TrackEvent :=
  ⟨⟨sx, sy, false, false, false, x, y⟩, fun _ => TouchpadWorld.silent⟩

theorem delivers_start : Delivers trackStart (moved true true 255 255) := by
  have hworld : (moved true true 255 255).worlds 5 = TouchpadWorld.silent := rfl
  have hstarts : trackStart.starts (moved true true 255 255).packet.first = true := by decide +kernel
  have hpassed : ((trackStart.holding (moved true true 255 255).packet.bytes).takeBytes.passedOn
      TouchpadWorld.silent).isSome = true := by decide +kernel
  have hunderstands : trackStart.understands (moved true true 255 255).packet = true := by decide +kernel
  unfold Delivers
  rw [hworld]
  exact ⟨hstarts, hpassed, hunderstands⟩

/-- The pointer is moved by -1 and -1. -/
theorem trackpoints_delivered_back :
    (∀ p, p <+: [moved true true 255 255] → TrackAligned (run (receiveTrackpoint Gestures.idle) p trackStart)) ∧
      ∀ p e, p ++ [e] <+: [moved true true 255 255] →
        ((run (receiveTrackpoint Gestures.idle) p trackStart).receiveTrackpoint Gestures.idle e).trackpoints =
          (run (receiveTrackpoint Gestures.idle) p trackStart).trackpoints ++ [e.packet.bytes] := by
  refine (trackpoints_delivered_iff .idle trackAligned_start _).mpr ?_
  intro p e hp
  obtain ⟨rest, hrest⟩ := hp
  cases p with
  | cons e' p => simp at hrest
  | nil =>
    obtain ⟨rfl, -⟩ := List.cons.inj hrest
    exact delivers_start

/-- The pointer is moved by 1 and 1: the first byte is 0, and is dropped. -/
theorem trackpoints_dropped :
    ¬ ∀ (G : Gestures) (s : Touchpad), TrackAligned s → ∀ ls : List TrackEvent,
      (∀ p, p <+: ls → TrackAligned (run (receiveTrackpoint G) p s)) ∧
        ∀ p e, p ++ [e] <+: ls → ((run (receiveTrackpoint G) p s).receiveTrackpoint G e).trackpoints =
          (run (receiveTrackpoint G) p s).trackpoints ++ [e.packet.bytes] := by
  intro h
  have hafter := (h .idle trackStart trackAligned_start [moved false false 1 1]).1 _ (List.prefix_refl _)
  have hstarts : trackStart.starts (moved false false 1 1).packet.first = false := by decide +kernel
  have hcount := receive_dropped (G := .idle) trackAligned_start.aligned trackAligned_start.ne_mouse hstarts
  have hempty : (trackStart.receiveTrackpoint .idle (moved false false 1 1)).packetByteCount = 0 := hafter.aligned.count
  rw [hempty] at hcount
  exact absurd hcount (by decide)

end ApplePS2.Touchpad
