import ApplePS2.Touchpad.FingerCount
import ApplePS2.Touchpad.Framing

/- Duplicate packets at the end of a touch: `_endPacketsCount` counts them one after the
   other in eight bits, and those with a count above 1 are discarded.

   1. `ends_receivePacket`: only the duplicate test changes the count while a packet is handled.
   2. `arrival_receiveBytes`: the bytes up to the end of a packet, and the count before it.
   3. `discarded_iff`: in a run of duplicates all but the first are discarded just when no
      byte is dropped between them and the count stays in its eight bits. -/
namespace ApplePS2.Touchpad

variable {G : Gestures} {w : TouchpadWorld}

/-! What leaves the count alone. -/

theorem Handled.ends {s t : Touchpad} (h : Handled s t) : t.endPacketsCount = s.endPacketsCount := by
  obtain houter | houter := h.outer
  · show t.outer.endPacketsCount = s.outer.endPacketsCount
    rw [houter]
  · show t.outer.endPacketsCount = s.outer.endPacketsCount
    rw [houter]
    rfl

theorem Counted.ends {s t : Touchpad} (h : Counted s t) : t.endPacketsCount = s.endPacketsCount := by
  show t.uncounted.outer.endPacketsCount = s.uncounted.outer.endPacketsCount
  rw [h.outer]

theorem ends_when (c : Bool) {f : Touchpad → Touchpad} {s : Touchpad} (h : (f s).endPacketsCount = s.endPacketsCount) :
    (s.when c f).endPacketsCount = s.endPacketsCount := by
  cases c with
  | true => exact h
  | false => rfl

theorem ends_ELANv1 (p : Packet) (s : Touchpad) :
    (s.Process_absolute_events_ELANv1 p).endPacketsCount = s.endPacketsCount := by
  have hplace : ∀ s : Touchpad, Handled s (s.placeV1 p) := fun s => .when _ (handled_modifyFinger _ _ s)
  unfold Process_absolute_events_ELANv1
  dsimp only
  split
  · rfl
  · refine (Handled.ends ?_).trans (rfl : _ = { s with cFingers := fingersV1 p s }.countReports.endPacketsCount)
    exact ((handled_Process_Physical_Buttons p _).trans (hplace _)).trans (handled_modifyFinger _ _ _)

theorem ends_ELANv2v3 (packet_type : UInt8) (p : Packet) (s : Touchpad) :
    (s.Process_absolute_events_ELANv2v3 G w packet_type p).endPacketsCount = s.endPacketsCount := by
  have hevent : ∀ s : Touchpad, (s.eventV2v3 G w packet_type p).endPacketsCount = s.endPacketsCount := by
    intro s
    cases htrackpoint : s.isTrackpointV3 packet_type with
    | false => exact (counted_eventV2v3 p htrackpoint).ends
    | true =>
      unfold eventV2v3
      rw [if_pos htrackpoint]
      repeat' split
      · rfl
      · exact (handled_touch_end s).ends
      · exact (handled_trackpoint p s).ends
  exact (hevent _).trans (counted_ELANv2v3_Checks p s).ends

theorem ends_statusPacket (p : Packet) (s : Touchpad) : (s.statusPacket G w p).endPacketsCount = s.endPacketsCount := by
  cases h : statusFingers (p 1 &&& 0x1f) with
  | none =>
    rw [statusPacket_rejected h]
    rfl
  | some count => exact (counted_statusPacket h s).ends

theorem ends_absolute_events (packet_type : UInt8) (p : Packet) (s : Touchpad) :
    (s.Process_absolute_events_ELANv4AndFocalTech G w packet_type p).endPacketsCount = s.endPacketsCount := by
  have hevent : ∀ s : Touchpad, (s.eventV4 G w packet_type p).endPacketsCount = s.endPacketsCount := by
    intro s
    unfold eventV4
    repeat' split
    · exact ends_statusPacket p s
    · exact (handled_absolutePacket p s).ends
    · exact (handled_relativePacket p s).ends
    · rfl
  unfold Process_absolute_events_ELANv4AndFocalTech
  repeat' split
  · exact (handled_notePalm p s).ends
  · exact (handled_accidental p s).ends
  · exact (hevent _).trans (handled_start p s).ends

theorem ends_extendedPacket (p : Packet) (s : Touchpad) : (s.extendedPacket p).endPacketsCount = s.endPacketsCount := by
  have hchange : ∀ s : Touchpad, (s.changeFingers (p 1)).endPacketsCount = s.endPacketsCount := by
    intro s
    unfold changeFingers
    split
    · exact (handled_fingers_change _).ends
    · rfl
  unfold extendedPacket
  dsimp only
  repeat' split
  · exact (handled_secondaryFinger p s).ends
  · exact hchange _
  · rfl

theorem ends_report_absolute (p : Packet) (s : Touchpad) :
    (s.Synaptics_report_absolute G w p).endPacketsCount = s.endPacketsCount := by
  unfold Synaptics_report_absolute
  dsimp only
  repeat' split
  · exact ends_extendedPacket p _
  · exact (counted_reportNew p _).ends
  · exact (counted_reportOld p _).ends

theorem ends_reconnectTry (s : Touchpad) : (s.reconnectTry w).endPacketsCount = s.endPacketsCount := by
  unfold reconnectTry
  split
  · obtain h | h := detected_Reconnect_touchpad (w := w) { s with modeSetTries := s.modeSetTries - 1 }
    · exact h.same endPacketsCount (fun _ => rfl) fun _ _ => rfl
    · exact h.same endPacketsCount (fun _ => rfl) fun _ _ => rfl
  · rfl

theorem ends_triggerBackLight (s : Touchpad) : (s.triggerBackLight w).endPacketsCount = s.endPacketsCount :=
  (handled_triggerBackLight s).ends

theorem ends_packetFocalTech (p : Packet) (s : Touchpad) :
    (s.packetFocalTech G w p).endPacketsCount = s.endPacketsCount := by
  have hlight := ends_triggerBackLight (w := w) s
  unfold packetFocalTech
  dsimp only
  repeat' split
  · exact (ends_absolute_events _ p _).trans hlight
  · exact (ends_absolute_events _ p _).trans hlight
  · exact (ends_absolute_events _ p _).trans hlight
  · exact (ends_reconnectTry _).trans hlight

theorem ends_packetV3 (p : Packet) (s : Touchpad) : (s.packetV3 G w p).endPacketsCount = s.endPacketsCount := by
  have hlight := ends_triggerBackLight (w := w) s
  unfold packetV3
  dsimp only
  repeat' split
  · rfl
  · exact (ends_ELANv2v3 _ p _).trans hlight
  · exact (ends_reconnectTry _).trans hlight

theorem ends_packetV4 (s : Touchpad) : (s.packetV4 G w).endPacketsCount = s.endPacketsCount := by
  have hlight := ends_triggerBackLight (w := w) (s.checkSanity s.packetBuffer)
  have hrealign : ∀ t : Touchpad, t.realign.endPacketsCount = t.endPacketsCount := fun _ => ends_when _ rfl
  unfold packetV4
  dsimp only
  repeat' split
  · exact ends_reconnectTry _
  · rfl
  · exact ((ends_absolute_events _ _ _).trans (hrealign _)).trans hlight
  · exact (ends_absolute_events _ _ _).trans hlight
  · exact hlight
  · exact (handled_trackpoint _ _).ends.trans hlight
  · exact (ends_reconnectTry _).trans hlight

theorem ends_processPacket (s : Touchpad) : (s.processPacket G w).endPacketsCount = s.endPacketsCount := by
  have hv1 : ∀ p, (s.packetV1 p).endPacketsCount = s.endPacketsCount := by
    intro p
    unfold packetV1
    split
    · rfl
    · exact ends_ELANv1 p s
  have hv2 : ∀ p, (s.packetV2 G w p).endPacketsCount = s.endPacketsCount := by
    intro p
    unfold packetV2
    split
    · rfl
    · exact (ends_ELANv2v3 _ p _).trans (ends_triggerBackLight s)
  unfold processPacket
  dsimp only
  repeat' split
  · exact (handled_gesture _ s).ends
  · exact (ends_report_absolute _ _).trans (handled_setPktType _ s).ends
  · exact ends_packetFocalTech _ s
  · exact hv1 _
  · exact hv2 _
  · exact ends_packetV3 _ s
  · exact ends_packetV4 s
  · rfl

theorem ends_pollACPI (s : Touchpad) : (s.pollACPI w).endPacketsCount = s.endPacketsCount := by
  have hkeys : ∀ s : Touchpad, (s.pollFnKeys w).endPacketsCount = s.endPacketsCount := by
    intro s
    unfold pollFnKeys
    split
    · rfl
    · exact ends_when _ rfl
  have hlid : ∀ s : Touchpad, (s.pollLid w).endPacketsCount = s.endPacketsCount := by
    intro s
    unfold pollLid
    split
    · rfl
    · rfl
    · exact ends_when _ rfl
  have hpoll : (s.Process_ACPI_IOREG_Polling w).endPacketsCount = s.endPacketsCount :=
    (ends_when _ (hlid _)).trans (ends_when _ (hkeys s))
  exact ends_when _ hpoll

theorem ends_receivePacket (s : Touchpad) :
    (s.receivePacket G w).endPacketsCount = s.countDuplicate.endPacketsCount := by
  have hmouse : ∀ s : Touchpad, (s.pollMouse w).endPacketsCount = s.endPacketsCount := fun _ => ends_when _ rfl
  have htimeout : ∀ s : Touchpad, (s.accidentalTimeout w).endPacketsCount = s.endPacketsCount := fun _ =>
    ends_when _ rfl
  have hpass : ∀ s : Touchpad, (s.passPacket G w).endPacketsCount = s.endPacketsCount := by
    intro s
    unfold passPacket
    dsimp only
    split
    · exact htimeout s
    · exact (ends_processPacket _).trans (htimeout s)
  have hfound := hmouse s.countDuplicate
  have hpolled := (ends_pollACPI (w := w) _).trans hfound
  unfold receivePacket
  dsimp only
  repeat' split
  · rfl
  · exact hfound
  · exact hpolled
  · exact (hpass _).trans hpolled

/-! Runs of duplicates. -/

/-- "Duplicate end packet discarded" -/
def isDiscarded (s : Touchpad) : Bool := s.countDuplicate.endPacketsCount > 1

/-- Nothing but the count is changed by a packet that is discarded. -/
theorem receivePacket_discarded {s : Touchpad} (h : s.isDiscarded = true) : s.receivePacket G w = s.countDuplicate := by
  unfold receivePacket
  dsimp only
  rw [if_pos (of_decide_eq_true h)]

/-- The driver when it looks at a complete packet, and whether a byte has been dropped
    since the packet before. -/
structure Arrival where
  touchpad : Touchpad
  dropped : Bool

/-- The packet that some bytes end with, if they complete it and no other. -/
def arrival (G : Gestures) : List (TouchpadWorld × UInt8) → Touchpad → Option Arrival
  | [], _ => none
  | b :: bs, s =>
    match (s.store b.2).framed with
    | .complete _ => if bs.isEmpty then some ⟨(s.store b.2).takeBytes, false⟩ else none
    | .waiting => arrival G bs (s.interruptOccurred G b.1 b.2)
    | _ => (arrival G bs (s.interruptOccurred G b.1 b.2)).map fun a => { a with dropped := true }

/-- Packets that come one after the other and all pass the duplicate test. -/
inductive EndPackets (G : Gestures) : Touchpad → List (List (TouchpadWorld × UInt8)) → List Arrival → Prop
  | nil (s) : EndPackets G s [] []
  | cons {s bs a packets arrivals} (harrives : arrival G bs s = some a) (hduplicate : a.touchpad.isDuplicate = true)
    (hrest : EndPackets G (s.receiveBytes G bs) packets arrivals) : EndPackets G s (bs :: packets) (a :: arrivals)

/-- The packet is handed over, and the count before it is that of the last packet unless a byte is dropped. -/
theorem arrival_receiveBytes (bs : List (TouchpadWorld × UInt8)) (s : Touchpad) {a : Arrival}
    (h : arrival G bs s = some a) :
    (∃ w, s.receiveBytes G bs = a.touchpad.receivePacket G w) ∧
      a.touchpad.endPacketsCount = if a.dropped then 0 else s.endPacketsCount := by
  induction bs generalizing s a with
  | nil => cases h
  | cons b bs ih =>
    have hnext : s.receiveBytes G (b :: bs) = (s.interruptOccurred G b.1 b.2).receiveBytes G bs := rfl
    -- after a byte that is dropped the count is 0, whether another one is dropped or not
    have hdropped : (s.interruptOccurred G b.1 b.2).endPacketsCount = 0 →
        (arrival G bs (s.interruptOccurred G b.1 b.2)).map (fun a => { a with dropped := true }) = some a →
        (∃ w, s.receiveBytes G (b :: bs) = a.touchpad.receivePacket G w) ∧
          a.touchpad.endPacketsCount = if a.dropped then 0 else s.endPacketsCount := by
      intro hzero ha
      obtain ⟨c, hc, rfl⟩ := Option.map_eq_some_iff.1 ha
      obtain ⟨hreceive, hcount⟩ := ih _ hc
      rw [hzero, ite_self] at hcount
      exact ⟨hnext ▸ hreceive, hcount⟩
    unfold arrival at h
    cases hframed : (s.store b.2).framed with
    | complete bytes =>
      rw [hframed] at h
      dsimp only at h
      split at h
      · next hlast =>
        obtain rfl := List.isEmpty_iff.1 hlast
        obtain rfl := Option.some.inj h
        refine ⟨⟨b.1, ?_⟩, rfl⟩
        rw [hnext]
        show s.interruptOccurred G b.1 b.2 = _
        unfold interruptOccurred
        simp only [hframed]
      · cases h
    | waiting =>
      rw [hframed] at h
      obtain ⟨hreceive, hcount⟩ := ih _ h
      have hsame : (s.interruptOccurred G b.1 b.2).endPacketsCount = s.endPacketsCount := by
        unfold interruptOccurred
        simp only [hframed]
        rfl
      rw [hsame] at hcount
      exact ⟨hnext ▸ hreceive, hcount⟩
    | reset =>
      rw [hframed] at h
      refine hdropped ?_ h
      unfold interruptOccurred
      simp only [hframed]
      rfl
    | invalid =>
      rw [hframed] at h
      refine hdropped ?_ h
      unfold interruptOccurred
      simp only [hframed]
      rfl

/-- A duplicate adds one to the count, in eight bits. -/
theorem arrival_ends {bs : List (TouchpadWorld × UInt8)} {s : Touchpad} {a : Arrival} (h : arrival G bs s = some a)
    (hduplicate : a.touchpad.isDuplicate = true) :
    (s.receiveBytes G bs).endPacketsCount = a.touchpad.endPacketsCount + 1 := by
  obtain ⟨⟨w, hreceive⟩, -⟩ := arrival_receiveBytes bs s h
  rw [hreceive, ends_receivePacket]
  unfold countDuplicate
  rw [if_pos hduplicate]

theorem isDiscarded_iff {s : Touchpad} (h : s.isDuplicate = true) :
    s.isDiscarded = true ↔ s.endPacketsCount ≠ 0 ∧ s.endPacketsCount.toNat + 1 ≤ 255 := by
  have hcount : ∀ c : UInt8, c + 1 > 1 ↔ c ≠ 0 ∧ c.toNat + 1 ≤ 255 := by decide +kernel
  unfold isDiscarded countDuplicate
  rw [if_pos h, decide_eq_true_eq]
  exact hcount s.endPacketsCount

/-- Duplicates behind a packet that has left a count behind, by induction on them. -/
theorem discarded_after {s : Touchpad} {packets : List (List (TouchpadWorld × UInt8))} {arrivals : List Arrival}
    (h : EndPackets G s packets arrivals) :
    (∀ a ∈ arrivals, a.touchpad.isDiscarded = true) ↔ arrivals = [] ∨
      (∀ a ∈ arrivals, a.dropped = false) ∧ s.endPacketsCount ≠ 0 ∧ s.endPacketsCount.toNat + arrivals.length ≤ 255 := by
  induction h with
  | nil s => exact iff_of_true (fun a ha => absurd ha List.not_mem_nil) (.inl rfl)
  | @cons s bs a packets arrivals harrives hduplicate hrest ih =>
    have hcount := (arrival_receiveBytes bs s harrives).2
    rw [List.forall_mem_cons, isDiscarded_iff hduplicate, ih, arrival_ends harrives hduplicate, List.forall_mem_cons,
      List.length_cons]
    cases hdropped : a.dropped with
    | true =>
      rw [hdropped, if_pos rfl] at hcount
      rw [hcount]
      simp
    | false =>
      rw [hdropped, if_neg Bool.false_ne_true] at hcount
      rw [hcount]
      have hnext : s.endPacketsCount.toNat + 1 ≤ 255 → (s.endPacketsCount + 1).toNat = s.endPacketsCount.toNat + 1 := by
        intro hle
        rw [UInt8.toNat_add]
        exact Nat.mod_eq_of_lt (by show s.endPacketsCount.toNat + 1 < 256; omega)
      have hpositive : s.endPacketsCount.toNat + 1 ≤ 255 → s.endPacketsCount + 1 ≠ 0 := by
        intro hle hzero
        have hvalue := hnext hle
        rw [hzero] at hvalue
        exact absurd hvalue (by simp)
      -- the count goes up by one with each packet, and 255 is followed by 0
      constructor
      · rintro ⟨⟨hne, hle⟩, hempty | ⟨hkept, -, hlength⟩⟩
        · subst hempty
          exact .inr ⟨⟨rfl, fun a ha => absurd ha List.not_mem_nil⟩, hne, hle⟩
        · rw [hnext hle] at hlength
          exact .inr ⟨⟨rfl, hkept⟩, hne, by omega⟩
      · rintro (hempty | ⟨⟨-, hkept⟩, hne, hlength⟩)
        · cases hempty
        · have hle : s.endPacketsCount.toNat + 1 ≤ 255 := by omega
          refine ⟨⟨hne, hle⟩, .inr ⟨hkept, hpositive hle, ?_⟩⟩
          rw [hnext hle]
          omega

/-- In a run of duplicates all but the first are discarded just when there is but one, or
    no byte is dropped behind the first and the count does not wrap around. -/
theorem discarded_iff {s : Touchpad} {packets : List (List (TouchpadWorld × UInt8))} {a : Arrival}
    {arrivals : List Arrival} (h : EndPackets G s packets (a :: arrivals)) :
    (∀ b ∈ arrivals, b.touchpad.isDiscarded = true) ↔ arrivals = [] ∨
      (∀ b ∈ arrivals, b.dropped = false) ∧ a.touchpad.endPacketsCount.toNat + (a :: arrivals).length ≤ 255 := by
  cases h with
  | cons harrives hduplicate hrest =>
    rw [discarded_after hrest, arrival_ends harrives hduplicate, List.length_cons]
    have hwrap : ∀ (c : UInt8) (n : Nat), n ≠ 0 →
        (c + 1 ≠ 0 ∧ (c + 1).toNat + n ≤ 255 ↔ c.toNat + (n + 1) ≤ 255) := by
      intro c n hn
      have hvalue : ∀ c : UInt8, c + 1 = 0 ∧ c.toNat = 255 ∨ c + 1 ≠ 0 ∧ (c + 1).toNat = c.toNat + 1 := by
        decide +kernel
      obtain ⟨hzero, hlast⟩ | ⟨hne, hnext⟩ := hvalue c
      · exact iff_of_false (fun hboth => hboth.1 hzero) (by omega)
      · rw [hnext, and_iff_right hne]
        omega
    by_cases hempty : arrivals = []
    · exact iff_of_true (.inl hempty) (.inl hempty)
    · rw [hwrap _ _ (mt List.length_eq_zero_iff.1 hempty)]

/-! Version 4 at rest. -/

/-- A status packet without a finger. -/
def endPacket : List (TouchpadWorld × UInt8) := [0x34, 0x00, 0x00, 0x10, 0x00, 0x00].map (.silent, ·)

/-- No finger, no button, and no byte of a packet has been received. -/
structure Resting (s : Touchpad) : Prop where
  version : s.hwVersion = STD_ELAN_HW_V4
  size : s.pktsize = 6
  count : s.packetByteCount = 0
  fingers : s.cFingers = 0
  button : s.button.data = 0

/-- Bytes that complete a packet, by induction on those that are missing. -/
theorem arrival_gathered {hwVersion : UInt8} (bs : List (TouchpadWorld × UInt8)) (hbs : bs ≠ []) {l : List UInt8}
    {s : Touchpad} (h : Gathered hwVersion l s) (hsize : l.length + bs.length = packetSize hwVersion)
    (hfirst : packetOf (l ++ bs.map Prod.snd) 0 ≠ 0 ∧ packetOf (l ++ bs.map Prod.snd) 0 ≠ kSC_Reset) :
    ∃ buffer, arrival G bs s = some ⟨{ s with packetBuffer := buffer, packetByteCount := 0 }, false⟩ ∧
      ∀ i < packetSize hwVersion, buffer i = packetOf (l ++ bs.map Prod.snd) i := by
  induction bs generalizing l s with
  | nil => exact absurd rfl hbs
  | cons b bs ih =>
    have hlength : l.length + (bs.length + 1) = packetSize hwVersion := hsize
    have hstore := h.store (by omega) b.2
    have hbytes : l ++ List.map Prod.snd (b :: bs) = (l ++ [b.2]) ++ bs.map Prod.snd := by simp
    have hhead : packetOf (l ++ List.map Prod.snd (b :: bs)) 0 = packetOf (l ++ [b.2]) 0 := by
      cases l <;> rfl
    have hframed := framed_gathered hstore (by simp) (hhead ▸ hfirst)
    rw [hbytes] at hfirst ⊢
    unfold arrival
    cases bs with
    | nil =>
      have hlast : (l ++ [b.2]).length = packetSize hwVersion := by simpa using hsize
      rw [if_pos hlast] at hframed
      rw [hframed]
      refine ⟨(s.store b.2).packetBuffer, rfl, fun i hi => ?_⟩
      rw [List.map_nil, List.append_nil]
      exact hstore.buffer i (hlast ▸ hi)
    | cons c bs =>
      have hwait : (l ++ [b.2]).length ≠ packetSize hwVersion := by
        simp at hlength ⊢
        omega
      rw [if_neg hwait] at hframed
      have hbyte : s.interruptOccurred G b.1 b.2 = s.store b.2 := by
        unfold interruptOccurred
        simp only [hframed]
      rw [hframed, hbyte]
      exact ih (by simp) hstore (by simp at hlength ⊢; omega) hfirst

/-- The packet passes the duplicate test. -/
theorem Resting.arrival {s : Touchpad} (h : Resting s) :
    ∃ buffer, arrival G endPacket s = some ⟨{ s with packetBuffer := buffer, packetByteCount := 0 }, false⟩ ∧
      isDuplicate { s with packetBuffer := buffer, packetByteCount := 0 } = true := by
  have hgathered : Gathered STD_ELAN_HW_V4 [] s :=
    ⟨by rw [h.count]; rfl, fun _ hi => absurd hi (Nat.not_lt_zero _), h.version, by rw [h.size]; rfl⟩
  obtain ⟨buffer, harrives, hbuffer⟩ := arrival_gathered (G := G) endPacket (by decide) hgathered (by decide) (by decide)
  refine ⟨buffer, harrives, ?_⟩
  have hbyte : ∀ i < 6, buffer i = packetOf [0x34, 0x00, 0x00, 0x10, 0x00, 0x00] i := hbuffer
  unfold isDuplicate
  simp only [h.fingers, h.button, hbyte 0 (by decide), hbyte 1 (by decide), hbyte 2 (by decide), hbyte 4 (by decide),
    hbyte 5 (by decide)]
  decide

/-- With a count behind it the packet is discarded, and the touchpad rests with one more. -/
theorem Resting.discarded {s : Touchpad} (h : Resting s) (hpositive : s.endPacketsCount ≠ 0)
    (hroom : s.endPacketsCount.toNat + 1 ≤ 255) :
    Resting (s.receiveBytes G endPacket) ∧ (s.receiveBytes G endPacket).endPacketsCount = s.endPacketsCount + 1 := by
  obtain ⟨buffer, harrives, hduplicate⟩ := h.arrival (G := G)
  obtain ⟨⟨w, hreceive⟩, -⟩ := arrival_receiveBytes endPacket s harrives
  have hdiscarded := (isDiscarded_iff hduplicate).2 ⟨hpositive, hroom⟩
  rw [receivePacket_discarded hdiscarded] at hreceive
  refine ⟨?_, arrival_ends harrives hduplicate⟩
  rw [hreceive]
  exact ⟨h.version, h.size, rfl, h.fingers, h.button⟩

/-- As many of them as are discarded, and one more. -/
theorem Resting.run {n : Nat} {s : Touchpad} (h : Resting s) (hpositive : s.endPacketsCount ≠ 0)
    (hroom : s.endPacketsCount.toNat + n = 255) :
    ∃ arrivals, EndPackets G s (List.replicate (n + 1) endPacket) arrivals ∧
      ∃ b ∈ arrivals, b.touchpad.isDiscarded = false := by
  induction n generalizing s with
  | zero =>
    obtain ⟨buffer, harrives, hduplicate⟩ := h.arrival (G := G)
    refine ⟨_, .cons harrives hduplicate (.nil _), _, List.mem_singleton_self _, ?_⟩
    have hfull : ¬s.endPacketsCount.toNat + 1 ≤ 255 := by omega
    exact Bool.eq_false_iff.2 fun hdiscarded => hfull ((isDiscarded_iff hduplicate).1 hdiscarded).2
  | succ n ih =>
    have hle : s.endPacketsCount.toNat + 1 ≤ 255 := by omega
    have hnext : (s.endPacketsCount + 1).toNat = s.endPacketsCount.toNat + 1 := by
      rw [UInt8.toNat_add]
      exact Nat.mod_eq_of_lt (by show s.endPacketsCount.toNat + 1 < 256; omega)
    obtain ⟨buffer, harrives, hduplicate⟩ := h.arrival (G := G)
    obtain ⟨hrests, hcount⟩ := h.discarded (G := G) hpositive hle
    have hpositive' : (s.receiveBytes G endPacket).endPacketsCount ≠ 0 := by
      intro hzero
      rw [hcount] at hzero
      rw [hzero] at hnext
      simp at hnext
    obtain ⟨arrivals, hrest, b, hb, hkept⟩ := ih hrests hpositive' (by rw [hcount, hnext]; omega)
    exact ⟨_, .cons harrives hduplicate hrest, b, List.mem_cons_of_mem _ hb, hkept⟩

theorem resting_statusStart : Resting statusStart := ⟨rfl, rfl, rfl, rfl, rfl⟩

/-- The first packet is processed, and leaves the touchpad at rest. -/
theorem resting_first : Resting (statusStart.receiveBytes .idle endPacket) ∧
    (statusStart.receiveBytes .idle endPacket).endPacketsCount = 1 := by
  refine ⟨⟨?_, ?_, ?_, ?_, ?_⟩, ?_⟩
  all_goals decide +kernel

/-- The second one is discarded. -/
theorem discarded_twice : ∃ a b : Arrival,
    EndPackets .idle statusStart [endPacket, endPacket] [a, b] ∧ b.touchpad.isDiscarded = true := by
  obtain ⟨buffer, harrives, hduplicate⟩ := resting_statusStart.arrival (G := .idle)
  obtain ⟨buffer', harrives', hduplicate'⟩ := resting_first.1.arrival (G := .idle)
  have hrun := EndPackets.cons harrives hduplicate (.cons harrives' hduplicate' (.nil _))
  have hcount : statusStart.endPacketsCount.toNat + 2 ≤ 255 := by decide
  have hall := (discarded_iff hrun).2 (.inr ⟨fun b hb => by rw [List.mem_singleton.1 hb], hcount⟩)
  exact ⟨_, _, hrun, hall _ (List.mem_singleton_self _)⟩

/-- The last of 256 duplicates is processed. -/
theorem duplicate_processed : ∃ a arrivals,
    EndPackets .idle statusStart (List.replicate 256 endPacket) (a :: arrivals) ∧
      ∃ b ∈ arrivals, b.touchpad.isDiscarded = false := by
  obtain ⟨buffer, harrives, hduplicate⟩ := resting_statusStart.arrival (G := .idle)
  obtain ⟨hrests, hcount⟩ := resting_first
  obtain ⟨arrivals, hrest, hkept⟩ := hrests.run (G := .idle) (n := 254) (by rw [hcount]; decide) (by rw [hcount]; decide)
  exact ⟨_, arrivals, .cons harrives hduplicate hrest, hkept⟩

end ApplePS2.Touchpad
