import ApplePS2.Touchpad.Interrupt

/- Well-formed packets keep their boundaries: every hardware version that is supported
   has constant bits by which the first byte is neither 0 nor the mark of a reset.

   1. `framed_gathered`: what the bytes of a packet received so far amount to.
   2. `framing_packet`: one packet is taken whole and handed on as it was sent, and nothing
      of it is left.
   3. `packets_framed`: so are all packets of a stream. -/
namespace ApplePS2.Touchpad

variable (G : Gestures)

/-! Streams of bytes, each with what the driver reads from outside at that time. -/

def receiveBytes (bs : List (TouchpadWorld × UInt8)) (s : Touchpad) : Touchpad :=
  bs.foldl (fun s b => s.interruptOccurred G b.1 b.2) s

/-- What becomes of each byte. -/
def outcomes : List (TouchpadWorld × UInt8) → Touchpad → List Framed
  | [], _ => []
  | b :: bs, s => (s.store b.2).framed :: outcomes bs (s.interruptOccurred G b.1 b.2)

/-- The state that `receivePacket` is handed, if the byte completes a packet. -/
def receipt (data : UInt8) (s : Touchpad) : Option Touchpad :=
  match (s.store data).framed with
  | .complete _ => some (s.store data).takeBytes
  | _ => none

/-- The states that `receivePacket` is handed, one after the other. -/
def receipts : List (TouchpadWorld × UInt8) → Touchpad → List Touchpad
  | [], _ => []
  | b :: bs, s => (s.receipt b.2).toList ++ receipts bs (s.interruptOccurred G b.1 b.2)

theorem interruptOccurred_receipt (w : TouchpadWorld) {data : UInt8} {s t : Touchpad} (h : s.receipt data = some t) :
    s.interruptOccurred G w data = t.receivePacket G w := by
  unfold receipt at h
  unfold interruptOccurred
  dsimp only
  split at h
  · next hframed =>
    obtain rfl := Option.some_inj.1 h
    rw [hframed]
  · cases h

theorem receiveBytes_append (bs cs : List (TouchpadWorld × UInt8)) (s : Touchpad) :
    s.receiveBytes G (bs ++ cs) = (s.receiveBytes G bs).receiveBytes G cs := List.foldl_append ..

theorem outcomes_append (bs cs : List (TouchpadWorld × UInt8)) (s : Touchpad) :
    s.outcomes G (bs ++ cs) = s.outcomes G bs ++ (s.receiveBytes G bs).outcomes G cs := by
  induction bs generalizing s with
  | nil => rfl
  | cons b bs ih => exact congrArg (_ :: ·) (ih _)

theorem receipts_append (bs cs : List (TouchpadWorld × UInt8)) (s : Touchpad) :
    s.receipts G (bs ++ cs) = s.receipts G bs ++ (s.receiveBytes G bs).receipts G cs := by
  induction bs generalizing s with
  | nil => rfl
  | cons b bs ih => exact (congrArg ((s.receipt b.2).toList ++ ·) (ih _)).trans (List.append_assoc ..).symm

/-- The packet that the buffer holds. -/
def packet (size : Nat) (s : Touchpad) : List UInt8 := packetBytes size s.packetBuffer

/-- The bytes are taken as these packets, `receivePacket` is handed each of them in its buffer,
and the count is that of the bytes since the last whole packet. -/
structure Framing (size : Nat) (bs : List (TouchpadWorld × UInt8)) (ps : List (List UInt8)) (s : Touchpad) :
    Prop where
  packets : (s.outcomes G bs).filter (· ≠ .waiting) = ps.map .complete
  handed : (s.receipts G bs).map (packet size) = ps
  counts : ∀ n ≤ bs.length, (s.receiveBytes G (bs.take n)).packetByteCount.toNat = n % size

/-! Packets. -/

def packetSize (hwVersion : UInt8) : Nat := if hwVersion = STD_MOUSE_HW then 3 else 6

/-- The constant bits of ELAN's version 2, whose touchpads report pressure or do not. -/
def isPacketV2 (p : Packet) : Bool :=
  p 0 &&& 0x0c = 0x04 && p 3 &&& 0x0f = 0x02 || p 0 &&& 0x0c = 0x0c && p 3 &&& 0x0e = 0x08 ||
    p 0 &&& 0x3c = 0x3c && p 1 &&& 0xf0 = 0x00 && p 3 &&& 0x3e = 0x38 && p 4 &&& 0xf0 = 0x00

/-- The constant bits of the packets of each hardware version, as the driver checks
them. ELAN's are those without CRC. -/
def hasConstantBits (hwVersion : UInt8) (p : Packet) : Bool :=
  if hwVersion = STD_MOUSE_HW then p 0 &&& 0x08 ≠ 0 && p 0 &&& 0xC0 = 0
  else if hwVersion = STD_SYNAPTICS_HW then isNewabsStrict p
  else if hwVersion = STD_FOCAL_TECH_HW then p 0 &&& 0xf ∈ [PACKET_FT_STATUS, PACKET_FT_ABSOLUTE, PACKET_FT_RELATIVE]
  else if hwVersion = STD_ELAN_HW_V2 then isPacketV2 p
  else if hwVersion = STD_ELAN_HW_V3 then isHeadV3 p || isTailV3 p
  else p 0 &&& 0x0c = 0x04 && p 3 &&& 0x1c = 0x10

def packetOf (bytes : List UInt8) : Packet := fun i => bytes.getD i 0

structure WellFormed (hwVersion : UInt8) (bytes : List UInt8) : Prop where
  size : bytes.length = packetSize hwVersion
  bits : hasConstantBits hwVersion (packetOf bytes) = true

/-- No byte of a packet has been received, and packets have the size that `start` sets. -/
structure Aligned (s : Touchpad) : Prop where
  count : s.packetByteCount = 0
  size : s.pktsize.toNat = packetSize s.hwVersion

theorem first_of_constantBits {hwVersion : UInt8} {p : Packet} (h : hasConstantBits hwVersion p = true) :
    p 0 ≠ 0 ∧ p 0 ≠ kSC_Reset := by
  have hbits : ∀ b : UInt8, b &&& 0x08 ≠ 0 ∧ b &&& 0xC0 = 0 ∨ b &&& 0xC8 = 0x80 ∨
      b &&& 0xf ∈ [PACKET_FT_STATUS, PACKET_FT_ABSOLUTE, PACKET_FT_RELATIVE] ∨
      b &&& 0x0c = 0x04 ∨ b &&& 0x0c = 0x0c ∨ b &&& 0x3c = 0x3c → b ≠ 0 ∧ b ≠ kSC_Reset := by decide +kernel
  apply hbits
  unfold hasConstantBits isNewabsStrict isPacketV2 isHeadV3 isTailV3 at h
  repeat' split at h
  all_goals simp only [Bool.and_eq_true, Bool.or_eq_true, decide_eq_true_eq] at h
  · exact .inl h
  · exact .inr (.inl h.1)
  · exact .inr (.inr (.inl h))
  · obtain (h | h) | h := h
    · exact .inr (.inr (.inr (.inl h.1)))
    · exact .inr (.inr (.inr (.inr (.inl h.1))))
    · exact .inr (.inr (.inr (.inr (.inr h.1.1.1))))
  · obtain h | h := h
    · exact .inr (.inr (.inr (.inl h.1)))
    · exact .inr (.inr (.inr (.inr (.inl h.1))))
  · exact .inr (.inr (.inr (.inl h.1)))

/-- A packet of ELAN's version 4 is not one whose first byte is missing. -/
theorem not_isShifted {p : Packet} (h : hasConstantBits STD_ELAN_HW_V4 p = true) : isShifted p = false := by
  have hthird : p 3 ≠ 0 := by
    intro h3
    have hv4 : (p 0 &&& 0x0c = 0x04 && p 3 &&& 0x1c = 0x10) = true := h
    rw [h3] at hv4
    simp at hv4
  simp [isShifted, hthird]

/-! One packet. -/

/-- These bytes of a packet have been received. -/
structure Gathered (hwVersion : UInt8) (l : List UInt8) (s : Touchpad) : Prop where
  count : s.packetByteCount.toNat = l.length
  buffer : ∀ i < l.length, s.packetBuffer i = packetOf l i
  version : s.hwVersion = hwVersion
  size : s.pktsize.toNat = packetSize hwVersion

variable {G} {w : TouchpadWorld} {hwVersion : UInt8} {l : List UInt8}

theorem Aligned.gathered {s : Touchpad} (h : Aligned s) : Gathered s.hwVersion [] s :=
  ⟨by rw [h.count]; rfl, fun _ hi => absurd hi (Nat.not_lt_zero _), rfl, h.size⟩

theorem packetSize_le (hwVersion : UInt8) : packetSize hwVersion ≤ 6 := by
  unfold packetSize
  split <;> omega

theorem packetSize_pos (hwVersion : UInt8) : 0 < packetSize hwVersion := by
  unfold packetSize
  split <;> omega

theorem Gathered.store {s : Touchpad} (h : Gathered hwVersion l s) (hl : l.length < packetSize hwVersion)
    (data : UInt8) : Gathered hwVersion (l ++ [data]) (s.store data) := by
  have hle := packetSize_le hwVersion
  refine ⟨?_, ?_, h.version, h.size⟩
  · show (s.packetByteCount + 1).toNat = (l ++ [data]).length
    rw [UInt8.toNat_add, h.count, List.length_append]
    exact Nat.mod_eq_of_lt (by show l.length + 1 < 256; omega)
  · intro i hi
    show Function.update s.packetBuffer s.packetByteCount.toNat data i = packetOf (l ++ [data]) i
    rw [h.count]
    by_cases hlast : i = l.length
    · simp [hlast, packetOf]
    · have hi : i < l.length := by simp at hi; omega
      rw [Function.update_of_ne hlast, h.buffer i hi]
      simp [packetOf, List.getElem?_append_left hi]

theorem Gathered.isNoStart {s : Touchpad} (h : Gathered hwVersion l s) (hl : 0 < l.length)
    (hfirst : packetOf l 0 ≠ 0 ∧ packetOf l 0 ≠ kSC_Reset) : s.isNoStart = false := by
  rw [← h.buffer 0 hl] at hfirst
  simp [Touchpad.isNoStart, hfirst.1, hfirst.2]

theorem Gathered.packetBytes {s : Touchpad} (h : Gathered hwVersion l s) :
    packetBytes l.length s.packetBuffer = l := by
  apply List.ext_getElem
  · simp [ApplePS2.packetBytes]
  · intro i hi hi'
    simp [ApplePS2.packetBytes, h.buffer i hi', packetOf, hi']

/-- A packet is complete as soon as all of its bytes have been received. -/
theorem framed_gathered {s : Touchpad} (h : Gathered hwVersion l s) (hl : 0 < l.length)
    (hfirst : packetOf l 0 ≠ 0 ∧ packetOf l 0 ≠ kSC_Reset) :
    s.framed = if l.length = packetSize hwVersion then .complete l else .waiting := by
  have hcount : s.packetByteCount = s.pktsize ↔ l.length = packetSize hwVersion := by
    rw [← UInt8.toNat_inj, h.count, h.size]
  unfold framed
  rw [h.isNoStart hl hfirst, if_neg (by decide)]
  by_cases hsize : l.length = packetSize hwVersion
  · rw [if_pos hsize, if_pos (hcount.2 hsize), h.size, ← hsize, h.packetBytes]
  · rw [if_neg hsize, if_neg (mt hcount.1 hsize)]

theorem Linked.gathered {s t : Touchpad} (h : Linked s t) (hs : Gathered hwVersion [] s) :
    Gathered hwVersion [] t := by
  have hlink := h.link
  refine ⟨?_, fun _ hi => absurd hi (Nat.not_lt_zero _), ?_, ?_⟩
  · rw [← hs.count]
    exact congrArg (fun c : Link => c.packetByteCount.toNat) hlink
  · rw [← hs.version]
    exact congrArg Link.hwVersion hlink
  · rw [← hs.size]
    exact congrArg (fun c : Link => c.pktsize.toNat) hlink

theorem Detected.gathered {s t : Touchpad} (h : Detected w s t) (hs : Gathered hwVersion [] s) :
    Gathered hwVersion [] t := by
  refine ⟨?_, fun _ hi => absurd hi (Nat.not_lt_zero _), ?_, ?_⟩
  · show t.rest.packetByteCount.toNat = 0
    rw [h.rest]
    exact hs.count
  · show t.rest.hwVersion = hwVersion
    rw [h.rest]
    exact hs.version
  · show t.rest.pktsize.toNat = packetSize hwVersion
    rw [h.rest]
    exact hs.size

/-- A reconnection leaves no byte of a packet behind. -/
theorem gathered_Reconnect_touchpad {s : Touchpad} (hs : Gathered hwVersion [] s) :
    Gathered hwVersion [] (s.Reconnect_touchpad w).2 := by
  obtain h | h := detected_Reconnect_touchpad (w := w) s
  · exact h.gathered hs
  · exact h.gathered ⟨rfl, fun _ hi => absurd hi (Nat.not_lt_zero _), hs.version, hs.size⟩

theorem gathered_reconnectTry {s : Touchpad} (hs : Gathered hwVersion [] s) :
    Gathered hwVersion [] (s.reconnectTry w) := by
  unfold reconnectTry
  split
  · exact gathered_Reconnect_touchpad ⟨hs.count, hs.buffer, hs.version, hs.size⟩
  · exact hs

/-- Whatever a packet is taken for, no byte of it is carried into the next one, unless it is realigned. -/
theorem Gathered.receivePacket {s : Touchpad} (hs : Gathered hwVersion [] s)
    (hshift : hwVersion = STD_ELAN_HW_V4 → isShifted s.packetBuffer = false) :
    Gathered hwVersion [] (s.receivePacket G w) := by
  have hpassed := passed_receivePacket (G := G) (w := w) s
  generalize s.receivePacket G w = t at hpassed ⊢
  cases hpassed with
  | linked hlinked => exact hlinked.gathered hs
  | reconnect hlinked => exact gathered_reconnectTry (hlinked.gathered hs)
  | realigned hversion hshifted hlinked =>
    rw [hshift (hs.version.symm.trans hversion)] at hshifted
    cases hshifted

theorem gathered_receivePacket {s : Touchpad} (h : Gathered hwVersion l s) (hp : WellFormed hwVersion l) :
    Gathered hwVersion [] (s.takeBytes.receivePacket G w) := by
  have htaken : Gathered hwVersion [] s.takeBytes :=
    ⟨rfl, fun _ hi => absurd hi (Nat.not_lt_zero _), h.version, h.size⟩
  apply htaken.receivePacket
  intro hv4
  have hsize : l.length = 6 := by rw [hp.size, hv4]; rfl
  have hsame : isShifted (packetOf l) = isShifted s.packetBuffer := by
    simp [isShifted, h.buffer, hsize]
  exact hsame.symm.trans (not_isShifted (hv4 ▸ hp.bits))

theorem receipt_waiting {s : Touchpad} {data : UInt8} (h : (s.store data).framed = .waiting) : s.receipt data = none := by
  rw [receipt, h]

theorem receipt_complete {s : Touchpad} {data : UInt8} {bytes : List UInt8} (h : (s.store data).framed = .complete bytes) :
    s.receipt data = some (s.store data).takeBytes := by
  rw [receipt, h]

/-- The rest of a packet completes it, and no byte before its last does. -/
theorem framing_packet (bs : List (TouchpadWorld × UInt8)) (hbs : bs ≠ []) (l : List UInt8) (s : Touchpad)
    (h : Gathered hwVersion l s) (hp : WellFormed hwVersion (l ++ bs.map Prod.snd)) :
    (s.outcomes G bs).filter (· ≠ .waiting) = [.complete (l ++ bs.map Prod.snd)] ∧
      (s.receipts G bs).map (packet (packetSize hwVersion)) = [l ++ bs.map Prod.snd] ∧
      (∀ n < bs.length, (s.receiveBytes G (bs.take n)).packetByteCount.toNat = l.length + n) ∧
      Gathered hwVersion [] (s.receiveBytes G bs) := by
  induction bs generalizing l s with
  | nil => exact absurd rfl hbs
  | cons b bs ih =>
    have hsize : l.length + (bs.length + 1) = packetSize hwVersion := by simpa using hp.size
    have hstore := h.store (by omega) b.2
    have hfirst := first_of_constantBits hp.bits
    have hhead : packetOf (l ++ List.map Prod.snd (b :: bs)) 0 = packetOf (l ++ [b.2]) 0 := by
      cases l <;> rfl
    rw [hhead] at hfirst
    have hframed := framed_gathered hstore (by simp) hfirst
    have hnone : (s.receiveBytes G ((b :: bs).take 0)).packetByteCount.toNat = l.length + 0 := h.count
    cases bs with
    | nil =>
      -- the last byte completes the packet
      have hlast : (l ++ [b.2]).length = packetSize hwVersion := by simpa using hsize
      rw [if_pos hlast] at hframed
      have hreceipt := receipt_complete hframed
      have hgather : Gathered hwVersion [] (s.interruptOccurred G b.1 b.2) := by
        rw [interruptOccurred_receipt G b.1 hreceipt]
        exact gathered_receivePacket hstore hp
      have hbuffer : packet (packetSize hwVersion) (s.store b.2).takeBytes = l ++ [b.2] := hlast ▸ hstore.packetBytes
      refine ⟨by simp [outcomes, hframed], by simp [receipts, hreceipt, hbuffer], fun n hn => ?_, hgather⟩
      have hn : n = 0 := Nat.lt_one_iff.1 hn
      rw [hn]
      exact hnone
    | cons c cs =>
      -- any other byte is stored, and the rest follows by induction
      have hwait : (l ++ [b.2]).length ≠ packetSize hwVersion := by
        simp at hsize ⊢
        omega
      rw [if_neg hwait] at hframed
      have hbyte : s.interruptOccurred G b.1 b.2 = s.store b.2 := by
        unfold interruptOccurred
        simp only [hframed]
      have hmap : l ++ List.map Prod.snd (b :: c :: cs) = (l ++ [b.2]) ++ List.map Prod.snd (c :: cs) := by simp
      rw [hmap] at hp ⊢
      obtain ⟨houtcomes, hhanded, hcounts, hgather⟩ := ih (by simp) _ _ hstore hp
      refine ⟨?_, ?_, fun n hn => ?_, ?_⟩
      · show List.filter _ ((s.store b.2).framed :: outcomes G (c :: cs) (s.interruptOccurred G b.1 b.2)) = _
        rw [hbyte, hframed]
        exact houtcomes
      · show List.map _ ((s.receipt b.2).toList ++ receipts G (c :: cs) (s.interruptOccurred G b.1 b.2)) = _
        rw [hbyte, receipt_waiting hframed]
        exact hhanded
      · cases n with
        | zero => exact hnone
        | succ n =>
          have hrest := hcounts n (Nat.lt_of_succ_lt_succ hn)
          show (receiveBytes G ((c :: cs).take n) (s.interruptOccurred G b.1 b.2)).packetByteCount.toNat = _
          rw [hbyte, hrest, List.length_append]
          show l.length + 1 + n = l.length + (n + 1)
          omega
      · show Gathered hwVersion [] (receiveBytes G (c :: cs) (s.interruptOccurred G b.1 b.2))
        rw [hbyte]
        exact hgather

/-! Streams. -/

theorem Gathered.aligned {s : Touchpad} (h : Gathered hwVersion [] s) : Aligned s :=
  ⟨UInt8.toNat_inj.1 h.count, by rw [h.version, h.size]⟩

theorem framing_append {size : Nat} {bs cs : List (TouchpadWorld × UInt8)} {p : List UInt8}
    {ps : List (List UInt8)} {s : Touchpad} (hsize : bs.length = size)
    (houtcomes : (s.outcomes G bs).filter (· ≠ .waiting) = [.complete p])
    (hhanded : (s.receipts G bs).map (packet size) = [p])
    (hcounts : ∀ n < bs.length, (s.receiveBytes G (bs.take n)).packetByteCount.toNat = n)
    (h : Framing G size cs ps (s.receiveBytes G bs)) : Framing G size (bs ++ cs) (p :: ps) s := by
  refine ⟨?_, ?_, fun n hn => ?_⟩
  · rw [outcomes_append, List.filter_append, houtcomes, h.packets]
    rfl
  · rw [receipts_append, List.map_append, hhanded, h.handed]
    rfl
  · rw [List.length_append] at hn
    rw [List.take_append, receiveBytes_append]
    by_cases hlt : n < bs.length
    · have hnone : n - bs.length = 0 := by omega
      rw [hnone]
      exact (hcounts n hlt).trans (Nat.mod_eq_of_lt (hsize ▸ hlt)).symm
    · have hrest := h.counts (n - bs.length) (by omega)
      have hall : bs.take n = bs := List.take_of_length_le (by omega)
      rw [hall, hrest, hsize]
      have hsplit : n = n - size + size := by omega
      conv_rhs => rw [hsplit, Nat.add_mod_right]

/-- A stream of well-formed packets is framed as it was sent. -/
theorem packets_framed (G : Gestures) (s : Touchpad) (hs : Aligned s) (ps : List (List UInt8))
    (hps : ∀ p ∈ ps, WellFormed s.hwVersion p) (bs : List (TouchpadWorld × UInt8))
    (hbs : bs.map Prod.snd = ps.flatten) : Framing G (packetSize s.hwVersion) bs ps s := by
  induction ps generalizing s bs with
  | nil =>
    have hbs : bs = [] := List.map_eq_nil_iff.1 hbs
    rw [hbs]
    refine ⟨rfl, rfl, fun n hn => ?_⟩
    rw [Nat.le_zero.1 hn, Nat.zero_mod]
    exact congrArg UInt8.toNat hs.count
  | cons p ps ih =>
    obtain ⟨cs, ds, rfl, rfl, hrest⟩ := List.map_eq_append_iff.1 hbs
    have hp := hps _ (List.mem_cons_self ..)
    have hlength : cs.length = packetSize s.hwVersion := by simpa using hp.size
    have hpos := packetSize_pos s.hwVersion
    have hnonempty : cs ≠ [] := by
      rintro rfl
      simp at hlength
      omega
    obtain ⟨houtcomes, hhanded, hcounts, hgather⟩ := framing_packet (G := G) cs hnonempty [] s hs.gathered hp
    rw [← hgather.version]
    rw [← hgather.version] at hlength hhanded
    refine framing_append hlength houtcomes hhanded (fun n hn => (hcounts n hn).trans (Nat.zero_add n)) ?_
    apply ih _ hgather.aligned
    · intro p hp
      rw [hgather.version]
      exact hps p (List.mem_cons_of_mem _ hp)
    · exact hrest

/-- ELAN's version 4 reports that the first finger has touched. -/
def touchPacketV4 : List UInt8 := [0x34, 0x02, 0x00, 0x10, 0x00, 0x00]

/-- Two packets of ELAN's version 4, the first after `init` and the setup. -/
theorem packets_framed_touch :
    Framing Gestures.idle (packetSize STD_ELAN_HW_V4) ((touchPacketV4 ++ touchPacketV4).map (TouchpadWorld.silent, ·))
      [touchPacketV4, touchPacketV4] { init with hwVersion := STD_ELAN_HW_V4, pktsize := 6 } := by
  apply packets_framed .idle { init with hwVersion := STD_ELAN_HW_V4, pktsize := 6 } ⟨rfl, rfl⟩
  · intro p hp
    obtain rfl | hp := List.mem_cons.1 hp
    · exact ⟨rfl, by decide⟩
    · obtain rfl := List.mem_singleton.1 hp
      exact ⟨rfl, by decide⟩
  · rfl

end ApplePS2.Touchpad
