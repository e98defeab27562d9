import ApplePS2.Touchpad.AbsolutePackets
import ApplePS2.Touchpad.SynapticsPackets

/- The interrupt handler of the touchpad (`interruptOccurred`): bytes are gathered into
   packets, and complete packets are passed on by hardware version.

   1. `passed_receivePacket`: what the handling of a packet leaves alone. -/
namespace ApplePS2

def PACKET_FT_STATUS : UInt8 := 0x03
def PACKET_FT_ABSOLUTE : UInt8 := 0x06
def PACKET_FT_RELATIVE : UInt8 := 0x09
def PACKET_UNKNOWN : UInt8 := 255

def SYN_NEWABS : UInt8 := 0
def SYN_NEWABS_STRICT : UInt8 := 1
def SYN_NEWABS_RELAXED : UInt8 := 2

def elan_debounce_packet_v2 : List UInt8 := [0x84, 0xff, 0xff, 0x02, 0xff, 0xff]
def elan_debounce_packet_v3 : List UInt8 := [0xc4, 0xff, 0xff, 0x02, 0xff, 0xff]
def elan_debounce_packet_v3_2 : List UInt8 := [0xcc, 0xff, 0xff, 0x0a, 0xff, 0xff]
def elan_end_packet_v3 : List UInt8 := [0x04, 0x00, 0x00, 0x02, 0x00, 0x00]

def packetBytes (n : Nat) (p : Packet) : List UInt8 := (List.range n).map p

namespace Touchpad

variable (G : Gestures) (w : TouchpadWorld)

/-! External mice, Fn keys and the lid. -/

def detectExternalMouse (s : Touchpad) : Touchpad :=
  { s with
    polling.externalMouseFound :=
      if w.mouseCount = 0 then s.polling.externalMouseFound else UInt8.ofNat w.mouseCount > 1
    polling.lastExtMouseStatusCheckTime := w.uptime 3 }

def pollFnKeys (s : Touchpad) : Touchpad :=
  match w.fnKeysEntry with
  | none => { s with polling.isAsusNotebook := false }
  | some disabled =>
    let s := { s with polling.isFnKeyDisabledTouchpad := disabled.getD s.polling.isFnKeyDisabledTouchpad }
    s.when s.polling.isFnKeyDisabledTouchpad fun s => s.StopScrollEnhanceTimer.StopPointerEnhanceTimer

/-- `_LID` is 0 when the lid is closed; it is looked at when it equals `_lidClosed`. -/
def pollLid (s : Touchpad) : Touchpad :=
  match w.lid with
  | none => s
  | some none => { s with polling.enableLidPolling := false }
  | some (some res) =>
    s.when (res = if s.polling.lidClosed then 1 else 0) fun s => { s with polling.lidClosed := res = 0 }

def Process_ACPI_IOREG_Polling (s : Touchpad) : Touchpad :=
  let s := (s.when s.polling.isAsusNotebook (pollFnKeys w)).when s.polling.enableLidPolling (pollLid w)
  { s with polling.lastFnKeyStateChkTime := w.uptime 4 }

def pollMouse (s : Touchpad) : Touchpad :=
  s.when (s.polling.usbMouseDisablesTrackpad &&
      w.uptime 0 - s.polling.lastExtMouseStatusCheckTime > s.polling.extMouseCheckPollRate)
    (detectExternalMouse w)

def polls (s : Touchpad) : Bool := s.polling.isAsusNotebook || s.polling.enableLidPolling

def pollACPI (s : Touchpad) : Touchpad :=
  s.when (s.polls && w.uptime 0 - s.polling.lastFnKeyStateChkTime > s.polling.acpiPollRate)
    (Process_ACPI_IOREG_Polling w)

/-- "Touchpad enabled back after timeout for Accidental input" -/
def accidentalTimeout (s : Touchpad) : Touchpad :=
  s.when (s.isTypeModeEnabled && s.kbEvent.accidentalInput &&
      w.uptime 0 - s.kbEvent.lastKeyPressTime > s.kbEvent.accInputTimeOut &&
      (s.kbEvent.accInputTimeOut > 0 || !s.kbEvent.tapEnableTPad))
    fun s => { s with kbEvent.accidentalInput := false, kbEvent.kbKeysCount := 0 }

/-! Packets by hardware version. -/

/-- "try to reconnect the touchpad again" -/
def reconnectTry (s : Touchpad) : Touchpad :=
  if s.modeSetTries > 0 then ({ s with modeSetTries := s.modeSetTries - 1 }.Reconnect_touchpad w).2 else s

/-- "Trigger keyboard backlight on event" -/
def triggerBackLight (s : Touchpad) : Touchpad :=
  s.when (s.kbLight.hasAsusKBackLight && s.kbLight.hasKBLightAutoOff)
    (receiveKeyboardNotifications w .kPS2C_KeybrdBackLightOn)

/-- `Synaptics_validate_byte` with `SYN_NEWABS_STRICT` -/
def isNewabsStrict (p : Packet) : Bool := p 0 &&& 0xC8 = 0x80 && p 3 &&& 0xC8 = 0xC0

def setPktType (p : Packet) (s : Touchpad) : Touchpad :=
  s.when (s.synTPad.pkt_type = SYN_NEWABS) fun s =>
    { s with synTPad.pkt_type := if isNewabsStrict p then SYN_NEWABS_STRICT else SYN_NEWABS_RELAXED }

def packetFocalTech (p : Packet) (s : Touchpad) : Touchpad :=
  let s := s.triggerBackLight w
  let packet_type := p 0 &&& 0xf
  if packet_type = PACKET_FT_STATUS then s.Process_absolute_events_ELANv4AndFocalTech G w PACKET_STATUS p
  else if packet_type = PACKET_FT_ABSOLUTE then s.Process_absolute_events_ELANv4AndFocalTech G w PACKET_ABSOLUTE p
  else if packet_type = PACKET_FT_RELATIVE then s.Process_absolute_events_ELANv4AndFocalTech G w PACKET_RELATIVE p
  else s.reconnectTry w

def parityV1 (p : Packet) (s : Touchpad) : Bool :=
  let old := s.elanTPad.fw_version < 0x020000
  let p1 := if old then (p 0 &&& 0x20) >>> 5 else (p 0 &&& 0x10) >>> 4
  let p2 := if old then (p 0 &&& 0x10) >>> 4 else (p 0 &&& 0x20) >>> 5
  let p3 := (p 0 &&& 0x04) >>> 2
  s.elanTPad.parityBit (p 1) = p1 && s.elanTPad.parityBit (p 2) = p2 && s.elanTPad.parityBit (p 3) = p3

def packetV1 (p : Packet) (s : Touchpad) : Touchpad :=
  if s.elanTPad.paritycheck && !s.parityV1 p then s else s.Process_absolute_events_ELANv1 p

/-- Invalid packets are noticed, and processed nevertheless. -/
def packetV2 (p : Packet) (s : Touchpad) : Touchpad :=
  if packetBytes 6 p = elan_debounce_packet_v2 then s
  else (s.triggerBackLight w).Process_absolute_events_ELANv2v3 G w 0 p

def isHeadV3 (p : Packet) : Bool := p 0 &&& 0x0c = 0x04 && p 3 &&& 0xcf = 0x02
def isTailV3 (p : Packet) : Bool := p 0 &&& 0x0c = 0x0c && p 3 &&& 0xce = 0x0c

def packetTypeV3 (p : Packet) (s : Touchpad) : UInt8 :=
  if s.elanTPad.crcEnabled then
    if p 3 &&& 0x09 = 0x09 then PACKET_TAIL else if p 3 &&& 0x09 = 0x08 then PACKET_HEAD else PACKET_UNKNOWN
  else if p 3 &&& 0x0f = 0x06 then PACKET_TRACKPOINT
  else if isTailV3 p then PACKET_TAIL
  else if isHeadV3 p then PACKET_HEAD
  else PACKET_UNKNOWN

def packetV3 (p : Packet) (s : Touchpad) : Touchpad :=
  if packetBytes 6 p ∈ [elan_end_packet_v3, elan_debounce_packet_v3, elan_debounce_packet_v3_2] then s
  else
    let packet_type := s.packetTypeV3 p
    let s := s.triggerBackLight w
    if packet_type ≠ PACKET_UNKNOWN || s.elanTPad.crcEnabled then
      s.Process_absolute_events_ELANv2v3 G w packet_type p
    else s.reconnectTry w

def packetTypeV4 (p : Packet) (s : Touchpad) : UInt8 :=
  if s.elanTPad.supportsTrackPoint && p 3 &&& 0x0f = 0x06 then PACKET_TRACKPOINT else p 3 &&& 0x03

def checkSanity (p : Packet) (s : Touchpad) : Touchpad :=
  { s with elanTPad.sanityCheck :=
      if s.elanTPad.crcEnabled then p 3 &&& 0x08 = 0x00 else p 0 &&& 0x0c = 0x04 && p 3 &&& 0x1c = 0x10 }

/-- A status packet that starts with 0 although it holds something. -/
def isBadStatus (packet_type : UInt8) (p : Packet) : Bool :=
  packet_type = 0x00 && p 0 = 0x00 && (p 1 ≠ 0x00 || p 3 ≠ 0x00 || p 2 ≠ 0x00 || p 4 ≠ 0x00 || p 5 ≠ 0x00)

/-- `xx 00 10 00 00 xx`: the first byte is missing, and the last one belongs to the next packet. -/
def isShifted (p : Packet) : Bool := p 0 ≠ 0x00 && p 1 = 0x00 && p 2 = 0x10 && p 3 = 0x00 && p 4 = 0x00

/-- `34 xx 00 10 00 00` -/
def unshift (p : Packet) : Packet := fun i =>
  if i = 0 then 0x34 else if i = 1 then p 0 else if i = 3 then p 2 else if i = 4 then p 4 else 0x00

/-- "Increment by 1 as the packet stream is going to have 0x00 at byte 0" -/
def shiftBack (s : Touchpad) : Touchpad :=
  { s with packetBuffer := unshift s.packetBuffer, packetByteCount := s.packetByteCount + 1 }

def realign (s : Touchpad) : Touchpad := s.when (isShifted s.packetBuffer) shiftBack

def packetV4 (s : Touchpad) : Touchpad :=
  let p := s.packetBuffer
  let packet_type := s.packetTypeV4 p
  let s := s.checkSanity p
  if !s.elanTPad.sanityCheck then s.reconnectTry w
  else if isBadStatus packet_type p then s
  else
    let s := s.triggerBackLight w
    if packet_type = PACKET_STATUS then
      let s := s.realign
      s.Process_absolute_events_ELANv4AndFocalTech G w packet_type s.packetBuffer
    else if packet_type = PACKET_ABSOLUTE || packet_type = PACKET_RELATIVE then
      s.Process_absolute_events_ELANv4AndFocalTech G w packet_type p
    else if packet_type = PACKET_TRACKPOINT then
      if s.button.disbleTrackPoint then s else s.Process_trackpoint_events_ELAN G w p
    else s.reconnectTry w

/-- "Process packet" -/
def processPacket (s : Touchpad) : Touchpad :=
  let p := s.packetBuffer
  if s.hwVersion = STD_MOUSE_HW then s.gesture G w (.processMousePacket p)
  else if s.hwVersion = STD_SYNAPTICS_HW then (s.setPktType p).Synaptics_report_absolute G w p
  else if s.hwVersion = STD_FOCAL_TECH_HW then s.packetFocalTech G w p
  else if s.hwVersion = STD_ELAN_HW_V1 then s.packetV1 p
  else if s.hwVersion = STD_ELAN_HW_V2 then s.packetV2 G w p
  else if s.hwVersion = STD_ELAN_HW_V3 then s.packetV3 G w p
  else if s.hwVersion = STD_ELAN_HW_V4 then s.packetV4 G w
  else s

/-! Complete packets. -/

/-- "Look for duplicate packets sometimes received at the end of the stream" -/
def isDuplicate (s : Touchpad) : Bool :=
  let p := s.packetBuffer
  s.cFingers = 0 && p 0 &&& 0x03 = 0 && s.button.data = 0 && p 1 = 0 && p 2 = 0 && p 4 = 0 && p 5 = 0

def countDuplicate (s : Touchpad) : Touchpad :=
  { s with endPacketsCount := if s.isDuplicate then s.endPacketsCount + 1 else 0 }

def isMouseFound (s : Touchpad) : Bool := s.polling.usbMouseDisablesTrackpad && s.polling.externalMouseFound

/-- "Stop if touchpad is disabled (or) its an accidental input." -/
def isDisabled (s : Touchpad) : Bool :=
  s.kbEvent.accidentalInput && !s.kbEvent.tapEnableTPad || s.kbEvent.disableTouchpad

def passPacket (s : Touchpad) : Touchpad :=
  let s := s.accidentalTimeout w
  if s.isDisabled then s else s.processPacket G w

def receivePacket (s : Touchpad) : Touchpad :=
  let s := s.countDuplicate
  -- Duplicate end packet discarded
  if s.endPacketsCount > 1 then s
  else
    let s := s.pollMouse w
    if s.isMouseFound then s
    else
      let polls := s.polls
      let s := s.pollACPI w
      if polls && (s.polling.isFnKeyDisabledTouchpad || s.polling.lidClosed) then s else s.passPacket G w

/-! Bytes. -/

/-- What becomes of a byte. -/
inductive Framed where
  | waiting
  | reset
  | invalid
  | complete (bytes : List UInt8)
  deriving DecidableEq, Repr

/-- "Add this byte to the packet buffer." -/
def store (data : UInt8) (s : Touchpad) : Touchpad :=
  { s with
    packetBuffer := Function.update s.packetBuffer s.packetByteCount.toNat data
    packetByteCount := s.packetByteCount + 1 }

/-- Not a valid start of a packet stream, or the mark of a reset. -/
def isNoStart (s : Touchpad) : Bool :=
  s.packetByteCount = 1 && s.packetBuffer 0 = 0x00 && s.packetsCount = 0 && s.cFingers = 0 ||
    s.packetByteCount = 2 && s.packetBuffer 0 = kSC_Reset && s.packetBuffer 1 = 0x00

def framed (s : Touchpad) : Framed :=
  if s.isNoStart then
    -- crc enabled packets have 0x00 in first byte sometimes
    if s.packetByteCount = 1 && s.touchpadVendor = .STD_ELAN_TECH && s.elanTPad.crcEnabled then .waiting
    else if s.packetBuffer 0 = kSC_Reset then .reset
    else .invalid
  else if s.packetByteCount = s.pktsize then .complete (packetBytes s.pktsize.toNat s.packetBuffer)
  else .waiting

def dropBytes (s : Touchpad) : Touchpad := { s with packetByteCount := 0, endPacketsCount := 0 }

def takeBytes (s : Touchpad) : Touchpad := { s with packetByteCount := 0 }

def interruptOccurred (data : UInt8) (s : Touchpad) : Touchpad :=
  let s := s.store data
  match s.framed with
  | .waiting => s
  | .reset => (s.Reconnect_touchpad w).2.dropBytes
  | .invalid => s.dropBytes
  | .complete _ => s.takeBytes.receivePacket G w

/-! What the handling of a packet does to what frames packets. -/

variable {G w}

/-- Nothing; or a reconnection is tried at the end; or a shifted packet of ELAN's
version 4 is realigned. -/
inductive Passed (w : TouchpadWorld) (s : Touchpad) : Touchpad → Prop
  | linked {t} (h : Linked s t) : Passed w s t
  | reconnect {t} (h : Linked s t) : Passed w s (t.reconnectTry w)
  | realigned {t} (hversion : s.hwVersion = STD_ELAN_HW_V4) (hshifted : isShifted s.packetBuffer = true)
      (h : Linked s.shiftBack t) : Passed w s t

theorem Linked.shiftBack {s t : Touchpad} (h : Linked s t) : Linked s.shiftBack t.shiftBack :=
  ⟨congrArg (fun c : Link =>
    { c with packetBuffer := unshift c.packetBuffer, packetByteCount := c.packetByteCount + 1 }) h.link, h.log⟩

theorem Linked.passed {s t u : Touchpad} (h : Linked s t) (hpassed : Passed w t u) : Passed w s u := by
  have hversion : t.hwVersion = s.hwVersion := congrArg Link.hwVersion h.link
  have hbuffer : t.packetBuffer = s.packetBuffer := congrArg Link.packetBuffer h.link
  cases hpassed with
  | linked h' => exact .linked (h.trans h')
  | reconnect h' => exact .reconnect (h.trans h')
  | realigned hv hshifted h' =>
    rw [hversion] at hv
    rw [hbuffer] at hshifted
    exact .realigned hv hshifted (h.shiftBack.trans h')

theorem handled_triggerBackLight (s : Touchpad) : Handled s (s.triggerBackLight w) :=
  .when _ (handled_backLightOn _ s)

theorem linked_triggerBackLight (s : Touchpad) : Linked s (s.triggerBackLight w) := (handled_triggerBackLight s).linked

theorem passed_packetFocalTech (p : Packet) (s : Touchpad) : Passed w s (s.packetFocalTech G w p) := by
  have hlight := linked_triggerBackLight (w := w) s
  unfold packetFocalTech
  dsimp only
  repeat' split
  · exact .linked (hlight.trans (linked_absolute_events _ p _))
  · exact .linked (hlight.trans (linked_absolute_events _ p _))
  · exact .linked (hlight.trans (linked_absolute_events _ p _))
  · exact .reconnect hlight

theorem passed_packetV3 (p : Packet) (s : Touchpad) : Passed w s (s.packetV3 G w p) := by
  have hlight := linked_triggerBackLight (w := w) s
  unfold packetV3
  dsimp only
  repeat' split
  · exact .linked (.refl s)
  · exact .linked (hlight.trans (linked_ELANv2v3 _ p _))
  · exact .reconnect hlight

theorem passed_realign {s t : Touchpad} (hversion : s.hwVersion = STD_ELAN_HW_V4) (h : Linked s.realign t) :
    Passed w s t := by
  unfold realign when at h
  split at h
  · next hshifted => exact .realigned hversion hshifted h
  · exact .linked h

theorem passed_packetV4 {s : Touchpad} (hversion : s.hwVersion = STD_ELAN_HW_V4) :
    Passed w s (s.packetV4 G w) := by
  have hsanity : Linked s (s.checkSanity s.packetBuffer) := .same rfl rfl
  have hlight := hsanity.trans (linked_triggerBackLight (w := w) _)
  have hkept : ((s.checkSanity s.packetBuffer).triggerBackLight w).hwVersion = STD_ELAN_HW_V4 :=
    (congrArg Link.hwVersion hlight.link).trans hversion
  unfold packetV4
  dsimp only
  repeat' split
  · exact .reconnect hsanity
  · exact .linked hsanity
  · exact hlight.passed (passed_realign hkept (linked_absolute_events _ _ _))
  · exact .linked (hlight.trans (linked_absolute_events _ _ _))
  · exact .linked hlight
  · exact .linked (hlight.trans (linked_trackpoint _ _))
  · exact .reconnect hlight

theorem passed_processPacket (s : Touchpad) : Passed w s (s.processPacket G w) := by
  have hv1 : ∀ p, Linked s (s.packetV1 p) := by
    intro p
    unfold packetV1
    split
    · exact .refl s
    · exact linked_ELANv1 p s
  have hv2 : ∀ p, Linked s (s.packetV2 G w p) := by
    intro p
    unfold packetV2
    split
    · exact .refl s
    · exact (linked_triggerBackLight s).trans (linked_ELANv2v3 _ p _)
  have htype : ∀ p, Linked s (s.setPktType p) := fun p => .when _ (.same rfl rfl)
  unfold processPacket
  dsimp only
  repeat' split
  · exact .linked (handled_gesture _ s).linked
  · exact .linked ((htype _).trans (linked_report_absolute _ _))
  · exact passed_packetFocalTech _ s
  · exact .linked (hv1 _)
  · exact .linked (hv2 _)
  · exact passed_packetV3 _ s
  · next hversion => exact passed_packetV4 hversion
  · exact .linked (.refl s)

theorem linked_pollACPI (s : Touchpad) : Linked s (s.pollACPI w) := by
  have hkeys : ∀ s : Touchpad, Linked s (s.pollFnKeys w) := by
    intro s
    unfold pollFnKeys
    split
    · exact .same rfl rfl
    · refine .trans ?_ (.when _ (.same rfl rfl))
      exact .same rfl rfl
  have hlid : ∀ s : Touchpad, Linked s (s.pollLid w) := by
    intro s
    unfold pollLid
    split
    · exact .refl s
    · exact .same rfl rfl
    · exact .when _ (.same rfl rfl)
  have hpoll : Linked s (s.Process_ACPI_IOREG_Polling w) :=
    ((Linked.when _ (hkeys s)).trans (.when _ (hlid _))).update rfl rfl
  exact .when _ hpoll

theorem passed_receivePacket (s : Touchpad) : Passed w s (s.receivePacket G w) := by
  have hduplicate : Linked s s.countDuplicate := .same rfl rfl
  have hmouse : ∀ s : Touchpad, Linked s (s.pollMouse w) := fun s => .when _ (.same rfl rfl)
  have htimeout : ∀ s : Touchpad, Linked s (s.accidentalTimeout w) := fun s => .when _ (.same rfl rfl)
  have hpass : ∀ s : Touchpad, Passed w s (s.passPacket G w) := by
    intro s
    unfold passPacket
    dsimp only
    split
    · exact .linked (htimeout s)
    · exact (htimeout s).passed (passed_processPacket _)
  have hfound := hduplicate.trans (hmouse _)
  have hpolled := hfound.trans (linked_pollACPI (w := w) _)
  unfold receivePacket
  dsimp only
  repeat' split
  · exact .linked hduplicate
  · exact .linked hfound
  · exact .linked hpolled
  · exact hpolled.passed (hpass _)

end Touchpad
end ApplePS2
