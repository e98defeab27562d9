import ApplePS2.Keyboard.Scancode

/- Which scan code sequences are decoded as what they are.

   1. `feed_bytes`: a sequence none of whose bytes is a prefix, an acknowledge or a
      resend in the wrong place is decoded as its own events.
   2. `decodes_iff`: of the keys that the tables list, only the break of one is lost:
      key 0x7e (Brazilian ABNT2 keypad .), whose break byte is kSC_Resend. -/
namespace ApplePS2

/-- A complete sequence: a make or break code with or without the prefix E0, or Pause. -/
inductive ScanSequence where
  | key (extended : Bool) (code : UInt8) (goingDown : Bool)
  | pause
  deriving DecidableEq, Repr

namespace ScanSequence

/-- The last byte of a make or break sequence. -/
def codeByte (code : UInt8) (goingDown : Bool) : UInt8 := if goingDown then code else code ||| kSC_UpBit

def bytes : ScanSequence → List UInt8
  | .key true code goingDown => [kSC_Extend, codeByte code goingDown]
  | .key false code goingDown => [codeByte code goingDown]
  | .pause => [kSC_Pause, 0x1D, 0x45, kSC_Pause, 0x9D, 0xC5]

/-- What the sequence means. -/
def events : ScanSequence → List ScanEvent
  | .key extended code goingDown => [⟨extended, code, goingDown⟩]
  | .pause => [⟨true, 0x45, true⟩, ⟨true, 0x45, false⟩]

/-- The table of its prefix class has an entry for the key. -/
def Listed (m : ADBMaps) : ScanSequence → Prop
  | .key extended code _ =>
    code < 0x80 ∧ (if extended then m.extendedPS2ToADBMap code else m.ps2ToADBMap code) ≠ DEADKEY
  | .pause => True

end ScanSequence

/-- Each sequence is decoded as its own events, no byte of it is taken for an
acknowledge or resend, and `_extendCount` is 0 after it. -/
def Decodes : List ScanSequence → Scanner → Prop
  | [], _ => True
  | q :: qs, s =>
    ((s.feed q.bytes).2 = q.events ∧ (s.feed q.bytes).1.extendCount = 0 ∧
        ∀ b ∈ q.bytes, b ≠ kSC_Acknowledge ∧ b ≠ kSC_Resend) ∧
      Decodes qs (s.feed q.bytes).1

/-! The keys whose break code is a prefix, an acknowledge or a resend. -/

namespace ADBMaps

theorem OfDriver.normal_dead {m : ADBMaps} (h : OfDriver m) :
    ∀ k ∈ ([0x60, 0x61, 0x7a] : List UInt8), m.ps2ToADBMap k = DEADKEY := by
  induction h with
  | initial beyond => simp [ADBMaps.initial, normalEntries]
  | deviceType _ iso ih => simpa [ADBMaps.deviceType, Function.update_apply] using ih
  | readFnKeyLayout _ v ih => exact ih

theorem OfDriver.extended_dead {m : ADBMaps} (h : OfDriver m) :
    ∀ k ∈ ([0x60, 0x61, 0x7a, 0x7e] : List UInt8), m.extendedPS2ToADBMap k = DEADKEY := by
  induction h with
  | initial beyond => simp [ADBMaps.initial, extendedEntries]
  | deviceType _ iso ih => exact ih
  | readFnKeyLayout _ v ih =>
    intro k hk
    simp only [ADBMaps.readFnKeyLayout]
    split
    · rfl
    · exact ih k hk

end ADBMaps

/-! One sequence. -/

/-- Nothing of a byte other than the code itself tells the decoder what it is. -/
structure PlainByte (b code : UInt8) (goingDown : Bool) : Prop where
  notExtend : b ≠ kSC_Extend
  notPause : b ≠ kSC_Pause
  notAcknowledge : b ≠ kSC_Acknowledge
  notResend : b ≠ kSC_Resend
  code : b &&& ~~~kSC_UpBit = code
  goingDown : decide (b &&& kSC_UpBit = 0) = goingDown

/-- The codes whose break byte means something else. -/
def brokenCodes : List UInt8 := [0x60, 0x61, 0x7a, 0x7e]

theorem codeByte_facts : ∀ n < 128,
    UInt8.ofNat n &&& ~~~kSC_UpBit = UInt8.ofNat n ∧ UInt8.ofNat n &&& kSC_UpBit = 0 ∧
    (UInt8.ofNat n ||| kSC_UpBit) &&& ~~~kSC_UpBit = UInt8.ofNat n ∧
    (UInt8.ofNat n ||| kSC_UpBit) &&& kSC_UpBit ≠ 0 ∧
    UInt8.ofNat n ∉ [kSC_Extend, kSC_Pause, kSC_Acknowledge, kSC_Resend] ∧
    (UInt8.ofNat n ||| kSC_UpBit ∈ [kSC_Extend, kSC_Pause, kSC_Acknowledge, kSC_Resend] ↔
      UInt8.ofNat n ∈ brokenCodes) := by
  decide

theorem plainByte {code : UInt8} {goingDown : Bool} (hcode : code < 0x80)
    (hbroken : goingDown = true ∨ code ∉ brokenCodes) :
    PlainByte (ScanSequence.codeByte code goingDown) code goingDown := by
  have hlt : code.toNat < 128 := hcode
  obtain ⟨hmake, hdown, hbreak, hup, hspecial, hbroken'⟩ := codeByte_facts code.toNat hlt
  rw [UInt8.ofNat_toNat] at hmake hdown hbreak hup hspecial hbroken'
  cases goingDown with
  | true =>
    simp only [List.mem_cons, List.not_mem_nil, or_false, not_or] at hspecial
    obtain ⟨h₁, h₂, h₃, h₄⟩ := hspecial
    exact ⟨h₁, h₂, h₃, h₄, hmake, decide_eq_true hdown⟩
  | false =>
    have hnot := mt hbroken'.mp (hbroken.resolve_left Bool.false_ne_true)
    simp only [List.mem_cons, List.not_mem_nil, or_false, not_or] at hnot
    obtain ⟨h₁, h₂, h₃, h₄⟩ := hnot
    exact ⟨h₁, h₂, h₃, h₄, hbreak, decide_eq_false hup⟩

theorem interruptOccurred_plain {b code : UInt8} {goingDown : Bool} (h : PlainByte b code goingDown) :
    Scanner.interruptOccurred b ⟨true, 0⟩ = (⟨true, 0⟩, some ⟨false, code, goingDown⟩) := by
  simp [Scanner.interruptOccurred, Scanner.dispatchKeyboardEventWithScancode, h.notExtend, h.notPause,
    h.notAcknowledge, h.notResend, h.code, h.goingDown]

theorem interruptOccurred_extended {b code : UInt8} {goingDown : Bool} (h : PlainByte b code goingDown) :
    Scanner.interruptOccurred b ⟨true, 1⟩ = (⟨true, 0⟩, some ⟨true, code, goingDown⟩) := by
  simp [Scanner.interruptOccurred, Scanner.dispatchKeyboardEventWithScancode, h.notExtend, h.notPause,
    h.notAcknowledge, h.notResend, h.code, h.goingDown]

theorem feed_bytes {q : ScanSequence} (h : ∀ extended code goingDown, q = .key extended code goingDown →
      code < 0x80 ∧ (goingDown = true ∨ code ∉ brokenCodes)) :
    Scanner.feed q.bytes ⟨true, 0⟩ = (⟨true, 0⟩, q.events) ∧
      ∀ b ∈ q.bytes, b ≠ kSC_Acknowledge ∧ b ≠ kSC_Resend := by
  cases q with
  | pause => exact ⟨rfl, by decide +kernel⟩
  | key extended code goingDown =>
    obtain ⟨hcode, hbroken⟩ := h extended code goingDown rfl
    have hb := plainByte hcode hbroken
    cases extended with
    | false =>
      refine ⟨?_, by simpa [ScanSequence.bytes] using ⟨hb.notAcknowledge, hb.notResend⟩⟩
      simp [ScanSequence.bytes, ScanSequence.events, Scanner.feed, interruptOccurred_plain hb]
    | true =>
      have hE : Scanner.interruptOccurred kSC_Extend ⟨true, 0⟩ = (⟨true, 1⟩, none) := by decide
      refine ⟨?_, ?_⟩
      · simp [ScanSequence.bytes, ScanSequence.events, Scanner.feed, hE, interruptOccurred_extended hb]
      · intro b hmem
        rcases List.mem_pair.mp hmem with rfl | rfl
        · decide
        · exact ⟨hb.notAcknowledge, hb.notResend⟩

/-- The one listed sequence that is not decoded. -/
def lostBreak : ScanSequence := .key false 0x7e false

theorem ScanSequence.Listed.notBroken {m : ADBMaps} (hm : m.OfDriver) {q : ScanSequence} (hq : q.Listed m)
    (hne : q ≠ lostBreak) (extended : Bool) (code : UInt8) (goingDown : Bool)
    (h : q = .key extended code goingDown) : code < 0x80 ∧ (goingDown = true ∨ code ∉ brokenCodes) := by
  subst h
  obtain ⟨hcode, hentry⟩ := hq
  refine ⟨hcode, ?_⟩
  by_contra hcon
  obtain ⟨hup, hmem⟩ := not_or.mp hcon
  obtain rfl : goingDown = false := by simpa using hup
  rw [not_not] at hmem
  cases extended with
  | true => exact hentry (hm.extended_dead code hmem)
  | false =>
    have hne' : code ≠ 0x7e := fun hc => hne (by rw [hc, lostBreak])
    refine hentry (hm.normal_dead code ?_)
    simpa [brokenCodes, hne'] using hmem

/-- Sequences of listed keys are decoded correctly exactly when the break of key 0x7e
is not among them. -/
theorem decodes_iff {m : ADBMaps} (hm : m.OfDriver) {qs : List ScanSequence}
    (hqs : ∀ q ∈ qs, q.Listed m) : Decodes qs ⟨true, 0⟩ ↔ lostBreak ∉ qs := by
  induction qs with
  | nil => simp [Decodes]
  | cons q qs ih =>
    obtain ⟨hq, hqs⟩ := List.forall_mem_cons.mp hqs
    by_cases hlost : q = lostBreak
    · subst hlost
      refine iff_of_false ?_ (by simp)
      intro h
      -- the byte is dropped, so no event comes of it
      exact absurd h.1.1 (by decide)
    · obtain ⟨hfeed, hbytes⟩ := feed_bytes (hq.notBroken hm hlost)
      rw [Decodes, hfeed, ih hqs]
      simpa [Ne.symm hlost] using fun _ => hbytes

/-- The ABNT2 keypad dot pressed and released: the break byte 0xFE is dropped. -/
theorem decodes_fails : ∃ m : ADBMaps, m.OfDriver ∧ (∀ q ∈ [.key false 0x7e true, lostBreak], q.Listed m) ∧
    ¬Decodes [.key false 0x7e true, lostBreak] ⟨true, 0⟩ := by
  refine ⟨.initial fun _ => DEADKEY, .initial _, ?_, ?_⟩
  · simp [ScanSequence.Listed, ADBMaps.initial, normalEntries, lostBreak, DEADKEY]
  · rintro ⟨-, ⟨h, -⟩, -⟩
    exact absurd h (by decide)

/-- A sequence of listed keys that is decoded. -/
theorem decodes_iff_letterA : Decodes [.key false 0x1e true, .pause, .key false 0x1e false] ⟨true, 0⟩ :=
  (decodes_iff (.initial fun _ => DEADKEY)
    (by simp [ScanSequence.Listed, ADBMaps.initial, normalEntries, DEADKEY])).mpr (by decide)

/-! The driver handles exactly the decoded events. -/

theorem KeyboardDriver.foldl_interruptOccurred (w : World) (bs : List UInt8) (d : KeyboardDriver) :
    bs.foldl (fun d b => d.interruptOccurred w b) d =
      { scanner := (d.scanner.feed bs).1
        keyboard := (d.scanner.feed bs).2.foldl (fun s e => s.dispatchScanEvent w e) d.keyboard } := by
  induction bs generalizing d with
  | nil => rfl
  | cons b bs ih =>
    rw [List.foldl_cons, ih, Scanner.feed]
    unfold KeyboardDriver.interruptOccurred
    cases h : d.scanner.interruptOccurred b with
    | mk scanner e => cases e <;> rfl

end ApplePS2
