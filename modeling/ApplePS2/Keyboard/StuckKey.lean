import ApplePS2.Keyboard.Decoding
import ApplePS2.Keyboard.SpecialKeys
import ApplePS2.Transition

/- Stuck keys: after all keys have been released, is some ADB code still down?

   1. `dispatchScanEvent_follows`: an event adds to the codes that are down what the
      modes translate it to.
   2. `noStuckKey`: no code stays down in a run in which, at each release, the modes
      translate the key to the codes its presses left down, unless another key that
      is held owes them, and in which a code that the driver presses back is owed by
      a key that is held.
   3. `stuckKey`: a keypad key released after Num Lock has been toggled. -/
namespace ApplePS2

namespace Keyboard

variable {w : World} {goingDown : Bool} {s : Keyboard}

/-! Extended functions. -/

theorem follows_ProcessKeyCombinations (keys : String) :
    s.Follows goingDown (s.ProcessKeyCombinations w (some keys) goingDown false)
      (combinationCodes keys.toList [] 0) (if goingDown then [] else [s.normalCode 0x2a]) := by
  have hup : s.Quiet (s.when (goingDown && !false) (dispatchKeyboardKeyCode w (s.normalCode 0x2a) false)) :=
    quiet_when (quiet_up w _ s)
  have hback := follows_when (c := !goingDown && !false) (follows_pressedBack w goingDown (s.normalCode 0x2a)
    ((s.when (goingDown && !false) (dispatchKeyboardKeyCode w (s.normalCode 0x2a) false)).dispatchAll w goingDown
      (combinationCodes keys.toList [] 0)))
  refine (HeldKeys.Follows.afterQuiet hup ((follows_dispatchAll w goingDown _ _).append hback)).congr ?_ ?_
  · simp
  · cases goingDown <;> simp

theorem follows_ProcessExtendedFunctions {keyCode k : UInt8} {i : Fin 12}
    (h : extendedFunction keyCode = some (i, k)) :
    ∃ s', s.ProcessExtendedFunctions w keyCode goingDown = some s' ∧
      s.Follows goingDown s' (s.functionTranslation i k goingDown).codes
        (s.functionTranslation i k goingDown).back := by
  unfold ProcessExtendedFunctions functionTranslation
  rw [h]
  dsimp only
  cases s.combination i with
  | some keys => exact ⟨_, rfl, follows_ProcessKeyCombinations keys⟩
  | none =>
    by_cases hk : k = 0
    · rw [if_pos hk, if_pos hk]
      exact ⟨s, rfl, follows_refl⟩
    · rw [if_neg hk, if_neg hk]
      cases goingDown with
      | true => exact ⟨_, rfl, .afterQuiet (quiet_up w _ s) (follows_dispatch w true _ _)⟩
      | false => exact ⟨_, rfl, (follows_dispatch w false _ s).append (follows_pressedBack w false _ _)⟩

/-! The whole event. -/

theorem follows_processKey (keyCode : UInt8) :
    s.Follows goingDown (s.processKey w keyCode goingDown) (s.processTranslation w keyCode goingDown).codes
      (s.processTranslation w keyCode goingDown).back := by
  have hspecial : Special goingDown s (s.parseSpecialKeys w keyCode goingDown) _ _ _ :=
    parseSpecialKeys_special keyCode
  have hnormal : s.Follows goingDown
      ((s.parseSpecialKeys w keyCode goingDown).1.dispatchKey w (s.parseSpecialKeys w keyCode goingDown).2 goingDown)
      (s.capsCodes keyCode goingDown ++
        (s.afterSpecialKeys w keyCode goingDown).dispatchCodes (s.specialKeyCode keyCode) goingDown) [] := by
    rw [hspecial.keyCode, ← dispatchCodes_congr hspecial.modes]
    exact hspecial.follows.append (follows_dispatchKey _)
  unfold processKey processTranslation
  by_cases hshift : s.shiftFunction keyCode
  · rw [if_pos hshift, if_pos hshift]
    cases hf : extendedFunction keyCode with
    | none =>
      have hnone : s.ProcessExtendedFunctions w keyCode goingDown = none := by
        rw [ProcessExtendedFunctions, hf]
      rw [hnone]
      exact hnormal
    | some ik =>
      have hextended : ∃ s', s.ProcessExtendedFunctions w keyCode goingDown = some s' ∧
          s.Follows goingDown s' (s.functionTranslation ik.1 ik.2 goingDown).codes
            (s.functionTranslation ik.1 ik.2 goingDown).back := follows_ProcessExtendedFunctions hf
      obtain ⟨s', hs', hfollows⟩ := hextended
      rw [hs']
      exact hfollows
  · rw [if_neg hshift, if_neg hshift]
    exact hnormal

/-- What has been dispatched so far does not matter to the translation, unless the
modifier positions are read. -/
theorem processTranslation_congr (w : World) (goingDown : Bool) {keyCode : UInt8} (h : keyCode ∉ positionKeys)
    (s : Keyboard) (log : List Sent) (now : UInt64) :
    { s with log := log, now := now }.processTranslation w keyCode goingDown =
      s.processTranslation w keyCode goingDown := by
  have hmodes : ({ s with log := log, now := now }.afterSpecialKeys w keyCode goingDown).modes =
      (s.afterSpecialKeys w keyCode goingDown).modes := by
    simp [afterSpecialKeys, modes, when, h]
  unfold processTranslation
  rw [dispatchCodes_congr hmodes]
  rfl

/-- The key bit vector is updated, and the key processed, from the state the switch ends with. -/
theorem follows_keyTranslation (keyCode : UInt8) :
    s.Follows goingDown
      (if keyCode = 0 then s.dispatchKeyboardBacklightNotification w.goingDown
      else
        match s.updateKeyBitVector keyCode goingDown with
        | none => s.dispatchKeyboardBacklightNotification goingDown
        | some s => (s.processKey w keyCode goingDown).dispatchKeyboardBacklightNotification goingDown)
      (s.keyTranslation w s.extendedCode keyCode goingDown).codes
      (s.keyTranslation w s.extendedCode keyCode goingDown).back := by
  unfold keyTranslation updateKeyBitVector
  have hquiet : ∀ d, s.Quiet (s.dispatchKeyboardBacklightNotification d) := fun d => .of_eq (keyLog_backlight d s)
  have hprocess : s.Follows goingDown
      (((s.setKey keyCode goingDown).processKey w keyCode goingDown).dispatchKeyboardBacklightNotification goingDown)
      ((s.setKey keyCode goingDown).processTranslation w keyCode goingDown).codes
      ((s.setKey keyCode goingDown).processTranslation w keyCode goingDown).back :=
    (follows_processKey (s := s.setKey keyCode goingDown) keyCode).thenQuiet (.of_eq (keyLog_backlight _ _))
  by_cases hzero : keyCode = 0
  · rw [if_pos hzero, if_pos hzero]
    exact (hquiet _).follows _
  rw [if_neg hzero, if_neg hzero]
  cases goingDown with
  | false => exact hprocess
  | true =>
    simp only [if_true, Bool.true_and]
    by_cases hrepeat : (s.isKeyDown keyCode && !s.repeats keyCode) = true
    · rw [if_pos hrepeat, if_pos hrepeat]
      exact (hquiet _).follows _
    · rw [if_neg hrepeat, if_neg hrepeat]
      exact hprocess

theorem keyTranslation_congr {extended : Bool} {keyCode : UInt8} {s s₁ : Keyboard}
    (hs₁ : ∃ log now, s₁ = { s with extendedCode := extended, log := log, now := now })
    (hpos : keyCode ∈ positionKeys → s₁ = { s with extendedCode := extended }) :
    s₁.keyTranslation w s₁.extendedCode keyCode goingDown = s.keyTranslation w extended keyCode goingDown := by
  by_cases hmem : keyCode ∈ positionKeys
  · rw [hpos hmem]
    rfl
  · obtain ⟨log, now, rfl⟩ := hs₁
    have hprocess := processTranslation_congr w goingDown hmem
      ({ s with extendedCode := extended }.setKey keyCode goingDown) log now
    unfold keyTranslation
    rw [← hprocess]
    rfl

/-- An event adds to the codes that are down what the modes translate it to. -/
theorem dispatchScanEvent_follows (w : World) (e : ScanEvent) (s : Keyboard) :
    s.Follows e.goingDown (s.dispatchScanEvent w e) (s.translation w e).codes (s.translation w e).back := by
  have hgoes := goes_target (w := w) (s := s) e
  unfold dispatchScanEvent translation
  generalize (if e.extended then s.parseExtended w e.keyCode e.goingDown
    else s.parseNormal w e.keyCode e.goingDown) = r at hgoes ⊢
  obtain ⟨s₁, k⟩ := r
  cases htarget : s.target e with
  | done t =>
    rw [htarget] at hgoes
    obtain ⟨hk, hfollows⟩ := hgoes
    obtain rfl : k = 0 := hk
    exact hfollows.thenQuiet (.of_eq (keyLog_backlight _ _))
  | key extended keyCode codes =>
    rw [htarget] at hgoes
    obtain ⟨hk, hfollows, hs₁, hpos⟩ := hgoes
    obtain rfl : k = keyCode := hk
    have hkey : s₁.Follows e.goingDown _ (s₁.keyTranslation w s₁.extendedCode k e.goingDown).codes _ :=
      follows_keyTranslation k
    rw [keyTranslation_congr hs₁ hpos] at hkey
    exact (hfollows.append hkey).congr (fun _ => Iff.rfl) fun _ h => h

end Keyboard

/-! Strokes. -/

/-- A key of the keyboard: one with a make and a break code, or Pause. -/
inductive PhysicalKey where
  | key (extended : Bool) (code : UInt8) (isCode : code < 0x80)
  | pause
  deriving DecidableEq

namespace PhysicalKey

/-- The break of the key is decoded. -/
def Decoded : PhysicalKey → Prop
  | .key _ code _ => code ∉ brokenCodes
  | .pause => True

instance : ∀ k : PhysicalKey, Decidable k.Decoded
  | .key _ code _ => inferInstanceAs (Decidable (code ∉ brokenCodes))
  | .pause => inferInstanceAs (Decidable True)

end PhysicalKey

/-- A key goes down, goes down again while it is held (auto-repeat), or goes up. -/
structure Stroke where
  key : PhysicalKey
  goingDown : Bool
  world : World

namespace Stroke

def bytes (k : Stroke) : List UInt8 :=
  match k.key with
  | .key extended code _ => (ScanSequence.key extended code k.goingDown).bytes
  | .pause => if k.goingDown then [kSC_Pause, 0x1D, 0x45] else [kSC_Pause, 0x9D, 0xC5]

def event (k : Stroke) : ScanEvent :=
  match k.key with
  | .key extended code _ => ⟨extended, code, k.goingDown⟩
  | .pause => ⟨true, 0x45, k.goingDown⟩

theorem feed_bytes (k : Stroke) (h : k.goingDown = true ∨ k.key.Decoded) :
    Scanner.feed k.bytes ⟨true, 0⟩ = (⟨true, 0⟩, [k.event]) := by
  obtain ⟨key, goingDown, world⟩ := k
  cases key with
  | key extended code isCode =>
    refine (ApplePS2.feed_bytes (q := .key extended code goingDown) ?_).1
    intro _ _ _ hq
    cases hq
    exact ⟨isCode, h⟩
  | pause => cases goingDown <;> rfl

end Stroke

/-! Runs. -/

/-- The driver, and the keys that are held: for each press the codes it was translated to. -/
structure Typing where
  driver : KeyboardDriver
  held : List (PhysicalKey × List UInt8)

namespace Typing

open HeldKeys

def log (t : Typing) : List (UInt8 × Bool) := t.driver.keyboard.keyLog

/-- What the modes before the stroke translate it to. -/
def translation (t : Typing) (k : Stroke) : Translation := t.driver.keyboard.translation k.world k.event

/-- The bytes of a stroke arrive. Only a key that is held can go up. -/
def step (t : Typing) (k : Stroke) : Option Typing :=
  let driver := k.bytes.foldl (fun d b => d.interruptOccurred k.world b) t.driver
  if k.goingDown then some ⟨driver, (k.key, (t.translation k).codes) :: t.held⟩
  else if k.key ∈ t.held.map Prod.fst then some ⟨driver, without k.key t.held⟩
  else none

/-- The keys that are held after the stroke, without the stroke itself. -/
def others (t : Typing) (k : Stroke) : List (PhysicalKey × List UInt8) :=
  if k.goingDown then t.held else without k.key t.held

/-- The stroke fits the modes: a release is decoded, and what the presses of the key
have left down is among the codes that it is now translated to, or owed by another
key; what the driver presses back is owed by another key. -/
structure Fits (t : Typing) (k : Stroke) : Prop where
  decoded : k.goingDown = true ∨ k.key.Decoded
  released : k.goingDown = true ∨ Repaid k.key t.held t.log (t.translation k).codes
  pressedBack : AllOwed (t.others k) (t.translation k).back

instance (t : Typing) (k : Stroke) : Decidable (t.Fits k) :=
  decidable_of_iff (_ ∧ _ ∧ _) ⟨fun h => ⟨h.1, h.2.1, h.2.2⟩, fun h => ⟨h.decoded, h.released, h.pressedBack⟩⟩

/-- No sequence has begun, no key is held, and no code is down. -/
structure AtRest (t : Typing) : Prop where
  scanner : t.driver.scanner = ⟨true, 0⟩
  held : t.held = []
  log : ∀ c, ¬IsDown t.log c

/-- What every stroke that fits keeps. -/
structure Owing (t : Typing) : Prop where
  scanner : t.driver.scanner = ⟨true, 0⟩
  owes : Owes t.held t.log

theorem AtRest.owing {t : Typing} (h : t.AtRest) : t.Owing := ⟨h.scanner, fun c hc => absurd hc (h.log c)⟩

/-- The driver handles exactly the event of the stroke. -/
theorem driver_step {t : Typing} {k : Stroke} (hscan : t.driver.scanner = ⟨true, 0⟩)
    (hdecoded : k.goingDown = true ∨ k.key.Decoded) :
    k.bytes.foldl (fun d b => d.interruptOccurred k.world b) t.driver =
      ⟨⟨true, 0⟩, t.driver.keyboard.dispatchScanEvent k.world k.event⟩ := by
  rw [KeyboardDriver.foldl_interruptOccurred, hscan, k.feed_bytes hdecoded]
  rfl

theorem event_goingDown (k : Stroke) : k.event.goingDown = k.goingDown := by
  unfold Stroke.event
  split <;> rfl

theorem owing_step {t t' : Typing} {k : Stroke} (h : t.Owing) (hfits : t.Fits k)
    (hstep : t.step k = some t') : t'.Owing := by
  have hfollows := t.driver.keyboard.dispatchScanEvent_follows k.world k.event
  rw [event_goingDown] at hfollows
  unfold step at hstep
  rw [driver_step h.scanner hfits.decoded] at hstep
  have hback := hfits.pressedBack
  unfold others at hback
  cases hdown : k.goingDown with
  | true =>
    rw [hdown] at hfollows hback hstep
    obtain rfl := Option.some.inj hstep
    exact ⟨rfl, h.owes.press k.key hfollows hback⟩
  | false =>
    have hreleased := hfits.released.resolve_left (by simp [hdown])
    rw [hdown] at hfollows hback
    simp only [hdown, Bool.false_eq_true, if_false] at hstep
    split at hstep
    · obtain rfl := Option.some.inj hstep
      exact ⟨rfl, h.owes.release k.key hfollows hreleased hback⟩
    · cases hstep

end Typing

/-- In every run in which each stroke fits the modes it finds, no code is down when
all keys are up again. -/
theorem noStuckKey {start t : Typing} (hstart : start.AtRest)
    (h : Transition.Reaches Typing.step Typing.Fits start t) (hup : t.held = []) (c : UInt8) :
    ¬HeldKeys.IsDown t.log c := by
  have howing := h.invariant Typing.Owing hstart.owing fun _ _ _ => Typing.owing_step
  have howes := howing.owes
  rw [hup] at howes
  exact howes.nothingDown c

/-! Two runs. -/

/-- The driver after `init`. -/
def Typing.init : Typing :=
  { driver := ⟨⟨true, 0⟩, .init .init (.initial fun _ => DEADKEY)⟩
    held := [] }

theorem Typing.init_atRest : Typing.init.AtRest := ⟨rfl, rfl, HeldKeys.isDown_nil⟩

def keyDown (code : UInt8) (h : code < 0x80) : Stroke := ⟨.key false code h, true, quietWorld⟩
def keyUp (code : UInt8) (h : code < 0x80) : Stroke := ⟨.key false code h, false, quietWorld⟩

/-- Left Shift, with the letter A twice, which outlasts it. -/
def shiftedLetter : List Stroke :=
  [keyDown 0x2a (by decide), keyDown 0x1e (by decide), keyDown 0x1e (by decide), keyUp 0x2a (by decide),
    keyUp 0x1e (by decide)]

theorem noStuckKey_shiftedLetter : ∃ t : Typing,
    t.log = [(0x38, true), (0x00, true), (0x38, false), (0x00, false)] ∧
    ∀ c, ¬HeldKeys.IsDown t.log c := by
  have hexec : ∃ t, Transition.exec Typing.step Typing.Fits .init shiftedLetter = some t ∧
      t.log = [(0x38, true), (0x00, true), (0x38, false), (0x00, false)] ∧ t.held = [] := ⟨_, rfl, rfl, rfl⟩
  obtain ⟨t, ht, hlog, hup⟩ := hexec
  exact ⟨t, hlog, noStuckKey Typing.init_atRest (.of_exec _ ht) hup⟩

/-- Keypad 7 (Home without Num Lock) is held while Num Lock is pressed and released. -/
def keypadOverNumLock : List Stroke :=
  [keyDown 0x47 (by decide), keyDown 0x45 (by decide), keyUp 0x45 (by decide), keyUp 0x47 (by decide)]

/-- The release of keypad 7 releases the digit, and Home stays down. -/
theorem stuckKey : ∃ t : Typing, Typing.init.AtRest ∧
    Transition.Reaches Typing.step (fun _ _ => True) Typing.init t ∧ t.held = [] ∧
    t.log = [(0x73, true), (0x59, false)] ∧ HeldKeys.IsDown t.log 0x73 := by
  have hexec : ∃ t, Transition.exec Typing.step (fun _ _ => True) .init keypadOverNumLock = some t ∧
      t.held = [] ∧ t.log = [(0x73, true), (0x59, false)] := ⟨_, rfl, rfl, rfl⟩
  obtain ⟨t, ht, hup, hlog⟩ := hexec
  refine ⟨t, Typing.init_atRest, .of_exec _ ht, hup, hlog, ?_⟩
  rw [hlog]
  decide

end ApplePS2
