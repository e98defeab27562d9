import ApplePS2.Flags
import ApplePS2.Keyboard.Event
import ApplePS2.Paired
import ApplePS2.Transition

/- The notifications about the modifier keys: do they come in pairs, and is nothing
   left on when no modifier is held?

   1. `modifiers_event`: an event leaves the modifier keys and what is said about
      them as they are, or says one thing about the keys that are down after it.
   2. `modifiers_paired`: they always alternate, and nothing is left on in a run in
      which every release of the last modifier finds at most one of them on, and not
      the one for Command + ALT.
   3. `altFunction_leftOn`: Command and ALT pressed and released. -/
namespace ApplePS2.Keyboard

variable {w : World}

/-! The Fn keys are not on the modifiers. -/

/-- The positions of the modifier keys, whatever the mapping. -/
def modifierPositions : List UInt8 := [0x3a, 0x2a, 0x1d, 0x38, 0x5b]

/-- No Fn key has the code of a modifier. -/
def FnClear (fn : FnKeys) : Prop := ∀ k ∈ modifierPositions, isFnKey k fn = false

instance (fn : FnKeys) : Decidable (FnClear fn) := List.decidableBAll (fun k => isFnKey k fn = false) modifierPositions

theorem setupFnkeys_clear (mode : UInt8) (key : String) : setupFnkeys mode key ∉ modifierPositions := by
  have hnames : ∀ p ∈ functionKeyNames ++ arrowNames ++ [("Pause", (0x45 : UInt8))], p.2 ∉ modifierPositions := by
    decide +kernel
  unfold setupFnkeys
  dsimp only
  cases hfind : List.find? (fun p => startOf key p.1) (functionKeyNames ++ (if mode > 1 then arrowNames else []) ++
      (if mode < 2 then [("Pause", 0x45)] else [])) with
  | none => decide
  | some p =>
    have hmem := List.mem_of_find?_eq_some hfind
    refine hnames p ?_
    simp only [List.mem_append] at hmem ⊢
    rcases hmem with (h | h) | h
    · exact .inl (.inl h)
    · split at h
      · exact .inl (.inr h)
      · cases h
    · split at h
      · exact .inr h
      · cases h

theorem fnClear_iff (fn : FnKeys) : FnClear fn ↔
    ∀ c ∈ [fn.brightNessDown, fn.brightNessUp, fn.kbrdBrightnessDown, fn.kbrdBrightnessUp, fn.sleep,
      fn.missonCtlFun, fn.launchpadFun, fn.dispSleep, fn.videoMirror, fn.touchpad, fn.volMute, fn.volDown,
      fn.volUp, fn.mediaPrev, fn.mediaPlay, fn.mediaNext], c ∉ modifierPositions := by
  unfold FnClear isFnKey
  simp only [decide_eq_false_iff_not]
  constructor
  · intro h c hc hk
    exact h c hk hc
  · intro h k hk hc
    exact h k hc hk

theorem fnClear_ReadFnKeyConfig {s : Keyboard} (h : FnClear s.fn) : FnClear s.ReadFnKeyConfig.fn := by
  have hset : ∀ (key : Option String) (code : UInt8), code ∉ modifierPositions →
      (key.map (setupFnkeys s.fnKeysModeNum)).getD code ∉ modifierPositions := by
    intro key code hcode
    cases key with
    | none => exact hcode
    | some key => exact setupFnkeys_clear _ key
  unfold ReadFnKeyConfig
  dsimp only
  generalize (if s.fnKeysModeNum = 1 then s.prefs.fnKeysMode1 else s.prefs.fnKeysMode2) = c
  cases c with
  | none => exact h
  | some c =>
    rw [fnClear_iff] at h ⊢
    simp only [List.forall_mem_cons] at h ⊢
    obtain ⟨h₁, h₂, h₃, h₄, h₅, h₆, h₇, h₈, h₉, h₁₀, h₁₁, h₁₂, h₁₃, h₁₄, h₁₅, h₁₆, hnil⟩ := h
    exact ⟨hset _ _ h₁, hset _ _ h₂, hset _ _ h₃, hset _ _ h₄, hset _ _ h₅, hset _ _ h₆, hset _ _ h₇, hset _ _ h₈,
      hset _ _ h₉, hset _ _ h₁₀, hset _ _ h₁₁, hset _ _ h₁₂, hset _ _ h₁₃, hset _ _ h₁₄, hset _ _ h₁₅,
      hset _ _ h₁₆, fun _ h => nomatch h⟩

theorem fnClear_ReadFnKeyLayout {s : Keyboard} (h : FnClear s.fn) : FnClear s.ReadFnKeyLayout.fn := by
  unfold ReadFnKeyLayout
  split
  · exact h
  · split
    · next v _ =>
      show FnClear (vendorFnKeys s.enabledAsusKBacklight s.fn v)
      rw [fnClear_iff] at h ⊢
      have hdown := h s.fn.kbrdBrightnessDown (by simp)
      have hup := h s.fn.kbrdBrightnessUp (by simp)
      cases v <;> cases s.enabledAsusKBacklight <;>
        simp only [vendorFnKeys, List.forall_mem_cons, Bool.false_eq_true, if_true, if_false] <;>
        refine ⟨?_, ?_, ?_, ?_, ?_, ?_, ?_, ?_, ?_, ?_, ?_, ?_, ?_, ?_, ?_, ?_, fun _ h => nomatch h⟩ <;>
        first | exact hdown | exact hup | decide
    · exact fnClear_ReadFnKeyConfig (s := { s with fnKeysModeNum := 2 }) h

/-! The flags of `_modifierKeystate`. -/

/-- A pair of notifications, and the flag that says whether the touchpad has been told that it is on. -/
structure Signal where
  pair : Paired.Pair PS2Notification
  flag : UInt8

/-- Command, Control, Command + ALT, and all three. Bit 6 is cleared when the last of
them begins, bit 5 is not. -/
def modifierSignals : List Signal :=
  [⟨⟨.kPS2C_CMDKeyDown, .kPS2C_CMDKeyUp, by decide⟩, 0x01⟩,
    ⟨⟨.kPS2C_CNTRLKeyDown, .kPS2C_CNTRLKeyUp, by decide⟩, 0x02⟩,
    ⟨⟨.kPS2C_ALT_Funtion_on, .kPS2C_ALT_Funtion_off, by decide⟩, 0x20⟩,
    ⟨⟨.kPS2C_CNTRL_Feature_on, .kPS2C_CNTRL_Feature_off, by decide⟩, 0x80⟩]

/-- A notification turns its own flag on or off, and leaves the flags of the others. -/
def Signal.Follows (sig : Signal) (state : UInt8) (n : PS2Notification) (state' : UInt8) : Prop :=
  (n = sig.pair.on ∧ state &&& sig.flag = 0 ∧ state' &&& sig.flag ≠ 0) ∨
    (n = sig.pair.off ∧ state &&& sig.flag ≠ 0 ∧ state' &&& sig.flag = 0) ∨
    (n ≠ sig.pair.on ∧ n ≠ sig.pair.off ∧ state' &&& sig.flag = state &&& sig.flag)

/-- The bits of `test` are clear, those outside `keep` are cleared and those of `set` are set. -/
theorem Signal.follows_on (test keep set : UInt8) {n : PS2Notification}
    (h : ∀ sig ∈ modifierSignals, keep &&& sig.flag = sig.flag ∧
      (n = sig.pair.on ∧ sig.flag ≠ 0 ∧ test &&& sig.flag = sig.flag ∧ set &&& sig.flag = sig.flag ∨
        n ≠ sig.pair.on ∧ n ≠ sig.pair.off ∧ set &&& sig.flag = 0))
    {sig : Signal} (hsig : sig ∈ modifierSignals) {state : UInt8} (hclear : state &&& test = 0) :
    sig.Follows state n ((state &&& keep) ||| set) := by
  obtain ⟨hkeep, ⟨hon, hflag, htest, hset⟩ | ⟨hon, hoff, hset⟩⟩ := h sig hsig
  · have hwas : state &&& sig.flag = 0 := by
      rw [← Flags.and_kept htest, hclear, UInt8.zero_and]
    exact .inl ⟨hon, hwas, Flags.or_set hset hflag _⟩
  · exact .inr (.inr ⟨hon, hoff, (Flags.or_kept hset _).trans (Flags.and_kept hkeep state)⟩)

/-- The bits of `test` are not all clear, and those outside `keep` are cleared. -/
theorem Signal.follows_off (test keep : UInt8) {n : PS2Notification}
    (h : ∀ sig ∈ modifierSignals, n = sig.pair.off ∧ test = sig.flag ∧ keep &&& sig.flag = 0 ∨
      n ≠ sig.pair.on ∧ n ≠ sig.pair.off ∧ keep &&& sig.flag = sig.flag)
    {sig : Signal} (hsig : sig ∈ modifierSignals) {state : UInt8} (hset : state &&& test ≠ 0) :
    sig.Follows state n (state &&& keep) := by
  obtain ⟨hoff, rfl, hkeep⟩ | ⟨hon, hoff, hkeep⟩ := h sig hsig
  · exact .inr (.inl ⟨hoff, hset, Flags.and_cleared hkeep state⟩)
  · exact .inr (.inr ⟨hon, hoff, Flags.and_kept hkeep state⟩)

theorem modifierNotification_signal {cmd ctrl alt : Bool} {state state' : UInt8} {n : PS2Notification}
    {sig : Signal} (hsig : sig ∈ modifierSignals)
    (h : modifierNotification cmd ctrl alt state = some (n, state')) : sig.Follows state n state' := by
  have hall : state &&& 0xFF = state := UInt8.and_neg_one
  unfold modifierNotification at h
  repeat' split at h
  all_goals cases h
  · next h => exact Signal.follows_on 0x80 0xBF 0x80 (by decide) hsig h.1
  · next h => exact Signal.follows_off 0x80 0x7F (by decide) hsig h.1
  · next h =>
    have hfollows := Signal.follows_on 0x60 0xFF 0x60 (n := .kPS2C_ALT_Funtion_on) (by decide) hsig h.1
    rwa [hall] at hfollows
  · -- ALT_Funtion_off is never reached: CNTRL_Feature_off has the same flag and comes first
    next hoff _ h => exact absurd ⟨h.1, fun hall => by simp [hall.1] at h⟩ hoff
  · next h =>
    have hfollows := Signal.follows_on 0x01 0xFF 0x01 (n := .kPS2C_CMDKeyDown) (by decide) hsig h.1
    rwa [hall] at hfollows
  · next h => exact Signal.follows_off 0x01 0xFE (by decide) hsig h.1
  · next h =>
    have hfollows := Signal.follows_on 0x02 0xFF 0x02 (n := .kPS2C_CNTRLKeyDown) (by decide) hsig h.1
    rwa [hall] at hfollows
  · next h => exact Signal.follows_off 0x02 0xFD (by decide) hsig h.1

/-- What is said about the modifiers. -/
structure Told where
  keystate : UInt8
  sent : List PS2Notification

namespace Control

def told (c : Control) : Told := ⟨c.modifierKeystate, c.notified.filter (· ∈ modifierNotifications)⟩

end Control

/-- The notifications sent alternate within each pair, and the flags say which are on. -/
def Told.Paired (t : Told) : Prop :=
  ∀ sig ∈ modifierSignals, sig.pair.after t.sent = some (decide (t.keystate &&& sig.flag ≠ 0))

/-- One turn of the chain of tests. -/
def Told.chain (cmd ctrl alt : Bool) (t : Told) : Told :=
  match modifierNotification cmd ctrl alt t.keystate with
  | some (n, state) => ⟨state, t.sent ++ [n]⟩
  | none => t

theorem told_notify {n : PS2Notification} (hn : n ∉ modifierNotifications) (c : Control) :
    (c.notify n).told = c.told := by
  simp [Control.told, Control.notify, hn]

theorem told_toggleTouchpad (c : Control) : c.toggleTouchpad.told = c.told := by
  unfold Control.toggleTouchpad
  split
  · exact told_notify (by decide) _
  · exact told_notify (by decide) _

theorem told_notifyModifiers (cmd ctrl alt : Bool) (c : Control) :
    (c.notifyModifiers cmd ctrl alt).told = c.told.chain cmd ctrl alt := by
  have hstate : c.told.keystate = c.modifierKeystate := rfl
  unfold Control.notifyModifiers Told.chain
  rw [hstate]
  cases h : modifierNotification cmd ctrl alt c.modifierKeystate with
  | none => rfl
  | some r =>
    have hmem := modifierNotification_mem h
    simp [Control.told, Control.notify, hmem]

theorem paired_chain {t : Told} (h : t.Paired) (cmd ctrl alt : Bool) : (t.chain cmd ctrl alt).Paired := by
  unfold Told.chain
  cases hn : modifierNotification cmd ctrl alt t.keystate with
  | none => exact h
  | some r =>
    intro sig hsig
    have hafter := h sig hsig
    show sig.pair.after (t.sent ++ [r.1]) = some (decide (r.2 &&& sig.flag ≠ 0))
    rcases modifierNotification_signal hsig hn with ⟨hon, hwas, his⟩ | ⟨hoff, hwas, his⟩ | ⟨hon, hoff, hsame⟩
    · rw [hon, sig.pair.after_on (by simpa [hwas] using hafter)]
      simp [his]
    · rw [hoff, sig.pair.after_off (by simpa [hwas] using hafter)]
      simp [his]
    · rw [sig.pair.after_other hon hoff, hafter, hsame]

/-! One event. -/

/-- The positions of the three keys, as a mapping can give them. -/
structure Positions where
  command : UInt8
  control : UInt8
  alt : UInt8
  position : ∀ k ∈ [command, control, alt], k ∈ modifierPositions ∨ k = getModifiersPosition .other

/-- The keys have these positions, and neither display sleep nor the feature toggle mode is active. -/
structure Plain (pos : Positions) (s : Keyboard) : Prop where
  positions : (s.commandKey, s.contrlKey, s.altkey) = (pos.command, pos.control, pos.alt)
  displaySleep : s.displaySleep = false
  featureToggleMode : s.featureToggleMode = false

instance (pos : Positions) (s : Keyboard) : Decidable (Plain pos s) :=
  decidable_of_iff (_ ∧ _ ∧ _) ⟨fun h => ⟨h.1, h.2.1, h.2.2⟩, fun h => ⟨h.positions, h.displaySleep, h.featureToggleMode⟩⟩

theorem positions_dispatchModifier (keyCode : UInt8) (goingDown : Bool) (s : Keyboard) :
    ((s.dispatchModifier w keyCode goingDown).commandKey, (s.dispatchModifier w keyCode goingDown).contrlKey,
      (s.dispatchModifier w keyCode goingDown).altkey) = (s.commandKey, s.contrlKey, s.altkey) := by
  have hchain : (s.notifyModifiers.commandKey, s.notifyModifiers.contrlKey, s.notifyModifiers.altkey) =
      (s.commandKey, s.contrlKey, s.altkey) := by
    unfold notifyModifiers
    split <;> rfl
  unfold dispatchModifier when
  dsimp only
  repeat' split
  all_goals exact hchain

theorem positions_dispatchNormal (keyCode : UInt8) (goingDown : Bool) (s : Keyboard) :
    ((s.dispatchNormal w keyCode goingDown).commandKey, (s.dispatchNormal w keyCode goingDown).contrlKey,
      (s.dispatchNormal w keyCode goingDown).altkey) = (s.commandKey, s.contrlKey, s.altkey) := by
  unfold dispatchNormal
  dsimp only
  repeat' split
  all_goals rfl

theorem told_fnEffect {c c' : Control} (h : FnEffect c c') : c'.told = c.told := by
  cases h with
  | none => rfl
  | touchpad => exact told_toggleTouchpad c
  | displaySleep => exact told_toggleTouchpad c

/-- A key is dispatched as a modifier, or says nothing about the modifiers; the modifiers
themselves are dispatched so when their positions are the present ones. -/
theorem dispatchKey_cases {s : Keyboard} (hmode : s.featureToggleMode = false) (hsleep : s.displaySleep = false)
    (hfn : FnClear s.fn) (keyCode : UInt8) (goingDown : Bool) :
    s.dispatchKey w keyCode goingDown = s.dispatchModifier w keyCode goingDown ∨
    ((s.dispatchKey w keyCode goingDown).control.told = s.control.told ∧
      (s.dispatchKey w keyCode goingDown).keyBitVector = s.keyBitVector ∧
      (s.dispatchKey w keyCode goingDown).fn = s.fn ∧
      (keyCode ∈ modifierPositions → s.isModifierKey keyCode = false ∧
        ((s.dispatchKey w keyCode goingDown).commandKey, (s.dispatchKey w keyCode goingDown).contrlKey,
          (s.dispatchKey w keyCode goingDown).altkey) = (s.commandKey, s.contrlKey, s.altkey))) := by
  unfold dispatchKey
  rw [if_neg (by simp [hmode])]
  by_cases hzero : keyCode = 0
  · rw [if_pos hzero]
    exact .inr ⟨rfl, rfl, rfl, fun h => absurd (hzero ▸ h) (by decide)⟩
  rw [if_neg hzero]
  by_cases hcomb : (s.isFnKeyComb keyCode && (s.isFnKeyPressed || s.fnKeysModeNum = 1)) = true
  · rw [if_pos hcomb]
    have heffect := effect_processFnKeys_either w keyCode goingDown s
    have hkeeps := heffect.keeps
    refine .inr ⟨told_fnEffect heffect, hkeeps.1, hkeeps.2.1, fun h => ?_⟩
    have hclear := hfn keyCode h
    simp [isFnKeyComb, hclear] at hcomb
  rw [if_neg hcomb]
  by_cases hmod : s.isModifierKey keyCode = true
  · rw [if_pos (by simp [hsleep, hmod])]
    exact .inl rfl
  have hno : s.isModifierKey keyCode = false := by simpa using hmod
  rw [if_neg (by simp [hno])]
  split
  · have henable : PS2Notification.kPS2C_EnableTouchpad ∉ modifierNotifications := by decide
    rcases control_dispatchNormal w keyCode goingDown s with hsame | ⟨_, hon⟩
    · refine .inr ⟨congrArg Control.told hsame, congrArg Control.keyBitVector hsame, congrArg Control.fn hsame,
        fun _ => ⟨hno, positions_dispatchNormal keyCode goingDown s⟩⟩
    · refine .inr ⟨?_, congrArg Control.keyBitVector hon, congrArg Control.fn hon,
        fun _ => ⟨hno, positions_dispatchNormal keyCode goingDown s⟩⟩
      rw [hon, told_notify henable]
  · exact .inr ⟨rfl, rfl, rfl, fun _ => ⟨hno, rfl⟩⟩

/-- The three keys are up or down in both as in the other. -/
def Positions.Same (pos : Positions) (v v' : UInt8 → Bool) : Prop :=
  ∀ k ∈ [pos.command, pos.control, pos.alt], v' k = v k

/-- What the driver takes to be held of the three keys. -/
def Positions.chain (pos : Positions) (v : UInt8 → Bool) (t : Told) : Told :=
  t.chain (v pos.command) (v pos.control) (v pos.alt)

/-- The key that the switch gives: one of the three has a turn of the chain. -/
theorem modifiers_key {pos : Positions} {t : Keyboard} {keyCode : UInt8} {goingDown : Bool} (hzero : keyCode ≠ 0)
    (hset : t.isKeyDown keyCode = goingDown) (hmode : t.featureToggleMode = false)
    (hsleep : t.displaySleep = false) (hfn : FnClear t.fn)
    (hs' : Plain pos (t.processKey w keyCode goingDown)) :
    (t.processKey w keyCode goingDown).fn = t.fn ∧
    (((t.processKey w keyCode goingDown).keyBitVector = t.keyBitVector ∧
        (t.processKey w keyCode goingDown).control.told = t.control.told ∧
        keyCode ∉ [pos.command, pos.control, pos.alt]) ∨
      (t.processKey w keyCode goingDown).control.told =
        pos.chain (t.processKey w keyCode goingDown).keyBitVector t.control.told) := by
  have hposition : keyCode ∈ [pos.command, pos.control, pos.alt] → keyCode ∈ modifierPositions := by
    intro h
    exact (pos.position keyCode h).resolve_right hzero
  -- a function of Shift keeps all of it, and no modifier has one
  rcases processKey_cases w keyCode goingDown t with ⟨_, hfunction, hcontrol⟩ | heq
  · refine ⟨congrArg Control.fn hcontrol, .inl ⟨congrArg Control.keyBitVector hcontrol,
      congrArg Control.told hcontrol, fun h => ?_⟩⟩
    have hnone : ∀ k ∈ modifierPositions, extendedFunction k = none := by decide +kernel
    rw [hnone keyCode (hposition h)] at hfunction
    cases hfunction
  rw [heq] at hs' ⊢
  have hspecial : Special goingDown t (t.parseSpecialKeys w keyCode goingDown) (t.specialKeyCode keyCode) _ _ :=
    parseSpecialKeys_special keyCode
  have hcode := hspecial.keyCode
  have hcontrol := control_parseSpecialKeys w keyCode goingDown t
  -- the feature mode does not start, since it is off afterwards
  have hstarts : t.startsToggle keyCode goingDown = false := by
    cases hst : t.startsToggle keyCode goingDown with
    | false => rfl
    | true =>
      have hstays := startsToggle_stays w hset hst (t.parseSpecialKeys w keyCode goingDown).2
      exact hstays.symm.trans hs'.featureToggleMode
  rw [hstarts] at hcontrol
  simp only [Bool.false_eq_true, if_false] at hcontrol
  generalize t.parseSpecialKeys w keyCode goingDown = r at hs' hcontrol hcode ⊢
  obtain ⟨r, code⟩ := r
  have hrmode : r.featureToggleMode = false := (congrArg Control.featureToggleMode hcontrol).trans hmode
  have hrsleep : r.displaySleep = false := (congrArg Control.displaySleep hcontrol).trans hsleep
  have hrfn : r.fn = t.fn := congrArg Control.fn hcontrol
  have hrbits : r.keyBitVector = t.keyBitVector := congrArg Control.keyBitVector hcontrol
  have hrtold : r.control.told = t.control.told := congrArg Control.told hcontrol
  -- a key that is not dispatched as a modifier is none of the three
  rcases dispatchKey_cases (w := w) hrmode hrsleep (hrfn ▸ hfn) code goingDown with hmod | ⟨htold, hbits, hfns, hpos⟩
  · show ((r.dispatchKey w code goingDown).fn = t.fn ∧ _)
    have hchain := control_dispatchModifier w code goingDown r
    have hkeep : r.notifyModifiers.fn = r.fn ∧ r.notifyModifiers.keyBitVector = r.keyBitVector := by
      unfold notifyModifiers
      split <;> exact ⟨rfl, rfl⟩
    have hpositions : (r.commandKey, r.contrlKey, r.altkey) = (pos.command, pos.control, pos.alt) := by
      rw [← hs'.positions]
      show _ = ((r.dispatchKey w code goingDown).commandKey, (r.dispatchKey w code goingDown).contrlKey,
        (r.dispatchKey w code goingDown).altkey)
      rw [hmod, positions_dispatchModifier]
    simp only [Prod.mk.injEq] at hpositions
    rw [hmod]
    refine ⟨(congrArg Control.fn hchain).trans (hkeep.1.trans hrfn), .inr ?_⟩
    have hbits : (r.dispatchModifier w code goingDown).keyBitVector = r.keyBitVector :=
      (congrArg Control.keyBitVector hchain).trans hkeep.2
    rw [hchain, control_notifyModifiers, told_notifyModifiers, hrtold, hpositions.1, hpositions.2.1,
      hpositions.2.2, hbits]
    rfl
  · refine ⟨hfns.trans hrfn, .inl ⟨hbits.trans hrbits, htold.trans hrtold, fun h => ?_⟩⟩
    have hsame : code = keyCode := by
      have hcodes : ∀ k ∈ modifierPositions, k ≠ 0x3d ∧ k ≠ 0x45 ∧ k ≠ 0x5d := by decide +kernel
      obtain ⟨h₁, h₂, h₃⟩ := hcodes keyCode (hposition h)
      refine hcode.trans ?_
      unfold specialKeyCode
      rw [if_neg h₁, if_neg h₂, if_neg h₃]
    subst hsame
    obtain ⟨hno, hpositions⟩ := hpos (hposition h)
    have hpresent := hpositions.symm.trans hs'.positions
    simp only [Prod.mk.injEq] at hpresent
    obtain ⟨hcmd, hctrl, halt⟩ := hpresent
    simp only [List.mem_cons, List.not_mem_nil, or_false] at h
    rcases h with h | h | h
    · simp [isModifierKey, hcmd, h] at hno
    · simp [isModifierKey, hctrl, h] at hno
    · simp [isModifierKey, halt, h] at hno

/-- The keyboard backlight has nothing to do with the modifiers. -/
theorem plain_backlight {pos : Positions} {t : Keyboard} {d : Bool}
    (h : Plain pos (t.dispatchKeyboardBacklightNotification d)) : Plain pos t := by
  unfold dispatchKeyboardBacklightNotification at h
  repeat' split at h
  all_goals exact ⟨h.positions, h.displaySleep, h.featureToggleMode⟩

/-- An event leaves the modifier keys and what is said about them as they are, or the
chain of tests has one turn with the keys that are down after it. -/
theorem modifiers_event {pos : Positions} {s : Keyboard} (e : ScanEvent) (hs : Plain pos s)
    (hs' : Plain pos (s.dispatchScanEvent w e)) (hfn : FnClear s.fn) :
    (s.dispatchScanEvent w e).fn = s.fn ∧
    ((pos.Same s.keyBitVector (s.dispatchScanEvent w e).keyBitVector ∧
        (s.dispatchScanEvent w e).control.told = s.control.told) ∨
      (s.dispatchScanEvent w e).control.told =
        pos.chain (s.dispatchScanEvent w e).keyBitVector s.control.told) := by
  have hlight : ∀ (t : Keyboard) (d : Bool), (t.dispatchKeyboardBacklightNotification d).control = t.control :=
    fun t d => control_backlight d t
  cases dispatchScanEvent_cases w e s with
  | done hzero heq =>
    rw [heq]
    have hcontrol := hlight (s.parse w e).1 w.goingDown
    have hbits := congrArg Control.keyBitVector hcontrol
    have hcodes := congrArg Control.fn hcontrol
    rcases (effect_parse w e s).effect with hsame | ⟨_, htoggle⟩
    · rw [hsame] at hcontrol hbits hcodes
      exact ⟨hcodes, .inl ⟨fun k _ => congrFun hbits k, congrArg Control.told hcontrol⟩⟩
    · rw [htoggle] at hcontrol hbits hcodes
      have hkeeps := (FnEffect.touchpad (c := s.control)).keeps
      refine ⟨hcodes.trans hkeeps.2.1, .inl ⟨fun k _ => congrFun (hbits.trans hkeeps.1) k, ?_⟩⟩
      exact (congrArg Control.told hcontrol).trans (told_toggleTouchpad _)
  | discarded _ _ hcontrol heq =>
    rw [heq]
    have hall := (hlight (s.parse w e).1 e.goingDown).trans hcontrol
    exact ⟨congrArg Control.fn hall,
      .inl ⟨fun k _ => congrFun (congrArg Control.keyBitVector hall) k, congrArg Control.told hall⟩⟩
  | key t hne hset hcontrol heq =>
    rw [heq] at hs' ⊢
    have hall := hlight (t.processKey w (s.parse w e).2 e.goingDown) e.goingDown
    have hbits : t.keyBitVector = Function.update s.keyBitVector (s.parse w e).2 e.goingDown :=
      congrArg Control.keyBitVector hcontrol
    have hdown : t.isKeyDown (s.parse w e).2 = e.goingDown := by
      rw [isKeyDown, hbits, Function.update_self]
    have hfn' : t.fn = s.fn := congrArg Control.fn hcontrol
    have htold : t.control.told = s.control.told := by
      rw [hcontrol]
      rfl
    have hkey := modifiers_key hne hdown ((congrArg Control.featureToggleMode hcontrol).trans hs.featureToggleMode)
      ((congrArg Control.displaySleep hcontrol).trans hs.displaySleep) (hfn' ▸ hfn) (plain_backlight hs')
    refine ⟨(congrArg Control.fn hall).trans (hkey.1.trans hfn'), ?_⟩
    rw [hall, show (dispatchKeyboardBacklightNotification _ _).keyBitVector = _ from congrArg Control.keyBitVector hall]
    -- only the bit of the key changes
    rcases hkey.2 with ⟨hsame, hsaid, hother⟩ | hchain
    · refine .inl ⟨fun k hk => ?_, hsaid.trans htold⟩
      have hne : k ≠ (s.parse w e).2 := fun h => hother (h ▸ hk)
      show (t.processKey w (s.parse w e).2 e.goingDown).keyBitVector k = s.keyBitVector k
      rw [hsame, hbits, Function.update_of_ne hne]
    · exact .inr (htold ▸ hchain)

/-! Runs. -/

/-- None of the three keys is held. -/
def Positions.NoneHeld (pos : Positions) (s : Keyboard) : Prop :=
  ∀ k ∈ [pos.command, pos.control, pos.alt], s.isKeyDown k = false

instance (pos : Positions) (s : Keyboard) : Decidable (pos.NoneHeld s) :=
  List.decidableBAll (fun k => s.isKeyDown k = false) [pos.command, pos.control, pos.alt]

/-- The event releases one of the three keys, and the others are up. -/
def Positions.LastRelease (pos : Positions) (w : World) (e : ScanEvent) (s : Keyboard) : Prop :=
  e.goingDown = false ∧ (s.parse w e).2 ∈ [pos.command, pos.control, pos.alt] ∧
    ∀ k ∈ [pos.command, pos.control, pos.alt], k ≠ (s.parse w e).2 → s.isKeyDown k = false

instance (pos : Positions) (w : World) (e : ScanEvent) (s : Keyboard) : Decidable (pos.LastRelease w e s) :=
  letI := List.decidableBAll (fun k => k ≠ (s.parse w e).2 → s.isKeyDown k = false) [pos.command, pos.control, pos.alt]
  inferInstanceAs (Decidable (_ ∧ _ ∧ _))

/-- At most one flag: an event sends one notification at most, so no more can be taken back. -/
def oneFlag : List UInt8 := [0x00, 0x01, 0x02, 0x80]

/-- The modes stay as the run has them, and the last release finds at most one flag. -/
structure Fits (pos : Positions) (s : Keyboard) (l : World × ScanEvent) : Prop where
  before : Plain pos s
  after : Plain pos (s.dispatchScanEvent l.1 l.2)
  oneDue : pos.LastRelease l.1 l.2 s → s.modifierKeystate ∈ oneFlag

instance (pos : Positions) (s : Keyboard) (l : World × ScanEvent) : Decidable (Fits pos s l) :=
  decidable_of_iff (_ ∧ _ ∧ _) ⟨fun h => ⟨h.1, h.2.1, h.2.2⟩, fun h => ⟨h.before, h.after, h.oneDue⟩⟩

/-- No modifier is held, and nothing has been said about them. -/
structure Rested (s : Keyboard) : Prop where
  fn : FnClear s.fn
  keystate : s.modifierKeystate = 0
  sent : ∀ n ∈ s.notifications, n ∉ modifierNotifications

/-- What every step in these modes keeps. -/
structure ModifiersPaired (s : Keyboard) : Prop where
  fn : FnClear s.fn
  paired : s.control.told.Paired

/-- What every step that fits keeps. -/
structure ModifiersTold (pos : Positions) (s : Keyboard) : Prop extends ModifiersPaired s where
  nothing : pos.NoneHeld s → s.modifierKeystate = 0

/-- With the three keys up one turn of the chain takes back one flag. -/
theorem keystate_allUp {t : Told} (h : t.keystate ∈ oneFlag) : (t.chain false false false).keystate = 0 := by
  have hclears : ∀ state ∈ oneFlag,
      ((modifierNotification false false false state).map Prod.snd).getD state = 0 := by decide +kernel
  have hclear := hclears t.keystate h
  unfold Told.chain
  cases hn : modifierNotification false false false t.keystate with
  | none => simpa [hn] using hclear
  | some r => simpa [hn] using hclear

theorem Rested.paired {s : Keyboard} (h : Rested s) : ModifiersPaired s := by
  refine ⟨h.fn, ?_⟩
  have hsent : s.control.told.sent = [] := by
    rw [List.eq_nil_iff_forall_not_mem]
    intro n hn
    simp only [Control.told, control, List.mem_filter, decide_eq_true_eq] at hn
    exact h.sent n hn.1.1 hn.2
  have hkeystate : s.control.told.keystate = 0 := h.keystate
  intro sig _
  rw [hsent, hkeystate]
  simp

theorem paired_step {pos : Positions} {s s' : Keyboard} {l : World × ScanEvent} (h : ModifiersPaired s)
    (hplain : Plain pos s ∧ Plain pos (s.dispatchScanEvent l.1 l.2)) (hstep : s.handle l = some s') :
    ModifiersPaired s' := by
  obtain rfl := Option.some.inj hstep
  obtain ⟨hfn, hevent⟩ := modifiers_event l.2 hplain.1 hplain.2 h.fn
  refine ⟨hfn ▸ h.fn, ?_⟩
  rcases hevent with ⟨_, hsame⟩ | hchain
  · exact hsame ▸ h.paired
  · rw [hchain]
    exact paired_chain h.paired _ _ _

theorem told_step {pos : Positions} {s s' : Keyboard} {l : World × ScanEvent} (h : ModifiersTold pos s)
    (hfits : Fits pos s l) (hstep : s.handle l = some s') : ModifiersTold pos s' := by
  have hpaired := paired_step h.toModifiersPaired ⟨hfits.before, hfits.after⟩ hstep
  obtain rfl := Option.some.inj hstep
  obtain ⟨hfn, hevent⟩ := modifiers_event l.2 hfits.before hfits.after h.fn
  refine ⟨hpaired, fun hup => ?_⟩
  -- nothing is left on: nothing was on before, or the last key has been released
  have hkeystate : s.modifierKeystate ∈ oneFlag ∧ (pos.NoneHeld s → s.modifierKeystate = 0) := by
    refine ⟨?_, h.nothing⟩
    by_cases hnone : pos.NoneHeld s
    · rw [h.nothing hnone]
      decide
    refine hfits.oneDue ?_
    rcases keyBitVector_event l.1 l.2 s with hsame | ⟨_, hupdate⟩
    · exact absurd (fun k hk => (congrFun hsame k).symm.trans (hup k hk)) hnone
    have hother : ∀ k ∈ [pos.command, pos.control, pos.alt], k ≠ (s.parse l.1 l.2).2 → s.isKeyDown k = false := by
      intro k hk hne
      have hk' := hup k hk
      rw [isKeyDown, hupdate, Function.update_of_ne hne] at hk'
      exact hk'
    have hmem : (s.parse l.1 l.2).2 ∈ [pos.command, pos.control, pos.alt] := by
      by_contra hout
      exact hnone fun k hk => hother k hk fun heq => hout (heq ▸ hk)
    have hkey := hup _ hmem
    rw [isKeyDown, hupdate, Function.update_self] at hkey
    exact ⟨hkey, hmem, hother⟩
  have hcmd := hup pos.command (by simp)
  have hctrl := hup pos.control (by simp)
  have halt := hup pos.alt (by simp)
  rcases hevent with ⟨hsame, htold⟩ | hchain
  · have hnone : pos.NoneHeld s := fun k hk => (hsame k hk).symm.trans (hup k hk)
    exact (congrArg Told.keystate htold).trans (h.nothing hnone)
  · have htold := congrArg Told.keystate hchain
    unfold Positions.chain at htold
    rw [show (s.dispatchScanEvent l.1 l.2).keyBitVector pos.command = false from hcmd,
      show (s.dispatchScanEvent l.1 l.2).keyBitVector pos.control = false from hctrl,
      show (s.dispatchScanEvent l.1 l.2).keyBitVector pos.alt = false from halt] at htold
    exact htold.trans (keystate_allUp hkeystate.1)

/-- The last one of every pair is that of its flag. -/
theorem ModifiersPaired.after {s : Keyboard} (h : ModifiersPaired s) : ∀ sig ∈ modifierSignals,
    sig.pair.after s.notifications = some (decide (s.modifierKeystate &&& sig.flag ≠ 0)) := by
  have hlists : ∀ sig ∈ modifierSignals, sig.pair.on ∈ modifierNotifications ∧
      sig.pair.off ∈ modifierNotifications := by decide
  have hsub : ∀ n ∈ modifierNotifications, n ∈ controlNotifications := by decide
  intro sig hsig
  obtain ⟨hon, hoff⟩ := hlists sig hsig
  have hpaired := h.paired sig hsig
  simp only [Control.told, control] at hpaired
  rw [sig.pair.after_filter (by simpa using hon) (by simpa using hoff),
    sig.pair.after_filter (by simpa using hsub _ hon) (by simpa using hsub _ hoff)] at hpaired
  exact hpaired

/-- The notifications about the modifiers come in pairs. In a run in which every release of
the last modifier finds at most one of them on, and not the one for Command + ALT, nothing is
left on while no modifier is held. -/
theorem modifiers_paired {pos : Positions} {start : Keyboard} (hstart : Rested start) :
    (∀ s, Transition.Reaches handle (fun s l => Plain pos s ∧ Plain pos (s.dispatchScanEvent l.1 l.2)) start s →
      ∀ sig ∈ modifierSignals, ∃ b, sig.pair.after s.notifications = some b) ∧
    ∀ s, Transition.Reaches handle (Fits pos) start s → pos.NoneHeld s →
      (∀ sig ∈ modifierSignals, sig.pair.after s.notifications = some false) ∧ s.modifierKeystate = 0 := by
  constructor
  · intro s h sig hsig
    have hpaired := h.invariant ModifiersPaired hstart.paired fun _ _ _ => paired_step
    exact ⟨_, hpaired.after sig hsig⟩
  · intro s h hup
    have htold := h.invariant (ModifiersTold pos) ⟨hstart.paired, fun _ => hstart.keystate⟩ fun _ _ _ => told_step
    have hzero := htold.nothing hup
    refine ⟨fun sig hsig => ?_, hzero⟩
    rw [htold.after sig hsig, hzero]
    simp

/-! Two runs. -/

theorem fnClear_readFnKeys (fnMode : Option UInt8) {s : Keyboard} (h : FnClear s.fn) :
    FnClear (s.readFnKeys fnMode).fn := by
  have hsleep : ∀ fn : FnKeys, FnClear fn → FnClear { fn with sleep := 0 } := by
    intro fn hfn
    rw [fnClear_iff] at hfn ⊢
    intro c hc
    by_cases hzero : c = 0
    · rw [hzero]
      decide
    apply hfn c
    -- the key code of sleep is the fifth of the list
    change c ∈ [_, _, _, _] ++ 0 :: _ at hc
    show c ∈ [_, _, _, _] ++ fn.sleep :: _
    obtain hc | hc := List.mem_append.1 hc
    · exact List.mem_append_left _ hc
    · obtain hc | hc := List.mem_cons.1 hc
      · exact absurd hc hzero
      · exact List.mem_append_right _ (List.mem_cons_of_mem _ hc)
  unfold readFnKeys
  cases fnMode with
  | none => exact h
  | some mode =>
    have hlayout : FnClear ({ s with fnKeysModeNum := mode } : Keyboard).ReadFnKeyLayout.fn :=
      fnClear_ReadFnKeyLayout h
    dsimp only
    generalize ({ s with fnKeysModeNum := mode } : Keyboard).ReadFnKeyLayout = t at hlayout ⊢
    have hmode : FnClear (if t.fnKeysModeNum < 2 then { t.fn with sleep := 0 } else t.fn) := by
      split
      · exact hsleep _ hlayout
      · exact hlayout
    unfold when
    split
    · exact fnClear_ReadFnKeyConfig hmode
    · exact hmode

theorem sameButFn_readFnKeys (fnMode : Option UInt8) (s : Keyboard) :
    SameButFn s.control (s.readFnKeys fnMode).control := by
  unfold readFnKeys
  cases fnMode with
  | none => exact .refl _
  | some mode =>
    have hlayout := sameButFn_ReadFnKeyLayout { s with fnKeysModeNum := mode }
    exact hlayout.trans (sameButFn_when sameButFn_ReadFnKeyConfig _
      { ({ s with fnKeysModeNum := mode } : Keyboard).ReadFnKeyLayout with fn := _ })

theorem rested_started (prefs : Preferences) (maps : ADBMaps) (fnMode : Option UInt8) :
    Rested (started w prefs maps fnMode) := by
  have hread : ((Keyboard.init prefs maps).readKeyboardModifiers w).control = (Keyboard.init prefs maps).control :=
    control_readKeyboardModifiers w _
  have hsame : SameButFn (Keyboard.init prefs maps).control (started w prefs maps fnMode).control :=
    hread ▸ sameButFn_readFnKeys fnMode ((Keyboard.init prefs maps).readKeyboardModifiers w)
  refine ⟨fnClear_readFnKeys fnMode ?_, congrArg Control.modifierKeystate hsame, fun n hn hmod => ?_⟩
  · have hfn : ((Keyboard.init prefs maps).readKeyboardModifiers w).fn = default := congrArg Control.fn hread
    rw [hfn]
    decide
  · have hsub : ∀ n ∈ modifierNotifications, n ∈ controlNotifications := by decide
    have hnone : (started w prefs maps fnMode).control.notified = [] := congrArg Control.notified hsame
    have hmem : n ∈ (started w prefs maps fnMode).control.notified := by
      simp only [control, List.mem_filter, decide_eq_true_eq]
      exact ⟨hn, hsub n hmod⟩
    rw [hnone] at hmem
    cases hmem

def usualPositions : Positions := ⟨0x5b, 0x1d, 0x38, by simp [modifierPositions]⟩

/-- Command with C. -/
def commandLetter : List (World × ScanEvent) :=
  [keyPress true 0x5b, keyPress false 0x2e, keyRelease false 0x2e, keyRelease true 0x5b]

/-- Command and ALT, released in the order they were pressed in. -/
def commandAlt : List (World × ScanEvent) :=
  [keyPress true 0x5b, keyPress false 0x38, keyRelease true 0x5b, keyRelease false 0x38]

theorem modifiers_paired_commandLetter : ∃ s : Keyboard, usualPositions.NoneHeld s ∧
    s.control.told.sent = [.kPS2C_CMDKeyDown, .kPS2C_CMDKeyUp] ∧
    (∀ sig ∈ modifierSignals, sig.pair.after s.notifications = some false) ∧ s.modifierKeystate = 0 := by
  have hexec : ∃ s, Transition.exec handle (Fits usualPositions) afterStart commandLetter = some s ∧
      s.control.told.sent = [.kPS2C_CMDKeyDown, .kPS2C_CMDKeyUp] ∧
      s.isKeyDown 0x5b = false ∧ s.isKeyDown 0x1d = false ∧ s.isKeyDown 0x38 = false := ⟨_, rfl, rfl, rfl, rfl, rfl⟩
  obtain ⟨s, hs, hsent, hcommand, hcontrol, halt⟩ := hexec
  have hup : usualPositions.NoneHeld s := by
    simp [Positions.NoneHeld, usualPositions, hcommand, hcontrol, halt]
  exact ⟨s, hup, hsent, (modifiers_paired (rested_started _ _ _)).2 s (.of_exec _ hs) hup⟩

/-- ALT_Funtion_on is sent when ALT joins Command, and is never taken back. -/
theorem altFunction_leftOn : ∃ s : Keyboard, Rested afterStart ∧
    Transition.Reaches handle (fun s l => Plain usualPositions s ∧ Plain usualPositions (s.dispatchScanEvent l.1 l.2))
      afterStart s ∧
    usualPositions.NoneHeld s ∧
    s.notifications = [.kPS2C_CMDKeyDown, .kPS2C_ALT_Funtion_on, .kPS2C_CMDKeyUp] ∧
    (∃ sig ∈ modifierSignals, sig.pair.after s.notifications = some true) ∧ s.modifierKeystate ≠ 0 := by
  have hexec : ∃ s, Transition.exec handle
        (fun s l => Plain usualPositions s ∧ Plain usualPositions (s.dispatchScanEvent l.1 l.2))
        afterStart commandAlt = some s ∧
      s.notifications = [.kPS2C_CMDKeyDown, .kPS2C_ALT_Funtion_on, .kPS2C_CMDKeyUp] ∧
      s.modifierKeystate = 0x60 ∧
      s.isKeyDown 0x5b = false ∧ s.isKeyDown 0x1d = false ∧ s.isKeyDown 0x38 = false :=
    ⟨_, rfl, rfl, rfl, rfl, rfl, rfl⟩
  obtain ⟨s, hs, hsent, hstate, hcommand, hcontrol, halt⟩ := hexec
  refine ⟨s, rested_started _ _ _, .of_exec _ hs, ?_, hsent, ?_, ?_⟩
  · simp [Positions.NoneHeld, usualPositions, hcommand, hcontrol, halt]
  · rw [hsent]
    decide
  · rw [hstate]
    decide

end ApplePS2.Keyboard
