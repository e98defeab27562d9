import ApplePS2.Keyboard.PowerState
import ApplePS2.Keyboard.PropertyList
import ApplePS2.Transition

/- The indexes used into the scan code tables and the key bit vector: are they in range?
   The key code is rewritten by the switches and by the codes of the property list before
   it is looked up.

   1. `eventIndexes_inRange_iff`: for one event, all indexes are in range just when the key
      code that it is dispatched with is.
   2. `tableCode_lt_iff`: a code of 0x80 or more is a configured one (`configuredCode`).
   3. `tableIndexes_inRange_iff`: the bytes of any run.
   4. `run_beyond`: while it is so, what lies behind the tables makes no difference. -/
namespace ApplePS2

/-- An index used into a table or into the key bit vector. -/
inductive Index where
  | normal (i : Nat)
  | extended (i : Nat)
  | keyBit (i : Nat)
  deriving DecidableEq, Repr

namespace Index

def InRange : Index → Prop
  | normal i => i < 0x80
  | extended i => i < 0x80
  | keyBit i => i < KeyboardDriver.KBV_NUM_KEYCODES

instance : ∀ i : Index, Decidable i.InRange
  | normal i => inferInstanceAs (Decidable (i < 0x80))
  | extended i => inferInstanceAs (Decidable (i < 0x80))
  | keyBit i => inferInstanceAs (Decidable (i < KeyboardDriver.KBV_NUM_KEYCODES))

/-- `PS2ToADBMap[k]`. -/
def ofNormal (k : UInt8) : Index := normal k.toNat

/-- `ExtendedPS2ToADBMap[k]`. -/
def ofExtended (k : UInt8) : Index := extended k.toNat

/-- `KBV_IS_KEYDOWN(k, _keyBitVector)`, `KBV_KEYDOWN` and `KBV_KEYUP`. -/
def ofKeyBit (k : UInt8) : Index := keyBit k.toNat

end Index

namespace Keyboard

open Index

variable (w : World)

/-! The indexes of each procedure, where it uses a table. -/

/-- `extendedCode ? ExtendedPS2ToADBMap[keyCode] : PS2ToADBMap[keyCode]`. -/
def adbIndex (keyCode : UInt8) (s : Keyboard) : Index :=
  if s.extendedCode then ofExtended keyCode else ofNormal keyCode

/-- The gestures that the keyboard asks for itself. -/
def gestureIndexes (n : PS2Notification) (s : Keyboard) : List Index :=
  let s := s.receiveHeader w (UInt32.ofNat n.ctorIdx)
  if n = .kPS2C_Gesture_AppClose then [ofExtended s.commandKey]
  else if n = .kPS2C_Gesture_MissionControl then if s.osxVersion < 12 then [] else [ofExtended s.contrlKey]
  else if n = .kPS2C_Gesture_Launchpad then
    if s.osxVersion < 12 then [] else [ofExtended s.commandKey, ofExtended s.contrlKey]
  else []

/-- The functions that come before the two gestures use no table. -/
def fnKeyDownIndexes (keyCode : UInt8) (s : Keyboard) : List Index :=
  if (keyCode = s.fn.kbrdBrightnessDown || keyCode = s.fn.kbrdBrightnessUp) && s.enabledAsusKBacklight then []
  else if keyCode ∈ [s.fn.mediaPrev, s.fn.mediaNext, s.fn.brightNessDown, s.fn.brightNessUp] then []
  else if keyCode = s.fn.sleep && !s.rateLimited w then []
  else if keyCode = s.fn.missonCtlFun then gestureIndexes w .kPS2C_Gesture_MissionControl s
  else if keyCode = s.fn.launchpadFun then gestureIndexes w .kPS2C_Gesture_Launchpad s
  else []

def dispatchFnKeyIndexes (fnKeyCode : UInt8) (s : Keyboard) : List Index :=
  if fnKeyCode = 0x10 ∨ fnKeyCode = 0x20 then if s.useFinerBrightnesCtrl then [ofNormal s.altkey] else []
  else if fnKeyCode = 0x4c ∨ fnKeyCode = 0x49 then if s.useFinerVolumeCtrl then [ofNormal s.altkey] else []
  else if fnKeyCode = 0 then []
  else if fnKeyCode = s.fn.dispSleep then [ofNormal s.contrlKey]
  else []

def processFnKeysIndexes (keyCode : UInt8) (keyDown : Bool) (s : Keyboard) : List Index :=
  let r := if keyDown then s.fnKeyDown w keyCode (s.rateLimited w) else s.fnKeyUp w keyCode
  (if keyDown then fnKeyDownIndexes w keyCode s else []) ++ dispatchFnKeyIndexes r.2 r.1

def germanIndexes (keyCode : UInt8) (s : Keyboard) : List Index :=
  match germanKey keyCode with
  | none => []
  | some key =>
    (if keyCode = 0x0c then [ofNormal 0x2a] else []) ++
      (if s.isKeyDown s.contrlKey then [ofNormal s.contrlKey] else []) ++ [ofNormal key]

def switchNormalIndexes (keyCode : UInt8) (goingDown : Bool) (s : Keyboard) : List Index :=
  if keyCode ∈ ([0x08, 0x09, 0x0a, 0x0b, 0x0c, 0x1b, 0x10, 0x56] : List UInt8) then
    if s.isKeyDown s.altkey && s.prefs.keyboardTypeID = 0x30 then germanIndexes keyCode s else []
  else if keyCode = 0x3e then
    if s.altHeld && goingDown then gestureIndexes w .kPS2C_Gesture_AppClose s else []
  else if keyCode = 0x0f then
    if s.altHeld && goingDown && s.isKeyDown s.contrlKey then [ofNormal s.contrlKey] else []
  else []

def switchExtendedIndexes (keyCode : UInt8) (goingDown : Bool) (s : Keyboard) : List Index :=
  if keyCode ∈ vendorKeys then
    let code := s.vendorKeyCode keyCode
    (if s.prefs.asusFnKeyWorkAsFunction then [] else [ofExtended keyCode]) ++
      if !goingDown then []
      else if code = 0x4d && s.useFinerBrightnesCtrl then processFnKeysIndexes w 0x10 false s
      else if code = 0x4f && s.useFinerBrightnesCtrl then processFnKeysIndexes w 0x20 false s
      else if code = 0x48 && s.useFinerVolumeCtrl then processFnKeysIndexes w 0x4c false s
      else if code = 0x49 && s.useFinerVolumeCtrl then processFnKeysIndexes w 0x49 false s
      else []
  else if keyCode = 0x53 then
    if s.prefs.makeDelIntoCmdBspace && goingDown then [ofExtended s.commandKey] else []
  else if keyCode = 0x37 then if goingDown && !s.displaySleep then [ofExtended s.commandKey] else []
  else if keyCode = 0x46 then if goingDown then [ofNormal s.contrlKey] else []
  else []

/-- The switch over the key codes. -/
def parseIndexes (e : ScanEvent) (s : Keyboard) : List Index :=
  if e.extended then switchExtendedIndexes w e.keyCode e.goingDown { s with extendedCode := true }
  else switchNormalIndexes w e.keyCode e.goingDown { s with extendedCode := false }

def functionIndexes (keyCode : UInt8) (s : Keyboard) : List Index :=
  match extendedFunction keyCode with
  | none => []
  | some (i, keyCode) =>
    match s.combination i with
    | some _ => [ofNormal 0x2a]
    | none => if keyCode = 0 then [] else [ofNormal 0x2a, ofNormal keyCode]

def specialIndexes (keyCode : UInt8) (goingDown : Bool) (s : Keyboard) : List Index :=
  if keyCode = 0x3d then
    if s.isFnKeyPressed && (s.isKeyDown s.contrlKey || s.isKeyDown s.commandKey) && goingDown then
      gestureIndexes w .kPS2C_Gesture_MissionControl s
    else []
  else if keyCode ∈ ([0x1c, 0x39, 0x01] : List UInt8) then
    if (s.releaseGestureKey || keyCode = 0x01) && s.isKeyDown s.commandKey then [ofExtended s.commandKey] else []
  else []

def dispatchIndexes (keyCode : UInt8) (goingDown : Bool) (s : Keyboard) : List Index :=
  if s.looksUp keyCode then [adbIndex keyCode s]
  else if s.usesFnKey keyCode then processFnKeysIndexes w keyCode goingDown s
  else []

/-- From "Parse Extended functions" to the end. -/
def processIndexes (keyCode : UInt8) (goingDown : Bool) (s : Keyboard) : List Index :=
  if s.hasFunction keyCode then functionIndexes keyCode s
  else
    let r := s.parseSpecialKeys w keyCode goingDown
    specialIndexes w keyCode goingDown s ++ dispatchIndexes w r.2 goingDown r.1

/-- The bits that are tested: those of the modifiers, of the Shift keys and Caps Lock. -/
def modifierBits (s : Keyboard) : List Index :=
  [s.commandKey, s.contrlKey, s.altkey, 0x2a, 0x36, 0x3a].map ofKeyBit

/-- What an event uses of the tables and the key bit vector. -/
def eventIndexes (e : ScanEvent) (s : Keyboard) : List Index :=
  let r := s.parse w e
  modifierBits s ++ parseIndexes w e s ++
    if r.2 = 0 then []
    else
      ofKeyBit r.2 :: modifierBits r.1 ++
        match r.1.updateKeyBitVector r.2 e.goingDown with
        | none => []
        | some t =>
          modifierBits (t.parseSpecialKeys w r.2 e.goingDown).1 ++ processIndexes w r.2 e.goingDown t

/-! All but one of the indexes are codes of keys or positions of modifiers. -/

def AllInRange (is : List Index) : Prop := ∀ i ∈ is, i.InRange

theorem allInRange_nil : AllInRange [] := fun _ h => absurd h List.not_mem_nil

theorem allInRange_cons {i : Index} {is : List Index} (h : i.InRange) (his : AllInRange is) : AllInRange (i :: is) := by
  intro j hj
  rcases List.mem_cons.1 hj with rfl | hj
  · exact h
  · exact his j hj

theorem allInRange_one {i : Index} (h : i.InRange) : AllInRange [i] := allInRange_cons h allInRange_nil

theorem allInRange_append {is js : List Index} : AllInRange (is ++ js) ↔ AllInRange is ∧ AllInRange js :=
  List.forall_mem_append

theorem allInRange_ite {c : Prop} [Decidable c] {is js : List Index} (h : c → AllInRange is) (h' : ¬c → AllInRange js) :
    AllInRange (if c then is else js) := by
  by_cases hc : c
  · rw [if_pos hc]
    exact h hc
  · rw [if_neg hc]
    exact h' hc

theorem allInRange_when {c : Prop} [Decidable c] {is : List Index} (h : AllInRange is) :
    AllInRange (if c then is else []) := allInRange_ite (fun _ => h) fun _ => allInRange_nil

theorem ofNormal_inRange {k : UInt8} : (ofNormal k).InRange ↔ k < 0x80 := by
  show k.toNat < (0x80 : UInt8).toNat ↔ k < 0x80
  exact UInt8.lt_iff_toNat_lt.symm

theorem ofExtended_inRange {k : UInt8} : (ofExtended k).InRange ↔ k < 0x80 := by
  show k.toNat < (0x80 : UInt8).toNat ↔ k < 0x80
  exact UInt8.lt_iff_toNat_lt.symm

theorem ofKeyBit_inRange (k : UInt8) : (ofKeyBit k).InRange := UInt8.toNat_lt k

theorem adbIndex_inRange {keyCode : UInt8} {s : Keyboard} : (adbIndex keyCode s).InRange ↔ keyCode < 0x80 := by
  unfold adbIndex
  split
  · exact ofExtended_inRange
  · exact ofNormal_inRange

theorem modifierBits_inRange (s : Keyboard) : AllInRange (modifierBits s) := by
  intro i hi
  obtain ⟨k, -, rfl⟩ := List.mem_map.1 hi
  exact ofKeyBit_inRange k

variable {w} {s : Keyboard}

theorem gestureIndexes_inRange (h : s.PositionsLow) (n : PS2Notification) : AllInRange (gestureIndexes w n s) := by
  have hread := (alike_receiveHeader (w := w) h.alike (UInt32.ofNat n.ctorIdx)).low
  have hcmd := ofExtended_inRange.2 hread.command
  have hctrl := ofExtended_inRange.2 hread.contrl
  refine allInRange_ite (fun _ => allInRange_one hcmd) fun _ => allInRange_ite (fun _ => ?_) fun _ => allInRange_when ?_
  · exact allInRange_ite (fun _ => allInRange_nil) fun _ => allInRange_one hctrl
  · exact allInRange_ite (fun _ => allInRange_nil) fun _ => allInRange_cons hcmd (allInRange_one hctrl)

theorem fnKeyDownIndexes_inRange (h : s.PositionsLow) (keyCode : UInt8) : AllInRange (fnKeyDownIndexes w keyCode s) :=
  allInRange_ite (fun _ => allInRange_nil) fun _ => allInRange_ite (fun _ => allInRange_nil) fun _ =>
    allInRange_ite (fun _ => allInRange_nil) fun _ => allInRange_ite (fun _ => gestureIndexes_inRange h _) fun _ =>
    allInRange_when (gestureIndexes_inRange h _)

theorem dispatchFnKeyIndexes_inRange (h : s.PositionsLow) (fnKeyCode : UInt8) :
    AllInRange (dispatchFnKeyIndexes fnKeyCode s) := by
  have halt := allInRange_one (ofNormal_inRange.2 h.alt)
  have hctrl := allInRange_one (ofNormal_inRange.2 h.contrl)
  exact allInRange_ite (fun _ => allInRange_when halt) fun _ => allInRange_ite (fun _ => allInRange_when halt) fun _ =>
    allInRange_ite (fun _ => allInRange_nil) fun _ => allInRange_when hctrl

theorem processFnKeysIndexes_inRange (h : s.PositionsLow) (keyCode : UInt8) (keyDown : Bool) :
    AllInRange (processFnKeysIndexes w keyCode keyDown s) := by
  unfold processFnKeysIndexes
  cases keyDown with
  | true =>
    have hdown := (alike_fnKeyDown (w := w) h.alike keyCode (s.rateLimited w)).1.low
    exact allInRange_append.2 ⟨fnKeyDownIndexes_inRange h _, dispatchFnKeyIndexes_inRange hdown _⟩
  | false =>
    have hup := (alike_fnKeyUp (w := w) h.alike keyCode).1.low
    exact allInRange_append.2 ⟨allInRange_nil, dispatchFnKeyIndexes_inRange hup _⟩

theorem germanKey_lt {keyCode key : UInt8} (h : germanKey keyCode = some key) : key < 0x80 := by
  unfold germanKey at h
  split at h
  all_goals cases h
  all_goals decide

theorem germanIndexes_inRange (h : s.PositionsLow) (keyCode : UInt8) : AllInRange (germanIndexes keyCode s) := by
  unfold germanIndexes
  cases hgerman : germanKey keyCode with
  | none => exact allInRange_nil
  | some key =>
    have hshift := allInRange_one (ofNormal_inRange.2 (show (0x2a : UInt8) < 0x80 by decide))
    have hctrl := allInRange_one (ofNormal_inRange.2 h.contrl)
    have hkey := allInRange_one (ofNormal_inRange.2 (germanKey_lt hgerman))
    exact allInRange_append.2 ⟨allInRange_append.2 ⟨allInRange_when hshift, allInRange_when hctrl⟩, hkey⟩

theorem switchNormalIndexes_inRange (h : s.PositionsLow) (keyCode : UInt8) (goingDown : Bool) :
    AllInRange (switchNormalIndexes w keyCode goingDown s) :=
  allInRange_ite (fun _ => allInRange_when (germanIndexes_inRange h keyCode)) fun _ =>
    allInRange_ite (fun _ => allInRange_when (gestureIndexes_inRange h _)) fun _ =>
    allInRange_when (allInRange_when (allInRange_one (ofNormal_inRange.2 h.contrl)))

theorem vendorKeys_lt {keyCode : UInt8} (h : keyCode ∈ vendorKeys) : keyCode < 0x80 :=
  of_decide_eq_true (List.all_eq_true.1 (show vendorKeys.all (fun k => k < 0x80) = true by decide) keyCode h)

theorem switchExtendedIndexes_inRange (h : s.PositionsLow) (keyCode : UInt8) (goingDown : Bool) :
    AllInRange (switchExtendedIndexes w keyCode goingDown s) := by
  have hcmd := allInRange_one (ofExtended_inRange.2 h.command)
  have hctrl := allInRange_one (ofNormal_inRange.2 h.contrl)
  refine allInRange_ite (fun hvendor => allInRange_append.2 ⟨?_, ?_⟩) fun _ => allInRange_ite (fun _ => allInRange_when hcmd)
    fun _ => allInRange_ite (fun _ => allInRange_when hcmd) fun _ => allInRange_when (allInRange_when hctrl)
  · exact allInRange_ite (fun _ => allInRange_nil) fun _ => allInRange_one (ofExtended_inRange.2 (vendorKeys_lt hvendor))
  · exact allInRange_ite (fun _ => allInRange_nil) fun _ =>
      allInRange_ite (fun _ => processFnKeysIndexes_inRange h _ _) fun _ =>
      allInRange_ite (fun _ => processFnKeysIndexes_inRange h _ _) fun _ =>
      allInRange_ite (fun _ => processFnKeysIndexes_inRange h _ _) fun _ =>
      allInRange_when (processFnKeysIndexes_inRange h _ _)

theorem parseIndexes_inRange (h : s.PositionsLow) (e : ScanEvent) : AllInRange (parseIndexes w e s) := by
  have hext : ∀ b, { s with extendedCode := b }.PositionsLow := fun _ => ⟨h.command, h.contrl, h.alt⟩
  exact allInRange_ite (fun _ => switchExtendedIndexes_inRange (hext true) _ _) fun _ =>
    switchNormalIndexes_inRange (hext false) _ _

theorem functionIndexes_inRange (keyCode : UInt8) (s : Keyboard) : AllInRange (functionIndexes keyCode s) := by
  have hshift := ofNormal_inRange.2 (show (0x2a : UInt8) < 0x80 by decide)
  unfold functionIndexes
  cases hfunction : extendedFunction keyCode with
  | none => exact allInRange_nil
  | some p =>
    obtain ⟨i, key⟩ := p
    dsimp only
    cases s.combination i with
    | some keys => exact allInRange_one hshift
    | none =>
      exact allInRange_ite (fun _ => allInRange_nil) fun _ =>
        allInRange_cons hshift (allInRange_one (ofNormal_inRange.2 (extendedFunction_lt hfunction)))

theorem specialIndexes_inRange (h : s.PositionsLow) (keyCode : UInt8) (goingDown : Bool) :
    AllInRange (specialIndexes w keyCode goingDown s) :=
  allInRange_ite (fun _ => allInRange_when (gestureIndexes_inRange h _)) fun _ =>
    allInRange_when (allInRange_when (allInRange_one (ofExtended_inRange.2 h.command)))

/-! The key code that is dispatched is the index that the bound depends on. -/

theorem dispatchIndexes_inRange_iff (h : s.PositionsLow) (keyCode : UInt8) (goingDown : Bool) :
    AllInRange (dispatchIndexes w keyCode goingDown s) ↔ (s.looksUp keyCode = true → keyCode < 0x80) := by
  unfold dispatchIndexes
  by_cases hlooks : s.looksUp keyCode = true
  · rw [if_pos hlooks]
    constructor
    · intro hall _
      exact adbIndex_inRange.1 (hall _ List.mem_cons_self)
    · intro hlt
      exact allInRange_one (adbIndex_inRange.2 (hlt hlooks))
  · rw [if_neg hlooks]
    constructor
    · intro _ hnot
      exact absurd hnot hlooks
    · intro _
      exact allInRange_when (processFnKeysIndexes_inRange h _ _)

theorem processIndexes_inRange_iff (h : s.PositionsLow) (keyCode : UInt8) (goingDown : Bool) :
    AllInRange (processIndexes w keyCode goingDown s) ↔ ∀ k, s.keyTableCode w keyCode goingDown = some k → k < 0x80 := by
  have hspecial := @parseSpecialKeys_special w goingDown s keyCode
  have hparse := (alike_parseSpecialKeys (w := w) h.alike keyCode goingDown).1.low
  have hdispatch := dispatchIndexes_inRange_iff (w := w) hparse (s.parseSpecialKeys w keyCode goingDown).2 goingDown
  rw [looksUp_congr hspecial.modes, hspecial.keyCode] at hdispatch
  unfold processIndexes keyTableCode
  cases s.hasFunction keyCode with
  | true =>
    constructor
    · intro _ k hk
      cases hk
    · intro _
      exact functionIndexes_inRange keyCode s
  | false =>
    show AllInRange (specialIndexes w keyCode goingDown s ++ dispatchIndexes w (s.parseSpecialKeys w keyCode goingDown).2
      goingDown (s.parseSpecialKeys w keyCode goingDown).1) ↔ _
    rw [allInRange_append, and_iff_right (specialIndexes_inRange h keyCode goingDown), hspecial.keyCode, hdispatch]
    cases (s.afterSpecialKeys w keyCode goingDown).looksUp (s.specialKeyCode keyCode) with
    | true =>
      constructor
      · intro hlt k hk
        cases hk
        exact hlt rfl
      · intro hlt _
        exact hlt _ rfl
    | false =>
      constructor
      · intro _ k hk
        cases hk
      · intro _ hk
        cases hk

theorem tableCode_zero {e : ScanEvent} (h : (s.parse w e).2 = 0) : s.tableCode w e = none := by
  rw [keyCode_parse] at h
  unfold tableCode
  cases htarget : s.target e with
  | done u => rfl
  | key extended keyCode codes =>
    rw [htarget] at h
    have hzero : keyCode = 0 := h
    dsimp only
    rw [hzero]
    rfl

theorem tableCode_repeated {e : ScanEvent} (hne : (s.parse w e).2 ≠ 0)
    (h : (s.parse w e).1.updateKeyBitVector (s.parse w e).2 e.goingDown = none) : s.tableCode w e = none := by
  rw [keyCode_parse] at hne h
  have htakes : s.takes e = false := by
    rw [← takes_parse (w := w) hne, h]
    rfl
  unfold tableCode
  rw [htakes]
  cases s.target e with
  | done u => rfl
  | key extended keyCode codes =>
    dsimp only
    rw [Bool.and_false]
    rfl

/-- All indexes that an event uses are in range just when the one is that it is dispatched
with. -/
theorem eventIndexes_inRange_iff (h : s.PositionsLow) (e : ScanEvent) :
    AllInRange (eventIndexes w e s) ↔ ∀ k, s.tableCode w e = some k → k < 0x80 := by
  have hparse := (alike_parse (w := w) h.alike e).1.low
  have hnone : s.tableCode w e = none → ∀ k, s.tableCode w e = some k → k < 0x80 := by
    intro hnone k hk
    rw [hnone] at hk
    cases hk
  unfold eventIndexes
  dsimp only
  rw [allInRange_append,
    and_iff_right (allInRange_append.2 ⟨modifierBits_inRange s, parseIndexes_inRange (w := w) h e⟩)]
  by_cases hzero : (s.parse w e).2 = 0
  · rw [if_pos hzero]
    exact ⟨fun _ => hnone (tableCode_zero hzero), fun _ => allInRange_nil⟩
  · rw [if_neg hzero]
    have hbits : AllInRange (ofKeyBit (s.parse w e).2 :: modifierBits (s.parse w e).1) :=
      allInRange_cons (ofKeyBit_inRange _) (modifierBits_inRange _)
    rw [allInRange_append, and_iff_right hbits]
    cases hset : (s.parse w e).1.updateKeyBitVector (s.parse w e).2 e.goingDown with
    | none => exact ⟨fun _ => hnone (tableCode_repeated hzero hset), fun _ => allInRange_nil⟩
    | some t =>
      have ht : t.PositionsLow := by
        rcases alike_updateKeyBitVector hparse.alike (s.parse w e).2 e.goingDown with ⟨hn, -⟩ | ⟨u, u', hu, -, halike⟩
        · exact absurd (hn.symm.trans hset) (by simp)
        · obtain rfl := Option.some.inj (hu.symm.trans hset)
          exact halike.low
      dsimp only
      rw [allInRange_append, and_iff_right (modifierBits_inRange _), processIndexes_inRange_iff ht,
        tableCode_eq hzero hset]

/-! Only a code of the property list can be 0x80 or more. -/

/-- The code of the property list that the switch puts in the place of a key, 0 for none. -/
def remappedCode (e : ScanEvent) (s : Keyboard) : UInt8 :=
  if !e.extended && e.keyCode = 0x3a then s.prefs.capsKey
  else if e.extended && e.keyCode = 0x1d then s.prefs.rightCntrlKey
  else if e.extended && e.keyCode = 0x38 then s.prefs.rightALTKey
  else 0

/-- The same, with the context menu key, which the special keys replace. -/
def configuredCode (e : ScanEvent) (s : Keyboard) : UInt8 :=
  if (s.target e).keyCode = 0x5d then s.prefs.rightCtxtMKey else s.remappedCode e

theorem target_ite {c : Prop} [Decidable c] {t u : Target} (h : c → t.keyCode < 0x80) (h' : ¬c → u.keyCode < 0x80) :
    (if c then t else u).keyCode < 0x80 := by
  by_cases hc : c
  · rw [if_pos hc]
    exact h hc
  · rw [if_neg hc]
    exact h' hc

theorem target_remapped {e : ScanEvent} (h : s.remappedCode e ≠ 0) : (s.target e).keyCode = s.remappedCode e := by
  obtain ⟨extended, keyCode, goingDown⟩ := e
  unfold remappedCode at h ⊢
  unfold target
  cases extended with
  | false =>
    by_cases hcaps : keyCode = 0x3a
    · subst hcaps
      have hset : s.prefs.capsKey ≠ 0 := h
      show (if s.prefs.capsKey ≠ 0 then s.prefs.capsKey else 0x3a) = s.prefs.capsKey
      rw [if_pos hset]
    · simp [hcaps] at h
  | true =>
    by_cases hctrl : keyCode = 0x1d
    · subst hctrl
      have hset : s.prefs.rightCntrlKey ≠ 0 := h
      show (if s.prefs.rightCntrlKey ≠ 0 then s.prefs.rightCntrlKey else 0x1d) = s.prefs.rightCntrlKey
      rw [if_pos hset]
    · by_cases halt : keyCode = 0x38
      · subst halt
        have hset : s.prefs.rightALTKey ≠ 0 := h
        show (if s.prefs.rightALTKey ≠ 0 then s.prefs.rightALTKey else if s.macintoshMode then 0x5c else 0x38) =
          s.prefs.rightALTKey
        rw [if_pos hset]
      · simp [hctrl, halt] at h

/-- A key that is not remapped keeps a code below 0x80. -/
theorem target_lt {e : ScanEvent} (he : e.keyCode < 0x80) (h : s.remappedCode e = 0) : (s.target e).keyCode < 0x80 := by
  obtain ⟨extended, keyCode, goingDown⟩ := e
  unfold remappedCode at h
  have hzero : (0 : UInt8) < 0x80 := by decide
  have hpick : ∀ (c : Prop) [Decidable c] {a b : UInt8}, a < 0x80 → b < 0x80 → (if c then a else b) < 0x80 := by
    intro c _ a b ha hb
    split
    · exact ha
    · exact hb
  cases extended with
  | false =>
    show (s.normalTarget keyCode goingDown).keyCode < 0x80
    have hgerman : (s.germanTranslation keyCode goingDown).keyCode < 0x80 := by
      unfold germanTranslation
      cases germanKey keyCode with
      | none => exact he
      | some key => exact hzero
    refine target_ite (fun _ => target_ite (fun _ => hgerman) fun _ => he) fun _ =>
      target_ite (fun _ => target_ite (fun _ => hzero) fun _ => he) fun _ =>
      target_ite (fun _ => target_ite (fun _ => hzero) fun _ => he) fun _ =>
      target_ite (fun _ => target_ite (fun _ => hzero) fun _ => he) fun _ => target_ite (fun hcaps => ?_) fun _ =>
      target_ite (fun _ => target_ite (fun _ => show (0x5b : UInt8) < 0x80 by decide) fun _ => he) fun _ =>
      target_ite (fun _ => target_ite (fun _ => he) fun _ => target_ite (fun _ => target_ite
        (fun _ => show (0x34 : UInt8) < 0x80 by decide) fun _ => target_ite
          (fun _ => show (0x33 : UInt8) < 0x80 by decide) fun _ => he) fun _ => he) fun _ =>
      target_ite (fun _ => hpick _ hzero he) fun _ => he
    -- the code that is configured for Caps Lock would be used as it is
    have hnone : s.prefs.capsKey = 0 := by simpa [hcaps] using h
    show (if s.prefs.capsKey ≠ 0 then s.prefs.capsKey else keyCode) < 0x80
    rw [if_neg (not_not_intro hnone)]
    exact he
  | true =>
    show (s.extendedTarget keyCode goingDown).keyCode < 0x80
    refine target_ite (fun _ => hzero) fun _ => target_ite (fun _ => hzero) fun _ => target_ite (fun _ => hzero) fun _ =>
      target_ite (fun hctrl => ?ctrl) fun _ => target_ite (fun halt => ?alt) fun _ =>
      target_ite (fun _ => target_ite (fun _ => show (0x38 : UInt8) < 0x80 by decide) fun _ => he) fun _ =>
      target_ite (fun _ => hpick _ (show (0x38 : UInt8) < 0x80 by decide) he) fun _ =>
      target_ite (fun _ => target_ite (fun _ => hzero) fun _ => he) fun _ => target_ite (fun _ => hzero) fun _ =>
      target_ite (fun _ => he) fun _ => target_ite (fun _ => hzero) fun _ => he
    case ctrl =>
      have hnone : s.prefs.rightCntrlKey = 0 := by simpa [hctrl] using h
      show (if s.prefs.rightCntrlKey ≠ 0 then s.prefs.rightCntrlKey else keyCode) < 0x80
      rw [if_neg (not_not_intro hnone)]
      exact he
    case alt =>
      have hnone : s.prefs.rightALTKey = 0 := by simpa [halt] using h
      show (if s.prefs.rightALTKey ≠ 0 then s.prefs.rightALTKey else if s.macintoshMode then 0x5c else keyCode) < 0x80
      rw [if_neg (not_not_intro hnone)]
      exact hpick _ (show (0x5c : UInt8) < 0x80 by decide) he

/-- The key code after both switches. -/
theorem specialKeyCode_lt_iff {e : ScanEvent} {t : Keyboard} (ht : t.prefs = s.prefs) (he : e.keyCode < 0x80) :
    t.specialKeyCode (s.target e).keyCode < 0x80 ↔ s.configuredCode e < 0x80 := by
  have hsame : (s.target e).keyCode ≠ 0x5d → ((s.target e).keyCode < 0x80 ↔ s.configuredCode e < 0x80) := by
    intro hmenu
    have hcode : s.configuredCode e = s.remappedCode e := if_neg hmenu
    by_cases hnone : s.remappedCode e = 0
    · rw [hcode, hnone]
      exact ⟨fun _ => by decide, fun _ => target_lt he hnone⟩
    · rw [hcode, target_remapped hnone]
  unfold specialKeyCode
  by_cases hmission : (s.target e).keyCode = 0x3d
  · have hlow := (hsame (by rw [hmission]; decide)).1 (by rw [hmission]; decide)
    rw [if_pos hmission, hmission]
    refine ⟨fun _ => hlow, fun _ => ?_⟩
    split <;> decide
  · rw [if_neg hmission]
    by_cases hlock : (s.target e).keyCode = 0x45
    · have hlow := (hsame (by rw [hlock]; decide)).1 (by rw [hlock]; decide)
      rw [if_pos hlock, hlock]
      refine ⟨fun _ => hlow, fun _ => ?_⟩
      split
      · split <;> decide
      · split <;> decide
    · rw [if_neg hlock]
      by_cases hmenu : (s.target e).keyCode = 0x5d
      · have hcode : s.configuredCode e = s.prefs.rightCtxtMKey := if_pos hmenu
        rw [if_pos hmenu, hcode, ht]
        by_cases hright : s.prefs.rightCtxtMKey = 0x5c
        · rw [if_pos hright, hright]
          refine ⟨fun _ => by decide, fun _ => ?_⟩
          split <;> decide
        · rw [if_neg hright]
      · rw [if_neg hmenu]
        exact hsame hmenu

/-- An index of 0x80 or more is used just for a key that stands for such a code of the
property list, when it is dispatched through a table. -/
theorem tableCode_lt_iff {e : ScanEvent} (he : e.keyCode < 0x80) :
    (∀ k, s.tableCode w e = some k → k < 0x80) ↔ s.configuredCode e < 0x80 ∨ s.tableCode w e = none := by
  cases htable : s.tableCode w e with
  | none => exact ⟨fun _ => .inr rfl, fun _ k hk => by cases hk⟩
  | some k =>
    have hlt : k < 0x80 ↔ s.configuredCode e < 0x80 := by
      unfold tableCode at htable
      cases htarget : s.target e with
      | done u =>
        rw [htarget] at htable
        cases htable
      | key extended keyCode codes =>
        rw [htarget] at htable
        obtain ⟨-, htable⟩ := Option.ite_none_right_eq_some.1 htable
        unfold keyTableCode at htable
        obtain ⟨-, hcode⟩ := Option.ite_none_right_eq_some.1 htable
        obtain rfl := Option.some.inj hcode
        have hfinal := specialKeyCode_lt_iff
          (t := { s with extendedCode := extended }.setKey keyCode e.goingDown) (s := s) rfl he
        rw [htarget] at hfinal
        exact hfinal
    constructor
    · intro hall
      exact .inl (hlt.1 (hall k rfl))
    · rintro (hlow | hnone) j hj
      · cases hj
        exact hlt.2 hlow
      · cases hnone

end Keyboard

/-- A decoded key code has 7 bits. -/
theorem Scanner.keyCode_lt {b : UInt8} {s : Scanner} {e : ScanEvent} (h : (s.interruptOccurred b).2 = some e) :
    e.keyCode < 0x80 := by
  have hmask : b &&& ~~~kSC_UpBit < 0x80 := by
    show b &&& 0x7f < 0x80
    rw [UInt8.lt_iff_toNat_lt, UInt8.toNat_and]
    exact Nat.lt_of_le_of_lt Nat.and_le_right (by decide)
  unfold interruptOccurred dispatchKeyboardEventWithScancode at h
  dsimp only at h
  split_ifs at h
  all_goals cases h
  all_goals exact hmask

namespace KeyboardDriver

open Keyboard

/-- A byte arrives, with what the driver finds in the world then. -/
def receiveByte (d : KeyboardDriver) (l : World × UInt8) : KeyboardDriver := d.interruptOccurred l.1 l.2

/-- What a byte uses of the tables and the key bit vector: nothing before its sequence ends. -/
def indexes (d : KeyboardDriver) (l : World × UInt8) : List Index :=
  match (d.scanner.interruptOccurred l.2).2 with
  | none => []
  | some e => eventIndexes l.1 e d.keyboard

/-- No key that stands for a configured code of 0x80 or more is dispatched through a table. -/
def CodesLow (d : KeyboardDriver) (l : World × UInt8) : Prop :=
  ∀ e, (d.scanner.interruptOccurred l.2).2 = some e →
    d.keyboard.configuredCode e < 0x80 ∨ d.keyboard.tableCode l.1 e = none

theorem receiveByte_keyboard (d : KeyboardDriver) (l : World × UInt8) :
    (d.receiveByte l).keyboard = match (d.scanner.interruptOccurred l.2).2 with
      | none => d.keyboard
      | some e => d.keyboard.dispatchScanEvent l.1 e := by
  unfold receiveByte KeyboardDriver.interruptOccurred
  obtain ⟨scanner, event⟩ := d.scanner.interruptOccurred l.2
  cases event with
  | none => rfl
  | some e => rfl

theorem receiveByte_scanner (d : KeyboardDriver) (l : World × UInt8) :
    (d.receiveByte l).scanner = (d.scanner.interruptOccurred l.2).1 := by
  unfold receiveByte KeyboardDriver.interruptOccurred
  obtain ⟨scanner, event⟩ := d.scanner.interruptOccurred l.2
  cases event with
  | none => rfl
  | some e => rfl

theorem indexes_inRange_iff {d : KeyboardDriver} (h : d.keyboard.PositionsLow) (l : World × UInt8) :
    AllInRange (d.indexes l) ↔ d.CodesLow l := by
  unfold indexes CodesLow
  cases hevent : (d.scanner.interruptOccurred l.2).2 with
  | none => exact ⟨fun _ e he => absurd he (by simp), fun _ => allInRange_nil⟩
  | some e =>
    dsimp only
    rw [eventIndexes_inRange_iff h, tableCode_lt_iff (Scanner.keyCode_lt hevent)]
    constructor
    · intro hlow k hk
      cases hk
      exact hlow
    · intro hlow
      exact hlow e rfl

/-- Two drivers that differ only behind the tables stay so. -/
theorem receiveByte_alike {d d' : KeyboardDriver} (hscanner : d'.scanner = d.scanner) (h : Alike d.keyboard d'.keyboard)
    {l : World × UInt8} (hlow : d.CodesLow l) :
    (d'.receiveByte l).scanner = (d.receiveByte l).scanner ∧
      Alike (d.receiveByte l).keyboard (d'.receiveByte l).keyboard := by
  rw [receiveByte_scanner, receiveByte_scanner, receiveByte_keyboard, receiveByte_keyboard, hscanner]
  refine ⟨rfl, ?_⟩
  cases hevent : (d.scanner.interruptOccurred l.2).2 with
  | none => exact h
  | some e => exact alike_dispatchScanEvent h ((tableCode_lt_iff (Scanner.keyCode_lt hevent)).2 (hlow e hevent))

/-- The driver when `start` has ended. -/
def afterStart (w : World) (kbPrefs : Option (List (String × PropertyValue))) (prefs : Preferences) (maps : ADBMaps)
    (fnMode : Option UInt8) : KeyboardDriver := ⟨⟨true, 0⟩, startedWith w kbPrefs prefs maps fnMode⟩

/-- In every run, the indexes of every byte are in range just when no key that stands for
a configured code of 0x80 or more is dispatched through a table. -/
theorem tableIndexes_inRange_iff (w : World) (kbPrefs : Option (List (String × PropertyValue))) (prefs : Preferences)
    (maps : ADBMaps) (fnMode : Option UInt8) (ls : List (World × UInt8)) :
    (∀ p l, p ++ [l] <+: ls →
      AllInRange ((Transition.run receiveByte p (afterStart w kbPrefs prefs maps fnMode)).indexes l)) ↔
    ∀ p l, p ++ [l] <+: ls →
      (Transition.run receiveByte p (afterStart w kbPrefs prefs maps fnMode)).CodesLow l := by
  have hkeep : ∀ (d : KeyboardDriver) l, d.keyboard.PositionsLow → AllInRange (d.indexes l) →
      (d.receiveByte l).keyboard.PositionsLow := fun d l hlow hin =>
    (receiveByte_alike rfl hlow.alike ((indexes_inRange_iff hlow l).1 hin)).2.low
  exact Transition.run_property_iff (I := fun d : KeyboardDriver => d.keyboard.PositionsLow) hkeep
    (fun d l hlow => indexes_inRange_iff hlow l) ls (startedWith_low w kbPrefs prefs maps fnMode)

/-- The right Control key as the key 0x90, and its make. -/
theorem rightControl_beyond :
    ¬AllInRange ((Transition.run receiveByte [(quietWorld, 0xe0)]
      (afterStart quietWorld (some [("Make right control into key", .number 0x90)]) .init (.initial fun _ => DEADKEY)
        none)).indexes (quietWorld, 0x1d)) := by
  intro hall
  have hused := hall (.ofExtended 0x90) (by decide +kernel)
  exact absurd hused (by decide)

/-- As long as the condition is met, what lies behind the tables makes no difference: the drivers' states differ only
there, and they send the same. -/
theorem run_beyond {d d' : KeyboardDriver} (hscanner : d'.scanner = d.scanner) (h : Alike d.keyboard d'.keyboard)
    (ls : List (World × UInt8)) (hlow : ∀ p l, p ++ [l] <+: ls → (Transition.run receiveByte p d).CodesLow l) :
    (Transition.run receiveByte ls d').scanner = (Transition.run receiveByte ls d).scanner ∧
      Alike (Transition.run receiveByte ls d).keyboard (Transition.run receiveByte ls d').keyboard ∧
      (Transition.run receiveByte ls d').keyboard.log = (Transition.run receiveByte ls d).keyboard.log := by
  induction ls generalizing d d' with
  | nil =>
    obtain ⟨m, hm⟩ := h.same
    exact ⟨hscanner, h, by rw [Transition.run, Transition.run, List.foldl_nil, List.foldl_nil, hm]⟩
  | cons l ls ih =>
    have hfirst := receiveByte_alike hscanner h (hlow [] l (List.prefix_append [l] ls))
    refine ih hfirst.1 hfirst.2 fun p k hp => ?_
    exact hlow (l :: p) k (List.cons_prefix_cons.2 ⟨rfl, hp⟩)

/-- The driver without settings, and with other memory behind its tables. -/
def unconfigured : KeyboardDriver := afterStart quietWorld none .init (.initial fun _ => DEADKEY) none

def otherBehind (behind : UInt8) : KeyboardDriver :=
  let m := unconfigured.keyboard.maps
  { unconfigured with keyboard.maps :=
      { ps2ToADBMap := fun k => if k < 0x80 then m.ps2ToADBMap k else behind
        extendedPS2ToADBMap := fun k => if k < 0x80 then m.extendedPS2ToADBMap k else behind } }

/-- The make of the key A is sent whatever lies there. -/
theorem run_beyond_keyA :
    let d := Transition.run receiveByte [(quietWorld, 0x1e)] unconfigured
    let d' := Transition.run receiveByte [(quietWorld, 0x1e)] (otherBehind 5)
    d'.scanner = d.scanner ∧ Alike d.keyboard d'.keyboard ∧ d'.keyboard.log = d.keyboard.log := by
  have hlow : unconfigured.keyboard.PositionsLow :=
    startedWith_low quietWorld none .init (.initial fun _ => DEADKEY) none
  have halike : Alike unconfigured.keyboard (otherBehind 5).keyboard :=
    ⟨⟨fun _ hk => if_pos hk, fun _ hk => if_pos hk⟩, hlow, _, rfl⟩
  have hscanner : (otherBehind 5).scanner = unconfigured.scanner := rfl
  refine run_beyond hscanner halike _ fun p l hp => ?_
  obtain ⟨q, hq⟩ := hp
  cases p with
  | nil =>
    obtain ⟨rfl, -⟩ := List.cons.inj hq
    intro e he
    obtain rfl : (⟨false, 0x1e, true⟩ : ScanEvent) = e := Option.some.inj he
    exact .inl (by decide +kernel)
  | cons k p => simp at hq

end KeyboardDriver

end ApplePS2
