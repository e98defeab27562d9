import ApplePS2.Keyboard.Lamps

/- What the driver reads of the scan code tables: two drivers whose tables hold the same
   below 0x80 do the same with every event, as long as no key with a code of 0x80 or more
   is dispatched through a table.

   `Alike` relates the two drivers; each procedure has a lemma that it keeps them alike.
   1. `alike_parse`, `alike_parseSpecialKeys`: the switches read the tables at the codes of
      keys, and at the positions of the modifiers.
   2. `alike_dispatchKey`: the dispatch reads them at the key code (`looksUp`).
   3. `alike_dispatchScanEvent`: the whole event. -/
namespace ApplePS2

/-- The tables hold the same at the indexes they have. -/
structure ADBMaps.Agree (m m' : ADBMaps) : Prop where
  normal : ∀ k, k < 0x80 → m'.ps2ToADBMap k = m.ps2ToADBMap k
  extended : ∀ k, k < 0x80 → m'.extendedPS2ToADBMap k = m.extendedPS2ToADBMap k

theorem ADBMaps.Agree.readFnKeyLayout {m m' : ADBMaps} (h : m.Agree m') (v : Vendor) :
    (m.readFnKeyLayout v).Agree (m'.readFnKeyLayout v) where
  normal := h.normal
  extended := by
    intro k hk
    have hsame := h.extended k hk
    unfold ADBMaps.readFnKeyLayout
    dsimp only
    rw [hsame]

namespace Keyboard

/-- The modifiers have key codes below 0x80. -/
structure PositionsLow (s : Keyboard) : Prop where
  command : s.commandKey < 0x80
  contrl : s.contrlKey < 0x80
  alt : s.altkey < 0x80

/-- Two drivers in the same state, but for what lies behind the tables. -/
structure Alike (s s' : Keyboard) : Prop where
  agree : s.maps.Agree s'.maps
  low : s.PositionsLow
  same : ∃ m, s' = { s with maps := m }

theorem PositionsLow.alike {s : Keyboard} (h : s.PositionsLow) : Alike s s :=
  ⟨⟨fun _ _ => rfl, fun _ _ => rfl⟩, h, s.maps, rfl⟩

/-- The same, with a key code. -/
def AlikeKey (r r' : Keyboard × UInt8) : Prop := Alike r.1 r'.1 ∧ r'.2 = r.2

variable {w : World} {s s' : Keyboard}

def positions (s : Keyboard) : UInt8 × UInt8 × UInt8 := (s.commandKey, s.contrlKey, s.altkey)

theorem PositionsLow.congr (h : s.PositionsLow) (hpos : s'.positions = s.positions) : s'.PositionsLow := by
  simp only [positions, Prod.mk.injEq] at hpos
  obtain ⟨hcommand, hcontrl, halt⟩ := hpos
  exact ⟨hcommand ▸ h.command, hcontrl ▸ h.contrl, halt ▸ h.alt⟩

/-- A procedure that neither reads the tables nor changes the positions. -/
theorem Alike.map (h : Alike s s') (F : Keyboard → Keyboard)
    (hF : ∀ (t : Keyboard) (m : ADBMaps), F { t with maps := m } = { F t with maps := m })
    (hmaps : ∀ t, (F t).maps = t.maps) (hpos : ∀ t, (F t).positions = t.positions) : Alike (F s) (F s') := by
  obtain ⟨hagree, hlow, m, rfl⟩ := h
  have hsame : F { s with maps := m } = { F s with maps := m } := hF s m
  have hkept : (F s).maps.Agree m := by
    rw [hmaps s]
    exact hagree
  exact ⟨by rw [hsame]; exact hkept, hlow.congr (hpos s), m, hsame⟩

theorem Alike.normalCode (h : Alike s s') {k : UInt8} (hk : k < 0x80) : s'.normalCode k = s.normalCode k :=
  h.agree.normal k hk

theorem Alike.extCode (h : Alike s s') {k : UInt8} (hk : k < 0x80) : s'.extCode k = s.extCode k :=
  h.agree.extended k hk

theorem alike_ite {c : Prop} [Decidable c] {a b a' b' : Keyboard} (h : c → Alike a a') (h' : ¬c → Alike b b') :
    Alike (if c then a else b) (if c then a' else b') := by
  by_cases hc : c
  · rw [if_pos hc, if_pos hc]
    exact h hc
  · rw [if_neg hc, if_neg hc]
    exact h' hc

theorem alikeKey_ite {c : Prop} [Decidable c] {r t r' t' : Keyboard × UInt8} (h : c → AlikeKey r r')
    (h' : ¬c → AlikeKey t t') : AlikeKey (if c then r else t) (if c then r' else t') := by
  by_cases hc : c
  · rw [if_pos hc, if_pos hc]
    exact h hc
  · rw [if_neg hc, if_neg hc]
    exact h' hc

theorem alike_when {f f' : Keyboard → Keyboard} (h : Alike s s') (c : Bool) (hf : Alike (f s) (f' s')) :
    Alike (s.when c f) (s'.when c f') := alike_ite (fun _ => hf) fun _ => h

/-! What is sent, and the keys pressed. -/

theorem alike_dispatch (h : Alike s s') (c : UInt8) (d : Bool) :
    Alike (s.dispatchKeyboardKeyCode w c d) (s'.dispatchKeyboardKeyCode w c d) :=
  h.map (dispatchKeyboardKeyCode w c d) (fun _ _ => rfl) (fun _ => rfl) fun _ => rfl

theorem alike_send (h : Alike s s') (n : Sent) : Alike (s.send n) (s'.send n) :=
  h.map (send n) (fun _ _ => rfl) (fun _ => rfl) fun _ => rfl

theorem alike_notify (h : Alike s s') (n : PS2Notification) : Alike (s.notify n) (s'.notify n) := alike_send h _

/-- A code that is read from a table is passed as an equation. -/
theorem alike_dispatchCode (h : Alike s s') {c c' : UInt8} (hc : c' = c) (d : Bool) :
    Alike (s.dispatchKeyboardKeyCode w c d) (s'.dispatchKeyboardKeyCode w c' d) := by
  rw [hc]
  exact alike_dispatch h c d

theorem alike_chord (h : Alike s s') (ks : List UInt8) : Alike (s.chord w ks) (s'.chord w ks) := by
  induction ks generalizing s s' with
  | nil => exact h
  | cons k ks ih => exact alike_dispatch (ih (alike_dispatch h k true)) k false

theorem alike_chordCodes (h : Alike s s') {ks ks' : List UInt8} (hks : ks' = ks) :
    Alike (s.chord w ks) (s'.chord w ks') := by
  rw [hks]
  exact alike_chord h ks

theorem alike_releaseKey (h : Alike s s') {c c' : UInt8} (hc : c' = c) :
    Alike (s.releaseKey w c) (s'.releaseKey w c') := alike_chordCodes h (by rw [hc])

theorem alike_repeatChord (h : Alike s s') (c : UInt8) (n : Nat) :
    Alike (s.repeatChord w c n) (s'.repeatChord w c n) := by
  induction n generalizing s s' with
  | zero => exact h
  | succ n ih => exact ih (alike_chord h [c])

theorem alike_dispatchAll (h : Alike s s') (d : Bool) (cs : List UInt8) :
    Alike (s.dispatchAll w d cs) (s'.dispatchAll w d cs) := by
  induction cs generalizing s s' with
  | nil => exact h
  | cons c cs ih => exact ih (alike_dispatch h c d)

theorem alike_setAlphaLockFeedback (h : Alike s s') (locked : Bool) :
    Alike (s.setAlphaLockFeedback locked) (s'.setAlphaLockFeedback locked) :=
  h.map (setAlphaLockFeedback locked) (fun _ _ => rfl) (fun _ => rfl) fun _ => rfl

theorem alike_setNumLockFeedback (h : Alike s s') (locked : Bool) :
    Alike (s.setNumLockFeedback locked) (s'.setNumLockFeedback locked) := by
  obtain ⟨m, rfl⟩ := h.same
  refine alike_ite (fun _ => h) fun _ => ?_
  exact h.map (fun s => let ledState := if locked then s.ledState ||| kLED_NumLock else s.ledState &&& ~~~kLED_NumLock
    { s with ledState := ledState }.setLEDs ledState) (fun _ _ => rfl) (fun _ => rfl) fun _ => rfl

theorem alike_toggleTouchpad (h : Alike s s') : Alike s.toggleTouchpad s'.toggleTouchpad := by
  have hset : ∀ b : Bool, Alike { s with isTPadEnabled := b } { s' with isTPadEnabled := b } := fun b =>
    h.map (fun s => { s with isTPadEnabled := b }) (fun _ _ => rfl) (fun _ => rfl) fun _ => rfl
  obtain ⟨m, rfl⟩ := h.same
  exact alike_ite (fun _ => alike_notify (hset false) _) fun _ => alike_notify (hset true) _

theorem alike_backlight (h : Alike s s') (d : Bool) :
    Alike (s.dispatchKeyboardBacklightNotification d) (s'.dispatchKeyboardBacklightNotification d) := by
  obtain ⟨m, rfl⟩ := h.same
  exact alike_ite (fun _ => alike_ite (fun _ => alike_notify h _) fun _ => alike_notify h _) fun _ => h

theorem alike_setKey (h : Alike s s') (n : UInt8) (down : Bool) : Alike (s.setKey n down) (s'.setKey n down) :=
  h.map (setKey n down) (fun _ _ => rfl) (fun _ => rfl) fun _ => rfl

/-! The positions of the modifiers. -/

theorem getModifiersPosition_lt (k : NXModifierKey) : getModifiersPosition k < 0x80 := by
  cases k
  all_goals decide

theorem mapModifier_low (h : s.PositionsLow) (p : ModifierPair) : (s.mapModifier p).PositionsLow := by
  have hsrc := getModifiersPosition_lt p.src
  unfold mapModifier
  split
  · exact ⟨hsrc, h.contrl, h.alt⟩
  · exact ⟨h.command, hsrc, h.alt⟩
  · exact ⟨h.command, h.contrl, hsrc⟩
  · exact h

theorem mapModifiers_low (h : s.PositionsLow) (modifiers : Option (List ModifierPair)) :
    (s.mapModifiers modifiers).PositionsLow := by
  have hfold : ∀ (ps : List ModifierPair) (s : Keyboard), s.PositionsLow → (ps.foldl mapModifier s).PositionsLow := by
    intro ps
    induction ps with
    | nil => exact fun s h => h
    | cons p ps ih => exact fun s h => ih _ (mapModifier_low h p)
  unfold mapModifiers
  split
  · exact h
  · exact ⟨show (0x5b : UInt8) < 0x80 by decide, show (0x1d : UInt8) < 0x80 by decide,
      show (0x38 : UInt8) < 0x80 by decide⟩
  · exact hfold _ s h

theorem maps_mapModifiers (m : ADBMaps) (modifiers : Option (List ModifierPair)) (s : Keyboard) :
    { s with maps := m }.mapModifiers modifiers = { s.mapModifiers modifiers with maps := m } := by
  have hone : ∀ (p : ModifierPair) (s : Keyboard), { s with maps := m }.mapModifier p = { s.mapModifier p with maps := m } := by
    intro p s
    unfold mapModifier
    split <;> rfl
  have hfold : ∀ (ps : List ModifierPair) (s : Keyboard),
      ps.foldl mapModifier { s with maps := m } = { ps.foldl mapModifier s with maps := m } := by
    intro ps
    induction ps with
    | nil => exact fun s => rfl
    | cons p ps ih =>
      intro s
      rw [List.foldl_cons, hone, ih]
      rfl
  unfold mapModifiers
  split
  · rfl
  · rfl
  · exact hfold _ s

theorem alike_readKeyboardModifiers (h : Alike s s') :
    Alike (s.readKeyboardModifiers w) (s'.readKeyboardModifiers w) := by
  obtain ⟨hagree, hlow, m, rfl⟩ := h
  have hread := mapModifiers_low hlow w.modifierMapping
  have hmaps : (s.mapModifiers w.modifierMapping).maps = s.maps := by
    have hsame : s.mapModifiers w.modifierMapping = { s.mapModifiers w.modifierMapping with maps := s.maps } :=
      maps_mapModifiers s.maps w.modifierMapping s
    have h := congrArg Keyboard.maps hsame
    exact h
  have hkept : (s.mapModifiers w.modifierMapping).maps.Agree m := by
    rw [hmaps]
    exact hagree
  have hother := maps_mapModifiers m w.modifierMapping s
  unfold readKeyboardModifiers
  dsimp only
  refine alike_ite (fun _ => ?_) fun _ => ⟨hagree, hlow, m, rfl⟩
  rw [hother]
  exact ⟨hkept, ⟨hread.command, hread.contrl, hread.alt⟩, m, rfl⟩

theorem alike_receiveHeader (h : Alike s s') (data : UInt32) :
    Alike (s.receiveHeader w data) (s'.receiveHeader w data) := by
  obtain ⟨hagree, hlow, m, rfl⟩ := h
  have hversion : Alike { s with osxVersion := if s.osxVersion = 0 then data.toUInt8 else s.osxVersion }
      { s with maps := m, osxVersion := if s.osxVersion = 0 then data.toUInt8 else s.osxVersion } :=
    ⟨hagree, ⟨hlow.command, hlow.contrl, hlow.alt⟩, m, rfl⟩
  exact alike_when hversion _ (alike_readKeyboardModifiers hversion)

/-- The gestures that the keyboard asks for itself. -/
theorem alike_receiveGesture (h : Alike s s') {n : PS2Notification} (hn : n ∈ ownGestures) :
    Alike (s.receiveGesture w n) (s'.receiveGesture w n) := by
  have hgesture : ∀ {t t' : Keyboard}, Alike t t' → Alike (t.gesture w n) (t'.gesture w n) := by
    intro t t' ht
    have hcmd : t'.extCode t'.commandKey = t.extCode t.commandKey := by
      obtain ⟨hagree, hlow, m, rfl⟩ := ht
      exact hagree.extended _ hlow.command
    have hctrl : t'.extCode t'.contrlKey = t.extCode t.contrlKey := by
      obtain ⟨hagree, hlow, m, rfl⟩ := ht
      exact hagree.extended _ hlow.contrl
    simp only [ownGestures, List.mem_cons, List.not_mem_nil, or_false] at hn
    unfold gesture
    dsimp only
    rw [hcmd, hctrl]
    obtain ⟨hagree, hlow, m, rfl⟩ := ht
    have hself : Alike t { t with maps := m } := ⟨hagree, hlow, m, rfl⟩
    rcases hn with rfl | rfl | rfl
    · exact alike_releaseKey (alike_chord hself _) rfl
    · exact alike_ite (fun _ => alike_chord hself _) fun _ => alike_chord hself _
    · exact alike_ite (fun _ => alike_chord hself _) fun _ => alike_chord hself _
  exact hgesture (alike_receiveHeader h _)

/-! The Fn keys. -/

theorem alike_readAsusKBlight (h : Alike s s') (reqParm : UInt8) :
    Alike (s.readAsusKBlight w reqParm).1 (s'.readAsusKBlight w reqParm).1 ∧
      (s'.readAsusKBlight w reqParm).2 = (s.readAsusKBlight w reqParm).2 := by
  have hset : ∀ b : Bool, Alike { s with enabledAsusKBacklight := b } { s' with enabledAsusKBacklight := b } := fun b =>
    h.map (fun s => { s with enabledAsusKBacklight := b }) (fun _ _ => rfl) (fun _ => rfl) fun _ => rfl
  unfold readAsusKBlight
  cases w.gkbl reqParm with
  | some kblvl => exact ⟨hset true, rfl⟩
  | none => exact ⟨hset false, rfl⟩

theorem alike_setAsusKBlight (h : Alike s s') (lvl : UInt8) :
    Alike (s.setAsusKBlight w lvl) (s'.setAsusKBlight w lvl) := by
  have hset : Alike { s with enabledAsusKBacklight := false } { s' with enabledAsusKBacklight := false } :=
    h.map (fun s => { s with enabledAsusKBacklight := false }) (fun _ _ => rfl) (fun _ => rfl) fun _ => rfl
  exact alike_ite (fun _ => alike_ite (fun _ => alike_send h _) fun _ => hset) fun _ => h

theorem alike_readBackLightLvl (h : Alike s s') : Alike (s.readBackLightLvl w) (s'.readBackLightLvl w) := by
  obtain ⟨hread, hlevel⟩ := alike_readAsusKBlight (w := w) h 0
  unfold readBackLightLvl
  dsimp only
  rw [hlevel]
  exact hread.map (fun t => { t with kbrdBackLightLvl := Int8.ofInt (s.readAsusKBlight w 0).2 }) (fun _ _ => rfl)
    (fun _ => rfl) fun _ => rfl

theorem alike_processAsusKBacklight (h : Alike s s') (LvlUp : Bool) :
    Alike (s.processAsusKBacklight w LvlUp) (s'.processAsusKBacklight w LvlUp) := by
  obtain ⟨hread, hlevel⟩ := alike_readAsusKBlight (w := w) h 0
  have h16 : (s'.readAsusKBlight w 0).1.asusKBHas16LevelSupport = (s.readAsusKBlight w 0).1.asusKBHas16LevelSupport := by
    obtain ⟨m, hm⟩ := hread.same
    rw [hm]
  unfold processAsusKBacklight
  dsimp only
  rw [hlevel, h16]
  split
  · exact alike_setAsusKBlight (alike_setAsusKBlight hread _) _
  · exact hread

theorem alike_brightnessKey (h : Alike s s') (up : Bool) : AlikeKey (s.brightnessKey w up) (s'.brightnessKey w up) := by
  have hset : Alike { s with useFinerBrightnesCtrl := false } { s' with useFinerBrightnesCtrl := false } :=
    h.map (fun s => { s with useFinerBrightnesCtrl := false }) (fun _ _ => rfl) (fun _ => rfl) fun _ => rfl
  unfold brightnessKey
  cases w.asusBrightnessLevelsTotal with
  | some levelsTotal => exact ⟨alike_repeatChord hset _ _, rfl⟩
  | none => exact ⟨h, rfl⟩

theorem alike_fnKeyFunction (h : Alike s s') (keyCode : UInt8) (rateLimit : Bool) :
    AlikeKey (s.fnKeyFunction w keyCode rateLimit) (s'.fnKeyFunction w keyCode rateLimit) := by
  obtain ⟨m, rfl⟩ := h.same
  have hstay : ∀ k, AlikeKey (s, k) ({ s with maps := m }, k) := fun k => ⟨h, rfl⟩
  exact alikeKey_ite (fun _ => alike_brightnessKey h _) fun _ => alikeKey_ite (fun _ => ⟨alike_send h _, rfl⟩) fun _ =>
    alikeKey_ite (fun _ => ⟨alike_receiveGesture h (n := .kPS2C_Gesture_MissionControl) (by decide), rfl⟩) fun _ =>
    alikeKey_ite (fun _ => ⟨alike_receiveGesture h (n := .kPS2C_Gesture_Launchpad) (by decide), rfl⟩) fun _ =>
    alikeKey_ite (fun _ => hstay _) fun _ => alikeKey_ite (fun _ => hstay _) fun _ =>
    alikeKey_ite (fun _ => ⟨alike_toggleTouchpad h, rfl⟩) fun _ => alikeKey_ite (fun _ => hstay _) fun _ =>
    alikeKey_ite (fun _ => hstay _) fun _ => alikeKey_ite (fun _ => hstay _) fun _ =>
    alikeKey_ite (fun _ => hstay _) fun _ => hstay _

theorem alike_fnKeyDown (h : Alike s s') (keyCode : UInt8) (rateLimit : Bool) :
    AlikeKey (s.fnKeyDown w keyCode rateLimit) (s'.fnKeyDown w keyCode rateLimit) := by
  obtain ⟨m, rfl⟩ := h.same
  exact alikeKey_ite (fun _ => ⟨alike_readBackLightLvl (alike_processAsusKBacklight h _), rfl⟩) fun _ =>
    alikeKey_ite (fun _ => ⟨alike_readBackLightLvl (alike_processAsusKBacklight h _), rfl⟩) fun _ =>
    alikeKey_ite (fun _ => ⟨alike_dispatch h _ _, rfl⟩) fun _ =>
    alikeKey_ite (fun _ => ⟨alike_dispatch h _ _, rfl⟩) fun _ => alike_fnKeyFunction h keyCode rateLimit

theorem alike_fnKeyUp (h : Alike s s') (keyCode : UInt8) :
    AlikeKey (s.fnKeyUp w keyCode) (s'.fnKeyUp w keyCode) := by
  obtain ⟨m, rfl⟩ := h.same
  exact alikeKey_ite (fun _ => ⟨alike_dispatch h _ _, rfl⟩) fun _ =>
    alikeKey_ite (fun _ => ⟨alike_dispatch h _ _, rfl⟩) fun _ =>
    alikeKey_ite (fun _ => ⟨h, rfl⟩) fun _ => ⟨h, rfl⟩

theorem alike_finerKey (h : Alike s s') (finer : Bool) (code : UInt8) :
    Alike (s.finerKey w finer code) (s'.finerKey w finer code) := by
  obtain ⟨m, rfl⟩ := h.same
  have halt : ({ s with maps := m } : Keyboard).normalCode s.altkey = s.normalCode s.altkey := h.normalCode h.low.alt
  exact alike_ite (fun _ => alike_chordCodes h (by rw [halt])) fun _ => alike_chord h _

theorem alike_dispatchFnKey (h : Alike s s') (fnKeyCode : UInt8) :
    Alike (s.dispatchFnKey w fnKeyCode) (s'.dispatchFnKey w fnKeyCode) := by
  obtain ⟨m, rfl⟩ := h.same
  have hctrl : ({ s with maps := m } : Keyboard).normalCode s.contrlKey = s.normalCode s.contrlKey :=
    h.normalCode h.low.contrl
  refine alike_ite (fun _ => alike_finerKey h _ _) fun _ => alike_ite (fun _ => alike_finerKey h _ _) fun _ =>
    alike_ite (fun _ => alike_finerKey h _ _) fun _ => alike_ite (fun _ => alike_finerKey h _ _) fun _ =>
    alike_ite (fun _ => h) fun _ => alike_ite (fun _ => ?_) fun _ => alike_chord h _
  have hsleep : Alike (s.chord w [s.normalCode s.contrlKey, 0x38, 0x70]).toggleTouchpad
      ({ s with maps := m }.chord w [({ s with maps := m } : Keyboard).normalCode s.contrlKey, 0x38, 0x70]).toggleTouchpad :=
    alike_toggleTouchpad (alike_chordCodes h (by rw [hctrl]))
  exact hsleep.map (fun t => { t with displaySleep := !t.displaySleep }) (fun _ _ => rfl) (fun _ => rfl) fun _ => rfl

theorem alike_processFnKeys (h : Alike s s') (keyCode : UInt8) (keyDown : Bool) :
    Alike (s.processFnKeys w keyCode keyDown) (s'.processFnKeys w keyCode keyDown) := by
  have hrate : s'.rateLimited w = s.rateLimited w := by
    obtain ⟨m, rfl⟩ := h.same
    rfl
  have hlast : ∀ {r r' : Keyboard × UInt8}, AlikeKey r r' →
      Alike ({ r.1 with lastEventSecs := w.secs, lastEventMicrosecs := w.microsecs }.dispatchFnKey w r.2)
        ({ r'.1 with lastEventSecs := w.secs, lastEventMicrosecs := w.microsecs }.dispatchFnKey w r'.2) := by
    intro r r' hr
    rw [hr.2]
    exact alike_dispatchFnKey (hr.1.map (fun t => { t with lastEventSecs := w.secs, lastEventMicrosecs := w.microsecs })
      (fun _ _ => rfl) (fun _ => rfl) fun _ => rfl) _
  unfold processFnKeys
  rw [hrate]
  cases keyDown with
  | true => exact hlast (alike_fnKeyDown h keyCode _)
  | false => exact hlast (alike_fnKeyUp h keyCode)

/-! The switch over the key codes. -/

theorem alike_MapGermanTurkish (h : Alike s s') (keyCode : UInt8) (goingDown : Bool) :
    AlikeKey (s.MapGermanTurkishKeyboardLayout w keyCode goingDown)
      (s'.MapGermanTurkishKeyboardLayout w keyCode goingDown) := by
  have hkeys : ∀ k key, germanKey k = some key → key < 0x80 := by
    intro k key hkey
    unfold germanKey at hkey
    split at hkey
    all_goals cases hkey
    all_goals decide
  obtain ⟨m, rfl⟩ := h.same
  unfold MapGermanTurkishKeyboardLayout
  cases hgerman : germanKey keyCode with
  | none => exact ⟨h, rfl⟩
  | some key =>
    have hctrl : ({ s with maps := m } : Keyboard).normalCode s.contrlKey = s.normalCode s.contrlKey :=
      h.normalCode h.low.contrl
    have hkey : ({ s with maps := m } : Keyboard).normalCode key = s.normalCode key := h.normalCode (hkeys _ _ hgerman)
    have hshift : ({ s with maps := m } : Keyboard).normalCode 0x2a = s.normalCode 0x2a := h.normalCode (by decide)
    dsimp only
    rw [hctrl, hkey, hshift]
    have hfirst := alike_when h (keyCode = 0x0c) (alike_dispatch (w := w) h (s.normalCode 0x2a) goingDown)
    have hup := alike_when hfirst (goingDown && s.isKeyDown s.contrlKey)
      (alike_dispatch (w := w) hfirst (s.normalCode s.contrlKey) false)
    have hpressed := alike_dispatch (w := w) hup (s.normalCode key) goingDown
    exact ⟨alike_when hpressed (!goingDown && s.isKeyDown s.contrlKey) (alike_dispatch hpressed _ true), rfl⟩

theorem alike_appSwitch (h : Alike s s') : Alike (s.appSwitch w) (s'.appSwitch w) := by
  obtain ⟨m, rfl⟩ := h.same
  have hctrl : ({ s with maps := m } : Keyboard).normalCode s.contrlKey = s.normalCode s.contrlKey :=
    h.normalCode h.low.contrl
  unfold appSwitch
  dsimp only
  rw [hctrl]
  have hup := alike_when h (s.isKeyDown s.contrlKey) (alike_dispatch (w := w) h (s.normalCode s.contrlKey) false)
  have htab := alike_chord (w := w) hup [0x30]
  exact alike_when htab (s.isKeyDown s.contrlKey) (alike_dispatch htab _ true)

theorem alike_switchNormal (h : Alike s s') (keyCode : UInt8) (goingDown : Bool) :
    AlikeKey (s.switchNormal w keyCode goingDown) (s'.switchNormal w keyCode goingDown) := by
  obtain ⟨m, rfl⟩ := h.same
  have hstay : ∀ k, AlikeKey (s, k) ({ s with maps := m }, k) := fun k => ⟨h, rfl⟩
  have hext : ∀ k, AlikeKey ({ s with extendedCode := true }, k) ({ s with maps := m, extendedCode := true }, k) :=
    fun k => ⟨h.map (fun s => { s with extendedCode := true }) (fun _ _ => rfl) (fun _ => rfl) fun _ => rfl, rfl⟩
  refine alikeKey_ite (fun _ => alikeKey_ite (fun _ => alike_MapGermanTurkish h keyCode goingDown) fun _ => hstay _) fun _ =>
    alikeKey_ite (fun _ => alikeKey_ite (fun _ => ⟨alike_when h _ ?appClose, rfl⟩) fun _ => hstay _) fun _ =>
    alikeKey_ite (fun _ => alikeKey_ite (fun _ => ⟨alike_when h _ (alike_chord h _), rfl⟩) fun _ => hstay _) fun _ =>
    alikeKey_ite (fun _ => alikeKey_ite (fun _ => ⟨alike_when h _ (alike_appSwitch h), rfl⟩) fun _ => hstay _) fun _ =>
    alikeKey_ite (fun _ => hstay _) fun _ =>
    alikeKey_ite (fun _ => alikeKey_ite (fun _ => hext _) fun _ => hstay _) fun _ =>
    alikeKey_ite (fun _ => alikeKey_ite (fun _ => hext _) fun _ => alikeKey_ite (fun _ =>
      alikeKey_ite (fun _ => hstay _) fun _ => alikeKey_ite (fun _ => ⟨alike_dispatch h _ _, rfl⟩) fun _ => hstay _)
      fun _ => hstay _) fun _ =>
    alikeKey_ite (fun _ => hstay _) fun _ => hstay _
  case appClose => exact alike_receiveGesture h (by decide)

/-- The code that a vendor's key is sent with. -/
theorem alike_vendorKeyCode (h : Alike s s') {keyCode : UInt8} (hk : keyCode ∈ vendorKeys) :
    s'.vendorKeyCode keyCode = s.vendorKeyCode keyCode := by
  have hlow : vendorKeys.all (fun k => k < 0x80) = true := by decide
  obtain ⟨m, rfl⟩ := h.same
  have hcode : ({ s with maps := m } : Keyboard).extCode keyCode = s.extCode keyCode := h.extCode (of_decide_eq_true (List.all_eq_true.1 hlow _ hk))
  unfold vendorKeyCode
  rw [hcode]

theorem alike_dispatchVendorKey (h : Alike s s') (keyCode : UInt8) :
    Alike (s.dispatchVendorKey w keyCode) (s'.dispatchVendorKey w keyCode) := by
  obtain ⟨m, rfl⟩ := h.same
  exact alike_ite (fun _ => alike_processFnKeys h _ _) fun _ => alike_ite (fun _ => alike_processFnKeys h _ _) fun _ =>
    alike_ite (fun _ => alike_processFnKeys h _ _) fun _ => alike_ite (fun _ => alike_processFnKeys h _ _) fun _ =>
    alike_ite (fun _ => alike_chord h _) fun _ => h

theorem alike_switchExtended (h : Alike s s') (keyCode : UInt8) (goingDown : Bool) :
    AlikeKey (s.switchExtended w keyCode goingDown) (s'.switchExtended w keyCode goingDown) := by
  obtain ⟨m, rfl⟩ := h.same
  have hcmd : ({ s with maps := m } : Keyboard).extCode s.commandKey = s.extCode s.commandKey := h.extCode h.low.command
  have hctrl : ({ s with maps := m } : Keyboard).normalCode s.contrlKey = s.normalCode s.contrlKey :=
    h.normalCode h.low.contrl
  have hstay : ∀ k, AlikeKey (s, k) ({ s with maps := m }, k) := fun k => ⟨h, rfl⟩
  have hnormal : ∀ k, AlikeKey ({ s with extendedCode := false }, k) ({ s with maps := m, extendedCode := false }, k) :=
    fun k => ⟨h.map (fun s => { s with extendedCode := false }) (fun _ _ => rfl) (fun _ => rfl) fun _ => rfl, rfl⟩
  have hvendor : keyCode ∈ vendorKeys → Alike (s.dispatchVendorKey w (s.vendorKeyCode keyCode))
      ({ s with maps := m }.dispatchVendorKey w (({ s with maps := m } : Keyboard).vendorKeyCode keyCode)) := by
    intro hk
    have hcode : ({ s with maps := m } : Keyboard).vendorKeyCode keyCode = s.vendorKeyCode keyCode :=
      alike_vendorKeyCode h hk
    rw [hcode]
    exact alike_dispatchVendorKey h _
  exact alikeKey_ite (fun hk => ⟨alike_when h _ (hvendor hk), rfl⟩) fun _ =>
    alikeKey_ite (fun _ => ⟨alike_when h _ (alike_toggleTouchpad h), rfl⟩) fun _ =>
    alikeKey_ite (fun _ => ⟨alike_when h _ (alike_send h _), rfl⟩) fun _ =>
    alikeKey_ite (fun _ => hstay _) fun _ => alikeKey_ite (fun _ => hstay _) fun _ =>
    alikeKey_ite (fun _ => alikeKey_ite (fun _ => hnormal _) fun _ => hstay _) fun _ =>
    alikeKey_ite (fun _ => hstay _) fun _ =>
    alikeKey_ite (fun _ => alikeKey_ite (fun _ => ⟨alike_chordCodes h (by rw [hcmd]), rfl⟩) fun _ => hstay _) fun _ =>
    alikeKey_ite (fun _ => ⟨alike_when h _ (alike_chordCodes h (by rw [hcmd])), rfl⟩) fun _ =>
    alikeKey_ite (fun _ => ⟨alike_when h _ (alike_dispatchCode h hctrl _), rfl⟩) fun _ =>
    alikeKey_ite (fun _ => hstay _) fun _ => hstay _

theorem alike_parse (h : Alike s s') (e : ScanEvent) : AlikeKey (s.parse w e) (s'.parse w e) := by
  have hset : ∀ b : Bool, Alike { s with extendedCode := b } { s' with extendedCode := b } := fun b =>
    h.map (fun s => { s with extendedCode := b }) (fun _ _ => rfl) (fun _ => rfl) fun _ => rfl
  exact alikeKey_ite (fun _ => alike_switchExtended (hset true) _ _) fun _ => alike_switchNormal (hset false) _ _

/-! Extended functions. -/

theorem alike_ProcessKeyCombinations (h : Alike s s') (keys : Option String) (goingDown gesture : Bool) :
    Alike (s.ProcessKeyCombinations w keys goingDown gesture) (s'.ProcessKeyCombinations w keys goingDown gesture) := by
  have hshift : s'.normalCode 0x2a = s.normalCode 0x2a := h.normalCode (by decide)
  unfold ProcessKeyCombinations
  cases keys with
  | none => exact h
  | some keys =>
    dsimp only
    rw [hshift]
    have hup := alike_when h (goingDown && !gesture) (alike_dispatch (w := w) h (s.normalCode 0x2a) false)
    have hall := alike_dispatchAll (w := w) hup goingDown (combinationCodes keys.toList [] 0)
    exact alike_when hall (!goingDown && !gesture) (alike_dispatch hall _ true)

/-- The function is that of F13 to F20, whose codes are those of keys of the keyboard. -/
theorem extendedFunction_lt {keyCode k : UInt8} {i : Fin 12} (h : extendedFunction keyCode = some (i, k)) :
    k < 0x80 := by
  have hall : ([(0x3b, 0, 0x64), (0x3c, 1, 0x65), (0x3d, 2, 0x66), (0x3e, 3, 0x67), (0x3f, 4, 0x68),
      (0x40, 5, 0x69), (0x41, 6, 0x6a), (0x42, 7, 0x6b), (0x43, 8, 0), (0x44, 9, 0), (0x57, 10, 0),
      (0x58, 11, 0)] : List (UInt8 × Fin 12 × UInt8)).all (fun p => p.2.2 < 0x80) = true := by decide
  obtain ⟨before, after, hsplit, -⟩ := List.lookup_eq_some_iff.1 h
  have hmem := List.all_eq_true.1 hall (keyCode, i, k) (by rw [hsplit]; simp)
  exact of_decide_eq_true hmem

/-- Two runs of a function, or none of it. -/
def AlikeOption (r r' : Option Keyboard) : Prop :=
  (r = none ∧ r' = none) ∨ ∃ t t', r = some t ∧ r' = some t' ∧ Alike t t'

theorem alike_ProcessExtendedFunctions (h : Alike s s') (keyCode : UInt8) (goingDown : Bool) :
    AlikeOption (s.ProcessExtendedFunctions w keyCode goingDown) (s'.ProcessExtendedFunctions w keyCode goingDown) := by
  have hshift : s'.normalCode 0x2a = s.normalCode 0x2a := h.normalCode (by decide)
  unfold ProcessExtendedFunctions
  cases hf : extendedFunction keyCode with
  | none => exact .inl ⟨rfl, rfl⟩
  | some f =>
    obtain ⟨i, k⟩ := f
    have hcode : s'.normalCode k = s.normalCode k := h.normalCode (extendedFunction_lt hf)
    have hcombination : s'.combination i = s.combination i := by
      obtain ⟨m, rfl⟩ := h.same
      rfl
    dsimp only
    rw [hcombination, hshift, hcode]
    cases s.combination i with
    | some keys => exact .inr ⟨_, _, rfl, rfl, alike_ProcessKeyCombinations h _ _ _⟩
    | none =>
      dsimp only
      by_cases hk : k = 0
      · rw [if_pos hk, if_pos hk]
        exact .inr ⟨_, _, rfl, rfl, h⟩
      · rw [if_neg hk, if_neg hk]
        cases goingDown with
        | true => exact .inr ⟨_, _, rfl, rfl, alike_dispatch (alike_dispatch h _ _) _ _⟩
        | false => exact .inr ⟨_, _, rfl, rfl, alike_dispatch (alike_dispatch h _ _) _ _⟩

/-! The special keys. -/

theorem alike_generateAndSeeADBCode (h : Alike s s') (keyCode : UInt8) (goingDown : Bool) :
    Alike (s.generateAndSeeADBCode w keyCode goingDown) (s'.generateAndSeeADBCode w keyCode goingDown) := by
  obtain ⟨m, rfl⟩ := h.same
  refine alike_ite (fun _ => ?_) fun _ => alike_ite (fun _ => ?_) fun _ => h
  · exact h.map (fun s =>
      let codes := enterDigit ((keypadDigit keyCode).getD s.generatedCode) s.tempCode1 s.tempCode2
      { s with generatedCode := codes.1, tempCode1 := codes.2.1, tempCode2 := codes.2.2 })
      (fun _ _ => rfl) (fun _ => rfl) fun _ => rfl
  · exact (alike_chord h [s.generatedCode]).map
      (fun s => { s with generatedCode := 0, tempCode1 := 0, tempCode2 := 0 }) (fun _ _ => rfl) (fun _ => rfl)
      fun _ => rfl

theorem alike_startFeatureToggle (h : Alike s s') : Alike (s.startFeatureToggle w) (s'.startFeatureToggle w) := by
  have hset := h.map (fun s => { s with featureToggleMode := true, releaseGestureKey := false }) (fun _ _ => rfl)
    (fun _ => rfl) fun _ => rfl
  exact alike_notify (alike_dispatch (alike_notify hset _) _ _) _

theorem alike_exception (h : Alike s s') :
    Alike { s with isAccInputExceptionKey := true } { s' with isAccInputExceptionKey := true } :=
  h.map (fun s => { s with isAccInputExceptionKey := true }) (fun _ _ => rfl) (fun _ => rfl) fun _ => rfl

theorem alike_releaseGesture (h : Alike s s') (keyCode : UInt8) :
    Alike (s.releaseGesture w keyCode) (s'.releaseGesture w keyCode) := by
  obtain ⟨m, rfl⟩ := h.same
  have hcmd : ({ s with maps := m } : Keyboard).extCode s.commandKey = s.extCode s.commandKey := h.extCode h.low.command
  have hset := h.map (fun s => { s with releaseGestureKey := false }) (fun _ _ => rfl) (fun _ => rfl) fun _ => rfl
  exact alike_ite (fun _ => alike_notify (alike_when hset _ (alike_dispatchCode hset hcmd _)) _) fun _ => h

theorem alike_leftShift (h : Alike s s') (goingDown : Bool) :
    Alike (s.leftShift w goingDown) (s'.leftShift w goingDown) := by
  obtain ⟨m, rfl⟩ := h.same
  have hcaps := h.map (fun s => { s with isCapsLocked := false }) (fun _ _ => rfl) (fun _ => rfl) fun _ => rfl
  have hrelease := h.map (fun s => { s with releaseGestureKey := true }) (fun _ _ => rfl) (fun _ => rfl) fun _ => rfl
  exact alike_ite (fun _ => alike_ite (fun _ => alike_setAlphaLockFeedback (alike_startFeatureToggle hcaps) _) fun _ =>
    alike_notify hrelease _) fun _ => alike_ite (fun _ => alike_notify h _) fun _ => h

theorem alike_sierraCapsLock (h : Alike s s') (goingDown : Bool) :
    Alike (s.sierraCapsLock w goingDown) (s'.sierraCapsLock w goingDown) := by
  obtain ⟨m, rfl⟩ := h.same
  have hset := h.map (fun t => { t with isCapsLocked := if goingDown then t.isCapsLocked else !t.isCapsLocked })
    (fun _ _ => rfl) (fun _ => rfl) fun _ => rfl
  have hpressed := alike_dispatch (w := w) (alike_dispatch (w := w) hset 0x39 goingDown) 0x39 goingDown
  have hlock := alike_when hpressed (!goingDown)
    (alike_send hpressed (.setAlphaLock (if goingDown then s.isCapsLocked else !s.isCapsLocked)))
  exact alike_when hlock (!goingDown)
    (alike_setAlphaLockFeedback hlock (if goingDown then s.isCapsLocked else !s.isCapsLocked))

theorem alike_capsLock (h : Alike s s') (goingDown : Bool) :
    Alike (s.capsLock w goingDown) (s'.capsLock w goingDown) := by
  obtain ⟨m, rfl⟩ := h.same
  have hinvert := h.map (fun s => { s with isCapsLocked := !s.isCapsLocked }) (fun _ _ => rfl) (fun _ => rfl) fun _ => rfl
  exact alike_ite (fun _ => alike_setAlphaLockFeedback (alike_startFeatureToggle h) _) fun _ =>
    alike_ite (fun _ => alike_sierraCapsLock h _) fun _ => hinvert

theorem alike_contextMenu (h : Alike s s') (keyCode : UInt8) (goingDown : Bool) :
    AlikeKey (s.contextMenu w keyCode goingDown) (s'.contextMenu w keyCode goingDown) := by
  obtain ⟨m, rfl⟩ := h.same
  have hset := h.map (fun s => { s with isFnKeyPressed := goingDown }) (fun _ _ => rfl) (fun _ => rfl) fun _ => rfl
  exact alikeKey_ite (fun _ => ⟨h, rfl⟩) fun _ => alikeKey_ite (fun _ =>
    ⟨alike_when hset _ (alike_generateAndSeeADBCode hset _ _), rfl⟩) fun _ => ⟨h, rfl⟩

theorem alike_keypad (h : Alike s s') (keyCode : UInt8) (goingDown : Bool) :
    Alike (s.keypad w keyCode goingDown) (s'.keypad w keyCode goingDown) := by
  obtain ⟨m, rfl⟩ := h.same
  have hset := h.map (fun s => { s with isNumPadKey := !s.extendedCode, isAccInputExceptionKey := true })
    (fun _ _ => rfl) (fun _ => rfl) fun _ => rfl
  exact alike_when hset _ (alike_generateAndSeeADBCode hset _ _)

theorem alike_toggleNumLock (h : Alike s s') : Alike s.toggleNumLock s'.toggleNumLock := by
  obtain ⟨m, rfl⟩ := h.same
  have hset := h.map (fun s => { s with isNumPadLocked := !s.isNumPadLocked }) (fun _ _ => rfl) (fun _ => rfl)
    fun _ => rfl
  exact alike_setNumLockFeedback hset _

theorem alike_missionKey (h : Alike s s') (keyCode : UInt8) (goingDown : Bool) :
    AlikeKey (s.missionKey w keyCode goingDown) (s'.missionKey w keyCode goingDown) := by
  obtain ⟨m, rfl⟩ := h.same
  exact alikeKey_ite (fun _ =>
    ⟨alike_when h _ (alike_receiveGesture h (n := .kPS2C_Gesture_MissionControl) (by decide)), rfl⟩) fun _ => ⟨h, rfl⟩

theorem alike_numLockOrPause (h : Alike s s') (keyCode : UInt8) (goingDown : Bool) :
    AlikeKey (s.numLockOrPause keyCode goingDown) (s'.numLockOrPause keyCode goingDown) := by
  obtain ⟨m, rfl⟩ := h.same
  exact alikeKey_ite (fun _ => alikeKey_ite (fun _ => ⟨alike_setNumLockFeedback h _, rfl⟩) fun _ =>
    ⟨alike_when h _ (alike_toggleNumLock h), rfl⟩) fun _ => ⟨h, rfl⟩

theorem alike_parseSpecialKeys (h : Alike s s') (keyCode : UInt8) (goingDown : Bool) :
    AlikeKey (s.parseSpecialKeys w keyCode goingDown) (s'.parseSpecialKeys w keyCode goingDown) := by
  have hread := alike_exception (alike_readKeyboardModifiers (w := w) h)
  obtain ⟨m, rfl⟩ := h.same
  have hexception := alike_exception h
  have hother := h.map (fun s => { s with isNumPadKey := false, isAccInputExceptionKey := false }) (fun _ _ => rfl)
    (fun _ => rfl) fun _ => rfl
  exact alikeKey_ite (fun _ => alike_missionKey h _ _) fun _ => alikeKey_ite (fun _ => alike_numLockOrPause h _ _) fun _ =>
    alikeKey_ite (fun _ => ⟨alike_when h _ (alike_notify h _), rfl⟩) fun _ =>
    alikeKey_ite (fun _ => ⟨alike_releaseGesture hexception _, rfl⟩) fun _ =>
    alikeKey_ite (fun _ => ⟨alike_leftShift hexception _, rfl⟩) fun _ =>
    alikeKey_ite (fun _ => ⟨alike_capsLock hread _, rfl⟩) fun _ => alikeKey_ite (fun _ => alike_contextMenu h _ _) fun _ =>
    alikeKey_ite (fun _ => ⟨hread, rfl⟩) fun _ => alikeKey_ite (fun _ => ⟨hexception, rfl⟩) fun _ =>
    alikeKey_ite (fun _ => ⟨alike_keypad h _ _, rfl⟩) fun _ => alikeKey_ite (fun _ => ⟨hexception, rfl⟩) fun _ =>
    ⟨hother, rfl⟩

/-! The keyboard's own features. -/

theorem alike_ReadFnKeyConfig (h : Alike s s') : Alike s.ReadFnKeyConfig s'.ReadFnKeyConfig := by
  obtain ⟨m, rfl⟩ := h.same
  unfold ReadFnKeyConfig
  dsimp only
  generalize (if s.fnKeysModeNum = 1 then s.prefs.fnKeysMode1 else s.prefs.fnKeysMode2) = mode
  cases mode with
  | none => exact h
  | some c => exact ⟨h.agree, ⟨h.low.command, h.low.contrl, h.low.alt⟩, m, rfl⟩

theorem alike_ReadFnKeyLayout (h : Alike s s') : Alike s.ReadFnKeyLayout s'.ReadFnKeyLayout := by
  obtain ⟨m, rfl⟩ := h.same
  have hmode := h.map (fun s => { s with fnKeysModeNum := 2 }) (fun _ _ => rfl) (fun _ => rfl) fun _ => rfl
  unfold ReadFnKeyLayout
  dsimp only
  cases s.prefs.fnKeysLayout with
  | none => exact h
  | some layout =>
    dsimp only
    cases vendorNames.find? fun p => startOf layout p.1 with
    | none => exact alike_ReadFnKeyConfig hmode
    | some v =>
      exact ⟨h.agree.readFnKeyLayout v.2, ⟨h.low.command, h.low.contrl, h.low.alt⟩, m.readFnKeyLayout v.2, rfl⟩

theorem alike_nextFnKeysMode (h : Alike s s') : Alike s.nextFnKeysMode s'.nextFnKeysMode := by
  have hstep : Alike s.stepFnKeysMode s'.stepFnKeysMode :=
    h.map stepFnKeysMode (fun _ _ => rfl) (fun _ => rfl) fun _ => rfl
  have hwhen : ∀ {t t' : Keyboard} (c : Keyboard → Bool), (∀ (t : Keyboard) m, c { t with maps := m } = c t) →
      (f : Keyboard → Keyboard) → (∀ {t t' : Keyboard}, Alike t t' → Alike (f t) (f t')) → Alike t t' →
      Alike (t.when (c t) f) (t'.when (c t') f) := by
    intro t t' c hc f hf ht
    have hsame : c t' = c t := by
      obtain ⟨m, rfl⟩ := ht.same
      exact hc t m
    rw [hsame]
    exact alike_when ht _ (hf ht)
  have hconfig := hwhen (fun t => t.fnKeysModeNum ≠ 0) (fun _ _ => rfl) ReadFnKeyConfig alike_ReadFnKeyConfig hstep
  have hlayout := hwhen (fun t => t.fnKeysModeNum = 3) (fun _ _ => rfl) ReadFnKeyLayout alike_ReadFnKeyLayout hconfig
  obtain ⟨m, rfl⟩ := h.same
  exact alike_ite (fun _ => h) fun _ => hlayout

theorem alike_ReadExtendedFunctionsConfig (h : Alike s s') :
    Alike s.ReadExtendedFunctionsConfig s'.ReadExtendedFunctionsConfig := by
  have hentry : ∀ {t t' : Keyboard} (e : String × String), Alike t t' →
      Alike (t.readExtendedFunction e) (t'.readExtendedFunction e) := by
    intro t t' e ht
    unfold readExtendedFunction
    cases extendedFunctionNames.find? fun p => startOf e.1 p.1 with
    | none => exact ht
    | some p =>
      exact ht.map (fun t => { t with fx := Function.update t.fx p.2 (some e.2) }) (fun _ _ => rfl) (fun _ => rfl)
        fun _ => rfl
  have hfold : ∀ (entries : List (String × String)) {t t' : Keyboard}, Alike t t' →
      Alike (entries.foldl readExtendedFunction t) (entries.foldl readExtendedFunction t') := by
    intro entries
    induction entries with
    | nil => exact fun ht => ht
    | cons e entries ih => exact fun ht => ih (hentry e ht)
  obtain ⟨m, rfl⟩ := h.same
  unfold ReadExtendedFunctionsConfig
  dsimp only
  cases s.prefs.extendedFunctions with
  | none => exact h
  | some entries => exact hfold entries h

theorem alike_toggleExtendFunctions (h : Alike s s') (goingDown : Bool) :
    Alike (s.toggleExtendFunctions goingDown) (s'.toggleExtendFunctions goingDown) := by
  obtain ⟨m, rfl⟩ := h.same
  have hset := h.map (fun s => { s with hasExtendFunctions := if goingDown then !s.hasExtendFunctions else s.hasExtendFunctions })
    (fun _ _ => rfl) (fun _ => rfl) fun _ => rfl
  exact alike_when hset _ (alike_ReadExtendedFunctionsConfig hset)

theorem alike_keyboardFeature (h : Alike s s') (keyCode : UInt8) (goingDown : Bool) :
    Alike (s.keyboardFeature keyCode goingDown) (s'.keyboardFeature keyCode goingDown) := by
  have hmacintosh := h.map (fun s => { s with macintoshMode := !s.macintoshMode }) (fun _ _ => rfl) (fun _ => rfl)
    fun _ => rfl
  have hvolume := h.map (fun s => { s with useFinerVolumeCtrl := !s.useFinerVolumeCtrl }) (fun _ _ => rfl)
    (fun _ => rfl) fun _ => rfl
  have hbrightness := h.map (fun s => { s with useFinerBrightnesCtrl := !s.useFinerBrightnesCtrl }) (fun _ _ => rfl)
    (fun _ => rfl) fun _ => rfl
  exact alike_ite (fun _ => alike_toggleExtendFunctions h _) fun _ => alike_ite (fun _ => h) fun _ =>
    alike_ite (fun _ => hmacintosh) fun _ => alike_ite (fun _ => alike_nextFnKeysMode h) fun _ =>
    alike_ite (fun _ => hvolume) fun _ => alike_ite (fun _ => hbrightness) fun _ => h

theorem alike_ToggleTouchpadFeatures (h : Alike s s') (keyCode : UInt8) (goingDown : Bool) :
    Alike (s.ToggleTouchpadFeatures keyCode goingDown) (s'.ToggleTouchpadFeatures keyCode goingDown) := by
  have hkey := alike_keyboardFeature h keyCode goingDown
  unfold ToggleTouchpadFeatures
  cases touchpadFeature keyCode with
  | some n => exact alike_setAlphaLockFeedback (alike_when hkey _ (alike_notify hkey n)) _
  | none => exact alike_when hkey _ (alike_setAlphaLockFeedback hkey _)

/-! Dispatch. -/

/-- The key is dispatched with the code that a table holds for it. -/
def looksUp (keyCode : UInt8) (s : Keyboard) : Bool :=
  if s.featureToggleMode then
    s.isKeyDown 0x2a && s.isKeyDown 0x3a && s.isFnKeyComb keyCode && s.prefs.makeShiftCapsAsFn && s.fnKeysModeNum = 1
  else keyCode ≠ 0 && !(s.isFnKeyComb keyCode && (s.isFnKeyPressed || s.fnKeysModeNum = 1)) && !s.displaySleep &&
    (if s.isModifierKey keyCode then keyCode ≠ 0x5d else !s.isFnKeyPressed)

theorem alike_dispatchADB (h : Alike s s') {keyCode : UInt8} (hk : keyCode < 0x80) (goingDown : Bool) :
    Alike (s.dispatchKeyboardKeyCode w (s.adbCode keyCode) goingDown)
      (s'.dispatchKeyboardKeyCode w (s'.adbCode keyCode) goingDown) := by
  have hext := h.extCode hk
  have hnormal := h.normalCode hk
  obtain ⟨m, rfl⟩ := h.same
  refine alike_dispatchCode h ?_ goingDown
  unfold adbCode
  rw [hext, hnormal]

theorem alike_processFeatureToggle (h : Alike s s') {keyCode : UInt8} (hmode : s.featureToggleMode = true)
    (hk : s.looksUp keyCode = true → keyCode < 0x80) (goingDown : Bool) :
    Alike (s.processFeatureToggle w keyCode goingDown) (s'.processFeatureToggle w keyCode goingDown) := by
  have hlooks : s.looksUp keyCode = (s.isKeyDown 0x2a && s.isKeyDown 0x3a && s.isFnKeyComb keyCode &&
      s.prefs.makeShiftCapsAsFn && s.fnKeysModeNum = 1) := if_pos hmode
  rw [hlooks] at hk
  obtain ⟨m, rfl⟩ := h.same
  have hend := h.map (fun s => { s with featureToggleMode := false }) (fun _ _ => rfl) (fun _ => rfl) fun _ => rfl
  refine alike_ite (fun hboth => alike_ite (fun hcomb => alike_ite (fun hone => ?_) fun _ => ?_) fun _ => ?_) fun _ => ?_
  · refine alike_dispatchADB h (hk ?_) _
    rw [hboth, Bool.true_and, hcomb, hone]
    rfl
  · exact alike_ite (fun _ => alike_processFnKeys h _ _) fun _ => h
  · exact alike_ToggleTouchpadFeatures h _ _
  · exact alike_ite (fun _ => alike_notify (alike_setAlphaLockFeedback hend _) _) fun _ => h

theorem alike_notifyModifiers (h : Alike s s') : Alike s.notifyModifiers s'.notifyModifiers := by
  obtain ⟨m, rfl⟩ := h.same
  unfold notifyModifiers
  dsimp only [isKeyDown]
  cases modifierNotification (s.keyBitVector s.commandKey) (s.keyBitVector s.contrlKey) (s.keyBitVector s.altkey)
    s.modifierKeystate with
  | none => exact h
  | some r =>
    exact alike_notify (h.map (fun s => { s with modifierKeystate := r.2 }) (fun _ _ => rfl) (fun _ => rfl) fun _ => rfl) r.1

theorem alike_dispatchModifier (h : Alike s s') {keyCode : UInt8} (hk : keyCode ≠ 0x5d → keyCode < 0x80)
    (goingDown : Bool) :
    Alike (s.dispatchModifier w keyCode goingDown) (s'.dispatchModifier w keyCode goingDown) := by
  have hmodifiers := alike_notifyModifiers h
  exact alike_ite (fun _ => alike_when hmodifiers _ (alike_notify hmodifiers _)) fun hne =>
    alike_dispatchADB hmodifiers (hk hne) _

theorem alike_dispatchNormal (h : Alike s s') {keyCode : UInt8} (hk : keyCode < 0x80) (goingDown : Bool) :
    Alike (s.dispatchNormal w keyCode goingDown) (s'.dispatchNormal w keyCode goingDown) := by
  have hkey := alike_dispatchADB (w := w) h hk goingDown
  unfold dispatchNormal
  dsimp only
  obtain ⟨m, hm⟩ := hkey.same
  rw [hm] at hkey ⊢
  exact alike_ite (fun _ => alike_notify hkey _) fun _ => alike_ite (fun _ => alike_notify hkey _) fun _ => hkey

theorem alike_dispatchKey (h : Alike s s') {keyCode : UInt8} (hk : s.looksUp keyCode = true → keyCode < 0x80)
    (goingDown : Bool) : Alike (s.dispatchKey w keyCode goingDown) (s'.dispatchKey w keyCode goingDown) := by
  obtain ⟨m, rfl⟩ := h.same
  refine alike_ite (fun hmode => alike_processFeatureToggle h hmode hk goingDown) fun hmode => alike_ite (fun _ => h)
    fun hne => alike_ite (fun _ => alike_processFnKeys h _ _) fun hcomb => ?_
  have hlooks : s.looksUp keyCode = (!s.displaySleep &&
      (if s.isModifierKey keyCode then keyCode ≠ 0x5d else !s.isFnKeyPressed)) := by
    unfold looksUp
    rw [if_neg hmode, decide_eq_true hne, Bool.eq_false_iff.mpr hcomb]
    rfl
  rw [hlooks] at hk
  refine alike_ite (fun hmodifier => ?_) fun hmodifier => alike_ite (fun hnormal => ?_) fun _ => h
  · obtain ⟨hawake, hkey⟩ := Bool.and_eq_true_iff.mp hmodifier
    refine alike_dispatchModifier h (fun hmenu => hk ?_) goingDown
    rw [hawake, if_pos hkey]
    simpa using hmenu
  · obtain ⟨hawake, hpressed⟩ := Bool.and_eq_true_iff.mp hnormal
    have hkey : ¬s.isModifierKey keyCode = true := fun hkey => hmodifier (Bool.and_eq_true_iff.mpr ⟨hawake, hkey⟩)
    refine alike_dispatchNormal h (hk ?_) goingDown
    rw [hawake, if_neg hkey]
    exact hpressed

/-! The whole event. -/

theorem looksUp_congr (h : s.modes = s'.modes) (keyCode : UInt8) : s.looksUp keyCode = s'.looksUp keyCode := by
  simp only [modes, Modes.mk.injEq] at h
  obtain ⟨hprefs, -, hfn, hmode, hbits, hcmd, hctrl, halt, -, htoggle, hpad, hpressed, hsleep, -⟩ := h
  simp only [looksUp, isFnKeyComb, fnModifiers, isModifierKey, isKeyDown, hprefs, hfn, hmode, hbits, hcmd, hctrl,
    halt, htoggle, hpad, hpressed, hsleep]
  rfl

/-- The code that a key is dispatched with through a table, once its bit is set. -/
def keyTableCode (w : World) (keyCode : UInt8) (goingDown : Bool) (s : Keyboard) : Option UInt8 :=
  if !s.hasFunction keyCode && (s.afterSpecialKeys w keyCode goingDown).looksUp (s.specialKeyCode keyCode) then
    some (s.specialKeyCode keyCode)
  else none

/-- The key code at which an event is looked up in a table to be dispatched, when it is. -/
def tableCode (w : World) (e : ScanEvent) (s : Keyboard) : Option UInt8 :=
  match s.target e with
  | .done _ => none
  | .key extended keyCode _ =>
    if keyCode ≠ 0 && s.takes e then
      ({ s with extendedCode := extended }.setKey keyCode e.goingDown).keyTableCode w keyCode e.goingDown
    else none

theorem keyTableCode_congr (w : World) (goingDown : Bool) {keyCode : UInt8} (h : keyCode ∉ positionKeys)
    (s : Keyboard) (log : List Sent) (now : UInt64) :
    { s with log := log, now := now }.keyTableCode w keyCode goingDown = s.keyTableCode w keyCode goingDown := by
  have hmodes : ({ s with log := log, now := now }.afterSpecialKeys w keyCode goingDown).modes =
      (s.afterSpecialKeys w keyCode goingDown).modes := by
    simp [afterSpecialKeys, modes, when, h]
  unfold keyTableCode
  rw [looksUp_congr hmodes]
  rfl

theorem alike_processKey (h : Alike s s') {keyCode : UInt8} {goingDown : Bool}
    (hk : ∀ k, s.keyTableCode w keyCode goingDown = some k → k < 0x80) :
    Alike (s.processKey w keyCode goingDown) (s'.processKey w keyCode goingDown) := by
  have hfunction : s'.hasFunction keyCode = s.hasFunction keyCode := by
    obtain ⟨m, rfl⟩ := h.same
    rfl
  rcases processKey_split w keyCode goingDown s with ⟨hfun, hsome⟩ | ⟨hnone, heq⟩
  · rcases processKey_split w keyCode goingDown s' with ⟨-, hsome'⟩ | ⟨hnone', -⟩
    · rcases alike_ProcessExtendedFunctions (w := w) h keyCode goingDown with ⟨hn, -⟩ | ⟨t, t', ht, ht', halike⟩
      · exact absurd (hn.symm.trans hsome) (by simp)
      · obtain rfl := Option.some.inj (ht.symm.trans hsome)
        obtain rfl := Option.some.inj (ht'.symm.trans hsome')
        exact halike
    · exact absurd (hnone'.symm.trans (hfunction.trans hfun)) (by decide)
  · rcases processKey_split w keyCode goingDown s' with ⟨hfun', -⟩ | ⟨-, heq'⟩
    · exact absurd (hnone.symm.trans (hfunction.symm.trans hfun')) (by decide)
    · have hspecial := @parseSpecialKeys_special w goingDown s keyCode
      obtain ⟨hparse, hcode⟩ := alike_parseSpecialKeys (w := w) h keyCode goingDown
      rw [heq, heq', hcode]
      refine alike_dispatchKey hparse (fun hlooks => hk _ ?_) goingDown
      rw [looksUp_congr hspecial.modes, hspecial.keyCode] at hlooks
      unfold keyTableCode
      rw [hnone, hlooks, hspecial.keyCode]
      rfl

theorem alike_updateKeyBitVector (h : Alike s s') (keyCode : UInt8) (goingDown : Bool) :
    AlikeOption (s.updateKeyBitVector keyCode goingDown) (s'.updateKeyBitVector keyCode goingDown) := by
  have hset := fun down => alike_setKey h keyCode down
  have htest : (s'.isKeyDown keyCode && !s'.repeats keyCode) = (s.isKeyDown keyCode && !s.repeats keyCode) := by
    obtain ⟨m, rfl⟩ := h.same
    rfl
  unfold updateKeyBitVector
  rw [htest]
  cases goingDown with
  | false => exact .inr ⟨_, _, rfl, rfl, hset false⟩
  | true =>
    cases s.isKeyDown keyCode && !s.repeats keyCode with
    | true => exact .inl ⟨rfl, rfl⟩
    | false => exact .inr ⟨_, _, rfl, rfl, hset true⟩

/-- `tableCode` is read off the state before the switch; the key is looked up after it. -/
theorem tableCode_eq {e : ScanEvent} {t : Keyboard} (hne : (s.parse w e).2 ≠ 0)
    (hset : (s.parse w e).1.updateKeyBitVector (s.parse w e).2 e.goingDown = some t) :
    s.tableCode w e = t.keyTableCode w (s.parse w e).2 e.goingDown := by
  have hkey := keyCode_parse (w := w) e s
  rw [hkey] at hne hset ⊢
  cases htarget : s.target e with
  | done u =>
    rw [htarget] at hne
    exact absurd rfl hne
  | key extended keyCode codes =>
    have htakes := takes_parse (w := w) hne
    rw [htarget] at hne hset htakes
    have hset : (s.parse w e).1.updateKeyBitVector keyCode e.goingDown = some t := hset
    have hused : keyCode ≠ 0 := hne
    have hsame := key_congr htarget hset (fun t => t.keyTableCode w keyCode e.goingDown) fun hnot s log now =>
      keyTableCode_congr w e.goingDown hnot s log now
    have htaken : s.takes e = true := by
      rw [← htakes]
      show ((s.parse w e).1.updateKeyBitVector keyCode e.goingDown).isSome = true
      rw [hset]
      rfl
    unfold tableCode
    rw [htarget]
    dsimp only
    rw [decide_eq_true hused, htaken, ← hsame]
    rfl

/-- Two drivers that differ only behind the tables do the same with an event that is not
looked up there. -/
theorem alike_dispatchScanEvent (h : Alike s s') {e : ScanEvent}
    (hk : ∀ k, s.tableCode w e = some k → k < 0x80) :
    Alike (s.dispatchScanEvent w e) (s'.dispatchScanEvent w e) := by
  obtain ⟨hparse, hcode⟩ := alike_parse (w := w) h e
  rw [dispatchScanEvent_eq, dispatchScanEvent_eq, hcode]
  refine alike_ite (fun _ => alike_backlight hparse _) fun hne => ?_
  rcases alike_updateKeyBitVector hparse (s.parse w e).2 e.goingDown with ⟨hnone, hnone'⟩ | ⟨t, t', hset, hset', ht⟩
  · rw [hnone, hnone']
    exact alike_backlight hparse _
  · rw [hset, hset']
    rw [tableCode_eq hne hset] at hk
    exact alike_backlight (alike_processKey ht hk) _

end Keyboard

end ApplePS2
