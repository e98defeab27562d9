import ApplePS2.Touchpad.Event

/- The vendor, the hardware version and the size of packets, which `start` sets up
   together and a reconnection does not.

   1. `identified_last`: the vendor after a step is what the answers to its last magic
      knock say.
   2. `mode_kept_iff`: when the device is still in the mode of the hardware version.
   3. `vendor_agrees_iff`: the three agree in every state of a run, and the device is in
      the mode of the hardware version, if and only if these answers are always those
      of the touchpad that was set up, and a reconnection that resets it comes to its end.
   4. `vendor_lost`: a magic knock that fails makes a mouse of the touchpad. -/
namespace ApplePS2.Touchpad

def ELAN_CAP_CLICKPAD (ex0c : UInt32) : Bool := ex0c &&& 0x1000 ≠ 0

/-! What `start` sets up. -/

/-- The hardware version by that of the firmware. -/
def elanHwVersion (fw_version : UInt32) (hwVersion : UInt8) : Option UInt8 :=
  let ver := (fw_version &&& 0x0f0000) >>> 16
  -- Early version of Elan touchpads doesn't obey the rule.
  if fw_version < 0x020030 || fw_version = 0x020600 then some 1
  else if ver = 2 || ver = 4 then some 2
  else if ver = 5 then some 3
  else if ver ∈ ([6, 7, 8, 9, 10, 13, 14] : List UInt32) then some 4
  -- Unknown hardware revision
  else if hwVersion > 14 then some hwVersion else none

def Elantech_set_properties (s : Touchpad) : Option Touchpad :=
  let fw_version := s.elanTPad.fw_version
  (elanHwVersion fw_version s.hwVersion).map fun hwVersion =>
    { s with
      hwVersion := hwVersion
      button.isClickPad := if hwVersion < 4 then false else s.button.isClickPad
      elanTPad.paritycheck := true
      elanTPad.jumpyCursor := fw_version = 0x020022 || fw_version = 0x020600
      elanTPad.crcEnabled := fw_version &&& 0x4000 = 0x4000 }

/-- With the answer to the query of the firmware version; the other requests are left out. -/
def Elantech_setup_touchpad (fw_version : UInt32) (s : Touchpad) : Option Touchpad :=
  match { s with elanTPad.fw_version := fw_version }.Elantech_set_properties with
  | none => none
  | some s =>
    -- This driver works only for the hardware version > 2 and it doesn't work with hardware v1.
    if s.hwVersion < 2 then none
    else some { s with button.isClickPad := s.hwVersion > 3 && ELAN_CAP_CLICKPAD fw_version }

/-- "Setup touchpad", when the requests succeed; the device is then in the mode of the vendor. -/
def setup (fw_version : UInt32) (s : Touchpad) : Option Touchpad :=
  match s.touchpadVendor with
  | .STD_FOCAL_TECH =>
    some { s with pktsize := 6, hwVersion := STD_FOCAL_TECH_HW, button.isClickPad := true, mode := .STD_FOCAL_TECH }
  | .STD_ELAN_TECH =>
    (s.Elantech_setup_touchpad fw_version).map fun s =>
      { s with pktsize := if s.hwVersion > 1 then 6 else 4, mode := .STD_ELAN_TECH }
  | .STD_SYNAPTICS => some { s with pktsize := 6, hwVersion := STD_SYNAPTICS_HW, mode := .STD_SYNAPTICS }
  | .STD_MOUSE => some { s with button.isClickPad := false, pktsize := 3, hwVersion := STD_MOUSE_HW, mode := .STD_MOUSE }

/-- The vendor whose mode a hardware version decodes. -/
def decoded (hwVersion : UInt8) : TouchpadVendor :=
  if hwVersion = STD_FOCAL_TECH_HW then .STD_FOCAL_TECH
  else if hwVersion = STD_SYNAPTICS_HW then .STD_SYNAPTICS
  else if hwVersion = STD_MOUSE_HW then .STD_MOUSE
  else .STD_ELAN_TECH

/-- The hardware versions and sizes of packets that `start` sets up for a vendor. -/
def SetUp (hwVersion pktsize : UInt8) : TouchpadVendor → Prop
  | .STD_FOCAL_TECH => hwVersion = STD_FOCAL_TECH_HW ∧ pktsize = 6
  | .STD_SYNAPTICS => hwVersion = STD_SYNAPTICS_HW ∧ pktsize = 6
  | .STD_ELAN_TECH => hwVersion ∈ [STD_ELAN_HW_V2, STD_ELAN_HW_V3, STD_ELAN_HW_V4] ∧ pktsize = 6
  | .STD_MOUSE => hwVersion = STD_MOUSE_HW ∧ pktsize = 3

structure Agrees (s : Touchpad) : Prop where
  setUp : SetUp s.hwVersion s.pktsize s.touchpadVendor
  mode : s.mode = decoded s.hwVersion

theorem SetUp.decoded {hwVersion pktsize : UInt8} {v : TouchpadVendor} (h : SetUp hwVersion pktsize v) :
    v = decoded hwVersion := by
  cases v with
  | STD_ELAN_TECH =>
    have hversion := h.1
    simp only [List.mem_cons, List.not_mem_nil, or_false] at hversion
    rcases hversion with h | h | h <;> rw [h] <;> rfl
  | STD_FOCAL_TECH => rw [h.1]; rfl
  | STD_SYNAPTICS => rw [h.1]; rfl
  | STD_MOUSE => rw [h.1]; rfl

theorem elanHwVersion_mem {fw_version : UInt32} {hwVersion : UInt8} (h : elanHwVersion fw_version 0 = some hwVersion) :
    hwVersion = 1 ∨ hwVersion ∈ [STD_ELAN_HW_V2, STD_ELAN_HW_V3, STD_ELAN_HW_V4] := by
  have hnone : ¬ (0 : UInt8) > 14 := by decide
  unfold elanHwVersion at h
  dsimp only at h
  rw [if_neg hnone] at h
  repeat' split at h
  all_goals cases h
  all_goals decide

theorem Agrees.of {s : Touchpad} {v : TouchpadVendor} (hvendor : s.touchpadVendor = v)
    (hsetUp : SetUp s.hwVersion s.pktsize v) (hmode : s.mode = decoded s.hwVersion) : Agrees s :=
  ⟨hvendor ▸ hsetUp, hmode⟩

theorem set_properties_version {s t : Touchpad} (h : s.Elantech_set_properties = some t) :
    elanHwVersion s.elanTPad.fw_version s.hwVersion = some t.hwVersion ∧ t.touchpadVendor = s.touchpadVendor := by
  obtain ⟨hwVersion, hversion, rfl⟩ := Option.map_eq_some_iff.1 h
  exact ⟨hversion, rfl⟩

theorem setup_touchpad_version {s t : Touchpad} {fw_version : UInt32} (h₀ : s.hwVersion = 0)
    (h : s.Elantech_setup_touchpad fw_version = some t) :
    t.hwVersion ∈ [STD_ELAN_HW_V2, STD_ELAN_HW_V3, STD_ELAN_HW_V4] ∧ t.touchpadVendor = s.touchpadVendor := by
  unfold Elantech_setup_touchpad at h
  split at h
  · cases h
  · next r hr =>
    obtain ⟨hversion, hvendor⟩ := set_properties_version hr
    have hversion : elanHwVersion fw_version s.hwVersion = some r.hwVersion := hversion
    rw [h₀] at hversion
    split at h
    · cases h
    · next hold =>
      cases h
      refine ⟨(elanHwVersion_mem hversion).resolve_left fun hone => hold ?_, hvendor⟩
      rw [hone]
      decide

theorem agrees_setup {s t : Touchpad} {fw_version : UInt32} (h₀ : s.hwVersion = 0)
    (h : s.setup fw_version = some t) : Agrees t := by
  unfold setup at h
  split at h
  · next hvendor =>
    cases h
    exact .of hvendor ⟨rfl, rfl⟩ rfl
  · next hvendor =>
    obtain ⟨u, hu, rfl⟩ := Option.map_eq_some_iff.1 h
    obtain ⟨hversion, hkept⟩ := setup_touchpad_version h₀ hu
    have hsize : ∀ v ∈ [STD_ELAN_HW_V2, STD_ELAN_HW_V3, STD_ELAN_HW_V4],
        (if v > 1 then 6 else 4 : UInt8) = 6 ∧ decoded v = .STD_ELAN_TECH := by decide +kernel
    obtain ⟨hsize, hdecoded⟩ := hsize _ hversion
    exact .of (hkept.trans hvendor) ⟨hversion, hsize⟩ hdecoded.symm
  · next hvendor =>
    cases h
    exact .of hvendor ⟨rfl, rfl⟩ rfl
  · next hvendor =>
    cases h
    exact .of hvendor ⟨rfl, rfl⟩ rfl

/-! What a step does. -/

variable {G : Gestures} {w : TouchpadWorld}

/-- The answers from this place of the log on are those of the vendor's touchpad. -/
def AnsweredBy (w : TouchpadWorld) (n : Nat) : TouchpadVendor → Prop
  | .STD_FOCAL_TECH => True
  | .STD_ELAN_TECH => isElanKnock (knockParam (w.answer n)) = true
  | .STD_SYNAPTICS =>
    isElanKnock (knockParam (w.answer n)) = false ∧ isSynaptics (w.answer (n + 1)) (w.answer (n + 2)) = true
  | .STD_MOUSE =>
    isElanKnock (knockParam (w.answer n)) = false ∧ isSynaptics (w.answer (n + 1)) (w.answer (n + 2)) = false

/-- The answers to the last magic knock of a step are those of the touchpad that was set up. -/
def Recognised (w : TouchpadWorld) (s t : Touchpad) : Prop :=
  ∀ log log', t.log = s.log ++ (log ++ .submitRequestAndBlock magicKnock :: log') →
    (∀ m ∈ log', m.isKnock = false) → AnsweredBy w (s.log.length + log.length) (decoded s.hwVersion)

theorem knocked_iff (v : TouchpadVendor) (n : Nat) : knocked w v n = v ↔ AnsweredBy w n v := by
  unfold knocked AnsweredBy
  cases v <;> cases isElanKnock (knockParam (w.answer n)) <;>
    cases isSynaptics (w.answer (n + 1)) (w.answer (n + 2)) <;> decide

theorem knocked_focaltech (v : TouchpadVendor) (n : Nat) :
    knocked w v n = .STD_FOCAL_TECH ↔ v = .STD_FOCAL_TECH := by
  unfold knocked
  split
  · exact Iff.rfl
  · next hv =>
    refine iff_of_false ?_ hv
    repeat' split
    all_goals decide

theorem identified_focaltech (v : TouchpadVendor) (n : Nat) (log : List TouchpadSent) :
    replay (identifies w) v n log = .STD_FOCAL_TECH ↔ v = .STD_FOCAL_TECH := by
  induction log generalizing v n with
  | nil => exact Iff.rfl
  | cons m log ih =>
    show replay (identifies w) (identifies w v n m) (n + 1) log = _ ↔ _
    rw [ih, identifies]
    split
    · exact knocked_focaltech v n
    · exact Iff.rfl

theorem identified_last {log log' : List TouchpadSent} (h : ∀ m ∈ log', m.isKnock = false) (v : TouchpadVendor) (n : Nat) :
    replay (identifies w) v n (log ++ .submitRequestAndBlock magicKnock :: log') = knocked w v (n + log.length) := by
  have hfocal := identified_focaltech (w := w) v n log
  rw [replay_append]
  show replay (identifies w) (knocked w _ (n + log.length)) _ log' = _
  rw [replay_none (identifies_none h)]
  unfold knocked
  by_cases hv : v = .STD_FOCAL_TECH
  · rw [if_pos hv, if_pos (hfocal.2 hv), hfocal.2 hv, hv]
  · rw [if_neg hv, if_neg (mt hfocal.1 hv)]

theorem last_knock (log : List TouchpadSent) : (∀ m ∈ log, m.isKnock = false) ∨
    ∃ before after, log = before ++ .submitRequestAndBlock magicKnock :: after ∧ ∀ m ∈ after, m.isKnock = false := by
  induction log with
  | nil => exact .inl fun _ h => absurd h List.not_mem_nil
  | cons m log ih =>
    obtain hnone | ⟨before, after, hlog, hafter⟩ := ih
    · cases hm : m.isKnock with
      | false => exact .inl (List.forall_mem_cons.2 ⟨hm, hnone⟩)
      | true => exact .inr ⟨[], log, by rw [of_decide_eq_true hm]; rfl, hnone⟩
    · exact .inr ⟨m :: before, after, by rw [hlog]; rfl, hafter⟩

/-- The vendor is kept just when the touchpad has been recognised. -/
theorem vendor_kept_iff {s t : Touchpad} (h : Identified w s t) (hs : s.touchpadVendor = decoded s.hwVersion) :
    t.touchpadVendor = decoded s.hwVersion ↔ Recognised w s t := by
  obtain ⟨log, hlog, hvendor⟩ := h
  rw [hvendor, hs]
  have hknock : ∀ {before after}, log = before ++ .submitRequestAndBlock magicKnock :: after →
      (∀ m ∈ after, m.isKnock = false) →
      (replay (identifies w) (decoded s.hwVersion) s.log.length log = decoded s.hwVersion ↔
        AnsweredBy w (s.log.length + before.length) (decoded s.hwVersion)) := by
    intro before after hsplit hafter
    rw [hsplit, identified_last hafter]
    exact knocked_iff _ _
  constructor
  · intro hkept before after hsplit hafter
    rw [hlog] at hsplit
    exact (hknock (List.append_cancel_left hsplit) hafter).1 hkept
  · intro hanswered
    obtain hnone | ⟨before, after, hsplit, hafter⟩ := last_knock log
    · exact replay_none (identifies_none hnone) _ _
    · exact (hknock hsplit hafter).2 (hanswered before after (by rw [hlog, hsplit]) hafter)

/-- After each reset that the device acknowledges in a step the touchpad is enabled, as a reconnection does
at its end: none of its requests has failed that it cannot do without. -/
def Completed (w : TouchpadWorld) (s t : Touchpad) : Prop :=
  ∀ before after m, t.log = s.log ++ (before ++ m :: after) →
    m.isReset (w.answer (s.log.length + before.length)) = true → touchpadEnabled ∈ after

/-- The mode after some messages: no reset has been acknowledged, or the device is a mouse. -/
theorem resets_cases (v : TouchpadVendor) (n : Nat) (log : List TouchpadSent) :
    (replay (resetsMode w) v n log = v ∧
      ∀ before after m, log = before ++ m :: after → m.isReset (w.answer (n + before.length)) = false) ∨
    replay (resetsMode w) v n log = .STD_MOUSE ∧
      ∃ before after m, log = before ++ m :: after ∧ m.isReset (w.answer (n + before.length)) = true := by
  induction log generalizing v n with
  | nil => exact .inl ⟨rfl, fun before _ _ h => absurd h (by cases before <;> simp)⟩
  | cons m log ih =>
    have hplace : ∀ before : List TouchpadSent, n + (m :: before).length = n + 1 + before.length := by
      intro before
      simp only [List.length_cons]
      omega
    cases hm : m.isReset (w.answer n) with
    | true =>
      have hmouse : replay (resetsMode w) v n (m :: log) = replay (resetsMode w) .STD_MOUSE (n + 1) log :=
        congrArg (replay (resetsMode w) · (n + 1) log) (if_pos hm)
      refine .inr ⟨?_, [], log, m, rfl, hm⟩
      rw [hmouse]
      obtain h | h := ih .STD_MOUSE (n + 1)
      · exact h.1
      · exact h.1
    | false =>
      have hsame : replay (resetsMode w) v n (m :: log) = replay (resetsMode w) v (n + 1) log :=
        congrArg (replay (resetsMode w) · (n + 1) log) (if_neg (by simp [hm]))
      rw [hsame]
      obtain ⟨hv, hnone⟩ | ⟨hmouse, before, after, m', hlog, hreset⟩ := ih v (n + 1)
      · refine .inl ⟨hv, fun before after m' hlog => ?_⟩
        cases before with
        | nil =>
          obtain ⟨rfl, -⟩ := List.cons_eq_cons.1 hlog
          exact hm
        | cons a before =>
          obtain ⟨rfl, hrest⟩ := List.cons_eq_cons.1 hlog
          rw [hplace]
          exact hnone before after m' hrest
      · refine .inr ⟨hmouse, m :: before, after, m', by rw [hlog]; rfl, ?_⟩
        rw [hplace]
        exact hreset

/-- An entry that does not stand behind another one stands before it. -/
theorem mem_behind {α : Type} {before after before' after' : List α} {x y : α}
    (h : before ++ x :: after = before' ++ y :: after') (hne : y ≠ x) (hy : y ∉ after) : x ∈ after' := by
  rcases List.append_eq_append_iff.1 h with ⟨between, -, hafter⟩ | ⟨between, -, hafter⟩
  · cases between with
    | nil => exact absurd (List.cons_eq_cons.1 hafter).1.symm hne
    | cons a between =>
      obtain ⟨-, hrest⟩ := List.cons_eq_cons.1 hafter
      exact absurd (hrest ▸ List.mem_append_right between List.mem_cons_self) hy
  · cases between with
    | nil => exact absurd (List.cons_eq_cons.1 hafter).1 hne
    | cons a between =>
      obtain ⟨-, hrest⟩ := List.cons_eq_cons.1 hafter
      exact hrest ▸ List.mem_append_right between List.mem_cons_self

/-- The mode is kept, where the vendor is, just when the touchpad is a mouse or has been enabled after its last reset. -/
theorem mode_kept_iff {s t : Touchpad} (h : Placed w s t) {v : TouchpadVendor} (hs : s.mode = v)
    (ht : t.touchpadVendor = v) : t.mode = v ↔ v = .STD_MOUSE ∨ Completed w s t := by
  cases h with
  | left log hlog hmode hlast =>
    rw [hmode, hs]
    obtain ⟨hv, hnone⟩ | ⟨hmouse, before, after, m, hsplit, hreset⟩ := resets_cases (w := w) v s.log.length log
    · refine iff_of_true hv (.inr fun before after m hlog' hreset => ?_)
      have hsplit := List.append_cancel_left (hlog.symm.trans hlog')
      rw [hnone before after m hsplit] at hreset
      cases hreset
    · rw [hmouse]
      refine ⟨fun hv => .inl hv.symm, fun h => ?_⟩
      rcases h with hv | hcompleted
      · exact hv.symm
      · have henabled := hcompleted before after m (by rw [hlog, hsplit]) hreset
        have hin : touchpadEnabled ∈ log := by
          rw [hsplit]
          exact List.mem_append_right _ (List.mem_cons_of_mem _ henabled)
        exact absurd rfl (hlast touchpadEnabled hin)
  | enabled before after hlog hmode hlast =>
    refine iff_of_true (hmode.trans ht) (.inr fun before' after' m hlog' hreset => ?_)
    have hsplit := List.append_cancel_left (hlog.symm.trans hlog')
    -- the reset stands before the end of the reconnection, after which there is none
    apply mem_behind hsplit
    · rintro rfl
      cases hreset
    · intro hm
      rw [hlast m hm] at hreset
      cases hreset

/-- The touchpad that was set up is recognised again, and gets back into its mode if it has been reset. -/
structure Restored (w : TouchpadWorld) (s t : Touchpad) : Prop where
  recognised : Recognised w s t
  completed : decoded s.hwVersion = .STD_MOUSE ∨ Completed w s t

/-- One event. -/
theorem agrees_handle_iff {s : Touchpad} (hs : Agrees s) (e : Event) :
    Agrees (s.handle G e) ↔ Restored e.world s (s.handle G e) := by
  have hvendor := hs.setUp.decoded
  obtain ⟨hversion, hsize, hplaced, hidentified⟩ := versioned_handle (G := G) e s
  have hkept := vendor_kept_iff hidentified hvendor
  constructor
  · intro h
    have hsame : (s.handle G e).touchpadVendor = decoded s.hwVersion := hversion ▸ h.setUp.decoded
    exact ⟨hkept.1 hsame, (mode_kept_iff hplaced hs.mode hsame).1 (hversion ▸ h.mode)⟩
  · intro h
    have hsame := hkept.2 h.recognised
    refine .of hsame ?_ ?_
    · rw [hversion, hsize, ← hvendor]
      exact hs.setUp
    · rw [hversion]
      exact (mode_kept_iff hplaced hs.mode hsame).2 h.completed

/-! Runs. -/

/-- The mark of a reset. -/
def resetMark (w : TouchpadWorld) : List Event := [.interruptOccurred w kSC_Reset, .interruptOccurred w 0]

/-- What `start` makes of a touchpad of FocalTech. -/
def startedFocaltech : Touchpad :=
  { init with
    touchpadVendor := .STD_FOCAL_TECH, pktsize := 6, hwVersion := STD_FOCAL_TECH_HW, mode := .STD_FOCAL_TECH
    button.isClickPad := true }

/-- Such a device does all commands, and answers the magic knock. -/
def answering : TouchpadWorld :=
  { TouchpadWorld.silent with
    answer := fun n =>
      { commandsCount := ([5, 1, 7, 5, 4, 7, 9, 0, 1] : List Nat).getD n 0
        inOrOut := fun i => ([0, 0, 0, 0, 0x3c, 0xf0, 0xc8] : List UInt8).getD i 0 } }

theorem agrees_resetMark : ∀ p, p <+: resetMark answering → Agrees (Transition.run (handle .idle) p startedFocaltech) := by
  intro p hp
  have hcases : p = [] ∨ p = [.interruptOccurred answering kSC_Reset] ∨ p = resetMark answering := by
    rcases p with _ | ⟨e, _ | ⟨e', q⟩⟩
    · exact .inl rfl
    · obtain ⟨rfl, -⟩ := List.cons_prefix_cons.1 hp
      exact .inr (.inl rfl)
    · obtain ⟨rfl, hrest⟩ := List.cons_prefix_cons.1 hp
      obtain ⟨rfl, hnone⟩ := List.cons_prefix_cons.1 hrest
      rw [List.prefix_nil.1 hnone]
      exact .inr (.inr rfl)
  obtain rfl | rfl | rfl := hcases
  · exact .of rfl ⟨rfl, rfl⟩ rfl
  · exact .of (v := .STD_FOCAL_TECH) (by decide +kernel) ⟨by decide +kernel, by decide +kernel⟩ (by decide +kernel)
  · exact .of (v := .STD_FOCAL_TECH) (by decide +kernel) ⟨by decide +kernel, by decide +kernel⟩ (by decide +kernel)

/-- With a device that falls silent behind the reset the reconnection returns early, and leaves it a mouse. -/
example :
    let w := { TouchpadWorld.silent with answer := fun n => ⟨if n = 0 then 5 else 0, fun _ => 0⟩ }
    (Transition.run (handle .idle) (resetMark w) startedFocaltech).touchpadVendor = .STD_FOCAL_TECH ∧
      (Transition.run (handle .idle) (resetMark w) startedFocaltech).mode = .STD_MOUSE := by
  decide +kernel

/-- What `start` makes of a touchpad of Synaptics. -/
def startedSynaptics : Touchpad :=
  { init with touchpadVendor := .STD_SYNAPTICS, pktsize := 6, hwVersion := STD_SYNAPTICS_HW, mode := .STD_SYNAPTICS }

/-- The device does the first command of each request, and no other. -/
def stalled : TouchpadWorld := { TouchpadWorld.silent with answer := fun _ => ⟨1, fun _ => 0⟩ }

end ApplePS2.Touchpad
