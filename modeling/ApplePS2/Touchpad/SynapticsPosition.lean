import ApplePS2.Touchpad.SynapticsPackets

/- The position of the primary finger (`Synaptics_report_absolute`), against the decoding
   that the comments on `X_MAX_POSITIVE` describe.

   1. `report_absolute_of_data`, `primaryPacket_of_reaches`: where the position is stored.
   2. `stored_x_eq_iff`, `stored_y_eq_iff`: one axis, for every raw value.
   3. `decodesPrimary_iff`: the finger is where the packet says exactly if both raw values
      are inside the edges. -/
namespace ApplePS2

/-- A raw value: the largest one stands for the end of the axis, and those above it are negative. -/
def signedRaw (max : Int) (r : Nat) : Int :=
  if r > 8176 then (r : Int) - 8192 else if r = 8176 then max else r

/-- The reference for the horizontal axis. -/
def xDecoded (r : Nat) : Int := max 0 (signedRaw XMAX r)

/-- The reference for the vertical axis: either the raw value is clamped (`early`), or the
position after the inversion. -/
def yDecoded (early : Bool) (sum r : Nat) : Int :=
  if early then sum - max 0 (signedRaw YMAX r) else max 0 (sum - signedRaw YMAX r)

/-- Nothing is wrapped: not the raw values, and not what the inversion makes of the second one. -/
def InsideEdges (sum rx ry : Nat) : Prop := rx ≤ 8176 ∧ ry < 8176 ∧ ry ≤ sum ∧ sum < ry + 8176

namespace Touchpad

variable (G : Gestures) (w : TouchpadWorld)

/-! One axis. -/

/-- The horizontal axis goes wrong only beyond its largest value. -/
theorem stored_x_eq_iff {r : Nat} (hr : r < 8192) :
    ((UInt16.ofInt (wrapPosition X_MAX_POSITIVE XMAX r)).toNat : Int) = xDecoded r ↔ r ≤ 8176 := by
  rw [toNat_ofInt]
  unfold xDecoded signedRaw wrapPosition X_MAX_POSITIVE XMAX ABS_POS_BITS
  by_cases habove : r > 8176
  · rw [if_pos (by omega), if_pos habove]
    omega
  · by_cases hmax : r = 8176
    · rw [if_neg (by omega), if_pos (by omega), if_neg habove, if_pos hmax]
      omega
    · rw [if_neg (by omega), if_neg (by omega), if_neg habove, if_neg hmax]
      omega

/-- The vertical one is wrapped after the inversion: both its ends go wrong. -/
theorem stored_y_eq_iff (early : Bool) {sum r : Nat} (hr : r < 8192) (hsum : sum < 131072) :
    ((UInt16.ofInt (wrapPosition Y_MAX_POSITIVE YMAX (sum - r))).toNat : Int) = yDecoded early sum r ↔
      r < 8176 ∧ r ≤ sum ∧ sum < r + 8176 := by
  rw [toNat_ofInt]
  cases early <;> simp only [yDecoded, signedRaw, wrapPosition, Y_MAX_POSITIVE, YMAX, ABS_POS_BITS] <;>
    split_ifs <;> omega

/-! The raw values. -/

def rawNewX (p : Packet) : Nat :=
  (((p 3 &&& 0x10).toUInt32 <<< 8) ||| ((p 1 &&& 0x0f).toUInt32 <<< 8) ||| (p 4).toUInt32).toNat

def rawNewY (p : Packet) : Nat :=
  (((p 3 &&& 0x20).toUInt32 <<< 7) ||| ((p 1 &&& 0xf0).toUInt32 <<< 4) ||| (p 5).toUInt32).toNat

def rawOldX (p : Packet) : Nat := (((p 1 &&& 0x1f).toUInt32 <<< 8) ||| (p 2).toUInt32).toNat
def rawOldY (p : Packet) : Nat := (((p 4 &&& 0x1f).toUInt32 <<< 8) ||| (p 5).toUInt32).toNat

def rawX (p : Packet) (s : Touchpad) : Nat := if SYN_MODEL_NEWABS s.synTPad.model_id then rawNewX p else rawOldX p
def rawY (p : Packet) (s : Touchpad) : Nat := if SYN_MODEL_NEWABS s.synTPad.model_id then rawNewY p else rawOldY p

/-- `_ymax + _ymin` -/
def ySum (s : Touchpad) : Nat := s.ymax.toNat + s.ymin.toNat

theorem rawX_lt (p : Packet) (s : Touchpad) : s.rawX p < 8192 := by
  have hbyte : ∀ b : UInt8, b.toUInt32.toNat < 2 ^ 13 := fun b => Nat.lt_of_lt_of_le b.toNat_lt (by decide)
  have hbit : ∀ b : UInt8, ((b &&& 0x10).toUInt32 <<< 8).toNat < 2 ^ 13 := by decide +kernel
  have hhigh : ∀ b : UInt8, ((b &&& 0x0f).toUInt32 <<< 8).toNat < 2 ^ 13 := by decide +kernel
  have hold : ∀ b : UInt8, ((b &&& 0x1f).toUInt32 <<< 8).toNat < 2 ^ 13 := by decide +kernel
  unfold rawX rawNewX rawOldX
  split
  · rw [UInt32.toNat_or, UInt32.toNat_or]
    exact Nat.or_lt_two_pow (Nat.or_lt_two_pow (hbit (p 3)) (hhigh (p 1))) (hbyte (p 4))
  · rw [UInt32.toNat_or]
    exact Nat.or_lt_two_pow (hold (p 1)) (hbyte (p 2))

theorem rawY_lt (p : Packet) (s : Touchpad) : s.rawY p < 8192 := by
  have hbyte : ∀ b : UInt8, b.toUInt32.toNat < 2 ^ 13 := fun b => Nat.lt_of_lt_of_le b.toNat_lt (by decide)
  have hbit : ∀ b : UInt8, ((b &&& 0x20).toUInt32 <<< 7).toNat < 2 ^ 13 := by decide +kernel
  have hhigh : ∀ b : UInt8, ((b &&& 0xf0).toUInt32 <<< 4).toNat < 2 ^ 13 := by decide +kernel
  have hold : ∀ b : UInt8, ((b &&& 0x1f).toUInt32 <<< 8).toNat < 2 ^ 13 := by decide +kernel
  unfold rawY rawNewY rawOldY
  split
  · rw [UInt32.toNat_or, UInt32.toNat_or]
    exact Nat.or_lt_two_pow (Nat.or_lt_two_pow (hbit (p 3)) (hhigh (p 1))) (hbyte (p 5))
  · rw [UInt32.toNat_or]
    exact Nat.or_lt_two_pow (hold (p 4)) (hbyte (p 5))

/-! Where the position is stored. -/

/-- The primary finger that a packet tells of, with its wrap-around values converted, and
the state in which it is used: none if the packet is extended or invalid. -/
def primaryData (p : Packet) (s : Touchpad) : Option (Primary × Touchpad) :=
  if SYN_MODEL_NEWABS s.synTPad.model_id then
    let s := s.setW (newW p)
    let a := s.primaryNew p
    if s.isExtended || (a.x < XMIN_NOMINAL / 2 && a.pressure > 0) then none
    else some (primaryWrapped a, s.middleButton p)
  else
    let s := s.setW (oldW p)
    let a := s.primaryOld p
    if a.x < XMIN_NOMINAL && a.pressure > 0 then none else some (primaryWrapped a, s)

/-- Neither the middle button's scroll nor the stick. -/
def reachesFinger (p : Packet) (s : Touchpad) : Bool :=
  s.synTPad.m_scroll = 0 &&
    !(SYN_CAP_PASS_THROUGH s.synTPad.capabilities && SYN_CAP_EXT_BUTTONS_STICK s.synTPad.ext_cap_10 && isStickPacket p)

/-- "Get the primary finger data" -/
def primaryPlaced (p : Packet) (a : Primary) (s : Touchpad) : Touchpad :=
  s |> fingersSyn p a |> clearWait |> placePrimary a

/-- The primary finger as it is stored: none if the packet has no pressure, or there is no
slot for it. -/
def primaryFinger (p : Packet) (s : Touchpad) : Option Finger :=
  (s.primaryData p).bind fun d =>
    if d.2.reachesFinger p && d.1.pressure > 0 && (d.2.fingersSyn p d.1).pid ≥ 0 then
      some ((d.2.primaryPlaced p d.1).fing (d.2.fingersSyn p d.1).pid)
    else none

theorem report_absolute_of_data {p : Packet} {a : Primary} {s t : Touchpad} (h : s.primaryData p = some (a, t)) :
    s.Synaptics_report_absolute G w p = t.primaryPacket G w p a := by
  unfold primaryData at h
  unfold Synaptics_report_absolute
  by_cases hnew : SYN_MODEL_NEWABS s.synTPad.model_id = true
  · rw [if_pos hnew] at h ⊢
    dsimp only at h ⊢
    split at h
    · exact absurd h (by simp)
    · next hvalid =>
      obtain ⟨hextended, hinvalid⟩ := not_or.mp (mt (Bool.or_eq_true _ _).mpr hvalid)
      rw [if_neg hextended]
      unfold reportNew
      dsimp only
      rw [if_neg hinvalid]
      cases h
      rfl
  · rw [if_neg hnew] at h ⊢
    dsimp only at h ⊢
    unfold reportOld
    split at h
    · exact absurd h (by simp)
    · next hinvalid =>
      dsimp only
      rw [if_neg hinvalid]
      cases h
      rfl

theorem primaryPacket_of_reaches {p : Packet} {s : Touchpad} (a : Primary) (h : s.reachesFinger p = true) :
    s.primaryPacket G w p a = (s.primaryPlaced p a).placeSecondary.reportTouch G w p a := by
  obtain ⟨hscroll, hstick⟩ := (Bool.and_eq_true _ _).mp h
  unfold primaryPacket
  have hnoScroll : s.synTPad.m_scroll = 0 := of_decide_eq_true hscroll
  rw [if_neg (not_not.mpr hnoScroll), if_neg (Bool.eq_false_iff.mp ((Bool.not_eq_true' _).mp hstick))]
  rfl

theorem primaryData_position {p : Packet} {a : Primary} {s t : Touchpad} (h : s.primaryData p = some (a, t)) :
    a.x = wrapPosition X_MAX_POSITIVE XMAX (s.rawX p) ∧
      a.y = wrapPosition Y_MAX_POSITIVE YMAX (s.ySum - s.rawY p) := by
  unfold primaryData at h
  unfold rawX rawY
  split at h
  · next hnew =>
    rw [if_pos hnew, if_pos hnew]
    dsimp only at h
    split at h
    · exact absurd h (by simp)
    · cases h
      exact ⟨rfl, rfl⟩
  · next hnew =>
    rw [if_neg hnew, if_neg hnew]
    dsimp only at h
    split at h
    · exact absurd h (by simp)
    · cases h
      exact ⟨rfl, rfl⟩

theorem reportFinger_position (x y : UInt16) (pressure : UInt8) (s : Touchpad) (f : Finger) :
    (s.reportFinger x y pressure f).x = x ∧ (s.reportFinger x y pressure f).y = y := by
  unfold reportFinger
  dsimp only
  split
  · exact ⟨rfl, rfl⟩
  · exact ⟨rfl, rfl⟩

theorem placePrimary_position {a : Primary} {s : Touchpad} (hpid : s.pid ≥ 0) (hpressure : a.pressure > 0) :
    ((s.placePrimary a).fing s.pid).x = .ofInt a.x ∧ ((s.placePrimary a).fing s.pid).y = .ofInt a.y := by
  have hfinger : (s.placePrimary a).fing s.pid =
      s.reportFinger (.ofInt a.x) (.ofInt a.y) (.ofNat a.pressure) (s.fing s.pid) := by
    unfold placePrimary
    rw [if_neg (by omega), if_pos hpressure]
    exact Function.update_self ..
  rw [hfinger]
  exact reportFinger_position _ _ _ s _

/-- The finger's position, as it is computed. -/
theorem primaryFinger_position {p : Packet} {f : Finger} {s : Touchpad} (h : s.primaryFinger p = some f) :
    f.x = .ofInt (wrapPosition X_MAX_POSITIVE XMAX (s.rawX p)) ∧
      f.y = .ofInt (wrapPosition Y_MAX_POSITIVE YMAX (s.ySum - s.rawY p)) := by
  obtain ⟨⟨a, t⟩, hdata, hfinger⟩ := Option.bind_eq_some_iff.mp h
  obtain ⟨hx, hy⟩ := primaryData_position hdata
  split at hfinger
  · next hstored =>
    obtain ⟨⟨-, hpressure⟩, hpid⟩ : (t.reachesFinger p = true ∧ a.pressure > 0) ∧ (t.fingersSyn p a).pid ≥ 0 := by
      simpa [and_assoc] using hstored
    have hplace := placePrimary_position (s := (t.fingersSyn p a).clearWait) hpid hpressure
    cases hfinger
    rw [← hx, ← hy]
    exact hplace
  · exact absurd hfinger (by simp)

/-! The finger that is stored, beside the decoded position and the true one. -/

/-- Where the finger truly is, beyond the edges too. -/
def xTrue (p : Packet) (s : Touchpad) : Int := signedRaw XMAX (s.rawX p)
def yTrue (p : Packet) (s : Touchpad) : Int := s.ySum - signedRaw YMAX (s.rawY p)

/-- The finger that is stored is the decoded one, and at most 8192 away from the true one. -/
def DecodesPrimary (early : Bool) (p : Packet) (s : Touchpad) : Prop :=
  ∀ f ∈ s.primaryFinger p,
    ((f.x.toNat : Int) = xDecoded (s.rawX p) ∧ (f.y.toNat : Int) = yDecoded early s.ySum (s.rawY p)) ∧
      ((f.x.toNat : Int) - s.xTrue p).natAbs ≤ 8192 ∧ ((f.y.toNat : Int) - s.yTrue p).natAbs ≤ 8192

/-- Inside the edges the decoded position is the true one, but for the end of the horizontal axis. -/
theorem near_of_inside {early : Bool} {p : Packet} {f : Finger} {s : Touchpad}
    (h : InsideEdges s.ySum (s.rawX p) (s.rawY p)) (hx : (f.x.toNat : Int) = xDecoded (s.rawX p))
    (hy : (f.y.toNat : Int) = yDecoded early s.ySum (s.rawY p)) :
    (f.x.toNat : Int) = s.xTrue p ∧ (f.y.toNat : Int) = s.yTrue p := by
  obtain ⟨hrx, hry, hbelow, -⟩ := h
  have hxTrue : 0 ≤ s.xTrue p := by
    unfold xTrue signedRaw XMAX
    split_ifs <;> omega
  have hyRaw : signedRaw YMAX (s.rawY p) = s.rawY p := by
    unfold signedRaw
    rw [if_neg (by omega), if_neg (by omega)]
  refine ⟨hx.trans (max_eq_right hxTrue), hy.trans ?_⟩
  unfold yDecoded yTrue
  rw [hyRaw]
  cases early <;> omega

theorem decodesPrimary_iff (early : Bool) (p : Packet) (s : Touchpad) :
    s.DecodesPrimary early p ↔
      ((s.primaryFinger p).isSome = true → InsideEdges s.ySum (s.rawX p) (s.rawY p)) := by
  have hrx := s.rawX_lt p
  have hry := s.rawY_lt p
  have hsum : s.ySum < 131072 := by
    have hmax := s.ymax.toNat_lt
    have hmin := s.ymin.toNat_lt
    unfold ySum
    omega
  unfold DecodesPrimary
  cases hfinger : s.primaryFinger p with
  | none => simp
  | some f =>
    obtain ⟨hx, hy⟩ := primaryFinger_position hfinger
    have hxIff := stored_x_eq_iff hrx
    have hyIff := stored_y_eq_iff early hry hsum
    rw [← hx] at hxIff
    rw [← hy] at hyIff
    constructor
    · intro hdecodes _
      obtain ⟨⟨hxDecoded, hyDecoded⟩, -⟩ := hdecodes f rfl
      exact ⟨hxIff.mp hxDecoded, hyIff.mp hyDecoded⟩
    · intro hinside g hg
      cases hg
      have hedges := hinside rfl
      have hdecoded := And.intro (hxIff.mpr hedges.1) (hyIff.mpr hedges.2)
      obtain ⟨hxTrue, hyTrue⟩ := near_of_inside hedges hdecoded.1 hdecoded.2
      refine ⟨hdecoded, ?_, ?_⟩
      · rw [hxTrue]
        simp
      · rw [hyTrue]
        simp

/-- The first touch of a finger beyond the left edge, with the raw value -12. -/
def edgePacket : Packet := fun i => ([0x90, 0xbf, 0x1e, 0xd0, 0xf4, 0xb8] : List UInt8).getD i 0

/-- The bounds are the nominal ones. -/
def edgeTouchpad : Touchpad :=
  { init with synTPad.model_id := 0x80, synTPad.capabilities := 0x800000, ymax := 4448, ymin := 1408 }

/-- The finger is stored at 65524, with either reading of the clamp. -/
theorem edgePacket_leaps :
    ¬ edgeTouchpad.DecodesPrimary false edgePacket ∧ ¬ edgeTouchpad.DecodesPrimary true edgePacket := by
  have hstored : (edgeTouchpad.primaryFinger edgePacket).map (·.x) = some 65524 := by decide +kernel
  obtain ⟨f, hf, hx⟩ := Option.map_eq_some_iff.mp hstored
  have hwrong : (f.x.toNat : Int) ≠ xDecoded (edgeTouchpad.rawX edgePacket) := by
    rw [hx]
    decide +kernel
  exact ⟨fun h => hwrong (h f hf).1.1, fun h => hwrong (h f hf).1.1⟩

end Touchpad
end ApplePS2
