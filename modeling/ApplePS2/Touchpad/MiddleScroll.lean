import ApplePS2.Touchpad.Interrupt
import ApplePS2.WhileLoop

/- The loops over the middle button's scroll in `Synaptics_report_absolute`, turn by turn.
   The amount is unsigned, and so is its comparison with -4.

   1. `scrollLoops_some`, `scrollLoops_ends_iff`: the loops end for odd amounts only, and
      what they leave then is what `Synaptics_report_absolute` is given.
   2. `reportLoops_refines`: with the loops the decoder does the same, if it ends.
   3. `reportLoops_bounded_iff`: it ends in time just when no scroll is seen. -/
namespace ApplePS2

open WhileLoop

/-- `while (m_scroll >= 4) m_scroll -= 4` -/
def scrollBackward (fuel : Nat) (m : UInt32) : Option (UInt32 × Nat) :=
  whileLoop (fun m => m ≥ 4) (fun m => m - 4) fuel m

/-- `while (m_scroll <= -4) m_scroll += 4` -/
def scrollForward (fuel : Nat) (m : UInt32) : Option (UInt32 × Nat) :=
  whileLoop (fun m => m ≤ (0 - 4 : UInt32)) (fun m => m + 4) fuel m

/-- The amount is doubled before the loops. What they leave, and their turns. -/
def scrollLoops (fuel : Nat) (m : UInt32) : Option (UInt32 × Nat) :=
  (scrollBackward fuel (m + m)).bind fun r =>
    (scrollForward fuel r.1).map fun r' => (r'.1, r.2 + r'.2)

/-- The amount that the loops are given, with its sign. -/
def signedScroll (m : UInt32) : Int := (m + m).toBitVec.toInt

/-! The loops. -/

theorem iterate_sub_toNat (m : UInt32) (k : Nat) (h : 4 * k ≤ m.toNat) :
    ((fun m : UInt32 => m - 4)^[k] m).toNat = m.toNat - 4 * k := by
  induction k with
  | zero => rfl
  | succ k ih =>
    have hbefore := ih (by omega)
    have hle : (4 : UInt32) ≤ (fun m : UInt32 => m - 4)^[k] m := by
      rw [UInt32.le_iff_toNat_le, hbefore]
      show 4 ≤ m.toNat - 4 * k
      omega
    rw [Function.iterate_succ_apply', UInt32.toNat_sub_of_le _ _ hle, hbefore]
    show m.toNat - 4 * k - 4 = m.toNat - 4 * (k + 1)
    omega

theorem iterate_add_toNat (m : UInt32) (k : Nat) :
    ((fun m : UInt32 => m + 4)^[k] m).toNat = (m.toNat + 4 * k) % 2 ^ 32 := by
  induction k with
  | zero => exact (Nat.mod_eq_of_lt m.toNat_lt).symm
  | succ k ih =>
    rw [Function.iterate_succ_apply', UInt32.toNat_add, ih]
    show ((m.toNat + 4 * k) % 2 ^ 32 + 4) % 2 ^ 32 = (m.toNat + 4 * (k + 1)) % 2 ^ 32
    omega

/-- The first loop ends with the remainder. -/
theorem scrollBackward_some {fuel : Nat} {m v : UInt32} {n : Nat} : scrollBackward fuel m = some (v, n) ↔
    n ≤ fuel ∧ v.toNat = m.toNat % 4 ∧ n = m.toNat / 4 := by
  unfold scrollBackward
  rw [whileLoop_eq_some]
  constructor
  · rintro ⟨hfuel, hlast, hstop, hturns⟩
    -- the amount does not go below 0, since every turn has at least 4 before it
    have hroom : ∀ k ≤ n, 4 * k ≤ m.toNat := by
      intro k hk
      induction k with
      | zero => omega
      | succ k ih =>
        have hturn := of_decide_eq_true (hturns k hk)
        rw [ge_iff_le, UInt32.le_iff_toNat_le, iterate_sub_toNat m k (ih (by omega))] at hturn
        have hturn : 4 ≤ m.toNat - 4 * k := hturn
        omega
    have hvalue := iterate_sub_toNat m n (hroom n (Nat.le_refl n))
    have hless := of_decide_eq_false hstop
    rw [ge_iff_le, UInt32.le_iff_toNat_le, hlast, hvalue] at hless
    have hless : ¬4 ≤ m.toNat - 4 * n := hless
    have hn := hroom n (Nat.le_refl n)
    refine ⟨hfuel, ?_, by omega⟩
    rw [hlast, hvalue]
    omega
  · rintro ⟨hfuel, hv, rfl⟩
    have hvalue := iterate_sub_toNat m (m.toNat / 4) (by omega)
    refine ⟨hfuel, ?_, ?_, fun k hk => ?_⟩
    · rw [← UInt32.toNat_inj, hvalue, hv]
      omega
    · rw [decide_eq_false_iff_not, ge_iff_le, UInt32.le_iff_toNat_le, hv]
      show ¬4 ≤ m.toNat % 4
      omega
    · rw [decide_eq_true_eq, ge_iff_le, UInt32.le_iff_toNat_le, iterate_sub_toNat m k (by omega)]
      show 4 ≤ m.toNat - 4 * k
      omega

/-- The second loop ends behind -4, and passes over it from a multiple of 4. -/
theorem scrollForward_some {fuel : Nat} {m v : UInt32} {n : Nat} (hm : m.toNat < 4) :
    scrollForward fuel m = some (v, n) ↔ n ≤ fuel ∧ m.toNat ≠ 0 ∧ v = 0 - 4 + m ∧ n = 1073741823 := by
  have hminus : (0 - 4 : UInt32).toNat = 4294967292 := by decide
  have hsum : ((0 - 4 : UInt32) + m).toNat = 4294967292 + m.toNat := by
    rw [UInt32.toNat_add, hminus]
    exact Nat.mod_eq_of_lt (by show 4294967292 + m.toNat < 4294967296; omega)
  unfold scrollForward
  rw [whileLoop_eq_some]
  simp only [decide_eq_true_eq, decide_eq_false_iff_not, UInt32.le_iff_toNat_le, hminus, iterate_add_toNat]
  constructor
  · rintro ⟨hfuel, hlast, hstop, hturns⟩
    rw [hlast, iterate_add_toNat] at hstop
    -- a later end would pass over the first amount that ends the loop
    have hearly : m.toNat ≠ 0 → n ≤ 1073741823 := by
      intro hne
      apply Nat.le_of_not_lt
      intro hlate
      have hturn := hturns 1073741823 hlate
      omega
    have hne : m.toNat ≠ 0 := by omega
    have hn : n = 1073741823 := by
      have hle := hearly hne
      omega
    refine ⟨hfuel, hne, ?_, hn⟩
    rw [← UInt32.toNat_inj, hlast, iterate_add_toNat, hsum, hn]
    omega
  · rintro ⟨hfuel, hne, rfl, rfl⟩
    refine ⟨hfuel, ?_, ?_, fun k hk => ?_⟩
    · rw [← UInt32.toNat_inj, iterate_add_toNat, hsum]
      omega
    · rw [hsum]
      omega
    · omega

/-- Both loops: the amount that is left, and the number of turns. -/
theorem scrollLoops_some {fuel : Nat} {m v : UInt32} {n : Nat} (h : scrollLoops fuel m = some (v, n)) :
    (m + m) % 4 ≠ 0 ∧ v = scrollRest m ∧ 1073741823 ≤ n := by
  unfold scrollLoops at h
  obtain ⟨⟨r, k⟩, hback, hrest⟩ := Option.bind_eq_some_iff.1 h
  obtain ⟨⟨v', k'⟩, hforward, hpair⟩ := Option.map_eq_some_iff.1 hrest
  obtain ⟨rfl, rfl⟩ := Prod.mk.inj hpair
  obtain ⟨-, hr, -⟩ := scrollBackward_some.1 hback
  have hless : r.toNat < 4 := by omega
  obtain ⟨-, hne, hv, hk⟩ := (scrollForward_some hless).1 hforward
  have hr' : r = (m + m) % 4 := by
    rw [← UInt32.toNat_inj, UInt32.toNat_mod, hr]
    rfl
  have hodd : (m + m) % 4 ≠ 0 := by
    rw [← hr']
    intro hzero
    rw [hzero] at hne
    exact hne rfl
  refine ⟨hodd, ?_, by show 1073741823 ≤ k + k'; omega⟩
  show v' = scrollRest m
  rw [hv, hr', scrollRest, if_neg hodd]

/-- The loops end just for the amounts whose double is no multiple of 4. -/
theorem scrollLoops_ends_iff (m : UInt32) : (∃ fuel r, scrollLoops fuel m = some r) ↔ (m + m) % 4 ≠ 0 := by
  constructor
  · rintro ⟨fuel, ⟨v, n⟩, h⟩
    exact (scrollLoops_some h).1
  · intro hodd
    have hfuel : (m + m).toNat / 4 ≤ 1073741823 := by
      have hlt := (m + m).toNat_lt
      omega
    have hrest : ((m + m) % 4).toNat = (m + m).toNat % 4 := UInt32.toNat_mod _ _
    have hless : ((m + m) % 4).toNat < 4 := by omega
    have hne : ((m + m) % 4).toNat ≠ 0 := fun hzero => hodd (UInt32.toNat_inj.1 hzero)
    have hback : scrollBackward 1073741823 (m + m) = some ((m + m) % 4, (m + m).toNat / 4) :=
      scrollBackward_some.2 ⟨hfuel, hrest, rfl⟩
    have hforward : scrollForward 1073741823 ((m + m) % 4) = some (0 - 4 + (m + m) % 4, 1073741823) :=
      (scrollForward_some hless).2 ⟨Nat.le_refl _, hne, rfl, rfl⟩
    refine ⟨1073741823, (0 - 4 + (m + m) % 4, (m + m).toNat / 4 + 1073741823), ?_⟩
    unfold scrollLoops
    rw [hback, Option.bind_some, hforward]
    rfl

/-- A quarter of a signed amount is below the turns of the second loop. -/
theorem signedScroll_quarter (m : UInt32) : (signedScroll m).natAbs / 4 < 1073741823 := by
  have hlow : -2 ^ 31 ≤ signedScroll m := BitVec.le_toInt _
  have hhigh : signedScroll m < 2 ^ 31 := BitVec.toInt_lt
  omega

/-! The decoder with its loops. -/

namespace Touchpad

variable (G : Gestures) (w : TouchpadWorld) (fuel : Nat)

/-- The state and the number of turns, if the loops end. -/
def primaryLoops (p : Packet) (a : Primary) (s : Touchpad) : Option (Touchpad × Nat) :=
  if s.synTPad.m_scroll ≠ 0 then
    (scrollLoops fuel s.synTPad.m_scroll).map fun r => ({ s with synTPad.m_scroll := r.1 }, r.2)
  else some (s.primaryPacket G w p a, 0)

def reportNewLoops (p : Packet) (s : Touchpad) : Option (Touchpad × Nat) :=
  let a := s.primaryNew p
  if a.x < XMIN_NOMINAL / 2 && a.pressure > 0 then some (s.invalidPrimary G w, 0)
  else (s.middleButton p).primaryLoops G w fuel p (primaryWrapped a)

def reportOldLoops (p : Packet) (s : Touchpad) : Option (Touchpad × Nat) :=
  let a := s.primaryOld p
  if a.x < XMIN_NOMINAL && a.pressure > 0 then some (s.invalidPrimary G w, 0)
  else s.primaryLoops G w fuel p (primaryWrapped a)

/-- `Synaptics_report_absolute`, turn by turn. -/
def reportLoops (p : Packet) (s : Touchpad) : Option (Touchpad × Nat) :=
  if SYN_MODEL_NEWABS s.synTPad.model_id then
    let s := s.setW (newW p)
    if s.isExtended then some (s.extendedPacket p, 0) else s.reportNewLoops G w fuel p
  else (s.setW (oldW p)).reportOldLoops G w fuel p

/-- The packet tells a scroll itself. -/
def tellsScroll (p : Packet) (s : Touchpad) : Bool :=
  SYN_MODEL_NEWABS s.synTPad.model_id && !s.button.isClickPad && SYN_CAP_MIDDLE_BUTTON s.synTPad.capabilities &&
    newW p = 2

/-- The packet's own amount, or the one that is left. -/
def scrollAmount (p : Packet) (s : Touchpad) : UInt32 :=
  if s.tellsScroll p then .ofInt (p 1).toInt8.toInt else s.synTPad.m_scroll

/-- The packet is given back before the scroll is looked at: it is extended, or invalid. -/
def returnsEarly (p : Packet) (s : Touchpad) : Bool :=
  if SYN_MODEL_NEWABS s.synTPad.model_id then
    s.tracksFingers && newW p = 2 || (s.primaryNew p).x < XMIN_NOMINAL / 2 && (s.primaryNew p).pressure > 0
  else (s.primaryOld p).x < XMIN_NOMINAL && (s.primaryOld p).pressure > 0

/-- The loops end, and after no more turns than a quarter of the amount. -/
def EndsInTime (p : Packet) (s : Touchpad) : Prop :=
  ∃ fuel t n, s.reportLoops G w fuel p = some (t, n) ∧ n ≤ (signedScroll (s.scrollAmount p)).natAbs / 4

variable {G w fuel}

theorem primaryLoops_refines {p : Packet} {a : Primary} {s t : Touchpad} {n : Nat}
    (h : s.primaryLoops G w fuel p a = some (t, n)) : t = s.primaryPacket G w p a := by
  unfold primaryLoops at h
  split at h
  · next hscroll =>
    obtain ⟨r, hr, hpair⟩ := Option.map_eq_some_iff.1 h
    obtain ⟨rfl, -⟩ := Prod.mk.inj hpair
    rw [(scrollLoops_some hr).2.1, primaryPacket, if_pos hscroll]
  · exact ((Prod.mk.inj (Option.some.inj h)).1).symm

/-- If the loops end, the decoder has done what is said of it without them. -/
theorem reportLoops_refines {p : Packet} {s t : Touchpad} {n : Nat} (h : s.reportLoops G w fuel p = some (t, n)) :
    t = s.Synaptics_report_absolute G w p := by
  unfold reportLoops reportNewLoops reportOldLoops at h
  unfold Synaptics_report_absolute reportNew reportOld
  dsimp only at h ⊢
  repeat' split at h
  · next hnew hextended =>
    rw [if_pos hnew, if_pos hextended]
    exact ((Prod.mk.inj (Option.some.inj h)).1).symm
  · next hnew hextended hinvalid =>
    rw [if_pos hnew, if_neg hextended, if_pos hinvalid]
    exact ((Prod.mk.inj (Option.some.inj h)).1).symm
  · next hnew hextended hinvalid =>
    rw [if_pos hnew, if_neg hextended, if_neg hinvalid]
    exact primaryLoops_refines h
  · next hnew hinvalid =>
    rw [if_neg hnew, if_pos hinvalid]
    exact ((Prod.mk.inj (Option.some.inj h)).1).symm
  · next hnew hinvalid =>
    rw [if_neg hnew, if_neg hinvalid]
    exact primaryLoops_refines h

/-- What the loops are given. -/
theorem reportLoops_eq (p : Packet) (s : Touchpad) :
    (s.returnsEarly p = true → ∃ t, s.reportLoops G w fuel p = some (t, 0)) ∧
      (s.returnsEarly p = false → ∃ (t : Touchpad) (a : Primary), t.synTPad.m_scroll = s.scrollAmount p ∧
        s.reportLoops G w fuel p = t.primaryLoops G w fuel p a) := by
  unfold reportLoops reportNewLoops reportOldLoops returnsEarly
  dsimp only
  cases hnew : SYN_MODEL_NEWABS s.synTPad.model_id with
  | true =>
    have hamount : ((s.setW (newW p)).middleButton p).synTPad.m_scroll = s.scrollAmount p := by
      unfold scrollAmount tellsScroll middleButton
      rw [hnew, Bool.true_and]
      show (if (!s.button.isClickPad && SYN_CAP_MIDDLE_BUTTON s.synTPad.capabilities && newW p = 2) = true then
        { s.setW (newW p) with synTPad.m_scroll := .ofInt (p 1).toInt8.toInt } else s.setW (newW p)).synTPad.m_scroll = _
      split <;> rfl
    have hextended : (s.setW (newW p)).isExtended = (s.tracksFingers && newW p = 2) := rfl
    have hprimary : (s.setW (newW p)).primaryNew p = s.primaryNew p := rfl
    rw [if_pos rfl, if_pos rfl, hextended, hprimary]
    cases (s.tracksFingers && decide (newW p = 2)) with
    | true => exact ⟨fun _ => ⟨_, if_pos rfl⟩, fun hfalse => absurd hfalse (by simp)⟩
    | false =>
      rw [if_neg Bool.false_ne_true, Bool.false_or]
      cases (decide ((s.primaryNew p).x < XMIN_NOMINAL / 2) && decide ((s.primaryNew p).pressure > 0)) with
      | true => exact ⟨fun _ => ⟨_, if_pos rfl⟩, fun hfalse => absurd hfalse (by simp)⟩
      | false => exact ⟨fun hfalse => absurd hfalse (by simp), fun _ => ⟨_, _, hamount, if_neg Bool.false_ne_true⟩⟩
  | false =>
    have hamount : (s.setW (oldW p)).synTPad.m_scroll = s.scrollAmount p := by
      unfold scrollAmount tellsScroll
      rw [hnew]
      rfl
    have hprimary : (s.setW (oldW p)).primaryOld p = s.primaryOld p := rfl
    rw [if_neg Bool.false_ne_true, if_neg Bool.false_ne_true, hprimary]
    cases (decide ((s.primaryOld p).x < XMIN_NOMINAL) && decide ((s.primaryOld p).pressure > 0)) with
    | true => exact ⟨fun _ => ⟨_, if_pos rfl⟩, fun hfalse => absurd hfalse (by simp)⟩
    | false => exact ⟨fun hfalse => absurd hfalse (by simp), fun _ => ⟨_, _, hamount, if_neg Bool.false_ne_true⟩⟩

theorem primaryLoops_turns {p : Packet} {a : Primary} {s t : Touchpad} {n : Nat} (hscroll : s.synTPad.m_scroll ≠ 0)
    (h : s.primaryLoops G w fuel p a = some (t, n)) : 1073741823 ≤ n := by
  unfold primaryLoops at h
  rw [if_pos hscroll] at h
  obtain ⟨r, hr, hpair⟩ := Option.map_eq_some_iff.1 h
  obtain ⟨-, rfl⟩ := Prod.mk.inj hpair
  exact (scrollLoops_some hr).2.2

/-- The decoder ends in time just when the packet is given back before, or tells no scroll
    and finds none. -/
theorem reportLoops_bounded_iff (G : Gestures) (w : TouchpadWorld) (p : Packet) (s : Touchpad) :
    s.EndsInTime G w p ↔ s.returnsEarly p = true ∨ s.scrollAmount p = 0 := by
  cases hearly : s.returnsEarly p with
  | true =>
    obtain ⟨t, ht⟩ := (@reportLoops_eq G w 0 p s).1 hearly
    exact iff_of_true ⟨0, t, 0, ht, Nat.zero_le _⟩ (.inl rfl)
  | false =>
    constructor
    · rintro ⟨fuel, t, n, h, hbound⟩
      obtain ⟨t', a, hscroll, hloops⟩ := (@reportLoops_eq G w fuel p s).2 hearly
      right
      rw [hloops] at h
      by_contra hne
      have hturns := primaryLoops_turns (by rw [hscroll]; exact hne) h
      have hquarter := signedScroll_quarter (s.scrollAmount p)
      omega
    · rintro (hfalse | hzero)
      · cases hfalse
      · obtain ⟨t, a, hscroll, hloops⟩ := (@reportLoops_eq G w 0 p s).2 hearly
        refine ⟨0, t.primaryPacket G w p a, 0, ?_, Nat.zero_le _⟩
        rw [hloops, primaryLoops, if_neg (by rw [hscroll, hzero]; decide)]

/-- The middle button of a touchpad of the newer model is scrolled by two. -/
def scrollTwo : List UInt8 := [0x84, 0x02, 0x00, 0xC0, 0x00, 0x00]

def middleStart : Touchpad :=
  { init with
    touchpadVendor := .STD_SYNAPTICS, hwVersion := STD_SYNAPTICS_HW, pktsize := 6
    synTPad := { (default : SynTPad) with model_id := 0x80, capabilities := 0x40000 } }

/-- The first loop takes the doubled amount to 0, and the second one does not end. -/
theorem scrollTwo_endless :
    ¬∃ fuel, (middleStart.reportLoops .idle .silent fuel (fun i => scrollTwo.getD i 0)).isSome = true := by
  rintro ⟨fuel, hsome⟩
  have hearly : middleStart.returnsEarly (fun i => scrollTwo.getD i 0) = false := by decide +kernel
  have hamount : middleStart.scrollAmount (fun i => scrollTwo.getD i 0) = 2 := by decide +kernel
  obtain ⟨t, a, hscroll, hloops⟩ := (@reportLoops_eq .idle .silent fuel _ middleStart).2 hearly
  rw [hamount] at hscroll
  have hnone : scrollLoops fuel 2 = none := by
    cases h : scrollLoops fuel 2 with
    | none => rfl
    | some r => exact absurd (scrollLoops_some h).1 (by decide)
  have hne : t.synTPad.m_scroll ≠ 0 := by
    rw [hscroll]
    decide
  rw [hloops, primaryLoops, if_pos hne, hscroll, hnone] at hsome
  cases hsome

end Touchpad

end ApplePS2
