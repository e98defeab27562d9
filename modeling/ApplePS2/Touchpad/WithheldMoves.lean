import ApplePS2.Touchpad.Pointer

/- The movements of one finger that are withheld while a tap is still possible, beside
   the list of them since the last one that was dispatched directly.

   1. `skipped_packet`: what a packet does with the buffer.
   2. `replayed_eq`: the loop dispatches the withheld movements but for the first one.
   3. `replays_iff`: all of them are dispatched exactly if there are none. -/
namespace ApplePS2

namespace Pointer

variable {c : PointerSettings}

/-! The withheld movements. -/

/-- What is kept of a withheld movement. -/
def skippedAt (s : Pointer) (i : Nat) : Int16 × Int16 := ((s.lastSample i).skippedX, (s.lastSample i).skippedY)

/-- The packet's movement is withheld. -/
def withholds (p : PointerPacket) : Bool := !p.inDisabledArea && isWithheld p && moves p

/-- The packet moves the pointer. -/
def movesPointer (c : PointerSettings) (p : PointerPacket) (s : Pointer) : Bool :=
  points c p && ((s.ready c p).pDx ≠ 0 || (s.ready c p).pDy ≠ 0)

theorem skipped_smoothDelta (p : PointerPacket) (s : Pointer) :
    (s.smoothDelta c p).skipSample = s.skipSample ∧ (s.smoothDelta c p).skippedAt = s.skippedAt := by
  have hreset : (s.resetSamples c).skippedAt = s.skippedAt := by
    funext i
    unfold skippedAt resetSamples
    dsimp only
    split <;> rfl
  have hstore : ∀ t : Pointer, (t.storeSample c p).skippedAt = t.skippedAt := by
    intro t
    funext i
    unfold skippedAt storeSample
    dsimp only
    by_cases hi : i = t.cSample.toNat
    · rw [hi, Function.update_self]
    · rw [Function.update_of_ne hi]
  have hsum : ∀ t : Pointer, (t.sumSamples c).skippedAt = t.skippedAt := fun _ => rfl
  unfold smoothDelta
  split
  · split
    · exact ⟨rfl, (hsum _).trans ((hstore _).trans hreset)⟩
    · exact ⟨rfl, (hsum _).trans (hstore _)⟩
  · exact ⟨rfl, rfl⟩

theorem skipped_ready (p : PointerPacket) (s : Pointer) :
    (s.ready c p).skipSample = s.skipSample ∧ (s.ready c p).skippedAt = s.skippedAt := by
  have haccelerate : ∀ t : Pointer,
      (t.accelerate c p).skipSample = t.skipSample ∧ (t.accelerate c p).skippedAt = t.skippedAt := by
    intro t
    unfold accelerate
    dsimp only
    repeat' split
    all_goals exact ⟨rfl, rfl⟩
  obtain ⟨hcount, hkept⟩ := haccelerate (s.smoothDelta c p)
  obtain ⟨hcount', hkept'⟩ := skipped_smoothDelta (c := c) p s
  exact ⟨hcount.trans hcount', hkept.trans hkept'⟩

/-- What a packet does with the withheld movements. -/
theorem skipped_packet (p : PointerPacket) (s : Pointer) :
    if withholds p then
      (s.packet c p).2.skipSample = (if s.skipSample < 10 then s.skipSample + 1 else s.skipSample) ∧
        (s.packet c p).2.skippedAt = Function.update s.skippedAt s.skipSample.toNat (.ofInt p.xDelta, .ofInt p.yDelta)
    else if s.movesPointer c p then (s.packet c p).2.skipSample = 0
    else (s.packet c p).2.skipSample = s.skipSample ∧ (s.packet c p).2.skippedAt = s.skippedAt := by
  obtain ⟨hcount, hkept⟩ := skipped_ready (c := c) p s
  unfold movesPointer points withholds
  rw [packet_eq, ← hcount, ← hkept]
  generalize s.ready c p = t
  unfold dispatch
  by_cases harea : p.inDisabledArea = true
  · rw [if_pos harea]
    simp only [harea, Bool.not_true, Bool.false_and, Bool.false_eq_true, if_false]
    split <;> exact ⟨rfl, rfl⟩
  · rw [if_neg harea]
    by_cases hwithheld : isWithheld p = true
    · rw [if_pos hwithheld]
      unfold withhold
      by_cases hmoves : moves p = true
      · simp only [harea, hwithheld, hmoves, Bool.not_false, Bool.and_self, if_true]
        refine ⟨trivial, ?_⟩
        funext i
        unfold skippedAt
        dsimp only
        by_cases hi : i = t.skipSample.toNat
        · rw [hi, Function.update_self, Function.update_self]
        · rw [Function.update_of_ne hi, Function.update_of_ne hi]
      · simp only [harea, hwithheld, hmoves, Bool.not_false, Bool.not_true, Bool.and_false, Bool.false_and,
          Bool.false_eq_true, if_false]
        exact ⟨trivial, rfl⟩
    · -- the same conditions in another order
      have horder : (moves p && decide (p.pressure ≥ c.tSenseLvl) && (decide (t.pDx ≠ 0) || decide (t.pDy ≠ 0))) =
          ((decide (t.pDx ≠ 0) || decide (t.pDy ≠ 0)) && moves p && decide (p.pressure ≥ c.tSenseLvl)) :=
        (Bool.and_comm _ _).trans (Bool.and_assoc _ _ _).symm
      rw [if_neg hwithheld]
      simp only [harea, hwithheld, Bool.not_false, Bool.true_and, Bool.false_and, Bool.false_eq_true, if_false]
      rw [horder]
      split
      · rfl
      · exact ⟨rfl, rfl⟩

theorem sent_of_moved {p : PointerPacket} {s : Pointer} (h : s.movesPointer c p = true) :
    (s.packet c p).1 = (s.ready c p).replayed ++ [.moved (s.ready c p).pDx (s.ready c p).pDy] := by
  simp only [movesPointer, points, Bool.and_eq_true, Bool.not_eq_true'] at h
  rw [packet_eq]
  unfold dispatch
  rw [if_neg (ne_true_of_eq_false h.1.1.1.1), if_neg (ne_true_of_eq_false h.1.1.1.2),
    if_pos ((Bool.and_eq_true _ _).mpr ⟨(Bool.and_eq_true _ _).mpr ⟨h.2, h.1.1.2⟩, h.1.2⟩)]

theorem movesPointer_iff {p : PointerPacket} {s : Pointer} :
    s.movesPointer c p = true ↔ ∃ dx dy, .moved dx dy ∈ (s.packet c p).1 := by
  unfold movesPointer
  rw [Bool.and_eq_true, Bool.or_eq_true, decide_eq_true_eq, decide_eq_true_eq]
  constructor
  · intro h
    exact ⟨_, _, moved_mem_iff.mpr ⟨h.1, h.2, rfl, rfl⟩⟩
  · rintro ⟨dx, dy, h⟩
    obtain ⟨hpoints, hsome, -⟩ := moved_mem_iff.mp h
    exact ⟨hpoints, hsome⟩

end Pointer

/-- The pointer, and the movements that have been withheld since one was dispatched directly. -/
structure Withholding where
  pointer : Pointer
  pending : List (Int × Int)
  counted : pointer.skipSample.toNat = min pending.length 10
  kept : ∀ i d, i < 10 → pending[i]? = some d → pointer.skippedAt i = (.ofInt d.1, .ofInt d.2)

namespace Withholding

open Pointer Transition

def begun : Withholding :=
  { pointer := .begun, pending := [], counted := rfl, kept := fun _ _ _ h => absurd h (by simp) }

variable (c : PointerSettings)

def pendingAfter (m : Withholding) (p : PointerPacket) : List (Int × Int) :=
  if withholds p then m.pending ++ [(p.xDelta, p.yDelta)]
  else if m.pointer.movesPointer c p then []
  else m.pending

theorem counted_after (m : Withholding) (p : PointerPacket) :
    (m.pointer.packet c p).2.skipSample.toNat = min (m.pendingAfter c p).length 10 := by
  have hpacket := skipped_packet (c := c) p m.pointer
  have hcounted := m.counted
  unfold pendingAfter
  split at hpacket
  · next hwithholds =>
    rw [if_pos hwithholds, hpacket.1, List.length_append, List.length_singleton]
    split
    · next hroom =>
      have hlt : m.pointer.skipSample.toNat < 10 := UInt8.lt_iff_toNat_lt.mp hroom
      rw [UInt8.toNat_add, hcounted]
      simp only [UInt8.reduceToNat]
      omega
    · next hfull =>
      have hge : ¬ m.pointer.skipSample.toNat < 10 := fun h => hfull (UInt8.lt_iff_toNat_lt.mpr h)
      omega
  · next hwithholds =>
    rw [if_neg hwithholds]
    split at hpacket
    · next hmoved =>
      rw [if_pos hmoved, hpacket]
      rfl
    · next hmoved =>
      rw [if_neg hmoved, hpacket.1]
      exact hcounted

theorem kept_after (m : Withholding) (p : PointerPacket) (i : Nat) (d : Int × Int) (hi : i < 10)
    (hd : (m.pendingAfter c p)[i]? = some d) :
    (m.pointer.packet c p).2.skippedAt i = (.ofInt d.1, .ofInt d.2) := by
  have hpacket := skipped_packet (c := c) p m.pointer
  have hcounted := m.counted
  unfold pendingAfter at hd
  split at hpacket
  · next hwithholds =>
    rw [if_pos hwithholds] at hd
    rw [hpacket.2]
    by_cases hlast : i = m.pending.length
    · have hplace : i = m.pointer.skipSample.toNat := by omega
      rw [hlast, List.getElem?_concat_length] at hd
      cases hd
      rw [hplace, Function.update_self]
    · have hbefore : i < m.pending.length := by
        have hlength := (List.getElem?_eq_some_iff.mp hd).1
        rw [List.length_append, List.length_singleton] at hlength
        omega
      rw [Function.update_of_ne (by omega)]
      rw [List.getElem?_append_left hbefore] at hd
      exact m.kept i d hi hd
  · next hwithholds =>
    rw [if_neg hwithholds] at hd
    split at hpacket
    · next hmoved =>
      rw [if_pos hmoved] at hd
      exact absurd hd (by simp)
    · next hmoved =>
      rw [if_neg hmoved] at hd
      rw [hpacket.2]
      exact m.kept i d hi hd

def step (m : Withholding) (p : PointerPacket) : Withholding :=
  { pointer := (m.pointer.packet c p).2
    pending := m.pendingAfter c p
    counted := m.counted_after c p
    kept := m.kept_after c p }

variable {c}

/-- The loop dispatches all withheld movements in their order, but for the first one. -/
theorem replayed_eq {m : Withholding} (h : m.pending.length ≤ 10) (p : PointerPacket) :
    (m.pointer.ready c p).replayed = m.pending.tail.map fun d => .skipped (toSInt16 d.1) (toSInt16 d.2) := by
  obtain ⟨hcount, hkept⟩ := skipped_ready (c := c) p m.pointer
  have hlength : m.pointer.skipSample.toNat = m.pending.length := by
    have hcounted := m.counted
    omega
  unfold replayed
  rw [hcount, hlength]
  apply List.ext_getElem
  · rw [List.length_map, List.length_range', List.length_map, List.length_tail]
  · intro i hi hi'
    have hplace : i + 1 < m.pending.length := by
      rw [List.length_map, List.length_range'] at hi
      omega
    have hentry : (m.pointer.ready c p).skippedAt (i + 1) =
        (.ofInt m.pending[i + 1].1, .ofInt m.pending[i + 1].2) := by
      rw [hkept]
      exact m.kept (i + 1) _ (by omega) (List.getElem?_eq_getElem hplace)
    rw [List.getElem_map, List.getElem_map, List.getElem_range', List.getElem_tail, Nat.one_mul, Nat.add_comm 1 i]
    have hx := congrArg (fun e : Int16 × Int16 => e.1.toInt) hentry
    have hy := congrArg (fun e : Int16 × Int16 => e.2.toInt) hentry
    dsimp only [skippedAt] at hx hy
    rw [hx, hy]
    rfl

/-- The packet that moves the pointer first dispatches all that has been withheld, if it fits in the buffer. -/
def Replays (c : PointerSettings) (m : Withholding) (p : PointerPacket) : Prop :=
  ∀ dx dy, .moved dx dy ∈ (m.pointer.packet c p).1 → m.pending.length ≤ 10 →
    (m.pointer.packet c p).1 = m.pending.map (fun d => .skipped d.1 d.2) ++ [.moved dx dy]

/-- Nothing is withheld when the pointer is moved. -/
def NothingWithheld (c : PointerSettings) (m : Withholding) (p : PointerPacket) : Prop :=
  m.pointer.movesPointer c p = true → m.pending.length ≤ 10 → m.pointer.skipSample = 0

theorem replays_packet (m : Withholding) (p : PointerPacket) : m.Replays c p ↔ m.NothingWithheld c p := by
  have hcounted := m.counted
  unfold Replays NothingWithheld
  constructor
  · intro h hmoved hfits
    obtain ⟨dx, dy, hmem⟩ := movesPointer_iff.mp hmoved
    have hsent := congrArg List.length (h dx dy hmem hfits)
    rw [sent_of_moved hmoved, replayed_eq hfits, List.length_append, List.length_append, List.length_map, List.length_map,
      List.length_tail] at hsent
    have hnone : m.pointer.skipSample.toNat = 0 := by
      simp only [List.length_singleton] at hsent
      omega
    exact UInt8.toNat_inj.mp hnone
  · intro h dx dy hmem hfits
    have hmoved := movesPointer_iff.mpr ⟨dx, dy, hmem⟩
    obtain ⟨-, -, hdx, hdy⟩ := moved_mem_iff.mp hmem
    have hnone : m.pending = [] := by
      rw [h hmoved hfits] at hcounted
      have hzero : 0 = min m.pending.length 10 := hcounted
      exact List.length_eq_zero_iff.mp (by omega)
    rw [sent_of_moved hmoved, replayed_eq hfits, hnone, hdx, hdy]
    rfl

/-- In a run from the start of a touch the withheld movements are dispatched before the next direct
one, in their order and once, exactly if there are none. -/
theorem replays_iff (c : PointerSettings) (ps : List PointerPacket) :
    (∀ q p, q ++ [p] <+: ps → (run (step c) q begun).Replays c p) ↔
      ∀ q p, q ++ [p] <+: ps → (run (step c) q begun).NothingWithheld c p :=
  forall_congr' fun _ => forall_congr' fun p => forall_congr' fun _ => replays_packet _ p

/-- A small movement that may be a tap's. -/
def tapBy (dx dy : Int) : PointerPacket := { moveBy dx dy with packetsCount := 2, isTapGesture := true }

/-- The first of two withheld movements is lost. -/
theorem replays_lost : ¬ (run (step .default) [tapBy 3 0, tapBy 4 0] begun).Replays .default (moveBy 10 0) := by
  intro h
  have hsent : ((run (step .default) [tapBy 3 0, tapBy 4 0] begun).pointer.packet .default (moveBy 10 0)).1 =
      [.skipped 4 0, .moved 3 0] := by decide +kernel
  have hpending : (run (step .default) [tapBy 3 0, tapBy 4 0] begun).pending = [(3, 0), (4, 0)] := by decide +kernel
  have hall := h 3 0 (by rw [hsent]; decide) (by rw [hpending]; decide)
  rw [hsent, hpending] at hall
  exact absurd hall (by decide)

end Withholding
end ApplePS2
