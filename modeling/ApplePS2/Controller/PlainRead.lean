import ApplePS2.Controller.DataPort

/- The out-of-order read against the plain one.

   1. `settle_result`: the window of the first four bytes, over the requested stream alone.
   2. `readLoop_plain`: where the first byte of the stream is the expected one, or there is
      none, the expected byte makes no difference to the loop.
   3. `readDataPortExpecting_refines`: what is returned in general, and both reads compared. -/
namespace ApplePS2

/-! The byte returned. -/

theorem settle_result (e : UInt8) (bs held : List UInt8) (h : held.length ≤ 3) :
    (settle (some e) held bs).result = if e ∈ bs.take (4 - held.length) then e else (held ++ bs).headD 0 := by
  induction bs generalizing held with
  | nil => simp [settle, timedOut]
  | cons b bs ih =>
    obtain ⟨n, hn⟩ : ∃ n, 4 - held.length = n + 1 := ⟨3 - held.length, by omega⟩
    rw [hn, List.take_succ_cons]
    by_cases hb : b = e
    · rw [hb, settle_match]
      simp
    · have hmem : e ∈ b :: bs.take n ↔ e ∈ bs.take n := by simp [Ne.symm hb]
      by_cases hheld : held.length < 3
      · have hlength : (held ++ [b]).length = held.length + 1 := by simp
        have hwindow : 4 - (held ++ [b]).length = n := by omega
        rw [settle_mismatch e held b bs hb hheld, ih (held ++ [b]) (by omega), hwindow]
        simp [hmem]
      · -- three bytes are held, and the fourth ends the search
        have hthree : held.length = 3 := by omega
        have hnone : n = 0 := by omega
        have hhead : (held ++ b :: bs).headD 0 = held.headD 0 := by
          cases held with
          | nil => cases hthree
          | cons a held => rfl
        rw [settle_fourth e held b bs hb (Nat.le_of_eq hthree.symm), hnone, hhead]
        simp [Ne.symm hb]

/-- The expected byte is found: it is among the first four of its stream that are there in
time, or it is the fake value that stands for none. -/
def Found (d : PS2DeviceType) (e : UInt8) (p : Ports) : Prop :=
  e ∈ (arriving d p).take 4 ∨ arriving d p = [] ∧ e = 0

theorem readDataPortExpecting_byte (d : PS2DeviceType) (e : UInt8) (p : Ports) :
    (readDataPortExpecting d e p).byte =
      if e ∈ (arriving d p).take 4 then e else (arriving d p).headD 0 := by
  have hspec := (readLoop_spec d (some e) p).1
  rw [settle_result e _ [] (by decide)] at hspec
  exact hspec

theorem headD_eq_iff {e : UInt8} {bs : List UInt8} (h : e ∉ bs.take 4) : bs.headD 0 = e ↔ bs = [] ∧ e = 0 := by
  cases bs with
  | nil => exact ⟨fun he => ⟨rfl, he.symm⟩, fun he => he.2.symm⟩
  | cons b bs =>
    have hb : e ≠ b := fun hb => h (by simp [hb])
    exact iff_of_false (Ne.symm hb) fun he => List.cons_ne_nil b bs he.1

/-! The ordinary path. -/

/-- The first byte is the expected one, if there is one. -/
def Ordinary (e : UInt8) (bs : List UInt8) : Prop := ∀ b ∈ bs.head?, b = e

theorem pollLoop_plain {d : PS2DeviceType} {e : UInt8} (queue : List UInt8) (ps : List Poll) (t : Nat)
    (h : Ordinary e (bytesOn d (beforeTimeout t ps))) :
    pollLoop d (some e) queue t [] ps = pollLoop d none queue t [] ps := by
  induction ps generalizing t with
  | nil => rfl
  | cons p ps ih =>
    cases p with
    | idle =>
      by_cases ht : t ≤ 1
      · simp only [pollLoop, ht, if_true]
      · simp only [beforeTimeout, ht, if_false, bytesOn_idle] at h
        simp only [pollLoop, ht, if_false]
        exact ih (t - 1) h
    | byte s b =>
      simp only [beforeTimeout, bytesOn_byte] at h
      by_cases hs : s = d
      · rw [if_pos hs] at h
        have hb : b = e := h b rfl
        simp only [pollLoop, hs, hb, takeRequested, if_true]
      · rw [if_neg hs] at h
        simp only [pollLoop, hs, if_false]
        exact congrArg (ReadResult.after _) (ih t h)

theorem readLoop_plain {d : PS2DeviceType} {e : UInt8} {p : Ports} (h : Ordinary e (arriving d p)) :
    readLoop d (some e) p = readLoop d none p := by
  cases d with
  | kDT_Mouse =>
    have harriving : arriving .kDT_Mouse p = bytesOn .kDT_Mouse (beforeTimeout kTimeoutCounter p.polls) := by
      simp [arriving]
    rw [harriving] at h
    exact pollLoop_plain p.keyboardQueue p.polls kTimeoutCounter h
  | kDT_Keyboard =>
    show queueLoop (some e) [] p.keyboardQueue p.polls = queueLoop none [] p.keyboardQueue p.polls
    have harriving : arriving .kDT_Keyboard p =
        p.keyboardQueue ++ bytesOn .kDT_Keyboard (beforeTimeout kTimeoutCounter p.polls) := by simp [arriving]
    rw [harriving] at h
    cases hqueue : p.keyboardQueue with
    | nil =>
      rw [hqueue] at h
      exact pollLoop_plain [] p.polls kTimeoutCounter h
    | cons b queue =>
      rw [hqueue] at h
      have hb : b = e := h b rfl
      simp only [queueLoop, hb, takeRequested, if_true]

/-- The out-of-order read returns the expected byte exactly when it is found, and otherwise
the first byte of the stream; where that byte is the expected one, or there is none, it
cannot be told from the plain read. -/
theorem readDataPortExpecting_refines (d : PS2DeviceType) (e : UInt8) (p : Ports) :
    ((readDataPortExpecting d e p).byte = e ↔ Found d e p) ∧
    (¬ Found d e p → (readDataPortExpecting d e p).byte = (arriving d p).headD 0) ∧
    ((arriving d p).head? = some e ∨ arriving d p = [] → readDataPortExpecting d e p = readDataPort d p) := by
  rw [readDataPortExpecting_byte]
  refine ⟨?_, ?_, ?_⟩
  · by_cases hmem : e ∈ (arriving d p).take 4
    · rw [if_pos hmem]
      exact iff_of_true rfl (.inl hmem)
    · rw [if_neg hmem, headD_eq_iff hmem]
      exact ⟨.inr, fun hfound => hfound.resolve_left hmem⟩
  · intro hfound
    rw [if_neg fun hmem => hfound (.inl hmem)]
  · intro hfirst
    apply readLoop_plain
    intro b hb
    obtain hhead | hnone := hfirst
    · rw [hhead] at hb
      exact (Option.some.inj hb).symm
    · rw [hnone] at hb
      cases hb

end ApplePS2
