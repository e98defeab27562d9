import Mathlib.Data.List.Basic
import ApplePS2.Device

/- The controller's two data-port reads (`ApplePS2Controller.cpp`,
   `readDataPort(deviceType)` and `readDataPort(deviceType, expectedByte)`).

   What the port does during a call is a list of polls: each status poll finds
   the output buffer empty, or finds a byte of one of the two streams. Past the
   end of the list the buffer stays empty, so that a call that still waits there
   times out. `dispatched` lists the calls of `dispatchDriverInterrupt` in order.

   1. `takeRequested` is the decision the loop takes on a byte of the requested
      stream, shared by both reads (the plain one expects nothing).
   2. `settle` runs that decision over the bytes of the requested stream alone,
      and `readLoop_spec` says that the real loop does exactly this on its own
      stream and hands every byte of the other stream on.
   3. `readDataPortExpecting_conserves_iff` says which inputs keep all bytes. -/
namespace ApplePS2

/-- What one status poll finds. -/
inductive Poll where
  | idle
  | byte (stream : PS2DeviceType) (data : UInt8)
  deriving DecidableEq, Repr

/-- The input side of the controller: the port and the internal keyboard queue. -/
structure Ports where
  polls : List Poll
  keyboardQueue : List UInt8
  deriving DecidableEq, Repr

/-- A call of `dispatchDriverInterrupt`. -/
abbrev Dispatch := PS2DeviceType × UInt8

structure ReadResult where
  byte : UInt8
  ports : Ports
  dispatched : List Dispatch
  deriving DecidableEq, Repr

/-- The result with dispatches made before it. -/
def ReadResult.after (ds : List Dispatch) (r : ReadResult) : ReadResult :=
  { r with dispatched := ds ++ r.dispatched }

@[simp] theorem ReadResult.after_byte (ds : List Dispatch) (r : ReadResult) :
    (r.after ds).byte = r.byte := rfl
@[simp] theorem ReadResult.after_ports (ds : List Dispatch) (r : ReadResult) :
    (r.after ds).ports = r.ports := rfl
@[simp] theorem ReadResult.after_dispatched (ds : List Dispatch) (r : ReadResult) :
    (r.after ds).dispatched = ds ++ r.dispatched := rfl

/-- `timeoutCounter`: 10000 polls of `kDataDelay`, 200 ms. -/
def kTimeoutCounter : Nat := 10000

/-- The outcome of one byte of the requested stream: read on with these bytes
held, or dispatch some bytes of the stream and return. -/
inductive ReadStep where
  | more (held : List UInt8)
  | done (out : List UInt8) (result : UInt8)
  deriving DecidableEq, Repr

/-- The decision on a byte of the requested stream. `held` are `firstByte`,
`secondByte` and `thirdByte` as far as they are held. The plain read expects
nothing and returns the byte. -/
def takeRequested (expected : Option UInt8) (held : List UInt8) (readByte : UInt8) : ReadStep :=
  match expected with
  | none => .done [] readByte
  | some expectedByte =>
    if readByte = expectedByte then .done held readByte
    else if held.length < 3 then .more (held ++ [readByte])
    -- the fourth mismatch dispatches the byte just read only
    else .done [readByte] (held.headD 0)

/-- The value returned on a time-out: the first byte held, else a fake value. -/
def timedOut (held : List UInt8) : UInt8 := held.headD 0

/-- The loop from the port: `timeoutCounter` polls without data are left. -/
def pollLoop (d : PS2DeviceType) (expected : Option UInt8) (queue : List UInt8) :
    Nat → List UInt8 → List Poll → ReadResult
  | _, held, [] => ⟨timedOut held, ⟨[], queue⟩, []⟩
  | t, held, .idle :: ps =>
    if t ≤ 1 then ⟨timedOut held, ⟨ps, queue⟩, []⟩
    else pollLoop d expected queue (t - 1) held ps
  | t, held, .byte s b :: ps =>
    if s = d then
      match takeRequested expected held b with
      | .more held' => pollLoop d expected queue t held' ps
      | .done out r => ⟨r, ⟨ps, queue⟩, out.map (d, ·)⟩
    else (pollLoop d expected queue t held ps).after [(d.other, b)]

/-- The loop of a keyboard read: the internal queue is looked at before the port. -/
def queueLoop (expected : Option UInt8) : List UInt8 → List UInt8 → List Poll → ReadResult
  | held, [], ps => pollLoop .kDT_Keyboard expected [] kTimeoutCounter held ps
  | held, b :: queue, ps =>
    match takeRequested expected held b with
    | .more held' => queueLoop expected held' queue ps
    | .done out r => ⟨r, ⟨ps, queue⟩, out.map (.kDT_Keyboard, ·)⟩

/-- The loop both reads share. -/
def readLoop (d : PS2DeviceType) (expected : Option UInt8) (p : Ports) : ReadResult :=
  match d with
  | .kDT_Keyboard => queueLoop expected [] p.keyboardQueue p.polls
  | .kDT_Mouse => pollLoop .kDT_Mouse expected p.keyboardQueue kTimeoutCounter [] p.polls

def readDataPort (d : PS2DeviceType) (p : Ports) : ReadResult := readLoop d none p

def readDataPortExpecting (d : PS2DeviceType) (expectedByte : UInt8) (p : Ports) : ReadResult :=
  readLoop d (some expectedByte) p

/-! What a call takes off the queue and the port. -/

def Poll.arrival : Poll → Option Dispatch
  | .idle => none
  | .byte s b => some (s, b)

/-- The bytes of stream `s`, in order. -/
def streamOf (s : PS2DeviceType) (l : List Dispatch) : List UInt8 :=
  l.filterMap (fun x => if x.1 = s then some x.2 else none)

/-- The bytes of stream `s` among some polls. -/
def bytesOn (s : PS2DeviceType) (ps : List Poll) : List UInt8 := streamOf s (ps.filterMap Poll.arrival)

/-- The front of `l` that is gone when `l'` is left. -/
def goneFrom {α : Type} (l l' : List α) : List α := l.take (l.length - l'.length)

/-- The bytes a call took, in arrival order, each with its stream. -/
def takenOff (before after : Ports) : List Dispatch :=
  (goneFrom before.keyboardQueue after.keyboardQueue).map (.kDT_Keyboard, ·) ++
    (goneFrom before.polls after.polls).filterMap Poll.arrival

/-- The polls a call can make: those before the poll that ends its time-out. -/
def beforeTimeout : Nat → List Poll → List Poll
  | _, [] => []
  | t, .idle :: ps => if t ≤ 1 then [] else .idle :: beforeTimeout (t - 1) ps
  | t, .byte s b :: ps => .byte s b :: beforeTimeout t ps

/-- The bytes of the requested stream that are there for the call: for the
keyboard those of the internal queue, then those that arrive in time. -/
def arriving (d : PS2DeviceType) (p : Ports) : List UInt8 :=
  (if d = .kDT_Keyboard then p.keyboardQueue else []) ++
    bytesOn d (beforeTimeout kTimeoutCounter p.polls)

theorem goneFrom_eq {α : Type} {l l' used : List α} (h : l = used ++ l') : goneFrom l l' = used := by
  simp [goneFrom, h]

theorem takenOff_eq {before after : Ports} {usedQ : List UInt8} {used : List Poll}
    (hq : before.keyboardQueue = usedQ ++ after.keyboardQueue)
    (hp : before.polls = used ++ after.polls) :
    takenOff before after = usedQ.map (.kDT_Keyboard, ·) ++ used.filterMap Poll.arrival := by
  rw [takenOff, goneFrom_eq hq, goneFrom_eq hp]

@[simp] theorem streamOf_nil (s : PS2DeviceType) : streamOf s [] = [] := rfl

@[simp] theorem streamOf_append (s : PS2DeviceType) (l l' : List Dispatch) :
    streamOf s (l ++ l') = streamOf s l ++ streamOf s l' := by
  simp [streamOf]

theorem streamOf_cons (s t : PS2DeviceType) (b : UInt8) (l : List Dispatch) :
    streamOf s ((t, b) :: l) = if t = s then b :: streamOf s l else streamOf s l := by
  by_cases h : t = s <;> simp [streamOf, h]

@[simp] theorem streamOf_tagged (s : PS2DeviceType) (bs : List UInt8) :
    streamOf s (bs.map (s, ·)) = bs := by
  induction bs with
  | nil => rfl
  | cons b bs ih => simp [streamOf_cons, ih]

@[simp] theorem streamOf_other_tagged (s : PS2DeviceType) (bs : List UInt8) :
    streamOf s.other (bs.map (s, ·)) = [] := by
  induction bs with
  | nil => rfl
  | cons b bs ih => cases s <;> simpa [streamOf_cons, PS2DeviceType.other] using ih

@[simp] theorem bytesOn_nil (s : PS2DeviceType) : bytesOn s [] = [] := rfl

@[simp] theorem bytesOn_idle (s : PS2DeviceType) (ps : List Poll) :
    bytesOn s (.idle :: ps) = bytesOn s ps := rfl

theorem bytesOn_byte (s t : PS2DeviceType) (b : UInt8) (ps : List Poll) :
    bytesOn s (.byte t b :: ps) = if t = s then b :: bytesOn s ps else bytesOn s ps := by
  simp only [bytesOn, List.filterMap_cons, Poll.arrival]
  exact streamOf_cons s t b _

theorem other_ne (d : PS2DeviceType) : d.other ≠ d := by cases d <;> decide

theorem ne_other (d : PS2DeviceType) : d ≠ d.other := by cases d <;> decide

/-! The requested stream alone. -/

/-- What the requested stream settles to: the bytes of it that are dispatched,
the byte returned, and the bytes not looked at. -/
structure Settled where
  out : List UInt8
  result : UInt8
  rest : List UInt8

def settle (expected : Option UInt8) : List UInt8 → List UInt8 → Settled
  | held, [] => ⟨[], timedOut held, []⟩
  | held, b :: bs =>
    match takeRequested expected held b with
    | .more held' => settle expected held' bs
    | .done out r => ⟨out, r, bs⟩

/-- A result that took `used` from the port agrees with what the requested
stream settles to, and handed on all of the other stream. -/
structure Agrees (d : PS2DeviceType) (used : List Poll) (r : ReadResult) (s : Settled) : Prop where
  byte : r.byte = s.result
  own : streamOf d r.dispatched = s.out
  other : streamOf d.other r.dispatched = bytesOn d.other used

theorem pollLoop_spec (d : PS2DeviceType) (expected : Option UInt8) (queue : List UInt8) (ps : List Poll)
    (t : Nat) (held : List UInt8) : ∃ used,
      ps = used ++ (pollLoop d expected queue t held ps).ports.polls ∧
      bytesOn d used ++ (settle expected held (bytesOn d (beforeTimeout t ps))).rest =
        bytesOn d (beforeTimeout t ps) ∧
      Agrees d used (pollLoop d expected queue t held ps)
        (settle expected held (bytesOn d (beforeTimeout t ps))) ∧
      (pollLoop d expected queue t held ps).ports.keyboardQueue = queue := by
  induction ps generalizing t held with
  | nil => exact ⟨[], rfl, rfl, ⟨rfl, rfl, rfl⟩, rfl⟩
  | cons p ps ih =>
    cases p with
    | idle =>
      by_cases ht : t ≤ 1
      · refine ⟨[.idle], ?_⟩
        simp only [pollLoop, beforeTimeout, ht, if_true]
        exact ⟨rfl, rfl, ⟨rfl, rfl, rfl⟩, trivial⟩
      · obtain ⟨used, hps, hrest, ⟨hb, ho, hx⟩, hq⟩ := ih (t - 1) held
        refine ⟨.idle :: used, ?_⟩
        simp only [pollLoop, beforeTimeout, ht, if_false, bytesOn_idle]
        exact ⟨congrArg (Poll.idle :: ·) hps, hrest, ⟨hb, ho, hx⟩, hq⟩
    | byte s b =>
      -- a byte of the other device goes to its driver
      by_cases hs : s = d
      · subst hs
        simp only [pollLoop, beforeTimeout, if_true, bytesOn_byte, settle]
        cases hstep : takeRequested expected held b with
        | more held' =>
          obtain ⟨used, hps, hrest, ⟨hb, ho, hx⟩, hq⟩ := ih t held'
          refine ⟨.byte s b :: used, congrArg (Poll.byte s b :: ·) hps, ?_, ⟨hb, ho, ?_⟩, hq⟩
          · simpa [bytesOn_byte] using hrest
          · simpa [bytesOn_byte, ne_other s] using hx
        | done out r =>
          refine ⟨[.byte s b], rfl, ?_, ⟨rfl, ?_, ?_⟩, rfl⟩
          · simp [bytesOn_byte]
          · simp
          · simp [bytesOn_byte, ne_other s]
      · obtain ⟨used, hps, hrest, ⟨hb, ho, hx⟩, hq⟩ := ih t held
        refine ⟨.byte s b :: used, ?_⟩
        have hsd := PS2DeviceType.eq_other_of_ne hs
        simp only [pollLoop, beforeTimeout, hs, if_false, bytesOn_byte]
        refine ⟨congrArg (Poll.byte s b :: ·) hps, hrest, ⟨hb, ?_, ?_⟩, hq⟩
        · simpa [streamOf_cons, other_ne d] using ho
        · simp [streamOf_cons, bytesOn_byte, hsd, hx]

theorem queueLoop_spec (expected : Option UInt8) (ps : List Poll) (queue held : List UInt8) :
    ∃ usedQ used,
      queue = usedQ ++ (queueLoop expected held queue ps).ports.keyboardQueue ∧
      ps = used ++ (queueLoop expected held queue ps).ports.polls ∧
      usedQ ++ bytesOn .kDT_Keyboard used ++ (settle expected held
          (queue ++ bytesOn .kDT_Keyboard (beforeTimeout kTimeoutCounter ps))).rest =
        queue ++ bytesOn .kDT_Keyboard (beforeTimeout kTimeoutCounter ps) ∧
      Agrees .kDT_Keyboard used (queueLoop expected held queue ps) (settle expected held
        (queue ++ bytesOn .kDT_Keyboard (beforeTimeout kTimeoutCounter ps))) := by
  induction queue generalizing held with
  | nil =>
    obtain ⟨used, hps, hrest, ha, hq⟩ :=
      pollLoop_spec .kDT_Keyboard expected [] ps kTimeoutCounter held
    exact ⟨[], used, hq.symm, hps, by simpa using hrest, ha⟩
  | cons b queue ih =>
    simp only [queueLoop, List.cons_append, settle]
    cases hstep : takeRequested expected held b with
    | more held' =>
      obtain ⟨usedQ, used, hqueue, hps, hrest, ha⟩ := ih held'
      exact ⟨b :: usedQ, used, congrArg (b :: ·) hqueue, hps, congrArg (b :: ·) hrest, ha⟩
    | done out r =>
      exact ⟨[b], [], rfl, rfl, rfl, rfl, streamOf_tagged _ _, streamOf_other_tagged _ _⟩

/-- The read against the requested stream alone: it returns and dispatches what
that stream settles to, takes the bytes settled, and hands on every byte of the
other stream that it takes. -/
theorem readLoop_spec (d : PS2DeviceType) (expected : Option UInt8) (p : Ports) :
    (readLoop d expected p).byte = (settle expected [] (arriving d p)).result ∧
    streamOf d (readLoop d expected p).dispatched = (settle expected [] (arriving d p)).out ∧
    streamOf d (takenOff p (readLoop d expected p).ports) ++
      (settle expected [] (arriving d p)).rest = arriving d p ∧
    streamOf d.other (readLoop d expected p).dispatched =
      streamOf d.other (takenOff p (readLoop d expected p).ports) := by
  cases d with
  | kDT_Keyboard =>
    obtain ⟨usedQ, used, hq, hps, hrest, ⟨hb, ho, hx⟩⟩ :=
      queueLoop_spec expected p.polls p.keyboardQueue []
    have htaken : takenOff p (readLoop .kDT_Keyboard expected p).ports =
        usedQ.map (.kDT_Keyboard, ·) ++ used.filterMap Poll.arrival := takenOff_eq hq hps
    rw [htaken]
    refine ⟨hb, ho, ?_, ?_⟩
    · simpa [arriving, bytesOn] using hrest
    · simpa [readLoop, bytesOn] using hx
  | kDT_Mouse =>
    obtain ⟨used, hps, hrest, ⟨hb, ho, hx⟩, hq⟩ :=
      pollLoop_spec .kDT_Mouse expected p.keyboardQueue p.polls kTimeoutCounter []
    have htaken : takenOff p (readLoop .kDT_Mouse expected p).ports =
        ([] : List UInt8).map (.kDT_Keyboard, ·) ++ used.filterMap Poll.arrival := takenOff_eq hq.symm hps
    rw [htaken]
    have harr : arriving .kDT_Mouse p = bytesOn .kDT_Mouse (beforeTimeout kTimeoutCounter p.polls) := by
      simp [arriving]
    rw [harr]
    exact ⟨hb, ho, hrest, hx⟩

/-! Conservation of the bytes taken. -/

/-- No byte is lost or handed on twice: of the other stream every byte taken is
dispatched in order, of the requested stream every byte but the one returned (if
none was taken, the value returned stands for none). -/
def Conserves (d : PS2DeviceType) (before : Ports) (r : ReadResult) : Prop :=
  streamOf d.other r.dispatched = streamOf d.other (takenOff before r.ports) ∧
  ((streamOf d (takenOff before r.ports) = [] ∧ streamOf d r.dispatched = []) ∨
    ∃ pre post, streamOf d (takenOff before r.ports) = pre ++ r.byte :: post ∧
      streamOf d r.dispatched = pre ++ post)

/-- The bytes the requested stream settles on are kept. -/
def Settled.Keeps (s : Settled) (bytes : List UInt8) : Prop :=
  ∃ taken, taken ++ s.rest = bytes ∧
    ((taken = [] ∧ s.out = []) ∨ ∃ pre post, taken = pre ++ s.result :: post ∧ s.out = pre ++ post)

theorem conserves_iff_keeps (d : PS2DeviceType) (expected : Option UInt8) (p : Ports) :
    Conserves d p (readLoop d expected p) ↔
      (settle expected [] (arriving d p)).Keeps (arriving d p) := by
  obtain ⟨hb, ho, hrest, hx⟩ := readLoop_spec d expected p
  unfold Conserves Settled.Keeps
  rw [hb, ho]
  constructor
  · rintro ⟨_, h⟩
    exact ⟨_, hrest, h⟩
  · rintro ⟨taken, htaken, h⟩
    have heq := List.append_cancel_right (htaken.trans hrest.symm)
    exact ⟨hx, heq ▸ h⟩

/-- A split of `taken` around one byte leaves one byte less. -/
theorem Settled.Keeps.length {s : Settled} {bytes : List UInt8} (h : s.Keeps bytes) :
    (bytes.length = s.rest.length ∧ s.out = []) ∨ bytes.length = s.out.length + s.rest.length + 1 := by
  obtain ⟨taken, rfl, ⟨rfl, ho⟩ | ⟨pre, post, rfl, ho⟩⟩ := h
  · exact .inl ⟨by simp, ho⟩
  · right
    simp only [ho, List.length_append, List.length_cons]
    omega

theorem settle_mismatch (e : UInt8) (held : List UInt8) (b : UInt8) (bs : List UInt8)
    (hb : b ≠ e) (hheld : held.length < 3) :
    settle (some e) held (b :: bs) = settle (some e) (held ++ [b]) bs := by
  simp [settle, takeRequested, hb, hheld]

theorem settle_match (e : UInt8) (held bs : List UInt8) :
    settle (some e) held (e :: bs) = ⟨held, e, bs⟩ := by
  simp [settle, takeRequested]

theorem settle_fourth (e : UInt8) (held : List UInt8) (b : UInt8) (bs : List UInt8)
    (hb : b ≠ e) (hheld : 3 ≤ held.length) :
    settle (some e) held (b :: bs) = ⟨[b], held.headD 0, bs⟩ := by
  simp [settle, takeRequested, hb, Nat.not_lt.mpr hheld]

/-- With the expected byte among those still to come before the fourth, the held
bytes and the mismatches before it are all handed on. -/
theorem settle_keeps_of_mem (e : UInt8) (bs held : List UInt8) (h : e ∈ bs.take (4 - held.length)) :
    (settle (some e) held bs).Keeps (held ++ bs) := by
  induction bs generalizing held with
  | nil => simp at h
  | cons b bs ih =>
    by_cases hb : b = e
    · subst hb
      rw [settle_match]
      exact ⟨held ++ [b], by simp, .inr ⟨held, [], by simp⟩⟩
    · have hlen : held.length < 4 := by
        by_contra hge
        have : 4 - held.length = 0 := by omega
        simp [this] at h
      obtain ⟨n, hn⟩ : ∃ n, 4 - held.length = n + 1 := ⟨3 - held.length, by omega⟩
      rw [hn, List.take_succ_cons] at h
      have hmem : e ∈ bs.take n := (List.mem_cons.mp h).resolve_left (Ne.symm hb)
      have hheld : held.length < 3 := by
        by_contra hge
        have : n = 0 := by omega
        simp [this] at hmem
      rw [settle_mismatch e held b bs hb hheld]
      have hnext : e ∈ bs.take (4 - (held ++ [b]).length) := by
        rw [List.length_append, List.length_singleton, show 4 - (held.length + 1) = n by omega]
        exact hmem
      simpa using ih (held ++ [b]) hnext

/-- Two bytes taken before the time-out, or four mismatches: the second and the
third byte are neither returned nor handed on. -/
theorem settle_keeps_iff (e : UInt8) (bs : List UInt8) :
    (settle (some e) [] bs).Keeps bs ↔ e ∈ bs.take 4 ∨ bs.length ≤ 1 := by
  constructor
  · intro h
    have hlen := h.length
    by_contra hc
    simp only [not_or, Nat.not_le] at hc
    obtain ⟨hmem, hgt⟩ := hc
    -- without the expected byte fewer bytes come out than have been read
    match bs with
    | [a, b] =>
      simp only [List.take, List.mem_cons, not_or] at hmem
      rw [settle_mismatch e _ a _ (Ne.symm hmem.1) (by simp),
        settle_mismatch e _ b _ (Ne.symm hmem.2.1) (by simp)] at hlen
      simp [settle] at hlen
    | [a, b, c] =>
      simp only [List.take, List.mem_cons, not_or] at hmem
      rw [settle_mismatch e _ a _ (Ne.symm hmem.1) (by simp),
        settle_mismatch e _ b _ (Ne.symm hmem.2.1) (by simp),
        settle_mismatch e _ c _ (Ne.symm hmem.2.2.1) (by simp)] at hlen
      simp [settle] at hlen
    | a :: b :: c :: x :: rest =>
      simp only [List.take, List.mem_cons, not_or] at hmem
      rw [settle_mismatch e _ a _ (Ne.symm hmem.1) (by simp),
        settle_mismatch e _ b _ (Ne.symm hmem.2.1) (by simp),
        settle_mismatch e _ c _ (Ne.symm hmem.2.2.1) (by simp),
        settle_fourth e _ x _ (Ne.symm hmem.2.2.2.1) (by simp)] at hlen
      simp at hlen
      omega
  · rintro (hmem | hshort)
    · simpa using settle_keeps_of_mem e bs [] (by simpa using hmem)
    · match bs with
      | [] => exact ⟨[], rfl, .inl ⟨rfl, rfl⟩⟩
      | [a] =>
        by_cases ha : a = e
        · rw [ha, settle_match]
          exact ⟨[e], rfl, .inr ⟨[], [], rfl, rfl⟩⟩
        · rw [settle_mismatch e _ a _ ha (by simp)]
          exact ⟨[a], rfl, .inr ⟨[], [], rfl, rfl⟩⟩

/-- The out-of-order read keeps every byte exactly when the expected byte is one
of the first four of its stream that arrive in time, or at most one arrives. -/
theorem readDataPortExpecting_conserves_iff (d : PS2DeviceType) (e : UInt8) (p : Ports) :
    Conserves d p (readDataPortExpecting d e p) ↔
      e ∈ (arriving d p).take 4 ∨ (arriving d p).length ≤ 1 :=
  (conserves_iff_keeps d (some e) p).trans (settle_keeps_iff e (arriving d p))

/-- A mouse acknowledge awaited while two packet bytes arrive and nothing else. -/
def lostByte : Ports := ⟨[.byte .kDT_Mouse 0x08, .byte .kDT_Mouse 0x05], []⟩

/-- The first byte is returned, the second is gone. -/
theorem readDataPortExpecting_loses :
    readDataPortExpecting .kDT_Mouse kSC_Acknowledge lostByte = ⟨0x08, ⟨[], []⟩, []⟩ ∧
      ¬ Conserves .kDT_Mouse lostByte (readDataPortExpecting .kDT_Mouse kSC_Acknowledge lostByte) := by
  refine ⟨by decide, ?_⟩
  rintro ⟨_, ⟨h, _⟩ | ⟨pre, post, h, h'⟩⟩
  · revert h; decide
  · have hl := congrArg List.length h
    have hl' := congrArg List.length h'
    simp only [List.length_append, List.length_cons] at hl hl'
    have h2 : (streamOf .kDT_Mouse (takenOff lostByte
      (readDataPortExpecting .kDT_Mouse kSC_Acknowledge lostByte).ports)).length = 2 := by decide
    have h0 : (streamOf .kDT_Mouse
      (readDataPortExpecting .kDT_Mouse kSC_Acknowledge lostByte).dispatched).length = 0 := by decide
    omega

end ApplePS2
