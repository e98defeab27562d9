import ApplePS2.Gate.Machine

/- What one step of `processRequest` can be, with the state it starts from and the one it
   leads to: `Activation.run_cases` is the inversion lemma for everything that is about an
   activation's own variables, the port and the internal queue at once. -/
namespace ApplePS2

namespace Activation

/-- Where the read in `r` finds a byte of its own stream, and what is left there: in the
internal queue before it is locked, in the port behind. -/
inductive Finds (r : Reading) (b : UInt8) (s : Gate) : Gate → Prop where
  | queued (queue : List UInt8) (hunlocked : r.locked = false) (hdevice : r.deviceType = .kDT_Keyboard)
      (hqueue : s.keyboardQueue = b :: queue) : Finds r b s { s with keyboardQueue := queue }
  | polled (port : List Dispatch) (hlocked : r.locked = true) (hport : s.port = (r.deviceType, b) :: port) :
      Finds r b s { s with port := port }

/-- The steps of an activation; `s` is the gate without it. -/
inductive Ran (mux : MuxMode) (a : Activation) (s : Gate) : Gate → Prop where
  /-- All commands are processed. -/
  | ends (hphase : a.phase = .command) (hnone : a.submitted.request.active[a.index]? = none) :
      Ran mux a s (s.finishRequest a.submitted a.submitted.request.commandsCount)
  /-- A command without a read. -/
  | writes (c : PS2Command) (hphase : a.phase = .command) (hnext : a.submitted.request.active[a.index]? = some c) :
      Ran mux a s ((s.record ((commandPlan mux a.mode c).writes.map (.access a.submitted.ticket))).resume
        { a with mode := (commandPlan mux a.mode c).mode, processed := a.processed ++ [c] })
  /-- A command with one. -/
  | reads (c : PS2Command) (d : PS2DeviceType) (e : Option UInt8) (hphase : a.phase = .command)
      (hnext : a.submitted.request.active[a.index]? = some c) :
      Ran mux a s ((s.record ((commandPlan mux a.mode c).writes.map (.access a.submitted.ticket))).resume
        { a with mode := (commandPlan mux a.mode c).mode, phase := .reading c ⟨d, e, [], kTimeoutCounter, false⟩ })
  | holds (c : PS2Command) (r : Reading) (b : UInt8) (held : List UInt8) (s' : Gate) (hphase : a.phase = .reading c r)
      (hfinds : Finds r b s s') (htake : takeRequested r.expected r.held b = .more held) :
      Ran mux a s (s'.resume { a with phase := .reading c { r with held := held, locked := false } })
  | settles (c : PS2Command) (r : Reading) (b : UInt8) (out : List UInt8) (v : UInt8) (s' : Gate)
      (hphase : a.phase = .reading c r) (hfinds : Finds r b s s') (htake : takeRequested r.expected r.held b = .done out v) :
      Ran mux a s (s'.resume { a with phase := .returning c r.deviceType r.expected out v })
  /-- A byte of the other stream. -/
  | passesOn (c : PS2Command) (r : Reading) (b : UInt8) (port : List Dispatch) (hphase : a.phase = .reading c r)
      (hlocked : r.locked = true) (hport : s.port = (r.deviceType.other, b) :: port) :
      Ran mux a s (({ s with port := port }.resume { a with phase := .reading c { r with locked := false } }
        ).dispatchDriverInterrupt (r.deviceType.other, b))
  | locks (c : PS2Command) (r : Reading) (hphase : a.phase = .reading c r) (hunlocked : r.locked = false) :
      Ran mux a s (s.resume { a with phase := .reading c { r with locked := true } })
  | polls (c : PS2Command) (r : Reading) (hphase : a.phase = .reading c r) (hlocked : r.locked = true)
      (htime : 1 < r.timeoutCounter) :
      Ran mux a s (s.resume { a with phase := .reading c { r with timeoutCounter := r.timeoutCounter - 1 } })
  | timesOut (c : PS2Command) (r : Reading) (hphase : a.phase = .reading c r) (hlocked : r.locked = true)
      (hempty : s.port = []) (htime : r.timeoutCounter ≤ 1) :
      Ran mux a s (s.resume { a with phase := .returning c r.deviceType r.expected [] (timedOut r.held) })
  | handsOn (c : PS2Command) (d : PS2DeviceType) (e : Option UInt8) (b : UInt8) (out : List UInt8) (v : UInt8)
      (hphase : a.phase = .returning c d e (b :: out) v) :
      Ran mux a s ((s.resume { a with phase := .returning c d e out v }).dispatchDriverInterrupt (d, b))
  /-- The byte is stored, or it is the expected one. -/
  | returns (c c' : PS2Command) (d : PS2DeviceType) (e : Option UInt8) (v : UInt8)
      (hphase : a.phase = .returning c d e [] v) :
      Ran mux a s ((s.record [.access a.submitted.ticket (.readDataPort d v)]).resume
        { a with processed := a.processed ++ [c'], phase := .command })
  /-- It is not the expected one. -/
  | fails (c : PS2Command) (d : PS2DeviceType) (e : Option UInt8) (v : UInt8)
      (hphase : a.phase = .returning c d e [] v) :
      Ran mux a s ((s.record [.access a.submitted.ticket (.readDataPort d v)]).finishRequest a.submitted a.index)

variable {mux : MuxMode} {a : Activation} {s : Gate}

theorem ran_nextCommand (hphase : a.phase = .command) : Ran mux a s (a.nextCommand mux s) := by
  unfold nextCommand
  split
  · next hnone => exact .ends hphase hnone
  · next c hnext =>
    dsimp only
    split
    · exact .writes c hphase hnext
    · next d _ => exact .reads c d none hphase hnext
    · next d e _ => exact .reads c d (some e) hphase hnext

theorem ran_take {c : PS2Command} {r : Reading} {b : UInt8} {s' : Gate} (hphase : a.phase = .reading c r)
    (hfinds : Finds r b s s') : Ran mux a s (a.take c r b s') := by
  unfold take
  split
  · next held htake => exact .holds c r b held s' hphase hfinds htake
  · next out v htake => exact .settles c r b out v s' hphase hfinds htake

theorem ran_read {c : PS2Command} {r : Reading} (hphase : a.phase = .reading c r) : Ran mux a s (a.read c r s) := by
  unfold read
  split
  · next hlocked =>
    split
    · next hempty =>
      split
      · next htime => exact .timesOut c r hphase hlocked hempty htime
      · next htime => exact .polls c r hphase hlocked (Nat.not_le.1 htime)
    · next stream b port hport =>
      dsimp only
      split
      · next hown => exact ran_take hphase (.polled port hlocked (hown ▸ hport))
      · next hother =>
        have hstream : stream = r.deviceType.other := PS2DeviceType.eq_other_of_ne hother
        exact .passesOn c r b port hphase hlocked (hstream ▸ hport)
  · next hlocked =>
    have hunlocked : r.locked = false := Bool.eq_false_iff.2 hlocked
    split
    · next b queue hdevice hqueue => exact ran_take hphase (.queued queue hunlocked hdevice hqueue)
    · exact .locks c r hphase hunlocked

theorem ran_returnByte {c : PS2Command} {d : PS2DeviceType} {e : Option UInt8} {v : UInt8}
    (hphase : a.phase = .returning c d e [] v) : Ran mux a s (a.returnByte c d e v s) := by
  unfold returnByte
  dsimp only
  split
  · exact .returns c _ d none v hphase
  · split
    · exact .returns c c d _ v hphase
    · exact .fails c d _ v hphase

theorem run_cases : Ran mux a s (a.run mux s) := by
  unfold run
  split
  · next hphase => exact ran_nextCommand hphase
  · next c r hphase => exact ran_read hphase
  · next c d e b out v hphase => exact .handsOn c d e b out v hphase
  · next c d e v hphase => exact ran_returnByte hphase

end Activation

end ApplePS2
