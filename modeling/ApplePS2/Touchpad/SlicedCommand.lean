import Mathlib.Algebra.Group.Nat.Defs
import ApplePS2.Controller.MouseCommand
import ApplePS2.Touchpad.Requests

/- Sliced commands on their way to the touchpad: `sendSlicedPS2Cmd`, `getMouseInformation`
   and `sendSynapticsCmd` (`PS2Interface.cpp`) as requests that the controller processes,
   down to the bytes it routes to the mouse's port.

   1. `sendSlicedPS2Cmd_client`, `sendSlicedPS2Cmd_touchpad`: the same functions where requests
      are owned (`Requests`) and where a reconnection uses them (`Reconnect`).
   2. `spoken_sent`, `spoken_listens`: what a request of mouse commands and reads sends, and
      which stream it reads.
   3. `queries_decoded`: the bytes of a sequence of queries, read as the comment on
      `sendSlicedPS2Cmd` encodes them, are the queries that were answered, and at most the
      one that failed after them. -/
namespace ApplePS2

namespace Touchpad.Wire

/-- The bytes that are routed to the mouse. -/
def mouseBytes (mux : MuxMode) : List PortAccess → List UInt8
  | .writeCommandPort b :: .writeDataPort c :: as =>
    if b = mux.mousePrefix then c :: mouseBytes mux as else mouseBytes mux as
  | _ :: as => mouseBytes mux as
  | [] => []

/-- What a function does with the controller: the accesses of its requests, in order. -/
structure Talk (α : Type) where
  result : α
  accesses : List PortAccess

/-- The controller processes a request of the touchpad driver. -/
def submitRequestAndBlock (mux : MuxMode) (hardwareOffline : Bool) (r : PS2Request) (p : Ports) : Talk PS2Request :=
  let o := processRequest mux hardwareOffline { r with completionTarget := true, completionAction := true } p
  ⟨o.request, o.executed.flatten⟩

section Functions

variable (mux : MuxMode) (hardwareOffline : Bool)

def sendSlicedPS2Cmd (cmd : UInt8) (p : Ports) : Talk Bool :=
  let t := submitRequestAndBlock mux hardwareOffline (Client.slicedRequest cmd) p
  ⟨t.result.commandsCount = 9, t.accesses⟩

def getMouseInformation (p : Ports) : Talk (Option (List UInt8)) :=
  let t := submitRequestAndBlock mux hardwareOffline Client.informationRequest p
  let r := t.result
  ⟨if r.commandsCount = 4 then some [r.inOrOut 1, r.inOrOut 2, r.inOrOut 3] else none, t.accesses⟩

/-- The answer, and none if either part fails. -/
def sendSynapticsCmd (cmd : UInt8) (p p' : Ports) : Talk (Option (List UInt8)) :=
  let t := sendSlicedPS2Cmd mux hardwareOffline cmd p
  if t.result then
    let t' := getMouseInformation mux hardwareOffline p'
    ⟨t'.result, t.accesses ++ t'.accesses⟩
  else ⟨none, t.accesses⟩

/-- A query, and what the ports show while its two requests are processed. -/
structure Query where
  cmd : UInt8
  sliced : Ports
  information : Ports

/-- Queries as long as they are answered. -/
def sendQueries : List Query → Talk (List (List UInt8))
  | [] => ⟨[], []⟩
  | q :: qs =>
    let t := sendSynapticsCmd mux hardwareOffline q.cmd q.sliced q.information
    match t.result with
    | none => ⟨[], t.accesses⟩
    | some answer =>
      let t' := sendQueries qs
      ⟨answer :: t'.result, t.accesses ++ t'.accesses⟩

end Functions

/-! The same functions over the requests that the drivers own, and over the driver's state. -/

section Levels

variable (mux : MuxMode) (hardwareOffline : Bool) (p : Ports)

/-- What the controller does with a request, whichever it is. -/
def processing : Processing := fun _ r => (processRequest mux hardwareOffline r p).request

/-- The answer to a request is what becomes of it. -/
def answerTo (process : Processing) (n : Nat) (r : PS2Request) : Answer :=
  let r := process n { r with completionTarget := true, completionAction := true }
  ⟨r.commandsCount, r.inOrOut⟩

theorem sendSlicedPS2Cmd_client (cmd : UInt8) (c : Client) :
    (sendSlicedPS2Cmd mux hardwareOffline cmd p).result =
      (c.sendSlicedPS2Cmd (processing mux hardwareOffline p) cmd).1 := rfl

theorem getMouseInformation_client (c : Client) : (getMouseInformation mux hardwareOffline p).result =
    if (c.getMouseInformation (processing mux hardwareOffline p)).1 then
      some (c.getMouseInformation (processing mux hardwareOffline p)).2.1 else none := by
  simp only [getMouseInformation, Client.getMouseInformation, decide_eq_true_eq]
  rfl

variable {process : Processing} {w : TouchpadWorld} {c : Client} {s : Touchpad}

theorem sendSlicedPS2Cmd_touchpad (cmd : UInt8)
    (h : w.answer s.log.length = answerTo process c.submitted (Client.slicedRequest cmd)) :
    (c.sendSlicedPS2Cmd process cmd).1 = (s.sendSlicedPS2Cmd w cmd).1 := by
  show _ = decide ((w.answer s.log.length).commandsCount = 9)
  rw [h]
  rfl

theorem getMouseInformation_touchpad (param : List UInt8)
    (h : w.answer s.log.length = answerTo process c.submitted Client.informationRequest) :
    (s.getMouseInformation w param).1 = (c.getMouseInformation process).1 ∧
      (s.getMouseInformation w param).2.1 =
        if (c.getMouseInformation process).1 then (c.getMouseInformation process).2.1 else param := by
  have hasked : (s.getMouseInformation w param).1 = decide ((w.answer s.log.length).commandsCount = 4) := rfl
  have hread : (s.getMouseInformation w param).2.1 = if (w.answer s.log.length).commandsCount = 4 then
      [(w.answer s.log.length).inOrOut 1, (w.answer s.log.length).inOrOut 2, (w.answer s.log.length).inOrOut 3] else
      param := by
    simp [Touchpad.getMouseInformation, request, Touchpad.submitRequestAndBlock, informationCommands, mouseCommands]
  rw [hasked, hread, h]
  simp only [Client.getMouseInformation, decide_eq_true_eq]
  exact ⟨rfl, rfl⟩

end Levels

/-! The encoding. -/

/-- `(rr*64)+(ss*16)+(tt*4)+uu`, and the request for the answer. -/
def decodeQueries : List UInt8 → List UInt8
  | e6 :: e8 :: rr :: f8 :: ss :: g8 :: tt :: h8 :: uu :: e9 :: rest =>
    if [e6, e8, f8, g8, h8, e9] = [kDP_SetMouseScaling1To1, kDP_SetMouseResolution, kDP_SetMouseResolution,
        kDP_SetMouseResolution, kDP_SetMouseResolution, kDP_GetMouseInformation] then
      (rr * 64 + ss * 16 + tt * 4 + uu) :: decodeQueries rest
    else decodeQueries rest
  | _ => []

/-- Two bits of a command. -/
def slice (cmd i : UInt8) : UInt8 := (cmd >>> i) &&& 3

/-- The bytes of a query. -/
def queryBytes (cmd : UInt8) : List UInt8 := slicedBytes cmd ++ [kDP_GetMouseInformation]

theorem slice_toNat (cmd : UInt8) {i : UInt8} (hi : i.toNat < 8) :
    (slice cmd i).toNat = cmd.toNat / 2 ^ i.toNat % 4 := by
  rw [slice, UInt8.toNat_and, UInt8.toNat_shiftRight, Nat.mod_eq_of_lt hi, Nat.shiftRight_eq_div_pow]
  exact Nat.and_two_pow_sub_one_eq_mod _ 2

/-- The four slices make up the command. -/
theorem slices (cmd : UInt8) : slice cmd 6 * 64 + slice cmd 4 * 16 + slice cmd 2 * 4 + slice cmd 0 = cmd := by
  have hcmd := cmd.toNat_lt
  have h₆ : (slice cmd 6).toNat = cmd.toNat / 64 % 4 := slice_toNat cmd (by decide)
  have h₄ : (slice cmd 4).toNat = cmd.toNat / 16 % 4 := slice_toNat cmd (by decide)
  have h₂ : (slice cmd 2).toNat = cmd.toNat / 4 % 4 := slice_toNat cmd (by decide)
  have h₀ : (slice cmd 0).toNat = cmd.toNat / 1 % 4 := slice_toNat cmd (by decide)
  apply UInt8.toNat_inj.1
  simp only [UInt8.toNat_add, UInt8.toNat_mul, UInt8.reduceToNat]
  omega

theorem decodeQueries_cons (cmd : UInt8) (rest : List UInt8) :
    decodeQueries (queryBytes cmd ++ rest) = cmd :: decodeQueries rest := by
  have hcons : decodeQueries (queryBytes cmd ++ rest) =
    (slice cmd 6 * 64 + slice cmd 4 * 16 + slice cmd 2 * 4 + slice cmd 0) :: decodeQueries rest := rfl
  rw [hcons, slices]

/-- A query that is cut off is none. -/
theorem decodeQueries_short {bytes : List UInt8} (h : bytes.length < 10) : decodeQueries bytes = [] := by
  unfold decodeQueries
  split
  · simp only [List.length_cons] at h
    omega
  · rfl

/-! What is sent for requests of mouse commands and reads. -/

/-- A composite mouse command, or a read of the stream that was spoken to. -/
def Spoken (c : PS2Command) : Prop :=
  c.command = .kPS2C_SendMouseCommandAndCompareAck ∨ c.command = .kPS2C_ReadDataPort

/-- The byte that a command sends to the mouse. -/
def mouseByte (c : PS2Command) : Option UInt8 :=
  if c.command = .kPS2C_SendMouseCommandAndCompareAck then some c.inOrOut else none

theorem mouseBytes_command (mux : MuxMode) {c : PS2Command} (h : Spoken c) (m : Mode) (answer : UInt8)
    (as : List PortAccess) :
    mouseBytes mux (commandAccesses mux m c answer ++ as) = (mouseByte c).toList ++ mouseBytes mux as := by
  obtain ⟨k, b⟩ := c
  rcases h with h | h
  · obtain rfl : k = .kPS2C_SendMouseCommandAndCompareAck := h
    show mouseBytes mux (.writeCommandPort mux.mousePrefix :: .writeDataPort b :: .readDataPort .kDT_Mouse answer :: as) = _
    rw [mouseBytes, if_pos rfl]
    rfl
  · obtain rfl : k = .kPS2C_ReadDataPort := h
    rfl

theorem filterMap_head (c : PS2Command) (cs : List PS2Command) :
    (c :: cs).filterMap mouseByte = (mouseByte c).toList ++ cs.filterMap mouseByte := by
  cases h : mouseByte c with
  | none => rw [List.filterMap_cons_none h]; rfl
  | some b => rw [List.filterMap_cons_some h]; rfl

/-- The loop sends the bytes of the commands that are executed. -/
theorem spoken_sent (mux : MuxMode) {cs : List PS2Command} (h : ∀ c ∈ cs, Spoken c) (m : Mode) (p : Ports)
    (as : List PortAccess) :
    mouseBytes mux ((runCommands mux m cs p).executed.flatten ++ as) =
      (cs.take (runCommands mux m cs p).executed.length).filterMap mouseByte ++ mouseBytes mux as := by
  induction cs generalizing m p with
  | nil => rfl
  | cons c cs ih =>
    have haccesses := (perform_spec mux m c p).accesses
    have hfirst := mouseBytes_command mux (h c List.mem_cons_self) m ((commandPlan mux m c).read.result p).byte
    have hrest := ih fun c' hc' => h c' (List.mem_cons_of_mem c hc')
    simp only [runCommands]
    split
    · show mouseBytes mux ((((commandPlan mux m c).perform c p).accesses ++ []) ++ as) = [c].filterMap mouseByte ++ _
      rw [List.append_nil, haccesses, hfirst, filterMap_head, List.filterMap_nil, List.append_nil]
    · show mouseBytes mux ((((commandPlan mux m c).perform c p).accesses ++ _) ++ as) =
        (c :: List.take _ cs).filterMap mouseByte ++ _
      rw [List.append_assoc, haccesses, hfirst, filterMap_head, hrest, List.append_assoc]

/-- A read of the mouse's stream, or a write. -/
def Listens (a : PortAccess) : Prop := a.readStream ≠ some .kDT_Keyboard

theorem command_listens (mux : MuxMode) {m : Mode} {c : PS2Command} (h : Spoken c)
    (hm : c.command = .kPS2C_ReadDataPort → m.deviceMode = .kDT_Mouse) (answer : UInt8) :
    (commandPlan mux m c).mode.deviceMode = .kDT_Mouse ∧ ∀ a ∈ commandAccesses mux m c answer, Listens a := by
  obtain ⟨k, b⟩ := c
  rcases h with h | h
  · obtain rfl : k = .kPS2C_SendMouseCommandAndCompareAck := h
    refine ⟨rfl, fun a ha => ?_⟩
    have hthree : a ∈ [PortAccess.writeCommandPort mux.mousePrefix, .writeDataPort b, .readDataPort .kDT_Mouse answer] := ha
    simp only [List.mem_cons, List.not_mem_nil, or_false] at hthree
    rcases hthree with rfl | rfl | rfl <;> exact nofun
  · obtain rfl : k = .kPS2C_ReadDataPort := h
    refine ⟨hm rfl, fun a ha => ?_⟩
    have hone : a ∈ [PortAccess.readDataPort m.deviceMode answer] := ha
    rw [List.mem_singleton] at hone
    rw [hone, hm rfl]
    exact nofun

/-- Once the mouse has been spoken to, only its stream is read. -/
theorem spoken_listens (mux : MuxMode) {cs : List PS2Command} (h : ∀ c ∈ cs, Spoken c) {m : Mode}
    (hm : ∀ c ∈ cs.head?, c.command = .kPS2C_ReadDataPort → m.deviceMode = .kDT_Mouse) (p : Ports) :
    ∀ a ∈ (runCommands mux m cs p).executed.flatten, Listens a := by
  induction cs generalizing m p with
  | nil => exact fun a ha => absurd ha List.not_mem_nil
  | cons c cs ih =>
    have haccesses := (perform_spec mux m c p).accesses
    obtain ⟨hmode, hfirst⟩ := command_listens mux (h c List.mem_cons_self) (hm c rfl)
      ((commandPlan mux m c).read.result p).byte
    have hrest := ih (fun c' hc' => h c' (List.mem_cons_of_mem c hc')) fun _ _ _ => hmode
    rw [← haccesses] at hfirst
    simp only [runCommands]
    split
    · intro a ha
      rw [List.flatten_singleton] at ha
      exact hfirst a ha
    · intro a ha
      rcases List.mem_append.1 ha with ha | ha
      · exact hfirst a ha
      · exact hrest _ a ha

section Requests

variable (mux : MuxMode) (hardwareOffline : Bool)

/-- A request of the touchpad driver sends the bytes of its first commands, and of all of them if it succeeds. -/
theorem submit_sent (r : PS2Request) (h : ∀ c ∈ r.active, Spoken c) (hpos : 0 < r.commandsCount) (p : Ports) :
    ∃ n, (∀ as, mouseBytes mux ((submitRequestAndBlock mux hardwareOffline r p).accesses ++ as) =
        (r.active.take n).filterMap mouseByte ++ mouseBytes mux as) ∧
      ((submitRequestAndBlock mux hardwareOffline r p).result.commandsCount = r.commandsCount → n = r.commandsCount) := by
  cases hardwareOffline with
  | true =>
    refine ⟨0, fun _ => rfl, fun hcount => ?_⟩
    have hzero : 0 = r.commandsCount := hcount
    exact absurd hzero (Nat.ne_of_lt hpos)
  | false =>
    refine ⟨_, spoken_sent mux h .initial p, fun hcount => ?_⟩
    have hcounted : (runCommands mux .initial r.active p).failedAt.getD r.commandsCount = r.commandsCount := hcount
    have hrun := runCommands_contract mux r.active .initial p
    cases hfailed : (runCommands mux .initial r.active p).failedAt with
    | none => rw [(hrun.passed hfailed).2, r.active_length]
    | some k =>
      have hk := runCommands_failedAt_lt mux r.active .initial p k hfailed
      rw [r.active_length] at hk
      rw [hfailed, Option.getD_some] at hcounted
      omega

theorem submit_listens (r : PS2Request) (h : ∀ c ∈ r.active, Spoken c)
    (hfirst : ∀ c ∈ r.active.head?, c.command ≠ .kPS2C_ReadDataPort) (p : Ports) :
    ∀ a ∈ (submitRequestAndBlock mux hardwareOffline r p).accesses, Listens a := by
  cases hardwareOffline with
  | true => exact fun a ha => absurd ha List.not_mem_nil
  | false => exact spoken_listens mux h (fun c hc hread => absurd hread (hfirst c hc)) p

end Requests

/-! Queries. -/

section Queries

variable (mux : MuxMode) (hardwareOffline : Bool)

theorem spoken_commands (bs : List UInt8) : ∀ c ∈ mouseCommands bs, Spoken c := by
  intro c hc
  obtain ⟨b, -, rfl⟩ := List.mem_map.1 hc
  exact .inl rfl

theorem sent_commands (bs : List UInt8) : (mouseCommands bs).filterMap mouseByte = bs := by
  induction bs with
  | nil => rfl
  | cons b bs ih =>
    rw [mouseCommands, List.map_cons, filterMap_head]
    exact congrArg (b :: ·) ih

theorem information_active : Client.informationRequest.active = informationCommands := rfl

theorem sendSlicedPS2Cmd_sent (cmd : UInt8) (p : Ports) : ∃ n ≤ 9,
    (∀ as, mouseBytes mux ((sendSlicedPS2Cmd mux hardwareOffline cmd p).accesses ++ as) =
      (queryBytes cmd).take n ++ mouseBytes mux as) ∧
    ((sendSlicedPS2Cmd mux hardwareOffline cmd p).result = true → n = 9) := by
  have hspoken : ∀ c ∈ (Client.slicedRequest cmd).active, Spoken c := spoken_commands (slicedBytes cmd)
  obtain ⟨n, hsent, hall⟩ := submit_sent mux hardwareOffline (Client.slicedRequest cmd) hspoken (by show 0 < 9; omega) p
  refine ⟨min n 9, Nat.min_le_right n 9, fun as => ?_, fun hdone => ?_⟩
  · calc mouseBytes mux ((sendSlicedPS2Cmd mux hardwareOffline cmd p).accesses ++ as)
        = ((mouseCommands (slicedBytes cmd)).take n).filterMap mouseByte ++ mouseBytes mux as := hsent as
      _ = (mouseCommands ((slicedBytes cmd).take n)).filterMap mouseByte ++ mouseBytes mux as := by
          rw [mouseCommands, ← List.map_take]
          rfl
      _ = (queryBytes cmd).take (min n 9) ++ mouseBytes mux as := by
          have hfirst : slicedBytes cmd = (queryBytes cmd).take 9 := rfl
          rw [sent_commands, hfirst, List.take_take]
  · have hcount : n = 9 := hall (of_decide_eq_true hdone)
    rw [hcount, Nat.min_self]

theorem spoken_information : ∀ c ∈ Client.informationRequest.active, Spoken c := by
  intro c hc
  rw [information_active] at hc
  rcases List.mem_append.1 hc with hc | hc
  · exact spoken_commands _ c hc
  · rw [List.eq_of_mem_replicate hc]
    exact .inr rfl

theorem sent_information (n : Nat) :
    (Client.informationRequest.active.take n).filterMap mouseByte = [kDP_GetMouseInformation].take n := by
  cases n with
  | zero => rfl
  | succ n =>
    have hreads : ((List.replicate 3 readDataPort).take n).filterMap mouseByte = [] := by
      rw [List.take_replicate]
      exact List.filterMap_replicate_of_none rfl
    rw [information_active]
    show (⟨.kPS2C_SendMouseCommandAndCompareAck, kDP_GetMouseInformation⟩ :: (List.replicate 3 readDataPort).take n).filterMap
      mouseByte = kDP_GetMouseInformation :: [].take n
    rw [filterMap_head, hreads, List.take_nil]
    rfl

theorem getMouseInformation_sent (p : Ports) : ∃ n ≤ 1,
    (∀ as, mouseBytes mux ((getMouseInformation mux hardwareOffline p).accesses ++ as) =
      [kDP_GetMouseInformation].take n ++ mouseBytes mux as) ∧
    ((getMouseInformation mux hardwareOffline p).result.isSome = true → n = 1) := by
  obtain ⟨n, hsent, hall⟩ :=
    submit_sent mux hardwareOffline Client.informationRequest spoken_information (by show 0 < 4; omega) p
  refine ⟨min n 1, Nat.min_le_right n 1, fun as => ?_, fun hdone => ?_⟩
  · calc mouseBytes mux ((getMouseInformation mux hardwareOffline p).accesses ++ as)
        = (Client.informationRequest.active.take n).filterMap mouseByte ++ mouseBytes mux as := hsent as
      _ = [kDP_GetMouseInformation].take (min n 1) ++ mouseBytes mux as := by
          rw [sent_information, List.take_eq_take_min]
          rfl
  · have hcount : n = 4 := by
      apply hall
      by_contra hne
      have hnone : (getMouseInformation mux hardwareOffline p).result = none := if_neg hne
      rw [hnone] at hdone
      cases hdone
    omega

/-- A query sends its bytes up to the first that fails, and all of them if it is answered. -/
theorem sendSynapticsCmd_sent (cmd : UInt8) (p p' : Ports) : ∃ n ≤ 10,
    (∀ as, mouseBytes mux ((sendSynapticsCmd mux hardwareOffline cmd p p').accesses ++ as) =
      (queryBytes cmd).take n ++ mouseBytes mux as) ∧
    ((sendSynapticsCmd mux hardwareOffline cmd p p').result.isSome = true → n = 10) := by
  obtain ⟨n, hn, hsliced, hall⟩ := sendSlicedPS2Cmd_sent mux hardwareOffline cmd p
  obtain ⟨k, hk, hinformation, hanswered⟩ := getMouseInformation_sent mux hardwareOffline p'
  unfold sendSynapticsCmd
  dsimp only
  split
  · next hdone =>
    obtain rfl : n = 9 := hall hdone
    refine ⟨9 + k, by omega, fun as => ?_, fun hsome => by rw [hanswered hsome]⟩
    have hbytes : (queryBytes cmd).take (9 + k) = (queryBytes cmd).take 9 ++ [kDP_GetMouseInformation].take k := by
      rw [List.take_add]
      rfl
    rw [List.append_assoc, hsliced, hinformation, hbytes, List.append_assoc]
  · refine ⟨n, by omega, hsliced, nofun⟩

theorem sendSynapticsCmd_listens (cmd : UInt8) (p p' : Ports) :
    ∀ a ∈ (sendSynapticsCmd mux hardwareOffline cmd p p').accesses, Listens a := by
  have hsliced := submit_listens mux hardwareOffline (Client.slicedRequest cmd) (spoken_commands (slicedBytes cmd))
    (fun c hc => by cases hc; exact nofun) p
  have hinformation := submit_listens mux hardwareOffline Client.informationRequest spoken_information
    (fun c hc => by cases hc; exact nofun) p'
  unfold sendSynapticsCmd
  dsimp only
  split
  · intro a ha
    rcases List.mem_append.1 ha with ha | ha
    · exact hsliced a ha
    · exact hinformation a ha
  · exact hsliced

/-- Fewer bytes than those of a query are none. -/
theorem decodeQueries_take (cmd : UInt8) {n : Nat} (h : n ≤ 10) :
    decodeQueries ((queryBytes cmd).take n) = [cmd].take (n / 10) := by
  rcases Nat.lt_or_eq_of_le h with h | rfl
  · have hlength : ((queryBytes cmd).take n).length < 10 := by
      rw [List.length_take]
      omega
    rw [decodeQueries_short hlength, Nat.div_eq_of_lt h, List.take_zero]
  · have hwhole := decodeQueries_cons cmd []
    rw [List.append_nil] at hwhole
    exact hwhole

/-- Over any sequence of queries that ends with the first that fails, whatever the ports show: what is sent to the mouse
decodes to the queries that are answered, and to at most that one more; and nothing is read of the keyboard's stream. -/
theorem queries_decoded (qs : List Query) :
    (∃ n, decodeQueries (mouseBytes mux (sendQueries mux hardwareOffline qs).accesses) = (qs.map Query.cmd).take n ∧
      (sendQueries mux hardwareOffline qs).result.length ≤ n ∧ n ≤ (sendQueries mux hardwareOffline qs).result.length + 1) ∧
    ∀ a ∈ (sendQueries mux hardwareOffline qs).accesses, Listens a := by
  induction qs with
  | nil => exact ⟨⟨0, rfl, Nat.le_refl 0, Nat.zero_le 1⟩, fun a ha => absurd ha List.not_mem_nil⟩
  | cons q qs ih =>
    obtain ⟨n, hn, hsent, hanswered⟩ := sendSynapticsCmd_sent mux hardwareOffline q.cmd q.sliced q.information
    have hlistens := sendSynapticsCmd_listens mux hardwareOffline q.cmd q.sliced q.information
    obtain ⟨⟨k, hdecoded, hlow, hhigh⟩, hrest⟩ := ih
    unfold sendQueries
    dsimp only
    split
    · have hbytes := hsent []
      rw [List.append_nil, mouseBytes, List.append_nil] at hbytes
      have hone : n / 10 ≤ 1 := by omega
      refine ⟨⟨n / 10, ?_, Nat.zero_le _, hone⟩, hlistens⟩
      rw [hbytes, decodeQueries_take q.cmd hn, List.map_cons]
      rcases Nat.le_one_iff_eq_zero_or_eq_one.1 hone with hcount | hcount <;> rw [hcount] <;> rfl
    · next answer hsome =>
      obtain rfl : n = 10 := hanswered (by rw [hsome]; rfl)
      refine ⟨⟨k + 1, ?_, Nat.succ_le_succ hlow, Nat.succ_le_succ hhigh⟩, fun a ha => ?_⟩
      · have hwhole : (queryBytes q.cmd).take 10 = queryBytes q.cmd := rfl
        rw [hsent, hwhole, decodeQueries_cons, hdecoded]
        rfl
      · rcases List.mem_append.1 ha with ha | ha
        · exact hlistens a ha
        · exact hrest a ha

end Queries

end Touchpad.Wire

end ApplePS2
