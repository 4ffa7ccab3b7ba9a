import SmartBusAccess.Uart.BleModule
import SmartBusAccess.Uart.Mailbox
import SmartBusAccess.Uart.SlopeLink

/-!
The Bluetooth module and the driver ECU over two lossy first-in first-out lines.

Both ends read whole frames: a turn of the module's loop and a poll of the driver ECU say
how many of the oldest ones have arrived. The driver ECU takes the mailbox after each poll,
as its main loop does. `turns` is the history of what the module's loop was given.

* `Tracked.step`: the system is a run of `Link`;
* `handed_requests_have_sightings`: what the driver ECU is handed was sent by the module, in
  order and once each, and each request among it has a phone behind it.
-/

namespace SmartBusAccess.Uart

open Runs

/-! ### The system -/

structure BleSystem where
  scanner : BleModule
  driver : BleUartTc375
  data : List InFlight
  acks : List InFlight
  started : List UInt8
  delivered : List (ℕ × UInt8)
  handed : List UInt8
  turns : List BleModule.LoopInput
deriving DecidableEq, Repr

inductive BleAction where
  | turn (arrived : ℕ) (retryMs : UInt32) (scan : List (BLEAdvertisedDevice × UInt32))
      (nowMs startMs : UInt32)
  | poll (arrived : ℕ)
  | loseData (i : ℕ)
  | loseAck (i : ℕ)
deriving DecidableEq, Repr

namespace BleSystem

/-- Both ends just initialised, the lines empty. -/
def fresh : BleSystem :=
  ⟨BleModule.boot.setup, bleUartTc375Init, [], [], [], [], [], []⟩

/-- What the retry part of a turn writes to the line. -/
def resent (s : BleSystem) : SenderPollResult → List InFlight
  | .resend frame => [⟨s.started.length - 1, frame⟩]
  | _ => []

/-- A turn of `loop` in `BLE.ino`, with the frames it writes. -/
def turn (s : BleSystem) (i : BleModule.LoopInput) : BleSystem :=
  let (scanner, report) := BleModule.loop kReceiveFilterMode s.scanner i
  { s with
    scanner := scanner
    data := s.data ++ s.resent report.retry ++
      report.started.toList.map fun frame => ⟨s.started.length, frame⟩
    started := s.started ++ (report.started.map UartFrame.cmd).toList
    turns := s.turns ++ [i] }

/-- What came of each frame that was read. -/
def answered (frames : List InFlight) (results : List RxResult) : List InFlight :=
  (frames.zip results).flatMap fun p => (p.2.sendAck.map fun ack => ⟨p.1.start, ack⟩).toList

def accepted (frames : List InFlight) (results : List RxResult) : List (ℕ × UInt8) :=
  (frames.zip results).flatMap fun p => (p.2.deliver.map fun cmd => (p.1.start, cmd)).toList

/-- `bleUartTc375Poll`, then the mailbox. -/
def poll (s : BleSystem) (arrived : ℕ) : BleSystem :=
  let frames := s.data.take arrived
  let (driver, round) := bleUartTc375Round s.driver (rxBytes frames)
  { s with
    driver := driver
    data := s.data.drop arrived
    acks := s.acks ++ answered frames round.results
    delivered := s.delivered ++ accepted frames round.results
    handed := s.handed ++ round.handed }

def step (s : BleSystem) : BleAction → BleSystem
  | .turn arrived retryMs scan nowMs startMs =>
      { s with acks := s.acks.drop arrived }.turn
        ⟨rxBytes (s.acks.take arrived), retryMs, scan, nowMs, startMs⟩
  | .poll arrived => s.poll arrived
  | .loseData i => { s with data := s.data.eraseIdx i }
  | .loseAck i => { s with acks := s.acks.eraseIdx i }

abbrev run : BleSystem → List BleAction → BleSystem := Runs.run step

end BleSystem

/-! ### Whole frames at the two ends -/

/-- The acknowledgements on a line. -/
def AckFrames (acks : List InFlight) : Prop := ∀ m ∈ acks, m.frame = encodeAck (label m.start)

/-- The commands on a line. -/
def DataFrames (data : List InFlight) : Prop :=
  ∀ m ∈ data, ∃ cmd, bleUartCmdIsValid cmd = true ∧ m.frame = encodeData (label m.start) cmd

theorem rxBytes_cons (m : InFlight) (rest : List InFlight) :
    rxBytes (m :: rest) = m.frame.bytes.toList ++ rxBytes rest := rfl

namespace BleModule

variable {m : BleModule}

/-- Six bytes of an ACK do what `SenderOnFrame` does with the frame. -/
theorem uartProcessRx_ackFrame (rest : m.uartRxParser.state = .waitSof0) (seq : UInt8)
    (later : List UInt8) : ∃ parser, parser.state = .waitSof0 ∧
      (m.uartProcessRx ((encodeAck seq).bytes.toList ++ later)).1 =
        ({ m with
          uartRxParser := parser
          sender := (senderOnFrame m.sender ⟨typeAck, seq, 0x00⟩).getD m.sender }.uartProcessRx
            later).1 := by
  cases accepted : senderOnFrame m.sender ⟨typeAck, seq, 0x00⟩ with
  | none =>
      refine ⟨⟨.waitSof0, typeAck, seq, 0x00⟩, rfl, ?_⟩
      simp [uartProcessRx, uartProcessRxByte, encodeAck, parserFeed, rest, accepted]
  | some sender =>
      refine ⟨⟨.waitSof0, typeAck, seq, 0x00⟩, rfl, ?_⟩
      simp [uartProcessRx, uartProcessRxByte, encodeAck, parserFeed, rest, accepted]

/-- Reading whole ACK frames is that many acknowledgement steps of a link. -/
theorem uartProcessRx_refines (arrived : ℕ) {k : Link} (same : k.sender = m.sender)
    (rest : m.uartRxParser.state = .waitSof0) (acks : AckFrames k.acks) :
    let out := (m.uartProcessRx (rxBytes (k.acks.take arrived))).1
    out.uartRxParser.state = .waitSof0 ∧ ∃ acked,
      k.run .ble (List.replicate arrived .acknowledge) =
        { k with sender := out.sender, acks := k.acks.drop arrived, acked := acked } := by
  induction arrived generalizing m k with
  | zero =>
      refine ⟨rest, k.acked, ?_⟩
      simp [rxBytes, uartProcessRx, ← same]
  | succ arrived ih =>
      rw [List.replicate_succ, Link.run, Runs.run_cons, Link.step, Link.acknowledge]
      cases line : k.acks with
      | nil =>
          have none := ih same rest acks
          rw [line] at none
          simpa using none
      | cons oldest others =>
          have frame := acks oldest (line ▸ List.mem_cons_self)
          obtain ⟨parser, atRest, read⟩ :=
            uartProcessRx_ackFrame rest (label oldest.start) (rxBytes (others.take arrived))
          have tail : AckFrames others := fun m mem => acks m (line ▸ List.mem_cons_of_mem _ mem)
          rw [List.take_succ_cons, rxBytes_cons, frame, read]
          simp only [frame, decodeFrame_encodeAck, Option.bind_some, same, List.drop_succ_cons]
          cases accepted : senderOnFrame m.sender ⟨typeAck, label oldest.start, 0x00⟩ with
          | none =>
              exact ih (k := { k with sender := m.sender, acks := others })
                (m := { m with uartRxParser := parser }) rfl atRest tail
          | some sender =>
              exact ih (k := { k with
                  sender := sender, acks := others, acked := k.acked ++ [k.started.length - 1] })
                (m := { m with uartRxParser := parser, sender := sender }) rfl atRest tail

theorem uartPollRetry_refines {k : Link} (same : k.sender = m.sender) (nowMs : UInt32) :
    (m.uartPollRetry nowMs).1.uartRxParser = m.uartRxParser ∧
      k.poll nowMs = { k with
        sender := (m.uartPollRetry nowMs).1.sender
        data := k.data ++ match (m.uartPollRetry nowMs).2 with
          | .resend frame => [⟨k.started.length - 1, frame⟩]
          | _ => [] } := by
  unfold uartPollRetry bleUartSenderPoll Link.poll
  rw [same]
  cases result : senderPoll m.sender nowMs with
  | mk sender retry =>
      cases retry with
      | none => simp
      | resend frame => simp
      | giveUp => simp

/-- Starting the wanted command is `SenderStart`, or nothing. -/
theorem uartTrySendDesiredState_refines {k : Link} (same : k.sender = m.sender) (cmd : UInt8)
    (nowMs : UInt32) :
    let out := m.uartTrySendDesiredState cmd nowMs
    out.1.uartRxParser = m.uartRxParser ∧ ∃ actions, k.run .ble actions = { k with
      sender := out.1.sender
      data := k.data ++ out.2.toList.map fun frame => ⟨k.started.length, frame⟩
      started := k.started ++ (out.2.map UartFrame.cmd).toList } := by
  have quiet : ∃ actions, k.run .ble actions = { k with
      sender := m.sender, data := k.data ++ [], started := k.started ++ [] } := by
    refine ⟨[], ?_⟩
    simp [← same]
  unfold uartTrySendDesiredState
  split
  · exact ⟨rfl, quiet⟩
  · split
    · exact ⟨rfl, quiet⟩
    · cases started : senderStart moduleCmdIsValid m.sender cmd nowMs with
      | none => exact ⟨rfl, quiet⟩
      | some out =>
          obtain ⟨sender, frame⟩ := out
          obtain ⟨idle, valid, written, state⟩ := senderStart_cases started
          refine ⟨rfl, [.start cmd nowMs], ?_⟩
          -- the link's commands are those of the driver ECU's copy
          have taken : senderStart UartVariant.ble.cmdIsValid k.sender cmd nowMs =
              some (sender, frame) := by
            rw [same, state, written]
            exact senderStart_idle nowMs idle (moduleCmdIsValid_valid valid)
          rw [Link.run, Runs.run_cons, Runs.run_nil, Link.step, Link.start, taken]
          simp [written]

end BleModule

namespace BleUartTc375

theorem handleDecodedFrame_frame (g : BleUartTc375) (rx : DecodedFrame) :
    (bleUartTc375HandleDecodedFrame g rx).1.parser = g.parser ∧
      receiverOnFrame bleUartCmdIsValid g.receiver rx =
        ((bleUartTc375HandleDecodedFrame g rx).1.receiver,
          (bleUartTc375HandleDecodedFrame g rx).2) := by
  unfold bleUartTc375HandleDecodedFrame
  dsimp only
  split <;> exact ⟨rfl, rfl⟩

/-- Six bytes of a DATA frame do what `ReceiverOnFrame` does with the frame. -/
theorem pollBytes_dataFrame {g : BleUartTc375} (rest : g.parser.state = .waitSof0)
    (seq cmd : UInt8) (later : List UInt8) : ∃ g' flags, g'.parser.state = .waitSof0 ∧
      receiverOnFrame bleUartCmdIsValid g.receiver ⟨typeData, seq, cmd⟩ = (g'.receiver, flags) ∧
      bleUartTc375PollBytes g ((encodeData seq cmd).bytes.toList ++ later) =
        ((bleUartTc375PollBytes g' later).1, flags :: (bleUartTc375PollBytes g' later).2) := by
  have handled : bleUartTc375PollBytes g ((encodeData seq cmd).bytes.toList ++ later) =
      let out := bleUartTc375HandleDecodedFrame
        { g with parser := ⟨.waitSof0, typeData, seq, cmd⟩ } ⟨typeData, seq, cmd⟩
      ((bleUartTc375PollBytes out.1 later).1,
        out.2 :: (bleUartTc375PollBytes out.1 later).2) := by
    simp [bleUartTc375PollBytes, bleUartTc375PollByte, encodeData, parserFeed, rest]
  obtain ⟨parser, receiver⟩ := handleDecodedFrame_frame
    { g with parser := ⟨.waitSof0, typeData, seq, cmd⟩ } ⟨typeData, seq, cmd⟩
  exact ⟨_, _, by rw [parser], receiver, handled⟩

/-- Polling whole DATA frames is that many receptions of a link, with one result each. -/
theorem pollBytes_refines (arrived : ℕ) {g : BleUartTc375} {k : Link}
    (same : k.receiver = g.receiver) (rest : g.parser.state = .waitSof0)
    (data : DataFrames k.data) :
    let out := bleUartTc375PollBytes g (rxBytes (k.data.take arrived))
    out.1.parser.state = .waitSof0 ∧ out.2.length = (k.data.take arrived).length ∧
      k.run .ble (List.replicate arrived .receive) = { k with
        receiver := out.1.receiver
        data := k.data.drop arrived
        acks := k.acks ++ BleSystem.answered (k.data.take arrived) out.2
        delivered := k.delivered ++ BleSystem.accepted (k.data.take arrived) out.2 } := by
  induction arrived generalizing g k with
  | zero =>
      refine ⟨rest, rfl, ?_⟩
      simp [rxBytes, bleUartTc375PollBytes, BleSystem.answered, BleSystem.accepted, ← same]
  | succ arrived ih =>
      rw [List.replicate_succ, Link.run, Runs.run_cons, Link.step, Link.receive]
      cases line : k.data with
      | nil =>
          have none := ih same rest data
          rw [line] at none
          simpa using none
      | cons oldest others =>
          obtain ⟨cmd, valid, frame⟩ := data oldest (line ▸ List.mem_cons_self)
          obtain ⟨g', flags, atRest, taken, read⟩ :=
            pollBytes_dataFrame rest (label oldest.start) cmd (rxBytes (others.take arrived))
          have tail : DataFrames others := fun m mem => data m (line ▸ List.mem_cons_of_mem _ mem)
          obtain ⟨quiet, counted, later⟩ := ih (g := g') (k := { k with
            receiver := g'.receiver
            data := others
            acks := k.acks ++ (flags.sendAck.map fun ack => ⟨oldest.start, ack⟩).toList
            delivered :=
              k.delivered ++ (flags.deliver.map fun cmd => (oldest.start, cmd)).toList })
            rfl atRest tail
          rw [List.take_succ_cons, rxBytes_cons, frame, read]
          have received : receiverOnFrame UartVariant.ble.cmdIsValid k.receiver
              ⟨typeData, label oldest.start, cmd⟩ = (g'.receiver, flags) := same ▸ taken
          simp only [frame, decodeFrame_encodeData, received, List.drop_succ_cons]
          refine ⟨quiet, by simpa using counted, later.trans ?_⟩
          simp [BleSystem.answered, BleSystem.accepted]

end BleUartTc375

/-! ### The system is a link -/

namespace BleSystem

variable {s : BleSystem}

/-- The link inside the system. -/
def link (s : BleSystem) (acked : List ℕ) : Link :=
  ⟨s.scanner.sender, s.driver.receiver, s.data, s.acks, s.started, s.delivered, acked⟩

/-- The system follows a run of the link, with no frame half read and an empty mailbox. -/
structure Tracked (s : BleSystem) : Prop where
  scannerRest : s.scanner.uartRxParser.state = .waitSof0
  driverRest : s.driver.parser.state = .waitSof0
  driver : s.driver.held = none ∧ s.driver.initialized = true
  run : ∃ actions acked,
    Link.run .ble (Link.fresh .zero defaultAckTimeoutMs defaultRetryLimit) actions = s.link acked

theorem Tracked.fresh : Tracked fresh := by
  refine ⟨rfl, rfl, ⟨rfl, rfl⟩, [], [], rfl⟩

theorem Tracked.frames (tracked : s.Tracked) : AckFrames s.acks ∧ DataFrames s.data := by
  obtain ⟨actions, acked, same⟩ := tracked.run
  obtain ⟨consistent, -⟩ := Link.reachable .ble .zero defaultAckTimeoutMs defaultRetryLimit
    receiverInit actions
  have here : (s.link acked).Consistent .ble := same ▸ consistent
  refine ⟨here.ack_frames, ?_⟩
  intro m mem
  obtain ⟨cmd, -, valid, frame⟩ := here.data_frames m mem
  exact ⟨cmd, valid, frame⟩

/-- A turn of the module's loop is some acknowledgements, one `SenderPoll` and at most one
`SenderStart`. -/
theorem Tracked.turn (tracked : s.Tracked) (arrived : ℕ) (retryMs : UInt32)
    (scan : List (BLEAdvertisedDevice × UInt32)) (nowMs startMs : UInt32) :
    (s.step (.turn arrived retryMs scan nowMs startMs)).Tracked := by
  obtain ⟨actions, acked, same⟩ := tracked.run
  set m := s.scanner
  set heard := (m.uartProcessRx (rxBytes (s.acks.take arrived))).1
  set retried := (heard.uartPollRetry retryMs).1
  set seen := retried.scanned kReceiveFilterMode scan
  obtain ⟨atRest, acked', read⟩ := BleModule.uartProcessRx_refines arrived (k := s.link acked)
    rfl tracked.scannerRest tracked.frames.1
  obtain ⟨parser, polled⟩ := BleModule.uartPollRetry_refines (m := heard)
    (k := { s.link acked with sender := heard.sender, acks := s.acks.drop arrived, acked := acked' })
    rfl retryMs
  obtain ⟨sender, parser'⟩ := BleModule.scanned_sender kReceiveFilterMode retried scan
  obtain ⟨parser'', sending, sent⟩ := BleModule.uartTrySendDesiredState_refines (m := seen)
    (k := { s.link acked with
      sender := retried.sender
      data := s.data ++ s.resent (heard.uartPollRetry retryMs).2
      acks := s.acks.drop arrived
      acked := acked' }) sender.symm (seen.desiredCmd nowMs) startMs
  refine ⟨?_, tracked.driverRest, tracked.driver, actions ++ (List.replicate arrived .acknowledge ++
    (.poll retryMs :: sending)), acked', ?_⟩
  · exact parser''.symm ▸ parser'.symm ▸ parser.symm ▸ atRest
  · rw [Link.run, Runs.run_append, Runs.run_append, Runs.run_cons]
    rw [Link.run] at same read
    rw [same, read]
    exact (congrArg (fun k => Link.run .ble k sending) polled).trans sent

theorem accepted_cmds {frames : List InFlight} {results : List RxResult}
    (counted : results.length = frames.length) :
    (accepted frames results).map Prod.snd = results.filterMap RxResult.deliver := by
  induction frames generalizing results with
  | nil =>
      obtain rfl := List.eq_nil_of_length_eq_zero counted
      rfl
  | cons m rest ih =>
      cases results with
      | nil => simp at counted
      | cons result later =>
          have tail := ih (by simpa using counted)
          rw [accepted, List.zip_cons_cons, List.flatMap_cons, List.map_append, ← accepted, tail]
          cases deliver : result.deliver with
          | none => simp [deliver]
          | some cmd => simp [deliver]

/-- A poll of the driver ECU is some receptions; the mailbox hands on the last delivery. -/
theorem Tracked.poll (tracked : s.Tracked) (arrived : ℕ) : (s.poll arrived).Tracked ∧
    ∃ new, (s.poll arrived).delivered = s.delivered ++ new ∧
      (s.poll arrived).handed = s.handed ++ (new.map Prod.snd).getLast?.toList := by
  obtain ⟨actions, acked, same⟩ := tracked.run
  obtain ⟨atRest, counted, received⟩ := BleUartTc375.pollBytes_refines arrived
    (k := s.link acked) rfl tracked.driverRest tracked.frames.2
  have polled : bleUartTc375Poll s.driver (rxBytes (s.data.take arrived)) =
      bleUartTc375PollBytes s.driver (rxBytes (s.data.take arrived)) := by
    simp [bleUartTc375Poll, tracked.driver.2]
  obtain ⟨⟨-, held, ready⟩, delivered, handed⟩ := bleUartTc375Round_hears
    ⟨rfl, tracked.driver.1, tracked.driver.2⟩ (rxBytes (s.data.take arrived))
  rw [← delivered] at handed
  refine ⟨⟨tracked.scannerRest, ?_, ⟨held, ready⟩,
    actions ++ List.replicate arrived .receive, acked, ?_⟩,
    accepted (s.data.take arrived)
      (bleUartTc375Round s.driver (rxBytes (s.data.take arrived))).2.results,
    rfl, ?_⟩
  · simpa [BleSystem.poll, bleUartTc375Round, polled, bleUartTc375ConsumeAll, link] using atRest
  · rw [Link.run] at same received ⊢
    rw [Runs.run_append, same, received]
    simp [BleSystem.poll, bleUartTc375Round, polled, bleUartTc375ConsumeAll, link]
  · have results : (bleUartTc375Round s.driver (rxBytes (s.data.take arrived))).2.results =
        (bleUartTc375PollBytes s.driver (rxBytes (s.data.take arrived))).2 := by
      simp [bleUartTc375Round, polled]
    rw [accepted_cmds (results ▸ counted)]
    exact congrArg (s.handed ++ ·) handed

theorem Tracked.step (tracked : s.Tracked) (action : BleAction) : (s.step action).Tracked := by
  cases action with
  | turn arrived retryMs scan nowMs startMs => exact tracked.turn arrived retryMs scan nowMs startMs
  | poll arrived => exact (tracked.poll arrived).1
  | loseData i =>
      obtain ⟨actions, acked, same⟩ := tracked.run
      refine ⟨tracked.scannerRest, tracked.driverRest, tracked.driver,
        actions ++ [.loseData i], acked, ?_⟩
      rw [Link.run, Runs.run_append, ← Link.run, same]
      rfl
  | loseAck i =>
      obtain ⟨actions, acked, same⟩ := tracked.run
      refine ⟨tracked.scannerRest, tracked.driverRest, tracked.driver,
        actions ++ [.loseAck i], acked, ?_⟩
      rw [Link.run, Runs.run_append, ← Link.run, same]
      rfl

/-! ### What the driver ECU is asked -/

/-- The module has come from its turns, what it started it started in them, and what was handed
on was delivered. -/
structure Caused (s : BleSystem) : Prop where
  scanner : s.scanner = BleModule.run kReceiveFilterMode s.turns
  started : s.started = (BleModule.sendings kReceiveFilterMode s.turns).map BleModule.Sending.cmd
  handed : s.handed.Sublist (s.delivered.map Prod.snd)

theorem turn_started (s : BleSystem) (i : BleModule.LoopInput) : (s.turn i).started = s.started ++
    ((BleModule.loop kReceiveFilterMode s.scanner i).2.started.map UartFrame.cmd).toList := rfl

theorem Caused.turn (caused : s.Caused) (i : BleModule.LoopInput) (acks : List InFlight) :
    ({ s with acks := acks }.turn i).Caused := by
  refine ⟨?_, ?_, caused.handed⟩
  · simp [BleSystem.turn, BleModule.run, Runs.run_append, next, caused.scanner]
  · have turns : ({ s with acks := acks }.turn i).turns = s.turns ++ [i] := rfl
    rw [turn_started, turns, BleModule.sendings, BleModule.sendingsFrom_concat, List.map_append,
      ← BleModule.sendings, ← caused.started, List.nil_append, BleModule.sentIn, ← caused.scanner]
    cases (BleModule.loop kReceiveFilterMode s.scanner i).2.started <;> rfl

theorem Caused.step (caused : s.Caused) (tracked : s.Tracked) (action : BleAction) :
    (s.step action).Caused := by
  cases action with
  | turn arrived retryMs scan nowMs startMs => exact caused.turn _ _
  | poll arrived =>
      obtain ⟨-, new, delivered, handed⟩ := tracked.poll arrived
      refine ⟨caused.scanner, caused.started, ?_⟩
      have last : ((new.map Prod.snd).getLast?.toList).Sublist (new.map Prod.snd) := by
        cases found : (new.map Prod.snd).getLast? with
        | none => simp
        | some cmd => simpa using List.mem_of_getLast? found
      rw [BleSystem.step, handed, delivered, List.map_append]
      exact caused.handed.append last
  | loseData i => exact ⟨caused.scanner, caused.started, caused.handed⟩
  | loseAck i => exact ⟨caused.scanner, caused.started, caused.handed⟩

theorem Tracked.delivered_sublist (tracked : s.Tracked) :
    (s.delivered.map Prod.snd).Sublist s.started := by
  obtain ⟨linked, acked, same⟩ := tracked.run
  obtain ⟨increasing, lookup⟩ := Link.deliveries_increasing .ble .zero defaultAckTimeoutMs
    defaultRetryLimit linked
  rw [same] at increasing lookup
  exact sublist_of_positions increasing lookup

/-- What is handed on was sent. -/
theorem Caused.handed_sent (caused : s.Caused) (tracked : s.Tracked) :
    ∃ sent : List BleModule.Sending, sent.Sublist (BleModule.sendings kReceiveFilterMode s.turns) ∧
      s.handed = sent.map BleModule.Sending.cmd := by
  have sent := caused.handed.trans tracked.delivered_sublist
  rw [caused.started] at sent
  exact List.sublist_map_iff.mp sent

/-- What is handed on was asked for. -/
theorem Caused.handed_asked (caused : s.Caused) (tracked : s.Tracked) {cmd : UInt8}
    (mem : cmd ∈ s.handed) : cmd = bleUartMakeCmd bleUartReqNop bleUartReqNop ∨
      cmd = bleUartMakeCmd bleUartReqNop bleUartReqOpen ∧
        ∃ front i, front ++ [i] <+: s.turns ∧ BleModule.Sighted front i := by
  obtain ⟨sent, among, handed⟩ := caused.handed_sent tracked
  rw [handed] at mem
  obtain ⟨sending, wasSent, rfl⟩ := List.mem_map.mp mem
  obtain ⟨turns, asks⟩ := BleModule.sendings_sighted (among.subset wasSent)
  exact asks.imp_right fun request => ⟨request.1, _, _, turns, request.2⟩

theorem tracked_fresh : BleSystem.fresh.Tracked ∧ BleSystem.fresh.Caused :=
  ⟨.fresh, rfl, rfl, by simp [fresh]⟩

/-- Whatever is lost on the line: the commands that the driver ECU is handed are some of those
the module sent, in their order and each sending once. None but a ramp to be opened is a
request, and each of these has a phone behind it that was in sight in the turn that sent it. -/
theorem handed_requests_have_sightings (actions : List BleAction) :
    let s := run fresh actions
    let sendings := BleModule.sendings kReceiveFilterMode s.turns
    s.started = sendings.map BleModule.Sending.cmd ∧
      ∃ sent : List BleModule.Sending, sent.Sublist sendings ∧ s.handed = sent.map BleModule.Sending.cmd ∧
        ∀ sending ∈ sent, sending.cmd = bleUartMakeCmd bleUartReqNop bleUartReqNop ∨
          sending.cmd = bleUartMakeCmd bleUartReqNop bleUartReqOpen ∧
            BleModule.Sighted sending.front sending.turn := by
  intro s sendings
  obtain ⟨tracked, caused⟩ := run_invariant (fun s : BleSystem => s.Tracked ∧ s.Caused)
    (fun _ action good => ⟨good.1.step action, good.2.step good.1 action⟩) tracked_fresh actions
  obtain ⟨sent, among, handed⟩ := caused.handed_sent tracked
  refine ⟨caused.started, sent, among, handed, ?_⟩
  intro sending mem
  exact (BleModule.sendings_sighted (among.subset mem)).2

end BleSystem

end SmartBusAccess.Uart
