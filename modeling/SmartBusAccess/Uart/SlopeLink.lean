import SmartBusAccess.Uart.Delivery
import SmartBusAccess.Uart.SlopeGlue

/-!
The door ECU's slope glue and the receiver of the slope module over two lossy
first-in first-out lines.

The glue reads whole ACK frames: a poll says how many of the oldest ones have
arrived, and `rxBytes` are their bytes. `requests` and `gaveUp` are the histories
of the requests the supervisor latched and of the commands given up.

* `SlopeLink.refines`: the composed system is a run of `Link`, in which one poll
  is some acknowledgements, one `SenderPoll` and at most one `SenderStart`.
* `executions_le_requests_add_giveUps`: how often one command can be executed.
-/

namespace SmartBusAccess.Uart

/-! ### The system -/

inductive SlopeRequest where
  | requestOpen
  | requestClose
deriving DecidableEq, Repr

def SlopeRequest.cmd : SlopeRequest → UInt8
  | .requestOpen => slopeUartReqOpen
  | .requestClose => slopeUartReqClose

theorem SlopeRequest.none_ne_cmd (r : SlopeRequest) : slopeUartReqNone ≠ r.cmd := by
  cases r <;> decide

theorem SlopeRequest.cmd_valid (r : SlopeRequest) : slopeUartCmdIsValid r.cmd = true := by
  cases r with
  | requestOpen => exact slopeUartCmdIsValid_open
  | requestClose => exact slopeUartCmdIsValid_close

def SlopeRequest.latch : SlopeRequest → SlopeUartTc375 → SlopeUartTc375
  | .requestOpen => slopeUartTc375RequestOpen
  | .requestClose => slopeUartTc375RequestClose

structure SlopeLink where
  glue : SlopeUartTc375
  receiver : UartReceiver
  data : List InFlight
  acks : List InFlight
  started : List UInt8
  delivered : List (ℕ × UInt8)
  requests : List SlopeRequest
  gaveUp : List UInt8
deriving DecidableEq, Repr

inductive SlopeAction where
  | request (r : SlopeRequest)
  | txPoll (arrived : ℕ) (retryTicks sendTicks : UInt32)
  | consumeTxSuccess
  | receive
  | loseData (i : ℕ)
  | loseAck (i : ℕ)
deriving DecidableEq, Repr

/-- The bytes of whole frames, in order. -/
def rxBytes (frames : List InFlight) : List UInt8 := frames.flatMap fun m => m.frame.bytes.toList

namespace SlopeLink

/-- Both ends just initialised, the lines empty. -/
def fresh (stmTicksPerMs : UInt32) : SlopeLink :=
  ⟨slopeUartTc375TxInit .boot stmTicksPerMs, slopeUartReceiverInit, [], [], [], [], [], []⟩

/-- What the retry part of a poll writes to the line. -/
def resent (l : SlopeLink) : SenderPollResult → List InFlight
  | .resend frame => [⟨l.started.length - 1, frame⟩]
  | _ => []

/-- The command a give-up ends. -/
def givenUp (l : SlopeLink) : SenderPollResult → List UInt8
  | .giveUp => [l.glue.sender.pendingFrame.cmd]
  | _ => []

/-- What a newly started command writes to the line. -/
def launched (l : SlopeLink) (started : Option UartFrame) : List InFlight :=
  started.toList.map fun frame => ⟨l.started.length, frame⟩

/-- `slopeUartTc375TxPoll`, with the frames it writes. -/
def txPoll (l : SlopeLink) (arrived : ℕ) (retryTicks sendTicks : UInt32) : SlopeLink :=
  let (glue, report) :=
    slopeUartTc375TxPoll l.glue (rxBytes (l.acks.take arrived)) retryTicks sendTicks
  { l with
    glue := glue
    acks := l.acks.drop arrived
    data := l.data ++ l.resent report.retry ++ l.launched report.started
    started := l.started ++ report.startedCmd.toList
    gaveUp := l.gaveUp ++ l.givenUp report.retry }

/-- The oldest DATA frame arrives: `slopeUartReceiverOnFrame`. -/
def receive (l : SlopeLink) : SlopeLink :=
  match l.data with
  | [] => l
  | m :: rest =>
      match decodeFrame m.frame with
      | none => { l with data := rest }
      | some rx =>
          let (receiver, flags) := slopeUartReceiverOnFrame l.receiver rx
          { l with
            receiver := receiver
            data := rest
            acks := l.acks ++ (flags.sendAck.map fun ack => ⟨m.start, ack⟩).toList
            delivered := l.delivered ++ (flags.deliver.map fun cmd => (m.start, cmd)).toList }

def step (l : SlopeLink) : SlopeAction → SlopeLink
  | .request r => { l with glue := r.latch l.glue, requests := l.requests ++ [r] }
  | .txPoll arrived retryTicks sendTicks => l.txPoll arrived retryTicks sendTicks
  | .consumeTxSuccess =>
      match slopeUartTc375ConsumeTxSuccess l.glue with
      | some (glue, _) => { l with glue := glue }
      | none => l
  | .receive => l.receive
  | .loseData i => { l with data := l.data.eraseIdx i }
  | .loseAck i => { l with acks := l.acks.eraseIdx i }

abbrev run : SlopeLink → List SlopeAction → SlopeLink := Runs.run step

/-- Deliveries of one request's command. -/
def executions (l : SlopeLink) (r : SlopeRequest) : ℕ := (l.delivered.map Prod.snd).count r.cmd

end SlopeLink

/-! ### The glue among whole frames -/

namespace SlopeUartTc375

/-- Initialised, and no frame half read. -/
structure AtRest (g : SlopeUartTc375) : Prop where
  initialized : g.initialized = true
  parser : g.ackParser.state = .waitSof0

variable {g : SlopeUartTc375}

/-- Six bytes of an ACK do what `SenderOnFrame` does with the frame. -/
theorem processRx_ackFrame (rest : g.AtRest) (seq : UInt8) :
    (slopeUartTc375ProcessRx g (encodeAck seq).bytes.toList).AtRest ∧
      (slopeUartTc375ProcessRx g (encodeAck seq).bytes.toList).sender =
        (senderOnFrame g.sender ⟨typeAck, seq, 0x00⟩).getD g.sender := by
  obtain ⟨ready, atRest⟩ := rest
  cases accepted : senderOnFrame g.sender ⟨typeAck, seq, 0x00⟩ with
  | none =>
      refine ⟨⟨?_, ?_⟩, ?_⟩ <;> simp [slopeUartTc375ProcessRx, slopeUartTc375ProcessRxByte,
        encodeAck, parserFeed, atRest, accepted, ready]
  | some sender =>
      refine ⟨⟨?_, ?_⟩, ?_⟩ <;> simp [slopeUartTc375ProcessRx, slopeUartTc375ProcessRxByte,
        encodeAck, parserFeed, atRest, accepted, ready]

theorem processRx_append (g : SlopeUartTc375) (front back : List UInt8) :
    slopeUartTc375ProcessRx g (front ++ back) =
      slopeUartTc375ProcessRx (slopeUartTc375ProcessRx g front) back :=
  List.foldl_append

end SlopeUartTc375

/-! ### A slope link is a link -/

namespace SlopeLink

/-- The same sender, receiver, lines and histories. -/
structure Matches (l : SlopeLink) (k : Link) : Prop where
  sender : k.sender = l.glue.sender
  receiver : k.receiver = l.receiver
  data : k.data = l.data
  acks : k.acks = l.acks
  started : k.started = l.started
  delivered : k.delivered = l.delivered

/-- The receive loop of a poll. -/
def readAcks (l : SlopeLink) (arrived : ℕ) : SlopeLink :=
  { l with
    glue := slopeUartTc375ProcessRx l.glue (rxBytes (l.acks.take arrived))
    acks := l.acks.drop arrived }

/-- The retry part of a poll. -/
def pollRetry (l : SlopeLink) (ticks : UInt32) : SlopeLink :=
  let (glue, retry) := slopeUartTc375PollRetry l.glue ticks
  { l with
    glue := glue
    data := l.data ++ l.resent retry
    gaveUp := l.gaveUp ++ l.givenUp retry }

/-- The sending part of a poll. -/
def trySendDesired (l : SlopeLink) (ticks : UInt32) : SlopeLink :=
  let (glue, started) := slopeUartTc375TrySendDesired l.glue ticks
  { l with
    glue := glue
    data := l.data ++ l.launched started
    started := l.started ++ (started.map UartFrame.cmd).toList }

variable {l : SlopeLink} {k : Link} {v : UartVariant}

theorem readAcks_pending (l : SlopeLink) (arrived : ℕ) :
    (l.readAcks arrived).glue.sender.pendingFrame = l.glue.sender.pendingFrame := by
  rcases SlopeUartTc375.processRx_cases l.glue (rxBytes (l.acks.take arrived)) with
      ⟨parser, same | ⟨-, acked⟩⟩
  · simp [readAcks, same]
  · simp [readAcks, acked]

theorem txPoll_eq (ready : l.glue.initialized = true) (arrived : ℕ)
    (retryTicks sendTicks : UInt32) : l.txPoll arrived retryTicks sendTicks =
      ((l.readAcks arrived).pollRetry retryTicks).trySendDesired sendTicks := by
  have pending := readAcks_pending l arrived
  simp only [readAcks] at pending
  simp [txPoll, slopeUartTc375TxPoll, ready, readAcks, pollRetry, trySendDesired, resent, givenUp,
    launched, pending, TxReport.startedCmd]

/-- Reading one whole ACK frame is one acknowledgement step of the link. -/
theorem readAcks_one (same : l.Matches k) (rest : l.glue.AtRest)
    (acks : ∀ m ∈ l.acks, m.frame = encodeAck (label m.start)) :
    (l.readAcks 1).Matches k.acknowledge ∧ (l.readAcks 1).glue.AtRest := by
  unfold Link.acknowledge readAcks
  rw [same.acks]
  cases oldest : l.acks with
  | nil => exact ⟨{ same with acks := same.acks.trans oldest }, rest⟩
  | cons m others =>
      have frame := acks m (oldest ▸ List.mem_cons_self)
      have bytes : rxBytes ((m :: others).take 1) = (encodeAck (label m.start)).bytes.toList := by
        simp [rxBytes, frame]
      obtain ⟨later, heard⟩ := SlopeUartTc375.processRx_ackFrame rest (label m.start)
      rw [bytes]
      simp only [frame, decodeFrame_encodeAck, Option.bind_some, same.sender]
      refine ⟨?_, later⟩
      cases accepted : senderOnFrame l.glue.sender ⟨typeAck, label m.start, 0x00⟩ with
      | none => exact { same with sender := by simp [heard, accepted], acks := rfl }
      | some sender => exact { same with sender := by simp [heard, accepted], acks := rfl }

theorem readAcks_succ (l : SlopeLink) (arrived : ℕ) :
    l.readAcks (arrived + 1) = (l.readAcks 1).readAcks arrived := by
  cases oldest : l.acks with
  | nil => simp [readAcks, oldest, rxBytes, slopeUartTc375ProcessRx]
  | cons m others => simp [readAcks, oldest, rxBytes, SlopeUartTc375.processRx_append]

theorem readAcks_refines (arrived : ℕ) (same : l.Matches k) (rest : l.glue.AtRest)
    (acks : ∀ m ∈ l.acks, m.frame = encodeAck (label m.start)) :
    (l.readAcks arrived).Matches (k.run v (List.replicate arrived .acknowledge)) ∧
      (l.readAcks arrived).glue.AtRest := by
  induction arrived generalizing l k with
  | zero => exact ⟨{ same with }, rest⟩
  | succ arrived ih =>
      obtain ⟨first, later⟩ := readAcks_one same rest acks
      rw [readAcks_succ, List.replicate_succ]
      exact ih first later fun m mem => acks m (List.mem_of_mem_drop mem)

theorem pollRetry_refines (ticks : UInt32) (same : l.Matches k) (rest : l.glue.AtRest) :
    (l.pollRetry ticks).Matches (k.poll (slopeUartTc375GetTickMs l.glue ticks)) ∧
      (l.pollRetry ticks).glue.AtRest := by
  unfold pollRetry slopeUartTc375PollRetry slopeUartSenderPoll Link.poll
  rw [same.sender]
  cases result : senderPoll l.glue.sender (slopeUartTc375GetTickMs l.glue ticks) with
  | mk sender retry =>
      have still : ∀ lastQueuedCmd, ({ l.glue with
          sender := sender, lastQueuedCmd := lastQueuedCmd } : SlopeUartTc375).AtRest :=
        fun _ => ⟨rest.initialized, rest.parser⟩
      cases retry with
      | none =>
          simp only [result]
          exact ⟨{ same with sender := rfl, data := by simp [resent, same.data] }, still _⟩
      | resend frame =>
          simp only [result]
          exact ⟨{ same with sender := rfl, data := by simp [resent, same.data, same.started] },
            still _⟩
      | giveUp =>
          simp only [result]
          exact ⟨{ same with sender := rfl, data := by simp [resent, same.data] }, still _⟩

theorem trySendDesired_refines (ticks : UInt32) (same : l.Matches k) (rest : l.glue.AtRest) :
    (∃ actions, (l.trySendDesired ticks).Matches (k.run .slope actions)) ∧
      (l.trySendDesired ticks).glue.AtRest := by
  unfold trySendDesired
  rcases SlopeUartTc375.trySendDesired_cases l.glue ticks with quiet | ⟨sender, frame, start, sent⟩
  · rw [quiet]
    exact ⟨⟨[], { same with
      data := by simp [launched, same.data], started := by simp [same.started] }⟩, rest⟩
  · rw [sent]
    obtain ⟨-, -, written, -⟩ := senderStart_cases start
    refine ⟨⟨[.start l.glue.desiredCmd (slopeUartTc375GetTickMs l.glue ticks)], ?_⟩,
      ⟨rest.1, rest.2⟩⟩
    rw [Link.run, Runs.run_cons, Runs.run_nil, Link.step, Link.start, same.sender]
    simp only [UartVariant.cmdIsValid, start]
    exact { same with
      sender := rfl
      data := by simp [launched, same.data, same.started]
      started := by simp [same.started, written] }

theorem receive_refines (same : l.Matches k) : l.receive.Matches (k.receive .slope) := by
  unfold receive Link.receive
  rw [same.data]
  cases arrives : l.data with
  | nil => exact same
  | cons m rest =>
      cases decoded : decodeFrame m.frame with
      | none =>
          simp only [decoded]
          exact { same with data := rfl }
      | some rx =>
          simp only [decoded, UartVariant.cmdIsValid, same.receiver, same.acks, same.delivered]
          exact { same with receiver := rfl, data := rfl, acks := rfl, delivered := rfl }

/-- The receiver leaves the sending side alone. -/
theorem receive_frame (l : SlopeLink) : ∃ receiver data acks delivered, l.receive =
    { l with receiver := receiver, data := data, acks := acks, delivered := delivered } := by
  unfold receive
  split
  · exact ⟨_, _, _, _, rfl⟩
  · split <;> exact ⟨_, _, _, _, rfl⟩

/-- The slope link follows a run of the link, with no frame half read. -/
structure Tracked (l : SlopeLink) : Prop where
  atRest : l.glue.AtRest
  run : ∃ actions, l.Matches
    (Link.run .slope (Link.fresh .zero defaultAckTimeoutMs defaultRetryLimit) actions)

theorem Tracked.txPoll (tracked : l.Tracked) (arrived : ℕ) (retryTicks sendTicks : UInt32) :
    (l.txPoll arrived retryTicks sendTicks).Tracked := by
  obtain ⟨rest, actions, same⟩ := tracked
  rw [txPoll_eq rest.initialized]
  have acks : ∀ m ∈ l.acks, m.frame = encodeAck (label m.start) := by
    obtain ⟨consistent, -⟩ := Link.reachable .slope .zero defaultAckTimeoutMs defaultRetryLimit
      receiverInit actions
    exact same.acks ▸ consistent.ack_frames
  obtain ⟨read, rest⟩ := readAcks_refines (v := .slope) arrived same rest acks
  obtain ⟨polled, rest⟩ := pollRetry_refines retryTicks read rest
  obtain ⟨⟨sending, sent⟩, rest⟩ := trySendDesired_refines sendTicks polled rest
  refine ⟨rest, actions ++ List.replicate arrived .acknowledge ++
    [.poll (slopeUartTc375GetTickMs (l.readAcks arrived).glue retryTicks)] ++ sending, ?_⟩
  rw [Link.run, Runs.run_append, Runs.run_append, Runs.run_append]
  exact sent

theorem Tracked.step (tracked : l.Tracked) (action : SlopeAction) : (l.step action).Tracked := by
  cases action with
  | request r =>
      obtain ⟨rest, actions, same⟩ := tracked
      cases r with
      | requestOpen => exact ⟨⟨rest.1, rest.2⟩, actions, { same with }⟩
      | requestClose => exact ⟨⟨rest.1, rest.2⟩, actions, { same with }⟩
  | txPoll arrived retryTicks sendTicks => exact tracked.txPoll arrived retryTicks sendTicks
  | consumeTxSuccess =>
      obtain ⟨rest, actions, same⟩ := tracked
      unfold SlopeLink.step slopeUartTc375ConsumeTxSuccess
      cases pending : l.glue.txSuccessPending with
      | false => exact ⟨rest, actions, same⟩
      | true => exact ⟨⟨rest.1, rest.2⟩, actions, { same with }⟩
  | receive =>
      obtain ⟨rest, actions, same⟩ := tracked
      have atRest : (l.step .receive).glue.AtRest := by
        obtain ⟨_, _, _, _, result⟩ := receive_frame l
        rw [SlopeLink.step, result]
        exact rest
      refine ⟨atRest, actions ++ [.receive], ?_⟩
      rw [Link.run, Runs.run_append]
      exact receive_refines same
  | loseData i =>
      obtain ⟨rest, actions, same⟩ := tracked
      refine ⟨rest, actions ++ [.loseData i], ?_⟩
      rw [Link.run, Runs.run_append]
      exact { same with data := congrArg (List.eraseIdx · i) same.data }
  | loseAck i =>
      obtain ⟨rest, actions, same⟩ := tracked
      refine ⟨rest, actions ++ [.loseAck i], ?_⟩
      rw [Link.run, Runs.run_append]
      exact { same with acks := congrArg (List.eraseIdx · i) same.acks }

/-- Every run of the composed system is a run of the link. -/
theorem refines (stmTicksPerMs : UInt32) (actions : List SlopeAction) :
    (run (fresh stmTicksPerMs) actions).Tracked := by
  have initial : (fresh stmTicksPerMs).Tracked := ⟨⟨rfl, rfl⟩, [], by constructor <;> rfl⟩
  exact Runs.run_invariant Tracked (fun _ action tracked => tracked.step action) initial actions

/-- What the receiver delivers was started, in order and each start at most once. -/
theorem Tracked.delivered_sublist (tracked : l.Tracked) :
    (l.delivered.map Prod.snd).Sublist l.started := by
  obtain ⟨-, actions, same⟩ := tracked
  obtain ⟨increasing, lookup⟩ := Link.deliveries_increasing .slope .zero defaultAckTimeoutMs
    defaultRetryLimit actions
  rw [← same.delivered, ← same.started]
  exact sublist_of_positions increasing lookup

/-! ### How often a request is executed -/

/-- Starts of one request's command are paid for by requests and give-ups; one
is still owed while the command is latched but not the one in flight. -/
structure WithinBudget (r : SlopeRequest) (l : SlopeLink) : Prop where
  initialized : l.glue.initialized = true
  valid : slopeUartCmdIsValid l.glue.desiredCmd = true
  paid : l.started.count r.cmd ≤ l.requests.count r + l.gaveUp.count r.cmd
  owed : l.glue.desiredCmd = r.cmd →
    (l.glue.sender.waitingAck = true → l.glue.sender.pendingFrame.cmd ≠ r.cmd) →
      l.started.count r.cmd + 1 ≤ l.requests.count r + l.gaveUp.count r.cmd

theorem WithinBudget.txPoll {r : SlopeRequest} (budget : l.WithinBudget r) (arrived : ℕ)
    (retryTicks sendTicks : UInt32) : (l.txPoll arrived retryTicks sendTicks).WithinBudget r := by
  obtain ⟨outcome, -⟩ := SlopeUartTc375.txPoll_outcome budget.initialized budget.valid
    (rxBytes (l.acks.take arrived)) retryTicks sendTicks
  unfold SlopeLink.txPoll
  generalize slopeUartTc375TxPoll l.glue (rxBytes (l.acks.take arrived)) retryTicks sendTicks =
    out at outcome
  obtain ⟨glue, report⟩ := out
  have paid := budget.paid
  have owed := budget.owed
  cases outcome with
  | acked parser busy =>
      refine ⟨budget.initialized, slopeUartCmdIsValid_none, ?_, ?_⟩
      · simpa [givenUp, TxReport.startedCmd] using paid
      -- The latch is empty now, so nothing is owed.
      · intro latched
        exact absurd latched r.none_ne_cmd
  | waiting parser sender retry busy still frame goesOn =>
      have none : l.givenUp retry = [] := by cases retry <;> simp_all [givenUp]
      refine ⟨budget.initialized, budget.valid, by simpa [none, TxReport.startedCmd] using paid, ?_⟩
      intro latched elsewhere
      have := owed latched fun _ => frame ▸ elsewhere still
      simpa [none, TxReport.startedCmd] using this
  | restarted parser nowMs busy =>
      refine ⟨budget.initialized, budget.valid, ?_, ?_⟩
      · by_cases latched : l.glue.desiredCmd = r.cmd
        -- Either a start of this command was given up, or one was owed.
        · by_cases inFlight : l.glue.sender.pendingFrame.cmd = r.cmd
          · simp [givenUp, TxReport.startedCmd, latched, inFlight]
            omega
          · have := owed latched fun _ => inFlight
            simp [givenUp, TxReport.startedCmd, latched, inFlight]
            omega
        · simp [givenUp, TxReport.startedCmd, latched, List.count_singleton]
          omega
      · intro latched elsewhere
        exact absurd latched (elsewhere rfl)
  | quiet parser idle queued =>
      refine ⟨budget.initialized, budget.valid, ?_, ?_⟩
      · simpa [givenUp, TxReport.startedCmd] using paid
      · simpa [givenUp, TxReport.startedCmd] using owed
  | started parser nowMs idle new =>
      refine ⟨budget.initialized, budget.valid, ?_, ?_⟩
      · by_cases latched : l.glue.desiredCmd = r.cmd
        · have := owed latched (by simp [idle])
          simpa [givenUp, TxReport.startedCmd, latched] using this
        · simpa [givenUp, TxReport.startedCmd, latched] using paid
      · intro latched elsewhere
        exact absurd latched (elsewhere rfl)

theorem WithinBudget.request {r : SlopeRequest} (budget : l.WithinBudget r) (r' : SlopeRequest) :
    (l.step (.request r')).WithinBudget r := by
  have paid := budget.paid
  have latch : (r'.latch l.glue).desiredCmd = r'.cmd := by cases r' <;> rfl
  have rest : (r'.latch l.glue).initialized = l.glue.initialized := by cases r' <;> rfl
  refine ⟨rest.trans budget.initialized, by simpa [step, latch] using r'.cmd_valid, ?_, ?_⟩
  · simp only [step, List.count_append]
    omega
  · intro same _
    have sameRequest : r' = r := by
      simp only [step, latch] at same
      revert same
      cases r <;> cases r' <;> decide
    simp only [step, sameRequest, List.count_append, List.count_singleton_self]
    omega

theorem WithinBudget.step {r : SlopeRequest} (budget : l.WithinBudget r) (action : SlopeAction) :
    (l.step action).WithinBudget r := by
  cases action with
  | request r' => exact budget.request r'
  | txPoll arrived retryTicks sendTicks => exact budget.txPoll arrived retryTicks sendTicks
  | consumeTxSuccess =>
      unfold SlopeLink.step slopeUartTc375ConsumeTxSuccess
      cases pending : l.glue.txSuccessPending with
      | false => exact budget
      | true => exact { budget with }
  | receive =>
      obtain ⟨_, _, _, _, result⟩ := receive_frame l
      rw [SlopeLink.step, result]
      exact { budget with }
  | loseData i => exact { budget with }
  | loseAck i => exact { budget with }

end SlopeLink

/-- A command is executed at most once for each request of it and once more for
each time it was given up, whatever is lost in either direction. -/
theorem executions_le_requests_add_giveUps (stmTicksPerMs : UInt32) (actions : List SlopeAction)
    (r : SlopeRequest) :
    let l := SlopeLink.run (.fresh stmTicksPerMs) actions
    l.executions r ≤ l.requests.count r + l.gaveUp.count r.cmd := by
  intro l
  have started : l.executions r ≤ l.started.count r.cmd :=
    (SlopeLink.refines stmTicksPerMs actions).delivered_sublist.count_le r.cmd
  have initial : (SlopeLink.fresh stmTicksPerMs).WithinBudget r :=
    ⟨rfl, slopeUartCmdIsValid_none, Nat.zero_le _,
      fun latched => absurd latched r.none_ne_cmd⟩
  have budget : l.WithinBudget r := Runs.run_invariant (SlopeLink.WithinBudget r)
    (fun _ action budget => budget.step action) initial actions
  exact started.trans budget.paid

/-- One OPEN request. Every ACK of it is lost, the glue gives up after five
retries and starts the same OPEN again under the next sequence number. -/
def lostAckPath : List SlopeAction :=
  [.txPoll 0 0 0, .receive, .txPoll 1 0 0, .request .requestOpen, .txPoll 0 0 0, .receive,
    .loseAck 0, .txPoll 0 20 20, .receive, .loseAck 0, .txPoll 0 40 40, .receive, .loseAck 0,
    .txPoll 0 60 60, .receive, .loseAck 0, .txPoll 0 80 80, .receive, .loseAck 0,
    .txPoll 0 100 100, .receive, .loseAck 0, .txPoll 0 120 120, .receive]

/-- The slope module opens twice for one request. -/
theorem lost_acks_execute_twice :
    let l := SlopeLink.run (.fresh 1) lostAckPath
    l.requests = [.requestOpen] ∧ l.gaveUp = [slopeUartReqOpen] ∧
      l.executions .requestOpen = 2 := by
  decide +kernel

end SmartBusAccess.Uart
