import Mathlib.Data.List.Induction
import SmartBusAccess.Uart.Arq

/-!
The door ECU's side of the slope UART (`slope_uart_tc375_lite.c`): one latched
command, one sender, one success slot.

The serial port is not modelled: a poll is given the bytes it reads and the
two 32-bit timer readings it takes, and reports the frames it writes. The debug
counters are left out; no function reads them.

* `txPoll_outcome`: the five things one poll can come to (`PollOutcome`).
* `Coherent`: the relation between the latched command, the command in flight and
  the last one queued that every poll keeps.
-/

namespace SmartBusAccess.Uart

structure SlopeUartTc375 where
  ticksPerMs : UInt32
  sender : UartSender
  ackParser : UartParser
  initialized : Bool
  desiredCmd : UInt8
  lastQueuedCmd : UInt8
  txSuccessPending : Bool
  txSuccessCmd : UInt8
  inflightCmd : UInt8
deriving DecidableEq, Repr

/-- Forces the next `TrySendDesired` to send whatever is latched. -/
abbrev neverQueued : UInt8 := 0xFF

/-- The static variables before `slopeUartTc375TxInit`. -/
def SlopeUartTc375.boot : SlopeUartTc375 :=
  ⟨0, .zero, parserInit, false, slopeUartReqNone, neverQueued, false, slopeUartReqNone,
    slopeUartReqNone⟩

/-- `stmTicksPerMs` is the STM frequency divided by 1000, as a `uint32_t`. -/
def slopeUartTc375TxInit (g : SlopeUartTc375) (stmTicksPerMs : UInt32) : SlopeUartTc375 :=
  { g with
    ticksPerMs := if stmTicksPerMs == 0 then 1 else stmTicksPerMs
    sender := slopeUartSenderInit g.sender defaultAckTimeoutMs defaultRetryLimit
    ackParser := slopeUartParserInit
    desiredCmd := slopeUartMakeCmd slopeUartReqNone
    lastQueuedCmd := neverQueued
    initialized := true }

def slopeUartTc375GetTickMs (g : SlopeUartTc375) (stmTicks : UInt32) : UInt32 :=
  stmTicks / g.ticksPerMs

/-- The body of the receive loop, for one byte read. -/
def slopeUartTc375ProcessRxByte (g : SlopeUartTc375) (byte : UInt8) : SlopeUartTc375 :=
  let (parser, rc) := slopeUartParserFeed g.ackParser byte
  let g := { g with ackParser := parser }
  match rc with
  | .ok decoded =>
      match slopeUartSenderOnFrame g.sender decoded with
      | some sender =>
          { g with
            sender := sender
            txSuccessPending := true
            txSuccessCmd := g.inflightCmd
            desiredCmd := slopeUartMakeCmd slopeUartReqNone
            lastQueuedCmd := slopeUartMakeCmd slopeUartReqNone }
      | none => g
  | _ => g

def slopeUartTc375ProcessRx (g : SlopeUartTc375) (rx : List UInt8) : SlopeUartTc375 :=
  rx.foldl slopeUartTc375ProcessRxByte g

def slopeUartTc375PollRetry (g : SlopeUartTc375) (stmTicks : UInt32) :
    SlopeUartTc375 × SenderPollResult :=
  let nowMs := slopeUartTc375GetTickMs g stmTicks
  match slopeUartSenderPoll g.sender nowMs with
  | (sender, .resend frame) => ({ g with sender := sender }, .resend frame)
  | (sender, .giveUp) => ({ g with sender := sender, lastQueuedCmd := neverQueued }, .giveUp)
  | (sender, .none) => ({ g with sender := sender }, .none)

/-- With the frame it writes, when it starts one. -/
def slopeUartTc375TrySendDesired (g : SlopeUartTc375) (stmTicks : UInt32) :
    SlopeUartTc375 × Option UartFrame :=
  if slopeUartSenderIsBusy g.sender then (g, none)
  else if g.desiredCmd == g.lastQueuedCmd then (g, none)
  else
    let nowMs := slopeUartTc375GetTickMs g stmTicks
    match slopeUartSenderStart g.sender g.desiredCmd nowMs with
    | some (sender, frame) =>
        ({ g with sender := sender, inflightCmd := g.desiredCmd, lastQueuedCmd := g.desiredCmd },
          some frame)
    | none => (g, none)

/-- What a poll wrote: the result of the retry poll, whose frame is written
again on a resend, and the first frame of a newly started command. -/
structure TxReport where
  retry : SenderPollResult
  started : Option UartFrame
deriving DecidableEq, Repr

/-- The command byte of the frame started in a poll. -/
def TxReport.startedCmd (r : TxReport) : Option UInt8 := r.started.map UartFrame.cmd

def slopeUartTc375TxPoll (g : SlopeUartTc375) (rx : List UInt8) (retryTicks sendTicks : UInt32) :
    SlopeUartTc375 × TxReport :=
  if !g.initialized then (g, ⟨.none, none⟩)
  else
    let g := slopeUartTc375ProcessRx g rx
    let (g, retry) := slopeUartTc375PollRetry g retryTicks
    let (g, started) := slopeUartTc375TrySendDesired g sendTicks
    (g, ⟨retry, started⟩)

def slopeUartTc375RequestNone (g : SlopeUartTc375) : SlopeUartTc375 :=
  { g with desiredCmd := slopeUartMakeCmd slopeUartReqNone }

def slopeUartTc375RequestOpen (g : SlopeUartTc375) : SlopeUartTc375 :=
  { g with desiredCmd := slopeUartMakeCmd slopeUartReqOpen }

def slopeUartTc375RequestClose (g : SlopeUartTc375) : SlopeUartTc375 :=
  { g with desiredCmd := slopeUartMakeCmd slopeUartReqClose }

def slopeUartTc375TxIsBusy (g : SlopeUartTc375) : Bool := slopeUartSenderIsBusy g.sender

def slopeUartTc375ConsumeTxSuccess (g : SlopeUartTc375) : Option (SlopeUartTc375 × UInt8) :=
  if !g.txSuccessPending then none
  else some ({ g with txSuccessPending := false }, g.txSuccessCmd)

/-! ### What one poll does -/

namespace SlopeUartTc375

/-- Bytes were read, and nothing else happened. -/
@[simps] def heard (g : SlopeUartTc375) (parser : UartParser) : SlopeUartTc375 :=
  { g with ackParser := parser }

/-- A matching acknowledgement was among the bytes. -/
@[simps] def acknowledged (g : SlopeUartTc375) (parser : UartParser) : SlopeUartTc375 :=
  { g with
    ackParser := parser
    sender := { g.sender with waitingAck := false }
    txSuccessPending := true
    txSuccessCmd := g.inflightCmd
    desiredCmd := slopeUartReqNone
    lastQueuedCmd := slopeUartReqNone }

@[simps] def withSender (g : SlopeUartTc375) (sender : UartSender) : SlopeUartTc375 :=
  { g with sender := sender }

/-- The outstanding frame was given up. -/
@[simps] def abandoned (g : SlopeUartTc375) : SlopeUartTc375 :=
  { g with sender := { g.sender with waitingAck := false }, lastQueuedCmd := neverQueued }

/-- The latched command was started. -/
@[simps] def begun (g : SlopeUartTc375) (nowMs : UInt32) : SlopeUartTc375 :=
  { g with
    sender := { g.sender with
      nextSeq := g.sender.nextSeq + 1
      pendingFrame := encodeData g.sender.nextSeq g.desiredCmd
      waitingAck := true
      pendingSeq := g.sender.nextSeq
      retryCount := 0
      lastTxMs := nowMs }
    inflightCmd := g.desiredCmd
    lastQueuedCmd := g.desiredCmd }

variable {g : SlopeUartTc375}

theorem withSender_self (g : SlopeUartTc375) : g.withSender g.sender = g := rfl

/-- One byte acknowledges the outstanding frame or changes the parser only. -/
theorem processRxByte_cases (g : SlopeUartTc375) (byte : UInt8) :
    ∃ parser, slopeUartTc375ProcessRxByte g byte = g.heard parser ∨
      (g.sender.waitingAck = true ∧ slopeUartTc375ProcessRxByte g byte = g.acknowledged parser) := by
  unfold slopeUartTc375ProcessRxByte slopeUartParserFeed slopeUartSenderOnFrame
  cases fed : parserFeed g.ackParser byte with
  | mk parser rc =>
      refine ⟨parser, ?_⟩
      cases rc with
      | ok decoded =>
          cases result : senderOnFrame g.sender decoded with
          | none => exact .inl (by simp [result, heard])
          | some sender =>
              obtain ⟨busy, -, -, rfl⟩ := senderOnFrame_cases result
              exact .inr ⟨busy, by simp [result, acknowledged, slopeUartMakeCmd]⟩
      | none => exact .inl rfl
      | error => exact .inl rfl

/-- The received bytes acknowledge at most one frame, and only a waiting one. -/
theorem processRx_cases (g : SlopeUartTc375) (rx : List UInt8) :
    ∃ parser, slopeUartTc375ProcessRx g rx = g.heard parser ∨
      (g.sender.waitingAck = true ∧ slopeUartTc375ProcessRx g rx = g.acknowledged parser) := by
  unfold slopeUartTc375ProcessRx
  induction rx using List.reverseRecOn with
  | nil => exact ⟨g.ackParser, .inl rfl⟩
  | append_singleton rx byte ih =>
      rw [List.foldl_append, List.foldl_cons, List.foldl_nil]
      rcases ih with ⟨parser, same | ⟨busy, acked⟩⟩
      · rw [same]
        rcases processRxByte_cases (g.heard parser) byte with ⟨parser', same | ⟨busy, acked⟩⟩
        · exact ⟨parser', .inl same⟩
        · exact ⟨parser', .inr ⟨busy, acked⟩⟩
      · rw [acked]
        rcases processRxByte_cases (g.acknowledged parser) byte with ⟨parser', same | ⟨again, -⟩⟩
        · exact ⟨parser', .inr ⟨busy, same⟩⟩
        · simp at again

/-- The poll finds its outstanding frame unacknowledged, out of time and out of retries. -/
def giveUpDue (g : SlopeUartTc375) (rx : List UInt8) (retryTicks : UInt32) : Bool :=
  (slopeUartTc375ProcessRx g rx).sender.giveUpDue (slopeUartTc375GetTickMs g retryTicks)

theorem pollRetry_cases (g : SlopeUartTc375) (ticks : UInt32) :
    (g.sender.giveUpDue (slopeUartTc375GetTickMs g ticks) = false ∧ ∃ sender retry,
      slopeUartTc375PollRetry g ticks = (g.withSender sender, retry) ∧ retry ≠ .giveUp ∧
      sender.waitingAck = g.sender.waitingAck ∧ sender.pendingFrame = g.sender.pendingFrame ∧
      (g.sender.waitingAck = false → sender = g.sender ∧ retry = .none)) ∨
    (g.sender.giveUpDue (slopeUartTc375GetTickMs g ticks) = true ∧ g.sender.waitingAck = true ∧
      slopeUartTc375PollRetry g ticks = (g.abandoned, .giveUp)) := by
  unfold slopeUartTc375PollRetry slopeUartSenderPoll
  rcases senderPoll_cases g.sender (slopeUartTc375GetTickMs g ticks) with
      ⟨notDue, poll⟩ | ⟨busy, notDue, poll⟩ | ⟨busy, due, poll⟩
  · simp only [poll]
    exact .inl ⟨notDue, g.sender, .none, rfl, by simp, rfl, rfl, fun _ => ⟨rfl, rfl⟩⟩
  · simp only [poll]
    exact .inl ⟨notDue, _, _, rfl, by simp, rfl, rfl, fun idle => by simp [busy] at idle⟩
  · simp only [poll]
    exact .inr ⟨due, busy, rfl⟩

theorem trySendDesired_busy {ticks : UInt32} (busy : g.sender.waitingAck = true) :
    slopeUartTc375TrySendDesired g ticks = (g, none) := by
  simp [slopeUartTc375TrySendDesired, senderIsBusy, busy]

theorem trySendDesired_queued {ticks : UInt32} (queued : g.desiredCmd = g.lastQueuedCmd) :
    slopeUartTc375TrySendDesired g ticks = (g, none) := by
  simp [slopeUartTc375TrySendDesired, queued]

theorem trySendDesired_new {ticks : UInt32} (idle : g.sender.waitingAck = false)
    (valid : slopeUartCmdIsValid g.desiredCmd = true) (new : g.desiredCmd ≠ g.lastQueuedCmd) :
    slopeUartTc375TrySendDesired g ticks = (g.begun (slopeUartTc375GetTickMs g ticks),
      some (encodeData g.sender.nextSeq g.desiredCmd)) := by
  simp [slopeUartTc375TrySendDesired, senderIsBusy, idle, new, senderStart_idle _ idle valid, begun]

theorem trySendDesired_cases (g : SlopeUartTc375) (ticks : UInt32) :
    slopeUartTc375TrySendDesired g ticks = (g, none) ∨
    ∃ sender frame, senderStart slopeUartCmdIsValid g.sender g.desiredCmd
        (slopeUartTc375GetTickMs g ticks) = some (sender, frame) ∧
      slopeUartTc375TrySendDesired g ticks =
        ({ g with sender := sender, inflightCmd := g.desiredCmd, lastQueuedCmd := g.desiredCmd },
          some frame) := by
  unfold slopeUartTc375TrySendDesired slopeUartSenderStart
  split
  · exact .inl rfl
  · split
    · exact .inl rfl
    · cases start : senderStart slopeUartCmdIsValid g.sender g.desiredCmd
          (slopeUartTc375GetTickMs g ticks) with
      | none => exact .inl (by simp [start])
      | some out => exact .inr ⟨out.1, out.2, rfl, by simp [start]⟩

/-- What a poll can come to. `waiting` covers a resend and a poll before the timeout. -/
inductive PollOutcome (g : SlopeUartTc375) : SlopeUartTc375 → TxReport → Prop where
  | acked (parser : UartParser) (busy : g.sender.waitingAck = true) :
      PollOutcome g (g.acknowledged parser) ⟨.none, none⟩
  | waiting (parser : UartParser) (sender : UartSender) (retry : SenderPollResult)
      (busy : g.sender.waitingAck = true) (still : sender.waitingAck = true)
      (frame : sender.pendingFrame = g.sender.pendingFrame) (goesOn : retry ≠ .giveUp) :
      PollOutcome g ((g.heard parser).withSender sender) ⟨retry, none⟩
  | restarted (parser : UartParser) (nowMs : UInt32) (busy : g.sender.waitingAck = true) :
      PollOutcome g ((g.heard parser).abandoned.begun nowMs)
        ⟨.giveUp, some (encodeData g.sender.nextSeq g.desiredCmd)⟩
  | quiet (parser : UartParser) (idle : g.sender.waitingAck = false)
      (queued : g.desiredCmd = g.lastQueuedCmd) :
      PollOutcome g (g.heard parser) ⟨.none, none⟩
  | started (parser : UartParser) (nowMs : UInt32) (idle : g.sender.waitingAck = false)
      (new : g.desiredCmd ≠ g.lastQueuedCmd) :
      PollOutcome g ((g.heard parser).begun nowMs)
        ⟨.none, some (encodeData g.sender.nextSeq g.desiredCmd)⟩

theorem valid_ne_neverQueued {cmd : UInt8} (valid : slopeUartCmdIsValid cmd = true) :
    cmd ≠ neverQueued := by
  rintro rfl
  exact absurd valid (by decide)

/-- Every poll of an initialised glue with a valid command latched comes to one
of the outcomes, and gives up exactly when a give-up is due. -/
theorem txPoll_outcome (ready : g.initialized = true)
    (valid : slopeUartCmdIsValid g.desiredCmd = true) (rx : List UInt8)
    (retryTicks sendTicks : UInt32) :
    PollOutcome g (slopeUartTc375TxPoll g rx retryTicks sendTicks).1
        (slopeUartTc375TxPoll g rx retryTicks sendTicks).2 ∧
      ((slopeUartTc375TxPoll g rx retryTicks sendTicks).2.retry = .giveUp ↔
        g.giveUpDue rx retryTicks = true) := by
  unfold slopeUartTc375TxPoll giveUpDue
  simp only [ready, Bool.not_true, Bool.false_eq_true, if_false]
  rcases processRx_cases g rx with ⟨parser, unanswered | ⟨busy, acked⟩⟩
  · rw [unanswered]
    rcases pollRetry_cases (g.heard parser) retryTicks with
        ⟨notDue, sender, retry, poll, goesOn, wait, frame, untouched⟩ | ⟨due, busy, poll⟩
    · have notDue : g.sender.giveUpDue (slopeUartTc375GetTickMs g retryTicks) = false := notDue
      cases busy : g.sender.waitingAck with
      | true =>
          rw [poll]
          have still : sender.waitingAck = true := wait.trans busy
          simp only [trySendDesired_busy (g := (g.heard parser).withSender sender) still]
          exact ⟨.waiting parser sender retry busy still frame goesOn, by simp [goesOn, notDue]⟩
      | false =>
          obtain ⟨rfl, rfl⟩ := untouched busy
          rw [poll, withSender_self]
          refine ⟨?_, by simp [notDue]⟩
          by_cases queued : g.desiredCmd = g.lastQueuedCmd
          · simp only [trySendDesired_queued (g := g.heard parser) queued]
            exact .quiet parser busy queued
          · simp only [trySendDesired_new (g := g.heard parser) busy valid queued]
            exact .started parser _ busy queued
    · have due : g.sender.giveUpDue (slopeUartTc375GetTickMs g retryTicks) = true := due
      rw [poll]
      simp only [trySendDesired_new (g := (g.heard parser).abandoned) rfl valid
        (valid_ne_neverQueued valid)]
      exact ⟨.restarted parser _ busy, by simp [due]⟩
  · rw [acked]
    rcases pollRetry_cases (g.acknowledged parser) retryTicks with
        ⟨notDue, sender, retry, poll, -, -, -, untouched⟩ | ⟨-, waiting, -⟩
    · obtain ⟨rfl, rfl⟩ := untouched rfl
      rw [poll, withSender_self]
      simp only [trySendDesired_queued (g := g.acknowledged parser) rfl]
      exact ⟨.acked parser busy, by simp [UartSender.giveUpDue]⟩
    · simp at waiting

/-- The latched command, the command in flight and the last one queued agree
while the sender waits; when it is idle nothing of the past is queued. -/
structure Coherent (g : SlopeUartTc375) : Prop where
  initialized : g.initialized = true
  desired_valid : slopeUartCmdIsValid g.desiredCmd = true
  busy_inflight : g.sender.waitingAck = true → g.inflightCmd = g.desiredCmd
  busy_queued : g.sender.waitingAck = true → g.lastQueuedCmd = g.desiredCmd
  busy_frame : g.sender.waitingAck = true → g.sender.pendingFrame.cmd = g.desiredCmd
  idle_queued : g.sender.waitingAck = false →
    g.lastQueuedCmd = neverQueued ∨ g.lastQueuedCmd = slopeUartReqNone

theorem Coherent.txInit (g : SlopeUartTc375) (stmTicksPerMs : UInt32) :
    (slopeUartTc375TxInit g stmTicksPerMs).Coherent where
  initialized := rfl
  desired_valid := slopeUartCmdIsValid_none
  busy_inflight := nofun
  busy_queued := nofun
  busy_frame := nofun
  idle_queued := fun _ => .inl rfl

/-- An idle glue takes any valid request. -/
theorem Coherent.request (coherent : g.Coherent) (idle : g.sender.waitingAck = false) {cmd : UInt8}
    (valid : slopeUartCmdIsValid cmd = true) :
    ({ g with desiredCmd := cmd } : SlopeUartTc375).Coherent where
  initialized := coherent.initialized
  desired_valid := valid
  busy_inflight := fun busy => by simp [idle] at busy
  busy_queued := fun busy => by simp [idle] at busy
  busy_frame := fun busy => by simp [idle] at busy
  idle_queued := coherent.idle_queued

/-- Only an empty latch counts as queued while the sender is idle. -/
theorem Coherent.idle_queued_none (coherent : g.Coherent) (idle : g.sender.waitingAck = false)
    (queued : g.desiredCmd = g.lastQueuedCmd) : g.desiredCmd = slopeUartReqNone := by
  rcases coherent.idle_queued idle with never | none
  · exact absurd (queued.trans never) (valid_ne_neverQueued coherent.desired_valid)
  · exact queued.trans none

theorem PollOutcome.coherent {g' : SlopeUartTc375} {report : TxReport}
    (outcome : PollOutcome g g' report) (coherent : g.Coherent) : g'.Coherent := by
  cases outcome with
  | acked parser busy =>
      exact ⟨coherent.initialized, slopeUartCmdIsValid_none, nofun, nofun, nofun, fun _ => .inr rfl⟩
  | waiting parser sender retry busy still frame goesOn =>
      constructor
      · exact coherent.initialized
      · exact coherent.desired_valid
      · exact fun _ => coherent.busy_inflight busy
      · exact fun _ => coherent.busy_queued busy
      · exact fun _ => frame ▸ coherent.busy_frame busy
      · simp [still]
  | restarted parser nowMs busy =>
      constructor <;> simp [coherent.initialized, coherent.desired_valid]
  | quiet parser idle queued =>
      exact { coherent with }
  | started parser nowMs idle new =>
      constructor <;> simp [coherent.initialized, coherent.desired_valid]

section Outcome

variable {g' : SlopeUartTc375} {report : TxReport}

/-- A poll keeps the latched command, or an acknowledgement has cleared it. -/
theorem PollOutcome.latch (outcome : PollOutcome g g' report) :
    g'.desiredCmd = g.desiredCmd ∨ g'.desiredCmd = slopeUartReqNone := by
  cases outcome with
  | acked parser busy => exact .inr rfl
  | waiting parser sender retry busy still frame goesOn => exact .inl rfl
  | restarted parser nowMs busy => exact .inl rfl
  | quiet parser idle queued => exact .inl rfl
  | started parser nowMs idle new => exact .inl rfl

/-- A poll that leaves the sender idle leaves nothing latched. -/
theorem PollOutcome.idle_latch (outcome : PollOutcome g g' report) (coherent : g.Coherent)
    (idle : g'.sender.waitingAck = false) : g'.desiredCmd = slopeUartReqNone := by
  cases outcome with
  | acked parser busy => rfl
  | waiting parser sender retry busy still frame goesOn => simp [still] at idle
  | restarted parser nowMs busy => simp at idle
  | quiet parser still queued => exact coherent.idle_queued_none still queued
  | started parser nowMs still new => simp at idle

/-- A poll starts nothing but the latched command. -/
theorem PollOutcome.startedCmd (outcome : PollOutcome g g' report) {cmd : UInt8}
    (started : report.startedCmd = some cmd) : cmd = g.desiredCmd := by
  cases outcome with
  | acked parser busy => simp [TxReport.startedCmd] at started
  | waiting parser sender retry busy still frame goesOn => simp [TxReport.startedCmd] at started
  | restarted parser nowMs busy => simpa [TxReport.startedCmd] using started.symm
  | quiet parser idle queued => simp [TxReport.startedCmd] at started
  | started parser nowMs idle new => simpa [TxReport.startedCmd] using started.symm

/-- After a give-up the latched command is started at once. -/
theorem PollOutcome.giveUp_starts (outcome : PollOutcome g g' report)
    (gaveUp : report.retry = .giveUp) : report.startedCmd = some g.desiredCmd := by
  cases outcome with
  | acked parser busy => simp at gaveUp
  | waiting parser sender retry busy still frame goesOn => exact absurd gaveUp goesOn
  | restarted parser nowMs busy => simp [TxReport.startedCmd]
  | quiet parser idle queued => simp at gaveUp
  | started parser nowMs idle new => simp at gaveUp

/-- An idle sender starts what is latched. -/
theorem PollOutcome.idle_starts (outcome : PollOutcome g g' report) (coherent : g.Coherent)
    (idle : g.sender.waitingAck = false) (latched : g.desiredCmd ≠ slopeUartReqNone) :
    report.startedCmd = some g.desiredCmd := by
  cases outcome with
  | acked parser busy => simp [busy] at idle
  | waiting parser sender retry busy still frame goesOn => simp [busy] at idle
  | restarted parser nowMs busy => simp [busy] at idle
  | quiet parser still queued => exact absurd (coherent.idle_queued_none still queued) latched
  | started parser nowMs still new => simp [TxReport.startedCmd]

end Outcome

end SlopeUartTc375

end SmartBusAccess.Uart
