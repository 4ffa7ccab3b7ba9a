import SmartBusAccess.Door.RampCommand

/-!
What the supervisor learns from the acknowledgements of the slope module.

`ackedBy` are the commands whose ACK the sender takes while a poll reads its bytes. There is at
most one, as only a frame that waits can be acknowledged, and the success slot hands it on
before the next (`RampInv.succeeded_eq`). So the ramp estimate is the last OPEN or CLOSE among
them.
-/

namespace SmartBusAccess.Uart.SlopeUartTc375

/-! ### Acknowledged frames -/

/-- The command of the frame whose ACK a byte completes, if `slopeUartSenderOnFrame` takes it. -/
def ackedByByte (g : SlopeUartTc375) (byte : UInt8) : Option UInt8 :=
  match (slopeUartParserFeed g.ackParser byte).2 with
  | .ok decoded =>
      (slopeUartSenderOnFrame g.sender decoded).map fun _ => g.sender.pendingFrame.cmd
  | _ => none

def ackedBy (g : SlopeUartTc375) : List UInt8 → List UInt8
  | [] => []
  | byte :: rest => (g.ackedByByte byte).toList ++ (slopeUartTc375ProcessRxByte g byte).ackedBy rest

/-- What bytes do to the glue, with the commands that they acknowledge. -/
inductive Read (g : SlopeUartTc375) : SlopeUartTc375 → List UInt8 → Prop where
  | heard (parser : UartParser) : Read g (g.heard parser) []
  | acknowledged (parser : UartParser) (busy : g.sender.waitingAck = true) :
      Read g (g.acknowledged parser) [g.sender.pendingFrame.cmd]

theorem processRxByte_read (g : SlopeUartTc375) (byte : UInt8) :
    Read g (slopeUartTc375ProcessRxByte g byte) (g.ackedByByte byte).toList := by
  unfold slopeUartTc375ProcessRxByte ackedByByte slopeUartParserFeed slopeUartSenderOnFrame
  rcases parserFeed g.ackParser byte with ⟨parser, rc⟩
  cases rc with
  | ok decoded =>
      cases result : senderOnFrame g.sender decoded with
      | none =>
          simp only [result]
          exact .heard parser
      | some sender =>
          obtain ⟨busy, -, -, rfl⟩ := senderOnFrame_cases result
          simp only [result]
          exact .acknowledged parser busy
  | none => exact .heard parser
  | error => exact .heard parser

theorem processRx_read (g : SlopeUartTc375) (rx : List UInt8) :
    Read g (slopeUartTc375ProcessRx g rx) (g.ackedBy rx) := by
  induction rx generalizing g with
  | nil => exact .heard g.ackParser
  | cons byte rest ih =>
      have later := ih (slopeUartTc375ProcessRxByte g byte)
      have here := processRxByte_read g byte
      have split : slopeUartTc375ProcessRx g (byte :: rest) =
          slopeUartTc375ProcessRx (slopeUartTc375ProcessRxByte g byte) rest := rfl
      rw [split, ackedBy]
      generalize slopeUartTc375ProcessRxByte g byte = g', (g.ackedByByte byte).toList = first
        at here later
      generalize slopeUartTc375ProcessRx g' rest = g'', g'.ackedBy rest = others at later
      cases here with
      | heard parser =>
          cases later with
          | heard parser' => exact .heard parser'
          | acknowledged parser' busy => exact .acknowledged parser' busy
      | acknowledged parser busy =>
          cases later with
          | heard parser' => exact .acknowledged parser' busy
          | acknowledged parser' again => cases again

variable {g : SlopeUartTc375}

/-- The retry and the sending part of a poll leave the success slot alone. -/
theorem txPoll_success (ready : g.initialized = true) (rx : List UInt8)
    (retryTicks sendTicks : UInt32) :
    (slopeUartTc375TxPoll g rx retryTicks sendTicks).1.txSuccessPending =
        (slopeUartTc375ProcessRx g rx).txSuccessPending ∧
      (slopeUartTc375TxPoll g rx retryTicks sendTicks).1.txSuccessCmd =
        (slopeUartTc375ProcessRx g rx).txSuccessCmd := by
  have retried (g : SlopeUartTc375) :
      (slopeUartTc375PollRetry g retryTicks).1.txSuccessPending = g.txSuccessPending ∧
        (slopeUartTc375PollRetry g retryTicks).1.txSuccessCmd = g.txSuccessCmd := by
    rcases pollRetry_cases g retryTicks with ⟨-, sender, retry, poll, -⟩ | ⟨-, -, poll⟩
    · rw [poll]
      exact ⟨rfl, rfl⟩
    · rw [poll]
      exact ⟨rfl, rfl⟩
  have sent (g : SlopeUartTc375) :
      (slopeUartTc375TrySendDesired g sendTicks).1.txSuccessPending = g.txSuccessPending ∧
        (slopeUartTc375TrySendDesired g sendTicks).1.txSuccessCmd = g.txSuccessCmd := by
    unfold slopeUartTc375TrySendDesired
    split
    · exact ⟨rfl, rfl⟩
    · split
      · exact ⟨rfl, rfl⟩
      · dsimp only
        split <;> exact ⟨rfl, rfl⟩
  simp only [slopeUartTc375TxPoll, ready, Bool.not_true, Bool.false_eq_true, if_false, sent,
    retried, and_self]

end SmartBusAccess.Uart.SlopeUartTc375

namespace SmartBusAccess.Door

open SmartBusAccess.Can SmartBusAccess.Uart SlopeUartTc375

/-! ### One poll -/

namespace DoorEcu

/-- What `slopeUartTc375ConsumeTxSuccess` returns in the poll. -/
def succeeded (s : DoorEcu) (i : PollInput) : Option UInt8 :=
  (slopeUartTc375ConsumeTxSuccess (s.txPoll i).1).map Prod.snd

/-- The commands whose ACK `slopeUartSenderOnFrame` takes in it. -/
def acked (s : DoorEcu) (i : PollInput) : List UInt8 := (s.atTxPoll i).slope.ackedBy i.slopeRx

end DoorEcu

variable {s : DoorEcu} {i : PollInput}

/-- The slot holds exactly the command that was acknowledged, and it is a valid one. -/
theorem RampInv.succeeded_eq (inv : RampInv s) (i : PollInput) :
    (s.succeeded i).toList = s.acked i ∧ ∀ cmd ∈ s.succeeded i, slopeUartCmdIsValid cmd = true := by
  obtain ⟨pending, cmd⟩ :=
    txPoll_success inv.coherent.initialized i.slopeRx i.retryTicks i.sendTicks
  have read := processRx_read s.slope i.slopeRx
  have slot := inv.slot
  unfold DoorEcu.succeeded DoorEcu.acked DoorEcu.txPoll slopeUartTc375ConsumeTxSuccess
  rw [atTxPoll_slope, pending, cmd]
  generalize slopeUartTc375ProcessRx s.slope i.slopeRx = g', s.slope.ackedBy i.slopeRx = acks
    at read
  cases read with
  | heard parser => simp [slot]
  | acknowledged parser busy =>
      have frame := inv.coherent.busy_frame busy
      have inflight := inv.coherent.busy_inflight busy
      simp [frame, inflight, inv.coherent.desired_valid]

theorem atTxPoll_estimate (s : DoorEcu) (i : PollInput) :
    (s.atTxPoll i).ctl.slopeOpenEstimated = s.ctl.slopeOpenEstimated := by
  obtain ⟨_, _, _, sensed⟩ := atJam_frame s i
  cases jam : (s.report i).jam with
  | true =>
      obtain ⟨_, _, _, cancelled⟩ := atTxPoll_jam jam
      rw [cancelled, cancelCloseSide_eq, sensed]
      rfl
  | false =>
      rw [atTxPoll_quiet jam, sensed]
      rfl

theorem runPolicy_estimate (s : DoorEcu) (ticks : UInt64) :
    (doorEcuControlRunPolicy s ticks).1.ctl.slopeOpenEstimated = s.ctl.slopeOpenEstimated := by
  obtain ⟨_, _, _, _, _, opened⟩ := policyDoorOpen_frame s ticks
  cases runPolicy_outcome s ticks with
  | doorClose due state report => rw [state, policyDoorClose_eq]; rfl
  | slopeClose noDoorClose due state report => rw [state]; rfl
  | slopeOpen noDoorClose noSlopeClose due state report => rw [state]; rfl
  | autoOpen noDoorClose noSlopeClose noSlopeOpen due state report =>
      rw [state, queueSlopeOpenAuto_eq, opened]
  | autoClose noDoorClose noSlopeClose noSlopeOpen notDue state report =>
      obtain ⟨_, _, closed, -⟩ := policyAutoClose_frame (doorEcuControlPolicyDoorOpen s ticks)
      rw [state, closed, opened]

theorem polled_estimate (s : DoorEcu) (i : PollInput) :
    (s.polled i).ctl.slopeOpenEstimated = (s.atPolicy i).ctl.slopeOpenEstimated := by
  obtain ⟨_, _, frame⟩ := polled_frame s i
  rw [frame]
  exact runPolicy_estimate (s.atPolicy i) i.policyTicks

/-- The estimate after a poll: what was acknowledged in it, if that was an OPEN or a CLOSE. -/
theorem RampInv.estimate (inv : RampInv s) (i : PollInput) :
    (s.polled i).ctl.slopeOpenEstimated =
      match s.succeeded i with
      | none => s.ctl.slopeOpenEstimated
      | some cmd =>
          if cmd = slopeUartReqOpen then true
          else if cmd = slopeUartReqClose then false
          else s.ctl.slopeOpenEstimated := by
  have before := atTxPoll_estimate s i
  have valid := (inv.succeeded_eq i).2
  rw [polled_estimate]
  unfold DoorEcu.atPolicy
  unfold DoorEcu.succeeded slopeUartTc375ConsumeTxSuccess at valid ⊢
  rcases handleSlopeTxSuccess_cases { s.atTxPoll i with slope := (s.txPoll i).1 } with
      ⟨empty, same⟩ | ⟨full, acked⟩
  · have empty : (s.txPoll i).1.txSuccessPending = false := empty
    simp [same, empty, before]
  · have full : (s.txPoll i).1.txSuccessPending = true := full
    simp only [full, Bool.not_true, Bool.false_eq_true, if_false, Option.map_some,
      Option.mem_some_iff, forall_eq'] at valid ⊢
    rw [acked]
    rcases slopeUartCmdIsValid_cases valid with none | toOpen | toClose
    · simp [none, slopeTxSucceeded_none, before, slopeUartReqNone_ne_open,
        slopeUartReqNone_ne_close]
    · simp [toOpen, slopeTxSucceeded_open]
    · simp [toClose, slopeTxSucceeded_close, slopeUartReqOpen_ne_close.symm]

/-- The next poll of an idle glue that holds OPEN or CLOSE starts it. -/
theorem RampInv.starts (inv : RampInv s) (idle : s.slope.sender.waitingAck = false)
    (latched : s.slope.desiredCmd ≠ slopeUartReqNone) (i : PollInput) :
    (s.report i).tx.startedCmd = some s.slope.desiredCmd := by
  obtain ⟨outcome, -⟩ := inv.txPoll i
  generalize (s.txPoll i).1 = g', (s.report i).tx = report at outcome
  cases outcome with
  | acked parser busy => simp [busy] at idle
  | waiting parser sender retry busy still frame goesOn => simp [busy] at idle
  | restarted parser nowMs busy => simp [busy] at idle
  | quiet parser still queued => exact absurd (inv.coherent.idle_queued_none still queued) latched
  | started parser nowMs still new => rfl

/-! ### Runs -/

/-- The OPEN and CLOSE commands among those acknowledged. -/
def rampCommands (acked : List UInt8) : List UInt8 :=
  acked.filter fun cmd => cmd == slopeUartReqOpen || cmd == slopeUartReqClose

/-- The commands that are acknowledged in a run, in order. -/
def DoorEcu.ackedIn (init : InitInput) (inputs : List PollInput) : List UInt8 :=
  (DoorEcu.polls init inputs).flatMap fun p => p.1.acked p.2

def DoorEcu.succeededIn (init : InitInput) (inputs : List PollInput) : List UInt8 :=
  (DoorEcu.polls init inputs).flatMap fun p => (p.1.succeeded p.2).toList

/-- The estimate is what was acknowledged last. -/
def EstimateTied (s : DoorEcu) (acked : List UInt8) : Prop :=
  RampInv s ∧ (s.ctl.slopeOpenEstimated = true ↔
    (rampCommands acked).getLast? = some slopeUartReqOpen)

theorem EstimateTied.polled {past : List UInt8} (tied : EstimateTied s past) (i : PollInput) :
    EstimateTied (s.polled i) (past ++ s.acked i) := by
  obtain ⟨inv, tied⟩ := tied
  refine ⟨inv.polled i, ?_⟩
  obtain ⟨same, -⟩ := inv.succeeded_eq i
  rw [inv.estimate, ← same, rampCommands, List.filter_append]
  cases s.succeeded i with
  | none => simpa [rampCommands] using tied
  | some cmd =>
      by_cases toOpen : cmd = slopeUartReqOpen
      · simp [toOpen]
      · by_cases toClose : cmd = slopeUartReqClose
        · simp [toClose]
        · simpa [toOpen, toClose, rampCommands] using tied

/-- Over any run of polls from initialisation: while the sender is busy the command in flight
is that of its frame; the commands taken from the success slot are those acknowledged; the
ramp is estimated open exactly when the last OPEN or CLOSE of them was OPEN; and a command
left latched in an idle glue is started in the next poll. -/
theorem ramp_bookkeeping_follows_acks (init : InitInput) (inputs : List PollInput) :
    ((DoorEcu.run init inputs).slope.sender.waitingAck = true →
        (DoorEcu.run init inputs).slope.inflightCmd =
          (DoorEcu.run init inputs).slope.sender.pendingFrame.cmd) ∧
      DoorEcu.succeededIn init inputs = DoorEcu.ackedIn init inputs ∧
      ((DoorEcu.run init inputs).ctl.slopeOpenEstimated = true ↔
        (rampCommands (DoorEcu.ackedIn init inputs)).getLast? = some slopeUartReqOpen) ∧
      ((DoorEcu.run init inputs).slope.sender.waitingAck = false →
        (DoorEcu.run init inputs).slope.desiredCmd = slopeUartReqOpen ∨
            (DoorEcu.run init inputs).slope.desiredCmd = slopeUartReqClose →
          ∀ next, ((DoorEcu.run init inputs).report next).tx.startedCmd =
            some (DoorEcu.run init inputs).slope.desiredCmd) := by
  have inv := rampInv_run init inputs
  refine ⟨?_, ?_, ?_, ?_⟩
  · intro busy
    rw [inv.coherent.busy_inflight busy, inv.coherent.busy_frame busy]
  · have each := Runs.steps_invariant RampInv (fun _ i inv => inv.polled i) (RampInv.init init)
      inputs
    exact List.flatMap_congr fun p mem => ((each p mem).succeeded_eq p.2).1
  · have start : EstimateTied (doorEcuControlInit init) [] := by
      refine ⟨RampInv.init init, ?_⟩
      simp [rampCommands, doorEcuControlInit, doorEcuControlResetState]
    have tied := Runs.run_history EstimateTied DoorEcu.acked
      (fun s past i tied => tied.polled i) start inputs
    rw [List.nil_append] at tied
    exact tied.2
  · intro idle latched next
    refine inv.starts idle ?_ next
    rcases latched with toOpen | toClose
    · rw [toOpen]
      decide
    · rw [toClose]
      decide

end SmartBusAccess.Door
