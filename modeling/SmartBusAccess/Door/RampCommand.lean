import SmartBusAccess.Door.Poll

/-!
From the policy's decision to the slope UART.

The supervisor keeps one pending ramp command, the glue one latched command.
`RampInv` is what every poll keeps of the two: in particular an idle sender holds
exactly the pending command.

* `RampInv.atPolicy`: an acknowledgement is the only way the slope UART changes the
  supervisor's side.
* `RampInv.polled`, `rampInv_run`: the invariant is kept.
-/

namespace SmartBusAccess.Door

open SmartBusAccess.Can SmartBusAccess.Uart SlopeUartTc375

/-! ### Acknowledged commands -/

theorem slopeTxSucceeded_none (c : DoorEcuControlState) :
    doorEcuControlSlopeTxSucceeded c slopeUartReqNone = doorEcuControlRefreshStatusShadow c := rfl

theorem slopeTxSucceeded_open (c : DoorEcuControlState) :
    doorEcuControlSlopeTxSucceeded c slopeUartReqOpen = doorEcuControlRefreshStatusShadow
      { c with
        slopeOpenEstimated := true
        slopeTxPending :=
          if c.slopeTxPending = slopeUartReqOpen then slopeUartReqNone else c.slopeTxPending } := by
  have slopeReq : slopeUartCmdGetSlope slopeUartReqOpen = slopeUartReqOpen := rfl
  have other : (slopeUartReqOpen == slopeUartReqClose) = false := rfl
  by_cases pending : c.slopeTxPending = slopeUartReqOpen
  · simp [doorEcuControlSlopeTxSucceeded, slopeReq, pending]
  · simp [doorEcuControlSlopeTxSucceeded, slopeReq, other, pending]

theorem slopeTxSucceeded_close (c : DoorEcuControlState) :
    doorEcuControlSlopeTxSucceeded c slopeUartReqClose = doorEcuControlRefreshStatusShadow
      { c with
        slopeOpenEstimated := false
        slopeTxPending :=
          if c.slopeTxPending = slopeUartReqClose then slopeUartReqNone else c.slopeTxPending } := by
  have slopeReq : slopeUartCmdGetSlope slopeUartReqClose = slopeUartReqClose := rfl
  have other : (slopeUartReqClose == slopeUartReqOpen) = false := rfl
  by_cases pending : c.slopeTxPending = slopeUartReqClose
  · simp [doorEcuControlSlopeTxSucceeded, slopeReq, other, pending]
  · simp [doorEcuControlSlopeTxSucceeded, slopeReq, other, pending]

/-! ### Before the slope UART -/

/-- Until the slope UART is polled the glue is untouched, and the pending command
is only ever cancelled, by the jam handler. -/
theorem atTxPoll_slope (s : DoorEcu) (i : PollInput) : (s.atTxPoll i).slope = s.slope := by
  obtain ⟨ble, can, requested⟩ := requested_eq s i
  obtain ⟨_, _, _, sensed⟩ := updateSensors_frame (s.requested i) i.obstacle i.estimateTicks
  unfold DoorEcu.atTxPoll doorEcuControlHandleJamDuringClosing DoorEcu.atJam
  rw [sensed, requested]
  split <;> rfl

theorem atJam_slope (s : DoorEcu) (i : PollInput) : (s.atJam i).slope = s.slope := by
  obtain ⟨ble, can, requested⟩ := requested_eq s i
  obtain ⟨_, _, _, sensed⟩ := updateSensors_frame (s.requested i) i.obstacle i.estimateTicks
  unfold DoorEcu.atJam
  rw [sensed, requested]

/-- The ramp side of the supervisor when the jam handler runs: the requests of
the poll have been entered. -/
theorem atJam_frame (s : DoorEcu) (i : PollInput) :
    ∃ estimate actuation status, (s.atJam i).ctl = { s.ctl.withRequests (s.report i) with
      doorOpenEstimated := estimate, lastDoorActuation := actuation, status := status } := by
  obtain ⟨ble, can, requested⟩ := requested_eq s i
  obtain ⟨_, _, _, sensed⟩ := updateSensors_frame (s.requested i) i.obstacle i.estimateTicks
  unfold DoorEcu.atJam
  rw [sensed, requested]
  exact ⟨_, _, _, rfl⟩

/-- A jam cancels the close side and nothing else of the ramp. -/
theorem atTxPoll_jam {s : DoorEcu} {i : PollInput} (jam : (s.report i).jam = true) :
    ∃ start actuation status, (s.atTxPoll i).ctl =
      { doorEcuControlCancelCloseSideRequests (s.atJam i).ctl with
        doorMotionStartMs := start, lastDoorActuation := actuation, status := status } := by
  rw [report_jam] at jam
  unfold DoorEcu.atTxPoll
  rw [handleJam_fires jam]
  exact ⟨_, _, _, rfl⟩

theorem atTxPoll_quiet {s : DoorEcu} {i : PollInput} (quiet : (s.report i).jam = false) :
    s.atTxPoll i = s.atJam i := by
  rw [report_jam] at quiet
  exact handleJam_quiet quiet _

/-! ### The invariant -/

/-- Between polls: the glue is coherent, its success slot empty, the pending
command valid, and an idle sender holds exactly that command. -/
structure RampInv (s : DoorEcu) : Prop where
  coherent : s.slope.Coherent
  slot : s.slope.txSuccessPending = false
  pending : slopeUartCmdIsValid s.ctl.slopeTxPending = true
  idle_latch : s.slope.sender.waitingAck = false → s.slope.desiredCmd = s.ctl.slopeTxPending

section Ramp

variable {s : DoorEcu} {i : PollInput}

theorem RampInv.init (init : InitInput) : RampInv (doorEcuControlInit init) where
  coherent := Coherent.txInit _ _
  slot := rfl
  pending := slopeUartCmdIsValid_none
  idle_latch := fun _ => rfl

/-- What the slope UART makes of a poll, and when it gives up. -/
theorem RampInv.txPoll (inv : RampInv s) (i : PollInput) :
    PollOutcome s.slope (s.txPoll i).1 (s.report i).tx ∧
      ((s.report i).tx.retry = .giveUp ↔ s.slope.giveUpDue i.slopeRx i.retryTicks = true) := by
  have outcome := txPoll_outcome inv.coherent.initialized inv.coherent.desired_valid i.slopeRx
    i.retryTicks i.sendTicks
  rw [report_tx]
  unfold DoorEcu.txPoll
  rwa [atTxPoll_slope]

/-- An acknowledgement of the latched command is all that the slope UART tells
the supervisor. The glue itself comes out as it went in, its slot emptied. -/
theorem RampInv.atPolicy (inv : RampInv s) (i : PollInput) :
    (s.atPolicy i).slope = { (s.txPoll i).1 with txSuccessPending := false } ∧
      ((s.atPolicy i).ctl = (s.atTxPoll i).ctl ∨
        (s.slope.sender.waitingAck = true ∧ (s.txPoll i).1.desiredCmd = slopeUartReqNone ∧
          (s.atPolicy i).ctl =
            doorEcuControlSlopeTxSucceeded (s.atTxPoll i).ctl s.slope.desiredCmd)) := by
  obtain ⟨outcome, -⟩ := inv.txPoll i
  unfold DoorEcu.atPolicy
  generalize (s.txPoll i).1 = g', (s.report i).tx = report at outcome
  rcases handleSlopeTxSuccess_cases { s.atTxPoll i with slope := g' } with
      ⟨empty, same⟩ | ⟨full, acked⟩
  · rw [same]
    have empty : g'.txSuccessPending = false := empty
    exact ⟨by rw [← empty], .inl rfl⟩
  · have full : g'.txSuccessPending = true := full
    rw [acked]
    refine ⟨rfl, .inr ?_⟩
    cases outcome with
    | acked parser busy => exact ⟨busy, rfl, by simp [inv.coherent.busy_inflight busy]⟩
    | waiting parser sender retry busy still frame goesOn => simp [inv.slot] at full
    | restarted parser nowMs busy => simp [inv.slot] at full
    | quiet parser idle queued => simp [inv.slot] at full
    | started parser nowMs idle new => simp [inv.slot] at full

/-- The policy decides with an empty latch in front of it. -/
theorem RampInv.atPolicy_slope (inv : RampInv s) (i : PollInput) :
    (s.atPolicy i).slope.Coherent ∧ (s.atPolicy i).slope.txSuccessPending = false ∧
      ((s.atPolicy i).slope.sender.waitingAck = false →
        (s.atPolicy i).slope.desiredCmd = slopeUartReqNone) := by
  obtain ⟨outcome, -⟩ := inv.txPoll i
  have coherent := outcome.coherent inv.coherent
  rw [(inv.atPolicy i).1]
  exact ⟨{ coherent with }, rfl, fun idle => outcome.idle_latch inv.coherent idle⟩

/-- Before the slope UART runs, the pending command can only be cancelled, by a jam. -/
theorem atTxPoll_pending (s : DoorEcu) (i : PollInput) :
    (s.atTxPoll i).ctl.slopeTxPending = s.ctl.slopeTxPending ∨
      (s.ctl.slopeTxPending = slopeUartReqClose ∧
        (s.atTxPoll i).ctl.slopeTxPending = slopeUartReqNone) := by
  obtain ⟨_, _, _, sensed⟩ := atJam_frame s i
  cases jam : (s.report i).jam with
  | true =>
      obtain ⟨_, _, _, cancelled⟩ := atTxPoll_jam jam
      rw [cancelled, cancelCloseSide_eq, sensed]
      dsimp only [DoorEcuControlState.withRequests_slopeTxPending]
      by_cases close : s.ctl.slopeTxPending = slopeUartReqClose
      · exact .inr ⟨close, if_pos close⟩
      · exact .inl (if_neg close)
  | false =>
      rw [atTxPoll_quiet jam, sensed]
      exact .inl rfl

theorem atTxPoll_pending_valid (i : PollInput)
    (valid : slopeUartCmdIsValid s.ctl.slopeTxPending = true) :
    slopeUartCmdIsValid (s.atTxPoll i).ctl.slopeTxPending = true := by
  rcases atTxPoll_pending s i with same | ⟨-, none⟩
  · rw [same]
    exact valid
  · rw [none]
    exact slopeUartCmdIsValid_none

/-! ### The policy's side of the ramp -/

/-- The policy never touches the glue. -/
theorem runPolicy_slope (s : DoorEcu) (ticks : UInt64) :
    (doorEcuControlRunPolicy s ticks).1.slope = s.slope := by
  obtain ⟨_, _, _, _, _, opened⟩ := policyDoorOpen_frame s ticks
  cases runPolicy_outcome s ticks with
  | doorClose due state report => rw [state, policyDoorClose_eq]; rfl
  | slopeClose noDoorClose due state report => rw [state]
  | slopeOpen noDoorClose noSlopeClose due state report => rw [state]
  | autoOpen noDoorClose noSlopeClose noSlopeOpen due state report => rw [state, opened]
  | autoClose noDoorClose noSlopeClose noSlopeOpen notDue state report =>
      obtain ⟨_, _, closed, -⟩ := policyAutoClose_frame (doorEcuControlPolicyDoorOpen s ticks)
      rw [state, closed, opened]

theorem runPolicy_pending_valid (valid : slopeUartCmdIsValid s.ctl.slopeTxPending = true)
    (ticks : UInt64) :
    slopeUartCmdIsValid (doorEcuControlRunPolicy s ticks).1.ctl.slopeTxPending = true := by
  obtain ⟨_, _, _, _, _, opened⟩ := policyDoorOpen_frame s ticks
  cases runPolicy_outcome s ticks with
  | doorClose due state report =>
      rw [state, policyDoorClose_eq]
      exact slopeUartCmdIsValid_close
  | slopeClose noDoorClose due state report =>
      rw [state]
      exact slopeUartCmdIsValid_close
  | slopeOpen noDoorClose noSlopeClose due state report =>
      rw [state]
      exact slopeUartCmdIsValid_open
  | autoOpen noDoorClose noSlopeClose noSlopeOpen due state report =>
      rw [state, queueSlopeOpenAuto_eq, opened]
      dsimp only
      split
      · exact valid
      · exact slopeUartCmdIsValid_open
  | autoClose noDoorClose noSlopeClose noSlopeOpen notDue state report =>
      rcases policyAutoClose_frame (doorEcuControlPolicyDoorOpen s ticks) with
          ⟨_, _, closed, kept | close, -⟩
      · rw [state, closed, kept, opened]
        exact valid
      · rw [state, closed, close]
        exact slopeUartCmdIsValid_close

/-! ### The invariant is kept -/

theorem RampInv.atPolicy_pending (inv : RampInv s) (i : PollInput) :
    slopeUartCmdIsValid (s.atPolicy i).ctl.slopeTxPending = true := by
  have valid := atTxPoll_pending_valid i inv.pending
  rcases (inv.atPolicy i).2 with same | ⟨-, -, acked⟩
  · rwa [same]
  · rw [acked]
    rcases slopeTxSucceeded_frame (s.atTxPoll i).ctl s.slope.desiredCmd with
        ⟨_, _, succeeded, kept | none⟩
    · rw [succeeded, kept]
      exact valid
    · rw [succeeded, none]
      exact slopeUartCmdIsValid_none

theorem RampInv.decided_pending (inv : RampInv s) (i : PollInput) :
    slopeUartCmdIsValid (s.decided i).ctl.slopeTxPending = true :=
  runPolicy_pending_valid (inv.atPolicy_pending i) i.policyTicks

/-- The pending command ends up latched in an idle glue, or waits for a busy one. -/
theorem RampInv.polled (inv : RampInv s) (i : PollInput) : RampInv (s.polled i) := by
  obtain ⟨coherent, slot, empty⟩ := inv.atPolicy_slope i
  rw [← runPolicy_slope (s.atPolicy i) i.policyTicks] at coherent slot empty
  have valid := inv.decided_pending i
  obtain ⟨_, _, frame⟩ := polled_frame s i
  rw [frame]
  rcases issue_cases (s.decided i) with
      ⟨same, busy | ⟨notOpen, notClose⟩⟩ | ⟨idle, toOpen, latched⟩ | ⟨idle, toClose, latched⟩
  · rw [same]
    exact ⟨coherent, slot, valid, fun idle => by simp [busy] at idle⟩
  · rw [same]
    have none : (s.decided i).ctl.slopeTxPending = slopeUartReqNone := by
      simpa [notOpen, notClose] using slopeUartCmdIsValid_cases valid
    exact ⟨coherent, slot, valid, fun idle => (empty idle).trans none.symm⟩
  · rw [latched]
    exact ⟨coherent.request idle slopeUartCmdIsValid_open, slot, valid, fun _ => toOpen.symm⟩
  · rw [latched]
    exact ⟨coherent.request idle slopeUartCmdIsValid_close, slot, valid, fun _ => toClose.symm⟩

theorem rampInv_run (init : InitInput) (inputs : List PollInput) :
    RampInv (DoorEcu.run init inputs) :=
  Runs.run_invariant RampInv (fun _ i inv => inv.polled i) (RampInv.init init) inputs

end Ramp

end SmartBusAccess.Door
