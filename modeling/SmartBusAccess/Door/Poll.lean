import SmartBusAccess.Door.Control
import SmartBusAccess.Semantics.Runs

/-!
What each part of a poll does.

`atJam`, `atTxPoll`, `atPolicy` and `decided` are the states in which the poll
reaches the jam handler, the slope UART and the policy, and in which the policy
leaves it. The lemmas about them are all that later modules use of
`doorEcuControlPoll`.

* `requested_eq`: the requests of a poll, read off its report.
* `updateSensors_frame`, `handleSlopeTxSuccess_frame`, `polled_frame`: what a stage
  leaves alone.
* `runPolicy_outcome`: the five ways through the policy.
-/

namespace SmartBusAccess.Door

open SmartBusAccess.Can SmartBusAccess.Uart

/-! ### Runs -/

/-- The state after `doorEcuControlInit` and a sequence of polls. -/
abbrev DoorEcu.run (init : InitInput) (inputs : List PollInput) : DoorEcu :=
  Runs.run (Runs.next doorEcuControlPoll) (doorEcuControlInit init) inputs

/-- The polls of such a run, each with the state it starts in. -/
abbrev DoorEcu.polls (init : InitInput) (inputs : List PollInput) : List (DoorEcu × PollInput) :=
  Runs.steps (Runs.next doorEcuControlPoll) (doorEcuControlInit init) inputs

/-! ### A test bench -/

/-- A 100 MHz timer, everything initialised. -/
def bench : InitInput := ⟨100000000, 100000, true, 1500000, 0, .ok, 0⟩

/-- A poll `ms` milliseconds after power-up in which nothing arrives. -/
def quietPoll (ms : UInt32) : PollInput :=
  let ticks := 100000 * ms.toUInt64
  ⟨[], ticks, (.enodata, commandFrame 0), false, ticks, ticks, [], ticks.toUInt32, ticks.toUInt32,
    ticks, ticks, ticks, .ok⟩

/-- One in which the driver's command byte arrives. -/
def commandPoll (ms : UInt32) (payload : UInt8) : PollInput :=
  { quietPoll ms with canRx := (.ok, commandFrame payload) }

/-- One in which the slope module's acknowledgement arrives. -/
def ackPoll (ms : UInt32) (seq : UInt8) : PollInput :=
  { quietPoll ms with slopeRx := (encodeAck seq).bytes.toList }

/-! ### Requests in a report -/

namespace PollReport

variable (r : PollReport)

/-- A CAN request for the door was taken. -/
def doorAsked (q : DoorEcuRequest) : Bool :=
  r.canCmd.any fun cmd => decide (doorEcuMapDoorCommand cmd.doorCommand = q)

/-- A CAN request for the ramp was taken. -/
def rampAsked (q : DoorEcuRequest) (mode : DoorEcuSlopeControlMode) : Bool :=
  r.canCmd.any fun cmd => decide (doorEcuMapRampCommand cmd.rampCommand = q) &&
    decide (doorEcuMapRampMode cmd.rampManual = mode)

/-- A BLE command asking for the ramp to open was taken. -/
def bleOpen : Bool := r.bleCmd.any fun cmd => bleUartCmdGetSlope cmd == bleUartReqOpen

/-- Manual or automatic, from CAN or BLE. -/
def asksRampOpen : Bool :=
  r.rampAsked .requestOpen .manual || r.rampAsked .requestOpen .auto || r.bleOpen

/-- A door close or a ramp close, from CAN or BLE. The supervisor ignores the
BLE ones. -/
def asksClose : Bool :=
  r.doorAsked .requestClose || r.rampAsked .requestClose .manual ||
    r.rampAsked .requestClose .auto || r.bleCmd.any fun cmd =>
      bleUartCmdGetDoor cmd == bleUartReqClose || bleUartCmdGetSlope cmd == bleUartReqClose

end PollReport

/-- Every request of a report entered. A BLE open also clears the stocked close. -/
@[simps] def DoorEcuControlState.withRequests (c : DoorEcuControlState) (r : PollReport) :
    DoorEcuControlState :=
  { c with
    doorManualOpenPending := c.doorManualOpenPending || r.doorAsked .requestOpen
    doorManualClosePending := c.doorManualClosePending || r.doorAsked .requestClose
    slopeManualOpenPending := c.slopeManualOpenPending || r.rampAsked .requestOpen .manual
    slopeManualClosePending := c.slopeManualClosePending || r.rampAsked .requestClose .manual
    slopeAutoOpenStocked :=
      c.slopeAutoOpenStocked || r.bleOpen || r.rampAsked .requestOpen .auto
    slopeAutoCloseStocked :=
      (c.slopeAutoCloseStocked && !r.bleOpen) || r.rampAsked .requestClose .auto }

/-! ### The stages of a poll -/

namespace DoorEcu

/-- After both request sources. -/
def requested (s : DoorEcu) (i : PollInput) : DoorEcu :=
  (doorEcuControlPollCanCommand (doorEcuControlPollBleCommand s i.bleRx).1 i.canTicks i.canRx).1

def atJam (s : DoorEcu) (i : PollInput) : DoorEcu :=
  doorEcuControlUpdateSensors (s.requested i) i.obstacle i.estimateTicks

def atTxPoll (s : DoorEcu) (i : PollInput) : DoorEcu :=
  (doorEcuControlHandleJamDuringClosing (s.atJam i) i.jamTicks).1

/-- What the slope UART makes of the poll. -/
def txPoll (s : DoorEcu) (i : PollInput) : SlopeUartTc375 × TxReport :=
  slopeUartTc375TxPoll (s.atTxPoll i).slope i.slopeRx i.retryTicks i.sendTicks

def atPolicy (s : DoorEcu) (i : PollInput) : DoorEcu :=
  doorEcuControlHandleSlopeTxSuccess { s.atTxPoll i with slope := (s.txPoll i).1 }

def decided (s : DoorEcu) (i : PollInput) : DoorEcu :=
  (doorEcuControlRunPolicy (s.atPolicy i) i.policyTicks).1

/-- The report of the poll. -/
abbrev report (s : DoorEcu) (i : PollInput) : PollReport := (doorEcuControlPoll s i).2

/-- The state after the poll. -/
abbrev polled (s : DoorEcu) (i : PollInput) : DoorEcu := (doorEcuControlPoll s i).1

end DoorEcu

/-! ### Requests -/

theorem pollBle_frame (s : DoorEcu) (rx : List UInt8) :
    ∃ ble, (doorEcuControlPollBleCommand s rx).1 = { s with
      ble := ble
      ctl := { s.ctl with
        slopeAutoOpenStocked := s.ctl.slopeAutoOpenStocked ||
          (doorEcuControlPollBleCommand s rx).2.any (bleUartCmdGetSlope · == bleUartReqOpen)
        slopeAutoCloseStocked := s.ctl.slopeAutoCloseStocked &&
          !(doorEcuControlPollBleCommand s rx).2.any (bleUartCmdGetSlope · == bleUartReqOpen) } } := by
  unfold doorEcuControlPollBleCommand
  dsimp only
  cases bleUartTc375ConsumeCmd (bleUartTc375Poll s.ble rx).1 with
  | none => exact ⟨(bleUartTc375Poll s.ble rx).1, by simp⟩
  | some consumed =>
      dsimp only
      by_cases opens : bleUartCmdGetSlope consumed.2 = bleUartReqOpen
      · exact ⟨consumed.1, by simp [opens, doorEcuControlOnBleSlopeAutoRequest]⟩
      · exact ⟨consumed.1, by simp [beq_eq_false_iff_ne.mpr opens]⟩

theorem combinedRequest_eq (c : DoorEcuControlState) (door slope : DoorEcuRequest)
    (mode : DoorEcuSlopeControlMode) :
    doorEcuControlOnDriverCanCombinedRequest c door slope mode = { c with
      doorManualOpenPending := c.doorManualOpenPending || decide (door = .requestOpen)
      doorManualClosePending := c.doorManualClosePending || decide (door = .requestClose)
      slopeManualOpenPending := c.slopeManualOpenPending ||
        (decide (slope = .requestOpen) && decide (mode = .manual))
      slopeManualClosePending := c.slopeManualClosePending ||
        (decide (slope = .requestClose) && decide (mode = .manual))
      slopeAutoOpenStocked := c.slopeAutoOpenStocked ||
        (decide (slope = .requestOpen) && decide (mode = .auto))
      slopeAutoCloseStocked := c.slopeAutoCloseStocked ||
        (decide (slope = .requestClose) && decide (mode = .auto)) } := by
  cases door <;> cases slope <;> cases mode <;>
    simp [doorEcuControlOnDriverCanCombinedRequest, doorEcuControlOnDriverCanDoorManualRequest,
      doorEcuControlOnDriverCanSlopeRequest]

theorem pollCan_frame (s : DoorEcu) (ticks : UInt64) (received : CANStatus × CANFrame) :
    ∃ can, (doorEcuControlPollCanCommand s ticks received).1 = { s with
      can := can
      ctl := match (doorEcuControlPollCanCommand s ticks received).2 with
        | none => s.ctl
        | some cmd => doorEcuControlOnDriverCanCombinedRequest s.ctl
            (doorEcuMapDoorCommand cmd.doorCommand) (doorEcuMapRampCommand cmd.rampCommand)
            (doorEcuMapRampMode cmd.rampManual) } := by
  unfold doorEcuControlPollCanCommand
  split
  · exact ⟨s.can, rfl⟩
  · dsimp only
    split
    · exact ⟨_, rfl⟩
    · split <;> exact ⟨_, rfl⟩

/-- The requests a poll takes are those of its report. -/
theorem requested_eq (s : DoorEcu) (i : PollInput) :
    ∃ ble can, s.requested i =
      { s with ble := ble, can := can, ctl := s.ctl.withRequests (s.report i) } := by
  obtain ⟨ble, viaBle⟩ := pollBle_frame s i.bleRx
  obtain ⟨can, viaCan⟩ :=
    pollCan_frame (doorEcuControlPollBleCommand s i.bleRx).1 i.canTicks i.canRx
  have bleCmd : (s.report i).bleCmd = (doorEcuControlPollBleCommand s i.bleRx).2 := (rfl)
  have canCmd : (s.report i).canCmd = (doorEcuControlPollCanCommand
      (doorEcuControlPollBleCommand s i.bleRx).1 i.canTicks i.canRx).2 := (rfl)
  refine ⟨ble, can, ?_⟩
  unfold DoorEcu.requested
  rw [viaCan, ← canCmd]
  cases taken : (s.report i).canCmd with
  | none =>
      simp only [viaBle, ← bleCmd]
      simp [DoorEcuControlState.withRequests, PollReport.doorAsked, PollReport.rampAsked,
        PollReport.bleOpen, taken]
  | some cmd =>
      simp only [viaBle, ← bleCmd, combinedRequest_eq]
      simp [DoorEcuControlState.withRequests, PollReport.doorAsked, PollReport.rampAsked,
        PollReport.bleOpen, taken]

/-! ### Cancelling and acknowledging -/

theorem cancelCloseSide_eq (c : DoorEcuControlState) : doorEcuControlCancelCloseSideRequests c =
    { c with
      doorManualClosePending := false
      slopeManualClosePending := false
      slopeAutoCloseStocked := false
      slopeTxPending :=
        if c.slopeTxPending = slopeUartReqClose then slopeUartReqNone else c.slopeTxPending } := by
  unfold doorEcuControlCancelCloseSideRequests
  by_cases toClose : c.slopeTxPending = slopeUartReqClose
  · simp [toClose]
  · simp [toClose]

theorem cancelOpenSide_eq (c : DoorEcuControlState) : doorEcuControlCancelOpenSideRequests c =
    { c with
      doorManualOpenPending := false
      slopeManualOpenPending := false
      slopeAutoOpenStocked := false
      slopeTxPending :=
        if c.slopeTxPending = slopeUartReqOpen then slopeUartReqNone else c.slopeTxPending } := by
  unfold doorEcuControlCancelOpenSideRequests
  by_cases toOpen : c.slopeTxPending = slopeUartReqOpen
  · simp [toOpen]
  · simp [toOpen]

/-- The policy's door close, in one record. -/
theorem policyDoorClose_eq (s : DoorEcu) (ticks : UInt64) :
    doorEcuControlPolicyDoorClose s ticks = { doorEcuControlApplyDoorClose s ticks with
      ctl := { (doorEcuControlApplyDoorClose s ticks).ctl with
        doorManualOpenPending := false
        doorManualClosePending := false
        slopeManualOpenPending := false
        slopeAutoOpenStocked := false
        slopeAutoCloseStocked := true
        slopeTxPending := slopeUartReqClose } } := by
  unfold doorEcuControlPolicyDoorClose
  simp only [cancelOpenSide_eq, doorEcuControlQueueSlopeCloseForced]

/-- An acknowledgement changes the ramp estimate and the pending command only,
the latter by clearing it. -/
theorem slopeTxSucceeded_frame (c : DoorEcuControlState) (cmd : UInt8) :
    ∃ estimate pending, doorEcuControlSlopeTxSucceeded c cmd = doorEcuControlRefreshStatusShadow
        { c with slopeOpenEstimated := estimate, slopeTxPending := pending } ∧
      (pending = c.slopeTxPending ∨ pending = slopeUartReqNone) := by
  unfold doorEcuControlSlopeTxSucceeded
  dsimp only
  split
  · split
    · exact ⟨_, _, rfl, .inr rfl⟩
    · exact ⟨_, _, rfl, .inl rfl⟩
  · split
    · split
      · exact ⟨_, _, rfl, .inr rfl⟩
      · exact ⟨_, _, rfl, .inl rfl⟩
    · split
      · exact ⟨_, _, rfl, .inr rfl⟩
      · exact ⟨_, _, rfl, .inl rfl⟩

theorem handleSlopeTxSuccess_cases (s : DoorEcu) :
    (s.slope.txSuccessPending = false ∧ doorEcuControlHandleSlopeTxSuccess s = s) ∨
    (s.slope.txSuccessPending = true ∧ doorEcuControlHandleSlopeTxSuccess s =
      { s with
        slope := { s.slope with txSuccessPending := false }
        ctl := doorEcuControlSlopeTxSucceeded s.ctl s.slope.txSuccessCmd }) := by
  unfold doorEcuControlHandleSlopeTxSuccess slopeUartTc375ConsumeTxSuccess
  cases pending : s.slope.txSuccessPending with
  | false => exact .inl ⟨rfl, rfl⟩
  | true => exact .inr ⟨rfl, rfl⟩

/-- The slope UART has no part in the door. -/
theorem handleSlopeTxSuccess_frame (s : DoorEcu) : ∃ slope estimate pending status,
    doorEcuControlHandleSlopeTxSuccess s = { s with
      slope := slope
      ctl := { s.ctl with
        slopeOpenEstimated := estimate, slopeTxPending := pending, status := status } } ∧
    status.doorMotion = s.ctl.status.doorMotion ∧ status.doorOpened = s.ctl.status.doorOpened := by
  rcases handleSlopeTxSuccess_cases s with ⟨-, same⟩ | ⟨-, acked⟩
  · exact ⟨_, _, _, _, same, rfl, rfl⟩
  · obtain ⟨_, _, succeeded, -⟩ := slopeTxSucceeded_frame s.ctl s.slope.txSuccessCmd
    rw [acked, succeeded]
    exact ⟨_, _, _, _, rfl, rfl, rfl⟩

/-! ### Sensors and jam -/

theorem updateDoorEstimate_frame (c : DoorEcuControlState) (nowMs : UInt32) :
    ∃ estimate actuation status, doorEcuControlUpdateDoorEstimate c nowMs = { c with
      doorOpenEstimated := estimate, lastDoorActuation := actuation, status := status } := by
  unfold doorEcuControlUpdateDoorEstimate
  dsimp only
  split
  · split <;> exact ⟨_, _, _, rfl⟩
  · split <;> exact ⟨_, _, _, rfl⟩
  · exact ⟨_, _, _, rfl⟩

/-- The sensors change the door estimate and the status only. -/
theorem updateSensors_frame (s : DoorEcu) (obstacle : Bool) (ticks : UInt64) :
    ∃ estimate actuation status, doorEcuControlUpdateSensors s obstacle ticks =
      { s with ctl := { s.ctl with
          doorOpenEstimated := estimate, lastDoorActuation := actuation, status := status } } := by
  unfold doorEcuControlUpdateSensors
  dsimp only
  obtain ⟨_, _, _, frame⟩ := updateDoorEstimate_frame
    { s.ctl with status := { s.ctl.status with jamDetected := obstacle } }
    (doorEcuGetNowMs s.stmFreqHz ticks)
  rw [frame]
  exact ⟨_, _, _, rfl⟩

theorem handleJam_fires {s : DoorEcu} (fires : s.ctl.jamFires = true) (ticks : UInt64) :
    (doorEcuControlHandleJamDuringClosing s ticks).1 = doorEcuControlApplyDoorOpen
      { s with ctl := doorEcuControlCancelCloseSideRequests s.ctl } ticks := by
  simp [doorEcuControlHandleJamDuringClosing, fires]

theorem handleJam_quiet {s : DoorEcu} (quiet : s.ctl.jamFires = false) (ticks : UInt64) :
    (doorEcuControlHandleJamDuringClosing s ticks).1 = s := by
  simp [doorEcuControlHandleJamDuringClosing, quiet]

/-! ### Policy -/

/-- Step 4 leaves the ramp alone. -/
theorem policyDoorOpen_frame (s : DoorEcu) (ticks : UInt64) :
    ∃ servo pending actuation start status, doorEcuControlPolicyDoorOpen s ticks = { s with
      servo := servo
      ctl := { s.ctl with
        doorManualOpenPending := pending
        lastDoorActuation := actuation
        doorMotionStartMs := start
        status := status } } := by
  unfold doorEcuControlPolicyDoorOpen
  split
  · exact ⟨_, _, _, _, _, rfl⟩
  · exact ⟨_, _, _, _, _, rfl⟩

theorem queueSlopeOpenAuto_eq (c : DoorEcuControlState) : doorEcuControlQueueSlopeOpenAuto c =
    { c with
      slopeTxPending := if c.slopeOpenEstimated then c.slopeTxPending else slopeUartReqOpen } := by
  obtain ⟨_, _, _, _, _, _, _, estimated, _, _, _, _⟩ := c
  cases estimated <;> rfl

/-- Step 6 can only add a CLOSE, and without a stocked close does nothing. -/
theorem policyAutoClose_frame (s : DoorEcu) : ∃ stocked pending,
    (doorEcuControlPolicyAutoClose s).1 = { s with
      ctl := { s.ctl with slopeAutoCloseStocked := stocked, slopeTxPending := pending } } ∧
    (pending = s.ctl.slopeTxPending ∨ pending = slopeUartReqClose) ∧
    (s.ctl.slopeAutoCloseStocked = false → stocked = false ∧ pending = s.ctl.slopeTxPending) := by
  unfold doorEcuControlPolicyAutoClose doorEcuControlQueueSlopeCloseAuto
  by_cases stocked : s.ctl.slopeAutoCloseStocked = true
  · rw [if_pos stocked]
    have vacuous : ∀ P : Prop, s.ctl.slopeAutoCloseStocked = false → P :=
      fun _ none => by simp [none] at stocked
    dsimp only
    split
    · exact ⟨_, _, rfl, .inl rfl, vacuous _⟩
    · split
      · split
        · exact ⟨_, _, rfl, .inr rfl, vacuous _⟩
        · exact ⟨_, _, rfl, .inl rfl, vacuous _⟩
      · exact ⟨_, _, rfl, .inl rfl, vacuous _⟩
  · rw [if_neg stocked]
    exact ⟨_, _, rfl, .inl rfl, fun none => ⟨none, rfl⟩⟩

/-- The ways through the policy, in order of priority. -/
inductive PolicyOutcome (s : DoorEcu) (ticks : UInt64) (s' : DoorEcu) (r : PolicyReport) : Prop where
  | doorClose (due : s.ctl.doorManualClosePending = true)
      (state : s' = doorEcuControlPolicyDoorClose s ticks) (report : r = { doorClose := true })
  | slopeClose (noDoorClose : s.ctl.doorManualClosePending = false)
      (due : s.ctl.slopeManualClosePending = true)
      (state : s' = { s with ctl := doorEcuControlPolicySlopeClose s.ctl }) (report : r = {})
  | slopeOpen (noDoorClose : s.ctl.doorManualClosePending = false)
      (noSlopeClose : s.ctl.slopeManualClosePending = false)
      (due : s.ctl.slopeManualOpenPending = true)
      (state : s' = { s with ctl := doorEcuControlPolicySlopeOpen s.ctl }) (report : r = {})
  | autoOpen (noDoorClose : s.ctl.doorManualClosePending = false)
      (noSlopeClose : s.ctl.slopeManualClosePending = false)
      (noSlopeOpen : s.ctl.slopeManualOpenPending = false)
      (due : (doorEcuControlPolicyDoorOpen s ticks).ctl.autoOpenDue
        s.ctl.doorManualOpenPending = true)
      (state : s' = { doorEcuControlPolicyDoorOpen s ticks with
        ctl := doorEcuControlQueueSlopeOpenAuto
          { (doorEcuControlPolicyDoorOpen s ticks).ctl with slopeAutoOpenStocked := false } })
      (report : r = { doorOpen := s.ctl.doorManualOpenPending, autoOpenReleased := true })
  | autoClose (noDoorClose : s.ctl.doorManualClosePending = false)
      (noSlopeClose : s.ctl.slopeManualClosePending = false)
      (noSlopeOpen : s.ctl.slopeManualOpenPending = false)
      (notDue : (doorEcuControlPolicyDoorOpen s ticks).ctl.autoOpenDue
        s.ctl.doorManualOpenPending = false)
      (state : s' = (doorEcuControlPolicyAutoClose (doorEcuControlPolicyDoorOpen s ticks)).1)
      (report : r =
        { doorOpen := s.ctl.doorManualOpenPending
          autoCloseReleased :=
            (doorEcuControlPolicyAutoClose (doorEcuControlPolicyDoorOpen s ticks)).2 })

theorem runPolicy_outcome (s : DoorEcu) (ticks : UInt64) :
    PolicyOutcome s ticks (doorEcuControlRunPolicy s ticks).1
      (doorEcuControlRunPolicy s ticks).2 := by
  unfold doorEcuControlRunPolicy
  cases doorClose : s.ctl.doorManualClosePending with
  | true => exact .doorClose doorClose rfl rfl
  | false =>
      cases slopeClose : s.ctl.slopeManualClosePending with
      | true => exact .slopeClose doorClose slopeClose rfl rfl
      | false =>
          cases slopeOpen : s.ctl.slopeManualOpenPending with
          | true => exact .slopeOpen doorClose slopeClose slopeOpen rfl rfl
          | false =>
              dsimp only
              cases due : (doorEcuControlPolicyDoorOpen s ticks).ctl.autoOpenDue
                  s.ctl.doorManualOpenPending with
              | true => exact .autoOpen doorClose slopeClose slopeOpen due rfl rfl
              | false => exact .autoClose doorClose slopeClose slopeOpen due rfl rfl

/-! ### The end of a poll -/

/-- Sending a status frame changes the CAN endpoint and its timer only. -/
theorem pollStatusCan_frame (s : DoorEcu) (ticks : UInt64) (sent : CANStatus) :
    ∃ can lastStatusTxMs, (doorEcuControlPollStatusCan s ticks sent).1 =
      { s with can := can, lastStatusTxMs := lastStatusTxMs } := by
  unfold doorEcuControlPollStatusCan doorEcuCanSendStatus
  split
  · exact ⟨s.can, s.lastStatusTxMs, rfl⟩
  · dsimp only
    split
    · exact ⟨s.can, s.lastStatusTxMs, rfl⟩
    · exact ⟨_, _, rfl⟩

/-- A pending command is latched in an idle glue. -/
theorem issue_cases (s : DoorEcu) :
    (doorEcuControlIssuePendingSlopeCommand s = s ∧
      (s.slope.sender.waitingAck = true ∨
        s.ctl.slopeTxPending ≠ slopeUartReqOpen ∧ s.ctl.slopeTxPending ≠ slopeUartReqClose)) ∨
    (s.slope.sender.waitingAck = false ∧ s.ctl.slopeTxPending = slopeUartReqOpen ∧
      doorEcuControlIssuePendingSlopeCommand s =
        { s with slope := slopeUartTc375RequestOpen s.slope }) ∨
    (s.slope.sender.waitingAck = false ∧ s.ctl.slopeTxPending = slopeUartReqClose ∧
      doorEcuControlIssuePendingSlopeCommand s =
        { s with slope := slopeUartTc375RequestClose s.slope }) := by
  unfold doorEcuControlIssuePendingSlopeCommand
  cases busy : s.slope.sender.waitingAck with
  | true => exact .inl ⟨by simp [slopeUartTc375TxIsBusy, senderIsBusy, busy], .inl rfl⟩
  | false =>
      by_cases toOpen : s.ctl.slopeTxPending = slopeUartReqOpen
      · exact .inr (.inl ⟨rfl, toOpen, by
          simp [slopeUartTc375TxIsBusy, senderIsBusy, busy, toOpen, slopeUartReqOpen,
            slopeUartReqNone]⟩)
      · by_cases toClose : s.ctl.slopeTxPending = slopeUartReqClose
        · exact .inr (.inr ⟨rfl, toClose, by
            simp [slopeUartTc375TxIsBusy, senderIsBusy, busy, toClose, slopeUartReqOpen,
              slopeUartReqClose, slopeUartReqNone]⟩)
        · exact .inl ⟨by simp [slopeUartTc375TxIsBusy, senderIsBusy, busy, toOpen, toClose],
            .inr ⟨toOpen, toClose⟩⟩

theorem issue_frame (s : DoorEcu) :
    ∃ slope, doorEcuControlIssuePendingSlopeCommand s = { s with slope := slope } := by
  rcases issue_cases s with ⟨same, -⟩ | ⟨-, -, latched⟩ | ⟨-, -, latched⟩
  · exact ⟨s.slope, same⟩
  · exact ⟨_, latched⟩
  · exact ⟨_, latched⟩

section Stages

variable (s : DoorEcu) (i : PollInput)

theorem report_jam : (s.report i).jam = (s.atJam i).ctl.jamFires := by
  show (doorEcuControlHandleJamDuringClosing (s.atJam i) i.jamTicks).2 = _
  unfold doorEcuControlHandleJamDuringClosing
  cases (s.atJam i).ctl.jamFires <;> rfl

theorem report_tx : (s.report i).tx = (s.txPoll i).2 := (rfl)

theorem report_policy :
    (s.report i).policy = (doorEcuControlRunPolicy (s.atPolicy i) i.policyTicks).2 := (rfl)

/-- The policy's decision is issued and shown; nothing else follows it. -/
theorem polled_frame : ∃ can lastStatusTxMs, s.polled i =
    { doorEcuControlIssuePendingSlopeCommand (s.decided i) with
      ctl := doorEcuControlRefreshStatusShadow (s.decided i).ctl
      servo := doorUpdate (s.decided i).servo i.doorTicks
      can := can
      lastStatusTxMs := lastStatusTxMs } := by
  have issued : doorEcuControlIssuePendingSlopeCommand
      { s.decided i with servo := doorUpdate (s.decided i).servo i.doorTicks } =
      { doorEcuControlIssuePendingSlopeCommand (s.decided i) with
        servo := doorUpdate (s.decided i).servo i.doorTicks } := by
    unfold doorEcuControlIssuePendingSlopeCommand
    split
    · rfl
    · split
      · rfl
      · split
        · rfl
        · split <;> rfl
  obtain ⟨slope, frame⟩ := issue_frame (s.decided i)
  obtain ⟨can, lastStatusTxMs, sent⟩ := pollStatusCan_frame
    { doorEcuControlIssuePendingSlopeCommand
        { s.decided i with servo := doorUpdate (s.decided i).servo i.doorTicks } with
      ctl := doorEcuControlRefreshStatusShadow (doorEcuControlIssuePendingSlopeCommand
        { s.decided i with servo := doorUpdate (s.decided i).servo i.doorTicks }).ctl }
    i.statusTicks i.canTx
  refine ⟨can, lastStatusTxMs, Eq.trans sent ?_⟩
  rw [issued, frame]

end Stages

end SmartBusAccess.Door
