import Mathlib.Tactic.Simps.Basic
import SmartBusAccess.Can.DoorEcuCan
import SmartBusAccess.Door.Servo
import SmartBusAccess.Uart.BleGlue
import SmartBusAccess.Uart.SlopeGlue

/-!
The door ECU supervisor (`door_ecu_control.c`): its state, every function of the
poll in source order, `doorEcuControlInit` and `doorEcuControlPoll`.

A poll is given what the hardware delivers during it (`PollInput`): the bytes on
both UARTs, the CAN reception, the obstacle reading and one STM reading for each
place that reads the timer. It reports (`PollReport`) which requests it took, what
the slope UART wrote and which doors and ramps it moved.

The flag variables for a debugger, the empty `emergency_stop` and `reset_fault`
branches and the uncalled door sensor hook are left out, as are the ACK frames
written to the BLE port.
-/

namespace SmartBusAccess.Door

open SmartBusAccess.Can SmartBusAccess.Uart

/-! ### State -/

inductive DoorEcuRequest where
  | requestNone
  | requestOpen
  | requestClose
deriving DecidableEq, Repr

inductive DoorEcuSlopeControlMode where
  | none
  | auto
  | manual
deriving DecidableEq, Repr

inductive DoorEcuDoorMotion where
  | unknown
  | closed
  | opening
  | opened
  | closing
deriving DecidableEq, Repr

structure DoorEcuStatus where
  doorOpened : Bool
  jamDetected : Bool
  slopeOpened : Bool
  slopeOpenedValid : Bool
  doorMotion : DoorEcuDoorMotion
  slopeAutoOpenStocked : Bool
  slopeAutoCloseStocked : Bool
  slopeTxPending : UInt8
deriving DecidableEq, Repr

structure DoorEcuControlState where
  doorManualOpenPending : Bool
  doorManualClosePending : Bool
  slopeManualOpenPending : Bool
  slopeManualClosePending : Bool
  slopeAutoOpenStocked : Bool
  slopeAutoCloseStocked : Bool
  slopeTxPending : UInt8
  slopeOpenEstimated : Bool
  doorMotionStartMs : UInt32
  doorOpenEstimated : Bool
  lastDoorActuation : DoorEcuRequest
  status : DoorEcuStatus
deriving DecidableEq, Repr

/-- Everything `door_ecu_control.c` owns or drives. `stmFreqHz` is the timer's
frequency, which the source asks the hardware for. -/
structure DoorEcu where
  ctl : DoorEcuControlState
  slope : SlopeUartTc375
  ble : BleUartTc375
  servo : DoorServo
  can : DoorECUCAN
  canOpened : Bool
  lastStatusTxMs : UInt32
  stmFreqHz : UInt64
deriving DecidableEq, Repr

/-! ### Inputs and reports -/

structure InitInput where
  stmFreqHz : UInt64
  stmTicksPerMs : UInt32
  pwmReady : Bool
  tickInterval : UInt64
  doorTicks : UInt64
  canOpen : CANStatus
  statusTicks : UInt64
deriving DecidableEq, Repr

structure PollInput where
  bleRx : List UInt8
  canTicks : UInt64
  canRx : CANStatus × CANFrame
  obstacle : Bool
  estimateTicks : UInt64
  jamTicks : UInt64
  slopeRx : List UInt8
  retryTicks : UInt32
  sendTicks : UInt32
  policyTicks : UInt64
  doorTicks : UInt64
  statusTicks : UInt64
  canTx : CANStatus
deriving DecidableEq, Repr

/-- What a run of the policy did: door actuations, and automatic ramp requests
released. -/
structure PolicyReport where
  doorClose : Bool := false
  doorOpen : Bool := false
  autoOpenReleased : Bool := false
  autoCloseReleased : Bool := false
deriving DecidableEq, Repr

structure PollReport where
  bleCmd : Option UInt8
  canCmd : Option DoorECUCANCommandSnapshot
  jam : Bool
  tx : TxReport
  policy : PolicyReport
  statusSent : Option UInt8
deriving DecidableEq, Repr

/-! ### Time -/

def doorEcuGetNowMs (stmFreqHz ticks : UInt64) : UInt32 :=
  if stmFreqHz == 0 then 0 else ((ticks * 1000) / stmFreqHz).toUInt32

abbrev doorEcuStatusCanPeriodMs : UInt32 := 100

/-! ### Requests -/

def doorEcuMapDoorCommand (doorCmd : UInt8) : DoorEcuRequest :=
  if doorCmd == doorCmdOpen then .requestOpen
  else if doorCmd == doorCmdClose then .requestClose
  else .requestNone

def doorEcuMapRampCommand (rampCmd : UInt8) : DoorEcuRequest :=
  if rampCmd == rampCmdDeploy then .requestOpen
  else if rampCmd == rampCmdStow then .requestClose
  else .requestNone

def doorEcuMapRampMode (rampManual : Bool) : DoorEcuSlopeControlMode :=
  if rampManual then .manual else .auto

def doorEcuControlOnBleSlopeAutoRequest (c : DoorEcuControlState) :
    DoorEcuRequest → DoorEcuControlState
  | .requestOpen => { c with slopeAutoOpenStocked := true, slopeAutoCloseStocked := false }
  | .requestClose => { c with slopeAutoCloseStocked := true, slopeAutoOpenStocked := false }
  | .requestNone => c

def doorEcuControlOnDriverCanDoorManualRequest (c : DoorEcuControlState) :
    DoorEcuRequest → DoorEcuControlState
  | .requestOpen => { c with doorManualOpenPending := true }
  | .requestClose => { c with doorManualClosePending := true }
  | .requestNone => c

/-- Unlike the BLE request, an automatic request leaves the opposite stock alone. -/
def doorEcuControlOnDriverCanSlopeRequest (c : DoorEcuControlState) :
    DoorEcuRequest → DoorEcuSlopeControlMode → DoorEcuControlState
  | .requestOpen, .manual => { c with slopeManualOpenPending := true }
  | .requestClose, .manual => { c with slopeManualClosePending := true }
  | .requestOpen, .auto => { c with slopeAutoOpenStocked := true }
  | .requestClose, .auto => { c with slopeAutoCloseStocked := true }
  | _, _ => c

def doorEcuControlOnDriverCanCombinedRequest (c : DoorEcuControlState)
    (doorRequest slopeRequest : DoorEcuRequest) (slopeMode : DoorEcuSlopeControlMode) :
    DoorEcuControlState :=
  let c := doorEcuControlOnDriverCanDoorManualRequest c doorRequest
  doorEcuControlOnDriverCanSlopeRequest c slopeRequest slopeMode

/-- With the command consumed, if any. The `while` loop of the source runs at
most once (`bleUartTc375ConsumeCmd_once`). -/
def doorEcuControlPollBleCommand (s : DoorEcu) (rx : List UInt8) : DoorEcu × Option UInt8 :=
  let s := { s with ble := (bleUartTc375Poll s.ble rx).1 }
  match bleUartTc375ConsumeCmd s.ble with
  | none => (s, none)
  | some (ble, cmd) =>
      let s := { s with ble := ble }
      let slopeReq := bleUartCmdGetSlope cmd
      if slopeReq == bleUartReqOpen then
        ({ s with ctl := doorEcuControlOnBleSlopeAutoRequest s.ctl .requestOpen }, some cmd)
      else (s, some cmd)

/-- With the command received, if any. -/
def doorEcuControlPollCanCommand (s : DoorEcu) (ticks : UInt64) (received : CANStatus × CANFrame) :
    DoorEcu × Option DoorECUCANCommandSnapshot :=
  if !s.canOpened then (s, none)
  else
    let nowMs := doorEcuGetNowMs s.stmFreqHz ticks
    let (can, status, updated) := doorECUCANPollCommand s.can nowMs received
    let s := { s with can := can }
    if status != .ok then (s, none)
    else if !updated then (s, none)
    else
      let cmd := s.can.command
      let doorRequest := doorEcuMapDoorCommand cmd.doorCommand
      let slopeRequest := doorEcuMapRampCommand cmd.rampCommand
      let slopeMode := doorEcuMapRampMode cmd.rampManual
      let ctl := doorEcuControlOnDriverCanCombinedRequest s.ctl doorRequest slopeRequest slopeMode
      ({ s with ctl := ctl }, some cmd)

/-! ### Door actuation and its estimate -/

@[simps] def doorEcuControlRefreshStatusShadow (c : DoorEcuControlState) : DoorEcuControlState :=
  { c with status := { c.status with
      slopeOpened := c.slopeOpenEstimated
      slopeOpenedValid := false
      slopeAutoOpenStocked := c.slopeAutoOpenStocked
      slopeAutoCloseStocked := c.slopeAutoCloseStocked
      slopeTxPending := c.slopeTxPending } }

def doorEcuControlResetState : DoorEcuControlState where
  doorManualOpenPending := false
  doorManualClosePending := false
  slopeManualOpenPending := false
  slopeManualClosePending := false
  slopeAutoOpenStocked := false
  slopeAutoCloseStocked := false
  slopeTxPending := slopeUartReqNone
  slopeOpenEstimated := false
  doorMotionStartMs := 0
  doorOpenEstimated := false
  lastDoorActuation := .requestNone
  status := ⟨false, false, false, false, .unknown, false, false, slopeUartReqNone⟩

@[simps] def doorEcuControlApplyDoorOpen (s : DoorEcu) (ticks : UInt64) : DoorEcu :=
  { s with
    servo := driveDoorOpen s.servo
    ctl := { s.ctl with
      lastDoorActuation := .requestOpen
      doorMotionStartMs := doorEcuGetNowMs s.stmFreqHz ticks
      status := { s.ctl.status with doorMotion := .opening } } }

@[simps] def doorEcuControlApplyDoorClose (s : DoorEcu) (ticks : UInt64) : DoorEcu :=
  { s with
    servo := driveDoorClose s.servo
    ctl := { s.ctl with
      lastDoorActuation := .requestClose
      doorMotionStartMs := doorEcuGetNowMs s.stmFreqHz ticks
      status := { s.ctl.status with doorMotion := .closing } } }

def doorEcuControlUpdateDoorEstimate (c : DoorEcuControlState) (nowMs : UInt32) :
    DoorEcuControlState :=
  let elapsed := nowMs - c.doorMotionStartMs
  let c := match c.lastDoorActuation with
    | .requestOpen =>
        if elapsed < doorMoveAssumedTimeMs then
          { c with status := { c.status with doorMotion := .opening } }
        else
          { c with
            doorOpenEstimated := true
            status := { c.status with doorMotion := .opened }
            lastDoorActuation := .requestNone }
    | .requestClose =>
        if elapsed < doorMoveAssumedTimeMs then
          { c with status := { c.status with doorMotion := .closing } }
        else
          { c with
            doorOpenEstimated := false
            status := { c.status with doorMotion := .closed }
            lastDoorActuation := .requestNone }
    | .requestNone =>
        { c with status := { c.status with
            doorMotion := if c.doorOpenEstimated then .opened else .closed } }
  { c with status := { c.status with doorOpened := c.doorOpenEstimated } }

def doorEcuControlUpdateSensors (s : DoorEcu) (obstacle : Bool) (ticks : UInt64) : DoorEcu :=
  let ctl := { s.ctl with status := { s.ctl.status with jamDetected := obstacle } }
  let ctl := doorEcuControlUpdateDoorEstimate ctl (doorEcuGetNowMs s.stmFreqHz ticks)
  { s with ctl := doorEcuControlRefreshStatusShadow ctl }

/-! ### Cancelling and queueing -/

def doorEcuControlCancelOpenSideRequests (c : DoorEcuControlState) : DoorEcuControlState :=
  let c := { c with
    doorManualOpenPending := false
    slopeManualOpenPending := false
    slopeAutoOpenStocked := false }
  if c.slopeTxPending == slopeUartReqOpen then { c with slopeTxPending := slopeUartReqNone } else c

def doorEcuControlCancelCloseSideRequests (c : DoorEcuControlState) : DoorEcuControlState :=
  let c := { c with
    doorManualClosePending := false
    slopeManualClosePending := false
    slopeAutoCloseStocked := false }
  if c.slopeTxPending == slopeUartReqClose then { c with slopeTxPending := slopeUartReqNone } else c

def doorEcuControlQueueSlopeOpenAuto (c : DoorEcuControlState) : DoorEcuControlState :=
  if !c.slopeOpenEstimated then { c with slopeTxPending := slopeUartReqOpen } else c

def doorEcuControlQueueSlopeOpenManual (c : DoorEcuControlState) : DoorEcuControlState :=
  { c with slopeTxPending := slopeUartReqOpen }

def doorEcuControlQueueSlopeCloseForced (c : DoorEcuControlState) : DoorEcuControlState :=
  { c with slopeTxPending := slopeUartReqClose }

def doorEcuControlQueueSlopeCloseAuto (c : DoorEcuControlState) : DoorEcuControlState :=
  if c.slopeOpenEstimated || c.slopeTxPending == slopeUartReqOpen then
    { c with slopeTxPending := slopeUartReqClose }
  else c

/-- The guard of `HandleJamDuringClosing`. -/
def DoorEcuControlState.jamFires (c : DoorEcuControlState) : Bool :=
  c.status.jamDetected && (c.status.doorMotion == .closing || c.doorManualClosePending)

def doorEcuControlHandleJamDuringClosing (s : DoorEcu) (ticks : UInt64) : DoorEcu × Bool :=
  if !s.ctl.jamFires then (s, false)
  else
    let s := { s with ctl := doorEcuControlCancelCloseSideRequests s.ctl }
    (doorEcuControlApplyDoorOpen s ticks, true)

/-! ### The slope UART -/

/-- What an acknowledged command changes. -/
def doorEcuControlSlopeTxSucceeded (c : DoorEcuControlState) (cmd : UInt8) : DoorEcuControlState :=
  let slopeReq := slopeUartCmdGetSlope cmd
  let c :=
    if slopeReq == slopeUartReqOpen then { c with slopeOpenEstimated := true }
    else if slopeReq == slopeUartReqClose then { c with slopeOpenEstimated := false }
    else c
  let c :=
    if (slopeReq == slopeUartReqOpen && c.slopeTxPending == slopeUartReqOpen) ||
        (slopeReq == slopeUartReqClose && c.slopeTxPending == slopeUartReqClose) then
      { c with slopeTxPending := slopeUartReqNone }
    else c
  doorEcuControlRefreshStatusShadow c

def doorEcuControlHandleSlopeTxSuccess (s : DoorEcu) : DoorEcu :=
  match slopeUartTc375ConsumeTxSuccess s.slope with
  | none => s
  | some (slope, cmd) =>
      { s with slope := slope, ctl := doorEcuControlSlopeTxSucceeded s.ctl cmd }

def doorEcuControlIssuePendingSlopeCommand (s : DoorEcu) : DoorEcu :=
  if s.ctl.slopeTxPending == slopeUartReqNone then s
  else if slopeUartTc375TxIsBusy s.slope then s
  else if s.ctl.slopeTxPending == slopeUartReqOpen then
    { s with slope := slopeUartTc375RequestOpen s.slope }
  else if s.ctl.slopeTxPending == slopeUartReqClose then
    { s with slope := slopeUartTc375RequestClose s.slope }
  else s

/-! ### Policy -/

def doorEcuControlDoorIsOpenedOrOpening (c : DoorEcuControlState) (doorOpenAboutToHappen : Bool) :
    Bool :=
  c.status.doorOpened || c.status.doorMotion == .opening || c.status.doorMotion == .opened ||
    doorOpenAboutToHappen

def doorEcuControlDoorIsClosing (c : DoorEcuControlState) (doorCloseAboutToHappen : Bool) : Bool :=
  c.status.doorMotion == .closing || doorCloseAboutToHappen

/-- Step 1 of the policy. -/
def doorEcuControlPolicyDoorClose (s : DoorEcu) (ticks : UInt64) : DoorEcu :=
  let s := doorEcuControlApplyDoorClose s ticks
  let c := { s.ctl with doorManualClosePending := false }
  let c := doorEcuControlCancelOpenSideRequests c
  let c := { c with slopeAutoCloseStocked := true }
  { s with ctl := doorEcuControlQueueSlopeCloseForced c }

/-- Step 2. -/
def doorEcuControlPolicySlopeClose (c : DoorEcuControlState) : DoorEcuControlState :=
  let c := { c with
    slopeManualClosePending := false
    slopeAutoOpenStocked := false
    slopeManualOpenPending := false }
  doorEcuControlQueueSlopeCloseForced c

/-- Step 3. -/
def doorEcuControlPolicySlopeOpen (c : DoorEcuControlState) : DoorEcuControlState :=
  let c := { c with
    slopeManualOpenPending := false
    slopeAutoCloseStocked := false
    slopeManualClosePending := false }
  doorEcuControlQueueSlopeOpenManual c

/-- Step 4. -/
def doorEcuControlPolicyDoorOpen (s : DoorEcu) (ticks : UInt64) : DoorEcu :=
  if s.ctl.doorManualOpenPending then
    let s := doorEcuControlApplyDoorOpen s ticks
    { s with ctl := { s.ctl with doorManualOpenPending := false } }
  else s

/-- The condition of step 5. -/
def DoorEcuControlState.autoOpenDue (c : DoorEcuControlState) (doorOpenAboutToHappen : Bool) :
    Bool :=
  c.slopeAutoOpenStocked && doorEcuControlDoorIsOpenedOrOpening c doorOpenAboutToHappen

/-- Step 6. Step 1 returns, so no door close is about to happen here. -/
def doorEcuControlPolicyAutoClose (s : DoorEcu) : DoorEcu × Bool :=
  if s.ctl.slopeAutoCloseStocked then
    let slopeOpenOrOpening := s.ctl.slopeOpenEstimated ||
      s.ctl.slopeTxPending == slopeUartReqOpen || slopeUartTc375TxIsBusy s.slope
    if !slopeOpenOrOpening then
      ({ s with ctl := { s.ctl with slopeAutoCloseStocked := false } }, false)
    else if doorEcuControlDoorIsClosing s.ctl false then
      let c := { s.ctl with slopeAutoCloseStocked := false }
      ({ s with ctl := doorEcuControlQueueSlopeCloseAuto c }, true)
    else (s, false)
  else (s, false)

def doorEcuControlRunPolicy (s : DoorEcu) (ticks : UInt64) : DoorEcu × PolicyReport :=
  if s.ctl.doorManualClosePending then
    (doorEcuControlPolicyDoorClose s ticks, { doorClose := true })
  else if s.ctl.slopeManualClosePending then
    ({ s with ctl := doorEcuControlPolicySlopeClose s.ctl }, {})
  else if s.ctl.slopeManualOpenPending then
    ({ s with ctl := doorEcuControlPolicySlopeOpen s.ctl }, {})
  else
    let doorOpenAboutToHappen := s.ctl.doorManualOpenPending
    let s := doorEcuControlPolicyDoorOpen s ticks
    if s.ctl.autoOpenDue doorOpenAboutToHappen then
      let c := { s.ctl with slopeAutoOpenStocked := false }
      ({ s with ctl := doorEcuControlQueueSlopeOpenAuto c },
        { doorOpen := doorOpenAboutToHappen, autoOpenReleased := true })
    else
      let (s, released) := doorEcuControlPolicyAutoClose s
      (s, { doorOpen := doorOpenAboutToHappen, autoCloseReleased := released })

/-! ### Status frames -/

def doorEcuMapDoorStateForCan (c : DoorEcuControlState) : UInt8 :=
  match c.status.doorMotion with
  | .opened => doorStateOpened
  | .opening => doorStateMoving
  | .closing => doorStateMoving
  | .closed => doorStateClosed
  | .unknown => doorStateClosed

def doorEcuMapRampStateForCan (c : DoorEcuControlState) : UInt8 :=
  if c.slopeTxPending != slopeUartReqNone then rampStateMoving
  else if c.slopeOpenEstimated then rampStateDeployed
  else rampStateStowed

/-- With the payload handed to the CAN driver, if any. -/
def doorEcuCanSendStatus (s : DoorEcu) (sent : CANStatus) : DoorEcu × Option UInt8 :=
  if !s.canOpened then (s, none)
  else
    let (can, _, payload) := doorECUCANPublishStatus s.can s.ctl.status.jamDetected
      (doorEcuMapDoorStateForCan s.ctl) (doorEcuMapRampStateForCan s.ctl) false sent
    ({ s with can := can }, payload)

def doorEcuControlPollStatusCan (s : DoorEcu) (ticks : UInt64) (sent : CANStatus) :
    DoorEcu × Option UInt8 :=
  if !s.canOpened then (s, none)
  else
    let nowMs := doorEcuGetNowMs s.stmFreqHz ticks
    if nowMs - s.lastStatusTxMs < doorEcuStatusCanPeriodMs then (s, none)
    else doorEcuCanSendStatus { s with lastStatusTxMs := nowMs } sent

/-! ### Initialisation and poll -/

/-- The static variables at power-up. -/
def DoorEcu.boot (stmFreqHz : UInt64) : DoorEcu :=
  ⟨doorEcuControlResetState, .boot, .boot, .boot, ⟨.zero, .zero, false⟩, false, 0, stmFreqHz⟩

def doorEcuControlInit (i : InitInput) : DoorEcu :=
  let s := DoorEcu.boot i.stmFreqHz
  let (can, status) := doorECUCANOpen doorECUCANInit i.canOpen
  { s with
    ctl := doorEcuControlResetState
    ble := bleUartTc375Init
    slope := slopeUartTc375TxInit s.slope i.stmTicksPerMs
    servo := doorInit i.pwmReady i.tickInterval i.doorTicks
    can := can
    canOpened := if status == .ok then true else s.canOpened
    lastStatusTxMs := doorEcuGetNowMs i.stmFreqHz i.statusTicks }

def doorEcuControlPoll (s : DoorEcu) (i : PollInput) : DoorEcu × PollReport :=
  let ble := doorEcuControlPollBleCommand s i.bleRx
  let can := doorEcuControlPollCanCommand ble.1 i.canTicks i.canRx
  let s := doorEcuControlUpdateSensors can.1 i.obstacle i.estimateTicks
  let jam := doorEcuControlHandleJamDuringClosing s i.jamTicks
  let tx := slopeUartTc375TxPoll jam.1.slope i.slopeRx i.retryTicks i.sendTicks
  let s := doorEcuControlHandleSlopeTxSuccess { jam.1 with slope := tx.1 }
  let policy := doorEcuControlRunPolicy s i.policyTicks
  let s := { policy.1 with servo := doorUpdate policy.1.servo i.doorTicks }
  let s := doorEcuControlIssuePendingSlopeCommand s
  let s := { s with ctl := doorEcuControlRefreshStatusShadow s.ctl }
  let status := doorEcuControlPollStatusCan s i.statusTicks i.canTx
  (status.1, ⟨ble.2, can.2, jam.2, tx.2, policy.2, status.2⟩)

end SmartBusAccess.Door
