import SmartBusAccess.Can.DriverEcuCan
import SmartBusAccess.Uart.BleGlue

/-!
The driver ECU's main loop (`Cpu0_Main.c`, `stop_bell.c`): its global variables,
the four button interrupts and one iteration of the loop.

An interrupt can come between any two accesses of the variables it shares with the
loop. `LoopPoint` names the accesses of the loop; an iteration is given which
interrupts are served right before each of them, next to what it reads from the
hardware. It reports (`LoopEvent`) what it comes across, the requests raised and
the commands handed to the CAN driver, in order.

The BLE UART is the one of the door ECU but for its baud rate. Sounds, LEDs and the
ACK frames written to the BLE port are left out.
-/

namespace SmartBusAccess.Driver

open SmartBusAccess.Can SmartBusAccess.Uart

/-! ### Globals -/

inductive StopBtnState where
  | off
  | on
deriving DecidableEq, Repr

inductive DisabledStopBtnState where
  | off
  | on
deriving DecidableEq, Repr

structure DriverEcu where
  can : DriverECUCAN
  ble : BleUartTc375
  stopBtnState : StopBtnState
  disabledStopBtnState : DisabledStopBtnState
  doorState : UInt8
  slopeState : UInt8
  doorOpenReq : Bool
  doorCloseReq : Bool
  slopeOpenReq : Bool
  slopeCloseReq : Bool
  stopBtnPressed : Bool
  disabledStopBtnPressed : Bool
  buzzerOn : Bool
  buzzerStart : UInt64
  obstacleDetected : Bool
  fireAlarmActive : Bool
  monitorFlags : UInt8
deriving DecidableEq, Repr

/-- At the head of the loop for the first time: `AppInit` does not return unless the
port has opened. -/
def driverEcuBoot : DriverEcu where
  can := (driverECUCANOpen driverECUCANInit .ok).1
  ble := bleUartTc375Init
  stopBtnState := .off
  disabledStopBtnState := .off
  doorState := doorStateClosed
  slopeState := rampStateStowed
  doorOpenReq := false
  doorCloseReq := false
  slopeOpenReq := false
  slopeCloseReq := false
  stopBtnPressed := false
  disabledStopBtnPressed := false
  buzzerOn := false
  buzzerStart := 0
  obstacleDetected := false
  fireAlarmActive := false
  monitorFlags := 0

/-! ### Requests -/

inductive DriverRequest where
  | doorOpen
  | doorClose
  | slopeOpen
  | slopeClose
deriving DecidableEq, Repr

/-- The flag of a request. -/
def DriverEcu.pending (g : DriverEcu) : DriverRequest → Bool
  | .doorOpen => g.doorOpenReq
  | .doorClose => g.doorCloseReq
  | .slopeOpen => g.slopeOpenReq
  | .slopeClose => g.slopeCloseReq

def DriverEcu.setPending (g : DriverEcu) (request : DriverRequest) (flag : Bool) : DriverEcu :=
  match request with
  | .doorOpen => { g with doorOpenReq := flag }
  | .doorClose => { g with doorCloseReq := flag }
  | .slopeOpen => { g with slopeOpenReq := flag }
  | .slopeClose => { g with slopeCloseReq := flag }

/-- What a command is sent for. -/
inductive CommandCause where
  | request (request : DriverRequest)
  | fire
deriving DecidableEq, Repr

/-- A call of `driverECUCANSendCommand` and what it returned. -/
structure DriverCommand where
  cause : CommandCause
  doorCmd : UInt8
  rampCmd : UInt8
  rampManual : Bool
  emergencyStop : Bool
  resetFault : Bool
  status : CANStatus
  payload : Option UInt8
deriving DecidableEq, Repr

/-- A status frame, the button of the bell for disabled passengers, a reading of fire, a command
of the BLE port. -/
inductive LoopFinding where
  | heard (status : DriverECUCANStatusSnapshot)
  | rung
  | fire
  | called (cmd : UInt8)
deriving DecidableEq, Repr

inductive LoopEvent where
  | found (finding : LoopFinding)
  | raised (request : DriverRequest)
  | sent (command : DriverCommand)
deriving DecidableEq, Repr

/-! ### Interrupts -/

inductive ButtonIsr where
  | onStopBtn
  | onDisabledStopBtn
  | doorControlBtn
  | slopeControlBtn
deriving DecidableEq, Repr

def onStopBtnISR (g : DriverEcu) : DriverEcu := { g with stopBtnPressed := true }

def onDisabledStopBtnISR (g : DriverEcu) : DriverEcu × List LoopEvent :=
  ({ g with disabledStopBtnPressed := true }, [.found .rung])

def DriverEcu.raise (g : DriverEcu) (request : DriverRequest) : DriverEcu × List LoopEvent :=
  (g.setPending request true, [.raised request])

def doorControlBtnISR (g : DriverEcu) : DriverEcu × List LoopEvent :=
  if g.doorState == doorStateClosed then g.raise .doorOpen
  else if g.doorState == doorStateOpened then
    if g.obstacleDetected then (g, []) else g.raise .doorClose
  else (g, [])

def slopeControlBtnISR (g : DriverEcu) : DriverEcu × List LoopEvent :=
  if g.slopeState == rampStateStowed then g.raise .slopeOpen
  else if g.slopeState == rampStateDeployed then
    if g.obstacleDetected then (g, []) else g.raise .slopeClose
  else (g, [])

def ButtonIsr.serve (g : DriverEcu) : ButtonIsr → DriverEcu × List LoopEvent
  | .onStopBtn => (onStopBtnISR g, [])
  | .onDisabledStopBtn => onDisabledStopBtnISR g
  | .doorControlBtn => doorControlBtnISR g
  | .slopeControlBtn => slopeControlBtnISR g

/-! ### Stages -/

/-- A part of an iteration. -/
abbrev Stage := DriverEcu → DriverEcu × List LoopEvent

/-- A part that does nothing but change the globals. -/
def Stage.set (f : DriverEcu → DriverEcu) : Stage := fun g => (f g, [])

/-- A part that comes across something. -/
def Stage.find (finding : LoopFinding) : Stage := fun g => (g, [.found finding])

def Stage.andThen (first second : Stage) : Stage := fun g =>
  let (g, events) := first g
  let (g, later) := second g
  (g, events ++ later)

def serveAll : List ButtonIsr → Stage
  | [] => .set id
  | isr :: rest => Stage.andThen (fun g => isr.serve g) (serveAll rest)

/-- The accesses of the loop to what it shares with the interrupts, in program order. -/
inductive LoopPoint where
  | writeObstacle
  | writeDoorState
  | writeSlopeState
  | readRequest (request : DriverRequest)
  | clearRequest (request : DriverRequest)
  | sendRequest (request : DriverRequest)
  | readStop
  | clearStop
  | readDisabledStop
  | clearDisabledStop
  | writeBleStop
  | writeBleDisabledStop
deriving DecidableEq, Repr

structure LoopInput where
  interrupts : LoopPoint → List ButtonIsr
  stopBtnOff : Bool
  stmFreqHz : UInt64
  pollTicks : UInt64
  received : CANStatus × CANFrame
  sent : CommandCause → CANStatus
  stopTicks : UInt64
  disabledTicks : UInt64
  buzzerTicks : UInt64
  fire : Bool
  bleRx : List UInt8

/-- The interrupts before an access, then the access. -/
def LoopInput.at (input : LoopInput) (point : LoopPoint) (access : Stage) : Stage :=
  .andThen (serveAll (input.interrupts point)) access

/-! ### The stop bell -/

def playBuzzer (g : DriverEcu) (ticks : UInt64) : DriverEcu :=
  { g with buzzerOn := true, buzzerStart := ticks }

def onStopButton (g : DriverEcu) (ticks : UInt64) : DriverEcu :=
  match g.stopBtnState with
  | .off =>
      playBuzzer { g with stopBtnState := .on, monitorFlags := g.monitorFlags ||| 0x10 } ticks
  | .on => g

def offStopButton (g : DriverEcu) : DriverEcu :=
  match g.stopBtnState with
  | .on =>
      { g with
        stopBtnState := .off
        disabledStopBtnState := .off
        monitorFlags := g.monitorFlags &&& 0xEF }
  | .off => g

/-! ### The loop body -/

def driverEcuGetNowMs (stmFreqHz ticks : UInt64) : UInt32 :=
  if stmFreqHz == 0 then 0 else ((ticks * 1000) / stmFreqHz).toUInt32

/-- The stop bell's reset button, then the monitor's door and slope bits. -/
def resetAndMonitor (input : LoopInput) (g : DriverEcu) : DriverEcu :=
  let g := if input.stopBtnOff then offStopButton g else g
  let g :=
    if g.doorState == doorStateOpened then { g with monitorFlags := g.monitorFlags ||| 0x80 }
    else if g.doorState == doorStateClosed then { g with monitorFlags := g.monitorFlags &&& 0x7F }
    else g
  if g.slopeState == rampStateDeployed then { g with monitorFlags := g.monitorFlags ||| 0x40 }
  else if g.slopeState == rampStateStowed then { g with monitorFlags := g.monitorFlags &&& 0xBF }
  else g

def writeObstacle (pinchDetected : Bool) (g : DriverEcu) : DriverEcu :=
  { g with
    monitorFlags := if pinchDetected then g.monitorFlags ||| 0x20 else g.monitorFlags &&& 0xDF
    obstacleDetected := pinchDetected }

/-- The CAN reception. The status of the poll is ignored. -/
def receiveStatus (input : LoopInput) : Stage := fun g =>
  let nowMs := driverEcuGetNowMs input.stmFreqHz input.pollTicks
  let (can, _, updated) := driverECUCANPollStatus g.can nowMs input.received
  let g := { g with can := can }
  if !updated then (g, [])
  else
    let st := can.status
    Stage.andThen (.find (.heard st))
      (.andThen (input.at .writeObstacle (.set (writeObstacle st.pinchDetected)))
        (.andThen (input.at .writeDoorState (.set fun g => { g with doorState := st.doorState }))
          (input.at .writeSlopeState (.set fun g => { g with slopeState := st.rampState })))) g

/-- `(void)driverECUCANSendCommand(...)`: the status is reported here, not kept. -/
def sendCommand (input : LoopInput) (cause : CommandCause) (doorCmd rampCmd : UInt8)
    (rampManual : Bool) : List LoopEvent :=
  let (status, payload) :=
    driverECUCANSendCommand doorCmd rampCmd rampManual false false (input.sent cause)
  [.sent ⟨cause, doorCmd, rampCmd, rampManual, false, false, status, payload⟩]

/-- The command of a request. With the disabled-passenger bell on, the ramp is deployed
along with the door. -/
def sendRequest (input : LoopInput) (request : DriverRequest) : Stage := fun g =>
  match request with
  | .doorOpen =>
      let events :=
        match g.disabledStopBtnState with
        | .on => sendCommand input (.request .doorOpen) doorCmdOpen rampCmdDeploy true
        | .off => sendCommand input (.request .doorOpen) doorCmdOpen rampCmdNop false
      (offStopButton g, events)
  | .doorClose => (g, sendCommand input (.request .doorClose) doorCmdClose rampCmdNop false)
  | .slopeOpen => (g, sendCommand input (.request .slopeOpen) doorCmdNop rampCmdDeploy true)
  | .slopeClose => (g, sendCommand input (.request .slopeClose) doorCmdNop rampCmdStow true)

/-- One of the four blocks of the CAN section: read the flag, clear it, send. -/
def requestBlock (input : LoopInput) (request : DriverRequest) : Stage :=
  input.at (.readRequest request) fun g =>
    if !g.pending request then (g, [])
    else
      Stage.andThen (input.at (.clearRequest request) (.set fun g => g.setPending request false))
        (input.at (.sendRequest request) (sendRequest input request)) g

def stopBlock (input : LoopInput) : Stage :=
  input.at .readStop fun g =>
    if !g.stopBtnPressed then (g, [])
    else
      input.at .clearStop
        (.set fun g => onStopButton { g with stopBtnPressed := false } input.stopTicks) g

def disabledStopOn (input : LoopInput) (g : DriverEcu) : DriverEcu :=
  let g := { g with disabledStopBtnPressed := false }
  match g.disabledStopBtnState with
  | .on => g
  | .off =>
      let g := { g with disabledStopBtnState := .on }
      match g.stopBtnState with
      | .off => onStopButton g input.disabledTicks
      | .on => playBuzzer g input.disabledTicks

def disabledStopBlock (input : LoopInput) : Stage :=
  input.at .readDisabledStop fun g =>
    if !g.disabledStopBtnPressed then (g, [])
    else input.at .clearDisabledStop (.set (disabledStopOn input)) g

def buzzerBlock (input : LoopInput) (g : DriverEcu) : DriverEcu :=
  if g.buzzerOn && input.buzzerTicks - g.buzzerStart > 70000000 then { g with buzzerOn := false }
  else g

def fireBlock (input : LoopInput) : Stage := fun g =>
  if input.fire then
    if !g.fireAlarmActive then
      ({ g with fireAlarmActive := true, monitorFlags := g.monitorFlags ||| 0x80 },
        .found .fire :: sendCommand input .fire doorCmdOpen rampCmdNop true)
    else (g, [.found .fire])
  else ({ g with fireAlarmActive := false }, [])

def bleBlock (input : LoopInput) : Stage := fun g =>
  let g := { g with ble := (bleUartTc375Poll g.ble input.bleRx).1 }
  match bleUartTc375ConsumeCmd g.ble with
  | none => (g, [])
  | some (ble, cmd) =>
      let g := { g with ble := ble }
      let stop : Stage :=
        if bleUartCmdGetDoor cmd == bleUartReqOpen then
          input.at .writeBleStop (.set fun g => { g with stopBtnPressed := true })
        else .set id
      let disabledStop : Stage :=
        if bleUartCmdGetSlope cmd == bleUartReqOpen then
          input.at .writeBleDisabledStop (.set fun g => { g with disabledStopBtnPressed := true })
        else .set id
      Stage.andThen (.find (.called cmd)) (stop.andThen disabledStop) g

/-- The CAN send section. -/
def sendSection (input : LoopInput) : Stage :=
  Stage.andThen (requestBlock input .doorOpen) <|
  Stage.andThen (requestBlock input .doorClose) <|
  Stage.andThen (requestBlock input .slopeOpen) <|
  requestBlock input .slopeClose

/-- The body of `while (1)` in `core0_main`. -/
def core0MainLoop (input : LoopInput) : Stage :=
  Stage.andThen (.set (resetAndMonitor input)) <|
  Stage.andThen (receiveStatus input) <|
  Stage.andThen (sendSection input) <|
  Stage.andThen (stopBlock input) <|
  Stage.andThen (disabledStopBlock input) <|
  Stage.andThen (.set (buzzerBlock input)) <|
  Stage.andThen (fireBlock input) <|
  bleBlock input

/-- One iteration as a step of a machine. -/
def driverEcuIterate (g : DriverEcu) (input : LoopInput) : DriverEcu × List LoopEvent :=
  core0MainLoop input g

end SmartBusAccess.Driver
