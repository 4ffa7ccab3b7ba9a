import SmartBusAccess.Can.Types

/-!
The door side of the CAN protocol between driver ECU and door ECU
(`driver_with_door_protocol.h`, `door_ecu_can.c`): payload bytes, the last
command received, the last status published.

The socket underneath is not modelled here. Where the source calls it, the
function is given the status it returned and, for a reception, the frame.
-/

namespace SmartBusAccess.Can

/-! ### Payloads -/

abbrev doorCanIdCommand : UInt32 := 0x100
abbrev doorCanIdStatus : UInt32 := 0x101

abbrev doorCmdNop : UInt8 := 0
abbrev doorCmdOpen : UInt8 := 1
abbrev doorCmdClose : UInt8 := 2
abbrev doorCmdStop : UInt8 := 3

abbrev rampCmdNop : UInt8 := 0
abbrev rampCmdDeploy : UInt8 := 1
abbrev rampCmdStow : UInt8 := 2
abbrev rampCmdStop : UInt8 := 3

abbrev doorStateClosed : UInt8 := 0
abbrev doorStateOpened : UInt8 := 1
abbrev doorStateMoving : UInt8 := 2
abbrev doorStateFault : UInt8 := 3

abbrev rampStateStowed : UInt8 := 0
abbrev rampStateDeployed : UInt8 := 1
abbrev rampStateMoving : UInt8 := 2
abbrev rampStateFault : UInt8 := 3

/-- Door command in bits 1..0, ramp command in bits 3..2, then the three flags. -/
def driverWithDoorCanPackCommand (doorCmd rampCmd : UInt8)
    (rampManual emergencyStop resetFault : Bool) : UInt8 :=
  (doorCmd &&& 0x3) ||| ((rampCmd &&& 0x3) <<< (2 : UInt8)) ||| (rampManual.toUInt8 <<< (4 : UInt8)) |||
    (emergencyStop.toUInt8 <<< (5 : UInt8)) ||| (resetFault.toUInt8 <<< (6 : UInt8))

def driverWithDoorCanPackStatus (pinch : Bool) (doorState rampState : UInt8)
    (faultPresent aliveToggle : Bool) : UInt8 :=
  pinch.toUInt8 ||| ((doorState &&& 0x3) <<< (1 : UInt8)) ||| ((rampState &&& 0x3) <<< (3 : UInt8)) |||
    (faultPresent.toUInt8 <<< (5 : UInt8)) ||| (aliveToggle.toUInt8 <<< (6 : UInt8))

def driverWithDoorCanGetDoorCommand (payload : UInt8) : UInt8 := payload &&& 0x3
def driverWithDoorCanGetRampCommand (payload : UInt8) : UInt8 := (payload >>> (2 : UInt8)) &&& 0x3
def driverWithDoorCanGetRampManual (payload : UInt8) : Bool := ((payload >>> (4 : UInt8)) &&& 0x1) != 0
def driverWithDoorCanGetEmergencyStop (payload : UInt8) : Bool := ((payload >>> (5 : UInt8)) &&& 0x1) != 0
def driverWithDoorCanGetResetFault (payload : UInt8) : Bool := ((payload >>> (6 : UInt8)) &&& 0x1) != 0

/-! ### The door endpoint -/

structure DoorECUCANCommandSnapshot where
  commandReceived : Bool
  lastCommandRxMs : UInt32
  doorCommand : UInt8
  rampCommand : UInt8
  rampManual : Bool
  emergencyStop : Bool
  resetFault : Bool
deriving DecidableEq, Repr

structure DoorECUCANStatusCache where
  pinchDetected : Bool
  doorState : UInt8
  rampState : UInt8
  faultPresent : Bool
  aliveToggle : Bool
deriving DecidableEq, Repr

structure DoorECUCAN where
  command : DoorECUCANCommandSnapshot
  statusCache : DoorECUCANStatusCache
  isOpen : Bool
deriving DecidableEq, Repr

def DoorECUCANCommandSnapshot.zero : DoorECUCANCommandSnapshot :=
  ⟨false, 0, 0, 0, false, false, false⟩

def DoorECUCANStatusCache.zero : DoorECUCANStatusCache := ⟨false, 0, 0, false, false⟩

/-- `portName` is `none` when the pointer is null. -/
structure DoorECUCANConfig where
  portName : Option String
  nominalBitrate : UInt32
deriving DecidableEq, Repr

def doorECUCANInit : DoorECUCAN := ⟨.zero, .zero, false⟩

def doorECUCANInitConfig : DoorECUCANConfig := ⟨some "can0", 500000⟩

/-- `opened` is what `CANSocketOpen` returned. -/
def doorECUCANOpen (ecu : DoorECUCAN) (opened : CANStatus) : DoorECUCAN × CANStatus :=
  if ecu.isOpen then (ecu, .ebusy)
  else
    let ecu := { ecu with command := .zero, statusCache := .zero }
    if opened == .ok then ({ ecu with isOpen := true }, opened) else (ecu, opened)

/-- `closed` is what `CANSocketClose` returned. -/
def doorECUCANClose (ecu : DoorECUCAN) (closed : CANStatus) : DoorECUCAN × CANStatus :=
  if closed == .ok then ({ ecu with isOpen := false }, closed) else (ecu, closed)

/-- `received` is what `CANSocketReceiveNow` returned and wrote. The flag is `*updated`. -/
def doorECUCANPollCommand (ecu : DoorECUCAN) (nowMs : UInt32) (received : CANStatus × CANFrame) :
    DoorECUCAN × CANStatus × Bool :=
  let (status, frame) := received
  if status == .enodata then (ecu, .ok, false)
  else if status != .ok then (ecu, status, false)
  else if frame.idType != .standard || frame.id != doorCanIdCommand || frame.len < 1 then
    (ecu, .einval, false)
  else
    let payload := frame.data[0]
    let command : DoorECUCANCommandSnapshot :=
      { commandReceived := true
        lastCommandRxMs := nowMs
        doorCommand := driverWithDoorCanGetDoorCommand payload
        rampCommand := driverWithDoorCanGetRampCommand payload
        rampManual := driverWithDoorCanGetRampManual payload
        emergencyStop := driverWithDoorCanGetEmergencyStop payload
        resetFault := driverWithDoorCanGetResetFault payload }
    ({ ecu with command := command }, .ok, true)

/-- With the payload handed to `CANSocketSendClassicStd`; `sent` is what that returned. -/
def doorECUCANPublishStatus (ecu : DoorECUCAN) (pinchDetected : Bool) (doorState rampState : UInt8)
    (faultPresent : Bool) (sent : CANStatus) : DoorECUCAN × CANStatus × Option UInt8 :=
  if doorState > doorStateFault || rampState > rampStateFault then (ecu, .einval, none)
  else
    let cache : DoorECUCANStatusCache :=
      { pinchDetected := pinchDetected
        doorState := doorState
        rampState := rampState
        faultPresent := faultPresent
        aliveToggle := !ecu.statusCache.aliveToggle }
    let payload := driverWithDoorCanPackStatus cache.pinchDetected cache.doorState cache.rampState
      cache.faultPresent cache.aliveToggle
    ({ ecu with statusCache := cache }, sent, some payload)

/-- A frame of the driver ECU: standard identifier, one payload byte. -/
def commandFrame (payload : UInt8) : CANFrame :=
  ⟨.standard, .classic, doorCanIdCommand, 1, (Vector.replicate 64 0).set 0 payload⟩

end SmartBusAccess.Can
