import SmartBusAccess.Can.DoorEcuCan

/-!
The driver side of the protocol between driver ECU and door ECU
(`driver_ecu_can.c`): commands sent, the last status received.

As on the door side, a function that calls the socket is given what the socket
returned.
-/

namespace SmartBusAccess.Can

def driverWithDoorCanGetPinch (payload : UInt8) : Bool := (payload &&& 0x1) != 0
def driverWithDoorCanGetDoorState (payload : UInt8) : UInt8 := (payload >>> (1 : UInt8)) &&& 0x3
def driverWithDoorCanGetRampState (payload : UInt8) : UInt8 := (payload >>> (3 : UInt8)) &&& 0x3
def driverWithDoorCanGetFaultPresent (payload : UInt8) : Bool := ((payload >>> (5 : UInt8)) &&& 0x1) != 0
def driverWithDoorCanGetAliveToggle (payload : UInt8) : Bool := ((payload >>> (6 : UInt8)) &&& 0x1) != 0

structure DriverECUCANStatusSnapshot where
  statusReceived : Bool
  lastStatusRxMs : UInt32
  pinchDetected : Bool
  doorState : UInt8
  rampState : UInt8
  faultPresent : Bool
  aliveToggle : Bool
deriving DecidableEq, Repr

structure DriverECUCAN where
  status : DriverECUCANStatusSnapshot
  isOpen : Bool
deriving DecidableEq, Repr

def DriverECUCANStatusSnapshot.zero : DriverECUCANStatusSnapshot :=
  ⟨false, 0, false, 0, 0, false, false⟩

/-- `portName` is `none` when the pointer is null. -/
structure DriverECUCANConfig where
  portName : Option String
  nominalBitrate : UInt32
deriving DecidableEq, Repr

def driverECUCANInit : DriverECUCAN := ⟨.zero, false⟩

/-- `opened` is what `CANSocketOpen` returned. -/
def driverECUCANOpen (ecu : DriverECUCAN) (opened : CANStatus) : DriverECUCAN × CANStatus :=
  if ecu.isOpen then (ecu, .ebusy)
  else
    let ecu := { ecu with status := .zero }
    if opened == .ok then ({ ecu with isOpen := true }, opened) else (ecu, opened)

/-- `closed` is what `CANSocketClose` returned. -/
def driverECUCANClose (ecu : DriverECUCAN) (closed : CANStatus) : DriverECUCAN × CANStatus :=
  if closed == .ok then ({ ecu with isOpen := false }, closed) else (ecu, closed)

/-- With the payload handed to `CANSocketSendClassicStd`; `sent` is what that returned. -/
def driverECUCANSendCommand (doorCmd rampCmd : UInt8) (rampManual emergencyStop resetFault : Bool)
    (sent : CANStatus) : CANStatus × Option UInt8 :=
  if doorCmd > doorCmdStop || rampCmd > rampCmdStop then (.einval, none)
  else
    (sent,
      some (driverWithDoorCanPackCommand doorCmd rampCmd rampManual emergencyStop resetFault))

/-- `received` is what `CANSocketReceiveNow` returned and wrote. The flag is `*updated`. -/
def driverECUCANPollStatus (ecu : DriverECUCAN) (nowMs : UInt32) (received : CANStatus × CANFrame) :
    DriverECUCAN × CANStatus × Bool :=
  let frame := received.2
  if received.1 == .enodata then (ecu, .ok, false)
  else if received.1 != .ok then (ecu, received.1, false)
  else if frame.idType != .standard || frame.id != doorCanIdStatus || frame.len < 1 then
    (ecu, .einval, false)
  else
    let payload := frame.data.get 0
    let status : DriverECUCANStatusSnapshot :=
      { statusReceived := true
        lastStatusRxMs := nowMs
        pinchDetected := driverWithDoorCanGetPinch payload
        doorState := driverWithDoorCanGetDoorState payload
        rampState := driverWithDoorCanGetRampState payload
        faultPresent := driverWithDoorCanGetFaultPresent payload
        aliveToggle := driverWithDoorCanGetAliveToggle payload }
    ({ ecu with status := status }, .ok, true)

end SmartBusAccess.Can
