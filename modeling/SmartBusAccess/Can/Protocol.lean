import SmartBusAccess.Can.AliveToggle

/-!
The two frames of the protocol between driver ECU and door ECU, from one end to the other.

A command that `driverECUCANSendCommand` accepts comes out of `doorECUCANPollCommand` as it
was, and a status that `doorECUCANPublishStatus` accepts out of `driverECUCANPollStatus`.
-/

namespace SmartBusAccess.Can

/-! ### Contents -/

/-- What a command byte says. -/
structure CommandFields where
  doorCommand : UInt8
  rampCommand : UInt8
  rampManual : Bool
  emergencyStop : Bool
  resetFault : Bool
deriving DecidableEq, Repr

/-- What a status byte says. -/
structure StatusFields where
  pinchDetected : Bool
  doorState : UInt8
  rampState : UInt8
  faultPresent : Bool
  aliveToggle : Bool
deriving DecidableEq, Repr

namespace CommandFields

def pack (c : CommandFields) : UInt8 :=
  driverWithDoorCanPackCommand c.doorCommand c.rampCommand c.rampManual c.emergencyStop c.resetFault

def unpack (payload : UInt8) : CommandFields where
  doorCommand := driverWithDoorCanGetDoorCommand payload
  rampCommand := driverWithDoorCanGetRampCommand payload
  rampManual := driverWithDoorCanGetRampManual payload
  emergencyStop := driverWithDoorCanGetEmergencyStop payload
  resetFault := driverWithDoorCanGetResetFault payload

/-- The sender accepts it. -/
def Valid (c : CommandFields) : Prop := c.doorCommand ≤ doorCmdStop ∧ c.rampCommand ≤ rampCmdStop

end CommandFields

namespace StatusFields

def pack (c : StatusFields) : UInt8 :=
  driverWithDoorCanPackStatus c.pinchDetected c.doorState c.rampState c.faultPresent c.aliveToggle

def unpack (payload : UInt8) : StatusFields where
  pinchDetected := driverWithDoorCanGetPinch payload
  doorState := driverWithDoorCanGetDoorState payload
  rampState := driverWithDoorCanGetRampState payload
  faultPresent := driverWithDoorCanGetFaultPresent payload
  aliveToggle := driverWithDoorCanGetAliveToggle payload

def Valid (c : StatusFields) : Prop := c.doorState ≤ doorStateFault ∧ c.rampState ≤ rampStateFault

end StatusFields

def DoorECUCANCommandSnapshot.fields (s : DoorECUCANCommandSnapshot) : CommandFields :=
  ⟨s.doorCommand, s.rampCommand, s.rampManual, s.emergencyStop, s.resetFault⟩

def DriverECUCANStatusSnapshot.fields (s : DriverECUCANStatusSnapshot) : StatusFields :=
  ⟨s.pinchDetected, s.doorState, s.rampState, s.faultPresent, s.aliveToggle⟩

/-! ### Bytes -/

theorem two_bits {x : UInt8} (small : x ≤ 3) : ∃ i : Fin 4, x = UInt8.ofNat i := by
  refine ⟨⟨x.toNat, Nat.lt_succ_of_le (UInt8.le_iff_toNat_le.mp small)⟩, ?_⟩
  simp

theorem CommandFields.unpack_pack {c : CommandFields} (valid : c.Valid) : unpack c.pack = c := by
  obtain ⟨door, ramp, manual, stop, reset⟩ := c
  obtain ⟨i, rfl⟩ := two_bits valid.1
  obtain ⟨j, rfl⟩ := two_bits valid.2
  clear valid
  revert i j manual stop reset
  decide

theorem StatusFields.unpack_pack {c : StatusFields} (valid : c.Valid) : unpack c.pack = c := by
  obtain ⟨pinch, door, ramp, fault, alive⟩ := c
  obtain ⟨i, rfl⟩ := two_bits valid.1
  obtain ⟨j, rfl⟩ := two_bits valid.2
  clear valid
  revert i j pinch fault alive
  decide

/-! ### Frames -/

theorem pollCommand_commandFrame (ecu : DoorECUCAN) (nowMs : UInt32) (payload : UInt8) :
    ∃ command, doorECUCANPollCommand ecu nowMs (.ok, commandFrame payload) =
        ({ ecu with command := command }, .ok, true) ∧
      command.fields = CommandFields.unpack payload ∧
      command.commandReceived = true ∧ command.lastCommandRxMs = nowMs :=
  ⟨_, rfl, rfl, rfl, rfl⟩

theorem statusFrame_get (payload : UInt8) : (statusFrame payload).data.get 0 = payload :=
  Vector.getElem_ofFn _

theorem pollStatus_statusFrame (ecu : DriverECUCAN) (nowMs : UInt32) (payload : UInt8) :
    ∃ status, driverECUCANPollStatus ecu nowMs (.ok, statusFrame payload) =
        ({ ecu with status := status }, .ok, true) ∧
      status.fields = StatusFields.unpack payload ∧
      status.statusReceived = true ∧ status.lastStatusRxMs = nowMs := by
  refine ⟨_, rfl, ?_, rfl, rfl⟩
  rw [← congrArg StatusFields.unpack (statusFrame_get payload)]
  rfl

end SmartBusAccess.Can
