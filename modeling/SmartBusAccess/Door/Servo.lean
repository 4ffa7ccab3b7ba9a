import Mathlib.Data.Nat.Notation

/-!
The door servo (`Door_Control.c`): a target duty and a current duty that follows
it one step at a time.

Duties are counted in tenths of a percent, where the source uses `float32`
percent with a step of `0.1f` and snaps to the target within half a step. The PWM
hardware is left out; `ready` is what `initDoorPWM` returned.
-/

namespace SmartBusAccess.Door

abbrev doorOpenDuty : ℕ := 125
abbrev doorCloseDuty : ℕ := 25

abbrev doorDutyStep : ℕ := 1
abbrev doorSpeedMs : UInt32 := 15

abbrev doorMoveBaseTimeMs : UInt32 :=
  .ofNat ((doorOpenDuty - doorCloseDuty) / doorDutyStep) * doorSpeedMs
abbrev doorMoveMarginMs : UInt32 := 200
abbrev doorMoveAssumedTimeMs : UInt32 := doorMoveBaseTimeMs + doorMoveMarginMs

structure DoorServo where
  ready : Bool
  currentDuty : ℕ
  targetDuty : ℕ
  lastUpdateTick : UInt64
  tickInterval : UInt64
deriving DecidableEq, Repr

def DoorServo.boot : DoorServo := ⟨false, doorCloseDuty, doorCloseDuty, 0, 0⟩

/-- `tickInterval` is `doorSpeedMs` in STM ticks. -/
def doorInit (ready : Bool) (tickInterval nowTick : UInt64) : DoorServo :=
  ⟨ready, doorCloseDuty, doorCloseDuty, nowTick, tickInterval⟩

def driveDoorOpen (s : DoorServo) : DoorServo := { s with targetDuty := doorOpenDuty }

def driveDoorClose (s : DoorServo) : DoorServo := { s with targetDuty := doorCloseDuty }

def doorUpdate (s : DoorServo) (currentTick : UInt64) : DoorServo :=
  if !s.ready then s
  else if s.currentDuty = s.targetDuty then s
  else if currentTick - s.lastUpdateTick < s.tickInterval then s
  else
    let duty :=
      if s.currentDuty < s.targetDuty then min (s.currentDuty + doorDutyStep) s.targetDuty
      else max (s.currentDuty - doorDutyStep) s.targetDuty
    { s with lastUpdateTick := currentTick, currentDuty := duty }

@[simp] theorem targetDuty_doorUpdate (s : DoorServo) (currentTick : UInt64) :
    (doorUpdate s currentTick).targetDuty = s.targetDuty := by
  unfold doorUpdate
  split
  · rfl
  · split
    · rfl
    · split <;> rfl

@[simp] theorem targetDuty_driveDoorOpen (s : DoorServo) :
    (driveDoorOpen s).targetDuty = doorOpenDuty := rfl

@[simp] theorem targetDuty_driveDoorClose (s : DoorServo) :
    (driveDoorClose s).targetDuty = doorCloseDuty := rfl

end SmartBusAccess.Door
