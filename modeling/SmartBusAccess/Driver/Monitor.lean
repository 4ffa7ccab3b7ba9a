import SmartBusAccess.Driver.LoopRule
import SmartBusAccess.Semantics.Runs

/-!
What the monitor's flags say about the driver ECU (`monitorFlags`, shared with the core that
drives the display).

`Shown`: the stop bit is the stop bell, the obstacle bit the obstacle flag, and the bell for
disabled passengers does not ring alone. Every iteration keeps it, whatever interrupts come.
-/

namespace SmartBusAccess.Driver

open SmartBusAccess.Can SmartBusAccess.Uart Emitting Runs

/-! ### Bits of a byte -/

theorem or_and (x y z : UInt8) : (x ||| y) &&& z = (x &&& z) ||| (y &&& z) := by
  apply UInt8.eq_of_toBitVec_eq
  simp only [UInt8.toBitVec_and, UInt8.toBitVec_or]
  ext i h
  simp [Bool.and_or_distrib_right]

theorem masked_set (flags bit mask : UInt8) (apart : bit &&& mask = 0) :
    (flags ||| bit) &&& mask = flags &&& mask := by
  rw [or_and, apart, UInt8.or_zero]

theorem masked_set_self (flags bit : UInt8) : (flags ||| bit) &&& bit = bit := by
  apply UInt8.eq_of_toBitVec_eq
  simp only [UInt8.toBitVec_and, UInt8.toBitVec_or]
  ext i h
  simp only [BitVec.getElem_and, BitVec.getElem_or]
  grind

theorem masked_clear (flags bits mask : UInt8) (kept : bits &&& mask = mask) :
    (flags &&& bits) &&& mask = flags &&& mask := by
  rw [UInt8.and_assoc, kept]

theorem masked_clear_zero (flags bits mask : UInt8) (gone : bits &&& mask = 0) :
    (flags &&& bits) &&& mask = 0 := by
  rw [UInt8.and_assoc, gone, UInt8.and_zero]

/-! ### The head of the loop -/

/-- The door's bit follows the door when it stands still. -/
def monitorDoor (g : DriverEcu) : DriverEcu :=
  if g.doorState == doorStateOpened then { g with monitorFlags := g.monitorFlags ||| 0x80 }
  else if g.doorState == doorStateClosed then { g with monitorFlags := g.monitorFlags &&& 0x7F }
  else g

def monitorSlope (g : DriverEcu) : DriverEcu :=
  if g.slopeState == rampStateDeployed then { g with monitorFlags := g.monitorFlags ||| 0x40 }
  else if g.slopeState == rampStateStowed then { g with monitorFlags := g.monitorFlags &&& 0xBF }
  else g

theorem resetAndMonitor_eq (input : LoopInput) (g : DriverEcu) : resetAndMonitor input g =
    monitorSlope (monitorDoor (if input.stopBtnOff then offStopButton g else g)) :=
  rfl

/-! ### The bells and the obstacle -/

/-- What `Shown` looks at. -/
def DriverEcu.bells (g : DriverEcu) : StopBtnState × DisabledStopBtnState × Bool × UInt8 :=
  (g.stopBtnState, g.disabledStopBtnState, g.obstacleDetected, g.monitorFlags)

structure Shown (g : DriverEcu) : Prop where
  unused : g.monitorFlags &&& 0x0F = 0
  stop : (g.monitorFlags &&& 0x10 != 0) = (g.stopBtnState == .on)
  block : (g.monitorFlags &&& 0x20 != 0) = g.obstacleDetected
  bell : g.disabledStopBtnState = .on → g.stopBtnState = .on

section Shown

variable {g g' : DriverEcu}

theorem shown_boot : Shown driverEcuBoot := ⟨rfl, rfl, rfl, nofun⟩

theorem Shown.congr (shown : Shown g) (same : g'.bells = g.bells) : Shown g' := by
  simp only [DriverEcu.bells, Prod.mk.injEq] at same
  obtain ⟨stop, disabled, obstacle, flags⟩ := same
  constructor
  · rw [flags]; exact shown.unused
  · rw [flags, stop]; exact shown.stop
  · rw [flags, obstacle]; exact shown.block
  · rw [disabled, stop]; exact shown.bell

/-- The door and slope bits are no part of it. -/
theorem Shown.flags (shown : Shown g) {flags : UInt8}
    (same : flags &&& 0x3F = g.monitorFlags &&& 0x3F) : Shown { g with monitorFlags := flags } := by
  have masked : ∀ mask : UInt8, 0x3F &&& mask = mask →
      flags &&& mask = g.monitorFlags &&& mask := by
    intro mask within
    rw [← within, ← UInt8.and_assoc, same, UInt8.and_assoc]
  constructor
  · exact (masked 0x0F rfl).trans shown.unused
  · rw [masked 0x10 rfl]; exact shown.stop
  · rw [masked 0x20 rfl]; exact shown.block
  · exact shown.bell

theorem Shown.set (shown : Shown g) (bit : UInt8) (apart : bit &&& 0x3F = 0) :
    Shown { g with monitorFlags := g.monitorFlags ||| bit } :=
  shown.flags (masked_set _ _ _ apart)

theorem Shown.unset (shown : Shown g) (bits : UInt8) (kept : bits &&& 0x3F = 0x3F) :
    Shown { g with monitorFlags := g.monitorFlags &&& bits } :=
  shown.flags (masked_clear _ _ _ kept)

theorem Shown.writeObstacle (shown : Shown g) (pinch : Bool) : Shown (writeObstacle pinch g) := by
  cases pinch with
  | true =>
      constructor
      · exact (masked_set _ _ _ rfl).trans shown.unused
      · exact (congrArg (· != 0) (masked_set _ _ _ rfl)).trans shown.stop
      · exact congrArg (· != 0) (masked_set_self _ _)
      · exact shown.bell
  | false =>
      constructor
      · exact (masked_clear _ _ _ rfl).trans shown.unused
      · exact (congrArg (· != 0) (masked_clear _ _ _ rfl)).trans shown.stop
      · exact congrArg (· != 0) (masked_clear_zero _ _ _ rfl)
      · exact shown.bell

theorem Shown.offStopButton (shown : Shown g) : Shown (offStopButton g) := by
  unfold Driver.offStopButton
  split
  · constructor
    · exact (masked_clear _ _ _ rfl).trans shown.unused
    · exact congrArg (· != 0) (masked_clear_zero _ _ _ rfl)
    · exact (congrArg (· != 0) (masked_clear _ _ _ rfl)).trans shown.block
    · intro on
      cases on
  · exact shown

/-- Before the call the bell for disabled passengers may be alone. -/
theorem Shown.onStopButton {disabled : DisabledStopBtnState} (shown : Shown g) (ticks : UInt64) :
    Shown (onStopButton { g with disabledStopBtnState := disabled } ticks) := by
  unfold Driver.onStopButton
  split
  · constructor
    · exact (masked_set _ _ _ rfl).trans shown.unused
    · exact congrArg (· != 0) (masked_set_self _ _)
    · exact (congrArg (· != 0) (masked_set _ _ _ rfl)).trans shown.block
    · exact fun _ => rfl
  · rename_i ringing
    exact ⟨shown.unused, shown.stop, shown.block, fun _ => ringing⟩

theorem Shown.disabledStopOn (shown : Shown g) (input : LoopInput) :
    Shown (disabledStopOn input g) := by
  have cleared : Shown { g with disabledStopBtnPressed := false } := shown.congr rfl
  simp only [Driver.disabledStopOn]
  split
  · exact cleared
  · split
    · exact cleared.onStopButton _
    · rename_i ringing
      exact ⟨shown.unused, shown.stop, shown.block, fun _ => ringing⟩

theorem Shown.monitorDoor (shown : Shown g) : Shown (monitorDoor g) := by
  unfold Driver.monitorDoor
  split
  · exact shown.set _ rfl
  split
  · exact shown.unset _ rfl
  · exact shown

theorem Shown.monitorSlope (shown : Shown g) : Shown (monitorSlope g) := by
  unfold Driver.monitorSlope
  split
  · exact shown.set _ rfl
  split
  · exact shown.unset _ rfl
  · exact shown

theorem Shown.resetAndMonitor (shown : Shown g) (input : LoopInput) :
    Shown (resetAndMonitor input g) := by
  rw [resetAndMonitor_eq]
  apply Shown.monitorSlope
  apply Shown.monitorDoor
  split
  · exact shown.offStopButton
  · exact shown

theorem Shown.serve (isr : ButtonIsr) :
    Triple Shown (fun g => isr.serve g) Shown fun _ => True := by
  intro g shown
  refine ⟨shown.congr ?_, fun _ _ => trivial⟩
  cases isr with
  | onStopBtn => rfl
  | onDisabledStopBtn => rfl
  | doorControlBtn =>
      simp only [ButtonIsr.serve, doorControlBtnISR]
      split_ifs <;> rfl
  | slopeControlBtn =>
      simp only [ButtonIsr.serve, slopeControlBtnISR]
      split_ifs <;> rfl

theorem shown_rule (input : LoopInput) :
    LoopInvariant input Shown (fun _ => Shown) fun _ => True where
  serve := Shown.serve
  serveCleared _ := Shown.serve
  reset _ shown := shown.resetAndMonitor input
  poll _ _ _ shown := shown.congr rfl
  obstacle _ _ _ shown := shown.writeObstacle _
  doorState _ _ _ shown := shown.congr rfl
  slopeState _ _ _ shown := shown.congr rfl
  clear request _ shown _ := by cases request <;> exact shown.congr rfl
  send request g shown := by
    refine ⟨?_, fun _ _ => trivial⟩
    cases request with
    | doorOpen => exact shown.offStopButton
    | _ => exact shown
  stop g shown := by
    have cleared : Shown { g with stopBtnPressed := false } := shown.congr rfl
    exact cleared.onStopButton _
  disabledStop _ shown := shown.disabledStopOn input
  buzzer g shown := by
    unfold buzzerBlock
    split
    · exact shown.congr rfl
    · exact shown
  fire g shown := by
    refine ⟨?_, fun _ _ => trivial⟩
    unfold fireBlock
    split
    · split
      · exact (shown.set 0x80 rfl).congr rfl
      · exact shown
    · exact shown.congr rfl
  found _ := trivial
  ble _ _ shown := shown.congr rfl
  bleStop _ shown := shown.congr rfl
  bleDisabledStop _ shown := shown.congr rfl

end Shown

/-- The driver ECU after iterations, from power-up. -/
def driverEcuRun (inputs : List LoopInput) : DriverEcu :=
  run (next driverEcuIterate) driverEcuBoot inputs

theorem Shown.iterate (g : DriverEcu) (input : LoopInput) (shown : Shown g) :
    Shown (driverEcuIterate g input).1 :=
  ((shown_rule input).iterate g shown).1

/-- Over any run of the main loop, whatever interrupts come between its accesses: the monitor
shows the stop bell and the obstacle as they are, it uses no other bit below the door's and the
slope's, and the bell for disabled passengers rings only with the stop bell. -/
theorem monitor_shown (inputs : List LoopInput) : Shown (driverEcuRun inputs) :=
  run_invariant Shown Shown.iterate shown_boot inputs

end SmartBusAccess.Driver
