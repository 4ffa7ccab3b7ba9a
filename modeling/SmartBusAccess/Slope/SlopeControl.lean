import Mathlib.Data.Int.Notation
import SmartBusAccess.Semantics.Runs

/-!
The stepper motor of the ramp (`Slope_Control.c`).

A command starts the motor when it stands still, and `updateSlope` takes one step at a time
until `targetSteps` are done. Where the ramp is follows from the coil patterns that are
written: `Ramp.energize` turns the rotor to the pattern next to it. `updateSlope` returns what
it writes; the ports are left out.

Open and close do the same, so the ramp obeys the last command in one case only
(`slope_obeys_iff`).
-/

namespace SmartBusAccess.Slope

/-! ### The motor -/

abbrev Coils := Vector Bool 4

def stepSequence : Vector Coils 4 :=
  #v[#v[true, true, false, false],
    #v[false, true, true, false],
    #v[false, false, true, true],
    #v[true, false, false, true]]

def coilsOff : Coils := #v[false, false, false, false]

abbrev targetSteps : UInt32 := 1024

/-- The static variables. The index into `stepSequence` starts again after its end. -/
structure SlopeControl where
  isSlopeMoving : Bool
  currentStepCount : UInt32
  lastTick : UInt32
  stepIndex : Fin 4
deriving DecidableEq, Repr

def SlopeControl.boot : SlopeControl := ⟨false, 0, 0, 0⟩

def driveSlopeOpen (s : SlopeControl) (tick : UInt32) : SlopeControl :=
  if !s.isSlopeMoving then { s with isSlopeMoving := true, currentStepCount := 0, lastTick := tick }
  else s

def driveSlopeClose (s : SlopeControl) (tick : UInt32) : SlopeControl :=
  if !s.isSlopeMoving then { s with isSlopeMoving := true, currentStepCount := 0, lastTick := tick }
  else s

/-- `tick` and `setTick` are its two readings of the clock. -/
def updateSlope (s : SlopeControl) (tick setTick : UInt32) : SlopeControl × List Coils :=
  if s.isSlopeMoving then
    if 3 ≤ tick - s.lastTick then
      let coils := stepSequence[s.stepIndex]
      let s := { s with
        lastTick := setTick
        stepIndex := s.stepIndex + 1
        currentStepCount := s.currentStepCount + 1 }
      if targetSteps ≤ s.currentStepCount then
        ({ s with isSlopeMoving := false }, [coils, coilsOff])
      else (s, [coils])
    else (s, [])
  else (s, [])

/-- An update that is due takes one step, and the last of them switches the coils off. -/
theorem updateSlope_step {s : SlopeControl} {tick : UInt32} (moving : s.isSlopeMoving = true)
    (due : 3 ≤ tick - s.lastTick) (setTick : UInt32) : updateSlope s tick setTick =
      (⟨!decide (targetSteps ≤ s.currentStepCount + 1), s.currentStepCount + 1, setTick,
          s.stepIndex + 1⟩,
        stepSequence[s.stepIndex] ::
          if targetSteps ≤ s.currentStepCount + 1 then [coilsOff] else []) := by
  by_cases last : targetSteps ≤ s.currentStepCount + 1
  · simp [updateSlope, moving, due, last]
  · simp [updateSlope, moving, due, last]

theorem updateSlope_still {s : SlopeControl} {tick : UInt32}
    (still : ¬ (s.isSlopeMoving = true ∧ 3 ≤ tick - s.lastTick)) (setTick : UInt32) :
    updateSlope s tick setTick = (s, []) := by
  cases moving : s.isSlopeMoving with
  | false => simp [updateSlope, moving]
  | true =>
      have early : ¬ 3 ≤ tick - s.lastTick := fun due => still ⟨moving, due⟩
      simp [updateSlope, moving, early]

theorem stepCount_succ {s : SlopeControl} (early : s.currentStepCount < targetSteps) :
    (s.currentStepCount + 1).toNat = s.currentStepCount.toNat + 1 := by
  rw [UInt32.lt_iff_toNat_lt] at early
  rw [UInt32.toNat_add]
  simp only [UInt32.toNat_ofNat] at early ⊢
  omega

/-! ### The ramp -/

/-- How many steps it is from where it is stowed, in the direction of the sequence, and the
pattern that the rotor is turned to. -/
structure Ramp where
  position : ℤ
  phase : Fin 4
deriving DecidableEq, Repr

namespace Ramp

/-- Before the sequence begins. -/
def stowed : Ramp := ⟨0, 3⟩

/-- The pattern next to the rotor turns it by a step; its own pattern, the opposite one and none
at all do not. -/
def energize (r : Ramp) (coils : Coils) : Ramp :=
  if coils = stepSequence[r.phase + 1] then ⟨r.position + 1, r.phase + 1⟩
  else if coils = stepSequence[r.phase - 1] then ⟨r.position - 1, r.phase - 1⟩
  else r

theorem energize_next (position : ℤ) (index : Fin 4) :
    energize ⟨position, index - 1⟩ stepSequence[index] = ⟨position + 1, index⟩ := by
  have next : index - 1 + 1 = index := by omega
  simp [energize, next]

theorem energize_off (r : Ramp) : r.energize coilsOff = r := by
  have energized : ∀ index : Fin 4, coilsOff ≠ stepSequence[index] := by decide
  exact (if_neg (energized _)).trans (if_neg (energized _))

end Ramp

/-! ### Runs -/

inductive SlopeCommand where
  | driveOpen
  | driveClose
deriving DecidableEq, Repr

/-- Where the ramp should be after it. -/
def SlopeCommand.position : SlopeCommand → ℤ
  | driveOpen => 1024
  | driveClose => 0

inductive SlopeCall where
  | driveSlopeOpen (tick : UInt32)
  | driveSlopeClose (tick : UInt32)
  | updateSlope (tick setTick : UInt32)
deriving DecidableEq, Repr

/-- The motor and the ramp, with the last command and how many commands found the motor at a
standstill. -/
structure SlopeMotor where
  control : SlopeControl
  ramp : Ramp
  lastCommand : Option SlopeCommand
  started : ℕ
deriving DecidableEq, Repr

namespace SlopeMotor

def start : SlopeMotor := ⟨.boot, .stowed, none, 0⟩

def commanded (s : SlopeMotor) (command : SlopeCommand) (control : SlopeControl) : SlopeMotor :=
  ⟨control, s.ramp, some command, if s.control.isSlopeMoving then s.started else s.started + 1⟩

def next (s : SlopeMotor) : SlopeCall → SlopeMotor
  | .driveSlopeOpen tick => s.commanded .driveOpen (driveSlopeOpen s.control tick)
  | .driveSlopeClose tick => s.commanded .driveClose (driveSlopeClose s.control tick)
  | .updateSlope tick setTick =>
      let (control, written) := updateSlope s.control tick setTick
      { s with control := control, ramp := written.foldl Ramp.energize s.ramp }

/-- When the motor stands still after a command, the ramp is where the last one sends it. -/
def Obeys (s : SlopeMotor) : Prop :=
  s.control.isSlopeMoving = false →
    ∀ command, s.lastCommand = some command → s.ramp.position = command.position

/-- The last command is an open, and it or one before it is the only one that started the
motor. -/
def OpenedOnce (s : SlopeMotor) : Prop :=
  s.control.isSlopeMoving = false →
    ∀ command, s.lastCommand = some command → command = .driveOpen ∧ s.started = 1

/-- What every call keeps. -/
structure Steps (s : SlopeMotor) : Prop where
  phase : s.ramp.phase = s.control.stepIndex - 1
  still : s.control.isSlopeMoving = false → s.ramp.position = 1024 * s.started
  moving : s.control.isSlopeMoving = true → 0 < s.started ∧
    s.control.currentStepCount < targetSteps ∧
    s.ramp.position + 1024 = 1024 * s.started + s.control.currentStepCount.toNat
  asked : s.lastCommand ≠ none → 0 < s.started

theorem start_steps : start.Steps := ⟨rfl, fun _ => rfl, nofun, fun some => absurd rfl some⟩

variable {s : SlopeMotor}

theorem Steps.command (steps : s.Steps) (command : SlopeCommand) (tick : UInt32) :
    (s.commanded command (driveSlopeOpen s.control tick)).Steps := by
  cases moving : s.control.isSlopeMoving with
  | true =>
      have ignored : driveSlopeOpen s.control tick = s.control := by simp [driveSlopeOpen, moving]
      rw [ignored]
      simp only [commanded, moving, if_true]
      exact ⟨steps.phase, steps.still, steps.moving, fun _ => (steps.moving moving).1⟩
  | false =>
      have position := steps.still moving
      simp only [commanded, driveSlopeOpen, moving, Bool.not_false, if_true, Bool.false_eq_true,
        if_false]
      have fresh : (0 : UInt32) < targetSteps := by decide
      refine ⟨steps.phase, nofun, fun _ => ⟨Nat.succ_pos _, fresh, ?_⟩, fun _ => Nat.succ_pos _⟩
      simp only [UInt32.toNat_zero]
      omega

theorem Steps.update (steps : s.Steps) (tick setTick : UInt32) :
    (s.next (.updateSlope tick setTick)).Steps := by
  by_cases step : s.control.isSlopeMoving = true ∧ 3 ≤ tick - s.control.lastTick
  case neg =>
    rw [SlopeMotor.next, updateSlope_still step]
    exact ⟨steps.phase, steps.still, steps.moving, steps.asked⟩
  obtain ⟨moving, due⟩ := step
  obtain ⟨started, early, position⟩ := steps.moving moving
  have turned : s.ramp.energize stepSequence[s.control.stepIndex] =
      ⟨s.ramp.position + 1, s.control.stepIndex⟩ := by
    rw [← Ramp.energize_next, ← steps.phase]
  have phase : s.control.stepIndex = s.control.stepIndex + 1 - 1 := by omega
  have count := stepCount_succ early
  rw [SlopeMotor.next, updateSlope_step moving due]
  by_cases last : targetSteps ≤ s.control.currentStepCount + 1
  · simp only [last, decide_true, Bool.not_true, if_true, List.foldl_cons, List.foldl_nil, turned,
      Ramp.energize_off]
    have reached : s.ramp.position + 1 = 1024 * s.started := by
      rw [UInt32.le_iff_toNat_le, count] at last
      rw [UInt32.lt_iff_toNat_lt] at early
      simp only [UInt32.toNat_ofNat] at early last
      omega
    exact ⟨phase, fun _ => reached, nofun, steps.asked⟩
  · simp only [last, decide_false, Bool.not_false, if_false, List.foldl_cons, List.foldl_nil,
      turned]
    refine ⟨phase, nofun, fun _ => ⟨started, UInt32.not_le.mp last, ?_⟩, steps.asked⟩
    simp only [count]
    omega

theorem Steps.next (steps : s.Steps) (call : SlopeCall) : (s.next call).Steps := by
  cases call with
  | driveSlopeOpen tick => exact steps.command .driveOpen tick
  | driveSlopeClose tick => exact steps.command .driveClose tick
  | updateSlope tick setTick => exact steps.update tick setTick

theorem Steps.obeys_iff (steps : s.Steps) : s.Obeys ↔ s.OpenedOnce := by
  unfold Obeys OpenedOnce
  refine forall_congr' fun still => forall_congr' fun command => forall_congr' fun last => ?_
  have position := steps.still still
  have asked := steps.asked (by simp [last])
  cases command with
  | driveOpen =>
      simp only [SlopeCommand.position, true_and]
      omega
  | driveClose =>
      simp only [SlopeCommand.position, reduceCtorEq, false_and, iff_false]
      omega

end SlopeMotor

/-- For every sequence of calls, at any times: whenever the motor stands still after a command,
the ramp is where the last one sends it if and only if that is an open and only one command
found the motor at a standstill. -/
theorem slope_obeys_iff (calls : List SlopeCall) :
    (Runs.run SlopeMotor.next .start calls).Obeys ↔
      (Runs.run SlopeMotor.next .start calls).OpenedOnce :=
  (Runs.run_invariant SlopeMotor.Steps (fun _ call steps => steps.next call) SlopeMotor.start_steps
    calls).obeys_iff

/-! ### A ramp that is opened and closed -/

/-- Updates 3 ms apart. -/
def updates : ℕ → UInt32 → List SlopeCall
  | 0, _ => []
  | n + 1, tick => .updateSlope (tick + 3) (tick + 3) :: updates n (tick + 3)

/-- They end a motion once they are enough for the steps that are left. -/
theorem updates_end {s : SlopeMotor} (steps : s.Steps) (moving : s.control.isSlopeMoving = true)
    {n : ℕ} (left : s.control.currentStepCount.toNat + n = 1024) {tick : UInt32}
    (last : s.control.lastTick = tick) :
    let s' := Runs.run SlopeMotor.next s (updates n tick)
    s'.Steps ∧ s'.control.isSlopeMoving = false ∧ s'.lastCommand = s.lastCommand ∧
      s'.started = s.started := by
  induction n generalizing s tick with
  | zero =>
      have below := UInt32.lt_iff_toNat_lt.mp (steps.moving moving).2.1
      simp only [UInt32.toNat_ofNat] at below
      omega
  | succ n ih =>
      have count := stepCount_succ (steps.moving moving).2.1
      have due : 3 ≤ tick + 3 - s.control.lastTick := by
        rw [last, UInt32.add_comm, UInt32.add_sub_cancel]
        exact UInt32.le_refl 3
      have after := steps.update (tick + 3) (tick + 3)
      rw [updates, Runs.run_cons]
      rw [SlopeMotor.next, updateSlope_step moving due] at after ⊢
      by_cases done : targetSteps ≤ s.control.currentStepCount + 1
      · have enough := UInt32.le_iff_toNat_le.mp done
        rw [count] at enough
        simp only [UInt32.toNat_ofNat] at enough
        obtain rfl : n = 0 := by omega
        exact ⟨after, by simp [updates, done], rfl, rfl⟩
      · exact ih after (by simp [done]) (by simp only [count]; omega) rfl

/-- So every command that finds the motor at a standstill is carried out to its end. -/
theorem motion_ends {s : SlopeMotor} (steps : s.Steps) (still : s.control.isSlopeMoving = false)
    (call : SlopeCall) {command : SlopeCommand} {tick : UInt32}
    (commands : s.next call = s.commanded command (driveSlopeOpen s.control tick)) :
    let s' := Runs.run SlopeMotor.next s (call :: updates 1024 tick)
    s'.Steps ∧ s'.control.isSlopeMoving = false ∧ s'.lastCommand = some command ∧
      s'.started = s.started + 1 := by
  have after := steps.next call
  rw [Runs.run_cons]
  rw [commands] at after ⊢
  have started : s.commanded command (driveSlopeOpen s.control tick) =
      ⟨⟨true, 0, tick, s.control.stepIndex⟩, s.ramp, some command, s.started + 1⟩ := by
    simp [SlopeMotor.commanded, driveSlopeOpen, still]
  rw [started] at after ⊢
  exact updates_end after rfl rfl rfl

/-- Opened and then closed, the ramp is twice as far out. -/
theorem close_opens_further : ¬ (Runs.run SlopeMotor.next .start
    (.driveSlopeOpen 0 :: updates 1024 0 ++ .driveSlopeClose 5000 :: updates 1024 5000)).Obeys := by
  intro obeys
  obtain ⟨steps, still, -, started⟩ := motion_ends SlopeMotor.start_steps rfl
    (.driveSlopeOpen 0) rfl
  obtain ⟨steps, still, last, twice⟩ := motion_ends steps still (.driveSlopeClose 5000) rfl
  rw [Runs.run_append] at obeys
  have stowed := obeys still .driveClose last
  have position := steps.still still
  rw [twice, started, stowed] at position
  exact absurd position (by decide)

end SmartBusAccess.Slope
