import SmartBusAccess.Driver.FireDetect
import SmartBusAccess.Driver.Requests
import SmartBusAccess.Semantics.Causation

/-!
The fire alarm of the driver ECU, across two of its cores: core 2 updates the fire detector, core
0 iterates the main loop, in any order. The loop looks at the detector once in an iteration, and
the detector's latch is all that the cores share.

`fire_alarm_once`: the alarm's command is handed to the CAN driver in the first iteration after a
hot reading, whatever the CAN driver answers, and never again.
-/

namespace SmartBusAccess.Driver

open Runs Causation

/-! ### Two cores -/

inductive FireEvent where
  | sampled (sampled : Except Int (Vector UInt8 5))
  | loop (event : LoopEvent)

structure FireSystem where
  core0 : DriverEcu
  core2 : FireDetect
  record : List FireEvent

inductive FireAction where
  | update (sampled : Except Int (Vector UInt8 5))
  | iterate (input : LoopInput)

/-- A reading that sets the latch. -/
def FireEvent.Hot (event : FireEvent) : Prop :=
  ∃ sampled data, event = .sampled sampled ∧ FireDetect.reading sampled = some data ∧
    FireDetect.hot data = true

/-- The command that the alarm is raised with. -/
def FireEvent.isAlarm : FireEvent → Bool
  | .sampled _ => false
  | .loop event => event.isFor .fire

namespace FireSystem

def boot : FireSystem := ⟨driverEcuBoot, .boot, []⟩

/-- An iteration, with what it reads of the other core. -/
def heard (s : FireSystem) (input : LoopInput) : LoopInput :=
  { input with fire := s.core2.isFireDetected }

def next (s : FireSystem) : FireAction → FireSystem
  | .update sampled =>
      { s with
        core2 := s.core2.updateFireDetectModule sampled
        record := s.record ++ [.sampled sampled] }
  | .iterate input =>
      let (core0, events) := driverEcuIterate s.core0 (s.heard input)
      { s with core0 := core0, record := s.record ++ events.map .loop }

def alarms (record : List FireEvent) : ℕ := record.countP FireEvent.isAlarm

/-- What is read, among other events. -/
def readings (record : List FireEvent) : List (Vector UInt8 5) :=
  record.filterMap fun event =>
    match event with
    | .sampled sampled => FireDetect.reading sampled
    | .loop _ => none

theorem alarms_loop (events : List LoopEvent) : alarms (events.map .loop) = handed .fire events := by
  unfold alarms handed
  rw [List.countP_map]
  rfl

@[simp] theorem alarms_append (front back : List FireEvent) :
    alarms (front ++ back) = alarms front + alarms back := List.countP_append

theorem readings_loop (events : List LoopEvent) : readings (events.map .loop) = [] := by
  unfold readings
  rw [List.filterMap_map, List.filterMap_eq_nil_iff]
  intro event _
  rfl

@[simp] theorem readings_append (front back : List FireEvent) :
    readings (front ++ back) = readings front ++ readings back := List.filterMap_append

/-- A hot reading, in the record and among the readings. -/
theorem hot_iff (record : List FireEvent) :
    (readings record).any FireDetect.hot = true ↔ ∃ event ∈ record, event.Hot := by
  rw [List.any_eq_true]
  constructor
  · rintro ⟨data, mem, hot⟩
    obtain ⟨event, there, read⟩ := List.mem_filterMap.mp mem
    cases event with
    | loop event => cases read
    | sampled sampled => exact ⟨_, there, sampled, data, rfl, read, hot⟩
  · rintro ⟨_, mem, sampled, data, rfl, read, hot⟩
    exact ⟨data, List.mem_filterMap.mpr ⟨_, mem, read⟩, hot⟩

/-- What every step keeps: the alarm was raised once if it is active, after a hot reading. -/
structure Alarmed (s : FireSystem) : Prop where
  recorded : s.core2.Recorded (readings s.record)
  latched : s.core0.fireAlarmActive = true → s.core2.gIsFireDetected = true
  once : alarms s.record = if s.core0.fireAlarmActive then 1 else 0
  caused : Preceded [FireEvent.Hot] (fun event => event.isAlarm = true) s.record
  fits : ∀ command, .loop (.sent command) ∈ s.record → command.Fits

theorem boot_alarmed : boot.Alarmed where
  recorded := FireDetect.boot_recorded
  latched active := by cases active
  once := rfl
  caused := .nil
  fits _ mem := by cases mem

variable {s : FireSystem}

/-- The latch is the hot reading in the record. -/
theorem Alarmed.latch_iff (alarmed : s.Alarmed) :
    s.core2.gIsFireDetected = true ↔ ∃ event ∈ s.record, event.Hot := by
  rw [alarmed.recorded.latch, hot_iff]

theorem Alarmed.update (alarmed : s.Alarmed) (sampled : Except Int (Vector UInt8 5)) :
    (s.next (.update sampled)).Alarmed := by
  have recorded := alarmed.recorded.update sampled
  have added : readings [FireEvent.sampled sampled] = (FireDetect.reading sampled).toList := by
    cases taken : FireDetect.reading sampled <;> simp [readings, taken]
  refine ⟨?_, ?_, ?_, ?_, ?_⟩
  · simp only [next, readings_append, added]
    exact recorded
  · intro active
    have latched := alarmed.latched active
    -- the latch is never taken back
    rw [alarmed.recorded.latch] at latched
    simp only [next]
    rw [recorded.latch, List.any_append, latched, Bool.true_or]
  · simp only [next, alarms_append]
    exact alarmed.once
  · refine alarmed.caused.append_none ?_
    intro event mem
    rw [List.mem_singleton.mp mem]
    exact Bool.false_ne_true
  · intro command mem
    rcases List.mem_append.mp mem with old | new
    · exact alarmed.fits command old
    · cases List.mem_singleton.mp new

theorem next_iterate (s : FireSystem) (input : LoopInput) : s.next (.iterate input) =
    { s with
      core0 := (driverEcuIterate s.core0 (s.heard input)).1
      record := s.record ++ (driverEcuIterate s.core0 (s.heard input)).2.map .loop } := rfl

theorem iterate_active (s : FireSystem) (input : LoopInput) :
    (s.next (.iterate input)).core0.fireAlarmActive = s.core2.gIsFireDetected :=
  (requestsHanded (s.heard input) s.core0).alarm

theorem Alarmed.iterate (alarmed : s.Alarmed) (input : LoopInput) :
    (s.next (.iterate input)).Alarmed := by
  have done := requestsHanded (s.heard input) s.core0
  have active := s.iterate_active input
  have count : handed .fire (driverEcuIterate s.core0 (s.heard input)).2 =
      if s.core2.gIsFireDetected && !s.core0.fireAlarmActive then 1 else 0 := done.fire
  have fitting := done.fitting
  rw [next_iterate] at active ⊢
  generalize driverEcuIterate s.core0 (s.heard input) = out at active count fitting
  refine ⟨?_, ?_, ?_, ?_, ?_⟩
  · simp only [readings_append, readings_loop, List.append_nil]
    exact alarmed.recorded
  · intro now
    rw [active] at now
    exact now
  · rw [active]
    simp only [alarms_append, alarms_loop, count, alarmed.once]
    cases before : s.core0.fireAlarmActive with
    | false => cases s.core2.gIsFireDetected <;> rfl
    | true =>
        rw [alarmed.latched before]
        rfl
  · refine alarmed.caused.append_of ?_
    rintro _ added alarm
    obtain ⟨event, mem, rfl⟩ := List.mem_map.mp added
    have some : 0 < handed .fire out.2 := List.countP_pos_iff.mpr ⟨event, mem, alarm⟩
    rw [count] at some
    cases latched : s.core2.gIsFireDetected with
    | false => simp [latched] at some
    | true =>
        obtain ⟨reading, mem, hot⟩ := alarmed.latch_iff.mp latched
        exact .single mem hot
  · intro command mem
    rcases List.mem_append.mp mem with old | new
    · exact alarmed.fits command old
    · obtain ⟨event, mem, same⟩ := List.mem_map.mp new
      cases same
      exact (fitting command mem).1

theorem Alarmed.next (alarmed : s.Alarmed) (action : FireAction) : (s.next action).Alarmed := by
  cases action with
  | update sampled => exact alarmed.update sampled
  | iterate input => exact alarmed.iterate input

theorem Alarmed.run (alarmed : s.Alarmed) (actions : List FireAction) :
    (Runs.run FireSystem.next s actions).Alarmed :=
  run_invariant FireSystem.Alarmed (fun _ action alarmed => alarmed.next action) alarmed actions

/-- Once active, the alarm stays so. -/
theorem Alarmed.stays (alarmed : s.Alarmed) (active : s.core0.fireAlarmActive = true)
    (actions : List FireAction) :
    (Runs.run FireSystem.next s actions).core0.fireAlarmActive = true := by
  induction actions generalizing s with
  | nil => exact active
  | cons action rest ih =>
      rw [run_cons]
      apply ih (alarmed.next action)
      cases action with
      | update sampled => exact active
      | iterate input =>
          rw [iterate_active]
          exact alarmed.latched active

/-- The fire command has a hot reading before it and is handed over at most once in a run; it
opens the door. The first iteration after a hot reading hands it over, whatever the CAN driver
answers, and none does so again. -/
theorem fire_alarm_once (actions : List FireAction) :
    Preceded [FireEvent.Hot] (fun event => event.isAlarm = true)
      (Runs.run next boot actions).record ∧
    alarms (Runs.run next boot actions).record ≤ 1 ∧
    (∀ command, .loop (.sent command) ∈ (Runs.run next boot actions).record →
      command.cause = .fire →
      command.doorCmd = Can.doorCmdOpen ∧ command.rampCmd = Can.rampCmdNop ∧
        command.payload = some (Can.driverWithDoorCanPackCommand Can.doorCmdOpen Can.rampCmdNop true
          false false)) ∧
    ∀ input more, (∃ event ∈ (Runs.run next boot actions).record, event.Hot) →
      alarms (Runs.run next boot (actions ++ .iterate input :: more)).record = 1 := by
  have alarmed := boot_alarmed.run actions
  refine ⟨alarmed.caused, ?_, ?_, ?_⟩
  · rw [alarmed.once]
    split <;> decide
  · intro command mem cause
    obtain ⟨stop, reset, payload, fits⟩ := alarmed.fits command mem
    rw [cause] at fits
    obtain ⟨door, ramp, manual⟩ := fits
    rw [door, ramp, manual, stop, reset] at payload
    exact ⟨door, ramp, payload⟩
  · intro input more hot
    have later := alarmed.iterate input
    have active := iterate_active (Runs.run next boot actions) input
    rw [alarmed.latch_iff.mpr hot] at active
    rw [run_append, run_cons, (later.run more).once, later.stays active more]
    rfl

end FireSystem

end SmartBusAccess.Driver
