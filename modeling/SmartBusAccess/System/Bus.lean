import Mathlib.Data.List.InsertIdx
import SmartBusAccess.Can.Protocol
import SmartBusAccess.Door.Actuation
import SmartBusAccess.Door.RampEstimate
import SmartBusAccess.Driver.BlePort
import SmartBusAccess.Driver.Informed
import SmartBusAccess.Semantics.LossyLine

/-!
Driver ECU and door ECU on one CAN bus.

The driver ECU iterates its main loop, the door ECU polls its supervisor, in any order and
with any inputs but one: what a reception finds is the oldest frame of the other side, or
nothing. A frame the CAN driver accepts is put on a line, which keeps the order and may lose
frames. `record` is the history of what the two have done.

`commands_in_order`: what either side takes is what the other has sent, with some left out.
-/

namespace SmartBusAccess.System

open SmartBusAccess.Can SmartBusAccess.Door SmartBusAccess.Driver LossyLine

/-! ### The bus -/

/-- `rung` is the button of the bell for disabled passengers, `called` and `doorCalled` are the
commands of the BLE ports of the driver ECU and of the door ECU. -/
inductive BusEvent where
  | fire
  | rung
  | called (cmd : UInt8)
  | heard (status : StatusFields)
  | loop (event : LoopEvent)
  | doorCalled (cmd : UInt8)
  | taken (command : CommandFields)
  | rampAcked (cmd : UInt8)
  | rampStarted (cmd : UInt8)
  | moved (request : DoorEcuRequest)
  | published (status : StatusFields)
deriving DecidableEq, Repr

/-- `commands` and `statuses` are the payloads of the frames under way, oldest first. -/
structure BusSystem where
  driver : DriverEcu
  door : DoorEcu
  commands : List UInt8
  statuses : List UInt8
  record : List BusEvent

inductive BusAction where
  | iterate (input : LoopInput) (arrives : Bool)
  | poll (input : PollInput) (arrives : Bool)
  | loseCommand (i : ℕ)
  | loseStatus (i : ℕ)

/-- A reception that finds no frame. -/
def noFrame (otherwise : CANStatus × CANFrame) : CANStatus × CANFrame :=
  (if otherwise.1 == .ok then .enodata else otherwise.1, otherwise.2)

/-- What a reception finds, and what is left on the line. -/
def arrival (frame : UInt8 → CANFrame) (line : List UInt8) (arrives : Bool)
    (otherwise : CANStatus × CANFrame) : (CANStatus × CANFrame) × List UInt8 :=
  match line with
  | [] => (noFrame otherwise, [])
  | payload :: rest =>
      if arrives then ((.ok, frame payload), rest) else (noFrame otherwise, payload :: rest)

def commandFields (command : DriverCommand) : CommandFields :=
  ⟨command.doorCmd, command.rampCmd, command.rampManual, command.emergencyStop, command.resetFault⟩

/-- The payload that an event puts on the line. -/
def onLine : LoopEvent → Option UInt8
  | .found _ | .raised _ => none
  | .sent command => if command.status == .ok then command.payload else none

/-- What an event of the main loop is in the record. -/
def BusEvent.ofLoop : LoopEvent → BusEvent
  | .found (.heard status) => .heard status.fields
  | .found .rung => .rung
  | .found .fire => .fire
  | .found (.called cmd) => .called cmd
  | event => .loop event

/-- What an iteration adds to the record, in the order of the loop. -/
def iterationRecord (driver : DriverEcu) (input : LoopInput) : List BusEvent :=
  (driverEcuIterate driver input).2.map .ofLoop

/-- The payload that a poll puts on the line. -/
def statusOnLine (input : PollInput) (report : PollReport) : Option UInt8 :=
  if input.canTx == .ok then report.statusSent else none

/-- Where the poll drives the door: what it leaves of servo and motion beside what it found. -/
def driven (door : DoorEcu) (input : PollInput) : Option DoorEcuRequest :=
  if door.Drives input .closed then some .requestClose
  else if door.Drives input .opened then some .requestOpen
  else none

def takenRecord (door : DoorEcu) (input : PollInput) : List BusEvent :=
  (door.report input).bleCmd.toList.map .doorCalled ++
    (door.report input).canCmd.toList.map fun command => .taken command.fields

/-- What a poll does. Where it leaves the door stands last. -/
def movedRecord (door : DoorEcu) (input : PollInput) : List BusEvent :=
  (door.succeeded input).toList.map .rampAcked ++
    ((door.report input).tx.startedCmd.toList.map .rampStarted ++
      (driven door input).toList.map .moved)

def publishedRecord (door : DoorEcu) (input : PollInput) : List BusEvent :=
  (statusOnLine input (door.report input)).toList.map fun payload =>
    .published (StatusFields.unpack payload)

/-- What a poll adds to the record. -/
def pollRecord (door : DoorEcu) (input : PollInput) : List BusEvent :=
  takenRecord door input ++ (movedRecord door input ++ publishedRecord door input)

namespace BusSystem

/-- The iteration's input with what it receives. -/
def iterateInput (s : BusSystem) (input : LoopInput) (arrives : Bool) : LoopInput :=
  { input with received := (arrival statusFrame s.statuses arrives input.received).1 }

/-- The poll's input. The socket of the door ECU receives nothing while it is closed. -/
def pollInput (s : BusSystem) (input : PollInput) (arrives : Bool) : PollInput :=
  { input with
    canRx := (arrival commandFrame s.commands (arrives && s.door.canOpened) input.canRx).1 }

def iterate (s : BusSystem) (input : LoopInput) (arrives : Bool) : BusSystem :=
  let out := driverEcuIterate s.driver (s.iterateInput input arrives)
  { s with
    driver := out.1
    commands := s.commands ++ out.2.filterMap onLine
    statuses := (arrival statusFrame s.statuses arrives input.received).2
    record := s.record ++ iterationRecord s.driver (s.iterateInput input arrives) }

def poll (s : BusSystem) (input : PollInput) (arrives : Bool) : BusSystem :=
  let report := s.door.report (s.pollInput input arrives)
  { s with
    door := s.door.polled (s.pollInput input arrives)
    commands := (arrival commandFrame s.commands (arrives && s.door.canOpened) input.canRx).2
    statuses := s.statuses ++ (statusOnLine (s.pollInput input arrives) report).toList
    record := s.record ++ pollRecord s.door (s.pollInput input arrives) }

def step (s : BusSystem) : BusAction → BusSystem
  | .iterate input arrives => s.iterate input arrives
  | .poll input arrives => s.poll input arrives
  | .loseCommand i => { s with commands := s.commands.eraseIdx i }
  | .loseStatus i => { s with statuses := s.statuses.eraseIdx i }

/-- Both sides initialised. -/
def boot (init : InitInput) : BusSystem := ⟨driverEcuBoot, doorEcuControlInit init, [], [], []⟩

def run (init : InitInput) (actions : List BusAction) : BusSystem :=
  Runs.run step (boot init) actions

end BusSystem

/-! ### Receptions -/

inductive Arrival (frame : UInt8 → CANFrame) (line : List UInt8) :
    (CANStatus × CANFrame) × List UInt8 → Prop where
  | nothing {received : CANStatus × CANFrame} (failed : received.1 ≠ .ok) :
      Arrival frame line (received, line)
  | oldest {payload : UInt8} {rest : List UInt8} (first : line = payload :: rest) :
      Arrival frame line ((.ok, frame payload), rest)

theorem noFrame_failed (otherwise : CANStatus × CANFrame) : (noFrame otherwise).1 ≠ .ok := by
  show (if otherwise.1 == .ok then CANStatus.enodata else otherwise.1) ≠ .ok
  split
  · decide
  · rename_i failed
    simpa using failed

theorem arrival_cases (frame : UInt8 → CANFrame) (line : List UInt8) (arrives : Bool)
    (otherwise : CANStatus × CANFrame) :
    Arrival frame line (arrival frame line arrives otherwise) := by
  unfold arrival
  cases line with
  | nil => exact .nothing (noFrame_failed otherwise)
  | cons payload rest =>
      cases arrives with
      | true => exact .oldest rfl
      | false => exact .nothing (noFrame_failed otherwise)

theorem Arrival.mem_rest {frame : UInt8 → CANFrame} {line rest : List UInt8}
    {received : CANStatus × CANFrame} (arrival : Arrival frame line (received, rest))
    {payload : UInt8} (mem : payload ∈ rest) : payload ∈ line := by
  cases arrival with
  | nothing failed => exact mem
  | oldest first => rw [first]; exact .tail _ mem

theorem snapshot_of_failed {input : LoopInput} (failed : input.received.1 ≠ .ok) :
    input.snapshot = none := by
  have notUpdated (ecu : DriverECUCAN) (nowMs : UInt32) :
      (driverECUCANPollStatus ecu nowMs input.received).2.2 = false := by
    simp only [driverECUCANPollStatus]
    split
    · rfl
    · rw [if_pos (by simpa using failed)]
  simp [LoopInput.snapshot, notUpdated]

theorem snapshot_of_statusFrame {input : LoopInput} {payload : UInt8}
    (received : input.received = (.ok, statusFrame payload)) :
    ∃ status, input.snapshot = some status ∧ status.fields = StatusFields.unpack payload := by
  obtain ⟨status, polled, fields, -⟩ := pollStatus_statusFrame driverECUCANInit
    (driverEcuGetNowMs input.stmFreqHz input.pollTicks) payload
  refine ⟨status, ?_, fields⟩
  rw [LoopInput.snapshot, received, polled]
  rfl

theorem pollCanCommand_failed (door : DoorEcu) (ticks : UInt64) {received : CANStatus × CANFrame}
    (failed : received.1 ≠ .ok) : (doorEcuControlPollCanCommand door ticks received).2 = none := by
  obtain ⟨status, frame⟩ := received
  have notUpdated (ecu : DoorECUCAN) (nowMs : UInt32) :
      (doorECUCANPollCommand ecu nowMs (status, frame)).2.2 = false := by
    simp only [doorECUCANPollCommand]
    split
    · rfl
    · rw [if_pos (by simpa using failed)]
  simp only [doorEcuControlPollCanCommand, notUpdated, Bool.not_false, if_true]
  split
  · rfl
  · split <;> rfl

/-- A frame of the driver ECU is a command. -/
theorem pollCanCommand_taken {door : DoorEcu} (opened : door.canOpened = true) (ticks : UInt64)
    (payload : UInt8) :
    (doorEcuControlPollCanCommand door ticks (.ok, commandFrame payload)).2.map (·.fields) =
      some (CommandFields.unpack payload) := by
  obtain ⟨command, polled, fields, -⟩ := pollCommand_commandFrame door.can
    (doorEcuGetNowMs door.stmFreqHz ticks) payload
  rw [← fields]
  simp [doorEcuControlPollCanCommand, opened, polled]

theorem report_canCmd (door : DoorEcu) (input : PollInput) :
    ∃ heard, (door.report input).canCmd =
      (doorEcuControlPollCanCommand heard input.canTicks input.canRx).2 ∧
        heard.canOpened = door.canOpened := by
  obtain ⟨ble, frame⟩ := pollBle_frame door input.bleRx
  exact ⟨(doorEcuControlPollBleCommand door input.bleRx).1, rfl, by rw [frame]⟩

/-! ### What is on the lines -/

/-- The command of an event that is accepted. -/
def acceptedCommand : LoopEvent → Option CommandFields
  | .found _ | .raised _ => none
  | .sent command => if command.status == .ok then some (commandFields command) else none

@[simp] def BusEvent.sent : BusEvent → Option CommandFields
  | .loop event => acceptedCommand event
  | _ => none

@[simp] def BusEvent.taken? : BusEvent → Option CommandFields
  | .taken command => some command
  | _ => none

@[simp] def BusEvent.published? : BusEvent → Option StatusFields
  | .published status => some status
  | _ => none

@[simp] def BusEvent.heard? : BusEvent → Option StatusFields
  | .heard status => some status
  | _ => none

/-- Both lines carry what was put on them. -/
structure BusSystem.InOrder (s : BusSystem) : Prop where
  commands : Carries (s.record.filterMap BusEvent.sent) (s.record.filterMap BusEvent.taken?)
    (s.commands.map CommandFields.unpack)
  statuses : Carries (s.record.filterMap BusEvent.published?) (s.record.filterMap BusEvent.heard?)
    (s.statuses.map StatusFields.unpack)

section Commands

theorem DriverCommand.Fits.payload {command : DriverCommand} (fits : command.Fits) :
    command.payload = some (commandFields command).pack ∧ (commandFields command).Valid := by
  obtain ⟨-, -, payload, fits⟩ := fits
  refine ⟨payload, ?_⟩
  show command.doorCmd ≤ doorCmdStop ∧ command.rampCmd ≤ rampCmdStop
  cases cause : command.cause with
  | fire =>
      rw [cause] at fits
      rw [fits.1, fits.2.1]
      decide
  | request request =>
      rw [cause] at fits
      cases request with
      | doorOpen =>
          obtain ⟨door, ⟨ramp, -⟩ | ⟨ramp, -⟩⟩ := fits <;> rw [door, ramp] <;> decide
      | _ =>
          obtain ⟨door, ramp, -⟩ := fits
          rw [door, ramp]
          decide

/-- The payload of an accepted command says what the command says. -/
theorem onLine_unpack {event : LoopEvent} (fits : ∀ command, event = .sent command → command.Fits) :
    (onLine event).map CommandFields.unpack = acceptedCommand event := by
  cases event with
  | found finding => rfl
  | raised request => rfl
  | sent command =>
      obtain ⟨payload, valid⟩ := DriverCommand.Fits.payload (fits command rfl)
      simp only [onLine, acceptedCommand]
      split
      · rw [payload, Option.map_some, CommandFields.unpack_pack valid]
      · rfl

theorem filterMap_onLine {events : List LoopEvent}
    (fits : ∀ command, .sent command ∈ events → command.Fits) :
    (events.filterMap onLine).map CommandFields.unpack =
      (events.map BusEvent.ofLoop).filterMap BusEvent.sent := by
  rw [List.map_filterMap, List.filterMap_map]
  apply List.filterMap_congr
  intro event mem
  have sent : BusEvent.sent (.ofLoop event) = acceptedCommand event := by
    cases event with
    | found finding => cases finding <;> rfl
    | _ => rfl
  rw [Function.comp_apply, sent]
  apply onLine_unpack
  rintro command rfl
  exact fits command mem

end Commands

/-! ### What an action adds -/

/-- Where the record says that a poll drove the door, it did. -/
theorem drives_of_driven {door : DoorEcu} {input : PollInput} {request : DoorEcuRequest}
    (drives : driven door input = some request) :
    request = .requestClose ∧ door.Drives input .closed ∨
      request = .requestOpen ∧ door.Drives input .opened := by
  unfold driven at drives
  split at drives
  · exact .inl ⟨(Option.some.inj drives).symm, by assumption⟩
  · split at drives
    · exact .inr ⟨(Option.some.inj drives).symm, by assumption⟩
    · cases drives

/-- What it drove is in the record. -/
theorem mem_movedRecord {door : DoorEcu} {input : PollInput} {request : DoorEcuRequest}
    (drives : driven door input = some request) :
    BusEvent.moved request ∈ movedRecord door input := by
  simp [movedRecord, drives]

inductive PollAdds (door : DoorEcu) (input : PollInput) : BusEvent → Prop where
  | called {cmd : UInt8} (handed : (door.report input).bleCmd = some cmd) :
      PollAdds door input (.doorCalled cmd)
  | taken {command : DoorECUCANCommandSnapshot}
      (received : (door.report input).canCmd = some command) :
      PollAdds door input (.taken command.fields)
  | acked {cmd : UInt8} (succeeded : door.succeeded input = some cmd) :
      PollAdds door input (.rampAcked cmd)
  | started {cmd : UInt8} (sends : (door.report input).tx.startedCmd = some cmd) :
      PollAdds door input (.rampStarted cmd)
  | moved {request : DoorEcuRequest} (drives : driven door input = some request) :
      PollAdds door input (.moved request)
  | published {payload : UInt8} (sent : statusOnLine input (door.report input) = some payload) :
      PollAdds door input (.published (StatusFields.unpack payload))

theorem mem_pollRecord {door : DoorEcu} {input : PollInput} {e : BusEvent}
    (mem : e ∈ pollRecord door input) : PollAdds door input e := by
  rw [pollRecord, takenRecord, movedRecord, publishedRecord] at mem
  simp only [List.mem_append, List.mem_map, Option.mem_toList] at mem
  rcases mem with (⟨cmd, handed, rfl⟩ | ⟨command, received, rfl⟩) | (⟨cmd, succeeded, rfl⟩ |
    ⟨cmd, sends, rfl⟩ | ⟨request, drives, rfl⟩) | ⟨payload, sent, rfl⟩
  · exact .called handed
  · exact .taken received
  · exact .acked succeeded
  · exact .started sends
  · exact .moved drives
  · exact .published sent

section Records

variable (driver : DriverEcu) (input : LoopInput) (door : DoorEcu) (polled : PollInput)

/-- What an iteration adds, for a side that looks at what it receives only. -/
theorem iterationRecord_filterMap {α : Type} {f : BusEvent → Option α}
    (receptive : Receptive (f ∘ .ofLoop)) :
    (iterationRecord driver input).filterMap f =
      (input.snapshot.toList.filterMap fun status => f (.heard status.fields)) ++
        (input.called driver.ble).toList.filterMap fun cmd => f (.called cmd) := by
  rw [iterationRecord, List.filterMap_map]
  exact receptive.iterate driver input

theorem iterationRecord_taken : (iterationRecord driver input).filterMap BusEvent.taken? = [] := by
  rw [iterationRecord_filterMap _ _ ⟨rfl, rfl, fun _ => rfl, fun _ => rfl⟩]
  simp

theorem iterationRecord_published :
    (iterationRecord driver input).filterMap BusEvent.published? = [] := by
  rw [iterationRecord_filterMap _ _ ⟨rfl, rfl, fun _ => rfl, fun _ => rfl⟩]
  simp

theorem iterationRecord_heard : (iterationRecord driver input).filterMap BusEvent.heard? =
    input.snapshot.toList.map (·.fields) := by
  rw [iterationRecord_filterMap _ _ ⟨rfl, rfl, fun _ => rfl, fun _ => rfl⟩]
  simp

/-- What a poll adds, for a side that looks at frames only. -/
theorem pollRecord_filterMap {α : Type} {f : BusEvent → Option α}
    (called : ∀ cmd, f (.doorCalled cmd) = none) (moved : ∀ request, f (.moved request) = none)
    (acked : ∀ cmd, f (.rampAcked cmd) = none) (started : ∀ cmd, f (.rampStarted cmd) = none) :
    (pollRecord door polled).filterMap f =
      ((door.report polled).canCmd.toList.filterMap fun command => f (.taken command.fields)) ++
        (statusOnLine polled (door.report polled)).toList.filterMap fun payload =>
          f (.published (StatusFields.unpack payload)) := by
  have quiet : (movedRecord door polled).filterMap f = [] := by
    simp [movedRecord, List.filterMap_map, moved, acked, started]
  rw [pollRecord, List.filterMap_append, List.filterMap_append, quiet]
  simp [takenRecord, publishedRecord, List.filterMap_map, called]

theorem pollRecord_sent : (pollRecord door polled).filterMap BusEvent.sent = [] := by
  rw [pollRecord_filterMap _ _ (fun _ => rfl) (fun _ => rfl) (fun _ => rfl) (fun _ => rfl)]
  simp

theorem pollRecord_taken : (pollRecord door polled).filterMap BusEvent.taken? =
    (door.report polled).canCmd.toList.map (·.fields) := by
  rw [pollRecord_filterMap _ _ (fun _ => rfl) (fun _ => rfl) (fun _ => rfl) (fun _ => rfl)]
  simp

theorem pollRecord_heard : (pollRecord door polled).filterMap BusEvent.heard? = [] := by
  rw [pollRecord_filterMap _ _ (fun _ => rfl) (fun _ => rfl) (fun _ => rfl) (fun _ => rfl)]
  simp

theorem pollRecord_published : (pollRecord door polled).filterMap BusEvent.published? =
    (statusOnLine polled (door.report polled)).toList.map StatusFields.unpack := by
  rw [pollRecord_filterMap _ _ (fun _ => rfl) (fun _ => rfl) (fun _ => rfl) (fun _ => rfl)]
  simp

end Records

/-! ### Order -/

namespace BusSystem

variable {s : BusSystem}

theorem InOrder.iterate (inOrder : s.InOrder) (input : LoopInput) (arrives : Bool) :
    (s.iterate input arrives).InOrder := by
  have fitting := (requestsHanded (s.iterateInput input arrives) s.driver).fitting
  have put := filterMap_onLine fun command mem => (fitting command mem).1
  constructor
  · show Carries _ _ ((s.commands ++ _).map CommandFields.unpack)
    simp only [BusSystem.iterate, List.filterMap_append, iterationRecord_taken, List.append_nil,
      List.map_append]
    rw [iterationRecord, ← put]
    exact inOrder.commands.put _
  · simp only [BusSystem.iterate, List.filterMap_append, iterationRecord_published,
      iterationRecord_heard, List.append_nil]
    have received : (s.iterateInput input arrives).received =
        (arrival statusFrame s.statuses arrives input.received).1 := rfl
    cases arrived : arrival statusFrame s.statuses arrives input.received with
    | mk found rest =>
        rw [arrived] at received
        have cases := arrival_cases statusFrame s.statuses arrives input.received
        rw [arrived] at cases
        cases cases with
        | nothing failed =>
            rw [snapshot_of_failed (by rw [received]; exact failed)]
            simpa using inOrder.statuses
        | @oldest payload _ first =>
            obtain ⟨status, read, fields⟩ := snapshot_of_statusFrame received
            have carries := inOrder.statuses
            rw [first] at carries
            rw [read, Option.toList_some, List.map_singleton, fields]
            exact carries.take

theorem InOrder.poll (inOrder : s.InOrder) (input : PollInput) (arrives : Bool) :
    (s.poll input arrives).InOrder := by
  obtain ⟨heard, canCmd, opened⟩ := report_canCmd s.door (s.pollInput input arrives)
  constructor
  · simp only [BusSystem.poll, List.filterMap_append, pollRecord_sent, pollRecord_taken,
      List.append_nil]
    have received : (s.pollInput input arrives).canRx =
        (arrival commandFrame s.commands (arrives && s.door.canOpened) input.canRx).1 := rfl
    cases arrived : arrival commandFrame s.commands (arrives && s.door.canOpened) input.canRx with
    | mk found rest =>
        rw [arrived] at received
        have cases := arrival_cases commandFrame s.commands (arrives && s.door.canOpened)
          input.canRx
        rw [arrived] at cases
        cases cases with
        | nothing failed =>
            rw [canCmd, pollCanCommand_failed _ _ (by rw [received]; exact failed)]
            simpa using inOrder.commands
        | @oldest payload _ first =>
            have carries := inOrder.commands
            rw [first] at carries
            cases isOpen : heard.canOpened with
            | false =>
                have nothing : (s.door.report (s.pollInput input arrives)).canCmd = none := by
                  rw [canCmd]
                  simp [doorEcuControlPollCanCommand, isOpen]
                rw [nothing]
                simpa using carries.drop
            | true =>
                have taken := pollCanCommand_taken isOpen (s.pollInput input arrives).canTicks
                  payload
                rw [received] at canCmd
                rw [← canCmd] at taken
                rw [← Option.toList_map, taken]
                exact carries.take
  · simp only [BusSystem.poll, List.filterMap_append, pollRecord_published, pollRecord_heard,
      List.append_nil, List.map_append]
    exact inOrder.statuses.put _

theorem InOrder.step (inOrder : s.InOrder) (action : BusAction) : (s.step action).InOrder := by
  cases action with
  | iterate input arrives => exact inOrder.iterate input arrives
  | poll input arrives => exact inOrder.poll input arrives
  | loseCommand i =>
      refine ⟨?_, inOrder.statuses⟩
      rw [BusSystem.step, ← List.eraseIdx_map]
      exact inOrder.commands.lose i
  | loseStatus i =>
      refine ⟨inOrder.commands, ?_⟩
      rw [BusSystem.step, ← List.eraseIdx_map]
      exact inOrder.statuses.lose i

theorem inOrder_boot (init : InitInput) : (boot init).InOrder := ⟨.empty, .empty⟩

theorem inOrder_run (init : InitInput) (actions : List BusAction) : (run init actions).InOrder :=
  Runs.run_invariant InOrder (fun _ action inOrder => inOrder.step action) (inOrder_boot init)
    actions

/-- Over any run of the two ECUs with a bus that loses frames: the commands the door ECU takes are
commands that the driver ECU sent and its CAN driver accepted, each with the fields it was sent
with, in order and no more than once each; and so are the statuses the driver ECU takes. -/
theorem commands_in_order (init : InitInput) (actions : List BusAction) :
    ((run init actions).record.filterMap BusEvent.taken?).Sublist
        ((run init actions).record.filterMap BusEvent.sent) ∧
      ((run init actions).record.filterMap BusEvent.heard?).Sublist
        ((run init actions).record.filterMap BusEvent.published?) := by
  obtain ⟨commands, statuses⟩ := inOrder_run init actions
  exact ⟨commands.taken_sublist, statuses.taken_sublist⟩

end BusSystem

end SmartBusAccess.System
