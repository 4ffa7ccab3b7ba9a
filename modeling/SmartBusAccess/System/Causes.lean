import SmartBusAccess.Door.Actuation
import SmartBusAccess.Semantics.Causation
import SmartBusAccess.System.Bus

/-!
What is behind a close.

The driver ECU asks for a close only in a state that the door ECU has reported to it, and the
door ECU reports only states that it has brought about. `Causal` follows this around the bus:
each fact in a state, each frame under way and each event that matters has its chain of
causes in the record.

* `door_close_chain`: the door is driven closed only after it was driven open, reported open,
  and a close was sent and taken;
* `ramp_stow_chain`: the same of a ramp that is told to stow;
* `monitor_chain`: what the driver's monitor shows has been reported.
-/

namespace SmartBusAccess.System

open SmartBusAccess.Can SmartBusAccess.Uart SmartBusAccess.Door SmartBusAccess.Driver Causation

/-! ### Links -/

def BusEvent.Moved (request : DoorEcuRequest) (e : BusEvent) : Prop := e = .moved request

def BusEvent.RampAcked (cmd : UInt8) (e : BusEvent) : Prop := e = .rampAcked cmd

def BusEvent.Published (P : StatusFields → Prop) (e : BusEvent) : Prop :=
  ∃ status, e = .published status ∧ P status

def BusEvent.Heard (P : StatusFields → Prop) (e : BusEvent) : Prop :=
  ∃ status, e = .heard status ∧ P status

def BusEvent.Sent (P : CommandFields → Prop) (e : BusEvent) : Prop :=
  ∃ command, e.sent = some command ∧ P command

def BusEvent.Taken (P : CommandFields → Prop) (e : BusEvent) : Prop :=
  ∃ command, e = .taken command ∧ P command

/-- The door is reported open. -/
def Opened (status : StatusFields) : Prop := status.doorState = doorStateOpened

/-- The ramp is reported deployed. -/
def Deployed (status : StatusFields) : Prop := status.rampState = rampStateDeployed

def ClosesDoor (command : CommandFields) : Prop := command.doorCommand = doorCmdClose

def StowsRamp (command : CommandFields) : Prop := command.rampCommand = rampCmdStow

/-- The door driven open. -/
abbrev opening : List (BusEvent → Prop) := [BusEvent.Moved .requestOpen]

/-- An OPEN of the ramp acknowledged. -/
abbrev deploying : List (BusEvent → Prop) := [BusEvent.RampAcked slopeUartReqOpen]

/-- The state brought about, and published. -/
abbrev reported (cause : List (BusEvent → Prop)) (state : StatusFields → Prop) :
    List (BusEvent → Prop) :=
  cause ++ [BusEvent.Published state]

/-- Then received. -/
abbrev known (cause : List (BusEvent → Prop)) (state : StatusFields → Prop) :
    List (BusEvent → Prop) :=
  reported cause state ++ [BusEvent.Heard state]

/-- Then answered with a command. -/
abbrev answered (cause : List (BusEvent → Prop)) (state : StatusFields → Prop)
    (command : CommandFields → Prop) : List (BusEvent → Prop) :=
  known cause state ++ [BusEvent.Sent command]

/-- Then taken. -/
abbrev delivered (cause : List (BusEvent → Prop)) (state : StatusFields → Prop)
    (command : CommandFields → Prop) : List (BusEvent → Prop) :=
  answered cause state command ++ [BusEvent.Taken command]

/-! ### The invariant -/

/-- What the driver ECU has heard. -/
def heardBy (record : List BusEvent) : Heard where
  opened := Chain (known opening Opened) record
  deployed := Chain (known deploying Deployed) record
  fire := .fire ∈ record

namespace BusSystem

structure Causal (s : BusSystem) : Prop where
  driver : Informed (heardBy s.record) s.driver
  openedOnLine : ∀ payload ∈ s.statuses, Opened (StatusFields.unpack payload) →
    Chain (reported opening Opened) s.record
  deployedOnLine : ∀ payload ∈ s.statuses, Deployed (StatusFields.unpack payload) →
    Chain (reported deploying Deployed) s.record
  closeOnLine : ∀ payload ∈ s.commands, ClosesDoor (CommandFields.unpack payload) →
    Chain (answered opening Opened ClosesDoor) s.record
  stowOnLine : ∀ payload ∈ s.commands, StowsRamp (CommandFields.unpack payload) →
    Chain (answered deploying Deployed StowsRamp) s.record
  phase : ∃ p, Tracks p s.door.doorView ∧ (p ≠ .settled .closed → Chain opening s.record)
  ramp : s.door.ctl.slopeOpenEstimated = true → Chain deploying s.record
  rampInv : RampInv s.door
  settled : s.door.ctl.doorManualClosePending = false
  closes : Preceded (delivered opening Opened ClosesDoor) (BusEvent.Moved .requestClose) s.record
  stows : Preceded (answered deploying Deployed StowsRamp) (BusEvent.Taken StowsRamp) s.record

theorem causal_boot (init : InitInput) : (boot init).Causal where
  driver := informed_boot _
  openedOnLine := by simp [boot]
  deployedOnLine := by simp [boot]
  closeOnLine := by simp [boot]
  stowOnLine := by simp [boot]
  phase := ⟨_, tracks_init init, fun moved => absurd rfl moved⟩
  ramp := by simp [boot, doorEcuControlInit, doorEcuControlResetState]
  rampInv := RampInv.init init
  settled := rfl
  closes := .nil
  stows := .nil

/-! ### The driver ECU -/

section Iterate

variable {s : BusSystem}

/-- What an iteration hears. -/
def heardRecord (input : LoopInput) : List BusEvent :=
  input.snapshot.toList.map fun status => .heard status.fields

/-- It hears first, and sends later. -/
theorem iterate_record (s : BusSystem) (input : LoopInput) (arrives : Bool) :
    ∃ later, (∀ command,
        .sent command ∈ (driverEcuIterate s.driver (s.iterateInput input arrives)).2 →
          BusEvent.loop (.sent command) ∈ later) ∧
      (s.iterate input arrives).record =
        s.record ++ heardRecord (s.iterateInput input arrives) ++ later := by
  obtain ⟨later, events⟩ := iterate_heard (s.iterateInput input arrives) s.driver
  refine ⟨later.map .ofLoop, ?_, ?_⟩
  · intro command mem
    rw [events, List.mem_append] at mem
    rcases mem with found | sent
    · obtain ⟨status, -, found⟩ := List.mem_map.mp found
      cases found
    · exact List.mem_map_of_mem (f := BusEvent.ofLoop) sent
  · show s.record ++ iterationRecord s.driver (s.iterateInput input arrives) = _
    rw [iterationRecord, events, List.map_append, heardRecord, List.map_map, List.append_assoc]
    rfl

variable (s) in
/-- What the driver ECU has heard when the reception of an iteration is over, and the fires up to
its end. -/
def heardIn (input : LoopInput) : Heard :=
  { heardBy (s.record ++ heardRecord input) with
    fire := .fire ∈ s.record ++ iterationRecord s.driver input }

/-- It is heard with its causes. -/
theorem Causal.hears (causal : s.Causal) (input : LoopInput) (arrives : Bool) :
    Hears (s.heardIn (s.iterateInput input arrives)) (s.iterateInput input arrives) := by
  have received : (s.iterateInput input arrives).received =
      (arrival statusFrame s.statuses arrives input.received).1 := rfl
  have cases := arrival_cases statusFrame s.statuses arrives input.received
  have found : ∀ st ∈ (s.iterateInput input arrives).snapshot, ∃ payload ∈ s.statuses,
      st.fields = StatusFields.unpack payload ∧
        BusEvent.heard st.fields ∈ heardRecord (s.iterateInput input arrives) := by
    intro st mem
    have noted : BusEvent.heard st.fields ∈ heardRecord (s.iterateInput input arrives) := by
      rw [heardRecord, Option.mem_def.mp mem]
      exact .head _
    generalize arrival statusFrame s.statuses arrives input.received = arrived at received cases
    cases cases with
    | nothing failed =>
        rw [snapshot_of_failed (by rw [received]; exact failed)] at mem
        cases mem
    | @oldest payload _ first =>
        obtain ⟨status, read, fields⟩ := snapshot_of_statusFrame received
        rw [read] at mem
        cases mem
        exact ⟨payload, first ▸ .head _, fields, noted⟩
  refine ⟨?_, ?_, ?_⟩
  · intro st mem opened
    obtain ⟨payload, onLine, fields, noted⟩ := found st mem
    have state : Opened st.fields := opened
    exact (causal.openedOnLine payload onLine (fields ▸ state)).andThen noted ⟨_, rfl, state⟩
  · intro st mem deployed
    obtain ⟨payload, onLine, fields, noted⟩ := found st mem
    have state : Deployed st.fields := deployed
    exact (causal.deployedOnLine payload onLine (fields ▸ state)).andThen noted ⟨_, rfl, state⟩
  · intro fire
    have logged : BusEvent.ofLoop (.found .fire) ∈
        iterationRecord s.driver (s.iterateInput input arrives) :=
      List.mem_map_of_mem (iterate_fire fire s.driver)
    exact List.mem_append_right _ logged

theorem Causal.iterated (causal : s.Causal) (input : LoopInput) (arrives : Bool) :
    Informed (s.heardIn (s.iterateInput input arrives)) (s.iterate input arrives).driver ∧
      ∀ event ∈ (driverEcuIterate s.driver (s.iterateInput input arrives)).2,
        Explained (s.heardIn (s.iterateInput input arrives)) event := by
  have before : Informed (s.heardIn (s.iterateInput input arrives)) s.driver :=
    causal.driver.mono (fun chain => chain.append _) (fun chain => chain.append _)
      fun mem => List.mem_append_left _ mem
  exact (informed_rule (causal.hears input arrives)).iterate s.driver before

/-- What an accepted command puts on the line is explained with it. -/
theorem Causal.sent (causal : s.Causal) (input : LoopInput) (arrives : Bool) {payload : UInt8}
    (mem : payload ∈ (s.iterate input arrives).commands) :
    (ClosesDoor (CommandFields.unpack payload) →
        Chain (answered opening Opened ClosesDoor) (s.iterate input arrives).record) ∧
      (StowsRamp (CommandFields.unpack payload) →
        Chain (answered deploying Deployed StowsRamp) (s.iterate input arrives).record) := by
  rcases List.mem_append.mp mem with old | new
  · exact ⟨fun close => (causal.closeOnLine payload old close).append _,
      fun stow => (causal.stowOnLine payload old stow).append _⟩
  · obtain ⟨event, among, put⟩ := List.mem_filterMap.mp new
    have fitting := (requestsHanded (s.iterateInput input arrives) s.driver).fitting
    have unpacked : (onLine event).map CommandFields.unpack = acceptedCommand event :=
      onLine_unpack fun command same => (fitting command (same ▸ among)).1
    rw [put, Option.map_some] at unpacked
    have explained := (causal.iterated input arrives).2 event among
    obtain ⟨later, behind, record⟩ := iterate_record s input arrives
    cases event with
    | found finding => cases put
    | raised request => cases put
    | sent command =>
        have same : CommandFields.unpack payload = commandFields command := by
          rw [acceptedCommand] at unpacked
          split at unpacked
          · exact Option.some.inj unpacked
          · cases unpacked
        have logged := behind command among
        rw [record]
        refine ⟨?_, ?_⟩
        · intro close
          have chain := explained.1 ((congrArg CommandFields.doorCommand same).symm.trans close)
          exact Chain.andThen chain logged ⟨_, unpacked.symm, close⟩
        · intro stow
          have chain := explained.2.1 ((congrArg CommandFields.rampCommand same).symm.trans stow)
          exact Chain.andThen chain logged ⟨_, unpacked.symm, stow⟩

/-- An iteration neither moves the door nor takes a command. -/
theorem iterationRecord_driver {driver : DriverEcu} {input : LoopInput} {e : BusEvent}
    (mem : e ∈ iterationRecord driver input) :
    (∀ request, ¬BusEvent.Moved request e) ∧ ∀ P, ¬BusEvent.Taken P e := by
  obtain ⟨event, -, rfl⟩ := List.mem_map.mp mem
  cases event with
  | found finding => cases finding <;> simp [BusEvent.Moved, BusEvent.Taken, BusEvent.ofLoop]
  | _ => simp [BusEvent.Moved, BusEvent.Taken, BusEvent.ofLoop]

theorem Causal.iterate (causal : s.Causal) (input : LoopInput) (arrives : Bool) :
    (s.iterate input arrives).Causal := by
  have rest : ∀ payload ∈ (s.iterate input arrives).statuses, payload ∈ s.statuses := by
    intro payload mem
    exact (arrival_cases statusFrame s.statuses arrives input.received).mem_rest mem
  have nothing : ∀ e ∈ iterationRecord s.driver (s.iterateInput input arrives),
      ¬BusEvent.Moved .requestClose e ∧ ¬BusEvent.Taken StowsRamp e :=
    fun _ mem => ⟨(iterationRecord_driver mem).1 _, (iterationRecord_driver mem).2 _⟩
  obtain ⟨phase, tracks, moved⟩ := causal.phase
  constructor
  · have informed := (causal.iterated input arrives).1
    obtain ⟨later, -, record⟩ := iterate_record s input arrives
    refine informed.mono ?_ ?_ id
    · rw [record]
      exact fun chain => chain.append _
    · rw [record]
      exact fun chain => chain.append _
  · exact fun payload mem opened =>
      (causal.openedOnLine payload (rest payload mem) opened).append _
  · exact fun payload mem deployed =>
      (causal.deployedOnLine payload (rest payload mem) deployed).append _
  · exact fun payload mem => (causal.sent input arrives mem).1
  · exact fun payload mem => (causal.sent input arrives mem).2
  · exact ⟨phase, tracks, fun away => (moved away).append _⟩
  · exact fun estimated => (causal.ramp estimated).append _
  · exact causal.rampInv
  · exact causal.settled
  · exact causal.closes.append_none fun e mem => (nothing e mem).1
  · exact causal.stows.append_none fun e mem => (nothing e mem).2

end Iterate

end BusSystem

/-! ### What a poll of the door ECU does -/

section Poll

variable (door : DoorEcu) (i : PollInput)

/-- A door that is driven closed was asked to close in the same poll. -/
theorem doorClose_asked (settled : door.ctl.doorManualClosePending = false)
    (closes : (door.report i).policy.doorClose = true) :
    (door.report i).doorAsked .requestClose = true := by
  rw [report_policy, (runPolicy_closes _ _).1, atPolicy_closePending] at closes
  have atJam : (door.atJam i).ctl.doorManualClosePending =
      (door.report i).doorAsked .requestClose := by
    obtain ⟨ble, can, requested⟩ := requested_eq door i
    obtain ⟨_, _, _, sensed⟩ := updateSensors_frame (door.requested i) i.obstacle i.estimateTicks
    rw [DoorEcu.atJam, sensed, requested]
    simp [settled]
  rw [← atJam]
  unfold DoorEcu.atTxPoll at closes
  cases jam : (door.atJam i).ctl.jamFires with
  | true =>
      rw [handleJam_fires jam, cancelCloseSide_eq] at closes
      cases closes
  | false =>
      rw [handleJam_quiet jam] at closes
      exact closes

theorem mapDoorCommand_close {cmd : UInt8}
    (close : doorEcuMapDoorCommand cmd = .requestClose) : cmd = doorCmdClose := by
  unfold doorEcuMapDoorCommand at close
  split at close
  · cases close
  · split at close
    · rename_i same
      simpa using same
    · cases close

/-- What is asked of the door is in a command that was taken. -/
theorem doorAsked_taken {request : DoorEcuRequest}
    (asked : (door.report i).doorAsked request = true) :
    ∃ command, (door.report i).canCmd = some command ∧
      doorEcuMapDoorCommand command.fields.doorCommand = request := by
  obtain ⟨command, taken, same⟩ := (Option.any_eq_true _ _).mp asked
  exact ⟨command, taken, of_decide_eq_true same⟩

/-- What a status frame says is what the poll leaves. -/
theorem statusSent_fields {payload : UInt8} (sent : (door.report i).statusSent = some payload) :
    (StatusFields.unpack payload).doorState = doorEcuMapDoorStateForCan (door.polled i).ctl ∧
      (StatusFields.unpack payload).rampState =
        doorEcuMapRampStateForCan (door.polled i).ctl := by
  have valid (c : DoorEcuControlState) (pinch alive : Bool) :
      (⟨pinch, doorEcuMapDoorStateForCan c, doorEcuMapRampStateForCan c, false, alive⟩ :
        StatusFields).Valid := by
    refine ⟨?_, ?_⟩
    · show doorEcuMapDoorStateForCan c ≤ doorStateFault
      unfold doorEcuMapDoorStateForCan
      split <;> decide
    · show doorEcuMapRampStateForCan c ≤ rampStateFault
      unfold doorEcuMapRampStateForCan
      split_ifs <;> decide
  have published (s : DoorEcu) (ticks : UInt64)
      (sent : (doorEcuControlPollStatusCan s ticks i.canTx).2 = some payload) :
      ∃ pinch alive, payload = StatusFields.pack ⟨pinch, doorEcuMapDoorStateForCan s.ctl,
        doorEcuMapRampStateForCan s.ctl, false, alive⟩ := by
    simp only [doorEcuControlPollStatusCan, doorEcuCanSendStatus, doorECUCANPublishStatus] at sent
    split_ifs at sent
    exact ⟨_, _, (Option.some.inj sent).symm⟩
  have same : ∃ s : DoorEcu, (door.report i).statusSent =
        (doorEcuControlPollStatusCan s i.statusTicks i.canTx).2 ∧
      door.polled i = (doorEcuControlPollStatusCan s i.statusTicks i.canTx).1 := ⟨_, rfl, rfl⟩
  obtain ⟨s, reported, left⟩ := same
  obtain ⟨can, lastStatusTxMs, frame⟩ := pollStatusCan_frame s i.statusTicks i.canTx
  obtain ⟨pinch, alive, rfl⟩ := published s i.statusTicks (reported.symm.trans sent)
  rw [left, frame, StatusFields.unpack_pack (valid s.ctl pinch alive)]
  exact ⟨rfl, rfl⟩

variable {door i}

/-- A door reported open has come to rest there. -/
theorem opened_phase {p : DoorPhase} {c : DoorEcuControlState} (shown : c.status.doorMotion = p.motion)
    (opened : doorEcuMapDoorStateForCan c = doorStateOpened) : p = .settled .opened := by
  unfold doorEcuMapDoorStateForCan at opened
  rw [shown] at opened
  cases p with
  | settled side =>
      cases side with
      | opened => rfl
      | closed => exact absurd opened (by decide)
  | moving side => cases side <;> exact absurd opened (by decide)

theorem deployed_estimate {c : DoorEcuControlState}
    (deployed : doorEcuMapRampStateForCan c = rampStateDeployed) : c.slopeOpenEstimated = true := by
  unfold doorEcuMapRampStateForCan at deployed
  split at deployed
  · exact absurd deployed (by decide)
  · split at deployed
    · assumption
    · exact absurd deployed (by decide)

/-- The phase leaves the closed side only if the door is driven. -/
theorem poll_away {p : DoorPhase} (tracks : Tracks p door.doorView)
    (away : p.poll (door.travelExpired i) (door.report i) ≠ .settled .closed) :
    p ≠ .settled .closed ∨ (door.report i).policy.doorClose = true ∨
      driven door i = some .requestOpen := by
  by_contra still
  simp only [not_or, Bool.not_eq_true, not_not] at still
  obtain ⟨closed, noClose, unmoved⟩ := still
  have opens : (door.report i).jam = true ∨ (door.report i).policy.doorOpen = true := by
    by_contra quiet
    simp only [not_or, Bool.not_eq_true] at quiet
    apply away
    unfold DoorPhase.poll
    rw [closed, noClose, quiet.1, quiet.2]
    rfl
  have before : door.servo.targetDuty = doorCloseDuty := by
    apply tracks.target_close_iff.mpr
    rw [closed]
    rfl
  have moves := polled_opening tracks noClose opens
  have drives : door.Drives i .opened := .inl ⟨by rw [before]; decide, moves.1⟩
  have notClosed : ¬door.Drives i .closed := fun other => absurd (moves.side_eq other) (by decide)
  apply unmoved
  unfold driven
  rw [if_neg notClosed, if_pos drives]

end Poll

namespace BusSystem

section Poll

variable {s : BusSystem}

theorem poll_record (s : BusSystem) (input : PollInput) (arrives : Bool) :
    (s.poll input arrives).record =
      ((s.record ++ takenRecord s.door (s.pollInput input arrives)) ++
        movedRecord s.door (s.pollInput input arrives)) ++
          publishedRecord s.door (s.pollInput input arrives) := by
  rw [List.append_assoc, List.append_assoc]
  rfl

/-- A command that is taken was on the line. -/
theorem taken_onLine (s : BusSystem) (input : PollInput) (arrives : Bool)
    {command : DoorECUCANCommandSnapshot}
    (taken : (s.door.report (s.pollInput input arrives)).canCmd = some command) :
    ∃ payload ∈ s.commands, command.fields = CommandFields.unpack payload := by
  obtain ⟨heard, canCmd, -⟩ := report_canCmd s.door (s.pollInput input arrives)
  have received : (s.pollInput input arrives).canRx =
      (arrival commandFrame s.commands (arrives && s.door.canOpened) input.canRx).1 := rfl
  have cases := arrival_cases commandFrame s.commands (arrives && s.door.canOpened) input.canRx
  rw [canCmd] at taken
  generalize arrival commandFrame s.commands (arrives && s.door.canOpened) input.canRx = arrived
    at received cases
  cases cases with
  | nothing failed =>
      rw [pollCanCommand_failed _ _ (by rw [received]; exact failed)] at taken
      cases taken
  | @oldest payload _ first =>
      rw [received] at taken
      cases isOpen : heard.canOpened with
      | false => simp [doorEcuControlPollCanCommand, isOpen] at taken
      | true =>
          have fields := pollCanCommand_taken isOpen (s.pollInput input arrives).canTicks payload
          rw [taken, Option.map_some, Option.some.injEq] at fields
          exact ⟨payload, first ▸ .head _, fields⟩

/-- It is in the record. -/
theorem mem_takenRecord {door : DoorEcu} {input : PollInput} {command : DoorECUCANCommandSnapshot}
    (taken : (door.report input).canCmd = some command) :
    BusEvent.taken command.fields ∈ takenRecord door input := by
  rw [takenRecord, taken]
  simp

/-- Taking a command moves no door. -/
theorem takenRecord_noMove {door : DoorEcu} {input : PollInput} (request : DoorEcuRequest) :
    ∀ e ∈ takenRecord door input, ¬BusEvent.Moved request e := by
  rintro e mem rfl
  simp [takenRecord] at mem

/-- A poll only takes commands from the line. -/
theorem poll_commands_mem (s : BusSystem) (input : PollInput) (arrives : Bool) {payload : UInt8}
    (mem : payload ∈ (s.poll input arrives).commands) : payload ∈ s.commands :=
  (arrival_cases commandFrame s.commands (arrives && s.door.canOpened) input.canRx).mem_rest mem

theorem Causal.asksClose (causal : s.Causal) (input : PollInput) (arrives : Bool)
    (asked : (s.door.report (s.pollInput input arrives)).doorAsked .requestClose = true) :
    Chain (answered opening Opened ClosesDoor) s.record ∧
      Chain (delivered opening Opened ClosesDoor)
        (s.record ++ takenRecord s.door (s.pollInput input arrives)) := by
  obtain ⟨command, taken, close⟩ := doorAsked_taken _ _ asked
  have close : ClosesDoor command.fields := mapDoorCommand_close close
  obtain ⟨payload, onLine, fields⟩ := taken_onLine s input arrives taken
  have chain := causal.closeOnLine payload onLine (fields ▸ close)
  exact ⟨chain, chain.andThen (mem_takenRecord taken) ⟨_, rfl, close⟩⟩

theorem Causal.doorCloses (causal : s.Causal) (input : PollInput) (arrives : Bool)
    (closes : (s.door.report (s.pollInput input arrives)).policy.doorClose = true) :
    Chain (delivered opening Opened ClosesDoor)
      (s.record ++ takenRecord s.door (s.pollInput input arrives)) :=
  (causal.asksClose input arrives (doorClose_asked _ _ causal.settled closes)).2

/-- A door that is not closed was driven open. -/
theorem Causal.doorAway (causal : s.Causal) (input : PollInput) (arrives : Bool) :
    ∃ p, Door.Shown p (s.poll input arrives).door.doorView ∧ (p ≠ .settled .closed →
      Chain opening ((s.record ++ takenRecord s.door (s.pollInput input arrives)) ++
        movedRecord s.door (s.pollInput input arrives))) := by
  obtain ⟨p, tracks, moved⟩ := causal.phase
  refine ⟨_, shown_polled tracks, ?_⟩
  intro away
  rcases poll_away tracks away with before | closes | drives
  · exact ((moved before).append _).append _
  · exact (causal.doorCloses input arrives closes).links.links.links.links.append _
  · exact Chain.single (List.mem_append_right _ (mem_movedRecord drives)) rfl

theorem Causal.rampDeployed (causal : s.Causal) (input : PollInput) (arrives : Bool)
    (estimated : (s.poll input arrives).door.ctl.slopeOpenEstimated = true) :
    Chain deploying ((s.record ++ takenRecord s.door (s.pollInput input arrives)) ++
      movedRecord s.door (s.pollInput input arrives)) := by
  have estimate := (causal.rampInv.estimate (s.pollInput input arrives)).symm.trans estimated
  have old : s.door.ctl.slopeOpenEstimated = true → Chain deploying
      ((s.record ++ takenRecord s.door (s.pollInput input arrives)) ++
        movedRecord s.door (s.pollInput input arrives)) :=
    fun before => ((causal.ramp before).append _).append _
  cases acked : s.door.succeeded (s.pollInput input arrives) with
  | none =>
      rw [acked] at estimate
      exact old estimate
  | some cmd =>
      rw [acked] at estimate
      dsimp only at estimate
      split at estimate
      · rename_i toOpen
        refine Chain.single (List.mem_append_right _ ?_) (congrArg BusEvent.rampAcked toOpen)
        rw [movedRecord, acked]
        simp
      · split at estimate
        · cases estimate
        · exact old estimate

/-- A status on the line says what the door ECU has brought about. -/
theorem Causal.published (causal : s.Causal) (input : PollInput) (arrives : Bool) {payload : UInt8}
    (mem : payload ∈ (s.poll input arrives).statuses) :
    (Opened (StatusFields.unpack payload) →
        Chain (reported opening Opened) (s.poll input arrives).record) ∧
      (Deployed (StatusFields.unpack payload) →
        Chain (reported deploying Deployed) (s.poll input arrives).record) := by
  rcases List.mem_append.mp mem with old | new
  · exact ⟨fun opened => (causal.openedOnLine payload old opened).append _,
      fun deployed => (causal.deployedOnLine payload old deployed).append _⟩
  · have online : statusOnLine (s.pollInput input arrives)
        (s.door.report (s.pollInput input arrives)) = some payload := by simpa using new
    have noted : BusEvent.published (StatusFields.unpack payload) ∈
        publishedRecord s.door (s.pollInput input arrives) := by
      rw [publishedRecord, online]
      exact .head _
    have sent : (s.door.report (s.pollInput input arrives)).statusSent = some payload := by
      rw [statusOnLine] at online
      split at online
      · exact online
      · cases online
    obtain ⟨doorState, rampState⟩ := statusSent_fields s.door (s.pollInput input arrives) sent
    rw [poll_record]
    refine ⟨?_, ?_⟩
    · intro opened
      obtain ⟨p, shown, away⟩ := causal.doorAway input arrives
      have phase := opened_phase shown.motion (doorState.symm.trans opened)
      exact Chain.andThen (away (by rw [phase]; decide)) noted ⟨_, rfl, opened⟩
    · intro deployed
      have estimated := deployed_estimate (rampState.symm.trans deployed)
      exact Chain.andThen (causal.rampDeployed input arrives estimated) noted
        ⟨_, rfl, deployed⟩

theorem Causal.poll (causal : s.Causal) (input : PollInput) (arrives : Bool) :
    (s.poll input arrives).Causal := by
  constructor
  · exact causal.driver.mono (fun chain => chain.append _) (fun chain => chain.append _)
      fun mem => List.mem_append_left _ mem
  · exact fun payload mem => (causal.published input arrives mem).1
  · exact fun payload mem => (causal.published input arrives mem).2
  · intro payload mem close
    exact (causal.closeOnLine payload (poll_commands_mem s input arrives mem) close).append _
  · intro payload mem stow
    exact (causal.stowOnLine payload (poll_commands_mem s input arrives mem) stow).append _
  · obtain ⟨p, shown, away⟩ := causal.doorAway input arrives
    refine ⟨p, shown.toTracks, ?_⟩
    intro moved
    rw [poll_record]
    exact (away moved).append _
  · intro estimated
    rw [poll_record]
    exact (causal.rampDeployed input arrives estimated).append _
  · exact causal.rampInv.polled _
  · exact polled_closePending _ _
  · rw [poll_record, List.append_assoc]
    refine (causal.closes.append_none (takenRecord_noMove _)).append_of ?_
    rintro e mem rfl
    apply causal.doorCloses input arrives
    cases mem_pollRecord (List.mem_append_right _ mem) with
    | moved drives =>
        obtain ⟨p, tracks, -⟩ := causal.phase
        rcases drives_of_driven drives with ⟨-, closed⟩ | ⟨impossible, -⟩
        · exact drives_closed tracks closed
        · cases impossible
  · refine causal.stows.append_of ?_
    rintro e mem ⟨command, rfl, stow⟩
    cases mem_pollRecord mem with
    | taken received =>
        obtain ⟨payload, onLine, fields⟩ := taken_onLine s input arrives received
        exact causal.stowOnLine payload onLine (fields ▸ stow)

end Poll

/-! ### Runs -/

theorem Causal.step {s : BusSystem} (causal : s.Causal) (action : BusAction) :
    (s.step action).Causal := by
  cases action with
  | iterate input arrives => exact causal.iterate input arrives
  | poll input arrives => exact causal.poll input arrives
  | loseCommand i =>
      exact { causal with
        closeOnLine := fun payload mem => causal.closeOnLine payload (List.mem_of_mem_eraseIdx mem)
        stowOnLine := fun payload mem => causal.stowOnLine payload (List.mem_of_mem_eraseIdx mem) }
  | loseStatus i =>
      exact { causal with
        openedOnLine := fun payload mem =>
          causal.openedOnLine payload (List.mem_of_mem_eraseIdx mem)
        deployedOnLine := fun payload mem =>
          causal.deployedOnLine payload (List.mem_of_mem_eraseIdx mem) }

theorem causal_run (init : InitInput) (actions : List BusAction) : (run init actions).Causal :=
  Runs.run_invariant Causal (fun _ action causal => causal.step action) (causal_boot init) actions

/-- Over any run of the two ECUs: before the door is driven closed, it was driven open, then the
door ECU published that it is open, then the driver ECU heard so, then it sent a door close that
its CAN driver accepted, and then the door ECU took a door close. So it is for every poll that
turns the servo to the closed side or begins a motion there. -/
theorem door_close_chain (init : InitInput) (actions : List BusAction) :
    Preceded
        [BusEvent.Moved .requestOpen, BusEvent.Published Opened, BusEvent.Heard Opened,
          BusEvent.Sent ClosesDoor, BusEvent.Taken ClosesDoor]
        (BusEvent.Moved .requestClose) (run init actions).record ∧
      ∀ input arrives, let polled := (run init actions).pollInput input arrives
        (run init actions).door.Drives polled .closed →
          Chain [BusEvent.Moved .requestOpen, BusEvent.Published Opened, BusEvent.Heard Opened,
              BusEvent.Sent ClosesDoor, BusEvent.Taken ClosesDoor]
            ((run init actions).record ++ takenRecord (run init actions).door polled) := by
  have causal := causal_run init actions
  refine ⟨causal.closes, ?_⟩
  intro input arrives polled drives
  obtain ⟨p, tracks, -⟩ := causal.phase
  exact causal.doorCloses input arrives (drives_closed tracks drives)

/-- The driver presses the door button, and its command is accepted. -/
def doorPress (request : DriverRequest) : LoopInput :=
  { busyPress with
    interrupts := fun point => if point = .readRequest request then [.doorControlBtn] else []
    sent := fun _ => .ok }

/-- Opened, reported, closed. -/
example : BusEvent.moved .requestClose ∈ (run bench
    [.iterate (doorPress .doorOpen) false, .poll (quietPoll 10) true, .poll (quietPoll 3100) false,
      .iterate (doorPress .doorClose) true, .poll (quietPoll 3200) true]).record := by
  decide +kernel

/-- Before the door ECU takes a command to stow the ramp, the slope module acknowledged an OPEN,
then the door ECU published the ramp as deployed, then the driver ECU heard so, and then it sent
a command to stow. -/
theorem ramp_stow_chain (init : InitInput) (actions : List BusAction) :
    Preceded
      [BusEvent.RampAcked slopeUartReqOpen, BusEvent.Published Deployed, BusEvent.Heard Deployed,
        BusEvent.Sent StowsRamp]
      (BusEvent.Taken StowsRamp) (run init actions).record :=
  (causal_run init actions).stows

/-- What the driver's monitor shows has its causes: the ramp's icon an acknowledged OPEN that was
published and heard, the door's icon a door driven open that was published and heard, or a fire. -/
theorem monitor_chain (init : InitInput) (actions : List BusAction) :
    ((run init actions).driver.monitorFlags &&& 0x40 ≠ 0 →
        Chain [BusEvent.RampAcked slopeUartReqOpen, BusEvent.Published Deployed,
          BusEvent.Heard Deployed] (run init actions).record) ∧
      ((run init actions).driver.monitorFlags &&& 0x80 ≠ 0 →
        Chain [BusEvent.Moved .requestOpen, BusEvent.Published Opened, BusEvent.Heard Opened]
            (run init actions).record ∨
          .fire ∈ (run init actions).record) := by
  have informed := (causal_run init actions).driver
  exact ⟨informed.slopeBit, informed.doorBit⟩

end BusSystem

end SmartBusAccess.System
