import SmartBusAccess.Door.RampOpening
import SmartBusAccess.Door.Response
import SmartBusAccess.System.Causes
import SmartBusAccess.System.Wanted

/-!
What is behind an opening.

A wish of the driver or of a passenger becomes a command, the command is accepted by the CAN
driver, taken by the door ECU and carried out. `Opening` follows it around the bus, next to
`Causal`: a door that an obstacle drives open again had been driven closed, and so opened, before.

* `door_open_chain`: the door is driven open only after the driver has pressed the door button or
  there was a fire, and a command to open was accepted and taken;
* `ramp_open_chain`: an OPEN is sent to the slope module, and acknowledged by it, only after
  somebody wanted the ramp.
-/

namespace SmartBusAccess.System

open SmartBusAccess.Can SmartBusAccess.Uart SmartBusAccess.Door SmartBusAccess.Driver Causation

/-! ### Links -/

/-- A command of the door ECU's own BLE port that asks for the ramp. -/
def BusEvent.DoorCalled (e : BusEvent) : Prop :=
  ∃ cmd, e = .doorCalled cmd ∧ bleUartCmdGetSlope cmd = bleUartReqOpen

def BusEvent.RampStarted (cmd : UInt8) (e : BusEvent) : Prop := e = .rampStarted cmd

/-- Accepted by the CAN driver. -/
abbrev doorOrdered : List (BusEvent → Prop) :=
  [BusEvent.DoorWanted] ++ [BusEvent.Sent OpensDoor]

/-- Then taken. -/
abbrev doorAllowed : List (BusEvent → Prop) := doorOrdered ++ [BusEvent.Taken OpensDoor]

abbrev RampOrdered : List BusEvent → Prop := After RampWanted (BusEvent.Sent DeploysRamp)

abbrev RampAllowed (record : List BusEvent) : Prop :=
  After RampOrdered (BusEvent.Taken DeploysRamp) record ∨ Chain [BusEvent.DoorCalled] record

theorem rampAllowed_grows : Grows RampAllowed := by
  rintro record later (taken | called)
  · exact .inl (After.grows _ _ record later taken)
  · exact .inr (called.append later)

/-! ### The invariant -/

namespace BusSystem

structure Opening (s : BusSystem) : Prop where
  driver : Wanted s.record s.driver
  openOnLine : ∀ payload ∈ s.commands, OpensDoor (CommandFields.unpack payload) →
    Chain doorOrdered s.record
  deployOnLine : ∀ payload ∈ s.commands, DeploysRamp (CommandFields.unpack payload) →
    RampOrdered s.record
  pending : s.door.ctl.doorManualOpenPending = true → Chain doorAllowed s.record
  moves : Preceded doorAllowed (BusEvent.Moved .requestOpen) s.record
  ramp : RampQuiet s.door ∨ RampAllowed s.record
  inFlight : s.door.InFlight slopeUartReqOpen →
    Chain [BusEvent.RampStarted slopeUartReqOpen] s.record
  starts : Behind RampAllowed (BusEvent.RampStarted slopeUartReqOpen) s.record
  acks : Preceded [BusEvent.RampStarted slopeUartReqOpen] (BusEvent.RampAcked slopeUartReqOpen)
    s.record

theorem opening_boot (init : InitInput) : (boot init).Opening where
  driver := wanted_boot
  openOnLine := by simp [boot]
  deployOnLine := by simp [boot]
  pending := nofun
  moves := .nil
  ramp := .inl (rampQuiet_init init)
  inFlight := by
    rintro ⟨busy, -⟩
    cases busy
  starts := .nil
  acks := .nil

/-! ### The driver ECU -/

section Iterate

variable {s : BusSystem}

/-- A command on the line is one that was handed over and accepted. -/
theorem onLine_sent (s : BusSystem) (input : LoopInput) (arrives : Bool) {payload : UInt8}
    (mem : payload ∈ (s.iterate input arrives).commands) : payload ∈ s.commands ∨
      ∃ command, BusEvent.loop (.sent command) ∈ (s.iterate input arrives).record ∧
        BusEvent.sent (.loop (.sent command)) = some (commandFields command) ∧
        CommandFields.unpack payload = commandFields command := by
  rcases List.mem_append.mp mem with old | new
  · exact .inl old
  obtain ⟨event, among, put⟩ := List.mem_filterMap.mp new
  have fitting := (requestsHanded (s.iterateInput input arrives) s.driver).fitting
  have unpacked : (onLine event).map CommandFields.unpack = acceptedCommand event :=
    onLine_unpack fun command same => (fitting command (same ▸ among)).1
  rw [put, Option.map_some] at unpacked
  cases event with
  | found finding => cases put
  | raised request => cases put
  | sent command =>
      refine .inr ⟨command, ?_, ?_⟩
      · exact List.mem_append_right _ (List.mem_map_of_mem (f := BusEvent.ofLoop) among)
      · rw [acceptedCommand] at unpacked
        split at unpacked
        · rename_i accepted
          exact ⟨by simp [BusEvent.sent, acceptedCommand, accepted], Option.some.inj unpacked⟩
        · cases unpacked

/-- An iteration does nothing to the ramp. -/
theorem iterationRecord_ramp {driver : DriverEcu} {input : LoopInput} {e : BusEvent}
    (mem : e ∈ iterationRecord driver input) (cmd : UInt8) :
    ¬BusEvent.RampStarted cmd e ∧ ¬BusEvent.RampAcked cmd e := by
  obtain ⟨event, -, rfl⟩ := List.mem_map.mp mem
  cases event with
  | found finding =>
      cases finding <;> simp [BusEvent.RampStarted, BusEvent.RampAcked, BusEvent.ofLoop]
  | _ => simp [BusEvent.RampStarted, BusEvent.RampAcked, BusEvent.ofLoop]

theorem Opening.iterate (opening : s.Opening) (input : LoopInput) (arrives : Bool) :
    (s.iterate input arrives).Opening := by
  have driver : Wanted (s.iterate input arrives).record (s.iterate input arrives).driver :=
    opening.driver.iterate (s.iterateInput input arrives)
  constructor
  · exact driver
  · intro payload mem opens
    rcases onLine_sent s input arrives mem with old | ⟨command, logged, accepted, same⟩
    · exact (opening.openOnLine payload old opens).append _
    · have opens : OpensDoor (commandFields command) := same ▸ opens
      exact (driver.opens.after logged ⟨command, rfl, opens⟩ ⟨_, accepted, opens⟩).chain
  · intro payload mem deploys
    rcases onLine_sent s input arrives mem with old | ⟨command, logged, accepted, same⟩
    · exact After.grows _ _ _ _ (opening.deployOnLine payload old deploys)
    · have deploys : DeploysRamp (commandFields command) := same ▸ deploys
      exact driver.deploys.after logged ⟨command, rfl, deploys⟩ ⟨_, accepted, deploys⟩
  · exact fun pending => (opening.pending pending).append _
  · exact opening.moves.append_none fun e mem => (iterationRecord_driver mem).1 _
  · exact opening.ramp.imp id (rampAllowed_grows _ _)
  · exact fun inFlight => (opening.inFlight inFlight).append _
  · exact opening.starts.append_none fun e mem => (iterationRecord_ramp mem _).1
  · exact opening.acks.append_none fun e mem => (iterationRecord_ramp mem _).2

end Iterate

end BusSystem

/-! ### What a poll of the door ECU does -/

section Poll

variable {door : DoorEcu} {i : PollInput}

theorem mapDoorCommand_open {cmd : UInt8}
    (opens : doorEcuMapDoorCommand cmd = .requestOpen) : cmd = doorCmdOpen := by
  unfold doorEcuMapDoorCommand at opens
  split at opens
  · rename_i same
    simpa using same
  · split at opens <;> cases opens

theorem mapRampCommand_open {cmd : UInt8}
    (opens : doorEcuMapRampCommand cmd = .requestOpen) : cmd = rampCmdDeploy := by
  unfold doorEcuMapRampCommand at opens
  split at opens
  · rename_i same
    simpa using same
  · split at opens <;> cases opens

/-- An OPEN that is pending was before, or has been asked for. -/
theorem atPolicy_openPending (pending : (door.atPolicy i).ctl.doorManualOpenPending = true) :
    door.ctl.doorManualOpenPending = true ∨ (door.report i).doorAsked .requestOpen = true := by
  have manual := congrArg ManualRequests.doorOpen (atPolicy_manual door i)
  obtain ⟨ble, can, requested⟩ := requested_eq door i
  rw [requested] at manual
  have same : (door.atPolicy i).ctl.doorManualOpenPending =
      (door.ctl.doorManualOpenPending || (door.report i).doorAsked .requestOpen) := manual
  rw [same, Bool.or_eq_true] at pending
  exact pending

theorem polled_openPending (pending : (door.polled i).ctl.doorManualOpenPending = true) :
    door.ctl.doorManualOpenPending = true ∨ (door.report i).doorAsked .requestOpen = true := by
  apply atPolicy_openPending
  have left := congrArg ManualRequests.doorOpen (polled_manual door i)
  have manual := congrArg ManualRequests.doorOpen (atPolicy_manual door i)
  rw [← atPolicy_manual] at left
  have served : ∀ m : ManualRequests, m.served.doorOpen = true → m.doorOpen = true := by
    intro m waits
    unfold ManualRequests.served at waits
    split at waits
    · cases waits
    · split at waits
      · exact waits
      · cases waits
  exact served _ (left.symm.trans pending)

/-- A door that meets an obstacle is closing, or is asked to close. -/
theorem jam_closing {p : DoorPhase} (tracks : Tracks p door.doorView)
    (settled : door.ctl.doorManualClosePending = false) (jam : (door.report i).jam = true) :
    p ≠ .settled .closed ∨ (door.report i).doorAsked .requestClose = true := by
  rw [report_jam, DoorEcuControlState.jamFires, Bool.and_eq_true, Bool.or_eq_true] at jam
  rcases jam.2 with closing | asked
  · refine .inl ?_
    rintro rfl
    have sensed : Shown (.settled .closed) (door.atJam i).doorView :=
      atJam_doorView door i ▸ tracks.sense (door.travelExpired i)
    have motion : (door.atJam i).ctl.status.doorMotion = .closed := sensed.motion
    rw [motion] at closing
    cases closing
  · refine .inr ?_
    obtain ⟨_, _, _, frame⟩ := atJam_frame door i
    rw [frame] at asked
    simpa [settled] using asked

end Poll

namespace BusSystem

section Poll

variable {s : BusSystem} (input : PollInput) (arrives : Bool)

/-- What opens the door was ordered, and taken. -/
theorem Opening.asksOpen (opening : s.Opening)
    (asked : (s.door.report (s.pollInput input arrives)).doorAsked .requestOpen = true) :
    Chain doorAllowed (s.record ++ takenRecord s.door (s.pollInput input arrives)) := by
  obtain ⟨command, taken, opens⟩ := doorAsked_taken _ _ asked
  have opens : OpensDoor command.fields := mapDoorCommand_open opens
  obtain ⟨payload, onLine, fields⟩ := taken_onLine s input arrives taken
  exact (opening.openOnLine payload onLine (fields ▸ opens)).andThen (mem_takenRecord taken)
    ⟨_, rfl, opens⟩

theorem Opening.asksRampOpen (opening : s.Opening)
    (asked : (s.door.report (s.pollInput input arrives)).asksRampOpen = true) :
    RampAllowed (s.record ++ takenRecord s.door (s.pollInput input arrives)) := by
  have command {mode : DoorEcuSlopeControlMode}
      (asked : (s.door.report (s.pollInput input arrives)).rampAsked .requestOpen mode = true) :
      RampAllowed (s.record ++ takenRecord s.door (s.pollInput input arrives)) := by
    obtain ⟨command, taken, same⟩ := (Option.any_eq_true _ _).mp asked
    rw [Bool.and_eq_true] at same
    have deploys : DeploysRamp command.fields := mapRampCommand_open (of_decide_eq_true same.1)
    obtain ⟨payload, onLine, fields⟩ := taken_onLine s input arrives taken
    exact .inl (After.of_mem (After.grows _ _) (opening.deployOnLine payload onLine (fields ▸ deploys))
      (mem_takenRecord taken) ⟨_, rfl, deploys⟩)
  rw [PollReport.asksRampOpen, Bool.or_eq_true, Bool.or_eq_true] at asked
  rcases asked with (manual | auto) | ble
  · exact command manual
  · exact command auto
  · obtain ⟨cmd, called, opens⟩ := (Option.any_eq_true _ _).mp ble
    have noted : BusEvent.doorCalled cmd ∈ takenRecord s.door (s.pollInput input arrives) := by
      rw [takenRecord, called]
      simp
    exact .inr (Chain.single (List.mem_append_right _ noted) ⟨cmd, rfl, by simpa using opens⟩)

/-- A door that has been driven open was ordered to. -/
theorem Opening.opened (opening : s.Opening) (chain : Chain System.opening s.record) :
    Chain doorAllowed s.record := by
  obtain ⟨event, mem, moved⟩ := chain.exists_mem
  exact (opening.moves.after mem moved moved).before (Chain.grows _)

/-- The door is driven open for an obstacle, or for an order. -/
theorem Opening.doorOpens (opening : s.Opening) (causal : s.Causal)
    (drives : s.door.Drives (s.pollInput input arrives) .opened) :
    Chain doorAllowed (s.record ++ takenRecord s.door (s.pollInput input arrives)) := by
  obtain ⟨p, tracks, away⟩ := causal.phase
  rcases drives_opened tracks drives with jam | opens
  · refine (opening.opened ?_).append _
    rcases jam_closing tracks causal.settled jam with left | asked
    · exact away left
    · exact (causal.asksClose input arrives asked).1.links.links.links
  · rw [report_policy] at opens
    rcases atPolicy_openPending (runPolicy_opens _ _ opens) with pending | asked
    · exact (opening.pending pending).append _
    · exact opening.asksOpen input arrives asked

/-- An OPEN that is still pending was ordered, and taken. -/
theorem Opening.polledPending (opening : s.Opening)
    (pending : (s.poll input arrives).door.ctl.doorManualOpenPending = true) :
    Chain doorAllowed (s.poll input arrives).record := by
  rw [poll_record, List.append_assoc]
  rcases polled_openPending pending with before | asked
  · exact ((opening.pending before).append _).append _
  · exact (opening.asksOpen input arrives asked).append _

/-- The ramp has nothing to do, or it was allowed to open. -/
theorem Opening.polledRamp (opening : s.Opening) (causal : s.Causal) :
    RampQuiet (s.poll input arrives).door ∨ RampAllowed (s.poll input arrives).record := by
  cases asked : (s.door.report (s.pollInput input arrives)).asksRampOpen with
  | true =>
      rw [poll_record, List.append_assoc]
      exact .inr (rampAllowed_grows _ _ (opening.asksRampOpen input arrives asked))
  | false =>
      exact opening.ramp.imp (fun quiet => quiet.polled causal.rampInv asked) (rampAllowed_grows _ _)

/-- An OPEN on its way to the slope module is in the record. -/
theorem Opening.polledInFlight (opening : s.Opening) (causal : s.Causal)
    (inFlight : (s.poll input arrives).door.InFlight slopeUartReqOpen) :
    Chain [BusEvent.RampStarted slopeUartReqOpen] (s.poll input arrives).record := by
  rcases causal.rampInv.waits inFlight with before | started
  · exact (opening.inFlight before).append _
  · have noted : BusEvent.rampStarted slopeUartReqOpen ∈
        movedRecord s.door (s.pollInput input arrives) := by
      rw [movedRecord, started]
      simp
    rw [poll_record]
    apply Chain.append
    exact Chain.single (List.mem_append_right _ noted) rfl

theorem Opening.poll (opening : s.Opening) (causal : s.Causal) :
    (s.poll input arrives).Opening := by
  constructor
  · apply opening.driver.append
    rintro e mem P ⟨command, rfl, -⟩
    cases mem_pollRecord mem
  · intro payload mem opens
    exact (opening.openOnLine payload (poll_commands_mem s input arrives mem) opens).append _
  · intro payload mem deploys
    apply After.grows
    exact opening.deployOnLine payload (poll_commands_mem s input arrives mem) deploys
  · exact opening.polledPending input arrives
  · rw [poll_record, List.append_assoc]
    refine (opening.moves.append_none (takenRecord_noMove _)).append_of ?_
    rintro e mem rfl
    apply opening.doorOpens input arrives causal
    cases mem_pollRecord (List.mem_append_right _ mem) with
    | moved drives =>
        rcases drives_of_driven drives with ⟨impossible, -⟩ | ⟨-, opened⟩
        · cases impossible
        · exact opened
  · exact opening.polledRamp input arrives causal
  · exact opening.polledInFlight input arrives causal
  · refine opening.starts.append_of rampAllowed_grows ?_
    rintro e mem rfl
    cases mem_pollRecord mem with
    | started sends =>
        exact opening.ramp.resolve_left fun quiet => quiet.noStart causal.rampInv sends
  · refine opening.acks.append_of ?_
    rintro e mem rfl
    cases mem_pollRecord mem with
    | acked succeeded => exact opening.inFlight (causal.rampInv.acked_inFlight succeeded)

end Poll

/-! ### Runs -/

theorem Opening.step {s : BusSystem} (opening : s.Opening) (causal : s.Causal)
    (action : BusAction) : (s.step action).Opening := by
  cases action with
  | iterate input arrives => exact opening.iterate input arrives
  | poll input arrives => exact opening.poll input arrives causal
  | loseCommand i =>
      exact { opening with
        openOnLine := fun payload mem => opening.openOnLine payload (List.mem_of_mem_eraseIdx mem)
        deployOnLine := fun payload mem =>
          opening.deployOnLine payload (List.mem_of_mem_eraseIdx mem) }
  | loseStatus i => exact { opening with }

theorem opening_run (init : InitInput) (actions : List BusAction) : (run init actions).Opening :=
  (Runs.run_invariant (fun s : BusSystem => s.Causal ∧ s.Opening)
    (fun _ action both => ⟨both.1.step action, both.2.step both.1 action⟩)
    ⟨causal_boot init, opening_boot init⟩ actions).2

/-- Over any run of the two ECUs: before the door is driven open, the driver has asked for it with
the door button or there was a fire, then the driver ECU sent a door open that its CAN driver
accepted, and then the door ECU took a door open. So it is for every poll that turns the servo to
the open side or begins a motion there: no ramp request and no obstacle drives open a door that
nobody ever ordered to be opened. -/
theorem door_open_chain (init : InitInput) (actions : List BusAction) :
    Preceded [BusEvent.DoorWanted, BusEvent.Sent OpensDoor, BusEvent.Taken OpensDoor]
        (BusEvent.Moved .requestOpen) (run init actions).record ∧
      ∀ input arrives, let polled := (run init actions).pollInput input arrives
        (run init actions).door.Drives polled .opened →
          Chain [BusEvent.DoorWanted, BusEvent.Sent OpensDoor, BusEvent.Taken OpensDoor]
            ((run init actions).record ++ takenRecord (run init actions).door polled) := by
  have opening := opening_run init actions
  refine ⟨opening.moves, ?_⟩
  intro input arrives polled drives
  exact opening.doorOpens input arrives (causal_run init actions) drives

/-- Before an OPEN is sent to the slope module, a passenger has called at the door, or a command to
deploy the ramp was taken, which had been sent by the driver ECU after the slope button, or after
the bell for disabled passengers and the door button; and before the slope module acknowledges an
OPEN, one was sent to it. -/
theorem ramp_open_chain (init : InitInput) (actions : List BusAction) :
    Behind RampAllowed (BusEvent.RampStarted slopeUartReqOpen) (run init actions).record ∧
      Preceded [BusEvent.RampStarted slopeUartReqOpen] (BusEvent.RampAcked slopeUartReqOpen)
        (run init actions).record :=
  ⟨(opening_run init actions).starts, (opening_run init actions).acks⟩

/-- The driver presses the slope button, and its command is accepted. -/
def slopePress : LoopInput :=
  { busyPress with
    interrupts := fun point =>
      if point = .readRequest .slopeOpen then [.slopeControlBtn] else []
    sent := fun _ => .ok }

/-- Ordered, taken, sent when the slope module has acknowledged the first frame. -/
example : BusEvent.rampStarted slopeUartReqOpen ∈ (run bench
    [.iterate slopePress false, .poll (quietPoll 10) true, .poll (ackPoll 20 0) false,
      .poll (quietPoll 30) false]).record := by
  decide +kernel

end BusSystem

end SmartBusAccess.System
