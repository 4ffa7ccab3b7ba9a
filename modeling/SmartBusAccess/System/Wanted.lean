import SmartBusAccess.Semantics.Causation
import SmartBusAccess.System.Bus

/-!
What is behind a command to open.

The driver ECU hands over a command to open the door for the door button or for a fire, and one
to deploy the ramp for the slope button, or for the door button with the bell for disabled
passengers on; and that bell is on only if its button was pressed or a phone has called. `Wanted`
says so of a record, and an iteration of the main loop keeps it (`Wanted.iterate`).
-/

namespace SmartBusAccess.System

open SmartBusAccess.Can SmartBusAccess.Uart SmartBusAccess.Driver Causation Emitting

/-! ### Links -/

def BusEvent.Raised (request : DriverRequest) (e : BusEvent) : Prop := e = .loop (.raised request)

/-- Handed to the CAN driver, accepted or not. -/
def BusEvent.Handed (P : CommandFields → Prop) (e : BusEvent) : Prop :=
  ∃ command, e = .loop (.sent command) ∧ P (commandFields command)

/-- The door is to open: the driver wants it, or there is a fire. -/
def BusEvent.DoorWanted (e : BusEvent) : Prop := e.Raised .doorOpen ∨ e = .fire

/-- The bell for disabled passengers, or the phone of one. -/
def BusEvent.BellWanted (e : BusEvent) : Prop :=
  e = .rung ∨ ∃ cmd, e = .called cmd ∧ bleUartCmdGetSlope cmd = bleUartReqOpen

def OpensDoor (command : CommandFields) : Prop := command.doorCommand = doorCmdOpen

def DeploysRamp (command : CommandFields) : Prop := command.rampCommand = rampCmdDeploy

/-- The driver wants the ramp, or a passenger does and the driver opens the door. -/
def RampWanted (record : List BusEvent) : Prop :=
  Chain [BusEvent.Raised .slopeOpen] record ∨
    Chain [BusEvent.BellWanted] record ∧ Chain [BusEvent.Raised .doorOpen] record

theorem rampWanted_grows : Grows RampWanted := by
  rintro record later (slope | ⟨bell, door⟩)
  · exact .inl (slope.append later)
  · exact .inr ⟨bell.append later, door.append later⟩

/-! ### The invariant -/

structure Wanted (record : List BusEvent) (g : DriverEcu) : Prop where
  requests : ∀ request, g.pending request = true → Chain [BusEvent.Raised request] record
  pressed : g.disabledStopBtnPressed = true → Chain [BusEvent.BellWanted] record
  bell : g.disabledStopBtnState = .on → Chain [BusEvent.BellWanted] record
  opens : Behind (Chain [BusEvent.DoorWanted]) (BusEvent.Handed OpensDoor) record
  deploys : Behind RampWanted (BusEvent.Handed DeploysRamp) record

/-- Between the clearing of the flag and the sending. -/
structure Wanted.Cleared (request : DriverRequest) (record : List BusEvent) (g : DriverEcu) :
    Prop where
  wanted : Wanted record g
  request : Chain [BusEvent.Raised request] record

section Wanted

variable {record later : List BusEvent} {g g' : DriverEcu}

theorem wanted_boot : Wanted [] driverEcuBoot where
  requests request pending := by cases request <;> cases pending
  pressed := nofun
  bell := nofun
  opens := .nil
  deploys := .nil

/-- What `Wanted` looks at. -/
def DriverEcu.wants (g : DriverEcu) :
    (Bool × Bool × Bool × Bool) × Bool × DisabledStopBtnState :=
  ((g.doorOpenReq, g.doorCloseReq, g.slopeOpenReq, g.slopeCloseReq), g.disabledStopBtnPressed,
    g.disabledStopBtnState)

theorem pending_of_wants (same : DriverEcu.wants g' = DriverEcu.wants g)
    (request : DriverRequest) : g'.pending request = g.pending request := by
  simp only [DriverEcu.wants, Prod.mk.injEq] at same
  obtain ⟨⟨doorOpen, doorClose, slopeOpen, slopeClose⟩, -, -⟩ := same
  cases request with
  | doorOpen => exact doorOpen
  | doorClose => exact doorClose
  | slopeOpen => exact slopeOpen
  | slopeClose => exact slopeClose

theorem Wanted.congr (wanted : Wanted record g) (same : DriverEcu.wants g' = DriverEcu.wants g) :
    Wanted record g' := by
  have pending := pending_of_wants same
  simp only [DriverEcu.wants, Prod.mk.injEq] at same
  constructor
  · intro request asked
    exact wanted.requests request ((pending request).symm.trans asked)
  · rw [same.2.1]; exact wanted.pressed
  · rw [same.2.2]; exact wanted.bell
  · exact wanted.opens
  · exact wanted.deploys

/-- A longer record, with nothing more handed over. -/
theorem Wanted.append (wanted : Wanted record g)
    (none : ∀ e ∈ later, ∀ P, ¬BusEvent.Handed P e) : Wanted (record ++ later) g where
  requests request pending := (wanted.requests request pending).append later
  pressed set := (wanted.pressed set).append later
  bell on := (wanted.bell on).append later
  opens := wanted.opens.append_none fun e mem => none e mem _
  deploys := wanted.deploys.append_none fun e mem => none e mem _

theorem Wanted.raise (wanted : Wanted record g) (request : DriverRequest) :
    Wanted (record ++ (g.raise request).2.map .ofLoop) (g.raise request).1 := by
  have longer : Wanted (record ++ [BusEvent.loop (.raised request)]) g := by
    apply wanted.append
    rintro e mem P ⟨command, rfl, -⟩
    cases List.mem_singleton.mp mem
  refine ⟨?_, ?_, ?_, longer.opens, longer.deploys⟩
  · intro other pending
    by_cases same : other = request
    · subst same
      exact Chain.single (List.mem_append_right _ (.head _)) rfl
    · apply longer.requests
      exact (pending_setPending_of_ne g same true).symm.trans pending
  · cases request <;> exact longer.pressed
  · cases request <;> exact longer.bell

theorem Wanted.clear (wanted : Wanted record g) {request : DriverRequest}
    (pending : g.pending request = true) :
    Wanted.Cleared request record (g.setPending request false) := by
  refine ⟨⟨?_, ?_, ?_, wanted.opens, wanted.deploys⟩, wanted.requests request pending⟩
  · intro other still
    by_cases same : other = request
    · subst same
      simp at still
    · exact wanted.requests other ((pending_setPending_of_ne g same false).symm.trans still)
  · cases request <;> exact wanted.pressed
  · cases request <;> exact wanted.bell

theorem offStopButton_pending (g : DriverEcu) (request : DriverRequest) :
    (offStopButton g).pending request = g.pending request := by
  unfold offStopButton
  split <;> cases request <;> rfl

/-- The bells go off together. -/
theorem Wanted.offStopButton (wanted : Wanted record g) : Wanted record (offStopButton g) := by
  refine ⟨?_, ?_, ?_, wanted.opens, wanted.deploys⟩
  · intro request pending
    exact wanted.requests request ((offStopButton_pending g request).symm.trans pending)
  · unfold Driver.offStopButton
    split <;> exact wanted.pressed
  · unfold Driver.offStopButton
    split
    · intro on
      cases on
    · exact wanted.bell

/-- Somebody wants the bell for disabled passengers. -/
theorem Wanted.press (wanted : Wanted record g) (rung : Chain [BusEvent.BellWanted] record) :
    Wanted record { g with disabledStopBtnPressed := true } where
  requests request pending := wanted.requests request (by cases request <;> exact pending)
  pressed _ := rung
  bell := wanted.bell
  opens := wanted.opens
  deploys := wanted.deploys

theorem onStopButton_wants (g : DriverEcu) (ticks : UInt64) :
    DriverEcu.wants (onStopButton g ticks) = DriverEcu.wants g := by
  unfold onStopButton
  split <;> rfl

theorem resetAndMonitor_wants (input : LoopInput) (g : DriverEcu) :
    DriverEcu.wants (resetAndMonitor input g) =
      DriverEcu.wants (if input.stopBtnOff then offStopButton g else g) := by
  rw [resetAndMonitor_eq]
  generalize (if input.stopBtnOff then offStopButton g else g) = off
  have door : DriverEcu.wants (monitorDoor off) = DriverEcu.wants off := by
    unfold monitorDoor
    split_ifs <;> rfl
  rw [← door]
  unfold monitorSlope
  split_ifs <;> rfl

/-- The bell goes on if its button has been pressed. -/
theorem Wanted.disabledStopOn (wanted : Wanted record g) (input : LoopInput)
    (pressed : g.disabledStopBtnPressed = true) : Wanted record (disabledStopOn input g) := by
  have rung : Wanted record
      { g with disabledStopBtnPressed := false, disabledStopBtnState := .on } :=
    { wanted with
      requests := fun request pending => wanted.requests request (by cases request <;> exact pending)
      pressed := fun set => absurd set Bool.false_ne_true
      bell := fun _ => wanted.pressed pressed }
  simp only [Driver.disabledStopOn]
  split
  · exact { wanted with
      requests := fun request pending => wanted.requests request (by cases request <;> exact pending)
      pressed := fun set => absurd set Bool.false_ne_true }
  · split
    · exact rung.congr (onStopButton_wants _ _)
    · exact rung.congr rfl

end Wanted

/-! ### An iteration -/

section Iteration

variable {record : List BusEvent} {input : LoopInput} {g : DriverEcu}

/-- Events that come one after the other. -/
theorem Wanted.of_append {past later : List LoopEvent}
    (wanted : Wanted (record ++ past.map .ofLoop ++ later.map .ofLoop) g) :
    Wanted (record ++ (past ++ later).map .ofLoop) g := by
  rw [List.map_append, ← List.append_assoc]
  exact wanted

/-- What is found is no command. -/
theorem Wanted.found (wanted : Wanted record g) (finding : LoopFinding) :
    Wanted (record ++ [BusEvent.ofLoop (.found finding)]) g := by
  apply wanted.append
  rintro e mem P ⟨command, rfl, -⟩
  cases finding <;> cases List.mem_singleton.mp mem

theorem Wanted.serve (wanted : Wanted record g) (isr : ButtonIsr) :
    Wanted (record ++ (isr.serve g).2.map .ofLoop) (isr.serve g).1 := by
  have quiet : Wanted (record ++ ([] : List LoopEvent).map .ofLoop) g := by simpa using wanted
  cases isr with
  | onStopBtn => exact quiet.congr rfl
  | onDisabledStopBtn =>
      exact (wanted.found .rung).press (Chain.single (List.mem_append_right _ (.head _)) (.inl rfl))
  | doorControlBtn =>
      simp only [ButtonIsr.serve, doorControlBtnISR]
      split
      · exact wanted.raise .doorOpen
      split
      · split
        · exact quiet
        · exact wanted.raise .doorClose
      · exact quiet
  | slopeControlBtn =>
      simp only [ButtonIsr.serve, slopeControlBtnISR]
      split
      · exact wanted.raise .slopeOpen
      split
      · split
        · exact quiet
        · exact wanted.raise .slopeClose
      · exact quiet

/-- A NOP opens no door, and deploys no ramp. -/
theorem doorCmdNop_ne_open : doorCmdNop ≠ doorCmdOpen := by decide

theorem rampCmdNop_ne_deploy : rampCmdNop ≠ rampCmdDeploy := by decide

/-- One more command, with its cause behind it. -/
theorem Wanted.hand (wanted : Wanted record g) {command : DriverCommand}
    (opens : OpensDoor (commandFields command) → Chain [BusEvent.DoorWanted] record)
    (deploys : DeploysRamp (commandFields command) → RampWanted record) :
    Wanted (record ++ [LoopEvent.sent command].map .ofLoop) g where
  requests request pending := (wanted.requests request pending).append _
  pressed set := (wanted.pressed set).append _
  bell on := (wanted.bell on).append _
  opens := by
    apply wanted.opens.append_of (Chain.grows _)
    rintro e mem ⟨handed, rfl, special⟩
    cases List.mem_singleton.mp mem
    exact opens special
  deploys := by
    apply wanted.deploys.append_of rampWanted_grows
    rintro e mem ⟨handed, rfl, special⟩
    cases List.mem_singleton.mp mem
    exact deploys special

theorem Wanted.Cleared.send {request : DriverRequest} (cleared : Wanted.Cleared request record g) :
    Wanted (record ++ (sendRequest input request g).2.map .ofLoop)
      (sendRequest input request g).1 := by
  have wanted := cleared.wanted
  have raised := cleared.request
  cases request with
  | doorOpen =>
      have door : Chain [BusEvent.DoorWanted] record := by
        obtain ⟨e, mem, same⟩ := raised.exists_mem
        exact Chain.single mem (.inl same)
      simp only [sendRequest]
      cases bell : g.disabledStopBtnState with
      | on =>
          exact Wanted.offStopButton
            (wanted.hand (fun _ => door) fun _ => .inr ⟨wanted.bell bell, raised⟩)
      | off =>
          refine Wanted.offStopButton (wanted.hand (fun _ => door) fun deploys => ?_)
          exact absurd deploys rampCmdNop_ne_deploy
  | doorClose =>
      refine wanted.hand (fun opens => ?_) fun deploys => absurd deploys rampCmdNop_ne_deploy
      have ne : doorCmdClose ≠ doorCmdOpen := by decide
      exact absurd opens ne
  | slopeOpen =>
      exact wanted.hand (fun opens => absurd opens doorCmdNop_ne_open) fun _ => .inl raised
  | slopeClose =>
      refine wanted.hand (fun opens => absurd opens doorCmdNop_ne_open) fun deploys => ?_
      have ne : rampCmdStow ≠ rampCmdDeploy := by decide
      exact absurd deploys ne

theorem Wanted.fireBlock (wanted : Wanted record g) (input : LoopInput) :
    Wanted (record ++ (fireBlock input g).2.map .ofLoop) (fireBlock input g).1 := by
  have found := wanted.found .fire
  unfold Driver.fireBlock
  split
  · split
    · have burns : Chain [BusEvent.DoorWanted] (record ++ [BusEvent.ofLoop (.found .fire)]) :=
        Chain.single (List.mem_append_right _ (.head _)) (.inr rfl)
      have handed : Wanted (record ++ [BusEvent.ofLoop (.found .fire)] ++
          (sendCommand input .fire doorCmdOpen rampCmdNop true).map .ofLoop) g :=
        found.hand (fun _ => burns) fun deploys => absurd deploys rampCmdNop_ne_deploy
      rw [List.append_assoc] at handed
      exact handed.congr rfl
    · exact found
  · have off : Wanted record { g with fireAlarmActive := false } := wanted.congr rfl
    simpa using off

theorem Wanted.resetAndMonitor (wanted : Wanted record g) (input : LoopInput) :
    Wanted record (Driver.resetAndMonitor input g) := by
  have off : Wanted record (if input.stopBtnOff then Driver.offStopButton g else g) := by
    split
    · exact wanted.offStopButton
    · exact wanted
  exact off.congr (resetAndMonitor_wants input g)

/-- The record behind an iteration's events keeps the invariant. -/
theorem wanted_history (before : List BusEvent) (input : LoopInput) :
    LoopHistory input
      (fun past g => Wanted (before ++ past.map .ofLoop) g)
      (fun past g => Wanted (before ++ past.map .ofLoop) g)
      (fun request past g => Wanted.Cleared request (before ++ past.map .ofLoop) g)
      (fun past g => Wanted (before ++ past.map .ofLoop) g) where
  serve isr _ _ wanted := .of_append (wanted.serve isr)
  serveCleared request isr past g cleared := by
    refine ⟨.of_append (cleared.wanted.serve isr), ?_⟩
    rw [List.map_append, ← List.append_assoc]
    exact cleared.request.append _
  reset _ _ wanted := wanted.resetAndMonitor input
  missed _ _ _ wanted := wanted
  heard st _ _ _ wanted := Wanted.congr (.of_append (wanted.found (.heard st))) rfl
  obstacle _ _ _ _ wanted := wanted.congr rfl
  doorState _ _ _ _ wanted := wanted.congr rfl
  slopeState _ _ _ _ wanted := wanted.congr rfl
  clear _ _ _ wanted pending := wanted.clear pending
  send _ _ _ cleared := .of_append cleared.send
  stop _ _ wanted := wanted.congr (onStopButton_wants _ _)
  disabledStop _ _ wanted pressed := wanted.disabledStopOn input pressed
  buzzer _ _ wanted := by
    unfold buzzerBlock
    split
    · exact wanted.congr rfl
    · exact wanted
  fire _ _ wanted := .of_append (wanted.fireBlock input)
  ble := by
    refine LoopHistory.bleBlock ?_ ?_ ?_ ?_ ?_
    · exact fun isr _ _ wanted => .of_append (wanted.serve isr)
    · exact fun _ _ wanted _ => wanted.congr rfl
    · exact fun _ _ _ cmd wanted _ => Wanted.congr (.of_append (wanted.found (.called cmd))) rfl
    · exact fun _ _ wanted => wanted.congr rfl
    · intro past g cmd wanted called opens
      have logged : BusEvent.ofLoop (.found (.called cmd)) ∈ before ++ past.map .ofLoop :=
        List.mem_append_right _ (List.mem_map_of_mem called)
      exact wanted.press (Chain.single logged (.inr ⟨cmd, rfl, opens⟩))

theorem Wanted.iterate (wanted : Wanted record g) (input : LoopInput) :
    Wanted (record ++ iterationRecord g input) (driverEcuIterate g input).1 :=
  (wanted_history record input).iterate [] g (by simpa using wanted)

end Iteration

end SmartBusAccess.System
