import SmartBusAccess.Driver.Monitor
import SmartBusAccess.Uart.Mailbox

/-!
The BLE port of the driver ECU.

Only the last section of the main loop touches it. An iteration does to the port what a poll and
the taking of the mailbox do (`iterate_ble`), and what it hands on is what was in the mailbox
(`called_handed`). Of status frames and calls it reports what it received (`Receptive.iterate`).
-/

namespace SmartBusAccess.Driver

open SmartBusAccess.Can SmartBusAccess.Uart Emitting

/-! ### What leaves it alone -/

theorem serve_ble (isr : ButtonIsr) (g : DriverEcu) : (isr.serve g).1.ble = g.ble := by
  have raised (request : DriverRequest) : (g.raise request).1.ble = g.ble := by
    cases request <;> rfl
  cases isr with
  | onStopBtn => rfl
  | onDisabledStopBtn => rfl
  | doorControlBtn =>
      simp only [ButtonIsr.serve, doorControlBtnISR]
      split_ifs
      all_goals first | exact raised _ | rfl
  | slopeControlBtn =>
      simp only [ButtonIsr.serve, slopeControlBtnISR]
      split_ifs
      all_goals first | exact raised _ | rfl

theorem offStopButton_ble (g : DriverEcu) : (offStopButton g).ble = g.ble := by
  unfold offStopButton
  split <;> rfl

theorem onStopButton_ble (g : DriverEcu) (ticks : UInt64) : (onStopButton g ticks).ble = g.ble := by
  unfold onStopButton
  split <;> rfl

theorem resetAndMonitor_ble (input : LoopInput) (g : DriverEcu) :
    (resetAndMonitor input g).ble = g.ble := by
  have off : (if input.stopBtnOff then offStopButton g else g).ble = g.ble := by
    split
    · exact offStopButton_ble g
    · rfl
  have door (g : DriverEcu) : (monitorDoor g).ble = g.ble := by
    unfold monitorDoor
    split_ifs <;> rfl
  have slope (g : DriverEcu) : (monitorSlope g).ble = g.ble := by
    unfold monitorSlope
    split_ifs <;> rfl
  rw [resetAndMonitor_eq, slope, door, off]

theorem disabledStopOn_ble (input : LoopInput) (g : DriverEcu) :
    (disabledStopOn input g).ble = g.ble := by
  simp only [disabledStopOn]
  split
  · rfl
  · split
    · exact onStopButton_ble _ _
    · rfl

theorem sendRequest_ble (input : LoopInput) (request : DriverRequest) (g : DriverEcu) :
    (sendRequest input request g).1.ble = g.ble := by
  cases request with
  | doorOpen => exact offStopButton_ble g
  | _ => rfl

/-! ### The last section -/

theorem bleUartTc375Round_consumed (ble : BleUartTc375) (rx : List UInt8) :
    bleUartTc375ConsumeCmd (bleUartTc375Poll ble rx).1 = none ∧
        (bleUartTc375Round ble rx).1 = (bleUartTc375Poll ble rx).1 ∧
        (bleUartTc375Round ble rx).2.handed = [] ∨
      ∃ cmd, bleUartTc375ConsumeCmd (bleUartTc375Poll ble rx).1 =
          some ((bleUartTc375Round ble rx).1, cmd) ∧
        (bleUartTc375Round ble rx).2.handed = [cmd] := by
  simp only [bleUartTc375Round]
  generalize bleUartTc375Poll ble rx = polled
  obtain ⟨⟨parser, receiver, initialized, pending, cmd⟩, results⟩ := polled
  cases pending with
  | false => exact .inl ⟨rfl, rfl, rfl⟩
  | true => exact .inr ⟨cmd, rfl, rfl⟩

theorem called_handed (input : LoopInput) (ble : BleUartTc375) :
    (input.called ble).toList = (bleUartTc375Round ble input.bleRx).2.handed := by
  rw [LoopInput.called]
  rcases bleUartTc375Round_consumed ble input.bleRx with ⟨none, -, handed⟩ | ⟨cmd, some, handed⟩
  · rw [none, handed]
    rfl
  · rw [some, handed]
    rfl

/-! ### What is received -/

section Received

variable {α : Type} {f : LoopEvent → Option α}

/-- It looks at status frames and commands of the port only. -/
structure Receptive (f : LoopEvent → Option α) : Prop where
  rung : f (.found .rung) = none
  fire : f (.found .fire) = none
  raised : ∀ request, f (.raised request) = none
  sent : ∀ command, f (.sent command) = none

/-- The port is this one, and this has been received. -/
structure Received (f : LoopEvent → Option α) (ble : BleUartTc375) (received : List α)
    (past : List LoopEvent) (g : DriverEcu) : Prop where
  port : g.ble = ble
  events : past.filterMap f = received

variable {ble : BleUartTc375} {received : List α} {past later : List LoopEvent}
  {g g' : DriverEcu}

theorem Received.congr (here : Received f ble received past g) (same : g'.ble = g.ble) :
    Received f ble received past g' :=
  ⟨same.trans here.port, here.events⟩

theorem Received.append (here : Received f ble received past g) (same : g'.ble = g.ble)
    (ignored : later.filterMap f = []) : Received f ble received (past ++ later) g' := by
  refine ⟨same.trans here.port, ?_⟩
  rw [List.filterMap_append, ignored, here.events, List.append_nil]

variable (receptive : Receptive f)
include receptive

theorem Receptive.serve (isr : ButtonIsr) (g : DriverEcu) : (isr.serve g).2.filterMap f = [] := by
  have raised (request : DriverRequest) : (g.raise request).2.filterMap f = [] := by
    simp [DriverEcu.raise, receptive.raised]
  cases isr with
  | onStopBtn => rfl
  | onDisabledStopBtn => simp [ButtonIsr.serve, onDisabledStopBtnISR, receptive.rung]
  | doorControlBtn =>
      simp only [ButtonIsr.serve, doorControlBtnISR]
      split_ifs
      all_goals first | exact raised _ | rfl
  | slopeControlBtn =>
      simp only [ButtonIsr.serve, slopeControlBtnISR]
      split_ifs
      all_goals first | exact raised _ | rfl

theorem Receptive.sendRequest (input : LoopInput) (request : DriverRequest) (g : DriverEcu) :
    (sendRequest input request g).2.filterMap f = [] := by
  obtain ⟨-, command, events, -⟩ := sendRequest_sends input request g
  simp [events, receptive.sent]

theorem Receptive.fireBlock (input : LoopInput) (g : DriverEcu) :
    (fireBlock input g).2.filterMap f = [] := by
  unfold Driver.fireBlock
  split_ifs <;> simp [sendCommand, receptive.fire, receptive.sent]

/-- An iteration receives at most one status frame, and then at most one command of the port. -/
theorem Receptive.history (input : LoopInput) (ble : BleUartTc375) :
    LoopHistory input (Received f ble [])
      (Received f ble (input.snapshot.toList.filterMap fun st => f (.found (.heard st))))
      (fun _ => Received f ble (input.snapshot.toList.filterMap fun st => f (.found (.heard st))))
      (Received f (bleUartTc375Round ble input.bleRx).1
        ((input.snapshot.toList.filterMap fun st => f (.found (.heard st))) ++
          (input.called ble).toList.filterMap fun cmd => f (.found (.called cmd)))) where
  serve isr _ g here := here.append (serve_ble isr g) (receptive.serve isr g)
  serveCleared _ isr _ g here := here.append (serve_ble isr g) (receptive.serve isr g)
  reset _ g here := here.congr (resetAndMonitor_ble input g)
  missed none _ _ here := by
    rw [none]
    exact here
  heard st mem past g here := by
    refine ⟨here.port, ?_⟩
    rw [List.filterMap_append, here.events, Option.mem_def.mp mem]
    cases found : f (.found (.heard st)) <;> simp [found]
  obstacle _ _ _ _ here := here.congr rfl
  doorState _ _ _ _ here := here.congr rfl
  slopeState _ _ _ _ here := here.congr rfl
  clear request _ _ here _ := here.congr (by cases request <;> rfl)
  send request _ g here :=
    here.append (sendRequest_ble input request g) (receptive.sendRequest input request g)
  stop _ _ here := here.congr (onStopButton_ble _ _)
  disabledStop _ g here _ := here.congr (disabledStopOn_ble input g)
  buzzer _ _ here := by
    unfold buzzerBlock
    split
    · exact here.congr rfl
    · exact here
  fire _ g here := by
    refine here.append ?_ (receptive.fireBlock input g)
    unfold Driver.fireBlock
    split_ifs <;> rfl
  ble := by
    refine LoopHistory.bleBlock ?_ ?_ ?_ ?_ ?_
    · exact fun isr _ g here => here.append (serve_ble isr g) (receptive.serve isr g)
    · rintro past g ⟨rfl, events⟩ none
      obtain ⟨consumed, same, -⟩ | ⟨cmd, consumed, -⟩ :=
        bleUartTc375Round_consumed g.ble input.bleRx
      · rw [none]
        exact ⟨same.symm, by simpa using events⟩
      · simp [LoopInput.called, consumed] at none
    · rintro past g left cmd ⟨rfl, events⟩ consumed
      obtain ⟨none, -⟩ | ⟨other, some, -⟩ := bleUartTc375Round_consumed g.ble input.bleRx
      · cases none.symm.trans consumed
      · cases some.symm.trans consumed
        have called : input.called g.ble = Option.some cmd := by
          simp [LoopInput.called, consumed]
        refine ⟨rfl, ?_⟩
        rw [List.filterMap_append, events, called]
        cases found : f (.found (.called cmd)) <;> simp [found]
    · exact fun _ _ here => here.congr rfl
    · exact fun _ _ _ here _ _ => here.congr rfl

theorem Receptive.iterate (g : DriverEcu) (input : LoopInput) :
    (driverEcuIterate g input).2.filterMap f =
      (input.snapshot.toList.filterMap fun st => f (.found (.heard st))) ++
        (input.called g.ble).toList.filterMap fun cmd => f (.found (.called cmd)) :=
  ((receptive.history input g.ble).iterate [] g ⟨rfl, rfl⟩).events

end Received

/-- An iteration polls the port once and takes the mailbox. -/
theorem iterate_ble (input : LoopInput) (g : DriverEcu) :
    (driverEcuIterate g input).1.ble = (bleUartTc375Round g.ble input.bleRx).1 := by
  have ignores : Receptive (fun _ : LoopEvent => (none : Option Unit)) :=
    ⟨rfl, rfl, fun _ => rfl, fun _ => rfl⟩
  exact ((ignores.history input g.ble).iterate [] g ⟨rfl, rfl⟩).port

end SmartBusAccess.Driver
