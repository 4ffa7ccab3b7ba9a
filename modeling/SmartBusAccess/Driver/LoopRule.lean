import SmartBusAccess.Driver.Pinch

/-!
A rule for what an iteration of the driver ECU's main loop keeps.

An invariant is kept by an iteration if each access of the loop keeps it and each interrupt
does, since interrupts come only between accesses (`LoopHistory.iterate`). It is one of the
globals and of all that has been reported. Between the clearing of a request's flag and the
sending of its command another predicate holds, which remembers that the flag was set.
`LoopInvariant` is the rule for an invariant of the globals alone, with what is true of each
event.

`LoopInput.snapshot` is the status that an iteration receives, and `called` the command its BLE
port hands over.
-/

namespace SmartBusAccess.Driver

open SmartBusAccess.Can SmartBusAccess.Uart Emitting

/-! ### The status received -/

/-- Of the frame received, if it is a status frame: what a poll makes of an endpoint. -/
def LoopInput.snapshot (input : LoopInput) : Option DriverECUCANStatusSnapshot :=
  let (can, _, updated) := driverECUCANPollStatus driverECUCANInit
    (driverEcuGetNowMs input.stmFreqHz input.pollTicks) input.received
  if updated then some can.status else none

/-- What a poll reads does not depend on the endpoint. -/
inductive Polled (ecu : DriverECUCAN) :
    DriverECUCAN × CANStatus × Bool → DriverECUCAN × CANStatus × Bool → Prop where
  | updated (st : DriverECUCANStatusSnapshot) :
      Polled ecu ({ ecu with status := st }, .ok, true)
        ({ driverECUCANInit with status := st }, .ok, true)
  | kept (status : CANStatus) : Polled ecu (ecu, status, false) (driverECUCANInit, status, false)

theorem pollStatus_polled (ecu : DriverECUCAN) (nowMs : UInt32) (received : CANStatus × CANFrame) :
    Polled ecu (driverECUCANPollStatus ecu nowMs received)
      (driverECUCANPollStatus driverECUCANInit nowMs received) := by
  simp only [driverECUCANPollStatus]
  split
  · exact .kept _
  · split
    · exact .kept _
    · split
      · exact .kept _
      · exact .updated _

theorem polled_some {input : LoopInput} {st : DriverECUCANStatusSnapshot}
    (received : input.snapshot = some st) (g : DriverEcu) :
    input.polled g = ({ g.can with status := st }, .ok, true) := by
  have polled := pollStatus_polled g.can (driverEcuGetNowMs input.stmFreqHz input.pollTicks)
    input.received
  rw [LoopInput.snapshot] at received
  rw [LoopInput.polled]
  generalize driverECUCANPollStatus g.can _ _ = here,
    driverECUCANPollStatus driverECUCANInit _ _ = there at polled received ⊢
  cases polled with
  | updated st' =>
      cases received
      rfl
  | kept status => cases received

theorem polled_none {input : LoopInput} (received : input.snapshot = none) (g : DriverEcu) :
    (input.polled g).1 = g.can ∧ (input.polled g).2.2 = false := by
  have polled := pollStatus_polled g.can (driverEcuGetNowMs input.stmFreqHz input.pollTicks)
    input.received
  rw [LoopInput.snapshot] at received
  rw [LoopInput.polled]
  generalize driverECUCANPollStatus g.can _ _ = here,
    driverECUCANPollStatus driverECUCANInit _ _ = there at polled received ⊢
  cases polled with
  | updated st' => cases received
  | kept status => exact ⟨rfl, rfl⟩

/-- What an iteration receives it reports first. -/
theorem iterate_heard (input : LoopInput) (g : DriverEcu) :
    ∃ later, (driverEcuIterate g input).2 =
      (input.snapshot.toList.map fun st => .found (.heard st)) ++ later := by
  cases received : input.snapshot with
  | none => exact ⟨_, rfl⟩
  | some st =>
      have polled := polled_some received g
      have updated := driverEcuIterate_updated input g (by rw [polled])
      rw [polled] at updated
      exact ⟨_, congrArg Prod.snd updated⟩

theorem iterate_fire {input : LoopInput} (fire : input.fire = true) (g : DriverEcu) :
    .found .fire ∈ (driverEcuIterate g input).2 := by
  have found : .found .fire ∈ (fireBlock input (beforeFire input g).1).2 := by
    unfold fireBlock
    rw [if_pos fire]
    split <;> exact .head _
  rw [driverEcuIterate_split]
  exact List.mem_append_right _ (List.mem_append_left _ found)

/-! ### Calls and buttons -/

/-- The command that the BLE port hands over. -/
def LoopInput.called (input : LoopInput) (ble : BleUartTc375) : Option UInt8 :=
  (bleUartTc375ConsumeCmd (bleUartTc375Poll ble input.bleRx).1).map Prod.snd

theorem serve_pressed (isr : ButtonIsr) {g : DriverEcu} (pressed : g.disabledStopBtnPressed = true) :
    (isr.serve g).1.disabledStopBtnPressed = true := by
  have raised (request : DriverRequest) : (g.raise request).1.disabledStopBtnPressed = true := by
    cases request <;> exact pressed
  cases isr with
  | onStopBtn => exact pressed
  | onDisabledStopBtn => rfl
  | doorControlBtn =>
      simp only [ButtonIsr.serve, doorControlBtnISR]
      split_ifs
      all_goals first | exact raised _ | exact pressed
  | slopeControlBtn =>
      simp only [ButtonIsr.serve, slopeControlBtnISR]
      split_ifs
      all_goals first | exact raised _ | exact pressed

/-- Interrupts do not release the bell's button. -/
theorem serveAll_pressed (isrs : List ButtonIsr) {g : DriverEcu}
    (pressed : g.disabledStopBtnPressed = true) :
    (serveAll isrs g).1.disabledStopBtnPressed = true := by
  induction isrs generalizing g with
  | nil => exact pressed
  | cons isr rest ih => exact ih (serve_pressed isr pressed)

/-! ### The rule -/

/-- What the accesses of an iteration and the interrupts between them keep. Before the reception
it is `B`. -/
structure LoopHistory (input : LoopInput) (B P : List LoopEvent → DriverEcu → Prop)
    (Cleared : DriverRequest → List LoopEvent → DriverEcu → Prop)
    (Q : List LoopEvent → DriverEcu → Prop) : Prop where
  serve : ∀ isr : ButtonIsr, Upholds P (fun g => isr.serve g) P
  serveCleared : ∀ (request : DriverRequest) (isr : ButtonIsr),
    Upholds (Cleared request) (fun g => isr.serve g) (Cleared request)
  reset : ∀ past g, B past g → B past (resetAndMonitor input g)
  missed : input.snapshot = none → ∀ past g, B past g → P past g
  heard : ∀ st ∈ input.snapshot, ∀ past g, B past g →
    P (past ++ [.found (.heard st)]) { g with can := { g.can with status := st } }
  obstacle : ∀ st ∈ input.snapshot, ∀ past g, P past g →
    P past (writeObstacle st.pinchDetected g)
  doorState : ∀ st ∈ input.snapshot, ∀ past g, P past g →
    P past { g with doorState := st.doorState }
  slopeState : ∀ st ∈ input.snapshot, ∀ past g, P past g →
    P past { g with slopeState := st.rampState }
  clear : ∀ request past g, P past g → g.pending request = true →
    Cleared request past (g.setPending request false)
  send : ∀ request, Upholds (Cleared request) (sendRequest input request) P
  stop : ∀ past g, P past g →
    P past (onStopButton { g with stopBtnPressed := false } input.stopTicks)
  disabledStop : ∀ past g, P past g → g.disabledStopBtnPressed = true →
    P past (disabledStopOn input g)
  buzzer : ∀ past g, P past g → P past (buzzerBlock input g)
  fire : Upholds P (fireBlock input) P
  ble : Upholds P (bleBlock input) Q

namespace LoopHistory

variable {input : LoopInput} {B P Q : List LoopEvent → DriverEcu → Prop}
  {Cleared : DriverRequest → List LoopEvent → DriverEcu → Prop}

theorem andThen {P' Q' : List LoopEvent → DriverEcu → Prop} {first second : Stage}
    (here : Upholds P' first P) (later : Upholds P second Q') : Upholds P' (first.andThen second) Q' :=
  Upholds.andThen here later

theorem serveAll (serve : ∀ isr : ButtonIsr, Upholds P (fun g => isr.serve g) P)
    (isrs : List ButtonIsr) : Upholds P (serveAll isrs) P := by
  induction isrs with
  | nil => exact Upholds.silent fun _ _ holds => holds
  | cons isr rest ih => exact andThen (serve isr) ih

/-- Interrupts, then an access. -/
theorem access (input : LoopInput) {stage : Stage}
    (serve : ∀ isr : ButtonIsr, Upholds P (fun g => isr.serve g) P) (point : LoopPoint)
    (kept : Upholds P stage Q) : Upholds P (input.at point stage) Q :=
  andThen (serveAll serve _) kept

theorem skip {past : List LoopEvent} {g : DriverEcu} (holds : P past g) :
    P (past ++ (g, ([] : List LoopEvent)).2) (g, ([] : List LoopEvent)).1 := by
  rw [List.append_nil]
  exact holds

/-- A command of the BLE port can set both flags. -/
theorem bleBlock (serve : ∀ isr : ButtonIsr, Upholds Q (fun g => isr.serve g) Q)
    (idle : ∀ past g, P past g → input.called g.ble = none →
      Q past { g with ble := (bleUartTc375Poll g.ble input.bleRx).1 })
    (called : ∀ past g left cmd, P past g →
      bleUartTc375ConsumeCmd (bleUartTc375Poll g.ble input.bleRx).1 = some (left, cmd) →
      Q (past ++ [.found (.called cmd)]) { g with ble := left })
    (stop : ∀ past g, Q past g → Q past { g with stopBtnPressed := true })
    (disabledStop : ∀ past g cmd, Q past g → .found (.called cmd) ∈ past →
      bleUartCmdGetSlope cmd = bleUartReqOpen →
      Q past { g with disabledStopBtnPressed := true }) :
    Upholds P (bleBlock input) Q := by
  intro past g holds
  simp only [Driver.bleBlock]
  cases consumed : bleUartTc375ConsumeCmd (bleUartTc375Poll g.ble input.bleRx).1 with
  | none => exact skip (idle past g holds (by simp [LoopInput.called, consumed]))
  | some out =>
      obtain ⟨left, cmd⟩ := out
      -- The call stays in the history while the flags are set.
      let Called : List LoopEvent → DriverEcu → Prop := fun past g =>
        Q past g ∧ .found (.called cmd) ∈ past
      have serving : ∀ isr : ButtonIsr, Upholds Called (fun g => isr.serve g) Called :=
        fun isr past g holds => ⟨serve isr past g holds.1, List.mem_append_left _ holds.2⟩
      have same : Upholds Called (Stage.set id) Called := Upholds.silent fun _ _ holds => holds
      have stops : Upholds Called
          (input.at .writeBleStop (.set fun g => { g with stopBtnPressed := true })) Called :=
        access input serving .writeBleStop
          (Upholds.silent fun past g holds => ⟨stop past g holds.1, holds.2⟩)
      have found : Called (past ++ [.found (.called cmd)]) { g with ble := left } :=
        ⟨called past g left cmd holds consumed, by simp⟩
      have both : Upholds Called (Stage.andThen
          (if bleUartCmdGetDoor cmd == bleUartReqOpen then
            input.at .writeBleStop (.set fun g => { g with stopBtnPressed := true })
          else .set id)
          (if bleUartCmdGetSlope cmd == bleUartReqOpen then
            input.at .writeBleDisabledStop (.set fun g => { g with disabledStopBtnPressed := true })
          else .set id)) Called := by
        refine andThen (P := Called) ?_ ?_
        · split
          · exact stops
          · exact same
        · split
          · rename_i opens
            exact access input serving .writeBleDisabledStop (Upholds.silent fun past g holds =>
              ⟨disabledStop past g cmd holds.1 holds.2 (by simpa using opens), holds.2⟩)
          · exact same
      have after := (both _ _ found).1
      rw [List.append_assoc] at after
      exact after

section Stages

variable (rule : LoopHistory input B P Cleared Q)
include rule

theorem receiveStatus : Upholds B (receiveStatus input) P := by
  intro past g holds
  cases received : input.snapshot with
  | none =>
      obtain ⟨same, silent⟩ := polled_none received g
      have reached : Driver.receiveStatus input g = ({ g with can := (input.polled g).1 }, []) := by
        show (if (!(input.polled g).2.2) = true then _ else _) = _
        rw [silent]
        rfl
      rw [reached, same]
      exact skip (rule.missed received past g holds)
  | some st =>
      have mem : st ∈ input.snapshot := received
      have obstacle := access input rule.serve .writeObstacle (Upholds.silent (rule.obstacle st mem))
      have doorState := access input rule.serve .writeDoorState
        (Upholds.silent (rule.doorState st mem))
      have slopeState := access input rule.serve .writeSlopeState
        (Upholds.silent (rule.slopeState st mem))
      have reached : Driver.receiveStatus input g =
          Stage.andThen (.find (.heard st))
            (.andThen (input.at .writeObstacle (.set (writeObstacle st.pinchDetected)))
              (.andThen (input.at .writeDoorState (.set fun g => { g with doorState := st.doorState }))
                (input.at .writeSlopeState (.set fun g => { g with slopeState := st.rampState }))))
            { g with can := { g.can with status := st } } := by
        have polled := polled_some received g
        rw [LoopInput.polled] at polled
        rw [Driver.receiveStatus, polled]
        rfl
      rw [reached]
      have written := andThen obstacle (andThen doorState slopeState) _ _
        (rule.heard st mem past g holds)
      rw [List.append_assoc] at written
      exact written

theorem requestBlock (request : DriverRequest) : Upholds P (requestBlock input request) P := by
  refine access input rule.serve _ fun past g holds => ?_
  split
  · exact skip holds
  · rename_i pending
    have pending : g.pending request = true := by simpa using pending
    -- Interrupts are served once more with the flag still set.
    have served := serveAll rule.serve (input.interrupts (.clearRequest request)) past g holds
    have still : (Driver.serveAll (input.interrupts (.clearRequest request)) g).1.pending request =
        true := ((Quiet.serveAll _ g).raises request).mpr (.inl pending)
    have sent := access input (rule.serveCleared request) (.sendRequest request)
      (rule.send request) _ _ (rule.clear request _ _ served still)
    rw [List.append_assoc] at sent
    simpa [Stage.andThen, LoopInput.at, Stage.set] using sent

theorem stopBlock : Upholds P (stopBlock input) P := by
  refine access input rule.serve _ fun past g holds => ?_
  split
  · exact skip holds
  · exact access input rule.serve .clearStop (Upholds.silent rule.stop) past g holds

theorem disabledStopBlock : Upholds P (disabledStopBlock input) P := by
  refine access input rule.serve _ fun past g holds => ?_
  split
  · exact skip holds
  · rename_i pressed
    have served := serveAll rule.serve (input.interrupts .clearDisabledStop) past g holds
    have still := serveAll_pressed (input.interrupts .clearDisabledStop) (by simpa using pressed)
    have reached := rule.disabledStop _ _ served still
    simpa [Stage.andThen, LoopInput.at, Stage.set] using reached

/-- An iteration keeps what each access keeps. -/
theorem iterate : Upholds B (core0MainLoop input) Q := by
  have sending : Upholds P (sendSection input) P :=
    andThen (rule.requestBlock .doorOpen) <| andThen (rule.requestBlock .doorClose) <|
      andThen (rule.requestBlock .slopeOpen) (rule.requestBlock .slopeClose)
  refine andThen (Upholds.silent rule.reset) ?_
  refine andThen rule.receiveStatus ?_
  refine andThen sending ?_
  refine andThen rule.stopBlock ?_
  refine andThen rule.disabledStopBlock ?_
  refine andThen (Upholds.silent rule.buzzer) ?_
  exact andThen rule.fire rule.ble

end Stages

end LoopHistory

/-! ### Invariants of the globals -/

/-- What the accesses of an iteration and the interrupts keep, and what is true of each event. -/
structure LoopInvariant (input : LoopInput) (P : DriverEcu → Prop)
    (Cleared : DriverRequest → DriverEcu → Prop) (R : LoopEvent → Prop) : Prop where
  serve : ∀ isr : ButtonIsr, Triple P (fun g => isr.serve g) P R
  serveCleared : ∀ (request : DriverRequest) (isr : ButtonIsr),
    Triple (Cleared request) (fun g => isr.serve g) (Cleared request) R
  reset : ∀ g, P g → P (resetAndMonitor input g)
  poll : ∀ st ∈ input.snapshot, ∀ g, P g → P { g with can := { g.can with status := st } }
  obstacle : ∀ st ∈ input.snapshot, ∀ g, P g → P (writeObstacle st.pinchDetected g)
  doorState : ∀ st ∈ input.snapshot, ∀ g, P g → P { g with doorState := st.doorState }
  slopeState : ∀ st ∈ input.snapshot, ∀ g, P g → P { g with slopeState := st.rampState }
  clear : ∀ request g, P g → g.pending request = true →
    Cleared request (g.setPending request false)
  send : ∀ request, Triple (Cleared request) (sendRequest input request) P R
  stop : ∀ g, P g → P (onStopButton { g with stopBtnPressed := false } input.stopTicks)
  disabledStop : ∀ g, P g → P (disabledStopOn input g)
  buzzer : ∀ g, P g → P (buzzerBlock input g)
  fire : Triple P (fireBlock input) P R
  found : ∀ finding, R (.found finding)
  ble : ∀ ble g, P g → P { g with ble := ble }
  bleStop : ∀ g, P g → P { g with stopBtnPressed := true }
  bleDisabledStop : ∀ g, P g → P { g with disabledStopBtnPressed := true }

namespace LoopInvariant

variable {input : LoopInput} {P : DriverEcu → Prop} {Cleared : DriverRequest → DriverEcu → Prop}
  {R : LoopEvent → Prop}

theorem kept_found {past : List LoopEvent} (rule : LoopInvariant input P Cleared R)
    (old : ∀ event ∈ past, R event) (finding : LoopFinding) :
    ∀ event ∈ past ++ [.found finding], R event := by
  intro event mem
  rcases List.mem_append.mp mem with before | new
  · exact old event before
  · cases List.mem_singleton.mp new
    exact rule.found finding

theorem history (rule : LoopInvariant input P Cleared R) :
    LoopHistory input (fun past g => P g ∧ ∀ event ∈ past, R event)
      (fun past g => P g ∧ ∀ event ∈ past, R event)
      (fun request past g => Cleared request g ∧ ∀ event ∈ past, R event)
      (fun past g => P g ∧ ∀ event ∈ past, R event) where
  serve isr := (rule.serve isr).upholds
  serveCleared request isr := (rule.serveCleared request isr).upholds
  reset _ g holds := ⟨rule.reset g holds.1, holds.2⟩
  missed _ _ _ holds := holds
  heard st mem _ g holds := ⟨rule.poll st mem g holds.1, rule.kept_found holds.2 _⟩
  obstacle st mem _ g holds := ⟨rule.obstacle st mem g holds.1, holds.2⟩
  doorState st mem _ g holds := ⟨rule.doorState st mem g holds.1, holds.2⟩
  slopeState st mem _ g holds := ⟨rule.slopeState st mem g holds.1, holds.2⟩
  clear request _ g holds pending := ⟨rule.clear request g holds.1 pending, holds.2⟩
  send request := (rule.send request).upholds
  stop _ g holds := ⟨rule.stop g holds.1, holds.2⟩
  disabledStop _ g holds _ := ⟨rule.disabledStop g holds.1, holds.2⟩
  buzzer _ g holds := ⟨rule.buzzer g holds.1, holds.2⟩
  fire := rule.fire.upholds
  ble := LoopHistory.bleBlock (fun isr => (rule.serve isr).upholds)
    (fun _ g holds _ => ⟨rule.ble _ g holds.1, holds.2⟩)
    (fun _ g left _ holds _ => ⟨rule.ble left g holds.1, rule.kept_found holds.2 _⟩)
    (fun _ g holds => ⟨rule.bleStop g holds.1, holds.2⟩)
    (fun _ g _ holds _ _ => ⟨rule.bleDisabledStop g holds.1, holds.2⟩)

theorem iterate (rule : LoopInvariant input P Cleared R) : Triple P (core0MainLoop input) P R :=
  rule.history.iterate.triple

end LoopInvariant

end SmartBusAccess.Driver
