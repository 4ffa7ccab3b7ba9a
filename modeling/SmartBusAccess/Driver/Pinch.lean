import SmartBusAccess.Driver.Requests
import SmartBusAccess.Semantics.Emitting

/-!
The pinch interlock of the driver ECU.

A button's interrupt asks for no close while an obstacle is detected, and the loop
sends later what was asked for. A status frame with a pinch may be processed in
between. That is the one way in which a close is sent while the last frame reported
a pinch (`pinch_interlock_iff`).
-/

namespace SmartBusAccess.Driver

open SmartBusAccess.Can Emitting

/-! ### The interlock -/

/-- A command that closes the door or stows the ramp. -/
def LoopEvent.closes : LoopEvent → Bool
  | .found _ | .raised _ => false
  | .sent command => command.doorCmd == doorCmdClose || command.rampCmd == rampCmdStow

/-- The poll of an iteration. -/
def LoopInput.polled (input : LoopInput) (g : DriverEcu) : DriverECUCAN × CANStatus × Bool :=
  driverECUCANPollStatus g.can (driverEcuGetNowMs input.stmFreqHz input.pollTicks) input.received

/-- Nothing is closed while the frame processed last reports a pinch. -/
def PinchHeeded (g : DriverEcu) (input : LoopInput) : Prop :=
  ∀ event ∈ (driverEcuIterate g input).2, event.closes = true →
    (input.polled g).1.status.pinchDetected = false

def DriverRequest.isClose : DriverRequest → Bool
  | .doorClose | .slopeClose => true
  | .doorOpen | .slopeOpen => false

/-- Do these interrupts ask for the close? -/
def DriverEcu.asks (g : DriverEcu) (isrs : List ButtonIsr) : DriverRequest → Bool
  | .doorClose =>
      isrs.contains .doorControlBtn && g.doorState == doorStateOpened && !g.obstacleDetected
  | .slopeClose =>
      isrs.contains .slopeControlBtn && g.slopeState == rampStateDeployed && !g.obstacleDetected
  | .doorOpen | .slopeOpen => false

/-- A frame with a pinch is processed while a close is pending, or a close is asked for
before the obstacle flag is set. -/
def PinchTooLate (g : DriverEcu) (input : LoopInput) : Prop :=
  (input.polled g).2.2 = true ∧ (input.polled g).1.status.pinchDetected = true ∧
    ∃ request : DriverRequest, request.isClose = true ∧
      (g.pending request || g.asks (input.interrupts .writeObstacle) request) = true

/-- The commands that close are those of the two close requests. -/
theorem DriverCommand.Fits.closes_iff {command : DriverCommand} (fits : command.Fits) :
    (LoopEvent.sent command).closes = true ↔
      ∃ request, command.cause = .request request ∧ request.isClose = true := by
  obtain ⟨-, -, -, fits⟩ := fits
  cases cause : command.cause with
  | fire =>
      rw [cause] at fits
      obtain ⟨door, ramp, -⟩ := fits
      simp +decide [LoopEvent.closes, door, ramp]
  | request request =>
      rw [cause] at fits
      cases request with
      | doorOpen =>
          obtain ⟨door, ⟨ramp, -⟩ | ⟨ramp, -⟩⟩ := fits <;>
            simp +decide [LoopEvent.closes, door, ramp, DriverRequest.isClose]
      | _ =>
          obtain ⟨door, ramp, -⟩ := fits
          simp +decide [LoopEvent.closes, door, ramp, DriverRequest.isClose]

theorem closes_of_silent {events : List LoopEvent} (silent : ∀ command, .sent command ∉ events)
    {event : LoopEvent} (mem : event ∈ events) : event.closes = false := by
  cases event with
  | found finding => rfl
  | raised request => rfl
  | sent command => exact absurd mem (silent command)

/-! ### What the stages leave alone -/

/-- The obstacle flag, the CAN endpoint and the closes pending. -/
def DriverEcu.watched (g : DriverEcu) : Bool × DriverECUCAN × Bool × Bool :=
  (g.obstacleDetected, g.can, g.doorCloseReq, g.slopeCloseReq)

/-- The flag is `pinch`, the endpoint `can`, and no close is pending with an obstacle. -/
structure Watch (pinch : Bool) (can : DriverECUCAN) (g : DriverEcu) : Prop where
  obstacle : g.obstacleDetected = pinch
  can : g.can = can
  shut : pinch = true → ∀ request : DriverRequest, request.isClose = true → g.pending request = false

/-- With an obstacle, nothing is closed. -/
def Shut (pinch : Bool) (event : LoopEvent) : Prop := pinch = true → event.closes = false

theorem offStopButton_watched (g : DriverEcu) : (offStopButton g).watched = g.watched := by
  unfold offStopButton
  split <;> rfl

theorem onStopButton_watched (g : DriverEcu) (ticks : UInt64) :
    (onStopButton g ticks).watched = g.watched := by
  unfold onStopButton
  split <;> rfl

theorem disabledStopOn_watched (input : LoopInput) (g : DriverEcu) :
    (disabledStopOn input g).watched = g.watched := by
  simp only [disabledStopOn]
  split
  · rfl
  · split
    · exact onStopButton_watched _ _
    · rfl

theorem buzzerBlock_watched (input : LoopInput) (g : DriverEcu) :
    (buzzerBlock input g).watched = g.watched := by
  unfold buzzerBlock
  split <;> rfl

/-- The head of the loop changes the bell and the monitor, and nothing else. -/
theorem resetAndMonitor_frame (input : LoopInput) (g : DriverEcu) :
    ∃ stop disabled flags, resetAndMonitor input g =
      { g with stopBtnState := stop, disabledStopBtnState := disabled, monitorFlags := flags } := by
  have reset : ∃ stop disabled flags, (if input.stopBtnOff then offStopButton g else g) =
      { g with stopBtnState := stop, disabledStopBtnState := disabled, monitorFlags := flags } := by
    unfold offStopButton
    split_ifs
    · split <;> exact ⟨_, _, _, rfl⟩
    · exact ⟨_, _, _, rfl⟩
  obtain ⟨stop, disabled, flags, reset⟩ := reset
  simp only [resetAndMonitor, reset]
  split_ifs <;> exact ⟨_, _, _, rfl⟩

theorem resetAndMonitor_watched (input : LoopInput) (g : DriverEcu) :
    (resetAndMonitor input g).watched = g.watched := by
  obtain ⟨stop, disabled, flags, reset⟩ := resetAndMonitor_frame input g
  rw [reset]
  rfl

/-! ### Interrupts that ask for a close -/

/-- What a button's interrupt looks at. -/
def DriverEcu.states (g : DriverEcu) : UInt8 × UInt8 × Bool :=
  (g.doorState, g.slopeState, g.obstacleDetected)

theorem serve_states (g : DriverEcu) (isr : ButtonIsr) : (isr.serve g).1.states = g.states := by
  cases isr with
  | onStopBtn => rfl
  | onDisabledStopBtn => rfl
  | doorControlBtn =>
      simp only [ButtonIsr.serve, doorControlBtnISR]
      split_ifs <;> rfl
  | slopeControlBtn =>
      simp only [ButtonIsr.serve, slopeControlBtnISR]
      split_ifs <;> rfl

theorem serve_pending (g : DriverEcu) (isr : ButtonIsr) {request : DriverRequest}
    (close : request.isClose = true) :
    (isr.serve g).1.pending request = (g.pending request || g.asks [isr] request) := by
  cases isr with
  | onStopBtn =>
      cases request <;> simp [ButtonIsr.serve, onStopBtnISR, DriverEcu.asks, DriverEcu.pending]
  | onDisabledStopBtn =>
      cases request <;>
        simp [ButtonIsr.serve, onDisabledStopBtnISR, DriverEcu.asks, DriverEcu.pending]
  | doorControlBtn =>
      simp only [ButtonIsr.serve, doorControlBtnISR]
      split_ifs <;> cases request <;>
        simp_all +decide [DriverEcu.raise, DriverEcu.setPending, DriverEcu.asks, DriverEcu.pending]
  | slopeControlBtn =>
      simp only [ButtonIsr.serve, slopeControlBtnISR]
      split_ifs <;> cases request <;>
        simp_all +decide [DriverEcu.raise, DriverEcu.setPending, DriverEcu.asks, DriverEcu.pending]

theorem asks_congr {g g' : DriverEcu} (same : g'.states = g.states) (isrs : List ButtonIsr)
    (request : DriverRequest) : g'.asks isrs request = g.asks isrs request := by
  simp only [DriverEcu.states, Prod.mk.injEq] at same
  obtain ⟨door, slope, obstacle⟩ := same
  cases request <;> simp only [DriverEcu.asks, door, slope, obstacle]

theorem asks_cons (g : DriverEcu) (isr : ButtonIsr) (rest : List ButtonIsr)
    (request : DriverRequest) :
    g.asks (isr :: rest) request = (g.asks [isr] request || g.asks rest request) := by
  cases request <;>
    simp only [DriverEcu.asks, List.contains_cons, List.contains_nil, Bool.or_false,
      Bool.and_or_distrib_right]

/-- A close is pending after some interrupts if it was, or if they ask for it. -/
theorem serveAll_pending (isrs : List ButtonIsr) (g : DriverEcu) {request : DriverRequest}
    (close : request.isClose = true) :
    (serveAll isrs g).1.pending request = (g.pending request || g.asks isrs request) := by
  induction isrs generalizing g with
  | nil =>
      have nothing : g.asks [] request = false := by cases request <;> rfl
      rw [nothing, Bool.or_false]
      rfl
  | cons isr rest ih =>
      calc (serveAll (isr :: rest) g).1.pending request
          = ((isr.serve g).1.pending request || (isr.serve g).1.asks rest request) := ih _
        _ = ((g.pending request || g.asks [isr] request) || g.asks rest request) := by
            rw [serve_pending g isr close, asks_congr (serve_states g isr)]
        _ = (g.pending request || g.asks (isr :: rest) request) := by
            rw [asks_cons g isr rest, Bool.or_assoc]

/-! ### Stages under watch -/

section Watch

variable {pinch : Bool} {can : DriverECUCAN} {g g' : DriverEcu}

theorem Watch.congr (watch : Watch pinch can g) (same : g'.watched = g.watched) :
    Watch pinch can g' := by
  simp only [DriverEcu.watched, Prod.mk.injEq] at same
  obtain ⟨obstacle, endpoint, doorClose, slopeClose⟩ := same
  refine ⟨obstacle.trans watch.obstacle, endpoint.trans watch.can, ?_⟩
  intro detected request close
  cases request with
  | doorClose => exact doorClose.trans (watch.shut detected .doorClose rfl)
  | slopeClose => exact slopeClose.trans (watch.shut detected .slopeClose rfl)
  | _ => cases close

/-- A stage that keeps the watch and closes nothing with an obstacle. -/
abbrev Watchful (pinch : Bool) (can : DriverECUCAN) (stage : Stage) : Prop :=
  Triple (Watch pinch can) stage (Watch pinch can) (Shut pinch)

theorem Watchful.andThen {first second : Stage} (here : Watchful pinch can first)
    (later : Watchful pinch can second) : Watchful pinch can (first.andThen second) :=
  Triple.andThen here later

theorem Watchful.set {f : DriverEcu → DriverEcu} (same : ∀ g, (f g).watched = g.watched) :
    Watchful pinch can (.set f) :=
  Triple.silent fun g watch => watch.congr (same g)

theorem Watchful.refl : Watchful pinch can (.set id) := .set fun _ => rfl

theorem Watch.found (watch : Watch pinch can g) (finding : LoopFinding) :
    Watch pinch can g ∧ ∀ event ∈ [.found finding], Shut pinch event := by
  refine ⟨watch, ?_⟩
  intro event mem _
  cases List.mem_singleton.mp mem
  rfl

theorem Watchful.find (finding : LoopFinding) : Watchful pinch can (.find finding) :=
  fun _ watch => watch.found finding

/-- An interrupt asks for no close while there is an obstacle. -/
theorem Watch.raise (watch : Watch pinch can g) {request : DriverRequest}
    (allowed : request.isClose = true → pinch = false) :
    Watch pinch can (g.raise request).1 ∧ ∀ event ∈ (g.raise request).2, Shut pinch event := by
  refine ⟨⟨?_, ?_, ?_⟩, by simp [DriverEcu.raise, Shut, LoopEvent.closes]⟩
  · cases request <;> exact watch.obstacle
  · cases request <;> exact watch.can
  · intro detected other close
    have ne : other ≠ request := by
      rintro rfl
      rw [allowed close] at detected
      cases detected
    exact (pending_setPending_of_ne g ne true).trans (watch.shut detected other close)

theorem Watchful.serve (isr : ButtonIsr) : Watchful pinch can fun g => isr.serve g := by
  intro g watch
  have kept : Watch pinch can g ∧ ∀ event ∈ ([] : List LoopEvent), Shut pinch event :=
    ⟨watch, by simp⟩
  have opens : ∀ request : DriverRequest, request.isClose = false →
      request.isClose = true → pinch = false := by
    intro request opening close
    rw [opening] at close
    cases close
  cases isr with
  | onStopBtn => exact ⟨watch.congr rfl, kept.2⟩
  | onDisabledStopBtn =>
      have pressed : Watch pinch can { g with disabledStopBtnPressed := true } := watch.congr rfl
      exact pressed.found .rung
  | doorControlBtn =>
      simp only [ButtonIsr.serve, doorControlBtnISR]
      split
      · exact watch.raise (opens .doorOpen rfl)
      split
      · split
        · exact kept
        · rename_i clear
          exact watch.raise fun _ => watch.obstacle.symm.trans (Bool.not_eq_true _ ▸ clear)
      · exact kept
  | slopeControlBtn =>
      simp only [ButtonIsr.serve, slopeControlBtnISR]
      split
      · exact watch.raise (opens .slopeOpen rfl)
      split
      · split
        · exact kept
        · rename_i clear
          exact watch.raise fun _ => watch.obstacle.symm.trans (Bool.not_eq_true _ ▸ clear)
      · exact kept

theorem Watchful.serveAll (isrs : List ButtonIsr) : Watchful pinch can (serveAll isrs) := by
  induction isrs with
  | nil => exact .refl
  | cons isr rest ih => exact (Watchful.serve isr).andThen ih

theorem Watchful.at {input : LoopInput} {point : LoopPoint} {access : Stage}
    (watchful : Watchful pinch can access) : Watchful pinch can (input.at point access) :=
  (Watchful.serveAll _).andThen watchful

theorem Watchful.ite {c : Prop} [Decidable c] {yes no : Stage} (left : Watchful pinch can yes)
    (right : Watchful pinch can no) : Watchful pinch can (if c then yes else no) := by
  split
  · exact left
  · exact right

theorem Watch.clear (watch : Watch pinch can g) (request : DriverRequest) :
    Watch pinch can (g.setPending request false) := by
  refine ⟨?_, ?_, ?_⟩
  · cases request <;> exact watch.obstacle
  · cases request <;> exact watch.can
  · intro detected other close
    by_cases same : other = request
    · rw [same, pending_setPending_self]
    · exact (pending_setPending_of_ne g same false).trans (watch.shut detected other close)

variable (input : LoopInput)

theorem sendRequest_watchful {request : DriverRequest}
    (allowed : request.isClose = true → pinch = false) :
    Watchful pinch can (sendRequest input request) := by
  intro g watch
  obtain ⟨-, command, events, cause, fits, -⟩ := sendRequest_sends input request g
  refine ⟨?_, ?_⟩
  · cases request with
    | doorOpen => exact watch.congr (offStopButton_watched g)
    | _ => exact watch
  · rw [events]
    intro event mem detected
    cases List.mem_singleton.mp mem
    rw [Bool.eq_false_iff, Ne, fits.closes_iff]
    rintro ⟨other, caused, close⟩
    cases cause.symm.trans caused
    rw [allowed close] at detected
    cases detected

/-- With an obstacle there is no close to serve. -/
theorem requestBlock_watchful (request : DriverRequest) :
    Watchful pinch can (requestBlock input request) := by
  refine .at fun g watch => ?_
  split
  · exact ⟨watch, by simp⟩
  · rename_i pending
    have allowed : request.isClose = true → pinch = false := by
      intro close
      by_contra detected
      rw [watch.shut (by simpa using detected) request close] at pending
      exact pending rfl
    have cleared : Watchful pinch can (.set fun g => g.setPending request false) :=
      Triple.silent fun g watch => watch.clear request
    exact cleared.at.andThen (sendRequest_watchful input allowed).at g watch

theorem stopBlock_watchful : Watchful pinch can (stopBlock input) := by
  refine .at fun g watch => ?_
  split
  · exact ⟨watch, by simp⟩
  · refine Watchful.at (.set fun g => ?_) g watch
    rw [onStopButton_watched]
    rfl

theorem disabledStopBlock_watchful : Watchful pinch can (disabledStopBlock input) := by
  refine .at fun g watch => ?_
  split
  · exact ⟨watch, by simp⟩
  · exact Watchful.at (.set (disabledStopOn_watched input)) g watch

theorem fireBlock_watchful : Watchful pinch can (fireBlock input) := by
  intro g watch
  unfold fireBlock
  split
  · split
    · refine ⟨watch.congr rfl, ?_⟩
      intro event mem _
      rcases List.mem_cons.mp mem with rfl | sent
      · rfl
      · cases List.mem_singleton.mp sent
        rfl
    · exact watch.found .fire
  · exact ⟨watch.congr rfl, by simp⟩

theorem bleBlock_watchful : Watchful pinch can (bleBlock input) := by
  intro g watch
  simp only [bleBlock]
  split
  · exact ⟨watch.congr rfl, by simp⟩
  · rename_i ble cmd _
    have polled : Watch pinch can { g with ble := ble } := watch.congr rfl
    refine Watchful.andThen (.find _) (.andThen (.ite ?_ .refl) (.ite ?_ .refl)) _ polled
    · exact .at (.set fun _ => rfl)
    · exact .at (.set fun _ => rfl)

theorem afterReception_watchful : Watchful pinch can (afterReception input) := by
  have request : ∀ request, Watchful pinch can (requestBlock input request) :=
    requestBlock_watchful input
  have sending : Watchful pinch can (sendSection input) :=
    (request .doorOpen).andThen <| (request .doorClose).andThen <|
      (request .slopeOpen).andThen (request .slopeClose)
  refine sending.andThen ?_
  refine (stopBlock_watchful input).andThen ?_
  refine (disabledStopBlock_watchful input).andThen ?_
  refine (Watchful.set (buzzerBlock_watched input)).andThen ?_
  exact (fireBlock_watchful input).andThen (bleBlock_watchful input)

end Watch

/-! ### One iteration -/

section Iteration

variable (input : LoopInput) (g : DriverEcu)

/-- An iteration that processes a frame, from where its reception begins. -/
def receiveFrom (st : DriverECUCANStatusSnapshot) : Stage :=
  Stage.andThen (input.at .writeDoorState (.set fun g => { g with doorState := st.doorState })) <|
  Stage.andThen (input.at .writeSlopeState (.set fun g => { g with slopeState := st.rampState })) <|
  afterReception input

/-- The state in which a frame is polled, and what the poll leaves in it. -/
def LoopInput.pollState : DriverEcu := { resetAndMonitor input g with can := (input.polled g).1 }

theorem polled_reset : input.polled (resetAndMonitor input g) = input.polled g := by
  have can : (resetAndMonitor input g).can = g.can :=
    congrArg (fun watched => watched.2.1) (resetAndMonitor_watched input g)
  simp only [LoopInput.polled, can]

theorem driverEcuIterate_received (reception : Stage)
    (received : receiveStatus input (resetAndMonitor input g) = reception (input.pollState g)) :
    driverEcuIterate g input = reception.andThen (afterReception input) (input.pollState g) := by
  show ((afterReception input (receiveStatus input (resetAndMonitor input g)).1).1,
    (receiveStatus input (resetAndMonitor input g)).2 ++
      (afterReception input (receiveStatus input (resetAndMonitor input g)).1).2) = _
  rw [received]
  rfl

/-- An iteration without a status frame. -/
theorem driverEcuIterate_idle (idle : (input.polled g).2.2 = false) :
    driverEcuIterate g input = afterReception input (input.pollState g) := by
  refine driverEcuIterate_received input g (.set id) ?_
  rw [← polled_reset] at idle
  simp only [LoopInput.polled] at idle
  simp only [receiveStatus, idle, LoopInput.pollState, ← polled_reset input g]
  rfl

/-- An iteration with one: it is heard, then the interrupts before the obstacle flag is written,
and the rest. -/
theorem driverEcuIterate_updated (updated : (input.polled g).2.2 = true) :
    driverEcuIterate g input =
      (Stage.find (.heard (input.polled g).1.status)).andThen
        ((serveAll (input.interrupts .writeObstacle)).andThen
          ((Stage.set (writeObstacle (input.polled g).1.status.pinchDetected)).andThen
            (receiveFrom input (input.polled g).1.status))) (input.pollState g) := by
  have split := driverEcuIterate_received input g
    (Stage.andThen (.find (.heard (input.polled g).1.status))
      (.andThen
        (input.at .writeObstacle (.set (writeObstacle (input.polled g).1.status.pinchDetected)))
        (.andThen
          (input.at .writeDoorState
            (.set fun g' => { g' with doorState := (input.polled g).1.status.doorState }))
          (input.at .writeSlopeState
            (.set fun g' => { g' with slopeState := (input.polled g).1.status.rampState }))))) ?_
  · rw [split, LoopInput.at, andThen_assoc, andThen_assoc, andThen_assoc, andThen_assoc]
    rfl
  · rw [← polled_reset] at updated
    simp only [LoopInput.polled] at updated
    simp only [receiveStatus, updated, LoopInput.pollState, ← polled_reset input g]
    rfl

theorem receiveFrom_serves (st : DriverECUCANStatusSnapshot) (request : DriverRequest) :
    Serves request g (receiveFrom input st g) := by
  have door : ∀ g : DriverEcu, SameFlags g { g with doorState := st.doorState } :=
    fun g => ⟨fun request => by cases request <;> rfl, rfl⟩
  have slope : ∀ g : DriverEcu, SameFlags g { g with slopeState := st.rampState } :=
    fun g => ⟨fun request => by cases request <;> rfl, rfl⟩
  refine ((Quiet.at (fun g => (door g).quiet) g).passes request).andThen_serves ?_
  refine ((Quiet.at (fun g => (slope g).quiet) _).passes request).andThen_serves ?_
  exact afterReception_serves input _ request

theorem receiveFrom_watchful {pinch : Bool} {can : DriverECUCAN}
    (st : DriverECUCANStatusSnapshot) : Watchful pinch can (receiveFrom input st) := by
  have door : Watchful pinch can (.set fun g => { g with doorState := st.doorState }) :=
    .set fun _ => rfl
  have slope : Watchful pinch can (.set fun g => { g with slopeState := st.rampState }) :=
    .set fun _ => rfl
  exact door.at.andThen (slope.at.andThen (afterReception_watchful input))

/-- A poll without a frame leaves the endpoint. -/
theorem polled_idle (idle : (input.polled g).2.2 = false) : (input.polled g).1 = g.can := by
  simp only [LoopInput.polled, driverECUCANPollStatus] at idle ⊢
  split_ifs at idle ⊢ <;> simp_all

end Iteration

/-- The obstacle flag is that of the frame processed last, and with a pinch no close is
pending. -/
abbrev Interlocked (g : DriverEcu) : Prop := Watch g.can.status.pinchDetected g.can g

section Step

variable {input : LoopInput} {g : DriverEcu}

variable (input) in
theorem Interlocked.pollState (locked : Interlocked g) :
    Watch g.can.status.pinchDetected (input.polled g).1 (input.pollState g) := by
  have reset := locked.congr (resetAndMonitor_watched input g)
  exact ⟨reset.obstacle, rfl, reset.shut⟩

/-- A close is pending, after the interrupts before the obstacle flag is written. -/
theorem pollState_pending {request : DriverRequest} (close : request.isClose = true) :
    (serveAll (input.interrupts .writeObstacle) (input.pollState g)).1.pending request =
      (g.pending request || g.asks (input.interrupts .writeObstacle) request) := by
  have kept : (input.pollState g).states = g.states ∧
      (input.pollState g).pending request = g.pending request := by
    obtain ⟨stop, disabled, flags, reset⟩ := resetAndMonitor_frame input g
    rw [LoopInput.pollState, reset]
    exact ⟨rfl, by cases request <;> rfl⟩
  rw [serveAll_pending _ _ close, asks_congr kept.1, kept.2]

/-- The state behind the obstacle flag's write. -/
theorem Interlocked.written (locked : Interlocked g) (updated : (input.polled g).2.2 = true)
    (inTime : ¬PinchTooLate g input) :
    Watch (input.polled g).1.status.pinchDetected (input.polled g).1
      (writeObstacle (input.polled g).1.status.pinchDetected
        (serveAll (input.interrupts .writeObstacle) (input.pollState g)).1) := by
  have poll := locked.pollState input
  obtain ⟨interrupted, -⟩ := Watchful.serveAll (input.interrupts .writeObstacle) _ poll
  refine ⟨rfl, interrupted.can, ?_⟩
  intro pinch request close
  have idle : (g.pending request || g.asks (input.interrupts .writeObstacle) request) = false := by
    by_contra asked
    exact inTime ⟨updated, pinch, request, close, (Bool.not_eq_false _).mp asked⟩
  rw [← pollState_pending close] at idle
  cases request <;> exact idle

/-- A frame in time, or none: the interlock holds, and holds again afterwards. -/
theorem Interlocked.iterate (locked : Interlocked g) (inTime : ¬PinchTooLate g input) :
    Interlocked (driverEcuIterate g input).1 ∧ PinchHeeded g input := by
  have watched : Watch (input.polled g).1.status.pinchDetected (input.polled g).1
      (driverEcuIterate g input).1 ∧
      ∀ event ∈ (driverEcuIterate g input).2,
        Shut (input.polled g).1.status.pinchDetected event := by
    cases updated : (input.polled g).2.2 with
    | false =>
        have poll := locked.pollState input
        rw [driverEcuIterate_idle input g updated]
        rw [polled_idle input g updated] at poll ⊢
        exact afterReception_watchful input _ poll
    | true =>
        rw [driverEcuIterate_updated input g updated]
        obtain ⟨after, shut⟩ := receiveFrom_watchful input (input.polled g).1.status _
          (locked.written updated inTime)
        refine ⟨after, ?_⟩
        intro event mem
        rcases List.mem_append.mp mem with found | served
        · exact fun _ => closes_of_silent (Quiet.find _ g).silent found
        rcases List.mem_append.mp served with early | late
        · exact fun _ => closes_of_silent (Quiet.serveAll _ _).silent early
        · exact shut event late
  obtain ⟨after, shut⟩ := watched
  refine ⟨?_, ?_⟩
  · rw [Interlocked, after.can]
    exact after
  · intro event mem closes
    by_contra pinch
    rw [shut event mem (by simpa using pinch)] at closes
    cases closes

/-- A frame too late: what was asked for is sent. -/
theorem not_heeded_of_tooLate (late : PinchTooLate g input) : ¬PinchHeeded g input := by
  obtain ⟨updated, pinch, request, close, asked⟩ := late
  intro heeded
  rw [← pollState_pending close] at asked
  have events := congrArg Prod.snd (driverEcuIterate_updated input g updated)
  -- the flag's write leaves the requests alone
  have served := (receiveFrom_serves input (writeObstacle (input.polled g).1.status.pinchDetected
    (serveAll (input.interrupts .writeObstacle) (input.pollState g)).1)
    (input.polled g).1.status request).once (by cases request <;> exact asked)
  obtain ⟨event, mem, isFor⟩ := List.countP_pos_iff.mp (served ▸ Nat.one_pos)
  have mem : event ∈ (driverEcuIterate g input).2 := by
    rw [events]
    exact List.mem_append_right _ (List.mem_append_right _ mem)
  cases event with
  | found finding => cases isFor
  | raised other => cases isFor
  | sent command =>
      obtain ⟨fits, -⟩ := (requestsHanded input g).fitting command mem
      have closes := fits.closes_iff.mpr ⟨request, by simpa [LoopEvent.isFor] using isFor, close⟩
      rw [heeded _ mem closes] at pinch
      cases pinch

end Step

/-! ### Runs -/

/-- In a run: no close is sent while the frame processed last reports a pinch, exactly if
no frame with a pinch comes too late. -/
theorem pinch_interlock_iff (inputs : List LoopInput) :
    (∀ p ∈ Runs.steps (Runs.next driverEcuIterate) driverEcuBoot inputs, PinchHeeded p.1 p.2) ↔
      ∀ p ∈ Runs.steps (Runs.next driverEcuIterate) driverEcuBoot inputs, ¬PinchTooLate p.1 p.2 := by
  refine Runs.forall_steps_iff_while (P := PinchHeeded) (Q := fun g input => ¬PinchTooLate g input)
    Interlocked ?_ ?_ ?_ inputs
  · intro g input locked inTime
    exact (locked.iterate inTime).1
  · intro g input locked
    refine ⟨fun heeded late => not_heeded_of_tooLate late heeded, ?_⟩
    intro inTime
    exact (locked.iterate inTime).2
  · refine ⟨rfl, rfl, ?_⟩
    intro pinch
    cases pinch

/-! ### A pinch in the same iteration -/

/-- A quiet iteration, but for its interrupts and the frame received. -/
def pinchIteration (interrupts : LoopPoint → List ButtonIsr) (received : CANStatus × CANFrame) :
    LoopInput :=
  { busyPress with
    interrupts := interrupts
    received := received
    sent := fun _ => .ok }

/-- A frame of the door ECU: the door is open, and `pinch` says whether it is blocked. -/
def doorOpenedFrame (pinch : Bool) : CANFrame :=
  { commandFrame (driverWithDoorCanPackStatus pinch doorStateOpened rampStateStowed false false) with
    id := doorCanIdStatus }

/-- The door is open, the close button is pressed, and the next frame reports a pinch. -/
def pinchAfterPress : List LoopInput :=
  [pinchIteration (fun _ => []) (.ok, doorOpenedFrame false),
    pinchIteration (fun point => if point = .readStop then [.doorControlBtn] else [])
      (.enodata, doorOpenedFrame false),
    pinchIteration (fun _ => []) (.ok, doorOpenedFrame true)]

/-- The door is closed on the obstacle just reported. -/
theorem pinch_closes :
    ¬∀ p ∈ Runs.steps (Runs.next driverEcuIterate) driverEcuBoot pinchAfterPress,
      PinchHeeded p.1 p.2 := by
  intro heeded
  have last := heeded _ (.tail _ (.tail _ (.head _)))
  have command := last (.sent ⟨.request .doorClose, doorCmdClose, rampCmdNop, false, false, false,
    .ok, some doorCmdClose⟩) (by decide +kernel) (by decide)
  have clear : true = false := command
  cases clear

end SmartBusAccess.Driver
