import SmartBusAccess.Driver.Requests
import SmartBusAccess.Semantics.Emitting

/-!
The disabled-passenger bell and the next door opening.

A disabled-passenger request is first a flag, and later in the loop a state of the
bell. The door-open section looks at the state only: if it comes first, the door opens
without the ramp (`disabled_deploys_iff`).

To say which requests are outstanding the loop is given a ghost, `owed`: a request
was raised, and since then neither was the bell reset nor a door-open command sent.
The interrupts before the loop's first access to the flags are served right there,
after the reset button; the loop reads nothing of theirs in between.
-/

namespace SmartBusAccess.Driver

open SmartBusAccess.Can SmartBusAccess.Uart Emitting

/-! ### The loop with its ghost -/

/-- The globals, and whether a disabled-passenger request is outstanding. -/
abbrev Owing := DriverEcu × Bool

/-- A stage that labels what it reports with `owed`. -/
abbrev OwingStage := Owing → Owing × List (LoopEvent × Bool)

/-- A stage that neither raises nor settles a request. -/
def Stage.keeping (stage : Stage) : OwingStage := noting (fun _ owed => owed) stage

def ButtonIsr.owing (isr : ButtonIsr) : OwingStage :=
  noting (fun _ owed => owed || isr == .onDisabledStopBtn) fun g => isr.serve g

def owingServeAll : List ButtonIsr → OwingStage
  | [] => (Stage.set id).keeping
  | isr :: rest => andThen isr.owing (owingServeAll rest)

def LoopInput.owingAt (input : LoopInput) (point : LoopPoint) (access : OwingStage) : OwingStage :=
  andThen (owingServeAll (input.interrupts point)) access

/-- The reset button settles what is owed. -/
def owingReset (input : LoopInput) : OwingStage :=
  noting (fun _ owed => owed && !input.stopBtnOff) (Stage.set (resetAndMonitor input))

def owingReceiveStatus (input : LoopInput) : OwingStage := fun s =>
  let nowMs := driverEcuGetNowMs input.stmFreqHz input.pollTicks
  let (can, _, updated) := driverECUCANPollStatus s.1.can nowMs input.received
  let g := { s.1 with can := can }
  if !updated then ((g, s.2), [])
  else
    let st := can.status
    andThen (Stage.find (.heard st)).keeping
      (andThen
        (input.owingAt .writeObstacle (Stage.set (writeObstacle st.pinchDetected)).keeping)
        (andThen
          (input.owingAt .writeDoorState
            (Stage.set fun g => { g with doorState := st.doorState }).keeping)
          (input.owingAt .writeSlopeState
            (Stage.set fun g => { g with slopeState := st.rampState }).keeping))) (g, s.2)

/-- The command of a door opening settles what is owed. -/
def owingSendRequest (input : LoopInput) (request : DriverRequest) : OwingStage :=
  noting (fun _ owed => owed && request != .doorOpen) (sendRequest input request)

def owingRequestBlock (input : LoopInput) (request : DriverRequest) : OwingStage :=
  input.owingAt (.readRequest request) fun s =>
    if !s.1.pending request then (s, [])
    else
      andThen
        (input.owingAt (.clearRequest request)
          (Stage.set fun g => g.setPending request false).keeping)
        (input.owingAt (.sendRequest request) (owingSendRequest input request)) s

def owingStopBlock (input : LoopInput) : OwingStage :=
  input.owingAt .readStop fun s =>
    if !s.1.stopBtnPressed then (s, [])
    else
      input.owingAt .clearStop
        (Stage.set fun g => onStopButton { g with stopBtnPressed := false } input.stopTicks).keeping s

def owingDisabledStopBlock (input : LoopInput) : OwingStage :=
  input.owingAt .readDisabledStop fun s =>
    if !s.1.disabledStopBtnPressed then (s, [])
    else input.owingAt .clearDisabledStop (Stage.set (disabledStopOn input)).keeping s

/-- So does the fire alarm's. -/
def owingFireBlock (input : LoopInput) : OwingStage :=
  noting (fun g owed => owed && !(input.fire && !g.fireAlarmActive)) (fireBlock input)

/-- A slope request over BLE is a disabled-passenger request. -/
def owingBleBlock (input : LoopInput) : OwingStage := fun s =>
  let g := { s.1 with ble := (bleUartTc375Poll s.1.ble input.bleRx).1 }
  match bleUartTc375ConsumeCmd g.ble with
  | none => ((g, s.2), [])
  | some (ble, cmd) =>
      let g := { g with ble := ble }
      let stop : OwingStage :=
        if bleUartCmdGetDoor cmd == bleUartReqOpen then
          input.owingAt .writeBleStop (Stage.set fun g => { g with stopBtnPressed := true }).keeping
        else (Stage.set id).keeping
      let disabledStop : OwingStage :=
        if bleUartCmdGetSlope cmd == bleUartReqOpen then
          input.owingAt .writeBleDisabledStop
            (noting (fun _ _ => true) (Stage.set fun g => { g with disabledStopBtnPressed := true }))
        else (Stage.set id).keeping
      andThen (Stage.find (.called cmd)).keeping (andThen stop disabledStop) (g, s.2)

/-- An iteration behind its door-open section. -/
def owingAfterOpen (input : LoopInput) : OwingStage :=
  andThen (owingRequestBlock input .doorClose) <|
  andThen (owingRequestBlock input .slopeOpen) <|
  andThen (owingRequestBlock input .slopeClose) <|
  andThen (owingStopBlock input) <|
  andThen (owingDisabledStopBlock input) <|
  andThen (Stage.set (buzzerBlock input)).keeping <|
  andThen (owingFireBlock input) <|
  owingBleBlock input

def owingIterate (s : Owing) (input : LoopInput) : Owing × List (LoopEvent × Bool) :=
  andThen (owingReset input)
    (andThen (owingReceiveStatus input)
      (andThen (owingRequestBlock input .doorOpen) (owingAfterOpen input))) s

/-! ### Openings for an owed request -/

/-- A door opened on request while a disabled-passenger request is owed takes the ramp along. -/
def DeploysOwed (s : Owing) (input : LoopInput) : Prop :=
  ∀ command, (.sent command, true) ∈ (owingIterate s input).2 →
    command.cause = .request .doorOpen →
      command.doorCmd = doorCmdOpen ∧ command.rampCmd = rampCmdDeploy ∧ command.rampManual = true

/-- Where the loop reads the door-open flag. -/
def LoopInput.openRead (input : LoopInput) (s : Owing) : Owing :=
  (andThen (owingReset input)
    (andThen (owingReceiveStatus input)
      (owingServeAll (input.interrupts (.readRequest .doorOpen)))) s).1

/-- Where it sends the command, if the flag was set. -/
def LoopInput.openSend (input : LoopInput) (s : Owing) : Owing :=
  (andThen
    (input.owingAt (.clearRequest .doorOpen)
      (Stage.set fun g => g.setPending .doorOpen false).keeping)
    (owingServeAll (input.interrupts (.sendRequest .doorOpen))) (input.openRead s)).1

/-- The door is opened on request while a request that is owed is still only a flag. -/
def OpensBeforeBell (s : Owing) (input : LoopInput) : Prop :=
  (input.openRead s).1.doorOpenReq = true ∧ (input.openSend s).2 = true ∧
    (input.openSend s).1.disabledStopBtnPressed = true ∧
    (input.openSend s).1.disabledStopBtnState = .off

/-! ### Erasure -/

section Erasure

variable (input : LoopInput)

theorem keeping_erases (stage : Stage) : Erases stage.keeping stage := .noting _ _

theorem erases_andThen {first second : Stage} {first' second' : OwingStage}
    (here : Erases first' first) (later : Erases second' second) :
    Erases (andThen first' second') (first.andThen second) :=
  Erases.andThen here later

theorem owingServeAll_erases (isrs : List ButtonIsr) :
    Erases (owingServeAll isrs) (serveAll isrs) := by
  induction isrs with
  | nil => exact keeping_erases _
  | cons isr rest ih => exact erases_andThen (.noting _ fun g => isr.serve g) ih

theorem owingAt_erases (point : LoopPoint) {access' : OwingStage} {access : Stage}
    (erases : Erases access' access) : Erases (input.owingAt point access') (input.at point access) :=
  erases_andThen (owingServeAll_erases _) erases

theorem owingReceiveStatus_erases : Erases (owingReceiveStatus input) (receiveStatus input) := by
  intro s
  simp only [owingReceiveStatus, receiveStatus]
  split
  · exact ⟨rfl, rfl⟩
  · refine erases_andThen (keeping_erases _) (erases_andThen ?_ (erases_andThen ?_ ?_)) _
    · exact owingAt_erases input _ (keeping_erases _)
    · exact owingAt_erases input _ (keeping_erases _)
    · exact owingAt_erases input _ (keeping_erases _)

theorem owingRequestBlock_erases (request : DriverRequest) :
    Erases (owingRequestBlock input request) (requestBlock input request) := by
  refine owingAt_erases input _ fun s => ?_
  split
  · exact ⟨rfl, rfl⟩
  · refine erases_andThen (owingAt_erases input _ (keeping_erases _)) ?_ s
    exact owingAt_erases input _ (.noting _ _)

theorem owingStopBlock_erases : Erases (owingStopBlock input) (stopBlock input) := by
  refine owingAt_erases input _ fun s => ?_
  split
  · exact ⟨rfl, rfl⟩
  · exact owingAt_erases input _ (keeping_erases _) s

theorem owingDisabledStopBlock_erases :
    Erases (owingDisabledStopBlock input) (disabledStopBlock input) := by
  refine owingAt_erases input _ fun s => ?_
  split
  · exact ⟨rfl, rfl⟩
  · exact owingAt_erases input _ (keeping_erases _) s

theorem owingBleBlock_erases : Erases (owingBleBlock input) (bleBlock input) := by
  intro s
  simp only [owingBleBlock, bleBlock]
  cases bleUartTc375ConsumeCmd (bleUartTc375Poll s.1.ble input.bleRx).1 with
  | none => exact ⟨rfl, rfl⟩
  | some consumed =>
      refine erases_andThen (keeping_erases _) (erases_andThen ?_ ?_) (_, s.2)
      · split
        · exact owingAt_erases input _ (keeping_erases _)
        · exact keeping_erases _
      · split
        · exact owingAt_erases input _ (.noting _ _)
        · exact keeping_erases _

/-- The loop behind its door-open section. -/
def afterOpen : Stage :=
  Stage.andThen (requestBlock input .doorClose) <|
  Stage.andThen (requestBlock input .slopeOpen) <|
  Stage.andThen (requestBlock input .slopeClose) <|
  Stage.andThen (stopBlock input) <|
  Stage.andThen (disabledStopBlock input) <|
  Stage.andThen (.set (buzzerBlock input)) <|
  Stage.andThen (fireBlock input) <|
  bleBlock input

theorem owingAfterOpen_erases : Erases (owingAfterOpen input) (afterOpen input) := by
  refine erases_andThen (owingRequestBlock_erases input .doorClose) ?_
  refine erases_andThen (owingRequestBlock_erases input .slopeOpen) ?_
  refine erases_andThen (owingRequestBlock_erases input .slopeClose) ?_
  refine erases_andThen (owingStopBlock_erases input) ?_
  refine erases_andThen (owingDisabledStopBlock_erases input) ?_
  refine erases_andThen (keeping_erases _) ?_
  exact erases_andThen (.noting _ (fireBlock input)) (owingBleBlock_erases input)

theorem core0MainLoop_split :
    core0MainLoop input =
      Stage.andThen (.set (resetAndMonitor input)) (.andThen (receiveStatus input)
        (.andThen (requestBlock input .doorOpen) (afterOpen input))) := by
  rw [core0MainLoop, sendSection, andThen_assoc, andThen_assoc, andThen_assoc]
  rfl

/-- Without the ghost it is the loop. -/
theorem owingIterate_erases (s : Owing) :
    (owingIterate s input).1.1 = (driverEcuIterate s.1 input).1 ∧
      (owingIterate s input).2.map Prod.fst = (driverEcuIterate s.1 input).2 := by
  rw [driverEcuIterate, core0MainLoop_split]
  refine erases_andThen (.noting _ _) (erases_andThen (owingReceiveStatus_erases input) ?_) s
  exact erases_andThen (owingRequestBlock_erases input .doorOpen) (owingAfterOpen_erases input)

end Erasure

/-! ### Nothing owed is lost -/

/-- What is owed is a flag still, or a state of the bell. -/
def Latched (s : Owing) : Prop :=
  s.2 = true → s.1.disabledStopBtnPressed = true ∨ s.1.disabledStopBtnState = .on

/-- The flag and the state of the disabled-passenger bell. -/
def DriverEcu.bell (g : DriverEcu) : Bool × DisabledStopBtnState :=
  (g.disabledStopBtnPressed, g.disabledStopBtnState)

theorem Latched.congr {g g' : DriverEcu} {owed owed' : Bool} (latched : Latched (g, owed))
    (same : g'.bell = g.bell) (less : owed' = true → owed = true) : Latched (g', owed') := by
  simp only [DriverEcu.bell, Prod.mk.injEq] at same
  obtain ⟨pressed, state⟩ := same
  intro owing
  rw [pressed, state]
  exact latched (less owing)

/-- A stage that loses nothing that is owed. -/
abbrev Keeps (stage : OwingStage) : Prop := Triple Latched stage Latched fun _ => True

section Keeps

variable (input : LoopInput)

theorem Keeps.noting {note : DriverEcu → Bool → Bool} {stage : Stage}
    (keeps : ∀ g owed, Latched (g, owed) → Latched ((stage g).1, note g owed)) :
    Keeps (noting note stage) :=
  fun s latched => ⟨keeps s.1 s.2 latched, fun _ _ => trivial⟩

theorem Keeps.set {f : DriverEcu → DriverEcu} (same : ∀ g, (f g).bell = g.bell) :
    Keeps (Stage.set f).keeping :=
  .noting fun g _ latched => latched.congr (same g) id

theorem Keeps.find (finding : LoopFinding) : Keeps (Stage.find finding).keeping :=
  .noting fun _ _ latched => latched

theorem Keeps.andThen {first second : OwingStage} (here : Keeps first) (later : Keeps second) :
    Keeps (Emitting.andThen first second) :=
  Triple.andThen here later

theorem Keeps.serve (isr : ButtonIsr) : Keeps isr.owing := by
  refine .noting fun g owed latched => ?_
  cases isr with
  | onDisabledStopBtn => exact fun _ => .inl rfl
  | onStopBtn => exact latched.congr rfl (by simp)
  | doorControlBtn =>
      refine latched.congr ?_ (by simp)
      simp only [ButtonIsr.serve, doorControlBtnISR]
      split_ifs <;> rfl
  | slopeControlBtn =>
      refine latched.congr ?_ (by simp)
      simp only [ButtonIsr.serve, slopeControlBtnISR]
      split_ifs <;> rfl

theorem Keeps.serveAll (isrs : List ButtonIsr) : Keeps (owingServeAll isrs) := by
  induction isrs with
  | nil => exact .set fun _ => rfl
  | cons isr rest ih => exact (Keeps.serve isr).andThen ih

theorem Keeps.at {point : LoopPoint} {access : OwingStage} (keeps : Keeps access) :
    Keeps (input.owingAt point access) :=
  (Keeps.serveAll _).andThen keeps

theorem owingReset_keeps : Keeps (owingReset input) := by
  refine .noting fun g owed latched => ?_
  cases off : input.stopBtnOff with
  | true =>
      intro owing
      simp at owing
  | false =>
      refine latched.congr ?_ (by simp)
      simp only [Stage.set, resetAndMonitor, off, Bool.false_eq_true, if_false]
      split_ifs <;> rfl

theorem owingReceiveStatus_keeps : Keeps (owingReceiveStatus input) := by
  intro s latched
  simp only [owingReceiveStatus]
  split
  · exact ⟨latched.congr rfl id, fun _ _ => trivial⟩
  · refine Keeps.andThen (.find _) ?_ _ (latched.congr rfl id)
    refine Keeps.andThen ?_ (Keeps.andThen ?_ ?_)
    · exact Keeps.at input (.set fun _ => rfl)
    · exact Keeps.at input (.set fun _ => rfl)
    · exact Keeps.at input (.set fun _ => rfl)

theorem owingSendRequest_keeps (request : DriverRequest) :
    Keeps (owingSendRequest input request) := by
  refine .noting fun g owed latched => ?_
  cases request with
  | doorOpen =>
      intro owing
      simp at owing
  | _ => exact latched.congr rfl (by simp)

theorem clearRequest_keeps (request : DriverRequest) :
    Keeps (Stage.set fun g => g.setPending request false).keeping :=
  .set fun g => by cases request <;> rfl

theorem owingRequestBlock_keeps (request : DriverRequest) :
    Keeps (owingRequestBlock input request) := by
  refine Keeps.at input fun s latched => ?_
  split
  · exact ⟨latched, fun _ _ => trivial⟩
  · exact Keeps.andThen (Keeps.at input (clearRequest_keeps request))
      (Keeps.at input (owingSendRequest_keeps input request)) s latched

theorem onStopButton_bell (g : DriverEcu) (ticks : UInt64) :
    (onStopButton g ticks).bell = g.bell := by
  unfold onStopButton
  split <;> rfl

theorem owingStopBlock_keeps : Keeps (owingStopBlock input) := by
  refine Keeps.at input fun s latched => ?_
  split
  · exact ⟨latched, fun _ _ => trivial⟩
  · refine Keeps.at input (.set fun g => ?_) s latched
    rw [onStopButton_bell]
    rfl

theorem disabledStopOn_on (g : DriverEcu) :
    (disabledStopOn input g).disabledStopBtnState = .on := by
  simp only [disabledStopOn]
  split
  · assumption
  · split
    · exact congrArg Prod.snd (onStopButton_bell _ input.disabledTicks)
    · rfl

/-- The flag is given up for the state. -/
theorem owingDisabledStopBlock_keeps : Keeps (owingDisabledStopBlock input) := by
  refine Keeps.at input fun s latched => ?_
  split
  · exact ⟨latched, fun _ _ => trivial⟩
  · refine Keeps.at input (.noting fun g owed _ => ?_) s latched
    exact fun _ => .inr (disabledStopOn_on input g)

theorem owingFireBlock_keeps : Keeps (owingFireBlock input) := by
  refine .noting fun g owed latched => latched.congr ?_ (by simp +contextual)
  unfold fireBlock
  split_ifs <;> rfl

theorem owingBleBlock_keeps : Keeps (owingBleBlock input) := by
  intro s latched
  simp only [owingBleBlock]
  split
  · exact ⟨latched.congr rfl id, fun _ _ => trivial⟩
  · refine Keeps.andThen (.find _) (Keeps.andThen ?_ ?_) _ (latched.congr rfl id)
    · split
      · exact Keeps.at input (.set fun _ => rfl)
      · exact .set fun _ => rfl
    · split
      · exact Keeps.at input (.noting fun _ _ _ _ => .inl rfl)
      · exact .set fun _ => rfl

theorem owingAfterOpen_keeps : Keeps (owingAfterOpen input) := by
  have request := owingRequestBlock_keeps input
  refine (request .doorClose).andThen <| (request .slopeOpen).andThen <|
    (request .slopeClose).andThen ?_
  refine (owingStopBlock_keeps input).andThen ?_
  refine (owingDisabledStopBlock_keeps input).andThen ?_
  have buzzer : Keeps (Stage.set (buzzerBlock input)).keeping := .set fun g => by
    unfold buzzerBlock
    split_ifs <;> rfl
  exact buzzer.andThen ((owingFireBlock_keeps input).andThen (owingBleBlock_keeps input))

theorem owingIterate_latched {s : Owing} (latched : Latched s) :
    Latched (owingIterate s input).1 :=
  (((owingReset_keeps input).andThen <| (owingReceiveStatus_keeps input).andThen <|
    (owingRequestBlock_keeps input .doorOpen).andThen (owingAfterOpen_keeps input)) s latched).1

end Keeps

/-! ### The command of a door opening -/

section Opening

variable {input : LoopInput} {s : Owing} {command : DriverCommand} {owed : Bool}

theorem silent_of_erases {stage' : OwingStage} {stage : Stage} (erases : Erases stage' stage)
    {t : Owing} (silent : ∀ command, .sent command ∉ (stage t.1).2) :
    (.sent command, owed) ∉ (stage' t).2 :=
  fun mem => silent command (erases.mem mem)

/-- Behind its section nothing is sent for a door opening. -/
theorem afterOpen_passes (input : LoopInput) (g : DriverEcu) :
    Passes .doorOpen g (afterOpen input g) := by
  have request := requestBlock_passes input
  refine (request .doorClose .doorOpen nofun g).andThen ?_
  refine (request .slopeOpen .doorOpen nofun _).andThen ?_
  refine (request .slopeClose .doorOpen nofun _).andThen ?_
  refine ((stopBlock_quiet input _).passes .doorOpen).andThen ?_
  refine ((disabledStopBlock_quiet input _).passes .doorOpen).andThen ?_
  refine ((SameFlags.stage (buzzerBlock_same input) _).passes .doorOpen).andThen ?_
  exact (fireBlock_passes input .doorOpen _).andThen ((bleBlock_quiet input _).passes .doorOpen)

/-- What the section reports, from the state `t` before it. -/
theorem openBlock_sent (input : LoopInput) (command : DriverCommand) (owed : Bool) (t : Owing) :
    let read := (owingServeAll (input.interrupts (.readRequest .doorOpen)) t).1
    let send := (andThen
      (input.owingAt (.clearRequest .doorOpen)
        (Stage.set fun g => g.setPending .doorOpen false).keeping)
      (owingServeAll (input.interrupts (.sendRequest .doorOpen))) read).1
    (.sent command, owed) ∈ (owingRequestBlock input .doorOpen t).2 ↔
      read.1.doorOpenReq = true ∧ owed = send.2 ∧
        .sent command ∈ (sendRequest input .doorOpen send.1).2 := by
  intro read send
  have served : ∀ isrs t, (.sent command, owed) ∉ (owingServeAll isrs t).2 := fun isrs t =>
    silent_of_erases (owingServeAll_erases isrs) (Quiet.serveAll isrs _).silent
  have entered : (.sent command, owed) ∈ (owingRequestBlock input .doorOpen t).2 ↔
      (.sent command, owed) ∈ (if !read.1.pending .doorOpen then (read, [])
        else
          andThen
            (input.owingAt (.clearRequest .doorOpen)
              (Stage.set fun g => g.setPending .doorOpen false).keeping)
            (input.owingAt (.sendRequest .doorOpen) (owingSendRequest input .doorOpen)) read).2 := by
    simp only [owingRequestBlock, LoopInput.owingAt, andThen, List.mem_append, served, false_or]
    rfl
  rw [entered]
  cases pending : read.1.doorOpenReq with
  | false => simp [DriverEcu.pending, pending]
  | true =>
      simp only [DriverEcu.pending, pending, Bool.not_true, Bool.false_eq_true, if_false, true_and]
      have cleared : (.sent command, owed) ∉ (input.owingAt (.clearRequest .doorOpen)
          (Stage.set fun g => g.setPending .doorOpen false).keeping read).2 := by
        simp [LoopInput.owingAt, andThen, served, Stage.keeping, noting, Stage.set]
      have sent : (.sent command, owed) ∈ (owingSendRequest input .doorOpen send).2 ↔
          owed = send.2 ∧ .sent command ∈ (sendRequest input .doorOpen send.1).2 := by
        simp only [owingSendRequest, noting, List.mem_map, Prod.mk.injEq]
        constructor
        · rintro ⟨event, mem, rfl, rfl⟩
          exact ⟨rfl, mem⟩
        · rintro ⟨rfl, mem⟩
          exact ⟨_, mem, rfl, rfl⟩
      rw [← sent]
      simp only [andThen, List.mem_append, cleared, false_or]
      rw [LoopInput.owingAt, andThen, List.mem_append]
      simp only [served, false_or]
      rfl

/-- A door opening is reported by its own section, and only there. -/
theorem owingIterate_opening (cause : command.cause = .request .doorOpen) :
    (.sent command, owed) ∈ (owingIterate s input).2 ↔
      (input.openRead s).1.doorOpenReq = true ∧ owed = (input.openSend s).2 ∧
        .sent command ∈ (sendRequest input .doorOpen (input.openSend s).1).2 := by
  have reset : (.sent command, owed) ∉ (owingReset input s).2 := by
    simp [owingReset, noting, Stage.set]
  have received : (.sent command, owed) ∉ (owingReceiveStatus input (owingReset input s).1).2 :=
    silent_of_erases (owingReceiveStatus_erases input) (receiveStatus_quiet input _).silent
  have after : ∀ t, (.sent command, owed) ∉ (owingAfterOpen input t).2 := by
    intro t mem
    have none := (afterOpen_passes input t.1).silent
    have found := List.countP_eq_zero.mp none _ ((owingAfterOpen_erases input).mem mem)
    simp [LoopEvent.isFor, cause] at found
  simp only [owingIterate, andThen, List.mem_append, reset, received, after, false_or, or_false]
  exact openBlock_sent input command owed _

theorem openSend_latched (latched : Latched s) : Latched (input.openSend s) := by
  have read := (((owingReset_keeps input).andThen <| (owingReceiveStatus_keeps input).andThen <|
    Keeps.serveAll (input.interrupts (.readRequest .doorOpen))) s latched).1
  exact (((Keeps.at input (clearRequest_keeps .doorOpen)).andThen <|
    Keeps.serveAll (input.interrupts (.sendRequest .doorOpen))) _ read).1

theorem deploysOwed_iff (latched : Latched s) :
    DeploysOwed s input ↔ ¬OpensBeforeBell s input := by
  constructor
  · rintro deploys ⟨pending, owed, -, off⟩
    have sent : .sent ⟨.request .doorOpen, doorCmdOpen, rampCmdNop, false, false, false,
        input.sent (.request .doorOpen), some doorCmdOpen⟩ ∈
          (sendRequest input .doorOpen (input.openSend s).1).2 := by
      simp only [sendRequest, off]
      exact List.mem_singleton_self _
    have reported := (owingIterate_opening rfl).mpr ⟨pending, owed.symm, sent⟩
    obtain ⟨-, ramp, -⟩ := deploys _ reported rfl
    have nothing : rampCmdNop = rampCmdDeploy := ramp
    exact absurd nothing (by decide)
  · intro clean command mem cause
    obtain ⟨pending, owed, sent⟩ := (owingIterate_opening cause).mp mem
    cases state : (input.openSend s).1.disabledStopBtnState with
    | on =>
        simp only [sendRequest, state] at sent
        cases List.mem_singleton.mp sent
        exact ⟨rfl, rfl, rfl⟩
    | off =>
        rcases openSend_latched latched owed.symm with pressed | on
        · exact absurd ⟨pending, owed.symm, pressed, state⟩ clean
        · rw [state] at on
          cases on

end Opening

/-! ### Runs -/

/-- In a run: a door opened on request takes the ramp along for what is owed, exactly if it
is never opened while what is owed is only a flag. -/
theorem disabled_deploys_iff (inputs : List LoopInput) :
    (∀ p ∈ Runs.steps (Runs.next owingIterate) (driverEcuBoot, false) inputs,
      DeploysOwed p.1 p.2) ↔
    ∀ p ∈ Runs.steps (Runs.next owingIterate) (driverEcuBoot, false) inputs,
      ¬OpensBeforeBell p.1 p.2 := by
  have initial : Latched (driverEcuBoot, false) := by
    intro owing
    cases owing
  exact Runs.forall_steps_iff (P := DeploysOwed) (Q := fun s input => ¬OpensBeforeBell s input)
    Latched (fun _ input latched => owingIterate_latched input latched)
    (fun _ _ latched => deploysOwed_iff latched) initial inputs

/-- The disabled-passenger bell is pressed, then the door button, and then the loop comes to
its send section. -/
def bellThenDoor : LoopInput :=
  { busyPress with
    interrupts := fun point =>
      if point = .readRequest .doorOpen then [.onDisabledStopBtn, .doorControlBtn] else []
    sent := fun _ => .ok }

/-- The door opens without the ramp. -/
theorem disabled_left_behind :
    ¬∀ p ∈ Runs.steps (Runs.next owingIterate) (driverEcuBoot, false) [bellThenDoor],
      DeploysOwed p.1 p.2 := by
  intro deploys
  have first := deploys _ (.head _) ⟨.request .doorOpen, doorCmdOpen, rampCmdNop, false, false, false,
    .ok, some doorCmdOpen⟩ (by decide +kernel) rfl
  have ramp : rampCmdNop = rampCmdDeploy := first.2.1
  exact absurd ramp (by decide)

end SmartBusAccess.Driver
