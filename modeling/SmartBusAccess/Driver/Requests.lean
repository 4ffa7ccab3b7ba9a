import SmartBusAccess.Driver.MainLoop
import SmartBusAccess.Semantics.Runs

/-!
From the driver's requests to the CAN driver.

Almost every stage of an iteration is `Quiet`: it sends nothing, and a flag is set
after it exactly if it was set before it or an interrupt raised it meanwhile. The
block of a request hands over its command if the flag is set when the block reads it.

The status of a command is ignored: what is consumed and what is sent does not
depend on it (`Blind`).
-/

namespace SmartBusAccess.Driver

open SmartBusAccess.Can SmartBusAccess.Uart

/-! ### Commands in a report -/

def LoopEvent.isFor (cause : CommandCause) : LoopEvent → Bool
  | .found _ | .raised _ => false
  | .sent command => command.cause == cause

/-- How many commands were handed over for a cause. -/
def handed (cause : CommandCause) (events : List LoopEvent) : Nat :=
  events.countP (LoopEvent.isFor cause)

/-- How often a request was raised. -/
def raises (request : DriverRequest) (events : List LoopEvent) : Nat :=
  events.count (.raised request)

/-- Was a command for this cause accepted? -/
def accepted (cause : CommandCause) (events : List LoopEvent) : Bool :=
  events.any fun event =>
    match event with
    | .found _ | .raised _ => false
    | .sent command => command.cause == cause && command.status == .ok

/-- The event without its status. -/
def LoopEvent.commanded : LoopEvent → LoopEvent
  | .found finding => .found finding
  | .raised request => .raised request
  | .sent command => .sent { command with status := .ok }

/-- The command is one that its cause calls for. -/
def DriverCommand.Fits (command : DriverCommand) : Prop :=
  command.emergencyStop = false ∧ command.resetFault = false ∧
  command.payload = some (driverWithDoorCanPackCommand command.doorCmd command.rampCmd
    command.rampManual command.emergencyStop command.resetFault) ∧
  match command.cause with
  | .request .doorOpen =>
      command.doorCmd = doorCmdOpen ∧
        (command.rampCmd = rampCmdNop ∧ command.rampManual = false ∨
          command.rampCmd = rampCmdDeploy ∧ command.rampManual = true)
  | .request .doorClose =>
      command.doorCmd = doorCmdClose ∧ command.rampCmd = rampCmdNop ∧ command.rampManual = false
  | .request .slopeOpen =>
      command.doorCmd = doorCmdNop ∧ command.rampCmd = rampCmdDeploy ∧ command.rampManual = true
  | .request .slopeClose =>
      command.doorCmd = doorCmdNop ∧ command.rampCmd = rampCmdStow ∧ command.rampManual = true
  | .fire => command.doorCmd = doorCmdOpen ∧ command.rampCmd = rampCmdNop ∧ command.rampManual = true

/-- The commands of a report are the ones called for, with the statuses given. -/
def Fitting (sent : CommandCause → CANStatus) (events : List LoopEvent) : Prop :=
  ∀ command, .sent command ∈ events → command.Fits ∧ command.status = sent command.cause

@[simp] theorem handed_nil (cause : CommandCause) : handed cause [] = 0 := rfl

@[simp] theorem handed_append (cause : CommandCause) (front back : List LoopEvent) :
    handed cause (front ++ back) = handed cause front + handed cause back :=
  List.countP_append

theorem handed_andThen (cause : CommandCause) (first second : Stage) (g : DriverEcu) :
    handed cause (first.andThen second g).2 =
      handed cause (first g).2 + handed cause (second (first g).1).2 :=
  handed_append cause (first g).2 _

theorem raises_andThen (request : DriverRequest) (first second : Stage) (g : DriverEcu) :
    raises request (first.andThen second g).2 =
      raises request (first g).2 + raises request (second (first g).1).2 :=
  List.count_append

theorem Fitting.append {sent : CommandCause → CANStatus} {front back : List LoopEvent}
    (first : Fitting sent front) (second : Fitting sent back) : Fitting sent (front ++ back) :=
  fun command mem => (List.mem_append.mp mem).elim (first command) (second command)

/-! ### Flags -/

@[simp] theorem pending_setPending_self (g : DriverEcu) (request : DriverRequest) (flag : Bool) :
    (g.setPending request flag).pending request = flag := by
  cases request <;> rfl

theorem pending_setPending_of_ne (g : DriverEcu) {request other : DriverRequest}
    (ne : other ≠ request) (flag : Bool) :
    (g.setPending request flag).pending other = g.pending other := by
  cases request <;> cases other <;> first | rfl | exact absurd rfl ne

@[simp] theorem fireAlarmActive_setPending (g : DriverEcu) (request : DriverRequest)
    (flag : Bool) : (g.setPending request flag).fireAlarmActive = g.fireAlarmActive := by
  cases request <;> rfl

/-! ### Quiet stages -/

/-- A request is pending after a stage if it was before or was raised during it. -/
def Raises (request : DriverRequest) (g : DriverEcu) (out : DriverEcu × List LoopEvent) : Prop :=
  out.1.pending request = true ↔ g.pending request = true ∨ .raised request ∈ out.2

structure Quiet (g : DriverEcu) (out : DriverEcu × List LoopEvent) : Prop where
  raises : ∀ request, Raises request g out
  silent : ∀ command, .sent command ∉ out.2
  alarm : out.1.fireAlarmActive = g.fireAlarmActive

theorem Raises.andThen {request : DriverRequest} {first second : Stage} {g : DriverEcu}
    (here : Raises request g (first g)) (later : Raises request (first g).1 (second (first g).1)) :
    Raises request g (first.andThen second g) := by
  show (second (first g).1).1.pending request = true ↔
    g.pending request = true ∨ .raised request ∈ (first g).2 ++ (second (first g).1).2
  rw [List.mem_append, ← or_assoc]
  exact later.trans (or_congr_left here)

theorem Quiet.andThen {first second : Stage} {g : DriverEcu} (here : Quiet g (first g))
    (later : Quiet (first g).1 (second (first g).1)) : Quiet g (first.andThen second g) where
  raises request := (here.raises request).andThen (later.raises request)
  silent command mem :=
    (List.mem_append.mp mem).elim (here.silent command) (later.silent command)
  alarm := later.alarm.trans here.alarm

/-- The flags and the alarm agree. -/
structure SameFlags (g g' : DriverEcu) : Prop where
  pending : ∀ request, g'.pending request = g.pending request
  alarm : g'.fireAlarmActive = g.fireAlarmActive

theorem SameFlags.refl (g : DriverEcu) : SameFlags g g := ⟨fun _ => rfl, rfl⟩

theorem SameFlags.trans {g g' g'' : DriverEcu} (first : SameFlags g g') (second : SameFlags g' g'') :
    SameFlags g g'' where
  pending request := (second.pending request).trans (first.pending request)
  alarm := second.alarm.trans first.alarm

theorem SameFlags.ite {c : Prop} [Decidable c] {g yes no : DriverEcu} (left : SameFlags g yes)
    (right : SameFlags g no) : SameFlags g (if c then yes else no) := by
  split
  · exact left
  · exact right

theorem SameFlags.quiet {g g' : DriverEcu} (same : SameFlags g g') : Quiet g (g', []) where
  raises request := by simp [Raises, same.pending]
  silent command := List.not_mem_nil
  alarm := same.alarm

theorem SameFlags.stage {f : DriverEcu → DriverEcu} (same : ∀ g, SameFlags g (f g))
    (g : DriverEcu) : Quiet g (Stage.set f g) :=
  (same g).quiet

theorem SameFlags.before {g g' : DriverEcu} {out : DriverEcu × List LoopEvent}
    (same : SameFlags g g') (quiet : Quiet g' out) : Quiet g out where
  raises request := by rw [Raises, ← same.pending request]; exact quiet.raises request
  silent := quiet.silent
  alarm := quiet.alarm.trans same.alarm

theorem Quiet.refl (g : DriverEcu) : Quiet g (g, []) := (SameFlags.refl g).quiet

theorem SameFlags.found {g g' : DriverEcu} (same : SameFlags g g') (finding : LoopFinding) :
    Quiet g (g', [.found finding]) where
  raises request := by simp [Raises, same.pending]
  silent command := by simp
  alarm := same.alarm

theorem Quiet.find (finding : LoopFinding) (g : DriverEcu) : Quiet g (Stage.find finding g) :=
  (SameFlags.refl g).found finding

theorem Quiet.raise (g : DriverEcu) (request : DriverRequest) : Quiet g (g.raise request) where
  raises other := by
    by_cases same : other = request
    · subst same
      simp [Raises, DriverEcu.raise]
    · simp [Raises, DriverEcu.raise, pending_setPending_of_ne g same, same]
  silent command := by simp [DriverEcu.raise]
  alarm := fireAlarmActive_setPending g request true

theorem Quiet.serve (g : DriverEcu) (isr : ButtonIsr) : Quiet g (isr.serve g) := by
  cases isr with
  | onStopBtn => exact SameFlags.quiet ⟨fun request => by cases request <;> rfl, rfl⟩
  | onDisabledStopBtn =>
      have same : SameFlags g { g with disabledStopBtnPressed := true } :=
        ⟨fun request => by cases request <;> rfl, rfl⟩
      exact same.found .rung
  | doorControlBtn =>
      simp only [ButtonIsr.serve, doorControlBtnISR]
      split
      · exact .raise g .doorOpen
      split
      · split
        · exact .refl g
        · exact .raise g .doorClose
      · exact .refl g
  | slopeControlBtn =>
      simp only [ButtonIsr.serve, slopeControlBtnISR]
      split
      · exact .raise g .slopeOpen
      split
      · split
        · exact .refl g
        · exact .raise g .slopeClose
      · exact .refl g

theorem Quiet.serveAll (isrs : List ButtonIsr) (g : DriverEcu) : Quiet g (serveAll isrs g) := by
  induction isrs generalizing g with
  | nil => exact .refl g
  | cons isr rest ih => exact (Quiet.serve g isr).andThen (ih _)

theorem Quiet.at {input : LoopInput} {point : LoopPoint} {access : Stage}
    (quiet : ∀ g, Quiet g (access g)) (g : DriverEcu) : Quiet g (input.at point access g) :=
  (Quiet.serveAll _ g).andThen (quiet _)

theorem Quiet.ite {c : Prop} [Decidable c] {yes no : Stage} (left : ∀ g, Quiet g (yes g))
    (right : ∀ g, Quiet g (no g)) (g : DriverEcu) : Quiet g ((if c then yes else no) g) := by
  split
  · exact left g
  · exact right g

/-! ### The stages without a command -/

section Quiet

variable (input : LoopInput) (g : DriverEcu)

theorem offStopButton_same : SameFlags g (offStopButton g) := by
  unfold offStopButton
  split
  · exact ⟨fun request => by cases request <;> rfl, rfl⟩
  · exact .refl g

theorem playBuzzer_same (ticks : UInt64) : SameFlags g (playBuzzer g ticks) :=
  ⟨fun request => by cases request <;> rfl, rfl⟩

theorem onStopButton_same (ticks : UInt64) : SameFlags g (onStopButton g ticks) := by
  unfold onStopButton
  split
  · exact ⟨fun request => by cases request <;> rfl, rfl⟩
  · exact .refl g

theorem resetAndMonitor_same : SameFlags g (resetAndMonitor input g) := by
  have reset : SameFlags g (if input.stopBtnOff then offStopButton g else g) :=
    .ite (offStopButton_same g) (.refl g)
  have monitor : ∀ g flags, SameFlags g { g with monitorFlags := flags } :=
    fun g flags => ⟨fun request => by cases request <;> rfl, rfl⟩
  refine (reset.trans ?_).trans (.ite (monitor _ _) (.ite (monitor _ _) (.refl _)))
  exact .ite (monitor _ _) (.ite (monitor _ _) (.refl _))

theorem receiveStatus_quiet : Quiet g (receiveStatus input g) := by
  have polled : ∀ can, SameFlags g { g with can := can } :=
    fun can => ⟨fun request => by cases request <;> rfl, rfl⟩
  have obstacle : ∀ pinch g, SameFlags g (writeObstacle pinch g) :=
    fun pinch g => ⟨fun request => by cases request <;> rfl, rfl⟩
  have door : ∀ state g, SameFlags g { g with doorState := state } :=
    fun state g => ⟨fun request => by cases request <;> rfl, rfl⟩
  have slope : ∀ state g, SameFlags g { g with slopeState := state } :=
    fun state g => ⟨fun request => by cases request <;> rfl, rfl⟩
  simp only [receiveStatus]
  split
  · exact (polled _).quiet
  · refine (polled _).before (Quiet.andThen (.find _ _) ?_)
    refine Quiet.andThen (.at (fun g => (obstacle _ g).quiet) _) ?_
    exact .andThen (.at (fun g => (door _ g).quiet) _) (.at (fun g => (slope _ g).quiet) _)

theorem stopBlock_quiet : Quiet g (stopBlock input g) := by
  have cleared : ∀ g : DriverEcu, SameFlags g { g with stopBtnPressed := false } :=
    fun g => ⟨fun request => by cases request <;> rfl, rfl⟩
  refine .at (fun g => ?_) g
  split
  · exact .refl g
  · exact .at (fun g => ((cleared g).trans (onStopButton_same _ _)).quiet) g

theorem disabledStopOn_same : SameFlags g (disabledStopOn input g) := by
  have cleared : SameFlags g { g with disabledStopBtnPressed := false } :=
    ⟨fun request => by cases request <;> rfl, rfl⟩
  have set : ∀ g : DriverEcu, SameFlags g { g with disabledStopBtnState := .on } :=
    fun g => ⟨fun request => by cases request <;> rfl, rfl⟩
  simp only [disabledStopOn]
  split
  · exact cleared
  · split
    · exact (cleared.trans (set _)).trans (onStopButton_same _ _)
    · exact (cleared.trans (set _)).trans (playBuzzer_same _ _)

theorem disabledStopBlock_quiet : Quiet g (disabledStopBlock input g) := by
  refine .at (fun g => ?_) g
  split
  · exact .refl g
  · exact .at (fun g => (disabledStopOn_same input g).quiet) g

theorem buzzerBlock_same : SameFlags g (buzzerBlock input g) :=
  .ite ⟨fun request => by cases request <;> rfl, rfl⟩ (.refl g)

theorem bleBlock_quiet : Quiet g (bleBlock input g) := by
  have polled : ∀ g ble, SameFlags g { g with ble := ble } :=
    fun g ble => ⟨fun request => by cases request <;> rfl, rfl⟩
  have pressed : ∀ g : DriverEcu, SameFlags g { g with stopBtnPressed := true } :=
    fun g => ⟨fun request => by cases request <;> rfl, rfl⟩
  have disabled : ∀ g : DriverEcu, SameFlags g { g with disabledStopBtnPressed := true } :=
    fun g => ⟨fun request => by cases request <;> rfl, rfl⟩
  simp only [bleBlock]
  split
  · exact (polled _ _).quiet
  · refine ((polled _ _).trans (polled _ _)).before (Quiet.andThen (.find _ _) ?_)
    refine Quiet.andThen ?_ ?_
    · exact .ite (.at fun g => (pressed g).quiet) Quiet.refl _
    · exact .ite (.at fun g => (disabled g).quiet) Quiet.refl _

end Quiet

/-! ### Stages with commands -/

/-- A stage that does not serve `request`. -/
structure Passes (request : DriverRequest) (g : DriverEcu) (out : DriverEcu × List LoopEvent) :
    Prop where
  raises : Raises request g out
  silent : handed (.request request) out.2 = 0

/-- A stage that serves `request`. -/
structure Serves (request : DriverRequest) (g : DriverEcu) (out : DriverEcu × List LoopEvent) :
    Prop where
  once : g.pending request = true → handed (.request request) out.2 = 1
  atMostOnce : handed (.request request) out.2 ≤ 1
  caused : handed (.request request) out.2 ≠ 0 →
    g.pending request = true ∨ .raised request ∈ out.2
  kept : g.pending request = true ∨ .raised request ∈ out.2 →
    handed (.request request) out.2 ≠ 0 ∨ out.1.pending request = true
  consumed : handed (.request request) out.2 + (out.1.pending request).toNat ≤
    (g.pending request).toNat + raises request out.2

theorem handed_of_silent {events : List LoopEvent} (silent : ∀ command, .sent command ∉ events)
    (cause : CommandCause) : handed cause events = 0 := by
  refine List.countP_eq_zero.mpr fun event mem => ?_
  cases event with
  | found finding => exact Bool.false_ne_true
  | raised request => exact Bool.false_ne_true
  | sent command => exact absurd mem (silent command)

theorem Quiet.passes {g : DriverEcu} {out : DriverEcu × List LoopEvent} (quiet : Quiet g out)
    (request : DriverRequest) : Passes request g out :=
  ⟨quiet.raises request, handed_of_silent quiet.silent _⟩

/-- A flag is not set without a raise. -/
theorem Raises.bound {request : DriverRequest} {g : DriverEcu} {out : DriverEcu × List LoopEvent}
    (flag : Raises request g out) :
    (out.1.pending request).toNat ≤ (g.pending request).toNat + raises request out.2 := by
  cases after : out.1.pending request with
  | false => exact Nat.zero_le _
  | true =>
      rcases flag.mp after with before | raised
      · rw [before]
        exact Nat.le_add_right _ _
      · have positive : 0 < raises request out.2 := List.count_pos_iff.mpr raised
        exact Nat.le_trans positive (Nat.le_add_left _ _)

section Serving

variable {request : DriverRequest} {first second : Stage} {g : DriverEcu}

theorem Passes.andThen (here : Passes request g (first g))
    (later : Passes request (first g).1 (second (first g).1)) :
    Passes request g (first.andThen second g) where
  raises := here.raises.andThen later.raises
  silent := by rw [handed_andThen, here.silent, later.silent]

theorem Passes.andThen_serves (here : Passes request g (first g))
    (later : Serves request (first g).1 (second (first g).1)) :
    Serves request g (first.andThen second g) := by
  have count : handed (.request request) (first.andThen second g).2 =
      handed (.request request) (second (first g).1).2 := by
    rw [handed_andThen, here.silent, Nat.zero_add]
  have reached : g.pending request = true ∨ .raised request ∈ (first.andThen second g).2 ↔
      (first g).1.pending request = true ∨ .raised request ∈ (second (first g).1).2 := by
    show _ ∨ .raised request ∈ (first g).2 ++ (second (first g).1).2 ↔ _
    rw [List.mem_append, ← or_assoc]
    exact or_congr_left here.raises.symm
  constructor
  · intro pending
    rw [count]
    exact later.once (here.raises.mpr (.inl pending))
  · rw [count]
    exact later.atMostOnce
  · rw [count, reached]
    exact later.caused
  · rw [count, reached]
    exact later.kept
  · have reached := here.raises.bound
    have spent := later.consumed
    rw [count, raises_andThen]
    show _ + (Bool.toNat ((second (first g).1).1.pending request)) ≤ _
    omega

theorem Serves.andThen_passes (here : Serves request g (first g))
    (later : Passes request (first g).1 (second (first g).1)) :
    Serves request g (first.andThen second g) := by
  have count : handed (.request request) (first.andThen second g).2 =
      handed (.request request) (first g).2 := by
    rw [handed_andThen, later.silent, Nat.add_zero]
  have events : (first.andThen second g).2 = (first g).2 ++ (second (first g).1).2 := rfl
  constructor
  · rw [count]
    exact here.once
  · rw [count]
    exact here.atMostOnce
  · rw [count, events]
    intro sent
    exact (here.caused sent).imp_right (List.mem_append_left _)
  · rw [count, events, List.mem_append, ← or_assoc]
    rintro (before | after)
    · exact (here.kept before).imp_right fun pending => later.raises.mpr (.inl pending)
    · exact .inr (later.raises.mpr (.inr after))
  · have spent := here.consumed
    have reached := later.raises.bound
    rw [count, raises_andThen]
    show _ + (Bool.toNat ((second (first g).1).1.pending request)) ≤ _
    omega

/-- A request that was pending is consumed, unless it is raised again. -/
theorem Serves.cleared {out : DriverEcu × List LoopEvent} (serves : Serves request g out)
    (pending : g.pending request = true) (quiet : .raised request ∉ out.2) :
    out.1.pending request = false := by
  have spent := serves.consumed
  have none : raises request out.2 = 0 := List.count_eq_zero.mpr quiet
  rw [serves.once pending, pending, none] at spent
  cases left : out.1.pending request with
  | false => rfl
  | true =>
      rw [left] at spent
      contradiction

end Serving

theorem handed_at (input : LoopInput) (point : LoopPoint) (access : Stage) (g : DriverEcu)
    (cause : CommandCause) :
    handed cause (input.at point access g).2 =
      handed cause (access (serveAll (input.interrupts point) g).1).2 := by
  have quiet := Quiet.serveAll (input.interrupts point) g
  rw [LoopInput.at, handed_andThen, handed_of_silent quiet.silent, Nat.zero_add]

theorem Passes.at {request : DriverRequest} {input : LoopInput} {point : LoopPoint} {access : Stage}
    (passes : ∀ g, Passes request g (access g)) (g : DriverEcu) :
    Passes request g (input.at point access g) :=
  ((Quiet.serveAll _ g).passes request).andThen (passes _)

theorem Serves.at {request : DriverRequest} {input : LoopInput} {point : LoopPoint} {access : Stage}
    (serves : ∀ g, Serves request g (access g)) (g : DriverEcu) :
    Serves request g (input.at point access g) :=
  ((Quiet.serveAll _ g).passes request).andThen_serves (serves _)

theorem handed_singleton (cause : CommandCause) (command : DriverCommand) :
    handed cause [.sent command] = if command.cause = cause then 1 else 0 := by
  by_cases same : command.cause = cause <;> simp [handed, LoopEvent.isFor, same]

/-- One command for the request, and no flag changed. -/
structure Sends (input : LoopInput) (request : DriverRequest) (g : DriverEcu)
    (out : DriverEcu × List LoopEvent) : Prop where
  same : SameFlags g out.1
  sent : ∃ command, out.2 = [.sent command] ∧ command.cause = .request request ∧ command.Fits ∧
    command.status = input.sent command.cause

theorem sendRequest_sends (input : LoopInput) (request : DriverRequest) (g : DriverEcu) :
    Sends input request g (sendRequest input request g) := by
  cases request with
  | doorOpen =>
      refine ⟨offStopButton_same g, ?_⟩
      simp only [sendRequest]
      split
      · exact ⟨_, rfl, rfl, ⟨rfl, rfl, rfl, rfl, .inr ⟨rfl, rfl⟩⟩, rfl⟩
      · exact ⟨_, rfl, rfl, ⟨rfl, rfl, rfl, rfl, .inl ⟨rfl, rfl⟩⟩, rfl⟩
  | doorClose => exact ⟨.refl g, _, rfl, rfl, ⟨rfl, rfl, rfl, rfl, rfl, rfl⟩, rfl⟩
  | slopeOpen => exact ⟨.refl g, _, rfl, rfl, ⟨rfl, rfl, rfl, rfl, rfl, rfl⟩, rfl⟩
  | slopeClose => exact ⟨.refl g, _, rfl, rfl, ⟨rfl, rfl, rfl, rfl, rfl, rfl⟩, rfl⟩

section Blocks

variable (input : LoopInput) (request : DriverRequest) (g : DriverEcu)

/-- A request is neither served nor lost by the block of another one. -/
theorem requestBlock_passes (other : DriverRequest) (ne : other ≠ request) (g : DriverEcu) :
    Passes other g (requestBlock input request g) := by
  have cleared : ∀ g : DriverEcu, Passes other g (Stage.set (·.setPending request false) g) :=
    fun g => ⟨by simp [Raises, Stage.set, pending_setPending_of_ne g ne], rfl⟩
  have sent : ∀ g, Passes other g (sendRequest input request g) := fun g => by
    obtain ⟨same, command, events, cause, -, -⟩ := sendRequest_sends input request g
    have differs : command.cause ≠ .request other := by
      rw [cause]
      simpa using ne.symm
    exact ⟨by simp [Raises, events, same.pending], by rw [events, handed_singleton, if_neg differs]⟩
  refine .at (fun g => ?_) g
  split
  · exact (Quiet.refl g).passes other
  · exact (Passes.at cleared g).andThen (.at sent _)

/-- Once its flag is cleared, a request is pending again only if it is raised again. -/
theorem sendRequest_raises (input : LoopInput) (request : DriverRequest) (g : DriverEcu) :
    Raises request g (input.at (.sendRequest request) (sendRequest input request) g) := by
  refine ((Quiet.serveAll _ g).raises request).andThen ?_
  obtain ⟨same, command, events, -⟩ := sendRequest_sends input request
    (serveAll (input.interrupts (.sendRequest request)) g).1
  simp [Raises, events, same.pending]

theorem requestBlock_serves : Serves request g (requestBlock input request g) := by
  refine .at (fun g => ?_) g
  cases pending : g.pending request with
  | false =>
      simp only [Bool.not_false, if_true]
      exact ⟨by simp [pending], by simp, by simp, by simp [pending], by simp [pending]⟩
  | true =>
      simp only [Bool.not_true, Bool.false_eq_true, if_false]
      have count : handed (.request request)
          (Stage.andThen
            (input.at (.clearRequest request) (.set fun g => g.setPending request false))
            (input.at (.sendRequest request) (sendRequest input request)) g).2 = 1 := by
        rw [handed_andThen, handed_at, handed_at]
        obtain ⟨-, command, events, cause, -, -⟩ := sendRequest_sends input request _
        rw [events, handed_singleton, if_pos cause]
        rfl
      -- only what is raised once the flag is cleared can be left
      have left := (sendRequest_raises input request
        (input.at (.clearRequest request) (.set fun g => g.setPending request false) g).1).bound
      have cleared : (input.at (.clearRequest request) (.set fun g => g.setPending request false)
          g).1.pending request = false := pending_setPending_self _ request false
      rw [cleared, Bool.toNat_false, Nat.zero_add] at left
      refine ⟨fun _ => count, Nat.le_of_eq count, fun _ => .inl pending,
        fun _ => .inl (by rw [count]; decide), ?_⟩
      rw [count, pending, raises_andThen]
      exact Nat.add_le_add_left (Nat.le_trans left (Nat.le_add_left _ _)) 1

end Blocks

/-! ### The fire alarm -/

/-- A stage that does not look at the fire detector. -/
structure Calm (input : LoopInput) (g : DriverEcu) (out : DriverEcu × List LoopEvent) : Prop where
  alarm : out.1.fireAlarmActive = g.fireAlarmActive
  silent : handed .fire out.2 = 0
  fitting : Fitting input.sent out.2

theorem Quiet.calm {input : LoopInput} {g : DriverEcu} {out : DriverEcu × List LoopEvent}
    (quiet : Quiet g out) : Calm input g out :=
  ⟨quiet.alarm, handed_of_silent quiet.silent _, fun command mem => absurd mem (quiet.silent command)⟩

theorem Calm.andThen {input : LoopInput} {first second : Stage} {g : DriverEcu}
    (here : Calm input g (first g)) (later : Calm input (first g).1 (second (first g).1)) :
    Calm input g (first.andThen second g) where
  alarm := later.alarm.trans here.alarm
  silent := by rw [handed_andThen, here.silent, later.silent]
  fitting := here.fitting.append later.fitting

theorem Calm.at {input : LoopInput} {point : LoopPoint} {access : Stage}
    (calm : ∀ g, Calm input g (access g)) (g : DriverEcu) : Calm input g (input.at point access g) :=
  (Quiet.serveAll _ g).calm.andThen (calm _)

theorem Fitting.singleton {sent : CommandCause → CANStatus} {command : DriverCommand}
    (fits : command.Fits) (status : command.status = sent command.cause) :
    Fitting sent [.sent command] := by
  intro other mem
  cases List.mem_singleton.mp mem
  exact ⟨fits, status⟩

section Alarm

variable (input : LoopInput) (request : DriverRequest) (g : DriverEcu)

theorem requestBlock_calm : Calm input g (requestBlock input request g) := by
  have cleared : ∀ g : DriverEcu, Calm input g (Stage.set (·.setPending request false) g) :=
    fun g => ⟨fireAlarmActive_setPending g request false, rfl, fun command mem => nomatch mem⟩
  have sent : ∀ g, Calm input g (sendRequest input request g) := fun g => by
    obtain ⟨same, command, events, cause, fits, status⟩ := sendRequest_sends input request g
    refine ⟨same.alarm, ?_, ?_⟩
    · rw [events, handed_singleton, cause]
      rfl
    · rw [events]
      exact .singleton fits status
  refine .at (fun g => ?_) g
  split
  · exact (Quiet.refl g).calm
  · exact (Calm.at cleared g).andThen (.at sent _)

theorem fireBlock_passes : Passes request g (fireBlock input g) := by
  unfold fireBlock
  split
  · split
    · exact ⟨by cases request <;> simp [Raises, DriverEcu.pending, sendCommand], rfl⟩
    · exact (Quiet.find .fire g).passes request
  · exact ⟨by cases request <;> simp [Raises, DriverEcu.pending], rfl⟩

theorem fireBlock_alarm : (fireBlock input g).1.fireAlarmActive = input.fire := by
  unfold fireBlock
  split
  · rename_i fire
    split
    · exact fire.symm
    · rename_i active
      simpa [fire] using active
  · rename_i fire
    simpa using fire

theorem fireBlock_handed : handed .fire (fireBlock input g).2 =
    if input.fire && !g.fireAlarmActive then 1 else 0 := by
  unfold fireBlock
  cases input.fire <;> cases g.fireAlarmActive <;> rfl

theorem fireBlock_fitting : Fitting input.sent (fireBlock input g).2 := by
  unfold fireBlock
  split
  · split
    · have fitting : Fitting input.sent (sendCommand input .fire doorCmdOpen rampCmdNop true) :=
        .singleton ⟨rfl, rfl, rfl, rfl, rfl, rfl⟩ rfl
      exact (Quiet.find .fire g).calm.fitting.append fitting
    · exact (Quiet.find .fire g).calm.fitting
  · exact fun command mem => nomatch mem

end Alarm

/-! ### The status of a command -/

/-- Two stages that differ in no more than the statuses of their commands. -/
def Blind (first second : Stage) : Prop :=
  ∀ g, (second g).1 = (first g).1 ∧
    (second g).2.map LoopEvent.commanded = (first g).2.map LoopEvent.commanded

theorem Blind.refl (stage : Stage) : Blind stage stage := fun _ => ⟨rfl, rfl⟩

theorem Blind.andThen {first first' second second' : Stage} (front : Blind first first')
    (back : Blind second second') : Blind (first.andThen second) (first'.andThen second') := by
  intro g
  obtain ⟨reached, events⟩ := front g
  obtain ⟨reached', events'⟩ := back (first g).1
  constructor
  · show (second' (first' g).1).1 = (second (first g).1).1
    rw [reached, reached']
  · show ((first' g).2 ++ (second' (first' g).1).2).map _ = ((first g).2 ++ (second _).2).map _
    rw [List.map_append, List.map_append, events, reached, events']

/-- The same iteration with other answers of the CAN driver. -/
def LoopInput.answered (input : LoopInput) (sent : CommandCause → CANStatus) : LoopInput :=
  { input with sent := sent }

section Answers

variable (input : LoopInput) (sent : CommandCause → CANStatus)

theorem Blind.at (point : LoopPoint) {first second : Stage} (blind : Blind first second) :
    Blind (input.at point first) ((input.answered sent).at point second) :=
  (Blind.refl _).andThen blind

theorem sendRequest_blind (request : DriverRequest) :
    Blind (sendRequest input request) (sendRequest (input.answered sent) request) := by
  intro g
  cases request with
  | doorOpen =>
      refine ⟨rfl, ?_⟩
      simp only [sendRequest]
      cases g.disabledStopBtnState <;> rfl
  | doorClose => exact ⟨rfl, rfl⟩
  | slopeOpen => exact ⟨rfl, rfl⟩
  | slopeClose => exact ⟨rfl, rfl⟩

theorem requestBlock_blind (request : DriverRequest) :
    Blind (requestBlock input request) (requestBlock (input.answered sent) request) := by
  have served := ((Blind.refl (.set fun g => g.setPending request false)).at input sent
    (.clearRequest request)).andThen
      ((sendRequest_blind input sent request).at input sent (.sendRequest request))
  refine .at input sent _ fun g => ?_
  cases pending : g.pending request with
  | false => simp only [Bool.not_false, if_true, and_self]
  | true =>
      simp only [Bool.not_true, Bool.false_eq_true, if_false]
      exact served g

theorem sendSection_blind : Blind (sendSection input) (sendSection (input.answered sent)) :=
  (requestBlock_blind input sent .doorOpen).andThen <|
    (requestBlock_blind input sent .doorClose).andThen <|
      (requestBlock_blind input sent .slopeOpen).andThen (requestBlock_blind input sent .slopeClose)

theorem fireBlock_blind : Blind (fireBlock input) (fireBlock (input.answered sent)) := by
  intro g
  have fire : (input.answered sent).fire = input.fire := rfl
  unfold fireBlock
  rw [fire]
  cases input.fire with
  | false => exact ⟨rfl, rfl⟩
  | true => cases g.fireAlarmActive <;> exact ⟨rfl, rfl⟩

/-- The CAN driver's answers change neither the state nor the commands. -/
theorem core0MainLoop_blind : Blind (core0MainLoop input) (core0MainLoop (input.answered sent)) := by
  refine (Blind.refl (.set (resetAndMonitor input))).andThen ?_
  refine (Blind.refl (receiveStatus input)).andThen ?_
  refine (sendSection_blind input sent).andThen ?_
  refine (Blind.refl (stopBlock input)).andThen ?_
  refine (Blind.refl (disabledStopBlock input)).andThen ?_
  refine (Blind.refl (.set (buzzerBlock input))).andThen ?_
  exact (fireBlock_blind input sent).andThen (Blind.refl (bleBlock input))

end Answers

/-! ### One iteration -/

/-- What an iteration does with the requests. -/
structure RequestsHanded (g : DriverEcu) (input : LoopInput) : Prop where
  serves : ∀ request, Serves request g (driverEcuIterate g input)
  cleared : ∀ request, g.pending request = true → .raised request ∉ (driverEcuIterate g input).2 →
    (driverEcuIterate g input).1.pending request = false
  alarm : (driverEcuIterate g input).1.fireAlarmActive = input.fire
  fire : handed .fire (driverEcuIterate g input).2 =
    if input.fire && !g.fireAlarmActive then 1 else 0
  fitting : Fitting input.sent (driverEcuIterate g input).2
  blind : ∀ sent, (driverEcuIterate g (input.answered sent)).1 = (driverEcuIterate g input).1 ∧
    (driverEcuIterate g (input.answered sent)).2.map LoopEvent.commanded =
      (driverEcuIterate g input).2.map LoopEvent.commanded

section Iteration

variable (input : LoopInput) (g : DriverEcu)

/-- Each request is served by its own block of the section. -/
theorem sendSection_serves (request : DriverRequest) :
    Serves request g (sendSection input g) := by
  have passes := requestBlock_passes input
  cases request with
  | doorOpen =>
      refine (requestBlock_serves input .doorOpen g).andThen_passes ?_
      refine (passes .doorClose .doorOpen nofun _).andThen ?_
      exact (passes .slopeOpen .doorOpen nofun _).andThen (passes .slopeClose .doorOpen nofun _)
  | doorClose =>
      refine (passes .doorOpen .doorClose nofun g).andThen_serves ?_
      refine (requestBlock_serves input .doorClose _).andThen_passes ?_
      exact (passes .slopeOpen .doorClose nofun _).andThen (passes .slopeClose .doorClose nofun _)
  | slopeOpen =>
      refine (passes .doorOpen .slopeOpen nofun g).andThen_serves ?_
      refine (passes .doorClose .slopeOpen nofun _).andThen_serves ?_
      exact (requestBlock_serves input .slopeOpen _).andThen_passes
        (passes .slopeClose .slopeOpen nofun _)
  | slopeClose =>
      refine (passes .doorOpen .slopeClose nofun g).andThen_serves ?_
      refine (passes .doorClose .slopeClose nofun _).andThen_serves ?_
      exact (passes .slopeOpen .slopeClose nofun _).andThen_serves
        (requestBlock_serves input .slopeClose _)

theorem sendSection_calm : Calm input g (sendSection input g) :=
  (requestBlock_calm input _ g).andThen <|
    (requestBlock_calm input _ _).andThen <|
      (requestBlock_calm input _ _).andThen (requestBlock_calm input _ _)

/-- An iteration from its send section on. -/
def afterReception : Stage :=
  Stage.andThen (sendSection input) <|
  Stage.andThen (stopBlock input) <|
  Stage.andThen (disabledStopBlock input) <|
  Stage.andThen (.set (buzzerBlock input)) <|
  Stage.andThen (fireBlock input) <|
  bleBlock input

theorem afterReception_serves (request : DriverRequest) :
    Serves request g (afterReception input g) := by
  refine (sendSection_serves input g request).andThen_passes ?_
  refine ((stopBlock_quiet input _).passes request).andThen ?_
  refine ((disabledStopBlock_quiet input _).passes request).andThen ?_
  refine ((SameFlags.stage (buzzerBlock_same input) _).passes request).andThen ?_
  exact (fireBlock_passes input request _).andThen ((bleBlock_quiet input _).passes request)

theorem driverEcuIterate_serves (request : DriverRequest) :
    Serves request g (driverEcuIterate g input) := by
  show Serves request g (core0MainLoop input g)
  refine ((SameFlags.stage (resetAndMonitor_same input) g).passes request).andThen_serves ?_
  exact ((receiveStatus_quiet input _).passes request).andThen_serves
    (afterReception_serves input _ request)

/-- An iteration up to the fire section. -/
def beforeFire : Stage :=
  Stage.andThen (.set (resetAndMonitor input)) <|
  Stage.andThen (receiveStatus input) <|
  Stage.andThen (sendSection input) <|
  Stage.andThen (stopBlock input) <|
  Stage.andThen (disabledStopBlock input) <|
  .set (buzzerBlock input)

theorem beforeFire_calm : Calm input g (beforeFire input g) := by
  refine (SameFlags.stage (resetAndMonitor_same input) g).calm.andThen ?_
  refine (receiveStatus_quiet input _).calm.andThen ?_
  refine (sendSection_calm input _).andThen ?_
  refine (stopBlock_quiet input _).calm.andThen ?_
  exact (disabledStopBlock_quiet input _).calm.andThen
    (SameFlags.stage (buzzerBlock_same input) _).calm

theorem andThen_assoc (a b c : Stage) : (a.andThen b).andThen c = a.andThen (b.andThen c) := by
  funext g
  exact Prod.ext rfl (List.append_assoc _ _ _)

theorem driverEcuIterate_split :
    driverEcuIterate g input =
      (beforeFire input).andThen ((fireBlock input).andThen (bleBlock input)) g := by
  simp only [beforeFire, andThen_assoc]
  rfl

/-- Every request is handed over, whatever the CAN driver answers. -/
theorem requestsHanded : RequestsHanded g input := by
  have calm := beforeFire_calm input g
  have split := driverEcuIterate_split input g
  have ble := bleBlock_quiet input (fireBlock input (beforeFire input g).1).1
  refine ⟨driverEcuIterate_serves input g, ?_, ?_, ?_, ?_,
    fun sent => core0MainLoop_blind input sent g⟩
  · exact fun request => (driverEcuIterate_serves input g request).cleared
  · rw [split]
    exact ble.alarm.trans (fireBlock_alarm input _)
  · rw [split, handed_andThen, handed_andThen, calm.silent, fireBlock_handed, calm.alarm,
      handed_of_silent ble.silent]
    exact Nat.zero_add _
  · rw [split]
    exact calm.fitting.append ((fireBlock_fitting input _).append ble.calm.fitting)

end Iteration

/-! ### Runs -/

/-- The door button is pressed once, and the CAN driver is busy. -/
def busyPress : LoopInput where
  interrupts point := if point = .readRequest .doorOpen then [.doorControlBtn] else []
  stopBtnOff := false
  stmFreqHz := 100000000
  pollTicks := 0
  received := (.enodata, commandFrame 0)
  sent _ := .ebusy
  stopTicks := 0
  disabledTicks := 0
  buzzerTicks := 0
  fire := false
  bleRx := []

/-- In every iteration of every run, each request is handed to the CAN driver once or is
still pending, whatever the CAN driver answers. -/
theorem requests_handed (inputs : List LoopInput) :
    ∀ p ∈ Runs.steps (Runs.next driverEcuIterate) driverEcuBoot inputs, RequestsHanded p.1 p.2 :=
  fun p _ => requestsHanded p.2 p.1

/-- With the driver busy, the pressed door button's command is handed over all the same. -/
theorem requests_handed_busy : RequestsHanded driverEcuBoot busyPress :=
  requests_handed [busyPress] (driverEcuBoot, busyPress) (.head _)

/-! ### Refused commands -/

/-- What an iteration would do if a request were kept until its command is accepted. -/
def RequestsAccepted (g : DriverEcu) (input : LoopInput) : Prop :=
  (∀ request, g.pending request = true ∨ .raised request ∈ (driverEcuIterate g input).2 →
    accepted (.request request) (driverEcuIterate g input).2 = true ∨
      (driverEcuIterate g input).1.pending request = true) ∧
  (input.fire = true ∧ g.fireAlarmActive = false →
    accepted .fire (driverEcuIterate g input).2 = true ∨
      (driverEcuIterate g input).1.fireAlarmActive = false)

/-- A request whose command is refused is not kept. -/
theorem busy_request_dropped :
    ¬∀ inputs : List LoopInput,
      ∀ p ∈ Runs.steps (Runs.next driverEcuIterate) driverEcuBoot inputs,
        RequestsAccepted p.1 p.2 := by
  intro kept
  have first := (kept [busyPress] _ (.head _)).1 .doorOpen (.inr (by decide +kernel))
  exact absurd first (by decide +kernel)

end SmartBusAccess.Driver
