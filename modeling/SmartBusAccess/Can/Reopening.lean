import SmartBusAccess.Semantics.Runs
import SmartBusAccess.Can.Executor

/-!
Pending operations on a core that is stopped, closed or opened anew.

`CANOperationSubmit` looks for a tick source once; every step of an operation with a
finite timeout may call it. Closing the core takes the tick source away, and so does
opening it again without one. Then the next step calls through a null pointer, unless the
deadline has been started and the attempt settles the operation (`no_null_call_iff`).
-/

namespace SmartBusAccess.Can

variable {W Ch Port : Type}

/-! ### One step of a pending operation -/

/-- A submitted operation that nothing but running has touched. -/
structure CANOperation.Underway (operation : CANOperation) : Prop where
  pending : operation.state = .pending
  valid : operation.argumentsValid
  bound : operation.core.isSome

def CANCores.running (s : CANCores W Ch Port) (core : Option Nat) :
    Option (CANCoreLink W Ch Port) :=
  core.bind fun address => (s.core address).running

/-- The next attempt does not settle the operation: the driver is busy, has no frame or
no event of interest. A send is also tried again while the core is not started. -/
def CANOperation.Retries (s : CANCores W Ch Port) (operation : CANOperation) : Prop :=
  match operation.type with
  | .send =>
      ∀ link ∈ s.running operation.core, ∀ frame ∈ operation.txFrame,
        (link.ops.opSend s.world link.driverChannel frame).2 = .ebusy
  | .receive =>
      ∃ link ∈ s.running operation.core, ∃ frame ∈ operation.rxFrame,
        (link.ops.opReceive s.world link.driverChannel frame).2.1 = .enodata
  | .poll =>
      ∃ link ∈ s.running operation.core,
        ∃ query ∈ link.optionalOps.bind CANCoreOptionalDriverOps.queryEvents,
          let (_, status, eventMask) := query s.world link.driverChannel 0
          status = .enodata ∨ status = .ok ∧ eventMask &&& operation.interestMask = 0
  | .none => False

/-- The operation needs a tick source in its next step, and there is none. -/
def CANOperation.Orphaned (s : CANCores W Ch Port) (operation : CANOperation) : Prop :=
  canOperationFiniteTimeoutEnabled operation ∧ s.tick operation.core = none ∧
    (operation.deadlineStarted = false ∨ operation.Retries s)

theorem CANCores.trySend_ebusy_iff {s : CANCores W Ch Port} {core : Option Nat}
    {frame : CANFrame} (there : core.isSome) :
    (s.trySend core (some frame)).2 = .ebusy ↔
      ∀ link ∈ s.running core, (link.ops.opSend s.world link.driverChannel frame).2 = .ebusy := by
  obtain ⟨address, rfl⟩ := Option.isSome_iff_exists.mp there
  cases running : (s.core address).running <;>
    simp [CANCores.trySend_some, canCoreSend, CANCores.running, running, CANCore.answer]

theorem CANCores.tryReceive_enodata_iff {s : CANCores W Ch Port} {core : Option Nat}
    {frame : CANFrame} :
    (s.tryReceive core (some frame)).2.1 = .enodata ↔
      ∃ link ∈ s.running core,
        (link.ops.opReceive s.world link.driverChannel frame).2.1 = .enodata := by
  cases core with
  | none => simp [CANCores.tryReceive, CANCores.running]
  | some address =>
      cases running : (s.core address).running <;>
        simp [CANCores.tryReceive_some, canCoreReceive, CANCores.running, running, CANCore.answer]

theorem CANCore.running_eq_some {core : CANCore W Ch Port} {link : CANCoreLink W Ch Port}
    (running : core.running = some link) : core.link = some link ∧ link.started := by
  obtain ⟨bound, started⟩ := Option.filter_eq_some_iff.mp running
  exact ⟨bound, started⟩

theorem CANCore.state_of_running_none {core : CANCore W Ch Port} (stopped : core.running = none) :
    core.state ≠ .started := by
  intro started
  obtain ⟨link, bound, on⟩ := CANCore.link_of_started started
  simp [CANCore.running_of_link bound on] at stopped

theorem CANCores.pollNow_enodata_iff {s : CANCores W Ch Port} {core : Option Nat}
    {interestMask : UInt32} (valid : interestValid interestMask) :
    (s.pollNow core interestMask).2.1 = .enodata ↔
      ∃ link ∈ s.running core,
        ∃ query ∈ link.optionalOps.bind CANCoreOptionalDriverOps.queryEvents,
          (query s.world link.driverChannel 0).2.1 = .enodata ∨
            (query s.world link.driverChannel 0).2.1 = .ok ∧
              (query s.world link.driverChannel 0).2.2 &&& interestMask = 0 := by
  cases core with
  | none => simp [CANCores.pollNow, CANCores.running]
  | some address =>
      cases running : (s.core address).running with
      | none =>
          have stopped := CANCore.state_of_running_none running
          simp [CANCores.pollNow, canCorePoll, valid, stopped, CANCore.answer, CANCores.running,
            running]
      | some link =>
          obtain ⟨bound, started⟩ := CANCore.running_eq_some running
          obtain ⟨core', w', mask, polled⟩ :=
            canCorePoll_status (CANCore.state_of_link bound started) s.world valid 0
          simp only [CANCores.pollNow, polled, CANCores.running, Option.bind_some, running,
            Option.mem_some_iff, exists_eq_left', CANCore.pollStatus]
          cases given : link.optionalOps.bind CANCoreOptionalDriverOps.queryEvents with
          | none => simp [canCoreQueryEvents_missing bound given]
          | some query =>
              have asked := canCoreQueryEvents_bound bound given s.world 0
              simp only [asked, Option.mem_some_iff, exists_eq_left']
              generalize query s.world link.driverChannel 0 = answer
              obtain ⟨w, status, queriedMask⟩ := answer
              by_cases ok : status = .ok
              · by_cases idle : queriedMask &&& interestMask = 0 <;> simp [ok, idle]
              · simp [ok]

theorem canOperationSettle_none_iff {retry status : CANStatus} {s : CANCores W Ch Port}
    {operation : CANOperation} (finite : canOperationFiniteTimeoutEnabled operation)
    (started : operation.deadlineStarted) (lost : s.tick operation.core = none) :
    canOperationSettle retry s operation status = none ↔ status = retry := by
  have waits : operation.timeoutMs ≠ 0 := by
    rintro immediate
    simp [canOperationFiniteTimeoutEnabled, immediate] at finite
  have stuck : canOperationDeadlineExpired s operation = none := by
    simp [canOperationDeadlineExpired, started, finite, canOperationNowMs, lost]
  by_cases again : status = retry
  · simp [canOperationSettle, again, waits, stuck]
  · simp [canOperationSettle, again]

/-- The attempt of an operation whose deadline has started, on a core without a tick source. -/
theorem canOperationAttempt_none_iff {s : CANCores W Ch Port} {operation : CANOperation}
    (valid : operation.argumentsValid) (there : operation.core.isSome)
    (finite : canOperationFiniteTimeoutEnabled operation) (started : operation.deadlineStarted)
    (lost : s.tick operation.core = none) :
    canOperationAttempt s operation = none ↔ operation.Retries s := by
  cases type : operation.type with
  | none => simp [CANOperation.argumentsValid, type] at valid
  | send =>
      have same := s.trySend_sameLinks operation.core operation.txFrame
      simp only [CANOperation.argumentsValid, type] at valid
      obtain ⟨frame, given⟩ := Option.isSome_iff_exists.mp valid
      rw [canOperationAttempt_send type]
      refine (canOperationSettle_none_iff finite started ((same.tick _).trans lost)).trans ?_
      rw [given, CANCores.trySend_ebusy_iff there]
      simp [CANOperation.Retries, type, given]
  | receive =>
      have same := s.tryReceive_sameLinks operation.core operation.rxFrame
      simp only [CANOperation.argumentsValid, type] at valid
      obtain ⟨frame, given⟩ := Option.isSome_iff_exists.mp valid
      rw [canOperationAttempt_receive type]
      refine (canOperationSettle_none_iff ?_ ?_ ?_).trans ?_
      · exact finite
      · exact started
      · exact (same.tick operation.core).trans lost
      rw [given, CANCores.tryReceive_enodata_iff]
      simp [CANOperation.Retries, type, given]
  | poll =>
      have same := s.pollNow_sameLinks operation.core operation.interestMask
      simp only [CANOperation.argumentsValid, type, Bool.and_eq_true] at valid
      obtain ⟨mask, given⟩ := Option.isSome_iff_exists.mp valid.1
      rw [canOperationAttempt_poll type given]
      refine (canOperationSettle_none_iff ?_ ?_ ?_).trans ?_
      · exact finite
      · exact started
      · exact (same.tick operation.core).trans lost
      rw [CANCores.pollNow_enodata_iff valid.2]
      simp only [CANOperation.Retries, type]

/-- A step of a pending operation calls through a null pointer exactly when it is orphaned. -/
theorem canOperationRunOnce_none_iff {s : CANCores W Ch Port} {operation : CANOperation}
    (underway : operation.Underway) :
    canOperationRunOnce s operation = none ↔ operation.Orphaned s := by
  by_cases lost : canOperationFiniteTimeoutEnabled operation ∧ s.tick operation.core = none
  · obtain ⟨finite, lost⟩ := lost
    rw [canOperationRunOnce_pending underway.pending]
    cases started : operation.deadlineStarted with
    | false =>
        simp [canOperationStartDeadline, started, finite, canOperationNowMs, lost,
          CANOperation.Orphaned]
    | true =>
        have start : canOperationStartDeadline s operation = some (s, operation) := by
          simp [canOperationStartDeadline, started]
        rw [start, Option.bind_some, canOperationAttempt_none_iff underway.valid underway.bound
          finite started lost]
        simp [CANOperation.Orphaned, finite, lost, started]
  · have live : operation.Live s := by
      refine ⟨underway.pending, underway.valid, fun finite => ?_⟩
      simpa [canOperationHasRuntime, Option.isSome_iff_ne_none] using fun gone =>
        lost ⟨finite, gone⟩
    obtain ⟨r, run, -⟩ := canOperationRunOnce_live live
    simp only [run, reduceCtorEq, false_iff]
    exact fun orphaned => lost ⟨orphaned.1, orphaned.2.1⟩

theorem CANOperation.Submittable.underway {s : CANCores W Ch Port} {operation : CANOperation}
    (submittable : operation.Submittable s) : operation.submitted.Underway where
  pending := rfl
  valid := submittable.live.valid
  bound := by
    have started := submittable.started
    cases core : operation.core with
    | none => simp [CANCores.isStarted, core] at started
    | some address => simp [CANOperation.submitted, core]

/-- A step that ends leaves its operation completed or underway. -/
inductive CANOperation.Ended : CANOperation × CANOperationRunResult → Prop where
  | completed {operation : CANOperation} : Ended (operation, .completed)
  | pending {operation : CANOperation} (underway : operation.Underway) :
      Ended (operation, .pending)

theorem canOperationSettle_ended {retry status : CANStatus} {s : CANCores W Ch Port}
    {operation : CANOperation} {r : CANCores W Ch Port × CANOperation × CANOperationRunResult}
    (settle : canOperationSettle retry s operation status = some r) (underway : operation.Underway) :
    CANOperation.Ended r.2 := by
  cases canOperationSettle_settled settle with
  | completed _ status => exact .completed
  | pending _ => exact .pending underway

theorem canOperationRunOnce_ended {s : CANCores W Ch Port} {operation : CANOperation}
    {r : CANCores W Ch Port × CANOperation × CANOperationRunResult}
    (underway : operation.Underway) (run : canOperationRunOnce s operation = some r) :
    CANOperation.Ended r.2 := by
  rw [canOperationRunOnce_pending underway.pending] at run
  obtain ⟨⟨t, started⟩, start, attempt⟩ := Option.bind_eq_some_iff.mp run
  have underway : started.Underway := by
    obtain ⟨startMs, deadlineStarted, rfl⟩ := canOperationStartDeadline_writes start
    exact ⟨underway.pending, underway.valid, underway.bound⟩
  have valid := underway.valid
  dsimp only at attempt
  cases type : started.type with
  | none => simp [CANOperation.argumentsValid, type] at valid
  | send =>
      rw [canOperationAttempt_send type] at attempt
      exact canOperationSettle_ended attempt underway
  | receive =>
      rw [canOperationAttempt_receive type] at attempt
      have buffer := t.tryReceive_isSome started.core started.rxFrame
      refine canOperationSettle_ended attempt ⟨underway.pending, ?_, underway.bound⟩
      simpa only [CANOperation.argumentsValid, type, buffer] using valid
  | poll =>
      simp only [CANOperation.argumentsValid, type, Bool.and_eq_true] at valid
      obtain ⟨mask, there⟩ := Option.isSome_iff_exists.mp valid.1
      rw [canOperationAttempt_poll type there] at attempt
      refine canOperationSettle_ended attempt ⟨underway.pending, ?_, underway.bound⟩
      simp [CANOperation.argumentsValid, type, valid.2]

/-! ### Runs -/

/-- An executor and the memory it points into, the cores included. -/
structure CANOpening (W Ch Port : Type) where
  executor : CANExecutor
  heap : CANHeap W Ch Port

/-- A call on a core or on the executor. In between the callers write to operations that it
does not hold, and the world moves on. -/
inductive CANOpeningCall (W Ch Port : Type) where
  | coreOpen (core : Nat) (binding : CANCoreBinding W Ch Port) (params : CANCoreOpenParams W)
  | coreStart (core : Nat)
  | coreStop (core : Nat)
  | coreClose (core : Nat)
  | executorSubmit (operation : Option Nat)
  | executorRunOnce
  | write (address : Nat) (operation : CANOperation)
  | world (w : W)

/-- A call on one of the cores. -/
def CANCores.call (s : CANCores W Ch Port) (address : Nat)
    (call : CANCore W Ch Port → W → CANCore W Ch Port × W × CANStatus) : CANCores W Ch Port :=
  let (core, w, _) := call (s.core address) s.world
  s.put address core w

namespace CANOpening

def onCore (s : CANOpening W Ch Port) (address : Nat)
    (call : CANCore W Ch Port → W → CANCore W Ch Port × W × CANStatus) : CANOpening W Ch Port :=
  { s with heap := { s.heap with cores := s.heap.cores.call address call } }

/-- A step that would call through a null pointer leaves everything as it is. -/
def next (s : CANOpening W Ch Port) : CANOpeningCall W Ch Port → CANOpening W Ch Port
  | .coreOpen core binding params => s.onCore core fun core w => canCoreOpen core w binding params
  | .coreStart core => s.onCore core canCoreStart
  | .coreStop core => s.onCore core canCoreStop
  | .coreClose core => s.onCore core canCoreClose
  | .executorSubmit operation =>
      let (executor, heap, _) := canExecutorSubmit s.executor s.heap operation
      ⟨executor, heap⟩
  | .executorRunOnce =>
      match canExecutorRunOnce s.executor s.heap with
      | none => s
      | some (executor, heap, _) => ⟨executor, heap⟩
  | .write address operation =>
      if address ∈ s.executor.slots then s
      else { s with heap := s.heap.write address operation }
  | .world w => { s with heap := { s.heap with cores := { s.heap.cores with world := w } } }

def init (heap : CANHeap W Ch Port) (hasSlots : Bool) (capacity : Nat) : CANOpening W Ch Port :=
  ⟨canExecutorInit hasSlots capacity, heap⟩

/-- A step of the executor comes to an end. -/
def Ends (s : CANOpening W Ch Port) : CANOpeningCall W Ch Port → Prop
  | .executorRunOnce => (canExecutorRunOnce s.executor s.heap).isSome
  | _ => True

/-- The operation whose turn it is has the tick source it needs. -/
def Clocked (s : CANOpening W Ch Port) : CANOpeningCall W Ch Port → Prop
  | .executorRunOnce =>
      s.executor.usable → ∀ address ∈ s.executor.slots[s.executor.turn]?,
        ¬ (s.heap.op address).Orphaned s.heap.cores
  | _ => True

/-- What the executor holds, it submitted. -/
structure Holds (s : CANOpening W Ch Port) : Prop where
  distinct : s.executor.slots.Nodup
  underway : ∀ address ∈ s.executor.slots, (s.heap.op address).Underway

variable {s : CANOpening W Ch Port}

theorem Holds.ends_iff (holds : s.Holds) (call : CANOpeningCall W Ch Port) :
    s.Ends call ↔ s.Clocked call := by
  cases call with
  | executorRunOnce =>
      simp only [Ends, Clocked, canExecutorRunOnce]
      cases usable : s.executor.usable with
      | false => simp
      | true =>
          cases turn : s.executor.slots[s.executor.turn]? with
          | none => simp
          | some address =>
              have held := holds.underway address (List.mem_of_getElem? turn)
              have faults := canOperationRunOnce_none_iff (s := s.heap.cores) held
              simp [← faults, Option.isSome_iff_ne_none]
  | _ => exact Iff.rfl

theorem Holds.agree (holds : s.Holds) {heap : CANHeap W Ch Port}
    (same : ∀ address ∈ s.executor.slots, heap.op address = s.heap.op address) :
    Holds { s with heap := heap } where
  distinct := holds.distinct
  underway address held := by
    rw [same address held]
    exact holds.underway address held

theorem Holds.submit (holds : s.Holds) (operation : Option Nat) :
    (s.next (.executorSubmit operation)).Holds := by
  have ended := canExecutorSubmit_submitted s.executor s.heap operation
  simp only [next]
  generalize canExecutorSubmit s.executor s.heap operation = r at ended ⊢
  cases ended with
  | refused _ => exact holds
  | rejected free _ => exact holds.agree (CANHeap.agree_write free s.heap _).op
  | accepted _ _ free submittable =>
      constructor
      · exact List.concat_eq_append ▸ holds.distinct.concat free
      · exact CANHeap.forall_write_append holds.underway submittable.underway

theorem Holds.runOnce (holds : s.Holds) : (s.next .executorRunOnce).Holds := by
  simp only [next]
  cases run : canExecutorRunOnce s.executor s.heap with
  | none => exact holds
  | some r =>
      have stepped := canExecutorRunOnce_stepped run
      cases stepped with
      | unusable _ => exact holds
      | idle _ => exact holds
      | @removed address turn cores operation ended step result kind =>
          constructor
          · exact (canExecutorRemoveAt_sublist _ _).nodup holds.distinct
          · intro other held
            rw [canExecutorRemoveAt_slots turn] at held
            rw [CANHeap.write_other _ (ne_of_mem_eraseIdx holds.distinct turn held)]
            exact holds.underway other (List.mem_of_mem_eraseIdx held)
      | @kept address turn cores operation step =>
          have before := holds.underway address (List.mem_of_getElem? turn)
          refine ⟨holds.distinct, CANHeap.forall_write holds.underway ?_⟩
          cases canOperationRunOnce_ended before step with
          | pending underway => exact underway

theorem Holds.next (holds : s.Holds) (call : CANOpeningCall W Ch Port) :
    (s.next call).Holds := by
  cases call with
  | executorSubmit operation => exact holds.submit operation
  | executorRunOnce => exact holds.runOnce
  | write address operation =>
      simp only [CANOpening.next]
      split
      · exact holds
      · rename_i free
        exact holds.agree (CANHeap.agree_write free s.heap operation).op
  | _ => exact holds.agree fun _ _ => rfl

/-- Through any stopping, closing and opening of the cores, every step of the executor
comes to an end, if and only if none is made while the operation whose turn it is needs a
tick source that its core no longer has. -/
theorem no_null_call_iff (heap : CANHeap W Ch Port) (hasSlots : Bool) (capacity : Nat)
    (calls : List (CANOpeningCall W Ch Port)) :
    (∀ p ∈ Runs.steps CANOpening.next (init heap hasSlots capacity) calls, p.1.Ends p.2) ↔
      ∀ p ∈ Runs.steps CANOpening.next (init heap hasSlots capacity) calls, p.1.Clocked p.2 := by
  have start : (init heap hasSlots capacity).Holds :=
    ⟨List.nodup_nil, fun _ held => absurd held List.not_mem_nil⟩
  exact Runs.forall_steps_iff Holds (fun _ call holds => holds.next call)
    (fun _ call holds => holds.ends_iff call) start calls

instance (s : CANOpening W Ch Port) : Decidable (s.Ends .executorRunOnce) :=
  inferInstanceAs (Decidable (_ = true))

/-- Started cores with a clock, on a bus that is never free. -/
def clockedHeap : CANHeap Unit Unit Unit where
  cores :=
    { world := (), core := fun _ =>
        ⟨some ⟨true, busyOps, none, (), (), ⟨some fun w => (w, 0), none⟩⟩, .zero, .ok⟩ }
  op _ := canOperationInit

/-- A send that may wait for 10 ms is submitted, its core is closed, and the send has its
turn: it asks a clock that is gone. So it does if it was tried once before the close. -/
theorem close_under_pending :
    let submit : List (CANOpeningCall Unit Unit Unit) :=
      [.write 0 (canOperationPrepareSend (some 0) (some idleFrame) 10), .executorSubmit (some 0)]
    let closed := Runs.run CANOpening.next (init clockedHeap true 1) (submit ++ [.coreClose 0])
    let later := Runs.run CANOpening.next (init clockedHeap true 1)
      (submit ++ [.executorRunOnce, .coreClose 0])
    ¬ closed.Ends .executorRunOnce ∧ (closed.heap.op 0).state = .pending ∧
      ¬ later.Ends .executorRunOnce ∧ (later.heap.op 0).deadlineStarted = true := by
  decide +kernel

end CANOpening

end SmartBusAccess.Can
