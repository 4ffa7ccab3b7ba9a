import SmartBusAccess.Can.Operation
import SmartBusAccess.Can.Bench

/-!
An operation run step by step against the blocking call with the same arguments, on
the same bench.

Sends and receives agree for every driver and clock. A poll agrees unless the driver
itself answers a query with `CAN_STATUS_ENODATA`: the blocking loop returns that
status, the operation takes it for "no event yet" and goes on (`resuming_agrees_iff`).
-/

namespace SmartBusAccess.Can

open Looping

variable {Driver Clock Hook Ch Port : Type}

/-! ### The two ways -/

/-- Valid arguments of a send, a receive or a poll. -/
inductive BenchRequest where
  | send (frame : CANFrame)
  | receive (buffer : CANFrame)
  | poll (interestMask : UInt32) (valid : interestValid interestMask) (readyMask : UInt32)

/-- What the caller and the driver see in the end. -/
structure BenchOutcome (Driver : Type) where
  calls : List DriverCall
  driver : Driver
  status : CANStatus
  frame : Option CANFrame
  readyMask : Option UInt32
deriving DecidableEq

/-- `CANCoreSendTimeout`, `CANCoreReceiveTimeout` or `CANCorePoll`. -/
def blocking (fuel : Nat) (core : CANCore (Bench Driver Clock Hook) Ch Port)
    (w : Bench Driver Clock Hook) (timeoutMs : UInt32) :
    BenchRequest → Option (BenchOutcome Driver)
  | .send frame =>
      (canCoreSendTimeout fuel core w (some frame) timeoutMs).map fun (_, w, status) =>
        ⟨w.calls, w.driver, status, none, none⟩
  | .receive buffer =>
      (canCoreReceiveTimeout fuel core w (some buffer) timeoutMs).map fun (_, w, status, frame) =>
        ⟨w.calls, w.driver, status, frame, none⟩
  | .poll interestMask _ readyMask =>
      (canCorePoll fuel core w interestMask timeoutMs (some readyMask)).map
        fun (_, w, status, readyMask) => ⟨w.calls, w.driver, status, none, readyMask⟩

/-- The operation prepared for a request. -/
def BenchRequest.prepared (core : Nat) (timeoutMs : UInt32) : BenchRequest → CANOperation
  | .send frame => canOperationPrepareSend (some core) (some frame) timeoutMs
  | .receive buffer => canOperationPrepareReceive (some core) (some buffer) timeoutMs
  | .poll interestMask _ readyMask =>
      canOperationPreparePoll (some core) interestMask timeoutMs (some readyMask)

abbrev Resumed (Driver Clock Hook Ch Port : Type) :=
  CANCores (Bench Driver Clock Hook) Ch Port × CANOperation

/-- Run once, and again as long as the operation is pending. A fault ends the loop
without a result. -/
def resumeTurn : Resumed Driver Clock Hook Ch Port →
    Turn (Resumed Driver Clock Hook Ch Port) (Option (Resumed Driver Clock Hook Ch Port))
  | (s, operation) =>
      match canOperationRunOnce s operation with
      | none => .done none
      | some (s, operation, .pending) => .again (s, operation)
      | some (s, operation, _) => .done (some (s, operation))

def Resumed.outcome (r : Resumed Driver Clock Hook Ch Port) : BenchOutcome Driver where
  calls := r.1.world.calls
  driver := r.1.world.driver
  status := canOperationGetResult r.2
  frame := r.2.rxFrame
  readyMask := r.2.readyMask

/-- Prepare, submit, and run until the operation is done; a refused submission has no outcome. -/
def resuming (fuel : Nat) (s : CANCores (Bench Driver Clock Hook) Ch Port) (core : Nat)
    (timeoutMs : UInt32) (request : BenchRequest) : Option (BenchOutcome Driver) :=
  let (operation, status) := canOperationSubmit s (request.prepared core timeoutMs)
  if status != .ok then none
  else (loop resumeTurn fuel (s, operation)).bind fun r => r.map Resumed.outcome

variable {fixture : Fixture Driver Clock Hook Ch Port}

/-! ### An operation that waits -/

/-- The core at this address is on the bench. -/
abbrev Fixture.At (fixture : Fixture Driver Clock Hook Ch Port)
    (s : CANCores (Bench Driver Clock Hook) Ch Port) (core : Nat) : Prop :=
  (s.core core).link = some fixture.link

/-- A pending operation beside a blocking call that started at `startMs`: its deadline,
if it has one, started then. -/
structure Paced (fixture : Fixture Driver Clock Hook Ch Port) (core : Nat)
    (timeoutMs startMs : UInt32) (w : Bench Driver Clock Hook)
    (s : CANCores (Bench Driver Clock Hook) Ch Port) (operation : CANOperation) : Prop where
  alike : Bench.Alike timeoutMs w s.world
  bound : fixture.At s core
  pending : operation.state = .pending
  target : operation.core = some core
  timeout : operation.timeoutMs = timeoutMs
  started : timeoutMs ≠ 0 → timeoutMs ≠ canTimeoutInfinite →
    operation.deadlineStarted = true ∧ operation.startMs = startMs

namespace Paced

variable {core : Nat} {timeoutMs startMs : UInt32} {w : Bench Driver Clock Hook}
  {s : CANCores (Bench Driver Clock Hook) Ch Port} {operation : CANOperation}

theorem finite (paced : Paced fixture core timeoutMs startMs w s operation) :
    canOperationFiniteTimeoutEnabled operation = true ↔
      timeoutMs ≠ 0 ∧ timeoutMs ≠ canTimeoutInfinite := by
  simp [canOperationFiniteTimeoutEnabled, paced.timeout]

theorem tick (paced : Paced fixture core timeoutMs startMs w s operation) :
    s.tick operation.core = some fixture.benchTick := by
  simp [CANCores.tick, paced.target, CANCore.tick, paced.bound, Fixture.link]

/-- The deadline has been started, so a step is an attempt. -/
theorem runOnce (paced : Paced fixture core timeoutMs startMs w s operation) :
    canOperationRunOnce s operation = canOperationAttempt s operation := by
  have going : canOperationStartDeadline s operation = some (s, operation) := by
    unfold canOperationStartDeadline
    split
    · rename_i starts
      simp only [Bool.and_eq_true] at starts
      obtain ⟨long, short⟩ := paced.finite.mp starts.1
      have started := (paced.started long short).1
      simp [started] at starts
    · rfl
  rw [canOperationRunOnce_pending paced.pending, going, Option.bind_some]

/-- The same core, after a call that left the two worlds alike. -/
theorem put (paced : Paced fixture core timeoutMs startMs w s operation)
    {core' : CANCore (Bench Driver Clock Hook) Ch Port} {w' v' : Bench Driver Clock Hook}
    (link : core'.link = (s.core core).link) (alike : Bench.Alike timeoutMs w' v') :
    Paced fixture core timeoutMs startMs w' (s.put core core' v') operation :=
  { paced with
    alike := alike
    bound := (CANCores.sameLinks_put link v' core).trans paced.bound }

/-- Only the buffers of an operation may differ. -/
theorem buffers (paced : Paced fixture core timeoutMs startMs w s operation)
    (frame : Option CANFrame) (readyMask : Option UInt32) :
    Paced fixture core timeoutMs startMs w s
      { operation with rxFrame := frame, readyMask := readyMask } :=
  { paced with }

theorem relax (paced : Paced fixture core timeoutMs startMs w s operation)
    {core' : CANCore (Bench Driver Clock Hook) Ch Port} (bound : core'.link = some fixture.link) :
    Paced fixture core timeoutMs startMs (canCoreRelax core' w) s operation :=
  { paced with alike := paced.alike.relax bound }

/-- The deadline is read the same way on both sides. -/
theorem deadline (paced : Paced fixture core timeoutMs startMs w s operation)
    (waits : timeoutMs ≠ 0) :
    ∃ s', canOperationDeadlineExpired s operation =
        some (s', (canCoreDeadline fixture.benchTick timeoutMs startMs w).2) ∧
      Paced fixture core timeoutMs startMs
        (canCoreDeadline fixture.benchTick timeoutMs startMs w).1 s' operation := by
  unfold canCoreDeadline
  by_cases infinite : timeoutMs = canTimeoutInfinite
  · have endless : ¬ canOperationFiniteTimeoutEnabled operation = true :=
      fun finite => (paced.finite.mp finite).2 infinite
    rw [if_pos (by simpa using infinite)]
    refine ⟨s, ?_, paced⟩
    unfold canOperationDeadlineExpired
    split
    · rfl
    · rw [if_pos (by simpa using endless)]
  · rw [if_neg (by simpa using infinite)]
    obtain ⟨started, start⟩ := paced.started waits infinite
    obtain ⟨same, alike⟩ := paced.alike.tick infinite
    refine ⟨{ s with world := (fixture.benchTick s.world).1 }, ?_, { paced with alike := alike }⟩
    unfold canOperationDeadlineExpired
    rw [if_neg (by simp [started]), if_neg (by simp [paced.finite.mpr ⟨waits, infinite⟩])]
    simp only [canOperationNowMs, paced.tick, Option.map_some, same, start, paced.timeout]

end Paced

/-- The outcome of a step-by-step run is this one. -/
def Reaches (outcome : BenchOutcome Driver) (r : Option (Resumed Driver Clock Hook Ch Port)) :
    Prop :=
  ∃ resumed, r = some resumed ∧ resumed.outcome = outcome

theorem Paced.completed {core : Nat} {timeoutMs startMs : UInt32} {w : Bench Driver Clock Hook}
    {s : CANCores (Bench Driver Clock Hook) Ch Port} {operation : CANOperation}
    (paced : Paced fixture core timeoutMs startMs w s operation) {frame : Option CANFrame}
    {readyMask : Option UInt32} (rx : operation.rxFrame = frame)
    (mask : operation.readyMask = readyMask) (status : CANStatus) :
    Reaches ⟨w.calls, w.driver, status, frame, readyMask⟩
      (some (s, canOperationComplete operation status)) := by
  refine ⟨_, rfl, ?_⟩
  simp [Resumed.outcome, canOperationGetResult, canOperationComplete, paced.alike.calls,
    paced.alike.driver, rx, mask]

/-! The two ways a step ends that comes down to settling a status. -/

section Settle

variable {core : Nat} {timeoutMs startMs : UInt32} {w : Bench Driver Clock Hook}
  {s t : CANCores (Bench Driver Clock Hook) Ch Port} {operation operation' : CANOperation}
  {retry status : CANStatus}

theorem resumeTurn_final
    (run : canOperationRunOnce s operation = canOperationSettle retry t operation' status)
    (final : status ≠ retry) :
    resumeTurn (s, operation) = .done (some (t, canOperationComplete operation' status)) := by
  unfold canOperationSettle at run
  rw [if_pos (by simpa using final)] at run
  simp only [resumeTurn, run]

theorem resumeTurn_retry (waits : timeoutMs ≠ 0)
    (run : canOperationRunOnce s operation = canOperationSettle retry t operation' status)
    (paced : Paced fixture core timeoutMs startMs w t operation') (retried : status = retry) :
    ∃ t', Paced fixture core timeoutMs startMs
        (canCoreDeadline fixture.benchTick timeoutMs startMs w).1 t' operation' ∧
      resumeTurn (s, operation) =
        if (canCoreDeadline fixture.benchTick timeoutMs startMs w).2 then
          .done (some (t', canOperationComplete operation' .etimeout))
        else .again (t', operation') := by
  have long : ¬ (operation'.timeoutMs == 0) = true := by
    rw [paced.timeout]
    simpa using waits
  obtain ⟨t', read, after⟩ := paced.deadline waits
  refine ⟨t', after, ?_⟩
  unfold canOperationSettle at run
  rw [if_neg (by simpa using retried), if_neg long, read] at run
  simp only [Option.map_some] at run
  split
  · rename_i expired
    rw [if_pos expired] at run
    simp only [resumeTurn, run]
  · rename_i left
    rw [if_neg left] at run
    simp only [resumeTurn, run]

/-- Such a step walks beside a blocking turn that does the same with the status. -/
theorem beside_settle {σ α : Type} {body : σ → Turn σ α} {b b' : σ} {a late : α}
    {R : σ → Resumed Driver Clock Hook Ch Port → Prop}
    {Match : α → Option (Resumed Driver Clock Hook Ch Port) → Prop} {Bad : α → Prop}
    (waits : timeoutMs ≠ 0)
    (run : canOperationRunOnce s operation = canOperationSettle retry t operation' status)
    (paced : Paced fixture core timeoutMs startMs w t operation')
    (turn : body b =
      if status != retry then .done a
      else if (canCoreDeadline fixture.benchTick timeoutMs startMs w).2 then .done late
      else .again b')
    (final : status ≠ retry →
      ¬ Bad a ∧ Match a (some (t, canOperationComplete operation' status)))
    (expired : ∀ t', status = retry →
      Paced fixture core timeoutMs startMs
        (canCoreDeadline fixture.benchTick timeoutMs startMs w).1 t' operation' →
      ¬ Bad late ∧ Match late (some (t', canOperationComplete operation' .etimeout)))
    (again : ∀ t', status = retry →
      Paced fixture core timeoutMs startMs
        (canCoreDeadline fixture.benchTick timeoutMs startMs w).1 t' operation' →
      R b' (t', operation')) :
    Beside body resumeTurn R Match Bad b (s, operation) := by
  by_cases retried : status = retry
  · rw [if_neg (by simpa using retried)] at turn
    obtain ⟨t', after, turn'⟩ := resumeTurn_retry waits run paced retried
    split at turn
    · rename_i elapsed
      rw [if_pos elapsed] at turn'
      obtain ⟨good, agrees⟩ := expired t' retried after
      exact .done turn turn' good agrees
    · rename_i left
      rw [if_neg left] at turn'
      exact .again turn turn' (again t' retried after)
  · rw [if_pos (by simpa using retried)] at turn
    obtain ⟨good, agrees⟩ := final retried
    exact .done turn (resumeTurn_final run retried) good agrees

end Settle

/-! ### Sends -/

section Send

variable {core : Nat} {timeoutMs startMs : UInt32} {frame : CANFrame}

/-- A send beside the loop of `CANCoreSendTimeout`. -/
structure SendBeside (fixture : Fixture Driver Clock Hook Ch Port) (core : Nat)
    (timeoutMs startMs : UInt32) (frame : CANFrame)
    (b : CANCore (Bench Driver Clock Hook) Ch Port × Bench Driver Clock Hook)
    (r : Resumed Driver Clock Hook Ch Port) : Prop where
  bound : b.1.link = some fixture.link
  paced : Paced fixture core timeoutMs startMs b.2 r.1 r.2
  type : r.2.type = .send
  buffers : r.2.txFrame = some frame ∧ r.2.rxFrame = none ∧ r.2.readyMask = none

theorem Paced.trySend {w : Bench Driver Clock Hook}
    {s : CANCores (Bench Driver Clock Hook) Ch Port} {operation : CANOperation}
    (paced : Paced fixture core timeoutMs startMs w s operation)
    (tx : operation.txFrame = some frame) :
    (s.trySend operation.core operation.txFrame).2 =
        (fixture.benchOps.opSend w fixture.driverChannel frame).2 ∧
      Paced fixture core timeoutMs startMs
        (fixture.benchOps.opSend w fixture.driverChannel frame).1
        (s.trySend operation.core operation.txFrame).1 operation := by
  have sent := canCoreSend_started paced.bound rfl s.world frame
  obtain ⟨same, alike⟩ := Bench.Alike.send paced.alike fixture.driverChannel frame
  rw [paced.target, tx, CANCores.trySend_some]
  refine ⟨(congrArg Prod.snd sent).trans same, paced.put (canCoreSend_link _ _ _) ?_⟩
  rw [congrArg Prod.fst sent]
  exact alike

theorem sendBeside_turn (waits : timeoutMs ≠ 0)
    (b : CANCore (Bench Driver Clock Hook) Ch Port × Bench Driver Clock Hook)
    (r : Resumed Driver Clock Hook Ch Port)
    (beside : SendBeside fixture core timeoutMs startMs frame b r) :
    Beside (canCoreSendTurn fixture.benchTick (some frame) timeoutMs startMs) resumeTurn
      (SendBeside fixture core timeoutMs startMs frame)
      (fun a => Reaches ⟨a.2.1.calls, a.2.1.driver, a.2.2, none, none⟩) (fun _ => False) b r := by
  obtain ⟨bc, w⟩ := b
  obtain ⟨s, operation⟩ := r
  obtain ⟨bound, paced, type, tx, rx, mask⟩ := beside
  have link := (canCoreSend_link bc w (some frame)).trans bound
  obtain ⟨status, after⟩ := paced.trySend tx
  have run := paced.runOnce.trans (canOperationAttempt_send type s)
  rw [status] at run
  refine beside_settle waits run after
    (canCoreSendTurn_started bound rfl fixture.benchTick frame timeoutMs startMs w) ?_ ?_ ?_
  · intro _
    exact ⟨id, after.completed rx mask _⟩
  · intro t' _ paced'
    exact ⟨id, paced'.completed rx mask .etimeout⟩
  · intro t' _ paced'
    exact ⟨link, paced'.relax link, type, tx, rx, mask⟩

end Send

/-! ### Receives -/

section Receive

variable {core : Nat} {timeoutMs startMs : UInt32}

/-- A receive beside the loop of `CANCoreReceiveTimeout`. -/
structure ReceiveBeside (fixture : Fixture Driver Clock Hook Ch Port) (core : Nat)
    (timeoutMs startMs : UInt32)
    (b : CANCore (Bench Driver Clock Hook) Ch Port × Bench Driver Clock Hook × Option CANFrame)
    (r : Resumed Driver Clock Hook Ch Port) : Prop where
  bound : b.1.link = some fixture.link
  paced : Paced fixture core timeoutMs startMs b.2.1 r.1 r.2
  type : r.2.type = .receive
  buffer : b.2.2.isSome ∧ r.2.rxFrame = b.2.2
  mask : r.2.readyMask = none

theorem Paced.tryReceive {w : Bench Driver Clock Hook}
    {s : CANCores (Bench Driver Clock Hook) Ch Port} {operation : CANOperation}
    (paced : Paced fixture core timeoutMs startMs w s operation) {buffer : CANFrame}
    (rx : operation.rxFrame = some buffer) :
    (s.tryReceive operation.core operation.rxFrame).2 =
        ((fixture.benchOps.opReceive w fixture.driverChannel buffer).2.1,
          some (fixture.benchOps.opReceive w fixture.driverChannel buffer).2.2) ∧
      Paced fixture core timeoutMs startMs
        (fixture.benchOps.opReceive w fixture.driverChannel buffer).1
        (s.tryReceive operation.core operation.rxFrame).1 operation := by
  have received := canCoreReceive_started paced.bound rfl s.world buffer
  obtain ⟨same, alike⟩ := Bench.Alike.receive paced.alike fixture.driverChannel buffer
  rw [paced.target, rx, CANCores.tryReceive_some]
  refine ⟨?_, paced.put (canCoreReceive_link _ _ _) ?_⟩
  · rw [received, ← same]
    rfl
  · rw [congrArg Prod.fst received]
    exact alike

theorem receiveBeside_turn (waits : timeoutMs ≠ 0)
    (b : CANCore (Bench Driver Clock Hook) Ch Port × Bench Driver Clock Hook × Option CANFrame)
    (r : Resumed Driver Clock Hook Ch Port)
    (beside : ReceiveBeside fixture core timeoutMs startMs b r) :
    Beside (canCoreReceiveTurn fixture.benchTick timeoutMs startMs) resumeTurn
      (ReceiveBeside fixture core timeoutMs startMs)
      (fun a => Reaches ⟨a.2.1.calls, a.2.1.driver, a.2.2.1, a.2.2.2, none⟩) (fun _ => False)
      b r := by
  obtain ⟨bc, w, frame⟩ := b
  obtain ⟨s, operation⟩ := r
  obtain ⟨bound, paced, type, ⟨there, rx⟩, mask⟩ := beside
  obtain ⟨buffer, rfl⟩ := Option.isSome_iff_exists.mp there
  have link := (canCoreReceive_link bc w (some buffer)).trans bound
  obtain ⟨received, after⟩ := paced.tryReceive rx
  have run := paced.runOnce.trans (canOperationAttempt_receive type s)
  rw [received] at run
  have after' := after.buffers
    (some (fixture.benchOps.opReceive w fixture.driverChannel buffer).2.2) operation.readyMask
  refine beside_settle waits run after'
    (canCoreReceiveTurn_started bound rfl fixture.benchTick timeoutMs startMs w buffer) ?_ ?_ ?_
  · intro _
    exact ⟨id, after'.completed rfl mask _⟩
  · intro t' _ paced'
    exact ⟨id, paced'.completed rfl mask .etimeout⟩
  · intro t' _ paced'
    exact ⟨link, paced'.relax link, type, ⟨rfl, rfl⟩, mask⟩

end Receive

/-! ### Polls -/

/-- What an immediate poll makes of the answer to its query. -/
def pollAnswer (interestMask : UInt32) (answer : CANStatus × UInt32) : CANStatus × UInt32 :=
  if answer.1 != .ok then (answer.1, 0)
  else if answer.2 &&& interestMask != 0 then (.ok, answer.2 &&& interestMask)
  else (.enodata, 0)

theorem pollAnswer_idle {interestMask : UInt32} {answer : CANStatus × UInt32}
    (idle : (pollAnswer interestMask answer).1 = .enodata) :
    (pollAnswer interestMask answer).2 = 0 := by
  unfold pollAnswer at idle ⊢
  split
  · rfl
  · rename_i ok
    rw [if_neg ok] at idle
    split at idle
    · simp at idle
    · rename_i quiet
      rw [if_neg quiet]

theorem pollAnswer_mask (interestMask : UInt32) (answer : CANStatus × UInt32) :
    (if (pollAnswer interestMask answer).1 == .ok then (pollAnswer interestMask answer).2 else 0) =
      (pollAnswer interestMask answer).2 := by
  unfold pollAnswer
  split
  · split <;> rfl
  split <;> rfl

section PollTurn

variable {core : CANCore (Bench Driver Clock Hook) Ch Port}

theorem canCorePollTurn_now (bound : core.link = some fixture.link)
    (interestMask timeoutMs startMs : UInt32) (w : Bench Driver Clock Hook) :
    ∃ core', core'.link = some fixture.link ∧
      canCorePollTurn none interestMask timeoutMs startMs (core, w) =
        .done (core', (fixture.query w).1, pollAnswer interestMask (fixture.query w).2) := by
  have link := (canCoreQueryEvents_link core w 0).trans bound
  have asked := canCoreQueryEvents_fixture bound w
  simp only [canCorePollTurn, asked, pollAnswer]
  split
  · exact ⟨_, link, rfl⟩
  split
  · exact ⟨_, by exact link, rfl⟩
  · rename_i quiet
    have nothing : (fixture.query w).2.2 &&& interestMask = 0 := by simpa using quiet
    rw [nothing]
    exact ⟨_, by exact link, rfl⟩

/-- The blocking loop returns an answer of no data at once. -/
theorem canCorePollTurn_enodata (bound : core.link = some fixture.link)
    (interestMask timeoutMs startMs : UInt32) {w : Bench Driver Clock Hook}
    (answered : (fixture.query w).2.1 = .enodata) :
    canCorePollTurn (some fixture.benchTick) interestMask timeoutMs startMs (core, w) =
      .done ((canCoreQueryEvents core w 0).1, (fixture.query w).1, .enodata, 0) := by
  have asked := canCoreQueryEvents_fixture bound w
  simp only [canCorePollTurn, asked]
  rw [if_pos (by simp [answered]), answered]

theorem canCorePollTurn_waiting (bound : core.link = some fixture.link)
    (interestMask timeoutMs startMs : UInt32) {w : Bench Driver Clock Hook}
    (answered : (fixture.query w).2.1 ≠ .enodata) :
    ∃ ended late next, next.link = some fixture.link ∧
      canCorePollTurn (some fixture.benchTick) interestMask timeoutMs startMs (core, w) =
        let answer := pollAnswer interestMask (fixture.query w).2
        let deadline := canCoreDeadline fixture.benchTick timeoutMs startMs (fixture.query w).1
        if answer.1 != .enodata then .done (ended, (fixture.query w).1, answer)
        else if deadline.2 then .done (late, deadline.1, .etimeout, 0)
        else .again (next, canCoreRelax next deadline.1) := by
  have link := (canCoreQueryEvents_link core w 0).trans bound
  have asked := canCoreQueryEvents_fixture bound w
  simp only [canCorePollTurn, asked, pollAnswer]
  split
  · exact ⟨_, core, core, bound, (if_pos (by simpa using answered)).symm⟩
  split
  · exact ⟨_, core, core, bound, (if_pos (by simp)).symm⟩
  · rename_i quiet
    have nothing : (fixture.query w).2.2 &&& interestMask = 0 := by simpa using quiet
    rw [nothing]
    exact ⟨core, _, _, link, (if_neg (by simp)).symm⟩

end PollTurn

theorem CANCores.pollNow_fixture {s : CANCores (Bench Driver Clock Hook) Ch Port} {core : Nat}
    (bound : fixture.At s core) {interestMask : UInt32} (valid : interestValid interestMask) :
    ∃ core', core'.link = some fixture.link ∧
      s.pollNow (some core) interestMask =
        (s.put core core' (fixture.query s.world).1,
          pollAnswer interestMask (fixture.query s.world).2) := by
  obtain ⟨core', link, turn⟩ := canCorePollTurn_now bound interestMask 0 0 s.world
  have state := CANCore.state_of_link bound rfl
  refine ⟨core', link, ?_⟩
  simp only [CANCores.pollNow, canCorePoll]
  rw [if_neg (by simp), if_neg (by simp [valid]), if_neg (by simp [state]),
    if_pos (beq_self_eq_true _), loop_done turn]
  rfl

section Poll

variable {core : Nat} {timeoutMs startMs interestMask : UInt32}

/-- A poll beside the loop of `CANCorePoll`. -/
structure PollBeside (fixture : Fixture Driver Clock Hook Ch Port) (core : Nat)
    (timeoutMs startMs interestMask : UInt32)
    (b : CANCore (Bench Driver Clock Hook) Ch Port × Bench Driver Clock Hook)
    (r : Resumed Driver Clock Hook Ch Port) : Prop where
  bound : b.1.link = some fixture.link
  paced : Paced fixture core timeoutMs startMs b.2 r.1 r.2
  type : r.2.type = .poll
  interest : r.2.interestMask = interestMask
  buffers : r.2.rxFrame = none ∧ r.2.readyMask = some 0

theorem Paced.pollNow {w : Bench Driver Clock Hook}
    {s : CANCores (Bench Driver Clock Hook) Ch Port} {operation : CANOperation}
    (paced : Paced fixture core timeoutMs startMs w s operation)
    (valid : interestValid operation.interestMask) :
    (s.pollNow operation.core operation.interestMask).2 =
        pollAnswer operation.interestMask (fixture.query w).2 ∧
      Paced fixture core timeoutMs startMs (fixture.query w).1
        (s.pollNow operation.core operation.interestMask).1 operation := by
  obtain ⟨same, alike⟩ := paced.alike.query fixture
  obtain ⟨core', link, polled⟩ := CANCores.pollNow_fixture paced.bound valid
  rw [paced.target, polled, same]
  exact ⟨rfl, paced.put (link.trans paced.bound.symm) alike⟩

/-- How a step of a waiting poll comes down to settling a status. -/
theorem Paced.runPoll {w : Bench Driver Clock Hook}
    {s : CANCores (Bench Driver Clock Hook) Ch Port} {operation : CANOperation} {mask : UInt32}
    (paced : Paced fixture core timeoutMs startMs w s operation) (type : operation.type = .poll)
    (valid : interestValid operation.interestMask) (there : operation.readyMask = some mask) :
    ∃ t, Paced fixture core timeoutMs startMs (fixture.query w).1 t { operation with
        readyMask := some (pollAnswer operation.interestMask (fixture.query w).2).2 } ∧
      canOperationRunOnce s operation =
        canOperationSettle .enodata t { operation with
          readyMask := some (pollAnswer operation.interestMask (fixture.query w).2).2 }
          (pollAnswer operation.interestMask (fixture.query w).2).1 := by
  obtain ⟨polled, after⟩ := paced.pollNow valid
  have run := paced.runOnce.trans (canOperationAttempt_poll type there s)
  rw [polled, pollAnswer_mask] at run
  exact ⟨_, after.buffers operation.rxFrame _, run⟩

/-- A poll that waits, at the start of a step. -/
structure PollWaits (fixture : Fixture Driver Clock Hook Ch Port) (core : Nat)
    (timeoutMs startMs : UInt32) (r : Resumed Driver Clock Hook Ch Port) : Prop where
  paced : ∃ w, Paced fixture core timeoutMs startMs w r.1 r.2
  type : r.2.type = .poll
  valid : interestValid r.2.interestMask
  there : ∃ mask, r.2.readyMask = some mask

/-- Its step leaves it waiting, or completes it with another status than
`CAN_STATUS_ENODATA`. -/
theorem PollWaits.step (waits : timeoutMs ≠ 0) {r : Resumed Driver Clock Hook Ch Port}
    (waiting : PollWaits fixture core timeoutMs startMs r) :
    (∃ r', PollWaits fixture core timeoutMs startMs r' ∧ resumeTurn r = .again r') ∨
      ∃ t operation status, status ≠ CANStatus.enodata ∧
        resumeTurn r = .done (some (t, canOperationComplete operation status)) := by
  obtain ⟨s, operation⟩ := r
  obtain ⟨⟨w, paced⟩, type, valid, mask, there⟩ := waiting
  obtain ⟨t, after, run⟩ := paced.runPoll type valid there
  by_cases idle : (pollAnswer operation.interestMask (fixture.query w).2).1 = .enodata
  · obtain ⟨t', after', turn⟩ := resumeTurn_retry waits run after idle
    split at turn
    · exact .inr ⟨t', _, .etimeout, by simp, turn⟩
    · exact .inl ⟨(t', _), ⟨⟨_, after'⟩, type, valid, _, rfl⟩, turn⟩
  · exact .inr ⟨t, _, _, idle, resumeTurn_final run idle⟩

/-- A poll that waits never completes with `CAN_STATUS_ENODATA`. -/
theorem waiting_poll_status (waits : timeoutMs ≠ 0) {r : Resumed Driver Clock Hook Ch Port}
    (waiting : PollWaits fixture core timeoutMs startMs r) {fuel : Nat}
    {r' : Option (Resumed Driver Clock Hook Ch Port)} (ends : loop resumeTurn fuel r = some r')
    {outcome : BenchOutcome Driver} (reaches : Reaches outcome r') :
    outcome.status ≠ .enodata := by
  have keeps (r next : Resumed Driver Clock Hook Ch Port)
      (waiting : PollWaits fixture core timeoutMs startMs r) (turn : resumeTurn r = .again next) :
      PollWaits fixture core timeoutMs startMs next := by
    rcases waiting.step waits with ⟨r', waiting', again⟩ | ⟨t, operation, status, -, done⟩
    · obtain rfl : next = r' := by simpa using turn.symm.trans again
      exact waiting'
    · simp [done] at turn
  obtain ⟨last, waiting, turn⟩ := loop_ends _ keeps waiting ends
  rcases waiting.step waits with ⟨r', -, again⟩ | ⟨t, operation, status, ne, done⟩
  · simp [again] at turn
  · obtain rfl : some (t, canOperationComplete operation status) = r' := by
      simpa using done.symm.trans turn
    obtain ⟨resumed, eq, rfl⟩ := reaches
    obtain rfl := Option.some.inj eq
    exact ne

theorem pollBeside_turn (waits : timeoutMs ≠ 0) (valid : interestValid interestMask)
    (b : CANCore (Bench Driver Clock Hook) Ch Port × Bench Driver Clock Hook)
    (r : Resumed Driver Clock Hook Ch Port)
    (beside : PollBeside fixture core timeoutMs startMs interestMask b r) :
    Beside (canCorePollTurn (some fixture.benchTick) interestMask timeoutMs startMs) resumeTurn
      (PollBeside fixture core timeoutMs startMs interestMask)
      (fun a => Reaches ⟨a.2.1.calls, a.2.1.driver, a.2.2.1, none, some a.2.2.2⟩)
      (fun a => a.2.2.1 = .enodata) b r := by
  obtain ⟨bc, w⟩ := b
  obtain ⟨s, operation⟩ := r
  obtain ⟨bound, paced, type, rfl, rx, mask⟩ := beside
  obtain ⟨t, after, run⟩ := paced.runPoll type valid mask
  by_cases answered : (fixture.query w).2.1 = .enodata
  · have turn := canCorePollTurn_enodata bound operation.interestMask timeoutMs startMs answered
    refine .never turn rfl fun fuel r ends reaches => ?_
    exact waiting_poll_status waits ⟨⟨_, paced⟩, type, valid, _, mask⟩ ends reaches rfl
  · obtain ⟨ended, late, next, link, turn⟩ :=
      canCorePollTurn_waiting bound operation.interestMask timeoutMs startMs answered
    refine beside_settle waits run after turn ?_ ?_ ?_
    · intro final
      exact ⟨final, after.completed rx rfl _⟩
    · intro t' idle paced'
      exact ⟨by simp, paced'.completed rx (congrArg some (pollAnswer_idle idle)) .etimeout⟩
    · intro t' idle paced'
      exact ⟨link, paced'.relax link, type, rfl, rx, congrArg some (pollAnswer_idle idle)⟩

end Poll

/-! ### From the submission on -/

theorem BenchRequest.submittable {s : CANCores (Bench Driver Clock Hook) Ch Port} {core : Nat}
    (bound : fixture.At s core) (timeoutMs : UInt32) (request : BenchRequest) :
    (request.prepared core timeoutMs).Submittable s := by
  have started : s.isStarted (some core) = true := by
    simp [CANCores.isStarted, CANCore.state_of_link bound rfl]
  have runtime : (s.tick (some core)).isSome = true := by
    simp [CANCores.tick, CANCore.tick, bound, Fixture.link]
  cases request with
  | send frame => exact ⟨rfl, started, rfl, fun _ => runtime⟩
  | receive buffer => exact ⟨rfl, started, rfl, fun _ => runtime⟩
  | poll interestMask valid readyMask => exact ⟨rfl, started, valid, fun _ => runtime⟩

theorem resuming_iff {s : CANCores (Bench Driver Clock Hook) Ch Port} {core : Nat}
    (bound : fixture.At s core) {timeoutMs : UInt32} {request : BenchRequest}
    {outcome : BenchOutcome Driver} :
    (∃ fuel, resuming fuel s core timeoutMs request = some outcome) ↔
      ∃ fuel r, loop resumeTurn fuel (s, (request.prepared core timeoutMs).submitted) = some r ∧
        Reaches outcome r := by
  have accepted := canOperationSubmit_of_submittable (request.submittable bound timeoutMs)
  simp only [resuming, accepted]
  constructor
  · rintro ⟨fuel, result⟩
    rw [if_neg (by simp)] at result
    obtain ⟨r, ends, mapped⟩ := Option.bind_eq_some_iff.mp result
    obtain ⟨resumed, rfl, rfl⟩ := Option.map_eq_some_iff.mp mapped
    exact ⟨fuel, _, ends, resumed, rfl, rfl⟩
  · rintro ⟨fuel, r, ends, resumed, rfl, rfl⟩
    refine ⟨fuel, ?_⟩
    rw [if_neg (by simp), ends]
    rfl

section Begin

variable {core : Nat} {timeoutMs : UInt32} {s : CANCores (Bench Driver Clock Hook) Ch Port}
  {operation : CANOperation}

/-- The first step of a waiting operation starts the deadline that the blocking call
starts before its loop. -/
theorem begin_paced (waits : timeoutMs ≠ 0) (bound : fixture.At s core)
    (pending : operation.state = .pending) (target : operation.core = some core)
    (timeout : operation.timeoutMs = timeoutMs) (fresh : operation.deadlineStarted = false) :
    ∃ s' startMs started,
      resumeTurn (s, operation) =
        resumeTurn (s', { operation with startMs := startMs, deadlineStarted := started }) ∧
      Paced fixture core timeoutMs (fixture.benchTick s.world).2 (fixture.benchTick s.world).1 s'
        { operation with startMs := startMs, deadlineStarted := started } := by
  by_cases infinite : timeoutMs = canTimeoutInfinite
  · refine ⟨s, operation.startMs, operation.deadlineStarted, rfl, ?_⟩
    exact ⟨⟨rfl, rfl, fun finite => absurd infinite finite⟩, bound, pending, target, timeout,
      fun _ finite => absurd infinite finite⟩
  · have after : Paced fixture core timeoutMs (fixture.benchTick s.world).2
        (fixture.benchTick s.world).1 { s with world := (fixture.benchTick s.world).1 }
        { operation with startMs := (fixture.benchTick s.world).2, deadlineStarted := true } :=
      ⟨.refl _ _, bound, pending, target, timeout, fun _ _ => ⟨rfl, rfl⟩⟩
    refine ⟨_, _, true, ?_, after⟩
    have tick : s.tick operation.core = some fixture.benchTick := by
      simp [CANCores.tick, target, CANCore.tick, bound, Fixture.link]
    have finite : canOperationFiniteTimeoutEnabled operation = true := by
      simp [canOperationFiniteTimeoutEnabled, timeout, waits, infinite]
    have run : canOperationRunOnce s operation =
        canOperationRunOnce { s with world := (fixture.benchTick s.world).1 }
          { operation with startMs := (fixture.benchTick s.world).2, deadlineStarted := true } := by
      rw [after.runOnce]
      rw [canOperationRunOnce_pending pending, canOperationStartDeadline,
        if_pos (by simp [finite, fresh])]
      simp only [canOperationNowMs, tick, Option.map_some, Option.bind_some]
    simp only [resumeTurn, run]

/-- With no time to wait, one step completes the operation. -/
theorem resumeTurn_immediate {t : CANCores (Bench Driver Clock Hook) Ch Port}
    {operation' : CANOperation} {retry status : CANStatus}
    (run : canOperationRunOnce s operation = canOperationSettle retry t operation' status)
    (timeout : operation'.timeoutMs = 0) :
    resumeTurn (s, operation) = .done (some (t, canOperationComplete operation' status)) := by
  by_cases retried : status = retry
  · unfold canOperationSettle at run
    rw [if_neg (by simpa using retried), if_pos (by simp [timeout])] at run
    simp only [resumeTurn, run, retried]
  · exact resumeTurn_final run retried

theorem immediate_paced (bound : fixture.At s core) (pending : operation.state = .pending)
    (target : operation.core = some core) (timeout : operation.timeoutMs = 0) (startMs : UInt32) :
    Paced fixture core 0 startMs s.world s operation :=
  ⟨.refl _ _, bound, pending, target, timeout, fun waits => absurd rfl waits⟩

end Begin

/-! ### Agreement -/

section Agreement

variable {s : CANCores (Bench Driver Clock Hook) Ch Port} {core fuel : Nat} {timeoutMs : UInt32}
  {outcome : BenchOutcome Driver}

theorem Fixture.At.tick (bound : fixture.At s core) :
    (s.core core).tick = some fixture.benchTick := by
  simp [CANCore.tick, bound, Fixture.link]

/-- An operation that waits ends as its blocking loop does, if not badly. -/
theorem waiting_follows {σ α : Type} {body : σ → Turn σ α} {b : σ} {a : α}
    {R : σ → Resumed Driver Clock Hook Ch Port → Prop} {Bad : α → Prop}
    {view : α → BenchOutcome Driver} {request : BenchRequest} (waits : timeoutMs ≠ 0)
    (bound : fixture.At s core)
    (beside : ∀ b r, R b r → Beside body resumeTurn R (fun a => Reaches (view a)) Bad b r)
    (initial : ∀ s' startMs started,
      Paced fixture core timeoutMs (fixture.benchTick s.world).2 (fixture.benchTick s.world).1 s'
          { (request.prepared core timeoutMs).submitted with
            startMs := startMs, deadlineStarted := started } →
        R b (s', { (request.prepared core timeoutMs).submitted with
          startMs := startMs, deadlineStarted := started }))
    (ends : loop body fuel b = some a) :
    (∃ fuel', resuming fuel' s core timeoutMs request = some (view a)) ↔ ¬ Bad a := by
  have target : (request.prepared core timeoutMs).submitted.core = some core := by
    cases request <;> rfl
  have timeout : (request.prepared core timeoutMs).submitted.timeoutMs = timeoutMs := by
    cases request <;> rfl
  obtain ⟨s', startMs, started, turn, paced⟩ :=
    begin_paced waits bound rfl target timeout rfl
  rw [resuming_iff bound, ← loop_follows beside (initial s' startMs started paced) ends]
  simp only [loop_congr turn]

theorem send_agrees (bound : fixture.At s core) {frame : CANFrame}
    (ends : blocking fuel (s.core core) s.world timeoutMs (.send frame) = some outcome) :
    ∃ fuel', resuming fuel' s core timeoutMs (.send frame) = some outcome := by
  have state := CANCore.state_of_link bound rfl
  obtain ⟨a, sent, rfl⟩ := Option.map_eq_some_iff.mp ends
  simp only [canCoreSendTimeout] at sent
  rw [if_neg (by simp), if_neg (by simp [state])] at sent
  by_cases immediate : timeoutMs = 0
  · subst immediate
    rw [if_pos (beq_self_eq_true _)] at sent
    obtain rfl := Option.some.inj sent
    have paced : Paced fixture core 0 0 s.world s
        (BenchRequest.prepared core 0 (.send frame)).submitted :=
      immediate_paced bound rfl rfl rfl 0
    obtain ⟨status, after⟩ := paced.trySend rfl
    have run := paced.runOnce.trans (canOperationAttempt_send rfl s)
    rw [status] at run
    refine (resuming_iff bound).mpr ⟨1, _, loop_done (resumeTurn_immediate run rfl) 0, ?_⟩
    simp only [canCoreSend_started bound rfl]
    exact after.completed rfl rfl _
  · rw [if_neg (by simpa using immediate), bound.tick] at sent
    exact (waiting_follows immediate bound (sendBeside_turn immediate)
      (fun s' startMs started paced => ⟨bound, paced, rfl, rfl, rfl, rfl⟩) sent).mpr id

theorem receive_agrees (bound : fixture.At s core) {buffer : CANFrame}
    (ends : blocking fuel (s.core core) s.world timeoutMs (.receive buffer) = some outcome) :
    ∃ fuel', resuming fuel' s core timeoutMs (.receive buffer) = some outcome := by
  have state := CANCore.state_of_link bound rfl
  obtain ⟨a, received, rfl⟩ := Option.map_eq_some_iff.mp ends
  simp only [canCoreReceiveTimeout] at received
  rw [if_neg (by simp), if_neg (by simp [state])] at received
  by_cases immediate : timeoutMs = 0
  · subst immediate
    rw [if_pos (beq_self_eq_true _)] at received
    obtain rfl := Option.some.inj received
    have paced : Paced fixture core 0 0 s.world s
        (BenchRequest.prepared core 0 (.receive buffer)).submitted :=
      immediate_paced bound rfl rfl rfl 0
    obtain ⟨status, after⟩ := paced.tryReceive rfl
    have run := paced.runOnce.trans (canOperationAttempt_receive rfl s)
    rw [status] at run
    refine (resuming_iff bound).mpr ⟨1, _, loop_done (resumeTurn_immediate run rfl) 0, ?_⟩
    simp only [canCoreReceive_started bound rfl]
    exact (after.buffers _ none).completed rfl rfl _
  · rw [if_neg (by simpa using immediate), bound.tick] at received
    exact (waiting_follows immediate bound (receiveBeside_turn immediate)
      (fun s' startMs started paced => ⟨bound, paced, rfl, ⟨rfl, rfl⟩, rfl⟩) received).mpr id

theorem immediate_poll_agrees (bound : fixture.At s core) {interestMask readyMask : UInt32}
    {valid : interestValid interestMask}
    (ends : blocking fuel (s.core core) s.world 0 (.poll interestMask valid readyMask) =
      some outcome) :
    ∃ fuel', resuming fuel' s core 0 (.poll interestMask valid readyMask) = some outcome := by
  have state := CANCore.state_of_link bound rfl
  obtain ⟨a, polled, rfl⟩ := Option.map_eq_some_iff.mp ends
  simp only [canCorePoll] at polled
  rw [if_neg (by simp), if_neg (by simp [valid]), if_neg (by simp [state]),
    if_pos (beq_self_eq_true _)] at polled
  obtain ⟨a', looped, rfl⟩ := Option.map_eq_some_iff.mp polled
  obtain ⟨core', -, turn⟩ := canCorePollTurn_now bound interestMask 0 0 s.world
  obtain rfl := loop_unique (loop_done turn 0) looped
  have paced : Paced fixture core 0 0 s.world s
      (BenchRequest.prepared core 0 (.poll interestMask valid readyMask)).submitted :=
    immediate_paced bound rfl rfl rfl 0
  obtain ⟨t, after, run⟩ := paced.runPoll rfl valid rfl
  refine (resuming_iff bound).mpr ⟨1, _, loop_done (resumeTurn_immediate run rfl) 0, ?_⟩
  exact after.completed rfl rfl _

/-- A blocking poll that waits is its loop, begun at the tick it reads first. -/
theorem canCorePoll_waiting (waits : timeoutMs ≠ 0) (bound : fixture.At s core)
    {interestMask : UInt32} (valid : interestValid interestMask) (readyMask : UInt32) :
    canCorePoll fuel (s.core core) s.world interestMask timeoutMs (some readyMask) =
      (loop (canCorePollTurn (some fixture.benchTick) interestMask timeoutMs
          (fixture.benchTick s.world).2) fuel (s.core core, (fixture.benchTick s.world).1)).map
        fun (core, w, status, mask) => (core, w, status, some mask) := by
  have state := CANCore.state_of_link bound rfl
  unfold canCorePoll
  rw [if_neg (by simp), if_neg (by simp [valid]), if_neg (by simp [state]),
    if_neg (by simpa using waits), bound.tick]

/-- A poll that waits agrees unless the blocking call itself reports `CAN_STATUS_ENODATA`. -/
theorem waiting_poll_agrees_iff (waits : timeoutMs ≠ 0) (bound : fixture.At s core)
    {interestMask readyMask : UInt32} {valid : interestValid interestMask}
    (ends : blocking fuel (s.core core) s.world timeoutMs (.poll interestMask valid readyMask) =
      some outcome) :
    (∃ fuel', resuming fuel' s core timeoutMs (.poll interestMask valid readyMask) =
        some outcome) ↔
      outcome.status ≠ .enodata := by
  obtain ⟨a, polled, rfl⟩ := Option.map_eq_some_iff.mp ends
  rw [canCorePoll_waiting waits bound valid] at polled
  obtain ⟨a', looped, rfl⟩ := Option.map_eq_some_iff.mp polled
  exact waiting_follows waits bound (pollBeside_turn waits valid)
    (fun s' startMs started paced => ⟨bound, paced, rfl, rfl, rfl, rfl⟩) looped

end Agreement

/-! ### When a driver answers a query with no data -/

namespace Fixture

/-- `QueryEvents` as a poll calls it, on the driver alone. -/
def ask (fixture : Fixture Driver Clock Hook Ch Port) (driver : Driver) :
    Driver × CANStatus × UInt32 :=
  match fixture.queryEvents with
  | none => (driver, .eunsupported, 0)
  | some query => query driver fixture.driverChannel 0

/-- A poll that started at `startMs` comes to a query that the driver answers with
`CAN_STATUS_ENODATA`: each one before it found nothing, and the deadline was not
over after it. -/
inductive MeetsNoData (fixture : Fixture Driver Clock Hook Ch Port)
    (interestMask timeoutMs startMs : UInt32) : Driver → Clock → Prop where
  | here {driver : Driver} {clock : Clock} (answered : (fixture.ask driver).2.1 = .enodata) :
      MeetsNoData fixture interestMask timeoutMs startMs driver clock
  | later {driver : Driver} {clock : Clock} (answered : (fixture.ask driver).2.1 = .ok)
      (quiet : (fixture.ask driver).2.2 &&& interestMask = 0)
      (left : (canCoreDeadline fixture.tick timeoutMs startMs clock).2 = false)
      (rest : MeetsNoData fixture interestMask timeoutMs startMs (fixture.ask driver).1
        (canCoreDeadline fixture.tick timeoutMs startMs clock).1) :
      MeetsNoData fixture interestMask timeoutMs startMs driver clock

theorem query_ask (fixture : Fixture Driver Clock Hook Ch Port) (w : Bench Driver Clock Hook) :
    (fixture.query w).2 = (fixture.ask w.driver).2 ∧
      (fixture.query w).1.driver = (fixture.ask w.driver).1 ∧
      (fixture.query w).1.clock = w.clock := by
  cases query : fixture.queryEvents <;> simp [Fixture.query, ask, query, benchQuery, Bench.record]

theorem deadline_clock (fixture : Fixture Driver Clock Hook Ch Port) (timeoutMs startMs : UInt32)
    (w : Bench Driver Clock Hook) :
    (canCoreDeadline fixture.benchTick timeoutMs startMs w).2 =
        (canCoreDeadline fixture.tick timeoutMs startMs w.clock).2 ∧
      (canCoreDeadline fixture.benchTick timeoutMs startMs w).1.driver = w.driver ∧
      (canCoreDeadline fixture.benchTick timeoutMs startMs w).1.clock =
        (canCoreDeadline fixture.tick timeoutMs startMs w.clock).1 := by
  unfold canCoreDeadline
  split
  · exact ⟨rfl, rfl, rfl⟩
  · exact ⟨rfl, rfl, rfl⟩

theorem relax_same {core : CANCore (Bench Driver Clock Hook) Ch Port}
    (bound : core.link = some fixture.link) (w : Bench Driver Clock Hook) :
    (canCoreRelax core w).driver = w.driver ∧ (canCoreRelax core w).clock = w.clock := by
  have alike := (Bench.Alike.refl 0 w).relax bound
  exact ⟨alike.driver.symm, (alike.clock (by decide)).symm⟩

end Fixture

theorem pollAnswer_enodata {interestMask : UInt32} {answer : CANStatus × UInt32}
    (other : answer.1 ≠ .enodata) :
    (pollAnswer interestMask answer).1 = .enodata ↔
      answer.1 = .ok ∧ answer.2 &&& interestMask = 0 := by
  unfold pollAnswer
  split
  · rename_i failed
    simp only [bne_iff_ne] at failed
    constructor
    · intro no
      exact absurd no other
    · intro ok
      exact absurd ok.1 failed
  split
  · rename_i ready
    simp only [bne_iff_ne] at ready
    constructor
    · intro no
      simp at no
    · intro quiet
      exact absurd quiet.2 ready
  · rename_i ok quiet
    exact ⟨fun _ => ⟨by simpa using ok, by simpa using quiet⟩, fun _ => rfl⟩

/-- Where the driver answers something else, the next query decides. -/
theorem Fixture.meetsNoData_iff {interestMask timeoutMs startMs : UInt32} {driver : Driver}
    {clock : Clock} (other : (fixture.ask driver).2.1 ≠ .enodata) :
    fixture.MeetsNoData interestMask timeoutMs startMs driver clock ↔
      (pollAnswer interestMask (fixture.ask driver).2).1 = .enodata ∧
        (canCoreDeadline fixture.tick timeoutMs startMs clock).2 = false ∧
        fixture.MeetsNoData interestMask timeoutMs startMs (fixture.ask driver).1
          (canCoreDeadline fixture.tick timeoutMs startMs clock).1 := by
  rw [pollAnswer_enodata other]
  constructor
  · intro meets
    cases meets with
    | here no => exact absurd no other
    | later ok quiet left rest => exact ⟨⟨ok, quiet⟩, left, rest⟩
  · rintro ⟨⟨ok, quiet⟩, left, rest⟩
    exact .later ok quiet left rest

/-- The blocking poll reports `CAN_STATUS_ENODATA` only from the driver. -/
theorem canCorePollLoop_enodata_iff {interestMask timeoutMs startMs : UInt32} {fuel : Nat}
    {core : CANCore (Bench Driver Clock Hook) Ch Port} {w : Bench Driver Clock Hook}
    (bound : core.link = some fixture.link)
    {a : CANCore (Bench Driver Clock Hook) Ch Port × Bench Driver Clock Hook × CANStatus × UInt32}
    (ends : loop (canCorePollTurn (some fixture.benchTick) interestMask timeoutMs startMs) fuel
      (core, w) = some a) :
    a.2.2.1 = .enodata ↔
      fixture.MeetsNoData interestMask timeoutMs startMs w.driver w.clock := by
  induction fuel generalizing core w with
  | zero => simp [loop] at ends
  | succ fuel ih =>
      obtain ⟨asked, driver, clock⟩ := fixture.query_ask w
      obtain ⟨timedOut, driver', clock'⟩ :=
        fixture.deadline_clock timeoutMs startMs (fixture.query w).1
      rw [driver] at driver'
      rw [clock] at timedOut clock'
      by_cases answered : (fixture.query w).2.1 = .enodata
      · have turn := canCorePollTurn_enodata bound interestMask timeoutMs startMs answered
        rw [loop_done turn] at ends
        obtain rfl := Option.some.inj ends
        constructor
        · intro _
          exact .here (by rw [← asked]; exact answered)
        · intro _
          rfl
      · obtain ⟨ended, late, next, link, turn⟩ :=
          canCorePollTurn_waiting bound interestMask timeoutMs startMs answered
        have answered' : (fixture.ask w.driver).2.1 ≠ .enodata := by rwa [← asked]
        simp only [asked] at turn
        rw [Fixture.meetsNoData_iff answered', ← timedOut]
        split at turn
        · rename_i final
          rw [loop_done turn] at ends
          obtain rfl := Option.some.inj ends
          have other : (pollAnswer interestMask (fixture.ask w.driver).2).1 ≠ .enodata := by
            simpa using final
          exact iff_of_false other fun meets => other meets.1
        rename_i waiting
        have idle : (pollAnswer interestMask (fixture.ask w.driver).2).1 = .enodata := by
          simpa using waiting
        split at turn
        · rename_i expired
          rw [loop_done turn] at ends
          obtain rfl := Option.some.inj ends
          refine iff_of_false (by simp) ?_
          rintro ⟨-, left, -⟩
          exact Bool.false_ne_true (left.symm.trans expired)
        · rename_i left
          rw [loop_again turn] at ends
          obtain ⟨same, same'⟩ := Fixture.relax_same link
            (canCoreDeadline fixture.benchTick timeoutMs startMs (fixture.query w).1).1
          rw [ih link ends, same, same', driver', clock']
          simp only [idle, Bool.eq_false_iff.mpr left, true_and]

/-- A poll that waits comes to an answer of no data. -/
def BenchRequest.MeetsNoData (fixture : Fixture Driver Clock Hook Ch Port)
    (w : Bench Driver Clock Hook) (timeoutMs : UInt32) : BenchRequest → Prop
  | .poll interestMask _ _ =>
      timeoutMs ≠ 0 ∧ fixture.MeetsNoData interestMask timeoutMs (fixture.tick w.clock).2 w.driver
        (fixture.tick w.clock).1
  | _ => False

/-- Whenever the blocking call returns, the operation run step by step makes the same
driver calls and ends with the same status, frame and ready mask, unless it is a poll
that waits and comes to an answer of no data. -/
theorem resuming_agrees_iff {s : CANCores (Bench Driver Clock Hook) Ch Port} {core fuel : Nat}
    (bound : (s.core core).link = some fixture.link) {timeoutMs : UInt32} {request : BenchRequest}
    {outcome : BenchOutcome Driver}
    (ends : blocking fuel (s.core core) s.world timeoutMs request = some outcome) :
    (∃ fuel', resuming fuel' s core timeoutMs request = some outcome) ↔
      ¬ request.MeetsNoData fixture s.world timeoutMs := by
  cases request with
  | send frame => exact iff_of_true (send_agrees bound ends) id
  | receive buffer => exact iff_of_true (receive_agrees bound ends) id
  | poll interestMask valid readyMask =>
      by_cases immediate : timeoutMs = 0
      · subst immediate
        exact iff_of_true (immediate_poll_agrees bound ends) fun meets => meets.1 rfl
      · rw [waiting_poll_agrees_iff immediate bound ends]
        obtain ⟨a, polled, rfl⟩ := Option.map_eq_some_iff.mp ends
        rw [canCorePoll_waiting immediate bound valid] at polled
        obtain ⟨a', looped, rfl⟩ := Option.map_eq_some_iff.mp polled
        rw [Ne, canCorePollLoop_enodata_iff bound looped]
        simp only [BenchRequest.MeetsNoData, immediate, ne_eq, not_false_eq_true, true_and]
        rfl

/-- A busy bus whose driver has no data for any query, and a clock that moves by three. -/
def noDataCores : CANCores (Bench Unit UInt32 Unit) Unit Unit :=
  let fixture : Fixture Unit UInt32 Unit Unit Unit :=
    { ops := busyOps, queryEvents := some fun driver _ _ => (driver, .enodata, 0)
      tick := fun clock => (clock + 3, clock), relax := none, driverChannel := (), driverPort := () }
  ⟨⟨[], (), 0, ()⟩, fun _ => ⟨some fixture.link, .zero, .ok⟩⟩

theorem resuming_agrees_busy :
    (∃ fuel', resuming fuel' noDataCores 0 5 (.send idleFrame) =
        some ⟨[.send idleFrame, .send idleFrame], (), .etimeout, none, none⟩) ↔
      ¬ False :=
  resuming_agrees_iff rfl (by decide +kernel :
    blocking 2 (noDataCores.core 0) noDataCores.world 5 (.send idleFrame) =
      some ⟨[.send idleFrame, .send idleFrame], (), .etimeout, none, none⟩)

/-- A poll for five milliseconds whose driver has no data: the blocking call asks once
and says so, the operation asks again and times out. -/
theorem poll_no_data_disagrees :
    let request : BenchRequest := .poll canCoreEventRxReady (by decide) 0
    let outcome : BenchOutcome Unit := ⟨[.queryEvents 0], (), .enodata, none, some 0⟩
    blocking 1 (noDataCores.core 0) noDataCores.world 5 request = some outcome ∧
      resuming 2 noDataCores 0 5 request =
        some ⟨[.queryEvents 0, .queryEvents 0], (), .etimeout, none, some 0⟩ ∧
      ¬ ∃ fuel, resuming fuel noDataCores 0 5 request = some outcome := by
  intro request outcome
  have ends : blocking 1 (noDataCores.core 0) noDataCores.world 5 request = some outcome := by
    decide +kernel
  refine ⟨ends, by decide +kernel, ?_⟩
  intro agrees
  exact (waiting_poll_agrees_iff (by decide) rfl ends).mp agrees rfl

end SmartBusAccess.Can
