import SmartBusAccess.Semantics.Runs
import SmartBusAccess.Can.Executor
import SmartBusAccess.Can.SendLog

/-!
What becomes of an operation once it has completed.

Running a completed operation changes nothing and asks the driver nothing. But
`CANOperationSubmit` writes the result of every operation it is handed, and refuses
one that is not ready with `CAN_STATUS_EBUSY`. So the result stays exactly as long as
the operation is not submitted again (`completion_final_iff`).

The driver is any driver, with a record of its `Send`s: how often it accepted a frame on behalf
of an operation is read off that record, before and after each call.
-/

namespace SmartBusAccess.Can

/-- The memory, the executors that point into it, and for each operation how many driver
`Send`s were answered `CAN_STATUS_OK` on its behalf since its last accepted submission. -/
structure CANOperating (W Ch Port : Type) where
  heap : CANHeap (SendLog W) Ch Port
  executors : Nat → CANExecutor
  sent : Nat → Nat

/-- The four ways to make an operation anew. -/
inductive CANPreparation where
  | init
  | send (core : Option Nat) (frame : Option CANFrame) (timeoutMs : UInt32)
  | receive (core : Option Nat) (frame : Option CANFrame) (timeoutMs : UInt32)
  | poll (core : Option Nat) (interestMask timeoutMs : UInt32) (readyMask : Option UInt32)

def CANPreparation.operation : CANPreparation → CANOperation
  | .init => canOperationInit
  | .send core frame timeoutMs => canOperationPrepareSend core frame timeoutMs
  | .receive core frame timeoutMs => canOperationPrepareReceive core frame timeoutMs
  | .poll core interestMask timeoutMs readyMask =>
      canOperationPreparePoll core interestMask timeoutMs readyMask

/-- A call on an operation or an executor. In between the cores are used in any way. -/
inductive CANOperatingCall (W Ch Port : Type) where
  | operationSubmit (address : Nat)
  | operationRunOnce (address : Nat)
  | executorSubmit (executor : Nat) (operation : Option Nat)
  | executorRunOnce (executor : Nat)
  | prepare (address : Nat) (preparation : CANPreparation)
  | useCores (cores : CANCores W Ch Port)

variable {W Ch Port : Type}

/-- The operation a call prepares. -/
def CANOperatingCall.prepares : CANOperatingCall W Ch Port → Option Nat
  | .prepare address _ => some address
  | _ => none

/-- The cores on a driver that goes on with this record. -/
def CANCores.logging (s : CANCores W Ch Port) (sends : List (CANFrame × CANStatus)) :
    CANCores (SendLog W) Ch Port :=
  ⟨⟨s.world, sends⟩, fun address => (s.core address).logging⟩

/-- The checks of `CANExecutorSubmit` before it hands on the operation. -/
def CANExecutor.admits (executor : CANExecutor) (address : Nat) : Bool :=
  executor.usable && executor.slots.length < executor.capacity &&
    !canExecutorContains executor address

theorem canExecutorSubmit_heap (executor : CANExecutor) (h : CANHeap W Ch Port) (address : Nat) :
    (canExecutorSubmit executor h (some address)).2.1 =
      if executor.admits address then h.write address (canOperationSubmit h.cores (h.op address)).1
      else h := by
  unfold canExecutorSubmit
  simp only
  split
  · rename_i unusable
    have refused : executor.admits address = false := by simp_all [CANExecutor.admits]
    simp [refused]
  split
  · rename_i full
    have refused : executor.admits address = false := by
      simp [CANExecutor.admits, Nat.not_lt.mpr full]
    simp [refused]
  split
  · rename_i held
    have refused : executor.admits address = false := by simp [CANExecutor.admits, held]
    simp [refused]
  · rename_i usable room free
    have admitted : executor.admits address = true := by simp_all [CANExecutor.admits]
    rw [if_pos admitted]
    split <;> rfl

namespace CANOperating

/-- A step that would fault leaves the memory as it is. -/
def perform (s : CANOperating W Ch Port) :
    CANOperatingCall W Ch Port → CANHeap (SendLog W) Ch Port × (Nat → CANExecutor)
  | .operationSubmit address =>
      (s.heap.write address (canOperationSubmit s.heap.cores (s.heap.op address)).1, s.executors)
  | .operationRunOnce address =>
      match canOperationRunOnce s.heap.cores (s.heap.op address) with
      | none => (s.heap, s.executors)
      | some (cores, operation, _) =>
          ({ s.heap with cores := cores }.write address operation, s.executors)
  | .executorSubmit executor operation =>
      let (next, heap, _) := canExecutorSubmit (s.executors executor) s.heap operation
      (heap, Function.update s.executors executor next)
  | .executorRunOnce executor =>
      match canExecutorRunOnce (s.executors executor) s.heap with
      | none => (s.heap, s.executors)
      | some (next, heap, _) => (heap, Function.update s.executors executor next)
  | .prepare address preparation => (s.heap.write address preparation.operation, s.executors)
  | .useCores cores =>
      ({ s.heap with cores := cores.logging s.heap.cores.world.sends }, s.executors)

/-- The operation a call hands to `CANOperationSubmit`. -/
def hands (s : CANOperating W Ch Port) : CANOperatingCall W Ch Port → Option Nat
  | .operationSubmit address => some address
  | .executorSubmit executor operation =>
      operation.filter (s.executors executor).admits
  | _ => none

/-- The operation a call hands to `CANOperationRunOnce`. -/
def advances (s : CANOperating W Ch Port) : CANOperatingCall W Ch Port → Option Nat
  | .operationRunOnce address => some address
  | .executorRunOnce executor =>
      if (s.executors executor).usable then
        (s.executors executor).slots[(s.executors executor).turn]?
      else none
  | _ => none

/-- How many `Send`s the driver answers with `CAN_STATUS_OK` during a call. -/
def accepts (s : CANOperating W Ch Port) (call : CANOperatingCall W Ch Port) : Nat :=
  (s.perform call).1.cores.world.accepted.length - s.heap.cores.world.accepted.length

def next (s : CANOperating W Ch Port) (call : CANOperatingCall W Ch Port) :
    CANOperating W Ch Port where
  heap := (s.perform call).1
  executors := (s.perform call).2
  sent address :=
    (if s.hands call = some address ∧
        (canOperationSubmit s.heap.cores (s.heap.op address)).2 = .ok then 0
      else s.sent address) +
    if s.hands call = some address ∨ s.advances call = some address then s.accepts call else 0

/-- Nothing has been sent yet. -/
def begin (heap : CANHeap W Ch Port) (executors : Nat → CANExecutor) : CANOperating W Ch Port :=
  ⟨⟨heap.cores.logging [], heap.op⟩, executors, fun _ => 0⟩

/-- After the call the operation is done as before, and the call asked the driver nothing
for it. -/
structure Final (s : CANOperating W Ch Port) (target : Nat) (result : CANStatus)
    (call : CANOperatingCall W Ch Port) : Prop where
  kept : canOperationGetResult ((s.next call).heap.op target) = result
  done : canOperationIsDone ((s.next call).heap.op target)
  silent : s.hands call = some target ∨ s.advances call = some target →
    (s.next call).heap.cores = s.heap.cores

/-- The call does not submit the operation again, unless its result is the one that this
writes. -/
def Spares (s : CANOperating W Ch Port) (target : Nat) (result : CANStatus)
    (call : CANOperatingCall W Ch Port) : Prop :=
  s.hands call = some target → result = .ebusy

/-! ### What a call does to the memory -/

theorem executorSubmit_heap (s : CANOperating W Ch Port) (executor : Nat)
    (operation : Option Nat) :
    (s.perform (.executorSubmit executor operation)).1 =
      match s.hands (.executorSubmit executor operation) with
      | none => s.heap
      | some address => (s.perform (.operationSubmit address)).1 := by
  cases operation with
  | none => rfl
  | some address =>
      simp only [perform, hands, canExecutorSubmit_heap, Option.filter]
      split <;> rfl

theorem executorRunOnce_heap (s : CANOperating W Ch Port) (executor : Nat) :
    (s.perform (.executorRunOnce executor)).1 =
      match s.advances (.executorRunOnce executor) with
      | none => s.heap
      | some address => (s.perform (.operationRunOnce address)).1 := by
  simp only [perform, advances, canExecutorRunOnce]
  cases usable : (s.executors executor).usable with
  | false => simp
  | true =>
      cases turn : (s.executors executor).slots[(s.executors executor).turn]? with
      | none => simp
      | some address =>
          cases run : canOperationRunOnce s.heap.cores (s.heap.op address) with
          | none => simp [run]
          | some r =>
              obtain ⟨cores, operation, result⟩ := r
              cases result <;> simp [run]

/-- What a call leaves of one operation. -/
inductive Acts (s : CANOperating W Ch Port) (call : CANOperatingCall W Ch Port) (address : Nat) :
    CANHeap (SendLog W) Ch Port → Prop where
  | none {h : CANHeap (SendLog W) Ch Port} (unsubmitted : s.hands call ≠ some address)
      (unadvanced : s.advances call ≠ some address) (unprepared : call.prepares ≠ some address)
      (same : h.op address = s.heap.op address) : Acts s call address h
  | submitted (handed : s.hands call = some address) (unadvanced : s.advances call = Option.none)
      (unprepared : call.prepares = Option.none) :
      Acts s call address (s.perform (.operationSubmit address)).1
  | advanced (unsubmitted : s.hands call = Option.none) (turn : s.advances call = some address)
      (unprepared : call.prepares = Option.none) :
      Acts s call address (s.perform (.operationRunOnce address)).1
  | prepared (preparation : CANPreparation) (named : call = .prepare address preparation) :
      Acts s call address (s.heap.write address preparation.operation)

theorem operationSubmit_other (s : CANOperating W Ch Port) {other address : Nat}
    (ne : other ≠ address) :
    (s.perform (.operationSubmit other)).1.op address = s.heap.op address :=
  s.heap.write_other ne.symm _

theorem operationRunOnce_other (s : CANOperating W Ch Port) {other address : Nat}
    (ne : other ≠ address) :
    (s.perform (.operationRunOnce other)).1.op address = s.heap.op address := by
  simp only [perform]
  split
  · rfl
  · exact CANHeap.write_other _ ne.symm _

theorem perform_acts (s : CANOperating W Ch Port) (call : CANOperatingCall W Ch Port)
    (address : Nat) : s.Acts call address (s.perform call).1 := by
  cases call with
  | operationSubmit other =>
      by_cases eq : other = address
      · subst eq
        exact .submitted rfl rfl rfl
      · exact .none (by simpa [hands]) (by simp [advances]) (by simp [CANOperatingCall.prepares])
          (s.operationSubmit_other eq)
  | operationRunOnce other =>
      by_cases eq : other = address
      · subst eq
        exact .advanced rfl rfl rfl
      · exact .none (by simp [hands]) (by simpa [advances]) (by simp [CANOperatingCall.prepares])
          (s.operationRunOnce_other eq)
  | executorSubmit executor operation =>
      rw [executorSubmit_heap]
      cases handed : s.hands (.executorSubmit executor operation) with
      | none =>
          exact .none (by simp [handed]) (by simp [advances]) (by simp [CANOperatingCall.prepares])
            rfl
      | some other =>
          by_cases eq : other = address
          · subst eq
            exact .submitted handed rfl rfl
          · exact .none (by simpa [handed]) (by simp [advances])
              (by simp [CANOperatingCall.prepares]) (s.operationSubmit_other eq)
  | executorRunOnce executor =>
      rw [executorRunOnce_heap]
      cases turn : s.advances (.executorRunOnce executor) with
      | none =>
          exact .none (by simp [hands]) (by simp [turn]) (by simp [CANOperatingCall.prepares]) rfl
      | some other =>
          by_cases eq : other = address
          · subst eq
            exact .advanced rfl turn rfl
          · exact .none (by simp [hands]) (by simpa [turn])
              (by simp [CANOperatingCall.prepares]) (s.operationRunOnce_other eq)
  | prepare other preparation =>
      by_cases eq : other = address
      · subst eq
        exact .prepared preparation rfl
      · exact .none (by simp [hands]) (by simp [advances]) (by simpa [CANOperatingCall.prepares])
          (s.heap.write_other (Ne.symm eq) _)
  | useCores cores =>
      exact .none (by simp [hands]) (by simp [advances]) (by simp [CANOperatingCall.prepares]) rfl

/-! ### A completed operation -/

theorem canOperationSubmit_unready (s : CANCores W Ch Port) {operation : CANOperation}
    (unready : operation.state ≠ .ready) :
    canOperationSubmit s operation = ({ operation with resultStatus := .ebusy }, .ebusy) := by
  unfold canOperationSubmit
  rw [if_pos (by simpa using unready)]

theorem canOperationRunOnce_done {operation : CANOperation} (done : operation.state = .completed)
    (s : CANCores W Ch Port) :
    canOperationRunOnce s operation = some (s, operation, .completed) := by
  unfold canOperationRunOnce
  rw [if_pos done]

/-- Running a completed operation changes nothing at all. -/
theorem operationRunOnce_done {s : CANOperating W Ch Port} {target : Nat}
    (done : (s.heap.op target).state = .completed) :
    (s.perform (.operationRunOnce target)).1 = s.heap := by
  simp only [perform, canOperationRunOnce_done done, CANHeap.write, Function.update_eq_self]

/-- A call leaves a completed operation completed, and its result as it was unless the
operation is submitted again. -/
theorem next_done {s : CANOperating W Ch Port} {target : Nat} {call : CANOperatingCall W Ch Port}
    (done : (s.heap.op target).state = .completed) (kept : call.prepares ≠ some target) :
    ((s.next call).heap.op target).state = .completed ∧
      ((s.next call).heap.op target).resultStatus =
        (if s.hands call = some target then .ebusy else (s.heap.op target).resultStatus) ∧
      (s.hands call = some target ∨ s.advances call = some target →
        (s.next call).heap.cores = s.heap.cores) := by
  have acts := s.perform_acts call target
  simp only [next]
  generalize (s.perform call).1 = h at acts ⊢
  cases acts with
  | none unsubmitted unadvanced _ same =>
      rw [same, if_neg unsubmitted]
      exact ⟨done, rfl, fun worked => worked.elim (absurd · unsubmitted) (absurd · unadvanced)⟩
  | submitted handed _ _ =>
      have unready : (s.heap.op target).state ≠ .ready := by simp [done]
      have refused := canOperationSubmit_unready s.heap.cores unready
      simp [perform, refused, handed, done]
  | advanced unsubmitted _ _ =>
      rw [operationRunOnce_done done, if_neg (by simp [unsubmitted])]
      exact ⟨done, rfl, fun _ => rfl⟩
  | prepared preparation named =>
      subst named
      exact absurd rfl kept

/-! ### One driver send for each submission -/

theorem canOperationSubmit_refused {s : CANCores W Ch Port} {operation : CANOperation}
    (refused : (canOperationSubmit s operation).2 ≠ .ok) :
    (canOperationSubmit s operation).1.state = operation.state := by
  revert refused
  unfold canOperationSubmit
  split
  · exact fun _ => rfl
  split
  · exact fun _ => rfl
  split
  · exact fun _ => rfl
  intro refused
  by_cases unfit : canOperationFiniteTimeoutEnabled operation && !canOperationHasRuntime s operation
  · exact congrArg (fun r : CANOperation × CANStatus => r.1.state) (if_pos unfit)
  · exact absurd (congrArg Prod.snd (if_neg unfit)) refused

/-- At most one send has been answered since the last accepted submission, and none as long
as the operation is pending. -/
structure Unsent (s : CANOperating W Ch Port) : Prop where
  logs : s.heap.cores.Logs
  once : ∀ address, s.sent address ≤ 1
  waiting : ∀ address, (s.heap.op address).state = .pending → s.sent address = 0

theorem operation_unpending (preparation : CANPreparation) :
    preparation.operation.state ≠ .pending := by
  cases preparation <;> exact nofun

/-- The cores stay on drivers that keep the record. -/
theorem perform_logs {s : CANOperating W Ch Port} (logs : s.heap.cores.Logs)
    (call : CANOperatingCall W Ch Port) : (s.perform call).1.cores.Logs := by
  have ran (address : Nat) : (s.perform (.operationRunOnce address)).1.cores.Logs := by
    simp only [perform]
    split
    · exact logs
    · rename_i run
      cases (canOperationRunOnce_noted logs run).1 with
      | silent same => exact logs.congr same.links
      | sent links _ _ => exact logs.congr links
  cases call with
  | operationSubmit address => exact logs
  | operationRunOnce address => exact ran address
  | executorSubmit executor operation =>
      rw [executorSubmit_heap]
      split
      · exact logs
      · exact logs
  | executorRunOnce executor =>
      rw [executorRunOnce_heap]
      split
      · exact logs
      · exact ran _
  | prepare address preparation => exact logs
  | useCores cores => exact fun address => ⟨cores.core address, rfl⟩

/-- Running a pending operation has at most one frame accepted, and completes it then. Running
another has none accepted. -/
theorem ran_accepts {s : CANOperating W Ch Port} (logs : s.heap.cores.Logs) (address : Nat) :
    let h := (s.perform (.operationRunOnce address)).1
    let accepted := h.cores.world.accepted.length - s.heap.cores.world.accepted.length
    accepted ≤ 1 ∧ (accepted ≠ 0 → (s.heap.op address).state = .pending ∧
      (h.op address).state = .completed) := by
  simp only [perform]
  split
  · simp
  · rename_i cores operation result run
    obtain ⟨noted, quiet⟩ := canOperationRunOnce_noted logs run
    have unsent (same : s.heap.cores.Silent cores) :
        cores.world.accepted.length - s.heap.cores.world.accepted.length = 0 := by
      rw [SendLog.accepted, same.sends]
      exact Nat.sub_self _
    rw [CANHeap.write_cores, CANHeap.write_same]
    dsimp only
    cases noted with
    | silent same => simp [unsent same]
    | @sent links frame status note ends =>
        have grown : cores.world.accepted.length =
            s.heap.cores.world.accepted.length + if status = .ok then 1 else 0 := by
          rw [← SendLog.length_accepted_append _ cores.world.world frame status]
          exact congrArg (fun sends => (SendLog.mk cores.world.world sends).accepted.length) note
        by_cases accepted : status = .ok
        · rw [if_pos accepted] at grown
          refine ⟨by omega, fun some_ => ⟨?_, ends accepted⟩⟩
          by_contra unready
          exact some_ (unsent (quiet unready))
        · rw [if_neg accepted] at grown
          exact ⟨by omega, fun some_ => absurd grown (by omega)⟩

theorem next_unsent {s : CANOperating W Ch Port} (unsent : s.Unsent)
    (call : CANOperatingCall W Ch Port) : (s.next call).Unsent := by
  have each (address : Nat) : (s.next call).sent address ≤ 1 ∧
      (((s.next call).heap.op address).state = .pending → (s.next call).sent address = 0) := by
    have once := unsent.once address
    have waiting := unsent.waiting address
    have acts := s.perform_acts call address
    simp only [next, accepts]
    generalize (s.perform call).1 = h at acts ⊢
    cases acts with
    | none unsubmitted unadvanced _ same =>
        rw [if_neg (fun both => unsubmitted both.1), if_neg (by simp [unsubmitted, unadvanced]),
          same, Nat.add_zero]
        exact ⟨once, waiting⟩
    | submitted handed unadvanced _ =>
        have still : (s.perform (.operationSubmit address)).1.cores = s.heap.cores := rfl
        rw [still, Nat.sub_self, ite_self, Nat.add_zero]
        split
        · exact ⟨Nat.zero_le 1, fun _ => rfl⟩
        · rename_i refused
          refine ⟨once, fun pending => waiting ?_⟩
          rw [← canOperationSubmit_refused fun accepted => refused ⟨handed, accepted⟩]
          simpa [perform] using pending
    | advanced unsubmitted turn _ =>
        obtain ⟨atMost, completes⟩ := ran_accepts unsent.logs address
        rw [if_neg (by simp [unsubmitted]), if_pos (.inr turn)]
        generalize (s.perform (.operationRunOnce address)).1.cores.world.accepted.length -
          s.heap.cores.world.accepted.length = accepted at atMost completes ⊢
        by_cases none : accepted = 0
        · subst none
          refine ⟨once, fun pending => waiting ?_⟩
          simp only [perform] at pending
          split at pending
          · exact pending
          · rename_i run
            rw [CANHeap.write_same] at pending
            rcases canOperationRunOnce_state run with same | completed
            · exact same.symm.trans pending
            · exact absurd (completed.symm.trans pending) (by simp)
        · obtain ⟨pending, done⟩ := completes none
          rw [waiting pending, Nat.zero_add]
          exact ⟨atMost, fun still => absurd (done.symm.trans still) (by simp)⟩
    | prepared preparation named =>
        subst named
        simp only [hands, advances, reduceCtorEq, false_and, or_self, if_false, Nat.add_zero,
          CANHeap.write_same]
        exact ⟨once, fun pending => absurd pending (operation_unpending preparation)⟩
  exact ⟨perform_logs unsent.logs call, fun address => (each address).1,
    fun address => (each address).2⟩

/-! ### Runs -/

theorem final_iff {s : CANOperating W Ch Port} {target : Nat} {result : CANStatus}
    (done : (s.heap.op target).state = .completed)
    (kept : (s.heap.op target).resultStatus = result) {call : CANOperatingCall W Ch Port}
    (spared : call.prepares ≠ some target) :
    s.Final target result call ↔ s.Spares target result call := by
  obtain ⟨done', result', silent⟩ := next_done done spared
  constructor
  · intro final handed
    have same := final.kept
    rw [canOperationGetResult, result', if_pos handed] at same
    exact same.symm
  · intro spares
    refine ⟨?_, by simp [canOperationIsDone, done'], silent⟩
    rw [canOperationGetResult, result']
    split
    · rename_i handed
      exact (spares handed).symm
    · exact kept

/-- In every run at most one driver send is answered with `CAN_STATUS_OK` for each accepted
submission. And once an operation is done, it stays done with the same result, and is
not worked on any more, through every further run that does not prepare it anew, if and
only if no call of that run submits it again (or it ended with `CAN_STATUS_EBUSY`). -/
theorem completion_final_iff (heap : CANHeap W Ch Port) (executors : Nat → CANExecutor)
    (before after : List (CANOperatingCall W Ch Port)) (target : Nat) :
    let s := Runs.run next (begin heap executors) before
    let result := canOperationGetResult (s.heap.op target)
    s.sent target ≤ 1 ∧
      (canOperationIsDone (s.heap.op target) → (∀ call ∈ after, call.prepares ≠ some target) →
        ((∀ p ∈ Runs.steps next s after, p.1.Final target result p.2) ↔
          ∀ p ∈ Runs.steps next s after, p.1.Spares target result p.2)) := by
  intro s result
  constructor
  · have fresh : (begin heap executors).Unsent :=
      ⟨fun address => ⟨heap.cores.core address, rfl⟩, fun _ => Nat.zero_le 1, fun _ _ => rfl⟩
    exact (Runs.run_invariant Unsent (fun _ call unsent => next_unsent unsent call) fresh
      before).once target
  · intro done spared
    have completed : (s.heap.op target).state = .completed := by
      simpa [canOperationIsDone] using done
    refine Runs.forall_steps_iff_among (P := fun t call => t.Final target result call)
      (Q := fun t call => t.Spares target result call)
      (fun t : CANOperating W Ch Port => (t.heap.op target).state = .completed ∧
        (t.heap.op target).resultStatus = result)
      (fun call => call.prepares ≠ some target) ?_ ?_ ⟨completed, rfl⟩ after spared
    · rintro t call ⟨done, kept⟩ unprepared spares
      obtain ⟨done', result', -⟩ := next_done done unprepared
      refine ⟨done', ?_⟩
      rw [result']
      split
      · rename_i handed
        exact (spares handed).symm
      · exact kept
    · rintro t call ⟨done, kept⟩ unprepared
      exact final_iff done kept unprepared

/-- A receive that ran once, on a bus without frames, and completed. -/
def receivedNothing : List (CANOperatingCall Unit Unit Unit) :=
  [.prepare 0 (.receive (some 0) (some idleFrame) 0), .operationSubmit 0, .operationRunOnce 0]

/-- It stays done, and the same, however often it runs again. -/
theorem completion_final_rerun :
    let s := Runs.run next (begin busyHeap fun _ => canExecutorInit true 4) receivedNothing
    ∀ p ∈ Runs.steps next s [.operationRunOnce 0, .operationRunOnce 0, .executorRunOnce 0],
      p.1.Final 0 (canOperationGetResult (s.heap.op 0)) p.2 := by
  refine ((completion_final_iff busyHeap (fun _ => canExecutorInit true 4) receivedNothing
    [.operationRunOnce 0, .operationRunOnce 0, .executorRunOnce 0] 0).2 (by decide) ?_).mpr ?_
  · simp [CANOperatingCall.prepares]
  · simp [Runs.steps, Spares, hands]

/-- But submitting it again, at its executor or by itself, is refused and overwrites the
result it completed with. -/
theorem completed_result_overwritten :
    let s := Runs.run next (begin busyHeap fun _ => canExecutorInit true 4) receivedNothing
    canOperationIsDone (s.heap.op 0) ∧ canOperationGetResult (s.heap.op 0) = .enodata ∧
      canOperationGetResult ((s.next (.operationSubmit 0)).heap.op 0) = .ebusy ∧
      canOperationGetResult ((s.next (.executorSubmit 0 (some 0))).heap.op 0) = .ebusy ∧
      ¬ s.Final 0 .enodata (.operationSubmit 0) := by
  refine ⟨by decide, by decide, by decide, by decide, ?_⟩
  intro final
  exact absurd final.kept (by decide)

end CANOperating

end SmartBusAccess.Can
