import SmartBusAccess.Semantics.Runs
import SmartBusAccess.Can.Executor

/-!
A submission that is rejected, and the operations in flight.

`CANExecutorSubmit` looks for the operation among its slots before it touches it.
The submit helpers of the context prepare the operation first, and preparing one
that the executor holds takes it out of its pending state. So a rejected
submission leaves what is in flight alone exactly when it is not a helper naming
a held operation (`rejected_submit_atomic_iff`).
-/

namespace SmartBusAccess.Can

/-- An executor, a context in front of it, and the memory they point into. -/
structure CANSession (W Ch Port : Type) where
  heap : CANHeap W Ch Port
  executor : CANExecutor
  context : CANContext

/-- The five ways to submit. -/
inductive SubmitCall where
  | executor (operation : Option Nat)
  | context (operation : Option Nat)
  | send (operation : Option Nat) (frame : Option CANFrame) (timeoutMs : UInt32)
  | receive (operation : Option Nat) (frame : Option CANFrame) (timeoutMs : UInt32)
  | poll (operation : Option Nat) (interestMask timeoutMs : UInt32) (readyMask : Option UInt32)

variable {W Ch Port : Type}

namespace CANSession

def submit (s : CANSession W Ch Port) (call : SubmitCall) : CANSession W Ch Port × CANStatus :=
  let (executor, heap, status) :=
    match call with
    | .executor operation => canExecutorSubmit s.executor s.heap operation
    | .context operation => canContextSubmit s.context s.executor s.heap operation
    | .send operation frame timeoutMs =>
        canContextSubmitSend s.context s.executor s.heap operation frame timeoutMs
    | .receive operation frame timeoutMs =>
        canContextSubmitReceive s.context s.executor s.heap operation frame timeoutMs
    | .poll operation interestMask timeoutMs readyMask =>
        canContextSubmitPoll s.context s.executor s.heap operation interestMask timeoutMs readyMask
  ({ s with executor := executor, heap := heap }, status)

/-- What can happen to a session. Besides submitting and running, the callers
rebind the context, use the cores in any way and write to any operation; only, an
operation the executor holds becomes ready again by no direct write. -/
inductive Event (W Ch Port : Type) where
  | submit (call : SubmitCall)
  | runOnce
  | runUntilIdle (maxSteps : Nat)
  | bind (context : CANContext)
  | useCores (cores : CANCores W Ch Port)
  | write (address : Nat) (operation : CANOperation)

/-- A step that would fault leaves the session where it is. -/
def next (s : CANSession W Ch Port) : Event W Ch Port → CANSession W Ch Port
  | .submit call => (s.submit call).1
  | .runOnce =>
      match canExecutorRunOnce s.executor s.heap with
      | none => s
      | some (executor, heap, _) => { s with executor := executor, heap := heap }
  | .runUntilIdle maxSteps =>
      match canExecutorRunUntilIdle s.executor s.heap maxSteps with
      | none => s
      | some (executor, heap, _) => { s with executor := executor, heap := heap }
  | .bind context => { s with context := context }
  | .useCores cores => { s with heap := { s.heap with cores := cores } }
  | .write address operation =>
      if address ∈ s.executor.slots ∧ operation.state = .ready then s
      else { s with heap := s.heap.write address operation }

/-- Any memory, with a fresh executor over it. -/
def init (heap : CANHeap W Ch Port) (hasSlots : Bool) (capacity : Nat) : CANSession W Ch Port :=
  ⟨heap, canExecutorInit hasSlots capacity, canContextInit⟩

end CANSession

/-! ### What is in flight -/

/-- What the next steps of an executor report, with the operations it held after each. -/
def CANExecutor.future (executor : CANExecutor) (h : CANHeap W Ch Port) :
    Nat → List (CANExecutorRunOnceResult × List CANOperation)
  | 0 => []
  | steps + 1 =>
      match canExecutorRunOnce executor h with
      | none => []
      | some (executor', h', result) =>
          (result, executor.slots.map h'.op) :: future executor' h' steps

/-- The executor and the operations it holds are as they were, and run as they
would have. -/
structure CANSession.Unaffected (s s' : CANSession W Ch Port) : Prop where
  executor : s'.executor = s.executor
  held : ∀ address ∈ s.executor.slots, s'.heap.op address = s.heap.op address
  future : ∀ steps, s'.executor.future s'.heap steps = s.executor.future s.heap steps

/-- A step sees the cores and the held operations, nothing else. -/
theorem canExecutorRunOnce_agree {executor : CANExecutor} {h h' : CANHeap W Ch Port}
    (agree : h.Agree executor.slots h') :
    canExecutorRunOnce executor h' = none ∧ canExecutorRunOnce executor h = none ∨
      ∃ executor' t t' result,
        canExecutorRunOnce executor h' = some (executor', t', result) ∧
        canExecutorRunOnce executor h = some (executor', t, result) ∧
        t.Agree executor.slots t' ∧ executor'.slots ⊆ executor.slots := by
  unfold canExecutorRunOnce
  cases usable : executor.usable with
  | false => exact .inr ⟨executor, h, h', .error, rfl, rfl, agree, List.Subset.refl _⟩
  | true =>
      cases turn : executor.slots[executor.turn]? with
      | none => exact .inr ⟨executor, h, h', .idle, rfl, rfl, agree, List.Subset.refl _⟩
      | some address =>
          have held : address ∈ executor.slots := List.mem_of_getElem? turn
          simp only [agree.cores, agree.op address held]
          cases run : canOperationRunOnce h.cores (h.op address) with
          | none => exact .inl ⟨rfl, rfl⟩
          | some r =>
              obtain ⟨cores, operation, ended⟩ := r
              have after : CANHeap.Agree executor.slots
                  ({ h with cores := cores }.write address operation)
                  ({ h' with cores := cores }.write address operation) := by
                refine ⟨rfl, ?_⟩
                intro other mem
                by_cases eq : other = address
                · simp [eq]
                · simp [CANHeap.write, eq, agree.op other mem]
              have fewer := (canExecutorRemoveAt_sublist executor executor.turn).subset
              cases ended with
              | completed => exact .inr ⟨_, _, _, _, rfl, rfl, after, fewer⟩
              | pending => exact .inr ⟨_, _, _, _, rfl, rfl, after, List.Subset.refl _⟩
              | error => exact .inr ⟨_, _, _, _, rfl, rfl, after, fewer⟩

theorem CANHeap.Agree.mono {slots fewer : List Nat} {h h' : CANHeap W Ch Port}
    (agree : h.Agree slots h') (sub : fewer ⊆ slots) : h.Agree fewer h' :=
  ⟨agree.cores, fun address held => agree.op address (sub held)⟩

theorem CANExecutor.future_agree {executor : CANExecutor} {h h' : CANHeap W Ch Port}
    (agree : h.Agree executor.slots h') (steps : Nat) :
    executor.future h' steps = executor.future h steps := by
  induction steps generalizing executor h h' with
  | zero => rfl
  | succ steps ih =>
      rcases canExecutorRunOnce_agree agree with
        ⟨stuck', stuck⟩ | ⟨next, t, t', result, run', run, after, sub⟩
      · simp only [CANExecutor.future, stuck', stuck]
      · have same : executor.slots.map t'.op = executor.slots.map t.op :=
          List.map_congr_left after.op
        simp only [CANExecutor.future, run', run, same, ih (after.mono sub)]

theorem CANSession.unaffected_of_agree {s s' : CANSession W Ch Port}
    (executor : s'.executor = s.executor) (agree : s.heap.Agree s.executor.slots s'.heap) :
    s.Unaffected s' where
  executor := executor
  held := agree.op
  future steps := by
    rw [executor]
    exact CANExecutor.future_agree agree steps

/-! ### Rejected submissions -/

/-- A helper that names a held operation leaves it prepared, and is rejected. -/
theorem CANContext.submitPrepared_held {executor : CANExecutor} {address : Nat}
    (held : address ∈ executor.slots) (context : CANContext) (h : CANHeap W Ch Port)
    (prepared : CANOperation) :
    ∃ status, status ≠ CANStatus.ok ∧
      context.submitPrepared executor h (some address) prepared =
        (executor, h.write address prepared, status) := by
  simp only [CANContext.submitPrepared, canContextSubmit]
  split
  · exact ⟨.einval, by simp, rfl⟩
  · exact canExecutorSubmit_held held _

/-- Nothing the executor holds is ready: submitting took it out of that state. -/
def CANExecutor.InFlight (executor : CANExecutor) (h : CANHeap W Ch Port) : Prop :=
  ∀ address ∈ executor.slots, (h.op address).state ≠ .ready

/-- The operation a helper prepares. -/
def SubmitCall.prepares : SubmitCall → Option Nat
  | .executor _ | .context _ => none
  | .send operation _ _ | .receive operation _ _ | .poll operation _ _ _ => operation

namespace CANSession

/-- A rejected submission changes nothing in flight. -/
def RejectsCleanly (s : CANSession W Ch Port) : Event W Ch Port → Prop
  | .submit call => (s.submit call).2 ≠ .ok → s.Unaffected (s.submit call).1
  | _ => True

/-- No helper names an operation the executor holds. -/
def SparesHeld (s : CANSession W Ch Port) : Event W Ch Port → Prop
  | .submit call => ∀ address, call.prepares = some address → address ∉ s.executor.slots
  | _ => True

theorem submit_rejected {s : CANSession W Ch Port} {call : SubmitCall}
    (spares : ∀ address, call.prepares = some address → address ∉ s.executor.slots)
    (bad : (s.submit call).2 ≠ .ok) : s.Unaffected (s.submit call).1 := by
  have unaffected {executor : CANExecutor} {heap : CANHeap W Ch Port}
      (ends : executor = s.executor ∧ s.heap.Agree s.executor.slots heap) :
      s.Unaffected { s with executor := executor, heap := heap } :=
    unaffected_of_agree ends.1 ends.2
  cases call with
  | executor operation => exact unaffected (canExecutorSubmit_rejected bad)
  | context operation => exact unaffected (canContextSubmit_rejected bad)
  | send operation frame timeoutMs =>
      exact unaffected (CANContext.submitPrepared_rejected spares bad)
  | receive operation frame timeoutMs =>
      exact unaffected (CANContext.submitPrepared_rejected spares bad)
  | poll operation interestMask timeoutMs readyMask =>
      exact unaffected (CANContext.submitPrepared_rejected spares bad)

/-- What a helper does to a held operation: it is ready again, and rejected. -/
theorem submit_held {s : CANSession W Ch Port} {call : SubmitCall} {address : Nat}
    (names : call.prepares = some address) (held : address ∈ s.executor.slots) :
    (s.submit call).2 ≠ .ok ∧ ((s.submit call).1.heap.op address).state = .ready := by
  have spoiled (prepared : CANOperation) (ready : prepared.state = .ready) :
      (s.context.submitPrepared s.executor s.heap (some address) prepared).2.2 ≠ .ok ∧
        ((s.context.submitPrepared s.executor s.heap (some address) prepared).2.1.op
          address).state = .ready := by
    obtain ⟨status, bad, result⟩ :=
      CANContext.submitPrepared_held held s.context s.heap prepared
    rw [result]
    exact ⟨bad, by simpa using ready⟩
  cases call with
  | executor operation => simp [SubmitCall.prepares] at names
  | context operation => simp [SubmitCall.prepares] at names
  | send operation frame timeoutMs =>
      obtain rfl : operation = some address := names
      exact spoiled _ rfl
  | receive operation frame timeoutMs =>
      obtain rfl : operation = some address := names
      exact spoiled _ rfl
  | poll operation interestMask timeoutMs readyMask =>
      obtain rfl : operation = some address := names
      exact spoiled _ rfl

theorem rejectsCleanly_iff {s : CANSession W Ch Port} (inFlight : s.executor.InFlight s.heap)
    (e : Event W Ch Port) : s.RejectsCleanly e ↔ s.SparesHeld e := by
  cases e with
  | submit call =>
      constructor
      · intro clean address names held
        obtain ⟨bad, ready⟩ := submit_held names held
        have same := (clean bad).held address held
        exact inFlight address held (same ▸ ready)
      · intro spares bad
        exact submit_rejected spares bad
  | _ => exact Iff.rfl

end CANSession

/-! ### Runs -/

theorem CANExecutor.InFlight.agree {executor : CANExecutor} {h h' : CANHeap W Ch Port}
    (inFlight : executor.InFlight h) (agree : h.Agree executor.slots h') :
    executor.InFlight h' := by
  intro address held
  rw [agree.op address held]
  exact inFlight address held

theorem canExecutorSubmit_inFlight {executor : CANExecutor} {h : CANHeap W Ch Port}
    (inFlight : executor.InFlight h) (operation : Option Nat) :
    (canExecutorSubmit executor h operation).1.InFlight
      (canExecutorSubmit executor h operation).2.1 := by
  have ended := canExecutorSubmit_submitted executor h operation
  generalize canExecutorSubmit executor h operation = r at ended ⊢
  cases ended with
  | refused _ => exact inFlight
  | rejected free _ => exact inFlight.agree (CANHeap.agree_write free h _)
  | accepted _ _ _ _ =>
      refine CANHeap.forall_write_append (P := fun operation => operation.state ≠ .ready) inFlight ?_
      simp [CANOperation.submitted]

theorem canContextSubmit_inFlight {executor : CANExecutor} {h : CANHeap W Ch Port}
    (inFlight : executor.InFlight h) (context : CANContext) (operation : Option Nat) :
    (canContextSubmit context executor h operation).1.InFlight
      (canContextSubmit context executor h operation).2.1 := by
  unfold canContextSubmit
  split
  · exact inFlight
  · exact canExecutorSubmit_inFlight inFlight operation

theorem CANContext.submitPrepared_inFlight {executor : CANExecutor} {h : CANHeap W Ch Port}
    {operation : Option Nat} (inFlight : executor.InFlight h)
    (spares : ∀ address, operation = some address → address ∉ executor.slots)
    (context : CANContext) (prepared : CANOperation) :
    (context.submitPrepared executor h operation prepared).1.InFlight
      (context.submitPrepared executor h operation prepared).2.1 := by
  cases operation with
  | none => exact inFlight
  | some address =>
      have free : address ∉ executor.slots := spares address rfl
      exact canContextSubmit_inFlight (inFlight.agree (CANHeap.agree_write free h prepared)) _ _

/-- The step of one operation keeps every operation from being ready. -/
theorem CANHeap.write_run_inFlight {executor : CANExecutor} {h : CANHeap W Ch Port} {address : Nat}
    {cores : CANCores W Ch Port} {operation : CANOperation} {result : CANOperationRunResult}
    (inFlight : executor.InFlight h) (held : address ∈ executor.slots)
    (run : canOperationRunOnce h.cores (h.op address) = some (cores, operation, result)) :
    executor.InFlight ({ h with cores := cores }.write address operation) := by
  intro other mem
  by_cases eq : other = address
  · subst eq
    rw [CANHeap.write_same]
    rcases canOperationRunOnce_state run with same | completed
    · exact fun ready => inFlight other held (same.symm.trans ready)
    · have done : operation.state = .completed := completed
      simp [done]
  · rw [CANHeap.write_other _ eq]
    exact inFlight other mem

theorem canExecutorRunOnce_inFlight {executor : CANExecutor} {h : CANHeap W Ch Port}
    {r : CANExecutor × CANHeap W Ch Port × CANExecutorRunOnceResult}
    (inFlight : executor.InFlight h) (run : canExecutorRunOnce executor h = some r) :
    r.1.InFlight r.2.1 := by
  cases canExecutorRunOnce_stepped run with
  | unusable _ => exact inFlight
  | idle _ => exact inFlight
  | removed turn step _ =>
      have after := CANHeap.write_run_inFlight inFlight (List.mem_of_getElem? turn) step
      exact fun address held =>
        after address ((canExecutorRemoveAt_sublist executor executor.turn).subset held)
  | kept turn step => exact CANHeap.write_run_inFlight inFlight (List.mem_of_getElem? turn) step

theorem canExecutorDrain_inFlight {steps completed : Nat} {executor : CANExecutor}
    {h : CANHeap W Ch Port} {r : CANExecutor × CANHeap W Ch Port × CANExecutorReport}
    (inFlight : executor.InFlight h) (drain : canExecutorDrain steps completed executor h = some r) :
    r.1.InFlight r.2.1 := by
  induction steps generalizing completed executor h with
  | zero =>
      obtain rfl := Option.some.inj drain
      exact inFlight
  | succ steps ih =>
      unfold canExecutorDrain at drain
      split at drain
      · obtain rfl := Option.some.inj drain
        exact inFlight
      cases run : canExecutorRunOnce executor h with
      | none => simp [run] at drain
      | some next =>
          have after := canExecutorRunOnce_inFlight inFlight run
          obtain ⟨executor', h', result⟩ := next
          simp only [run] at drain
          cases result with
          | completed => exact ih after drain
          | pending => exact ih after drain
          | idle =>
              obtain rfl := Option.some.inj drain
              exact after
          | error =>
              obtain rfl := Option.some.inj drain
              exact after

theorem canExecutorRunUntilIdle_inFlight {executor : CANExecutor} {h : CANHeap W Ch Port}
    {maxSteps : Nat} {r : CANExecutor × CANHeap W Ch Port × CANExecutorReport}
    (inFlight : executor.InFlight h)
    (run : canExecutorRunUntilIdle executor h maxSteps = some r) : r.1.InFlight r.2.1 := by
  unfold canExecutorRunUntilIdle at run
  split at run
  · obtain rfl := Option.some.inj run
    exact inFlight
  · exact canExecutorDrain_inFlight inFlight run

namespace CANSession

theorem next_inFlight {s : CANSession W Ch Port} (inFlight : s.executor.InFlight s.heap)
    (e : Event W Ch Port) (spares : s.SparesHeld e) :
    (s.next e).executor.InFlight (s.next e).heap := by
  cases e with
  | submit call =>
      cases call with
      | executor operation => exact canExecutorSubmit_inFlight inFlight operation
      | context operation => exact canContextSubmit_inFlight inFlight s.context operation
      | send operation frame timeoutMs =>
          exact CANContext.submitPrepared_inFlight inFlight spares s.context _
      | receive operation frame timeoutMs =>
          exact CANContext.submitPrepared_inFlight inFlight spares s.context _
      | poll operation interestMask timeoutMs readyMask =>
          exact CANContext.submitPrepared_inFlight inFlight spares s.context _
  | runOnce =>
      simp only [next]
      split
      · exact inFlight
      · rename_i run
        exact canExecutorRunOnce_inFlight inFlight run
  | runUntilIdle maxSteps =>
      simp only [next]
      split
      · exact inFlight
      · rename_i run
        exact canExecutorRunUntilIdle_inFlight inFlight run
  | bind context => exact inFlight
  | useCores cores => exact inFlight
  | write address operation =>
      simp only [next]
      split
      · exact inFlight
      · rename_i allowed
        intro other held
        by_cases eq : other = address
        · subst eq
          simpa using fun ready => allowed ⟨held, ready⟩
        · simpa [CANHeap.write, eq] using inFlight other held

/-- Every rejected submission of a run changes nothing in flight, if and only if no
submit helper ever names an operation that the executor holds then. -/
theorem rejected_submit_atomic_iff (heap : CANHeap W Ch Port) (hasSlots : Bool) (capacity : Nat)
    (events : List (Event W Ch Port)) :
    (∀ p ∈ Runs.steps next (init heap hasSlots capacity) events, p.1.RejectsCleanly p.2) ↔
      ∀ p ∈ Runs.steps next (init heap hasSlots capacity) events, p.1.SparesHeld p.2 := by
  have fresh : (init heap hasSlots capacity).executor.InFlight
      (init heap hasSlots capacity).heap := by
    simp [CANExecutor.InFlight, init, canExecutorInit]
  exact Runs.forall_steps_iff_while
    (fun s : CANSession W Ch Port => s.executor.InFlight s.heap)
    (fun s e inFlight spares => next_inFlight inFlight e spares)
    (fun s e inFlight => rejectsCleanly_iff inFlight e) fresh events

/-- The second of two submissions of one operation, through the context: it is
rejected, the operation is no longer pending, and the executor's next step fails
on it instead of trying the send again. -/
theorem resubmit_spoils_pending :
    let resubmit : SubmitCall := .send (some 0) (some idleFrame) canTimeoutInfinite
    let s := Runs.run next (init busyHeap true 4)
      [.bind (canContextBind (some 0) true), .submit resubmit]
    ¬ s.RejectsCleanly (.submit resubmit) ∧ (s.submit resubmit).2 = .ebusy ∧
      (s.heap.op 0).state = .pending ∧ ((s.submit resubmit).1.heap.op 0).state = .ready ∧
      (s.executor.future s.heap 1).map Prod.fst = [.pending] ∧
      ((s.submit resubmit).1.executor.future (s.submit resubmit).1.heap 1).map Prod.fst =
        [.error] := by
  refine ⟨fun clean => ?_, by decide +kernel, by decide +kernel, by decide +kernel,
    by decide +kernel, by decide +kernel⟩
  have unaffected := clean (by decide +kernel)
  have same := congrArg CANOperation.state (unaffected.held 0 (by decide +kernel))
  exact absurd same (by decide +kernel)

end CANSession

end SmartBusAccess.Can
