import SmartBusAccess.Semantics.Runs
import SmartBusAccess.Can.Executor

/-!
The service (`can_service.c`): a pool of operations in front of a context.

A pool entry is in use from the submission that acquires it until it is released;
the executor holds it from that submission until it completes. Releasing does not
take an entry out of the executor, so the two records agree as long as nothing is
released that the executor still holds (`service_agrees_iff`).

The service and its out pointers are there; a null one is refused at once.
-/

namespace SmartBusAccess.Can

/-- The operations are `operations`, `operations + 1` and so on. -/
structure CANServicePool where
  operations : Nat
  inUse : List Bool
deriving DecidableEq, Repr

/-- `pool` is `none` when one of its two arrays is missing. -/
structure CANService where
  context : Option CANContext
  pool : Option CANServicePool
deriving DecidableEq, Repr

variable {W Ch Port : Type}

/-- The pool of a fresh service. -/
def canServicePoolInit (operations capacity : Nat) : CANServicePool :=
  ⟨operations, List.replicate capacity false⟩

def canServiceFindIndex (pool : CANServicePool) (operation : Nat) : Option Nat :=
  (List.range pool.inUse.length).find? fun i => pool.operations + i == operation

def canServiceAcquireOperation (pool : CANServicePool) (h : CANHeap W Ch Port) :
    Option (CANServicePool × CANHeap W Ch Port × Nat) :=
  (pool.inUse.findIdx? fun inUse => !inUse).map fun i =>
    ({ pool with inUse := pool.inUse.set i true },
      h.write (pool.operations + i) canOperationInit, pool.operations + i)

def canServiceReleaseOperation (pool : CANServicePool) (h : CANHeap W Ch Port) (operation : Nat) :
    CANServicePool × CANHeap W Ch Port :=
  match canServiceFindIndex pool operation with
  | none => (pool, h)
  | some i => ({ pool with inUse := pool.inUse.set i false }, h.write operation canOperationInit)

/-! ### The system -/

/-- A service with everything behind it. -/
structure CANServed (W Ch Port : Type) where
  service : CANService
  executor : CANExecutor
  heap : CANHeap W Ch Port

/-- The arguments of the three submissions. -/
inductive ServiceRequest where
  | send (frame : Option CANFrame) (timeoutMs : UInt32)
  | receive (frame : Option CANFrame) (timeoutMs : UInt32)
  | poll (interestMask timeoutMs : UInt32) (readyMask : Option UInt32)

/-- The operation that the context prepares for a request. -/
def ServiceRequest.prepared (core : Option Nat) : ServiceRequest → CANOperation
  | .send frame timeoutMs => canOperationPrepareSend core frame timeoutMs
  | .receive frame timeoutMs => canOperationPrepareReceive core frame timeoutMs
  | .poll interestMask timeoutMs readyMask =>
      canOperationPreparePoll core interestMask timeoutMs readyMask

/-- A submit helper of the context, with its own arguments filled in. -/
abbrev SubmitHelper (W Ch Port : Type) :=
  CANContext → CANExecutor → CANHeap W Ch Port → Option Nat →
    CANExecutor × CANHeap W Ch Port × CANStatus

namespace CANServed

/-- What the three submissions of a service share: acquire an entry, submit it
through the context, and release it again if that is refused. The address is what
`*out_operation` gets. -/
def submitWith (s : CANServed W Ch Port) (helper : SubmitHelper W Ch Port) :
    CANServed W Ch Port × CANStatus × Option Nat :=
  match s.service.context, s.service.pool with
  | none, _ => (s, .einval, none)
  | some _, none => (s, .ebusy, none)
  | some context, some pool =>
      match canServiceAcquireOperation pool s.heap with
      | none => (s, .ebusy, none)
      | some (pool, heap, operation) =>
          let (executor, heap, status) := helper context s.executor heap (some operation)
          if status != .ok then
            let (pool, heap) := canServiceReleaseOperation pool heap operation
            (⟨{ s.service with pool := some pool }, executor, heap⟩, status, none)
          else (⟨{ s.service with pool := some pool }, executor, heap⟩, .ok, some operation)

def canServiceSubmitSend (s : CANServed W Ch Port) (frame : Option CANFrame) (timeoutMs : UInt32) :
    CANServed W Ch Port × CANStatus × Option Nat :=
  s.submitWith fun context executor h operation =>
    canContextSubmitSend context executor h operation frame timeoutMs

def canServiceSubmitReceive (s : CANServed W Ch Port) (frame : Option CANFrame)
    (timeoutMs : UInt32) : CANServed W Ch Port × CANStatus × Option Nat :=
  s.submitWith fun context executor h operation =>
    canContextSubmitReceive context executor h operation frame timeoutMs

def canServiceSubmitPoll (s : CANServed W Ch Port) (interestMask timeoutMs : UInt32)
    (readyMask : Option UInt32) : CANServed W Ch Port × CANStatus × Option Nat :=
  s.submitWith fun context executor h operation =>
    canContextSubmitPoll context executor h operation interestMask timeoutMs readyMask

def submit (s : CANServed W Ch Port) :
    ServiceRequest → CANServed W Ch Port × CANStatus × Option Nat
  | .send frame timeoutMs => s.canServiceSubmitSend frame timeoutMs
  | .receive frame timeoutMs => s.canServiceSubmitReceive frame timeoutMs
  | .poll interestMask timeoutMs readyMask =>
      s.canServiceSubmitPoll interestMask timeoutMs readyMask

def canServiceRelease (s : CANServed W Ch Port) : Option Nat → CANServed W Ch Port
  | none => s
  | some operation =>
      match s.service.pool with
      | none => s
      | some pool =>
          let (pool, heap) := canServiceReleaseOperation pool s.heap operation
          { s with service := { s.service with pool := some pool }, heap := heap }

def canServicePollOne (s : CANServed W Ch Port) :
    Option (CANExecutor × CANHeap W Ch Port × CANExecutorRunOnceResult) :=
  match s.service.context with
  | none => some (s.executor, s.heap, .error)
  | some context => canContextPollOne context s.executor s.heap

def canServicePoll (s : CANServed W Ch Port) (maxSteps : Nat) :
    Option (CANExecutor × CANHeap W Ch Port × CANExecutorReport) :=
  match s.service.context with
  | none => some (s.executor, s.heap, ⟨.einval, none⟩)
  | some context => canContextPoll context s.executor s.heap maxSteps

/-- What can happen to a service: its calls, and the driver moving on by itself. -/
inductive Event (W : Type) where
  | submit (request : ServiceRequest)
  | pollOne
  | poll (maxSteps : Nat)
  | release (operation : Option Nat)
  | world (w : W)

/-- A poll that would fault leaves the service where it is. -/
def next (s : CANServed W Ch Port) : Event W → CANServed W Ch Port
  | .submit request => (s.submit request).1
  | .pollOne =>
      match s.canServicePollOne with
      | none => s
      | some (executor, heap, _) => { s with executor := executor, heap := heap }
  | .poll maxSteps =>
      match s.canServicePoll maxSteps with
      | none => s
      | some (executor, heap, _) => { s with executor := executor, heap := heap }
  | .release operation => s.canServiceRelease operation
  | .world w => { s with heap := { s.heap with cores := { s.heap.cores with world := w } } }

/-- A service with an empty pool and executor, bound as given. -/
def init (heap : CANHeap W Ch Port) (context : Option CANContext) (hasSlots : Bool)
    (slots operations entries : Nat) : CANServed W Ch Port :=
  { service := ⟨context, some (canServicePoolInit operations entries)⟩
    executor := canExecutorInit hasSlots slots, heap := heap }

end CANServed

/-! ### The pool -/

/-- The entry at this address is in the pool and in use. -/
def CANServicePool.Owns (pool : CANServicePool) (address : Nat) : Prop :=
  ∃ i, address = pool.operations + i ∧ pool.inUse[i]? = some true

theorem canServiceFindIndex_some {pool : CANServicePool} {operation i : Nat}
    (found : canServiceFindIndex pool operation = some i) :
    pool.operations + i = operation ∧ i < pool.inUse.length := by
  have here := List.find?_some found
  have mem := List.mem_of_find?_eq_some found
  exact ⟨by simpa using here, List.mem_range.mp mem⟩

theorem canServiceFindIndex_of_lt {pool : CANServicePool} {i : Nat}
    (inside : i < pool.inUse.length) :
    canServiceFindIndex pool (pool.operations + i) = some i := by
  cases found : canServiceFindIndex pool (pool.operations + i) with
  | none =>
      have missing := List.find?_eq_none.mp found i (List.mem_range.mpr inside)
      simp at missing
  | some j =>
      have here := (canServiceFindIndex_some found).1
      rw [Nat.add_left_cancel here]

/-- An acquired entry was free. -/
theorem canServiceAcquireOperation_some {pool pool' : CANServicePool} {h h' : CANHeap W Ch Port}
    {operation : Nat}
    (acquired : canServiceAcquireOperation pool h = some (pool', h', operation)) :
    ∃ i, pool.inUse[i]? = some false ∧ operation = pool.operations + i ∧
      pool' = { pool with inUse := pool.inUse.set i true } ∧
      h' = h.write operation canOperationInit := by
  obtain ⟨i, found, eq⟩ := Option.map_eq_some_iff.mp acquired
  simp only [Prod.mk.injEq] at eq
  obtain ⟨rfl, rfl, rfl⟩ := eq
  obtain ⟨inside, free, -⟩ := List.findIdx?_eq_some_iff_getElem.mp found
  refine ⟨i, ?_, rfl, rfl, rfl⟩
  rw [List.getElem?_eq_getElem inside]
  simpa using free

theorem canServiceAcquireOperation_isSome {pool : CANServicePool} (free : false ∈ pool.inUse)
    (h : CANHeap W Ch Port) : (canServiceAcquireOperation pool h).isSome := by
  unfold canServiceAcquireOperation
  rw [Option.isSome_map, List.findIdx?_isSome]
  exact List.any_eq_true.mpr ⟨false, free, rfl⟩

theorem CANServicePool.Owns.acquire {pool : CANServicePool} {address : Nat}
    (owns : pool.Owns address) (i : Nat) :
    CANServicePool.Owns { pool with inUse := pool.inUse.set i true } address := by
  obtain ⟨j, eq, used⟩ := owns
  refine ⟨j, eq, ?_⟩
  simp only [List.getElem?_set]
  split
  · rename_i same
    subst same
    rw [if_pos (List.getElem?_eq_some_iff.mp used).1]
  · exact used

theorem CANServicePool.owns_acquired {pool : CANServicePool} {i : Nat}
    (free : pool.inUse[i]? = some false) :
    CANServicePool.Owns { pool with inUse := pool.inUse.set i true } (pool.operations + i) := by
  have inside := (List.getElem?_eq_some_iff.mp free).1
  exact ⟨i, rfl, by simp [inside]⟩

theorem CANServicePool.Owns.release {pool : CANServicePool} {address i : Nat}
    (owns : pool.Owns address) (ne : address ≠ pool.operations + i) :
    CANServicePool.Owns { pool with inUse := pool.inUse.set i false } address := by
  obtain ⟨j, rfl, used⟩ := owns
  have other : i ≠ j := fun eq => ne (by rw [eq])
  exact ⟨j, rfl, by simpa [other] using used⟩

theorem CANServicePool.not_owns_released {pool : CANServicePool} {i : Nat} :
    ¬ CANServicePool.Owns { pool with inUse := pool.inUse.set i false } (pool.operations + i) := by
  rintro ⟨j, eq, used⟩
  obtain rfl := Nat.add_left_cancel eq
  simp [List.getElem?_set] at used

/-! ### Agreement -/

/-- The pool and the executor agree: the executor holds distinct live operations,
all of them entries in use. -/
structure CANServicePool.Serves (pool : CANServicePool) (executor : CANExecutor)
    (h : CANHeap W Ch Port) : Prop where
  sound : executor.Sound h
  owned : ∀ address ∈ executor.slots, pool.Owns address

theorem CANServicePool.Serves.progressed {pool : CANServicePool} {executor executor' : CANExecutor}
    {h h' : CANHeap W Ch Port} (serves : pool.Serves executor h)
    (progressed : executor.Progressed h executor' h') : pool.Serves executor' h' where
  sound := progressed.sound
  owned address held := serves.owned address (progressed.fewer.subset held)

/-- A free entry is not in the executor. -/
theorem CANServicePool.Serves.not_mem {pool : CANServicePool} {executor : CANExecutor}
    {h : CANHeap W Ch Port} (serves : pool.Serves executor h) {i : Nat}
    (free : pool.inUse[i]? = some false) : pool.operations + i ∉ executor.slots := by
  intro held
  obtain ⟨j, eq, used⟩ := serves.owned _ held
  obtain rfl := Nat.add_left_cancel eq
  simp [free] at used

theorem CANServicePool.Serves.release {pool : CANServicePool} {executor : CANExecutor}
    {h : CANHeap W Ch Port} (serves : pool.Serves executor h) {operation : Nat}
    (free : operation ∉ executor.slots) :
    (canServiceReleaseOperation pool h operation).1.Serves executor
      (canServiceReleaseOperation pool h operation).2 := by
  unfold canServiceReleaseOperation
  split
  · exact serves
  · rename_i i found
    obtain ⟨rfl, -⟩ := canServiceFindIndex_some found
    refine ⟨serves.sound.agree (CANHeap.agree_write free h _), ?_⟩
    intro address held
    exact (serves.owned address held).release (ne_of_mem_of_not_mem held free)

/-! ### The calls -/

theorem CANContext.submitPrepared_sound {executor : CANExecutor} {h : CANHeap W Ch Port}
    (sound : executor.Sound h) {address : Nat} (free : address ∉ executor.slots)
    (context : CANContext) (prepared : CANOperation) :
    (context.submitPrepared executor h (some address) prepared).1.Sound
        (context.submitPrepared executor h (some address) prepared).2.1 ∧
      (context.submitPrepared executor h (some address) prepared).1.slots ⊆
        executor.slots ++ [address] := by
  have ready := sound.agree (CANHeap.agree_write free h prepared)
  simp only [CANContext.submitPrepared, canContextSubmit]
  split
  · exact ⟨ready, List.subset_append_left _ _⟩
  · refine ⟨canExecutorSubmit_sound ready _, ?_⟩
    have ended := canExecutorSubmit_submitted executor (h.write address prepared) (some address)
    generalize canExecutorSubmit executor (h.write address prepared) (some address) = r at ended ⊢
    cases ended with
    | refused _ => exact List.subset_append_left _ _
    | rejected _ _ => exact List.subset_append_left _ _
    | accepted _ _ _ _ => exact List.Subset.refl _

/-- A free operation, rightly prepared, is accepted when there is a slot for it. -/
theorem CANContext.submitPrepared_ok {context : CANContext} {executor : CANExecutor}
    {h : CANHeap W Ch Port} {address : Nat} {prepared : CANOperation}
    (bound : context.executor) (usable : executor.usable)
    (room : executor.slots.length < executor.capacity) (free : address ∉ executor.slots)
    (submittable : prepared.Submittable h.cores) :
    (context.submitPrepared executor h (some address) prepared).2.2 = .ok := by
  simp only [CANContext.submitPrepared, canContextSubmit]
  rw [if_neg (by simp [bound])]
  unfold canExecutorSubmit
  simp only
  rw [if_neg (by simp [usable]), if_neg (by omega), if_neg (by simpa [canExecutorContains] using free)]
  rw [CANHeap.write_same, CANHeap.write_cores, canOperationSubmit_of_submittable submittable]
  rfl

namespace CANServed

theorem submit_eq (s : CANServed W Ch Port) (request : ServiceRequest) :
    s.submit request = s.submitWith fun context executor h operation =>
      context.submitPrepared executor h operation (request.prepared context.core) := by
  cases request <;> rfl

/-- The service reaches a usable executor. -/
def Bound (s : CANServed W Ch Port) : Prop :=
  s.executor.usable ∧ ∃ context, s.service.context = some context ∧ context.executor

/-- The pool of a service serves its executor. -/
def Served (s : CANServed W Ch Port) : Prop :=
  ∃ pool, s.service.pool = some pool ∧ pool.Serves s.executor s.heap

theorem submitWith_served {s : CANServed W Ch Port} (served : s.Served)
    (prepared : CANContext → CANOperation) :
    (s.submitWith fun context executor h operation =>
      context.submitPrepared executor h operation (prepared context)).1.Served := by
  obtain ⟨pool, there, serves⟩ := served
  unfold submitWith
  cases bound : s.service.context with
  | none => exact ⟨pool, there, serves⟩
  | some context =>
      simp only [there]
      cases acquired : canServiceAcquireOperation pool s.heap with
      | none => exact ⟨pool, there, serves⟩
      | some r =>
          obtain ⟨pool', heap, operation⟩ := r
          obtain ⟨i, unused, rfl, rfl, rfl⟩ := canServiceAcquireOperation_some acquired
          have free := serves.not_mem unused
          have agree := CANHeap.agree_write free s.heap canOperationInit
          obtain ⟨sound, slots⟩ := CANContext.submitPrepared_sound (serves.sound.agree agree) free
            context (prepared context)
          have owned : ∀ address ∈ s.executor.slots ++ [pool.operations + i],
              CANServicePool.Owns { pool with inUse := pool.inUse.set i true } address := by
            intro address held
            rcases List.mem_append.mp held with before | new
            · exact (serves.owned address before).acquire i
            · obtain rfl := List.mem_singleton.mp new
              exact CANServicePool.owns_acquired unused
          simp only
          split
          · rename_i bad
            obtain ⟨same, -⟩ := CANContext.submitPrepared_rejected
              (fun address eq => by obtain rfl := Option.some.inj eq; exact free) (by simpa using bad)
            refine ⟨_, rfl, CANServicePool.Serves.release
              ⟨sound, fun address held => owned address (slots held)⟩ ?_⟩
            rw [same]
            exact free
          · exact ⟨_, rfl, sound, fun address held => owned address (slots held)⟩

theorem submitWith_ok {s : CANServed W Ch Port} (served : s.Served) {context : CANContext}
    {pool : CANServicePool} (bound : s.service.context = some context) (executor : context.executor)
    (usable : s.executor.usable) (there : s.service.pool = some pool) (entry : false ∈ pool.inUse)
    (room : s.executor.slots.length < s.executor.capacity)
    {prepared : CANContext → CANOperation}
    (submittable : (prepared context).Submittable s.heap.cores) :
    (s.submitWith fun context executor h operation =>
      context.submitPrepared executor h operation (prepared context)).2.1 = .ok := by
  obtain ⟨pool', there', serves⟩ := served
  obtain rfl : pool' = pool := Option.some.inj (there'.symm.trans there)
  obtain ⟨⟨taken, heap, operation⟩, acquired⟩ :=
    Option.isSome_iff_exists.mp (canServiceAcquireOperation_isSome entry s.heap)
  obtain ⟨i, unused, rfl, rfl, rfl⟩ := canServiceAcquireOperation_some acquired
  have accepted : (context.submitPrepared s.executor (s.heap.write (pool'.operations + i)
      canOperationInit) (some (pool'.operations + i)) (prepared context)).2.2 = .ok :=
    CANContext.submitPrepared_ok executor usable room (serves.not_mem unused) submittable
  simp only [submitWith, bound, there, acquired]
  rw [if_neg (by simp [accepted])]

theorem canServicePollOne_served {s : CANServed W Ch Port} (served : s.Served) :
    ∃ executor h result, s.canServicePollOne = some (executor, h, result) ∧
      s.executor.Progressed s.heap executor h ∧ (s.Bound → result ≠ .error) := by
  obtain ⟨pool, -, serves⟩ := served
  unfold canServicePollOne
  cases context : s.service.context with
  | none =>
      refine ⟨_, _, _, rfl, serves.sound.progressed, ?_⟩
      intro bound
      obtain ⟨-, context', there, -⟩ := bound
      simp [context] at there
  | some context' =>
      simp only [canContextPollOne]
      split
      · rename_i unbound
        refine ⟨_, _, _, rfl, serves.sound.progressed, ?_⟩
        intro bound
        obtain ⟨-, context'', there, executor⟩ := bound
        obtain rfl := Option.some.inj (context.symm.trans there)
        simp [executor] at unbound
      · obtain ⟨executor, h, result, run, progressed, fine⟩ := canExecutorRunOnce_sound serves.sound
        exact ⟨executor, h, result, run, progressed, fun bound => fine bound.1⟩

theorem canServicePoll_served {s : CANServed W Ch Port} (served : s.Served) (maxSteps : Nat) :
    ∃ executor h report, s.canServicePoll maxSteps = some (executor, h, report) ∧
      s.executor.Progressed s.heap executor h ∧
      (s.Bound → maxSteps ≠ 0 → report.status ≠ .einval) := by
  obtain ⟨pool, -, serves⟩ := served
  unfold canServicePoll
  cases context : s.service.context with
  | none =>
      refine ⟨_, _, _, rfl, serves.sound.progressed, ?_⟩
      intro bound _
      obtain ⟨-, context', there, -⟩ := bound
      simp [context] at there
  | some context' =>
      simp only [canContextPoll]
      split
      · rename_i unbound
        refine ⟨_, _, _, rfl, serves.sound.progressed, ?_⟩
        intro bound _
        obtain ⟨-, context'', there, executor⟩ := bound
        obtain rfl := Option.some.inj (context.symm.trans there)
        simp [executor] at unbound
      · obtain ⟨executor, h, report, run, progressed, fine⟩ :=
          canExecutorRunUntilIdle_sound serves.sound maxSteps
        exact ⟨executor, h, report, run, progressed, fun bound positive => fine bound.1 positive⟩

theorem Served.progressed {s : CANServed W Ch Port} (served : s.Served) {executor : CANExecutor}
    {h : CANHeap W Ch Port} (progressed : s.executor.Progressed s.heap executor h) :
    Served { s with executor := executor, heap := h } := by
  obtain ⟨pool, there, serves⟩ := served
  exact ⟨pool, there, serves.progressed progressed⟩

/-! ### Runs -/

/-- Every slot of the executor points to a pool entry that is in use and pending. -/
def Agrees (s : CANServed W Ch Port) : Prop :=
  ∀ address ∈ s.executor.slots, ∃ pool, s.service.pool = some pool ∧ pool.Owns address ∧
    (s.heap.op address).state = .pending

theorem Served.agrees {s : CANServed W Ch Port} (served : s.Served) : s.Agrees := by
  obtain ⟨pool, there, serves⟩ := served
  intro address held
  exact ⟨pool, there, serves.owned address held, (serves.sound.live address held).pending⟩

/-- A service does as it should: afterwards the pool and the executor agree, what
can be submitted is, and polling does not fail. -/
def Serviced (s : CANServed W Ch Port) (e : Event W) : Prop :=
  (s.next e).Agrees ∧
    match e with
    | .submit request =>
        ∀ context pool, s.service.context = some context → context.executor →
          s.executor.usable → s.service.pool = some pool → false ∈ pool.inUse →
          s.executor.slots.length < s.executor.capacity →
          (request.prepared context.core).Submittable s.heap.cores → (s.submit request).2.1 = .ok
    | .pollOne =>
        s.Bound → ∃ executor h result,
          s.canServicePollOne = some (executor, h, result) ∧ result ≠ .error
    | .poll maxSteps =>
        s.Bound → maxSteps ≠ 0 → ∃ executor h report,
          s.canServicePoll maxSteps = some (executor, h, report) ∧ report.status ≠ .einval
    | _ => True

/-- Nothing is released that the executor holds. -/
def SparesPending (s : CANServed W Ch Port) : Event W → Prop
  | .release (some operation) => operation ∉ s.executor.slots
  | _ => True

theorem next_served {s : CANServed W Ch Port} (served : s.Served) (e : Event W)
    (spares : s.SparesPending e) : (s.next e).Served := by
  cases e with
  | submit request =>
      rw [next, submit_eq]
      exact submitWith_served served fun context => request.prepared context.core
  | pollOne =>
      obtain ⟨executor, h, result, polled, progressed, -⟩ := canServicePollOne_served served
      simp only [next, polled]
      exact served.progressed progressed
  | poll maxSteps =>
      obtain ⟨executor, h, report, polled, progressed, -⟩ := canServicePoll_served served maxSteps
      simp only [next, polled]
      exact served.progressed progressed
  | release operation =>
      obtain ⟨pool, there, serves⟩ := served
      cases operation with
      | none =>
          simp only [next, canServiceRelease]
          exact ⟨pool, there, serves⟩
      | some operation =>
          simp only [next, canServiceRelease, there]
          exact ⟨_, rfl, serves.release spares⟩
  | world w =>
      obtain ⟨pool, there, serves⟩ := served
      have same : s.heap.cores.SameLinks { s.heap.cores with world := w } := .refl _
      refine ⟨pool, there, ⟨serves.sound.distinct, fun address held => ?_⟩, serves.owned⟩
      exact (serves.sound.live address held).congr same

/-- A held operation is in the pool, so releasing it frees its entry. -/
theorem not_agrees_release {s : CANServed W Ch Port} (served : s.Served) {operation : Nat}
    (held : operation ∈ s.executor.slots) : ¬ (s.canServiceRelease (some operation)).Agrees := by
  obtain ⟨pool, there, serves⟩ := served
  obtain ⟨i, rfl, used⟩ := serves.owned operation held
  have found := canServiceFindIndex_of_lt (List.getElem?_eq_some_iff.mp used).1
  intro agrees
  simp only [canServiceRelease, there, canServiceReleaseOperation, found] at agrees
  obtain ⟨pool', there', owns, -⟩ := agrees _ held
  obtain rfl := Option.some.inj there'
  exact CANServicePool.not_owns_released owns

theorem serviced_iff {s : CANServed W Ch Port} (served : s.Served) (e : Event W) :
    s.Serviced e ↔ s.SparesPending e := by
  constructor
  · rintro ⟨agrees, -⟩
    cases e with
    | release operation =>
        cases operation with
        | none => trivial
        | some operation => exact fun held => not_agrees_release served held agrees
    | _ => trivial
  · intro spares
    refine ⟨(next_served served e spares).agrees, ?_⟩
    cases e with
    | submit request =>
        intro context pool bound executor usable there entry room submittable
        rw [submit_eq]
        exact submitWith_ok served bound executor usable there entry room submittable
    | pollOne =>
        intro bound
        obtain ⟨executor, h, result, polled, -, fine⟩ := canServicePollOne_served served
        exact ⟨executor, h, result, polled, fine bound⟩
    | poll maxSteps =>
        intro bound positive
        obtain ⟨executor, h, report, polled, -, fine⟩ := canServicePoll_served served maxSteps
        exact ⟨executor, h, report, polled, fine bound positive⟩
    | release operation => trivial
    | world w => trivial

/-- In a run from a fresh service, every call does as it should if and only if no
call releases an operation that the executor still holds. -/
theorem service_agrees_iff (heap : CANHeap W Ch Port) (context : Option CANContext)
    (hasSlots : Bool) (slots operations entries : Nat) (events : List (Event W)) :
    (∀ p ∈ Runs.steps next (init heap context hasSlots slots operations entries) events,
        p.1.Serviced p.2) ↔
      ∀ p ∈ Runs.steps next (init heap context hasSlots slots operations entries) events,
        p.1.SparesPending p.2 := by
  have fresh : (init heap context hasSlots slots operations entries).Served :=
    ⟨_, rfl, ⟨by simp [init, canExecutorInit], by simp [init, canExecutorInit]⟩,
      by simp [init, canExecutorInit]⟩
  exact Runs.forall_steps_iff_while (Served : CANServed W Ch Port → Prop)
    (fun s e served spares => next_served served e spares)
    (fun s e served => serviced_iff served e) fresh events

/-- A receive released while it is pending: its slot points to a free entry, the
next submission is refused although an entry and a slot are free, and the next poll
fails. -/
theorem release_pending_breaks :
    let request : ServiceRequest := .receive (some idleFrame) canTimeoutInfinite
    let context := some (canContextBind (some 0) true)
    let s := Runs.run next (init busyHeap context true 4 0 2) [.submit request, .release (some 0)]
    ¬ s.Agrees ∧ s.executor.slots = [0] ∧
      s.service.pool = some ⟨0, [false, false]⟩ ∧ (s.submit request).2.1 = .ebusy ∧
      s.canServicePollOne.map (fun r => r.2.2) = some .error := by
  refine ⟨fun agrees => ?_, by decide +kernel, by decide +kernel, by decide +kernel,
    by decide +kernel⟩
  obtain ⟨pool, -, -, pending⟩ := agrees 0 (by decide +kernel)
  exact absurd pending (by decide +kernel)

end CANServed

end SmartBusAccess.Can
