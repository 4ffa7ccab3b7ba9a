import SmartBusAccess.Can.Operation
import Mathlib.Data.List.Nodup

/-!
The executor (`can_executor.c`) and the context in front of it (`can_context.c`).

The executor holds addresses of operations in the order they were submitted and
steps them in turn. `slots` is the used part of the storage, `slots[0..count)`;
nothing writes a null address into it, as a submission refuses one.
-/

namespace SmartBusAccess.Can

/-- Cores and operations, by address. -/
structure CANHeap (W Ch Port : Type) where
  cores : CANCores W Ch Port
  op : Nat → CANOperation

inductive CANExecutorRunOnceResult where
  | idle
  | pending
  | completed
  | error
deriving DecidableEq, Repr

/-- `hasSlots` is false of a null storage. -/
structure CANExecutor where
  hasSlots : Bool
  slots : List Nat
  capacity : Nat
  nextIndex : Nat
deriving DecidableEq, Repr

variable {W Ch Port : Type}

def CANHeap.write (h : CANHeap W Ch Port) (address : Nat) (operation : CANOperation) :
    CANHeap W Ch Port :=
  { h with op := Function.update h.op address operation }

def canExecutorInit (hasSlots : Bool) (capacity : Nat) : CANExecutor :=
  { hasSlots := hasSlots, slots := [], capacity := capacity, nextIndex := 0 }

def canExecutorContains (executor : CANExecutor) (operation : Nat) : Bool :=
  operation ∈ executor.slots

def canExecutorHasPending (executor : CANExecutor) : Bool := 0 < executor.slots.length

/-- The check every call makes of the executor itself. -/
def CANExecutor.usable (executor : CANExecutor) : Bool :=
  executor.hasSlots && executor.capacity != 0

def canExecutorRemoveAt (executor : CANExecutor) (index : Nat) : CANExecutor :=
  if executor.slots.length ≤ index then executor
  else
    let slots := executor.slots.eraseIdx index
    { executor with slots := slots, nextIndex := if slots.length ≤ index then 0 else index }

def canExecutorSubmit (executor : CANExecutor) (h : CANHeap W Ch Port) (operation : Option Nat) :
    CANExecutor × CANHeap W Ch Port × CANStatus :=
  match operation with
  | none => (executor, h, .einval)
  | some address =>
      if !executor.usable then (executor, h, .einval)
      else if executor.capacity ≤ executor.slots.length then (executor, h, .ebusy)
      else if canExecutorContains executor address then (executor, h, .ebusy)
      else
        let (operation, status) := canOperationSubmit h.cores (h.op address)
        if status != .ok then (executor, h.write address operation, status)
        else
          ({ executor with slots := executor.slots ++ [address] }, h.write address operation, .ok)

/-- The slot whose turn it is. -/
def CANExecutor.turn (executor : CANExecutor) : Nat :=
  if executor.slots.length ≤ executor.nextIndex then 0 else executor.nextIndex

/-- `none` when the step of the operation is. -/
def canExecutorRunOnce (executor : CANExecutor) (h : CANHeap W Ch Port) :
    Option (CANExecutor × CANHeap W Ch Port × CANExecutorRunOnceResult) :=
  if !executor.usable then some (executor, h, .error)
  else
    match executor.slots[executor.turn]? with
    | none => some (executor, h, .idle)
    | some address =>
        (canOperationRunOnce h.cores (h.op address)).map fun (cores, operation, result) =>
          let h := { h with cores := cores }.write address operation
          match result with
          | .completed => (canExecutorRemoveAt executor executor.turn, h, .completed)
          | .pending =>
              let nextIndex := (executor.turn + 1) % executor.slots.length
              ({ executor with nextIndex := nextIndex }, h, .pending)
          | .error => (canExecutorRemoveAt executor executor.turn, h, .error)

/-- What `CANExecutorRunUntilIdle` reports: its status, and the two counts when it
writes them. -/
structure CANExecutorReport where
  status : CANStatus
  counts : Option (Nat × Nat)
deriving DecidableEq, Repr

/-- The loop of `CANExecutorRunUntilIdle`. -/
def canExecutorDrain : Nat → Nat → CANExecutor → CANHeap W Ch Port →
    Option (CANExecutor × CANHeap W Ch Port × CANExecutorReport)
  | 0, completed, executor, h =>
      let status := if canExecutorHasPending executor then .ebusy else .ok
      some (executor, h, ⟨status, some (completed, executor.slots.length)⟩)
  | steps + 1, completed, executor, h =>
      if !canExecutorHasPending executor then some (executor, h, ⟨.ok, some (completed, 0)⟩)
      else
        match canExecutorRunOnce executor h with
        | none => none
        | some (executor, h, .completed) => canExecutorDrain steps (completed + 1) executor h
        | some (executor, h, .pending) => canExecutorDrain steps completed executor h
        | some (executor, h, .idle) => some (executor, h, ⟨.ok, some (completed, 0)⟩)
        | some (executor, h, .error) =>
            some (executor, h, ⟨.einval, some (completed, executor.slots.length)⟩)

def canExecutorRunUntilIdle (executor : CANExecutor) (h : CANHeap W Ch Port) (maxSteps : Nat) :
    Option (CANExecutor × CANHeap W Ch Port × CANExecutorReport) :=
  if !executor.usable || maxSteps == 0 then some (executor, h, ⟨.einval, none⟩)
  else canExecutorDrain maxSteps 0 executor h

abbrev canExecutorPollOne (executor : CANExecutor) (h : CANHeap W Ch Port) :=
  canExecutorRunOnce executor h

abbrev canExecutorPoll (executor : CANExecutor) (h : CANHeap W Ch Port) (maxSteps : Nat) :=
  canExecutorRunUntilIdle executor h maxSteps

/-! ### What the executor touches -/

@[simp] theorem CANHeap.write_same (h : CANHeap W Ch Port) (address : Nat)
    (operation : CANOperation) : (h.write address operation).op address = operation := by
  simp [CANHeap.write]

theorem CANHeap.write_other (h : CANHeap W Ch Port) {address other : Nat} (ne : other ≠ address)
    (operation : CANOperation) : (h.write address operation).op other = h.op other := by
  simp [CANHeap.write, ne]

@[simp] theorem CANHeap.write_cores (h : CANHeap W Ch Port) (address : Nat)
    (operation : CANOperation) : (h.write address operation).cores = h.cores := rfl

/-- Two heaps with the same cores and the same operations at the given addresses. -/
structure CANHeap.Agree (slots : List Nat) (h h' : CANHeap W Ch Port) : Prop where
  cores : h'.cores = h.cores
  op : ∀ address ∈ slots, h'.op address = h.op address

theorem CANHeap.Agree.refl (slots : List Nat) (h : CANHeap W Ch Port) : Agree slots h h :=
  ⟨rfl, fun _ _ => rfl⟩

theorem CANHeap.Agree.trans {slots : List Nat} {h h' h'' : CANHeap W Ch Port}
    (first : Agree slots h h') (second : Agree slots h' h'') : Agree slots h h'' :=
  ⟨second.cores.trans first.cores,
    fun address held => (second.op address held).trans (first.op address held)⟩

theorem CANHeap.agree_write {slots : List Nat} {address : Nat} (free : address ∉ slots)
    (h : CANHeap W Ch Port) (operation : CANOperation) :
    Agree slots h (h.write address operation) :=
  ⟨rfl, fun _ held => h.write_other (ne_of_mem_of_not_mem held free) operation⟩

section Held

variable {P : CANOperation → Prop} {slots : List Nat} {h : CANHeap W Ch Port} {address : Nat}
  {operation : CANOperation}

/-- What holds of the operations in a list is kept by a write of one that it holds of. -/
theorem CANHeap.forall_write (held : ∀ other ∈ slots, P (h.op other)) (written : P operation) :
    ∀ other ∈ slots, P ((h.write address operation).op other) := by
  intro other mem
  by_cases eq : other = address
  · subst eq
    simpa using written
  · rw [CANHeap.write_other h eq]
    exact held other mem

/-- So it is when the one written joins the list. -/
theorem CANHeap.forall_write_append (held : ∀ other ∈ slots, P (h.op other))
    (written : P operation) :
    ∀ other ∈ slots ++ [address], P ((h.write address operation).op other) := by
  intro other mem
  rcases List.mem_append.mp mem with before | new
  · exact CANHeap.forall_write held written other before
  · obtain rfl := List.mem_singleton.mp new
    simpa using written

end Held

/-- How a submission ends. -/
inductive CANExecutor.Submitted (executor : CANExecutor) (h : CANHeap W Ch Port) :
    Option Nat → CANExecutor × CANHeap W Ch Port × CANStatus → Prop where
  | refused {operation : Option Nat} {status : CANStatus} (bad : status ≠ .ok) :
      Submitted executor h operation (executor, h, status)
  | rejected {address : Nat} (free : address ∉ executor.slots)
      (bad : (canOperationSubmit h.cores (h.op address)).2 ≠ .ok) :
      Submitted executor h (some address)
        (executor, h.write address (canOperationSubmit h.cores (h.op address)).1,
          (canOperationSubmit h.cores (h.op address)).2)
  | accepted {address : Nat} (usable : executor.usable)
      (room : executor.slots.length < executor.capacity) (free : address ∉ executor.slots)
      (submittable : (h.op address).Submittable h.cores) :
      Submitted executor h (some address)
        ({ executor with slots := executor.slots ++ [address] },
          h.write address (h.op address).submitted, .ok)

theorem canExecutorSubmit_submitted (executor : CANExecutor) (h : CANHeap W Ch Port)
    (operation : Option Nat) :
    executor.Submitted h operation (canExecutorSubmit executor h operation) := by
  cases operation with
  | none => exact .refused (by simp)
  | some address =>
      unfold canExecutorSubmit
      simp only
      split
      · exact .refused (by simp)
      split
      · exact .refused (by simp)
      split
      · exact .refused (by simp)
      rename_i usable room free
      have free' : address ∉ executor.slots := by simpa [canExecutorContains] using free
      split
      · rename_i bad
        exact .rejected free' (by simpa using bad)
      · rename_i good
        have submittable := canOperationSubmit_ok_iff.mp (by simpa using good)
        rw [canOperationSubmit_of_submittable submittable]
        exact .accepted (by simpa using usable) (by omega) free' submittable

/-- An operation the executor holds is not submitted again, nor touched. -/
theorem canExecutorSubmit_held {executor : CANExecutor} {address : Nat}
    (held : address ∈ executor.slots) (h : CANHeap W Ch Port) :
    ∃ status, status ≠ CANStatus.ok ∧
      canExecutorSubmit executor h (some address) = (executor, h, status) := by
  generalize result : canExecutorSubmit executor h (some address) = r
  unfold canExecutorSubmit at result
  simp only at result
  split at result
  · exact ⟨.einval, by simp, result.symm⟩
  split at result
  · exact ⟨.ebusy, by simp, result.symm⟩
  split at result
  · exact ⟨.ebusy, by simp, result.symm⟩
  · rename_i free
    exact absurd held (by simpa [canExecutorContains] using free)

/-- How a step ends: it has nothing to run, or it runs the operation whose turn it
is and keeps that one only if it is still pending. -/
inductive CANExecutor.Stepped (executor : CANExecutor) (h : CANHeap W Ch Port) :
    CANExecutor × CANHeap W Ch Port × CANExecutorRunOnceResult → Prop where
  | unusable (bad : executor.usable = false) : Stepped executor h (executor, h, .error)
  | idle (empty : executor.slots = []) : Stepped executor h (executor, h, .idle)
  | removed {address : Nat} (turn : executor.slots[executor.turn]? = some address)
      {cores : CANCores W Ch Port} {operation : CANOperation} {ended : CANOperationRunResult}
      (run : canOperationRunOnce h.cores (h.op address) = some (cores, operation, ended))
      {result : CANExecutorRunOnceResult}
      (kind : ended = .completed ∧ result = .completed ∨ ended = .error ∧ result = .error) :
      Stepped executor h (canExecutorRemoveAt executor executor.turn,
        { h with cores := cores }.write address operation, result)
  | kept {address : Nat} (turn : executor.slots[executor.turn]? = some address)
      {cores : CANCores W Ch Port} {operation : CANOperation}
      (run : canOperationRunOnce h.cores (h.op address) = some (cores, operation, .pending)) :
      Stepped executor h
        ({ executor with nextIndex := (executor.turn + 1) % executor.slots.length },
          { h with cores := cores }.write address operation, .pending)

theorem CANExecutor.slots_of_turn_none {executor : CANExecutor}
    (turn : executor.slots[executor.turn]? = none) : executor.slots = [] := by
  have beyond := List.getElem?_eq_none_iff.mp turn
  unfold CANExecutor.turn at beyond
  split at beyond
  · exact List.eq_nil_of_length_eq_zero (by omega)
  · omega

theorem canExecutorRunOnce_stepped {executor : CANExecutor} {h : CANHeap W Ch Port}
    {r : CANExecutor × CANHeap W Ch Port × CANExecutorRunOnceResult}
    (run : canExecutorRunOnce executor h = some r) : executor.Stepped h r := by
  unfold canExecutorRunOnce at run
  split at run
  · rename_i bad
    obtain rfl := Option.some.inj run
    exact .unusable (by simpa using bad)
  split at run
  · rename_i turn
    obtain rfl := Option.some.inj run
    exact .idle (CANExecutor.slots_of_turn_none turn)
  · rename_i address turn
    obtain ⟨⟨cores, operation, ended⟩, step, rfl⟩ := Option.map_eq_some_iff.mp run
    cases ended with
    | completed => exact .removed turn step (.inl ⟨rfl, rfl⟩)
    | pending => exact .kept turn step
    | error => exact .removed turn step (.inr ⟨rfl, rfl⟩)

theorem canExecutorRemoveAt_sublist (executor : CANExecutor) (index : Nat) :
    (canExecutorRemoveAt executor index).slots.Sublist executor.slots := by
  unfold canExecutorRemoveAt
  split
  · exact .refl _
  · exact List.eraseIdx_sublist ..

/-! ### Sound executors -/

/-- What an executor holds when only the executor touches it: distinct operations,
all of them live. -/
structure CANExecutor.Sound (executor : CANExecutor) (h : CANHeap W Ch Port) : Prop where
  distinct : executor.slots.Nodup
  live : ∀ address ∈ executor.slots, (h.op address).Live h.cores

theorem CANExecutor.Sound.agree {executor : CANExecutor} {h h' : CANHeap W Ch Port}
    (sound : executor.Sound h) (agree : h.Agree executor.slots h') : executor.Sound h' where
  distinct := sound.distinct
  live address held := by
    rw [agree.op address held, agree.cores]
    exact sound.live address held

theorem canExecutorSubmit_sound {executor : CANExecutor} {h : CANHeap W Ch Port}
    (sound : executor.Sound h) (operation : Option Nat) :
    (canExecutorSubmit executor h operation).1.Sound
      (canExecutorSubmit executor h operation).2.1 := by
  have ended := canExecutorSubmit_submitted executor h operation
  generalize canExecutorSubmit executor h operation = r at ended ⊢
  cases ended with
  | refused _ => exact sound
  | rejected free _ => exact sound.agree (CANHeap.agree_write free h _)
  | accepted _ _ free submittable =>
      constructor
      · exact List.concat_eq_append ▸ sound.distinct.concat free
      · exact CANHeap.forall_write_append sound.live submittable.live

/-- In a list without repetitions, erasing an index erases its element. -/
theorem ne_of_mem_eraseIdx {slots : List Nat} (distinct : slots.Nodup) {index address other : Nat}
    (turn : slots[index]? = some address) (mem : other ∈ slots.eraseIdx index) :
    other ≠ address := by
  obtain ⟨i, ne, found⟩ := List.mem_eraseIdx_iff_getElem?.mp mem
  rintro rfl
  have inside : i < slots.length := (List.getElem?_eq_some_iff.mp found).1
  exact ne ((List.getElem?_inj inside distinct).mp (found.trans turn.symm))

theorem canExecutorRemoveAt_slots {executor : CANExecutor} {index address : Nat}
    (turn : executor.slots[index]? = some address) :
    (canExecutorRemoveAt executor index).slots = executor.slots.eraseIdx index := by
  have inside : index < executor.slots.length := (List.getElem?_eq_some_iff.mp turn).1
  unfold canExecutorRemoveAt
  rw [if_neg (by omega)]

theorem canExecutorRemoveAt_usable (executor : CANExecutor) (index : Nat) :
    (canExecutorRemoveAt executor index).usable = executor.usable := by
  unfold canExecutorRemoveAt
  split <;> rfl

/-- The rest of a sound executor after the step of one of its operations. -/
theorem CANExecutor.Sound.others {executor : CANExecutor} {h : CANHeap W Ch Port}
    (sound : executor.Sound h) {cores : CANCores W Ch Port} (same : h.cores.SameLinks cores)
    (address : Nat) (operation : CANOperation) {other : Nat} (held : other ∈ executor.slots)
    (ne : other ≠ address) :
    (({ h with cores := cores }.write address operation).op other).Live cores := by
  rw [CANHeap.write_other _ ne]
  exact (sound.live other held).congr same

/-- What a run of a sound executor leaves: the same one with perhaps fewer
operations, still sound. -/
structure CANExecutor.Progressed (executor : CANExecutor) (h : CANHeap W Ch Port)
    (executor' : CANExecutor) (h' : CANHeap W Ch Port) : Prop where
  sound : executor'.Sound h'
  fewer : executor'.slots.Sublist executor.slots
  usable : executor'.usable = executor.usable
  same : h.cores.SameLinks h'.cores

theorem CANExecutor.Progressed.trans {executor executor' executor'' : CANExecutor}
    {h h' h'' : CANHeap W Ch Port} (first : executor.Progressed h executor' h')
    (second : executor'.Progressed h' executor'' h'') : executor.Progressed h executor'' h'' where
  sound := second.sound
  fewer := second.fewer.trans first.fewer
  usable := second.usable.trans first.usable
  same := first.same.trans second.same

theorem CANExecutor.Sound.progressed {executor : CANExecutor} {h : CANHeap W Ch Port}
    (sound : executor.Sound h) : executor.Progressed h executor h :=
  ⟨sound, .refl _, rfl, .refl _⟩

/-- A sound executor steps without fault, and fails only if it is not usable. -/
theorem canExecutorRunOnce_sound {executor : CANExecutor} {h : CANHeap W Ch Port}
    (sound : executor.Sound h) :
    ∃ executor' h' result, canExecutorRunOnce executor h = some (executor', h', result) ∧
      executor.Progressed h executor' h' ∧ (executor.usable → result ≠ .error) := by
  unfold canExecutorRunOnce
  cases usable : executor.usable with
  | false => exact ⟨executor, h, .error, rfl, sound.progressed, by simp⟩
  | true =>
      cases turn : executor.slots[executor.turn]? with
      | none => exact ⟨executor, h, .idle, rfl, sound.progressed, by simp⟩
      | some address =>
          have held : address ∈ executor.slots := List.mem_of_getElem? turn
          obtain ⟨r, run, advanced⟩ := canOperationRunOnce_live (sound.live address held)
          simp only [run]
          cases advanced with
          | @completed cores operation same done =>
              refine ⟨_, _, _, rfl, ⟨⟨?_, ?_⟩, ?_, ?_, same⟩, by simp⟩
              · exact (canExecutorRemoveAt_sublist _ _).nodup sound.distinct
              · intro other left
                rw [canExecutorRemoveAt_slots turn] at left
                exact sound.others same address operation (List.mem_of_mem_eraseIdx left)
                  (ne_of_mem_eraseIdx sound.distinct turn left)
              · exact canExecutorRemoveAt_sublist _ _
              · exact canExecutorRemoveAt_usable _ _
          | @pending cores operation same live =>
              refine ⟨_, _, _, rfl, ⟨⟨sound.distinct, ?_⟩, .refl _, rfl, same⟩, by simp⟩
              intro other left
              by_cases eq : other = address
              · subst eq
                simpa using live
              · exact sound.others same address operation left eq

theorem canExecutorDrain_sound {executor : CANExecutor} {h : CANHeap W Ch Port}
    (sound : executor.Sound h) (usable : executor.usable) (steps completed : Nat) :
    ∃ executor' h' report,
      canExecutorDrain steps completed executor h = some (executor', h', report) ∧
      executor.Progressed h executor' h' ∧ report.status ≠ .einval := by
  induction steps generalizing executor h completed with
  | zero =>
      refine ⟨_, _, _, rfl, sound.progressed, ?_⟩
      simp only
      split <;> simp
  | succ steps ih =>
      unfold canExecutorDrain
      split
      · exact ⟨_, _, _, rfl, sound.progressed, by simp⟩
      obtain ⟨executor', h', result, run, progressed, fine⟩ := canExecutorRunOnce_sound sound
      have usable' : executor'.usable := progressed.usable.trans usable
      have rest (completed : Nat) : ∃ executor'' h'' report,
          canExecutorDrain steps completed executor' h' = some (executor'', h'', report) ∧
            executor.Progressed h executor'' h'' ∧ report.status ≠ .einval := by
        obtain ⟨executor'', h'', report, drain, later, good⟩ :=
          ih progressed.sound usable' completed
        exact ⟨executor'', h'', report, drain, progressed.trans later, good⟩
      rw [run]
      cases result with
      | completed => exact rest (completed + 1)
      | pending => exact rest completed
      | idle => exact ⟨_, _, _, rfl, progressed, by simp⟩
      | error => exact absurd rfl (fine usable)

theorem canExecutorRunUntilIdle_sound {executor : CANExecutor} {h : CANHeap W Ch Port}
    (sound : executor.Sound h) (maxSteps : Nat) :
    ∃ executor' h' report,
      canExecutorRunUntilIdle executor h maxSteps = some (executor', h', report) ∧
      executor.Progressed h executor' h' ∧
      (executor.usable → maxSteps ≠ 0 → report.status ≠ .einval) := by
  unfold canExecutorRunUntilIdle
  split
  · rename_i refused
    refine ⟨_, _, _, rfl, sound.progressed, ?_⟩
    intro usable positive
    simp [usable, positive] at refused
  · rename_i fine
    have usable : executor.usable = true := by
      simp only [Bool.or_eq_true, not_or] at fine
      simpa using fine.1
    obtain ⟨executor', h', report, drain, progressed, good⟩ :=
      canExecutorDrain_sound sound usable maxSteps 0
    exact ⟨executor', h', report, drain, progressed, fun _ _ => good⟩

/-! ### The context -/

/-- What a context is bound to: a core, and whether to the executor. -/
structure CANContext where
  core : Option Nat
  executor : Bool
deriving DecidableEq, Repr

def canContextInit : CANContext := ⟨none, false⟩

def canContextBind (core : Option Nat) (executor : Bool) : CANContext := ⟨core, executor⟩

def canContextSubmit (context : CANContext) (executor : CANExecutor) (h : CANHeap W Ch Port)
    (operation : Option Nat) : CANExecutor × CANHeap W Ch Port × CANStatus :=
  if !context.executor || operation.isNone then (executor, h, .einval)
  else canExecutorSubmit executor h operation

/-- The three submit helpers: prepare the operation, whatever state it is in, then
submit it. -/
def CANContext.submitPrepared (context : CANContext) (executor : CANExecutor)
    (h : CANHeap W Ch Port) (operation : Option Nat) (prepared : CANOperation) :
    CANExecutor × CANHeap W Ch Port × CANStatus :=
  match operation with
  | none => (executor, h, .einval)
  | some address => canContextSubmit context executor (h.write address prepared) (some address)

def canContextSubmitSend (context : CANContext) (executor : CANExecutor) (h : CANHeap W Ch Port)
    (operation : Option Nat) (frame : Option CANFrame) (timeoutMs : UInt32) :
    CANExecutor × CANHeap W Ch Port × CANStatus :=
  context.submitPrepared executor h operation
    (canOperationPrepareSend context.core frame timeoutMs)

def canContextSubmitReceive (context : CANContext) (executor : CANExecutor) (h : CANHeap W Ch Port)
    (operation : Option Nat) (frame : Option CANFrame) (timeoutMs : UInt32) :
    CANExecutor × CANHeap W Ch Port × CANStatus :=
  context.submitPrepared executor h operation
    (canOperationPrepareReceive context.core frame timeoutMs)

def canContextSubmitPoll (context : CANContext) (executor : CANExecutor) (h : CANHeap W Ch Port)
    (operation : Option Nat) (interestMask timeoutMs : UInt32) (readyMask : Option UInt32) :
    CANExecutor × CANHeap W Ch Port × CANStatus :=
  context.submitPrepared executor h operation
    (canOperationPreparePoll context.core interestMask timeoutMs readyMask)

def canContextPollOne (context : CANContext) (executor : CANExecutor) (h : CANHeap W Ch Port) :
    Option (CANExecutor × CANHeap W Ch Port × CANExecutorRunOnceResult) :=
  if !context.executor then some (executor, h, .error) else canExecutorPollOne executor h

def canContextPoll (context : CANContext) (executor : CANExecutor) (h : CANHeap W Ch Port)
    (maxSteps : Nat) : Option (CANExecutor × CANHeap W Ch Port × CANExecutorReport) :=
  if !context.executor then some (executor, h, ⟨.einval, none⟩)
  else canExecutorPoll executor h maxSteps

theorem canExecutorSubmit_rejected {executor : CANExecutor} {h : CANHeap W Ch Port}
    {operation : Option Nat} (bad : (canExecutorSubmit executor h operation).2.2 ≠ .ok) :
    (canExecutorSubmit executor h operation).1 = executor ∧
      h.Agree executor.slots (canExecutorSubmit executor h operation).2.1 := by
  have ended := canExecutorSubmit_submitted executor h operation
  generalize canExecutorSubmit executor h operation = r at bad ended ⊢
  cases ended with
  | refused _ => exact ⟨rfl, .refl _ h⟩
  | rejected free _ => exact ⟨rfl, CANHeap.agree_write free h _⟩
  | accepted _ _ _ _ => exact absurd rfl bad

theorem canContextSubmit_rejected {context : CANContext} {executor : CANExecutor}
    {h : CANHeap W Ch Port} {operation : Option Nat}
    (bad : (canContextSubmit context executor h operation).2.2 ≠ .ok) :
    (canContextSubmit context executor h operation).1 = executor ∧
      h.Agree executor.slots (canContextSubmit context executor h operation).2.1 := by
  unfold canContextSubmit at bad ⊢
  split at bad
  · rename_i refused
    rw [if_pos refused]
    exact ⟨rfl, .refl _ h⟩
  · rename_i fine
    rw [if_neg fine]
    exact canExecutorSubmit_rejected bad

theorem CANContext.submitPrepared_rejected {context : CANContext} {executor : CANExecutor}
    {h : CANHeap W Ch Port} {operation : Option Nat} {prepared : CANOperation}
    (spares : ∀ address, operation = some address → address ∉ executor.slots)
    (bad : (context.submitPrepared executor h operation prepared).2.2 ≠ .ok) :
    (context.submitPrepared executor h operation prepared).1 = executor ∧
      h.Agree executor.slots (context.submitPrepared executor h operation prepared).2.1 := by
  cases operation with
  | none => exact ⟨rfl, .refl _ h⟩
  | some address =>
      have free : address ∉ executor.slots := spares address rfl
      obtain ⟨same, agree⟩ := canContextSubmit_rejected bad
      exact ⟨same, (CANHeap.agree_write free h prepared).trans agree⟩

/-- Cores on a bus that is never free, started and without a clock, and operations
that were never used. -/
def busyHeap : CANHeap Unit Unit Unit where
  cores :=
    { world := (), core := fun _ =>
        ⟨some ⟨true, busyOps, none, (), (), ⟨none, none⟩⟩, .zero, .ok⟩ }
  op _ := canOperationInit

end SmartBusAccess.Can
