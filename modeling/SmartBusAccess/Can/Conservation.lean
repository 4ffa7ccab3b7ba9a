import SmartBusAccess.Semantics.Outstanding
import SmartBusAccess.Semantics.Runs
import SmartBusAccess.Can.Executor

/-!
What an executor holds, against what was submitted to it.

A log lists the accepted submissions and notes which of the operations have completed.
The slots are the outstanding part of that log, in its order, whatever was submitted and
however the steps ended (`canExecutor_conserves`).
-/

namespace SmartBusAccess.Can

open Outstanding

variable {W Ch Port : Type}

/-! ### One step -/

/-- What running a sound executor does to it: it drops the operations that are done and
keeps the others in order. What it does not hold is left alone. -/
structure CANExecutor.Conserved (executor : CANExecutor) (h : CANHeap W Ch Port)
    (executor' : CANExecutor) (h' : CANHeap W Ch Port) : Prop
    extends executor.Progressed h executor' h' where
  held : executor'.slots =
    executor.slots.filter fun address => !canOperationIsDone (h'.op address)
  untouched : ∀ address, address ∉ executor.slots → h'.op address = h.op address
  capacity : executor'.capacity = executor.capacity

theorem CANOperation.Live.notDone {s : CANCores W Ch Port} {operation : CANOperation}
    (live : operation.Live s) : canOperationIsDone operation = false := by
  simp [canOperationIsDone, live.pending]

theorem CANExecutor.Sound.conserved {executor : CANExecutor} {h : CANHeap W Ch Port}
    (sound : executor.Sound h) : executor.Conserved h executor h where
  toProgressed := sound.progressed
  held := by
    refine (List.filter_eq_self.mpr ?_).symm
    intro address mem
    simp [(sound.live address mem).notDone]
  untouched _ _ := rfl
  capacity := rfl

theorem CANExecutor.Conserved.trans {executor executor' executor'' : CANExecutor}
    {h h' h'' : CANHeap W Ch Port} (first : executor.Conserved h executor' h')
    (second : executor'.Conserved h' executor'' h'') : executor.Conserved h executor'' h'' where
  toProgressed := first.toProgressed.trans second.toProgressed
  held := by
    rw [second.held, first.held, List.filter_filter]
    refine List.filter_congr fun address mem => ?_
    cases gone : canOperationIsDone (h'.op address) with
    | false => simp
    | true =>
        -- an operation that was dropped is not touched any more
        have dropped : address ∉ executor'.slots := by simp [first.held, gone]
        simp [second.untouched address dropped, gone]
  untouched address free := by
    rw [second.untouched address fun held => free (first.fewer.subset held),
      first.untouched address free]
  capacity := second.capacity.trans first.capacity

/-- How a step of a sound executor ends when there is an operation to run. -/
structure CANExecutor.Took (executor : CANExecutor) (h : CANHeap W Ch Port) (address : Nat)
    (executor' : CANExecutor) (h' : CANHeap W Ch Port) (result : CANExecutorRunOnceResult) :
    Prop where
  run : canExecutorRunOnce executor h = some (executor', h', result)
  conserved : executor.Conserved h executor' h'
  ends : result = .completed ∧ executor'.slots = executor.slots.erase address ∨
    result = .pending ∧ executor'.slots = executor.slots

/-- Removing the operation that completed leaves those that have not. -/
theorem CANExecutor.Sound.filter_completed {executor : CANExecutor} {h : CANHeap W Ch Port}
    (sound : executor.Sound h) {address : Nat} {operation : CANOperation}
    (done : operation.state = .completed) (cores : CANCores W Ch Port) :
    (executor.slots.filter fun other => !canOperationIsDone
      (({ h with cores := cores }.write address operation).op other)) =
      executor.slots.erase address := by
  rw [sound.distinct.erase_eq_filter]
  refine List.filter_congr fun other mem => ?_
  by_cases eq : other = address
  · subst eq
    simp [canOperationIsDone, done]
  · rw [CANHeap.write_other _ eq, (sound.live other mem).notDone]
    simpa using eq

/-- While one that is still pending has not. -/
theorem CANExecutor.Sound.filter_pending {executor : CANExecutor} {h : CANHeap W Ch Port}
    (sound : executor.Sound h) {address : Nat} {operation : CANOperation}
    {cores : CANCores W Ch Port} (live : operation.Live cores) :
    (executor.slots.filter fun other => !canOperationIsDone
      (({ h with cores := cores }.write address operation).op other)) = executor.slots := by
  refine List.filter_eq_self.mpr fun other mem => ?_
  by_cases eq : other = address
  · subst eq
    simp [live.notDone]
  · rw [CANHeap.write_other _ eq, (sound.live other mem).notDone]
    rfl

theorem canExecutorRunOnce_took {executor : CANExecutor} {h : CANHeap W Ch Port}
    (sound : executor.Sound h) (usable : executor.usable) {address : Nat}
    (turn : executor.slots[executor.turn]? = some address) :
    ∃ executor' h' result, executor.Took h address executor' h' result := by
  have held : address ∈ executor.slots := List.mem_of_getElem? turn
  obtain ⟨inside, here⟩ := List.getElem?_eq_some_iff.mp turn
  obtain ⟨executor', h', result, run, progressed, -⟩ := canExecutorRunOnce_sound sound
  obtain ⟨r, step, advanced⟩ := canOperationRunOnce_live (sound.live address held)
  have ran := run
  simp only [canExecutorRunOnce, usable, Bool.not_true, Bool.false_eq_true, if_false, turn, step,
    Option.map_some] at ran
  cases advanced with
  | @completed cores operation _ done =>
      simp only [Option.some.injEq, Prod.mk.injEq] at ran
      obtain ⟨rfl, rfl, rfl⟩ := ran
      have slots : (canExecutorRemoveAt executor executor.turn).slots =
          executor.slots.erase address := by
        rw [canExecutorRemoveAt_slots turn, ← sound.distinct.erase_getElem _ inside, here]
      refine ⟨_, _, _, run, ⟨progressed, ?_, ?_, ?_⟩, .inl ⟨rfl, slots⟩⟩
      · rw [sound.filter_completed done, slots]
      · exact fun other free => CANHeap.write_other _ (ne_of_mem_of_not_mem held free).symm _
      · unfold canExecutorRemoveAt
        split <;> rfl
  | @pending cores operation _ live =>
      simp only [Option.some.injEq, Prod.mk.injEq] at ran
      obtain ⟨rfl, rfl, rfl⟩ := ran
      refine ⟨_, _, _, run, ⟨progressed, (sound.filter_pending live).symm, ?_, rfl⟩,
        .inr ⟨rfl, rfl⟩⟩
      exact fun other free => CANHeap.write_other _ (ne_of_mem_of_not_mem held free).symm _

theorem canExecutorRunOnce_conserved {executor : CANExecutor} {h : CANHeap W Ch Port}
    (sound : executor.Sound h) {r : CANExecutor × CANHeap W Ch Port × CANExecutorRunOnceResult}
    (run : canExecutorRunOnce executor h = some r) : executor.Conserved h r.1 r.2.1 := by
  cases usable : executor.usable with
  | false =>
      obtain rfl : (executor, h, CANExecutorRunOnceResult.error) = r := by
        simpa [canExecutorRunOnce, usable] using run
      exact sound.conserved
  | true =>
      cases turn : executor.slots[executor.turn]? with
      | none =>
          obtain rfl : (executor, h, CANExecutorRunOnceResult.idle) = r := by
            simpa [canExecutorRunOnce, usable, turn] using run
          exact sound.conserved
      | some address =>
          obtain ⟨executor', h', result, took⟩ := canExecutorRunOnce_took sound usable turn
          obtain rfl := Option.some.inj (took.run.symm.trans run)
          exact took.conserved

/-! ### Successive steps -/

/-- Successive steps of an executor, each with the operation it ran and how it ended. -/
inductive CANExecutor.Walk : CANExecutor → CANHeap W Ch Port →
    List (Nat × CANExecutorRunOnceResult) → CANExecutor → CANHeap W Ch Port → Prop where
  | stop {executor : CANExecutor} {h : CANHeap W Ch Port} : Walk executor h [] executor h
  | step {executor executor' last : CANExecutor} {h h' h'' : CANHeap W Ch Port} {address : Nat}
      {result : CANExecutorRunOnceResult} {steps : List (Nat × CANExecutorRunOnceResult)}
      (turn : executor.slots[executor.turn]? = some address)
      (run : canExecutorRunOnce executor h = some (executor', h', result))
      (rest : Walk executor' h' steps last h'') :
      Walk executor h ((address, result) :: steps) last h''

/-- How many of the steps completed their operation. -/
def completions (steps : List (Nat × CANExecutorRunOnceResult)) : Nat :=
  steps.countP fun step => step.2 == .completed

theorem CANExecutor.Walk.conserved {executor executor' : CANExecutor} {h h' : CANHeap W Ch Port}
    {steps : List (Nat × CANExecutorRunOnceResult)} (walk : executor.Walk h steps executor' h')
    (sound : executor.Sound h) (usable : executor.usable) :
    executor.Conserved h executor' h' ∧
      completions steps + executor'.slots.length = executor.slots.length := by
  induction walk with
  | stop => exact ⟨sound.conserved, by simp [completions]⟩
  | @step executor executor' last h h' h'' address result steps turn run rest ih =>
      obtain ⟨next, heap, ended, took⟩ := canExecutorRunOnce_took sound usable turn
      obtain ⟨rfl, rfl, rfl⟩ : next = executor' ∧ heap = h' ∧ ended = result := by
        simpa using took.run.symm.trans run
      have first := took.conserved
      obtain ⟨later, count⟩ := ih first.sound (first.usable.trans usable)
      refine ⟨first.trans later, ?_⟩
      simp only [completions, List.countP_cons] at count ⊢
      rcases took.ends with ⟨rfl, fewer⟩ | ⟨rfl, same⟩
      · have held : address ∈ executor.slots := List.mem_of_getElem? turn
        have positive := List.length_pos_of_mem held
        rw [fewer, List.length_erase_of_mem held] at count
        simp only [beq_self_eq_true, if_true]
        omega
      · simp only [same] at count
        simpa using count

/-! ### Draining -/

/-- What a drain reports when it ends at `executor` after completing `completed`
operations. -/
def CANExecutor.report (executor : CANExecutor) (completed : Nat) : CANExecutorReport :=
  ⟨if canExecutorHasPending executor then .ebusy else .ok,
    some (completed, executor.slots.length)⟩

/-- A drain is a walk of at most `maxSteps` steps, shorter only if nothing is left. -/
structure CANExecutor.Drained (executor : CANExecutor) (h : CANHeap W Ch Port) (maxSteps : Nat)
    (steps : List (Nat × CANExecutorRunOnceResult)) (executor' : CANExecutor)
    (h' : CANHeap W Ch Port) : Prop where
  walk : executor.Walk h steps executor' h'
  bounded : steps.length ≤ maxSteps
  exhausted : steps.length < maxSteps → executor'.slots = []

theorem CANExecutor.turn_of_pending {executor : CANExecutor}
    (pending : canExecutorHasPending executor) :
    ∃ address, executor.slots[executor.turn]? = some address := by
  have nonempty : 0 < executor.slots.length := by simpa [canExecutorHasPending] using pending
  have inside : executor.turn < executor.slots.length := by
    unfold CANExecutor.turn
    split <;> omega
  exact ⟨_, List.getElem?_eq_getElem inside⟩

theorem canExecutorDrain_drained {executor : CANExecutor} {h : CANHeap W Ch Port}
    (sound : executor.Sound h) (usable : executor.usable) (maxSteps completed : Nat) :
    ∃ steps executor' h', executor.Drained h maxSteps steps executor' h' ∧
      canExecutorDrain maxSteps completed executor h =
        some (executor', h', executor'.report (completed + completions steps)) := by
  induction maxSteps generalizing executor h completed with
  | zero =>
      exact ⟨[], executor, h, ⟨.stop, Nat.le_refl 0, fun less => absurd less (Nat.lt_irrefl 0)⟩,
        rfl⟩
  | succ maxSteps ih =>
      cases pending : canExecutorHasPending executor with
      | false =>
          have empty : executor.slots = [] := by simpa [canExecutorHasPending] using pending
          refine ⟨[], executor, h, ⟨.stop, Nat.zero_le _, fun _ => empty⟩, ?_⟩
          simp [canExecutorDrain, CANExecutor.report, pending, completions, empty]
      | true =>
          obtain ⟨address, turn⟩ := CANExecutor.turn_of_pending pending
          obtain ⟨executor', h', result, took⟩ := canExecutorRunOnce_took sound usable turn
          have first := took.conserved
          have rest (count : Nat) := ih first.sound (first.usable.trans usable) count
          simp only [canExecutorDrain, pending, took.run]
          rcases took.ends with ⟨rfl, -⟩ | ⟨rfl, -⟩
          · obtain ⟨steps, last, h'', drained, ran⟩ := rest (completed + 1)
            refine ⟨(address, .completed) :: steps, last, h'', ⟨.step turn took.run drained.walk,
              Nat.succ_le_succ drained.bounded, ?_⟩, ?_⟩
            · exact fun less => drained.exhausted (Nat.lt_of_succ_lt_succ less)
            · have count : completed + 1 + completions steps =
                  completed + completions ((address, .completed) :: steps) := by
                simp only [completions, List.countP_cons, beq_self_eq_true, if_true]
                omega
              rw [← count]
              exact ran
          · obtain ⟨steps, last, h'', drained, ran⟩ := rest completed
            refine ⟨(address, .pending) :: steps, last, h'', ⟨.step turn took.run drained.walk,
              Nat.succ_le_succ drained.bounded, ?_⟩, ?_⟩
            · exact fun less => drained.exhausted (Nat.lt_of_succ_lt_succ less)
            · have count : completions ((address, .pending) :: steps) = completions steps := by
                simp [completions]
              rw [count]
              exact ran

/-- Whenever a walk comes to an operation for the first time, its step completes it. -/
def CANExecutor.CompletesAtOnce (executor : CANExecutor) (h : CANHeap W Ch Port) : Prop :=
  ∀ steps executor' h' address, executor.Walk h steps executor' h' →
    executor'.slots[executor'.turn]? = some address → address ∉ steps.map Prod.fst →
    ∃ cores operation, canOperationRunOnce h'.cores (h'.op address) =
      some (cores, operation, .completed)

theorem CANExecutor.CompletesAtOnce.first {executor executor' : CANExecutor}
    {h h' : CANHeap W Ch Port} (atOnce : executor.CompletesAtOnce h) {address : Nat}
    {result : CANExecutorRunOnceResult} (turn : executor.slots[executor.turn]? = some address)
    (took : executor.Took h address executor' h' result) : result = .completed := by
  obtain ⟨cores, operation, run⟩ := atOnce [] executor h address .stop turn (by simp)
  have ran := took.run
  unfold canExecutorRunOnce at ran
  split at ran
  · simp only [Option.some.injEq, Prod.mk.injEq] at ran
    rcases took.ends with ⟨rfl, -⟩ | ⟨rfl, -⟩ <;> simp at ran
  · simp only [turn, run, Option.map_some, Option.some.injEq, Prod.mk.injEq] at ran
    exact ran.2.2.symm

theorem CANExecutor.CompletesAtOnce.rest {executor executor' : CANExecutor}
    {h h' : CANHeap W Ch Port} (atOnce : executor.CompletesAtOnce h)
    (sound : executor.Sound h) (usable : executor.usable) {address : Nat}
    (turn : executor.slots[executor.turn]? = some address)
    (took : executor.Took h address executor' h' .completed) : executor'.CompletesAtOnce h' := by
  intro steps last h'' next walk nextTurn fresh
  refine atOnce ((address, .completed) :: steps) last h'' next (.step turn took.run walk)
    nextTurn ?_
  -- the operation that completed is gone, so the next one is another
  have gone : address ∉ executor'.slots := by
    rcases took.ends with ⟨-, slots⟩ | ⟨bad, -⟩
    · rw [slots]
      exact sound.distinct.not_mem_erase
    · cases bad
  have first := took.conserved
  have later := (walk.conserved first.sound (first.usable.trans usable)).1
  have held : next ∈ executor'.slots := later.fewer.subset (List.mem_of_getElem? nextTurn)
  simp only [List.map_cons, List.mem_cons, not_or]
  exact ⟨ne_of_mem_of_not_mem held gone, fresh⟩

theorem CANExecutor.Walk.completes {executor executor' : CANExecutor} {h h' : CANHeap W Ch Port}
    {steps : List (Nat × CANExecutorRunOnceResult)} (walk : executor.Walk h steps executor' h')
    (sound : executor.Sound h) (usable : executor.usable) (atOnce : executor.CompletesAtOnce h) :
    completions steps = steps.length := by
  induction walk with
  | stop => rfl
  | @step executor executor' last h h' h'' address result steps turn run rest ih =>
      obtain ⟨next, heap, ended, took⟩ := canExecutorRunOnce_took sound usable turn
      obtain ⟨rfl, rfl, rfl⟩ : next = executor' ∧ heap = h' ∧ ended = result := by
        simpa using took.run.symm.trans run
      obtain rfl := atOnce.first turn took
      have first := took.conserved
      have later := ih first.sound (first.usable.trans usable) (atOnce.rest sound usable turn took)
      simpa [completions] using later

/-- What `CANExecutorRunUntilIdle` does to an executor that can run. -/
structure CANExecutor.Drains (executor : CANExecutor) (h : CANHeap W Ch Port) (maxSteps : Nat)
    (executor' : CANExecutor) (h' : CANHeap W Ch Port) (report : CANExecutorReport) : Prop where
  steps : ∃ steps, executor.Drained h maxSteps steps executor' h' ∧
    report.counts = some (completions steps, executor'.slots.length) ∧
    completions steps + executor'.slots.length = executor.slots.length
  ok_iff : report.status = .ok ↔ executor'.slots = []
  drained : executor.slots.length ≤ maxSteps → executor.CompletesAtOnce h → executor'.slots = []

theorem canExecutorRunUntilIdle_drains {executor : CANExecutor} {h : CANHeap W Ch Port}
    (sound : executor.Sound h) (usable : executor.usable) {maxSteps : Nat}
    (positive : 0 < maxSteps) :
    ∃ executor' h' report,
      canExecutorRunUntilIdle executor h maxSteps = some (executor', h', report) ∧
      executor.Drains h maxSteps executor' h' report := by
  obtain ⟨steps, executor', h', drained, run⟩ :=
    canExecutorDrain_drained sound usable maxSteps 0
  obtain ⟨conserved, count⟩ := drained.walk.conserved sound usable
  have idle : (canExecutorHasPending executor' = true) ↔ executor'.slots ≠ [] := by
    simp [canExecutorHasPending, List.length_pos_iff]
  refine ⟨executor', h', executor'.report (0 + completions steps), ?_,
    ⟨steps, drained, by simp [CANExecutor.report], count⟩, ?_, ?_⟩
  · unfold canExecutorRunUntilIdle
    rw [if_neg (by simp [usable, Nat.ne_of_gt positive])]
    exact run
  · by_cases empty : executor'.slots = []
    · simp [CANExecutor.report, canExecutorHasPending, empty]
    · simp [CANExecutor.report, idle.mpr empty, empty]
  · intro enough atOnce
    have all := drained.walk.completes sound usable atOnce
    by_cases less : steps.length < maxSteps
    · exact drained.exhausted less
    · exact List.eq_nil_of_length_eq_zero (by omega)

/-! ### Runs -/

/-- Something that happens to the cores and takes no tick source away: anything short of
closing one. -/
structure CANCores.Move (W Ch Port : Type) where
  apply : CANCores W Ch Port → CANCores W Ch Port
  keepsTick : ∀ s core, (s.tick core).isSome → ((apply s).tick core).isSome

/-- An executor, its memory, and the log of the submissions it accepted. -/
structure CANExecutorHistory (W Ch Port : Type) where
  executor : CANExecutor
  heap : CANHeap W Ch Port
  log : List (Entry Nat)

/-- A call on the executor. In between the callers write to operations that it does not
hold, and the cores move on. -/
inductive CANExecutorCall (W Ch Port : Type) where
  | submit (operation : Option Nat)
  | runOnce
  | runUntilIdle (maxSteps : Nat)
  | write (address : Nat) (operation : CANOperation)
  | useCores (move : CANCores.Move W Ch Port)

namespace CANExecutorHistory

def init (heap : CANHeap W Ch Port) (hasSlots : Bool) (capacity : Nat) :
    CANExecutorHistory W Ch Port :=
  ⟨canExecutorInit hasSlots capacity, heap, []⟩

/-- The log after a run that left the memory `h`. -/
def settled (s : CANExecutorHistory W Ch Port) (h : CANHeap W Ch Port) : List (Entry Nat) :=
  settle (fun address => canOperationIsDone (h.op address)) s.log

/-- A step that would fault leaves everything as it is. -/
def next (s : CANExecutorHistory W Ch Port) :
    CANExecutorCall W Ch Port → CANExecutorHistory W Ch Port
  | .submit operation =>
      let (executor, heap, status) := canExecutorSubmit s.executor s.heap operation
      let accepted := if status = .ok then operation else none
      ⟨executor, heap, (accepted.map (enlist s.log)).getD s.log⟩
  | .runOnce =>
      match canExecutorRunOnce s.executor s.heap with
      | none => s
      | some (executor, heap, _) => ⟨executor, heap, s.settled heap⟩
  | .runUntilIdle maxSteps =>
      match canExecutorRunUntilIdle s.executor s.heap maxSteps with
      | none => s
      | some (executor, heap, _) => ⟨executor, heap, s.settled heap⟩
  | .write address operation =>
      if address ∈ s.executor.slots then s
      else { s with heap := s.heap.write address operation }
  | .useCores move => { s with heap := { s.heap with cores := move.apply s.heap.cores } }

/-- The slots are what was submitted and has not completed, in order and without
repetition, all of it pending, and there is room for it. -/
structure Accounted (s : CANExecutorHistory W Ch Port) : Prop where
  tracks : Tracks s.executor.slots s.log
  room : s.executor.slots.length ≤ s.executor.capacity
  pending : ∀ address ∈ s.executor.slots, (s.heap.op address).state = .pending

/-- What holds in every reachable state. -/
structure Kept (hasSlots : Bool) (capacity : Nat) (s : CANExecutorHistory W Ch Port) : Prop where
  tracks : Tracks s.executor.slots s.log
  sound : s.executor.Sound s.heap
  room : s.executor.slots.length ≤ capacity
  fixed : s.executor.capacity = capacity
  usable : s.executor.usable = (hasSlots && capacity != 0)
  empty : s.executor.usable = false → s.executor.slots = []

theorem kept_init (heap : CANHeap W Ch Port) (hasSlots : Bool) (capacity : Nat) :
    Kept hasSlots capacity (init heap hasSlots capacity) where
  tracks := .nil
  sound := ⟨List.nodup_nil, by simp [init, canExecutorInit]⟩
  room := Nat.zero_le capacity
  fixed := rfl
  usable := rfl
  empty _ := rfl

variable {hasSlots : Bool} {capacity : Nat} {s : CANExecutorHistory W Ch Port}

theorem Kept.submit (kept : Kept hasSlots capacity s) (operation : Option Nat) :
    Kept hasSlots capacity (s.next (.submit operation)) := by
  have sound := canExecutorSubmit_sound kept.sound operation
  have ended := canExecutorSubmit_submitted s.executor s.heap operation
  simp only [next]
  generalize canExecutorSubmit s.executor s.heap operation = r at ended sound ⊢
  cases ended with
  | refused bad => simpa [bad] using { kept with sound := sound }
  | rejected free bad => simpa [bad] using { kept with sound := sound }
  | @accepted address usable room free submittable =>
      have fixed := kept.fixed
      refine ⟨kept.tracks.enlist free, sound, ?_, fixed, kept.usable, ?_⟩
      · simp only [List.length_append, List.length_singleton]
        omega
      · exact fun unusable => absurd (usable.symm.trans unusable) (by simp)

/-- A call that conserves what the executor holds. -/
theorem Kept.conserved (kept : Kept hasSlots capacity s) {executor : CANExecutor}
    {h : CANHeap W Ch Port} (conserved : s.executor.Conserved s.heap executor h) :
    Kept hasSlots capacity ⟨executor, h, s.settled h⟩ where
  tracks := by
    rw [conserved.held]
    exact kept.tracks.settle _
  sound := conserved.sound
  room := Nat.le_trans conserved.fewer.length_le kept.room
  fixed := conserved.capacity.trans kept.fixed
  usable := conserved.usable.trans kept.usable
  empty unusable := by
    have none := kept.empty (conserved.usable.symm.trans unusable)
    exact List.sublist_nil.mp (none ▸ conserved.fewer)

/-- A call that leaves the executor alone, and what it holds live. -/
theorem Kept.heap (kept : Kept hasSlots capacity s) {h : CANHeap W Ch Port}
    (sound : s.executor.Sound h) : Kept hasSlots capacity { s with heap := h } :=
  { kept with sound := sound }

theorem Kept.write (kept : Kept hasSlots capacity s) (address : Nat) (operation : CANOperation) :
    Kept hasSlots capacity (s.next (.write address operation)) := by
  simp only [next]
  split
  · exact kept
  · rename_i free
    exact kept.heap (kept.sound.agree (CANHeap.agree_write free s.heap operation))

theorem Kept.useCores (kept : Kept hasSlots capacity s) (move : CANCores.Move W Ch Port) :
    Kept hasSlots capacity (s.next (.useCores move)) := by
  refine kept.heap ⟨kept.sound.distinct, fun address held => ?_⟩
  have live := kept.sound.live address held
  exact ⟨live.pending, live.valid, fun finite => move.keepsTick _ _ (live.runtime finite)⟩

theorem Kept.runOnce (kept : Kept hasSlots capacity s) :
    Kept hasSlots capacity (s.next .runOnce) := by
  simp only [next]
  split
  · exact kept
  · rename_i run
    exact kept.conserved (canExecutorRunOnce_conserved kept.sound run)

theorem canExecutorRunUntilIdle_refused {executor : CANExecutor} (h : CANHeap W Ch Port)
    {maxSteps : Nat} (refused : executor.usable = false ∨ maxSteps = 0) :
    canExecutorRunUntilIdle executor h maxSteps = some (executor, h, ⟨.einval, none⟩) := by
  unfold canExecutorRunUntilIdle
  rw [if_pos (by simpa using refused)]

theorem Kept.runUntilIdle (kept : Kept hasSlots capacity s) (maxSteps : Nat) :
    Kept hasSlots capacity (s.next (.runUntilIdle maxSteps)) := by
  by_cases refused : s.executor.usable = false ∨ maxSteps = 0
  · simp only [next, canExecutorRunUntilIdle_refused s.heap refused]
    exact kept.conserved kept.sound.conserved
  · simp only [not_or, Bool.not_eq_false] at refused
    obtain ⟨executor, h, report, run, drains⟩ :=
      canExecutorRunUntilIdle_drains kept.sound refused.1 (Nat.pos_of_ne_zero refused.2)
    obtain ⟨steps, drained, -⟩ := drains.steps
    simp only [next, run]
    exact kept.conserved (drained.walk.conserved kept.sound refused.1).1

theorem Kept.next (kept : Kept hasSlots capacity s) (call : CANExecutorCall W Ch Port) :
    Kept hasSlots capacity (s.next call) := by
  cases call with
  | submit operation => exact kept.submit operation
  | runOnce => exact kept.runOnce
  | runUntilIdle maxSteps => exact kept.runUntilIdle maxSteps
  | write address operation => exact kept.write address operation
  | useCores move => exact kept.useCores move

/-- In every reachable state the executor holds exactly what was submitted and has not
completed. With storage and capacity a further `CANExecutorRunUntilIdle` drains it, as far
as its steps allow; without them the executor stays empty and the call is refused. -/
theorem canExecutor_conserves (heap : CANHeap W Ch Port) (hasSlots : Bool) (capacity : Nat)
    (calls : List (CANExecutorCall W Ch Port)) :
    let s := Runs.run next (init heap hasSlots capacity) calls
    s.Accounted ∧
      (if hasSlots = true ∧ 0 < capacity then
        ∀ maxSteps, 0 < maxSteps → ∃ executor h report,
          canExecutorRunUntilIdle s.executor s.heap maxSteps = some (executor, h, report) ∧
          s.executor.Drains s.heap maxSteps executor h report
      else
        s.executor.slots = [] ∧ ∀ maxSteps,
          canExecutorRunUntilIdle s.executor s.heap maxSteps =
            some (s.executor, s.heap, ⟨.einval, none⟩)) := by
  intro s
  have kept : Kept hasSlots capacity s := Runs.run_invariant (Kept hasSlots capacity)
    (fun _ call kept => kept.next call) (kept_init heap hasSlots capacity) calls
  constructor
  · refine ⟨kept.tracks, ?_, fun address held => (kept.sound.live address held).pending⟩
    rw [kept.fixed]
    exact kept.room
  · split
    · rename_i canRun
      have usable : s.executor.usable = true := by
        simp [kept.usable, canRun.1, Nat.ne_of_gt canRun.2]
      exact fun maxSteps positive => canExecutorRunUntilIdle_drains kept.sound usable positive
    · rename_i cannotRun
      have unusable : s.executor.usable = false := by
        rw [kept.usable, Bool.and_eq_false_iff]
        by_cases slots : hasSlots = true
        · have none : ¬ 0 < capacity := fun positive => cannotRun ⟨slots, positive⟩
          exact .inr (by simpa using none)
        · exact .inl (by simpa using slots)
      exact ⟨kept.empty unusable, fun maxSteps =>
        canExecutorRunUntilIdle_refused s.heap (.inl unusable)⟩

/-- Without capacity nothing remains, and yet the call does not report it. -/
theorem no_capacity_not_ok :
    let s : CANExecutorHistory Unit Unit Unit := Runs.run next (init busyHeap true 0) []
    s.executor.slots = [] ∧
      canExecutorRunUntilIdle s.executor s.heap 1 =
        some (s.executor, s.heap, ⟨.einval, none⟩) :=
  ⟨rfl, rfl⟩

end CANExecutorHistory

end SmartBusAccess.Can
