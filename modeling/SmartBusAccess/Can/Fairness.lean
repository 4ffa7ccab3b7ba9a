import SmartBusAccess.Semantics.Rotation
import SmartBusAccess.Can.Conservation

/-!
How long an operation waits for its turn.

The executor goes around its slots, and an operation that completes is taken out under the
index. Submissions append at the end. While the operations there complete as fast as new
ones are submitted, the index never gets past the end, and an operation before it waits
forever (`round_robin_starves`). It does not as long as no more submissions are accepted
after its turn than there were free slots then (`round_robin_fair`).
-/

namespace SmartBusAccess.Can

open Rotation

variable {W Ch Port : Type}

/-! ### The slots as a rota -/

def CANExecutor.rota (executor : CANExecutor) : Rota Nat where
  items := executor.slots
  cursor := executor.turn
  inside := by
    unfold CANExecutor.turn
    split <;> omega

theorem CANExecutor.turn_lt {executor : CANExecutor} {address : Nat}
    (turn : executor.slots[executor.turn]? = some address) :
    executor.turn < executor.slots.length := (List.getElem?_eq_some_iff.mp turn).1

theorem CANExecutor.turn_eq {executor : CANExecutor}
    (inside : executor.nextIndex < executor.slots.length ∨ executor.nextIndex = 0) :
    executor.turn = executor.nextIndex := by
  unfold CANExecutor.turn
  split <;> omega

/-- The executor after a step that left its operation pending. -/
def CANExecutor.kept (executor : CANExecutor) : CANExecutor :=
  { executor with nextIndex := (executor.turn + 1) % executor.slots.length }

theorem CANExecutor.kept_turn {executor : CANExecutor} {address : Nat}
    (turn : executor.slots[executor.turn]? = some address) :
    executor.kept.turn = executor.kept.nextIndex :=
  turn_eq (.inl (Nat.mod_lt _ (Nat.zero_lt_of_lt (turn_lt turn))))

theorem CANExecutor.rota_kept {executor : CANExecutor} {address : Nat}
    (turn : executor.slots[executor.turn]? = some address) :
    executor.kept.rota = executor.rota.keep := by
  have inside := turn_lt turn
  ext1
  · rfl
  · refine (kept_turn turn).trans ?_
    change (executor.turn + 1) % executor.slots.length =
      if executor.slots.length ≤ executor.turn + 1 then 0 else executor.turn + 1
    split
    · have last : executor.turn + 1 = executor.slots.length := by omega
      rw [last, Nat.mod_self]
    · exact Nat.mod_eq_of_lt (by omega)

theorem CANExecutor.removed_turn {executor : CANExecutor} {address : Nat}
    (turn : executor.slots[executor.turn]? = some address) :
    (canExecutorRemoveAt executor executor.turn).nextIndex =
        (if (executor.slots.eraseIdx executor.turn).length ≤ executor.turn then 0
          else executor.turn) ∧
      (canExecutorRemoveAt executor executor.turn).turn =
        (canExecutorRemoveAt executor executor.turn).nextIndex := by
  have inside := turn_lt turn
  have next : (canExecutorRemoveAt executor executor.turn).nextIndex =
      if (executor.slots.eraseIdx executor.turn).length ≤ executor.turn then 0
      else executor.turn := by
    unfold canExecutorRemoveAt
    rw [if_neg (by omega)]
  refine ⟨next, turn_eq ?_⟩
  rw [next, canExecutorRemoveAt_slots turn]
  split <;> omega

theorem CANExecutor.rota_removed {executor : CANExecutor} {address : Nat}
    (turn : executor.slots[executor.turn]? = some address) :
    (canExecutorRemoveAt executor executor.turn).rota = executor.rota.drop := by
  obtain ⟨next, same⟩ := removed_turn turn
  ext1
  · exact canExecutorRemoveAt_slots turn
  · exact same.trans next

theorem CANExecutor.rota_pushed {executor : CANExecutor}
    (settled : executor.nextIndex = executor.turn) (address : Nat) :
    CANExecutor.rota { executor with slots := executor.slots ++ [address] } =
      executor.rota.push address := by
  have inside := executor.rota.inside
  have same : executor.nextIndex ≤ executor.slots.length - 1 := settled ▸ inside
  ext1
  · rfl
  · refine (turn_eq ?_).trans settled
    simp only [List.length_append, List.length_singleton]
    omega

/-! ### Runs -/

/-- A call on the executor, or something that happens in between. -/
inductive CANRotationCall (W Ch Port : Type) where
  | submit (operation : Option Nat)
  | runOnce
  | write (address : Nat) (operation : CANOperation)
  | useCores (move : CANCores.Move W Ch Port)

def CANRotationCall.call : CANRotationCall W Ch Port → CANExecutorCall W Ch Port
  | .submit operation => .submit operation
  | .runOnce => .runOnce
  | .write address operation => .write address operation
  | .useCores move => .useCores move

def CANRotationCall.isRunOnce : CANRotationCall W Ch Port → Bool
  | .runOnce => true
  | _ => false

/-- An executor's history, and for each operation the slots that were free when it last had
its turn, less the submissions accepted since. -/
structure CANRotation (W Ch Port : Type) where
  history : CANExecutorHistory W Ch Port
  credit : Nat → Nat

namespace CANRotation

variable (s : CANRotation W Ch Port)

abbrev executor : CANExecutor := s.history.executor

/-- The operation whose turn it is. -/
def current : Option Nat := s.executor.slots[s.executor.turn]?

def accepts : CANRotationCall W Ch Port → Bool
  | .submit operation => (canExecutorSubmit s.executor s.history.heap operation).2.2 == .ok
  | _ => false

def next (call : CANRotationCall W Ch Port) : CANRotation W Ch Port where
  history := s.history.next call.call
  credit address :=
    if call.isRunOnce && s.current == some address then
      s.executor.capacity - s.executor.slots.length
    else if s.accepts call then s.credit address - 1
    else s.credit address

def init (heap : CANHeap W Ch Port) (hasSlots : Bool) (capacity : Nat) : CANRotation W Ch Port :=
  ⟨.init heap hasSlots capacity, fun _ => 0⟩

/-- No submission is accepted that goes beyond the slots that were free when a held
operation had its turn, while the index is past that operation. -/
def Roomy (call : CANRotationCall W Ch Port) : Prop :=
  s.accepts call → ∀ i < s.executor.nextIndex, ∀ address ∈ s.executor.slots[i]?,
    0 < s.credit address

/-- The call is a step, and the operation's turn. -/
def HasTurn (address : Nat) (call : CANRotationCall W Ch Port) : Prop :=
  call.isRunOnce ∧ s.current = some address

/-- The call runs the operation: `CANOperationRunOnce` is called on it, pending, and what that
leaves of the cores and of the operation is what the memory holds afterwards. -/
structure Advances (address : Nat) (call : CANRotationCall W Ch Port) : Prop where
  runs : call.isRunOnce
  pending : (s.history.heap.op address).state = .pending
  ran : ∃ cores operation result,
    canOperationRunOnce s.history.heap.cores (s.history.heap.op address) =
        some (cores, operation, result) ∧
      (s.next call).history.heap = { s.history.heap with cores := cores }.write address operation ∧
      (s.next call).executor =
        if result = .pending then s.executor.kept
        else canExecutorRemoveAt s.executor s.executor.turn
  turn : s.executor.slots[s.executor.turn]? = some address

/-! ### The wait of a held operation -/

variable {s}

/-- The operation is held, and its turn comes within `bound` steps. -/
def Waits (s : CANRotation W Ch Port) (address bound : Nat) : Prop :=
  ∃ i, s.executor.slots[i]? = some address ∧
    s.executor.rota.wait i (s.credit address) < bound

/-- What holds in every reachable state. -/
structure Fair (hasSlots : Bool) (capacity : Nat) (s : CANRotation W Ch Port) : Prop where
  kept : s.history.Kept hasSlots capacity
  settled : s.executor.nextIndex = s.executor.turn
  waits : ∀ address ∈ s.executor.slots, s.Waits address capacity

theorem Waits.held {address bound : Nat} (waits : s.Waits address bound) :
    address ∈ s.executor.slots := by
  obtain ⟨i, here, -⟩ := waits
  exact List.mem_of_getElem? here

/-- What a call does to the executor. -/
inductive Turned (s : CANRotation W Ch Port) (call : CANRotationCall W Ch Port) :
    CANExecutor → Prop where
  | same (still : call.isRunOnce = false) (refused : s.accepts call = false) :
      Turned s call s.executor
  | pushed {address : Nat} (still : call.isRunOnce = false) (accepted : s.accepts call = true)
      (room : s.executor.slots.length < s.executor.capacity) :
      Turned s call { s.executor with slots := s.executor.slots ++ [address] }
  | idle (runs : call.isRunOnce = true) (empty : s.executor.slots = []) :
      Turned s call s.executor
  | kept {address : Nat} (runs : call.isRunOnce = true) (turn : s.current = some address) :
      Turned s call s.executor.kept
  | removed {address : Nat} (runs : call.isRunOnce = true) (turn : s.current = some address) :
      Turned s call (canExecutorRemoveAt s.executor s.executor.turn)

variable {hasSlots : Bool} {capacity : Nat}

theorem Fair.turned (fair : Fair hasSlots capacity s) (call : CANRotationCall W Ch Port) :
    s.Turned call (s.next call).executor := by
  cases call with
  | submit operation =>
      have ended := canExecutorSubmit_submitted s.executor s.history.heap operation
      have accepts : s.accepts (.submit operation) =
          ((canExecutorSubmit s.executor s.history.heap operation).2.2 == .ok) := rfl
      simp only [next, CANRotationCall.call, CANExecutorHistory.next, executor] at accepts ⊢
      generalize canExecutorSubmit s.history.executor s.history.heap operation = r
        at ended accepts ⊢
      cases ended with
      | refused bad => exact .same rfl (by simpa [accepts] using bad)
      | rejected _ bad => exact .same rfl (by simpa [accepts] using bad)
      | accepted _ room _ _ => exact .pushed rfl (by simp [accepts]) room
  | runOnce =>
      obtain ⟨executor', h', result, run, -, -⟩ := canExecutorRunOnce_sound fair.kept.sound
      have stepped := canExecutorRunOnce_stepped run
      simp only [next, CANRotationCall.call, CANExecutorHistory.next, run]
      cases stepped with
      | unusable bad => exact .idle rfl (fair.kept.empty bad)
      | idle empty => exact .idle rfl empty
      | removed turn _ _ => exact .removed rfl turn
      | kept turn _ => exact .kept rfl turn
  | write address operation =>
      have same : (s.next (.write address operation)).executor = s.executor := by
        simp only [next, CANRotationCall.call, CANExecutorHistory.next, executor]
        split <;> rfl
      rw [same]
      exact .same rfl rfl
  | useCores move => exact .same rfl rfl

theorem next_credit_other {call : CANRotationCall W Ch Port} {address : Nat}
    (passed : ¬ s.HasTurn address call) :
    (s.next call).credit address =
      if s.accepts call then s.credit address - 1 else s.credit address :=
  if_neg fun both => passed (by simpa [HasTurn] using both)

theorem accepts_runOnce {call : CANRotationCall W Ch Port} (runs : call.isRunOnce = true) :
    s.accepts call = false := by
  cases call <;> simp_all [CANRotationCall.isRunOnce, accepts]

/-- A call that does not run the operation leaves it held or takes it out; it is one step
closer to its turn if the call ran another. -/
theorem Fair.advance (fair : Fair hasSlots capacity s) {call : CANRotationCall W Ch Port}
    (roomy : s.Roomy call) {address bound : Nat} (waits : s.Waits address bound)
    (passed : ¬ s.HasTurn address call) :
    (s.next call).Waits address (if call.isRunOnce then bound - 1 else bound) := by
  obtain ⟨i, here, wait⟩ := waits
  have turned := fair.turned call
  have inside : i < s.executor.rota.items.length := (List.getElem?_eq_some_iff.mp here).1
  have other {turn : Nat} (runs : call.isRunOnce = true) (current : s.current = some turn) :
      i ≠ s.executor.rota.cursor := by
    rintro rfl
    exact passed ⟨runs, here⟩
  have credit := next_credit_other passed
  unfold Waits
  rw [credit]
  generalize (s.next call).executor = executor at turned ⊢
  cases turned with
  | same still refused =>
      simp only [still, refused, Bool.false_eq_true, if_false]
      exact ⟨i, here, wait⟩
  | @pushed new still accepted room =>
      simp only [still, accepted, Bool.false_eq_true, if_false, if_true]
      refine ⟨i, ?_, ?_⟩
      · exact (List.getElem?_append_left inside).trans here
      · rw [CANExecutor.rota_pushed fair.settled]
        have allowed : i < s.executor.rota.cursor → 0 < s.credit address := fun before =>
          roomy accepted i (fair.settled.symm ▸ before) address here
        exact Nat.lt_of_le_of_lt (Rota.wait_push allowed new) wait
  | idle _ empty => simp [empty] at here
  | kept runs turn =>
      have closer := Rota.wait_keep (s.credit address) inside (other runs turn)
      simp only [runs, accepts_runOnce runs, Bool.false_eq_true, if_false, if_true]
      refine ⟨i, here, ?_⟩
      rw [CANExecutor.rota_kept turn]
      omega
  | removed runs turn =>
      have closer := Rota.wait_drop (s.credit address) inside (other runs turn)
      simp only [runs, accepts_runOnce runs, Bool.false_eq_true, if_false, if_true]
      have rota := CANExecutor.rota_removed turn
      refine ⟨s.executor.rota.shifted i, ?_, ?_⟩
      · have shifted := Rota.drop_shifted (other runs turn)
        rw [← rota] at shifted
        exact shifted.trans here
      · rw [rota]
        omega

theorem next_credit_self {call : CANRotationCall W Ch Port} {address : Nat}
    (runs : call.isRunOnce = true) (turn : s.current = some address) :
    (s.next call).credit address = s.executor.capacity - s.executor.slots.length :=
  if_pos (by simp [runs, turn])

/-- The operation that had its turn waits for the others again. -/
theorem Fair.again (fair : Fair hasSlots capacity s) {address : Nat}
    (turn : s.current = some address) :
    s.executor.kept.rota.wait s.executor.rota.cursor
      (s.executor.capacity - s.executor.slots.length) < capacity := by
  have held : address ∈ s.executor.slots := List.mem_of_getElem? turn
  have fixed : s.executor.capacity = capacity := fair.kept.fixed
  have room : s.executor.rota.items.length ≤ capacity := fair.kept.room
  rw [CANExecutor.rota_kept turn, fixed]
  exact Rota.wait_keep_self (List.ne_nil_of_mem held) room

/-- In its turn the operation is run. -/
theorem Fair.advances (fair : Fair hasSlots capacity s) {call : CANRotationCall W Ch Port}
    {address : Nat} (mine : s.HasTurn address call) : s.Advances address call := by
  obtain ⟨runs, turn⟩ := mine
  have held : address ∈ s.executor.slots := List.mem_of_getElem? turn
  cases call with
  | submit operation => cases runs
  | write other operation => cases runs
  | useCores move => cases runs
  | runOnce =>
      obtain ⟨executor', h', ended, run, -, -⟩ := canExecutorRunOnce_sound fair.kept.sound
      have stepped := canExecutorRunOnce_stepped run
      have next : (s.next .runOnce).history.executor = executor' ∧
          (s.next .runOnce).history.heap = h' := by
        simp only [CANRotation.next, CANRotationCall.call, CANExecutorHistory.next, run, and_self]
      refine ⟨runs, (fair.kept.sound.live address held).pending, ?_, turn⟩
      rw [executor, next.1, next.2]
      cases stepped with
      | unusable bad => exact absurd (fair.kept.empty bad) (List.ne_nil_of_mem held)
      | idle empty => exact absurd empty (List.ne_nil_of_mem held)
      | removed current step kind =>
          obtain rfl := Option.some.inj (current.symm.trans turn)
          refine ⟨_, _, _, step, rfl, ?_⟩
          rcases kind with ⟨rfl, -⟩ | ⟨rfl, -⟩ <;> rfl
      | kept current step =>
          obtain rfl := Option.some.inj (current.symm.trans turn)
          exact ⟨_, _, _, step, rfl, rfl⟩

/-- What is held after a call was held before, or has just been submitted. -/
theorem Fair.next (fair : Fair hasSlots capacity s) {call : CANRotationCall W Ch Port}
    (roomy : s.Roomy call) : Fair hasSlots capacity (s.next call) := by
  have turned := fair.turned call
  have old {address : Nat} (held : address ∈ s.executor.slots)
      (passed : ¬ s.HasTurn address call) : (s.next call).Waits address capacity := by
    obtain ⟨i, here, wait⟩ := fair.advance roomy (fair.waits address held) passed
    exact ⟨i, here, Nat.lt_of_lt_of_le wait (by split <;> omega)⟩
  refine ⟨fair.kept.next call.call, ?_, ?_⟩
  · generalize (s.next call).executor = executor at turned ⊢
    cases turned with
    | same _ _ => exact fair.settled
    | @pushed new _ _ _ =>
        exact fair.settled.trans
          (congrArg Rota.cursor (CANExecutor.rota_pushed fair.settled new)).symm
    | idle _ _ => exact fair.settled
    | kept _ turn => exact (CANExecutor.kept_turn turn).symm
    | removed _ turn => exact (CANExecutor.removed_turn turn).2.symm
  · intro address held
    generalize after : (s.next call).executor = executor at turned held
    cases turned with
    | same still _ =>
        exact old held fun mine => Bool.false_ne_true (still.symm.trans mine.1)
    | @pushed new still _ room =>
        rcases List.mem_append.mp held with before | last
        · exact old before fun mine => Bool.false_ne_true (still.symm.trans mine.1)
        · obtain rfl := List.mem_singleton.mp last
          refine ⟨s.executor.slots.length, by simp [after], ?_⟩
          rw [after, CANExecutor.rota_pushed fair.settled]
          have fixed : s.executor.capacity = capacity := fair.kept.fixed
          exact Nat.lt_of_le_of_lt (Rota.wait_push_new address) (fixed ▸ room)
    | idle _ empty => simp [empty] at held
    | @kept current runs turn =>
        by_cases own : current = address
        · subst own
          refine ⟨s.executor.rota.cursor, by rw [after]; exact turn, ?_⟩
          rw [after, next_credit_self runs turn]
          exact fair.again turn
        · exact old held fun mine => own (Option.some.inj (turn.symm.trans mine.2))
    | @removed current runs turn =>
        rw [canExecutorRemoveAt_slots turn] at held
        have others := ne_of_mem_eraseIdx fair.kept.sound.distinct turn held
        exact old (List.mem_of_mem_eraseIdx held) fun mine =>
          others (Option.some.inj (mine.2.symm.trans turn))

/-- As long as an operation is not run, the steps taken stay below its wait. -/
theorem Fair.bounded (fair : Fair hasSlots capacity s) {window : List (CANRotationCall W Ch Port)}
    (roomy : ∀ p ∈ Runs.steps CANRotation.next s window, p.1.Roomy p.2) {address bound : Nat}
    (waits : s.Waits address bound)
    (passed : ∀ p ∈ Runs.steps CANRotation.next s window, ¬ p.1.HasTurn address p.2) :
    window.countP CANRotationCall.isRunOnce < bound := by
  induction window generalizing s bound with
  | nil =>
      obtain ⟨i, -, wait⟩ := waits
      exact Nat.zero_lt_of_lt wait
  | cons call rest ih =>
      simp only [Runs.steps, List.forall_mem_cons] at roomy passed
      have later := ih (fair.next roomy.1) roomy.2
        (fair.advance roomy.1 waits passed.1) passed.2
      rw [List.countP_cons]
      cases runs : call.isRunOnce with
      | true =>
          rw [runs, if_pos rfl] at later
          rw [if_pos rfl]
          omega
      | false => simpa [runs] using later

/-- In every run in which no submission goes beyond the slots that were free when an
operation before the index had its turn, every held operation is run within any `capacity`
steps. -/
theorem round_robin_fair (heap : CANHeap W Ch Port) (hasSlots : Bool) (capacity : Nat)
    (front window : List (CANRotationCall W Ch Port)) (address : Nat)
    (roomy : ∀ p ∈ Runs.steps CANRotation.next (init heap hasSlots capacity) (front ++ window),
      p.1.Roomy p.2)
    (held : address ∈
      (Runs.run CANRotation.next (init heap hasSlots capacity) front).executor.slots)
    (long : capacity ≤ window.countP CANRotationCall.isRunOnce) :
    ∃ p ∈ Runs.steps CANRotation.next
        (Runs.run CANRotation.next (init heap hasSlots capacity) front) window,
      p.1.Advances address p.2 := by
  rw [Runs.steps_append] at roomy
  have start : Fair hasSlots capacity (init heap hasSlots capacity) :=
    ⟨CANExecutorHistory.kept_init heap hasSlots capacity, rfl,
      fun _ held => absurd held List.not_mem_nil⟩
  have fair := Runs.run_invariant_among (Fair hasSlots capacity)
    (fun _ _ fair roomy => fair.next roomy) start front
    fun p mem => roomy p (List.mem_append_left _ mem)
  by_contra none
  have within : ∀ p ∈ Runs.steps CANRotation.next
      (Runs.run CANRotation.next (init heap hasSlots capacity) front) window, p.1.Roomy p.2 :=
    fun p mem => roomy p (List.mem_append_right _ mem)
  have fairs := Runs.steps_invariant_among (Fair hasSlots capacity)
    (fun _ _ fair roomy => fair.next roomy) fair window within
  have short := fair.bounded within (fair.waits address held)
    fun p mem mine => none ⟨p, mem, (fairs p mem).advances mine⟩
  omega

instance (s : CANRotation W Ch Port) (address : Nat) (call : CANRotationCall W Ch Port) :
    Decidable (s.HasTurn address call) :=
  inferInstanceAs (Decidable (_ ∧ _))

instance (s : CANRotation W Ch Port) (call : CANRotationCall W Ch Port) :
    Decidable (s.Roomy call) :=
  inferInstanceAs (Decidable (_ → _))

/-- A send that waits for the bus, at address 0, and receives that do not wait. -/
def sendAndReceives (receives : List Nat) : List (CANRotationCall Unit Unit Unit) :=
  .write 0 (canOperationPrepareSend (some 0) (some idleFrame) canTimeoutInfinite) ::
    receives.map fun address =>
      .write address (canOperationPrepareReceive (some 0) (some idleFrame) 0)

/-- Two operations share an executor of capacity 2: the send is run in any two steps. -/
theorem round_robin_fair_two :
    ∃ p ∈ Runs.steps CANRotation.next
        (Runs.run CANRotation.next (init busyHeap true 2)
          (sendAndReceives [1] ++ [.submit (some 0), .submit (some 1), .runOnce]))
        [.runOnce, .runOnce],
      p.1.Advances 0 p.2 := by
  refine round_robin_fair busyHeap true 2 _ _ 0 ?_ ?_ ?_
  · decide +kernel
  · decide +kernel
  · decide

theorem Advances.hasTurn {address : Nat} {call : CANRotationCall W Ch Port}
    (advances : s.Advances address call) : s.HasTurn address call :=
  ⟨advances.runs, advances.turn⟩

/-- In an executor of capacity 3 the send is run once. Then a receive completes at every
step, and a new one is submitted in its place: three steps, none of them for the send. -/
theorem round_robin_starves :
    let s : CANRotation Unit Unit Unit := Runs.run CANRotation.next (init busyHeap true 3)
      (sendAndReceives [1, 2, 3, 4] ++
        [.submit (some 0), .submit (some 1), .submit (some 2), .runOnce])
    let window : List (CANRotationCall Unit Unit Unit) :=
      [.runOnce, .submit (some 3), .runOnce, .submit (some 4), .runOnce]
    window.countP CANRotationCall.isRunOnce = s.executor.capacity ∧
      (∀ p ∈ Runs.steps CANRotation.next s window,
        0 ∈ p.1.executor.slots ∧ ¬ p.1.Advances 0 p.2) ∧
      0 ∈ (Runs.run CANRotation.next s window).executor.slots := by
  intro s window
  have starved : window.countP CANRotationCall.isRunOnce = s.executor.capacity ∧
      (∀ p ∈ Runs.steps CANRotation.next s window,
        0 ∈ p.1.executor.slots ∧ ¬ p.1.HasTurn 0 p.2) ∧
      0 ∈ (Runs.run CANRotation.next s window).executor.slots := by
    decide +kernel
  refine ⟨starved.1, fun p mem => ?_, starved.2.2⟩
  exact ⟨(starved.2.1 p mem).1, fun advances => (starved.2.1 p mem).2 advances.hasTurn⟩

end CANRotation

end SmartBusAccess.Can
