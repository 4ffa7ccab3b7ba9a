import SmartBusAccess.Can.Core
import Mathlib.Logic.Function.Basic

/-!
Operations (`can_operation.c`): a send, a receive or a poll as an object that is
prepared, submitted and then run one step at a time until it completes.

An operation points to its core, and several operations may share one, so the
cores are a table beside the world. The buffers an operation points to travel
with it. A step is `none` when it would call through a null pointer: a missing
tick source or a null ready mask.
-/

namespace SmartBusAccess.Can

open Looping

inductive CANOperationType where
  | none
  | send
  | receive
  | poll
deriving DecidableEq, Repr

inductive CANOperationState where
  | idle
  | ready
  | pending
  | completed
deriving DecidableEq, Repr

inductive CANOperationRunResult where
  | error
  | pending
  | completed
deriving DecidableEq, Repr

structure CANOperation where
  type : CANOperationType
  state : CANOperationState
  core : Option Nat
  txFrame : Option CANFrame
  rxFrame : Option CANFrame
  interestMask : UInt32
  readyMask : Option UInt32
  timeoutMs : UInt32
  startMs : UInt32
  deadlineStarted : Bool
  resultStatus : CANStatus
deriving DecidableEq

/-- The world and the cores in it, by address. -/
structure CANCores (W Ch Port : Type) where
  world : W
  core : Nat → CANCore W Ch Port

variable {W Ch Port : Type}

/-- Write back what a call on a core returned. -/
def CANCores.put (s : CANCores W Ch Port) (address : Nat) (core : CANCore W Ch Port) (w : W) :
    CANCores W Ch Port :=
  ⟨w, Function.update s.core address core⟩

/-- `CANCoreIsStarted`, false of a null pointer. -/
def CANCores.isStarted (s : CANCores W Ch Port) (core : Option Nat) : Bool :=
  core.any fun address => decide ((s.core address).state = .started)

/-- The tick source behind a core pointer. -/
def CANCores.tick (s : CANCores W Ch Port) (core : Option Nat) : Option (W → W × UInt32) :=
  core.bind fun address => (s.core address).tick

/-! ### Preparing -/

def canOperationInit : CANOperation :=
  { type := .none, state := .idle, core := none, txFrame := none, rxFrame := none
    interestMask := 0, readyMask := none, timeoutMs := 0, startMs := 0
    deadlineStarted := false, resultStatus := .ok }

def canOperationPrepareSend (core : Option Nat) (frame : Option CANFrame) (timeoutMs : UInt32) :
    CANOperation :=
  { canOperationInit with
    type := .send, state := .ready, core := core, txFrame := frame, timeoutMs := timeoutMs }

def canOperationPrepareReceive (core : Option Nat) (frame : Option CANFrame)
    (timeoutMs : UInt32) : CANOperation :=
  { canOperationInit with
    type := .receive, state := .ready, core := core, rxFrame := frame, timeoutMs := timeoutMs }

def canOperationPreparePoll (core : Option Nat) (interestMask timeoutMs : UInt32)
    (readyMask : Option UInt32) : CANOperation :=
  { canOperationInit with
    type := .poll, state := .ready, core := core, interestMask := interestMask
    timeoutMs := timeoutMs, readyMask := readyMask }

/-! ### Submitting -/

def canOperationHasRuntime (s : CANCores W Ch Port) (operation : CANOperation) : Bool :=
  (s.tick operation.core).isSome

def canOperationFiniteTimeoutEnabled (operation : CANOperation) : Bool :=
  operation.timeoutMs != 0 && operation.timeoutMs != canTimeoutInfinite

/-- The checks of the three types on their arguments. -/
def CANOperation.argumentsValid (operation : CANOperation) : Bool :=
  match operation.type with
  | .send => operation.txFrame.isSome
  | .receive => operation.rxFrame.isSome
  | .poll => operation.readyMask.isSome && interestValid operation.interestMask
  | .none => false

def canOperationSubmit (s : CANCores W Ch Port) (operation : CANOperation) :
    CANOperation × CANStatus :=
  if operation.state != .ready then ({ operation with resultStatus := .ebusy }, .ebusy)
  else if !s.isStarted operation.core then ({ operation with resultStatus := .ebusy }, .ebusy)
  else if !operation.argumentsValid then ({ operation with resultStatus := .einval }, .einval)
  else
    -- only a poll has a ready mask to clear
    let operation := { operation with
      readyMask := if operation.type = .poll then some 0 else operation.readyMask }
    if canOperationFiniteTimeoutEnabled operation && !canOperationHasRuntime s operation then
      ({ operation with resultStatus := .eunsupported }, .eunsupported)
    else
      ({ operation with deadlineStarted := false, resultStatus := .ok, state := .pending }, .ok)

/-! ### Running -/

def canOperationNowMs (s : CANCores W Ch Port) (operation : CANOperation) :
    Option (CANCores W Ch Port × UInt32) :=
  (s.tick operation.core).map fun tick =>
    let (w, nowMs) := tick s.world
    ({ s with world := w }, nowMs)

def canOperationDeadlineExpired (s : CANCores W Ch Port) (operation : CANOperation) :
    Option (CANCores W Ch Port × Bool) :=
  if !operation.deadlineStarted then some (s, false)
  else if !canOperationFiniteTimeoutEnabled operation then some (s, false)
  else
    (canOperationNowMs s operation).map fun (s, nowMs) =>
      (s, canCoreDeadlineExpired operation.startMs operation.timeoutMs nowMs)

def canOperationComplete (operation : CANOperation) (status : CANStatus) : CANOperation :=
  { operation with resultStatus := status, state := .completed }

/-- The deadline starts with the first step, not with the submission. -/
def canOperationStartDeadline (s : CANCores W Ch Port) (operation : CANOperation) :
    Option (CANCores W Ch Port × CANOperation) :=
  if canOperationFiniteTimeoutEnabled operation && !operation.deadlineStarted then
    (canOperationNowMs s operation).map fun (s, nowMs) =>
      (s, { operation with startMs := nowMs, deadlineStarted := true })
  else some (s, operation)

/-- What follows an attempt, the same for the three types but for the status that
is worth another one. -/
def canOperationSettle (retry : CANStatus) (s : CANCores W Ch Port) (operation : CANOperation)
    (status : CANStatus) : Option (CANCores W Ch Port × CANOperation × CANOperationRunResult) :=
  if status != retry then some (s, canOperationComplete operation status, .completed)
  else if operation.timeoutMs == 0 then some (s, canOperationComplete operation retry, .completed)
  else
    (canOperationDeadlineExpired s operation).map fun (s, expired) =>
      if expired then (s, canOperationComplete operation .etimeout, .completed)
      else (s, operation, .pending)

/-- `CANCoreTrySend` through a core pointer. -/
def CANCores.trySend (s : CANCores W Ch Port) (core : Option Nat) (frame : Option CANFrame) :
    CANCores W Ch Port × CANStatus :=
  match core with
  | none => (s, .einval)
  | some address =>
      let (core, w, status) := canCoreTrySend (s.core address) s.world frame
      (s.put address core w, status)

/-- `CANCoreTryReceive` through a core pointer. -/
def CANCores.tryReceive (s : CANCores W Ch Port) (core : Option Nat) (frame : Option CANFrame) :
    CANCores W Ch Port × CANStatus × Option CANFrame :=
  match core with
  | none => (s, .einval, frame)
  | some address =>
      let (core, w, status, frame) := canCoreTryReceive (s.core address) s.world frame
      (s.put address core w, status, frame)

/-- `CANCorePoll` through a core pointer, without waiting: one turn is enough. -/
def CANCores.pollNow (s : CANCores W Ch Port) (core : Option Nat) (interestMask : UInt32) :
    CANCores W Ch Port × CANStatus × UInt32 :=
  match core with
  | none => (s, .einval, 0)
  | some address =>
      match canCorePoll 1 (s.core address) s.world interestMask 0 (some 0) with
      | none => (s, .einval, 0)
      | some (core, w, status, readyMask) => (s.put address core w, status, readyMask.getD 0)

/-- The `switch` of `CANOperationRunOnce`. -/
def canOperationAttempt (s : CANCores W Ch Port) (operation : CANOperation) :
    Option (CANCores W Ch Port × CANOperation × CANOperationRunResult) :=
  match operation.type with
  | .send =>
      let (s, status) := s.trySend operation.core operation.txFrame
      canOperationSettle .ebusy s operation status
  | .receive =>
      let (s, status, frame) := s.tryReceive operation.core operation.rxFrame
      canOperationSettle .enodata s { operation with rxFrame := frame } status
  | .poll =>
      let (s, status, queriedMask) := s.pollNow operation.core operation.interestMask
      match operation.readyMask with
      | none => none
      | some _ =>
          let readyMask := if status == .ok then queriedMask else 0
          canOperationSettle .enodata s { operation with readyMask := some readyMask } status
  | .none => some (s, { operation with resultStatus := .einval }, .error)

def canOperationRunOnce (s : CANCores W Ch Port) (operation : CANOperation) :
    Option (CANCores W Ch Port × CANOperation × CANOperationRunResult) :=
  if operation.state = .completed then some (s, operation, .completed)
  else if operation.state != .pending then
    some (s, { operation with resultStatus := .ebusy }, .error)
  else
    (canOperationStartDeadline s operation).bind fun (s, operation) =>
      canOperationAttempt s operation

def canOperationIsDone (operation : CANOperation) : Bool := operation.state = .completed

def canOperationGetResult (operation : CANOperation) : CANStatus := operation.resultStatus

/-! ### What a step leaves alone -/

/-- The cores are bound as before: only their counters and last statuses moved. -/
def CANCores.SameLinks (s s' : CANCores W Ch Port) : Prop :=
  ∀ address, (s'.core address).link = (s.core address).link

theorem CANCores.SameLinks.refl (s : CANCores W Ch Port) : s.SameLinks s := fun _ => rfl

theorem CANCores.SameLinks.trans {s t u : CANCores W Ch Port} (first : s.SameLinks t)
    (second : t.SameLinks u) : s.SameLinks u :=
  fun address => (second address).trans (first address)

theorem CANCores.SameLinks.tick {s s' : CANCores W Ch Port} (same : s.SameLinks s')
    (core : Option Nat) : s'.tick core = s.tick core := by
  cases core with
  | none => rfl
  | some address => simp [CANCores.tick, CANCore.tick, same address]

theorem CANCores.SameLinks.isStarted {s s' : CANCores W Ch Port} (same : s.SameLinks s')
    (core : Option Nat) : s'.isStarted core = s.isStarted core := by
  cases core with
  | none => rfl
  | some address =>
      simp only [CANCores.isStarted, Option.any_some]
      rw [CANCore.state_congr (same address)]

theorem CANCores.sameLinks_put {s : CANCores W Ch Port} {address : Nat} {core : CANCore W Ch Port}
    (link : core.link = (s.core address).link) (w : W) : s.SameLinks (s.put address core w) := by
  intro other
  by_cases eq : other = address
  · subst eq
    simp [CANCores.put, link]
  · simp [CANCores.put, eq]

theorem CANCores.trySend_sameLinks (s : CANCores W Ch Port) (core : Option Nat)
    (frame : Option CANFrame) : s.SameLinks (s.trySend core frame).1 := by
  cases core with
  | none => exact .refl s
  | some address => exact sameLinks_put (canCoreSend_link _ _ _) _

theorem CANCores.tryReceive_sameLinks (s : CANCores W Ch Port) (core : Option Nat)
    (frame : Option CANFrame) : s.SameLinks (s.tryReceive core frame).1 := by
  cases core with
  | none => exact .refl s
  | some address => exact sameLinks_put (canCoreReceive_link _ _ _) _

theorem CANCores.pollNow_sameLinks (s : CANCores W Ch Port) (core : Option Nat)
    (interestMask : UInt32) : s.SameLinks (s.pollNow core interestMask).1 := by
  cases core with
  | none => exact .refl s
  | some address =>
      obtain ⟨core', w, status, mask, polled, link⟩ :=
        canCorePoll_immediate (s.core address) s.world interestMask (some 0)
      simp only [CANCores.pollNow, polled]
      exact sameLinks_put link w

theorem CANCores.tryReceive_isSome (s : CANCores W Ch Port) (core : Option Nat)
    (frame : Option CANFrame) : (s.tryReceive core frame).2.2.isSome = frame.isSome := by
  cases core with
  | none => rfl
  | some address => exact canCoreReceive_isSome (s.core address) s.world frame

/-! ### One step -/

/-- What the end of a step does to an operation. -/
inductive Settled (s : CANCores W Ch Port) (operation : CANOperation) :
    CANCores W Ch Port × CANOperation × CANOperationRunResult → Prop where
  | completed {s' : CANCores W Ch Port} (same : s.SameLinks s') (status : CANStatus) :
      Settled s operation (s', canOperationComplete operation status, .completed)
  | pending {s' : CANCores W Ch Port} (same : s.SameLinks s') :
      Settled s operation (s', operation, .pending)

theorem canOperationNowMs_sameLinks {s s' : CANCores W Ch Port} {operation : CANOperation}
    {nowMs : UInt32} (read : canOperationNowMs s operation = some (s', nowMs)) :
    s.SameLinks s' := by
  cases tick : s.tick operation.core with
  | none => simp [canOperationNowMs, tick] at read
  | some source =>
      simp only [canOperationNowMs, tick, Option.map_some, Option.some.injEq, Prod.mk.injEq] at read
      obtain ⟨rfl, -⟩ := read
      exact .refl s

theorem canOperationDeadlineExpired_sameLinks {s s' : CANCores W Ch Port}
    {operation : CANOperation} {expired : Bool}
    (read : canOperationDeadlineExpired s operation = some (s', expired)) : s.SameLinks s' := by
  unfold canOperationDeadlineExpired at read
  split at read
  · simp only [Option.some.injEq, Prod.mk.injEq] at read
    exact read.1 ▸ .refl s
  split at read
  · simp only [Option.some.injEq, Prod.mk.injEq] at read
    exact read.1 ▸ .refl s
  · obtain ⟨⟨t, nowMs⟩, now, eq⟩ := Option.map_eq_some_iff.mp read
    simp only [Prod.mk.injEq] at eq
    exact eq.1 ▸ canOperationNowMs_sameLinks now

theorem canOperationSettle_settled {retry status : CANStatus} {s : CANCores W Ch Port}
    {operation : CANOperation} {r : CANCores W Ch Port × CANOperation × CANOperationRunResult}
    (settle : canOperationSettle retry s operation status = some r) : Settled s operation r := by
  unfold canOperationSettle at settle
  split at settle
  · obtain rfl := Option.some.inj settle
    exact .completed (.refl s) status
  split at settle
  · obtain rfl := Option.some.inj settle
    exact .completed (.refl s) retry
  · obtain ⟨⟨t, expired⟩, read, rfl⟩ := Option.map_eq_some_iff.mp settle
    have same := canOperationDeadlineExpired_sameLinks read
    cases expired with
    | true => exact .completed same .etimeout
    | false => exact .pending same

/-- A submitted operation that nothing but running has touched, and whose step
cannot fault: its arguments are there and so is the tick source it needs. -/
structure CANOperation.Live (s : CANCores W Ch Port) (operation : CANOperation) : Prop where
  pending : operation.state = .pending
  valid : operation.argumentsValid
  runtime : canOperationFiniteTimeoutEnabled operation → canOperationHasRuntime s operation

theorem CANOperation.Live.congr {s s' : CANCores W Ch Port} {operation : CANOperation}
    (live : operation.Live s) (same : s.SameLinks s') : operation.Live s' where
  pending := live.pending
  valid := live.valid
  runtime finite := by
    simp only [canOperationHasRuntime, same.tick]
    exact live.runtime finite

/-- What a submission needs. -/
structure CANOperation.Submittable (s : CANCores W Ch Port) (operation : CANOperation) : Prop where
  ready : operation.state = .ready
  started : s.isStarted operation.core
  valid : operation.argumentsValid
  runtime : canOperationFiniteTimeoutEnabled operation → canOperationHasRuntime s operation

/-- What an accepted submission makes of an operation. -/
def CANOperation.submitted (operation : CANOperation) : CANOperation :=
  { operation with
    readyMask := if operation.type = .poll then some 0 else operation.readyMask
    deadlineStarted := false, resultStatus := .ok, state := .pending }

theorem canOperationSubmit_of_submittable {s : CANCores W Ch Port} {operation : CANOperation}
    (submittable : operation.Submittable s) :
    canOperationSubmit s operation = (operation.submitted, .ok) := by
  obtain ⟨ready, started, valid, runtime⟩ := submittable
  have fits : (canOperationFiniteTimeoutEnabled operation &&
      !canOperationHasRuntime s operation) = false := by
    cases finite : canOperationFiniteTimeoutEnabled operation with
    | false => rfl
    | true => simp [runtime finite]
  unfold canOperationSubmit
  rw [if_neg (by simp [ready]), if_neg (by simp [started]), if_neg (by simp [valid])]
  exact if_neg (fun bad => Bool.false_ne_true (fits.symm.trans bad))

theorem canOperationSubmit_ok_iff {s : CANCores W Ch Port} {operation : CANOperation} :
    (canOperationSubmit s operation).2 = .ok ↔ operation.Submittable s := by
  constructor
  · intro accepted
    unfold canOperationSubmit at accepted
    split at accepted
    · simp at accepted
    split at accepted
    · simp at accepted
    split at accepted
    · simp at accepted
    rename_i ready started valid
    refine ⟨by simpa using ready, by simpa using started, by simpa using valid, ?_⟩
    intro finite
    cases has : canOperationHasRuntime s operation with
    | true => rfl
    | false =>
        have refused : (canOperationFiniteTimeoutEnabled operation &&
          !canOperationHasRuntime s operation) = true := by simp [finite, has]
        have taken := (congrArg Prod.snd (if_pos refused)).symm.trans accepted
        simp at taken
  · intro submittable
    rw [canOperationSubmit_of_submittable submittable]

theorem CANOperation.Submittable.live {s : CANCores W Ch Port} {operation : CANOperation}
    (submittable : operation.Submittable s) : operation.submitted.Live s where
  pending := rfl
  valid := by
    have valid := submittable.valid
    cases type : operation.type <;>
      simp_all [CANOperation.argumentsValid, CANOperation.submitted]
  runtime := submittable.runtime


theorem canOperationNowMs_isSome (s : CANCores W Ch Port) (operation : CANOperation) :
    (canOperationNowMs s operation).isSome = canOperationHasRuntime s operation := by
  simp [canOperationNowMs, canOperationHasRuntime]

theorem CANOperation.Live.startDeadline {s : CANCores W Ch Port} {operation : CANOperation}
    (live : operation.Live s) :
    ∃ s' operation', canOperationStartDeadline s operation = some (s', operation') ∧
      s.SameLinks s' ∧ operation'.Live s' := by
  unfold canOperationStartDeadline
  split
  · rename_i starts
    have finite : canOperationFiniteTimeoutEnabled operation = true := by
      simp only [Bool.and_eq_true] at starts
      exact starts.1
    have some_ := (canOperationNowMs_isSome s operation).trans (live.runtime finite)
    obtain ⟨⟨t, nowMs⟩, now⟩ := Option.isSome_iff_exists.mp some_
    have same := canOperationNowMs_sameLinks now
    refine ⟨t, { operation with startMs := nowMs, deadlineStarted := true }, by simp [now], same, ?_⟩
    exact CANOperation.Live.congr ⟨live.pending, live.valid, live.runtime⟩ same
  · exact ⟨s, operation, rfl, .refl s, live⟩

theorem canOperationSettle_isSome {s : CANCores W Ch Port} {operation : CANOperation}
    (live : operation.Live s) (retry status : CANStatus) :
    (canOperationSettle retry s operation status).isSome := by
  unfold canOperationSettle
  split
  · rfl
  split
  · rfl
  rw [Option.isSome_map]
  unfold canOperationDeadlineExpired
  split
  · rfl
  split
  · rfl
  · rename_i finite
    rw [Option.isSome_map, canOperationNowMs_isSome]
    exact live.runtime (by simpa using finite)

/-- How a step of a live operation ends. -/
inductive CANOperation.Advanced (s : CANCores W Ch Port) :
    CANCores W Ch Port × CANOperation × CANOperationRunResult → Prop where
  | completed {s' : CANCores W Ch Port} {operation : CANOperation} (same : s.SameLinks s')
      (done : operation.state = .completed) : Advanced s (s', operation, .completed)
  | pending {s' : CANCores W Ch Port} {operation : CANOperation} (same : s.SameLinks s')
      (live : operation.Live s') : Advanced s (s', operation, .pending)

theorem canOperationSettle_advanced {s t : CANCores W Ch Port} {operation : CANOperation}
    (same : s.SameLinks t) (live : operation.Live t) (retry status : CANStatus) :
    ∃ r, canOperationSettle retry t operation status = some r ∧ CANOperation.Advanced s r := by
  obtain ⟨r, settle⟩ := Option.isSome_iff_exists.mp (canOperationSettle_isSome live retry status)
  refine ⟨r, settle, ?_⟩
  cases canOperationSettle_settled settle with
  | completed next status => exact .completed (same.trans next) rfl
  | pending next => exact .pending (same.trans next) (live.congr next)

theorem CANCores.trySend_some (s : CANCores W Ch Port) (address : Nat) (frame : Option CANFrame) :
    s.trySend (some address) frame =
      (s.put address (canCoreSend (s.core address) s.world frame).1
        (canCoreSend (s.core address) s.world frame).2.1,
        (canCoreSend (s.core address) s.world frame).2.2) := rfl

theorem CANCores.tryReceive_some (s : CANCores W Ch Port) (address : Nat)
    (frame : Option CANFrame) :
    s.tryReceive (some address) frame =
      (s.put address (canCoreReceive (s.core address) s.world frame).1
        (canCoreReceive (s.core address) s.world frame).2.1,
        (canCoreReceive (s.core address) s.world frame).2.2) := rfl

/-! The three kinds of attempt. -/

theorem canOperationAttempt_send {operation : CANOperation} (type : operation.type = .send)
    (s : CANCores W Ch Port) :
    canOperationAttempt s operation =
      canOperationSettle .ebusy (s.trySend operation.core operation.txFrame).1 operation
        (s.trySend operation.core operation.txFrame).2 := by
  simp only [canOperationAttempt, type]

theorem canOperationAttempt_receive {operation : CANOperation} (type : operation.type = .receive)
    (s : CANCores W Ch Port) :
    canOperationAttempt s operation =
      canOperationSettle .enodata (s.tryReceive operation.core operation.rxFrame).1
        { operation with rxFrame := (s.tryReceive operation.core operation.rxFrame).2.2 }
        (s.tryReceive operation.core operation.rxFrame).2.1 := by
  simp only [canOperationAttempt, type]

theorem canOperationAttempt_poll {operation : CANOperation} {mask : UInt32}
    (type : operation.type = .poll) (there : operation.readyMask = some mask)
    (s : CANCores W Ch Port) :
    canOperationAttempt s operation =
      canOperationSettle .enodata (s.pollNow operation.core operation.interestMask).1
        { operation with
          readyMask := some <|
            if (s.pollNow operation.core operation.interestMask).2.1 == .ok then
              (s.pollNow operation.core operation.interestMask).2.2
            else 0 }
        (s.pollNow operation.core operation.interestMask).2.1 := by
  simp only [canOperationAttempt, type, there]

theorem canOperationAttempt_live {s t : CANCores W Ch Port} {operation : CANOperation}
    (same : s.SameLinks t) (live : operation.Live t) :
    ∃ r, canOperationAttempt t operation = some r ∧ CANOperation.Advanced s r := by
  have valid := live.valid
  cases type : operation.type with
  | none => simp [CANOperation.argumentsValid, type] at valid
  | send =>
      have next := t.trySend_sameLinks operation.core operation.txFrame
      rw [canOperationAttempt_send type]
      exact canOperationSettle_advanced (same.trans next) (live.congr next) _ _
  | receive =>
      have next := t.tryReceive_sameLinks operation.core operation.rxFrame
      have buffer := t.tryReceive_isSome operation.core operation.rxFrame
      rw [canOperationAttempt_receive type]
      refine canOperationSettle_advanced (same.trans next) ?_ _ _
      refine ⟨live.pending, ?_, (live.congr next).runtime⟩
      simpa only [CANOperation.argumentsValid, type, buffer] using valid
  | poll =>
      have next := t.pollNow_sameLinks operation.core operation.interestMask
      simp only [CANOperation.argumentsValid, type, Bool.and_eq_true] at valid
      obtain ⟨mask, there⟩ := Option.isSome_iff_exists.mp valid.1
      rw [canOperationAttempt_poll type there]
      refine canOperationSettle_advanced (same.trans next) ?_ _ _
      refine ⟨live.pending, ?_, (live.congr next).runtime⟩
      simp [CANOperation.argumentsValid, type, valid.2]

theorem canOperationRunOnce_pending {operation : CANOperation}
    (pending : operation.state = .pending) (s : CANCores W Ch Port) :
    canOperationRunOnce s operation =
      (canOperationStartDeadline s operation).bind fun r => canOperationAttempt r.1 r.2 := by
  unfold canOperationRunOnce
  rw [if_neg (by simp [pending]), if_neg (by simp [pending])]

/-- A step of a live operation neither faults nor fails. -/
theorem canOperationRunOnce_live {s : CANCores W Ch Port} {operation : CANOperation}
    (live : operation.Live s) :
    ∃ r, canOperationRunOnce s operation = some r ∧ CANOperation.Advanced s r := by
  obtain ⟨t, started, start, same, liveT⟩ := live.startDeadline
  rw [canOperationRunOnce_pending live.pending, start]
  exact canOperationAttempt_live same liveT

/-- Starting the deadline writes no other field. -/
theorem canOperationStartDeadline_writes {s s' : CANCores W Ch Port}
    {operation operation' : CANOperation}
    (start : canOperationStartDeadline s operation = some (s', operation')) :
    ∃ startMs deadlineStarted, operation' =
      { operation with startMs := startMs, deadlineStarted := deadlineStarted } := by
  unfold canOperationStartDeadline at start
  split at start
  · obtain ⟨⟨t, nowMs⟩, -, eq⟩ := Option.map_eq_some_iff.mp start
    simp only [Prod.mk.injEq] at eq
    exact ⟨nowMs, true, eq.2.symm⟩
  · simp only [Option.some.injEq, Prod.mk.injEq] at start
    exact ⟨operation.startMs, operation.deadlineStarted, start.2.symm⟩

theorem canOperationAttempt_state {s : CANCores W Ch Port} {operation : CANOperation}
    {r : CANCores W Ch Port × CANOperation × CANOperationRunResult}
    (attempt : canOperationAttempt s operation = some r) :
    r.2.1.state = operation.state ∨ r.2.1.state = .completed := by
  have settled {retry status : CANStatus} {t : CANCores W Ch Port} {held : CANOperation}
      (state : held.state = operation.state)
      (settle : canOperationSettle retry t held status = some r) :
      r.2.1.state = operation.state ∨ r.2.1.state = .completed := by
    cases canOperationSettle_settled settle with
    | completed _ status => exact .inr rfl
    | pending _ => exact .inl state
  cases type : operation.type with
  | none =>
      simp only [canOperationAttempt, type, Option.some.injEq] at attempt
      exact .inl (attempt ▸ rfl)
  | send =>
      rw [canOperationAttempt_send type] at attempt
      exact settled (by rfl) attempt
  | receive =>
      rw [canOperationAttempt_receive type] at attempt
      exact settled (by rfl) attempt
  | poll =>
      cases there : operation.readyMask with
      | none => simp [canOperationAttempt, type, there] at attempt
      | some mask =>
          rw [canOperationAttempt_poll type there] at attempt
          exact settled (by rfl) attempt

/-- Running never makes an operation ready. -/
theorem canOperationRunOnce_state {s : CANCores W Ch Port} {operation : CANOperation}
    {r : CANCores W Ch Port × CANOperation × CANOperationRunResult}
    (run : canOperationRunOnce s operation = some r) :
    r.2.1.state = operation.state ∨ r.2.1.state = .completed := by
  unfold canOperationRunOnce at run
  split at run
  · obtain rfl := Option.some.inj run
    exact .inl rfl
  split at run
  · obtain rfl := Option.some.inj run
    exact .inl rfl
  · obtain ⟨⟨t, started⟩, start, attempt⟩ := Option.bind_eq_some_iff.mp run
    have state := canOperationAttempt_state attempt
    obtain ⟨startMs, deadlineStarted, rfl⟩ := canOperationStartDeadline_writes start
    exact state

end SmartBusAccess.Can
