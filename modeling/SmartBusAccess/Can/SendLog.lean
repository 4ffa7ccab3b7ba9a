import SmartBusAccess.Can.Operation

/-!
A driver that keeps a record of its `Send`s.

`logging` puts any driver on a world that has room for the record: the driver does and answers
what it did before, and each `Send` is noted with its answer. A core bound to such a driver is
the same core as far as `can_core.c` can tell.

A step of an operation asks the driver to send at most once, and once the driver has accepted the
frame, the operation is complete (`canOperationRunOnce_noted`).
-/

namespace SmartBusAccess.Can

/-- A world, and what the driver has been asked to send in it so far. -/
structure SendLog (W : Type) where
  world : W
  sends : List (CANFrame × CANStatus)

variable {W Ch Port Answer : Type}

namespace SendLog

/-- The frames that the driver has accepted, in order. -/
def accepted (w : SendLog W) : List CANFrame :=
  w.sends.filterMap fun send => if send.2 == .ok then some send.1 else none

theorem length_accepted_append (w : SendLog W) (world : W) (frame : CANFrame) (status : CANStatus) :
    (SendLog.mk world (w.sends ++ [(frame, status)])).accepted.length =
      w.accepted.length + if status = .ok then 1 else 0 := by
  simp only [accepted, List.filterMap_append, List.length_append]
  cases status <;> rfl

/-- A function of the world that sends nothing. -/
def silent (f : W → W × Answer) (w : SendLog W) : SendLog W × Answer :=
  let (world, answer) := f w.world
  ({ w with world := world }, answer)

end SendLog

open SendLog (silent)
open Looping

def CANCoreDriverOps.logging (ops : CANCoreDriverOps W Ch Port) :
    CANCoreDriverOps (SendLog W) Ch Port where
  opOpen w channel port config := silent (ops.opOpen · channel port config) w
  opClose w channel := silent (ops.opClose · channel) w
  opStart w channel := silent (ops.opStart · channel) w
  opStop w channel := silent (ops.opStop · channel) w
  opSend w channel frame :=
    let (world, status) := ops.opSend w.world channel frame
    (⟨world, w.sends ++ [(frame, status)]⟩, status)
  opReceive w channel frame := silent (ops.opReceive · channel frame) w

def CANCoreOptionalDriverOps.logging (ops : CANCoreOptionalDriverOps W Ch) :
    CANCoreOptionalDriverOps (SendLog W) Ch where
  queryEvents := ops.queryEvents.map fun query w channel eventMask =>
    silent (query · channel eventMask) w

def CANCoreRuntime.logging (runtime : CANCoreRuntime W) : CANCoreRuntime (SendLog W) where
  getTickMs := runtime.getTickMs.map silent
  relax := runtime.relax.map fun relax w => { w with world := relax w.world }

def CANCoreLink.logging (link : CANCoreLink W Ch Port) : CANCoreLink (SendLog W) Ch Port where
  started := link.started
  ops := link.ops.logging
  optionalOps := link.optionalOps.map CANCoreOptionalDriverOps.logging
  driverChannel := link.driverChannel
  driverPort := link.driverPort
  runtime := link.runtime.logging

def CANCore.logging (core : CANCore W Ch Port) : CANCore (SendLog W) Ch Port where
  link := core.link.map CANCoreLink.logging
  stats := core.stats
  lastStatus := core.lastStatus

/-! ### What the calls of a core note -/

theorem CANCore.running_logging (core : CANCore W Ch Port) :
    core.logging.running = core.running.map CANCoreLink.logging := by
  unfold CANCore.running CANCore.logging
  cases core.link with
  | none => rfl
  | some link => cases started : link.started <;> simp [Option.filter, CANCoreLink.logging, started]

/-- A `Send` reaches the driver once, if the core is started, and is answered as the driver
answers. -/
theorem canCoreSend_logging (core : CANCore W Ch Port) (w : SendLog W) (frame : CANFrame) :
    (canCoreSend core.logging w (some frame)).2 =
      match core.running with
      | none => (w, .ebusy)
      | some link =>
          let (world, status) := link.ops.opSend w.world link.driverChannel frame
          (⟨world, w.sends ++ [(frame, status)]⟩, status) := by
  simp only [canCoreSend, CANCore.running_logging]
  cases core.running with
  | none => rfl
  | some link => rfl

theorem canCoreReceive_sends (core : CANCore W Ch Port) (w : SendLog W) (frame : Option CANFrame) :
    (canCoreReceive core.logging w frame).2.1.sends = w.sends := by
  cases frame with
  | none => rfl
  | some buffer =>
      simp only [canCoreReceive, CANCore.running_logging]
      cases core.running with
      | none => rfl
      | some link => rfl

theorem canCoreQueryEvents_sends (core : CANCore W Ch Port) (w : SendLog W) (eventMask : UInt32) :
    (canCoreQueryEvents core.logging w eventMask).2.1.sends = w.sends := by
  unfold canCoreQueryEvents CANCore.logging
  cases core.link with
  | none => rfl
  | some link =>
      obtain ⟨started, ops, optionalOps, channel, port, runtime⟩ := link
      cases optionalOps with
      | none => rfl
      | some optionalOps =>
          obtain ⟨queryEvents⟩ := optionalOps
          cases queryEvents <;> rfl

theorem canCorePollTurn_sends (core : CANCore W Ch Port) (w : SendLog W) (interestMask : UInt32)
    {r : CANCore (SendLog W) Ch Port × SendLog W × CANStatus × UInt32}
    (turn : canCorePollTurn none interestMask 0 0 (core.logging, w) = .done r) :
    r.2.1.sends = w.sends := by
  have asked := canCoreQueryEvents_sends core w 0
  simp only [canCorePollTurn] at turn
  split at turn
  · cases turn
    exact asked
  · split at turn
    · cases turn
      exact asked
    · cases turn
      exact asked

theorem canCorePoll_sends {core : CANCore W Ch Port} {w : SendLog W} {interestMask : UInt32}
    {readyMask : Option UInt32} {core' : CANCore (SendLog W) Ch Port} {w' : SendLog W}
    {status : CANStatus} {mask : Option UInt32}
    (polled : canCorePoll 1 core.logging w interestMask 0 readyMask = some (core', w', status, mask)) :
    w'.sends = w.sends := by
  unfold canCorePoll at polled
  simp only [CANCore.answer, beq_self_eq_true, if_true] at polled
  split at polled
  · cases polled
    rfl
  split at polled
  · cases polled
    rfl
  split at polled
  · cases polled
    rfl
  · obtain ⟨last, world, ended, ready, turn, -⟩ :=
      canCorePollTurn_immediate interestMask 0 0 (core.logging, w)
    rw [loop_done turn, Option.map_some] at polled
    cases polled
    exact canCorePollTurn_sends core w interestMask turn

theorem CANCore.tick_sends {core : CANCore W Ch Port} {tick : SendLog W → SendLog W × UInt32}
    (source : core.logging.tick = some tick) (w : SendLog W) : (tick w).1.sends = w.sends := by
  simp only [CANCore.tick, CANCore.logging, Option.bind_map] at source
  obtain ⟨link, -, read⟩ := Option.bind_eq_some_iff.mp source
  obtain ⟨plain, -, rfl⟩ := Option.map_eq_some_iff.mp read
  rfl

/-! ### What the steps of an operation note -/

/-- Every core is bound to a driver that keeps the record. -/
def CANCores.Logs (s : CANCores (SendLog W) Ch Port) : Prop :=
  ∀ address, ∃ core : CANCore W Ch Port, s.core address = core.logging

/-- The same cores and the same record. -/
structure CANCores.Silent (s s' : CANCores (SendLog W) Ch Port) : Prop where
  links : s.SameLinks s'
  sends : s'.world.sends = s.world.sends

namespace CANCores

variable {s s' s'' : CANCores (SendLog W) Ch Port}

theorem Silent.refl (s : CANCores (SendLog W) Ch Port) : s.Silent s := ⟨.refl s, rfl⟩

theorem Silent.trans (first : s.Silent s') (second : s'.Silent s'') : s.Silent s'' :=
  ⟨first.links.trans second.links, second.sends.trans first.sends⟩

theorem Logs.congr (logs : s.Logs) (same : s.SameLinks s') : s'.Logs := by
  intro address
  obtain ⟨core, bound⟩ := logs address
  have link : (s'.core address).link = core.link.map CANCoreLink.logging := by
    rw [same address, bound]
    rfl
  refine ⟨⟨core.link, (s'.core address).stats, (s'.core address).lastStatus⟩, ?_⟩
  rw [CANCore.logging, ← link]

theorem Logs.tryReceive (logs : s.Logs) (core : Option Nat) (frame : Option CANFrame) :
    s.Silent (s.tryReceive core frame).1 := by
  refine ⟨s.tryReceive_sameLinks core frame, ?_⟩
  cases core with
  | none => rfl
  | some address =>
      obtain ⟨plain, bound⟩ := logs address
      rw [tryReceive_some, bound]
      exact canCoreReceive_sends plain s.world frame

theorem Logs.pollNow (logs : s.Logs) (core : Option Nat) (interestMask : UInt32) :
    s.Silent (s.pollNow core interestMask).1 := by
  refine ⟨s.pollNow_sameLinks core interestMask, ?_⟩
  cases core with
  | none => rfl
  | some address =>
      obtain ⟨plain, bound⟩ := logs address
      obtain ⟨core', w', status, mask, polled, -⟩ :=
        canCorePoll_immediate (s.core address) s.world interestMask (some 0)
      simp only [CANCores.pollNow, polled]
      rw [bound] at polled
      exact canCorePoll_sends polled

/-- The driver is asked to send this frame, and answers so; or it is not asked. -/
theorem Logs.trySend (logs : s.Logs) (core : Option Nat) (frame : Option CANFrame) :
    (s.trySend core frame).1.world.sends = s.world.sends ∨
      ∃ sent, (s.trySend core frame).1.world.sends =
        s.world.sends ++ [(sent, (s.trySend core frame).2)] := by
  cases core with
  | none => exact .inl rfl
  | some address =>
      obtain ⟨plain, bound⟩ := logs address
      rw [trySend_some, bound]
      cases frame with
      | none => exact .inl rfl
      | some frame =>
          have noted := canCoreSend_logging plain s.world frame
          rw [put, noted]
          cases plain.running with
          | none => exact .inl rfl
          | some link => exact .inr ⟨frame, rfl⟩

end CANCores

section Steps

variable {s : CANCores (SendLog W) Ch Port} {operation : CANOperation}

theorem canOperationNowMs_silent (logs : s.Logs) {s' : CANCores (SendLog W) Ch Port}
    {nowMs : UInt32} (read : canOperationNowMs s operation = some (s', nowMs)) : s.Silent s' := by
  refine ⟨canOperationNowMs_sameLinks read, ?_⟩
  obtain ⟨tick, source, same⟩ := Option.map_eq_some_iff.mp read
  cases same
  obtain ⟨address, -, bound⟩ := Option.bind_eq_some_iff.mp source
  obtain ⟨plain, logged⟩ := logs address
  rw [logged] at bound
  exact CANCore.tick_sends bound s.world

theorem canOperationDeadlineExpired_silent (logs : s.Logs) {s' : CANCores (SendLog W) Ch Port}
    {expired : Bool} (read : canOperationDeadlineExpired s operation = some (s', expired)) :
    s.Silent s' := by
  unfold canOperationDeadlineExpired at read
  split at read
  · cases read
    exact .refl s
  split at read
  · cases read
    exact .refl s
  · obtain ⟨⟨t, nowMs⟩, now, same⟩ := Option.map_eq_some_iff.mp read
    cases same
    exact canOperationNowMs_silent logs now

theorem canOperationStartDeadline_silent (logs : s.Logs) {s' : CANCores (SendLog W) Ch Port}
    {operation' : CANOperation}
    (start : canOperationStartDeadline s operation = some (s', operation')) : s.Silent s' := by
  unfold canOperationStartDeadline at start
  split at start
  · obtain ⟨⟨t, nowMs⟩, now, same⟩ := Option.map_eq_some_iff.mp start
    cases same
    exact canOperationNowMs_silent logs now
  · cases start
    exact .refl s

/-- After an attempt the driver is not asked to send any more. A status that is worth no other
attempt completes the operation. -/
theorem canOperationSettle_silent (logs : s.Logs) {retry status : CANStatus}
    {r : CANCores (SendLog W) Ch Port × CANOperation × CANOperationRunResult}
    (settle : canOperationSettle retry s operation status = some r) :
    s.Silent r.1 ∧ (status ≠ retry → r.2.1.state = .completed) := by
  unfold canOperationSettle at settle
  split at settle
  · cases settle
    exact ⟨.refl s, fun _ => rfl⟩
  rename_i again
  have same : status = retry := by simpa using again
  split at settle
  · cases settle
    exact ⟨.refl s, fun _ => rfl⟩
  · obtain ⟨⟨t, expired⟩, read, ends⟩ := Option.map_eq_some_iff.mp settle
    have silent := canOperationDeadlineExpired_silent logs read
    cases expired with
    | true =>
        cases ends
        exact ⟨silent, fun _ => rfl⟩
    | false =>
        cases ends
        exact ⟨silent, fun worthless => absurd same worthless⟩

/-- What a step adds to the record, and where it leaves the operation. -/
inductive Noted (s : CANCores (SendLog W) Ch Port) :
    CANCores (SendLog W) Ch Port × CANOperation × CANOperationRunResult → Prop where
  | silent {r : CANCores (SendLog W) Ch Port × CANOperation × CANOperationRunResult}
      (same : s.Silent r.1) : Noted s r
  | sent {r : CANCores (SendLog W) Ch Port × CANOperation × CANOperationRunResult}
      (links : s.SameLinks r.1) {frame : CANFrame} {status : CANStatus}
      (note : r.1.world.sends = s.world.sends ++ [(frame, status)])
      (ends : status = .ok → r.2.1.state = .completed) : Noted s r

theorem Noted.before {s' : CANCores (SendLog W) Ch Port}
    {r : CANCores (SendLog W) Ch Port × CANOperation × CANOperationRunResult}
    (silent : s.Silent s') (noted : Noted s' r) : Noted s r := by
  cases noted with
  | silent same => exact .silent (silent.trans same)
  | sent links note ends =>
      exact .sent (silent.links.trans links) (note.trans (by rw [silent.sends])) ends

theorem canOperationAttempt_noted (logs : s.Logs)
    {r : CANCores (SendLog W) Ch Port × CANOperation × CANOperationRunResult}
    (attempt : canOperationAttempt s operation = some r) : Noted s r := by
  cases type : operation.type with
  | none =>
      simp only [canOperationAttempt, type, Option.some.injEq] at attempt
      exact .silent (attempt ▸ .refl s)
  | send =>
      rw [canOperationAttempt_send type] at attempt
      have links := s.trySend_sameLinks operation.core operation.txFrame
      obtain ⟨silent, ends⟩ := canOperationSettle_silent (logs.congr links) attempt
      rcases logs.trySend operation.core operation.txFrame with none | ⟨frame, sent⟩
      · exact .silent ⟨links.trans silent.links, silent.sends.trans none⟩
      · refine .sent (links.trans silent.links) (silent.sends.trans sent) fun accepted => ends ?_
        simp [accepted]
  | receive =>
      rw [canOperationAttempt_receive type] at attempt
      have received := logs.tryReceive operation.core operation.rxFrame
      exact .silent (received.trans
        (canOperationSettle_silent (logs.congr received.links) attempt).1)
  | poll =>
      cases there : operation.readyMask with
      | none => simp [canOperationAttempt, type, there] at attempt
      | some mask =>
          rw [canOperationAttempt_poll type there] at attempt
          have polled := logs.pollNow operation.core operation.interestMask
          exact .silent (polled.trans
            (canOperationSettle_silent (logs.congr polled.links) attempt).1)

/-- A step sends at most once, and only for a pending operation. -/
theorem canOperationRunOnce_noted (logs : s.Logs)
    {r : CANCores (SendLog W) Ch Port × CANOperation × CANOperationRunResult}
    (run : canOperationRunOnce s operation = some r) :
    Noted s r ∧ (operation.state ≠ .pending → s.Silent r.1) := by
  unfold canOperationRunOnce at run
  split at run
  · cases run
    exact ⟨.silent (.refl s), fun _ => .refl s⟩
  split at run
  · cases run
    exact ⟨.silent (.refl s), fun _ => .refl s⟩
  · rename_i unready
    have pending : operation.state = .pending := by simpa using unready
    obtain ⟨⟨t, started⟩, start, attempt⟩ := Option.bind_eq_some_iff.mp run
    have silent := canOperationStartDeadline_silent logs start
    exact ⟨(canOperationAttempt_noted (logs.congr silent.links) attempt).before silent,
      fun other => absurd pending other⟩

end Steps

end SmartBusAccess.Can
