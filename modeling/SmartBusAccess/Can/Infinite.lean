import SmartBusAccess.Can.Match
import SmartBusAccess.Can.Reopening

/-!
Waiting with `CAN_TIMEOUT_INFINITE`.

The calls on a core and the operations look for that value before they compare the time
that has gone by with the timeout, so they end with `CAN_STATUS_ETIMEOUT` only if the
driver answers it. `CANSocketReceiveTimeoutMatch` does not look for it, and also ends so when
a reading of the clock is one below the first (`infinite_never_times_out_iff`).
-/

namespace SmartBusAccess.Can

open Looping

variable {W Ch Port : Type}

/-! ### What the driver answers -/

section Driver

variable (core : CANCore W Ch Port) (w : W)

/-- The driver itself answers a send with `CAN_STATUS_ETIMEOUT`. -/
def CANCore.SendTimesOut (frame : Option CANFrame) : Prop :=
  ∃ link ∈ core.running, ∃ given ∈ frame,
    (link.ops.opSend w link.driverChannel given).2 = .etimeout

def CANCore.ReceiveTimesOut (frame : Option CANFrame) : Prop :=
  ∃ link ∈ core.running, ∃ buffer ∈ frame,
    (link.ops.opReceive w link.driverChannel buffer).2.1 = .etimeout

def CANCore.QueryTimesOut : Prop :=
  ∃ link ∈ core.link, ∃ query ∈ link.optionalOps.bind CANCoreOptionalDriverOps.queryEvents,
    (query w link.driverChannel 0).2.1 = .etimeout

/-- The next turn of a matching receive ends with it: the driver answers it, or leaves the
call waiting and the clock reads one below its first reading. -/
def CANCore.MatchTimesOut (tick : W → W × UInt32) (idType : CANIdType) (id startMs : UInt32)
    (localFrame : CANFrame) : Prop :=
  ∃ link ∈ core.running,
    let answer := link.ops.opReceive w link.driverChannel localFrame
    answer.2.1 = .etimeout ∨
      (answer.2.1 = .enodata ∨ answer.2.1 = .ok ∧ answer.2.2.matches idType id = false) ∧
        (tick answer.1).2 = startMs - 1

variable {core w}

theorem canCoreSend_etimeout_iff {frame : Option CANFrame} :
    (canCoreSend core w frame).2.2 = .etimeout ↔ core.SendTimesOut w frame := by
  cases frame with
  | none => simp [canCoreSend, CANCore.answer, CANCore.SendTimesOut]
  | some frame =>
      cases running : core.running <;>
        simp [canCoreSend, CANCore.answer, CANCore.SendTimesOut, running]

theorem canCoreReceive_etimeout_iff {frame : Option CANFrame} :
    (canCoreReceive core w frame).2.2.1 = .etimeout ↔ core.ReceiveTimesOut w frame := by
  cases frame with
  | none => simp [canCoreReceive, CANCore.answer, CANCore.ReceiveTimesOut]
  | some frame =>
      cases running : core.running <;>
        simp [canCoreReceive, CANCore.answer, CANCore.ReceiveTimesOut, running]

theorem canCoreQueryEvents_etimeout_iff :
    (canCoreQueryEvents core w 0).2.2.1 = .etimeout ↔ core.QueryTimesOut w := by
  cases bound : core.link with
  | none => simp [canCoreQueryEvents, bound, CANCore.answer, CANCore.QueryTimesOut]
  | some link =>
      cases given : link.optionalOps.bind CANCoreOptionalDriverOps.queryEvents with
      | none =>
          have asked := canCoreQueryEvents_missing bound given w 0
          simp only [asked, CANCore.QueryTimesOut, bound, Option.mem_some_iff, exists_eq_left',
            given]
          simp
      | some query =>
          have asked := canCoreQueryEvents_bound bound given w 0
          simp only [asked, CANCore.QueryTimesOut, bound, Option.mem_some_iff, exists_eq_left',
            given]

end Driver

/-! ### One turn of a wait without end -/

section Turns

variable {core : CANCore W Ch Port} {w : W} {tick : W → W × UInt32}

theorem canCoreDeadline_infinite (tick : W → W × UInt32) (startMs : UInt32) (w : W) :
    canCoreDeadline tick canTimeoutInfinite startMs w = (w, false) := by
  simp [canCoreDeadline]

theorem canCoreSendTurn_etimeout_iff {frame : Option CANFrame} {startMs : UInt32} :
    (∃ a, canCoreSendTurn tick frame canTimeoutInfinite startMs (core, w) = .done a ∧
        a.2.2 = .etimeout) ↔ core.SendTimesOut w frame := by
  rw [← canCoreSend_etimeout_iff]
  simp only [canCoreSendTurn, canCoreDeadline_infinite]
  by_cases busy : (canCoreSend core w frame).2.2 = .ebusy
  · simp [busy]
  · simp [busy]

theorem canCoreReceiveTurn_etimeout_iff {frame : Option CANFrame} {startMs : UInt32} :
    (∃ a, canCoreReceiveTurn tick canTimeoutInfinite startMs (core, w, frame) = .done a ∧
        a.2.2.1 = .etimeout) ↔ core.ReceiveTimesOut w frame := by
  rw [← canCoreReceive_etimeout_iff]
  simp only [canCoreReceiveTurn, canCoreDeadline_infinite]
  by_cases empty : (canCoreReceive core w frame).2.2.1 = .enodata
  · simp [empty]
  · simp [empty]

theorem canCorePollTurn_etimeout_iff {interestMask startMs : UInt32} :
    (∃ a, canCorePollTurn (some tick) interestMask canTimeoutInfinite startMs (core, w) =
        .done a ∧ a.2.2.1 = .etimeout) ↔ core.QueryTimesOut w := by
  rw [← canCoreQueryEvents_etimeout_iff]
  simp only [canCorePollTurn, canCoreDeadline_infinite]
  by_cases ok : (canCoreQueryEvents core w 0).2.2.1 = .ok
  · by_cases idle : (canCoreQueryEvents core w 0).2.2.2 &&& interestMask = 0 <;> simp [ok, idle]
  · simp [ok]

/-- Without the check, an infinite timeout is over when the clock reads one below its first
reading. -/
theorem infinite_elapsed_iff (startMs nowMs : UInt32) :
    canTimeoutInfinite ≤ nowMs - startMs ↔ nowMs = startMs - 1 := by
  rw [UInt32.le_iff_toNat_le, ← UInt32.toNat_inj, UInt32.toNat_sub, UInt32.toNat_sub]
  have now := nowMs.toNat_lt
  have start := startMs.toNat_lt
  have infinite : canTimeoutInfinite.toNat = 4294967295 := rfl
  have one : (1 : UInt32).toNat = 1 := rfl
  omega

theorem canSocketReceiveTimeoutMatchTurn_etimeout_iff {idType : CANIdType} {id startMs : UInt32}
    {localFrame : CANFrame} :
    (∃ a, canSocketReceiveTimeoutMatchTurn tick idType id canTimeoutInfinite startMs
        (core, w, localFrame) = .done a ∧ a.2.2.1 = .etimeout) ↔
      core.MatchTimesOut w tick idType id startMs localFrame := by
  cases running : core.running with
  | none =>
      simp [canSocketReceiveTimeoutMatchTurn, canCoreReceive, running, CANCore.MatchTimesOut,
        CANCore.answer]
  | some link =>
      obtain ⟨bound, started⟩ := CANCore.running_eq_some running
      have received := canCoreReceive_started bound started w localFrame
      simp only [canSocketReceiveTimeoutMatchTurn, received, CANCore.MatchTimesOut, running,
        Option.mem_some_iff, exists_eq_left', Option.getD_some, ← infinite_elapsed_iff]
      generalize link.ops.opReceive w link.driverChannel localFrame = answer
      obtain ⟨w, status, received⟩ := answer
      cases found : received.matches idType id <;>
        by_cases late : canTimeoutInfinite ≤ (tick w).2 - startMs <;>
        cases status <;> simp [late]

end Turns

/-! ### The calls -/

/-- A call that takes a timeout, with its other arguments. -/
inductive TimedCall (W Ch Port : Type) where
  | send (core : CANCore W Ch Port) (frame : Option CANFrame)
  | receive (core : CANCore W Ch Port) (frame : Option CANFrame)
  | poll (core : CANCore W Ch Port) (interestMask : UInt32) (readyMask : Option UInt32)
  | receiveMatch (socket : Option (CANCore W Ch Port)) (frame : Option CANFrame)
      (idType : CANIdType) (id : UInt32) (localFrame : CANFrame)

namespace TimedCall

/-- The status it returns with a timeout. Each attempt takes one unit of fuel. -/
def returns (timeoutMs : UInt32) (fuel : Nat) (w : W) : TimedCall W Ch Port → Option CANStatus
  | .send core frame => (canCoreSendTimeout fuel core w frame timeoutMs).map fun r => r.2.2
  | .receive core frame => (canCoreReceiveTimeout fuel core w frame timeoutMs).map fun r => r.2.2.1
  | .poll core interestMask readyMask =>
      (canCorePoll fuel core w interestMask timeoutMs readyMask).map fun r => r.2.2.1
  | .receiveMatch socket frame idType id localFrame =>
      (canSocketReceiveTimeoutMatch fuel socket w frame idType id timeoutMs localFrame).map
        fun r => r.2.2.1

/-- The clock it waits on, unless it is refused. -/
def clock : TimedCall W Ch Port → Option (W → W × UInt32)
  | .send core frame => if frame.isSome && core.state == .started then core.tick else none
  | .receive core frame => if frame.isSome && core.state == .started then core.tick else none
  | .poll core interestMask readyMask =>
      if readyMask.isSome && interestValid interestMask && core.state == .started then core.tick
      else none
  | .receiveMatch socket frame _ _ _ => if frame.isSome then socket.bind CANCore.tick else none

/-- What it returns when it may wait forever. -/
def status (fuel : Nat) (w : W) : TimedCall W Ch Port → Option CANStatus
  | .send core frame =>
      (canCoreSendTimeout fuel core w frame canTimeoutInfinite).map fun r => r.2.2
  | .receive core frame =>
      (canCoreReceiveTimeout fuel core w frame canTimeoutInfinite).map fun r => r.2.2.1
  | .poll core interestMask readyMask =>
      (canCorePoll fuel core w interestMask canTimeoutInfinite readyMask).map fun r => r.2.2.1
  | .receiveMatch socket frame idType id localFrame =>
      (canSocketReceiveTimeoutMatch fuel socket w frame idType id canTimeoutInfinite
        localFrame).map fun r => r.2.2.1

/-- It never returns `CAN_STATUS_ETIMEOUT`. -/
def NeverTimesOut (w : W) (call : TimedCall W Ch Port) : Prop :=
  ∀ fuel, call.status fuel w ≠ some .etimeout

/-- It waits, and comes to a turn in which the driver answers `CAN_STATUS_ETIMEOUT`. For a
matching receive, or to one after which the clock reads one below its first reading. -/
def TimesOutBelow (w : W) : TimedCall W Ch Port → Prop
  | .send core frame =>
      frame.isSome ∧ core.state = .started ∧ ∃ tick ∈ core.tick, ∃ s,
        Comes (canCoreSendTurn tick frame canTimeoutInfinite (tick w).2) (core, (tick w).1) s ∧
          s.1.SendTimesOut s.2 frame
  | .receive core frame =>
      frame.isSome ∧ core.state = .started ∧ ∃ tick ∈ core.tick, ∃ s,
        Comes (canCoreReceiveTurn tick canTimeoutInfinite (tick w).2) (core, (tick w).1, frame) s ∧
          s.1.ReceiveTimesOut s.2.1 s.2.2
  | .poll core interestMask readyMask =>
      readyMask.isSome ∧ interestValid interestMask ∧ core.state = .started ∧
        ∃ tick ∈ core.tick, ∃ s,
          Comes (canCorePollTurn (some tick) interestMask canTimeoutInfinite (tick w).2)
              (core, (tick w).1) s ∧ s.1.QueryTimesOut s.2
  | .receiveMatch socket frame idType id localFrame =>
      frame.isSome ∧ ∃ core ∈ socket, ∃ tick ∈ core.tick, ∃ s,
        Comes (canSocketReceiveTimeoutMatchTurn tick idType id canTimeoutInfinite (tick w).2)
            (core, (tick w).1, localFrame) s ∧
          s.1.MatchTimesOut s.2.1 tick idType id (tick w).2 s.2.2

section Returns

variable {timeoutMs : UInt32} {call : TimedCall W Ch Port} {w : W}

theorem waits_of_positive (positive : 0 < timeoutMs) : (timeoutMs == 0) = false := by
  have other : timeoutMs ≠ 0 := by
    rintro rfl
    exact UInt32.lt_irrefl _ positive
  simpa using other

theorem returns_of_refused (positive : 0 < timeoutMs) (refused : call.clock = none) :
    ∃ status, status ≠ .etimeout ∧ ∀ fuel, call.returns timeoutMs fuel w = some status := by
  have waits := waits_of_positive positive
  cases call with
  | send core frame =>
      cases given : frame with
      | none => exact ⟨.einval, by decide, fun _ => rfl⟩
      | some frame =>
          by_cases started : core.state = .started
          · refine ⟨.eunsupported, by decide, fun fuel => ?_⟩
            have missing : core.tick = none := by simpa [clock, given, started] using refused
            simp [returns, canCoreSendTimeout, started, missing, waits, CANCore.answer]
          · refine ⟨.ebusy, by decide, fun fuel => ?_⟩
            simp [returns, canCoreSendTimeout, started, CANCore.answer]
  | receive core frame =>
      cases given : frame with
      | none => exact ⟨.einval, by decide, fun _ => rfl⟩
      | some frame =>
          by_cases started : core.state = .started
          · refine ⟨.eunsupported, by decide, fun fuel => ?_⟩
            have missing : core.tick = none := by simpa [clock, given, started] using refused
            simp [returns, canCoreReceiveTimeout, started, missing, waits, CANCore.answer]
          · refine ⟨.ebusy, by decide, fun fuel => ?_⟩
            simp [returns, canCoreReceiveTimeout, started, CANCore.answer]
  | poll core interestMask readyMask =>
      cases given : readyMask with
      | none => exact ⟨.einval, by decide, fun _ => rfl⟩
      | some mask =>
          cases valid : interestValid interestMask with
          | false =>
              refine ⟨.einval, by decide, fun fuel => ?_⟩
              simp [returns, canCorePoll, valid, CANCore.answer]
          | true =>
              by_cases started : core.state = .started
              · refine ⟨.eunsupported, by decide, fun fuel => ?_⟩
                have missing : core.tick = none := by
                  simpa [clock, given, valid, started] using refused
                simp [returns, canCorePoll, valid, started, missing, waits, CANCore.answer]
              · refine ⟨.ebusy, by decide, fun fuel => ?_⟩
                simp [returns, canCorePoll, valid, started, CANCore.answer]
  | receiveMatch socket frame idType id localFrame =>
      cases given : frame with
      | none => exact ⟨.einval, by decide, fun _ => rfl⟩
      | some frame =>
          cases bound : socket with
          | none =>
              refine ⟨.einval, by decide, fun fuel => ?_⟩
              simp [returns, canSocketReceiveTimeoutMatch, waits]
          | some core =>
              refine ⟨.eunsupported, by decide, fun fuel => ?_⟩
              have missing : core.tick = none := by simpa [clock, given, bound] using refused
              simp [returns, canSocketReceiveTimeoutMatch, missing, waits]

theorem infinite_positive : 0 < canTimeoutInfinite := by decide

theorem infinite_waits : (canTimeoutInfinite == 0) = false := waits_of_positive infinite_positive

variable {core : CANCore W Ch Port} {socket : Option (CANCore W Ch Port)}
  {frame : Option CANFrame} {interestMask id : UInt32} {readyMask : Option UInt32}
  {idType : CANIdType} {localFrame : CANFrame} {tick : W → W × UInt32}

theorem clock_send (ticking : (send core frame).clock = some tick) :
    frame.isSome ∧ core.state = .started ∧ core.tick = some tick := by
  simpa [clock, and_assoc] using ticking

theorem clock_receive (ticking : (receive core frame).clock = some tick) :
    frame.isSome ∧ core.state = .started ∧ core.tick = some tick :=
  clock_send ticking

theorem clock_poll (ticking : (poll core interestMask readyMask).clock = some tick) :
    readyMask.isSome ∧ interestValid interestMask ∧ core.state = .started ∧
      core.tick = some tick := by
  simpa [clock, and_assoc] using ticking

theorem clock_receiveMatch
    (ticking : (receiveMatch socket frame idType id localFrame).clock = some tick) :
    frame.isSome ∧ ∃ core, socket = some core ∧ core.tick = some tick := by
  simpa [clock, Option.bind_eq_some_iff] using ticking

/-- A call that is not refused is the loop of its turns. -/
theorem returns_send (positive : 0 < timeoutMs) (ticking : (send core frame).clock = some tick)
    (fuel : Nat) : (send core frame).returns timeoutMs fuel w =
      (loop (canCoreSendTurn tick frame timeoutMs (tick w).2) fuel (core, (tick w).1)).map
        fun r => r.2.2 := by
  obtain ⟨given, started, there⟩ := clock_send ticking
  simp [returns, canCoreSendTimeout, waits_of_positive positive,
    Option.isSome_iff_ne_none.mp given, started, there]

theorem returns_receive (positive : 0 < timeoutMs)
    (ticking : (receive core frame).clock = some tick) (fuel : Nat) :
    (receive core frame).returns timeoutMs fuel w =
      (loop (canCoreReceiveTurn tick timeoutMs (tick w).2) fuel (core, (tick w).1, frame)).map
        fun r => r.2.2.1 := by
  obtain ⟨given, started, there⟩ := clock_receive ticking
  simp [returns, canCoreReceiveTimeout, waits_of_positive positive,
    Option.isSome_iff_ne_none.mp given, started, there]

theorem returns_poll (positive : 0 < timeoutMs)
    (ticking : (poll core interestMask readyMask).clock = some tick) (fuel : Nat) :
    (poll core interestMask readyMask).returns timeoutMs fuel w =
      (loop (canCorePollTurn (some tick) interestMask timeoutMs (tick w).2) fuel
        (core, (tick w).1)).map fun r => r.2.2.1 := by
  obtain ⟨given, valid, started, there⟩ := clock_poll ticking
  simp [returns, canCorePoll, waits_of_positive positive, Option.isSome_iff_ne_none.mp given,
    valid, started, there, Function.comp_def]

theorem returns_receiveMatch (positive : 0 < timeoutMs)
    (ticking : (receiveMatch (some core) frame idType id localFrame).clock = some tick)
    (fuel : Nat) : (receiveMatch (some core) frame idType id localFrame).returns timeoutMs fuel w =
      (loop (canSocketReceiveTimeoutMatchTurn tick idType id timeoutMs (tick w).2) fuel
        (core, (tick w).1, localFrame)).map fun r => r.2.2.1 := by
  obtain ⟨given, _, ⟨⟩, there⟩ := clock_receiveMatch ticking
  simp [returns, canSocketReceiveTimeoutMatch, waits_of_positive positive,
    Option.isSome_iff_ne_none.mp given, there, Function.comp_def, CANSocketReceived.of]

/-- Only a call that waits comes to a turn. -/
theorem clock_of_timesOutBelow (below : call.TimesOutBelow w) :
    ∃ tick, call.clock = some tick := by
  cases call with
  | send core frame =>
      obtain ⟨given, started, tick, there, -⟩ := below
      exact ⟨tick, by simp [clock, given, started, Option.mem_def.mp there]⟩
  | receive core frame =>
      obtain ⟨given, started, tick, there, -⟩ := below
      exact ⟨tick, by simp [clock, given, started, Option.mem_def.mp there]⟩
  | poll core interestMask readyMask =>
      obtain ⟨given, valid, started, tick, there, -⟩ := below
      exact ⟨tick, by simp [clock, given, valid, started, Option.mem_def.mp there]⟩
  | receiveMatch socket frame idType id localFrame =>
      obtain ⟨given, core, bound, tick, there, -⟩ := below
      exact ⟨tick, by simp [clock, given, Option.mem_def.mp bound, Option.mem_def.mp there]⟩

end Returns

section Results

variable {result : Nat → Option CANStatus}

/-- A call that is refused does not time out. -/
theorem etimeout_of_refused {P : Prop} (status : CANStatus)
    (refused : ∀ fuel, result fuel = some status) (other : status ≠ .etimeout) (none : ¬ P) :
    (∃ fuel, result fuel = some .etimeout) ↔ P := by
  constructor
  · rintro ⟨fuel, out⟩
    exact absurd (Option.some.inj ((refused fuel).symm.trans out)) other
  · intro holds
    exact absurd holds none

/-- A call that waits times out in one of the turns it comes to. -/
theorem etimeout_of_waits {σ α : Type} {body : σ → Turn σ α} {s : σ} {P : σ → Prop}
    (part : α → CANStatus) (waits : ∀ fuel, result fuel = (loop body fuel s).map part)
    (turns : ∀ t, (∃ a, body t = .done a ∧ part a = .etimeout) ↔ P t) :
    (∃ fuel, result fuel = some .etimeout) ↔ ∃ t, Comes body s t ∧ P t := by
  simp only [waits]
  refine (loop_map_iff_comes part CANStatus.etimeout).trans ?_
  exact exists_congr fun t => and_congr_right fun _ => turns t

end Results

theorem returns_infinite (call : TimedCall W Ch Port) (w : W) (fuel : Nat) :
    call.status fuel w = call.returns canTimeoutInfinite fuel w := by
  cases call <;> rfl

theorem etimeout_iff (call : TimedCall W Ch Port) (w : W) :
    (∃ fuel, call.returns canTimeoutInfinite fuel w = some .etimeout) ↔ call.TimesOutBelow w := by
  cases ticking : call.clock with
  | none =>
      obtain ⟨status, other, refused⟩ := returns_of_refused infinite_positive ticking
      refine etimeout_of_refused status refused other fun below => ?_
      obtain ⟨tick, there⟩ := clock_of_timesOutBelow below
      cases ticking.symm.trans there
  | some tick =>
      cases call with
      | send core frame =>
          obtain ⟨given, started, there⟩ := clock_send ticking
          simp only [TimesOutBelow, given, started, there, true_and, Option.mem_some_iff,
            exists_eq_left']
          exact etimeout_of_waits _ (returns_send infinite_positive ticking)
            fun _ => canCoreSendTurn_etimeout_iff
      | receive core frame =>
          obtain ⟨given, started, there⟩ := clock_receive ticking
          simp only [TimesOutBelow, given, started, there, true_and, Option.mem_some_iff,
            exists_eq_left']
          exact etimeout_of_waits _ (returns_receive infinite_positive ticking)
            fun _ => canCoreReceiveTurn_etimeout_iff
      | poll core interestMask readyMask =>
          obtain ⟨given, valid, started, there⟩ := clock_poll ticking
          simp only [TimesOutBelow, given, valid, started, there, true_and, Option.mem_some_iff,
            exists_eq_left']
          exact etimeout_of_waits _ (returns_poll infinite_positive ticking)
            fun _ => canCorePollTurn_etimeout_iff
      | receiveMatch socket frame idType id localFrame =>
          obtain ⟨given, core, rfl, there⟩ := clock_receiveMatch ticking
          simp only [TimesOutBelow, given, there, true_and, Option.mem_some_iff, exists_eq_left']
          exact etimeout_of_waits _ (returns_receiveMatch infinite_positive ticking)
            fun _ => canSocketReceiveTimeoutMatchTurn_etimeout_iff

theorem neverTimesOut_iff (call : TimedCall W Ch Port) (w : W) :
    call.NeverTimesOut w ↔ ¬ call.TimesOutBelow w := by
  rw [NeverTimesOut, ← not_exists, not_iff_not]
  simp only [returns_infinite]
  exact etimeout_iff call w

end TimedCall

/-! ### Operations -/

/-- What an operation is prepared for. -/
inductive CANRequest where
  | send (core : Option Nat) (frame : Option CANFrame)
  | receive (core : Option Nat) (frame : Option CANFrame)
  | poll (core : Option Nat) (interestMask : UInt32) (readyMask : Option UInt32)

def CANRequest.prepared (timeoutMs : UInt32) : CANRequest → CANOperation
  | .send core frame => canOperationPrepareSend core frame timeoutMs
  | .receive core frame => canOperationPrepareReceive core frame timeoutMs
  | .poll core interestMask readyMask =>
      canOperationPreparePoll core interestMask timeoutMs readyMask

/-- The driver answers an attempt of the operation with `CAN_STATUS_ETIMEOUT`. -/
def CANOperation.AttemptTimesOut (s : CANCores W Ch Port) (operation : CANOperation) : Prop :=
  ∃ address ∈ operation.core,
    match operation.type with
    | .send => (s.core address).SendTimesOut s.world operation.txFrame
    | .receive => (s.core address).ReceiveTimesOut s.world operation.rxFrame
    | .poll => (s.core address).state = .started ∧ (s.core address).QueryTimesOut s.world
    | .none => False

/-- An operation that waits forever and has not timed out. -/
structure CANOperation.Waiting (operation : CANOperation) : Prop where
  infinite : operation.timeoutMs = canTimeoutInfinite
  result : operation.resultStatus ≠ .etimeout
  underway : operation.state = .pending → operation.Underway

theorem CANCores.pollNow_etimeout_iff {s : CANCores W Ch Port} {address : Nat}
    {interestMask : UInt32} (valid : interestValid interestMask) :
    (s.pollNow (some address) interestMask).2.1 = .etimeout ↔
      (s.core address).state = .started ∧ (s.core address).QueryTimesOut s.world := by
  by_cases started : (s.core address).state = .started
  · obtain ⟨core', w', mask, polled⟩ := canCorePoll_status started s.world valid 0
    simp only [CANCores.pollNow, polled, started, true_and, CANCore.pollStatus,
      ← canCoreQueryEvents_etimeout_iff]
    by_cases ok : (canCoreQueryEvents (s.core address) s.world 0).2.2.1 = .ok
    · simp only [ok, bne_self_eq_false, Bool.false_eq_true, if_false]
      split <;> simp
    · simp [ok]
  · simp [CANCores.pollNow, canCorePoll, valid, started, CANCore.answer]

section Waiting

variable {s : CANCores W Ch Port} {operation : CANOperation}

/-- Without a deadline, an attempt ends with the status of the call on the core, or leaves
the operation underway. -/
theorem canOperationSettle_infinite {retry status : CANStatus}
    (infinite : operation.timeoutMs = canTimeoutInfinite)
    (other : operation.resultStatus ≠ .etimeout) (underway : operation.Underway)
    (retries : retry ≠ .etimeout) :
    ∃ r, canOperationSettle retry s operation status = some r ∧
      r.2.1.timeoutMs = canTimeoutInfinite ∧ (r.2.1.state = .pending → r.2.1.Underway) ∧
      (r.2.1.resultStatus = .etimeout ↔ status = .etimeout) := by
  have endless : canOperationDeadlineExpired s operation = some (s, false) := by
    simp [canOperationDeadlineExpired, canOperationFiniteTimeoutEnabled, infinite]
  by_cases again : status = retry
  · refine ⟨(s, operation, .pending), ?_, infinite, fun _ => underway, ?_⟩
    · simp [canOperationSettle, again, infinite, endless, TimedCall.infinite_waits]
    · rw [again]
      exact iff_of_false other retries
  · refine ⟨(s, canOperationComplete operation status, .completed), ?_, infinite, ?_, Iff.rfl⟩
    · simp [canOperationSettle, again]
    · simp [canOperationComplete]

/-- An attempt, of each type. -/
theorem canOperationAttempt_infinite (waiting : operation.Waiting)
    (pending : operation.state = .pending) :
    ∃ r, canOperationAttempt s operation = some r ∧
      r.2.1.timeoutMs = canTimeoutInfinite ∧ (r.2.1.state = .pending → r.2.1.Underway) ∧
      (r.2.1.resultStatus = .etimeout ↔ operation.AttemptTimesOut s) := by
  have underway := waiting.underway pending
  have valid := underway.valid
  obtain ⟨address, there⟩ := Option.isSome_iff_exists.mp underway.bound
  simp only [CANOperation.AttemptTimesOut, there, Option.mem_some_iff, exists_eq_left']
  cases type : operation.type with
  | none => simp [CANOperation.argumentsValid, type] at valid
  | send =>
      simp only [← canCoreSend_etimeout_iff]
      rw [canOperationAttempt_send type, there, CANCores.trySend_some]
      exact canOperationSettle_infinite waiting.infinite waiting.result underway (by decide)
  | receive =>
      have buffer := s.tryReceive_isSome operation.core operation.rxFrame
      simp only [← canCoreReceive_etimeout_iff]
      rw [canOperationAttempt_receive type, there]
      rw [there] at buffer
      refine canOperationSettle_infinite waiting.infinite waiting.result ?_ (by decide)
      refine ⟨underway.pending, ?_, rfl⟩
      simpa only [CANOperation.argumentsValid, type, buffer] using valid
  | poll =>
      simp only [CANOperation.argumentsValid, type, Bool.and_eq_true] at valid
      obtain ⟨mask, given⟩ := Option.isSome_iff_exists.mp valid.1
      simp only [← CANCores.pollNow_etimeout_iff valid.2]
      rw [canOperationAttempt_poll type given, there]
      refine canOperationSettle_infinite waiting.infinite waiting.result ?_ (by decide)
      refine ⟨underway.pending, ?_, rfl⟩
      simp [CANOperation.argumentsValid, type, valid.2]

theorem CANOperation.Waiting.refused (waiting : operation.Waiting) (status : CANStatus)
    (other : status ≠ .etimeout) : { operation with resultStatus := status }.Waiting := by
  refine ⟨waiting.infinite, other, fun pending => ?_⟩
  obtain ⟨-, valid, bound⟩ := waiting.underway pending
  exact ⟨pending, valid, bound⟩

theorem canOperationSubmit_infinite (s : CANCores W Ch Port) (waiting : operation.Waiting) :
    (canOperationSubmit s operation).1.Waiting := by
  by_cases submittable : operation.Submittable s
  · rw [canOperationSubmit_of_submittable submittable]
    exact ⟨waiting.infinite, by simp [CANOperation.submitted], fun _ => submittable.underway⟩
  · unfold canOperationSubmit
    split
    · exact waiting.refused _ (by decide)
    split
    · exact waiting.refused _ (by decide)
    split
    · exact waiting.refused _ (by decide)
    · rename_i ready started valid
      refine absurd ⟨by simpa using ready, by simpa using started, by simpa using valid, ?_⟩
        submittable
      simp [canOperationFiniteTimeoutEnabled, waiting.infinite]

/-- A step, whatever the state of the operation. -/
theorem canOperationRunOnce_infinite (s : CANCores W Ch Port) (waiting : operation.Waiting) :
    ∃ r, canOperationRunOnce s operation = some r ∧
      r.2.1.timeoutMs = canTimeoutInfinite ∧ (r.2.1.state = .pending → r.2.1.Underway) ∧
      (r.2.1.resultStatus = .etimeout ↔
        operation.state = .pending ∧ operation.AttemptTimesOut s) := by
  by_cases pending : operation.state = .pending
  · have start : canOperationStartDeadline s operation = some (s, operation) := by
      simp [canOperationStartDeadline, canOperationFiniteTimeoutEnabled, waiting.infinite]
    simp only [canOperationRunOnce_pending pending, start, Option.bind_some, pending, true_and]
    exact canOperationAttempt_infinite waiting pending
  · by_cases done : operation.state = .completed
    · refine ⟨(s, operation, .completed), by simp [canOperationRunOnce, done], waiting.infinite,
        waiting.underway, ?_⟩
      exact iff_of_false waiting.result fun out => pending out.1
    · have refused := waiting.refused .ebusy (by decide)
      refine ⟨(s, { operation with resultStatus := .ebusy }, .error), ?_, refused.infinite,
        refused.underway, ?_⟩
      · simp [canOperationRunOnce, done, pending]
      · exact iff_of_false refused.result fun out => pending out.1

end Waiting

/-- The calls on an operation. In between the cores are used in any way, and the buffers
that it points to are written. -/
inductive OperationCall (W Ch Port : Type) where
  | submit
  | runOnce
  | useCores (cores : CANCores W Ch Port)
  | useBuffers (frame : CANFrame) (readyMask : UInt32)

namespace OperationCall

/-- A step that would fault leaves everything as it is. -/
def next (s : CANCores W Ch Port × CANOperation) :
    OperationCall W Ch Port → CANCores W Ch Port × CANOperation
  | .submit => (s.1, (canOperationSubmit s.1 s.2).1)
  | .runOnce => ((canOperationRunOnce s.1 s.2).map fun r => (r.1, r.2.1)).getD s
  | .useCores cores => (cores, s.2)
  | .useBuffers frame readyMask =>
      (s.1, { s.2 with
        txFrame := s.2.txFrame.map fun _ => frame
        rxFrame := s.2.rxFrame.map fun _ => frame
        readyMask := s.2.readyMask.map fun _ => readyMask })

/-- The call runs the operation, and the driver answers it with `CAN_STATUS_ETIMEOUT`. -/
def TimesOutBelow (s : CANCores W Ch Port × CANOperation) : OperationCall W Ch Port → Prop
  | .runOnce => s.2.state = .pending ∧ s.2.AttemptTimesOut s.1
  | _ => False

variable {s : CANCores W Ch Port × CANOperation}

theorem next_etimeout_iff (waiting : s.2.Waiting) (call : OperationCall W Ch Port) :
    canOperationGetResult (next s call).2 = .etimeout ↔ call.TimesOutBelow s := by
  cases call with
  | submit =>
      have submitted := canOperationSubmit_infinite s.1 waiting
      exact iff_of_false submitted.result id
  | runOnce =>
      obtain ⟨r, run, -, -, out⟩ := canOperationRunOnce_infinite s.1 waiting
      simpa [next, run, canOperationGetResult, TimesOutBelow] using out
  | useCores cores => exact iff_of_false waiting.result id
  | useBuffers frame readyMask => exact iff_of_false waiting.result id

theorem next_waiting (waiting : s.2.Waiting) {call : OperationCall W Ch Port}
    (kept : ¬ call.TimesOutBelow s) : (next s call).2.Waiting := by
  have result := mt (next_etimeout_iff waiting call).mp kept
  cases call with
  | submit => exact canOperationSubmit_infinite s.1 waiting
  | runOnce =>
      obtain ⟨r, run, infinite, underway, -⟩ := canOperationRunOnce_infinite s.1 waiting
      simp only [next, run, Option.map_some, Option.getD_some] at result ⊢
      exact ⟨infinite, result, underway⟩
  | useCores cores => exact waiting
  | useBuffers frame readyMask =>
      refine ⟨waiting.infinite, waiting.result, fun pending => ?_⟩
      obtain ⟨-, valid, bound⟩ := waiting.underway pending
      refine ⟨pending, ?_, bound⟩
      simpa [next, CANOperation.argumentsValid] using valid

/-- It has not been submitted yet. -/
theorem prepared_waiting (request : CANRequest) : (request.prepared canTimeoutInfinite).Waiting := by
  cases request <;>
    exact ⟨rfl, by simp [CANRequest.prepared, canOperationPrepareSend, canOperationPrepareReceive,
      canOperationPreparePoll, canOperationInit], nofun⟩

end OperationCall

/-- A call that may wait forever never ends with `CAN_STATUS_ETIMEOUT` exactly when the driver
never answers it with that and, for a matching receive, no reading after an undecided attempt
is one below the first. In a run of an operation, the same of each step. -/
theorem infinite_never_times_out_iff (call : TimedCall W Ch Port) (w : W) (request : CANRequest)
    (cores : CANCores W Ch Port) (calls : List (OperationCall W Ch Port)) :
    (call.NeverTimesOut w ↔ ¬ call.TimesOutBelow w) ∧
      ((∀ p ∈ Runs.steps OperationCall.next (cores, request.prepared canTimeoutInfinite) calls,
          canOperationGetResult (OperationCall.next p.1 p.2).2 ≠ .etimeout) ↔
        ∀ p ∈ Runs.steps OperationCall.next (cores, request.prepared canTimeoutInfinite) calls,
          ¬ p.2.TimesOutBelow p.1) := by
  constructor
  · exact call.neverTimesOut_iff w
  · refine Runs.forall_steps_iff_while (fun s => s.2.Waiting)
      (P := fun s call => canOperationGetResult (OperationCall.next s call).2 ≠ .etimeout)
      (Q := fun s call => ¬ call.TimesOutBelow s) ?_ ?_ ?_ calls
    · intro s call waiting kept
      exact OperationCall.next_waiting waiting kept
    · intro s call waiting
      exact not_congr (OperationCall.next_etimeout_iff waiting call)
    · exact OperationCall.prepared_waiting request

/-- A started core on a bus where nothing is received. Its clock is read first at 0 and then
2^32 - 1 ms later. -/
def silentCore : CANCore UInt32 Unit Unit :=
  let ops : CANCoreDriverOps UInt32 Unit Unit :=
    { opOpen w _ _ _ := (w, .ok)
      opClose w _ := (w, .ok)
      opStart w _ := (w, .ok)
      opStop w _ := (w, .ok)
      opSend w _ _ := (w, .ebusy)
      opReceive w _ frame := (w, .enodata, frame) }
  ⟨some ⟨true, ops, none, (), (), ⟨some fun nowMs => (nowMs - 1, nowMs), none⟩⟩, .zero, .ok⟩

/-- Nothing but the clock ends this wait: the driver answers `CAN_STATUS_ENODATA`. -/
theorem infinite_match_times_out :
    ¬ (TimedCall.receiveMatch (some silentCore) (some idleFrame) .standard 1
      idleFrame).NeverTimesOut 0 ∧
    (canCoreReceive silentCore (0xFFFFFFFF : UInt32) (some idleFrame)).2.2.1 = .enodata := by
  refine ⟨fun never => never 1 ?_, by decide⟩
  decide

end SmartBusAccess.Can
