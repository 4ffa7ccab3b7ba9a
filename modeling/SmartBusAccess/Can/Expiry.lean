import SmartBusAccess.Semantics.Deadline
import SmartBusAccess.Can.Infinite

/-!
Waiting with a finite timeout.

Each of the four calls that wait makes an attempt on the core, and after one that may be
retried reads the clock. It gives up when the time since its first reading has reached the
timeout (`Deadline.Waits`), and otherwise hands through what the driver answers.
-/

namespace SmartBusAccess.Can

open Looping Deadline

variable {W Ch Port : Type}

/-! ### Attempts -/

/-- An attempt, with the status that the core answers it with. -/
abbrev CANAttempt := Attempt CANStatus

/-- A frame that the driver has no room for may be sent again. -/
def canCoreSendAttempt (tick : W → W × UInt32) (frame : Option CANFrame)
    (s : CANCore W Ch Port × W) : CANAttempt :=
  let (_, w, status) := canCoreSend s.1 s.2 frame
  ⟨status, status == .ebusy, (tick w).2⟩

def canCoreReceiveAttempt (tick : W → W × UInt32) (s : CANCore W Ch Port × W × Option CANFrame) :
    CANAttempt :=
  let (_, w, status, _) := canCoreReceive s.1 s.2.1 s.2.2
  ⟨status, status == .enodata, (tick w).2⟩

/-- The driver is asked again when no event of interest is there. -/
def canCorePollAttempt (tick : W → W × UInt32) (interestMask : UInt32)
    (s : CANCore W Ch Port × W) : CANAttempt :=
  let (_, w, status, queriedMask) := canCoreQueryEvents s.1 s.2 0
  ⟨status, status == .ok && queriedMask &&& interestMask == 0, (tick w).2⟩

/-- It is asked again when no frame is there, or one that does not match. -/
def canSocketReceiveMatchAttempt (tick : W → W × UInt32) (idType : CANIdType) (id : UInt32)
    (s : CANCore W Ch Port × W × CANFrame) : CANAttempt :=
  let (_, w, status, received) := canSocketReceiveNow s.1 s.2.1 (some s.2.2)
  ⟨status, status == .enodata ||
    status == .ok && !(received.getD s.2.2).matches idType id, (tick w).2⟩

/-! ### One turn -/

section Turns

variable {tick : W → W × UInt32} {timeoutMs startMs : UInt32}

theorem canCoreDeadline_finite (finite : timeoutMs < canTimeoutInfinite) (w : W) :
    canCoreDeadline tick timeoutMs startMs w =
      ((tick w).1, decide (timeoutMs ≤ (tick w).2 - startMs)) := by
  have other : timeoutMs ≠ canTimeoutInfinite := by
    rintro rfl
    exact UInt32.lt_irrefl _ finite
  simp [canCoreDeadline, other, canCoreDeadlineExpired]

theorem canCoreSendTurn_waits (finite : timeoutMs < canTimeoutInfinite) (frame : Option CANFrame) :
    Waits (canCoreSendTurn tick frame timeoutMs startMs)
      (fun r : CANCore W Ch Port × W × CANStatus => r.2.2) (canCoreSendAttempt tick frame)
      timeoutMs startMs := by
  apply Waits.of_turn
  rintro ⟨core, w⟩
  rcases sent : canCoreSend core w frame with ⟨core, w, status⟩
  simp only [canCoreSendTurn, canCoreSendAttempt, canCoreDeadline_finite finite, sent]
  refine ⟨(core.sendTimedOut, (tick w).1, .etimeout), (core, w, status),
    (core, canCoreRelax core (tick w).1), ?_, rfl⟩
  by_cases busy : status = .ebusy <;> simp [busy]

theorem canCoreReceiveTurn_waits (finite : timeoutMs < canTimeoutInfinite) :
    Waits (canCoreReceiveTurn tick timeoutMs startMs)
      (fun r : CANCore W Ch Port × W × CANStatus × Option CANFrame => r.2.2.1)
      (canCoreReceiveAttempt tick) timeoutMs startMs := by
  apply Waits.of_turn
  rintro ⟨core, w, frame⟩
  rcases received : canCoreReceive core w frame with ⟨core, w, status, frame⟩
  simp only [canCoreReceiveTurn, canCoreReceiveAttempt, canCoreDeadline_finite finite, received]
  refine ⟨(core.receiveTimedOut, (tick w).1, .etimeout, frame), (core, w, status, frame),
    (core, canCoreRelax core (tick w).1, frame), ?_, rfl⟩
  by_cases empty : status = .enodata <;> simp [empty]

theorem canCorePollTurn_waits (finite : timeoutMs < canTimeoutInfinite) (interestMask : UInt32) :
    Waits (canCorePollTurn (some tick) interestMask timeoutMs startMs)
      (fun r : CANCore W Ch Port × W × CANStatus × UInt32 => r.2.2.1)
      (canCorePollAttempt tick interestMask) timeoutMs startMs := by
  apply Waits.of_turn
  rintro ⟨core, w⟩
  rcases queried : canCoreQueryEvents core w 0 with ⟨core, w, status, queriedMask⟩
  simp only [canCorePollTurn, canCorePollAttempt, canCoreDeadline_finite finite, queried]
  by_cases ok : status = .ok
  · refine ⟨({ core with lastStatus := .etimeout }, (tick w).1, .etimeout,
      queriedMask &&& interestMask), ({ core with lastStatus := .ok }, w, .ok,
      queriedMask &&& interestMask), (core, canCoreRelax core (tick w).1), ?_, ok.symm⟩
    by_cases idle : queriedMask &&& interestMask = 0 <;> simp [ok, idle]
  · refine ⟨(core, w, status, 0), (core, w, status, 0), (core, w), ?_, rfl⟩
    simp [ok]

/-- The matching receive does not look for an infinite timeout. -/
theorem canSocketReceiveTimeoutMatchTurn_waits (idType : CANIdType) (id : UInt32) :
    Waits (canSocketReceiveTimeoutMatchTurn tick idType id timeoutMs startMs)
      (fun r : CANCore W Ch Port × W × CANStatus × Option CANFrame => r.2.2.1)
      (canSocketReceiveMatchAttempt tick idType id) timeoutMs startMs := by
  apply Waits.of_turn
  rintro ⟨core, w, localFrame⟩
  rcases answer : canSocketReceiveNow core w (some localFrame) with ⟨core, w, status, received⟩
  simp only [canSocketReceiveTimeoutMatchTurn, canSocketReceiveMatchAttempt, answer]
  refine ⟨(core, (tick w).1, .etimeout, none), (core, w, status,
    if status = .ok then some (received.getD localFrame) else none),
    (core, canCoreRelax core (tick w).1, received.getD localFrame), ?_, rfl⟩
  cases found : (received.getD localFrame).matches idType id <;> cases status <;> simp

end Turns

/-! ### The calls -/

namespace TimedCall

/-- The attempts it makes while it waits. -/
def attempts (tick : W → W × UInt32) (timeoutMs : UInt32) (fuel : Nat) (w : W) :
    TimedCall W Ch Port → List CANAttempt
  | .send core frame =>
      (visits (canCoreSendTurn tick frame timeoutMs (tick w).2) fuel (core, (tick w).1)).map
        (canCoreSendAttempt tick frame)
  | .receive core frame =>
      (visits (canCoreReceiveTurn tick timeoutMs (tick w).2) fuel (core, (tick w).1, frame)).map
        (canCoreReceiveAttempt tick)
  | .poll core interestMask _ =>
      (visits (canCorePollTurn (some tick) interestMask timeoutMs (tick w).2) fuel
        (core, (tick w).1)).map (canCorePollAttempt tick interestMask)
  | .receiveMatch none _ _ _ _ => []
  | .receiveMatch (some core) _ idType id localFrame =>
      (visits (canSocketReceiveTimeoutMatchTurn tick idType id timeoutMs (tick w).2) fuel
        (core, (tick w).1, localFrame)).map (canSocketReceiveMatchAttempt tick idType id)

variable {timeoutMs : UInt32} {call : TimedCall W Ch Port} {w : W}

/-- A call that is not refused is a loop that waits. -/
theorem returns_of_clock (positive : 0 < timeoutMs) (finite : timeoutMs < canTimeoutInfinite)
    {tick : W → W × UInt32} (ticking : call.clock = some tick) :
    ∃ (σ α : Type) (body : σ → Turn σ α) (s : σ) (part : α → CANStatus)
      (attempt : σ → CANAttempt), Waits body part attempt timeoutMs (tick w).2 ∧
      (∀ fuel, call.returns timeoutMs fuel w = (loop body fuel s).map part) ∧
      ∀ fuel, call.attempts tick timeoutMs fuel w = (visits body fuel s).map attempt := by
  cases call with
  | send core frame =>
      exact ⟨_, _, _, (core, (tick w).1), _, _, canCoreSendTurn_waits finite frame,
        returns_send positive ticking, fun fuel => rfl⟩
  | receive core frame =>
      exact ⟨_, _, _, (core, (tick w).1, frame), _, _, canCoreReceiveTurn_waits finite,
        returns_receive positive ticking, fun fuel => rfl⟩
  | poll core interestMask readyMask =>
      exact ⟨_, _, _, (core, (tick w).1), _, _, canCorePollTurn_waits finite interestMask,
        returns_poll positive ticking, fun fuel => rfl⟩
  | receiveMatch socket frame idType id localFrame =>
      obtain ⟨given, core, rfl, there⟩ := clock_receiveMatch ticking
      exact ⟨_, _, _, (core, (tick w).1, localFrame), _, _,
        canSocketReceiveTimeoutMatchTurn_waits idType id, returns_receiveMatch positive ticking,
        fun fuel => rfl⟩

end TimedCall

/-- A call with a finite timeout ends with `CAN_STATUS_ETIMEOUT` only after at least one
attempt, all of which may be retried, and at the deadline, or when the driver itself answers
the last attempt with it. It makes no more attempts than one above its timeout when each
reading of the clock advances by no more than 2^32 less the timeout. -/
theorem finite_timeout_exact (call : TimedCall W Ch Port) (w : W) (timeoutMs : UInt32)
    (positive : 0 < timeoutMs) (finite : timeoutMs < canTimeoutInfinite) :
    (∀ fuel, call.returns timeoutMs fuel w = some .etimeout →
      ∃ tick ∈ call.clock, ∃ last,
        Ended timeoutMs (tick w).2 (call.attempts tick timeoutMs fuel w) last ∧
          (last.retryable = false → last.answer = .etimeout)) ∧
      ((∀ tick ∈ call.clock, List.IsChain (Advances timeoutMs) ((tick w).2 ::
          readings (call.attempts tick timeoutMs (timeoutMs.toNat + 1) w))) →
        ∃ status, call.returns timeoutMs (timeoutMs.toNat + 1) w = some status) := by
  cases ticking : call.clock with
  | none =>
      obtain ⟨status, other, refused⟩ := TimedCall.returns_of_refused (w := w) positive ticking
      constructor
      · intro fuel out
        exact absurd (Option.some.inj ((refused fuel).symm.trans out)) other
      · intro _
        exact ⟨status, refused _⟩
  | some tick =>
      obtain ⟨σ, α, body, s, part, attempt, waits, same, made⟩ :=
        TimedCall.returns_of_clock (w := w) positive finite ticking
      simp only [Option.mem_some_iff, exists_eq_left', forall_eq', same, made]
      constructor
      · intro fuel out
        obtain ⟨a, ends, timedOut⟩ := Option.map_eq_some_iff.mp out
        obtain ⟨last, ended, answer⟩ := waits.ended ends
        refine ⟨last, ended, fun other => ?_⟩
        rw [← answer other, timedOut]
      · intro clock
        obtain ⟨a, ends⟩ := waits.returns positive (Nat.le_succ _) clock
        exact ⟨part a, by rw [ends, Option.map_some]⟩

/-- A started core whose driver answers every send alike, with a clock that moves on by 1 ms
at each reading. -/
def refusingCore (status : CANStatus) : CANCore UInt32 Unit Unit :=
  let ops : CANCoreDriverOps UInt32 Unit Unit :=
    { opOpen w _ _ _ := (w, .ok)
      opClose w _ := (w, .ok)
      opStart w _ := (w, .ok)
      opStop w _ := (w, .ok)
      opSend w _ _ := (w, status)
      opReceive w _ frame := (w, .enodata, frame) }
  ⟨some ⟨true, ops, none, (), (), ⟨some fun nowMs => (nowMs + 1, nowMs), none⟩⟩, .zero, .ok⟩

/-- A timeout of 3 ms on a full transmit buffer. -/
theorem finite_timeout_exact_three :
    (TimedCall.send (refusingCore .ebusy) (some idleFrame)).returns 3 3 0 = some .etimeout ∧
      (∃ tick ∈ (TimedCall.send (refusingCore .ebusy) (some idleFrame)).clock, ∃ last,
        Ended 3 (tick 0).2
          ((TimedCall.send (refusingCore .ebusy) (some idleFrame)).attempts tick 3 3 0) last ∧
            (last.retryable = false → last.answer = .etimeout)) ∧
      ∃ status, (TimedCall.send (refusingCore .ebusy) (some idleFrame)).returns 3 4 0 =
        some status := by
  obtain ⟨expired, bounded⟩ := finite_timeout_exact
    (TimedCall.send (refusingCore .ebusy) (some idleFrame)) 0 3 (by decide) (by decide)
  refine ⟨by decide, expired 3 (by decide), bounded ?_⟩
  intro tick there
  obtain rfl := Option.some.inj there
  decide

/-- The first attempt ends this call, before the clock is read again. -/
theorem finite_timeout_handed_through :
    (TimedCall.send (refusingCore .etimeout) (some idleFrame)).returns 3 1 0 = some .etimeout ∧
      ¬ ∃ tick ∈ (TimedCall.send (refusingCore .etimeout) (some idleFrame)).clock, ∃ last,
        Ended 3 (tick 0).2
          ((TimedCall.send (refusingCore .etimeout) (some idleFrame)).attempts tick 3 1 0) last ∧
            last.retryable = true := by
  refine ⟨by decide, ?_⟩
  rintro ⟨tick, there, last, ⟨earlier, made, -⟩, retried⟩
  obtain rfl := Option.some.inj there
  have only : last = ⟨.etimeout, false, 1⟩ := by
    have ends := congrArg List.getLast? made
    rw [List.getLast?_concat] at ends
    exact (Option.some.inj ends).symm
  rw [only] at retried
  cases retried

end SmartBusAccess.Can
