import SmartBusAccess.Door.ManualRamp
import SmartBusAccess.Door.RampEstimate

/-!
What it takes for the ramp to be told to open.

`RampQuiet`: nothing in the supervisor or in its slope UART asks for an OPEN. A poll to which
nobody comes with such a request leaves it so (`RampQuiet.polled`), and none is sent
(`RampQuiet.noStart`). An OPEN that is acknowledged is the one in flight (`RampInv.acked_inFlight`),
and one gets in flight only by being started (`RampInv.waits`).
-/

namespace SmartBusAccess.Door

open SmartBusAccess.Can SmartBusAccess.Uart SlopeUartTc375

structure RampQuiet (s : DoorEcu) : Prop where
  clear : NoRampOpen s.ctl
  latch : s.slope.desiredCmd ≠ slopeUartReqOpen

/-- A command is in flight to the slope module. -/
def DoorEcu.InFlight (s : DoorEcu) (cmd : UInt8) : Prop :=
  s.slope.sender.waitingAck = true ∧ s.slope.desiredCmd = cmd

section Ramp

variable {s : DoorEcu} {i : PollInput} {cmd : UInt8}

theorem rampQuiet_init (init : InitInput) : RampQuiet (doorEcuControlInit init) where
  clear := ⟨rfl, rfl, slopeUartReqNone_ne_open⟩
  latch := slopeUartReqNone_ne_open

/-- What is issued at the end of a poll. -/
theorem polled_slope (s : DoorEcu) (i : PollInput) :
    (s.polled i).slope = (doorEcuControlIssuePendingSlopeCommand (s.decided i)).slope := by
  obtain ⟨_, _, frame⟩ := polled_frame s i
  rw [frame]

theorem RampInv.decided_slope (inv : RampInv s) (i : PollInput) :
    (s.decided i).slope = { (s.txPoll i).1 with txSuccessPending := false } :=
  (runPolicy_slope _ _).trans (inv.atPolicy i).1

theorem RampQuiet.polled (quiet : RampQuiet s) (inv : RampInv s)
    (asked : (s.report i).asksRampOpen = false) : RampQuiet (s.polled i) := by
  have clear : NoRampOpen (s.decided i).ctl :=
    ((quiet.clear.atTxPoll asked).atPolicy).runPolicy i.policyTicks
  refine ⟨clear.polled, ?_⟩
  have latch : (s.decided i).slope.desiredCmd ≠ slopeUartReqOpen := by
    rw [inv.decided_slope i]
    rcases (inv.txPoll i).1.latch with same | none
    · exact same ▸ quiet.latch
    · exact none ▸ slopeUartReqNone_ne_open
  rw [polled_slope]
  rcases issue_cases (s.decided i) with ⟨same, -⟩ | ⟨-, toOpen, -⟩ | ⟨-, -, latched⟩
  · rw [same]
    exact latch
  · exact absurd toOpen clear.pending
  · rw [latched]
    exact slopeUartReqOpen_ne_close.symm

theorem RampQuiet.noStart (quiet : RampQuiet s) (inv : RampInv s) :
    (s.report i).tx.startedCmd ≠ some slopeUartReqOpen := by
  intro started
  exact quiet.latch ((inv.txPoll i).1.startedCmd started).symm

theorem RampInv.acked_inFlight (inv : RampInv s) (acked : s.succeeded i = some cmd) :
    s.InFlight cmd := by
  obtain ⟨pending, succeeded⟩ :=
    txPoll_success inv.coherent.initialized i.slopeRx i.retryTicks i.sendTicks
  have read := processRx_read s.slope i.slopeRx
  have slot := inv.slot
  unfold DoorEcu.succeeded DoorEcu.txPoll slopeUartTc375ConsumeTxSuccess at acked
  rw [atTxPoll_slope, pending, succeeded] at acked
  generalize slopeUartTc375ProcessRx s.slope i.slopeRx = g', s.slope.ackedBy i.slopeRx = acks
    at read acked
  cases read with
  | heard parser => simp [slot] at acked
  | acknowledged parser busy =>
      refine ⟨busy, ?_⟩
      have inflight := inv.coherent.busy_inflight busy
      simpa [inflight] using acked

/-- A command in flight was before the poll, or is started in it. -/
theorem RampInv.waits (inv : RampInv s) (after : (s.polled i).InFlight cmd) :
    s.InFlight cmd ∨ (s.report i).tx.startedCmd = some cmd := by
  obtain ⟨busy, latched⟩ := after
  rw [polled_slope] at busy latched
  have same : doorEcuControlIssuePendingSlopeCommand (s.decided i) = s.decided i := by
    rcases issue_cases (s.decided i) with ⟨same, -⟩ | ⟨idle, -, issued⟩ | ⟨idle, -, issued⟩
    · exact same
    · rw [issued] at busy
      exact absurd (idle.symm.trans busy) Bool.false_ne_true
    · rw [issued] at busy
      exact absurd (idle.symm.trans busy) Bool.false_ne_true
  rw [same, inv.decided_slope i] at busy latched
  obtain ⟨outcome, -⟩ := inv.txPoll i
  generalize (s.txPoll i).1 = g', (s.report i).tx = report at outcome busy latched
  cases outcome with
  | acked parser waiting => simp at busy
  | waiting parser sender retry waiting still frame goesOn => exact .inl ⟨waiting, latched⟩
  | restarted parser nowMs waiting => exact .inl ⟨waiting, latched⟩
  | quiet parser idle queued => exact .inl ⟨busy, latched⟩
  | started parser nowMs idle new => exact .inr (by simpa [TxReport.startedCmd] using latched)

end Ramp

end SmartBusAccess.Door
