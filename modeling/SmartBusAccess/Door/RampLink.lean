import SmartBusAccess.Door.RampOpening
import SmartBusAccess.Uart.SlopeLink

/-!
The door ECU as the sending end of the slope link.

A poll polls the slope UART, takes its success and at most latches one more request, in this
order (`rampActions`). It does to the UART what these actions do (`rampActions_glue`).
-/

namespace SmartBusAccess.Door

open SmartBusAccess.Uart SlopeUartTc375

/-- What a poll latches in the slope UART at its end. -/
def DoorEcu.issued (s : DoorEcu) (i : PollInput) : Option SlopeRequest :=
  if (s.decided i).ctl.slopeTxPending == slopeUartReqNone then none
  else if slopeUartTc375TxIsBusy (s.decided i).slope then none
  else if (s.decided i).ctl.slopeTxPending == slopeUartReqOpen then some .requestOpen
  else if (s.decided i).ctl.slopeTxPending == slopeUartReqClose then some .requestClose
  else none

/-- What a poll that reads `acks` frames does with the slope UART. -/
def rampActions (s : DoorEcu) (i : PollInput) (acks : ℕ) : List SlopeAction :=
  [.txPoll acks i.retryTicks i.sendTicks, .consumeTxSuccess] ++ (s.issued i).toList.map .request

section Ramp

variable {s : DoorEcu} {i : PollInput} {l : SlopeLink} {acks : ℕ}

theorem issued_slope (s : DoorEcu) (i : PollInput) : (s.polled i).slope =
    ((s.issued i).elim id SlopeRequest.latch) (s.decided i).slope := by
  rw [polled_slope]
  unfold doorEcuControlIssuePendingSlopeCommand DoorEcu.issued
  split
  · rfl
  split
  · rfl
  split
  · rfl
  split <;> rfl

/-- The request at the end of a poll only latches. -/
theorem run_requests (l : SlopeLink) (r : Option SlopeRequest) :
    let l' := l.run (r.toList.map .request)
    l'.glue = r.elim id SlopeRequest.latch l.glue ∧ l'.started = l.started ∧
      l'.delivered = l.delivered := by
  cases r with
  | none => exact ⟨rfl, rfl, rfl⟩
  | some request => exact ⟨rfl, rfl, rfl⟩

theorem consumed_glue (l : SlopeLink) :
    let l' := l.step .consumeTxSuccess
    l'.glue = { l.glue with txSuccessPending := false } ∧ l'.started = l.started ∧
      l'.delivered = l.delivered := by
  simp only [SlopeLink.step, slopeUartTc375ConsumeTxSuccess]
  cases pending : l.glue.txSuccessPending with
  | false => exact ⟨by simp [← pending], rfl, rfl⟩
  | true => exact ⟨rfl, rfl, rfl⟩

theorem rampActions_glue (inv : RampInv s) (same : l.glue = s.slope)
    (heard : i.slopeRx = rxBytes (l.acks.take acks)) :
    let l' := l.run (rampActions s i acks)
    l'.glue = (s.polled i).slope ∧
      l'.started = l.started ++ (s.report i).tx.startedCmd.toList ∧
        l'.delivered = l.delivered := by
  have polled : s.txPoll i = slopeUartTc375TxPoll l.glue (rxBytes (l.acks.take acks))
      i.retryTicks i.sendTicks := by
    rw [DoorEcu.txPoll, atTxPoll_slope, ← same, heard]
  obtain ⟨taken, started, delivered⟩ := consumed_glue (l.txPoll acks i.retryTicks i.sendTicks)
  obtain ⟨latched, starts, delivers⟩ := run_requests
    ((l.txPoll acks i.retryTicks i.sendTicks).step .consumeTxSuccess) (s.issued i)
  have run : l.run (rampActions s i acks) =
      ((l.txPoll acks i.retryTicks i.sendTicks).step .consumeTxSuccess).run
        ((s.issued i).toList.map .request) := by
    rw [rampActions, SlopeLink.run, Runs.run_append]
    rfl
  rw [run]
  refine ⟨?_, ?_, ?_⟩
  · rw [latched, taken, issued_slope, inv.decided_slope i, polled]
    rfl
  · rw [starts, started, report_tx, polled]
    rfl
  · rw [delivers, delivered]
    rfl

end Ramp

end SmartBusAccess.Door
