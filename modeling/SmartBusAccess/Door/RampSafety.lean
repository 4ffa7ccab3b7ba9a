import SmartBusAccess.Door.ManualRamp

/-!
What the ramp can be told to do, over whole runs.

* `restarts_pending_iff`: after a give-up the glue restarts its own latched
  command; in which runs that is always the supervisor's pending one.
  `outage_restarts_superseded_open` is a run where it is not.
* `jam_cancels_close_iff`: in which runs a jam cancels the ramp close for good.
  `jam_misses_latched_close` is a run where the close has already been latched.
* `door_close_stows_ramp`: a door close stows the ramp, whatever is lost.
-/

namespace SmartBusAccess.Door

open SmartBusAccess.Can SmartBusAccess.Uart SlopeUartTc375

/-! ### Restarts after a give-up -/

/-- A frame started right after a give-up carries the supervisor's pending
command, and no OPEN is started while a CLOSE is pending. -/
def DoorEcu.RestartsPending (s : DoorEcu) (i : PollInput) : Prop :=
  ((s.report i).tx.retry = .giveUp →
      ∀ cmd ∈ (s.report i).tx.startedCmd, cmd = (s.atTxPoll i).ctl.slopeTxPending) ∧
    ((s.atTxPoll i).ctl.slopeTxPending = slopeUartReqClose →
      (s.report i).tx.startedCmd ≠ some slopeUartReqOpen)

/-- If a give-up is due, the latched command is the pending one. -/
def DoorEcu.LatchPending (s : DoorEcu) (i : PollInput) : Prop :=
  s.slope.giveUpDue i.slopeRx i.retryTicks = true →
    s.slope.desiredCmd = (s.atTxPoll i).ctl.slopeTxPending

section Restarts

variable {s : DoorEcu} {i : PollInput}

/-- An OPEN that an idle sender holds is still pending when the slope UART runs. -/
theorem RampInv.idle_open (inv : RampInv s) (idle : s.slope.sender.waitingAck = false)
    (latched : s.slope.desiredCmd = slopeUartReqOpen) :
    (s.atTxPoll i).ctl.slopeTxPending = slopeUartReqOpen := by
  have pending := (inv.idle_latch idle).symm.trans latched
  rcases atTxPoll_pending s i with same | ⟨close, -⟩
  · exact same.trans pending
  · exact absurd (pending.symm.trans close) slopeUartReqOpen_ne_close

theorem restartsPending_iff (inv : RampInv s) (i : PollInput) :
    s.RestartsPending i ↔ s.LatchPending i := by
  obtain ⟨outcome, due⟩ := inv.txPoll i
  unfold DoorEcu.RestartsPending DoorEcu.LatchPending
  rw [← due]
  constructor
  · rintro ⟨current, -⟩ gaveUp
    exact current gaveUp _ (outcome.giveUp_starts gaveUp)
  · intro latch
    refine ⟨fun gaveUp cmd started => (outcome.startedCmd started).trans (latch gaveUp), ?_⟩
    intro close started
    have latched : s.slope.desiredCmd = slopeUartReqOpen := (outcome.startedCmd started).symm
    have notOpen : (s.atTxPoll i).ctl.slopeTxPending ≠ slopeUartReqOpen := by
      rw [close]
      exact slopeUartReqOpen_ne_close.symm
    generalize (s.txPoll i).1 = g', (s.report i).tx = report at outcome latch started
    cases outcome with
    | acked parser busy => simp [TxReport.startedCmd] at started
    | waiting parser sender retry busy still frame goesOn => simp [TxReport.startedCmd] at started
    | restarted parser nowMs busy => exact notOpen ((latch rfl).symm.trans latched)
    | quiet parser idle queued => simp [TxReport.startedCmd] at started
    | started parser nowMs idle new => exact notOpen (inv.idle_open idle latched)

end Restarts

/-- In a run every restart carries the pending command exactly if, whenever a
give-up is due, the glue's latched command is the pending one. -/
theorem restarts_pending_iff (init : InitInput) (inputs : List PollInput) :
    (∀ p ∈ DoorEcu.polls init inputs, p.1.RestartsPending p.2) ↔
      ∀ p ∈ DoorEcu.polls init inputs, p.1.LatchPending p.2 :=
  Runs.forall_steps_iff RampInv (fun _ i inv => inv.polled i)
    (fun _ i inv => restartsPending_iff inv i) (RampInv.init init) inputs

/-- An OPEN is in flight and never acknowledged; at 60 ms the driver asks for the
ramp to be stowed. The give-up at 140 ms starts the OPEN again. -/
theorem outage_restarts_superseded_open :
    let deploy := driverWithDoorCanPackCommand doorCmdNop rampCmdDeploy true false false
    let stow := driverWithDoorCanPackCommand doorCmdNop rampCmdStow true false false
    let s := DoorEcu.run bench
      [quietPoll 0, { commandPoll 10 deploy with slopeRx := (encodeAck 0).bytes.toList },
        quietPoll 20, quietPoll 40, commandPoll 60 stow, quietPoll 80, quietPoll 100, quietPoll 120]
    s.ctl.slopeTxPending = slopeUartReqClose ∧
      (s.report (quietPoll 140)).tx.startedCmd = some slopeUartReqOpen ∧
      ¬ s.RestartsPending (quietPoll 140) := by
  refine ⟨?_, ?_, fun restarts => restarts.2 ?_ ?_⟩ <;> decide +kernel

/-! ### Jams -/

/-- A DATA frame carrying CLOSE is awaiting its ACK. -/
def DoorEcu.closeAwaiting (s : DoorEcu) : Bool :=
  s.slope.sender.waitingAck && s.slope.sender.pendingFrame.cmd == slopeUartReqClose

/-- If the jam handler fires with no CLOSE awaiting its ACK, no CLOSE is started
in this poll or later, until a later request asks for a door or ramp close. -/
def DoorEcu.JamCancelsClose (s : DoorEcu) (i : PollInput) : Prop :=
  (s.report i).jam = true → (s.atJam i).closeAwaiting = false → ∀ later : List PollInput,
    (∀ r ∈ Runs.outputs doorEcuControlPoll (s.polled i) later, r.asksClose = false) →
      ∀ r ∈ s.report i :: Runs.outputs doorEcuControlPoll (s.polled i) later,
        r.tx.startedCmd ≠ some slopeUartReqClose

/-- The jam handler fires in a poll that finds a CLOSE latched and the sender idle. -/
structure DoorEcu.JamMeetsLatchedClose (s : DoorEcu) (i : PollInput) : Prop where
  fires : (s.atJam i).ctl.jamFires = true
  idle : s.slope.sender.waitingAck = false
  latched : s.slope.desiredCmd = slopeUartReqClose

/-- Nothing on either side would close the ramp. -/
structure NoClose (s : DoorEcu) : Prop where
  doorClose : s.ctl.doorManualClosePending = false
  slopeClose : s.ctl.slopeManualClosePending = false
  stocked : s.ctl.slopeAutoCloseStocked = false
  pending : s.ctl.slopeTxPending ≠ slopeUartReqClose
  latch : s.slope.desiredCmd ≠ slopeUartReqClose

section Jam

variable {s : DoorEcu} {i : PollInput}

theorem NoClose.ofRamp (ramp : NoRampClose s.ctl) (latch : s.slope.desiredCmd ≠ slopeUartReqClose) :
    NoClose s :=
  ⟨ramp.doorClose, ramp.slopeClose, ramp.stocked, ramp.pending, latch⟩

theorem NoClose.ramp (clear : NoClose s) : NoRampClose s.ctl :=
  ⟨clear.doorClose, clear.slopeClose, clear.stocked, clear.pending⟩

/-- The jam handler establishes it, except for the latch. -/
theorem NoClose.ofJam (jam : (s.report i).jam = true)
    (latch : s.slope.desiredCmd ≠ slopeUartReqClose) : NoClose (s.atTxPoll i) := by
  apply NoClose.ofRamp (.ofJam jam)
  rwa [atTxPoll_slope]

/-- Without a close request the start of a poll keeps it. -/
theorem NoClose.atTxPoll (clear : NoClose s) (asked : (s.report i).asksClose = false) :
    NoClose (s.atTxPoll i) := by
  cases jam : (s.report i).jam with
  | true => exact .ofJam jam clear.latch
  | false =>
      simp only [PollReport.asksClose, Bool.or_eq_false_iff] at asked
      obtain ⟨⟨⟨door, manual⟩, auto⟩, -⟩ := asked
      rw [atTxPoll_quiet jam]
      apply NoClose.ofRamp (clear.ramp.atJam door manual auto)
      rw [atJam_slope]
      exact clear.latch

theorem NoClose.atPolicy (inv : RampInv s) (clear : NoClose (s.atTxPoll i)) :
    NoClose (s.atPolicy i) := by
  apply NoClose.ofRamp clear.ramp.atPolicy
  have kept := clear.latch
  rw [atTxPoll_slope] at kept
  rw [(inv.atPolicy i).1]
  rcases (inv.txPoll i).1.latch with same | none
  · exact same ▸ kept
  · rw [none]
    exact slopeUartReqNone_ne_close

/-- With nothing to close for, the policy can only ask for an OPEN. -/
theorem NoClose.runPolicy (clear : NoClose s) (ticks : UInt64) :
    NoClose (doorEcuControlRunPolicy s ticks).1 := by
  apply NoClose.ofRamp (clear.ramp.runPolicy ticks)
  rw [runPolicy_slope]
  exact clear.latch

/-- From the slope UART on, nothing turns into a close. -/
theorem NoClose.polled (inv : RampInv s) (clear : NoClose (s.atTxPoll i)) :
    NoClose (s.polled i) := by
  have decided : NoClose (s.decided i) := (clear.atPolicy inv).runPolicy i.policyTicks
  obtain ⟨_, _, frame⟩ := polled_frame s i
  have latch : (doorEcuControlIssuePendingSlopeCommand (s.decided i)).slope.desiredCmd ≠
      slopeUartReqClose := by
    rcases issue_cases (s.decided i) with ⟨same, -⟩ | ⟨-, -, latched⟩ | ⟨-, toClose, -⟩
    · rw [same]
      exact decided.latch
    · rw [latched]
      exact slopeUartReqOpen_ne_close
    · exact absurd toClose decided.pending
  apply NoClose.ofRamp decided.ramp.polled
  rw [frame]
  exact latch

theorem NoClose.startsNoClose (inv : RampInv s) (clear : NoClose (s.atTxPoll i)) :
    (s.report i).tx.startedCmd ≠ some slopeUartReqClose := by
  intro started
  obtain ⟨outcome, -⟩ := inv.txPoll i
  have latched := outcome.startedCmd started
  rw [← atTxPoll_slope s i] at latched
  exact clear.latch latched.symm

/-- Nothing closes the ramp until someone asks for it. -/
theorem NoClose.startsNoClose_later (inv : RampInv s) (clear : NoClose s) (later : List PollInput)
    (unasked : ∀ r ∈ Runs.outputs doorEcuControlPoll s later, r.asksClose = false) :
    ∀ r ∈ Runs.outputs doorEcuControlPoll s later, r.tx.startedCmd ≠ some slopeUartReqClose := by
  refine Runs.outputs_while (fun s => RampInv s ∧ NoClose s)
    (fun r : PollReport => r.asksClose = false)
    (fun r : PollReport => r.tx.startedCmd ≠ some slopeUartReqClose) ?_ ?_ ⟨inv, clear⟩ later
    unasked
  · rintro s i ⟨inv, clear⟩ asked
    exact ⟨inv.polled i, NoClose.polled inv (clear.atTxPoll asked)⟩
  · rintro s i ⟨inv, clear⟩ asked
    exact NoClose.startsNoClose inv (clear.atTxPoll asked)

theorem closeAwaiting_idle (idle : s.slope.sender.waitingAck = false) (i : PollInput) :
    (s.atJam i).closeAwaiting = false := by
  unfold DoorEcu.closeAwaiting
  rw [atJam_slope, idle, Bool.false_and]

/-- A latched CLOSE that is not awaiting its ACK has not been sent yet. -/
theorem RampInv.idle_of_latched (inv : RampInv s)
    (notAwaiting : (s.atJam i).closeAwaiting = false)
    (latched : s.slope.desiredCmd = slopeUartReqClose) :
    s.slope.sender.waitingAck = false := by
  cases busy : s.slope.sender.waitingAck with
  | false => rfl
  | true =>
      have frame := (inv.coherent.busy_frame busy).trans latched
      unfold DoorEcu.closeAwaiting at notAwaiting
      rw [atJam_slope] at notAwaiting
      simp [busy, frame] at notAwaiting

/-- A CLOSE started in the very poll of the jam is enough to violate it. -/
theorem not_jamCancelsClose (jam : (s.report i).jam = true)
    (notAwaiting : (s.atJam i).closeAwaiting = false)
    (started : (s.report i).tx.startedCmd = some slopeUartReqClose) : ¬ s.JamCancelsClose i := by
  intro cancels
  have none := cancels jam notAwaiting [] (by simp [Runs.outputs])
  exact none _ List.mem_cons_self started

theorem jamCancelsClose_iff (inv : RampInv s) (i : PollInput) :
    s.JamCancelsClose i ↔ ¬ s.JamMeetsLatchedClose i := by
  constructor
  · intro cancels met
    have something : s.slope.desiredCmd ≠ slopeUartReqNone := by
      rw [met.latched]
      exact slopeUartReqNone_ne_close.symm
    obtain ⟨outcome, -⟩ := inv.txPoll i
    have started := outcome.idle_starts inv.coherent met.idle something
    rw [met.latched] at started
    have jam := (report_jam s i).trans met.fires
    exact not_jamCancelsClose jam (closeAwaiting_idle met.idle i) started cancels
  · intro unmet jam notAwaiting later unasked
    have latch : s.slope.desiredCmd ≠ slopeUartReqClose := by
      intro latched
      have fires := (report_jam s i).symm.trans jam
      exact unmet ⟨fires, inv.idle_of_latched notAwaiting latched, latched⟩
    have clear : NoClose (s.atTxPoll i) := .ofJam jam latch
    intro r mem
    rcases List.mem_cons.mp mem with rfl | mem
    · exact clear.startsNoClose inv
    · exact (clear.polled inv).startsNoClose_later (inv.polled i) later unasked r mem

end Jam

/-- In a run every jam cancels the ramp close exactly if no jam meets a CLOSE
that an idle glue has latched. -/
theorem jam_cancels_close_iff (init : InitInput) (inputs : List PollInput) :
    (∀ p ∈ DoorEcu.polls init inputs, p.1.JamCancelsClose p.2) ↔
      ∀ p ∈ DoorEcu.polls init inputs, ¬ p.1.JamMeetsLatchedClose p.2 :=
  Runs.forall_steps_iff RampInv (fun _ i inv => inv.polled i)
    (fun _ i inv => jamCancelsClose_iff inv i) (RampInv.init init) inputs

/-- A door close at 20 ms latches the ramp close; the obstacle seen at 30 ms
reopens the door, and the same poll starts the CLOSE. -/
theorem jam_misses_latched_close :
    let s := DoorEcu.run bench [quietPoll 0, ackPoll 10 0, commandPoll 20 doorCmdClose]
    let i := { quietPoll 30 with obstacle := true }
    s.ctl.status.doorMotion = .closing ∧ (s.report i).jam = true ∧
      (s.report i).tx.startedCmd = some slopeUartReqClose ∧ ¬ s.JamCancelsClose i := by
  refine ⟨?_, ?_, ?_, not_jamCancelsClose ?_ ?_ ?_⟩ <;> decide +kernel

/-! ### Stowing -/

/-- A ramp close is pending, or the ramp counts as stowed and no OPEN is in
flight or latched. -/
def DoorEcu.RampStows (s : DoorEcu) : Prop :=
  s.ctl.slopeTxPending = slopeUartReqClose ∨
    s.ctl.slopeOpenEstimated = false ∧
      (s.slope.sender.waitingAck = true → s.slope.sender.pendingFrame.cmd ≠ slopeUartReqOpen) ∧
      s.slope.desiredCmd ≠ slopeUartReqOpen

/-- The invariant behind it: no open request is left over, and what the glue
holds can only matter while the close is pending. -/
structure Stowing (s : DoorEcu) : Prop where
  noManual : s.ctl.slopeManualOpenPending = false
  noStocked : s.ctl.slopeAutoOpenStocked = false
  pending : s.ctl.slopeTxPending ≠ slopeUartReqOpen
  stows : s.ctl.slopeTxPending = slopeUartReqClose ∨
    s.ctl.slopeOpenEstimated = false ∧ s.slope.desiredCmd ≠ slopeUartReqOpen

section Stow

variable {s : DoorEcu} {i : PollInput}

theorem Stowing.rampStows (stowing : Stowing s) (inv : RampInv s) : s.RampStows := by
  rcases stowing.stows with close | ⟨estimate, latch⟩
  · exact .inl close
  · refine .inr ⟨estimate, ?_, latch⟩
    intro busy
    rw [inv.coherent.busy_frame busy]
    exact latch

/-- Without an open request or a jam the start of a poll keeps it. -/
theorem Stowing.atTxPoll (stowing : Stowing s) (asked : (s.report i).asksRampOpen = false)
    (quiet : (s.report i).jam = false) : Stowing (s.atTxPoll i) := by
  simp only [PollReport.asksRampOpen, Bool.or_eq_false_iff] at asked
  obtain ⟨⟨manual, auto⟩, ble⟩ := asked
  obtain ⟨_, _, _, sensed⟩ := atJam_frame s i
  rw [atTxPoll_quiet quiet]
  constructor
  · simp [sensed, stowing.noManual, manual]
  · simp [sensed, stowing.noStocked, auto, ble]
  · rw [sensed]
    exact stowing.pending
  · rw [atJam_slope, sensed]
    exact stowing.stows

/-- The one case that matters is the acknowledgement of an OPEN that was in
flight: the close is then still pending. -/
theorem Stowing.atPolicy (inv : RampInv s) (stowing : Stowing (s.atTxPoll i)) :
    Stowing (s.atPolicy i) := by
  rcases inv.atPolicy i with ⟨slope, same | ⟨-, emptied, acked⟩⟩
  · have stows := stowing.stows
    rw [atTxPoll_slope] at stows
    refine ⟨same ▸ stowing.noManual, same ▸ stowing.noStocked, same ▸ stowing.pending, ?_⟩
    rw [same, slope]
    rcases stows with close | ⟨estimate, latch⟩
    · exact .inl close
    · refine .inr ⟨estimate, ?_⟩
      rcases (inv.txPoll i).1.latch with kept | none
      · exact kept ▸ latch
      · rw [none]
        exact slopeUartReqNone_ne_open
  · have latch : (s.atPolicy i).slope.desiredCmd ≠ slopeUartReqOpen := by
      rw [slope, emptied]
      exact slopeUartReqNone_ne_open
    have stows := stowing.stows
    rw [atTxPoll_slope] at stows
    rcases slopeUartCmdIsValid_cases inv.coherent.desired_valid with none | toOpen | toClose
    · rw [none, slopeTxSucceeded_none] at acked
      refine ⟨acked ▸ stowing.noManual, acked ▸ stowing.noStocked, acked ▸ stowing.pending, ?_⟩
      rw [acked]
      exact stows.imp_right fun ⟨estimate, _⟩ => ⟨estimate, latch⟩
    · have close : (s.atTxPoll i).ctl.slopeTxPending = slopeUartReqClose := by
        simpa [toOpen] using stows
      rw [toOpen, slopeTxSucceeded_open, if_neg stowing.pending] at acked
      refine ⟨acked ▸ stowing.noManual, acked ▸ stowing.noStocked, acked ▸ stowing.pending, .inl ?_⟩
      rw [acked]
      exact close
    · rw [toClose, slopeTxSucceeded_close] at acked
      have pending : (s.atPolicy i).ctl.slopeTxPending ≠ slopeUartReqOpen := by
        rw [acked]
        dsimp only [doorEcuControlRefreshStatusShadow]
        split
        · exact slopeUartReqNone_ne_open
        · exact stowing.pending
      refine ⟨acked ▸ stowing.noManual, acked ▸ stowing.noStocked, pending, .inr ⟨?_, latch⟩⟩
      rw [acked]
      rfl

/-- With no open request left the policy can only close the ramp. -/
theorem Stowing.runPolicy (stowing : Stowing s) (ticks : UInt64) :
    Stowing (doorEcuControlRunPolicy s ticks).1 := by
  obtain ⟨_, _, _, _, _, opened⟩ := policyDoorOpen_frame s ticks
  cases runPolicy_outcome s ticks with
  | doorClose due state report =>
      rw [state, policyDoorClose_eq]
      exact ⟨rfl, rfl, slopeUartReqOpen_ne_close.symm, .inl rfl⟩
  | slopeClose noDoorClose due state report =>
      rw [state]
      exact ⟨rfl, rfl, slopeUartReqOpen_ne_close.symm, .inl rfl⟩
  | slopeOpen noDoorClose noSlopeClose due state report => simp [stowing.noManual] at due
  | autoOpen noDoorClose noSlopeClose noSlopeOpen due state report =>
      rw [opened] at due
      simp [DoorEcuControlState.autoOpenDue, stowing.noStocked] at due
  | autoClose noDoorClose noSlopeClose noSlopeOpen notDue state report =>
      rcases policyAutoClose_frame (doorEcuControlPolicyDoorOpen s ticks) with
          ⟨_, _, closed, kept | close, -⟩
      · rw [state, closed, kept, opened]
        exact ⟨stowing.noManual, stowing.noStocked, stowing.pending, stowing.stows⟩
      · rw [state, closed, close, opened]
        exact ⟨stowing.noManual, stowing.noStocked, slopeUartReqOpen_ne_close.symm, .inl rfl⟩

/-- A door close establishes it, whatever was pending, stocked or in flight. -/
theorem Stowing.ofDoorClose {ticks : UInt64}
    (closes : (doorEcuControlRunPolicy s ticks).2.doorClose = true) :
    Stowing (doorEcuControlRunPolicy s ticks).1 := by
  cases runPolicy_outcome s ticks with
  | doorClose due state report =>
      rw [state, policyDoorClose_eq]
      exact ⟨rfl, rfl, slopeUartReqOpen_ne_close.symm, .inl rfl⟩
  | slopeClose noDoorClose due state report => simp [report] at closes
  | slopeOpen noDoorClose noSlopeClose due state report => simp [report] at closes
  | autoOpen noDoorClose noSlopeClose noSlopeOpen due state report => simp [report] at closes
  | autoClose noDoorClose noSlopeClose noSlopeOpen notDue state report => simp [report] at closes

theorem Stowing.polled_of_decided (decided : Stowing (s.decided i)) : Stowing (s.polled i) := by
  obtain ⟨_, _, frame⟩ := polled_frame s i
  rw [frame]
  refine ⟨decided.noManual, decided.noStocked, decided.pending, ?_⟩
  rcases issue_cases (s.decided i) with ⟨same, -⟩ | ⟨-, toOpen, -⟩ | ⟨-, toClose, -⟩
  · rw [same]
    exact decided.stows
  · exact absurd toOpen decided.pending
  · exact .inl toClose

/-- An undisturbed poll keeps the ramp stowing. -/
theorem Stowing.polled (inv : RampInv s) (stowing : Stowing s)
    (asked : (s.report i).asksRampOpen = false) (quiet : (s.report i).jam = false) :
    Stowing (s.polled i) := by
  have atPolicy := Stowing.atPolicy inv (stowing.atTxPoll asked quiet)
  exact .polled_of_decided (atPolicy.runPolicy i.policyTicks)

end Stow

/-- Once the policy has closed the door, the ramp stows at the end of that poll
and of every later one, as long as nobody asks for the ramp to open and no jam
is seen. -/
theorem door_close_stows_ramp (init : InitInput) (inputs : List PollInput) (i : PollInput)
    (closes : ((DoorEcu.run init inputs).report i).policy.doorClose = true)
    (later : List PollInput)
    (undisturbed : ∀ r ∈ Runs.outputs doorEcuControlPoll ((DoorEcu.run init inputs).polled i) later,
      r.asksRampOpen = false ∧ r.jam = false) :
    (DoorEcu.run init (inputs ++ i :: later)).RampStows := by
  generalize reached : DoorEcu.run init inputs = s at closes undisturbed
  have inv : RampInv s := reached ▸ rampInv_run init inputs
  rw [report_policy] at closes
  have first : Stowing (s.polled i) := .polled_of_decided (.ofDoorClose closes)
  have whole : DoorEcu.run init (inputs ++ i :: later) =
      Runs.run (Runs.next doorEcuControlPoll) (s.polled i) later := by
    rw [← reached]
    exact Runs.run_append _ _ _ _
  have last := Runs.run_while (fun s => RampInv s ∧ Stowing s)
    (fun r : PollReport => r.asksRampOpen = false ∧ r.jam = false)
    (fun _ i ⟨inv, stowing⟩ ⟨asked, quiet⟩ => ⟨inv.polled i, stowing.polled inv asked quiet⟩)
    ⟨inv.polled i, first⟩ later undisturbed
  rw [whole]
  exact last.2.rampStows last.1

/-- The door closes while an OPEN is in flight; both acknowledgements arrive. -/
theorem door_close_stows_open_in_flight :
    let deploy := driverWithDoorCanPackCommand doorCmdOpen rampCmdDeploy true false false
    (DoorEcu.run bench ([quietPoll 0,
      { commandPoll 10 deploy with slopeRx := (encodeAck 0).bytes.toList }, quietPoll 20,
      quietPoll 1800] ++ commandPoll 1810 doorCmdClose ::
        [ackPoll 1820 1, quietPoll 1830, ackPoll 1840 2])).RampStows :=
  door_close_stows_ramp bench _ _ (by decide +kernel) _ (by decide +kernel)

end SmartBusAccess.Door
