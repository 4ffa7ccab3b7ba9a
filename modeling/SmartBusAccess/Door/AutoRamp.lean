import SmartBusAccess.Door.Interlock
import SmartBusAccess.Door.RampSafety

/-!
What becomes of a stocked automatic ramp request when the policy takes it off
the stock (steps 5 and 6).

The queue functions decide from the acknowledged estimate. Step 6 also looks at
the pending command and at the sender, and its request always takes effect:
while the door is closing, a ramp open that is still in flight is always
answered by a pending close (`ClosingRamp`). Step 5 looks at the estimate alone.

* `auto_ramp_effective_iff`: in which runs every request taken takes effect.
  `auto_open_dropped` is a run where an open does not.
-/

namespace SmartBusAccess.Door

open SmartBusAccess.Can SmartBusAccess.Uart SlopeUartTc375

/-! ### Taking effect -/

/-- A DATA frame carrying OPEN is awaiting its ACK. -/
def DoorEcu.openAwaiting (s : DoorEcu) : Bool :=
  s.slope.sender.waitingAck && s.slope.sender.pendingFrame.cmd == slopeUartReqOpen

/-- The ramp is told to open, or counts as open with no close on its way. -/
def DoorEcu.RampOpens (s : DoorEcu) : Prop :=
  s.ctl.slopeTxPending = slopeUartReqOpen ∨
    s.ctl.slopeOpenEstimated = true ∧ s.ctl.slopeTxPending ≠ slopeUartReqClose ∧
      s.closeAwaiting = false

/-- The ramp is told to close, or counts as stowed with no open on its way. -/
def DoorEcu.RampCloses (s : DoorEcu) : Prop :=
  s.ctl.slopeTxPending = slopeUartReqClose ∨
    s.ctl.slopeOpenEstimated = false ∧ s.ctl.slopeTxPending ≠ slopeUartReqOpen ∧
      s.openAwaiting = false

/-- A stocked request that steps 5 and 6 consume takes effect. -/
def DoorEcu.AutoTakesEffect (s : DoorEcu) (i : PollInput) : Prop :=
  ((s.atPolicy i).ctl.NoManualRamp → (s.atPolicy i).ctl.slopeAutoOpenStocked = true →
      (s.decided i).ctl.slopeAutoOpenStocked = false → (s.decided i).RampOpens) ∧
    ((s.atPolicy i).ctl.NoManualRamp → (s.atPolicy i).ctl.slopeAutoCloseStocked = true →
      (s.decided i).ctl.slopeAutoCloseStocked = false → (s.decided i).RampCloses)

/-- Step 5 is about to release an open for a ramp that counts as open although a
close is pending, or in flight with no open pending. -/
structure DoorEcu.ReleasesAgainstClose (s : DoorEcu) (i : PollInput) : Prop where
  noManualRamp : (s.atPolicy i).ctl.NoManualRamp
  stocked : (s.atPolicy i).ctl.slopeAutoOpenStocked = true
  doorOpens : (s.atPolicy i).ctl.doorManualOpenPending = true ∨
    (s.atPolicy i).ctl.status.doorOpened = true ∨
    (s.atPolicy i).ctl.status.doorMotion = .opening ∨ (s.atPolicy i).ctl.status.doorMotion = .opened
  estimated : (s.atPolicy i).ctl.slopeOpenEstimated = true
  close : (s.atPolicy i).ctl.slopeTxPending = slopeUartReqClose ∨
    (s.atPolicy i).ctl.slopeTxPending ≠ slopeUartReqOpen ∧ (s.atPolicy i).closeAwaiting = true

/-! ### A closing door -/

/-- While the door is closing a latched OPEN is answered by a pending command. -/
def ClosingRamp (s : DoorEcu) : Prop :=
  ∃ p, Tracks p s.doorView ∧ (p = .moving .closed →
    s.ctl.slopeTxPending = slopeUartReqNone → s.slope.desiredCmd ≠ slopeUartReqOpen)

section Closing

variable {s : DoorEcu} {i : PollInput}

theorem closingRamp_init (init : InitInput) : ClosingRamp (doorEcuControlInit init) :=
  ⟨_, tracks_init init, nofun⟩

/-- The jam handler and an acknowledgement leave nothing latched that is not
pending, unless the jam handler has just turned the door round. -/
theorem desired_atPolicy (inv : RampInv s) {p : DoorPhase}
    (answered : p = .moving .closed →
      s.ctl.slopeTxPending = slopeUartReqNone → s.slope.desiredCmd ≠ slopeUartReqOpen)
    (closing : (if (s.report i).jam then .moving .opened else p.elapse (s.travelExpired i)) =
      DoorPhase.moving .closed)
    (none : (s.atPolicy i).ctl.slopeTxPending = slopeUartReqNone) :
    (s.atPolicy i).slope.desiredCmd ≠ slopeUartReqOpen := by
  cases jam : (s.report i).jam with
  | true => simp [jam] at closing
  | false =>
      have wasClosing : p = .moving .closed := by
        cases p with
        | settled side => simp [jam, DoorPhase.elapse] at closing
        | moving side =>
            cases expired : s.travelExpired i with
            | true => simp [jam, DoorPhase.elapse, expired] at closing
            | false => simpa [jam, DoorPhase.elapse, expired] using closing
      rcases inv.atPolicy i with ⟨slope, same | ⟨-, emptied, -⟩⟩
      · obtain ⟨_, _, _, sensed⟩ := atJam_frame s i
        have before : s.ctl.slopeTxPending = slopeUartReqNone := by
          rw [same, atTxPoll_quiet jam, sensed] at none
          exact none
        rw [slope]
        rcases (inv.txPoll i).1.latch with kept | forgotten
        · exact kept ▸ answered wasClosing before
        · rw [forgotten]
          exact slopeUartReqNone_ne_open
      · rw [slope, emptied]
        exact slopeUartReqNone_ne_open

/-- The policy never takes a pending command back. -/
theorem runPolicy_pending_none {ticks : UInt64}
    (none : (doorEcuControlRunPolicy s ticks).1.ctl.slopeTxPending = slopeUartReqNone) :
    s.ctl.slopeTxPending = slopeUartReqNone ∧
      (doorEcuControlRunPolicy s ticks).2.doorClose = false := by
  obtain ⟨_, _, _, _, _, opened⟩ := policyDoorOpen_frame s ticks
  cases runPolicy_outcome s ticks with
  | doorClose due state report =>
      rw [state, policyDoorClose_eq] at none
      exact absurd none slopeUartReqNone_ne_close.symm
  | slopeClose noDoorClose due state report =>
      rw [state] at none
      exact absurd none slopeUartReqNone_ne_close.symm
  | slopeOpen noDoorClose noSlopeClose due state report =>
      rw [state] at none
      exact absurd none slopeUartReqNone_ne_open.symm
  | autoOpen noDoorClose noSlopeClose noSlopeOpen due state report =>
      rw [state, queueSlopeOpenAuto_eq, opened] at none
      dsimp only at none
      split at none
      · exact ⟨none, by rw [report]⟩
      · exact absurd none slopeUartReqNone_ne_open.symm
  | autoClose noDoorClose noSlopeClose noSlopeOpen notDue state report =>
      rcases policyAutoClose_frame (doorEcuControlPolicyDoorOpen s ticks) with
          ⟨_, _, closed, kept | close, -⟩
      · rw [state, closed, kept, opened] at none
        exact ⟨none, by rw [report]⟩
      · rw [state, closed, close] at none
        exact absurd none slopeUartReqNone_ne_close.symm

theorem ClosingRamp.polled (closing : ClosingRamp s) (inv : RampInv s) (i : PollInput) :
    ClosingRamp (s.polled i) := by
  obtain ⟨p, tracks, answered⟩ := closing
  refine ⟨_, (shown_polled tracks).toTracks, ?_⟩
  intro nowClosing none
  obtain ⟨_, _, frame⟩ := polled_frame s i
  rw [frame] at none ⊢
  have decidedNone : (s.decided i).ctl.slopeTxPending = slopeUartReqNone := none
  obtain ⟨atPolicyNone, noDoorClose⟩ := runPolicy_pending_none decidedNone
  have atPolicyClosing : (if (s.report i).jam then .moving .opened
      else p.elapse (s.travelExpired i)) = DoorPhase.moving .closed := by
    rw [← report_policy] at noDoorClose
    unfold DoorPhase.poll at nowClosing
    rw [noDoorClose] at nowClosing
    cases opens : (s.report i).policy.doorOpen with
    | true => simp [opens] at nowClosing
    | false => simpa [opens] using nowClosing
  have latched := desired_atPolicy inv answered atPolicyClosing atPolicyNone
  rw [← runPolicy_slope (s.atPolicy i) i.policyTicks] at latched
  rcases issue_cases (s.decided i) with ⟨same, -⟩ | ⟨-, toOpen, -⟩ | ⟨-, toClose, -⟩
  · rw [same]
    exact latched
  · exact absurd (decidedNone.symm.trans toOpen) slopeUartReqNone_ne_open
  · exact absurd (decidedNone.symm.trans toClose) slopeUartReqNone_ne_close

end Closing

/-! ### Step 6 -/

section Consumption

variable {s : DoorEcu} {i : PollInput}

/-- Step 6 drops a stocked close for a ramp with nothing to close, or releases
it while the door is closing. -/
theorem policyAutoClose_consumes (stocked : s.ctl.slopeAutoCloseStocked = true)
    (consumed : (doorEcuControlPolicyAutoClose s).1.ctl.slopeAutoCloseStocked = false) :
    (s.ctl.slopeOpenEstimated = false ∧ s.ctl.slopeTxPending ≠ slopeUartReqOpen ∧
        s.slope.sender.waitingAck = false ∧ (doorEcuControlPolicyAutoClose s).1 =
          { s with ctl := { s.ctl with slopeAutoCloseStocked := false } }) ∨
    (s.ctl.status.doorMotion = .closing ∧ (doorEcuControlPolicyAutoClose s).1 = { s with
      ctl := doorEcuControlQueueSlopeCloseAuto { s.ctl with slopeAutoCloseStocked := false } }) := by
  unfold doorEcuControlPolicyAutoClose at consumed ⊢
  rw [if_pos stocked] at consumed ⊢
  dsimp only at consumed ⊢
  split
  · rename_i nothing
    simp only [Bool.not_eq_true', Bool.or_eq_false_iff, beq_eq_false_iff_ne] at nothing
    exact .inl ⟨nothing.1.1, nothing.1.2, nothing.2, rfl⟩
  · rename_i something
    rw [if_neg something] at consumed
    split
    · rename_i closing
      exact .inr ⟨by simpa [doorEcuControlDoorIsClosing] using closing, rfl⟩
    · rename_i notClosing
      rw [if_neg notClosing, stocked] at consumed
      cases consumed

theorem queueSlopeCloseAuto_eq (c : DoorEcuControlState) : doorEcuControlQueueSlopeCloseAuto c =
    { c with
      slopeTxPending := if c.slopeOpenEstimated || c.slopeTxPending == slopeUartReqOpen then
        slopeUartReqClose else c.slopeTxPending } := by
  unfold doorEcuControlQueueSlopeCloseAuto
  split <;> rfl

/-- What step 6 consumes takes effect, if an OPEN in flight under a closing door
is always answered. -/
theorem rampCloses_policyAutoClose (valid : slopeUartCmdIsValid s.ctl.slopeTxPending = true)
    (coherent : s.slope.Coherent)
    (answered : s.ctl.status.doorMotion = .closing → s.ctl.slopeTxPending = slopeUartReqNone →
      s.slope.desiredCmd ≠ slopeUartReqOpen)
    (stocked : s.ctl.slopeAutoCloseStocked = true)
    (consumed : (doorEcuControlPolicyAutoClose s).1.ctl.slopeAutoCloseStocked = false) :
    (doorEcuControlPolicyAutoClose s).1.RampCloses := by
  rcases policyAutoClose_consumes stocked consumed with
      ⟨estimate, notOpen, idle, dropped⟩ | ⟨closing, released⟩
  · rw [dropped]
    exact .inr ⟨estimate, notOpen, by simp [DoorEcu.openAwaiting, idle]⟩
  · rw [released, queueSlopeCloseAuto_eq]
    unfold DoorEcu.RampCloses DoorEcu.openAwaiting
    dsimp only
    split
    · exact .inl rfl
    · rename_i untold
      obtain ⟨estimate, notOpen⟩ : s.ctl.slopeOpenEstimated = false ∧
          s.ctl.slopeTxPending ≠ slopeUartReqOpen := by
        simpa using untold
      rcases slopeUartCmdIsValid_cases valid with none | toOpen | toClose
      · refine .inr ⟨estimate, notOpen, ?_⟩
        cases busy : s.slope.sender.waitingAck with
        | false => rfl
        | true =>
            have frame := coherent.busy_frame busy
            simpa [frame] using answered closing none
      · exact absurd toOpen notOpen
      · exact .inl toClose

/-! ### Steps 5 and 6 within the policy -/

/-- A stocked close is consumed to some effect. -/
theorem rampCloses_decided (closing : ClosingRamp s) (inv : RampInv s)
    (clear : (s.atPolicy i).ctl.NoManualRamp)
    (stocked : (s.atPolicy i).ctl.slopeAutoCloseStocked = true)
    (consumed : (s.decided i).ctl.slopeAutoCloseStocked = false) : (s.decided i).RampCloses := by
  obtain ⟨p, tracks, answered⟩ := closing
  have shown := shown_atPolicy (i := i) tracks
  unfold DoorEcu.decided at consumed ⊢
  have opened := policyDoorOpen_shown shown i.policyTicks
  obtain ⟨_, _, _, _, _, frame⟩ := policyDoorOpen_frame (s.atPolicy i) i.policyTicks
  cases runPolicy_outcome (s.atPolicy i) i.policyTicks with
  | doorClose due state report => simp [clear.noDoorClose] at due
  | slopeClose noDoorClose due state report => simp [clear.noSlopeClose] at due
  | slopeOpen noDoorClose noSlopeClose due state report => simp [clear.noSlopeOpen] at due
  | autoOpen noDoorClose noSlopeClose noSlopeOpen due state report =>
      rw [state, queueSlopeOpenAuto_eq, frame] at consumed
      exact absurd (stocked.symm.trans consumed) Bool.noConfusion
  | autoClose noDoorClose noSlopeClose noSlopeOpen notDue state report =>
      rw [state] at consumed ⊢
      refine rampCloses_policyAutoClose ?_ ?_ ?_ ?_ consumed
      · rw [frame]
        exact inv.atPolicy_pending i
      · rw [frame]
        exact (inv.atPolicy_slope i).1
      · intro motion none
        have phase : (doorEcuControlPolicyDoorOpen (s.atPolicy i) i.policyTicks).ctl.status.doorMotion
            = _ := opened.motion
        rw [motion] at phase
        rw [frame] at none ⊢
        refine desired_atPolicy inv answered ?_ none
        cases manual : (s.atPolicy i).ctl.doorManualOpenPending with
        | true => simp [manual, DoorPhase.motion] at phase
        | false =>
            simp only [manual, Bool.false_eq_true, if_false] at phase
            generalize (if (s.report i).jam then DoorPhase.moving .opened
              else p.elapse (s.travelExpired i)) = q at phase
            cases q with
            | settled side => cases side <;> cases phase
            | moving side => cases side <;> first | rfl | cases phase
      · rw [frame]
        exact stocked

/-- A stocked open is consumed to some effect, except when the ramp counts as
open although a close is on its way. -/
theorem rampOpens_decided_iff (clear : (s.atPolicy i).ctl.NoManualRamp)
    (stocked : (s.atPolicy i).ctl.slopeAutoOpenStocked = true) :
    ((s.decided i).ctl.slopeAutoOpenStocked = false → (s.decided i).RampOpens) ↔
      ¬ s.ReleasesAgainstClose i := by
  obtain ⟨_, _, _, _, _, frame⟩ := policyDoorOpen_frame (s.atPolicy i) i.policyTicks
  have due := autoOpenDue_policyDoorOpen (s.atPolicy i) i.policyTicks
  unfold DoorEcu.decided
  cases runPolicy_outcome (s.atPolicy i) i.policyTicks with
  | doorClose due state report => simp [clear.noDoorClose] at due
  | slopeClose noDoorClose due state report => simp [clear.noSlopeClose] at due
  | slopeOpen noDoorClose noSlopeClose due state report => simp [clear.noSlopeOpen] at due
  | autoOpen noDoorClose noSlopeClose noSlopeOpen releases state report =>
      obtain ⟨-, doorOpens⟩ := due.mp releases
      rw [state, queueSlopeOpenAuto_eq, frame]
      unfold DoorEcu.RampOpens DoorEcu.closeAwaiting
      dsimp only
      cases estimated : (s.atPolicy i).ctl.slopeOpenEstimated with
      | false =>
          constructor
          · intro _ against
            exact absurd (estimated.symm.trans against.estimated) Bool.noConfusion
          · exact fun _ _ => .inl rfl
      | true =>
          constructor
          · intro opens against
            rcases opens rfl with toOpen | ⟨-, notClose, notAwaiting⟩
            · rcases against.close with close | ⟨notOpen, -⟩
              · exact slopeUartReqOpen_ne_close (toOpen.symm.trans close)
              · exact notOpen toOpen
            · rcases against.close with close | ⟨-, awaiting⟩
              · exact notClose close
              · exact absurd (awaiting.symm.trans notAwaiting) Bool.noConfusion
          · intro clean _
            by_cases toOpen : (s.atPolicy i).ctl.slopeTxPending = slopeUartReqOpen
            · exact .inl toOpen
            · refine .inr ⟨rfl, ?_, ?_⟩
              · intro close
                exact clean ⟨clear, stocked, doorOpens, estimated, .inl close⟩
              · rw [← Bool.not_eq_true]
                intro awaiting
                exact clean ⟨clear, stocked, doorOpens, estimated, .inr ⟨toOpen, awaiting⟩⟩
  | autoClose noDoorClose noSlopeClose noSlopeOpen notDue state report =>
      obtain ⟨_, _, closed, -⟩ :=
        policyAutoClose_frame (doorEcuControlPolicyDoorOpen (s.atPolicy i) i.policyTicks)
      constructor
      · intro _ against
        exact absurd (due.mpr ⟨against.stocked, against.doorOpens⟩) (by simp [notDue])
      · intro _ consumed
        rw [state, closed, frame] at consumed
        exact absurd (stocked.symm.trans consumed) Bool.noConfusion

theorem autoTakesEffect_iff (closing : ClosingRamp s) (inv : RampInv s) (i : PollInput) :
    s.AutoTakesEffect i ↔ ¬ s.ReleasesAgainstClose i := by
  constructor
  · rintro ⟨opens, -⟩ against
    exact (rampOpens_decided_iff against.noManualRamp against.stocked).mp
      (opens against.noManualRamp against.stocked) against
  · intro clean
    refine ⟨fun clear stocked => (rampOpens_decided_iff clear stocked).mpr clean, ?_⟩
    intro clear stocked consumed
    exact rampCloses_decided closing inv clear stocked consumed

end Consumption

/-! ### Over whole runs -/

/-- In a run every automatic ramp request that the policy consumes takes effect
exactly if none to open is released while the ramp counts as open and a close is
on its way. -/
theorem auto_ramp_effective_iff (init : InitInput) (inputs : List PollInput) :
    (∀ p ∈ DoorEcu.polls init inputs, p.1.AutoTakesEffect p.2) ↔
      ∀ p ∈ DoorEcu.polls init inputs, ¬ p.1.ReleasesAgainstClose p.2 :=
  Runs.forall_steps_iff (fun s => ClosingRamp s ∧ RampInv s)
    (fun _ i ⟨closing, inv⟩ => ⟨closing.polled inv i, inv.polled i⟩)
    (fun _ i ⟨closing, inv⟩ => autoTakesEffect_iff closing inv i)
    ⟨closingRamp_init init, RampInv.init init⟩ inputs

/-- The door is opening and the ramp deployed. At 40 ms the driver stows the
ramp; at 50 ms an automatic open is released, and the CLOSE in flight goes on. -/
theorem auto_open_dropped :
    let deploy := driverWithDoorCanPackCommand doorCmdOpen rampCmdDeploy true false false
    let stow := driverWithDoorCanPackCommand doorCmdNop rampCmdStow true false false
    let auto := driverWithDoorCanPackCommand doorCmdNop rampCmdDeploy false false false
    let s := DoorEcu.run bench [quietPoll 0, ackPoll 5 0, commandPoll 10 deploy, quietPoll 20,
      ackPoll 30 1, commandPoll 40 stow]
    let i := commandPoll 50 auto
    (s.report i).policy.autoOpenReleased = true ∧
      (s.decided i).ctl.slopeTxPending = slopeUartReqClose ∧ (s.decided i).closeAwaiting = true ∧
      ¬ s.AutoTakesEffect i := by
  refine ⟨?_, ?_, ?_, fun effective => ?_⟩
  · decide +kernel
  · decide +kernel
  · decide +kernel
  · rcases effective.1 ⟨by decide +kernel, by decide +kernel, by decide +kernel⟩ (by decide +kernel)
        (by decide +kernel) with
        toOpen | ⟨-, notClose, -⟩
    · revert toOpen
      decide +kernel
    · revert notClose
      decide +kernel

end SmartBusAccess.Door
