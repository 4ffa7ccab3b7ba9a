import SmartBusAccess.Door.Actuation

/-!
The interlock between the door and an automatic ramp open (step 5 of the policy).

Step 5 looks at the `door_opened` shadow as well as at the motion, and the shadow
stays set until a closing door has arrived.

* `released_iff`: when the policy releases a stocked automatic open.
* `auto_open_interlocked_iff`: in which runs every release finds the door open or
  opening. `auto_open_released_while_closing` is a run where one does not.
-/

namespace SmartBusAccess.Door

open SmartBusAccess.Can SmartBusAccess.Uart

/-! ### The release -/

/-- No request of higher priority than step 4 is pending. -/
structure DoorEcuControlState.NoManualRamp (c : DoorEcuControlState) : Prop where
  noDoorClose : c.doorManualClosePending = false
  noSlopeClose : c.slopeManualClosePending = false
  noSlopeOpen : c.slopeManualOpenPending = false

section Release

variable {s : DoorEcu} {i : PollInput} {p : DoorPhase}

theorem autoOpenDue_policyDoorOpen (s : DoorEcu) (ticks : UInt64) :
    (doorEcuControlPolicyDoorOpen s ticks).ctl.autoOpenDue s.ctl.doorManualOpenPending = true ↔
      s.ctl.slopeAutoOpenStocked = true ∧ (s.ctl.doorManualOpenPending = true ∨
        s.ctl.status.doorOpened = true ∨ s.ctl.status.doorMotion = .opening ∨
        s.ctl.status.doorMotion = .opened) := by
  unfold doorEcuControlPolicyDoorOpen DoorEcuControlState.autoOpenDue
    doorEcuControlDoorIsOpenedOrOpening
  cases s.ctl.doorManualOpenPending <;> simp [or_assoc]

/-- The policy releases a stocked automatic open if no manual request goes
before it and the door counts as open. -/
theorem released_iff (s : DoorEcu) (ticks : UInt64) :
    (doorEcuControlRunPolicy s ticks).2.autoOpenReleased = true ↔
      s.ctl.NoManualRamp ∧ s.ctl.slopeAutoOpenStocked = true ∧
        (s.ctl.doorManualOpenPending = true ∨ s.ctl.status.doorOpened = true ∨
          s.ctl.status.doorMotion = .opening ∨ s.ctl.status.doorMotion = .opened) := by
  rw [← autoOpenDue_policyDoorOpen s ticks]
  cases runPolicy_outcome s ticks with
  | doorClose due state report =>
      simp only [report, Bool.false_eq_true, false_iff]
      intro h
      exact absurd h.1.noDoorClose (by simp [due])
  | slopeClose noDoorClose due state report =>
      simp only [report, Bool.false_eq_true, false_iff]
      intro h
      exact absurd h.1.noSlopeClose (by simp [due])
  | slopeOpen noDoorClose noSlopeClose due state report =>
      simp only [report, Bool.false_eq_true, false_iff]
      intro h
      exact absurd h.1.noSlopeOpen (by simp [due])
  | autoOpen noDoorClose noSlopeClose noSlopeOpen due state report =>
      simp only [report, true_iff]
      exact ⟨⟨noDoorClose, noSlopeClose, noSlopeOpen⟩, due⟩
  | autoClose noDoorClose noSlopeClose noSlopeOpen notDue state report =>
      simp [report, notDue]

/-- A release happens together with a door open if one is pending. -/
theorem released_doorOpen (s : DoorEcu) (ticks : UInt64)
    (released : (doorEcuControlRunPolicy s ticks).2.autoOpenReleased = true) :
    (doorEcuControlRunPolicy s ticks).2.doorOpen = s.ctl.doorManualOpenPending := by
  cases runPolicy_outcome s ticks with
  | doorClose due state report => simp [report] at released
  | slopeClose noDoorClose due state report => simp [report] at released
  | slopeOpen noDoorClose noSlopeClose due state report => simp [report] at released
  | autoOpen noDoorClose noSlopeClose noSlopeOpen due state report => rw [report]
  | autoClose noDoorClose noSlopeClose noSlopeOpen notDue state report => simp [report] at released

/-- It leaves out the first step of the policy. -/
theorem released_noDoorClose (s : DoorEcu) (ticks : UInt64)
    (released : (doorEcuControlRunPolicy s ticks).2.autoOpenReleased = true) :
    (doorEcuControlRunPolicy s ticks).2.doorClose = false := by
  rw [(runPolicy_closes s ticks).1]
  exact ((released_iff s ticks).mp released).1.1

/-! ### The shadow of the door -/

/-- When the policy runs the shadow is the estimate. -/
theorem atPolicy_doorOpened (s : DoorEcu) (i : PollInput) :
    (s.atPolicy i).ctl.status.doorOpened = (s.atPolicy i).ctl.doorOpenEstimated := by
  have atJam : (s.atJam i).ctl.status.doorOpened = (s.atJam i).ctl.doorOpenEstimated := rfl
  have atTxPoll : (s.atTxPoll i).ctl.status.doorOpened = (s.atTxPoll i).ctl.doorOpenEstimated := by
    unfold DoorEcu.atTxPoll
    cases jam : (s.atJam i).ctl.jamFires with
    | true =>
        rw [handleJam_fires jam, cancelCloseSide_eq]
        exact atJam
    | false =>
        rw [handleJam_quiet jam]
        exact atJam
  obtain ⟨_, _, _, _, frame, -, opened⟩ :=
    handleSlopeTxSuccess_frame { s.atTxPoll i with slope := (s.txPoll i).1 }
  unfold DoorEcu.atPolicy
  rw [frame]
  exact opened.trans atTxPoll

/-- A door that is neither open nor opening, but whose shadow is set, is closing. -/
theorem closing_of_doorOpened (shown : Shown p (s.atPolicy i).doorView)
    (opened : (s.atPolicy i).ctl.status.doorOpened = true)
    (notOpening : (s.atPolicy i).ctl.status.doorMotion ≠ .opening)
    (notOpened : (s.atPolicy i).ctl.status.doorMotion ≠ .opened) :
    (s.atPolicy i).ctl.status.doorMotion = .closing := by
  have motion : (s.atPolicy i).ctl.status.doorMotion = p.motion := shown.motion
  rw [atPolicy_doorOpened] at opened
  rw [motion] at notOpening notOpened ⊢
  cases p with
  | settled side =>
      cases side with
      | opened => exact absurd rfl notOpened
      | closed =>
          have closed : (s.atPolicy i).ctl.doorOpenEstimated = _ := shown.estimate .closed rfl
          simp [closed] at opened
  | moving side =>
      cases side with
      | opened => exact absurd rfl notOpening
      | closed => rfl

end Release

/-! ### The interlock -/

/-- If the policy releases a stocked automatic open, the door is open or
opening, or the same poll sets it in motion to open. -/
def DoorEcu.AutoOpenInterlocked (s : DoorEcu) (i : PollInput) : Prop :=
  (s.report i).policy.autoOpenReleased = true →
    (s.atPolicy i).ctl.status.doorMotion = .opened ∨
      (s.atPolicy i).ctl.status.doorMotion = .opening ∨ (s.polled i).MovesTo .opened

instance (s : DoorEcu) (i : PollInput) : Decidable (s.AutoOpenInterlocked i) := by
  unfold DoorEcu.AutoOpenInterlocked; infer_instance

/-- The policy finds a stocked automatic open, no manual request, and a door that
is closing with its shadow still set. -/
structure DoorEcu.ShadowedClosing (s : DoorEcu) (i : PollInput) : Prop where
  closing : (s.atPolicy i).ctl.status.doorMotion = .closing
  doorOpened : (s.atPolicy i).ctl.status.doorOpened = true
  stocked : (s.atPolicy i).ctl.slopeAutoOpenStocked = true
  noManualRamp : (s.atPolicy i).ctl.NoManualRamp
  noDoorOpen : (s.atPolicy i).ctl.doorManualOpenPending = false

/-- After a release the door is on its way open if the policy drove it or it was before. -/
theorem released_movesTo {s : DoorEcu} {p : DoorPhase} (tracks : Tracks p s.doorView)
    {i : PollInput}
    (released : (doorEcuControlRunPolicy (s.atPolicy i) i.policyTicks).2.autoOpenReleased = true) :
    (s.polled i).MovesTo .opened ↔ (s.atPolicy i).ctl.doorManualOpenPending = true ∨
      (s.atPolicy i).ctl.status.doorMotion = .opening := by
  have before := shown_atPolicy (i := i) tracks
  have after := shown_polled (i := i) tracks
  have noClose : (s.report i).policy.doorClose = false := by
    rw [report_policy, released_noDoorClose _ _ released]
  have opens : (s.report i).policy.doorOpen = (s.atPolicy i).ctl.doorManualOpenPending := by
    rw [report_policy, released_doorOpen _ _ released]
  unfold DoorPhase.poll at after
  rw [noClose, opens] at after
  have motion : (s.atPolicy i).ctl.status.doorMotion = _ := before.motion
  rw [after.movesTo_opened_iff, motion]
  cases (s.atPolicy i).ctl.doorManualOpenPending with
  | true => simp [DoorPhase.motion]
  | false => simp

theorem autoOpenInterlocked_iff {s : DoorEcu} {p : DoorPhase} (tracks : Tracks p s.doorView)
    (i : PollInput) : s.AutoOpenInterlocked i ↔ ¬ s.ShadowedClosing i := by
  unfold DoorEcu.AutoOpenInterlocked
  rw [report_policy]
  constructor
  · intro interlocked shadowed
    have released := (released_iff (s.atPolicy i) i.policyTicks).mpr
      ⟨shadowed.noManualRamp, shadowed.stocked, .inr (.inl shadowed.doorOpened)⟩
    have found := interlocked released
    rw [released_movesTo tracks released, shadowed.closing, shadowed.noDoorOpen] at found
    simp at found
  · intro clear released
    obtain ⟨noManualRamp, stocked, counts⟩ :=
      (released_iff (s.atPolicy i) i.policyTicks).mp released
    rw [released_movesTo tracks released]
    by_contra elsewhere
    obtain ⟨notOpened, notOpening, noDoorOpen, -⟩ := by simpa only [not_or] using elsewhere
    have opened : (s.atPolicy i).ctl.status.doorOpened = true := by
      simpa [notOpened, notOpening, noDoorOpen] using counts
    exact clear ⟨closing_of_doorOpened (shown_atPolicy tracks) opened notOpening notOpened, opened,
      stocked, noManualRamp, by simpa using noDoorOpen⟩

/-- In a run every release of an automatic open finds the door open or opening
exactly if the policy never finds one stocked while the door is closing with its
shadow still set. -/
theorem auto_open_interlocked_iff (init : InitInput) (inputs : List PollInput) :
    (∀ p ∈ DoorEcu.polls init inputs, p.1.AutoOpenInterlocked p.2) ↔
      ∀ p ∈ DoorEcu.polls init inputs, ¬ p.1.ShadowedClosing p.2 :=
  Runs.forall_steps_iff (fun s : DoorEcu => ∃ p, Tracks p s.doorView)
    (fun _ _ ⟨_, tracks⟩ => ⟨_, (shown_polled tracks).toTracks⟩)
    (fun _ i ⟨_, tracks⟩ => autoOpenInterlocked_iff tracks i) ⟨_, tracks_init init⟩ inputs

/-- The door opens, is told to close 1.8 s later, and an automatic ramp open
arrives 50 ms into the closing: it is released and replaces the ramp close. -/
theorem auto_open_released_while_closing :
    let s := DoorEcu.run bench
      [quietPoll 0, commandPoll 10 doorCmdOpen, quietPoll 1800, commandPoll 1850 doorCmdClose]
    let i := commandPoll 1900 (driverWithDoorCanPackCommand doorCmdNop rampCmdDeploy false false false)
    s.ctl.status.doorMotion = .closing ∧ s.ctl.slopeTxPending = slopeUartReqClose ∧
      ¬ s.AutoOpenInterlocked i ∧ (s.polled i).ctl.status.doorMotion = .closing ∧
      (s.polled i).ctl.slopeTxPending = slopeUartReqOpen := by
  decide +kernel

end SmartBusAccess.Door
