import SmartBusAccess.Door.Actuation
import SmartBusAccess.Door.RampCommand

/-!
Manual ramp requests across polls.

The flags for both directions carry no order, and step 1 of the policy leaves a
STOW pending that came with the door close. `NoRampClose` and `NoRampOpen` are
what a granted request leaves behind: nothing of the other direction, until
someone asks for it.

* `last_manual_ramp_wins_iff`: in which runs the last manual request wins.
  `stale_stow_discards_deploy` is a run where it does not.
-/

namespace SmartBusAccess.Door

open SmartBusAccess.Can SmartBusAccess.Uart

/-! ### The property -/

/-- A CAN ramp request of any kind, or a BLE open, was taken. -/
def PollReport.asksRamp (r : PollReport) : Bool :=
  r.asksRampOpen || r.rampAsked .requestClose .manual || r.rampAsked .requestClose .auto

/-- No door close, no jam and no ramp request. -/
structure PollReport.Undisturbed (r : PollReport) : Prop where
  noDoorClose : r.doorAsked .requestClose = false
  noJam : r.jam = false
  noRamp : r.asksRamp = false

/-- The manual request of a poll, with no other ramp request, door close or jam
in it. -/
structure DoorEcu.AsksAlone (s : DoorEcu) (i : PollInput) (request : DoorEcuRequest) : Prop where
  asked : (s.report i).rampAsked request .manual = true
  noDoorClose : (s.report i).doorAsked .requestClose = false
  noJam : (s.report i).jam = false
  noBle : (s.report i).bleOpen = false

/-- A policy run that clears the flag sets the wanted command, and none sets the
other one. -/
def DoorEcu.Grants (flag : DoorEcuControlState → Bool) (wanted unwanted : UInt8) (s : DoorEcu)
    (i : PollInput) : Prop :=
  (flag (s.atPolicy i).ctl = true → flag (s.decided i).ctl = false →
      (s.decided i).ctl.slopeTxPending = wanted) ∧
    (s.decided i).ctl.slopeTxPending ≠ unwanted

/-- A manual request wins from its own poll on, until it is disturbed. -/
def DoorEcu.RequestWins (request : DoorEcuRequest) (flag : DoorEcuControlState → Bool)
    (wanted unwanted : UInt8) (s : DoorEcu) (i : PollInput) : Prop :=
  s.AsksAlone i request → ∀ later : List PollInput,
    (∀ r ∈ Runs.outputs doorEcuControlPoll (s.polled i) later, r.Undisturbed) →
      ∀ p ∈ Runs.steps (Runs.next doorEcuControlPoll) s (i :: later),
        p.1.Grants flag wanted unwanted p.2

def DoorEcu.DeployWins : DoorEcu → PollInput → Prop :=
  DoorEcu.RequestWins .requestOpen DoorEcuControlState.slopeManualOpenPending
    slopeUartReqOpen slopeUartReqClose

def DoorEcu.StowWins : DoorEcu → PollInput → Prop :=
  DoorEcu.RequestWins .requestClose DoorEcuControlState.slopeManualClosePending
    slopeUartReqClose slopeUartReqOpen

/-- A DEPLOY arrives while an earlier STOW is still pending. -/
def DoorEcu.DeployMeetsStow (s : DoorEcu) (i : PollInput) : Prop :=
  s.ctl.slopeManualClosePending = true ∧ s.AsksAlone i .requestOpen

/-! ### Nothing of the other direction -/

/-- Nothing asks for the ramp to close. -/
structure NoRampClose (c : DoorEcuControlState) : Prop where
  doorClose : c.doorManualClosePending = false
  slopeClose : c.slopeManualClosePending = false
  stocked : c.slopeAutoCloseStocked = false
  pending : c.slopeTxPending ≠ slopeUartReqClose

/-- Nothing asks for it to open. -/
structure NoRampOpen (c : DoorEcuControlState) : Prop where
  slopeOpen : c.slopeManualOpenPending = false
  stocked : c.slopeAutoOpenStocked = false
  pending : c.slopeTxPending ≠ slopeUartReqOpen

section Stages

variable {s : DoorEcu} {i : PollInput}

/-- Between the jam handler and the policy a pending command can only be
acknowledged. -/
theorem atPolicy_frame (s : DoorEcu) (i : PollInput) : ∃ slope estimate pending status,
    s.atPolicy i = { s.atTxPoll i with
      slope := slope
      ctl := { (s.atTxPoll i).ctl with
        slopeOpenEstimated := estimate, slopeTxPending := pending, status := status } } ∧
    (pending = (s.atTxPoll i).ctl.slopeTxPending ∨ pending = slopeUartReqNone) := by
  unfold DoorEcu.atPolicy
  rcases handleSlopeTxSuccess_cases { s.atTxPoll i with slope := (s.txPoll i).1 } with
      ⟨-, same⟩ | ⟨-, acked⟩
  · exact ⟨_, _, _, _, same, .inl rfl⟩
  · obtain ⟨_, _, succeeded, pending⟩ :=
      slopeTxSucceeded_frame (s.atTxPoll i).ctl (s.txPoll i).1.txSuccessCmd
    rw [acked, succeeded]
    exact ⟨_, _, _, _, rfl, pending⟩

theorem NoRampClose.atJam (clear : NoRampClose s.ctl)
    (noDoorClose : (s.report i).doorAsked .requestClose = false)
    (noManual : (s.report i).rampAsked .requestClose .manual = false)
    (noAuto : (s.report i).rampAsked .requestClose .auto = false) :
    NoRampClose (s.atJam i).ctl := by
  obtain ⟨_, _, _, sensed⟩ := atJam_frame s i
  constructor
  · simp [sensed, clear.doorClose, noDoorClose]
  · simp [sensed, clear.slopeClose, noManual]
  · simp [sensed, clear.stocked, noAuto]
  · rw [sensed]
    exact clear.pending

/-- The jam handler establishes it. -/
theorem NoRampClose.ofJam (jam : (s.report i).jam = true) : NoRampClose (s.atTxPoll i).ctl := by
  obtain ⟨_, _, _, cancelled⟩ := atTxPoll_jam jam
  rw [cancelCloseSide_eq] at cancelled
  rw [cancelled]
  refine ⟨rfl, rfl, rfl, ?_⟩
  dsimp only
  split
  · exact slopeUartReqNone_ne_close
  · assumption

theorem NoRampClose.atPolicy (clear : NoRampClose (s.atTxPoll i).ctl) :
    NoRampClose (s.atPolicy i).ctl := by
  rcases atPolicy_frame s i with ⟨_, _, _, _, frame, kept | none⟩
  · rw [frame, kept]
    exact ⟨clear.doorClose, clear.slopeClose, clear.stocked, clear.pending⟩
  · rw [frame, none]
    exact ⟨clear.doorClose, clear.slopeClose, clear.stocked, slopeUartReqNone_ne_close⟩

/-- With nothing to close for, the policy can only ask for an OPEN. -/
theorem NoRampClose.runPolicy (clear : NoRampClose s.ctl) (ticks : UInt64) :
    NoRampClose (doorEcuControlRunPolicy s ticks).1.ctl := by
  obtain ⟨_, _, _, _, _, opened⟩ := policyDoorOpen_frame s ticks
  cases runPolicy_outcome s ticks with
  | doorClose due state report => simp [clear.doorClose] at due
  | slopeClose noDoorClose due state report => simp [clear.slopeClose] at due
  | slopeOpen noDoorClose noSlopeClose due state report =>
      rw [state]
      exact ⟨clear.doorClose, rfl, rfl, slopeUartReqOpen_ne_close⟩
  | autoOpen noDoorClose noSlopeClose noSlopeOpen due state report =>
      rw [state, queueSlopeOpenAuto_eq, opened]
      refine ⟨clear.doorClose, clear.slopeClose, clear.stocked, ?_⟩
      dsimp only
      split
      · exact clear.pending
      · exact slopeUartReqOpen_ne_close
  | autoClose noDoorClose noSlopeClose noSlopeOpen notDue state report =>
      obtain ⟨_, _, closed, -, untouched⟩ :=
        policyAutoClose_frame (doorEcuControlPolicyDoorOpen s ticks)
      obtain ⟨rfl, rfl⟩ := untouched (by rw [opened]; exact clear.stocked)
      rw [state, closed, opened]
      exact ⟨clear.doorClose, clear.slopeClose, rfl, clear.pending⟩

theorem NoRampClose.polled (clear : NoRampClose (s.decided i).ctl) :
    NoRampClose (s.polled i).ctl := by
  obtain ⟨_, _, frame⟩ := polled_frame s i
  rw [frame]
  exact ⟨clear.doorClose, clear.slopeClose, clear.stocked, clear.pending⟩

theorem NoRampOpen.atTxPoll (clear : NoRampOpen s.ctl)
    (asked : (s.report i).asksRampOpen = false) : NoRampOpen (s.atTxPoll i).ctl := by
  simp only [PollReport.asksRampOpen, Bool.or_eq_false_iff] at asked
  obtain ⟨⟨manual, auto⟩, ble⟩ := asked
  obtain ⟨_, _, _, sensed⟩ := atJam_frame s i
  have pending : (s.atTxPoll i).ctl.slopeTxPending ≠ slopeUartReqOpen := by
    rcases atTxPoll_pending s i with same | ⟨-, none⟩
    · exact same ▸ clear.pending
    · rw [none]
      exact slopeUartReqNone_ne_open
  have atJam : (s.atJam i).ctl.slopeManualOpenPending = false ∧
      (s.atJam i).ctl.slopeAutoOpenStocked = false := by
    constructor
    · simp [sensed, clear.slopeOpen, manual]
    · simp [sensed, clear.stocked, auto, ble]
  cases jam : (s.report i).jam with
  | false =>
      rw [atTxPoll_quiet jam] at pending ⊢
      exact ⟨atJam.1, atJam.2, pending⟩
  | true =>
      obtain ⟨_, _, _, cancelled⟩ := atTxPoll_jam jam
      rw [cancelCloseSide_eq] at cancelled
      rw [cancelled] at pending ⊢
      exact ⟨atJam.1, atJam.2, pending⟩

theorem NoRampOpen.atPolicy (clear : NoRampOpen (s.atTxPoll i).ctl) :
    NoRampOpen (s.atPolicy i).ctl := by
  rcases atPolicy_frame s i with ⟨_, _, _, _, frame, kept | none⟩
  · rw [frame, kept]
    exact ⟨clear.slopeOpen, clear.stocked, clear.pending⟩
  · rw [frame, none]
    exact ⟨clear.slopeOpen, clear.stocked, slopeUartReqNone_ne_open⟩

/-- With nothing to open for, the policy can only ask for a CLOSE. -/
theorem NoRampOpen.runPolicy (clear : NoRampOpen s.ctl) (ticks : UInt64) :
    NoRampOpen (doorEcuControlRunPolicy s ticks).1.ctl := by
  obtain ⟨_, _, _, _, _, opened⟩ := policyDoorOpen_frame s ticks
  cases runPolicy_outcome s ticks with
  | doorClose due state report =>
      rw [state, policyDoorClose_eq]
      exact ⟨rfl, rfl, slopeUartReqOpen_ne_close.symm⟩
  | slopeClose noDoorClose due state report =>
      rw [state]
      exact ⟨rfl, rfl, slopeUartReqOpen_ne_close.symm⟩
  | slopeOpen noDoorClose noSlopeClose due state report => simp [clear.slopeOpen] at due
  | autoOpen noDoorClose noSlopeClose noSlopeOpen due state report =>
      rw [opened] at due
      simp [DoorEcuControlState.autoOpenDue, clear.stocked] at due
  | autoClose noDoorClose noSlopeClose noSlopeOpen notDue state report =>
      rcases policyAutoClose_frame (doorEcuControlPolicyDoorOpen s ticks) with
          ⟨_, _, closed, kept | close, -⟩
      · rw [state, closed, kept, opened]
        exact ⟨clear.slopeOpen, clear.stocked, clear.pending⟩
      · rw [state, closed, close, opened]
        exact ⟨clear.slopeOpen, clear.stocked, slopeUartReqOpen_ne_close.symm⟩

theorem NoRampOpen.polled (clear : NoRampOpen (s.decided i).ctl) :
    NoRampOpen (s.polled i).ctl := by
  obtain ⟨_, _, frame⟩ := polled_frame s i
  rw [frame]
  exact ⟨clear.slopeOpen, clear.stocked, clear.pending⟩

end Stages

/-! ### What a manual request leaves behind -/

section Requests

variable {s : DoorEcu} {i : PollInput}

/-- One CAN command asks for one thing. -/
theorem rampAsked_unique {r : PollReport} {q q' : DoorEcuRequest}
    {mode mode' : DoorEcuSlopeControlMode} (asked : r.rampAsked q mode = true)
    (other : q' ≠ q) : r.rampAsked q' mode' = false := by
  unfold PollReport.rampAsked at asked ⊢
  cases command : r.canCmd with
  | none => rfl
  | some cmd =>
      have mapped : doorEcuMapRampCommand cmd.rampCommand = q := by
        simp only [command, Option.any_some, Bool.and_eq_true, decide_eq_true_eq] at asked
        exact asked.1
      simp [mapped, other.symm]

theorem PollReport.Undisturbed.asks {r : PollReport} (calm : r.Undisturbed) :
    r.asksRampOpen = false ∧ r.rampAsked .requestClose .manual = false ∧
      r.rampAsked .requestClose .auto = false := by
  have noRamp := calm.noRamp
  simp only [PollReport.asksRamp, Bool.or_eq_false_iff] at noRamp
  exact ⟨noRamp.1.1, noRamp.1.2, noRamp.2⟩

/-- Until the policy runs, a request flag that a quiet poll raises stays up. -/
theorem atPolicy_flags (noJam : (s.report i).jam = false) :
    (s.atPolicy i).ctl.doorManualClosePending =
        (s.ctl.doorManualClosePending || (s.report i).doorAsked .requestClose) ∧
      (s.atPolicy i).ctl.slopeManualClosePending =
        (s.ctl.slopeManualClosePending || (s.report i).rampAsked .requestClose .manual) ∧
      (s.atPolicy i).ctl.slopeManualOpenPending =
        (s.ctl.slopeManualOpenPending || (s.report i).rampAsked .requestOpen .manual) := by
  obtain ⟨_, _, _, _, frame, -⟩ := atPolicy_frame s i
  obtain ⟨_, _, _, sensed⟩ := atJam_frame s i
  rw [frame, atTxPoll_quiet noJam, sensed]
  exact ⟨rfl, rfl, rfl⟩

/-- Step 3 is reached when nothing closes. -/
theorem runPolicy_slopeOpen (ticks : UInt64) (noDoorClose : s.ctl.doorManualClosePending = false)
    (noSlopeClose : s.ctl.slopeManualClosePending = false)
    (asked : s.ctl.slopeManualOpenPending = true) :
    (doorEcuControlRunPolicy s ticks).1 = { s with ctl := doorEcuControlPolicySlopeOpen s.ctl } := by
  simp [doorEcuControlRunPolicy, noDoorClose, noSlopeClose, asked]

/-- Step 2 is reached when the door does not close. -/
theorem runPolicy_slopeClose (ticks : UInt64) (noDoorClose : s.ctl.doorManualClosePending = false)
    (asked : s.ctl.slopeManualClosePending = true) :
    (doorEcuControlRunPolicy s ticks).1 =
      { s with ctl := doorEcuControlPolicySlopeClose s.ctl } := by
  simp [doorEcuControlRunPolicy, noDoorClose, asked]

theorem NoRampClose.grants (clear : NoRampClose (s.atPolicy i).ctl) :
    s.Grants DoorEcuControlState.slopeManualOpenPending slopeUartReqOpen slopeUartReqClose i := by
  refine ⟨?_, (clear.runPolicy i.policyTicks).pending⟩
  intro asked _
  unfold DoorEcu.decided
  rw [runPolicy_slopeOpen i.policyTicks clear.doorClose clear.slopeClose asked]
  rfl

theorem NoRampOpen.grants (clear : NoRampOpen (s.atPolicy i).ctl)
    (noDoorClose : (s.atPolicy i).ctl.doorManualClosePending = false) :
    s.Grants DoorEcuControlState.slopeManualClosePending slopeUartReqClose slopeUartReqOpen i := by
  refine ⟨?_, (clear.runPolicy i.policyTicks).pending⟩
  intro asked _
  unfold DoorEcu.decided
  rw [runPolicy_slopeClose i.policyTicks noDoorClose asked]
  rfl

/-- Undisturbed polls go on granting an OPEN. -/
theorem NoRampClose.grants_later (clear : NoRampClose s.ctl) (later : List PollInput)
    (calm : ∀ r ∈ Runs.outputs doorEcuControlPoll s later, r.Undisturbed) :
    ∀ p ∈ Runs.steps (Runs.next doorEcuControlPoll) s later,
      p.1.Grants DoorEcuControlState.slopeManualOpenPending slopeUartReqOpen slopeUartReqClose
        p.2 := by
  have atPolicy (s : DoorEcu) (i : PollInput) (clear : NoRampClose s.ctl)
      (calm : (s.report i).Undisturbed) : NoRampClose (s.atPolicy i).ctl := by
    obtain ⟨-, noManual, noAuto⟩ := calm.asks
    apply NoRampClose.atPolicy
    rw [atTxPoll_quiet calm.noJam]
    exact clear.atJam calm.noDoorClose noManual noAuto
  refine Runs.steps_while (fun s : DoorEcu => NoRampClose s.ctl) PollReport.Undisturbed
    (DoorEcu.Grants DoorEcuControlState.slopeManualOpenPending slopeUartReqOpen slopeUartReqClose)
    ?_ ?_ clear later calm
  · intro s i clear calm
    exact .polled ((atPolicy s i clear calm).runPolicy i.policyTicks)
  · intro s i clear calm
    exact (atPolicy s i clear calm).grants

/-- Undisturbed polls go on granting a CLOSE. -/
theorem NoRampOpen.grants_later (clear : NoRampOpen s.ctl)
    (noDoorClose : s.ctl.doorManualClosePending = false) (later : List PollInput)
    (calm : ∀ r ∈ Runs.outputs doorEcuControlPoll s later, r.Undisturbed) :
    ∀ p ∈ Runs.steps (Runs.next doorEcuControlPoll) s later,
      p.1.Grants DoorEcuControlState.slopeManualClosePending slopeUartReqClose slopeUartReqOpen
        p.2 := by
  have atPolicy (s : DoorEcu) (i : PollInput) (clear : NoRampOpen s.ctl)
      (calm : (s.report i).Undisturbed) : NoRampOpen (s.atPolicy i).ctl :=
    (clear.atTxPoll calm.asks.1).atPolicy
  refine Runs.steps_while
    (fun s : DoorEcu => NoRampOpen s.ctl ∧ s.ctl.doorManualClosePending = false)
    PollReport.Undisturbed
    (DoorEcu.Grants DoorEcuControlState.slopeManualClosePending slopeUartReqClose slopeUartReqOpen)
    ?_ ?_ ⟨clear, noDoorClose⟩ later calm
  · rintro s i ⟨clear, -⟩ calm
    exact ⟨.polled ((atPolicy s i clear calm).runPolicy i.policyTicks), polled_closePending s i⟩
  · rintro s i ⟨clear, noDoorClose⟩ calm
    refine (atPolicy s i clear calm).grants ?_
    rw [(atPolicy_flags calm.noJam).1, noDoorClose, calm.noDoorClose]
    rfl

/-! ### The last request -/

/-- A DEPLOY wins unless an earlier STOW is still pending when it arrives: step 2
then discards it. -/
theorem deployWins_iff (noDoorClose : s.ctl.doorManualClosePending = false) (i : PollInput) :
    s.DeployWins i ↔ ¬ s.DeployMeetsStow i := by
  constructor
  · rintro wins ⟨stow, alone⟩
    have first := wins alone [] (by simp [Runs.outputs]) (s, i) List.mem_cons_self
    obtain ⟨doorClose, slopeClose, -⟩ := atPolicy_flags alone.noJam
    rw [noDoorClose, alone.noDoorClose] at doorClose
    rw [stow] at slopeClose
    apply first.2
    unfold DoorEcu.decided
    rw [runPolicy_slopeClose i.policyTicks doorClose slopeClose]
    rfl
  · intro clean alone later calm
    have noStow : s.ctl.slopeManualClosePending = false := by
      rw [← Bool.not_eq_true]
      intro stow
      exact clean ⟨stow, alone⟩
    obtain ⟨doorClose, slopeClose, slopeOpen⟩ := atPolicy_flags alone.noJam
    rw [noDoorClose, alone.noDoorClose] at doorClose
    rw [noStow, rampAsked_unique alone.asked (by decide)] at slopeClose
    rw [alone.asked, Bool.or_true] at slopeOpen
    have granted : (s.decided i).ctl = doorEcuControlPolicySlopeOpen (s.atPolicy i).ctl := by
      unfold DoorEcu.decided
      rw [runPolicy_slopeOpen i.policyTicks doorClose slopeClose slopeOpen]
    have clear : NoRampClose (s.decided i).ctl := by
      rw [granted]
      exact ⟨doorClose, rfl, rfl, slopeUartReqOpen_ne_close⟩
    intro p mem
    rcases List.mem_cons.mp mem with rfl | inLater
    · exact ⟨fun _ _ => by rw [granted]; rfl, clear.pending⟩
    · exact clear.polled.grants_later later calm p inLater

/-- A STOW always wins. -/
theorem stowWins (noDoorClose : s.ctl.doorManualClosePending = false) (i : PollInput) :
    s.StowWins i := by
  intro alone later calm
  obtain ⟨doorClose, slopeClose, -⟩ := atPolicy_flags alone.noJam
  rw [noDoorClose, alone.noDoorClose] at doorClose
  rw [alone.asked, Bool.or_true] at slopeClose
  have granted : (s.decided i).ctl = doorEcuControlPolicySlopeClose (s.atPolicy i).ctl := by
    unfold DoorEcu.decided
    rw [runPolicy_slopeClose i.policyTicks doorClose slopeClose]
  have clear : NoRampOpen (s.decided i).ctl := by
    rw [granted]
    exact ⟨rfl, rfl, slopeUartReqOpen_ne_close.symm⟩
  intro p mem
  rcases List.mem_cons.mp mem with rfl | inLater
  · exact ⟨fun _ _ => by rw [granted]; rfl, clear.pending⟩
  · exact clear.polled.grants_later (polled_closePending s i) later calm p inLater

end Requests

/-- In a run the last manual ramp request always wins exactly if no DEPLOY
arrives while an earlier STOW is still pending. -/
theorem last_manual_ramp_wins_iff (init : InitInput) (inputs : List PollInput) :
    (∀ p ∈ DoorEcu.polls init inputs, p.1.DeployWins p.2 ∧ p.1.StowWins p.2) ↔
      ∀ p ∈ DoorEcu.polls init inputs, ¬ p.1.DeployMeetsStow p.2 := by
  have each (s : DoorEcu) (i : PollInput) (noDoorClose : s.ctl.doorManualClosePending = false) :
      s.DeployWins i ∧ s.StowWins i ↔ ¬ s.DeployMeetsStow i := by
    rw [deployWins_iff noDoorClose, and_iff_left (stowWins noDoorClose i)]
  have preserves (s : DoorEcu) (i : PollInput) (_ : s.ctl.doorManualClosePending = false) :
      (Runs.next doorEcuControlPoll s i).ctl.doorManualClosePending = false :=
    polled_closePending s i
  exact Runs.forall_steps_iff _ preserves each rfl inputs

/-- A STOW comes with a door close at 10 ms; the DEPLOY of 20 ms is discarded by
the STOW, which step 1 has left pending. -/
theorem stale_stow_discards_deploy :
    let stow := driverWithDoorCanPackCommand doorCmdClose rampCmdStow true false false
    let deploy := driverWithDoorCanPackCommand doorCmdNop rampCmdDeploy true false false
    let s := DoorEcu.run bench [quietPoll 0, commandPoll 10 stow]
    let i := commandPoll 20 deploy
    (s.atPolicy i).ctl.slopeManualOpenPending = true ∧
      (s.decided i).ctl.slopeManualOpenPending = false ∧
      (s.decided i).ctl.slopeTxPending = slopeUartReqClose ∧ ¬ s.DeployWins i := by
  refine ⟨?_, ?_, ?_, fun wins => ?_⟩
  · decide +kernel
  · decide +kernel
  · decide +kernel
  · refine (deployWins_iff ?_ _).mp wins ⟨?_, ?_, ?_, ?_, ?_⟩ <;> decide +kernel

end SmartBusAccess.Door
