import SmartBusAccess.Door.Actuation

/-!
How soon the supervisor answers the driver's manual requests.

A poll serves one kind of them: a door close, a ramp close, a ramp open or a door open, the first
of these that is pending. What it leaves waiting is a ramp close behind a door close, or a door
open behind a ramp request (`served_few`), so the next poll without a command serves it.

`manual_requests_answered`: every manual request is carried out, overruled or waits, and for no
longer than that. A door request is carried out when the poll leaves the door on its way there.
-/

namespace SmartBusAccess.Door

open SmartBusAccess.Can SmartBusAccess.Uart

/-! ### Manual requests -/

structure ManualRequests where
  doorOpen : Bool
  doorClose : Bool
  rampOpen : Bool
  rampClose : Bool
deriving DecidableEq, Repr

def DoorEcuControlState.manual (c : DoorEcuControlState) : ManualRequests :=
  ⟨c.doorManualOpenPending, c.doorManualClosePending, c.slopeManualOpenPending,
    c.slopeManualClosePending⟩

namespace ManualRequests

def none : ManualRequests := ⟨false, false, false, false⟩

/-- What the policy leaves of them. -/
def served (m : ManualRequests) : ManualRequests :=
  if m.doorClose then { none with rampClose := m.rampClose }
  else if m.rampClose || m.rampOpen then { none with doorOpen := m.doorOpen }
  else none

/-- What a jam leaves of them. -/
def jammed (m : ManualRequests) (jam : Bool) : ManualRequests :=
  { m with doorClose := m.doorClose && !jam, rampClose := m.rampClose && !jam }

/-- Nothing but a ramp close waits, or nothing but a door open. -/
def Few (m : ManualRequests) : Prop :=
  m.doorClose = false ∧ m.rampOpen = false ∧ (m.doorOpen = false ∨ m.rampClose = false)

theorem served_few (m : ManualRequests) : m.served.Few := by
  unfold served
  split
  · exact ⟨rfl, rfl, .inl rfl⟩
  · split
    · exact ⟨rfl, rfl, .inr rfl⟩
    · exact ⟨rfl, rfl, .inl rfl⟩

theorem jammed_few {m : ManualRequests} (few : m.Few) (jam : Bool) : (m.jammed jam).Few := by
  obtain ⟨noDoorClose, noRampOpen, one⟩ := few
  refine ⟨?_, noRampOpen, one.imp id fun noRampClose => ?_⟩
  · simp [jammed, noDoorClose]
  · simp [jammed, noRampClose]

/-- One poll is enough for the few. -/
theorem served_of_few {m : ManualRequests} (few : m.Few) : m.served = none := by
  obtain ⟨noDoorClose, noRampOpen, one⟩ := few
  unfold served
  rcases one with noDoorOpen | noRampClose
  · simp [noDoorClose, noDoorOpen, none]
  · simp [noDoorClose, noRampOpen, noRampClose]

end ManualRequests

/-! ### A poll -/

theorem runPolicy_manual (s : DoorEcu) (ticks : UInt64) :
    (doorEcuControlRunPolicy s ticks).1.ctl.manual = s.ctl.manual.served := by
  have opened : (doorEcuControlPolicyDoorOpen s ticks).ctl.manual =
      { s.ctl.manual with doorOpen := false } := by
    unfold doorEcuControlPolicyDoorOpen
    cases pending : s.ctl.doorManualOpenPending with
    | true => rfl
    | false => simp [DoorEcuControlState.manual, pending]
  cases runPolicy_outcome s ticks with
  | doorClose due state report =>
      rw [state, policyDoorClose_eq]
      simp [DoorEcuControlState.manual, ManualRequests.served, ManualRequests.none, due]
  | slopeClose noDoorClose due state report =>
      rw [state]
      simp [DoorEcuControlState.manual, ManualRequests.served, ManualRequests.none, noDoorClose,
        due, doorEcuControlPolicySlopeClose, doorEcuControlQueueSlopeCloseForced]
  | slopeOpen noDoorClose noSlopeClose due state report =>
      rw [state]
      simp [DoorEcuControlState.manual, ManualRequests.served, ManualRequests.none, noDoorClose,
        noSlopeClose, due, doorEcuControlPolicySlopeOpen, doorEcuControlQueueSlopeOpenManual]
  | autoOpen noDoorClose noSlopeClose noSlopeOpen due state report =>
      rw [state, queueSlopeOpenAuto_eq]
      refine Eq.trans (b := (doorEcuControlPolicyDoorOpen s ticks).ctl.manual) rfl ?_
      rw [opened]
      simp [DoorEcuControlState.manual, ManualRequests.served, ManualRequests.none, noDoorClose,
        noSlopeClose, noSlopeOpen]
  | autoClose noDoorClose noSlopeClose noSlopeOpen notDue state report =>
      obtain ⟨stocked, pending, frame, -⟩ :=
        policyAutoClose_frame (doorEcuControlPolicyDoorOpen s ticks)
      rw [state, frame]
      refine Eq.trans (b := (doorEcuControlPolicyDoorOpen s ticks).ctl.manual) rfl ?_
      rw [opened]
      simp [DoorEcuControlState.manual, ManualRequests.served, ManualRequests.none, noDoorClose,
        noSlopeClose, noSlopeOpen]

section Poll

variable (s : DoorEcu) (i : PollInput)

theorem atPolicy_manual :
    (s.atPolicy i).ctl.manual = (s.requested i).ctl.manual.jammed (s.report i).jam := by
  obtain ⟨_, _, _, acked⟩ := updateSensors_frame (s.requested i) i.obstacle i.estimateTicks
  have sensed : (s.atJam i).ctl.manual = (s.requested i).ctl.manual := by
    rw [DoorEcu.atJam, acked]
    rfl
  have polled : (s.atPolicy i).ctl.manual = (s.atTxPoll i).ctl.manual := by
    obtain ⟨_, _, _, _, frame, -⟩ :=
      handleSlopeTxSuccess_frame { s.atTxPoll i with slope := (s.txPoll i).1 }
    rw [DoorEcu.atPolicy, frame]
    rfl
  rw [polled, report_jam, ← sensed, DoorEcu.atTxPoll]
  cases jam : (s.atJam i).ctl.jamFires with
  | true =>
      rw [handleJam_fires jam, cancelCloseSide_eq]
      simp [DoorEcuControlState.manual, ManualRequests.jammed]
  | false =>
      rw [handleJam_quiet jam]
      simp [DoorEcuControlState.manual, ManualRequests.jammed]

/-- What a poll leaves waiting. -/
theorem polled_manual : (s.polled i).ctl.manual =
    ((s.requested i).ctl.manual.jammed (s.report i).jam).served := by
  obtain ⟨_, _, frame⟩ := polled_frame s i
  rw [frame, ← atPolicy_manual, ← runPolicy_manual _ i.policyTicks]
  rfl

theorem polled_slopeTxPending :
    (s.polled i).ctl.slopeTxPending = (s.decided i).ctl.slopeTxPending := by
  obtain ⟨_, _, frame⟩ := polled_frame s i
  rw [frame]
  rfl

end Poll

/-! ### Answers -/

/-- What becomes of the manual requests of a poll, old and new. -/
structure ManualAnswered (s : DoorEcu) (i : PollInput) : Prop where
  few : (s.polled i).ctl.manual.Few
  prompt : (s.report i).canCmd = none → (s.polled i).ctl.manual = .none
  doorClose : (s.requested i).ctl.manual.doorClose = true →
    (s.report i).policy.doorClose = true ∧ (s.polled i).MovesTo .closed ∨
      (s.report i).jam = true ∧ (s.polled i).MovesTo .opened
  doorOpen : (s.requested i).ctl.manual.doorOpen = true →
    (s.report i).policy.doorOpen = true ∧ (s.polled i).MovesTo .opened ∨
      (s.report i).policy.doorClose = true ∧ (s.polled i).MovesTo .closed ∨
      ((s.polled i).ctl.manual.doorOpen = true ∧
        ((s.requested i).ctl.manual.rampOpen = true ∨ (s.requested i).ctl.manual.rampClose = true))
  rampClose : (s.requested i).ctl.manual.rampClose = true →
    (s.polled i).ctl.slopeTxPending = slopeUartReqClose ∨ (s.report i).jam = true
  rampOpen : (s.requested i).ctl.manual.rampOpen = true →
    (s.polled i).ctl.slopeTxPending = slopeUartReqOpen ∨
      ((s.polled i).ctl.slopeTxPending = slopeUartReqClose ∧
        ((s.report i).policy.doorClose = true ∨ (s.requested i).ctl.manual.rampClose = true))

/-- What the policy does about the requests it finds. -/
structure PolicyAnswers (s : DoorEcu) (s' : DoorEcu) (r : PolicyReport) : Prop where
  doorClose : s.ctl.manual.doorClose = true → r.doorClose = true
  doorOpen : s.ctl.manual.doorOpen = true → r.doorOpen = true ∨ r.doorClose = true ∨
    (s'.ctl.manual.doorOpen = true ∧
      (s.ctl.manual.rampOpen = true ∨ s.ctl.manual.rampClose = true))
  rampClose : s.ctl.manual.rampClose = true → s'.ctl.slopeTxPending = slopeUartReqClose
  rampOpen : s.ctl.manual.rampOpen = true → s'.ctl.slopeTxPending = slopeUartReqOpen ∨
    (s'.ctl.slopeTxPending = slopeUartReqClose ∧
      (r.doorClose = true ∨ s.ctl.manual.rampClose = true))

/-- With no manual request before it, a pending door open is carried out. -/
theorem lastAnswers {s s' : DoorEcu} {r : PolicyReport}
    (noDoorClose : s.ctl.manual.doorClose = false) (noRampClose : s.ctl.manual.rampClose = false)
    (noRampOpen : s.ctl.manual.rampOpen = false) (opens : r.doorOpen = s.ctl.manual.doorOpen) :
    PolicyAnswers s s' r where
  doorClose pending := by simp [noDoorClose] at pending
  doorOpen pending := .inl (opens.trans pending)
  rampClose pending := by simp [noRampClose] at pending
  rampOpen pending := by simp [noRampOpen] at pending

theorem runPolicy_answers (s : DoorEcu) (ticks : UInt64) :
    PolicyAnswers s (doorEcuControlRunPolicy s ticks).1 (doorEcuControlRunPolicy s ticks).2 := by
  have left := runPolicy_manual s ticks
  cases runPolicy_outcome s ticks with
  | doorClose due state report =>
      have closes : (doorEcuControlRunPolicy s ticks).1.ctl.slopeTxPending =
          slopeUartReqClose := by rw [state, policyDoorClose_eq]
      have closed : (doorEcuControlRunPolicy s ticks).2.doorClose = true := by rw [report]
      exact ⟨fun _ => closed, fun _ => .inr (.inl closed), fun _ => closes,
        fun _ => .inr ⟨closes, .inl closed⟩⟩
  | slopeClose noDoorClose due state report =>
      have closes : (doorEcuControlRunPolicy s ticks).1.ctl.slopeTxPending =
          slopeUartReqClose := by rw [state]; rfl
      have ramp : s.ctl.manual.rampClose = true := due
      refine ⟨fun doorClose => ?_, fun doorOpen => .inr (.inr ⟨?_, .inr ramp⟩), fun _ => closes,
        fun _ => .inr ⟨closes, .inr ramp⟩⟩
      · have none : s.ctl.manual.doorClose = false := noDoorClose
        simp [none] at doorClose
      · have none : s.ctl.manual.doorClose = false := noDoorClose
        rw [left]
        simp [ManualRequests.served, none, ramp, doorOpen]
  | slopeOpen noDoorClose noSlopeClose due state report =>
      have opens : (doorEcuControlRunPolicy s ticks).1.ctl.slopeTxPending =
          slopeUartReqOpen := by rw [state]; rfl
      have ramp : s.ctl.manual.rampOpen = true := due
      refine ⟨fun doorClose => ?_, fun doorOpen => .inr (.inr ⟨?_, .inl ramp⟩),
        fun rampClose => ?_, fun _ => .inl opens⟩
      · have none : s.ctl.manual.doorClose = false := noDoorClose
        simp [none] at doorClose
      · have none : s.ctl.manual.doorClose = false := noDoorClose
        rw [left]
        simp [ManualRequests.served, none, ramp, doorOpen]
      · have none : s.ctl.manual.rampClose = false := noSlopeClose
        simp [none] at rampClose
  | autoOpen noDoorClose noSlopeClose noSlopeOpen due state report =>
      have opens : (doorEcuControlRunPolicy s ticks).2.doorOpen = s.ctl.manual.doorOpen := by
        rw [report]
        rfl
      exact lastAnswers noDoorClose noSlopeClose noSlopeOpen opens
  | autoClose noDoorClose noSlopeClose noSlopeOpen notDue state report =>
      have opens : (doorEcuControlRunPolicy s ticks).2.doorOpen = s.ctl.manual.doorOpen := by
        rw [report]
        rfl
      exact lastAnswers noDoorClose noSlopeClose noSlopeOpen opens

section Runs

variable {s : DoorEcu} {i : PollInput} {p : DoorPhase}

/-- Without a command the requests of a poll are the old ones. -/
theorem requested_manual (none : (s.report i).canCmd = none) :
    (s.requested i).ctl.manual = s.ctl.manual := by
  obtain ⟨_, _, taken⟩ := requested_eq s i
  rw [taken]
  simp [DoorEcuControlState.manual, DoorEcuControlState.withRequests, PollReport.doorAsked,
    PollReport.rampAsked, none]

/-- A policy that opens the door has not closed it. -/
theorem runPolicy_opensOnly (s : DoorEcu) (ticks : UInt64)
    (opens : (doorEcuControlRunPolicy s ticks).2.doorOpen = true) :
    (doorEcuControlRunPolicy s ticks).2.doorClose = false := by
  cases runPolicy_outcome s ticks with
  | doorClose due state report => simp [report] at opens
  | slopeClose noDoorClose due state report => simp [report]
  | slopeOpen noDoorClose noSlopeClose due state report => simp [report]
  | autoOpen noDoorClose noSlopeClose noSlopeOpen due state report => simp [report]
  | autoClose noDoorClose noSlopeClose noSlopeOpen notDue state report => simp [report]

/-- A jam leaves the door on its way open. -/
theorem jam_opens (tracks : Tracks p s.doorView) (jam : (s.report i).jam = true) :
    (s.polled i).MovesTo .opened := by
  have obstacle : i.obstacle = true := by
    have fires := jam
    rw [report_jam, DoorEcuControlState.jamFires, Bool.and_eq_true] at fires
    exact (atJam_jamDetected s i).symm.trans fires.1
  exact polled_opening tracks (obstacle_phase tracks obstacle).1 (.inl jam)

theorem poll_answers (tracks : Tracks p s.doorView) (few : s.ctl.manual.Few) :
    ManualAnswered s i := by
  have left := polled_manual s i
  have answers := runPolicy_answers (s.atPolicy i) i.policyTicks
  have manual := atPolicy_manual s i
  have ramp := polled_slopeTxPending s i
  constructor
  · rw [left]
    exact ManualRequests.served_few _
  · intro none
    rw [left, requested_manual none]
    exact ManualRequests.served_of_few (ManualRequests.jammed_few few _)
  · intro pending
    cases jam : (s.report i).jam with
    | true => exact .inr ⟨rfl, jam_opens tracks jam⟩
    | false =>
        have closes : (s.report i).policy.doorClose = true := by
          refine answers.doorClose ?_
          rw [manual, jam]
          simp [ManualRequests.jammed, pending]
        exact .inl ⟨closes, polled_closing tracks closes⟩
  · intro pending
    have same : (s.atPolicy i).ctl.manual.doorOpen = true := by
      rw [manual]
      exact pending
    rcases answers.doorOpen same with opened | closed | ⟨waits, behind⟩
    · have only := runPolicy_opensOnly (s.atPolicy i) i.policyTicks opened
      exact .inl ⟨opened, polled_opening tracks only (.inr opened)⟩
    · exact .inr (.inl ⟨closed, polled_closing tracks closed⟩)
    · refine .inr (.inr ⟨?_, ?_⟩)
      · rw [left, ← manual, ← runPolicy_manual _ i.policyTicks]
        exact waits
      · rw [manual] at behind
        refine behind.imp id fun rampClose => ?_
        simp only [ManualRequests.jammed, Bool.and_eq_true] at rampClose
        exact rampClose.1
  · intro pending
    cases jam : (s.report i).jam with
    | true => exact .inr rfl
    | false =>
        refine .inl (ramp.trans (answers.rampClose ?_))
        rw [manual, jam]
        simp [ManualRequests.jammed, pending]
  · intro pending
    have same : (s.atPolicy i).ctl.manual.rampOpen = true := by
      rw [manual]
      exact pending
    rcases answers.rampOpen same with opens | ⟨closes, why⟩
    · exact .inl (ramp.trans opens)
    · refine .inr ⟨ramp.trans closes, why.imp id fun rampClose => ?_⟩
      rw [manual] at rampClose
      simp only [ManualRequests.jammed, Bool.and_eq_true] at rampClose
      exact rampClose.1

/-- In every poll of every run each manual request of the driver is carried out, overruled by one
that goes before it or by a jam, or waits; no more than one of them waits, a ramp close or a door
open, and none after a poll that brings no command. The door is then on its way to the side that
was asked for, or to the one that overruled it. -/
theorem manual_requests_answered (init : InitInput) (inputs : List PollInput) :
    ∀ p ∈ DoorEcu.polls init inputs, ManualAnswered p.1 p.2 := by
  have kept : ∀ p ∈ DoorEcu.polls init inputs,
      (∃ phase, Tracks phase p.1.doorView) ∧ p.1.ctl.manual.Few :=
    Runs.steps_invariant (fun s : DoorEcu => (∃ phase, Tracks phase s.doorView) ∧ s.ctl.manual.Few)
      (fun _ i ⟨⟨_, tracks⟩, now⟩ => ⟨⟨_, (shown_polled (i := i) tracks).toTracks⟩,
        (poll_answers tracks now).few⟩)
      ⟨⟨_, tracks_init init⟩, rfl, rfl, .inl rfl⟩ inputs
  intro p mem
  obtain ⟨⟨phase, tracks⟩, few⟩ := kept p mem
  exact poll_answers tracks few

/-- A first poll that brings a door open and a ramp deploy. -/
theorem manual_requests_answered_first :
    (doorEcuControlInit bench, commandPoll 10 0x15) ∈
        DoorEcu.polls bench [commandPoll 10 0x15] ∧
      ManualAnswered (doorEcuControlInit bench) (commandPoll 10 0x15) :=
  ⟨.head _, manual_requests_answered bench [commandPoll 10 0x15] _ (.head _)⟩

end Runs

end SmartBusAccess.Door
