import SmartBusAccess.Door.Poll

/-!
The door itself: where it is told to go, and what the supervisor believes.

`DoorPhase` is the door as the poll drives it: settled on a side or moving
towards one. Servo target, last actuation, estimate and reported motion are four
variables of the source; `shown_polled` proves that after every poll all four are
functions of one phase, and that the phase changes only as the report says.

* `actuator_agreement`: servo, motion and requests agree after every poll, and an
  obstacle keeps the door from closing.
* `opens_on_command_iff`: in which runs the door opens only on request or when an
  obstacle stops a closing door. `jam_opens_closed_door` is the exception.
-/

namespace SmartBusAccess.Door

open SmartBusAccess.Can SmartBusAccess.Uart

/-! ### Phases -/

inductive DoorSide where
  | opened
  | closed
deriving DecidableEq, Repr

def DoorSide.duty : DoorSide → ℕ
  | .opened => doorOpenDuty
  | .closed => doorCloseDuty

def DoorSide.request : DoorSide → DoorEcuRequest
  | .opened => .requestOpen
  | .closed => .requestClose

inductive DoorPhase where
  | settled (side : DoorSide)
  | moving (side : DoorSide)
deriving DecidableEq, Repr

namespace DoorPhase

/-- The side the door is on or moves to. -/
def side : DoorPhase → DoorSide
  | settled side => side
  | moving side => side

def motion : DoorPhase → DoorEcuDoorMotion
  | settled .opened => .opened
  | settled .closed => .closed
  | moving .opened => .opening
  | moving .closed => .closing

def actuation : DoorPhase → DoorEcuRequest
  | settled _ => .requestNone
  | moving side => side.request

/-- The assumed travel time may be over. -/
def elapse (expired : Bool) : DoorPhase → DoorPhase
  | settled side => settled side
  | moving side => if expired then settled side else moving side

/-- One poll, as its report describes it: the timer, the jam handler, the policy. -/
def poll (p : DoorPhase) (expired : Bool) (r : PollReport) : DoorPhase :=
  let p := p.elapse expired
  let p := if r.jam then moving .opened else p
  if r.policy.doorClose then moving .closed
  else if r.policy.doorOpen then moving .opened
  else p

end DoorPhase

/-! ### The supervisor's view of the door -/

structure DoorView where
  targetDuty : ℕ
  actuation : DoorEcuRequest
  openEstimated : Bool
  motion : DoorEcuDoorMotion

def DoorEcu.doorView (s : DoorEcu) : DoorView :=
  ⟨s.servo.targetDuty, s.ctl.lastDoorActuation, s.ctl.doorOpenEstimated, s.ctl.status.doorMotion⟩

/-- A phase explains the servo target, the last actuation and, once settled, the estimate. -/
structure Tracks (p : DoorPhase) (view : DoorView) : Prop where
  duty : view.targetDuty = p.side.duty
  actuation : view.actuation = p.actuation
  estimate : ∀ side, p = .settled side → view.openEstimated = decide (side = .opened)

/-- It explains the reported motion as well. -/
structure Shown (p : DoorPhase) (view : DoorView) : Prop extends Tracks p view where
  motion : view.motion = p.motion

/-- What `UpdateDoorEstimate` makes of it. -/
def DoorView.sense (expired : Bool) (v : DoorView) : DoorView :=
  match v.actuation with
  | .requestOpen =>
      if expired then ⟨v.targetDuty, .requestNone, true, .opened⟩ else { v with motion := .opening }
  | .requestClose =>
      if expired then ⟨v.targetDuty, .requestNone, false, .closed⟩
      else { v with motion := .closing }
  | .requestNone => { v with motion := if v.openEstimated then .opened else .closed }

/-- The assumed travel time is over when the sensors are read. -/
def DoorEcu.travelExpired (s : DoorEcu) (i : PollInput) : Bool :=
  !decide (doorEcuGetNowMs s.stmFreqHz i.estimateTicks - s.ctl.doorMotionStartMs <
    doorMoveAssumedTimeMs)

section Phases

variable {s : DoorEcu} {i : PollInput} {p : DoorPhase}

theorem shown_opening (s : DoorEcu) (ticks : UInt64) :
    Shown (.moving .opened) (doorEcuControlApplyDoorOpen s ticks).doorView := by
  constructor
  · constructor <;> simp [DoorEcu.doorView, DoorPhase.side, DoorSide.duty, DoorPhase.actuation,
      DoorSide.request]
  · rfl

theorem shown_closing (s : DoorEcu) (ticks : UInt64) :
    Shown (.moving .closed) (doorEcuControlApplyDoorClose s ticks).doorView := by
  constructor
  · constructor <;> simp [DoorEcu.doorView, DoorPhase.side, DoorSide.duty, DoorPhase.actuation,
      DoorSide.request]
  · rfl

/-- The sensors read the estimate off the last actuation and the time since. -/
theorem atJam_doorView (s : DoorEcu) (i : PollInput) :
    (s.atJam i).doorView = s.doorView.sense (s.travelExpired i) := by
  obtain ⟨ble, can, requested⟩ := requested_eq s i
  unfold DoorEcu.atJam doorEcuControlUpdateSensors doorEcuControlUpdateDoorEstimate
  rw [requested]
  unfold DoorView.sense DoorEcu.travelExpired DoorEcu.doorView
  simp only [DoorEcuControlState.withRequests_doorMotionStartMs,
    DoorEcuControlState.withRequests_lastDoorActuation,
    DoorEcuControlState.withRequests_doorOpenEstimated]
  by_cases early : doorEcuGetNowMs s.stmFreqHz i.estimateTicks - s.ctl.doorMotionStartMs <
      doorMoveAssumedTimeMs
  · cases s.ctl.lastDoorActuation <;> simp [early]
  · cases s.ctl.lastDoorActuation <;> simp [early]

/-- So they show the phase the door is in by then. -/
theorem Tracks.sense {v : DoorView} (tracks : Tracks p v) (expired : Bool) :
    Shown (p.elapse expired) (v.sense expired) := by
  obtain ⟨targetDuty, lastActuation, openEstimated, motion⟩ := v
  obtain ⟨duty, actuation, estimate⟩ := tracks
  simp only at duty actuation estimate
  subst duty actuation
  cases p with
  | settled side =>
      obtain rfl := estimate side rfl
      cases side <;> exact ⟨⟨rfl, rfl, by rintro _ ⟨⟩; rfl⟩, rfl⟩
  | moving side =>
      cases expired with
      | true => cases side <;> exact ⟨⟨rfl, rfl, by rintro _ ⟨⟩; rfl⟩, rfl⟩
      | false => cases side <;> exact ⟨⟨rfl, rfl, nofun⟩, rfl⟩

theorem shown_atTxPoll (shown : Shown p (s.atJam i).doorView) :
    Shown (if (s.report i).jam then .moving .opened else p) (s.atTxPoll i).doorView := by
  rw [report_jam]
  unfold DoorEcu.atTxPoll
  cases jam : (s.atJam i).ctl.jamFires with
  | true =>
      rw [handleJam_fires jam]
      exact shown_opening _ _
  | false =>
      rw [handleJam_quiet jam]
      exact shown

theorem atPolicy_doorView (s : DoorEcu) (i : PollInput) :
    (s.atPolicy i).doorView = (s.atTxPoll i).doorView := by
  obtain ⟨_, _, _, _, frame, motion, -⟩ :=
    handleSlopeTxSuccess_frame { s.atTxPoll i with slope := (s.txPoll i).1 }
  unfold DoorEcu.atPolicy
  rw [frame]
  simp [DoorEcu.doorView, motion]

theorem policyDoorOpen_shown (shown : Shown p s.doorView) (ticks : UInt64) :
    Shown (if s.ctl.doorManualOpenPending then .moving .opened else p)
      (doorEcuControlPolicyDoorOpen s ticks).doorView := by
  unfold doorEcuControlPolicyDoorOpen
  split
  · exact { shown_opening s ticks with }
  · exact shown

theorem policyAutoClose_doorView (s : DoorEcu) :
    (doorEcuControlPolicyAutoClose s).1.doorView = s.doorView := by
  obtain ⟨_, _, closed, -⟩ := policyAutoClose_frame s
  rw [closed]
  rfl

theorem shown_runPolicy (shown : Shown p s.doorView) (ticks : UInt64) :
    let r := (doorEcuControlRunPolicy s ticks).2
    Shown (if r.doorClose then .moving .closed else if r.doorOpen then .moving .opened else p)
      (doorEcuControlRunPolicy s ticks).1.doorView := by
  have opened := policyDoorOpen_shown shown ticks
  intro r
  cases runPolicy_outcome s ticks with
  | doorClose due state report =>
      rw [state, show r = _ from report, policyDoorClose_eq]
      exact { shown_closing s ticks with }
  | slopeClose noDoorClose due state report =>
      rw [state, show r = _ from report]
      exact shown
  | slopeOpen noDoorClose noSlopeClose due state report =>
      rw [state, show r = _ from report]
      exact shown
  | autoOpen noDoorClose noSlopeClose noSlopeOpen due state report =>
      rw [state, show r = _ from report]
      rw [queueSlopeOpenAuto_eq]
      simpa [DoorEcu.doorView] using opened
  | autoClose noDoorClose noSlopeClose noSlopeOpen notDue state report =>
      rw [state, show r = _ from report]
      simpa [policyAutoClose_doorView] using opened

/-- The phase between the jam handler and the policy. -/
theorem shown_atPolicy (tracks : Tracks p s.doorView) :
    Shown (if (s.report i).jam then .moving .opened else p.elapse (s.travelExpired i))
      (s.atPolicy i).doorView := by
  have atJam : Shown (p.elapse (s.travelExpired i)) (s.atJam i).doorView :=
    atJam_doorView s i ▸ tracks.sense (s.travelExpired i)
  rw [atPolicy_doorView]
  exact shown_atTxPoll atJam

/-- After a poll the phase it describes explains the servo and the supervisor. -/
theorem shown_polled (tracks : Tracks p s.doorView) :
    Shown (p.poll (s.travelExpired i) (s.report i)) (s.polled i).doorView := by
  have decided := shown_runPolicy (shown_atPolicy (i := i) tracks) i.policyTicks
  obtain ⟨_, _, frame⟩ := polled_frame s i
  have view : (s.polled i).doorView = (s.decided i).doorView := by
    obtain ⟨_, issued⟩ := issue_frame (s.decided i)
    rw [frame, issued]
    simp [DoorEcu.doorView]
  rw [view]
  exact decided

theorem tracks_init (init : InitInput) :
    Tracks (.settled .closed) (doorEcuControlInit init).doorView :=
  ⟨rfl, rfl, by rintro _ ⟨⟩; rfl⟩

/-- In every run some phase explains the servo and the supervisor. -/
theorem tracks_run (init : InitInput) (inputs : List PollInput) :
    ∃ p, Tracks p (DoorEcu.run init inputs).doorView :=
  Runs.run_invariant (fun s : DoorEcu => ∃ p, Tracks p s.doorView)
    (fun _ _ ⟨_, tracks⟩ => ⟨_, (shown_polled tracks).toTracks⟩) ⟨_, tracks_init init⟩ inputs

/-! ### Obstacles -/

theorem atJam_jamDetected (s : DoorEcu) (i : PollInput) :
    (s.atJam i).ctl.status.jamDetected = i.obstacle := by
  unfold DoorEcu.atJam doorEcuControlUpdateSensors doorEcuControlUpdateDoorEstimate
  dsimp only [doorEcuControlRefreshStatusShadow_status_jamDetected]
  split
  · split <;> rfl
  · split <;> rfl
  · rfl

/-- With an obstacle in view no close is pending and the door is not closing
once the jam handler has run. -/
theorem obstacle_atTxPoll (obstacle : i.obstacle = true) :
    (s.atTxPoll i).ctl.doorManualClosePending = false ∧
      (s.atTxPoll i).ctl.status.doorMotion ≠ .closing := by
  unfold DoorEcu.atTxPoll
  cases jam : (s.atJam i).ctl.jamFires with
  | true =>
      rw [handleJam_fires jam, cancelCloseSide_eq]
      exact ⟨rfl, by simp⟩
  | false =>
      rw [handleJam_quiet jam]
      have detected := (atJam_jamDetected s i).trans obstacle
      simpa [DoorEcuControlState.jamFires, detected, and_comm] using jam

theorem atPolicy_closePending (s : DoorEcu) (i : PollInput) :
    (s.atPolicy i).ctl.doorManualClosePending = (s.atTxPoll i).ctl.doorManualClosePending := by
  obtain ⟨_, _, _, _, frame, -⟩ :=
    handleSlopeTxSuccess_frame { s.atTxPoll i with slope := (s.txPoll i).1 }
  unfold DoorEcu.atPolicy
  rw [frame]

/-- The policy closes the door exactly when a close is pending, and leaves none. -/
theorem runPolicy_closes (s : DoorEcu) (ticks : UInt64) :
    (doorEcuControlRunPolicy s ticks).2.doorClose = s.ctl.doorManualClosePending ∧
      (doorEcuControlRunPolicy s ticks).1.ctl.doorManualClosePending = false := by
  obtain ⟨_, _, _, _, _, opened⟩ := policyDoorOpen_frame s ticks
  cases runPolicy_outcome s ticks with
  | doorClose due state report =>
      rw [state, report, policyDoorClose_eq]
      exact ⟨due.symm, rfl⟩
  | slopeClose noDoorClose due state report =>
      rw [state, report]
      exact ⟨noDoorClose.symm, noDoorClose⟩
  | slopeOpen noDoorClose noSlopeClose due state report =>
      rw [state, report]
      exact ⟨noDoorClose.symm, noDoorClose⟩
  | autoOpen noDoorClose noSlopeClose noSlopeOpen due state report =>
      rw [state, report, queueSlopeOpenAuto_eq, opened]
      exact ⟨noDoorClose.symm, noDoorClose⟩
  | autoClose noDoorClose noSlopeClose noSlopeOpen notDue state report =>
      obtain ⟨_, _, closed, -⟩ := policyAutoClose_frame (doorEcuControlPolicyDoorOpen s ticks)
      rw [state, report, closed, opened]
      exact ⟨noDoorClose.symm, noDoorClose⟩

/-- With an obstacle in view the phase after the poll is not closing, and is on
the closed side only if it was before. -/
theorem obstacle_phase (tracks : Tracks p s.doorView) (obstacle : i.obstacle = true) :
    (s.report i).policy.doorClose = false ∧
      (p.poll (s.travelExpired i) (s.report i)).motion ≠ .closing ∧
      ((p.poll (s.travelExpired i) (s.report i)).side = .closed → p.side = .closed) := by
  obtain ⟨noClose, notClosing⟩ := obstacle_atTxPoll (s := s) obstacle
  have keepsOpen : (s.report i).policy.doorClose = false := by
    rw [report_policy, (runPolicy_closes _ _).1, atPolicy_closePending, noClose]
  have atPolicy := shown_atPolicy (i := i) tracks
  rw [atPolicy_doorView] at atPolicy
  have still : (s.atTxPoll i).ctl.status.doorMotion = _ := atPolicy.motion
  rw [still] at notClosing
  unfold DoorPhase.poll
  rw [keepsOpen]
  refine ⟨rfl, ?_, ?_⟩
  · cases (s.report i).policy.doorOpen with
    | true => simp [DoorPhase.motion]
    | false => exact notClosing
  · cases (s.report i).policy.doorOpen with
    | true => simp [DoorPhase.side]
    | false =>
        cases (s.report i).jam with
        | true => simp [DoorPhase.side]
        | false => cases p <;> cases s.travelExpired i <;> exact id

theorem Shown.target_open_iff (shown : Shown p s.doorView) : s.servo.targetDuty = doorOpenDuty ↔
    s.ctl.status.doorMotion = .opening ∨ s.ctl.status.doorMotion = .opened := by
  have duty : s.servo.targetDuty = p.side.duty := shown.duty
  have motion : s.ctl.status.doorMotion = p.motion := shown.motion
  rw [duty, motion]
  cases p with
  | settled side => cases side <;> decide
  | moving side => cases side <;> decide

/-- A recorded actuation is the motion under way. -/
theorem Shown.actuation_motion (shown : Shown p s.doorView) :
    (s.ctl.lastDoorActuation = .requestOpen → s.ctl.status.doorMotion = .opening) ∧
      (s.ctl.lastDoorActuation = .requestClose → s.ctl.status.doorMotion = .closing) := by
  have actuation : s.ctl.lastDoorActuation = p.actuation := shown.actuation
  have motion : s.ctl.status.doorMotion = p.motion := shown.motion
  rw [actuation, motion]
  cases p with
  | settled side => cases side <;> decide
  | moving side => cases side <;> decide

theorem Tracks.target_close_iff (tracks : Tracks p s.doorView) :
    s.servo.targetDuty = doorCloseDuty ↔ p.side = .closed := by
  have duty : s.servo.targetDuty = p.side.duty := tracks.duty
  rw [duty]
  cases p.side <;> decide

theorem polled_closePending (s : DoorEcu) (i : PollInput) :
    (s.polled i).ctl.doorManualClosePending = false := by
  obtain ⟨_, _, frame⟩ := polled_frame s i
  rw [frame]
  exact (runPolicy_closes (s.atPolicy i) i.policyTicks).2

theorem elapse_side (p : DoorPhase) (expired : Bool) : (p.elapse expired).side = p.side := by
  cases p with
  | settled side => rfl
  | moving side => cases expired <;> rfl

/-! ### What drives the door -/

/-- The door is on its way to the side. -/
def DoorEcu.MovesTo (s : DoorEcu) (side : DoorSide) : Prop :=
  s.servo.targetDuty = side.duty ∧ s.ctl.status.doorMotion = (DoorPhase.moving side).motion

instance (s : DoorEcu) (side : DoorSide) : Decidable (s.MovesTo side) :=
  inferInstanceAs (Decidable (_ ∧ _))

/-- The poll drives the door to the side: it turns the servo there, or begins a motion there, or
begins it anew. -/
def DoorEcu.Drives (s : DoorEcu) (i : PollInput) (side : DoorSide) : Prop :=
  s.servo.targetDuty ≠ side.duty ∧ (s.polled i).servo.targetDuty = side.duty ∨
    (s.polled i).ctl.status.doorMotion = (DoorPhase.moving side).motion ∧
      ((s.atJam i).ctl.status.doorMotion ≠ (DoorPhase.moving side).motion ∨
        (s.polled i).ctl.doorMotionStartMs ≠ s.ctl.doorMotionStartMs)

instance (s : DoorEcu) (i : PollInput) (side : DoorSide) : Decidable (s.Drives i side) :=
  inferInstanceAs (Decidable (_ ∨ _))

theorem Shown.movesTo {side : DoorSide} (shown : Shown (.moving side) s.doorView) :
    s.MovesTo side :=
  ⟨shown.duty, shown.motion⟩

/-- With an opening motion goes the servo. -/
theorem Shown.movesTo_opened_iff (shown : Shown p s.doorView) :
    s.MovesTo .opened ↔ p.motion = .opening := by
  have duty : s.servo.targetDuty = p.side.duty := shown.duty
  have motion : s.ctl.status.doorMotion = p.motion := shown.motion
  unfold DoorEcu.MovesTo
  rw [duty, motion]
  cases p with
  | settled side => cases side <;> simp [DoorPhase.motion]
  | moving side => cases side <;> simp [DoorPhase.motion, DoorPhase.side]

/-- A door on its way to one side is not driven to the other. -/
theorem DoorEcu.MovesTo.side_eq {side other : DoorSide} (moves : (s.polled i).MovesTo side)
    (drives : s.Drives i other) : side = other := by
  obtain ⟨target, motion⟩ := moves
  rcases drives with ⟨-, turned⟩ | ⟨began, -⟩
  · rw [target] at turned
    cases side <;> cases other <;> first | rfl | exact absurd turned (by decide)
  · rw [motion] at began
    cases side <;> cases other <;> first | rfl | exact absurd began (by decide)

theorem polled_closing (tracks : Tracks p s.doorView)
    (closes : (s.report i).policy.doorClose = true) : (s.polled i).MovesTo .closed := by
  have shown := shown_polled (i := i) tracks
  simp only [DoorPhase.poll, closes, if_true] at shown
  exact shown.movesTo

theorem polled_opening (tracks : Tracks p s.doorView)
    (noClose : (s.report i).policy.doorClose = false)
    (opens : (s.report i).jam = true ∨ (s.report i).policy.doorOpen = true) :
    (s.polled i).MovesTo .opened := by
  have shown := shown_polled (i := i) tracks
  have moving : p.poll (s.travelExpired i) (s.report i) = .moving .opened := by
    unfold DoorPhase.poll
    rw [noClose]
    rcases opens with jam | asked
    · simp [jam]
    · simp [asked]
  rw [moving] at shown
  exact shown.movesTo

theorem runPolicy_motionStart (ticks : UInt64)
    (noClose : (doorEcuControlRunPolicy s ticks).2.doorClose = false)
    (noOpen : (doorEcuControlRunPolicy s ticks).2.doorOpen = false) :
    (doorEcuControlRunPolicy s ticks).1.ctl.doorMotionStartMs = s.ctl.doorMotionStartMs := by
  have still (pending : s.ctl.doorManualOpenPending = false) :
      doorEcuControlPolicyDoorOpen s ticks = s := by simp [doorEcuControlPolicyDoorOpen, pending]
  cases runPolicy_outcome s ticks with
  | doorClose due state report => simp [report] at noClose
  | slopeClose noDoorClose due state report => rw [state]; rfl
  | slopeOpen noDoorClose noSlopeClose due state report => rw [state]; rfl
  | autoOpen noDoorClose noSlopeClose noSlopeOpen due state report =>
      have pending : s.ctl.doorManualOpenPending = false := by simpa [report] using noOpen
      rw [state, still pending, queueSlopeOpenAuto_eq]
  | autoClose noDoorClose noSlopeClose noSlopeOpen notDue state report =>
      have pending : s.ctl.doorManualOpenPending = false := by simpa [report] using noOpen
      obtain ⟨_, _, closed, -⟩ := policyAutoClose_frame s
      rw [state, still pending, closed]

/-- A poll that drives no door sets no motion's start. -/
theorem polled_motionStart (noJam : (s.report i).jam = false)
    (noClose : (s.report i).policy.doorClose = false)
    (noOpen : (s.report i).policy.doorOpen = false) :
    (s.polled i).ctl.doorMotionStartMs = s.ctl.doorMotionStartMs := by
  have atJam : (s.atJam i).ctl.doorMotionStartMs = s.ctl.doorMotionStartMs := by
    obtain ⟨_, _, requested⟩ := requested_eq s i
    obtain ⟨_, _, _, sensed⟩ := updateSensors_frame (s.requested i) i.obstacle i.estimateTicks
    unfold DoorEcu.atJam
    rw [sensed, requested]
    simp
  have atPolicy : (s.atPolicy i).ctl.doorMotionStartMs = s.ctl.doorMotionStartMs := by
    obtain ⟨_, _, _, _, acked, -⟩ :=
      handleSlopeTxSuccess_frame { s.atTxPoll i with slope := (s.txPoll i).1 }
    rw [report_jam] at noJam
    unfold DoorEcu.atPolicy
    rw [acked, ← atJam]
    unfold DoorEcu.atTxPoll
    rw [handleJam_quiet noJam]
  obtain ⟨_, _, frame⟩ := polled_frame s i
  rw [frame, ← atPolicy]
  exact runPolicy_motionStart i.policyTicks noClose noOpen

/-- What is not driven stays as the sensors showed it. -/
theorem undriven (tracks : Tracks p s.doorView) (noJam : (s.report i).jam = false)
    (noClose : (s.report i).policy.doorClose = false)
    (noOpen : (s.report i).policy.doorOpen = false) (side : DoorSide) : ¬s.Drives i side := by
  have shown := shown_polled (i := i) tracks
  have sensed : Shown (p.elapse (s.travelExpired i)) (s.atJam i).doorView :=
    atJam_doorView s i ▸ tracks.sense (s.travelExpired i)
  simp only [DoorPhase.poll, noJam, noClose, noOpen, Bool.false_eq_true, if_false] at shown
  have target : (s.polled i).servo.targetDuty = s.servo.targetDuty := by
    have before : s.servo.targetDuty = p.side.duty := tracks.duty
    have after : (s.polled i).servo.targetDuty = (p.elapse (s.travelExpired i)).side.duty :=
      shown.duty
    rw [after, before, elapse_side]
  have motion : (s.polled i).ctl.status.doorMotion = (s.atJam i).ctl.status.doorMotion :=
    shown.motion.trans sensed.motion.symm
  rintro (⟨away, turned⟩ | ⟨began, new | anew⟩)
  · exact away (target.symm.trans turned)
  · exact new (motion.symm.trans began)
  · exact anew (polled_motionStart noJam noClose noOpen)

/-- The policy's door close, and nothing else, drives the door closed. -/
theorem drives_closed (tracks : Tracks p s.doorView) (drives : s.Drives i .closed) :
    (s.report i).policy.doorClose = true := by
  by_contra open_
  have noClose : (s.report i).policy.doorClose = false := by simpa using open_
  by_cases opens : (s.report i).jam = true ∨ (s.report i).policy.doorOpen = true
  · cases (polled_opening tracks noClose opens).side_eq drives
  · simp only [not_or, Bool.not_eq_true] at opens
    exact undriven tracks opens.1 noClose opens.2 _ drives

/-- The jam handler or the policy's door open drives it open. -/
theorem drives_opened (tracks : Tracks p s.doorView) (drives : s.Drives i .opened) :
    (s.report i).jam = true ∨ (s.report i).policy.doorOpen = true := by
  cases closes : (s.report i).policy.doorClose with
  | true => cases (polled_closing tracks closes).side_eq drives
  | false =>
      by_contra opens
      simp only [not_or, Bool.not_eq_true] at opens
      exact undriven tracks opens.1 closes opens.2 _ drives

end Phases

/-! ### Anti-pinch and actuator agreement -/

/-- After every poll of every run the servo target, the reported motion and the
last actuation agree and no door close is pending; with an obstacle in view the
door is not closing and the servo was not turned towards closing. -/
theorem actuator_agreement (init : InitInput) (inputs : List PollInput) (i : PollInput) :
    let s := DoorEcu.run init inputs
    let s' := s.polled i
    (s'.servo.targetDuty = doorOpenDuty ↔
        s'.ctl.status.doorMotion = .opening ∨ s'.ctl.status.doorMotion = .opened) ∧
      s'.ctl.doorManualClosePending = false ∧
      (s'.ctl.lastDoorActuation = .requestOpen → s'.ctl.status.doorMotion = .opening) ∧
      (s'.ctl.lastDoorActuation = .requestClose → s'.ctl.status.doorMotion = .closing) ∧
      (i.obstacle = true → s'.ctl.status.doorMotion ≠ .closing ∧
        (s.report i).policy.doorClose = false ∧
        (s'.servo.targetDuty = doorCloseDuty → s.servo.targetDuty = doorCloseDuty)) := by
  intro s s'
  obtain ⟨p, tracks⟩ := tracks_run init inputs
  have shown : Shown (p.poll (s.travelExpired i) (s.report i)) s'.doorView := shown_polled tracks
  obtain ⟨opening, closing⟩ := shown.actuation_motion
  refine ⟨shown.target_open_iff, polled_closePending s i, opening, closing, ?_⟩
  intro obstacle
  obtain ⟨keepsOpen, notClosing, side⟩ := obstacle_phase (s := s) tracks obstacle
  refine ⟨?_, keepsOpen, ?_⟩
  · have motion : s'.ctl.status.doorMotion = _ := shown.motion
    rw [motion]
    exact notClosing
  · intro target
    apply tracks.target_close_iff.mpr
    exact side (shown.toTracks.target_close_iff.mp target)

/-! ### Opening on command -/

section Command

variable {s : DoorEcu} {i : PollInput} {p : DoorPhase}

/-- A servo on the closed side stays there if nothing opens the door. -/
theorem undriven_stays_closed (tracks : Tracks p s.doorView) (noJam : (s.report i).jam = false)
    (noOpen : (s.report i).policy.doorOpen = false) (closed : s.servo.targetDuty = doorCloseDuty) :
    (s.polled i).servo.targetDuty = doorCloseDuty := by
  have before : p.side = .closed := tracks.target_close_iff.mp closed
  apply (shown_polled (i := i) tracks).toTracks.target_close_iff.mpr
  unfold DoorPhase.poll
  rw [noJam, noOpen]
  cases (s.report i).policy.doorClose with
  | true => rfl
  | false => exact (elapse_side p _).trans before

/-- An OPEN request is pending, or an obstacle is met while the door is closing. -/
def DoorEcu.OpenCommanded (s : DoorEcu) (i : PollInput) : Prop :=
  (s.atJam i).ctl.doorManualOpenPending = true ∨
    ((s.atJam i).ctl.status.jamDetected = true ∧ (s.atJam i).ctl.status.doorMotion = .closing)

instance (s : DoorEcu) (i : PollInput) : Decidable (s.OpenCommanded i) :=
  inferInstanceAs (Decidable (_ ∨ _))

/-- Neither the jam handler nor the policy opens the door uncommanded, the servo is not turned
and no motion begins without a command, and a closed door that nobody asks to open stays
closed. -/
structure DoorEcu.OpensOnCommand (s : DoorEcu) (i : PollInput) : Prop where
  jam : (s.report i).jam = true → s.OpenCommanded i
  policy : (s.report i).policy.doorOpen = true → s.OpenCommanded i
  drives : s.Drives i .opened → s.OpenCommanded i
  stays : (s.atJam i).ctl.status.doorMotion = .closed →
    (s.atJam i).ctl.doorManualOpenPending = false →
    (s.polled i).servo.targetDuty = doorCloseDuty ∧
      (s.polled i).ctl.status.doorMotion ≠ .opening

/-- An obstacle meets the close request of a door that is not closing, and no
OPEN is asked for. -/
structure DoorEcu.JamMeetsPendingClose (s : DoorEcu) (i : PollInput) : Prop where
  obstacle : i.obstacle = true
  closePending : (s.atJam i).ctl.doorManualClosePending = true
  notClosing : (s.atJam i).ctl.status.doorMotion ≠ .closing
  noOpen : (s.atJam i).ctl.doorManualOpenPending = false

/-- The policy's own openings always answer a request. -/
theorem runPolicy_opens (s : DoorEcu) (ticks : UInt64)
    (opens : (doorEcuControlRunPolicy s ticks).2.doorOpen = true) :
    s.ctl.doorManualOpenPending = true := by
  cases runPolicy_outcome s ticks with
  | doorClose due state report => simp [report] at opens
  | slopeClose noDoorClose due state report => simp [report] at opens
  | slopeOpen noDoorClose noSlopeClose due state report => simp [report] at opens
  | autoOpen noDoorClose noSlopeClose noSlopeOpen due state report => simpa [report] using opens
  | autoClose noDoorClose noSlopeClose noSlopeOpen notDue state report =>
      simpa [report] using opens

/-- Neither a jam nor an acknowledgement touches the OPEN request. -/
theorem atPolicy_openPending_eq (s : DoorEcu) (i : PollInput) :
    (s.atPolicy i).ctl.doorManualOpenPending = (s.atJam i).ctl.doorManualOpenPending := by
  obtain ⟨_, _, _, _, acked, -⟩ :=
    handleSlopeTxSuccess_frame { s.atTxPoll i with slope := (s.txPoll i).1 }
  unfold DoorEcu.atPolicy
  rw [acked]
  unfold DoorEcu.atTxPoll
  cases jam : (s.atJam i).ctl.jamFires with
  | true => rw [handleJam_fires jam, cancelCloseSide_eq]; rfl
  | false => rw [handleJam_quiet jam]

theorem report_opens (opens : (s.report i).policy.doorOpen = true) :
    (s.atJam i).ctl.doorManualOpenPending = true := by
  rw [← atPolicy_openPending_eq]
  exact runPolicy_opens (s.atPolicy i) i.policyTicks opens

/-- A jam is commanded, or it meets a pending close. -/
theorem jam_commanded (unmet : ¬s.JamMeetsPendingClose i) (jam : (s.report i).jam = true) :
    s.OpenCommanded i := by
  have detected := atJam_jamDetected s i
  rw [report_jam, DoorEcuControlState.jamFires, Bool.and_eq_true, Bool.or_eq_true] at jam
  rcases jam with ⟨jammed, moving | closePending⟩
  · exact .inr ⟨jammed, by simpa using moving⟩
  · by_contra uncommanded
    obtain ⟨noOpen, notBoth⟩ := not_or.mp uncommanded
    refine unmet ⟨detected.symm.trans jammed, closePending, ?_, by simpa using noOpen⟩
    intro closing
    exact notBoth ⟨jammed, closing⟩

/-- A closed door shown by the sensors has its servo on the closed side. -/
theorem closed_target (tracks : Tracks p s.doorView)
    (closed : (s.atJam i).ctl.status.doorMotion = .closed) :
    s.servo.targetDuty = doorCloseDuty := by
  have sensed : Shown (p.elapse (s.travelExpired i)) (s.atJam i).doorView :=
    atJam_doorView s i ▸ tracks.sense (s.travelExpired i)
  have motion : (s.atJam i).ctl.status.doorMotion = (p.elapse (s.travelExpired i)).motion :=
    sensed.motion
  apply tracks.target_close_iff.mpr
  rw [← elapse_side p (s.travelExpired i)]
  rw [closed] at motion
  cases phase : p.elapse (s.travelExpired i) with
  | settled side => cases side <;> simp [phase, DoorPhase.motion, DoorPhase.side] at motion ⊢
  | moving side => cases side <;> simp [phase, DoorPhase.motion] at motion

theorem opensOnCommand_iff (tracks : Tracks p s.doorView) :
    s.OpensOnCommand i ↔ ¬ s.JamMeetsPendingClose i := by
  constructor
  · intro onCommand met
    have fires : (s.report i).jam = true := by
      simp [report_jam, DoorEcuControlState.jamFires, atJam_jamDetected, met.obstacle,
        met.closePending]
    rcases onCommand.jam fires with asked | ⟨-, closing⟩
    · simp [met.noOpen] at asked
    · exact met.notClosing closing
  · intro unmet
    have policy (opens : (s.report i).policy.doorOpen = true) : s.OpenCommanded i :=
      .inl (report_opens opens)
    refine ⟨jam_commanded unmet, policy, ?_, ?_⟩
    · intro drives
      exact (drives_opened tracks drives).elim (jam_commanded unmet) policy
    · intro closed noOpen
      have uncommanded : ¬s.OpenCommanded i := by
        rintro (asked | ⟨-, closing⟩)
        · simp [noOpen] at asked
        · simp [closed] at closing
      have noJam : (s.report i).jam = false := by simpa using mt (jam_commanded unmet) uncommanded
      have opensNot : (s.report i).policy.doorOpen = false := by simpa using mt policy uncommanded
      have target := closed_target tracks closed
      refine ⟨undriven_stays_closed tracks noJam opensNot target, ?_⟩
      intro began
      have drives : s.Drives i .opened := .inr ⟨began, .inl (by rw [closed]; decide)⟩
      exact uncommanded ((drives_opened tracks drives).elim (jam_commanded unmet) policy)

end Command

/-- A run opens the door only on command exactly if no obstacle meets the close
request of a door that is not closing. -/
theorem opens_on_command_iff (init : InitInput) (inputs : List PollInput) :
    (∀ p ∈ DoorEcu.polls init inputs, p.1.OpensOnCommand p.2) ↔
      ∀ p ∈ DoorEcu.polls init inputs, ¬ p.1.JamMeetsPendingClose p.2 :=
  Runs.forall_steps_iff (fun s : DoorEcu => ∃ p, Tracks p s.doorView)
    (fun _ i ⟨_, tracks⟩ => ⟨_, (shown_polled (i := i) tracks).toTracks⟩)
    (fun _ i ⟨_, tracks⟩ => opensOnCommand_iff (i := i) tracks) ⟨_, tracks_init init⟩ inputs

/-- The door is settled closed; a close request arrives together with an
obstacle, and the door is driven open. No OPEN was ever requested. -/
theorem jam_opens_closed_door :
    let s := DoorEcu.run bench [quietPoll 0]
    let i := { commandPoll 10 doorCmdClose with obstacle := true }
    s.ctl.status.doorMotion = .closed ∧ s.ctl.doorManualOpenPending = false ∧
      (s.report i).doorAsked .requestOpen = false ∧ ¬ s.OpensOnCommand i ∧
      (s.polled i).servo.targetDuty = doorOpenDuty := by
  intro s i
  refine ⟨by decide +kernel, by decide +kernel, by decide +kernel, ?_, by decide +kernel⟩
  intro onCommand
  have uncommanded : ¬s.OpenCommanded i := by decide +kernel
  exact uncommanded (onCommand.drives (by decide +kernel))

end SmartBusAccess.Door
