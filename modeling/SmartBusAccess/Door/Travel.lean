import SmartBusAccess.Door.Actuation
import SmartBusAccess.Semantics.Thinning

/-!
Whether the door is where it is reported to be.

The supervisor takes a motion as finished after a fixed time; the servo moves by one step at
each reading of the clock that comes `tickInterval` or more after its last step. It has
arrived in time exactly when the readings leave room for the steps (`door_state_matches_iff`):
a step that comes late makes all those after it late.
-/

namespace SmartBusAccess.Door

open SmartBusAccess.Can SmartBusAccess.Uart Thinning

/-! ### The servo -/

namespace DoorServo

/-- The steps that the servo has to go. -/
def distance (s : DoorServo) : ℕ :=
  (s.targetDuty - s.currentDuty) + (s.currentDuty - s.targetDuty)

theorem distance_eq_zero (s : DoorServo) : s.distance = 0 ↔ s.currentDuty = s.targetDuty := by
  unfold distance
  omega

theorem doorUpdate_frame (s : DoorServo) (currentTick : UInt64) :
    (doorUpdate s currentTick).ready = s.ready ∧
      (doorUpdate s currentTick).tickInterval = s.tickInterval := by
  unfold doorUpdate
  split
  · exact ⟨rfl, rfl⟩
  · split
    · exact ⟨rfl, rfl⟩
    · split <;> exact ⟨rfl, rfl⟩

theorem doorUpdate_still {s : DoorServo} (still : s.ready = false ∨ s.distance = 0)
    (currentTick : UInt64) : doorUpdate s currentTick = s := by
  unfold doorUpdate
  rcases still with off | arrived
  · simp [off]
  · simp [(distance_eq_zero s).mp arrived]

theorem doorUpdate_early {s : DoorServo} {currentTick : UInt64}
    (early : currentTick - s.lastUpdateTick < s.tickInterval) : doorUpdate s currentTick = s := by
  simp [doorUpdate, early]

theorem doorUpdate_step {s : DoorServo} (ready : s.ready = true) (away : s.distance ≠ 0)
    {currentTick : UInt64} (due : ¬ currentTick - s.lastUpdateTick < s.tickInterval) :
    (doorUpdate s currentTick).lastUpdateTick = currentTick ∧
      (doorUpdate s currentTick).distance + 1 = s.distance := by
  have apart : s.currentDuty ≠ s.targetDuty := mt (distance_eq_zero s).mpr away
  simp only [doorUpdate, ready, Bool.not_true, Bool.false_eq_true, if_false, if_neg apart,
    if_neg due]
  refine ⟨trivial, ?_⟩
  simp only [distance, doorDutyStep]
  split <;> omega

/-- What the servo has done since it had `distance` steps to go and its last step was at
`lastStep`, when it has read the clock at `readings`. -/
structure Stepped (s : DoorServo) (distance lastStep : ℕ) (readings : List ℕ) : Prop where
  off : s.ready = false → s.distance = distance
  gone : s.ready = true →
    s.distance = distance - (thin s.tickInterval.toNat lastStep readings).length
  last : s.ready = true → s.distance ≠ 0 → s.lastUpdateTick.toNat =
    (thin s.tickInterval.toNat lastStep readings).getLastD lastStep
  past : s.lastUpdateTick.toNat ≤ readings.getLastD lastStep

theorem stepped_start (s : DoorServo) : s.Stepped s.distance s.lastUpdateTick.toNat [] :=
  ⟨fun _ => rfl, fun _ => rfl, fun _ _ => rfl, Nat.le_refl _⟩

theorem Stepped.update {s : DoorServo} {distance lastStep : ℕ} {readings : List ℕ}
    (stepped : s.Stepped distance lastStep readings) {currentTick : UInt64}
    (later : readings.getLastD lastStep ≤ currentTick.toNat) :
    (doorUpdate s currentTick).Stepped distance lastStep (readings ++ [currentTick.toNat]) := by
  have concat := thin_concat s.tickInterval.toNat lastStep readings currentTick.toNat
  have past := stepped.past.trans later
  have now : (readings ++ [currentTick.toNat]).getLastD lastStep = currentTick.toNat :=
    List.getLastD_concat
  by_cases still : s.ready = false ∨ s.distance = 0
  · rw [doorUpdate_still still]
    refine ⟨stepped.off, ?_, ?_, ?_⟩
    · intro ready
      have arrived : s.distance = 0 := still.resolve_left (by simp [ready])
      have gone := stepped.gone ready
      rw [concat]
      split
      · rw [List.length_append]
        omega
      · omega
    · intro ready away
      exact absurd still (by simp [ready, away])
    · rwa [now]
  obtain ⟨on, away⟩ := not_or.mp still
  have ready : s.ready = true := by simpa using on
  have last := stepped.last ready away
  have gone := stepped.gone ready
  have waited : (currentTick - s.lastUpdateTick).toNat =
      currentTick.toNat - s.lastUpdateTick.toNat :=
    UInt64.toNat_sub_of_le _ _ (UInt64.le_iff_toNat_le.mpr past)
  obtain ⟨frame, interval⟩ := doorUpdate_frame s currentTick
  by_cases early : currentTick - s.lastUpdateTick < s.tickInterval
  · rw [UInt64.lt_iff_toNat_lt, waited] at early
    have soon := concat.trans (if_neg (by omega))
    rw [doorUpdate_early (by rwa [UInt64.lt_iff_toNat_lt, waited])]
    exact ⟨stepped.off, fun _ => by rw [soon, gone], fun _ _ => by rw [soon, last], by rwa [now]⟩
  · obtain ⟨at_, closer⟩ := doorUpdate_step ready away early
    rw [UInt64.lt_iff_toNat_lt, waited] at early
    have due := concat.trans (if_pos (by omega))
    constructor
    · rw [frame]
      exact fun off => absurd off (by simp [ready])
    · intro _
      rw [interval, due, List.length_append, List.length_singleton]
      omega
    · intro _ _
      rw [interval, due, at_, List.getLastD_concat]
    · rw [at_, now]

end DoorServo

/-! ### Driving -/

/-- The poll drove the door. -/
def PollReport.drivesDoor (r : PollReport) : Bool :=
  r.jam || r.policy.doorClose || r.policy.doorOpen

section Driving

variable (s : DoorEcu) (i : PollInput)

theorem atJam_servo : (s.atJam i).servo = s.servo := by
  obtain ⟨ble, can, requested⟩ := requested_eq s i
  obtain ⟨_, _, _, sensed⟩ := updateSensors_frame (s.requested i) i.obstacle i.estimateTicks
  unfold DoorEcu.atJam
  rw [sensed, requested]

theorem atPolicy_servo : (s.atPolicy i).servo =
    if (s.report i).jam then driveDoorOpen s.servo else s.servo := by
  obtain ⟨_, _, _, _, frame, -⟩ :=
    handleSlopeTxSuccess_frame { s.atTxPoll i with slope := (s.txPoll i).1 }
  unfold DoorEcu.atPolicy
  rw [frame, report_jam]
  unfold DoorEcu.atTxPoll
  cases jam : (s.atJam i).ctl.jamFires with
  | true =>
      rw [handleJam_fires jam]
      simp [atJam_servo]
  | false =>
      rw [handleJam_quiet jam]
      simp [atJam_servo]

theorem policyDoorOpen_servo (ticks : UInt64) : (doorEcuControlPolicyDoorOpen s ticks).servo =
    if s.ctl.doorManualOpenPending then driveDoorOpen s.servo else s.servo := by
  unfold doorEcuControlPolicyDoorOpen
  split <;> rfl

theorem runPolicy_servo (ticks : UInt64) :
    let r := (doorEcuControlRunPolicy s ticks).2
    (doorEcuControlRunPolicy s ticks).1.servo = if r.doorClose then driveDoorClose s.servo
      else if r.doorOpen then driveDoorOpen s.servo else s.servo := by
  intro r
  cases runPolicy_outcome s ticks with
  | doorClose due state report =>
      rw [state, show r = _ from report, policyDoorClose_eq]
      rfl
  | slopeClose noDoorClose due state report =>
      rw [state, show r = _ from report]
      rfl
  | slopeOpen noDoorClose noSlopeClose due state report =>
      rw [state, show r = _ from report]
      rfl
  | autoOpen noDoorClose noSlopeClose noSlopeOpen due state report =>
      rw [state, show r = _ from report]
      exact policyDoorOpen_servo s ticks
  | autoClose noDoorClose noSlopeClose noSlopeOpen notDue state report =>
      obtain ⟨_, _, closed, -⟩ := policyAutoClose_frame (doorEcuControlPolicyDoorOpen s ticks)
      rw [state, show r = _ from report, closed]
      exact policyDoorOpen_servo s ticks

theorem polled_servo : (s.polled i).servo = doorUpdate (s.decided i).servo i.doorTicks := by
  obtain ⟨_, _, frame⟩ := polled_frame s i
  rw [frame]

/-- Driving the door changes where the servo is to go. -/
theorem decided_servo : ∃ target, (s.decided i).servo = { s.servo with targetDuty := target } ∧
    ((s.report i).drivesDoor = false → target = s.servo.targetDuty) := by
  have decided : (s.decided i).servo = _ := runPolicy_servo (s.atPolicy i) i.policyTicks
  rw [atPolicy_servo, ← report_policy] at decided
  unfold PollReport.drivesDoor
  rw [decided]
  cases (s.report i).policy.doorClose with
  | true => cases (s.report i).jam <;> exact ⟨doorCloseDuty, rfl, by simp⟩
  | false =>
      cases (s.report i).policy.doorOpen with
      | true => cases (s.report i).jam <;> exact ⟨doorOpenDuty, rfl, by simp⟩
      | false =>
          cases (s.report i).jam with
          | true => exact ⟨doorOpenDuty, rfl, by simp⟩
          | false => exact ⟨s.servo.targetDuty, rfl, fun _ => rfl⟩

end Driving

/-! ### A motion -/

/-- The supervisor beside what the servo does in a motion: the steps it had to go when the door
was last driven, its last step before that, and the clock it has read since. -/
structure DoorTravel where
  ecu : DoorEcu
  distance : ℕ
  lastStep : ℕ
  readings : List ℕ
deriving DecidableEq, Repr

/-- The door is where it is reported to be. -/
def DoorEcu.Arrived (s : DoorEcu) : Prop :=
  (s.ctl.status.doorMotion = .opened → s.servo.currentDuty = doorOpenDuty) ∧
    (s.ctl.status.doorMotion = .closed → s.servo.currentDuty = doorCloseDuty)

instance (s : DoorEcu) : Decidable s.Arrived := inferInstanceAs (Decidable (_ ∧ _))

namespace DoorTravel

/-- A poll that drives the door begins a motion, with the clock of its own `doorUpdate`. -/
def next (s : DoorTravel) (i : PollInput) : DoorTravel :=
  if (s.ecu.report i).drivesDoor then
    ⟨s.ecu.polled i, (s.ecu.decided i).servo.distance, s.ecu.servo.lastUpdateTick.toNat,
      [i.doorTicks.toNat]⟩
  else { s with ecu := s.ecu.polled i, readings := s.readings ++ [i.doorTicks.toNat] }

def start (init : InitInput) : DoorTravel :=
  ⟨doorEcuControlInit init, 0, init.doorTicks.toNat, []⟩

/-- The clock when it was last read. -/
def now (s : DoorTravel) : ℕ := s.readings.getLastD s.lastStep

/-- The readings leave room for the steps. -/
def Suffices (s : DoorTravel) (i : PollInput) : Prop :=
  s.distance = 0 ∨ s.ecu.servo.ready = true ∧ Fits s.ecu.servo.tickInterval.toNat s.lastStep
    s.distance (s.readings ++ [i.doorTicks.toNat])

/-- The poll takes a motion as finished for which they do not. -/
def EndsShort (s : DoorTravel) (i : PollInput) : Prop :=
  s.ecu.ctl.lastDoorActuation ≠ .requestNone ∧ s.ecu.travelExpired i = true ∧
    (s.ecu.report i).drivesDoor = false ∧ ¬ s.Suffices i

/-- What initialisation and every poll keep, as long as every motion is given the time it
takes. -/
structure Follows (s : DoorTravel) : Prop where
  phase : ∃ p, Tracks p s.ecu.doorView ∧
    ∀ side, p = .settled side → s.ecu.servo.distance = 0
  sorted : List.IsChain (· ≤ ·) (s.lastStep :: s.readings)
  stepped : s.ecu.servo.Stepped s.distance s.lastStep s.readings

theorem start_follows (init : InitInput) : (start init).Follows where
  phase := ⟨_, tracks_init init, fun _ _ => rfl⟩
  sorted := List.isChain_singleton _
  stepped := (doorInit init.pwmReady init.tickInterval init.doorTicks).stepped_start

variable {s : DoorTravel} {i : PollInput}

@[simp] theorem next_ecu (s : DoorTravel) (i : PollInput) : (s.next i).ecu = s.ecu.polled i := by
  unfold next
  split <;> rfl

@[simp] theorem next_now (s : DoorTravel) (i : PollInput) :
    (s.next i).now = i.doorTicks.toNat := by
  unfold next now
  split
  · rfl
  · exact List.getLastD_concat

theorem polled_stepped (follows : s.Follows) (later : s.now ≤ i.doorTicks.toNat) :
    (s.next i).ecu.servo.Stepped (s.next i).distance (s.next i).lastStep (s.next i).readings := by
  obtain ⟨target, decided, undriven⟩ := decided_servo s.ecu i
  rw [next_ecu, polled_servo]
  unfold next
  cases drives : (s.ecu.report i).drivesDoor with
  | true =>
      have past : (s.ecu.decided i).servo.lastUpdateTick.toNat ≤ i.doorTicks.toNat := by
        rw [decided]
        exact follows.stepped.past.trans later
      have start := (s.ecu.decided i).servo.stepped_start.update past
      rw [decided] at start ⊢
      exact start
  | false =>
      rw [undriven drives] at decided
      rw [decided]
      exact follows.stepped.update later

theorem next_sorted (follows : s.Follows) (later : s.now ≤ i.doorTicks.toNat) :
    List.IsChain (· ≤ ·) ((s.next i).lastStep :: (s.next i).readings) := by
  unfold next
  split
  · exact List.isChain_cons_cons.mpr
      ⟨follows.stepped.past.trans later, List.isChain_singleton _⟩
  · rw [← List.cons_append]
    refine List.isChain_append.mpr ⟨follows.sorted, List.isChain_singleton _, ?_⟩
    rintro t last u ⟨⟩
    rw [List.getLast?_cons, Option.mem_some_iff] at last
    rw [now, List.getLastD_eq_getLast?] at later
    rw [← last]
    exact later

theorem polled_servo_frame (s : DoorEcu) (i : PollInput) :
    (s.polled i).servo.ready = s.servo.ready ∧
      (s.polled i).servo.tickInterval = s.servo.tickInterval := by
  obtain ⟨target, decided, -⟩ := decided_servo s i
  rw [polled_servo, decided]
  exact DoorServo.doorUpdate_frame _ i.doorTicks

/-- In a motion that goes on, the servo has no step left exactly when it has been given the
time. -/
theorem Follows.suffices_iff (follows : s.Follows) (later : s.now ≤ i.doorTicks.toNat)
    (undriven : (s.ecu.report i).drivesDoor = false) :
    (s.ecu.polled i).servo.distance = 0 ↔ s.Suffices i := by
  have stepped := polled_stepped follows later
  have sorted := next_sorted follows later
  rw [next_ecu] at stepped
  obtain ⟨ready, interval⟩ := polled_servo_frame s.ecu i
  simp only [next, undriven, Bool.false_eq_true, if_false] at stepped sorted
  have pairwise := (List.pairwise_cons.mp sorted.pairwise).2
  unfold Suffices
  rw [fits_iff pairwise]
  cases on : s.ecu.servo.ready with
  | false =>
      rw [stepped.off (ready.trans on)]
      simp
  | true =>
      rw [stepped.gone (ready.trans on), interval]
      simp only [true_and]
      omega

theorem poll_driven (p : DoorPhase) (expired : Bool) {r : PollReport}
    (driven : r.drivesDoor = true) (side : DoorSide) : p.poll expired r ≠ .settled side := by
  simp only [PollReport.drivesDoor, Bool.or_eq_true] at driven
  rcases driven with (jam | closes) | opens
  · simp only [DoorPhase.poll, jam, if_true]
    split
    · simp
    · split <;> simp
  · simp [DoorPhase.poll, closes]
  · simp only [DoorPhase.poll, opens, if_true]
    split <;> simp

theorem poll_undriven {p : DoorPhase} {expired : Bool} {r : PollReport}
    (undriven : r.drivesDoor = false) : p.poll expired r = p.elapse expired := by
  simp only [PollReport.drivesDoor, Bool.or_eq_false_iff] at undriven
  obtain ⟨⟨noJam, noClose⟩, noOpen⟩ := undriven
  simp [DoorPhase.poll, noJam, noClose, noOpen]

/-- With the phase after the poll, what is reported is where the servo has to be. -/
theorem arrived_of_shown {ecu : DoorEcu} {p : DoorPhase} (shown : Shown p ecu.doorView) :
    ecu.Arrived ↔ ∀ side, p = .settled side → ecu.servo.distance = 0 := by
  have duty : ecu.servo.targetDuty = p.side.duty := shown.duty
  have motion : ecu.ctl.status.doorMotion = p.motion := shown.motion
  unfold DoorEcu.Arrived
  rw [DoorServo.distance_eq_zero, duty, motion]
  cases p with
  | settled side => cases side <;> simp [DoorPhase.motion, DoorPhase.side, DoorSide.duty]
  | moving side => cases side <;> simp [DoorPhase.motion]

/-- The door is where it is reported to be exactly if no motion ends short. -/
theorem Follows.arrived_iff (follows : s.Follows) (later : s.now ≤ i.doorTicks.toNat) :
    (s.ecu.polled i).Arrived ↔ ¬ s.EndsShort i := by
  obtain ⟨p, tracks, settled⟩ := follows.phase
  rw [arrived_of_shown (shown_polled (i := i) tracks)]
  have actuation : s.ecu.ctl.lastDoorActuation = p.actuation := tracks.actuation
  cases drives : (s.ecu.report i).drivesDoor with
  | true =>
      have moving := poll_driven p (s.ecu.travelExpired i) drives
      refine iff_of_true (fun side settled => absurd settled (moving side)) ?_
      rintro ⟨-, -, undriven, -⟩
      simp [drives] at undriven
  | false =>
      rw [poll_undriven drives]
      cases p with
      | settled side =>
          refine iff_of_true (fun _ _ => ?_) fun ends => ends.1 actuation
          obtain ⟨target, decided, undriven⟩ := decided_servo s.ecu i
          rw [undriven drives] at decided
          have arrived := settled side rfl
          rw [polled_servo, decided, DoorServo.doorUpdate_still (.inr arrived)]
          exact arrived
      | moving side =>
          have moved : s.ecu.ctl.lastDoorActuation ≠ .requestNone := by
            rw [actuation]
            cases side <;> exact nofun
          cases expired : s.ecu.travelExpired i with
          | false =>
              refine iff_of_true (fun _ settled => nomatch settled) ?_
              rintro ⟨-, late, -⟩
              simp [expired] at late
          | true =>
              have room := follows.suffices_iff later drives
              constructor
              · intro arrived ends
                exact ends.2.2.2 (room.mp (arrived side rfl))
              · intro ends _ _
                apply room.mpr
                by_contra short
                exact ends ⟨moved, expired, drives, short⟩

theorem Follows.next (follows : s.Follows) (later : s.now ≤ i.doorTicks.toNat)
    (ends : ¬ s.EndsShort i) : (s.next i).Follows where
  phase := by
    obtain ⟨p, tracks, -⟩ := follows.phase
    have shown := shown_polled (i := i) tracks
    rw [next_ecu]
    exact ⟨_, shown.toTracks, (arrived_of_shown shown).mp ((follows.arrived_iff later).mpr ends)⟩
  sorted := next_sorted follows later
  stepped := polled_stepped follows later

end DoorTravel

/-- In every run whose clock does not go back: the door is where it is reported to be after
every poll if and only if no poll takes a motion as finished without the readings of the clock
since the door was driven leaving room for the servo's steps. -/
theorem door_state_matches_iff (init : InitInput) (inputs : List PollInput)
    (clocked : List.IsChain (· ≤ ·) (init.doorTicks :: inputs.map PollInput.doorTicks)) :
    (∀ p ∈ DoorEcu.polls init inputs, (p.1.polled p.2).Arrived) ↔
      ∀ p ∈ Runs.steps DoorTravel.next (DoorTravel.start init) inputs, ¬ p.1.EndsShort p.2 := by
  have later : ∀ p ∈ Runs.steps DoorTravel.next (DoorTravel.start init) inputs,
      p.1.now ≤ p.2.doorTicks.toNat := by
    have ticks := (List.isChain_map UInt64.toNat).mpr clocked
    rw [List.map_cons, List.map_map] at ticks
    exact Runs.steps_ordered DoorTravel.now (fun i : PollInput => i.doorTicks.toNat)
      DoorTravel.next_now ticks
  rw [← Runs.forall_steps_iff_given DoorTravel.Follows (fun s i => s.now ≤ i.doorTicks.toNat)
    (fun _ _ follows later ends => follows.next later ends)
    (fun _ _ follows later => follows.arrived_iff later) (DoorTravel.start_follows init) inputs
    later]
  exact Runs.forall_steps_project (P := fun s i => (s.polled i).Arrived) DoorTravel.ecu
    DoorTravel.next_ecu (DoorTravel.start init) inputs

/-- The door is driven open for one step of the servo, then closed, and the assumed time of the
closing is over at the last poll. -/
def briefOpening : List PollInput :=
  [quietPoll 0, commandPoll 14 doorCmdOpen, quietPoll 30, commandPoll 44 doorCmdClose,
    quietPoll 60]

theorem door_state_matches_brief :
    (DoorEcu.run bench briefOpening).ctl.status.doorMotion = .closing ∧
      (DoorEcu.run bench (briefOpening ++ [quietPoll 1800])).ctl.status.doorMotion = .closed ∧
      ∀ p ∈ Runs.steps DoorTravel.next (DoorTravel.start bench) (briefOpening ++ [quietPoll 1800]),
        ¬ p.1.EndsShort p.2 := by
  have arrived : ∀ p ∈ DoorEcu.polls bench (briefOpening ++ [quietPoll 1800]),
      (p.1.polled p.2).Arrived := by decide +kernel
  refine ⟨by decide +kernel, by decide +kernel, ?_⟩
  exact (door_state_matches_iff bench _ (by decide +kernel)).mp arrived

/-! ### A slow opening -/

/-- Polls 14 ms apart in which nothing arrives. -/
def slowPolls (first count : ℕ) : List PollInput :=
  (List.range' first count).map fun n => quietPoll (14 * UInt32.ofNat n)

/-- The driver opens the door at 14 ms. -/
def slowOpening : List PollInput := quietPoll 0 :: commandPoll 14 doorCmdOpen :: slowPolls 2 60

/-- The servo has moved at every other poll. -/
def halfway : DoorEcu :=
  let driven := DoorEcu.run bench [quietPoll 0, commandPoll 14 doorCmdOpen]
  { driven with
    slope := { driven.slope with sender := { driven.slope.sender with
      pendingSeq := 5
      nextSeq := 6
      lastTxMs := 840
      pendingFrame := encodeData 5 0 } }
    servo := { driven.servo with currentDuty := 55, lastUpdateTick := 84000000 }
    can := { driven.can with statusCache := ⟨false, doorStateMoving, rampStateStowed, false, true⟩ }
    lastStatusTxMs := 784 }

theorem slowOpening_halfway : DoorEcu.run bench slowOpening = halfway := by decide +kernel

/-- Before the poll at which the assumed time is over. -/
def nearlyOver : DoorEcu := Runs.run (Runs.next doorEcuControlPoll) halfway (slowPolls 62 61)

theorem nearlyOver_polled : ¬ (nearlyOver.polled (quietPoll 1722)).Arrived := by decide +kernel

/-- Polls 14 ms apart, and a door that is reported open with 39 steps to go. -/
theorem door_reported_open_too_soon :
    let inputs := slowOpening ++ slowPolls 62 61 ++ [quietPoll 1722]
    List.IsChain (fun a b : PollInput => a.doorTicks ≤ b.doorTicks ∧
        b.doorTicks - a.doorTicks ≤ bench.tickInterval) inputs ∧
      ¬ ∀ p ∈ DoorEcu.polls bench inputs, (p.1.polled p.2).Arrived := by
  intro inputs
  refine ⟨by decide +kernel, ?_⟩
  intro arrived
  have before : DoorEcu.run bench (slowOpening ++ slowPolls 62 61) = nearlyOver :=
    (Runs.run_append _ _ _ _).trans (congrArg (Runs.run _ · (slowPolls 62 61)) slowOpening_halfway)
  have last : (nearlyOver, quietPoll 1722) ∈ DoorEcu.polls bench inputs := by
    rw [← before]
    exact Runs.mem_steps_last _ _ (slowOpening ++ slowPolls 62 61) (quietPoll 1722)
  have final := arrived _ last
  dsimp only at final
  exact nearlyOver_polled final

end SmartBusAccess.Door
