import SmartBusAccess.Door.ObstacleDetect
import SmartBusAccess.Semantics.Runs

/-!
Which echo a measurement uses.

The interrupts may come at any time, also in the middle of a call of the service routine. The
first rising edge after the trigger pulse is remembered, and each falling edge after it
overwrites the pulse, as long as the routine has not ended the measurement: there is no state
in which one has been measured. A pulse that is taken is that of the first falling edge exactly
when no later one came before it was taken, and the measurement was not given up
(`first_echo_iff`).
-/

namespace SmartBusAccess.Door

/-! ### Measurements -/

/-- How far a measurement has come, by its interrupts: the trigger pulse is not over, no edge
has risen since, or one has, and these have fallen. -/
inductive EchoPhase where
  | triggered
  | pulsed
  | raised (rise : UInt32) (falls : List UInt32)
deriving DecidableEq, Repr

namespace EchoPhase

def trig : EchoPhase → EchoPhase
  | triggered => pulsed
  | phase => phase

def edge (pinHigh : Bool) (nowTick : UInt32) : EchoPhase → EchoPhase
  | triggered => triggered
  | pulsed => if pinHigh then raised nowTick [] else pulsed
  | raised rise falls => if pinHigh then raised rise falls else raised rise (falls ++ [nowTick])

/-- The state in which the handlers wait for what comes next. -/
def state : EchoPhase → ObstacleDetectStateId
  | triggered => .trigHigh
  | pulsed => .waitRise
  | raised _ _ => .waitFall

/-- The rising edge, if there has been one, came at that tick. -/
def Rose (tick : UInt32) : EchoPhase → Prop
  | raised rise _ => tick = rise
  | _ => True

/-- The pulse is from the rising edge to the last falling one. -/
def Latest (pulse : UInt32) : EchoPhase → Prop
  | raised rise falls => ∃ fall, falls.getLast? = some fall ∧ pulse = fall - rise
  | _ => False

/-- It is to the first one. -/
def First (pulse : UInt32) : EchoPhase → Prop
  | raised rise falls => ∃ fall, falls.head? = some fall ∧ pulse = fall - rise
  | _ => False

/-- The last falling edge came at another tick than the first. -/
def FellAgain : EchoPhase → Prop
  | raised _ falls => falls.getLast? ≠ falls.head?
  | _ => False

theorem Latest.first_iff {pulse : UInt32} {phase : EchoPhase} (latest : phase.Latest pulse) :
    phase.First pulse ↔ ¬ phase.FellAgain := by
  cases phase with
  | triggered => exact latest.elim
  | pulsed => exact latest.elim
  | raised rise falls =>
      obtain ⟨last, ended, rfl⟩ := latest
      simp only [First, FellAgain, ended, not_not]
      constructor
      · rintro ⟨first, began, same⟩
        rw [began, (UInt32.sub_left_inj rise).mp same]
      · intro same
        exact ⟨last, same.symm, rfl⟩

end EchoPhase

/-- The measurement of the most recent trigger. Once it is over, interrupts are no longer
counted to it. -/
structure EchoMeasurement where
  phase : EchoPhase
  ended : Bool
  timedOut : Bool
deriving DecidableEq, Repr

namespace EchoMeasurement

def trig (m : EchoMeasurement) : EchoMeasurement :=
  if m.ended then m else { m with phase := m.phase.trig }

def edge (m : EchoMeasurement) (pinHigh : Bool) (nowTick : UInt32) : EchoMeasurement :=
  if m.ended then m else { m with phase := m.phase.edge pinHigh nowTick }

/-- The routine starts a measurement and ends it, with a pulse or without. -/
def service (m : EchoMeasurement) : ServicePoint → EchoMeasurement
  | .processPulse _ _ => { m with ended := true }
  | .giveUp _ => { m with ended := true, timedOut := true }
  | .kickState _ => ⟨.triggered, false, false⟩
  | _ => m

def state (m : EchoMeasurement) : ObstacleDetectStateId := if m.ended then .idle else m.phase.state

/-- The pulse is that of its first echo, and it was not given up. -/
def Echoes (m : EchoMeasurement) (pulse : UInt32) : Prop :=
  m.timedOut = false ∧ m.phase.First pulse

variable {m : EchoMeasurement} {pulse : UInt32}

theorem Echoes.trig (echoes : m.Echoes pulse) : m.trig.Echoes pulse := by
  obtain ⟨phase, ended, timedOut⟩ := m
  obtain ⟨on, first⟩ := echoes
  cases phase with
  | triggered => exact first.elim
  | pulsed => exact first.elim
  | raised rise falls => cases ended <;> exact ⟨on, first⟩

/-- Later falling edges come behind the first. -/
theorem Echoes.edge (echoes : m.Echoes pulse) (pinHigh : Bool) (nowTick : UInt32) :
    (m.edge pinHigh nowTick).Echoes pulse := by
  obtain ⟨phase, ended, timedOut⟩ := m
  obtain ⟨on, first⟩ := echoes
  cases phase with
  | triggered => exact first.elim
  | pulsed => exact first.elim
  | raised rise falls =>
      obtain ⟨fall, began, same⟩ := first
      have later : (falls ++ [nowTick]).head? = some fall := by
        rw [List.head?_append, began, Option.some_or]
      cases ended with
      | true => exact ⟨on, fall, began, same⟩
      | false =>
          cases pinHigh with
          | true => exact ⟨on, fall, began, same⟩
          | false => exact ⟨on, fall, later, same⟩

end EchoMeasurement

/-! ### Runs -/

namespace ServicePoint

/-- A pulse is taken next. -/
def takes : ServicePoint → Bool
  | takePulse _ => true
  | _ => false

/-- The pulse that was taken and is not processed yet. -/
def carries : ServicePoint → Option UInt32
  | clearReady _ pulse => some pulse
  | processPulse _ pulse => some pulse
  | _ => none

/-- The sensor was found idle and is set up for the next measurement. -/
def kicks : ServicePoint → Bool
  | kickRise _ | kickPulse _ | kickReady _ | kickState _ => true
  | _ => false

/-- The pulse is erased already, and `pulse_ready` is cleared next. -/
def erases : ServicePoint → Bool
  | kickReady _ => true
  | _ => false

/-- The measurement starts next. -/
def starts : ServicePoint → Bool
  | kickState _ => true
  | _ => false

theorem kicks_of_starts {point : ServicePoint} (starts : point.starts = true) :
    point.kicks = true := by
  cases point with
  | kickState now => rfl
  | _ => exact absurd starts Bool.false_ne_true

end ServicePoint

/-- The sensor, where its service routine is, and what has come of the measurement. -/
structure ObstacleSensor where
  detect : ObstacleDetect
  point : ServicePoint
  measurement : EchoMeasurement
deriving DecidableEq, Repr

/-- A piece of the service routine, or an interrupt. -/
inductive ObstacleAction where
  | service (timer : UInt32)
  | trigIsr
  | echoIsr (pinHigh : Bool) (nowTick : UInt32)
deriving DecidableEq, Repr

namespace ObstacleSensor

def next (s : ObstacleSensor) : ObstacleAction → ObstacleSensor
  | .service timer =>
      let (detect, point) := serviceStep s.detect timer s.point
      ⟨detect, point, s.measurement.service s.point⟩
  | .trigIsr =>
      { s with detect := obstacleDetectTrigIsr s.detect, measurement := s.measurement.trig }
  | .echoIsr pinHigh nowTick =>
      { s with
        detect := obstacleDetectEchoIsr s.detect pinHigh nowTick
        measurement := s.measurement.edge pinHigh nowTick }

/-- After initialisation, before the first measurement. -/
def start (stmFrequency nowTick compareTick : UInt32) : ObstacleSensor :=
  ⟨obstacleDetectInit stmFrequency nowTick compareTick, .returned, .triggered, true, false⟩

/-- Whenever the routine takes a pulse, it is that of the first echo of a measurement that was
not given up, and so is the pulse it goes on with and processes. -/
def TakesFirstEcho (s : ObstacleSensor) (action : ObstacleAction) : Prop :=
  match action, s.point with
  | .service _, .takePulse _ => s.measurement.Echoes s.detect.pulseTicks
  | .service _, point => ∀ pulse ∈ point.carries, s.measurement.Echoes pulse
  | _, _ => True

/-- The routine takes a pulse after a later falling edge, or one of a measurement that was given
up. -/
def TakesLateEdge (s : ObstacleSensor) (action : ObstacleAction) : Prop :=
  match action, s.point with
  | .service _, .takePulse _ =>
      s.measurement.timedOut = true ∨ s.measurement.phase.FellAgain
  | _, _ => False

/-- What initialisation, every interrupt and every piece of the routine keep. The pulse that is
ready is the latest, except between two of the routine's writes. -/
structure Measures (s : ObstacleSensor) : Prop where
  state : s.detect.state = s.measurement.state
  rise : s.measurement.ended = false → s.measurement.phase.Rose s.detect.riseTick
  ready : s.point.erases = false → s.detect.pulseReady = true →
    s.measurement.phase.Latest s.detect.pulseTicks
  taking : s.point.takes = true → s.detect.pulseReady = true
  kicking : s.point.kicks = true → s.measurement.ended = true
  cleared : s.point.starts = true → s.detect.pulseReady = false

/-- What a point or a flag is not. -/
theorem never {p : Prop} (h : false = true) : p := absurd h Bool.false_ne_true

theorem start_measures (stmFrequency nowTick compareTick : UInt32) :
    (start stmFrequency nowTick compareTick).Measures where
  state := rfl
  rise := fun _ => trivial
  ready := fun _ => never
  taking := never
  kicking := never
  cleared := never

variable {s : ObstacleSensor}

/-- Once the measurement is over, no interrupt changes what the routine goes by. -/
theorem Measures.ended_idle (measures : s.Measures) (ended : s.measurement.ended = true) :
    s.detect.state = .idle := by
  rw [measures.state, EchoMeasurement.state, ended, if_pos rfl]

theorem Measures.idle_ended (measures : s.Measures) (idle : s.detect.state = .idle) :
    s.measurement.ended = true := by
  rw [measures.state, EchoMeasurement.state] at idle
  cases on : s.measurement.ended with
  | true => rfl
  | false =>
      rw [on] at idle
      cases phase : s.measurement.phase <;> simp [phase, EchoPhase.state] at idle

theorem Measures.on_state (measures : s.Measures) (on : s.measurement.ended = false) :
    s.detect.state = s.measurement.phase.state := by
  rw [measures.state, EchoMeasurement.state, on, if_neg Bool.false_ne_true]

theorem trigIsr_still {detect : ObstacleDetect} (other : detect.state ≠ .trigHigh) :
    obstacleDetectTrigIsr detect = { detect with trigPin := false } := by
  simp [obstacleDetectTrigIsr, other]

theorem echoIsr_still {detect : ObstacleDetect} {pinHigh : Bool} {nowTick : UInt32}
    (other : detect.state ≠ if pinHigh then .waitRise else .waitFall) :
    obstacleDetectEchoIsr detect pinHigh nowTick = detect := by
  cases pinHigh with
  | true => exact if_neg other
  | false => exact if_neg other

theorem Measures.trigIsr (measures : s.Measures) : (s.next .trigIsr).Measures := by
  obtain ⟨detect, point, phase, ended, timedOut⟩ := s
  cases ended with
  | true =>
      have idle : detect.state = .idle := measures.ended_idle rfl
      rw [ObstacleSensor.next, trigIsr_still (by simp [idle])]
      exact { measures with }
  | false =>
      have waits : detect.state = phase.state := measures.on_state rfl
      cases phase with
      | triggered =>
          have handled : obstacleDetectTrigIsr detect =
              { detect with trigPin := false, state := .waitRise } := by
            simp [obstacleDetectTrigIsr, waits, EchoPhase.state]
          rw [ObstacleSensor.next, handled]
          exact { measures with state := rfl, rise := fun _ => trivial }
      | pulsed =>
          rw [ObstacleSensor.next, trigIsr_still (by simp [waits, EchoPhase.state])]
          exact { measures with }
      | raised rise falls =>
          rw [ObstacleSensor.next, trigIsr_still (by simp [waits, EchoPhase.state])]
          exact { measures with }

theorem Measures.echoIsr (measures : s.Measures) (pinHigh : Bool) (nowTick : UInt32) :
    (s.next (.echoIsr pinHigh nowTick)).Measures := by
  obtain ⟨detect, point, phase, ended, timedOut⟩ := s
  cases ended with
  | true =>
      have idle : detect.state = .idle := measures.ended_idle rfl
      rw [ObstacleSensor.next, echoIsr_still (by cases pinHigh <;> simp [idle])]
      exact { measures with }
  | false =>
      have waits : detect.state = phase.state := measures.on_state rfl
      cases phase with
      | triggered =>
          rw [ObstacleSensor.next,
            echoIsr_still (by cases pinHigh <;> simp [waits, EchoPhase.state])]
          exact { measures with }
      | pulsed =>
          cases pinHigh with
          | true =>
              have handled : obstacleDetectEchoIsr detect true nowTick =
                  { detect with riseTick := nowTick, state := .waitFall } := if_pos waits
              rw [ObstacleSensor.next, handled]
              exact { measures with
                state := rfl
                rise := fun _ => rfl
                -- No pulse is ready before an edge has risen.
                ready := fun elsewhere ready => (measures.ready elsewhere ready).elim }
          | false =>
              rw [ObstacleSensor.next, echoIsr_still (by simp [waits, EchoPhase.state])]
              exact { measures with }
      | raised rise falls =>
          cases pinHigh with
          | true =>
              rw [ObstacleSensor.next, echoIsr_still (by simp [waits, EchoPhase.state])]
              exact { measures with }
          | false =>
              have risen : detect.riseTick = rise := measures.rise rfl
              have handled : obstacleDetectEchoIsr detect false nowTick =
                  { detect with pulseTicks := nowTick - rise, pulseReady := true } := by
                rw [← risen]
                exact if_pos waits
              rw [ObstacleSensor.next, handled]
              exact {
                state := waits
                rise := fun _ => risen
                ready := fun _ _ => ⟨nowTick, List.getLast?_concat, rfl⟩
                taking := fun _ => rfl
                kicking := measures.kicking
                cleared := fun starts =>
                  never (measures.kicking (ServicePoint.kicks_of_starts starts)) }

/-- Where a piece only reads, and does not go on to take a pulse or to set the sensor up. -/
theorem Measures.reads {detect : ObstacleDetect} {point point' : ServicePoint}
    {m : EchoMeasurement} (measures : Measures ⟨detect, point, m⟩) (before : point.erases = false)
    (taking : point'.takes = false) (kicking : point'.kicks = false) :
    Measures ⟨detect, point', m⟩ where
  state := measures.state
  rise := measures.rise
  ready := fun _ => measures.ready before
  taking := fun takes => never (taking.symm.trans takes)
  kicking := fun kicks => never (kicking.symm.trans kicks)
  cleared := fun starts => never (kicking.symm.trans (ServicePoint.kicks_of_starts starts))

theorem Measures.service (measures : s.Measures) (timer : UInt32) :
    (s.next (.service timer)).Measures := by
  obtain ⟨detect, point, m⟩ := s
  cases point with
  | returned => exact measures.reads rfl (by split <;> rfl) (by split <;> rfl)
  | checkReady now =>
      cases ready : detect.pulseReady with
      | true =>
          simp only [ObstacleSensor.next, serviceStep, ready, if_true]
          exact ⟨measures.state, measures.rise, fun _ => measures.ready rfl, fun _ => ready, never,
            never⟩
      | false =>
          simp only [ObstacleSensor.next, serviceStep, ready, Bool.false_eq_true, if_false]
          exact measures.reads rfl rfl rfl
  | takePulse now => exact measures.reads rfl rfl rfl
  | clearReady now pulse =>
      exact ⟨measures.state, measures.rise, fun _ => never, never, never, never⟩
  | processPulse now pulse =>
      exact ⟨rfl, fun on => never on.symm, fun _ => measures.ready rfl, never, never, never⟩
  | checkTrigHigh now => exact measures.reads rfl (by split <;> rfl) (by split <;> rfl)
  | checkWaitRise now => exact measures.reads rfl (by split <;> rfl) (by split <;> rfl)
  | checkWaitFall now => exact measures.reads rfl (by split <;> rfl) (by split <;> rfl)
  | checkTimeout now => exact measures.reads rfl (by split <;> rfl) (by split <;> rfl)
  | dropPulse now => exact ⟨measures.state, measures.rise, fun _ => never, never, never, never⟩
  | giveUp now =>
      exact ⟨rfl, fun on => never on.symm, fun _ => measures.ready rfl, never, never, never⟩
  | checkIdle now =>
      by_cases idle : detect.state = .idle
      · have ended : m.ended = true := measures.idle_ended idle
        cases due : detect.kickDue now with
        | true =>
            simp only [ObstacleSensor.next, serviceStep, idle, due, ne_eq, not_true_eq_false,
              if_false, if_true]
            exact ⟨measures.state, measures.rise, fun _ => measures.ready rfl, never,
              fun _ => ended, never⟩
        | false =>
            simp only [ObstacleSensor.next, serviceStep, idle, due, ne_eq, not_true_eq_false,
              if_false, Bool.false_eq_true]
            exact measures.reads rfl rfl rfl
      · simp only [ObstacleSensor.next, serviceStep, ne_eq, idle, not_false_eq_true, if_true]
        exact measures.reads rfl rfl rfl
  -- From here on the sensor is idle, and no interrupt comes between.
  | kickRise now =>
      have ended : m.ended = true := measures.kicking rfl
      exact ⟨measures.state, fun on => never (on.symm.trans ended), fun _ => measures.ready rfl,
        never, fun _ => ended, never⟩
  | kickPulse now =>
      exact ⟨measures.state, measures.rise, fun elsewhere => never elsewhere.symm, never,
        fun _ => measures.kicking rfl, never⟩
  | kickReady now =>
      exact ⟨measures.state, measures.rise, fun _ => never, never, fun _ => measures.kicking rfl,
        fun _ => rfl⟩
  | kickState now =>
      have cleared : detect.pulseReady = false := measures.cleared rfl
      exact ⟨rfl, fun _ => trivial, fun _ ready => never (cleared.symm.trans ready), never, never,
        never⟩
  | kickPin now =>
      exact ⟨measures.state, measures.rise, fun _ => measures.ready rfl, never, never, never⟩

theorem Measures.next (measures : s.Measures) (action : ObstacleAction) :
    (s.next action).Measures := by
  cases action with
  | service timer => exact measures.service timer
  | trigIsr => exact measures.trigIsr
  | echoIsr pinHigh nowTick => exact measures.echoIsr pinHigh nowTick

/-- What the routine goes on with is the pulse of a first echo. -/
def Carries (s : ObstacleSensor) : Prop := ∀ pulse ∈ s.point.carries, s.measurement.Echoes pulse

/-- If what it has taken was, while the pieces hand it on and whatever interrupts. -/
theorem Carries.next (carries : s.Carries) {action : ObstacleAction}
    (takes : s.TakesFirstEcho action) : (s.next action).Carries := by
  cases action with
  | trigIsr => exact fun pulse carried => (carries pulse carried).trig
  | echoIsr pinHigh nowTick =>
      exact fun pulse carried => (carries pulse carried).edge pinHigh nowTick
  | service timer =>
      obtain ⟨detect, point, m⟩ := s
      intro pulse carried
      cases point with
      | takePulse now =>
          cases carried
          exact takes
      | clearReady now taken => exact carries pulse carried
      | returned | checkReady now | checkTrigHigh now | checkWaitRise now | checkWaitFall now
      | checkTimeout now | checkIdle now =>
          simp only [ObstacleSensor.next, serviceStep] at carried
          split_ifs at carried <;> cases carried
      | _ => cases carried

theorem takes_iff (measures : s.Measures) (carries : s.Carries) (action : ObstacleAction) :
    s.TakesFirstEcho action ↔ ¬ s.TakesLateEdge action := by
  cases action with
  | service timer =>
      obtain ⟨detect, point, m⟩ := s
      cases point with
      | takePulse now =>
          have latest : m.phase.Latest detect.pulseTicks := measures.ready rfl (measures.taking rfl)
          show m.timedOut = false ∧ m.phase.First detect.pulseTicks ↔
            ¬ (m.timedOut = true ∨ m.phase.FellAgain)
          rw [latest.first_iff, not_or, Bool.not_eq_true]
      | _ => exact iff_of_true carries id
  | trigIsr => exact iff_of_true trivial id
  | echoIsr pinHigh nowTick => exact iff_of_true trivial id

end ObstacleSensor

/-- From initialisation, for every interleaving of pieces of the service routine with
interrupts: every pulse that is taken, and then processed, is that of the first echo of its
measurement if and only if none is taken after a later falling edge at another tick or once the
measurement was given up. -/
theorem first_echo_iff (stmFrequency nowTick compareTick : UInt32)
    (actions : List ObstacleAction) :
    let start := ObstacleSensor.start stmFrequency nowTick compareTick
    (∀ p ∈ Runs.steps ObstacleSensor.next start actions, p.1.TakesFirstEcho p.2) ↔
      ∀ p ∈ Runs.steps ObstacleSensor.next start actions, ¬ p.1.TakesLateEdge p.2 :=
  Runs.forall_steps_iff_while (fun s : ObstacleSensor => s.Measures ∧ s.Carries)
    (fun _ action inv early => ⟨inv.1.next action,
      inv.2.next ((ObstacleSensor.takes_iff inv.1 inv.2 action).mpr early)⟩)
    (fun _ action inv => ObstacleSensor.takes_iff inv.1 inv.2 action)
    ⟨ObstacleSensor.start_measures stmFrequency nowTick compareTick, nofun⟩ actions

/-- A first echo after 900 us and an echo of it after 2000 us, and then a call of the routine. -/
def secondEcho : List ObstacleAction :=
  List.replicate 11 (.service 10000000) ++
    [.trigIsr, .echoIsr true 10010000, .echoIsr false 10100000, .echoIsr true 10200000,
      .echoIsr false 10210000, .service 10300000, .service 10300000]

/-- An obstacle 15 cm away is taken for one 34 cm away. -/
theorem second_echo_taken :
    ¬ ∀ p ∈ Runs.steps ObstacleSensor.next (ObstacleSensor.start 100000000 0 0)
        (secondEcho ++ [.service 10300000]), p.1.TakesFirstEcho p.2 := by
  intro takes
  let before := Runs.run ObstacleSensor.next (ObstacleSensor.start 100000000 0 0) secondEcho
  have phase : before.measurement.phase = .raised 10010000 [10100000, 10210000] := by
    decide +kernel
  have pulse : before.detect.pulseTicks = 200000 := by decide +kernel
  -- The routine is about to take the pulse.
  have taken : before.measurement.phase.First before.detect.pulseTicks :=
    (takes _ (Runs.mem_steps_last _ _ secondEcho (.service 10300000))).2
  rw [phase, pulse] at taken
  obtain ⟨fall, first, same⟩ := taken
  cases first
  exact absurd same (by decide)

end SmartBusAccess.Door
