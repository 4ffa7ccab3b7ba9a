import Mathlib.Logic.Function.Iterate

/-!
The ultrasonic obstacle sensor (`obstacle_detect.c`): two interrupt handlers and a service
routine that the main loop calls.

The handlers run to their end; the service routine can be interrupted between any two
accesses of what it shares with them, which are `state`, `rise_tick`, `pulse_ticks` and
`pulse_ready`. `serviceStep` is one such piece of it, and a `ServicePoint` where it goes on.
`obstacleDetectService` is the whole routine when nothing interrupts it
(`serviceSteps_uninterrupted`).

A distance is kept as the pulse that it is computed from, and compared without rounding where
the source computes in `float`. The handlers' interrupt flags are left out.
-/

namespace SmartBusAccess.Door

inductive ObstacleDetectStateId where
  | idle
  | trigHigh
  | waitRise
  | waitFall
deriving DecidableEq, Repr

/-- `g_obstacleDetectState`, the constants that initialisation computes, and the two outputs. -/
structure ObstacleDetect where
  initialized : Bool
  detected : Bool
  valid : Bool
  lastDistanceTicks : UInt32
  state : ObstacleDetectStateId
  lastKickTick : UInt32
  measureStartTick : UInt32
  riseTick : UInt32
  pulseTicks : UInt32
  pulseReady : Bool
  ticksPerUs : UInt32
  measurePeriodTicks : UInt32
  trigPulseTicks : UInt32
  echoTimeoutTicks : UInt32
  trigPin : Bool
  compareTick : UInt32
deriving DecidableEq, Repr

abbrev obstacleThresholdCm : Nat := 30
abbrev obstacleMeasurePeriodMs : UInt32 := 100
abbrev obstacleEchoTimeoutUs : UInt32 := 30000
abbrev obstacleTrigPulseUs : UInt32 := 10

/-- `nowTick` and `compareTick` are its two readings of the timer. -/
def obstacleDetectInit (stmFrequency nowTick compareTick : UInt32) : ObstacleDetect :=
  let stmFrequency := if stmFrequency == 0 then 100000000 else stmFrequency
  let ticksPerUs := if stmFrequency / 1000000 == 0 then 100 else stmFrequency / 1000000
  let measurePeriodTicks := ticksPerUs * 1000 * obstacleMeasurePeriodMs
  { initialized := true
    detected := false
    valid := false
    lastDistanceTicks := 0
    state := .idle
    lastKickTick := nowTick
    measureStartTick := 0
    riseTick := 0
    pulseTicks := 0
    pulseReady := false
    ticksPerUs := ticksPerUs
    measurePeriodTicks := measurePeriodTicks
    trigPulseTicks := ticksPerUs * obstacleTrigPulseUs
    echoTimeoutTicks := ticksPerUs * obstacleEchoTimeoutUs
    trigPin := false
    compareTick := compareTick + measurePeriodTicks }

/-! ### Interrupts -/

def obstacleDetectTrigIsr (s : ObstacleDetect) : ObstacleDetect :=
  let s := { s with trigPin := false }
  if s.state = .trigHigh then { s with state := .waitRise } else s

/-- One handler serves both edges, and tells them apart by the level of the pin. -/
def obstacleDetectEchoIsr (s : ObstacleDetect) (pinHigh : Bool) (nowTick : UInt32) :
    ObstacleDetect :=
  if pinHigh then
    if s.state = .waitRise then { s with riseTick := nowTick, state := .waitFall } else s
  else
    if s.state = .waitFall then
      { s with pulseTicks := nowTick - s.riseTick, pulseReady := true }
    else s

/-! ### Service -/

/-- The pulse is 58 us for each centimetre. -/
def ObstacleDetect.isNear (s : ObstacleDetect) (pulseTicks : UInt32) : Bool :=
  decide (pulseTicks.toNat ≤ obstacleThresholdCm * 58 * s.ticksPerUs.toNat)

/-- What the pulse says, once it is taken. -/
def ObstacleDetect.processed (s : ObstacleDetect) (pulseTicks : UInt32) : ObstacleDetect :=
  { s with
    lastDistanceTicks := pulseTicks
    valid := true
    detected := s.isNear pulseTicks
    state := .idle }

def obstacleDetectProcessPulse (s : ObstacleDetect) : ObstacleDetect :=
  { s with pulseReady := false }.processed s.pulseTicks

def ObstacleDetect.timedOut (s : ObstacleDetect) (nowTick : UInt32) : Bool :=
  decide (s.echoTimeoutTicks < nowTick - s.measureStartTick)

def ObstacleDetect.kickDue (s : ObstacleDetect) (nowTick : UInt32) : Bool :=
  !decide (nowTick - s.lastKickTick < s.measurePeriodTicks)

/-- A measurement that takes too long is given up. -/
def ObstacleDetect.expired (s : ObstacleDetect) (nowTick : UInt32) : ObstacleDetect :=
  if s.state = .trigHigh ∨ s.state = .waitRise ∨ s.state = .waitFall then
    if s.timedOut nowTick then
      { s with
        trigPin := false, valid := false, detected := false, pulseReady := false, state := .idle }
    else s
  else s

/-- The next one starts when it is time. -/
def ObstacleDetect.kicked (s : ObstacleDetect) (nowTick : UInt32) : ObstacleDetect :=
  if s.state ≠ .idle then s
  else if !s.kickDue nowTick then s
  else
    { s with
      lastKickTick := nowTick
      measureStartTick := nowTick
      riseTick := 0
      pulseTicks := 0
      pulseReady := false
      state := .trigHigh
      trigPin := true
      compareTick := nowTick + s.trigPulseTicks }

/-- `ObstacleDetect_Service`, with nothing in between. -/
def obstacleDetectService (s : ObstacleDetect) (nowTick : UInt32) : ObstacleDetect :=
  if !s.initialized then s
  else
    let s := if s.pulseReady then obstacleDetectProcessPulse s else s
    (s.expired nowTick).kicked nowTick

/-- Where the routine goes on, with the local variables that it still needs. -/
inductive ServicePoint where
  | returned
  | checkReady (nowTick : UInt32)
  | takePulse (nowTick : UInt32)
  | clearReady (nowTick pulseTicks : UInt32)
  | processPulse (nowTick pulseTicks : UInt32)
  | checkTrigHigh (nowTick : UInt32)
  | checkWaitRise (nowTick : UInt32)
  | checkWaitFall (nowTick : UInt32)
  | checkTimeout (nowTick : UInt32)
  | dropPulse (nowTick : UInt32)
  | giveUp (nowTick : UInt32)
  | checkIdle (nowTick : UInt32)
  | kickRise (nowTick : UInt32)
  | kickPulse (nowTick : UInt32)
  | kickReady (nowTick : UInt32)
  | kickState (nowTick : UInt32)
  | kickPin (nowTick : UInt32)
deriving DecidableEq, Repr

/-- As far as the next access of what the interrupts share. A routine that has returned is
called again, and reads the timer. -/
def serviceStep (s : ObstacleDetect) (timer : UInt32) :
    ServicePoint → ObstacleDetect × ServicePoint
  | .returned => (s, if s.initialized then .checkReady timer else .returned)
  | .checkReady now => (s, if s.pulseReady then .takePulse now else .checkTrigHigh now)
  | .takePulse now => (s, .clearReady now s.pulseTicks)
  | .clearReady now pulse => ({ s with pulseReady := false }, .processPulse now pulse)
  | .processPulse now pulse => (s.processed pulse, .checkTrigHigh now)
  | .checkTrigHigh now =>
      (s, if s.state = .trigHigh then .checkTimeout now else .checkWaitRise now)
  | .checkWaitRise now =>
      (s, if s.state = .waitRise then .checkTimeout now else .checkWaitFall now)
  | .checkWaitFall now => (s, if s.state = .waitFall then .checkTimeout now else .checkIdle now)
  | .checkTimeout now => (s, if s.timedOut now then .dropPulse now else .checkIdle now)
  | .dropPulse now =>
      ({ s with trigPin := false, valid := false, detected := false, pulseReady := false },
        .giveUp now)
  | .giveUp now => ({ s with state := .idle }, .checkIdle now)
  | .checkIdle now =>
      (s, if s.state ≠ .idle then .returned
        else if s.kickDue now then .kickRise now else .returned)
  | .kickRise now =>
      ({ s with lastKickTick := now, measureStartTick := now, riseTick := 0 }, .kickPulse now)
  | .kickPulse now => ({ s with pulseTicks := 0 }, .kickReady now)
  | .kickReady now => ({ s with pulseReady := false }, .kickState now)
  | .kickState now => ({ s with state := .trigHigh }, .kickPin now)
  | .kickPin now => ({ s with trigPin := true, compareTick := now + s.trigPulseTicks }, .returned)

/-! ### Nothing in between -/

/-- The pieces one after the other. -/
def serviceSteps (timer : UInt32) (n : Nat) (p : ObstacleDetect × ServicePoint) :
    ObstacleDetect × ServicePoint :=
  (fun p => serviceStep p.1 timer p.2)^[n] p

section Uninterrupted

variable (s : ObstacleDetect) (timer now : UInt32)

theorem serviceSteps_add (m n : Nat) (p : ObstacleDetect × ServicePoint) :
    serviceSteps timer (m + n) p = serviceSteps timer m (serviceSteps timer n p) :=
  Function.iterate_add_apply _ m n p

/-- The pulse, if there is one. -/
theorem serviceSteps_pulse : ∃ n, serviceSteps timer n (s, .checkReady now) =
    (if s.pulseReady then obstacleDetectProcessPulse s else s, .checkTrigHigh now) := by
  cases ready : s.pulseReady with
  | true =>
      refine ⟨4, ?_⟩
      simp [serviceSteps, serviceStep, ready, obstacleDetectProcessPulse]
  | false =>
      refine ⟨1, ?_⟩
      simp [serviceSteps, serviceStep, ready]

/-- The timeout. How many pieces it takes depends on the state. -/
theorem serviceSteps_expired : ∃ n, serviceSteps timer n (s, .checkTrigHigh now) =
    (s.expired now, .checkIdle now) := by
  cases state : s.state with
  | idle =>
      refine ⟨3, ?_⟩
      simp [serviceSteps, serviceStep, ObstacleDetect.expired, state]
  | trigHigh =>
      cases late : s.timedOut now with
      | true => exact ⟨4, by simp [serviceSteps, serviceStep, ObstacleDetect.expired, state, late]⟩
      | false => exact ⟨2, by simp [serviceSteps, serviceStep, ObstacleDetect.expired, state, late]⟩
  | waitRise =>
      cases late : s.timedOut now with
      | true => exact ⟨5, by simp [serviceSteps, serviceStep, ObstacleDetect.expired, state, late]⟩
      | false => exact ⟨3, by simp [serviceSteps, serviceStep, ObstacleDetect.expired, state, late]⟩
  | waitFall =>
      cases late : s.timedOut now with
      | true => exact ⟨6, by simp [serviceSteps, serviceStep, ObstacleDetect.expired, state, late]⟩
      | false => exact ⟨4, by simp [serviceSteps, serviceStep, ObstacleDetect.expired, state, late]⟩

theorem serviceSteps_kicked : ∃ n, serviceSteps timer n (s, .checkIdle now) =
    (s.kicked now, .returned) := by
  by_cases idle : s.state = .idle
  · cases due : s.kickDue now with
    | true => exact ⟨6, by simp [serviceSteps, serviceStep, ObstacleDetect.kicked, idle, due]⟩
    | false => exact ⟨1, by simp [serviceSteps, serviceStep, ObstacleDetect.kicked, idle, due]⟩
  · exact ⟨1, by simp [serviceSteps, serviceStep, ObstacleDetect.kicked, idle]⟩

/-- A call that nothing interrupts does what the routine does. -/
theorem serviceSteps_uninterrupted : ∃ n, serviceSteps timer (n + 1) (s, .returned) =
    (obstacleDetectService s timer, .returned) := by
  cases initialized : s.initialized with
  | false =>
      refine ⟨0, ?_⟩
      simp [serviceSteps, serviceStep, obstacleDetectService, initialized]
  | true =>
      obtain ⟨first, pulse⟩ := serviceSteps_pulse s timer timer
      obtain ⟨second, expired⟩ := serviceSteps_expired
        (if s.pulseReady then obstacleDetectProcessPulse s else s) timer timer
      obtain ⟨third, kicked⟩ := serviceSteps_kicked
        ((if s.pulseReady then obstacleDetectProcessPulse s else s).expired timer) timer timer
      refine ⟨third + (second + first), ?_⟩
      have called : serviceSteps timer 1 (s, .returned) = (s, .checkReady timer) := by
        simp [serviceSteps, serviceStep, initialized]
      rw [serviceSteps_add, called, serviceSteps_add, serviceSteps_add, pulse, expired, kicked]
      simp [obstacleDetectService, initialized]

end Uninterrupted

end SmartBusAccess.Door
