import SmartBusAccess.Semantics.Polling
import SmartBusAccess.Semantics.Runs
import SmartBusAccess.Uart.Crc8

/-!
The fire detector of the driver ECU (`fire_detect_module.c`): core 2 asks a DHT11 sensor for the
temperature, measures the pulses of its answer on the line, and latches the alarm.

The line is any function of time, in ticks of STM0, and so is the time that passes from one
access to the next: interrupts are off while the answer is read, so the lag is a bound that does
not depend on them. `sampleDHT11` is `readDHT11` up to its check sum, for which the rest of it is
given what was sampled.

* `sampleDHT11_ends`: whatever the line does, the reading ends in time;
* `sampleDHT11_reads`: it reads what a sensor sends;
* `FireDetect.update_run`: the latch and the list of temperatures, over any run.
-/

namespace SmartBusAccess.Driver

open Polling Runs

/-! ### The hardware -/

/-- The timer does not come around within the longest timeout. -/
structure Dht11Line where
  pace : Pace
  pin : ℕ → Bool
  ticksPerUs : ℕ
  unwrapped : ticksPerUs * 200 + 3 * pace.lag < 4294967296

inductive PinAccess where
  | outputOpenDrain
  | inputPullUp
  | high
  | low
deriving DecidableEq, Repr

namespace Dht11Line

variable (hw : Dht11Line)

/-- `IfxStm_getTicksFromMicroseconds`. -/
def ticksFromMicroseconds (us : ℕ) : ℕ := hw.ticksPerUs * us

/-- `IfxStm_getTicksFromMilliseconds`. -/
def ticksFromMilliseconds (ms : ℕ) : ℕ := hw.ticksFromMicroseconds (1000 * ms)

/-- `STM_MODULE->TIM0.U`. -/
def tim0 : Timed Int UInt32 := hw.pace.access UInt32.ofNat

/-- `IfxStm_waitTicks`. -/
def waitTicks (ticks : ℕ) : Timed Int Unit := fun now => some (.ok (), hw.pace.next (now + ticks))

/-- An access to the pin, with its time. -/
def set (access : PinAccess) : Timed Int (ℕ × PinAccess) := hw.pace.access fun now => (now, access)

/-! ### `readDHT11` -/

/-- The fuel is for a wait that the clock ends. -/
def waitUntilLevel (targetLevel : Bool) (timeoutUs : ℕ) : Timed Int Bool := do
  let start ← hw.tim0
  let timeoutTicks := UInt32.ofNat (hw.ticksFromMicroseconds timeoutUs)
  hw.pace.wait hw.pin targetLevel (fun now => UInt32.ofNat now - start > timeoutTicks)
    (timeoutTicks.toNat + hw.pace.lag + 2)

/-- `if(!waitUntilLevel(targetLevel, timeoutUs)) { ...; return code; }` -/
def requireLevel (targetLevel : Bool) (timeoutUs : ℕ) (code : Int) : Timed Int Unit := do
  let found ← hw.waitUntilLevel targetLevel timeoutUs
  if found then return () else throw code

/-- The call for an answer. -/
def requestFrame : Timed Int (List (ℕ × PinAccess)) := do
  let output ← hw.set .outputOpenDrain
  let idle ← hw.set .high
  hw.waitTicks (hw.ticksFromMilliseconds 1)
  let start ← hw.set .low
  hw.waitTicks (hw.ticksFromMilliseconds 20)
  let release ← hw.set .high
  hw.waitTicks (hw.ticksFromMicroseconds 30)
  let input ← hw.set .inputPullUp
  return [output, idle, start, release, input]

/-- A high level longer than 40 us is a one. -/
def readBit (byte : UInt8) : Timed Int UInt8 := do
  hw.requireLevel true 100 (-10)
  let startTicks ← hw.tim0
  hw.requireLevel false 100 (-11)
  let endTicks ← hw.tim0
  let durationTicks := endTicks - startTicks
  let thresholdTicks := UInt32.ofNat (hw.ticksFromMicroseconds 40)
  let byte := byte <<< 1
  return if durationTicks > thresholdTicks then byte ||| 1 else byte

def readBits : ℕ → UInt8 → Timed Int UInt8
  | 0, byte => return byte
  | n + 1, byte => do
      let byte ← hw.readBit byte
      readBits n byte

def readBytes : (n : ℕ) → Timed Int (Vector UInt8 n)
  | 0 => return #v[]
  | n + 1 => do
      let data ← readBytes n
      let byte ← hw.readBits 8 0
      return data.push byte

/-- With the interrupts off. -/
def sampleFrame : Timed Int (Vector UInt8 5) := do
  hw.requireLevel false 200 (-1)
  hw.requireLevel true 200 (-2)
  hw.requireLevel false 200 (-3)
  hw.readBytes 5

def sampleDHT11 : Timed Int (Vector UInt8 5) := do
  let _ ← hw.requestFrame
  hw.sampleFrame

end Dht11Line

/-! ### The module -/

structure FireDetect where
  gTemp : UInt8
  gHumi : UInt8
  gTempList : Vector UInt8 10
  gTempNum : UInt8
  gIsFireDetected : Bool
  gFireDetectModuleState : Int
deriving DecidableEq, Repr

namespace FireDetect

def boot : FireDetect where
  gTemp := 0
  gHumi := 0
  gTempList := .replicate 10 1
  gTempNum := 0
  gIsFireDetected := false
  gFireDetectModuleState := 0

def store (s : FireDetect) (data : Vector UInt8 5) : FireDetect :=
  let gTempNum := s.gTempNum + 1
  { s with
    gTemp := data[2]
    gHumi := data[0]
    gTempList := s.gTempList.setIfInBounds s.gTempNum.toNat data[2]
    gTempNum := if gTempNum > 9 then 0 else gTempNum }

def checkSum (data : Vector UInt8 5) : UInt8 := data[0] + data[1] + data[2] + data[3]

def readDHT11 (s : FireDetect) : Except Int (Vector UInt8 5) → FireDetect × Int
  | .error code => (s, code)
  | .ok data => if checkSum data != data[4] then (s, -20) else (s.store data, 1)

/-- Before the next one core 2 waits for two seconds. -/
def updateFireDetectModule (s : FireDetect) (sampled : Except Int (Vector UInt8 5)) :
    FireDetect :=
  let (s, state) := s.readDHT11 sampled
  let s := { s with gFireDetectModuleState := state }
  if s.gTemp > 40 then { s with gIsFireDetected := true } else s

def isFireDetected (s : FireDetect) : Bool := s.gIsFireDetected

end FireDetect

/-! ### Every reading ends -/

namespace Dht11Line

theorem elapsed_ticks {start now : ℕ} (since : start ≤ now) (soon : now < start + 4294967296) :
    (UInt32.ofNat now - UInt32.ofNat start).toNat = now - start := by
  rw [UInt32.toNat_sub, UInt32.toNat_ofNat', UInt32.toNat_ofNat']
  omega

section Waiting

variable {hw : Dht11Line} {targetLevel : Bool} {timeoutUs now : ℕ}

theorem ticks_bounded (short : timeoutUs ≤ 200) :
    hw.ticksFromMicroseconds timeoutUs + 3 * hw.pace.lag < 4294967296 := by
  have fits := hw.unwrapped
  have le : hw.ticksPerUs * timeoutUs ≤ hw.ticksPerUs * 200 := Nat.mul_le_mul_left _ short
  unfold ticksFromMicroseconds
  omega

theorem timeoutTicks_toNat (short : timeoutUs ≤ 200) :
    (UInt32.ofNat (hw.ticksFromMicroseconds timeoutUs)).toNat =
      hw.ticksFromMicroseconds timeoutUs := by
  have fits := hw.ticks_bounded short
  rw [UInt32.toNat_ofNat']
  omega

theorem lag_pos : 0 < hw.pace.lag := by
  have later := hw.pace.later 0
  have soon := hw.pace.soon 0
  omega

theorem expired_iff (short : timeoutUs ≤ 200) {t : ℕ} (since : now ≤ t)
    (soon : t < now + 4294967296) :
    decide (UInt32.ofNat t - UInt32.ofNat now >
        UInt32.ofNat (hw.ticksFromMicroseconds timeoutUs)) =
      decide (hw.ticksFromMicroseconds timeoutUs < t - now) := by
  apply decide_eq_decide.mpr
  rw [gt_iff_lt, UInt32.lt_iff_toNat_lt, elapsed_ticks since soon, timeoutTicks_toNat short]

/-- How long a wait takes at most. -/
def waitSpan (timeoutUs : ℕ) : ℕ := hw.ticksFromMicroseconds timeoutUs + 1 + 3 * hw.pace.lag

theorem waitUntilLevel_ends (short : timeoutUs ≤ 200) (now : ℕ) :
    Finishes (hw.waitUntilLevel targetLevel timeoutUs) now fun r after =>
      (∃ found, r = .ok found) ∧ now ≤ after ∧ after ≤ now + hw.waitSpan timeoutUs := by
  have fits := hw.ticks_bounded short
  have first := hw.pace.later now
  have lag := hw.pace.soon now
  apply Finishes.bind (hw.pace.access_finishes (Q := fun r after =>
    r = .ok (UInt32.ofNat now) ∧ after = hw.pace.next now) ⟨rfl, rfl⟩)
  · rintro e after ⟨fails, -⟩
    cases fails
  rintro start begun ⟨started, rfl⟩
  cases started
  have up : ∀ t, now + hw.ticksFromMicroseconds timeoutUs + 1 ≤ t →
      t < now + hw.ticksFromMicroseconds timeoutUs + 1 + 2 * hw.pace.lag →
      decide (UInt32.ofNat t - UInt32.ofNat now >
        UInt32.ofNat (hw.ticksFromMicroseconds timeoutUs)) = true := by
    intro t late soon
    rw [expired_iff short (by omega) (by omega)]
    exact decide_eq_true (by omega)
  apply (Pace.wait_ends (by omega) up ?enough).imp
  case enough =>
    rw [timeoutTicks_toNat short]
    omega
  rintro r after ⟨found, since, soon⟩
  exact ⟨found, by omega, by unfold waitSpan; omega⟩

end Waiting

variable (hw : Dht11Line)

/-- The codes of a reading that fails before the check sum. -/
def sampleErrors : List Int := [-1, -2, -3, -10, -11]

theorem requireLevel_ends {timeoutUs : ℕ} (short : timeoutUs ≤ 200) (targetLevel : Bool)
    {code : Int} (known : code ∈ sampleErrors) :
    EndsWithin (hw.requireLevel targetLevel timeoutUs code) sampleErrors
      (hw.waitSpan timeoutUs) := by
  have waited : EndsWithin (hw.waitUntilLevel targetLevel timeoutUs) sampleErrors
      (hw.waitSpan timeoutUs) := by
    intro now
    apply (hw.waitUntilLevel_ends short now).imp
    rintro r after ⟨⟨found, rfl⟩, since, soon⟩
    refine ⟨fun e fails => ?_, since, soon⟩
    cases fails
  apply (waited.bind (fun found => ?_) : EndsWithin _ _ (hw.waitSpan timeoutUs + 0))
  cases found with
  | true => exact .pure ()
  | false => exact .throw known

/-- How long a bit takes at most. -/
def bitSpan : ℕ := hw.waitSpan 100 + (hw.pace.lag + (hw.waitSpan 100 + hw.pace.lag))

theorem readBit_ends (byte : UInt8) : EndsWithin (hw.readBit byte) sampleErrors hw.bitSpan := by
  apply (hw.requireLevel_ends (by decide) true (by decide)).bind
  intro _
  apply hw.pace.access_endsWithin.bind
  intro startTicks
  apply (hw.requireLevel_ends (by decide) false (by decide)).bind
  intro _
  exact hw.pace.access_endsWithin.bind fun endTicks => .pure _

theorem readBits_ends (n : ℕ) (byte : UInt8) :
    EndsWithin (hw.readBits n byte) sampleErrors (n * hw.bitSpan) := by
  induction n generalizing byte with
  | zero => exact (EndsWithin.pure byte).mono (Nat.zero_le _)
  | succ n ih =>
      apply ((hw.readBit_ends byte).bind fun byte => ih byte).mono
      rw [Nat.succ_mul]
      omega

theorem readBytes_ends (n : ℕ) :
    EndsWithin (hw.readBytes n) sampleErrors (n * (8 * hw.bitSpan)) := by
  induction n with
  | zero => exact (EndsWithin.pure _).mono (Nat.zero_le _)
  | succ n ih =>
      apply (ih.bind fun data => (hw.readBits_ends 8 0).bind fun byte => .pure _).mono
      rw [Nat.add_mul]
      omega

/-- How long the interrupts are off at most. -/
def frameSpan : ℕ := 3 * hw.waitSpan 200 + 40 * hw.bitSpan

theorem sampleFrame_ends : EndsWithin hw.sampleFrame sampleErrors hw.frameSpan := by
  have whole := (hw.requireLevel_ends (Nat.le_refl 200) false (by decide : (-1) ∈ sampleErrors)).bind
    fun _ => (hw.requireLevel_ends (Nat.le_refl 200) true (by decide : (-2) ∈ sampleErrors)).bind
    fun _ => (hw.requireLevel_ends (Nat.le_refl 200) false (by decide : (-3) ∈ sampleErrors)).bind
    fun _ => hw.readBytes_ends 5
  apply whole.mono
  unfold frameSpan
  omega

/-- The line is held low for 20 ms and let go for 30 us. -/
structure Requested (now : ℕ) (accesses : List (ℕ × PinAccess)) (after : ℕ) : Prop where
  calls : ∃ output idle start release input,
    accesses = [(output, .outputOpenDrain), (idle, .high), (start, .low), (release, .high),
      (input, .inputPullUp)] ∧
    start + hw.ticksFromMilliseconds 20 < release ∧
    release + hw.ticksFromMicroseconds 30 < input ∧ input < after
  since : now ≤ after
  soon : after ≤ now + hw.ticksFromMicroseconds 21030 + 8 * hw.pace.lag

theorem requestFrame_finishes (now : ℕ) : Finishes hw.requestFrame now fun r after =>
    ∃ accesses, r = .ok accesses ∧ hw.Requested now accesses after := by
  let idle := hw.pace.next now
  let waits := hw.pace.next idle
  let start := hw.pace.next (waits + hw.ticksFromMilliseconds 1)
  let held := hw.pace.next start
  let release := hw.pace.next (held + hw.ticksFromMilliseconds 20)
  let freed := hw.pace.next release
  let input := hw.pace.next (freed + hw.ticksFromMicroseconds 30)
  refine ⟨.ok [(now, .outputOpenDrain), (idle, .high), (start, .low), (release, .high),
    (input, .inputPullUp)], hw.pace.next input, rfl, _, rfl, ?_⟩
  have total : hw.ticksFromMilliseconds 1 + hw.ticksFromMilliseconds 20 +
      hw.ticksFromMicroseconds 30 = hw.ticksFromMicroseconds 21030 := by
    unfold ticksFromMilliseconds ticksFromMicroseconds
    omega
  have pace : ∀ t, t < hw.pace.next t ∧ hw.pace.next t ≤ t + hw.pace.lag :=
    fun t => ⟨hw.pace.later t, hw.pace.soon t⟩
  have first := pace now
  have second := pace idle
  have third := pace (waits + hw.ticksFromMilliseconds 1)
  have fourth := pace start
  have fifth := pace (held + hw.ticksFromMilliseconds 20)
  have sixth := pace release
  have seventh := pace (freed + hw.ticksFromMicroseconds 30)
  have eighth := pace input
  exact ⟨⟨now, idle, start, release, input, rfl, by omega, by omega, by omega⟩, by omega, by omega⟩

end Dht11Line

namespace FireDetect

theorem readDHT11_cases (s : FireDetect) (sampled : Except Int (Vector UInt8 5)) :
    (∃ data, sampled = .ok data ∧ checkSum data = data[4] ∧
      s.readDHT11 sampled = (s.store data, 1)) ∨
    (∃ code, s.readDHT11 sampled = (s, code) ∧
      (sampled = .error code ∨ code = -20 ∧ ∃ data, sampled = .ok data ∧
        checkSum data ≠ data[4])) := by
  cases sampled with
  | error code => exact .inr ⟨code, rfl, .inl rfl⟩
  | ok data =>
      by_cases checks : checkSum data = data[4]
      · exact .inl ⟨data, rfl, checks, by simp [readDHT11, checks]⟩
      · exact .inr ⟨-20, by simp [readDHT11, checks], .inr ⟨rfl, data, rfl, checks⟩⟩

end FireDetect

/-- Whatever the line does, a reading ends: within 29.7 ms and a few hundred accesses, and with
the interrupts off for no longer than 8.6 ms of them. It returns one of its codes, and changes
nothing unless five bytes have been read whose check sum is right. -/
theorem every_reading_ends (hw : Dht11Line) (s : FireDetect) (now : ℕ) :
    ∃ accesses begin sampled after,
      hw.requestFrame.run.run now = some (.ok accesses, begin) ∧
      hw.sampleFrame.run.run begin = some (sampled, after) ∧
      hw.sampleDHT11.run.run now = some (sampled, after) ∧
      hw.Requested now accesses begin ∧
      after ≤ begin + hw.ticksFromMicroseconds 8600 + 83 + 329 * hw.pace.lag ∧
      (s.readDHT11 sampled).2 ∈ ([1, -1, -2, -3, -10, -11, -20] : List Int) ∧
      ((s.readDHT11 sampled).2 ≠ 1 → (s.readDHT11 sampled).1 = s) ∧
      ((s.readDHT11 sampled).2 = 1 → ∃ data, sampled = .ok data ∧
        FireDetect.checkSum data = data[4] ∧ (s.readDHT11 sampled).1 = s.store data) := by
  obtain ⟨_, begin, asked, accesses, rfl, requested⟩ := hw.requestFrame_finishes now
  obtain ⟨sampled, after, read, known, since, soon⟩ := hw.sampleFrame_ends begin
  refine ⟨accesses, begin, sampled, after, asked, read, ?_, requested, ?_, ?_⟩
  · rw [Dht11Line.sampleDHT11, ExceptT.run_bind, StateT.run_bind, asked]
    exact read
  · have spans : hw.frameSpan = hw.ticksFromMicroseconds 8600 + 83 + 329 * hw.pace.lag := by
      unfold Dht11Line.frameSpan Dht11Line.bitSpan Dht11Line.waitSpan
        Dht11Line.ticksFromMicroseconds
      omega
    omega
  · rcases s.readDHT11_cases sampled with ⟨data, ok, checks, result⟩ | ⟨code, result, cause⟩
    · rw [result]
      exact ⟨List.mem_cons_self, fun other => absurd rfl other, fun _ => ⟨data, ok, checks, rfl⟩⟩
    · have listed : code ∈ ([-1, -2, -3, -10, -11, -20] : List Int) := by
        rcases cause with rfl | ⟨rfl, -⟩
        · have mem := known code rfl
          simp only [Dht11Line.sampleErrors, List.mem_cons, List.not_mem_nil, or_false] at mem ⊢
          omega
        · decide
      have failed : code ≠ 1 := by
        rintro rfl
        revert listed
        decide
      rw [result]
      exact ⟨List.mem_cons_of_mem 1 listed, fun _ => rfl, fun one => absurd one failed⟩

/-! ### A sensor is read -/

/-- A bit of the answer: how long the line is low before it, and how long high for it. -/
structure Pulse where
  bit : Bool
  low : ℕ
  high : ℕ
deriving DecidableEq, Repr

def Pulse.phases (p : Pulse) : List (Bool × ℕ) := [(false, p.low), (true, p.high)]

/-- Long enough to be seen, short enough for the timeouts, and well on its side of 40 us. -/
structure Pulse.Fits (hw : Dht11Line) (p : Pulse) : Prop where
  low : 4 * hw.pace.lag ≤ p.low ∧ p.low + hw.pace.lag ≤ hw.ticksFromMicroseconds 100
  high : 4 * hw.pace.lag ≤ p.high ∧ p.high + hw.pace.lag ≤ hw.ticksFromMicroseconds 100
  zero : p.bit = false → p.high + 3 * hw.pace.lag ≤ hw.ticksFromMicroseconds 40
  one : p.bit = true → hw.ticksFromMicroseconds 40 + 3 * hw.pace.lag ≤ p.high

/-- What the sensor does once it is asked: it answers after a while, with a low and a high level,
the bits, and a last low level. -/
structure SensorAnswer where
  idle : ℕ
  low : ℕ
  high : ℕ
  pulses : List Pulse
  last : ℕ
deriving DecidableEq, Repr

/-- The rest of an answer from the pulses on. -/
def pulsesThen (pulses : List Pulse) (last : ℕ) : List (Bool × ℕ) :=
  pulses.flatMap Pulse.phases ++ [(false, last)]

def SensorAnswer.phases (answer : SensorAnswer) : List (Bool × ℕ) :=
  (true, answer.idle) :: (false, answer.low) :: (true, answer.high) ::
    pulsesThen answer.pulses answer.last

structure SensorAnswer.Fits (hw : Dht11Line) (answer : SensorAnswer) : Prop where
  idle : answer.idle + hw.pace.lag ≤ hw.ticksFromMicroseconds 200
  low : 4 * hw.pace.lag ≤ answer.low ∧ answer.low + hw.pace.lag ≤ hw.ticksFromMicroseconds 200
  high : 4 * hw.pace.lag ≤ answer.high ∧ answer.high + hw.pace.lag ≤ hw.ticksFromMicroseconds 200
  pulses : ∀ p ∈ answer.pulses, p.Fits hw
  last : 4 * hw.pace.lag ≤ answer.last

namespace Dht11Line

section Finding

variable {hw : Dht11Line} {targetLevel : Bool} {timeoutUs now : ℕ}

/-- A level that comes in time, and stays for two lags, is found. -/
theorem requireLevel_finds (edge : ℕ) (short : timeoutUs ≤ 200) (code : Int)
    (begun : now < edge + hw.pace.lag)
    (before : ∀ t, now ≤ t → t < edge → hw.pin t ≠ targetLevel)
    (there : ∀ t, edge ≤ t → t < edge + 2 * hw.pace.lag → hw.pin t = targetLevel)
    (soon : edge + hw.pace.lag ≤ now + hw.ticksFromMicroseconds timeoutUs) :
    Finishes (hw.requireLevel targetLevel timeoutUs code) now fun r after =>
      r = .ok () ∧ edge < after ∧ after < edge + 3 * hw.pace.lag := by
  have fits := hw.ticks_bounded short
  have first := hw.pace.later now
  have lag := hw.pace.soon now
  have time : ∀ t, hw.pace.next now ≤ t → t < edge + hw.pace.lag →
      decide (UInt32.ofNat t - UInt32.ofNat now >
        UInt32.ofNat (hw.ticksFromMicroseconds timeoutUs)) = false := by
    intro t since early
    rw [expired_iff short (by omega) (by omega)]
    exact decide_eq_false (by omega)
  have waited : Finishes (hw.waitUntilLevel targetLevel timeoutUs) now fun r after =>
      r = .ok true ∧ edge < after ∧ after < edge + 3 * hw.pace.lag := by
    apply Finishes.bind (hw.pace.access_finishes (Q := fun r after =>
      r = .ok (UInt32.ofNat now) ∧ after = hw.pace.next now) ⟨rfl, rfl⟩)
    · rintro e after ⟨fails, -⟩
      cases fails
    rintro start begun ⟨started, rfl⟩
    cases started
    apply (Pace.wait_finds (by omega) (fun t since => before t (by omega)) there time ?enough).imp
    case enough =>
      rw [timeoutTicks_toNat short]
      omega
    rintro r after ⟨found, past, -, before⟩
    exact ⟨found, past, before⟩
  refine waited.bind ?_ ?_
  · rintro e after ⟨fails, -⟩
    cases fails
  · rintro found after ⟨same, past, before⟩
    cases same
    exact Finishes.pure () ⟨rfl, past, before⟩

end Finding

/-- Between two bits: the line went low not long ago, and the pulses are still to come. -/
def Awaits (hw : Dht11Line) (pulses : List Pulse) (last now : ℕ) : Prop :=
  ∃ fall, fall < now ∧ now < fall + 4 * hw.pace.lag ∧ Plays hw.pin fall (pulsesThen pulses last)

variable {hw : Dht11Line} {pulses : List Pulse} {last now : ℕ}

/-- The answer goes on with a low level. -/
theorem low_first {fall : ℕ} (plays : Plays hw.pin fall (pulsesThen pulses last))
    (fit : ∀ p ∈ pulses, p.Fits hw) (long : 4 * hw.pace.lag ≤ last) :
    ∀ t, fall ≤ t → t < fall + 4 * hw.pace.lag → hw.pin t = false := by
  intro t since before
  cases pulses with
  | nil => exact plays.1 t since (by omega)
  | cons p rest =>
      have low := (fit p List.mem_cons_self).low.1
      exact plays.1 t since (by omega)

/-- How a bit is shifted in. -/
def shiftIn (byte : UInt8) (bit : Bool) : UInt8 :=
  if bit then byte <<< 1 ||| 1 else byte <<< 1

theorem readBit_reads {p : Pulse} (fits : p.Fits hw) (fit : ∀ q ∈ pulses, q.Fits hw)
    (long : 4 * hw.pace.lag ≤ last) (awaits : Awaits hw (p :: pulses) last now) (byte : UInt8) :
    Finishes (hw.readBit byte) now fun r after =>
      r = .ok (shiftIn byte p.bit) ∧ Awaits hw pulses last after := by
  obtain ⟨fall, since, soon, plays⟩ := awaits
  obtain ⟨low, high, rest⟩ : (∀ t, fall ≤ t → t < fall + p.low → hw.pin t = false) ∧
      (∀ t, fall + p.low ≤ t → t < fall + p.low + p.high → hw.pin t = true) ∧
      Plays hw.pin (fall + p.low + p.high) (pulsesThen pulses last) := plays
  have next := low_first rest fit long
  obtain ⟨lowLong, lowShort⟩ := fits.low
  obtain ⟨highLong, highShort⟩ := fits.high
  have bounded := hw.ticks_bounded (show 100 ≤ 200 by decide)
  have lag := hw.lag_pos
  -- the rising edge is found less than three lags late, and so is the falling one
  refine (hw.requireLevel_finds (fall + p.low) (by decide) (-10) (by omega)
    (fun t since' before => by rw [low t (by omega) before]; decide)
    (fun t since' before => high t since' (by omega)) (by omega)).bind ?_ ?_
  · rintro e after ⟨fails, -⟩
    cases fails
  rintro _ rise ⟨-, rose, riseSoon⟩
  apply Finishes.bind (hw.pace.access_finishes (Q := fun r after =>
    r = .ok (UInt32.ofNat rise) ∧ after = hw.pace.next rise) ⟨rfl, rfl⟩)
  · rintro e after ⟨fails, -⟩
    cases fails
  rintro startTicks measured ⟨started, rfl⟩
  cases started
  have riseNext := hw.pace.later rise
  have riseLag := hw.pace.soon rise
  refine (hw.requireLevel_finds (fall + p.low + p.high) (by decide) (-11) (by omega)
    (fun t since' before => by rw [high t (by omega) before]; decide)
    (fun t since' before => next t since' (by omega)) (by omega)).bind ?_ ?_
  · rintro e after ⟨fails, -⟩
    cases fails
  rintro _ fallen ⟨-, fell, fallSoon⟩
  apply Finishes.bind (hw.pace.access_finishes (Q := fun r after =>
    r = .ok (UInt32.ofNat fallen) ∧ after = hw.pace.next fallen) ⟨rfl, rfl⟩)
  · rintro e after ⟨fails, -⟩
    cases fails
  rintro endTicks done ⟨ended, rfl⟩
  cases ended
  have fallNext := hw.pace.later fallen
  have fallLag := hw.pace.soon fallen
  have duration : UInt32.ofNat fallen - UInt32.ofNat rise >
      UInt32.ofNat (hw.ticksFromMicroseconds 40) ↔ p.bit = true := by
    rw [gt_iff_lt, UInt32.lt_iff_toNat_lt, elapsed_ticks (by omega) (by omega),
      timeoutTicks_toNat (by decide)]
    cases bit : p.bit with
    | false =>
        have zero := fits.zero bit
        simp only [Bool.false_eq_true, iff_false]
        omega
    | true =>
        have one := fits.one bit
        simp only [iff_true]
        omega
  apply Finishes.pure
  refine ⟨?_, fall + p.low + p.high, by omega, by omega, rest⟩
  simp only [duration, shiftIn]

/-- The pulses of a byte, then those of the bytes after it. -/
theorem readBits_reads (long : 4 * hw.pace.lag ≤ last) (first : List Pulse)
    (fitFirst : ∀ q ∈ first, q.Fits hw) (fit : ∀ q ∈ pulses, q.Fits hw)
    (awaits : Awaits hw (first ++ pulses) last now) (byte : UInt8) :
    Finishes (hw.readBits first.length byte) now fun r after =>
      r = .ok ((first.map Pulse.bit).foldl shiftIn byte) ∧ Awaits hw pulses last after := by
  induction first generalizing now byte with
  | nil => exact Finishes.pure byte ⟨rfl, awaits⟩
  | cons p rest ih =>
      have fitRest : ∀ q ∈ rest ++ pulses, q.Fits hw := by
        intro q mem
        rcases List.mem_append.mp mem with inRest | later
        · exact fitFirst q (List.mem_cons_of_mem p inRest)
        · exact fit q later
      refine (readBit_reads (fitFirst p List.mem_cons_self) fitRest long awaits byte).bind ?_ ?_
      · rintro e after ⟨fails, -⟩
        cases fails
      · rintro shifted after ⟨same, still⟩
        cases same
        exact ih (fun q mem => fitFirst q (List.mem_cons_of_mem p mem)) still _

theorem shiftIn_toBitVec (byte : UInt8) (bit : Bool) :
    (shiftIn byte bit).toBitVec = byte.toBitVec.shiftConcat bit := by
  apply BitVec.eq_of_getLsbD_eq
  intro i bound
  cases bit with
  | false =>
      simp [shiftIn, BitVec.getLsbD_shiftConcat]
      grind
  | true =>
      simp [shiftIn, BitVec.getLsbD_shiftConcat, BitVec.getLsbD_one]
      grind

/-- A byte is what is shifted in with its bits. -/
theorem shiftIn_bits (byte : UInt8) : (Uart.bits byte).foldl shiftIn 0 = byte := by
  apply UInt8.toBitVec_inj.mp
  simp only [Uart.bits, List.map, List.foldl, shiftIn_toBitVec]
  apply BitVec.eq_of_getLsbD_eq
  intro i bound
  simp [BitVec.getLsbD_shiftConcat]
  rcases i with _ | _ | _ | _ | _ | _ | _ | _ | i <;> simp at bound ⊢

theorem readBytes_reads (long : 4 * hw.pace.lag ≤ last) {n : ℕ} (data : Vector UInt8 n)
    (first : List Pulse) (sent : first.map Pulse.bit = data.toList.flatMap Uart.bits)
    (fitFirst : ∀ q ∈ first, q.Fits hw) (fit : ∀ q ∈ pulses, q.Fits hw)
    (awaits : Awaits hw (first ++ pulses) last now) :
    Finishes (hw.readBytes n) now fun r after => r = .ok data ∧ Awaits hw pulses last after := by
  induction n generalizing first pulses with
  | zero =>
      have none : first = [] := by
        have empty : data.toList = [] := by simp
        rw [empty] at sent
        simpa using sent
      subst none
      apply Finishes.pure
      exact ⟨congrArg Except.ok Vector.eq_empty.symm, awaits⟩
  | succ n ih =>
      obtain ⟨init, byte, rfl⟩ : ∃ init byte, data = Vector.push init byte :=
        ⟨data.pop, data.back, (Vector.push_pop_back data).symm⟩
      have split : first.map Pulse.bit = init.toList.flatMap Uart.bits ++ Uart.bits byte := by
        rw [sent, Vector.toList_push, List.flatMap_append]
        simp
      obtain ⟨front, back, rfl, frontBits, backBits⟩ := List.map_eq_append_iff.mp split
      have length : back.length = 8 := by
        have same := congrArg List.length backBits
        simpa [Uart.bits] using same
      have fitBack : ∀ q ∈ back, q.Fits hw := fun q mem =>
        fitFirst q (List.mem_append_right front mem)
      have fitRest : ∀ q ∈ back ++ pulses, q.Fits hw := by
        intro q mem
        rcases List.mem_append.mp mem with inBack | later
        · exact fitBack q inBack
        · exact fit q later
      rw [List.append_assoc] at awaits
      refine (ih init front frontBits (fun q mem => fitFirst q (List.mem_append_left back mem))
        fitRest awaits).bind ?_ ?_
      · rintro e after ⟨fails, -⟩
        cases fails
      rintro read after ⟨same, still⟩
      cases same
      have last := readBits_reads long back fitBack fit still 0
      rw [length, backBits, shiftIn_bits] at last
      refine last.bind ?_ ?_
      · rintro e after ⟨fails, -⟩
        cases fails
      · rintro read after ⟨same, still⟩
        cases same
        exact Finishes.pure _ ⟨rfl, still⟩

/-- What the sensor sends is what is sampled. -/
theorem sampleFrame_reads {answer : SensorAnswer} (fits : answer.Fits hw) (data : Vector UInt8 5)
    (sent : answer.pulses.map Pulse.bit = data.toList.flatMap Uart.bits)
    (plays : Plays hw.pin now answer.phases) :
    Finishes hw.sampleFrame now fun r _ => r = .ok data := by
  obtain ⟨idle, low, high, rest⟩ : (∀ t, now ≤ t → t < now + answer.idle → hw.pin t = true) ∧
      (∀ t, now + answer.idle ≤ t → t < now + answer.idle + answer.low → hw.pin t = false) ∧
      (∀ t, now + answer.idle + answer.low ≤ t →
        t < now + answer.idle + answer.low + answer.high → hw.pin t = true) ∧
      Plays hw.pin (now + answer.idle + answer.low + answer.high)
        (pulsesThen answer.pulses answer.last) := plays
  have next := low_first rest fits.pulses fits.last
  have lag := hw.lag_pos
  have idleShort := fits.idle
  obtain ⟨lowLong, lowShort⟩ := fits.low
  obtain ⟨highLong, highShort⟩ := fits.high
  refine (hw.requireLevel_finds (now + answer.idle) (Nat.le_refl 200) (-1) (by omega)
    (fun t since before => by rw [idle t (by omega) before]; decide)
    (fun t since before => low t since (by omega)) (by omega)).bind ?_ ?_
  · rintro e after ⟨fails, -⟩
    cases fails
  rintro _ answered ⟨-, fell, soon⟩
  refine (hw.requireLevel_finds (now + answer.idle + answer.low) (Nat.le_refl 200) (-2)
    (by omega) (fun t since before => by rw [low t (by omega) before]; decide)
    (fun t since before => high t since (by omega)) (by omega)).bind ?_ ?_
  · rintro e after ⟨fails, -⟩
    cases fails
  rintro _ ready ⟨-, rose, soon'⟩
  refine (hw.requireLevel_finds (now + answer.idle + answer.low + answer.high)
    (Nat.le_refl 200) (-3) (by omega) (fun t since before => by rw [high t (by omega) before]; decide)
    (fun t since before => next t since (by omega)) (by omega)).bind ?_ ?_
  · rintro e after ⟨fails, -⟩
    cases fails
  rintro _ begins ⟨-, fell', soon''⟩
  have awaits : Awaits hw (answer.pulses ++ []) answer.last begins := by
    rw [List.append_nil]
    exact ⟨_, fell', by omega, rest⟩
  apply (readBytes_reads fits.last data answer.pulses sent fits.pulses (by simp) awaits).imp
  rintro r after ⟨read, -⟩
  exact read

end Dht11Line

/-- A sensor that answers with five bytes is read, on any line and from any time on: the byte
order, the bit order and the threshold are the right ones. -/
theorem sampleDHT11_reads (hw : Dht11Line) (now : ℕ) {accesses : List (ℕ × PinAccess)} {begin : ℕ}
    (asked : hw.requestFrame.run.run now = some (.ok accesses, begin)) {answer : SensorAnswer}
    (fits : answer.Fits hw) (data : Vector UInt8 5)
    (sent : answer.pulses.map Pulse.bit = data.toList.flatMap Uart.bits)
    (plays : Plays hw.pin begin answer.phases) :
    ∃ after, hw.sampleDHT11.run.run now = some (.ok data, after) := by
  obtain ⟨_, after, read, rfl⟩ := Dht11Line.sampleFrame_reads fits data sent plays
  refine ⟨after, ?_⟩
  rw [Dht11Line.sampleDHT11, ExceptT.run_bind, StateT.run_bind, asked]
  exact read

/-- The pulses of some bytes, with the times of the sensor's data sheet at 100 ticks in a
microsecond. -/
def typicalPulses (data : List UInt8) : List Pulse :=
  (data.flatMap Uart.bits).map fun bit => ⟨bit, 5000, if bit then 7000 else 2700⟩

def typicalAnswer (data : List UInt8) : SensorAnswer := ⟨3000, 8000, 8000, typicalPulses data, 5000⟩

/-- A line on which such a sensor answers at `begin`, read with an access every microsecond. -/
def typicalLine (data : List UInt8) (begin : ℕ) : Dht11Line where
  pace := ⟨(· + 100), 100, fun t => by omega, fun t => by omega⟩
  pin t := if t < begin then true else wave (typicalAnswer data).phases (t - begin)
  ticksPerUs := 100
  unwrapped := by decide

theorem typicalAnswer_fits (data : List UInt8) (begin : ℕ) :
    (typicalAnswer data).Fits (typicalLine data begin) where
  idle := by simp [typicalAnswer, typicalLine, Dht11Line.ticksFromMicroseconds]
  low := by simp [typicalAnswer, typicalLine, Dht11Line.ticksFromMicroseconds]
  high := by simp [typicalAnswer, typicalLine, Dht11Line.ticksFromMicroseconds]
  pulses p mem := by
    obtain ⟨bit, -, rfl⟩ := List.mem_map.mp mem
    constructor
    · simp [typicalLine, Dht11Line.ticksFromMicroseconds]
    · cases bit <;> simp [typicalLine, Dht11Line.ticksFromMicroseconds]
    · rintro rfl
      simp [typicalLine, Dht11Line.ticksFromMicroseconds]
    · rintro rfl
      simp [typicalLine, Dht11Line.ticksFromMicroseconds]
  last := by simp [typicalAnswer, typicalLine]

/-- 55 percent and 24 degrees. -/
theorem sampleDHT11_reads_typical : ∃ after,
    (typicalLine [55, 0, 24, 0, 79] 2103800).sampleDHT11.run.run 0 =
      some (.ok #v[55, 0, 24, 0, 79], after) := by
  have asked : (typicalLine [55, 0, 24, 0, 79] 2103800).requestFrame.run.run 0 =
      some (.ok [(0, .outputOpenDrain), (100, .high), (100300, .low), (2100500, .high),
        (2103700, .inputPullUp)], 2103800) := rfl
  apply sampleDHT11_reads _ 0 asked (typicalAnswer_fits [55, 0, 24, 0, 79] 2103800)
  · simp [typicalAnswer, typicalPulses, Function.comp_def]
  · apply plays_wave
    intro t since
    exact if_neg (Nat.not_lt.mpr since)

/-! ### Runs -/

namespace FireDetect

/-- The bytes of a reading whose check sum is right. -/
def reading : Except Int (Vector UInt8 5) → Option (Vector UInt8 5)
  | .ok data => if checkSum data = data[4] then some data else none
  | .error _ => none

/-- Above 40 degrees. -/
def hot (data : Vector UInt8 5) : Bool := data[2] > 40

/-- What the module holds after some readings. The list of temperatures is a ring. -/
structure Recorded (s : FireDetect) (readings : List (Vector UInt8 5)) : Prop where
  latch : s.gIsFireDetected = readings.any hot
  temp : s.gTemp = ((readings.getLast?).map (·[2])).getD 0
  humi : s.gHumi = ((readings.getLast?).map (·[0])).getD 0
  index : s.gTempNum.toNat = readings.length % 10
  ring : ∀ k, k < readings.length → readings.length ≤ k + 10 →
    s.gTempList[k % 10]? = (readings[k]?).map (·[2])
  fresh : ∀ k, readings.length ≤ k → k < 10 → s.gTempList[k]? = some 1

variable {s : FireDetect} {readings : List (Vector UInt8 5)}

theorem boot_recorded : boot.Recorded [] where
  latch := rfl
  temp := rfl
  humi := rfl
  index := rfl
  ring k before _ := absurd before (Nat.not_lt_zero k)
  fresh k _ bound := by simp [boot, bound]

/-- The next index, which stays within the list. -/
theorem nextIndex {n : UInt8} {length : ℕ} (index : n.toNat = length % 10) :
    (if n + 1 > 9 then (0 : UInt8) else n + 1).toNat = (length + 1) % 10 := by
  have next : (n + 1).toNat = n.toNat + 1 := by
    rw [UInt8.toNat_add]
    simp only [UInt8.toNat_one]
    omega
  by_cases last : n + 1 > 9
  · rw [if_pos last]
    rw [gt_iff_lt, UInt8.lt_iff_toNat_lt, next] at last
    have nine : (9 : UInt8).toNat = 9 := rfl
    have zero : (0 : UInt8).toNat = 0 := rfl
    omega
  · rw [if_neg last, next]
    rw [gt_iff_lt, UInt8.lt_iff_toNat_lt, next] at last
    have nine : (9 : UInt8).toNat = 9 := rfl
    omega

theorem Recorded.store (recorded : s.Recorded readings) (data : Vector UInt8 5) :
    ({ s.store data with
        gIsFireDetected := s.gIsFireDetected || hot data }).Recorded
      (readings ++ [data]) where
  latch := by rw [List.any_append, ← recorded.latch]; simp
  temp := by simp [FireDetect.store]
  humi := by simp [FireDetect.store]
  index := by
    rw [List.length_append]
    exact nextIndex recorded.index
  ring := by
    intro k before recent
    rw [List.length_append, List.length_singleton] at before recent
    simp only [FireDetect.store, recorded.index, Vector.getElem?_setIfInBounds]
    by_cases this : k = readings.length
    · subst this
      simp [Nat.mod_lt]
    · have other : readings.length % 10 ≠ k % 10 := by omega
      rw [if_neg other, recorded.ring k (by omega) (by omega),
        List.getElem?_append_left (by omega)]
  fresh := by
    intro k past bound
    rw [List.length_append, List.length_singleton] at past
    have other : readings.length % 10 ≠ k := by omega
    simp only [FireDetect.store, recorded.index, Vector.getElem?_setIfInBounds]
    rw [if_neg other]
    exact recorded.fresh k (by omega) bound

/-- The fields that a reading does not write are no part of it. -/
theorem Recorded.state (recorded : s.Recorded readings) (state : Int) :
    ({ s with gFireDetectModuleState := state }).Recorded readings :=
  ⟨recorded.latch, recorded.temp, recorded.humi, recorded.index, recorded.ring, recorded.fresh⟩

/-- After a reading that failed the latch is looked at again, with the old temperature. -/
theorem Recorded.latched (recorded : s.Recorded readings) (hot : s.gTemp > 40) :
    s.gIsFireDetected = true := by
  rw [recorded.latch]
  rw [recorded.temp] at hot
  cases last : readings.getLast? with
  | none =>
      rw [last] at hot
      have cold : ¬ (0 : UInt8) > 40 := by decide
      exact absurd hot cold
  | some data =>
      rw [last] at hot
      exact List.any_eq_true.mpr ⟨data, List.mem_of_getLast? last, decide_eq_true hot⟩

theorem Recorded.update (recorded : s.Recorded readings) (sampled : Except Int (Vector UInt8 5)) :
    (s.updateFireDetectModule sampled).Recorded (readings ++ (reading sampled).toList) := by
  rcases s.readDHT11_cases sampled with ⟨data, rfl, checks, result⟩ | ⟨code, result, cause⟩
  · have stored := (recorded.store data).state 1
    have taken : reading (.ok data) = some data := if_pos checks
    rw [updateFireDetectModule, result, taken]
    by_cases hot : data[2] > 40
    · simpa [FireDetect.store, FireDetect.hot, hot] using stored
    · simpa [FireDetect.store, FireDetect.hot, hot] using stored
  · have none : reading sampled = none := by
      rcases cause with rfl | ⟨-, data, rfl, wrong⟩
      · rfl
      · exact if_neg wrong
    rw [updateFireDetectModule, result, none, Option.toList_none, List.append_nil]
    dsimp only
    split
    · rename_i hot
      have same : ({ s with gIsFireDetected := true }) = s := by rw [← recorded.latched hot]
      have kept := recorded.state code
      rw [← same] at kept
      exact kept
    · exact recorded.state code

theorem Recorded.run (recorded : s.Recorded readings)
    (samples : List (Except Int (Vector UInt8 5))) :
    (Runs.run updateFireDetectModule s samples).Recorded
      (readings ++ samples.filterMap reading) := by
  induction samples generalizing s readings with
  | nil => simpa using recorded
  | cons sampled rest ih =>
      have later := ih (recorded.update sampled)
      rw [List.append_assoc] at later
      rw [run_cons]
      cases taken : reading sampled with
      | none =>
          rw [List.filterMap_cons_none taken]
          simpa [taken] using later
      | some data =>
          rw [List.filterMap_cons_some taken]
          simpa [taken] using later

/-- Over any run, whatever is read: the alarm is on once a temperature above 40 degrees has been
read with a right check sum, and stays on; the list holds the last ten temperatures, and is
written within its bounds. -/
theorem readings_recorded (samples : List (Except Int (Vector UInt8 5))) :
    (Runs.run updateFireDetectModule boot samples).Recorded (samples.filterMap reading) :=
  boot_recorded.run samples

end FireDetect

end SmartBusAccess.Driver
