import SmartBusAccess.Semantics.Deadline
import SmartBusAccess.Semantics.Runs
import SmartBusAccess.Uart.SlopeGlue

/-!
When the slope glue sends a frame again, in real time.

Real time is a count of timer ticks without bound, of which the timer shows the low 32 bits.
The glue divides these by the ticks in a millisecond, and the sender takes differences of the
quotients modulo 2^32. These are right unless the timer has wrapped since the frame went out
(`retry_timing_iff`).
-/

namespace SmartBusAccess.Uart

open Deadline

/-! ### Runs in real time -/

/-- The glue, the time, and when it last wrote a frame. -/
structure SlopeClocked where
  glue : SlopeUartTc375
  now : Nat
  emitted : Nat
deriving DecidableEq, Repr

/-- A poll reads the timer `wait` ticks after the last thing that happened, and again `between`
ticks later. -/
inductive SlopeClockedAction where
  | requestNone
  | requestOpen
  | requestClose
  | consumeTxSuccess
  | txPoll (rx : List UInt8) (wait between : Nat)

namespace SlopeClocked

/-- `slopeUartTc375TxPoll` at the given times. -/
def txPoll (s : SlopeClocked) (rx : List UInt8) (wait between : Nat) :
    SlopeUartTc375 × TxReport :=
  slopeUartTc375TxPoll s.glue rx (UInt32.ofNat (s.now + wait))
    (UInt32.ofNat (s.now + wait + between))

/-- When the last frame of a poll was written. -/
def emission (s : SlopeClocked) (report : TxReport) (wait between : Nat) : Nat :=
  match report.started, report.retry with
  | some _, _ => s.now + wait + between
  | none, .resend _ => s.now + wait
  | none, _ => s.emitted

def next (s : SlopeClocked) : SlopeClockedAction → SlopeClocked
  | .requestNone => { s with glue := slopeUartTc375RequestNone s.glue }
  | .requestOpen => { s with glue := slopeUartTc375RequestOpen s.glue }
  | .requestClose => { s with glue := slopeUartTc375RequestClose s.glue }
  | .consumeTxSuccess =>
      { s with glue := ((slopeUartTc375ConsumeTxSuccess s.glue).map Prod.fst).getD s.glue }
  | .txPoll rx wait between =>
      let (glue, report) := s.txPoll rx wait between
      ⟨glue, s.now + wait + between, s.emission report wait between⟩

/-- After initialisation at any time. -/
def start (g : SlopeUartTc375) (stmTicksPerMs : UInt32) (now : Nat) : SlopeClocked :=
  ⟨slopeUartTc375TxInit g stmTicksPerMs, now, now⟩

/-- The ticks that are less than a millisecond short of the timeout. -/
def shortOfTimeout (s : SlopeClocked) : Nat :=
  (s.glue.sender.ackTimeoutMs.toNat - 1) * s.glue.ticksPerMs.toNat

/-- The poll resends or gives up a frame, a millisecond or more too early. -/
def RetriesEarly (s : SlopeClocked) : SlopeClockedAction → Prop
  | .txPoll rx wait between =>
      (s.txPoll rx wait between).2.retry ≠ .none ∧ s.now + wait - s.emitted ≤ s.shortOfTimeout
  | _ => False

/-- The poll finds a frame still waiting that soon, and the milliseconds have wrapped since the
frame was written. -/
def WrapsEarly (s : SlopeClocked) : SlopeClockedAction → Prop
  | .txPoll rx wait _ =>
      (slopeUartTc375ProcessRx s.glue rx).sender.waitingAck = true ∧
        1 < s.glue.ticksPerMs ∧
        slopeUartTc375GetTickMs s.glue (UInt32.ofNat (s.now + wait)) <
          slopeUartTc375GetTickMs s.glue (UInt32.ofNat s.emitted) ∧
        s.now + wait - s.emitted ≤ s.shortOfTimeout
  | _ => False

/-- What initialisation and every action keep: the sender remembers when it last wrote a frame
that waits. -/
structure Timed (s : SlopeClocked) : Prop where
  initialized : s.glue.initialized = true
  unit : 0 < s.glue.ticksPerMs
  timeout : s.glue.sender.ackTimeoutMs = defaultAckTimeoutMs
  past : s.emitted ≤ s.now
  remembered : s.glue.sender.waitingAck = true →
    s.glue.sender.lastTxMs = slopeUartTc375GetTickMs s.glue (UInt32.ofNat s.emitted)

theorem start_timed (g : SlopeUartTc375) (stmTicksPerMs : UInt32) (now : Nat) :
    (start g stmTicksPerMs now).Timed where
  initialized := rfl
  unit := by
    simp only [start, slopeUartTc375TxInit]
    split
    · decide
    · rename_i other
      have ne : stmTicksPerMs ≠ 0 := by simpa using other
      rw [UInt32.lt_iff_toNat_lt]
      exact Nat.pos_of_ne_zero fun zero => ne (UInt32.toNat_inj.mp zero)
  timeout := rfl
  past := Nat.le_refl now
  remembered := nofun

end SlopeClocked

/-! ### The parts of a poll -/

namespace SlopeUartTc375

/-- What reading bytes leaves as it is. -/
theorem processRx_timed (g : SlopeUartTc375) (rx : List UInt8) :
    (slopeUartTc375ProcessRx g rx).initialized = g.initialized ∧
      (slopeUartTc375ProcessRx g rx).ticksPerMs = g.ticksPerMs ∧
      (slopeUartTc375ProcessRx g rx).sender.ackTimeoutMs = g.sender.ackTimeoutMs ∧
      (slopeUartTc375ProcessRx g rx).sender.lastTxMs = g.sender.lastTxMs ∧
      ((slopeUartTc375ProcessRx g rx).sender.waitingAck = true → g.sender.waitingAck = true) := by
  rcases processRx_cases g rx with ⟨parser, same | ⟨busy, acked⟩⟩
  · rw [same]
    exact ⟨rfl, rfl, rfl, rfl, id⟩
  · rw [acked]
    exact ⟨rfl, rfl, rfl, rfl, fun _ => busy⟩

/-- The retry part. -/
structure Retried (g : SlopeUartTc375) (nowMs : UInt32) (g' : SlopeUartTc375)
    (retry : SenderPollResult) : Prop where
  initialized : g'.initialized = g.initialized
  ticksPerMs : g'.ticksPerMs = g.ticksPerMs
  timeout : g'.sender.ackTimeoutMs = g.sender.ackTimeoutMs
  busy : g'.sender.waitingAck = true → g.sender.waitingAck = true
  kept : (∀ frame, retry ≠ .resend frame) → g'.sender.lastTxMs = g.sender.lastTxMs
  resent : ∀ frame, retry = .resend frame → g'.sender.lastTxMs = nowMs
  fires : retry ≠ .none ↔ g.sender.waitingAck = true ∧
    g.sender.ackTimeoutMs ≤ nowMs - g.sender.lastTxMs

theorem pollRetry_retried (g : SlopeUartTc375) (ticks : UInt32) :
    Retried g (slopeUartTc375GetTickMs g ticks) (slopeUartTc375PollRetry g ticks).1
      (slopeUartTc375PollRetry g ticks).2 := by
  generalize now : slopeUartTc375GetTickMs g ticks = nowMs
  simp only [slopeUartTc375PollRetry, now, slopeUartSenderPoll]
  rcases senderPoll_due g.sender nowMs with
      ⟨early, poll⟩ | ⟨busy, late, ⟨again, poll⟩ | ⟨again, poll⟩⟩
  · rw [poll]
    constructor <;> simp
    exact fun busy => UInt32.not_le.mp (early busy)
  · rw [poll]
    constructor <;> simp [busy, late]
  · rw [poll]
    constructor <;> simp [busy, late]

/-- When a frame that waits after a poll was written: by its sending part, by its retry part, or
before. -/
inductive WrittenAt (g : SlopeUartTc375) (retryMs sendMs : UInt32) (report : TxReport) :
    UInt32 → Prop where
  | started {frame} : report.started = some frame → WrittenAt g retryMs sendMs report sendMs
  | resent {frame} : report.started = none → report.retry = .resend frame →
      WrittenAt g retryMs sendMs report retryMs
  | before : report.started = none → (∀ frame, report.retry ≠ .resend frame) →
      g.sender.waitingAck = true → WrittenAt g retryMs sendMs report g.sender.lastTxMs

theorem txPoll_timed {g : SlopeUartTc375} (ready : g.initialized = true) (rx : List UInt8)
    (retryTicks sendTicks : UInt32) :
    let out := slopeUartTc375TxPoll g rx retryTicks sendTicks
    out.1.initialized = true ∧ out.1.ticksPerMs = g.ticksPerMs ∧
      out.1.sender.ackTimeoutMs = g.sender.ackTimeoutMs ∧
      (out.2.retry ≠ .none ↔ (slopeUartTc375ProcessRx g rx).sender.waitingAck = true ∧
        g.sender.ackTimeoutMs ≤ slopeUartTc375GetTickMs g retryTicks - g.sender.lastTxMs) ∧
      (out.1.sender.waitingAck = true →
        WrittenAt g (slopeUartTc375GetTickMs g retryTicks) (slopeUartTc375GetTickMs g sendTicks)
          out.2 out.1.sender.lastTxMs) := by
  obtain ⟨initialized, unit, timeout, last, waited⟩ := processRx_timed g rx
  have retried := pollRetry_retried (slopeUartTc375ProcessRx g rx) retryTicks
  have ticks (ticks : UInt32) : slopeUartTc375GetTickMs (slopeUartTc375ProcessRx g rx) ticks =
      slopeUartTc375GetTickMs g ticks := by
    simp only [slopeUartTc375GetTickMs, unit]
  rw [ticks] at retried
  simp only [slopeUartTc375TxPoll, ready, Bool.not_true, Bool.false_eq_true, if_false]
  generalize slopeUartTc375PollRetry (slopeUartTc375ProcessRx g rx) retryTicks = out at retried
  obtain ⟨g', retry⟩ := out
  have fires := retried.fires
  rw [timeout, last] at fires
  have sendMs : slopeUartTc375GetTickMs g' sendTicks = slopeUartTc375GetTickMs g sendTicks := by
    simp only [slopeUartTc375GetTickMs]
    rw [retried.ticksPerMs, unit]
  rcases trySendDesired_cases g' sendTicks with quiet | ⟨sender, frame, start, sent⟩
  · rw [quiet]
    refine ⟨retried.initialized.trans (initialized.trans ready), retried.ticksPerMs.trans unit,
      retried.timeout.trans timeout, fires, ?_⟩
    intro busy
    cases retry with
    | none =>
        rw [retried.kept (by simp), last]
        exact .before rfl (by simp) (waited (retried.busy busy))
    | resend frame =>
        rw [retried.resent frame rfl]
        exact .resent rfl rfl
    | giveUp =>
        rw [retried.kept (by simp), last]
        exact .before rfl (by simp) (waited (retried.busy busy))
  · obtain ⟨-, -, -, rfl⟩ := senderStart_cases start
    rw [sent]
    refine ⟨retried.initialized.trans (initialized.trans ready), retried.ticksPerMs.trans unit,
      retried.timeout.trans timeout, fires, ?_⟩
    intro _
    rw [← sendMs]
    exact .started rfl

end SlopeUartTc375

/-! ### Every run -/

namespace SlopeClocked

variable {s : SlopeClocked}

/-- The milliseconds that the sender remembers are those of the emission. -/
theorem clocked_emission {report : TxReport} {wait between : Nat} {lastTxMs : UInt32}
    (written : SlopeUartTc375.WrittenAt s.glue
      (slopeUartTc375GetTickMs s.glue (UInt32.ofNat (s.now + wait)))
      (slopeUartTc375GetTickMs s.glue (UInt32.ofNat (s.now + wait + between))) report lastTxMs)
    (remembered : s.glue.sender.waitingAck = true →
      s.glue.sender.lastTxMs = slopeUartTc375GetTickMs s.glue (UInt32.ofNat s.emitted)) :
    lastTxMs =
      slopeUartTc375GetTickMs s.glue (UInt32.ofNat (s.emission report wait between)) := by
  cases written with
  | started start => simp only [emission, start]
  | resent idle again => simp only [emission, idle, again]
  | before idle quiet busy =>
      rw [remembered busy]
      cases retry : report.retry with
      | none => simp only [emission, idle, retry]
      | resend frame => exact absurd retry (quiet frame)
      | giveUp => simp only [emission, idle, retry]

theorem Timed.next (timed : s.Timed) (action : SlopeClockedAction) : (s.next action).Timed := by
  cases action with
  | requestNone => exact { timed with }
  | requestOpen => exact { timed with }
  | requestClose => exact { timed with }
  | consumeTxSuccess =>
      simp only [SlopeClocked.next, slopeUartTc375ConsumeTxSuccess]
      split
      · exact timed
      · exact { timed with }
  | txPoll rx wait between =>
      obtain ⟨initialized, unit, timeout, -, written⟩ := SlopeUartTc375.txPoll_timed
        timed.initialized rx (UInt32.ofNat (s.now + wait)) (UInt32.ofNat (s.now + wait + between))
      have past := timed.past
      refine ⟨initialized, ?_, ?_, ?_, ?_⟩
      · change 0 < (s.txPoll rx wait between).1.ticksPerMs
        rw [show (s.txPoll rx wait between).1.ticksPerMs = s.glue.ticksPerMs from unit]
        exact timed.unit
      · exact timeout.trans timed.timeout
      · change s.emission _ wait between ≤ s.now + wait + between
        simp only [emission]
        split <;> omega
      · intro busy
        have ticks (t : Nat) : slopeUartTc375GetTickMs (s.txPoll rx wait between).1
            (UInt32.ofNat t) = slopeUartTc375GetTickMs s.glue (UInt32.ofNat t) := by
          simp only [slopeUartTc375GetTickMs, SlopeClocked.txPoll, unit]
        change (s.txPoll rx wait between).1.sender.lastTxMs =
          slopeUartTc375GetTickMs (s.txPoll rx wait between).1 (UInt32.ofNat
            (s.emission (s.txPoll rx wait between).2 wait between))
        rw [ticks]
        exact clocked_emission (written busy) timed.remembered

/-- A poll is early exactly when the milliseconds have wrapped. -/
theorem Timed.early_iff (timed : s.Timed) (action : SlopeClockedAction) :
    ¬ s.RetriesEarly action ↔ ¬ s.WrapsEarly action := by
  cases action with
  | txPoll rx wait between =>
      obtain ⟨-, -, -, fires, -⟩ := SlopeUartTc375.txPoll_timed timed.initialized rx
        (UInt32.ofNat (s.now + wait)) (UInt32.ofNat (s.now + wait + between))
      obtain ⟨-, -, -, -, waited⟩ := SlopeUartTc375.processRx_timed s.glue rx
      have positive : 0 < s.glue.sender.ackTimeoutMs := by rw [timed.timeout]; decide
      have small : s.glue.sender.ackTimeoutMs.toNat ≤ 2147483648 := by rw [timed.timeout]; decide
      have deadline := Deadline.early_iff (timed.past.trans (Nat.le_add_right s.now wait))
        timed.unit positive small
      refine not_congr ⟨?_, ?_⟩
      · rintro ⟨fired, soon⟩
        obtain ⟨busy, passed⟩ := fires.mp fired
        rw [timed.remembered (waited busy)] at passed
        exact ⟨busy, deadline.mp ⟨passed, soon⟩⟩
      · rintro ⟨busy, wrapped⟩
        obtain ⟨passed, soon⟩ := deadline.mpr wrapped
        refine ⟨fires.mpr ⟨busy, ?_⟩, soon⟩
        rw [timed.remembered (waited busy)]
        exact passed
  | _ => exact Iff.rfl

/-- In every run, from initialisation at any time and with any number of ticks in a
millisecond: no poll resends or gives up a frame a millisecond or more too early if and only if
none finds one that soon after its emission with the milliseconds wrapped in between. -/
theorem retry_timing_iff (g : SlopeUartTc375) (stmTicksPerMs : UInt32) (now : Nat)
    (actions : List SlopeClockedAction) :
    (∀ p ∈ Runs.steps SlopeClocked.next (start g stmTicksPerMs now) actions,
        ¬ p.1.RetriesEarly p.2) ↔
      ∀ p ∈ Runs.steps SlopeClocked.next (start g stmTicksPerMs now) actions,
        ¬ p.1.WrapsEarly p.2 :=
  Runs.forall_steps_iff Timed (fun _ action timed => timed.next action)
    (fun _ action timed => timed.early_iff action) (start_timed g stmTicksPerMs now) actions

/-- A request goes out at tick 2^32 - 1, and the poll one tick later sends it again. -/
theorem retry_timing_wraps :
    ¬ ∀ p ∈ Runs.steps SlopeClocked.next (start .boot 100000 0)
        [.requestOpen, .txPoll [] 4294967295 0, .txPoll [] 1 0],
      ¬ p.1.RetriesEarly p.2 := by
  intro early
  let waiting := ((start .boot 100000 0).next .requestOpen).next (.txPoll [] 4294967295 0)
  have third : (waiting, .txPoll [] 1 0) ∈ Runs.steps SlopeClocked.next (start .boot 100000 0)
      [.requestOpen, .txPoll [] 4294967295 0, .txPoll [] 1 0] :=
    .tail _ (.tail _ (.head _))
  have fires : (waiting.txPoll [] 1 0).2.retry ≠ .none := by decide +kernel
  have soon : waiting.now + 1 - waiting.emitted ≤ waiting.shortOfTimeout := by decide +kernel
  exact early _ third ⟨fires, soon⟩

end SlopeClocked

end SmartBusAccess.Uart
