import Mathlib.Data.List.Chain
import SmartBusAccess.Semantics.Runs
import SmartBusAccess.Uart.Arq

/-!
The life of a command in the sender.

`SenderHistory` runs the sender of `slope_uart.c` or `ble_uart.c` on any calls
and writes down, for every command it accepted, what it did with it: the frames
it emitted, each with the clock value of the call, and how the command ended.
`Lifecycle` is what such a record may look like. The invariant `Accounted` ties
the record of the outstanding command to the fields of the sender.
-/

namespace SmartBusAccess.Uart

open Runs

/-! ### Histories -/

/-- A frame handed to the caller. -/
structure Emission where
  time : UInt32
  frame : UartFrame
deriving DecidableEq, Repr

/-- Reported success, with the frame that brought it, or `GIVEUP`. -/
inductive CommandEnd where
  | acked (rx : DecodedFrame)
  | gaveUp
deriving DecidableEq, Repr

inductive CommandEvent where
  | emitted (e : Emission)
  | ended (o : CommandEnd)
deriving DecidableEq, Repr

/-- A command accepted by `SenderStart`, and everything done with it in order. -/
structure CommandRecord where
  cmd : UInt8
  events : List CommandEvent
deriving DecidableEq, Repr

def CommandRecord.note (r : CommandRecord) (e : CommandEvent) : CommandRecord :=
  { r with events := r.events ++ [e] }

/-- The sender and its records, newest first. `stray` takes what happens before
any command was accepted. -/
structure SenderHistory where
  sender : UartSender
  log : List CommandRecord
  stray : List CommandEvent
deriving DecidableEq, Repr

/-- What happens is put down to the command accepted last. -/
def SenderHistory.note (h : SenderHistory) (s : UartSender) (e : CommandEvent) : SenderHistory :=
  match h.log with
  | [] => { h with sender := s, stray := h.stray ++ [e] }
  | r :: rest => { h with sender := s, log := r.note e :: rest }

@[simp] theorem sender_note (h : SenderHistory) (s : UartSender) (e : CommandEvent) :
    (h.note s e).sender = s := by
  unfold SenderHistory.note
  split <;> rfl

/-- A call of one of the sender's functions. -/
inductive SenderCall where
  | start (cmd : UInt8) (nowMs : UInt32)
  | poll (nowMs : UInt32)
  | onFrame (rx : DecodedFrame)
deriving DecidableEq, Repr

/-- What the call did; `none` for a refused or idle one. -/
abbrev SenderReport := Option CommandEvent

def SenderHistory.step (v : UartVariant) (h : SenderHistory) :
    SenderCall → SenderHistory × SenderReport
  | .start cmd nowMs =>
      match senderStart v.cmdIsValid h.sender cmd nowMs with
      | none => (h, none)
      | some (s, frame) =>
          let e := .emitted ⟨nowMs, frame⟩
          ({ h with sender := s, log := ⟨cmd, [e]⟩ :: h.log }, some e)
  | .poll nowMs =>
      match senderPoll h.sender nowMs with
      | (s, .none) => ({ h with sender := s }, none)
      | (s, .resend frame) =>
          let e := .emitted ⟨nowMs, frame⟩
          (h.note s e, some e)
      | (s, .giveUp) => (h.note s (.ended .gaveUp), some (.ended .gaveUp))
  | .onFrame rx =>
      match senderOnFrame h.sender rx with
      | none => (h, none)
      | some s => (h.note s (.ended (.acked rx)), some (.ended (.acked rx)))

/-- A history that begins with `SenderInit`. -/
def SenderHistory.init (s : UartSender) (ackTimeoutMs : UInt32) (retryLimit : UInt8) :
    SenderHistory :=
  ⟨senderInit s ackTimeoutMs retryLimit, [], []⟩

/-! ### Lifecycles -/

section Lifecycle

variable (limit : UInt8) (timeout : UInt32)

/-- Consecutive emissions, a timeout apart on the wrapping clock. -/
def Spaced (a b : Emission) : Prop := timeout ≤ b.time - a.time

/-- A record whose events are `emissions` under one sequence number, then the
end if there is one. -/
structure Lifecycle (r : CommandRecord) (seq : UInt8) (emissions : List Emission)
    (ending : Option CommandEnd) : Prop where
  events : r.events = emissions.map .emitted ++ ending.toList.map .ended
  started : 1 ≤ emissions.length
  bounded : emissions.length ≤ limit.toNat + 1
  identical : ∀ e ∈ emissions, e.frame = encodeData seq r.cmd
  spaced : emissions.IsChain (Spaced timeout)
  matching : ∀ rx, ending = some (.acked rx) → rx.type = typeAck ∧ rx.seq = seq

/-- The command has ended. -/
def CommandRecord.Over (r : CommandRecord) : Prop :=
  ∃ seq emissions ending, Lifecycle limit timeout r seq emissions (some ending)

/-- When the outstanding command of a record was last emitted. -/
def CommandRecord.openSince (r : CommandRecord) : Option UInt32 :=
  match r.events.getLast? with
  | some (.emitted e) => some e.time
  | _ => none

/-- A poll at least a timeout after the last emission of an outstanding command. -/
def SenderHistory.pollDue (h : SenderHistory) : SenderCall → Bool
  | .poll nowMs =>
      match h.log.head?.bind CommandRecord.openSince with
      | some time => decide (timeout ≤ nowMs - time)
      | none => false
  | _ => false

/-- How many of the calls are due polls. -/
def duePolls (v : UartVariant) (h : SenderHistory) (calls : List SenderCall) : Nat :=
  (steps (next (SenderHistory.step v)) h calls).countP fun p => p.1.pollDue timeout p.2

/-! ### The invariant -/

/-- The record of the command the sender waits for. -/
structure Outstanding (s : UartSender) (r : CommandRecord) (emissions : List Emission) :
    Prop where
  life : Lifecycle limit timeout r s.pendingSeq emissions none
  count : emissions.length = s.retryCount.toNat + 1
  pending : s.pendingFrame = encodeData s.pendingSeq r.cmd
  frames : ∀ e ∈ emissions, e.frame = s.pendingFrame
  last : emissions.getLast?.map Emission.time = some s.lastTxMs

/-- Every emission and every end is put down to a command, and all but the
outstanding one are over. -/
structure SenderHistory.Accounted (h : SenderHistory) : Prop where
  limit_eq : h.sender.retryLimit = limit
  timeout_eq : h.sender.ackTimeoutMs = timeout
  count_le : h.sender.retryCount ≤ limit
  noStray : h.stray = []
  idle : h.sender.waitingAck = false → ∀ r ∈ h.log, r.Over limit timeout
  busy : h.sender.waitingAck = true → ∃ r rest emissions, h.log = r :: rest ∧
    Outstanding limit timeout h.sender r emissions ∧ ∀ old ∈ rest, old.Over limit timeout

end Lifecycle

theorem accounted_init (s : UartSender) (ackTimeoutMs : UInt32) (retryLimit : UInt8) :
    (SenderHistory.init s ackTimeoutMs retryLimit).Accounted
      (if retryLimit == 0 then defaultRetryLimit else retryLimit)
      (if ackTimeoutMs == 0 then defaultAckTimeoutMs else ackTimeoutMs) where
  limit_eq := rfl
  timeout_eq := rfl
  count_le := UInt8.zero_le
  noStray := rfl
  idle _ r mem := by simp [SenderHistory.init] at mem
  busy waiting := by simp [SenderHistory.init, senderInit] at waiting

/-! ### What a call does to the record -/

section Records

variable {limit : UInt8} {timeout : UInt32} {s : UartSender} {r : CommandRecord}
  {emissions : List Emission}

@[simp] theorem events_note (r : CommandRecord) (e : CommandEvent) :
    (r.note e).events = r.events ++ [e] := rfl

@[simp] theorem cmd_note (r : CommandRecord) (e : CommandEvent) : (r.note e).cmd = r.cmd := rfl

/-- A retry below the limit does not wrap the count. -/
theorem toNat_retry {count limit : UInt8} (retry : count < limit) :
    (count + 1).toNat = count.toNat + 1 := by
  have below := UInt8.lt_iff_toNat_lt.mp retry
  have small := limit.toNat_lt
  rw [UInt8.toNat_add, UInt8.toNat_one]
  omega

theorem outstanding_start (cmd : UInt8) (nowMs : UInt32) (zero : s.retryCount = 0)
    (pending : s.pendingFrame = encodeData s.pendingSeq cmd) (time : s.lastTxMs = nowMs) :
    Outstanding limit timeout s ⟨cmd, [.emitted ⟨nowMs, s.pendingFrame⟩]⟩
      [⟨nowMs, s.pendingFrame⟩] where
  life := {
    events := rfl
    started := Nat.le_refl 1
    bounded := Nat.succ_le_succ (Nat.zero_le _)
    identical := by simp [pending]
    spaced := .singleton _
    matching := by simp }
  count := by simp [zero]
  pending := pending
  frames := by simp
  last := by simp [time]

theorem Outstanding.resend (open_ : Outstanding limit timeout s r emissions) {nowMs : UInt32}
    (late : timeout ≤ nowMs - s.lastTxMs) (retry : s.retryCount < limit) :
    Outstanding limit timeout { s with retryCount := s.retryCount + 1, lastTxMs := nowMs }
      (r.note (.emitted ⟨nowMs, s.pendingFrame⟩)) (emissions ++ [⟨nowMs, s.pendingFrame⟩]) := by
  have below : s.retryCount.toNat < limit.toNat := UInt8.lt_iff_toNat_lt.mp retry
  have frames : ∀ e ∈ emissions ++ [⟨nowMs, s.pendingFrame⟩], e.frame = s.pendingFrame := by
    intro e mem
    rcases List.mem_append.mp mem with old | new
    · exact open_.frames e old
    · rw [List.mem_singleton.mp new]
  refine { life := ?_, count := ?_, pending := open_.pending, frames := frames, last := ?_ }
  · refine { events := ?_, started := ?_, bounded := ?_, identical := ?_, spaced := ?_,
             matching := open_.life.matching }
    · simp [open_.life.events]
    · simp
    · simp only [List.length_append, List.length_singleton, open_.count]
      omega
    · exact fun e mem => (frames e mem).trans open_.pending
    · refine open_.life.spaced.append (.singleton _) fun a isLast b isFirst => ?_
      have previous : a.time = s.lastTxMs := by
        have last := open_.last
        rw [Option.mem_def.mp isLast] at last
        exact Option.some.inj last
      have new : b = ⟨nowMs, s.pendingFrame⟩ := by simpa [eq_comm] using isFirst
      rw [Spaced, previous, new]
      exact late
  · simp only [List.length_append, List.length_singleton, open_.count, toNat_retry retry]
  · simp

theorem Outstanding.finish (open_ : Outstanding limit timeout s r emissions) {o : CommandEnd}
    (matching : ∀ rx, o = .acked rx → rx.type = typeAck ∧ rx.seq = s.pendingSeq) :
    (r.note (.ended o)).Over limit timeout :=
  ⟨s.pendingSeq, emissions, o, {
    events := by simp [open_.life.events]
    started := open_.life.started
    bounded := open_.life.bounded
    identical := open_.life.identical
    spaced := open_.life.spaced
    matching := fun rx same => matching rx (Option.some.inj same) }⟩

theorem Outstanding.openSince (open_ : Outstanding limit timeout s r emissions) :
    r.openSince = some s.lastTxMs := by
  have last := open_.last
  cases found : emissions.getLast? with
  | none => simp [found] at last
  | some e =>
      have time : e.time = s.lastTxMs := by simpa [found] using last
      simp [CommandRecord.openSince, open_.life.events, found, time]

theorem CommandRecord.Over.openSince (done : r.Over limit timeout) : r.openSince = none := by
  obtain ⟨seq, emissions, ending, life⟩ := done
  simp [CommandRecord.openSince, life.events]

end Records

/-! ### What a call does to the history -/

section Calls

variable {limit : UInt8} {timeout : UInt32} {h : SenderHistory}

/-- The four things a call can do. Only a resend and a `GIVEUP` need a due poll. -/
inductive CallEffect (v : UartVariant) (timeout : UInt32) (h : SenderHistory) :
    SenderCall → SenderHistory × SenderReport → Prop where
  | quiet {call : SenderCall} (early : h.pollDue timeout call = false) :
      CallEffect v timeout h call (h, none)
  | started (cmd : UInt8) (nowMs : UInt32) (idle : h.sender.waitingAck = false)
      (s : UartSender) (waiting : s.waitingAck = true) (zero : s.retryCount = 0)
      (limits : s.retryLimit = h.sender.retryLimit ∧ s.ackTimeoutMs = h.sender.ackTimeoutMs)
      (pending : s.pendingFrame = encodeData s.pendingSeq cmd) (time : s.lastTxMs = nowMs) :
      CallEffect v timeout h (.start cmd nowMs)
        ({ h with sender := s, log := ⟨cmd, [.emitted ⟨nowMs, s.pendingFrame⟩]⟩ :: h.log },
          some (.emitted ⟨nowMs, s.pendingFrame⟩))
  | resent (nowMs : UInt32) (waiting : h.sender.waitingAck = true)
      (late : timeout ≤ nowMs - h.sender.lastTxMs)
      (retry : h.sender.retryCount < h.sender.retryLimit) :
      CallEffect v timeout h (.poll nowMs)
        (h.note { h.sender with retryCount := h.sender.retryCount + 1, lastTxMs := nowMs }
          (.emitted ⟨nowMs, h.sender.pendingFrame⟩), some (.emitted ⟨nowMs, h.sender.pendingFrame⟩))
  | ended {call : SenderCall} (o : CommandEnd) (waiting : h.sender.waitingAck = true)
      (matching : ∀ rx, o = .acked rx → rx.type = typeAck ∧ rx.seq = h.sender.pendingSeq) :
      CallEffect v timeout h call
        (h.note { h.sender with waitingAck := false } (.ended o), some (.ended o))

/-- The poll is due exactly when the sender's own fields say so. -/
theorem SenderHistory.Accounted.pollDue_eq (inv : h.Accounted limit timeout) (nowMs : UInt32) :
    h.pollDue timeout (.poll nowMs) =
      (h.sender.waitingAck && decide (timeout ≤ nowMs - h.sender.lastTxMs)) := by
  cases waiting : h.sender.waitingAck with
  | false =>
      have closed : h.log.head?.bind CommandRecord.openSince = none := by
        cases log : h.log with
        | nil => rfl
        | cons r rest =>
            exact (inv.idle waiting r (by simp [log])).openSince
      simp [SenderHistory.pollDue, closed]
  | true =>
      obtain ⟨r, rest, emissions, log, outstanding, -⟩ := inv.busy waiting
      simp [SenderHistory.pollDue, log, outstanding.openSince]

theorem SenderHistory.Accounted.step_effect (inv : h.Accounted limit timeout) (v : UartVariant)
    (call : SenderCall) : CallEffect v timeout h call (h.step v call) := by
  cases call with
  | start cmd nowMs =>
      cases started : senderStart v.cmdIsValid h.sender cmd nowMs with
      | none =>
          have same : h.step v (.start cmd nowMs) = (h, none) := by
            simp [SenderHistory.step, started]
          rw [same]
          exact .quiet rfl
      | some result =>
          obtain ⟨s, frame⟩ := result
          obtain ⟨idle, -, rfl, fields⟩ := senderStart_cases started
          have pendingFrame : s.pendingFrame = encodeData h.sender.nextSeq cmd := by rw [fields]
          have step : h.step v (.start cmd nowMs) =
              ({ h with sender := s,
                        log := ⟨cmd, [.emitted ⟨nowMs, s.pendingFrame⟩]⟩ :: h.log },
                some (.emitted ⟨nowMs, s.pendingFrame⟩)) := by
            simp [SenderHistory.step, started, pendingFrame]
          rw [step]
          exact .started cmd nowMs idle s (by rw [fields]) (by rw [fields])
            ⟨by rw [fields], by rw [fields]⟩ (by rw [fields]) (by rw [fields])
  | poll nowMs =>
      rcases senderPoll_due h.sender nowMs with ⟨early, same⟩ |
        ⟨waiting, late, ⟨retry, resend⟩ | ⟨-, giveUp⟩⟩
      · have step : h.step v (.poll nowMs) = (h, none) := by simp [SenderHistory.step, same]
        rw [step]
        refine .quiet ?_
        rw [inv.pollDue_eq, ← inv.timeout_eq]
        cases waiting : h.sender.waitingAck with
        | false => rfl
        | true => simpa using early waiting
      · have step : h.step v (.poll nowMs) =
            (h.note { h.sender with retryCount := h.sender.retryCount + 1, lastTxMs := nowMs }
              (.emitted ⟨nowMs, h.sender.pendingFrame⟩),
              some (.emitted ⟨nowMs, h.sender.pendingFrame⟩)) := by
          simp [SenderHistory.step, resend]
        rw [step]
        exact .resent nowMs waiting (inv.timeout_eq ▸ late) retry
      · have step : h.step v (.poll nowMs) =
            (h.note { h.sender with waitingAck := false } (.ended .gaveUp),
              some (.ended .gaveUp)) := by simp [SenderHistory.step, giveUp]
        rw [step]
        exact .ended .gaveUp waiting (by simp)
  | onFrame rx =>
      cases accepted : senderOnFrame h.sender rx with
      | none =>
          have same : h.step v (.onFrame rx) = (h, none) := by
            simp [SenderHistory.step, accepted]
          rw [same]
          exact .quiet rfl
      | some s =>
          obtain ⟨waiting, ack, same, rfl⟩ := senderOnFrame_cases accepted
          have step : h.step v (.onFrame rx) =
              (h.note { h.sender with waitingAck := false } (.ended (.acked rx)),
                some (.ended (.acked rx))) := by simp [SenderHistory.step, accepted]
          rw [step]
          refine .ended (.acked rx) waiting ?_
          rintro _ ⟨⟩
          exact ⟨ack, same⟩

theorem SenderHistory.Accounted.step (inv : h.Accounted limit timeout) (v : UartVariant)
    (call : SenderCall) : (h.step v call).1.Accounted limit timeout := by
  have effect := inv.step_effect v call
  generalize h.step v call = result at effect ⊢
  cases effect with
  | quiet early => exact inv
  | started cmd nowMs idle s waiting zero limits pending time =>
      refine {
        limit_eq := limits.1.trans inv.limit_eq
        timeout_eq := limits.2.trans inv.timeout_eq
        count_le := ?_
        noStray := inv.noStray
        idle := fun notWaiting => absurd (waiting.symm.trans notWaiting) Bool.noConfusion
        busy := fun _ => ⟨_, h.log, _, rfl, outstanding_start cmd nowMs zero pending time,
          inv.idle idle⟩ }
      rw [zero]
      exact UInt8.zero_le
  | resent nowMs waiting late retry =>
      obtain ⟨r, rest, emissions, log, outstanding, old⟩ := inv.busy waiting
      have below : h.sender.retryCount < limit := inv.limit_eq ▸ retry
      simp only [SenderHistory.note, log]
      refine {
        limit_eq := inv.limit_eq
        timeout_eq := inv.timeout_eq
        count_le := ?_
        noStray := inv.noStray
        idle := fun notWaiting => absurd (waiting.symm.trans notWaiting) Bool.noConfusion
        busy := fun _ => ⟨_, rest, _, rfl, outstanding.resend late below, old⟩ }
      rw [UInt8.le_iff_toNat_le, toNat_retry below]
      exact UInt8.lt_iff_toNat_lt.mp below
  | ended o waiting matching =>
      obtain ⟨r, rest, emissions, log, outstanding, old⟩ := inv.busy waiting
      simp only [SenderHistory.note, log]
      exact {
        limit_eq := inv.limit_eq
        timeout_eq := inv.timeout_eq
        count_le := inv.count_le
        noStray := inv.noStray
        idle := fun _ => List.forall_mem_cons.mpr ⟨outstanding.finish matching, old⟩
        busy := fun stillWaiting => by cases stillWaiting }

/-- Between two ends every due poll is a retry. -/
theorem SenderHistory.Accounted.duePolls_le (inv : h.Accounted limit timeout) (v : UartVariant)
    (waiting : h.sender.waitingAck = true) (calls : List SenderCall)
    (noEnd : ∀ o, some (.ended o) ∉ outputs (SenderHistory.step v) h calls) :
    h.sender.retryCount.toNat + duePolls timeout v h calls ≤ limit.toNat := by
  induction calls generalizing h with
  | nil => exact UInt8.le_iff_toNat_le.mp inv.count_le
  | cons call rest ih =>
      have later := inv.step v call
      have effect := inv.step_effect v call
      have restNoEnd : ∀ o, some (.ended o) ∉ outputs (SenderHistory.step v) (h.step v call).1 rest :=
        fun o mem => noEnd o (List.mem_cons_of_mem _ mem)
      have here : ∀ o, (h.step v call).2 ≠ some (.ended o) := fun o same =>
        noEnd o (same ▸ List.mem_cons_self)
      have due := inv.pollDue_eq
      have count : duePolls timeout v h (call :: rest) =
          duePolls timeout v (h.step v call).1 rest +
            if h.pollDue timeout call = true then 1 else 0 := by
        simp [duePolls, steps, List.countP_cons, next]
      rw [count]
      generalize h.step v call = result at effect later restNoEnd here ⊢
      cases effect with
      | quiet early =>
          simpa [early] using ih later waiting restNoEnd
      | started cmd nowMs idle => exact absurd (waiting.symm.trans idle) Bool.noConfusion
      | resent nowMs _ late retry =>
          have bound := ih later (by rw [sender_note, waiting]) restNoEnd
          rw [sender_note, toNat_retry retry] at bound
          split <;> omega
      | ended o => exact absurd rfl (here o)

/-- In a history no record is lost and none is open but the newest. -/
theorem SenderHistory.Accounted.records (inv : h.Accounted limit timeout) :
    (∀ r ∈ h.log, ∃ seq emissions ending, Lifecycle limit timeout r seq emissions ending) ∧
      ∀ r ∈ h.log.tail, r.Over limit timeout := by
  have ofOver : ∀ r : CommandRecord, r.Over limit timeout →
      ∃ seq emissions ending, Lifecycle limit timeout r seq emissions ending := by
    rintro r ⟨seq, emissions, ending, life⟩
    exact ⟨seq, emissions, some ending, life⟩
  cases waiting : h.sender.waitingAck with
  | false =>
      have done := inv.idle waiting
      exact ⟨fun r mem => ofOver r (done r mem), fun r mem => done r (List.mem_of_mem_tail mem)⟩
  | true =>
      obtain ⟨r, rest, emissions, log, outstanding, old⟩ := inv.busy waiting
      rw [log]
      refine ⟨fun older mem => ?_, old⟩
      rcases List.mem_cons.mp mem with rfl | inRest
      · exact ⟨_, emissions, none, outstanding.life⟩
      · exact ofOver older (old older inRest)

end Calls

/-- After any calls since `SenderInit`: every accepted command has a lawful
record, all but the newest have ended, a command is accepted only when none is
outstanding, and an outstanding one ends in `GIVEUP` when `limit + 1` polls come
a timeout after the last emission and no matching ACK does. -/
theorem sender_lifecycle (v : UartVariant) (s : UartSender) (ackTimeoutMs : UInt32)
    (retryLimit : UInt8) (calls : List SenderCall) :
    let limit := if retryLimit == 0 then defaultRetryLimit else retryLimit
    let timeout := if ackTimeoutMs == 0 then defaultAckTimeoutMs else ackTimeoutMs
    let h := run (next (SenderHistory.step v)) (.init s ackTimeoutMs retryLimit) calls
    h.stray = [] ∧
    (∀ r ∈ h.log, ∃ seq emissions ending, Lifecycle limit timeout r seq emissions ending) ∧
    (∀ r ∈ h.log.tail, r.Over limit timeout) ∧
    h.sender.retryCount ≤ limit ∧
    (∀ cmd nowMs, (senderStart v.cmdIsValid h.sender cmd nowMs).isSome →
      ∀ r ∈ h.log, r.Over limit timeout) ∧
    ∀ more : List SenderCall, senderIsBusy h.sender = true →
      (∀ rx, some (.ended (.acked rx)) ∉ outputs (SenderHistory.step v) h more) →
      limit.toNat + 1 ≤ duePolls timeout v h more →
      some (.ended .gaveUp) ∈ outputs (SenderHistory.step v) h more := by
  intro limit timeout h
  have inv : h.Accounted limit timeout :=
    run_invariant (SenderHistory.Accounted limit timeout) (fun _ call inv => inv.step v call)
      (accounted_init s ackTimeoutMs retryLimit) calls
  refine ⟨inv.noStray, inv.records.1, inv.records.2, inv.count_le, ?_, ?_⟩
  · intro cmd nowMs accepted
    obtain ⟨result, started⟩ := Option.isSome_iff_exists.mp accepted
    exact inv.idle (senderStart_cases started).1
  · intro more busy noAck enough
    by_contra noGiveUp
    have noEnd : ∀ o, some (.ended o) ∉ outputs (SenderHistory.step v) h more := by
      rintro (rx | _)
      · exact noAck rx
      · exact noGiveUp
    have bound := inv.duePolls_le v busy more noEnd
    omega

end SmartBusAccess.Uart
