import Mathlib.Data.List.Basic
import SmartBusAccess.Semantics.StopAndWait
import SmartBusAccess.Uart.Arq

/-!
One sender and one receiver over two first-in first-out lines that may lose any
frame but neither duplicate nor reorder.

A frame on the line is the six encoded bytes; it also carries the index of the
command it is about (`InFlight.start`), which the code never reads. `started`,
`delivered` and `acked` are the histories of what `SenderStart` accepted, what
the receiver flagged `RX_DELIVER`, and which commands `SenderOnFrame` reported
acknowledged.

* `step_simulates`, `reachable`: a link is a stop-and-wait protocol
  (`StopAndWait`) whose labels are the 8-bit sequence numbers.
-/

namespace SmartBusAccess.Uart

open StopAndWait Relation

/-! ### The system -/

structure InFlight where
  start : ℕ
  frame : UartFrame
deriving DecidableEq, Repr

structure Link where
  sender : UartSender
  receiver : UartReceiver
  data : List InFlight
  acks : List InFlight
  started : List UInt8
  delivered : List (ℕ × UInt8)
  acked : List ℕ
deriving DecidableEq, Repr

namespace Link

def initial (sender : UartSender) (receiver : UartReceiver) : Link :=
  ⟨sender, receiver, [], [], [], [], []⟩

/-- `SenderStart`; the frame it returns is written to the line. -/
def start (v : UartVariant) (l : Link) (cmd : UInt8) (nowMs : UInt32) : Link :=
  match senderStart v.cmdIsValid l.sender cmd nowMs with
  | none => l
  | some (sender, frame) =>
      { l with
        sender := sender
        data := l.data ++ [⟨l.started.length, frame⟩]
        started := l.started ++ [cmd] }

/-- `SenderPoll`; a resent frame is written to the line. -/
def poll (l : Link) (nowMs : UInt32) : Link :=
  match senderPoll l.sender nowMs with
  | (sender, .resend frame) =>
      { l with sender := sender, data := l.data ++ [⟨l.started.length - 1, frame⟩] }
  | (sender, _) => { l with sender := sender }

/-- The oldest DATA frame arrives: `ReceiverOnFrame`, and the acknowledgement it
returns is written to the other line. -/
def receive (v : UartVariant) (l : Link) : Link :=
  match l.data with
  | [] => l
  | m :: rest =>
      match decodeFrame m.frame with
      | none => { l with data := rest }
      | some rx =>
          let (receiver, flags) := receiverOnFrame v.cmdIsValid l.receiver rx
          { l with
            receiver := receiver
            data := rest
            acks := l.acks ++ (flags.sendAck.map fun ack => ⟨m.start, ack⟩).toList
            delivered := l.delivered ++ (flags.deliver.map fun cmd => (m.start, cmd)).toList }

/-- The oldest ACK frame arrives: `SenderOnFrame`. -/
def acknowledge (l : Link) : Link :=
  match l.acks with
  | [] => l
  | m :: rest =>
      match (decodeFrame m.frame).bind (senderOnFrame l.sender) with
      | none => { l with acks := rest }
      | some sender =>
          { l with sender := sender, acks := rest, acked := l.acked ++ [l.started.length - 1] }

def loseData (l : Link) (i : ℕ) : Link := { l with data := l.data.eraseIdx i }

def loseAck (l : Link) (i : ℕ) : Link := { l with acks := l.acks.eraseIdx i }

end Link

inductive LinkAction where
  | start (cmd : UInt8) (nowMs : UInt32)
  | poll (nowMs : UInt32)
  | receive
  | acknowledge
  | loseData (i : ℕ)
  | loseAck (i : ℕ)
deriving DecidableEq, Repr

def Link.step (v : UartVariant) (l : Link) : LinkAction → Link
  | .start cmd nowMs => l.start v cmd nowMs
  | .poll nowMs => l.poll nowMs
  | .receive => l.receive v
  | .acknowledge => l.acknowledge
  | .loseData i => l.loseData i
  | .loseAck i => l.loseAck i

abbrev Link.run (v : UartVariant) : Link → List LinkAction → Link := Runs.run (Link.step v)

/-- A link whose two ends have just been initialised. -/
def Link.fresh (s : UartSender) (ackTimeoutMs : UInt32) (retryLimit : UInt8) : Link :=
  .initial (senderInit s ackTimeoutMs retryLimit) receiverInit

/-! ### The sequence numbers -/

/-- The sequence number of command `k`. -/
def label (k : ℕ) : UInt8 := UInt8.ofNat k

theorem label_succ (k : ℕ) : label (k + 1) = label k + 1 := by
  simp [label, UInt8.ofNat_add]

theorem label_eq_iff {i j : ℕ} : label i = label j ↔ i % 256 = j % 256 := by
  simp [label, UInt8.ofNat_eq_iff_mod_eq_toNat]

theorem label_distinctWithin : DistinctWithin label 256 := by
  intro i j lt near eq
  have := label_eq_iff.mp eq
  omega

/-! ### A link is a stop-and-wait protocol -/

namespace Link

/-- The commands and frames of a link by index. -/
def abs (l : Link) : State UInt8 where
  started := l.started.length
  waiting := l.sender.waitingAck
  data := l.data.map InFlight.start
  acks := l.acks.map InFlight.start
  memory := l.receiver.memory
  delivered := l.delivered.map Prod.fst
  acked := l.acked

/-- Every frame on the line, the pending frame and every delivery carry the
sequence number and the command of their index, in a numbering that the sender continues. -/
structure ConsistentIn (seq : ℕ → UInt8) (v : UartVariant) (l : Link) : Prop where
  next_seq : l.sender.nextSeq = seq l.started.length
  continues : ∀ k, l.started.length ≤ k → seq (k + 1) = seq k + 1
  pending : l.sender.waitingAck = true → ∃ c, l.started[l.started.length - 1]? = some c ∧
    v.cmdIsValid c = true ∧ l.sender.pendingSeq = seq (l.started.length - 1) ∧
    l.sender.pendingFrame = encodeData (seq (l.started.length - 1)) c
  data_frames : ∀ m ∈ l.data, ∃ c, l.started[m.start]? = some c ∧ v.cmdIsValid c = true ∧
    m.frame = encodeData (seq m.start) c
  ack_frames : ∀ m ∈ l.acks, m.frame = encodeAck (seq m.start)
  delivered_cmds : ∀ d ∈ l.delivered, l.started[d.1]? = some d.2

/-- The numbering of a sender that starts at 0 and is never re-initialised. -/
abbrev Consistent (v : UartVariant) (l : Link) : Prop := l.ConsistentIn label v

section Simulation

variable {v : UartVariant} {seq : ℕ → UInt8} {l : Link}

theorem getElem?_snoc {α : Type} {l : List α} {k : ℕ} {a b : α} (found : l[k]? = some a) :
    (l ++ [b])[k]? = some a := by
  obtain ⟨lt, -⟩ := List.getElem?_eq_some_iff.mp found
  rw [List.getElem?_append_left lt]
  exact found

/-- A frame that arrives is answered; its command is delivered unless the receiver remembers
its number. -/
theorem receive_cases (good : l.ConsistentIn seq v) :
    (l.data = [] ∧ l.receive v = l) ∨ ∃ m rest c, l.data = m :: rest ∧
      l.started[m.start]? = some c ∧ m.frame = encodeData (seq m.start) c ∧
      ((l.receiver.memory ≠ some (seq m.start) ∧
        l.receive v = { l with
          receiver := ⟨true, seq m.start⟩
          data := rest
          acks := l.acks ++ [⟨m.start, encodeAck (seq m.start)⟩]
          delivered := l.delivered ++ [(m.start, c)] }) ∨
      (l.receiver.memory = some (seq m.start) ∧
        l.receive v = { l with
          data := rest
          acks := l.acks ++ [⟨m.start, encodeAck (seq m.start)⟩] })) := by
  cases arrives : l.data with
  | nil => exact .inl ⟨rfl, by simp [receive, arrives]⟩
  | cons m rest =>
      obtain ⟨c, found, valid, frame⟩ := good.data_frames m (arrives ▸ List.mem_cons_self)
      refine .inr ⟨m, rest, c, rfl, found, frame, ?_⟩
      rcases receiverOnFrame_data l.receiver (seq m.start) valid with
        ⟨fresh, result⟩ | ⟨known, result⟩
      · exact .inl ⟨fresh, by simp [receive, arrives, frame, decodeFrame_encodeData, result]⟩
      · exact .inr ⟨known, by simp [receive, arrives, frame, decodeFrame_encodeData, result]⟩

/-- An acknowledgement ends the wait for a command with its number, and does nothing else. -/
theorem acknowledge_cases (good : l.ConsistentIn seq v) :
    (l.acks = [] ∧ l.acknowledge = l) ∨ ∃ m rest, l.acks = m :: rest ∧
      (l.acknowledge = { l with acks := rest } ∨
        l.sender.waitingAck = true ∧ seq m.start = seq (l.started.length - 1) ∧
          l.acknowledge = { l with
            sender := { l.sender with waitingAck := false }
            acks := rest
            acked := l.acked ++ [l.started.length - 1] }) := by
  cases arrives : l.acks with
  | nil => exact .inl ⟨rfl, by simp [acknowledge, arrives]⟩
  | cons m rest =>
      refine .inr ⟨m, rest, rfl, ?_⟩
      have frame := good.ack_frames m (arrives ▸ List.mem_cons_self)
      cases result : senderOnFrame l.sender ⟨typeAck, seq m.start, 0x00⟩ with
      | none => exact .inl (by simp [acknowledge, arrives, frame, decodeFrame_encodeAck, result])
      | some sender =>
          obtain ⟨busy, -, same, rfl⟩ := senderOnFrame_cases result
          obtain ⟨c, -, -, pending, -⟩ := good.pending busy
          refine .inr ⟨busy, same.trans pending, ?_⟩
          simp [acknowledge, arrives, frame, decodeFrame_encodeAck, result]

theorem start_simulates (good : l.ConsistentIn seq v) (cmd : UInt8) (nowMs : UInt32) :
    (l.start v cmd nowMs).ConsistentIn seq v ∧
      ReflTransGen (Step seq) l.abs (l.start v cmd nowMs).abs := by
  unfold start
  cases result : senderStart v.cmdIsValid l.sender cmd nowMs with
  | none => exact ⟨good, .refl⟩
  | some out =>
      obtain ⟨sender, frame⟩ := out
      obtain ⟨idle, valid, rfl, rfl⟩ := senderStart_cases result
      have new : (l.started ++ [cmd])[l.started.length]? = some cmd := by simp
      refine ⟨⟨?_, ?_, fun _ => ⟨cmd, ?_⟩, ?_, good.ack_frames, ?_⟩, ?_⟩
      · simp [good.next_seq, good.continues]
      · intro k after
        rw [List.length_append, List.length_singleton] at after
        exact good.continues k (Nat.le_of_succ_le after)
      · simp [valid, good.next_seq]
      · intro m mem
        rcases List.mem_append.mp mem with old | last
        · obtain ⟨c, found, rest⟩ := good.data_frames m old
          exact ⟨c, getElem?_snoc found, rest⟩
        · obtain rfl := List.mem_singleton.mp last
          exact ⟨cmd, new, valid, by rw [good.next_seq]⟩
      · exact fun d mem => getElem?_snoc (good.delivered_cmds d mem)
      · have next : Step seq l.abs _ := .start idle
        simpa [abs] using ReflTransGen.single next

theorem poll_simulates (good : l.ConsistentIn seq v) (nowMs : UInt32) :
    (l.poll nowMs).ConsistentIn seq v ∧ ReflTransGen (Step seq) l.abs (l.poll nowMs).abs := by
  unfold poll
  rcases senderPoll_cases l.sender nowMs with ⟨-, none⟩ | ⟨busy, -, resend⟩ | ⟨-, -, giveUp⟩
  · rw [none]
    exact ⟨good, .refl⟩
  · rw [resend]
    obtain ⟨c, found, valid, number, frame⟩ := good.pending busy
    refine ⟨⟨good.next_seq, good.continues, fun _ => ⟨c, found, valid, number, frame⟩, ?_,
      good.ack_frames, good.delivered_cmds⟩, ?_⟩
    · intro m mem
      rcases List.mem_append.mp mem with old | last
      · exact good.data_frames m old
      · obtain rfl := List.mem_singleton.mp last
        exact ⟨c, found, valid, frame⟩
    · have next : Step seq l.abs _ := .resend busy
      simpa [abs] using ReflTransGen.single next
  · rw [giveUp]
    exact ⟨⟨good.next_seq, good.continues, fun busy => by simp at busy, good.data_frames,
      good.ack_frames, good.delivered_cmds⟩, .single (Step.giveUp (s := l.abs))⟩

theorem receive_simulates (good : l.ConsistentIn seq v) :
    (l.receive v).ConsistentIn seq v ∧ ReflTransGen (Step seq) l.abs (l.receive v).abs := by
  rcases receive_cases good with ⟨-, same⟩ | ⟨m, rest, c, arrives, found, -, arrival⟩
  · rw [same]
    exact ⟨good, .refl⟩
  · have tail : ∀ m ∈ rest, m ∈ l.data := fun m mem => arrives ▸ List.mem_cons_of_mem _ mem
    have head : l.abs.data = m.start :: rest.map InFlight.start := by simp [abs, arrives]
    have acks : ∀ ack ∈ l.acks ++ [(⟨m.start, encodeAck (seq m.start)⟩ : InFlight)],
        ack.frame = encodeAck (seq ack.start) := by
      intro ack mem
      rcases List.mem_append.mp mem with old | last
      · exact good.ack_frames ack old
      · rw [List.mem_singleton.mp last]
    rcases arrival with ⟨fresh, result⟩ | ⟨known, result⟩
    · rw [result]
      refine ⟨⟨good.next_seq, good.continues, good.pending, ?_, acks, ?_⟩, ?_⟩
      · intro m mem
        exact good.data_frames m (tail m mem)
      · intro d mem
        rcases List.mem_append.mp mem with old | last
        · exact good.delivered_cmds d old
        · rw [List.mem_singleton.mp last]
          exact found
      · have next : Step seq l.abs _ := .deliver head fresh
        simpa [abs, UartReceiver.memory] using ReflTransGen.single next
    · rw [result]
      refine ⟨⟨good.next_seq, good.continues, good.pending,
        fun m mem => good.data_frames m (tail m mem), acks, good.delivered_cmds⟩, ?_⟩
      have next : Step seq l.abs _ := .suppress head known
      simpa [abs] using ReflTransGen.single next

theorem acknowledge_simulates (good : l.ConsistentIn seq v) :
    l.acknowledge.ConsistentIn seq v ∧ ReflTransGen (Step seq) l.abs l.acknowledge.abs := by
  rcases acknowledge_cases good with ⟨-, same⟩ | ⟨m, rest, arrives, answer⟩
  · rw [same]
    exact ⟨good, .refl⟩
  · have tail : ∀ m ∈ rest, m.frame = encodeAck (seq m.start) := fun m mem =>
      good.ack_frames m (arrives ▸ List.mem_cons_of_mem _ mem)
    have head : l.abs.acks = m.start :: rest.map InFlight.start := by simp [abs, arrives]
    rcases answer with result | ⟨busy, same, result⟩
    · rw [result]
      refine ⟨{ good with ack_frames := tail }, ?_⟩
      have next : Step seq l.abs _ := .loseAcks (head ▸ List.sublist_cons_self _ _)
      simpa [abs] using ReflTransGen.single next
    · rw [result]
      refine ⟨⟨good.next_seq, good.continues, fun busy => by simp at busy, good.data_frames, tail,
        good.delivered_cmds⟩, ?_⟩
      have next : Step seq l.abs _ := .accept head busy same
      simpa [abs] using ReflTransGen.single next

/-- Every step of the code is matched by the abstract protocol. -/
theorem step_simulates (good : l.ConsistentIn seq v) (action : LinkAction) :
    (l.step v action).ConsistentIn seq v ∧
      ReflTransGen (Step seq) l.abs (l.step v action).abs := by
  cases action with
  | start cmd nowMs => exact start_simulates good cmd nowMs
  | poll nowMs => exact poll_simulates good nowMs
  | receive => exact receive_simulates good
  | acknowledge => exact acknowledge_simulates good
  | loseData i =>
      have sub := List.eraseIdx_sublist l.data i
      refine ⟨{ good with data_frames := fun m mem => good.data_frames m (sub.subset mem) }, ?_⟩
      exact .single (Step.loseData (s := l.abs) (sub.map InFlight.start))
  | loseAck i =>
      have sub := List.eraseIdx_sublist l.acks i
      refine ⟨{ good with ack_frames := fun m mem => good.ack_frames m (sub.subset mem) }, ?_⟩
      exact .single (Step.loseAcks (s := l.abs) (sub.map InFlight.start))

theorem run_simulates (good : l.ConsistentIn seq v) (actions : List LinkAction) :
    (l.run v actions).ConsistentIn seq v ∧
      ReflTransGen (Step seq) l.abs (l.run v actions).abs :=
  Runs.run_simulates abs (ConsistentIn seq v) (fun _ a good => step_simulates good a) good actions

end Simulation

theorem consistent_initial (v : UartVariant) (s : UartSender) (ackTimeoutMs : UInt32)
    (retryLimit : UInt8) (r : UartReceiver) :
    (initial (senderInit s ackTimeoutMs retryLimit) r).Consistent v := by
  constructor <;> simp [initial, senderInit, label, UInt8.ofNat_add]

/-- Every run after `SenderInit` stays consistent and is a run of the abstract protocol. -/
theorem reachable (v : UartVariant) (s : UartSender) (ackTimeoutMs : UInt32) (retryLimit : UInt8)
    (r : UartReceiver) (actions : List LinkAction) :
    let l := run v (initial (senderInit s ackTimeoutMs retryLimit) r) actions
    l.Consistent v ∧ ReflTransGen (Step label) (State.initial r.memory) l.abs := by
  have := run_simulates (consistent_initial v s ackTimeoutMs retryLimit r) actions
  simpa [abs, initial, senderInit, State.initial] using this

end Link

end SmartBusAccess.Uart
