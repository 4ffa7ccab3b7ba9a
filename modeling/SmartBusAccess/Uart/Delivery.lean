import Mathlib.Data.List.Basic
import SmartBusAccess.Uart.Link

/-!
What the two ends of a UART link can conclude from each other.

* `delivers_in_order`: deliveries are a subsequence of the started commands, each
  command at most once, whatever is lost and however often the 8-bit sequence
  number wraps.
* `acked_command_delivered`: a reported success means that a command with the same
  sequence number was delivered, and that this very command was as long as no
  success comes 256 or more starts after the one before it.
  `outage_success_undelivered` is the first run where it fails.
-/

namespace SmartBusAccess.Uart

open StopAndWait

/-- Elements found at strictly increasing positions form a subsequence. -/
theorem sublist_of_positions {α : Type} {l : List α} {found : List (ℕ × α)}
    (increasing : (found.map Prod.fst).Pairwise (· < ·))
    (lookup : ∀ d ∈ found, l[d.1]? = some d.2) : (found.map Prod.snd).Sublist l := by
  have inRange : ∀ d ∈ found, d.1 < l.length := fun d mem =>
    (List.getElem?_eq_some_iff.mp (lookup d mem)).1
  have positions :
      (found.pmap (fun d lt => (⟨d.1, lt⟩ : Fin l.length)) inRange).Pairwise (· < ·) := by
    rw [List.pairwise_pmap]
    rw [List.pairwise_map] at increasing
    exact increasing.imp fun lt _ _ => lt
  have sub := List.map_getElem_sublist positions
  rw [List.map_pmap] at sub
  have values : found.pmap (fun d lt => l[(⟨d.1, lt⟩ : Fin l.length)]) inRange =
      found.map Prod.snd := by
    rw [← List.pmap_eq_map inRange]
    apply List.pmap_congr_left
    intro d mem lt _
    exact Option.some.inj ((List.getElem?_eq_getElem lt).symm.trans (lookup d mem))
  exact values ▸ sub

/-! ### At most once, in order -/

/-- Deliveries go up in the order of the started commands and carry their bytes. -/
theorem Link.deliveries_increasing (v : UartVariant) (s : UartSender) (ackTimeoutMs : UInt32)
    (retryLimit : UInt8) (actions : List LinkAction) :
    let l := Link.run v (Link.fresh s ackTimeoutMs retryLimit) actions
    (l.delivered.map Prod.fst).Pairwise (· < ·) ∧
      ∀ d ∈ l.delivered, l.started[d.1]? = some d.2 := by
  obtain ⟨consistent, path⟩ := Link.reachable v s ackTimeoutMs retryLimit receiverInit actions
  exact ⟨(Inv.reachable path).delivered_sorted, consistent.delivered_cmds⟩

/-- The commands flagged `RX_DELIVER` are a subsequence of the commands
`SenderStart` accepted, and no started command is delivered twice. -/
theorem delivers_in_order (v : UartVariant) (s : UartSender) (ackTimeoutMs : UInt32)
    (retryLimit : UInt8) (actions : List LinkAction) :
    let l := Link.run v (Link.fresh s ackTimeoutMs retryLimit) actions
    (l.delivered.map Prod.snd).Sublist l.started ∧
      (l.delivered.map Prod.fst).Pairwise (· < ·) ∧
      ∀ d ∈ l.delivered, l.started[d.1]? = some d.2 := by
  obtain ⟨increasing, lookup⟩ := Link.deliveries_increasing v s ackTimeoutMs retryLimit actions
  exact ⟨sublist_of_positions increasing lookup, increasing, lookup⟩

/-! ### What a reported success means -/

/-- Every command reported acknowledged was delivered, with its command byte. -/
def Link.SuccessesDelivered (l : Link) : Prop :=
  ∀ n ∈ l.acked, ∃ d ∈ l.delivered, d.1 = n ∧ l.started[n]? = some d.2

instance (l : Link) : Decidable l.SuccessesDelivered := by
  unfold Link.SuccessesDelivered; infer_instance

/-- A success means that a command with the same 8-bit sequence number was
delivered. While every success is for one of the first 256 started commands or
comes fewer than 256 starts after an earlier success, it is that very command. -/
theorem acked_command_delivered (v : UartVariant) (s : UartSender) (ackTimeoutMs : UInt32)
    (retryLimit : UInt8) (actions : List LinkAction) :
    let l := Link.run v (Link.fresh s ackTimeoutMs retryLimit) actions
    (∀ n ∈ l.acked, ∃ d ∈ l.delivered, d.1 ≤ n ∧ d.1 % 256 = n % 256 ∧
        l.started[d.1]? = some d.2) ∧
      (SuccessesWithin 256 l.acked → l.SuccessesDelivered) := by
  intro l
  obtain ⟨consistent, path⟩ := Link.reachable v s ackTimeoutMs retryLimit receiverInit actions
  have lookup := consistent.delivered_cmds
  constructor
  · intro n acked
    rcases (Inv.reachable path).acked_covered n acked with ⟨k, mem, le, same⟩ | remembered
    · obtain ⟨d, hd, rfl⟩ := List.mem_map.mp mem
      exact ⟨d, hd, le, label_eq_iff.mp same, lookup d hd⟩
    · simp at remembered
  · intro spaced n acked
    have mem := acked_delivered label_distinctWithin path spaced n acked
    obtain ⟨d, hd, rfl⟩ := List.mem_map.mp mem
    exact ⟨d, hd, rfl, lookup d hd⟩

/-! ### The boundary: an outage of 255 give-ups -/

/-- One command started at `t` ms, its frame and all five retries lost, given up. -/
def lostCommand (cmd : UInt8) (t : UInt32) : List LinkAction :=
  [.start cmd t, .loseData 0, .poll (t + 20), .loseData 0, .poll (t + 40), .loseData 0,
    .poll (t + 60), .loseData 0, .poll (t + 80), .loseData 0, .poll (t + 100), .loseData 0,
    .poll (t + 120)]

/-- An OPEN that is delivered and acknowledged, then `lost` OPENs given up. -/
def outage : ℕ → List LinkAction
  | 0 => [.start slopeUartReqOpen 0, .receive, .acknowledge]
  | lost + 1 => outage lost ++ lostCommand slopeUartReqOpen (120 * UInt32.ofNat (lost + 1))

/-- The slope link, with the default timeout and retry limit, after the outage. -/
def afterOutage (lost : ℕ) : Link := Link.run .slope (Link.fresh .zero 0 0) (outage lost)

theorem run_lostCommand {v : UartVariant} {l : Link} {cmd : UInt8} (t : UInt32)
    (idle : l.sender.waitingAck = false) (data : l.data = [])
    (limit : l.sender.retryLimit = 5) (timeout : l.sender.ackTimeoutMs = 20)
    (valid : v.cmdIsValid cmd = true) :
    l.run v (lostCommand cmd t) = { l with
      sender := { l.sender with
        nextSeq := l.sender.nextSeq + 1
        pendingSeq := l.sender.nextSeq
        pendingFrame := encodeData l.sender.nextSeq cmd
        retryCount := 5
        lastTxMs := t + 100 }
      started := l.started ++ [cmd] } := by
  obtain ⟨⟨waiting, pendingSeq, retryCount, retryLimit, nextSeq, ackTimeout, lastTx, frame⟩,
    receiver, lineData, acks, started, delivered, acked⟩ := l
  simp only at idle data limit timeout
  subst idle data limit timeout
  have first : t + 20 - t = 20 := by grind
  have second : t + 40 - (t + 20) = 20 := by grind
  have third : t + 60 - (t + 40) = 20 := by grind
  have fourth : t + 80 - (t + 60) = 20 := by grind
  have fifth : t + 100 - (t + 80) = 20 := by grind
  have last : t + 120 - (t + 100) = 20 := by grind
  simp [lostCommand, Link.step, Link.start, Link.poll, Link.loseData, senderStart, senderPoll,
    valid, first, second, third, fourth, fifth, last]

/-- Nothing is left on the lines, and the receiver still remembers the first OPEN. -/
structure Outage (lost : ℕ) (l : Link) : Prop where
  idle : l.sender.waitingAck = false
  limit : l.sender.retryLimit = 5
  timeout : l.sender.ackTimeoutMs = 20
  next_seq : l.sender.nextSeq = label (lost + 1)
  receiver : l.receiver = ⟨true, 0⟩
  data : l.data = []
  acks : l.acks = []
  started : l.started = List.replicate (lost + 1) slopeUartReqOpen
  delivered : l.delivered = [(0, slopeUartReqOpen)]
  acked : l.acked = [0]

theorem outage_afterOutage (lost : ℕ) : Outage lost (afterOutage lost) := by
  induction lost with
  | zero => constructor <;> decide +kernel
  | succ lost ih =>
      have run : afterOutage (lost + 1) = (afterOutage lost).run .slope
          (lostCommand slopeUartReqOpen (120 * UInt32.ofNat (lost + 1))) := Runs.run_append ..
      rw [run_lostCommand _ ih.idle ih.data ih.limit ih.timeout (by decide)] at run
      rw [run]
      exact { ih with
        next_seq := by rw [label_succ (lost + 1), ← ih.next_seq]
        started := by rw [ih.started, List.replicate_succ' (n := lost + 1)] }

/-- A command whose sequence number the receiver remembers: acknowledged at the
first attempt and not delivered. -/
theorem run_suppressed {v : UartVariant} {l : Link} {cmd : UInt8} (t : UInt32)
    (idle : l.sender.waitingAck = false) (data : l.data = []) (acks : l.acks = [])
    (remembers : l.receiver = ⟨true, l.sender.nextSeq⟩) (valid : v.cmdIsValid cmd = true) :
    l.run v [.start cmd t, .receive, .acknowledge] = { l with
      sender := { l.sender with
        nextSeq := l.sender.nextSeq + 1
        pendingSeq := l.sender.nextSeq
        pendingFrame := encodeData l.sender.nextSeq cmd
        retryCount := 0
        lastTxMs := t }
      started := l.started ++ [cmd]
      acked := l.acked ++ [l.started.length] } := by
  obtain ⟨⟨waiting, pendingSeq, retryCount, retryLimit, nextSeq, ackTimeout, lastTx, frame⟩,
    receiver, lineData, lineAcks, started, delivered, acked⟩ := l
  simp only at idle data acks remembers
  subst idle data acks remembers
  simp [Link.step, Link.start, Link.receive, Link.acknowledge, senderStart, senderOnFrame,
    receiverOnFrame, decodeFrame_encodeData, decodeFrame_encodeAck, valid]

/-- A link in which a reported success was not delivered. -/
theorem Outage.close_undelivered {l : Link} (quiet : Outage 255 l) :
    let l' := l.run .slope [.start slopeUartReqClose 30720, .receive, .acknowledge]
    256 ∈ l'.acked ∧ l'.started[256]? = some slopeUartReqClose ∧
      l'.delivered = [(0, slopeUartReqOpen)] ∧ ¬ l'.SuccessesDelivered := by
  have remembers : l.receiver = ⟨true, l.sender.nextSeq⟩ := by
    rw [quiet.receiver, quiet.next_seq]
    rfl
  have count : l.started.length = 256 := by rw [quiet.started, List.length_replicate]
  rw [run_suppressed 30720 quiet.idle quiet.data quiet.acks remembers (by decide)]
  have acked : 256 ∈ l.acked ++ [l.started.length] := by simp [count]
  have found : (l.started ++ [slopeUartReqClose])[256]? = some slopeUartReqClose := by
    rw [← count, List.getElem?_concat_length]
  refine ⟨acked, found, quiet.delivered, ?_⟩
  intro all
  obtain ⟨d, mem, index, -⟩ := all 256 acked
  rw [quiet.delivered] at mem
  simp [List.mem_singleton.mp mem] at index

/-- After 255 give-ups in a row a CLOSE is reported acknowledged, but the
receiver took it for a copy of the first OPEN. -/
theorem outage_success_undelivered :
    let l := (afterOutage 255).run .slope [.start slopeUartReqClose 30720, .receive, .acknowledge]
    256 ∈ l.acked ∧ l.started[256]? = some slopeUartReqClose ∧
      l.delivered = [(0, slopeUartReqOpen)] ∧ ¬ l.SuccessesDelivered :=
  (outage_afterOutage 255).close_undelivered

/-- Two give-ups between an acknowledged OPEN and an acknowledged CLOSE. -/
def shortOutage : List LinkAction :=
  outage 2 ++ [.start slopeUartReqClose 360, .receive, .acknowledge]

/-- After the short outage both successes are what they say. -/
theorem short_outage_success_delivered :
    let l := Link.run .slope (Link.fresh .zero 0 0) shortOutage
    l.acked = [0, 3] ∧ l.SuccessesDelivered := by
  have acked : (Link.run .slope (Link.fresh .zero 0 0) shortOutage).acked = [0, 3] := by
    decide +kernel
  have spaced : SuccessesWithin 256 (Link.run .slope (Link.fresh .zero 0 0) shortOutage).acked := by
    rw [acked]
    decide
  exact ⟨acked, (acked_command_delivered .slope .zero 0 0 shortOutage).2 spaced⟩

end SmartBusAccess.Uart
