import SmartBusAccess.Uart.Frame

/-!
Sender and receiver of the UART protocol (`slope_uart.c`, `ble_uart.c`): one
command outstanding, resent until it is acknowledged or given up, and a receiver
that suppresses a frame with the sequence number it saw last.

A C function that returns 0 and writes nothing returns `none`.
-/

namespace SmartBusAccess.Uart

/-! ### Sender -/

abbrev defaultAckTimeoutMs : UInt32 := 20
abbrev defaultRetryLimit : UInt8 := 5

structure UartSender where
  waitingAck : Bool
  pendingSeq : UInt8
  retryCount : UInt8
  retryLimit : UInt8
  nextSeq : UInt8
  ackTimeoutMs : UInt32
  lastTxMs : UInt32
  pendingFrame : UartFrame
deriving DecidableEq, Repr

/-- A sender in zeroed static memory. -/
def UartSender.zero : UartSender :=
  ⟨false, 0, 0, 0, 0, 0, 0, ⟨#v[0, 0, 0, 0, 0, 0]⟩⟩

/-- Leaves `pending_frame` as it was, as the source does. -/
def senderInit (s : UartSender) (ackTimeoutMs : UInt32) (retryLimit : UInt8) : UartSender :=
  { s with
    waitingAck := false
    pendingSeq := 0
    retryCount := 0
    retryLimit := if retryLimit == 0 then defaultRetryLimit else retryLimit
    nextSeq := 0
    ackTimeoutMs := if ackTimeoutMs == 0 then defaultAckTimeoutMs else ackTimeoutMs
    lastTxMs := 0 }

def senderIsBusy (s : UartSender) : Bool := s.waitingAck

def senderStart (cmdIsValid : UInt8 → Bool) (s : UartSender) (cmd : UInt8) (nowMs : UInt32) :
    Option (UartSender × UartFrame) :=
  if s.waitingAck then none
  else if !cmdIsValid cmd then none
  else
    let seq := s.nextSeq
    let frame := encodeData seq cmd
    some ({ s with
      nextSeq := s.nextSeq + 1
      pendingFrame := frame
      waitingAck := true
      pendingSeq := seq
      retryCount := 0
      lastTxMs := nowMs }, frame)

def senderOnFrame (s : UartSender) (rx : DecodedFrame) : Option UartSender :=
  if !s.waitingAck then none
  else if rx.type != typeAck then none
  else if rx.seq != s.pendingSeq then none
  else some { s with waitingAck := false }

/-- `SENDER_POLL_NONE`, `SENDER_POLL_RESEND` with the frame, `SENDER_POLL_GIVEUP`. -/
inductive SenderPollResult where
  | none
  | resend (frame : UartFrame)
  | giveUp
deriving DecidableEq, Repr

def senderPoll (s : UartSender) (nowMs : UInt32) : UartSender × SenderPollResult :=
  if !s.waitingAck then (s, .none)
  else
    let elapsed := nowMs - s.lastTxMs
    if elapsed < s.ackTimeoutMs then (s, .none)
    else if s.retryCount < s.retryLimit then
      ({ s with retryCount := s.retryCount + 1, lastTxMs := nowMs }, .resend s.pendingFrame)
    else ({ s with waitingAck := false }, .giveUp)

/-! ### Receiver -/

structure UartReceiver where
  hasLastSeq : Bool
  lastSeq : UInt8
deriving DecidableEq, Repr

def receiverInit : UartReceiver := ⟨false, 0⟩

/-- The flags: `RX_SEND_ACK` with the frame to send, `RX_DELIVER` with the
command to deliver. -/
structure RxResult where
  sendAck : Option UartFrame
  deliver : Option UInt8
deriving DecidableEq, Repr

def receiverOnFrame (cmdIsValid : UInt8 → Bool) (r : UartReceiver) (rx : DecodedFrame) :
    UartReceiver × RxResult :=
  if rx.type != typeData then (r, ⟨none, none⟩)
  else if !cmdIsValid rx.cmd then (r, ⟨none, none⟩)
  else
    let ack := encodeAck rx.seq
    if !r.hasLastSeq || r.lastSeq != rx.seq then (⟨true, rx.seq⟩, ⟨some ack, some rx.cmd⟩)
    else (r, ⟨some ack, none⟩)

/-- The sequence number the receiver compares with, if it has one. -/
def UartReceiver.memory (r : UartReceiver) : Option UInt8 :=
  if r.hasLastSeq then some r.lastSeq else none

@[simp] theorem memory_receiverInit : receiverInit.memory = none := rfl

/-! ### What each operation does -/

theorem senderStart_cases {cmdIsValid : UInt8 → Bool} {s s' : UartSender} {cmd : UInt8}
    {nowMs : UInt32} {frame : UartFrame}
    (started : senderStart cmdIsValid s cmd nowMs = some (s', frame)) :
    s.waitingAck = false ∧ cmdIsValid cmd = true ∧ frame = encodeData s.nextSeq cmd ∧
      s' = { s with nextSeq := s.nextSeq + 1, pendingFrame := frame, waitingAck := true,
                    pendingSeq := s.nextSeq, retryCount := 0, lastTxMs := nowMs } := by
  unfold senderStart at started
  cases busy : s.waitingAck with
  | true => simp [busy] at started
  | false =>
      cases valid : cmdIsValid cmd with
      | false => simp [busy, valid] at started
      | true =>
          simp only [busy, valid, Bool.not_true, Bool.false_eq_true, if_false, Option.some.injEq,
            Prod.mk.injEq] at started
          exact ⟨rfl, rfl, started.2.symm, started.1 ▸ started.2 ▸ rfl⟩

/-- An idle sender accepts every valid command. -/
theorem senderStart_idle {cmdIsValid : UInt8 → Bool} {s : UartSender} {cmd : UInt8}
    (nowMs : UInt32) (idle : s.waitingAck = false) (valid : cmdIsValid cmd = true) :
    senderStart cmdIsValid s cmd nowMs = some
      ({ s with nextSeq := s.nextSeq + 1, pendingFrame := encodeData s.nextSeq cmd,
                waitingAck := true, pendingSeq := s.nextSeq, retryCount := 0, lastTxMs := nowMs },
        encodeData s.nextSeq cmd) := by
  simp [senderStart, idle, valid]

theorem senderOnFrame_cases {s s' : UartSender} {rx : DecodedFrame}
    (accepted : senderOnFrame s rx = some s') :
    s.waitingAck = true ∧ rx.type = typeAck ∧ rx.seq = s.pendingSeq ∧
      s' = { s with waitingAck := false } := by
  unfold senderOnFrame at accepted
  cases busy : s.waitingAck with
  | false => simp [busy] at accepted
  | true =>
      by_cases ack : rx.type = typeAck
      · by_cases same : rx.seq = s.pendingSeq
        · simp only [busy, ack, same, Bool.not_true, Bool.false_eq_true, bne_self_eq_false,
            if_false, Option.some.injEq] at accepted
          exact ⟨rfl, ack, same, accepted.symm⟩
        · simp [busy, ack, same] at accepted
      · simp [busy, ack] at accepted

/-- The outstanding frame has used up its retries and its last timeout is over. -/
def UartSender.giveUpDue (s : UartSender) (nowMs : UInt32) : Bool :=
  s.waitingAck && !(nowMs - s.lastTxMs < s.ackTimeoutMs) && !(s.retryCount < s.retryLimit)

/-- A poll does something when the sender waits and the timeout is over. -/
theorem senderPoll_due (s : UartSender) (nowMs : UInt32) :
    ((s.waitingAck = true → ¬s.ackTimeoutMs ≤ nowMs - s.lastTxMs) ∧
      senderPoll s nowMs = (s, .none)) ∨
    (s.waitingAck = true ∧ s.ackTimeoutMs ≤ nowMs - s.lastTxMs ∧
      ((s.retryCount < s.retryLimit ∧ senderPoll s nowMs =
        ({ s with retryCount := s.retryCount + 1, lastTxMs := nowMs }, .resend s.pendingFrame)) ∨
      (¬s.retryCount < s.retryLimit ∧
        senderPoll s nowMs = ({ s with waitingAck := false }, .giveUp)))) := by
  unfold senderPoll
  cases busy : s.waitingAck with
  | false => simp
  | true =>
      by_cases early : nowMs - s.lastTxMs < s.ackTimeoutMs
      · simp [early]
      · have late : s.ackTimeoutMs ≤ nowMs - s.lastTxMs := UInt32.not_lt.mp early
        by_cases retry : s.retryCount < s.retryLimit
        · simp [early, late, retry]
        · simp [early, late, retry]

theorem senderPoll_cases (s : UartSender) (nowMs : UInt32) :
    (s.giveUpDue nowMs = false ∧ senderPoll s nowMs = (s, .none)) ∨
    (s.waitingAck = true ∧ s.giveUpDue nowMs = false ∧ senderPoll s nowMs =
      ({ s with retryCount := s.retryCount + 1, lastTxMs := nowMs }, .resend s.pendingFrame)) ∨
    (s.waitingAck = true ∧ s.giveUpDue nowMs = true ∧
      senderPoll s nowMs = ({ s with waitingAck := false }, .giveUp)) := by
  rcases senderPoll_due s nowMs with ⟨early, quiet⟩ | ⟨busy, late, ⟨retry, resend⟩ | ⟨retry, giveUp⟩⟩
  · refine .inl ⟨?_, quiet⟩
    cases busy : s.waitingAck with
    | false => simp [UartSender.giveUpDue, busy]
    | true => simp [UartSender.giveUpDue, UInt32.not_le.mp (early busy)]
  · exact .inr (.inl ⟨busy, by simp [UartSender.giveUpDue, retry], resend⟩)
  · exact .inr (.inr ⟨busy, by simp [UartSender.giveUpDue, busy, UInt32.not_lt.mpr late, retry],
      giveUp⟩)

theorem receiverOnFrame_data {cmdIsValid : UInt8 → Bool} {cmd : UInt8} (r : UartReceiver)
    (seq : UInt8) (valid : cmdIsValid cmd = true) :
    (r.memory ≠ some seq ∧ receiverOnFrame cmdIsValid r ⟨typeData, seq, cmd⟩ =
      (⟨true, seq⟩, ⟨some (encodeAck seq), some cmd⟩)) ∨
    (r.memory = some seq ∧ receiverOnFrame cmdIsValid r ⟨typeData, seq, cmd⟩ =
      (r, ⟨some (encodeAck seq), none⟩)) := by
  unfold receiverOnFrame UartReceiver.memory
  cases known : r.hasLastSeq with
  | false => simp [valid]
  | true =>
      by_cases same : r.lastSeq = seq
      · simp [valid, same]
      · simp [valid, same]

/-! ### The functions under their source names -/

abbrev slopeUartSenderInit := senderInit
abbrev slopeUartSenderIsBusy := senderIsBusy
abbrev slopeUartSenderStart := senderStart slopeUartCmdIsValid
abbrev slopeUartSenderOnFrame := senderOnFrame
abbrev slopeUartSenderPoll := senderPoll
abbrev slopeUartReceiverInit := receiverInit
abbrev slopeUartReceiverOnFrame := receiverOnFrame slopeUartCmdIsValid

abbrev bleUartSenderInit := senderInit
abbrev bleUartSenderIsBusy := senderIsBusy
abbrev bleUartSenderOnFrame := senderOnFrame
abbrev bleUartSenderPoll := senderPoll
abbrev bleUartReceiverInit := receiverInit
abbrev bleUartReceiverOnFrame := receiverOnFrame bleUartCmdIsValid

end SmartBusAccess.Uart
