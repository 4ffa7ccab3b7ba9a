import Mathlib.Tactic.IntervalCases
import SmartBusAccess.Can.Tc3xx

/-!
From a frame sent on a TC3xx channel to the frame received on another.

The driver puts the id type, mode and length of a frame into the header of a message through
one set of tables and reads them back through another. These are inverse to each other on
every frame that it accepts (`canTC3xxDecode_encoded`), so it is enough that the library hands
over the header and the data words it was given (`IfxCanHandOver`).
-/

namespace SmartBusAccess.Can

variable {HW : Type}

/-! ### The tables -/

@[simp] theorem canTC3xxFromFrameMode_to (mode : CANMode) :
    canTC3xxFromFrameMode (canTC3xxToFrameMode mode) = some mode := by
  cases mode <;> rfl

@[simp] theorem canTC3xxFromMessageIdLength_to (idType : CANIdType) :
    canTC3xxFromMessageIdLength (canTC3xxToMessageIdLength idType) = some idType := by
  cases idType <;> rfl

theorem canTC3xxDlcToLen_of_lenToDlc {len : UInt8} {dlc : IfxCanDataLengthCode}
    (coded : canTC3xxLenToDlc len = some dlc) : canTC3xxDlcToLen dlc = len := by
  unfold canTC3xxLenToDlc at coded
  split at coded
  all_goals
    first
    | cases coded
      rename_i here
      exact UInt8.toNat_inj.mp here.symm
    | cases coded

/-- Every valid length has a code. -/
theorem canTC3xxLenToDlc_valid {mode : CANMode} {len : UInt8}
    (valid : canTC3xxIsValidPayloadLength mode len = true) :
    ∃ dlc, canTC3xxLenToDlc len = some dlc ∧ canTC3xxDlcToLen dlc = len := by
  suffices coded : ∃ dlc, canTC3xxLenToDlc len = some dlc by
    obtain ⟨dlc, coded⟩ := coded
    exact ⟨dlc, coded, canTC3xxDlcToLen_of_lenToDlc coded⟩
  unfold canTC3xxIsValidPayloadLength at valid
  unfold canTC3xxLenToDlc
  split at valid
  · have short : len.toNat ≤ 8 := UInt8.le_iff_toNat_le.mp (by simpa using valid)
    generalize len.toNat = n at short ⊢
    interval_cases n <;> exact ⟨_, rfl⟩
  · generalize len.toNat = n at valid ⊢
    split at valid <;> first | exact ⟨_, rfl⟩ | cases valid

/-! ### A frame in a message -/

/-- The header of a message stands for the frame. -/
structure CANFrame.EncodedBy (frame : CANFrame) (message : IfxCanMessage) : Prop where
  messageId : message.messageId = frame.id
  idLength : message.messageIdLength = canTC3xxToMessageIdLength frame.idType
  frameMode : message.frameMode = canTC3xxToFrameMode frame.mode
  length : canTC3xxDlcToLen message.dataLengthCode = frame.len

/-- The header that is handed over, without where it is read from. -/
structure IfxCanMessage.SameHeader (message message' : IfxCanMessage) : Prop where
  messageId : message'.messageId = message.messageId
  idLength : message'.messageIdLength = message.messageIdLength
  frameMode : message'.frameMode = message.frameMode
  length : message'.dataLengthCode = message.dataLengthCode

theorem canTC3xxValidateFrame_length {c : CANTC3xxChannel} {frame : CANFrame}
    (valid : canTC3xxValidateFrame c frame = .ok) :
    canTC3xxIsValidPayloadLength frame.mode frame.len = true := by
  by_contra invalid
  have refused := Bool.not_eq_true _ ▸ invalid
  by_cases large : frame.id > frame.idType.maxId <;>
    simp [canTC3xxValidateFrame, large, refused] at valid

theorem firstBytes_getElem (len : UInt8) (data : Vector UInt8 64) (i : Nat) (bound : i < 64) :
    (firstBytes len data)[i] = if i < len.toNat then data[i] else 0 := by
  simp [firstBytes]

theorem firstBytes_congr {len : UInt8} {data data' : Vector UInt8 64}
    (same : ∀ i, (bound : i < 64) → i < len.toNat → data'[i] = data[i]) :
    firstBytes len data' = firstBytes len data := by
  apply Vector.ext
  intro i bound
  rw [firstBytes_getElem, firstBytes_getElem]
  split
  · exact same i bound ‹_›
  · rfl

theorem firstBytes_idem (len : UInt8) (data : Vector UInt8 64) :
    firstBytes len (firstBytes len data) = firstBytes len data := by
  apply firstBytes_congr
  intro i bound within
  rw [firstBytes_getElem, if_pos within]

/-- What is read back from the message of an accepted frame. -/
theorem canTC3xxDecode_encoded {frame : CANFrame} {message message' : IfxCanMessage}
    {data data' : Vector UInt8 64} (encoded : frame.EncodedBy message)
    (valid : canTC3xxIsValidPayloadLength frame.mode frame.len = true)
    (header : message.SameHeader message')
    (bytes : ∀ i, (bound : i < 64) → i < frame.len.toNat → data'[i] = data[i]) :
    canTC3xxDecode message' data' = .ok { frame with data := firstBytes frame.len data } := by
  simp only [canTC3xxDecode, header.idLength, header.frameMode, header.length, header.messageId,
    encoded.idLength, encoded.frameMode, encoded.length, encoded.messageId,
    canTC3xxFromMessageIdLength_to, canTC3xxFromFrameMode_to, valid, firstBytes_congr bytes]
  rfl

/-- What decodes is valid. -/
theorem canTC3xxDecode_valid {message : IfxCanMessage} {data : Vector UInt8 64} {frame : CANFrame}
    (decoded : canTC3xxDecode message data = .ok frame) :
    canTC3xxIsValidPayloadLength frame.mode frame.len = true := by
  simp only [canTC3xxDecode] at decoded
  split at decoded
  · cases decoded
  split at decoded
  · cases decoded
  split at decoded
  · cases decoded
  · rename_i valid
    cases decoded
    simpa using valid

/-- What does not decode is an error. -/
theorem canTC3xxDecode_error {message : IfxCanMessage} {data : Vector UInt8 64} {status : CANStatus}
    (failed : canTC3xxDecode message data = .error status) : status ≠ .ok := by
  rintro rfl
  simp only [canTC3xxDecode] at failed
  split at failed
  · cases failed
  split at failed
  · cases failed
  split at failed <;> cases failed

/-! ### Sending and receiving -/

/-- An accepted frame goes to the library as a message that stands for it. -/
theorem canTC3xxSend_valid (ifx : IfxCan HW) {w : CANTC3xxWorld HW} {channel : Nat}
    {frame : CANFrame} (isOpen : (w.channels channel).isOpen)
    (isStarted : (w.channels channel).isStarted)
    (valid : canTC3xxValidateFrame (w.channels channel) frame = .ok) :
    ∃ message, frame.EncodedBy message ∧
      let sent := ifx.sendMessage w.hw (w.channels channel).canNode message
        (firstBytes frame.len frame.data)
      (canTC3xxSend ifx w channel frame).1 = { w with hw := sent.1 } ∧
        ((canTC3xxSend ifx w channel frame).2 = .ok ↔ sent.2 = .ok) := by
  obtain ⟨dlc, coded, length⟩ := canTC3xxLenToDlc_valid (canTC3xxValidateFrame_length valid)
  refine ⟨{ ifxCanInitMessage with
    bufferNumber := (w.channels channel).txBufferNumber
    messageId := frame.id
    messageIdLength := canTC3xxToMessageIdLength frame.idType
    frameMode := canTC3xxToFrameMode frame.mode
    dataLengthCode := dlc }, ⟨rfl, rfl, rfl, length⟩, ?_, ?_⟩
  · simp [canTC3xxSend, isOpen, isStarted, valid, coded]
  · simp only [canTC3xxSend, isOpen, isStarted, valid, coded]
    generalize (ifx.sendMessage _ _ _ _).2 = status
    cases status <;> simp

/-- A receive reads a message when there is one. -/
theorem canTC3xxReceive_pending (ifx : IfxCan HW) {w : CANTC3xxWorld HW} {channel : Nat}
    (isOpen : (w.channels channel).isOpen) (isStarted : (w.channels channel).isStarted)
    (pending : canTC3xxRxPending ifx w.hw (w.channels channel) = true) (buffer : CANFrame) :
    ∃ request,
      let read := ifx.readMessage w.hw (w.channels channel).canNode request (Vector.replicate 64 0)
      ∀ received, canTC3xxDecode read.2.1 read.2.2 = .ok received →
        (canTC3xxReceive ifx w channel buffer).2 = (.ok, received) := by
  refine ⟨if (w.channels channel).useRxFifo0 then { ifxCanInitMessage with readFromRxFifo0 := true }
    else { ifxCanInitMessage with bufferNumber := (w.channels channel).rxBufferNumber }, ?_⟩
  intro read received decoded
  simp only [canTC3xxReceive, isOpen, isStarted, pending]
  simp only [Bool.not_true, Bool.or_self, Bool.false_eq_true, if_false]
  rw [decoded]

theorem canTC3xxReceive_valid (ifx : IfxCan HW) (w : CANTC3xxWorld HW) (channel : Nat)
    (buffer : CANFrame) (ok : (canTC3xxReceive ifx w channel buffer).2.1 = .ok) :
    canTC3xxIsValidPayloadLength (canTC3xxReceive ifx w channel buffer).2.2.mode
      (canTC3xxReceive ifx w channel buffer).2.2.len = true := by
  revert ok
  simp only [canTC3xxReceive]
  split
  · simp
  split
  · simp
  split
  · rename_i status failed
    intro ok
    exact absurd ok (canTC3xxDecode_error failed)
  · rename_i received decoded
    intro _
    exact canTC3xxDecode_valid decoded

/-- A library that hands a message over unchanged, from the node of one channel to where
another receives: header and data, as far as the length goes. -/
structure IfxCanHandOver (ifx : IfxCan HW) (sender receiver : CANTC3xxChannel) where
  inTransit : HW → Option (IfxCanMessage × Vector UInt8 64)
  sent : ∀ hw message data, (ifx.sendMessage hw sender.canNode message data).2 = .ok →
    inTransit (ifx.sendMessage hw sender.canNode message data).1 = some (message, data)
  pending : ∀ hw message data, inTransit hw = some (message, data) →
    canTC3xxRxPending ifx hw receiver = true
  read : ∀ hw request message data, inTransit hw = some (message, data) →
    let read := ifx.readMessage hw receiver.canNode request (Vector.replicate 64 0)
    message.SameHeader read.2.1 ∧
      ∀ i, (bound : i < 64) → i < (canTC3xxDlcToLen message.dataLengthCode).toNat →
        read.2.2[i] = data[i]

/-- A frame that a channel accepts, and that the library takes and hands over, is received as
it was sent, its data after the first `len` bytes zero. What is received is always valid. -/
theorem tc3xx_frame_round_trip (ifx : IfxCan HW) (w : CANTC3xxWorld HW) (channel : Nat)
    (frame : CANFrame) (isOpen : (w.channels channel).isOpen)
    (isStarted : (w.channels channel).isStarted)
    (valid : canTC3xxValidateFrame (w.channels channel) frame = .ok)
    (taken : ∀ message, frame.EncodedBy message →
      (ifx.sendMessage w.hw (w.channels channel).canNode message
        (firstBytes frame.len frame.data)).2 = .ok)
    (w' : CANTC3xxWorld HW) (channel' : Nat) (isOpen' : (w'.channels channel').isOpen)
    (isStarted' : (w'.channels channel').isStarted)
    (carried : IfxCanHandOver ifx (w.channels channel) (w'.channels channel'))
    (kept : carried.inTransit w'.hw = carried.inTransit (canTC3xxSend ifx w channel frame).1.hw)
    (buffer : CANFrame) :
    (canTC3xxSend ifx w channel frame).2 = .ok ∧
      (∃ received, (canTC3xxReceive ifx w' channel' buffer).2 = (.ok, received) ∧
        received.idType = frame.idType ∧ received.id = frame.id ∧ received.mode = frame.mode ∧
        received.len = frame.len ∧
        ∀ i, (bound : i < 64) → received.data[i] = if i < frame.len.toNat then frame.data[i] else 0) ∧
      ∀ (w : CANTC3xxWorld HW) (channel : Nat) (buffer : CANFrame),
        (canTC3xxReceive ifx w channel buffer).2.1 = .ok →
          canTC3xxIsValidPayloadLength (canTC3xxReceive ifx w channel buffer).2.2.mode
            (canTC3xxReceive ifx w channel buffer).2.2.len = true := by
  obtain ⟨message, encoded, left, status⟩ := canTC3xxSend_valid ifx isOpen isStarted valid
  refine ⟨status.mpr (taken message encoded), ?_, canTC3xxReceive_valid ifx⟩
  have there := carried.sent w.hw message (firstBytes frame.len frame.data)
    (taken message encoded)
  rw [left] at kept
  rw [← kept] at there
  obtain ⟨request, received⟩ := canTC3xxReceive_pending ifx isOpen' isStarted'
    (carried.pending _ _ _ there) buffer
  obtain ⟨header, bytes⟩ := carried.read w'.hw request _ _ there
  rw [encoded.length] at bytes
  have decoded := canTC3xxDecode_encoded encoded (canTC3xxValidateFrame_length valid) header bytes
  refine ⟨_, received _ decoded, rfl, rfl, rfl, rfl, ?_⟩
  intro i bound
  rw [firstBytes_idem, firstBytes_getElem]

/-- A library with one mailbox, in which a message stays until it is read. -/
def mailboxIfx : IfxCan (Option (IfxCanMessage × Vector UInt8 64)) where
  hasModuleCan1 := true
  initModule hw _ := hw
  initNode hw _ _ := hw
  setFilter hw _ _ := hw
  sendMessage
    | none, _, message, data => (some (message, data), .ok)
    | some full, _, _, _ => (some full, .notSentBusy)
  rxFifo0FillLevel hw _ := if hw.isSome then 1 else 0
  isNewDataReceived hw _ _ := hw.isSome
  readMessage
    | none, _, request, data => (none, request, data)
    | some (message, data), _, request, _ =>
        (none, { message with readFromRxFifo0 := request.readFromRxFifo0 }, data)

/-- A channel that is open and started. -/
def startedChannel : CANTC3xxChannel :=
  { canTC3xxChannelInit with isOpen := true, isStarted := true }

def mailboxWorld (hw : Option (IfxCanMessage × Vector UInt8 64)) :
    CANTC3xxWorld (Option (IfxCanMessage × Vector UInt8 64)) where
  hw := hw
  board := .good
  modules _ := ⟨true, 1⟩
  nodeInUse _ _ := true
  channels _ := startedChannel

def mailboxHandOver : IfxCanHandOver mailboxIfx startedChannel startedChannel where
  inTransit hw := hw
  sent := by
    rintro (_ | full) message data ok
    · rfl
    · cases ok
  pending := by
    rintro hw message data rfl
    rfl
  read := by
    rintro hw request message data rfl
    exact ⟨⟨rfl, rfl, rfl, rfl⟩, fun _ _ _ => rfl⟩

/-- Three bytes on a channel of its own. -/
def threeBytes : CANFrame :=
  { idleFrame with id := 0x123, len := 3, data := Vector.ofFn fun i => UInt8.ofNat (i.val + 1) }

theorem tc3xx_frame_round_trip_three :
    ∃ received, (canTC3xxReceive mailboxIfx
        (mailboxWorld (canTC3xxSend mailboxIfx (mailboxWorld none) 0 threeBytes).1.hw) 1
        idleFrame).2 = (.ok, received) ∧ received.id = 0x123 ∧ received.len = 3 ∧
      received.data[2] = 3 ∧ received.data[3] = 0 := by
  obtain ⟨-, ⟨received, answer, -, id, -, len, bytes⟩, -⟩ := tc3xx_frame_round_trip mailboxIfx
    (mailboxWorld none) 0 threeBytes rfl rfl (by decide) (fun _ _ => rfl)
    (mailboxWorld (canTC3xxSend mailboxIfx (mailboxWorld none) 0 threeBytes).1.hw) 1 rfl rfl
    mailboxHandOver rfl idleFrame
  refine ⟨received, answer, id, len, ?_, ?_⟩
  · rw [bytes 2 (by decide)]
    decide
  · rw [bytes 3 (by decide)]
    decide

end SmartBusAccess.Can
