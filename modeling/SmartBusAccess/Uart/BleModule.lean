import SmartBusAccess.Semantics.Runs
import SmartBusAccess.Semantics.Synchronising
import SmartBusAccess.Uart.SlopeGlue

/-!
The Bluetooth module (`BLE.ino`): it scans for the advertisements of passengers' phones and
keeps the driver ECU in step with what it has seen last.

A scan is the list of devices that the callback is given during it, each with the `millis()`
of the callback. The receive filter is a constant of the source; here it is a parameter, and
`kReceiveFilterMode` the value it has. What the module prints is left out.

* `loop_keeps_step`: a turn of the loop is a path of `Synchronising`;
* `module_in_step`: what is sent, acknowledged and given up, over any run, and that with
  nothing outstanding the driver ECU has acknowledged the wanted command last;
* `request_has_sighting`: a request that is sent has a fresh advertisement.
-/

namespace SmartBusAccess.Uart

open Runs Synchronising

/-! ### Advertisements -/

abbrev kCompanyIdBoarding : UInt16 := 0x1234
abbrev kCompanyIdAlighting : UInt16 := 0x1235

abbrev kBoardingSlopeReqCode : UInt8 := 0xA1
abbrev kAlightingBellCode : UInt8 := 0xB1
abbrev kAlightingSlopeBellCode : UInt8 := 0xB2
abbrev kActiveCode : UInt8 := 0x01

abbrev kMinRssi : Int := -55
abbrev kDetectedHoldMs : UInt32 := 2000

inductive ReceiveFilterMode where
  | boardingOnly
  | alightingOnly
deriving DecidableEq, Repr

abbrev kReceiveFilterMode : ReceiveFilterMode := .boardingOnly

inductive SignalType where
  | none
  | boardingSlopeRequest
  | alightingBell
  | alightingSlopeBell
deriving DecidableEq, Repr

/-- `manufacturerData` is `none` where `haveManufacturerData` is false. -/
structure BLEAdvertisedDevice where
  manufacturerData : Option (List UInt8)
  rssi : Int
deriving DecidableEq, Repr

/-- The length check is the last pattern. -/
def decodeSignalFromManufacturerData : List UInt8 → SignalType
  | low :: high :: code :: active :: _ =>
      let companyId := low.toUInt16 ||| (high.toUInt16 <<< (8 : UInt16))
      if active != kActiveCode then .none
      else if companyId == kCompanyIdBoarding && code == kBoardingSlopeReqCode then
        .boardingSlopeRequest
      else if companyId == kCompanyIdAlighting && code == kAlightingBellCode then .alightingBell
      else if companyId == kCompanyIdAlighting && code == kAlightingSlopeBellCode then
        .alightingSlopeBell
      else .none
  | _ => .none

def matchesReceiveFilter (mode : ReceiveFilterMode) (signal : SignalType) : Bool :=
  match mode with
  | .boardingOnly => signal == .boardingSlopeRequest
  | .alightingOnly => signal == .alightingBell || signal == .alightingSlopeBell

def convertSignalToCmd : SignalType → UInt8
  | .boardingSlopeRequest => bleUartMakeCmd bleUartReqNop bleUartReqOpen
  | .alightingBell => bleUartMakeCmd bleUartReqOpen bleUartReqNop
  | .alightingSlopeBell => bleUartMakeCmd bleUartReqOpen bleUartReqOpen
  | .none => bleUartMakeCmd bleUartReqNop bleUartReqNop

/-- `bleUartCmdIsValid` of the module's own copy of `ble_uart.c`, which has no close. -/
def moduleCmdIsValid (cmd : UInt8) : Bool :=
  if (cmd &&& 0xF0) != 0 then false
  else
    let door := bleUartCmdGetDoor cmd
    let slope := bleUartCmdGetSlope cmd
    if door > bleUartReqOpen then false
    else if slope > bleUartReqOpen then false
    else true

/-! ### The module -/

/-- The static variables. -/
structure BleModule where
  sender : UartSender
  uartRxParser : UartParser
  lastSeenMs : UInt32
  lastDetectedCmd : UInt8
  lastQueuedCmd : UInt8
deriving DecidableEq, Repr

/-- The signal a device is taken for, if the callback does not ignore it. -/
def BLEAdvertisedDevice.signal (mode : ReceiveFilterMode) (device : BLEAdvertisedDevice) :
    Option SignalType :=
  match device.manufacturerData with
  | none => none
  | some md =>
      if md.length < 4 then none
      else
        let signal := decodeSignalFromManufacturerData md
        if signal == .none then none
        else if !matchesReceiveFilter mode signal then none
        else if device.rssi < kMinRssi then none
        else some signal

namespace BleModule

def onResult (mode : ReceiveFilterMode) (m : BleModule) (device : BLEAdvertisedDevice)
    (nowMs : UInt32) : BleModule :=
  match device.signal mode with
  | none => m
  | some signal => { m with lastDetectedCmd := convertSignalToCmd signal, lastSeenMs := nowMs }

/-- The body of the receive loop, for one byte, with whether an acknowledgement is noted. -/
def uartProcessRxByte (m : BleModule) (byte : UInt8) : BleModule × Bool :=
  let (parser, rc) := bleUartParserFeed m.uartRxParser byte
  let m := { m with uartRxParser := parser }
  match rc with
  | .ok decoded =>
      if decoded.type == typeAck then
        match bleUartSenderOnFrame m.sender decoded with
        | some sender => ({ m with sender := sender }, true)
        | none => (m, false)
      else (m, false)
  | _ => (m, false)

def uartProcessRx (m : BleModule) : List UInt8 → BleModule × Bool
  | [] => (m, false)
  | byte :: rest =>
      let (m, acked) := uartProcessRxByte m byte
      let (m, later) := uartProcessRx m rest
      (m, acked || later)

/-- With the frame it writes. -/
def uartTrySendDesiredState (m : BleModule) (desiredCmd : UInt8) (nowMs : UInt32) :
    BleModule × Option UartFrame :=
  if bleUartSenderIsBusy m.sender then (m, none)
  else if desiredCmd == m.lastQueuedCmd then (m, none)
  else
    match senderStart moduleCmdIsValid m.sender desiredCmd nowMs with
    | some (sender, frame) => ({ m with sender := sender, lastQueuedCmd := desiredCmd }, some frame)
    | none => (m, none)

/-- A frame that is sent again is in the result. -/
def uartPollRetry (m : BleModule) (nowMs : UInt32) : BleModule × SenderPollResult :=
  let (sender, rc) := bleUartSenderPoll m.sender nowMs
  let m := { m with sender := sender }
  match rc with
  | .giveUp => ({ m with lastQueuedCmd := neverQueued }, rc)
  | _ => (m, rc)

/-- The static variables before `setup`. -/
def boot : BleModule where
  sender := .zero
  uartRxParser := parserInit
  lastSeenMs := 0
  lastDetectedCmd := bleUartMakeCmd bleUartReqNop bleUartReqNop
  lastQueuedCmd := neverQueued

def setup (m : BleModule) : BleModule :=
  { m with
    sender := bleUartSenderInit m.sender defaultAckTimeoutMs defaultRetryLimit
    uartRxParser := bleUartParserInit }

/-- What a turn of the loop reads: the bytes received, the devices of the scan, and the clock
at each place that reads it. -/
structure LoopInput where
  rx : List UInt8
  retryMs : UInt32
  scan : List (BLEAdvertisedDevice × UInt32)
  nowMs : UInt32
  startMs : UInt32
deriving DecidableEq, Repr

/-- Was an acknowledgement taken, what did the retry poll say, what was started. -/
structure LoopReport where
  acked : Bool
  retry : SenderPollResult
  started : Option UartFrame
deriving DecidableEq, Repr

/-- The callbacks of a scan. -/
def scanned (mode : ReceiveFilterMode) (m : BleModule)
    (scan : List (BLEAdvertisedDevice × UInt32)) : BleModule :=
  scan.foldl (fun m seen => m.onResult mode seen.1 seen.2) m

/-- `desiredCmd` in `loop`. -/
def desiredCmd (m : BleModule) (nowMs : UInt32) : UInt8 :=
  if m.lastSeenMs != 0 && nowMs - m.lastSeenMs ≤ kDetectedHoldMs then m.lastDetectedCmd
  else bleUartMakeCmd bleUartReqNop bleUartReqNop

def loop (mode : ReceiveFilterMode) (m : BleModule) (i : LoopInput) : BleModule × LoopReport :=
  let (m, acked) := m.uartProcessRx i.rx
  let (m, retry) := m.uartPollRetry i.retryMs
  let m := m.scanned mode i.scan
  let (m, started) := m.uartTrySendDesiredState (m.desiredCmd i.nowMs) i.startMs
  (m, ⟨acked, retry, started⟩)

/-- The module after any number of turns. -/
def run (mode : ReceiveFilterMode) (inputs : List LoopInput) : BleModule :=
  Runs.run (next (loop mode)) boot.setup inputs

/-! ### What the parts of a turn do -/

theorem convertSignalToCmd_valid (signal : SignalType) :
    moduleCmdIsValid (convertSignalToCmd signal) = true := by
  cases signal <;> decide

/-- The driver ECU's copy accepts what the module's does. -/
theorem moduleCmdIsValid_valid {cmd : UInt8} (valid : moduleCmdIsValid cmd = true) :
    bleUartCmdIsValid cmd = true := by
  have less {request : UInt8} (le : ¬request > bleUartReqOpen) : ¬request > bleUartReqClose := by
    simp only [gt_iff_lt, UInt8.lt_iff_toNat_lt] at le ⊢
    have bounds : bleUartReqOpen.toNat ≤ bleUartReqClose.toNat := by decide
    omega
  unfold moduleCmdIsValid at valid
  unfold bleUartCmdIsValid
  split
  · rename_i high
    simp [high] at valid
  · rename_i high
    simp only [high, Bool.false_eq_true, if_false] at valid
    split at valid
    · cases valid
    · rename_i door
      split at valid
      · cases valid
      · rename_i slope
        simp [less door, less slope]

theorem convertSignalToCmd_ne_neverQueued (signal : SignalType) :
    convertSignalToCmd signal ≠ neverQueued := by
  cases signal <;> decide

theorem uartProcessRxByte_cases (m : BleModule) (byte : UInt8) :
    ∃ parser, m.uartProcessRxByte byte = ({ m with uartRxParser := parser }, false) ∨
      (m.sender.waitingAck = true ∧ m.uartProcessRxByte byte =
        ({ m with uartRxParser := parser, sender := { m.sender with waitingAck := false } },
          true)) := by
  unfold uartProcessRxByte bleUartParserFeed bleUartSenderOnFrame
  cases fed : parserFeed m.uartRxParser byte with
  | mk parser rc =>
      refine ⟨parser, ?_⟩
      cases rc with
      | ok decoded =>
          by_cases ack : decoded.type = typeAck
          · cases result : senderOnFrame m.sender decoded with
            | none => exact .inl (by simp [ack, result])
            | some sender =>
                obtain ⟨busy, -, -, rfl⟩ := senderOnFrame_cases result
                exact .inr ⟨busy, by simp [ack, result]⟩
          · exact .inl (by simp [ack])
      | none => exact .inl rfl
      | error => exact .inl rfl

/-- The bytes received acknowledge the outstanding frame or change the parser only. -/
theorem uartProcessRx_cases (m : BleModule) (rx : List UInt8) :
    ∃ parser, m.uartProcessRx rx = ({ m with uartRxParser := parser }, false) ∨
      (m.sender.waitingAck = true ∧ m.uartProcessRx rx =
        ({ m with uartRxParser := parser, sender := { m.sender with waitingAck := false } },
          true)) := by
  induction rx generalizing m with
  | nil => exact ⟨m.uartRxParser, .inl rfl⟩
  | cons byte rest ih =>
      rw [uartProcessRx]
      rcases uartProcessRxByte_cases m byte with ⟨parser, same | ⟨busy, acked⟩⟩
      · rw [same]
        dsimp only
        rcases ih { m with uartRxParser := parser } with ⟨parser', same | ⟨busy, acked⟩⟩
        · rw [same]
          exact ⟨parser', .inl rfl⟩
        · rw [acked]
          exact ⟨parser', .inr ⟨busy, rfl⟩⟩
      · rw [acked]
        dsimp only
        -- an idle sender takes no second acknowledgement
        rcases ih { m with uartRxParser := parser, sender := { m.sender with waitingAck := false } }
          with ⟨parser', same | ⟨again, -⟩⟩
        · rw [same]
          exact ⟨parser', .inr ⟨busy, rfl⟩⟩
        · simp at again

theorem uartPollRetry_cases (m : BleModule) (nowMs : UInt32) :
    (∃ sender rc, m.uartPollRetry nowMs = ({ m with sender := sender }, rc) ∧ rc ≠ .giveUp ∧
      sender.waitingAck = m.sender.waitingAck ∧ sender.pendingFrame = m.sender.pendingFrame) ∨
    (m.sender.waitingAck = true ∧ m.uartPollRetry nowMs =
      ({ m with sender := { m.sender with waitingAck := false }, lastQueuedCmd := neverQueued },
        .giveUp)) := by
  unfold uartPollRetry bleUartSenderPoll
  rcases senderPoll_cases m.sender nowMs with ⟨-, poll⟩ | ⟨busy, -, poll⟩ | ⟨busy, -, poll⟩
  · rw [poll]
    exact .inl ⟨_, _, rfl, by simp, rfl, rfl⟩
  · rw [poll]
    exact .inl ⟨_, _, rfl, by simp, rfl, rfl⟩
  · rw [poll]
    exact .inr ⟨busy, rfl⟩

/-- A scan changes what was seen last and nothing else. -/
theorem scanned_frame (mode : ReceiveFilterMode) (m : BleModule)
    (scan : List (BLEAdvertisedDevice × UInt32)) : ∃ lastSeenMs lastDetectedCmd,
    m.scanned mode scan =
      { m with lastSeenMs := lastSeenMs, lastDetectedCmd := lastDetectedCmd } ∧
    (lastDetectedCmd = m.lastDetectedCmd ∨
      ∃ signal, lastDetectedCmd = convertSignalToCmd signal) := by
  unfold scanned
  induction scan generalizing m with
  | nil => exact ⟨_, _, rfl, .inl rfl⟩
  | cons seen rest ih =>
      obtain ⟨lastSeenMs, lastDetectedCmd, frame, cmd⟩ := ih (m.onResult mode seen.1 seen.2)
      rw [List.foldl_cons, frame]
      unfold onResult at cmd ⊢
      cases taken : seen.1.signal mode with
      | none =>
          rw [taken] at cmd
          exact ⟨_, _, rfl, cmd⟩
      | some signal =>
          rw [taken] at cmd
          refine ⟨_, _, rfl, .inr ?_⟩
          rcases cmd with kept | changed
          · exact ⟨signal, kept⟩
          · exact changed

/-- Every valid command that is not queued is started by an idle sender. -/
theorem uartTrySendDesiredState_cases (m : BleModule) {cmd : UInt8}
    (valid : moduleCmdIsValid cmd = true) (nowMs : UInt32) :
    (m.sender.waitingAck = true ∧ m.uartTrySendDesiredState cmd nowMs = (m, none)) ∨
    (m.sender.waitingAck = false ∧ cmd = m.lastQueuedCmd ∧
      m.uartTrySendDesiredState cmd nowMs = (m, none)) ∨
    (m.sender.waitingAck = false ∧ cmd ≠ m.lastQueuedCmd ∧
      ∃ sender, m.uartTrySendDesiredState cmd nowMs =
        ({ m with sender := sender, lastQueuedCmd := cmd },
          some (encodeData m.sender.nextSeq cmd)) ∧
        sender.waitingAck = true ∧ sender.pendingFrame = encodeData m.sender.nextSeq cmd) := by
  unfold uartTrySendDesiredState bleUartSenderIsBusy senderIsBusy
  cases busy : m.sender.waitingAck with
  | true => exact .inl ⟨rfl, rfl⟩
  | false =>
      by_cases queued : cmd = m.lastQueuedCmd
      · exact .inr (.inl ⟨rfl, queued, by simp [queued]⟩)
      · refine .inr (.inr ⟨rfl, queued, ?_⟩)
        simp only [Bool.false_eq_true, if_false, beq_iff_eq, queued,
          senderStart_idle nowMs busy valid]
        exact ⟨_, rfl, rfl, rfl⟩

/-! ### The protocol of a turn -/

/-- What is outstanding, or what was sent last. -/
def sync (m : BleModule) : Sync UInt8 :=
  if m.sender.waitingAck then .busy m.sender.pendingFrame.cmd
  else .idle (if m.lastQueuedCmd = neverQueued then none else some m.lastQueuedCmd)

/-- What happened in a turn that began with `cmd` outstanding, if anything was. -/
def LoopReport.events (r : LoopReport) (cmd : UInt8) : List (SyncEvent UInt8) :=
  (if r.acked then [.acked cmd] else []) ++ (if r.retry = .giveUp then [.gaveUp cmd] else []) ++
    (r.started.map fun frame => .started frame.cmd).toList

/-- The command outstanding is the one queued last, and what is shown is a signal's. -/
structure Coherent (m : BleModule) : Prop where
  queued : m.sender.waitingAck = true →
    m.lastQueuedCmd = m.sender.pendingFrame.cmd ∧ m.lastQueuedCmd ≠ neverQueued
  detected : ∃ signal, m.lastDetectedCmd = convertSignalToCmd signal

theorem coherent_setup : boot.setup.Coherent := by
  constructor
  · intro busy
    cases busy
  · exact ⟨.none, rfl⟩

variable {m : BleModule}

theorem Coherent.desiredCmd (coherent : m.Coherent) (nowMs : UInt32) :
    ∃ signal, m.desiredCmd nowMs = convertSignalToCmd signal := by
  unfold BleModule.desiredCmd
  split
  · exact coherent.detected
  · exact ⟨.none, rfl⟩

/-- The bytes received are the step `ack`, or none. -/
theorem Coherent.uartProcessRx (coherent : m.Coherent) (rx : List UInt8) :
    (m.uartProcessRx rx).1.Coherent ∧
      Path m.sync (if (m.uartProcessRx rx).2 then [.acked m.sender.pendingFrame.cmd] else [])
        (m.uartProcessRx rx).1.sync ∧
      (m.uartProcessRx rx).1.sender.pendingFrame = m.sender.pendingFrame := by
  rcases uartProcessRx_cases m rx with ⟨parser, same | ⟨busy, acked⟩⟩
  · rw [same]
    exact ⟨⟨coherent.queued, coherent.detected⟩, .nil, rfl⟩
  · obtain ⟨queued, known⟩ := coherent.queued busy
    rw [queued] at known
    rw [acked]
    refine ⟨⟨by simp, coherent.detected⟩, ?_, rfl⟩
    simp only [sync, busy, if_true, Bool.false_eq_true, if_false, queued, if_neg known]
    exact .single .ack

/-- The retry poll is the step `giveUp`, or none. -/
theorem Coherent.uartPollRetry (coherent : m.Coherent) (nowMs : UInt32) :
    (m.uartPollRetry nowMs).1.Coherent ∧
      Path m.sync
        (if (m.uartPollRetry nowMs).2 = .giveUp then [.gaveUp m.sender.pendingFrame.cmd] else [])
        (m.uartPollRetry nowMs).1.sync := by
  rcases uartPollRetry_cases m nowMs with ⟨sender, rc, kept, goesOn, waiting, frame⟩ | ⟨busy, gaveUp⟩
  · rw [kept]
    refine ⟨⟨?_, coherent.detected⟩, ?_⟩
    · simpa only [waiting, frame] using coherent.queued
    · simp only [if_neg goesOn, sync, waiting, frame]
      exact .nil
  · rw [gaveUp]
    refine ⟨⟨by simp, coherent.detected⟩, ?_⟩
    simp only [sync, busy, if_true, Bool.false_eq_true, if_false]
    exact .single .giveUp

theorem uartTrySendDesiredState_seen (m : BleModule) (cmd : UInt8) (nowMs : UInt32) :
    (m.uartTrySendDesiredState cmd nowMs).1.lastSeenMs = m.lastSeenMs ∧
      (m.uartTrySendDesiredState cmd nowMs).1.lastDetectedCmd = m.lastDetectedCmd := by
  unfold uartTrySendDesiredState
  split
  · exact ⟨rfl, rfl⟩
  · split
    · exact ⟨rfl, rfl⟩
    · split <;> exact ⟨rfl, rfl⟩

theorem scanned_sender (mode : ReceiveFilterMode) (m : BleModule)
    (scan : List (BLEAdvertisedDevice × UInt32)) : (m.scanned mode scan).sender = m.sender ∧
      (m.scanned mode scan).uartRxParser = m.uartRxParser := by
  obtain ⟨_, _, frame, -⟩ := scanned_frame mode m scan
  rw [frame]
  exact ⟨rfl, rfl⟩

theorem Coherent.scanned (coherent : m.Coherent) (mode : ReceiveFilterMode)
    (scan : List (BLEAdvertisedDevice × UInt32)) :
    (m.scanned mode scan).Coherent ∧ (m.scanned mode scan).sync = m.sync := by
  obtain ⟨lastSeenMs, lastDetectedCmd, frame, cmd⟩ := scanned_frame mode m scan
  rw [frame]
  refine ⟨⟨coherent.queued, ?_⟩, rfl⟩
  rcases cmd with kept | changed
  · rw [kept]
    exact coherent.detected
  · exact changed

/-- The last part of a turn is the step `start`, or none; then the wanted command is queued
or another is outstanding. -/
theorem Coherent.uartTrySendDesiredState (coherent : m.Coherent) (signal : SignalType)
    (nowMs : UInt32) :
    let out := m.uartTrySendDesiredState (convertSignalToCmd signal) nowMs
    out.1.Coherent ∧
      Path m.sync (out.2.map fun frame => SyncEvent.started frame.cmd).toList out.1.sync ∧
      ∀ queued, out.1.sync = .idle queued → queued = some (convertSignalToCmd signal) := by
  have known := convertSignalToCmd_ne_neverQueued signal
  rcases uartTrySendDesiredState_cases m (convertSignalToCmd_valid signal) nowMs with
      ⟨busy, none⟩ | ⟨idle, queued, none⟩ | ⟨idle, fresh, sender, started, waiting, frame⟩
  · rw [none]
    exact ⟨coherent, .nil, by simp [sync, busy]⟩
  · rw [none]
    refine ⟨coherent, .nil, ?_⟩
    simp [sync, idle, ← queued, known]
  · rw [started]
    refine ⟨⟨fun _ => ⟨?_, known⟩, coherent.detected⟩, ?_, by simp [sync, waiting]⟩
    · simp [frame]
    · simp only [sync, idle, waiting, frame, Bool.false_eq_true, if_false, if_true,
        cmd_encodeData, Option.map_some, Option.toList_some]
      refine .single (.start ?_)
      split
      · simp
      · simpa using Ne.symm fresh

/-- The module when it decides what to send. -/
def atSend (mode : ReceiveFilterMode) (m : BleModule) (i : LoopInput) : BleModule :=
  ((m.uartProcessRx i.rx).1.uartPollRetry i.retryMs).1.scanned mode i.scan

theorem Coherent.atSend (coherent : m.Coherent) (mode : ReceiveFilterMode) (i : LoopInput) :
    (m.atSend mode i).Coherent :=
  (((coherent.uartProcessRx i.rx).1.uartPollRetry i.retryMs).1.scanned mode i.scan).1

theorem loop_eq (mode : ReceiveFilterMode) (m : BleModule) (i : LoopInput) :
    let sent := (m.atSend mode i).uartTrySendDesiredState ((m.atSend mode i).desiredCmd i.nowMs)
      i.startMs
    loop mode m i = (sent.1, ⟨(m.uartProcessRx i.rx).2,
      ((m.uartProcessRx i.rx).1.uartPollRetry i.retryMs).2, sent.2⟩) := rfl

/-- A turn of the loop is a path of the protocol; a turn that leaves nothing outstanding
leaves the wanted command queued. -/
theorem loop_keeps_step (coherent : m.Coherent) (mode : ReceiveFilterMode) (i : LoopInput) :
    let out := loop mode m i
    out.1.Coherent ∧ Path m.sync (out.2.events m.sender.pendingFrame.cmd) out.1.sync ∧
      ∀ queued, out.1.sync = .idle queued → queued = some (out.1.desiredCmd i.nowMs) := by
  obtain ⟨afterRx, rxPath, frame⟩ := coherent.uartProcessRx i.rx
  obtain ⟨afterRetry, retryPath⟩ := afterRx.uartPollRetry i.retryMs
  obtain ⟨afterScan, scanSync⟩ := afterRetry.scanned mode i.scan
  obtain ⟨signal, wanted⟩ := afterScan.desiredCmd i.nowMs
  obtain ⟨afterSend, sendPath, settles⟩ := afterScan.uartTrySendDesiredState signal i.startMs
  rw [← wanted] at afterSend sendPath settles
  rw [frame] at retryPath
  rw [scanSync] at sendPath
  have shown : (loop mode m i).1.desiredCmd i.nowMs = (m.atSend mode i).desiredCmd i.nowMs := by
    rw [loop_eq, BleModule.desiredCmd, (uartTrySendDesiredState_seen _ _ _).1,
      (uartTrySendDesiredState_seen _ _ _).2, BleModule.desiredCmd]
  dsimp only
  rw [shown, loop_eq]
  exact ⟨afterSend, (rxPath.append retryPath).append sendPath, settles⟩

/-! ### Runs -/

/-- Everything started, acknowledged and given up in a run. -/
def record (mode : ReceiveFilterMode) (inputs : List LoopInput) : List (SyncEvent UInt8) :=
  (steps (next (loop mode)) boot.setup inputs).flatMap fun p =>
    (loop mode p.1 p.2).2.events p.1.sender.pendingFrame.cmd

theorem run_tied (mode : ReceiveFilterMode) (inputs : List LoopInput) :
    (run mode inputs).Coherent ∧ Tied (run mode inputs).sync (record mode inputs) := by
  have keeps : ∀ (m : BleModule) (past : List (SyncEvent UInt8)) (i : LoopInput),
      m.Coherent ∧ Tied m.sync past → (next (loop mode) m i).Coherent ∧
        Tied (next (loop mode) m i).sync
          (past ++ (loop mode m i).2.events m.sender.pendingFrame.cmd) := by
    rintro m past i ⟨coherent, tied⟩
    obtain ⟨kept, path, -⟩ := loop_keeps_step coherent mode i
    exact ⟨kept, tied.path path⟩
  have tied := run_history (fun (m : BleModule) events => m.Coherent ∧ Tied m.sync events) _ keeps
    ⟨coherent_setup, Tied.initial⟩ inputs
  simpa [run, record] using tied

/-- Over any run commands are sent one at a time, and one is sent right after itself only if
it was given up. After each turn either a command is outstanding, or the last thing that
happened is that the driver ECU acknowledged the command wanted in that turn. -/
theorem module_in_step (mode : ReceiveFilterMode) (front : List LoopInput) (i : LoopInput) :
    let m := run mode (front ++ [i])
    let record := record mode (front ++ [i])
    record.IsChain Follows ∧
      (m.sender.waitingAck = true → record.getLast? = some (.started m.sender.pendingFrame.cmd)) ∧
      (m.sender.waitingAck = false → record.getLast? = some (.acked (m.desiredCmd i.nowMs))) := by
  intro m record
  obtain ⟨-, tied⟩ := run_tied mode (front ++ [i])
  have last : m = (loop mode (run mode front) i).1 := by
    simp [m, run, run_append, next]
  obtain ⟨-, -, settles⟩ := loop_keeps_step (run_tied mode front).1 mode i
  refine ⟨tied.chain, ?_, ?_⟩
  · intro busy
    have waiting : m.sync = .busy m.sender.pendingFrame.cmd := by simp [sync, busy]
    exact Tied.waiting (waiting ▸ tied)
  · intro idle
    have settled : m.sync = .idle (some (m.desiredCmd i.nowMs)) := by
      cases state : m.sync with
      | busy cmd => simp [sync, idle] at state
      | idle queued =>
          rw [last] at state ⊢
          rw [settles queued state]
    exact Tied.settled (settled ▸ tied)

/-! ### Where a request comes from -/

/-- The devices that the callback did not ignore, each with its time. -/
def sightings (mode : ReceiveFilterMode) (inputs : List LoopInput) :
    List (BLEAdvertisedDevice × UInt32) :=
  (inputs.flatMap LoopInput.scan).filter fun seen => (seen.1.signal mode).isSome

/-- What the module shows when `seen` was the last sighting. -/
def shownBy (mode : ReceiveFilterMode) : Option (BLEAdvertisedDevice × UInt32) → UInt32 × UInt8
  | none => (0, bleUartMakeCmd bleUartReqNop bleUartReqNop)
  | some (device, ms) => (ms, convertSignalToCmd ((device.signal mode).getD .none))

theorem onResult_shows {mode : ReceiveFilterMode} {device : BLEAdvertisedDevice} {ms : UInt32}
    {past : List (BLEAdvertisedDevice × UInt32)}
    (shows : (m.lastSeenMs, m.lastDetectedCmd) = shownBy mode past.getLast?) :
    ((m.onResult mode device ms).lastSeenMs, (m.onResult mode device ms).lastDetectedCmd) =
      shownBy mode
        (past ++ [(device, ms)].filter fun seen => (seen.1.signal mode).isSome).getLast? := by
  unfold onResult
  cases taken : device.signal mode with
  | none => simpa [taken] using shows
  | some signal => simp [taken, shownBy]

theorem scanned_shows {mode : ReceiveFilterMode} {past : List (BLEAdvertisedDevice × UInt32)}
    (shows : (m.lastSeenMs, m.lastDetectedCmd) = shownBy mode past.getLast?)
    (scan : List (BLEAdvertisedDevice × UInt32)) :
    ((m.scanned mode scan).lastSeenMs, (m.scanned mode scan).lastDetectedCmd) =
      shownBy mode (past ++ scan.filter fun seen => (seen.1.signal mode).isSome).getLast? := by
  unfold scanned
  induction scan generalizing m past with
  | nil => simpa using shows
  | cons seen rest ih =>
      have split : (seen :: rest).filter (fun seen => (seen.1.signal mode).isSome) =
          ([seen].filter fun seen => (seen.1.signal mode).isSome) ++
            rest.filter fun seen => (seen.1.signal mode).isSome := by
        rw [← List.filter_append, List.singleton_append]
      rw [List.foldl_cons, split, ← List.append_assoc]
      exact ih (onResult_shows shows)

/-- The scan of a turn is all that changes what is seen. -/
theorem atSend_shows {mode : ReceiveFilterMode} {past : List (BLEAdvertisedDevice × UInt32)}
    (shows : (m.lastSeenMs, m.lastDetectedCmd) = shownBy mode past.getLast?) (i : LoopInput) :
    ((m.atSend mode i).lastSeenMs, (m.atSend mode i).lastDetectedCmd) =
      shownBy mode (past ++ i.scan.filter fun seen => (seen.1.signal mode).isSome).getLast? := by
  refine scanned_shows (Eq.trans ?_ shows) i.scan
  have rx : (m.uartProcessRx i.rx).1.lastSeenMs = m.lastSeenMs ∧
      (m.uartProcessRx i.rx).1.lastDetectedCmd = m.lastDetectedCmd := by
    rcases uartProcessRx_cases m i.rx with ⟨parser, same | ⟨-, acked⟩⟩
    · rw [same]
      exact ⟨rfl, rfl⟩
    · rw [acked]
      exact ⟨rfl, rfl⟩
  rcases uartPollRetry_cases (m.uartProcessRx i.rx).1 i.retryMs with
      ⟨sender, rc, kept, -⟩ | ⟨-, gaveUp⟩
  · rw [kept, rx.1, rx.2]
  · rw [gaveUp, rx.1, rx.2]

theorem run_shows (mode : ReceiveFilterMode) (inputs : List LoopInput) :
    ((run mode inputs).lastSeenMs, (run mode inputs).lastDetectedCmd) =
      shownBy mode (sightings mode inputs).getLast? := by
  induction inputs using List.reverseRecOn with
  | nil => rfl
  | append_singleton front i ih =>
      have last : run mode (front ++ [i]) = (loop mode (run mode front) i).1 := by
        simp [run, run_append, next]
      have seen : sightings mode (front ++ [i]) =
          sightings mode front ++ i.scan.filter fun seen => (seen.1.signal mode).isSome := by
        simp [sightings]
      rw [last, loop_eq, (uartTrySendDesiredState_seen _ _ _).1,
        (uartTrySendDesiredState_seen _ _ _).2, seen]
      exact atSend_shows ih i

/-- The two bytes of a company identifier, the low one first. -/
theorem companyId_toNat (low high : UInt8) :
    (low.toUInt16 ||| (high.toUInt16 <<< (8 : UInt16))).toNat = low.toNat + 256 * high.toNat := by
  have low_lt := low.toNat_lt
  have high_lt := high.toNat_lt
  have shifted : high.toNat <<< 8 % 2 ^ 16 = high.toNat <<< 8 := by
    rw [Nat.shiftLeft_eq]
    omega
  rw [UInt16.toNat_or, UInt16.toNat_shiftLeft, UInt8.toNat_toUInt16, UInt8.toNat_toUInt16]
  simp only [show (8 : UInt16).toNat % 16 = 8 from rfl, shifted]
  rw [Nat.or_comm, ← Nat.shiftLeft_add_eq_or_of_lt low_lt, Nat.shiftLeft_eq]
  omega

/-- What a boarding passenger's phone sends. -/
theorem decodeSignal_boarding {p : List UInt8}
    (boarding : decodeSignalFromManufacturerData p = .boardingSlopeRequest) :
    ∃ rest, p = 0x34 :: 0x12 :: kBoardingSlopeReqCode :: kActiveCode :: rest := by
  unfold decodeSignalFromManufacturerData at boarding
  split at boarding
  · rename_i low high code active rest
    dsimp only at boarding
    split at boarding
    · simp at boarding
    · rename_i isActive
      split at boarding
      · rename_i isBoarding
        simp only [Bool.and_eq_true, beq_iff_eq] at isBoarding
        have bytes := congrArg UInt16.toNat isBoarding.1
        rw [companyId_toNat] at bytes
        have low_lt := low.toNat_lt
        have high_lt := high.toNat_lt
        have number : (kCompanyIdBoarding : UInt16).toNat = 0x1234 := rfl
        rw [number] at bytes
        have lowByte : low = 0x34 := UInt8.toNat_inj.mp (by simp; omega)
        have highByte : high = 0x12 := UInt8.toNat_inj.mp (by simp; omega)
        have activeByte : active = kActiveCode := by simpa using isActive
        exact ⟨rest, by rw [lowByte, highByte, isBoarding.2, activeByte]⟩
      · split at boarding
        · simp at boarding
        · split at boarding
          · simp at boarding
          · simp at boarding
  · simp at boarding

/-- A signal that passes the filter. -/
theorem signal_some {mode : ReceiveFilterMode} {device : BLEAdvertisedDevice} {signal : SignalType}
    (taken : device.signal mode = some signal) : ∃ md, device.manufacturerData = some md ∧
      decodeSignalFromManufacturerData md = signal ∧ matchesReceiveFilter mode signal = true ∧
      kMinRssi ≤ device.rssi := by
  unfold BLEAdvertisedDevice.signal at taken
  split at taken
  · simp at taken
  · rename_i md data
    split at taken
    · simp at taken
    · dsimp only at taken
      split at taken
      · simp at taken
      · split at taken
        · simp at taken
        · rename_i filtered
          split at taken
          · simp at taken
          · rename_i strong
            obtain rfl := Option.some.inj taken
            exact ⟨md, data, rfl, by simpa using filtered, Int.not_lt.mp strong⟩

theorem uartTrySendDesiredState_started {cmd : UInt8} (valid : moduleCmdIsValid cmd = true)
    {nowMs : UInt32} {frame : UartFrame}
    (started : (m.uartTrySendDesiredState cmd nowMs).2 = some frame) : frame.cmd = cmd := by
  rcases uartTrySendDesiredState_cases m valid nowMs with
      ⟨-, none⟩ | ⟨-, -, none⟩ | ⟨-, -, sender, sent, -⟩
  · simp [none] at started
  · simp [none] at started
  · rw [sent] at started
    obtain rfl := Option.some.inj started
    rfl

/-- Something other than the empty command is wanted only while a sighting is fresh. -/
theorem desiredCmd_request {nowMs : UInt32}
    (request : m.desiredCmd nowMs ≠ bleUartMakeCmd bleUartReqNop bleUartReqNop) :
    m.lastSeenMs ≠ 0 ∧ nowMs - m.lastSeenMs ≤ kDetectedHoldMs ∧
      m.desiredCmd nowMs = m.lastDetectedCmd := by
  unfold desiredCmd at request ⊢
  split at request
  · rename_i fresh
    rw [if_pos fresh]
    simp only [Bool.and_eq_true, bne_iff_ne, ne_eq, decide_eq_true_eq] at fresh
    exact ⟨fresh.1, fresh.2, rfl⟩
  · exact absurd rfl request

/-- The last phone that was heard by the end of turn `i` asked for the ramp, near enough and
not too long before the module decided what to send. -/
def Sighted (front : List LoopInput) (i : LoopInput) : Prop :=
  ∃ device ms rest,
    (sightings kReceiveFilterMode (front ++ [i])).getLast? = some (device, ms) ∧
    device.manufacturerData = some (0x34 :: 0x12 :: kBoardingSlopeReqCode :: kActiveCode :: rest) ∧
    kMinRssi ≤ device.rssi ∧ ms ≠ 0 ∧ i.nowMs - ms ≤ kDetectedHoldMs

theorem started_sighted {front : List LoopInput} {i : LoopInput} {frame : UartFrame}
    (started : (loop kReceiveFilterMode (run kReceiveFilterMode front) i).2.started = some frame)
    (request : frame.cmd ≠ bleUartMakeCmd bleUartReqNop bleUartReqNop) :
    frame.cmd = bleUartMakeCmd bleUartReqNop bleUartReqOpen ∧ Sighted front i := by
  obtain ⟨coherent, -⟩ := run_tied kReceiveFilterMode front
  have shows := atSend_shows (run_shows kReceiveFilterMode front) i
  have seen : sightings kReceiveFilterMode (front ++ [i]) = sightings kReceiveFilterMode front ++
      i.scan.filter fun seen => (seen.1.signal kReceiveFilterMode).isSome := by
    simp [sightings]
  rw [← seen] at shows
  obtain ⟨wanted, isWanted⟩ := (coherent.atSend kReceiveFilterMode i).desiredCmd i.nowMs
  rw [loop_eq] at started
  have sent : frame.cmd =
      ((run kReceiveFilterMode front).atSend kReceiveFilterMode i).desiredCmd i.nowMs :=
    uartTrySendDesiredState_started (isWanted ▸ convertSignalToCmd_valid wanted) started
  rw [sent] at request
  obtain ⟨noted, fresh, isDetected⟩ := desiredCmd_request request
  rw [sent, isDetected]
  cases last : (sightings kReceiveFilterMode (front ++ [i])).getLast? with
  | none =>
      rw [last] at shows
      exact absurd (congrArg Prod.fst shows) noted
  | some sighting =>
      obtain ⟨device, ms⟩ := sighting
      rw [last] at shows
      have accepted := (List.mem_filter.mp (List.mem_of_getLast? last)).2
      obtain ⟨signal, taken⟩ := Option.isSome_iff_exists.mp accepted
      obtain ⟨md, data, decoded, filtered, strong⟩ := signal_some taken
      obtain rfl : signal = .boardingSlopeRequest := by simpa [matchesReceiveFilter] using filtered
      obtain ⟨rest, rfl⟩ := decodeSignal_boarding decoded
      simp only [shownBy, taken, Option.getD_some, Prod.mk.injEq] at shows
      rw [shows.1] at noted fresh
      exact ⟨shows.2, device, ms, rest, last, data, strong, noted, fresh⟩

/-- A command that is started, with the turn that starts it and those before. -/
structure Sending where
  front : List LoopInput
  turn : LoopInput
  cmd : UInt8
deriving DecidableEq, Repr

/-- What a turn starts. -/
def sentIn (mode : ReceiveFilterMode) (front : List LoopInput) (i : LoopInput) : List Sending :=
  ((loop mode (run mode front) i).2.started.map fun frame => ⟨front, i, frame.cmd⟩).toList

/-- What is started in some more turns. -/
def sendingsFrom (mode : ReceiveFilterMode) (front : List LoopInput) : List LoopInput → List Sending
  | [] => []
  | i :: rest => sentIn mode front i ++ sendingsFrom mode (front ++ [i]) rest

/-- Every command started in a run. -/
def sendings (mode : ReceiveFilterMode) (inputs : List LoopInput) : List Sending :=
  sendingsFrom mode [] inputs

theorem sendingsFrom_concat (mode : ReceiveFilterMode) (front inputs : List LoopInput)
    (i : LoopInput) : sendingsFrom mode front (inputs ++ [i]) =
      sendingsFrom mode front inputs ++ sentIn mode (front ++ inputs) i := by
  induction inputs generalizing front with
  | nil => simp [sendingsFrom]
  | cons j rest ih =>
      rw [List.cons_append, sendingsFrom, ih, sendingsFrom, List.append_assoc, List.append_assoc,
        List.singleton_append]

/-- A command is started in its turn, and what it asks for was in sight then. -/
theorem sendings_sighted {inputs : List LoopInput} {sending : Sending}
    (mem : sending ∈ sendings kReceiveFilterMode inputs) :
    sending.front ++ [sending.turn] <+: inputs ∧
      (sending.cmd = bleUartMakeCmd bleUartReqNop bleUartReqNop ∨
        sending.cmd = bleUartMakeCmd bleUartReqNop bleUartReqOpen ∧
          Sighted sending.front sending.turn) := by
  induction inputs using List.reverseRecOn with
  | nil => cases mem
  | append_singleton inputs i ih =>
      rw [sendings, sendingsFrom_concat, List.nil_append] at mem
      rcases List.mem_append.mp mem with earlier | now
      · obtain ⟨among, sighted⟩ := ih earlier
        exact ⟨among.trans (List.prefix_append _ _), sighted⟩
      · obtain ⟨frame, started, rfl⟩ : ∃ frame,
            (loop kReceiveFilterMode (run kReceiveFilterMode inputs) i).2.started = some frame ∧
              ⟨inputs, i, frame.cmd⟩ = sending := by
          simpa [sentIn] using now
        refine ⟨List.prefix_rfl, ?_⟩
        by_cases empty : frame.cmd = bleUartMakeCmd bleUartReqNop bleUartReqNop
        · exact .inl empty
        · exact .inr (started_sighted started empty)

/-- The module as it is built sends no request but a ramp to be opened, and this only while a
phone that asked for it is in sight. -/
theorem request_has_sighting (front : List LoopInput) (i : LoopInput) (frame : UartFrame)
    (started : (loop kReceiveFilterMode (run kReceiveFilterMode front) i).2.started = some frame)
    (request : frame.cmd ≠ bleUartMakeCmd bleUartReqNop bleUartReqNop) :
    frame.cmd = bleUartMakeCmd bleUartReqNop bleUartReqOpen ∧ Sighted front i :=
  started_sighted started request

/-- A phone at the stop, heard 500 ms after the module has started. -/
def boardingScan : LoopInput :=
  ⟨[], 0, [(⟨some [0x34, 0x12, 0xA1, 0x01], -40⟩, 500)], 1000, 1000⟩

theorem request_has_sighting_first :
    ∃ frame, (loop kReceiveFilterMode (run kReceiveFilterMode []) boardingScan).2.started =
        some frame ∧ frame.cmd = bleUartMakeCmd bleUartReqNop bleUartReqOpen :=
  ⟨encodeData 0 0x04, by decide +kernel,
    (request_has_sighting [] boardingScan (encodeData 0 0x04) (by decide +kernel) (by decide)).1⟩

end BleModule

end SmartBusAccess.Uart
