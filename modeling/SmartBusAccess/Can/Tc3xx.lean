import SmartBusAccess.Can.Core
import SmartBusAccess.Can.Board
import Mathlib.Logic.Function.Basic

/-!
The TC3xx driver (`can_tc3xx.c`, `can_tc3xx_pinmap.c`, `can_tc3xx_core_glue.c`).

Two tables are shared by all channels: which nodes are taken, and how many open
channels each module has. A channel is opened by reserving its node, powering its
port and acquiring its module, in this order, and a failure undoes what was done.

The hardware behind the vendor's library is a parameter: a state of its own and
what the library's functions do to it. Message RAM addresses are left out, as the
driver only hands them on.
-/

namespace SmartBusAccess.Can

/-! ### The vendor's library -/

/-- A node of a module: what `can_node.node` points to. -/
structure CANNodeRef where
  inst : BoardMCUCANInst
  node : BoardMCUCANNode
deriving DecidableEq, Repr

inductive IfxCanStatus where
  | ok
  | notSentBusy
  | other
deriving DecidableEq, Repr

inductive IfxCanFrameMode where
  | standard
  | fdLong
  | fdLongAndFast
  | other
deriving DecidableEq, Repr

inductive IfxCanMessageIdLength where
  | standard
  | extended
  | other
deriving DecidableEq, Repr

inductive IfxCanDataLengthCode where
  | dlc0 | dlc1 | dlc2 | dlc3 | dlc4 | dlc5 | dlc6 | dlc7 | dlc8
  | dlc12 | dlc16 | dlc20 | dlc24 | dlc32 | dlc48 | dlc64
deriving DecidableEq, Repr

inductive IfxCanDataFieldSize where
  | size8
  | size64
deriving DecidableEq, Repr

/-- `IfxCan_Message`. -/
structure IfxCanMessage where
  bufferNumber : UInt8
  messageId : UInt32
  messageIdLength : IfxCanMessageIdLength
  frameMode : IfxCanFrameMode
  dataLengthCode : IfxCanDataLengthCode
  readFromRxFifo0 : Bool
deriving DecidableEq, Repr

/-- `IfxCan_Can_initMessage` after `memset`. -/
def ifxCanInitMessage : IfxCanMessage := ⟨0, 0, .standard, .standard, .dlc0, false⟩

/-- What `canTC3xxOpen` hands to `IfxCan_Can_initNode`. -/
structure IfxCanNodeConfig where
  busLoopbackEnabled : Bool
  frameMode : IfxCanFrameMode
  baudrate : UInt32
  fastBaudrate : Option UInt32
  dataFieldSize : IfxCanDataFieldSize
  useRxFifo0 : Bool
  filterIdType : CANIdType
  pinsProvided : Bool
deriving DecidableEq, Repr

/-- The functions of the library. The data words are their bytes. A node handle is
`none` while its node pointer is null. `hasModuleCan1` is whether the device header
defines `MODULE_CAN1`. -/
structure IfxCan (HW : Type) where
  hasModuleCan1 : Bool
  initModule : HW → BoardMCUCANInst → HW
  initNode : HW → CANNodeRef → IfxCanNodeConfig → HW
  setFilter : HW → Option CANNodeRef → CANAcceptanceFilter → HW
  sendMessage : HW → Option CANNodeRef → IfxCanMessage → Vector UInt8 64 → HW × IfxCanStatus
  rxFifo0FillLevel : HW → Option CANNodeRef → UInt8
  isNewDataReceived : HW → Option CANNodeRef → UInt8 → Bool
  readMessage : HW → Option CANNodeRef → IfxCanMessage → Vector UInt8 64 →
    HW × IfxCanMessage × Vector UInt8 64

/-! ### The driver's state -/

abbrev canTC3xxMaxModules : Nat := 2
abbrev canTC3xxMaxNodes : Nat := 4

structure CANTC3xxModuleContext where
  isInitialized : Bool
  refCount : UInt8
deriving DecidableEq, Repr

/-- `canNode` is `none` when `can_node.node` is null. -/
structure CANTC3xxChannel where
  isOpen : Bool
  isStarted : Bool
  useRxFifo0 : Bool
  boardPort : Option BoardCANPort
  moduleInst : BoardMCUCANInst
  node : BoardMCUCANNode
  moduleIndex : Nat
  canNode : Option CANNodeRef
  txBufferNumber : UInt8
  rxBufferNumber : UInt8
  config : CANChannelConfig
deriving DecidableEq, Repr

def CANChannelConfig.zero : CANChannelConfig :=
  ⟨⟨0, 0, .classic⟩, false, .default, ⟨false, .standard, 0, 0⟩⟩

/-- `canTC3xxChannelInit`, and every other `memset` of a channel. -/
def canTC3xxChannelInit : CANTC3xxChannel :=
  { isOpen := false, isStarted := false, useRxFifo0 := false, boardPort := none
    moduleInst := .inst0, node := .node0, moduleIndex := 0, canNode := none
    txBufferNumber := 0, rxBufferNumber := 0, config := .zero }

/-- The world of the driver: the hardware, the board's answers, the two shared tables
and the channels, by address. -/
structure CANTC3xxWorld (HW : Type) where
  hw : HW
  board : BoardAnswers
  modules : Nat → CANTC3xxModuleContext
  nodeInUse : Nat → Nat → Bool
  channels : Nat → CANTC3xxChannel

variable {HW : Type}

def CANTC3xxWorld.setChannel (w : CANTC3xxWorld HW) (channel : Nat) (c : CANTC3xxChannel) :
    CANTC3xxWorld HW :=
  { w with channels := Function.update w.channels channel c }

def CANTC3xxWorld.setModule (w : CANTC3xxWorld HW) (index : Nat) (m : CANTC3xxModuleContext) :
    CANTC3xxWorld HW :=
  { w with modules := Function.update w.modules index m }

def CANTC3xxWorld.setNode (w : CANTC3xxWorld HW) (module node : Nat) (inUse : Bool) :
    CANTC3xxWorld HW :=
  { w with nodeInUse :=
      Function.update w.nodeInUse module (Function.update (w.nodeInUse module) node inUse) }

/-! ### Conversions and checks -/

def canTC3xxIsValidPayloadLength (mode : CANMode) (len : UInt8) : Bool :=
  if mode = .classic then len ≤ 8
  else
    match len.toNat with
    | 0 | 1 | 2 | 3 | 4 | 5 | 6 | 7 | 8 | 12 | 16 | 20 | 24 | 32 | 48 | 64 => true
    | _ => false

def canTC3xxToFrameMode : CANMode → IfxCanFrameMode
  | .classic => .standard
  | .fdNoBrs => .fdLong
  | .fdBrs => .fdLongAndFast

def canTC3xxFromFrameMode : IfxCanFrameMode → Option CANMode
  | .standard => some .classic
  | .fdLong => some .fdNoBrs
  | .fdLongAndFast => some .fdBrs
  | .other => none

def canTC3xxToMessageIdLength : CANIdType → IfxCanMessageIdLength
  | .standard => .standard
  | .extended => .extended

def canTC3xxFromMessageIdLength : IfxCanMessageIdLength → Option CANIdType
  | .standard => some .standard
  | .extended => some .extended
  | .other => none

def canTC3xxToDataFieldSize (mode : CANMode) : IfxCanDataFieldSize :=
  if mode = .classic then .size8 else .size64

def canTC3xxLenToDlc (len : UInt8) : Option IfxCanDataLengthCode :=
  match len.toNat with
  | 0 => some .dlc0
  | 1 => some .dlc1
  | 2 => some .dlc2
  | 3 => some .dlc3
  | 4 => some .dlc4
  | 5 => some .dlc5
  | 6 => some .dlc6
  | 7 => some .dlc7
  | 8 => some .dlc8
  | 12 => some .dlc12
  | 16 => some .dlc16
  | 20 => some .dlc20
  | 24 => some .dlc24
  | 32 => some .dlc32
  | 48 => some .dlc48
  | 64 => some .dlc64
  | _ => none

def canTC3xxDlcToLen : IfxCanDataLengthCode → UInt8
  | .dlc0 => 0
  | .dlc1 => 1
  | .dlc2 => 2
  | .dlc3 => 3
  | .dlc4 => 4
  | .dlc5 => 5
  | .dlc6 => 6
  | .dlc7 => 7
  | .dlc8 => 8
  | .dlc12 => 12
  | .dlc16 => 16
  | .dlc20 => 20
  | .dlc24 => 24
  | .dlc32 => 32
  | .dlc48 => 48
  | .dlc64 => 64

/-- The largest identifier of a type. -/
def CANIdType.maxId : CANIdType → UInt32
  | .standard => 0x7FF
  | .extended => 0x1FFFFFFF

def canTC3xxValidateRxFilterConfig (filter : CANAcceptanceFilter) : CANStatus :=
  if !filter.enabled then .ok
  else if filter.id > filter.idType.maxId || filter.mask > filter.idType.maxId then .einval
  else .ok

def canTC3xxResolveNominalBitrate (port : BoardCANPort) (config : CANChannelConfig) : UInt32 :=
  if config.timing.nominalBitrate != 0 then config.timing.nominalBitrate
  else port.defaultNominalBitrate

def canTC3xxResolveDataBitrate (port : BoardCANPort) (config : CANChannelConfig) : UInt32 :=
  if config.timing.dataBitrate != 0 then config.timing.dataBitrate else port.defaultDataBitrate

def canTC3xxUseRxFifo0 (config : CANChannelConfig) : Bool :=
  config.rxPath = .default || config.rxPath = .fifo0

def canTC3xxValidateOpenConfig (port : BoardCANPort) (config : CANChannelConfig) : CANStatus :=
  if canTC3xxResolveNominalBitrate port config == 0 then .einval
  else if config.timing.mode ≠ .classic ∧ !port.fdSupported then .eunsupported
  else if config.timing.mode ≠ .classic ∧ canTC3xxResolveDataBitrate port config = 0 then .einval
  else if canTC3xxUseRxFifo0 config then
    if config.rxFilter.enabled then .eunsupported else .ok
  else if !config.rxFilter.enabled then .eunsupported
  else canTC3xxValidateRxFilterConfig config.rxFilter

def canTC3xxValidateFrame (channel : CANTC3xxChannel) (frame : CANFrame) : CANStatus :=
  if frame.id > frame.idType.maxId then .einval
  else if !canTC3xxIsValidPayloadLength frame.mode frame.len then .einval
  else
    match channel.config.timing.mode, frame.mode with
    | .classic, .fdNoBrs | .classic, .fdBrs | .fdNoBrs, .fdBrs => .eunsupported
    | _, _ => .ok

def canTC3xxModuleIndexFromBoardInst : BoardMCUCANInst → Nat
  | .inst0 => 0
  | .inst1 => 1

def canTC3xxNodeIndexFromBoardNode : BoardMCUCANNode → Nat
  | .node0 => 0
  | .node1 => 1
  | .node2 => 2
  | .node3 => 3

def canTC3xxResolveModule (ifx : IfxCan HW) : BoardMCUCANInst → CANStatus
  | .inst0 => .ok
  | .inst1 => if ifx.hasModuleCan1 then .ok else .enotfound

/-- The one pin binding there is. -/
def canTC3xxResolvePins (port : BoardCANPort) : CANStatus :=
  if port.mcuInst = .inst0 ∧ port.mcuNode = .node0 ∧ port.txPin = ⟨20, 8⟩ ∧ port.rxPin = ⟨20, 7⟩ then
    .ok
  else .enotfound

/-! ### The shared tables -/

def canTC3xxReserveNode (w : CANTC3xxWorld HW) (inst : BoardMCUCANInst) (node : BoardMCUCANNode) :
    CANTC3xxWorld HW × CANStatus :=
  let module := canTC3xxModuleIndexFromBoardInst inst
  let index := canTC3xxNodeIndexFromBoardNode node
  if w.nodeInUse module index then (w, .ebusy) else (w.setNode module index true, .ok)

def canTC3xxReleaseNode (w : CANTC3xxWorld HW) (inst : BoardMCUCANInst) (node : BoardMCUCANNode) :
    CANTC3xxWorld HW :=
  w.setNode (canTC3xxModuleIndexFromBoardInst inst) (canTC3xxNodeIndexFromBoardNode node) false

def canTC3xxAcquireModule (ifx : IfxCan HW) (w : CANTC3xxWorld HW) (inst : BoardMCUCANInst)
    (module : Nat) : CANTC3xxWorld HW × CANStatus :=
  if canTC3xxMaxModules ≤ module then (w, .enotfound)
  else if !(w.modules module).isInitialized then
    (({ w with hw := ifx.initModule w.hw inst }).setModule module ⟨true, 1⟩, .ok)
  else
    (w.setModule module { w.modules module with refCount := (w.modules module).refCount + 1 }, .ok)

/-- A module after one release. -/
def CANTC3xxModuleContext.released (m : CANTC3xxModuleContext) : CANTC3xxModuleContext :=
  let refCount := if 0 < m.refCount then m.refCount - 1 else m.refCount
  ⟨if refCount = 0 then false else m.isInitialized, refCount⟩

def canTC3xxReleaseModule (w : CANTC3xxWorld HW) (module : Nat) : CANTC3xxWorld HW :=
  if canTC3xxMaxModules ≤ module then w
  else w.setModule module (w.modules module).released

/-! ### Open and close -/

def canTC3xxConfigureRxFilter (ifx : IfxCan HW) (w : CANTC3xxWorld HW) (channel : CANTC3xxChannel) :
    CANTC3xxWorld HW × CANStatus :=
  let filter := channel.config.rxFilter
  let status := canTC3xxValidateRxFilterConfig filter
  if status != .ok && !(canTC3xxUseRxFifo0 channel.config && !filter.enabled) then (w, status)
  else if channel.useRxFifo0 then (w, .ok)
  else ({ w with hw := ifx.setFilter w.hw channel.canNode filter }, .ok)

/-- The node a port is wired to. -/
def BoardCANPort.nodeRef (port : BoardCANPort) : CANNodeRef := ⟨port.mcuInst, port.mcuNode⟩

/-- A channel as `canTC3xxOpen` fills it in. -/
def canTC3xxBoundChannel (port : BoardCANPort) (config : CANChannelConfig) : CANTC3xxChannel :=
  { isOpen := false
    isStarted := false
    useRxFifo0 := canTC3xxUseRxFifo0 config
    boardPort := some port
    moduleInst := port.mcuInst
    node := port.mcuNode
    moduleIndex := canTC3xxModuleIndexFromBoardInst port.mcuInst
    canNode := some port.nodeRef
    txBufferNumber := 0
    rxBufferNumber := 0
    config := config }

def canTC3xxNodeConfig (port : BoardCANPort) (config : CANChannelConfig) : IfxCanNodeConfig :=
  { busLoopbackEnabled := config.enableLoopback
    frameMode := canTC3xxToFrameMode config.timing.mode
    baudrate := canTC3xxResolveNominalBitrate port config
    fastBaudrate :=
      if config.timing.mode ≠ .classic then some (canTC3xxResolveDataBitrate port config) else none
    dataFieldSize := canTC3xxToDataFieldSize config.timing.mode
    useRxFifo0 := canTC3xxUseRxFifo0 config
    filterIdType := config.rxFilter.idType
    pinsProvided := port.phyPresent }

/-- The checks before anything is reserved. -/
def canTC3xxOpenChecks (ifx : IfxCan HW) (port : BoardCANPort) (config : CANChannelConfig) :
    CANStatus :=
  let status := canTC3xxValidateOpenConfig port config
  if status != .ok then status
  else
    let status := canTC3xxResolveModule ifx port.mcuInst
    if status != .ok then status
    else if port.phyPresent then canTC3xxResolvePins port
    else .ok

/-- The label `fail` of `canTC3xxOpen`, once the channel is cleared. -/
def canTC3xxOpenFail (w : CANTC3xxWorld HW) (channel : Nat) (port : BoardCANPort)
    (moduleAcquired : Bool) (status : CANStatus) : CANTC3xxWorld HW × CANStatus :=
  let w :=
    if moduleAcquired then canTC3xxReleaseModule w (w.channels channel).moduleIndex else w
  let w := canTC3xxReleaseNode w port.mcuInst port.mcuNode
  (w.setChannel channel canTC3xxChannelInit, status)

/-- `canTC3xxOpen` from where the port has power. -/
def canTC3xxOpenPowered (ifx : IfxCan HW) (w : CANTC3xxWorld HW) (channel : Nat)
    (port : BoardCANPort) (config : CANChannelConfig) : CANTC3xxWorld HW × CANStatus :=
  let w := w.setChannel channel canTC3xxChannelInit
  let (w, status) :=
    canTC3xxAcquireModule ifx w port.mcuInst (canTC3xxModuleIndexFromBoardInst port.mcuInst)
  if status != .ok then canTC3xxOpenFail w channel port false status
  else
    let bound := canTC3xxBoundChannel port config
    let w := { w with hw := ifx.initNode w.hw port.nodeRef (canTC3xxNodeConfig port config) }
    let w := w.setChannel channel bound
    let (w, status) := canTC3xxConfigureRxFilter ifx w bound
    if status != .ok then canTC3xxOpenFail w channel port true status
    else (w.setChannel channel { bound with isOpen := true }, .ok)

def canTC3xxOpen (ifx : IfxCan HW) (w : CANTC3xxWorld HW) (channel : Nat) (port : BoardCANPort)
    (config : CANChannelConfig) : CANTC3xxWorld HW × CANStatus :=
  if (w.channels channel).isOpen then (w, .ebusy)
  else
    let status := canTC3xxOpenChecks ifx port config
    if status != .ok then (w, status)
    else
      let (w, status) := canTC3xxReserveNode w port.mcuInst port.mcuNode
      if status != .ok then (w, status)
      -- without power the channel is not cleared
      else if w.board.powerOn != .ok then
        (canTC3xxReleaseNode w port.mcuInst port.mcuNode, .eio)
      else canTC3xxOpenPowered ifx w channel port config

def canTC3xxClose (w : CANTC3xxWorld HW) (channel : Nat) : CANTC3xxWorld HW × CANStatus :=
  let c := w.channels channel
  if !c.isOpen then (w, .einval)
  else
    let w := canTC3xxReleaseModule w c.moduleIndex
    let w := canTC3xxReleaseNode w c.moduleInst c.node
    (w.setChannel channel canTC3xxChannelInit, .ok)

/-- `canTC3xxStart` and `canTC3xxStop`: the transceiver leaves standby, or enters it. -/
def canTC3xxSetStarted (w : CANTC3xxWorld HW) (channel : Nat) (started : Bool) :
    CANTC3xxWorld HW × CANStatus :=
  let c := w.channels channel
  if !c.isOpen then (w, .einval)
  else if w.board.setStandby != .ok && w.board.setStandby != .eunsupported then (w, .eio)
  else (w.setChannel channel { c with isStarted := started }, .ok)

def canTC3xxStart (w : CANTC3xxWorld HW) (channel : Nat) : CANTC3xxWorld HW × CANStatus :=
  canTC3xxSetStarted w channel true

def canTC3xxStop (w : CANTC3xxWorld HW) (channel : Nat) : CANTC3xxWorld HW × CANStatus :=
  canTC3xxSetStarted w channel false

/-! ### Send and receive -/

/-- The first `len` bytes, the others zero. -/
def firstBytes (len : UInt8) (data : Vector UInt8 64) : Vector UInt8 64 :=
  Vector.ofFn fun i => if i.val < len.toNat then data[i] else 0

def canTC3xxSend (ifx : IfxCan HW) (w : CANTC3xxWorld HW) (channel : Nat) (frame : CANFrame) :
    CANTC3xxWorld HW × CANStatus :=
  let c := w.channels channel
  if !c.isOpen || !c.isStarted then (w, .ebusy)
  else
    let status := canTC3xxValidateFrame c frame
    if status != .ok then (w, status)
    else
      match canTC3xxLenToDlc frame.len with
      | none => (w, .einval)
      | some dlc =>
          let message : IfxCanMessage :=
            { ifxCanInitMessage with
              bufferNumber := c.txBufferNumber
              messageId := frame.id
              messageIdLength := canTC3xxToMessageIdLength frame.idType
              frameMode := canTC3xxToFrameMode frame.mode
              dataLengthCode := dlc }
          let (hw, status) :=
            ifx.sendMessage w.hw c.canNode message (firstBytes frame.len frame.data)
          let status :=
            match status with
            | .notSentBusy => .ebusy
            | .ok => .ok
            | .other => .eio
          ({ w with hw := hw }, status)

/-- The frame in a message read, or why there is none. -/
def canTC3xxDecode (message : IfxCanMessage) (data : Vector UInt8 64) : Except CANStatus CANFrame :=
  match canTC3xxFromMessageIdLength message.messageIdLength with
  | none => .error .eunsupported
  | some idType =>
      match canTC3xxFromFrameMode message.frameMode with
      | none => .error .eunsupported
      | some mode =>
          let len := canTC3xxDlcToLen message.dataLengthCode
          if !canTC3xxIsValidPayloadLength mode len then .error .eio
          else
            .ok { idType := idType
                  mode := mode
                  id := message.messageId
                  len := len
                  data := firstBytes len data }

/-- Is there a frame on the channel's receive path? -/
def canTC3xxRxPending (ifx : IfxCan HW) (hw : HW) (c : CANTC3xxChannel) : Bool :=
  if c.useRxFifo0 then 0 < ifx.rxFifo0FillLevel hw c.canNode
  else ifx.isNewDataReceived hw c.canNode c.rxBufferNumber

/-- With the caller's buffer as it is left. -/
def canTC3xxReceive (ifx : IfxCan HW) (w : CANTC3xxWorld HW) (channel : Nat) (frame : CANFrame) :
    CANTC3xxWorld HW × CANStatus × CANFrame :=
  let c := w.channels channel
  if !c.isOpen || !c.isStarted then (w, .ebusy, frame)
  else if !canTC3xxRxPending ifx w.hw c then (w, .enodata, frame)
  else
    let message :=
      if c.useRxFifo0 then { ifxCanInitMessage with readFromRxFifo0 := true }
      else { ifxCanInitMessage with bufferNumber := c.rxBufferNumber }
    let (hw, message, data) := ifx.readMessage w.hw c.canNode message (Vector.replicate 64 0)
    match canTC3xxDecode message data with
    | .error status => ({ w with hw := hw }, status, frame)
    | .ok received => ({ w with hw := hw }, .ok, received)

/-! ### The core's view of the driver (`can_tc3xx_core_glue.c`) -/

def canTC3xxCoreQueryEvents (ifx : IfxCan HW) (w : CANTC3xxWorld HW) (channel : Nat)
    (_eventMask : UInt32) : CANTC3xxWorld HW × CANStatus × UInt32 :=
  let c := w.channels channel
  if !c.isOpen then (w, .ebusy, 0)
  else if !c.isStarted then (w, .ok, 0)
  else
    (w, .ok,
      if canTC3xxRxPending ifx w.hw c then canCoreEventTxReady ||| canCoreEventRxReady
      else canCoreEventTxReady)

def canTC3xxCoreDriverOps (ifx : IfxCan HW) :
    CANCoreDriverOps (CANTC3xxWorld HW) Nat BoardCANPort where
  opOpen := canTC3xxOpen ifx
  opClose := canTC3xxClose
  opStart := canTC3xxStart
  opStop := canTC3xxStop
  opSend := canTC3xxSend ifx
  opReceive := canTC3xxReceive ifx

def canTC3xxCoreOptionalDriverOps (ifx : IfxCan HW) :
    CANCoreOptionalDriverOps (CANTC3xxWorld HW) Nat where
  queryEvents := some (canTC3xxCoreQueryEvents ifx)

def canTC3xxCoreBinding (ifx : IfxCan HW) (channel : Nat) (port : BoardCANPort) :
    CANCoreBinding (CANTC3xxWorld HW) Nat BoardCANPort where
  ops := some (canTC3xxCoreDriverOps ifx)
  optionalOps := some (canTC3xxCoreOptionalDriverOps ifx)
  driverChannel := channel
  driverPort := port

/-- `CANTC3xxCoreBindingInit`, which also clears the channel. -/
def canTC3xxCoreBindingInit (ifx : IfxCan HW) (w : CANTC3xxWorld HW) (channel : Nat)
    (port : BoardCANPort) : CANTC3xxWorld HW × CANCoreBinding (CANTC3xxWorld HW) Nat BoardCANPort :=
  (w.setChannel channel canTC3xxChannelInit, canTC3xxCoreBinding ifx channel port)

/-! ### What open does -/

section Setters

variable (w : CANTC3xxWorld HW)

@[simp] theorem setChannel_channels (channel : Nat) (c : CANTC3xxChannel) :
    (w.setChannel channel c).channels channel = c :=
  Function.update_self _ _ _

theorem setNode_nodeInUse (module node : Nat) (inUse : Bool) (m n : Nat) :
    (w.setNode module node inUse).nodeInUse m n =
      if m = module ∧ n = node then inUse else w.nodeInUse m n := by
  by_cases sameModule : m = module
  · subst sameModule
    by_cases sameNode : n = node <;> simp [CANTC3xxWorld.setNode, sameNode]
  · simp [CANTC3xxWorld.setNode, sameModule]

/-- Reserving a free node and releasing it again. -/
theorem setNode_undo {module node : Nat} (free : w.nodeInUse module node = false) :
    (w.setNode module node true).setNode module node false = w := by
  have nodes : ((w.setNode module node true).setNode module node false).nodeInUse =
      w.nodeInUse := by
    funext m n
    rw [setNode_nodeInUse, setNode_nodeInUse]
    by_cases same : m = module ∧ n = node
    · rw [if_pos same, same.1, same.2, free]
    · rw [if_neg same, if_neg same]
  calc (w.setNode module node true).setNode module node false
      = { w with
          nodeInUse := ((w.setNode module node true).setNode module node false).nodeInUse } := rfl
    _ = w := by rw [nodes]

end Setters

theorem canTC3xxModuleIndexFromBoardInst_lt (inst : BoardMCUCANInst) :
    canTC3xxModuleIndexFromBoardInst inst < canTC3xxMaxModules := by
  cases inst <;> decide

theorem canTC3xxModuleIndexFromBoardInst_inj {inst inst' : BoardMCUCANInst}
    (same : canTC3xxModuleIndexFromBoardInst inst = canTC3xxModuleIndexFromBoardInst inst') :
    inst = inst' := by
  cases inst <;> cases inst' <;> first | rfl | exact absurd same (by decide)

theorem canTC3xxNodeIndexFromBoardNode_inj {node node' : BoardMCUCANNode}
    (same : canTC3xxNodeIndexFromBoardNode node = canTC3xxNodeIndexFromBoardNode node') :
    node = node' := by
  cases node <;> cases node' <;> first | rfl | exact absurd same (by decide)

theorem canTC3xxReserveNode_cases (w : CANTC3xxWorld HW) (inst : BoardMCUCANInst)
    (node : BoardMCUCANNode) :
    canTC3xxReserveNode w inst node = (w, .ebusy) ∨
      w.nodeInUse (canTC3xxModuleIndexFromBoardInst inst) (canTC3xxNodeIndexFromBoardNode node) =
        false ∧
      canTC3xxReserveNode w inst node =
        (w.setNode (canTC3xxModuleIndexFromBoardInst inst) (canTC3xxNodeIndexFromBoardNode node) true,
          .ok) := by
  simp only [canTC3xxReserveNode]
  split
  · exact .inl rfl
  · rename_i free
    exact .inr ⟨by simpa using free, rfl⟩

/-- A module after one acquisition. -/
def CANTC3xxModuleContext.acquired (m : CANTC3xxModuleContext) : CANTC3xxModuleContext :=
  if m.isInitialized then { m with refCount := m.refCount + 1 } else ⟨true, 1⟩

theorem canTC3xxAcquireModule_ok (ifx : IfxCan HW) (w : CANTC3xxWorld HW) (inst : BoardMCUCANInst) :
    ∃ hw, canTC3xxAcquireModule ifx w inst (canTC3xxModuleIndexFromBoardInst inst) =
      (({ w with hw := hw }).setModule (canTC3xxModuleIndexFromBoardInst inst)
        (w.modules (canTC3xxModuleIndexFromBoardInst inst)).acquired, .ok) := by
  have bounded := Nat.not_le.mpr (canTC3xxModuleIndexFromBoardInst_lt inst)
  cases initialized : (w.modules (canTC3xxModuleIndexFromBoardInst inst)).isInitialized with
  | false =>
      exact ⟨ifx.initModule w.hw inst, by
        simp [canTC3xxAcquireModule, CANTC3xxModuleContext.acquired, bounded, initialized]⟩
  | true =>
      exact ⟨w.hw, by
        simp [canTC3xxAcquireModule, CANTC3xxModuleContext.acquired, bounded, initialized]⟩

theorem canTC3xxValidateRxFilterConfig_checked {port : BoardCANPort} {config : CANChannelConfig}
    (checked : canTC3xxValidateOpenConfig port config = .ok) :
    canTC3xxValidateRxFilterConfig config.rxFilter = .ok := by
  simp only [canTC3xxValidateOpenConfig] at checked
  split at checked
  · cases checked
  split at checked
  · cases checked
  split at checked
  · cases checked
  split at checked
  · cases enabled : config.rxFilter.enabled with
    | false => simp [canTC3xxValidateRxFilterConfig, enabled]
    | true => simp [enabled] at checked
  split at checked
  · cases checked
  · exact checked

/-- The filter of a checked configuration is never refused. -/
theorem canTC3xxConfigureRxFilter_checked (ifx : IfxCan HW) (w : CANTC3xxWorld HW)
    {port : BoardCANPort} {config : CANChannelConfig}
    (checked : canTC3xxValidateOpenConfig port config = .ok) :
    ∃ hw, canTC3xxConfigureRxFilter ifx w (canTC3xxBoundChannel port config) =
      ({ w with hw := hw }, .ok) := by
  have valid : canTC3xxValidateRxFilterConfig (canTC3xxBoundChannel port config).config.rxFilter =
      .ok := canTC3xxValidateRxFilterConfig_checked checked
  simp only [canTC3xxConfigureRxFilter, valid]
  rw [if_neg (by simp)]
  split
  · exact ⟨w.hw, rfl⟩
  · exact ⟨_, rfl⟩

/-- The world after a successful open: the node is taken, the module has one user
more, and the channel is open on the node of its port. -/
def CANTC3xxWorld.opened (w : CANTC3xxWorld HW) (hw : HW) (channel : Nat) (port : BoardCANPort)
    (config : CANChannelConfig) : CANTC3xxWorld HW :=
  let module := canTC3xxModuleIndexFromBoardInst port.mcuInst
  (((({ w with hw := hw }).setNode module (canTC3xxNodeIndexFromBoardNode port.mcuNode) true).setModule
    module (w.modules module).acquired).setChannel channel
      { canTC3xxBoundChannel port config with isOpen := true })

/-- An open either succeeds so or leaves the driver as it was. -/
inductive CANTC3xxOpened (w : CANTC3xxWorld HW) (channel : Nat) (port : BoardCANPort)
    (config : CANChannelConfig) : CANTC3xxWorld HW × CANStatus → Prop where
  | refused {status : CANStatus} : status ≠ .ok → CANTC3xxOpened w channel port config (w, status)
  | opened (hw : HW) : CANTC3xxOpened w channel port config (w.opened hw channel port config, .ok)

theorem canTC3xxOpenChecks_config {ifx : IfxCan HW} {port : BoardCANPort} {config : CANChannelConfig}
    (checked : canTC3xxOpenChecks ifx port config = .ok) :
    canTC3xxValidateOpenConfig port config = .ok := by
  by_contra refused
  simp [canTC3xxOpenChecks, refused] at checked

theorem canTC3xxOpenPowered_checked (ifx : IfxCan HW) (w : CANTC3xxWorld HW) (channel : Nat)
    {port : BoardCANPort} {config : CANChannelConfig}
    (checked : canTC3xxValidateOpenConfig port config = .ok) :
    ∃ hw, canTC3xxOpenPowered ifx
        (w.setNode (canTC3xxModuleIndexFromBoardInst port.mcuInst)
          (canTC3xxNodeIndexFromBoardNode port.mcuNode) true) channel port config =
      (w.opened hw channel port config, .ok) := by
  simp only [canTC3xxOpenPowered]
  obtain ⟨hw, acquired⟩ := canTC3xxAcquireModule_ok ifx
    ((w.setNode (canTC3xxModuleIndexFromBoardInst port.mcuInst)
      (canTC3xxNodeIndexFromBoardNode port.mcuNode) true).setChannel channel canTC3xxChannelInit)
    port.mcuInst
  rw [acquired]
  dsimp only
  obtain ⟨hw', configured⟩ := canTC3xxConfigureRxFilter_checked ifx _ checked
  rw [if_neg (by decide), configured]
  dsimp only
  rw [if_neg (by decide)]
  refine ⟨hw', Prod.ext ?_ rfl⟩
  simp only [CANTC3xxWorld.opened, CANTC3xxWorld.setChannel, CANTC3xxWorld.setModule,
    CANTC3xxWorld.setNode, Function.update_idem]

theorem canTC3xxOpen_spec (ifx : IfxCan HW) (w : CANTC3xxWorld HW) (channel : Nat)
    (port : BoardCANPort) (config : CANChannelConfig) :
    CANTC3xxOpened w channel port config (canTC3xxOpen ifx w channel port config) := by
  simp only [canTC3xxOpen]
  split
  · exact .refused (by decide)
  split
  · rename_i refused
    exact .refused (by simpa using refused)
  rename_i passed
  have checked := canTC3xxOpenChecks_config (by simpa using passed)
  rcases canTC3xxReserveNode_cases w port.mcuInst port.mcuNode with reserved | ⟨free, reserved⟩
  · rw [reserved]
    exact .refused nofun
  · rw [reserved]
    dsimp only
    rw [if_neg (by decide)]
    split
    · rw [canTC3xxReleaseNode, setNode_undo w free]
      exact .refused (by decide)
    · obtain ⟨hw, powered⟩ := canTC3xxOpenPowered_checked ifx w channel checked
      rw [powered]
      exact .opened hw

theorem canTC3xxClose_open {w : CANTC3xxWorld HW} {channel : Nat}
    (isOpen : (w.channels channel).isOpen) :
    canTC3xxClose w channel =
      ((canTC3xxReleaseNode (canTC3xxReleaseModule w (w.channels channel).moduleIndex)
        (w.channels channel).moduleInst (w.channels channel).node).setChannel channel
          canTC3xxChannelInit, .ok) := by
  simp [canTC3xxClose, isOpen]

/-! ### The tables of at most one channel -/

/-- Nothing is reserved. -/
structure CANTC3xxWorld.TablesClear (w : CANTC3xxWorld HW) : Prop where
  modules : ∀ m, w.modules m = ⟨false, 0⟩
  nodes : ∀ m n, w.nodeInUse m n = false

/-- One channel is open, on `port`. -/
structure CANTC3xxWorld.TablesHold (w : CANTC3xxWorld HW) (port : BoardCANPort) : Prop where
  modules : ∀ m, w.modules m =
    if m = canTC3xxModuleIndexFromBoardInst port.mcuInst then ⟨true, 1⟩ else ⟨false, 0⟩
  nodes : ∀ m n, w.nodeInUse m n =
    decide (m = canTC3xxModuleIndexFromBoardInst port.mcuInst ∧
      n = canTC3xxNodeIndexFromBoardNode port.mcuNode)

/-- Two worlds with the same tables. -/
def CANTC3xxWorld.SameTables (w w' : CANTC3xxWorld HW) : Prop :=
  w'.modules = w.modules ∧ w'.nodeInUse = w.nodeInUse

section Tables

variable {w w' : CANTC3xxWorld HW} {port : BoardCANPort}

theorem CANTC3xxWorld.TablesClear.congr (same : w.SameTables w') (clear : w.TablesClear) :
    w'.TablesClear where
  modules m := by rw [same.1]; exact clear.modules m
  nodes m n := by rw [same.2]; exact clear.nodes m n

theorem CANTC3xxWorld.TablesHold.congr (same : w.SameTables w') (hold : w.TablesHold port) :
    w'.TablesHold port where
  modules m := by rw [same.1]; exact hold.modules m
  nodes m n := by rw [same.2]; exact hold.nodes m n

theorem CANTC3xxWorld.TablesClear.opened (clear : w.TablesClear) (hw : HW) (channel : Nat)
    (port : BoardCANPort) (config : CANChannelConfig) :
    (w.opened hw channel port config).TablesHold port where
  modules m := by
    have fresh : (w.modules (canTC3xxModuleIndexFromBoardInst port.mcuInst)).acquired =
        ⟨true, 1⟩ := by rw [clear.modules]; rfl
    show Function.update w.modules _ _ m = _
    rw [fresh, Function.update_apply, clear.modules m]
  nodes m n := by
    show (w.setNode _ _ true).nodeInUse m n = _
    rw [setNode_nodeInUse, clear.nodes m n]
    split
    · rename_i here
      exact (decide_eq_true here).symm
    · rename_i elsewhere
      exact (decide_eq_false elsewhere).symm

/-- Closing the one open channel leaves nothing reserved. -/
theorem CANTC3xxWorld.TablesHold.closed {channel : Nat} (hold : w.TablesHold port)
    (isOpen : (w.channels channel).isOpen)
    (inst : (w.channels channel).moduleInst = port.mcuInst)
    (node : (w.channels channel).node = port.mcuNode)
    (index : (w.channels channel).moduleIndex = canTC3xxModuleIndexFromBoardInst port.mcuInst) :
    (canTC3xxClose w channel).1.TablesClear := by
  have bounded := Nat.not_le.mpr (canTC3xxModuleIndexFromBoardInst_lt port.mcuInst)
  rw [canTC3xxClose_open isOpen, inst, node, index]
  simp only [canTC3xxReleaseModule, bounded, if_false, canTC3xxReleaseNode]
  constructor
  · intro m
    have last : (w.modules (canTC3xxModuleIndexFromBoardInst port.mcuInst)).released =
        ⟨false, 0⟩ := by rw [hold.modules, if_pos rfl]; rfl
    show Function.update w.modules _ _ m = _
    rw [last, Function.update_apply, hold.modules m]
    split <;> rfl
  · intro m n
    show ((w.setModule _ _).setNode _ _ false).nodeInUse m n = _
    rw [setNode_nodeInUse]
    split
    · rfl
    · rename_i elsewhere
      exact (hold.nodes m n).trans (decide_eq_false elsewhere)

end Tables

/-! ### An open channel -/

/-- The channel is open on the node of `port`. -/
structure CANTC3xxChannel.OpenOn (c : CANTC3xxChannel) (port : BoardCANPort) (started : Bool) :
    Prop where
  isOpen : c.isOpen
  isStarted : c.isStarted = started
  canNode : c.canNode = some port.nodeRef
  moduleInst : c.moduleInst = port.mcuInst
  node : c.node = port.mcuNode
  moduleIndex : c.moduleIndex = canTC3xxModuleIndexFromBoardInst port.mcuInst

section OpenOn

variable {w : CANTC3xxWorld HW} {channel : Nat} {port : BoardCANPort} {started : Bool}

theorem CANTC3xxWorld.opened_openOn (w : CANTC3xxWorld HW) (hw : HW) (channel : Nat)
    (port : BoardCANPort) (config : CANChannelConfig) :
    ((w.opened hw channel port config).channels channel).OpenOn port false := by
  rw [CANTC3xxWorld.opened, setChannel_channels]
  exact ⟨rfl, rfl, rfl, rfl, rfl, rfl⟩

/-- Start and stop set the flag if the transceiver follows. -/
theorem canTC3xxSetStarted_openOn (on : (w.channels channel).OpenOn port started) (flag : Bool) :
    canTC3xxSetStarted w channel flag = (w, .eio) ∧ w.board.setStandby ≠ .ok ∨
      ∃ w', canTC3xxSetStarted w channel flag = (w', .ok) ∧ w.SameTables w' ∧
        (w'.channels channel).OpenOn port flag := by
  simp only [canTC3xxSetStarted, on.isOpen]
  rw [if_neg (by decide)]
  split
  · rename_i stuck
    exact .inl ⟨rfl, by intro good; simp [good] at stuck⟩
  · refine .inr ⟨_, rfl, ⟨rfl, rfl⟩, ?_⟩
    rw [setChannel_channels]
    exact ⟨rfl, rfl, on.canNode, on.moduleInst, on.node, on.moduleIndex⟩

theorem canTC3xxClose_openOn (on : (w.channels channel).OpenOn port started)
    (hold : w.TablesHold port) :
    ∃ w', canTC3xxClose w channel = (w', .ok) ∧ w'.TablesClear :=
  ⟨_, canTC3xxClose_open on.isOpen,
    by simpa only [canTC3xxClose_open on.isOpen] using
      hold.closed on.isOpen on.moduleInst on.node on.moduleIndex⟩

/-- What a send does to the hardware, it does through the node of the port. -/
theorem canTC3xxSend_openOn (ifx : IfxCan HW) (on : (w.channels channel).OpenOn port started)
    (frame : CANFrame) :
    (canTC3xxSend ifx w channel frame).1 = w ∨
      ∃ message data, (canTC3xxSend ifx w channel frame).1 =
        { w with hw := (ifx.sendMessage w.hw (some port.nodeRef) message data).1 } := by
  simp only [canTC3xxSend, on.canNode]
  split
  · exact .inl rfl
  split
  · exact .inl rfl
  split
  · exact .inl rfl
  · exact .inr ⟨_, _, rfl⟩

theorem canTC3xxReceive_openOn (ifx : IfxCan HW) (on : (w.channels channel).OpenOn port started)
    (buffer : CANFrame) :
    (canTC3xxReceive ifx w channel buffer).1 = w ∨
      ∃ message data, (canTC3xxReceive ifx w channel buffer).1 =
        { w with hw := (ifx.readMessage w.hw (some port.nodeRef) message data).1 } := by
  simp only [canTC3xxReceive, on.canNode]
  split
  · exact .inl rfl
  split
  · exact .inl rfl
  split
  · exact .inr ⟨_, _, rfl⟩
  · exact .inr ⟨_, _, rfl⟩

end OpenOn

end SmartBusAccess.Can
