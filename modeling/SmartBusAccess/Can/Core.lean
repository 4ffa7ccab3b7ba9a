import SmartBusAccess.Semantics.Looping
import SmartBusAccess.Can.Types

/-!
The CAN core (`can_core.c`): one channel of a driver behind a small state
machine, with immediate and blocking calls.

The driver is a table of functions on a world `W`, which holds everything the
core does not: the driver's own state, the hardware, the clock. `Ch` and `Port`
are what the driver's channel and port pointers point to. A pointer that may be
null is an `Option`; a buffer behind one is passed in and out.

A blocking call loops until the driver or the clock ends it, so it takes fuel and
returns `none` when the fuel is used up.

The name, the capabilities, the hooks and the flags of a core are left out: no
function here reads them.
-/

namespace SmartBusAccess.Can

open Looping

/-! ### The driver's side -/

/-- The six functions every driver has. `open` is a keyword, hence the prefix. -/
structure CANCoreDriverOps (W Ch Port : Type) where
  opOpen : W → Ch → Port → CANChannelConfig → W × CANStatus
  opClose : W → Ch → W × CANStatus
  opStart : W → Ch → W × CANStatus
  opStop : W → Ch → W × CANStatus
  opSend : W → Ch → CANFrame → W × CANStatus
  opReceive : W → Ch → CANFrame → W × CANStatus × CANFrame

/-- Those it may have. -/
structure CANCoreOptionalDriverOps (W Ch : Type) where
  queryEvents : Option (W → Ch → UInt32 → W × CANStatus × UInt32)

/-- The hooks of a platform: a tick source and something to do while waiting. -/
structure CANCoreRuntime (W : Type) where
  getTickMs : Option (W → W × UInt32)
  relax : Option (W → W)

/-- `ops` is `none` when the table or one of its entries is missing. -/
structure CANCoreBinding (W Ch Port : Type) where
  ops : Option (CANCoreDriverOps W Ch Port)
  optionalOps : Option (CANCoreOptionalDriverOps W Ch)
  driverChannel : Ch
  driverPort : Port

structure CANCoreOpenParams (W : Type) where
  channelConfig : CANChannelConfig
  runtime : CANCoreRuntime W

/-! ### The core -/

inductive CANCoreState where
  | closed
  | opened
  | started
deriving DecidableEq, Repr

/-- What an open core is bound to. -/
structure CANCoreLink (W Ch Port : Type) where
  started : Bool
  ops : CANCoreDriverOps W Ch Port
  optionalOps : Option (CANCoreOptionalDriverOps W Ch)
  driverChannel : Ch
  driverPort : Port
  runtime : CANCoreRuntime W

structure CANCoreStats where
  txCalls : UInt32
  txOk : UInt32
  txBusy : UInt32
  txTimeouts : UInt32
  rxCalls : UInt32
  rxOk : UInt32
  rxEmpty : UInt32
  rxTimeouts : UInt32
deriving DecidableEq, Repr

def CANCoreStats.zero : CANCoreStats := ⟨0, 0, 0, 0, 0, 0, 0, 0⟩

/-- The fields that `CANCoreInit` clears and `CANCoreOpen` sets are one `link`,
absent exactly while the core is closed. -/
structure CANCore (W Ch Port : Type) where
  link : Option (CANCoreLink W Ch Port)
  stats : CANCoreStats
  lastStatus : CANStatus

variable {W Ch Port : Type}

def CANCore.state (core : CANCore W Ch Port) : CANCoreState :=
  match core.link with
  | none => .closed
  | some link => if link.started then .started else .opened

/-- The link of a started core. -/
def CANCore.running (core : CANCore W Ch Port) : Option (CANCoreLink W Ch Port) :=
  core.link.filter CANCoreLink.started

/-- `core->runtime.get_tick_ms`, null in a closed core. -/
def CANCore.tick (core : CANCore W Ch Port) : Option (W → W × UInt32) :=
  core.link.bind fun link => link.runtime.getTickMs

/-- Note a status and return it. -/
def CANCore.answer (core : CANCore W Ch Port) (w : W) (status : CANStatus) :
    CANCore W Ch Port × W × CANStatus :=
  ({ core with lastStatus := status }, w, status)

def canCoreInit : CANCore W Ch Port := ⟨none, .zero, .ok⟩

def canCoreOpen (core : CANCore W Ch Port) (w : W) (binding : CANCoreBinding W Ch Port)
    (params : CANCoreOpenParams W) : CANCore W Ch Port × W × CANStatus :=
  match binding.ops with
  | none => core.answer w .einval
  | some ops =>
      if core.state != .closed then core.answer w .ebusy
      else
        let (w, status) :=
          ops.opOpen w binding.driverChannel binding.driverPort params.channelConfig
        if status != .ok then core.answer w status
        else
          let link := ⟨false, ops, binding.optionalOps, binding.driverChannel,
            binding.driverPort, params.runtime⟩
          (⟨some link, .zero, .ok⟩, w, .ok)

def canCoreClose (core : CANCore W Ch Port) (w : W) : CANCore W Ch Port × W × CANStatus :=
  match core.link with
  | none => core.answer w .einval
  | some link =>
      -- the status of this Stop is ignored
      let w := if link.started then (link.ops.opStop w link.driverChannel).1 else w
      let (w, status) := link.ops.opClose w link.driverChannel
      if status != .ok then core.answer w status
      else (canCoreInit, w, .ok)

def canCoreStart (core : CANCore W Ch Port) (w : W) : CANCore W Ch Port × W × CANStatus :=
  match core.link with
  | none => core.answer w .ebusy
  | some link =>
      if link.started then core.answer w .ok
      else
        let (w, status) := link.ops.opStart w link.driverChannel
        if status != .ok then core.answer w status
        else ({ core with link := some { link with started := true }, lastStatus := status }, w, .ok)

def canCoreStop (core : CANCore W Ch Port) (w : W) : CANCore W Ch Port × W × CANStatus :=
  match core.link with
  | none => core.answer w .ebusy
  | some link =>
      if !link.started then core.answer w .ok
      else
        let (w, status) := link.ops.opStop w link.driverChannel
        if status != .ok then core.answer w status
        else ({ core with link := some { link with started := false }, lastStatus := status }, w, .ok)

/-! ### Immediate calls -/

def CANCoreStats.sent (stats : CANCoreStats) (status : CANStatus) : CANCoreStats :=
  let stats := { stats with txCalls := stats.txCalls + 1 }
  if status == .ok then { stats with txOk := stats.txOk + 1 }
  else if status == .ebusy then { stats with txBusy := stats.txBusy + 1 }
  else stats

def CANCoreStats.received (stats : CANCoreStats) (status : CANStatus) : CANCoreStats :=
  let stats := { stats with rxCalls := stats.rxCalls + 1 }
  if status == .ok then { stats with rxOk := stats.rxOk + 1 }
  else if status == .enodata then { stats with rxEmpty := stats.rxEmpty + 1 }
  else stats

def canCoreSend (core : CANCore W Ch Port) (w : W) (frame : Option CANFrame) :
    CANCore W Ch Port × W × CANStatus :=
  match frame with
  | none => core.answer w .einval
  | some frame =>
      match core.running with
      | none => core.answer w .ebusy
      | some link =>
          let (w, status) := link.ops.opSend w link.driverChannel frame
          ({ core with stats := core.stats.sent status, lastStatus := status }, w, status)

/-- With the caller's buffer as the driver leaves it. -/
def canCoreReceive (core : CANCore W Ch Port) (w : W) (frame : Option CANFrame) :
    CANCore W Ch Port × W × CANStatus × Option CANFrame :=
  match frame with
  | none =>
      let (core, w, status) := core.answer w .einval
      (core, w, status, none)
  | some buffer =>
      match core.running with
      | none =>
          let (core, w, status) := core.answer w .ebusy
          (core, w, status, some buffer)
      | some link =>
          let (w, status, buffer) := link.ops.opReceive w link.driverChannel buffer
          ({ core with stats := core.stats.received status, lastStatus := status }, w, status,
            some buffer)

abbrev canCoreTrySend (core : CANCore W Ch Port) := core |> canCoreSend
abbrev canCoreTryReceive (core : CANCore W Ch Port) := core |> canCoreReceive

/-! ### Events -/

abbrev canCoreEventRxReady : UInt32 := 1
abbrev canCoreEventTxReady : UInt32 := 2
abbrev canCoreEventError : UInt32 := 4
abbrev canCoreEventState : UInt32 := 8

/-- `valid_mask`. -/
abbrev canCoreEventMask : UInt32 :=
  canCoreEventRxReady ||| canCoreEventTxReady ||| canCoreEventError ||| canCoreEventState

/-- The checks of an interest mask. -/
def interestValid (interestMask : UInt32) : Bool :=
  interestMask != 0 && interestMask &&& ~~~canCoreEventMask == 0

def canCoreQueryEvents (core : CANCore W Ch Port) (w : W) (eventMask : UInt32) :
    CANCore W Ch Port × W × CANStatus × UInt32 :=
  match core.link.bind fun link =>
      (link.optionalOps.bind CANCoreOptionalDriverOps.queryEvents).map (link.driverChannel, ·) with
  | none =>
      let (core, w, status) := core.answer w .eunsupported
      (core, w, status, eventMask)
  | some (channel, query) =>
      let (w, status, eventMask) := query w channel eventMask
      ({ core with lastStatus := status }, w, status, eventMask)

/-! ### Blocking calls -/

abbrev canTimeoutInfinite : UInt32 := 0xFFFFFFFF

def canCoreRelax (core : CANCore W Ch Port) (w : W) : W :=
  match core.link.bind fun link => link.runtime.relax with
  | none => w
  | some relax => relax w

def canCoreDeadlineExpired (startMs timeoutMs nowMs : UInt32) : Bool :=
  timeoutMs ≤ nowMs - startMs

/-- The end of a turn of a blocking loop: is the deadline over? Without one the
clock is not read. -/
def canCoreDeadline (tick : W → W × UInt32) (timeoutMs startMs : UInt32) (w : W) : W × Bool :=
  if timeoutMs == canTimeoutInfinite then (w, false)
  else
    let (w, nowMs) := tick w
    (w, canCoreDeadlineExpired startMs timeoutMs nowMs)

def CANCore.sendTimedOut (core : CANCore W Ch Port) : CANCore W Ch Port :=
  { core with
    stats := { core.stats with txTimeouts := core.stats.txTimeouts + 1 }
    lastStatus := .etimeout }

def CANCore.receiveTimedOut (core : CANCore W Ch Port) : CANCore W Ch Port :=
  { core with
    stats := { core.stats with rxTimeouts := core.stats.rxTimeouts + 1 }
    lastStatus := .etimeout }

/-- The loop body of `CANCoreSendTimeout`. -/
def canCoreSendTurn (tick : W → W × UInt32) (frame : Option CANFrame) (timeoutMs startMs : UInt32) :
    CANCore W Ch Port × W → Turn (CANCore W Ch Port × W) (CANCore W Ch Port × W × CANStatus)
  | (core, w) =>
      let (core, w, status) := canCoreSend core w frame
      if status != .ebusy then .done (core, w, status)
      else
        let (w, expired) := canCoreDeadline tick timeoutMs startMs w
        if expired then .done (core.sendTimedOut, w, .etimeout)
        else .again (core, canCoreRelax core w)

def canCoreSendTimeout (fuel : Nat) (core : CANCore W Ch Port) (w : W) (frame : Option CANFrame)
    (timeoutMs : UInt32) : Option (CANCore W Ch Port × W × CANStatus) :=
  if frame.isNone then some (core.answer w .einval)
  else if core.state != .started then some (core.answer w .ebusy)
  else if timeoutMs == 0 then some (canCoreSend core w frame)
  else
    match core.tick with
    | none => some (core.answer w .eunsupported)
    | some tick =>
        let (w, startMs) := tick w
        loop (canCoreSendTurn tick frame timeoutMs startMs) fuel (core, w)

/-- The loop body of `CANCoreReceiveTimeout`. -/
def canCoreReceiveTurn (tick : W → W × UInt32) (timeoutMs startMs : UInt32) :
    CANCore W Ch Port × W × Option CANFrame →
      Turn (CANCore W Ch Port × W × Option CANFrame)
        (CANCore W Ch Port × W × CANStatus × Option CANFrame)
  | (core, w, frame) =>
      let (core, w, status, frame) := canCoreReceive core w frame
      if status != .enodata then .done (core, w, status, frame)
      else
        let (w, expired) := canCoreDeadline tick timeoutMs startMs w
        if expired then .done (core.receiveTimedOut, w, .etimeout, frame)
        else .again (core, canCoreRelax core w, frame)

def canCoreReceiveTimeout (fuel : Nat) (core : CANCore W Ch Port) (w : W) (frame : Option CANFrame)
    (timeoutMs : UInt32) : Option (CANCore W Ch Port × W × CANStatus × Option CANFrame) :=
  let refused (status : CANStatus) :=
    let (core, w, status) := core.answer w status
    some (core, w, status, frame)
  if frame.isNone then refused .einval
  else if core.state != .started then refused .ebusy
  else if timeoutMs == 0 then some (canCoreReceive core w frame)
  else
    match core.tick with
    | none => refused .eunsupported
    | some tick =>
        let (w, startMs) := tick w
        loop (canCoreReceiveTurn tick timeoutMs startMs) fuel (core, w, frame)

/-- The loop body of `CANCorePoll`. `tick` is `none` for an immediate poll. -/
def canCorePollTurn (tick : Option (W → W × UInt32)) (interestMask timeoutMs startMs : UInt32) :
    CANCore W Ch Port × W →
      Turn (CANCore W Ch Port × W) (CANCore W Ch Port × W × CANStatus × UInt32)
  | (core, w) =>
      let (core, w, status, queriedMask) := canCoreQueryEvents core w 0
      if status != .ok then .done (core, w, status, 0)
      else
        let readyMask := queriedMask &&& interestMask
        if readyMask != 0 then .done ({ core with lastStatus := .ok }, w, .ok, readyMask)
        else
          match tick with
          | none => .done ({ core with lastStatus := .enodata }, w, .enodata, readyMask)
          | some tick =>
              let (w, expired) := canCoreDeadline tick timeoutMs startMs w
              if expired then .done ({ core with lastStatus := .etimeout }, w, .etimeout, readyMask)
              else .again (core, canCoreRelax core w)

/-- With the caller's ready mask as the call leaves it. -/
def canCorePoll (fuel : Nat) (core : CANCore W Ch Port) (w : W) (interestMask timeoutMs : UInt32)
    (readyMask : Option UInt32) : Option (CANCore W Ch Port × W × CANStatus × Option UInt32) :=
  let refused (status : CANStatus) :=
    let (core, w, status) := core.answer w status
    some (core, w, status, readyMask.map fun _ => 0)
  let answered := fun (core, w, status, mask) => (core, w, status, some mask)
  if readyMask.isNone then refused .einval
  else if !interestValid interestMask then refused .einval
  else if core.state != .started then refused .ebusy
  else if timeoutMs == 0 then
    (loop (canCorePollTurn none interestMask timeoutMs 0) fuel (core, w)).map answered
  else
    match core.tick with
    | none => refused .eunsupported
    | some tick =>
        let (w, startMs) := tick w
        (loop (canCorePollTurn (some tick) interestMask timeoutMs startMs) fuel (core, w)).map answered

/-! ### What a call leaves alone -/

theorem CANCore.state_congr {core core' : CANCore W Ch Port} (link : core'.link = core.link) :
    core'.state = core.state := by
  simp only [CANCore.state, link]

@[simp] theorem CANCore.answer_link (core : CANCore W Ch Port) (w : W) (status : CANStatus) :
    (core.answer w status).1.link = core.link := rfl

theorem canCoreSend_link (core : CANCore W Ch Port) (w : W) (frame : Option CANFrame) :
    (canCoreSend core w frame).1.link = core.link := by
  cases frame with
  | none => rfl
  | some frame =>
      cases running : core.running <;> simp [canCoreSend, running]

theorem canCoreReceive_link (core : CANCore W Ch Port) (w : W) (frame : Option CANFrame) :
    (canCoreReceive core w frame).1.link = core.link := by
  cases frame with
  | none => rfl
  | some frame =>
      cases running : core.running <;> simp [canCoreReceive, running]

/-- A buffer that is there stays there. -/
theorem canCoreReceive_isSome (core : CANCore W Ch Port) (w : W) (frame : Option CANFrame) :
    (canCoreReceive core w frame).2.2.2.isSome = frame.isSome := by
  cases frame with
  | none => rfl
  | some buffer =>
      cases running : core.running <;> simp [canCoreReceive, running]

theorem canCoreQueryEvents_link (core : CANCore W Ch Port) (w : W) (eventMask : UInt32) :
    (canCoreQueryEvents core w eventMask).1.link = core.link := by
  unfold canCoreQueryEvents
  split <;> rfl

/-- A poll without a tick source returns at its first turn. -/
theorem canCorePollTurn_immediate (interestMask timeoutMs startMs : UInt32)
    (s : CANCore W Ch Port × W) :
    ∃ core w status mask, canCorePollTurn none interestMask timeoutMs startMs s =
      .done (core, w, status, mask) ∧ core.link = s.1.link := by
  obtain ⟨core, w⟩ := s
  have link := canCoreQueryEvents_link core w 0
  simp only [canCorePollTurn]
  split
  · exact ⟨_, _, _, _, rfl, link⟩
  · split
    · exact ⟨_, _, _, _, rfl, link⟩
    · exact ⟨_, _, _, _, rfl, link⟩

theorem canCorePoll_immediate (core : CANCore W Ch Port) (w : W) (interestMask : UInt32)
    (readyMask : Option UInt32) :
    ∃ core' w' status mask, canCorePoll 1 core w interestMask 0 readyMask =
      some (core', w', status, mask) ∧ core'.link = core.link := by
  obtain ⟨core', w', status, mask, turn, link⟩ :=
    canCorePollTurn_immediate interestMask 0 0 (core, w)
  simp only [canCorePoll]
  split
  · exact ⟨_, _, _, _, rfl, rfl⟩
  split
  · exact ⟨_, _, _, _, rfl, rfl⟩
  split
  · exact ⟨_, _, _, _, rfl, rfl⟩
  · rw [if_pos (beq_self_eq_true _), loop_done turn]
    exact ⟨_, _, _, _, rfl, link⟩

/-! ### Calls on a started core -/

section Started

variable {core : CANCore W Ch Port} {link : CANCoreLink W Ch Port}

theorem CANCore.state_of_link (bound : core.link = some link) (started : link.started) :
    core.state = .started := by
  simp [CANCore.state, bound, started]

theorem CANCore.link_of_started {core : CANCore W Ch Port} (started : core.state = .started) :
    ∃ link, core.link = some link ∧ link.started = true := by
  cases bound : core.link with
  | none => simp [CANCore.state, bound] at started
  | some link =>
      cases stopped : link.started with
      | true => exact ⟨link, rfl, stopped⟩
      | false => simp [CANCore.state, bound, stopped] at started

theorem CANCore.running_of_link (bound : core.link = some link) (started : link.started) :
    core.running = some link := by
  simp [CANCore.running, bound, Option.filter, started]

theorem canCoreSend_started (bound : core.link = some link) (started : link.started) (w : W)
    (frame : CANFrame) :
    (canCoreSend core w (some frame)).2 = link.ops.opSend w link.driverChannel frame := by
  simp [canCoreSend, CANCore.running_of_link bound started]

theorem canCoreReceive_started (bound : core.link = some link) (started : link.started) (w : W)
    (buffer : CANFrame) :
    (canCoreReceive core w (some buffer)).2 =
      ((link.ops.opReceive w link.driverChannel buffer).1,
        (link.ops.opReceive w link.driverChannel buffer).2.1,
        some (link.ops.opReceive w link.driverChannel buffer).2.2) := by
  simp [canCoreReceive, CANCore.running_of_link bound started]

theorem canCoreSendTurn_started (bound : core.link = some link) (started : link.started)
    (tick : W → W × UInt32) (frame : CANFrame) (timeoutMs startMs : UInt32) (w : W) :
    canCoreSendTurn tick (some frame) timeoutMs startMs (core, w) =
      let core' := (canCoreSend core w (some frame)).1
      let sent := link.ops.opSend w link.driverChannel frame
      let deadline := canCoreDeadline tick timeoutMs startMs sent.1
      if sent.2 != .ebusy then .done (core', sent.1, sent.2)
      else if deadline.2 then .done (core'.sendTimedOut, deadline.1, .etimeout)
      else .again (core', canCoreRelax core' deadline.1) := by
  simp only [canCoreSendTurn, canCoreSend_started bound started]

theorem canCoreReceiveTurn_started (bound : core.link = some link) (started : link.started)
    (tick : W → W × UInt32) (timeoutMs startMs : UInt32) (w : W) (buffer : CANFrame) :
    canCoreReceiveTurn tick timeoutMs startMs (core, w, some buffer) =
      let core' := (canCoreReceive core w (some buffer)).1
      let received := link.ops.opReceive w link.driverChannel buffer
      let deadline := canCoreDeadline tick timeoutMs startMs received.1
      if received.2.1 != .enodata then .done (core', received.1, received.2.1, some received.2.2)
      else if deadline.2 then
        .done (core'.receiveTimedOut, deadline.1, .etimeout, some received.2.2)
      else .again (core', canCoreRelax core' deadline.1, some received.2.2) := by
  simp only [canCoreReceiveTurn, canCoreReceive_started bound started]

theorem canCoreQueryEvents_missing (bound : core.link = some link)
    (missing : link.optionalOps.bind CANCoreOptionalDriverOps.queryEvents = none) (w : W)
    (eventMask : UInt32) :
    (canCoreQueryEvents core w eventMask).2 = (w, .eunsupported, eventMask) := by
  have none : (core.link.bind fun link => (link.optionalOps.bind
      CANCoreOptionalDriverOps.queryEvents).map (link.driverChannel, ·)) = none := by
    rw [bound, Option.bind_some, missing, Option.map_none]
  simp only [canCoreQueryEvents, none]
  rfl

theorem canCoreQueryEvents_bound (bound : core.link = some link)
    {query : W → Ch → UInt32 → W × CANStatus × UInt32}
    (given : link.optionalOps.bind CANCoreOptionalDriverOps.queryEvents = some query) (w : W)
    (eventMask : UInt32) :
    (canCoreQueryEvents core w eventMask).2 = query w link.driverChannel eventMask := by
  have here : (core.link.bind fun link => (link.optionalOps.bind
      CANCoreOptionalDriverOps.queryEvents).map (link.driverChannel, ·)) =
      some (link.driverChannel, query) := by
    rw [bound, Option.bind_some, given, Option.map_some]
  simp only [canCoreQueryEvents, here]

/-- The status of a poll that does not wait. -/
def CANCore.pollStatus (core : CANCore W Ch Port) (w : W) (interestMask : UInt32) : CANStatus :=
  let (_, status, queriedMask) := (canCoreQueryEvents core w 0).2
  if status != .ok then status else if queriedMask &&& interestMask != 0 then .ok else .enodata

theorem canCorePollTurn_status (core : CANCore W Ch Port) (w : W)
    (interestMask timeoutMs startMs : UInt32) :
    ∃ core' w' mask, canCorePollTurn none interestMask timeoutMs startMs (core, w) =
      .done (core', w', core.pollStatus w interestMask, mask) := by
  simp only [canCorePollTurn, CANCore.pollStatus]
  split
  · exact ⟨_, _, _, rfl⟩
  · split
    · exact ⟨_, _, _, rfl⟩
    · exact ⟨_, _, _, rfl⟩

theorem canCorePoll_status (on : core.state = .started) (w : W) {interestMask : UInt32}
    (valid : interestValid interestMask) (readyMask : UInt32) :
    ∃ core' w' mask, canCorePoll 1 core w interestMask 0 (some readyMask) =
      some (core', w', core.pollStatus w interestMask, some mask) := by
  obtain ⟨core', w', mask, turn⟩ := canCorePollTurn_status core w interestMask 0 0
  refine ⟨core', w', mask, ?_⟩
  simp only [canCorePoll, valid, on]
  simp [loop_done turn]

end Started

/-! ### Opening and closing -/

/-- The core of a binding whose driver has opened. -/
def CANCoreBinding.openedCore (binding : CANCoreBinding W Ch Port) (ops : CANCoreDriverOps W Ch Port)
    (runtime : CANCoreRuntime W) : CANCore W Ch Port :=
  ⟨some ⟨false, ops, binding.optionalOps, binding.driverChannel, binding.driverPort, runtime⟩,
    .zero, .ok⟩

theorem canCoreOpen_closed {core : CANCore W Ch Port} (closed : core.link = none) (w : W)
    {binding : CANCoreBinding W Ch Port} {ops : CANCoreDriverOps W Ch Port}
    (bound : binding.ops = some ops) (params : CANCoreOpenParams W) :
    canCoreOpen core w binding params =
      let opened := ops.opOpen w binding.driverChannel binding.driverPort params.channelConfig
      if opened.2 != .ok then core.answer opened.1 opened.2
      else (binding.openedCore ops params.runtime, opened.1, .ok) := by
  simp [canCoreOpen, bound, CANCore.state, closed, CANCoreBinding.openedCore]

theorem canCoreStart_bound {core : CANCore W Ch Port} {link : CANCoreLink W Ch Port}
    (bound : core.link = some link) (stopped : link.started = false) (w : W) :
    canCoreStart core w =
      let started := link.ops.opStart w link.driverChannel
      if started.2 != .ok then core.answer started.1 started.2
      else
        ({ core with link := some { link with started := true }, lastStatus := started.2 },
          started.1, .ok) := by
  simp [canCoreStart, bound, stopped]

theorem canCoreStop_bound {core : CANCore W Ch Port} {link : CANCoreLink W Ch Port}
    (bound : core.link = some link) (started : link.started) (w : W) :
    canCoreStop core w =
      let stopped := link.ops.opStop w link.driverChannel
      if stopped.2 != .ok then core.answer stopped.1 stopped.2
      else
        ({ core with link := some { link with started := false }, lastStatus := stopped.2 },
          stopped.1, .ok) := by
  simp [canCoreStop, bound, started]

theorem canCoreClose_bound {core : CANCore W Ch Port} {link : CANCoreLink W Ch Port}
    (bound : core.link = some link) (w : W) :
    canCoreClose core w =
      let w := if link.started then (link.ops.opStop w link.driverChannel).1 else w
      let closed := link.ops.opClose w link.driverChannel
      if closed.2 != .ok then core.answer closed.1 closed.2 else (canCoreInit, closed.1, .ok) := by
  simp [canCoreClose, bound]

/-! ### A bus that is never free -/

def idleFrame : CANFrame :=
  { idType := .standard, mode := .classic, id := 0, len := 0, data := Vector.replicate 64 0 }

/-- A driver whose transmit buffer stays full and which never receives. -/
def busyOps : CANCoreDriverOps Unit Unit Unit where
  opOpen w _ _ _ := (w, .ok)
  opClose w _ := (w, .ok)
  opStart w _ := (w, .ok)
  opStop w _ := (w, .ok)
  opSend w _ _ := (w, .ebusy)
  opReceive w _ frame := (w, .enodata, frame)

end SmartBusAccess.Can
