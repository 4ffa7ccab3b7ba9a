import SmartBusAccess.Can.Platform
import SmartBusAccess.Semantics.Runs
import Mathlib.Data.Fintype.Card

/-!
CAN sockets (`can_socket.c`): a core of its own behind each socket, all of them on
one platform.
-/

namespace SmartBusAccess.Can

variable {Socket HW : Type}

/-- `bound` stands for the three fields that an open sets and a close clears: the
core pointer, `owns_core` and `platform_opened`. -/
structure CANSocket (HW : Type) where
  ownedCore : CANPlatformCore HW
  bound : Bool

def canSocketResetState : CANSocket HW := ⟨canCoreInit, false⟩

structure CANSocketOpenParams (HW : Type) where
  portName : Option String
  channelConfig : CANChannelConfig
  runtime : CANCoreRuntime (CANTC3xxWorld HW)

/-- All sockets and what they share. -/
structure CANSockets (Socket HW : Type) where
  platform : CANPlatform Socket HW
  sockets : Socket → CANSocket HW

variable [DecidableEq Socket]

def CANSockets.put (s : CANSockets Socket HW) (socket : Socket) (core : CANPlatformCore HW)
    (bound : Bool) (platform : CANPlatform Socket HW) : CANSockets Socket HW :=
  { platform := platform
    sockets := Function.update s.sockets socket ⟨core, bound⟩ }

/-- The failure of an open: the socket is reset. -/
def CANSockets.reset (s : CANSockets Socket HW) (socket : Socket)
    (platform : CANPlatform Socket HW) : CANSockets Socket HW :=
  s.put socket canCoreInit false platform

def canSocketOpen (ifx : IfxCan HW) (ports : List BoardCANPort) (s : CANSockets Socket HW)
    (socket : Socket) (params : CANSocketOpenParams HW) : CANSockets Socket HW × CANStatus :=
  match params.portName with
  | none => (s, .einval)
  | some portName =>
      if (s.sockets socket).bound then (s, .ebusy)
      else
        let (p, status) := canPlatformInit s.platform
        if status != .ok then (s.reset socket p, status)
        else
          let coreParams := ⟨params.channelConfig, params.runtime⟩
          let (core, p, status) :=
            canPlatformOpen ifx ports p socket canCoreInit portName coreParams
          if status != .ok then (s.reset socket (canPlatformDeinit p), status)
          else
            let (core, world, status) := canCoreStart core p.world
            let p := { p with world := world }
            if status != .ok then
              let (_, p, _) := canPlatformClose p socket core
              (s.reset socket (canPlatformDeinit p), status)
            else (s.put socket core true p, .ok)

def canSocketClose (s : CANSockets Socket HW) (socket : Socket) : CANSockets Socket HW × CANStatus :=
  if !(s.sockets socket).bound then (s, .einval)
  else
    let (core, world, stopStatus) := canCoreStop (s.sockets socket).ownedCore s.platform.world
    let (_, p, closeStatus) := canPlatformClose { s.platform with world := world } socket core
    (s.reset socket (canPlatformDeinit p),
      if stopStatus != .ok && stopStatus != .ebusy then stopStatus else closeStatus)

def canSocketSend (s : CANSockets Socket HW) (socket : Socket) (frame : Option CANFrame) :
    CANSockets Socket HW × CANStatus :=
  if !(s.sockets socket).bound then (s, .einval)
  else
    let (core, world, status) := canCoreSend (s.sockets socket).ownedCore s.platform.world frame
    (s.put socket core true { s.platform with world := world }, status)

def canSocketReceive (s : CANSockets Socket HW) (socket : Socket) (frame : Option CANFrame) :
    CANSockets Socket HW × CANStatus × Option CANFrame :=
  if !(s.sockets socket).bound then (s, .einval, frame)
  else
    let (core, world, status, frame) :=
      canCoreReceive (s.sockets socket).ownedCore s.platform.world frame
    (s.put socket core true { s.platform with world := world }, status, frame)

/-! ### Opening -/

/-- Past its first checks an open either fails, and then the platform is cleared, or
leaves the socket's core alone on the platform. -/
inductive CANSocketOpened (ifx : IfxCan HW) (s : CANSockets Socket HW) (socket : Socket) :
    CANSockets Socket HW × CANStatus → Prop where
  | failed {p : CANPlatform Socket HW} {status : CANStatus} : status ≠ .ok →
      (s.platform.world.TablesClear → p.world.TablesClear) →
      CANSocketOpened ifx s socket (s.reset socket (canPlatformDeinit p), status)
  | opened {core : CANPlatformCore HW} {port : BoardCANPort}
      {link : CANCoreLink (CANTC3xxWorld HW) Nat BoardCANPort} {p : CANPlatform Socket HW} :
      CANPlatformLinked ifx core port link → link.started → p.Owned socket port →
      (s.platform.world.TablesClear → p.Holds socket port true) →
      CANSocketOpened ifx s socket (s.put socket core true p, .ok)

theorem canSocketOpen_spec (ifx : IfxCan HW) (ports : List BoardCANPort)
    {s : CANSockets Socket HW} {socket : Socket} {params : CANSocketOpenParams HW}
    {portName : String} (named : params.portName = some portName)
    (unbound : (s.sockets socket).bound = false) (good : s.platform.world.board.init = .ok) :
    CANSocketOpened ifx s socket (canSocketOpen ifx ports s socket params) := by
  obtain ⟨ready, answered, same⟩ := canPlatformInit_good good
  have opened := canPlatformOpen_ready ifx ports ready socket canCoreInit portName
    ⟨params.channelConfig, params.runtime⟩
  simp only [canSocketOpen, named, unbound, answered]
  rw [if_neg (by decide), if_neg (by decide)]
  generalize canPlatformOpen ifx ports (canPlatformInit s.platform).1 socket canCoreInit portName
    ⟨params.channelConfig, params.runtime⟩ = result at opened ⊢
  cases opened with
  | refused failed tables =>
      dsimp only
      rw [if_pos (by simpa using failed)]
      exact .failed failed fun clear => (clear.congr same).congr tables
  | @opened w hw port tables =>
      have owned := ready.owned socket port
      have on := w.opened_openOn hw 0 port params.channelConfig
      have hold : s.platform.world.TablesClear →
          (w.opened hw 0 port params.channelConfig).TablesHold port := fun clear =>
        ((clear.congr same).congr tables).opened hw 0 port params.channelConfig
      have linked : CANPlatformLinked ifx
          (canPlatformOpenedCore ifx 0 port params.runtime) port _ := ⟨rfl, rfl, rfl, rfl⟩
      dsimp only
      rw [if_neg (by decide)]
      rcases linked.start rfl on with
          ⟨core, stuck, linked⟩ | ⟨core, w', started, linked, same', on'⟩
      · rw [stuck]
        dsimp only
        rw [if_pos (by decide)]
        refine .failed nofun fun clear => ?_
        obtain ⟨p, closed, clear⟩ := (owned.holds on (hold clear)).closed linked
        rw [closed]
        exact clear
      · rw [started]
        dsimp only
        rw [if_neg (by decide)]
        exact .opened linked rfl ⟨owned.first, owned.others⟩ fun clear =>
          owned.holds on' ((hold clear).congr same')

/-! ### Sequences of calls -/

def CANSockets.withBoard (s : CANSockets Socket HW) (board : BoardAnswers) : CANSockets Socket HW :=
  { s with platform := { s.platform with world := { s.platform.world with board := board } } }

def CANSockets.withHw (s : CANSockets Socket HW) (hw : HW) : CANSockets Socket HW :=
  { s with platform := { s.platform with world := { s.platform.world with hw := hw } } }

/-- A call on one of the sockets, with what the board answers meanwhile. Between the
calls the hardware goes on. -/
inductive CANSocketCall (Socket HW : Type) where
  | socketOpen (socket : Socket) (params : CANSocketOpenParams HW) (board : BoardAnswers)
  | socketClose (socket : Socket) (board : BoardAnswers)
  | socketSend (socket : Socket) (frame : Option CANFrame)
  | socketReceive (socket : Socket) (frame : Option CANFrame)
  | hardware (hw : HW)

def CANSocketCall.target : CANSocketCall Socket HW → Option Socket
  | .socketOpen socket _ _ => some socket
  | .socketClose socket _ => some socket
  | .socketSend socket _ => some socket
  | .socketReceive socket _ => some socket
  | .hardware _ => none

def CANSockets.after (ifx : IfxCan HW) (ports : List BoardCANPort) (s : CANSockets Socket HW) :
    CANSocketCall Socket HW → CANSockets Socket HW
  | .socketOpen socket params board => (canSocketOpen ifx ports (s.withBoard board) socket params).1
  | .socketClose socket board => (canSocketClose (s.withBoard board) socket).1
  | .socketSend socket frame => (canSocketSend s socket frame).1
  | .socketReceive socket frame => (canSocketReceive s socket frame).1
  | .hardware hw => s.withHw hw

/-- Nothing has been called yet. -/
def canSocketsInit (hw : HW) (board : BoardAnswers) : CANSockets Socket HW where
  platform :=
    { initialized := false
      slots := fun _ => .clear
      world :=
        { hw := hw
          board := board
          modules := fun _ => ⟨false, 0⟩
          nodeInUse := fun _ _ => false
          channels := fun _ => canTC3xxChannelInit } }
  sockets := fun _ => canSocketResetState

/-! ### Sockets left alone -/

/-- The port of an open socket. -/
def CANSocket.port (socket : CANSocket HW) : Option BoardCANPort :=
  if socket.bound then socket.ownedCore.link.map CANCoreLink.driverPort else none

/-- An open socket reaches its own driver channel, and this channel works on the node of
the socket's port. -/
def CANSockets.Reaches (ifx : IfxCan HW) (s : CANSockets Socket HW) (socket : Socket) : Prop :=
  ∃ link, (s.sockets socket).ownedCore.link = some link ∧ link.started ∧
    link.ops = canTC3xxCoreDriverOps ifx ∧
    (s.platform.slots link.driverChannel).owns socket ∧
    (s.platform.world.channels link.driverChannel).OpenOn link.driverPort true

def CANSockets.ClosesOk (s : CANSockets Socket HW) (socket : Socket) : Prop :=
  (canSocketClose (s.withBoard .good) socket).2 = .ok

/-- The tables of the driver say which sockets are open. -/
structure CANSockets.Exact [Fintype Socket] (s : CANSockets Socket HW) : Prop where
  nodes : ∀ inst node,
    s.platform.world.nodeInUse (canTC3xxModuleIndexFromBoardInst inst)
        (canTC3xxNodeIndexFromBoardNode node) = true ↔
      ∃ i port, (s.sockets i).port = some port ∧ port.nodeRef = ⟨inst, node⟩
  modules : ∀ inst,
    (s.platform.world.modules (canTC3xxModuleIndexFromBoardInst inst)).refCount.toNat =
      (Finset.univ.filter fun i => (s.sockets i).port.map BoardCANPort.mcuInst = some inst).card

/-- A call damages no other open socket and keeps the tables exact. -/
def CANSocketCall.Harmless [Fintype Socket] (ifx : IfxCan HW) (ports : List BoardCANPort)
    (s : CANSockets Socket HW) (call : CANSocketCall Socket HW) : Prop :=
  (∀ i, call.target ≠ some i → (s.sockets i).bound →
    ((s.after ifx ports call).sockets i).port = (s.sockets i).port ∧
      (s.after ifx ports call).Reaches ifx i ∧ (s.after ifx ports call).ClosesOk i) ∧
  (s.after ifx ports call).Exact

/-- The call opens a further socket and gets as far as `CANPlatformInit`. -/
def CANSocketCall.OpensBeside (s : CANSockets Socket HW) : CANSocketCall Socket HW → Prop
  | .socketOpen socket params board =>
      params.portName.isSome ∧ (s.sockets socket).bound = false ∧ board.init = .ok ∧
        ∃ i, (s.sockets i).bound
  | _ => False

/-! ### At most one socket -/

/-- No socket is open. -/
structure CANSockets.Idle (s : CANSockets Socket HW) : Prop where
  unbound : ∀ i, (s.sockets i).bound = false
  tables : s.platform.world.TablesClear

/-- One socket is open. -/
structure CANSockets.Solo (ifx : IfxCan HW) (s : CANSockets Socket HW) (socket : Socket)
    (port : BoardCANPort) (link : CANCoreLink (CANTC3xxWorld HW) Nat BoardCANPort) : Prop where
  bound : (s.sockets socket).bound = true
  unbound : ∀ i ≠ socket, (s.sockets i).bound = false
  linked : CANPlatformLinked ifx (s.sockets socket).ownedCore port link
  started : link.started
  holds : s.platform.Holds socket port true

section AtMostOne

variable {ifx : IfxCan HW} {ports : List BoardCANPort} {s : CANSockets Socket HW}
  {socket : Socket} {port : BoardCANPort}
  {link : CANCoreLink (CANTC3xxWorld HW) Nat BoardCANPort}

omit [DecidableEq Socket] in
theorem CANSockets.Idle.withBoard (idle : s.Idle) (board : BoardAnswers) :
    (s.withBoard board).Idle :=
  ⟨idle.unbound, idle.tables.modules, idle.tables.nodes⟩

omit [DecidableEq Socket] in
theorem CANSockets.Solo.withBoard (solo : s.Solo ifx socket port link) (board : BoardAnswers) :
    (s.withBoard board).Solo ifx socket port link :=
  { solo with
    holds := solo.holds.toOwned.holds solo.holds.channel
      ⟨solo.holds.tables.modules, solo.holds.tables.nodes⟩ }

theorem CANSockets.Solo.port_eq (solo : s.Solo ifx socket port link) (i : Socket) :
    (s.sockets i).port = if i = socket then some port else none := by
  by_cases same : i = socket
  · subst same
    simp [CANSocket.port, solo.bound, solo.linked.bound, solo.linked.port]
  · simp [CANSocket.port, solo.unbound i same, same]

theorem CANSockets.Solo.reaches (solo : s.Solo ifx socket port link) : s.Reaches ifx socket := by
  refine ⟨link, solo.linked.bound, solo.started, solo.linked.ops, ?_, ?_⟩
  · rw [solo.linked.channel, solo.holds.first]
    simp [CANPlatformSlot.owns]
  · rw [solo.linked.channel, solo.linked.port]
    exact solo.holds.channel

omit [DecidableEq Socket] in
theorem CANSockets.Idle.exact [Fintype Socket] (idle : s.Idle) : s.Exact where
  nodes inst node := by
    rw [idle.tables.nodes]
    simp [CANSocket.port, idle.unbound]
  modules inst := by
    rw [idle.tables.modules]
    simp [CANSocket.port, idle.unbound]

theorem CANSockets.Solo.exact [Fintype Socket] (solo : s.Solo ifx socket port link) : s.Exact where
  nodes inst node := by
    rw [solo.holds.tables.nodes, decide_eq_true_iff]
    constructor
    · rintro ⟨sameInst, sameNode⟩
      refine ⟨socket, port, by rw [solo.port_eq, if_pos rfl], ?_⟩
      rw [BoardCANPort.nodeRef, canTC3xxModuleIndexFromBoardInst_inj sameInst,
        canTC3xxNodeIndexFromBoardNode_inj sameNode]
    · rintro ⟨i, port', here, wired⟩
      rw [solo.port_eq] at here
      split at here
      · cases here
        cases wired
        exact ⟨rfl, rfl⟩
      · cases here
  modules inst := by
    have users : (Finset.univ.filter fun i =>
        (s.sockets i).port.map BoardCANPort.mcuInst = some inst) =
        if inst = port.mcuInst then {socket} else ∅ := by
      ext i
      rw [Finset.mem_filter, solo.port_eq]
      by_cases same : i = socket <;> by_cases here : inst = port.mcuInst <;>
        simp [same, here, eq_comm]
    rw [solo.holds.tables.modules, users]
    by_cases here : inst = port.mcuInst
    · subst here
      simp
    · have other : canTC3xxModuleIndexFromBoardInst inst ≠
          canTC3xxModuleIndexFromBoardInst port.mcuInst := fun same =>
        here (canTC3xxModuleIndexFromBoardInst_inj same)
      simp [here, other]

theorem CANSockets.Solo.close (solo : s.Solo ifx socket port link) :
    ∃ p status, canSocketClose s socket = (s.reset socket (canPlatformDeinit p), status) ∧
      p.world.TablesClear ∧ (s.platform.world.board.setStandby = .ok → status = .ok) := by
  obtain ⟨core, link', w, stopStatus, b, stopped, linked, same, on, good⟩ :=
    solo.linked.stop solo.started solo.holds.channel
  obtain ⟨p, closed, clear⟩ :=
    (solo.holds.toOwned.holds on (solo.holds.tables.congr same)).closed linked
  simp only [canSocketClose, solo.bound, stopped, closed]
  refine ⟨p, _, rfl, clear, ?_⟩
  intro standby
  rw [good standby]
  rfl

theorem CANSockets.Solo.closesOk (solo : s.Solo ifx socket port link) : s.ClosesOk socket := by
  obtain ⟨p, status, closed, -, good⟩ := (solo.withBoard .good).close
  rw [CANSockets.ClosesOk, closed]
  exact good rfl

omit [DecidableEq Socket] in
theorem CANSockets.Solo.withHw (solo : s.Solo ifx socket port link) (hw : HW) :
    (s.withHw hw).Solo ifx socket port link :=
  { solo with
    holds := solo.holds.toOwned.holds solo.holds.channel
      ⟨solo.holds.tables.modules, solo.holds.tables.nodes⟩ }

theorem CANSockets.reset_bound (s : CANSockets Socket HW) (socket : Socket)
    (p : CANPlatform Socket HW) (i : Socket) :
    ((s.reset socket p).sockets i).bound = (!(i == socket) && (s.sockets i).bound) := by
  by_cases same : i = socket <;> simp [CANSockets.reset, CANSockets.put, same]

theorem CANSockets.Idle.reset (unbound : ∀ i ≠ socket, (s.sockets i).bound = false)
    {p : CANPlatform Socket HW} (clear : p.world.TablesClear) : (s.reset socket p).Idle where
  unbound i := by
    rw [s.reset_bound]
    by_cases same : i = socket
    · simp [same]
    · simp [unbound i same]
  tables := clear

theorem CANSockets.Solo.reset_other (solo : s.Solo ifx socket port link) {other : Socket}
    (ne : other ≠ socket) : (s.reset other s.platform).Solo ifx socket port link where
  bound := by simpa [s.reset_bound, ne.symm] using solo.bound
  unbound i other := by simp [s.reset_bound, solo.unbound i other]
  linked := by simpa [CANSockets.reset, CANSockets.put, ne.symm] using solo.linked
  started := solo.started
  holds := solo.holds

theorem CANSockets.Solo.opened {core : CANPlatformCore HW} {p : CANPlatform Socket HW}
    (unbound : ∀ i ≠ socket, (s.sockets i).bound = false)
    (linked : CANPlatformLinked ifx core port link) (started : link.started)
    (holds : p.Holds socket port true) : (s.put socket core true p).Solo ifx socket port link where
  bound := by simp [CANSockets.put]
  unbound i ne := by simpa [CANSockets.put, ne] using unbound i ne
  linked := by simpa [CANSockets.put] using linked
  started := started
  holds := holds

/-- A call of the open socket that keeps its link and only reaches the hardware. -/
theorem CANSockets.Solo.called (solo : s.Solo ifx socket port link) {core : CANPlatformCore HW}
    (same : core.link = (s.sockets socket).ownedCore.link) {w : CANTC3xxWorld HW} {hw : HW}
    (only : w = { s.platform.world with hw := hw }) :
    (s.put socket core true { s.platform with world := w }).Solo ifx socket port link := by
  subst only
  exact .opened solo.unbound ⟨same.trans solo.linked.bound, solo.linked.ops, solo.linked.channel,
    solo.linked.port⟩ solo.started (solo.withHw hw).holds

theorem CANSockets.Solo.send (solo : s.Solo ifx socket port link) (frame : Option CANFrame) :
    (canSocketSend s socket frame).1.Solo ifx socket port link := by
  have reached : ∃ hw, (canCoreSend (s.sockets socket).ownedCore s.platform.world frame).2.1 =
      { s.platform.world with hw := hw } := by
    cases frame with
    | none => exact ⟨s.platform.world.hw, rfl⟩
    | some frame =>
        rw [canCoreSend_started solo.linked.bound solo.started, solo.linked.ops,
          solo.linked.channel]
        rcases canTC3xxSend_openOn ifx solo.holds.channel frame with same | ⟨message, data, sent⟩
        · exact ⟨s.platform.world.hw, same⟩
        · exact ⟨_, sent⟩
  obtain ⟨hw, only⟩ := reached
  simp only [canSocketSend, solo.bound]
  exact solo.called (canCoreSend_link _ _ _) only

theorem CANSockets.Solo.receive (solo : s.Solo ifx socket port link) (frame : Option CANFrame) :
    (canSocketReceive s socket frame).1.Solo ifx socket port link := by
  have reached : ∃ hw, (canCoreReceive (s.sockets socket).ownedCore s.platform.world frame).2.1 =
      { s.platform.world with hw := hw } := by
    cases frame with
    | none => exact ⟨s.platform.world.hw, rfl⟩
    | some buffer =>
        rw [canCoreReceive_started solo.linked.bound solo.started, solo.linked.ops,
          solo.linked.channel]
        rcases canTC3xxReceive_openOn ifx solo.holds.channel buffer with
            same | ⟨message, data, received⟩
        · exact ⟨s.platform.world.hw, same⟩
        · exact ⟨_, received⟩
  obtain ⟨hw, only⟩ := reached
  simp only [canSocketReceive, solo.bound]
  exact solo.called (canCoreReceive_link _ _ _) only

/-- A socket without a slot cannot be closed. -/
theorem canSocketClose_not_found (s : CANSockets Socket HW) (socket : Socket)
    (lost : canPlatformFindSlotByCore s.platform socket = none) :
    (canSocketClose s socket).2 ≠ .ok := by
  have lost' : ∀ w : CANTC3xxWorld HW,
      canPlatformFindSlotByCore { s.platform with world := w } socket = none :=
    fun _ => lost
  simp only [canSocketClose, canPlatformClose, lost']
  split
  · simp
  dsimp only
  split
  · rename_i stopped
    intro ok
    rw [ok] at stopped
    simp at stopped
  · simp

theorem canSocketOpen_refused (ifx : IfxCan HW) (ports : List BoardCANPort)
    (s : CANSockets Socket HW) (socket : Socket) (params : CANSocketOpenParams HW)
    (refused : ¬(params.portName.isSome ∧ (s.sockets socket).bound = false ∧
      s.platform.world.board.init = .ok)) :
    (canSocketOpen ifx ports s socket params).1 = s ∨
      (s.sockets socket).bound = false ∧
        (canSocketOpen ifx ports s socket params).1 = s.reset socket s.platform := by
  cases named : params.portName with
  | none => exact .inl (by simp [canSocketOpen, named])
  | some portName =>
      cases bound : (s.sockets socket).bound with
      | true => exact .inl (by simp [canSocketOpen, named, bound])
      | false =>
          have bad : s.platform.world.board.init ≠ .ok := fun good =>
            refused ⟨by rw [named]; rfl, bound, good⟩
          exact .inr ⟨rfl, by simp [canSocketOpen, named, bound, canPlatformInit, bad]⟩

/-! ### One step -/

variable (ifx ports) in
theorem CANSockets.Idle.opened (idle : s.Idle) (socket : Socket) (params : CANSocketOpenParams HW) :
    (canSocketOpen ifx ports s socket params).1.Idle ∨
      ∃ port link, (canSocketOpen ifx ports s socket params).1.Solo ifx socket port link := by
  have unbound : ∀ i ≠ socket, (s.sockets i).bound = false := fun i _ => idle.unbound i
  by_cases passes : params.portName.isSome ∧ (s.sockets socket).bound = false ∧
      s.platform.world.board.init = .ok
  · obtain ⟨named, free, good⟩ := passes
    obtain ⟨portName, named⟩ := Option.isSome_iff_exists.mp named
    have opened := canSocketOpen_spec ifx ports named free good
    generalize canSocketOpen ifx ports s socket params = result at opened ⊢
    cases opened with
    | @failed p status _ clear =>
        exact .inl (.reset unbound ((clear idle.tables).congr (canPlatformDeinit_tables p)))
    | opened linked started _ holds =>
        exact .inr ⟨_, _, .opened unbound linked started (holds idle.tables)⟩
  · rcases canSocketOpen_refused ifx ports s socket params passes with same | ⟨_, reset⟩
    · rw [same]
      exact .inl idle
    · rw [reset]
      exact .inl (.reset unbound idle.tables)

variable (ifx ports) in
theorem CANSockets.Idle.after (idle : s.Idle) (call : CANSocketCall Socket HW) :
    (s.after ifx ports call).Idle ∨
      ∃ socket port link, (s.after ifx ports call).Solo ifx socket port link := by
  cases call with
  | socketOpen socket params board =>
      rcases (idle.withBoard board).opened ifx ports socket params with still | ⟨port, link, solo⟩
      · exact .inl still
      · exact .inr ⟨socket, port, link, solo⟩
  | socketClose socket board =>
      have refused : canSocketClose (s.withBoard board) socket = (s.withBoard board, .einval) := by
        simp [canSocketClose, (idle.withBoard board).unbound socket]
      simp only [CANSockets.after, refused]
      exact .inl (idle.withBoard board)
  | socketSend socket frame =>
      have refused : canSocketSend s socket frame = (s, .einval) := by
        simp [canSocketSend, idle.unbound socket]
      simp only [CANSockets.after, refused]
      exact .inl idle
  | socketReceive socket frame =>
      have refused : canSocketReceive s socket frame = (s, .einval, frame) := by
        simp [canSocketReceive, idle.unbound socket]
      simp only [CANSockets.after, refused]
      exact .inl idle
  | hardware hw => exact .inl ⟨idle.unbound, idle.tables.modules, idle.tables.nodes⟩

variable (ifx ports) in
/-- Without an open beside it, the one open socket stays as it is or is closed itself. -/
theorem CANSockets.Solo.after (solo : s.Solo ifx socket port link)
    (call : CANSocketCall Socket HW) (alone : ¬call.OpensBeside s) :
    (s.after ifx ports call).Solo ifx socket port link ∨
      (s.after ifx ports call).Idle ∧ call.target = some socket := by
  cases call with
  | socketOpen other params board =>
      have opened := solo.withBoard board
      have refused := canSocketOpen_refused ifx ports (s.withBoard board) other params
        fun ⟨named, free, good⟩ => alone ⟨named, free, good, socket, solo.bound⟩
      rcases refused with same | ⟨free, reset⟩
      · simp only [CANSockets.after, same]
        exact .inl opened
      · have ne : other ≠ socket := by
          rintro rfl
          exact absurd (opened.bound.symm.trans free) (by decide)
        simp only [CANSockets.after, reset]
        exact .inl (opened.reset_other ne)
  | socketClose other board =>
      have opened := solo.withBoard board
      by_cases same : other = socket
      · subst same
        obtain ⟨p, status, closed, clear, _⟩ := opened.close
        simp only [CANSockets.after, closed]
        exact .inr ⟨.reset opened.unbound (clear.congr (canPlatformDeinit_tables p)), rfl⟩
      · have refused : canSocketClose (s.withBoard board) other = (s.withBoard board, .einval) := by
          simp [canSocketClose, opened.unbound other same]
        simp only [CANSockets.after, refused]
        exact .inl opened
  | socketSend other frame =>
      by_cases same : other = socket
      · subst same
        exact .inl (solo.send frame)
      · have refused : canSocketSend s other frame = (s, .einval) := by
          simp [canSocketSend, solo.unbound other same]
        simp only [CANSockets.after, refused]
        exact .inl solo
  | socketReceive other frame =>
      by_cases same : other = socket
      · subst same
        exact .inl (solo.receive frame)
      · have refused : canSocketReceive s other frame = (s, .einval, frame) := by
          simp [canSocketReceive, solo.unbound other same]
        simp only [CANSockets.after, refused]
        exact .inl solo
  | hardware hw => exact .inl (solo.withHw hw)

variable (ports) in
/-- An open beside it takes its slot from an open socket. -/
theorem CANSockets.Solo.beside (solo : s.Solo ifx socket port link)
    {call : CANSocketCall Socket HW} (beside : call.OpensBeside s) :
    call.target ≠ some socket ∧ ¬(s.after ifx ports call).ClosesOk socket := by
  cases call with
  | socketOpen other params board =>
      obtain ⟨named, free, good, _⟩ := beside
      obtain ⟨portName, named⟩ := Option.isSome_iff_exists.mp named
      have ne : socket ≠ other := by
        rintro rfl
        exact absurd (solo.bound.symm.trans free) (by decide)
      refine ⟨by simpa [CANSocketCall.target] using ne.symm, ?_⟩
      have freed : ((s.withBoard board).sockets other).bound = false := free
      have opened := canSocketOpen_spec ifx ports named freed good
      simp only [CANSockets.after]
      generalize canSocketOpen ifx ports (s.withBoard board) other params = result at opened ⊢
      cases opened with
      | @failed p status _ _ =>
          exact canSocketClose_not_found _ _ (canPlatformDeinit_not_found p socket)
      | opened _ _ owned _ => exact canSocketClose_not_found _ _ (owned.not_found ne)
  | _ => exact absurd beside id

theorem CANSocketCall.harmless_iff [Fintype Socket]
    (inv : s.Idle ∨ ∃ socket port link, s.Solo ifx socket port link)
    (call : CANSocketCall Socket HW) : call.Harmless ifx ports s ↔ ¬call.OpensBeside s := by
  constructor
  · rintro ⟨others, -⟩ beside
    rcases inv with idle | ⟨socket, port, link, solo⟩
    · cases call with
      | socketOpen socket params board =>
          obtain ⟨-, -, -, i, bound⟩ := beside
          exact absurd (bound.symm.trans (idle.unbound i)) (by decide)
      | _ => exact beside
    · obtain ⟨other, lost⟩ := solo.beside ports beside
      exact lost (others socket other solo.bound).2.2
  · intro alone
    rcases inv with idle | ⟨socket, port, link, solo⟩
    · refine ⟨fun i _ bound => absurd (bound.symm.trans (idle.unbound i)) (by decide), ?_⟩
      rcases idle.after ifx ports call with idle' | ⟨socket, port, link, solo'⟩
      · exact idle'.exact
      · exact solo'.exact
    · have only : ∀ i, (s.sockets i).bound → i = socket := fun i bound => by
        by_contra ne
        exact absurd (bound.symm.trans (solo.unbound i ne)) (by decide)
      rcases solo.after ifx ports call alone with solo' | ⟨idle', own⟩
      · refine ⟨fun i _ bound => ?_, solo'.exact⟩
        obtain rfl := only i bound
        exact ⟨by rw [solo'.port_eq, solo.port_eq], solo'.reaches, solo'.closesOk⟩
      · refine ⟨fun i other bound => absurd own ?_, idle'.exact⟩
        rwa [← only i bound]

/-- A sequence of calls damages no socket and keeps the tables exact if and only if no
socket is opened while another one is open. -/
theorem sockets_harmless_iff [Fintype Socket] (ifx : IfxCan HW) (ports : List BoardCANPort)
    (hw : HW) (board : BoardAnswers) (calls : List (CANSocketCall Socket HW)) :
    (∀ p ∈ Runs.steps (CANSockets.after ifx ports) (canSocketsInit hw board) calls,
      p.2.Harmless ifx ports p.1) ↔
    ∀ p ∈ Runs.steps (CANSockets.after ifx ports) (canSocketsInit hw board) calls,
      ¬p.2.OpensBeside p.1 := by
  refine Runs.forall_steps_iff_while
    (fun s : CANSockets Socket HW => s.Idle ∨ ∃ socket port link, s.Solo ifx socket port link)
    ?_ (fun s call inv => CANSocketCall.harmless_iff inv call) ?_ calls
  · rintro s call (idle | ⟨socket, port, link, solo⟩) alone
    · exact idle.after ifx ports call
    · rcases solo.after ifx ports call alone with solo | ⟨idle, _⟩
      · exact .inr ⟨socket, port, link, solo⟩
      · exact .inl idle
  · exact .inl ⟨fun _ => rfl, fun _ => rfl, fun _ _ => rfl⟩

end AtMostOne

/-! ### Two sockets -/

/-- A bus without traffic, which takes every frame. -/
def silentBus : IfxCan Unit where
  hasModuleCan1 := false
  initModule hw _ := hw
  initNode hw _ _ := hw
  setFilter hw _ _ := hw
  sendMessage hw _ _ _ := (hw, .ok)
  rxFifo0FillLevel _ _ := 0
  isNewDataReceived _ _ _ := false
  readMessage hw _ message data := (hw, message, data)

/-- `CANSocketInitOpenParamsClassic500k` and a port name. -/
def classic500k (portName : String) : CANSocketOpenParams HW where
  portName := some portName
  channelConfig := ⟨⟨500000, 0, .classic⟩, false, .default, ⟨false, .standard, 0, 0⟩⟩
  runtime := ⟨none, none⟩

/-- A socket open on the board's port cannot be closed once another socket has asked
for a port the board does not have. -/
theorem failed_open_harms :
    ¬∀ calls : List (CANSocketCall Bool Unit),
      ∀ p ∈ Runs.steps (CANSockets.after silentBus canPorts) (canSocketsInit () .good) calls,
        p.2.Harmless silentBus canPorts p.1 := by
  intro harmless
  have last := harmless
    [.socketOpen false (classic500k "can0") .good, .socketOpen true (classic500k "can1") .good]
    _ (.tail _ (.head _))
  have closes := (last.1 false (by decide) (by decide +kernel)).2.2
  exact absurd closes (by unfold CANSockets.ClosesOk; decide +kernel)

end SmartBusAccess.Can
