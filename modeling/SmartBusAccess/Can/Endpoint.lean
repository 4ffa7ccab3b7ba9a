import SmartBusAccess.Can.Socket
import SmartBusAccess.Can.DriverEcuCan

/-!
Opening and closing the two ends of the protocol between driver ECU and door ECU.

An endpoint keeps a flag of its own next to its socket. A close resets the socket
whatever the layers below answer, but clears the flag only if they answer well
(`endpoints_reopen_iff`).
-/

namespace SmartBusAccess.Can

variable {Core Env : Type}

/-! ### A socket on any layers -/

/-- What a socket calls: the platform and its core. `Env` is all that they share with
others. A core that has started is open. -/
structure CANSocketLayers (Core Env : Type) where
  initCore : Core
  isOpen : Core → Bool
  platformInit : Env → Env × CANStatus
  platformOpen : Env → Core → String → CANChannelConfig → Core × Env × CANStatus
  coreStart : Core → Env → Core × Env × CANStatus
  coreStop : Core → Env → Core × Env × CANStatus
  platformClose : Env → Core → Core × Env × CANStatus
  platformDeinit : Env → Env
  starts : ∀ core env, (coreStart core env).2.2 = .ok → isOpen (coreStart core env).1

/-- A socket, with the environment it is in. -/
structure CANSocketIn (Core Env : Type) where
  ownedCore : Core
  bound : Bool
  env : Env

namespace CANSocketLayers

variable (layers : CANSocketLayers Core Env)

def reset (env : Env) : CANSocketIn Core Env := ⟨layers.initCore, false, env⟩

/-- `CANSocketOpen` with a port name. -/
def socketOpen (s : CANSocketIn Core Env) (portName : String) (config : CANChannelConfig) :
    CANSocketIn Core Env × CANStatus :=
  if s.bound then (s, .ebusy)
  else
    let (env, status) := layers.platformInit s.env
    if status != .ok then (layers.reset env, status)
    else
      let (core, env, status) := layers.platformOpen env layers.initCore portName config
      if status != .ok then (layers.reset (layers.platformDeinit env), status)
      else
        let (core, env, status) := layers.coreStart core env
        if status != .ok then
          let (_, env, _) := layers.platformClose env core
          (layers.reset (layers.platformDeinit env), status)
        else (⟨core, true, env⟩, .ok)

/-- `CANSocketClose`. -/
def socketClose (s : CANSocketIn Core Env) : CANSocketIn Core Env × CANStatus :=
  if !s.bound then (s, .einval)
  else
    let (core, env, stopStatus) := layers.coreStop s.ownedCore s.env
    let (_, env, closeStatus) := layers.platformClose env core
    (layers.reset (layers.platformDeinit env),
      if stopStatus != .ok && stopStatus != .ebusy then stopStatus else closeStatus)

/-- `CANSocketIsOpen`. -/
def socketIsOpen (s : CANSocketIn Core Env) : Bool := s.bound && layers.isOpen s.ownedCore

/-- The core stops, or was not started, and the platform lets it go. -/
def Releases (s : CANSocketIn Core Env) : Prop :=
  let (core, env, stopStatus) := layers.coreStop s.ownedCore s.env
  (stopStatus = .ok ∨ stopStatus = .ebusy) ∧ (layers.platformClose env core).2.2 = .ok

variable {s : CANSocketIn Core Env}

/-- An open binds the socket, to an open core, exactly if it succeeds. -/
theorem socketOpen_spec (unbound : s.bound = false) (portName : String)
    (config : CANChannelConfig) :
    let out := layers.socketOpen s portName config
    (out.1.bound = (out.2 == .ok)) ∧ (out.1.bound → layers.isOpen out.1.ownedCore) := by
  simp only [socketOpen, unbound]
  rw [if_neg (by decide)]
  split
  · rename_i failed
    simpa [reset] using failed
  split
  · rename_i failed
    simpa [reset] using failed
  split
  · rename_i failed
    simpa [reset] using failed
  · rename_i started
    exact ⟨rfl, fun _ => layers.starts _ _ (by simpa using started)⟩

theorem socketClose_bound (s : CANSocketIn Core Env) : (layers.socketClose s).1.bound = false := by
  cases bound : s.bound <;> simp [socketClose, bound, reset]

variable {layers} in
theorem socketClose_ok (bound : s.bound) : (layers.socketClose s).2 = .ok ↔ layers.Releases s := by
  simp only [socketClose, bound, Releases]
  rw [if_neg (by decide)]
  dsimp only
  generalize (layers.coreStop s.ownedCore s.env).2.2 = stopStatus
  split
  · rename_i stuck
    simp only [Bool.and_eq_true, bne_iff_ne, ne_eq] at stuck
    simp [stuck.1, stuck.2]
  · rename_i released
    have stopped : stopStatus = .ok ∨ stopStatus = .ebusy := by
      by_contra other
      simp [not_or.mp other] at released
    simp [stopped]

variable {layers} in
theorem socketClose_unbound (unbound : s.bound = false) :
    layers.socketClose s = (s, .einval) := by
  simp [socketClose, unbound]

end CANSocketLayers

/-! ### The two ends -/

/-- One end of the protocol: the record it keeps, and what its calls make of a status of
the socket. -/
structure EndpointKind (Ecu Config : Type) where
  init : Ecu
  isOpen : Ecu → Bool
  portName : Config → Option String
  channelConfig : Config → CANChannelConfig
  opened : Ecu → CANStatus → Ecu × CANStatus
  closed : Ecu → CANStatus → Ecu × CANStatus
  init_isOpen : isOpen init = false
  opened_isOpen : ∀ ecu status, isOpen ecu = false → isOpen (opened ecu status).1 = (status == .ok)
  closed_isOpen : ∀ ecu status,
    isOpen (closed ecu status).1 = if status = .ok then false else isOpen ecu

/-- `DoorEcuCanBuildOpenParams` and its twin, up to the identifier they listen for. -/
def endpointChannelConfig (nominalBitrate id : UInt32) : CANChannelConfig :=
  ⟨⟨nominalBitrate, 0, .classic⟩, false, .buffer, ⟨true, .standard, id, 0x7FF⟩⟩

def doorEcuCanBuildOpenParams (config : DoorECUCANConfig) : CANChannelConfig :=
  endpointChannelConfig config.nominalBitrate doorCanIdCommand

def driverEcuCanBuildOpenParams (config : DriverECUCANConfig) : CANChannelConfig :=
  endpointChannelConfig config.nominalBitrate doorCanIdStatus

def doorEnd : EndpointKind DoorECUCAN DoorECUCANConfig where
  init := doorECUCANInit
  isOpen := DoorECUCAN.isOpen
  portName := DoorECUCANConfig.portName
  channelConfig := doorEcuCanBuildOpenParams
  opened := doorECUCANOpen
  closed := doorECUCANClose
  init_isOpen := rfl
  opened_isOpen := by
    intro ecu status closed
    cases status <;> simp [doorECUCANOpen, closed]
  closed_isOpen := by
    intro ecu status
    cases status <;> simp [doorECUCANClose]

def driverEnd : EndpointKind DriverECUCAN DriverECUCANConfig where
  init := driverECUCANInit
  isOpen := DriverECUCAN.isOpen
  portName := DriverECUCANConfig.portName
  channelConfig := driverEcuCanBuildOpenParams
  opened := driverECUCANOpen
  closed := driverECUCANClose
  init_isOpen := rfl
  opened_isOpen := by
    intro ecu status closed
    cases status <;> simp [driverECUCANOpen, closed]
  closed_isOpen := by
    intro ecu status
    cases status <;> simp [driverECUCANClose]

/-! ### An endpoint -/

structure Endpoint (Ecu Core Env : Type) where
  ecu : Ecu
  socket : CANSocketIn Core Env

/-- A call on an endpoint. Between the calls its environment goes on. -/
inductive EndpointCall (Config Env : Type) where
  | openWith (config : Config)
  | close
  | elapse (env : Env)

section Calls

variable {Ecu Config : Type} (kind : EndpointKind Ecu Config) (layers : CANSocketLayers Core Env)

/-- With whether `CANSocketOpen` is reached. -/
def endpointOpen (e : Endpoint Ecu Core Env) (config : Config) :
    Endpoint Ecu Core Env × CANStatus × Bool :=
  match kind.portName config with
  | none => (e, .einval, false)
  | some portName =>
      if kind.isOpen e.ecu then (e, .ebusy, false)
      else
        let (socket, status) := layers.socketOpen e.socket portName (kind.channelConfig config)
        let (ecu, status) := kind.opened e.ecu status
        (⟨ecu, socket⟩, status, true)

def endpointClose (e : Endpoint Ecu Core Env) : Endpoint Ecu Core Env × CANStatus :=
  let (socket, status) := layers.socketClose e.socket
  let (ecu, status) := kind.closed e.ecu status
  (⟨ecu, socket⟩, status)

def endpointNext (e : Endpoint Ecu Core Env) :
    EndpointCall Config Env → Endpoint Ecu Core Env
  | .openWith config => (endpointOpen kind layers e config).1
  | .close => (endpointClose kind layers e).1
  | .elapse env => { e with socket := { e.socket with env := env } }

def endpointInit (env : Env) : Endpoint Ecu Core Env := ⟨kind.init, layers.reset env⟩

/-- The flag says whether the socket is open. -/
def Endpoint.Agrees (e : Endpoint Ecu Core Env) : Prop :=
  kind.isOpen e.ecu = layers.socketIsOpen e.socket

/-- Once a close has released the socket, an open with a port name reaches it again. -/
def Reopens (e : Endpoint Ecu Core Env) : EndpointCall Config Env → Prop
  | .close =>
      (endpointClose kind layers e).1.socket.bound = false →
        ∀ config, (kind.portName config).isSome →
          (endpointOpen kind layers (endpointClose kind layers e).1 config).2.2
  | _ => True

/-- What is expected of each call. -/
def EndpointSound (e : Endpoint Ecu Core Env) (call : EndpointCall Config Env) : Prop :=
  (endpointNext kind layers e call).Agrees kind layers ∧ Reopens kind layers e call

/-- The close of a bound socket that the layers below do not carry out cleanly. -/
def ClosesBadly (e : Endpoint Ecu Core Env) : EndpointCall Config Env → Prop
  | .close => e.socket.bound ∧ ¬layers.Releases e.socket
  | _ => False

end Calls

section Invariant

variable {Ecu Config : Type} {kind : EndpointKind Ecu Config} {layers : CANSocketLayers Core Env}
  {e : Endpoint Ecu Core Env}

/-- The flag says whether the socket is bound, and a bound socket has an open core. -/
structure Endpoint.InStep (kind : EndpointKind Ecu Config) (layers : CANSocketLayers Core Env)
    (e : Endpoint Ecu Core Env) : Prop where
  flag : kind.isOpen e.ecu = e.socket.bound
  core : e.socket.bound → layers.isOpen e.socket.ownedCore

theorem Endpoint.InStep.agrees (inStep : e.InStep kind layers) : e.Agrees kind layers := by
  rw [Endpoint.Agrees, inStep.flag, CANSocketLayers.socketIsOpen]
  cases bound : e.socket.bound with
  | false => rfl
  | true => simp [inStep.core bound]

theorem endpointOpen_inStep (inStep : e.InStep kind layers) (config : Config) :
    (endpointOpen kind layers e config).1.InStep kind layers := by
  simp only [endpointOpen]
  split
  · exact inStep
  rename_i portName _
  split
  · exact inStep
  rename_i closed
  rw [Bool.not_eq_true] at closed
  obtain ⟨bound, core⟩ := layers.socketOpen_spec (inStep.flag.symm.trans closed) portName
    (kind.channelConfig config)
  exact ⟨(kind.opened_isOpen _ _ closed).trans bound.symm, core⟩

/-- What the flag says after a close. -/
theorem endpointClose_isOpen (inStep : e.InStep kind layers) :
    kind.isOpen (endpointClose kind layers e).1.ecu = true ↔
      e.socket.bound ∧ ¬layers.Releases e.socket := by
  simp only [endpointClose, kind.closed_isOpen, inStep.flag]
  cases bound : e.socket.bound with
  | false => simp
  | true =>
      rw [← CANSocketLayers.socketClose_ok bound]
      simp

theorem endpointClose_inStep (inStep : e.InStep kind layers)
    (clean : ¬(e.socket.bound ∧ ¬layers.Releases e.socket)) :
    (endpointClose kind layers e).1.InStep kind layers := by
  have unbound := layers.socketClose_bound e.socket
  have cleared := (not_congr (endpointClose_isOpen inStep)).mpr clean
  rw [Bool.not_eq_true] at cleared
  refine ⟨cleared.trans unbound.symm, ?_⟩
  intro bound
  rw [endpointClose, unbound] at bound
  cases bound

theorem endpointNext_inStep (inStep : e.InStep kind layers) (call : EndpointCall Config Env)
    (clean : ¬ClosesBadly layers e call) : (endpointNext kind layers e call).InStep kind layers := by
  cases call with
  | openWith config => exact endpointOpen_inStep inStep config
  | close => exact endpointClose_inStep inStep clean
  | elapse env => exact ⟨inStep.flag, inStep.core⟩

/-- An endpoint that is not open lets an open through to its socket. -/
theorem endpointOpen_reaches (closed : kind.isOpen e.ecu = false) {config : Config}
    (named : (kind.portName config).isSome) : (endpointOpen kind layers e config).2.2 := by
  obtain ⟨portName, named⟩ := Option.isSome_iff_exists.mp named
  simp [endpointOpen, named, closed]

theorem endpointSound_iff (inStep : e.InStep kind layers) (call : EndpointCall Config Env) :
    EndpointSound kind layers e call ↔ ¬ClosesBadly layers e call := by
  constructor
  · rintro ⟨agrees, -⟩ bad
    cases call with
    | close =>
        have stale := (endpointClose_isOpen inStep).mpr bad
        simp only [endpointNext, Endpoint.Agrees, stale, CANSocketLayers.socketIsOpen] at agrees
        rw [endpointClose, layers.socketClose_bound] at agrees
        cases agrees
    | _ => exact bad
  · intro clean
    refine ⟨(endpointNext_inStep inStep call clean).agrees, ?_⟩
    cases call with
    | close =>
        intro released config named
        have closed := (endpointClose_inStep inStep clean).flag.trans released
        exact endpointOpen_reaches closed named
    | _ => trivial

/-- The flag of a socket that was reset is never cleared again. -/
theorem stuck_forever (isOpen : kind.isOpen e.ecu) (released : e.socket.bound = false)
    (calls : List (EndpointCall Config Env)) :
    let e' := Runs.run (endpointNext kind layers) e calls
    kind.isOpen e'.ecu = true ∧ e'.socket.bound = false := by
  refine Runs.run_invariant
    (fun e : Endpoint Ecu Core Env => kind.isOpen e.ecu = true ∧ e.socket.bound = false) ?_
    ⟨isOpen, released⟩ calls
  rintro e call ⟨isOpen, released⟩
  cases call with
  | openWith config =>
      simp only [endpointNext, endpointOpen, isOpen]
      split <;> exact ⟨isOpen, released⟩
  | close =>
      simp only [endpointNext, endpointClose, CANSocketLayers.socketClose_unbound released]
      refine ⟨?_, released⟩
      rw [kind.closed_isOpen, if_neg (by decide), isOpen]
  | elapse env => exact ⟨isOpen, released⟩

end Invariant

/-! ### Runs -/

theorem endpoint_reopens_iff {Ecu Config : Type} (kind : EndpointKind Ecu Config)
    (layers : CANSocketLayers Core Env) (env : Env) (calls : List (EndpointCall Config Env)) :
    (∀ p ∈ Runs.steps (endpointNext kind layers) (endpointInit kind layers env) calls,
      EndpointSound kind layers p.1 p.2) ↔
    ∀ p ∈ Runs.steps (endpointNext kind layers) (endpointInit kind layers env) calls,
      ¬ClosesBadly layers p.1 p.2 := by
  have initial : (endpointInit kind layers env).InStep kind layers := by
    refine ⟨kind.init_isOpen, ?_⟩
    intro bound
    cases bound
  exact Runs.forall_steps_iff_while (Endpoint.InStep kind layers)
    (fun _ call inStep clean => endpointNext_inStep inStep call clean)
    (fun _ call inStep => endpointSound_iff inStep call) initial calls

/-- Both ends follow their sockets, and can be opened again, exactly if no close of a
bound socket is answered badly from below. -/
theorem endpoints_reopen_iff (layers : CANSocketLayers Core Env) (env : Env)
    (doorCalls : List (EndpointCall DoorECUCANConfig Env))
    (driverCalls : List (EndpointCall DriverECUCANConfig Env)) :
    ((∀ p ∈ Runs.steps (endpointNext doorEnd layers) (endpointInit doorEnd layers env) doorCalls,
        EndpointSound doorEnd layers p.1 p.2) ↔
      ∀ p ∈ Runs.steps (endpointNext doorEnd layers) (endpointInit doorEnd layers env) doorCalls,
        ¬ClosesBadly layers p.1 p.2) ∧
    ((∀ p ∈ Runs.steps (endpointNext driverEnd layers) (endpointInit driverEnd layers env)
          driverCalls, EndpointSound driverEnd layers p.1 p.2) ↔
      ∀ p ∈ Runs.steps (endpointNext driverEnd layers) (endpointInit driverEnd layers env)
          driverCalls, ¬ClosesBadly layers p.1 p.2) :=
  ⟨endpoint_reopens_iff doorEnd layers env doorCalls,
    endpoint_reopens_iff driverEnd layers env driverCalls⟩

/-! ### On the platform -/

section OnPlatform

variable {Socket HW : Type} [DecidableEq Socket]

/-- The layers under one of the sockets of the platform. -/
def platformLayers (ifx : IfxCan HW) (ports : List BoardCANPort) (socket : Socket) :
    CANSocketLayers (CANPlatformCore HW) (CANPlatform Socket HW) where
  initCore := canCoreInit
  isOpen core := core.state != .closed
  platformInit := canPlatformInit
  platformOpen p core portName config :=
    canPlatformOpen ifx ports p socket core portName ⟨config, ⟨none, none⟩⟩
  coreStart core p :=
    let (core, world, status) := canCoreStart core p.world
    (core, { p with world := world }, status)
  coreStop core p :=
    let (core, world, status) := canCoreStop core p.world
    (core, { p with world := world }, status)
  platformClose p core := canPlatformClose p socket core
  platformDeinit := canPlatformDeinit
  starts core p ok := by
    cases bound : core.link with
    | none => simp [canCoreStart, bound, CANCore.answer] at ok
    | some link =>
        cases started : link.started with
        | true => simp [canCoreStart, bound, started, CANCore.state]
        | false =>
            rw [canCoreStart_bound bound started] at ok ⊢
            dsimp only at ok ⊢
            split
            · rename_i failed
              rw [if_pos failed] at ok
              simp only [bne_iff_ne] at failed
              exact absurd ok failed
            · simp [CANCore.state]

/-- One socket and the platform. -/
def CANSockets.view (s : CANSockets Socket HW) (socket : Socket) :
    CANSocketIn (CANPlatformCore HW) (CANPlatform Socket HW) :=
  ⟨(s.sockets socket).ownedCore, (s.sockets socket).bound, s.platform⟩

theorem CANSockets.view_put (s : CANSockets Socket HW) (socket : Socket)
    (core : CANPlatformCore HW) (bound : Bool) (p : CANPlatform Socket HW) :
    (s.put socket core bound p).view socket = ⟨core, bound, p⟩ := by
  simp [CANSockets.view, CANSockets.put]

/-- What a call leaves and returns, for one socket. -/
def CANSockets.answered (socket : Socket) (out : CANSockets Socket HW × CANStatus) :
    CANSocketIn (CANPlatformCore HW) (CANPlatform Socket HW) × CANStatus :=
  (out.1.view socket, out.2)

/-- The sockets of the platform are sockets on its layers. -/
theorem canSocketOpen_view (ifx : IfxCan HW) (ports : List BoardCANPort)
    (s : CANSockets Socket HW) (socket : Socket) (portName : String) (config : CANChannelConfig) :
    CANSockets.answered socket
        (canSocketOpen ifx ports s socket ⟨some portName, config, ⟨none, none⟩⟩) =
      (platformLayers ifx ports socket).socketOpen (s.view socket) portName config := by
  simp only [canSocketOpen, apply_ite (CANSockets.answered socket)]
  simp only [CANSockets.answered, CANSockets.reset, CANSockets.view_put]
  rfl

theorem canSocketClose_view (ifx : IfxCan HW) (ports : List BoardCANPort)
    (s : CANSockets Socket HW) (socket : Socket) :
    CANSockets.answered socket (canSocketClose s socket) =
      (platformLayers ifx ports socket).socketClose (s.view socket) := by
  simp only [canSocketClose, apply_ite (CANSockets.answered socket)]
  simp only [CANSockets.answered, CANSockets.reset, CANSockets.view_put]
  rfl

end OnPlatform

/-! ### A transceiver that will not stand by -/

/-- A platform on the board, not initialized yet. -/
def boardPlatform : CANPlatform Unit Unit := (canSocketsInit () .good : CANSockets Unit Unit).platform

def doorLayers : CANSocketLayers (CANPlatformCore Unit) (CANPlatform Unit Unit) :=
  platformLayers silentBus canPorts ()

/-- The platform under an open door endpoint, once the transceiver no longer answers. -/
def standbyFails : CANPlatform Unit Unit :=
  let e := (endpointOpen doorEnd doorLayers (endpointInit doorEnd doorLayers boardPlatform)
    doorECUCANInitConfig).1
  let p := e.socket.env
  { p with world := { p.world with board := { p.world.board with setStandby := .ehw } } }

/-- The close of the door endpoint then resets its socket and leaves its flag set. -/
theorem door_endpoint_sticks :
    ¬∀ p ∈ Runs.steps (endpointNext doorEnd doorLayers)
        (endpointInit doorEnd doorLayers boardPlatform)
        [.openWith doorECUCANInitConfig, .elapse standbyFails, .close],
      EndpointSound doorEnd doorLayers p.1 p.2 := by
  intro sound
  have stale : true = false := (sound _ (.tail _ (.tail _ (.head _)))).1
  cases stale

end SmartBusAccess.Can
