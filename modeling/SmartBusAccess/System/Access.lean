import SmartBusAccess.Door.RampLink
import SmartBusAccess.System.Openings
import SmartBusAccess.Uart.BleSystem

/-!
From a phone to the ramp.

The Bluetooth module, the driver ECU, the door ECU and the receiver of the slope module, in any
order and with any inputs but what they receive from one another. The two ECUs are a `BusSystem`;
the UART of the one and the module are a `BleSystem`, the UART of the other and the slope module a
`SlopeLink`. The lines may lose frames. `record` is the history of what all have done.

* `Joined`: each UART is what the ECU's own steps make of it, and each part has come from a run of
  its own; every action keeps it;
* `ramp_moves_chain`: what is behind an OPEN that the slope module executes.
-/

namespace SmartBusAccess.System

open SmartBusAccess.Can SmartBusAccess.Uart SmartBusAccess.Door SmartBusAccess.Driver Causation

/-! ### The system -/

inductive AccessEvent where
  | turned (input : BleModule.LoopInput)
  | bus (event : BusEvent)
  | executed (cmd : UInt8)
deriving DecidableEq, Repr

namespace AccessEvent

def turned? : AccessEvent → Option BleModule.LoopInput
  | .turned input => some input
  | _ => none

def bus? : AccessEvent → Option BusEvent
  | .bus event => some event
  | _ => none

def executed? : AccessEvent → Option UInt8
  | .executed cmd => some cmd
  | _ => none

end AccessEvent

structure AccessSystem where
  bus : BusSystem
  ble : BleSystem
  ramp : SlopeLink
  record : List AccessEvent

inductive AccessLine where
  | commands
  | statuses
  | bleData
  | bleAcks
  | rampData
  | rampAcks

/-- `frames` and `acks` count the whole frames that an ECU reads from a UART. -/
inductive AccessAction where
  | turn (acks : ℕ) (retryMs : UInt32) (scan : List (BLEAdvertisedDevice × UInt32))
      (nowMs startMs : UInt32)
  | iterate (input : LoopInput) (arrives : Bool) (frames : ℕ)
  | poll (input : PollInput) (arrives : Bool) (acks : ℕ)
  | receive
  | lose (line : AccessLine) (i : ℕ)

namespace AccessSystem

/-- The iteration's input with what its BLE port receives. -/
def iterateInput (s : AccessSystem) (input : LoopInput) (frames : ℕ) : LoopInput :=
  { input with bleRx := rxBytes (s.ble.data.take frames) }

/-- The poll's input with what its slope UART receives. -/
def pollInput (s : AccessSystem) (input : PollInput) (acks : ℕ) : PollInput :=
  { input with slopeRx := rxBytes (s.ramp.acks.take acks) }

def turn (s : AccessSystem) (acks : ℕ) (retryMs : UInt32)
    (scan : List (BLEAdvertisedDevice × UInt32)) (nowMs startMs : UInt32) : AccessSystem :=
  { s with
    ble := s.ble.step (.turn acks retryMs scan nowMs startMs)
    record := s.record ++ [.turned ⟨rxBytes (s.ble.acks.take acks), retryMs, scan, nowMs, startMs⟩] }

def iterate (s : AccessSystem) (input : LoopInput) (arrives : Bool) (frames : ℕ) : AccessSystem :=
  let input := s.iterateInput input frames
  { s with
    bus := s.bus.iterate input arrives
    ble := s.ble.step (.poll frames)
    record := s.record ++
      (iterationRecord s.bus.driver (s.bus.iterateInput input arrives)).map .bus }

def poll (s : AccessSystem) (input : PollInput) (arrives : Bool) (acks : ℕ) : AccessSystem :=
  let input := s.pollInput input acks
  { s with
    bus := s.bus.poll input arrives
    ramp := s.ramp.run (rampActions s.bus.door (s.bus.pollInput input arrives) acks)
    record := s.record ++ (pollRecord s.bus.door (s.bus.pollInput input arrives)).map .bus }

/-- The slope module takes a frame, and executes what is delivered. -/
def receive (s : AccessSystem) : AccessSystem :=
  { s with
    ramp := s.ramp.step .receive
    record := s.record ++
      (s.ramp.receive.delivered.drop s.ramp.delivered.length).map fun p => .executed p.2 }

def lose (s : AccessSystem) (i : ℕ) : AccessLine → AccessSystem
  | .commands => { s with bus := s.bus.step (.loseCommand i) }
  | .statuses => { s with bus := s.bus.step (.loseStatus i) }
  | .bleData => { s with ble := s.ble.step (.loseData i) }
  | .bleAcks => { s with ble := s.ble.step (.loseAck i) }
  | .rampData => { s with ramp := s.ramp.step (.loseData i) }
  | .rampAcks => { s with ramp := s.ramp.step (.loseAck i) }

def step (s : AccessSystem) : AccessAction → AccessSystem
  | .turn acks retryMs scan nowMs startMs => s.turn acks retryMs scan nowMs startMs
  | .iterate input arrives frames => s.iterate input arrives frames
  | .poll input arrives acks => s.poll input arrives acks
  | .receive => s.receive
  | .lose line i => s.lose i line

/-- All initialised. -/
def boot (init : InitInput) : AccessSystem :=
  ⟨.boot init, .fresh, .fresh init.stmTicksPerMs, []⟩

def run (init : InitInput) (actions : List AccessAction) : AccessSystem :=
  Runs.run step (boot init) actions

end AccessSystem

/-! ### Links -/

/-- A command of the driver ECU's BLE port that asks for the ramp. -/
def BusEvent.Called (e : BusEvent) : Prop :=
  ∃ cmd, e = .called cmd ∧ bleUartCmdGetSlope cmd = bleUartReqOpen

/-- The module has sighted a phone that asks for the ramp. -/
def PhoneSighted (record : List AccessEvent) : Prop :=
  ∃ front i, front ++ [i] <+: record.filterMap AccessEvent.turned? ∧ BleModule.Sighted front i

/-- Somebody on the bus wants the ramp: the driver, or a passenger for whom the driver opens
the door. -/
def RampCalled (record : List AccessEvent) : Prop :=
  .bus (.loop (.raised .slopeOpen)) ∈ record ∨
    (.bus .rung ∈ record ∨ PhoneSighted record) ∧ .bus (.loop (.raised .doorOpen)) ∈ record

/-- The door ECU has been told to deploy the ramp. -/
def RampCommanded (record : List AccessEvent) : Prop :=
  After (After RampCalled (Seen AccessEvent.bus? (BusEvent.Sent DeploysRamp)))
      (Seen AccessEvent.bus? (BusEvent.Taken DeploysRamp)) record ∨
    ∃ cmd, .bus (.doorCalled cmd) ∈ record ∧ bleUartCmdGetSlope cmd = bleUartReqOpen

def AccessEvent.Executed (cmd : UInt8) (e : AccessEvent) : Prop := e = .executed cmd

theorem phoneSighted_grows : Grows PhoneSighted := by
  rintro record later ⟨front, i, among, sighted⟩
  refine ⟨front, i, ?_, sighted⟩
  rw [List.filterMap_append]
  exact among.trans (List.prefix_append _ _)

/-! ### The invariant -/

@[simp] def BusEvent.called? : BusEvent → Option UInt8
  | .called cmd => some cmd
  | _ => none

@[simp] def BusEvent.rampStarted? : BusEvent → Option UInt8
  | .rampStarted cmd => some cmd
  | _ => none

/-! ### Sides of the record -/

section Sides

variable (events : List BusEvent) (driver : DriverEcu) (input : LoopInput) (door : DoorEcu)
  (polled : PollInput)

@[simp] theorem busEvents_turned :
    (events.map AccessEvent.bus).filterMap AccessEvent.turned? = [] := by
  simp [List.filterMap_map, AccessEvent.turned?, Function.comp_def]

@[simp] theorem busEvents_bus :
    (events.map AccessEvent.bus).filterMap AccessEvent.bus? = events := by
  simp [List.filterMap_map, AccessEvent.bus?, Function.comp_def]

@[simp] theorem busEvents_executed :
    (events.map AccessEvent.bus).filterMap AccessEvent.executed? = [] := by
  simp [List.filterMap_map, AccessEvent.executed?, Function.comp_def]

/-- Nothing on the bus is an execution by the slope module. -/
theorem busEvents_unexecuted (cmd : UInt8) :
    ∀ e ∈ events.map AccessEvent.bus, ¬AccessEvent.Executed cmd e := by
  rintro e mem rfl
  obtain ⟨_, -, impossible⟩ := List.mem_map.mp mem
  cases impossible

theorem iterationRecord_called : (iterationRecord driver input).filterMap BusEvent.called? =
    (input.called driver.ble).toList := by
  rw [iterationRecord_filterMap _ _ ⟨rfl, rfl, fun _ => rfl, fun _ => rfl⟩]
  simp

theorem iterationRecord_rampStarted :
    (iterationRecord driver input).filterMap BusEvent.rampStarted? = [] := by
  rw [iterationRecord_filterMap _ _ ⟨rfl, rfl, fun _ => rfl, fun _ => rfl⟩]
  simp

theorem pollRecord_called : (pollRecord door polled).filterMap BusEvent.called? = [] := by
  rw [pollRecord_filterMap _ _ (fun _ => rfl) (fun _ => rfl) (fun _ => rfl) (fun _ => rfl)]
  simp

theorem pollRecord_rampStarted : (pollRecord door polled).filterMap BusEvent.rampStarted? =
    (door.report polled).tx.startedCmd.toList := by
  simp [pollRecord, takenRecord, movedRecord, publishedRecord, List.filterMap_map,
    Function.comp_def]

end Sides

namespace AccessSystem

/-- The parts fit together, and each has come from a run of its own. -/
structure Joined (s : AccessSystem) : Prop where
  port : s.ble.driver = s.bus.driver.ble
  glue : s.ramp.glue = s.bus.door.slope
  turns : s.record.filterMap AccessEvent.turned? = s.ble.turns
  bus : s.record.filterMap AccessEvent.bus? = s.bus.record
  executed : s.record.filterMap AccessEvent.executed? = s.ramp.delivered.map Prod.snd
  handed : s.bus.record.filterMap BusEvent.called? = s.ble.handed
  started : s.bus.record.filterMap BusEvent.rampStarted? = s.ramp.started
  causal : s.bus.Causal
  opening : s.bus.Opening
  asked : s.ble.Tracked ∧ s.ble.Caused
  linked : s.ramp.Tracked

/-- What is behind the two ends. -/
structure Reasoned (s : AccessSystem) : Prop extends Joined s where
  calls : Behind PhoneSighted (Seen AccessEvent.bus? BusEvent.Called) s.record
  executions : Behind (fun front =>
      Chain [BusEvent.RampStarted slopeUartReqOpen] (front.filterMap AccessEvent.bus?))
    (AccessEvent.Executed slopeUartReqOpen) s.record

theorem reasoned_boot (init : InitInput) : (boot init).Reasoned where
  port := rfl
  glue := rfl
  turns := rfl
  bus := rfl
  executed := rfl
  handed := rfl
  started := rfl
  causal := BusSystem.causal_boot init
  opening := BusSystem.opening_boot init
  asked := BleSystem.tracked_fresh
  linked := SlopeLink.refines init.stmTicksPerMs []
  calls := .nil
  executions := .nil

/-! ### Actions -/

section Actions

variable {s : AccessSystem}

theorem Joined.turn (joined : s.Joined) (acks : ℕ) (retryMs : UInt32)
    (scan : List (BLEAdvertisedDevice × UInt32)) (nowMs startMs : UInt32) :
    (s.turn acks retryMs scan nowMs startMs).Joined := by
  obtain ⟨tracked, caused⟩ := joined.asked
  refine ⟨joined.port, joined.glue, ?_, ?_, ?_, joined.handed, joined.started, joined.causal,
    joined.opening, ⟨tracked.step (.turn acks retryMs scan nowMs startMs),
      caused.step tracked (.turn acks retryMs scan nowMs startMs)⟩, joined.linked⟩
  · rw [AccessSystem.turn, List.filterMap_append, joined.turns]
    rfl
  · rw [AccessSystem.turn, List.filterMap_append, joined.bus]
    exact List.append_nil _
  · rw [AccessSystem.turn, List.filterMap_append, joined.executed]
    exact List.append_nil _

/-- The port does in an iteration what a poll of the link does to it. -/
theorem Joined.iterate (joined : s.Joined) (input : LoopInput) (arrives : Bool) (frames : ℕ) :
    (s.iterate input arrives frames).Joined := by
  obtain ⟨tracked, caused⟩ := joined.asked
  have rx : (s.bus.iterateInput (s.iterateInput input frames) arrives).bleRx =
      rxBytes (s.ble.data.take frames) := rfl
  constructor
  · have port := iterate_ble (s.bus.iterateInput (s.iterateInput input frames) arrives) s.bus.driver
    rw [← joined.port, rx] at port
    exact port.symm
  · exact joined.glue
  · simp only [AccessSystem.iterate, List.filterMap_append, busEvents_turned, List.append_nil]
    exact joined.turns
  · simp only [AccessSystem.iterate, List.filterMap_append, busEvents_bus, joined.bus]
    rfl
  · simp only [AccessSystem.iterate, List.filterMap_append, busEvents_executed, List.append_nil]
    exact joined.executed
  · have handed := called_handed (s.bus.iterateInput (s.iterateInput input frames) arrives)
      s.bus.driver.ble
    rw [rx, ← iterationRecord_called, ← joined.port] at handed
    show (s.bus.record ++ _).filterMap BusEvent.called? = _
    rw [List.filterMap_append, joined.handed, handed]
    rfl
  · show (s.bus.record ++ _).filterMap BusEvent.rampStarted? = _
    rw [List.filterMap_append, iterationRecord_rampStarted, List.append_nil]
    exact joined.started
  · exact joined.causal.iterate _ arrives
  · exact joined.opening.iterate _ arrives
  · exact ⟨tracked.step (.poll frames), caused.step tracked (.poll frames)⟩
  · exact joined.linked

/-- The slope UART does in a poll what its actions in the link do to it. -/
theorem Joined.poll (joined : s.Joined) (input : PollInput) (arrives : Bool) (acks : ℕ) :
    (s.poll input arrives acks).Joined := by
  obtain ⟨glue, started, delivered⟩ := rampActions_glue
    (i := s.bus.pollInput (s.pollInput input acks) arrives) joined.causal.rampInv joined.glue rfl
  constructor
  · exact joined.port
  · exact glue
  · simp only [AccessSystem.poll, List.filterMap_append, busEvents_turned, List.append_nil]
    exact joined.turns
  · simp only [AccessSystem.poll, List.filterMap_append, busEvents_bus, joined.bus]
    rfl
  · simp only [AccessSystem.poll, List.filterMap_append, busEvents_executed, List.append_nil]
    rw [delivered]
    exact joined.executed
  · show (s.bus.record ++ _).filterMap BusEvent.called? = _
    rw [List.filterMap_append, pollRecord_called, List.append_nil]
    exact joined.handed
  · show (s.bus.record ++ _).filterMap BusEvent.rampStarted? = _
    rw [List.filterMap_append, pollRecord_rampStarted, joined.started]
    exact started.symm
  · exact joined.causal.poll _ arrives
  · exact joined.opening.poll _ arrives joined.causal
  · exact joined.asked
  · exact Runs.run_invariant SlopeLink.Tracked (fun _ action tracked => tracked.step action)
      joined.linked _

/-- A reception adds to what is delivered, and nothing to what the door ECU does. -/
theorem receive_adds (l : SlopeLink) : (∃ new, l.receive.delivered = l.delivered ++ new) ∧
    l.receive.started = l.started ∧ l.receive.glue = l.glue := by
  unfold SlopeLink.receive
  split
  · exact ⟨⟨[], by simp⟩, rfl, rfl⟩
  · split
    · exact ⟨⟨[], by simp⟩, rfl, rfl⟩
    · exact ⟨⟨_, rfl⟩, rfl, rfl⟩

theorem Joined.receive (joined : s.Joined) : s.receive.Joined := by
  obtain ⟨⟨new, delivered⟩, started, glue⟩ := receive_adds s.ramp
  have record : s.receive.record = s.record ++ new.map fun p => .executed p.2 := by
    rw [AccessSystem.receive, delivered, List.drop_left]
  refine ⟨joined.port, glue.trans joined.glue, ?_, ?_, ?_, joined.handed,
    joined.started.trans started.symm, joined.causal, joined.opening, joined.asked,
    joined.linked.step .receive⟩
  · rw [record, List.filterMap_append, joined.turns, List.filterMap_map]
    simp [AccessEvent.turned?, Function.comp_def, AccessSystem.receive]
  · rw [record, List.filterMap_append, joined.bus, List.filterMap_map]
    simp [AccessEvent.bus?, Function.comp_def, AccessSystem.receive]
  · rw [record, List.filterMap_append, joined.executed, List.filterMap_map]
    show _ = s.ramp.receive.delivered.map Prod.snd
    rw [delivered, List.map_append]
    simp [AccessEvent.executed?, Function.comp_def]

theorem Joined.lose (joined : s.Joined) (line : AccessLine) (i : ℕ) : (s.lose i line).Joined := by
  obtain ⟨tracked, caused⟩ := joined.asked
  cases line with
  | commands =>
      exact { joined with
        causal := joined.causal.step (.loseCommand i)
        opening := joined.opening.step joined.causal (.loseCommand i) }
  | statuses =>
      exact { joined with
        causal := joined.causal.step (.loseStatus i)
        opening := joined.opening.step joined.causal (.loseStatus i) }
  | bleData =>
      exact { joined with asked := ⟨tracked.step (.loseData i), caused.step tracked (.loseData i)⟩ }
  | bleAcks =>
      exact { joined with asked := ⟨tracked.step (.loseAck i), caused.step tracked (.loseAck i)⟩ }
  | rampData => exact { joined with linked := joined.linked.step (.loseData i) }
  | rampAcks => exact { joined with linked := joined.linked.step (.loseAck i) }

/-! ### Reasons -/

/-- What the driver ECU is handed for the ramp has a phone behind it. -/
theorem Joined.sighted (joined : s.Joined) {cmd : UInt8} (handed : cmd ∈ s.ble.handed)
    (opens : bleUartCmdGetSlope cmd = bleUartReqOpen) : PhoneSighted s.record := by
  obtain ⟨tracked, caused⟩ := joined.asked
  rcases caused.handed_asked tracked handed with rfl | ⟨-, front, i, among, sighted⟩
  · exact absurd opens (by decide)
  · exact ⟨front, i, joined.turns ▸ among, sighted⟩

theorem Reasoned.turn (reasoned : s.Reasoned) (acks : ℕ) (retryMs : UInt32)
    (scan : List (BLEAdvertisedDevice × UInt32)) (nowMs startMs : UInt32) :
    (s.turn acks retryMs scan nowMs startMs).Reasoned where
  toJoined := reasoned.toJoined.turn acks retryMs scan nowMs startMs
  calls := by
    refine reasoned.calls.append_none ?_
    rintro e mem ⟨seen, shown, -⟩
    cases List.mem_singleton.mp mem
    cases shown
  executions := by
    refine reasoned.executions.append_none ?_
    rintro e mem rfl
    cases List.mem_singleton.mp mem

theorem Reasoned.iterate (reasoned : s.Reasoned) (input : LoopInput) (arrives : Bool)
    (frames : ℕ) : (s.iterate input arrives frames).Reasoned := by
  have joined := reasoned.toJoined.iterate input arrives frames
  refine ⟨joined, ?_, ?_⟩
  · refine reasoned.calls.append_of phoneSighted_grows ?_
    rintro e mem ⟨seen, shown, cmd, rfl, opens⟩
    obtain ⟨event, among, rfl⟩ := List.mem_map.mp mem
    obtain rfl := Option.some.inj shown
    have handed : cmd ∈ (s.iterate input arrives frames).ble.handed := by
      rw [← joined.handed]
      exact List.mem_filterMap.mpr ⟨_, List.mem_append_right _ among, rfl⟩
    obtain ⟨front, i, sight, sighted⟩ := joined.sighted handed opens
    refine ⟨front, i, ?_, sighted⟩
    rw [joined.turns] at sight
    rw [reasoned.turns]
    exact sight
  · exact reasoned.executions.append_none (busEvents_unexecuted _ _)

theorem Reasoned.poll (reasoned : s.Reasoned) (input : PollInput) (arrives : Bool) (acks : ℕ) :
    (s.poll input arrives acks).Reasoned where
  toJoined := reasoned.toJoined.poll input arrives acks
  calls := by
    refine reasoned.calls.append_none ?_
    rintro e mem ⟨seen, shown, cmd, rfl, -⟩
    obtain ⟨event, among, rfl⟩ := List.mem_map.mp mem
    obtain rfl := Option.some.inj shown
    cases mem_pollRecord among
  executions := reasoned.executions.append_none (busEvents_unexecuted _ _)

/-- What the slope module executes, the door ECU has started. -/
theorem Reasoned.receive (reasoned : s.Reasoned) : s.receive.Reasoned := by
  have joined := reasoned.toJoined.receive
  refine ⟨joined, ?_, ?_⟩
  · refine reasoned.calls.append_none ?_
    rintro e mem ⟨seen, shown, -⟩
    obtain ⟨_, -, rfl⟩ := List.mem_map.mp mem
    cases shown
  · refine reasoned.executions.append_of ?_ ?_
    · intro record later chain
      rw [List.filterMap_append]
      exact chain.append _
    · rintro e mem rfl
      have executed : slopeUartReqOpen ∈ s.receive.ramp.delivered.map Prod.snd := by
        rw [← joined.executed]
        exact List.mem_filterMap.mpr ⟨_, List.mem_append_right _ mem, rfl⟩
      have started := joined.linked.delivered_sublist.subset executed
      rw [← joined.started] at started
      obtain ⟨event, among, starts⟩ := List.mem_filterMap.mp started
      rw [reasoned.bus]
      refine Chain.single among ?_
      cases event with
      | rampStarted cmd => exact congrArg BusEvent.rampStarted (Option.some.inj starts)
      | _ => cases starts

theorem Reasoned.step (reasoned : s.Reasoned) (action : AccessAction) :
    (s.step action).Reasoned := by
  cases action with
  | turn acks retryMs scan nowMs startMs => exact reasoned.turn acks retryMs scan nowMs startMs
  | iterate input arrives frames => exact reasoned.iterate input arrives frames
  | poll input arrives acks => exact reasoned.poll input arrives acks
  | receive => exact reasoned.receive
  | lose line i =>
      have record : (s.lose i line).record = s.record := by cases line <;> rfl
      have joined := reasoned.toJoined.lose line i
      exact ⟨joined, record ▸ reasoned.calls, record ▸ reasoned.executions⟩

theorem reasoned_run (init : InitInput) (actions : List AccessAction) :
    (run init actions).Reasoned :=
  Runs.run_invariant Reasoned (fun _ action reasoned => reasoned.step action)
    (reasoned_boot init) actions

end Actions

/-! ### From a phone to the ramp -/

section Chain

variable {s : AccessSystem} {record front : List AccessEvent}

theorem mem_bus {e : BusEvent} (mem : e ∈ record.filterMap AccessEvent.bus?) : .bus e ∈ record := by
  obtain ⟨event, among, shown⟩ := List.mem_filterMap.mp mem
  cases event with
  | bus seen => exact Option.some.inj shown ▸ among
  | turned input => cases shown
  | executed cmd => cases shown

/-- The bell of a passenger was rung, or the call of a phone came in. -/
theorem rampCalled_of_wanted
    (calls : Behind PhoneSighted (Seen AccessEvent.bus? BusEvent.Called) record)
    (wanted : RampWanted (record.filterMap AccessEvent.bus?)) : RampCalled record := by
  rcases wanted with slope | ⟨bell, door⟩
  · obtain ⟨e, mem, rfl⟩ := slope.exists_mem
    exact .inl (mem_bus mem)
  · obtain ⟨e, mem, rfl⟩ := door.exists_mem
    refine .inr ⟨?_, mem_bus mem⟩
    obtain ⟨e, mem, rfl | called⟩ := bell.exists_mem
    · exact .inl (mem_bus mem)
    · have seen : Seen AccessEvent.bus? BusEvent.Called (.bus e) := ⟨e, rfl, called⟩
      exact .inr ((calls.after (mem_bus mem) seen seen).before phoneSighted_grows)

theorem rampCommanded_of_allowed
    (calls : Behind PhoneSighted (Seen AccessEvent.bus? BusEvent.Called) record)
    (allowed : RampAllowed (record.filterMap AccessEvent.bus?)) : RampCommanded record := by
  rcases allowed with taken | called
  · refine .inl (taken.of_side.imp ?_)
    rintro atTaken ⟨later, rfl⟩ sent
    refine sent.of_side.imp ?_
    rintro atSent ⟨more, rfl⟩ wanted
    exact rampCalled_of_wanted calls.front.front wanted
  · obtain ⟨e, mem, cmd, rfl, opens⟩ := called.exists_mem
    exact .inr ⟨cmd, mem_bus mem, opens⟩

/-- What has been started was allowed. -/
theorem Reasoned.start_behind (reasoned : s.Reasoned) (among : front <+: s.record)
    (chain : Chain [BusEvent.RampStarted slopeUartReqOpen] (front.filterMap AccessEvent.bus?)) :
    After RampCommanded (Seen AccessEvent.bus? (BusEvent.RampStarted slopeUartReqOpen)) front := by
  obtain ⟨later, whole⟩ := among
  have calls : Behind PhoneSighted (Seen AccessEvent.bus? BusEvent.Called) front := by
    have all := reasoned.calls
    rw [← whole] at all
    exact all.front
  have starts : Behind RampAllowed (BusEvent.RampStarted slopeUartReqOpen)
      (front.filterMap AccessEvent.bus?) := by
    have all := reasoned.opening.starts
    rw [← reasoned.bus, ← whole, List.filterMap_append] at all
    exact all.front
  obtain ⟨e, mem, started⟩ := chain.exists_mem
  refine (starts.after mem started started).of_side.imp ?_
  rintro atStart ⟨rest, rfl⟩ allowed
  exact rampCommanded_of_allowed calls.front allowed

end Chain

/-- Over any run of the four controllers with lines that lose frames: before the slope module
executes an OPEN, the door ECU started sending one, and before that a passenger had called at the
door ECU itself, or the door ECU had taken a command to deploy the ramp, which the driver ECU had
sent and its CAN driver accepted after the driver had pressed the slope button; or after the driver
had pressed the door button and the bell for disabled passengers was rung or the Bluetooth module
had sighted a phone that asks for the ramp. -/
theorem ramp_moves_chain (init : InitInput) (actions : List AccessAction) :
    Behind
      (After RampCommanded (Seen AccessEvent.bus? (BusEvent.RampStarted slopeUartReqOpen)))
      (AccessEvent.Executed slopeUartReqOpen) (run init actions).record := by
  have reasoned := reasoned_run init actions
  intro front event back split executed
  have among : front <+: (run init actions).record := ⟨event :: back, split.symm⟩
  exact reasoned.start_behind among (reasoned.executions front event back split executed)

/-- A phone calls, the driver opens the door, and the ramp follows. -/
example :
    let quiet : LoopInput := { busyPress with interrupts := fun _ => [] }
    .executed slopeUartReqOpen ∈ (run bench
      [.turn 0 0 [(⟨some [0x34, 0x12, 0xA1, 0x01], -40⟩, 500)] 1000 1000,
        .iterate quiet false 1, .iterate quiet false 0,
        .iterate (BusSystem.doorPress .doorOpen) false 0, .poll (quietPoll 10) true 0, .receive,
        .poll (quietPoll 20) false 1, .poll (quietPoll 30) false 0, .receive]).record := by
  decide +kernel

end AccessSystem

end SmartBusAccess.System
