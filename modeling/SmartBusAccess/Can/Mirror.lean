import SmartBusAccess.Semantics.Runs
import SmartBusAccess.Can.Core

/-!
The state of a core against the state its driver is in.

A driver call either succeeds and moves the driver's channel, or fails and leaves
it. `CANCoreClose` stops the driver before it closes it. If the driver stops but
does not close, the core still says that it is started (`core_mirrors_iff`).
-/

namespace SmartBusAccess.Can

variable {W Ch Port : Type}

/-- A successful call leads to `target`, a failed one nowhere. -/
def Moves (state : W → CANCoreState) (target : CANCoreState) (w : W) (out : W × CANStatus) : Prop :=
  state out.1 = if out.2 = .ok then target else state w

/-- A driver with one channel. `state` is the driver's own: closed, open and stopped, or
open and started. -/
structure CANDriver (W Ch Port : Type) where
  ops : CANCoreDriverOps W Ch Port
  channel : Ch
  state : W → CANCoreState
  opens : ∀ w port config, state w = .closed →
    Moves state .opened w (ops.opOpen w channel port config)
  starts : ∀ w, state w = .opened → Moves state .started w (ops.opStart w channel)
  stops : ∀ w, state w = .started → Moves state .opened w (ops.opStop w channel)
  closes : ∀ w, state w ≠ .closed → Moves state .closed w (ops.opClose w channel)

/-- A call on the core. An open may be given an incomplete table of functions. -/
inductive CoreCall (W Ch Port : Type) where
  | coreOpen (complete : Bool) (optionalOps : Option (CANCoreOptionalDriverOps W Ch))
      (driverPort : Port) (params : CANCoreOpenParams W)
  | coreClose
  | coreStart
  | coreStop

namespace CANDriver

variable (driver : CANDriver W Ch Port)

def binding (complete : Bool) (optionalOps : Option (CANCoreOptionalDriverOps W Ch))
    (driverPort : Port) : CANCoreBinding W Ch Port :=
  ⟨if complete then some driver.ops else none, optionalOps, driver.channel, driverPort⟩

def call (s : CANCore W Ch Port × W) :
    CoreCall W Ch Port → CANCore W Ch Port × W × CANStatus
  | .coreOpen complete optionalOps driverPort params =>
      canCoreOpen s.1 s.2 (driver.binding complete optionalOps driverPort) params
  | .coreClose => canCoreClose s.1 s.2
  | .coreStart => canCoreStart s.1 s.2
  | .coreStop => canCoreStop s.1 s.2

def next (s : CANCore W Ch Port × W) (call : CoreCall W Ch Port) : CANCore W Ch Port × W :=
  ((driver.call s call).1, (driver.call s call).2.1)

/-! ### In step -/

/-- What the status of a start says of the driver. -/
def StartTells (s : CANCore W Ch Port × W) : CoreCall W Ch Port → Prop
  | .coreStart =>
      (canCoreStart s.1 s.2).2.2 = .ok → driver.state (driver.next s .coreStart).2 = .started
  | _ => True

/-- After the call core and driver are in the same state, and a start that succeeded has
left the driver started. -/
def Mirrors (s : CANCore W Ch Port × W) (call : CoreCall W Ch Port) : Prop :=
  (driver.next s call).1.state = driver.state (driver.next s call).2 ∧ driver.StartTells s call

/-- The close of a started core whose driver stops and then does not close. -/
def HalfCloses (s : CANCore W Ch Port × W) : CoreCall W Ch Port → Prop
  | .coreClose =>
      s.1.state = .started ∧ (driver.ops.opStop s.2 driver.channel).2 = .ok ∧
        (driver.ops.opClose (driver.ops.opStop s.2 driver.channel).1 driver.channel).2 ≠ .ok
  | _ => False

/-- The core is in the driver's state, and bound to this driver if to any. -/
structure InStep (s : CANCore W Ch Port × W) : Prop where
  state : s.1.state = driver.state s.2
  ops : ∀ link, s.1.link = some link → link.ops = driver.ops ∧ link.driverChannel = driver.channel

section Step

variable {driver} {core : CANCore W Ch Port} {w w' : W} {link : CANCoreLink W Ch Port}

/-- A call that only notes its status. -/
theorem InStep.answer (inStep : driver.InStep (core, w)) (same : driver.state w' = driver.state w)
    (status : CANStatus) :
    driver.InStep ((core.answer w' status).1, (core.answer w' status).2.1) where
  state := inStep.state.trans same.symm
  ops := inStep.ops

/-- A core that is linked anew, to a driver in the state of the link. -/
theorem InStep.linked (ops : link.ops = driver.ops) (channel : link.driverChannel = driver.channel)
    (moved : driver.state w = if link.started then .started else .opened) (stats : CANCoreStats)
    (status : CANStatus) : driver.InStep (⟨some link, stats, status⟩, w) where
  state := moved.symm
  ops := by
    rintro _ ⟨rfl⟩
    exact ⟨ops, channel⟩

theorem coreOpen_inStep (inStep : driver.InStep (core, w)) (complete : Bool)
    (optionalOps : Option (CANCoreOptionalDriverOps W Ch)) (driverPort : Port)
    (params : CANCoreOpenParams W) :
    driver.InStep (driver.next (core, w) (.coreOpen complete optionalOps driverPort params)) := by
  cases complete with
  | false => exact inStep.answer rfl .einval
  | true =>
      cases bound : core.link with
      | some link =>
          have busy : (core.state != .closed) = true := by
            cases started : link.started <;> simp [CANCore.state, bound, started]
          simp only [next, call, canCoreOpen, binding, if_true]
          rw [if_pos busy]
          exact inStep.answer rfl .ebusy
      | none =>
          have closed : driver.state w = .closed := by
            rw [← inStep.state]
            simp [CANCore.state, bound]
          have moves := driver.opens w driverPort params.channelConfig closed
          simp only [next, call]
          rw [canCoreOpen_closed bound w rfl params]
          simp only [binding]
          unfold Moves at moves
          split
          · rename_i failed
            rw [if_neg (by simpa using failed)] at moves
            exact inStep.answer moves _
          · rename_i opened
            rw [if_pos (by simpa using opened)] at moves
            exact .linked rfl rfl moves _ _

theorem coreStart_inStep (inStep : driver.InStep (core, w)) :
    driver.InStep (driver.next (core, w) .coreStart) ∧
      driver.StartTells (core, w) .coreStart := by
  simp only [next, StartTells, call]
  cases bound : core.link with
  | none =>
      have refused : canCoreStart core w = core.answer w .ebusy := by
        simp [canCoreStart, bound]
      rw [refused]
      refine ⟨inStep.answer rfl .ebusy, ?_⟩
      intro ok
      cases ok
  | some link =>
      obtain ⟨ops, channel⟩ := inStep.ops link bound
      cases started : link.started with
      | true =>
          have already : canCoreStart core w = core.answer w .ok := by
            simp [canCoreStart, bound, started]
          have running : driver.state w = .started :=
            inStep.state.symm.trans (CANCore.state_of_link bound started)
          rw [already]
          exact ⟨inStep.answer rfl .ok, fun _ => running⟩
      | false =>
          have stopped : driver.state w = .opened := by
            rw [← inStep.state]
            simp [CANCore.state, bound, started]
          have moves := driver.starts w stopped
          rw [canCoreStart_bound bound started, ops, channel]
          unfold Moves at moves
          dsimp only
          split
          · rename_i failed
            rw [if_neg (by simpa using failed)] at moves
            refine ⟨inStep.answer moves _, ?_⟩
            intro ok
            simp only [bne_iff_ne] at failed
            exact absurd ok failed
          · rename_i done
            rw [if_pos (by simpa using done)] at moves
            exact ⟨.linked rfl rfl moves _ _, fun _ => moves⟩

theorem coreStop_inStep (inStep : driver.InStep (core, w)) :
    driver.InStep (driver.next (core, w) .coreStop) := by
  simp only [next, call]
  cases bound : core.link with
  | none =>
      have refused : canCoreStop core w = core.answer w .ebusy := by
        simp [canCoreStop, bound]
      rw [refused]
      exact inStep.answer rfl .ebusy
  | some link =>
      obtain ⟨ops, channel⟩ := inStep.ops link bound
      cases started : link.started with
      | false =>
          have already : canCoreStop core w = core.answer w .ok := by
            simp [canCoreStop, bound, started]
          rw [already]
          exact inStep.answer rfl .ok
      | true =>
          have running : driver.state w = .started :=
            inStep.state.symm.trans (CANCore.state_of_link bound started)
          have moves := driver.stops w running
          rw [canCoreStop_bound bound started, ops, channel]
          unfold Moves at moves
          dsimp only
          split
          · rename_i failed
            rw [if_neg (by simpa using failed)] at moves
            exact inStep.answer moves _
          · rename_i done
            rw [if_pos (by simpa using done)] at moves
            exact .linked rfl rfl moves _ _

/-- The driver's close, from a state `v` that the stop before it has left. -/
theorem InStep.closed (inStep : driver.InStep (core, w)) {v : W} (isOpen : driver.state v ≠ .closed)
    (kept : (driver.ops.opClose v driver.channel).2 ≠ .ok → driver.state v = driver.state w) :
    let closed := driver.ops.opClose v driver.channel
    let out := if closed.2 != .ok then core.answer closed.1 closed.2
      else (canCoreInit, closed.1, .ok)
    driver.InStep (out.1, out.2.1) := by
  have moves := driver.closes v isOpen
  unfold Moves at moves
  dsimp only
  split
  · rename_i failed
    simp only [bne_iff_ne] at failed
    rw [if_neg failed] at moves
    exact inStep.answer (moves.trans (kept failed)) _
  · rename_i done
    rw [if_pos (by simpa using done)] at moves
    exact ⟨moves.symm, nofun⟩

/-- A close moves core and driver together, unless it only stops the driver. -/
theorem coreClose_inStep (inStep : driver.InStep (core, w))
    (whole : ¬driver.HalfCloses (core, w) .coreClose) :
    driver.InStep (driver.next (core, w) .coreClose) := by
  simp only [next, call]
  cases bound : core.link with
  | none =>
      have refused : canCoreClose core w = core.answer w .einval := by
        simp [canCoreClose, bound]
      rw [refused]
      exact inStep.answer rfl .einval
  | some link =>
      obtain ⟨ops, channel⟩ := inStep.ops link bound
      rw [canCoreClose_bound bound, ops, channel]
      cases started : link.started with
      | false =>
          have stopped : driver.state w = .opened := by
            rw [← inStep.state]
            simp [CANCore.state, bound, started]
          exact inStep.closed (by simp [stopped]) fun _ => rfl
      | true =>
          have state : core.state = .started := CANCore.state_of_link bound started
          have running : driver.state w = .started := inStep.state.symm.trans state
          have moves := driver.stops w running
          unfold Moves at moves
          split at moves
          · rename_i stopped
            have closes : (driver.ops.opClose (driver.ops.opStop w driver.channel).1
                driver.channel).2 = .ok := by
              by_contra failed
              exact whole ⟨state, stopped, failed⟩
            exact inStep.closed (by simp [moves]) fun failed => absurd closes failed
          · exact inStep.closed (by simp [moves, running]) fun _ => moves

end Step

/-! ### Runs -/

variable {driver} in
theorem next_inStep {s : CANCore W Ch Port × W} (inStep : driver.InStep s)
    (call : CoreCall W Ch Port) (whole : ¬driver.HalfCloses s call) :
    driver.InStep (driver.next s call) := by
  cases call with
  | coreOpen complete optionalOps driverPort params =>
      exact coreOpen_inStep inStep complete optionalOps driverPort params
  | coreClose => exact coreClose_inStep inStep whole
  | coreStart => exact (coreStart_inStep inStep).1
  | coreStop => exact coreStop_inStep inStep

variable {driver} in
/-- A started core whose close fails is still started, whatever its driver has done. -/
theorem not_mirrors_of_halfCloses {s : CANCore W Ch Port × W} (inStep : driver.InStep s)
    {call : CoreCall W Ch Port} (half : driver.HalfCloses s call) : ¬driver.Mirrors s call := by
  cases call with
  | coreClose =>
      obtain ⟨started, stopped, failed⟩ := half
      obtain ⟨link, bound, runs⟩ := CANCore.link_of_started started
      obtain ⟨ops, channel⟩ := inStep.ops link bound
      have stops := driver.stops s.2 (inStep.state.symm.trans started)
      unfold Moves at stops
      rw [if_pos stopped] at stops
      have closes := driver.closes (driver.ops.opStop s.2 driver.channel).1 (by simp [stops])
      unfold Moves at closes
      rw [if_neg failed, stops] at closes
      rintro ⟨mirrors, -⟩
      simp only [next, CANDriver.call] at mirrors
      rw [canCoreClose_bound bound, ops, channel] at mirrors
      simp only [runs, if_true] at mirrors
      rw [if_pos (by simpa using failed)] at mirrors
      have still : s.1.state = .opened := mirrors.trans closes
      rw [started] at still
      cases still
  | _ => exact absurd half id

variable {driver} in
theorem mirrors_iff {s : CANCore W Ch Port × W} (inStep : driver.InStep s)
    (call : CoreCall W Ch Port) : driver.Mirrors s call ↔ ¬driver.HalfCloses s call := by
  constructor
  · intro mirrors half
    exact not_mirrors_of_halfCloses inStep half mirrors
  · intro whole
    refine ⟨(next_inStep inStep call whole).state, ?_⟩
    cases call with
    | coreStart => exact (coreStart_inStep inStep).2
    | _ => trivial

/-- From a closed driver and a fresh core: core and driver agree after every call exactly
if no close stops the driver without closing it. -/
theorem core_mirrors_iff {w : W} (closed : driver.state w = .closed)
    (calls : List (CoreCall W Ch Port)) :
    (∀ p ∈ Runs.steps driver.next (canCoreInit, w) calls, driver.Mirrors p.1 p.2) ↔
      ∀ p ∈ Runs.steps driver.next (canCoreInit, w) calls, ¬driver.HalfCloses p.1 p.2 := by
  have initial : driver.InStep (canCoreInit, w) := ⟨closed.symm, nofun⟩
  exact Runs.forall_steps_iff_while driver.InStep
    (fun _ call inStep whole => next_inStep inStep call whole)
    (fun _ call inStep => mirrors_iff inStep call) initial calls

end CANDriver

/-! ### A driver that will not close -/

/-- Moves to `target` if its next answer is good. -/
def scriptedCall (target : CANCoreState) (w : CANCoreState × List CANStatus) :
    (CANCoreState × List CANStatus) × CANStatus :=
  let status := w.2.headD .ok
  ((if status = .ok then target else w.1, w.2.tail), status)

/-- A driver that answers from a list. -/
def scriptedDriver : CANDriver (CANCoreState × List CANStatus) Unit Unit where
  ops :=
    { opOpen := fun w _ _ _ => scriptedCall .opened w
      opClose := fun w _ => scriptedCall .closed w
      opStart := fun w _ => scriptedCall .started w
      opStop := fun w _ => scriptedCall .opened w
      opSend := fun w _ _ => (w, .ebusy)
      opReceive := fun w _ frame => (w, .enodata, frame) }
  channel := ()
  state := Prod.fst
  opens _ _ _ _ := rfl
  starts _ _ := rfl
  stops _ _ := rfl
  closes _ _ := rfl

/-- Open, start, close and start again. -/
def restart : List (CoreCall (CANCoreState × List CANStatus) Unit Unit) :=
  let config := ⟨⟨500000, 0, .classic⟩, false, .default, ⟨false, .standard, 0, 0⟩⟩
  [.coreOpen true none () ⟨config, ⟨none, none⟩⟩, .coreStart, .coreClose, .coreStart]

theorem core_mirrors_restart :
    (∀ p ∈ Runs.steps scriptedDriver.next (canCoreInit, .closed, [.ok, .eio]) restart,
        scriptedDriver.Mirrors p.1 p.2) ↔
      ∀ p ∈ Runs.steps scriptedDriver.next (canCoreInit, .closed, [.ok, .eio]) restart,
        ¬scriptedDriver.HalfCloses p.1 p.2 :=
  scriptedDriver.core_mirrors_iff rfl restart

/-- The driver stops and then does not close: the core starts at once, the driver not. -/
theorem core_mirrors_fails :
    ¬∀ p ∈ Runs.steps scriptedDriver.next (canCoreInit, .closed, [.ok, .ok, .ok, .eio]) restart,
      scriptedDriver.Mirrors p.1 p.2 := by
  intro mirrors
  have last := (mirrors (Runs.run scriptedDriver.next (canCoreInit, .closed, [.ok, .ok, .ok, .eio])
    (restart.take 3), .coreStart) (by simp [restart, Runs.steps])).2
  have stopped : CANCoreState.opened = .started := last rfl
  cases stopped

end SmartBusAccess.Can
