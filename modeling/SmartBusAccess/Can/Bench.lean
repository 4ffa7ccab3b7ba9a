import SmartBusAccess.Can.Core

/-!
A bench for one core: a driver, a clock and a relax hook, each a machine of its own,
and a record of what the driver is asked.

Two benches are alike when the driver cannot tell them apart. Calls on alike benches
give the same answers and leave them alike.
-/

namespace SmartBusAccess.Can

/-! ### The bench -/

inductive DriverCall where
  | send (frame : CANFrame)
  | receive (buffer : CANFrame)
  | queryEvents (eventMask : UInt32)
deriving DecidableEq

/-- The world of a core under test. -/
structure Bench (Driver Clock Hook : Type) where
  calls : List DriverCall
  driver : Driver
  clock : Clock
  hook : Hook

/-- What a core is bound to there: the driver's functions, where `QueryEvents` may
be missing, a tick source, and perhaps a relax hook. -/
structure Fixture (Driver Clock Hook Ch Port : Type) where
  ops : CANCoreDriverOps Driver Ch Port
  queryEvents : Option (Driver → Ch → UInt32 → Driver × CANStatus × UInt32)
  tick : Clock → Clock × UInt32
  relax : Option (Hook → Hook)
  driverChannel : Ch
  driverPort : Port

variable {Driver Clock Hook Ch Port : Type}

/-- The driver moved on. -/
def Bench.drive (w : Bench Driver Clock Hook) (driver : Driver) : Bench Driver Clock Hook :=
  { w with driver := driver }

/-- The driver was asked, and moved on. -/
def Bench.record (w : Bench Driver Clock Hook) (call : DriverCall) (driver : Driver) :
    Bench Driver Clock Hook :=
  { w with calls := w.calls ++ [call], driver := driver }

namespace Fixture

/-- The driver's functions on the bench. -/
def benchOps (fixture : Fixture Driver Clock Hook Ch Port) :
    CANCoreDriverOps (Bench Driver Clock Hook) Ch Port where
  opOpen w channel port config :=
    let (driver, status) := fixture.ops.opOpen w.driver channel port config
    (w.drive driver, status)
  opClose w channel :=
    let (driver, status) := fixture.ops.opClose w.driver channel
    (w.drive driver, status)
  opStart w channel :=
    let (driver, status) := fixture.ops.opStart w.driver channel
    (w.drive driver, status)
  opStop w channel :=
    let (driver, status) := fixture.ops.opStop w.driver channel
    (w.drive driver, status)
  opSend w channel frame :=
    let (driver, status) := fixture.ops.opSend w.driver channel frame
    (w.record (.send frame) driver, status)
  opReceive w channel buffer :=
    let (driver, status, buffer') := fixture.ops.opReceive w.driver channel buffer
    (w.record (.receive buffer) driver, status, buffer')

def benchTick (fixture : Fixture Driver Clock Hook Ch Port) (w : Bench Driver Clock Hook) :
    Bench Driver Clock Hook × UInt32 :=
  let (clock, nowMs) := fixture.tick w.clock
  ({ w with clock := clock }, nowMs)

def benchQuery (query : Driver → Ch → UInt32 → Driver × CANStatus × UInt32)
    (w : Bench Driver Clock Hook) (channel : Ch) (eventMask : UInt32) :
    Bench Driver Clock Hook × CANStatus × UInt32 :=
  let (driver, status, eventMask') := query w.driver channel eventMask
  (w.record (.queryEvents eventMask) driver, status, eventMask')

/-- A started core's link to the bench. -/
def link (fixture : Fixture Driver Clock Hook Ch Port) :
    CANCoreLink (Bench Driver Clock Hook) Ch Port where
  started := true
  ops := fixture.benchOps
  optionalOps := some ⟨fixture.queryEvents.map benchQuery⟩
  driverChannel := fixture.driverChannel
  driverPort := fixture.driverPort
  runtime :=
    ⟨some fixture.benchTick, fixture.relax.map fun relax w => { w with hook := relax w.hook }⟩

end Fixture

variable {fixture : Fixture Driver Clock Hook Ch Port}

/-! ### Two worlds the driver cannot tell apart -/

/-- The same calls so far, the same driver, and where the clock matters the same clock. -/
structure Bench.Alike (timeoutMs : UInt32) (w v : Bench Driver Clock Hook) : Prop where
  calls : v.calls = w.calls
  driver : v.driver = w.driver
  clock : timeoutMs ≠ canTimeoutInfinite → v.clock = w.clock

theorem Bench.Alike.refl (timeoutMs : UInt32) (w : Bench Driver Clock Hook) :
    Bench.Alike timeoutMs w w := ⟨rfl, rfl, fun _ => rfl⟩

theorem Bench.Alike.record {timeoutMs : UInt32} {w v : Bench Driver Clock Hook}
    (alike : Bench.Alike timeoutMs w v) (call : DriverCall) (driver : Driver) :
    Bench.Alike timeoutMs (w.record call driver) (v.record call driver) where
  calls := by simp [Bench.record, alike.calls]
  driver := rfl
  clock := alike.clock

/-- `QueryEvents` of the bench, as a poll calls it. -/
def Fixture.query (fixture : Fixture Driver Clock Hook Ch Port) (w : Bench Driver Clock Hook) :
    Bench Driver Clock Hook × CANStatus × UInt32 :=
  match fixture.queryEvents with
  | none => (w, .eunsupported, 0)
  | some query => Fixture.benchQuery query w fixture.driverChannel 0

theorem canCoreQueryEvents_fixture {core : CANCore (Bench Driver Clock Hook) Ch Port}
    (bound : core.link = some fixture.link) (w : Bench Driver Clock Hook) :
    (canCoreQueryEvents core w 0).2 = fixture.query w := by
  cases query : fixture.queryEvents <;>
    simp [canCoreQueryEvents, bound, Fixture.link, query, Fixture.query, CANCore.answer]

theorem Bench.Alike.send {timeoutMs : UInt32} {w v : Bench Driver Clock Hook}
    (alike : Bench.Alike timeoutMs w v) (channel : Ch) (frame : CANFrame) :
    (fixture.benchOps.opSend v channel frame).2 = (fixture.benchOps.opSend w channel frame).2 ∧
      Bench.Alike timeoutMs (fixture.benchOps.opSend w channel frame).1
        (fixture.benchOps.opSend v channel frame).1 := by
  simp only [Fixture.benchOps, alike.driver]
  exact ⟨trivial, alike.record _ _⟩

theorem Bench.Alike.receive {timeoutMs : UInt32} {w v : Bench Driver Clock Hook}
    (alike : Bench.Alike timeoutMs w v) (channel : Ch) (buffer : CANFrame) :
    (fixture.benchOps.opReceive v channel buffer).2 =
        (fixture.benchOps.opReceive w channel buffer).2 ∧
      Bench.Alike timeoutMs (fixture.benchOps.opReceive w channel buffer).1
        (fixture.benchOps.opReceive v channel buffer).1 := by
  simp only [Fixture.benchOps, alike.driver]
  exact ⟨trivial, alike.record _ _⟩

theorem Bench.Alike.query {timeoutMs : UInt32} {w v : Bench Driver Clock Hook}
    (alike : Bench.Alike timeoutMs w v) (fixture : Fixture Driver Clock Hook Ch Port) :
    (fixture.query v).2 = (fixture.query w).2 ∧
      Bench.Alike timeoutMs (fixture.query w).1 (fixture.query v).1 := by
  cases query : fixture.queryEvents with
  | none =>
      simp only [Fixture.query, query]
      exact ⟨trivial, alike⟩
  | some query =>
      simp only [Fixture.query, query, Fixture.benchQuery, alike.driver]
      exact ⟨trivial, alike.record _ _⟩

theorem Bench.Alike.tick {timeoutMs : UInt32} {w v : Bench Driver Clock Hook}
    (alike : Bench.Alike timeoutMs w v) (finite : timeoutMs ≠ canTimeoutInfinite) :
    (fixture.benchTick v).2 = (fixture.benchTick w).2 ∧
      Bench.Alike timeoutMs (fixture.benchTick w).1 (fixture.benchTick v).1 := by
  simp only [Fixture.benchTick, alike.clock finite]
  exact ⟨trivial, alike.calls, alike.driver, fun _ => rfl⟩

theorem Bench.Alike.relax {timeoutMs : UInt32} {w v : Bench Driver Clock Hook}
    (alike : Bench.Alike timeoutMs w v) {core : CANCore (Bench Driver Clock Hook) Ch Port}
    (bound : core.link = some fixture.link) :
    Bench.Alike timeoutMs (canCoreRelax core w) v := by
  cases relax : fixture.relax <;>
    simp only [canCoreRelax, bound, Fixture.link, relax, Option.bind_some, Option.map_none,
      Option.map_some] <;>
    exact ⟨alike.calls, alike.driver, alike.clock⟩

end SmartBusAccess.Can
