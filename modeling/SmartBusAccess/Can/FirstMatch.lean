import SmartBusAccess.Can.Expiry

/-!
What a matching receive takes from a driver that hands out frames in order.

Such a driver keeps a queue. A receive takes the head, and answers `CAN_STATUS_ENODATA` when
there is none; other statuses may stand between the frames. More may arrive while a call reads
the clock or relaxes. A matching receive takes frames that do not match up to the one that
does, to another status, or until it gives up (`Searched`).
-/

namespace SmartBusAccess.Can

open Looping Deadline

variable {W Ch Port : Type}

/-! ### The driver -/

/-- What a receive may be answered with. -/
inductive CANArrival where
  | frame (frame : CANFrame)
  | fault (status : CANStatus) (other : status ≠ .ok ∧ status ≠ .enodata)

/-- A driver that hands out what has arrived in order. What it leaves in a buffer that it
gives no frame is arbitrary. -/
structure CANReceiveQueue (link : CANCoreLink W Ch Port) where
  queue : W → List CANArrival
  empty : ∀ w buffer, queue w = [] →
    let answer := link.ops.opReceive w link.driverChannel buffer
    answer.2.1 = .enodata ∧ queue answer.1 = []
  frame : ∀ w buffer frame rest, queue w = .frame frame :: rest →
    let answer := link.ops.opReceive w link.driverChannel buffer
    answer.2 = (.ok, frame) ∧ queue answer.1 = rest
  fault : ∀ w buffer status other rest, queue w = .fault status other :: rest →
    let answer := link.ops.opReceive w link.driverChannel buffer
    answer.2.1 = status ∧ queue answer.1 = rest

/-- Between two receives things may arrive, and nothing is lost. -/
structure CANReceiveQueue.Grows {link : CANCoreLink W Ch Port} (received : CANReceiveQueue link) :
    Prop where
  tick : ∀ tick ∈ link.runtime.getTickMs, ∀ w,
    ∃ arrived, received.queue (tick w).1 = received.queue w ++ arrived
  relax : ∀ relax ∈ link.runtime.relax, ∀ w,
    ∃ arrived, received.queue (relax w) = received.queue w ++ arrived

/-! ### The search -/

/-- What a turn took before the loop goes around. -/
def CANArrival.Passed (idType : CANIdType) (id : UInt32) (taken : Option CANArrival) : Prop :=
  ∀ item ∈ taken, ∃ frame, item = .frame frame ∧ frame.matches idType id = false

/-- What a search does not go past: a match, or another status. -/
def CANArrival.stops (idType : CANIdType) (id : UInt32) : CANArrival → Bool
  | .frame received => received.matches idType id
  | .fault _ _ => true

/-- How the last turn ends the loop. -/
def CANArrival.Ends (idType : CANIdType) (id : UInt32) (idle : CANStatus)
    (taken : Option CANArrival) (status : CANStatus) (written : Option CANFrame) : Prop :=
  (∃ frame, taken = some (.frame frame) ∧ frame.matches idType id = true ∧ status = .ok ∧
      written = some frame) ∨
    (∃ fault other, taken = some (.fault fault other) ∧ status = fault ∧ written = none) ∨
    Passed idType id taken ∧ status = idle ∧ written = none

section Search

variable {idType : CANIdType} {id : UInt32} {idle : CANStatus} {σ : Type}

end Search

/-! ### One turn -/

namespace CANReceiveQueue

variable {link : CANCoreLink W Ch Port} (received : CANReceiveQueue link)

/-- What a receive takes. -/
def head (w : W) : Option CANArrival := (received.queue w).head?

theorem takes (w : W) (buffer : CANFrame) :
    received.queue (link.ops.opReceive w link.driverChannel buffer).1 =
      (received.queue w).tail := by
  cases waiting : received.queue w with
  | nil => exact (received.empty w buffer waiting).2
  | cons item rest =>
      cases item with
      | frame frame => exact (received.frame w buffer frame rest waiting).2
      | fault status other => exact (received.fault w buffer status other rest waiting).2

theorem answers (w : W) (buffer : CANFrame) :
    let answer := link.ops.opReceive w link.driverChannel buffer
    (received.queue w = [] ∧ received.head w = none ∧ answer.2.1 = .enodata) ∨
      (∃ frame, received.head w = some (.frame frame) ∧ answer.2 = (.ok, frame)) ∨
      ∃ status other, received.head w = some (.fault status other) ∧ answer.2.1 = status := by
  simp only [head]
  cases waiting : received.queue w with
  | nil => exact .inl ⟨rfl, rfl, (received.empty w buffer waiting).1⟩
  | cons item rest =>
      cases item with
      | frame frame =>
          have answer := received.frame w buffer frame rest waiting
          exact .inr (.inl ⟨frame, rfl, answer.1⟩)
      | fault status other =>
          have answer := received.fault w buffer status other rest waiting
          exact .inr (.inr ⟨status, other, rfl, answer.1⟩)

end CANReceiveQueue

section Turns

variable {link : CANCoreLink W Ch Port}

variable (received : CANReceiveQueue link) (idType : CANIdType) (id : UInt32)
  {core : CANCore W Ch Port}

/-- Reading the clock and relaxing after a receive. -/
theorem CANReceiveQueue.Grows.waits {received : CANReceiveQueue link} {tick : W → W × UInt32}
    (grows : received.Grows) (ticking : link.runtime.getTickMs = some tick)
    (bound : core.link = some link) (w : W) :
    (∃ arrived, received.queue (tick w).1 = received.queue w ++ arrived) ∧
      ∃ arrived, received.queue (canCoreRelax core (tick w).1) = received.queue w ++ arrived := by
  obtain ⟨arrived, ticked⟩ := grows.tick tick ticking w
  refine ⟨⟨arrived, ticked⟩, ?_⟩
  cases relaxing : link.runtime.relax with
  | none => exact ⟨arrived, by simp [canCoreRelax, bound, relaxing, ticked]⟩
  | some relax =>
      obtain ⟨more, relaxed⟩ := grows.relax relax relaxing (tick w).1
      exact ⟨arrived ++ more, by simp [canCoreRelax, bound, relaxing, relaxed, ticked]⟩

end Turns

/-! ### The loops -/

/-- The states of a matching receive: core, world and local frame. -/
abbrev CANMatching (W Ch Port : Type) := CANCore W Ch Port × W × CANFrame

/-- What it takes in them. -/
def CANReceiveQueue.taken {link : CANCoreLink W Ch Port} (received : CANReceiveQueue link)
    (states : List (CANMatching W Ch Port)) : List CANArrival :=
  states.filterMap fun s => received.head s.2.1

section Loops

variable {link : CANCoreLink W Ch Port} {received : CANReceiveQueue link}
  {idType : CANIdType} {id : UInt32}

end Loops

end SmartBusAccess.Can
