import SmartBusAccess.Semantics.Runs
import SmartBusAccess.Semantics.Toggling
import SmartBusAccess.Can.SendLog
import SmartBusAccess.Can.DriverEcuCan

/-!
The alive toggle of the status frames.

`doorECUCANPublishStatus` flips the bit and then hands the frame to the socket, whatever comes
of it. Between two publications anything may happen to the socket, its core and the driver, so
each comes with the socket that it meets. The accepted frames are what the driver's own record
of its `Send`s shows. They alternate exactly when the publications that the driver does not
accept come in even numbers (`alive_alternates_iff`).
-/

namespace SmartBusAccess.Can

open Toggling

variable {W Ch Port : Type}

/-! ### Sending a frame (`can_types.c`, `can_socket.c`) -/

def canFrameInit (idType : CANIdType) (mode : CANMode) (id : UInt32) (len : UInt8) : CANFrame :=
  ⟨idType, mode, id, if len > 64 then 64 else len, Vector.replicate 64 0⟩

def canFrameInitClassicStd (id : UInt32) (len : UInt8) : CANFrame :=
  canFrameInit .standard .classic id len

/-- `data` is what the pointer points to. -/
def canFrameSetData (frame : CANFrame) (data : Option (List UInt8)) (len : UInt8) :
    CANFrame × CANStatus :=
  if data.isNone && len > 0 then (frame, .einval)
  else if len > 64 then (frame, .einval)
  else
    let bytes := (data.getD []).take len.toNat
    ({ frame with data := Vector.ofFn fun i => bytes.getD i 0, len := len }, .ok)

/-- With `socket->core`, which is null while the socket is closed. -/
def canSocketSendClassicStd (core : Option (CANCore W Ch Port)) (w : W) (id : UInt32)
    (data : Option (List UInt8)) (len : UInt8) : Option (CANCore W Ch Port) × W × CANStatus :=
  let (frame, status) := canFrameSetData (canFrameInitClassicStd id len) data len
  if status != .ok then (core, w, status)
  else
    match core with
    | none => (none, w, .einval)
    | some core =>
        let (core, w, status) := canCoreSend core w (some frame)
        (some core, w, status)

/-- The frame of a status byte. -/
def statusFrame (payload : UInt8) : CANFrame :=
  ⟨.standard, .classic, doorCanIdStatus, 1, Vector.ofFn fun i => [payload].getD i 0⟩

theorem setData_statusFrame (payload : UInt8) :
    canFrameSetData (canFrameInitClassicStd doorCanIdStatus 1) (some [payload]) 1 =
      (statusFrame payload, .ok) :=
  rfl

theorem statusFrame_data (payload : UInt8) : (statusFrame payload).data[0]? = some payload := by
  rw [statusFrame, Vector.getElem?_eq_getElem (by decide), Vector.getElem_ofFn]
  rfl

/-- The driver behind the core takes the frame. -/
def CANCore.accepts (core : CANCore W Ch Port) (w : W) (frame : CANFrame) : Bool :=
  core.running.any fun link => (link.ops.opSend w link.driverChannel frame).2 == .ok

def driverAccepts (core : Option (CANCore W Ch Port)) (w : W) (frame : CANFrame) : Bool :=
  core.any fun core => core.accepts w frame

/-! ### Publications -/

/-- What is to be published, and the socket and the world that the call meets. -/
structure StatusPublication (W Ch Port : Type) where
  pinchDetected : Bool
  doorState : UInt8
  rampState : UInt8
  faultPresent : Bool
  core : Option (CANCore W Ch Port)
  world : W

namespace StatusPublication

/-- The call, once the socket has answered. -/
def publish (p : StatusPublication W Ch Port) (ecu : DoorECUCAN) (sent : CANStatus) :
    DoorECUCAN × CANStatus × Option UInt8 :=
  doorECUCANPublishStatus ecu p.pinchDetected p.doorState p.rampState p.faultPresent sent

/-- The call of the socket, with a driver that notes its `Send`s. -/
def send (p : StatusPublication W Ch Port) (payload : UInt8) :
    Option (CANCore (SendLog W) Ch Port) × SendLog W × CANStatus :=
  canSocketSendClassicStd (p.core.map CANCore.logging) ⟨p.world, []⟩ doorCanIdStatus
    (some [payload]) 1

/-- What the socket answers, and the frames that the driver accepted meanwhile. The payload does
not depend on the answer. -/
def sent (p : StatusPublication W Ch Port) (ecu : DoorECUCAN) : CANStatus × List CANFrame :=
  match (p.publish ecu .ok).2.2 with
  | none => (.ok, [])
  | some payload =>
      let (_, w, status) := p.send payload
      (status, w.accepted)

end StatusPublication

/-- With the frames that the driver accepts. -/
def doorECUCANPublish (ecu : DoorECUCAN) (p : StatusPublication W Ch Port) :
    DoorECUCAN × List CANFrame :=
  let (status, frames) := p.sent ecu
  ((p.publish ecu status).1, frames)

/-! ### What a publication does -/

theorem low_bits (x : UInt8) : ∃ i : Fin 4, x &&& 0x3 = UInt8.ofNat i := by
  refine ⟨⟨(x &&& 0x3).toNat, ?_⟩, by simp⟩
  rw [UInt8.toNat_and]
  exact Nat.lt_succ_of_le Nat.and_le_right

theorem getAliveToggle_pack (pinch : Bool) (doorState rampState : UInt8)
    (faultPresent aliveToggle : Bool) : driverWithDoorCanGetAliveToggle
      (driverWithDoorCanPackStatus pinch doorState rampState faultPresent aliveToggle) =
        aliveToggle := by
  unfold driverWithDoorCanPackStatus
  obtain ⟨door, doorBits⟩ := low_bits doorState
  obtain ⟨ramp, rampBits⟩ := low_bits rampState
  rw [doorBits, rampBits]
  clear doorBits rampBits
  revert pinch door ramp faultPresent aliveToggle
  decide

section Publish

variable (p : StatusPublication W Ch Port) (ecu : DoorECUCAN)

namespace StatusPublication

/-- The check of its arguments fails. -/
def isInvalid : Bool := p.doorState > doorStateFault || p.rampState > rampStateFault

/-- The cache after valid arguments, with the bit flipped. -/
def cache : DoorECUCANStatusCache :=
  ⟨p.pinchDetected, p.doorState, p.rampState, p.faultPresent, !ecu.statusCache.aliveToggle⟩

def payload (aliveToggle : Bool) : UInt8 :=
  driverWithDoorCanPackStatus p.pinchDetected p.doorState p.rampState p.faultPresent aliveToggle

/-- The driver takes what is published with this bit. -/
def isTaken (aliveToggle : Bool) : Bool :=
  driverAccepts p.core p.world (statusFrame (p.payload aliveToggle))

variable {p}

theorem publish_invalid (invalid : p.isInvalid = true) (sent : CANStatus) :
    p.publish ecu sent = (ecu, .einval, none) :=
  if_pos invalid

theorem publish_valid (valid : p.isInvalid = false) (sent : CANStatus) :
    p.publish ecu sent =
      ({ ecu with statusCache := p.cache ecu }, sent,
        some (p.payload !ecu.statusCache.aliveToggle)) :=
  if_neg (Bool.not_eq_true _ ▸ valid)

/-- The driver's record of one call: the status frame, if it took it. -/
theorem send_accepted (p : StatusPublication W Ch Port) (payload : UInt8) :
    (p.send payload).2.1.accepted =
      if driverAccepts p.core p.world (statusFrame payload) then [statusFrame payload] else [] := by
  rw [send, canSocketSendClassicStd, setData_statusFrame]
  cases p.core with
  | none => rfl
  | some core =>
      refine (congrArg (fun r : SendLog W × CANStatus => r.1.accepted)
        (canCoreSend_logging core ⟨p.world, []⟩ (statusFrame payload))).trans ?_
      have asked : driverAccepts (some core) p.world (statusFrame payload) =
          core.accepts p.world (statusFrame payload) := rfl
      rw [asked, CANCore.accepts]
      cases core.running with
      | none => rfl
      | some link =>
          simp only [SendLog.accepted, List.nil_append, List.filterMap_cons, List.filterMap_nil,
            Option.any_some]
          split_ifs <;> rfl

end StatusPublication

/-- With arguments that are rejected, nothing changes and nothing is sent. -/
theorem publish_rejected {p : StatusPublication W Ch Port} (invalid : p.isInvalid = true) :
    doorECUCANPublish ecu p = (ecu, []) := by
  simp only [doorECUCANPublish, StatusPublication.sent,
    StatusPublication.publish_invalid ecu invalid]

/-- With valid arguments the bit is flipped, and the frame accepted if the driver takes it. -/
theorem publish_accepted {p : StatusPublication W Ch Port} (valid : p.isInvalid = false) :
    doorECUCANPublish ecu p = ({ ecu with statusCache := p.cache ecu },
      if p.isTaken !ecu.statusCache.aliveToggle then
        [statusFrame (p.payload !ecu.statusCache.aliveToggle)]
      else []) := by
  simp only [doorECUCANPublish, StatusPublication.sent,
    StatusPublication.publish_valid ecu valid, StatusPublication.send_accepted]
  rfl

end Publish

/-! ### Runs -/

/-- The bit that the receiver reads. -/
def CANFrame.aliveToggle (frame : CANFrame) : Bool :=
  driverWithDoorCanGetAliveToggle (frame.data[0]?.getD 0)

theorem aliveToggle_statusFrame (p : StatusPublication W Ch Port) (aliveToggle : Bool) :
    (statusFrame (p.payload aliveToggle)).aliveToggle = aliveToggle := by
  rw [CANFrame.aliveToggle, statusFrame_data]
  exact getAliveToggle_pack _ _ _ _ _

/-- The frames that the driver accepts, in order. -/
def acceptedFrames (ecu : DoorECUCAN) (calls : List (StatusPublication W Ch Port)) :
    List CANFrame :=
  (Runs.outputs doorECUCANPublish ecu calls).flatten

/-- The publications with valid arguments that the driver takes, by their place among those
with valid arguments. -/
def takenPlaces (start : Bool) (n : ℕ) (calls : List (StatusPublication W Ch Port)) : List ℕ :=
  places (fun n p => p.isTaken (shown start n)) n (calls.filter fun p => !p.isInvalid)

theorem accepted_toggles {ecu : DoorECUCAN} {start : Bool} {n : ℕ}
    (flips : shown start n = !ecu.statusCache.aliveToggle)
    (calls : List (StatusPublication W Ch Port)) :
    (acceptedFrames ecu calls).map CANFrame.aliveToggle =
      (takenPlaces start n calls).map (shown start) := by
  induction calls generalizing ecu n with
  | nil => rfl
  | cons p rest ih =>
      rw [acceptedFrames, Runs.outputs, takenPlaces]
      cases invalid : p.isInvalid with
      | true =>
          rw [publish_rejected ecu invalid,
            List.filter_cons_of_neg (by rw [invalid]; exact Bool.false_ne_true)]
          exact ih flips
      | false =>
          rw [publish_accepted ecu invalid,
            List.filter_cons_of_pos (by rw [invalid]; rfl), places, flips]
          have later := @ih { ecu with statusCache := p.cache ecu } (n + 1)
            (by rw [shown_succ, flips]; rfl)
          split
          · rw [List.flatten_cons, List.singleton_append, List.map_cons, List.map_cons,
              aliveToggle_statusFrame, flips]
            exact congrArg _ later
          · exact later

/-- For every sequence of publications, each with any arguments and whatever socket, core and
driver it meets: the accepted frames carry alternating bits if and only if between two that
follow each other an even number of publications with valid arguments is not taken. -/
theorem alive_alternates_iff (ecu : DoorECUCAN) (calls : List (StatusPublication W Ch Port)) :
    List.IsChain (· ≠ ·) ((acceptedFrames ecu calls).map CANFrame.aliveToggle) ↔
      EvenGaps (takenPlaces ecu.statusCache.aliveToggle 0 calls) := by
  rw [accepted_toggles (shown_zero ecu.statusCache.aliveToggle) calls]
  exact alternates_iff (places_increasing _ _ _)

/-- A driver whose world is its next answer. -/
def answeringOps : CANCoreDriverOps CANStatus Unit Unit where
  opOpen := fun w _ _ _ => (w, .ok)
  opClose := fun w _ => (w, .ok)
  opStart := fun w _ => (w, .ok)
  opStop := fun w _ => (w, .ok)
  opSend := fun w _ _ => (w, w)
  opReceive := fun w _ frame => (w, .enodata, frame)

/-- The same closed door, published while the driver answers so. -/
def publishedMeeting (answer : CANStatus) : StatusPublication CANStatus Unit Unit :=
  ⟨false, doorStateClosed, rampStateStowed, false,
    some ⟨some ⟨true, answeringOps, none, (), (), ⟨none, none⟩⟩, .zero, .ok⟩, answer⟩

/-- The driver is busy once: the frames before and after carry the same bit. -/
theorem alive_repeats :
    ¬List.IsChain (· ≠ ·)
      ((acceptedFrames doorECUCANInit
        ([.ok, .ebusy, .ok].map publishedMeeting)).map CANFrame.aliveToggle) := by
  decide

end SmartBusAccess.Can
