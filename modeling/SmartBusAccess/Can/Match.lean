import SmartBusAccess.Can.Core

/-!
Receiving a frame with a given id through a socket (`can_socket.c`).

A socket is the core it is bound to, `none` if the socket or its core is null. Frames with
another id are read and dropped. The frame they are read into is a local of the call, and
its first value is arbitrary.
-/

namespace SmartBusAccess.Can

open Looping

variable {W Ch Port : Type}

/-- `CANSocketReceiveNow`: the call on the core. -/
abbrev canSocketReceiveNow (core : CANCore W Ch Port) := core |> canCoreReceive

def CANFrame.matches (frame : CANFrame) (idType : CANIdType) (id : UInt32) : Bool :=
  frame.idType = idType && frame.id == id

/-- The loop body of `CANSocketReceiveMatch`. With the frame when there is one. -/
def canSocketReceiveMatchTurn (idType : CANIdType) (id : UInt32) :
    CANCore W Ch Port × W × CANFrame →
      Turn (CANCore W Ch Port × W × CANFrame) (CANCore W Ch Port × W × CANStatus × Option CANFrame)
  | (core, w, localFrame) =>
      let (core, w, status, received) := canSocketReceiveNow core w (some localFrame)
      let localFrame := received.getD localFrame
      if status != .ok then .done (core, w, status, none)
      else if localFrame.matches idType id then .done (core, w, .ok, some localFrame)
      else .again (core, w, localFrame)

/-- What a call through a socket leaves: its core, the world, the status and the caller's
frame. -/
abbrev CANSocketReceived (W Ch Port : Type) :=
  Option (CANCore W Ch Port) × W × CANStatus × Option CANFrame

/-- The end of a loop, written back. -/
def CANSocketReceived.of (frame : Option CANFrame) :
    CANCore W Ch Port × W × CANStatus × Option CANFrame → CANSocketReceived W Ch Port
  | (core, w, status, received) => (some core, w, status, received <|> frame)

def canSocketReceiveMatch (fuel : Nat) (socket : Option (CANCore W Ch Port)) (w : W)
    (frame : Option CANFrame) (idType : CANIdType) (id : UInt32) (localFrame : CANFrame) :
    Option (CANSocketReceived W Ch Port) :=
  match socket with
  | none => some (socket, w, .einval, frame)
  | some core =>
      if frame.isNone then some (socket, w, .einval, frame)
      else
        (loop (canSocketReceiveMatchTurn idType id) fuel (core, w, localFrame)).map
          (CANSocketReceived.of frame)

/-- The loop body of `CANSocketReceiveTimeoutMatch`. -/
def canSocketReceiveTimeoutMatchTurn (tick : W → W × UInt32) (idType : CANIdType)
    (id timeoutMs startMs : UInt32) :
    CANCore W Ch Port × W × CANFrame →
      Turn (CANCore W Ch Port × W × CANFrame) (CANCore W Ch Port × W × CANStatus × Option CANFrame)
  | (core, w, localFrame) =>
      let (core, w, status, received) := canSocketReceiveNow core w (some localFrame)
      let localFrame := received.getD localFrame
      if status == .ok && localFrame.matches idType id then .done (core, w, .ok, some localFrame)
      else if status != .ok && status != .enodata then .done (core, w, status, none)
      else
        let (w, nowMs) := tick w
        -- without the check for an infinite timeout that the calls on the core make
        if timeoutMs ≤ nowMs - startMs then .done (core, w, .etimeout, none)
        else .again (core, canCoreRelax core w, localFrame)

def canSocketReceiveTimeoutMatch (fuel : Nat) (socket : Option (CANCore W Ch Port)) (w : W)
    (frame : Option CANFrame) (idType : CANIdType) (id timeoutMs : UInt32)
    (localFrame : CANFrame) : Option (CANSocketReceived W Ch Port) :=
  if frame.isNone then some (socket, w, .einval, frame)
  else if timeoutMs == 0 then canSocketReceiveMatch fuel socket w frame idType id localFrame
  else
    match socket with
    | none => some (socket, w, .einval, frame)
    | some core =>
        match core.tick with
        | none => some (socket, w, .eunsupported, frame)
        | some tick =>
            let (w, startMs) := tick w
            (loop (canSocketReceiveTimeoutMatchTurn tick idType id timeoutMs startMs) fuel
              (core, w, localFrame)).map (CANSocketReceived.of frame)

end SmartBusAccess.Can
