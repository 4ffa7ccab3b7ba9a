/-!
The CAN library's common types (`can_types.h`): status codes, frames and the
configuration of a channel.
-/

namespace SmartBusAccess.Can

inductive CANStatus where
  | ok
  | einval
  | enotfound
  | eunsupported
  | ebusy
  | enospc
  | enodata
  | etimeout
  | eio
deriving DecidableEq, Repr

inductive CANMode where
  | classic
  | fdNoBrs
  | fdBrs
deriving DecidableEq, Repr

inductive CANIdType where
  | standard
  | extended
deriving DecidableEq, Repr

structure CANFrame where
  idType : CANIdType
  mode : CANMode
  id : UInt32
  len : UInt8
  data : Vector UInt8 64
deriving DecidableEq, Repr

/-! ### Channel configuration -/

inductive CANRxPath where
  | default
  | fifo0
  | buffer
deriving DecidableEq, Repr

structure CANTimingConfig where
  nominalBitrate : UInt32
  dataBitrate : UInt32
  mode : CANMode
deriving DecidableEq, Repr

structure CANAcceptanceFilter where
  enabled : Bool
  idType : CANIdType
  id : UInt32
  mask : UInt32
deriving DecidableEq, Repr

structure CANChannelConfig where
  timing : CANTimingConfig
  enableLoopback : Bool
  rxPath : CANRxPath
  rxFilter : CANAcceptanceFilter
deriving DecidableEq, Repr

end SmartBusAccess.Can
