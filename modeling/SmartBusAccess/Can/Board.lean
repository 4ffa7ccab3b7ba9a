import SmartBusAccess.Can.Types

/-!
The board under the CAN driver (`board_types.h`, `board_tc375_lite.c`): its CAN
ports and where they are wired.

What the board functions do to the transceiver pins is left out. What they answer
is not: `BoardAnswers` holds the status each of them returns.
-/

namespace SmartBusAccess.Can

inductive BoardStatus where
  | ok
  | einval
  | enotfound
  | eunsupported
  | ehw
deriving DecidableEq, Repr

inductive BoardMCUCANInst where
  | inst0
  | inst1
deriving DecidableEq, Repr

inductive BoardMCUCANNode where
  | node0
  | node1
  | node2
  | node3
deriving DecidableEq, Repr

structure BoardGPIO where
  port : UInt16
  pin : UInt16
deriving DecidableEq, Repr

/-- `phyPresent` is `phy_type != BOARD_CAN_PHY_NONE`. -/
structure BoardCANPort where
  name : String
  mcuInst : BoardMCUCANInst
  mcuNode : BoardMCUCANNode
  rxPin : BoardGPIO
  txPin : BoardGPIO
  phyPresent : Bool
  fdSupported : Bool
  defaultNominalBitrate : UInt32
  defaultDataBitrate : UInt32
deriving DecidableEq, Repr

/-- The ports of the TC375 lite board. -/
def canPorts : List BoardCANPort :=
  [{ name := "can0", mcuInst := .inst0, mcuNode := .node0
     rxPin := ⟨20, 7⟩, txPin := ⟨20, 8⟩, phyPresent := true, fdSupported := true
     defaultNominalBitrate := 500000, defaultDataBitrate := 2000000 }]

def boardFindCANPort (ports : List BoardCANPort) (name : String) : Option BoardCANPort :=
  ports.find? fun port => port.name == name

/-- The statuses of `boardInit`, `boardCANPortPowerOn` and `boardCANPortSetStandby`.
That of `boardCANPortPowerOff` is never looked at. -/
structure BoardAnswers where
  init : BoardStatus
  powerOn : BoardStatus
  setStandby : BoardStatus
deriving DecidableEq, Repr

def BoardAnswers.good : BoardAnswers := ⟨.ok, .ok, .ok⟩

end SmartBusAccess.Can
