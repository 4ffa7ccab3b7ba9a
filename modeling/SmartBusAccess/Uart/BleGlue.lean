import SmartBusAccess.Uart.Arq

/-!
The door ECU's side of the BLE UART (`ble_uart_tc375_lite.c`): a parser, a
receiver and a mailbox of one command.

A poll is given the bytes it reads. It returns what the receiver flagged for
each decoded frame, in order; the ACK frames in it are what the source writes to
the port.
-/

namespace SmartBusAccess.Uart

structure BleUartTc375 where
  parser : UartParser
  receiver : UartReceiver
  initialized : Bool
  hasPendingCmd : Bool
  pendingCmd : UInt8
deriving DecidableEq, Repr

/-- The static variables before `bleUartTc375Init`. -/
def BleUartTc375.boot : BleUartTc375 := ⟨parserInit, receiverInit, false, false, 0⟩

def bleUartTc375Init : BleUartTc375 :=
  ⟨bleUartParserInit, bleUartReceiverInit, true, false, bleUartMakeCmd bleUartReqNop bleUartReqNop⟩

def bleUartTc375HandleDecodedFrame (g : BleUartTc375) (decoded : DecodedFrame) :
    BleUartTc375 × RxResult :=
  let (receiver, flags) := bleUartReceiverOnFrame g.receiver decoded
  let g := { g with receiver := receiver }
  match flags.deliver with
  | some cmd => ({ g with pendingCmd := cmd, hasPendingCmd := true }, flags)
  | none => (g, flags)

/-- The body of the receive loop, for one byte read. -/
def bleUartTc375PollByte (g : BleUartTc375) (byte : UInt8) : BleUartTc375 × Option RxResult :=
  let (parser, rc) := bleUartParserFeed g.parser byte
  let g := { g with parser := parser }
  match rc with
  | .ok decoded =>
      let (g, flags) := bleUartTc375HandleDecodedFrame g decoded
      (g, some flags)
  | _ => (g, none)

def bleUartTc375PollBytes (g : BleUartTc375) : List UInt8 → BleUartTc375 × List RxResult
  | [] => (g, [])
  | byte :: rest =>
      let (g, flags) := bleUartTc375PollByte g byte
      let (g, later) := bleUartTc375PollBytes g rest
      (g, flags.toList ++ later)

def bleUartTc375Poll (g : BleUartTc375) (rx : List UInt8) : BleUartTc375 × List RxResult :=
  if !g.initialized then (g, []) else bleUartTc375PollBytes g rx

def bleUartTc375ConsumeCmd (g : BleUartTc375) : Option (BleUartTc375 × UInt8) :=
  if !g.hasPendingCmd then none
  else some ({ g with hasPendingCmd := false }, g.pendingCmd)

/-- A second `ConsumeCmd` in a row finds nothing, so a loop around it runs at most once. -/
theorem bleUartTc375ConsumeCmd_once {g g' : BleUartTc375} {cmd : UInt8}
    (consumed : bleUartTc375ConsumeCmd g = some (g', cmd)) : bleUartTc375ConsumeCmd g' = none := by
  unfold bleUartTc375ConsumeCmd at consumed
  split at consumed
  · contradiction
  · obtain ⟨rfl, -⟩ := Prod.mk.inj (Option.some.inj consumed)
    rfl

end SmartBusAccess.Uart
