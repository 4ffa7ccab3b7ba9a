import Mathlib.Logic.Function.Iterate

/-!
The six-byte UART frame shared by `slope_uart.c` and `ble_uart.c`: CRC, encoding
and the byte parser.

The two source files are the same text under two names except for the command
layout, so each function is defined once here, and `slopeUart…` and `bleUart…`
are its two instances. Where a C function writes through an out parameter, the
Lean function returns the value; a `uint8_t` that only holds 0 or 1 is a `Bool`.

`decodeFrame_encodeData` and `decodeFrame_encodeAck`: a whole frame fed to a
parser at rest is decoded to exactly what was encoded.
-/

namespace SmartBusAccess.Uart

/-! ### Constants -/

abbrev sof0 : UInt8 := 0xA5
abbrev sof1 : UInt8 := 0x5A

abbrev typeData : UInt8 := 0x01
abbrev typeAck : UInt8 := 0x02

/-! ### Commands -/

abbrev slopeUartReqNone : UInt8 := 0x00
abbrev slopeUartReqOpen : UInt8 := 0x01
abbrev slopeUartReqClose : UInt8 := 0x02

def slopeUartMakeCmd (slopeReq : UInt8) : UInt8 := slopeReq &&& 0x03

def slopeUartCmdGetSlope (cmd : UInt8) : UInt8 := cmd &&& 0x03

def slopeUartCmdIsValid (cmd : UInt8) : Bool :=
  if (cmd &&& 0xFC) != 0 then false
  else
    let slope := slopeUartCmdGetSlope cmd
    if slope > slopeUartReqClose then false else true

theorem slopeUartCmdIsValid_none : slopeUartCmdIsValid slopeUartReqNone = true := by decide

theorem slopeUartCmdIsValid_open : slopeUartCmdIsValid slopeUartReqOpen = true := by decide

theorem slopeUartCmdIsValid_close : slopeUartCmdIsValid slopeUartReqClose = true := by decide

theorem slopeUartReqNone_ne_open : slopeUartReqNone ≠ slopeUartReqOpen := by decide

theorem slopeUartReqNone_ne_close : slopeUartReqNone ≠ slopeUartReqClose := by decide

theorem slopeUartReqOpen_ne_close : slopeUartReqOpen ≠ slopeUartReqClose := by decide

/-- What holds of 256 numbers holds of every byte. -/
@[elab_as_elim]
theorem forall_byte {motive : UInt8 → Prop} (bytes : ∀ n < 256, motive (UInt8.ofNat n))
    (byte : UInt8) : motive byte := by
  have thisByte := bytes byte.toNat byte.toNat_lt
  rwa [UInt8.ofNat_toNat] at thisByte

theorem slopeUartCmdIsValid_cases {cmd : UInt8} (valid : slopeUartCmdIsValid cmd = true) :
    cmd = slopeUartReqNone ∨ cmd = slopeUartReqOpen ∨ cmd = slopeUartReqClose := by
  revert valid
  refine forall_byte ?_ cmd
  decide +kernel

abbrev bleUartReqNop : UInt8 := 0x00
abbrev bleUartReqOpen : UInt8 := 0x01
abbrev bleUartReqClose : UInt8 := 0x02

/-- Bits 1..0 hold the door request, bits 3..2 the slope request. -/
def bleUartMakeCmd (doorReq slopeReq : UInt8) : UInt8 :=
  (doorReq &&& 0x03) ||| ((slopeReq &&& 0x03) <<< (2 : UInt8))

def bleUartCmdGetDoor (cmd : UInt8) : UInt8 := cmd &&& 0x03

def bleUartCmdGetSlope (cmd : UInt8) : UInt8 := (cmd >>> 2) &&& 0x03

def bleUartCmdIsValid (cmd : UInt8) : Bool :=
  if (cmd &&& 0xF0) != 0 then false
  else
    let door := bleUartCmdGetDoor cmd
    let slope := bleUartCmdGetSlope cmd
    if door > bleUartReqClose then false
    else if slope > bleUartReqClose then false
    else true

/-- The two copies of the protocol. -/
inductive UartVariant where
  | slope
  | ble
deriving DecidableEq, Repr

/-- The only thing the copies do differently. -/
def UartVariant.cmdIsValid : UartVariant → UInt8 → Bool
  | .slope => slopeUartCmdIsValid
  | .ble => bleUartCmdIsValid

/-! ### CRC and encoding -/

/-- One turn of the inner loop of `Crc8`, polynomial `x^8 + x^2 + x + 1`. -/
def crc8Bit (crc : UInt8) : UInt8 :=
  if (crc &&& 0x80) != 0 then (crc <<< 1) ^^^ 0x07 else crc <<< 1

/-- One turn of the outer loop: absorb a byte, then eight bit turns. -/
def crc8Byte (crc byte : UInt8) : UInt8 := crc8Bit^[8] (crc ^^^ byte)

def crc8 (data : List UInt8) : UInt8 := data.foldl crc8Byte 0x00

structure UartFrame where
  bytes : Vector UInt8 6
deriving DecidableEq, Repr

/-- The command byte of a frame. -/
def UartFrame.cmd (frame : UartFrame) : UInt8 := frame.bytes[4]

def encodeData (seq cmd : UInt8) : UartFrame :=
  ⟨#v[sof0, sof1, typeData, seq, cmd, crc8 [typeData, seq, cmd]]⟩

def encodeAck (seq : UInt8) : UartFrame :=
  ⟨#v[sof0, sof1, typeAck, seq, 0x00, crc8 [typeAck, seq, 0x00]]⟩

@[simp] theorem cmd_encodeData (seq cmd : UInt8) : (encodeData seq cmd).cmd = cmd := rfl

/-! ### Parser -/

inductive ParserState where
  | waitSof0
  | waitSof1
  | waitType
  | waitSeq
  | waitCmd
  | waitCrc
deriving DecidableEq, Repr

structure UartParser where
  state : ParserState
  type : UInt8
  seq : UInt8
  cmd : UInt8
deriving DecidableEq, Repr

structure DecodedFrame where
  type : UInt8
  seq : UInt8
  cmd : UInt8
deriving DecidableEq, Repr

/-- `PARSE_NONE`, `PARSE_OK` with the decoded frame, `PARSE_ERROR`. -/
inductive ParseResult where
  | none
  | ok (frame : DecodedFrame)
  | error
deriving DecidableEq, Repr

def parserInit : UartParser := ⟨.waitSof0, 0, 0, 0⟩

/-- The `default` branch of the source, for a state outside the enumeration,
has no counterpart here. -/
def parserFeed (p : UartParser) (byte : UInt8) : UartParser × ParseResult :=
  match p.state with
  | .waitSof0 => if byte == sof0 then ({ p with state := .waitSof1 }, .none) else (p, .none)
  | .waitSof1 =>
      if byte == sof1 then ({ p with state := .waitType }, .none)
      else if byte == sof0 then ({ p with state := .waitSof1 }, .none)
      else ({ p with state := .waitSof0 }, .none)
  | .waitType => ({ p with type := byte, state := .waitSeq }, .none)
  | .waitSeq => ({ p with seq := byte, state := .waitCmd }, .none)
  | .waitCmd => ({ p with cmd := byte, state := .waitCrc }, .none)
  | .waitCrc =>
      let crc := crc8 [p.type, p.seq, p.cmd]
      let rest := { p with state := .waitSof0 }
      if crc != byte then (rest, .error)
      else if p.type != typeData && p.type != typeAck then (rest, .error)
      else (rest, .ok ⟨p.type, p.seq, p.cmd⟩)

/-- Six bytes through a parser: the last state and the last result. -/
def parserFeedFrame (p : UartParser) (frame : UartFrame) : UartParser × ParseResult :=
  frame.bytes.toList.foldl (fun acc byte => parserFeed acc.1 byte) (p, .none)

/-- What a receiving side makes of a frame that arrives whole. -/
def decodeFrame (frame : UartFrame) : Option DecodedFrame :=
  match (parserFeedFrame parserInit frame).2 with
  | .ok decoded => some decoded
  | _ => none

theorem decodeFrame_encodeData (seq cmd : UInt8) :
    decodeFrame (encodeData seq cmd) = some ⟨typeData, seq, cmd⟩ := by
  simp [decodeFrame, parserFeedFrame, encodeData, parserFeed, parserInit]

theorem decodeFrame_encodeAck (seq : UInt8) :
    decodeFrame (encodeAck seq) = some ⟨typeAck, seq, 0x00⟩ := by
  simp [decodeFrame, parserFeedFrame, encodeAck, parserFeed, parserInit]

/-! ### The functions under their source names -/

abbrev slopeUartCrc8 := crc8
abbrev slopeUartParserInit := parserInit
abbrev slopeUartParserFeed := parserFeed

abbrev bleUartCrc8 := crc8
abbrev bleUartParserInit := parserInit
abbrev bleUartParserFeed := parserFeed

example : slopeUartCrc8 [0x01, 0x00, 0x01] = 0x6C := by decide +kernel

end SmartBusAccess.Uart
