import SmartBusAccess.Semantics.Scanning
import SmartBusAccess.Uart.Frame

/-!
The byte parser over whole streams.

The parser is a scanner: the bytes it has matched so far are a function of its
state, and every `PARSE_OK` spells a frame out of them. So decoded frames are
disjoint windows of the stream. In the other direction, one whole frame brings
a parser from any state to one that waits for the first or second byte of a
frame, and from there every frame is decoded.
-/

namespace SmartBusAccess.Uart

open Runs

/-! ### The parser as a scanner -/

/-- The frame of a `PARSE_OK`. -/
def ParseResult.frame? : ParseResult → Option DecodedFrame
  | .ok frame => some frame
  | _ => Option.none

/-- The six bytes a decoded frame stands for. -/
def DecodedFrame.spell (f : DecodedFrame) : List UInt8 :=
  [sof0, sof1, f.type, f.seq, f.cmd, crc8 [f.type, f.seq, f.cmd]]

@[simp] theorem DecodedFrame.length_spell (f : DecodedFrame) : f.spell.length = 6 := rfl

/-- The bytes matched so far. -/
def UartParser.held (p : UartParser) : List UInt8 :=
  match p.state with
  | .waitSof0 => []
  | .waitSof1 => [sof0]
  | .waitType => [sof0, sof1]
  | .waitSeq => [sof0, sof1, p.type]
  | .waitCmd => [sof0, sof1, p.type, p.seq]
  | .waitCrc => [sof0, sof1, p.type, p.seq, p.cmd]

@[simp] theorem held_parserInit : parserInit.held = [] := rfl

theorem sof0_ne_sof1 : sof0 ≠ sof1 := by decide

theorem parserFeed_waitType {p : UartParser} (state : p.state = .waitType) (byte : UInt8) :
    (parserFeed p byte).1.state = .waitSeq := by simp [parserFeed, state]

theorem parserFeed_waitSeq {p : UartParser} (state : p.state = .waitSeq) (byte : UInt8) :
    (parserFeed p byte).1.state = .waitCmd := by simp [parserFeed, state]

theorem parserFeed_waitCmd {p : UartParser} (state : p.state = .waitCmd) (byte : UInt8) :
    (parserFeed p byte).1.state = .waitCrc := by simp [parserFeed, state]

/-- The last byte of a frame always ends the attempt. -/
theorem parserFeed_waitCrc {p : UartParser} (state : p.state = .waitCrc) (byte : UInt8) :
    (parserFeed p byte).1.state = .waitSof0 := by
  simp only [parserFeed, state]
  split
  · rfl
  · split <;> rfl

theorem held_waitSof0 {p : UartParser} (state : p.state = .waitSof0) : p.held = [] := by
  simp [UartParser.held, state]

/-- Only the last byte of a frame whose CRC and type check is answered `PARSE_OK`. -/
theorem parserFeed_ok {p : UartParser} {byte : UInt8} {f : DecodedFrame}
    (decoded : (parserFeed p byte).2 = .ok f) :
    p.state = .waitCrc ∧ p.held ++ [byte] = f.spell ∧ (f.type = typeData ∨ f.type = typeAck) := by
  cases state : p.state with
  | waitSof0 => simp only [parserFeed, state] at decoded; split at decoded <;> cases decoded
  | waitSof1 =>
      simp only [parserFeed, state] at decoded
      split at decoded
      · cases decoded
      · split at decoded <;> cases decoded
  | waitType => simp [parserFeed, state] at decoded
  | waitSeq => simp [parserFeed, state] at decoded
  | waitCmd => simp [parserFeed, state] at decoded
  | waitCrc =>
      simp only [parserFeed, state] at decoded
      split at decoded
      · cases decoded
      · rename_i crcMatches
        split at decoded
        · cases decoded
        · rename_i typeKnown
          cases decoded
          have crc : crc8 [p.type, p.seq, p.cmd] = byte := by simpa using crcMatches
          have known : p.type = typeData ∨ p.type = typeAck := by
            by_cases isData : p.type = typeData
            · exact .inl isData
            · exact .inr (by simpa [isData] using typeKnown)
          exact ⟨rfl, by simp [UartParser.held, state, DecodedFrame.spell, crc], known⟩

/-- Every byte leaves an end of what was matched. -/
theorem parserFeed_keeps (p : UartParser) (byte : UInt8) :
    (parserFeed p byte).1.held <:+ p.held ++ [byte] := by
  cases state : p.state with
  | waitSof0 =>
      by_cases start : byte = sof0 <;> simp [parserFeed, state, UartParser.held, start]
  | waitSof1 =>
      by_cases second : byte = sof1
      · simp [parserFeed, state, UartParser.held, second]
      · by_cases start : byte = sof0
        · refine ⟨[sof0], ?_⟩
          simp [parserFeed, state, UartParser.held, start, sof0_ne_sof1]
        · simp [parserFeed, state, UartParser.held, second, start]
  | waitType => simp [parserFeed, state, UartParser.held]
  | waitSeq => simp [parserFeed, state, UartParser.held]
  | waitCmd => simp [parserFeed, state, UartParser.held]
  | waitCrc =>
      rw [held_waitSof0 (parserFeed_waitCrc state byte)]
      exact List.nil_suffix

theorem ParseResult.frame?_eq_some {r : ParseResult} {f : DecodedFrame} :
    r.frame? = some f ↔ r = .ok f := by
  cases r <;> simp [ParseResult.frame?]

theorem parserFeed_scanner :
    Scanner parserFeed UartParser.held ParseResult.frame? DecodedFrame.spell where
  keeps p byte _ := parserFeed_keeps p byte
  spells p byte f reported := by
    obtain ⟨state, spelled, -⟩ := parserFeed_ok (ParseResult.frame?_eq_some.mp reported)
    exact ⟨spelled, held_waitSof0 (parserFeed_waitCrc state byte)⟩

/-! ### Frames a sender produces -/

/-- A call of `EncodeData` or `EncodeAck`. -/
inductive SentFrame where
  | data (seq cmd : UInt8)
  | ack (seq : UInt8)
deriving DecidableEq, Repr

namespace SentFrame

def encode : SentFrame → UartFrame
  | .data seq cmd => encodeData seq cmd
  | .ack seq => encodeAck seq

def decoded : SentFrame → DecodedFrame
  | .data seq cmd => ⟨typeData, seq, cmd⟩
  | .ack seq => ⟨typeAck, seq, 0x00⟩

def bytes (f : SentFrame) : List UInt8 := f.encode.bytes.toList

def Valid (v : UartVariant) : SentFrame → Prop
  | .data _ cmd => v.cmdIsValid cmd = true
  | .ack _ => True

theorem bytes_eq_spell (f : SentFrame) : f.bytes = f.decoded.spell := by
  cases f <;> rfl

theorem decoded_type (f : SentFrame) :
    f.decoded.type = typeData ∨ f.decoded.type = typeAck := by
  cases f with
  | data seq cmd => exact .inl rfl
  | ack seq => exact .inr rfl

end SentFrame

theorem cmdIsValid_lt {v : UartVariant} {cmd : UInt8} (valid : v.cmdIsValid cmd = true) :
    cmd < 16 := by
  revert valid
  refine forall_byte ?_ cmd
  cases v with
  | slope => decide +kernel
  | ble => decide +kernel

/-- No command byte looks like the start of a frame. -/
theorem SentFrame.Valid.cmd_lt {v : UartVariant} {f : SentFrame} (valid : f.Valid v) :
    f.decoded.cmd < 16 := by
  cases f with
  | data seq cmd => exact cmdIsValid_lt valid
  | ack seq => exact (by decide : (0x00 : UInt8) < 16)

/-! ### Resynchronisation -/

/-- Nothing, or the first byte of a frame, has been matched. -/
def UartParser.Settled (p : UartParser) : Prop := p.state = .waitSof0 ∨ p.state = .waitSof1

abbrev parserRun (p : UartParser) (bytes : List UInt8) : UartParser := run (next parserFeed) p bytes

theorem parserFeedFrame_eq (p : UartParser) (f : SentFrame) :
    (parserFeedFrame p f.encode).1 = parserRun p f.bytes := by
  cases f <;> rfl

/-- From a settled parser every frame is decoded. -/
theorem UartParser.Settled.frame {p : UartParser} (settled : p.Settled) (f : SentFrame) :
    (parserFeedFrame p f.encode).2 = .ok f.decoded ∧
      (parserFeedFrame p f.encode).1.state = .waitSof0 := by
  have start : parserFeed p sof0 = ({ p with state := .waitSof1 }, .none) := by
    rcases settled with state | state <;> simp [parserFeed, state, sof0_ne_sof1]
  cases f with
  | data seq cmd =>
      simp only [parserFeedFrame, SentFrame.encode, encodeData, Vector.toList_mk, List.foldl, start]
      simp [parserFeed, SentFrame.decoded]
  | ack seq =>
      simp only [parserFeedFrame, SentFrame.encode, encodeAck, Vector.toList_mk, List.foldl, start]
      simp [parserFeed, SentFrame.decoded]

/-- A byte that cannot start a frame. -/
theorem parserFeed_waitSof0 {p : UartParser} (state : p.state = .waitSof0) {byte : UInt8}
    (notFirst : byte ≠ sof0) : parserFeed p byte = (p, .none) := by
  simp [parserFeed, state, notFirst]

theorem settled_parserFeed_waitSof0 {p : UartParser} (state : p.state = .waitSof0)
    (byte : UInt8) : (parserFeed p byte).1.Settled := by
  by_cases start : byte = sof0 <;> simp [parserFeed, UartParser.Settled, state, start]

/-- A byte that continues nothing settles the parser completely. -/
theorem UartParser.Settled.feed {p : UartParser} (settled : p.Settled) {byte : UInt8}
    (notFirst : byte ≠ sof0) (notSecond : byte ≠ sof1) :
    (parserFeed p byte).1.state = .waitSof0 := by
  rcases settled with state | state <;> simp [parserFeed, state, notFirst, notSecond]

/-- The last three bytes of a frame settle a parser that waits for a first byte. -/
theorem settled_last_bytes {p : UartParser} (state : p.state = .waitSof0) (seq crc : UInt8)
    {cmd : UInt8} (notFirst : cmd ≠ sof0) (notSecond : cmd ≠ sof1) :
    (parserRun p [seq, cmd, crc]).Settled := by
  have afterSeq := settled_parserFeed_waitSof0 state seq
  have afterCmd := afterSeq.feed notFirst notSecond
  exact settled_parserFeed_waitSof0 afterCmd crc

/-- From any state, the six bytes of a frame settle the parser: whichever of them
ends the attempt under way, the type and command bytes start no other one. -/
theorem settled_parserRun_frame (p : UartParser) {v : UartVariant} {f : SentFrame}
    (valid : f.Valid v) : (parserRun p f.bytes).Settled := by
  have cmdNotFirst : f.decoded.cmd ≠ sof0 := fun same =>
    absurd (same ▸ valid.cmd_lt) (by decide)
  have cmdNotSecond : f.decoded.cmd ≠ sof1 := fun same =>
    absurd (same ▸ valid.cmd_lt) (by decide)
  have typeNotFirst : f.decoded.type ≠ sof0 := by
    rcases f.decoded_type with is | is <;> rw [is] <;> decide
  have typeNotSecond : f.decoded.type ≠ sof1 := by
    rcases f.decoded_type with is | is <;> rw [is] <;> decide
  have whole (settled : p.Settled) : (parserRun p f.bytes).Settled := by
    rw [← parserFeedFrame_eq]
    exact .inl (settled.frame f).2
  rw [f.bytes_eq_spell] at whole ⊢
  cases state : p.state with
  | waitSof0 => exact whole (.inl state)
  | waitSof1 => exact whole (.inr state)
  | waitType =>
      have afterFirst := parserFeed_waitType state sof0
      have afterSecond := parserFeed_waitSeq afterFirst sof1
      have afterType := parserFeed_waitCmd afterSecond f.decoded.type
      have afterSeq : UartParser.Settled _ := .inl (parserFeed_waitCrc afterType f.decoded.seq)
      have afterCmd := afterSeq.feed cmdNotFirst cmdNotSecond
      exact settled_parserFeed_waitSof0 afterCmd _
  | waitSeq =>
      have afterFirst := parserFeed_waitSeq state sof0
      have afterSecond := parserFeed_waitCmd afterFirst sof1
      have afterType := parserFeed_waitCrc afterSecond f.decoded.type
      exact settled_last_bytes afterType _ _ cmdNotFirst cmdNotSecond
  | waitCmd =>
      have afterFirst := parserFeed_waitCmd state sof0
      have afterSecond : UartParser.Settled _ := .inl (parserFeed_waitCrc afterFirst sof1)
      have afterType := afterSecond.feed typeNotFirst typeNotSecond
      exact settled_last_bytes afterType _ _ cmdNotFirst cmdNotSecond
  | waitCrc =>
      have afterFirst : UartParser.Settled _ := .inl (parserFeed_waitCrc state sof0)
      have afterSecond := settled_parserFeed_waitSof0 (parserFeed_waitCrc state sof0) sof1
      have afterType := afterSecond.feed typeNotFirst typeNotSecond
      exact settled_last_bytes afterType _ _ cmdNotFirst cmdNotSecond

/-- The bytes of frames sent back to back. -/
def frameBytes (frames : List SentFrame) : List UInt8 := frames.flatMap SentFrame.bytes

theorem settled_parserRun_frameBytes {p : UartParser} (settled : p.Settled)
    (frames : List SentFrame) : (parserRun p (frameBytes frames)).Settled := by
  induction frames generalizing p with
  | nil => exact settled
  | cons f rest ih =>
      have afterFirst : (parserRun p f.bytes).Settled := by
        rw [← parserFeedFrame_eq]
        exact .inl (settled.frame f).2
      simpa [frameBytes, parserRun, run_append] using ih afterFirst

/-- Whatever came before, every frame after the first of a back-to-back stream
is decoded by the feed of its last byte. -/
theorem parserFeed_resynchronises (v : UartVariant) (garbage : List UInt8) (first : SentFrame)
    (valid : first.Valid v) (later : List SentFrame) (f : SentFrame) :
    (parserFeedFrame (parserRun parserInit (garbage ++ frameBytes (first :: later))) f.encode).2 =
      .ok f.decoded := by
  have afterFirst := settled_parserRun_frame (parserRun parserInit garbage) valid
  have afterLater := settled_parserRun_frameBytes afterFirst later
  have split : parserRun parserInit (garbage ++ frameBytes (first :: later)) =
      parserRun (parserRun (parserRun parserInit garbage) first.bytes) (frameBytes later) := by
    simp [parserRun, frameBytes, run_append]
  rw [split]
  exact (afterLater.frame f).1

theorem parserFeed_resynchronises_halfFrame :
    (parserFeedFrame (parserRun parserInit ([0xA5, 0x5A, 0x01] ++
      frameBytes [.data 0xA5 slopeUartReqOpen])) (SentFrame.ack 0x5A).encode).2 =
      .ok (SentFrame.ack 0x5A).decoded :=
  parserFeed_resynchronises .slope [0xA5, 0x5A, 0x01] (.data 0xA5 slopeUartReqOpen)
    slopeUartCmdIsValid_open [] (.ack 0x5A)

/-! ### Decoding a noisy stream -/

/-- What the feeds of a stream report, one result a byte. -/
abbrev parserResults (bytes : List UInt8) : List ParseResult := outputs parserFeed parserInit bytes

def decodedFrames (results : List ParseResult) : List DecodedFrame :=
  results.filterMap ParseResult.frame?

/-- Noise that contains no first byte of a frame. -/
def Quiet (noise : List UInt8) : Prop := ∀ byte ∈ noise, byte ≠ sof0

/-- A frame on the wire and the noise before it. -/
structure NoisyFrame where
  noise : List UInt8
  frame : SentFrame
  quiet : Quiet noise

def noisyBytes (frames : List NoisyFrame) : List UInt8 :=
  frames.flatMap fun f => f.noise ++ f.frame.bytes

theorem parser_noise {p : UartParser} (state : p.state = .waitSof0) {noise : List UInt8}
    (quiet : Quiet noise) :
    parserRun p noise = p ∧ decodedFrames (outputs parserFeed p noise) = [] := by
  induction noise with
  | nil => exact ⟨rfl, rfl⟩
  | cons byte rest ih =>
      have passed := parserFeed_waitSof0 state (quiet byte List.mem_cons_self)
      obtain ⟨same, nothing⟩ := ih fun b mem => quiet b (List.mem_cons_of_mem _ mem)
      constructor
      · simpa [parserRun, next, passed] using same
      · simpa [outputs, passed, decodedFrames, ParseResult.frame?] using nothing

theorem parser_frame {p : UartParser} (state : p.state = .waitSof0) (f : SentFrame) :
    (parserRun p f.bytes).state = .waitSof0 ∧
      decodedFrames (outputs parserFeed p f.bytes) = [f.decoded] := by
  constructor
  · rw [← parserFeedFrame_eq]
    exact (UartParser.Settled.frame (.inl state) f).2
  · rw [f.bytes_eq_spell]
    cases f <;>
      simp [SentFrame.decoded, DecodedFrame.spell, outputs, parserFeed, state, decodedFrames] <;>
      rfl

theorem parser_noisyBytes {p : UartParser} (state : p.state = .waitSof0)
    (frames : List NoisyFrame) :
    (parserRun p (noisyBytes frames)).state = .waitSof0 ∧
      decodedFrames (outputs parserFeed p (noisyBytes frames)) =
        frames.map fun f => f.frame.decoded := by
  induction frames generalizing p with
  | nil => exact ⟨state, rfl⟩
  | cons f rest ih =>
      obtain ⟨passed, nothing⟩ := parser_noise state f.quiet
      obtain ⟨afterFrame, decoded⟩ := parser_frame state f.frame
      obtain ⟨afterRest, others⟩ := ih afterFrame
      have split : noisyBytes (f :: rest) = f.noise ++ (f.frame.bytes ++ noisyBytes rest) := by
        simp [noisyBytes]
      rw [split]
      simp only [parserRun, decodedFrames] at passed nothing decoded others afterRest ⊢
      constructor
      · rw [run_append, run_append, passed]
        exact afterRest
      · rw [outputs_append, outputs_append, passed, List.filterMap_append, List.filterMap_append,
          nothing, decoded, others]
        rfl

/-- Every `PARSE_OK` is the end of a well-formed six-byte window of the stream,
the windows of two of them are disjoint, and a stream of encoded frames in quiet
noise is decoded to exactly these frames. -/
theorem parserFeed_windows :
    (∀ bytes : List UInt8,
      (∀ n f, (parserResults bytes)[n]? = some (.ok f) →
        5 ≤ n ∧ (bytes.drop (n - 5)).take 6 = f.spell ∧
          (f.type = typeData ∨ f.type = typeAck)) ∧
      (∀ m n f g, m < n → (parserResults bytes)[m]? = some (.ok f) →
        (parserResults bytes)[n]? = some (.ok g) → m + 6 ≤ n)) ∧
    ∀ (frames : List NoisyFrame) (noise : List UInt8), Quiet noise →
      decodedFrames (parserResults (noisyBytes frames ++ noise)) =
        frames.map fun f => f.frame.decoded := by
  refine ⟨fun bytes => ⟨fun n f found => ?_, fun m n f g before first second => ?_⟩,
    fun frames noise quiet => ?_⟩
  · obtain ⟨before, window⟩ :=
      parserFeed_scanner.spelled held_parserInit found (ParseResult.frame?_eq_some.mpr rfl)
    obtain ⟨front, byte, back, rfl, rfl, result⟩ := outputs_getElem? found
    obtain ⟨-, -, known⟩ := parserFeed_ok result.symm
    have whole : (front ++ byte :: back).take (front.length + 1) = front ++ [byte] := by
      rw [List.append_cons front byte back, List.take_left' (by simp)]
    rw [whole] at window
    have sizes := congrArg List.length window
    simp only [List.length_append, DecodedFrame.length_spell, List.length_singleton] at sizes
    have enough : 5 ≤ front.length := by omega
    have position : before.length = front.length - 5 := by omega
    refine ⟨enough, ?_, known⟩
    rw [List.append_cons front byte back, ← window, List.append_assoc, ← position,
      List.drop_left, List.take_left' (DecodedFrame.length_spell f)]
  · exact parserFeed_scanner.disjoint before first (ParseResult.frame?_eq_some.mpr rfl) second
      (ParseResult.frame?_eq_some.mpr rfl)
  · obtain ⟨state, decoded⟩ := parser_noisyBytes (p := parserInit) rfl frames
    obtain ⟨-, nothing⟩ := parser_noise state quiet
    rw [parserResults, outputs_append, decodedFrames, List.filterMap_append]
    simp only [decodedFrames, parserRun] at decoded nothing
    rw [decoded, nothing, List.append_nil]

end SmartBusAccess.Uart
