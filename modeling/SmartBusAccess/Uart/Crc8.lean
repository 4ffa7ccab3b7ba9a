import Mathlib.Tactic.IntervalCases
import SmartBusAccess.Semantics.ShiftRegister
import SmartBusAccess.Uart.ParserStream

/-!
What the CRC of a frame protects.

`crc8` is the shift register of `x^8 + x^2 + x + 1`, so it is the remainder of the message and
linear. The generator has a constant term and an even number of terms, and `x` does not come
back to one within the length of a frame. So a frame in which up to three bits, or bits within
eight consecutive ones, have changed is never accepted (`crc8_protects_body`).
-/

namespace SmartBusAccess.Uart

open BitPolynomial Polynomial Runs ShiftRegister

/-! ### The register -/

/-- The bits of a byte, the most significant one first. -/
def bits (byte : UInt8) : List Bool := [7, 6, 5, 4, 3, 2, 1, 0].map byte.toBitVec.getLsbD

/-- `0x07`. -/
abbrev crc8Taps : List Bool := [false, false, false, false, false, true, true, true]

theorem bits_injective : Function.Injective bits := by
  intro a b same
  simp only [bits, List.map_cons, List.map_nil, List.cons.injEq, and_true] at same
  obtain ⟨seven, six, five, four, three, two, one, zero⟩ := same
  apply UInt8.toBitVec_inj.mp
  apply BitVec.eq_of_getLsbD_eq
  intro i bound
  interval_cases i <;> assumption

theorem bits_xor (a b : UInt8) : bits (a ^^^ b) = List.zipWith Bool.xor (bits a) (bits b) := by
  simp [bits]

theorem bits_crc8Bit (crc : UInt8) : bits (crc8Bit crc) = turn crc8Taps (bits crc) := by
  refine forall_byte ?_ crc
  decide +kernel

def crc8Register : Register crc8Taps UInt8 where
  bits := bits
  zero := 0
  add a b := a ^^^ b
  turn := crc8Bit
  length_bits _ := rfl
  bits_injective := bits_injective
  bits_zero := by decide
  bits_add := bits_xor
  bits_turn := bits_crc8Bit

theorem crc8_eq_crc (data : List UInt8) : crc8 data = crc8Register.crc data := rfl

/-! ### The generator -/

theorem generator_crc8Taps : generator crc8Taps = X ^ 8 + X ^ 2 + X + 1 := by
  simp only [generator, poly_zero_cons, poly_one_cons, poly_nil, List.length_cons, List.length_nil]
  ring

theorem generator_free : (generator crc8Taps).coeff 0 ≠ 0 := by
  rw [generator_crc8Taps]
  simp

theorem generator_even : (generator crc8Taps).eval 1 = 0 := by
  rw [generator_crc8Taps]
  simp only [eval_add, eval_pow, eval_X, eval_one, one_pow]
  decide

/-- It takes at least 127 multiplications for `x` to come back to one. -/
theorem generator_order (d : ℕ) (positive : 0 < d) (below : d < 127) :
    ¬ generator crc8Taps ∣ X ^ d + 1 := by
  have unit : crc8Register.value 1 = 1 := by
    simp [Register.value, crc8Register, bits, poly]
  have turns : ∀ d < 127, 0 < d → crc8Bit^[d] 1 ≠ 1 := by decide +kernel
  exact crc8Register.not_dvd_of_turns unit (turns d below positive)

/-! ### Damaged frames -/

/-- What is added to the four bytes after the start bytes. -/
structure BodyError where
  type : UInt8
  seq : UInt8
  cmd : UInt8
  crc : UInt8
deriving DecidableEq, Repr

namespace BodyError

def zero : BodyError := ⟨0, 0, 0, 0⟩

/-- The bits that it changes, in the order of the message. -/
def bits (e : BodyError) : List Bool := [e.type, e.seq, e.cmd, e.crc].flatMap Uart.bits

theorem some_bit {e : BodyError} (nonzero : e ≠ zero) : true ∈ e.bits := by
  by_contra none
  have clear (byte : UInt8) (mem : byte ∈ [e.type, e.seq, e.cmd, e.crc]) : byte = 0 := by
    apply bits_injective
    have zeros : true ∉ Uart.bits byte := fun bit => none (List.mem_flatMap.mpr ⟨byte, mem, bit⟩)
    exact List.eq_replicate_of_mem fun b there => Bool.eq_false_iff.mpr fun on => zeros (on ▸ there)
  obtain ⟨type, seq, cmd, crc⟩ := e
  apply nonzero
  rw [zero, clear type (by simp), clear seq (by simp), clear cmd (by simp), clear crc (by simp)]

/-- It changes at most three bits, or only bits within eight consecutive ones. -/
def Small (e : BodyError) : Prop := e.bits.count true ≤ 3 ∨ Burst 8 e.bits

theorem Small.not_dvd {e : BodyError} (small : e.Small) (nonzero : e ≠ zero) :
    ¬ generator crc8Taps ∣ crc8Register.message [e.type, e.seq, e.cmd, e.crc] := by
  have some := some_bit nonzero
  rcases small with few | burst
  · have length : e.bits.length ≤ 127 := Nat.le_of_ble_eq_true rfl
    exact not_dvd_few generator_free generator_even generator_order length some few
  · have degree : ((8 : ℕ) : WithBot ℕ) ≤ (generator crc8Taps).degree := by
      rw [degree_generator]
      rfl
    exact not_dvd_burst generator_free degree some burst

end BodyError

/-- The start bytes stay as they are. -/
def SentFrame.damaged (f : SentFrame) (e : BodyError) : List UInt8 :=
  List.zipWith (· ^^^ ·) f.bytes [0, 0, e.type, e.seq, e.cmd, e.crc]

theorem damaged_eq (f : SentFrame) (e : BodyError) :
    f.damaged e = [sof0, sof1, f.decoded.type ^^^ e.type, f.decoded.seq ^^^ e.seq,
      f.decoded.cmd ^^^ e.cmd,
      crc8 [f.decoded.type, f.decoded.seq, f.decoded.cmd] ^^^ e.crc] := by
  rw [SentFrame.damaged, SentFrame.bytes_eq_spell]
  rfl

/-- A small error spoils the CRC of every body. -/
theorem crc8_damaged {e : BodyError} (small : e.Small) (nonzero : e ≠ .zero)
    (type seq cmd : UInt8) :
    crc8 [type ^^^ e.type, seq ^^^ e.seq, cmd ^^^ e.cmd] ≠ crc8 [type, seq, cmd] ^^^ e.crc := by
  intro fits
  have same : [type, seq, cmd].length = [e.type, e.seq, e.cmd].length := rfl
  exact small.not_dvd nonzero ((crc8Register.damaged_iff same e.crc).mp fits)

theorem outputs_rejected {p : UartParser} (waits : p.state = .waitSof0) {type seq cmd crc : UInt8}
    (differs : crc8 [type, seq, cmd] ≠ crc) :
    outputs parserFeed p [sof0, sof1, type, seq, cmd, crc] =
      [.none, .none, .none, .none, .none, .error] := by
  simp [outputs, parserFeed, waits, differs]

/-- Both CRC functions give, for any number of bytes, the remainder of the message times `x^8`
by `x^8 + x^2 + x + 1`, and are linear. A frame whose start bytes are intact and whose other
bytes are changed in one to three bits, or within eight consecutive bits of the message, is
rejected by a parser that waits for a frame. -/
theorem crc8_protects_body :
    (∀ crc ∈ [slopeUartCrc8, bleUartCrc8],
      (∀ data, poly (bits (crc data)) =
        (poly (data.flatMap bits) * X ^ 8) %ₘ (X ^ 8 + X ^ 2 + X + 1)) ∧
      ∀ a b, a.length = b.length →
        crc (List.zipWith (· ^^^ ·) a b) = crc a ^^^ crc b) ∧
    ∀ (f : SentFrame) (e : BodyError), e ≠ .zero → e.Small →
      ∀ p : UartParser, p.state = .waitSof0 →
        outputs slopeUartParserFeed p (f.damaged e) =
          [.none, .none, .none, .none, .none, .error] := by
  constructor
  · intro crc copy
    obtain rfl : crc = crc8 := by simpa using copy
    constructor
    · intro data
      rw [← generator_crc8Taps, crc8_eq_crc]
      exact crc8Register.value_crc data
    · intro a b same
      rw [crc8_eq_crc, crc8_eq_crc, crc8_eq_crc]
      exact crc8Register.crc_add same
  · intro f e nonzero small p waits
    rw [damaged_eq]
    exact outputs_rejected waits (crc8_damaged small nonzero _ _ _)

/-- Three bits in three bytes, and eight bits across two. -/
theorem crc8_protects_body_two :
    outputs slopeUartParserFeed parserInit
          ((SentFrame.data 7 slopeUartReqOpen).damaged ⟨0x80, 0x01, 0x00, 0x10⟩) =
        [.none, .none, .none, .none, .none, .error] ∧
      outputs slopeUartParserFeed parserInit
          ((SentFrame.ack 7).damaged ⟨0x00, 0x0D, 0xB0, 0x00⟩) =
        [.none, .none, .none, .none, .none, .error] := by
  obtain ⟨-, rejects⟩ := crc8_protects_body
  have few : (⟨0x80, 0x01, 0x00, 0x10⟩ : BodyError).Small := .inl (by decide)
  have burst : (⟨0x00, 0x0D, 0xB0, 0x00⟩ : BodyError).Small :=
    .inr ⟨List.replicate 12 false, bits 0xDB, List.replicate 12 false, by decide, by decide,
      by decide, by decide⟩
  exact ⟨rejects _ _ (by decide) few parserInit rfl, rejects _ _ (by decide) burst parserInit rfl⟩

-- On a line that sends the least significant bit of a byte first these lie within eight bits in
-- a row, but in the message they are spread over fifteen.
example : outputs slopeUartParserFeed parserInit
    ((SentFrame.data 7 slopeUartReqOpen).damaged ⟨0x00, 0x00, 0xD8, 0x06⟩) =
      [.none, .none, .none, .none, .none, .ok ⟨typeData, 7, 0xD9⟩] := by decide +kernel

end SmartBusAccess.Uart
