import SmartBusAccess.Semantics.BitPolynomial

/-!
Shift registers that compute a cyclic redundancy check.

The register shifts by one bit and adds its taps whenever a one leaves it: multiplication by
`X` modulo the generator (`poly_turn`). What it holds after a message is the remainder of the
message times a power of `X` (`Register.value_crc`), so a damaged message and check still fit
each other exactly when the generator divides what was added to them (`Register.damaged_iff`).
-/

namespace ShiftRegister

universe u

open Polynomial BitPolynomial

/-- The taps, below the power that leaves the register. -/
noncomputable def generator (taps : List Bool) : (ZMod 2)[X] := X ^ taps.length + poly taps

theorem generator_monic (taps : List Bool) : (generator taps).Monic :=
  monic_X_pow_add (degree_poly taps)

@[simp] theorem degree_generator (taps : List Bool) : (generator taps).degree = taps.length := by
  rw [generator, degree_add_eq_left_of_degree_lt (by rw [degree_X_pow]; exact degree_poly taps),
    degree_X_pow]

theorem reduced {taps l : List Bool} (length : l.length = taps.length) :
    poly l %ₘ generator taps = poly l := by
  rw [modByMonic_eq_self_iff (generator_monic taps), degree_generator, ← length]
  exact degree_poly l

/-- One turn of the register. -/
def turn (taps : List Bool) : List Bool → List Bool
  | [] => []
  | top :: rest =>
      if top then List.zipWith Bool.xor (rest ++ [false]) taps else rest ++ [false]

theorem poly_turn {taps register : List Bool} (length : register.length = taps.length) :
    poly (turn taps register) = (poly register * X) %ₘ generator taps := by
  cases register with
  | nil => simp [turn]
  | cons top rest =>
      have shifted : (rest ++ [false]).length = taps.length := by simpa using length
      have times : poly (rest ++ [false]) = poly rest * X := by simp [poly_append]
      cases top with
      | false =>
          rw [turn, if_neg Bool.false_ne_true, poly_zero_cons, ← times, reduced shifted]
      | true =>
          -- The bit that leaves is the generator and its taps.
          have leaves : poly (true :: rest) * X =
              generator taps + poly (turn taps (true :: rest)) := by
            rw [turn, if_pos rfl, poly_xor shifted, poly_one_cons, generator, ← length, times,
              add_add_add_comm, CharTwo.add_self_eq_zero, add_zero, add_mul, List.length_cons,
              pow_succ]
          have short : (turn taps (true :: rest)).length = taps.length := by
            simp [turn, shifted]
          rw [leaves, add_modByMonic, modByMonic_self (generator_monic taps), zero_add,
            reduced short]

/-! ### Registers in machine words -/

/-- A word as wide as the taps, with what a program does to it. -/
structure Register (taps : List Bool) (W : Type u) where
  bits : W → List Bool
  zero : W
  add : W → W → W
  turn : W → W
  length_bits : ∀ w, (bits w).length = taps.length
  bits_injective : Function.Injective bits
  bits_zero : bits zero = List.replicate taps.length false
  bits_add : ∀ a b, bits (add a b) = List.zipWith Bool.xor (bits a) (bits b)
  bits_turn : ∀ w, bits (turn w) = ShiftRegister.turn taps (bits w)

namespace Register

variable {taps : List Bool} {W : Type u} (r : Register taps W)

noncomputable def value (w : W) : (ZMod 2)[X] := poly (r.bits w)

/-- The words of a message, one after the other. -/
noncomputable def message (data : List W) : (ZMod 2)[X] := poly (data.flatMap r.bits)

/-- Add a word and shift it through. -/
def absorb (register word : W) : W := r.turn^[taps.length] (r.add register word)

def crc (data : List W) : W := data.foldl r.absorb r.zero

theorem value_injective : Function.Injective r.value := by
  intro a b same
  exact r.bits_injective (poly_injective (by rw [r.length_bits, r.length_bits]) same)

@[simp] theorem value_zero : r.value r.zero = 0 := by rw [value, r.bits_zero, poly_replicate_false]

@[simp] theorem value_add (a b : W) : r.value (r.add a b) = r.value a + r.value b := by
  rw [value, r.bits_add, poly_xor (by rw [r.length_bits, r.length_bits])]
  rfl

theorem value_reduced (w : W) : r.value w %ₘ generator taps = r.value w :=
  reduced (r.length_bits w)

theorem value_turn (w : W) : r.value (r.turn w) = (r.value w * X) %ₘ generator taps := by
  rw [value, r.bits_turn, poly_turn (r.length_bits w)]
  rfl

theorem cancel {a b c : W} (same : r.add a b = r.add a c) : b = c := by
  have values := congrArg r.value same
  rw [value_add, value_add] at values
  exact r.value_injective (add_left_cancel values)

/-- A factor may be reduced first. -/
theorem reduce_factor (p q : (ZMod 2)[X]) :
    (p %ₘ generator taps * q) %ₘ generator taps = (p * q) %ₘ generator taps := by
  have monic := generator_monic taps
  rw [mul_modByMonic, mul_modByMonic p q,
    (modByMonic_eq_self_iff monic).mpr (degree_modByMonic_lt p monic)]

theorem value_turns (n : ℕ) (w : W) :
    r.value (r.turn^[n] w) = (r.value w * X ^ n) %ₘ generator taps := by
  induction n with
  | zero => rw [Function.iterate_zero_apply, pow_zero, mul_one, value_reduced]
  | succ n ih =>
      rw [Function.iterate_succ_apply', value_turn, ih, reduce_factor, mul_assoc, ← pow_succ]

@[simp] theorem message_nil : r.message [] = 0 := rfl

theorem length_flatMap_bits (data : List W) :
    (data.flatMap r.bits).length = taps.length * data.length := by
  induction data with
  | nil => rfl
  | cons word rest ih =>
      rw [List.flatMap_cons, List.length_append, ih, r.length_bits, List.length_cons, Nat.mul_succ,
        Nat.add_comm]

theorem message_cons (word : W) (rest : List W) :
    r.message (word :: rest) = r.value word * X ^ (taps.length * rest.length) + r.message rest := by
  rw [message, List.flatMap_cons, poly_append, length_flatMap_bits]
  rfl

theorem message_concat (data : List W) (word : W) :
    r.message (data ++ [word]) = r.message data * X ^ taps.length + r.value word := by
  rw [message, List.flatMap_append, poly_append, List.flatMap_singleton, r.length_bits]
  rfl

theorem message_add {a b : List W} (same : a.length = b.length) :
    r.message (List.zipWith r.add a b) = r.message a + r.message b := by
  induction a generalizing b with
  | nil =>
      obtain rfl := List.eq_nil_of_length_eq_zero same.symm
      simp
  | cons x a ih =>
      obtain ⟨y, b, rfl⟩ := List.exists_cons_of_length_eq_add_one same.symm
      have rest : a.length = b.length := Nat.succ_inj.mp same
      have length : (List.zipWith r.add a b).length = b.length := by simp [rest]
      rw [List.zipWith_cons_cons, message_cons, message_cons, message_cons, value_add, ih rest,
        length, rest]
      ring

theorem value_foldl (data : List W) (register : W) :
    r.value (data.foldl r.absorb register) =
      (r.value register * X ^ (taps.length * data.length) + r.message data * X ^ taps.length) %ₘ
        generator taps := by
  induction data generalizing register with
  | nil => simp [value_reduced]
  | cons word rest ih =>
      rw [List.foldl_cons, ih, absorb, value_turns, value_add, message_cons, add_modByMonic,
        reduce_factor, ← add_modByMonic, List.length_cons, Nat.mul_succ, pow_add]
      congr 1
      ring

/-- The check of a message is the remainder of the message times the power that leaves the
register. -/
theorem value_crc (data : List W) :
    r.value (r.crc data) = (r.message data * X ^ taps.length) %ₘ generator taps := by
  rw [crc, value_foldl, value_zero, zero_mul, zero_add]

theorem crc_add {a b : List W} (same : a.length = b.length) :
    r.crc (List.zipWith r.add a b) = r.add (r.crc a) (r.crc b) := by
  apply r.value_injective
  rw [value_add, value_crc, value_crc, value_crc, message_add r same, add_mul, add_modByMonic]

/-! ### Errors -/

theorem crc_eq_iff (data : List W) (check : W) :
    r.crc data = check ↔ generator taps ∣ r.message (data ++ [check]) := by
  rw [message_concat, ← modByMonic_eq_zero_iff_dvd (generator_monic taps), add_modByMonic,
    ← value_crc, value_reduced, CharTwo.add_eq_zero]
  exact r.value_injective.eq_iff.symm

/-- What is added to a message and its check, and not noticed. -/
theorem damaged_iff {data error : List W} (same : data.length = error.length) (check : W) :
    r.crc (List.zipWith r.add data error) = r.add (r.crc data) check ↔
      generator taps ∣ r.message (error ++ [check]) := by
  rw [crc_add r same, ← crc_eq_iff]
  exact ⟨r.cancel, congrArg (r.add (r.crc data))⟩

/-- `X` has not come back to one before the register has. -/
theorem not_dvd_of_turns {one : W} (unit : r.value one = 1) {d : ℕ}
    (turns : r.turn^[d] one ≠ one) : ¬ generator taps ∣ X ^ d + 1 := by
  intro divides
  refine turns (r.value_injective ?_)
  rw [← modByMonic_eq_zero_iff_dvd (generator_monic taps), add_modByMonic,
    CharTwo.add_eq_zero] at divides
  rw [value_turns, unit, one_mul, divides, ← unit, value_reduced]

end Register

end ShiftRegister
