import Mathlib.Algebra.CharP.Two
import Mathlib.Algebra.Field.ZMod
import Mathlib.Algebra.Polynomial.FieldDivision

/-!
Bit strings as polynomials over the field of two elements. The first bit belongs to the
highest power.

The rules below are about what a generator does not divide: a burst of ones within its degree
(`not_dvd_burst`), and a string with at most three ones that is no longer than the order of `X`
(`not_dvd_few`).
-/

namespace BitPolynomial

open Polynomial

noncomputable def poly : List Bool → (ZMod 2)[X]
  | [] => 0
  | b :: rest => (if b then X ^ rest.length else 0) + poly rest

@[simp] theorem poly_nil : poly [] = 0 := rfl

@[simp] theorem poly_zero_cons (l : List Bool) : poly (false :: l) = poly l := zero_add _

@[simp] theorem poly_one_cons (l : List Bool) : poly (true :: l) = X ^ l.length + poly l := rfl

theorem poly_append (a b : List Bool) : poly (a ++ b) = poly a * X ^ b.length + poly b := by
  induction a with
  | nil => simp
  | cons x a ih =>
      cases x with
      | false => simpa using ih
      | true =>
          rw [List.cons_append, poly_one_cons, poly_one_cons, ih, List.length_append, pow_add]
          ring

theorem poly_zeros {l : List Bool} (zeros : true ∉ l) : poly l = 0 := by
  induction l with
  | nil => rfl
  | cons x l ih =>
      obtain ⟨first, rest⟩ := not_or.mp (mt List.mem_cons.mpr zeros)
      obtain rfl : x = false := Bool.eq_false_iff.mpr (Ne.symm first)
      rw [poly_zero_cons, ih rest]

@[simp] theorem poly_replicate_false (n : ℕ) : poly (List.replicate n false) = 0 :=
  poly_zeros (by simp [List.mem_replicate])

theorem degree_poly (l : List Bool) : (poly l).degree < l.length := by
  induction l with
  | nil => simp
  | cons x l ih =>
      have step : (l.length : WithBot ℕ) < (x :: l).length := by
        exact_mod_cast Nat.lt_succ_self l.length
      have longer := ih.trans step
      cases x with
      | false => rwa [poly_zero_cons]
      | true =>
          rw [poly_one_cons]
          refine (degree_add_le _ _).trans_lt (max_lt ?_ longer)
          rwa [degree_X_pow]

/-- Exclusive or is addition. -/
theorem poly_xor {a b : List Bool} (same : a.length = b.length) :
    poly (List.zipWith Bool.xor a b) = poly a + poly b := by
  induction a generalizing b with
  | nil =>
      obtain rfl := List.eq_nil_of_length_eq_zero same.symm
      simp
  | cons x a ih =>
      obtain ⟨y, b, rfl⟩ := List.exists_cons_of_length_eq_add_one same.symm
      have rest : a.length = b.length := Nat.succ_inj.mp same
      have length : (List.zipWith Bool.xor a b).length = a.length := by simp [rest]
      rw [List.zipWith_cons_cons]
      cases x with
      | false =>
          cases y with
          | false => simpa using ih rest
          | true =>
              simp only [Bool.false_xor, poly_zero_cons, poly_one_cons, ih rest, length, rest]
              ring
      | true =>
          cases y with
          | false =>
              simp only [Bool.xor_false, poly_zero_cons, poly_one_cons, ih rest, length]
              ring
          | true =>
              simp only [Bool.xor_self, poly_zero_cons, poly_one_cons, ih rest, rest]
              rw [add_add_add_comm, CharTwo.add_self_eq_zero, zero_add]

theorem poly_injective {a b : List Bool} (same : a.length = b.length) (eq : poly a = poly b) :
    a = b := by
  induction a generalizing b with
  | nil => exact (List.eq_nil_of_length_eq_zero same.symm).symm
  | cons x a ih =>
      obtain ⟨y, b, rfl⟩ := List.exists_cons_of_length_eq_add_one same.symm
      have rest : a.length = b.length := Nat.succ_inj.mp same
      -- Only the first bits reach the power of the length of what follows.
      have top (z : Bool) (l : List Bool) :
          (poly (z :: l)).coeff l.length = if z then 1 else 0 := by
        have below := coeff_eq_zero_of_degree_lt (degree_poly l)
        cases z <;> simp [below]
      have first : (if x then 1 else 0 : ZMod 2) = if y then 1 else 0 := by
        rw [← top x a, ← top y b, eq, rest]
      have agree : ∀ x y : Bool, (if x then 1 else 0 : ZMod 2) = (if y then 1 else 0) → x = y := by
        decide
      obtain rfl := agree x y first
      rw [poly, poly, rest] at eq
      rw [ih rest (add_left_cancel eq)]

theorem eval_one_poly (l : List Bool) : (poly l).eval 1 = (l.count true : ZMod 2) := by
  induction l with
  | nil => simp
  | cons x l ih => cases x <;> simp [ih, add_comm]

/-! ### What a generator does not divide -/

/-- All ones lie within `n` consecutive bits. -/
def Burst (n : ℕ) (l : List Bool) : Prop :=
  ∃ before window after, l = before ++ window ++ after ∧ true ∉ before ∧ true ∉ after ∧
    window.length ≤ n

theorem poly_one_bit {l : List Bool} (one : l.count true = 1) :
    ∃ m < l.length, poly l = X ^ m := by
  induction l with
  | nil => simp at one
  | cons x l ih =>
      cases x with
      | false =>
          obtain ⟨m, below, power⟩ := ih (by simpa using one)
          exact ⟨m, below.trans (by simp), by rw [poly_zero_cons, power]⟩
      | true =>
          have zeros : true ∉ l := List.count_eq_zero.mp (by simpa using one)
          exact ⟨l.length, by simp, by rw [poly_one_cons, poly_zeros zeros, add_zero]⟩

theorem poly_two_bits {l : List Bool} (two : l.count true = 2) :
    ∃ d m, 0 < d ∧ d + m < l.length ∧ poly l = (X ^ d + 1) * X ^ m := by
  induction l with
  | nil => simp at two
  | cons x l ih =>
      cases x with
      | false =>
          obtain ⟨d, m, apart, below, powers⟩ := ih (by simpa using two)
          exact ⟨d, m, apart, below.trans (by simp), by rw [poly_zero_cons, powers]⟩
      | true =>
          obtain ⟨m, below, power⟩ := poly_one_bit (l := l) (by simpa using two)
          refine ⟨l.length - m, m, Nat.sub_pos_of_lt below, ?_, ?_⟩
          · rw [Nat.sub_add_cancel below.le]
            simp
          · rw [poly_one_cons, power, add_mul, one_mul, ← pow_add, Nat.sub_add_cancel below.le]

section Divides

variable {G : (ZMod 2)[X]}

theorem dvd_of_dvd_mul_X_pow (free : G.coeff 0 ≠ 0) {p : (ZMod 2)[X]} {n : ℕ}
    (divides : G ∣ p * X ^ n) : G ∣ p := by
  have prime : Prime (X : (ZMod 2)[X]) := prime_X
  have coprime : IsCoprime X G := prime.coprime_iff_not_dvd.mpr (mt X_dvd_iff.mp free)
  exact coprime.symm.pow_right.dvd_of_dvd_mul_right divides

/-- Ones that lie within the degree. -/
theorem not_dvd_burst (free : G.coeff 0 ≠ 0) {n : ℕ} (short : n ≤ G.degree) {l : List Bool}
    (some : true ∈ l) (burst : Burst n l) : ¬ G ∣ poly l := by
  obtain ⟨before, window, after, rfl, outside, outside', length⟩ := burst
  intro divides
  rw [poly_append, poly_append, poly_zeros outside, poly_zeros outside', zero_mul, zero_add,
    add_zero] at divides
  have inside : true ∈ window := by simpa [outside, outside'] using some
  have nonzero : poly window ≠ 0 := by
    intro zero
    have same : window = List.replicate window.length false :=
      poly_injective (by simp) (by rw [zero, poly_replicate_false])
    rw [same] at inside
    simp at inside
  have below : (poly window).degree < G.degree :=
    (degree_poly window).trans_le (le_trans (by exact_mod_cast length) short)
  exact not_dvd_of_degree_lt nonzero below (dvd_of_dvd_mul_X_pow free divides)

/-- One, two or three ones. -/
theorem not_dvd_few (free : G.coeff 0 ≠ 0) (even : G.eval 1 = 0) {n : ℕ}
    (order : ∀ d, 0 < d → d < n → ¬ G ∣ X ^ d + 1) {l : List Bool} (length : l.length ≤ n)
    (some : true ∈ l) (few : l.count true ≤ 3) : ¬ G ∣ poly l := by
  intro divides
  have root : (poly l).eval 1 = 0 := eval_eq_zero_of_dvd_of_eval_eq_zero divides even
  rw [eval_one_poly, ZMod.natCast_eq_zero_iff_even] at root
  have present : 0 < l.count true := List.count_pos_iff.mpr some
  have two : l.count true = 2 := by
    obtain ⟨half, sum⟩ := root
    omega
  obtain ⟨d, m, apart, below, powers⟩ := poly_two_bits two
  rw [powers] at divides
  exact order d apart (by omega) (dvd_of_dvd_mul_X_pow free divides)

end Divides

end BitPolynomial
