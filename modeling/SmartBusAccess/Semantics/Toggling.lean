import Mathlib.Data.List.Chain

/-!
A bit that is flipped at every use, seen at some of the uses only.

What is seen alternates exactly when the uses that are not seen between two that are come in
even numbers (`alternates_iff`).
-/

namespace Toggling

universe u

/-- What the `n`th use shows. -/
def shown (start : Bool) (n : Nat) : Bool := if n % 2 = 0 then !start else start

@[simp] theorem shown_zero (start : Bool) : shown start 0 = !start := rfl

theorem shown_succ (start : Bool) (n : Nat) : shown start (n + 1) = !shown start n := by
  unfold shown
  rcases Nat.mod_two_eq_zero_or_one n with even | odd
  · rw [if_neg (by omega : ¬ (n + 1) % 2 = 0), if_pos even, Bool.not_not]
  · rw [if_pos (by omega : (n + 1) % 2 = 0), if_neg (by omega)]

theorem shown_ne_iff {start : Bool} {i j : Nat} (before : i < j) :
    shown start i ≠ shown start j ↔ (j - i - 1) % 2 = 0 := by
  unfold shown
  rcases Nat.mod_two_eq_zero_or_one i with first | first
  · rcases Nat.mod_two_eq_zero_or_one j with second | second
    · rw [if_pos first, if_pos second]
      exact iff_of_false (fun differ => differ rfl) (by omega)
    · rw [if_pos first, if_neg (by omega)]
      exact iff_of_true (by simp) (by omega)
  · rcases Nat.mod_two_eq_zero_or_one j with second | second
    · rw [if_neg (by omega), if_pos second]
      exact iff_of_true (by simp) (by omega)
    · rw [if_neg (by omega), if_neg (by omega)]
      exact iff_of_false (fun differ => differ rfl) (by omega)

/-! ### Where something holds -/

variable {α : Type u}

/-- The places at which `p` holds, counted from `n`. -/
def places (p : Nat → α → Bool) : Nat → List α → List Nat
  | _, [] => []
  | n, a :: rest => if p n a then n :: places p (n + 1) rest else places p (n + 1) rest

theorem le_of_mem_places {p : Nat → α → Bool} {n i : Nat} {l : List α}
    (mem : i ∈ places p n l) : n ≤ i := by
  induction l generalizing n with
  | nil => cases mem
  | cons a rest ih =>
      rw [places] at mem
      split at mem
      · rcases List.mem_cons.mp mem with rfl | later
        · exact Nat.le_refl i
        · exact Nat.le_of_succ_le (ih later)
      · exact Nat.le_of_succ_le (ih mem)

theorem places_increasing (p : Nat → α → Bool) (n : Nat) (l : List α) :
    (places p n l).Pairwise (· < ·) := by
  induction l generalizing n with
  | nil => exact List.Pairwise.nil
  | cons a rest ih =>
      rw [places]
      split
      · exact List.pairwise_cons.mpr ⟨fun i mem => le_of_mem_places mem, ih (n + 1)⟩
      · exact ih (n + 1)

/-! ### Alternation -/

/-- Between two neighbours an even number of uses is left out. -/
def EvenGaps (seen : List Nat) : Prop := List.IsChain (fun i j => (j - i - 1) % 2 = 0) seen

theorem alternates_iff {start : Bool} {seen : List Nat} (increasing : seen.Pairwise (· < ·)) :
    List.IsChain (· ≠ ·) (seen.map (shown start)) ↔ EvenGaps seen := by
  unfold EvenGaps
  induction seen with
  | nil => simp
  | cons i rest ih =>
      obtain ⟨first, increasing⟩ := List.pairwise_cons.mp increasing
      cases rest with
      | nil => simp
      | cons j rest =>
          simp only [List.map_cons, List.isChain_cons_cons] at ih ⊢
          rw [shown_ne_iff (first j List.mem_cons_self), ih increasing]

end Toggling
