import Mathlib.Data.List.Chain
import SmartBusAccess.Semantics.Looping

/-!
Waiting with a deadline on a clock of 32 bits that wraps.

The clock is read once before a loop, at `start`, and again after each attempt that may be
retried; the loop goes around as long as less than `timeout` has gone by. The time that has
gone by is a difference modulo 2^32, so a clock that jumps can pass the deadline unseen. One
that advances after each attempt, and by no more than 2^32 less the timeout (`Advances`),
cannot (`Waits.returns`).

A clock that divides such a counter into coarser units wraps earlier than the difference that
is taken of its readings, which then shows a deadline that has not come (`early_iff`).
-/

namespace Deadline

open Looping

universe u v w

variable {σ : Type u} {α : Type v} {β : Type w}

/-! ### The clock -/

/-- From one reading of the clock to the next. -/
def Advances (timeout before after : UInt32) : Prop :=
  1 ≤ (after - before).toNat ∧ (after - before).toNat ≤ 4294967296 - timeout.toNat

instance (timeout before after : UInt32) : Decidable (Advances timeout before after) :=
  inferInstanceAs (Decidable (_ ∧ _))

/-- As long as the deadline has not passed, such a step adds to the time gone by. -/
theorem elapsed_advances {timeout start before after : UInt32} (early : before - start < timeout)
    (advances : Advances timeout before after) :
    (after - start).toNat = (before - start).toNat + (after - before).toNat := by
  obtain ⟨-, bounded⟩ := advances
  rw [UInt32.lt_iff_toNat_lt] at early
  have first := start.toNat_lt
  have second := before.toNat_lt
  have third := after.toNat_lt
  simp only [UInt32.toNat_sub] at early bounded ⊢
  omega

/-! ### A clock in coarser units -/

/-- A counter of 32 bits that runs at `perUnit` ticks in a unit, read in units. -/
def coarse (perUnit : UInt32) (ticks : Nat) : UInt32 := UInt32.ofNat ticks / perUnit

theorem coarse_toNat (perUnit : UInt32) (ticks : Nat) :
    (coarse perUnit ticks).toNat = ticks % 4294967296 / perUnit.toNat := by
  rw [coarse, UInt32.toNat_div, UInt32.toNat_ofNat']

/-- Between two ticks as far apart as that, less than a unit short of `units` have passed. -/
theorem ticks_of_units {k a b units : Nat} (apart : a / k + units ≤ b / k) (positive : 0 < units) :
    (units - 1) * k < b - a := by
  by_cases none : k = 0
  · subst none
    simp at apart
    omega
  have pos : 0 < k := Nat.pos_of_ne_zero none
  have below := Nat.lt_mul_div_succ a pos
  have above := Nat.mul_div_le b k
  have more : k * (a / k + units) ≤ k * (b / k) := Nat.mul_le_mul_left k apart
  obtain ⟨n, rfl⟩ : ∃ n, units = n + 1 := ⟨units - 1, by omega⟩
  rw [Nat.mul_add, Nat.mul_add] at more
  have : k * n = n * k := Nat.mul_comm _ _
  simp only [Nat.add_sub_cancel]
  rw [Nat.mul_add] at below
  omega

/-- Less than a unit short of the timeout, the deadline has passed exactly when the coarse
reading has gone back, as it does when the counter wraps between. -/
theorem early_iff {perUnit timeout : UInt32} {first now : Nat} (le : first ≤ now)
    (unit : 0 < perUnit) (positive : 0 < timeout) (small : timeout.toNat ≤ 2147483648) :
    timeout ≤ coarse perUnit now - coarse perUnit first ∧
        now - first ≤ (timeout.toNat - 1) * perUnit.toNat ↔
      1 < perUnit ∧ coarse perUnit now < coarse perUnit first ∧
        now - first ≤ (timeout.toNat - 1) * perUnit.toNat := by
  have late := coarse_toNat perUnit now
  have early := coarse_toNat perUnit first
  have bounded := (coarse perUnit now).toNat_lt
  have bounded' := (coarse perUnit first).toNat_lt
  simp only [UInt32.le_iff_toNat_le, UInt32.lt_iff_toNat_lt, UInt32.toNat_sub] at unit positive ⊢
  have one : (1 : UInt32).toNat = 1 := rfl
  have zero : (0 : UInt32).toNat = 0 := rfl
  rw [zero] at unit positive
  rw [one]
  constructor
  · rintro ⟨passed, soon⟩
    have back : (coarse perUnit now).toNat < (coarse perUnit first).toNat := by
      by_contra forward
      have apart : first % 4294967296 / perUnit.toNat + timeout.toNat ≤
          now % 4294967296 / perUnit.toNat := by omega
      have ticks := ticks_of_units apart positive
      omega
    refine ⟨?_, back, soon⟩
    by_contra single
    have same : perUnit.toNat = 1 := by omega
    rw [same, Nat.div_one] at late early
    rw [same] at soon
    omega
  · rintro ⟨several, back, soon⟩
    have half : first % 4294967296 / perUnit.toNat ≤ first % 4294967296 / 2 :=
      Nat.div_le_div_left several (by decide)
    exact ⟨by omega, soon⟩

/-! ### Attempts -/

/-- What an attempt answers, and what the clock reads after it. It is read only when the
attempt may be retried. -/
structure Attempt (β : Type w) where
  answer : β
  retryable : Bool
  now : UInt32
deriving DecidableEq, Repr

/-- The readings of the clock after some attempts. -/
def readings (attempts : List (Attempt β)) : List UInt32 :=
  (attempts.filter Attempt.retryable).map Attempt.now

/-- How the attempts end of a loop that returns: all before the last may be retried, before
the deadline, and the last only if the deadline has passed. -/
def Ended (timeout start : UInt32) (attempts : List (Attempt β)) (last : Attempt β) : Prop :=
  ∃ earlier, attempts = earlier ++ [last] ∧
    (∀ attempt ∈ earlier, attempt.retryable = true ∧ attempt.now - start < timeout) ∧
    (last.retryable = true → timeout ≤ last.now - start)

/-! ### The loop -/

/-- A body that makes an attempt, goes around after one that may be retried until the
deadline has passed, and returns the answer of any other. -/
structure Waits (body : σ → Turn σ α) (part : α → β) (attempt : σ → Attempt β)
    (timeout start : UInt32) : Prop where
  early : ∀ s, (attempt s).retryable = true → (attempt s).now - start < timeout →
    ∃ s', body s = .again s'
  late : ∀ s, (attempt s).retryable = true → timeout ≤ (attempt s).now - start →
    ∃ a, body s = .done a
  answers : ∀ s, (attempt s).retryable = false →
    ∃ a, body s = .done a ∧ part a = (attempt s).answer

namespace Waits

variable {body : σ → Turn σ α} {part : α → β} {attempt : σ → Attempt β} {timeout start : UInt32}

theorem of_turn (turn : ∀ s, ∃ a b s', body s =
      (if (attempt s).retryable then
        if timeout ≤ (attempt s).now - start then .done a else .again s'
      else .done b) ∧ part b = (attempt s).answer) :
    Waits body part attempt timeout start := by
  constructor
  · intro s retried early
    obtain ⟨a, b, s', turn, -⟩ := turn s
    exact ⟨s', by rw [turn, if_pos retried, if_neg (UInt32.not_le.mpr early)]⟩
  · intro s retried late
    obtain ⟨a, b, s', turn, -⟩ := turn s
    exact ⟨a, by rw [turn, if_pos retried, if_pos late]⟩
  · intro s other
    obtain ⟨a, b, s', turn, answer⟩ := turn s
    exact ⟨b, by simp [turn, other], answer⟩

theorem again (waits : Waits body part attempt timeout start) {s s' : σ}
    (turn : body s = .again s') :
    (attempt s).retryable = true ∧ (attempt s).now - start < timeout := by
  have retried : (attempt s).retryable = true := by
    by_contra other
    obtain ⟨a, ended, -⟩ := waits.answers s (by simpa using other)
    rw [turn] at ended
    cases ended
  refine ⟨retried, ?_⟩
  by_contra expired
  obtain ⟨a, ended⟩ := waits.late s retried (UInt32.not_lt.mp expired)
  rw [turn] at ended
  cases ended

theorem done (waits : Waits body part attempt timeout start) {s : σ} {a : α}
    (turn : body s = .done a) :
    ((attempt s).retryable = true → timeout ≤ (attempt s).now - start) ∧
      ((attempt s).retryable = false → part a = (attempt s).answer) := by
  constructor
  · intro retried
    by_contra early
    obtain ⟨s', around⟩ := waits.early s retried (UInt32.not_le.mp early)
    rw [turn] at around
    cases around
  · intro other
    obtain ⟨b, ended, answer⟩ := waits.answers s other
    rw [turn] at ended
    cases ended
    exact answer

/-- What a loop returns is the answer of its last attempt, unless that may be retried. -/
theorem ended (waits : Waits body part attempt timeout start) {s : σ} {a : α} {fuel : Nat}
    (ends : loop body fuel s = some a) :
    ∃ last, Ended timeout start ((visits body fuel s).map attempt) last ∧
      (last.retryable = false → part a = last.answer) := by
  obtain ⟨earlier, last, visited, around, final⟩ := visits_of_loop ends
  obtain ⟨expired, answer⟩ := waits.done final
  refine ⟨attempt last, ⟨earlier.map attempt, ?_, ?_, expired⟩, answer⟩
  · rw [visited, List.map_append, List.map_singleton]
  · intro made mem
    obtain ⟨t, before, rfl⟩ := List.mem_map.mp mem
    obtain ⟨t', turn⟩ := around t before
    exact waits.again turn

/-- The fuel left and the time gone by together reach the timeout, and each turn moves at
least one from the first to the second. -/
theorem returns_from (waits : Waits body part attempt timeout start) {s : σ} {reading : UInt32}
    {fuel : Nat} (early : reading - start < timeout)
    (enough : timeout.toNat ≤ (reading - start).toNat + fuel)
    (clock : List.IsChain (Advances timeout)
      (reading :: readings ((visits body fuel s).map attempt))) :
    ∃ a, loop body fuel s = some a := by
  induction fuel generalizing s reading with
  | zero =>
      rw [UInt32.lt_iff_toNat_lt] at early
      omega
  | succ fuel ih =>
      cases turn : body s with
      | done a => exact ⟨a, loop_done turn fuel⟩
      | again s' =>
          obtain ⟨retried, next⟩ := waits.again turn
          have read : readings ((visits body (fuel + 1) s).map attempt) =
              (attempt s).now :: readings ((visits body fuel s').map attempt) := by
            simp [readings, visits_again turn, retried]
          rw [read, List.isChain_cons_cons] at clock
          obtain ⟨advances, clock⟩ := clock
          have elapsed := elapsed_advances early advances
          have least := advances.1
          rw [loop_again turn]
          exact ih next (by omega) clock

/-- A clock that advances ends the loop within as many turns as the timeout has units. -/
theorem returns (waits : Waits body part attempt timeout start) {s : σ} (positive : 0 < timeout)
    {fuel : Nat} (enough : timeout.toNat ≤ fuel)
    (clock : List.IsChain (Advances timeout)
      (start :: readings ((visits body fuel s).map attempt))) :
    ∃ a, loop body fuel s = some a := by
  refine waits.returns_from ?_ ?_ clock
  · simpa using positive
  · simpa using enough

end Waits

end Deadline
