import Mathlib.Data.Nat.Notation
import SmartBusAccess.Semantics.Looping

/-!
Programs that poll a line.

A program meets the hardware at its accesses only: reading the line or the clock, writing to a
port. `Pace` says how long after one access the next one comes; nothing is known of it but that
time goes on and that the lag has a bound. A `Timed` program begins at a time and ends at another,
with a result or an error; `Finishes` is total correctness, and `Finishes.bind` its rule of
composition.

`Pace.wait` polls the line until it has a level or the time is up. It ends when the time is up
(`wait_ends`), and it finds the level when there is time enough and the level lasts for two lags
(`wait_finds`).
-/

namespace Polling

open Looping

variable {ε α β : Type}

/-! ### Programs that take time -/

/-- From the time it begins at to its result and the time it ends at; `none` if it does not
end. -/
abbrev Timed (ε : Type) := ExceptT ε (StateT ℕ Option)

/-- Begun at `now`, the program ends, with a result and at a time as `Q` says. -/
def Finishes (p : Timed ε α) (now : ℕ) (Q : Except ε α → ℕ → Prop) : Prop :=
  ∃ r after, p.run.run now = some (r, after) ∧ Q r after

theorem Finishes.pure {now : ℕ} {Q : Except ε α → ℕ → Prop} (a : α) (here : Q (.ok a) now) :
    Finishes (Pure.pure a) now Q :=
  ⟨.ok a, now, rfl, here⟩

theorem Finishes.throw {now : ℕ} {Q : Except ε α → ℕ → Prop} (e : ε) (here : Q (.error e) now) :
    Finishes (MonadExcept.throw e) now Q :=
  ⟨.error e, now, rfl, here⟩

theorem Finishes.imp {p : Timed ε α} {now : ℕ} {P Q : Except ε α → ℕ → Prop}
    (ends : Finishes p now P) (weaker : ∀ r after, P r after → Q r after) : Finishes p now Q := by
  obtain ⟨r, after, run, holds⟩ := ends
  exact ⟨r, after, run, weaker r after holds⟩

/-- The first program's error is the error of both. -/
theorem Finishes.bind {p : Timed ε α} {f : α → Timed ε β} {now : ℕ} {P : Except ε α → ℕ → Prop}
    {Q : Except ε β → ℕ → Prop} (first : Finishes p now P)
    (fails : ∀ e after, P (.error e) after → Q (.error e) after)
    (goes : ∀ a after, P (.ok a) after → Finishes (f a) after Q) :
    Finishes (p >>= f) now Q := by
  obtain ⟨r, after, run, holds⟩ := first
  cases r with
  | error e =>
      refine ⟨.error e, after, ?_, fails e after holds⟩
      rw [ExceptT.run_bind, StateT.run_bind, run]
      rfl
  | ok a =>
      obtain ⟨r', after', run', holds'⟩ := goes a after holds
      refine ⟨r', after', ?_, holds'⟩
      rw [ExceptT.run_bind, StateT.run_bind, run]
      exact run'

/-- Begun at any time, the program ends within a span, with a value or an error of these. -/
def EndsWithin (p : Timed ε α) (errors : List ε) (span : ℕ) : Prop :=
  ∀ now, Finishes p now fun r after =>
    (∀ e, r = .error e → e ∈ errors) ∧ now ≤ after ∧ after ≤ now + span

section EndsWithin

variable {errors : List ε} {span : ℕ}

theorem EndsWithin.pure (a : α) : EndsWithin (Pure.pure a) errors 0 := by
  intro now
  apply Finishes.pure
  refine ⟨fun e fails => ?_, Nat.le_refl _, Nat.le_refl _⟩
  cases fails

theorem EndsWithin.throw {e : ε} (mem : e ∈ errors) :
    EndsWithin (MonadExcept.throw e : Timed ε α) errors 0 := by
  intro now
  apply Finishes.throw
  refine ⟨fun e' same => ?_, Nat.le_refl _, Nat.le_refl _⟩
  cases same
  exact mem

theorem EndsWithin.mono {p : Timed ε α} {more : ℕ} (ends : EndsWithin p errors span)
    (le : span ≤ more) : EndsWithin p errors more := by
  intro now
  apply (ends now).imp
  rintro r after ⟨known, since, soon⟩
  exact ⟨known, since, by omega⟩

theorem EndsWithin.bind {p : Timed ε α} {f : α → Timed ε β} {more : ℕ}
    (first : EndsWithin p errors span) (later : ∀ a, EndsWithin (f a) errors more) :
    EndsWithin (p >>= f) errors (span + more) := by
  intro now
  refine (first now).bind ?_ ?_
  · rintro e after ⟨known, since, soon⟩
    refine ⟨fun e' same => ?_, since, by omega⟩
    cases same
    exact known e rfl
  · rintro a after ⟨-, since, soon⟩
    apply (later a after).imp
    rintro r after' ⟨known, since', soon'⟩
    exact ⟨known, by omega, by omega⟩

end EndsWithin

/-! ### Lines -/

/-- From `t` on the line goes through the phases, each a level and how long it lasts. -/
def Plays (line : ℕ → Bool) : ℕ → List (Bool × ℕ) → Prop
  | _, [] => True
  | t, (level, ticks) :: rest =>
      (∀ k, t ≤ k → k < t + ticks → line k = level) ∧ Plays line (t + ticks) rest

/-- A line that does so from 0 on, and is high after them. -/
def wave : List (Bool × ℕ) → ℕ → Bool
  | [], _ => true
  | (level, ticks) :: rest, t => if t < ticks then level else wave rest (t - ticks)

theorem plays_wave {line : ℕ → Bool} {begin : ℕ} {phases : List (Bool × ℕ)}
    (follows : ∀ t, begin ≤ t → line t = wave phases (t - begin)) : Plays line begin phases := by
  induction phases generalizing begin with
  | nil => trivial
  | cons phase rest ih =>
      obtain ⟨level, ticks⟩ := phase
      constructor
      · intro k since before
        rw [follows k since, wave, if_pos (by omega)]
      · apply ih
        intro t since
        rw [follows t (by omega), wave, if_neg (by omega), Nat.sub_sub]

/-! ### Accesses -/

/-- When the next access comes after one at `t`. -/
structure Pace where
  next : ℕ → ℕ
  lag : ℕ
  later : ∀ t, t < next t
  soon : ∀ t, next t ≤ t + lag

namespace Pace

variable (pace : Pace)

/-- An access, with what it reads. -/
def access (read : ℕ → α) : Timed ε α := fun now => some (.ok (read now), pace.next now)

theorem access_finishes {read : ℕ → α} {now : ℕ} {Q : Except ε α → ℕ → Prop}
    (here : Q (.ok (read now)) (pace.next now)) : Finishes (pace.access read) now Q :=
  ⟨_, _, rfl, here⟩

theorem access_endsWithin {read : ℕ → α} {errors : List ε} :
    EndsWithin (pace.access read) errors pace.lag := by
  intro now
  apply pace.access_finishes
  refine ⟨fun e fails => ?_, Nat.le_of_lt (pace.later now), pace.soon now⟩
  cases fails

/-! ### Waiting for a level -/

/-- A turn of the wait: look at the line, and if its level is another one, at the clock. -/
def waitTurn (line : ℕ → Bool) (level : Bool) (expired : ℕ → Bool) (now : ℕ) :
    Turn ℕ (Bool × ℕ) :=
  if line now = level then .done (true, pace.next now)
  else if expired (pace.next now) then .done (false, pace.next (pace.next now))
  else .again (pace.next (pace.next now))

/-- Was the level there before the time was up? -/
def wait (line : ℕ → Bool) (level : Bool) (expired : ℕ → Bool) (fuel : ℕ) : Timed ε Bool :=
  fun now => (loop (pace.waitTurn line level expired) fuel now).map fun out => (.ok out.1, out.2)

section Wait

variable {pace} {line : ℕ → Bool} {level : Bool} {expired : ℕ → Bool} {now fuel : ℕ}

theorem waitTurn_again {now' : ℕ} (turn : pace.waitTurn line level expired now = .again now') :
    line now ≠ level ∧ expired (pace.next now) = false ∧ now' = pace.next (pace.next now) := by
  unfold waitTurn at turn
  split at turn
  · cases turn
  · rename_i other
    split at turn
    · cases turn
    · rename_i early
      refine ⟨other, Bool.eq_false_iff.mpr early, ?_⟩
      cases turn
      rfl

theorem waitTurn_done {out : Bool × ℕ} (turn : pace.waitTurn line level expired now = .done out) :
    out = (true, pace.next now) ∧ line now = level ∨
      out = (false, pace.next (pace.next now)) ∧ line now ≠ level ∧
        expired (pace.next now) = true := by
  unfold waitTurn at turn
  split at turn
  · rename_i there
    cases turn
    exact .inl ⟨rfl, there⟩
  · rename_i other
    split at turn
    · rename_i late
      cases turn
      exact .inr ⟨rfl, other, late⟩
    · cases turn

/-- Two accesses take time. -/
theorem next_next_le (t : ℕ) : pace.next (pace.next t) ≤ t + 2 * pace.lag := by
  have first := pace.soon t
  have second := pace.soon (pace.next t)
  omega

theorem lt_next_next (t : ℕ) : t + 2 ≤ pace.next (pace.next t) := by
  have first := pace.later t
  have second := pace.later (pace.next t)
  omega

/-- Whatever the line does: when the time is up for two lags, the wait ends. -/
theorem wait_ends {limit : ℕ} (begun : now < limit + pace.lag)
    (up : ∀ t, limit ≤ t → t < limit + 2 * pace.lag → expired t = true)
    (enough : limit + pace.lag - now < fuel) :
    Finishes (pace.wait line level expired fuel : Timed ε Bool) now fun r after =>
      (∃ found, r = .ok found) ∧ now < after ∧ after ≤ limit + 3 * pace.lag := by
  -- no turn begins later than a lag after the limit
  have keeps : ∀ s s', now ≤ s ∧ s < limit + pace.lag →
      pace.waitTurn line level expired s = .again s' → now ≤ s' ∧ s' < limit + pace.lag := by
    rintro s s' ⟨since, early⟩ turn
    obtain ⟨-, notUp, rfl⟩ := waitTurn_again turn
    have first := pace.soon s
    have second := pace.soon (pace.next s)
    have longer := pace.lt_next_next s
    refine ⟨by omega, ?_⟩
    rcases Nat.lt_or_ge (pace.next s) limit with soon | late
    · omega
    · have isUp := up (pace.next s) late (by omega)
      rw [isUp] at notUp
      cases notUp
  have falls : ∀ s s', now ≤ s ∧ s < limit + pace.lag →
      pace.waitTurn line level expired s = .again s' →
      limit + pace.lag - s' < limit + pace.lag - s := by
    rintro s s' inv turn
    obtain ⟨-, -, rfl⟩ := waitTurn_again turn
    have longer := pace.lt_next_next s
    omega
  obtain ⟨out, ends⟩ := loop_returns (fun s => now ≤ s ∧ s < limit + pace.lag)
    (fun s => limit + pace.lag - s) keeps falls ⟨Nat.le_refl now, begun⟩ enough
  obtain ⟨last, ⟨since, early⟩, turn⟩ := loop_ends _ keeps ⟨Nat.le_refl _, begun⟩ ends
  refine ⟨.ok out.1, out.2, ?_, ⟨out.1, rfl⟩, ?_⟩
  · show (loop _ _ _).map _ = _
    rw [ends]
    rfl
  · have first := pace.later last
    have lag := pace.soon last
    have longer := pace.lt_next_next last
    have shorter := pace.next_next_le last
    rcases waitTurn_done turn with ⟨rfl, -⟩ | ⟨rfl, -, -⟩
    · exact ⟨by dsimp only; omega, by dsimp only; omega⟩
    · exact ⟨by dsimp only; omega, by dsimp only; omega⟩

/-- The line has the level from `edge` on, for two lags, and there is time enough: the wait ends
with the access after the one that found it. -/
theorem wait_finds {edge : ℕ} (begun : now < edge + 2 * pace.lag)
    (before : ∀ t, now ≤ t → t < edge → line t ≠ level)
    (there : ∀ t, edge ≤ t → t < edge + 2 * pace.lag → line t = level)
    (time : ∀ t, now ≤ t → t < edge + pace.lag → expired t = false)
    (enough : edge - now < fuel) :
    Finishes (pace.wait line level expired fuel : Timed ε Bool) now fun r after =>
      r = .ok true ∧ edge < after ∧ now < after ∧ after < edge + 3 * pace.lag := by
  -- a turn before the edge goes around, and no turn begins later than two lags after it
  have around : ∀ s, now ≤ s → s < edge →
      pace.waitTurn line level expired s = .again (pace.next (pace.next s)) := by
    intro s since early
    have first := pace.later s
    have lag := pace.soon s
    rw [waitTurn, if_neg (before s since early), time (pace.next s) (by omega) (by omega)]
    rfl
  have found : ∀ s, edge ≤ s → s < edge + 2 * pace.lag →
      pace.waitTurn line level expired s = .done (true, pace.next s) := by
    intro s since early
    rw [waitTurn, if_pos (there s since early)]
  have keeps : ∀ s s', now ≤ s ∧ s < edge + 2 * pace.lag →
      pace.waitTurn line level expired s = .again s' → now ≤ s' ∧ s' < edge + 2 * pace.lag := by
    rintro s s' ⟨since, early⟩ turn
    by_cases past : edge ≤ s
    · rw [found s past early] at turn
      cases turn
    · obtain ⟨-, -, rfl⟩ := waitTurn_again turn
      have longer := pace.lt_next_next s
      have shorter := pace.next_next_le s
      omega
  have falls : ∀ s s', now ≤ s ∧ s < edge + 2 * pace.lag →
      pace.waitTurn line level expired s = .again s' → edge - s' < edge - s := by
    rintro s s' ⟨since, early⟩ turn
    by_cases past : edge ≤ s
    · rw [found s past early] at turn
      cases turn
    · obtain ⟨-, -, rfl⟩ := waitTurn_again turn
      have longer := pace.lt_next_next s
      omega
  obtain ⟨out, ends⟩ := loop_returns (fun s => now ≤ s ∧ s < edge + 2 * pace.lag)
    (fun s => edge - s) keeps falls ⟨Nat.le_refl now, begun⟩ enough
  obtain ⟨last, ⟨since, early⟩, turn⟩ := loop_ends _ keeps ⟨Nat.le_refl _, begun⟩ ends
  have past : edge ≤ last := by
    rcases Nat.lt_or_ge last edge with sooner | past
    · rw [around last since sooner] at turn
      cases turn
    · exact past
  rw [found last past early] at turn
  cases turn
  have first := pace.later last
  have lag := pace.soon last
  refine ⟨.ok true, pace.next last, ?_, rfl, by omega, by omega, by omega⟩
  show (loop _ _ _).map _ = _
  rw [ends]
  rfl

end Wait

end Pace

end Polling
