/-!
Loops without a bound of their own.

The body of a `for (;;)` either goes around again or returns. `loop` runs it with
fuel, and gives `none` when the fuel is used up; more fuel never changes a result
(`loop_mono`). What it returns is what the last turn it comes to returns
(`loop_iff_comes`, `visits_of_loop`). `loop_follows` compares two loops that walk in step: the
one that returns decides whether the other does.
-/

namespace Looping

universe u v w x

variable {σ : Type u} {α : Type v} {τ : Type w} {β : Type x}

/-- What one turn of a body does. -/
inductive Turn (σ : Type u) (α : Type v) where
  | again (s : σ)
  | done (a : α)

def loop (body : σ → Turn σ α) : Nat → σ → Option α
  | 0, _ => none
  | fuel + 1, s =>
      match body s with
      | .again s => loop body fuel s
      | .done a => some a

variable {body : σ → Turn σ α} {other : τ → Turn τ β}

theorem loop_again {s s' : σ} (turn : body s = .again s') (fuel : Nat) :
    loop body (fuel + 1) s = loop body fuel s' := by
  simp [loop, turn]

theorem loop_done {s : σ} {a : α} (turn : body s = .done a) (fuel : Nat) :
    loop body (fuel + 1) s = some a := by
  simp [loop, turn]

theorem loop_congr {s t : σ} (turn : body s = body t) (fuel : Nat) :
    loop body fuel s = loop body fuel t := by
  cases fuel with
  | zero => rfl
  | succ fuel => simp only [loop, turn]

theorem loop_mono {s : σ} {a : α} {n m : Nat} (le : n ≤ m) (ends : loop body n s = some a) :
    loop body m s = some a := by
  induction n generalizing m s with
  | zero => simp [loop] at ends
  | succ n ih =>
      obtain ⟨m, rfl⟩ : ∃ k, m = k + 1 := ⟨m - 1, by omega⟩
      cases turn : body s with
      | again s' =>
          rw [loop_again turn] at ends ⊢
          exact ih (by omega) ends
      | done a' =>
          rw [loop_done turn] at ends ⊢
          exact ends

/-- A loop has one result. -/
theorem loop_unique {s : σ} {a b : α} {n m : Nat} (first : loop body n s = some a)
    (second : loop body m s = some b) : a = b := by
  have here := loop_mono (Nat.le_max_left n m) first
  have there := loop_mono (Nat.le_max_right n m) second
  exact Option.some.inj (here.symm.trans there)

/-- What every turn keeps is there at the last one. -/
theorem loop_ends (Inv : σ → Prop) (keeps : ∀ s s', Inv s → body s = .again s' → Inv s')
    {s : σ} {a : α} {n : Nat} (initial : Inv s) (ends : loop body n s = some a) :
    ∃ last, Inv last ∧ body last = .done a := by
  induction n generalizing s with
  | zero => simp [loop] at ends
  | succ n ih =>
      cases turn : body s with
      | again s' =>
          rw [loop_again turn] at ends
          exact ih (keeps s s' initial turn) ends
      | done b =>
          rw [loop_done turn] at ends
          exact ⟨s, initial, by rw [turn, Option.some.inj ends]⟩

/-- The states a loop comes to, at the start of its turns. -/
inductive Comes (body : σ → Turn σ α) (s : σ) : σ → Prop where
  | here : Comes body s s
  | on {t t' : σ} (came : Comes body s t) (turn : body t = .again t') : Comes body s t'

theorem Comes.loop {s t : σ} (came : Comes body s t) (fuel : Nat) :
    ∃ n, loop body n s = Looping.loop body fuel t := by
  induction came generalizing fuel with
  | here => exact ⟨fuel, rfl⟩
  | on _ turn ih =>
      obtain ⟨n, same⟩ := ih (fuel + 1)
      exact ⟨n, same.trans (loop_again turn fuel)⟩

/-- What a loop returns is what some turn it comes to returns. -/
theorem loop_iff_comes {s : σ} {a : α} :
    (∃ n, loop body n s = some a) ↔ ∃ t, Comes body s t ∧ body t = .done a := by
  constructor
  · rintro ⟨n, ends⟩
    exact loop_ends (Comes body s) (fun _ _ came turn => .on came turn) .here ends
  · rintro ⟨t, came, turn⟩
    obtain ⟨n, same⟩ := came.loop 1
    exact ⟨n, same.trans (loop_done turn 0)⟩

/-- The same for a part of the result. -/
theorem loop_map_iff_comes {s : σ} (part : α → β) (b : β) :
    (∃ n, (loop body n s).map part = some b) ↔
      ∃ t, Comes body s t ∧ ∃ a, body t = .done a ∧ part a = b := by
  constructor
  · rintro ⟨n, ends⟩
    obtain ⟨a, ends, same⟩ := Option.map_eq_some_iff.mp ends
    obtain ⟨t, came, turn⟩ := loop_iff_comes.mp ⟨n, ends⟩
    exact ⟨t, came, a, turn, same⟩
  · rintro ⟨t, came, a, turn, same⟩
    obtain ⟨n, ends⟩ := loop_iff_comes.mpr ⟨t, came, turn⟩
    exact ⟨n, by rw [ends, Option.map_some, same]⟩

/-- The states at the start of the turns that a loop makes. -/
def visits (body : σ → Turn σ α) : Nat → σ → List σ
  | 0, _ => []
  | fuel + 1, s =>
      s :: match body s with
        | .again s' => visits body fuel s'
        | .done _ => []

theorem visits_again {s s' : σ} (turn : body s = .again s') (fuel : Nat) :
    visits body (fuel + 1) s = s :: visits body fuel s' := by
  simp [visits, turn]

theorem visits_done {s : σ} {a : α} (turn : body s = .done a) (fuel : Nat) :
    visits body (fuel + 1) s = [s] := by
  simp [visits, turn]

/-- A loop that returns does so in its last turn. -/
theorem visits_of_loop {s : σ} {a : α} {fuel : Nat} (ends : loop body fuel s = some a) :
    ∃ earlier last, visits body fuel s = earlier ++ [last] ∧
      (∀ t ∈ earlier, ∃ t', body t = .again t') ∧ body last = .done a := by
  induction fuel generalizing s with
  | zero => simp [loop] at ends
  | succ fuel ih =>
      cases turn : body s with
      | again s' =>
          rw [loop_again turn] at ends
          obtain ⟨earlier, last, visited, around, final⟩ := ih ends
          refine ⟨s :: earlier, last, ?_, ?_, final⟩
          · rw [visits_again turn, visited, List.cons_append]
          · intro t mem
            rcases List.mem_cons.mp mem with rfl | mem
            · exact ⟨s', turn⟩
            · exact around t mem
      | done b =>
          rw [loop_done turn] at ends
          refine ⟨[], s, visits_done turn fuel, by simp, ?_⟩
          rw [turn, Option.some.inj ends]

/-- A loop that can go around only so often returns. -/
theorem loop_returns (Inv : σ → Prop) (measure : σ → Nat)
    (keeps : ∀ s s', Inv s → body s = .again s' → Inv s')
    (falls : ∀ s s', Inv s → body s = .again s' → measure s' < measure s) {s : σ} {fuel : Nat}
    (initial : Inv s) (enough : measure s < fuel) : ∃ a, loop body fuel s = some a := by
  induction fuel generalizing s with
  | zero => omega
  | succ fuel ih =>
      cases turn : body s with
      | again s' =>
          have less := falls s s' initial turn
          rw [loop_again turn]
          exact ih (keeps s s' initial turn) (by omega)
      | done a => exact ⟨a, loop_done turn fuel⟩

/-- How one loop walks beside another: it goes around when the other does, and
when the other returns it answers in kind, unless the answer is `Bad`, which it
never matches. -/
def Beside (body : σ → Turn σ α) (other : τ → Turn τ β) (R : σ → τ → Prop)
    (Match : α → β → Prop) (Bad : α → Prop) (s : σ) (t : τ) : Prop :=
  match body s with
  | .again s' => ∃ t', other t = .again t' ∧ R s' t'
  | .done a =>
      (¬ Bad a → ∃ b, other t = .done b ∧ Match a b) ∧
        (Bad a → ∀ m b, loop other m t = some b → ¬ Match a b)

section Beside

variable {R : σ → τ → Prop} {Match : α → β → Prop} {Bad : α → Prop} {s : σ} {t : τ}

theorem Beside.again {s' : σ} {t' : τ} (turn : body s = .again s') (turn' : other t = .again t')
    (next : R s' t') : Beside body other R Match Bad s t := by
  simpa only [Beside, turn] using ⟨t', turn', next⟩

theorem Beside.done {a : α} {b : β} (turn : body s = .done a) (turn' : other t = .done b)
    (good : ¬ Bad a) (agrees : Match a b) : Beside body other R Match Bad s t := by
  simp only [Beside, turn]
  exact ⟨fun _ => ⟨b, turn', agrees⟩, fun bad => absurd bad good⟩

theorem Beside.never {a : α} (turn : body s = .done a) (bad : Bad a)
    (never : ∀ m b, loop other m t = some b → ¬ Match a b) : Beside body other R Match Bad s t := by
  simp only [Beside, turn]
  constructor
  · intro good
    exact absurd bad good
  · intro _
    exact never

end Beside

theorem loop_follows {R : σ → τ → Prop} {Match : α → β → Prop} {Bad : α → Prop}
    (beside : ∀ s t, R s t → Beside body other R Match Bad s t) {s : σ} {t : τ} {a : α} {n : Nat}
    (initial : R s t) (ends : loop body n s = some a) :
    (∃ m b, loop other m t = some b ∧ Match a b) ↔ ¬ Bad a := by
  induction n generalizing s t with
  | zero => simp [loop] at ends
  | succ n ih =>
      have here := beside s t initial
      cases turn : body s with
      | again s' =>
          rw [loop_again turn] at ends
          obtain ⟨t', turn', next⟩ : ∃ t', other t = .again t' ∧ R s' t' := by
            simpa only [Beside, turn] using here
          rw [← ih next ends]
          constructor
          · rintro ⟨m, b, found, agrees⟩
            cases m with
            | zero => simp [loop] at found
            | succ m => exact ⟨m, b, (loop_again turn' m).symm.trans found, agrees⟩
          · rintro ⟨m, b, found, agrees⟩
            exact ⟨m + 1, b, (loop_again turn' m).trans found, agrees⟩
      | done a' =>
          rw [loop_done turn] at ends
          obtain rfl := Option.some.inj ends
          obtain ⟨good, bad⟩ :
              (¬ Bad a' → ∃ b, other t = .done b ∧ Match a' b) ∧
                (Bad a' → ∀ m b, loop other m t = some b → ¬ Match a' b) := by
            simpa only [Beside, turn] using here
          constructor
          · rintro ⟨m, b, found, agrees⟩ isBad
            exact bad isBad m b found agrees
          · intro notBad
            obtain ⟨b, turn', agrees⟩ := good notBad
            exact ⟨1, b, loop_done turn' 0, agrees⟩

end Looping
