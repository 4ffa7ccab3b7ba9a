import Mathlib.Logic.Relation
import Mathlib.Data.List.Basic

/-!
Finite runs of deterministic machines.

A machine is a step function on a state type; a run feeds it a finite input
list. `run` is the final state, `outputs` the list of what each step returned.
The rules below are the inductions every safety argument over runs needs:

* `run_invariant`: what one step preserves, every run preserves;
* `run_while`: the same, as long as every step's output is allowed;
* `outputs_while`: what each allowed step says about its own output;
* `run_history`: what ties a state to what has happened so far;
* `outputs_agree`: two machines in step, by what their outputs have in common;
* `forall_steps_iff`: two descriptions of a step that agree under an invariant
  agree on every step of a run;
* `forall_steps_iff_given`: the same, with an invariant that only the steps of
  one of the descriptions preserve, where more is given at each step;
  `forall_steps_iff_among` for some inputs only, `forall_steps_iff_while` for all;
* `forall_steps_project`: what is kept beside a run does not change it;
* `run_simulates`: step-wise simulation by a relation lifts to runs.
-/

namespace Runs

universe u v w

variable {State : Type u} {Input : Type v} {Output : Type w}

/-- The state after a finite input sequence. -/
def run (next : State → Input → State) (s : State) (inputs : List Input) : State :=
  inputs.foldl next s

@[simp] theorem run_nil (next : State → Input → State) (s : State) : run next s [] = s := rfl

@[simp] theorem run_cons (next : State → Input → State) (s : State) (i : Input)
    (rest : List Input) : run next s (i :: rest) = run next (next s i) rest := rfl

theorem run_append (next : State → Input → State) (s : State) (front back : List Input) :
    run next s (front ++ back) = run next (run next s front) back :=
  List.foldl_append

/-- What one step preserves holds after every run. -/
theorem run_invariant {next : State → Input → State} (Inv : State → Prop)
    (preserves : ∀ s i, Inv s → Inv (next s i)) {s : State} (initial : Inv s)
    (inputs : List Input) : Inv (run next s inputs) := by
  induction inputs generalizing s with
  | nil => exact initial
  | cons i rest ih => exact ih (preserves s i initial)

/-- The outputs of the steps of a run, in order. -/
def outputs (step : State → Input → State × Output) : State → List Input → List Output
  | _, [] => []
  | s, i :: rest => (step s i).2 :: outputs step (step s i).1 rest

/-- The state part of a step. -/
def next (step : State → Input → State × Output) (s : State) (i : Input) : State := (step s i).1

@[simp] theorem length_outputs (step : State → Input → State × Output) (s : State)
    (inputs : List Input) : (outputs step s inputs).length = inputs.length := by
  induction inputs generalizing s with
  | nil => rfl
  | cons i rest ih => simp [outputs, ih]

theorem outputs_append (step : State → Input → State × Output) (s : State)
    (front back : List Input) :
    outputs step s (front ++ back) =
      outputs step s front ++ outputs step (run (next step) s front) back := by
  induction front generalizing s with
  | nil => rfl
  | cons i rest ih => simp [outputs, ih, next]

/-- The step that produced an output, with the inputs before and after it. -/
theorem outputs_getElem? {step : State → Input → State × Output} {s : State}
    {inputs : List Input} {n : Nat} {o : Output} (found : (outputs step s inputs)[n]? = some o) :
    ∃ front i back, inputs = front ++ i :: back ∧ front.length = n ∧
      o = (step (run (next step) s front) i).2 := by
  induction inputs generalizing s n with
  | nil => simp [outputs] at found
  | cons i rest ih =>
      cases n with
      | zero =>
          have first : (step s i).2 = o := by simpa [outputs] using found
          exact ⟨[], i, rest, rfl, rfl, first.symm⟩
      | succ n =>
          have later : (outputs step (step s i).1 rest)[n]? = some o := by
            simpa [outputs] using found
          obtain ⟨front, j, back, rfl, rfl, emitted⟩ := ih later
          exact ⟨i :: front, j, back, rfl, rfl, emitted⟩

section While

variable {step : State → Input → State × Output} (Inv : State → Prop) (Allowed : Output → Prop)

/-- An invariant that only the allowed steps preserve holds after every run
whose outputs are all allowed. -/
theorem run_while
    (preserves : ∀ s i, Inv s → Allowed (step s i).2 → Inv (step s i).1)
    {s : State} (initial : Inv s) (inputs : List Input)
    (allowed : ∀ o ∈ outputs step s inputs, Allowed o) :
    Inv (run (next step) s inputs) := by
  induction inputs generalizing s with
  | nil => exact initial
  | cons i rest ih =>
      have first : Allowed (step s i).2 := allowed _ List.mem_cons_self
      exact ih (preserves s i initial first) fun o mem => allowed o (List.mem_cons_of_mem _ mem)

/-- In such a run every output has the property the invariant gives it. -/
theorem outputs_while (Good : Output → Prop)
    (preserves : ∀ s i, Inv s → Allowed (step s i).2 → Inv (step s i).1)
    (emits : ∀ s i, Inv s → Allowed (step s i).2 → Good (step s i).2)
    {s : State} (initial : Inv s) (inputs : List Input)
    (allowed : ∀ o ∈ outputs step s inputs, Allowed o) :
    ∀ o ∈ outputs step s inputs, Good o := by
  induction inputs generalizing s with
  | nil => simp [outputs]
  | cons i rest ih =>
      have first : Allowed (step s i).2 := allowed _ List.mem_cons_self
      intro o mem
      rcases List.mem_cons.mp mem with rfl | later
      · exact emits s i initial first
      · exact ih (preserves s i initial first)
          (fun o mem => allowed o (List.mem_cons_of_mem _ mem)) o later

end While

/-- Two machines in step whose outputs agree at each step. -/
theorem outputs_agree {State' : Type u} {Output' : Type w} {Common : Type w}
    {step : State → Input → State × Output} {step' : State' → Input → State' × Output'}
    (R : State → State' → Prop) (part : Output → Common) (part' : Output' → Common)
    (agrees : ∀ s t i, R s t → R (step s i).1 (step' t i).1 ∧
      part (step s i).2 = part' (step' t i).2) {s : State} {t : State'} (initial : R s t)
    (inputs : List Input) :
    (outputs step s inputs).map part = (outputs step' t inputs).map part' := by
  induction inputs generalizing s t with
  | nil => rfl
  | cons i rest ih =>
      obtain ⟨next, same⟩ := agrees s t i initial
      simp only [outputs, List.map_cons, same, ih next]

section Steps

variable {next : State → Input → State}

/-- The steps of a run: each state and the input it meets there. -/
def steps (next : State → Input → State) : State → List Input → List (State × Input)
  | _, [] => []
  | s, i :: rest => (s, i) :: steps next (next s i) rest

theorem steps_invariant (Inv : State → Prop) (preserves : ∀ s i, Inv s → Inv (next s i))
    {s : State} (initial : Inv s) (inputs : List Input) : ∀ p ∈ steps next s inputs, Inv p.1 := by
  induction inputs generalizing s with
  | nil => simp [steps]
  | cons i rest ih =>
      intro p mem
      rcases List.mem_cons.mp mem with rfl | later
      · exact initial
      · exact ih (preserves s i initial) p later

theorem steps_append (s : State) (front back : List Input) :
    steps next s (front ++ back) = steps next s front ++ steps next (run next s front) back := by
  induction front generalizing s with
  | nil => rfl
  | cons i rest ih => simp only [List.cons_append, steps, ih, run_cons]

/-- What ties a state to what has happened so far, if every step keeps it with what it adds. -/
theorem run_history {Event : Type w} (Tied : State → List Event → Prop)
    (note : State → Input → List Event)
    (keeps : ∀ s past i, Tied s past → Tied (next s i) (past ++ note s i)) {s : State}
    {past : List Event} (initial : Tied s past) (inputs : List Input) :
    Tied (run next s inputs) (past ++ (steps next s inputs).flatMap fun p => note p.1 p.2) := by
  induction inputs generalizing s past with
  | nil => simpa [steps] using initial
  | cons i rest ih =>
      rw [run_cons, steps, List.flatMap_cons, ← List.append_assoc]
      exact ih (keeps s past i initial)

/-- What every step of some kind preserves holds after a run of such steps. -/
theorem run_invariant_among (Inv : State → Prop) {Q : State → Input → Prop}
    (preserves : ∀ s i, Inv s → Q s i → Inv (next s i)) {s : State} (initial : Inv s)
    (inputs : List Input) (among : ∀ p ∈ steps next s inputs, Q p.1 p.2) :
    Inv (run next s inputs) := by
  induction inputs generalizing s with
  | nil => exact initial
  | cons i rest ih =>
      simp only [steps, List.forall_mem_cons] at among
      exact ih (preserves s i initial among.1) among.2

/-- It holds before each of them. -/
theorem steps_invariant_among (Inv : State → Prop) {Q : State → Input → Prop}
    (preserves : ∀ s i, Inv s → Q s i → Inv (next s i)) {s : State} (initial : Inv s)
    (inputs : List Input) (among : ∀ p ∈ steps next s inputs, Q p.1 p.2) :
    ∀ p ∈ steps next s inputs, Inv p.1 := by
  induction inputs generalizing s with
  | nil => simp [steps]
  | cons i rest ih =>
      simp only [steps, List.forall_mem_cons] at among ⊢
      exact ⟨initial, ih (preserves s i initial among.1) among.2⟩

/-- Under an invariant, two descriptions of a step that agree there agree on runs. -/
theorem forall_steps_iff (Inv : State → Prop) (preserves : ∀ s i, Inv s → Inv (next s i))
    {P Q : State → Input → Prop} (each : ∀ s i, Inv s → (P s i ↔ Q s i))
    {s : State} (initial : Inv s) (inputs : List Input) :
    (∀ p ∈ steps next s inputs, P p.1 p.2) ↔ ∀ p ∈ steps next s inputs, Q p.1 p.2 := by
  have inv := steps_invariant Inv preserves initial inputs
  exact forall₂_congr fun p mem => each p.1 p.2 (inv p mem)

/-- In a run whose outputs are all allowed, every step has the property that the
invariant and its own output give it. -/
theorem steps_while {step : State → Input → State × Output} (Inv : State → Prop)
    (Allowed : Output → Prop) (Good : State → Input → Prop)
    (preserves : ∀ s i, Inv s → Allowed (step s i).2 → Inv (step s i).1)
    (each : ∀ s i, Inv s → Allowed (step s i).2 → Good s i)
    {s : State} (initial : Inv s) (inputs : List Input)
    (allowed : ∀ o ∈ outputs step s inputs, Allowed o) :
    ∀ p ∈ steps (Runs.next step) s inputs, Good p.1 p.2 := by
  induction inputs generalizing s with
  | nil => simp [steps]
  | cons i rest ih =>
      have first : Allowed (step s i).2 := allowed _ List.mem_cons_self
      intro p mem
      rcases List.mem_cons.mp mem with rfl | later
      · exact each s i initial first
      · exact ih (preserves s i initial first)
          (fun o mem => allowed o (List.mem_cons_of_mem _ mem)) p later

theorem mem_steps_last (next : State → Input → State) (s : State) (front : List Input) (i : Input) :
    (run next s front, i) ∈ steps next s (front ++ [i]) := by
  rw [steps_append]
  exact List.mem_append_right _ List.mem_cons_self

theorem mem_of_mem_steps {s : State} {inputs : List Input} {p : State × Input}
    (mem : p ∈ steps next s inputs) : p.2 ∈ inputs := by
  induction inputs generalizing s with
  | nil => cases mem
  | cons i rest ih =>
      rcases List.mem_cons.mp mem with rfl | later
      · exact List.mem_cons_self
      · exact List.mem_cons_of_mem i (ih later)

/-- If each input is read into what the state shows next, consecutive readings are compared
step by step. -/
theorem steps_ordered {Reading : Type w} {r : Reading → Reading → Prop} (shown : State → Reading)
    (read : Input → Reading) (reads : ∀ s i, shown (next s i) = read i) {s : State}
    {inputs : List Input} (ordered : List.IsChain r (shown s :: inputs.map read)) :
    ∀ p ∈ steps next s inputs, r (shown p.1) (read p.2) := by
  induction inputs generalizing s with
  | nil => simp [steps]
  | cons i rest ih =>
      obtain ⟨first, later⟩ := List.isChain_cons_cons.mp ordered
      intro p mem
      rcases List.mem_cons.mp mem with rfl | within
      · exact first
      · exact ih (by rwa [reads]) p within

/-- A run beside which more is kept is still that run. -/
theorem forall_steps_project {State' : Type w} {next' : State' → Input → State'}
    (abs : State → State') (commutes : ∀ s i, abs (next s i) = next' (abs s) i)
    {P : State' → Input → Prop} (s : State) (inputs : List Input) :
    (∀ p ∈ steps next' (abs s) inputs, P p.1 p.2) ↔
      ∀ p ∈ steps next s inputs, P (abs p.1) p.2 := by
  induction inputs generalizing s with
  | nil => simp [steps]
  | cons i rest ih =>
      simp only [steps, List.forall_mem_cons]
      rw [← commutes, ih]

/-- In a run where what is given holds at each step, every step satisfies `P` if and only if
every step satisfies `Q`, if the two agree wherever `Q` has held so far. -/
theorem forall_steps_iff_given (Inv : State → Prop) (Given : State → Input → Prop)
    {P Q : State → Input → Prop}
    (preserves : ∀ s i, Inv s → Given s i → Q s i → Inv (next s i))
    (each : ∀ s i, Inv s → Given s i → (P s i ↔ Q s i)) {s : State} (initial : Inv s)
    (inputs : List Input) (given : ∀ p ∈ steps next s inputs, Given p.1 p.2) :
    (∀ p ∈ steps next s inputs, P p.1 p.2) ↔ ∀ p ∈ steps next s inputs, Q p.1 p.2 := by
  induction inputs generalizing s with
  | nil => simp [steps]
  | cons i rest ih =>
      obtain ⟨now, after⟩ := List.forall_mem_cons.mp given
      simp only [steps, List.forall_mem_cons]
      constructor
      · rintro ⟨first, later⟩
        have here := (each s i initial now).mp first
        exact ⟨here, (ih (preserves s i initial now here) after).mp later⟩
      · rintro ⟨here, later⟩
        have kept := preserves s i initial now here
        exact ⟨(each s i initial now).mpr here, (ih kept after).mpr later⟩

/-- The same in a run of allowed inputs. -/
theorem forall_steps_iff_among (Inv : State → Prop) (Allowed : Input → Prop)
    {P Q : State → Input → Prop}
    (preserves : ∀ s i, Inv s → Allowed i → Q s i → Inv (next s i))
    (each : ∀ s i, Inv s → Allowed i → (P s i ↔ Q s i)) {s : State} (initial : Inv s)
    (inputs : List Input) (allowed : ∀ i ∈ inputs, Allowed i) :
    (∀ p ∈ steps next s inputs, P p.1 p.2) ↔ ∀ p ∈ steps next s inputs, Q p.1 p.2 :=
  forall_steps_iff_given Inv (fun _ => Allowed) preserves each initial inputs
    fun p mem => allowed p.2 (mem_of_mem_steps mem)

/-- The same, where every input is allowed. -/
theorem forall_steps_iff_while (Inv : State → Prop) {P Q : State → Input → Prop}
    (preserves : ∀ s i, Inv s → Q s i → Inv (next s i))
    (each : ∀ s i, Inv s → (P s i ↔ Q s i)) {s : State} (initial : Inv s) (inputs : List Input) :
    (∀ p ∈ steps next s inputs, P p.1 p.2) ↔ ∀ p ∈ steps next s inputs, Q p.1 p.2 :=
  forall_steps_iff_among Inv (fun _ => True) (fun s i inv _ => preserves s i inv)
    (fun s i inv _ => each s i inv) initial inputs fun _ _ => trivial

end Steps

section Simulation

variable {Abstract : Type w} {next : State → Input → State} (abs : State → Abstract)
  (Good : State → Prop) {Step : Abstract → Abstract → Prop}

/-- If every step from a good state is matched by finitely many abstract steps
and stays good, so is every run. -/
theorem run_simulates
    (simulates : ∀ s i, Good s →
      Good (next s i) ∧ Relation.ReflTransGen Step (abs s) (abs (next s i)))
    {s : State} (initial : Good s) (inputs : List Input) :
    Good (run next s inputs) ∧
      Relation.ReflTransGen Step (abs s) (abs (run next s inputs)) := by
  induction inputs generalizing s with
  | nil => exact ⟨initial, .refl⟩
  | cons i rest ih =>
      obtain ⟨good, front⟩ := simulates s i initial
      obtain ⟨last, back⟩ := ih good
      exact ⟨last, front.trans back⟩

end Simulation

/-- What an abstract step preserves holds of everything reachable. -/
theorem reachable_invariant {Abstract : Type u} {Step : Abstract → Abstract → Prop}
    (Inv : Abstract → Prop) (preserves : ∀ a b, Inv a → Step a b → Inv b)
    {a b : Abstract} (initial : Inv a) (path : Relation.ReflTransGen Step a b) : Inv b := by
  induction path with
  | refl => exact initial
  | tail _ last ih => exact preserves _ _ ih last

end Runs
