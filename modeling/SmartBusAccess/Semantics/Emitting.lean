import Mathlib.Data.List.Basic

/-!
Stages that change a state and report events.

A stage is a function from a state to a state and a list of events; `andThen` runs
two of them and joins their reports. `Triple P stage Q R` is their Hoare triple: from
a state with `P` the stage reaches one with `Q`, and every event it reports has `R`.

A ghost is a component of the state that no stage looks at. `noting` adds one to a
stage: it says how the stage changes the ghost, and labels each event with the ghost
at that time. `Erases` says that a stage with a ghost does what a stage without one
does; sequences keep it.
-/

namespace Emitting

universe u v w

variable {S : Type u} {E : Type v} {G : Type w}

/-- One stage, then another. -/
def andThen (first second : S → S × List E) (s : S) : S × List E :=
  ((second (first s).1).1, (first s).2 ++ (second (first s).1).2)

/-! ### Triples -/

/-- From `P` to `Q`, with nothing but `R` reported. -/
def Triple (P : S → Prop) (stage : S → S × List E) (Q : S → Prop) (R : E → Prop) : Prop :=
  ∀ s, P s → Q (stage s).1 ∧ ∀ e ∈ (stage s).2, R e

section Rules

variable {P Q Q' : S → Prop} {R : E → Prop} {first second : S → S × List E}

theorem Triple.andThen (here : Triple P first Q R) (later : Triple Q second Q' R) :
    Triple P (andThen first second) Q' R := by
  intro s holds
  obtain ⟨between, front⟩ := here s holds
  obtain ⟨after, back⟩ := later _ between
  refine ⟨after, ?_⟩
  intro e mem
  rcases List.mem_append.mp mem with early | late
  · exact front e early
  · exact back e late

/-- A stage that reports nothing. -/
theorem Triple.silent {f : S → S} (change : ∀ s, P s → Q (f s)) :
    Triple P (fun s => (f s, [])) Q R := by
  intro s holds
  exact ⟨change s holds, by simp⟩

end Rules

/-! ### Histories -/

/-- From `P` to `Q`, both of what has been reported so far and of the state. -/
def Upholds (P : List E → S → Prop) (stage : S → S × List E) (Q : List E → S → Prop) : Prop :=
  ∀ past s, P past s → Q (past ++ (stage s).2) (stage s).1

section Upholds

variable {P Q Q' : List E → S → Prop} {first second : S → S × List E}

theorem Upholds.andThen (here : Upholds P first Q) (later : Upholds Q second Q') :
    Upholds P (andThen first second) Q' := by
  intro past s holds
  have after := later _ _ (here past s holds)
  rw [List.append_assoc] at after
  exact after

theorem Upholds.silent {f : S → S} (change : ∀ past s, P past s → Q past (f s)) :
    Upholds P (fun s => (f s, [])) Q := by
  intro past s holds
  rw [List.append_nil]
  exact change past s holds

/-- A triple says the same of each event. -/
theorem Triple.upholds {P Q : S → Prop} {R : E → Prop} (triple : Triple P first Q R) :
    Upholds (fun past s => P s ∧ ∀ e ∈ past, R e) first (fun past s => Q s ∧ ∀ e ∈ past, R e) := by
  rintro past s ⟨holds, old⟩
  obtain ⟨after, new⟩ := triple s holds
  refine ⟨after, ?_⟩
  intro e mem
  rcases List.mem_append.mp mem with early | late
  · exact old e early
  · exact new e late

theorem Upholds.triple {P Q : S → Prop} {R : E → Prop}
    (upholds : Upholds (fun past s => P s ∧ ∀ e ∈ past, R e) first
      (fun past s => Q s ∧ ∀ e ∈ past, R e)) : Triple P first Q R := by
  intro s holds
  exact upholds [] s ⟨holds, by simp⟩

end Upholds

/-! ### Ghosts -/

/-- Without its ghost the first stage is the second. -/
def Erases (ghosted : S × G → (S × G) × List (E × G)) (stage : S → S × List E) : Prop :=
  ∀ s, (ghosted s).1.1 = (stage s.1).1 ∧ (ghosted s).2.map Prod.fst = (stage s.1).2

/-- A stage that notes something, and labels what it reports. -/
def noting (note : S → G → G) (stage : S → S × List E) (s : S × G) : (S × G) × List (E × G) :=
  (((stage s.1).1, note s.1 s.2), (stage s.1).2.map (·, s.2))

theorem Erases.noting (note : S → G → G) (stage : S → S × List E) :
    Erases (noting note stage) stage := by
  intro s
  refine ⟨rfl, ?_⟩
  rw [Emitting.noting, List.map_map]
  exact List.map_id _

section Erases

variable {first second : S → S × List E} {first' second' : S × G → (S × G) × List (E × G)}

theorem Erases.andThen (here : Erases first' first) (later : Erases second' second) :
    Erases (andThen first' second') (andThen first second) := by
  intro s
  obtain ⟨reached, front⟩ := here s
  obtain ⟨after, back⟩ := later (first' s).1
  rw [reached] at after back
  refine ⟨after, ?_⟩
  rw [Emitting.andThen, Emitting.andThen, List.map_append, front, back]

/-- An event of the stage carries a label. -/
theorem Erases.mem {event : E} {label : G} {s : S × G} (erases : Erases first' first)
    (mem : (event, label) ∈ (first' s).2) : event ∈ (first s.1).2 := by
  rw [← (erases s).2]
  exact List.mem_map_of_mem mem

end Erases

end Emitting
