import Mathlib.Data.List.Chain

/-!
Keeping the other side in step with a wanted value.

A value is sent when it is not the one sent last; one sending is outstanding at a time,
and it is acknowledged or given up. After a give-up whatever is wanted is sent again.

* `Tied`: what the record of a run looks like, and that its last event is the state;
* `Tied.step`, `Tied.path`: steps keep it;
* `Tied.settled`, `Tied.waiting`: what the record says when nothing is outstanding, and
  when something is.
-/

namespace Synchronising

universe u

variable {V : Type u}

/-- `queued` is the value sent last, unless it was given up. -/
inductive Sync (V : Type u) where
  | idle (queued : Option V)
  | busy (v : V)
deriving DecidableEq, Repr

inductive SyncEvent (V : Type u) where
  | started (v : V)
  | acked (v : V)
  | gaveUp (v : V)
deriving DecidableEq, Repr

/-- One step, with what it adds to the record. -/
inductive Step : Sync V → SyncEvent V → Sync V → Prop where
  | start {v : V} {q : Option V} (new : q ≠ some v) : Step (.idle q) (.started v) (.busy v)
  | ack {v : V} : Step (.busy v) (.acked v) (.idle (some v))
  | giveUp {v : V} : Step (.busy v) (.gaveUp v) (.idle none)

/-- Steps one after the other. -/
inductive Path : Sync V → List (SyncEvent V) → Sync V → Prop where
  | nil {s : Sync V} : Path s [] s
  | cons {s t u : Sync V} {e : SyncEvent V} {rest : List (SyncEvent V)} (step : Step s e t)
      (later : Path t rest u) : Path s (e :: rest) u

theorem Path.single {s t : Sync V} {e : SyncEvent V} (step : Step s e t) : Path s [e] t :=
  .cons step .nil

theorem Path.append {s t u : Sync V} {front back : List (SyncEvent V)} (early : Path s front t)
    (late : Path t back u) : Path s (front ++ back) u := by
  induction early with
  | nil => exact late
  | cons step _ ih => exact .cons step (ih late)

/-- Which event may come right after which. -/
inductive Follows : SyncEvent V → SyncEvent V → Prop where
  | acked {v : V} : Follows (.started v) (.acked v)
  | gaveUp {v : V} : Follows (.started v) (.gaveUp v)
  | another {v w : V} (ne : v ≠ w) : Follows (.acked v) (.started w)
  | again {v w : V} : Follows (.gaveUp v) (.started w)

/-- The state after a record that ends so. -/
def after : Option (SyncEvent V) → Sync V
  | none => .idle none
  | some (.started v) => .busy v
  | some (.acked v) => .idle (some v)
  | some (.gaveUp _) => .idle none

theorem Step.after {s s' : Sync V} {e : SyncEvent V} (step : Step s e s') : s' = after (some e) := by
  cases step <;> rfl

/-- The record starts with a start, goes on as it may, and its last event is the state. -/
structure Tied (s : Sync V) (record : List (SyncEvent V)) : Prop where
  first : ∀ e ∈ record.head?, ∃ v, e = .started v
  chain : record.IsChain Follows
  last : s = after record.getLast?

theorem Tied.initial : Tied (.idle none : Sync V) [] := by
  constructor
  · simp
  · exact .nil
  · rfl

section Tied

variable {s s' : Sync V} {record : List (SyncEvent V)} {e : SyncEvent V}

/-- What a step adds may follow what was there. -/
theorem Tied.follows (tied : Tied s record) (step : Step s e s') :
    ∀ before ∈ record.getLast?, Follows before e := by
  intro before last
  have state := tied.last
  rw [Option.mem_def.mp last] at state
  cases before with
  | started v =>
      subst state
      cases step with
      | ack => exact .acked
      | giveUp => exact .gaveUp
  | acked v =>
      subst state
      cases step with
      | start new => exact .another fun same => new (congrArg some same)
  | gaveUp v =>
      subst state
      cases step with
      | start new => exact .again

/-- The first event is a start: nothing is outstanding before it. -/
theorem Tied.starts (tied : Tied s []) (step : Step s e s') : ∃ v, e = .started v := by
  have idle : s = .idle none := tied.last
  subst idle
  cases step with
  | start new => exact ⟨_, rfl⟩

theorem Tied.step (tied : Tied s record) (step : Step s e s') : Tied s' (record ++ [e]) := by
  refine ⟨?_, ?_, ?_⟩
  · cases record with
    | nil => simpa using tied.starts step
    | cons head rest => exact tied.first
  · refine List.isChain_append.mpr ⟨tied.chain, .singleton e, ?_⟩
    intro before last next mem
    obtain rfl : e = next := by simpa using mem
    exact tied.follows step before last
  · rw [List.getLast?_append, List.getLast?_singleton, Option.some_or]
    exact step.after

theorem Tied.path {events : List (SyncEvent V)} (tied : Tied s record)
    (path : Path s events s') : Tied s' (record ++ events) := by
  induction path generalizing record with
  | nil => simpa using tied
  | cons step _ ih =>
      rw [List.append_cons]
      exact ih (tied.step step)

/-- With `v` sent last and nothing outstanding, the other side has acknowledged `v` last. -/
theorem Tied.settled {v : V} (tied : Tied (.idle (some v)) record) :
    record.getLast? = some (.acked v) := by
  have state := tied.last
  cases last : record.getLast? with
  | none => simp [last, after] at state
  | some e =>
      cases e with
      | started w => simp [last, after] at state
      | acked w => simpa [last, after] using state.symm
      | gaveUp w => simp [last, after] at state

theorem Tied.waiting {v : V} (tied : Tied (.busy v) record) :
    record.getLast? = some (.started v) := by
  have state := tied.last
  cases last : record.getLast? with
  | none => simp [last, after] at state
  | some e =>
      cases e with
      | started w => simpa [last, after] using state.symm
      | acked w => simp [last, after] at state
      | gaveUp w => simp [last, after] at state

end Tied

end Synchronising
