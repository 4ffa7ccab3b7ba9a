import Mathlib.Data.List.Nodup

/-!
A log of enlisted items, each done or not.

Items are enlisted at the end and never leave; now and then those of some kind are
marked as done. What is `outstanding` is the items not yet done, in the order in which
they were enlisted. A list that appends what is enlisted and drops what is done is the
outstanding part of the log (`Tracks.enlist`, `Tracks.settle`).
-/

namespace Outstanding

universe u

variable {α : Type u}

structure Entry (α : Type u) where
  item : α
  done : Bool

def enlist (log : List (Entry α)) (item : α) : List (Entry α) := log ++ [⟨item, false⟩]

/-- Mark as done, besides those that are, the items of a kind. -/
def settle (kind : α → Bool) (log : List (Entry α)) : List (Entry α) :=
  log.map fun entry => { entry with done := entry.done || kind entry.item }

def outstanding (log : List (Entry α)) : List α :=
  (log.filter fun entry => !entry.done).map Entry.item

theorem outstanding_enlist (log : List (Entry α)) (item : α) :
    outstanding (enlist log item) = outstanding log ++ [item] := by
  simp [outstanding, enlist]

theorem outstanding_settle (kind : α → Bool) (log : List (Entry α)) :
    outstanding (settle kind log) = (outstanding log).filter fun item => !kind item := by
  induction log with
  | nil => rfl
  | cons entry log ih =>
      simp only [outstanding, settle, List.map_cons] at ih ⊢
      cases done : entry.done <;> cases of : kind entry.item <;> simp [done, of, ih]

/-- `held` are the items outstanding, without repetition. -/
structure Tracks (held : List α) (log : List (Entry α)) : Prop where
  same : held = outstanding log
  distinct : held.Nodup

namespace Tracks

variable {held : List α} {log : List (Entry α)}

theorem nil : Tracks [] ([] : List (Entry α)) := ⟨rfl, List.nodup_nil⟩

theorem enlist (tracks : Tracks held log) {item : α} (new : item ∉ held) :
    Tracks (held ++ [item]) (Outstanding.enlist log item) where
  same := by rw [outstanding_enlist, ← tracks.same]
  distinct := List.concat_eq_append ▸ tracks.distinct.concat new

theorem settle (tracks : Tracks held log) (kind : α → Bool) :
    Tracks (held.filter fun item => !kind item) (Outstanding.settle kind log) where
  same := by rw [outstanding_settle, ← tracks.same]
  distinct := tracks.distinct.filter _

end Tracks

end Outstanding
