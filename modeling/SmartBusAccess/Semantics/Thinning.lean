import Mathlib.Data.List.Chain

/-!
Acting at instants that are far enough apart.

Something is offered a number of instants, in order, and acts at each that comes at least `gap`
after the last one it acted at (`thin`). No way to choose instants that far apart acts more
often (`fits_iff`).
-/

namespace Thinning

/-- The instants acted at, when the last one was `last`. -/
def thin (gap : Nat) : Nat → List Nat → List Nat
  | _, [] => []
  | last, t :: rest => if last + gap ≤ t then t :: thin gap t rest else thin gap last rest

/-- Each instant comes `gap` or more after the one before it. -/
def Spaced (gap last : Nat) (instants : List Nat) : Prop :=
  List.IsChain (fun a b => a + gap ≤ b) (last :: instants)

/-- Among the instants there are `n` that far apart. -/
def Fits (gap last n : Nat) (instants : List Nat) : Prop :=
  ∃ chosen, chosen.Sublist instants ∧ chosen.length = n ∧ Spaced gap last chosen

variable {gap last n : Nat} {instants : List Nat}

theorem Spaced.head {t : Nat} (spaced : Spaced gap last (t :: instants)) :
    last + gap ≤ t ∧ Spaced gap t instants :=
  List.isChain_cons_cons.mp spaced

theorem thin_sublist (gap last : Nat) (instants : List Nat) :
    (thin gap last instants).Sublist instants := by
  induction instants generalizing last with
  | nil => exact List.Sublist.refl []
  | cons t rest ih =>
      rw [thin]
      split
      · exact (ih t).cons_cons t
      · exact (ih last).cons t

theorem thin_spaced (gap last : Nat) (instants : List Nat) :
    Spaced gap last (thin gap last instants) := by
  induction instants generalizing last with
  | nil => exact List.isChain_singleton last
  | cons t rest ih =>
      rw [thin]
      split
      · rename_i due
        exact List.isChain_cons_cons.mpr ⟨due, ih t⟩
      · exact ih last

/-- Acting early leaves room for at least as many. -/
theorem length_le_thin {earlier : Nat} {chosen : List Nat} (le : earlier ≤ last)
    (sorted : instants.Pairwise (· ≤ ·)) (sublist : chosen.Sublist instants)
    (spaced : Spaced gap last chosen) : chosen.length ≤ (thin gap earlier instants).length := by
  induction instants generalizing earlier last chosen with
  | nil => simp [List.sublist_nil.mp sublist]
  | cons t rest ih =>
      obtain ⟨first, sorted⟩ := List.pairwise_cons.mp sorted
      rw [thin]
      split
      · cases chosen with
        | nil => simp
        | cons u chosen =>
            obtain ⟨-, spaced⟩ := spaced.head
            -- `u` comes no earlier than `t`, and the others are among the rest.
            have after : t ≤ u ∧ chosen.Sublist rest := by
              cases sublist with
              | cons _ within => exact ⟨first u (within.subset List.mem_cons_self),
                  (List.sublist_cons_self u chosen).trans within⟩
              | cons_cons _ within => exact ⟨Nat.le_refl t, within⟩
            exact Nat.succ_le_succ (ih after.1 sorted after.2 spaced)
      · rename_i soon
        cases sublist with
        | cons _ within => exact ih le sorted within spaced
        | cons_cons _ within =>
            obtain ⟨due, -⟩ := spaced.head
            omega

theorem Spaced.take (spaced : Spaced gap last instants) (n : Nat) :
    Spaced gap last (instants.take n) := by
  have front := List.IsChain.take spaced (n + 1)
  rwa [List.take_succ_cons] at front

/-- `n` fit exactly when acting as early as possible acts `n` times. -/
theorem fits_iff (sorted : instants.Pairwise (· ≤ ·)) :
    Fits gap last n instants ↔ n ≤ (thin gap last instants).length := by
  constructor
  · rintro ⟨chosen, sublist, rfl, spaced⟩
    exact length_le_thin (Nat.le_refl last) sorted sublist spaced
  · intro enough
    refine ⟨(thin gap last instants).take n, ?_, ?_, (thin_spaced gap last instants).take n⟩
    · exact (List.take_sublist n _).trans (thin_sublist gap last instants)
    · rw [List.length_take]
      exact Nat.min_eq_left enough

/-- One more instant. -/
theorem thin_concat (gap last : Nat) (instants : List Nat) (t : Nat) :
    thin gap last (instants ++ [t]) =
      if (thin gap last instants).getLastD last + gap ≤ t then thin gap last instants ++ [t]
      else thin gap last instants := by
  induction instants generalizing last with
  | nil => rfl
  | cons first rest ih =>
      rw [List.cons_append, thin, thin]
      by_cases due : last + gap ≤ first
      · rw [if_pos due, if_pos due, ih, List.getLastD_cons]
        split <;> rfl
      · rw [if_neg due, if_neg due, ih]

end Thinning
