import Mathlib.Data.List.Basic

/-!
A first-in first-out line that may lose what it carries.

`Carries sent taken line`: what was taken off the line, followed by what is still on it, is
what was put on it with some left out.
-/

namespace LossyLine

universe u v

variable {M : Type u} {sent taken line : List M}

def Carries (sent taken line : List M) : Prop := (taken ++ line).Sublist sent

theorem Carries.empty : Carries ([] : List M) [] [] := .slnil

theorem Carries.put (carries : Carries sent taken line) (new : List M) :
    Carries (sent ++ new) taken (line ++ new) := by
  rw [Carries, ← List.append_assoc]
  exact List.Sublist.append_right carries new

theorem Carries.take {m : M} (carries : Carries sent taken (m :: line)) :
    Carries sent (taken ++ [m]) line := by
  rw [Carries, List.append_assoc]
  exact carries

/-- The oldest is thrown away by the receiver. -/
theorem Carries.drop {m : M} (carries : Carries sent taken (m :: line)) :
    Carries sent taken line :=
  (List.Sublist.append_left (List.sublist_cons_self m line) taken).trans carries

theorem Carries.lose (carries : Carries sent taken line) (i : ℕ) :
    Carries sent taken (line.eraseIdx i) :=
  (List.Sublist.append_left (List.eraseIdx_sublist line i) taken).trans carries

theorem Carries.taken_sublist (carries : Carries sent taken line) : taken.Sublist sent :=
  (List.sublist_append_left taken line).trans carries

end LossyLine
