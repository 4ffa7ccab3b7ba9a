import Mathlib.Data.Set.Card

/-!
Who holds what.

`held a` is the resource that holder `a` has, if any. A holder that has none may take
a resource that nobody has, and releases it again. Resources come in kinds, and a
count per kind is kept on the side:

* `Exclusive`: no two holders have the same resource;
* `holders held S`: who has a resource in `S`;
* `encard_holders_take`, `encard_holders_release`: a count that goes up by one with
  every take, and down by one with every release, is the number of holders;
* `Exclusive.encard_holders_le`: it never exceeds the number of resources.
-/

namespace Holding

variable {Holder Resource : Type*} {held : Holder → Option Resource} {a : Holder} {r : Resource}

/-- No resource is held twice. -/
def Exclusive (held : Holder → Option Resource) : Prop :=
  ∀ a b r, held a = some r → held b = some r → a = b

/-- Those who hold a resource in `S`. -/
def holders (held : Holder → Option Resource) (S : Set Resource) : Set Holder :=
  {a | ∃ r ∈ S, held a = some r}

theorem holders_empty (none : ∀ a, held a = none) (S : Set Resource) : holders held S = ∅ := by
  ext a
  simp [holders, none]

/-- The holder of an exclusive resource is the only one. -/
theorem Exclusive.existsUnique_iff (exclusive : Exclusive held) :
    (∃! a, held a = some r) ↔ ∃ a, held a = some r := by
  constructor
  · rintro ⟨a, holds, -⟩
    exact ⟨a, holds⟩
  · rintro ⟨a, holds⟩
    exact ⟨a, holds, fun b other => exclusive b a r other holds⟩

theorem Exclusive.encard_holders_le (exclusive : Exclusive held) (S : Set Resource) :
    (holders held S).encard ≤ S.encard := by
  have maps : Set.MapsTo held (holders held S) (Option.some '' S) := by
    rintro a ⟨r, kind, holds⟩
    exact ⟨r, kind, holds.symm⟩
  have injective : Set.InjOn held (holders held S) := by
    rintro a ⟨r, -, holds⟩ b - same
    exact exclusive a b r holds (same.symm.trans holds)
  calc (holders held S).encard ≤ (Option.some '' S).encard :=
        Set.encard_le_encard_of_injOn maps injective
    _ = S.encard := (Option.some_injective Resource).encard_image S

section Update

variable [DecidableEq Holder]

theorem Exclusive.take (exclusive : Exclusive held) (free : ∀ b, held b ≠ some r) :
    Exclusive (Function.update held a (some r)) := by
  intro b c s
  simp only [Function.update_apply]
  split
  · rename_i hb
    split
    · rename_i hc
      exact fun _ _ => hb.trans hc.symm
    · rintro ⟨rfl⟩ taken
      exact absurd taken (free c)
  · split
    · rintro taken ⟨rfl⟩
      exact absurd taken (free b)
    · exact exclusive b c s

theorem Exclusive.release (exclusive : Exclusive held) :
    Exclusive (Function.update held a none) := by
  intro b c s
  simp only [Function.update_apply]
  split
  · exact nofun
  split
  · exact fun _ => nofun
  · exact exclusive b c s

theorem holders_take {S : Set Resource} (kind : r ∈ S) (empty : held a = none) :
    holders (Function.update held a (some r)) S = insert a (holders held S) := by
  ext b
  by_cases same : b = a
  · subst same
    simp [holders, kind]
  · simp [holders, same]

theorem holders_take_other {S : Set Resource} (kind : r ∉ S) (empty : held a = none) :
    holders (Function.update held a (some r)) S = holders held S := by
  ext b
  by_cases same : b = a
  · subst same
    simp only [holders, Set.mem_ofPred_eq, Function.update_self, empty]
    constructor
    · rintro ⟨s, mem, ⟨rfl⟩⟩
      exact absurd mem kind
    · rintro ⟨s, -, ⟨⟩⟩
  · simp [holders, same]

theorem holders_release (S : Set Resource) :
    holders (Function.update held a none) S = holders held S \ {a} := by
  ext b
  by_cases same : b = a
  · subst same
    simp [holders]
  · simp [holders, same]

theorem encard_holders_take {S : Set Resource} (kind : r ∈ S) (empty : held a = none) :
    (holders (Function.update held a (some r)) S).encard = (holders held S).encard + 1 := by
  rw [holders_take kind empty]
  refine Set.encard_insert_of_notMem ?_
  rintro ⟨s, -, holds⟩
  rw [empty] at holds
  cases holds

theorem encard_holders_release {S : Set Resource} (kind : r ∈ S) (holds : held a = some r) :
    (holders (Function.update held a none) S).encard + 1 = (holders held S).encard := by
  rw [holders_release]
  exact Set.encard_sdiff_singleton_add_one ⟨r, kind, holds⟩

theorem holders_release_other {S : Set Resource} (kind : r ∉ S) (holds : held a = some r) :
    holders (Function.update held a none) S = holders held S := by
  rw [holders_release]
  refine Set.sdiff_singleton_eq_self ?_
  rintro ⟨s, mem, other⟩
  rw [holds] at other
  cases other
  exact kind mem

/-- Once its holder releases it, nobody has an exclusive resource. -/
theorem Exclusive.holders_release (exclusive : Exclusive held) {S : Set Resource}
    (single : S.Subsingleton) (kind : r ∈ S) (holds : held a = some r) :
    holders (Function.update held a none) S = ∅ := by
  rw [Holding.holders_release]
  ext b
  simp only [Set.mem_sdiff, Set.mem_singleton_iff, Set.mem_empty_iff_false, iff_false, not_and,
    not_not]
  rintro ⟨s, mem, other⟩
  rw [single mem kind] at other
  exact exclusive b a r other holds

end Update

end Holding
