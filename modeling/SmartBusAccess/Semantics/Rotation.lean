import Mathlib.Data.List.Basic

/-!
Round robin over a list that grows and shrinks.

The item under the cursor has its turn. It either stays, and the cursor moves on, or it
leaves, and the cursor stays where it is; past the last item the cursor starts over. New
items join at the end.

`wait i credit` bounds how many turns pass before the item at `i` has its own, if no more
than `credit` items join while the cursor is past it. An item that joins when the cursor
has yet to come by changes nothing (`wait_push`); every turn of another item shortens the
wait (`wait_keep`, `wait_drop`).
-/

namespace Rotation

universe u

variable {α : Type u}

@[ext]
structure Rota (α : Type u) where
  items : List α
  cursor : Nat
  inside : cursor ≤ items.length - 1

namespace Rota

def keep (rota : Rota α) : Rota α where
  items := rota.items
  cursor := if rota.items.length ≤ rota.cursor + 1 then 0 else rota.cursor + 1
  inside := by
    split <;> omega

def drop (rota : Rota α) : Rota α where
  items := rota.items.eraseIdx rota.cursor
  cursor := if (rota.items.eraseIdx rota.cursor).length ≤ rota.cursor then 0 else rota.cursor
  inside := by
    split <;> omega

def push (rota : Rota α) (item : α) : Rota α where
  items := rota.items ++ [item]
  cursor := rota.cursor
  inside := by
    have := rota.inside
    simp only [List.length_append, List.length_singleton]
    omega

def wait (rota : Rota α) (i credit : Nat) : Nat :=
  if rota.cursor ≤ i then i - rota.cursor else rota.items.length - rota.cursor + i + credit

/-- Where the item at `i` is once the one under the cursor is gone. -/
def shifted (rota : Rota α) (i : Nat) : Nat := if i < rota.cursor then i else i - 1

variable {rota : Rota α} {i credit : Nat}

theorem wait_keep (credit : Nat) (here : i < rota.items.length) (other : i ≠ rota.cursor) :
    rota.keep.wait i credit + 1 ≤ rota.wait i credit := by
  have := rota.inside
  unfold wait keep
  dsimp only
  split_ifs <;> omega

/-- After its own turn an item waits for all the others, and for those that join. -/
theorem wait_keep_self (nonempty : rota.items ≠ []) {capacity : Nat}
    (room : rota.items.length ≤ capacity) :
    rota.keep.wait rota.cursor (capacity - rota.items.length) < capacity := by
  have := rota.inside
  have := List.length_pos_iff.mpr nonempty
  unfold wait keep
  dsimp only
  split_ifs <;> omega

theorem drop_shifted (other : i ≠ rota.cursor) :
    rota.drop.items[rota.shifted i]? = rota.items[i]? := by
  simp only [drop, shifted, List.getElem?_eraseIdx]
  split
  · rfl
  · rw [if_neg (by omega), Nat.sub_add_cancel (by omega)]

theorem wait_drop (credit : Nat) (here : i < rota.items.length) (other : i ≠ rota.cursor) :
    rota.drop.wait (rota.shifted i) credit + 1 ≤ rota.wait i credit := by
  have inside := rota.inside
  have length : (rota.items.eraseIdx rota.cursor).length = rota.items.length - 1 :=
    List.length_eraseIdx_of_lt (by omega)
  unfold wait drop shifted
  simp only [length]
  split_ifs <;> omega

/-- Joining uses up one of the credits, if the cursor is past the item. -/
theorem wait_push (allowed : i < rota.cursor → 0 < credit) (item : α) :
    (rota.push item).wait i (credit - 1) ≤ rota.wait i credit := by
  have := rota.inside
  unfold wait push
  simp only [List.length_append, List.length_singleton]
  split_ifs <;> omega

theorem wait_push_new (item : α) :
    (rota.push item).wait rota.items.length credit ≤ rota.items.length := by
  have := rota.inside
  unfold wait push
  dsimp only
  rw [if_pos (by omega)]
  omega

end Rota

end Rotation
