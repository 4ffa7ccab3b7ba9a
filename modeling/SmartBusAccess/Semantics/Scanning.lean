import SmartBusAccess.Semantics.Runs

/-!
Incremental scanners: machines that read a stream one item at a time and report
a token when its spelling has gone by.

`held s` is what the state stands for: the items read so far that may still
become part of a token. A scanner either keeps a suffix of what it holds and
the new item, or reports a token that both together spell, and holds nothing
afterwards. From that alone:

* `Scanner.spelled`: a reported token is spelled by the last items read;
* `Scanner.disjoint`: two reported tokens are spelled by disjoint windows.
-/

namespace Runs

universe u v w x

variable {State : Type u} {Item : Type v} {Output : Type w} {Token : Type x}

structure Scanner (step : State → Item → State × Output) (held : State → List Item)
    (reported : Output → Option Token) (spell : Token → List Item) : Prop where
  keeps : ∀ s i, reported (step s i).2 = none → held (step s i).1 <:+ held s ++ [i]
  spells : ∀ s i t, reported (step s i).2 = some t →
    held s ++ [i] = spell t ∧ held (step s i).1 = []

namespace Scanner

variable {step : State → Item → State × Output} {held : State → List Item}
  {reported : Output → Option Token} {spell : Token → List Item}

theorem held_next (scanner : Scanner step held reported spell) (s : State) (i : Item) :
    held (step s i).1 <:+ held s ++ [i] := by
  cases h : reported (step s i).2 with
  | none => exact scanner.keeps s i h
  | some t =>
      rw [(scanner.spells s i t h).2]
      exact List.nil_suffix

/-- What is held is always the end of what was read. -/
theorem held_run (scanner : Scanner step held reported spell) (s : State) (items : List Item) :
    held (run (next step) s items) <:+ held s ++ items := by
  induction items generalizing s with
  | nil => simp
  | cons i rest ih =>
      have first : held (step s i).1 ++ rest <:+ (held s ++ [i]) ++ rest := by
        obtain ⟨dropped, split⟩ := scanner.held_next s i
        exact ⟨dropped, by rw [← split, List.append_assoc]⟩
      simpa [next] using (ih (step s i).1).trans first

/-- A token reported after `front` and `i` is spelled by their last items. -/
theorem spelled_at (scanner : Scanner step held reported spell) {s : State}
    (start : held s = []) {front : List Item} {i : Item} {t : Token}
    (report : reported (step (run (next step) s front) i).2 = some t) :
    spell t <:+ front ++ [i] := by
  rw [← (scanner.spells _ i t report).1]
  obtain ⟨dropped, split⟩ := scanner.held_run s front
  rw [start, List.nil_append] at split
  exact ⟨dropped, by rw [← List.append_assoc, split]⟩

theorem spelled (scanner : Scanner step held reported spell) {s : State} (start : held s = [])
    {items : List Item} {n : Nat} {o : Output} {t : Token}
    (found : (outputs step s items)[n]? = some o) (report : reported o = some t) :
    spell t <:+ items.take (n + 1) := by
  obtain ⟨front, i, back, rfl, rfl, rfl⟩ := outputs_getElem? found
  have whole : (front ++ i :: back).take (front.length + 1) = front ++ [i] := by
    rw [List.append_cons front i back, List.take_left' (by simp)]
  rw [whole]
  exact scanner.spelled_at start report

/-- A later token is spelled by items read after the earlier report. -/
theorem disjoint (scanner : Scanner step held reported spell) {s : State}
    {items : List Item} {m n : Nat} {o p : Output} {t u : Token} (before : m < n)
    (first : (outputs step s items)[m]? = some o) (reportFirst : reported o = some t)
    (second : (outputs step s items)[n]? = some p) (reportSecond : reported p = some u) :
    m + (spell u).length ≤ n := by
  obtain ⟨front, i, back, rfl, rfl, rfl⟩ := outputs_getElem? first
  rw [outputs_append, List.getElem?_append_right (by simpa using Nat.le_of_lt before)] at second
  obtain ⟨k, rfl⟩ : ∃ k, n = front.length + (k + 1) :=
    ⟨n - front.length - 1, by omega⟩
  have inBack : (outputs step (step (run (next step) s front) i).1 back)[k]? = some p := by
    simpa [outputs] using second
  have emptied := (scanner.spells _ i t reportFirst).2
  have window := scanner.spelled emptied inBack reportSecond
  have short := window.length_le
  rw [List.length_take] at short
  omega

end Scanner

end Runs
