import Mathlib.Data.List.Forall2

/-!
Causes in a record of events.

`Chain kinds record` says that events of these kinds stand in the record in this order, others
in between. `After cause kind record` says that there is an event of this kind, before which the
record had `cause`. `Behind cause P record` says that each event with `P` has `cause` behind it,
and `Preceded kinds P record` that it has a chain. All survive a longer record, if `cause` does
(`Grows`).
-/

namespace Causation

universe u

variable {E : Type u} {kinds : List (E → Prop)} {kind P : E → Prop} {record later : List E}

def Chain (kinds : List (E → Prop)) (record : List E) : Prop :=
  ∃ events, List.Forall₂ (fun kind event => kind event) kinds events ∧ events.Sublist record

theorem Chain.nil (record : List E) : Chain [] record := ⟨[], .nil, List.nil_sublist record⟩

theorem Chain.append (chain : Chain kinds record) (later : List E) :
    Chain kinds (record ++ later) := by
  obtain ⟨events, ofKind, among⟩ := chain
  exact ⟨events, ofKind, among.trans (List.sublist_append_left record later)⟩

/-- One more link, anywhere after the others. -/
theorem Chain.andThen {event : E} (chain : Chain kinds record) (mem : event ∈ later)
    (ofKind : kind event) : Chain (kinds ++ [kind]) (record ++ later) := by
  obtain ⟨events, ofKinds, among⟩ := chain
  refine ⟨events ++ [event], ?_, among.append (List.singleton_sublist.mpr mem)⟩
  exact List.rel_append ofKinds (.cons ofKind .nil)

/-- The first links of a chain. -/
theorem Chain.links {more : List (E → Prop)} (chain : Chain (kinds ++ more) record) :
    Chain kinds record := by
  obtain ⟨events, ofKinds, among⟩ := chain
  refine ⟨events.take kinds.length, ?_, (List.take_sublist _ _).trans among⟩
  have first := List.forall₂_take kinds.length ofKinds
  rwa [List.take_left] at first

theorem Chain.single {event : E} (mem : event ∈ record) (ofKind : kind event) :
    Chain [kind] record :=
  (Chain.nil []).andThen mem ofKind

/-! ### What is behind an event -/

/-- What has happened stays so. -/
def Grows (cause : List E → Prop) : Prop := ∀ record later, cause record → cause (record ++ later)

theorem Chain.grows (kinds : List (E → Prop)) : Grows (Chain kinds) :=
  fun _ later chain => chain.append later

section Behind

variable {cause : List E → Prop}

/-- An event of this kind, with `cause` before it. -/
def After (cause : List E → Prop) (kind : E → Prop) (record : List E) : Prop :=
  ∃ front event back, record = front ++ event :: back ∧ cause front ∧ kind event

theorem After.grows (cause : List E → Prop) (kind : E → Prop) : Grows (After cause kind) := by
  rintro _ later ⟨front, event, back, rfl, causes, ofKind⟩
  exact ⟨front, event, back ++ later, by simp, causes, ofKind⟩

theorem After.of_mem {event : E} (grows : Grows cause) (causes : cause record)
    (mem : event ∈ later) (ofKind : kind event) : After cause kind (record ++ later) := by
  obtain ⟨front, back, rfl⟩ := List.append_of_mem mem
  exact ⟨record ++ front, event, back, (List.append_assoc _ _ _).symm, grows _ _ causes, ofKind⟩

/-- Each event with `P` comes after a history with `cause`. -/
def Behind (cause : List E → Prop) (P : E → Prop) (record : List E) : Prop :=
  ∀ front event back, record = front ++ event :: back → P event → cause front

theorem Behind.nil : Behind cause P [] := by
  intro front event back split
  simp at split

/-- It is enough to look at what is new. -/
theorem Behind.append (old : Behind cause P record)
    (new : ∀ front event back, later = front ++ event :: back → P event →
      cause (record ++ front)) : Behind cause P (record ++ later) := by
  intro front event back split special
  rcases List.append_eq_append_iff.mp split with ⟨more, rfl, inLater⟩ | ⟨more, inRecord, inLater⟩
  · exact new more event back inLater special
  · cases more with
    | nil =>
        rw [List.append_nil] at inRecord
        rw [← inRecord, ← List.append_nil record]
        exact new [] event back inLater.symm special
    | cons first rest =>
        obtain ⟨rfl, rfl⟩ := List.cons_eq_cons.mp inLater
        exact old front event rest inRecord special

/-- If there is anything new with `P`, its causes are old. -/
theorem Behind.append_of (grows : Grows cause) (old : Behind cause P record)
    (causes : ∀ event ∈ later, P event → cause record) : Behind cause P (record ++ later) := by
  apply old.append
  rintro front event back rfl special
  exact grows _ front (causes event (by simp) special)

theorem Behind.append_none (old : Behind cause P record) (none : ∀ event ∈ later, ¬P event) :
    Behind cause P (record ++ later) := by
  apply old.append
  rintro front event back rfl special
  exact absurd special (none event (by simp))

/-- What is behind an event that has happened. -/
theorem Behind.after {event : E} (behind : Behind cause P record) (mem : event ∈ record)
    (special : P event) (ofKind : kind event) : After cause kind record := by
  obtain ⟨front, back, rfl⟩ := List.append_of_mem mem
  exact ⟨front, event, back, rfl, behind front event back rfl special, ofKind⟩

theorem After.before (grows : Grows cause) (after : After cause kind record) : cause record := by
  obtain ⟨front, event, back, rfl, causes, -⟩ := after
  exact grows front _ causes

/-- After a chain is a longer one. -/
theorem After.chain (after : After (Chain kinds) kind record) : Chain (kinds ++ [kind]) record := by
  obtain ⟨front, event, back, rfl, chain, ofKind⟩ := after
  exact chain.andThen (.head _) ofKind

theorem Chain.exists_mem (chain : Chain [kind] record) : ∃ event ∈ record, kind event := by
  obtain ⟨events, ofKinds, among⟩ := chain
  cases ofKinds with
  | cons ofKind none =>
      cases none
      exact ⟨_, List.singleton_sublist.mp among, ofKind⟩

theorem Behind.front (behind : Behind cause P (record ++ later)) : Behind cause P record := by
  rintro front event back rfl special
  exact behind front event (back ++ later) (by simp) special

/-- More is behind what is behind an event, as far as the history goes. -/
theorem After.imp {cause' : List E → Prop} (after : After cause kind record)
    (more : ∀ front, front <+: record → cause front → cause' front) : After cause' kind record := by
  obtain ⟨front, event, back, rfl, causes, ofKind⟩ := after
  exact ⟨front, event, back, rfl, more front (List.prefix_append _ _) causes, ofKind⟩

end Behind

/-! ### A record seen from one side -/

section Side

variable {F : Type u} {side : F → Option E} {cause : List E → Prop} {history : List F}

/-- An event that is one of this kind on this side. -/
def Seen (side : F → Option E) (kind : E → Prop) (event : F) : Prop :=
  ∃ seen, side event = some seen ∧ kind seen

theorem Behind.of_side (behind : Behind cause P (history.filterMap side)) :
    Behind (fun front => cause (front.filterMap side)) (Seen side P) history := by
  rintro front event back rfl ⟨seen, shown, special⟩
  refine behind (front.filterMap side) seen (back.filterMap side) ?_ special
  rw [List.filterMap_append, List.filterMap_cons_some shown]

theorem After.of_side (after : After cause kind (history.filterMap side)) :
    After (fun front => cause (front.filterMap side)) (Seen side kind) history := by
  obtain ⟨front, seen, back, split, causes, ofKind⟩ := after
  obtain ⟨before, rest, rfl, rfl, remains⟩ := List.filterMap_eq_append_iff.mp split
  obtain ⟨hidden, event, later, rfl, none, shown, -⟩ := List.filterMap_eq_cons_iff.mp remains
  have causes : cause ((before ++ hidden).filterMap side) := by
    rw [List.filterMap_append, List.filterMap_eq_nil_iff.mpr none, List.append_nil]
    exact causes
  exact ⟨before ++ hidden, event, later, by simp, causes, seen, shown, ofKind⟩

end Side

/-! ### Chains -/

/-- Each event with `P` comes after a chain. -/
def Preceded (kinds : List (E → Prop)) (P : E → Prop) (record : List E) : Prop :=
  Behind (Chain kinds) P record

theorem Preceded.nil : Preceded kinds P [] := Behind.nil

theorem Preceded.append (old : Preceded kinds P record)
    (new : ∀ front event back, later = front ++ event :: back → P event →
      Chain kinds (record ++ front)) : Preceded kinds P (record ++ later) :=
  Behind.append old new

theorem Preceded.append_of (old : Preceded kinds P record)
    (causes : ∀ event ∈ later, P event → Chain kinds record) :
    Preceded kinds P (record ++ later) :=
  Behind.append_of (Chain.grows kinds) old causes

theorem Preceded.append_none (old : Preceded kinds P record) (none : ∀ event ∈ later, ¬P event) :
    Preceded kinds P (record ++ later) :=
  Behind.append_none old none

end Causation
