import Mathlib.Logic.Relation
import Mathlib.Data.List.Basic
import Mathlib.Data.Nat.Basic
import Mathlib.Order.Basic
import SmartBusAccess.Semantics.Runs

/-!
Stop-and-wait over two lossy first-in first-out channels.

The sender accepts one command at a time, sends copies of it and waits for an
acknowledgement; it may give a command up and go on to the next. The receiver
remembers only the sequence number of the last command it delivered. Commands
are named by the order of their acceptance (command `k` is the `k+1`st), and
`seq : ℕ → Label` is whatever numbering the frames carry; nothing assumes it
injective. `memory` starts as `initialMemory`, so a receiver that outlives its
sender is covered.

* `Inv.reachable`: what holds in every reachable state. In particular
  deliveries are strictly increasing (`delivered_sorted`), whatever the numbering.
* `Inv.acked_covered`: a success means that a command with the same label was
  delivered, or that the initial memory held this label.
* `acked_delivered`: if labels are distinct within a window of `w` commands
  and every success comes within `w` starts of an earlier one, a success means
  that this very command was delivered.
* `Inv.renumber`: a sender may start its numbering over; what is under way and what the
  receiver remembers keeps the labels it had.
-/

namespace StopAndWait

universe u

variable {Label : Type u}

/-- `started` counts accepted commands; the channels hold command indices;
`delivered` and `acked` are the histories of deliveries and of reported
successes. -/
structure State (Label : Type u) where
  started : ℕ
  waiting : Bool
  data : List ℕ
  acks : List ℕ
  memory : Option Label
  delivered : List ℕ
  acked : List ℕ

/-- Nothing sent yet, and a receiver that may remember an earlier sender. -/
def State.initial (initialMemory : Option Label) : State Label :=
  ⟨0, false, [], [], initialMemory, [], []⟩

/-- One step. A frame the receiver or the sender ignores is a lost frame. -/
inductive Step (seq : ℕ → Label) : State Label → State Label → Prop where
  | start {s : State Label} (idle : s.waiting = false) :
      Step seq s { s with started := s.started + 1, waiting := true, data := s.data ++ [s.started] }
  | resend {s : State Label} (busy : s.waiting = true) :
      Step seq s { s with data := s.data ++ [s.started - 1] }
  | giveUp {s : State Label} : Step seq s { s with waiting := false }
  | loseData {s : State Label} {kept : List ℕ} (sub : kept.Sublist s.data) :
      Step seq s { s with data := kept }
  | loseAcks {s : State Label} {kept : List ℕ} (sub : kept.Sublist s.acks) :
      Step seq s { s with acks := kept }
  | deliver {s : State Label} {k : ℕ} {rest : List ℕ} (arrives : s.data = k :: rest)
      (fresh : s.memory ≠ some (seq k)) :
      Step seq s { s with data := rest, acks := s.acks ++ [k], memory := some (seq k),
                          delivered := s.delivered ++ [k] }
  | suppress {s : State Label} {k : ℕ} {rest : List ℕ} (arrives : s.data = k :: rest)
      (known : s.memory = some (seq k)) :
      Step seq s { s with data := rest, acks := s.acks ++ [k] }
  | accept {s : State Label} {k : ℕ} {rest : List ℕ} (arrives : s.acks = k :: rest)
      (busy : s.waiting = true) (matching : seq k = seq (s.started - 1)) :
      Step seq s { s with acks := rest, waiting := false, acked := s.acked ++ [s.started - 1] }

/-- Some delivered command at or before `k` has `k`'s label, or the receiver
remembered that label from the start. -/
def Covered (seq : ℕ → Label) (initialMemory : Option Label) (delivered : List ℕ) (k : ℕ) : Prop :=
  (∃ d ∈ delivered, d ≤ k ∧ seq d = seq k) ∨ initialMemory = some (seq k)

/-- The channels are ordered by acceptance, acknowledgements are not ahead of
the data, and the memory is the label of the last delivery. -/
structure Inv (seq : ℕ → Label) (initialMemory : Option Label) (s : State Label) : Prop where
  busy_started : s.waiting = true → 0 < s.started
  data_sorted : s.data.Pairwise (· ≤ ·)
  data_lt : ∀ k ∈ s.data, k < s.started
  acks_sorted : s.acks.Pairwise (· ≤ ·)
  acks_lt : ∀ a ∈ s.acks, a < s.started
  acks_le_data : ∀ a ∈ s.acks, ∀ k ∈ s.data, a ≤ k
  delivered_sorted : s.delivered.Pairwise (· < ·)
  delivered_lt : ∀ d ∈ s.delivered, d < s.started
  delivered_le_data : ∀ d ∈ s.delivered, ∀ k ∈ s.data, d ≤ k
  memory_eq : s.memory = (s.delivered.getLast?.map seq).or initialMemory
  acks_covered : ∀ a ∈ s.acks, Covered seq initialMemory s.delivered a
  acked_covered : ∀ n ∈ s.acked, Covered seq initialMemory s.delivered n
  acked_lt : ∀ n ∈ s.acked, n < s.started
  busy_acked_lt : s.waiting = true → ∀ n ∈ s.acked, n + 1 < s.started

section Invariant

variable {seq : ℕ → Label} {initialMemory : Option Label} {s t : State Label}

theorem Covered.append {delivered : List ℕ} {k : ℕ} (h : Covered seq initialMemory delivered k)
    (more : List ℕ) : Covered seq initialMemory (delivered ++ more) k := by
  rcases h with ⟨d, mem, le, eq⟩ | remembered
  · exact .inl ⟨d, List.mem_append_left _ mem, le, eq⟩
  · exact .inr remembered

theorem Covered.congr_label {delivered : List ℕ} {k n : ℕ}
    (h : Covered seq initialMemory delivered k) (le : k ≤ n) (eq : seq k = seq n) :
    Covered seq initialMemory delivered n := by
  rcases h with ⟨d, mem, le', eq'⟩ | remembered
  · exact .inl ⟨d, mem, le'.trans le, eq'.trans eq⟩
  · exact .inr (eq ▸ remembered)

theorem Inv.initial : Inv seq initialMemory (State.initial initialMemory) := by
  constructor <;> simp [State.initial]

/-- The memory is the label of some delivery, or still the initial one. -/
theorem Inv.memory_cases (inv : Inv seq initialMemory s) :
    (s.delivered = [] ∧ s.memory = initialMemory) ∨
      ∃ d ∈ s.delivered, s.memory = some (seq d) ∧ ∀ d' ∈ s.delivered, d' ≤ d := by
  rcases List.eq_nil_or_concat' s.delivered with none | ⟨front, d, last⟩
  · exact .inl ⟨none, by simp [inv.memory_eq, none]⟩
  · refine .inr ⟨d, by simp [last], by simp [inv.memory_eq, last], ?_⟩
    intro d' mem
    have sorted := inv.delivered_sorted
    rw [last, List.pairwise_append] at sorted
    rw [last] at mem
    rcases List.mem_append.mp mem with older | same
    · exact (sorted.2.2 d' older d (by simp)).le
    · exact (List.mem_singleton.mp same).le

/-- A frame the receiver takes for new is ahead of everything delivered. -/
theorem Inv.fresh_ahead (inv : Inv seq initialMemory s) {k : ℕ} (mem : k ∈ s.data)
    (fresh : s.memory ≠ some (seq k)) : ∀ d ∈ s.delivered, d < k := by
  intro d hd
  refine lt_of_le_of_ne (inv.delivered_le_data d hd k mem) ?_
  rintro rfl
  rcases inv.memory_cases with ⟨none, -⟩ | ⟨last, lastMem, remembered, top⟩
  · simp [none] at hd
  · have same : last = d := le_antisymm (inv.delivered_le_data last lastMem d mem) (top d hd)
    exact fresh (same ▸ remembered)

/-- A frame the receiver takes for old carries a label it has covered. -/
theorem Inv.known_covered (inv : Inv seq initialMemory s) {k : ℕ} (mem : k ∈ s.data)
    (known : s.memory = some (seq k)) : Covered seq initialMemory s.delivered k := by
  rcases inv.memory_cases with ⟨-, initial⟩ | ⟨d, hd, remembered, -⟩
  · exact .inr (initial ▸ known)
  · refine .inl ⟨d, hd, inv.delivered_le_data d hd k mem, ?_⟩
    exact Option.some.inj (remembered.symm.trans known)

/-- A copy of the last command is put on the line. -/
theorem Inv.send (inv : Inv seq initialMemory s) {k : ℕ} (lt : k < s.started)
    (last : s.started ≤ k + 1) : Inv seq initialMemory { s with data := s.data ++ [k] } := by
  have le : ∀ j < s.started, j ≤ k := fun j lt => Nat.le_of_lt_succ (lt.trans_le last)
  refine { inv with data_sorted := ?_, data_lt := ?_, acks_le_data := ?_, delivered_le_data := ?_ }
  · exact List.pairwise_append.mpr ⟨inv.data_sorted, by simp, fun j mem b new =>
      List.mem_singleton.mp new ▸ le j (inv.data_lt j mem)⟩
  · simp only [List.mem_append, List.mem_singleton]
    rintro j (old | rfl)
    · exact inv.data_lt j old
    · exact lt
  · simp only [List.mem_append, List.mem_singleton]
    rintro a ha j (old | rfl)
    · exact inv.acks_le_data a ha j old
    · exact le a (inv.acks_lt a ha)
  · simp only [List.mem_append, List.mem_singleton]
    rintro d hd j (old | rfl)
    · exact inv.delivered_le_data d hd j old
    · exact le d (inv.delivered_lt d hd)

/-- The next command is accepted; nothing of it is on the line yet. -/
theorem Inv.acceptNext (inv : Inv seq initialMemory s) :
    Inv seq initialMemory { s with started := s.started + 1, waiting := true } where
  __ := inv
  busy_started _ := Nat.succ_pos _
  data_lt k mem := Nat.lt_succ_of_lt (inv.data_lt k mem)
  acks_lt a mem := Nat.lt_succ_of_lt (inv.acks_lt a mem)
  delivered_lt d mem := Nat.lt_succ_of_lt (inv.delivered_lt d mem)
  acked_lt n mem := Nat.lt_succ_of_lt (inv.acked_lt n mem)
  busy_acked_lt _ n mem := Nat.succ_lt_succ (inv.acked_lt n mem)

section Arrival

variable {k : ℕ} {rest : List ℕ}

theorem Inv.head_le (inv : Inv seq initialMemory s) (arrives : s.data = k :: rest) :
    ∀ j ∈ s.data, k ≤ j := by
  have sorted := inv.data_sorted
  rw [arrives, List.pairwise_cons] at sorted
  intro j mem
  rw [arrives] at mem
  rcases List.mem_cons.mp mem with rfl | later
  · exact le_rfl
  · exact sorted.1 j later

/-- The receiver delivers the oldest frame, which is still on the line. -/
theorem Inv.record (inv : Inv seq initialMemory s) (arrives : s.data = k :: rest)
    (fresh : s.memory ≠ some (seq k)) : Inv seq initialMemory
      { s with memory := some (seq k), delivered := s.delivered ++ [k] } := by
  have head : k ∈ s.data := arrives ▸ List.mem_cons_self
  refine { inv with
    delivered_sorted := List.pairwise_append.mpr ⟨inv.delivered_sorted, by simp,
      fun d hd b new => List.mem_singleton.mp new ▸ inv.fresh_ahead head fresh d hd⟩
    delivered_lt := ?_, delivered_le_data := ?_
    memory_eq := by simp
    acks_covered := fun a mem => (inv.acks_covered a mem).append _
    acked_covered := fun n mem => (inv.acked_covered n mem).append _ }
  · simp only [List.mem_append, List.mem_singleton]
    rintro d (old | rfl)
    · exact inv.delivered_lt d old
    · exact inv.data_lt d head
  · simp only [List.mem_append, List.mem_singleton]
    rintro d (old | rfl)
    · exact inv.delivered_le_data d old
    · exact inv.head_le arrives

/-- The oldest frame leaves the line and is acknowledged. -/
theorem Inv.answer (inv : Inv seq initialMemory s) (arrives : s.data = k :: rest)
    (covered : Covered seq initialMemory s.delivered k) :
    Inv seq initialMemory { s with data := rest, acks := s.acks ++ [k] } := by
  have head : k ∈ s.data := arrives ▸ List.mem_cons_self
  have tail : ∀ j ∈ rest, j ∈ s.data := fun j mem => arrives ▸ List.mem_cons_of_mem _ mem
  have sorted := inv.data_sorted
  rw [arrives, List.pairwise_cons] at sorted
  refine { inv with
    data_sorted := sorted.2
    data_lt := fun j mem => inv.data_lt j (tail j mem)
    acks_sorted := List.pairwise_append.mpr ⟨inv.acks_sorted, by simp, fun a ha b new =>
      List.mem_singleton.mp new ▸ inv.acks_le_data a ha k head⟩
    acks_lt := ?_, acks_le_data := ?_
    delivered_le_data := fun d hd j mem => inv.delivered_le_data d hd j (tail j mem)
    acks_covered := ?_ }
  · simp only [List.mem_append, List.mem_singleton]
    rintro a (old | rfl)
    · exact inv.acks_lt a old
    · exact inv.data_lt a head
  · simp only [List.mem_append, List.mem_singleton]
    rintro a (old | rfl) j mem
    · exact inv.acks_le_data a old j (tail j mem)
    · exact sorted.1 j mem
  · simp only [List.mem_append, List.mem_singleton]
    rintro a (old | rfl)
    · exact inv.acks_covered a old
    · exact covered

end Arrival

theorem Inv.step (inv : Inv seq initialMemory s) (step : Step seq s t) :
    Inv seq initialMemory t := by
  cases step with
  | start idle => exact inv.acceptNext.send (Nat.lt_succ_self _) le_rfl
  | resend busy =>
      have pos := inv.busy_started busy
      exact inv.send (Nat.sub_one_lt_of_lt pos) (Nat.le_add_of_sub_le le_rfl)
  | giveUp =>
      exact { inv with
        busy_started := fun busy => by simp at busy
        busy_acked_lt := fun busy => by simp at busy }
  | loseData sub =>
      exact { inv with
        data_sorted := inv.data_sorted.sublist sub
        data_lt := fun k mem => inv.data_lt k (sub.subset mem)
        acks_le_data := fun a ha k mem => inv.acks_le_data a ha k (sub.subset mem)
        delivered_le_data := fun d hd k mem => inv.delivered_le_data d hd k (sub.subset mem) }
  | loseAcks sub =>
      exact { inv with
        acks_sorted := inv.acks_sorted.sublist sub
        acks_lt := fun a mem => inv.acks_lt a (sub.subset mem)
        acks_le_data := fun a mem => inv.acks_le_data a (sub.subset mem)
        acks_covered := fun a mem => inv.acks_covered a (sub.subset mem) }
  | deliver arrives fresh =>
      exact (inv.record arrives fresh).answer arrives (.inl ⟨_, by simp, le_rfl, rfl⟩)
  | suppress arrives known =>
      have head := arrives ▸ List.mem_cons_self
      exact inv.answer arrives (inv.known_covered head known)
  | @accept k rest arrives busy matching =>
      have pos := inv.busy_started busy
      have head : k ∈ s.acks := arrives ▸ List.mem_cons_self
      have tail : ∀ j ∈ rest, j ∈ s.acks := fun j mem => arrives ▸ List.mem_cons_of_mem _ mem
      have sorted := inv.acks_sorted
      rw [arrives, List.pairwise_cons] at sorted
      refine { inv with
        busy_started := fun busy => by simp at busy
        busy_acked_lt := fun busy => by simp at busy
        acks_sorted := sorted.2
        acks_lt := fun a mem => inv.acks_lt a (tail a mem)
        acks_le_data := fun a mem => inv.acks_le_data a (tail a mem)
        acks_covered := fun a mem => inv.acks_covered a (tail a mem)
        acked_covered := ?_, acked_lt := ?_ }
      · simp only [List.mem_append, List.mem_singleton]
        rintro n (old | rfl)
        · exact inv.acked_covered n old
        · exact (inv.acks_covered k head).congr_label
            (Nat.le_sub_one_of_lt (inv.acks_lt k head)) matching
      · simp only [List.mem_append, List.mem_singleton]
        rintro n (old | rfl)
        · exact inv.acked_lt n old
        · exact Nat.sub_one_lt_of_lt pos

theorem Inv.reachable (path : Relation.ReflTransGen (Step seq) (State.initial initialMemory) s) :
    Inv seq initialMemory s :=
  Runs.reachable_invariant _ (fun _ _ inv step => inv.step step) Inv.initial path

end Invariant

/-! ### Labels distinct within a window -/

/-- Any two commands fewer than `w` apart carry different labels. -/
def DistinctWithin (seq : ℕ → Label) (w : ℕ) : Prop := ∀ i j, i < j → j < i + w → seq i ≠ seq j

/-- Every success is for one of the first `w` commands, or fewer than `w`
commands after an earlier success. -/
def SuccessesWithin (w : ℕ) (acked : List ℕ) : Prop :=
  ∀ q ∈ acked, q < w ∨ ∃ p ∈ acked, p < q ∧ q < p + w

instance (w : ℕ) (acked : List ℕ) : Decidable (SuccessesWithin w acked) := by
  unfold SuccessesWithin; infer_instance

/-- No success so far was false, everything still in flight is at or after the
last success, and an acknowledgement in flight can only mislead a sender that
is a full window ahead. -/
structure Exact (seq : ℕ → Label) (s : State Label) : Prop where
  acked_delivered : ∀ n ∈ s.acked, n ∈ s.delivered
  acked_le_acks : ∀ p ∈ s.acked, ∀ a ∈ s.acks, p ≤ a
  acked_le_data : ∀ p ∈ s.acked, ∀ k ∈ s.data, p ≤ k
  acks_delivered : ∀ a ∈ s.acks, a ∈ s.delivered ∨
    ∃ d ∈ s.delivered, (∀ p ∈ s.acked, p ≤ d) ∧ d < a ∧ seq d = seq a

section Window

variable {seq : ℕ → Label} {w : ℕ} {s t : State Label}

theorem Exact.initial : Exact seq (State.initial none) := by
  constructor <;> simp [State.initial]

/-- Dropping the newest success keeps the spacing of the others. -/
theorem SuccessesWithin.of_append {acked : List ℕ} {n : ℕ}
    (spaced : SuccessesWithin w (acked ++ [n])) (older : ∀ q ∈ acked, q < n) :
    SuccessesWithin w acked := by
  intro q mem
  rcases spaced q (List.mem_append_left _ mem) with early | ⟨p, pMem, lt, near⟩
  · exact .inl early
  · refine .inr ⟨p, ?_, lt, near⟩
    rcases List.mem_append.mp pMem with old | new
    · exact old
    · exact absurd lt (by have := older q mem; simp at new; omega)

/-- Where successes are spaced within the window, a command at or after every
earlier success has its label to itself up to the newest one. -/
theorem SuccessesWithin.label_unique {acked : List ℕ} {n d : ℕ}
    (distinct : DistinctWithin seq w) (spaced : SuccessesWithin w (acked ++ [n]))
    (after : ∀ p ∈ acked, p ≤ d) (le : d ≤ n) (eq : seq d = seq n) : d = n := by
  by_contra ne
  have lt : d < n := lt_of_le_of_ne le ne
  rcases spaced n (by simp) with early | ⟨p, pMem, pLt, near⟩
  · exact distinct d n lt (by omega) eq
  · have old : p ∈ acked := by
      rcases List.mem_append.mp pMem with old | new
      · exact old
      · exact absurd pLt (by simp [List.mem_singleton.mp new])
    have := after p old
    exact distinct d n lt (by omega) eq

theorem Exact.send (now : Exact seq s) {k : ℕ} (newest : ∀ p ∈ s.acked, p ≤ k) :
    Exact seq { s with data := s.data ++ [k] } := by
  refine { now with acked_le_data := ?_ }
  simp only [List.mem_append, List.mem_singleton]
  rintro p mem j (old | rfl)
  · exact now.acked_le_data p mem j old
  · exact newest p mem

theorem Exact.record (now : Exact seq s) (memory : Option Label) (k : ℕ) :
    Exact seq { s with memory := memory, delivered := s.delivered ++ [k] } := by
  refine { now with acked_delivered := ?_, acks_delivered := ?_ }
  · intro n mem
    exact List.mem_append_left _ (now.acked_delivered n mem)
  · intro a mem
    rcases now.acks_delivered a mem with done | ⟨d, hd, after, lt, eq⟩
    · exact .inl (List.mem_append_left _ done)
    · exact .inr ⟨d, List.mem_append_left _ hd, after, lt, eq⟩

/-- An acknowledgement may join the line for a command that was delivered, or
that carries the label of a delivery no success is after. -/
theorem Exact.answer (now : Exact seq s) {k : ℕ} {rest : List ℕ} (arrives : s.data = k :: rest)
    (known : k ∈ s.delivered ∨
      ∃ d ∈ s.delivered, (∀ p ∈ s.acked, p ≤ d) ∧ d < k ∧ seq d = seq k) :
    Exact seq { s with data := rest, acks := s.acks ++ [k] } := by
  refine { now with acked_le_acks := ?_, acked_le_data := ?_, acks_delivered := ?_ }
  · simp only [List.mem_append, List.mem_singleton]
    rintro p mem a (old | rfl)
    · exact now.acked_le_acks p mem a old
    · exact now.acked_le_data p mem a (arrives ▸ List.mem_cons_self)
  · intro p mem j later
    exact now.acked_le_data p mem j (arrives ▸ List.mem_cons_of_mem _ later)
  · simp only [List.mem_append, List.mem_singleton]
    rintro a (old | rfl)
    · exact now.acks_delivered a old
    · exact known

/-- A remembered label is that of the last delivery, which no success is after. -/
theorem Exact.known_answered (now : Exact seq s) (inv : Inv seq none s) {k : ℕ} (mem : k ∈ s.data)
    (known : s.memory = some (seq k)) : k ∈ s.delivered ∨
      ∃ d ∈ s.delivered, (∀ p ∈ s.acked, p ≤ d) ∧ d < k ∧ seq d = seq k := by
  rcases inv.memory_cases with ⟨-, initial⟩ | ⟨d, hd, remembered, top⟩
  · simp [initial] at known
  · have eq : seq d = seq k := Option.some.inj (remembered.symm.trans known)
    rcases (inv.delivered_le_data d hd k mem).eq_or_lt with rfl | lt
    · exact .inl hd
    · refine .inr ⟨d, hd, ?_, lt, eq⟩
      intro p acked
      exact top p (now.acked_delivered p acked)

theorem Exact.step (distinct : DistinctWithin seq w) (inv : Inv seq none s)
    (sofar : SuccessesWithin w s.acked → Exact seq s) (step : Step seq s t)
    (spaced : SuccessesWithin w t.acked) : Exact seq t := by
  cases step with
  | start idle =>
      have accepted : Exact seq { s with started := s.started + 1, waiting := true } :=
        { sofar spaced with }
      apply accepted.send
      intro p mem
      exact (inv.acked_lt p mem).le
  | resend busy =>
      apply (sofar spaced).send
      intro p mem
      exact Nat.le_sub_one_of_lt (inv.acked_lt p mem)
  | giveUp => exact { sofar spaced with }
  | loseData sub =>
      have now := sofar spaced
      refine { now with acked_le_data := ?_ }
      intro p mem k kept
      exact now.acked_le_data p mem k (sub.subset kept)
  | loseAcks sub =>
      have now := sofar spaced
      exact { now with
        acked_le_acks := fun p mem a ha => now.acked_le_acks p mem a (sub.subset ha)
        acks_delivered := fun a ha => now.acks_delivered a (sub.subset ha) }
  | @deliver k rest arrives fresh =>
      have recorded := (sofar spaced).record (some (seq k)) k
      exact recorded.answer arrives (.inl (by simp))
  | suppress arrives known =>
      have now := sofar spaced
      exact now.answer arrives (now.known_answered inv (arrives ▸ List.mem_cons_self) known)
  | @accept k rest arrives busy matching =>
      have older : ∀ q ∈ s.acked, q < s.started - 1 := by
        intro q mem
        have := inv.busy_acked_lt busy q mem
        omega
      have now := sofar (spaced.of_append older)
      have head : k ∈ s.acks := arrives ▸ List.mem_cons_self
      have tail : ∀ a ∈ rest, a ∈ s.acks := fun a mem => arrives ▸ List.mem_cons_of_mem _ mem
      have sorted := inv.acks_sorted
      rw [arrives, List.pairwise_cons] at sorted
      have newest : k = s.started - 1 := spaced.label_unique distinct
        (fun p mem => now.acked_le_acks p mem k head)
        (Nat.le_sub_one_of_lt (inv.acks_lt k head)) matching
      have done : k ∈ s.delivered := by
        rcases now.acks_delivered k head with done | ⟨d, hd, after, lt, eq⟩
        · exact done
        · have := spaced.label_unique distinct after (by omega) (eq.trans matching)
          omega
      refine ⟨?_, ?_, ?_, fun a mem => .inl ?_⟩
      · simp only [List.mem_append, List.mem_singleton]
        rintro n (old | rfl)
        · exact now.acked_delivered n old
        · exact newest ▸ done
      · simp only [List.mem_append, List.mem_singleton]
        rintro p (old | rfl) a mem
        · exact now.acked_le_acks p old a (tail a mem)
        · exact newest ▸ sorted.1 a mem
      · simp only [List.mem_append, List.mem_singleton]
        rintro p (old | rfl) j mem
        · exact now.acked_le_data p old j mem
        · exact newest ▸ inv.acks_le_data k head j mem
      · have le := sorted.1 a mem
        have lt := inv.acks_lt a (tail a mem)
        have same : a = k := by omega
        exact same ▸ done

/-- With labels distinct within a window and successes spaced within it, every
reported success is for a command that was delivered. -/
theorem acked_delivered (distinct : DistinctWithin seq w)
    (path : Relation.ReflTransGen (Step seq) (State.initial none) s)
    (spaced : SuccessesWithin w s.acked) : ∀ n ∈ s.acked, n ∈ s.delivered := by
  have both : Inv seq none s ∧ (SuccessesWithin w s.acked → Exact seq s) :=
    Runs.reachable_invariant (fun s => Inv seq none s ∧ (SuccessesWithin w s.acked → Exact seq s))
      (fun _ _ inv step => ⟨inv.1.step step, Exact.step distinct inv.1 inv.2 step⟩)
      ⟨Inv.initial, fun _ => Exact.initial⟩ path
  exact (both.2 spaced).acked_delivered

end Window

/-! ### A receiver that outlives its sender -/

/-- The commands accepted so far may be the beginning of another numbering. -/
theorem Inv.renumber {seq seq' : ℕ → Label} {initialMemory : Option Label} {s : State Label}
    (inv : Inv seq initialMemory s) (same : ∀ k < s.started, seq' k = seq k) :
    Inv seq' initialMemory s := by
  have covered (k : ℕ) (lt : k < s.started) (old : Covered seq initialMemory s.delivered k) :
      Covered seq' initialMemory s.delivered k := by
    rcases old with ⟨d, mem, le, eq⟩ | remembered
    · exact .inl ⟨d, mem, le, by rw [same d (inv.delivered_lt d mem), same k lt, eq]⟩
    · exact .inr (by rw [same k lt, remembered])
  refine { inv with memory_eq := ?_, acks_covered := ?_, acked_covered := ?_ }
  · rw [inv.memory_eq]
    cases last : s.delivered.getLast? with
    | none => rfl
    | some d =>
        have lt := inv.delivered_lt d (List.mem_of_getLast? last)
        simp [same d lt]
  · exact fun a mem => covered a (inv.acks_lt a mem) (inv.acks_covered a mem)
  · exact fun n mem => covered n (inv.acked_lt n mem) (inv.acked_covered n mem)

theorem Inv.path {seq : ℕ → Label} {initialMemory : Option Label} {s t : State Label}
    (inv : Inv seq initialMemory s) (path : Relation.ReflTransGen (Step seq) s t) :
    Inv seq initialMemory t :=
  Runs.reachable_invariant _ (fun _ _ inv step => inv.step step) inv path

end StopAndWait
