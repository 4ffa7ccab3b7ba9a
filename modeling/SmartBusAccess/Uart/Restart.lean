import Mathlib.Data.List.Basic
import SmartBusAccess.Uart.Link

/-!
A sender that is re-initialised while the receiver keeps running.

`SenderInit` starts the sequence numbers over at 0 and touches nothing else: the receiver
remembers what it remembered, and what is under way on the two lines arrives or is lost as
before. To the protocol this is a command given up, after which the numbering starts over
(`renumbered`), so its invariants go on.

* `Restarted`: what ties the deliveries to the DATA frames that have arrived since.
* `restarted_sender_delivery`: the first command of the new sender is delivered exactly when a
  frame of it arrives and the receiver does not then remember number 0; acknowledged means
  that one arrived, unless a frame with number 0 of the old sender was under way.
-/

namespace SmartBusAccess.Uart

open StopAndWait

/-! ### The restart -/

/-- The sending side restarts. The lines and the receiver are not its own. -/
def Link.restart (l : Link) (s : UartSender) (ackTimeoutMs : UInt32) (retryLimit : UInt8) : Link :=
  { l with sender := senderInit s ackTimeoutMs retryLimit }

/-- Sequence numbers that start over at command `first`. -/
def renumbered (first k : ℕ) : UInt8 := if k < first then label k else label (k - first)

theorem renumbered_old {first k : ℕ} (old : k < first) : renumbered first k = label k :=
  if_pos old

@[simp] theorem renumbered_first (first : ℕ) : renumbered first first = 0 := by
  simp [renumbered, label]

theorem renumbered_succ {first k : ℕ} (le : first ≤ k) :
    renumbered first (k + 1) = renumbered first k + 1 := by
  have next : k + 1 - first = k - first + 1 := by omega
  rw [renumbered, renumbered, if_neg (by omega), if_neg (by omega), next, label_succ]

/-- The sequence number that a frame carries. -/
def InFlight.seq (m : InFlight) : Option UInt8 := (decodeFrame m.frame).map DecodedFrame.seq

theorem InFlight.seq_data {m : InFlight} {seq cmd : UInt8} (frame : m.frame = encodeData seq cmd) :
    m.seq = some seq := by
  simp [InFlight.seq, frame, decodeFrame_encodeData]

theorem InFlight.seq_ack {m : InFlight} {seq : UInt8} (frame : m.frame = encodeAck seq) :
    m.seq = some seq := by
  simp [InFlight.seq, frame, decodeFrame_encodeAck]

/-! ### What arrives -/

/-- The DATA frame that a step hands to the receiver. -/
def Link.arrival (l : Link) : LinkAction → List InFlight
  | .receive => l.data.head?.toList
  | _ => []

def Link.arrivals (v : UartVariant) (l : Link) (actions : List LinkAction) : List InFlight :=
  (Runs.steps (Link.step v) l actions).flatMap fun p => p.1.arrival p.2

/-- The number that the receiver remembers when some frames have arrived. -/
def Link.heard (before : Link) (arrived : List InFlight) : Option UInt8 :=
  (arrived.getLast?.bind InFlight.seq).or before.receiver.memory

/-- The number that it remembers when what came in of the old sender's frames has arrived. -/
def Link.remembers (before : Link) (arrived : List InFlight) : Option UInt8 :=
  before.heard (arrived.filter fun m => m.start < before.started.length)

/-! ### What ties the deliveries to what has arrived -/

/-- The state of a link at some time after the restart of its sender. -/
structure Link.Restarted (v : UartVariant) (initialMemory : Option UInt8) (before l : Link)
    (arrived : List InFlight) : Prop where
  consistent : l.ConsistentIn (renumbered before.started.length) v
  inv : Inv (renumbered before.started.length) initialMemory l.abs
  started : before.started.length ≤ l.started.length
  busy : l.sender.waitingAck = true → before.started.length < l.started.length
  memory : l.receiver.memory = before.heard arrived
  arrived_lt : ∀ a ∈ arrived, a.start < l.started.length
  numbered : ∀ a ∈ arrived, a.seq = some (renumbered before.started.length a.start)
  sorted : (arrived.map InFlight.start).Pairwise (· ≤ ·)
  behind : ∀ a ∈ arrived, ∀ m ∈ l.data, a.start ≤ m.start
  delivered : before.started.length ∈ l.delivered.map Prod.fst ↔
    before.started.length ∈ arrived.map InFlight.start ∧ before.remembers arrived ≠ some 0
  old_data : ∀ m ∈ arrived ++ l.data, m.start < before.started.length → m ∈ before.data
  acks : ∀ m ∈ l.acks, m ∈ before.acks ∨ m.start ∈ arrived.map InFlight.start
  acked : before.started.length ∈ l.acked →
    before.started.length ∈ arrived.map InFlight.start ∨
      ∃ m ∈ before.data ++ before.acks, m.seq = some 0

section Restarted

variable {v : UartVariant} {initialMemory : Option UInt8} {before l l' : Link}
  {arrived : List InFlight} {cmd : UInt8} {nowMs : UInt32}

/-- A frame of the new sender says nothing about what the old one left. -/
theorem Link.remembers_new {m : InFlight} (new : before.started.length ≤ m.start) :
    before.remembers (arrived ++ [m]) = before.remembers arrived := by
  have none : decide (m.start < before.started.length) = false := by simpa using new
  simp [Link.remembers, List.filter_append, none]

namespace Link.Restarted

/-- Everything that has arrived is from the old sender while no frame of the new one has. -/
theorem memory_old (restarted : Restarted v initialMemory before l arrived)
    (old : ∀ a ∈ arrived, a.start < before.started.length) :
    l.receiver.memory = before.remembers arrived := by
  rw [restarted.memory, remembers, List.filter_eq_self.mpr]
  intro a mem
  simpa using old a mem

/-- When the first command of the new sender was the last to arrive, its number is remembered. -/
theorem memory_first (restarted : Restarted v initialMemory before l arrived)
    (heard : before.started.length ∈ arrived.map InFlight.start)
    (none : ∀ a ∈ arrived, a.start ≤ before.started.length) : l.receiver.memory = some 0 := by
  rcases List.eq_nil_or_concat' arrived with rfl | ⟨front, last, rfl⟩
  · simp at heard
  · have numbered := restarted.numbered last (by simp)
    have sorted := restarted.sorted
    rw [List.map_append, List.pairwise_append] at sorted
    have top : before.started.length ≤ last.start := by
      rw [List.map_append, List.mem_append] at heard
      rcases heard with early | final
      · exact sorted.2.2 _ early last.start (by simp)
      · exact (List.mem_singleton.mp final).le
    have same : last.start = before.started.length := le_antisymm (none last (by simp)) top
    rw [restarted.memory, Link.heard, List.getLast?_concat, Option.bind_some, numbered, same,
      renumbered_first, Option.some_or]

/-- A step that hands nothing to the receiver. What it puts on the line is a frame of the last
command of the new sender. -/
theorem quiet (restarted : Restarted v initialMemory before l arrived)
    (consistent : l'.ConsistentIn (renumbered before.started.length) v)
    (inv : Inv (renumbered before.started.length) initialMemory l'.abs)
    (started : l.started.length ≤ l'.started.length)
    (busy : l'.sender.waitingAck = true → before.started.length < l'.started.length)
    (receiver : l'.receiver = l.receiver) (delivered : l'.delivered = l.delivered)
    (data : ∀ m ∈ l'.data, m ∈ l.data ∨
      before.started.length ≤ m.start ∧ l.started.length ≤ m.start + 1)
    (acks : ∀ m ∈ l'.acks, m ∈ l.acks)
    (acked : before.started.length ∈ l'.acked →
      before.started.length ∈ arrived.map InFlight.start ∨
        ∃ m ∈ before.data ++ before.acks, m.seq = some 0) :
    Restarted v initialMemory before l' arrived where
  consistent := consistent
  inv := inv
  started := restarted.started.trans started
  busy := busy
  memory := by rw [receiver, restarted.memory]
  arrived_lt a mem := (restarted.arrived_lt a mem).trans_le started
  numbered := restarted.numbered
  sorted := restarted.sorted
  behind a mem m sent := by
    rcases data m sent with old | ⟨-, last⟩
    · exact restarted.behind a mem m old
    · have := restarted.arrived_lt a mem
      omega
  delivered := by rw [delivered, restarted.delivered]
  old_data m mem old := by
    rcases List.mem_append.mp mem with before | sent
    · exact restarted.old_data m (List.mem_append_left _ before) old
    · rcases data m sent with there | ⟨new, -⟩
      · exact restarted.old_data m (List.mem_append_right _ there) old
      · exact absurd old (Nat.not_lt.mpr new)
  acks m mem := restarted.acks m (acks m mem)
  acked := acked

theorem start (restarted : Restarted v initialMemory before l arrived)
    (consistent : (l.start v cmd nowMs).ConsistentIn (renumbered before.started.length) v)
    (inv : Inv (renumbered before.started.length) initialMemory (l.start v cmd nowMs).abs) :
    Restarted v initialMemory before (l.start v cmd nowMs) arrived := by
  have first := restarted.started
  unfold Link.start at consistent inv ⊢
  cases result : senderStart v.cmdIsValid l.sender cmd nowMs with
  | none => exact restarted
  | some out =>
      rw [result] at consistent inv
      refine restarted.quiet consistent inv (by simp) ?_ rfl rfl ?_ (fun m mem => mem)
        restarted.acked
      · intro _
        simp only [List.length_append, List.length_singleton]
        omega
      · intro m mem
        rcases List.mem_append.mp mem with old | last
        · exact .inl old
        · rw [List.mem_singleton.mp last]
          exact .inr ⟨first, Nat.le_succ _⟩

theorem poll (restarted : Restarted v initialMemory before l arrived)
    (consistent : (l.poll nowMs).ConsistentIn (renumbered before.started.length) v)
    (inv : Inv (renumbered before.started.length) initialMemory (l.poll nowMs).abs) :
    Restarted v initialMemory before (l.poll nowMs) arrived := by
  unfold Link.poll at consistent inv ⊢
  rcases senderPoll_cases l.sender nowMs with ⟨-, none⟩ | ⟨busy, -, resend⟩ | ⟨-, -, giveUp⟩
  · rw [none] at consistent inv ⊢
    exact restarted
  · rw [resend] at consistent inv ⊢
    have sent := restarted.busy busy
    refine restarted.quiet consistent inv le_rfl (fun _ => sent) rfl rfl ?_ (fun m mem => mem)
      restarted.acked
    intro m mem
    rcases List.mem_append.mp mem with old | last
    · exact .inl old
    · rw [List.mem_singleton.mp last]
      exact .inr ⟨Nat.le_sub_one_of_lt sent, Nat.le_add_of_sub_le le_rfl⟩
  · rw [giveUp] at consistent inv ⊢
    exact restarted.quiet consistent inv le_rfl (fun busy => by simp at busy) rfl rfl
      (fun m mem => .inl mem) (fun m mem => mem) restarted.acked

/-- A first command that is acknowledged was heard, or an acknowledgement that the old sender
was owed passes for its own. -/
theorem acknowledge (restarted : Restarted v initialMemory before l arrived)
    (consistent : l.acknowledge.ConsistentIn (renumbered before.started.length) v)
    (inv : Inv (renumbered before.started.length) initialMemory l.acknowledge.abs) :
    Restarted v initialMemory before l.acknowledge arrived := by
  rcases acknowledge_cases restarted.consistent with ⟨-, same⟩ | ⟨m, rest, arrives, answer⟩
  · rwa [same]
  · have head : m ∈ l.acks := arrives ▸ List.mem_cons_self
    have tail : ∀ ack ∈ rest, ack ∈ l.acks := fun ack mem => arrives ▸ List.mem_cons_of_mem _ mem
    rcases answer with result | ⟨busy, same, result⟩
    · rw [result] at consistent inv ⊢
      exact restarted.quiet consistent inv le_rfl restarted.busy rfl rfl (fun _ mem => .inl mem)
        tail restarted.acked
    · rw [result] at consistent inv ⊢
      refine restarted.quiet consistent inv le_rfl (fun busy => by simp at busy) rfl rfl
        (fun _ mem => .inl mem) tail ?_
      intro success
      rcases List.mem_append.mp success with earlier | now
      · exact restarted.acked earlier
      · have first : before.started.length = l.started.length - 1 := List.mem_singleton.mp now
        have lt : m.start < l.started.length :=
          restarted.inv.acks_lt m.start (List.mem_map.mpr ⟨m, head, rfl⟩)
        have zero : m.seq = some 0 := by
          rw [InFlight.seq_ack (restarted.consistent.ack_frames m head), same, ← first,
            renumbered_first]
        rcases restarted.acks m head with owed | heard
        · exact .inr ⟨m, List.mem_append_right _ owed, zero⟩
        · by_cases own : m.start = before.started.length
          · exact .inl (own ▸ heard)
          · obtain ⟨a, mem, start⟩ := List.mem_map.mp heard
            have old : a.start < before.started.length := by omega
            refine .inr ⟨a, List.mem_append_left _ (restarted.old_data a
              (List.mem_append_left _ mem) old), ?_⟩
            rw [restarted.numbered a mem, start, same, ← first, renumbered_first]

/-- Whether the first command has been delivered when one more frame has arrived. -/
theorem delivered_next (restarted : Restarted v initialMemory before l arrived) {m : InFlight}
    (head : m ∈ l.data) :
    (before.started.length ∈ l.delivered.map Prod.fst ∨
        m.start = before.started.length ∧ l.receiver.memory ≠ some 0) ↔
      before.started.length ∈ (arrived ++ [m]).map InFlight.start ∧
        before.remembers (arrived ++ [m]) ≠ some 0 := by
  have none_ahead : ∀ a ∈ arrived, a.start ≤ m.start := fun a mem =>
    restarted.behind a mem m head
  rw [restarted.delivered, List.map_append, List.mem_append, List.map_singleton,
    List.mem_singleton]
  rcases lt_trichotomy m.start before.started.length with old | first | new
  · have unheard : before.started.length ∉ arrived.map InFlight.start := by
      intro mem
      obtain ⟨a, mem, start⟩ := List.mem_map.mp mem
      have := none_ahead a mem
      omega
    simp [unheard, old.ne, old.ne']
  · rw [remembers_new first.ge]
    by_cases heard : before.started.length ∈ arrived.map InFlight.start
    · have known := restarted.memory_first heard fun a mem => first ▸ none_ahead a mem
      simp [heard, known]
    · have old : ∀ a ∈ arrived, a.start < before.started.length := by
        intro a mem
        refine lt_of_le_of_ne (first ▸ none_ahead a mem) ?_
        intro own
        exact heard (List.mem_map.mpr ⟨a, mem, own⟩)
      simp [heard, first, restarted.memory_old old]
  · rw [remembers_new new.le]
    simp [new.ne, new.ne']

/-- The first command is delivered when its first frame arrives, if the receiver does not then
remember its number. -/
theorem receive (restarted : Restarted v initialMemory before l arrived)
    (consistent : (l.receive v).ConsistentIn (renumbered before.started.length) v)
    (inv : Inv (renumbered before.started.length) initialMemory (l.receive v).abs) :
    Restarted v initialMemory before (l.receive v) (arrived ++ l.data.head?.toList) := by
  rcases receive_cases restarted.consistent with
    ⟨none, same⟩ | ⟨m, rest, c, arrives, found, frame, arrival⟩
  · simpa [same, none] using restarted
  · have head : m ∈ l.data := arrives ▸ List.mem_cons_self
    have tail : ∀ later ∈ rest, later ∈ l.data := fun later mem =>
      arrives ▸ List.mem_cons_of_mem _ mem
    have front : ∀ later ∈ rest, m.start ≤ later.start := by
      have sorted := restarted.inv.data_sorted
      simp only [abs, arrives, List.map_cons, List.pairwise_cons, List.mem_map] at sorted
      exact fun later mem => sorted.1 later.start ⟨later, mem, rfl⟩
    have numbered : m.seq = some (renumbered before.started.length m.start) :=
      InFlight.seq_data frame
    -- what both answers of the receiver leave behind
    have kept (l' : Link) (same : l.receive v = l') (started : l'.started = l.started)
        (sender : l'.sender = l.sender) (data : l'.data = rest)
        (acks : l'.acks = l.acks ++ [⟨m.start, encodeAck (renumbered before.started.length m.start)⟩])
        (acked : l'.acked = l.acked)
        (memory : l'.receiver.memory = some (renumbered before.started.length m.start))
        (delivered : before.started.length ∈ l'.delivered.map Prod.fst ↔
          before.started.length ∈ (arrived ++ [m]).map InFlight.start ∧
            before.remembers (arrived ++ [m]) ≠ some 0) :
        Restarted v initialMemory before (l.receive v) (arrived ++ [m]) := by
      rw [same] at consistent inv ⊢
      refine ⟨consistent, inv, by rw [started]; exact restarted.started,
        by rw [started, sender]; exact restarted.busy, ?_, ?_, ?_, ?_, ?_, delivered, ?_, ?_, ?_⟩
      · rw [memory, heard, List.getLast?_concat, Option.bind_some, numbered, Option.some_or]
      · rw [started]
        intro a mem
        rcases List.mem_append.mp mem with earlier | last
        · exact restarted.arrived_lt a earlier
        · rw [List.mem_singleton.mp last]
          exact (List.getElem?_eq_some_iff.mp found).1
      · intro a mem
        rcases List.mem_append.mp mem with earlier | last
        · exact restarted.numbered a earlier
        · rw [List.mem_singleton.mp last, numbered]
      · rw [List.map_append, List.pairwise_append]
        refine ⟨restarted.sorted, by simp, ?_⟩
        simp only [List.mem_map, List.map_singleton, List.mem_singleton]
        rintro _ ⟨a, mem, rfl⟩ _ rfl
        exact restarted.behind a mem m head
      · rw [data]
        intro a mem later waiting
        rcases List.mem_append.mp mem with earlier | last
        · exact restarted.behind a earlier later (tail later waiting)
        · rw [List.mem_singleton.mp last]
          exact front later waiting
      · rw [data, List.append_assoc, List.singleton_append, ← arrives]
        exact restarted.old_data
      · rw [acks]
        intro ack mem
        rcases List.mem_append.mp mem with earlier | last
        · exact (restarted.acks ack earlier).imp_right fun mem => by simp [mem]
        · exact .inr (by simp [List.mem_singleton.mp last])
      · rw [acked]
        exact fun success => (restarted.acked success).imp_left fun mem => by simp [mem]
    rw [arrives, List.head?_cons, Option.toList_some]
    rcases arrival with ⟨fresh, result⟩ | ⟨known, result⟩
    · refine kept _ result rfl rfl rfl rfl rfl rfl ?_
      rw [← restarted.delivered_next head, List.map_append, List.mem_append, List.map_singleton,
        List.mem_singleton]
      constructor
      · rintro (earlier | now)
        · exact .inl earlier
        · have own : m.start = before.started.length := now.symm
          refine .inr ⟨own, ?_⟩
          rwa [own, renumbered_first] at fresh
      · exact Or.imp_right fun now => now.1.symm
    · refine kept _ result rfl rfl rfl rfl rfl known ?_
      rw [← restarted.delivered_next head]
      constructor
      · exact .inl
      · rintro (earlier | ⟨now, fresh⟩)
        · exact earlier
        · rw [known, now, renumbered_first] at fresh
          exact absurd rfl fresh

theorem step (restarted : Restarted v initialMemory before l arrived) (action : LinkAction) :
    Restarted v initialMemory before (l.step v action) (arrived ++ l.arrival action) := by
  obtain ⟨consistent, path⟩ := step_simulates restarted.consistent action
  have inv := restarted.inv.path path
  cases action with
  | start cmd nowMs =>
      simp only [arrival, List.append_nil]
      exact restarted.start consistent inv
  | poll nowMs =>
      simp only [arrival, List.append_nil]
      exact restarted.poll consistent inv
  | receive => exact restarted.receive consistent inv
  | acknowledge =>
      simp only [arrival, List.append_nil]
      exact restarted.acknowledge consistent inv
  | loseData i =>
      simp only [arrival, List.append_nil]
      exact restarted.quiet consistent inv le_rfl restarted.busy rfl rfl
        (fun m mem => .inl (List.mem_of_mem_eraseIdx mem)) (fun m mem => mem) restarted.acked
  | loseAck i =>
      simp only [arrival, List.append_nil]
      exact restarted.quiet consistent inv le_rfl restarted.busy rfl rfl (fun m mem => .inl mem)
        (fun m mem => List.mem_of_mem_eraseIdx mem) restarted.acked

end Link.Restarted

/-- At the restart, what the old sender was told and what it sent is numbered as before. -/
theorem Link.restarted_initial (consistent : before.Consistent v)
    (inv : Inv label initialMemory before.abs) (s : UartSender) (ackTimeoutMs : UInt32)
    (retryLimit : UInt8) :
    Restarted v initialMemory before (before.restart s ackTimeoutMs retryLimit) [] := by
  have old (k : ℕ) (lt : k < before.started.length) :
      renumbered before.started.length k = label k := renumbered_old lt
  have given : Inv label initialMemory (before.restart s ackTimeoutMs retryLimit).abs :=
    inv.step (Step.giveUp (s := before.abs))
  refine ⟨⟨?_, fun k => renumbered_succ, ?_, ?_, ?_, consistent.delivered_cmds⟩,
    given.renumber old, le_rfl, ?_, ?_, by simp, by simp, by simp, by simp, ?_, ?_, ?_, ?_⟩
  · simp [restart, senderInit]
  · simp [restart, senderInit]
  · intro m mem
    obtain ⟨c, found, valid, frame⟩ := consistent.data_frames m mem
    exact ⟨c, found, valid, by rw [old _ (List.getElem?_eq_some_iff.mp found).1, frame]⟩
  · intro m mem
    have lt := inv.acks_lt m.start (List.mem_map.mpr ⟨m, mem, rfl⟩)
    rw [old _ lt, consistent.ack_frames m mem]
  · simp [restart, senderInit]
  · simp [restart, heard]
  · have new : before.started.length ∉ before.delivered.map Prod.fst := fun mem =>
      absurd (inv.delivered_lt _ mem) (Nat.lt_irrefl _)
    simpa [restart] using new
  · exact fun m mem _ => mem
  · exact fun m mem => .inl mem
  · intro mem
    exact absurd (inv.acked_lt _ mem) (Nat.lt_irrefl _)

end Restarted

/-! ### The first command of the new sender -/

/-- What a restart would need: the first command of the new sender is
delivered whenever it is acknowledged. -/
def Link.RestartDelivers (v : UartVariant) (before : Link) : Prop :=
  ∀ (s : UartSender) (ackTimeoutMs : UInt32) (retryLimit : UInt8) (actions : List LinkAction),
    let l := Link.run v (before.restart s ackTimeoutMs retryLimit) actions
    before.started.length ∈ l.acked →
      ∃ d ∈ l.delivered, d.1 = before.started.length ∧
        l.started[before.started.length]? = some d.2

/-- Whatever happened before the restart, an acknowledged first command was
delivered exactly when a frame of it arrived and the receiver did not then remember
number 0. One arrived unless a frame with that number of the old sender was under
way. With nothing under way, what the receiver remembered at the restart decides. -/
theorem restarted_sender_delivery (v : UartVariant) (old : UartSender) (oldTimeoutMs : UInt32)
    (oldLimit : UInt8) (r : UartReceiver) (earlier : List LinkAction) (s : UartSender)
    (ackTimeoutMs : UInt32) (retryLimit : UInt8) (actions : List LinkAction) :
    let before := Link.run v (.initial (senderInit old oldTimeoutMs oldLimit) r) earlier
    let first := before.started.length
    let l := Link.run v (before.restart s ackTimeoutMs retryLimit) actions
    let arrived := (before.restart s ackTimeoutMs retryLimit).arrivals v actions
    let Delivered := ∃ d ∈ l.delivered, d.1 = first ∧ l.started[first]? = some d.2
    first ∈ l.acked →
      (Delivered ↔ first ∈ arrived.map InFlight.start ∧ before.remembers arrived ≠ some 0) ∧
        ((∀ m ∈ before.data ++ before.acks, m.seq ≠ some 0) →
          first ∈ arrived.map InFlight.start) ∧
        (before.data = [] → before.acks = [] →
          (Delivered ↔ ¬ (before.receiver.hasLastSeq = true ∧ before.receiver.lastSeq = 0))) := by
  intro before first l arrived Delivered success
  obtain ⟨consistent, path⟩ := Link.reachable v old oldTimeoutMs oldLimit r earlier
  have restarted : Link.Restarted v r.memory before l arrived :=
    Runs.run_history (Link.Restarted v r.memory before) Link.arrival
      (fun _ _ action here => here.step action)
      (Link.restarted_initial consistent (Inv.reachable path) s ackTimeoutMs retryLimit) actions
  have delivered : Delivered ↔
      first ∈ arrived.map InFlight.start ∧ before.remembers arrived ≠ some 0 := by
    rw [← restarted.delivered]
    constructor
    · rintro ⟨d, mem, start, -⟩
      exact List.mem_map.mpr ⟨d, mem, start⟩
    · intro mem
      obtain ⟨d, mem, start⟩ := List.mem_map.mp mem
      have found := restarted.consistent.delivered_cmds d mem
      rw [start] at found
      exact ⟨d, mem, start, found⟩
  have heard (clear : ∀ m ∈ before.data ++ before.acks, m.seq ≠ some 0) :
      first ∈ arrived.map InFlight.start := by
    rcases restarted.acked success with heard | ⟨m, mem, zero⟩
    · exact heard
    · exact absurd zero (clear m mem)
  refine ⟨delivered, heard, fun data acks => ?_⟩
  have none : arrived.filter (fun m => m.start < before.started.length) = [] := by
    rw [List.filter_eq_nil_iff]
    intro m mem
    by_contra old
    have there := restarted.old_data m (List.mem_append_left _ mem) (by simpa using old)
    rw [data] at there
    cases there
  have memory : before.receiver.memory = some 0 ↔
      before.receiver.hasLastSeq = true ∧ before.receiver.lastSeq = 0 := by
    rw [UartReceiver.memory]
    split <;> simp_all
  have there := heard (by simp [data, acks])
  rw [delivered, ← memory, Link.remembers, none]
  simp [there, Link.heard]

/-- The receiver has delivered commands 0 and 1 of the old sender, and a copy of the second is
still under way. The first command of the new one is delivered. -/
theorem restarted_sender_delivery_second :
    let before := Link.run .ble (.initial (senderInit .zero 0 0) receiverInit)
      [.start 4 0, .receive, .acknowledge, .start 0 40, .receive, .poll 60]
    let l := Link.run .ble (before.restart .zero 0 0)
      [.start 4 0, .receive, .receive, .acknowledge, .acknowledge, .acknowledge]
    ∃ d ∈ l.delivered, d.1 = before.started.length ∧
      l.started[before.started.length]? = some d.2 := by
  have second := restarted_sender_delivery .ble .zero 0 0 receiverInit
    [.start 4 0, .receive, .acknowledge, .start 0 40, .receive, .poll 60] .zero 0 0
    [.start 4 0, .receive, .receive, .acknowledge, .acknowledge, .acknowledge]
  exact (second (by decide +kernel)).1.mpr (by decide +kernel)

/-- A receiver that delivered exactly one command of the earlier sender
acknowledges the first command of the new one and does not deliver it. -/
theorem restart_suppresses_first :
    ¬ Link.RestartDelivers .slope (Link.run .slope (Link.fresh .zero 0 0)
      [.start slopeUartReqOpen 0, .receive, .acknowledge]) := by
  intro delivers
  have first := delivers .zero 0 0 [.start slopeUartReqClose 0, .receive, .acknowledge]
  revert first
  decide +kernel

end SmartBusAccess.Uart
