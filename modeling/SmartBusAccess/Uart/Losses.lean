import Mathlib.Data.List.Perm.Basic
import SmartBusAccess.Uart.Link

/-!
What it takes to make a sender give up.

`AuditedLink` is a link with a record of the frames that are written to the lines, lost and
answered, each by the index of its command. Every frame written is under way, lost or answered,
and so is the acknowledgement in its place (`Audited.balance`).

`give_up_needs_losses`: a command is given up when all its transmissions are used up and none of
them has come through, so with the lines empty each of them was lost, or its acknowledgement.
-/

namespace SmartBusAccess.Uart

/-! ### The record -/

/-- A give-up also notes how many frames about its command are still under way. -/
inductive LineEvent where
  | sent (k : ℕ)
  | lost (k : ℕ)
  | answered (k : ℕ)
  | gaveUp (k underWay : ℕ)
deriving DecidableEq, Repr

/-- The frames about a command, and the acknowledgements of such frames, on the lines. -/
def Link.underWay (l : Link) (k : ℕ) : ℕ :=
  (l.data.map InFlight.start).count k + (l.acks.map InFlight.start).count k

/-- The command started last. -/
def Link.newest (l : Link) : ℕ := l.started.length - 1

/-- What an action adds to the record. -/
def Link.audit (v : UartVariant) (l : Link) : LinkAction → List LineEvent
  | .start cmd nowMs =>
      match senderStart v.cmdIsValid l.sender cmd nowMs with
      | some _ => [.sent l.started.length]
      | none => []
  | .poll nowMs =>
      match (senderPoll l.sender nowMs).2 with
      | .resend _ => [.sent l.newest]
      | .giveUp => [.gaveUp l.newest (l.underWay l.newest)]
      | .none => []
  | .receive => []
  | .acknowledge => l.acks.head?.toList.map fun m => .answered m.start
  | .loseData i => l.data[i]?.toList.map fun m => .lost m.start
  | .loseAck i => l.acks[i]?.toList.map fun m => .lost m.start

structure AuditedLink where
  link : Link
  record : List LineEvent
deriving DecidableEq, Repr

namespace AuditedLink

def step (v : UartVariant) (s : AuditedLink) (action : LinkAction) : AuditedLink :=
  ⟨s.link.step v action, s.record ++ s.link.audit v action⟩

abbrev run (v : UartVariant) : AuditedLink → List LinkAction → AuditedLink := Runs.run (step v)

/-- A give-up after some events: all transmissions were made, and none of them was answered. -/
def Exhausted (limit : UInt8) (before : List LineEvent) (event : LineEvent) : Prop :=
  ∀ k underWay, event = .gaveUp k underWay →
    before.count (.sent k) = limit.toNat + 1 ∧ before.count (.answered k) = 0 ∧
    before.count (.lost k) + underWay = limit.toNat + 1

/-- Every event of the record stands so to those before it. -/
def Throughout (Q : List LineEvent → LineEvent → Prop) (record : List LineEvent) : Prop :=
  ∀ front event back, record = front ++ event :: back → Q front event

section Throughout

variable {Q : List LineEvent → LineEvent → Prop} {record : List LineEvent}

theorem Throughout.nil : Throughout Q [] := by
  intro front event back split
  simp at split

theorem Throughout.snoc {event : LineEvent} (old : Throughout Q record) (new : Q record event) :
    Throughout Q (record ++ [event]) := by
  intro front other back split
  rcases List.eq_nil_or_concat' back with rfl | ⟨init, last, rfl⟩
  · obtain ⟨rfl, same⟩ := List.append_inj' split rfl
    cases same
    exact new
  · have parts : record ++ [event] = (front ++ other :: init) ++ [last] := by simpa using split
    obtain ⟨rfl, -⟩ := List.append_inj' parts rfl
    exact old front other init rfl

end Throughout

/-! ### The balance -/

/-- What every step keeps. `limit` is the sender's retry limit. -/
structure Audited (v : UartVariant) (limit : UInt8) (s : AuditedLink) : Prop where
  consistent : s.link.Consistent v
  limited : s.link.sender.retryLimit = limit
  balance : ∀ k, s.record.count (.sent k) =
    s.link.underWay k + s.record.count (.lost k) + s.record.count (.answered k)
  unsent : ∀ k, s.link.started.length ≤ k → s.record.count (.sent k) = 0
  busy : s.link.sender.waitingAck = true → 0 < s.link.started.length ∧
    s.link.sender.retryCount ≤ limit ∧
    s.record.count (.sent s.link.newest) = s.link.sender.retryCount.toNat + 1 ∧
    s.record.count (.answered s.link.newest) = 0
  exhausted : Throughout (Exhausted limit) s.record

variable {v : UartVariant} {limit : UInt8} {s : AuditedLink}

theorem Audited.start (audited : Audited v limit s) (cmd : UInt8) (nowMs : UInt32) :
    Audited v limit (s.step v (.start cmd nowMs)) := by
  have consistent := (Link.start_simulates audited.consistent cmd nowMs).1
  unfold step
  simp only [Link.step, Link.audit]
  unfold Link.start at consistent ⊢
  cases result : senderStart v.cmdIsValid s.link.sender cmd nowMs with
  | none =>
      rw [result] at consistent
      simp only [List.append_nil]
      exact audited
  | some out =>
      obtain ⟨sender, frame⟩ := out
      rw [result] at consistent
      obtain ⟨-, -, -, rfl⟩ := senderStart_cases result
      have fresh := audited.unsent s.link.started.length (Nat.le_refl _)
      have none := audited.balance s.link.started.length
      refine ⟨consistent, audited.limited, ?_, ?_, ?_, ?_⟩
      · intro k
        have old := audited.balance k
        simp only [Link.underWay, List.count_append, List.map_append] at old ⊢
        by_cases same : s.link.started.length = k
        · subst same
          simp
          omega
        · simp [same]
          omega
      · intro k past
        simp only [List.length_append, List.length_singleton] at past
        have old := audited.unsent k (by omega)
        have other : s.link.started.length ≠ k := by omega
        simp [old, other]
      · intro _
        have newest : (s.link.started ++ [cmd]).length - 1 = s.link.started.length := by simp
        simp only [Link.newest, newest]
        refine ⟨by simp, UInt8.zero_le, ?_, ?_⟩
        · simp [fresh]
        · simp only [List.count_append, Nat.add_eq_zero_iff]
          exact ⟨by omega, by simp⟩
      · apply audited.exhausted.snoc
        intro k underWay other
        cases other

theorem Audited.poll (audited : Audited v limit s) (nowMs : UInt32) :
    Audited v limit (s.step v (.poll nowMs)) := by
  have consistent := (Link.poll_simulates audited.consistent nowMs).1
  unfold step
  simp only [Link.step, Link.audit]
  unfold Link.poll at consistent ⊢
  rcases senderPoll_due s.link.sender nowMs with
      ⟨-, quiet⟩ | ⟨waiting, -, ⟨retry, resend⟩ | ⟨spent, giveUp⟩⟩
  · rw [quiet] at consistent ⊢
    simp only [List.append_nil]
    exact ⟨consistent, audited.limited, audited.balance, audited.unsent, audited.busy,
      audited.exhausted⟩
  · rw [resend] at consistent ⊢
    obtain ⟨started, -, sent, unanswered⟩ := audited.busy waiting
    rw [audited.limited] at retry
    have count := s.link.sender.retryCount.toNat_lt
    have below : s.link.sender.retryCount.toNat < limit.toNat := UInt8.lt_iff_toNat_lt.mp retry
    have bounded := limit.toNat_lt
    have next : (s.link.sender.retryCount + 1).toNat = s.link.sender.retryCount.toNat + 1 := by
      rw [UInt8.toNat_add]
      simp only [UInt8.toNat_one]
      omega
    refine ⟨consistent, audited.limited, ?_, ?_, ?_, ?_⟩
    · intro k
      have old := audited.balance k
      simp only [Link.underWay, List.count_append, List.map_append] at old ⊢
      by_cases same : s.link.newest = k
      · have index : s.link.started.length - 1 = k := same
        subst same
        simp [index]
        omega
      · have index : s.link.started.length - 1 ≠ k := same
        simp [same, index]
        omega
    · intro k past
      have old := audited.unsent k past
      have other : s.link.newest ≠ k := by
        unfold Link.newest
        have length : s.link.started.length ≤ k := past
        omega
      simp [old, other]
    · intro _
      refine ⟨started, UInt8.le_iff_toNat_le.mpr (by rw [next]; omega), ?_, ?_⟩
      · show (s.record ++ [LineEvent.sent s.link.newest]).count (LineEvent.sent s.link.newest) = _
        simp [sent, next]
      · show (s.record ++ [LineEvent.sent s.link.newest]).count (LineEvent.answered s.link.newest) = 0
        simp [unanswered]
    · apply audited.exhausted.snoc
      intro k underWay other
      cases other
  · rw [giveUp] at consistent ⊢
    obtain ⟨started, limited, sent, unanswered⟩ := audited.busy waiting
    rw [audited.limited] at spent
    have all : s.link.sender.retryCount.toNat = limit.toNat := by
      rw [UInt8.lt_iff_toNat_lt] at spent
      rw [UInt8.le_iff_toNat_le] at limited
      omega
    refine ⟨consistent, audited.limited, ?_, ?_, ?_, ?_⟩
    · intro k
      have old := audited.balance k
      simpa [Link.underWay] using old
    · intro k past
      simpa using audited.unsent k past
    · intro busy
      cases busy
    · apply audited.exhausted.snoc
      intro k underWay same
      cases same
      have balance := audited.balance s.link.newest
      exact ⟨by omega, unanswered, by omega⟩

/-- A frame that arrives is answered, so its acknowledgement takes its place. -/
theorem Audited.receive (audited : Audited v limit s) : Audited v limit (s.step v .receive) := by
  have consistent := (Link.receive_simulates audited.consistent).1
  unfold step
  simp only [Link.step, Link.audit, List.append_nil]
  have same : (s.link.receive v).sender = s.link.sender ∧
      (s.link.receive v).started = s.link.started ∧
      ∀ k, (s.link.receive v).underWay k = s.link.underWay k := by
    unfold Link.receive
    cases arrives : s.link.data with
    | nil => exact ⟨rfl, rfl, fun _ => rfl⟩
    | cons m rest =>
        obtain ⟨c, -, valid, frame⟩ :=
          audited.consistent.data_frames m (arrives ▸ List.mem_cons_self)
        simp only [frame, decodeFrame_encodeData]
        rcases receiverOnFrame_data s.link.receiver (label m.start) valid with
            ⟨-, result⟩ | ⟨-, result⟩
        · simp only [result, true_and]
          intro k
          simp [Link.underWay, arrives, List.count_cons]
          omega
        · simp only [result, true_and]
          intro k
          simp [Link.underWay, arrives, List.count_cons]
          omega
  obtain ⟨sender, started, underWay⟩ := same
  have newest : (s.link.receive v).newest = s.link.newest := by rw [Link.newest, started]; rfl
  refine ⟨consistent, ?_, ?_, ?_, ?_, audited.exhausted⟩
  · rw [sender]
    exact audited.limited
  · intro k
    rw [underWay]
    exact audited.balance k
  · rw [started]
    exact audited.unsent
  · rw [sender, started, newest]
    exact audited.busy

theorem Audited.acknowledge (audited : Audited v limit s) :
    Audited v limit (s.step v .acknowledge) := by
  have consistent := (Link.acknowledge_simulates audited.consistent).1
  unfold step
  simp only [Link.step, Link.audit]
  unfold Link.acknowledge at consistent ⊢
  cases arrives : s.link.acks with
  | nil =>
      rw [arrives] at consistent
      simp only [List.head?_nil, Option.toList_none, List.map_nil, List.append_nil]
      exact audited
  | cons m rest =>
      rw [arrives] at consistent
      have frame := audited.consistent.ack_frames m (arrives ▸ List.mem_cons_self)
      have balance : ∀ k, (s.record ++ [LineEvent.answered m.start]).count (.sent k) =
          (s.link.data.map InFlight.start).count k + (rest.map InFlight.start).count k +
            (s.record ++ [LineEvent.answered m.start]).count (.lost k) +
            (s.record ++ [LineEvent.answered m.start]).count (.answered k) := by
        intro k
        have old := audited.balance k
        simp only [Link.underWay, arrives, List.map_cons, List.count_cons] at old
        simp only [List.count_append, List.count_singleton]
        by_cases same : m.start = k
        · simp [same] at old ⊢
          omega
        · simp [same] at old ⊢
          omega
      have exhausted : Throughout (Exhausted limit) (s.record ++ [.answered m.start]) := by
        apply audited.exhausted.snoc
        intro k underWay other
        cases other
      simp only [List.head?_cons, Option.toList_some, List.map_cons, List.map_nil]
      cases result : (decodeFrame m.frame).bind (senderOnFrame s.link.sender) with
      | none =>
          simp only [result] at consistent
          refine ⟨consistent, audited.limited, balance, ?_, ?_, exhausted⟩
          · intro k past
            simpa using audited.unsent k past
          · intro busy
            have waiting : s.link.sender.waitingAck = true := busy
            obtain ⟨started, limited, sent, unanswered⟩ := audited.busy waiting
            -- an answer about the newest command would have been taken
            have other : m.start ≠ s.link.newest := by
              intro same
              obtain ⟨c, -, -, seq, -⟩ := audited.consistent.pending waiting
              rw [frame, decodeFrame_encodeAck, Option.bind_some, same, Link.newest,
                ← seq] at result
              simp [senderOnFrame, waiting] at result
            refine ⟨started, limited, ?_, ?_⟩
            · show (s.record ++ [LineEvent.answered m.start]).count (LineEvent.sent s.link.newest) = _
              simp [sent]
            · show (s.record ++ [LineEvent.answered m.start]).count (LineEvent.answered s.link.newest) = 0
              simp [unanswered, other]
      | some sender =>
          simp only [result] at consistent
          obtain ⟨rx, -, taken⟩ := Option.bind_eq_some_iff.mp result
          obtain ⟨-, -, -, rfl⟩ := senderOnFrame_cases taken
          refine ⟨consistent, audited.limited, balance, ?_, ?_, exhausted⟩
          · intro k past
            simpa using audited.unsent k past
          · intro busy
            cases busy

/-- A frame is taken off its line and noted. -/
theorem Audited.lose (audited : Audited v limit s) {link : Link} {m : InFlight}
    (consistent : link.Consistent v) (sender : link.sender = s.link.sender)
    (started : link.started = s.link.started)
    (gone : ∀ k, s.link.underWay k = link.underWay k + if m.start = k then 1 else 0) :
    Audited v limit ⟨link, s.record ++ [.lost m.start]⟩ := by
  have newest : link.newest = s.link.newest := by rw [Link.newest, started]; rfl
  refine ⟨consistent, ?_, ?_, ?_, ?_, ?_⟩
  · rw [sender]
    exact audited.limited
  · intro k
    have old := audited.balance k
    rw [gone] at old
    by_cases same : m.start = k
    · simp [same] at old ⊢
      omega
    · simp [same] at old ⊢
      omega
  · intro k past
    rw [started] at past
    simpa using audited.unsent k past
  · rw [sender, started, newest]
    simpa using audited.busy
  · apply audited.exhausted.snoc
    intro k underWay other
    cases other

theorem count_eraseIdx {l : List InFlight} {i : ℕ} {m : InFlight} (there : l[i]? = some m) (k : ℕ) :
    (l.map InFlight.start).count k =
      ((l.eraseIdx i).map InFlight.start).count k + if m.start = k then 1 else 0 := by
  obtain ⟨bound, rfl⟩ := List.getElem?_eq_some_iff.mp there
  have same := ((List.getElem_cons_eraseIdx_perm bound).map InFlight.start).count_eq k
  rw [← same, List.map_cons, List.count_cons]
  simp

theorem Audited.step (audited : Audited v limit s) (action : LinkAction) :
    Audited v limit (s.step v action) := by
  cases action with
  | start cmd nowMs => exact audited.start cmd nowMs
  | poll nowMs => exact audited.poll nowMs
  | receive => exact audited.receive
  | acknowledge => exact audited.acknowledge
  | loseData i =>
      have consistent := (Link.step_simulates audited.consistent (.loseData i)).1
      unfold AuditedLink.step
      simp only [Link.audit]
      cases there : s.link.data[i]? with
      | none =>
          have same : s.link.step v (.loseData i) = s.link := by
            have past : s.link.data.length ≤ i := List.getElem?_eq_none_iff.mp there
            simp [Link.step, Link.loseData, List.eraseIdx_of_length_le past]
          rw [same]
          simpa using audited
      | some m =>
          apply audited.lose consistent rfl rfl
          intro k
          have count := count_eraseIdx there k
          simp only [Link.underWay, Link.step, Link.loseData] at count ⊢
          omega
  | loseAck i =>
      have consistent := (Link.step_simulates audited.consistent (.loseAck i)).1
      unfold AuditedLink.step
      simp only [Link.audit]
      cases there : s.link.acks[i]? with
      | none =>
          have same : s.link.step v (.loseAck i) = s.link := by
            have past : s.link.acks.length ≤ i := List.getElem?_eq_none_iff.mp there
            simp [Link.step, Link.loseAck, List.eraseIdx_of_length_le past]
          rw [same]
          simpa using audited
      | some m =>
          apply audited.lose consistent rfl rfl
          intro k
          have count := count_eraseIdx there k
          simp only [Link.underWay, Link.step, Link.loseAck] at count ⊢
          omega

/-- Both ends initialised, nothing sent. -/
def fresh (s : UartSender) (ackTimeoutMs : UInt32) (retryLimit : UInt8) : AuditedLink :=
  ⟨.fresh s ackTimeoutMs retryLimit, []⟩

theorem fresh_audited (v : UartVariant) (s : UartSender) (ackTimeoutMs : UInt32)
    (retryLimit : UInt8) :
    Audited v (senderInit s ackTimeoutMs retryLimit).retryLimit
      (fresh s ackTimeoutMs retryLimit) where
  consistent := Link.consistent_initial v s ackTimeoutMs retryLimit receiverInit
  limited := rfl
  balance k := by simp [fresh, Link.fresh, Link.initial, Link.underWay]
  unsent k _ := rfl
  busy waiting := by cases waiting
  exhausted := .nil

/-- In every run, a command that is given up has been sent once more than the retry limit says,
and none of these frames has been answered: each is still under way, or was lost, or its
acknowledgement was. -/
theorem give_up_needs_losses (v : UartVariant) (s : UartSender) (ackTimeoutMs : UInt32)
    (retryLimit : UInt8) (actions : List LinkAction) :
    Throughout (Exhausted (senderInit s ackTimeoutMs retryLimit).retryLimit)
      (run v (fresh s ackTimeoutMs retryLimit) actions).record :=
  (Runs.run_invariant (Audited v (senderInit s ackTimeoutMs retryLimit).retryLimit)
    (fun _ action audited => audited.step action) (fresh_audited v s ackTimeoutMs retryLimit)
    actions).exhausted

end AuditedLink

end SmartBusAccess.Uart
