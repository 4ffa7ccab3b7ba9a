import SmartBusAccess.Semantics.Looping
import SmartBusAccess.Uart.BleGlue
import SmartBusAccess.Uart.ParserStream

/-!
What the door ECU takes out of its BLE mailbox (`ble_uart_tc375_lite.c`).

Each poll reads all that has come in, and the caller then empties the mailbox. The receiver
delivers a command for every valid DATA frame whose sequence number is not that of the one
before. The mailbox holds one command, so the caller gets them all exactly when no poll
delivers two (`ble_mailbox_keeps_iff`).
-/

namespace SmartBusAccess.Uart

open Looping Runs

/-! ### The caller's loop -/

/-- The body of `while (bleUartTc375ConsumeCmd(&cmd) != 0u)`, with the commands so far. -/
def bleUartTc375ConsumeTurn :
    BleUartTc375 × List UInt8 → Turn (BleUartTc375 × List UInt8) (BleUartTc375 × List UInt8)
  | (g, handed) =>
      match bleUartTc375ConsumeCmd g with
      | none => .done (g, handed)
      | some (g, cmd) => .again (g, handed ++ [cmd])

def bleUartTc375ConsumeAll (g : BleUartTc375) : BleUartTc375 × List UInt8 :=
  ({ g with hasPendingCmd := false }, if g.hasPendingCmd then [g.pendingCmd] else [])

/-- The loop goes around at most once. -/
theorem bleUartTc375ConsumeAll_loop (g : BleUartTc375) :
    loop bleUartTc375ConsumeTurn 2 (g, []) = some (bleUartTc375ConsumeAll g) := by
  obtain ⟨parser, receiver, initialized, pending, cmd⟩ := g
  cases pending <;> rfl

/-- What one poll and the loop after it do. -/
structure BleRound where
  results : List RxResult
  handed : List UInt8

/-- What the receiver flagged `RX_DELIVER`. -/
def BleRound.delivered (round : BleRound) : List UInt8 := round.results.filterMap RxResult.deliver

def bleUartTc375Round (g : BleUartTc375) (rx : List UInt8) : BleUartTc375 × BleRound :=
  let (g, results) := bleUartTc375Poll g rx
  let (g, handed) := bleUartTc375ConsumeAll g
  (g, ⟨results, handed⟩)

/-! ### The commands in a stream -/

def DecodedFrame.isCommand (rx : DecodedFrame) : Bool :=
  rx.type == typeData && bleUartCmdIsValid rx.cmd

/-- The sequence number of the last command, `memory` before the first. -/
def lastHeard (memory : Option UInt8) : List DecodedFrame → Option UInt8
  | [] => memory
  | rx :: rest => lastHeard (if rx.isCommand then some rx.seq else memory) rest

/-- The commands whose sequence number is not that of the one before. -/
def newCommands (memory : Option UInt8) : List DecodedFrame → List UInt8
  | [] => []
  | rx :: rest =>
      let later := newCommands (if rx.isCommand then some rx.seq else memory) rest
      if rx.isCommand ∧ memory ≠ some rx.seq then rx.cmd :: later else later

/-- The stream as it comes in, in pieces: the parser and the last sequence number, and the
commands that are new in each piece. -/
def hear (s : UartParser × Option UInt8) (rx : List UInt8) :
    (UartParser × Option UInt8) × List UInt8 :=
  let frames := decodedFrames (outputs parserFeed s.1 rx)
  ((parserRun s.1 rx, lastHeard s.2 frames), newCommands s.2 frames)

/-! ### One poll -/

theorem bleUartReceiverOnFrame_hears (r : UartReceiver) (rx : DecodedFrame) :
    (bleUartReceiverOnFrame r rx).1.memory = (if rx.isCommand then some rx.seq else r.memory) ∧
      (bleUartReceiverOnFrame r rx).2.deliver =
        if rx.isCommand ∧ r.memory ≠ some rx.seq then some rx.cmd else none := by
  obtain ⟨type, seq, cmd⟩ := rx
  by_cases data : type = typeData
  · subst data
    cases valid : bleUartCmdIsValid cmd with
    | true =>
        rcases receiverOnFrame_data r seq valid with ⟨new, frame⟩ | ⟨old, frame⟩
        · have fresh : (⟨true, seq⟩ : UartReceiver).memory = some seq := rfl
          simp [frame, DecodedFrame.isCommand, valid, new, fresh]
        · simp [frame, DecodedFrame.isCommand, valid, old]
    | false => simp [receiverOnFrame, DecodedFrame.isCommand, valid]
  · simp [receiverOnFrame, DecodedFrame.isCommand, data]

/-- The command in the mailbox. -/
def BleUartTc375.held (g : BleUartTc375) : Option UInt8 :=
  if g.hasPendingCmd then some g.pendingCmd else none

/-- What a piece of the stream does to the parser, the receiver and the mailbox: the last new
command is left there. -/
structure Hears (g g' : BleUartTc375) (rx : List UInt8) (results : List RxResult) : Prop where
  stream : (g'.parser, g'.receiver.memory) = (hear (g.parser, g.receiver.memory) rx).1
  delivered : results.filterMap RxResult.deliver = (hear (g.parser, g.receiver.memory) rx).2
  held : g'.held = ((hear (g.parser, g.receiver.memory) rx).2.getLast?).or g.held
  initialized : g'.initialized = g.initialized

/-- One byte more, when it completes a frame and when it does not. -/
theorem hear_cons (s : UartParser × Option UInt8) (byte : UInt8) (rest : List UInt8) :
    hear s (byte :: rest) =
      match (parserFeed s.1 byte).2.frame? with
      | some rx =>
          let later := hear ((parserFeed s.1 byte).1, if rx.isCommand then some rx.seq else s.2) rest
          (later.1, if rx.isCommand ∧ s.2 ≠ some rx.seq then rx.cmd :: later.2 else later.2)
      | none => hear ((parserFeed s.1 byte).1, s.2) rest := by
  cases frame : (parserFeed s.1 byte).2.frame? with
  | none => simp [hear, outputs, decodedFrames, frame, parserRun, next]
  | some rx => simp [hear, outputs, decodedFrames, frame, parserRun, next, lastHeard, newCommands]

theorem bleUartTc375PollByte_cases (g : BleUartTc375) (byte : UInt8) :
    match (parserFeed g.parser byte).2.frame? with
    | some rx =>
        let g' := (bleUartTc375PollByte g byte).1
        ∃ flags, (bleUartTc375PollByte g byte).2 = some flags ∧
          g'.parser = (parserFeed g.parser byte).1 ∧
          g'.receiver.memory = (if rx.isCommand then some rx.seq else g.receiver.memory) ∧
          flags.deliver =
            (if rx.isCommand ∧ g.receiver.memory ≠ some rx.seq then some rx.cmd else none) ∧
          g'.held = flags.deliver.or g.held ∧ g'.initialized = g.initialized
    | none =>
        bleUartTc375PollByte g byte = ({ g with parser := (parserFeed g.parser byte).1 }, none) := by
  rcases result : parserFeed g.parser byte with ⟨parser, rc⟩
  cases rc with
  | ok rx =>
      obtain ⟨memory, deliver⟩ := bleUartReceiverOnFrame_hears g.receiver rx
      refine ⟨(bleUartReceiverOnFrame g.receiver rx).2, ?_⟩
      simp only [bleUartTc375PollByte, result, bleUartTc375HandleDecodedFrame]
      cases delivered : (bleUartReceiverOnFrame g.receiver rx).2.deliver with
      | none =>
          rw [delivered] at deliver
          exact ⟨rfl, rfl, memory, deliver, rfl, rfl⟩
      | some cmd =>
          rw [delivered] at deliver
          exact ⟨rfl, rfl, memory, deliver, rfl, rfl⟩
  | none => simp [ParseResult.frame?, bleUartTc375PollByte, result]
  | error => simp [ParseResult.frame?, bleUartTc375PollByte, result]

theorem bleUartTc375PollBytes_hears (g : BleUartTc375) (rx : List UInt8) :
    Hears g (bleUartTc375PollBytes g rx).1 rx (bleUartTc375PollBytes g rx).2 := by
  induction rx generalizing g with
  | nil => exact ⟨rfl, rfl, rfl, rfl⟩
  | cons byte rest ih =>
      obtain ⟨stream, delivered, held, initialized⟩ := ih (bleUartTc375PollByte g byte).1
      have step := bleUartTc375PollByte_cases g byte
      have heard := hear_cons (g.parser, g.receiver.memory) byte rest
      simp only [bleUartTc375PollBytes]
      cases frame : (parserFeed g.parser byte).2.frame? with
      | none =>
          simp only [frame] at step heard
          simp only [step] at stream delivered held initialized ⊢
          rw [← heard] at stream delivered held
          exact ⟨stream, delivered, held, initialized⟩
      | some rx =>
          simp only [frame] at step heard
          obtain ⟨flags, reported, parser, memory, deliver, kept, same⟩ := step
          rw [parser, memory] at stream delivered held
          by_cases new : rx.isCommand ∧ g.receiver.memory ≠ some rx.seq
          · rw [if_pos new] at deliver heard
            refine ⟨?_, ?_, ?_, initialized.trans same⟩
            · rw [heard]
              exact stream
            · rw [heard, reported, Option.toList_some, List.singleton_append,
                List.filterMap_cons_some deliver, delivered]
            · rw [held, kept, heard, deliver, List.getLast?_cons]
              cases (hear _ rest).2.getLast? <;> rfl
          · rw [if_neg new] at deliver heard
            refine ⟨?_, ?_, ?_, initialized.trans same⟩
            · rw [heard]
              exact stream
            · rw [heard, reported, Option.toList_some, List.singleton_append,
                List.filterMap_cons_none deliver, delivered]
            · rw [held, kept, heard, deliver, Option.none_or]

/-! ### Runs -/

/-- Keeping the last of each piece keeps all when no piece has more than one. -/
theorem flatten_last_iff {α : Type} (pieces : List (List α)) :
    pieces.flatMap (fun piece => piece.getLast?.toList) = pieces.flatten ↔
      ∀ piece ∈ pieces, piece.length ≤ 1 := by
  have short (piece : List α) : piece.getLast?.toList.length ≤ piece.length := by
    cases piece <;> simp [List.getLast?_cons]
  have bounded (pieces : List (List α)) :
      (pieces.flatMap fun piece => piece.getLast?.toList).length ≤ pieces.flatten.length := by
    induction pieces with
    | nil => simp
    | cons piece pieces ih => simpa using Nat.add_le_add (short piece) (by simpa using ih)
  induction pieces with
  | nil => simp
  | cons piece pieces ih =>
      rw [List.flatMap_cons, List.flatten_cons, List.forall_mem_cons]
      by_cases one : piece.length ≤ 1
      · have all : piece.getLast?.toList = piece := by
          match piece, one with
          | [], _ => rfl
          | [item], _ => rfl
        rw [all, List.append_cancel_left_eq, and_iff_right one]
        exact ih
      · constructor
        · intro same
          have total := congrArg List.length same
          have rest := bounded pieces
          have last : piece.getLast?.toList.length ≤ 1 := by
            cases piece.getLast? <;> simp
          simp only [List.length_append] at total
          omega
        · rintro ⟨short, -⟩
          exact absurd short one

/-- The states of a run after the first poll: nothing is left in the mailbox. -/
def Hearing (g : BleUartTc375) (s : UartParser × Option UInt8) : Prop :=
  (g.parser, g.receiver.memory) = s ∧ g.held = none ∧ g.initialized = true

theorem bleUartTc375Round_hears {g : BleUartTc375} {s : UartParser × Option UInt8}
    (hearing : Hearing g s) (rx : List UInt8) :
    Hearing (bleUartTc375Round g rx).1 (hear s rx).1 ∧
      (bleUartTc375Round g rx).2.delivered = (hear s rx).2 ∧
      (bleUartTc375Round g rx).2.handed = (hear s rx).2.getLast?.toList := by
  obtain ⟨rfl, empty, initialized⟩ := hearing
  obtain ⟨stream, delivered, held, same⟩ := bleUartTc375PollBytes_hears g rx
  have poll : bleUartTc375Poll g rx = bleUartTc375PollBytes g rx := by
    simp [bleUartTc375Poll, initialized]
  simp only [bleUartTc375Round, poll]
  refine ⟨⟨stream, rfl, same.trans initialized⟩, delivered, ?_⟩
  rw [empty, Option.or_none] at held
  rw [← held]
  simp only [bleUartTc375ConsumeAll, BleUartTc375.held]
  split <;> rfl

/-- The caller gets, over any run of polls, exactly the commands that the receiver has
delivered if and only if no poll reads two new ones. -/
theorem ble_mailbox_keeps_iff (polls : List (List UInt8)) :
    (outputs bleUartTc375Round bleUartTc375Init polls).flatMap BleRound.handed =
        (outputs bleUartTc375Round bleUartTc375Init polls).flatMap BleRound.delivered ↔
      ∀ commands ∈ outputs hear (parserInit, none) polls, commands.length ≤ 1 := by
  have start : Hearing bleUartTc375Init (parserInit, none) := ⟨rfl, rfl, rfl⟩
  have delivered := outputs_agree Hearing BleRound.delivered id
    (fun g s rx hearing => ⟨(bleUartTc375Round_hears hearing rx).1,
      (bleUartTc375Round_hears hearing rx).2.1⟩) start polls
  have handed := outputs_agree Hearing BleRound.handed (fun commands => commands.getLast?.toList)
    (fun g s rx hearing => ⟨(bleUartTc375Round_hears hearing rx).1,
      (bleUartTc375Round_hears hearing rx).2.2⟩) start polls
  rw [List.map_id] at delivered
  rw [List.flatMap_def, List.flatMap_def, delivered, handed, ← List.flatMap_def]
  exact flatten_last_iff _

/-- Two commands in one poll: both are acknowledged, and the first is overwritten. -/
theorem ble_mailbox_overwrites :
    let poll := (encodeData 1 (bleUartMakeCmd bleUartReqNop bleUartReqOpen)).bytes.toList ++
      (encodeData 2 (bleUartMakeCmd bleUartReqNop bleUartReqNop)).bytes.toList
    (outputs bleUartTc375Round bleUartTc375Init [poll]).flatMap BleRound.delivered =
        [bleUartMakeCmd bleUartReqNop bleUartReqOpen, bleUartMakeCmd bleUartReqNop bleUartReqNop] ∧
      (outputs bleUartTc375Round bleUartTc375Init [poll]).flatMap BleRound.handed =
        [bleUartMakeCmd bleUartReqNop bleUartReqNop] ∧
      ∀ round ∈ outputs bleUartTc375Round bleUartTc375Init [poll], ∀ result ∈ round.results,
        result.sendAck.isSome := by
  decide +kernel

end SmartBusAccess.Uart
