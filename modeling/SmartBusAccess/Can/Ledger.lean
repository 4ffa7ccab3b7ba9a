import SmartBusAccess.Semantics.Runs
import SmartBusAccess.Semantics.Holding
import SmartBusAccess.Can.Socket

/-!
The driver's tables as a ledger of its open channels.

An open channel holds a node, and no two channels hold the same one. The two tables
say no more than that: a node is in use if a channel holds it, and the reference
count of a module is the number of channels on its nodes (`canTC3xx_ledger`).
-/

namespace SmartBusAccess.Can

open Holding

variable {HW : Type}

/-! ### What the tables should say -/

/-- The channel is open on node `n` of module `m`. -/
def CANTC3xxChannel.BoundTo (c : CANTC3xxChannel) (m n : Nat) : Prop :=
  c.isOpen ∧ canTC3xxModuleIndexFromBoardInst c.moduleInst = m ∧
    canTC3xxNodeIndexFromBoardNode c.node = n

/-- The open channels on module `m`. -/
def CANTC3xxWorld.usersOf (w : CANTC3xxWorld HW) (m : Nat) : Set Nat :=
  {channel | (w.channels channel).isOpen ∧
    canTC3xxModuleIndexFromBoardInst (w.channels channel).moduleInst = m}

/-- The tables agree with the channels. -/
structure CANTC3xxWorld.Ledger (w : CANTC3xxWorld HW) : Prop where
  nodes : ∀ m n, w.nodeInUse m n = true ↔ ∃! channel, (w.channels channel).BoundTo m n
  refCounts : ∀ m, (w.usersOf m).encard = (w.modules m).refCount.toNat
  initialized : ∀ m, (w.modules m).isInitialized = true ↔ 0 < (w.modules m).refCount

/-- The tables and every channel but one are as before. -/
structure CANTC3xxWorld.SameButFor (w w' : CANTC3xxWorld HW) (channel : Nat) : Prop where
  modules : w'.modules = w.modules
  nodeInUse : w'.nodeInUse = w.nodeInUse
  others : ∀ other, other ≠ channel → w'.channels other = w.channels other

/-- A call on the driver. The board answers each open anew. -/
inductive LedgerCall where
  | openOn (board : BoardAnswers) (channel : Nat) (port : BoardCANPort) (config : CANChannelConfig)
  | close (channel : Nat)
deriving DecidableEq, Repr

def ledgerStep (ifx : IfxCan HW) (w : CANTC3xxWorld HW) :
    LedgerCall → CANTC3xxWorld HW × CANStatus
  | .openOn board channel port config => canTC3xxOpen ifx { w with board := board } channel port config
  | .close channel => canTC3xxClose w channel

/-- An open that fails has changed nothing but its own channel. -/
def FailsClean (ifx : IfxCan HW) (w : CANTC3xxWorld HW) : LedgerCall → Prop
  | .openOn board channel port config =>
      (ledgerStep ifx w (.openOn board channel port config)).2 ≠ .ok →
        w.SameButFor (ledgerStep ifx w (.openOn board channel port config)).1 channel
  | .close _ => True

/-! ### The nodes held -/

/-- The node an open channel holds. -/
def CANTC3xxChannel.held (c : CANTC3xxChannel) : Option CANNodeRef :=
  if c.isOpen then some ⟨c.moduleInst, c.node⟩ else none

def CANTC3xxWorld.held (w : CANTC3xxWorld HW) (channel : Nat) : Option CANNodeRef :=
  (w.channels channel).held

def CANNodeRef.moduleIndex (ref : CANNodeRef) : Nat := canTC3xxModuleIndexFromBoardInst ref.inst

def CANNodeRef.nodeIndex (ref : CANNodeRef) : Nat := canTC3xxNodeIndexFromBoardNode ref.node

/-- The nodes of module `m`. -/
def nodesOf (m : Nat) : Set CANNodeRef := {ref | ref.moduleIndex = m}

theorem CANNodeRef.nodeIndex_lt (ref : CANNodeRef) : ref.nodeIndex < canTC3xxMaxNodes := by
  obtain ⟨-, node⟩ := ref
  show canTC3xxNodeIndexFromBoardNode node < canTC3xxMaxNodes
  cases node <;> decide

theorem CANNodeRef.indices_inj {ref ref' : CANNodeRef} (module : ref.moduleIndex = ref'.moduleIndex)
    (node : ref.nodeIndex = ref'.nodeIndex) : ref = ref' := by
  have inst := canTC3xxModuleIndexFromBoardInst_inj module
  have node := canTC3xxNodeIndexFromBoardNode_inj node
  cases ref
  cases ref'
  simp_all

/-- No module has more nodes than its row of the table. -/
theorem encard_nodesOf_le (m : Nat) : (nodesOf m).encard ≤ canTC3xxMaxNodes := by
  have maps : Set.MapsTo CANNodeRef.nodeIndex (nodesOf m)
      (Finset.range canTC3xxMaxNodes : Set Nat) := by
    intro ref _
    simpa using ref.nodeIndex_lt
  have injective : Set.InjOn CANNodeRef.nodeIndex (nodesOf m) := by
    intro ref here ref' here' same
    exact CANNodeRef.indices_inj (Eq.trans here (Eq.symm here')) same
  calc (nodesOf m).encard ≤ (Finset.range canTC3xxMaxNodes : Set Nat).encard :=
        Set.encard_le_encard_of_injOn maps injective
    _ = canTC3xxMaxNodes := by
        rw [Set.encard_coe_eq_coe_finsetCard, Finset.card_range]

theorem CANTC3xxChannel.held_eq_some {c : CANTC3xxChannel} {ref : CANNodeRef} :
    c.held = some ref ↔ c.isOpen ∧ c.moduleInst = ref.inst ∧ c.node = ref.node := by
  obtain ⟨inst, node⟩ := ref
  cases isOpen : c.isOpen <;> simp [CANTC3xxChannel.held, isOpen]

theorem CANTC3xxChannel.boundTo_iff (c : CANTC3xxChannel) (ref : CANNodeRef) :
    c.BoundTo ref.moduleIndex ref.nodeIndex ↔ c.held = some ref := by
  rw [held_eq_some]
  constructor
  · rintro ⟨isOpen, module, node⟩
    exact ⟨isOpen, canTC3xxModuleIndexFromBoardInst_inj module,
      canTC3xxNodeIndexFromBoardNode_inj node⟩
  · rintro ⟨isOpen, inst, node⟩
    exact ⟨isOpen, congrArg _ inst, congrArg _ node⟩

theorem CANTC3xxWorld.usersOf_eq (w : CANTC3xxWorld HW) (m : Nat) :
    w.usersOf m = holders w.held (nodesOf m) := by
  ext channel
  constructor
  · rintro ⟨isOpen, module⟩
    exact ⟨⟨(w.channels channel).moduleInst, (w.channels channel).node⟩, module,
      CANTC3xxChannel.held_eq_some.mpr ⟨isOpen, rfl, rfl⟩⟩
  · rintro ⟨ref, module, holds⟩
    obtain ⟨isOpen, inst, node⟩ := CANTC3xxChannel.held_eq_some.mp holds
    exact ⟨isOpen, (congrArg _ inst).trans module⟩

/-! ### The invariant -/

/-- A counter that counts its users, and is initialized while it has any. -/
structure CANTC3xxModuleContext.Counts (m : CANTC3xxModuleContext) (users : ℕ∞) : Prop where
  refCount : users = m.refCount.toNat
  initialized : m.isInitialized = true ↔ 0 < m.refCount

theorem CANTC3xxModuleContext.Counts.acquired {m : CANTC3xxModuleContext} {users : ℕ∞}
    (counts : m.Counts users) (room : users + 1 ≤ canTC3xxMaxNodes) :
    m.acquired.Counts (users + 1) := by
  obtain ⟨rfl, initialized⟩ := counts
  have small : m.refCount.toNat + 1 ≤ 4 := by exact_mod_cast room
  cases ready : m.isInitialized with
  | false =>
      have unused : m.refCount = 0 := by
        have none : ¬0 < m.refCount := by simp [← initialized, ready]
        grind
      constructor <;> simp [CANTC3xxModuleContext.acquired, ready, unused]
  | true =>
      have next : (m.refCount + 1).toNat = m.refCount.toNat + 1 := by
        rw [UInt8.toNat_add]
        simp only [UInt8.toNat_one]
        omega
      constructor <;> simp [CANTC3xxModuleContext.acquired, ready, UInt8.lt_iff_toNat_lt, next]

theorem CANTC3xxModuleContext.Counts.released {m : CANTC3xxModuleContext} {users : ℕ∞}
    (counts : m.Counts (users + 1)) : m.released.Counts users := by
  obtain ⟨refCount, initialized⟩ := counts
  have used : 0 < m.refCount := by
    rw [UInt8.lt_iff_toNat_lt]
    by_contra none
    have zero : m.refCount.toNat = 0 := by simpa using none
    simp [zero] at refCount
  have previous : (m.refCount - 1).toNat + 1 = m.refCount.toNat := by
    have one : 1 ≤ m.refCount := by grind
    rw [UInt8.toNat_sub_of_le _ _ one]
    rw [UInt8.le_iff_toNat_le] at one
    simp only [UInt8.toNat_one] at one ⊢
    omega
  constructor
  · have same : users + 1 = ((m.refCount - 1).toNat : ℕ∞) + 1 := by
      rw [refCount, ← previous]
      push_cast
      rfl
    simpa [CANTC3xxModuleContext.released, used] using
      (ENat.add_left_injective_of_ne_top (by simp)) same
  · by_cases last : m.refCount - 1 = 0
    · simp [CANTC3xxModuleContext.released, used, last]
    · have more : 0 < m.refCount - 1 := by grind
      simp [CANTC3xxModuleContext.released, used, last, more, initialized.mpr used]

/-- The node at one place of the table, if there is one. -/
def nodesAt (m n : Nat) : Set CANNodeRef := {ref | ref.moduleIndex = m ∧ ref.nodeIndex = n}

theorem nodesAt_subsingleton (m n : Nat) : (nodesAt m n).Subsingleton := by
  rintro ref ⟨rfl, rfl⟩ ref' ⟨module, node⟩
  exact CANNodeRef.indices_inj module.symm node.symm

/-- The tables count the nodes held, and every open channel knows its module. -/
structure CANTC3xxWorld.Balanced (w : CANTC3xxWorld HW) : Prop where
  exclusive : Exclusive w.held
  moduleIndex : ∀ channel, (w.channels channel).isOpen →
    (w.channels channel).moduleIndex =
      canTC3xxModuleIndexFromBoardInst (w.channels channel).moduleInst
  nodes : ∀ m n, w.nodeInUse m n = true ↔ (holders w.held (nodesAt m n)).Nonempty
  counts : ∀ m, (w.modules m).Counts (holders w.held (nodesOf m)).encard

section Balanced

variable {w : CANTC3xxWorld HW} {channel : Nat}

theorem CANTC3xxWorld.Balanced.ledger (balanced : w.Balanced) : w.Ledger where
  nodes m n := by
    rw [balanced.nodes]
    constructor
    · rintro ⟨channel, ref, ⟨rfl, rfl⟩, holds⟩
      simp only [CANTC3xxChannel.boundTo_iff]
      exact balanced.exclusive.existsUnique_iff.mpr ⟨channel, holds⟩
    · rintro ⟨channel, ⟨isOpen, module, node⟩, -⟩
      exact ⟨channel, ⟨(w.channels channel).moduleInst, (w.channels channel).node⟩, ⟨module, node⟩,
        CANTC3xxChannel.held_eq_some.mpr ⟨isOpen, rfl, rfl⟩⟩
  refCounts m := by
    rw [w.usersOf_eq m]
    exact (balanced.counts m).refCount
  initialized m := (balanced.counts m).initialized

theorem CANTC3xxWorld.TablesClear.balanced (clear : w.TablesClear)
    (closed : ∀ channel, (w.channels channel).isOpen = false) : w.Balanced := by
  have free : ∀ channel, w.held channel = none := by
    intro channel
    simp [CANTC3xxWorld.held, CANTC3xxChannel.held, closed]
  constructor
  · intro channel other ref holds
    rw [free] at holds
    cases holds
  · intro channel isOpen
    rw [closed] at isOpen
    cases isOpen
  · intro m n
    rw [holders_empty free, clear.nodes]
    simp
  · intro m
    rw [holders_empty free, clear.modules]
    constructor <;> simp

/-- The board's answers are no part of the tables. -/
theorem CANTC3xxWorld.Balanced.board (balanced : w.Balanced) (board : BoardAnswers) :
    ({ w with board := board } : CANTC3xxWorld HW).Balanced :=
  ⟨balanced.exclusive, balanced.moduleIndex, balanced.nodes, balanced.counts⟩

/-! ### One call -/

theorem canTC3xxOpen_free (ifx : IfxCan HW) (w : CANTC3xxWorld HW) (channel : Nat)
    (port : BoardCANPort) (config : CANChannelConfig)
    (ok : (canTC3xxOpen ifx w channel port config).2 = .ok) :
    (w.channels channel).isOpen = false ∧
      w.nodeInUse port.nodeRef.moduleIndex port.nodeRef.nodeIndex = false := by
  simp only [canTC3xxOpen] at ok
  split at ok
  · cases ok
  rename_i closed
  refine ⟨by simpa using closed, ?_⟩
  split at ok
  · rename_i refused
    exact absurd ok (by simpa using refused)
  rcases canTC3xxReserveNode_cases w port.mcuInst port.mcuNode with reserved | ⟨free, -⟩
  · rw [reserved] at ok
    cases ok
  · exact free

theorem CANTC3xxWorld.opened_held (w : CANTC3xxWorld HW) (hw : HW) (channel : Nat)
    (port : BoardCANPort) (config : CANChannelConfig) :
    (w.opened hw channel port config).held =
      Function.update w.held channel (some port.nodeRef) := by
  funext other
  by_cases same : other = channel
  · subst same
    simp [CANTC3xxWorld.held, CANTC3xxWorld.opened, CANTC3xxChannel.held, canTC3xxBoundChannel,
      BoardCANPort.nodeRef]
  · rw [Function.update_of_ne same]
    simp only [CANTC3xxWorld.held, CANTC3xxWorld.opened, CANTC3xxWorld.setChannel]
    rw [Function.update_of_ne same]
    rfl

/-- A successful open takes its node. -/
theorem CANTC3xxWorld.Balanced.opened (balanced : w.Balanced) (hw : HW) {port : BoardCANPort}
    (config : CANChannelConfig) (closed : (w.channels channel).isOpen = false)
    (free : w.nodeInUse port.nodeRef.moduleIndex port.nodeRef.nodeIndex = false) :
    (w.opened hw channel port config).Balanced := by
  have empty : w.held channel = none := by
    simp [CANTC3xxWorld.held, CANTC3xxChannel.held, closed]
  have nobody : ∀ other, w.held other ≠ some port.nodeRef := by
    intro other holds
    have inUse := (balanced.nodes _ _).mpr ⟨other, port.nodeRef, ⟨rfl, rfl⟩, holds⟩
    rw [free] at inUse
    cases inUse
  have exclusive := balanced.exclusive.take (a := channel) nobody
  constructor
  · rw [w.opened_held]
    exact exclusive
  · intro other isOpen
    by_cases same : other = channel
    · subst same
      simp [CANTC3xxWorld.opened, canTC3xxBoundChannel]
    · simp only [CANTC3xxWorld.opened, CANTC3xxWorld.setChannel,
        Function.update_of_ne same] at isOpen ⊢
      exact balanced.moduleIndex other isOpen
  · intro m n
    rw [w.opened_held]
    show (w.setNode _ _ true).nodeInUse m n = true ↔ _
    rw [setNode_nodeInUse]
    by_cases here : port.nodeRef ∈ nodesAt m n
    · rw [holders_take here empty, if_pos ⟨here.1.symm, here.2.symm⟩]
      simp
    · rw [holders_take_other here empty, if_neg fun same => here ⟨same.1.symm, same.2.symm⟩]
      exact balanced.nodes m n
  · intro m
    have room := exclusive.encard_holders_le (nodesOf m) |>.trans (encard_nodesOf_le m)
    rw [w.opened_held]
    show (Function.update w.modules port.nodeRef.moduleIndex
      (w.modules port.nodeRef.moduleIndex).acquired m).Counts _
    by_cases here : port.nodeRef ∈ nodesOf m
    · rw [encard_holders_take here empty] at room ⊢
      obtain rfl := here
      rw [Function.update_self]
      exact (balanced.counts _).acquired room
    · rw [holders_take_other here empty, Function.update_of_ne fun same => here same.symm]
      exact balanced.counts m

theorem canTC3xxClose_held (isOpen : (w.channels channel).isOpen) :
    (canTC3xxClose w channel).1.held = Function.update w.held channel none := by
  rw [canTC3xxClose_open isOpen]
  funext other
  by_cases same : other = channel
  · subst same
    simp [CANTC3xxWorld.held, CANTC3xxChannel.held, canTC3xxChannelInit]
  · rw [Function.update_of_ne same]
    simp only [CANTC3xxWorld.held, CANTC3xxWorld.setChannel]
    rw [Function.update_of_ne same, canTC3xxReleaseModule]
    split <;> rfl

/-- The tables after a close, for a channel that knows its module. -/
theorem canTC3xxClose_tables {ref : CANNodeRef} (holds : w.held channel = some ref)
    (moduleIndex : (w.channels channel).moduleIndex = ref.moduleIndex) :
    (canTC3xxClose w channel).1.modules =
        Function.update w.modules ref.moduleIndex (w.modules ref.moduleIndex).released ∧
      ∀ m n, (canTC3xxClose w channel).1.nodeInUse m n =
        if m = ref.moduleIndex ∧ n = ref.nodeIndex then false else w.nodeInUse m n := by
  obtain ⟨isOpen, inst, node⟩ := CANTC3xxChannel.held_eq_some.mp holds
  have bounded : ¬canTC3xxMaxModules ≤ ref.moduleIndex :=
    Nat.not_le.mpr (canTC3xxModuleIndexFromBoardInst_lt ref.inst)
  rw [canTC3xxClose_open isOpen, moduleIndex, inst, node, canTC3xxReleaseModule, if_neg bounded]
  refine ⟨rfl, fun m n => ?_⟩
  exact setNode_nodeInUse (w.setModule _ _) _ _ _ m n

/-- A close releases the channel's node. -/
theorem CANTC3xxWorld.Balanced.closed (balanced : w.Balanced)
    (isOpen : (w.channels channel).isOpen) : (canTC3xxClose w channel).1.Balanced := by
  have holds : w.held channel =
      some ⟨(w.channels channel).moduleInst, (w.channels channel).node⟩ :=
    CANTC3xxChannel.held_eq_some.mpr ⟨isOpen, rfl, rfl⟩
  obtain ⟨modules, nodes⟩ := canTC3xxClose_tables holds (balanced.moduleIndex channel isOpen)
  generalize (⟨_, _⟩ : CANNodeRef) = ref at holds modules nodes
  have held := canTC3xxClose_held isOpen
  constructor
  · rw [held]
    exact balanced.exclusive.release
  · intro other
    by_cases same : other = channel
    · subst same
      rw [canTC3xxClose_open isOpen]
      simp [canTC3xxChannelInit]
    · have kept : (canTC3xxClose w channel).1.channels other = w.channels other := by
        rw [canTC3xxClose_open isOpen, canTC3xxReleaseModule]
        split <;> exact Function.update_of_ne same _ _
      rw [kept]
      exact balanced.moduleIndex other
  · intro m n
    rw [held, nodes]
    by_cases here : ref ∈ nodesAt m n
    · rw [balanced.exclusive.holders_release (nodesAt_subsingleton m n) here holds,
        if_pos ⟨here.1.symm, here.2.symm⟩]
      simp
    · rw [holders_release_other here holds, if_neg fun same => here ⟨same.1.symm, same.2.symm⟩]
      exact balanced.nodes m n
  · intro m
    rw [held, modules]
    by_cases here : ref ∈ nodesOf m
    · have counts := balanced.counts m
      rw [← encard_holders_release here holds] at counts
      obtain rfl := here
      rw [Function.update_self]
      exact counts.released
    · rw [holders_release_other here holds, Function.update_of_ne fun same => here same.symm]
      exact balanced.counts m

theorem ledgerStep_balanced (ifx : IfxCan HW) (balanced : w.Balanced) (call : LedgerCall) :
    (ledgerStep ifx w call).1.Balanced := by
  cases call with
  | openOn board channel port config =>
      have spec := canTC3xxOpen_spec ifx { w with board := board } channel port config
      have frees := canTC3xxOpen_free ifx { w with board := board } channel port config
      simp only [ledgerStep]
      generalize canTC3xxOpen ifx _ channel port config = out at spec frees ⊢
      cases spec with
      | refused _ => exact balanced.board board
      | opened hw =>
          obtain ⟨closed, free⟩ := frees rfl
          exact (balanced.board board).opened hw config closed free
  | close channel =>
      cases isOpen : (w.channels channel).isOpen with
      | false => simpa [ledgerStep, canTC3xxClose, isOpen] using balanced
      | true => exact balanced.closed isOpen

theorem ledgerStep_failsClean (ifx : IfxCan HW) (w : CANTC3xxWorld HW) (call : LedgerCall) :
    FailsClean ifx w call := by
  cases call with
  | openOn board channel port config =>
      have spec := canTC3xxOpen_spec ifx { w with board := board } channel port config
      simp only [FailsClean, ledgerStep]
      generalize canTC3xxOpen ifx _ channel port config = out at spec ⊢
      cases spec with
      | refused _ => exact fun _ => ⟨rfl, rfl, fun _ _ => rfl⟩
      | opened hw => exact fun failed => absurd rfl failed
  | close channel => trivial

end Balanced

/-! ### Runs -/

/-- From clear tables and closed channels: after any calls the tables agree with the
channels, and every open that has failed was clean. -/
theorem canTC3xx_ledger (ifx : IfxCan HW) {w : CANTC3xxWorld HW} (clear : w.TablesClear)
    (closed : ∀ channel, (w.channels channel).isOpen = false) (calls : List LedgerCall) :
    (Runs.run (Runs.next (ledgerStep ifx)) w calls).Ledger ∧
      ∀ p ∈ Runs.steps (Runs.next (ledgerStep ifx)) w calls, FailsClean ifx p.1 p.2 := by
  constructor
  · refine CANTC3xxWorld.Balanced.ledger (Runs.run_invariant CANTC3xxWorld.Balanced ?_
      (clear.balanced closed) calls)
    intro w call balanced
    exact ledgerStep_balanced ifx balanced call
  · intro p _
    exact ledgerStep_failsClean ifx p.1 p.2

/-- Nothing open yet. -/
def freshDriver : CANTC3xxWorld Unit where
  hw := ()
  board := .good
  modules _ := ⟨false, 0⟩
  nodeInUse _ _ := false
  channels _ := canTC3xxChannelInit

/-- A port without a transceiver. -/
def barePort : BoardCANPort where
  name := "bare"
  mcuInst := .inst0
  mcuNode := .node1
  rxPin := ⟨0, 0⟩
  txPin := ⟨0, 0⟩
  phyPresent := false
  fdSupported := false
  defaultNominalBitrate := 500000
  defaultDataBitrate := 0

/-- Two channels on one module, a third that finds its node taken, and a close. -/
def sharedModule : List LedgerCall :=
  canPorts.flatMap fun port =>
    [.openOn .good 0 port .zero, .openOn .good 1 barePort .zero, .openOn .good 2 barePort .zero,
      .close 0]

theorem canTC3xx_ledger_sharedModule :
    (Runs.run (Runs.next (ledgerStep silentBus)) freshDriver sharedModule).Ledger ∧
      ∀ p ∈ Runs.steps (Runs.next (ledgerStep silentBus)) freshDriver sharedModule,
        FailsClean silentBus p.1 p.2 :=
  canTC3xx_ledger silentBus ⟨fun _ => rfl, fun _ _ => rfl⟩ (fun _ => rfl) sharedModule

example :
    (Runs.outputs (ledgerStep silentBus) freshDriver sharedModule = [.ok, .ok, .ebusy, .ok]) ∧
      (Runs.run (Runs.next (ledgerStep silentBus)) freshDriver sharedModule).modules 0 =
        ⟨true, 1⟩ := by
  decide +kernel

end SmartBusAccess.Can
