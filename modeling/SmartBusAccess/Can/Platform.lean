import SmartBusAccess.Can.Tc3xx

/-!
The TC375 platform (`can_platform.c`): a table of slots, each a driver channel
and the core that owns it.

A core is named by its owner: `Owner` is what a `CANCore *` points to. The binding
of a slot is left out, as it only repeats the slot's channel and port. The channel
of slot `i` is channel `i` of the driver.
-/

namespace SmartBusAccess.Can

abbrev canPlatformMaxChannels : Nat := 8

structure CANPlatformSlot (Owner : Type) where
  inUse : Bool
  ownerCore : Option Owner
  boardPort : Option BoardCANPort
deriving DecidableEq, Repr

def CANPlatformSlot.clear {Owner : Type} : CANPlatformSlot Owner := ⟨false, none, none⟩

structure CANPlatform (Owner HW : Type) where
  initialized : Bool
  slots : Nat → CANPlatformSlot Owner
  world : CANTC3xxWorld HW

variable {Owner HW : Type}

abbrev CANPlatformCore (HW : Type) := CANCore (CANTC3xxWorld HW) Nat BoardCANPort

def canPlatformClearSlots (p : CANPlatform Owner HW) : CANPlatform Owner HW :=
  { p with
    slots := fun i => if i < canPlatformMaxChannels then .clear else p.slots i
    world :=
      { p.world with
        channels := fun i =>
          if i < canPlatformMaxChannels then canTC3xxChannelInit else p.world.channels i } }

def CANPlatformSlot.owns [DecidableEq Owner] (slot : CANPlatformSlot Owner) (core : Owner) : Bool :=
  slot.inUse && slot.ownerCore = some core

def canPlatformFindSlotByCore [DecidableEq Owner] (p : CANPlatform Owner HW) (core : Owner) :
    Option Nat :=
  (List.range canPlatformMaxChannels).find? fun i => (p.slots i).owns core

def CANPlatform.setSlot (p : CANPlatform Owner HW) (slot : Nat) (s : CANPlatformSlot Owner) :
    CANPlatform Owner HW :=
  { p with slots := Function.update p.slots slot s }

def canPlatformAllocateSlot (p : CANPlatform Owner HW) : CANPlatform Owner HW × Option Nat :=
  match (List.range canPlatformMaxChannels).find? fun i => !(p.slots i).inUse with
  | none => (p, none)
  | some i => (p.setSlot i { p.slots i with inUse := true }, some i)

def canPlatformReleaseSlot (p : CANPlatform Owner HW) (slot : Nat) : CANPlatform Owner HW :=
  { p.setSlot slot .clear with world := p.world.setChannel slot canTC3xxChannelInit }

def canPlatformInit (p : CANPlatform Owner HW) : CANPlatform Owner HW × CANStatus :=
  if p.world.board.init != .ok then (p, .eio)
  else ({ canPlatformClearSlots p with initialized := true }, .ok)

def canPlatformDeinit (p : CANPlatform Owner HW) : CANPlatform Owner HW :=
  { canPlatformClearSlots p with initialized := false }

variable [DecidableEq Owner]

/-- `CANPlatformOpen` from where a slot is allocated. -/
def canPlatformOpenSlot (ifx : IfxCan HW) (p : CANPlatform Owner HW) (owner : Owner)
    (port : BoardCANPort) (slot : Nat) (params : CANCoreOpenParams (CANTC3xxWorld HW)) :
    CANPlatformCore HW × CANPlatform Owner HW × CANStatus :=
  let p := p.setSlot slot { p.slots slot with ownerCore := some owner, boardPort := some port }
  let (world, binding) := canTC3xxCoreBindingInit ifx p.world slot port
  let (core, world, status) := canCoreOpen canCoreInit world binding params
  let p := { p with world := world }
  if status != .ok then (core, canPlatformReleaseSlot p slot, status)
  else (core, p, .ok)

def canPlatformOpen (ifx : IfxCan HW) (ports : List BoardCANPort) (p : CANPlatform Owner HW)
    (owner : Owner) (core : CANPlatformCore HW) (portName : String)
    (params : CANCoreOpenParams (CANTC3xxWorld HW)) :
    CANPlatformCore HW × CANPlatform Owner HW × CANStatus :=
  if !p.initialized then (core, p, .ebusy)
  else if (canPlatformFindSlotByCore p owner).isSome then (core, p, .ebusy)
  else
    match boardFindCANPort ports portName with
    | none => (core, p, .enotfound)
    | some port =>
        match canPlatformAllocateSlot p with
        | (p, none) => (core, p, .enospc)
        | (p, some slot) => canPlatformOpenSlot ifx p owner port slot params

def canPlatformClose (p : CANPlatform Owner HW) (owner : Owner) (core : CANPlatformCore HW) :
    CANPlatformCore HW × CANPlatform Owner HW × CANStatus :=
  match canPlatformFindSlotByCore p owner with
  | none => (core, p, .enotfound)
  | some slot =>
      let (core, world, status) := canCoreClose core p.world
      let p := { p with world := world }
      if status != .ok then (core, p, status)
      else (core, canPlatformReleaseSlot p slot, .ok)

/-! ### Slots -/

omit [DecidableEq Owner] in
theorem setSlot_slots (p : CANPlatform Owner HW) (slot : Nat) (s : CANPlatformSlot Owner) :
    (p.setSlot slot s).slots slot = s := by
  simp [CANPlatform.setSlot]

omit [DecidableEq Owner] in
theorem setSlot_slots_of_ne (p : CANPlatform Owner HW) {slot other : Nat} (ne : other ≠ slot)
    (s : CANPlatformSlot Owner) : (p.setSlot slot s).slots other = p.slots other := by
  simp [CANPlatform.setSlot, ne]

theorem canPlatformFindSlotByCore_none {p : CANPlatform Owner HW} {core : Owner}
    (none : ∀ i < canPlatformMaxChannels, (p.slots i).owns core = false) :
    canPlatformFindSlotByCore p core = .none := by
  refine List.find?_eq_none.mpr fun i mem => ?_
  rw [none i (List.mem_range.mp mem)]
  decide

/-- Slot 0 is looked at first. -/
theorem canPlatformFindSlotByCore_first {p : CANPlatform Owner HW} {core : Owner}
    (first : (p.slots 0).owns core) : canPlatformFindSlotByCore p core = some 0 :=
  List.find?_cons_of_pos first

/-- An initialized platform with no slot in use. -/
structure CANPlatform.Ready (p : CANPlatform Owner HW) : Prop where
  initialized : p.initialized
  slots : ∀ i < canPlatformMaxChannels, p.slots i = .clear

omit [DecidableEq Owner] in
theorem canPlatformInit_good {p : CANPlatform Owner HW} (good : p.world.board.init = .ok) :
    (canPlatformInit p).1.Ready ∧ (canPlatformInit p).2 = .ok ∧
      p.world.SameTables (canPlatformInit p).1.world := by
  have answered : canPlatformInit p = ({ canPlatformClearSlots p with initialized := true }, .ok) := by
    simp [canPlatformInit, good]
  rw [answered]
  exact ⟨⟨rfl, fun i bounded => if_pos bounded⟩, rfl, rfl, rfl⟩

omit [DecidableEq Owner] in
theorem canPlatformReleaseSlot_tables (p : CANPlatform Owner HW) (slot : Nat) :
    p.world.SameTables (canPlatformReleaseSlot p slot).world := ⟨rfl, rfl⟩

omit [DecidableEq Owner] in
theorem canPlatformDeinit_tables (p : CANPlatform Owner HW) :
    p.world.SameTables (canPlatformDeinit p).world := ⟨rfl, rfl⟩

theorem canPlatformDeinit_not_found (p : CANPlatform Owner HW) (core : Owner) :
    canPlatformFindSlotByCore (canPlatformDeinit p) core = none := by
  refine canPlatformFindSlotByCore_none fun i bounded => ?_
  have slot : (canPlatformDeinit p).slots i = .clear := if_pos bounded
  rw [slot]
  rfl

/-! ### Opening on an empty platform -/

/-- A core just opened on a slot. -/
def canPlatformOpenedCore (ifx : IfxCan HW) (slot : Nat) (port : BoardCANPort)
    (runtime : CANCoreRuntime (CANTC3xxWorld HW)) : CANPlatformCore HW :=
  (canTC3xxCoreBinding ifx slot port).openedCore (canTC3xxCoreDriverOps ifx) runtime

theorem canPlatformCoreOpen (ifx : IfxCan HW) (w : CANTC3xxWorld HW) (slot : Nat)
    (port : BoardCANPort) (params : CANCoreOpenParams (CANTC3xxWorld HW)) :
    canCoreOpen canCoreInit w (canTC3xxCoreBinding ifx slot port) params =
      let opened := canTC3xxOpen ifx w slot port params.channelConfig
      if opened.2 != .ok then canCoreInit.answer opened.1 opened.2
      else (canPlatformOpenedCore ifx slot port params.runtime, opened.1, .ok) := by
  have closed : (canCoreInit : CANPlatformCore HW).link = none := rfl
  have bound : (canTC3xxCoreBinding ifx slot port).ops = some (canTC3xxCoreDriverOps ifx) := rfl
  exact canCoreOpen_closed closed w bound params

omit [DecidableEq Owner] in
theorem canPlatformOpenSlot_eq (ifx : IfxCan HW) (p : CANPlatform Owner HW) (owner : Owner)
    (port : BoardCANPort) (slot : Nat) (params : CANCoreOpenParams (CANTC3xxWorld HW)) :
    canPlatformOpenSlot ifx p owner port slot params =
      let held := p.setSlot slot ⟨(p.slots slot).inUse, some owner, some port⟩
      let opened := canTC3xxOpen ifx (p.world.setChannel slot canTC3xxChannelInit) slot port
        params.channelConfig
      if opened.2 != .ok then
        ({ canCoreInit with lastStatus := opened.2 },
          canPlatformReleaseSlot { held with world := opened.1 } slot, opened.2)
      else
        (canPlatformOpenedCore ifx slot port params.runtime, { held with world := opened.1 }, .ok) := by
  simp only [canPlatformOpenSlot, canTC3xxCoreBindingInit, canPlatformCoreOpen, CANPlatform.setSlot,
    CANCore.answer]
  generalize canTC3xxOpen ifx (p.world.setChannel slot canTC3xxChannelInit) slot port
    params.channelConfig = opened
  by_cases failed : opened.2 != .ok <;> simp [failed]

/-- An open of a core on an empty platform takes slot 0 for it, or fails and reserves nothing. -/
inductive CANPlatformOpened (ifx : IfxCan HW) (p : CANPlatform Owner HW) (owner : Owner)
    (params : CANCoreOpenParams (CANTC3xxWorld HW)) :
    CANPlatformCore HW × CANPlatform Owner HW × CANStatus → Prop where
  | refused {core : CANPlatformCore HW} {p' : CANPlatform Owner HW} {status : CANStatus} :
      status ≠ .ok → p.world.SameTables p'.world →
      CANPlatformOpened ifx p owner params (core, p', status)
  | opened {w : CANTC3xxWorld HW} (hw : HW) (port : BoardCANPort) : p.world.SameTables w →
      CANPlatformOpened ifx p owner params
        (canPlatformOpenedCore ifx 0 port params.runtime,
          { p.setSlot 0 ⟨true, some owner, some port⟩ with
            world := w.opened hw 0 port params.channelConfig },
          .ok)

omit [DecidableEq Owner] in
theorem canPlatformAllocateSlot_ready {p : CANPlatform Owner HW} (ready : p.Ready) :
    canPlatformAllocateSlot p = (p.setSlot 0 ⟨true, none, none⟩, some 0) := by
  have first : p.slots 0 = .clear := ready.slots 0 (by decide)
  have found : (List.range canPlatformMaxChannels).find? (fun i => !(p.slots i).inUse) = some 0 :=
    List.find?_cons_of_pos (by rw [first]; rfl)
  simp only [canPlatformAllocateSlot, found, first]
  rfl

omit [DecidableEq Owner] in
theorem canPlatformOpenSlot_spec (ifx : IfxCan HW) (p : CANPlatform Owner HW) (owner : Owner)
    (port : BoardCANPort) (params : CANCoreOpenParams (CANTC3xxWorld HW)) :
    CANPlatformOpened ifx p owner params
      (canPlatformOpenSlot ifx (p.setSlot 0 ⟨true, none, none⟩) owner port 0 params) := by
  have slots : (p.setSlot 0 ⟨true, none, none⟩).setSlot 0 ⟨true, some owner, some port⟩ =
      p.setSlot 0 ⟨true, some owner, some port⟩ := by
    simp only [CANPlatform.setSlot, Function.update_idem]
  have first : (p.setSlot 0 ⟨true, none, none⟩).slots 0 = ⟨true, none, none⟩ :=
    setSlot_slots p 0 _
  have world : (p.setSlot 0 ⟨true, none, none⟩).world = p.world := rfl
  have opened := canTC3xxOpen_spec ifx (p.world.setChannel 0 canTC3xxChannelInit) 0 port
    params.channelConfig
  rw [canPlatformOpenSlot_eq, first, slots, world]
  generalize canTC3xxOpen ifx (p.world.setChannel 0 canTC3xxChannelInit) 0 port
    params.channelConfig = result at opened ⊢
  cases opened with
  | refused failed =>
      dsimp only
      rw [if_pos (by simpa using failed)]
      exact .refused failed ⟨rfl, rfl⟩
  | opened hw => exact .opened hw port ⟨rfl, rfl⟩

theorem canPlatformOpen_ready (ifx : IfxCan HW) (ports : List BoardCANPort)
    {p : CANPlatform Owner HW} (ready : p.Ready) (owner : Owner) (core : CANPlatformCore HW)
    (portName : String) (params : CANCoreOpenParams (CANTC3xxWorld HW)) :
    CANPlatformOpened ifx p owner params
      (canPlatformOpen ifx ports p owner core portName params) := by
  have unowned : canPlatformFindSlotByCore p owner = none :=
    canPlatformFindSlotByCore_none fun i bounded => by rw [ready.slots i bounded]; rfl
  simp only [canPlatformOpen, ready.initialized, unowned]
  rw [if_neg (by decide), if_neg (by decide)]
  cases boardFindCANPort ports portName with
  | none => exact .refused nofun ⟨rfl, rfl⟩
  | some port =>
      simp only [canPlatformAllocateSlot_ready ready]
      exact canPlatformOpenSlot_spec ifx p owner port params

/-! ### A platform with one core -/

/-- Slot 0 is the only one in use. -/
structure CANPlatform.Owned (p : CANPlatform Owner HW) (owner : Owner) (port : BoardCANPort) :
    Prop where
  first : p.slots 0 = ⟨true, some owner, some port⟩
  others : ∀ i < canPlatformMaxChannels, i ≠ 0 → p.slots i = .clear

/-- The platform holds the core of `owner` and no other, its channel open on the node
of `port`. -/
structure CANPlatform.Holds (p : CANPlatform Owner HW) (owner : Owner) (port : BoardCANPort)
    (started : Bool) : Prop extends p.Owned owner port where
  channel : (p.world.channels 0).OpenOn port started
  tables : p.world.TablesHold port

section Holds

variable {p : CANPlatform Owner HW} {owner : Owner} {port : BoardCANPort} {started : Bool}

theorem CANPlatform.Owned.found (owned : p.Owned owner port) :
    canPlatformFindSlotByCore p owner = some 0 := by
  refine canPlatformFindSlotByCore_first ?_
  rw [owned.first]
  simp [CANPlatformSlot.owns]

theorem CANPlatform.Owned.not_found (owned : p.Owned owner port) {other : Owner}
    (ne : other ≠ owner) : canPlatformFindSlotByCore p other = none := by
  refine canPlatformFindSlotByCore_none fun i bounded => ?_
  by_cases first : i = 0
  · subst first
    rw [owned.first]
    simp [CANPlatformSlot.owns, ne.symm]
  · rw [owned.others i bounded first]
    rfl

omit [DecidableEq Owner] in
theorem CANPlatform.Ready.owned (ready : p.Ready) (owner : Owner) (port : BoardCANPort) :
    (p.setSlot 0 ⟨true, some owner, some port⟩).Owned owner port where
  first := setSlot_slots p 0 _
  others i bounded other := (setSlot_slots_of_ne p other _).trans (ready.slots i bounded)

omit [DecidableEq Owner] in
theorem CANPlatform.Owned.holds (owned : p.Owned owner port) {w : CANTC3xxWorld HW}
    (channel : (w.channels 0).OpenOn port started) (tables : w.TablesHold port) :
    CANPlatform.Holds { p with world := w } owner port started :=
  ⟨⟨owned.first, owned.others⟩, channel, tables⟩

/-- A link to slot 0 through the driver's own functions. -/
structure CANPlatformLinked (ifx : IfxCan HW) (core : CANPlatformCore HW) (port : BoardCANPort)
    (link : CANCoreLink (CANTC3xxWorld HW) Nat BoardCANPort) : Prop where
  bound : core.link = some link
  ops : link.ops = canTC3xxCoreDriverOps ifx
  channel : link.driverChannel = 0
  port : link.driverPort = port

section Linked

variable {ifx : IfxCan HW} {core : CANPlatformCore HW}
  {link : CANCoreLink (CANTC3xxWorld HW) Nat BoardCANPort} {w : CANTC3xxWorld HW}

theorem CANPlatformLinked.start (linked : CANPlatformLinked ifx core port link)
    (stopped : link.started = false) (on : (w.channels 0).OpenOn port started) :
    (∃ core', canCoreStart core w = (core', w, .eio) ∧ CANPlatformLinked ifx core' port link) ∨
      ∃ core' w', canCoreStart core w = (core', w', .ok) ∧
        CANPlatformLinked ifx core' port { link with started := true } ∧ w.SameTables w' ∧
        (w'.channels 0).OpenOn port true := by
  have op : link.ops.opStart w link.driverChannel = canTC3xxSetStarted w 0 true := by
    rw [linked.ops, linked.channel]
    rfl
  rw [canCoreStart_bound linked.bound stopped, op]
  rcases canTC3xxSetStarted_openOn on true with ⟨stuck, _⟩ | ⟨w', started, same, on⟩
  · rw [stuck]
    exact .inl ⟨_, rfl, linked.bound, linked.ops, linked.channel, linked.port⟩
  · rw [started]
    exact .inr ⟨_, w', rfl, ⟨rfl, linked.ops, linked.channel, linked.port⟩, same, on⟩

theorem CANPlatformLinked.stop (linked : CANPlatformLinked ifx core port link)
    (running : link.started) (on : (w.channels 0).OpenOn port started) :
    ∃ core' link' w' status b, canCoreStop core w = (core', w', status) ∧
      CANPlatformLinked ifx core' port link' ∧ w.SameTables w' ∧ (w'.channels 0).OpenOn port b ∧
      (w.board.setStandby = .ok → status = .ok) := by
  have op : link.ops.opStop w link.driverChannel = canTC3xxSetStarted w 0 false := by
    rw [linked.ops, linked.channel]
    rfl
  rw [canCoreStop_bound linked.bound running, op]
  rcases canTC3xxSetStarted_openOn on false with ⟨stuck, standby⟩ | ⟨w', stopped, same, on'⟩
  · rw [stuck]
    exact ⟨_, link, w, .eio, started, rfl,
      ⟨linked.bound, linked.ops, linked.channel, linked.port⟩, ⟨rfl, rfl⟩, on,
      fun good => absurd good standby⟩
  · rw [stopped]
    exact ⟨_, { link with started := false }, w', .ok, false, rfl,
      ⟨rfl, linked.ops, linked.channel, linked.port⟩, same, on', fun _ => rfl⟩

/-- The close of the one core succeeds and leaves nothing reserved. -/
theorem CANPlatform.Holds.closed (holds : p.Holds owner port started)
    (linked : CANPlatformLinked ifx core port link) :
    ∃ p', canPlatformClose p owner core = (canCoreInit, p', .ok) ∧ p'.world.TablesClear := by
  have stopped : ∃ w b, (if link.started then (link.ops.opStop p.world link.driverChannel).1
      else p.world) = w ∧ w.TablesHold port ∧ (w.channels 0).OpenOn port b := by
    rw [linked.ops, linked.channel]
    split
    · rcases canTC3xxSetStarted_openOn holds.channel false with ⟨stuck, _⟩ | ⟨w, stopped, same, on⟩
      · exact ⟨p.world, started, congrArg Prod.fst stuck, holds.tables, holds.channel⟩
      · exact ⟨w, false, congrArg Prod.fst stopped, holds.tables.congr same, on⟩
    · exact ⟨p.world, started, rfl, holds.tables, holds.channel⟩
  obtain ⟨w, b, stopped, tables, on⟩ := stopped
  obtain ⟨w', closed, clear⟩ := canTC3xxClose_openOn on tables
  have op : link.ops.opClose w link.driverChannel = (w', .ok) := by
    rw [linked.ops, linked.channel]
    exact closed
  have core : canCoreClose core p.world = (canCoreInit, w', .ok) := by
    rw [canCoreClose_bound linked.bound]
    simp only [stopped, op]
    rfl
  refine ⟨canPlatformReleaseSlot { p with world := w' } 0, ?_,
    clear.congr (canPlatformReleaseSlot_tables _ _)⟩
  simp only [canPlatformClose, holds.found, core]
  rfl

end Linked

end Holds

end SmartBusAccess.Can
