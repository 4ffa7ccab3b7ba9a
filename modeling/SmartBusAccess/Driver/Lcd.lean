import SmartBusAccess.Driver.Monitor

/-!
The display of the driver ECU (`monitor_module.c`, driven by the second core).

The text display is behind a port expander: every byte written to the expander sets the four
upper data lines, the backlight, the enable line and the register select. The functions of the
source are modelled by the bytes they write, delays left out.

`Lcd` is the display's controller as far as the source uses it: it takes a nibble at each
falling edge of the enable line. `monitor_display`: from whatever state the controller is in,
after `initMonitor` and any refreshes it shows the flags of the last one.
-/

namespace SmartBusAccess.Driver

/-! ### What is written -/

abbrev lcdBacklight : UInt8 := 0x08
abbrev lcdEnable : UInt8 := 0x04
abbrev lcdRs : UInt8 := 0x01

def writeBytesToExpander (data : UInt8) : List UInt8 := [data ||| lcdBacklight]

def enableLCD (data : UInt8) : List UInt8 :=
  writeBytesToExpander (data ||| lcdEnable) ++ writeBytesToExpander (data &&& ~~~lcdEnable)

def writeNibbleWithCtrlToLCD (nibbleWithCtrl : UInt8) : List UInt8 :=
  writeBytesToExpander nibbleWithCtrl ++ enableLCD nibbleWithCtrl

def sendByteToLCD (data mode : UInt8) : List UInt8 :=
  let nibbleHigh := (data &&& 0xF0) ||| mode
  let nibbleLow := ((data <<< (4 : UInt8)) &&& 0xF0) ||| mode
  writeNibbleWithCtrlToLCD nibbleHigh ++ writeNibbleWithCtrlToLCD nibbleLow

def sendCmdToLCD (cmd : UInt8) : List UInt8 := sendByteToLCD cmd 0x00

def sendDataToLCD (data : UInt8) : List UInt8 := sendByteToLCD data lcdRs

def customChar0 : List UInt8 := [0x00, 0x1F, 0x1F, 0x1F, 0x1F, 0x1F, 0x1F, 0x00]

def customChar1 : List UInt8 := [0x00, 0x1F, 0x11, 0x11, 0x11, 0x11, 0x1F, 0x00]

def createCustomChar (idx : UInt8) (pattern : List UInt8) : List UInt8 :=
  sendCmdToLCD ((0x40 : UInt8) ||| ((idx &&& 0x07) <<< (3 : UInt8))) ++ pattern.flatMap sendDataToLCD

def loadCustomChars : List UInt8 :=
  createCustomChar 0 customChar0 ++ createCustomChar 1 customChar1

def clearMonitor : List UInt8 := sendCmdToLCD 0x01

def initMonitor : List UInt8 :=
  writeNibbleWithCtrlToLCD 0x30 ++ writeNibbleWithCtrlToLCD 0x30 ++
    writeNibbleWithCtrlToLCD 0x30 ++ writeNibbleWithCtrlToLCD 0x20 ++
    sendCmdToLCD 0x28 ++ sendCmdToLCD 0x0C ++ sendCmdToLCD 0x06 ++ sendCmdToLCD 0x01 ++
    loadCustomChars ++ clearMonitor

/-- `row` is 0 or 1. -/
def setLCDCursor (row col : UInt8) : List UInt8 :=
  sendCmdToLCD ((0x80 : UInt8) ||| ((if row == 0 then 0x00 else 0x40) + col))

def printLCDString (str : List Char) : List UInt8 :=
  str.flatMap fun c => sendDataToLCD c.toUInt8

def printLCDCustomChar (idx : UInt8) : List UInt8 := sendDataToLCD (idx &&& 0x07)

/-- The four reads of `monitorFlags`, which the first core may change in between. -/
structure MonitorReads where
  door : UInt8
  slope : UInt8
  block : UInt8
  stop : UInt8
deriving DecidableEq, Repr

def printMonitor (monitorFlags : MonitorReads) : List UInt8 :=
  let isDoorOpened := monitorFlags.door &&& 0x80 != 0
  let isSlopeOpened := monitorFlags.slope &&& 0x40 != 0
  let isBlocked := monitorFlags.block &&& 0x20 != 0
  let isStopBellPressed := monitorFlags.stop &&& 0x10 != 0
  setLCDCursor 0 0 ++ printLCDString "Door   ".toList ++
    setLCDCursor 0 9 ++ printLCDString "Slope ".toList ++
    setLCDCursor 1 0 ++ printLCDString "Block ".toList ++
    setLCDCursor 1 9 ++ printLCDString "Stop  ".toList ++
    setLCDCursor 0 7 ++ printLCDCustomChar (if isDoorOpened then 0 else 1) ++
    setLCDCursor 0 15 ++ printLCDCustomChar (if isSlopeOpened then 0 else 1) ++
    setLCDCursor 1 7 ++ printLCDCustomChar (if isBlocked then 0 else 1) ++
    setLCDCursor 1 15 ++ printLCDCustomChar (if isStopBellPressed then 0 else 1)

/-! ### The display -/

/-- Where the next data byte goes: into the text or into the patterns of custom characters. -/
inductive LcdCursor where
  | text (address : ℕ)
  | pattern (address : ℕ)
deriving DecidableEq, Repr

/-- `high` is an upper nibble whose lower one is still to come. -/
structure Lcd where
  enable : Bool
  eightBit : Bool
  high : Option UInt8
  increments : Bool
  isOn : Bool
  cursor : LcdCursor
  text : ℕ → UInt8
  pattern : ℕ → UInt8

namespace Lcd

/-- The next address, with two lines of 40. -/
def advance (increments : Bool) (address : ℕ) : ℕ :=
  if increments then
    if address = 0x27 then 0x40 else if address = 0x67 then 0x00 else address + 1
  else if address = 0x40 then 0x27 else if address = 0x00 then 0x67 else address - 1

def advancePattern (increments : Bool) (address : ℕ) : ℕ :=
  (if increments then address + 1 else address + 63) % 64

def putData (l : Lcd) (data : UInt8) : Lcd :=
  match l.cursor with
  | .text address =>
      { l with
        text := Function.update l.text address data
        cursor := .text (advance l.increments address) }
  | .pattern address =>
      { l with
        pattern := Function.update l.pattern address data
        cursor := .pattern (advancePattern l.increments address) }

/-- The instruction is told by the highest bit that is set. -/
def instruct (l : Lcd) (cmd : UInt8) : Lcd :=
  if cmd &&& 0x80 != 0 then { l with cursor := .text (cmd &&& 0x7F).toNat }
  else if cmd &&& 0x40 != 0 then { l with cursor := .pattern (cmd &&& 0x3F).toNat }
  else if cmd &&& 0x20 != 0 then { l with eightBit := cmd &&& 0x10 != 0 }
  else if cmd &&& 0x10 != 0 then l
  else if cmd &&& 0x08 != 0 then { l with isOn := cmd &&& 0x04 != 0 }
  else if cmd &&& 0x04 != 0 then { l with increments := cmd &&& 0x02 != 0 }
  else if cmd &&& 0x02 != 0 then { l with cursor := .text 0 }
  else if cmd &&& 0x01 != 0 then
    { l with text := fun _ => 0x20, cursor := .text 0, increments := true }
  else l

def execute (l : Lcd) (isData : Bool) (byte : UInt8) : Lcd :=
  if isData then l.putData byte else l.instruct byte

/-- A falling edge. The four lower data lines are not connected and read as zero. -/
def latch (l : Lcd) (isData : Bool) (nibble : UInt8) : Lcd :=
  if l.eightBit then { l with high := none }.execute isData nibble
  else
    match l.high with
    | none => { l with high := some nibble }
    | some high => { l with high := none }.execute isData (high ||| (nibble >>> (4 : UInt8)))

/-- A byte from the expander. -/
def receive (l : Lcd) (byte : UInt8) : Lcd :=
  let level := byte &&& lcdEnable != 0
  let fell := l.enable && !level
  let l := { l with enable := level }
  if fell then l.latch (byte &&& lcdRs != 0) (byte &&& 0xF0) else l

def feed (l : Lcd) (bytes : List UInt8) : Lcd := bytes.foldl receive l

@[simp] theorem feed_nil (l : Lcd) : l.feed [] = l := rfl

theorem feed_append (l : Lcd) (front back : List UInt8) :
    l.feed (front ++ back) = (l.feed front).feed back :=
  List.foldl_append

/-! ### Nibbles -/

/-- A nibble is taken, with the enable line low afterwards. -/
def strike (l : Lcd) (byte : UInt8) : Lcd :=
  { l with enable := false }.latch (byte &&& lcdRs != 0) (byte &&& 0xF0)

theorem instruct_enable (l : Lcd) (cmd : UInt8) : (l.instruct cmd).enable = l.enable := by
  unfold instruct
  split_ifs <;> rfl

theorem putData_enable (l : Lcd) (data : UInt8) : (l.putData data).enable = l.enable := by
  unfold putData
  split <;> rfl

theorem execute_enable (l : Lcd) (isData : Bool) (byte : UInt8) :
    (l.execute isData byte).enable = l.enable := by
  cases isData with
  | true => exact putData_enable l byte
  | false => exact instruct_enable l byte

theorem strike_enable (l : Lcd) (byte : UInt8) : (l.strike byte).enable = false := by
  unfold strike latch
  split
  · exact execute_enable _ _ _
  · split
    · rfl
    · exact execute_enable _ _ _

/-- The enable line goes up and down once, after it has gone down if it was up. -/
theorem feed_nibble (l : Lcd) {byte : UInt8} (low : byte &&& lcdEnable = 0) :
    l.feed (writeNibbleWithCtrlToLCD byte) =
      (if l.enable then l.strike byte else l).strike byte := by
  have first : (byte ||| lcdBacklight) &&& lcdEnable = 0 := (masked_set _ _ _ rfl).trans low
  have up : ((byte ||| lcdEnable) ||| lcdBacklight) &&& lcdEnable = lcdEnable :=
    (masked_set _ _ _ rfl).trans (masked_set_self _ _)
  have down : ((byte &&& ~~~lcdEnable) ||| lcdBacklight) &&& lcdEnable = 0 :=
    (masked_set _ _ _ rfl).trans (masked_clear_zero _ _ _ rfl)
  have kept : ∀ mask : UInt8, lcdBacklight &&& mask = 0 → ~~~lcdEnable &&& mask = mask →
      ((byte ||| lcdBacklight) &&& mask = byte &&& mask) ∧
        (((byte &&& ~~~lcdEnable) ||| lcdBacklight) &&& mask = byte &&& mask) := by
    intro mask apart within
    exact ⟨masked_set _ _ _ apart, (masked_set _ _ _ apart).trans (masked_clear _ _ _ within)⟩
  obtain ⟨rs, rs'⟩ := kept lcdRs rfl rfl
  obtain ⟨data, data'⟩ := kept 0xF0 rfl rfl
  have strikes (l : Lcd) (isUp : l.enable = true) : l.receive ((byte &&& ~~~lcdEnable) ||| lcdBacklight) =
      l.strike byte := by
    simp [receive, isUp, down, rs', data', strike]
  have still (l : Lcd) : l.receive ((byte ||| lcdEnable) ||| lcdBacklight) =
      { l with enable := true } := by
    have isUp : (lcdEnable != 0) = true := rfl
    simp [receive, up, isUp]
  show ((l.receive (byte ||| lcdBacklight)).receive ((byte ||| lcdEnable) ||| lcdBacklight)).receive
    ((byte &&& ~~~lcdEnable) ||| lcdBacklight) = _
  rw [still, strikes _ rfl]
  cases isUp : l.enable with
  | true =>
      have fell : l.receive (byte ||| lcdBacklight) = l.strike byte := by
        simp [receive, isUp, first, rs, data, strike]
      rw [fell]
      rfl
  | false =>
      have rests : l.receive (byte ||| lcdBacklight) = { l with enable := false } := by
        simp [receive, isUp, first]
      rw [rests]
      rfl

/-- Between two bytes, on a 4-bit interface. -/
structure Ready (l : Lcd) : Prop where
  low : l.enable = false
  fourBit : l.eightBit = false
  fresh : l.high = none

theorem nibbles_join (data : UInt8) :
    (data &&& 0xF0) ||| (((data <<< (4 : UInt8)) &&& 0xF0) >>> (4 : UInt8)) = data := by
  obtain ⟨i, rfl⟩ : ∃ i : Fin 256, data = UInt8.ofNat i := ⟨⟨data.toNat, data.toNat_lt⟩, by simp⟩
  revert i
  decide +kernel

/-- The lines of a nibble. -/
theorem nibble_lines (x : UInt8) {mode : UInt8} (isMode : mode = 0 ∨ mode = lcdRs) :
    ((x &&& 0xF0) ||| mode) &&& lcdEnable = 0 ∧ ((x &&& 0xF0) ||| mode) &&& lcdRs = mode ∧
      ((x &&& 0xF0) ||| mode) &&& 0xF0 = x &&& 0xF0 := by
  have enable := masked_clear_zero x 0xF0 lcdEnable rfl
  have rs := masked_clear_zero x 0xF0 lcdRs rfl
  have data := masked_clear x 0xF0 0xF0 rfl
  rw [or_and, or_and, or_and, enable, rs, data]
  rcases isMode with rfl | rfl
  · exact ⟨rfl, rfl, UInt8.or_zero⟩
  · exact ⟨rfl, rfl, UInt8.or_zero⟩

/-- Two nibbles are one byte. -/
theorem Ready.byte {l : Lcd} (ready : l.Ready) (data : UInt8) {mode : UInt8}
    (isMode : mode = 0 ∨ mode = lcdRs) :
    l.feed (sendByteToLCD data mode) = l.execute (mode != 0) data := by
  obtain ⟨enable, rs, upper⟩ := nibble_lines data isMode
  obtain ⟨enable', rs', lower⟩ := nibble_lines (data <<< (4 : UInt8)) isMode
  have rest : { l with enable := false, eightBit := false, high := none } = l := by
    obtain ⟨low, fourBit, fresh⟩ := ready
    cases l
    cases low
    cases fourBit
    cases fresh
    rfl
  have first : l.feed (writeNibbleWithCtrlToLCD ((data &&& 0xF0) ||| mode)) =
      { l with enable := false, high := some (data &&& 0xF0) } := by
    rw [feed_nibble l enable, ready.low]
    simp [strike, latch, ready.fourBit, ready.fresh, upper]
  have second : ({ l with enable := false, high := some (data &&& 0xF0) } : Lcd).feed
      (writeNibbleWithCtrlToLCD (((data <<< (4 : UInt8)) &&& 0xF0) ||| mode)) =
        l.execute (mode != 0) data := by
    rw [feed_nibble _ enable']
    simp only [strike, latch, ready.fourBit, Bool.false_eq_true, if_false, rs', lower,
      nibbles_join, rest]
  rw [sendByteToLCD, feed_append, first, second]

theorem Ready.cmd {l : Lcd} (ready : l.Ready) (cmd : UInt8) :
    l.feed (sendCmdToLCD cmd) = l.instruct cmd :=
  ready.byte cmd (.inl rfl)

theorem Ready.data {l : Lcd} (ready : l.Ready) (data : UInt8) :
    l.feed (sendDataToLCD data) = l.putData data :=
  ready.byte data (.inr rfl)

/-! ### Writes -/

end Lcd

/-- A byte for the display. -/
inductive LcdWrite where
  | cmd (byte : UInt8)
  | data (byte : UInt8)
deriving DecidableEq, Repr

namespace LcdWrite

def bytes : LcdWrite → List UInt8
  | cmd byte => sendCmdToLCD byte
  | data byte => sendDataToLCD byte

def apply (l : Lcd) : LcdWrite → Lcd
  | cmd byte => l.instruct byte
  | data byte => l.putData byte

/-- It does not ask for the 8-bit interface. -/
def isNarrow : LcdWrite → Bool
  | cmd byte => byte &&& 0xC0 != 0 || byte &&& 0x20 == 0 || byte &&& 0x10 == 0
  | data _ => true

/-- Data written from where a command puts the cursor. -/
def line (start : UInt8) (bytes : List UInt8) : List LcdWrite := cmd start :: bytes.map data

end LcdWrite

namespace Lcd

variable {l : Lcd}

theorem Ready.putData (ready : l.Ready) (data : UInt8) : (l.putData data).Ready := by
  obtain ⟨low, fourBit, fresh⟩ := ready
  unfold Lcd.putData
  split
  · exact ⟨low, fourBit, fresh⟩
  · exact ⟨low, fourBit, fresh⟩

theorem Ready.instruct (ready : l.Ready) {cmd : UInt8}
    (narrow : (LcdWrite.cmd cmd).isNarrow = true) : (l.instruct cmd).Ready := by
  obtain ⟨low, fourBit, fresh⟩ := ready
  unfold Lcd.instruct
  split_ifs with text pattern function
  · exact ⟨low, fourBit, fresh⟩
  · exact ⟨low, fourBit, fresh⟩
  · refine ⟨low, ?_, fresh⟩
    have high : cmd &&& 0xC0 = 0 := by
      have bits : cmd &&& 0xC0 = (cmd &&& 0x80) ||| (cmd &&& 0x40) := by
        rw [UInt8.and_comm cmd 0x80, UInt8.and_comm cmd 0x40, ← or_and, UInt8.and_comm]
        rfl
      have text : cmd &&& 0x80 = 0 := by simpa using text
      have pattern : cmd &&& 0x40 = 0 := by simpa using pattern
      rw [bits, text, pattern]
      rfl
    simpa [LcdWrite.isNarrow, high, bne_iff_ne.mp function] using narrow
  all_goals exact ⟨low, fourBit, fresh⟩

/-- A sequence of writes is their effects, one after the other. -/
theorem Ready.writes (ready : l.Ready) {ws : List LcdWrite}
    (narrow : ws.all LcdWrite.isNarrow = true) :
    l.feed (ws.flatMap LcdWrite.bytes) = ws.foldl LcdWrite.apply l ∧
      (ws.foldl LcdWrite.apply l).Ready := by
  induction ws generalizing l with
  | nil => exact ⟨rfl, ready⟩
  | cons w rest ih =>
      rw [List.all_cons, Bool.and_eq_true] at narrow
      obtain ⟨here, later⟩ := narrow
      have step : l.feed w.bytes = w.apply l ∧ (w.apply l).Ready := by
        cases w with
        | cmd byte => exact ⟨ready.cmd byte, ready.instruct here⟩
        | data byte => exact ⟨ready.data byte, ready.putData byte⟩
      rw [List.flatMap_cons, feed_append, step.1]
      exact ih step.2 later

/-! ### Initialisation -/

/-- What `initMonitor` writes once the interface is set. -/
def initialised : List LcdWrite :=
  [.cmd 0x28, .cmd 0x0C, .cmd 0x06, .cmd 0x01] ++
    (LcdWrite.line 0x40 customChar0 ++ (LcdWrite.line 0x48 customChar1 ++ [.cmd 0x01]))

def icon (filled : Bool) : UInt8 := if filled then 0 else 1

/-- What a refresh writes, and where. -/
def lines (r : MonitorReads) : List (ℕ × List UInt8) :=
  [(0x00, "Door   ".toList.map Char.toUInt8), (0x09, "Slope ".toList.map Char.toUInt8),
    (0x40, "Block ".toList.map Char.toUInt8), (0x49, "Stop  ".toList.map Char.toUInt8),
    (0x07, [icon (r.door &&& 0x80 != 0)]), (0x0F, [icon (r.slope &&& 0x40 != 0)]),
    (0x47, [icon (r.block &&& 0x20 != 0)]), (0x4F, [icon (r.stop &&& 0x10 != 0)])]

def textCmd (address : ℕ) : UInt8 := 0x80 ||| UInt8.ofNat address

def printed (r : MonitorReads) : List LcdWrite :=
  (lines r).flatMap fun line => LcdWrite.line (textCmd line.1) line.2

/-- The first bytes set the interface. -/
def interfaceSet : List UInt8 :=
  writeNibbleWithCtrlToLCD 0x30 ++ writeNibbleWithCtrlToLCD 0x30 ++
    writeNibbleWithCtrlToLCD 0x30 ++ writeNibbleWithCtrlToLCD 0x20

/-- On the 8-bit interface. -/
structure Wide (l : Lcd) : Prop where
  eightBit : l.eightBit = true
  fresh : l.high = none

theorem instruct_high (l : Lcd) (cmd : UInt8) : (l.instruct cmd).high = l.high := by
  unfold Lcd.instruct
  split_ifs <;> rfl

/-- The nibble of a function set, as the interface stands. -/
theorem strike_wide (wide : l.eightBit = true) : (l.strike 0x30).Wide := by
  rw [strike, latch, if_pos wide]
  exact ⟨rfl, rfl⟩

theorem strike_fresh (fourBit : l.eightBit = false) (fresh : l.high = none) :
    (l.strike 0x30).eightBit = false ∧ (l.strike 0x30).high = some 0x30 := by
  rw [strike, latch, if_neg (by simp [fourBit]), fresh]
  exact ⟨fourBit, rfl⟩

theorem strike_second (fourBit : l.eightBit = false) (high : l.high = some 0x30) :
    (l.strike 0x30).Wide := by
  rw [strike, latch, if_neg (by simp [fourBit]), high]
  exact ⟨rfl, rfl⟩

/-- An unknown nibble was waiting: it is used up. -/
theorem strike_stale {high : UInt8} (fourBit : l.eightBit = false) (stale : l.high = some high) :
    (l.strike 0x30).high = none := by
  have isCmd : ((0x30 : UInt8) &&& lcdRs != 0) = false := rfl
  simp only [strike, latch, fourBit, stale, isCmd, execute, Bool.false_eq_true, if_false]
  exact instruct_high _ _

theorem two_strikes (fourBit : l.eightBit = false) (fresh : l.high = none) :
    ((l.strike 0x30).strike 0x30).Wide := by
  obtain ⟨still, waiting⟩ := strike_fresh fourBit fresh
  exact strike_second still waiting

/-- Three of them set the 8-bit interface, wherever they find it. -/
theorem three_strikes (l : Lcd) : (((l.strike 0x30).strike 0x30).strike 0x30).Wide := by
  have wide (l : Lcd) (set : l.eightBit = true) : ((l.strike 0x30).strike 0x30).Wide :=
    strike_wide (strike_wide set).eightBit
  cases first : l.eightBit with
  | true => exact wide _ (strike_wide first).eightBit
  | false =>
      cases waiting : l.high with
      | none => exact strike_wide (two_strikes first waiting).eightBit
      | some high =>
          have fresh := strike_stale first waiting
          cases second : (l.strike 0x30).eightBit with
          | true => exact wide _ second
          | false => exact two_strikes second fresh

theorem Wide.narrowed (wide : l.Wide) : (l.strike 0x20).Ready := by
  refine ⟨strike_enable l 0x20, ?_, ?_⟩
  · rw [strike, latch, if_pos wide.eightBit]
    rfl
  · rw [strike, latch, if_pos wide.eightBit]
    rfl

/-- Whatever the display was doing, it is between two bytes of the 4-bit interface. -/
theorem interfaceSet_ready (l : Lcd) : (l.feed interfaceSet).Ready := by
  have strikes (l : Lcd) (low : l.enable = false) :
      l.feed (writeNibbleWithCtrlToLCD 0x30) = l.strike 0x30 := by
    rw [feed_nibble l rfl, low]
    rfl
  have last (l : Lcd) (low : l.enable = false) :
      l.feed (writeNibbleWithCtrlToLCD 0x20) = l.strike 0x20 := by
    rw [feed_nibble l rfl, low]
    rfl
  rw [interfaceSet, feed_append, feed_append, feed_append, feed_nibble l rfl,
    strikes _ (strike_enable _ _), strikes _ (strike_enable _ _), last _ (strike_enable _ _)]
  exact (three_strikes _).narrowed

theorem initMonitor_writes : initMonitor = interfaceSet ++ initialised.flatMap LcdWrite.bytes := by
  decide +kernel

theorem icon_masked (filled : Bool) : (if filled then 0 else 1 : UInt8) &&& 0x07 = icon filled := by
  cases filled <;> rfl

theorem string_bytes (str : List Char) :
    ((str.map Char.toUInt8).map LcdWrite.data).flatMap LcdWrite.bytes = printLCDString str := by
  rw [List.map_map, List.flatMap_map]
  rfl

theorem cursor_bytes : setLCDCursor 0 0 = (LcdWrite.cmd (textCmd 0x00)).bytes ∧
    setLCDCursor 0 9 = (LcdWrite.cmd (textCmd 0x09)).bytes ∧
    setLCDCursor 1 0 = (LcdWrite.cmd (textCmd 0x40)).bytes ∧
    setLCDCursor 1 9 = (LcdWrite.cmd (textCmd 0x49)).bytes ∧
    setLCDCursor 0 7 = (LcdWrite.cmd (textCmd 0x07)).bytes ∧
    setLCDCursor 0 15 = (LcdWrite.cmd (textCmd 0x0F)).bytes ∧
    setLCDCursor 1 7 = (LcdWrite.cmd (textCmd 0x47)).bytes ∧
    setLCDCursor 1 15 = (LcdWrite.cmd (textCmd 0x4F)).bytes :=
  ⟨rfl, rfl, rfl, rfl, rfl, rfl, rfl, rfl⟩

theorem printMonitor_writes (r : MonitorReads) :
    printMonitor r = (printed r).flatMap LcdWrite.bytes := by
  obtain ⟨door, slope, block, stop, door', slope', block', stop'⟩ := cursor_bytes
  simp only [printMonitor, printLCDCustomChar, icon_masked, printed, lines, LcdWrite.line,
    List.flatMap_append, List.flatMap_cons, List.flatMap_nil, string_bytes, door, slope, block,
    stop, door', slope', block', stop', List.append_assoc, List.append_nil, List.map_cons,
    List.map_nil]
  rfl

/-! ### What is shown -/

/-- Bytes written one after the other. -/
def writeAt (next : ℕ → ℕ) (memory : ℕ → UInt8) (address : ℕ) : List UInt8 → ℕ → UInt8
  | [] => memory
  | byte :: rest => writeAt next (Function.update memory address byte) (next address) rest

/-- Bytes in consecutive places. -/
def place (memory : ℕ → UInt8) (address : ℕ) (bytes : List UInt8) (x : ℕ) : UInt8 :=
  if address ≤ x ∧ x < address + bytes.length then bytes.getD (x - address) 0 else memory x

/-- They do not reach over the end of a line. -/
def Within (address length : ℕ) : Prop :=
  address + length ≤ 0x28 ∨ 0x40 ≤ address ∧ address + length ≤ 0x68

theorem writeAt_consecutive {next : ℕ → ℕ} {bytes : List UInt8} {address : ℕ}
    (follows : ∀ i, i + 1 < bytes.length → next (address + i) = address + i + 1)
    (memory : ℕ → UInt8) : writeAt next memory address bytes = place memory address bytes := by
  induction bytes generalizing address memory with
  | nil =>
      funext x
      rw [writeAt, place, if_neg (by simp)]
  | cons byte rest ih =>
      funext x
      have rewritten : writeAt next (Function.update memory address byte) (next address) rest =
          place (Function.update memory address byte) (address + 1) rest := by
        cases rest with
        | nil =>
            funext x
            rw [writeAt, place, if_neg (by simp)]
        | cons second others =>
            have first : next address = address + 1 := follows 0 (by simp)
            rw [first]
            apply ih
            intro i short
            have := follows (i + 1) (by simpa using short)
            rwa [show address + (i + 1) = address + 1 + i by omega] at this
      rw [writeAt, rewritten, place, place, List.length_cons]
      rcases Nat.lt_trichotomy x address with before | rfl | after
      · rw [if_neg (by omega), if_neg (by omega), Function.update_of_ne (by omega)]
      · rw [if_neg (by omega), if_pos (by omega), Function.update_self, Nat.sub_self,
          List.getD_cons_zero]
      · by_cases inside : x < address + 1 + rest.length
        · rw [if_pos (by omega), if_pos (by omega),
            show x - address = (x - (address + 1)) + 1 by omega, List.getD_cons_succ]
        · rw [if_neg (by omega), if_neg (by omega), Function.update_of_ne (by omega)]

theorem writeAt_text {address : ℕ} {bytes : List UInt8} (within : Within address bytes.length)
    (memory : ℕ → UInt8) :
    writeAt (advance true) memory address bytes = place memory address bytes := by
  apply writeAt_consecutive
  intro i short
  rw [advance, if_pos rfl, if_neg, if_neg] <;> unfold Within at within <;> omega

theorem writeAt_pattern {address : ℕ} {bytes : List UInt8} (within : address + bytes.length ≤ 64)
    (memory : ℕ → UInt8) :
    writeAt (advancePattern true) memory address bytes = place memory address bytes := by
  apply writeAt_consecutive
  intro i short
  rw [advancePattern, if_pos rfl, Nat.mod_eq_of_lt (by omega)]

/-- Switched on, with this text and these patterns. -/
structure Shows (l : Lcd) (text pattern : ℕ → UInt8) : Prop where
  increments : l.increments = true
  on : l.isOn = true
  text : l.text = text
  pattern : l.pattern = pattern

section Shows

variable {text pattern : ℕ → UInt8}

theorem Shows.typed (shows : l.Shows text pattern) {address : ℕ}
    (cursor : l.cursor = .text address) (bytes : List UInt8) :
    ((bytes.map LcdWrite.data).foldl LcdWrite.apply l).Shows
      (writeAt (advance true) text address bytes) pattern := by
  induction bytes generalizing l text address with
  | nil => exact shows
  | cons byte rest ih =>
      have put : l.putData byte = { l with
          text := Function.update text address byte, cursor := .text (advance true address) } := by
        rw [Lcd.putData, cursor]
        dsimp only
        rw [shows.text, shows.increments]
      have step : (l.putData byte).Shows (Function.update text address byte) pattern := by
        rw [put]
        exact ⟨shows.increments, shows.on, rfl, shows.pattern⟩
      exact ih step (by rw [put])

theorem Shows.drawn (shows : l.Shows text pattern) {address : ℕ}
    (cursor : l.cursor = .pattern address) (bytes : List UInt8) :
    ((bytes.map LcdWrite.data).foldl LcdWrite.apply l).Shows text
      (writeAt (advancePattern true) pattern address bytes) := by
  induction bytes generalizing l pattern address with
  | nil => exact shows
  | cons byte rest ih =>
      have put : l.putData byte = { l with
          pattern := Function.update pattern address byte
          cursor := .pattern (advancePattern true address) } := by
        rw [Lcd.putData, cursor]
        dsimp only
        rw [shows.pattern, shows.increments]
      have step : (l.putData byte).Shows text (Function.update pattern address byte) := by
        rw [put]
        exact ⟨shows.increments, shows.on, shows.text, rfl⟩
      exact ih step (by rw [put])

/-- The command of a text address puts the cursor there. -/
structure Starts (address : ℕ) (bytes : List UInt8) : Prop where
  isText : textCmd address &&& 0x80 ≠ 0
  there : (textCmd address &&& 0x7F).toNat = address
  within : Within address bytes.length

theorem Shows.line (shows : l.Shows text pattern) {address : ℕ} {bytes : List UInt8}
    (starts : Starts address bytes) :
    ((LcdWrite.line (textCmd address) bytes).foldl LcdWrite.apply l).Shows
      (place text address bytes) pattern := by
  have moved : l.instruct (textCmd address) = { l with cursor := .text address } := by
    rw [Lcd.instruct, if_pos (bne_iff_ne.mpr starts.isText), starts.there]
  have step : (l.instruct (textCmd address)).Shows text pattern := by
    rw [moved]
    exact ⟨shows.increments, shows.on, shows.text, shows.pattern⟩
  rw [← writeAt_text starts.within]
  exact step.typed (by rw [moved]) bytes

theorem Shows.lines (shows : l.Shows text pattern) {lines : List (ℕ × List UInt8)}
    (starts : ∀ line ∈ lines, Starts line.1 line.2) :
    ((lines.flatMap fun line => LcdWrite.line (textCmd line.1) line.2).foldl
      LcdWrite.apply l).Shows
        (lines.foldl (fun text line => place text line.1 line.2) text) pattern := by
  induction lines generalizing l text with
  | nil => exact shows
  | cons line rest ih =>
      rw [List.flatMap_cons, List.foldl_append]
      exact ih (shows.line (starts line (.head _))) fun other mem => starts other (.tail _ mem)

end Shows

/-- The two rows of sixteen columns. -/
def visible (l : Lcd) : List UInt8 :=
  (List.range 16).map l.text ++ (List.range 16).map fun column => l.text (0x40 + column)

/-- The patterns of the two icons. -/
def icons (l : Lcd) : List UInt8 := (List.range 16).map l.pattern

/-- The rows with the four icons. -/
def layout (r : MonitorReads) : List UInt8 :=
  ("Door   ".toList.map Char.toUInt8 ++ [icon (r.door &&& 0x80 != 0)] ++
    " Slope ".toList.map Char.toUInt8 ++ [icon (r.slope &&& 0x40 != 0)]) ++
  ("Block  ".toList.map Char.toUInt8 ++ [icon (r.block &&& 0x20 != 0)] ++
    " Stop  ".toList.map Char.toUInt8 ++ [icon (r.stop &&& 0x10 != 0)])

/-- The icons are loaded, and blank is what a refresh does not write. -/
structure Loaded (l : Lcd) : Prop extends Ready l where
  increments : l.increments = true
  on : l.isOn = true
  icons : l.icons = customChar0 ++ customChar1
  blank : l.text 0x08 = 0x20 ∧ l.text 0x46 = 0x20 ∧ l.text 0x48 = 0x20

theorem lines_start (r : MonitorReads) : ∀ line ∈ lines r, Starts line.1 line.2 := by
  have start (address : ℕ) (bytes : List UInt8) (closed : (textCmd address &&& 0x80 != 0) = true ∧
      (textCmd address &&& 0x7F).toNat = address) (within : Within address bytes.length) :
      Starts address bytes := ⟨bne_iff_ne.mp closed.1, closed.2, within⟩
  intro line mem
  simp only [lines, List.mem_cons, List.not_mem_nil, or_false] at mem
  rcases mem with rfl | rfl | rfl | rfl | rfl | rfl | rfl | rfl <;> dsimp only <;>
    exact start _ _ (by decide) (by simp [Within])

/-- The text of a refresh, where it writes and where it does not. -/
def placed (r : MonitorReads) (text : ℕ → UInt8) : ℕ → UInt8 :=
  (lines r).foldl (fun text line => place text line.1 line.2) text

theorem columns_eq : List.range 16 = [0, 1, 2, 3, 4, 5, 6, 7, 8, 9, 10, 11, 12, 13, 14, 15] := rfl

theorem space_eq : ' '.toUInt8 = 0x20 := rfl

theorem upper_placed (r : MonitorReads) {text : ℕ → UInt8} (gap : text 0x08 = 0x20) :
    (List.range 16).map (placed r text) =
      "Door   ".toList.map Char.toUInt8 ++ [icon (r.door &&& 0x80 != 0)] ++
        " Slope ".toList.map Char.toUInt8 ++ [icon (r.slope &&& 0x40 != 0)] := by
  unfold placed
  simp only [lines, List.foldl_cons, List.foldl_nil, columns_eq]
  simp [place, gap, space_eq]

theorem lower_placed (r : MonitorReads) {text : ℕ → UInt8} (gap : text 0x46 = 0x20)
    (gap' : text 0x48 = 0x20) :
    (List.range 16).map (fun column => placed r text (0x40 + column)) =
      "Block  ".toList.map Char.toUInt8 ++ [icon (r.block &&& 0x20 != 0)] ++
        " Stop  ".toList.map Char.toUInt8 ++ [icon (r.stop &&& 0x10 != 0)] := by
  unfold placed
  simp only [lines, List.foldl_cons, List.foldl_nil, columns_eq]
  simp [place, gap, gap', space_eq]

/-- A refresh shows what it has read, and leaves the rest. -/
theorem Loaded.printMonitor (loaded : l.Loaded) (r : MonitorReads) :
    (l.feed (printMonitor r)).Loaded ∧ (l.feed (printMonitor r)).visible = layout r := by
  have shows : l.Shows l.text l.pattern := ⟨loaded.increments, loaded.on, rfl, rfl⟩
  have narrow : (printed r).all LcdWrite.isNarrow = true := by
    simp [printed, lines, LcdWrite.line, LcdWrite.isNarrow]
    decide
  obtain ⟨written, ready⟩ := loaded.toReady.writes narrow
  obtain ⟨increments, on, text, pattern⟩ := shows.lines (lines_start r)
  obtain ⟨blank, blank', blank''⟩ := loaded.blank
  rw [printMonitor_writes, written]
  rw [printed] at ready ⊢
  refine ⟨⟨ready, increments, on, ?_, ?_⟩, ?_⟩
  · rw [Lcd.icons, pattern]
    exact loaded.icons
  · rw [text]
    simp [lines, place, blank, blank', blank'']
  · rw [visible, text]
    exact congrArg₂ (· ++ ·) (upper_placed r blank) (lower_placed r blank' blank'')

/-- The eight rows of a character, written from where a command puts the cursor. -/
theorem Shows.character {text pattern : ℕ → UInt8} (shows : l.Shows text pattern) (start : UInt8)
    (address : ℕ) (rows : List UInt8)
    (moved : l.instruct start = { l with cursor := .pattern address })
    (within : address + rows.length ≤ 64) :
    ((LcdWrite.line start rows).foldl LcdWrite.apply l).Shows text (place pattern address rows) := by
  have step : (l.instruct start).Shows text pattern := by
    rw [moved]
    exact ⟨shows.increments, shows.on, shows.text, shows.pattern⟩
  rw [← writeAt_pattern within]
  exact step.drawn (by rw [moved]) rows

theorem Shows.cleared {text pattern : ℕ → UInt8} (shows : l.Shows text pattern) :
    (l.instruct 0x01).Shows (fun _ => 0x20) pattern :=
  ⟨rfl, shows.on, rfl, shows.pattern⟩

/-- Whatever the display was doing before. -/
theorem initMonitor_loaded (l : Lcd) : (l.feed initMonitor).Loaded := by
  have narrow : initialised.all LcdWrite.isNarrow = true := by decide
  obtain ⟨written, ready⟩ := (interfaceSet_ready l).writes narrow
  rw [initMonitor_writes, feed_append, written]
  generalize l.feed interfaceSet = l at ready
  have switched : ([.cmd 0x28, .cmd 0x0C, .cmd 0x06, .cmd 0x01].foldl LcdWrite.apply l).Shows
      (fun _ => 0x20) l.pattern := ⟨rfl, rfl, rfl, rfl⟩
  have first := switched.character 0x40 0 customChar0 rfl (by decide)
  have second := first.character 0x48 8 customChar1 rfl (by decide)
  have shows : (initialised.foldl LcdWrite.apply l).Shows (fun _ => 0x20)
      (place (place l.pattern 0 customChar0) 8 customChar1) := by
    rw [initialised, List.foldl_append, List.foldl_append, List.foldl_append]
    exact second.cleared
  refine ⟨ready, shows.increments, shows.on, ?_, ?_⟩
  · rw [icons, shows.pattern, columns_eq]
    simp [place, customChar0, customChar1]
  · rw [shows.text]
    exact ⟨rfl, rfl, rfl⟩

theorem Loaded.refreshes (loaded : l.Loaded) (rs : List MonitorReads) :
    (l.feed (rs.flatMap Driver.printMonitor)).Loaded := by
  induction rs generalizing l with
  | nil => exact loaded
  | cons r rest ih =>
      rw [List.flatMap_cons, feed_append]
      exact ih (loaded.printMonitor r).1

/-- From any state of the display's controller, after the initialisation and any refreshes the
two rows are the flags of the last one, with the two icons loaded and the display switched on. -/
theorem monitor_display (l : Lcd) (before : List MonitorReads) (r : MonitorReads) :
    let shown := l.feed (initMonitor ++ (before ++ [r]).flatMap Driver.printMonitor)
    shown.visible = layout r ∧ shown.icons = customChar0 ++ customChar1 ∧ shown.isOn = true := by
  have loaded := (initMonitor_loaded l).refreshes before
  obtain ⟨kept, visible⟩ := loaded.printMonitor r
  rw [List.flatMap_append, List.flatMap_singleton, ← List.append_assoc, feed_append, feed_append]
  exact ⟨visible, kept.icons, kept.on⟩

end Lcd

/-- The monitor's stop icon is filled when the stop bell rings, and its obstacle icon when an
obstacle is detected: for any run of the main loop, if the last refresh reads its flags. -/
theorem display_tells (l : Lcd) (inputs : List LoopInput) (before : List MonitorReads)
    (door slope : UInt8) :
    let g := driverEcuRun inputs
    let r : MonitorReads := ⟨door, slope, g.monitorFlags, g.monitorFlags⟩
    let shown := l.feed (initMonitor ++ (before ++ [r]).flatMap printMonitor)
    shown.visible[23]? = some (Lcd.icon g.obstacleDetected) ∧
      shown.visible[31]? = some (Lcd.icon (g.stopBtnState == .on)) := by
  intro g r shown
  have visible : shown.visible = Lcd.layout r := (Lcd.monitor_display l before r).1
  have told : Shown g := Runs.run_invariant Shown Shown.iterate shown_boot inputs
  rw [visible, ← told.block, ← told.stop]
  exact ⟨rfl, rfl⟩

end SmartBusAccess.Driver
