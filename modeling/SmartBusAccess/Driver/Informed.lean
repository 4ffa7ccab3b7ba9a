import SmartBusAccess.Driver.Monitor

/-!
What the driver ECU does has been reported to it.

`Informed` says what the states, the requests pending and the monitor's flags have behind
them: a status frame with the door open, one with the ramp deployed, a fire. An iteration
keeps it and explains every command it sends (`informed_rule`), so it holds over a run with
what has been heard in it.
-/

namespace SmartBusAccess.Driver

open SmartBusAccess.Can SmartBusAccess.Uart Emitting Runs

/-- What has been heard so far. -/
structure Heard where
  opened : Prop
  deployed : Prop
  fire : Prop

structure Informed (heard : Heard) (g : DriverEcu) : Prop where
  door : g.doorState = doorStateOpened → heard.opened
  slope : g.slopeState = rampStateDeployed → heard.deployed
  doorClose : g.doorCloseReq = true → heard.opened
  slopeClose : g.slopeCloseReq = true → heard.deployed
  doorBit : g.monitorFlags &&& 0x80 ≠ 0 → heard.opened ∨ heard.fire
  slopeBit : g.monitorFlags &&& 0x40 ≠ 0 → heard.deployed

/-- What is heard accounts for the event. -/
def Explained (heard : Heard) : LoopEvent → Prop
  | .found _ => True
  | .raised request =>
      (request = .doorClose → heard.opened) ∧ (request = .slopeClose → heard.deployed)
  | .sent command =>
      (command.doorCmd = doorCmdClose → heard.opened) ∧
        (command.rampCmd = rampCmdStow → heard.deployed) ∧ (command.cause = .fire → heard.fire)

/-- Between the clearing of the flag and the sending. -/
structure Informed.Cleared (heard : Heard) (request : DriverRequest) (g : DriverEcu) : Prop where
  informed : Informed heard g
  doorClose : request = .doorClose → heard.opened
  slopeClose : request = .slopeClose → heard.deployed

/-- What an iteration hears is among it. -/
structure Hears (heard : Heard) (input : LoopInput) : Prop where
  opened : ∀ st ∈ input.snapshot, st.doorState = doorStateOpened → heard.opened
  deployed : ∀ st ∈ input.snapshot, st.rampState = rampStateDeployed → heard.deployed
  fire : input.fire = true → heard.fire

section Informed

variable {heard : Heard} {g g' : DriverEcu}

theorem informed_boot (heard : Heard) : Informed heard driverEcuBoot := by
  constructor <;> intro impossible <;> exact absurd impossible (by decide)

/-- More may be heard. -/
theorem Informed.mono {more : Heard} (informed : Informed heard g)
    (opened : heard.opened → more.opened) (deployed : heard.deployed → more.deployed)
    (fire : heard.fire → more.fire) : Informed more g where
  door opening := opened (informed.door opening)
  slope deploying := deployed (informed.slope deploying)
  doorClose pending := opened (informed.doorClose pending)
  slopeClose pending := deployed (informed.slopeClose pending)
  doorBit shown := (informed.doorBit shown).imp opened fire
  slopeBit shown := deployed (informed.slopeBit shown)

/-- What `Informed` looks at. -/
def DriverEcu.reported (g : DriverEcu) : UInt8 × UInt8 × Bool × Bool × UInt8 :=
  (g.doorState, g.slopeState, g.doorCloseReq, g.slopeCloseReq, g.monitorFlags &&& 0xC0)

theorem Informed.congr (informed : Informed heard g) (same : g'.reported = g.reported) :
    Informed heard g' := by
  simp only [DriverEcu.reported, Prod.mk.injEq] at same
  obtain ⟨door, slope, doorClose, slopeClose, flags⟩ := same
  have masked : ∀ mask : UInt8, 0xC0 &&& mask = mask →
      g'.monitorFlags &&& mask = g.monitorFlags &&& mask := by
    intro mask within
    rw [← within, ← UInt8.and_assoc, flags, UInt8.and_assoc]
  constructor
  · rw [door]; exact informed.door
  · rw [slope]; exact informed.slope
  · rw [doorClose]; exact informed.doorClose
  · rw [slopeClose]; exact informed.slopeClose
  · rw [masked 0x80 rfl]; exact informed.doorBit
  · rw [masked 0x40 rfl]; exact informed.slopeBit

theorem offStopButton_reported (g : DriverEcu) : (offStopButton g).reported = g.reported := by
  unfold offStopButton
  split
  · simp only [DriverEcu.reported, masked_clear g.monitorFlags 0xEF 0xC0 rfl]
  · rfl

theorem onStopButton_reported (g : DriverEcu) (ticks : UInt64) :
    (onStopButton g ticks).reported = g.reported := by
  unfold onStopButton
  split
  · simp only [DriverEcu.reported, playBuzzer,
      masked_set g.monitorFlags 0x10 0xC0 rfl]
  · rfl

theorem disabledStopOn_reported (input : LoopInput) (g : DriverEcu) :
    (disabledStopOn input g).reported = g.reported := by
  simp only [disabledStopOn]
  split
  · rfl
  · split
    · exact onStopButton_reported _ _
    · rfl

theorem writeObstacle_reported (pinch : Bool) (g : DriverEcu) :
    (writeObstacle pinch g).reported = g.reported := by
  cases pinch with
  | true =>
      simp only [DriverEcu.reported, writeObstacle, if_true,
        masked_set g.monitorFlags 0x20 0xC0 rfl]
  | false =>
      simp only [DriverEcu.reported, writeObstacle, Bool.false_eq_true, if_false,
        masked_clear g.monitorFlags 0xDF 0xC0 rfl]

theorem Informed.monitorDoor (informed : Informed heard g) : Informed heard (monitorDoor g) := by
  unfold Driver.monitorDoor
  split
  · rename_i opened
    have opened : heard.opened := informed.door (by simpa using opened)
    refine ⟨informed.door, informed.slope, informed.doorClose, informed.slopeClose, ?_, ?_⟩
    · exact fun _ => .inl opened
    · intro shown
      exact informed.slopeBit (masked_set g.monitorFlags 0x80 0x40 rfl ▸ shown)
  split
  · refine ⟨informed.door, informed.slope, informed.doorClose, informed.slopeClose, ?_, ?_⟩
    · intro shown
      exact absurd (masked_clear_zero g.monitorFlags _ _ rfl) shown
    · intro shown
      exact informed.slopeBit (masked_clear g.monitorFlags 0x7F 0x40 rfl ▸ shown)
  · exact informed

theorem Informed.monitorSlope (informed : Informed heard g) : Informed heard (monitorSlope g) := by
  unfold Driver.monitorSlope
  split
  · rename_i deployed
    have deployed : heard.deployed := informed.slope (by simpa using deployed)
    refine ⟨informed.door, informed.slope, informed.doorClose, informed.slopeClose, ?_, ?_⟩
    · intro shown
      exact informed.doorBit (masked_set g.monitorFlags 0x40 0x80 rfl ▸ shown)
    · exact fun _ => deployed
  split
  · refine ⟨informed.door, informed.slope, informed.doorClose, informed.slopeClose, ?_, ?_⟩
    · intro shown
      exact informed.doorBit (masked_clear g.monitorFlags 0xBF 0x80 rfl ▸ shown)
    · intro shown
      exact absurd (masked_clear_zero g.monitorFlags _ _ rfl) shown
  · exact informed

theorem Informed.resetAndMonitor (informed : Informed heard g) (input : LoopInput) :
    Informed heard (resetAndMonitor input g) := by
  rw [resetAndMonitor_eq]
  apply Informed.monitorSlope
  apply Informed.monitorDoor
  split
  · exact informed.congr (offStopButton_reported g)
  · exact informed

/-- A button asks for a close in the state that calls for it. -/
theorem Informed.raise (informed : Informed heard g) {request : DriverRequest}
    (door : request = .doorClose → heard.opened) (slope : request = .slopeClose → heard.deployed) :
    Informed heard (g.raise request).1 ∧
      ∀ event ∈ (g.raise request).2, Explained heard event := by
  refine ⟨?_, ?_⟩
  · cases request with
    | doorOpen => exact informed.congr rfl
    | slopeOpen => exact informed.congr rfl
    | doorClose => exact { informed with doorClose := fun _ => door rfl }
    | slopeClose => exact { informed with slopeClose := fun _ => slope rfl }
  · intro event mem
    cases List.mem_singleton.mp mem
    exact ⟨door, slope⟩

theorem Informed.serve (isr : ButtonIsr) :
    Triple (Informed heard) (fun g => isr.serve g) (Informed heard) (Explained heard) := by
  intro g informed
  have kept : Informed heard g ∧ ∀ event ∈ ([] : List LoopEvent), Explained heard event :=
    ⟨informed, by simp⟩
  cases isr with
  | onStopBtn => exact ⟨informed.congr rfl, by simp [ButtonIsr.serve]⟩
  | onDisabledStopBtn =>
      refine ⟨informed.congr rfl, ?_⟩
      intro event mem
      cases List.mem_singleton.mp mem
      trivial
  | doorControlBtn =>
      simp only [ButtonIsr.serve, doorControlBtnISR]
      split
      · exact informed.raise (by rintro ⟨⟩) (by rintro ⟨⟩)
      split
      · rename_i opened
        have opened : heard.opened := informed.door (by simpa using opened)
        split
        · exact kept
        · exact informed.raise (fun _ => opened) (by rintro ⟨⟩)
      · exact kept
  | slopeControlBtn =>
      simp only [ButtonIsr.serve, slopeControlBtnISR]
      split
      · exact informed.raise (by rintro ⟨⟩) (by rintro ⟨⟩)
      split
      · rename_i deployed
        have deployed : heard.deployed := informed.slope (by simpa using deployed)
        split
        · exact kept
        · exact informed.raise (by rintro ⟨⟩) fun _ => deployed
      · exact kept

theorem Informed.clear (informed : Informed heard g) {request : DriverRequest}
    (pending : g.pending request = true) :
    Informed.Cleared heard request (g.setPending request false) := by
  refine ⟨?_, ?_, ?_⟩
  · cases request with
    | doorOpen => exact informed.congr rfl
    | slopeOpen => exact informed.congr rfl
    | doorClose => exact { informed with doorClose := nofun }
    | slopeClose => exact { informed with slopeClose := nofun }
  · rintro rfl
    exact informed.doorClose pending
  · rintro rfl
    exact informed.slopeClose pending

theorem Informed.Cleared.serve (request : DriverRequest) (isr : ButtonIsr) :
    Triple (Informed.Cleared heard request) (fun g => isr.serve g)
      (Informed.Cleared heard request) (Explained heard) := by
  intro g cleared
  obtain ⟨informed, explained⟩ := Informed.serve isr g cleared.informed
  exact ⟨⟨informed, cleared.doorClose, cleared.slopeClose⟩, explained⟩

theorem Informed.send (input : LoopInput) (request : DriverRequest) :
    Triple (Informed.Cleared heard request) (sendRequest input request) (Informed heard)
      (Explained heard) := by
  intro g cleared
  obtain ⟨-, command, events, cause, fits, -⟩ := sendRequest_sends input request g
  refine ⟨?_, ?_⟩
  · cases request with
    | doorOpen => exact cleared.informed.congr (offStopButton_reported g)
    | _ => exact cleared.informed
  · rw [events]
    intro event mem
    cases List.mem_singleton.mp mem
    obtain ⟨-, -, -, fits⟩ := fits
    rw [cause] at fits
    refine ⟨?_, ?_, ?_⟩
    · intro close
      cases request with
      | doorOpen => exact absurd (fits.1.symm.trans close) (by decide)
      | doorClose => exact cleared.doorClose rfl
      | _ => exact absurd (fits.1.symm.trans close) (by decide)
    · intro stow
      cases request with
      | doorOpen =>
          obtain ⟨-, ⟨ramp, -⟩ | ⟨ramp, -⟩⟩ := fits <;>
            exact absurd (ramp.symm.trans stow) (by decide)
      | slopeClose => exact cleared.slopeClose rfl
      | _ => exact absurd (fits.2.1.symm.trans stow) (by decide)
    · intro fire
      cases cause.symm.trans fire

theorem Informed.fireBlock {input : LoopInput} (hears : Hears heard input) :
    Triple (Informed heard) (fireBlock input) (Informed heard) (Explained heard) := by
  intro g informed
  unfold Driver.fireBlock
  split
  · rename_i detected
    have fire : heard.fire := hears.fire detected
    split
    · refine ⟨{ informed with doorBit := fun _ => .inr fire, slopeBit := ?_ }, ?_⟩
      · intro shown
        exact informed.slopeBit (masked_set g.monitorFlags 0x80 0x40 rfl ▸ shown)
      · intro event mem
        rcases List.mem_cons.mp mem with rfl | sent
        · trivial
        cases List.mem_singleton.mp sent
        refine ⟨?_, ?_, fun _ => fire⟩
        · intro close
          have ne : doorCmdOpen ≠ doorCmdClose := by decide
          exact absurd close ne
        · intro stow
          have ne : rampCmdNop ≠ rampCmdStow := by decide
          exact absurd stow ne
    · exact ⟨informed, by simp [Explained]⟩
  · exact ⟨informed.congr rfl, by simp⟩

theorem informed_rule {input : LoopInput} (hears : Hears heard input) :
    LoopInvariant input (Informed heard) (Informed.Cleared heard) (Explained heard) where
  serve := Informed.serve
  serveCleared := Informed.Cleared.serve
  reset _ informed := informed.resetAndMonitor input
  poll _ _ _ informed := informed.congr rfl
  obstacle _ _ g informed := informed.congr (writeObstacle_reported _ g)
  doorState st mem _ informed := { informed with door := hears.opened st mem }
  slopeState st mem _ informed := { informed with slope := hears.deployed st mem }
  clear _ _ informed pending := informed.clear pending
  send := Informed.send input
  stop _ informed := informed.congr (onStopButton_reported _ _)
  disabledStop g informed := informed.congr (disabledStopOn_reported input g)
  buzzer g informed := by
    unfold buzzerBlock
    split
    · exact informed.congr rfl
    · exact informed
  fire := Informed.fireBlock hears
  found _ := trivial
  ble _ _ informed := informed.congr rfl
  bleStop _ informed := informed.congr rfl
  bleDisabledStop _ informed := informed.congr rfl

end Informed

end SmartBusAccess.Driver
