import Chip8.Proofs.LoopTrace
import Chip8.Proofs.Restart

/-!
# Reloads

A reload wipes out what the events before it in its batch did, and whether a
window is open plays no part in what events do to its machine.

* `Window.Alike` says that two windows differ in nothing but whether they are
  open; they stay so through events (`alike_receiveAll`), and an event that
  closes a window does no more than that (`receive_of_closes`);
* `load_receiveAll` is what every event before a reload keeps: loading the ROM
  after it does what loading the ROM at once does;
* `receiveAll_reload` follows for any reload in a batch, and
  `receiveAll_wipes_earlier` puts this together for the last one.
-/

namespace Chip8

theorem Processor.memory_reportKey
    (processor : Processor) (key : Key) (pressed : Bool) :
    (processor.reportKey key pressed).1.memory = processor.memory := by
  unfold reportKey
  split
  · rfl
  · dsimp only
    split <;> rfl

/-- Loading a program that fits does away with all that a report did. -/
theorem Machine.load_reportKey
    {program : List UInt8} (fits : program.length ≤ programCapacity)
    (machine : Machine) (key : Key) (pressed : Bool) :
    ((machine.reportKey key pressed :
        Outcome Fault (Option RegisterWrite)).machine.load program).machine =
      (machine.load program).machine := by
  simp only [load_of_fits fits, reportKey, Processor.memory_reportKey]

/-- What closes a window is a quit event, or the escape key going down or up. -/
theorem HostEvent.exists_closes_iff {events : List HostEvent} :
    (∃ event ∈ events, event.Closes) ↔
      .quit ∈ events ∨ .keyDown escapeKey ∈ events ∨
        .keyUp escapeKey ∈ events := by
  constructor
  · rintro ⟨event, member, closes⟩
    cases event with
    | quit => exact .inl member
    | keyDown name =>
        obtain rfl : name = escapeKey := closes
        exact .inr (.inl member)
    | keyUp name =>
        obtain rfl : name = escapeKey := closes
        exact .inr (.inr member)
    | other => exact closes.elim
  · rintro (member | member | member)
    · exact ⟨.quit, member, trivial⟩
    · exact ⟨_, member, rfl⟩
    · exact ⟨_, member, rfl⟩

/-- Some press of the reload key is the last one. -/
theorem HostEvent.exists_last_reload
    {events : List HostEvent} (pressed : .keyDown reloadKey ∈ events) :
    ∃ earlier later, events = earlier ++ .keyDown reloadKey :: later ∧
      .keyDown reloadKey ∉ later := by
  induction events with
  | nil =>
      contradiction
  | cons event rest inductionHypothesis =>
      by_cases again : .keyDown reloadKey ∈ rest
      · obtain ⟨earlier, later, parted, last⟩ := inductionHypothesis again
        exact ⟨event :: earlier, later, congrArg (event :: ·) parted, last⟩
      · rcases List.mem_cons.mp pressed with rfl | later
        · exact ⟨[], rest, rfl, again⟩
        · exact absurd later again

namespace Window

variable {window other : Window} {event : HostEvent}
variable {earlier later : List HostEvent}

/-! ## Open and closed windows -/

/-- Two windows differ in nothing but whether they are open. -/
structure Alike (window other : Window) : Prop
    extends window.SameSetup other where
  machine_eq : other.machine = window.machine

theorem alike_reportKey
    (alike : window.Alike other) (name : Text) (pressed : Bool) :
    (other.reportKey name pressed).result =
        (window.reportKey name pressed).result ∧
      (window.reportKey name pressed).window.Alike
        (other.reportKey name pressed).window := by
  unfold reportKey
  rw [alike.keyboard_eq]
  split
  · unfold reportCode
    rw [alike.machine_eq]
    split
    · exact ⟨rfl, alike⟩
    · exact ⟨rfl, ⟨alike.settings_eq, alike.rom_eq, alike.keyboard_eq⟩, rfl⟩
  · exact ⟨rfl, alike⟩

/-- Events do the same to windows that are alike. -/
theorem alike_receive (alike : window.Alike other) (event : HostEvent) :
    (other.receive event).result = (window.receive event).result ∧
      (window.receive event).window.Alike (other.receive event).window := by
  have setup := alike.toSameSetup
  rcases receive_cases event with ⟨-, closed⟩ | ⟨-, rest⟩
  · rw [closed, closed]
    exact ⟨rfl, ⟨setup.settings_eq, setup.rom_eq, setup.keyboard_eq⟩,
      alike.machine_eq⟩
  · rcases rest with idle | ⟨-, reloads⟩ | ⟨name, pressed, reports⟩
    · rw [idle, idle]
      exact ⟨rfl, alike⟩
    · rw [reloads, reloads]
      simp only [reload, alike.machine_eq, setup.rom_eq]
      exact ⟨rfl, ⟨setup.settings_eq, setup.rom_eq, setup.keyboard_eq⟩, rfl⟩
    · rw [reports, reports]
      exact alike_reportKey alike name pressed

theorem alike_receiveAll
    (alike : window.Alike other) (events : List HostEvent) :
    (other.receiveAll events).result = (window.receiveAll events).result ∧
      (window.receiveAll events).window.Alike
        (other.receiveAll events).window := by
  induction events generalizing window other with
  | nil =>
      exact ⟨rfl, alike⟩
  | cons event rest inductionHypothesis =>
      obtain ⟨sameResult, stillAlike⟩ := alike_receive alike event
      cases ended : (window.receive event).result with
      | error reason =>
          rw [ended] at sameResult
          simp only [receiveAll, WindowOutcome.andThen_of_error ended,
            WindowOutcome.andThen_of_error sameResult]
          exact ⟨sameResult.trans ended.symm, stillAlike⟩
      | ok _ =>
          rw [ended] at sameResult
          simp only [receiveAll, WindowOutcome.andThen_of_ok ended,
            WindowOutcome.andThen_of_ok sameResult]
          exact inductionHypothesis stillAlike

/-- An event that closes the window does nothing else. -/
theorem receive_of_closes (closes : event.Closes) (window : Window) :
    window.receive event = .done window.close := by
  rcases receive_cases event with ⟨-, closed⟩ | ⟨stays, -⟩
  · exact closed window
  · exact absurd closes stays

/-- An event that closes the window keeps no other event of its batch from
being worked through. -/
theorem receiveAll_closes
    (closes : event.Closes) (window : Window)
    (earlier later : List HostEvent) :
    let stopped := window.receiveAll (earlier ++ event :: later)
    let unstopped := window.receiveAll (earlier ++ later)
    stopped.result = unstopped.result ∧
      stopped.window.machine = unstopped.window.machine := by
  intro stopped unstopped
  simp only [stopped, unstopped, receiveAll_append, receiveAll,
    receive_of_closes closes]
  cases ended : (window.receiveAll earlier).result with
  | error reason =>
      simp only [WindowOutcome.andThen_of_error ended, and_self]
  | ok _ =>
      have shut :
          (window.receiveAll earlier).window.Alike
            (window.receiveAll earlier).window.close :=
        ⟨⟨rfl, rfl, rfl⟩, rfl⟩
      obtain ⟨sameResult, stillAlike⟩ := alike_receiveAll shut later
      simp only [WindowOutcome.andThen_of_ok ended]
      exact ⟨sameResult, stillAlike.machine_eq⟩

/-! ## Loading after events -/

theorem load_reportKey
    (fits : window.rom.length ≤ programCapacity)
    (name : Text) (pressed : Bool) :
    ((window.reportKey name pressed).window.machine.load window.rom).machine =
      (window.machine.load window.rom).machine := by
  unfold reportKey
  split
  · unfold reportCode
    split
    · rfl
    · exact Machine.load_reportKey fits window.machine _ _
  · rfl

/-- Loading the ROM after an event does what loading it at once does. -/
theorem load_receive
    (fits : window.rom.length ≤ programCapacity) (event : HostEvent) :
    ((window.receive event).window.machine.load window.rom).machine =
      (window.machine.load window.rom).machine := by
  rcases receive_cases event with ⟨-, closed⟩ | ⟨-, rest⟩
  · rw [closed]
    rfl
  · rcases rest with idle | ⟨-, reloads⟩ | ⟨name, pressed, reports⟩
    · rw [idle]
      rfl
    · rw [reloads]
      exact Machine.load_load fits
    · rw [reports]
      exact load_reportKey fits name pressed

theorem load_receiveAll
    (fits : window.rom.length ≤ programCapacity) (events : List HostEvent) :
    ((window.receiveAll events).window.machine.load window.rom).machine =
      (window.machine.load window.rom).machine := by
  induction events generalizing window with
  | nil =>
      rfl
  | cons event rest inductionHypothesis =>
      have first := load_receive fits event
      have rom_eq := (window.unpainted_receive event).setup.rom_eq
      rw [← rom_eq] at fits
      have others := inductionHypothesis fits
      rw [rom_eq] at others
      cases ended : (window.receive event).result with
      | error reason =>
          rw [receiveAll, WindowOutcome.andThen_of_error ended]
          exact first
      | ok _ =>
          rw [receiveAll, WindowOutcome.andThen_of_ok ended]
          exact others.trans first

/-- The window after its ROM was loaded into its machine. -/
def loaded (window : Window) : Window :=
  { window with machine := (window.machine.load window.rom).machine }

theorem receive_reload
    (fits : window.rom.length ≤ programCapacity) :
    (window.receive (.keyDown reloadKey)).result = .ok () ∧
      (window.receive (.keyDown reloadKey)).window = window.loaded := by
  have noEscape : reloadKey ≠ escapeKey := by decide
  simp only [receive, if_neg noEscape, if_true]
  exact ⟨reload_ok fits, rfl⟩

/-- After a reload, a window is like one that loaded its ROM instead of
receiving the events before the reload. -/
theorem receiveAll_reload
    (fits : window.rom.length ≤ programCapacity)
    (success : (window.receiveAll earlier).result = .ok ())
    (later : List HostEvent) :
    let received := window.receiveAll (earlier ++ .keyDown reloadKey :: later)
    received.result = (window.loaded.receiveAll later).result ∧
      received.window.machine =
        (window.loaded.receiveAll later).window.machine := by
  intro received
  have setup := (window.unpainted_receiveAll earlier).setup
  have fitsStill :
      (window.receiveAll earlier).window.rom.length ≤ programCapacity :=
    setup.rom_eq.symm ▸ fits
  obtain ⟨reloads, reloaded⟩ := receive_reload fitsStill
  have wiped :
      (window.receiveAll earlier).window.loaded.machine =
        window.loaded.machine := by
    rw [loaded, setup.rom_eq]
    exact load_receiveAll fits earlier
  have alike :
      window.loaded.Alike (window.receiveAll earlier).window.loaded :=
    ⟨⟨setup.settings_eq, setup.rom_eq, setup.keyboard_eq⟩, wiped⟩
  obtain ⟨sameResult, stillAlike⟩ := alike_receiveAll alike later
  simp only [received, receiveAll_append, receiveAll,
    WindowOutcome.andThen_of_ok success, WindowOutcome.andThen_of_ok reloads,
    reloaded]
  exact ⟨sameResult, stillAlike.machine_eq⟩

/-- A reload wipes out the events before it in its batch, in a window whose ROM
fits.  If no code of the keyboard is a fraction, all events are worked through.
If the reload key is pressed, and the events before its last press do not break
off, the events end as those after that press do when the ROM was loaded into
the machine as it was before the batch, and so does the machine.  In every batch
that does not break off, the window is closed in the end exactly if it was so
before, or a quit event arrives, or the escape key goes down or up.  Such an
event keeps none after it from being worked through: without it, the other
events end in the same way and with the same machine. -/
theorem receiveAll_wipes_earlier (fits : window.rom.length ≤ 3584) :
    let restarted : Window :=
      { window with machine := (window.machine.load window.rom).machine }
    (window.keyboard.Whole → ∀ events,
      (window.receiveAll events).result = .ok ()) ∧
    (∀ events, .keyDown reloadKey ∈ events →
      ∃ earlier later, events = earlier ++ .keyDown reloadKey :: later ∧
        .keyDown reloadKey ∉ later ∧
        ((window.receiveAll earlier).result = .ok () →
          (window.receiveAll events).result =
              (restarted.receiveAll later).result ∧
            (window.receiveAll events).window.machine =
              (restarted.receiveAll later).window.machine)) ∧
    (∀ events, (window.receiveAll events).result = .ok () →
      ((window.receiveAll events).window.isOpen = false ↔
        window.isOpen = false ∨ .quit ∈ events ∨
          .keyDown escapeKey ∈ events ∨ .keyUp escapeKey ∈ events)) ∧
    ∀ earlier stop later, stop.Closes →
      (window.receiveAll (earlier ++ stop :: later)).result =
          (window.receiveAll (earlier ++ later)).result ∧
        (window.receiveAll (earlier ++ stop :: later)).window.machine =
          (window.receiveAll (earlier ++ later)).window.machine := by
  intro restarted
  refine ⟨?complete, ?reload, ?closed, ?stop⟩
  case complete =>
    intro whole events
    exact receiveAll_ok_of_whole whole (.inl fits)
  case reload =>
    intro events pressed
    obtain ⟨earlier, later, rfl, last⟩ := HostEvent.exists_last_reload pressed
    exact ⟨earlier, later, rfl, last,
      fun success => receiveAll_reload fits success later⟩
  case closed =>
    intro events success
    have opened := isOpen_receiveAll success
    rw [← HostEvent.exists_closes_iff, ← Bool.not_eq_true, opened,
      Classical.not_and_iff_not_or_not, Bool.not_eq_true]
    simp only [Classical.not_forall, Classical.not_not, exists_prop]
  case stop =>
    intro earlier stop later closes
    exact receiveAll_closes closes window earlier later

/-- A window whose machine waits for a key, with two host keys for key 5 and a
truth value under the reload key. -/
def kiosk : Window where
  machine :=
    { processor :=
        { Processor.starting (Vector.replicate memorySize 7) with
          pc := 0x300
          waiting := some 3 }
      screen := .blank 3 2
      random := .ofSeed 0
      speed := 1 }
  settings :=
    { speed := .integer 1
      fps := .integer 60
      tone := .integer 440
      volume := .integer 0
      layout :=
        [("q", .integer 5), ("P", .integer 5), ("f5", .boolean true)]
      verbose := .boolean false
      scale := 2 }
  rom := [0x12, 0x34]
  keyboard := ⟨[("Q", .key 5), ("P", .key 5), ("F5", .truth true)]⟩
  isOpen := true

theorem whole_kiosk : kiosk.keyboard.Whole :=
  @Keyboard.whole_of_ofEntries kiosk.settings.layout _ (by simp [kiosk]) rfl

/-- The wait is answered, the program goes on, and two reloads later nothing of
it is left.  A key that goes down after the last reload is down, although the
window was to be closed before. -/
theorem receiveAll_wipes_earlier_kiosk :
    let events : List HostEvent :=
      [.keyDown "q", .keyDown reloadKey, .quit, .keyUp reloadKey, .keyDown "q",
        .keyDown reloadKey, .keyUp escapeKey, .keyDown "p", .other]
    let unstopped : List HostEvent :=
      [.keyDown "q", .keyDown reloadKey, .keyUp reloadKey, .keyDown "q",
        .keyDown reloadKey, .keyUp escapeKey, .keyDown "p", .other]
    let restarted : Window :=
      { kiosk with machine := (kiosk.machine.load kiosk.rom).machine }
    let answered := kiosk.receiveAll [.keyDown "q"]
    let received := kiosk.receiveAll events
    answered.window.machine.processor.registers.get 3 = 5 ∧
      received.result = .ok () ∧
      (∃ earlier later, events = earlier ++ .keyDown reloadKey :: later ∧
        .keyDown reloadKey ∉ later ∧
        received.window.machine =
          (restarted.receiveAll later).window.machine) ∧
      received.window.machine.processor.registers.get 3 = 0 ∧
      received.window.machine.processor.keys.get 5 = true ∧
      received.window.machine.processor.read 0x201 = 0x34 ∧
      received.window.isOpen = false ∧
      received.window.machine =
        (kiosk.receiveAll unstopped).window.machine := by
  intro events unstopped restarted answered received
  obtain ⟨complete, reload, closed, stop⟩ :=
    @receiveAll_wipes_earlier kiosk (by decide)
  have success : received.result = .ok () := complete whole_kiosk events
  obtain ⟨earlier, later, parted, last, wiped⟩ := reload events (by decide)
  obtain ⟨-, sameMachine⟩ := wiped (complete whole_kiosk earlier)
  obtain ⟨-, unaffected⟩ :=
    stop [.keyDown "q", .keyDown reloadKey] .quit
      [.keyUp reloadKey, .keyDown "q", .keyDown reloadKey, .keyUp escapeKey,
        .keyDown "p", .other] trivial
  have quits : .quit ∈ events := by decide
  refine ⟨by decide +kernel, success,
    ⟨earlier, later, parted, last, sameMachine⟩, by decide +kernel,
    by decide +kernel, by decide +kernel,
    (closed events success).mpr (.inr (.inl quits)), unaffected⟩

end Window

end Chip8
