import Chip8.Proofs.HostBalance
import Chip8.Proofs.WellFormed

/-!
# Exit codes

How a run of the program ends, and what becomes of the host.

* `Opens` names the window of the main loop, and the end of that loop decides
  how the program ends (`ending_of_opens`);
* settings from a command line make that window reliable (`reliable_of_opens`),
  so that the program ends in one of three ways (`ending_cases`);
* `GivesUp` says that the ROM is missing or too long or that a frame fails, and
  the exit code tells whether this is so (`exitCode_run`);
* `run_balanced` puts this together with the balance of the host.
-/

namespace Chip8

/-- A frame fails at the end of the return stack only. -/
theorem Window.stackFault_of_frameFails
    {window : Window} {script : List Batch} {fault : Fault}
    (failed : window.FrameFails script fault) :
    fault = .stackOverflow ∨ fault = .stackUnderflow := by
  obtain ⟨reached, batch, rest, -, -, -, framed⟩ := failed
  unfold Machine.frame at framed
  split at framed
  · contradiction
  · exact Machine.fault_cycles framed

namespace Program

/-! ## Endings -/

/-- There is a beeper for the settings: without a mixer, or with a wave. -/
def HasBeeper (surroundings : Surroundings) (settings : Settings) : Prop :=
  ∃ beeper, (Beeper.install surroundings.mixer.opened settings.tone
    settings.volume).1 = .ok beeper

/-- The program opens this window for a ROM that fits, and enters its main
loop. -/
def Opens (surroundings : Surroundings) (settings : Settings)
    (rom : List UInt8) (window : Window) : Prop :=
  ∃ speed created opening,
    let loaded := (Machine.fresh (.blank screenWidth screenHeight)
      surroundings.random speed).load rom
    speedOf settings.speed = .ok speed ∧ loaded.result = .ok () ∧
      Window.create loaded.machine settings rom = .ok (created, opening) ∧
      window = { created with isOpen := true }

/-- The ROM cannot be read or does not fit, or a frame of the main loop meets
the end of the return stack. -/
def GivesUp (surroundings : Surroundings) (asked : Arguments)
    (settings : Settings) : Prop :=
  match surroundings.files.read (normalizedPath asked.rom) with
  | .error _ => True
  | .ok rom =>
      3584 < rom.length ∨
        ∃ window fault, Opens surroundings settings rom window ∧
          window.FrameFails (Batch.script surroundings.batches) fault ∧
          (fault = .stackOverflow ∨ fault = .stackUnderflow)

/-- The ending that belongs to the result of a main loop. -/
def endingOf : Except Breakdown Unit → Ending
  | .ok () => .exited 0
  | .error .interrupted => .interrupted
  | .error .fractionalKey => .crashed .fractionalKey
  | .error (.fault _) => .exited 1

variable {surroundings : Surroundings} {settings : Settings}
  {rom : List UInt8} {window : Window}

theorem ending_runWindow (window : Window) (batches : List Batch) :
    (runWindow window batches).2 = endingOf (window.run batches).result := by
  simp only [runWindow]
  split <;> simp_all only [endingOf]

theorem ending_of_opens (opens : Opens surroundings settings rom window) :
    (runMachine surroundings settings rom).2 =
      endingOf (window.loop (Batch.script surroundings.batches)).result := by
  obtain ⟨speed, created, opening, known, loaded, creates, rfl⟩ := opens
  simp only [runMachine, known, loaded, creates]
  rw [ending_runWindow, Window.loop_script]
  rfl

theorem ending_of_tooLong
    {speed : Nat} (known : speedOf settings.speed = .ok speed)
    (tooLong : programCapacity < rom.length) :
    (runMachine surroundings settings rom).2 = .exited 1 := by
  simp only [runMachine, known, Machine.result_load,
    if_neg (Nat.not_le_of_lt tooLong)]

theorem ending_play_of_beeper (sounds : HasBeeper surroundings settings) :
    (play surroundings settings rom).ending =
      (runMachine surroundings settings rom).2 := by
  obtain ⟨beeper, built⟩ := sounds
  have host : (runHost surroundings settings rom).2.2 =
      (runMachine surroundings settings rom).2 := by
    simp only [runHost]
    rw [built]
  exact host

theorem ending_play_of_no_beeper
    (noBeeper : ¬ HasBeeper surroundings settings) (rom : List UInt8) :
    ∃ reason, (play surroundings settings rom).ending = .crashed reason := by
  cases built : (Beeper.install surroundings.mixer.opened settings.tone
      settings.volume).1 with
  | ok beeper =>
      exact absurd ⟨beeper, built⟩ noBeeper
  | error reason =>
      have host : (runHost surroundings settings rom).2.2 =
          .crashed (.noWave reason) := by
        simp only [runHost]
        rw [built]
      exact ⟨_, host⟩

/-- Settings from a command line lead to a reliable window, if the ROM fits. -/
theorem exists_opens
    {asked : Arguments}
    (accepted :
      Settings.ofArguments surroundings.nesting surroundings.files asked =
        .ok settings)
    (fits : rom.length ≤ programCapacity) :
    ∃ window, Opens surroundings settings rom window := by
  obtain ⟨⟨layout, keys⟩, speed, known⟩ :=
    Settings.layout_of_arguments accepted
  obtain ⟨keyboard, assigned, -⟩ := Keyboard.ofEntries_codes layout
  let loaded := (Machine.fresh (.blank screenWidth screenHeight)
    surroundings.random speed).load rom
  have loads : loaded.result = .ok () := by
    rw [Machine.result_load, if_pos fits]
  obtain ⟨opening, creates⟩ :=
    Window.exists_create loaded.machine rom (keys ▸ assigned)
  exact ⟨_, speed, _, opening, known, loads, creates, rfl⟩

theorem reliable_of_opens
    {asked : Arguments}
    (accepted :
      Settings.ofArguments surroundings.nesting surroundings.files asked =
        .ok settings)
    (opens : Opens surroundings settings rom window) :
    window.Reliable ∧ window.isOpen = true := by
  obtain ⟨⟨layout, keys⟩, -⟩ := Settings.layout_of_arguments accepted
  obtain ⟨keyboard, assigned, keyed⟩ := Keyboard.ofEntries_codes layout
  obtain ⟨speed, created, opening, -, loaded, creates, rfl⟩ := opens
  obtain ⟨-, -, rom_eq, keyboard_eq⟩ := Window.of_create creates
  refine ⟨⟨?_, ?_⟩, rfl⟩
  · rw [Machine.result_load] at loaded
    split at loaded
    · next fits =>
        rw [rom_eq]
        exact fits
    · contradiction
  · rw [keys, assigned] at keyboard_eq
    cases keyboard_eq
    exact keyed

/-- With a beeper, the program ends because the ROM does not fit, or as the main
loop does. -/
theorem ending_cases
    {asked : Arguments}
    (accepted :
      Settings.ofArguments surroundings.nesting surroundings.files asked =
        .ok settings)
    (sounds : HasBeeper surroundings settings) (rom : List UInt8) :
    let ending := (play surroundings settings rom).ending
    let script := Batch.script surroundings.batches
    programCapacity < rom.length ∧ ending = .exited 1 ∨
      ∃ window, Opens surroundings settings rom window ∧
        (window.ClosedBy script ∧ ending = .exited 0 ∨
          .interruption ∈ surroundings.batches ∧ ending = .interrupted ∨
          ∃ fault, window.FrameFails script fault ∧ ending = .exited 1) := by
  intro ending script
  have same : ending = (runMachine surroundings settings rom).2 :=
    ending_play_of_beeper sounds
  rw [same]
  by_cases fits : rom.length ≤ programCapacity
  · obtain ⟨window, opens⟩ := exists_opens accepted fits
    obtain ⟨reliable, isOpen⟩ := reliable_of_opens accepted opens
    refine .inr ⟨window, opens, ?_⟩
    rw [ending_of_opens opens]
    rcases window.loop_cases surroundings.batches with
      closed | ⟨reason, broken⟩ | ⟨fault, failed⟩
    · rw [Window.result_loop_of_closedBy closed isOpen]
      exact .inl ⟨closed, rfl⟩
    · obtain ⟨interrupted, member⟩ :=
        Window.interrupted_of_brokenOff reliable broken
      rw [Window.result_loop_of_brokenOff broken isOpen, interrupted]
      simp only [Batch.script, List.mem_append, List.mem_singleton,
        reduceCtorEq, or_false] at member
      exact .inr (.inl ⟨member, rfl⟩)
    · rw [Window.result_loop_of_frameFails failed isOpen]
      exact .inr (.inr ⟨fault, failed, rfl⟩)
  · obtain ⟨-, speed, known⟩ := Settings.layout_of_arguments accepted
    have tooLong : programCapacity < rom.length := Nat.lt_of_not_le fits
    exact .inl ⟨tooLong, ending_of_tooLong known tooLong⟩

theorem ending_of_givesUp
    {asked : Arguments}
    (accepted :
      Settings.ofArguments surroundings.nesting surroundings.files asked =
        .ok settings)
    (sounds : HasBeeper surroundings settings)
    (found : surroundings.files.read (normalizedPath asked.rom) = .ok rom)
    (givesUp : GivesUp surroundings asked settings) :
    (play surroundings settings rom).ending = .exited 1 := by
  rw [ending_play_of_beeper sounds]
  simp only [GivesUp, found] at givesUp
  rcases givesUp with tooLong | ⟨window, fault, opens, failed, -⟩
  · obtain ⟨-, speed, known⟩ := Settings.layout_of_arguments accepted
    exact ending_of_tooLong known tooLong
  · obtain ⟨-, isOpen⟩ := reliable_of_opens accepted opens
    rw [ending_of_opens opens, Window.result_loop_of_frameFails failed isOpen]
    rfl

/-- The exit code of a program that read its ROM tells whether it gave up. -/
theorem exitCode_play
    {asked : Arguments}
    (accepted :
      Settings.ofArguments surroundings.nesting surroundings.files asked =
        .ok settings)
    (found : surroundings.files.read (normalizedPath asked.rom) = .ok rom)
    {code : Nat}
    (ended : (play surroundings settings rom).ending = .exited code) :
    (code = 1 ↔ GivesUp surroundings asked settings) ∧
      (code = 0 ↔ ¬ GivesUp surroundings asked settings) := by
  by_cases sounds : HasBeeper surroundings settings
  · have one (givesUp : GivesUp surroundings asked settings) : code = 1 := by
      have failed := ending_of_givesUp accepted sounds found givesUp
      rw [ended] at failed
      exact Ending.exited.inj failed
    rcases ending_cases accepted sounds rom with
      ⟨tooLong, ending⟩ |
        ⟨window, opens, ⟨-, ending⟩ | ⟨-, ending⟩ | ⟨fault, failed, ending⟩⟩
    · have givesUp : GivesUp surroundings asked settings := by
        simp only [GivesUp, found]
        exact .inl tooLong
      simp [one givesUp, givesUp]
    · -- A loop has one result, so a frame cannot have failed as well.
      rw [ended] at ending
      cases ending
      have goesOn : ¬ GivesUp surroundings asked settings :=
        fun givesUp => absurd (one givesUp) (by decide)
      simp [goesOn]
    · rw [ended] at ending
      contradiction
    · have givesUp : GivesUp surroundings asked settings := by
        simp only [GivesUp, found]
        exact .inr ⟨window, fault, opens, failed,
          Window.stackFault_of_frameFails failed⟩
      simp [one givesUp, givesUp]
  · obtain ⟨reason, crashed⟩ := ending_play_of_no_beeper sounds rom
    rw [ended] at crashed
    contradiction

/-- A program with a beeper has an exit code, unless it is interrupted. -/
theorem exists_exitCode_play
    {asked : Arguments}
    (accepted :
      Settings.ofArguments surroundings.nesting surroundings.files asked =
        .ok settings)
    (sounds : HasBeeper surroundings settings)
    (uninterrupted : .interruption ∉ surroundings.batches)
    (rom : List UInt8) :
    ∃ code, (play surroundings settings rom).ending = .exited code := by
  rcases ending_cases accepted sounds rom with
    ⟨-, ending⟩ |
      ⟨window, -, ⟨-, ending⟩ | ⟨interrupted, -⟩ | ⟨fault, -, ending⟩⟩
  · exact ⟨1, ending⟩
  · exact ⟨0, ending⟩
  · exact absurd interrupted uninterrupted
  · exact ⟨1, ending⟩

/-- A main loop that a batch ends by closing the window makes the exit code
zero. -/
theorem ending_play_of_closedBy
    {asked : Arguments}
    (accepted :
      Settings.ofArguments surroundings.nesting surroundings.files asked =
        .ok settings)
    (sounds : HasBeeper surroundings settings)
    (opens : Opens surroundings settings rom window)
    (closed : window.ClosedBy (Batch.script surroundings.batches)) :
    (play surroundings settings rom).ending = .exited 0 := by
  obtain ⟨-, isOpen⟩ := reliable_of_opens accepted opens
  rw [ending_play_of_beeper sounds, ending_of_opens opens,
    Window.result_loop_of_closedBy closed isOpen]
  rfl

/-! ## Whole runs -/

theorem calls_of_refusal
    {arguments : List Text} {reason : CommandLine.Refusal}
    (refused : CommandLine.parse arguments = .error reason) :
    (run surroundings arguments).calls = [] := by
  simp only [run, refused]
  cases reason <;> rfl

section Parsed

variable {arguments : List Text} {asked : Arguments}

theorem calls_withoutSettings
    {reason : SettingsError}
    (parsed : CommandLine.parse arguments = .ok asked)
    (refused :
      Settings.ofArguments surroundings.nesting surroundings.files asked =
        .error reason) :
    (run surroundings arguments).calls = [] := by
  simp only [run, parsed, refused, withoutSettings]
  split <;> rfl

theorem run_withoutRom
    {reason : FileError}
    (parsed : CommandLine.parse arguments = .ok asked)
    (accepted :
      Settings.ofArguments surroundings.nesting surroundings.files asked =
        .ok settings)
    (missing :
      surroundings.files.read (normalizedPath asked.rom) = .error reason) :
    run surroundings arguments = withoutRom reason := by
  simp only [run, parsed, accepted, missing]

theorem calls_of_missing
    {reason : FileError}
    (parsed : CommandLine.parse arguments = .ok asked)
    (missing :
      surroundings.files.read (normalizedPath asked.rom) = .error reason) :
    (run surroundings arguments).calls = [] := by
  cases accepted :
      Settings.ofArguments surroundings.nesting surroundings.files asked with
  | error refusal =>
      exact calls_withoutSettings parsed accepted
  | ok settings =>
      rw [run_withoutRom parsed accepted missing, withoutRom]
      split <;> rfl

theorem run_eq_play
    (parsed : CommandLine.parse arguments = .ok asked)
    (accepted :
      Settings.ofArguments surroundings.nesting surroundings.files asked =
        .ok settings)
    (found : surroundings.files.read (normalizedPath asked.rom) = .ok rom) :
    run surroundings arguments = play surroundings settings rom := by
  simp only [run, parsed, accepted, found]

/-- The exit code of a program with settings tells whether it gave up. -/
theorem exitCode_run
    (parsed : CommandLine.parse arguments = .ok asked)
    (accepted :
      Settings.ofArguments surroundings.nesting surroundings.files asked =
        .ok settings)
    {code : Nat} (ended : (run surroundings arguments).ending = .exited code) :
    (code = 1 ↔ GivesUp surroundings asked settings) ∧
      (code = 0 ↔ ¬ GivesUp surroundings asked settings) := by
  cases found : surroundings.files.read (normalizedPath asked.rom) with
  | error reason =>
      have givesUp : GivesUp surroundings asked settings := by
        simp only [GivesUp, found]
      rw [run_withoutRom parsed accepted found, withoutRom] at ended
      split at ended
      · contradiction
      · cases ended
        simp [givesUp]
  | ok rom =>
      rw [run_eq_play parsed accepted found] at ended
      exact exitCode_play accepted found ended

end Parsed

/-- A run starts the host only with settings and a ROM, and then balances what
it does with it.  Its exit code tells whether it gave up, and it has one unless
the ROM has an impossible name, there is no wave to play, or it is interrupted;
a window that is closed makes it zero. -/
theorem run_balanced (surroundings : Surroundings) (arguments : List Text) :
    let transcript := run surroundings arguments
    (∀ reason, CommandLine.parse arguments = .error reason →
      transcript.calls = []) ∧
    ∀ asked, CommandLine.parse arguments = .ok asked →
      let found := surroundings.files.read (normalizedPath asked.rom)
      let accepted :=
        Settings.ofArguments surroundings.nesting surroundings.files asked
      (∀ reason, accepted = .error reason → transcript.calls = []) ∧
      (∀ reason, found = .error reason → transcript.calls = []) ∧
      ∀ settings, accepted = .ok settings →
        (∀ rom, found = .ok rom →
          Balanced transcript.calls ∧
            (3584 < rom.length → ∀ width height,
              .openWindow width height ∉ transcript.calls)) ∧
        (∀ code, transcript.ending = .exited code →
          (code = 1 ↔ GivesUp surroundings asked settings) ∧
            (code = 0 ↔ ¬ GivesUp surroundings asked settings)) ∧
        (∀ reason, found = .error reason → Crash.ofFileError? reason = none →
          transcript.ending = .exited 1) ∧
        ∀ rom, found = .ok rom → HasBeeper surroundings settings →
          (.interruption ∉ surroundings.batches →
            ∃ code, transcript.ending = .exited code) ∧
          ∀ window, Opens surroundings settings rom window →
            window.ClosedBy (Batch.script surroundings.batches) →
            transcript.ending = .exited 0 := by
  intro transcript
  refine ⟨fun reason refused => calls_of_refusal refused, ?_⟩
  intro asked parsed found accepted
  refine ⟨fun reason refused => calls_withoutSettings parsed refused,
    fun reason missing => calls_of_missing parsed missing, ?_⟩
  intro settings suitable
  refine ⟨?_, fun code ended => exitCode_run parsed suitable ended, ?_, ?_⟩
  · intro rom readable
    simp only [transcript, run_eq_play parsed suitable readable]
    exact balanced_play surroundings settings rom
  · intro reason missing matterOfFile
    simp only [transcript, run_withoutRom parsed suitable missing, withoutRom,
      matterOfFile, refused]
  · intro rom readable sounds
    simp only [transcript, run_eq_play parsed suitable readable]
    exact ⟨fun uninterrupted =>
        exists_exitCode_play suitable sounds uninterrupted rom,
      fun window opens closed =>
        ending_play_of_closedBy suitable sounds opens closed⟩

/-- A program that starts the sound timer and then jumps in place. -/
def arcadeRom : List UInt8 := [0x61, 0x02, 0xF1, 0x18, 0x12, 0x04]

/-- A host with a mixer, one file, and a script of two empty batches before the
escape key comes up. -/
def arcade : Surroundings where
  files path := if path = "game" then .ok arcadeRom else .error .missing
  nesting := 1
  mixer := ⟨true, none, 2, 1⟩
  batches := [.events [], .events [], .events [.other, .keyUp escapeKey]]
  random := .ofSeed 0

/-- The window that the host shows for its file. -/
def arcadeWindow : Window where
  machine := ((Machine.fresh (.blank screenWidth screenHeight) arcade.random
    defaultSpeed).load arcadeRom).machine
  settings := ⟨Settings.Request.usual.toPreferences, 15⟩
  rom := arcadeRom
  keyboard := ⟨defaultLayout.map fun entry => (entry.1, .key entry.2)⟩
  isOpen := true

theorem opens_arcadeWindow :
    Opens arcade arcadeWindow.settings arcadeRom arcadeWindow := by
  have assigned :
      Keyboard.ofEntries arcadeWindow.settings.layout =
        .ok arcadeWindow.keyboard := rfl
  obtain ⟨opening, creates⟩ :=
    Window.exists_create arcadeWindow.machine arcadeRom assigned
  have loads :
      ((Machine.fresh (.blank screenWidth screenHeight) arcade.random
        defaultSpeed).load arcadeRom).result = .ok () :=
    (Machine.result_load _ _).trans (if_pos (by decide))
  exact ⟨defaultSpeed, _, opening, rfl, loads, creates, rfl⟩

theorem closedBy_arcadeWindow :
    arcadeWindow.ClosedBy (Batch.script arcade.batches) := by
  have turn (window : Window)
      (framed : window.machine.frame.result.isOk = true) :
      window.Turns (.events []) :=
    ⟨rfl, fun closes => by simp [Batch.Closes] at closes, ok_of_isOk framed⟩
  have reaches := Window.Reaches.turn (turn arcadeWindow (by decide +kernel))
    (.turn (turn (arcadeWindow.afterTurn (.events [])) (by decide +kernel))
      (.here _ [.events [.other, .keyUp escapeKey], .events [.quit]]))
  exact ⟨_, _, _, reaches, rfl, .keyUp escapeKey, by simp, rfl⟩

/-- The window closes in the third turn, after a beep. -/
theorem run_balanced_arcade :
    Balanced (run arcade ["game"]).calls ∧
      (run arcade ["game"]).ending = .exited 0 ∧
      ¬ GivesUp arcade { CommandLine.defaults with rom := "game" }
        arcadeWindow.settings := by
  have parsed : CommandLine.parse ["game"] =
      .ok { CommandLine.defaults with rom := "game" } := rfl
  have accepted : Settings.ofArguments arcade.nesting arcade.files
      { CommandLine.defaults with rom := "game" } =
        .ok arcadeWindow.settings := rfl
  have found : arcade.files.read (normalizedPath "game") = .ok arcadeRom := rfl
  have sounds : HasBeeper arcade arcadeWindow.settings := ⟨_, rfl⟩
  obtain ⟨-, withArguments⟩ := run_balanced arcade ["game"]
  obtain ⟨-, -, withSettings⟩ := withArguments _ parsed
  obtain ⟨balance, exitCode, -, withRom⟩ := withSettings _ accepted
  have ending := (withRom _ found sounds).2 _ opens_arcadeWindow
    closedBy_arcadeWindow
  exact ⟨(balance _ found).1, ending, (exitCode _ ending).2.mp rfl⟩

end Program

end Chip8
