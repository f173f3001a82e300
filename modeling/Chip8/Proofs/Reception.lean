import Chip8.Proofs.MainLoop
import Chip8.Proofs.Painting

/-!
# Reception

A window whose ROM fits into memory and whose keyboard holds codes of keys only
works through every event.

* a keyboard is `Whole` if every code of it stands for a key, and events for such
  a keyboard do not break off (`receiveAll_ok_of_whole`), unless they load a ROM
  that does not fit;
* a window is `Reliable` if its ROM fits and its keyboard holds keys, and stays
  so through events and turns, so that only an interruption breaks a main loop
  off (`interrupted_of_brokenOff`);
* command lines lead to layouts of keys (`layout_of_arguments`), which make such
  keyboards (`ofEntries_codes`), and a layout without fractions makes a keyboard
  that is whole (`whole_of_ofEntries`).
-/

namespace Chip8

/-- A program is loaded if it fits, and refused otherwise. -/
theorem Machine.result_load (machine : Machine) (program : List UInt8) :
    (machine.load program).result =
      if program.length ≤ programCapacity then .ok ()
      else .error (.programTooLarge program.length programCapacity) := by
  simp only [load, Processor.load]
  by_cases fits : program.length ≤ programCapacity
  · rw [dif_pos fits, if_pos fits]
    rfl
  · rw [dif_neg fits, if_neg fits]

/-- All codes of the keyboard are keys of the keypad. -/
def Keyboard.Keyed (keyboard : Keyboard) : Prop :=
  ∀ name code, keyboard.codeOf? name = some code → ∃ key, code = .key key

/-- No code of the keyboard is a fraction. -/
def Keyboard.Whole (keyboard : Keyboard) : Prop :=
  ∀ name value, keyboard.codeOf? name ≠ some (.fraction value)

theorem Keyboard.Keyed.whole {keyboard : Keyboard} (keyed : keyboard.Keyed) :
    keyboard.Whole := by
  intro name value known
  obtain ⟨key, same⟩ := keyed name _ known
  contradiction

/-- Every code of a keyboard without fractions stands for a key. -/
theorem Keyboard.Whole.exists_key
    {keyboard : Keyboard} (whole : keyboard.Whole) {name : Text} {code : KeyCode}
    (known : keyboard.codeOf? name = some code) :
    ∃ key, code.key? = some key := by
  cases code with
  | key key => exact ⟨key, rfl⟩
  | truth value => exact ⟨_, rfl⟩
  | fraction value => exact absurd known (whole name value)

namespace Window

/-- The ROM of the window fits into memory, and its keyboard holds keys. -/
structure Reliable (window : Window) : Prop where
  fits : window.rom.length ≤ programCapacity
  keyed : window.keyboard.Keyed

theorem Reliable.of_sameSetup
    {before after : Window}
    (reliable : before.Reliable) (setup : before.SameSetup after) :
    after.Reliable where
  fits := setup.rom_eq ▸ reliable.fits
  keyed := setup.keyboard_eq ▸ reliable.keyed

variable {window reached : Window}

/-! ## Events -/

theorem reload_ok (fits : window.rom.length ≤ programCapacity) :
    window.reload.result = .ok () := by
  simp only [reload, WindowOutcome.ofMachine, Machine.result_load, if_pos fits]

theorem reportKey_ok
    (whole : window.keyboard.Whole) (name : Text) (pressed : Bool) :
    (window.reportKey name pressed).result = .ok () := by
  unfold reportKey
  split
  · next code status reported =>
      simp only [Keyboard.report, Option.map_eq_some_iff] at reported
      obtain ⟨found, known, same⟩ := reported
      cases same
      obtain ⟨key, stands⟩ := whole.exists_key known
      simp only [reportCode, stands]
      rfl
  · rfl

theorem receive_ok
    (whole : window.keyboard.Whole) {event : HostEvent}
    (loads : window.rom.length ≤ programCapacity ∨
      event ≠ .keyDown reloadKey) :
    (window.receive event).result = .ok () := by
  rcases receive_cases event with ⟨-, closed⟩ | ⟨-, rest⟩
  · rw [closed]
    rfl
  · rcases rest with idle | ⟨pressed, reloads⟩ | ⟨name, pressed, reports⟩
    · rw [idle]
      rfl
    · rcases loads with fits | other
      · rw [reloads, reload_ok fits]
      · exact absurd pressed other
    · rw [reports, reportKey_ok whole name pressed]

/-- A window without fractions on its keyboard works through all events, if its
ROM fits or is not to be loaded. -/
theorem receiveAll_ok_of_whole
    (whole : window.keyboard.Whole) {events : List HostEvent}
    (loads : window.rom.length ≤ programCapacity ∨
      .keyDown reloadKey ∉ events) :
    (window.receiveAll events).result = .ok () := by
  induction events generalizing window with
  | nil =>
      rfl
  | cons event rest inductionHypothesis =>
      have setup := (window.unpainted_receive event).setup
      have first : (window.receive event).result = .ok () :=
        receive_ok whole
          (loads.imp_right fun none same => none (same ▸ List.mem_cons_self))
      rw [receiveAll, WindowOutcome.andThen_of_ok first]
      apply inductionHypothesis (setup.keyboard_eq.symm ▸ whole)
      rw [setup.rom_eq]
      exact loads.imp_right fun none later => none (List.mem_cons_of_mem _ later)

/-- A reliable window works through all events. -/
theorem receiveAll_ok (reliable : window.Reliable) (events : List HostEvent) :
    (window.receiveAll events).result = .ok () :=
  receiveAll_ok_of_whole reliable.keyed.whole (.inl reliable.fits)

/-! ## Turns -/

theorem sameSetup_frame (window : Window) :
    window.SameSetup window.frame.window := by
  cases framed : window.machine.frame.result with
  | error fault =>
      rw [frame_of_error framed]
      exact ⟨rfl, rfl, rfl⟩
  | ok _ =>
      rw [frame_of_ok framed]
      unfold paint
      split <;> exact ⟨rfl, rfl, rfl⟩

theorem sameSetup_afterTurn (window : Window) (batch : Batch) :
    window.SameSetup (window.afterTurn batch) :=
  (window.unpainted_receiveBatch batch).setup.trans (sameSetup_frame _)

theorem sameSetup_of_reaches
    {script rest : List Batch} (reaches : window.Reaches script reached rest) :
    window.SameSetup reached ∧ rest <:+ script := by
  induction reaches with
  | here window batches =>
      exact ⟨.refl window, List.suffix_rfl⟩
  | turn turns _ inductionHypothesis =>
      obtain ⟨setup, suffix⟩ := inductionHypothesis
      exact ⟨(sameSetup_afterTurn _ _).trans setup,
        suffix.trans (List.suffix_cons _ _)⟩

/-- Only an interruption breaks the main loop of a reliable window off. -/
theorem interrupted_of_brokenOff
    {script : List Batch} {reason : Breakdown} (reliable : window.Reliable)
    (broken : window.BrokenOff script reason) :
    reason = .interrupted ∧ .interruption ∈ script := by
  obtain ⟨reached, batch, rest, reaches, failed⟩ := broken
  obtain ⟨setup, suffix⟩ := sameSetup_of_reaches reaches
  cases batch with
  | events events =>
      rw [receiveBatch, receiveAll_ok (reliable.of_sameSetup setup)] at failed
      contradiction
  | interruption =>
      cases failed
      exact ⟨rfl, suffix.mem List.mem_cons_self⟩

end Window

/-! ## Layouts of keys -/

/-- A keyboard for the layout is all that a window needs. -/
theorem Window.exists_create
    (machine : Machine) {settings : Settings} (rom : List UInt8)
    {keyboard : Keyboard}
    (assigned : Keyboard.ofEntries settings.layout = .ok keyboard) :
    ∃ opening, create machine settings rom =
      .ok (⟨machine, settings, rom, keyboard, false⟩, opening) := by
  rw [create, assigned]
  exact ⟨_, rfl⟩

/-- A code is a fraction only if it was given as one. -/
theorem KeyCode.real_of_ofDatum
    {code : Datum} {value : Binary64}
    (made : ofDatum code = .ok (.fraction value)) :
    code = .real value := by
  cases code with
  | real other =>
      simp only [ofDatum] at made
      split at made
      · cases made
        rfl
      · contradiction
  | integer other =>
      simp only [ofDatum] at made
      split at made <;> cases made
  | _ => cases made

namespace Keyboard

theorem keyed_empty : empty.Keyed :=
  nofun

theorem keyed_put
    {keyboard : Keyboard} (keyed : keyboard.Keyed) (name : Text) (key : Key) :
    Keyed ⟨keyboard.layout.put name (.key key)⟩ := by
  intro tested code found
  rw [codeOf?, Entries.get?_put] at found
  split at found
  · cases found
    exact ⟨key, rfl⟩
  · exact keyed tested code found

theorem assignAll_codes
    {keyboard : Keyboard} (keyed : keyboard.Keyed) (layout : Entries Key) :
    ∃ assigned, keyboard.assignAll layout.codes = .ok assigned ∧
      assigned.Keyed := by
  induction layout generalizing keyboard with
  | nil =>
      exact ⟨keyboard, rfl, keyed⟩
  | cons entry rest inductionHypothesis =>
      obtain ⟨assigned, success, stillKeyed⟩ :=
        inductionHypothesis (keyed_put keyed (Text.upper entry.1) entry.2)
      refine ⟨assigned, ?_, stillKeyed⟩
      simp only [Entries.codes, List.map_cons, assignAll, assign,
        KeyCode.ofDatum_datum_key]
      exact success

/-- A layout of keys makes a keyboard of keys. -/
theorem ofEntries_codes (layout : Entries Key) :
    ∃ keyboard, ofEntries layout.codes = .ok keyboard ∧ keyboard.Keyed :=
  assignAll_codes keyed_empty layout

theorem whole_assign
    {keyboard assigned : Keyboard} (whole : keyboard.Whole) {name : Text}
    {code : Datum} (integral : ∀ value, code ≠ .real value)
    (success : keyboard.assign name code = .ok assigned) :
    assigned.Whole := by
  intro tested value found
  simp only [assign] at success
  split at success
  · next made =>
      cases success
      rw [codeOf?, Entries.get?_put] at found
      split at found
      · cases found
        exact integral value (KeyCode.real_of_ofDatum made)
      · exact whole tested value found
  · contradiction

theorem whole_assignAll
    {keyboard assigned : Keyboard} (whole : keyboard.Whole)
    {entries : Entries Datum}
    (integral : ∀ name value, (name, .real value) ∉ entries)
    (success : keyboard.assignAll entries = .ok assigned) :
    assigned.Whole := by
  induction entries generalizing keyboard with
  | nil =>
      cases success
      exact whole
  | cons entry rest inductionHypothesis =>
      simp only [assignAll] at success
      split at success
      · next next first =>
          have stillWhole : next.Whole := by
            apply whole_assign whole _ first
            intro value same
            exact integral entry.1 value (same ▸ List.mem_cons_self)
          exact inductionHypothesis stillWhole
            (fun name value later =>
              integral name value (List.mem_cons_of_mem entry later))
            success
      · contradiction

/-- A layout without fractions makes a keyboard without fractions. -/
theorem whole_of_ofEntries
    {entries : Entries Datum} {keyboard : Keyboard}
    (integral : ∀ name value, (name, .real value) ∉ entries)
    (success : ofEntries entries = .ok keyboard) : keyboard.Whole :=
  whole_assignAll keyed_empty.whole integral success

end Keyboard

namespace Settings

theorem preferences_of_request
    {request : Request} {settings : Settings}
    (accepted : ofRequest request = .ok settings) :
    checkCount request.speed .speedTooLow = .ok () ∧
      settings.toPreferences = request.toPreferences := by
  unfold ofRequest at accepted
  split at accepted
  · contradiction
  · next checked =>
      split at accepted
      · contradiction
      · split at accepted
        · contradiction
        · cases accepted
          exact ⟨checked, rfl⟩

/-- The settings that a command line leads to hold a layout of keys, and a
positive number for the speed. -/
theorem layout_of_arguments
    {nesting : Nat} {files : FileSystem} {asked : Arguments}
    {settings : Settings}
    (accepted : ofArguments nesting files asked = .ok settings) :
    (∃ layout : Entries Key, settings.layout = layout.codes) ∧
      ∃ speed, speedOf settings.speed = .ok speed := by
  unfold ofArguments at accepted
  split at accepted
  · contradiction
  · next layout _ =>
      obtain ⟨checked, same⟩ := preferences_of_request accepted
      refine ⟨⟨layout, by rw [same]; rfl⟩, ?_⟩
      have speed_eq : settings.speed = optionValue asked.speed := by
        rw [same]
        rfl
      rw [speed_eq]
      change checkCount (optionValue asked.speed) .speedTooLow = .ok ()
        at checked
      cases given : asked.speed with
      | none =>
          rw [given] at checked
          contradiction
      | some number =>
          rw [given, optionValue, checkCount_integer] at checked
          split at checked
          · contradiction
          · next positive =>
              exact ⟨number.toNat, speedOf_integer (by omega)⟩

end Settings

end Chip8
