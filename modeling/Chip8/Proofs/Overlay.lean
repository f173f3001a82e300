import Chip8.Proofs.KeyFiles
import Chip8.Proofs.Reception

/-!
# Key map files over the usual layout

On the keyboard of a command line with a key map file, a name has the code of the
last entry of the file with the same upper case, or else its usual code.

* `KeyFile.get?_of_isLast` finds the key of the last entry of a file in its layout,
  and `KeyFile.get?_of_no_entry` finds nothing without an entry;
* `Keyboard.assignAll_codes_eq` is the layout of the keyboard, and
  `Keyboard.codeOf?_of_upper` looks names up on it;
* `Settings.codes_of_keyFile` puts it together.
-/

namespace Chip8

/-! ## The last entry -/

namespace KeyFile

variable {entries : List (Text × Datum)} {pairs : List (Text × Key)}

/-- The last entry with an upper case gives the key that a layout has under it. -/
theorem get?_of_isLast
    (given : List.Forall₂ Gives entries pairs) {name : Text}
    {entry : Text × Datum}
    (last : IsLast (fun other => Text.upper other.1 = name) entries entry) :
    ∃ key, NamesKey entry.2 key ∧ (Entries.ofPairs pairs).get? name = some key := by
  have same (left : Text × Datum) (right : Text × Key) (gives : Gives left right) :
      Text.upper left.1 = name ↔ right.1 = name := by
    rw [gives.1]
  obtain ⟨⟨found, key⟩, lastPair, isUpper, names⟩ := IsLast.forall₂ same given last
  obtain ⟨-, -, -, named, -⟩ := last
  obtain rfl : found = name := isUpper.trans named
  exact ⟨key, names, (Entries.get?_eq_some_iff (Entries.nodup_ofPairs pairs)).mpr
    (Entries.mem_ofPairs_iff.mpr lastPair)⟩

/-- A layout has nothing under a name that is no upper case of a name in the
file. -/
theorem get?_of_no_entry
    (given : List.Forall₂ Gives entries pairs) {name : Text}
    (none : ∀ entry ∈ entries, Text.upper entry.1 ≠ name) :
    (Entries.ofPairs pairs).get? name = Option.none := by
  rw [Option.eq_none_iff_forall_ne_some]
  intro key found
  have member :=
    (Entries.get?_eq_some_iff (Entries.nodup_ofPairs pairs)).mp found
  obtain ⟨source, listed, gives⟩ :=
    exists_gives given (Entries.mem_of_mem_ofPairs member)
  exact none source listed gives.1.symm

end KeyFile

/-! ## Keyboards -/

namespace Keyboard

/-- A layout of keys goes onto a keyboard name by name, in upper case. -/
theorem assignAll_codes_eq (keyboard : Keyboard) (layout : Entries Key) :
    keyboard.assignAll layout.codes =
      .ok ⟨keyboard.layout.putAll
        (layout.map fun entry => (Text.upper entry.1, .key entry.2))⟩ := by
  induction layout generalizing keyboard with
  | nil =>
      rfl
  | cons entry rest inductionHypothesis =>
      simp only [Entries.codes, List.map_cons, assignAll, assign,
        KeyCode.ofDatum_datum_key]
      exact inductionHypothesis _

/-- A layout in upper case that has every name once is the layout of its
keyboard. -/
theorem codeOf?_of_upper
    {layout : Entries Key} {keyboard : Keyboard}
    (upper : ∀ entry ∈ layout, Text.upper entry.1 = entry.1)
    (nodup : (layout.map Prod.fst).Nodup)
    (assigned : ofEntries layout.codes = .ok keyboard) (name : Text) :
    keyboard.codeOf? name = (layout.get? (Text.upper name)).map .key := by
  rw [ofEntries, assignAll_codes_eq] at assigned
  cases assigned
  -- the keyboard puts names into upper case again, which changes none
  have kept : (layout.map fun entry => (Text.upper entry.1, KeyCode.key entry.2)) =
      layout.map fun entry => (entry.1, KeyCode.key entry.2) :=
    List.map_congr_left fun entry member => by rw [upper entry member]
  have stillNodup :
      ((layout.map fun entry => (entry.1, KeyCode.key entry.2)).map Prod.fst).Nodup := by
    rw [List.map_map]
    exact nodup
  rw [codeOf?, kept, ← Entries.get?_map]
  exact congrArg (fun table => Entries.get? table _)
    (Entries.ofPairs_of_nodup stillNodup)

end Keyboard

/-! ## Settings -/

namespace KeyFile

/-- An accepted file holds a record, and its layout is made of what the entries
give. -/
theorem exists_record_of_load
    {nesting : Nat} {files : FileSystem} {path : Text} {layout : Entries Key}
    (accepted : load nesting files path = .ok layout) :
    ∃ bytes entries pairs, files.read path = .ok bytes ∧
      Datum.ofBytes nesting bytes = .ok (.record entries) ∧
      List.Forall₂ Gives entries pairs ∧ layout = Entries.ofPairs pairs := by
  unfold load at accepted
  split at accepted
  · contradiction
  · next bytes present =>
      split at accepted
      · contradiction
      · next document parsed =>
          obtain ⟨entries, pairs, rfl, given, made⟩ := ofDatum_eq_ok_iff.mp accepted
          exact ⟨bytes, entries, pairs, present, parsed, given, made⟩

end KeyFile

namespace Settings

/-- A request alone is never refused for a key map file. -/
theorem ofRequest_ne_keyFile (request : Request) (reason : KeyFileError) :
    ofRequest request ≠ .error (.keyFile reason) := by
  have checked (value : Datum) {tooLow : SettingsError}
      (other : tooLow ≠ .keyFile reason) :
      checkCount value tooLow ≠ .error (.keyFile reason) := by
    unfold checkCount
    split
    · simp
    · split
      · simpa using other
      · simp
  unfold ofRequest
  split
  · next wrong =>
      intro same
      cases same
      exact checked _ (by simp) wrong
  · split
    · next wrong =>
        intro same
        cases same
        exact checked _ (by simp) wrong
    · split
      · simp
      · simp

theorem upper_defaultLayout :
    ∀ entry ∈ defaultLayout, Text.upper entry.1 = entry.1 := by
  decide +kernel

theorem nodup_defaultLayout : (defaultLayout.map Prod.fst).Nodup := by
  decide +kernel

/-- The settings of a command line hold the layout that it leads to. -/
theorem layout_of_layoutOf
    {nesting : Nat} {files : FileSystem} {asked : Arguments}
    {layout : Entries Key} {settings : Settings}
    (found : layoutOf nesting files asked.keymap = .ok layout)
    (accepted : ofArguments nesting files asked = .ok settings) :
    settings.layout = layout.codes := by
  rw [ofArguments, found] at accepted
  obtain ⟨-, same⟩ := preferences_of_request accepted
  rw [same]
  rfl

variable {nesting : Nat} {files : FileSystem} {path : Text}
  {arguments : Arguments} {layout : Entries Key}

/-- The names of an accepted file, in upper case, have the codes that the entries
of its record name, the last one of each upper case first, and the usual names the
others.  A name that is neither has no code and reaches nobody. -/
theorem codes_of_keyFile
    (accepted : KeyFile.load nesting files path = .ok layout)
    (asked : arguments.keymap = some path) :
    ∃ bytes entries members, files.read path = .ok bytes ∧
      Datum.ofBytes nesting bytes = .ok (.record entries) ∧
      Datum.membersOfBytes? nesting bytes = some members ∧
      entries = Entries.ofPairs members ∧
      (∀ reason,
        ofArguments nesting files arguments ≠ .error (.keyFile reason)) ∧
      ∀ settings, ofArguments nesting files arguments = .ok settings →
        ∃ keyboard, Keyboard.ofEntries settings.layout = .ok keyboard ∧
          ∀ name, ∃ code : Option Key,
            (∀ entry,
              IsLast (fun other => Text.upper other.1 = Text.upper name) entries
                entry → ∃ key, NamesKey entry.2 key ∧ code = some key) ∧
            ((∀ entry ∈ entries, Text.upper entry.1 ≠ Text.upper name) →
              code = defaultLayout.get? (Text.upper name)) ∧
            keyboard.codeOf? name = code.map .key ∧
            (keyboard.isMapped name = true ↔ code ≠ none) ∧
            ∀ pressed, keyboard.report name pressed =
              code.map fun key => (.key key, pressed) := by
  obtain ⟨bytes, entries, pairs, present, parsed, given, rfl⟩ :=
    KeyFile.exists_record_of_load accepted
  obtain ⟨members, written, made⟩ := Datum.exists_membersOfBytes parsed
  have found : layoutOf nesting files arguments.keymap =
      .ok (defaultLayout.putAll (Entries.ofPairs pairs)) := by
    rw [asked]
    simp only [layoutOf, accepted]
  refine ⟨bytes, entries, members, present, parsed, written, made, ?_, ?_⟩
  · intro reason
    rw [ofArguments, found]
    exact ofRequest_ne_keyFile _ reason
  · intro settings success
    obtain ⟨keyboard, assigned, -⟩ :=
      Keyboard.ofEntries_codes (defaultLayout.putAll (Entries.ofPairs pairs))
    have upper : ∀ entry ∈ defaultLayout.putAll (Entries.ofPairs pairs),
        Text.upper entry.1 = entry.1 := by
      intro entry member
      rcases Entries.mem_putAll member with usual | ofFile
      · exact upper_defaultLayout entry usual
      · exact KeyFile.upper_of_given given ofFile
    have known := Keyboard.codeOf?_of_upper upper
      (Entries.nodup_putAll nodup_defaultLayout _) assigned
    rw [layout_of_layoutOf found success]
    refine ⟨keyboard, assigned, fun name => ⟨_, ?_, ?_, known name, ?_, ?_⟩⟩
    · intro entry last
      obtain ⟨key, names, atKey⟩ := KeyFile.get?_of_isLast given last
      refine ⟨key, names, ?_⟩
      rw [Entries.get?_putAll_ofPairs, atKey, Option.some_or]
    · intro none
      rw [Entries.get?_putAll_ofPairs, KeyFile.get?_of_no_entry given none,
        Option.none_or]
    · rw [Keyboard.isMapped, known name, Option.isSome_map, Option.isSome_iff_ne_none]
    · intro pressed
      rw [Keyboard.report, known name, Option.map_map]
      rfl

/-- A lectern whose names meet twice.  `q` stands there two times, and its last
value takes the first one's place, before `Q`; the sharp `s` and `SS` meet in upper
case, where the code zero comes last. -/
theorem codes_of_keyFile_lectern :
    let file : List UInt8 := ("\x7b\"q\": 0, \"Q\": 9, \"\u00df\": \"0x5\", " ++
      "\"SS\": 0, \"q\": 2\x7d").toUTF8.data.toList
    let lectern : FileSystem := .ofFolder [("keys.json", file)]
    let asked : Arguments :=
      { CommandLine.defaults with keymap := some "keys.json" }
    ∃ settings keyboard, ofArguments 1 lectern asked = .ok settings ∧
      Keyboard.ofEntries settings.layout = .ok keyboard ∧
      keyboard.codeOf? "q" = some (.key 9) ∧
      keyboard.codeOf? "\u017fs" = some (.key 0) ∧
      keyboard.isMapped "\u017fs" = true ∧
      keyboard.report "w" true = some (.key 5, true) ∧
      keyboard.report "p" false = none := by
  intro file lectern asked
  have accepted :
      KeyFile.load 1 lectern "keys.json" = .ok [("Q", 9), ("SS", 0)] := by
    decide +kernel
  obtain ⟨bytes, entries, -, present, parsed, -, -, noFault, codes⟩ :=
    codes_of_keyFile accepted (show asked.keymap = some "keys.json" from rfl)
  have found : lectern.read "keys.json" = .ok file := by decide +kernel
  have read : Datum.ofBytes 1 file = .ok (.record [("q", .integer 2),
      ("Q", .integer 9), ("\u00df", .string "0x5"), ("SS", .integer 0)]) := by
    decide +kernel
  rw [found] at present
  cases present
  rw [read] at parsed
  cases parsed
  have success : (ofArguments 1 lectern asked).isOk = true := by decide +kernel
  cases settled : ofArguments 1 lectern asked with
  | error reason =>
      rw [settled] at success
      contradiction
  | ok settings =>
      obtain ⟨keyboard, assigned, named⟩ := codes settings settled
      have code {value : Int} {key : Key} (names : NamesKey (.integer value) key) :
          value = key.val := by
        cases names
        rfl
      obtain ⟨ofQ, lastQ, -, atQ, -⟩ := named "q"
      obtain ⟨nine, isNine, rfl⟩ := lastQ ("Q", .integer 9)
        ⟨[("q", .integer 2)], [("\u00df", .string "0x5"), ("SS", .integer 0)],
          rfl, by decide +kernel, by decide +kernel⟩
      obtain ⟨ofS, lastS, -, atS, mappedS, -⟩ := named "\u017fs"
      obtain ⟨zero, isZero, rfl⟩ := lastS ("SS", .integer 0)
        ⟨[("q", .integer 2), ("Q", .integer 9), ("\u00df", .string "0x5")], [],
          rfl, by decide +kernel, List.forall_mem_nil _⟩
      obtain ⟨ofW, -, usualW, -, -, reportW⟩ := named "w"
      obtain ⟨ofP, -, usualP, -, -, reportP⟩ := named "p"
      have five : ofW = some 5 := usualW (by decide +kernel)
      have nobody : ofP = none := usualP (by decide +kernel)
      have nine_eq : nine = 9 := Fin.ext (by have := code isNine; omega)
      have zero_eq : zero = 0 := Fin.ext (by have := code isZero; omega)
      refine ⟨settings, keyboard, rfl, assigned, ?_, ?_, mappedS.mpr (by simp), ?_, ?_⟩
      · rw [atQ, nine_eq]
        rfl
      · rw [atS, zero_eq]
        rfl
      · rw [reportW, five]
        rfl
      · rw [reportP, nobody]
        rfl

end Settings

end Chip8
