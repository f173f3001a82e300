import Mathlib.Data.List.Basic
import Chip8.Proofs.Decimals
import Chip8.Settings

/-!
# Settings on a command line

Settings that are written on a command line come back from it, as long as none of
their numbers is too long to be read.

* A `Piece` of a line gives a value to an integer option, in one of two ways, or
  sets the flag, and `Piece.arguments` writes it down;
* `classifyAll_arguments` says what the arguments of a piece are taken for;
* `take_piece` takes a piece, `take_pieces` any number of them, and `take_of_long`
  stops at a number that is too long;
* `of_foldl_change` says that the last value of an option counts;
* `settings_of_line` puts it together for a line with the ROM name anywhere between
  pieces.
-/

namespace Chip8.CommandLine

/-! ## Pieces of a line -/

/-- The options that take an integer. -/
inductive Quantity where
  | speed
  | scale
  | fps
  | tone
  deriving DecidableEq

namespace Quantity

/-- The option on the command line. -/
def switch : Quantity → Switch
  | .speed => .speed
  | .scale => .scale
  | .fps => .fps
  | .tone => .tone

/-- The value of an option that is not given. -/
def usual : Quantity → Int
  | .speed => 10
  | .scale => 15
  | .fps => 60
  | .tone => 440

/-- The value of the option in arguments. -/
def of (arguments : Arguments) : Quantity → Option Int
  | .speed => arguments.speed
  | .scale => arguments.scale
  | .fps => arguments.fps
  | .tone => arguments.tone

/-- Arguments with a value for the option. -/
def put (arguments : Arguments) (value : Int) : Quantity → Arguments
  | .speed => { arguments with speed := some value }
  | .scale => { arguments with scale := some value }
  | .fps => { arguments with fps := some value }
  | .tone => { arguments with tone := some value }

end Quantity

/-- An integer in decimal. -/
def decimal (value : Int) : Text := toString value

/-- What may be written on a line beside the ROM name: an option with a value in
an argument of its own or after an equals sign, and the flag by its letter or its
word. -/
inductive Piece where
  | apart (quantity : Quantity) (value : Int)
  | joined (quantity : Quantity) (value : Int)
  | letter
  | word

namespace Piece

/-- The arguments of a piece. -/
def arguments : Piece → List Text
  | .apart quantity value => [quantity.switch.label, decimal value]
  | .joined quantity value => [quantity.switch.label ++ "=" ++ decimal value]
  | .letter => ["-v"]
  | .word => ["--verbose"]

/-- The option that a piece gives a value to, with that value. -/
def given? : Piece → Option (Quantity × Int)
  | .apart quantity value => some (quantity, value)
  | .joined quantity value => some (quantity, value)
  | .letter => none
  | .word => none

/-- The value that a piece gives to an option. -/
def value? (quantity : Quantity) (piece : Piece) : Option Int :=
  match piece.given? with
  | some (other, value) => if other = quantity then some value else none
  | none => none

/-- A piece that gives a value writes it with at most 4300 digits. -/
def Short (piece : Piece) : Prop :=
  ∀ quantity value, piece.given? = some (quantity, value) →
    (Nat.toDigits 10 value.natAbs).length ≤ 4300

/-- The arguments of a piece, classified. -/
def classified : Piece → List Argument
  | .apart quantity value =>
      [.long quantity.switch none, .operand (decimal value)]
  | .joined quantity value => [.long quantity.switch (some (decimal value))]
  | .letter => [.flags .verbose []]
  | .word => [.long .verbose none]

/-- What a piece changes in the arguments that were asked for. -/
def change (arguments : Arguments) (piece : Piece) : Arguments :=
  match piece.given? with
  | some (quantity, value) => quantity.put arguments value
  | none => { arguments with verbose := true }

end Piece

/-! ## Classifying -/

theorem classify_of_undashed {text : Text}
    (undashed : text.symbols.head? ≠ some (.character '-')) :
    classify text = .ok (.operand text) := by
  unfold classify
  extract_lets unnamed
  split
  · next same => exact absurd (by rw [same]; rfl) undashed
  · next same => exact absurd (by rw [same]; rfl) undashed
  · rfl

/-- A digit of a number is no dash and no letter of a flag. -/
theorem digit_of_mem_toDigits
    {number : Nat} {character : Char}
    (member : character ∈ Nat.toDigits 10 number) :
    (Text.decimalDigit? character).isSome = true ∧ character ≠ '-' ∧
      Switch.ofLetter? (.character character) = none := by
  have digit : 0x30 ≤ character.toNat ∧ character.toNat ≤ 0x39 :=
    Char.isDigit_iff_toNat.mp
      (Nat.isDigit_of_mem_toDigits (by decide) (by decide) member)
  refine ⟨?_, ?_, ?_⟩
  · rw [Text.Numeral.decimalDigit?_of_ascii (by omega), if_pos digit]
    rfl
  · rintro rfl
    exact absurd digit (by decide)
  · unfold Switch.ofLetter?
    split
    · next same => cases same; exact absurd digit (by decide)
    · next same => cases same; exact absurd digit (by decide)
    · rfl

theorem symbols_decimal (value : Int) :
    (decimal value).symbols =
      if 0 ≤ value then (Nat.toDigits 10 value.natAbs).map .character
      else .character '-' :: (Nat.toDigits 10 value.natAbs).map .character := by
  rw [decimal, Text.ofString, Text.Numeral.toList_toString]
  split <;> rfl

theorem replaced_decimal (value : Int) :
    (decimal value).replaced = toString value :=
  Text.replaced_ofString _

/-- A negative integer in decimal looks like a negative number. -/
theorem isNegativeNumber_decimal {value : Int} (negative : ¬ 0 ≤ value) :
    isNegativeNumber (decimal value).replaced.toList = true := by
  rw [replaced_decimal, Text.Numeral.toList_toString, if_neg negative,
    isNegativeNumber]
  have digits : (Nat.toDigits 10 value.natAbs).dropWhile
      (fun character => (Text.decimalDigit? character).isSome) = [] :=
    List.dropWhile_eq_nil_iff.mpr fun character member =>
      (digit_of_mem_toDigits member).1
  simp only [isDigits, digits, ne_eq, Nat.toDigits_ne_nil, not_false_eq_true,
    decide_true, Bool.true_or]

/-- An integer in decimal is an operand, also a negative one. -/
theorem classify_decimal (value : Int) :
    classify (decimal value) = .ok (.operand (decimal value)) := by
  obtain ⟨first, rest, digits⟩ :=
    List.exists_cons_of_ne_nil (@Nat.toDigits_ne_nil value.natAbs 10)
  obtain ⟨-, noDash, noLetter⟩ :=
    digit_of_mem_toDigits (digits ▸ List.mem_cons_self)
  by_cases nonnegative : 0 ≤ value
  · apply classify_of_undashed
    rw [symbols_decimal, if_pos nonnegative, digits]
    simpa using noDash
  · have spelled : (decimal value).symbols =
        .character '-' :: .character first :: rest.map .character := by
      rw [symbols_decimal, if_neg nonnegative, digits]
      rfl
    unfold classify
    simp only [isNegativeNumber_decimal nonnegative, true_or, if_true]
    split
    · next same =>
        rw [spelled] at same
        simp [noDash] at same
    · next letter after notDashes same =>
        rw [spelled] at same
        cases same
        rw [noLetter]
    · rfl

theorem classify_label (quantity : Quantity) :
    classify quantity.switch.label = .ok (.long quantity.switch none) := by
  cases quantity <;> rfl

theorem classify_joined (quantity : Quantity) (value : Text) :
    classify (quantity.switch.label ++ "=" ++ value) =
      .ok (.long quantity.switch (some value)) := by
  cases quantity <;> rfl

theorem classifyAll_cons_eq_ok_iff
    {text : Text} {rest : List Text} {classified : List Argument} :
    classifyAll (text :: rest) = .ok classified ↔
      ∃ argument arguments, classify text = .ok argument ∧
        classifyAll rest = .ok arguments ∧ classified = argument :: arguments := by
  rw [classifyAll]
  constructor
  · intro known
    split at known
    · contradiction
    · next argument isArgument =>
        split at known
        · next arguments areArguments =>
            cases known
            exact ⟨argument, arguments, isArgument, areArguments, rfl⟩
        · contradiction
  · rintro ⟨argument, arguments, isArgument, areArguments, rfl⟩
    simp only [isArgument, areArguments]

theorem classifyAll_append
    {front back : List Text} {first second : List Argument}
    (known : classifyAll front = .ok first)
    (alsoKnown : classifyAll back = .ok second) :
    classifyAll (front ++ back) = .ok (first ++ second) := by
  induction front generalizing first with
  | nil =>
      cases known
      exact alsoKnown
  | cons text rest inductionHypothesis =>
      obtain ⟨argument, arguments, isArgument, areArguments, rfl⟩ :=
        classifyAll_cons_eq_ok_iff.mp known
      exact classifyAll_cons_eq_ok_iff.mpr ⟨argument, arguments ++ second,
        isArgument, inductionHypothesis areArguments, rfl⟩

/-- The arguments of pieces are what they were written for. -/
theorem classifyAll_arguments (pieces : List Piece) :
    classifyAll (pieces.flatMap Piece.arguments) =
      .ok (pieces.flatMap Piece.classified) := by
  induction pieces with
  | nil =>
      rfl
  | cons piece rest inductionHypothesis =>
      refine classifyAll_append ?_ inductionHypothesis
      cases piece with
      | apart quantity value =>
          simp only [Piece.arguments, classifyAll, classify_label,
            classify_decimal]
          rfl
      | joined quantity value =>
          simp only [Piece.arguments, classifyAll, classify_joined]
          rfl
      | letter => rfl
      | word => rfl

/-- Two dashes alone are no argument that can be classified: they start every long
name. -/
theorem ne_twoDashes_of_classify {text : Text} {argument : Argument}
    (known : classify text = .ok argument) : text ≠ twoDashes := by
  rintro rfl
  have ambiguous : classify twoDashes =
      .error (.ambiguous twoDashes (Switch.longSpellings.map (·.1))) := rfl
  rw [ambiguous] at known
  contradiction

/-- Nothing ends the options of a line that can be classified as a whole. -/
theorem splitDashes_of_classifyAll
    {line : List Text} {classified : List Argument}
    (known : classifyAll line = .ok classified) :
    splitDashes line = (line, none) := by
  have noDashes : ∀ text ∈ line, text ≠ twoDashes := by
    induction line generalizing classified with
    | nil =>
        exact List.forall_mem_nil _
    | cons text rest inductionHypothesis =>
        obtain ⟨argument, arguments, isArgument, areArguments, -⟩ :=
          classifyAll_cons_eq_ok_iff.mp known
        exact List.forall_mem_cons.mpr
          ⟨ne_twoDashes_of_classify isArgument, inductionHypothesis areArguments⟩
  have dropped : line.dropWhile (· ≠ twoDashes) = [] :=
    List.dropWhile_eq_nil_iff.mpr fun text member =>
      decide_eq_true (noDashes text member)
  rw [splitDashes, dropped]

/-! ## Taking -/

namespace Piece

/-- What is taken from a line after a piece more. -/
def taken (progress : Progress) (piece : Piece) : Progress :=
  { progress with
    settings := piece.change progress.settings
    romIsLatest := false }

end Piece

theorem integerValue_of_short
    (switch : Switch) {value : Int}
    (short : (Nat.toDigits 10 value.natAbs).length ≤ 4300) :
    integerValue switch (some (decimal value)) = .ok (some value) := by
  have read : Text.Numeral.read .plain (decimal value).replaced = .ok value := by
    rw [replaced_decimal]
    exact Text.Numeral.read_toString_eq_ok_iff.mpr ⟨rfl, short⟩
  simp only [integerValue, read]

theorem integerValue_of_long
    (switch : Switch) {value : Int}
    (long : 4300 < (Nat.toDigits 10 value.natAbs).length) :
    integerValue switch (some (decimal value)) =
      .error (.usage (.notAnInteger switch (decimal value))) := by
  cases read : Text.Numeral.read .plain (decimal value).replaced with
  | ok result =>
      rw [replaced_decimal] at read
      have short := (Text.Numeral.read_toString_eq_ok_iff.mp read).2
      exact absurd short (Nat.not_le.mpr long)
  | error reason =>
      simp only [integerValue, read]

theorem note_of_short
    (progress : Progress) (quantity : Quantity) {value : Int}
    (short : (Nat.toDigits 10 value.natAbs).length ≤ 4300) :
    progress.note quantity.switch (some (decimal value)) =
      .ok { progress with
        settings := quantity.put progress.settings value
        romIsLatest := false } := by
  cases quantity <;>
    simp only [Quantity.switch, Progress.note, integerValue_of_short _ short] <;>
    rfl

theorem note_of_long
    (progress : Progress) (quantity : Quantity) {value : Int}
    (long : 4300 < (Nat.toDigits 10 value.natAbs).length) :
    progress.note quantity.switch (some (decimal value)) =
      .error (.usage (.notAnInteger quantity.switch (decimal value))) := by
  cases quantity <;>
    simp only [Quantity.switch, Progress.note, integerValue_of_long _ long] <;>
    rfl

theorem takesValue_switch (quantity : Quantity) :
    quantity.switch.takesValue = true := by
  cases quantity <;> rfl

theorem givenValue_decimal (value : Int) :
    givenValue (decimal value) = some (decimal value) :=
  if_neg (ne_twoDashes_of_classify (classify_decimal value))

/-- A piece that gives a value to an option has it noted. -/
theorem take_of_given
    {piece : Piece} {quantity : Quantity} {value : Int}
    (given : piece.given? = some (quantity, value)) (progress : Progress)
    (rest : List Argument) :
    take progress (piece.classified ++ rest) =
      (progress.note quantity.switch (some (decimal value))).bind
        fun noted => take noted rest := by
  cases piece with
  | apart =>
      cases given
      simp only [Piece.classified, List.cons_append, List.nil_append, take,
        takesValue_switch, if_true]
      cases progress.note quantity.switch (some (decimal value)) <;> rfl
  | joined =>
      cases given
      simp only [Piece.classified, List.cons_append, List.nil_append, take,
        takesValue_switch, if_true, givenValue_decimal]
      cases progress.note quantity.switch (some (decimal value)) <;> rfl
  | letter | word => contradiction

/-- A piece that gives no value sets the flag. -/
theorem take_of_flag
    {piece : Piece} (flag : piece.given? = none) (progress : Progress)
    (rest : List Argument) :
    take progress (piece.classified ++ rest) =
      take (piece.taken progress) rest := by
  cases piece with
  | apart | joined => contradiction
  | letter => rfl
  | word =>
      -- the reader looks at the argument behind a long option
      cases rest with
      | nil => rfl
      | cons next others => cases next <;> rfl

/-- A piece without a number that is too long is taken. -/
theorem take_piece
    {piece : Piece} (short : piece.Short) (progress : Progress)
    (rest : List Argument) :
    take progress (piece.classified ++ rest) =
      take (piece.taken progress) rest := by
  cases given : piece.given? with
  | some setting =>
      obtain ⟨quantity, value⟩ := setting
      rw [take_of_given given, note_of_short _ _ (short quantity value given),
        Piece.taken, Piece.change, given]
      rfl
  | none =>
      exact take_of_flag given progress rest

theorem take_pieces
    {pieces : List Piece} (short : ∀ piece ∈ pieces, piece.Short)
    (progress : Progress) (rest : List Argument) :
    take progress (pieces.flatMap Piece.classified ++ rest) =
      take (pieces.foldl Piece.taken progress) rest := by
  induction pieces generalizing progress with
  | nil =>
      rfl
  | cons piece others inductionHypothesis =>
      obtain ⟨first, later⟩ := List.forall_mem_cons.mp short
      rw [List.flatMap_cons, List.append_assoc, take_piece first,
        inductionHypothesis later]
      rfl

/-- A number that is too long is in error. -/
theorem take_of_long
    {piece : Piece} {quantity : Quantity} {value : Int}
    (given : piece.given? = some (quantity, value))
    (long : 4300 < (Nat.toDigits 10 value.natAbs).length) (progress : Progress)
    (rest : List Argument) :
    take progress (piece.classified ++ rest) =
      .error (.usage (.notAnInteger quantity.switch (decimal value))) := by
  rw [take_of_given given, note_of_long _ _ long]
  rfl

/-! ## Lines -/

/-- A line with the ROM name between pieces. -/
def line (before : List Piece) (rom : Text) (after : List Piece) : List Text :=
  before.flatMap Piece.arguments ++ rom :: after.flatMap Piece.arguments

variable {before after : List Piece} {rom : Text}

/-- A line is read by taking its pieces and the ROM name. -/
theorem parse_line (undashed : rom.symbols.head? ≠ some (.character '-')) :
    parse (line before rom after) =
      (take .start (before.flatMap Piece.classified ++
        .operand rom :: after.flatMap Piece.classified)).bind finish := by
  have fromRom : classifyAll (rom :: after.flatMap Piece.arguments) =
      .ok (.operand rom :: after.flatMap Piece.classified) :=
    classifyAll_cons_eq_ok_iff.mpr ⟨_, _, classify_of_undashed undashed,
      classifyAll_arguments after, rfl⟩
  have known := classifyAll_append (classifyAll_arguments before) fromRom
  rw [line, parse, splitDashes_of_classifyAll known]
  simp only [known]
  split <;> rename_i taken
  · rw [taken]
    rfl
  · rw [taken]
    rfl

/-- Pieces change nothing but the settings. -/
theorem foldl_taken (pieces : List Piece) (progress : Progress) :
    ∃ latest, pieces.foldl Piece.taken progress =
      ⟨progress.rom, latest, pieces.foldl Piece.change progress.settings,
        progress.extras⟩ := by
  induction pieces generalizing progress with
  | nil =>
      exact ⟨progress.romIsLatest, rfl⟩
  | cons piece rest inductionHypothesis =>
      exact inductionHypothesis (piece.taken progress)

/-- A line without numbers that are too long is read, and its pieces count in
order. -/
theorem parse_of_short
    (undashed : rom.symbols.head? ≠ some (.character '-'))
    (short : ∀ piece ∈ before ++ after, piece.Short) :
    parse (line before rom after) =
      .ok { (before ++ after).foldl Piece.change defaults with rom := rom } := by
  obtain ⟨shortBefore, shortAfter⟩ := List.forall_mem_append.mp short
  obtain ⟨_, atRom⟩ := foldl_taken before .start
  obtain ⟨_, atEnd⟩ := foldl_taken after
    ((before.foldl Piece.taken .start).operand rom)
  rw [parse_line undashed, take_pieces shortBefore, take,
    ← List.append_nil (after.flatMap Piece.classified), take_pieces shortAfter,
    take, atEnd, atRom, List.foldl_append]
  rfl

/-- The first number of a line that is too long is reported. -/
theorem parse_of_long
    (undashed : rom.symbols.head? ≠ some (.character '-'))
    {earlier later : List Piece} {piece : Piece} {quantity : Quantity}
    {value : Int} (parted : before ++ after = earlier ++ piece :: later)
    (short : ∀ piece ∈ earlier, piece.Short)
    (given : piece.given? = some (quantity, value))
    (long : 4300 < (Nat.toDigits 10 value.natAbs).length) :
    parse (line before rom after) =
      .error (.usage (.notAnInteger quantity.switch (decimal value))) := by
  have behindRom {front : List Piece} (fromRom : after = front ++ piece :: later)
      (shortBefore : ∀ piece ∈ before, piece.Short)
      (shortFront : ∀ piece ∈ front, piece.Short) :
      parse (line before rom after) =
        .error (.usage (.notAnInteger quantity.switch (decimal value))) := by
    rw [parse_line undashed, take_pieces shortBefore, take, fromRom,
      List.flatMap_append, take_pieces shortFront, List.flatMap_cons,
      take_of_long given long]
    rfl
  -- the number stands behind the ROM name, or before it
  rcases List.append_eq_append_iff.mp parted with
    ⟨front, rfl, fromRom⟩ | ⟨front, beforeParted, rest⟩
  · obtain ⟨shortBefore, shortFront⟩ := List.forall_mem_append.mp short
    exact behindRom fromRom shortBefore shortFront
  · cases front with
    | nil =>
        -- the first piece behind the ROM name
        rw [List.append_nil] at beforeParted
        rw [List.nil_append] at rest
        exact @behindRom [] rest.symm (beforeParted ▸ short) (List.forall_mem_nil _)
    | cons first others =>
        obtain ⟨rfl, -⟩ := List.cons.inj rest
        rw [parse_line undashed, beforeParted, List.flatMap_append,
          List.append_assoc, take_pieces short, List.flatMap_cons,
          List.append_assoc, take_of_long given long]
        rfl

/-! ## Values -/

namespace Piece

/-- Whether a piece sets the flag. -/
def isFlag : Piece → Bool
  | .apart _ _ => false
  | .joined _ _ => false
  | .letter => true
  | .word => true

end Piece

/-- The last value that pieces give to an option, or its usual value. -/
def lastValue (quantity : Quantity) (pieces : List Piece) : Int :=
  (pieces.filterMap (Piece.value? quantity)).getLast?.getD quantity.usual

theorem of_put (arguments : Arguments) (value : Int) (changed quantity : Quantity) :
    quantity.of (changed.put arguments value) =
      if changed = quantity then some value else quantity.of arguments := by
  cases changed <;> cases quantity <;> rfl

theorem of_change (arguments : Arguments) (piece : Piece) (quantity : Quantity) :
    quantity.of (piece.change arguments) =
      (piece.value? quantity).or (quantity.of arguments) := by
  unfold Piece.change Piece.value?
  cases piece.given? with
  | none => cases quantity <;> rfl
  | some setting =>
      simp only [of_put]
      split <;> rfl

/-- The last value of an option counts. -/
theorem of_foldl_change
    (pieces : List Piece) (arguments : Arguments) (quantity : Quantity) :
    quantity.of (pieces.foldl Piece.change arguments) =
      (pieces.filterMap (Piece.value? quantity)).getLast?.or
        (quantity.of arguments) := by
  induction pieces generalizing arguments with
  | nil =>
      rfl
  | cons piece rest inductionHypothesis =>
      rw [List.foldl_cons, inductionHypothesis, of_change]
      cases given : piece.value? quantity with
      | none =>
          rw [List.filterMap_cons_none given, Option.none_or]
      | some value =>
          rw [List.filterMap_cons_some given, List.getLast?_cons, Option.some_or]
          cases (rest.filterMap (Piece.value? quantity)).getLast? <;> rfl

theorem of_pieces (pieces : List Piece) (quantity : Quantity) :
    quantity.of (pieces.foldl Piece.change defaults) =
      some (lastValue quantity pieces) := by
  have usual : quantity.of defaults = some quantity.usual := by
    cases quantity <;> rfl
  rw [of_foldl_change, usual, lastValue]
  cases (pieces.filterMap (Piece.value? quantity)).getLast? <;> rfl

theorem keymap_foldl_change (pieces : List Piece) (arguments : Arguments) :
    (pieces.foldl Piece.change arguments).keymap = arguments.keymap := by
  induction pieces generalizing arguments with
  | nil =>
      rfl
  | cons piece rest inductionHypothesis =>
      rw [List.foldl_cons, inductionHypothesis]
      cases piece with
      | apart quantity value | joined quantity value => cases quantity <;> rfl
      | letter | word => rfl

theorem verbose_foldl_change (pieces : List Piece) (arguments : Arguments) :
    (pieces.foldl Piece.change arguments).verbose =
      (arguments.verbose || pieces.any Piece.isFlag) := by
  induction pieces generalizing arguments with
  | nil =>
      exact (Bool.or_false _).symm
  | cons piece rest inductionHypothesis =>
      rw [List.foldl_cons, inductionHypothesis, List.any_cons, ← Bool.or_assoc]
      refine congrArg (· || _) ?_
      cases piece with
      | apart quantity value | joined quantity value =>
          cases quantity <;> exact (Bool.or_false _).symm
      | letter | word => exact (Bool.or_true _).symm

/-! ## Settings -/

/-- The settings that come from arguments with integers and without a key map
file. -/
theorem ofArguments_of_integers
    (nesting : Nat) (files : FileSystem) {arguments : Arguments}
    {value : Quantity → Int}
    (known : ∀ quantity, Quantity.of arguments quantity = some (value quantity))
    (noFile : arguments.keymap = none) :
    Settings.ofArguments nesting files arguments =
      if value .speed < 1 then .error .speedTooLow
      else if value .fps < 1 then .error .fpsTooLow
      else .ok {
        speed := .integer (value .speed)
        scale := (max 1 (value .scale)).toNat
        fps := .integer (value .fps)
        tone := .integer (value .tone)
        volume := Settings.defaultVolume
        layout := defaultLayout.codes
        verbose := .boolean arguments.verbose } := by
  have atSpeed : arguments.speed = some (value .speed) := known .speed
  have atScale : arguments.scale = some (value .scale) := known .scale
  have atFps : arguments.fps = some (value .fps) := known .fps
  have atTone : arguments.tone = some (value .tone) := known .tone
  simp only [Settings.ofArguments, Settings.layoutOf, noFile, Settings.ofRequest,
    Settings.Request.ofArguments, atSpeed, atScale, atFps, atTone,
    Settings.optionValue, Settings.checkCount_integer, Datum.toInteger]
  by_cases slow : value .speed < 1
  · simp only [slow, if_true]
  · by_cases rare : value .fps < 1
    · simp only [slow, rare, if_true, if_false]
    · simp only [slow, rare, if_false]

/-- On a line with a ROM name anywhere between pieces, the ROM name and the last
value of each option count, and every option that is not given has its usual
value.  A number of more than 4300 digits is refused, and so is a line with one,
whatever comes after it. -/
theorem settings_of_line
    (nesting : Nat) (files : FileSystem) (before after : List Piece) {rom : Text}
    (undashed : rom.symbols.head? ≠ some (.character '-')) :
    let pieces := before ++ after
    ((∀ piece ∈ pieces, piece.Short) →
      ∃ arguments, parse (line before rom after) = .ok arguments ∧
        arguments.rom = rom ∧
        (lastValue .speed pieces < 1 →
          Settings.ofArguments nesting files arguments =
            .error .speedTooLow) ∧
        (1 ≤ lastValue .speed pieces → lastValue .fps pieces < 1 →
          Settings.ofArguments nesting files arguments =
            .error .fpsTooLow) ∧
        (1 ≤ lastValue .speed pieces → 1 ≤ lastValue .fps pieces →
          Settings.ofArguments nesting files arguments = .ok {
            speed := .integer (lastValue .speed pieces)
            scale := (max 1 (lastValue .scale pieces)).toNat
            fps := .integer (lastValue .fps pieces)
            tone := .integer (lastValue .tone pieces)
            volume := Settings.defaultVolume
            layout := defaultLayout.codes
            verbose := .boolean (pieces.any Piece.isFlag) })) ∧
    ∀ earlier piece later quantity value, pieces = earlier ++ piece :: later →
      (∀ piece ∈ earlier, piece.Short) →
        piece.given? = some (quantity, value) →
          4300 < (Nat.toDigits 10 value.natAbs).length →
            parse (line before rom after) =
              .error (.usage (.notAnInteger quantity.switch (decimal value))) := by
  intro pieces
  constructor
  · intro short
    let arguments : Arguments :=
      { pieces.foldl Piece.change defaults with rom := rom }
    have known : ∀ quantity,
        Quantity.of arguments quantity = some (lastValue quantity pieces) := by
      intro quantity
      rw [← of_pieces]
      cases quantity <;> rfl
    have noFile : arguments.keymap = none := keymap_foldl_change pieces defaults
    have flag : arguments.verbose = pieces.any Piece.isFlag := by
      have folded := verbose_foldl_change pieces defaults
      rwa [defaults, Bool.false_or] at folded
    refine ⟨arguments, parse_of_short undashed short, rfl, ?_⟩
    rw [@ofArguments_of_integers nesting files arguments
      (fun quantity => lastValue quantity pieces) known noFile, flag]
    refine ⟨fun slow => if_pos slow, fun fast rare => ?_, fun fast often => ?_⟩
    · rw [if_neg (Int.not_lt.mpr fast), if_pos rare]
    · rw [if_neg (Int.not_lt.mpr fast), if_neg (Int.not_lt.mpr often)]
  · intro earlier piece later quantity value parted short given long
    exact parse_of_long undashed parted short given long

/-- A turnstile whose ROM name stands between its options.  The first speed does
not count, the tone is below zero, and the scale is lifted to one. -/
theorem settings_of_line_turnstile :
    let before : List Piece := [.apart .tone (-440), .joined .speed 3, .letter]
    let after : List Piece := [.joined .scale (-7), .apart .speed 12]
    line before "roms/pong" after =
        ["--tone", "-440", "--speed=3", "-v", "roms/pong", "--scale=-7",
          "--speed", "12"] ∧
      ∃ arguments, parse (line before "roms/pong" after) = .ok arguments ∧
        arguments.rom = "roms/pong" ∧
        Settings.ofArguments 0 (fun _ => .error .missing) arguments = .ok {
          speed := .integer 12
          scale := 1
          fps := .integer 60
          tone := .integer (-440)
          volume := Settings.defaultVolume
          layout := defaultLayout.codes
          verbose := .boolean true } := by
  intro before after
  have short : ∀ piece ∈ before ++ after, piece.Short := by
    intro piece member quantity value given
    have small : ∀ setting ∈ (before ++ after).filterMap Piece.given?,
        (Nat.toDigits 10 setting.2.natAbs).length ≤ 4300 := by
      decide
    exact small (quantity, value) (List.mem_filterMap.mpr ⟨piece, member, given⟩)
  obtain ⟨read, -⟩ := @settings_of_line 0 (fun _ => .error .missing) before
    after "roms/pong" (by decide)
  obtain ⟨arguments, parsed, named, -, -, settled⟩ := read short
  exact ⟨by decide +kernel, arguments, parsed, named,
    settled (by decide) (by decide)⟩

theorem lt_length_toDigits_pow {count : Nat} (positive : 0 < count) :
    count < (Nat.toDigits 10 (Nat.pow 10 count)).length := by
  rw [← Nat.not_le, Nat.length_toDigits_le_iff (by decide) positive]
  exact Nat.lt_irrefl _

/-- A ledger whose first number has 4301 digits.  The line is refused, although
the number does not count and the one that does is the usual speed. -/
theorem line_refused_ledger :
    let zeros := 4300
    let number : Int := Nat.pow 10 zeros
    let after : List Piece := [.apart .speed number, .apart .speed 10]
    lastValue .speed after = 10 ∧
      parse (line [] "game" after) =
        .error (.usage (.notAnInteger .speed (decimal number))) := by
  intro zeros number after
  have limit : zeros = 4300 := rfl
  -- from here on nothing may write the number out
  clear_value zeros
  have long : 4300 < (Nat.toDigits 10 number.natAbs).length := by
    rw [Int.natAbs_natCast, ← limit]
    exact lt_length_toDigits_pow (by omega)
  have undashed : (Text.ofString "game").symbols.head? ≠ some (.character '-') := by
    decide
  exact ⟨rfl, @parse_of_long [] after "game" undashed [] [.apart .speed 10]
    (.apart .speed number) .speed number rfl (List.forall_mem_nil _) rfl long⟩

end Chip8.CommandLine
