import Mathlib.Data.List.TakeWhile
import Mathlib.Data.Nat.Digits.Defs
import Chip8.Datum.Integer

/-!
# The grammar of numerals

Which texts are read as integers, as a grammar that does not mention the reader.

* `StandsFor` tells the value of a digit, `Digits` spells digits of a base with
  single underscores between them, and `Unsigned` puts marks and limits on top;
* `Denotes` adds a sign and blanks around, for texts that may hold halves of
  surrogate pairs;
* `readDigits_eq_ok_iff` and `read_eq_ok_iff` follow the reader, and
  `integerOfText_eq_ok_iff` says that it reads exactly the texts of the grammar.
-/

namespace Chip8.Text.Numeral

/-! ## The grammar -/

/-- The value of a digit: a decimal digit of any script, or a letter of ASCII
from ten on. -/
inductive StandsFor : Char → Nat → Prop where
  | decimal {character : Char} {value : Nat}
      (known : decimalDigit? character = some value) :
      StandsFor character value
  | capital {character : Char}
      (letter : 'A'.toNat ≤ character.toNat ∧ character.toNat ≤ 'Z'.toNat) :
      StandsFor character (character.toNat - 'A'.toNat + 10)
  | small {character : Char}
      (letter : 'a'.toNat ≤ character.toNat ∧ character.toNat ≤ 'z'.toNat) :
      StandsFor character (character.toNat - 'a'.toNat + 10)

/-- Digits of a base, one after the other or with one underscore between
them. -/
inductive Digits (base : Nat) : List Char → List Nat → Prop where
  | last {character : Char} {value : Nat}
      (stands : StandsFor character value) (small : value < base) :
      Digits base [character] [value]
  | next {character : Char} {value : Nat} {text : List Char} {values : List Nat}
      (stands : StandsFor character value) (small : value < base)
      (rest : Digits base text values) :
      Digits base (character :: text) (value :: values)
  | apart {character : Char} {value : Nat} {text : List Char}
      {values : List Nat}
      (stands : StandsFor character value) (small : value < base)
      (rest : Digits base text values) :
      Digits base (character :: '_' :: text) (value :: values)

/-- The letters of marks and the bases that they tell. -/
def marks : List (Char × Nat) :=
  [('x', 16), ('X', 16), ('o', 8), ('O', 8), ('b', 2), ('B', 2)]

/-- A numeral without a sign.  Decimal ones have a limited number of digits, and
where a mark could stand they start with a zero only if they denote zero. -/
inductive Unsigned : NumeralStyle → List Char → Nat → Prop where
  | plain {text : List Char} {values : List Nat}
      (digits : Digits 10 text values) (short : values.length ≤ digitLimit) :
      Unsigned .plain text (Nat.ofDigits 10 values.reverse)
  | unmarked {text : List Char} {values : List Nat}
      (digits : Digits 10 text values) (short : values.length ≤ digitLimit)
      (leading : values.head? = some 0 → Nat.ofDigits 10 values.reverse = 0) :
      Unsigned .marked text (Nat.ofDigits 10 values.reverse)
  | marked {zero letter : Char} {base : Nat} {text : List Char}
      {values : List Nat}
      (first : decimalDigit? zero = some 0) (mark : (letter, base) ∈ marks)
      (digits : Digits base text values) (between : List Char)
      (single : between = [] ∨ between = ['_']) :
      Unsigned .marked (zero :: letter :: (between ++ text))
        (Nat.ofDigits base values.reverse)

/-- A numeral with or without a sign. -/
inductive Signed (style : NumeralStyle) : List Char → Int → Prop where
  | bare {text : List Char} {size : Nat} (unsigned : Unsigned style text size) :
      Signed style text size
  | plus {text : List Char} {size : Nat} (unsigned : Unsigned style text size) :
      Signed style ('+' :: text) size
  | minus {text : List Char} {size : Nat}
      (unsigned : Unsigned style text size) :
      Signed style ('-' :: text) (-size)

/-- A text is a numeral for an integer, possibly with blanks around it. -/
def Denotes (style : NumeralStyle) (text : Text) (value : Int) : Prop :=
  ∃ before numeral after : List Char,
    text.symbols = (before ++ numeral ++ after).map .character ∧
      (∀ character ∈ before ++ after, isBlank character = true) ∧
      Signed style numeral value

/-! ## Characters -/

theorem exists_zero_of_decimalDigit?
    {character : Char} {value : Nat}
    (known : decimalDigit? character = some value) :
    ∃ first ∈ zeros, value < 10 ∧ character.toNat = first + value := by
  obtain ⟨first, member, found⟩ := List.exists_of_findSome?_eq_some known
  split at found
  · next within =>
      have distance : character.toNat - first = value := Option.some.inj found
      exact ⟨first, member, by omega, by omega⟩
  · contradiction

/-- Of the characters of ASCII only the ten digits are decimal digits. -/
theorem decimalDigit?_of_ascii
    {character : Char} (ascii : character.toNat < 0x7F) :
    decimalDigit? character =
      if 0x30 ≤ character.toNat ∧ character.toNat ≤ 0x39 then
        some (character.toNat - 0x30)
      else
        none := by
  split
  · next digit =>
      have inside : 0x30 ≤ character.toNat ∧ character.toNat < 0x30 + 10 := by
        omega
      exact (List.findSome?_cons ..).trans (by rw [if_pos inside])
  · next other =>
      cases known : decimalDigit? character with
      | none => rfl
      | some value =>
          obtain ⟨first, member, small, same⟩ :=
            exists_zero_of_decimalDigit? known
          have apart : ∀ first ∈ zeros, first = 0x30 ∨ 0x7F ≤ first := by
            decide
          have := apart first member
          omega

/-- No decimal digit is a blank. -/
theorem isBlank_of_decimalDigit?
    {character : Char} {value : Nat}
    (known : decimalDigit? character = some value) :
    isBlank character = false := by
  obtain ⟨first, member, small, same⟩ := exists_zero_of_decimalDigit? known
  have clear :
      ∀ first ∈ zeros, ∀ value < 10,
        isBlank (Char.ofNat (first + value)) = false := by
    decide +kernel
  rw [← Char.ofNat_toNat character, same]
  exact clear first member value small

theorem simplified_of_ascii
    {character : Char} (ascii : character.toNat < 0x7F) :
    simplified character = character :=
  if_pos ascii

/-- Beyond ASCII a blank becomes a space, a digit its ASCII form, and everything
else stays. -/
theorem simplified_cases
    {character : Char} (beyond : ¬ character.toNat < 0x7F) :
    (isBlank character = true ∧ simplified character = ' ') ∨
      (∃ value, decimalDigit? character = some value ∧ value < 10 ∧
        simplified character = Char.ofNat (0x30 + value)) ∨
      isBlank character = false ∧ decimalDigit? character = none ∧
        simplified character = character := by
  unfold simplified
  rw [if_neg beyond]
  cases blank : isBlank character with
  | true => exact .inl ⟨rfl, rfl⟩
  | false =>
      cases known : decimalDigit? character with
      | none => exact .inr (.inr ⟨rfl, rfl, rfl⟩)
      | some value =>
          obtain ⟨-, -, small, -⟩ := exists_zero_of_decimalDigit? known
          exact .inr (.inl ⟨value, rfl, small, rfl⟩)

theorem isBlank_simplified (character : Char) :
    isBlank (simplified character) = isBlank character := by
  by_cases ascii : character.toNat < 0x7F
  · rw [simplified_of_ascii ascii]
  · rcases simplified_cases ascii with
      ⟨blank, same⟩ | ⟨value, known, small, same⟩ | ⟨-, -, same⟩
    · rw [same, blank]
      decide
    · have clear : ∀ value < 10, isBlank (Char.ofNat (0x30 + value)) = false := by
        decide
      rw [same, clear value small, isBlank_of_decimalDigit? known]
    · rw [same]

/-- In ASCII a digit has the value that it stands for. -/
theorem digitValue?_eq_some_iff_of_ascii
    {character : Char} {value : Nat} (ascii : character.toNat < 0x7F) :
    digitValue? character = some value ↔ StandsFor character value := by
  unfold digitValue?
  constructor
  · intro known
    dsimp only at known
    split at known
    · next digit =>
        refine .decimal ?_
        rw [decimalDigit?_of_ascii ascii, if_pos digit]
        exact known
    · split at known
      · next letter =>
          obtain rfl := Option.some.inj known
          exact .capital letter
      · split at known
        · next letter =>
            obtain rfl := Option.some.inj known
            exact .small letter
        · contradiction
  · intro stands
    cases stands with
    | decimal known =>
        rw [decimalDigit?_of_ascii ascii] at known
        split at known
        · next digit => exact (if_pos digit).trans known
        · contradiction
    | capital letter =>
        simp only [Char.reduceToNat] at letter ⊢
        rw [if_neg (by omega), if_pos letter]
    | small letter =>
        simp only [Char.reduceToNat] at letter ⊢
        rw [if_neg (by omega), if_neg (by omega), if_pos letter]

theorem digitValue?_of_beyond
    {character : Char} (beyond : ¬ character.toNat < 0x7F) :
    digitValue? character = none := by
  unfold digitValue?
  dsimp only
  rw [if_neg (by omega), if_neg (by omega), if_neg (by omega)]

/-- Beyond ASCII only decimal digits stand for something. -/
theorem standsFor_iff_of_beyond
    {character : Char} {value : Nat} (beyond : ¬ character.toNat < 0x7F) :
    StandsFor character value ↔ decimalDigit? character = some value := by
  refine ⟨fun stands => ?_, .decimal⟩
  cases stands with
  | decimal known => exact known
  | capital letter | small letter =>
      simp only [Char.reduceToNat] at letter
      omega

/-- The digit that a character is simplified to has the value that the character
stands for. -/
theorem digitValue?_simplified_iff {character : Char} {value : Nat} :
    digitValue? (simplified character) = some value ↔
      StandsFor character value := by
  by_cases ascii : character.toNat < 0x7F
  · rw [simplified_of_ascii ascii]
    exact digitValue?_eq_some_iff_of_ascii ascii
  · rw [standsFor_iff_of_beyond ascii]
    rcases simplified_cases ascii with
      ⟨blank, same⟩ | ⟨digit, known, small, same⟩ | ⟨-, known, same⟩
    · have noDigit : digitValue? ' ' = none := by decide
      rw [same, noDigit]
      refine iff_of_false (fun found => by contradiction) fun known => ?_
      rw [isBlank_of_decimalDigit? known] at blank
      contradiction
    · have digits : ∀ digit < 10,
          digitValue? (Char.ofNat (0x30 + digit)) = some digit := by
        decide
      rw [same, digits digit small, known]
    · rw [same, digitValue?_of_beyond ascii, known]

/-- A character that is neither a blank nor a decimal digit is what only itself is
simplified to. -/
theorem simplified_eq_iff
    {character sign : Char} (ascii : sign.toNat < 0x7F)
    (visible : isBlank sign = false) (noDigit : decimalDigit? sign = none) :
    simplified character = sign ↔ character = sign := by
  by_cases alsoAscii : character.toNat < 0x7F
  · rw [simplified_of_ascii alsoAscii]
  · have apart : character ≠ sign := by
      rintro rfl
      exact alsoAscii ascii
    refine iff_of_false ?_ apart
    rcases simplified_cases alsoAscii with
      ⟨-, same⟩ | ⟨value, known, small, same⟩ | ⟨-, -, same⟩
    · rw [same]
      rintro rfl
      exact absurd visible (by decide)
    · have digits : ∀ value < 10,
          decimalDigit? (Char.ofNat (0x30 + value)) ≠ none := by
        decide
      rw [same]
      rintro rfl
      exact digits value small noDigit
    · rw [same]
      exact apart

/-- Only a zero is simplified to the zero of ASCII. -/
theorem standsFor_zero_iff {character : Char} :
    StandsFor character 0 ↔ simplified character = '0' := by
  rw [← digitValue?_simplified_iff]
  generalize simplified character = digit
  constructor
  · intro known
    unfold digitValue? at known
    dsimp only at known
    split at known
    · next within =>
        have distance := Option.some.inj known
        have same : digit.toNat = 0x30 := by omega
        rw [← Char.ofNat_toNat digit, same]
    · split at known
      · have := Option.some.inj known
        omega
      · split at known
        · have := Option.some.inj known
          omega
        · contradiction
  · rintro rfl
    decide

theorem simplified_eq_zero_iff {character : Char} :
    simplified character = '0' ↔ decimalDigit? character = some 0 := by
  rw [← standsFor_zero_iff]
  constructor
  · intro stands
    generalize nothing : 0 = value at stands
    cases stands with
    | decimal known => exact known
    | capital letter | small letter => omega
  · exact .decimal

/-! ## Digits -/

variable {base : Nat} {text : List Char} {values : List Nat}

/-- A text with every character simplified. -/
def simplify (text : List Char) : List Char :=
  text.map simplified

/-- The values of the digits of a simplified text. -/
def digitValues (text : List Char) : List Nat :=
  (text.filter (· ≠ '_')).map fun character =>
    (digitValue? character).getD 0

/-- Whether a character belongs to a numeral of a base. -/
def belongs (base : Nat) (character : Char) : Bool :=
  character = '_' ∨ isDigit base character

theorem isDigit_simplified_iff {character : Char} :
    isDigit base (simplified character) = true ↔
      ∃ value, StandsFor character value ∧ value < base := by
  simp only [isDigit, Option.any_eq_true, digitValue?_simplified_iff,
    decide_eq_true_eq]

theorem belongs_of_standsFor
    {character : Char} {value : Nat}
    (stands : StandsFor character value) (small : value < base) :
    belongs base (simplified character) = true :=
  decide_eq_true (.inr (isDigit_simplified_iff.mpr ⟨value, stands, small⟩))

theorem exists_standsFor
    {character : Char} (member : belongs base (simplified character) = true)
    (digit : simplified character ≠ '_') :
    ∃ value, StandsFor character value ∧ value < base :=
  isDigit_simplified_iff.mp ((of_decide_eq_true member).resolve_left digit)

theorem underscore_iff {character : Char} :
    simplified character = '_' ↔ character = '_' :=
  simplified_eq_iff (by decide) (by decide) (by decide)

theorem StandsFor.ne_underscore
    {character : Char} {value : Nat} (stands : StandsFor character value) :
    simplified character ≠ '_' := by
  intro same
  have known := digitValue?_simplified_iff.mpr stands
  rw [same] at known
  exact absurd known.symm (Option.some_ne_none _)

theorem StandsFor.unique
    {character : Char} {value other : Nat} (stands : StandsFor character value)
    (also : StandsFor character other) : value = other :=
  Option.some.inj ((digitValue?_simplified_iff.mpr stands).symm.trans
    (digitValue?_simplified_iff.mpr also))

/-- A numeral starts with a digit. -/
theorem Digits.exists_first (digits : Digits base text values) :
    ∃ character value rest others, text = character :: rest ∧
      values = value :: others ∧ StandsFor character value ∧ value < base := by
  cases digits with
  | last stands small => exact ⟨_, _, _, _, rfl, rfl, stands, small⟩
  | next stands small _ => exact ⟨_, _, _, _, rfl, rfl, stands, small⟩
  | apart stands small _ => exact ⟨_, _, _, _, rfl, rfl, stands, small⟩

section Separated

variable {character next : Char} {rest : List Char}

theorem isSeparated_single (digit : character ≠ '_') :
    isSeparated [character] = true := by
  simp [isSeparated]

theorem isSeparated_apart (digit : character ≠ '_') :
    isSeparated (character :: '_' :: rest) = isSeparated rest := by
  simp [isSeparated]

theorem isSeparated_next (digit : character ≠ '_') (alsoDigit : next ≠ '_') :
    isSeparated (character :: next :: rest) = isSeparated (next :: rest) := by
  simp [isSeparated]

theorem digitValues_digit
    {value : Nat} (stands : StandsFor character value) :
    digitValues (simplified character :: rest) = value :: digitValues rest := by
  have digit := stands.ne_underscore
  have known := digitValue?_simplified_iff.mpr stands
  simp [digitValues, digit, known]

theorem digitValues_underscore :
    digitValues ('_' :: rest) = digitValues rest := by
  simp [digitValues]

end Separated

/-- What the grammar spells as digits is separated well and made of digits. -/
theorem Digits.isSeparated (digits : Digits base text values) :
    isSeparated (simplify text) = true ∧
      (∀ character ∈ simplify text, belongs base character = true) ∧
      digitValues (simplify text) = values := by
  induction digits with
  | @last character value stands small =>
      refine ⟨isSeparated_single stands.ne_underscore, ?_, ?_⟩
      · simp only [simplify, List.map_cons, List.map_nil, List.forall_mem_singleton]
        exact belongs_of_standsFor stands small
      · exact digitValues_digit stands
  | @next character value text values stands small rest inductionHypothesis =>
      obtain ⟨separated, belong, same⟩ := inductionHypothesis
      obtain ⟨first, _, tail, _, rfl, -, firstStands, -⟩ := rest.exists_first
      refine ⟨?_, List.forall_mem_cons.mpr ⟨?_, belong⟩, ?_⟩
      · exact (isSeparated_next stands.ne_underscore
          firstStands.ne_underscore).trans separated
      · exact belongs_of_standsFor stands small
      · exact (digitValues_digit stands).trans (congrArg (value :: ·) same)
  | @apart character value text values stands small rest inductionHypothesis =>
      obtain ⟨separated, belong, same⟩ := inductionHypothesis
      have underscore : simplified '_' = '_' := underscore_iff.mpr rfl
      simp only [simplify, List.map_cons, underscore] at *
      refine ⟨?_, List.forall_mem_cons.mpr
        ⟨?_, List.forall_mem_cons.mpr ⟨rfl, belong⟩⟩, ?_⟩
      · exact (isSeparated_apart stands.ne_underscore).trans separated
      · exact belongs_of_standsFor stands small
      · rw [digitValues_digit stands, digitValues_underscore, same]

/-- What is separated well and made of digits is spelled by the grammar. -/
theorem digits_of_isSeparated :
    ∀ text : List Char, Numeral.isSeparated (simplify text) = true →
      (∀ character ∈ simplify text, belongs base character = true) →
      Digits base text (digitValues (simplify text))
  | [], separated, _ => absurd separated (by decide)
  | [character], separated, belong => by
      have digit : simplified character ≠ '_' := by
        intro same
        simp [simplify, same, Numeral.isSeparated] at separated
      obtain ⟨value, stands, small⟩ :=
        exists_standsFor (belong _ (List.mem_singleton_self _)) digit
      simp only [simplify, List.map_cons, List.map_nil, digitValues_digit stands]
      exact .last stands small
  | character :: next :: rest, separated, belong => by
      have digit : simplified character ≠ '_' := by
        intro same
        simp [simplify, same, Numeral.isSeparated] at separated
      obtain ⟨first, others⟩ := List.forall_mem_cons.mp belong
      obtain ⟨value, stands, small⟩ := exists_standsFor first digit
      simp only [simplify, List.map_cons] at *
      rw [digitValues_digit stands]
      by_cases between : simplified next = '_'
      · obtain rfl := underscore_iff.mp between
        rw [between] at separated others ⊢
        rw [isSeparated_apart digit] at separated
        rw [digitValues_underscore]
        exact .apart stands small (digits_of_isSeparated rest separated
          (List.forall_mem_cons.mp others).2)
      · rw [isSeparated_next digit between] at separated
        exact .next stands small
          (digits_of_isSeparated (next :: rest) separated others)

/-! ## Reading -/

/-- The number that digits denote is their value in positional notation. -/
theorem magnitude_eq (text : List Char) :
    magnitude base (text.filter (· ≠ '_')) =
      Nat.ofDigits base (digitValues text).reverse := by
  rw [Nat.ofDigits_eq_foldr, List.foldr_reverse, digitValues, List.foldl_map]
  refine congrArg (List.foldl · 0 _) ?_
  funext total character
  rw [Nat.add_comm, Nat.mul_comm]
  rfl

/-- Digits are read if they are separated well, belong to the base, are not too
many and denote zero where that is asked for. -/
theorem readDigits_eq
    (base : Nat) (zeroOnly : Bool) (text : List Char) (size : Nat) :
    readDigits base zeroOnly text = .ok size ↔
      isSeparated text = true ∧
        (∀ character ∈ text, belongs base character = true) ∧
        (base = 10 → (digitValues text).length ≤ digitLimit) ∧
        (zeroOnly = true → size = 0) ∧
        size = Nat.ofDigits base (digitValues text).reverse := by
  have sameTest :
      (fun character => decide (character = '_' ∨ isDigit base character)) =
        belongs base := rfl
  unfold readDigits
  simp only [sameTest, ← List.dropWhile_eq_nil_iff]
  by_cases whole : text.dropWhile (belongs base) = []
  · have taken : text.takeWhile (belongs base) = text :=
      List.takeWhile_eq_self_iff.mpr (List.dropWhile_eq_nil_iff.mp whole)
    have counted :
        (text.filter (· ≠ '_')).length = (digitValues text).length :=
      (List.length_map ..).symm
    rw [taken, magnitude_eq, counted]
    grind
  · grind

/-- The reader of digits accepts what the grammar spells as digits. -/
theorem readDigits_eq_ok_iff {zeroOnly : Bool} {size : Nat} :
    readDigits base zeroOnly (simplify text) = .ok size ↔
      ∃ values, Digits base text values ∧
        (base = 10 → values.length ≤ digitLimit) ∧
        (zeroOnly = true → size = 0) ∧
        size = Nat.ofDigits base values.reverse := by
  rw [readDigits_eq]
  constructor
  · rintro ⟨separated, belong, short, zero, denoted⟩
    exact ⟨_, digits_of_isSeparated text separated belong, short, zero, denoted⟩
  · rintro ⟨values, digits, short, zero, denoted⟩
    obtain ⟨separated, belong, rfl⟩ := digits.isSeparated
    exact ⟨separated, belong, short, zero, denoted⟩

/-! ## Marks -/

/-- Read a numeral without a sign. -/
def readUnsigned (style : NumeralStyle) (text : List Char) :
    Except NumeralError Nat :=
  match style with
  | .plain => readDigits 10 false text
  | .marked =>
      let mark := splitMark text
      readDigits mark.1 mark.2.1 mark.2.2

theorem splitMark_of_mark
    {letter : Char} (mark : (letter, base) ∈ marks) (rest : List Char) :
    splitMark ('0' :: letter :: rest) = (base, false, afterUnderscore rest) := by
  simp only [marks, List.mem_cons, Prod.mk.injEq, List.not_mem_nil,
    or_false] at mark
  rcases mark with ⟨rfl, rfl⟩ | ⟨rfl, rfl⟩ | ⟨rfl, rfl⟩ | ⟨rfl, rfl⟩ |
    ⟨rfl, rfl⟩ | ⟨rfl, rfl⟩ <;> rfl

/-- The mark of a simplified text is a zero and a letter that tells the base.
Without a mark the text is decimal, and may only denote zero if it starts with
one. -/
theorem splitMark_cases (text : List Char) :
    (∃ letter base rest, (letter, base) ∈ marks ∧
        text = '0' :: letter :: rest ∧
        splitMark text = (base, false, afterUnderscore rest)) ∨
      (∃ rest, text = '0' :: rest ∧ splitMark text = (10, true, text)) ∨
      (∀ rest, text ≠ '0' :: rest) ∧ splitMark text = (10, false, text) := by
  unfold splitMark
  split
  · exact .inl ⟨'x', 16, _, by decide, rfl, rfl⟩
  · exact .inl ⟨'X', 16, _, by decide, rfl, rfl⟩
  · exact .inl ⟨'o', 8, _, by decide, rfl, rfl⟩
  · exact .inl ⟨'O', 8, _, by decide, rfl, rfl⟩
  · exact .inl ⟨'b', 2, _, by decide, rfl, rfl⟩
  · exact .inl ⟨'B', 2, _, by decide, rfl, rfl⟩
  · exact .inr (.inl ⟨_, rfl, rfl⟩)
  · next other => exact .inr (.inr ⟨fun rest same => other rest same, rfl⟩)

theorem simplified_letter
    {character letter : Char} (mark : (letter, base) ∈ marks) :
    simplified character = letter ↔ character = letter := by
  have plain : ∀ entry ∈ marks, entry.1.toNat < 0x7F ∧
      isBlank entry.1 = false ∧ decimalDigit? entry.1 = none := by
    decide
  obtain ⟨ascii, visible, noDigit⟩ := plain _ mark
  exact simplified_eq_iff ascii visible noDigit

/-- The part of a text that an underscore at its start leaves. -/
theorem afterUnderscore_cases (text : List Char) :
    ∃ between rest, text = between ++ rest ∧
      (between = [] ∨ between = ['_']) ∧
      afterUnderscore (simplify text) = simplify rest := by
  unfold afterUnderscore
  split
  · next tail same =>
      obtain ⟨first, rest, rfl, underscore, rfl⟩ := List.map_eq_cons_iff.mp same
      obtain rfl := underscore_iff.mp underscore
      exact ⟨['_'], rest, rfl, .inr rfl, rfl⟩
  · exact ⟨[], text, rfl, .inl rfl, rfl⟩

theorem afterUnderscore_digits
    {between : List Char} (single : between = [] ∨ between = ['_'])
    (digits : Digits base text values) :
    afterUnderscore (simplify (between ++ text)) = simplify text := by
  rcases single with rfl | rfl
  · obtain ⟨first, _, rest, _, rfl, -, stands, -⟩ := digits.exists_first
    have digit := stands.ne_underscore
    rw [List.nil_append, simplify, List.map_cons]
    unfold afterUnderscore
    split
    · next same => exact absurd (List.cons.inj same).1 digit
    · rfl
  · have underscore : simplified '_' = '_' := underscore_iff.mpr rfl
    rw [List.singleton_append, simplify, List.map_cons, underscore]
    rfl

/-- Without a mark, digits are decimal and denote zero if they start with one. -/
theorem readUnsigned_of_digits
    (digits : Digits 10 text values) (short : values.length ≤ digitLimit)
    (leading : values.head? = some 0 → Nat.ofDigits 10 values.reverse = 0) :
    readUnsigned .marked (simplify text) =
      .ok (Nat.ofDigits 10 values.reverse) := by
  obtain ⟨-, belong, -⟩ := digits.isSeparated
  rw [readUnsigned]
  rcases splitMark_cases (simplify text) with
    ⟨letter, base, tail, mark, same, -⟩ | ⟨tail, same, split⟩ | ⟨-, split⟩
  · have foreign : ∀ entry ∈ marks, belongs 10 entry.1 = false := by
      decide
    rw [same] at belong
    have member := belong letter (by simp)
    rw [foreign _ mark] at member
    contradiction
  · rw [split]
    refine readDigits_eq_ok_iff.mpr
      ⟨values, digits, fun _ => short, fun _ => leading ?_, rfl⟩
    obtain ⟨first, value, rest, _, rfl, rfl, stands, -⟩ := digits.exists_first
    have zero := standsFor_zero_iff.mpr (List.cons.inj same).1
    rw [stands.unique zero]
    rfl
  · rw [split]
    exact readDigits_eq_ok_iff.mpr
      ⟨values, digits, fun _ => short, fun never => by contradiction, rfl⟩

/-- With a mark, digits belong to the base of the mark. -/
theorem readUnsigned_of_mark
    {zero letter : Char} (first : decimalDigit? zero = some 0)
    (mark : (letter, base) ∈ marks) (digits : Digits base text values)
    {between : List Char} (single : between = [] ∨ between = ['_']) :
    readUnsigned .marked (simplify (zero :: letter :: (between ++ text))) =
      .ok (Nat.ofDigits base values.reverse) := by
  have notTen : ∀ entry ∈ marks, entry.2 ≠ 10 := by decide
  have marked :
      simplify (zero :: letter :: (between ++ text)) =
        '0' :: letter :: simplify (between ++ text) :=
    congrArg₂ (· :: · :: _) (simplified_eq_zero_iff.mpr first)
      ((simplified_letter mark).mpr rfl)
  rw [readUnsigned, marked, splitMark_of_mark mark,
    afterUnderscore_digits single digits]
  exact readDigits_eq_ok_iff.mpr
    ⟨values, digits, fun ten => absurd ten (notTen _ mark),
      fun never => by contradiction, rfl⟩

/-- What is read where a mark could stand is spelled by the grammar. -/
theorem unsigned_of_readUnsigned {size : Nat}
    (read : readUnsigned .marked (simplify text) = .ok size) :
    Unsigned .marked text size := by
  rw [readUnsigned] at read
  rcases splitMark_cases (simplify text) with
    ⟨letter, base, tail, mark, same, split⟩ | ⟨tail, same, split⟩ |
      ⟨noZero, split⟩
  · rw [split] at read
    obtain ⟨zero, others, rfl, first, sameTail⟩ := List.map_eq_cons_iff.mp same
    obtain ⟨second, rest, rfl, isLetter, rfl⟩ := List.map_eq_cons_iff.mp sameTail
    obtain rfl := (simplified_letter mark).mp isLetter
    obtain ⟨between, body, rfl, single, after⟩ := afterUnderscore_cases rest
    change readDigits base false (afterUnderscore (simplify _)) = _ at read
    rw [after, readDigits_eq_ok_iff] at read
    obtain ⟨values, digits, -, -, rfl⟩ := read
    exact .marked (simplified_eq_zero_iff.mp first) mark digits between single
  · rw [split] at read
    obtain ⟨values, digits, short, zero, rfl⟩ := readDigits_eq_ok_iff.mp read
    exact .unmarked digits (short rfl) fun _ => zero rfl
  · rw [split] at read
    obtain ⟨values, digits, short, -, rfl⟩ := readDigits_eq_ok_iff.mp read
    -- a leading zero of any script would have been simplified to one of ASCII
    refine .unmarked digits (short rfl) fun leading => ?_
    obtain ⟨first, _, rest, _, rfl, rfl, stands, -⟩ := digits.exists_first
    obtain rfl := Option.some.inj leading
    have zero := standsFor_zero_iff.mp stands
    rw [simplify, List.map_cons, zero] at noZero
    exact absurd rfl (noZero _)

/-- Numerals without a sign are read as the grammar spells them. -/
theorem readUnsigned_eq_ok_iff {style : NumeralStyle} {size : Nat} :
    readUnsigned style (simplify text) = .ok size ↔
      Unsigned style text size := by
  cases style with
  | plain =>
      rw [readUnsigned, readDigits_eq_ok_iff]
      constructor
      · rintro ⟨values, digits, short, -, rfl⟩
        exact .plain digits (short rfl)
      · rintro ⟨digits, short⟩
        exact ⟨_, digits, fun _ => short, fun never => by contradiction, rfl⟩
  | marked =>
      refine ⟨unsigned_of_readUnsigned, fun unsigned => ?_⟩
      cases unsigned with
      | unmarked digits short leading =>
          exact readUnsigned_of_digits digits short leading
      | marked first mark digits between single =>
          exact readUnsigned_of_mark first mark digits single

/-! ## Signs and blanks -/

variable {style : NumeralStyle}

theorem Unsigned.exists_first {size : Nat} (unsigned : Unsigned style text size) :
    ∃ character value rest, text = character :: rest ∧
      StandsFor character value := by
  cases unsigned with
  | plain digits _ | unmarked digits _ _ =>
      obtain ⟨character, value, rest, -, same, -, stands, -⟩ :=
        digits.exists_first
      exact ⟨character, value, rest, same, stands⟩
  | marked first _ _ _ _ => exact ⟨_, 0, _, rfl, .decimal first⟩

/-- A character that may stand in a numeral. -/
def IsPart (character : Char) : Prop :=
  character ∈ ['_', '+', '-'] ∨ ∃ value, StandsFor character value

theorem Digits.isPart (digits : Digits base text values) :
    ∀ character ∈ text, IsPart character := by
  intro character member
  obtain ⟨-, belong, -⟩ := digits.isSeparated
  by_cases digit : simplified character = '_'
  · obtain rfl := underscore_iff.mp digit
    exact .inl (by decide)
  · obtain ⟨value, stands, -⟩ :=
      exists_standsFor (belong _ (List.mem_map_of_mem member)) digit
    exact .inr ⟨value, stands⟩

theorem isPart_of_mark {letter : Char} (mark : (letter, base) ∈ marks) :
    IsPart letter := by
  have letters : ∀ entry ∈ marks, digitValue? entry.1 ≠ none := by decide
  obtain ⟨value, known⟩ := Option.ne_none_iff_exists'.mp (letters _ mark)
  rw [← (simplified_letter mark).mpr rfl] at known
  exact .inr ⟨value, digitValue?_simplified_iff.mp known⟩

theorem Unsigned.isPart {size : Nat} (unsigned : Unsigned style text size) :
    ∀ character ∈ text, IsPart character := by
  cases unsigned with
  | plain digits _ | unmarked digits _ _ => exact digits.isPart
  | marked first mark digits between single =>
      refine List.forall_mem_cons.mpr ⟨.inr ⟨0, .decimal first⟩,
        List.forall_mem_cons.mpr ⟨isPart_of_mark mark,
          List.forall_mem_append.mpr ⟨?_, digits.isPart⟩⟩⟩
      rcases single with rfl | rfl
      · exact fun _ member => absurd member List.not_mem_nil
      · exact List.forall_mem_singleton.mpr (.inl (by decide))

/-- A numeral is made of digits, underscores and a sign. -/
theorem Signed.isPart {value : Int} (signed : Signed style text value) :
    ∀ character ∈ text, IsPart character := by
  cases signed with
  | bare unsigned => exact unsigned.isPart
  | plus unsigned | minus unsigned =>
      exact List.forall_mem_cons.mpr ⟨.inl (by decide), unsigned.isPart⟩

theorem Signed.ne_nil {value : Int} (signed : Signed style text value) :
    text ≠ [] := by
  cases signed with
  | bare unsigned =>
      obtain ⟨character, _, rest, same, -⟩ := unsigned.exists_first
      rw [same]
      exact List.cons_ne_nil character rest
  | plus _ | minus _ => exact List.cons_ne_nil _ _

/-- No part of a numeral is a blank, and none replaces a half. -/
theorem IsPart.visible {character : Char} (part : IsPart character) :
    isBlank character = false ∧ character ≠ Char.ofNat 0xFFFD := by
  rcases part with sign | ⟨value, stands⟩
  · simp only [List.mem_cons, List.not_mem_nil, or_false] at sign
    rcases sign with rfl | rfl | rfl
    · exact ⟨by decide, by decide⟩
    · exact ⟨by decide, by decide⟩
    · exact ⟨by decide, by decide⟩
  · have letter {low high : Nat} (first : 0x41 ≤ low) (last : high ≤ 0x7A)
        (within : low ≤ character.toNat ∧ character.toNat ≤ high) :
        isBlank character = false ∧ character ≠ Char.ofNat 0xFFFD := by
      constructor
      · simp only [isBlank, decide_eq_false_iff_not]
        omega
      · rintro rfl
        simp only [Char.reduceToNat] at within
        omega
    cases stands with
    | decimal known =>
        refine ⟨isBlank_of_decimalDigit? known, ?_⟩
        rintro rfl
        have unlisted : decimalDigit? (Char.ofNat 0xFFFD) = none := by
          decide +kernel
        rw [unlisted] at known
        contradiction
    | capital within => exact letter (by decide) (by decide) within
    | small within => exact letter (by decide) (by decide) within

/-- A sign is split off a simplified text if it starts the text itself. -/
theorem splitSign_cases (text : List Char) :
    (∃ rest, text = '-' :: rest ∧
        splitSign (simplify text) = (true, simplify rest)) ∨
      (∃ rest, text = '+' :: rest ∧
        splitSign (simplify text) = (false, simplify rest)) ∨
      splitSign (simplify text) = (false, simplify text) := by
  have minus {character : Char} :
      simplified character = '-' ↔ character = '-' :=
    simplified_eq_iff (by decide) (by decide) (by decide)
  have plus {character : Char} :
      simplified character = '+' ↔ character = '+' :=
    simplified_eq_iff (by decide) (by decide) (by decide)
  unfold splitSign
  split
  · next same =>
      obtain ⟨sign, rest, rfl, isSign, rfl⟩ := List.map_eq_cons_iff.mp same
      exact .inl ⟨rest, by rw [minus.mp isSign], rfl⟩
  · next same =>
      obtain ⟨sign, rest, rfl, isSign, rfl⟩ := List.map_eq_cons_iff.mp same
      exact .inr (.inl ⟨rest, by rw [plus.mp isSign], rfl⟩)
  · exact .inr (.inr rfl)

/-- Nothing is split off a text that starts with a digit. -/
theorem splitSign_of_standsFor
    {first : Char} {value : Nat} (stands : StandsFor first value)
    (rest : List Char) :
    splitSign (simplify (first :: rest)) = (false, simplify (first :: rest)) := by
  have known := digitValue?_simplified_iff.mpr stands
  unfold splitSign
  split
  · next same =>
      rw [(List.cons.inj same).1] at known
      exact absurd known.symm (Option.some_ne_none _)
  · next same =>
      rw [(List.cons.inj same).1] at known
      exact absurd known.symm (Option.some_ne_none _)
  · rfl

/-- A sign decides what the numeral behind it counts as. -/
theorem signed_iff {value : Int} :
    Signed style text value ↔
      ∃ size : Nat,
        readUnsigned style (splitSign (simplify text)).2 = .ok size ∧
        value =
          if (splitSign (simplify text)).1 then -(size : Int) else size := by
  constructor
  · intro signed
    cases signed with
    | bare unsigned =>
        obtain ⟨first, _, rest, rfl, stands⟩ := unsigned.exists_first
        rw [splitSign_of_standsFor stands]
        exact ⟨_, readUnsigned_eq_ok_iff.mpr unsigned, rfl⟩
    | plus unsigned | minus unsigned =>
        exact ⟨_, readUnsigned_eq_ok_iff.mpr unsigned, rfl⟩
  · rintro ⟨size, read, rfl⟩
    rcases splitSign_cases text with
      ⟨rest, rfl, split⟩ | ⟨rest, rfl, split⟩ | split
    all_goals
      rw [split] at read ⊢
      have unsigned := readUnsigned_eq_ok_iff.mp read
    · exact .minus unsigned
    · exact .plus unsigned
    · exact .bare unsigned

/-- No blank is dropped before a visible character. -/
theorem dropWhile_isBlank_append
    (visible : ∀ character ∈ text, isBlank character = false)
    (something : text ≠ []) (others : List Char) :
    (text ++ others).dropWhile isBlank = text ++ others := by
  obtain ⟨first, rest, rfl⟩ := List.exists_cons_of_ne_nil something
  exact List.dropWhile_cons_of_neg
    (by simp [visible first List.mem_cons_self])

/-- A text between blanks is what is left without them. -/
theorem strip_append
    {before after : List Char}
    (blank : ∀ character ∈ before ++ after, isBlank character = true)
    (visible : ∀ character ∈ text, isBlank character = false)
    (something : text ≠ []) :
    strip (before ++ text ++ after) = text := by
  obtain ⟨blankBefore, blankAfter⟩ := List.forall_mem_append.mp blank
  have fromEnd : ∀ character ∈ after.reverse, isBlank character = true :=
    fun character member => blankAfter _ (List.mem_reverse.mp member)
  have front := dropWhile_isBlank_append visible something after
  have back := dropWhile_isBlank_append
    (fun character member => visible character (List.mem_reverse.mp member))
    (List.reverse_ne_nil_iff.mpr something) []
  rw [List.append_nil] at back
  rw [strip, List.append_assoc, List.dropWhile_append_of_pos blankBefore, front,
    List.reverse_append, List.dropWhile_append_of_pos fromEnd, back,
    List.reverse_reverse]

/-- What is left of a text without blanks lay between blanks. -/
theorem exists_strip (text : List Char) :
    ∃ before after, text = before ++ strip text ++ after ∧
      ∀ character ∈ before ++ after, isBlank character = true := by
  let started := text.dropWhile isBlank
  refine ⟨text.takeWhile isBlank, (started.reverse.takeWhile isBlank).reverse,
    ?_, List.forall_mem_append.mpr ⟨?_, ?_⟩⟩
  · have ended : started = strip text ++
        (started.reverse.takeWhile isBlank).reverse := by
      rw [strip, ← List.reverse_append, List.takeWhile_append_dropWhile,
        List.reverse_reverse]
    rw [List.append_assoc, ← ended, List.takeWhile_append_dropWhile]
  · exact fun character member => List.mem_takeWhile_imp member
  · exact fun character member =>
      List.mem_takeWhile_imp (List.mem_reverse.mp member)

/-! ## Whole texts -/

/-- Read a numeral with or without a sign. -/
def readSigned (style : NumeralStyle) (text : List Char) :
    Except NumeralError Int :=
  match readUnsigned style (splitSign text).2 with
  | .ok size => .ok (if (splitSign text).1 then -(size : Int) else size)
  | .error reason => .error reason

theorem readSigned_eq_ok_iff {value : Int} :
    readSigned style (simplify text) = .ok value ↔ Signed style text value := by
  rw [signed_iff, readSigned]
  cases readUnsigned style (splitSign (simplify text)).2 with
  | error reason =>
      constructor
      · intro read
        contradiction
      · rintro ⟨size, read, -⟩
        contradiction
  | ok size =>
      constructor
      · intro read
        exact ⟨size, rfl, (Except.ok.inj read).symm⟩
      · rintro ⟨same, read, rfl⟩
        rw [Except.ok.inj read]

theorem read_eq (style : NumeralStyle) (string : String) :
    Numeral.read style string =
      readSigned style (strip (simplify string.toList)) := by
  cases style <;> rfl

/-- A string is read as an integer exactly if it is a numeral between blanks. -/
theorem read_eq_ok_iff {string : String} {value : Int} :
    Numeral.read style string = .ok value ↔
      ∃ before numeral after, string.toList = before ++ numeral ++ after ∧
        (∀ character ∈ before ++ after, isBlank character = true) ∧
        Signed style numeral value := by
  have blankIff {text : List Char} :
      (∀ character ∈ simplify text, isBlank character = true) ↔
        ∀ character ∈ text, isBlank character = true := by
    simp only [simplify, List.forall_mem_map, isBlank_simplified]
  rw [read_eq]
  constructor
  · intro read
    obtain ⟨front, back, parted, blank⟩ :=
      exists_strip (simplify string.toList)
    obtain ⟨rest, after, whole, restSame, rfl⟩ :=
      List.map_eq_append_iff.mp parted
    obtain ⟨before, numeral, rfl, rfl, stripped⟩ :=
      List.map_eq_append_iff.mp restSame
    rw [← stripped] at read
    rw [← List.map_append] at blank
    exact ⟨before, numeral, after, whole, blankIff.mp blank,
      readSigned_eq_ok_iff.mp read⟩
  · rintro ⟨before, numeral, after, parted, blank, signed⟩
    have visible : ∀ character ∈ simplify numeral, isBlank character = false := by
      simp only [simplify, List.forall_mem_map, isBlank_simplified]
      exact fun character member => (signed.isPart character member).visible.1
    have something : simplify numeral ≠ [] :=
      fun empty => signed.ne_nil (List.map_eq_nil_iff.mp empty)
    have blanks : ∀ character ∈ simplify before ++ simplify after,
        isBlank character = true := by
      rw [simplify, simplify, ← List.map_append]
      exact blankIff.mpr blank
    rw [parted, simplify, List.map_append, List.map_append]
    exact (congrArg _ (strip_append blanks visible something)).trans
      (readSigned_eq_ok_iff.mpr signed)

end Chip8.Text.Numeral

namespace Chip8

/-- A text whose string holds no replacement character holds no half. -/
theorem Text.symbols_eq_of_whole
    {text : Text}
    (whole : ∀ character ∈ text.replaced.toList,
      character ≠ Char.ofNat 0xFFFD) :
    text.symbols = text.replaced.toList.map .character := by
  rw [Text.replaced, String.toList_ofList] at whole ⊢
  have each : ∀ symbol ∈ text.symbols,
      Symbol.character symbol.replaced = symbol := by
    intro symbol member
    cases symbol with
    | character value => rfl
    | half offset => exact absurd rfl (whole _ (List.mem_map_of_mem member))
  rw [List.map_map]
  exact ((List.map_congr_left each).trans (List.map_id' _)).symm

open Text.Numeral in
/-- A text is read as an integer exactly if the grammar spells that integer. -/
theorem integerOfText_eq_ok_iff
    {style : Text.NumeralStyle} {text : Text} {value : Int} :
    integerOfText style text = .ok value ↔ Denotes style text value := by
  have passes : integerOfText style text = .ok value ↔
      Text.Numeral.read style text.replaced = .ok value := by
    unfold integerOfText
    split <;> simp [*]
  rw [passes, read_eq_ok_iff]
  constructor
  · rintro ⟨before, numeral, after, parted, blank, signed⟩
    refine ⟨before, numeral, after, ?_, blank, signed⟩
    obtain ⟨blankBefore, blankAfter⟩ := List.forall_mem_append.mp blank
    have blankOnly {character : Char} (isSpace : Text.isBlank character = true) :
        character ≠ Char.ofNat 0xFFFD := by
      rintro rfl
      exact absurd isSpace (by decide)
    rw [Text.symbols_eq_of_whole, parted]
    rw [parted]
    refine List.forall_mem_append.mpr ⟨List.forall_mem_append.mpr ⟨?_, ?_⟩, ?_⟩
    · exact fun character member => blankOnly (blankBefore character member)
    · exact fun character member =>
        (signed.isPart character member).visible.2
    · exact fun character member => blankOnly (blankAfter character member)
  · rintro ⟨before, numeral, after, parted, blank, signed⟩
    refine ⟨before, numeral, after, ?_, blank, signed⟩
    have same : Symbol.replaced ∘ Symbol.character = id := rfl
    simp [Text.replaced, parted, same]

end Chip8
