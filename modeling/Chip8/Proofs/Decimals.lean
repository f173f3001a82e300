import Mathlib.Data.Nat.Digits.Defs
import Chip8.Proofs.Numerals

/-!
# Integers written in decimal

An integer that is written in decimal is read again, if it does not have too many
digits.

* `digits_toDigits` spells the decimal digits of a number in the grammar of
  numerals, with their number and their value;
* `toList_toString` is how an integer is written, and `strip_toString` says that no
  blank is around it;
* `read_toString_eq_ok_iff` follows.
-/

namespace Chip8.Text.Numeral

theorem standsFor_digitChar {digit : Nat} (small : digit < 10) :
    StandsFor digit.digitChar digit := by
  have code := Nat.toNat_digitChar_of_lt_ten small
  refine .decimal ?_
  rw [decimalDigit?_of_ascii (by omega), code, if_pos (by omega),
    Nat.add_sub_cancel_left]

variable {base : Nat} {text : List Char} {values : List Nat}

/-- A digit may be put behind others. -/
theorem Digits.concat
    (digits : Digits base text values) {character : Char} {value : Nat}
    (stands : StandsFor character value) (small : value < base) :
    Digits base (text ++ [character]) (values ++ [value]) := by
  induction digits with
  | last firstStands firstSmall =>
      exact .next firstStands firstSmall (.last stands small)
  | next firstStands firstSmall _ inductionHypothesis =>
      exact .next firstStands firstSmall inductionHypothesis
  | apart firstStands firstSmall _ inductionHypothesis =>
      exact .apart firstStands firstSmall inductionHypothesis

theorem Digits.unique
    (digits : Digits base text values) {others : List Nat}
    (also : Digits base text others) : values = others := by
  obtain ⟨-, -, same⟩ := digits.isSeparated
  obtain ⟨-, -, alsoSame⟩ := also.isSeparated
  rw [← same, ← alsoSame]

/-- The decimal digits of a number are as many digits of the grammar, which denote
that number. -/
theorem digits_toDigits (number : Nat) :
    ∃ values, Digits 10 (Nat.toDigits 10 number) values ∧
      values.length = (Nat.toDigits 10 number).length ∧
      Nat.ofDigits 10 values.reverse = number := by
  induction number using Nat.strong_induction_on with
  | _ number inductionHypothesis =>
      by_cases small : number < 10
      · rw [Nat.toDigits_of_lt_base small]
        exact ⟨[number], .last (standsFor_digitChar small) small, rfl,
          Nat.ofDigits_singleton⟩
      · obtain ⟨values, digits, counted, denoted⟩ :=
          inductionHypothesis (number / 10) (by omega)
        have last : number % 10 < 10 := Nat.mod_lt number (by decide)
        rw [Nat.toDigits_of_base_le (by decide) (by omega)]
        refine ⟨values ++ [number % 10],
          digits.concat (standsFor_digitChar last) last, ?_, ?_⟩
        · rw [List.length_append, List.length_append, counted]
          rfl
        · rw [List.reverse_append, List.reverse_singleton, List.singleton_append,
            Nat.ofDigits_cons, denoted]
          exact Nat.mod_add_div number 10

/-- The decimal digits of a number are read as that number, if they are not too
many. -/
theorem readUnsigned_toDigits_eq_ok_iff {number size : Nat} :
    readUnsigned .plain (simplify (Nat.toDigits 10 number)) = .ok size ↔
      size = number ∧ (Nat.toDigits 10 number).length ≤ digitLimit := by
  obtain ⟨values, digits, counted, denoted⟩ := digits_toDigits number
  rw [readUnsigned, readDigits_eq_ok_iff]
  constructor
  · rintro ⟨others, also, short, -, rfl⟩
    rw [← digits.unique also] at short ⊢
    exact ⟨denoted, counted ▸ short rfl⟩
  · rintro ⟨rfl, short⟩
    exact ⟨values, digits, fun _ => counted ▸ short, fun never => by contradiction,
      denoted.symm⟩

/-! ## Signs -/

/-- A negative integer is written as a dash and its size, any other one as its
size. -/
theorem toList_toString (value : Int) :
    (toString value).toList =
      if 0 ≤ value then Nat.toDigits 10 value.natAbs
      else '-' :: Nat.toDigits 10 value.natAbs := by
  rw [Int.toString_eq_repr, Int.repr_eq_if]
  split
  · next nonnegative =>
      have same : value.toNat = value.natAbs := by omega
      rw [Nat.toList_repr, same]
  · next negative =>
      have same : (-value).toNat = value.natAbs := by omega
      rw [String.toList_append, Nat.toList_repr, same]
      rfl

/-- Without a sign, decimal digits have none split off. -/
theorem splitSign_toDigits (number : Nat) :
    splitSign (simplify (Nat.toDigits 10 number)) =
      (false, simplify (Nat.toDigits 10 number)) := by
  obtain ⟨values, digits, -⟩ := digits_toDigits number
  obtain ⟨first, _, rest, _, starts, -, stands, -⟩ := digits.exists_first
  rw [starts]
  exact splitSign_of_standsFor stands rest

theorem isPart_toString (value : Int) :
    ∀ character ∈ (toString value).toList, IsPart character := by
  obtain ⟨values, digits, -⟩ := digits_toDigits value.natAbs
  rw [toList_toString]
  split
  · exact digits.isPart
  · exact List.forall_mem_cons.mpr ⟨.inl (by decide), digits.isPart⟩

/-- Nothing is stripped off an integer that is written in decimal. -/
theorem strip_toString (value : Int) :
    strip (simplify (toString value).toList) =
      simplify (toString value).toList := by
  have visible : ∀ character ∈ simplify (toString value).toList,
      isBlank character = false := by
    simp only [simplify, List.forall_mem_map, isBlank_simplified]
    exact fun character member => (isPart_toString value character member).visible.1
  have something : simplify (toString value).toList ≠ [] := by
    rw [simplify, ne_eq, List.map_eq_nil_iff, toList_toString]
    split
    · exact Nat.toDigits_ne_nil
    · exact List.cons_ne_nil _ _
  have stripped :=
    @strip_append _ [] [] (List.forall_mem_nil _) visible something
  rwa [List.nil_append, List.append_nil] at stripped

/-- An integer that is written in decimal is read as itself, if it does not have
too many digits, and is not read otherwise. -/
theorem read_toString_eq_ok_iff {value result : Int} :
    Numeral.read .plain (toString value) = .ok result ↔
      result = value ∧
        (Nat.toDigits 10 value.natAbs).length ≤ digitLimit := by
  rw [read_eq, strip_toString, readSigned_eq_ok_iff, signed_iff, toList_toString]
  split
  · next nonnegative =>
      simp only [splitSign_toDigits, readUnsigned_toDigits_eq_ok_iff,
        Bool.false_eq_true, if_false]
      constructor
      · rintro ⟨size, ⟨rfl, short⟩, rfl⟩
        exact ⟨by omega, short⟩
      · rintro ⟨rfl, short⟩
        exact ⟨_, ⟨rfl, short⟩, by omega⟩
  · next negative =>
      have sign : splitSign (simplify ('-' :: Nat.toDigits 10 value.natAbs)) =
          (true, simplify (Nat.toDigits 10 value.natAbs)) := rfl
      simp only [sign, readUnsigned_toDigits_eq_ok_iff, if_true]
      constructor
      · rintro ⟨size, ⟨rfl, short⟩, rfl⟩
        exact ⟨by omega, short⟩
      · rintro ⟨rfl, short⟩
        exact ⟨_, ⟨rfl, short⟩, by omega⟩

end Chip8.Text.Numeral
