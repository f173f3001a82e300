import Chip8.Datum

/-!
# Equality of values

Two values of documents are equal if they are of one kind and equal in it: the
integer `2` is not the binary fraction `2.0`, and the order of items and entries
counts.  Equality is decided along the first value.
-/

namespace Chip8.Datum

mutual

/-- Decide whether two values are equal. -/
def decideEq : (left right : Datum) → Decidable (left = right)
  | .null, right =>
      match right with
      | .null => .isTrue rfl
      | .boolean _ | .integer _ | .real _ | .string _ | .list _ | .record _ =>
          .isFalse nofun
  | .boolean value, right =>
      match right with
      | .boolean other => decidable_of_iff (value = other) (by simp)
      | .null | .integer _ | .real _ | .string _ | .list _ | .record _ =>
          .isFalse nofun
  | .integer value, right =>
      match right with
      | .integer other => decidable_of_iff (value = other) (by simp)
      | .null | .boolean _ | .real _ | .string _ | .list _ | .record _ =>
          .isFalse nofun
  | .real value, right =>
      match right with
      | .real other => decidable_of_iff (value = other) (by simp)
      | .null | .boolean _ | .integer _ | .string _ | .list _ | .record _ =>
          .isFalse nofun
  | .string value, right =>
      match right with
      | .string other => decidable_of_iff (value = other) (by simp)
      | .null | .boolean _ | .integer _ | .real _ | .list _ | .record _ =>
          .isFalse nofun
  | .list items, right =>
      match right with
      | .list others =>
          have := decideItemsEq items others
          decidable_of_iff (items = others) (by simp)
      | .null | .boolean _ | .integer _ | .real _ | .string _ | .record _ =>
          .isFalse nofun
  | .record entries, right =>
      match right with
      | .record others =>
          have := decideEntriesEq entries others
          decidable_of_iff (entries = others) (by simp)
      | .null | .boolean _ | .integer _ | .real _ | .string _ | .list _ =>
          .isFalse nofun

/-- Decide whether two lists of values are equal. -/
def decideItemsEq : (left right : List Datum) → Decidable (left = right)
  | [], [] => .isTrue rfl
  | [], _ :: _ => .isFalse nofun
  | _ :: _, [] => .isFalse nofun
  | item :: rest, other :: others =>
      have := decideEq item other
      have := decideItemsEq rest others
      decidable_of_iff (item = other ∧ rest = others) (by simp)

/-- Decide whether two lists of named values are equal. -/
def decideEntriesEq :
    (left right : List (Text × Datum)) → Decidable (left = right)
  | [], [] => .isTrue rfl
  | [], _ :: _ => .isFalse nofun
  | _ :: _, [] => .isFalse nofun
  | (name, value) :: rest, (otherName, other) :: others =>
      have := decideEq value other
      have := decideEntriesEq rest others
      decidable_of_iff ((name = otherName ∧ value = other) ∧ rest = others)
        (by simp)

end

instance : DecidableEq Datum := decideEq

end Chip8.Datum
