import Chip8.Entries
import Chip8.Number
import Chip8.Number.Shortest
import Chip8.Text.Quoted

/-!
# Documents

The values that a JSON document can hold, and how they are shown in messages:

* truth values as `True` and `False`, the empty value as `None`;
* numbers and texts by the rules for shortest decimals and quoted texts;
* lists in brackets and records in braces, in their own order.

Integers and binary fractions are told apart, as `2` and `2.0` are in a
document.
-/

namespace Chip8

/-- A value of a JSON document. -/
inductive Datum where
  | null
  | boolean (value : Bool)
  | integer (value : Int)
  | real (value : Binary64)
  | string (value : Text)
  | list (items : List Datum)
  | record (entries : List (Text × Datum))
  deriving Repr

namespace Datum

/-- Whether a value counts as a yes.  The empty value, false, zeros and
everything empty do not. -/
def truth : Datum → Bool
  | .null => false
  | .boolean value => value
  | .integer value => value ≠ 0
  | .real value => !value.isZero
  | .string value => !value.isEmpty
  | .list items => !items.isEmpty
  | .record entries => !entries.isEmpty

/-- The number that a value counts as.  Truth values count as one and zero. -/
def number? : Datum → Option Number
  | .boolean value => some (.integer (if value then 1 else 0))
  | .integer value => some (.integer value)
  | .real value => some (.real value)
  | _ => none

/-- The name of the kind of a value in messages. -/
def kind : Datum → String
  | .null => "NoneType"
  | .boolean _ => "bool"
  | .integer _ => "int"
  | .real _ => "float"
  | .string _ => "str"
  | .list _ => "list"
  | .record _ => "dict"

mutual

/-- A value as it is shown in a message. -/
def shown : Datum → String
  | .null => "None"
  | .boolean value => if value then "True" else "False"
  | .integer value => toString value
  | .real value => value.render
  | .string value => Text.quoted value
  | .list items => "[" ++ ", ".intercalate (shownItems items) ++ "]"
  | .record entries =>
      "\x7b" ++ ", ".intercalate (shownEntries entries) ++ "\x7d"

/-- The items of a list as they are shown. -/
def shownItems : List Datum → List String
  | [] => []
  | item :: rest => shown item :: shownItems rest

/-- The entries of a record as they are shown. -/
def shownEntries : List (Text × Datum) → List String
  | [] => []
  | (name, value) :: rest =>
      (Text.quoted name ++ ": " ++ shown value) :: shownEntries rest

end

end Datum

end Chip8
