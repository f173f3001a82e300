import Chip8.Datum.Reader
import Chip8.Files
import Chip8.Keyboard

/-!
# Key map files

A key map file is a JSON record from host key names to keypad codes.  The
entries are read in order, and the first bad one decides the error.  Names are
kept in upper case, so two names of the file may coincide; then the later entry
counts.
-/

namespace Chip8

/-- Why a key map file is refused. -/
inductive KeyFileError where
  | file (reason : FileError)
  | document (reason : DocumentError)
  | notARecord (path : Text)
  | code (reason : KeyCodeError)
  deriving DecidableEq, Repr

namespace DocumentError

/-- The text that reports the error. -/
def message : DocumentError → String
  | .notText => "the document is not UTF-8 text"
  | .malformed => "the document is not valid JSON"
  | .tooDeep => "the document is nested too deeply"
  | .numeralTooLong digits => (IntegerError.tooLong digits).message

end DocumentError

namespace KeyFileError

/-- The text that reports the error. -/
def message : KeyFileError → Text
  | .file reason => reason.message
  | .document reason => reason.message
  | .notARecord path => path ++ ": key map must be a JSON object"
  | .code reason => reason.message

end KeyFileError

namespace KeyFile

/-- Read the entries of a key map: names in upper case with their keys. -/
def readEntries :
    List (Text × Datum) → Except KeyCodeError (List (Text × Key))
  | [] => .ok []
  | (name, value) :: rest =>
      match keyOfDatum value with
      | .error reason => .error reason
      | .ok key =>
          match readEntries rest with
          | .error reason => .error reason
          | .ok entries => .ok ((Text.upper name, key) :: entries)

/-- The layout that a document at a path describes. -/
def ofDatum (path : Text) : Datum → Except KeyFileError (Entries Key)
  | .record entries =>
      match readEntries entries with
      | .ok pairs => .ok (Entries.ofPairs pairs)
      | .error reason => .error (.code reason)
  | _ => .error (.notARecord path)

/-- The layout in the key map file at a path, a document of no more than some
nesting. -/
def load (nesting : Nat) (files : FileSystem) (path : Text) :
    Except KeyFileError (Entries Key) :=
  match files.read path with
  | .error reason => .error (.file reason)
  | .ok bytes =>
      match Datum.ofBytes nesting bytes with
      | .error reason => .error (.document reason)
      | .ok document => ofDatum path document

end KeyFile

end Chip8
