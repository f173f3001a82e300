import Chip8.Program
import Chip8.Script

/-!
# The executable

The program with files and streams around it.  Standard input is the script of
host events, and there is no sound.  Only this module reads and writes.
-/

namespace Chip8.Main

/-- The reason behind a failed attempt to read a file. -/
def problemOf : IO.Error → FileProblem
  | .noFileOrDirectory .. => .missing
  | .permissionDenied .. => .unreadable
  | .inappropriateType .. => .isDirectory
  | _ => .unreadable

/-- Read a file. -/
def readFile (path : Text) : IO (Except FileProblem (List UInt8)) := do
  try
    let bytes ← IO.FS.readBinFile path.replaced
    return .ok bytes.toList
  catch reason =>
    return .error (problemOf reason)

/-- The paths that a command line makes the program read. -/
def pathsOf (arguments : List Text) : List Text :=
  match CommandLine.parse arguments with
  | .ok asked => asked.keymap.toList ++ [normalizedPath asked.rom]
  | .error _ => []

/-- The file system that holds what was read from some paths. -/
def filesOf (found : List (Text × Except FileProblem (List UInt8))) :
    FileSystem :=
  fun path => (found.lookup path).getD (.error .missing)

/-- How many lists and records of a key map file may lie one in the other. -/
def nesting : Nat := 991

/-- What an ending leaves to say on the error stream. -/
def lastWords : Ending → Text
  | .crashed reason => reason.message ++ "\n"
  | _ => ""

/-- The exit code of an ending. -/
def codeOf : Ending → UInt32
  | .exited code => UInt32.ofNat code
  | .interrupted => 0
  | .crashed _ => 1

end Chip8.Main

open Chip8 in
/-- Run the program on the arguments of its command line. -/
def main (arguments : List String) : IO UInt32 := do
  let arguments := arguments.map Text.ofString
  let found ← (Main.pathsOf arguments).mapM fun path => do
    return (path, ← Main.readFile path)
  let script ← (← IO.getStdin).readToEnd
  let seed ← IO.rand 0 0xFFFFFFFF
  let transcript := Program.run {
    files := Main.filesOf found
    nesting := Main.nesting
    mixer := ⟨false, some "no sound device", 44100, 1⟩
    batches := Script.batches script
    random := .ofSeed seed } arguments
  IO.eprint (transcript.err ++ Main.lastWords transcript.ending).replaced
  IO.print transcript.out
  return Main.codeOf transcript.ending
