import Chip8.Host

/-!
# Scripts of host events

A script plays the part of a keyboard: every line is one turn of the main loop
and holds words with blanks between them.

* `+name` presses a host key and `-name` releases it.
* `quit` closes the window.
* `interrupt` breaks the turn off.
* Any other word is an event of no interest.
-/

namespace Chip8.Script

/-- The word that breaks a turn off. -/
def interruptWord : String := "interrupt"

/-- The word that closes the window. -/
def quitWord : String := "quit"

/-- The host event that a word stands for. -/
def eventOfWord (word : String) : HostEvent :=
  if word = quitWord then .quit
  else
    match word.toList with
    | '+' :: name => .keyDown (String.ofList name)
    | '-' :: name => .keyUp (String.ofList name)
    | _ => .other

/-- The words of a line. -/
def words (line : String) : List String :=
  (line.splitOn " ").filter (· ≠ "")

/-- The turn that a line stands for. -/
def batchOfLine (line : String) : Batch :=
  if interruptWord ∈ words line then .interruption
  else .events ((words line).map eventOfWord)

/-- The turns of a script, one for every line. -/
def batches (script : String) : List Batch :=
  let lines := script.splitOn "\n"
  let complete := if lines.getLast? = some "" then lines.dropLast else lines
  complete.map batchOfLine

end Chip8.Script
