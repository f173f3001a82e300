/-!
# Faults of the machine

The three ways in which a program, or the loading of one, can fail:

* a subroutine call finds all sixteen return addresses in use;
* a return finds no return address;
* a program is longer than program memory.

Every other word and every other operation of the machine succeeds.
-/

namespace Chip8

/-- The cause of a failure of the machine. -/
inductive Fault where
  | stackOverflow
  | stackUnderflow
  | programTooLarge (size capacity : Nat)
  deriving DecidableEq, Repr

namespace Fault

/-- The text that reports a fault to the user. -/
def message : Fault → String
  | .stackOverflow => "CALL with 16 return addresses already on the stack"
  | .stackUnderflow => "RET with an empty stack"
  | .programTooLarge size capacity =>
      s!"program of {size} bytes does not fit in " ++
        s!"{capacity} bytes of program memory"

end Fault

end Chip8
