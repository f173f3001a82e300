import Chip8.Processor
import Chip8.Screen

/-!
# What the machine tells the outside

While it works, the machine publishes a list of events:

* the words it executes, the key waits it enters and leaves;
* the moments at which its timers count down;
* programs that were loaded and resets;
* the calls that start and stop the tone;
* the pixels that changed.

Nothing in the machine depends on who listens.
-/

namespace Chip8

/-- What the machine asks of the tone: to sound, or to be silent. -/
inductive ToneCall where
  | play
  | stop
  deriving DecidableEq, Repr

/-- Something the machine did that an observer may want to know. -/
inductive Event where
  | executing (pc : Int) (word : Nat)
  | waiting (register : Register)
  | resumed (write : RegisterWrite)
  | countedDown
  | wasReset
  | stored (size : Nat)
  | loaded (size : Nat)
  | tone (call : ToneCall)
  | pixel (change : PixelChange)
  deriving DecidableEq, Repr

/-- The calls to the tone among some events, in order. -/
def toneCalls (events : List Event) : List ToneCall :=
  events.filterMap fun
    | .tone call => some call
    | _ => none

@[simp]
theorem toneCalls_append (earlier later : List Event) :
    toneCalls (earlier ++ later) = toneCalls earlier ++ toneCalls later :=
  List.filterMap_append

@[simp]
theorem toneCalls_map_pixel (changes : List PixelChange) :
    toneCalls (changes.map .pixel) = [] := by
  simp only [toneCalls, List.filterMap_map, List.filterMap_eq_nil_iff,
    Function.comp_apply, implies_true]

/-- The pixel changes among some events, in order. -/
def pixelChanges (events : List Event) : List PixelChange :=
  events.filterMap fun
    | .pixel change => some change
    | _ => none

@[simp]
theorem pixelChanges_append (earlier later : List Event) :
    pixelChanges (earlier ++ later) =
      pixelChanges earlier ++ pixelChanges later :=
  List.filterMap_append

@[simp]
theorem pixelChanges_map_pixel (changes : List PixelChange) :
    pixelChanges (changes.map .pixel) = changes := by
  have unpacked :
      pixelChanges (changes.map .pixel) = changes.filterMap some :=
    List.filterMap_map
  rw [unpacked, List.filterMap_some]

end Chip8
