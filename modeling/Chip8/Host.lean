import Chip8.SquareWave

/-!
# The host

The calls that the emulator makes to the host's window and sound devices, and
the events that the host delivers.

Host events arrive in batches, one for each turn of the main loop.  A turn can
also be broken off from outside.
-/

namespace Chip8

/-- The two colours of the window. -/
inductive Colour where
  | off
  | on
  deriving DecidableEq, Repr

/-- The red, green and blue parts of a colour. -/
def Colour.parts : Colour → Nat × Nat × Nat
  | .off => (0, 0, 0)
  | .on => (255, 255, 255)

/-- A call to the host. -/
inductive HostCall where
  | prepareMixer (rate format channels buffer : Int)
  | start
  | quit
  | openMixer
  | makeSound (wave : SquareWave)
  | setVolume (volume : Datum)
  | startSound (loops : Int)
  | stopSound
  | openWindow (width height : Nat)
  | setCaption (text : String)
  | lock
  | fill (colour : Colour)
  | rectangle (colour : Colour) (x y width height : Nat)
  | unlock
  | flip
  | awaitFrame (fps : Datum)
  deriving DecidableEq, Repr

/-- Start the sound and repeat it without end. -/
abbrev HostCall.playSound : HostCall := .startSound (-1)

/-- Something that happened to the window or the keyboard. -/
inductive HostEvent where
  | keyDown (name : Text)
  | keyUp (name : Text)
  | quit
  | other
  deriving DecidableEq, Repr

/-- What one turn of the main loop finds: events in order, or an interruption
instead of them. -/
inductive Batch where
  | events (events : List HostEvent)
  | interruption
  deriving DecidableEq, Repr

/-- The host key that closes the window. -/
def escapeKey : Text := "escape"

/-- The host key that loads the ROM again. -/
def reloadKey : Text := "f5"

/-- The condition of the host's mixer: whether it is open, what speaks against
opening it, and how it is set. -/
structure Mixer where
  isOpen : Bool
  refusal : Option Text
  rate : Int
  channels : Int
  deriving DecidableEq, Repr

/-- The mixer after an attempt to open it. -/
def Mixer.opened (mixer : Mixer) : Mixer :=
  { mixer with isOpen := mixer.isOpen || mixer.refusal.isNone }

end Chip8
