import Chip8.Notice

/-!
# The beeper

A looping sound that the machine starts and stops.

* Without a mixer there is no sound, and every call is ignored.
* A mixer without a wave to play is an error.
* A call that asks for what is already so is ignored, so the host hears starts
  and stops in turn.
-/

namespace Chip8

/-- The state of the beeper: whether there is a sound, and whether it plays. -/
structure Beeper where
  hasSound : Bool
  isPlaying : Bool
  deriving DecidableEq, Repr

namespace Beeper

/-- A beeper without a sound. -/
def silent : Beeper := ⟨false, false⟩

/-- A beeper on an open mixer, if there is a wave for it. -/
def onMixer (mixer : Mixer) (tone volume : Datum) :
    Except WaveError Beeper × List Notice :=
  match SquareWave.build mixer.rate mixer.channels tone with
  | .ok wave =>
      (.ok ⟨true, false⟩,
        [.host (.makeSound wave), .host (.setVolume volume)])
  | .error reason => (.error reason, [])

/-- Build a beeper on a mixer, which is opened first if it is not open. -/
def install (mixer : Mixer) (tone volume : Datum) :
    Except WaveError Beeper × List Notice :=
  if mixer.isOpen then
    onMixer mixer tone volume
  else
    match mixer.refusal with
    | none =>
        let (beeper, notices) := onMixer mixer tone volume
        (beeper, .host .openMixer :: notices)
    | some reason =>
        (.ok silent, [.host .openMixer, .audioDisabled reason])

/-- Answer a call from the machine. -/
def hear (beeper : Beeper) (call : ToneCall) : Beeper × List HostCall :=
  match call with
  | .play =>
      if beeper.isPlaying || !beeper.hasSound then
        (beeper, [])
      else
        ({ beeper with isPlaying := true }, [.playSound])
  | .stop =>
      if !beeper.isPlaying || !beeper.hasSound then
        (beeper, [])
      else
        ({ beeper with isPlaying := false }, [.stopSound])

end Beeper

end Chip8
