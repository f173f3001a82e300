import Chip8.Beeper

/-!
# Observers

Who listens to the emulator, and what they make of its notices:

* a pixel hook hears every pixel change;
* a log keeps the lines from some level on;
* the tone goes to nobody, to a recorder, or to a beeper, which turns it into
  calls to the host;
* calls to the host and complaints always go through.

Observers keep a state of their own and give nothing back.
-/

namespace Chip8

/-- Where the calls to the tone go. -/
inductive ToneSink where
  | nobody
  | recorder
  | beeper (state : Beeper)
  deriving DecidableEq, Repr

/-- Everyone who listens. -/
structure Observers where
  hasHook : Bool
  logFrom : Option LogLevel
  tone : ToneSink
  deriving DecidableEq, Repr

/-- What an observer makes of a notice. -/
inductive Effect where
  | hooked (change : PixelChange)
  | toned (call : ToneCall)
  | logged (line : LogLine)
  | called (call : HostCall)
  | complained (text : String)
  deriving DecidableEq, Repr

namespace ToneSink

/-- Pass on a call to the tone. -/
def hear (sink : ToneSink) (call : ToneCall) : ToneSink × List Effect :=
  match sink with
  | .nobody => (.nobody, [])
  | .recorder => (.recorder, [.toned call])
  | .beeper state =>
      let (heard, calls) := state.hear call
      (.beeper heard, calls.map .called)

end ToneSink

namespace Observers

/-- The log line that the log keeps of a notice. -/
def keptLine (observers : Observers) (notice : Notice) : List Effect :=
  match observers.logFrom, notice.logLine? with
  | some least, some line =>
      if least.rank ≤ line.level.rank then [.logged line] else []
  | _, _ => []

/-- Pass on one notice. -/
def observe (observers : Observers) (notice : Notice) :
    Observers × List Effect :=
  match notice with
  | .machine (.tone call) =>
      let (tone, effects) := observers.tone.hear call
      ({ observers with tone := tone }, effects)
  | .machine (.pixel change) =>
      (observers, if observers.hasHook then [.hooked change] else [])
  | .host call => (observers, [.called call])
  | .complaint text => (observers, [.complained text])
  | other => (observers, observers.keptLine other)

/-- Pass on notices in order.  `done` holds the effects so far, the latest
first. -/
def observeFrom (observers : Observers) (done : List Effect) :
    List Notice → Observers × List Effect
  | [] => (observers, done.reverse)
  | notice :: rest =>
      let (next, effects) := observers.observe notice
      next.observeFrom (effects.reverseAux done) rest

/-- The effects from before come first, and nothing else depends on them. -/
theorem observeFrom_eq
    (observers : Observers) (done : List Effect) (notices : List Notice) :
    observers.observeFrom done notices =
      ((observers.observeFrom [] notices).1,
        done.reverse ++ (observers.observeFrom [] notices).2) := by
  induction notices generalizing observers done with
  | nil =>
      simp [observeFrom]
  | cons notice rest inductionHypothesis =>
      simp only [observeFrom]
      rw [inductionHypothesis _ ((observers.observe notice).2.reverseAux done),
        inductionHypothesis _ ((observers.observe notice).2.reverseAux [])]
      simp

/-- Pass on notices in order. -/
def observeAll (observers : Observers) (notices : List Notice) :
    Observers × List Effect :=
  observers.observeFrom [] notices

@[simp]
theorem observeAll_nil (observers : Observers) :
    observers.observeAll [] = (observers, []) := rfl

/-- Notices have their effects one after the other. -/
theorem observeAll_cons
    (observers : Observers) (notice : Notice) (rest : List Notice) :
    observers.observeAll (notice :: rest) =
      (((observers.observe notice).1.observeAll rest).1,
        (observers.observe notice).2 ++
          ((observers.observe notice).1.observeAll rest).2) := by
  simp only [observeAll, observeFrom]
  rw [observeFrom_eq]
  simp

/-- Observing may stop after some notices and go on from there. -/
theorem observeAll_append
    (observers : Observers) (earlier later : List Notice) :
    observers.observeAll (earlier ++ later) =
      (((observers.observeAll earlier).1.observeAll later).1,
        (observers.observeAll earlier).2 ++
          ((observers.observeAll earlier).1.observeAll later).2) := by
  induction earlier generalizing observers with
  | nil =>
      simp
  | cons notice rest inductionHypothesis =>
      simp [observeAll_cons, inductionHypothesis]

end Observers

/-! ## Sorting effects -/

namespace Effect

/-- The changes that the hook heard. -/
def hooks (effects : List Effect) : List PixelChange :=
  effects.filterMap fun
    | .hooked change => some change
    | _ => none

/-- The calls that the recorder heard. -/
def tones (effects : List Effect) : List ToneCall :=
  effects.filterMap fun
    | .toned call => some call
    | _ => none

/-- The lines that the log kept. -/
def lines (effects : List Effect) : List LogLine :=
  effects.filterMap fun
    | .logged line => some line
    | _ => none

/-- The calls that the host received. -/
def calls (effects : List Effect) : List HostCall :=
  effects.filterMap fun
    | .called call => some call
    | _ => none

@[simp]
theorem calls_append (earlier later : List Effect) :
    calls (earlier ++ later) = calls earlier ++ calls later :=
  List.filterMap_append

@[simp]
theorem calls_map_called (received : List HostCall) :
    calls (received.map .called) = received := by
  induction received with
  | nil =>
      rfl
  | cons call rest inductionHypothesis =>
      exact congrArg (call :: ·) inductionHypothesis

/-- A line of the log is no call to the host. -/
theorem calls_keptLine (observers : Observers) (notice : Notice) :
    calls (observers.keptLine notice) = [] := by
  unfold Observers.keptLine
  split
  · split <;> rfl
  · rfl

/-- The host receives what is addressed to it, and what the tone makes of its
calls. -/
theorem calls_observe (observers : Observers) (notice : Notice) :
    calls (observers.observe notice).2 =
      match notice with
      | .machine (.tone call) => calls (observers.tone.hear call).2
      | .host call => [call]
      | _ => [] := by
  cases notice with
  | machine event =>
      cases event with
      | tone call => rfl
      | pixel change =>
          simp only [Observers.observe]
          split <;> rfl
      | _ => exact calls_keptLine observers _
  | host call => rfl
  | complaint text => rfl
  | _ => exact calls_keptLine observers _

end Effect

end Chip8
