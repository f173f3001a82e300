import Chip8.Keyboard
import Chip8.Machine
import Chip8.Notice
import Chip8.Settings

/-!
# The window

A window shows the picture of a machine and feeds it keys.

* `receiveBatch` works through one batch of host events: the escape key and a
  quit event close the window, the reload key loads the ROM again, and any other
  key goes to the keypad.
* `paint` paints a picture that is dirty, one square for every lit pixel.
* `run` is the main loop: one batch, then one frame, one painting and one wait,
  until the window is closed.  However it ends, the tone is stopped.
-/

namespace Chip8

/-- A machine with the window that shows it. -/
structure Window where
  machine : Machine
  settings : Settings
  rom : List UInt8
  keyboard : Keyboard
  isOpen : Bool

/-- Why the work of a window broke off. -/
inductive Breakdown where
  | fault (fault : Fault)
  | fractionalKey
  | interrupted
  deriving DecidableEq, Repr

/-- What an operation of a window leaves behind: the window, its notices in
order, and whether it broke off. -/
structure WindowOutcome where
  window : Window
  notices : List Notice
  result : Except Breakdown Unit

namespace WindowOutcome

/-- A success without notices. -/
def done (window : Window) : WindowOutcome :=
  ⟨window, [], .ok ()⟩

/-- What an operation of the machine leaves behind in a window. -/
def ofMachine {α : Type} (window : Window) (outcome : Outcome Fault α) :
    WindowOutcome :=
  ⟨{ window with machine := outcome.machine },
    outcome.events.map .machine,
    match outcome.result with
    | .ok _ => .ok ()
    | .error fault => .error (.fault fault)⟩

/-- Do something after an operation, unless that broke off. -/
def andThen (outcome : WindowOutcome) (next : Window → WindowOutcome) :
    WindowOutcome :=
  match outcome.result with
  | .error _ => outcome
  | .ok () =>
      let later := next outcome.window
      { later with notices := outcome.notices ++ later.notices }

end WindowOutcome

namespace Window

/-- The title of the window. -/
def caption : String := "CHIPemu"

/-- A new window for a machine, if the layout has no code beyond the keypad. -/
def create (machine : Machine) (settings : Settings) (rom : List UInt8) :
    Except KeyCodeError (Window × List Notice) :=
  match Keyboard.ofEntries settings.layout with
  | .error reason => .error reason
  | .ok keyboard =>
      .ok (⟨machine, settings, rom, keyboard, false⟩, [
        .host (.openWindow (machine.screen.width * settings.scale)
          (machine.screen.height * settings.scale)),
        .host (.setCaption caption)])

/-- Ask the main loop to end. -/
def close (window : Window) : Window :=
  { window with isOpen := false }

/-! ## Host events -/

/-- Load the ROM again. -/
def reload (window : Window) : WindowOutcome :=
  let outcome := WindowOutcome.ofMachine window
    (window.machine.load window.rom)
  { outcome with notices := .reloading :: outcome.notices }

/-- The notice that a code answered a key wait, if it did. -/
def answers (code : KeyCode) :
    Except Fault (Option RegisterWrite) → List Notice
  | .ok (some write) => [.answered write.register code]
  | _ => []

/-- Tell the machine about a code.  A fraction in the place of a key breaks
off. -/
def reportCode (window : Window) (code : KeyCode) (pressed : Bool) :
    WindowOutcome :=
  match code.key? with
  | none => ⟨window, [], .error .fractionalKey⟩
  | some key =>
      let reported := window.machine.reportKey key pressed
      let outcome := WindowOutcome.ofMachine window reported
      { outcome with
        notices := outcome.notices ++ answers code reported.result }

/-- Tell the machine about a host key, if it has a code. -/
def reportKey (window : Window) (name : Text) (pressed : Bool) :
    WindowOutcome :=
  match window.keyboard.report name pressed with
  | some (code, status) => window.reportCode code status
  | none => .done window

/-- Work through one host event. -/
def receive (window : Window) (event : HostEvent) : WindowOutcome :=
  match event with
  | .quit => .done window.close
  | .other => .done window
  | .keyDown name =>
      if name = escapeKey then .done window.close
      else if name = reloadKey then window.reload
      else window.reportKey name true
  | .keyUp name =>
      if name = escapeKey then .done window.close
      else window.reportKey name false

/-- Work through host events in order, until one breaks off. -/
def receiveAll : Window → List HostEvent → WindowOutcome
  | window, [] => .done window
  | window, event :: rest =>
      (window.receive event).andThen fun next => next.receiveAll rest

/-- Work through what one turn of the main loop finds. -/
def receiveBatch (window : Window) (batch : Batch) : WindowOutcome :=
  match batch with
  | .events events => window.receiveAll events
  | .interruption => ⟨window, [], .error .interrupted⟩

/-! ## Painting -/

/-- The squares of the lit pixels in one row of the picture. -/
def squares (scale y : Nat) (row : List Bool) : List HostCall :=
  row.zipIdx.filterMap fun (lit, x) =>
    if lit then some (.rectangle .on (x * scale) (y * scale) scale scale)
    else none

/-- The calls that paint the picture. -/
def paintCalls (window : Window) : List HostCall :=
  [.lock, .fill .off] ++
    window.machine.screen.rows.zipIdx.flatMap
      (fun (row, y) => squares window.settings.scale y row) ++
    [.unlock, .flip]

/-- Paint the picture if it is dirty. -/
def paint (window : Window) : WindowOutcome :=
  if window.machine.screen.dirty then
    ⟨{ window with machine := { window.machine with
        screen := { window.machine.screen with dirty := false } } },
      window.paintCalls.map .host, .ok ()⟩
  else
    .done window

/-! ## The main loop -/

/-- One frame of the machine, one painting and one wait. -/
def frame (window : Window) : WindowOutcome :=
  (WindowOutcome.ofMachine window window.machine.frame).andThen fun ticked =>
    ticked.paint.andThen fun painted =>
      ⟨painted, [.host (.awaitFrame painted.settings.fps)], .ok ()⟩

/-- Turn by turn, work through a batch and run a frame, until the window is
closed.  After the last batch a quit event arrives. -/
def loop : Window → List Batch → WindowOutcome
  | window, [] => window.receiveBatch (.events [.quit])
  | window, batch :: rest =>
      (window.receiveBatch batch).andThen fun handled =>
        if handled.isOpen then
          handled.frame.andThen fun next => next.loop rest
        else
          .done handled

/-- The main loop, from the opening of the window to its end. -/
def run (window : Window) (batches : List Batch) : WindowOutcome :=
  let outcome := loop { window with isOpen := true } batches
  { outcome with
    window := outcome.window.close
    notices := outcome.notices ++ [.machine (.tone .stop)] }

end Window

end Chip8
