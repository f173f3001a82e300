import Chip8.Window

/-!
# The main loop

How the main loop of a window ends.

* `HostEvent.Closes` and `Batch.Closes` say what asks for the window to be
  closed, and `isOpen_receiveBatch` that nothing else closes it; what else an
  event may come to is listed in `receive_cases`;
* `Turns` says that a turn goes through, `Passes` that the turns of some batches
  do, and `Reaches` that turns lead from one window to another;
* `exists_last_batch` says that some batch of a script ends the loop, and
  `ends_of_not_turns` how it does;
* `loop_of_turns`, `loop_of_closes`, `loop_of_error` and `loop_of_frame_error`
  say what one turn does to the loop;
* the loop goes on from where turns lead (`result_loop_of_reaches`), and ends
  because a batch closes the window, because a batch breaks off or because a
  frame fails (`loop_cases`), with the result that belongs to each.
-/

namespace Chip8

/-- The event asks for the window to be closed. -/
def HostEvent.Closes : HostEvent → Prop
  | .quit => True
  | .keyDown name | .keyUp name => name = escapeKey
  | .other => False

/-- An event of the batch asks for the window to be closed. -/
def Batch.Closes : Batch → Prop
  | .events received => ∃ event ∈ received, event.Closes
  | .interruption => False

/-- What the main loop finds turn by turn. -/
def Batch.script (batches : List Batch) : List Batch :=
  batches ++ [.events [.quit]]

namespace WindowOutcome

theorem andThen_of_ok
    {outcome : WindowOutcome} (success : outcome.result = .ok ())
    (next : Window → WindowOutcome) :
    outcome.andThen next =
      { next outcome.window with
        notices := outcome.notices ++ (next outcome.window).notices } := by
  simp only [andThen, success]

theorem andThen_of_error
    {outcome : WindowOutcome} {reason : Breakdown}
    (failed : outcome.result = .error reason)
    (next : Window → WindowOutcome) :
    outcome.andThen next = outcome := by
  simp only [andThen, failed]

theorem andThen_assoc
    (outcome : WindowOutcome) (next last : Window → WindowOutcome) :
    (outcome.andThen next).andThen last =
      outcome.andThen fun window => (next window).andThen last := by
  cases ended : outcome.result with
  | error reason =>
      rw [andThen_of_error ended, andThen_of_error ended,
        andThen_of_error ended]
  | ok _ =>
      rw [andThen_of_ok ended, andThen_of_ok ended]
      cases later : (next outcome.window).result with
      | error reason =>
          simp only [andThen, later]
      | ok _ =>
          simp only [andThen, later, List.append_assoc]

theorem mem_notices_andThen
    {outcome : WindowOutcome} {next : Window → WindowOutcome} {notice : Notice}
    (member : notice ∈ (outcome.andThen next).notices) :
    notice ∈ outcome.notices ∨ notice ∈ (next outcome.window).notices := by
  cases ended : outcome.result with
  | error reason =>
      rw [andThen_of_error ended] at member
      exact .inl member
  | ok _ =>
      rw [andThen_of_ok ended] at member
      exact List.mem_append.mp member

end WindowOutcome

namespace Window

/-! ## Closing -/

theorem isOpen_reportCode
    (window : Window) (code : KeyCode) (pressed : Bool) :
    (window.reportCode code pressed).window.isOpen = window.isOpen := by
  unfold reportCode
  split <;> rfl

theorem isOpen_reportKey
    (window : Window) (name : Text) (pressed : Bool) :
    (window.reportKey name pressed).window.isOpen = window.isOpen := by
  unfold reportKey
  split
  · exact window.isOpen_reportCode _ _
  · rfl

/-- What receiving an event comes to, in every window: closing it, nothing, a
reload, or the report of a key. -/
theorem receive_cases (event : HostEvent) :
    (event.Closes ∧
        ∀ window : Window, window.receive event = .done window.close) ∨
      (¬ event.Closes ∧
        ((∀ window : Window, window.receive event = .done window) ∨
          (event = .keyDown reloadKey ∧
            ∀ window : Window, window.receive event = window.reload) ∨
          ∃ name pressed, ∀ window : Window,
            window.receive event = window.reportKey name pressed)) := by
  cases event with
  | quit => exact .inl ⟨trivial, fun _ => rfl⟩
  | other => exact .inr ⟨id, .inl fun _ => rfl⟩
  | keyDown name =>
      by_cases escape : name = escapeKey
      · exact .inl ⟨escape, fun _ => if_pos escape⟩
      · refine .inr ⟨escape, .inr ?_⟩
        by_cases again : name = reloadKey
        · refine .inl ⟨congrArg HostEvent.keyDown again, fun window => ?_⟩
          simp only [receive, if_neg escape, if_pos again]
        · refine .inr ⟨name, true, fun window => ?_⟩
          simp only [receive, if_neg escape, if_neg again]
  | keyUp name =>
      by_cases escape : name = escapeKey
      · exact .inl ⟨escape, fun _ => if_pos escape⟩
      · exact .inr ⟨escape, .inr (.inr ⟨name, false, fun _ => if_neg escape⟩)⟩

theorem isOpen_receive (window : Window) (event : HostEvent) :
    (window.receive event).window.isOpen = true ↔
      window.isOpen = true ∧ ¬ event.Closes := by
  rcases receive_cases event with ⟨closes, closed⟩ | ⟨stays, rest⟩
  · simp [closed, WindowOutcome.done, close, closes]
  · rcases rest with idle | ⟨-, reloads⟩ | ⟨name, pressed, reports⟩
    · simp [idle, WindowOutcome.done, stays]
    · simp [reloads, reload, WindowOutcome.ofMachine, stays]
    · simp [reports, isOpen_reportKey, stays]

/-- Events that do not break off are received one after the other. -/
theorem receiveAll_cons_of_ok
    {window : Window} {event : HostEvent} {rest : List HostEvent}
    (success : (window.receiveAll (event :: rest)).result = .ok ()) :
    (window.receive event).result = .ok () ∧
      ((window.receive event).window.receiveAll rest).result = .ok () := by
  rw [receiveAll] at success
  cases first : (window.receive event).result with
  | error reason =>
      rw [WindowOutcome.andThen_of_error first, first] at success
      contradiction
  | ok _ =>
      rw [WindowOutcome.andThen_of_ok first] at success
      exact ⟨rfl, success⟩

/-- Events are received in order, also in two parts. -/
theorem receiveAll_append (window : Window) (earlier later : List HostEvent) :
    window.receiveAll (earlier ++ later) =
      (window.receiveAll earlier).andThen fun next => next.receiveAll later := by
  induction earlier generalizing window with
  | nil =>
      rw [receiveAll, WindowOutcome.andThen_of_ok rfl]
      rfl
  | cons event rest inductionHypothesis =>
      simp only [List.cons_append, receiveAll, WindowOutcome.andThen_assoc,
        inductionHypothesis]

/-- Events close a window if one of them asks for it, unless they break off. -/
theorem isOpen_receiveAll
    {window : Window} {events : List HostEvent}
    (success : (window.receiveAll events).result = .ok ()) :
    (window.receiveAll events).window.isOpen = true ↔
      window.isOpen = true ∧ ∀ event ∈ events, ¬ event.Closes := by
  induction events generalizing window with
  | nil =>
      simp [receiveAll, WindowOutcome.done]
  | cons event rest inductionHypothesis =>
      obtain ⟨now, later⟩ := receiveAll_cons_of_ok success
      rw [receiveAll, WindowOutcome.andThen_of_ok now,
        inductionHypothesis later, isOpen_receive, List.forall_mem_cons,
        and_assoc]

theorem isOpen_receiveBatch
    {window : Window} {batch : Batch}
    (success : (window.receiveBatch batch).result = .ok ()) :
    (window.receiveBatch batch).window.isOpen = true ↔
      window.isOpen = true ∧ ¬ batch.Closes := by
  cases batch with
  | events events =>
      simp only [Batch.Closes, not_exists, not_and]
      exact isOpen_receiveAll success
  | interruption =>
      contradiction

/-! ## Turns -/

/-- A turn that finds a batch goes through: the batch does not close the
window, and its frame completes. -/
structure Turns (window : Window) (batch : Batch) : Prop where
  received : (window.receiveBatch batch).result = .ok ()
  stays : ¬ batch.Closes
  framed : (window.receiveBatch batch).window.machine.frame.result = .ok ()

/-- The window after a turn. -/
def afterTurn (window : Window) (batch : Batch) : Window :=
  (window.receiveBatch batch).window.frame.window

/-- Some turns go through and lead to a window and the batches after them. -/
inductive Reaches : Window → List Batch → Window → List Batch → Prop where
  | here (window : Window) (batches : List Batch) :
      Reaches window batches window batches
  | turn {window reached : Window} {batch : Batch} {rest later : List Batch} :
      window.Turns batch →
      Reaches (window.afterTurn batch) rest reached later →
      Reaches window (batch :: rest) reached later

/-- The window after some turns. -/
def afterTurns (window : Window) (batches : List Batch) : Window :=
  batches.foldl afterTurn window

/-- Turns go through for all of some batches. -/
def Passes : Window → List Batch → Prop
  | _, [] => True
  | window, batch :: rest =>
      window.Turns batch ∧ (window.afterTurn batch).Passes rest

/-- The main loop meets a batch that closes the window. -/
def ClosedBy (window : Window) (script : List Batch) : Prop :=
  ∃ reached batch rest,
    window.Reaches script reached (batch :: rest) ∧
      (reached.receiveBatch batch).result = .ok () ∧ batch.Closes

/-- The main loop meets a batch that breaks off. -/
def BrokenOff (window : Window) (script : List Batch) (reason : Breakdown) :
    Prop :=
  ∃ reached batch rest,
    window.Reaches script reached (batch :: rest) ∧
      (reached.receiveBatch batch).result = .error reason

/-- The main loop runs a frame that fails. -/
def FrameFails (window : Window) (script : List Batch) (fault : Fault) :
    Prop :=
  ∃ reached batch rest,
    window.Reaches script reached (batch :: rest) ∧
      (reached.receiveBatch batch).result = .ok () ∧ ¬ batch.Closes ∧
      (reached.receiveBatch batch).window.machine.frame.result = .error fault

variable {window reached : Window} {batch : Batch}
variable {turned script rest : List Batch}

theorem reaches_of_passes
    (passes : window.Passes turned) (rest : List Batch) :
    window.Reaches (turned ++ rest) (window.afterTurns turned) rest := by
  induction turned generalizing window with
  | nil =>
      exact .here window rest
  | cons batch later inductionHypothesis =>
      exact .turn passes.1 (inductionHypothesis passes.2)

/-- Some batch of a script does not let its turn go through. -/
theorem exists_last_batch (window : Window) (batches : List Batch) :
    ∃ turned batch rest,
      Batch.script batches = turned ++ batch :: rest ∧
        window.Passes turned ∧ ¬ (window.afterTurns turned).Turns batch := by
  induction batches generalizing window with
  | nil =>
      have quits : (Batch.events [.quit]).Closes :=
        ⟨.quit, List.mem_singleton_self _, trivial⟩
      exact ⟨[], .events [.quit], [], rfl, trivial,
        fun turn => turn.stays quits⟩
  | cons first later inductionHypothesis =>
      by_cases turn : window.Turns first
      · obtain ⟨turned, batch, rest, parted, passes, ends⟩ :=
          inductionHypothesis (window.afterTurn first)
        exact ⟨first :: turned, batch, rest, congrArg (first :: ·) parted,
          ⟨turn, passes⟩, ends⟩
      · exact ⟨[], first, Batch.script later, rfl, trivial, turn⟩

/-- A turn that does not go through breaks off, closes the window, or runs a
frame that fails. -/
theorem ends_of_not_turns (ends : ¬ window.Turns batch) :
    (∃ reason, (window.receiveBatch batch).result = .error reason) ∨
      ((window.receiveBatch batch).result = .ok () ∧ batch.Closes) ∨
      ∃ fault, (window.receiveBatch batch).result = .ok () ∧ ¬ batch.Closes ∧
        (window.receiveBatch batch).window.machine.frame.result =
          .error fault := by
  cases received : (window.receiveBatch batch).result with
  | error reason =>
      exact .inl ⟨reason, rfl⟩
  | ok _ =>
      by_cases closes : batch.Closes
      · exact .inr (.inl ⟨rfl, closes⟩)
      · cases framed :
            (window.receiveBatch batch).window.machine.frame.result with
        | error fault =>
            exact .inr (.inr ⟨fault, rfl, closes, rfl⟩)
        | ok _ =>
            exact absurd ⟨received, closes, framed⟩ ends

/-- The loop ends in one of three ways. -/
theorem loop_cases (window : Window) (batches : List Batch) :
    window.ClosedBy (Batch.script batches) ∨
      (∃ reason, window.BrokenOff (Batch.script batches) reason) ∨
      ∃ fault, window.FrameFails (Batch.script batches) fault := by
  obtain ⟨turned, batch, rest, parted, passes, ends⟩ :=
    window.exists_last_batch batches
  have reaches := reaches_of_passes passes (batch :: rest)
  rw [← parted] at reaches
  rcases ends_of_not_turns ends with
    ⟨reason, failed⟩ | ending | ⟨fault, ending⟩
  · exact .inr (.inl ⟨reason, _, batch, rest, reaches, failed⟩)
  · exact .inl ⟨_, batch, rest, reaches, ending⟩
  · exact .inr (.inr ⟨fault, _, batch, rest, reaches, ending⟩)

/-! ## Frames -/

@[simp]
theorem result_paint (window : Window) : window.paint.result = .ok () := by
  unfold paint
  split <;> rfl

@[simp]
theorem settings_paint (window : Window) :
    window.paint.window.settings = window.settings := by
  unfold paint
  split <;> rfl

@[simp]
theorem isOpen_paint (window : Window) :
    window.paint.window.isOpen = window.isOpen := by
  unfold paint
  split <;> rfl

/-- The window after the frame of its machine, before it is painted. -/
def ticked (window : Window) : Window :=
  { window with machine := window.machine.frame.machine }

theorem frame_of_error
    {window : Window} {fault : Fault}
    (failed : window.machine.frame.result = .error fault) :
    window.frame =
      ⟨window.ticked, window.machine.frame.events.map .machine,
        .error (.fault fault)⟩ := by
  simp only [frame, WindowOutcome.andThen, WindowOutcome.ofMachine, failed,
    ticked]

theorem frame_of_ok
    {window : Window} (success : window.machine.frame.result = .ok ()) :
    window.frame =
      ⟨window.ticked.paint.window,
        window.machine.frame.events.map .machine ++
          (window.ticked.paint.notices ++
            [.host (.awaitFrame window.settings.fps)]),
        .ok ()⟩ := by
  have ended :
      (WindowOutcome.ofMachine window window.machine.frame).result = .ok () := by
    simp only [WindowOutcome.ofMachine, success]
  rw [frame, WindowOutcome.andThen_of_ok ended,
    WindowOutcome.andThen_of_ok (result_paint _), settings_paint]
  rfl

/-! ## Results -/

/-- The notices of a turn that goes through: those of its batch, of one frame of
the machine, of one painting and of one wait. -/
def turnNotices (window : Window) (batch : Batch) : List Notice :=
  let received := window.receiveBatch batch
  received.notices ++ received.window.machine.frame.events.map .machine ++
    received.window.ticked.paint.notices ++
    [.host (.awaitFrame received.window.settings.fps)]

theorem isOpen_afterTurn
    (turn : window.Turns batch) (isOpen : window.isOpen = true) :
    (window.afterTurn batch).isOpen = true := by
  rw [afterTurn, frame_of_ok turn.framed, isOpen_paint]
  exact (isOpen_receiveBatch turn.received).mpr ⟨isOpen, turn.stays⟩

/-- After a turn that goes through, the loop goes on. -/
theorem loop_of_turns
    (turn : window.Turns batch) (isOpen : window.isOpen = true) :
    window.loop (batch :: rest) =
      { (window.afterTurn batch).loop rest with
        notices := window.turnNotices batch ++
          ((window.afterTurn batch).loop rest).notices } := by
  have stays : (window.receiveBatch batch).window.isOpen = true :=
    (isOpen_receiveBatch turn.received).mpr ⟨isOpen, turn.stays⟩
  have framed : (window.receiveBatch batch).window.frame.result = .ok () := by
    rw [frame_of_ok turn.framed]
  have noticed :
      window.turnNotices batch =
        (window.receiveBatch batch).notices ++
          (window.receiveBatch batch).window.frame.notices := by
    rw [frame_of_ok turn.framed]
    simp only [turnNotices, List.append_assoc]
  rw [loop, WindowOutcome.andThen_of_ok turn.received]
  simp only [stays, if_true]
  rw [WindowOutcome.andThen_of_ok framed, ← afterTurn, noticed,
    List.append_assoc]

/-- A batch that closes the window ends the loop, and no frame follows. -/
theorem loop_of_closes
    (received : (window.receiveBatch batch).result = .ok ())
    (closes : batch.Closes) :
    window.loop (batch :: rest) = window.receiveBatch batch := by
  have shut : ¬ (window.receiveBatch batch).window.isOpen = true :=
    fun opened => ((isOpen_receiveBatch received).mp opened).2 closes
  rw [loop, WindowOutcome.andThen_of_ok received]
  simp only [shut, Bool.false_eq_true, if_false, WindowOutcome.done,
    List.append_nil]
  rw [← received]

/-- A batch that breaks off ends the loop, and no frame follows. -/
theorem loop_of_error
    {reason : Breakdown}
    (failed : (window.receiveBatch batch).result = .error reason) :
    window.loop (batch :: rest) = window.receiveBatch batch := by
  rw [loop, WindowOutcome.andThen_of_error failed]

/-- A frame that fails ends the loop, without a painting and a wait. -/
theorem loop_of_frame_error
    {fault : Fault} (isOpen : window.isOpen = true)
    (received : (window.receiveBatch batch).result = .ok ())
    (stays : ¬ batch.Closes)
    (framed : (window.receiveBatch batch).window.machine.frame.result =
      .error fault) :
    window.loop (batch :: rest) =
      ⟨(window.receiveBatch batch).window.ticked,
        (window.receiveBatch batch).notices ++
          (window.receiveBatch batch).window.machine.frame.events.map .machine,
        .error (.fault fault)⟩ := by
  have opened : (window.receiveBatch batch).window.isOpen = true :=
    (isOpen_receiveBatch received).mpr ⟨isOpen, stays⟩
  have ended :
      (window.receiveBatch batch).window.frame.result =
        .error (.fault fault) := by
    rw [frame_of_error framed]
  rw [loop, WindowOutcome.andThen_of_ok received]
  simp only [opened, if_true]
  rw [WindowOutcome.andThen_of_error ended, frame_of_error framed]

theorem result_loop_of_reaches
    (reaches : window.Reaches script reached rest)
    (isOpen : window.isOpen = true) :
    reached.isOpen = true ∧
      (window.loop script).result = (reached.loop rest).result := by
  induction reaches with
  | here window batches =>
      exact ⟨isOpen, rfl⟩
  | turn turns _ inductionHypothesis =>
      obtain ⟨stillOpen, sameResult⟩ :=
        inductionHypothesis (isOpen_afterTurn turns isOpen)
      refine ⟨stillOpen, ?_⟩
      rw [loop_of_turns turns isOpen]
      exact sameResult

theorem result_loop_of_closedBy
    (closed : window.ClosedBy script) (isOpen : window.isOpen = true) :
    (window.loop script).result = .ok () := by
  obtain ⟨reached, batch, rest, reaches, received, closes⟩ := closed
  obtain ⟨-, same⟩ := result_loop_of_reaches reaches isOpen
  rw [same, loop_of_closes received closes, received]

theorem result_loop_of_brokenOff
    {reason : Breakdown} (broken : window.BrokenOff script reason)
    (isOpen : window.isOpen = true) :
    (window.loop script).result = .error reason := by
  obtain ⟨reached, batch, rest, reaches, failed⟩ := broken
  obtain ⟨-, same⟩ := result_loop_of_reaches reaches isOpen
  rw [same, loop_of_error failed, failed]

theorem result_loop_of_frameFails
    {fault : Fault} (failed : window.FrameFails script fault)
    (isOpen : window.isOpen = true) :
    (window.loop script).result = .error (.fault fault) := by
  obtain ⟨reached, batch, rest, reaches, received, stays, framed⟩ := failed
  obtain ⟨stillOpen, same⟩ := result_loop_of_reaches reaches isOpen
  rw [same, loop_of_frame_error stillOpen received stays framed]

/-- The quit event after the last batch may as well be in the script. -/
theorem loop_script (window : Window) (batches : List Batch) :
    window.loop (Batch.script batches) = window.loop batches := by
  induction batches generalizing window with
  | nil =>
      rfl
  | cons batch rest inductionHypothesis =>
      change window.loop (batch :: Batch.script rest) = _
      simp only [loop, inductionHypothesis]

end Window

end Chip8
