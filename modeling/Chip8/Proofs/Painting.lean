import Chip8.Operation
import Chip8.Proofs.Frame
import Chip8.Proofs.Image
import Chip8.Proofs.Parts

/-!
# Painting

A window never shows a stale picture.

* `Screen.Follows` says that a later picture has the size of an earlier one, and
  is marked dirty unless it is the same;
* every operation of a machine leads to a picture that follows, also when it is
  refused, unless it takes the mark away (`follows_apply`), and so do host
  events (`unpainted_receiveBatch`);
* `Window.UpToDate` says that an image shows the picture unless that is marked,
  which operations keep (`upToDate_perform`), whoever listens to them;
* `upToDate_of_create` puts this together for runs of a new window.
-/

namespace Chip8

/-! ## Marks -/

/-- A later picture has the size of an earlier one and is marked dirty, unless
it is the same. -/
structure Screen.Follows (before after : Screen) : Prop where
  width_eq : after.width = before.width
  height_eq : after.height = before.height
  eq_of_clean : after.dirty = false → after = before

namespace Screen.Follows

theorem refl (screen : Screen) : screen.Follows screen :=
  ⟨rfl, rfl, fun _ => rfl⟩

theorem of_eq {before after : Screen} (same : after = before) :
    before.Follows after :=
  same ▸ refl before

theorem trans
    {before between after : Screen}
    (first : before.Follows between) (second : between.Follows after) :
    before.Follows after where
  width_eq := second.width_eq.trans first.width_eq
  height_eq := second.height_eq.trans first.height_eq
  eq_of_clean := by
    intro clean
    have unchanged : after = between := second.eq_of_clean clean
    rw [unchanged]
    exact first.eq_of_clean (unchanged ▸ clean)

theorem clear (screen : Screen) : screen.Follows screen.clear :=
  ⟨rfl, rfl, nofun⟩

theorem draw (screen : Screen) (sprite : List Int) (x y : Int) :
    screen.Follows (screen.draw sprite x y).screen :=
  ⟨rfl, rfl, nofun⟩

end Screen.Follows

namespace Machine

variable (machine : Machine)

theorem follows_execute (instruction : Instruction) :
    machine.screen.Follows (machine.execute instruction).machine.screen := by
  by_cases touches : Part.screen ∈ instruction.parts
  · cases instruction with
    | clearScreen =>
        exact .clear machine.screen
    | draw x y height =>
        exact .draw machine.screen _ _ _
    | _ =>
        simp [Instruction.parts] at touches
  · exact .of_eq (machine.agreeOff_execute instruction .screen touches).symm

theorem follows_step :
    machine.screen.Follows machine.step.machine.screen :=
  machine.advance.follows_execute _

theorem follows_frame :
    machine.screen.Follows machine.frame.machine.screen := by
  unfold frame
  split
  · exact .refl _
  · have kept : ∀ fetch : Machine, True →
        machine.screen.Follows fetch.screen →
        machine.screen.Follows fetch.step.machine.screen :=
      fun fetch _ follows => follows.trans fetch.follows_step
    have start : machine.screen.Follows machine.countDown.screen :=
      .refl machine.screen
    exact (invariant_cycles kept _ start fun _ _ => trivial).2

theorem follows_load (program : List UInt8) :
    machine.screen.Follows (machine.load program).machine.screen :=
  .clear machine.screen

theorem follows_reportCode (code : KeyCode) (pressed : Bool) :
    machine.screen.Follows (machine.reportCode code pressed).machine.screen := by
  unfold reportCode
  split <;> exact .refl machine.screen

/-- Whatever is asked of a machine, the picture is marked if it changes.  Only
taking the mark away is no such operation. -/
theorem follows_apply {operation : Operation} (keeps : operation ≠ .clean) :
    machine.screen.Follows (machine.apply operation).machine.screen := by
  cases operation with
  | step => exact machine.follows_step
  | frame => exact machine.follows_frame
  | execute opcode => exact machine.follows_execute _
  | reset | clearScreen => exact .clear machine.screen
  | load program => exact machine.follows_load program
  | loadFile files path =>
      simp only [apply]
      split
      · exact machine.follows_load _
      · exact .refl machine.screen
  | reportKey code pressed =>
      simp only [apply]
      split
      · exact machine.follows_reportCode _ pressed
      · exact .refl machine.screen
  | draw sprite x y => exact .draw machine.screen sprite x y
  | setSpeed value =>
      simp only [apply]
      split <;> exact .refl machine.screen
  | clean => exact absurd rfl keeps
  | _ => exact .refl machine.screen

end Machine

/-! ## Windows without a painting -/

namespace Window

/-- Two windows differ in their machines at most, and in whether they are
open. -/
structure SameSetup (before after : Window) : Prop where
  settings_eq : after.settings = before.settings
  rom_eq : after.rom = before.rom
  keyboard_eq : after.keyboard = before.keyboard

theorem SameSetup.refl (window : Window) : window.SameSetup window :=
  ⟨rfl, rfl, rfl⟩

theorem SameSetup.trans
    {before between after : Window}
    (first : before.SameSetup between) (second : between.SameSetup after) :
    before.SameSetup after where
  settings_eq := second.settings_eq.trans first.settings_eq
  rom_eq := second.rom_eq.trans first.rom_eq
  keyboard_eq := second.keyboard_eq.trans first.keyboard_eq

/-- What a window leaves behind, with its notices, if it makes no call to the
host. -/
structure Unpainted (before after : Window) (notices : List Notice) :
    Prop where
  setup : before.SameSetup after
  picture : before.machine.screen.Follows after.machine.screen
  silent : ∀ call, .host call ∉ notices

namespace Unpainted

theorem done
    {before after : Window} (setup : before.SameSetup after)
    (machine_eq : after.machine = before.machine) :
    before.Unpainted after [] :=
  ⟨setup, .of_eq (congrArg _ machine_eq), fun _ => List.not_mem_nil⟩

theorem ofMachine
    {window : Window} {machine : Machine} (events : List Event)
    (picture : window.machine.screen.Follows machine.screen) :
    window.Unpainted { window with machine := machine }
      (events.map .machine) :=
  ⟨⟨rfl, rfl, rfl⟩, picture, by simp⟩

theorem trans
    {before between after : Window} {earlier later : List Notice}
    (first : before.Unpainted between earlier)
    (second : between.Unpainted after later) :
    before.Unpainted after (earlier ++ later) where
  setup := first.setup.trans second.setup
  picture := first.picture.trans second.picture
  silent call member := by
    rcases List.mem_append.mp member with early | late
    · exact first.silent call early
    · exact second.silent call late

end Unpainted

theorem unpainted_reload (window : Window) :
    window.Unpainted window.reload.window window.reload.notices := by
  have announced : window.Unpainted window [.reloading] :=
    ⟨.refl window, .refl _, by simp⟩
  exact announced.trans
    (.ofMachine (window.machine.load window.rom).events
      (window.machine.follows_load window.rom))

theorem unpainted_reportCode
    (window : Window) (code : KeyCode) (pressed : Bool) :
    window.Unpainted (window.reportCode code pressed).window
      (window.reportCode code pressed).notices := by
  unfold reportCode
  split
  · exact .done ⟨rfl, rfl, rfl⟩ rfl
  · next key _ =>
      let reported : Outcome Fault (Option RegisterWrite) :=
        window.machine.reportKey key pressed
      have told : window.Unpainted { window with machine := reported.machine }
          (reported.events.map .machine) :=
        .ofMachine reported.events (.refl window.machine.screen)
      have answered :
          ∀ call, .host call ∉ answers code reported.result := by
        unfold answers
        split <;> simp
      exact told.trans ⟨.refl _, .refl _, answered⟩

theorem unpainted_reportKey
    (window : Window) (name : Text) (pressed : Bool) :
    window.Unpainted (window.reportKey name pressed).window
      (window.reportKey name pressed).notices := by
  unfold reportKey
  split
  · exact window.unpainted_reportCode _ _
  · exact .done ⟨rfl, rfl, rfl⟩ rfl

theorem unpainted_receive (window : Window) (event : HostEvent) :
    window.Unpainted (window.receive event).window
      (window.receive event).notices := by
  cases event with
  | quit | other =>
      exact .done ⟨rfl, rfl, rfl⟩ rfl
  | keyDown name =>
      simp only [receive]
      split
      · exact .done ⟨rfl, rfl, rfl⟩ rfl
      · split
        · exact window.unpainted_reload
        · exact window.unpainted_reportKey name true
  | keyUp name =>
      simp only [receive]
      split
      · exact .done ⟨rfl, rfl, rfl⟩ rfl
      · exact window.unpainted_reportKey name false

theorem unpainted_receiveAll (window : Window) (events : List HostEvent) :
    window.Unpainted (window.receiveAll events).window
      (window.receiveAll events).notices := by
  induction events generalizing window with
  | nil =>
      exact .done ⟨rfl, rfl, rfl⟩ rfl
  | cons event rest inductionHypothesis =>
      have first := window.unpainted_receive event
      simp only [receiveAll, WindowOutcome.andThen]
      split
      · exact first
      · exact first.trans (inductionHypothesis _)

theorem unpainted_receiveBatch (window : Window) (batch : Batch) :
    window.Unpainted (window.receiveBatch batch).window
      (window.receiveBatch batch).notices := by
  cases batch with
  | events events => exact window.unpainted_receiveAll events
  | interruption => exact .done ⟨rfl, rfl, rfl⟩ rfl

end Window

/-! ## Runs of a window -/

/-- Something that can be asked of a window. -/
inductive WindowOperation where
  | paint
  | receive (batch : Batch)
  | ask (operation : Operation)

namespace Window

/-- Carry out an operation.  One that breaks off or is refused leaves a window
and notices behind, too. -/
def perform (window : Window) : WindowOperation → Window × List Notice
  | .paint => (window.paint.window, window.paint.notices)
  | .receive batch =>
      ((window.receiveBatch batch).window, (window.receiveBatch batch).notices)
  | .ask operation =>
      let outcome := window.machine.apply operation
      ({ window with machine := outcome.machine },
        outcome.events.map .machine)

/-- Carry out operations in order. -/
def performAll (window : Window) : List WindowOperation → Window × List Notice
  | [] => (window, [])
  | operation :: rest =>
      let (next, notices) := window.perform operation
      let (last, later) := next.performAll rest
      (last, notices ++ later)

theorem performAll_cons
    (window : Window) (operation : WindowOperation)
    (rest : List WindowOperation) :
    window.performAll (operation :: rest) =
      (((window.perform operation).1.performAll rest).1,
        (window.perform operation).2 ++
          ((window.perform operation).1.performAll rest).2) := rfl

theorem sameSetup_perform (window : Window) (operation : WindowOperation) :
    window.SameSetup (window.perform operation).1 := by
  cases operation with
  | paint =>
      simp only [perform, paint]
      split <;> exact ⟨rfl, rfl, rfl⟩
  | receive batch =>
      exact (window.unpainted_receiveBatch batch).setup
  | ask operation =>
      exact ⟨rfl, rfl, rfl⟩

/-- A painting that is not needed makes no call at all. -/
theorem paint_of_clean
    {window : Window} (clean : window.machine.screen.dirty = false) :
    window.paint = .done window := by
  simp only [paint, clean, Bool.false_eq_true, if_false]

theorem dirty_paint (window : Window) :
    window.paint.window.machine.screen.dirty = false := by
  cases marked : window.machine.screen.dirty with
  | false =>
      rw [paint_of_clean marked]
      exact marked
  | true =>
      simp only [paint, marked, if_true]

/-- The image shows the picture of the window, unless that is marked dirty. -/
def UpToDate (window : Window) (image : Image) : Prop :=
  window.machine.screen.dirty = false →
    ∀ u v : Nat,
      u < window.machine.screen.width * window.settings.scale →
      v < window.machine.screen.height * window.settings.scale →
      image u v =
        window.machine.screen.colour (u / window.settings.scale)
          (v / window.settings.scale)

/-- The windows have the same size in points. -/
structure SameSize (before after : Window) : Prop where
  scale_eq : after.settings.scale = before.settings.scale
  width_eq : after.machine.screen.width = before.machine.screen.width
  height_eq : after.machine.screen.height = before.machine.screen.height

theorem Unpainted.upToDate
    {before after : Window} {notices : List Notice} {image : Image}
    (unpainted : before.Unpainted after notices)
    (upToDate : before.UpToDate image) :
    after.UpToDate (image.follow notices) := by
  intro clean
  have same := unpainted.picture.eq_of_clean clean
  rw [image.follow_of_silent unpainted.silent, unpainted.setup.settings_eq,
    same]
  exact upToDate (same ▸ clean)

theorem Unpainted.sameSize
    {before after : Window} {notices : List Notice}
    (unpainted : before.Unpainted after notices) :
    before.SameSize after where
  scale_eq := congrArg _ unpainted.setup.settings_eq
  width_eq := unpainted.picture.width_eq
  height_eq := unpainted.picture.height_eq

theorem upToDate_paint
    {window : Window} {image : Image} (upToDate : window.UpToDate image) :
    window.paint.window.UpToDate (image.follow window.paint.notices) := by
  by_cases marked : window.machine.screen.dirty = true
  · simp only [paint, marked, if_true, Image.follow_host]
    intro _ u v column row
    -- Without a scale the window would have no point at all.
    have positive : 0 < window.settings.scale :=
      Nat.pos_of_mul_pos_left (Nat.zero_lt_of_lt column)
    exact replay_paintCalls positive image
      ((Nat.div_lt_iff_lt_mul positive).mpr column)
      ((Nat.div_lt_iff_lt_mul positive).mpr row)
  · rw [paint_of_clean (Bool.eq_false_iff.mpr marked)]
    exact upToDate

theorem sameSize_paint (window : Window) :
    window.SameSize window.paint.window := by
  unfold paint
  split <;> exact ⟨rfl, rfl, rfl⟩

theorem unpainted_ask
    (window : Window) {operation : Operation} (keeps : operation ≠ .clean) :
    window.Unpainted (window.perform (.ask operation)).1
      (window.perform (.ask operation)).2 :=
  .ofMachine _ (window.machine.follows_apply keeps)

/-- Every operation that leaves the mark to the painting keeps an image up to
date. -/
theorem upToDate_perform
    {window : Window} {image : Image} {operation : WindowOperation}
    (keeps : operation ≠ .ask .clean) (upToDate : window.UpToDate image) :
    let (next, notices) := window.perform operation
    window.SameSize next ∧ next.UpToDate (image.follow notices) := by
  cases operation with
  | paint =>
      exact ⟨window.sameSize_paint, upToDate_paint upToDate⟩
  | receive batch =>
      have quiet := window.unpainted_receiveBatch batch
      exact ⟨quiet.sameSize, quiet.upToDate upToDate⟩
  | ask operation =>
      have allowed : operation ≠ .clean := fun same => keeps (by rw [same])
      have quiet := window.unpainted_ask allowed
      exact ⟨quiet.sameSize, quiet.upToDate upToDate⟩

theorem upToDate_performAll
    {window : Window} {image : Image} {operations : List WindowOperation}
    (keep : .ask .clean ∉ operations) (upToDate : window.UpToDate image) :
    let (last, notices) := window.performAll operations
    window.SameSize last ∧ last.UpToDate (image.follow notices) := by
  induction operations generalizing window image with
  | nil =>
      exact ⟨⟨rfl, rfl, rfl⟩, upToDate⟩
  | cons operation rest inductionHypothesis =>
      rw [List.mem_cons, not_or] at keep
      obtain ⟨size, next⟩ := upToDate_perform (Ne.symm keep.1) upToDate
      obtain ⟨sizeThen, inTheEnd⟩ := inductionHypothesis keep.2 next
      rw [performAll_cons]
      refine ⟨?_, ?_⟩
      · exact ⟨sizeThen.scale_eq.trans size.scale_eq,
          sizeThen.width_eq.trans size.width_eq,
          sizeThen.height_eq.trans size.height_eq⟩
      · rw [Image.follow_append]
        exact inTheEnd

theorem of_create
    {machine : Machine} {settings : Settings} {rom : List UInt8}
    {window : Window} {opening : List Notice}
    (created : create machine settings rom = .ok (window, opening)) :
    window.machine = machine ∧ window.settings = settings ∧
      window.rom = rom ∧
      Keyboard.ofEntries settings.layout = .ok window.keyboard := by
  unfold create at created
  split at created
  · contradiction
  · next keyboard assigned =>
      cases created
      exact ⟨rfl, rfl, rfl, assigned⟩

/-- Whatever is asked of a new window, but for the mark to be taken back, and
whoever listens: when the picture is not marked, the calls to the host have left
every point of the window, on a surface of any kind, in the colour of its pixel,
and a painting would make no call.  A painting takes the mark away. -/
theorem upToDate_of_create
    {machine : Machine} {settings : Settings} {rom : List UInt8}
    {window : Window} {opening : List Notice}
    {operations : List WindowOperation}
    (created : create machine settings rom = .ok (window, opening))
    (marked : machine.screen.dirty = true)
    (keep : .ask .clean ∉ operations)
    (observers : Observers) (surface : Image) :
    let last := (window.performAll operations).1
    let notices := (window.performAll operations).2
    let calls := Effect.calls (observers.observeAll (opening ++ notices)).2
    (last.machine.screen.dirty = false →
      (∀ u v : Nat,
        u < machine.screen.width * settings.scale →
        v < machine.screen.height * settings.scale →
        surface.replay calls u v =
          if last.machine.screen.isLit (u / settings.scale : Nat)
              (v / settings.scale : Nat) then .on
          else .off) ∧
        last.paint = .done last) ∧
      last.paint.window.machine.screen.dirty = false := by
  obtain ⟨machine_eq, settings_eq, -⟩ := of_create created
  -- A new picture is marked, so it does not matter what the surface shows.
  have start : window.UpToDate (surface.follow opening) := by
    intro clean
    rw [machine_eq, marked] at clean
    contradiction
  obtain ⟨size, inTheEnd⟩ := upToDate_performAll keep start
  intro last notices calls
  refine ⟨?_, dirty_paint last⟩
  intro clean
  refine ⟨?_, paint_of_clean clean⟩
  intro u v column row
  have shown := inTheEnd clean u v
  rw [size.scale_eq, size.width_eq, size.height_eq, machine_eq, settings_eq]
    at shown
  rw [Image.replay_observeAll, Image.follow_append]
  exact shown column row

/-- A window of three by two pixels for a program that draws a glyph and then
returns from nowhere. -/
def slate : Window where
  machine := .fresh (.blank 3 2) (.ofSeed 0) 1
  settings :=
    { speed := .integer 1
      fps := .integer 60
      tone := .integer 440
      volume := .integer 0
      layout := []
      verbose := .boolean false
      scale := 2 }
  rom := [0xD0, 0x11, 0x00, 0xEE]
  keyboard := .empty
  isOpen := false

/-- After a reload, a frame, a painting and a frame that fails, the last pixel of
the first row is a white square. -/
theorem upToDate_of_create_slate :
    let operations : List WindowOperation :=
      [.paint, .receive (.events [.keyDown reloadKey, .other]), .ask .frame,
        .paint, .ask .frame]
    ∃ opening : List Notice,
      create slate.machine slate.settings slate.rom = .ok (slate, opening) ∧
        ∀ (observers : Observers) (surface : Image),
          let last := (slate.performAll operations).1
          let notices := (slate.performAll operations).2
          let calls := Effect.calls (observers.observeAll (opening ++ notices)).2
          surface.replay calls 5 1 = .on ∧ last.paint = .done last := by
  intro operations
  have created :
      create slate.machine slate.settings slate.rom =
        .ok (slate,
          [.host (.openWindow 6 4), .host (.setCaption caption)]) :=
    rfl
  have marked : slate.machine.screen.dirty = true := by
    decide +kernel
  have keep : .ask .clean ∉ operations := by
    simp [operations]
  have clean :
      (slate.performAll operations).1.machine.screen.dirty = false := by
    decide +kernel
  have lit :
      (slate.performAll operations).1.machine.screen.isLit 2 0 = true := by
    decide +kernel
  refine ⟨_, created, ?_⟩
  intro observers surface
  obtain ⟨points, idle⟩ :=
    (upToDate_of_create created marked keep observers surface).1 clean
  have corner := points 5 1 (by decide +kernel) (by decide +kernel)
  exact ⟨corner.trans (if_pos lit), idle⟩

end Window

end Chip8
