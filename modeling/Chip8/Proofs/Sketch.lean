import Chip8.Operation
import Chip8.Proofs.Calls
import Chip8.Proofs.Frame
import Chip8.Proofs.Image
import Chip8.Proofs.Pixels

/-!
# Sketches

A sketch is a picture that is made from reports of pixel changes alone.

* `Sketch.replay` works reports into a sketch, and `Sketch.Genuine` says that
  each of them is of a pixel inside the picture that really changes;
* `Screen.Traced` says that the reports lead from one picture to another, and
  drawings (`traced_draw`) and clearings (`traced_clear`) are traced by the
  changes that they list;
* whatever is asked of a machine, its events trace its picture
  (`traced_apply`), so that a hook which hears them from the beginning holds the
  picture at any time (`sketch_of_hook`).
-/

namespace Chip8

/-! ## Reports -/

/-- Which pixels are lit, by column and row. -/
def Sketch := Nat → Nat → Bool

namespace Sketch

/-- The sketch before any report. -/
def dark : Sketch := fun _ _ => false

/-- The sketch after one report. -/
def note (sketch : Sketch) (change : PixelChange) : Sketch := fun column row =>
  if column = change.x ∧ row = change.y then change.lit else sketch column row

/-- The sketch after some reports, in order. -/
def replay (sketch : Sketch) (changes : List PixelChange) : Sketch :=
  changes.foldl note sketch

/-- Every report is of a pixel inside the picture, and of the opposite of what
the sketch shows there at that time. -/
def Genuine (width height : Nat) : Sketch → List PixelChange → Prop
  | _, [] => True
  | sketch, change :: rest =>
      change.Inside width height ∧ change.lit = !sketch change.x change.y ∧
        Genuine width height (sketch.note change) rest

variable {width height : Nat} {sketch : Sketch}
variable {earlier later : List PixelChange}

theorem note_apply (sketch : Sketch) (change : PixelChange) (column row : Nat) :
    sketch.note change column row =
      if column = change.x ∧ row = change.y then change.lit
      else sketch column row := rfl

@[simp]
theorem replay_nil (sketch : Sketch) : sketch.replay [] = sketch := rfl

@[simp]
theorem replay_cons
    (sketch : Sketch) (change : PixelChange) (rest : List PixelChange) :
    sketch.replay (change :: rest) = (sketch.note change).replay rest := rfl

theorem replay_append (sketch : Sketch) (earlier later : List PixelChange) :
    sketch.replay (earlier ++ later) = (sketch.replay earlier).replay later :=
  List.foldl_append

theorem genuine_append_iff :
    sketch.Genuine width height (earlier ++ later) ↔
      sketch.Genuine width height earlier ∧
        (sketch.replay earlier).Genuine width height later := by
  induction earlier generalizing sketch with
  | nil =>
      simp [Genuine]
  | cons change rest inductionHypothesis =>
      simp only [List.cons_append, Genuine, replay_cons, inductionHypothesis,
        and_assoc]

/-- What each of some genuine reports tells, as the ones before it leave the
sketch. -/
theorem Genuine.report
    {change : PixelChange}
    (genuine : sketch.Genuine width height (earlier ++ change :: later)) :
    change.Inside width height ∧
      change.lit = !sketch.replay earlier change.x change.y := by
  obtain ⟨-, inside, turned, -⟩ := genuine_append_iff.mp genuine
  exact ⟨inside, turned⟩

end Sketch

/-! ## Pictures and sketches -/

namespace Screen

/-- The picture has a size, and the pixels that a sketch shows. -/
structure Matches
    (width height : Nat) (screen : Screen) (sketch : Sketch) : Prop where
  sized : screen.Sized width height
  pixels : ∀ column row, column < width → row < height →
    screen.pixels.getD (place width column row) false = sketch column row

/-- Some reports lead from one picture to another: worked into a sketch of the
first they give a sketch of the second, and each tells something new. -/
def Traced (width height : Nat) (before after : Screen)
    (changes : List PixelChange) : Prop :=
  ∀ sketch : Sketch, before.Matches width height sketch →
    sketch.Genuine width height changes ∧
      after.Matches width height (sketch.replay changes)

variable {width height : Nat} {screen before between after : Screen}
variable {earlier later : List PixelChange}

theorem traced_nil (screen : Screen) : screen.Traced width height screen [] :=
  fun _ shown => ⟨trivial, shown⟩

theorem Traced.append
    (first : before.Traced width height between earlier)
    (second : between.Traced width height after later) :
    before.Traced width height after (earlier ++ later) := by
  intro sketch shown
  obtain ⟨early, middle⟩ := first sketch shown
  obtain ⟨late, last⟩ := second _ middle
  rw [Sketch.replay_append]
  exact ⟨Sketch.genuine_append_iff.mpr ⟨early, late⟩, last⟩

/-- What is traced keeps the size of the picture. -/
theorem Traced.sized
    {changes : List PixelChange}
    (traced : before.Traced width height after changes)
    (sized : before.Sized width height) : after.Sized width height := by
  have shown : before.Matches width height fun column row =>
      before.pixels.getD (place width column row) false :=
    ⟨sized, fun column row _ _ => rfl⟩
  exact (traced _ shown).2.sized

/-! ## What a picture shows -/

namespace Matches

variable {sketch : Sketch}

theorem of_create?
    {width height : Int} (created : create? width height = some screen) :
    screen.Matches width.toNat height.toNat .dark := by
  refine ⟨sized_of_create? created, fun column row _ _ => ?_⟩
  unfold create? at created
  split at created
  · cases created
    exact getD_blank _ _ _
  · contradiction

theorem clean (shown : screen.Matches width height sketch) :
    { screen with dirty := false }.Matches width height sketch :=
  ⟨{ shown.sized with }, shown.pixels⟩

theorem pixels_eq (shown : screen.Matches width height sketch) :
    screen.pixels =
      (Array.range (width * height)).map fun number =>
        sketch (number % width) (number / width) := by
  apply Array.ext
  · rw [shown.sized.size_eq, Array.size_map, Array.size_range]
  · intro number listed _
    have numbered : number < width * height := shown.sized.size_eq ▸ listed
    have found := shown.pixels (number % width) (number / width)
      (Nat.mod_lt number shown.sized.width_pos)
      (Nat.div_lt_of_lt_mul numbered)
    rw [place_of_number, Array.getD_eq_getD_getElem?,
      Array.getElem?_eq_getElem listed, Option.getD_some] at found
    rw [found, Array.getElem_map, Array.getElem_range]

theorem rows_eq (shown : screen.Matches width height sketch) :
    screen.rows =
      (List.range height).map fun row =>
        (List.range width).map fun column => sketch column row := by
  rw [rows, shown.sized.height_eq]
  refine List.map_congr_left fun row below => ?_
  rw [Screen.row, shown.sized.width_eq]
  refine List.map_congr_left fun column beside => ?_
  exact shown.pixels column row (List.mem_range.mp beside)
    (List.mem_range.mp below)

theorem isLit_eq
    (shown : screen.Matches width height sketch) (x y : Int) :
    screen.isLit x y = sketch (x % width).toNat (y % height).toNat := by
  obtain ⟨beside, below⟩ := shown.sized.wrap_inside x y
  have found := shown.pixels _ _ beside below
  simp only [wrap, shown.sized.width_eq, shown.sized.height_eq] at found
  simp only [isLit, wrap, shown.sized.width_eq, shown.sized.height_eq, found]

end Matches

/-! ## Clearing -/

/-- A report changes no other pixel than its own. -/
theorem note_of_ne
    {number other : Nat} (different : other ≠ number) (lit : Bool)
    (sketch : Sketch) :
    sketch.note ⟨number % width, number / width, lit⟩ (other % width)
        (other / width) =
      sketch (other % width) (other / width) := by
  rw [Sketch.note_apply, if_neg]
  rintro ⟨column, row⟩
  apply different
  rw [← place_of_number width other, ← place_of_number width number, column,
    row]

/-- Reports that lit pixels went dark, no pixel twice, are genuine and leave
those pixels dark. -/
theorem replay_clearing
    {numbers : List Nat} (distinct : numbers.Nodup)
    (inside : ∀ number ∈ numbers, number < width * height)
    (width_pos : 0 < width) {sketch : Sketch}
    (shown : ∀ number ∈ numbers,
      screen.pixels.getD number false =
        sketch (number % width) (number / width)) :
    let changes : List PixelChange := numbers.filterMap fun number =>
      if screen.pixels.getD number false then
        some ⟨number % width, number / width, false⟩
      else none
    sketch.Genuine width height changes ∧
      ∀ column row, column < width →
        sketch.replay changes column row =
          if place width column row ∈ numbers then false
          else sketch column row := by
  -- A pixel that goes dark is not among the later ones, so these are still shown
  -- as they were.
  induction numbers generalizing sketch with
  | nil =>
      exact ⟨trivial, fun column row _ => by simp⟩
  | cons number rest inductionHypothesis =>
      obtain ⟨absent, restDistinct⟩ := List.nodup_cons.mp distinct
      obtain ⟨numberInside, restInside⟩ := List.forall_mem_cons.mp inside
      obtain ⟨numberShown, restShown⟩ := List.forall_mem_cons.mp shown
      cases lit : screen.pixels.getD number false with
      | false =>
          obtain ⟨genuine, replayed⟩ :=
            inductionHypothesis restDistinct restInside restShown
          rw [lit] at numberShown
          simp only [List.filterMap_cons, lit, Bool.false_eq_true, if_false]
          refine ⟨genuine, fun column row beside => ?_⟩
          rw [replayed column row beside]
          by_cases here : place width column row = number
          · obtain ⟨rfl, rfl⟩ := (eq_place_iff beside).mp here
            simp [here, absent, ← numberShown]
          · simp [here]
      | true =>
          let change : PixelChange :=
            ⟨number % width, number / width, false⟩
          have stillShown : ∀ other ∈ rest,
              screen.pixels.getD other false =
                sketch.note change (other % width) (other / width) := by
            intro other member
            rw [note_of_ne (ne_of_mem_of_not_mem member absent)]
            exact restShown other member
          obtain ⟨genuine, replayed⟩ :=
            inductionHypothesis restDistinct restInside stillShown
          have changeInside : change.Inside width height :=
            ⟨Nat.mod_lt number width_pos, Nat.div_lt_of_lt_mul numberInside⟩
          rw [lit] at numberShown
          simp only [List.filterMap_cons, lit, if_true]
          refine ⟨⟨changeInside, by simp [← numberShown], genuine⟩, ?_⟩
          intro column row beside
          rw [Sketch.replay_cons, replayed column row beside,
            Sketch.note_apply]
          simp only [List.mem_cons, eq_place_iff beside, change]
          by_cases here : column = number % width ∧ row = number / width
          · simp [here]
          · simp [here]

theorem traced_clear (screen : Screen) :
    screen.Traced width height screen.clear screen.clearChanges := by
  intro sketch shown
  have sized := shown.sized
  have numbered : ∀ number ∈ List.range screen.pixels.size,
      number < width * height := by
    intro number member
    rw [← sized.size_eq]
    exact List.mem_range.mp member
  have listedShown : ∀ number ∈ List.range screen.pixels.size,
      screen.pixels.getD number false =
        sketch (number % width) (number / width) := by
    intro number member
    rw [← shown.pixels _ _ (Nat.mod_lt number sized.width_pos)
      (Nat.div_lt_of_lt_mul (numbered number member)), place_of_number]
  obtain ⟨genuine, replayed⟩ :=
    replay_clearing List.nodup_range numbered sized.width_pos listedShown
  rw [clearChanges, sized.width_eq]
  refine ⟨genuine, sized.clear, ?_⟩
  intro column row beside below
  have listed : place width column row ∈ List.range screen.pixels.size := by
    rw [List.mem_range, sized.size_eq]
    exact place_lt beside below
  rw [replayed column row beside, if_pos listed]
  exact getD_blank _ _ _

/-! ## Drawing -/

/-- Turning one pixel over is what its report says. -/
theorem Matches.toggle
    {pixels : Array Bool} {sketch : Sketch}
    (shown : { screen with pixels := pixels }.Matches width height sketch)
    {spot : Nat × Nat} (column : spot.1 < width) (row : spot.2 < height) :
    let number := place screen.width spot.1 spot.2
    { screen with
      pixels := pixels.setIfInBounds number (!pixels.getD number false) }.Matches
        width height
        (sketch.note ⟨spot.1, spot.2, !pixels.getD number false⟩) := by
  intro number
  have numbered : number = place width spot.1 spot.2 :=
    congrArg (place · spot.1 spot.2) shown.sized.width_eq
  have listed : number < pixels.size := by
    rw [numbered, shown.sized.size_eq]
    exact place_lt column row
  refine ⟨{ shown.sized with size_eq := ?_ }, ?_⟩
  · rw [Array.size_setIfInBounds]
    exact shown.sized.size_eq
  · intro otherColumn otherRow beside below
    have before := shown.pixels otherColumn otherRow beside below
    have same :
        number = place width otherColumn otherRow ↔
          otherColumn = spot.1 ∧ otherRow = spot.2 := by
      rw [numbered, eq_comm, eq_place_iff beside, place_mod column,
        place_div column]
    rw [Array.getD_eq_getD_getElem?] at before ⊢
    rw [Array.getElem?_setIfInBounds, Sketch.note_apply]
    simp only [same, listed, if_true]
    split
    · rfl
    · exact before

/-- A drawing is traced by the pixels that it turns over, also where it turns
one pixel over several times. -/
theorem traced_draw (screen : Screen) (sprite : List Int) (x y : Int) :
    screen.Traced width height (screen.draw sprite x y).screen
      (screen.draw sprite x y).changes := by
  intro sketch shown
  have result :
      sketch.Genuine width height (screen.blit sprite x y).changes.reverse ∧
        { screen with pixels := (screen.blit sprite x y).pixels }.Matches
          width height
          (sketch.replay (screen.blit sprite x y).changes.reverse) := by
    unfold blit
    refine List.foldlRecOn
      (motive := fun current : Blit =>
        sketch.Genuine width height current.changes.reverse ∧
          { screen with pixels := current.pixels }.Matches width height
            (sketch.replay current.changes.reverse))
      _ _ ?_ ?_
    · exact ⟨trivial, shown⟩
    · intro current ⟨genuine, matching⟩ spot member
      obtain ⟨column, row⟩ := shown.sized.hits_inside member
      have turned := matching.pixels spot.1 spot.2 column row
      rw [← shown.sized.width_eq] at turned
      simp only [Blit.toggle, List.reverse_cons, Sketch.replay_append,
        Sketch.genuine_append_iff]
      refine ⟨⟨genuine, ⟨column, row⟩, ?_, trivial⟩,
        matching.toggle column row⟩
      rw [← turned]
  exact ⟨result.1, { result.2.sized with }, result.2.pixels⟩

end Screen

/-! ## Machines -/

namespace Machine

variable {width height : Nat}

theorem traced_execute (machine : Machine) (instruction : Instruction) :
    machine.screen.Traced width height
      (machine.execute instruction).machine.screen
      (pixelChanges (machine.execute instruction).events) := by
  unfold execute
  split
  · simp only [clearScreen, pixelChanges_map_pixel]
    exact machine.screen.traced_clear
  · simp only [drawSprite, pixelChanges_map_pixel]
    exact machine.screen.traced_draw _ _ _
  · exact machine.screen.traced_nil
  · have silent : pixelChanges (processorEvents instruction) = [] := by
      unfold processorEvents
      split <;> rfl
    simp only [silent]
    exact machine.screen.traced_nil

theorem traced_step (machine : Machine) :
    machine.screen.Traced width height machine.step.machine.screen
      (pixelChanges machine.step.events) :=
  machine.advance.traced_execute machine.nextInstruction

/-- Every step of some cycles goes on with the picture where the one before it
left it. -/
theorem traced_cycleFetches (count : Nat) (machine : Machine) :
    machine.screen.Traced width height
      (machine.afterFetches (cycleFetches count machine)).screen
      (pixelChanges ((cycleFetches count machine).flatMap fun fetch =>
        fetch.step.events)) := by
  induction count generalizing machine with
  | zero =>
      exact machine.screen.traced_nil
  | succ count inductionHypothesis =>
      simp only [cycleFetches, afterFetches_cons, List.flatMap_cons,
        pixelChanges_append]
      refine machine.traced_step.append ?_
      split
      · exact Screen.traced_nil _
      · split
        · exact Screen.traced_nil _
        · exact inductionHypothesis machine.step.machine

theorem traced_frame (machine : Machine) :
    machine.screen.Traced width height machine.frame.machine.screen
      (pixelChanges machine.frame.events) := by
  unfold frame
  split
  · exact machine.screen.traced_nil
  · rw [machine_cycles, events_cycles]
    exact machine.countDown.traced_cycleFetches machine.speed

theorem traced_reset (machine : Machine) :
    machine.screen.Traced width height machine.screen.clear
      (pixelChanges (machine.reset : Outcome Fault Unit).events) := by
  simp only [reset, pixelChanges_append, pixelChanges_map_pixel]
  exact machine.screen.traced_clear.append machine.screen.clear.traced_nil

theorem traced_load (machine : Machine) (program : List UInt8) :
    machine.screen.Traced width height (machine.load program).machine.screen
      (pixelChanges (machine.load program).events) := by
  have silent {attempt : Attempt Unit} {size : Nat} :
      pixelChanges (attempt.publish [.stored size, .loaded size]) = [] := by
    unfold Attempt.publish
    split <;> rfl
  simp only [load, pixelChanges_append, silent]
  exact machine.traced_reset.append machine.screen.clear.traced_nil

theorem traced_reportCode
    (machine : Machine) (code : KeyCode) (pressed : Bool) :
    machine.screen.Traced width height
      (machine.reportCode code pressed).machine.screen
      (pixelChanges (machine.reportCode code pressed).events) := by
  unfold reportCode
  split
  · exact machine.screen.traced_nil
  · next key _ =>
      have silent : pixelChanges
          ((machine.processor.reportKey key pressed).2.toList.map .resumed) =
            [] := by
        cases (machine.processor.reportKey key pressed).2 <;> rfl
      simp only [reportKey, silent]
      exact machine.screen.traced_nil

/-- Whatever is asked of a machine, its events tell what happens to its
picture. -/
theorem traced_apply (machine : Machine) (operation : Operation) :
    machine.screen.Traced width height
      (machine.apply operation).machine.screen
      (pixelChanges (machine.apply operation).events) := by
  cases operation with
  | step => exact machine.traced_step
  | frame => exact machine.traced_frame
  | execute opcode => exact machine.traced_execute _
  | reset => exact machine.traced_reset
  | load program => exact machine.traced_load program
  | loadFile files path =>
      simp only [apply]
      split
      · exact machine.traced_load _
      · exact machine.screen.traced_nil
  | reportKey code pressed =>
      simp only [apply]
      split
      · exact machine.traced_reportCode _ pressed
      · exact machine.screen.traced_nil
  | draw sprite x y =>
      simp only [apply, pixelChanges_map_pixel]
      exact machine.screen.traced_draw sprite x y
  | clearScreen => exact machine.traced_execute .clearScreen
  | setSpeed value =>
      simp only [apply]
      split <;> exact machine.screen.traced_nil
  | loadMemory program =>
      simp only [apply, loadMemory, Attempt.publish]
      split <;> exact machine.screen.traced_nil
  | clean => exact fun sketch shown => ⟨trivial, shown.clean⟩
  | _ => exact machine.screen.traced_nil

/-- The events of a run tell what happens to the picture. -/
theorem traced_after (machine : Machine) (operations : List Operation) :
    machine.screen.Traced width height (machine.after operations).screen
      (pixelChanges (machine.published operations)) := by
  induction operations generalizing machine with
  | nil =>
      exact machine.screen.traced_nil
  | cons operation rest inductionHypothesis =>
      rw [published_cons, pixelChanges_append]
      exact (machine.traced_apply operation).append
        (inductionHypothesis (machine.apply operation).machine)

/-- A hook that listens from a new picture on can draw it.  Worked into a dark
sketch, the changes that it heard give the picture, whichever way one looks at
that, and each of them is of a pixel inside the picture and of the opposite of
what the sketch showed there. -/
theorem sketch_of_hook
    {width height : Int} (machine : Machine) (operations : List Operation)
    (observers : Observers)
    (created : Screen.create? width height = some machine.screen)
    (hooked : observers.hasHook = true) :
    let last := (machine.after operations).screen
    let notices := (machine.published operations).map .machine
    let changes := Effect.hooks (observers.observeAll notices).2
    let sketch := Sketch.dark.replay changes
    last.pixels =
        ((Array.range (width.toNat * height.toNat)).map fun number =>
          sketch (number % width.toNat) (number / width.toNat)) ∧
      last.rows =
        ((List.range height.toNat).map fun row =>
          (List.range width.toNat).map fun column => sketch column row) ∧
      (∀ x y : Int,
        last.isLit x y = sketch (x % width).toNat (y % height).toNat) ∧
      ∀ earlier change later, changes = earlier ++ change :: later →
        change.x < width ∧ change.y < height ∧
          change.lit = !Sketch.dark.replay earlier change.x change.y := by
  intro last notices changes sketch
  have heard : changes = pixelChanges (machine.published operations) := by
    rw [← Notice.filterMap_pixelChange?_machine]
    exact Effect.hooks_observeAll hooked _
  have start : machine.screen.Matches width.toNat height.toNat .dark :=
    .of_create? created
  obtain ⟨genuine, shown⟩ := machine.traced_after operations _ start
  rw [← heard] at genuine shown
  have wide : (width.toNat : Int) = width := by
    have positive := start.sized.width_pos
    omega
  have high : (height.toNat : Int) = height := by
    have positive := start.sized.height_pos
    omega
  refine ⟨shown.pixels_eq, shown.rows_eq, ?_, ?_⟩
  · intro x y
    rw [← wide, ← high]
    exact shown.isLit_eq x y
  · intro earlier change later parted
    rw [parted] at genuine
    obtain ⟨⟨column, row⟩, turned⟩ := genuine.report
    exact ⟨by omega, by omega, turned⟩

/-- A machine with a narrow picture, about to draw its own instruction. -/
def easel : Machine where
  processor :=
    { [0xD0, 0x02].zipIdx.foldl
        (fun current entry => current.write entry.2 entry.1)
        (Processor.starting (Vector.replicate memorySize 0)) with pc := 0 }
  screen := .blank 3 2
  random := .ofSeed 0
  speed := 1

/-- Sprites that are wider and taller than the picture turn pixels over several
times, before and after a clearing. -/
theorem sketch_of_hook_easel :
    let operations : List Operation :=
      [.draw [-1, 0x3C0, 0] (-2) 5, .clearScreen, .draw [0x80] 4 1, .frame]
    let notices := (easel.published operations).map .machine
    let changes :=
      Effect.hooks (Observers.observeAll ⟨true, none, .nobody⟩ notices).2
    changes.length = 19 ∧
      (easel.after operations).screen.rows =
        [[false, true, false], [true, true, false]] ∧
      (easel.after operations).screen.isLit (-2) 7 = true := by
  intro operations notices changes
  obtain ⟨-, rows, isLit, -⟩ :=
    sketch_of_hook easel operations ⟨true, none, .nobody⟩
      (show Screen.create? 3 2 = some easel.screen from rfl) rfl
  rw [rows, isLit]
  exact ⟨by decide +kernel, by decide +kernel, by decide +kernel⟩

end Machine

end Chip8
