import Chip8.Proofs.Sketch

/-!
# Starting over

Whatever a machine did before, loading a program starts it over.

* `Memory.get_overlay` says what a program that is put into memory leaves there,
  and `overlay_overlay` that putting it there again changes nothing;
* `load_of_fits` and `load_of_large` say what a load does, completed or refused;
* `load_restarts` compares a load after any run with the load of a machine that
  was just switched on.
-/

namespace Chip8

/-! ## Memory -/

namespace Memory

variable (memory : Memory) {start : Nat} {bytes : List UInt8}
  (fits : bytes.length ≤ memorySize - start)

/-- Only the cells under the bytes change. -/
theorem get_overlay (place : Fin memorySize) :
    (memory.overlay start bytes fits).get place =
      if start ≤ place.val ∧ place.val < start + bytes.length then
        (bytes.getD (place.val - start) 0).toNat
      else memory.get place := by
  have found :=
    memory.getElem_overlay start bytes fits place.val place.isLt
  by_cases before : place.val < start
  · rw [if_pos before] at found
    rw [if_neg (by omega)]
    exact found
  · rw [if_neg before] at found
    by_cases within : place.val < start + bytes.length
    · have listed : place.val - start < bytes.length := by omega
      rw [if_pos ⟨Nat.le_of_not_lt before, within⟩,
        List.getD_eq_getElem?_getD]
      rw [List.getElem?_eq_getElem listed] at found ⊢
      exact found
    · rw [List.getElem?_eq_none (by omega)] at found
      rw [if_neg (fun covered => within covered.2)]
      exact found

theorem overlay_overlay :
    (memory.overlay start bytes fits).overlay start bytes fits =
      memory.overlay start bytes fits := by
  apply Vector.ext
  intro place bound
  have again :=
    (memory.overlay start bytes fits).get_overlay fits ⟨place, bound⟩
  have once := memory.get_overlay fits ⟨place, bound⟩
  split at again
  · next covered =>
      rw [if_pos covered] at once
      exact again.trans once.symm
  · exact again

end Memory

/-! ## Loading -/

namespace Screen

/-- The only picture of a size that can be created is a new one. -/
theorem clear_eq_of_create?
    {width height : Int} {screen old : Screen}
    (created : create? width height = some screen)
    (sized : old.Sized width.toNat height.toNat) : old.clear = screen := by
  rw [clear, sized.width_eq, sized.height_eq]
  unfold create? at created
  split at created
  · exact Option.some.inj created
  · contradiction

end Screen

namespace Machine

variable {machine : Machine} {program : List UInt8}

/-- A program that fits is put into memory after a reset. -/
theorem load_of_fits (fits : program.length ≤ programCapacity) :
    machine.load program =
      ⟨{ machine with
          processor := .starting
            (machine.processor.memory.overlay programStart program fits)
          screen := machine.screen.clear },
        (machine.reset : Outcome Fault Unit).events ++
          [.stored program.length, .loaded program.length],
        .ok ()⟩ := by
  simp only [load, Processor.load, dif_pos fits, reset, Processor.reset,
    Processor.done, Processor.starting, Attempt.publish]

/-- A program that does not fit is refused after a reset. -/
theorem load_of_large (large : programCapacity < program.length) :
    machine.load program =
      { (machine.reset : Outcome Fault Unit) with
        result :=
          .error (.programTooLarge program.length programCapacity) } := by
  simp only [load, Processor.load, dif_neg (Nat.not_le_of_lt large),
    Attempt.publish, List.append_nil]

theorem toneCalls_reset :
    toneCalls (machine.reset : Outcome Fault Unit).events = [.stop] := by
  simp only [reset, toneCalls_append, toneCalls_map_pixel]
  exact List.nil_append _

/-- Loading a program again changes nothing. -/
theorem load_load (fits : program.length ≤ programCapacity) :
    ((machine.load program).machine.load program).machine =
      (machine.load program).machine := by
  have again :
      (machine.processor.memory.overlay programStart program fits).overlay
          programStart program fits =
        machine.processor.memory.overlay programStart program fits :=
    Memory.overlay_overlay _ fits
  simp only [load_of_fits fits, Processor.starting, again]
  rfl

/-- Whatever a machine was switched on for and did since, loading a program
that fits starts it over.  All but its memory, speed and random bytes is as in
another machine of its size that was just switched on and loads the program: the
picture is dark and to be shown, nothing waits and no key is down.  The program
is in memory and the rest of memory is kept, the tone was told to stop and
nothing else, and loading again changes nothing.  A program that does not fit
does what a reset does and is refused, and one that cannot be read from its file
does nothing at all. -/
theorem load_restarts
    {width height : Int} {screen : Screen}
    (created : Screen.create? width height = some screen)
    (random otherRandom : RandomSource) (speed otherSpeed : Nat)
    (operations : List Operation) (program : List UInt8) :
    let machine := (fresh screen random speed).after operations
    let loaded := machine.load program
    let first := (fresh screen otherRandom otherSpeed).load program
    (program.length ≤ 3584 →
      loaded.result = .ok () ∧
        loaded.machine =
          { first.machine with
            processor := { first.machine.processor with
              memory := loaded.machine.processor.memory }
            random := machine.random
            speed := machine.speed } ∧
        (∀ x y : Int, loaded.machine.screen.isLit x y = false) ∧
        loaded.machine.screen.dirty = true ∧
        loaded.machine.isWaiting = false ∧
        (∀ key : Key, loaded.machine.processor.keys.get key = false) ∧
        (∀ place : Fin memorySize,
          loaded.machine.processor.memory.get place =
            if 0x200 ≤ place.val ∧ place.val < 0x200 + program.length then
              (program.getD (place.val - 0x200) 0).toNat
            else machine.processor.memory.get place) ∧
        toneCalls loaded.events = [.stop] ∧
        (loaded.machine.load program).machine = loaded.machine) ∧
      (3584 < program.length →
        loaded =
            { (machine.reset : Outcome Fault Unit) with
              result := .error (.programTooLarge program.length 3584) } ∧
          loaded.machine.processor.memory = machine.processor.memory) ∧
      ∀ (files : FileSystem) (path : Text) (reason : FileError),
        files.read path = .error reason →
          machine.apply (.loadFile files path) =
            ⟨machine, [], .error (.file reason)⟩ := by
  intro machine loaded first
  have sized : machine.screen.Sized width.toNat height.toNat :=
    (traced_after _ operations).sized (Screen.sized_of_create? created)
  have cleared : machine.screen.clear = screen :=
    Screen.clear_eq_of_create? created sized
  have clearedFirst : screen.clear = screen :=
    Screen.clear_eq_of_create? created (Screen.sized_of_create? created)
  refine ⟨fun fits => ?_, fun large => ?_, ?_⟩
  · have left : loaded = _ := load_of_fits fits
    have leftFirst : first = _ := load_of_fits fits
    refine ⟨?ok, ?same, ?dark, ?dirty, ?idle, ?released, ?stored, ?tone,
      load_load fits⟩
    case ok => rw [left]
    case same =>
      rw [left, leftFirst]
      simp only [fresh, Processor.starting, cleared, clearedFirst]
    case dark =>
      intro x y
      rw [left, cleared]
      exact (Screen.Matches.of_create? created).isLit_eq x y
    case dirty => rw [left, Screen.clear, Screen.blank]
    case idle => rw [left, isWaiting, Processor.isWaiting]; rfl
    case released =>
      intro key
      rw [left]
      exact Vector.getElem_replicate key.isLt
    case stored =>
      rw [left]
      exact Memory.get_overlay _ fits
    case tone =>
      rw [left, toneCalls_append, toneCalls_reset]
      rfl
  · have left : loaded = _ := load_of_large large
    refine ⟨left, ?_⟩
    rw [left]
    rfl
  · intro files path reason unreadable
    simp only [apply, unreadable, refuse]

/-- A machine that waits with a key down and a glyph overwritten is started
over, and so it is by a program that does not fit. -/
theorem load_restarts_overwritten :
    let operations : List Operation :=
      [.write 3 0xAA, .draw [0xA0] 1 1, .reportKey (.integer 5) true,
        .push 0x300, .execute 0x6309, .execute 0xF318, .execute 0xF00A]
    let machine := (fresh (.blank 4 2) (.ofSeed 1) 1).after operations
    let loaded := machine.load [0x12, 0x34]
    let refused := machine.load (List.replicate 3585 7)
    machine.isWaiting = true ∧
      machine.processor.keys.get 5 = true ∧
      loaded.machine.isWaiting = false ∧
      loaded.machine.processor.keys.get 5 = false ∧
      loaded.machine.processor.read 3 = 0xAA ∧
      loaded.machine.processor.read 0x201 = 0x34 ∧
      (loaded.machine.load [0x12, 0x34]).machine = loaded.machine ∧
      refused.result = .error (.programTooLarge 3585 3584) ∧
      refused.machine = (machine.reset : Outcome Fault Unit).machine ∧
      machine.apply (.loadFile (fun _ => .error .missing) "game") =
        ⟨machine, [], .error (.file ⟨"game", .missing⟩)⟩ := by
  intro operations machine loaded refused
  have created : Screen.create? 4 2 = some (.blank 4 2) := rfl
  obtain ⟨fits, -, unreadable⟩ :=
    load_restarts created (.ofSeed 1) (.ofSeed 2) 1 1 operations [0x12, 0x34]
  obtain ⟨-, large, -⟩ :=
    load_restarts created (.ofSeed 1) (.ofSeed 2) 1 1 operations
      (List.replicate 3585 7)
  obtain ⟨-, -, -, -, idle, released, stored, -, again⟩ := fits (by decide)
  obtain ⟨left, -⟩ := large (by rw [List.length_replicate]; decide)
  refine ⟨by decide +kernel, by decide +kernel, idle, released 5, ?_, ?_, again,
    ?_, ?_, unreadable _ _ _ rfl⟩
  · exact (stored (cell 3)).trans (by decide +kernel)
  · exact (stored (cell 0x201)).trans (by decide +kernel)
  · exact (congrArg Outcome.result left).trans
      (by rw [List.length_replicate])
  · have same := congrArg Outcome.machine left
    exact same

end Machine

end Chip8
