import Chip8.Proofs.Restart

/-!
# Programs as words

A program is a list of words of two bytes, and a machine that has loaded it
reads these words where the program counter points.

* `assemble` writes words down as bytes, `getElem?_assemble` says where the two
  bytes of each word go, and `exists_assemble` that every program of whole words
  is written so;
* `wordAt` is the word that is read for a program counter, made of two cells
  modulo the memory size (`wordAt_eq_get`);
* `wordAt_load_assemble` says which word is read from a loaded program, and
  `words_of_load` puts this together in both directions, from words to a program
  and from a program to words.
-/

namespace Chip8

/-! ## Words as bytes -/

/-- The bytes of some words, one word after the other, high byte first. -/
def assemble (words : List Nat) : List UInt8 :=
  words.flatMap fun word =>
    [UInt8.ofNat (word / 256), UInt8.ofNat (word % 256)]

theorem assemble_cons (word : Nat) (rest : List Nat) :
    assemble (word :: rest) =
      UInt8.ofNat (word / 256) :: UInt8.ofNat (word % 256) :: assemble rest :=
  rfl

@[simp]
theorem length_assemble (words : List Nat) :
    (assemble words).length = 2 * words.length := by
  induction words with
  | nil =>
      rfl
  | cons word rest inductionHypothesis =>
      simp only [assemble_cons, List.length_cons, inductionHypothesis]
      omega

/-- The bytes of a word stand at twice its place and behind that. -/
theorem getElem?_assemble (words : List Nat) (number : Nat) :
    (assemble words)[2 * number]? =
        words[number]?.map (fun word => UInt8.ofNat (word / 256)) ∧
      (assemble words)[2 * number + 1]? =
        words[number]?.map (fun word => UInt8.ofNat (word % 256)) := by
  induction words generalizing number with
  | nil =>
      exact ⟨rfl, rfl⟩
  | cons word rest inductionHypothesis =>
      cases number with
      | zero =>
          exact ⟨rfl, rfl⟩
      | succ before =>
          simp only [assemble_cons, Nat.mul_succ, List.getElem?_cons_succ]
          exact inductionHypothesis before

/-- Two bytes are those of the word that they make up. -/
theorem bytes_of_word (high low : UInt8) :
    UInt8.ofNat ((256 * high.toNat + low.toNat) / 256) = high ∧
      UInt8.ofNat ((256 * high.toNat + low.toNat) % 256) = low := by
  have small := low.toNat_lt
  have upper : (256 * high.toNat + low.toNat) / 256 = high.toNat := by omega
  have lower : (256 * high.toNat + low.toNat) % 256 = low.toNat := by omega
  rw [upper, lower]
  exact ⟨UInt8.ofNat_toNat, UInt8.ofNat_toNat⟩

/-- A program with an even number of bytes is a list of words. -/
theorem exists_assemble :
    ∀ program : List UInt8, program.length % 2 = 0 →
      ∃ words, (∀ word ∈ words, word < 0x10000) ∧ assemble words = program
  | [], _ => ⟨[], fun _ member => absurd member List.not_mem_nil, rfl⟩
  | [_], odd => absurd odd Nat.one_ne_zero
  | high :: low :: rest, even => by
      have restEven : rest.length % 2 = 0 := by
        simp only [List.length_cons] at even
        omega
      obtain ⟨words, small, rfl⟩ := exists_assemble rest restEven
      obtain ⟨upper, lower⟩ := bytes_of_word high low
      refine ⟨(256 * high.toNat + low.toNat) :: words,
        List.forall_mem_cons.mpr ⟨?_, small⟩, ?_⟩
      · have := high.toNat_lt
        have := low.toNat_lt
        omega
      · rw [assemble_cons, upper, lower]

/-! ## Words in memory -/

namespace Processor

/-- The word that is read with a program counter. -/
def wordAt (processor : Processor) (pc : Int) : Nat :=
  { processor with pc := pc }.nextWord

/-- The two bytes of a word lie at its address and the next one, modulo the
memory size. -/
theorem wordAt_eq_get
    (processor : Processor) {pc : Int} {high low : Fin memorySize}
    (first : (high.val : Int) = pc % 4096)
    (second : (low.val : Int) = (pc + 1) % 4096) :
    processor.wordAt pc =
      256 * processor.memory.get high + processor.memory.get low := by
  have atHigh : cell pc = high := by
    apply Fin.ext
    simp only [cell, memorySize]
    omega
  have atLow : cell (pc + 1) = low := by
    apply Fin.ext
    simp only [cell, memorySize]
    omega
  rw [← atHigh, ← atLow, Nat.mul_comm]
  rfl

end Processor

namespace Machine

variable {machine : Machine} {words : List Nat}

/-- The byte of a loaded program at a place of it. -/
theorem get_load
    {program : List UInt8} (fits : program.length ≤ programCapacity)
    {byte : UInt8} {place : Nat} (listed : program[place]? = some byte)
    {target : Fin memorySize} (here : target.val = programStart + place) :
    (machine.load program).machine.processor.memory.get target = byte.toNat := by
  have inside : place < program.length := (List.getElem?_eq_some_iff.mp listed).1
  have stored :=
    @Memory.get_overlay machine.processor.memory programStart program fits target
  rw [if_pos (by omega), here, Nat.add_sub_cancel_left,
    List.getD_eq_getElem?_getD, listed] at stored
  rw [load_of_fits fits]
  exact stored

/-- After words were loaded as a program, each of them is read wherever the
program counter names its place. -/
theorem wordAt_load_assemble
    (fits : words.length ≤ 1792) (small : ∀ word ∈ words, word < 0x10000)
    {number word : Nat} (listed : words[number]? = some word)
    {pc : Int} (here : pc % 4096 = (0x200 + 2 * number) % 4096) :
    (machine.load (assemble words)).machine.processor.wordAt pc = word := by
  have inside : number < words.length := (List.getElem?_eq_some_iff.mp listed).1
  have bound := small word (List.mem_of_getElem? listed)
  have room : (assemble words).length ≤ programCapacity := by
    rw [length_assemble]
    unfold programCapacity memorySize programStart
    omega
  obtain ⟨upper, lower⟩ := getElem?_assemble words number
  rw [listed, Option.map_some] at upper lower
  let high : Fin memorySize :=
    ⟨programStart + 2 * number, by unfold memorySize programStart; omega⟩
  let low : Fin memorySize :=
    ⟨programStart + (2 * number + 1), by unfold memorySize programStart; omega⟩
  have first : (high.val : Int) = pc % 4096 := by
    simp only [high, programStart]
    omega
  have second : (low.val : Int) = (pc + 1) % 4096 := by
    simp only [low, programStart]
    omega
  rw [Processor.wordAt_eq_get _ first second, get_load room upper rfl,
    get_load room lower rfl, UInt8.toNat_ofNat', UInt8.toNat_ofNat']
  omega

/-- Words of two bytes and programs of whole words are the same thing to a
machine, whatever it did before.  After words that fit were loaded as a program,
each of them is read for every program counter that names its place modulo the
memory size.  After a program of an even number of bytes was loaded, the words
that are read from its start on make it up.  And whatever a processor holds, the
word at an address is made of the byte there and the next one modulo the memory
size, for the last address of the byte at the first one. -/
theorem words_of_load (machine : Machine) :
    (∀ words : List Nat, words.length ≤ 1792 →
      (∀ word ∈ words, word < 0x10000) →
      let loaded := machine.load (assemble words)
      loaded.result = .ok () ∧
        ∀ number word : Nat, words[number]? = some word →
          ∀ pc : Int, pc % 4096 = (0x200 + 2 * number) % 4096 →
            loaded.machine.processor.wordAt pc = word) ∧
      (∀ program : List UInt8, program.length % 2 = 0 →
        program.length ≤ 3584 →
        let loaded := machine.load program
        loaded.result = .ok () ∧
          assemble ((List.range (program.length / 2)).map fun number : Nat =>
            loaded.machine.processor.wordAt (0x200 + 2 * number)) = program) ∧
      ∀ (processor : Processor) (pc : Int),
        (∀ high low : Fin memorySize,
          (high.val : Int) = pc % 4096 → (low.val : Int) = (pc + 1) % 4096 →
            processor.wordAt pc =
              256 * processor.memory.get high + processor.memory.get low) ∧
          (pc % 4096 = 0xFFF →
            processor.wordAt pc =
              256 * processor.read 0xFFF + processor.read 0) := by
  refine ⟨?toProgram, ?toWords, ?cells⟩
  case toProgram =>
    intro words fits small loaded
    have room : (assemble words).length ≤ programCapacity := by
      rw [length_assemble]
      unfold programCapacity memorySize programStart
      omega
    refine ⟨?_, fun number word listed pc here => ?_⟩
    · exact congrArg Outcome.result (load_of_fits room)
    · exact wordAt_load_assemble fits small listed here
  case toWords =>
    intro program even fits loaded
    obtain ⟨words, small, rfl⟩ := exists_assemble program even
    rw [length_assemble] at fits
    have short : words.length ≤ 1792 := by omega
    refine ⟨congrArg Outcome.result (load_of_fits ?_), ?_⟩
    · rw [length_assemble]
      exact fits
    · rw [length_assemble, Nat.mul_div_cancel_left _ (by decide)]
      refine congrArg assemble (List.ext_getElem (by simp) ?_)
      intro number _ inside
      rw [List.getElem_map, List.getElem_range]
      exact wordAt_load_assemble short small
        (List.getElem?_eq_getElem inside) rfl
  case cells =>
    intro processor pc
    refine ⟨fun high low first second =>
      processor.wordAt_eq_get first second, fun last => ?_⟩
    have first : ((cell 0xFFF).val : Int) = pc % 4096 := by
      simp only [cell, memorySize]
      omega
    have second : ((cell 0).val : Int) = (pc + 1) % 4096 := by
      simp only [cell, memorySize]
      omega
    exact processor.wordAt_eq_get first second

/-- A machine that waits with its program overwritten reads a new program at any
alias of an address, and at the last address across the end of memory. -/
theorem words_of_load_alias :
    let machine : Machine :=
      (fresh (.blank 4 2) (.ofSeed 1) 1).after
        [.load [0xF0, 0x0A, 0x12], .step, .write 0x201 0x77, .write 0xFFF 0xA5]
    let loaded := machine.load (assemble [0x6A42, 0x00EE, 0xFFFF])
    machine.isWaiting = true ∧
      loaded.machine.processor.wordAt 0x202 = 0x00EE ∧
      loaded.machine.processor.wordAt (0x204 - 0x3000) = 0xFFFF ∧
      assemble [(machine.load [0x12, 0x34]).machine.processor.wordAt 0x200] =
        [0x12, 0x34] ∧
      loaded.machine.processor.wordAt 0x2FFF = 0xA5F0 := by
  intro machine loaded
  obtain ⟨toProgram, toWords, cells⟩ := words_of_load machine
  obtain ⟨-, read⟩ := toProgram [0x6A42, 0x00EE, 0xFFFF] (by decide) (by decide)
  obtain ⟨-, again⟩ := toWords [0x12, 0x34] (by decide) (by decide)
  obtain ⟨-, last⟩ := cells loaded.machine.processor 0x2FFF
  refine ⟨by decide +kernel, read 1 _ rfl _ (by decide),
    read 2 _ rfl _ (by decide), again, ?_⟩
  exact (last (by decide)).trans (by decide +kernel)

end Machine

end Chip8
