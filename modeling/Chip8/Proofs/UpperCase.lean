import Mathlib.Data.List.Basic
import Chip8.Text.Upper

/-!
# Upper case stays

A text in upper case is its own upper case, so that names may be brought to upper
case again and again.

* `CaseRun.misses` compares two runs and tells that none moves an upper case of
  the other again (`CaseRun.upper?_of_misses`), and `misses_caseRuns` says so of
  all runs of the table;
* an upper case is its own upper case, for numbers (`upperCodes_of_mem`), for
  symbols (`upperSymbols_of_mem`) and for texts (`upper_upper`).
-/

namespace Chip8.Text

/-! ## Runs -/

namespace CaseRun

/-- No upper case that a run gives is moved by another run: it lies before or
behind that run, or both skip every second character and do not meet. -/
def misses (run other : CaseRun) : Bool :=
  Nat.blt (run.upper + (run.last - run.first)) other.first ||
    Nat.blt other.last run.upper ||
    (other.stride == 2 && (run.stride == 2 || run.first == run.last) &&
      (run.upper + other.first) % 2 == 1)

theorem upper?_eq_some_iff {run : CaseRun} {code upper : Nat} :
    run.upper? code = some upper ↔
      run.first ≤ code ∧ code ≤ run.last ∧
        (code - run.first) % run.stride = 0 ∧
        upper = run.upper + (code - run.first) := by
  unfold upper?
  split
  · next inside =>
      rw [Option.some.injEq]
      exact ⟨fun same => ⟨inside.1, inside.2.1, inside.2.2, same.symm⟩,
        fun all => all.2.2.2.symm⟩
  · next outside =>
      refine iff_of_false (fun found => by contradiction) ?_
      rintro ⟨first, last, step, -⟩
      exact outside ⟨first, last, step⟩

/-- A run that is missed does not move the upper case again. -/
theorem upper?_of_misses
    {run other : CaseRun} {code upper : Nat} (misses : run.misses other = true)
    (moved : run.upper? code = some upper) : other.upper? upper = none := by
  obtain ⟨first, last, step, rfl⟩ := upper?_eq_some_iff.mp moved
  rw [Option.eq_none_iff_forall_ne_some]
  intro again movedAgain
  obtain ⟨otherFirst, otherLast, otherStep, -⟩ :=
    upper?_eq_some_iff.mp movedAgain
  simp only [CaseRun.misses, Bool.or_eq_true, Bool.and_eq_true, Nat.blt_eq,
    beq_iff_eq] at misses
  rcases misses with (before | behind) | ⟨⟨otherSkips, skips⟩, parity⟩
  · omega
  · omega
  · rw [otherSkips] at otherStep
    rcases skips with skips | single
    · rw [skips] at step
      omega
    · omega

end CaseRun

/-- The run of one character that stays. -/
def CaseRun.single (code : Nat) : CaseRun := ⟨code, code, 1, code⟩

-- the tables are fixed, so the kernel compares every run with every other one

theorem misses_caseRuns :
    (caseRuns.all fun run => caseRuns.all run.misses) = true := by
  decide +kernel

theorem misses_caseExpansions :
    (caseRuns.all fun run =>
      caseExpansions.all fun entry => run.misses (.single entry.1)) = true := by
  decide +kernel

/-- The upper cases of runs are numbers of characters. -/
theorem isValidChar_caseRuns :
    ∀ run ∈ caseRuns, run.upper + (run.last - run.first) < 0xD800 ∨
      0xDFFF < run.upper ∧ run.upper + (run.last - run.first) < 0x110000 := by
  decide +kernel

/-- Upper cases of several characters stay, and are numbers of characters. -/
theorem upperCodes_caseExpansions :
    ∀ entry ∈ caseExpansions, ∀ code ∈ entry.2,
      upperCodes code = [code] ∧ code < 0xD800 := by
  decide +kernel

/-! ## Characters and texts -/

/-- A number that no run and no list of several characters moves stays. -/
theorem upperCodes_of_unmoved {code : Nat}
    (unmoved : ∀ run ∈ caseRuns, run.upper? code = none)
    (whole : ∀ entry ∈ caseExpansions, entry.1 ≠ code) :
    upperCodes code = [code] := by
  have absent : caseExpansions.lookup code = none := by
    rw [List.lookup_eq_none_iff]
    intro entry member
    exact bne_iff_ne.mpr (Ne.symm (whole entry member))
  rw [upperCodes, List.findSome?_eq_none_iff.mpr unmoved, absent]
  rfl

/-- The upper case that a run gives is moved by no run, and is no key of the
characters with several. -/
theorem upperCodes_of_run {run : CaseRun} {code upper : Nat}
    (listed : run ∈ caseRuns) (moved : run.upper? code = some upper) :
    upperCodes upper = [upper] ∧ upper.isValidChar := by
  have missesRuns := List.all_eq_true.mp misses_caseRuns run listed
  have missesKeys := List.all_eq_true.mp misses_caseExpansions run listed
  constructor
  · apply upperCodes_of_unmoved
    · intro other otherListed
      exact CaseRun.upper?_of_misses
        (List.all_eq_true.mp missesRuns other otherListed) moved
    · intro entry entryListed same
      have kept := CaseRun.upper?_of_misses
        (List.all_eq_true.mp missesKeys entry entryListed) moved
      have single : (CaseRun.single entry.1).upper? upper = some upper :=
        CaseRun.upper?_eq_some_iff.mpr (by simp [CaseRun.single, same])
      rw [kept] at single
      contradiction
  · obtain ⟨first, last, -, rfl⟩ := CaseRun.upper?_eq_some_iff.mp moved
    have valid := isValidChar_caseRuns run listed
    simp only [Nat.isValidChar]
    omega

/-- An upper case is its own upper case, and the number of a character if it is
the upper case of one. -/
theorem upperCodes_of_mem {code upper : Nat} (valid : code.isValidChar)
    (member : upper ∈ upperCodes code) :
    upperCodes upper = [upper] ∧ upper.isValidChar := by
  cases found : caseRuns.findSome? fun run => run.upper? code with
  | some moved =>
      rw [upperCodes, found] at member
      obtain rfl := List.mem_singleton.mp member
      obtain ⟨run, listed, atRun⟩ := List.exists_of_findSome?_eq_some found
      exact upperCodes_of_run listed atRun
  | none =>
      cases expansion : caseExpansions.lookup code with
      | none =>
          have stays : upperCodes code = [code] := by
            rw [upperCodes, found, expansion]
            rfl
          rw [stays] at member
          obtain rfl := List.mem_singleton.mp member
          exact ⟨stays, valid⟩
      | some codes =>
          rw [upperCodes, found, expansion] at member
          obtain ⟨before, after, split, -⟩ :=
            List.lookup_eq_some_iff.mp expansion
          have listed : (code, codes) ∈ caseExpansions :=
            split ▸ List.mem_append_right before List.mem_cons_self
          obtain ⟨stays, small⟩ :=
            upperCodes_caseExpansions _ listed upper member
          exact ⟨stays, .inl small⟩

/-- The upper case of a symbol stays. -/
theorem upperSymbols_of_mem {symbol upper : Symbol}
    (member : upper ∈ upperSymbols symbol) : upperSymbols upper = [upper] := by
  cases symbol with
  | character value =>
      obtain ⟨code, listed, rfl⟩ := List.mem_map.mp member
      obtain ⟨stays, valid⟩ := upperCodes_of_mem value.valid listed
      have number : (Char.ofNat code).toNat = code := by
        rw [Char.ofNat, dif_pos valid]
        rfl
      rw [upperSymbols, number, stays]
      rfl
  | half offset =>
      obtain rfl := List.mem_singleton.mp member
      rfl

/-- A text in upper case is its own upper case. -/
@[simp]
theorem upper_upper (text : Text) : upper (upper text) = upper text := by
  simp only [upper, Text.mk.injEq, List.flatMap_assoc]
  apply List.flatMap_congr
  intro symbol _
  have stays : ∀ symbols : List Symbol,
      (∀ upper ∈ symbols, upperSymbols upper = [upper]) →
        symbols.flatMap upperSymbols = symbols := by
    intro symbols each
    rw [List.flatMap_congr each, List.flatMap_singleton']
  exact stays (upperSymbols symbol) fun _ => upperSymbols_of_mem

end Chip8.Text
