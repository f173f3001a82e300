import Chip8.Text

/-!
# Ordered tables of names

A table maps names to values and keeps the order in which the names were first
put in.  Putting a value under a name that is there already replaces the value
and keeps the place.
-/

namespace Chip8

/-- Names with values, in order. -/
abbrev Entries (α : Type) := List (Text × α)

namespace Entries

variable {α : Type}

/-- Put a value under a name. -/
def put : Entries α → Text → α → Entries α
  | [], name, value => [(name, value)]
  | (other, old) :: rest, name, value =>
      if other = name then
        (name, value) :: rest
      else
        (other, old) :: put rest name value

/-- The value under a name. -/
def get? : Entries α → Text → Option α
  | [], _ => none
  | (other, value) :: rest, name =>
      if other = name then some value else get? rest name

/-- Only the name that is put in changes its value. -/
theorem get?_put
    (entries : Entries α) (name tested : Text) (value : α) :
    (entries.put name value).get? tested =
      if name = tested then some value else entries.get? tested := by
  induction entries with
  | nil =>
      rfl
  | cons entry rest inductionHypothesis =>
      obtain ⟨other, old⟩ := entry
      by_cases atPlace : other = name
      · subst atPlace
        by_cases same : other = tested
        · simp [put, get?, same]
        · simp [put, get?, same]
      · by_cases same : other = tested
        · subst same
          simp [put, get?, atPlace, Ne.symm atPlace]
        · simp [put, get?, atPlace, same, inductionHypothesis]

/-- Put all of some entries into a table, in order. -/
def putAll (entries : Entries α) (additions : List (Text × α)) :
    Entries α :=
  additions.foldl (fun current entry => current.put entry.1 entry.2) entries

@[simp]
theorem putAll_nil (entries : Entries α) :
    entries.putAll [] = entries := rfl

@[simp]
theorem putAll_cons
    (entries : Entries α) (entry : Text × α) (rest : List (Text × α)) :
    entries.putAll (entry :: rest) =
      (entries.put entry.1 entry.2).putAll rest := rfl

/-- The last of the entries with a name decides its value. -/
theorem get?_putAll
    (entries : Entries α) (additions : List (Text × α)) (tested : Text) :
    (entries.putAll additions).get? tested =
      ((additions.filter fun entry => entry.1 = tested).getLast?.map
        Prod.snd).or (entries.get? tested) := by
  induction additions generalizing entries with
  | nil =>
      simp
  | cons entry rest inductionHypothesis =>
      rw [putAll_cons, inductionHypothesis, get?_put]
      by_cases same : entry.1 = tested
      · cases found : rest.filter (fun entry => entry.1 = tested) with
        | nil =>
            simp [same, found]
        | cons head tail =>
            simp [same, found, List.getLast?_cons]
      · simp [same]

/-- The table that results from putting in some entries in order. -/
def ofPairs (pairs : List (Text × α)) : Entries α :=
  putAll [] pairs

end Entries

end Chip8
