import Mathlib.Data.List.Forall2
import Mathlib.Data.List.Nodup
import Chip8.Entries

/-!
# Tables and their entries

What is in a table that was put together from entries, and what is found in it.

* `IsLast` tells the last item that passes a test; `IsLast.forall₂` takes it from
  one list to another one beside it;
* every name is in a table once (`nodup_ofPairs`), and of the pairs with one name
  the last one is in it (`mem_ofPairs_iff`), so that names are found by their
  entries (`get?_eq_some_iff`);
* a table with every name once stays as it is when it is put together again
  (`ofPairs_of_nodup`), and lies over another one in front (`get?_putAll_ofPairs`).
-/

namespace Chip8

/-! ## Last items -/

/-- An item is the last one of a list that passes a test. -/
def IsLast {α : Type} (test : α → Prop) (items : List α) (item : α) : Prop :=
  ∃ earlier later, items = earlier ++ item :: later ∧ test item ∧
    ∀ other ∈ later, ¬ test other

theorem getLast?_filter_eq_some_iff
    {α : Type} {test : α → Prop} [DecidablePred test] {items : List α}
    {item : α} :
    (items.filter fun item => test item).getLast? = some item ↔
      IsLast test items item := by
  rw [List.getLast?_filter, List.find?_eq_some_iff_append, decide_eq_true_iff]
  constructor
  · rintro ⟨passes, later, earlier, parted, none⟩
    refine ⟨earlier.reverse, later.reverse, ?_, passes, fun other member => ?_⟩
    · rw [← List.reverse_inj, parted]
      simp
    · simpa using none other (List.mem_reverse.mp member)
  · rintro ⟨earlier, later, rfl, passes, none⟩
    refine ⟨passes, later.reverse, earlier.reverse, by simp, ?_⟩
    intro other member
    simpa using none other (List.mem_reverse.mp member)

section Beside

variable {α β : Type} {related : α → β → Prop} {test : α → Prop}
  {other : β → Prop} {lefts : List α} {rights : List β}

theorem none_of_forall₂
    (same : ∀ left right, related left right → (test left ↔ other right))
    (beside : List.Forall₂ related lefts rights)
    (none : ∀ left ∈ lefts, ¬ test left) : ∀ right ∈ rights, ¬ other right := by
  induction beside with
  | nil =>
      exact List.forall_mem_nil _
  | cons isRelated _ inductionHypothesis =>
      obtain ⟨first, later⟩ := List.forall_mem_cons.mp none
      exact List.forall_mem_cons.mpr
        ⟨fun passes => first ((same _ _ isRelated).mpr passes),
          inductionHypothesis later⟩

/-- The last of some items that passes a test is related to the last of the items
beside them, if related items pass the tests together. -/
theorem IsLast.forall₂
    (same : ∀ left right, related left right → (test left ↔ other right))
    {item : α} (beside : List.Forall₂ related lefts rights)
    (last : IsLast test lefts item) :
    ∃ found, IsLast other rights found ∧ related item found := by
  obtain ⟨earlier, later, rfl, passes, none⟩ := last
  induction earlier generalizing rights with
  | nil =>
      obtain ⟨found, rest, isRelated, besideRest, rfl⟩ :=
        List.forall₂_cons_left_iff.mp beside
      exact ⟨found, ⟨[], rest, rfl, (same _ _ isRelated).mp passes,
        none_of_forall₂ same besideRest none⟩, isRelated⟩
  | cons first rest inductionHypothesis =>
      obtain ⟨firstFound, others, -, besideRest, rfl⟩ :=
        List.forall₂_cons_left_iff.mp beside
      obtain ⟨found, ⟨before, after, rfl, foundPasses, afterNone⟩, isRelated⟩ :=
        inductionHypothesis besideRest
      exact ⟨found, ⟨firstFound :: before, after, rfl, foundPasses, afterNone⟩,
        isRelated⟩

end Beside

namespace Entries

variable {α β : Type}

/-! ## Names of a table -/

theorem names_put (entries : Entries α) (name : Text) (value : α) :
    (entries.put name value).map Prod.fst = entries.map Prod.fst ∨
      name ∉ entries.map Prod.fst ∧
        (entries.put name value).map Prod.fst =
          entries.map Prod.fst ++ [name] := by
  induction entries with
  | nil =>
      exact .inr ⟨List.not_mem_nil, rfl⟩
  | cons entry rest inductionHypothesis =>
      obtain ⟨other, old⟩ := entry
      by_cases same : other = name
      · subst same
        exact .inl (by simp [put])
      · rcases inductionHypothesis with kept | ⟨absent, added⟩
        · exact .inl (by simp [put, same, kept])
        · refine .inr ⟨?_, by simp [put, same, added]⟩
          rw [List.map_cons, List.mem_cons]
          exact not_or.mpr ⟨Ne.symm same, absent⟩

theorem nodup_put {entries : Entries α}
    (nodup : (entries.map Prod.fst).Nodup) (name : Text) (value : α) :
    ((entries.put name value).map Prod.fst).Nodup := by
  rcases names_put entries name value with kept | ⟨absent, added⟩
  · rw [kept]
    exact nodup
  · rw [added, List.nodup_append]
    refine ⟨nodup, List.nodup_singleton name, fun other member last isLast => ?_⟩
    rintro rfl
    exact absent (List.mem_singleton.mp isLast ▸ member)

theorem nodup_putAll {entries : Entries α}
    (nodup : (entries.map Prod.fst).Nodup) (additions : List (Text × α)) :
    ((entries.putAll additions).map Prod.fst).Nodup := by
  induction additions generalizing entries with
  | nil =>
      exact nodup
  | cons addition rest inductionHypothesis =>
      exact inductionHypothesis (nodup_put nodup addition.1 addition.2)

/-- A table that was put together has every name once. -/
theorem nodup_ofPairs (pairs : List (Text × α)) :
    ((ofPairs pairs).map Prod.fst).Nodup :=
  @nodup_putAll α [] List.nodup_nil pairs

/-- In a table with every name once, each entry is found under its name. -/
theorem get?_eq_some_iff
    {entries : Entries α} (nodup : (entries.map Prod.fst).Nodup)
    {name : Text} {value : α} :
    entries.get? name = some value ↔ (name, value) ∈ entries := by
  induction entries with
  | nil =>
      simp [get?]
  | cons entry rest inductionHypothesis =>
      obtain ⟨other, old⟩ := entry
      obtain ⟨fresh, nodupRest⟩ := List.nodup_cons.mp nodup
      rw [get?, List.mem_cons, Prod.mk.injEq]
      by_cases same : other = name
      · subst same
        have absent : (other, value) ∉ rest :=
          fun member => fresh (List.mem_map.mpr ⟨_, member, rfl⟩)
        simp [absent, eq_comm]
      · simp [same, Ne.symm same, inductionHypothesis nodupRest]

/-- The last of the pairs with a name decides its value. -/
theorem get?_ofPairs (pairs : List (Text × α)) (name : Text) :
    (ofPairs pairs).get? name =
      (pairs.filter fun pair => pair.1 = name).getLast?.map Prod.snd := by
  rw [ofPairs, get?_putAll, get?, Option.or_none]

/-- Of the pairs with one name, the last one is an entry of the table that they
make. -/
theorem mem_ofPairs_iff {pairs : List (Text × α)} {pair : Text × α} :
    pair ∈ ofPairs pairs ↔
      IsLast (fun other => other.1 = pair.1) pairs pair := by
  rw [← Prod.eta pair, ← get?_eq_some_iff (nodup_ofPairs pairs), Prod.eta,
    get?_ofPairs, Option.map_eq_some_iff]
  constructor
  · rintro ⟨last, listed, same⟩
    have isLast := getLast?_filter_eq_some_iff.mp listed
    have named : last.1 = pair.1 := by
      obtain ⟨_, _, _, named, _⟩ := isLast
      exact named
    rwa [Prod.ext named same] at isLast
  · intro isLast
    exact ⟨pair, getLast?_filter_eq_some_iff.mpr isLast, rfl⟩

/-- A table is made of nothing but the pairs that it was put together from. -/
theorem mem_of_mem_ofPairs {pairs : List (Text × α)} {pair : Text × α}
    (member : pair ∈ ofPairs pairs) : pair ∈ pairs := by
  obtain ⟨earlier, later, parted, -⟩ := mem_ofPairs_iff.mp member
  rw [parted]
  exact List.mem_append_right earlier List.mem_cons_self

/-! ## Tables over tables -/

theorem put_of_not_mem
    {entries : Entries α} {name : Text} (absent : name ∉ entries.map Prod.fst)
    (value : α) : entries.put name value = entries ++ [(name, value)] := by
  induction entries with
  | nil =>
      rfl
  | cons entry rest inductionHypothesis =>
      obtain ⟨other, old⟩ := entry
      rw [List.map_cons, List.mem_cons, not_or] at absent
      simp [put, Ne.symm absent.1, inductionHypothesis absent.2]

theorem putAll_of_nodup
    {entries additions : Entries α}
    (nodup : ((entries ++ additions).map Prod.fst).Nodup) :
    entries.putAll additions = entries ++ additions := by
  induction additions generalizing entries with
  | nil =>
      rw [putAll_nil, List.append_nil]
  | cons addition rest inductionHypothesis =>
      have absent : addition.1 ∉ entries.map Prod.fst := by
        intro member
        rw [List.map_append, List.map_cons] at nodup
        exact (List.nodup_append.mp nodup).2.2 _ member _ List.mem_cons_self rfl
      have again : entries ++ addition :: rest = (entries ++ [addition]) ++ rest := by
        simp
      rw [putAll_cons, put_of_not_mem absent, Prod.eta, inductionHypothesis, again]
      rw [← again]
      exact nodup

/-- A table with every name once stays as it is when it is put together again. -/
theorem ofPairs_of_nodup
    {entries : Entries α} (nodup : (entries.map Prod.fst).Nodup) :
    ofPairs entries = entries :=
  @putAll_of_nodup α [] entries nodup

/-- In a table with another one laid over it, a name is looked up in that one
first. -/
theorem get?_putAll_ofPairs
    (entries : Entries α) (pairs : List (Text × α)) (name : Text) :
    (entries.putAll (ofPairs pairs)).get? name =
      ((ofPairs pairs).get? name).or (entries.get? name) := by
  rw [get?_putAll, ← get?_ofPairs, ofPairs_of_nodup (nodup_ofPairs pairs)]

theorem get?_map (entries : Entries α) (change : α → β) (name : Text) :
    Entries.get? (entries.map fun entry => (entry.1, change entry.2)) name =
      (entries.get? name).map change := by
  induction entries with
  | nil =>
      rfl
  | cons entry rest inductionHypothesis =>
      rw [List.map_cons, get?, get?, inductionHypothesis]
      split <;> rfl

theorem mem_put
    {entries : Entries α} {name : Text} {value : α} {entry : Text × α}
    (member : entry ∈ entries.put name value) :
    entry ∈ entries ∨ entry = (name, value) := by
  induction entries with
  | nil =>
      exact .inr (List.mem_singleton.mp member)
  | cons first rest inductionHypothesis =>
      unfold put at member
      split at member
      · rcases List.mem_cons.mp member with isNew | later
        · exact .inr isNew
        · exact .inl (List.mem_cons_of_mem _ later)
      · rcases List.mem_cons.mp member with rfl | later
        · exact .inl List.mem_cons_self
        · exact (inductionHypothesis later).imp_left (List.mem_cons_of_mem _)

theorem mem_putAll
    {entries : Entries α} {additions : List (Text × α)} {entry : Text × α}
    (member : entry ∈ entries.putAll additions) :
    entry ∈ entries ∨ entry ∈ additions := by
  induction additions generalizing entries with
  | nil =>
      exact .inl member
  | cons addition rest inductionHypothesis =>
      rcases inductionHypothesis member with before | later
      · rcases mem_put before with old | rfl
        · exact .inl old
        · exact .inr List.mem_cons_self
      · exact .inr (List.mem_cons_of_mem _ later)

end Entries

end Chip8
