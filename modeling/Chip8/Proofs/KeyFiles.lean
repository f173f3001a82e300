import Chip8.Crash
import Chip8.Proofs.Numerals
import Chip8.Proofs.Tables
import Chip8.Proofs.UpperCase

/-!
# Key map files that are accepted

A key map file is accepted exactly if its document is a record in which every
value names a key.

* `NamesKey` tells which values name a key, and `NamesNoKey` what is wrong with
  the others; `keyOfDatum_eq_ok_iff` and `keyOfDatum_eq_error_iff` say that values
  are judged so;
* `KeyFile.Gives` tells what an entry gives to a layout, and `KeyFile.FirstBad`
  which entry decides the error (`readEntries_eq_ok_iff`,
  `readEntries_eq_error_iff`);
* `Datum.membersOfBytes?` holds the members of a record as they are written, and
  the record is put together from them (`Datum.exists_membersOfBytes`);
* `KeyFile.accepted_iff_valid` puts it together for a file.
-/

namespace Chip8

/-! ## Values that name keys -/

/-- A value names a key if it is the integer of the key, or a text that spells
that integer. -/
inductive NamesKey : Datum → Key → Prop where
  | integer (key : Key) : NamesKey (.integer key.val) key
  | spelled {text : Text} {key : Key} :
      Text.Numeral.Denotes .marked text key.val → NamesKey (.string text) key

/-- A value names no key: it is a text that spells no integer, the integer that it
is or spells is no key, or it is neither an integer nor a text. -/
inductive NamesNoKey : Datum → KeyCodeError → Prop where
  | numeral {text : Text} {reason : IntegerError} :
      integerOfText .marked text = .error reason →
        NamesNoKey (.string text) (.numeral reason)
  | spelled {text : Text} {code : Int} :
      Text.Numeral.Denotes .marked text code → code < 0 ∨ 15 < code →
        NamesNoKey (.string text) (.outOfRange (.string text))
  | integer {code : Int} : code < 0 ∨ 15 < code →
      NamesNoKey (.integer code) (.outOfRange (.integer code))
  | unsuitable {value : Datum} :
      (∀ text, value ≠ .string text) → (∀ code, value ≠ .integer code) →
        NamesNoKey value (.unsuitable value)

theorem keyOfInt?_eq_some_iff {code : Int} {key : Key} :
    keyOfInt? code = some key ↔ code = key.val := by
  unfold keyOfInt?
  split
  · rw [Option.some.injEq, Fin.ext_iff, Fin.val_mk]
    omega
  · have bound := key.isLt
    exact iff_of_false (fun found => by contradiction) (by omega)

theorem keyOfInt?_eq_none_iff {code : Int} :
    keyOfInt? code = none ↔ code < 0 ∨ 15 < code := by
  unfold keyOfInt?
  split
  · exact iff_of_false (fun found => by contradiction) (by omega)
  · exact iff_of_true rfl (by omega)

theorem keyOfDatum_of_namesKey {value : Datum} {key : Key}
    (names : NamesKey value key) : keyOfDatum value = .ok key := by
  cases names with
  | integer =>
      simp only [keyOfDatum, keyOfInt?_eq_some_iff.mpr rfl]
  | spelled denotes =>
      simp only [keyOfDatum, integerOfText_eq_ok_iff.mpr denotes,
        keyOfInt?_eq_some_iff.mpr rfl]

theorem keyOfDatum_of_namesNoKey {value : Datum} {reason : KeyCodeError}
    (wrong : NamesNoKey value reason) : keyOfDatum value = .error reason := by
  cases wrong with
  | numeral read =>
      simp only [keyOfDatum, read]
  | spelled denotes outside =>
      simp only [keyOfDatum, integerOfText_eq_ok_iff.mpr denotes,
        keyOfInt?_eq_none_iff.mpr outside]
  | integer outside =>
      simp only [keyOfDatum, keyOfInt?_eq_none_iff.mpr outside]
  | unsuitable noText noInteger =>
      cases value with
      | integer code => exact absurd rfl (noInteger code)
      | string text => exact absurd rfl (noText text)
      | _ => rfl

/-- A value names a key, or something is wrong with it. -/
theorem names_or_not (value : Datum) :
    (∃ key, NamesKey value key) ∨ ∃ reason, NamesNoKey value reason := by
  cases value with
  | integer code =>
      cases known : keyOfInt? code with
      | some key =>
          rw [keyOfInt?_eq_some_iff.mp known]
          exact .inl ⟨key, .integer key⟩
      | none =>
          exact .inr ⟨_, .integer (keyOfInt?_eq_none_iff.mp known)⟩
  | string text =>
      cases read : integerOfText .marked text with
      | error reason =>
          exact .inr ⟨_, .numeral read⟩
      | ok code =>
          have denotes := integerOfText_eq_ok_iff.mp read
          cases known : keyOfInt? code with
          | some key =>
              rw [keyOfInt?_eq_some_iff.mp known] at denotes
              exact .inl ⟨key, .spelled denotes⟩
          | none =>
              exact .inr ⟨_, .spelled denotes (keyOfInt?_eq_none_iff.mp known)⟩
  | _ => exact .inr ⟨_, .unsuitable (by simp) (by simp)⟩

/-- A value is a code exactly if it names a key. -/
theorem keyOfDatum_eq_ok_iff {value : Datum} {key : Key} :
    keyOfDatum value = .ok key ↔ NamesKey value key := by
  refine ⟨fun accepted => ?_, keyOfDatum_of_namesKey⟩
  rcases names_or_not value with ⟨named, names⟩ | ⟨reason, wrong⟩
  · rw [keyOfDatum_of_namesKey names] at accepted
    cases accepted
    exact names
  · rw [keyOfDatum_of_namesNoKey wrong] at accepted
    contradiction

/-- A value is refused as a code exactly for what is wrong with it. -/
theorem keyOfDatum_eq_error_iff {value : Datum} {reason : KeyCodeError} :
    keyOfDatum value = .error reason ↔ NamesNoKey value reason := by
  refine ⟨fun refused => ?_, keyOfDatum_of_namesNoKey⟩
  rcases names_or_not value with ⟨key, names⟩ | ⟨found, wrong⟩
  · rw [keyOfDatum_of_namesKey names] at refused
    contradiction
  · rw [keyOfDatum_of_namesNoKey wrong] at refused
    cases refused
    exact wrong

/-- Something is wrong with a value exactly if it names no key. -/
theorem exists_namesNoKey_iff {value : Datum} :
    (∃ reason, NamesNoKey value reason) ↔ ∀ key, ¬ NamesKey value key := by
  constructor
  · rintro ⟨reason, wrong⟩ key names
    have refused := keyOfDatum_of_namesNoKey wrong
    rw [keyOfDatum_of_namesKey names] at refused
    contradiction
  · intro none
    exact (names_or_not value).resolve_left fun named => none _ named.choose_spec

namespace KeyFile

/-! ## Entries -/

/-- What an entry of a key map file gives to the layout: a key for its name in
upper case. -/
def Gives (entry : Text × Datum) (pair : Text × Key) : Prop :=
  pair.1 = Text.upper entry.1 ∧ NamesKey entry.2 pair.2

/-- The first of some entries whose value names no key, and what is wrong with
it. -/
def FirstBad (entries : List (Text × Datum)) (reason : KeyCodeError) : Prop :=
  ∃ earlier name value later, entries = earlier ++ (name, value) :: later ∧
    (∀ entry ∈ earlier, ∃ key, NamesKey entry.2 key) ∧ NamesNoKey value reason

variable {entries : List (Text × Datum)} {pairs : List (Text × Key)}

theorem firstBad_cons_iff
    {name : Text} {value : Datum} {reason : KeyCodeError} :
    FirstBad ((name, value) :: entries) reason ↔
      NamesNoKey value reason ∨
        (∃ key, NamesKey value key) ∧ FirstBad entries reason := by
  constructor
  · rintro ⟨earlier, other, wrongValue, later, parted, good, wrong⟩
    cases earlier with
    | nil =>
        cases parted
        exact .inl wrong
    | cons entry rest =>
        cases parted
        obtain ⟨first, goodRest⟩ := List.forall_mem_cons.mp good
        exact .inr ⟨first, rest, other, wrongValue, later, rfl, goodRest, wrong⟩
  · rintro (wrong | ⟨named, earlier, other, wrongValue, later, rfl, good, wrong⟩)
    · exact ⟨[], name, value, entries, rfl, List.forall_mem_nil _, wrong⟩
    · exact ⟨(name, value) :: earlier, other, wrongValue, later, rfl,
        List.forall_mem_cons.mpr ⟨named, good⟩, wrong⟩

/-- Entries are read if each of them gives a key. -/
theorem readEntries_eq_ok_iff :
    readEntries entries = .ok pairs ↔ List.Forall₂ Gives entries pairs := by
  induction entries generalizing pairs with
  | nil =>
      rw [readEntries, Except.ok.injEq, List.forall₂_nil_left_iff, eq_comm]
  | cons entry rest inductionHypothesis =>
      obtain ⟨name, value⟩ := entry
      rw [List.forall₂_cons_left_iff]
      constructor
      · intro accepted
        rw [readEntries] at accepted
        split at accepted
        · contradiction
        · next key judged =>
            split at accepted
            · contradiction
            · next others read =>
                cases accepted
                exact ⟨_, others, ⟨rfl, keyOfDatum_eq_ok_iff.mp judged⟩,
                  inductionHypothesis.mp read, rfl⟩
      · rintro ⟨⟨upperName, key⟩, others, ⟨rfl, names⟩, given, rfl⟩
        rw [readEntries, keyOfDatum_of_namesKey names]
        simp only [inductionHypothesis.mpr given]

/-- Entries are refused for what is wrong with the first bad one. -/
theorem readEntries_eq_error_iff {reason : KeyCodeError} :
    readEntries entries = .error reason ↔ FirstBad entries reason := by
  induction entries with
  | nil =>
      refine iff_of_false (fun refused => by contradiction) ?_
      rintro ⟨earlier, name, value, later, parted, -⟩
      simp at parted
  | cons entry rest inductionHypothesis =>
      obtain ⟨name, value⟩ := entry
      rw [firstBad_cons_iff, ← inductionHypothesis, readEntries]
      rcases names_or_not value with ⟨key, names⟩ | ⟨found, wrong⟩
      · have right : ¬ NamesNoKey value reason := fun wrong =>
          exists_namesNoKey_iff.mp ⟨reason, wrong⟩ key names
        rw [keyOfDatum_of_namesKey names]
        cases readEntries rest with
        | ok others => simp [right]
        | error other => simp [right, (⟨key, names⟩ : ∃ key, NamesKey value key)]
      · have nameless : ¬ ∃ key, NamesKey value key := fun ⟨key, names⟩ =>
          exists_namesNoKey_iff.mp ⟨found, wrong⟩ key names
        rw [keyOfDatum_of_namesNoKey wrong, Except.error.injEq,
          or_iff_left (fun both => nameless both.1), ← keyOfDatum_eq_error_iff,
          keyOfDatum_of_namesNoKey wrong, Except.error.injEq]

/-- Some entry is the first bad one, unless every value names a key. -/
theorem exists_firstBad_iff :
    (∃ reason, FirstBad entries reason) ↔
      ∃ entry ∈ entries, ∀ key, ¬ NamesKey entry.2 key := by
  induction entries with
  | nil =>
      refine iff_of_false ?_ (by simp)
      rintro ⟨reason, earlier, name, value, later, parted, -⟩
      simp at parted
  | cons entry rest inductionHypothesis =>
      obtain ⟨name, value⟩ := entry
      rw [List.exists_mem_cons_iff, ← inductionHypothesis,
        ← exists_namesNoKey_iff]
      simp only [firstBad_cons_iff, exists_or, exists_and_left]
      refine or_congr_right' fun noneWrong => and_iff_right ?_
      exact (names_or_not value).resolve_right noneWrong

/-- Every pair that is read was given by an entry. -/
theorem exists_gives
    (given : List.Forall₂ Gives entries pairs) {pair : Text × Key}
    (member : pair ∈ pairs) : ∃ entry ∈ entries, Gives entry pair := by
  induction given with
  | nil => contradiction
  | @cons entry first _ _ gives _ inductionHypothesis =>
      rcases List.mem_cons.mp member with rfl | later
      · exact ⟨entry, List.mem_cons_self, gives⟩
      · obtain ⟨source, listed, given⟩ := inductionHypothesis later
        exact ⟨source, List.mem_cons_of_mem _ listed, given⟩

end KeyFile

/-! ## Records as they are written -/

namespace Datum

/-- The members of the record that a text starts with, as they are written there:
a name may stand before several values. -/
def membersOfText? (nesting : Nat) (text : List Char) :
    Option (List (Text × Datum)) :=
  match Reader.skipBlanks text with
  | '{' :: rest =>
      match Reader.skipBlanks rest with
      | '}' :: _ => some []
      | first =>
          match Reader.readMembers (2 * text.length + 1) (nesting - 1)
              first with
          | .ok (members, _) => some members
          | .error _ => none
  | _ => none

/-- The members of the record that a document starts with, from its bytes. -/
def membersOfBytes? (nesting : Nat) (bytes : List UInt8) :
    Option (List (Text × Datum)) :=
  (String.fromUTF8? ⟨bytes.toArray⟩).bind fun text =>
    membersOfText? nesting text.toList

theorem readNumber_ne_record
    {negative : Bool} {text rest : List Char} {entries : List (Text × Datum)} :
    Reader.readNumber negative text ≠ .ok (.record entries, rest) := by
  unfold Reader.readNumber
  dsimp only
  split
  · simp
  · split
    · split <;> simp
    · simp

theorem readPlain_ne_record
    {text rest : List Char} {entries : List (Text × Datum)} :
    Reader.readPlain text ≠ .ok (.record entries, rest) := by
  unfold Reader.readPlain
  split
  case h_7 => exact readNumber_ne_record
  case h_8 => exact readNumber_ne_record
  all_goals simp

/-- A record is read from an opening brace on. -/
theorem readValue_ne_record
    {fuel levels : Nat} {character : Char} {body rest : List Char}
    {entries : List (Text × Datum)} (other : character ≠ '{') :
    Reader.readValue (fuel + 1) levels (character :: body) ≠
      .ok (.record entries, rest) := by
  unfold Reader.readValue
  split
  · split <;> simp
  · split
    · split
      · simp
      · simp
      · split <;> simp
    · exact readPlain_ne_record

/-- The members of a record are read up to its closing brace. -/
theorem readValue_record
    {fuel levels : Nat} {text rest : List Char} {entries : List (Text × Datum)}
    (reading : Reader.readValue (fuel + 1) levels text =
      .ok (.record entries, rest)) :
    ∃ body, text = '{' :: body ∧
      ((∃ after, Reader.skipBlanks body = '}' :: after ∧ entries = []) ∨
        (∀ after, Reader.skipBlanks body ≠ '}' :: after) ∧
          ∃ members,
            Reader.readMembers fuel (levels - 1) (Reader.skipBlanks body) =
              .ok (members, rest) ∧ entries = Entries.ofPairs members) := by
  cases text with
  | nil => contradiction
  | cons character body =>
      by_cases isBrace : character = '{'
      · subst isBrace
        refine ⟨body, rfl, ?_⟩
        simp only [Reader.readValue, Text.doubleQuote, Char.reduceEq, if_true,
          if_false] at reading
        split at reading
        · contradiction
        · next closed =>
            cases reading
            exact .inl ⟨_, closed, rfl⟩
        · next inner inside =>
            split at reading
            · next members after written =>
                cases reading
                exact .inr ⟨inside, members, written, rfl⟩
            · contradiction
      · exact absurd reading (readValue_ne_record isBrace)

/-- The entries of a record are made of its members as they are written. -/
theorem exists_membersOfText
    {nesting : Nat} {text : List Char} {entries : List (Text × Datum)}
    (success : read nesting text = .ok (.record entries)) :
    ∃ members, membersOfText? nesting text = some members ∧
      entries = Entries.ofPairs members := by
  unfold read at success
  split at success
  · contradiction
  · next value after reading =>
      split at success
      · cases success
        obtain ⟨body, starts, isEmpty | ⟨inside, members, written, same⟩⟩ :=
          readValue_record reading
        · obtain ⟨after, closed, rfl⟩ := isEmpty
          exact ⟨[], by simp only [membersOfText?, starts, closed], rfl⟩
        · refine ⟨members, ?_, same⟩
          simp only [membersOfText?, starts, written]
      · contradiction

/-- The entries of a record are made of its members as they are written in a
file. -/
theorem exists_membersOfBytes
    {nesting : Nat} {bytes : List UInt8} {entries : List (Text × Datum)}
    (success : ofBytes nesting bytes = .ok (.record entries)) :
    ∃ members, membersOfBytes? nesting bytes = some members ∧
      entries = Entries.ofPairs members := by
  unfold ofBytes at success
  split at success
  · next text decoded =>
      obtain ⟨members, written, made⟩ := exists_membersOfText success
      exact ⟨members, by rw [membersOfBytes?, decoded, Option.bind_some, written],
        made⟩
  · contradiction

end Datum

/-! ## Files -/

namespace KeyFile

/-- What is wrong with a document as a key map: it is no record, or it is one with
a bad value. -/
inductive Faulty (path : Text) : Datum → KeyFileError → Prop where
  | notARecord {document : Datum} :
      (∀ entries, document ≠ .record entries) →
        Faulty path document (.notARecord path)
  | code {entries : List (Text × Datum)} {reason : KeyCodeError} :
      FirstBad entries reason → Faulty path (.record entries) (.code reason)

variable {nesting : Nat} {files : FileSystem} {path : Text} {bytes : List UInt8}
  {document : Datum} {entries : List (Text × Datum)} {layout : Entries Key}

theorem ofDatum_eq_error_iff {reason : KeyFileError} :
    ofDatum path document = .error reason ↔ Faulty path document reason := by
  constructor
  · intro refused
    unfold ofDatum at refused
    split at refused
    · split at refused
      · contradiction
      · next wrong =>
          cases refused
          exact .code (readEntries_eq_error_iff.mp wrong)
    · next noRecord =>
        cases refused
        exact .notARecord noRecord
  · intro faulty
    cases faulty with
    | notARecord noRecord =>
        cases document with
        | record entries => exact absurd rfl (noRecord entries)
        | _ => rfl
    | code wrong =>
        simp only [ofDatum, readEntries_eq_error_iff.mpr wrong]

theorem ofDatum_eq_ok_iff :
    ofDatum path document = .ok layout ↔
      ∃ entries pairs, document = .record entries ∧
        List.Forall₂ Gives entries pairs ∧ layout = Entries.ofPairs pairs := by
  constructor
  · intro accepted
    unfold ofDatum at accepted
    split at accepted
    · next entries =>
        split at accepted
        · next pairs given =>
            cases accepted
            exact ⟨entries, pairs, rfl, readEntries_eq_ok_iff.mp given, rfl⟩
        · contradiction
    · contradiction
  · rintro ⟨entries, pairs, rfl, given, rfl⟩
    simp only [ofDatum, readEntries_eq_ok_iff.mpr given]

theorem load_of_document
    (present : files.read path = .ok bytes)
    (parsed : Datum.ofBytes nesting bytes = .ok document) :
    load nesting files path = ofDatum path document := by
  rw [load, present]
  simp only [parsed]

theorem load_of_no_document {reason : DocumentError}
    (present : files.read path = .ok bytes)
    (refused : Datum.ofBytes nesting bytes = .error reason) :
    load nesting files path = .error (.document reason) := by
  rw [load, present]
  simp only [refused]

/-- A document is refused if it is no record or a value of it names no key. -/
theorem exists_faulty_iff :
    (∃ reason, Faulty path document reason) ↔
      (∀ entries, document ≠ .record entries) ∨
        ∃ entries, document = .record entries ∧
          ∃ entry ∈ entries, ∀ key, ¬ NamesKey entry.2 key := by
  constructor
  · rintro ⟨reason, faulty⟩
    cases faulty with
    | notARecord noRecord => exact .inl noRecord
    | code wrong =>
        exact .inr ⟨_, rfl, exists_firstBad_iff.mp ⟨_, wrong⟩⟩
  · rintro (noRecord | ⟨entries, rfl, bad⟩)
    · exact ⟨_, .notARecord noRecord⟩
    · obtain ⟨reason, wrong⟩ := exists_firstBad_iff.mpr bad
      exact ⟨_, .code wrong⟩

/-- A record is accepted if every value of it names a key. -/
theorem exists_ofDatum_record_iff :
    (∃ layout, ofDatum path (.record entries) = .ok layout) ↔
      ∀ entry ∈ entries, ∃ key, NamesKey entry.2 key := by
  have refused : (∃ reason, ofDatum path (.record entries) = .error reason) ↔
      ∃ entry ∈ entries, ∀ key, ¬ NamesKey entry.2 key := by
    simp only [ofDatum_eq_error_iff, exists_faulty_iff, Datum.record.injEq]
    simp
  constructor
  · rintro ⟨layout, accepted⟩ entry member
    by_contra nameless
    obtain ⟨reason, wrong⟩ :=
      refused.mpr ⟨entry, member, not_exists.mp nameless⟩
    rw [accepted] at wrong
    contradiction
  · intro good
    cases judged : ofDatum path (.record entries) with
    | ok layout => exact ⟨layout, rfl⟩
    | error reason =>
        obtain ⟨entry, member, nameless⟩ := refused.mp ⟨reason, judged⟩
        obtain ⟨key, names⟩ := good entry member
        exact absurd names (nameless key)

/-- The names of a layout that is read are in upper case. -/
theorem upper_of_given
    {pairs : List (Text × Key)} (given : List.Forall₂ Gives entries pairs)
    {entry : Text × Key} (member : entry ∈ Entries.ofPairs pairs) :
    Text.upper entry.1 = entry.1 := by
  obtain ⟨source, -, gives⟩ :=
    exists_gives given (Entries.mem_of_mem_ofPairs member)
  rw [gives.1, Text.upper_upper]

/-- A key map file that holds a document is accepted exactly if the document is a
record whose values name keys.  The first bad value in the order of the record
decides the error.  Only the last of the members with one name counts as a value
of the record, and names are put into upper case after that.  A file without a
document is refused for what keeps it from being one.  All this is so whatever
nesting is allowed. -/
theorem accepted_iff_valid
    (nesting : Nat) (present : files.read path = .ok bytes) :
    (∀ reason, Datum.ofBytes nesting bytes = .error reason →
      load nesting files path = .error (.document reason)) ∧
    ∀ document, Datum.ofBytes nesting bytes = .ok document →
      ((∃ reason, load nesting files path = .error reason) ↔
        (∀ entries, document ≠ .record entries) ∨
          ∃ entries, document = .record entries ∧
            ∃ entry ∈ entries, ∀ key, ¬ NamesKey entry.2 key) ∧
      (∀ reason, load nesting files path = .error reason ↔
        Faulty path document reason) ∧
      (∀ entries, document = .record entries →
        ∃ members, Datum.membersOfBytes? nesting bytes = some members ∧
          entries = Entries.ofPairs members ∧
          ((∃ layout, load nesting files path = .ok layout) ↔
            ∀ member,
              IsLast (fun other => other.1 = member.1) members member →
                ∃ key, NamesKey member.2 key)) ∧
      ∀ layout, load nesting files path = .ok layout →
        (∀ entry ∈ layout, Text.upper entry.1 = entry.1) ∧
          ∀ entry ∈ layout.codes, ∃ code : Int,
            entry.2 = .integer code ∧ 0 ≤ code ∧ code ≤ 15 := by
  constructor
  · exact fun reason refused => load_of_no_document present refused
  · intro document parsed
    rw [load_of_document present parsed]
    refine ⟨?refusal, fun reason => ofDatum_eq_error_iff, ?members, ?layout⟩
    case refusal =>
      simp only [ofDatum_eq_error_iff, exists_faulty_iff]
    case members =>
      rintro entries rfl
      obtain ⟨members, written, made⟩ := Datum.exists_membersOfBytes parsed
      refine ⟨members, written, made, ?_⟩
      simp only [exists_ofDatum_record_iff, made, Entries.mem_ofPairs_iff]
    case layout =>
      intro layout accepted
      obtain ⟨entries, pairs, rfl, given, rfl⟩ := ofDatum_eq_ok_iff.mp accepted
      refine ⟨fun entry => upper_of_given given, fun entry member => ?_⟩
      obtain ⟨source, -, rfl⟩ := List.mem_map.mp member
      have bound := source.2.isLt
      exact ⟨source.2.val, rfl, by omega, by omega⟩

/-- Three papers on a pinboard.  On the first one a truth value stands before a
good value under one name and is never judged, and two names meet in upper case.
On the second one the first bad value is judged although a good one takes its place
in upper case, and the one behind it is not.  The third one is no record. -/
theorem accepted_iff_valid_pinboard :
    let good : List UInt8 := ("\x7b\"a\": true, \"\u00df\": \" +0x_F\u2003\", " ++
      "\"a\": \"0_0\", \"A\": 7\x7d").toUTF8.data.toList
    let bad : List UInt8 := (" \x7b\"q\": 1, \"a\": \"010\", \"A\": 7, " ++
      "\"w\": true\x7d").toUTF8.data.toList
    let pinboard : FileSystem :=
      .ofFolder [("good", good), ("bad", bad), ("list", [0x5B, 0x31, 0x5D])]
    (∃ layout, load 1 pinboard "good" = .ok layout) ∧
      load 1 pinboard "bad" =
        .error (.code (.numeral (.malformed .marked "010"))) ∧
      load 1 pinboard "list" = .error (.notARecord "list") := by
  intro good bad pinboard
  obtain ⟨-, ofGood⟩ :=
    accepted_iff_valid 1 (show pinboard.read "good" = .ok good by decide +kernel)
  obtain ⟨-, ofBad⟩ :=
    accepted_iff_valid 1 (show pinboard.read "bad" = .ok bad by decide +kernel)
  obtain ⟨-, ofList⟩ := accepted_iff_valid 1
    (show pinboard.read "list" = .ok [0x5B, 0x31, 0x5D] by decide +kernel)
  have goodDocument : Datum.ofBytes 1 good = .ok (.record [("a", .string "0_0"),
      ("\u00df", .string " +0x_F\u2003"), ("A", .integer 7)]) := by
    decide +kernel
  have badDocument : Datum.ofBytes 1 bad = .ok (.record [("q", .integer 1),
      ("a", .string "010"), ("A", .integer 7), ("w", .boolean true)]) := by
    decide +kernel
  have listDocument : Datum.ofBytes 1 [0x5B, 0x31, 0x5D] = .ok (.list [.integer 1]) := by
    decide +kernel
  refine ⟨?_, ?_, ?_⟩
  · obtain ⟨-, -, ofRecord, -⟩ := ofGood _ goodDocument
    obtain ⟨members, -, made, accepted⟩ := ofRecord _ rfl
    refine accepted.mpr fun member last => ?_
    have listed := Entries.mem_ofPairs_iff.mpr last
    rw [← made] at listed
    simp only [List.mem_cons, List.not_mem_nil, or_false] at listed
    rcases listed with rfl | rfl | rfl
    · exact ⟨0, keyOfDatum_eq_ok_iff.mp (by decide +kernel)⟩
    · exact ⟨15, keyOfDatum_eq_ok_iff.mp (by decide +kernel)⟩
    · exact ⟨7, .integer 7⟩
  · obtain ⟨-, refused, -⟩ := ofBad _ badDocument
    refine (refused _).mpr (.code ⟨[("q", .integer 1)], "a", .string "010",
      [("A", .integer 7), ("w", .boolean true)], rfl, ?_, ?_⟩)
    · exact List.forall_mem_singleton.mpr ⟨1, .integer 1⟩
    · exact keyOfDatum_eq_error_iff.mp (by decide +kernel)
  · obtain ⟨-, refused, -⟩ := ofList _ listDocument
    exact (refused _).mpr (.notARecord (by simp))

end KeyFile

/-! ## Documents that are too deep -/

namespace Datum

theorem skipBlanks_replicate (count : Nat) (rest : List Char) :
    Reader.skipBlanks (List.replicate (count + 1) '[' ++ rest) =
      List.replicate (count + 1) '[' ++ rest := rfl

/-- Lists that are opened beyond the greatest depth are refused. -/
theorem readValue_of_deep
    {fuel levels : Nat} (enough : 2 * levels < fuel) (rest : List Char) :
    Reader.readValue fuel levels (List.replicate (levels + 1) '[' ++ rest) =
      .error .tooDeep := by
  induction levels generalizing fuel with
  | zero =>
      obtain ⟨fuel, rfl⟩ := Nat.exists_eq_add_of_lt enough
      rfl
  | succ levels inductionHypothesis =>
      -- a bracket takes fuel for its list and for the first item in it
      obtain ⟨fuel, rfl⟩ := Nat.exists_eq_add_of_le' (show 2 ≤ fuel by omega)
      have inner := inductionHypothesis (show 2 * levels < fuel by omega)
      have items : Reader.readItems (fuel + 1) levels
          (List.replicate (levels + 1) '[' ++ rest) = .error .tooDeep := by
        unfold Reader.readItems
        rw [inner]
      rw [List.replicate_succ, List.cons_append]
      unfold Reader.readValue
      simp only [Text.doubleQuote, Char.reduceEq, if_true, if_false,
        skipBlanks_replicate]
      split
      · contradiction
      · next closed => simp [List.replicate_succ] at closed
      · next same _ =>
          cases same
          rw [items]

/-- A document with too many brackets at its start is refused for its depth,
whatever comes after them. -/
theorem read_of_deep (nesting : Nat) (rest : List Char) :
    read nesting (List.replicate (nesting + 1) '[' ++ rest) =
      .error .tooDeep := by
  rw [read, skipBlanks_replicate, readValue_of_deep]
  rw [List.length_append, List.length_replicate]
  omega

/-- The text of a document comes back from its bytes. -/
theorem ofBytes_toUTF8 (nesting : Nat) (text : String) :
    ofBytes nesting text.toUTF8.data.toList = read nesting text.toList := by
  have decoded : String.fromUTF8? text.toUTF8 = some text := by
    unfold String.fromUTF8?
    exact dif_pos text.isValidUTF8
  rw [ofBytes, Array.toArray_toList, decoded]

end Datum

namespace KeyFile

/-- A file that opens more lists than may lie one in the other is refused for its
depth, whatever comes after them. -/
theorem load_of_deep
    {nesting : Nat} {files : FileSystem} {path : Text} {text : String}
    {rest : List Char} (present : files.read path = .ok text.toUTF8.data.toList)
    (deep : text.toList = List.replicate (nesting + 1) '[' ++ rest) :
    load nesting files path = .error (.document .tooDeep) := by
  refine load_of_no_document present ?_
  rw [Datum.ofBytes_toUTF8, deep, Datum.read_of_deep]

/-- A cellar with two thousand lists one in the other, where 991 may be.  It is
refused for its depth, and not for being no record, and this is no error of
usage: the program has no exit code for it. -/
theorem load_refused_cellar :
    let cellar :=
      String.ofList (List.replicate 2000 '[' ++ List.replicate 2000 ']')
    let refusal := KeyFileError.document .tooDeep
    load 991 (fun _ => .ok cellar.toUTF8.data.toList) "keys.json" =
        .error refusal ∧
      Crash.ofSettingsError? (.keyFile refusal) = some .nesting := by
  intro cellar refusal
  have parted : cellar.toList = List.replicate (991 + 1) '[' ++
      (List.replicate 1008 '[' ++ List.replicate 2000 ']') := by
    rw [String.toList_ofList, ← List.append_assoc,
      List.replicate_append_replicate]
  -- from here on nothing may write the text out
  clear_value cellar
  exact ⟨load_of_deep rfl parted, rfl⟩

end KeyFile

end Chip8
