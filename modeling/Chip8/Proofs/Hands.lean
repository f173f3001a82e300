import Chip8.Proofs.KeyRecord
import Chip8.Proofs.Reception

/-!
# Host keys and the record of the keypad

Several host keys may share a key of the keypad, for which the machine records
what it was told last, whichever of them it was told of.

* a stroke is a host key that goes down or up, and `told?` is what it tells the
  machine; `keys_performAll` says that this is recorded, in order, whatever
  frames and paintings come between;
* `lastStatus?_told_iff` says what the last thing told of a key means for the
  host keys;
* `pressed_iff_held` puts this together: a host key that is held keeps its key
  of the keypad pressed until another one of that key is let go, and
  `released_while_held` is a case of this.
-/

namespace Chip8

/-! ## Strokes -/

/-- The host key that an event is about, and whether it went down. -/
def HostEvent.stroke? : HostEvent → Option (Text × Bool)
  | .keyDown name => some (name, true)
  | .keyUp name => some (name, false)
  | _ => none

/-- The last stroke of a host key was down. -/
def Held (name : Text) (strokes : List (Text × Bool)) : Prop :=
  lastStatus? strokes name = some true

instance (name : Text) (strokes : List (Text × Bool)) :
    Decidable (Held name strokes) :=
  inferInstanceAs (Decidable (lastStatus? strokes name = some true))

/-- The strokes of every host key are down and up in turn, down first.  A key
that goes up was down before. -/
def Alternate (strokes : List (Text × Bool)) : Prop :=
  ∀ earlier name pressed later,
    strokes = earlier ++ (name, pressed) :: later →
      (pressed = true ↔ ¬ Held name earlier)

namespace Keyboard

variable {keyboard : Keyboard} {key : Key} {name : Text}
variable {strokes : List (Text × Bool)}

/-- What the machine is told of a stroke. -/
def told? (keyboard : Keyboard) (stroke : Text × Bool) : Option (Key × Bool) :=
  (keyboard.keyOf? stroke.1).map fun key => (key, stroke.2)

/-- A host key went down, and no host key of a keypad key went up since. -/
def Undisturbed (keyboard : Keyboard) (key : Key) (name : Text)
    (strokes : List (Text × Bool)) : Prop :=
  ∃ earlier later, strokes = earlier ++ (name, true) :: later ∧
    ∀ other, keyboard.keyOf? other = some key → (other, false) ∉ later

/-- No host key of a keypad key goes up while another one of it is held. -/
def OneAtATime (keyboard : Keyboard) (key : Key)
    (strokes : List (Text × Bool)) : Prop :=
  ∀ earlier released later,
    strokes = earlier ++ (released, false) :: later →
      keyboard.keyOf? released = some key →
      ∀ name, keyboard.keyOf? name = some key → Held name earlier →
        name = released

theorem told?_eq_some_iff {pressed : Bool} {stroke : Text × Bool} :
    keyboard.told? stroke = some (key, pressed) ↔
      ∃ name, stroke = (name, pressed) ∧ keyboard.keyOf? name = some key := by
  obtain ⟨other, status⟩ := stroke
  constructor
  · intro told
    obtain ⟨found, known, same⟩ := Option.map_eq_some_iff.mp told
    cases same
    exact ⟨other, rfl, known⟩
  · rintro ⟨name, same, known⟩
    cases same
    exact Option.map_eq_some_iff.mpr ⟨key, known, rfl⟩

theorem Undisturbed.held
    (known : keyboard.keyOf? name = some key)
    (undisturbed : keyboard.Undisturbed key name strokes) :
    Held name strokes := by
  obtain ⟨earlier, later, rfl, none⟩ := undisturbed
  exact lastStatus?_of_split (none name known)

/-- The machine was last told that a key went down exactly if one of its host
keys is held and none went up since. -/
theorem lastStatus?_told_iff :
    lastStatus? (strokes.filterMap keyboard.told?) key = some true ↔
      ∃ name, keyboard.keyOf? name = some key ∧ Held name strokes ∧
        keyboard.Undisturbed key name strokes := by
  constructor
  · intro last
    obtain ⟨before, after, told, none⟩ := exists_of_lastStatus? last
    obtain ⟨earlier, rest, rfl, -, fromRest⟩ :=
      List.filterMap_eq_append_iff.mp told
    obtain ⟨between, stroke, later, rfl, -, isLast, fromLater⟩ :=
      List.filterMap_eq_cons_iff.mp fromRest
    obtain ⟨name, rfl, known⟩ := told?_eq_some_iff.mp isLast
    have undisturbed :
        keyboard.Undisturbed key name
          (earlier ++ (between ++ (name, true) :: later)) := by
      refine ⟨earlier ++ between, later, by simp, ?_⟩
      intro other same member
      have heard : (key, false) ∈ after := by
        rw [← fromLater]
        exact List.mem_filterMap.mpr
          ⟨(other, false), member, told?_eq_some_iff.mpr ⟨other, rfl, same⟩⟩
      exact none (key, false) heard rfl
    exact ⟨name, known, undisturbed.held known, undisturbed⟩
  · rintro ⟨name, known, -, earlier, later, rfl, none⟩
    have told : keyboard.told? (name, true) = some (key, true) :=
      told?_eq_some_iff.mpr ⟨name, rfl, known⟩
    rw [List.filterMap_append, List.filterMap_cons_some told]
    apply lastStatus?_of_split
    intro heard
    obtain ⟨stroke, member, released⟩ := List.mem_filterMap.mp heard
    obtain ⟨other, rfl, same⟩ := told?_eq_some_iff.mp released
    exact none other same member

/-- A host key that is held is undisturbed if the host keys of its keypad key
are used one at a time. -/
theorem OneAtATime.undisturbed
    (single : keyboard.OneAtATime key strokes)
    (known : keyboard.keyOf? name = some key) (held : Held name strokes) :
    keyboard.Undisturbed key name strokes := by
  obtain ⟨earlier, later, rfl, quiet⟩ := exists_of_lastStatus? held
  refine ⟨earlier, later, rfl, ?_⟩
  intro released same member
  obtain ⟨between, rest, rfl⟩ := List.append_of_mem member
  have stillHeld : Held name (earlier ++ (name, true) :: between) := by
    apply lastStatus?_of_split
    intro up
    exact quiet _ (List.mem_append_left _ up) rfl
  have itself : name = released :=
    single (earlier ++ (name, true) :: between) released rest (by simp) same
      name known stillHeld
  exact quiet _ member itself.symm

end Keyboard

/-! ## What the machine is told -/

/-- The events of host keys that are for the keypad. -/
inductive HostEvent.Plays : HostEvent → Prop where
  | keyDown {name : Text}
      (stays : name ≠ escapeKey) (keeps : name ≠ reloadKey) :
      Plays (.keyDown name)
  | keyUp {name : Text}
      (stays : name ≠ escapeKey) (keeps : name ≠ reloadKey) :
      Plays (.keyUp name)

namespace WindowOperation

/-- A player strokes keys while frames pass and are painted. -/
inductive Played : WindowOperation → Prop where
  | paint : Played .paint
  | frame : Played (.ask .frame)
  | receive {events : List HostEvent} (plays : ∀ event ∈ events, event.Plays) :
      Played (.receive (.events events))

/-- The strokes that a window receives. -/
def strokes : WindowOperation → List (Text × Bool)
  | .receive (.events events) => events.filterMap HostEvent.stroke?
  | _ => []

end WindowOperation

namespace Window

variable {window : Window}

/-- The record of the keys of the machine in a window. -/
def keys (window : Window) : Vector Bool 16 :=
  window.machine.processor.keys

/-- What is told of a stroke is recorded. -/
theorem keys_reportKey (name : Text) (pressed : Bool) :
    (window.reportKey name pressed).window.keys =
      record window.keys (window.keyboard.told? (name, pressed)).toList := by
  unfold reportKey Keyboard.report Keyboard.told? Keyboard.keyOf?
  cases window.keyboard.codeOf? name with
  | none =>
      rfl
  | some code =>
      simp only [Option.map_some, Option.bind_some, reportCode]
      cases code.key? with
      | none => rfl
      | some key => exact window.machine.processor.keys_reportKey key pressed

/-- An event for the keypad reports its stroke. -/
theorem receive_of_plays
    (window : Window) {event : HostEvent} (plays : event.Plays) :
    ∃ name pressed, event.stroke? = some (name, pressed) ∧
      window.receive event = window.reportKey name pressed := by
  cases plays with
  | @keyDown name stays keeps =>
      refine ⟨name, true, rfl, ?_⟩
      simp only [receive, if_neg stays, if_neg keeps]
  | @keyUp name stays keeps =>
      refine ⟨name, false, rfl, ?_⟩
      simp only [receive, if_neg stays]

theorem keys_receiveAll
    {events : List HostEvent} (keyed : window.keyboard.Keyed)
    (plays : ∀ event ∈ events, event.Plays) :
    (window.receiveAll events).window.keys =
      record window.keys
        ((events.filterMap HostEvent.stroke?).filterMap
          window.keyboard.told?) := by
  induction events generalizing window with
  | nil =>
      rfl
  | cons event rest inductionHypothesis =>
      obtain ⟨first, later⟩ := List.forall_mem_cons.mp plays
      obtain ⟨name, pressed, stroke, received⟩ := window.receive_of_plays first
      have success := reportKey_ok keyed.whole name pressed
      have same := (window.unpainted_reportKey name pressed).setup.keyboard_eq
      rw [receiveAll, received, WindowOutcome.andThen_of_ok success]
      rw [inductionHypothesis (same ▸ keyed) later, keys_reportKey, same,
        ← record_append, List.filterMap_cons_some stroke, List.filterMap_cons]
      cases window.keyboard.told? (name, pressed) <;> rfl

theorem keys_perform
    {operation : WindowOperation} (keyed : window.keyboard.Keyed)
    (played : operation.Played) :
    (window.perform operation).1.keys =
      record window.keys
        (operation.strokes.filterMap window.keyboard.told?) := by
  cases played with
  | paint =>
      simp only [perform, paint]
      split <;> rfl
  | frame =>
      exact window.machine.keys_frame
  | receive plays =>
      exact keys_receiveAll keyed plays

theorem keys_performAll
    {operations : List WindowOperation} (keyed : window.keyboard.Keyed)
    (played : ∀ operation ∈ operations, operation.Played) :
    (window.performAll operations).1.keys =
      record window.keys
        ((operations.flatMap WindowOperation.strokes).filterMap
          window.keyboard.told?) := by
  induction operations generalizing window with
  | nil =>
      rfl
  | cons operation rest inductionHypothesis =>
      obtain ⟨first, later⟩ := List.forall_mem_cons.mp played
      have same := (window.sameSetup_perform operation).keyboard_eq
      rw [performAll_cons]
      rw [inductionHypothesis (same ▸ keyed) later, keys_perform keyed first,
        same, ← record_append, List.flatMap_cons, List.filterMap_append]

/-- Whatever frames and paintings come between the strokes of a player, from a
window on which no key is pressed: a key of the keypad is pressed exactly if one
of its host keys is held and none of them was let go since that one went down.
If they are used one at a time, it is pressed exactly if one of them is held. -/
theorem pressed_iff_held
    {layout : Entries Key} {operations : List WindowOperation}
    (assigned : Keyboard.ofEntries layout.codes = .ok window.keyboard)
    (up : ∀ key, window.keys.get key = false)
    (played : ∀ operation ∈ operations, operation.Played) (key : Key) :
    let last := (window.performAll operations).1
    let strokes := operations.flatMap WindowOperation.strokes
    (last.keys.get key = true ↔
        ∃ name, window.keyboard.keyOf? name = some key ∧ Held name strokes ∧
          window.keyboard.Undisturbed key name strokes) ∧
      (window.keyboard.OneAtATime key strokes →
        (last.keys.get key = true ↔
          ∃ name, window.keyboard.keyOf? name = some key ∧
            Held name strokes)) := by
  intro last strokes
  obtain ⟨keyboard, sameAssigned, keyed⟩ := Keyboard.ofEntries_codes layout
  obtain rfl : keyboard = window.keyboard :=
    Except.ok.inj (sameAssigned.symm.trans assigned)
  have pressed :
      last.keys.get key = true ↔
        lastStatus? (strokes.filterMap window.keyboard.told?) key =
          some true := by
    rw [keys_performAll keyed played, get_record, up key]
    cases lastStatus? (strokes.filterMap window.keyboard.told?) key <;> simp
  refine ⟨pressed.trans Keyboard.lastStatus?_told_iff, ?_⟩
  intro single
  rw [pressed, Keyboard.lastStatus?_told_iff]
  constructor
  · rintro ⟨name, known, held, -⟩
    exact ⟨name, known, held⟩
  · rintro ⟨name, known, held⟩
    exact ⟨name, known, held, single.undisturbed known held⟩

/-- The usual layout, with one more host key for key 5. -/
def sharedLayout : Entries Key :=
  defaultLayout.putAll [("P", 5)]

/-- A window with two host keys for key 5, for a program that jumps in
place. -/
def duet : Window where
  machine := .fresh (.blank 3 2) (.ofSeed 0) 1
  settings :=
    { speed := .integer 1
      fps := .integer 60
      tone := .integer 440
      volume := .integer 0
      layout := sharedLayout.codes
      verbose := .boolean false
      scale := 2 }
  rom := [0x12, 0x00]
  keyboard := ⟨sharedLayout.map fun entry => (entry.1, .key entry.2)⟩
  isOpen := false

theorem duet_assigned :
    Keyboard.ofEntries sharedLayout.codes = .ok duet.keyboard := by
  rfl

theorem duet_up (key : Key) : duet.keys.get key = false := by
  revert key
  decide +kernel

/-- A host key that is let go and pressed again presses its key of the keypad,
while another host key of it is held all along. -/
theorem pressed_iff_held_duet :
    let operations : List WindowOperation :=
      [.receive (.events [.keyDown "p"]), .ask .frame,
        .receive (.events
          [.keyDown "w", .keyDown "x", .keyUp "p", .keyDown "p"]),
        .paint]
    let last := (duet.performAll operations).1
    let strokes := operations.flatMap WindowOperation.strokes
    Held "w" strokes ∧ Held "p" strokes ∧ last.keys.get 5 = true ∧
      duet.keyboard.OneAtATime 0 strokes ∧ last.keys.get 0 = true := by
  intro operations last strokes
  have played : ∀ operation ∈ operations, operation.Played := by
    simp only [operations, List.forall_mem_cons]
    refine ⟨.receive ?_, .frame, .receive ?_, .paint, nofun⟩
    · simp only [List.forall_mem_cons]
      exact ⟨.keyDown (by decide) (by decide), nofun⟩
    · simp only [List.forall_mem_cons]
      exact ⟨.keyDown (by decide) (by decide), .keyDown (by decide) (by decide),
        .keyUp (by decide) (by decide), .keyDown (by decide) (by decide), nofun⟩
  have inOrder :
      strokes =
        ([("p", true), ("w", true), ("x", true), ("p", false), ("p", true)] :
          List (Text × Bool)) :=
    rfl
  have single : duet.keyboard.OneAtATime 0 strokes := by
    intro earlier released later split known
    have member : (released, false) ∈ strokes := by
      rw [split]
      simp
    obtain rfl : released = "p" := by
      simpa [inOrder] using member
    have elsewhere : duet.keyboard.keyOf? "p" = some 5 := by decide +kernel
    rw [elsewhere] at known
    exact absurd known (by decide)
  have undisturbed : duet.keyboard.Undisturbed 5 "p" strokes :=
    ⟨[("p", true), ("w", true), ("x", true), ("p", false)], [], inOrder,
      fun _ _ => List.not_mem_nil⟩
  have shared := (pressed_iff_held duet_assigned duet_up played 5).1
  have own := (pressed_iff_held duet_assigned duet_up played 0).2 single
  refine ⟨by decide +kernel, by decide +kernel, shared.mpr ?_, single, own.mpr ?_⟩
  · exact ⟨"p", by decide +kernel, by decide +kernel, undisturbed⟩
  · exact ⟨"x", by decide +kernel, by decide +kernel⟩

/-- Two host keys of key 5 go down, one of them goes up, and the key counts as
let go although the other one is still held. -/
theorem released_while_held :
    let operations : List WindowOperation :=
      [.receive (.events [.keyDown "w"]), .ask .frame,
        .receive (.events [.keyDown "p", .keyUp "w"])]
    let strokes := operations.flatMap WindowOperation.strokes
    Keyboard.ofEntries (defaultLayout.putAll [("P", 5)]).codes =
        .ok duet.keyboard ∧
      (∀ key, duet.keys.get key = false) ∧
      (∀ operation ∈ operations, operation.Played) ∧
      Alternate strokes ∧
      ¬ ∀ key, (duet.performAll operations).1.keys.get key = true ↔
        ∃ name, duet.keyboard.keyOf? name = some key ∧ Held name strokes := by
  intro operations strokes
  have played : ∀ operation ∈ operations, operation.Played := by
    simp only [operations, List.forall_mem_cons]
    refine ⟨.receive ?_, .frame, .receive ?_, nofun⟩
    · simp only [List.forall_mem_cons]
      exact ⟨.keyDown (by decide) (by decide), nofun⟩
    · simp only [List.forall_mem_cons]
      exact ⟨.keyDown (by decide) (by decide), .keyUp (by decide) (by decide),
        nofun⟩
  have inOrder :
      strokes =
        ([("w", true), ("p", true), ("w", false)] : List (Text × Bool)) :=
    rfl
  have alternate : Alternate strokes := by
    intro earlier name pressed later split
    rw [inOrder] at split
    rcases earlier with _ | ⟨first, _ | ⟨second, _ | ⟨third, rest⟩⟩⟩
    · cases split
      decide
    · cases split
      decide
    · cases split
      decide
    · cases rest <;> cases split
  refine ⟨duet_assigned, duet_up, played, alternate, ?_⟩
  intro claimed
  have held : Held "p" strokes := by decide +kernel
  have known : duet.keyboard.keyOf? "p" = some 5 := by decide +kernel
  have letGo : (duet.performAll operations).1.keys.get 5 = false := by
    decide +kernel
  rw [(claimed 5).mpr ⟨"p", known, held⟩] at letGo
  contradiction

end Window

end Chip8
