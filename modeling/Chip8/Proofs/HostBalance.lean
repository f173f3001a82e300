import Chip8.Program
import Chip8.Proofs.Calls
import Chip8.Proofs.Reception

/-!
# The balance of the host

The program takes back all that it does to the host, on every path.

* `HostCall.SetsUp` and `HostCall.Shows` list the calls that the sound and the
  window make (`setsUp_install`, `shows_run`);
* `Program.Quiet` says of notices that they hold no other calls and leave the
  tone stopped, and all that happens between the start and the end of the host
  is quiet (`quiet_runHost`);
* `Program.Balanced` says that a trace starts the host once, leaves it once and
  stops every sound, and `balanced_play` that the trace of a program with
  settings and a ROM is so.
-/

namespace Chip8

/-! ## Calls of the sound and of the window -/

/-- The call sets the sound up. -/
def HostCall.SetsUp : HostCall → Prop
  | .openMixer | .makeSound _ | .setVolume _ => True
  | _ => False

/-- The call shows the window or its picture. -/
def HostCall.Shows : HostCall → Prop
  | .openWindow _ _ | .setCaption _ => True
  | .lock | .fill _ | .rectangle _ _ _ _ _ | .unlock | .flip => True
  | .awaitFrame _ => True
  | _ => False

theorem HostCall.unlike_of_setsUp_or_shows
    {call : HostCall} (known : call.SetsUp ∨ call.Shows) :
    call ≠ .start ∧ call ≠ .quit ∧ call.isSound = false := by
  cases call <;> simp_all [SetsUp, Shows, isSound]

theorem Beeper.setsUp_onMixer
    {mixer : Mixer} {tone volume : Datum} {notice : Notice}
    (member : notice ∈ (onMixer mixer tone volume).2) :
    ∃ call, notice = .host call ∧ call.SetsUp := by
  unfold onMixer at member
  split at member
  · simp only [List.mem_cons, List.not_mem_nil, or_false] at member
    rcases member with made | set
    · exact ⟨_, made, trivial⟩
    · exact ⟨_, set, trivial⟩
  · exact absurd member List.not_mem_nil

/-- Building a beeper sets the sound up and says so. -/
theorem Beeper.setsUp_install
    {mixer : Mixer} {tone volume : Datum} {notice : Notice}
    (member : notice ∈ (install mixer tone volume).2) :
    (∃ call, notice = .host call ∧ call.SetsUp) ∨
      ∃ reason, notice = .audioDisabled reason := by
  unfold install at member
  split at member
  · exact .inl (setsUp_onMixer member)
  · split at member
    · rcases List.mem_cons.mp member with opened | later
      · exact .inl ⟨_, opened, trivial⟩
      · exact .inl (setsUp_onMixer later)
    · simp only [List.mem_cons, List.not_mem_nil, or_false] at member
      rcases member with opened | disabled
      · exact .inl ⟨_, opened, trivial⟩
      · exact .inr ⟨_, disabled⟩

theorem Beeper.isPlaying_onMixer
    {mixer : Mixer} {tone volume : Datum} {beeper : Beeper}
    (built : (onMixer mixer tone volume).1 = .ok beeper) :
    beeper.isPlaying = false := by
  unfold onMixer at built
  split at built
  · cases built
    rfl
  · contradiction

/-- A new beeper does not play. -/
theorem Beeper.isPlaying_install
    {mixer : Mixer} {tone volume : Datum} {beeper : Beeper}
    (built : (install mixer tone volume).1 = .ok beeper) :
    beeper.isPlaying = false := by
  unfold install at built
  split at built
  · exact isPlaying_onMixer built
  · split at built
    · exact isPlaying_onMixer built
    · cases built
      rfl

namespace Window

variable {window : Window} {call : HostCall}

theorem shows_create
    {machine : Machine} {settings : Settings} {rom : List UInt8}
    {opening : List Notice} {notice : Notice}
    (created : create machine settings rom = .ok (window, opening))
    (member : notice ∈ opening) :
    ∃ call, notice = .host call ∧ call.Shows := by
  unfold create at created
  split at created
  · contradiction
  · cases created
    simp only [List.mem_cons, List.not_mem_nil, or_false] at member
    rcases member with opened | titled
    · exact ⟨_, opened, trivial⟩
    · exact ⟨_, titled, trivial⟩

theorem shows_paint (member : .host call ∈ window.paint.notices) :
    call.Shows := by
  obtain ⟨painted, same, known⟩ := host_of_mem_paint member
  cases same
  rcases known with rfl | rfl | ⟨x, y, rfl⟩ | rfl | rfl <;> exact trivial

theorem shows_frame (member : .host call ∈ window.frame.notices) :
    call.Shows := by
  cases framed : window.machine.frame.result with
  | error fault =>
      rw [frame_of_error framed] at member
      simp at member
  | ok _ =>
      rw [frame_of_ok framed] at member
      simp only [List.mem_append, List.mem_map, reduceCtorEq, and_false,
        exists_false, false_or, List.mem_singleton, Notice.host.injEq]
        at member
      rcases member with painted | awaited
      · exact shows_paint painted
      · exact awaited ▸ trivial

theorem shows_loop
    {batches : List Batch}
    (member : .host call ∈ (window.loop batches).notices) :
    call.Shows := by
  induction batches generalizing window with
  | nil =>
      exact absurd member ((window.unpainted_receiveBatch _).silent call)
  | cons batch rest inductionHypothesis =>
      have silent := (window.unpainted_receiveBatch batch).silent call
      rcases WindowOutcome.mem_notices_andThen member with early | late
      · exact absurd early silent
      · split at late
        · rcases WindowOutcome.mem_notices_andThen late with framed | looped
          · exact shows_frame framed
          · exact inductionHypothesis looped
        · exact absurd late List.not_mem_nil

theorem shows_run
    {batches : List Batch} (member : .host call ∈ (window.run batches).notices) :
    call.Shows := by
  rcases List.mem_append.mp member with looped | stopped
  · exact shows_loop looped
  · simp at stopped

end Window

/-! ## Quiet notices -/

/-- The notice neither starts the tone nor is a call to the host that is foreign
to the sound and to the window. -/
def Notice.Harmless : Notice → Prop
  | .host call => call.SetsUp ∨ call.Shows
  | .machine (.tone .play) => False
  | _ => True

namespace Program

/-- The notices hold no calls to the host but those of the sound and of the
window, and if they call the tone at all, then they leave it stopped. -/
structure Quiet (notices : List Notice) : Prop where
  known : ∀ call, .host call ∈ notices → call.SetsUp ∨ call.Shows
  stopped : (notices.filterMap Notice.toneCall?).getLast? ≠ some .play

namespace Quiet

theorem of_harmless
    {notices : List Notice}
    (harmless : ∀ notice ∈ notices, notice.Harmless) :
    Quiet notices where
  known call member := harmless (.host call) member
  stopped latest := by
    have member := List.mem_of_getLast? latest
    rw [List.mem_filterMap] at member
    obtain ⟨notice, among, isPlay⟩ := member
    cases notice with
    | machine event =>
        cases event with
        | tone call =>
            cases isPlay
            exact harmless _ among
        | _ => contradiction
    | _ => contradiction

theorem append
    {earlier later : List Notice} (first : Quiet earlier)
    (second : Quiet later) :
    Quiet (earlier ++ later) where
  known call member := by
    rcases List.mem_append.mp member with early | late
    · exact first.known call early
    · exact second.known call late
  stopped plays := by
    rw [List.filterMap_append, List.getLast?_append] at plays
    cases latest : (later.filterMap Notice.toneCall?).getLast? with
    | none =>
        rw [latest, Option.none_or] at plays
        exact first.stopped plays
    | some tone =>
        rw [latest, Option.some_or] at plays
        exact second.stopped (latest.trans plays)

theorem load (machine : Machine) (program : List UInt8) :
    Quiet ((machine.load program).events.map .machine) := by
  have noPlay : .tone .play ∉ (machine.load program).events := by
    simp only [Machine.load, Machine.reset, Attempt.publish]
    split <;> simp
  refine of_harmless ?_
  intro notice member
  obtain ⟨event, among, rfl⟩ := List.mem_map.mp member
  cases event with
  | tone call =>
      cases call with
      | play => exact absurd among noPlay
      | stop => trivial
  | _ => trivial

theorem run (window : Window) (batches : List Batch) :
    Quiet (window.run batches).notices where
  known _ member := .inr (Window.shows_run member)
  stopped := by
    -- However the loop ends, the window stops the tone after it.
    simp only [Window.run, List.filterMap_append]
    simp [Notice.toneCall?]

end Quiet

theorem quiet_runWindow (window : Window) (batches : List Batch) :
    Quiet (runWindow window batches).1 := by
  have run := Quiet.run window batches
  have note (pc : Int) (fault : Fault) : Quiet [.stopped pc fault] :=
    .of_harmless (by simp [Notice.Harmless])
  simp only [runWindow]
  split
  · exact run
  · exact run
  · exact run
  · exact run.append (note _ _)

theorem quiet_runMachine
    (surroundings : Surroundings) (settings : Settings) (rom : List UInt8) :
    Quiet (runMachine surroundings settings rom).1 := by
  unfold runMachine
  split
  · exact .of_harmless (by simp)
  · next speed _ =>
      generalize Machine.fresh (.blank screenWidth screenHeight)
        surroundings.random speed = machine
      have loaded := Quiet.load machine rom
      simp only
      split
      · exact loaded.append (.of_harmless (by simp [Notice.Harmless]))
      · split
        · exact loaded
        · next window opening created =>
            have shown : Quiet opening := by
              refine .of_harmless ?_
              intro notice member
              obtain ⟨call, rfl, shows⟩ := Window.shows_create created member
              exact .inr shows
            exact (loaded.append shown).append (quiet_runWindow window _)

theorem quiet_install (mixer : Mixer) (tone volume : Datum) :
    Quiet (Beeper.install mixer tone volume).2 := by
  refine .of_harmless ?_
  intro notice member
  rcases Beeper.setsUp_install member with ⟨call, rfl, sets⟩ | ⟨reason, rfl⟩
  · exact .inl sets
  · trivial

/-- A ROM that does not fit leads to no call to the host. -/
theorem silent_runMachine
    (surroundings : Surroundings) (settings : Settings) {rom : List UInt8}
    (tooLong : programCapacity < rom.length) (call : HostCall) :
    .host call ∉ (runMachine surroundings settings rom).1 := by
  unfold runMachine
  split
  · exact List.not_mem_nil
  · next speed _ =>
      generalize Machine.fresh (.blank screenWidth screenHeight)
        surroundings.random speed = machine
      have failed := machine.result_load rom
      rw [if_neg (Nat.not_le_of_lt tooLong)] at failed
      simp [failed]

/-- The notices between the start of the host and its end. -/
theorem quiet_runHost
    (surroundings : Surroundings) (settings : Settings) (rom : List UInt8) :
    ∃ middle,
      (runHost surroundings settings rom).2.1 =
          [.host preparation, .host .start] ++ middle ++ [.host .quit] ∧
        Quiet middle ∧
        (programCapacity < rom.length → ∀ width height,
          .host (.openWindow width height) ∉ middle) := by
  let installation := Beeper.install surroundings.mixer.opened settings.tone
    settings.volume
  have installed : Quiet installation.2 := quiet_install _ _ _
  have noWindow (width height : Nat) :
      .host (.openWindow width height) ∉ installation.2 := by
    intro member
    rcases Beeper.setsUp_install member with ⟨known, same, sets⟩ | ⟨_, same⟩
    · cases same
      exact sets
    · contradiction
  cases built : installation.1 with
  | error reason =>
      refine ⟨installation.2, ?_, installed, fun _ => noWindow⟩
      simp only [runHost]
      rw [built]
  | ok beeper =>
      let played := (runMachine surroundings settings rom).1
      refine ⟨installation.2 ++ played, ?_,
        installed.append (quiet_runMachine surroundings settings rom), ?_⟩
      · simp only [runHost]
        rw [built]
        simp only [played, List.append_assoc]
        rfl
      · intro tooLong width height member
        rcases List.mem_append.mp member with early | late
        · exact noWindow width height early
        · exact silent_runMachine surroundings settings tooLong _ late

theorem isPlaying_runHost
    (surroundings : Surroundings) (settings : Settings) (rom : List UInt8) :
    (runHost surroundings settings rom).1.isPlaying = false := by
  simp only [runHost]
  split
  · rfl
  · next beeper built =>
      exact Beeper.isPlaying_install built

/-! ## Traces -/

/-- The trace starts the host once and before anything but the preparation of
the mixer, leaves it once and at last, and holds starts and stops of the sound
in turn. -/
structure Balanced (calls : List HostCall) : Prop where
  between : ∃ middle,
    calls = preparation :: .start :: middle ++ [.quit] ∧
      .start ∉ middle ∧ .quit ∉ middle
  sounds : ∃ count, calls.filter HostCall.isSound =
    (List.replicate count [.playSound, .stopSound]).flatten

theorem calls_between (observers : Observers) (middle : List Notice) :
    Effect.calls (observers.observeAll
        ([.host preparation, .host .start] ++ middle ++ [.host .quit])).2 =
      preparation :: .start :: Effect.calls (observers.observeAll middle).2 ++
        [.quit] := by
  rw [Observers.observeAll_append, Observers.observeAll_append]
  simp only [Effect.calls_append]
  rfl

/-- Once the ROM is read, the trace is balanced, and no window is opened for a
ROM that does not fit. -/
theorem balanced_play
    (surroundings : Surroundings) (settings : Settings) (rom : List UInt8) :
    Balanced (play surroundings settings rom).calls ∧
      (programCapacity < rom.length → ∀ width height,
        .openWindow width height ∉ (play surroundings settings rom).calls) := by
  obtain ⟨middle, notices, quiet, noWindow⟩ :=
    quiet_runHost surroundings settings rom
  let beeper := (runHost surroundings settings rom).1
  let observers : Observers :=
    ⟨false, some (logLevel settings), .beeper beeper⟩
  have trace : (play surroundings settings rom).calls =
      preparation :: .start :: Effect.calls (observers.observeAll middle).2 ++
        [.quit] := by
    rw [← calls_between, ← notices]
    rfl
  have received (call : HostCall)
      (member : call ∈ Effect.calls (observers.observeAll middle).2) :
      call.isSound = true ∨ call.SetsUp ∨ call.Shows := by
    rcases mem_calls_observeAll member with sound | among
    · exact .inl sound
    · exact .inr (quiet.known call among)
  have sounds :
      (Effect.calls (observers.observeAll middle).2).filter HostCall.isSound =
        (beeper.hearAll (middle.filterMap Notice.toneCall?)).2 :=
    sounds_observeAll rfl fun call among =>
      (HostCall.unlike_of_setsUp_or_shows (quiet.known call among)).2.2
  refine ⟨⟨⟨_, trace, ?_, ?_⟩, ?_⟩, ?_⟩
  · intro member
    simpa [HostCall.isSound, HostCall.SetsUp, HostCall.Shows]
      using received .start member
  · intro member
    simpa [HostCall.isSound, HostCall.SetsUp, HostCall.Shows]
      using received .quit member
  · -- Starts and stops pair up because the beeper is silent at both ends.
    have silent : beeper.isPlaying = false :=
      isPlaying_runHost surroundings settings rom
    have silentAgain := Beeper.isPlaying_hearAll silent quiet.stopped
    obtain ⟨count, inTurn⟩ :=
      beeper.beeps_hearAll (middle.filterMap Notice.toneCall?)
    simp only [Beeper.started, silent, silentAgain, Bool.false_eq_true,
      if_false, List.nil_append, List.append_nil] at inTurn
    refine ⟨count, ?_⟩
    rw [trace]
    simp only [List.cons_append, List.filter_cons, List.filter_append, sounds,
      inTurn, preparation, HostCall.isSound, Bool.false_eq_true, if_false,
      List.filter_nil, List.append_nil]
    rfl
  · intro tooLong width height member
    rw [trace] at member
    simp only [preparation, List.cons_append, List.mem_cons, reduceCtorEq,
      false_or, List.mem_append, List.not_mem_nil, or_false] at member
    rcases mem_calls_observeAll member with sound | among
    · contradiction
    · exact noWindow tooLong width height among

end Program

end Chip8
