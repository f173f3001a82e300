import Mathlib.Data.List.Destutter
import Chip8.Proofs.HostBalance

/-!
# The tone as a gate

A beeper passes on what changes.  The machine repeats its calls frame by frame,
and the host hears of the first of them only.

* what is left of some calls is told by `dropWhile` and `destutter`: the leading
  stops are dropped, and of equal calls in a row the first one stays;
* a beeper with a sound is told by the call that it obeyed last (`obeying`), and
  `hearAll_obeying` says what it answers to calls, from any such call on;
* a new beeper has a sound unless there is no mixer (`install_of_closed`,
  `eq_obeying_of_install`), and `exists_install_of_integer` says that there is a
  beeper for every tone of 64 bits;
* `edge_triggered` puts all of this together.
-/

namespace Chip8

/-! ## Runs of equal items -/

/-- After an item that stays, the items that are equal to it fall away first. -/
theorem destutter'_eq_cons_dropWhile
    {α : Type} [DecidableEq α] (latest : α) (items : List α) :
    items.destutter' (· ≠ ·) latest =
      latest :: (items.dropWhile (· = latest)).destutter (· ≠ ·) := by
  induction items with
  | nil =>
      rfl
  | cons item rest inductionHypothesis =>
      by_cases same : item = latest
      · rw [List.destutter'_cons_neg _ (by simp [same]), inductionHypothesis,
          List.dropWhile_cons_of_pos (by simp [same])]
      · rw [List.destutter'_cons_pos _ (Ne.symm same),
          List.dropWhile_cons_of_neg (by simp [same]), List.destutter_cons']

/-- What the host is asked for by a call to the tone that it hears of. -/
def ToneCall.sound : ToneCall → HostCall
  | .play => .startSound (-1)
  | .stop => .stopSound

namespace Beeper

/-! ## Calls one after the other -/

/-- A beeper with a sound that obeyed a call. -/
def obeying (call : ToneCall) : Beeper :=
  ⟨true, call = .play⟩

theorem hear_obeying (latest call : ToneCall) :
    (obeying latest).hear call =
      (obeying call, if call = latest then [] else [call.sound]) := by
  cases latest <;> cases call <;> rfl

theorem isPlaying_obeying (call : ToneCall) :
    (obeying call).isPlaying = true ↔ call = .play :=
  decide_eq_true_iff

/-- A beeper with a sound obeys the latest call, and passes on those that differ
from the ones before them. -/
theorem hearAll_obeying (latest : ToneCall) (calls : List ToneCall) :
    (obeying latest).hearAll calls =
      (obeying (calls.getLastD latest),
        ((calls.dropWhile (· = latest)).destutter (· ≠ ·)).map
          ToneCall.sound) := by
  induction calls generalizing latest with
  | nil =>
      rfl
  | cons call rest inductionHypothesis =>
      rw [hearAll_cons, hear_obeying, inductionHypothesis call,
        List.getLastD_cons]
      by_cases same : call = latest
      · rw [if_pos same, same, List.dropWhile_cons_of_pos (by simp),
          List.nil_append]
      · rw [if_neg same, List.dropWhile_cons_of_neg (by simp [same]),
          List.destutter_cons', destutter'_eq_cons_dropWhile, List.map_cons,
          List.singleton_append]

/-- A beeper that was stopped answers with starts and stops in turn, from a start
on. -/
theorem beeps_of_stopped (calls : List ToneCall) :
    ∃ count, ((obeying .stop).hearAll calls).2 = beeps count ∨
      ((obeying .stop).hearAll calls).2 = beeps count ++ [.playSound] := by
  obtain ⟨count, inTurn⟩ := (obeying .stop).beeps_hearAll calls
  have stopped : (obeying .stop).started = [] := rfl
  rw [stopped, List.nil_append] at inTurn
  refine ⟨count, ?_⟩
  rw [inTurn]
  by_cases plays : ((obeying .stop).hearAll calls).1.isPlaying = true
  · right
    simp only [started, plays, if_true]
  · left
    simp only [started, plays, Bool.false_eq_true, if_false, List.append_nil]

/-- A beeper without a sound ignores every call. -/
theorem hearAll_silent (calls : List ToneCall) :
    silent.hearAll calls = (silent, []) := by
  induction calls with
  | nil =>
      rfl
  | cons call rest inductionHypothesis =>
      have ignored : silent.hear call = (silent, []) := by
        cases call <;> rfl
      rw [hearAll_cons, ignored, inductionHypothesis, List.nil_append]

/-! ## New beepers -/

theorem isSound_of_mem_install
    {mixer : Mixer} {tone volume : Datum} {call : HostCall}
    (member : .host call ∈ (install mixer tone volume).2) :
    call.isSound = false := by
  rcases setsUp_install member with ⟨known, same, sets⟩ | ⟨reason, same⟩
  · cases same
    exact (HostCall.unlike_of_setsUp_or_shows (.inl sets)).2.2
  · contradiction

/-- Without a mixer there is a beeper without a sound. -/
theorem install_of_closed
    {mixer : Mixer} (closed : mixer.opened.isOpen = false)
    (tone volume : Datum) : (install mixer tone volume).1 = .ok silent := by
  obtain ⟨isOpen, refusal, rate, channels⟩ := mixer
  simp only [Mixer.opened, Bool.or_eq_false_iff] at closed
  obtain ⟨rfl, refused⟩ := closed
  cases refusal with
  | none => contradiction
  | some reason => rfl

theorem install_of_opened
    {mixer : Mixer} (opened : mixer.opened.isOpen = true)
    (tone volume : Datum) :
    (install mixer tone volume).1 = (onMixer mixer tone volume).1 := by
  obtain ⟨isOpen, refusal, rate, channels⟩ := mixer
  cases isOpen with
  | true => rfl
  | false =>
      cases refusal with
      | none => rfl
      | some reason => contradiction

/-- A new beeper on a mixer has a sound and is as if it had been stopped. -/
theorem eq_obeying_of_install
    {mixer : Mixer} (opened : mixer.opened.isOpen = true)
    {tone volume : Datum} {beeper : Beeper}
    (built : (install mixer tone volume).1 = .ok beeper) :
    beeper = obeying .stop := by
  rw [install_of_opened opened] at built
  unfold onMixer at built
  split at built
  · cases built
    rfl
  · contradiction

/-- An integer of 64 bits is a tone, whatever the rate and the channels are. -/
theorem exists_build_of_integer
    (rate channels : Int) {hertz : Int} (least : -0x8000000000000000 ≤ hertz)
    (most : hertz < 0x8000000000000000) :
    ∃ wave, SquareWave.build rate channels (.integer hertz) = .ok wave := by
  let cells : Grid Datum := ⟨[], [.integer hertz]⟩
  have kind : ToneKind.common (cells.cells.map ToneKind.ofDatum) = .signed := by
    change ToneKind.ofNumber (.integer hertz) = .signed
    simp only [ToneKind.ofNumber, least, most, and_self, if_true]
  have fits : SquareWave.fits rate.toNat cells.width = true := rfl
  have faultless : SquareWave.failure? .signed rate.toNat cells = none :=
    if_pos (.inl (by decide))
  have shallow : ¬ (channels > 1 ∧ cells.shape.length = Grid.dimensionLimit) :=
    fun deep => absurd deep.2 (Nat.zero_ne_add_one 31)
  refine ⟨⟨rate, channels, cells.map SquareWave.toneOf⟩, ?_⟩
  change SquareWave.ofGrid rate channels cells = _
  unfold SquareWave.ofGrid
  simp only [kind, fits, faultless, if_neg shallow, Bool.not_true,
    Bool.false_eq_true, if_false]

theorem exists_install_of_integer
    {mixer : Mixer} (opened : mixer.opened.isOpen = true)
    {hertz : Int} (least : -0x8000000000000000 ≤ hertz)
    (most : hertz < 0x8000000000000000) (volume : Datum) :
    ∃ beeper, (install mixer (.integer hertz) volume).1 = .ok beeper := by
  obtain ⟨wave, built⟩ :=
    exists_build_of_integer mixer.rate mixer.channels least most
  refine ⟨obeying .stop, ?_⟩
  rw [install_of_opened opened]
  simp only [onMixer, built]
  rfl

/-! ## The gate -/

/-- A new beeper and any calls to it.  If no mixer could be opened, then there is a
beeper which never plays, and the host hears of no sound.  On an open mixer there is
one for every tone of 64 bits, and whatever its tone is, the host hears of the calls
that are left once the leading stops are dropped and of equal calls in a row the
first one stays, each start to be repeated without end; these are starts and stops
in turn, from a start on, and after each call the beeper plays exactly if that call
was to play. -/
theorem edge_triggered
    (mixer : Mixer) (tone volume : Datum) (calls : List ToneCall) :
    let built := install mixer tone volume
    (∀ call, .host call ∈ built.2 → call.isSound = false) ∧
      (mixer.opened.isOpen = false →
        ∃ beeper, built.1 = .ok beeper ∧ beeper.isPlaying = false ∧
          (beeper.hearAll calls).2 = [] ∧
          ∀ earlier later, calls = earlier ++ later →
            (beeper.hearAll earlier).1.isPlaying = false) ∧
      (mixer.opened.isOpen = true → ∀ hertz : Int, tone = .integer hertz →
        -0x8000000000000000 ≤ hertz → hertz < 0x8000000000000000 →
        ∃ beeper, built.1 = .ok beeper) ∧
      (mixer.opened.isOpen = true → ∀ beeper, built.1 = .ok beeper →
        let sounds := (beeper.hearAll calls).2
        beeper.isPlaying = false ∧
          sounds = ((calls.dropWhile (· = .stop)).destutter (· ≠ ·)).map
            ToneCall.sound ∧
          (∃ count,
            let pairs := (List.replicate count
              [HostCall.startSound (-1), .stopSound]).flatten
            sounds = pairs ∨ sounds = pairs ++ [.startSound (-1)]) ∧
          ∀ earlier call later, calls = earlier ++ call :: later →
            ((beeper.hearAll (earlier ++ [call])).1.isPlaying = true ↔
              call = .play)) := by
  intro built
  refine ⟨fun call member => isSound_of_mem_install member, ?closed, ?built,
    ?opened⟩
  case closed =>
    intro closed
    refine ⟨silent, install_of_closed closed tone volume, rfl, ?_, ?_⟩
    · rw [hearAll_silent]
    · intro earlier later split
      rw [hearAll_silent]
      rfl
  case built =>
    intro opened hertz isInteger least most
    subst isInteger
    exact exists_install_of_integer opened least most volume
  case opened =>
    intro opened beeper isBuilt sounds
    obtain rfl := eq_obeying_of_install opened isBuilt
    refine ⟨rfl, ?_, beeps_of_stopped calls, ?_⟩
    · simp only [sounds, hearAll_obeying]
    · intro earlier call later split
      rw [hearAll_obeying, List.getLastD_concat]
      exact isPlaying_obeying call

/-- Calls that are repeated, on a mixer that could not be opened and on one that
could. -/
theorem edge_triggered_doorbell :
    let calls : List ToneCall :=
      [.stop, .stop, .play, .play, .stop, .stop, .play]
    let mute : Mixer := ⟨false, some "no device", 44100, 1⟩
    let loud : Mixer := ⟨false, none, 22050, 2⟩
    let volume := Settings.defaultVolume
    (mute.opened.isOpen = false ∧
        ∃ beeper, (install mute (.integer 440) volume).1 = .ok beeper ∧
          (beeper.hearAll calls).2 = [] ∧
          (beeper.hearAll [.stop, .stop, .play]).1.isPlaying = false) ∧
      loud.opened.isOpen = true ∧
        ∃ beeper, (install loud (.integer 440) volume).1 = .ok beeper ∧
          (beeper.hearAll calls).2 =
            [.startSound (-1), .stopSound, .startSound (-1)] ∧
          (beeper.hearAll [.stop, .stop, .play, .play]).1.isPlaying = true ∧
          ¬ (beeper.hearAll [.stop, .stop, .play, .play,
            .stop]).1.isPlaying = true := by
  intro calls mute loud volume
  obtain ⟨-, silenced, -⟩ := edge_triggered mute (.integer 440) volume calls
  obtain ⟨-, -, builds, passes⟩ :=
    edge_triggered loud (.integer 440) volume calls
  obtain ⟨ignoring, isIgnoring, -, nothing, quiet⟩ := silenced rfl
  obtain ⟨beeper, built⟩ := builds rfl 440 rfl (by decide) (by decide)
  obtain ⟨-, sounds, -, playing⟩ := passes rfl beeper built
  refine ⟨⟨rfl, ignoring, isIgnoring, nothing,
      quiet _ [.play, .stop, .stop, .play] rfl⟩,
    rfl, beeper, built, sounds.trans (by decide), ?_, ?_⟩
  · exact (playing [.stop, .stop, .play] .play [.stop, .stop, .play] rfl).mpr rfl
  · intro plays
    have wrong :=
      (playing [.stop, .stop, .play, .play] .stop [.stop, .play] rfl).mp plays
    contradiction

end Beeper

end Chip8
