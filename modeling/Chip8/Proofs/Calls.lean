import Chip8.Observers

/-!
# Calls among notices

What the host receives when notices are passed on.

* `mem_calls_observeAll` says that every call is one of the notices, or starts or
  stops the sound;
* `Beeper.hearAll` answers calls to the tone in order, and `sounds_observeAll`
  says that the starts and stops are its answers;
* a beeper answers with starts and stops in turn (`beeps_hearAll`), and is quiet
  when it was told to stop (`isPlaying_hearAll`);
* a hook hears all pixel changes (`hooks_observeAll`), and a recorder all calls to
  the tone (`tones_observeAll`), whoever else listens.
-/

namespace Chip8

/-- The call to the tone that a notice is. -/
def Notice.toneCall? : Notice → Option ToneCall
  | .machine (.tone call) => some call
  | _ => none

/-- Whether a call starts or stops the sound. -/
def HostCall.isSound : HostCall → Bool
  | .startSound _ | .stopSound => true
  | _ => false

/-! ## Calls of the host -/

theorem ToneSink.isSound_of_mem_hear
    {sink : ToneSink} {tone : ToneCall} {call : HostCall}
    (member : call ∈ Effect.calls (sink.hear tone).2) :
    call.isSound = true := by
  cases sink with
  | nobody | recorder =>
      exact absurd member List.not_mem_nil
  | beeper beeper =>
      simp only [hear, Effect.calls_map_called] at member
      cases tone <;>
        simp only [Beeper.hear] at member <;>
        split at member <;>
        simp_all [HostCall.isSound]

theorem mem_calls_observe
    {observers : Observers} {notice : Notice} {call : HostCall}
    (member : call ∈ Effect.calls (observers.observe notice).2) :
    call.isSound = true ∨ notice = .host call := by
  rw [Effect.calls_observe] at member
  split at member
  · exact .inl (ToneSink.isSound_of_mem_hear member)
  · rw [List.mem_singleton.mp member]
    exact .inr rfl
  · exact absurd member List.not_mem_nil

/-- The host receives nothing but sounds and the calls among the notices. -/
theorem mem_calls_observeAll
    {observers : Observers} {notices : List Notice} {call : HostCall}
    (member : call ∈ Effect.calls (observers.observeAll notices).2) :
    call.isSound = true ∨ .host call ∈ notices := by
  induction notices generalizing observers with
  | nil =>
      exact absurd member List.not_mem_nil
  | cons notice rest inductionHypothesis =>
      rw [Observers.observeAll_cons, Effect.calls_append, List.mem_append]
        at member
      rcases member with now | later
      · rcases mem_calls_observe now with sound | same
        · exact .inl sound
        · exact .inr (same ▸ List.mem_cons_self)
      · rcases inductionHypothesis later with sound | among
        · exact .inl sound
        · exact .inr (List.mem_cons_of_mem notice among)

/-! ## Sounds -/

/-- So many starts, each with a stop after it. -/
def beeps (count : Nat) : List HostCall :=
  (List.replicate count [.playSound, .stopSound]).flatten

theorem beeps_add (first second : Nat) :
    beeps (first + second) = beeps first ++ beeps second := by
  simp only [beeps, ← List.replicate_append_replicate, List.flatten_append]

namespace Beeper

/-- Answer calls to the tone in order. -/
def hearAll (beeper : Beeper) : List ToneCall → Beeper × List HostCall
  | [] => (beeper, [])
  | call :: rest =>
      let (heard, sounds) := beeper.hear call
      let (last, later) := heard.hearAll rest
      (last, sounds ++ later)

theorem hearAll_cons
    (beeper : Beeper) (call : ToneCall) (rest : List ToneCall) :
    beeper.hearAll (call :: rest) =
      (((beeper.hear call).1.hearAll rest).1,
        (beeper.hear call).2 ++ ((beeper.hear call).1.hearAll rest).2) := rfl

theorem hearAll_append
    (beeper : Beeper) (earlier later : List ToneCall) :
    (beeper.hearAll (earlier ++ later)).1 =
      ((beeper.hearAll earlier).1.hearAll later).1 := by
  induction earlier generalizing beeper with
  | nil =>
      rfl
  | cons call rest inductionHypothesis =>
      simp only [List.cons_append, hearAll_cons, inductionHypothesis]

/-- The start that a sound which plays goes back to. -/
def started (beeper : Beeper) : List HostCall :=
  if beeper.isPlaying then [.playSound] else []

theorem beeps_hear (beeper : Beeper) (call : ToneCall) :
    ∃ count, beeper.started ++ (beeper.hear call).2 =
      beeps count ++ (beeper.hear call).1.started := by
  -- Only a stop of a sound that plays completes a pair.
  obtain ⟨hasSound, isPlaying⟩ := beeper
  cases call with
  | play =>
      refine ⟨0, ?_⟩
      cases hasSound <;> cases isPlaying <;> rfl
  | stop =>
      refine ⟨if hasSound && isPlaying then 1 else 0, ?_⟩
      cases hasSound <;> cases isPlaying <;> rfl

/-- Starts and stops come in turn, from the start of a sound that plays. -/
theorem beeps_hearAll (beeper : Beeper) (calls : List ToneCall) :
    ∃ count, beeper.started ++ (beeper.hearAll calls).2 =
      beeps count ++ (beeper.hearAll calls).1.started := by
  -- The start of a sound that plays is carried from one call to the next.
  induction calls generalizing beeper with
  | nil =>
      exact ⟨0, List.append_nil _⟩
  | cons call rest inductionHypothesis =>
      obtain ⟨first, now⟩ := beeper.beeps_hear call
      obtain ⟨second, later⟩ := inductionHypothesis (beeper.hear call).1
      refine ⟨first + second, ?_⟩
      rw [hearAll_cons, ← List.append_assoc, now, List.append_assoc, later,
        beeps_add, List.append_assoc]

/-- Only a beeper with a sound plays. -/
def Sound (beeper : Beeper) : Prop :=
  beeper.isPlaying = true → beeper.hasSound = true

theorem sound_hear
    {beeper : Beeper} (sound : beeper.Sound) (call : ToneCall) :
    (beeper.hear call).1.Sound := by
  obtain ⟨hasSound, isPlaying⟩ := beeper
  cases call <;> cases hasSound <;> cases isPlaying <;>
    simp_all [Sound, hear]

theorem sound_hearAll
    {beeper : Beeper} (sound : beeper.Sound) (calls : List ToneCall) :
    (beeper.hearAll calls).1.Sound := by
  induction calls generalizing beeper with
  | nil =>
      exact sound
  | cons call rest inductionHypothesis =>
      exact inductionHypothesis (sound_hear sound call)

theorem isPlaying_hear_stop {beeper : Beeper} (sound : beeper.Sound) :
    (beeper.hear .stop).1.isPlaying = false := by
  obtain ⟨hasSound, isPlaying⟩ := beeper
  cases hasSound <;> cases isPlaying <;> simp_all [Sound, hear]

/-- A beeper that was quiet is quiet again, unless the latest call asked it to
play. -/
theorem isPlaying_hearAll
    {beeper : Beeper} {calls : List ToneCall}
    (quiet : beeper.isPlaying = false)
    (stopped : calls.getLast? ≠ some .play) :
    (beeper.hearAll calls).1.isPlaying = false := by
  rcases List.eq_nil_or_concat calls with none | ⟨earlier, latest, split⟩
  · rw [none]
    exact quiet
  · rw [List.concat_eq_append] at split
    subst split
    have sound : (beeper.hearAll earlier).1.Sound :=
      sound_hearAll (fun plays => absurd plays (by simp [quiet])) earlier
    rw [hearAll_append]
    cases latest with
    | play => simp at stopped
    | stop => exact isPlaying_hear_stop sound

end Beeper

/-! ## Sounds among the calls -/

theorem Beeper.sounds_hear (beeper : Beeper) (call : ToneCall) :
    (beeper.hear call).2.filter HostCall.isSound = (beeper.hear call).2 := by
  obtain ⟨hasSound, isPlaying⟩ := beeper
  cases call <;> cases hasSound <;> cases isPlaying <;> rfl

theorem sounds_observe
    {observers : Observers} {beeper : Beeper} {notice : Notice}
    (listens : observers.tone = .beeper beeper)
    (silent : ∀ call, notice = .host call → call.isSound = false) :
    let heard := beeper.hearAll notice.toneCall?.toList
    (Effect.calls (observers.observe notice).2).filter HostCall.isSound =
        heard.2 ∧
      (observers.observe notice).1.tone = .beeper heard.1 := by
  intro heard
  rw [Effect.calls_observe]
  cases notice with
  | machine event =>
      cases event with
      | tone call =>
          have answer : heard = beeper.hear call := by
            simp only [heard, Notice.toneCall?, Option.toList, Beeper.hearAll,
              List.append_nil]
          rw [answer]
          simp only [Observers.observe, listens, ToneSink.hear,
            Effect.calls_map_called, beeper.sounds_hear call, and_self]
      | _ => exact ⟨rfl, listens⟩
  | host call =>
      have noSound : ¬ call.isSound = true := by
        simp [silent call rfl]
      exact ⟨List.filter_cons_of_neg noSound, listens⟩
  | _ => exact ⟨rfl, listens⟩

/-- The sounds that the host receives are the answers of the beeper, if the
notices ask for none. -/
theorem sounds_observeAll
    {observers : Observers} {beeper : Beeper} {notices : List Notice}
    (listens : observers.tone = .beeper beeper)
    (silent : ∀ call, .host call ∈ notices → call.isSound = false) :
    (Effect.calls (observers.observeAll notices).2).filter HostCall.isSound =
      (beeper.hearAll (notices.filterMap Notice.toneCall?)).2 := by
  induction notices generalizing observers beeper with
  | nil =>
      rfl
  | cons notice rest inductionHypothesis =>
      obtain ⟨now, heard⟩ := sounds_observe listens fun call same =>
        silent call (same ▸ List.mem_cons_self)
      have later := inductionHypothesis heard fun call member =>
        silent call (List.mem_cons_of_mem notice member)
      rw [Observers.observeAll_cons, Effect.calls_append, List.filter_append,
        now, later]
      cases tone : notice.toneCall? <;>
        simp only [List.filterMap_cons, tone, Option.toList, Beeper.hearAll,
          List.append_nil, List.nil_append]

/-! ## Hooks and recorders -/

/-- The pixel change that a notice is. -/
def Notice.pixelChange? : Notice → Option PixelChange
  | .machine (.pixel change) => some change
  | _ => none

theorem Notice.filterMap_toneCall?_machine (events : List Event) :
    (events.map .machine).filterMap Notice.toneCall? = toneCalls events := by
  rw [List.filterMap_map]
  refine congrArg (List.filterMap · events) (funext fun event => ?_)
  cases event <;> rfl

theorem Notice.filterMap_pixelChange?_machine (events : List Event) :
    (events.map .machine).filterMap Notice.pixelChange? =
      pixelChanges events := by
  rw [List.filterMap_map]
  refine congrArg (List.filterMap · events) (funext fun event => ?_)
  cases event <;> rfl

namespace Effect

theorem hooks_append (earlier later : List Effect) :
    hooks (earlier ++ later) = hooks earlier ++ hooks later :=
  List.filterMap_append

theorem tones_append (earlier later : List Effect) :
    tones (earlier ++ later) = tones earlier ++ tones later :=
  List.filterMap_append

theorem hooks_keptLine (observers : Observers) (notice : Notice) :
    hooks (observers.keptLine notice) = [] := by
  unfold Observers.keptLine
  split
  · split <;> rfl
  · rfl

theorem tones_keptLine (observers : Observers) (notice : Notice) :
    tones (observers.keptLine notice) = [] := by
  unfold Observers.keptLine
  split
  · split <;> rfl
  · rfl

theorem hooks_hear (sink : ToneSink) (call : ToneCall) :
    hooks (sink.hear call).2 = [] := by
  cases sink with
  | nobody | recorder => rfl
  | beeper state =>
      simp only [hooks, ToneSink.hear, List.filterMap_map,
        List.filterMap_eq_nil_iff, Function.comp_apply, implies_true]

theorem hooks_observe
    {observers : Observers} (hooked : observers.hasHook = true)
    (notice : Notice) :
    hooks (observers.observe notice).2 = notice.pixelChange?.toList ∧
      (observers.observe notice).1.hasHook = true := by
  cases notice with
  | machine event =>
      cases event with
      | tone call => exact ⟨hooks_hear observers.tone call, hooked⟩
      | pixel change =>
          simp only [Observers.observe, hooked, if_true]
          exact ⟨rfl, trivial⟩
      | _ => exact ⟨hooks_keptLine observers _, hooked⟩
  | host call | complaint text => exact ⟨rfl, hooked⟩
  | _ => exact ⟨hooks_keptLine observers _, hooked⟩

/-- A hook hears every pixel change. -/
theorem hooks_observeAll
    {observers : Observers} (hooked : observers.hasHook = true)
    (notices : List Notice) :
    hooks (observers.observeAll notices).2 =
      notices.filterMap Notice.pixelChange? := by
  induction notices generalizing observers with
  | nil =>
      rfl
  | cons notice rest inductionHypothesis =>
      obtain ⟨now, stillHooked⟩ := hooks_observe hooked notice
      rw [Observers.observeAll_cons, hooks_append, now,
        inductionHypothesis stillHooked]
      cases change : notice.pixelChange? <;>
        simp only [List.filterMap_cons, change, Option.toList,
          List.nil_append, List.singleton_append]

theorem tones_observe
    {observers : Observers} (records : observers.tone = .recorder)
    (notice : Notice) :
    tones (observers.observe notice).2 = notice.toneCall?.toList ∧
      (observers.observe notice).1.tone = .recorder := by
  cases notice with
  | machine event =>
      cases event with
      | tone call =>
          simp only [Observers.observe, records, ToneSink.hear]
          exact ⟨rfl, trivial⟩
      | pixel change =>
          simp only [Observers.observe]
          exact ⟨by split <;> rfl, records⟩
      | _ => exact ⟨tones_keptLine observers _, records⟩
  | host call | complaint text => exact ⟨rfl, records⟩
  | _ => exact ⟨tones_keptLine observers _, records⟩

/-- A recorder hears every call to the tone. -/
theorem tones_observeAll
    {observers : Observers} (records : observers.tone = .recorder)
    (notices : List Notice) :
    tones (observers.observeAll notices).2 =
      notices.filterMap Notice.toneCall? := by
  induction notices generalizing observers with
  | nil =>
      rfl
  | cons notice rest inductionHypothesis =>
      obtain ⟨now, stillRecords⟩ := tones_observe records notice
      rw [Observers.observeAll_cons, tones_append, now,
        inductionHypothesis stillRecords]
      cases call : notice.toneCall? <;>
        simp only [List.filterMap_cons, call, Option.toList,
          List.nil_append, List.singleton_append]

end Effect

end Chip8
