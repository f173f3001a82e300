import Chip8.Observers
import Chip8.Window

/-!
# Images

What calls to the host leave on the surface of a window.

* `Image.draw` colours the points that one call covers, and `Image.replay` makes
  calls in order;
* `replay_squares` says that squares light the points they cover and no others;
* `replay_paintCalls` says that the calls of a painting light exactly the
  squares of the lit pixels, whatever the surface showed before;
* `Image.follow` makes the calls among some notices, and whoever listens to
  them, the host is left with that image (`replay_observeAll`).
-/

namespace Chip8

/-- The colours of the points of a surface, by column and row. -/
def Image := Nat → Nat → Colour

namespace Image

/-- The image with one colour throughout. -/
def plain (colour : Colour) : Image := fun _ _ => colour

/-- The image after a call to the host. -/
def draw (image : Image) : HostCall → Image
  | .fill colour => plain colour
  | .rectangle colour x y width height => fun u v =>
      if (x ≤ u ∧ u < x + width) ∧ y ≤ v ∧ v < y + height then colour
      else image u v
  | _ => image

theorem draw_rectangle
    (image : Image) (colour : Colour) (x y width height u v : Nat) :
    image.draw (.rectangle colour x y width height) u v =
      if (x ≤ u ∧ u < x + width) ∧ y ≤ v ∧ v < y + height then colour
      else image u v := rfl

/-- The image after some calls to the host, in order. -/
def replay (image : Image) (calls : List HostCall) : Image :=
  calls.foldl draw image

@[simp]
theorem replay_nil (image : Image) :
    image.replay [] = image := rfl

@[simp]
theorem replay_cons (image : Image) (call : HostCall) (rest : List HostCall) :
    image.replay (call :: rest) = (image.draw call).replay rest := rfl

theorem replay_append (image : Image) (earlier later : List HostCall) :
    image.replay (earlier ++ later) = (image.replay earlier).replay later :=
  List.foldl_append

end Image

/-! ## Squares -/

/-- The call that lights the square of the pixel at `x` and `y`. -/
def HostCall.square (scale x y : Nat) : HostCall :=
  .rectangle .on (x * scale) (y * scale) scale scale

/-- A point lies in the stretch of the pixel that its quotient names. -/
theorem mem_stretch_iff {scale : Nat} (positive : 0 < scale) (x u : Nat) :
    x * scale ≤ u ∧ u < x * scale + scale ↔ x = u / scale := by
  rw [← Nat.succ_mul, ← Nat.le_div_iff_mul_le positive,
    ← Nat.div_lt_iff_lt_mul positive]
  omega

theorem HostCall.square_inj
    {scale x y column row : Nat} (positive : 0 < scale) :
    square scale x y = square scale column row ↔ x = column ∧ y = row := by
  simp [square, Nat.mul_left_inj (Nat.ne_of_gt positive)]

theorem Image.draw_square
    {scale : Nat} (positive : 0 < scale) (image : Image) (x y u v : Nat) :
    image.draw (.square scale x y) u v =
      if x = u / scale ∧ y = v / scale then .on else image u v := by
  rw [HostCall.square, draw_rectangle]
  simp only [mem_stretch_iff positive]

/-- Squares light the points that they cover and no others. -/
theorem Image.replay_squares
    {scale : Nat} (positive : 0 < scale) (image : Image)
    {calls : List HostCall}
    (squares : ∀ call ∈ calls, ∃ x y, call = .square scale x y) (u v : Nat) :
    image.replay calls u v =
      if .square scale (u / scale) (v / scale) ∈ calls then .on
      else image u v := by
  -- Squares only light points, so the order in which they cover one is no matter.
  induction calls generalizing image with
  | nil =>
      simp
  | cons call rest inductionHypothesis =>
      rw [List.forall_mem_cons] at squares
      obtain ⟨⟨x, y, rfl⟩, others⟩ := squares
      rw [replay_cons, inductionHypothesis _ others, draw_square positive]
      simp only [List.mem_cons, HostCall.square_inj positive]
      by_cases here : x = u / scale ∧ y = v / scale
      · simp [here]
      · have elsewhere : ¬ (u / scale = x ∧ v / scale = y) :=
          fun same => here ⟨same.1.symm, same.2.symm⟩
        simp [here, elsewhere]

/-! ## Painting -/

/-- The colour of a pixel in the window. -/
def Screen.colour (screen : Screen) (x y : Nat) : Colour :=
  if screen.isLit x y then .on else .off

/-- Inside the picture, coordinates need not be wrapped around. -/
theorem Screen.isLit_of_lt
    {screen : Screen} {x y : Nat}
    (column : x < screen.width) (row : y < screen.height) :
    screen.isLit x y = screen.pixels.getD (place screen.width x y) false := by
  have wrapped : screen.wrap x y = (x, y) := by
    simp only [wrap, ← Int.natCast_emod, Int.toNat_natCast,
      Nat.mod_eq_of_lt column, Nat.mod_eq_of_lt row]
  simp only [isLit, wrapped]

theorem Screen.getElem?_rows_eq_some_iff
    (screen : Screen) {y : Nat} {row : List Bool} :
    screen.rows[y]? = some row ↔ y < screen.height ∧ screen.row y = row := by
  simp only [rows, List.getElem?_eq_some_iff, List.length_map,
    List.length_range, List.getElem_map, List.getElem_range, exists_prop]

theorem Screen.getElem?_row_eq_some_iff
    (screen : Screen) {x y : Nat} {lit : Bool} :
    (screen.row y)[x]? = some lit ↔
      x < screen.width ∧
        screen.pixels.getD (place screen.width x y) false = lit := by
  simp only [row, List.getElem?_eq_some_iff, List.length_map,
    List.length_range, List.getElem_map, List.getElem_range, exists_prop]

namespace Window

theorem mem_squares {scale y : Nat} {row : List Bool} {call : HostCall} :
    call ∈ squares scale y row ↔
      ∃ x, row[x]? = some true ∧ call = .square scale x y := by
  simp only [squares, List.mem_filterMap, Prod.exists,
    List.mem_zipIdx_iff_getElem?, HostCall.square]
  constructor
  · rintro ⟨lit, x, found, drawn⟩
    cases lit with
    | false =>
        simp at drawn
    | true =>
        exact ⟨x, found, by simpa using drawn.symm⟩
  · rintro ⟨x, found, rfl⟩
    exact ⟨true, x, found, by simp⟩

/-- The squares that a painting makes are those of the lit pixels. -/
theorem mem_squares_rows {screen : Screen} {scale : Nat} {call : HostCall} :
    call ∈ screen.rows.zipIdx.flatMap
        (fun (row, y) => squares scale y row) ↔
      ∃ x y : Nat, x < screen.width ∧ y < screen.height ∧
        screen.isLit x y = true ∧ call = .square scale x y := by
  simp only [List.mem_flatMap, Prod.exists, List.mem_zipIdx_iff_getElem?,
    mem_squares]
  constructor
  · rintro ⟨row, y, foundRow, x, found, rfl⟩
    obtain ⟨below, rfl⟩ := screen.getElem?_rows_eq_some_iff.mp foundRow
    obtain ⟨beside, lit⟩ := screen.getElem?_row_eq_some_iff.mp found
    exact ⟨x, y, beside, below, by rw [Screen.isLit_of_lt beside below, lit],
      rfl⟩
  · rintro ⟨x, y, beside, below, lit, rfl⟩
    rw [Screen.isLit_of_lt beside below] at lit
    exact ⟨screen.row y, y, screen.getElem?_rows_eq_some_iff.mpr ⟨below, rfl⟩,
      x, screen.getElem?_row_eq_some_iff.mpr ⟨beside, lit⟩, rfl⟩

/-- A painting locks the surface, fills it, makes squares, and unlocks and shows
it again, if it does anything. -/
theorem host_of_mem_paint
    {window : Window} {notice : Notice}
    (member : notice ∈ window.paint.notices) :
    ∃ call, notice = .host call ∧
      (call = .lock ∨ call = .fill .off ∨
        (∃ x y, call = .square window.settings.scale x y) ∨
        call = .unlock ∨ call = .flip) := by
  unfold paint at member
  split at member
  · obtain ⟨call, listed, same⟩ := List.mem_map.mp member
    refine ⟨call, same.symm, ?_⟩
    simp only [paintCalls, List.mem_append, List.mem_cons, List.not_mem_nil,
      or_false] at listed
    rcases listed with ((locks | fills) | drawn) | ends
    · exact .inl locks
    · exact .inr (.inl fills)
    · obtain ⟨x, y, -, -, -, square⟩ := mem_squares_rows.mp drawn
      exact .inr (.inr (.inl ⟨x, y, square⟩))
    · exact .inr (.inr (.inr ends))
  · exact absurd member List.not_mem_nil

/-- A painting shows the picture, whatever the surface showed before. -/
theorem replay_paintCalls
    {window : Window} (positive : 0 < window.settings.scale)
    (image : Image) {u v : Nat}
    (column : u / window.settings.scale < window.machine.screen.width)
    (row : v / window.settings.scale < window.machine.screen.height) :
    image.replay window.paintCalls u v =
      window.machine.screen.colour (u / window.settings.scale)
        (v / window.settings.scale) := by
  let drawn := window.machine.screen.rows.zipIdx.flatMap
    fun (row, y) => squares window.settings.scale y row
  have squares : ∀ call ∈ drawn,
      ∃ x y, call = .square window.settings.scale x y := by
    intro call member
    obtain ⟨x, y, -, -, -, same⟩ := mem_squares_rows.mp member
    exact ⟨x, y, same⟩
  have painted :
      image.replay window.paintCalls u v =
        (Image.plain .off).replay drawn u v := by
    simp only [paintCalls, Image.replay_append]
    rfl
  have drawn_iff :
      HostCall.square window.settings.scale (u / window.settings.scale)
          (v / window.settings.scale) ∈ drawn ↔
        window.machine.screen.isLit (u / window.settings.scale : Nat)
          (v / window.settings.scale : Nat) = true := by
    refine mem_squares_rows.trans ⟨?_, ?_⟩
    · rintro ⟨x, y, -, -, lit, same⟩
      obtain ⟨rfl, rfl⟩ := (HostCall.square_inj positive).mp same
      exact lit
    · intro lit
      exact ⟨_, _, column, row, lit, rfl⟩
  rw [painted, Image.replay_squares positive _ squares, Screen.colour]
  simp only [drawn_iff]
  rfl

end Window

/-! ## Notices -/

/-- The call to the host that a notice is. -/
def Notice.hostCall? : Notice → Option HostCall
  | .host call => some call
  | _ => none

/-- The image after the calls among some notices. -/
def Image.follow (image : Image) (notices : List Notice) : Image :=
  image.replay (notices.filterMap Notice.hostCall?)

namespace Image

theorem follow_append (image : Image) (earlier later : List Notice) :
    image.follow (earlier ++ later) = (image.follow earlier).follow later := by
  simp only [follow, List.filterMap_append, replay_append]

theorem follow_host (image : Image) (calls : List HostCall) :
    image.follow (calls.map .host) = image.replay calls := by
  have unpacked :
      (Notice.hostCall? ∘ Notice.host) = (some : HostCall → Option HostCall) :=
    rfl
  rw [follow, List.filterMap_map, unpacked, List.filterMap_some]

theorem follow_of_silent
    (image : Image) {notices : List Notice}
    (silent : ∀ call, .host call ∉ notices) :
    image.follow notices = image := by
  have none : ∀ notice ∈ notices, notice.hostCall? = none := by
    intro notice member
    cases notice with
    | host call => exact absurd member (silent call)
    | _ => rfl
  rw [follow, List.filterMap_eq_nil_iff.mpr none, replay_nil]

/-- Sounds leave no trace in the image. -/
theorem replay_hear (image : Image) (sink : ToneSink) (call : ToneCall) :
    image.replay (Effect.calls (sink.hear call).2) = image := by
  cases sink with
  | nobody | recorder => rfl
  | beeper state =>
      cases call <;>
        simp only [ToneSink.hear, Beeper.hear] <;>
        split <;> rfl

theorem replay_observe
    (image : Image) (observers : Observers) (notice : Notice) :
    image.replay (Effect.calls (observers.observe notice).2) =
      image.follow [notice] := by
  rw [Effect.calls_observe]
  split
  · exact image.replay_hear observers.tone _
  · rfl
  · next noTone noHost =>
      cases notice with
      | host call => exact absurd rfl (noHost call)
      | _ => rfl

/-- Whoever listens, the calls that the host receives leave the same image. -/
theorem replay_observeAll
    (image : Image) (observers : Observers) (notices : List Notice) :
    image.replay (Effect.calls (observers.observeAll notices).2) =
      image.follow notices := by
  induction notices generalizing image observers with
  | nil =>
      rfl
  | cons notice rest inductionHypothesis =>
      rw [Observers.observeAll_cons, Effect.calls_append, replay_append,
        replay_observe, inductionHypothesis, ← follow_append,
        List.singleton_append]

end Image

end Chip8
