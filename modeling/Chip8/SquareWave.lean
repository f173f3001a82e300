import Chip8.Grid
import Chip8.Tone

/-!
# The beep

One second of a square wave.  A frame is high if the phase of its tone lies in
an odd unit interval, and low otherwise; a phase that is not finite leaves the
wave low.

A wave may have many tones, in a grid.  Each innermost list is a second of its
own, with a tone for every frame.  A list of one tone holds it for all frames,
and at a rate of one frame the list may have any length and every frame is frame
zero.  Every channel carries the same wave.

The samples are a grid, too.  Several channels are its second dimension, and the
tracks of a wave are its parts along the second dimension, or the whole of it if
there is only one dimension.
-/

namespace Chip8

/-- One second of a square wave: frames in a second, channels, and the tones in
cycles per second. -/
structure SquareWave where
  rate : Int
  channels : Int
  tones : Grid Number
  deriving DecidableEq, Repr

/-- Why there is no wave. -/
inductive WaveError where
  | noGrid (reason : GridError)
  | text (width : Nat)
  | mismatch (frames : Nat) (tones : List Nat)
  | unsuitable (kind : String)
  | textBesideNumbers
  | tooHigh
  | tooManyDimensions
  deriving DecidableEq, Repr

namespace WaveError

/-- The text that reports an operation on values of two kinds. -/
def operandText (operation left right : String) : String :=
  s!"unsupported operand type(s) for {operation}: " ++ Text.quoted left ++
    " and " ++ Text.quoted right

/-- The text that reports the error. -/
def message : WaveError → String
  | .noGrid reason => reason.message
  | .text width =>
      "ufunc " ++ Text.quoted "multiply" ++ " did not contain a loop with " ++
        "signature matching types (dtype(" ++ Text.quoted "int64" ++
        "), dtype(" ++ Text.quoted s!"<U{width}" ++ ")) -> None"
  | .mismatch frames tones =>
      "operands could not be broadcast together with shapes " ++
        GridError.shapeText "," [frames] ++ " " ++
        GridError.shapeText "," tones ++ " "
  | .unsuitable kind => operandText "*" "int" kind
  | .textBesideNumbers => operandText "/" "str" "int"
  | .tooHigh => "integer division result too large for a float"
  | .tooManyDimensions =>
      s!"number of dimensions must be within [0, {Grid.dimensionLimit}], " ++
        s!"indexing result would have {Grid.dimensionLimit + 1}"

end WaveError

namespace SquareWave

/-- The sample of a high frame. -/
def high : Int := 32767

/-! ## Dimensions -/

/-- The number of frames of each list of tones. -/
def frames (wave : SquareWave) : Nat :=
  if wave.tones.width = 1 then wave.rate.toNat else wave.tones.width

/-- The dimensions of the samples of one channel. -/
def channelShape (wave : SquareWave) : List Nat :=
  wave.tones.shape.dropLast ++ [wave.frames]

/-- The dimensions of the samples. -/
def shape (wave : SquareWave) : List Nat :=
  match wave.channelShape with
  | [] => []
  | first :: rest =>
      if wave.channels > 1 then first :: wave.channels.toNat :: rest
      else first :: rest

/-- The dimensions of what a track holds at a time. -/
def blockShape (wave : SquareWave) : List Nat :=
  wave.shape.drop 2

/-! ## Samples -/

/-- The times of some tones at a rate, each beside its tone. -/
def moments {α : Type} (rate : Nat) (tones : List α) : List (Nat × α) :=
  match tones with
  | [tone] => (List.range rate).map fun time => (time, tone)
  | tones =>
      if rate = 1 then tones.map fun tone => (0, tone)
      else (List.range rate).zip tones

/-- The kind that the tones have in common. -/
def kind (wave : SquareWave) : ToneKind :=
  .common (wave.tones.cells.map ToneKind.ofNumber)

/-- Whether a frame of a phase is high. -/
def isHigh (phase : Binary64) : Bool :=
  match phase.floor? with
  | some whole => whole % 2 = 1
  | none => false

/-- The sample of a frame of a phase. -/
def sample (phase : Binary64) : Int :=
  if isHigh phase then high else -high

/-- The samples of one channel, in order. -/
def samples (wave : SquareWave) : List Int :=
  let kind := wave.kind
  let rate := wave.rate.toNat
  (wave.tones.rows.flatMap (moments rate)).map fun (time, tone) =>
    sample (tone.phase kind rate time)

/-! ## Tracks -/

/-- Rows of one length turned into columns. -/
def columns {α : Type} (length : Nat) (rows : List (List α)) :
    List (List α) :=
  rows.foldr (List.zipWith List.cons) (List.replicate length [])

/-- The tracks of a wave, each with what it holds at each time. -/
def tracks (wave : SquareWave) : List (List (List Int)) :=
  match wave.channelShape with
  | [] => []
  | first :: rest =>
      let slices := groups (cellCount rest) first wave.samples
      if wave.channels > 1 then List.replicate wave.channels.toNat slices
      else
        match rest with
        | [] => [slices]
        | second :: deeper =>
            columns second (slices.map (groups (cellCount deeper) second))

/-- Add an item to runs of equal items, the latest run first. -/
def addToRuns {α : Type} [DecidableEq α] (runs : List (α × Nat)) (item : α) :
    List (α × Nat) :=
  match runs with
  | (value, count) :: rest =>
      if value = item then (value, count + 1) :: rest
      else (item, 1) :: (value, count) :: rest
  | [] => [(item, 1)]

/-- A list as runs of equal items. -/
def runs {α : Type} [DecidableEq α] (items : List α) : List (α × Nat) :=
  (items.foldl addToRuns []).reverse

/-! ## Building a wave -/

/-- Whether so many tones can be spread over so many frames. -/
def fits (frames tones : Nat) : Bool :=
  tones = 1 || frames = 1 || frames = tones

/-- Why a value gives no phase at a time beside tones of a kind, if it gives
none. -/
def failureAt? (kind : ToneKind) (rate time : Nat) :
    Datum → Option WaveError
  | .string _ => some .textBesideNumbers
  | .integer tone =>
      if ((Number.integer tone).phase kind rate time).isFinite then none
      else some .tooHigh
  | _ => none

/-- Whether a value is neither a number nor a text. -/
def isUnsuitable : Datum → Bool
  | .string _ => false
  | value => value.number?.isNone

/-- Why the cells of a grid give no samples at a rate, if they give none.
Values that are neither numbers nor texts come first, and without frames nothing
does harm. -/
def failure? (kind : ToneKind) (rate : Nat) (cells : Grid Datum) :
    Option WaveError :=
  if kind ≠ .mixed ∨ rate = 0 then none
  else
    match cells.cells.find? isUnsuitable with
    | some value => some (.unsuitable value.kind)
    | none =>
        (cells.rows.flatMap (moments rate)).findSome? fun (time, value) =>
          failureAt? kind rate time value

/-- The number that a value stands for in a wave that has been found faultless:
any number will do for a value that no frame needs. -/
def toneOf (value : Datum) : Number :=
  value.number?.getD (.integer 0)

/-- The wave of a rate, some channels and a grid of tones. -/
def ofGrid (rate channels : Int) (cells : Grid Datum) :
    Except WaveError SquareWave :=
  match ToneKind.common (cells.cells.map ToneKind.ofDatum) with
  | .text width => .error (.text width)
  | kind =>
      if !fits rate.toNat cells.width then
        .error (.mismatch rate.toNat cells.shape)
      else
        match failure? kind rate.toNat cells with
        | some reason => .error reason
        | none =>
            if channels > 1 ∧ cells.shape.length = Grid.dimensionLimit then
              .error .tooManyDimensions
            else
              .ok ⟨rate, channels, cells.map toneOf⟩

/-- The wave of a rate, some channels and a tone, or many tones in a list. -/
def build (rate channels : Int) (tone : Datum) : Except WaveError SquareWave :=
  match Grid.ofDatum tone with
  | .ok cells => ofGrid rate channels cells
  | .error reason => .error (.noGrid reason)

end SquareWave

end Chip8
