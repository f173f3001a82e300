import Chip8.Text.Quoted

/-!
# Reading files

A file system answers a path with the bytes of a file or with the reason why
there are none.

* A path stands for bytes.  Characters stand for their UTF-8 encodings, and some
  halves of surrogate pairs for single bytes that belong to no character.
* `ofFolder` is the file system of a flat folder of named files, seen from
  inside that folder.
* `normalizedPath` is a path without the parts that lead nowhere.
-/

namespace Chip8

/-- Why a path leads to no bytes. -/
inductive FileProblem where
  | missing
  | isDirectory
  | notADirectory
  | nameTooLong
  | nullCharacter
  | strayHalf
  | unreadable
  deriving DecidableEq, Repr

/-- A path that could not be read, and why. -/
structure FileError where
  path : Text
  problem : FileProblem
  deriving DecidableEq, Repr

/-! ## Paths as bytes -/

/-- The bytes that a symbol of a path stands for.  The halves from `DC80` to
`DCFF` stand for the bytes from `80` on, and the other halves for nothing. -/
def Symbol.pathBytes? : Symbol → Option (List UInt8)
  | .character value => some (String.utf8EncodeChar value)
  | .half offset =>
      if 0x480 ≤ offset.val ∧ offset.val < 0x500 then
        some [UInt8.ofNat (offset.val - 0x400)]
      else
        none

namespace Text

/-- The bytes that a path stands for. -/
def pathBytes? (path : Text) : Option (List UInt8) :=
  (path.symbols.mapM Symbol.pathBytes?).map List.flatten

/-- The first symbol that stands for no bytes, with the halves in a row that it
starts, and its position. -/
def strayHalves? (position : Nat) : List Symbol → Option (Nat × List Symbol)
  | [] => none
  | symbol :: rest =>
      if symbol.pathBytes?.isSome then
        strayHalves? (position + 1) rest
      else
        some (position, symbol :: rest.takeWhile Symbol.isHalf)

end Text

namespace FileError

/-- The text that reports halves that stand for no bytes. -/
def strayMessage (path : Text) : String :=
  let found := match Text.strayHalves? 0 path.symbols with
    | some (position, [half]) =>
        s!"character {Text.quoted ⟨[half]⟩} in position {position}"
    | some (position, halves) =>
        s!"characters in position {position}-{position + halves.length - 1}"
    | none => "nothing"
  Text.quoted "utf-8" ++ " codec can't encode " ++ found ++
    ": surrogates not allowed"

/-- The text that reports the error. -/
def message (error : FileError) : String :=
  let numbered := fun (number : Nat) (text : String) =>
    s!"[Errno {number}] {text}: " ++ Text.quoted error.path
  match error.problem with
  | .missing => numbered 2 "No such file or directory"
  | .unreadable => numbered 13 "Permission denied"
  | .notADirectory => numbered 20 "Not a directory"
  | .isDirectory => numbered 21 "Is a directory"
  | .nameTooLong => numbered 36 "File name too long"
  | .nullCharacter => "embedded null byte"
  | .strayHalf => strayMessage error.path

end FileError

/-! ## File systems -/

/-- What every path leads to. -/
abbrev FileSystem := Text → Except FileProblem (List UInt8)

namespace FileSystem

/-- The bytes of the file at a path. -/
def read (files : FileSystem) (path : Text) : Except FileError (List UInt8) :=
  match files path with
  | .ok bytes => .ok bytes
  | .error problem => .error ⟨path, problem⟩

/-- The greatest number of bytes of one name in a path. -/
def nameLimit : Nat := 255

/-- The least number of bytes that are too many for a path. -/
def pathLimit : Nat := 4096

/-- The byte between the parts of a path. -/
def slash : UInt8 := 0x2F

/-- The part of a path that stays in a folder. -/
def here : List UInt8 := [0x2E]

/-- The part of a path that leaves a folder. -/
def above : List UInt8 := [0x2E, 0x2E]

/-- Follow the parts of a path from inside a flat folder.  Around the folder
there are only folders without files. -/
def follow (files : List (List UInt8 × List UInt8)) :
    List (List UInt8) → Except FileProblem (List UInt8)
  | [] => .error .isDirectory
  | part :: rest =>
      if part = [] ∨ part = here then
        follow files rest
      else if part = above then
        follow [] rest
      else if part.length > nameLimit then
        .error .nameTooLong
      else
        match files.lookup part with
        | some bytes => if rest = [] then .ok bytes else .error .notADirectory
        | none => .error .missing

/-- Follow a path, given by its bytes, from inside a flat folder. -/
def followBytes (files : List (List UInt8 × List UInt8)) (path : List UInt8) :
    Except FileProblem (List UInt8) :=
  if 0 ∈ path then .error .nullCharacter
  else if path = [] then .error .missing
  else if path.length ≥ pathLimit then .error .nameTooLong
  else if path.head? = some slash then follow [] (path.splitOn slash)
  else follow files (path.splitOn slash)

/-- A flat folder of named files. -/
def ofFolder (files : List (Text × List UInt8)) : FileSystem :=
  let named := files.filterMap fun (name, bytes) =>
    name.pathBytes?.map fun name => (name, bytes)
  fun path =>
    match path.pathBytes? with
    | some bytes => followBytes named bytes
    | none => .error .strayHalf

end FileSystem

/-- A path without empty parts and single dots.  One or exactly two leading
slashes stay; the empty path becomes a dot. -/
def normalizedPath (path : Text) : Text :=
  let slash := Symbol.character '/'
  let leading := (path.symbols.takeWhile (· = slash)).length
  let root : Text :=
    if leading = 2 then "//" else if leading = 0 then "" else "/"
  let parts := (path.symbols.splitOn slash).filter fun part =>
    part ≠ [] ∧ part ≠ [.character '.']
  let result := root ++ Text.joined "/" (parts.map Text.mk)
  if result.isEmpty then "." else result

end Chip8
