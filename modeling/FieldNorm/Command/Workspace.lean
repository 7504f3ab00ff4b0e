import FieldNorm.FieldMap
import FieldNorm.Text.Cut

/-!
The files that a run can reach, by their paths. A path is looked up component by component, and
the entries are listed under the path that is left when `.` and `..` are resolved.
-/

namespace FieldNorm

/-- Why a file cannot be read or written. -/
inductive FileError
  | notFound
  | notADirectory
  | isDirectory
  | nameTooLong
  | zeroInName
  /-- The bytes are no UTF-8. -/
  | notText
deriving DecidableEq

def FileError.message : FileError → String
  | .notFound => "No such file or directory (os error 2)"
  | .notADirectory => "Not a directory (os error 20)"
  | .isDirectory => "Is a directory (os error 21)"
  | .nameTooLong => "File name too long (os error 36)"
  | .zeroInName => "file name contained an unexpected NUL byte"
  | .notText => "stream did not contain valid UTF-8"

/-- An entry of a directory. -/
inductive Entry
  | file (content : ByteArray)
  | directory

instance : DecidableEq Entry
  | .file a, .file b =>
    decidable_of_iff (a.data = b.data) (by rw [Entry.file.injEq, ByteArray.ext_iff])
  | .directory, .directory => isTrue rfl
  | .file _, .directory => isFalse nofun
  | .directory, .file _ => isFalse nofun

/-- The entries by their paths, whose components are joined by slashes. -/
structure Workspace where
  entries : FieldMap Entry
deriving DecidableEq

namespace Workspace

/-! ### Paths -/

/-- What a path leads to. -/
inductive Target
  | directory
  | file (key : String) (content : ByteArray)
  /-- Nothing yet, but a file can be made there. -/
  | vacant (key : String)

/-- A place among the files: the way to it from the root or from the working directory. -/
structure Spot where
  isAbsolute : Bool
  /-- The components of the way, the last one first; above the working directory they are
  `..`. -/
  components : List String

namespace Spot

/-- The directory around a place. The root is its own. -/
def up (spot : Spot) : Spot :=
  match spot.components with
  | [] => if spot.isAbsolute then spot else { spot with components := [".."] }
  | name :: rest =>
    { spot with components := if name = ".." then ".." :: spot.components else rest }

/-- An entry of the directory at a place. -/
def down (spot : Spot) (name : String) : Spot :=
  { spot with components := name :: spot.components }

/-- The path under which an entry is listed. -/
def key (spot : Spot) : String :=
  (if spot.isAbsolute then "/" else "") ++ "/".intercalate spot.components.reverse

end Spot

/-- The longest name of an entry, in bytes. -/
def maxNameSize : Nat := 255

/-- Follows the components of a path from a directory. Empty components and `.` stay where they
are; `isCreating` is set if a file is to be made, for which the path must not end like a
directory, whether or not its last name could be looked up. -/
def follow (w : Workspace) (isCreating : Bool) (spot : Spot) :
    List String → Except FileError Target
  | [] => .ok .directory
  | name :: rest =>
    if name = "" ∨ name = "." then follow w isCreating spot rest
    else if name = ".." then follow w isCreating spot.up rest
    else if isCreating && !rest.isEmpty && rest.all (· = "") then .error .isDirectory
    else if maxNameSize < name.utf8ByteSize then .error .nameTooLong
    else
      let here := spot.down name
      match w.entries.get? here.key with
      | some .directory => follow w isCreating here rest
      | some (.file content) =>
        if rest.isEmpty then .ok (.file here.key content) else .error .notADirectory
      | none => if rest.isEmpty then .ok (.vacant here.key) else .error .notFound

/-- The longest path, in bytes. -/
def maxPathSize : Nat := 4095

/-- Looks a path up. -/
def locate (w : Workspace) (isCreating : Bool) (path : String) : Except FileError Target :=
  if path.toList.contains '\x00' then .error .zeroInName
  else if maxPathSize < path.utf8ByteSize then .error .nameTooLong
  else
    match path.toList.head? with
    | none => .error .notFound
    | some c => w.follow isCreating ⟨c = '/', []⟩ (Text.pieces '/' path)

/-! ### Reading and writing -/

/-- The bytes of a file. -/
def readBytes (w : Workspace) (path : String) : Except FileError ByteArray :=
  match w.locate false path with
  | .error e => .error e
  | .ok .directory => .error .isDirectory
  | .ok (.vacant _) => .error .notFound
  | .ok (.file _ content) => .ok content

/-- The text of a file. -/
def readText (w : Workspace) (path : String) : Except FileError String :=
  match w.readBytes path with
  | .error e => .error e
  | .ok content =>
    match String.fromUTF8? content with
    | some text => .ok text
    | none => .error .notText

/-- Gives a file the content that `change` makes of the old one; a new file starts empty. -/
def update (w : Workspace) (path : String) (change : ByteArray → ByteArray) :
    Except FileError Workspace :=
  match w.locate true path with
  | .error e => .error e
  | .ok .directory => .error .isDirectory
  | .ok (.vacant key) => .ok ⟨w.entries.insert key (.file (change .empty))⟩
  | .ok (.file key content) => .ok ⟨w.entries.insert key (.file (change content))⟩

/-- Writes a text as the content of a file. -/
def write (w : Workspace) (path text : String) : Except FileError Workspace :=
  w.update path fun _ => text.toUTF8

/-- Appends a text to a file. -/
def append (w : Workspace) (path text : String) : Except FileError Workspace :=
  w.update path fun content => content ++ text.toUTF8

end Workspace

end FieldNorm
