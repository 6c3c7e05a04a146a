/-!
# Files to read

The command reads at most one file.  Where the bytes come from is left open:
any function from paths to bytes will do.  A `Folder` is such a function held
in memory, with plain files side by side and nothing known about the world
around it.
-/

namespace TagTree.Command

/-- Why a file cannot be read. -/
inductive ReadError where
  /-- There is no such file. -/
  | notFound
  /-- A part of the path that should be a directory is none. -/
  | notDirectory
  /-- The path leads to a directory. -/
  | isDirectory
  /-- The path, or a name in it, is longer than a file system allows. -/
  | nameTooLong
  /-- The file is not a UTF-8 text. -/
  | notText
  /-- The system refuses for a reason of its own. -/
  | refused (reason : String)
deriving DecidableEq

namespace ReadError

/-- The sentence that reports the error. -/
def message : ReadError → String
  | notFound => "No such file or directory (os error 2)"
  | notDirectory => "Not a directory (os error 20)"
  | isDirectory => "Is a directory (os error 21)"
  | nameTooLong => "File name too long (os error 36)"
  | notText => "stream did not contain valid UTF-8"
  | refused reason => reason

end ReadError

/-- The text whose UTF-8 form the bytes are. -/
def decodeText (bytes : ByteArray) : Except ReadError String :=
  match String.fromUTF8? bytes with
  | none => .error .notText
  | some text => .ok text

/-- A folder of plain files. -/
structure Folder where
  /-- The files by name. -/
  files : List (String × ByteArray)

namespace Folder

/-- A place in or around a folder. -/
inductive Location where
  /-- The folder itself. -/
  | inside
  /-- Some directory above the folder. -/
  | above
  /-- A file in the folder. -/
  | file (content : ByteArray)

/-- The largest number of bytes in a name. -/
def maxNameSize : Nat := 255

/-- The largest number of bytes in a path. -/
def maxPathSize : Nat := 4095

/--
The place reached from another one by one component of a path.  That a file
has nothing below it is noticed before the component is looked at, and that
a name is too long before it is looked up.
-/
def step (folder : Folder) : Location → String → Except ReadError Location
  | .file _, _ => .error .notDirectory
  | location, "" => .ok location
  | location, "." => .ok location
  | _, ".." => .ok .above
  | location, name =>
    if name.utf8ByteSize > maxNameSize then
      .error .nameTooLong
    else
      match location, folder.files.lookup name with
      | .inside, some content => .ok (.file content)
      | _, _ => .error .notFound

/-- The place that a path leads to; an absolute path starts above the folder. -/
def locate (folder : Folder) (path : String) : Except ReadError Location :=
  if path.utf8ByteSize > maxPathSize then
    .error .nameTooLong
  else
    (path.splitOn "/").foldlM folder.step (if path.startsWith "/" then .above else .inside)

/-- The bytes of the file that a path leads to. -/
def read (folder : Folder) (path : String) : Except ReadError ByteArray :=
  match folder.locate path with
  | .error error => .error error
  | .ok (.file content) => .ok content
  | .ok _ => .error .isDirectory

end Folder

end TagTree.Command
