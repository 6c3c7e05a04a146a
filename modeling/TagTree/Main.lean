import TagTree.Command.Run

/-!
# The command

Reads the named file, if there is one, and leaves everything else to
`TagTree.Command.run`.
-/

namespace TagTree.Command

/-- Why the system did not hand over a file. -/
def ReadError.ofSystem : IO.Error → ReadError
  | .noFileOrDirectory _ _ _ => .notFound
  | .inappropriateType _ code _ =>
    if code = 21 ∨ code = -21 then .isDirectory else .notDirectory
  | .invalidArgument _ code reason =>
    if code = 36 ∨ code = -36 then .nameTooLong else .refused reason
  | error => .refused (toString error)

/-- The bytes of the file that a path leads to. -/
def readFile (path : String) : IO (Except ReadError ByteArray) := do
  try
    return .ok (← IO.FS.readBinFile path)
  catch error =>
    return .error (.ofSystem error)

/-- What reading files yields for a command line: at most one file is ever read. -/
def filesOf (arguments : List String) : IO (String → Except ReadError ByteArray) := do
  match Invocation.ofArguments arguments with
  | .ok (.run { markup? := none, path? := some path, .. }) =>
    let content ← readFile path
    return fun _ => content
  | _ => return fun _ => .error .notFound

end TagTree.Command

/-- Runs the command and prints what it leaves behind. -/
def main (arguments : List String) : IO UInt32 := do
  let outcome := TagTree.Command.run arguments (← TagTree.Command.filesOf arguments)
  IO.print outcome.output
  IO.eprint outcome.diagnostics
  return UInt32.ofNat outcome.exitCode
