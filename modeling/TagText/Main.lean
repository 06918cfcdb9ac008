import TagText.CommandLine.Run

/-!
# The command `tokenise`

Reads the files that the arguments ask for, and writes what the run writes.
-/

namespace TagText

/-- Why a file cannot be read, in the words of the system. -/
def reasonOf : IO.Error → String
  | .noFileOrDirectory .. => "No such file or directory (os error 2)"
  | .permissionDenied .. => "Permission denied (os error 13)"
  | .inappropriateType .. => "Is a directory (os error 21)"
  | e => toString e

/-- The text of the file at a path, or why it cannot be read. -/
def readPath (path : String) : IO (Except String String) := do
  try
    return .ok (← IO.FS.readFile path)
  catch e => return .error (reasonOf e)

/-- The files at these paths. -/
def readPaths (paths : List String) : IO Files := do
  let read ← paths.mapM fun path => do return (path, ← readPath path)
  return fun path => (Named.get? read path).getD (.error "No such file or directory (os error 2)")

end TagText

open TagText in
/-- Runs the command and ends with its code. -/
def main (args : List String) : IO UInt32 := do
  let paths := ((Invocation.ofArguments? args).map Invocation.paths).getD []
  let outcome := CommandLine.run .standard (← readPaths paths) args
  (← IO.getStdout).putStr outcome.stdout
  (← IO.getStderr).putStr outcome.stderr
  return outcome.exit.toUInt32
