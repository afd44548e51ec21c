import ModuleScript.CommandLine.Run

/-!
# The command line

The files that a command names are read, the command is carried out on what they hold, and its
output and log are written.
-/

namespace ModuleScript.CommandLine

/-- The system's error number of a directory where a file is needed. -/
def directoryCode : UInt32 := 21

/-- The system's error number of a name that is too long. -/
def longNameCode : UInt32 := 36

/-- What the file system holds at a path. -/
def contentAt (path : String) : IO PathContent := do
  try
    return .file (← IO.FS.readBinFile path).toList
  catch
    | .noFileOrDirectory _ _ _ => return .missing
    | .inappropriateType _ code _ =>
      return if code == directoryCode then .directory else .notDirectory
    | .invalidArgument file code detail =>
      if code == longNameCode then return .nameTooLong
      else throw (.invalidArgument file code detail)
    | e => throw e

/-- The bytes of a stream up to its end, after those found before. -/
partial def drain (stream : IO.FS.Stream) (found : ByteArray) : IO ByteArray := do
  let more ← stream.read 65536
  if more.isEmpty then return found else drain stream (found ++ more)

/-- Read what a command may need. -/
def gather (command : Command) : IO Inputs := do
  let found ← (command.paths.filter (!·.isEmpty)).mapM fun path ↦ do
    return (path, ← contentAt path)
  let standardInput ← if command.readsInput then drain (← IO.getStdin) .empty else pure .empty
  return {
    path := fun path ↦ (found.lookup path).getD .missing
    standardInput := standardInput.toList }

/-- Carry out a command with the files that it names. -/
def carryOut (i : Invocation) : IO UInt32 := do
  match i.run (← gather i.command) with
  | .ok outcome =>
    IO.eprint (i.logText outcome)
    IO.print outcome.output
    return outcome.exitCode.toUInt32
  | .error failure =>
    IO.eprintln failure.message
    return 1

/-- Read the arguments and carry out the command. -/
def start (args : List String) : IO UInt32 :=
  match parse args with
  | .ok invocation => carryOut invocation
  | .error stop => return stop.exitCode.toUInt32

end ModuleScript.CommandLine

/-- The entry of the program. -/
def main (args : List String) : IO UInt32 := ModuleScript.CommandLine.start args
