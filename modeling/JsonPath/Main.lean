import JsonPath.CommandLine

/-!
# Running the program

The files are those of the machine, and the input is the standard input.
-/

namespace JsonPath

/-- Whether an action succeeds. -/
def succeeds (action : IO Unit) : BaseIO Bool := do
  match ← action.toBaseIO with
  | .ok () => return true
  | .error _ => return false

/-- What can be read from a path. A directory can be opened, but it has no contents. -/
def readPath (path : String) : BaseIO Disk.Content := do
  match ← (IO.FS.Handle.mk path .read).toBaseIO with
  | .error _ => return .absent
  | .ok handle => match ← handle.readBinToEnd.toBaseIO with
    | .ok data => return .octets data
    | .error _ => return .directory

instance : Disk BaseIO where
  read := readPath
  createDirectories path := succeeds (IO.FS.createDirAll path)
  createFile path data := succeeds (IO.FS.writeBinFile path data)
  workingDirectory := do
    match ← IO.currentDir.toBaseIO with
    | .ok path => return path.toString
    | .error _ => return "."

/-- Reads a stream to its end. -/
partial def readToEnd (stream : IO.FS.Stream) (data : ByteArray) : BaseIO ByteArray := do
  match ← (stream.read 65536).toBaseIO with
  | .ok more => if more.isEmpty then return data else readToEnd stream (data ++ more)
  | .error _ => return data

end JsonPath

open JsonPath in
/-- Runs the program. -/
def main (arguments : List String) : IO UInt32 := do
  let input : BaseIO ByteArray := do readToEnd (← IO.getStdin) .empty
  let outcome ← (CommandLine.run input arguments : BaseIO CommandLine.Outcome)
  (← IO.getStdout).write outcome.output
  if let some message := outcome.error then IO.eprintln ("Error: " ++ message)
  return outcome.code.toUInt32
