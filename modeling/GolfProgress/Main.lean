import GolfProgress.CommandLine.Run
import Std.Time.DateTime.Timestamp

/-!
# The program

Answers one command line on the real file system, variables, clock and streams.
-/

set_option autoImplicit false

namespace GolfProgress

/-- Whether an action came to its end. -/
def succeeds (action : IO Unit) : IO Bool := do
  try
    action
    return true
  catch _ => return false

/-- What can be read of an opened file; a directory opens but cannot be read. -/
def readNode (handle : IO.FS.Handle) : IO FileNode := do
  try
    return .file (← handle.readBinToEnd).data.toList
  catch _ => return .directory

instance : Host IO where
  look? path := do
    try
      return some (← readNode (← IO.FS.Handle.mk path .read))
    catch _ => return none
  makeDirectories path := succeeds (IO.FS.createDirAll path)
  write path content := succeeds (IO.FS.writeBinFile path ⟨content.toArray⟩)
  valueOf? name := IO.getEnv name
  now := do
    let time := (← Std.Time.Timestamp.now).toNanosecondsSinceUnixEpoch.toInt
    return (Instant.ofSeconds? (time / 1000000000) (time % 1000000000).toNat).getD default
  say line := IO.println line
  complain line := IO.eprintln line

end GolfProgress

/-- Answers the command line of the program. -/
def main (arguments : List String) : IO UInt32 := GolfProgress.CommandLine.run arguments
