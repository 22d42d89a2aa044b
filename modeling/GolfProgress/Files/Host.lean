import GolfProgress.Calendar.Instant
import GolfProgress.Files.Tree

/-!
# What a command asks of its surroundings

Commands read and write files, look at variables and the clock, and print lines.
`Host` lists these requests, so that a command runs in any monad that answers
them; `MemoryHost` answers them from a value.
-/

set_option autoImplicit false

namespace GolfProgress

/-- The requests of a command. -/
class Host (m : Type → Type) where
  /-- What a path leads to, when it can be opened. -/
  look? : String → m (Option FileNode)
  /-- Makes the directory that a path names and those around it; whether it is there now. -/
  makeDirectories : String → m Bool
  /-- Writes a file; whether it could be written. -/
  write : String → List UInt8 → m Bool
  /-- The value of a variable. -/
  valueOf? : String → m (Option String)
  /-- The time. -/
  now : m Instant
  /-- Prints a line. -/
  say : String → m Unit
  /-- Prints a line of complaint. -/
  complain : String → m Unit

/-- Surroundings in memory. -/
structure MemoryHost where
  files : FileTree := {}
  /-- The variables, by name. -/
  values : List (String × String) := []
  clock : Instant
  /-- The printed lines, latest first. -/
  said : List String := []
  /-- The printed lines of complaint, latest first. -/
  complaints : List String := []

namespace MemoryHost

/-- The surroundings after directories have been made. -/
def makeDirectories (host : MemoryHost) (path : String) : Bool × MemoryHost :=
  let (made, files) := host.files.makeDirectories path
  (made, { host with files })

/-- The surroundings after an attempt to write a file. -/
def write (host : MemoryHost) (path : String) (content : List UInt8) : Bool × MemoryHost :=
  match host.files.write? path content with
  | some files => (true, { host with files })
  | none => (false, host)

instance : Host (StateM MemoryHost) where
  look? path := fun host => (host.files.look? path, host)
  makeDirectories path := fun host => host.makeDirectories path
  write path content := fun host => host.write path content
  valueOf? name := fun host => (host.values.lookup name, host)
  now := fun host => (host.clock, host)
  say line := fun host => ((), { host with said := line :: host.said })
  complain line := fun host => ((), { host with complaints := line :: host.complaints })

end MemoryHost

end GolfProgress
