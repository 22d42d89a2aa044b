import GolfProgress.Requirements.Import
import GolfProgress.Text.Terminal

/-!
# Warnings

A warning tells of something that stops no command: a message, and details by
their names.  It is one line for a terminal, unless a detail holds line ends.
-/

set_option autoImplicit false

namespace GolfProgress

/-- Something to be told that stops nothing. -/
structure Warning where
  message : String
  /-- The names and texts of the details. -/
  details : List (String × String) := []
deriving DecidableEq, Repr, Inhabited

namespace Warning

/-- A detail behind what is told before it. -/
def detail (name text : String) : String :=
  " " ++ Terminal.slanted name ++ Terminal.faint "=" ++ text

/-- What is told of a warning. -/
def line (warning : Warning) : String :=
  Terminal.highlighted " WARN" ++ " " ++ warning.message ++
    String.join (warning.details.map fun (name, text) => detail name text)

/-- A record of a sheet is passed over. -/
def passedOver (number : Nat) (fault : RowFault) : Warning :=
  ⟨"skipping requirement row", [("line", toString number), ("reason", fault.message)]⟩

/-- A file of settings is left out of account. -/
def ignoredSettings (path : String) (failure : Failure) : Warning :=
  ⟨"ignoring evidence config file", [("path", path), ("error", failure.message)]⟩

end Warning

end GolfProgress
