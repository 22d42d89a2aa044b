import GolfProgress.CommandLine.Help
import GolfProgress.CommandLine.Value
import GolfProgress.Text.Terminal

/-!
# Faults in the use of a command line

A command line that cannot be understood is answered with its first fault.
Options are named in faults with what stands for their value.

A report is made for a terminal, where what the user wrote stands out in another
colour, and then freed of every control sequence, unless colours are asked for.
A sequence that the user began thus ends with the word that holds it; only the
reason of a refusal does not stand out, so that a sequence left open there goes on
into what follows.
-/

set_option autoImplicit false

namespace GolfProgress

/-- An option as faults name it. -/
structure OptionLabel where
  name : String
  /-- What stands for the value; none when the option takes none. -/
  placeholder : Option String := none
deriving DecidableEq, Repr, Inhabited

def OptionLabel.text (label : OptionLabel) : String :=
  "--" ++ label.name ++
    match label.placeholder with
    | none => ""
    | some placeholder => " <" ++ placeholder ++ ">"

def OptionLabel.entry (label : OptionLabel) (text : String) : HelpEntry :=
  ⟨"    " ++ label.text, text⟩

namespace HelpEntry

/-- The entry of the option that makes a command say more. -/
def verbose : HelpEntry :=
  ⟨"-v, --verbose...", "Increase log verbosity (-v info, -vv debug, -vvv trace)"⟩

/-- The entry of the option that asks for help. -/
def help : HelpEntry := ⟨"-h, --help", "Print help"⟩

/-- The entry of the option that asks for the version. -/
def version : HelpEntry := ⟨"-V, --version", "Print version"⟩

end HelpEntry

/-- What is wrong with a command line. -/
inductive UsageFault where
  /-- No command, but an option. -/
  | missingCommand
  /-- A word that is no command where one should stand. -/
  | unknownCommand (word : String)
  /-- A word that has no place. -/
  | unexpected (word : String)
  /-- An option without its value. -/
  | valueMissing (option : OptionLabel)
  /-- An option with a value that it refuses. -/
  | valueRefused (option : OptionLabel) (value : String) (fault : ValueFault)
  /-- A value for an option that takes none. -/
  | valueSpare (option : String) (value : String)
  /-- An option given a second time. -/
  | repeated (option : OptionLabel)
  /-- Options that have to be given. -/
  | missing (options : List OptionLabel)
deriving DecidableEq, Inhabited

namespace UsageFault

/-- A word between quotation marks that stands out. -/
def quoted (text : String) : String := "'" ++ Terminal.highlighted text ++ "'"

/-- The text of an option between quotation marks. -/
def named (text : String) : String := "'" ++ Terminal.heavy text ++ "'"

/-- The message of a fault for a terminal. -/
def message : UsageFault → String
  | .missingCommand =>
    quoted programName ++ " requires a subcommand but one was not provided"
  | .unknownCommand word => "unrecognized subcommand " ++ quoted word
  | .unexpected word => "unexpected argument " ++ quoted word ++ " found"
  | .valueMissing option =>
    "a value is required for " ++ quoted option.text ++ " but none was supplied"
  | .valueRefused option value fault =>
    "invalid value " ++ quoted value ++ " for " ++ named option.text ++ ": " ++ fault.message
  | .valueSpare option value =>
    "unexpected value " ++ quoted value ++ " for " ++ named option ++
      " found; no more were expected"
  | .repeated option =>
    "the argument " ++ quoted option.text ++ " cannot be used multiple times"
  | .missing _ => "the following required arguments were not provided:"

/-- The lines that list what a fault speaks of, each behind a line end. -/
def details : UsageFault → String
  | .missing options =>
    String.join (options.map fun option => "\n  " ++ Terminal.approved option.text)
  | _ => ""

/-- What is reported of a fault on a terminal. -/
def styledReport (fault : UsageFault) : String :=
  Terminal.alarming "error:" ++ " " ++ fault.message ++ fault.details ++
    "\n\nFor more information, try " ++ named "--help" ++ "."

/-- What is reported of a fault, in colour or not. -/
def report (coloured : Bool) (fault : UsageFault) : String :=
  if coloured then fault.styledReport else Terminal.shown fault.styledReport

/-- The fault of an option whose value is refused; a value that is absent is missing. -/
def ofValue (option : OptionLabel) (value : String) : ValueFault → UsageFault
  | .absent => .valueMissing option
  | fault => .valueRefused option value fault

end UsageFault

/-- Why a command line leads to no command. -/
inductive Interruption where
  /-- It asks for a page of help. -/
  | help (page : HelpPage)
  /-- It asks for the version. -/
  | version
  /-- It is empty. -/
  | nothing
  | usage (fault : UsageFault)
deriving DecidableEq, Inhabited

end GolfProgress
