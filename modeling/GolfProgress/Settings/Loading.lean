import GolfProgress.Settings.Basic
import GolfProgress.Text.Blank
import GolfProgress.Yaml.Source

/-!
# Loading settings

Settings are kept in YAML files.  Settings read from a file are checked, and a
file that does not hold good settings is a failure.  The surroundings of a
program may name a file or a profile; there a bad file only yields to the
profile, and an unknown profile to the defaults.
-/

set_option autoImplicit false

namespace GolfProgress.Settings

def ofYaml (text : String) : Except Failure Settings :=
  match (Yaml.parse? text).bind fun document => read? document.top with
  | none => .error (.settings (.unreadable "the document does not read as settings"))
  | some settings => settings.check

/-- The settings of a file, whose content is missing when it cannot be read. -/
def ofFile (path : String) (content : Option String) : Except Failure Settings :=
  match content with
  | none => .error (.settings (.file path))
  | some text => ofYaml text

/-- The settings of a profile, whatever the case of its letters. -/
def ofProfile (name : String) : Settings :=
  if Text.lowerAscii name = "strict" then strict else {}

/-- The settings that the surroundings ask for: those of a named file when it
holds good ones, and otherwise those of a profile. -/
def ofSurroundings (file : Option (Except Failure Settings)) (profile : Option String) :
    Settings :=
  match file with
  | some (.ok settings) => settings
  | _ => ofProfile (profile.getD "")

end GolfProgress.Settings
