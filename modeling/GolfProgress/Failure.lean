import GolfProgress.Store.Failure
import GolfProgress.Violation
import GolfProgress.Binary64.Decimal

/-!
# Failures of the engine

What makes a call fail.  Expected misses, such as a player who has not tested
yet or a rule text that does not parse, are answers and not failures.
-/

set_option autoImplicit false

namespace GolfProgress

/-- What is wrong with settings. -/
inductive SettingsFault where
  /-- The document does not read as settings. -/
  | unreadable (reason : String)
  /-- The settings break the listed rules. -/
  | violations (list : List Violation)
  /-- The file with the document cannot be read. -/
  | file (path : String)
deriving DecidableEq, Inhabited

def SettingsFault.message : SettingsFault → String
  | .unreadable reason => reason
  | .violations list => String.intercalate "\n" (list.map Violation.toText)
  | .file path => path ++ ": the file cannot be read"

/-- Why a call failed. -/
inductive Failure where
  /-- Nothing of the named sort has this identifier. -/
  | notFound (subject id : String)
  | invalidDomain (code : String)
  | invalidCategory (text : String)
  | invalidGender (text : String)
  /-- A benchmark reading that is not a finite number. -/
  | invalidReading (value : Binary64)
  /-- Every attempt to write a breaking point met a newer version. -/
  | conflict (id : String) (attempts : UInt32)
  | store (cause : StoreFailure)
  /-- A test catalog that does not read. -/
  | catalog
  | settings (fault : SettingsFault)
deriving DecidableEq, Inhabited

namespace Failure

def message : Failure → String
  | .notFound subject id => subject ++ " not found: " ++ id
  | .invalidDomain code => "Invalid performance domain: " ++ code
  | .invalidCategory text => "Invalid skill category: " ++ text
  | .invalidGender text => "Invalid gender code: " ++ text
  | .invalidReading value => "Invalid benchmark reading: " ++ value.toText
  | .conflict id attempts =>
    "Write conflict on breaking point " ++ id ++ " after " ++ toString attempts.toNat ++
      " attempts"
  | .store cause => "Store error: " ++ cause.message
  | .catalog => "Test catalog error"
  | .settings fault => "Configuration error: " ++ fault.message

/-- Whether the same call may succeed later. -/
def recoverable : Failure → Bool
  | .conflict .. => true
  | .store cause => cause.recoverable
  | _ => false

end Failure

end GolfProgress
