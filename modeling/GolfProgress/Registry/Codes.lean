import GolfProgress.Registry.Basic
import GolfProgress.Failure

/-!
# Codes given by callers

Readers of the codes that callers pass, which say what is wrong with a code that
does not read.
-/

set_option autoImplicit false

namespace GolfProgress

/-- The category of a letter, or the failure that names the text. -/
def Category.ofText (text : String) : Except Failure Category :=
  match Category.ofText? text with
  | some category => .ok category
  | none => .error (.invalidCategory text)

/-- The gender of a code, or the failure that names the text. -/
def Gender.ofText (text : String) : Except Failure Gender :=
  match Gender.ofText? text with
  | some gender => .ok gender
  | none => .error (.invalidGender text)

/-- The domain of a stored code, or the failure that names the code. -/
def Domain.ofCode (code : String) : Except Failure Domain :=
  match Domain.ofCode? code with
  | some domain => .ok domain
  | none => .error (.invalidDomain code)

def DomainMapping.ofCode (code : String) : Except Failure DomainMapping :=
  (Domain.ofCode code).map DomainMapping.ofDomain

end GolfProgress
