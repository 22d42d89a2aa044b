import GolfProgress.Document.Source

/-!
# Failures of stores

A store can be out of reach, hold a record at another version than expected,
lack a record, or refuse one.  The first two may be gone when the same call is
made again.
-/

set_option autoImplicit false

namespace GolfProgress

/-- Why a store refused a call. -/
inductive StoreFailure where
  /-- The store cannot be reached. -/
  | unavailable (reason : String)
  /-- The record has moved on from the version a write expected. -/
  | versionConflict (id : String) (expected found : UInt64)
  /-- There is no such record. -/
  | notFound (id : String)
  /-- The record does not pass validation. -/
  | invalidRecord (reason : String)
deriving DecidableEq, Inhabited

namespace StoreFailure

/-- The text of a failure. -/
def message : StoreFailure → String
  | .unavailable reason => "store unavailable: " ++ reason
  | .versionConflict id expected found =>
    "version conflict on " ++ id ++ ": expected " ++ toString expected.toNat ++ ", found " ++
      toString found.toNat
  | .notFound id => "record not found: " ++ id
  | .invalidRecord reason => "invalid record: " ++ reason

/-- Whether the same call may succeed later. -/
def recoverable : StoreFailure → Bool
  | .unavailable _ | .versionConflict .. => true
  | .notFound _ | .invalidRecord _ => false

end StoreFailure

end GolfProgress
