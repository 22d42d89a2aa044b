import GolfProgress.Requirements.Basic
import GolfProgress.Store.Failure

/-!
# Requirement stores

A requirement store lists the rows of a category and gender.  Listing may change
the store, for one that counts its calls.
-/

set_option autoImplicit false

namespace GolfProgress

/-- A store that lists the requirements of a category and gender. -/
class RequirementStore (Store : Type) where
  /-- The rows, or why there are none, and the store after the call. -/
  list : Store → Category → Gender → Except StoreFailure (List Requirement) × Store

/-- Requirement rows held in memory, with switches that make listing fail. -/
structure MemoryRequirements where
  rows : List Requirement
  available : Bool := true
  /-- The failure that answers every call while the store is available. -/
  failure : Option StoreFailure := none
  /-- How often the rows were asked for, in a count of sixty-four bits. -/
  calls : UInt64 := 0
deriving Inhabited

namespace MemoryRequirements

/-- The answer to a call, which a failure comes before. -/
def answer (store : MemoryRequirements) (category : Category) (gender : Gender) :
    Except StoreFailure (List Requirement) :=
  if !store.available then .error (.unavailable "requirement store offline")
  else
    match store.failure with
    | some failure => .error failure
    | none => .ok (store.rows.filter fun row => row.category = category && row.gender = gender)

instance : RequirementStore MemoryRequirements where
  list store category gender :=
    (store.answer category gender, { store with calls := store.calls + 1 })

end MemoryRequirements

/-- A store that answers every call with all of its rows. -/
structure UnsortedRequirements where
  rows : List Requirement
deriving Inhabited

instance : RequirementStore UnsortedRequirements where
  list store _ _ := (.ok store.rows, store)

end GolfProgress
