import GolfProgress.Constraints.Report
import GolfProgress.Requirements.Cache
import GolfProgress.Requirements.Store

/-!
# Analysing what keeps a player out of the next category

Requirements come from the cache, else from the store, else from the catalog:
the rows that the registry implies stand in when the store cannot be reached or
has no row of the gender.  Only rows of the store enter the cache, so the next
call asks the store again.
-/

set_option autoImplicit false

namespace GolfProgress

/-- What an analysis keeps between calls. -/
structure AnalysisState (Store : Type) where
  store : Store
  cache : RequirementCache
deriving Inhabited

/-- The rows that the registry implies, or the failure that there are none. -/
def Registry.fallback (registry : Registry) (category : Category) (gender : Gender) :
    Except Failure (List Requirement × RequirementOrigin) :=
  match registry.requirements category gender with
  | [] => .error (.notFound "requirement set" (category.code ++ "/" ++ gender.code))
  | rows => .ok (rows, .builtinFallback)

namespace AnalysisState

variable {Store : Type} [RequirementStore Store]

/-- The requirements of a category and gender and where they came from. -/
def load (registry : Registry) (category : Category) (gender : Gender)
    (state : AnalysisState Store) :
    Except Failure (List Requirement × RequirementOrigin) × AnalysisState Store :=
  match state.cache.get category gender with
  | (some rows, cache) => (.ok (rows, .cache), { state with cache })
  | (none, cache) =>
    match RequirementStore.list state.store category gender with
    | (.ok listed, store) =>
      match listed.filter fun row => row.gender = gender with
      | [] => (registry.fallback category gender, ⟨store, cache⟩)
      | rows => (.ok (rows, .store), ⟨store, cache.insert category gender rows⟩)
    | (.error (.unavailable _), store) => (registry.fallback category gender, ⟨store, cache⟩)
    | (.error failure, store) => (.error (.store failure), ⟨store, cache⟩)

/-- The report on a player's next category. -/
def compute (registry : Registry) (settings : ConstraintSettings) (player : Uuid)
    (category : Category) (gender : Gender) (measurements : Measurements)
    (state : AnalysisState Store) : Except Failure ConstraintReport × AnalysisState Store :=
  match category.nextUp with
  | none => (.error (.notFound "requirement set above category" category.code), state)
  | some target =>
    match state.load registry target gender with
    | (.ok (rows, origin), state) =>
      (.ok (.ofRows registry settings player category target gender measurements rows origin),
        state)
    | (.error failure, state) => (.error failure, state)

end AnalysisState

end GolfProgress
