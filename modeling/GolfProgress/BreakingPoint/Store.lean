import GolfProgress.BreakingPoint.Patch
import GolfProgress.Store.Failure

/-!
# The store of breaking points

Records are kept by identifier and written by compare-and-update: a write names
the version it expects, and lands only on that version and only if the patched
record is valid.  The store can be switched off, and can be made to lose races:
each pending conflict stands for a writer that gets in first.
-/

set_option autoImplicit false

namespace GolfProgress

/-- Breaking points by identifier. -/
@[ext]
structure BreakingPointStore where
  records : List BreakingPoint := []
  /-- No identifier comes twice. -/
  distinct : (records.map (·.id)).Nodup := by decide
  /-- The failure with which every call is answered, when there is one. -/
  failure : Option StoreFailure := none
  /-- How many of the next writes first meet another writer's. -/
  pendingConflicts : UInt32 := 0

instance : Inhabited BreakingPointStore := ⟨{}⟩

namespace BreakingPointStore

/-- The record of an identifier, whatever the state of the store. -/
def find? (store : BreakingPointStore) (id : Uuid) : Option BreakingPoint :=
  store.records.find? fun point => point.id = id

/-- The records with one in place of that of its identifier, or added. -/
def recordsWith (store : BreakingPointStore) (point : BreakingPoint) : List BreakingPoint :=
  if (store.find? point.id).isSome then
    store.records.map fun stored => if stored.id = point.id then point else stored
  else store.records ++ [point]

/-- A record that replaces another leaves the identifiers as they are. -/
theorem map_id_replaced (records : List BreakingPoint) (point : BreakingPoint) :
    (records.map fun stored => if stored.id = point.id then point else stored).map (·.id) =
      records.map (·.id) := by
  rw [List.map_map]
  refine List.map_congr_left fun stored _ => ?_
  rw [Function.comp_apply]
  split
  · next same => exact same.symm
  · rfl

theorem nodup_recordsWith (store : BreakingPointStore) (point : BreakingPoint) :
    ((store.recordsWith point).map (·.id)).Nodup := by
  unfold recordsWith
  split
  · rw [map_id_replaced]
    exact store.distinct
  · next absent =>
      -- no stored record has the identifier of the one that is added
      rw [Bool.not_eq_true, Option.isSome_eq_false_iff, Option.isNone_iff_eq_none, find?,
        List.find?_eq_none] at absent
      rw [List.map_append, List.nodup_append]
      refine ⟨store.distinct, List.pairwise_singleton _ _, ?_⟩
      rintro id inside other added rfl
      obtain ⟨stored, held, rfl⟩ := List.mem_map.mp inside
      obtain same := List.mem_singleton.mp added
      exact absent stored held (decide_eq_true same)

/-- The store with a record in place of the one of its identifier, or added. -/
def put (store : BreakingPointStore) (point : BreakingPoint) : BreakingPointStore :=
  { store with records := store.recordsWith point, distinct := store.nodup_recordsWith point }

/-- The failure of a record that breaks rules. -/
def invalid (violations : List Violation) : StoreFailure :=
  .invalidRecord (String.intercalate "\n" (violations.map Violation.toText))

/-- Stores a new record, unless it is not valid. -/
def insert (store : BreakingPointStore) (point : BreakingPoint) :
    Except StoreFailure BreakingPointStore :=
  match store.failure with
  | some failure => .error failure
  | none => if point.Valid then .ok (store.put point) else .error (invalid point.violations)

/-- The record of an identifier. -/
def get (store : BreakingPointStore) (id : Uuid) : Except StoreFailure (Option BreakingPoint) :=
  match store.failure with
  | some failure => .error failure
  | none => .ok (store.find? id)

/-- The store after a pending conflict, if any, has bumped the version of a
record, and that record. -/
def meetConflict (store : BreakingPointStore) (point : BreakingPoint) :
    BreakingPoint × BreakingPointStore :=
  if store.pendingConflicts = 0 then (point, store)
  else
    let bumped := { point with version := point.version + 1 }
    (bumped, { store with pendingConflicts := store.pendingConflicts - 1 }.put bumped)

/-- Writes a patch to a record of the expected version, and answers with the
record as written. -/
def update (store : BreakingPointStore) (id : Uuid) (expected : UInt64) (patch : Patch) :
    Except StoreFailure BreakingPoint × BreakingPointStore :=
  match store.failure with
  | some failure => (.error failure, store)
  | none =>
    match store.find? id with
    | none => (.error (.notFound id.toText), store)
    | some point =>
      let (stored, store) := store.meetConflict point
      if stored.version ≠ expected then
        (.error (.versionConflict id.toText expected stored.version), store)
      else
        let updated := { patch.apply stored with version := stored.version + 1 }
        if updated.Valid then (.ok updated, store.put updated)
        else (.error (invalid updated.violations), store)

/-- Whether a record may stand before another in lists: the earlier created
first, and of those created at once the lower identifier. -/
def isListedBefore (a b : BreakingPoint) : Bool :=
  if a.createdAt = b.createdAt then decide (a.id.value ≤ b.id.value)
  else decide (a.createdAt ≤ b.createdAt)

/-- The records of a player, in the order of lists. -/
def listForPlayer (store : BreakingPointStore) (player : Uuid) :
    Except StoreFailure (List BreakingPoint) :=
  match store.failure with
  | some failure => .error failure
  | none =>
    .ok ((store.records.filter fun point => point.player = player).mergeSort isListedBefore)

/-- The number of records. -/
def size (store : BreakingPointStore) : Nat := store.records.length

/-- The store switched on or off. -/
def setAvailable (store : BreakingPointStore) (available : Bool) : BreakingPointStore :=
  { store with
    failure := if available then none else some (.unavailable "breaking point store offline") }

/-- The store with so many conflicts pending. -/
def injectConflicts (store : BreakingPointStore) (count : UInt32) : BreakingPointStore :=
  { store with pendingConflicts := count }

end BreakingPointStore

end GolfProgress
