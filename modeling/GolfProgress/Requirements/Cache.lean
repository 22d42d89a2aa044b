import GolfProgress.Requirements.Basic

/-!
# The requirement cache

Rows that were read from a store are kept for each category and gender.  The
cache counts how often a look-up found its entry and how often it did not; the
counts have sixty-four bits and start over beyond that.
-/

set_option autoImplicit false

namespace GolfProgress

theorem RequirementCache.nodup_empty :
    (([] : List ((Category × Gender) × List Requirement)).map (·.1)).Nodup :=
  List.nodup_nil

/-- Requirement rows by category and gender. -/
structure RequirementCache where
  entries : List ((Category × Gender) × List Requirement) := []
  /-- A category and gender has at most one entry. -/
  distinct : (entries.map (·.1)).Nodup := by exact RequirementCache.nodup_empty
  /-- Look-ups that found an entry. -/
  hits : UInt64 := 0
  /-- Look-ups that found none. -/
  misses : UInt64 := 0
deriving DecidableEq

instance : Inhabited RequirementCache := ⟨{}⟩

namespace RequirementCache

/-- The entry of a category and gender. -/
def find? (cache : RequirementCache) (category : Category) (gender : Gender) :
    Option (List Requirement) :=
  cache.entries.lookup (category, gender)

/-- The entry of a category and gender, with the look-up counted. -/
def get (cache : RequirementCache) (category : Category) (gender : Gender) :
    Option (List Requirement) × RequirementCache :=
  match cache.find? category gender with
  | some rows => (some rows, { cache with hits := cache.hits + 1 })
  | none => (none, { cache with misses := cache.misses + 1 })

/-- The entries of all other categories and genders. -/
def others (cache : RequirementCache) (category : Category) (gender : Gender) :
    List ((Category × Gender) × List Requirement) :=
  cache.entries.filter fun entry => entry.1 ≠ (category, gender)

theorem nodup_others (cache : RequirementCache) (category : Category) (gender : Gender) :
    ((cache.others category gender).map (·.1)).Nodup :=
  cache.distinct.sublist (List.filter_sublist.map _)

theorem not_mem_others (cache : RequirementCache) (category : Category) (gender : Gender) :
    (category, gender) ∉ (cache.others category gender).map (·.1) := by
  intro inside
  obtain ⟨entry, other, same⟩ := List.mem_map.mp inside
  exact of_decide_eq_true (List.mem_filter.mp other).2 same

/-- The cache without the entry of a category and gender. -/
def erase (cache : RequirementCache) (category : Category) (gender : Gender) :
    RequirementCache :=
  { cache with
    entries := cache.others category gender
    distinct := cache.nodup_others category gender }

/-- The cache with the rows of a category and gender in place of any before. -/
def insert (cache : RequirementCache) (category : Category) (gender : Gender)
    (rows : List Requirement) : RequirementCache :=
  { cache with
    entries := ((category, gender), rows) :: cache.others category gender
    distinct := List.nodup_cons.mpr
      ⟨cache.not_mem_others category gender, cache.nodup_others category gender⟩ }

/-- The cache without entries; its counts go on. -/
def clear (cache : RequirementCache) : RequirementCache :=
  { cache with entries := [], distinct := nodup_empty }

/-- The number of entries. -/
def size (cache : RequirementCache) : Nat := cache.entries.length

end RequirementCache

end GolfProgress
