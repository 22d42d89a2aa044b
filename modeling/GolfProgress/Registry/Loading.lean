import GolfProgress.Failure
import GolfProgress.Registry.Basic
import GolfProgress.Yaml.Repetition

/-!
# Loading test catalogs

Test catalogs are kept as YAML.  The entries of a catalog, and the targets of an
entry, are lists of any length, so that a catalog must not repeat itself too
often through references.
-/

set_option autoImplicit false

namespace GolfProgress

/-- How many references are followed to read the targets of an entry. -/
def Targets.followed (document : Yaml.Document) : Yaml.Node → Nat :=
  document.followedInRecord fun
    | "M" | "K" => document.followedInList document.followedInScalar
    | _ => fun _ => 0

/-- How many references are followed to read an entry of a catalog. -/
def CatalogEntry.followed (document : Yaml.Document) : Yaml.Node → Nat :=
  document.followedInRecord fun
    | "test_number" | "metric_id" | "label" | "unit" | "direction" | "domain"
    | "hard_constraint" => document.followedInScalar
    | "targets" => Targets.followed document
    | _ => fun _ => 0

/-- How many references are followed to read a catalog. -/
def Catalog.followed (document : Yaml.Document) : Yaml.Node → Nat :=
  document.followedInRecord fun
    | "tests" => document.followedInList (CatalogEntry.followed document)
    | _ => fun _ => 0

def Catalog.ofDocument? (document : Yaml.Document) : Option Catalog := do
  let catalog ← Catalog.read? document.top
  let count := (document.root.map (Catalog.followed document)).getD 0
  if document.allows count then some catalog else none

def Catalog.ofYaml (text : String) : Except Failure Catalog :=
  match (Yaml.parse? text).bind Catalog.ofDocument? with
  | none => .error .catalog
  | some catalog => .ok catalog

/-- The registry of the catalog that a YAML text holds. -/
def Registry.ofYaml (text : String) : Except Failure Registry :=
  (Catalog.ofYaml text).map Registry.ofCatalog

end GolfProgress
