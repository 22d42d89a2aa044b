import GolfProgress.Registry.Catalog
import GolfProgress.Text.Digits

/-!
# The registry of proof metrics

The registry keeps one metric for each test number of a catalog, the last entry
of a number replacing the earlier ones, in ascending order of the numbers.  A
test is a hard requirement when any entry of its number says so.
-/

set_option autoImplicit false

namespace GolfProgress

/-- The metrics of a catalog by test number. -/
structure Registry where
  metrics : List Metric
  /-- The metrics stand in ascending order of their test numbers. -/
  ascending : metrics.Pairwise fun first second => first.test < second.test := by decide
  /-- The test numbers that are hard requirements. -/
  hardTests : List UInt8
deriving DecidableEq

instance : Inhabited Registry := ⟨{ metrics := [], hardTests := [] }⟩

namespace Registry

/-- A metric put in its place among metrics in ascending order, replacing the
one of the same test. -/
def place (metric : Metric) : List Metric → List Metric
  | [] => [metric]
  | head :: rest =>
    if metric.test < head.test then metric :: head :: rest
    else if metric.test = head.test then metric :: rest
    else head :: place metric rest

section Places

variable {metric placed : Metric} {metrics : List Metric}

theorem mem_place (member : placed ∈ place metric metrics) :
    placed = metric ∨ placed ∈ metrics := by
  induction metrics with
  | nil => exact .inl (List.mem_singleton.mp member)
  | cons head rest ih =>
      simp only [place] at member
      split at member
      · exact List.mem_cons.mp member
      · split at member
        · rcases List.mem_cons.mp member with same | later
          · exact .inl same
          · exact .inr (List.mem_cons_of_mem _ later)
        · rcases List.mem_cons.mp member with same | later
          · exact .inr (same ▸ List.mem_cons_self)
          · exact (ih later).imp_right (List.mem_cons_of_mem _)

/-- Metrics in ascending order stay so. -/
theorem pairwise_place (metric : Metric)
    (ascending : metrics.Pairwise fun first second => first.test < second.test) :
    (place metric metrics).Pairwise fun first second => first.test < second.test := by
  induction metrics with
  | nil => exact List.pairwise_singleton _ _
  | cons head rest ih =>
      obtain ⟨first, later⟩ := List.pairwise_cons.mp ascending
      simp only [place]
      split
      · next below =>
          refine List.pairwise_cons.mpr ⟨?_, ascending⟩
          intro other member
          rcases List.mem_cons.mp member with rfl | member
          · exact below
          · exact UInt8.lt_trans below (first other member)
      · next notBelow =>
          split
          · next same =>
              exact List.pairwise_cons.mpr ⟨fun other member => same ▸ first other member, later⟩
          · next apart =>
              refine List.pairwise_cons.mpr ⟨?_, ih later⟩
              intro other member
              rcases mem_place member with rfl | member
              · exact UInt8.lt_of_le_of_ne (UInt8.not_lt.mp notBelow) (Ne.symm apart)
              · exact first other member

theorem pairwise_places (entries : List CatalogEntry)
    (ascending : metrics.Pairwise fun first second => first.test < second.test) :
    (entries.foldl (fun metrics entry => place entry.metric metrics) metrics).Pairwise
      fun first second => first.test < second.test := by
  induction entries generalizing metrics with
  | nil => exact ascending
  | cons entry rest ih => exact ih (pairwise_place entry.metric ascending)

end Places

def ofCatalog (catalog : Catalog) : Registry where
  metrics := catalog.entries.foldl (fun metrics entry => place entry.metric metrics) []
  ascending := pairwise_places catalog.entries .nil
  hardTests := (catalog.entries.filter (·.hard)).map (·.test)

def ofTest? (registry : Registry) (test : UInt8) : Option Metric :=
  registry.metrics.find? fun metric => metric.test = test

/-- The test number that a text writes: digits, perhaps after a plus sign. -/
def testOfText? (text : String) : Option UInt8 :=
  (Text.natAtMost? 255 text.toList).map UInt8.ofNat

/-- The metric of an identifier, or else of a test number written as text. -/
def find? (registry : Registry) (id : String) : Option Metric :=
  (registry.metrics.find? fun metric => metric.id = id) <|>
    ((testOfText? id).bind registry.ofTest?)

/-- The direction of a test, higher being better when the test is unknown. -/
def direction (registry : Registry) (test : UInt8) : Direction :=
  ((registry.ofTest? test).map (·.direction)).getD .higherBetter

/-- Whether a test is a hard requirement. -/
def isHard (registry : Registry) (test : UInt8) : Bool := registry.hardTests.contains test

def ofDomain (registry : Registry) (domain : Domain) : List Metric :=
  registry.metrics.filter fun metric => metric.domain = domain

/-- The metrics of a stored domain code; an unknown code has none. -/
def ofDomainCode (registry : Registry) (code : String) : List Metric :=
  ((Domain.ofCode? code).map registry.ofDomain).getD []

/-- The number of metrics. -/
def size (registry : Registry) : Nat := registry.metrics.length

end Registry

end GolfProgress
