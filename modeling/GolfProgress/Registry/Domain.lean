import GolfProgress.Json.Source

/-!
# Performance domains

A benchmark test measures one performance domain, and the domains roll up into
strokes-gained components: the four approach domains are distance bands of one
component, and physical tests and scoring count towards the total.  The domain
of each known test number is fixed by `testDomains`.
-/

set_option autoImplicit false

namespace GolfProgress

/-- A strokes-gained component. -/
inductive Component where
  | offTheTee | approach | aroundGreen | putting | total
deriving DecidableEq, Repr, Inhabited

namespace Component

def all : List Component := [.offTheTee, .approach, .aroundGreen, .putting, .total]

/-- The stored code. -/
def code : Component → String
  | .offTheTee => "off_the_tee"
  | .approach => "approach"
  | .aroundGreen => "around_green"
  | .putting => "putting"
  | .total => "total"

/-- The component in a document. -/
def read? {Node : Type} [Source Node] (node : Node) : Option Component :=
  Source.choiceOf? (all.map fun component => (component, [component.code])) node

end Component

/-- What a benchmark test measures. -/
inductive Domain where
  /-- Driver, fairway woods and speed. -/
  | teeShots
  /-- Approach from around 200 metres. -/
  | approach200
  /-- Approach from around 150 metres. -/
  | approach150
  /-- Approach from around 100 metres. -/
  | approach100
  /-- Approach from 50 metres and in. -/
  | approach50
  /-- Chipping and bunker play. -/
  | aroundGreen
  | putting
  | physical
  /-- On-course scoring simulations. -/
  | scoring
deriving DecidableEq, Repr, Inhabited

namespace Domain

def all : List Domain :=
  [.teeShots, .approach200, .approach150, .approach100, .approach50, .aroundGreen, .putting,
    .physical, .scoring]

/-- The stored code. -/
def code : Domain → String
  | .teeShots => "TEE"
  | .approach200 => "INN200"
  | .approach150 => "INN150"
  | .approach100 => "INN100"
  | .approach50 => "INN50"
  | .aroundGreen => "ARG"
  | .putting => "PUTT"
  | .physical => "PHYS"
  | .scoring => "SCORE"

/-- The component a domain rolls up into. -/
def component : Domain → Component
  | .teeShots => .offTheTee
  | .approach200 | .approach150 | .approach100 | .approach50 => .approach
  | .aroundGreen => .aroundGreen
  | .putting => .putting
  | .physical | .scoring => .total

/-- What the tests of a domain are about. -/
def description : Domain → String
  | .teeShots => "Tee shots: driver carry, club and ball speed"
  | .approach200 => "Approach shots from around 200 meters"
  | .approach150 => "Approach shots from around 150 meters"
  | .approach100 => "Approach shots from 75 to 100 meters"
  | .approach50 => "Wedge approaches from 50 meters and in"
  | .aroundGreen => "Chipping and bunker play around the green"
  | .putting => "Short and mid-range putting"
  | .physical => "Strength and endurance"
  | .scoring => "On-course scoring simulations"

/-- Whether a domain is one of the distance bands of approach play. -/
def isApproachBand (domain : Domain) : Bool := domain.component = .approach

/-- The domain of a stored code, which must match exactly. -/
def ofCode? (code : String) : Option Domain := all.find? fun domain => domain.code = code

/-- The domain in a document. -/
def read? {Node : Type} [Source Node] (node : Node) : Option Domain :=
  Source.choiceOf? (all.map fun domain => (domain, [domain.code])) node

/-! ## Known test numbers -/

/-- The domain of each known test number, in ascending order. -/
def testDomains : List (UInt8 × Domain) :=
  [(1, .teeShots), (2, .teeShots), (3, .approach200), (4, .approach150), (5, .teeShots),
    (6, .teeShots), (7, .teeShots), (8, .approach50), (9, .approach50), (10, .approach100),
    (11, .approach100), (12, .physical), (13, .physical), (14, .physical), (15, .putting),
    (16, .putting), (17, .aroundGreen), (18, .aroundGreen), (19, .scoring), (20, .scoring)]

/-- The known test numbers. -/
def knownTests : List UInt8 := testDomains.map (·.1)

/-- The domain that a known test measures. -/
def ofTest? (test : UInt8) : Option Domain := testDomains.lookup test

/-- The known tests that measure a domain. -/
def tests (domain : Domain) : List UInt8 :=
  (testDomains.filter fun entry => entry.2 = domain).map (·.1)

end Domain

/-- A domain resolved to its component and tests. -/
structure DomainMapping where
  domain : Domain
  component : Component
  tests : List UInt8
  description : String
deriving DecidableEq, Inhabited

namespace DomainMapping

def ofDomain (domain : Domain) : DomainMapping :=
  ⟨domain, domain.component, domain.tests, domain.description⟩

def toJson (mapping : DomainMapping) : Json :=
  .object [
    ("domain", .text mapping.domain.code),
    ("component", .text mapping.component.code),
    ("related_test_numbers", Json.ofList (fun test => .nat test.toNat) mapping.tests),
    ("description", .text mapping.description)]

/-- The mapping in a document. -/
def read? {Node : Type} [Source Node] (node : Node) : Option DomainMapping := do
  let fields ← Source.fields? ["domain", "component", "related_test_numbers", "description"] node
  return {
    domain := ← fields.required "domain" Domain.read?
    component := ← fields.required "component" Component.read?
    tests := ← fields.required "related_test_numbers" (Source.listOf? Source.uint8?)
    description := ← fields.required "description" Source.text? }

end DomainMapping

end GolfProgress
