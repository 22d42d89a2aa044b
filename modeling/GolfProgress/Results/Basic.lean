import GolfProgress.Document.Stamps
import GolfProgress.Store.Failure
import GolfProgress.Text.Blank
import GolfProgress.Binary64.Decimal
import GolfProgress.Json.Source

/-!
# Recorded test results

Values are recorded as numbers or, in old rows, as text, perhaps with a decimal
comma.  The log keeps results in the order in which they were added and looks up
the latest one of a player and test in a span of dates; of several on that date
the one added last counts.
-/

set_option autoImplicit false

namespace GolfProgress

/-- A value as it was recorded. -/
inductive RecordedValue where
  | number (value : Binary64)
  | text (value : String)
deriving DecidableEq, Inhabited

namespace RecordedValue

/-- The finite number that a recorded value stands for. -/
def finite? : RecordedValue → Option Binary64
  | .number value => value.finite?
  | .text written =>
    (Binary64.ofChars? (Text.commaToPoint (Text.trim written.toList))).bind Binary64.finite?

/-- The value as JSON, under the name of its kind. -/
def toJson : RecordedValue → Json
  | .number value => .object [("number", .float value)]
  | .text value => .object [("text", .text value)]

/-- The value in a document: a number or a text. -/
def read? {Node : Type} [Source Node] (node : Node) : Option RecordedValue :=
  match Source.text? node with
  | some written => some (.text written)
  | none => (Source.number? node).map .number

end RecordedValue

structure TestResult where
  player : Uuid
  /-- The test number or metric under which the result was recorded. -/
  test : String
  value : RecordedValue
  /-- The pass flag, when the protocol of the test sets one. -/
  passed : Option Bool
  date : Date
deriving DecidableEq, Inhabited

namespace TestResult

def toJson (result : TestResult) : Json :=
  .object [
    ("player_id", .text result.player.toText),
    ("test_id", .text result.test),
    ("value", result.value.toJson),
    ("passed", Json.ofOption .bool result.passed),
    ("test_date", .text result.date.toText)]

/-- The result in a document. -/
def read? {Node : Type} [Source Node] (node : Node) : Option TestResult := do
  let fields ← Source.fields? ["player_id", "test_id", "value", "passed", "test_date"] node
  return {
    player := ← fields.required "player_id" Uuid.read?
    test := ← fields.required "test_id" Source.text?
    value := ← fields.required "value" RecordedValue.read?
    passed := ← fields.optional "passed" Source.bool?
    date := ← fields.required "test_date" Date.read? }

/-- Whether a result is of a player and test and dated in a span, both ends
included. -/
def isOf (result : TestResult) (player : Uuid) (test : String) (start finish : Date) : Bool :=
  result.player = player && result.test = test && decide (start ≤ result.date) &&
    decide (result.date ≤ finish)

end TestResult

structure ResultLog where
  /-- The results in the order in which they were added. -/
  results : List TestResult := []
  /-- The failure with which every look-up is answered, when there is one. -/
  failure : Option StoreFailure := none
deriving Inhabited

namespace ResultLog

/-- The log with one more result. -/
def add (log : ResultLog) (result : TestResult) : ResultLog :=
  { log with results := log.results ++ [result] }

/-- The latest of some results, the last one of several on its date. -/
def latestOf (results : List TestResult) : Option TestResult :=
  results.foldl (fun latest result =>
    match latest with
    | none => some result
    | some best => if result.date < best.date then some best else some result) none

/-- The latest result of a player and test in a span of dates. -/
def findLatest (log : ResultLog) (player : Uuid) (test : String) (start finish : Date) :
    Except StoreFailure (Option TestResult) :=
  match log.failure with
  | some failure => .error failure
  | none => .ok (latestOf (log.results.filter fun result => result.isOf player test start finish))

end ResultLog

end GolfProgress
