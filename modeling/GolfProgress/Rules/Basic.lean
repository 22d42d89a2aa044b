import GolfProgress.Rules.Comparison
import GolfProgress.Text.Fields
import GolfProgress.Binary64.Decimal
import GolfProgress.Text.Blank

/-!
# Success rules

A success rule says when a reading proves that a weakness is overcome.  It is
stored as a short text in one of three forms:

* `15:pass`, the pass flag of a test;
* `CARRY:>=:220`, a measured value against a threshold;
* `improvement:percent:10`, an improvement over the baseline.

`SuccessRule.ofText?` reads a text and `SuccessRule.toText` writes it.  A text
of no form is data and not a fault, so it reads as nothing.
-/

set_option autoImplicit false

namespace GolfProgress

/-- When a reading counts as proof. -/
inductive SuccessRule where
  /-- The pass flag of a test is set. -/
  | testPass (test : String)
  /-- The value of a metric meets a threshold. -/
  | metricThreshold (metric : String) (comparison : Comparison) (threshold : Binary64)
  /-- The value improves on the baseline by at least a percentage. -/
  | improvementPercent (percent : Binary64)
deriving DecidableEq, Inhabited

namespace SuccessRule

/-- The name of the form of a rule. -/
def kind : SuccessRule → String
  | .testPass _ => "test_pass"
  | .metricThreshold .. => "metric_threshold"
  | .improvementPercent _ => "improvement_percent"

/-! ## Stored text -/

/-- Identifiers in rules are not empty and hold no white space. -/
def isIdentifier (text : List Char) : Bool := !text.isEmpty && text.all fun c => !Text.isBlank c

/-- The parts of the stored text, before they are joined by colons. -/
def parts : SuccessRule → List (List Char)
  | .testPass test => [test.toList, "pass".toList]
  | .metricThreshold metric comparison threshold =>
    [metric.toList, comparison.symbol.toList, threshold.toChars]
  | .improvementPercent percent => ["improvement".toList, "percent".toList, percent.toChars]

/-- The stored text. -/
def toText (rule : SuccessRule) : String := String.ofList (Text.joinedBy ':' rule.parts)

/-- A finite number in a rule. -/
def number? (text : List Char) : Option Binary64 := (Binary64.ofChars? text).bind Binary64.finite?

/-- The rule of the parts of a stored text; the first form that fits counts. -/
def ofParts? : List (List Char) → Option SuccessRule
  | [test, word] =>
    if word = "pass".toList ∧ isIdentifier test then some (.testPass (String.ofList test))
    else none
  | [metric, symbol, number] =>
    match isIdentifier metric, Comparison.ofSymbol? (String.ofList symbol) with
    | true, some comparison =>
      (number? number).map (.metricThreshold (String.ofList metric) comparison)
    | _, _ =>
      if metric = "improvement".toList ∧ symbol = "percent".toList then
        (number? number).map .improvementPercent
      else none
  | _ => none

/-- The rule that a text stores, blanks around it aside. -/
def ofText? (text : String) : Option SuccessRule :=
  ofParts? (Text.fieldsBy ':' (Text.trim text.toList))

/-! ## Documents -/

/-- The rule as JSON, tagged by the name of its form. -/
def toJson : SuccessRule → Json
  | .testPass test => .object [("kind", .text "test_pass"), ("test_id", .text test)]
  | .metricThreshold metric comparison threshold =>
    .object [("kind", .text "metric_threshold"), ("metric_id", .text metric),
      ("operator", .text comparison.symbol), ("threshold", .float threshold)]
  | .improvementPercent percent =>
    .object [("kind", .text "improvement_percent"), ("percent", .float percent)]

/-- The rule of a form whose fields are found by `fields?`. -/
def ofKind? {Node : Type} [Source Node] (kind : String)
    (fields? : List String → Option (Fields Node)) : Option SuccessRule :=
  if kind = "test_pass" then do
    let fields ← fields? ["test_id"]
    return .testPass (← fields.required "test_id" Source.text?)
  else if kind = "metric_threshold" then do
    let fields ← fields? ["metric_id", "operator", "threshold"]
    return .metricThreshold (← fields.required "metric_id" Source.text?)
      (← fields.required "operator" Comparison.read?)
      (← fields.required "threshold" Source.number?)
  else if kind = "improvement_percent" then do
    let fields ← fields? ["percent"]
    return .improvementPercent (← fields.required "percent" Source.number?)
  else none

/-- The rule in a document; a list gives the name of the form first. -/
def read? {Node : Type} [Source Node] (node : Node) : Option SuccessRule :=
  match Source.items? node with
  | some [] => none
  | some (kind :: rest) => do
    ofKind? (← Source.text? kind) fun names => Source.positionalFields? names rest
  | none => do
    let fields ← Source.fields?
      ["kind", "test_id", "metric_id", "operator", "threshold", "percent"] node
    ofKind? (← fields.required "kind" Source.text?) fun _ => some fields

end SuccessRule

end GolfProgress
