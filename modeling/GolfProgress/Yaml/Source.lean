import GolfProgress.Binary64.Decimal
import GolfProgress.Document.Source
import GolfProgress.Yaml.Node

/-!
# Reading typed values from YAML

A scalar of any style reads as a text.  Truth values and numbers are plain, or
literal blocks with the tag of their type.  A choice is a scalar with its name,
or nothing with its name for a tag.  Records are maps only; a node that is left
out reads as a list or a record without anything in it.
-/

set_option autoImplicit false

namespace GolfProgress.Yaml

/-- A node of a document, or none for an empty document. -/
structure View where
  document : Document
  node : Option Node

namespace Document

/-- The node that a node stands for. -/
def resolve (document : Document) : Node → Node
  | .reference number => (document.anchored.lookup number).getD .empty
  | node => node

def view (document : Document) (node : Node) : View := ⟨document, some (document.resolve node)⟩

/-- The view of the root. -/
def top (document : Document) : View := ⟨document, document.root.map document.resolve⟩

end Document

/-- The full text of a tag of the common kind. -/
def commonTag (name : String) : String := "tag:yaml.org,2002:" ++ name

/-- The spellings of nothing. -/
def isNull (text : String) : Bool := ["", "~", "null", "Null", "NULL"].contains text

/-- The truth value that a text spells. -/
def boolOfText? (text : String) : Option Bool :=
  if ["true", "True", "TRUE"].contains text then some true
  else if ["false", "False", "FALSE"].contains text then some false
  else none

def withoutPlus : List Char → List Char
  | '+' :: rest => rest
  | text => text

/-- The value of digits of a base, of which there is at least one. -/
def naturalOfBase? (base : Nat) (digits : List Char) : Option Nat :=
  if digits = [] then none
  else digits.foldlM (fun value c => do
    let digit ← Text.hexValue? c
    if digit < base then some (base * value + digit) else none) 0

/-- The natural number that a text spells: decimal without leading zeros, or with
a letter for another base, and perhaps a plus sign. -/
def naturalOfText? (text : String) : Option Nat :=
  match withoutPlus text.toList with
  | '0' :: 'x' :: digits => naturalOfBase? 16 digits
  | '0' :: 'o' :: digits => naturalOfBase? 8 digits
  | '0' :: 'b' :: digits => naturalOfBase? 2 digits
  | '0' :: _ :: _ => none
  | digits => naturalOfBase? 10 digits

/-- The double-precision number that a text spells.  Only the names with a point
stand for numbers that are not finite. -/
def numberOfText? (text : String) : Option Binary64 :=
  if [".inf", ".Inf", ".INF", "+.inf", "+.Inf", "+.INF"].contains text then
    some (.infinite false)
  else if ["-.inf", "-.Inf", "-.INF"].contains text then some (.infinite true)
  else if [".nan", ".NaN", ".NAN"].contains text then some .nan
  else Binary64.finiteOfText? text

namespace View

/-- The content of a scalar that may stand for a value of a kind. -/
def plain? (kind : String) (view : View) : Option String :=
  match view.node with
  | some (.scalar content .plain _) => some content
  | some (.scalar content .literal (some tag)) =>
    if tag = commonTag kind then some content else none
  | _ => none

/-- Whether a node is left out, or the document is empty. -/
def isVoid (view : View) : Bool :=
  match view.node with
  | none => true
  | some (.scalar content .plain _) => content = ""
  | _ => false

/-- The text of a scalar. -/
def text? (view : View) : Option String :=
  match view.node with
  | some (.scalar content _ _) => some content
  | _ => none

def choiceName? (view : View) : Option String :=
  match view.node with
  | some (.scalar content style tag) =>
    match tag.map String.toList with
    | some ('!' :: name) =>
      if style = .plain && isNull content then some (String.ofList name) else none
    | _ => some content
  | _ => none

/-- The entries of a map whose keys are all scalars. -/
def entries? (view : View) : Option (List (String × View)) :=
  match view.node with
  | some (.map entries) => entries.mapM fun (key, value) => do
    return (← (view.document.view key).text?, view.document.view value)
  | _ => if view.isVoid then some [] else none

end View

instance : Source View where
  isAbsent view := view.isVoid || (view.plain? "null").any isNull
  bool? view := (view.plain? "bool").bind boolOfText?
  natural? view := (view.plain? "int").bind naturalOfText?
  number? view := (view.plain? "float").bind numberOfText?
  text? := View.text?
  items? view :=
    match view.node with
    | some (.list items) => some (items.map view.document.view)
    | _ => if view.isVoid then some [] else none
  choice? choices view := do
    let name ← view.choiceName?
    choices.findIdx? fun names => names.contains name
  fields? names view := do
    Source.namedFields? names (← view.entries?)

end GolfProgress.Yaml
