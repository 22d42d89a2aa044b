import GolfProgress.Json.Source
import GolfProgress.Text.Blank

/-!
# Skill categories and genders

Players are placed in categories from A, the best, to K, the entry level; a
player advances into the category before their own.  Requirement tables are
kept apart for men, coded `M`, and women, coded `K`; `F` is read as `K`.
-/

set_option autoImplicit false

namespace GolfProgress

/-- A skill category. -/
inductive Category where
  | a | b | c | d | e | f | g | h | i | j | k
deriving DecidableEq, Repr, Inhabited

namespace Category

/-- Every category, the best first. -/
def all : List Category := [.a, .b, .c, .d, .e, .f, .g, .h, .i, .j, .k]

/-- The place of a category, A being 0. -/
def index : Category → Nat
  | .a => 0 | .b => 1 | .c => 2 | .d => 3 | .e => 4 | .f => 5
  | .g => 6 | .h => 7 | .i => 8 | .j => 9 | .k => 10

def letter : Category → Char
  | .a => 'A' | .b => 'B' | .c => 'C' | .d => 'D' | .e => 'E' | .f => 'F'
  | .g => 'G' | .h => 'H' | .i => 'I' | .j => 'J' | .k => 'K'

/-- The category a player advances into. -/
def nextUp : Category → Option Category
  | .a => none | .b => some .a | .c => some .b | .d => some .c | .e => some .d | .f => some .e
  | .g => some .f | .h => some .g | .i => some .h | .j => some .i | .k => some .j

/-- The letter as a text. -/
def code (category : Category) : String := String.ofList [category.letter]

/-- The category of a letter of either case, with blanks around it. -/
def ofText? (text : String) : Option Category :=
  match Text.trim text.toList with
  | [single] => all.find? fun category => category.letter = single.toUpper
  | _ => none

/-- The category in a document. -/
def read? {Node : Type} [Source Node] (node : Node) : Option Category :=
  Source.choiceOf? (all.map fun category => (category, [category.code])) node

end Category

/-- The gender of a requirement table. -/
inductive Gender where
  | male | female
deriving DecidableEq, Repr, Inhabited

namespace Gender

/-- The stored code. -/
def code : Gender → String
  | .male => "M"
  | .female => "K"

/-- The place of a gender when tables are ordered by code. -/
def index : Gender → Nat
  | .female => 0
  | .male => 1

/-- The gender of a code of either case, with blanks around it. -/
def ofText? (text : String) : Option Gender :=
  match (Text.trim text.toList).map Char.toUpper with
  | ['M'] => some .male
  | ['K'] => some .female
  | ['F'] => some .female
  | _ => none

/-- The gender in a document. -/
def read? {Node : Type} [Source Node] (node : Node) : Option Gender :=
  Source.choiceOf? [(.male, ["M"]), (.female, ["K", "F"])] node

end Gender

end GolfProgress
