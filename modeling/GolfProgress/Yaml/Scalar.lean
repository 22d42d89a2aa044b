import GolfProgress.Text.Digits
import GolfProgress.Yaml.Spot

/-!
# YAML scalars

The four ways to write a scalar: plain, between quotes of either kind, and as an
indented block whose lines are kept or folded.  Each reader takes the spots
after the mark that opens the scalar and gives its text and the spots behind it.
-/

set_option autoImplicit false

namespace GolfProgress.Yaml

/-- How a scalar is written. -/
inductive Style where
  | plain | quoted | literal | folded
deriving DecidableEq, Repr, Inhabited

/-! ## Folding -/

/-- What stands between two words of a scalar: blanks, or line ends. -/
structure Seam where
  /-- Whether a line has ended; later blanks are indentation then. -/
  broken : Bool := false
  /-- The blanks of a seam inside a line, latest first. -/
  blanks : List Char := []
  /-- The first line end, unless it was escaped. -/
  first : Option Char := none
  /-- The further line ends, latest first. -/
  more : List Char := []
deriving Inhabited

namespace Seam

/-- Whether nothing has been read since the last word. -/
def isEmpty (seam : Seam) : Bool := !seam.broken && seam.blanks.isEmpty

/-- A seam with one more blank or line end. -/
def add (seam : Seam) (c : Char) : Seam :=
  if isBreak c then
    if seam.broken then { seam with more := c :: seam.more }
    else { broken := true, first := some c }
  else if seam.broken then seam
  else { seam with blanks := c :: seam.blanks }

/-- What a seam stands for, latest first: a single line feed folds to a space. -/
def folded (seam : Seam) : List Char :=
  if seam.broken then
    match seam.first with
    | none => seam.more
    | some '\n' => if seam.more = [] then [' '] else seam.more
    | some c => seam.more ++ [c]
  else seam.blanks

end Seam

/-! ## Plain scalars -/

/-- A plain scalar from its first character on, and whether a line has ended
behind it.  Lines after the first begin at the column `indent` or later, unless
the scalar stands in a flow collection. -/
def plainFrom? (flow : Bool) (indent : Int) (text : List Char) (seam : Seam) :
    List Spot → Option (String × List Spot × Bool)
  | [] => some (String.ofList text.reverse, [], seam.broken)
  | spot :: rest =>
    let c := spot.char
    if isBlank c && seam.broken && decide ((spot.column : Int) < indent) && c == '\t' then none
    else if isBlank c || isBreak c then plainFrom? flow indent text (seam.add c) rest
    else if (!seam.isEmpty && ((!flow && decide ((spot.column : Int) < indent)) || c == '#' ||
          atDocumentMark (spot :: rest))) ||
        (c == ':' && atGap rest) || (flow && isFlowMark c) then
      some (String.ofList text.reverse, spot :: rest, seam.broken)
    else if flow && c == ':' && (rest.head?.any fun next => isFlowMark next.char ||
        next.char == '?') then none
    else plainFrom? flow indent (c :: (seam.folded ++ text)) {} rest

/-! ## Quoted scalars -/

/-- The character of a one-letter escape. -/
def letterEscape? : Char → Option Char
  | '0' => some '\x00'
  | 'a' => some '\x07'
  | 'b' => some '\x08'
  | 't' => some '\t'
  | '\t' => some '\t'
  | 'n' => some '\n'
  | 'v' => some '\x0b'
  | 'f' => some '\x0c'
  | 'r' => some '\r'
  | 'e' => some '\x1b'
  | ' ' => some ' '
  | '\x22' => some '\x22'
  | '/' => some '/'
  | '\\' => some '\\'
  | 'N' => some '\x85'
  | '_' => some '\xa0'
  | 'L' => some '\u2028'
  | 'P' => some '\u2029'
  | _ => none

/-- How many hexadecimal digits follow the letter of a numeric escape. -/
def escapeWidth? : Char → Option Nat
  | 'x' => some 2
  | 'u' => some 4
  | 'U' => some 8
  | _ => none

/-- The character of an escape whose backslash is behind, and the spots after it. -/
def escape? : List Spot → Option (Char × List Spot)
  | [] => none
  | letter :: rest =>
    match escapeWidth? letter.char with
    | none => (letterEscape? letter.char).map fun c => (c, rest)
    | some width => do
      let digits := (rest.take width).map (·.char)
      let value ← Text.hexValueOf? digits
      if digits.length = width ∧ value.isValidChar then
        some (Char.ofNat value, rest.drop width)
      else none

/-- A scalar between quotes whose opening quote is behind. -/
def quotedFrom? (quote : Char) : Nat → List Char → Seam → List Spot →
    Option (String × List Spot)
  | 0, _, _, _ => none
  | _, _, _, [] => none
  | fuel + 1, text, seam, spot :: rest =>
    let c := spot.char
    if isBlank c || isBreak c then quotedFrom? quote fuel text (seam.add c) rest
    else
      let text := seam.folded ++ text
      if atDocumentMark (spot :: rest) then none
      else if c == quote then
        if quote == '\'' && startsWith '\'' rest then
          quotedFrom? quote fuel (c :: text) {} (rest.drop 1)
        else some (String.ofList text.reverse, rest)
      else if quote == '\x22' && c == '\\' then
        if rest.head?.any fun next => isBreak next.char then
          quotedFrom? quote fuel text { broken := true } (rest.drop 1)
        else do
          let (c, rest) ← escape? rest
          quotedFrom? quote fuel (c :: text) {} rest
      else quotedFrom? quote fuel (c :: text) {} rest

/-- A scalar between quotes. -/
def quoted? (quote : Char) (spots : List Spot) : Option (String × List Spot) :=
  quotedFrom? quote (spots.length + 1) [] {} spots

/-! ## Block scalars -/

/-- What becomes of the line ends after the last line of a block. -/
inductive Chomping where
  | clip | strip | keep
deriving DecidableEq, Repr, Inhabited

def Chomping.ofMark? : Char → Option Chomping
  | '+' => some .keep
  | '-' => some .strip
  | _ => none

/-- A chomping mark, if there is one. -/
def takeChomping (spots : List Spot) : Option Chomping × List Spot :=
  match spots with
  | spot :: rest =>
    match Chomping.ofMark? spot.char with
    | some chomping => (some chomping, rest)
    | none => (none, spots)
  | [] => (none, [])

/-- A digit that says how far a block is indented, if there is one. -/
def takeIndentation? (spots : List Spot) : Option (Option Nat × List Spot) :=
  match spots with
  | spot :: rest =>
    if spot.char == '0' then none
    else if spot.char.isDigit then some (some (Text.digitValue spot.char), rest)
    else some (none, spots)
  | [] => some (none, [])

/-- The chomping and the indentation of a block, in either order. -/
def blockHeader? (spots : List Spot) : Option (Chomping × Option Nat × List Spot) := do
  match takeChomping spots with
  | (some chomping, rest) =>
    let (indentation, rest) ← takeIndentation? rest
    return (chomping, indentation, ← skipLine? rest)
  | (none, rest) =>
    let (indentation, rest) ← takeIndentation? rest
    let (chomping, rest) := if indentation.isSome then takeChomping rest else (none, rest)
    return (chomping.getD .clip, indentation, ← skipLine? rest)

/-- The line ends before the next line of a block, latest first, with the
greatest column reached.  Without a known indentation every space counts as
indentation. -/
def blockGap? (indent : Option Nat) (breaks : List Char) (widest : Nat) :
    List Spot → Option (List Char × Nat × List Spot)
  | [] => some (breaks, widest, [])
  | spot :: rest =>
    let inside := match indent with
      | none => true
      | some indent => spot.column < indent
    let widest := max widest spot.column
    if inside && spot.char == ' ' then blockGap? indent breaks widest rest
    else if inside && spot.char == '\t' then none
    else if isBreak spot.char then blockGap? indent (spot.char :: breaks) widest rest
    else some (breaks, widest, spot :: rest)

/-- The text of a block so far. -/
structure BlockText where
  /-- The lines read, latest character first. -/
  text : List Char := []
  /-- The end of the last line. -/
  lineEnd : List Char := []
  /-- The empty lines after it, latest first. -/
  empties : List Char := []
  /-- Whether the last line began with a blank. -/
  indented : Bool := false

namespace BlockText

/-- The text with what lies between its last line and a next one. -/
def joined (block : BlockText) (style : Style) (indented : Bool) : List Char :=
  if style = .folded && block.lineEnd = ['\n'] && !block.indented && !indented then
    if block.empties = [] then ' ' :: block.text else block.empties ++ block.text
  else block.empties ++ block.lineEnd ++ block.text

/-- The text with the line ends after its last line chomped. -/
def finished (block : BlockText) (chomping : Chomping) : String :=
  String.ofList (List.reverse <| match chomping with
    | .strip => block.text
    | .clip => block.lineEnd ++ block.text
    | .keep => block.empties ++ block.lineEnd ++ block.text)

end BlockText

def blockLines? (style : Style) (indent : Nat) : Nat → BlockText → List Spot →
    Option (BlockText × List Spot)
  | 0, _, _ => none
  | _, block, [] => some (block, [])
  | fuel + 1, block, spot :: rest =>
    if spot.column ≠ indent then some (block, spot :: rest)
    else do
      let indented := isBlank spot.char
      let (line, after) := takeChars (fun c => !isBreak c) (spot :: rest)
      let (empties, _, next) ← blockGap? (some indent) [] 0 (after.drop 1)
      blockLines? style indent fuel
        { text := line.reverse ++ block.joined style indented
          lineEnd := (after.take 1).map (·.char), empties, indented } next

/-- A block scalar whose opening mark is behind, inside a node indented to the
column `parent`, which is negative at the top. -/
def block? (style : Style) (parent : Int) (spots : List Spot) :
    Option (String × List Spot) := do
  let (chomping, indentation, rest) ← blockHeader? spots
  let known := indentation.map fun width => (max parent 0).toNat + width
  let (empties, widest, rest) ← blockGap? known [] 0 rest
  let indent := known.getD (max widest (max (parent + 1) 1).toNat)
  let (block, rest) ← blockLines? style indent (rest.length + 1) { empties } rest
  return (block.finished chomping, rest)

end GolfProgress.Yaml
