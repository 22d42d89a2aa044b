import GolfProgress.Yaml.Scalar
import GolfProgress.Yaml.Tag

/-!
# YAML tokens

A stream is cut into tokens that make its structure explicit: indentation opens
and closes block collections, and a key that is only known for one by the colon
behind it gets its mark afterwards.

A key without a mark of its own ends on the line where it begins, within 1024
octets.  A key that stands at the indentation of its collection must be one,
so that the stream does not read when no colon follows it.
-/

set_option autoImplicit false

namespace GolfProgress.Yaml

/-- A token of a stream. -/
inductive Token where
  | directive (line : Directive)
  | documentStart
  | documentEnd
  /-- The beginning of an indented list. -/
  | listStart
  /-- The beginning of an indented map. -/
  | mapStart
  /-- The end of an indented collection. -/
  | blockEnd
  | flowListStart
  | flowListEnd
  | flowMapStart
  | flowMapEnd
  /-- The mark before an item of an indented list. -/
  | item
  /-- The mark between the entries of a flow collection. -/
  | separator
  | key
  | value
  /-- A node that stands elsewhere under an anchor. -/
  | reference (name : String)
  | anchor (name : String)
  | tag (tag : Tag)
  | scalar (content : String) (style : Style)
deriving DecidableEq, Repr, Inhabited

/-- A place where a key may have begun. -/
structure KeyMark where
  /-- Whether what begins there can only be a key. -/
  required : Bool
  /-- The number of tokens before it. -/
  place : Nat
  spot : Spot
deriving Inhabited

/-- A stream read in part. -/
structure Lexer where
  rest : List Spot
  /-- The tokens read, latest first. -/
  tokens : List Token := []
  /-- How many tokens have been read. -/
  count : Nat := 0
  /-- The column of the innermost indented collection. -/
  indent : Int := -1
  /-- The columns of the collections around it, innermost first. -/
  indents : List Int := []
  /-- Whether a key may begin at the next token. -/
  keyAllowed : Bool := true
  /-- Where a key may have begun in the innermost collection. -/
  keyMark : Option KeyMark := none
  /-- The same for what lies around each open flow collection, innermost first. -/
  outer : List (Option KeyMark) := []

namespace Lexer

/-- Whether a flow collection is open. -/
def inFlow (lexer : Lexer) : Bool := !lexer.outer.isEmpty

/-- The lexer after one more token. -/
def push (lexer : Lexer) (token : Token) : Lexer :=
  { lexer with tokens := token :: lexer.tokens, count := lexer.count + 1 }

/-- The lexer with a token put behind the first `place` ones. -/
def insert (lexer : Lexer) (place : Nat) (token : Token) : Lexer :=
  let later := lexer.count - place
  { lexer with
    tokens := lexer.tokens.take later ++ token :: lexer.tokens.drop later
    count := lexer.count + 1 }

/-- The lexer with an indented collection opened at a column, unless it is open. -/
def indentTo (lexer : Lexer) (column place : Nat) (start : Token) : Lexer :=
  if !lexer.inFlow && decide (lexer.indent < column) then
    { lexer.insert place start with indent := column, indents := lexer.indent :: lexer.indents }
  else lexer

/-- The lexer with every collection indented beyond a column closed. -/
def dedent (column : Int) (lexer : Lexer) : List Int → Lexer
  | [] => { lexer with indents := [] }
  | outer :: indents =>
    if column < lexer.indent then
      dedent column { lexer.push .blockEnd with indent := outer } indents
    else { lexer with indents := outer :: indents }

/-- The same when no flow collection is open. -/
def dedentTo (lexer : Lexer) (column : Int) : Lexer :=
  if lexer.inFlow then lexer else lexer.dedent column lexer.indents

/-- The lexer without the place where a key may have begun; none if it had to be
a key. -/
def dropKey? (lexer : Lexer) : Option Lexer :=
  if lexer.keyMark.any (·.required) then none else some { lexer with keyMark := none }

/-- The lexer that notes that a key may begin at a spot. -/
def markKey? (lexer : Lexer) (spot : Spot) : Option Lexer :=
  if lexer.keyAllowed then do
    let required := !lexer.inFlow && lexer.indent == spot.column
    let lexer ← lexer.dropKey?
    return { lexer with keyMark := some ⟨required, lexer.count, spot⟩ }
  else some lexer

/-- The lexer that has forgotten a place for a key that is too far behind; none if
it had to be a key and is not.  The places around a flow collection are looked at
when it has ended. -/
def forgetFarKey? (lexer : Lexer) (spot : Spot) : Option Lexer :=
  let far := lexer.keyMark.any fun mark =>
    mark.spot.line < spot.line || mark.spot.octets + 1024 < spot.octets
  if far then lexer.dropKey? else some lexer

/-- What comes after blanks, comments and line ends, and whether a key may begin
there.  A tab is no blank where it would be indentation. -/
def skipGap (flow : Bool) (keyAllowed comment : Bool) : List Spot → Bool × List Spot
  | [] => (keyAllowed, [])
  | spot :: rest =>
    let c := spot.char
    if isBreak c then skipGap flow (keyAllowed || !flow) false rest
    else if comment then skipGap flow keyAllowed true rest
    else if c == ' ' || (c == byteOrderMark && spot.column == 0) ||
        (c == '\t' && (flow || !keyAllowed)) then
      skipGap flow keyAllowed false rest
    else if c == '#' then skipGap flow keyAllowed true rest
    else (keyAllowed, spot :: rest)

/-- The lexer at its next token. -/
def toToken (lexer : Lexer) : Lexer :=
  let (keyAllowed, rest) := skipGap lexer.inFlow lexer.keyAllowed false lexer.rest
  { lexer with keyAllowed, rest }

/-! ## One kind of token each -/

/-- A directive, whose percent sign is behind. -/
def takeDirective? (lexer : Lexer) (rest : List Spot) : Option Lexer := do
  let lexer ← (lexer.dedentTo (-1)).dropKey?
  let (line, rest) ← directive? rest
  return { lexer.push (.directive line) with keyAllowed := false, rest }

/-- A mark between documents. -/
def takeDocumentMark? (lexer : Lexer) (token : Token) (rest : List Spot) : Option Lexer := do
  let lexer ← (lexer.dedentTo (-1)).dropKey?
  return { lexer.push token with keyAllowed := false, rest }

/-- The opening bracket of a flow collection. -/
def takeFlowStart? (lexer : Lexer) (token : Token) (spot : Spot) (rest : List Spot) :
    Option Lexer := do
  let lexer ← lexer.markKey? spot
  return { lexer.push token with
    keyAllowed := true, keyMark := none, outer := lexer.keyMark :: lexer.outer, rest }

/-- The closing bracket of a flow collection. -/
def takeFlowEnd? (lexer : Lexer) (token : Token) (rest : List Spot) : Option Lexer := do
  let lexer ← lexer.dropKey?
  return { lexer.push token with
    keyAllowed := false, keyMark := lexer.outer.head?.join, outer := lexer.outer.tail, rest }

/-- The mark before an item or a key, which may open an indented collection. -/
def takeBlockMark? (lexer : Lexer) (token start : Token) (keyAllowed : Bool) (spot : Spot)
    (rest : List Spot) : Option Lexer :=
  if lexer.inFlow || lexer.keyAllowed then do
    let lexer ← (lexer.indentTo spot.column lexer.count start).dropKey?
    return { lexer.push token with keyAllowed, rest }
  else none

/-- The mark before a value. -/
def takeValue? (lexer : Lexer) (spot : Spot) (rest : List Spot) : Option Lexer :=
  match lexer.keyMark with
  | some mark =>
    let lexer := (lexer.insert mark.place .key).indentTo mark.spot.column mark.place .mapStart
    some { lexer.push .value with keyAllowed := false, keyMark := none, rest }
  | none =>
    if lexer.inFlow || lexer.keyAllowed then
      let lexer := lexer.indentTo spot.column lexer.count .mapStart
      some { lexer.push .value with keyAllowed := !lexer.inFlow, rest }
    else none

/-- A token that may begin a key. -/
def takeContent? (lexer : Lexer) (spot : Spot) (token : Token) (rest : List Spot) :
    Option Lexer := do
  let lexer ← lexer.markKey? spot
  return { lexer.push token with keyAllowed := false, rest }

/-- A block scalar, whose mark is behind. -/
def takeBlock? (lexer : Lexer) (style : Style) (rest : List Spot) : Option Lexer := do
  let lexer ← lexer.dropKey?
  let (content, rest) ← block? style lexer.indent rest
  return { lexer.push (.scalar content style) with keyAllowed := true, rest }

/-- A plain scalar from its first character on. -/
def takePlain? (lexer : Lexer) (spot : Spot) (rest : List Spot) : Option Lexer := do
  let lexer ← lexer.markKey? spot
  let (content, rest, broken) ←
    plainFrom? lexer.inFlow (lexer.indent + 1) [] {} (spot :: rest)
  return { lexer.push (.scalar content .plain) with keyAllowed := broken, rest }

/-- Whether a character at the head of some spots begins a plain scalar. -/
def startsPlain (flow : Bool) (c : Char) (rest : List Spot) : Bool :=
  if c == '-' then !(rest.head?.any fun next => isBlank next.char)
  else if c == '?' || c == ':' then !flow && !atGap rest
  else !(isBlank c || isBreak c || isFlowMark c ||
    ['#', '&', '*', '!', '|', '>', '\'', '\x22', '%', '@', '\x60'].contains c)

/-- The lexer after the token that begins at a spot. -/
def take? (lexer : Lexer) (spot : Spot) (rest : List Spot) : Option Lexer :=
  let c := spot.char
  let flow := lexer.inFlow
  if spot.column == 0 && c == '%' then lexer.takeDirective? rest
  else if atLineMark '-' (spot :: rest) then lexer.takeDocumentMark? .documentStart (rest.drop 2)
  else if atLineMark '.' (spot :: rest) then lexer.takeDocumentMark? .documentEnd (rest.drop 2)
  else if c == '[' then lexer.takeFlowStart? .flowListStart spot rest
  else if c == '\x7b' then lexer.takeFlowStart? .flowMapStart spot rest
  else if c == ']' then lexer.takeFlowEnd? .flowListEnd rest
  else if c == '\x7d' then lexer.takeFlowEnd? .flowMapEnd rest
  else if c == ',' then do
    return { (← lexer.dropKey?).push .separator with keyAllowed := true, rest }
  else if c == '-' && atGap rest then lexer.takeBlockMark? .item .listStart true spot rest
  else if c == '?' && (flow || atGap rest) then
    lexer.takeBlockMark? .key .mapStart (!flow) spot rest
  else if c == ':' && (flow || atGap rest) then lexer.takeValue? spot rest
  else if c == '*' then do
    let (name, rest) ← anchorName? rest
    lexer.takeContent? spot (.reference name) rest
  else if c == '&' then do
    let (name, rest) ← anchorName? rest
    lexer.takeContent? spot (.anchor name) rest
  else if c == '!' then do
    let (tag, rest) ← tag? flow rest
    lexer.takeContent? spot (.tag tag) rest
  else if c == '|' && !flow then lexer.takeBlock? .literal rest
  else if c == '>' && !flow then lexer.takeBlock? .folded rest
  else if c == '\'' || c == '\x22' then do
    let (content, rest) ← quoted? c rest
    lexer.takeContent? spot (.scalar content .quoted) rest
  else if startsPlain flow c rest then lexer.takePlain? spot rest
  else none

/-- All tokens of a stream. -/
def run? : Nat → Lexer → Option (List Token)
  | 0, _ => none
  | fuel + 1, lexer =>
    let lexer := lexer.toToken
    match lexer.rest with
    | [] => do
      let lexer ← (lexer.dedentTo (-1)).dropKey?
      return lexer.tokens.reverse
    | spot :: rest => do
      let lexer ← lexer.forgetFarKey? spot
      run? fuel (← (lexer.dedentTo spot.column).take? spot rest)

end Lexer

/-- The tokens of a stream. -/
def tokens? (text : String) : Option (List Token) := do
  let spots ← spots? text
  Lexer.run? (spots.length + 1) { rest := spots }

end GolfProgress.Yaml
