/-!
# Characters of a YAML stream

YAML is read by lines and columns.  A stream becomes a list of spots, each a
character with the place where it stands.  Every spelling of a line end that
means the same is one character here, so one spot is one step of the reader.
-/

set_option autoImplicit false

namespace GolfProgress.Yaml

/-- Whether a stream may hold a character. -/
def isAllowed (c : Char) : Bool :=
  let code := c.toNat
  code == 9 || code == 10 || code == 13 || (0x20 ≤ code && code ≤ 0x7E) || code == 0x85 ||
    (0xA0 ≤ code && code ≤ 0xD7FF) || (0xE000 ≤ code && code ≤ 0xFFFD) || 0x10000 ≤ code

/-- The mark that tells the byte order of a stream.  It says nothing at the
beginning of a line, where it still fills a column. -/
def byteOrderMark : Char := '\ufeff'

/-- Whether a character ends a line. -/
def isBreak (c : Char) : Bool := c == '\n' || c == '\u2028' || c == '\u2029'

/-- Whether a character is blank inside a line. -/
def isBlank (c : Char) : Bool := c == ' ' || c == '\t'

/-- Whether a character may stand in a name. -/
def isWord (c : Char) : Bool := c.isAlphanum || c == '_' || c == '-'

/-- Whether a character opens, closes or divides a flow collection. -/
def isFlowMark (c : Char) : Bool :=
  c == ',' || c == '[' || c == ']' || c == '\x7b' || c == '\x7d'

/-- A text whose line ends of one meaning are all line feeds. -/
def unifyBreaks : List Char → List Char
  | [] => []
  | '\r' :: '\n' :: rest => '\n' :: unifyBreaks rest
  | '\r' :: rest => '\n' :: unifyBreaks rest
  | '\x85' :: rest => '\n' :: unifyBreaks rest
  | c :: rest => c :: unifyBreaks rest

/-- A character of a stream and where it stands. -/
structure Spot where
  char : Char
  line : Nat
  column : Nat
  /-- The number of octets before it on its line. -/
  octets : Nat
deriving Inhabited

/-- The spots of a text that begins at a given place. -/
def spotsFrom (line column octets : Nat) : List Char → List Spot
  | [] => []
  | c :: rest =>
    ⟨c, line, column, octets⟩ ::
      (if isBreak c then spotsFrom (line + 1) 0 0 rest
       else spotsFrom line (column + 1) (octets + c.utf8Size) rest)

/-- The spots of a stream, unless it holds a character that is not allowed. -/
def spots? (text : String) : Option (List Spot) :=
  let chars := text.toList
  if chars.all isAllowed then some (spotsFrom 0 0 0 (unifyBreaks chars)) else none

/-- Whether the next character is blank, ends a line, or is missing. -/
def atGap : List Spot → Bool
  | [] => true
  | spot :: _ => isBlank spot.char || isBreak spot.char

/-- Whether the next character is the given one. -/
def startsWith (c : Char) : List Spot → Bool
  | [] => false
  | spot :: _ => spot.char == c

/-- Whether a line begins with a mark of three equal characters. -/
def atLineMark (c : Char) : List Spot → Bool
  | first :: second :: third :: rest =>
    first.column == 0 && first.char == c && second.char == c && third.char == c && atGap rest
  | _ => false

/-- Whether a line begins with a mark between documents. -/
def atDocumentMark (spots : List Spot) : Bool := atLineMark '-' spots || atLineMark '.' spots

/-- Spots without the leading blanks of a line. -/
def skipBlanks (spots : List Spot) : List Spot := spots.dropWhile fun spot => isBlank spot.char

/-- Spots without what is left of a line when that is blank or a comment. -/
def skipLine? (spots : List Spot) : Option (List Spot) :=
  let rest := skipBlanks spots
  let rest := if startsWith '#' rest then rest.dropWhile fun spot => !isBreak spot.char else rest
  match rest with
  | [] => some []
  | spot :: after => if isBreak spot.char then some after else none

/-- The characters at the head of some spots that pass a test, and the rest. -/
def takeChars (test : Char → Bool) (spots : List Spot) : List Char × List Spot :=
  ((spots.takeWhile fun spot => test spot.char).map (·.char),
    spots.dropWhile fun spot => test spot.char)

end GolfProgress.Yaml
