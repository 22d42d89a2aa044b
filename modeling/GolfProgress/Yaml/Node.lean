import GolfProgress.Yaml.Token

/-!
# YAML documents

The tree of the one document of a stream.  A reference stays in the tree as the
number of its anchor, so that a node may even refer to itself; the document
keeps the nodes that anchors name.

An anchor is numbered by how many names are known when its node begins.  A name
given again thus gets a number that the next new name may share, and then the
node that begins last stands for both, also when it lies inside the other.
-/

set_option autoImplicit false

namespace GolfProgress.Yaml

/-- A node of a document. -/
inductive Node where
  /-- A scalar with its full tag, unless that is missing or no text. -/
  | scalar (content : String) (style : Style) (tag : Option String)
  | list (items : List Node)
  | map (entries : List (Node × Node))
  /-- The node of a numbered anchor. -/
  | reference (number : Nat)
deriving Inhabited

/-- A node that is left out. -/
def Node.empty : Node := .scalar "" .plain none

/-- A document read in part. -/
structure Reading where
  tokens : List Token
  /-- What the tag handles stand for. -/
  handles : List (String × List UInt8)
  /-- The known names of anchors with the numbers of their latest nodes. -/
  names : List (String × Nat) := []
  /-- The nodes of numbered anchors. -/
  anchored : List (Nat × Node) := []

namespace Reading

/-- The reading without its next token. -/
def skip (reading : Reading) : Reading := { reading with tokens := reading.tokens.tail }

/-- The octets of a full tag; none if its handle stands for nothing. -/
def fullTag? (reading : Reading) (tag : Tag) : Option (List UInt8) :=
  if tag.handle = "" then some tag.suffix
  else (reading.handles.lookup tag.handle).map (· ++ tag.suffix)

/-- The anchor and the tag of a node, in either order, and the reading behind them. -/
def properties? (reading : Reading) :
    Option (Option String × Option (List UInt8) × Reading) := do
  let (name, tag, rest) := match reading.tokens with
    | .anchor name :: .tag tag :: rest => (some name, some tag, rest)
    | .tag tag :: .anchor name :: rest => (some name, some tag, rest)
    | .anchor name :: rest => (some name, none, rest)
    | .tag tag :: rest => (none, some tag, rest)
    | rest => (none, none, rest)
  let reading := { reading with tokens := rest }
  match tag with
  | none => return (name, none, reading)
  | some tag => return (name, some (← reading.fullTag? tag), reading)

/-- The number of a node that begins with an anchor, and the reading that knows
it; no earlier node keeps the number. -/
def number (reading : Reading) (name : String) : Nat × Reading :=
  let number := reading.names.length
  (number, { reading with
    names := (name, number) :: reading.names.filter fun entry => entry.1 ≠ name
    anchored := reading.anchored.filter fun entry => entry.1 ≠ number })

/-- The reading with a node kept for its anchor, if it has one whose number no node
inside it has taken. -/
def keep (reading : Reading) (number : Option Nat) (node : Node) : Reading :=
  match number with
  | none => reading
  | some number =>
    if reading.anchored.any fun entry => entry.1 == number then reading
    else { reading with anchored := (number, node) :: reading.anchored }

/-- Whether the next token is one of some tokens. -/
def isAt (reading : Reading) (tokens : List Token) : Bool :=
  reading.tokens.head?.any tokens.contains

end Reading

mutual

/-- A node.  Block collections may begin only in a block context, and an
unindented list only as the value of a block map. -/
def node? (fuel : Nat) (block unindented : Bool) (reading : Reading) :
    Option (Node × Reading) :=
  match fuel with
  | 0 => none
  | fuel + 1 =>
    match reading.tokens with
    | .reference name :: _ => do
      return (.reference (← reading.names.lookup name), reading.skip)
    | _ => do
      let (name, tag, reading) ← reading.properties?
      let (number, reading) := match name with
        | none => (none, reading)
        | some name => let (number, reading) := reading.number name; (some number, reading)
      let (node, reading) ← match reading.tokens.head?, block, unindented with
        | some (.scalar content style), _, _ =>
          some (.scalar content style (tag.bind Bytes.toText?), reading.skip)
        | some .flowListStart, _, _ => flowItems? fuel true [] reading.skip
        | some .flowMapStart, _, _ => flowEntries? fuel true [] reading.skip
        | some .item, _, true => unindentedItems? fuel [] reading
        | some .listStart, true, _ => blockItems? fuel [] reading.skip
        | some .mapStart, true, _ => blockEntries? fuel [] reading.skip
        | _, _, _ =>
          if name.isSome || tag.isSome then
            some (.scalar "" .plain (tag.bind Bytes.toText?), reading)
          else none
      return (node, reading.keep number node)

/-- A node that is left out when one of some tokens comes next. -/
def nodeBefore? (fuel : Nat) (block unindented : Bool) (ends : List Token)
    (reading : Reading) : Option (Node × Reading) :=
  match fuel with
  | 0 => none
  | fuel + 1 =>
    if reading.isAt ends then some (.empty, reading) else node? fuel block unindented reading

/-- The items of an indented list. -/
def blockItems? (fuel : Nat) (items : List Node) (reading : Reading) :
    Option (Node × Reading) :=
  match fuel with
  | 0 => none
  | fuel + 1 =>
    match reading.tokens with
    | .item :: _ => do
      let (item, reading) ← nodeBefore? fuel true false [.item, .blockEnd] reading.skip
      blockItems? fuel (item :: items) reading
    | .blockEnd :: _ => some (.list items.reverse, reading.skip)
    | _ => none

/-- The items of a list at the indentation of the map around it. -/
def unindentedItems? (fuel : Nat) (items : List Node) (reading : Reading) :
    Option (Node × Reading) :=
  match fuel with
  | 0 => none
  | fuel + 1 =>
    match reading.tokens with
    | .item :: _ => do
      let (item, reading) ←
        nodeBefore? fuel true false [.item, .key, .value, .blockEnd] reading.skip
      unindentedItems? fuel (item :: items) reading
    | _ => some (.list items.reverse, reading)

/-- The entries of an indented map. -/
def blockEntries? (fuel : Nat) (entries : List (Node × Node)) (reading : Reading) :
    Option (Node × Reading) :=
  match fuel with
  | 0 => none
  | fuel + 1 =>
    match reading.tokens with
    | .key :: _ => do
      let (key, reading) ← nodeBefore? fuel true true [.key, .value, .blockEnd] reading.skip
      let (value, reading) ←
        if reading.isAt [.value] then
          nodeBefore? fuel true true [.key, .value, .blockEnd] reading.skip
        else some (.empty, reading)
      blockEntries? fuel ((key, value) :: entries) reading
    | .blockEnd :: _ => some (.map entries.reverse, reading.skip)
    | _ => none

/-- The items of a flow list; an item may be a map of one entry. -/
def flowItems? (fuel : Nat) (first : Bool) (items : List Node) (reading : Reading) :
    Option (Node × Reading) :=
  match fuel with
  | 0 => none
  | fuel + 1 =>
    if reading.isAt [.flowListEnd] then some (.list items.reverse, reading.skip)
    else if first || reading.isAt [.separator] then
      let reading := if first then reading else reading.skip
      if reading.isAt [.flowListEnd] then some (.list items.reverse, reading.skip)
      else if reading.isAt [.key] then do
        let (key, reading) ←
          if reading.skip.isAt [.value, .separator, .flowListEnd] then
            some (.empty, reading.skip.skip)
          else node? fuel false false reading.skip
        let (value, reading) ←
          if reading.isAt [.value] then
            nodeBefore? fuel false false [.separator, .flowListEnd] reading.skip
          else some (.empty, reading)
        flowItems? fuel false (.map [(key, value)] :: items) reading
      else do
        let (item, reading) ← node? fuel false false reading
        flowItems? fuel false (item :: items) reading
    else none

/-- The entries of a flow map; a value may be left out. -/
def flowEntries? (fuel : Nat) (first : Bool) (entries : List (Node × Node))
    (reading : Reading) : Option (Node × Reading) :=
  match fuel with
  | 0 => none
  | fuel + 1 =>
    if reading.isAt [.flowMapEnd] then some (.map entries.reverse, reading.skip)
    else if first || reading.isAt [.separator] then
      let reading := if first then reading else reading.skip
      if reading.isAt [.flowMapEnd] then some (.map entries.reverse, reading.skip)
      else if reading.isAt [.key] then do
        let (key, reading) ←
          nodeBefore? fuel false false [.value, .separator, .flowMapEnd] reading.skip
        let (value, reading) ←
          if reading.isAt [.value] then
            nodeBefore? fuel false false [.separator, .flowMapEnd] reading.skip
          else some (.empty, reading)
        flowEntries? fuel false ((key, value) :: entries) reading
      else do
        let (key, reading) ← node? fuel false false reading
        flowEntries? fuel false ((key, .empty) :: entries) reading
    else none

end

/-! ## The document of a stream -/

/-- A document; one without a root is empty. -/
structure Document where
  root : Option Node
  /-- The nodes of numbered anchors. -/
  anchored : List (Nat × Node)
deriving Inhabited

/-- The lines at the head of a stream that say how to read it. -/
def directives : List Token → List Directive
  | .directive line :: rest => line :: directives rest
  | _ => []

/-- What tag handles stand for when nothing else is said. -/
def commonHandles : List (String × List UInt8) :=
  [("!", Bytes.ofText "!"), ("!!", Bytes.ofText "tag:yaml.org,2002:")]

/-- What tag handles stand for after some directives; none if a directive comes
twice or asks for another version of the language. -/
def handles? (lines : List Directive) : Option (List (String × List UInt8)) :=
  let versions := lines.filterMap fun
    | .version major minor => some (major, minor)
    | .handle .. => none
  let handles := lines.filterMap fun
    | .handle name expansion => some (name, expansion)
    | .version .. => none
  let known (version : Nat × Nat) : Bool := version = (1, 1) || version = (1, 2)
  if versions.length ≤ 1 ∧ versions.all known ∧ (handles.map (·.1)).Nodup then
    some (handles ++ commonHandles)
  else none

/-- The root of a document and what is left of the stream behind it. -/
def root? (tokens : List Token) : Option (Node × Reading) := do
  let lines := directives tokens
  let fuel := 4 * tokens.length + 4
  let handles ← handles? lines
  match tokens.drop lines.length with
  | .documentStart :: rest =>
    let reading : Reading := { tokens := rest, handles }
    match rest with
    | [] | .documentStart :: _ | .documentEnd :: _ | .directive _ :: _ => some (.empty, reading)
    | _ => node? fuel true false reading
  | rest => if lines = [] then node? fuel true false { tokens := rest, handles } else none

/-- The document of a stream that holds no other. -/
def parse? (text : String) : Option Document := do
  match ← tokens? text with
  | [] => return ⟨none, []⟩
  | tokens =>
    let (root, reading) ← root? tokens
    if (reading.tokens.dropWhile (· == .documentEnd)).isEmpty then
      some ⟨some root, reading.anchored⟩
    else none

end GolfProgress.Yaml
