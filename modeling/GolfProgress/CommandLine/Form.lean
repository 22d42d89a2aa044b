import GolfProgress.CommandLine.Usage

/-!
# Command lines in long options

A command is described by a form: its switches, and its parameters with the
values that they take.  What is read is collected in a draft.  A value follows
its parameter after an equals sign or as the next word, unless that word begins
with a hyphen; it is judged when the next option or the end comes.
-/

set_option autoImplicit false

namespace GolfProgress

/-- A word of a command line. -/
inductive Word where
  /-- Two hyphens alone; no option follows. -/
  | divider
  /-- A name after two hyphens, perhaps with a value after an equals sign. -/
  | long (name : String) (value : Option String)
  /-- Letters after one hyphen. -/
  | letters (list : List Char)
  /-- Any other word. -/
  | plain (text : String)
deriving DecidableEq, Repr, Inhabited

/-- A name, perhaps with a value after an equals sign. -/
def Word.ofName (text : List Char) : Word :=
  let (name, rest) := text.span (· ≠ '=')
  .long (String.ofList name) (rest.tail?.map String.ofList)

def Word.ofText (text : String) : Word :=
  match text.toList with
  | ['-', '-'] => .divider
  | '-' :: '-' :: name => .ofName name
  | '-' :: letter :: rest => .letters (letter :: rest)
  | _ => .plain text

/-- A switch of a command. -/
structure Switch (Draft : Type) where
  name : String
  isGiven : Draft → Bool
  set : Draft → Draft

/-- An option of a command that takes a value. -/
structure Parameter (Draft : Type) where
  label : OptionLabel
  isRequired : Bool := false
  /-- Whether another value would be one too many. -/
  isGiven : Draft → Bool
  take : String → Draft → Except ValueFault Draft

/-- The options of a command. -/
structure Form (Draft : Type) where
  page : HelpPage
  switches : List (Switch Draft) := []
  parameters : List (Parameter Draft) := []

/-- How the options that every command has are shown with a value they do not take. -/
def commonOption? : String → Option String
  | "help" => some "--help"
  | "verbose" => some "--verbose..."
  | _ => none

/-- What has been read of a command line. -/
structure FormReading (Draft : Type) where
  draft : Draft
  /-- The latest parameter whose value is not yet judged, and the value when it has come. -/
  pending : Option (Parameter Draft × Option String) := none

namespace FormReading

variable {Draft : Type}

def accept (parameter : Parameter Draft) (value : String) (draft : Draft) :
    Except UsageFault Draft :=
  if parameter.isGiven draft then .error (.repeated parameter.label)
  else (parameter.take value draft).mapError (.ofValue parameter.label value)

/-- The draft once the pending value has been judged. -/
def settle (reading : FormReading Draft) : Except UsageFault Draft :=
  match reading.pending with
  | none => .ok reading.draft
  | some (parameter, none) => .error (.valueMissing parameter.label)
  | some (parameter, some value) => accept parameter value reading.draft

def option (form : Form Draft) (reading : FormReading Draft) (name : String)
    (value : Option String) : Except UsageFault (FormReading Draft) := do
  match form.parameters.find? fun parameter => parameter.label.name = name with
  | some parameter =>
    let draft ← reading.settle
    match value with
    | none => return { draft, pending := some (parameter, none) }
    | some value => return { draft := ← accept parameter value draft }
  | none =>
    match form.switches.find? fun switch => switch.name = name with
    | none => throw (.unexpected ("--" ++ name))
    | some switch =>
      if let some value := value then throw (.valueSpare ("--" ++ name) value)
      let draft ← reading.settle
      if switch.isGiven draft then throw (.repeated { name })
      return { draft := switch.set draft }

/-- The reading after letters that followed a hyphen. -/
def letters (form : Form Draft) (reading : FormReading Draft) :
    List Char → Except Interruption (FormReading Draft)
  | [] => .ok reading
  | 'v' :: rest => do letters form { draft := ← reading.settle.mapError .usage } rest
  | 'h' :: _ => do
    let _ ← reading.settle.mapError .usage
    throw (.help form.page)
  | letter :: _ => .error (.usage (.unexpected (String.ofList ['-', letter])))

/-- The reading after a word that is no option. -/
def plain (reading : FormReading Draft) (text : String) :
    Except UsageFault (FormReading Draft) :=
  match reading.pending with
  | some (parameter, none) => .ok { reading with pending := some (parameter, some text) }
  | _ => .error (.unexpected text)

/-- The reading after a name that followed two hyphens. -/
def long (form : Form Draft) (reading : FormReading Draft) (name : String)
    (value : Option String) : Except Interruption (FormReading Draft) := do
  match commonOption? name, value with
  | none, value => (reading.option form name value).mapError .usage
  | some shown, some value => throw (.usage (.valueSpare shown value))
  | some _, none =>
    let draft ← reading.settle.mapError .usage
    if name = "help" then throw (.help form.page)
    return { draft }

end FormReading

namespace Form

variable {Draft : Type}

/-- The draft after the words of a command line. -/
def read (form : Form Draft) (reading : FormReading Draft) :
    List String → Except Interruption Draft
  | [] => reading.settle.mapError .usage
  | text :: rest => do
    match Word.ofText text with
    | .long name value => form.read (← reading.long form name value) rest
    | .letters list => form.read (← reading.letters form list) rest
    | .plain text => form.read (← (reading.plain text).mapError .usage) rest
    | .divider =>
      match rest with
      | [] => reading.settle.mapError .usage
      | word :: _ => throw (.usage (.unexpected word))

/-- The required parameters that a draft lacks. -/
def missing (form : Form Draft) (draft : Draft) : List OptionLabel :=
  (form.parameters.filter fun parameter =>
    parameter.isRequired && !parameter.isGiven draft).map (·.label)

end Form

end GolfProgress
