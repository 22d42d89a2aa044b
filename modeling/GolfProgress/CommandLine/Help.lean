/-!
# Pages of help

A page of help says what a command is for, how it is written, and what may stand
in it: sections of entries, each a term with its text beside it.  Texts begin in
one column and are filled to lines of a hundred characters.  Where that column
lies beyond the fortieth and a text would need a second line, all texts of the
section go below their terms.
-/

set_option autoImplicit false

namespace GolfProgress

def programName : String := "requirements_builder"

/-- A term and what it means, if that is said. -/
structure HelpEntry where
  term : String
  text : String := ""
deriving DecidableEq, Repr, Inhabited

/-- Entries of one kind. -/
structure HelpSection where
  title : String
  entries : List HelpEntry
deriving DecidableEq, Repr, Inhabited

structure HelpPage where
  about : String
  /-- How a command line is written. -/
  usage : String
  sections : List HelpSection := []
deriving DecidableEq, Repr, Inhabited

namespace HelpPage

/-- How many characters a line may hold. -/
def lineWidth : Nat := 100

/-- The words of a text in lines of a width, the latest line first; a word that is
wider has a line of its own. -/
def fillFrom (width : Nat) (lines : List String) : List String → List String
  | [] => lines
  | word :: words =>
    match lines with
    | [] => fillFrom width [word] words
    | line :: earlier =>
      if line.length + 1 + word.length ≤ width then
        fillFrom width ((line ++ " " ++ word) :: earlier) words
      else fillFrom width (word :: line :: earlier) words

/-- The lines of a text in a width, of which there is at least one. -/
def filled (width : Nat) (text : String) : List String :=
  (fillFrom width [] (text.splitOn " ")).reverse

/-- Some blanks. -/
def blanks (count : Nat) : String := String.ofList (List.replicate count ' ')

/-- The lines of an entry whose text begins in a column. -/
def besideTerm (column : Nat) (entry : HelpEntry) : List String :=
  let term := "  " ++ entry.term
  match filled (lineWidth - column) entry.text with
  | [] => [term]
  | first :: others =>
    (term ++ blanks (column - term.length) ++ first) :: others.map (blanks column ++ ·)

/-- The lines of an entry whose text goes below its term. -/
def belowTerm (entry : HelpEntry) : List String :=
  ("  " ++ entry.term) :: (filled (lineWidth - 10) entry.text).map (blanks 10 ++ ·)

/-- The lines of a section, after an empty one. -/
def sectionLines (part : HelpSection) : List String :=
  let widest := part.entries.foldl (fun width entry => max width entry.term.length) 0
  let column := widest + 4
  let crowded := decide (40 < column) &&
    part.entries.any fun entry => decide (lineWidth - column < entry.text.length)
  "" :: (part.title ++ ":") ::
    part.entries.flatMap (if crowded then belowTerm else besideTerm column)

def lines (page : HelpPage) : List String :=
  page.about :: "" :: ("Usage: " ++ programName ++ page.usage) ::
    page.sections.flatMap sectionLines

end HelpPage

end GolfProgress
