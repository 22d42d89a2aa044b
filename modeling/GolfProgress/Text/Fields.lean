/-!
# Texts divided by a mark

`fieldsBy` cuts a text at every occurrence of a mark and drops the marks;
`joinedBy` puts the marks back.  A text without the mark is one field, so no
text has no field at all.
-/

set_option autoImplicit false

namespace GolfProgress.Text

/-- The parts of a text between the occurrences of a mark. -/
def fieldsBy (mark : Char) : List Char → List (List Char)
  | [] => [[]]
  | c :: rest =>
    if c = mark then [] :: fieldsBy mark rest
    else
      match fieldsBy mark rest with
      | [] => [[c]]
      | first :: others => (c :: first) :: others

/-- Parts with a mark between each two. -/
def joinedBy (mark : Char) : List (List Char) → List Char
  | [] => []
  | [single] => single
  | first :: second :: others => first ++ mark :: joinedBy mark (second :: others)

/-- Every text has a first field. -/
theorem fieldsBy_ne_nil (mark : Char) (text : List Char) : fieldsBy mark text ≠ [] := by
  cases text with
  | nil => simp [fieldsBy]
  | cons c rest =>
    simp only [fieldsBy]
    split
    · simp
    · split <;> simp

/-- Joining the fields of a text gives the text back. -/
theorem joinedBy_fieldsBy (mark : Char) (text : List Char) :
    joinedBy mark (fieldsBy mark text) = text := by
  induction text with
  | nil => rfl
  | cons c rest ih =>
    simp only [fieldsBy]
    split
    · rename_i isMark
      cases parts : fieldsBy mark rest with
      | nil => exact absurd parts (fieldsBy_ne_nil mark rest)
      | cons first others =>
        rw [parts] at ih
        simp [joinedBy, isMark, ih]
    · cases parts : fieldsBy mark rest with
      | nil => exact absurd parts (fieldsBy_ne_nil mark rest)
      | cons first others =>
        rw [parts] at ih
        cases others with
        | nil => simpa [joinedBy] using ih
        | cons second others => simpa [joinedBy] using ih

end GolfProgress.Text
