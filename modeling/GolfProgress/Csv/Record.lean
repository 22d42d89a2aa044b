/-!
# Records of a CSV file

A file of comma-separated values is cut into records and these into fields, all
still bytes.  A field may stand between quotes when the first byte is a quote;
inside, a quote is written twice, and what follows the closing quote belongs to
the field as it is.  Either of the two characters that end lines ends a record,
and lines without anything on them are no records.
-/

set_option autoImplicit false

namespace GolfProgress.Csv

/-- A record of fields. -/
abbrev Record := List (List UInt8)

/-- The byte between fields. -/
def comma : UInt8 := 44

/-- The byte around a quoted field. -/
def quote : UInt8 := 34

/-- Whether a byte ends a record. -/
def isEnd (byte : UInt8) : Bool := byte == 10 || byte == 13

/-- Where in a record a reader stands. -/
inductive Place where
  | recordStart | fieldStart | inside | quoted
  /-- After a quote inside quotes, which closes them unless another follows. -/
  | closing
deriving DecidableEq, Repr, Inhabited

/-- The records of some bytes.  `field` holds the bytes of the field so far and
`fields` the fields of the record before it, both latest first. -/
def recordsFrom (place : Place) (field : List UInt8) (fields : Record) :
    List UInt8 → List Record
  | [] => if place = .recordStart then [] else [(field.reverse :: fields).reverse]
  | byte :: rest =>
    match place with
    | .quoted =>
      if byte == quote then recordsFrom .closing field fields rest
      else recordsFrom .quoted (byte :: field) fields rest
    | place =>
      if isEnd byte then
        if place = .recordStart then recordsFrom .recordStart [] [] rest
        else (field.reverse :: fields).reverse :: recordsFrom .recordStart [] [] rest
      else if byte == comma then recordsFrom .fieldStart [] (field.reverse :: fields) rest
      else if byte == quote && place = .closing then
        recordsFrom .quoted (byte :: field) fields rest
      else if byte == quote && place ≠ .inside then recordsFrom .quoted field fields rest
      else recordsFrom .inside (byte :: field) fields rest

/-- Bytes without the mark of UTF-8 in front of them. -/
def withoutMark : List UInt8 → List UInt8
  | 0xef :: 0xbb :: 0xbf :: rest => rest
  | bytes => bytes

/-- The records of a file. -/
def records (bytes : List UInt8) : List Record :=
  recordsFrom .recordStart [] [] (withoutMark bytes)

end GolfProgress.Csv
