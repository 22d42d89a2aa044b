import GolfProgress.Bytes.Sha256
import GolfProgress.Lz4.Compression
import GolfProgress.MessagePack.Source
import GolfProgress.Requirements.Table

/-!
# Files of requirement tables

A table is kept as compressed MessagePack, with its fields and those of its rows
by name.  The checksum of a file tells whether it has changed since.
-/

set_option autoImplicit false

namespace GolfProgress

def Requirement.toMessagePack (row : Requirement) : MessagePack :=
  .record [
    ("category", .ofText row.category.code),
    ("gender", .ofText row.gender.code),
    ("test_number", .natural row.test.toNat),
    ("minimum_value", .float row.minimum),
    ("is_hard_constraint", .bool row.hard),
    ("domain", .ofText row.domain.code)]

/-- What is wrong with the content of a table file. -/
inductive TableFault where
  /-- It is not what compression writes. -/
  | compression
  /-- It is compressed, but not a table. -/
  | encoding
deriving DecidableEq, Repr, Inhabited

namespace RequirementTable

def toMessagePack (table : RequirementTable) : MessagePack :=
  .record [
    ("schema_version", .ofText table.schemaVersion),
    ("generated_at", .ofText table.generatedAt),
    ("rows", .list (table.rows.map Requirement.toMessagePack))]

/-- The bytes of a table before they are compressed. -/
def encoded (table : RequirementTable) : List UInt8 := table.toMessagePack.bytes

/-- The content of the file of a table. -/
def toFile (table : RequirementTable) : List UInt8 := Lz4.compress table.encoded

def ofFile (content : List UInt8) : Except TableFault RequirementTable :=
  match Lz4.decompress? content with
  | none => .error .compression
  | some bytes =>
    match (MessagePack.ofBytes? bytes).bind read? with
    | none => .error .encoding
    | some table => .ok table

end RequirementTable

/-- The checksum of a file: its SHA-256 digest in small hexadecimal digits. -/
def checksum (content : List UInt8) : String := Sha256.hexDigest content

/-- Whether a text is the checksum of a file, in any case and with blanks around it. -/
def checksumMatches (content : List UInt8) (expected : String) : Bool :=
  Text.lowerAscii (checksum content) == Text.lowerAscii (Text.trimString expected)

/-- What is known of a table that has been written. -/
structure TableMetadata where
  schemaVersion : String
  /-- The checksum of the file. -/
  checksum : String
  /-- When the table was generated. -/
  createdAt : String
  rowCount : UInt64
  /-- The size before compression, in bytes. -/
  encodedSize : UInt64
  /-- The size of the file, in bytes. -/
  compressedSize : UInt64
  /-- The size of the file as a part of the size before compression. -/
  ratio : Binary64
deriving DecidableEq, Inhabited

namespace TableMetadata

/-- The metadata of a table and the content of its file. -/
def ofTable (table : RequirementTable) (content : List UInt8) : TableMetadata :=
  let size := table.encoded.length
  { schemaVersion := table.schemaVersion
    checksum := GolfProgress.checksum content
    createdAt := table.generatedAt
    rowCount := UInt64.ofNat table.rows.length
    encodedSize := UInt64.ofNat size
    compressedSize := UInt64.ofNat content.length
    ratio := if size = 0 then 1 else Binary64.ofInt content.length / Binary64.ofInt size }

def toJson (metadata : TableMetadata) : Json :=
  .object [
    ("schema_version", .text metadata.schemaVersion),
    ("checksum", .text metadata.checksum),
    ("created_at", .text metadata.createdAt),
    ("row_count", .nat metadata.rowCount.toNat),
    ("original_size", .nat metadata.encodedSize.toNat),
    ("compressed_size", .nat metadata.compressedSize.toNat),
    ("compression_ratio", .float metadata.ratio)]

/-- The metadata in a document. -/
def read? {Node : Type} [Source Node] (node : Node) : Option TableMetadata := do
  let fields ← Source.fields?
    ["schema_version", "checksum", "created_at", "row_count", "original_size",
      "compressed_size", "compression_ratio"] node
  return {
    schemaVersion := ← fields.required "schema_version" Source.text?
    checksum := ← fields.required "checksum" Source.text?
    createdAt := ← fields.required "created_at" Source.text?
    rowCount := ← fields.required "row_count" Source.uint64?
    encodedSize := ← fields.required "original_size" Source.uint64?
    compressedSize := ← fields.required "compressed_size" Source.uint64?
    ratio := ← fields.required "compression_ratio" Source.number? }

end TableMetadata

end GolfProgress
