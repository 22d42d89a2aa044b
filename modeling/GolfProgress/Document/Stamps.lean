import GolfProgress.Calendar.Text
import GolfProgress.Document.Source
import GolfProgress.Uuid

/-!
# Dates, instants and identifiers in documents

All three are kept in documents as texts.
-/

set_option autoImplicit false

namespace GolfProgress

variable {Node : Type} [Source Node]

/-- The date in a document. -/
def Date.read? (node : Node) : Option Date := (Source.text? node).bind Date.ofText?

/-- The instant in a document. -/
def Instant.read? (node : Node) : Option Instant := (Source.text? node).bind Instant.ofText?

/-- The identifier in a document. -/
def Uuid.read? (node : Node) : Option Uuid := (Source.text? node).bind Uuid.ofText?

end GolfProgress
