/-!
# Full-text clauses

Keywords that a document has to match, in one field or in any.
-/

namespace SearchQuery

structure FullText where
  keywords : String
  field : String
  deriving DecidableEq, Repr

namespace FullText

/-- The name that stands for all fields. -/
def anyField : String := "*"

def anywhere (keywords : String) : FullText where
  keywords := keywords
  field := anyField

def isAnywhere (clause : FullText) : Bool :=
  clause.field == anyField

end FullText

end SearchQuery
