import SearchQuery.Record.Document
import SearchQuery.Sql.Statement

/-!
# Linked documents

Documents with relations: those that are known are loaded by a statement of their own, and the
record notes which statement it was.
-/

namespace SearchQuery

structure LinkedDocument where
  document : Document
  /-- The relations that can be loaded. -/
  relations : List String := []
  /-- The relations that have been loaded, with their statements. -/
  loaded : List (String × String) := []

variable {κ : Type} [Customizer κ]

def EagerLoad.sql (load : EagerLoad κ) : String :=
  (load.query.statement load.relation {}).text

namespace LinkedDocument

/-- Loads relations one after the other.  The first that is not known ends the loading. -/
def load (relations : List String) :
    List (EagerLoad κ) → List LinkedDocument → Except Error (List LinkedDocument)
  | [], records => .ok records
  | l :: rest, records =>
    if relations.contains l.relation then
      load relations rest
        (records.map fun r => { r with loaded := r.loaded ++ [(l.relation, l.sql)] })
    else .error (.relation ("unknown relation '" ++ l.relation ++ "'"))

end LinkedDocument

instance : Record LinkedDocument where
  schema r := r.document.schema
  fill r n := { r with document := r.document.fill n }
  setPersisted b r := { r with document := Record.setPersisted b r.document }
  members r := r.document.members

instance : Related κ LinkedDocument where
  loadRelations prototype loads records := LinkedDocument.load prototype.relations loads records

end SearchQuery
