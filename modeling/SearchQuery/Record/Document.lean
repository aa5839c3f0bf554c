import SearchQuery.Record

/-!
# Documents

Records whose attributes are declared when the program runs.
-/

namespace SearchQuery

structure Document where
  declared : Schema := {}
  attributes : Dictionary AttributeValue := .empty
  highlight : Option Json := none
  persisted : Bool := false
  deriving Inhabited

namespace Document

/-- The names of indexes between commas, without blank space around them. -/
def indexNames (index : String) : List String :=
  ((Text.separated ',' index).map Text.trim).filter fun name => !name.isEmpty

def ofIndex (index : String) : Document where
  declared := { indexes := indexNames index }

/-- The name of the primary key, `id` if it is declared without a name. -/
def primaryKey (d : Document) : String :=
  if d.declared.primaryKey.isEmpty then "id" else d.declared.primaryKey

def schema (d : Document) : Schema :=
  { d.declared with primaryKey := d.primaryKey }

def get? (d : Document) (name : String) : Option AttributeValue :=
  d.attributes.get? name

def value? (d : Document) (name : String) : Option Json :=
  (d.get? name).map AttributeValue.toJson

def set (d : Document) (name : String) (value : AttributeValue) : Document :=
  { d with attributes := d.attributes.insert name value }

/-- Takes over the attributes of a hit beside the document's own, and its highlight in place of the
document's. -/
def fill (d : Document) (n : Normalized) : Document :=
  { d with attributes := d.attributes.insertAll n.attributes.entries, highlight := n.highlight }

/-- The attributes in the order of their names, and the highlight behind them. -/
def members (d : Document) : List (String × Json) :=
  (d.attributes.entries.map fun e => (e.1, e.2.inRecord))
    ++ (d.highlight.toList.map fun v => ("highlight", v))

end Document

instance : Record Document where
  schema := Document.schema
  fill := Document.fill
  setPersisted b d := { d with persisted := b }
  members := Document.members

/-- Documents have no relations. -/
instance {κ : Type} : Related κ Document where

end SearchQuery
