import SearchQuery.Dictionary
import SearchQuery.Spelling

/-!
# Correspondences

Which key of a payload stands for which attribute of a record.  Overrides come first, then the
primary key and the declared attributes, each under the first of its spellings that is found, and at
last the key `id`, which stands for the primary key if nothing else does.  A key stands for one
attribute and an attribute has one key: what is taken stays taken.
-/

namespace SearchQuery

/-- Pairs of a key and the attribute that it stands for, in the order in which they were found. -/
structure Correspondence where
  pairs : List (String × String) := []
  deriving DecidableEq, Repr

namespace Correspondence

def target? (c : Correspondence) (source : String) : Option String :=
  (c.pairs.find? fun p => p.1 == source).map (·.2)

def resolve (c : Correspondence) (source : String) : String :=
  (c.target? source).getD source

/-- One pair more, unless its key or its attribute is taken. -/
def claim? (c : Correspondence) (source target : String) : Option Correspondence :=
  if c.pairs.any fun p => p.1 == source || p.2 == target then none
  else some { pairs := c.pairs ++ [(source, target)] }

def claim (c : Correspondence) (source target : String) : Correspondence :=
  (c.claim? source target).getD c

/-- The key of that name, or else the first that differs from it in letter case alone. -/
def lookup? (keys : List String) (name : String) : Option String :=
  if name ∈ keys then some name
  else keys.find? fun key => Text.lowercase key == Text.lowercase name

def override (keys : List String) (c : Correspondence) (o : String × String) : Correspondence :=
  match lookup? keys o.1 with
  | some source => c.claim source o.2
  | none => c

def claimSpelled? (keys : List String) (c : Correspondence) (target : String)
    (spelling : Spelling) : Option Correspondence :=
  let spelled := spelling.apply target
  if spelled.isEmpty then none
  else (lookup? keys spelled).bind fun source => c.claim? source target

def claimAttribute (keys : List String) (c : Correspondence) (target : String) :
    Correspondence :=
  (Spelling.all.findSome? (claimSpelled? keys c target)).getD c

def claimId (keys : List String) (primaryKey : String) (c : Correspondence) : Correspondence :=
  match lookup? keys "id" with
  | some source => c.claim source primaryKey
  | none => c

/-- The names that are not empty, each once, in the order in which they first appear. -/
def distinctNames (names : List String) : List String :=
  names.foldl (fun seen name => if name.isEmpty || seen.contains name then seen else seen ++ [name])
    []

/-- The correspondence between the keys of a payload and the attributes of a record. -/
def build (keys : List String) (primaryKey : String) (attributes : List String)
    (overrides : List (String × String)) : Correspondence :=
  let overridden := overrides.foldl (override keys) {}
  let named := (distinctNames (primaryKey :: attributes)).foldl (claimAttribute keys) overridden
  claimId keys primaryKey named

/-- The payload under the names of attributes.  A key that stands for no attribute keeps its name,
unless an attribute with a key of its own has that name. -/
def apply {α : Type} (c : Correspondence) (payload : Dictionary α) : Dictionary α :=
  let kept := payload.entries.filter fun e => (c.target? e.1).isNone
  let renamed := payload.entries.filterMap fun e => (c.target? e.1).map fun t => (t, e.2)
  (Dictionary.ofList kept).insertAll renamed

end Correspondence

end SearchQuery
