import SearchQuery.Correspondence
import SearchQuery.Payload
import SearchQuery.Record

/-!
# Hydration

Records made from what the engine has found.  The identifier of a hit joins its fields under the
name `id`, the fields take the names of the attributes that they stand for, and each value is cast
as its attribute declares.
-/

namespace SearchQuery

def Json.hasContent : Json → Bool
  | .null => false
  | .object members => !members.isEmpty
  | .array items => !items.isEmpty
  | .string s => !s.isEmpty
  | _ => true

/-- The second that a value stands for: a whole number, or a text of nothing but digits. -/
def Json.asSecond? : Json → Option Int
  | .string s =>
    let digits := s.toList
    if !digits.isEmpty && digits.all Char.isDigit then
      (signedWord? (Decimal.digitsValue digits)).map Int64.toInt
    else none
  | v => v.asInt64?.map Int64.toInt

/-- The truth value that `0` and `1` stand for, as numbers or texts. -/
def Json.asFlag? : Json → Option Bool
  | .number (.integer 0) => some false
  | .number (.integer 1) => some true
  | .string "0" => some false
  | .string "1" => some true
  | _ => none

/-- The value as its cast makes it.  A value that cannot be cast stays as it is. -/
def Cast.apply (cast : Option Cast) (v : Json) : AttributeValue :=
  match cast with
  | some .dateTime =>
    match v.asSecond?.bind Timestamp.ofSecond? with
    | some t => .timestamp t
    | none => .json v
  | some .boolean =>
    match v.asFlag? with
    | some b => .json (.boolean b)
    | none => .json v
  | _ => .json v

namespace Schema

/-- The cast of an attribute: the first that is declared for it. -/
def castOf? (s : Schema) (name : String) : Option Cast :=
  (s.casts.find? fun c => c.1 == name).map (·.2)

def correspondence (s : Schema) (keys : List String) : Correspondence :=
  .build keys s.primaryKey s.fillable s.overrides

/-- Moves the value of `id` to the primary key, if that has none. -/
def promoteId (s : Schema) (attributes : Dictionary Json) : Dictionary Json :=
  if s.primaryKey == "id" then attributes
  else if !((attributes.get? s.primaryKey).all Json.isBlank) then attributes
  else match attributes.get? "id" with
    | some id =>
      if id.isBlank then attributes else (attributes.erase "id").insert s.primaryKey id
    | none => attributes

/-- The fields of a hit with its identifier among them, unless that is blank. -/
def withId (id : Option Json) (data : Dictionary Json) : Dictionary Json :=
  match id.filter fun v => !v.isBlank with
  | some v => data.insert "id" v
  | none => data

/-- What a hit with this identifier, these fields and this highlight has for a record. -/
def normalize (s : Schema) (id : Option Json) (data : Dictionary Json) (highlight : Option Json) :
    Normalized :=
  let raw := withId id data
  let mapped := s.promoteId ((s.correspondence raw.names).apply raw)
  { attributes := mapped.mapValues fun name v => Cast.apply (s.castOf? name) v
    highlight := highlight.filter Json.hasContent }

end Schema

/-- What a type of hits shows of them. -/
class HitView (β : Type) where
  id : β → Option Json
  data : β → Dictionary Json
  highlight : β → Except Error (Option Json) := fun _ => .ok none

instance : HitView Hit where
  id := Hit.id
  data := Hit.source
  highlight h := .ok h.highlight

/-- A hit of a body of rows.  Its identifier is the first of `_id` and `id` that is not blank. -/
def Hit.ofEntry (entry : Json) : Hit where
  id := ["_id", "id"].findSome? fun name => (entry.member? name).filter fun v => !v.isBlank
  source := match entry.member? "_source" with
    | some (.object members) => .ofList members
    | _ => .empty
  highlight := entry.member? "highlight"

namespace Record

variable {α : Type} [Record α]

/-- The record of one hit.  A highlight that cannot be read counts as none. -/
def ofHit {β : Type} [HitView β] (prototype : α) (hit : β) : α :=
  let highlight := (HitView.highlight hit).toOption.join
  let normalized := (schema prototype).normalize (HitView.id hit) (HitView.data hit) highlight
  setPersisted true (fill prototype normalized)

def ofHits {β : Type} [HitView β] (prototype : α) (hits : List β) : List α :=
  hits.map (ofHit prototype)

def ofPayload (prototype : α) : Payload → List α
  | .hits response => ofHits prototype response.hits
  | .rows body => ofHits prototype ((rowEntries body).map Hit.ofEntry)

end Record

end SearchQuery
