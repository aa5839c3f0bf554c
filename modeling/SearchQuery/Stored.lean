import SearchQuery.Json.Fields
import SearchQuery.Request

/-!
# Stored forms

How the parts of a query are kept as JSON values and read back.
-/

namespace SearchQuery

namespace Operator

def toJson (op : Operator) : Json :=
  .string op.name

def ofJson? (v : Json) : Option Operator :=
  v.choice?.bind ofName?

end Operator

namespace Bound

def toJson (b : Bound) : Json :=
  .string b.key

def ofJson? (v : Json) : Option Bound :=
  v.choice?.bind ofKey?

end Bound

namespace Vicinity

def toJson (v : Vicinity) : Json :=
  .ofMembers [("lat_field", .string v.latitudeField), ("lon_field", .string v.longitudeField),
    ("lat", .ofFloat v.latitude), ("lon", .ofFloat v.longitude),
    ("distance_meters", .ofFloat v.distance)]

def ofJson? (v : Json) : Option Vicinity := do
  match ← v.fields? [("lat_field", .required), ("lon_field", .required), ("lat", .required),
      ("lon", .required), ("distance_meters", .required)] with
  | [some latitudeField, some longitudeField, some latitude, some longitude, some distance] =>
    return {
      latitudeField := ← latitudeField.asString?
      longitudeField := ← longitudeField.asString?
      latitude := ← latitude.asFloat?
      longitude := ← longitude.asFloat?
      distance := ← distance.asFloat? }
  | _ => none

end Vicinity

namespace Operand

def boundToJson (b : Bound × Scalar) : Json :=
  .array [b.1.toJson, b.2.toJson]

def boundOfJson? : Json → Option (Bound × Scalar)
  | .array [bound, value] => do return (← Bound.ofJson? bound, ← Scalar.ofJson? value)
  | _ => none

def toJson : Operand → Json
  | .scalar v => .object [("Scalar", v.toJson)]
  | .list vs => .object [("List", .array (vs.map Scalar.toJson))]
  | .range bs => .object [("Range", .array (bs.map boundToJson))]
  | .vicinity v => .object [("Geo", v.toJson)]

def ofJson? : Json → Option Operand
  | .object [(shape, v)] =>
    match shape with
    | "Scalar" => (Scalar.ofJson? v).map .scalar
    | "List" => (v.listOf? Scalar.ofJson?).map .list
    | "Range" => (v.listOf? boundOfJson?).map .range
    | "Geo" => (Vicinity.ofJson? v).map .vicinity
    | _ => none
  | _ => none

end Operand

namespace FullText

def toJson (clause : FullText) : Json :=
  .object [("field", .string clause.field), ("keywords", .string clause.keywords)]

def ofJson? (v : Json) : Option FullText := do
  match ← v.fields? [("keywords", .required), ("field", .required)] with
  | [some keywords, some field] =>
    return { keywords := ← keywords.asString?, field := ← field.asString? }
  | _ => none

end FullText

namespace SortKey

def toJson (key : SortKey) : Json :=
  .object [("direction", .string key.direction.key), ("field", .string key.field)]

def ofJson? (v : Json) : Option SortKey := do
  match ← v.fields? [("field", .required), ("direction", .required)] with
  | [some field, some direction] =>
    return { field := ← field.asString?, direction := ← direction.choice?.bind Direction.ofKey? }
  | _ => none

end SortKey

namespace Aggregation

def kind : String := "terms"

def stored (a : Aggregation) : Json :=
  .object [("field", .string a.field), ("kind", .string kind), ("size", .ofOption .ofWord a.size)]

def ofStored? (v : Json) : Option Aggregation := do
  match ← v.fields? [("field", .required), ("size", .optional), ("kind", .required)] with
  | [some field, size, some aggregationKind] =>
    let size ← Json.nullable Json.asWord? size
    if aggregationKind.choice? = some kind then
      return { field := ← field.asString?, size }
    else none
  | _ => none

end Aggregation

namespace Settings

def toJson (s : Settings) : Json :=
  .ofMembers [("host", .string s.host), ("port", .ofInt s.port.toNat),
    ("username", .ofOption .string s.username), ("password", .ofOption .string s.password),
    ("transport", .string s.transport), ("timeout_secs", .ofWord s.timeoutSeconds),
    ("persistent", .boolean s.persistent), ("max_matches", .ofOption .ofWord s.maxMatches)]

def portOfJson? (v : Json) : Option UInt16 :=
  v.asWord?.bind fun n => if n.toNat < UInt16.size then some n.toUInt16 else none

def ofJson? (v : Json) : Option Settings := do
  let defaults : Settings := {}
  match ← v.fields? (["host", "port", "username", "password", "transport", "timeout_secs",
      "persistent", "max_matches"].map fun name => (name, .defaulted)) with
  | [host, port, username, password, transport, timeoutSeconds, persistent, maxMatches] =>
    return {
      host := ← Json.orDefault defaults.host Json.asString? host
      port := ← Json.orDefault defaults.port portOfJson? port
      username := ← Json.nullable Json.asString? username
      password := ← Json.nullable Json.asString? password
      transport := ← Json.orDefault defaults.transport Json.asString? transport
      timeoutSeconds := ← Json.orDefault defaults.timeoutSeconds Json.asWord? timeoutSeconds
      persistent := ← Json.orDefault defaults.persistent Json.asBoolean? persistent
      maxMatches := ← Json.orDefault defaults.maxMatches
        (fun v => Json.nullable Json.asWord? (some v)) maxMatches }
  | _ => none

end Settings

end SearchQuery
