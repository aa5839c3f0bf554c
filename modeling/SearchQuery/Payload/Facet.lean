import SearchQuery.Json.Fields
import SearchQuery.Json.Printer

/-!
# Facets

The counts of documents by value that a search brings with its hits, under the names of the
aggregations that asked for them.
-/

namespace SearchQuery

structure Bucket where
  key : Json
  count : UInt64
  deriving Inhabited

namespace Bucket

def toJson (b : Bucket) : Json :=
  .object [("doc_count", .ofWord b.count), ("key", b.key)]

/-- The bucket with its key in front, as texts have it. -/
def inOrder (b : Bucket) : Json :=
  .object [("key", b.key), ("doc_count", .ofWord b.count)]

def ofJson? (v : Json) : Option Bucket := do
  match ← v.fields? [("key", .required), ("doc_count", .required)] with
  | [some key, some count] => return { key, count := ← count.asWord? }
  | _ => none

end Bucket

structure Facet where
  buckets : List Bucket := []
  deriving Inhabited

namespace Facet

def toJson (f : Facet) : Json :=
  .object [("buckets", .array (f.buckets.map Bucket.toJson))]

def ofJson? (v : Json) : Option Facet := do
  match ← v.fields? [("buckets", .defaulted)] with
  | [buckets] => return { buckets := ← Json.orDefault [] (Json.listOf? Bucket.ofJson?) buckets }
  | _ => none

end Facet

abbrev Facets := Dictionary Facet

namespace Facets

def toJson (fs : Facets) : Json :=
  .object (fs.entries.map fun (name, f) => (name, f.toJson))

def text (fs : Facets) : String :=
  (Json.object (fs.entries.map fun (name, f) =>
    (name, .object [("buckets", .array (f.buckets.map Bucket.inOrder))]))).text

def ofJson? (v : Json) : Option Facets :=
  v.dictionaryOf? Facet.ofJson?

end Facets

end SearchQuery
